import RtcAsr.Plugin.Cancellation

/-!
# A connection has a send loop

While the service has a connection, its send loop is there, or a close is under way that will give
the connection up (`ServedWorld`).  This needs that closes end (`ClosesEnd`) and that a connection
is not completed while the service is marked as closed, since its send loop would then end at once.
-/

namespace RtcAsr.Plugin

/-- The send loop that the service refers to is there. -/
def Served (w : ServiceWorld) : Prop :=
  ∃ t pc, w.shared.sendTask = some t ∧ .sendLoop pc ∈ w.stack t

section moves

variable (config : LocalSTTConfig) (me next : TaskId) (s : Service)

end moves

/-! ## Steps -/

variable {config : LocalSTTConfig} {w : ServiceWorld} {t : TaskId} {signal : ServiceSignal}
  {f : Frame} {fs : List Frame}

/-- The frame below the innermost one waits for its call. -/
lemma pending_of_stack (hw : ServiceShaped config w) {g : Frame} {gs : List Frame}
    (hf : w.stack t = f :: g :: gs) : g.pending = some f.call := by
  have hnested : (service config).NestedStack (f :: g :: gs) := hf ▸ hw.shaped.nested t
  exact (List.isChain_cons_cons.mp hnested).1

/-- The frame that goes on is there after a frame move. -/
lemma rest_mem_after {g : Frame} (hrest : Coroutines.Command.rest
    (frameMove config t w.spawned w.shared f signal).command = some g) :
    g ∈ (afterMove config w t signal f fs).stack t := by
  rw [Coroutines.apply_stack, Function.update_self]
  refine List.mem_append_left _ ?_
  cases hcommand : (frameMove config t w.spawned w.shared f signal).command with
  | await f' =>
    rw [hcommand] at hrest
    obtain rfl := Option.some.inj hrest
    exact List.mem_cons_self ..
  | call f' k =>
    rw [hcommand] at hrest
    obtain rfl := Option.some.inj hrest
    exact List.mem_cons_of_mem _ (List.mem_cons_self ..)
  | ret =>
    rw [hcommand] at hrest
    cases hrest
  | throw e =>
    rw [hcommand] at hrest
    cases hrest

end RtcAsr.Plugin
