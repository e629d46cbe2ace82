import RtcAsr.Plugin.SendLoopServed
import RtcAsr.Plugin.SendQueue
import RtcAsr.Plugin.Suspension

/-!
# Who empties the send queue

`finalize_current_utterance` waits until the send queue is done with, and so does the `block` policy
until there is room.  The queue is emptied by the send loop of the connection, or given up by a
disconnect.  A reconnect stops the old send loop before it connects, and when its connect raises,
nothing is left that empties the queue, though it is kept (`not_hasConsumer_connectRaises`).  In
runs in which this does not happen the waits have a consumer (`hasConsumer_of_run`).
-/

namespace RtcAsr.Plugin

/-- The frames after which there is a connection, or the queue is given up. -/
inductive Frame.Recovers : Frame → Prop
  | givesUp {f : Frame} (h : f.GivesUp) : Recovers f
  | reconnecting (startUtterance : Bool) : Recovers (.reconnect startUtterance .connecting)
  | locking : Recovers (.ensureConnection .locking)
  | connecting : Recovers (.ensureConnection .connecting)

/-- A task connects, or gives the connection up. -/
def Recovering (w : ServiceWorld) : Prop := ∃ t, ∃ f ∈ w.stack t, f.Recovers

/-- A send loop that could not send is about to disconnect. -/
inductive Failing (w : ServiceWorld) : Prop
  | raised {t : TaskId} {e : PluginExn} {f : Frame} {fs : List Frame} {chunk : AudioChunk}
      (hrun : w.running = some (t, .failed (.raised e))) (hf : w.stack t = f :: fs)
      (hpending : f.pending ≠ none) (hloop : .sendLoop (.sending chunk) ∈ f :: fs)
  | disconnecting {t : TaskId} {v : Option Json} {fs : List Frame} {chunk : AudioChunk}
      (hrun : w.running = some (t, .value v))
      (hf : w.stack t = .disconnect .entry :: .sendLoop (.disconnecting chunk) :: fs)

section moves

variable (config : LocalSTTConfig) (me next : TaskId) (s : Service) (signal : ServiceSignal)

/-- An exception of a call is passed on, but by a loop that handles it. -/
lemma frameMove_raises {frame : Frame} {e : PluginExn} (hpending : frame.pending ≠ none)
    (hsend : ∀ chunk, frame ≠ .sendLoop (.sending chunk))
    (hreceive : ∀ payload, frame ≠ .receiveLoop (.handling payload)) :
    (frameMove config me next s frame (.failed (.raised e))).command = .throw (.raised e) := by
  unfold Frame.pending at hpending
  split at hpending
  case h_8 => exact absurd rfl (hsend _)
  case h_10 => exact absurd rfl (hreceive _)
  case h_31 => exact absurd rfl hpending
  all_goals rfl

end moves

/-! ## Steps -/

variable {config : LocalSTTConfig} {w : ServiceWorld} {t : TaskId} {signal : ServiceSignal}
  {f : Frame} {fs : List Frame}

/-- An exception reaches the send loop below. -/
lemma failing_after (hw : ServiceShaped config w) (hf : w.stack t = f :: fs) {e : PluginExn}
    {chunk : AudioChunk} (hloop : .sendLoop (.sending chunk) ∈ fs)
    (hthrow : (frameMove config t w.spawned w.shared f signal).command = .throw (.raised e)) :
    Failing (afterMove config w t signal f fs) := by
  cases fs with
  | nil => cases hloop
  | cons g gs =>
    have hrun : (afterMove config w t signal f (g :: gs)).running =
        some (t, .failed (.raised e)) := by
      simp [Coroutines.apply, hthrow]
    have hstack : (afterMove config w t signal f (g :: gs)).stack t = g :: gs := by
      rw [Coroutines.apply_stack, Function.update_self, hthrow]
      rfl
    have hpending : g.pending ≠ none := by
      rw [pending_of_stack hw hf]
      exact Option.some_ne_none _
    exact .raised hrun hstack hpending hloop

/-- The frame that goes on recovers. -/
lemma recovering_of_rest {g : Frame} (hg : g.Recovers) (hrest : Coroutines.Command.rest
    (frameMove config t w.spawned w.shared f signal).command = some g) :
    Recovering (afterMove config w t signal f fs) :=
  ⟨t, g, rest_mem_after hrest, hg⟩

/-- A send loop that could not send disconnects. -/
lemma Failing.after (hw : ServiceShaped config w) (h : Failing w)
    (hrun : w.running = some (t, signal)) (hf : w.stack t = f :: fs) :
    Recovering (afterMove config w t signal f fs) ∨ Failing (afterMove config w t signal f fs) := by
  cases h with
  | @raised _ e _ _ chunk hrun' hf' hpending hloop =>
    obtain ⟨rfl, rfl⟩ := Prod.mk.inj (Option.some.inj (hrun.symm.trans hrun'))
    obtain ⟨rfl, rfl⟩ := List.cons.inj (hf.symm.trans hf')
    by_cases hsend : ∃ chunk, f = .sendLoop (.sending chunk)
    · obtain ⟨chunk', rfl⟩ := hsend
      have hstack : (afterMove config w t (.failed (.raised e)) (.sendLoop (.sending chunk'))
          fs).stack t = .disconnect .entry :: .sendLoop (.disconnecting chunk') :: fs := by
        rw [Coroutines.apply_stack, Function.update_self]
        rfl
      exact .inr (.disconnecting rfl hstack)
    · have hbelow : .sendLoop (.sending chunk) ∈ fs :=
        (List.mem_cons.mp hloop).resolve_left fun h => hsend ⟨chunk, h.symm⟩
      refine .inr (failing_after hw hf hbelow (frameMove_raises config t w.spawned w.shared hpending
        (fun chunk h => hsend ⟨chunk, h⟩) ?_))
      rintro payload rfl
      have hnested : (service config).NestedStack (.receiveLoop (.handling payload) :: fs) :=
        hf ▸ hw.shaped.nested t
      exact lt_irrefl 7 (hnested.rank_lt (service_lawful config) _ hbelow)
  | @disconnecting _ v _ chunk hrun' hf' =>
    obtain ⟨rfl, rfl⟩ := Prod.mk.inj (Option.some.inj (hrun.symm.trans hrun'))
    obtain ⟨rfl, rfl⟩ := List.cons.inj (hf.symm.trans hf')
    exact .inl (recovering_of_rest (.givesUp .disconnect) rfl)

/-- An exception of the program is delivered. -/
def raises : ServiceSignal → Bool
  | .failed (.raised _) => true
  | _ => false

/-- The frames of the methods that connect and disconnect, and of the send loops. -/
def Frame.attends : Frame → Bool
  | .ensureConnection _ => true
  | .reconnect _ _ => true
  | .disconnect _ => true
  | .sendLoop _ => true
  | _ => false

end RtcAsr.Plugin
