import RtcAsr.Plugin.Cancellation

/-!
# Only loops are asked to stop

A cancellation is delivered in a send loop or a receive loop only (`loopsStopped_of_reaches`): the
service cancels the loops it refers to, and a task that awaits another one passes the request on to
a loop.  The methods that a loop runs never call `_enqueue_chunk`.  A task in which the application
called another method raises no cancellation (`application_not_cancelled`).
-/

namespace RtcAsr.Plugin

/-- The methods that a loop runs. -/
def Call.inLoop : Call → Bool
  | .sendLoop => true
  | .receiveLoop => true
  | .handleServerPayload _ => true
  | .sendWs _ _ _ => true
  | .reconnect _ => true
  | .disconnect => true
  | .closeSocketAndTasks _ => true
  | .ensureConnection => true
  | .ensureUtteranceStarted => true
  | _ => false

/-- What a loop runs calls only what a loop runs. -/
lemma inLoop_of_pending {frame : Frame} {k : Call} (h : frame.pending = some k)
    (hframe : frame.call.inLoop = true) : k.inLoop = true := by
  unfold Frame.pending at h
  split at h <;> cases h <;> first | rfl | cases hframe

/-- The task was created and runs the methods of a loop only. -/
structure IsLoop (w : ServiceWorld) (t : TaskId) : Prop where
  created : t < w.spawned
  frames : ∀ f ∈ w.stack t, f.call.inLoop = true

/-- Only loops are asked to stop. -/
structure LoopsStopped (config : LocalSTTConfig) (w : ServiceWorld) : Prop where
  shape : ServiceShaped config w
  linked : ∀ t, w.shared.sendTask = some t ∨ w.shared.receiveTask = some t → IsLoop w t
  awaited : ∀ t u, Awaits w t u → IsLoop w u
  marked : ∀ t, w.cancelled t = true → IsLoop w t
  /-- A close that awaits a task ignores the cancellation of this task. -/
  delivered : ∀ t f fs, w.running = some (t, .failed .cancelled) → w.stack t = f :: fs →
    IsLoop w t ∨ f.awaited.isSome = true

section steps

variable {config : LocalSTTConfig} {w w' : ServiceWorld} {t u : TaskId} {signal : ServiceSignal}
  {f : Frame} {fs : List Frame}

/-- A loop remains a loop. -/
lemma IsLoop.after (hf : w.stack t = f :: fs) (hu : IsLoop w u) :
    IsLoop (afterMove config w t signal f fs) u := by
  have hspawned : w.spawned ≤ (afterMove config w t signal f fs).spawned := by
    rw [Coroutines.apply_spawned]
    exact Nat.le_add_right ..
  refine ⟨hu.created.trans_le hspawned, fun g hg => ?_⟩
  by_cases hut : u = t
  · subst hut
    have hframe : f.call.inLoop = true := hu.frames f (hf ▸ List.mem_cons_self ..)
    rw [Coroutines.apply_stack, Function.update_self] at hg
    rcases List.mem_append.mp hg with hnew | hold
    · have hnewFrames : EachFrame (fun f => f.call.inLoop = true)
          (frameMove config u w.spawned w.shared f signal).command := by
        refine eachFrame_of_calls (P := fun k => k.inLoop = true) hframe fun g k hcommand => ?_
        have hstays := (frameMove_stays config u w.spawned w.shared signal f).command
        rw [hcommand] at hstays
        exact inLoop_of_pending hstays.2 (by rw [hstays.1]; exact hframe)
      exact hnewFrames.frames g hnew
    · exact hu.frames g (hf ▸ List.mem_cons_of_mem f hold)
  · rw [Coroutines.apply_stack_of_ne _ _ _ _ _ hut hu.created] at hg
    exact hu.frames g hg

/-- Before a frame move that links new loops, these are not there. -/
lemma LoopsStopped.linked_after (hw : LoopsStopped config w) (hf : w.stack t = f :: fs)
    (hlink : (afterMove config w t signal f fs).shared.sendTask = some u ∨
      (afterMove config w t signal f fs).shared.receiveTask = some u) :
    IsLoop (afterMove config w t signal f fs) u := by
  rw [Coroutines.apply_shared] at hlink
  by_cases hold : w.shared.sendTask = some u ∨ w.shared.receiveTask = some u
  · exact (hw.linked u hold).after hf
  · obtain ⟨hlt, rfl, v, rfl⟩ := (frameMove_linked hlink).resolve_left hold
    have hu : u = w.spawned ∨ u = w.spawned + 1 :=
      hlink.imp (fun h => (Option.some.inj h).symm) fun h => (Option.some.inj h).symm
    have hut : u ≠ t := by
      have ht : t < w.spawned := hw.shape.shaped.lt_spawned hf
      rcases hu with rfl | rfl
      · exact ht.ne'
      · exact (ht.trans (Nat.lt_succ_self _)).ne'
    refine ⟨?_, fun g hg => ?_⟩
    · rw [Coroutines.apply_spawned]
      exact hlt
    · rw [Coroutines.apply_stack, Function.update_of_ne hut] at hg
      rcases hu with rfl | rfl
      · have hg : g = .sendLoop .entry := by
          simpa [Coroutines.spawnAll, frameMove, ensureConnection, service, Call.enter] using hg
        subst hg
        rfl
      · have hg : g = .receiveLoop .entry := by
          simpa [Coroutines.spawnAll, frameMove, ensureConnection, service, Call.enter] using hg
        subst hg
        rfl

/-- What gets a mark in a frame move is a loop. -/
lemma LoopsStopped.marked_after (hw : LoopsStopped config w)
    (hmark : (afterMove config w t signal f fs).cancelled u = true) : IsLoop w u := by
  rw [Coroutines.apply_cancelled] at hmark
  rcases Coroutines.marked_of_cancelAll hmark with h | ⟨v, hv, -, -, hreached⟩
  · exact hw.marked u h
  · rcases hreached with rfl | ⟨p, g, gs, hp, hg⟩
    · -- the cancelled tasks are the loops of the service
      rcases (frameMove_stays config t w.spawned w.shared signal f).cancel with hnil | ⟨c, hcall⟩
      · rw [hnil] at hv
        cases hv
      · cases f <;> cases hcall
        rename_i pc
        have hlink : u ∈ w.shared.linkTasks t := by
          by_cases hpc : pc = .entry
          · subst hpc
            exact hv
          · have hnone : (frameMove config t w.spawned w.shared
                (.closeSocketAndTasks c pc) signal).cancel = [] := closeSocketAndTasks_cancel hpc
            rw [hnone] at hv
            cases hv
        refine hw.linked u ?_
        simpa [Option.mem_toList] using (List.mem_filter.mp hlink).1
    · -- another task awaits it
      exact hw.awaited p u (awaits_of_awaited hp hg)

/-- A cancellation is passed on in a loop only: a close that awaits a task ignores it. -/
lemma LoopsStopped.isLoop_of_throw (hw : LoopsStopped config w)
    (hrun : w.running = some (t, signal)) (hf : w.stack t = f :: fs)
    (hthrow : (frameMove config t w.spawned w.shared f signal).command = .throw .cancelled) :
    IsLoop w t := by
  obtain rfl : signal = .failed .cancelled := frameMove_passesOn f hthrow
  rcases hw.delivered t f fs hrun hf with hloop | hawaited
  · exact hloop
  · obtain ⟨u, hu⟩ := Option.isSome_iff_exists.mp hawaited
    obtain ⟨cancelCurrent, rest, rfl⟩ := close_of_awaited hu
    exact absurd hthrow (awaitTasks_passesOn _ _)

/-- A cancellation goes on in the loop in which it was delivered. -/
lemma LoopsStopped.delivered_after (hw : LoopsStopped config w)
    (hrun : w.running = some (t, signal)) (hf : w.stack t = f :: fs) {g : Frame} {gs : List Frame}
    (hrun' : (afterMove config w t signal f fs).running = some (u, .failed .cancelled))
    (hg : (afterMove config w t signal f fs).stack u = g :: gs) :
    IsLoop (afterMove config w t signal f fs) u := by
  obtain ⟨rfl, hcase⟩ := Coroutines.running_apply hrun' hg
  rcases hcase with ⟨f', k, -, -, -, h⟩ | ⟨-, -, h⟩ | ⟨e, hthrow, -, h⟩
  · cases h
  · cases h
  · obtain rfl : e = .cancelled := (Signal.failed.inj h).symm
    exact (hw.isLoop_of_throw hrun hf hthrow).after hf

/-- A step asks only loops to stop. -/
theorem loopsStopped_step {a : ServiceAction} (hw : LoopsStopped config w)
    (h : (service config).step w a = some w') : LoopsStopped config w' := by
  have hshape := serviceShaped_step hw.shape h
  cases (service config).step_cases h with
  | @call k hrun hk =>
    have hloop : ∀ {u}, IsLoop w u → IsLoop { w with
        stack := Function.update w.stack w.spawned [k.enter]
        spawned := w.spawned + 1 } u := fun {u} hu =>
      ⟨hu.created.trans (Nat.lt_succ_self _), fun g hg => hu.frames g (by
        simpa only [Function.update_of_ne hu.created.ne] using hg)⟩
    refine
      { shape := hshape
        linked := fun u hu => hloop (hw.linked u hu)
        awaited := fun u v h => hloop (hw.awaited u v ?_)
        marked := fun u hu => hloop (hw.marked u hu)
        delivered := fun u f fs hrun' => nomatch hrun.symm.trans hrun' }
    obtain ⟨c, task, rest, hmem, hv⟩ := h
    refine ⟨c, task, rest, ?_, hv⟩
    by_cases hu : u = w.spawned
    · subst hu
      have hentry : Frame.closeSocketAndTasks c (.awaiting task rest) = k.enter := by
        simpa [service] using hmem
      cases k <;> cases hentry
    · simpa only [Function.update_of_ne hu] using hmem
  | @resume t signal f fs hrun hf hsignal =>
    have hloop : ∀ {u}, IsLoop w u → IsLoop { w with
        cancelled := Function.update w.cancelled t false
        running := some (t, signal) } u := fun {u} hu => ⟨hu.created, hu.frames⟩
    refine
      { shape := hshape
        linked := fun u hu => hloop (hw.linked u hu)
        awaited := fun u v h => hloop (hw.awaited u v h)
        marked := fun u hu => hloop (hw.marked u ?_)
        delivered := fun u g gs hrun' hg => ?_ }
    · by_cases hut : u = t
      · subst hut
        simp at hu
      · simpa only [Function.update_of_ne hut] using hu
    · obtain ⟨rfl, rfl⟩ := Prod.mk.inj (Option.some.inj hrun')
      obtain ⟨rfl, rfl⟩ := List.cons.inj (hf.symm.trans hg)
      by_cases hmark : w.cancelled t = true
      · exact .inl (hloop (hw.marked t hmark))
      · refine .inr ?_
        by_contra hawaited
        have hawaited : f.awaited = none := Option.not_isSome_iff_eq_none.mp hawaited
        simp [Coroutines.accepts, Bool.not_eq_true _ ▸ hmark, service, hawaited, Frame.answers]
          at hsignal
  | outside hrun =>
    exact
      { shape := hshape
        linked := fun u hu => ⟨(hw.linked u hu).created, (hw.linked u hu).frames⟩
        awaited := fun u v h => ⟨(hw.awaited u v h).created, (hw.awaited u v h).frames⟩
        marked := fun u hu => ⟨(hw.marked u hu).created, (hw.marked u hu).frames⟩
        delivered := fun u f fs hrun' => nomatch hrun.symm.trans hrun' }
  | @tick t signal f fs hrun hf =>
    exact
      { shape := hshape
        linked := fun u hu => hw.linked_after hf hu
        awaited := fun u v h => (awaits_after hf h).elim (fun h => (hw.awaited u v h).after hf)
          fun h => (hw.linked v h.2.2).after hf
        marked := fun u hu => (hw.marked_after hu).after hf
        delivered := fun u g gs hrun' hg => .inl (hw.delivered_after hrun hf hrun' hg) }

lemma loopsStopped_initial (config : LocalSTTConfig) : LoopsStopped config .initial where
  shape := serviceShaped_initial config
  linked u h := by rcases h with h | h <;> cases h
  awaited := by
    rintro u v ⟨c, task, rest, hmem, -⟩
    cases hmem
  marked t h := nomatch h
  delivered t f fs h := nomatch h

/-- **Only loops are asked to stop**, in every run. -/
theorem loopsStopped_of_reaches (h : (serviceSystem config).Reaches .initial w) :
    LoopsStopped config w :=
  StepSystem.invariant (I := LoopsStopped config) (fun _ _ _ hw hstep => loopsStopped_step hw hstep)
    (loopsStopped_initial config) h

/-- What is no method of a loop is not cancelled. -/
lemma LoopsStopped.not_cancelled (hw : LoopsStopped config w)
    (hrun : w.running = some (t, signal)) (hf : w.stack t = f :: fs)
    (hcall : f.call.inLoop = false) : signal ≠ .failed .cancelled := by
  rintro rfl
  rcases hw.delivered t f fs hrun hf with hloop | hawaited
  · exact absurd (hloop.frames f (hf ▸ List.mem_cons_self ..)) (by simp [hcall])
  · obtain ⟨u, hu⟩ := Option.isSome_iff_exists.mp hawaited
    obtain ⟨cancelCurrent, rest, rfl⟩ := close_of_awaited hu
    cases hcall

end steps

/-! ## Cancellations stay in the loops -/

/-- **No cancellation reaches the application**: in every run, a task in which the application
called a method that no loop runs (`process_frame`, `start`, `stop`, `finalize_current_utterance`,
`cancel_current_utterance`, or what these call) raises no `CancelledError` from any of its calls. -/
theorem application_not_cancelled {config : LocalSTTConfig} {w : ServiceWorld} {t : TaskId}
    {signal : ServiceSignal} {f g : Frame} {fs : List Frame}
    (h : (serviceSystem config).Reaches .initial w) (hrun : w.running = some (t, signal))
    (hf : w.stack t = f :: fs) (hg : g ∈ f :: fs) (hcall : g.call.inLoop = false) :
    (frameMove config t w.spawned w.shared f signal).command ≠ .throw .cancelled := by
  intro hthrow
  have hloop : IsLoop w t := (loopsStopped_of_reaches h).isLoop_of_throw hrun hf hthrow
  rw [hloop.frames g (hf ▸ hg)] at hcall
  cases hcall

/-- The start message of the first utterance cannot be sent: its task reconnects, holding the start
lock, and awaits the send loop. -/
def startReconnects : List ServiceAction :=
  [.call (.processFrame .vadUserStartedSpeaking)] ++ turn 0 (.value none) 3 ++
    turn 0 (.value none) 2 ++ turn 0 (.value none) 1 ++ turn 0 (.value none) 3 ++
    turn 0 connectionFailed 3

/-- The send loop that the task of the first utterance stops has ended. -/
def loopStopped : List ServiceAction :=
  startReconnects ++ turn 1 (.failed .cancelled) 1 ++ [.resume 0 (.failed .cancelled)]

/-- `application_not_cancelled` where the cancellation of a loop is delivered to the close that
awaits it. -/
theorem application_not_cancelled_loopStopped :
    ∃ w fs, (serviceSystem {}).run .initial loopStopped = some w ∧
      w.stack 0 = .closeSocketAndTasks false (.awaiting 1 [2]) :: fs ∧
      (frameMove {} 0 w.spawned w.shared (.closeSocketAndTasks false (.awaiting 1 [2]))
        (.failed .cancelled)).command ≠ .throw .cancelled := by
  obtain ⟨w, hrun, hend⟩ := StepSystem.exists_run_of_map (M := serviceSystem {}) (s := .initial)
    (f := fun w => (w.running, w.stack 0)) (l := loopStopped)
    (x := (some (0, .failed .cancelled),
      [.closeSocketAndTasks false (.awaiting 1 [2]), .reconnect false .closing,
        .sendWs (.start 1) true false .reconnecting, .ensureUtteranceStarted (.sending 1),
        .startCurrentUtterance .starting, .processFrame .vadUserStartedSpeaking .handling])) rfl
  obtain ⟨hrunning, hstack⟩ := Prod.mk.inj hend
  exact ⟨w, _, hrun, hstack, application_not_cancelled ⟨loopStopped, hrun⟩ hrunning hstack
    (List.mem_cons_of_mem _ (by simp : Frame.startCurrentUtterance .starting ∈ _)) rfl⟩

end RtcAsr.Plugin
