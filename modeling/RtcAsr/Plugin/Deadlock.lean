import RtcAsr.Foundation.CoroutineWaits
import RtcAsr.Plugin.StoppedLoops
import RtcAsr.Plugin.Suspension

/-!
# No deadlock

`_ensure_utterance_started` holds `_start_lock` while it connects, which takes `_connect_lock`, and
while it sends the start message, which may reconnect and await the loops of the old connection.
Both locks are held only by tasks inside, however these end (`locks_inside`).  A loop that a close
awaits ends, unless it is itself in a close that awaits a loop: this one takes the cancellation for
the end of its own loop and goes on.  Without such a close no task waits for itself through others
(`deadlockFree_of_run`), and a close that awaits a loop goes on after the turn of this loop
(`close_goes_on`).  With it, a receive loop can go on to `_start_lock`, held by the task that awaits
its end (`reconnects_deadlock`).
-/

namespace RtcAsr.Plugin

/-! ## The locks -/

/-- The locks of a service. -/
inductive ServiceLock
  | connect
  | start

/-- What a lock is to the coroutines. -/
def ServiceLock.lock : ServiceLock → Coroutines.Lock Service Frame Call
  | .connect => connectLock
  | .start => startLock

section locks

variable {config : LocalSTTConfig}

/-- `_ensure_connection` gives `_connect_lock` back. -/
lemma connectLock_returned : connectLock.Returned (service config) where
  fn_asks h := h ▸ rfl
  asks {t n f signal s} hasks := by
    obtain rfl := hasks
    cases signal with
    | failed e => exact .inl rfl
    | value v =>
      by_cases hwebsocket : s.websocket.isSome = true
      · left
        simp [service, frameMove, ensureConnection, hwebsocket, Move.ret]
      · right
        simp [service, frameMove, ensureConnection, hwebsocket, Move.await, connectLock,
          Coroutines.Command.rest]
  inside {t n f signal s} hinside := by
    obtain rfl := hinside
    cases signal <;> exact .inl rfl

/-- `_ensure_utterance_started` gives `_start_lock` back. -/
lemma startLock_returned : startLock.Returned (service config) where
  fn_asks h := h ▸ rfl
  asks {t n f signal s} hasks := by
    obtain rfl := hasks
    cases signal with
    | failed e => exact .inl rfl
    | value v =>
      by_cases hactive : s.utteranceActive = true
      · left
        simp [service, frameMove, ensureUtteranceStarted, hactive, Move.ret]
      · right
        simp [service, frameMove, ensureUtteranceStarted, hactive, Move.call, startLock,
          Coroutines.Command.rest, EnsureUtterancePc.inside]
  inside {t n f signal s} hinside := by
    obtain ⟨pc, hpc, rfl⟩ := hinside
    cases signal with
    | failed e =>
      left
      cases pc with
      | entry => exact hpc.elim
      | locking => exact hpc.elim
      | _ => rfl
    | value v =>
      cases pc with
      | entry => exact hpc.elim
      | locking => exact hpc.elim
      | connecting =>
        exact .inr ⟨congrArg Link.startLock (link_prepareStart s), _, rfl,
          .sending s.generation, trivial, rfl⟩
      | sending generation =>
        exact .inr ⟨rfl, _, rfl, .readying (s.readyEvent.getD 0), trivial, rfl⟩
      | readying event => exact .inl rfl

/-- The coroutines obey both locks. -/
lemma ServiceLock.obeyed (i : ServiceLock) : i.lock.Obeyed (service config) := by
  cases i with
  | connect => exact connectLock_obeyed
  | start => exact startLock_obeyed

/-- The coroutines give both locks back. -/
lemma ServiceLock.returned (i : ServiceLock) : i.lock.Returned (service config) := by
  cases i with
  | connect => exact connectLock_returned
  | start => exact startLock_returned

/-- A frame that holds a lock asks for none. -/
lemma ServiceLock.not_asks (i j : ServiceLock) {f : Frame} (h : i.lock.inside f) :
    ¬ j.lock.asks f := by
  intro hasks
  cases i with
  | connect =>
    obtain rfl : f = .ensureConnection .connecting := h
    cases j <;> cases hasks
  | start =>
    obtain ⟨pc, hpc, rfl⟩ := h
    cases j with
    | connect => cases hasks
    | start =>
      have hlocking : Frame.ensureUtteranceStarted pc = .ensureUtteranceStarted .locking := hasks
      obtain rfl : pc = .locking := by simpa using hlocking
      exact hpc

/-- The locks are held by the tasks inside. -/
structure LockedWorld (config : LocalSTTConfig) (w : ServiceWorld) : Prop where
  shape : ServiceShaped config w
  held : ∀ i : ServiceLock, i.lock.Held w
  kept : ∀ i : ServiceLock, i.lock.Kept w

lemma lockedWorld_initial (config : LocalSTTConfig) : LockedWorld config .initial where
  shape := serviceShaped_initial config
  held i := Coroutines.Lock.held_initial _ _
  kept i := Coroutines.Lock.kept_initial _ (by cases i <;> rfl)

/-- A step keeps the locks held by the tasks inside. -/
theorem locked_step {w w' : ServiceWorld} {a : ServiceAction} (hw : LockedWorld config w)
    (h : (service config).step w a = some w') : LockedWorld config w' where
  shape := serviceShaped_step hw.shape h
  held i := Coroutines.Lock.held_step (service_lawful config) i.obeyed hw.shape.shaped (hw.held i) h
  kept i := Coroutines.Lock.kept_step i.obeyed i.returned hw.shape.shaped (hw.held i) (hw.kept i) h

/-- **The holder of a lock is the task inside**: whatever is raised or cancelled where, in every run
`_connect_lock` is held exactly by the task that connects, and `_start_lock` by the one in a start
handshake. -/
theorem locks_inside {w : ServiceWorld} (hrun : (serviceSystem config).Reaches .initial w)
    (i : ServiceLock) (t : TaskId) :
    i.lock.holder w.shared = some t ↔ ∃ f ∈ w.stack t, i.lock.inside f := by
  have hw : LockedWorld config w := StepSystem.invariant (I := LockedWorld config)
    (fun _ _ _ hw hstep => locked_step hw hstep) (lockedWorld_initial config) hrun
  constructor
  · exact hw.kept i t
  · rintro ⟨f, hf, hinside⟩
    exact (hw.held i).holds t f hf hinside

end locks

/-- `locks_inside` for the start lock, which a task holds that reconnects. -/
theorem locks_inside_startReconnects :
    ∃ w, (serviceSystem {}).run .initial startReconnects = some w ∧
      w.shared.startLock = some 0 ∧ ∃ f ∈ w.stack 0, startLock.inside f := by
  obtain ⟨w, hrun, hlock⟩ := StepSystem.exists_run_of_map (M := serviceSystem {}) (s := .initial)
    (f := fun w => w.shared.startLock) (l := startReconnects) (x := some 0) rfl
  exact ⟨w, hrun, hlock, (locks_inside ⟨startReconnects, hrun⟩ .start 0).mp hlock⟩

/-! ## Tasks that are asked to stop -/

/-- The task of the frame raises its cancellation further when it is delivered there. -/
def Frame.Stops (config : LocalSTTConfig) (f : Frame) : Prop :=
  ∀ me next s, (frameMove config me next s f (.failed .cancelled)).command = .throw .cancelled

/-- No close asks a loop to stop that itself awaits a loop. -/
def StopsNoCloser (w : ServiceWorld) : ServiceAction → Prop
  | .tick => ∀ t signal cancelCurrent fs, w.running = some (t, signal) →
    w.stack t = .closeSocketAndTasks cancelCurrent .entry :: fs →
      ∀ u ∈ w.shared.linkTasks t, ∀ f gs, w.stack u = f :: gs → f.awaited = none
  | _ => True

/-- The task has ended, or it is asked to stop and does. -/
def Doomed (config : LocalSTTConfig) (w : ServiceWorld) (u : TaskId) : Prop :=
  ∀ f fs, w.stack u = f :: fs →
    f.Stops config ∧ (w.cancelled u = true ∨ w.running = some (u, .failed .cancelled))

/-- A task that a close awaits ends. -/
structure DoomedWorld (config : LocalSTTConfig) (w : ServiceWorld) : Prop where
  locked : LockedWorld config w
  stopped : LoopsStopped config w
  suspended : (service config).Suspended w
  /-- A loop of the connection is no task in which the application disconnects. -/
  begun : ∀ u, w.shared.sendTask = some u ∨ w.shared.receiveTask = some u →
    w.stack u ≠ [.disconnect .entry]
  unmarked : ∀ t signal, w.running = some (t, signal) → w.cancelled t = false
  doomed : ∀ t u, Awaits w t u → Doomed config w u

section stops

variable {config : LocalSTTConfig}

/-- A caller passes on a cancellation of what it called. -/
lemma stops_of_pending {f : Frame} {k : Call} (h : f.pending = some k) : f.Stops config := by
  intro me next s
  unfold Frame.pending at h
  split at h <;> first | rfl | cases h

/-- A frame of a loop passes on its cancellation, but at the entry of a call that was just made and
while it awaits a loop. -/
lemma stops_of_awake {f : Frame} (hloop : f.call.inLoop = true) (hawaited : f.awaited = none)
    (hentry : f = f.call.enter → f.call = .sendLoop ∨ f.call = .receiveLoop) :
    f.Stops config := by
  intro me next s
  cases f with
  | ensureConnection pc =>
    cases pc with
    | entry => rcases hentry rfl with h | h <;> cases h
    | _ => rfl
  | closeSocketAndTasks cancelCurrent pc =>
    cases pc with
    | entry => rcases hentry rfl with h | h <;> cases h
    | awaiting task rest => cases hawaited
    | closing => rfl
  | ensureUtteranceStarted pc =>
    cases pc with
    | entry => rcases hentry rfl with h | h <;> cases h
    | _ => rfl
  | sendWs payload replay startAfter pc =>
    cases pc with
    | entry => rcases hentry rfl with h | h <;> cases h
    | _ => rfl
  | reconnect startUtterance pc =>
    cases pc with
    | entry => rcases hentry rfl with h | h <;> cases h
    | _ => rfl
  | disconnect pc =>
    cases pc with
    | entry => rcases hentry rfl with h | h <;> cases h
    | closing => rfl
  | sendLoop pc => cases pc <;> rfl
  | receiveLoop pc => cases pc <;> rfl
  | handleServerPayload payload pc =>
    cases pc with
    | entry => rcases hentry rfl with h | h <;> cases h
    | _ => rfl
  | _ => cases hloop

end stops

section steps

variable {config : LocalSTTConfig} {w w' : ServiceWorld} {t u v : TaskId} {signal : ServiceSignal}
  {f : Frame} {fs : List Frame}

/-- After a frame move a close awaits what it awaited before, or it begins and awaits the loops of
the connection. -/
lemma awaits_of_move (hf : w.stack t = f :: fs)
    (h : Awaits (afterMove config w t signal f fs) u v) :
    Awaits w u v ∨ (∃ cancelCurrent, f = .closeSocketAndTasks cancelCurrent .entry) ∧
      v ∈ w.shared.linkTasks t := by
  obtain ⟨cancelCurrent, task, rest, hmem, hv⟩ := h
  rcases Coroutines.mem_apply hf hmem with ⟨rfl, hnew⟩ | ⟨k, -, -, hk⟩ | ⟨hold, -⟩
  · obtain hrest | ⟨k, hk⟩ := Coroutines.mem_frames hnew
    · have hcall := (service_lawful config).fn_rest hrest
      cases f <;> cases hcall
      rename_i pc
      cases pc with
      | entry =>
        rcases awaitTasks_command hrest with ⟨task', rest', htasks, heq⟩ | heq <;> cases heq
        exact .inr ⟨⟨_, rfl⟩, htasks ▸ hv⟩
      | awaiting task₀ rest₀ =>
        left
        have hafter : ∀ s : Service,
            Coroutines.Command.rest (awaitTasks s cancelCurrent rest₀).command =
              some (.closeSocketAndTasks cancelCurrent (.awaiting task rest)) →
            rest₀ = task :: rest := by
          intro s hrest
          rcases awaitTasks_command hrest with ⟨task', rest', htasks, heq⟩ | heq <;> cases heq
          exact htasks
        have hrest₀ : rest₀ = task :: rest := by
          rcases signal with value | (_ | e)
          · exact hafter w.shared hrest
          · exact hafter w.shared hrest
          · cases hrest
        exact ⟨cancelCurrent, task₀, rest₀, hf ▸ List.mem_cons_self ..,
          List.mem_cons_of_mem _ (hrest₀ ▸ hv)⟩
      | closing => rcases signal with value | (_ | e) <;> cases hrest
    · cases k <;> cases hk
  · cases k <;> cases hk
  · exact .inl ⟨cancelCurrent, task, rest, hold, hv⟩

/-- Of what a loop runs, a task begins with a loop or with `_disconnect` only. -/
lemma root_of_inLoop {k : Call} (hroot : k.isRoot) (hloop : k.inLoop = true) :
    k = .sendLoop ∨ k = .receiveLoop ∨ k = .disconnect := by
  rcases hroot with hcallable | rfl | rfl
  · cases k <;> first | exact .inr (.inr rfl) | (cases hcallable; done) | cases hloop
  · exact .inl rfl
  · exact .inr (.inl rfl)

/-- A loop of the connection that is asked to stop in its innermost frame does so. -/
lemma DoomedWorld.stops (hw : DoomedWorld config w) (hrun : w.running = some (t, signal))
    (hu : w.shared.sendTask = some u ∨ w.shared.receiveTask = some u) (hut : u ≠ t) {g : Frame}
    {gs : List Frame} (hg : w.stack u = g :: gs) (hawaited : g.awaited = none) :
    g.Stops config := by
  have hnot : ∀ signal', w.running ≠ some (u, signal') := by
    intro signal' hrunning
    rw [hrun] at hrunning
    exact hut (Prod.mk.inj (Option.some.inj hrunning)).1.symm
  have hloop : g.call.inLoop = true :=
    (hw.stopped.linked u hu).frames g (hg ▸ List.mem_cons_self ..)
  refine stops_of_awake hloop hawaited fun hentry => ?_
  have hgs : gs = [] := by
    by_contra hne
    obtain ⟨signal', hrunning⟩ := hw.suspended u g gs hg (.inr ⟨hentry, hne⟩)
    exact hnot signal' hrunning
  have hroot : g.call.isRoot := by
    rcases hw.stopped.shape.prompt u g gs hg hentry with hroot | hrunning
    · exact hroot
    · exact absurd hrunning (hnot _)
  rcases root_of_inLoop hroot hloop with h | h | h
  · exact .inl h
  · exact .inr h
  · rw [h] at hentry
    have hdisconnect : g = .disconnect .entry := hentry
    rw [hdisconnect, hgs] at hg
    exact absurd hg (hw.begun u hu)

/-- A task that ends goes on to its end in a frame move. -/
lemma DoomedWorld.doomed_after (hw : DoomedWorld config w) (hrun : w.running = some (t, signal))
    (hf : w.stack t = f :: fs) (hv : v < w.spawned) (hdoomed : Doomed config w v) :
    Doomed config (afterMove config w t signal f fs) v := by
  intro g gs hg
  by_cases hvt : v = t
  · subst hvt
    obtain ⟨hstops, hasked⟩ := hdoomed f fs hf
    have hsignal : signal = .failed .cancelled := by
      rcases hasked with hmark | hrunning
      · rw [hw.unmarked v signal hrun] at hmark
        cases hmark
      · rw [hrun] at hrunning
        exact (Prod.mk.inj (Option.some.inj hrunning)).2
    subst hsignal
    have hthrow := hstops v w.spawned w.shared
    have hfs : fs = g :: gs := by
      rw [Coroutines.apply_stack, Function.update_self, hthrow] at hg
      exact hg
    have hnested : (service config).NestedStack (f :: fs) := hf ▸ hw.stopped.shape.shaped.nested v
    rw [hfs] at hnested
    have hpending : g.pending = some f.call := (List.isChain_cons_cons.mp hnested).1
    refine ⟨stops_of_pending hpending, .inr ?_⟩
    simp [afterMove, Coroutines.apply, hthrow, hfs]
  · rw [Coroutines.apply_stack_of_ne _ _ _ _ _ hvt hv] at hg
    obtain ⟨hstops, hasked⟩ := hdoomed g gs hg
    refine ⟨hstops, .inl ?_⟩
    rw [Coroutines.apply_cancelled]
    rcases hasked with hmark | hrunning
    · exact Coroutines.cancelAll_mono _ hmark
    · rw [hrun] at hrunning
      exact absurd (Prod.mk.inj (Option.some.inj hrunning)).1.symm hvt

/-- A close that begins asks the loops of the connection to stop. -/
lemma DoomedWorld.doomed_of_close (hw : DoomedWorld config w)
    (hrun : w.running = some (t, signal)) {cancelCurrent : Bool}
    (hf : w.stack t = .closeSocketAndTasks cancelCurrent .entry :: fs)
    (hC : StopsNoCloser w .tick) (hv : v ∈ w.shared.linkTasks t) :
    Doomed config (afterMove config w t signal (.closeSocketAndTasks cancelCurrent .entry) fs)
      v := by
  intro g gs hg
  have hfilter := List.mem_filter.mp hv
  have hvt : v ≠ t := by simpa using hfilter.2
  have hlink : w.shared.sendTask = some v ∨ w.shared.receiveTask = some v := by
    simpa [Option.mem_toList] using hfilter.1
  rw [Coroutines.apply_stack_of_ne _ _ _ _ _ hvt (hw.stopped.linked v hlink).created] at hg
  have hawaited := hC t signal cancelCurrent fs hrun hf v hv g gs hg
  refine ⟨hw.stops hrun hlink hvt hg hawaited, .inl ?_⟩
  rw [Coroutines.apply_cancelled]
  exact Coroutines.cancelAll_of_mem hv
    (Nat.zero_lt_of_lt (hw.stopped.shape.shaped.lt_spawned hf)) hg hawaited

/-- A frame move does not bring a loop of the connection to the entry of `_disconnect`. -/
lemma DoomedWorld.begun_after (hw : DoomedWorld config w) (hf : w.stack t = f :: fs)
    (hu : (afterMove config w t signal f fs).shared.sendTask = some u ∨
      (afterMove config w t signal f fs).shared.receiveTask = some u) :
    (afterMove config w t signal f fs).stack u ≠ [.disconnect .entry] := by
  intro hstack
  have hmem : Frame.disconnect .entry ∈ (afterMove config w t signal f fs).stack u := by
    rw [hstack]
    exact List.mem_cons_self ..
  rcases Coroutines.mem_apply hf hmem with ⟨rfl, -⟩ | ⟨k, hk, -, henter⟩ | ⟨hold, hfs⟩
  · -- the frame that moved is not at its entry afterwards, or another one is below it
    obtain ⟨f', hcall⟩ := Coroutines.call_of_entered (service_lawful config)
      (service_enters config) hw.stopped.shape.shaped hf hstack rfl
    have hcommand : (frameMove config u w.spawned w.shared f signal).command =
        .call f' .disconnect := hcall
    rw [Coroutines.apply_stack, Function.update_self, hcommand] at hstack
    cases hstack
  · have hroot := frameMove_spawn config t w.spawned w.shared signal (List.mem_of_getElem? hk)
    rcases hroot with rfl | rfl <;> cases henter
  · by_cases hut : u = t
    · obtain ⟨k, hk⟩ := Coroutines.NestedStack.pending_of_mem (M := service config)
        (hf ▸ hw.stopped.shape.shaped.nested t) (hfs hut)
      cases hk
    · have hcreated : u < w.spawned := by
        by_contra hlt
        rw [hw.stopped.shape.shaped.fresh u (not_lt.mp hlt)] at hold
        cases hold
      rw [Coroutines.apply_stack_of_ne _ _ _ _ _ hut hcreated] at hstack
      rw [Coroutines.apply_shared] at hu
      rcases frameMove_linked hu with hlink | ⟨-, rfl, value, rfl⟩
      · exact hw.begun u hlink hstack
      · have hnew : u = w.spawned ∨ u = w.spawned + 1 :=
          hu.imp (fun h => (Option.some.inj h).symm) fun h => (Option.some.inj h).symm
        rcases hnew with rfl | rfl
        · exact absurd hcreated (lt_irrefl _)
        · exact absurd hcreated (Nat.not_lt.mpr (Nat.le_succ _))

/-- A frame move leaves the task that made it without a mark. -/
lemma DoomedWorld.unmarked_after (hw : DoomedWorld config w) (hrun : w.running = some (t, signal))
    (hf : w.stack t = f :: fs) (hC : StopsNoCloser w .tick) :
    (afterMove config w t signal f fs).cancelled t = false := by
  rw [Coroutines.apply_cancelled]
  rcases (frameMove_stays config t w.spawned w.shared signal f).cancel with hnil | ⟨c, hcall⟩
  · rw [hnil]
    exact hw.unmarked t signal hrun
  · cases f <;> cases hcall
    rename_i pc
    by_cases hpc : pc = .entry
    · subst hpc
      have hother : ∀ u ∈ w.shared.linkTasks t, u ≠ t := by
        intro u hu
        simpa using (List.mem_filter.mp hu).2
      have hawake := hC t signal c fs hrun hf
      exact (Coroutines.cancelAll_of_not_mem hother hawake).trans (hw.unmarked t signal hrun)
    · have hnone : (frameMove config t w.spawned w.shared
          (.closeSocketAndTasks c pc) signal).cancel = [] := closeSocketAndTasks_cancel hpc
      rw [hnone]
      exact hw.unmarked t signal hrun

/-- **A step keeps the tasks that a close awaits ending**, if no close asks a loop to stop that
itself awaits a loop. -/
theorem doomed_step {a : ServiceAction} (hw : DoomedWorld config w) (hC : StopsNoCloser w a)
    (h : (service config).step w a = some w') : DoomedWorld config w' := by
  have hlocked := locked_step hw.locked h
  have hstopped := loopsStopped_step hw.stopped h
  have hsuspended := suspended_step hw.suspended h
  cases (service config).step_cases h with
  | @call k hrun hk =>
    have hold : ∀ {u}, u < w.spawned →
        Function.update w.stack w.spawned [k.enter] u = w.stack u := fun hu =>
      Function.update_of_ne hu.ne ..
    have hawaits : ∀ {u v}, Awaits { w with
        stack := Function.update w.stack w.spawned [k.enter]
        spawned := w.spawned + 1 } u v → Awaits w u v := by
      rintro u v ⟨c, task, rest, hmem, hv⟩
      refine ⟨c, task, rest, ?_, hv⟩
      by_cases hu : u = w.spawned
      · subst hu
        have hentry : Frame.closeSocketAndTasks c (.awaiting task rest) = k.enter := by
          simpa [service] using hmem
        cases k <;> cases hentry
      · simpa only [Function.update_of_ne hu] using hmem
    refine
      { locked := hlocked
        stopped := hstopped
        suspended := hsuspended
        begun := fun u hu => ?_
        unmarked := hw.unmarked
        doomed := fun u v h => ?_ }
    · change Function.update w.stack w.spawned [k.enter] u ≠ _
      rw [hold (hw.stopped.linked u hu).created]
      exact hw.begun u hu
    · intro g gs hg
      change Function.update w.stack w.spawned [k.enter] v = g :: gs at hg
      rw [hold (hw.stopped.awaited u v (hawaits h)).created] at hg
      exact hw.doomed u v (hawaits h) g gs hg
  | @resume t signal f fs hrun hf hsignal =>
    refine
      { locked := hlocked
        stopped := hstopped
        suspended := hsuspended
        begun := hw.begun
        unmarked := fun u signal' hrunning => ?_
        doomed := fun u v h g gs hg => ?_ }
    · obtain ⟨rfl, -⟩ := Prod.mk.inj (Option.some.inj hrunning)
      exact Function.update_self ..
    · obtain ⟨hstops, hasked⟩ := hw.doomed u v h g gs hg
      have hmark : w.cancelled v = true := by
        rcases hasked with hmark | hrunning
        · exact hmark
        · cases hrun.symm.trans hrunning
      refine ⟨hstops, ?_⟩
      by_cases hvt : v = t
      · -- a task that is asked to stop is resumed with its cancellation
        subst hvt
        have hcancelled : signal = .failed .cancelled := by
          rcases signal with value | (_ | e)
          · simp [Coroutines.accepts, hmark] at hsignal
          · rfl
          · simp [Coroutines.accepts, hmark] at hsignal
        exact .inr (by rw [hcancelled])
      · exact .inl ((Function.update_of_ne hvt ..).trans hmark)
  | outside hrun =>
    exact
      { locked := hlocked
        stopped := hstopped
        suspended := hsuspended
        begun := hw.begun
        unmarked := hw.unmarked
        doomed := hw.doomed }
  | @tick t signal f fs hrun hf =>
    refine
      { locked := hlocked
        stopped := hstopped
        suspended := hsuspended
        begun := fun u hu => hw.begun_after hf hu
        unmarked := fun u signal' hrunning => ?_
        doomed := fun u v h => ?_ }
    · obtain rfl : u = t := Coroutines.running_task hrunning
      exact hw.unmarked_after hrun hf hC
    · rcases awaits_of_move hf h with hold | ⟨⟨c, rfl⟩, hlink⟩
      · exact hw.doomed_after hrun hf (hw.stopped.awaited u v hold).created (hw.doomed u v hold)
      · exact hw.doomed_of_close hrun hf hC hlink

lemma doomedWorld_initial (config : LocalSTTConfig) : DoomedWorld config .initial where
  locked := lockedWorld_initial config
  stopped := loopsStopped_initial config
  suspended := Coroutines.suspended_initial _
  begun u h := by rcases h with h | h <;> cases h
  unmarked t signal h := by cases h
  doomed := by
    rintro u v ⟨c, task, rest, hmem, -⟩
    cases hmem

/-- The tasks that closes await end, in every run in which no close asks a loop to stop that itself
awaits a loop. -/
lemma doomedWorld_of_run {as : List ServiceAction}
    (hrun : (serviceSystem config).run .initial as = some w)
    (hC : (serviceSystem config).Along StopsNoCloser .initial as) : DoomedWorld config w :=
  StepSystem.invariant_along (I := DoomedWorld config)
    (fun _ _ _ hw hC hstep => doomed_step hw hC hstep) (doomedWorld_initial config) hC hrun

/-- A task that a close awaits does not rest. -/
lemma DoomedWorld.awaited_ends (hw : DoomedWorld config w) (hf : w.stack t = f :: fs)
    (hawaited : f.awaited = some u) : w.stack u = [] ∨ ¬ Coroutines.Rests w u := by
  have hawaits : Awaits w t u := awaits_of_awaited hf hawaited
  cases hu : w.stack u with
  | nil => exact .inl rfl
  | cons g gs =>
    right
    intro hrests
    rcases (hw.doomed t u hawaits g gs hu).2 with hmark | hrunning
    · rw [hrests.unmarked] at hmark
      cases hmark
    · exact hrests.suspended _ hrunning

/-- **No deadlock**: in every run in which no close asks a loop to stop that itself awaits a loop,
no task waits for itself through the locks and the tasks that others await, and every chain of waits
ends in a task that waits for nobody. -/
theorem deadlockFree_of_run {as : List ServiceAction}
    (hrun : (serviceSystem config).run .initial as = some w)
    (hC : (serviceSystem config).Along StopsNoCloser .initial as) :
    Coroutines.DeadlockFree (service config) ServiceLock.lock w := by
  have hw := doomedWorld_of_run hrun hC
  refine Coroutines.DeadlockFree.of_wellFounded ?_
  exact Coroutines.waits_wellFounded (service_lawful config) hw.stopped.shape.shaped
    (fun i => i.obeyed) (fun i => i.returned) (fun i j f => i.not_asks j)
    hw.locked.kept fun t f fs u hf hawaited => hw.awaited_ends hf hawaited

end steps

/-! ## Runs -/

/-- A test for `StopsNoCloser`. -/
def stopsNoCloser (w : ServiceWorld) : ServiceAction → Bool
  | .tick =>
    match w.running with
    | none => true
    | some (t, _) =>
      match w.stack t with
      | .closeSocketAndTasks _ .entry :: _ =>
        (w.shared.linkTasks t).all fun u => (w.stack u).head?.all fun f => f.awaited.isNone
      | _ => true
  | _ => true

lemma stopsNoCloser_of_test {w : ServiceWorld} {a : ServiceAction}
    (h : stopsNoCloser w a = true) : StopsNoCloser w a := by
  cases a with
  | tick =>
    intro t signal cancelCurrent fs hrun hf u hu f gs hg
    simp only [stopsNoCloser, hrun, hf, List.all_eq_true] at h
    simpa [hg] using h u hu
  | _ => trivial

/-- The user starts to speak again meanwhile. -/
def startWhileReconnecting : List ServiceAction :=
  startReconnects ++ [.call (.processFrame .vadUserStartedSpeaking)] ++ turn 3 (.value none) 3

section waits

variable {config : LocalSTTConfig} {w : ServiceWorld} {t u : TaskId}

/-- While no task runs, a task without a mark rests. -/
lemma rests_of_idle (hidle : w.running.isNone = true) (hmark : w.cancelled t = false) :
    Coroutines.Rests w t where
  unmarked := hmark
  suspended signal hrunning := by
    rw [hrunning] at hidle
    cases hidle

/-- A task that asks for the start lock waits for its holder. -/
lemma waitsFor_startLock (hrests : Coroutines.Rests w t)
    (htop : (w.stack t).head? = some (.ensureUtteranceStarted .locking))
    (hlock : w.shared.startLock = some u) :
    Coroutines.WaitsFor (service config) ServiceLock.lock w t u := by
  obtain ⟨fs, hf⟩ := List.head?_eq_some_iff.mp htop
  exact .lock (i := .start) hrests hf rfl hlock

/-- A close waits for the task it awaits. -/
lemma waitsFor_close (hrests : Coroutines.Rests w t) {cancelCurrent : Bool} {rest : List TaskId}
    (htop : (w.stack t).head? = some (.closeSocketAndTasks cancelCurrent (.awaiting u rest)))
    (halive : (w.stack u).isEmpty = false) :
    Coroutines.WaitsFor (service config) ServiceLock.lock w t u := by
  obtain ⟨fs, hf⟩ := List.head?_eq_some_iff.mp htop
  exact .task hrests hf rfl (by simpa using halive)

end waits

/-- `deadlockFree_of_run` in a run in which a task waits for the start lock, and its holder for a
loop. -/
theorem deadlockFree_of_run_startWhileReconnecting :
    ∃ w, (serviceSystem {}).run .initial startWhileReconnecting = some w ∧
      Coroutines.WaitsFor (service {}) ServiceLock.lock w 3 0 ∧
      Coroutines.WaitsFor (service {}) ServiceLock.lock w 0 1 ∧
      Coroutines.DeadlockFree (service {}) ServiceLock.lock w := by
  obtain ⟨w, hrun, hend⟩ := StepSystem.exists_run_of_map (M := serviceSystem {}) (s := .initial)
    (f := fun w => ((w.stack 0).head?, (w.stack 3).head?, (w.stack 1).isEmpty, w.cancelled 0,
      w.cancelled 3, w.running.isNone, w.shared.startLock)) (l := startWhileReconnecting)
    (x := (some (.closeSocketAndTasks false (.awaiting 1 [2])),
      some (.ensureUtteranceStarted .locking), false, false, false, true, some 0)) rfl
  simp only [Prod.mk.injEq] at hend
  obtain ⟨hclosing, hlocking, halive, hmarkFirst, hmarkSecond, hidle, hlock⟩ := hend
  exact ⟨w, hrun, waitsFor_startLock (rests_of_idle hidle hmarkSecond) hlocking hlock,
    waitsFor_close (rests_of_idle hidle hmarkFirst) hclosing halive, deadlockFree_of_run hrun
      (along_of_shaped_check (c := stopsNoCloser) (fun _ _ _ => stopsNoCloser_of_test) rfl)⟩

/-- The receive loop reconnects after an error, and before the send loop that it stops has ended the
start message of the first utterance fails, so that its task reconnects as well and asks both loops
to stop. -/
def reconnectsCross : List ServiceAction :=
  [.call (.processFrame .vadUserStartedSpeaking)] ++ turn 0 (.value none) 3 ++
    turn 0 (.value none) 2 ++ turn 0 (.value none) 1 ++ turn 0 (.value none) 3 ++
    turn 1 (.value none) 1 ++ turn 2 (.value none) 1 ++ turn 2 connectionFailed 3 ++
    turn 0 connectionFailed 3 ++ turn 1 (.failed .cancelled) 1 ++ turn 2 (.failed .cancelled) 1 ++
    turn 2 (.value none) 3 ++ turn 2 (.value none) 1 ++ turn 2 (.value none) 3 ++
    turn 0 (.failed .cancelled) 1

/-- **A deadlock**: the receive loop takes its cancellation for the end of the send loop, goes on to
the start lock and waits for the task that holds it, which awaits the end of the receive loop. -/
theorem reconnects_deadlock :
    ∃ w, (serviceSystem {}).run .initial reconnectsCross = some w ∧
      Coroutines.WaitsFor (service {}) ServiceLock.lock w 0 2 ∧
      Coroutines.WaitsFor (service {}) ServiceLock.lock w 2 0 := by
  obtain ⟨w, hrun, hend⟩ := StepSystem.exists_run_of_map (M := serviceSystem {}) (s := .initial)
    (f := fun w => ((w.stack 0).head?, (w.stack 2).head?, (w.stack 2).isEmpty, w.cancelled 0,
      w.cancelled 2, w.running.isNone, w.shared.startLock)) (l := reconnectsCross)
    (x := (some (.closeSocketAndTasks false (.awaiting 2 [])),
      some (.ensureUtteranceStarted .locking), false, false, false, true, some 0)) rfl
  simp only [Prod.mk.injEq] at hend
  obtain ⟨hclosing, hlocking, halive, hmarkTask, hmarkLoop, hidle, hlock⟩ := hend
  exact ⟨w, hrun, waitsFor_close (rests_of_idle hidle hmarkTask) hclosing halive,
    waitsFor_startLock (rests_of_idle hidle hmarkLoop) hlocking hlock⟩

/-! ## Closes go on -/

section closes

variable {config : LocalSTTConfig} {w : ServiceWorld} {t u : TaskId} {f : Frame} {fs : List Frame}

/-- The frame in which a cancellation is raised further leaves the stack. -/
lemma tick_of_stops (hstops : f.Stops config) (hrun : w.running = some (u, .failed .cancelled))
    (hf : w.stack u = f :: fs) :
    ∃ w', (serviceSystem config).step w .tick = some w' ∧ w'.stack u = fs ∧
      w'.running = (if fs.isEmpty then none else some (u, .failed .cancelled)) ∧
      w.spawned ≤ w'.spawned ∧ ∀ v, v ≠ u → v < w.spawned → w'.stack v = w.stack v := by
  have hthrow := hstops u w.spawned w.shared
  refine ⟨afterMove config w u (.failed .cancelled) f fs, ?_, ?_, ?_, ?_, ?_⟩
  · simp only [serviceSystem, Coroutines.system, Coroutines.step, hrun, hf]
    rfl
  · rw [Coroutines.apply_stack, Function.update_self, hthrow]
    rfl
  · simp [afterMove, Coroutines.apply, hthrow]
  · rw [Coroutines.apply_spawned]
    exact Nat.le_add_right ..
  · intro v hv hlt
    exact Coroutines.apply_stack_of_ne _ _ _ _ _ hv hlt

/-- A cancellation that is raised further from frame to frame ends its task. -/
lemma unwinds (hstops : f.Stops config) (hbelow : ∀ g ∈ fs, g.Stops config)
    (hrun : w.running = some (u, .failed .cancelled)) (hf : w.stack u = f :: fs) :
    ∃ w', (serviceSystem config).run w (List.replicate (f :: fs).length .tick) = some w' ∧
      w'.running = none ∧ w'.stack u = [] ∧
      ∀ v, v ≠ u → v < w.spawned → w'.stack v = w.stack v := by
  induction fs generalizing w f with
  | nil =>
    obtain ⟨w', hstep, hstack, hrunning, -, hothers⟩ := tick_of_stops hstops hrun hf
    exact ⟨w', StepSystem.run_cons_eq_some.mpr ⟨w', hstep, rfl⟩, hrunning, hstack, hothers⟩
  | cons g gs ih =>
    obtain ⟨w₁, hstep, hstack, hrunning, hspawned, hothers⟩ := tick_of_stops hstops hrun hf
    have hg : g.Stops config := hbelow g (List.mem_cons_self ..)
    have hgs : ∀ h ∈ gs, h.Stops config := fun h hh => hbelow h (List.mem_cons_of_mem g hh)
    obtain ⟨w₂, hrun₂, hidle, hended, hothers₂⟩ := ih hg hgs hrunning hstack
    refine ⟨w₂, StepSystem.run_cons_eq_some.mpr ⟨w₁, hstep, hrun₂⟩, hidle, hended, ?_⟩
    intro v hv hlt
    exact (hothers₂ v hv (hlt.trans_le hspawned)).trans (hothers v hv hlt)

/-- The turn in which a task that is asked to stop ends. -/
def stopping (w : ServiceWorld) (u : TaskId) : List ServiceAction :=
  if w.stack u = [] then [] else turn u (.failed .cancelled) (w.stack u).length

/-- A task that a close awaits ends in its turn. -/
lemma DoomedWorld.ends (hw : DoomedWorld config w) (hidle : w.running = none)
    (hdoomed : Doomed config w u) :
    ∃ w', (serviceSystem config).run w (stopping w u) = some w' ∧ w'.running = none ∧
      w'.stack u = [] ∧ ∀ v, v ≠ u → v < w.spawned → w'.stack v = w.stack v := by
  unfold stopping
  cases hu : w.stack u with
  | nil =>
    rw [if_pos rfl]
    exact ⟨w, rfl, hidle, hu, fun _ _ _ => rfl⟩
  | cons f fs =>
    rw [if_neg (List.cons_ne_nil f fs)]
    obtain ⟨hstops, hasked⟩ := hdoomed f fs hu
    have hmark : w.cancelled u = true := by
      rcases hasked with hmark | hrunning
      · exact hmark
      · cases hidle.symm.trans hrunning
    have hbelow : ∀ g ∈ fs, g.Stops config := by
      intro g hg
      obtain ⟨k, hk⟩ := Coroutines.NestedStack.pending_of_mem (M := service config)
        (hu ▸ hw.stopped.shape.shaped.nested u) hg
      exact stops_of_pending hk
    -- the resumed world has the same stacks
    let w₁ : ServiceWorld := { w with
      cancelled := Function.update w.cancelled u false
      running := some (u, .failed .cancelled) }
    have hresume : (serviceSystem config).step w (.resume u (.failed .cancelled)) = some w₁ := by
      simp [serviceSystem, Coroutines.system, Coroutines.step, Coroutines.accepts, hidle, hu,
        hmark, w₁]
    have hstack : w₁.stack u = f :: fs := hu
    obtain ⟨w₂, hrun₂, hidle₂, hended, hothers⟩ := unwinds hstops hbelow rfl hstack
    exact ⟨w₂, StepSystem.run_cons_eq_some.mpr ⟨w₁, hresume, hrun₂⟩, hidle₂, hended, hothers⟩

/-- A close whose task has ended can be resumed. -/
lemma resumes_of_ended (hidle : w.running = none) {cancelCurrent : Bool} {rest : List TaskId}
    (hf : w.stack t = .closeSocketAndTasks cancelCurrent (.awaiting u rest) :: fs)
    (hended : w.stack u = []) :
    ∃ signal w', (serviceSystem config).step w (.resume t signal) = some w' ∧
      w'.stack = w.stack ∧ w'.running = some (t, signal) := by
  have hresume : ∀ signal, (service config).accepts w t
      (.closeSocketAndTasks cancelCurrent (.awaiting u rest)) signal = true →
      ∃ signal w', (serviceSystem config).step w (.resume t signal) = some w' ∧
        w'.stack = w.stack ∧ w'.running = some (t, signal) := by
    intro signal haccepts
    refine ⟨signal, { w with
      cancelled := Function.update w.cancelled t false
      running := some (t, signal) }, ?_, rfl, rfl⟩
    simp only [serviceSystem, Coroutines.system, Coroutines.step, hidle, hf, haccepts, if_true]
  cases hmark : w.cancelled t with
  | true => exact hresume (.failed .cancelled) (by simp [Coroutines.accepts, hmark])
  | false =>
    cases hexn : w.exn u with
    | none =>
      refine hresume (.value none) ?_
      simp [Coroutines.accepts, hmark, service, Frame.awaited, hended, hexn]
    | some e =>
      refine hresume (.failed e) ?_
      simp [Coroutines.accepts, hmark, service, Frame.awaited, hended, hexn]

/-- **Every close goes on**: in every run in which no close asks a loop to stop that itself awaits a
loop, whenever a close awaits a loop and no task runs, the turn of this loop ends it, whatever calls
it is in, and then the close is resumed. -/
theorem close_goes_on {as : List ServiceAction}
    (hrun : (serviceSystem config).run .initial as = some w)
    (hC : (serviceSystem config).Along StopsNoCloser .initial as) (hidle : w.running = none)
    {cancelCurrent : Bool} {rest : List TaskId}
    (hf : w.stack t = .closeSocketAndTasks cancelCurrent (.awaiting u rest) :: fs) :
    ∃ signal w', (serviceSystem config).run w (stopping w u ++ [.resume t signal]) = some w' ∧
      w'.stack u = [] ∧ w'.running = some (t, signal) := by
  have hw := doomedWorld_of_run hrun hC
  have hdoomed : Doomed config w u := hw.doomed t u
    ⟨cancelCurrent, u, rest, hf ▸ List.mem_cons_self .., List.mem_cons_self ..⟩
  have htu : t ≠ u := by
    rintro rfl
    exact awaitTasks_passesOn _ _ ((hdoomed _ fs hf).1 t w.spawned w.shared)
  obtain ⟨w₁, hrun₁, hidle₁, hended, hothers⟩ := hw.ends hidle hdoomed
  have hf₁ : w₁.stack t = .closeSocketAndTasks cancelCurrent (.awaiting u rest) :: fs :=
    (hothers t htu (hw.stopped.shape.shaped.lt_spawned hf)).trans hf
  obtain ⟨signal, w₂, hstep, hstack, hrunning⟩ := resumes_of_ended hidle₁ hf₁ hended
  refine ⟨signal, w₂, StepSystem.run_concat_eq_some.mpr ⟨w₁, hrun₁, hstep⟩, ?_, hrunning⟩
  rw [hstack]
  exact hended

end closes

/-- `close_goes_on` while the task of the first utterance reconnects and awaits the send loop. -/
theorem close_goes_on_startReconnects :
    ∃ w, (serviceSystem {}).run .initial startReconnects = some w ∧
      (w.stack 0).head? = some (.closeSocketAndTasks false (.awaiting 1 [2])) ∧
      ∃ signal w', (serviceSystem {}).run w (stopping w 1 ++ [.resume 0 signal]) = some w' ∧
        w'.stack 1 = [] ∧ w'.running = some (0, signal) := by
  obtain ⟨w, hrun, hend⟩ := StepSystem.exists_run_of_map (M := serviceSystem {}) (s := .initial)
    (f := fun w => ((w.stack 0).head?, w.running.isNone)) (l := startReconnects)
    (x := (some (.closeSocketAndTasks false (.awaiting 1 [2])), true)) rfl
  simp only [Prod.mk.injEq, Option.isNone_iff_eq_none] at hend
  obtain ⟨htop, hidle⟩ := hend
  obtain ⟨fs, hf⟩ := List.head?_eq_some_iff.mp htop
  exact ⟨w, hrun, htop, close_goes_on hrun
    (along_of_shaped_check (c := stopsNoCloser) (fun _ _ _ => stopsNoCloser_of_test) rfl) hidle hf⟩

end RtcAsr.Plugin
