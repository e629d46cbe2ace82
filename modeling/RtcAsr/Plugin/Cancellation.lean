import RtcAsr.Foundation.Cancellation
import RtcAsr.Plugin.Loops

/-!
# Who stops a loop

Only `_close_socket_and_tasks` asks tasks to stop, and it awaits the tasks that it asks.  In runs in
which no close raises, and none begins in a task that another close awaits, a task that is asked to
stop is awaited by another task's close until it has ended (`condemned_step`).
-/

namespace RtcAsr.Plugin

/-- A close of the task `t` awaits the task `u`, or will await it. -/
def Awaits (w : ServiceWorld) (t u : TaskId) : Prop :=
  ∃ cancelCurrent task rest,
    .closeSocketAndTasks cancelCurrent (.awaiting task rest) ∈ w.stack t ∧ u ∈ task :: rest

/-- Only a close awaits a task. -/
lemma close_of_awaited {f : Frame} {u : TaskId} (h : f.awaited = some u) :
    ∃ cancelCurrent rest, f = .closeSocketAndTasks cancelCurrent (.awaiting u rest) := by
  unfold Frame.awaited at h
  split at h <;> cases h
  exact ⟨_, _, rfl⟩

/-- A task that has stopped where another one is awaited is in a close that awaits it. -/
lemma awaits_of_awaited {w : ServiceWorld} {t u : TaskId} {f : Frame} {fs : List Frame}
    (hf : w.stack t = f :: fs) (h : f.awaited = some u) : Awaits w t u := by
  obtain ⟨cancelCurrent, rest, rfl⟩ := close_of_awaited h
  exact ⟨cancelCurrent, u, rest, hf ▸ List.mem_cons_self .., List.mem_cons_self ..⟩

/-- A cancellation of the task is on its way, or is being delivered and not ignored. -/
def Condemned (w : ServiceWorld) (t : TaskId) : Prop :=
  w.cancelled t = true ∨ (w.running = some (t, .failed .cancelled) ∧
    ∀ cancelCurrent task rest fs,
      w.stack t ≠ .closeSocketAndTasks cancelCurrent (.awaiting task rest) :: fs)

/-- No close raises, and none begins in a task that another close awaits. -/
def ClosesEnd (w : ServiceWorld) : ServiceAction → Prop
  | .tick => ∀ t signal cancelCurrent pc fs, w.running = some (t, signal) →
    w.stack t = .closeSocketAndTasks cancelCurrent pc :: fs →
      (∀ task rest e, pc = .awaiting task rest → signal ≠ .failed (.raised e)) ∧
        (pc = .entry → ∀ u, ¬ Awaits w u t)
  | _ => True

/-- A task that is asked to stop is awaited. -/
structure CondemnedWorld (config : LocalSTTConfig) (w : ServiceWorld) : Prop where
  shape : ServiceShaped config w
  rooted : (service config).Rooted Call.isRoot w
  linked : ∀ u, w.shared.sendTask = some u ∨ w.shared.receiveTask = some u → u < w.spawned
  /-- A close awaits other tasks. -/
  others : ∀ t u, Awaits w t u → u ≠ t ∧ u < w.spawned
  unmarked : ∀ t signal, w.running = some (t, signal) → w.cancelled t = false
  marked : ∀ t, w.cancelled t = true → t < w.spawned
  /-- A close that is asked to stop passes this on until the task it awaits has ended. -/
  passed : ∀ t cancelCurrent task rest fs, w.cancelled t = true →
    w.stack t = .closeSocketAndTasks cancelCurrent (.awaiting task rest) :: fs →
      w.stack task = []
  /-- A close goes on when the task it awaits has ended. -/
  resumed : ∀ t signal cancelCurrent task rest fs, w.running = some (t, signal) →
    w.stack t = .closeSocketAndTasks cancelCurrent (.awaiting task rest) :: fs →
      w.stack task = []
  awaited : ∀ u, Condemned w u → w.stack u ≠ [] → ∃ t, t ≠ u ∧ Awaits w t u

section moves

variable {config : LocalSTTConfig} {me next : TaskId} {s : Service} {signal : ServiceSignal}

/-- The method raises no cancellation but one that is delivered to it. -/
def PassesOn (signal : ServiceSignal) (m : ServiceMove) : Prop :=
  m.command = .throw .cancelled → signal = .failed .cancelled

lemma passOn_passesOn (s : Service) : PassesOn signal (passOn s signal) := by
  intro h
  rcases signal with v | (_ | e)
  · cases h
  · rfl
  · cases h

lemma awaitTasks_passesOn (cancelCurrent : Bool) (tasks : List TaskId) :
    (awaitTasks s cancelCurrent tasks).command ≠ .throw .cancelled := by
  cases tasks with
  | nil =>
    simp only [awaitTasks, closeSocket]
    split <;> rintro ⟨⟩
  | cons task rest => rintro ⟨⟩

lemma sendLoopHead_passesOn (s : Service) : PassesOn signal (sendLoopHead s) := by
  unfold PassesOn sendLoopHead
  split <;> exact fun h => nomatch h

lemma sendLoop_passesOn (pc : SendLoopPc) : PassesOn signal (sendLoop me s pc signal) := by
  cases pc with
  | disconnecting chunk => exact passOn_passesOn _
  | getting =>
    rcases signal with v | (_ | e)
    · simp only [sendLoop]
      split
      · rintro ⟨⟩
      · split
        · rintro ⟨⟩
        · exact sendLoopHead_passesOn _
    · exact fun _ => rfl
    · rintro ⟨⟩
  | entry =>
    rcases signal with v | (_ | e)
    · exact sendLoopHead_passesOn s
    · exact fun _ => rfl
    · rintro ⟨⟩
  | sending chunk =>
    rcases signal with v | (_ | e)
    · simp only [sendLoop]
      split
      · exact sendLoopHead_passesOn _
      · rintro ⟨⟩
    · exact fun _ => rfl
    · rintro ⟨⟩

lemma receiveLoop_passesOn (pc : ReceiveLoopPc) :
    PassesOn signal (receiveLoop config s pc signal) := by
  have hhead : ∀ s : Service, (receiveLoopHead s).command ≠ .throw .cancelled := by
    intro s
    unfold receiveLoopHead
    split
    · rintro ⟨⟩
    · split <;> rintro ⟨⟩
  have herror : ∀ s : Service, (receiveLoopError config s).command ≠ .throw .cancelled := by
    intro s
    unfold receiveLoopError
    split <;> rintro ⟨⟩
  cases pc with
  | entry =>
    rcases signal with v | (_ | e)
    · exact fun h => absurd h (hhead s)
    · exact fun _ => rfl
    · rintro ⟨⟩
  | receiving connection =>
    rcases signal with v | (_ | e)
    · simp only [receiveLoop]
      split
      · exact fun h => absurd h (herror _)
      · rintro ⟨⟩
    · exact fun _ => rfl
    · exact fun h => absurd h (herror s)
  | handling payload =>
    rcases signal with v | (_ | e)
    · exact fun h => absurd h (hhead s)
    · exact fun _ => rfl
    · exact fun h => absurd h (herror s)
  | reconnecting => exact passOn_passesOn s
  | disconnecting => exact passOn_passesOn s

lemma enqueueLast_passesOn {flushed : Service × Option AudioChunk} {pc : AudioChunk → Frame} :
    PassesOn signal (enqueueLast flushed pc) := by
  obtain ⟨s, _ | chunk⟩ := flushed <;> exact fun h => nomatch h

lemma enqueueChunk_passesOn (chunk : AudioChunk) (pc : EnqueuePc) :
    PassesOn signal (enqueueChunk config s chunk pc signal) := by
  have hblock : PassesOn signal (blockChunk config s chunk) := by
    unfold PassesOn blockChunk
    split <;> rintro ⟨⟩
  cases pc with
  | entry =>
    simp only [enqueueChunk]
    split
    · exact hblock
    · split <;> rintro ⟨⟩
    · rintro ⟨⟩
  | sleeping =>
    rcases signal with v | (_ | e)
    · exact hblock
    · exact fun _ => rfl
    · rintro ⟨⟩

lemma handleServerPayload_passesOn (payload : Dict) (pc : HandlePc) :
    PassesOn signal (handleServerPayload config s payload pc signal) := by
  cases pc with
  | entry =>
    simp only [handleServerPayload, pushTranscript]
    split <;> (try split) <;> (try split) <;> rintro ⟨⟩
  | ponging reply => exact passOn_passesOn s
  | pushing isFinal => rcases signal with v | (_ | e) <;> first | exact fun _ => rfl | rintro ⟨⟩

lemma finalizeCurrentUtterance_passesOn (pc : FinalizePc) :
    PassesOn signal (finalizeCurrentUtterance config s pc signal) := by
  cases pc with
  | entry =>
    simp only [finalizeCurrentUtterance]
    split <;> (try split) <;> rintro ⟨⟩
  | waiting g event =>
    rcases signal with v | (_ | (_ | _ | _ | _ | _ | _)) <;>
      first | exact fun _ => rfl | rintro ⟨⟩
  | disconnecting g event => exact passOn_passesOn _
  | _ =>
    rcases signal with v | (_ | e) <;> simp only [finalizeCurrentUtterance] <;> (try split) <;>
      first | exact fun _ => rfl | rintro ⟨⟩

/-- **A cancellation is raised where it is delivered.** -/
theorem frameMove_passesOn (frame : Frame) :
    PassesOn signal (frameMove config me next s frame signal) := by
  cases frame with
  | closeSocketAndTasks cancelCurrent pc =>
    cases pc with
    | entry => exact fun h => absurd h (awaitTasks_passesOn _ _)
    | awaiting task rest =>
      rcases signal with v | (_ | e)
      · exact fun h => absurd h (awaitTasks_passesOn _ _)
      · exact fun _ => rfl
      · rintro ⟨⟩
    | closing => rcases signal with v | (_ | e) <;> first | exact fun _ => rfl | rintro ⟨⟩
  | sendLoop pc => exact sendLoop_passesOn pc
  | receiveLoop pc => exact receiveLoop_passesOn pc
  | enqueueChunk chunk pc => exact enqueueChunk_passesOn chunk pc
  | handleServerPayload payload pc => exact handleServerPayload_passesOn payload pc
  | finalizeCurrentUtterance pc => exact finalizeCurrentUtterance_passesOn pc
  | handleAudio audio pc =>
    cases pc with
    | entry =>
      simp only [frameMove, handleAudio]
      split <;> rintro ⟨⟩
    | connecting =>
      rcases signal with v | (_ | e)
      · simp only [frameMove, handleAudio]
        split
        · exact enqueueLast_passesOn
        · rintro ⟨⟩
      · exact fun _ => rfl
      · rintro ⟨⟩
    | enqueueing chunk => exact passOn_passesOn s
  | startCurrentUtterance pc =>
    cases pc with
    | entry =>
      simp only [frameMove, startCurrentUtterance]
      split <;> rintro ⟨⟩
    | starting =>
      rcases signal with v | (_ | e)
      · exact enqueueLast_passesOn
      · exact fun _ => rfl
      · rintro ⟨⟩
    | enqueueing chunk => exact passOn_passesOn s
  | cancelCurrentUtterance pc =>
    cases pc with
    | entry =>
      simp only [frameMove, cancelCurrentUtterance]
      split <;> rintro ⟨⟩
    | sending connection =>
      rcases signal with v | (_ | e) <;> simp only [frameMove, cancelCurrentUtterance] <;>
        (try split) <;> first | exact fun _ => rfl | rintro ⟨⟩
    | disconnecting => exact passOn_passesOn s
  | processFrame frame pc =>
    cases pc <;> rcases signal with v | (_ | e) <;> cases frame <;>
      simp only [frameMove, processFrame] <;> (try split) <;>
      first | exact fun _ => rfl | rintro ⟨⟩
  | ensureConnection pc =>
    cases pc <;> rcases signal with v | (_ | e) <;> simp only [frameMove, ensureConnection] <;>
      (try split) <;> first | exact fun _ => rfl | rintro ⟨⟩
  | ensureUtteranceStarted pc =>
    cases pc <;> rcases signal with v | (_ | e) <;>
      simp only [frameMove, ensureUtteranceStarted] <;> (try split) <;>
      first | exact fun _ => rfl | rintro ⟨⟩
  | sendWs payload replay startAfter pc =>
    cases pc <;> rcases signal with v | (_ | e) <;> simp only [frameMove, sendWs] <;>
      (try split) <;> (try split) <;>
      first | exact fun _ => rfl | rintro ⟨⟩
  | reconnect startUtterance pc =>
    cases pc <;> rcases signal with v | (_ | e) <;> simp only [frameMove, reconnect] <;>
      (try split) <;> first | exact fun _ => rfl | rintro ⟨⟩
  | disconnect pc =>
    cases pc <;> rcases signal with v | (_ | e) <;>
      first | exact fun _ => rfl | rintro ⟨⟩
  | sendControl payload pc =>
    cases pc <;> rcases signal with v | (_ | e) <;>
      first | exact fun _ => rfl | rintro ⟨⟩
  | start pc =>
    cases pc <;> rcases signal with v | (_ | e) <;>
      first | exact fun _ => rfl | rintro ⟨⟩
  | stop pc =>
    cases pc <;> rcases signal with v | (_ | e) <;> simp only [frameMove, stop] <;>
      (try split) <;> first | exact fun _ => rfl | rintro ⟨⟩

/-- A close leaves the wiring alone, or forgets the loops. -/
lemma closeSocketAndTasks_wiring (cancelCurrent : Bool) (pc : ClosePc) :
    (closeSocketAndTasks me s cancelCurrent pc signal).shared.wiring = s.wiring ∨
      (closeSocketAndTasks me s cancelCurrent pc signal).shared.wiring =
        ⟨s.websocket, none, none⟩ := by
  have htasks : ∀ (s : Service) tasks, (awaitTasks s cancelCurrent tasks).shared.wiring = s.wiring ∨
      (awaitTasks s cancelCurrent tasks).shared.wiring = ⟨s.websocket, none, none⟩ := by
    intro s tasks
    cases tasks with
    | nil =>
      simp only [awaitTasks, closeSocket]
      split <;> exact .inr rfl
    | cons task rest => exact .inl rfl
  cases pc with
  | entry => exact htasks { s with closed := true } (s.linkTasks me)
  | awaiting task rest =>
    rcases signal with v | (_ | e)
    · exact htasks s rest
    · exact htasks s rest
    · exact .inl rfl
  | closing => rcases signal with v | (_ | e) <;> exact .inl rfl

/-- The loops the service refers to were there before, or are the next new tasks. -/
lemma frameMove_linked {frame : Frame} {u : TaskId}
    (h : (frameMove config me next s frame signal).shared.sendTask = some u ∨
      (frameMove config me next s frame signal).shared.receiveTask = some u) :
    (s.sendTask = some u ∨ s.receiveTask = some u) ∨
      (u < next + 2 ∧ frame = .ensureConnection .connecting ∧ ∃ v, signal = .value v) := by
  have hwiring : ∀ {l : Wiring}, (frameMove config me next s frame signal).shared.wiring = l →
      l.sendTask = some u ∨ l.receiveTask = some u := by
    rintro l rfl
    exact h
  by_cases hclose : ∃ cancelCurrent pc, frame = .closeSocketAndTasks cancelCurrent pc
  · obtain ⟨cancelCurrent, pc, rfl⟩ := hclose
    have hclose : (frameMove config me next s (.closeSocketAndTasks cancelCurrent pc)
        signal).shared.wiring = s.wiring ∨
        (frameMove config me next s (.closeSocketAndTasks cancelCurrent pc)
          signal).shared.wiring = ⟨s.websocket, none, none⟩ :=
      closeSocketAndTasks_wiring cancelCurrent pc
    rcases hclose with hl | hl
    · exact .inl (hwiring hl)
    · rcases hwiring hl with h | h <;> cases h
  · have hclose' : ∀ cancelCurrent pc, frame ≠ .closeSocketAndTasks cancelCurrent pc :=
      fun c pc h => hclose ⟨c, pc, h⟩
    have hmove : Rewires next s frame signal
        (frameMove config me next s frame signal).shared.wiring :=
      frameMove_rewires hclose'
    cases hmove with
    | same hl => exact .inl (hwiring hl)
    | @connect v hframe hsignal hl =>
      refine .inr ⟨?_, hframe, v, hsignal⟩
      rcases hwiring hl with h | h
      · exact (Option.some.inj h).symm ▸ Nat.lt_add_of_pos_right Nat.two_pos
      · exact (Option.some.inj h).symm ▸ Nat.lt_succ_self _
    | giveUp hframe hsignal hl => exact .inl (hwiring hl)

end moves

/-! ## Steps -/

variable {config : LocalSTTConfig} {w : ServiceWorld} {t : TaskId} {signal : ServiceSignal}
  {f : Frame} {fs : List Frame}

/-- A close is the innermost frame of its task. -/
lemma CondemnedWorld.eq_close (hw : CondemnedWorld config w) (hf : w.stack t = f :: fs)
    {cancelCurrent : Bool} {pc : ClosePc}
    (hmem : .closeSocketAndTasks cancelCurrent pc ∈ w.stack t) :
    f = .closeSocketAndTasks cancelCurrent pc := by
  rw [hf] at hmem
  rcases List.mem_cons.mp hmem with h | h
  · exact h.symm
  · obtain ⟨k, hk⟩ := Coroutines.NestedStack.pending_of_mem (M := service config)
      (hf ▸ hw.shape.shaped.nested t) h
    cases hk

/-- The tasks that a close awaits after its frame move. -/
lemma awaitTasks_command {s : Service} {cancelCurrent : Bool} {tasks : List TaskId} {f' : Frame}
    (h : Coroutines.Command.rest (awaitTasks s cancelCurrent tasks).command = some f') :
    (∃ task rest, tasks = task :: rest ∧
      f' = .closeSocketAndTasks cancelCurrent (.awaiting task rest)) ∨
      f' = .closeSocketAndTasks cancelCurrent .closing := by
  cases tasks with
  | nil =>
    simp only [awaitTasks, closeSocket] at h
    split at h <;> cases h
    exact .inr rfl
  | cons task rest =>
    cases h
    exact .inl ⟨task, rest, rfl, rfl⟩

/-- What a close awaits after a frame move, it awaited before, or these are the loops of the
connection. -/
lemma awaits_after (hf : w.stack t = f :: fs) {u v : TaskId}
    (h : Awaits (afterMove config w t signal f fs) u v) :
    Awaits w u v ∨ (u = t ∧ v ≠ t ∧
      (w.shared.sendTask = some v ∨ w.shared.receiveTask = some v)) := by
  obtain ⟨cancelCurrent, task, rest, hmem, hv⟩ := h
  have hisClosing : (Frame.closeSocketAndTasks cancelCurrent (.awaiting task rest)).isClosing :=
    trivial
  rcases Coroutines.mem_apply hf hmem with ⟨rfl, hnew⟩ | ⟨k, -, -, hk⟩ | ⟨hold, hfs⟩
  · obtain hrest | ⟨k, hk⟩ := Coroutines.mem_frames hnew
    · have hcall := (service_lawful config).fn_rest hrest
      cases f <;> cases hcall
      rename_i pc
      cases pc with
      | entry =>
        have hcommand := awaitTasks_command hrest
        rcases hcommand with ⟨task', rest', htasks, heq⟩ | heq <;> cases heq
        refine .inr ⟨rfl, ?_⟩
        have hlink : v ∈ w.shared.linkTasks u := htasks ▸ hv
        have hfilter := List.mem_filter.mp hlink
        refine ⟨by simpa using hfilter.2, ?_⟩
        simpa [Option.mem_toList] using hfilter.1
      | awaiting task₀ rest₀ =>
        have htasks : ∃ task' rest', rest₀ = task' :: rest' ∧
            Frame.closeSocketAndTasks cancelCurrent (.awaiting task rest) =
              .closeSocketAndTasks cancelCurrent (.awaiting task' rest') := by
          rcases signal with v | (_ | e)
          · exact (awaitTasks_command hrest).resolve_right fun h => nomatch h
          · exact (awaitTasks_command hrest).resolve_right fun h => nomatch h
          · cases hrest
        obtain ⟨task', rest', rfl, heq⟩ := htasks
        cases heq
        exact .inl ⟨cancelCurrent, task₀, _, hf ▸ List.mem_cons_self .., List.mem_cons_of_mem _ hv⟩
      | closing => rcases signal with v | (_ | e) <;> cases hrest
    · cases k <;> cases hk
  · cases k <;> cases hk
  · exact .inl ⟨cancelCurrent, task, rest, hold, hv⟩

/-- A task that is awaited before a frame move and has not ended is awaited afterwards. -/
lemma CondemnedWorld.awaits_stays (hw : CondemnedWorld config w)
    (hrun : w.running = some (t, signal)) (hf : w.stack t = f :: fs) (hC : ClosesEnd w .tick)
    {u v : TaskId} (h : Awaits w u v) (halive : w.stack v ≠ []) :
    Awaits (afterMove config w t signal f fs) u v := by
  obtain ⟨cancelCurrent, task, rest, hmem, hv⟩ := h
  by_cases hu : u = t
  · subst hu
    obtain rfl := hw.eq_close hf hmem
    have hended : w.stack task = [] := hw.resumed u signal cancelCurrent task rest fs hrun hf
    have hne : v ≠ task := by
      rintro rfl
      exact halive hended
    have hrest : v ∈ rest := (List.mem_cons.mp hv).resolve_left hne
    have hcommand : ∀ {m : ServiceMove}, m = awaitTasks w.shared cancelCurrent rest →
        Awaits ((service config).apply w u fs m) u v := by
      rintro m rfl
      cases rest with
      | nil => cases hrest
      | cons task' rest' =>
        refine ⟨cancelCurrent, task', rest', ?_, hrest⟩
        rw [Coroutines.apply_stack, Function.update_self]
        exact List.mem_cons_self ..
    rcases signal with v' | (_ | e)
    · exact hcommand rfl
    · exact hcommand rfl
    · exact absurd rfl ((hC u _ cancelCurrent _ fs hrun hf).1 task rest e rfl)
  · refine ⟨cancelCurrent, task, rest, ?_, hv⟩
    have hlt : u < w.spawned := by
      by_contra hlt
      rw [hw.shape.shaped.fresh u (not_lt.mp hlt)] at hmem
      cases hmem
    rw [Coroutines.apply_stack_of_ne _ _ _ _ _ hu hlt]
    exact hmem

/-- A task that gets a mark in a frame move is awaited by the close that moved, or by another one.
-/
lemma CondemnedWorld.marked_after (hw : CondemnedWorld config w)
    (hrun : w.running = some (t, signal)) (hf : w.stack t = f :: fs) (hC : ClosesEnd w .tick)
    {u : TaskId} (h : (afterMove config w t signal f fs).cancelled u = true) :
    w.cancelled u = true ∨ (u ≠ t ∧ w.stack u ≠ [] ∧
      (∀ cancelCurrent task rest gs,
        w.stack u = .closeSocketAndTasks cancelCurrent (.awaiting task rest) :: gs →
          w.stack task = []) ∧
      ∃ v, v ≠ u ∧ Awaits (afterMove config w t signal f fs) v u) := by
  by_cases hcancel : (frameMove config t w.spawned w.shared f signal).cancel = []
  · rw [Coroutines.apply_cancelled, hcancel] at h
    exact .inl h
  have hclose : ∃ cancelCurrent, f = .closeSocketAndTasks cancelCurrent .entry := by
    rcases (frameMove_stays config t w.spawned w.shared signal f).cancel with hnil | ⟨c, hcall⟩
    · exact absurd hnil hcancel
    · cases f <;> cases hcall
      rename_i pc
      by_cases hpc : pc = .entry
      · exact ⟨c, hpc ▸ rfl⟩
      · exact absurd (closeSocketAndTasks_cancel hpc) hcancel
  obtain ⟨cancelCurrent, rfl⟩ := hclose
  rw [Coroutines.apply_cancelled] at h
  rcases Coroutines.marked_of_cancelAll h with hmark | ⟨v, hv, halive, hawaits, hreached⟩
  · exact .inl hmark
  have hlink : v ∈ w.shared.linkTasks t := hv
  have hvt : v ≠ t := by simpa using (List.mem_filter.mp hlink).2
  have hnone := (hC t signal cancelCurrent .entry fs hrun hf).2 rfl
  have hended : ∀ c task rest gs,
      w.stack u = .closeSocketAndTasks c (.awaiting task rest) :: gs → w.stack task = [] :=
    fun c task rest gs hu => hawaits _ gs task hu rfl
  refine .inr ?_
  rcases hreached with rfl | ⟨p, g, gs, hp, hg⟩
  · refine ⟨hvt, halive, hended, t, hvt.symm, cancelCurrent, ?_⟩
    obtain ⟨task, rest, htasks⟩ : ∃ task rest, w.shared.linkTasks t = task :: rest := by
      cases htasks : w.shared.linkTasks t with
      | nil => cases htasks ▸ hlink
      | cons task rest => exact ⟨task, rest, rfl⟩
    refine ⟨task, rest, ?_, htasks ▸ hlink⟩
    rw [Coroutines.apply_stack, Function.update_self]
    simp only [frameMove, closeSocketAndTasks, htasks, awaitTasks, Move.await, Coroutines.frames]
    exact List.mem_cons_self ..
  · have hbefore : Awaits w p u := awaits_of_awaited hp hg
    have hut : u ≠ t := by
      rintro rfl
      exact hnone p hbefore
    exact ⟨hut, halive, hended, p, fun h => (hw.others p u hbefore).1 h.symm,
      hw.awaits_stays hrun hf hC hbefore halive⟩

/-- A frame move in which no close raises keeps the tasks that are asked to stop awaited. -/
lemma CondemnedWorld.tick (hw : CondemnedWorld config w) (hrun : w.running = some (t, signal))
    (hf : w.stack t = f :: fs) (hC : ClosesEnd w .tick)
    (hshape : ServiceShaped config (afterMove config w t signal f fs))
    (hrooted : (service config).Rooted Call.isRoot (afterMove config w t signal f fs)) :
    CondemnedWorld config (afterMove config w t signal f fs) := by
  have hspawned : w.spawned ≤ (afterMove config w t signal f fs).spawned := by
    rw [Coroutines.apply_spawned]
    exact Nat.le_add_right ..
  have hlt : ∀ {u}, w.stack u ≠ [] → u < w.spawned := by
    intro u hu
    by_contra hle
    exact hu (hw.shape.shaped.fresh u (not_lt.mp hle))
  have hmarks : (afterMove config w t signal f fs).cancelled t = false := by
    by_contra hmark
    rcases hw.marked_after hrun hf hC (Bool.not_eq_false _ ▸ hmark) with h | ⟨hne, -⟩
    · rw [hw.unmarked t signal hrun] at h
      cases h
    · exact hne rfl
  -- a task that has ended stays so, and another task keeps its frames
  have hdead : ∀ {u}, u < w.spawned → w.stack u = [] →
      (afterMove config w t signal f fs).stack u = [] := by
    intro u hu hstack
    rw [Coroutines.apply_stack_of_ne _ _ _ _ _ ?_ hu, hstack]
    rintro rfl
    cases hf.symm.trans hstack
  refine
    { shape := hshape
      rooted := hrooted
      linked := fun u hu => ?_
      others := fun u v h => ?_
      unmarked := fun u signal' hrunning => ?_
      marked := fun u hmark => ?_
      passed := fun u c task rest gs hmark hg => ?_
      resumed := fun u signal' c task rest gs hrunning hg => ?_
      awaited := fun u hcondemned halive => ?_ }
  · rw [Coroutines.apply_shared] at hu
    rcases frameMove_linked hu with h | ⟨hle, rfl, v, rfl⟩
    · exact (hw.linked u h).trans_le hspawned
    · exact hle
  · rcases awaits_after hf h with hbefore | ⟨rfl, hne, hlink⟩
    · exact ⟨(hw.others u v hbefore).1, (hw.others u v hbefore).2.trans_le hspawned⟩
    · exact ⟨hne, (hw.linked v hlink).trans_le hspawned⟩
  · rw [Coroutines.running_task hrunning]
    exact hmarks
  · rcases hw.marked_after hrun hf hC hmark with h | ⟨-, halive, -⟩
    · exact (hw.marked u h).trans_le hspawned
    · exact (hlt halive).trans_le hspawned
  · have hut : u ≠ t := by
      rintro rfl
      cases hmarks.symm.trans hmark
    have hu : u < w.spawned := by
      rcases hw.marked_after hrun hf hC hmark with h | ⟨-, halive, -⟩
      · exact hw.marked u h
      · exact hlt halive
    have hbefore : w.stack u = .closeSocketAndTasks c (.awaiting task rest) :: gs := by
      rwa [Coroutines.apply_stack_of_ne _ _ _ _ _ hut hu] at hg
    have hawaits : Awaits w u task :=
      ⟨c, task, rest, hbefore ▸ List.mem_cons_self .., List.mem_cons_self ..⟩
    refine hdead (hw.others u task hawaits).2 ?_
    rcases hw.marked_after hrun hf hC hmark with h | ⟨-, -, hended, -⟩
    · exact hw.passed u c task rest gs h hbefore
    · exact hended c task rest gs hbefore
  · rcases Coroutines.pending_of_running_apply hw.shape.shaped hf hrunning hg with
      ⟨k, hk⟩ | hpending
    · cases k <;> cases hk
    · cases hpending
  · -- the mark is new, or the task was condemned before
    have hbefore : ∀ {u}, Condemned w u → (afterMove config w t signal f fs).stack u ≠ [] →
        u < w.spawned → ∃ v, v ≠ u ∧ Awaits (afterMove config w t signal f fs) v u := by
      intro u hcondemned halive hu
      have halive' : w.stack u ≠ [] := fun h => halive (hdead hu h)
      obtain ⟨v, hvu, hawaits⟩ := hw.awaited u hcondemned halive'
      exact ⟨v, hvu, hw.awaits_stays hrun hf hC hawaits halive'⟩
    rcases hcondemned with hmark | ⟨hrunning, hnot⟩
    · rcases hw.marked_after hrun hf hC hmark with h | ⟨-, -, -, h⟩
      · exact hbefore (.inl h) halive (hw.marked u h)
      · exact h
    · cases hstack : (afterMove config w t signal f fs).stack u with
      | nil => exact absurd hstack halive
      | cons g gs =>
        obtain ⟨rfl, hcase⟩ := Coroutines.running_apply hrunning hstack
        rcases hcase with ⟨f', k, -, -, -, h⟩ | ⟨-, -, h⟩ | ⟨e, hthrow, -, h⟩
        · cases h
        · cases h
        · cases h
          have hsignal := frameMove_passesOn f hthrow
          refine hbefore (.inr ⟨hsignal ▸ hrun, fun c task rest gs' hstack' => ?_⟩) halive
            (hw.shape.shaped.lt_spawned hf)
          obtain ⟨rfl, -⟩ := List.cons.inj (hf.symm.trans hstack')
          rw [hsignal] at hthrow
          exact awaitTasks_passesOn _ _ hthrow

end RtcAsr.Plugin
