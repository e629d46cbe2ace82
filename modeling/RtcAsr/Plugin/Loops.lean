import RtcAsr.Plugin.Link

/-!
# One reader and one writer

`_ensure_connection` starts a send loop and a receive loop, and `_close_socket_and_tasks` stops
those that the service refers to, but for the task it runs in.  A receive loop that reconnects
because a pong could not be sent goes on afterwards, beside the new receive loop (`two_readers`);
and a close that begins while another one is under way can forget the loops of a new connection.
Runs without the two have at most one loop of each kind (`oneOfEach_of_run`).
-/

namespace RtcAsr.Plugin

/-- From here a receive loop calls `recv`, if nothing is raised. -/
def ReceiveLoopPc.goesOn : ReceiveLoopPc → Prop
  | .entry => True
  | .receiving _ => True
  | .handling _ => True
  | _ => False

/-- From here a send loop takes a chunk, if nothing is raised; after sending one it checks that it
is the current send loop. -/
def SendLoopPc.goesOn (me : TaskId) (s : Service) : SendLoopPc → Prop
  | .entry => True
  | .getting => True
  | .sending _ => s.sendTask = some me
  | .disconnecting _ => False

/-- The task is a receive loop that can go on to call `recv`. -/
def MayReceive (w : ServiceWorld) (t : TaskId) : Prop :=
  ∃ pc : ReceiveLoopPc, pc.goesOn ∧ .receiveLoop pc ∈ w.stack t

/-- The task is a send loop that can go on to take chunks. -/
def MayTake (w : ServiceWorld) (t : TaskId) : Prop :=
  ∃ pc : SendLoopPc, pc.goesOn t w.shared ∧ .sendLoop pc ∈ w.stack t

/-- **At most one task reads from the connection, and at most one takes chunks.** -/
structure OneOfEach (w : ServiceWorld) : Prop where
  receive : ∀ t u, MayReceive w t → MayReceive w u → t = u
  take : ∀ t u, MayTake w t → MayTake w u → t = u

/-! ## The wiring -/

/-- The connection and its loops. -/
structure Wiring where
  websocket : Option ℕ
  sendTask : Option TaskId
  receiveTask : Option TaskId

/-- The wiring of a service. -/
def Service.wiring (s : Service) : Wiring := ⟨s.websocket, s.sendTask, s.receiveTask⟩

lemma wiring_congr {s s' : Service} (h : s'.link = s.link) : s'.wiring = s.wiring := by
  have hwiring : ∀ s : Service, s.wiring =
      ⟨s.link.websocket, s.link.sendTask, s.link.receiveTask⟩ := fun _ => rfl
  rw [hwiring, h, ← hwiring]

/-- The frames that give up the connection when their close is done. -/
inductive Frame.GivesUp : Frame → Prop
  | reconnect (startUtterance : Bool) : GivesUp (.reconnect startUtterance .closing)
  | disconnect : GivesUp (.disconnect .closing)

/-- What the frame moves outside `_close_socket_and_tasks` do to the wiring. -/
inductive Rewires (next : TaskId) (s : Service) (frame : Frame) (signal : ServiceSignal)
    (l : Wiring) : Prop
  | same (hl : l = s.wiring)
  | connect {v : Option Json} (hframe : frame = .ensureConnection .connecting)
      (hsignal : signal = .value v) (hl : l = ⟨some s.connections, some next, some (next + 1)⟩)
  | giveUp {v : Option Json} (hframe : frame.GivesUp) (hsignal : signal = .value v)
      (hl : l = ⟨none, s.sendTask, s.receiveTask⟩)

section moves

variable {config : LocalSTTConfig} {me next : TaskId} {s : Service} {signal : ServiceSignal}

/-- **What a frame move does to the wiring.** -/
lemma frameMove_rewires {frame : Frame}
    (hclose : ∀ cancelCurrent pc, frame ≠ .closeSocketAndTasks cancelCurrent pc) :
    Rewires next s frame signal (frameMove config me next s frame signal).shared.wiring := by
  by_cases hplain : frame.links = false
  · rw [wiring_congr (link_frameMove config me next s hplain signal)]
    exact .same rfl
  cases frame with
  | closeSocketAndTasks cancelCurrent pc => exact absurd rfl (hclose cancelCurrent pc)
  | ensureConnection pc =>
    cases pc with
    | connecting =>
      cases signal with
      | value v => exact .connect rfl rfl rfl
      | failed e => exact .same rfl
    | _ =>
      cases signal <;> simp only [frameMove, ensureConnection] <;> (try split) <;> exact .same rfl
  | ensureUtteranceStarted pc =>
    cases pc with
    | connecting =>
      cases signal with
      | value v =>
        change Rewires next s _ _ s.prepareStart.wiring
        rw [wiring_congr (link_prepareStart s)]
        exact .same rfl
      | failed e => exact .same rfl
    | _ =>
      cases signal <;> simp only [frameMove, ensureUtteranceStarted] <;>
        (try split) <;> exact .same rfl
  | reconnect startUtterance pc =>
    cases pc with
    | closing =>
      cases signal with
      | value v => exact .giveUp (.reconnect _) rfl rfl
      | failed e => exact .same rfl
    | _ => exact absurd rfl hplain
  | disconnect pc =>
    cases pc with
    | closing =>
      cases signal with
      | value v =>
        have hwiring : s.disconnect.wiring = ⟨none, s.sendTask, s.receiveTask⟩ := by
          have hlink := link_disconnect s
          have hsend := congrArg Link.sendTask hlink
          have hreceive := congrArg Link.receiveTask hlink
          have hwebsocket := congrArg Link.websocket hlink
          simp only [Service.link] at hsend hreceive hwebsocket
          simp only [Service.wiring, hsend, hreceive, hwebsocket]
        change Rewires next s _ _ s.disconnect.wiring
        rw [hwiring]
        exact .giveUp .disconnect rfl rfl
      | failed e => exact .same rfl
    | _ => exact absurd rfl hplain
  | _ => exact absurd rfl hplain

/-- What `_close_socket_and_tasks` does when it does not raise: it awaits one of its tasks, or
forgets the loops. -/
inductive Closes (s : Service) (cancelCurrent : Bool) : List TaskId → ServiceMove → Prop
  | await {task : TaskId} {rest : List TaskId} {m : ServiceMove}
      (hcommand : m.command = .await (.closeSocketAndTasks cancelCurrent (.awaiting task rest)))
      (hshared : m.shared.wiring = s.wiring) : Closes s cancelCurrent (task :: rest) m
  | closing {m : ServiceMove}
      (hcommand : m.command = .await (.closeSocketAndTasks cancelCurrent .closing))
      (hconnected : s.websocket.isSome = true)
      (hshared : m.shared.wiring = ⟨s.websocket, none, none⟩) : Closes s cancelCurrent [] m
  | ret {m : ServiceMove} (hcommand : m.command = .ret)
      (hshared : m.shared.wiring = ⟨s.websocket, none, none⟩) : Closes s cancelCurrent [] m

lemma awaitTasks_closes (cancelCurrent : Bool) (tasks : List TaskId) :
    Closes s cancelCurrent tasks (awaitTasks s cancelCurrent tasks) := by
  cases tasks with
  | nil =>
    simp only [awaitTasks, closeSocket]
    split
    · rename_i hconnected
      exact .closing rfl hconnected rfl
    · exact .ret rfl rfl
  | cons task rest => exact .await rfl rfl

@[simp] lemma awaitTasks_cancel (cancelCurrent : Bool) (tasks : List TaskId) :
    (awaitTasks s cancelCurrent tasks).cancel = [] := by
  cases tasks with
  | nil =>
    simp only [awaitTasks, closeSocket]
    split <;> rfl
  | cons task rest => rfl

/-- Only a close that begins asks tasks to stop. -/
lemma closeSocketAndTasks_cancel {cancelCurrent : Bool} {pc : ClosePc} (hpc : pc ≠ .entry) :
    (closeSocketAndTasks me s cancelCurrent pc signal).cancel = [] := by
  cases pc with
  | entry => exact absurd rfl hpc
  | awaiting task rest =>
    rcases signal with v | (_ | e)
    · exact awaitTasks_cancel cancelCurrent rest
    · exact awaitTasks_cancel cancelCurrent rest
    · rfl
  | closing => rcases signal with v | (_ | e) <;> rfl

lemma closes_entry (cancelCurrent : Bool) :
    Closes s cancelCurrent (s.linkTasks me)
      (frameMove config me next s (.closeSocketAndTasks cancelCurrent .entry) signal) ∧
    (frameMove config me next s (.closeSocketAndTasks cancelCurrent .entry) signal).cancel =
      s.linkTasks me := by
  refine ⟨?_, rfl⟩
  have h := awaitTasks_closes (s := { s with closed := true }) cancelCurrent (s.linkTasks me)
  revert h
  simp only [frameMove, closeSocketAndTasks]
  generalize s.linkTasks me = tasks
  intro h
  cases h with
  | await hcommand hshared => exact .await hcommand hshared
  | closing hcommand hconnected hshared => exact .closing hcommand hconnected hshared
  | ret hcommand hshared => exact .ret hcommand hshared

/-! ## The frames -/

/-- What a frame knows of the wiring: a loop that goes on is the one the service refers to, and a
connection is being made only while there is none. -/
def Registered (t : TaskId) (frame : Frame) (l : Wiring) : Prop :=
  match frame with
  | .sendLoop .entry => l.sendTask = some t
  | .sendLoop .getting => l.sendTask = some t
  | .receiveLoop .entry => l.receiveTask = some t
  | .receiveLoop (.receiving _) => l.receiveTask = some t
  | .receiveLoop (.handling _) => l.receiveTask = some t
  | .ensureConnection .connecting => l.websocket = none
  | _ => True

/-- The methods whose frames know something of the wiring. -/
def Call.registers : Call → Bool
  | .sendLoop => true
  | .receiveLoop => true
  | .ensureConnection => true
  | _ => false

lemma registered_of_call {t : TaskId} {frame : Frame} {l : Wiring}
    (h : frame.call.registers = false) : Registered t frame l := by
  cases frame <;> first | exact trivial | cases h

lemma registered_enter {t : TaskId} {k : Call} {l : Wiring} (hsend : k ≠ .sendLoop)
    (hreceive : k ≠ .receiveLoop) : Registered t k.enter l := by
  cases k <;> first | exact trivial | exact absurd rfl hsend | exact absurd rfl hreceive

/-- What a frame knows is about its task, or about the connection while this is being made. -/
lemma Registered.imp {t : TaskId} {frame : Frame} {l l' : Wiring} (h : Registered t frame l)
    (hsend : l.sendTask = some t → l'.sendTask = some t)
    (hreceive : l.receiveTask = some t → l'.receiveTask = some t)
    (hwebsocket : frame = .ensureConnection .connecting → l'.websocket = none) :
    Registered t frame l' := by
  cases frame with
  | sendLoop pc => cases pc <;> first | exact hsend h | exact trivial
  | receiveLoop pc => cases pc <;> first | exact hreceive h | exact trivial
  | ensureConnection pc => cases pc <;> first | exact hwebsocket rfl | exact trivial
  | _ => exact trivial

/-- A frame that waits for a call knows nothing of the wiring, but for a loop in the handling of a
message. -/
lemma registered_of_pending {t : TaskId} {frame : Frame} {k : Call} {l : Wiring}
    (h : frame.pending = some k) (hoff : ∀ payload, frame ≠ .receiveLoop (.handling payload)) :
    Registered t frame l := by
  cases frame with
  | sendLoop pc => cases pc <;> first | exact trivial | cases h
  | receiveLoop pc =>
    cases pc with
    | handling payload => exact absurd rfl (hoff payload)
    | _ => first | exact trivial | cases h
  | ensureConnection pc => cases pc <;> first | exact trivial | cases h
  | _ => exact trivial

/-- Nothing waits for a loop. -/
lemma pending_ne_loop {frame : Frame} {k : Call} (h : frame.pending = some k) :
    k ≠ .sendLoop ∧ k ≠ .receiveLoop := by
  unfold Frame.pending at h
  split at h <;> cases h <;> exact ⟨by rintro ⟨⟩, by rintro ⟨⟩⟩

lemma sendLoopHead_registered (s' : Service) (h : s'.sendTask = some me) :
    EachFrame (fun f => Registered me f s'.wiring) (sendLoopHead s').command := by
  unfold sendLoopHead
  split
  · exact trivial
  · exact h

lemma sendLoop_registered (pc : SendLoopPc) (hframe : Registered me (.sendLoop pc) s.wiring) :
    EachFrame (fun f => Registered me f s.wiring) (sendLoop me s pc signal).command := by
  cases pc with
  | entry =>
    cases signal with
    | value v => exact sendLoopHead_registered s hframe
    | failed e => exact trivial
  | getting =>
    cases signal with
    | value v =>
      simp only [sendLoop]
      split
      · exact hframe
      · split
        · exact ⟨trivial, trivial⟩
        · exact sendLoopHead_registered (s.takeChunk _ _).taskDone hframe
    | failed e => exact trivial
  | sending chunk =>
    rcases signal with v | (_ | e)
    · simp only [sendLoop]
      split
      · rename_i hcurrent
        exact sendLoopHead_registered s.taskDone hcurrent
      · exact trivial
    · exact trivial
    · exact ⟨trivial, trivial⟩
  | disconnecting chunk => cases signal <;> exact trivial

lemma receiveLoopHead_registered {s' : Service} (h : s'.receiveTask = some me) :
    EachFrame (fun f => Registered me f s'.wiring) (receiveLoopHead s').command := by
  unfold receiveLoopHead
  split
  · exact trivial
  · split
    · exact trivial
    · exact h

lemma receiveLoopError_registered (s' : Service) {l : Wiring} :
    EachFrame (fun f => Registered me f l) (receiveLoopError config s').command := by
  unfold receiveLoopError
  split <;> exact ⟨trivial, trivial⟩

lemma receiveLoop_registered (pc : ReceiveLoopPc)
    (hframe : Registered me (.receiveLoop pc) s.wiring) :
    EachFrame (fun f => Registered me f s.wiring) (receiveLoop config s pc signal).command := by
  cases pc with
  | entry =>
    cases signal with
    | value v => exact receiveLoopHead_registered hframe
    | failed e => exact trivial
  | receiving connection =>
    rcases signal with v | (_ | e)
    · simp only [receiveLoop]
      split
      · exact receiveLoopError_registered _
      · exact ⟨hframe, trivial⟩
    · exact trivial
    · exact receiveLoopError_registered _
  | handling payload =>
    rcases signal with v | (_ | e)
    · exact receiveLoopHead_registered hframe
    · exact trivial
    · exact receiveLoopError_registered _
  | reconnecting => cases signal <;> exact trivial
  | disconnecting => cases signal <;> exact trivial

/-- The new frames know the wiring. -/
lemma frameMove_registered {frame : Frame} (hframe : Registered me frame s.wiring) :
    EachFrame (fun f => Registered me f (frameMove config me next s frame signal).shared.wiring)
      (frameMove config me next s frame signal).command := by
  have hplain : ∀ {frame : Frame}, frame.links = false →
      (frameMove config me next s frame signal).shared.wiring = s.wiring := fun h =>
    wiring_congr (link_frameMove config me next s h signal)
  by_cases hregisters : frame.call.registers = true
  · cases frame with
    | sendLoop pc => rw [hplain rfl]; exact sendLoop_registered pc hframe
    | receiveLoop pc => rw [hplain rfl]; exact receiveLoop_registered pc hframe
    | ensureConnection pc =>
      cases pc with
      | entry => simp only [frameMove, ensureConnection]; split <;> exact trivial
      | locking =>
        cases signal with
        | value v =>
          simp only [frameMove, ensureConnection]
          split
          · exact trivial
          · rename_i hnone
            exact Option.not_isSome_iff_eq_none.mp hnone
        | failed e => exact trivial
      | connecting => cases signal <;> exact trivial
    | _ => cases hregisters
  · have hregisters := Bool.eq_false_iff.mpr hregisters
    have hstays := (frameMove_stays config me next s signal frame).command
    cases hcommand : (frameMove config me next s frame signal).command with
    | await f =>
      rw [hcommand] at hstays
      exact registered_of_call (by rw [hstays.1]; exact hregisters)
    | call f k =>
      rw [hcommand] at hstays
      obtain ⟨hsend, hreceive⟩ := pending_ne_loop hstays.2
      exact ⟨registered_of_call (by rw [hstays.1]; exact hregisters),
        registered_enter hsend hreceive⟩
    | ret => exact trivial
    | throw e => exact trivial

/-- The new loops are those the service refers to. -/
lemma spawn_registered {frame : Frame} {i : ℕ} {k : Call}
    (hk : (frameMove config me next s frame signal).spawn[i]? = some k) :
    Registered (next + i) k.enter (frameMove config me next s frame signal).shared.wiring := by
  rcases (frameMove_stays config me next s signal frame).spawn with hnil | hcall
  · rw [hnil] at hk
    cases hk
  · cases frame <;> simp only [Frame.call, reduceCtorEq] at hcall
    case ensureConnection pc =>
      revert hk
      cases pc with
      | connecting =>
        cases signal with
        | value v =>
          intro hk
          rcases i with _ | _ | i
          · cases hk
            exact rfl
          · cases hk
            exact rfl
          · cases hk
        | failed e => rintro ⟨⟩
      | _ =>
        cases signal <;> simp only [frameMove, ensureConnection] <;> (try split) <;>
          rintro ⟨⟩

end moves

/-! ## Runs -/

/-- The close goes on: it is past its entry. -/
def Frame.isClosing : Frame → Prop
  | .closeSocketAndTasks _ .entry => False
  | .closeSocketAndTasks _ _ => True
  | _ => False

/-- The two ways to a second loop are not taken: a close begins neither in the handling of a server
message nor while another task closes. -/
def ClosesAlone (w : ServiceWorld) : ServiceAction → Prop
  | .tick => ∀ t signal cancelCurrent fs, w.running = some (t, signal) →
    w.stack t = .closeSocketAndTasks cancelCurrent .entry :: fs →
      (∀ payload, .receiveLoop (.handling payload) ∉ fs) ∧
      ∀ u, u ≠ t → ∀ cancelCurrent' pc, .closeSocketAndTasks cancelCurrent' pc ∉ w.stack u
  | _ => True

/-- What holds while a task closes. -/
structure Closing (w : ServiceWorld) (t : TaskId) (pc : ClosePc) : Prop where
  connected : w.shared.websocket.isSome = true
  unmarked : w.cancelled t = false
  outside : ∀ payload, .receiveLoop (.handling payload) ∉ w.stack t
  loops : match pc with
    | .entry => True
    | .awaiting task rest => ∀ u, u ≠ t →
      w.shared.sendTask = some u ∨ w.shared.receiveTask = some u →
        u = task ∨ u ∈ rest ∨ w.stack u = []
    | .closing => w.shared.sendTask = none ∧ w.shared.receiveTask = none

/-- The loops of the service are those it refers to. -/
structure LoopsWorld (config : LocalSTTConfig) (w : ServiceWorld) : Prop where
  shape : ServiceShaped config w
  lock : connectLock.Held w
  bare : w.shared.websocket = none → w.shared.sendTask = none ∧ w.shared.receiveTask = none
  bound : ∀ u, w.shared.sendTask = some u ∨ w.shared.receiveTask = some u → u < w.spawned
  frames : Coroutines.Outline (fun t frame s => Registered t frame s.wiring) w
  unmarked : ∀ t signal, w.running = some (t, signal) → w.cancelled t = false
  closing : ∀ t cancelCurrent pc, .closeSocketAndTasks cancelCurrent pc ∈ w.stack t →
    pc ≠ .entry → Closing w t pc
  single : ∀ t u, ∀ f ∈ w.stack t, ∀ g ∈ w.stack u, f.isClosing → g.isClosing → t = u
  /-- A close goes on when the task it awaits has ended. -/
  resumed : ∀ t signal cancelCurrent task rest fs, w.running = some (t, signal) →
    w.stack t = .closeSocketAndTasks cancelCurrent (.awaiting task rest) :: fs →
      w.stack task = []
  /-- When a close is done, there are no loops and nobody closes. -/
  done : ∀ t v f fs, w.running = some (t, .value v) → w.stack t = f :: fs → f.GivesUp →
    w.shared.sendTask = none ∧ w.shared.receiveTask = none ∧
      ∀ u, ∀ g ∈ w.stack u, ¬ g.isClosing

lemma loopsWorld_initial (config : LocalSTTConfig) : LoopsWorld config .initial where
  shape := serviceShaped_initial config
  lock := Coroutines.Lock.held_initial _ _
  bare _ := ⟨rfl, rfl⟩
  bound u h := by rcases h with h | h <;> cases h
  frames := Coroutines.outline_initial _ _
  unmarked t signal h := nomatch h
  closing t cancelCurrent pc h := nomatch h
  single t u f hf := nomatch hf
  resumed t signal cancelCurrent task rest fs h := nomatch h
  done t v f fs h := nomatch h

variable {config : LocalSTTConfig} {w : ServiceWorld} {t : TaskId} {signal : ServiceSignal}
  {f : Frame} {fs : List Frame}

lemma not_isClosing_enter (k : Call) : ¬ k.enter.isClosing := by
  cases k <;> exact id

/-- A close past its entry. -/
lemma isClosing_of_ne {cancelCurrent : Bool} {pc : ClosePc} (hpc : pc ≠ .entry) :
    (Frame.closeSocketAndTasks cancelCurrent pc).isClosing := by
  cases pc with
  | entry => exact absurd rfl hpc
  | awaiting task rest => exact trivial
  | closing => exact trivial

lemma closing_call {f : Frame} (h : f.isClosing) :
    ∃ cancelCurrent pc, f = .closeSocketAndTasks cancelCurrent pc := by
  cases f <;> first | exact ⟨_, _, rfl⟩ | cases h

lemma pending_of_isClosing {f : Frame} (h : f.isClosing) : f.pending = none := by
  obtain ⟨cancelCurrent, pc, rfl⟩ := closing_call h
  rfl

/-- The frames below the running one wait for a call. -/
lemma LoopsWorld.pending_of_mem (hw : LoopsWorld config w) (hf : w.stack t = f :: fs) {g : Frame}
    (hg : g ∈ fs) : ∃ k, g.pending = some k :=
  Coroutines.NestedStack.pending_of_mem (M := service config) (hf ▸ hw.shape.shaped.nested t) hg

/-- The task moves a frame. -/
abbrev afterMove (config : LocalSTTConfig) (w : ServiceWorld) (t : TaskId) (signal : ServiceSignal)
    (f : Frame) (fs : List Frame) : ServiceWorld :=
  (service config).apply w t fs (frameMove config t w.spawned w.shared f signal)

/-- A task that closes after a frame move did so before, or it moved. -/
lemma LoopsWorld.closing_after (hw : LoopsWorld config w) (hf : w.stack t = f :: fs) {u : TaskId}
    {g : Frame} (hg : g ∈ (afterMove config w t signal f fs).stack u) (hclosing : g.isClosing) :
    (u ≠ t ∧ g ∈ w.stack u) ∨
      (u = t ∧ Coroutines.Command.rest
        (frameMove config t w.spawned w.shared f signal).command = some g) := by
  rcases Coroutines.mem_apply hf hg with ⟨rfl, hnew⟩ | ⟨k, -, -, rfl⟩ | ⟨hold, hfs⟩
  · obtain hrest | ⟨k, rfl⟩ := Coroutines.mem_frames hnew
    · exact .inr ⟨rfl, hrest⟩
    · exact absurd hclosing (not_isClosing_enter k)
  · exact absurd hclosing (not_isClosing_enter k)
  · refine .inl ⟨fun hu => ?_, hold⟩
    obtain ⟨k, hk⟩ := hw.pending_of_mem hf (hfs hu)
    rw [pending_of_isClosing hclosing] at hk
    cases hk

/-- After a frame move, the running task is not resumed in a close. -/
lemma LoopsWorld.resumed_after (hw : LoopsWorld config w) (hf : w.stack t = f :: fs) {u : TaskId}
    {signal' : ServiceSignal} {cancelCurrent : Bool} {task : TaskId} {rest : List TaskId}
    {gs : List Frame} (hrun : (afterMove config w t signal f fs).running = some (u, signal'))
    (hg : (afterMove config w t signal f fs).stack u =
      .closeSocketAndTasks cancelCurrent (.awaiting task rest) :: gs) : False := by
  rcases Coroutines.pending_of_running_apply hw.shape.shaped hf hrun hg with ⟨k, hk⟩ | hpending
  · cases k <;> cases hk
  · cases hpending

/-- A task that has ended stays so. -/
lemma LoopsWorld.dead_after (hw : LoopsWorld config w) (hf : w.stack t = f :: fs) {u : TaskId}
    (hu : w.shared.sendTask = some u ∨ w.shared.receiveTask = some u) (hdead : w.stack u = []) :
    (afterMove config w t signal f fs).stack u = [] := by
  rw [Coroutines.apply_stack_of_ne _ _ _ _ _ ?_ (hw.bound u hu), hdead]
  rintro rfl
  rw [hf] at hdead
  cases hdead

/-- Outside `_close_socket_and_tasks`, a frame move cancels nobody. -/
lemma cancelled_after (hclose : ∀ cancelCurrent pc, f ≠ .closeSocketAndTasks cancelCurrent pc) :
    (afterMove config w t signal f fs).cancelled = w.cancelled := by
  rcases (frameMove_stays config t w.spawned w.shared signal f).cancel with hnil | ⟨c, hcall⟩
  · rw [Coroutines.apply_cancelled, hnil]
    rfl
  · cases f <;> simp only [Frame.call, reduceCtorEq] at hcall
    exact absurd rfl (hclose _ _)

/-- While another task closes, a frame move leaves the wiring alone. -/
lemma LoopsWorld.wiring_of_closing (hw : LoopsWorld config w)
    (hrun : w.running = some (t, signal)) (hf : w.stack t = f :: fs)
    (hclose : ∀ cancelCurrent pc, f ≠ .closeSocketAndTasks cancelCurrent pc) {u : TaskId}
    {g : Frame} (hg : g ∈ w.stack u) (hclosing : g.isClosing)
    (hconnected : w.shared.websocket.isSome = true) :
    (frameMove config t w.spawned w.shared f signal).shared.wiring = w.shared.wiring := by
  have hmove : Rewires w.spawned w.shared f signal
      (frameMove config t w.spawned w.shared f signal).shared.wiring := frameMove_rewires hclose
  cases hmove with
  | same hl => exact hl
  | connect hframe hsignal hl =>
    have hregistered : Registered t f w.shared.wiring :=
      hw.frames t f (hf ▸ List.mem_cons_self ..)
    have hwebsocket : w.shared.websocket = none := by
      subst hframe
      exact hregistered
    rw [hwebsocket] at hconnected
    cases hconnected
  | giveUp hframe hsignal hl =>
    exact absurd hclosing ((hw.done t _ f fs (hsignal ▸ hrun) hf hframe).2.2 u _ hg)

/-- A frame move outside `_close_socket_and_tasks` leaves the other frames registered. -/
lemma LoopsWorld.registered_after (hw : LoopsWorld config w) (hf : w.stack t = f :: fs)
    (hclose : ∀ cancelCurrent pc, f ≠ .closeSocketAndTasks cancelCurrent pc) {u : TaskId}
    {g : Frame} (hg : g ∈ w.stack u) (hfs : u = t → g ∈ fs)
    (hold : Registered u g w.shared.wiring) :
    Registered u g (frameMove config t w.spawned w.shared f signal).shared.wiring := by
  have htop : f ∈ w.stack t := hf ▸ List.mem_cons_self ..
  have hmove : Rewires w.spawned w.shared f signal
      (frameMove config t w.spawned w.shared f signal).shared.wiring := frameMove_rewires hclose
  cases hmove with
  | same hl => exact hl ▸ hold
  | connect hframe hsignal hl =>
    have hregistered : Registered t f w.shared.wiring := hw.frames t f htop
    have hwebsocket : w.shared.websocket = none := by
      subst hframe
      exact hregistered
    obtain ⟨hsend, hreceive⟩ := hw.bare hwebsocket
    refine hold.imp (fun h => ?_) (fun h => ?_) fun hg' => ?_
    · cases hsend.symm.trans h
    · cases hreceive.symm.trans h
    · -- the lock admits one connecting task, and this one is done
      have hu : u = t := hw.lock.unique hg htop hg' hframe
      obtain ⟨k, hk⟩ := hw.pending_of_mem hf (hfs hu)
      rw [hg'] at hk
      cases hk
  | giveUp hframe hsignal hl =>
    have hwebsocket : _ = none := congrArg Wiring.websocket hl
    exact hold.imp (congrArg Wiring.sendTask hl).trans (congrArg Wiring.receiveTask hl).trans
      fun _ => hwebsocket

/-- Outside `_close_socket_and_tasks`, only a task that closed before closes after a frame move. -/
lemma LoopsWorld.closed_before (hw : LoopsWorld config w) (hf : w.stack t = f :: fs)
    (hclose : ∀ cancelCurrent pc, f ≠ .closeSocketAndTasks cancelCurrent pc) {u : TaskId}
    {g : Frame} (hg : g ∈ (afterMove config w t signal f fs).stack u) (hisClosing : g.isClosing) :
    u ≠ t ∧ g ∈ w.stack u := by
  rcases hw.closing_after hf hg hisClosing with h | ⟨-, hrest⟩
  · exact h
  · obtain ⟨cancelCurrent, pc, rfl⟩ := closing_call hisClosing
    have hcall := (service_lawful config).fn_rest hrest
    cases f <;> cases hcall
    exact absurd rfl (hclose _ _)

/-- Without a connection there are no loops after a frame move. -/
lemma LoopsWorld.bare_after (hw : LoopsWorld config w) (hrun : w.running = some (t, signal))
    (hf : w.stack t = f :: fs)
    (hclose : ∀ cancelCurrent pc, f ≠ .closeSocketAndTasks cancelCurrent pc)
    (hwebsocket : (frameMove config t w.spawned w.shared f signal).shared.websocket = none) :
    (frameMove config t w.spawned w.shared f signal).shared.sendTask = none ∧
      (frameMove config t w.spawned w.shared f signal).shared.receiveTask = none := by
  have hmove : Rewires w.spawned w.shared f signal
      (frameMove config t w.spawned w.shared f signal).shared.wiring := frameMove_rewires hclose
  cases hmove with
  | same hl =>
    obtain ⟨hsend, hreceive⟩ := hw.bare ((congrArg Wiring.websocket hl).symm.trans hwebsocket)
    exact ⟨(congrArg Wiring.sendTask hl).trans hsend,
      (congrArg Wiring.receiveTask hl).trans hreceive⟩
  | connect hframe hsignal hl => cases (congrArg Wiring.websocket hl).symm.trans hwebsocket
  | giveUp hframe hsignal hl =>
    obtain ⟨hsend, hreceive, -⟩ := hw.done t _ f fs (hsignal ▸ hrun) hf hframe
    exact ⟨(congrArg Wiring.sendTask hl).trans hsend,
      (congrArg Wiring.receiveTask hl).trans hreceive⟩

/-- The loops that the service refers to after a frame move were created. -/
lemma LoopsWorld.bound_after (hw : LoopsWorld config w)
    (hclose : ∀ cancelCurrent pc, f ≠ .closeSocketAndTasks cancelCurrent pc) {u : TaskId}
    (hu : (frameMove config t w.spawned w.shared f signal).shared.sendTask = some u ∨
      (frameMove config t w.spawned w.shared f signal).shared.receiveTask = some u) :
    u < (afterMove config w t signal f fs).spawned := by
  have hspawned : w.spawned ≤ (afterMove config w t signal f fs).spawned := by
    rw [Coroutines.apply_spawned]
    exact Nat.le_add_right ..
  have hmove : Rewires w.spawned w.shared f signal
      (frameMove config t w.spawned w.shared f signal).shared.wiring := frameMove_rewires hclose
  cases hmove with
  | same hl =>
    have hsend : _ = w.shared.sendTask := congrArg Wiring.sendTask hl
    have hreceive : _ = w.shared.receiveTask := congrArg Wiring.receiveTask hl
    exact (hw.bound u (hu.imp hsend.symm.trans hreceive.symm.trans)).trans_le hspawned
  | connect hframe hsignal hl =>
    have hsend : _ = some w.spawned := congrArg Wiring.sendTask hl
    have hreceive : _ = some (w.spawned + 1) := congrArg Wiring.receiveTask hl
    subst hframe hsignal
    rcases hu with hu | hu
    · obtain rfl := Option.some.inj (hsend.symm.trans hu)
      exact Nat.lt_add_of_pos_right Nat.two_pos
    · obtain rfl := Option.some.inj (hreceive.symm.trans hu)
      exact Nat.lt_succ_self _
  | giveUp hframe hsignal hl =>
    have hsend : _ = w.shared.sendTask := congrArg Wiring.sendTask hl
    have hreceive : _ = w.shared.receiveTask := congrArg Wiring.receiveTask hl
    exact (hw.bound u (hu.imp hsend.symm.trans hreceive.symm.trans)).trans_le hspawned

/-- A close of another task is where it was. -/
lemma LoopsWorld.closing_kept (hw : LoopsWorld config w) (hrun : w.running = some (t, signal))
    (hf : w.stack t = f :: fs)
    (hclose : ∀ cancelCurrent pc, f ≠ .closeSocketAndTasks cancelCurrent pc) {u : TaskId}
    {cancelCurrent : Bool} {pc : ClosePc} (hu : u ≠ t)
    (hold : .closeSocketAndTasks cancelCurrent pc ∈ w.stack u) (hpc : pc ≠ .entry)
    (hisClosing : (Frame.closeSocketAndTasks cancelCurrent pc).isClosing) :
    Closing (afterMove config w t signal f fs) u pc := by
  have hshared : (afterMove config w t signal f fs).shared =
      (frameMove config t w.spawned w.shared f signal).shared := Coroutines.apply_shared ..
  obtain ⟨hconnected, hunmarked, houtside, hloops⟩ := hw.closing u cancelCurrent pc hold hpc
  have hstack : (afterMove config w t signal f fs).stack u = w.stack u := by
    refine Coroutines.apply_stack_of_ne _ _ _ _ _ hu ?_
    by_contra hlt
    rw [hw.shape.shaped.fresh u (not_lt.mp hlt)] at hold
    cases hold
  have hsame : (frameMove config t w.spawned w.shared f signal).shared.wiring =
      w.shared.wiring := hw.wiring_of_closing hrun hf hclose hold hisClosing hconnected
  have hsend : _ = w.shared.sendTask := congrArg Wiring.sendTask hsame
  have hreceive : _ = w.shared.receiveTask := congrArg Wiring.receiveTask hsame
  refine ⟨?_, by rw [cancelled_after hclose]; exact hunmarked, by rw [hstack]; exact houtside, ?_⟩
  · rw [hshared]
    exact (congrArg (fun l => l.websocket.isSome) hsame).trans hconnected
  · cases pc with
    | entry => exact trivial
    | awaiting task rest =>
      intro v hv hlink
      rw [hshared] at hlink
      have hlink := hlink.imp hsend.symm.trans hreceive.symm.trans
      rcases hloops v hv hlink with h | h | h
      · exact .inl h
      · exact .inr (.inl h)
      · exact .inr (.inr (hw.dead_after hf hlink h))
    | closing =>
      rw [hshared]
      exact ⟨hsend.trans hloops.1, hreceive.trans hloops.2⟩

/-- After a frame move outside `_close_socket_and_tasks`, no frame goes on that waited for a
close. -/
lemma LoopsWorld.not_givesUp_after (hw : LoopsWorld config w) (hf : w.stack t = f :: fs)
    (hclose : ∀ cancelCurrent pc, f ≠ .closeSocketAndTasks cancelCurrent pc) {u : TaskId}
    {signal' : ServiceSignal} {g : Frame} {gs : List Frame}
    (hrun : (afterMove config w t signal f fs).running = some (u, signal'))
    (hg : (afterMove config w t signal f fs).stack u = g :: gs) : ¬ g.GivesUp := by
  intro hgivesUp
  obtain ⟨rfl, hcase⟩ := Coroutines.running_apply hrun hg
  have htail : fs = g :: gs → False := by
    intro htail
    have hnested : (service config).NestedStack (f :: fs) := hf ▸ hw.shape.shaped.nested u
    rw [htail] at hnested
    have hpending : g.pending = some f.call := (List.isChain_cons_cons.mp hnested).1
    cases hgivesUp <;> cases f <;> cases hpending <;> exact absurd rfl (hclose _ _)
  rcases hcase with ⟨f', k, -, rfl, -, -⟩ | ⟨-, h, -⟩ | ⟨e, -, h, -⟩
  · cases k <;> cases hgivesUp
  · exact htail h
  · exact htail h

/-- A frame move outside `_close_socket_and_tasks` keeps the loops registered. -/
lemma LoopsWorld.move (hw : LoopsWorld config w) (hrun : w.running = some (t, signal))
    (hf : w.stack t = f :: fs)
    (hclose : ∀ cancelCurrent pc, f ≠ .closeSocketAndTasks cancelCurrent pc)
    (hshape : ServiceShaped config (afterMove config w t signal f fs))
    (hlock : connectLock.Held (afterMove config w t signal f fs)) :
    LoopsWorld config (afterMove config w t signal f fs) := by
  have hregistered : Registered t f w.shared.wiring :=
    hw.frames t f (hf ▸ List.mem_cons_self ..)
  have hshared : (afterMove config w t signal f fs).shared =
      (frameMove config t w.spawned w.shared f signal).shared := Coroutines.apply_shared ..
  refine
    { shape := hshape
      lock := hlock
      bare := ?bare
      bound := ?bound
      frames := ?frames
      unmarked := ?unmarked
      closing := ?closing
      single := ?single
      resumed := fun u signal' cancelCurrent task rest gs hrun' hg =>
        (hw.resumed_after hf hrun' hg).elim
      done := fun u v g gs hrun' hg hgivesUp =>
        absurd hgivesUp (hw.not_givesUp_after hf hclose hrun' hg) }
  case bare =>
    rw [hshared]
    exact hw.bare_after hrun hf hclose
  case bound =>
    rw [hshared]
    exact fun u hu => hw.bound_after hclose hu
  case frames =>
    refine hw.frames.tick hf ⟨EachFrame.frames (frameMove_registered hregistered), ?_, ?_⟩
    · exact fun i k hk => spawn_registered hk
    · exact fun u g hg hfs hold => hw.registered_after hf hclose hg hfs hold
  case unmarked =>
    intro u signal' hrun'
    rw [cancelled_after hclose, Coroutines.running_task hrun']
    exact hw.unmarked t signal hrun
  case closing =>
    intro u cancelCurrent pc hg hpc
    have hisClosing : (Frame.closeSocketAndTasks cancelCurrent pc).isClosing :=
      isClosing_of_ne hpc
    obtain ⟨hu, hold⟩ := hw.closed_before hf hclose hg hisClosing
    exact hw.closing_kept hrun hf hclose hu hold hpc hisClosing
  case single =>
    intro u v g hg g' hg' hclosing₁ hclosing₂
    exact hw.single u v g (hw.closed_before hf hclose hg hclosing₁).2 g'
      (hw.closed_before hf hclose hg' hclosing₂).2 hclosing₁ hclosing₂

/-- How a frame move of a close ends: it awaits another task, or it forgets the loops, which have
ended, or it raises. -/
inductive CloseMove (w : ServiceWorld) (t : TaskId) (cancelCurrent : Bool) (m : ServiceMove) : Prop
  | await {task : TaskId} {rest : List TaskId}
      (hcommand : m.command = .await (.closeSocketAndTasks cancelCurrent (.awaiting task rest)))
      (hl : m.shared.wiring = w.shared.wiring) (hconnected : w.shared.websocket.isSome = true)
      (hloops : ∀ u, u ≠ t → w.shared.sendTask = some u ∨ w.shared.receiveTask = some u →
        u = task ∨ u ∈ rest ∨ w.stack u = [])
  | closing (hcommand : m.command = .await (.closeSocketAndTasks cancelCurrent .closing))
      (hl : m.shared.wiring = ⟨w.shared.websocket, none, none⟩)
      (hconnected : w.shared.websocket.isSome = true)
      (hdead : ∀ u, u ≠ t → w.shared.sendTask = some u ∨ w.shared.receiveTask = some u →
        w.stack u = [])
  | ret (hcommand : m.command = .ret) (hl : m.shared.wiring = ⟨w.shared.websocket, none, none⟩)
      (hdead : ∀ u, u ≠ t → w.shared.sendTask = some u ∨ w.shared.receiveTask = some u →
        w.stack u = [])
  | throw {e : TaskExn PluginExn} (hcommand : m.command = .throw e)
      (hl : m.shared.wiring = w.shared.wiring)

/-- A close that has these tasks left to await. -/
lemma Closes.move {cancelCurrent : Bool} {tasks : List TaskId} {m : ServiceMove}
    (h : Closes w.shared cancelCurrent tasks m)
    (hconnected : tasks ≠ [] → w.shared.websocket.isSome = true)
    (hloops : ∀ u, u ≠ t → w.shared.sendTask = some u ∨ w.shared.receiveTask = some u →
      u ∈ tasks ∨ w.stack u = []) : CloseMove w t cancelCurrent m := by
  cases h with
  | await hcommand hshared =>
    refine .await hcommand hshared (hconnected (by simp)) fun u hu hlink => ?_
    rcases hloops u hu hlink with h | h
    · exact (List.mem_cons.mp h).imp_right .inl
    · exact .inr (.inr h)
  | closing hcommand hsome hshared =>
    refine .closing hcommand hshared hsome fun u hu hlink => ?_
    exact (hloops u hu hlink).resolve_left (by simp)
  | ret hcommand hshared =>
    refine .ret hcommand hshared fun u hu hlink => ?_
    exact (hloops u hu hlink).resolve_left (by simp)

/-- A close leaves the wiring alone, or forgets the loops, which have ended. -/
lemma CloseMove.wiring {cancelCurrent : Bool} {m : ServiceMove}
    (h : CloseMove w t cancelCurrent m) :
    m.shared.wiring = w.shared.wiring ∨ (m.shared.wiring = ⟨w.shared.websocket, none, none⟩ ∧
      ∀ u, u ≠ t → w.shared.sendTask = some u ∨ w.shared.receiveTask = some u →
        w.stack u = []) := by
  cases h with
  | await hcommand hl hconnected hloops => exact .inl hl
  | closing hcommand hl hconnected hdead => exact .inr ⟨hl, hdead⟩
  | ret hcommand hl hdead => exact .inr ⟨hl, hdead⟩
  | throw hcommand hl => exact .inl hl

/-- **What a frame move of a close does.** -/
lemma LoopsWorld.closeMove (hw : LoopsWorld config w) (hrun : w.running = some (t, signal))
    {cancelCurrent : Bool} {pc : ClosePc}
    (hf : w.stack t = .closeSocketAndTasks cancelCurrent pc :: fs) :
    CloseMove w t cancelCurrent
      (frameMove config t w.spawned w.shared (.closeSocketAndTasks cancelCurrent pc) signal) := by
  have htop : .closeSocketAndTasks cancelCurrent pc ∈ w.stack t := hf ▸ List.mem_cons_self ..
  cases pc with
  | entry =>
    refine (closes_entry cancelCurrent).1.move (fun hne => ?_) fun u hu hlink => .inl ?_
    · cases hwebsocket : w.shared.websocket with
      | some connection => rfl
      | none =>
        obtain ⟨hsend, hreceive⟩ := hw.bare hwebsocket
        simp [Service.linkTasks, hsend, hreceive] at hne
    · rcases hlink with h | h <;> simp [Service.linkTasks, h, hu]
  | awaiting task rest =>
    obtain ⟨hconnected, -, -, hloops⟩ := hw.closing t cancelCurrent _ htop (by simp)
    have hended : w.stack task = [] := hw.resumed t signal cancelCurrent task rest fs hrun hf
    have hleft : ∀ u, u ≠ t → w.shared.sendTask = some u ∨ w.shared.receiveTask = some u →
        u ∈ rest ∨ w.stack u = [] := by
      intro u hu hlink
      rcases hloops u hu hlink with rfl | h | h
      · exact .inr hended
      · exact .inl h
      · exact .inr h
    have hcloses := (awaitTasks_closes (s := w.shared) cancelCurrent rest).move
      (fun _ => hconnected) hleft
    rcases signal with v | (_ | e)
    · exact hcloses
    · exact hcloses
    · exact .throw rfl rfl
  | closing =>
    obtain ⟨hconnected, -, -, hsend, hreceive⟩ := hw.closing t cancelCurrent _ htop (by simp)
    have hwiring : w.shared.wiring = ⟨w.shared.websocket, none, none⟩ := by
      simp only [Service.wiring, hsend, hreceive]
    have hret : CloseMove w t cancelCurrent
        (.ret { w.shared with closed := w.shared.closed && cancelCurrent }) := by
      refine .ret rfl hwiring fun u hu hlink => ?_
      rw [hsend, hreceive] at hlink
      rcases hlink with h | h <;> cases h
    rcases signal with v | (_ | e)
    · exact hret
    · exact .throw rfl rfl
    · exact hret

/-- While a close moves, no message is handled below it, nobody else closes, and its task gets no
mark. -/
lemma LoopsWorld.alone (hw : LoopsWorld config w) (hrun : w.running = some (t, signal))
    {cancelCurrent : Bool} {pc : ClosePc}
    (hf : w.stack t = .closeSocketAndTasks cancelCurrent pc :: fs) (hC : ClosesAlone w .tick) :
    (∀ payload, .receiveLoop (.handling payload) ∉ fs) ∧
      (∀ u, u ≠ t → ∀ g ∈ w.stack u, ¬ g.isClosing) ∧
      (afterMove config w t signal (.closeSocketAndTasks cancelCurrent pc) fs).cancelled t =
        false := by
  have htop : .closeSocketAndTasks cancelCurrent pc ∈ w.stack t := hf ▸ List.mem_cons_self ..
  have hunmarked : w.cancelled t = false := hw.unmarked t signal hrun
  by_cases hpc : pc = .entry
  · subst hpc
    obtain ⟨hhandling, halone⟩ := hC t signal cancelCurrent fs hrun hf
    refine ⟨hhandling, fun u hu g hg hclosing => ?_, ?_⟩
    · obtain ⟨c, pc, rfl⟩ := closing_call hclosing
      exact halone u hu c pc hg
    · rw [Coroutines.apply_cancelled, (closes_entry cancelCurrent).2,
        Coroutines.cancelAll_of_not_mem, hunmarked]
      · intro u hu
        simpa using (List.mem_filter.mp hu).2
      · intro u hu g gs hg
        have hne : u ≠ t := by simpa using (List.mem_filter.mp hu).2
        cases g with
        | closeSocketAndTasks c pc =>
          exact absurd (hg ▸ List.mem_cons_self ..) (halone u hne c pc)
        | _ => rfl
  · have hclosing : (Frame.closeSocketAndTasks cancelCurrent pc).isClosing := isClosing_of_ne hpc
    obtain ⟨-, -, hhandling, -⟩ := hw.closing t cancelCurrent pc htop hpc
    refine ⟨fun payload hmem => hhandling payload (hf ▸ List.mem_cons_of_mem _ hmem),
      fun u hu g hg hg' => hu (hw.single u t g hg _ htop hg' hclosing), ?_⟩
    have hcancel : (frameMove config t w.spawned w.shared
        (.closeSocketAndTasks cancelCurrent pc) signal).cancel = [] :=
      closeSocketAndTasks_cancel hpc
    rw [Coroutines.apply_cancelled]
    exact (congrArg (fun ts => (service config).cancelAll w.stack w.spawned w.cancelled ts t)
      hcancel).trans hunmarked

/-- Forgetting loops that have ended leaves the frames registered, but for the one that moves. -/
lemma LoopsWorld.registered_of_forgotten (hw : LoopsWorld config w) (hf : w.stack t = f :: fs)
    (houtside : ∀ payload, .receiveLoop (.handling payload) ∉ fs)
    (hdead : ∀ u, u ≠ t → w.shared.sendTask = some u ∨ w.shared.receiveTask = some u →
      w.stack u = [])
    {u : TaskId} {g : Frame} (hg : g ∈ w.stack u) (hfs : u = t → g ∈ fs)
    (hold : Registered u g w.shared.wiring) :
    Registered u g ⟨w.shared.websocket, none, none⟩ := by
  by_cases hu : u = t
  · obtain ⟨k, hk⟩ := hw.pending_of_mem hf (hfs hu)
    exact registered_of_pending hk fun payload h => houtside payload (h ▸ hfs hu)
  · refine hold.imp (fun h => ?_) (fun h => ?_) fun h => by subst h; exact hold
    · rw [hdead u hu (.inl h)] at hg
      cases hg
    · rw [hdead u hu (.inr h)] at hg
      cases hg

/-- The world after a frame move of a close. -/
abbrev afterClose (config : LocalSTTConfig) (w : ServiceWorld) (t : TaskId)
    (signal : ServiceSignal) (cancelCurrent : Bool) (pc : ClosePc) (fs : List Frame) :
    ServiceWorld :=
  afterMove config w t signal (.closeSocketAndTasks cancelCurrent pc) fs

/-- The frame move of a close. -/
abbrev closingMove (config : LocalSTTConfig) (w : ServiceWorld) (t : TaskId)
    (signal : ServiceSignal) (cancelCurrent : Bool) (pc : ClosePc) : ServiceMove :=
  frameMove config t w.spawned w.shared (.closeSocketAndTasks cancelCurrent pc) signal

section close

variable {cancelCurrent : Bool} {pc : ClosePc}

/-- When nobody else closes, the only task that closes afterwards is the one that moved. -/
lemma LoopsWorld.closing_here (hw : LoopsWorld config w)
    (hf : w.stack t = .closeSocketAndTasks cancelCurrent pc :: fs)
    (hothers : ∀ u, u ≠ t → ∀ g ∈ w.stack u, ¬ g.isClosing) {u : TaskId} {g : Frame}
    (hg : g ∈ (afterClose config w t signal cancelCurrent pc fs).stack u)
    (hisClosing : g.isClosing) :
    u = t ∧ Coroutines.Command.rest (closingMove config w t signal cancelCurrent pc).command =
      some g := by
  rcases hw.closing_after hf hg hisClosing with ⟨hu, hold⟩ | h
  · exact absurd hisClosing (hothers u hu g hold)
  · exact h

/-- A close that goes on is not below the handling of a message. -/
lemma not_handling_after (hf : w.stack t = .closeSocketAndTasks cancelCurrent pc :: fs)
    (houtside : ∀ payload, .receiveLoop (.handling payload) ∉ fs) {g : Frame}
    (hrest : Coroutines.Command.rest (closingMove config w t signal cancelCurrent pc).command =
      some g) (hisClosing : g.isClosing) (payload : Dict) :
    .receiveLoop (.handling payload) ∉
      (afterClose config w t signal cancelCurrent pc fs).stack t := by
  intro hmem
  rcases Coroutines.mem_apply hf hmem with ⟨-, hnew⟩ | ⟨k, -, -, hk⟩ | ⟨-, hfs⟩
  · obtain hrest' | ⟨k, hk⟩ := Coroutines.mem_frames hnew
    · rw [hrest] at hrest'
      obtain rfl := Option.some.inj hrest'
      exact hisClosing
    · cases k <;> cases hk
  · cases k <;> cases hk
  · exact houtside payload (hfs rfl)

/-- A close that goes on has the loops that are left, or has forgotten them. -/
lemma LoopsWorld.closing_goesOn (hw : LoopsWorld config w) (hrun : w.running = some (t, signal))
    (hf : w.stack t = .closeSocketAndTasks cancelCurrent pc :: fs)
    (houtside : ∀ payload, .receiveLoop (.handling payload) ∉ fs)
    (hmark : (afterClose config w t signal cancelCurrent pc fs).cancelled t = false)
    {c : Bool} {pc' : ClosePc} (hisClosing : (Frame.closeSocketAndTasks c pc').isClosing)
    (hrest : Coroutines.Command.rest (closingMove config w t signal cancelCurrent pc).command =
      some (.closeSocketAndTasks c pc')) :
    Closing (afterClose config w t signal cancelCurrent pc fs) t pc' := by
  have hshared : (afterClose config w t signal cancelCurrent pc fs).shared =
      (closingMove config w t signal cancelCurrent pc).shared := Coroutines.apply_shared ..
  have hhandling := not_handling_after hf houtside hrest hisClosing
  cases hw.closeMove hrun hf with
  | await hcommand hl hconnected hloops =>
    rw [hcommand] at hrest
    cases hrest
    refine ⟨?_, hmark, hhandling, fun v hv hlink => ?_⟩
    · rw [hshared]
      exact (congrArg (fun l => l.websocket.isSome) hl).trans hconnected
    · rw [hshared] at hlink
      have hlink := hlink.imp (congrArg Wiring.sendTask hl).symm.trans
        (congrArg Wiring.receiveTask hl).symm.trans
      rcases hloops v hv hlink with h | h | h
      · exact .inl h
      · exact .inr (.inl h)
      · exact .inr (.inr (hw.dead_after hf hlink h))
  | closing hcommand hl hconnected hdead =>
    rw [hcommand] at hrest
    cases hrest
    refine ⟨?_, hmark, hhandling, ?_⟩
    · rw [hshared]
      exact (congrArg (fun l => l.websocket.isSome) hl).trans hconnected
    · rw [hshared]
      exact ⟨congrArg Wiring.sendTask hl, congrArg Wiring.receiveTask hl⟩
  | ret hcommand hl hdead =>
    rw [hcommand] at hrest
    cases hrest
  | throw hcommand hl =>
    rw [hcommand] at hrest
    cases hrest

/-- A close that a frame goes on from has returned, and the loops are forgotten. -/
lemma LoopsWorld.closed_after (hw : LoopsWorld config w) (hrun : w.running = some (t, signal))
    (hf : w.stack t = .closeSocketAndTasks cancelCurrent pc :: fs) {u : TaskId}
    {v : Option Json} {g : Frame} {gs : List Frame}
    (hrun' : (afterClose config w t signal cancelCurrent pc fs).running = some (u, .value v))
    (hg : (afterClose config w t signal cancelCurrent pc fs).stack u = g :: gs)
    (hgivesUp : g.GivesUp) :
    (closingMove config w t signal cancelCurrent pc).command = .ret ∧
      (closingMove config w t signal cancelCurrent pc).shared.wiring =
        ⟨w.shared.websocket, none, none⟩ := by
  obtain ⟨rfl, hcase⟩ := Coroutines.running_apply hrun' hg
  have hret : (closingMove config w u signal cancelCurrent pc).command = .ret := by
    rcases hcase with ⟨f', k, -, rfl, -, -⟩ | ⟨h, -, -⟩ | ⟨e, -, -, h⟩
    · cases k <;> cases hgivesUp
    · exact h
    · cases h
  refine ⟨hret, ?_⟩
  cases hw.closeMove hrun hf with
  | await hcommand => cases hret.symm.trans hcommand
  | closing hcommand => cases hret.symm.trans hcommand
  | ret hcommand hl => exact hl
  | throw hcommand => cases hret.symm.trans hcommand

/-- A frame move of a close that is alone keeps the loops registered. -/
lemma LoopsWorld.close (hw : LoopsWorld config w) (hrun : w.running = some (t, signal))
    (hf : w.stack t = .closeSocketAndTasks cancelCurrent pc :: fs) (hC : ClosesAlone w .tick)
    (hshape : ServiceShaped config (afterClose config w t signal cancelCurrent pc fs))
    (hlock : connectLock.Held (afterClose config w t signal cancelCurrent pc fs)) :
    LoopsWorld config (afterClose config w t signal cancelCurrent pc fs) := by
  have hshared : (afterClose config w t signal cancelCurrent pc fs).shared =
      (closingMove config w t signal cancelCurrent pc).shared := Coroutines.apply_shared ..
  have hspawned : w.spawned ≤ (afterClose config w t signal cancelCurrent pc fs).spawned := by
    rw [Coroutines.apply_spawned]
    exact Nat.le_add_right ..
  obtain ⟨houtside, hothers, hmark⟩ := hw.alone hrun hf hC
  have hlinks := (hw.closeMove hrun hf).wiring
  rw [← hshared] at hlinks
  refine
    { shape := hshape
      lock := hlock
      bare := ?bare
      bound := ?bound
      frames := ?frames
      unmarked := fun u signal' hrun' => Coroutines.running_task hrun' ▸ hmark
      closing := ?goesOn
      single := ?single
      resumed := fun u signal' c task rest gs hrun' hg => (hw.resumed_after hf hrun' hg).elim
      done := ?done }
  case bare =>
    intro hwebsocket
    rcases hlinks with hl | ⟨hl, -⟩
    · obtain ⟨hsend, hreceive⟩ := hw.bare ((congrArg Wiring.websocket hl).symm.trans hwebsocket)
      exact ⟨(congrArg Wiring.sendTask hl).trans hsend,
        (congrArg Wiring.receiveTask hl).trans hreceive⟩
    · exact ⟨congrArg Wiring.sendTask hl, congrArg Wiring.receiveTask hl⟩
  case bound =>
    intro u hu
    rcases hlinks with hl | ⟨hl, -⟩
    · exact (hw.bound u (hu.imp (congrArg Wiring.sendTask hl).symm.trans
        (congrArg Wiring.receiveTask hl).symm.trans)).trans_le hspawned
    · rcases hu with hu | hu
      · cases (congrArg Wiring.sendTask hl).symm.trans hu
      · cases (congrArg Wiring.receiveTask hl).symm.trans hu
  case frames =>
    refine hw.frames.tick hf ⟨EachFrame.frames (frameMove_registered trivial), ?_, ?_⟩
    · exact fun i k hk => spawn_registered hk
    · intro u g hg hfs hold
      rw [hshared] at hlinks
      rcases hlinks with hl | ⟨hl, hdead⟩
      · exact hl ▸ hold
      · exact hl ▸ hw.registered_of_forgotten hf houtside hdead hg hfs hold
  case goesOn =>
    intro u c pc' hg hpc'
    have hisClosing : (Frame.closeSocketAndTasks c pc').isClosing := isClosing_of_ne hpc'
    obtain ⟨rfl, hrest⟩ := hw.closing_here hf hothers hg hisClosing
    exact hw.closing_goesOn hrun hf houtside hmark hisClosing hrest
  case single =>
    intro u v g hg g' hg' hclosing₁ hclosing₂
    exact (hw.closing_here hf hothers hg hclosing₁).1.trans
      (hw.closing_here hf hothers hg' hclosing₂).1.symm
  case done =>
    intro u v g gs hrun' hg hgivesUp
    obtain ⟨hret, hl⟩ := hw.closed_after hrun hf hrun' hg hgivesUp
    rw [hshared]
    refine ⟨congrArg Wiring.sendTask hl, congrArg Wiring.receiveTask hl,
      fun v' g' hg' hclosing' => ?_⟩
    have hrest := (hw.closing_here hf hothers hg' hclosing').2
    rw [hret] at hrest
    cases hrest

end close

/-- A step in which closes are alone keeps the loops registered. -/
theorem loops_step {w' : ServiceWorld} {a : ServiceAction} (hw : LoopsWorld config w)
    (hC : ClosesAlone w a) (h : (service config).step w a = some w') : LoopsWorld config w' := by
  have hshape := serviceShaped_step hw.shape h
  have hlock := Coroutines.Lock.held_step (service_lawful config) connectLock_obeyed
    hw.shape.shaped hw.lock h
  cases (service config).step_cases h with
  | @call k hrun hk =>
    -- the new task is at the entry of its call
    have hold : ∀ u, ∀ g ∈ Function.update w.stack w.spawned [k.enter] u, g.isClosing →
        g ∈ w.stack u := by
      intro u g hg hclosing
      by_cases hu : u = w.spawned
      · subst hu
        obtain rfl : g = k.enter := by simpa using hg
        exact absurd hclosing (not_isClosing_enter k)
      · simpa [Function.update_of_ne hu] using hg
    refine
      { shape := hshape
        lock := hlock
        bare := hw.bare
        bound := fun u hu => (hw.bound u hu).trans (Nat.lt_succ_self _)
        frames := hw.frames.call ?_
        unmarked := fun t signal hrun' => ?_
        closing := fun u c pc hg hpc => ?_
        single := fun t u f hf g hg hf' hg' =>
          hw.single t u f (hold t f hf hf') g (hold u g hg hg') hf' hg'
        resumed := fun t signal c task rest fs hrun' => ?_
        done := fun t v f fs hrun' => ?_ }
    · cases k <;> first | exact trivial | cases hk
    · cases hrun ▸ hrun'
    · have hmem := hold u _ hg (by cases pc <;> first | exact absurd rfl hpc | exact trivial)
      have hne : ∀ v, v < w.spawned → Function.update w.stack w.spawned [k.enter] v = w.stack v :=
        fun v hv => Function.update_of_ne hv.ne ..
      have hu : u < w.spawned := by
        by_contra hlt
        rw [hw.shape.shaped.fresh u (not_lt.mp hlt)] at hmem
        cases hmem
      obtain ⟨hconnected, hunmarked, houtside, hloops⟩ := hw.closing u c pc hmem hpc
      refine ⟨hconnected, hunmarked, fun payload => ?_, ?_⟩
      · exact (congrArg (Frame.receiveLoop (.handling payload) ∉ ·) (hne u hu)).mpr
          (houtside payload)
      · cases pc with
        | entry => exact trivial
        | awaiting task rest =>
          intro v hv hlink
          exact (hloops v hv hlink).imp_right (Or.imp_right (hne v (hw.bound v hlink)).trans)
        | closing => exact hloops
    · cases hrun ▸ hrun'
    · cases hrun ▸ hrun'
  | @resume t signal f fs hrun hf hsignal =>
    refine
      { shape := hshape
        lock := hlock
        bare := hw.bare
        bound := hw.bound
        frames := hw.frames
        unmarked := fun u signal' hrun' => ?_
        closing := fun u c pc hg hpc => ?_
        single := hw.single
        resumed := fun u signal' c task rest gs hrun' hg => ?_
        done := fun u v g gs hrun' hg hgivesUp => ?_ }
    · obtain ⟨rfl, -⟩ := Prod.mk.inj (Option.some.inj hrun')
      exact Function.update_self ..
    · obtain ⟨hconnected, hunmarked, houtside, hloops⟩ := hw.closing u c pc hg hpc
      refine ⟨hconnected, ?_, houtside, hloops⟩
      by_cases hu : u = t
      · subst hu
        exact Function.update_self ..
      · exact (Function.update_of_ne hu ..).trans hunmarked
    · -- a close is resumed when the task it awaits has ended
      obtain ⟨rfl, rfl⟩ := Prod.mk.inj (Option.some.inj hrun')
      obtain ⟨rfl, rfl⟩ := List.cons.inj (hf.symm.trans hg)
      have hunmarked := (hw.closing t c _ (hf ▸ List.mem_cons_self ..) (by simp)).unmarked
      rcases signal with v | (_ | e) <;>
        simp [Coroutines.accepts, hunmarked, service, Frame.awaited] at hsignal <;>
        exact hsignal.1
    · obtain ⟨rfl, rfl⟩ := Prod.mk.inj (Option.some.inj hrun')
      obtain ⟨rfl, rfl⟩ := List.cons.inj (hf.symm.trans hg)
      cases hgivesUp <;> cases hmark : w.cancelled t <;>
        simp [Coroutines.accepts, hmark, service, Frame.awaited, Frame.answers] at hsignal
  | outside hrun =>
    exact
      { shape := hshape
        lock := hlock
        bare := hw.bare
        bound := hw.bound
        frames := hw.frames.outside fun _ _ _ h => h
        unmarked := fun t signal hrun' => absurd (hrun.symm.trans hrun') (by simp)
        closing := fun u c pc hg hpc =>
          ⟨(hw.closing u c pc hg hpc).connected, (hw.closing u c pc hg hpc).unmarked,
            (hw.closing u c pc hg hpc).outside, (hw.closing u c pc hg hpc).loops⟩
        single := hw.single
        resumed := fun t signal c task rest fs hrun' =>
          absurd (hrun.symm.trans hrun') (by simp)
        done := fun t v f fs hrun' => absurd (hrun.symm.trans hrun') (by simp) }
  | @tick t signal f fs hrun hf =>
    by_cases hclose : ∃ cancelCurrent pc, f = .closeSocketAndTasks cancelCurrent pc
    · obtain ⟨cancelCurrent, pc, rfl⟩ := hclose
      exact hw.close hrun hf hC hshape hlock
    · exact hw.move hrun hf (fun c pc h => hclose ⟨c, pc, h⟩) hshape hlock

/-- Registered loops are one of each kind. -/
lemma LoopsWorld.oneOfEach (hw : LoopsWorld config w) : OneOfEach w where
  receive t u ht hu := by
    have hregistered : ∀ v, MayReceive w v → w.shared.receiveTask = some v := by
      rintro v ⟨pc, hgoesOn, hmem⟩
      have h := hw.frames v _ hmem
      cases pc <;> first | exact h | cases hgoesOn
    exact Option.some.inj ((hregistered t ht).symm.trans (hregistered u hu))
  take t u ht hu := by
    have hregistered : ∀ v, MayTake w v → w.shared.sendTask = some v := by
      rintro v ⟨pc, hgoesOn, hmem⟩
      have h := hw.frames v _ hmem
      cases pc with
      | entry => exact h
      | getting => exact h
      | sending chunk => exact hgoesOn
      | disconnecting chunk => exact hgoesOn.elim
    exact Option.some.inj ((hregistered t ht).symm.trans (hregistered u hu))

/-- **One reader and one writer**, in every run in which a close begins neither in the handling of a
server message nor while another task closes. -/
theorem oneOfEach_of_run {as : List ServiceAction}
    (hrun : (serviceSystem config).run .initial as = some w)
    (hC : (serviceSystem config).Along ClosesAlone .initial as) : OneOfEach w :=
  (StepSystem.invariant_along (I := LoopsWorld config)
    (fun _ _ _ hw hC hstep => loops_step hw hC hstep) (loopsWorld_initial config) hC hrun).oneOfEach

/-- A test for `ClosesAlone`. -/
def closesAlone (w : ServiceWorld) : ServiceAction → Bool
  | .tick =>
    match w.running with
    | none => true
    | some (t, _) =>
      match w.stack t with
      | .closeSocketAndTasks _ .entry :: fs =>
        fs.all (fun f => match f with | .receiveLoop (.handling _) => false | _ => true) &&
          (List.range w.spawned).all fun u => u == t ||
            (w.stack u).all fun f => match f with | .closeSocketAndTasks _ _ => false | _ => true
      | _ => true
  | _ => true

lemma closesAlone_of_test {a : ServiceAction} (hw : ServiceShaped config w)
    (h : closesAlone w a = true) : ClosesAlone w a := by
  cases a with
  | tick =>
    intro t signal cancelCurrent fs hrun hf
    simp only [closesAlone, hrun, hf, Bool.and_eq_true, List.all_eq_true] at h
    refine ⟨fun payload hmem => ?_, fun u hu c pc hmem => ?_⟩
    · cases h.1 _ hmem
    · have hlt : u < w.spawned := by
        by_contra hlt
        rw [hw.shaped.fresh u (not_lt.mp hlt)] at hmem
        cases hmem
      have hall := h.2 u (List.mem_range.mpr hlt)
      simp only [Bool.or_eq_true, beq_iff_eq, hu, false_or, List.all_eq_true] at hall
      cases hall _ hmem
  | _ => trivial

/-- A connection that failed. -/
def connectionFailed : ServiceSignal := .failed (.raised (.connection "ConnectionClosed" ""))

/-- The receive loop of the first utterance fails and reconnects. -/
def receiveReconnect : List ServiceAction :=
  firstUtterance ++ turn 2 connectionFailed 3 ++ turn 1 (.failed .cancelled) 1 ++
    turn 2 (.failed .cancelled) 1 ++ turn 2 (.value none) 3 ++ turn 2 (.value none) 1 ++
    turn 2 (.value none) 3

/-- `oneOfEach_of_run` in a run in which the receive loop reconnects. -/
theorem oneOfEach_of_run_receiveReconnect :
    ∃ w, (serviceSystem {}).run .initial receiveReconnect = some w ∧
      w.shared.receiveTask = some 4 ∧ OneOfEach w := by
  obtain ⟨w, hrun, hreceive⟩ := StepSystem.exists_run_of_map (M := serviceSystem {}) (s := .initial)
    (f := fun w => w.shared.receiveTask) (l := receiveReconnect) (x := some 4) rfl
  exact ⟨w, hrun, hreceive, oneOfEach_of_run hrun
    (along_of_shaped_check (c := closesAlone) (fun _ _ => closesAlone_of_test) rfl)⟩

/-- The pong to a ping of the server cannot be sent, and the receive loop reconnects to send it. -/
def pongReconnect : List ServiceAction :=
  firstUtterance ++ turn 2 (.value (some (.obj [("type", .str "ping")]))) 3 ++
    turn 2 connectionFailed 3 ++ turn 1 (.failed .cancelled) 1 ++ turn 2 (.failed .cancelled) 1 ++
    turn 2 (.value none) 3 ++ turn 2 (.value none) 1 ++ turn 2 (.value none) 3 ++
    turn 2 (.value none) 4 ++ turn 2 (.value none) 2 ++ turn 4 (.value none) 1 ++
    turn 4 (.value (some readyOfFirst)) 3 ++ turn 2 (.value none) 3 ++ turn 2 (.value none) 3

/-- **Two readers on one connection**: after its pong the old receive loop goes on beside the new
one, and both are in `recv` on the new connection. -/
theorem two_readers :
    ∃ w, (serviceSystem {}).run .initial pongReconnect = some w ∧ w.shared.websocket = some 1 ∧
      w.stack 2 = [.receiveLoop (.receiving 1)] ∧ w.stack 4 = [.receiveLoop (.receiving 1)] ∧
      w.cancelled 2 = false ∧ w.cancelled 4 = false ∧ ¬ OneOfEach w := by
  obtain ⟨w, hrun, hend⟩ := StepSystem.exists_run_of_map (M := serviceSystem {}) (s := .initial)
    (f := fun w => (w.shared.websocket, w.stack 2, w.stack 4, w.cancelled 2, w.cancelled 4))
    (l := pongReconnect)
    (x := (some 1, [.receiveLoop (.receiving 1)], [.receiveLoop (.receiving 1)], false, false)) rfl
  simp only [Prod.mk.injEq] at hend
  obtain ⟨hwebsocket, hold, hnew, holdMark, hnewMark⟩ := hend
  refine ⟨w, hrun, hwebsocket, hold, hnew, holdMark, hnewMark, fun h => ?_⟩
  have heq : (2 : TaskId) = 4 := h.receive 2 4 ⟨.receiving 1, trivial, by simp [hold]⟩
    ⟨.receiving 1, trivial, by simp [hnew]⟩
  cases heq

end RtcAsr.Plugin
