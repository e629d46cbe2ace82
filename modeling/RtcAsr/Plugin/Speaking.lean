import RtcAsr.Plugin.ControlState

/-!
# Who speaks when an utterance starts

An utterance is meant to be active, and a start message to be sent, only while the user speaks:
after a VAD start that no finalize, cancel, final transcript or disconnect followed.  The service
departs from this in two ways: a reconnect starts an utterance by default, whether or not one was
active (`reconnect_without_speaker`), and a start handshake goes on when a cancel, a finalize, a
final transcript or a disconnect comes in between.  Runs without the two are attended throughout
(`attended_of_run`).
-/

namespace RtcAsr.Plugin

/-- The happenings that end the turn of the user. -/
def Happening.endsTurn : Happening → Bool
  | .finalized => true
  | .canceled => true
  | .finalTranscript => true
  | .disconnected => true
  | _ => false

/-- A VAD start was processed after the last end of a turn. -/
def speaking : List Happening → Bool
  | [] => false
  | .vadStarted :: _ => true
  | h :: older => !h.endsTurn && speaking older

/-- **The utterance is active, and was started, only while the user speaks.** -/
structure Attended (s : Service) : Prop where
  active : s.utteranceActive = true → speaking s.history = true
  started : ∀ newer older connection g,
    s.history = newer ++ .sent connection (.start g) :: older → speaking older = true

/-! ## The floor -/

/-- The happenings that `speaking` and `Attended` are about. -/
def Happening.onFloor : Happening → Bool
  | .sent _ (.start _) => true
  | .vadStarted => true
  | h => h.endsTurn

/-- The utterance and the turns of the user. -/
structure Floor where
  active : Bool
  trace : List Happening

/-- The floor of a service. -/
def Service.floor (s : Service) : Floor :=
  ⟨s.utteranceActive, s.history.filter Happening.onFloor⟩

/-- The other happenings do not matter to `speaking`. -/
lemma speaking_filter (history : List Happening) :
    speaking (history.filter Happening.onFloor) = speaking history := by
  induction history with
  | nil => rfl
  | cons h older ih =>
    rw [List.filter_cons]
    cases h with
    | sent connection payload =>
      cases payload <;> simpa [Happening.onFloor, speaking, Happening.endsTurn] using ih
    | _ => simp [Happening.onFloor, speaking, Happening.endsTurn, ih]

/-- The floor is part of the control state. -/
lemma floor_congr {s s' : Service} (h : s'.control = s.control) : s'.floor = s.floor := by
  have hfloor : ∀ s : Service, s.floor = s.control.floor := by
    intro s
    unfold Service.floor Service.control
    rw [List.filter_filter]
    refine congrArg _ (List.filter_congr fun h _ => ?_)
    cases h with
    | sent connection payload => cases payload <;> rfl
    | _ => rfl
  rw [hfloor, h, ← hfloor]

/-- The calls of a start handshake. -/
def Call.handshake : Call → Bool
  | .ensureUtteranceStarted => true
  | .sendWs (.start _) _ _ => true
  | .sendControl (.start _) => true
  | _ => false

variable (config : LocalSTTConfig) (me next : TaskId) (s : Service)

/-- The frame moves that end the turn of the user. -/
def Frame.endsTurn : Frame → ServiceSignal → Bool
  | .finalizeCurrentUtterance (.sending _ _), .value _ => true
  | .cancelCurrentUtterance .entry, _ => true
  | .disconnect .closing, .value _ => true
  | .handleServerPayload _ (.pushing true), .value _ => true
  | .handleServerPayload payload .entry, _ =>
    match serverEvent payload with
    | .ok (.transcript event generation) =>
      event.isFinal && !config.emitFinalFrames && !generation.stale s.generation &&
        !s.suppressTranscripts
    | _ => false
  | _, _ => false

/-- What a frame move does to the floor. -/
inductive FloorMove (frame : Frame) (signal : ServiceSignal) : Floor → Prop
  | same : FloorMove frame signal s.floor
  | drop : FloorMove frame signal ⟨false, s.floor.trace⟩
  | endTurn {h : Happening} (hh : h.endsTurn = true)
      (hframe : frame.endsTurn config s signal = true) :
    FloorMove frame signal ⟨false, h :: s.floor.trace⟩
  | vad (hframe : frame = .startCurrentUtterance .entry) :
    FloorMove frame signal ⟨s.floor.active, .vadStarted :: s.floor.trace⟩
  | activate (hframe : frame.call.handshake = true) : FloorMove frame signal ⟨true, s.floor.trace⟩
  | handed {connection g : ℕ} (hframe : frame.call.handshake = true) :
    FloorMove frame signal ⟨s.floor.active, .sent connection (.start g) :: s.floor.trace⟩

lemma floor_endUtterance {h : Happening} (hh : h.endsTurn = true) :
    (s.endUtterance h).floor = ⟨false, h :: s.floor.trace⟩ := by
  cases h <;> first | rfl | cases hh

lemma floor_releaseFinalWaiters (release : Release) :
    (s.releaseFinalWaiters release).floor = s.floor :=
  s.releaseFinalWaiters_view (fun _ _ => rfl) fun _ => rfl

lemma floor_recordFinal (generation : Generation) :
    (s.recordFinalTranscriptReceived generation).floor = s.floor := by
  unfold Service.recordFinalTranscriptReceived
  split <;> (try split) <;> rfl

lemma floor_cancelUtterance :
    s.cancelUtterance.floor = ⟨false, .canceled :: s.floor.trace⟩ := by
  unfold Service.cancelUtterance
  rw [floor_releaseFinalWaiters, floor_congr (Service.control_clearSendQueue _)]
  rfl

lemma floor_disconnect : s.disconnect.floor = ⟨false, .disconnected :: s.floor.trace⟩ := by
  have hclear : (s.clearSendQueue.releaseFinalWaiters .disconnect).floor = s.floor := by
    rw [floor_releaseFinalWaiters, floor_congr (Service.control_clearSendQueue _)]
  rw [← hclear]
  rfl

lemma floor_prepareStart : s.prepareStart.floor = s.floor := by
  unfold Service.prepareStart
  split <;> rfl

variable {config me next s}

/-- A transcript that is pushed leaves the floor alone or ends the turn. -/
lemma pushTranscript_floor {payload : Dict} {event : TranscriptEvent} {generation : Generation}
    {signal : ServiceSignal} (hevent : serverEvent payload = .ok (.transcript event generation))
    (hfresh : generation.stale s.generation = false) (hshown : s.suppressTranscripts = false) :
    FloorMove config s (.handleServerPayload payload .entry) signal
      (pushTranscript config s payload event generation).shared.floor := by
  unfold pushTranscript
  simp only
  cases hfinal : event.isFinal with
  | false =>
    simp only [Bool.false_eq_true, if_false]
    split <;> exact .same
  | true =>
    have hsame := floor_recordFinal s generation
    simp only [if_true]
    split
    · refine (?_ : FloorMove config s _ signal (s.recordFinalTranscriptReceived generation).floor)
      rw [hsame]
      exact .same
    · rename_i hemit
      have hturn : (Frame.handleServerPayload payload .entry).endsTurn config s signal = true := by
        simp [Frame.endsTurn, hevent, hfinal, hfresh, hshown, LocalSTTConfig.emits] at hemit ⊢
        exact hemit
      change FloorMove config s _ signal
        ((s.recordFinalTranscriptReceived generation).endUtterance .finalTranscript).floor
      rw [floor_endUtterance _ rfl, hsame]
      exact .endTurn rfl hturn

lemma closeSocketAndTasks_floor (cancelCurrent : Bool) (pc : ClosePc) (signal : ServiceSignal) :
    (closeSocketAndTasks me s cancelCurrent pc signal).shared.floor = s.floor := by
  have hfloor : ∀ s : Service, s.floor = s.apartFromLoops.floor := fun _ => rfl
  rw [hfloor, closeSocketAndTasks_kept, ← hfloor]

/-- What `send` does to the floor. -/
lemma hand_floor {frame : Frame} {signal : ServiceSignal} (connection : ℕ) {payload : Payload}
    (hpayload : ∀ g, payload = .start g → frame.call.handshake = true) :
    FloorMove config s frame signal (s.hand connection payload).floor := by
  unfold Service.hand
  split
  · exact .same
  · cases payload
    case start g => exact .handed (hpayload g rfl)
    all_goals exact .same

lemma sendWs_floor (payload : Payload) (replay startAfter : Bool) (pc : SendWsPc)
    (signal : ServiceSignal) :
    FloorMove config s (.sendWs payload replay startAfter pc) signal
      (sendWs config s payload replay startAfter pc signal).shared.floor := by
  have hhand : ∀ connection, FloorMove config s (.sendWs payload replay startAfter pc) signal
      (s.hand connection payload).floor :=
    fun connection => hand_floor connection fun g h => h ▸ rfl
  cases pc with
  | entry =>
    simp only [sendWs]
    split
    · exact .same
    · exact hhand _
  | sending connection handed =>
    rcases signal with v | (_ | e) <;> simp only [sendWs] <;> (try split) <;> exact .same
  | reconnecting =>
    cases signal with
    | value v =>
      simp only [sendWs]
      split
      · split
        · exact .same
        · exact hhand _
      · exact .same
    | failed e => exact .same
  | resending connection handed =>
    simp only [sendWs, passOn_shared]
    exact .same

lemma handleServerPayload_floor (payload : Dict) (signal : ServiceSignal) :
    FloorMove config s (.handleServerPayload payload .entry) signal
      (handleServerPayload config s payload .entry signal).shared.floor := by
  have hrelease : ∀ release, FloorMove config s (.handleServerPayload payload .entry) signal
      (s.releaseFinalWaiters release).floor := by
    intro release
    rw [floor_releaseFinalWaiters]
    exact .same
  simp only [handleServerPayload]
  split
  case h_4 generation hevent => split <;> exact .same
  case h_5 event generation hevent =>
    split
    · exact .same
    · rename_i hfresh
      simp only [Bool.or_eq_true, not_or, Bool.not_eq_true] at hfresh
      exact pushTranscript_floor hevent hfresh.1 hfresh.2
  case h_7 => exact hrelease .server
  case h_8 => exact hrelease .server
  all_goals exact .same

/-- **What a frame move does to the floor.** -/
theorem frameMove_floor (frame : Frame) (signal : ServiceSignal) :
    FloorMove config s frame signal (frameMove config me next s frame signal).shared.floor := by
  by_cases hquiet : frame.touches = false
  · rw [floor_congr (control_frameMove config me next s hquiet signal)]
    exact .same
  cases frame with
  | ensureConnection pc =>
    cases pc <;> cases signal <;> simp only [frameMove, ensureConnection] <;> (try split) <;>
      exact .same
  | closeSocketAndTasks cancelCurrent pc =>
    simp only [frameMove]
    rw [closeSocketAndTasks_floor]
    exact .same
  | ensureUtteranceStarted pc =>
    cases pc with
    | connecting =>
      cases signal with
      | value v =>
        change FloorMove config s _ _ s.prepareStart.floor
        rw [floor_prepareStart]
        exact .same
      | failed e => exact .same
    | readying event =>
      cases signal with
      | value v => exact .activate rfl
      | failed e => exact .same
    | _ =>
      cases signal <;> simp only [frameMove, ensureUtteranceStarted] <;> (try split) <;> exact .same
  | sendWs payload replay startAfter pc => exact sendWs_floor payload replay startAfter pc signal
  | reconnect startUtterance pc =>
    cases pc with
    | closing =>
      cases signal with
      | value v => exact .drop
      | failed e => exact .same
    | _ => exact absurd rfl hquiet
  | disconnect pc =>
    cases pc with
    | entry => exact absurd rfl hquiet
    | closing =>
      cases signal with
      | value v =>
        change FloorMove config s _ _ s.disconnect.floor
        rw [floor_disconnect]
        exact .endTurn rfl rfl
      | failed e => exact .same
  | receiveLoop pc =>
    cases pc with
    | receiving connection =>
      rcases signal with v | (_ | e)
      · simp only [frameMove, receiveLoop]
        split
        · rw [floor_congr (receiveLoopError_control config _)]
          exact .same
        · exact .same
      · exact .same
      · simp only [frameMove, receiveLoop]
        rw [floor_congr (receiveLoopError_control config s)]
        exact .same
    | _ => exact absurd rfl hquiet
  | handleServerPayload payload pc =>
    cases pc with
    | entry => exact handleServerPayload_floor payload signal
    | ponging reply => exact absurd rfl hquiet
    | pushing isFinal =>
      cases signal with
      | value v =>
        cases isFinal with
        | true => exact .endTurn rfl rfl
        | false => exact .same
      | failed e => exact .same
  | startCurrentUtterance pc =>
    cases pc with
    | entry => simp only [frameMove, startCurrentUtterance]; split <;> exact .vad rfl
    | _ => exact absurd rfl hquiet
  | finalizeCurrentUtterance pc =>
    cases pc with
    | joining generation drained =>
      cases signal with
      | value v =>
        simp only [frameMove, finalizeCurrentUtterance, Service.setdefaultFinal]
        split
        · split <;> exact .same
        · exact .same
      | failed e => exact .same
    | sending generation event =>
      cases signal with
      | value v => simp only [frameMove, finalizeCurrentUtterance]; split <;> exact .endTurn rfl rfl
      | failed e => exact .same
    | waiting generation event =>
      rcases signal with v | (_ | (_ | _ | _ | _ | _ | _)) <;> exact .same
    | disconnecting generation event => cases signal <;> exact .same
    | _ => exact absurd rfl hquiet
  | cancelCurrentUtterance pc =>
    cases pc with
    | entry =>
      simp only [frameMove, cancelCurrentUtterance]
      split
      · simp only [Move.ret]
        rw [floor_cancelUtterance]
        exact .endTurn rfl rfl
      · simp only [Move.call]
        rw [floor_cancelUtterance]
        exact .endTurn rfl rfl
    | _ => exact absurd rfl hquiet
  | _ => exact absurd rfl hquiet

/-! ## Runs -/

/-- No start handshake is under way. -/
def NoHandshake (w : ServiceWorld) : Prop := ∀ t, ∀ frame ∈ w.stack t, frame.call.handshake = false

/-- The two ways to depart are not taken: a reconnect starts an utterance only while the user
speaks, and the turn of the user does not end while a start handshake is under way. -/
def Attends (config : LocalSTTConfig) (w : ServiceWorld) : ServiceAction → Prop
  | .tick => ∀ t signal frame fs, w.running = some (t, signal) → w.stack t = frame :: fs →
    (∀ v, frame = .reconnect true .connecting → signal = .value v →
      speaking w.shared.history = true) ∧
    (frame.endsTurn config w.shared signal = true → NoHandshake w)
  | _ => True

/-- The floor of an attended service. -/
structure Floor.Attended (l : Floor) : Prop where
  active : l.active = true → speaking l.trace = true
  started : ∀ newer older connection g,
    l.trace = newer ++ .sent connection (.start g) :: older → speaking older = true

/-- The service is attended, and during a handshake the user speaks. -/
structure AttendedWorld (w : ServiceWorld) : Prop where
  floor : w.shared.floor.Attended
  frames : Coroutines.Outline (fun _ frame s =>
    frame.call.handshake = true → speaking s.floor.trace = true) w

/-- A frame that calls into a handshake is one of three. -/
lemma pending_handshake {frame : Frame} {k : Call} (h : frame.pending = some k)
    (hk : k.handshake = true) :
    frame.call.handshake = true ∨ frame = .reconnect true .starting ∨
      frame = .startCurrentUtterance .starting := by
  unfold Frame.pending at h
  split at h <;> cases h
  case h_2 => exact .inl rfl
  case h_6 => exact .inr (.inl rfl)
  case h_15 payload => cases payload <;> first | exact .inl rfl | cases hk
  case h_18 => exact .inr (.inr rfl)
  case h_3 startAfter => cases hk
  all_goals cases hk

variable {config : LocalSTTConfig} {me next : TaskId} {s : Service}

/-- A frame move begins a handshake in a handshake, in a reconnect or at a VAD start. -/
lemma frameMove_handshake {frame : Frame} {signal : ServiceSignal} {P : Prop}
    (hframe : frame.call.handshake = true → P)
    (hreconnect : ∀ v, frame = .reconnect true .connecting → signal = .value v → P)
    (hvad : frame = .startCurrentUtterance .entry → P) :
    EachFrame (fun f => f.call.handshake = true → P)
      (frameMove config me next s frame signal).command := by
  have hstays := (frameMove_stays config me next s signal frame).command
  cases hcommand : (frameMove config me next s frame signal).command with
  | await f =>
    rw [hcommand] at hstays
    exact fun hf => hframe (hstays.1 ▸ hf)
  | call f k =>
    rw [hcommand] at hstays
    obtain ⟨hcall, hpending⟩ := hstays
    refine ⟨fun hf => hframe (hcall ▸ hf), fun hk => ?_⟩
    have hk : k.handshake = true := by rwa [show k.enter.call = k by cases k <;> rfl] at hk
    rcases pending_handshake hpending hk with hf | rfl | rfl
    · exact hframe (hcall ▸ hf)
    · cases frame <;> cases hcall
      rename_i pc
      revert hcommand
      cases pc <;> cases signal <;> simp only [frameMove, reconnect] <;> intro hcommand <;>
        cases hcommand
      exact hreconnect _ rfl rfl
    · cases frame <;> cases hcall
      rename_i pc
      cases pc with
      | entry => exact hvad rfl
      | starting =>
        cases signal with
        | value v =>
          simp only [frameMove, startCurrentUtterance] at hcommand
          rcases hflush : s.flushPreRoll config with ⟨s', _ | chunk⟩ <;> rw [hflush] at hcommand <;>
            cases hcommand
        | failed e => cases hcommand
      | enqueueing chunk => cases signal <;> cases hcommand
  | ret => trivial
  | throw e => trivial

/-- A trace with a happening at its head that is not a start. -/
lemma Floor.Attended.cons {active : Bool} {trace : List Happening} {h : Happening}
    (hl : Floor.Attended ⟨active, trace⟩) (hh : ∀ connection g, h ≠ .sent connection (.start g))
    {active' : Bool} (hactive : active' = true → speaking (h :: trace) = true) :
    Floor.Attended ⟨active', h :: trace⟩ := by
  refine ⟨hactive, fun newer older connection g hsplit => ?_⟩
  cases newer with
  | nil => exact absurd (List.cons.inj hsplit).1 (hh connection g)
  | cons h' newer => exact hl.started newer older connection g (List.cons.inj hsplit).2

/-- A frame move that does not depart keeps the floor attended. -/
lemma FloorMove.attended {frame : Frame} {signal : ServiceSignal} {l : Floor}
    (hmove : FloorMove config s frame signal l) (hs : s.floor.Attended)
    (hframe : frame.call.handshake = true → speaking s.floor.trace = true) : l.Attended := by
  cases hmove with
  | same => exact hs
  | drop => exact ⟨fun h => absurd h Bool.false_ne_true, hs.started⟩
  | endTurn hh hturn =>
    refine Floor.Attended.cons hs (fun connection g heq => ?_) fun h => absurd h Bool.false_ne_true
    rw [heq] at hh
    cases hh
  | vad hvad => exact Floor.Attended.cons hs (fun _ _ h => by cases h) fun _ => rfl
  | activate hcall => exact ⟨fun _ => hframe hcall, hs.started⟩
  | handed hcall =>
    refine ⟨fun _ => hframe hcall, fun newer older connection' g' hsplit => ?_⟩
    cases newer with
    | nil =>
      obtain rfl := (List.cons.inj hsplit).2
      exact hframe hcall
    | cons h' newer => exact hs.started newer older connection' g' (List.cons.inj hsplit).2

/-- A frame move keeps the user speaking, or ends the turn. -/
lemma FloorMove.speaking {frame : Frame} {signal : ServiceSignal} {l : Floor}
    (hmove : FloorMove config s frame signal l) (hs : speaking s.floor.trace = true) :
    speaking l.trace = true ∨ frame.endsTurn config s signal = true := by
  cases hmove with
  | same => exact .inl hs
  | drop => exact .inl hs
  | endTurn hh hturn => exact .inr hturn
  | vad hvad => exact .inl rfl
  | activate hcall => exact .inl hs
  | handed hcall => exact .inl hs

/-- A step that does not depart keeps the service attended. -/
theorem attended_step {w w' : ServiceWorld} {a : ServiceAction} (hw : AttendedWorld w)
    (hC : Attends config w a) (h : (service config).step w a = some w') : AttendedWorld w' := by
  cases (service config).step_cases h with
  | @call k hrun hk =>
    have hcall : k.enter.call.handshake = false := by cases k <;> first | rfl | cases hk
    exact ⟨hw.floor, hw.frames.call fun h => absurd (hcall.symm.trans h) Bool.false_ne_true⟩
  | resume => exact ⟨hw.floor, hw.frames⟩
  | outside => exact ⟨hw.floor, hw.frames.outside fun _ _ _ h => h⟩
  | @tick t signal f fs hrun hf =>
    have hframe := hw.frames t f (hf ▸ List.mem_cons_self ..)
    obtain ⟨hreconnect, hturn⟩ := hC t signal f fs hrun hf
    have hmove : FloorMove config w.shared f signal
        (frameMove config t w.spawned w.shared f signal).shared.floor := frameMove_floor f signal
    set m := frameMove config t w.spawned w.shared f signal with hm
    have hspeaking : ∀ u, ∀ g ∈ w.stack u, g.call.handshake = true →
        speaking w.shared.floor.trace = true → speaking m.shared.floor.trace = true := by
      intro u g hg hcall hs
      rcases hmove.speaking hs with hs' | hends
      · exact hs'
      · exact absurd hcall (by simp [hturn hends u g hg])
    refine ⟨by rw [Coroutines.apply_shared]; exact hmove.attended hw.floor hframe,
      hw.frames.tick hf ⟨EachFrame.frames ?_, ?_, ?_⟩⟩
    · refine frameMove_handshake ?_ ?_ ?_
      · intro hcall
        exact hspeaking t f (hf ▸ List.mem_cons_self ..) hcall (hframe hcall)
      · rintro v rfl rfl
        exact (speaking_filter _).trans (hreconnect v rfl rfl)
      · rintro rfl
        simp only [service, frameMove, startCurrentUtterance]
        split <;> rfl
    · intro i k hk
      rcases frameMove_spawn config t w.spawned w.shared signal (List.mem_of_getElem? hk)
        with rfl | rfl <;> rintro ⟨⟩
    · exact fun u g hmem _ hold hcall => hspeaking u g hmem hcall (hold hcall)

lemma attendedWorld_initial : AttendedWorld ServiceWorld.initial where
  floor := by
    refine ⟨fun h => ?_, fun newer older connection g hsplit => ?_⟩
    · cases h
    · cases newer <;> cases hsplit
  frames := Coroutines.outline_initial _ _

/-- What the floor shows is so for the whole history. -/
lemma Floor.Attended.service {s : Service} (hs : s.floor.Attended) : RtcAsr.Plugin.Attended s where
  active h := (speaking_filter s.history).symm.trans (hs.active h)
  started newer older connection g hsplit := by
    rw [← speaking_filter]
    refine hs.started (newer.filter Happening.onFloor) _ connection g ?_
    rw [Service.floor, hsplit, List.filter_append]
    rfl

/-- **An utterance is active only while the user speaks**, in every run in which reconnects start
utterances only while the user speaks and no turn ends during a start handshake. -/
theorem attended_of_run {as : List ServiceAction} {w : ServiceWorld}
    (hrun : (serviceSystem config).run .initial as = some w)
    (hC : (serviceSystem config).Along (Attends config) .initial as) : Attended w.shared :=
  have hworld : AttendedWorld w := StepSystem.invariant_along (I := AttendedWorld)
    (fun _ _ _ hw hC hstep => attended_step hw hC hstep) attendedWorld_initial hC hrun
  hworld.floor.service

/-- The frame is a reconnect that is about to start an utterance. -/
def Frame.startsAfterReconnect : Frame → Bool
  | .reconnect true .connecting => true
  | _ => false

/-- A test for `Attends`. -/
def attends (config : LocalSTTConfig) (w : ServiceWorld) : ServiceAction → Bool
  | .tick =>
    match w.running with
    | none => true
    | some (t, signal) =>
      match w.stack t with
      | [] => true
      | frame :: _ =>
        (!frame.startsAfterReconnect || speaking w.shared.history) &&
          (!frame.endsTurn config w.shared signal ||
            (List.range w.spawned).all fun u => (w.stack u).all fun f => !f.call.handshake)
  | _ => true

lemma attends_of_test {w : ServiceWorld} {a : ServiceAction} (hw : ServiceShaped config w)
    (h : attends config w a = true) : Attends config w a := by
  cases a with
  | tick =>
    intro t signal frame fs hrun hf
    simp only [attends, hrun, hf, Bool.and_eq_true, Bool.or_eq_true, Bool.not_eq_true'] at h
    obtain ⟨hreconnect, hturn⟩ := h
    constructor
    · rintro v rfl -
      exact hreconnect.resolve_left (by simp [Frame.startsAfterReconnect])
    · intro hends u f hmem
      have hall := hturn.resolve_left (by simp [hends])
      have hlt : u < w.spawned := by
        by_contra hlt
        rw [hw.shaped.fresh u (not_lt.mp hlt)] at hmem
        cases hmem
      simpa using List.all_eq_true.mp (List.all_eq_true.mp hall u (List.mem_range.mpr hlt)) f hmem
  | _ => trivial

/-- The connection of the first utterance fails, the receive loop reconnects and starts the
utterance again, and the user stops speaking. -/
def reconnectThenStop : List ServiceAction :=
  firstUtterance ++ turn 0 (.value none) 1 ++
    turn 2 (.failed (.raised (.connection "ConnectionClosed" "no close frame"))) 3 ++
    turn 1 (.failed .cancelled) 1 ++ turn 2 (.failed .cancelled) 1 ++ turn 2 (.value none) 3 ++
    turn 2 (.value none) 1 ++ turn 2 (.value none) 3 ++ turn 2 (.value none) 4 ++
    turn 2 (.value none) 2 ++ turn 4 (.value none) 1 ++ turn 4 (.value (some readyOfFirst)) 3 ++
    turn 2 (.value none) 3 ++ [.call (.processFrame .userStoppedSpeaking)] ++
    turn 5 (.value none) 1 ++ turn 5 (.value none) 2 ++ turn 5 (.value none) 5 ++
    turn 5 (.value none) 3

/-- `attended_of_run` in a run with a reconnect and the end of a turn. -/
theorem attended_of_run_reconnectThenStop :
    ∃ w, (serviceSystem {}).run .initial reconnectThenStop = some w ∧
      w.shared.history = [.finalized, .sent 1 .finalize, .received 1 readyOfFirst,
        .sent 1 (.start 1), .preRollFlushed, .received 0 readyOfFirst, .sent 0 (.start 1),
        .vadStarted] ∧ Attended w.shared := by
  obtain ⟨w, hrun, hhistory⟩ := StepSystem.exists_run_of_map (M := serviceSystem {}) (s := .initial)
    (f := fun w => w.shared.history) (l := reconnectThenStop)
    (x := [.finalized, .sent 1 .finalize, .received 1 readyOfFirst, .sent 1 (.start 1),
      .preRollFlushed, .received 0 readyOfFirst, .sent 0 (.start 1), .vadStarted]) rfl
  exact ⟨w, hrun, hhistory, attended_of_run hrun
    (along_of_shaped_check (c := attends {}) (fun _ _ => attends_of_test) (by decide +kernel))⟩

/-- The ready event of generation 0. -/
def readyOfNone : Json :=
  .obj [("type", .str "ready"), ("metadata", .obj [("local_stt_generation", .int 0)])]

/-- The service is started, its connection fails, and the receive loop reconnects. -/
def idleReconnect : List ServiceAction :=
  [.call .start] ++ turn 0 (.value none) 2 ++ turn 0 (.value none) 1 ++ turn 0 (.value none) 2 ++
    turn 2 (.value none) 1 ++
    turn 2 (.failed (.raised (.connection "ConnectionClosed" "no close frame"))) 3 ++
    turn 1 (.failed .cancelled) 1 ++ turn 2 (.failed .cancelled) 1 ++ turn 2 (.value none) 3 ++
    turn 2 (.value none) 1 ++ turn 2 (.value none) 3 ++ turn 2 (.value none) 4 ++
    turn 2 (.value none) 2 ++ turn 4 (.value none) 1 ++ turn 4 (.value (some readyOfNone)) 3 ++
    turn 2 (.value none) 3

/-- **A reconnect starts an utterance without a speaker**: nobody spoke, the connection failed, and
the server is sent a start message, whose ready event makes the utterance active. -/
theorem reconnect_without_speaker :
    ¬ ∀ as w, (serviceSystem {}).run .initial as = some w → Attended w.shared := by
  intro hall
  obtain ⟨w, hrun, hend⟩ := StepSystem.exists_run_of_map (M := serviceSystem {}) (s := .initial)
    (f := fun w => (w.shared.utteranceActive, speaking w.shared.history)) (l := idleReconnect)
    (x := (true, false)) rfl
  obtain ⟨hactive, hsilent⟩ := Prod.mk.inj hend
  exact Bool.false_ne_true (hsilent.symm.trans ((hall _ w hrun).active hactive))

end RtcAsr.Plugin
