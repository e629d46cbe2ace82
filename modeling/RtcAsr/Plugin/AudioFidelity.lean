import RtcAsr.Plugin.AudioLog
import RtcAsr.Plugin.Loops
import RtcAsr.Plugin.StartedOnce
import RtcAsr.Plugin.Suspension
import RtcAsr.Plugin.Unmixed

/-!
# Audio is sent as it was heard

In a run in which nothing fails, and frames are processed one at a time, an utterance is meant to
send the end of the pre-roll and all that was heard while it was active, before its finalize
message; and a queue that drops the oldest chunks is meant to count them.  The service departs from
this when a final transcript of the server ends an utterance: the aggregate buffer and the queue
keep its audio, which goes to the next utterance or is discarded uncounted
(`audio_of_earlier_utterance`).  Runs without this are faithful throughout (`audioFaithful_of_run`).
-/

namespace RtcAsr.Plugin

/-! ## Runs in which nothing fails -/

/-- The methods that the loops run while nothing fails. -/
def Call.ofLoop : Call → Bool
  | .sendLoop => true
  | .receiveLoop => true
  | .handleServerPayload _ => true
  | .sendWs (.audio _) _ _ => true
  | .sendWs (.pong _) _ _ => true
  | .reconnect _ => true
  | .disconnect => true
  | _ => false

/-- The methods that give up a connection or an utterance. -/
def Call.interrupts : Call → Bool
  | .reconnect _ => true
  | .disconnect => true
  | .cancelCurrentUtterance => true
  | .stop => true
  | _ => false

/-- Frames are processed one at a time, no connection breaks, `send` does not fail, and there is no
reconnect, disconnect or cancel. -/
def Unhindered (w : ServiceWorld) : ServiceAction → Prop
  | .call k => k.interrupts = false ∧ ∀ t, ∀ frame ∈ w.stack t, frame.call.ofLoop = true
  | .resume t signal => ∀ payload replay startAfter pc fs,
    w.stack t = .sendWs payload replay startAfter pc :: fs → ∃ v, signal = .value v
  | .outside _ => False
  | .tick => ∀ t signal frame fs, w.running = some (t, signal) → w.stack t = frame :: fs →
    frame.call.interrupts = false

/-- Under `block` a VAD start that begins a generation finds the aggregate buffer empty, and under
`drop_oldest` the send loop takes no chunk of an earlier generation. -/
def StartsClean (config : LocalSTTConfig) (w : ServiceWorld) : ServiceAction → Prop
  | .tick => ∀ t signal frame fs, w.running = some (t, signal) → w.stack t = frame :: fs →
    (config.dropPolicy = .block → frame = .startCurrentUtterance .entry →
      w.shared.utteranceActive = false → w.shared.aggregateBuffer = []) ∧
    (config.dropPolicy = .dropOldest → ∀ v chunk rest, frame = .sendLoop .getting →
      signal = .value v → w.shared.sendQueue = chunk :: rest →
        chunk.generation = w.shared.generation)
  | _ => True

/-! ## What the frames rely on -/

namespace Service

variable (s : Service)

/-- No utterance is active, and the start message of the current generation was not sent. -/
def Unstarted : Prop := s.utteranceActive = false ∧ s.utterance.generation ≠ s.generation

/-- The audio of the current utterance was sent. -/
structure Drained : Prop where
  unfinished : s.unfinished = 0
  buffer : s.aggregateBuffer = []
  generation : s.utterance.generation = s.generation

/-- Nothing a suspended frame relies on is lost. -/
structure Steady (s s' : Service) : Prop where
  generation : s'.generation = s.generation
  buffer : s'.aggregateBuffer = s.aggregateBuffer
  started : s'.utterance.generation = s.utterance.generation
  preRoll : s'.utterance.preRoll = s.utterance.preRoll
  heard : s'.utterance.active = s.utterance.active
  unfinished : s'.unfinished ≤ s.unfinished
  drained : s'.drained ≠ s.drained → s'.unfinished = 0
  active : s'.utteranceActive = true → s.utteranceActive = true
  websocket : s.websocket.isSome = true → s'.websocket.isSome = true

variable {s} {s' : Service}

lemma Unstarted.steady (h : Steady s s') (hs : s.Unstarted) : s'.Unstarted := by
  refine ⟨?_, ?_⟩
  · cases hactive : s'.utteranceActive with
    | false => rfl
    | true => exact (h.active hactive).symm.trans hs.1
  · rw [h.started, h.generation]
    exact hs.2

lemma Fresh.steady (h : Steady s s') (hs : s.Fresh) : s'.Fresh :=
  ⟨by rw [h.started, h.generation]; exact hs.generation, h.preRoll.trans hs.preRoll,
    h.heard.trans hs.active⟩

lemma Drained.steady (h : Steady s s') (hs : s.Drained) : s'.Drained :=
  ⟨Nat.le_zero.mp (h.unfinished.trans hs.unfinished.le), h.buffer.trans hs.buffer,
    by rw [h.started, h.generation]; exact hs.generation⟩

end Service

/-- What `_send_ws` relies on. -/
def Payload.ReadyIn (s : Service) : Payload → Prop
  | .start generation => generation = s.generation ∧ s.utterance.generation ≠ s.generation
  | .audio chunk => chunk.generation = s.generation ∧ s.websocket.isSome = true
  | .finalize => s.Drained
  | _ => True

/-- What a frame relies on while its task is suspended or waits for a call. -/
def Frame.InOrder (s : Service) : Frame → Prop
  | .closeSocketAndTasks _ _ => False
  | .ensureUtteranceStarted .locking => s.Unstarted
  | .ensureUtteranceStarted .connecting => s.Unstarted
  | .ensureUtteranceStarted (.readying _) => s.Fresh
  | .sendWs _ _ _ .reconnecting => False
  | .sendWs _ _ _ (.resending _ _) => False
  | .sendWs (.start _) _ _ (.sending _ _) => s.Fresh
  | .reconnect _ .entry => True
  | .reconnect _ _ => False
  | .disconnect .entry => True
  | .disconnect _ => False
  | .sendLoop _ => s.websocket.isSome = true
  | .sendControl payload .connecting => payload = .finalize ∧ s.Drained
  | .sendControl payload .sending => payload = .finalize
  | .enqueueChunk chunk .sleeping => chunk.generation = s.generation
  | .finalizeCurrentUtterance (.enqueueing _ _) => s.aggregateBuffer = []
  | .finalizeCurrentUtterance (.joining _ drained) =>
    s.aggregateBuffer = [] ∧ (s.drained ≠ drained → s.unfinished = 0)
  | .cancelCurrentUtterance _ => False
  | .stop _ => False
  | _ => True

/-- What a frame relies on when it runs. -/
def Frame.AwakeIn (s : Service) : Frame → ServiceSignal → Prop
  | .ensureUtteranceStarted .entry, _ => s.Unstarted
  | .ensureUtteranceStarted (.sending _), .value _ => s.Fresh
  | .sendWs payload _ _ .entry, _ => payload.ReadyIn s
  | .sendWs _ _ _ (.sending _ _), .failed _ => False
  | .sendControl payload .entry, _ => payload = .finalize ∧ s.Drained
  | .enqueueChunk chunk .entry, _ => chunk.generation = s.generation
  | .startCurrentUtterance .starting, .value _ => s.Fresh
  | .finalizeCurrentUtterance (.joining _ _), .value _ => s.unfinished = 0
  | _, _ => True

/-- What a method that returns has done. -/
def Call.Ends (s : Service) : Call → Prop
  | .ensureUtteranceStarted => s.Fresh
  | .sendWs (.start _) _ _ => s.Fresh
  | _ => True

/-- The chunk that is about to be handed to the connection. -/
def Frame.handing : Frame → List AudioChunk
  | .sendWs (.audio chunk) _ _ .entry => [chunk]
  | _ => []

/-- The chunk that a call of `_enqueue_chunk` has to put. -/
def Frame.putting : Frame → List AudioChunk
  | .enqueueChunk chunk _ => [chunk]
  | _ => []

/-- The chunk that is handed to the connection next. -/
def handedBy : Command Frame Call PluginExn → List AudioChunk
  | .call _ k => k.enter.handing
  | _ => []

/-- The chunk that the innermost frame has to put afterwards. -/
def puttingAfter : Command Frame Call PluginExn → List AudioChunk
  | .await f => f.putting
  | .call _ k => k.enter.putting
  | _ => []

variable {config : LocalSTTConfig} {me next : TaskId} {s s' : Service} {signal : ServiceSignal}
  {frame f g : Frame} {k : Call} {rest : List AudioChunk}

/-- A suspended frame still has what it relies on after a steady move. -/
lemma Frame.InOrder.steady (hg : g.InOrder s) (h : s.Steady s') : g.InOrder s' := by
  unfold Frame.InOrder at hg ⊢
  split at hg
  case h_2 => exact hg.steady h
  case h_3 => exact hg.steady h
  case h_4 => exact hg.steady h
  case h_7 => exact hg.steady h
  case h_12 => exact h.websocket hg
  case h_13 => exact ⟨hg.1, hg.2.steady h⟩
  case h_14 => exact hg
  case h_15 => exact hg.trans h.generation.symm
  case h_16 => exact h.buffer.trans hg
  case h_17 generation drained =>
    refine ⟨h.buffer.trans hg.1, fun hne => ?_⟩
    by_cases hsame : s'.drained = s.drained
    · exact Nat.le_zero.mp (h.unfinished.trans (hg.2 (hsame ▸ hne)).le)
    · exact h.drained hsame
  all_goals first | exact hg.elim | exact trivial

/-- What a method has done is what the frame that waits for it relies on. -/
lemma awakeIn_of_ends (hpending : g.pending = some k) (hk : k.Ends s) (v : Option Json) :
    g.AwakeIn s (.value v) := by
  unfold Frame.pending at hpending
  split at hpending <;> cases hpending <;> first | exact hk | exact trivial

/-- A frame that waits for a call takes any exception. -/
lemma awakeIn_failed (hpending : g.pending = some k) (e : TaskExn PluginExn) :
    g.AwakeIn s (.failed e) := by
  unfold Frame.pending at hpending
  split at hpending <;> cases hpending <;> exact trivial

/-! ## The frame moves -/

variable (config) in
/-- The audio is in order with these chunks on their way, and only a generation whose start message
was sent is active. -/
structure Service.Orderly (s : Service) (onWay : List AudioChunk) : Prop where
  started : s.utterance.generation ≤ s.generation
  active : s.utteranceActive = true → s.utterance.generation = s.generation
  loaded : s.Loaded config onWay

/-- The audio state and the end of an utterance are all that matters. -/
lemma Service.Orderly.congr {onWay : List AudioChunk} (hs : s.Orderly config onWay)
    (haudio : s'.audio = s.audio)
    (hactive : s'.utteranceActive = true → s.utteranceActive = true) :
    s'.Orderly config onWay := by
  have hutterance := Service.utterance_congr haudio
  have hgeneration : s'.generation = s.generation := (congrArg Service.generation haudio :)
  refine ⟨?_, fun h => ?_, hs.loaded.congr haudio⟩
  · rw [hutterance, hgeneration]
    exact hs.started
  · rw [hutterance, hgeneration]
    exact hs.active (hactive h)

/-- So it is with the queued chunks on their way. -/
lemma Service.Orderly.congr_queued (hs : s.Orderly config (s.sendQueue ++ rest))
    (haudio : s'.audio = s.audio)
    (hactive : s'.utteranceActive = true → s.utteranceActive = true) :
    s'.Orderly config (s'.sendQueue ++ rest) := by
  have hqueue : s'.sendQueue = s.sendQueue := (congrArg Service.sendQueue haudio :)
  rw [hqueue]
  exact hs.congr haudio hactive

variable (config) in
/-- A move leaves the audio in order, and wakes the next frame as it relies on; `rest` are the
chunks that wait in another task. -/
structure Proceeds (frame : Frame) (rest : List AudioChunk) (m : ServiceMove) : Prop where
  frames : EachFrame (Frame.InOrder m.shared) m.command
  called : ∀ f k, m.command = .call f k → k.enter.AwakeIn m.shared (.value none)
  returned : m.command = .ret → frame.call.Ends m.shared
  orderly : m.shared.Orderly config
    (handedBy m.command ++ m.shared.sendQueue ++ (puttingAfter m.command ++ rest))

namespace Proceeds

lemma await (hf : f.InOrder s') (hs : s'.Orderly config (s'.sendQueue ++ (f.putting ++ rest))) :
    Proceeds config frame rest (.await s' f) :=
  ⟨hf, fun _ _ h => (nomatch h), fun h => (nomatch h), hs⟩

lemma call (hf : f.InOrder s') (hk : k.enter.InOrder s')
    (hawake : k.enter.AwakeIn s' (.value none))
    (hs : s'.Orderly config (k.enter.handing ++ s'.sendQueue ++ (k.enter.putting ++ rest))) :
    Proceeds config frame rest (.call s' f k) := by
  refine ⟨⟨hf, hk⟩, fun f' k' h => ?_, fun h => (nomatch h), hs⟩
  cases h
  exact hawake

lemma ret (hends : frame.call.Ends s') (hs : s'.Orderly config (s'.sendQueue ++ rest)) :
    Proceeds config frame rest (.ret s') :=
  ⟨trivial, fun _ _ h => (nomatch h), fun _ => hends, hs⟩

lemma throw {e : TaskExn PluginExn} (hs : s'.Orderly config (s'.sendQueue ++ rest)) :
    Proceeds config frame rest (.throw s' e) :=
  ⟨trivial, fun _ _ h => (nomatch h), fun h => (nomatch h), hs⟩

lemma passOn (hends : frame.call.Ends s') (hs : s'.Orderly config (s'.sendQueue ++ rest)) :
    Proceeds config frame rest (passOn s' signal) := by
  cases signal with
  | value v => exact .ret hends hs
  | failed e => exact .throw hs

end Proceeds

section methods

lemma ensureConnection_proceeds (pc : EnsureConnectionPc)
    (hs : s.Orderly config (s.sendQueue ++ rest)) :
    Proceeds config (.ensureConnection pc) rest (ensureConnection me next s pc signal) := by
  cases pc with
  | entry =>
    simp only [ensureConnection]
    split
    · exact .ret trivial hs
    · exact .await trivial hs
  | locking =>
    cases signal with
    | value v =>
      simp only [ensureConnection]
      split
      · exact .ret trivial hs
      · exact .await trivial (hs.congr rfl id)
    | failed e => exact .throw hs
  | connecting =>
    cases signal with
    | value v =>
      exact ⟨trivial, by rintro _ _ ⟨⟩, fun _ => trivial, hs.congr rfl id⟩
    | failed e => exact .throw (hs.congr rfl id)

lemma ensureUtteranceStarted_proceeds (pc : EnsureUtterancePc)
    (hframe : (Frame.ensureUtteranceStarted pc).InOrder s)
    (hawake : (Frame.ensureUtteranceStarted pc).AwakeIn s signal)
    (hs : s.Orderly config (s.sendQueue ++ rest)) :
    Proceeds config (.ensureUtteranceStarted pc) rest (ensureUtteranceStarted me s pc signal) := by
  have hinactive : ∀ {s : Service}, s.Unstarted → ¬ s.utteranceActive = true := fun h hactive =>
    Bool.false_ne_true (h.1.symm.trans hactive)
  cases pc with
  | entry =>
    simp only [ensureUtteranceStarted, if_neg (hinactive hawake)]
    exact .await hawake hs
  | locking =>
    cases signal with
    | value v =>
      simp only [ensureUtteranceStarted, if_neg (hinactive hframe)]
      exact .call hframe trivial trivial (hs.congr rfl id)
    | failed e => exact .throw hs
  | connecting =>
    cases signal with
    | value v =>
      have haudio := s.audio_prepareStart
      have hgeneration : s.prepareStart.generation = s.generation :=
        (congrArg Service.generation haudio :)
      have hactive : s.prepareStart.utteranceActive = s.utteranceActive := by
        unfold Service.prepareStart
        split <;> rfl
      refine .call trivial trivial ⟨hgeneration.symm, ?_⟩ ?_
      · rw [Service.utterance_congr haudio, hgeneration]
        exact hframe.2
      · exact hs.congr_queued haudio fun h => hactive.symm.trans h
    | failed e => exact .throw (hs.congr rfl id)
  | sending g =>
    cases signal with
    | value v => exact .await hawake hs
    | failed e => exact .throw (hs.congr rfl id)
  | readying event =>
    cases signal with
    | value v =>
      have hfresh : s.Fresh := hframe
      refine .ret ⟨hfresh.generation, hfresh.preRoll, hfresh.active⟩ ⟨hs.started, fun _ => ?_, ?_⟩
      · exact hfresh.generation
      · exact hs.loaded.congr rfl
    | failed e => exact .throw (hs.congr rfl id)

lemma sendControl_proceeds (payload : Payload) (pc : SendControlPc)
    (hframe : (Frame.sendControl payload pc).InOrder s)
    (hawake : (Frame.sendControl payload pc).AwakeIn s signal)
    (hs : s.Orderly config (s.sendQueue ++ rest)) :
    Proceeds config (.sendControl payload pc) rest (sendControl s payload pc signal) := by
  cases pc with
  | entry => exact .call hawake trivial trivial hs
  | connecting =>
    obtain ⟨rfl, hdrained⟩ := hframe
    cases signal with
    | value v => exact .call rfl trivial hdrained hs
    | failed e => exact .throw hs
  | sending =>
    cases signal with
    | value v => exact .ret trivial hs
    | failed e => exact .throw hs

/-- A connection that is not broken takes a payload in. -/
lemma hand_of_unbroken (hbroken : s.broken = []) (connection : ℕ) (payload : Payload) :
    s.hand connection payload = s.record (.sent connection payload) := by
  unfold Service.hand
  rw [hbroken]
  rfl

/-- A payload is handed over. -/
lemma Service.Orderly.hand {payload : Payload} {n : ℕ} (htally : s.Tallied n)
    (hready : payload.ReadyIn s) (connection : ℕ) (replay startAfter : Bool)
    (hrest : (Call.sendWs payload replay startAfter).ofLoop = false → rest = [])
    (hs : s.Orderly config ((Frame.sendWs payload replay startAfter .entry).handing ++
      s.sendQueue ++ rest)) :
    (s.record (.sent connection payload)).Orderly config (s.sendQueue ++ rest) := by
  cases payload with
  | start g =>
    obtain ⟨rfl, hunstarted⟩ := hready
    exact ⟨le_refl s.generation, fun _ => rfl, hs.loaded.start connection hunstarted⟩
  | audio chunk => exact ⟨hs.started, hs.active, hs.loaded.send connection hready.1⟩
  | finalize =>
    have hdrained : s.Drained := hready
    have hunfinished := htally.unfinished
    rw [hdrained.unfinished] at hunfinished
    have hqueue : s.sendQueue = [] := List.eq_nil_of_length_eq_zero (by omega)
    obtain rfl := hrest rfl
    have hloaded : s.Loaded config (s.sendQueue ++ []) := hs.loaded
    rw [hqueue] at hloaded ⊢
    exact ⟨hs.started, hs.active, hloaded.finalize connection hdrained.generation hdrained.buffer⟩
  | cancel => exact hs.congr (s.audio_record rfl) id
  | close => exact hs.congr (s.audio_record rfl) id
  | pong reply => exact hs.congr (s.audio_record rfl) id

lemma sendWs_proceeds {payload : Payload} {replay startAfter : Bool} {n : ℕ} (pc : SendWsPc)
    (hframe : (Frame.sendWs payload replay startAfter pc).InOrder s)
    (hawake : (Frame.sendWs payload replay startAfter pc).AwakeIn s signal)
    (htally : s.Tallied n) (hbroken : s.broken = [])
    (hrest : (Call.sendWs payload replay startAfter).ofLoop = false → rest = [])
    (hs : s.Orderly config ((Frame.sendWs payload replay startAfter pc).handing ++ s.sendQueue ++
      rest)) :
    Proceeds config (.sendWs payload replay startAfter pc) rest
      (sendWs config s payload replay startAfter pc signal) := by
  cases pc with
  | entry =>
    simp only [sendWs]
    split
    · rename_i hwebsocket
      refine .throw ?_
      cases payload with
      | audio chunk =>
        have hsome : s.websocket.isSome = true := hawake.2
        rw [hwebsocket] at hsome
        cases hsome
      | _ => exact hs
    · rw [hand_of_unbroken hbroken]
      refine .await ?_ (hs.hand htally hawake _ replay startAfter hrest)
      cases payload with
      | start g =>
        obtain ⟨rfl, -⟩ := hawake
        exact ⟨rfl, rfl, rfl⟩
      | _ => exact trivial
  | sending connection handed =>
    have hs : s.Orderly config (s.sendQueue ++ rest) := by cases payload <;> exact hs
    cases signal with
    | value v =>
      refine .ret ?_ hs
      cases payload with
      | start g => exact hframe
      | _ => exact trivial
    | failed e => exact hawake.elim
  | reconnecting => exact hframe.elim
  | resending connection handed => exact hframe.elim

/-- A chunk that is taken is on its way, and one that is done with makes no difference. -/
lemma Service.Orderly.view {onWay : List AudioChunk} (hs : s.Orderly config onWay)
    (hgeneration : s'.generation = s.generation) (hpreRoll : s'.preRollBuffer = s.preRollBuffer)
    (hbuffer : s'.aggregateBuffer = s.aggregateBuffer) (hhistory : s'.history = s.history)
    (hcount : s'.audioFramesDropped = s.audioFramesDropped)
    (hactive : s'.utteranceActive = s.utteranceActive) : s'.Orderly config onWay := by
  obtain ⟨_, _⟩ := s
  obtain ⟨_, _⟩ := s'
  simp only at hgeneration hpreRoll hbuffer hhistory hcount hactive
  subst hgeneration hpreRoll hbuffer hhistory hcount hactive
  refine ⟨hs.started, hs.active, fun hpolicy => ?_, fun hpolicy => ?_⟩
  · obtain ⟨hpast, hstarted, hpreRoll, hbytes, hunstarted, hfinalized⟩ := hs.loaded.block hpolicy
    exact ⟨hpast, hstarted, hpreRoll, hbytes, hunstarted, hfinalized⟩
  · obtain ⟨hline, hcounted, hfinalized⟩ := hs.loaded.dropOldest hpolicy
    exact ⟨hline, hcounted, hfinalized⟩

lemma sendLoopHead_proceeds (pc : SendLoopPc) (hopen : s.websocket.isSome = true)
    (hs : s.Orderly config (s.sendQueue ++ rest)) :
    Proceeds config (.sendLoop pc) rest (sendLoopHead s) := by
  unfold sendLoopHead
  split
  · exact .ret trivial hs
  · exact .await hopen hs

lemma sendLoop_proceeds (pc : SendLoopPc) (hopen : s.websocket.isSome = true)
    (hclean : config.dropPolicy = .dropOldest → ∀ v chunk rest, pc = .getting →
      signal = .value v → s.sendQueue = chunk :: rest → chunk.generation = s.generation)
    (hs : s.Orderly config (s.sendQueue ++ rest)) :
    Proceeds config (.sendLoop pc) rest (sendLoop me s pc signal) := by
  have hdone : s.taskDone.Orderly config (s.taskDone.sendQueue ++ rest) :=
    hs.view rfl rfl rfl rfl rfl rfl
  cases pc with
  | entry =>
    cases signal with
    | value v => exact sendLoopHead_proceeds .entry hopen hs
    | failed e => exact .throw hs
  | getting =>
    cases signal with
    | value v =>
      simp only [sendLoop]
      split
      · exact .await hopen hs
      · rename_i chunk queue hqueue
        rw [hqueue] at hs
        split
        · rename_i hcurrent
          exact .call hopen trivial ⟨hcurrent, hopen⟩ (hs.view rfl rfl rfl rfl rfl rfl)
        · rename_i hstale
          -- the chunk of an earlier generation is discarded
          have hpolicy : config.dropPolicy ≠ .dropOldest := fun h =>
            hstale (hclean h v chunk queue rfl rfl hqueue)
          have hrest : s.Orderly config (queue ++ rest) :=
            ⟨hs.started, hs.active, hs.loaded.discard hpolicy hstale⟩
          exact sendLoopHead_proceeds .getting hopen (hrest.view rfl rfl rfl rfl rfl rfl)
    | failed e => exact .throw hs
  | sending chunk =>
    rcases signal with v | (_ | e)
    · simp only [sendLoop]
      split
      · exact sendLoopHead_proceeds (.sending chunk) hopen hdone
      · exact .ret trivial hdone
    · exact .throw hdone
    · exact .call hopen trivial trivial hs
  | disconnecting chunk => exact .passOn trivial hdone

lemma receiveLoop_proceeds (pc : ReceiveLoopPc) (hs : s.Orderly config (s.sendQueue ++ rest)) :
    Proceeds config (.receiveLoop pc) rest (receiveLoop config s pc signal) := by
  have hhead : Proceeds config (.receiveLoop pc) rest (receiveLoopHead s) := by
    unfold receiveLoopHead
    split
    · exact .ret trivial hs
    · split
      · exact .ret trivial hs
      · exact .await trivial hs
  have herror : ∀ s : Service, s.Orderly config (s.sendQueue ++ rest) →
      Proceeds config (.receiveLoop pc) rest (receiveLoopError config s) := by
    intro s hs
    unfold receiveLoopError
    split
    · exact .call trivial trivial trivial hs
    · exact .call trivial trivial trivial hs
  cases pc with
  | entry =>
    cases signal with
    | value v => exact hhead
    | failed e => exact .throw hs
  | receiving connection =>
    rcases signal with v | (_ | e)
    · have hrecord : (s.record (.received connection (v.getD .null))).Orderly config
          (s.sendQueue ++ rest) := hs.congr (s.audio_record rfl) id
      simp only [receiveLoop]
      split
      · exact herror _ hrecord
      · exact .call trivial trivial trivial hrecord
    · exact .throw hs
    · exact herror s hs
  | handling payload =>
    rcases signal with v | (_ | e)
    · exact hhead
    · exact .throw hs
    · exact herror s hs
  | reconnecting => exact .passOn trivial hs
  | disconnecting => exact .passOn trivial hs

lemma handleServerPayload_proceeds (payload : Dict) (pc : HandlePc)
    (hs : s.Orderly config (s.sendQueue ++ rest)) :
    Proceeds config (.handleServerPayload payload pc) rest
      (handleServerPayload config s payload pc signal) := by
  have hend : ∀ s : Service, ∀ isFinal, s.Orderly config (s.sendQueue ++ rest) →
      (endTranscript s isFinal).Orderly config ((endTranscript s isFinal).sendQueue ++ rest) := by
    intro s isFinal hs
    cases isFinal with
    | true => exact hs.congr (s.audio_endUtterance rfl) fun h => nomatch h
    | false => exact hs
  have hrelease : ∀ release, (s.releaseFinalWaiters release).Orderly config
      ((s.releaseFinalWaiters release).sendQueue ++ rest) := by
    intro release
    have haudio := s.audio_releaseFinalWaiters release
    have hactive : (s.releaseFinalWaiters release).utteranceActive = s.utteranceActive :=
      s.releaseFinalWaiters_view (fun _ _ => rfl) fun _ => rfl
    exact hs.congr_queued haudio fun h => hactive.symm.trans h
  cases pc with
  | entry =>
    simp only [handleServerPayload]
    split
    case h_1 => exact .throw hs
    case h_2 => exact .call trivial trivial trivial hs
    case h_4 =>
      split
      · exact .ret trivial hs
      · exact .ret trivial (hs.congr rfl id)
    case h_5 event generation hevent =>
      split
      · exact .ret trivial hs
      · -- a final transcript sets the event of its waiters first
        obtain ⟨s₁, hs₁, hfinal⟩ : ∃ s₁, s₁.Orderly config (s₁.sendQueue ++ rest) ∧
            (if event.isFinal = true then s.recordFinalTranscriptReceived generation else s) =
              s₁ := by
          split
          · have haudio := s.audio_recordFinal generation
            have hactive :
                (s.recordFinalTranscriptReceived generation).utteranceActive =
                  s.utteranceActive := by
              unfold Service.recordFinalTranscriptReceived
              split <;> (try split) <;> rfl
            exact ⟨_, hs.congr_queued haudio fun h => hactive.symm.trans h, rfl⟩
          · exact ⟨s, hs, rfl⟩
        simp only [pushTranscript]
        rw [hfinal]
        split
        · exact .await trivial (hs₁.congr (s₁.audio_record rfl) id)
        · exact .ret trivial (hend s₁ _ hs₁)
    case h_7 => exact .ret trivial (hrelease .server)
    case h_8 => exact .ret trivial (hrelease .server)
    all_goals exact .ret trivial hs
  | ponging reply => exact .passOn trivial hs
  | pushing isFinal =>
    cases signal with
    | value v => exact .ret trivial (hend s isFinal hs)
    | failed e => exact .throw hs

/-- The generation of the last start message, the current one, and whether it is active. -/
def Service.standing (s : Service) : ℕ × ℕ × Bool :=
  (s.utterance.generation, s.generation, s.utteranceActive)

lemma Service.Orderly.of_standing {onWay onWay' : List AudioChunk} (hs : s.Orderly config onWay)
    (h : s'.standing = s.standing) (hloaded : s'.Loaded config onWay') :
    s'.Orderly config onWay' := by
  obtain ⟨hstarted, hrest⟩ := Prod.mk.inj h
  obtain ⟨hgeneration, hactive⟩ := Prod.mk.inj hrest
  refine ⟨?_, fun h => ?_, hloaded⟩
  · rw [hstarted, hgeneration]
    exact hs.started
  · rw [hstarted, hgeneration]
    exact hs.active (hactive.symm.trans h)

lemma standing_enqueueDroppingOldest (chunk : AudioChunk) :
    (s.enqueueDroppingOldest config chunk).standing = s.standing := by
  have hroom : (s.makeRoom config chunk).standing = s.standing :=
    Service.dropWhile_view (fun _ _ _ => rfl) _ _ s
  unfold Service.enqueueDroppingOldest
  split
  · exact hroom
  · exact hroom

lemma standing_flushAggregateBuffer : s.flushAggregateBuffer.1.standing = s.standing := by
  unfold Service.flushAggregateBuffer
  split <;> rfl

lemma standing_queueAudioForSend (audio : Bytes) :
    (s.queueAudioForSend config audio).1.standing = s.standing := by
  unfold Service.queueAudioForSend
  split
  · exact standing_flushAggregateBuffer
  · rfl

lemma standing_flushPreRoll : (s.flushPreRoll config).1.standing = s.standing := by
  unfold Service.flushPreRoll
  split
  · rfl
  · exact standing_queueAudioForSend _

lemma enqueueChunk_proceeds {chunk : AudioChunk} (pc : EnqueuePc)
    (hchunk : chunk.generation = s.generation) (hwoken : pc = .sleeping → ∃ v, signal = .value v)
    (hs : s.Orderly config (s.sendQueue ++ [chunk])) :
    Proceeds config (.enqueueChunk chunk pc) [] (enqueueChunk config s chunk pc signal) := by
  have hblock : Proceeds config (.enqueueChunk chunk pc) [] (blockChunk config s chunk) := by
    unfold blockChunk
    split
    · exact .await hchunk hs
    · refine .ret trivial ⟨hs.started, hs.active, ?_⟩
      rw [List.append_nil]
      exact hs.loaded.put
  have hdrop : config.dropPolicy ≠ .block →
      Proceeds config (.enqueueChunk chunk pc) []
        (.ret (s.enqueueDroppingOldest config chunk)) := by
    intro hpolicy
    refine .ret trivial (hs.of_standing (standing_enqueueDroppingOldest chunk) ?_)
    rw [List.append_nil]
    exact hs.loaded.enqueueDroppingOldest hpolicy
  cases pc with
  | entry =>
    simp only [enqueueChunk]
    split
    · exact hblock
    · rename_i hpolicy
      have hpolicy : config.dropPolicy ≠ .block := by
        rw [hpolicy]
        decide
      split
      · exact .throw ⟨hs.started, hs.active, hs.loaded.drop hpolicy⟩
      · exact hdrop hpolicy
    · rename_i hpolicy
      have hpolicy : config.dropPolicy ≠ .block := by
        rw [hpolicy]
        decide
      exact hdrop hpolicy
  | sleeping =>
    cases signal with
    | value v => exact hblock
    | failed e =>
      obtain ⟨v, hv⟩ := hwoken rfl
      cases hv

/-- A method passes a chunk on to `_enqueue_chunk`. -/
lemma enqueueLast_proceeds {onWay : List AudioChunk} {flushed : Service × Option AudioChunk}
    {pc : AudioChunk → Frame} (hends : frame.call.Ends flushed.1)
    (hpc : ∀ chunk, (pc chunk).InOrder flushed.1) (hs : s.Orderly config onWay)
    (hstanding : flushed.1.standing = s.standing)
    (hpasses : Service.PassesOn config flushed flushed.1.sendQueue) :
    Proceeds config frame [] (enqueueLast flushed pc) := by
  obtain ⟨s', _ | chunk⟩ := flushed
  · exact .ret hends (hs.of_standing hstanding hpasses.loaded)
  · exact .call (hpc chunk) trivial (hpasses.current chunk rfl)
      (hs.of_standing hstanding hpasses.loaded)

lemma handleAudio_proceeds {audio : Bytes} (pc : HandleAudioPc)
    (hs : s.Orderly config (s.sendQueue ++ [])) :
    Proceeds config (.handleAudio audio pc) [] (handleAudio config s audio pc signal) := by
  cases pc with
  | entry =>
    simp only [handleAudio]
    split
    · exact .ret trivial hs
    · exact .call trivial trivial trivial hs
  | connecting =>
    cases signal with
    | value v =>
      simp only [handleAudio]
      split
      · rename_i hactive
        rw [hactive]
        have hqueue : ((s.record (.heard audio true)).queueAudioForSend config audio).1.sendQueue =
            s.sendQueue := (congrArg Prod.fst (queueAudioForSend_depot audio) :)
        refine enqueueLast_proceeds trivial (fun _ => trivial) hs
          (standing_queueAudioForSend audio) ?_
        rw [hqueue, ← List.append_nil s.sendQueue]
        exact hs.loaded.hearActive (hs.active hactive) audio
      · rename_i hinactive
        rw [Bool.not_eq_true] at hinactive
        rw [hinactive]
        have hpreRoll : ∀ s : Service, (s.appendPreRoll config audio).standing = s.standing ∧
            (s.appendPreRoll config audio).sendQueue = s.sendQueue := by
          intro s
          unfold Service.appendPreRoll
          split <;> exact ⟨rfl, rfl⟩
        refine .ret trivial (hs.of_standing (hpreRoll _).1 ?_)
        rw [(hpreRoll _).2]
        exact hs.loaded.hearInactive audio
    | failed e => exact .throw hs
  | enqueueing chunk => exact .passOn trivial hs

lemma startCurrentUtterance_proceeds (pc : StartUtterancePc)
    (hawake : (Frame.startCurrentUtterance pc).AwakeIn s signal)
    (hclean : config.dropPolicy = .block → pc = .entry → s.utteranceActive = false →
      s.aggregateBuffer = [])
    (hs : s.Orderly config (s.sendQueue ++ [])) :
    Proceeds config (.startCurrentUtterance pc) [] (startCurrentUtterance config s pc signal) := by
  cases pc with
  | entry =>
    have hrecord : (s.record .vadStarted).Orderly config (s.sendQueue ++ []) :=
      hs.congr (s.audio_record rfl) id
    simp only [startCurrentUtterance]
    split
    · exact .ret trivial hrecord
    · rename_i hinactive
      have hinactive : s.utteranceActive = false := Bool.not_eq_true _ ▸ hinactive
      have hlater : s.utterance.generation ≠ s.generation + 1 :=
        (Nat.lt_succ_of_le hs.started).ne
      refine .call trivial trivial ⟨hinactive, hlater⟩ ⟨hs.started.trans (Nat.le_succ _), ?_, ?_⟩
      · exact fun hactive => absurd (hinactive.symm.trans hactive) (by decide)
      · exact hrecord.loaded.next fun hpolicy => hclean hpolicy rfl hinactive
  | starting =>
    cases signal with
    | value v =>
      have hqueue : (s.flushPreRoll config).1.sendQueue = s.sendQueue := by
        unfold Service.flushPreRoll
        split
        · rfl
        · exact (congrArg Prod.fst (queueAudioForSend_depot s.preRollBuffer) :)
      refine enqueueLast_proceeds trivial (fun _ => trivial) hs standing_flushPreRoll ?_
      rw [hqueue, ← List.append_nil s.sendQueue]
      exact hs.loaded.flushPreRoll hawake
    | failed e => exact .throw hs
  | enqueueing chunk => exact .passOn trivial hs

/-- What is left of the aggregate buffer is nothing. -/
lemma buffer_flushAggregateBuffer : s.flushAggregateBuffer.1.aggregateBuffer = [] := by
  unfold Service.flushAggregateBuffer
  split
  · rename_i hempty
    exact List.isEmpty_iff.mp hempty
  · rfl

lemma finalizeCurrentUtterance_proceeds (pc : FinalizePc)
    (hframe : (Frame.finalizeCurrentUtterance pc).InOrder s)
    (hawake : (Frame.finalizeCurrentUtterance pc).AwakeIn s signal)
    (hs : s.Orderly config (s.sendQueue ++ [])) :
    Proceeds config (.finalizeCurrentUtterance pc) []
      (finalizeCurrentUtterance config s pc signal) := by
  have hended : (s.endUtterance .finalized).Orderly config (s.sendQueue ++ []) :=
    hs.congr (s.audio_endUtterance rfl) fun h => nomatch h
  have hpopped : ∀ g, (s.popFinal g).Orderly config (s.sendQueue ++ []) := fun _ => hs.congr rfl id
  cases pc with
  | entry =>
    have hbuffer := buffer_flushAggregateBuffer (s := s)
    have hstanding := standing_flushAggregateBuffer (s := s)
    have hqueue : s.flushAggregateBuffer.1.sendQueue = s.sendQueue :=
      (congrArg Prod.fst (flushAggregateBuffer_depot (s := s)) :)
    have hpasses : Service.PassesOn config s.flushAggregateBuffer
        s.flushAggregateBuffer.1.sendQueue := by
      rw [hqueue, ← List.append_nil s.sendQueue]
      exact hs.loaded.flushAggregateBuffer
    simp only [finalizeCurrentUtterance]
    split
    · rcases hflush : s.flushAggregateBuffer with ⟨s', _ | chunk⟩ <;>
        rw [hflush] at hbuffer hstanding hpasses
      · exact .await ⟨hbuffer, fun h => absurd rfl h⟩ (hs.of_standing hstanding hpasses.loaded)
      · exact .call hbuffer trivial (hpasses.current chunk rfl)
          (hs.of_standing hstanding hpasses.loaded)
    · exact .ret trivial hs
  | enqueueing g chunk =>
    cases signal with
    | value v => exact .await ⟨hframe, fun h => absurd rfl h⟩ hs
    | failed e => exact .throw hs
  | joining g drained =>
    cases signal with
    | value v =>
      simp only [finalizeCurrentUtterance]
      split
      · rename_i hgoes
        rw [Bool.and_eq_true] at hgoes
        have hdrained : s.Drained := ⟨hawake, hframe.1, hs.active hgoes.1⟩
        have haudio := s.audio_setdefaultFinal g
        have hactive : (s.setdefaultFinal g).utteranceActive = s.utteranceActive := by
          unfold Service.setdefaultFinal
          split <;> rfl
        have hunfinished : (s.setdefaultFinal g).unfinished = s.unfinished :=
          (congrArg Service.unfinished haudio :)
        have hbuffer : (s.setdefaultFinal g).aggregateBuffer = s.aggregateBuffer :=
          (congrArg Service.aggregateBuffer haudio :)
        have hgeneration : (s.setdefaultFinal g).generation = s.generation :=
          (congrArg Service.generation haudio :)
        refine .call trivial trivial ⟨rfl, hunfinished.trans hdrained.unfinished,
          hbuffer.trans hdrained.buffer, ?_⟩
          (hs.congr_queued haudio fun h => hactive.symm.trans h)
        rw [Service.utterance_congr haudio, hgeneration]
        exact hdrained.generation
      · exact .ret trivial hs
    | failed e => exact .throw hs
  | sending g event =>
    cases signal with
    | value v =>
      simp only [finalizeCurrentUtterance]
      split
      · exact .ret trivial (hended.congr rfl id)
      · exact .await trivial hended
    | failed e => exact .throw hs
  | waiting g event =>
    rcases signal with v | (_ | (_ | _ | _ | _ | _ | _))
    case value => exact .ret trivial (hpopped g)
    case failed.raised.timeoutError => exact .call trivial trivial trivial hs
    all_goals exact .throw (hpopped g)
  | disconnecting g event => exact .passOn trivial (hpopped g)

lemma processFrame_proceeds (frame : PipecatFrame) (pc : ProcessPc)
    (hs : s.Orderly config (s.sendQueue ++ rest)) :
    Proceeds config (.processFrame frame pc) rest (processFrame config s frame pc signal) := by
  cases pc with
  | entry =>
    cases signal with
    | value v =>
      cases frame with
      | audioRaw audio sampleRate numChannels =>
        simp only [processFrame]
        split
        · exact .throw hs
        · exact .call trivial trivial trivial hs
      | vadUserStartedSpeaking => exact .call trivial trivial trivial hs
      | userStoppedSpeaking => exact .await trivial hs
      | other => exact .await trivial hs
    | failed e => exact .throw hs
  | handling =>
    cases signal with
    | value v =>
      cases frame with
      | audioRaw audio sampleRate numChannels =>
        simp only [processFrame]
        split
        · exact .await trivial hs
        · exact .ret trivial hs
      | vadUserStartedSpeaking => exact .await trivial hs
      | userStoppedSpeaking => exact .ret trivial hs
      | other => exact .ret trivial hs
    | failed e => exact .throw hs
  | pushing =>
    cases signal with
    | value v =>
      cases frame with
      | userStoppedSpeaking => exact .call trivial trivial trivial hs
      | _ => exact .ret trivial hs
    | failed e => exact .throw hs

lemma start_proceeds (pc : StartPc) (hs : s.Orderly config (s.sendQueue ++ rest)) :
    Proceeds config (.start pc) rest (start s pc signal) := by
  cases pc with
  | entry =>
    cases signal with
    | value v => exact .call trivial trivial trivial hs
    | failed e => exact .throw hs
  | connecting => exact .passOn trivial hs

end methods

/-- **The frame moves of an unhindered run leave the audio in order.** -/
theorem frameMove_proceeds {n : ℕ} (hframe : frame.InOrder s) (hawake : frame.AwakeIn s signal)
    (hinterrupts : frame.call.interrupts = false) (htally : s.Tallied n) (hbroken : s.broken = [])
    (hwoken : ∀ chunk, frame = .enqueueChunk chunk .sleeping → ∃ v, signal = .value v)
    (hblock : config.dropPolicy = .block → frame = .startCurrentUtterance .entry →
      s.utteranceActive = false → s.aggregateBuffer = [])
    (htaken : config.dropPolicy = .dropOldest → ∀ v chunk rest, frame = .sendLoop .getting →
      signal = .value v → s.sendQueue = chunk :: rest → chunk.generation = s.generation)
    (hrest : frame.call.ofLoop = false → rest = [])
    (hs : s.Orderly config (frame.handing ++ s.sendQueue ++ (frame.putting ++ rest))) :
    Proceeds config frame rest (frameMove config me next s frame signal) := by
  cases frame with
  | ensureConnection pc => exact ensureConnection_proceeds pc hs
  | closeSocketAndTasks cancelCurrent pc => exact hframe.elim
  | ensureUtteranceStarted pc => exact ensureUtteranceStarted_proceeds pc hframe hawake hs
  | sendWs payload replay startAfter pc =>
    exact sendWs_proceeds pc hframe hawake htally hbroken hrest hs
  | reconnect startUtterance pc => cases hinterrupts
  | disconnect pc => cases hinterrupts
  | sendLoop pc =>
    refine sendLoop_proceeds pc hframe (fun hpolicy v chunk queue hpc => ?_) hs
    exact htaken hpolicy v chunk queue (by rw [hpc])
  | receiveLoop pc => exact receiveLoop_proceeds pc hs
  | handleServerPayload payload pc => exact handleServerPayload_proceeds payload pc hs
  | sendControl payload pc => exact sendControl_proceeds payload pc hframe hawake hs
  | enqueueChunk chunk pc =>
    obtain rfl := hrest rfl
    have hchunk : chunk.generation = s.generation := by
      cases pc with
      | entry => exact hawake
      | sleeping => exact hframe
    exact enqueueChunk_proceeds pc hchunk (fun hpc => hwoken chunk (by rw [hpc])) hs
  | handleAudio audio pc =>
    obtain rfl := hrest rfl
    exact handleAudio_proceeds pc hs
  | startCurrentUtterance pc =>
    obtain rfl := hrest rfl
    refine startCurrentUtterance_proceeds pc hawake (fun hpolicy hpc => ?_) hs
    exact hblock hpolicy (by rw [hpc])
  | finalizeCurrentUtterance pc =>
    obtain rfl := hrest rfl
    exact finalizeCurrentUtterance_proceeds pc hframe hawake hs
  | cancelCurrentUtterance pc => exact hframe.elim
  | processFrame frame pc => exact processFrame_proceeds frame pc hs
  | start pc => exact start_proceeds pc hs
  | stop pc => exact hframe.elim

/-! ## What the moves do to the others -/

/-- No move breaks a connection. -/
lemma frameMove_broken : (frameMove config me next s frame signal).shared.broken = s.broken := by
  have hmove : ChannelMove config me s frame signal
      (frameMove config me next s frame signal).shared.channel := frameMove_channel frame signal
  have hbroken : ∀ s : Service, s.broken = s.channel.broken := fun _ => rfl
  rw [hbroken, hbroken s]
  generalize (frameMove config me next s frame signal).shared.channel = l at hmove
  cases hmove <;> rfl

/-- An utterance becomes active when a start handshake ends. -/
lemma frameMove_active (hready : ∀ event, frame ≠ .ensureUtteranceStarted (.readying event))
    (hactive : (frameMove config me next s frame signal).shared.utteranceActive = true) :
    s.utteranceActive = true := by
  have hmove : ChannelMove config me s frame signal
      (frameMove config me next s frame signal).shared.channel := frameMove_channel frame signal
  have hactive : (frameMove config me next s frame signal).shared.channel.active = true := hactive
  generalize (frameMove config me next s frame signal).shared.channel = l at hmove hactive
  cases hmove
  case activate event hframe => exact absurd hframe (hready event)
  case giveUp => cases hactive
  case endUtterance => cases hactive
  case discard => cases hactive
  all_goals exact hactive

/-- A frame of an unhindered run keeps the connection. -/
lemma frameMove_websocket (hframe : frame.InOrder s) (hopen : s.websocket.isSome = true) :
    (frameMove config me next s frame signal).shared.websocket.isSome = true := by
  have hclose : ∀ cancelCurrent pc, frame ≠ .closeSocketAndTasks cancelCurrent pc := by
    rintro cancelCurrent pc rfl
    exact hframe
  have hmove : Rewires next s frame signal
      (frameMove config me next s frame signal).shared.wiring := frameMove_rewires hclose
  have hwebsocket : ∀ s : Service, s.websocket = s.wiring.websocket := fun _ => rfl
  rw [hwebsocket]
  cases hmove with
  | same hl =>
    rw [hl]
    exact hopen
  | connect hconnect hsignal hl =>
    rw [hl]
    rfl
  | giveUp hgives hsignal hl =>
    cases hgives with
    | reconnect startUtterance => exact hframe.elim
    | disconnect => exact hframe.elim

/-- The frames whose moves touch what suspended frames rely on. -/
def Frame.stirs : Frame → Bool
  | .ensureUtteranceStarted (.readying _) => true
  | .sendWs (.start _) _ _ .entry => true
  | .enqueueChunk _ _ => true
  | .handleAudio _ _ => true
  | .startCurrentUtterance _ => true
  | .finalizeCurrentUtterance .entry => true
  | _ => false

namespace Service.Steady

lemma refl (s : Service) : s.Steady s :=
  ⟨rfl, rfl, rfl, rfl, rfl, le_rfl, fun h => absurd rfl h, id, id⟩

lemma trans {s'' : Service} (h : s.Steady s') (h' : s'.Steady s'') : s.Steady s'' where
  generation := h'.generation.trans h.generation
  buffer := h'.buffer.trans h.buffer
  started := h'.started.trans h.started
  preRoll := h'.preRoll.trans h.preRoll
  heard := h'.heard.trans h.heard
  unfinished := h'.unfinished.trans h.unfinished
  drained hne := by
    by_cases hsame : s'.drained = s.drained
    · exact h'.drained fun h => hne (h.trans hsame)
    · exact Nat.le_zero.mp (h'.unfinished.trans (h.drained hsame).le)
  active hactive := h.active (h'.active hactive)
  websocket hopen := h'.websocket (h.websocket hopen)

/-- A move that leaves the audio state alone. -/
lemma of_audio (haudio : s'.audio = s.audio)
    (hactive : s'.utteranceActive = true → s.utteranceActive = true)
    (hwebsocket : s.websocket.isSome = true → s'.websocket.isSome = true) : s.Steady s' := by
  have hutterance := Service.utterance_congr haudio
  have hunfinished : s'.unfinished = s.unfinished := (congrArg Service.unfinished haudio :)
  have hdrained : s'.drained = s.drained := (congrArg Service.drained haudio :)
  exact ⟨(congrArg Service.generation haudio :), (congrArg Service.aggregateBuffer haudio :),
    by rw [hutterance], by rw [hutterance], by rw [hutterance], hunfinished.le,
    fun h => absurd hdrained h, hactive, hwebsocket⟩

lemma taskDone (s : Service) : s.Steady s.taskDone where
  generation := rfl
  buffer := rfl
  started := rfl
  preRoll := rfl
  heard := rfl
  unfinished := Nat.sub_le _ 1
  drained h := by
    have hone : s.unfinished = 1 := by
      by_contra hne
      exact h (if_neg hne)
    change s.unfinished - 1 = 0
    rw [hone]
  active := id
  websocket := id

lemma takeChunk (s : Service) (chunk : AudioChunk) (queue : List AudioChunk) :
    s.Steady (s.takeChunk chunk queue) :=
  ⟨rfl, rfl, rfl, rfl, rfl, le_rfl, fun h => absurd rfl h, id, id⟩

lemma sendLoopHead (h : s.Steady s') : s.Steady (sendLoopHead s').shared := by
  unfold RtcAsr.Plugin.sendLoopHead
  split
  · exact h
  · exact h

lemma sendLoop (s : Service) (pc : SendLoopPc) (signal : ServiceSignal) :
    s.Steady (sendLoop me s pc signal).shared := by
  cases pc with
  | entry =>
    cases signal with
    | value v => exact (refl s).sendLoopHead
    | failed e => exact refl s
  | getting =>
    cases signal with
    | value v =>
      simp only [RtcAsr.Plugin.sendLoop]
      split
      · exact refl s
      · split
        · exact takeChunk s _ _
        · exact ((takeChunk s _ _).trans (taskDone _)).sendLoopHead
    | failed e => exact refl s
  | sending chunk =>
    rcases signal with v | (_ | e)
    · simp only [RtcAsr.Plugin.sendLoop]
      split
      · exact (taskDone s).sendLoopHead
      · exact taskDone s
    · exact taskDone s
    · exact refl s
  | disconnecting chunk =>
    simp only [RtcAsr.Plugin.sendLoop, passOn_shared]
    exact taskDone s

end Service.Steady

/-- **The other moves are steady.** -/
lemma frameMove_steady (hframe : frame.InOrder s) (hstirs : frame.stirs = false) :
    s.Steady (frameMove config me next s frame signal).shared := by
  by_cases hquiet : frame.carries = false
  · refine .of_audio (audio_frameMove config me next s hquiet signal)
      (frameMove_active fun event hready => ?_) (frameMove_websocket hframe)
    rw [hready] at hstirs
    cases hstirs
  cases frame with
  | sendLoop pc => exact .sendLoop s pc signal
  | sendWs payload replay startAfter pc =>
    cases pc with
    | entry =>
      simp only [frameMove, sendWs]
      split
      · exact .refl s
      · simp only [Move.await, Service.hand]
        split
        · exact .refl s
        · cases payload
          case start => cases hstirs
          all_goals exact ⟨rfl, rfl, rfl, rfl, rfl, le_rfl, fun h => absurd rfl h, id, id⟩
    | reconnecting => exact hframe.elim
    | _ => exact absurd rfl hquiet
  | disconnect pc =>
    cases pc with
    | entry => exact absurd rfl hquiet
    | closing => exact hframe.elim
  | cancelCurrentUtterance pc => exact hframe.elim
  | finalizeCurrentUtterance pc =>
    cases pc with
    | entry => cases hstirs
    | _ => exact absurd rfl hquiet
  | enqueueChunk chunk pc => cases hstirs
  | handleAudio audio pc => cases hstirs
  | startCurrentUtterance pc => cases hstirs
  | _ => exact absurd rfl hquiet

/-- A frame of a loop relies on the connection only. -/
lemma Frame.InOrder.of_loop (hg : g.InOrder s) (hloop : g.call.ofLoop = true)
    (hopen : s.websocket.isSome = true → s'.websocket.isSome = true) : g.InOrder s' := by
  cases g with
  | sendLoop pc => exact hopen hg
  | sendWs payload replay startAfter pc =>
    cases payload with
    | start | finalize | cancel | close => cases hloop
    | audio | pong => cases pc <;> exact hg
  | reconnect startUtterance pc => cases pc <;> exact hg
  | disconnect pc => cases pc <;> exact hg
  | receiveLoop pc => exact trivial
  | handleServerPayload payload pc => exact trivial
  | _ => cases hloop

/-- A frame that waits for another method than `_ensure_connection` relies on the connection only,
but for a finalize, which has flushed its buffer. -/
lemma Frame.InOrder.of_pending (hg : g.InOrder s) (hpending : g.pending = some k)
    (hk : k ≠ .ensureConnection)
    (hbuffer : g.call = .finalizeCurrentUtterance → s'.aggregateBuffer = s.aggregateBuffer)
    (hopen : s.websocket.isSome = true → s'.websocket.isSome = true) : g.InOrder s' := by
  unfold Frame.pending at hpending
  split at hpending <;> cases hpending
  case h_20 => exact (hbuffer rfl).trans hg
  all_goals first | exact hg | exact trivial | exact hopen hg | exact absurd rfl hk

/-- A move below the methods of a frame leaves the aggregate buffer alone. -/
lemma frameMove_buffer (hstirs : frame.stirs = true) (hrank : frame.call.rank < 6) :
    (frameMove config me next s frame signal).shared.aggregateBuffer = s.aggregateBuffer := by
  cases frame with
  | ensureUtteranceStarted pc =>
    cases pc with
    | readying event => cases signal <;> rfl
    | _ => cases hstirs
  | sendWs payload replay startAfter pc =>
    cases pc with
    | entry =>
      simp only [frameMove, sendWs]
      split
      · rfl
      · simp only [Move.await, Service.hand]
        split <;> rfl
    | _ => cases payload <;> cases hstirs
  | enqueueChunk chunk pc =>
    have hdrop : (s.enqueueDroppingOldest config chunk).aggregateBuffer = s.aggregateBuffer := by
      have hroom : (s.makeRoom config chunk).aggregateBuffer = s.aggregateBuffer :=
        Service.dropWhile_view (fun _ _ _ => rfl) _ _ s
      unfold Service.enqueueDroppingOldest
      split <;> exact hroom
    have hblock : (blockChunk config s chunk).shared.aggregateBuffer = s.aggregateBuffer := by
      unfold blockChunk
      split <;> rfl
    cases pc with
    | entry =>
      simp only [frameMove, enqueueChunk]
      split
      · exact hblock
      · split
        · rfl
        · exact hdrop
      · exact hdrop
    | sleeping =>
      cases signal with
      | value v => exact hblock
      | failed e => rfl
  | handleAudio audio pc => exact absurd hrank (lt_irrefl 6)
  | startCurrentUtterance pc => exact absurd hrank (lt_irrefl 6)
  | finalizeCurrentUtterance pc => exact absurd hrank (lt_irrefl 6)
  | _ => cases hstirs

/-- A loop is created over an open connection. -/
lemma frameMove_spawn_open (hk : k ∈ (frameMove config me next s frame signal).spawn) :
    (frameMove config me next s frame signal).shared.websocket.isSome = true := by
  rcases (frameMove_stays config me next s signal frame).spawn with hnil | hcall
  · rw [hnil] at hk
    cases hk
  · cases frame <;> cases hcall
    rename_i pc
    revert hk
    cases pc <;> cases signal <;> simp only [frameMove, ensureConnection] <;> (try split) <;>
      intro hk <;> first | rfl | cases hk

/-! ## Runs -/

/-- The chunk that the running task is about to hand over. -/
def handing (w : ServiceWorld) : List AudioChunk :=
  match w.running with
  | none => []
  | some (t, _) => ((w.stack t).head?.map Frame.handing).getD []

/-- The chunk that the innermost frame has to put. -/
def putting (fs : List Frame) : List AudioChunk := (fs.head?.map Frame.putting).getD []

/-- The audio is in order, what the frames rely on is so, and at most one task is not a loop. -/
structure FaithfulWorld (config : LocalSTTConfig) (w : ServiceWorld) : Prop where
  accounted : AccountedWorld config w
  unbroken : w.shared.broken = []
  frames : Coroutines.Outline (fun _ frame s => frame.InOrder s) w
  awake : Coroutines.Wakes (fun frame signal s => frame.AwakeIn s signal) w
  solo : ∃ t₀, (∀ t, t ≠ t₀ → ∀ frame ∈ w.stack t, frame.call.ofLoop = true) ∧
    w.shared.Orderly config (handing w ++ w.shared.sendQueue ++ putting (w.stack t₀))

section runs

variable {w w' : ServiceWorld} {t t₀ : TaskId} {fs : List Frame} {a : ServiceAction}

/-- A frame that waits for a call neither hands a chunk over nor puts one. -/
lemma idle_of_pending (hpending : g.pending = some k) : g.handing = [] ∧ g.putting = [] := by
  unfold Frame.pending at hpending
  split at hpending <;> cases hpending
  case h_3 payload replay startAfter => cases payload <;> exact ⟨rfl, rfl⟩
  all_goals exact ⟨rfl, rfl⟩

/-- A frame of a loop puts no chunk. -/
lemma putting_of_loop (hloop : g.call.ofLoop = true) : g.putting = [] := by
  cases g <;> first | rfl | cases hloop

/-- What a loop runs calls only what a loop runs, while nothing fails. -/
lemma ofLoop_of_pending (hpending : g.pending = some k) (hloop : g.call.ofLoop = true)
    (hinterrupts : g.call.interrupts = false) : k.ofLoop = true := by
  unfold Frame.pending at hpending
  split at hpending <;> cases hpending <;>
    first | rfl | (cases hinterrupts; done) | cases hloop

/-- A frame that is stirred belongs to the application. -/
lemma ofLoop_of_stirs (hstirs : g.stirs = true) : g.call.ofLoop = false := by
  cases g with
  | sendWs payload replay startAfter pc =>
    cases payload with
    | start g => rfl
    | _ => cases pc <;> cases hstirs
  | _ => first | rfl | cases hstirs

/-- The frames of a loop are followed by frames of a loop. -/
lemma frameMove_ofLoop (hloop : frame.call.ofLoop = true)
    (hinterrupts : frame.call.interrupts = false) :
    EachFrame (fun f => f.call.ofLoop = true)
      (frameMove config me next s frame signal).command := by
  refine eachFrame_of_calls (P := fun k => k.ofLoop = true) hloop fun f k hcommand => ?_
  have hstays := (frameMove_stays config me next s signal frame).command
  rw [hcommand] at hstays
  obtain ⟨hcall, hpending⟩ := hstays
  exact ofLoop_of_pending hpending (hcall ▸ hloop) (hcall ▸ hinterrupts)

/-- A loop puts nothing. -/
lemma puttingAfter_of_loop (hloop : frame.call.ofLoop = true)
    (hinterrupts : frame.call.interrupts = false) :
    puttingAfter (frameMove config me next s frame signal).command = [] := by
  have hframes : EachFrame (fun f => f.call.ofLoop = true)
      (frameMove config me next s frame signal).command := frameMove_ofLoop hloop hinterrupts
  cases hcommand : (frameMove config me next s frame signal).command with
  | await f =>
    rw [hcommand] at hframes
    exact putting_of_loop hframes
  | call f k =>
    rw [hcommand] at hframes
    exact putting_of_loop hframes.2
  | ret => rfl
  | throw e => rfl

/-- What the innermost frame of the task that moved has to put. -/
lemma putting_after (hshape : ServiceShaped config w) (hf : w.stack t = f :: fs) :
    putting ((afterMove config w t signal f fs).stack t) =
      puttingAfter (frameMove config t w.spawned w.shared f signal).command := by
  have htail : putting fs = [] := by
    cases fs with
    | nil => rfl
    | cons g gs =>
      have hnested : (service config).NestedStack (f :: g :: gs) := hf ▸ hshape.shaped.nested t
      exact (idle_of_pending (List.isChain_cons_cons.mp hnested).1).2
  rw [Coroutines.apply_stack, Function.update_self]
  cases (frameMove config t w.spawned w.shared f signal).command with
  | await g => rfl
  | call g k => rfl
  | ret => exact htail
  | throw e => exact htail

/-- What is handed over after a move. -/
lemma handing_after (hshape : ServiceShaped config w) (hf : w.stack t = f :: fs) :
    handing (afterMove config w t signal f fs) =
      handedBy (frameMove config t w.spawned w.shared f signal).command := by
  have htail : ∀ g gs, fs = g :: gs → g.handing = [] := by
    rintro g gs rfl
    have hnested : (service config).NestedStack (f :: g :: gs) := hf ▸ hshape.shaped.nested t
    exact (idle_of_pending (List.isChain_cons_cons.mp hnested).1).1
  have hidle : ∀ (w : ServiceWorld) (signal : ServiceSignal), w.stack t = fs →
      w.running = (if fs.isEmpty then none else some (t, signal)) → handing w = [] := by
    intro w signal hstack hrun
    unfold handing
    cases fs with
    | nil =>
      rw [hrun]
      rfl
    | cons g gs =>
      rw [hrun]
      simp only [List.isEmpty_cons, Bool.false_eq_true, if_false, hstack]
      exact htail g gs rfl
  cases hcommand : (frameMove config t w.spawned w.shared f signal).command with
  | await g =>
    unfold handing afterMove Coroutines.apply
    rw [hcommand]
    rfl
  | call g k =>
    unfold handing afterMove Coroutines.apply
    rw [hcommand]
    simp only [Function.update_self]
    rfl
  | ret =>
    refine hidle _ (.value none) ?_ ?_
    · rw [Coroutines.apply_stack, Function.update_self, hcommand]
      rfl
    · unfold afterMove Coroutines.apply
      rw [hcommand]
      rfl
  | throw e =>
    refine hidle _ (.failed e) ?_ ?_
    · rw [Coroutines.apply_stack, Function.update_self, hcommand]
      rfl
    · unfold afterMove Coroutines.apply
      rw [hcommand]

/-- The frames of the others have what they rely on after a move. -/
lemma FaithfulWorld.stable (hw : FaithfulWorld config w) (hf : w.stack t = f :: fs)
    (hloops : ∀ u, u ≠ t₀ → ∀ frame ∈ w.stack u, frame.call.ofLoop = true) {u : TaskId}
    (hmem : g ∈ w.stack u) (hbelow : u = t → g ∈ fs) (hg : g.InOrder w.shared) :
    g.InOrder (frameMove config t w.spawned w.shared f signal).shared := by
  have hframe : f.InOrder w.shared := hw.frames t f (hf ▸ List.mem_cons_self ..)
  cases hstirs : f.stirs with
  | false => exact hg.steady (frameMove_steady hframe hstirs)
  | true =>
    have hopen : w.shared.websocket.isSome = true →
        (frameMove config t w.spawned w.shared f signal).shared.websocket.isSome = true :=
      frameMove_websocket hframe
    have ht : t = t₀ := by
      by_contra hne
      have hloop := hloops t hne f (hf ▸ List.mem_cons_self ..)
      exact Bool.false_ne_true ((ofLoop_of_stirs hstirs).symm.trans hloop)
    by_cases hu : u = t
    · subst hu
      have hfs : g ∈ fs := hbelow rfl
      have hnested : (service config).NestedStack (f :: fs) :=
        hf ▸ hw.accounted.tallied.shape.shaped.nested u
      have hrank : ∀ g ∈ fs, f.call.rank < g.call.rank :=
        hnested.rank_lt (service_lawful config)
      obtain ⟨f', hf', hpending⟩ := hnested.callee_of_mem hfs
      refine hg.of_pending hpending ?_ (fun hfinalize => ?_) hopen
      · -- `_ensure_connection` is of the smallest rank, and its moves stir nothing
        intro hconnection
        have hconnection : f'.call = .ensureConnection := hconnection
        rcases List.mem_cons.mp hf' with rfl | hbelow
        · cases f' <;> cases hconnection
          cases hstirs
        · have hlt := hrank f' hbelow
          rw [hconnection] at hlt
          exact absurd hlt (Nat.not_lt_zero _)
      · have hlt := hrank g hfs
        rw [hfinalize] at hlt
        exact frameMove_buffer hstirs hlt
    · exact hg.of_loop (hloops u (ht ▸ hu) g hmem) hopen

/-- While no task runs, no frame is at the entry of a method that tasks do not begin with. -/
lemma not_entered (hshape : ServiceShaped config w) (hrun : w.running = none)
    (hf : w.stack t = f :: fs) (hroot : ¬ f.call.isRoot) : f ≠ f.call.enter := by
  intro hentry
  rcases hshape.prompt t f fs hf hentry with h | h
  · exact hroot h
  · cases hrun.symm.trans h

/-- A task that is resumed hands nothing over yet. -/
lemma handing_of_idle (hshape : ServiceShaped config w) (hrun : w.running = none)
    (hf : w.stack t = f :: fs) : f.handing = [] := by
  cases f with
  | sendWs payload replay startAfter pc =>
    cases pc with
    | entry =>
      refine absurd rfl (not_entered hshape hrun hf ?_)
      simp [Frame.call, Call.isRoot, Call.callable]
    | _ => cases payload <;> rfl
  | _ => rfl

/-- A task that is resumed in a frame finds what this frame relies on. -/
lemma FaithfulWorld.resumed {signal : ServiceSignal} (hw : FaithfulWorld config w)
    (hrun : w.running = none) (hf : w.stack t = f :: fs)
    (hsignal : (service config).accepts w t f signal = true)
    (hcalm : Unhindered w (.resume t signal)) : f.AwakeIn w.shared signal := by
  have hframe : f.InOrder w.shared := hw.frames t f (hf ▸ List.mem_cons_self ..)
  have hentered : ¬ f.call.isRoot → f ≠ f.call.enter := fun hroot =>
    not_entered hw.accounted.tallied.shape hrun hf hroot
  cases f with
  | ensureUtteranceStarted pc =>
    cases pc with
    | entry =>
      refine absurd rfl (hentered ?_)
      simp [Frame.call, Call.isRoot, Call.callable]
    | sending g =>
      cases signal with
      | value v =>
        have hrefused : (service config).accepts w t (.ensureUtteranceStarted (.sending g))
            (.value v) = false := not_accepts_of_pending fun h => nomatch h
        exact absurd (hrefused.symm.trans hsignal) Bool.false_ne_true
      | failed e => exact trivial
    | _ => exact trivial
  | sendWs payload replay startAfter pc =>
    cases pc with
    | entry =>
      refine absurd rfl (hentered ?_)
      simp [Frame.call, Call.isRoot, Call.callable]
    | sending connection handed =>
      obtain ⟨v, rfl⟩ := hcalm payload replay startAfter _ fs hf
      exact trivial
    | _ => exact trivial
  | sendControl payload pc =>
    cases pc with
    | entry =>
      refine absurd rfl (hentered ?_)
      simp [Frame.call, Call.isRoot, Call.callable]
    | _ => exact trivial
  | enqueueChunk chunk pc =>
    cases pc with
    | entry =>
      refine absurd rfl (hentered ?_)
      simp [Frame.call, Call.isRoot, Call.callable]
    | sleeping => exact trivial
  | startCurrentUtterance pc =>
    cases pc with
    | starting =>
      cases signal with
      | value v =>
        have hrefused : (service config).accepts w t (.startCurrentUtterance .starting)
            (.value v) = false := not_accepts_of_pending fun h => nomatch h
        exact absurd (hrefused.symm.trans hsignal) Bool.false_ne_true
      | failed e => exact trivial
    | _ => exact trivial
  | finalizeCurrentUtterance pc =>
    cases pc with
    | joining g drained =>
      cases signal with
      | value v =>
        have hanswers : (w.shared.unfinished == 0 || w.shared.drained != drained) = true := by
          cases hmark : w.cancelled t <;>
            simp [Coroutines.accepts, hmark, service, Frame.awaited, Frame.answers] at hsignal
          simpa using hsignal
        rw [Bool.or_eq_true, beq_iff_eq, bne_iff_ne] at hanswers
        exact hanswers.elim id hframe.2
      | failed e => exact trivial
    | _ => exact trivial
  | _ => exact trivial

/-- The running task moves, and the audio stays in order. -/
lemma FaithfulWorld.proceeds {signal : ServiceSignal} (hw : FaithfulWorld config w)
    (hrun : w.running = some (t, signal)) (hf : w.stack t = f :: fs)
    (hcalm : Unhindered w .tick) (hclean : StartsClean config w .tick)
    (hloops : ∀ u, u ≠ t₀ → ∀ frame ∈ w.stack u, frame.call.ofLoop = true)
    (hs : w.shared.Orderly config (handing w ++ w.shared.sendQueue ++ putting (w.stack t₀))) :
    ∃ rest, Proceeds config f rest (frameMove config t w.spawned w.shared f signal) ∧
      putting ((afterMove config w t signal f fs).stack t₀) =
        puttingAfter (frameMove config t w.spawned w.shared f signal).command ++ rest := by
  have hshape := hw.accounted.tallied.shape
  have hinterrupts : f.call.interrupts = false := hcalm t signal f fs hrun hf
  have hhanding : handing w = f.handing := by
    unfold handing
    simp only [hrun, hf]
    rfl
  rw [hhanding] at hs
  have hgo : ∀ rest, (f.call.ofLoop = false → rest = []) →
      w.shared.Orderly config (f.handing ++ w.shared.sendQueue ++ (f.putting ++ rest)) →
        Proceeds config f rest (frameMove config t w.spawned w.shared f signal) := by
    intro rest hrest hs
    refine frameMove_proceeds (hw.frames t f (hf ▸ List.mem_cons_self ..))
      (hw.awake t signal f fs hrun hf) hinterrupts hw.accounted.tallied.tally hw.unbroken
      (fun chunk hsleeps => ?_) (hclean t signal f fs hrun hf).1 (hclean t signal f fs hrun hf).2
      hrest hs
    exact hw.accounted.woken t signal chunk fs hrun (hsleeps ▸ hf)
  by_cases ht : t = t₀
  · subst ht
    refine ⟨[], hgo [] (fun _ => rfl) ?_, ?_⟩
    · rw [hf] at hs
      rw [List.append_nil]
      exact hs
    · rw [List.append_nil]
      exact putting_after hshape hf
  · -- another task may wait to put a chunk, and goes on waiting
    have hloop : f.call.ofLoop = true := hloops t ht f (hf ▸ List.mem_cons_self ..)
    refine ⟨putting (w.stack t₀), hgo _ (fun h => ?_) ?_, ?_⟩
    · exact absurd (h.symm.trans hloop) Bool.false_ne_true
    · rw [putting_of_loop hloop]
      exact hs
    · have hspawn : (frameMove config t w.spawned w.shared f signal).spawn = [] := by
        rcases (frameMove_stays config t w.spawned w.shared signal f).spawn with hnil | hcall
        · exact hnil
        · rw [hcall] at hloop
          cases hloop
      rw [puttingAfter_of_loop hloop hinterrupts, Coroutines.apply_stack,
        Function.update_of_ne (Ne.symm ht), hspawn]
      unfold Coroutines.spawnAll
      split
      · rename_i hle
        rw [hshape.shaped.fresh t₀ hle]
        rfl
      · rfl

/-- The other tasks are loops after a move. -/
lemma loops_after {signal : ServiceSignal} (hf : w.stack t = f :: fs)
    (hinterrupts : f.call.interrupts = false)
    (hloops : ∀ u, u ≠ t₀ → ∀ frame ∈ w.stack u, frame.call.ofLoop = true) {u : TaskId}
    (hu : u ≠ t₀) (hmem : g ∈ (afterMove config w t signal f fs).stack u) :
    g.call.ofLoop = true := by
  rcases Coroutines.mem_apply hf hmem with ⟨rfl, hnew⟩ | ⟨k, hk, hle, rfl⟩ | ⟨hold, -⟩
  · have hloop : f.call.ofLoop = true := hloops u hu f (hf ▸ List.mem_cons_self ..)
    have hframes : EachFrame (fun f => f.call.ofLoop = true)
        (frameMove config u w.spawned w.shared f signal).command :=
      frameMove_ofLoop hloop hinterrupts
    exact hframes.frames g hnew
  · rcases frameMove_spawn config t w.spawned w.shared signal (List.mem_of_getElem? hk)
      with rfl | rfl <;> rfl
  · exact hloops u hu g hold

/-- A step of an unhindered run that starts clean keeps the world faithful. -/
theorem faithful_step (hconfig : config.Checked) (hlimit : 0 < config.maxSendQueueMs)
    (hw : FaithfulWorld config w) (hcalm : Unhindered w a) (hclean : StartsClean config w a)
    (h : (service config).step w a = some w') : FaithfulWorld config w' := by
  have haccounted := accounted_step hconfig hlimit hw.accounted h
  have hshape := hw.accounted.tallied.shape
  obtain ⟨t₀, hloops, hs⟩ := hw.solo
  cases (service config).step_cases h with
  | @call k hrun hk =>
    obtain ⟨hinterrupts, hidle⟩ := hcalm
    have hhanding : handing w = [] := by
      unfold handing
      rw [hrun]
    have hputting : putting (w.stack t₀) = [] := by
      cases hstack : w.stack t₀ with
      | nil => rfl
      | cons g gs => exact putting_of_loop (hidle t₀ g (hstack ▸ List.mem_cons_self ..))
    rw [hhanding, hputting] at hs
    refine ⟨haccounted, hw.unbroken, hw.frames.call ?_, .of_none hrun, w.spawned,
      fun u hu frame hmem => ?_, ?_⟩
    · cases k <;> first | exact trivial | (cases hinterrupts; done) | cases hk
    · simp only [Function.update_of_ne hu] at hmem
      exact hidle u frame hmem
    · have hnew : putting [(service config).enter k] = [] := by
        cases k <;> first | rfl | cases hk
      have hnone : handing { w with
          stack := Function.update w.stack w.spawned [(service config).enter k]
          spawned := w.spawned + 1 } = [] := by
        unfold handing
        rw [hrun]
      simp only [Function.update_self]
      rw [hnone, hnew]
      exact hs
  | @resume t signal f fs hrun hf hsignal =>
    refine ⟨haccounted, hw.unbroken, hw.frames, ?_, t₀, hloops, ?_⟩
    · intro u signal' g gs hrunning hg
      obtain ⟨rfl, rfl⟩ := Prod.mk.inj (Option.some.inj hrunning)
      obtain ⟨rfl, rfl⟩ := List.cons.inj (hf.symm.trans hg)
      exact hw.resumed hrun hf hsignal hcalm
    · have hhanding : handing w = [] := by
        unfold handing
        rw [hrun]
      have hnone : handing { w with
          cancelled := Function.update w.cancelled t false
          running := some (t, signal) } = [] := by
        unfold handing
        simp only [hf]
        exact handing_of_idle hshape hrun hf
      rw [hhanding] at hs
      rw [hnone]
      exact hs
  | outside hrun => exact hcalm.elim
  | @tick t signal f fs hrun hf =>
    obtain ⟨rest, hproceeds, hputting⟩ := hw.proceeds hrun hf hcalm hclean hloops hs
    have hinterrupts : f.call.interrupts = false := hcalm t signal f fs hrun hf
    have hhanding : handing (afterMove config w t signal f fs) =
        handedBy (frameMove config t w.spawned w.shared f signal).command :=
      handing_after hshape hf
    refine ⟨haccounted, ?_, hw.frames.tick hf ⟨hproceeds.frames.frames, ?_, ?_⟩,
      .tick hshape.shaped hf ⟨hproceeds.called, ?_, ?_⟩, t₀, ?_, ?_⟩
    · rw [Coroutines.apply_shared]
      exact frameMove_broken.trans hw.unbroken
    · intro i k hk
      have hopen := frameMove_spawn_open (List.mem_of_getElem? hk)
      rcases frameMove_spawn config t w.spawned w.shared signal (List.mem_of_getElem? hk)
        with rfl | rfl
      · exact hopen
      · exact trivial
    · exact fun u g hmem hbelow hg => hw.stable hf hloops hmem hbelow hg
    · exact fun hret g hpending => awakeIn_of_ends hpending (hproceeds.returned hret) none
    · exact fun e _ g hpending => awakeIn_failed hpending e
    · exact fun u hu g hmem => loops_after hf hinterrupts hloops hu hmem
    · have horderly : (afterMove config w t signal f fs).shared.Orderly config
          (handing (afterMove config w t signal f fs) ++
            (afterMove config w t signal f fs).shared.sendQueue ++
              putting ((afterMove config w t signal f fs).stack t₀)) := by
        rw [hhanding, hputting, Coroutines.apply_shared]
        exact hproceeds.orderly
      exact horderly

lemma faithfulWorld_initial (hlimit : 0 < config.maxSendQueueMs) :
    FaithfulWorld config .initial where
  accounted := accountedWorld_initial hlimit
  unbroken := rfl
  frames := Coroutines.outline_initial _ _
  awake := .of_none rfl
  solo := by
    refine ⟨0, fun t _ frame hmem => (nomatch hmem), le_rfl, fun h => (nomatch h), fun _ => ?_,
      fun _ => ⟨.nil, rfl, ?_⟩⟩
    · refine ⟨fun chunk hmem => (nomatch hmem), le_rfl, ?_, fun _ => ?_, fun h => absurd rfl h, ?_⟩
      · exact (List.rtake_nil _).symm
      · exact (congrArg (· ++ []) (List.rtake_nil config.preRollBytes)).symm
      · exact fun newer connection older h => by cases newer <;> cases h
    · exact fun newer connection older h => by cases newer <;> cases h

/-- **Audio is sent as it was heard**, under the policies `block` and `drop_oldest`, in every run in
which nothing fails and every utterance starts clean. -/
theorem audioFaithful_of_run (hconfig : config.postInit = .ok ()) {as : List ServiceAction}
    (hrun : (serviceSystem config).run .initial as = some w)
    (hcalm : (serviceSystem config).Along Unhindered .initial as)
    (hclean : (serviceSystem config).Along (StartsClean config) .initial as) :
    AudioFaithful config w.shared := by
  have hlimit := LocalSTTConfig.maxSendQueueMs_pos hconfig
  have hchecked := LocalSTTConfig.checked_of_postInit hconfig
  have hw : FaithfulWorld config w :=
    StepSystem.invariant_along (I := FaithfulWorld config)
      (fun _ _ _ hw hC hstep => faithful_step hchecked hlimit hw hC.1 hC.2 hstep)
      (faithfulWorld_initial hlimit) (hcalm.and hclean) hrun
  obtain ⟨t₀, -, hs⟩ := hw.solo
  exact hs.loaded.faithful

/-! ## Three runs -/

/-- A test for `Unhindered`. -/
def unhindered (w : ServiceWorld) : ServiceAction → Bool
  | .call k => !k.interrupts &&
    (List.range w.spawned).all fun t => (w.stack t).all fun frame => frame.call.ofLoop
  | .resume t signal =>
    match w.stack t, signal with
    | .sendWs _ _ _ _ :: _, .failed _ => false
    | _, _ => true
  | .outside _ => false
  | .tick =>
    match w.running with
    | none => true
    | some (t, _) => (w.stack t).head?.all fun frame => !frame.call.interrupts

lemma unhindered_of_test (hshape : ServiceShaped config w) (h : unhindered w a = true) :
    Unhindered w a := by
  cases a with
  | call k =>
    simp only [unhindered, Bool.and_eq_true, Bool.not_eq_true', List.all_eq_true] at h
    refine ⟨h.1, fun t frame hmem => ?_⟩
    have hlt : t < w.spawned := by
      by_contra hle
      rw [hshape.shaped.fresh t (not_lt.mp hle)] at hmem
      cases hmem
    exact h.2 t (List.mem_range.mpr hlt) frame hmem
  | resume t signal =>
    intro payload replay startAfter pc fs hf
    cases signal with
    | value v => exact ⟨v, rfl⟩
    | failed e =>
      simp only [unhindered, hf] at h
      cases h
  | outside x => cases h
  | tick =>
    intro t signal frame fs hrun hf
    simpa [unhindered, hrun, hf] using h

/-- A test for `StartsClean`, whatever the policy. -/
def startsClean (w : ServiceWorld) : ServiceAction → Bool
  | .tick =>
    match w.running with
    | none => true
    | some (t, _) =>
      match w.stack t with
      | .startCurrentUtterance .entry :: _ => w.shared.aggregateBuffer.isEmpty
      | .sendLoop .getting :: _ =>
        w.shared.sendQueue.head?.all fun chunk => chunk.generation == w.shared.generation
      | _ => true
  | _ => true

lemma startsClean_of_test (h : startsClean w a = true) : StartsClean config w a := by
  cases a with
  | tick =>
    intro t signal frame fs hrun hf
    refine ⟨fun _ hframe _ => ?_, fun _ v chunk rest hframe _ hqueue => ?_⟩
    · subst hframe
      simp only [startsClean, hrun, hf] at h
      exact List.isEmpty_iff.mp h
    · subst hframe
      simpa [startsClean, hrun, hf, hqueue] using h
  | _ => trivial

/-- What an utterance that was just finalized sent, and what it was meant to send. -/
def finalizedAudio (config : LocalSTTConfig) : List Happening → Option (Bytes × Bytes)
  | .sent _ .finalize :: older =>
    some ((utteranceAudio older).sent, (utteranceAudio older).expected config)
  | _ => none

/-- The policy `block`, with a pre-roll of one millisecond. -/
def blockingConfig : LocalSTTConfig := { preRollMs := 1, dropPolicy := .block }

/-- 34 bytes are heard before an utterance, and two in it; then it is finalized. -/
def preRolled : List ServiceAction :=
  [.call (.processFrame (.audioRaw ((List.range 34).map UInt8.ofNat) 16000 1))] ++
    turn 0 (.value none) 3 ++ turn 0 (.value none) 1 ++ turn 0 (.value none) 3 ++
    turn 0 (.value none) 1 ++ [.call (.processFrame .vadUserStartedSpeaking)] ++
    turn 3 (.value none) 3 ++ turn 3 (.value none) 4 ++ turn 3 (.value none) 2 ++
    turn 2 (.value none) 1 ++ turn 2 (.value (some readyOfFirst)) 3 ++ turn 3 (.value none) 3 ++
    turn 3 (.value none) 1 ++ [.call (.processFrame (.audioRaw [1, 2] 16000 1))] ++
    turn 4 (.value none) 5 ++ turn 4 (.value none) 1 ++
    [.call (.processFrame .userStoppedSpeaking)] ++ turn 5 (.value none) 1 ++
    turn 5 (.value none) 4 ++ turn 1 (.value none) 1 ++ turn 1 (.value none) 2 ++
    turn 1 (.value none) 2 ++ turn 5 (.value none) 5

/-- `audioFaithful_of_run` in a run that sends a pre-roll of 32 bytes. -/
theorem audioFaithful_of_run_preRolled :
    ∃ w, (serviceSystem blockingConfig).run .initial preRolled = some w ∧
      finalizedAudio blockingConfig w.shared.history =
        some ((List.range' 2 32).map UInt8.ofNat ++ [1, 2],
          (List.range' 2 32).map UInt8.ofNat ++ [1, 2]) ∧
      AudioFaithful blockingConfig w.shared := by
  obtain ⟨w, hrun, haudio⟩ := StepSystem.exists_run_of_map (M := serviceSystem blockingConfig)
    (s := .initial) (f := fun w => finalizedAudio blockingConfig w.shared.history)
    (l := preRolled)
    (x := some ((List.range' 2 32).map UInt8.ofNat ++ [1, 2],
      (List.range' 2 32).map UInt8.ofNat ++ [1, 2])) (by decide +kernel)
  exact ⟨w, hrun, haudio, audioFaithful_of_run (by decide +kernel) hrun
    (along_of_shaped_check (fun _ _ => unhindered_of_test) (by decide +kernel))
    (StepSystem.along_of_check (fun _ _ => startsClean_of_test) (by decide +kernel))⟩

/-- The run in which the server ends the first utterance on its own, up to the finalize message of
the second. -/
def unsolicitedFinalFinalized : List ServiceAction :=
  unsolicitedFinal ++ turn 1 (.value none) 2 ++ turn 5 (.value none) 5

/-- **An utterance sends audio of an earlier one**: nothing fails, the second utterance hears
nothing, and sends the two bytes that the first had left in the aggregate buffer. -/
theorem audio_of_earlier_utterance :
    ¬ ∀ as w, (serviceSystem blockingConfig).run .initial as = some w →
      (serviceSystem blockingConfig).Along Unhindered .initial as →
        AudioFaithful blockingConfig w.shared := by
  intro hall
  obtain ⟨w, hrun, haudio⟩ := StepSystem.exists_run_of_map (M := serviceSystem blockingConfig)
    (s := .initial) (f := fun w => finalizedAudio blockingConfig w.shared.history)
    (l := unsolicitedFinalFinalized) (x := some ([1, 2], [])) (by decide +kernel)
  have hfaithful : AudioFaithful blockingConfig w.shared :=
    hall _ w hrun (along_of_shaped_check (fun _ _ => unhindered_of_test) (by decide +kernel))
  unfold finalizedAudio at haudio
  split at haudio
  · rename_i connection older hhistory
    obtain ⟨hsent, hexpected⟩ := Prod.mk.inj (Option.some.inj haudio)
    have hfull : SentInFull blockingConfig older :=
      hfaithful.block rfl [] connection older hhistory
    cases hsent.symm.trans (hfull.trans hexpected)
  · cases haudio

/-- Every 32 bytes become a chunk. -/
def smallChunks : LocalSTTConfig := { aggregationMs := 1 }

/-- The server ends the first utterance on its own while a chunk of it is queued; a second one
begins and is finalized. -/
def queuedAtFinal : List ServiceAction :=
  firstUtterance ++ turn 0 (.value none) 1 ++
    [.call (.processFrame (.audioRaw (List.replicate 32 0) 16000 1))] ++ turn 3 (.value none) 7 ++
    turn 3 (.value none) 1 ++ turn 2 (.value (some finalOfFirst)) 2 ++ turn 2 (.value none) 2 ++
    [.call (.processFrame .vadUserStartedSpeaking)] ++ turn 4 (.value none) 3 ++
    turn 4 (.value none) 4 ++ turn 4 (.value none) 2 ++ turn 2 (.value (some readyOfSecond)) 3 ++
    turn 4 (.value none) 3 ++ turn 4 (.value none) 1 ++
    [.call (.processFrame .userStoppedSpeaking)] ++ turn 5 (.value none) 1 ++
    turn 5 (.value none) 2 ++ turn 1 (.value none) 1 ++ turn 1 (.value none) 1 ++
    turn 5 (.value none) 5

/-- How many chunks were aggregated, sent and dropped before a finalize message. -/
def finalizedChunks : List Happening → Option (ℕ × ℕ × ℕ)
  | .sent _ .finalize :: older =>
    some ((aggregatedIn older).length, (sentIn older).length, (droppedIn older).length)
  | _ => none

/-- **A chunk is lost uncounted**: nothing fails, and a chunk of the first utterance that was still
queued is neither sent nor counted as dropped. -/
theorem chunk_lost_uncounted :
    ¬ ∀ as w, (serviceSystem smallChunks).run .initial as = some w →
      (serviceSystem smallChunks).Along Unhindered .initial as →
        AudioFaithful smallChunks w.shared := by
  intro hall
  obtain ⟨w, hrun, hchunks⟩ := StepSystem.exists_run_of_map (M := serviceSystem smallChunks)
    (s := .initial) (f := fun w => finalizedChunks w.shared.history)
    (l := queuedAtFinal) (x := some (1, 0, 0)) (by decide +kernel)
  have hfaithful : AudioFaithful smallChunks w.shared :=
    hall _ w hrun (along_of_shaped_check (fun _ _ => unhindered_of_test) (by decide +kernel))
  unfold finalizedChunks at hchunks
  split at hchunks
  · rename_i connection older hhistory
    obtain ⟨haggregated, hrest⟩ := Prod.mk.inj (Option.some.inj hchunks)
    obtain ⟨hsent, hdropped⟩ := Prod.mk.inj hrest
    have hall : SentOrDropped older := hfaithful.dropped rfl [] connection older hhistory
    have hlength := hall.length_eq
    rw [List.length_append, haggregated, hsent, hdropped] at hlength
    cases hlength
  · cases hchunks

end runs

end RtcAsr.Plugin
