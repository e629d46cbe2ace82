import RtcAsr.Foundation.StepSystem
import RtcAsr.Protocol.RawUds

/-!
# Reading raw UDS frames from a stream

`_receive_raw_uds_event` of the server and `_recv_json` of the client read a frame by two awaits of
`StreamReader.readexactly`: the five header bytes, then the payload.  Between the two the header is
a local variable of the coroutine.  This file models the reads of one connection as a step system:
bytes arrive in pieces of any size, a read is issued, resumed, and cancelled while it waits.

Of `readexactly` the model takes what its documentation says: it returns exactly `n` bytes as soon
as they are buffered, it consumes nothing when it is cancelled while it waits, and at the end of
the stream it empties the buffer and raises with the bytes it found.
-/

namespace RtcAsr

/-! ## The reader -/

/-- The two read loops of the repository. -/
inductive RawUdsReader
  /-- `_receive_raw_uds_event` in `src/main.py`. -/
  | server
  /-- `AsyncRawUdsLocalSttClient._recv_json` in `src/rtc_client.py`. -/
  | client
  deriving DecidableEq, Repr

/-- The frame types a reader lets pass at the header. -/
def RawUdsReader.accepts : RawUdsReader → RawUdsFrameType → Bool
  | .server, _ => true
  | .client, type => type != .jsonControl && type != .audioPcm16

/-- The error of a frame type the reader does not accept. -/
def RawUdsReader.unaccepted : RawUdsReader → UInt8 → Exn
  | .server, byte => .protocol (unsupportedFrameType byte)
  | .client, byte =>
    .protocol
      { message :=
          match RawUdsFrameType.ofByte? byte with
          | some type => "Raw UDS frame type " ++ type.name ++ " is not a server frame"
          | none => "Unsupported Raw UDS frame type: " ++ toString byte,
        code := "raw_uds_invalid_server_frame_type" }

/-- What a reader raises when the stream ends after `received` bytes of a header. -/
def RawUdsReader.incompleteHeader (reader : RawUdsReader) (received : ℕ) : Exn :=
  if reader = .server ∧ received = 0 then .disconnect
  else
    .protocol
      { message := "Raw UDS stream ended while reading frame header; received " ++
          toString received ++ " of 5 bytes",
        code := "raw_uds_incomplete_frame" }

/-- What a reader raises when the stream ends inside a payload. -/
def incompletePayload (received length : ℕ) : Exn :=
  .protocol
    { message := "Raw UDS stream ended while reading frame payload; received " ++
        toString received ++ " of " ++ toString length ++ " bytes",
      code := "raw_uds_incomplete_frame" }

/-- The checks between the two awaits; the result is the payload length the header declares. -/
def checkHeader (reader : RawUdsReader) : Bytes → Except Exn ℕ
  | [] => .ok 0
  | byte :: lengthBytes =>
    match RawUdsFrameType.ofByte? byte with
    | none => .error (reader.unaccepted byte)
    | some type =>
      if reader.accepts type = false then .error (reader.unaccepted byte)
      else if RAW_UDS_MAX_PAYLOAD_BYTES < intFromBytesLittle lengthBytes then
        .error (.protocol payloadTooLarge)
      else .ok (intFromBytesLittle lengthBytes)

/-- Where the read of a connection stands. -/
inductive ReadPc
  | idle
  | awaitHeader
  | awaitPayload (header : Bytes)
  deriving DecidableEq, Repr

/-- The reads of one connection. -/
structure ReadState where
  /-- What the peer sends and has not arrived yet. -/
  future : Bytes
  /-- What has arrived and was not consumed. -/
  buffer : Bytes := []
  /-- The peer has closed the stream. -/
  eof : Bool := false
  pc : ReadPc := .idle
  /-- The frames of the completed reads. -/
  returned : List RawUdsFrame := []
  /-- The exceptions of the other reads that ended. -/
  raised : List Exn := []

/-- The scheduling of the reads and of the arriving bytes. -/
inductive ReadAct
  /-- The next `count` bytes arrive. -/
  | arrive (count : ℕ)
  /-- The peer closes the stream. -/
  | close
  /-- A read is started. -/
  | issue
  /-- The pending read runs until it completes or waits. -/
  | resume
  /-- The pending read is cancelled. -/
  | cancel

/-- The pending read ends with an exception. -/
def ReadState.fail (s : ReadState) (e : Exn) : ReadState :=
  { s with pc := .idle, raised := s.raised ++ [e] }

/-- The second await: `readexactly(payload_length)`, then `decode_raw_uds_frame`. -/
def readPayload (s : ReadState) (header : Bytes) (length : ℕ) : ReadState :=
  if length ≤ s.buffer.length then
    match decodeRawUdsFrame (header ++ s.buffer.take length) with
    | .ok frame =>
      { s with buffer := s.buffer.drop length, pc := .idle, returned := s.returned ++ [frame] }
    | .error e => { s with buffer := s.buffer.drop length }.fail e
  else if s.eof then
    { s with buffer := [] }.fail (incompletePayload s.buffer.length length)
  else { s with pc := .awaitPayload header }

/-- The first await: `readexactly(RAW_UDS_HEADER_BYTES)`, then the checks of the header. -/
def readHeader (reader : RawUdsReader) (s : ReadState) : ReadState :=
  if RAW_UDS_HEADER_BYTES ≤ s.buffer.length then
    let header := s.buffer.take RAW_UDS_HEADER_BYTES
    let rest := { s with buffer := s.buffer.drop RAW_UDS_HEADER_BYTES }
    match checkHeader reader header with
    | .ok length => readPayload rest header length
    | .error e => rest.fail e
  else if s.eof then
    { s with buffer := [] }.fail (reader.incompleteHeader s.buffer.length)
  else s

/-- One step of the reads of a connection.  A read that is cancelled is forgotten with its local
variables. -/
def readStep (reader : RawUdsReader) (s : ReadState) : ReadAct → Option ReadState
  | .arrive count =>
    some { s with buffer := s.buffer ++ s.future.take count, future := s.future.drop count }
  | .close => if s.future = [] then some { s with eof := true } else none
  | .issue => if s.pc = .idle then some { s with pc := .awaitHeader } else none
  | .resume =>
    match s.pc with
    | .idle => none
    | .awaitHeader => some (readHeader reader s)
    | .awaitPayload header =>
      match checkHeader reader header with
      | .ok length => some (readPayload s header length)
      | .error _ => none
  | .cancel => if s.pc = .idle then none else some { s with pc := .idle }

/-- The reads of one connection as a step system. -/
def rawUdsReads (reader : RawUdsReader) : StepSystem ReadState ReadAct := ⟨readStep reader⟩

/-- A connection whose peer sends the frames, before anything arrived. -/
def ReadState.init (frames : List RawUdsFrame) : ReadState :=
  { future := frames.flatMap frameBytes }

@[simp] lemma readPayload_eof (s : ReadState) (header : Bytes) (n : ℕ) :
    (readPayload s header n).eof = s.eof := by
  unfold readPayload ReadState.fail
  split_ifs <;> try split
  all_goals rfl

@[simp] lemma readPayload_future (s : ReadState) (header : Bytes) (n : ℕ) :
    (readPayload s header n).future = s.future := by
  unfold readPayload ReadState.fail
  split_ifs <;> try split
  all_goals rfl

@[simp] lemma readHeader_eof (reader : RawUdsReader) (s : ReadState) :
    (readHeader reader s).eof = s.eof := by
  unfold readHeader ReadState.fail
  split_ifs
  · dsimp only
    split <;> simp
  all_goals rfl

@[simp] lemma readHeader_future (reader : RawUdsReader) (s : ReadState) :
    (readHeader reader s).future = s.future := by
  unfold readHeader ReadState.fail
  split_ifs
  · dsimp only
    split <;> simp
  all_goals rfl

/-! ## Intact streams -/

/-- The header the pending read holds. -/
def ReadState.held (s : ReadState) : Bytes :=
  match s.pc with
  | .awaitPayload header => header
  | _ => []

/-- The connection is in step with the frames its peer sends. -/
structure ReadState.Intact (s : ReadState) (reader : RawUdsReader) (frames : List RawUdsFrame) :
    Prop where
  /-- The reads completed so far gave the first frames, in order. -/
  prefix_frames : s.returned <+: frames
  /-- Every byte is in a frame returned, in the hand of the pending read, or still to be read. -/
  conserved : s.returned.flatMap frameBytes ++ s.held ++ s.buffer ++ s.future =
    frames.flatMap frameBytes
  /-- A header in the hand of the pending read is the header of the next frame. -/
  header : ∀ h, s.pc = .awaitPayload h →
    ∃ frame rest, frames = s.returned ++ frame :: rest ∧ h = frameHeader frame
  /-- Only reads past the last frame raised, and they found nothing. -/
  raised : ∀ e ∈ s.raised, e = reader.incompleteHeader 0 ∧ s.returned = frames

/-- The step cancels a read that waits for the payload of a header it has consumed. -/
def CancelsPayload (s : ReadState) (a : ReadAct) : Prop :=
  a = .cancel ∧ ∃ h, s.pc = .awaitPayload h

section Intact

variable {reader : RawUdsReader} {frames : List RawUdsFrame} {s : ReadState}

/-- The header of an acceptable frame passes the checks and declares the payload's length. -/
lemma checkHeader_frameHeader {frame : RawUdsFrame} (hv : frame.Valid)
    (ha : reader.accepts frame.frameType = true) :
    checkHeader reader (frameHeader frame) = .ok frame.payload.length := by
  have hlength := hv.length_field
  simp only [checkHeader, frameHeader, RawUdsFrameType.ofByte?_value, ha, hlength]
  simp only [reduceCtorEq, if_false]
  exact if_neg (not_lt.mpr hv)

/-- What is left of the stream is the bytes of the frames not returned yet. -/
lemma ReadState.Intact.rest (h : s.Intact reader frames) :
    ∃ rest, frames = s.returned ++ rest ∧
      s.held ++ s.buffer ++ s.future = rest.flatMap frameBytes := by
  obtain ⟨rest, rfl⟩ := h.prefix_frames
  refine ⟨rest, rfl, ?_⟩
  have hc := h.conserved
  rw [List.flatMap_append, List.append_assoc, List.append_assoc, ← List.append_assoc s.held] at hc
  exact List.append_cancel_left hc

/-- While a frame is missing no read has raised. -/
lemma ReadState.raised_eq_nil {frame : RawUdsFrame} {rest : List RawUdsFrame}
    (hframes : frames = s.returned ++ frame :: rest)
    (hraised : ∀ e ∈ s.raised, e = reader.incompleteHeader 0 ∧ s.returned = frames) :
    s.raised = [] := by
  refine List.eq_nil_iff_forall_not_mem.mpr fun e he => ?_
  have hret := (hraised e he).2
  rw [hframes, List.self_eq_append_right] at hret
  cases hret

/-- Reading the payload of the frame whose header is in hand keeps the stream intact. -/
lemma intact_readPayload {frame : RawUdsFrame} {rest : List RawUdsFrame}
    (hv : frame.Valid) (hframes : frames = s.returned ++ frame :: rest)
    (hbytes : s.buffer ++ s.future = frame.payload ++ rest.flatMap frameBytes)
    (hraised : s.raised = []) (heof : s.eof = true → s.future = []) :
    (readPayload s (frameHeader frame) frame.payload.length).Intact reader frames := by
  unfold readPayload
  split_ifs with hlen heofs
  · have htake : s.buffer.take frame.payload.length = frame.payload := by
      have := congrArg (List.take frame.payload.length) hbytes
      rwa [List.take_append_of_le_length hlen, List.take_left'] at this
      rfl
    have hdrop : s.buffer.drop frame.payload.length ++ s.future = rest.flatMap frameBytes := by
      have := congrArg (List.drop frame.payload.length) hbytes
      rwa [List.drop_append_of_le_length hlen, List.drop_left'] at this
      rfl
    have hdecode := decodeRawUdsFrame_frameBytes hv
    rw [frameBytes] at hdecode
    rw [htake, hdecode]
    refine ⟨⟨rest, by rw [hframes]; simp⟩, ?_, by simp, by simp [hraised]⟩
    simp only [ReadState.held, List.flatMap_append, List.flatMap_cons, List.flatMap_nil,
      List.append_nil, List.append_assoc, hdrop, hframes]
  · have hshort : frame.payload.length ≤ s.buffer.length := by
      rw [heof heofs, List.append_nil] at hbytes
      rw [hbytes]
      simp
    exact absurd hshort hlen
  · refine ⟨⟨frame :: rest, hframes.symm⟩, ?_, ?_, by simp [hraised]⟩
    · simp only [ReadState.held, List.append_assoc, hbytes, hframes, List.flatMap_append,
        List.flatMap_cons, frameBytes]
    · rintro h hh
      exact ⟨frame, rest, hframes, by simpa using hh.symm⟩

/-- Reading from the header on keeps the stream intact. -/
lemma intact_readHeader (hv : ∀ frame ∈ frames, frame.Valid ∧ reader.accepts frame.frameType = true)
    (h : s.Intact reader frames) (hpc : s.pc = .awaitHeader) (heof : s.eof = true → s.future = []) :
    (readHeader reader s).Intact reader frames := by
  obtain ⟨rest, hframes, hbytes⟩ := h.rest
  have hheld : s.held = [] := by simp [ReadState.held, hpc]
  rw [hheld, List.nil_append] at hbytes
  unfold readHeader
  split_ifs with hlen heofs
  · cases rest with
    | nil =>
      have : s.buffer = [] := (List.append_eq_nil_iff.mp hbytes).1
      simp [this, RAW_UDS_HEADER_BYTES] at hlen
    | cons frame rest =>
      obtain ⟨hvalid, haccepts⟩ := hv frame (by simp [hframes])
      rw [List.flatMap_cons, frameBytes, List.append_assoc] at hbytes
      have htake : s.buffer.take RAW_UDS_HEADER_BYTES = frameHeader frame := by
        have := congrArg (List.take RAW_UDS_HEADER_BYTES) hbytes
        rwa [List.take_append_of_le_length hlen, List.take_left' (length_frameHeader frame)] at this
      have hdrop : s.buffer.drop RAW_UDS_HEADER_BYTES ++ s.future =
          frame.payload ++ rest.flatMap frameBytes := by
        have := congrArg (List.drop RAW_UDS_HEADER_BYTES) hbytes
        rwa [List.drop_append_of_le_length hlen, List.drop_left' (length_frameHeader frame)] at this
      simp only [htake, checkHeader_frameHeader hvalid haccepts]
      exact intact_readPayload hvalid hframes hdrop (ReadState.raised_eq_nil hframes h.raised) heof
  · have hrest : rest = [] := by
      rw [heof heofs, List.append_nil] at hbytes
      cases rest with
      | nil => rfl
      | cons frame rest =>
        have hshort := not_le.mp hlen
        rw [hbytes] at hshort
        simp [frameBytes] at hshort
    have hbuffer : s.buffer = [] := by
      rw [hrest] at hbytes
      exact (List.append_eq_nil_iff.mp hbytes).1
    have hreturned : s.returned = frames := by rw [hframes, hrest, List.append_nil]
    refine ⟨h.prefix_frames, ?_, by simp [ReadState.fail], ?_⟩
    · simpa [ReadState.held, ReadState.fail, hpc, hbuffer] using h.conserved
    · simp only [ReadState.fail, List.mem_append, List.mem_singleton, hbuffer, List.length_nil]
      rintro e (he | rfl)
      · exact h.raised e he
      · exact ⟨rfl, hreturned⟩
  · exact h

/-- The end of the stream comes after its last byte. -/
lemma eof_readStep {a : ReadAct} {s' : ReadState} (h : s.eof = true → s.future = [])
    (hstep : readStep reader s a = some s') : s'.eof = true → s'.future = [] := by
  cases a with
  | arrive count =>
    obtain rfl := Option.some.inj hstep
    intro he
    simp [h he]
  | close =>
    simp only [readStep] at hstep
    split_ifs at hstep with hf
    obtain rfl := Option.some.inj hstep
    exact fun _ => hf
  | issue =>
    simp only [readStep] at hstep
    split_ifs at hstep
    obtain rfl := Option.some.inj hstep
    exact h
  | resume =>
    simp only [readStep] at hstep
    split at hstep
    · cases hstep
    · obtain rfl := Option.some.inj hstep
      simpa using h
    · split at hstep
      · obtain rfl := Option.some.inj hstep
        simpa using h
      · cases hstep
  | cancel =>
    simp only [readStep] at hstep
    split_ifs at hstep
    obtain rfl := Option.some.inj hstep
    exact h

/-- **The step lemma.** A step that does not cancel a read with a header in hand keeps the stream
intact. -/
lemma intact_readStep (hv : ∀ frame ∈ frames, frame.Valid ∧ reader.accepts frame.frameType = true)
    {a : ReadAct} {s' : ReadState} (h : s.Intact reader frames)
    (heof : s.eof = true → s.future = []) (ha : ¬ CancelsPayload s a)
    (hstep : readStep reader s a = some s') : s'.Intact reader frames := by
  cases a with
  | arrive count =>
    obtain rfl := Option.some.inj hstep
    refine ⟨h.prefix_frames, ?_, h.header, h.raised⟩
    have hc := h.conserved
    rw [← List.take_append_drop count s.future] at hc
    simpa [ReadState.held] using hc
  | close =>
    simp only [readStep] at hstep
    split_ifs at hstep
    obtain rfl := Option.some.inj hstep
    exact ⟨h.prefix_frames, h.conserved, h.header, h.raised⟩
  | issue =>
    simp only [readStep] at hstep
    split_ifs at hstep with hpc
    obtain rfl := Option.some.inj hstep
    refine ⟨h.prefix_frames, ?_, by simp, h.raised⟩
    simpa [ReadState.held, hpc] using h.conserved
  | resume =>
    simp only [readStep] at hstep
    split at hstep
    · cases hstep
    · rename_i hpc
      obtain rfl := Option.some.inj hstep
      exact intact_readHeader hv h hpc heof
    · rename_i header hpc
      obtain ⟨frame, rest, hframes, rfl⟩ := h.header _ hpc
      obtain ⟨hvalid, haccepts⟩ := hv frame (by simp [hframes])
      rw [checkHeader_frameHeader hvalid haccepts] at hstep
      obtain rfl := Option.some.inj hstep
      refine intact_readPayload hvalid hframes ?_ (ReadState.raised_eq_nil hframes h.raised) heof
      have hc := h.conserved
      simp only [ReadState.held, hpc] at hc
      rw [hframes, List.flatMap_append, List.flatMap_cons] at hc
      simp only [frameBytes, List.append_assoc] at hc
      exact List.append_cancel_left (List.append_cancel_left hc)
  | cancel =>
    simp only [readStep] at hstep
    split_ifs at hstep with hpc
    obtain rfl := Option.some.inj hstep
    have hheld : s.held = [] := by
      cases hs : s.pc with
      | idle => simp [ReadState.held, hs]
      | awaitHeader => simp [ReadState.held, hs]
      | awaitPayload header => exact absurd ⟨rfl, header, hs⟩ ha
    refine ⟨h.prefix_frames, ?_, by simp, h.raised⟩
    have hc := h.conserved
    rw [hheld] at hc
    exact hc

/-- The invariant of the runs that cancel no read with a header in hand. -/
lemma intact_of_along (hv : ∀ frame ∈ frames, frame.Valid ∧ reader.accepts frame.frameType = true)
    {as : List ReadAct}
    (hrun : (rawUdsReads reader).run (ReadState.init frames) as = some s)
    (hC : (rawUdsReads reader).Along (fun s a => ¬ CancelsPayload s a) (ReadState.init frames) as) :
    s.Intact reader frames := by
  have hinit : (ReadState.init frames).Intact reader frames :=
    ⟨List.nil_prefix, by simp [ReadState.init, ReadState.held], by simp [ReadState.init],
      by simp [ReadState.init]⟩
  refine (StepSystem.invariant_along (I := fun s : ReadState =>
    s.Intact reader frames ∧ (s.eof = true → s.future = [])) ?_ ⟨hinit, by simp [ReadState.init]⟩
    hC hrun).1
  rintro s a s' ⟨hs, heof⟩ ha hstep
  exact ⟨intact_readStep hv hs heof ha hstep, eof_readStep heof hstep⟩

end Intact

/-! ## Lost bytes -/

/-- The number of bytes that are in a returned frame, in hand, or still to be read. -/
def ReadState.weight (s : ReadState) : ℕ :=
  (s.returned.flatMap frameBytes).length + s.held.length + s.buffer.length + s.future.length

/-- A header in hand has five bytes. -/
def ReadState.HeldHeader (s : ReadState) : Prop :=
  ∀ h, s.pc = .awaitPayload h → h.length = RAW_UDS_HEADER_BYTES

/-- A decoded frame has as many bytes as the data it was decoded from. -/
lemma length_frameBytes_of_decode {data : Bytes} {frame : RawUdsFrame}
    (h : decodeRawUdsFrame data = .ok frame) : (frameBytes frame).length = data.length := by
  unfold decodeRawUdsFrame at h
  split at h
  · split at h
    · cases h
    · dsimp only at h
      split_ifs at h
      obtain rfl := Except.ok.inj h
      simp only [frameBytes, List.length_append, length_frameHeader, RAW_UDS_HEADER_BYTES,
        List.length_cons]
      omega
  · cases h

section Weight

variable {reader : RawUdsReader} {s s' : ReadState} {a : ReadAct}

/-- Reading a payload creates no bytes. -/
lemma weight_readPayload (s : ReadState) (header : Bytes) (n : ℕ) :
    (readPayload s header n).weight + s.held.length ≤ s.weight + header.length := by
  unfold readPayload ReadState.fail
  split_ifs with hlen
  · split
    · rename_i frame hdecode
      have hbytes := length_frameBytes_of_decode hdecode
      rw [List.length_append, List.length_take, min_eq_left hlen] at hbytes
      simp only [ReadState.weight, ReadState.held, List.flatMap_append, List.flatMap_cons,
        List.flatMap_nil, List.append_nil, List.length_append, List.length_nil, List.length_drop,
        hbytes]
      omega
    · simp only [ReadState.weight, ReadState.held, List.length_nil, List.length_drop]
      omega
  · simp only [ReadState.weight, ReadState.held, List.length_nil]
    omega
  · simp only [ReadState.weight, ReadState.held]
    omega

/-- Reading from the header on creates no bytes. -/
lemma weight_readHeader (hpc : s.pc = .awaitHeader) : (readHeader reader s).weight ≤ s.weight := by
  have hheld : s.held = [] := by simp [ReadState.held, hpc]
  unfold readHeader ReadState.fail
  split_ifs with hlen
  · dsimp only
    split
    · refine le_of_add_le_add_right ((weight_readPayload _ _ _).trans ?_)
      simp only [ReadState.weight, ReadState.held, hpc, List.length_nil, List.length_drop,
        List.length_take]
      omega
    · simp only [ReadState.weight, ReadState.held, List.length_nil, List.length_drop]
      omega
  · simp only [ReadState.weight, ReadState.held, List.length_nil]
    omega
  · exact le_rfl

/-- No step creates bytes. -/
lemma weight_readStep (hstep : readStep reader s a = some s') : s'.weight ≤ s.weight := by
  cases a with
  | arrive count =>
    obtain rfl := Option.some.inj hstep
    simp only [ReadState.weight, ReadState.held, List.length_append, List.length_take,
      List.length_drop]
    omega
  | close =>
    simp only [readStep] at hstep
    split_ifs at hstep
    obtain rfl := Option.some.inj hstep
    exact le_rfl
  | issue =>
    simp only [readStep] at hstep
    split_ifs at hstep
    obtain rfl := Option.some.inj hstep
    simp only [ReadState.weight, ReadState.held, List.length_nil]
    omega
  | resume =>
    simp only [readStep] at hstep
    split at hstep
    · cases hstep
    · rename_i hpc
      obtain rfl := Option.some.inj hstep
      exact weight_readHeader hpc
    · rename_i header hpc
      split at hstep
      · obtain rfl := Option.some.inj hstep
        have h := weight_readPayload s header ‹ℕ›
        simp only [ReadState.held, hpc] at h
        exact le_of_add_le_add_right h
      · cases hstep
  | cancel =>
    simp only [readStep] at hstep
    split_ifs at hstep
    obtain rfl := Option.some.inj hstep
    simp only [ReadState.weight, ReadState.held, List.length_nil]
    omega

/-- Cancelling a read with a header in hand loses the header. -/
lemma weight_lt_of_cancelsPayload (h : s.HeldHeader) (ha : CancelsPayload s a)
    (hstep : readStep reader s a = some s') : s'.weight < s.weight := by
  obtain ⟨rfl, header, hpc⟩ := ha
  have hlen : header.length = RAW_UDS_HEADER_BYTES := h header hpc
  simp only [readStep, hpc, reduceCtorEq, if_false, Option.some.injEq] at hstep
  subst hstep
  simp only [ReadState.weight, ReadState.held, hpc, hlen, RAW_UDS_HEADER_BYTES, List.length_nil]
  omega

/-- The pending read takes its header from five buffered bytes. -/
lemma heldHeader_readStep (h : s.HeldHeader) (hstep : readStep reader s a = some s') :
    s'.HeldHeader := by
  have hpayload : ∀ (t : ReadState) (header : Bytes) (n : ℕ),
      header.length = RAW_UDS_HEADER_BYTES → (readPayload t header n).HeldHeader := by
    intro t header n hlen
    unfold readPayload ReadState.fail
    split_ifs <;> try split
    all_goals simp [ReadState.HeldHeader, hlen]
  cases a with
  | arrive count =>
    obtain rfl := Option.some.inj hstep
    exact h
  | close =>
    simp only [readStep] at hstep
    split_ifs at hstep
    obtain rfl := Option.some.inj hstep
    exact h
  | issue =>
    simp only [readStep] at hstep
    split_ifs at hstep
    obtain rfl := Option.some.inj hstep
    simp [ReadState.HeldHeader]
  | resume =>
    simp only [readStep] at hstep
    split at hstep
    · cases hstep
    · rename_i hpc
      obtain rfl := Option.some.inj hstep
      unfold readHeader ReadState.fail
      split_ifs with hlen
      · dsimp only
        split
        · exact hpayload _ _ _ (by simp [hlen])
        · simp [ReadState.HeldHeader]
      · simp [ReadState.HeldHeader]
      · exact h
    · rename_i header hpc
      split at hstep
      · obtain rfl := Option.some.inj hstep
        exact hpayload _ _ _ (h header hpc)
      · cases hstep
  | cancel =>
    simp only [readStep] at hstep
    split_ifs at hstep
    obtain rfl := Option.some.inj hstep
    simp [ReadState.HeldHeader]

/-- An intact stream has all its bytes. -/
lemma ReadState.Intact.weight_eq {frames : List RawUdsFrame} (h : s.Intact reader frames) :
    s.weight = (ReadState.init frames).weight := by
  have hc := congrArg List.length h.conserved
  simp only [List.length_append] at hc
  simp [ReadState.weight, ReadState.init, ReadState.held] at hc ⊢
  omega

end Weight

/-- **Framing under cancelled reads.** Whatever the reader, the frames, the arrival of the bytes
and the cancellations: the reads stay in step with the stream, losing no byte and returning the
frames in order, exactly in the runs that never cancel a read that holds a header. -/
theorem reads_intact_iff {reader : RawUdsReader} {frames : List RawUdsFrame} {as : List ReadAct}
    {s : ReadState} (hv : ∀ frame ∈ frames, frame.Valid ∧ reader.accepts frame.frameType = true)
    (hrun : (rawUdsReads reader).run (ReadState.init frames) as = some s) :
    s.Intact reader frames ↔
      (rawUdsReads reader).Along (fun s a => ¬ CancelsPayload s a) (ReadState.init frames) as := by
  constructor
  · intro h
    refine StepSystem.along_of_conserved (I := ReadState.HeldHeader) (w := ReadState.weight)
      (fun s a s' hs hstep => heldHeader_readStep hs hstep)
      (fun s a s' _ hstep => weight_readStep hstep)
      (fun s a s' hs hC hstep => weight_lt_of_cancelsPayload hs (not_not.mp hC) hstep)
      ?_ hrun h.weight_eq.ge
    simp [ReadState.HeldHeader, ReadState.init]
  · exact intact_of_along hv hrun

/-- A ping frame with the payload of an empty object, then an empty one. -/
def twoPings : List RawUdsFrame := [⟨.ping, [0x7b, 0x7d]⟩, ⟨.ping, []⟩]

/-- The first header arrives, the read that took it is cancelled, and the next read finds the
payload where it expects a header. -/
def cancelInPayload : List ReadAct :=
  [.issue, .arrive 5, .resume, .cancel, .issue, .arrive 7, .resume]

/-- The run `cancelInPayload` loses a header, on the server and on the client. -/
theorem reads_not_intact :
    (∃ s, (rawUdsReads .server).run (ReadState.init twoPings) cancelInPayload = some s ∧
      s.returned = [] ∧ s.raised ≠ [] ∧ ¬ s.Intact .server twoPings) ∧
    (∃ s, (rawUdsReads .client).run (ReadState.init twoPings) cancelInPayload = some s ∧
      s.returned = [] ∧ s.raised ≠ [] ∧ ¬ s.Intact .client twoPings) := by
  refine ⟨⟨_, rfl, rfl, List.cons_ne_nil _ _, fun h => ?_⟩,
    ⟨_, rfl, rfl, List.cons_ne_nil _ _, fun h => ?_⟩⟩
  · exact absurd h.weight_eq (by decide)
  · exact absurd h.weight_eq (by decide)

/-- A run with a cancelled read that holds no header. -/
theorem reads_intact_iff_twoPings :
    ∃ s, (rawUdsReads .server).run (ReadState.init twoPings)
        [.issue, .arrive 3, .resume, .cancel, .issue, .arrive 4, .resume] = some s ∧
      (s.Intact .server twoPings ↔
        (rawUdsReads .server).Along (fun s a => ¬ CancelsPayload s a) (ReadState.init twoPings)
          [.issue, .arrive 3, .resume, .cancel, .issue, .arrive 4, .resume]) :=
  ⟨_, rfl, reads_intact_iff (by decide) rfl⟩

end RtcAsr
