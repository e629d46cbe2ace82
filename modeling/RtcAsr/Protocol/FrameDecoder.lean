import RtcAsr.Foundation.Framing
import RtcAsr.Protocol.RawUds

/-!
# The incremental frame decoder

`RawUdsFrameDecoder` of `src/protocols/local_stt_v1.py`, which cuts the chunks of a socket into
frames.  The plugin has the same class with exceptions of its own, so the exceptions are
parameters.

Frames that are complete are read from the front of the buffer; where the next header is malformed,
`feed` clears the buffer and raises, and the frames it had decoded in this call are lost.
-/

namespace RtcAsr

/-- The exceptions of a frame decoder. -/
structure FrameErrors (ε : Type) where
  /-- The byte is no frame type. -/
  unsupported : UInt8 → ε
  /-- The declared payload is above the limit. -/
  payloadTooLarge : ε
  /-- The stream ended with so many buffered bytes. -/
  incomplete : ℕ → ε

/-- `RawUdsFrameDecoder`. -/
structure RawUdsFrameDecoder where
  buffer : Bytes := []
  deriving DecidableEq, Repr

/-- The exceptions of the server's decoder. -/
def serverFrameErrors : FrameErrors Exn where
  unsupported byte := .protocol (unsupportedFrameType byte)
  payloadTooLarge := .protocol RtcAsr.payloadTooLarge
  incomplete buffered :=
    .protocol
      { message := "Raw UDS stream ended with " ++ toString buffered ++ " buffered frame bytes",
        code := "raw_uds_incomplete_frame" }

variable {ε : Type} (errors : FrameErrors ε)

/-- One round of the loop of `feed`: the first frame with the rest of the buffer, `none` where the
loop ends. -/
def nextFrame (buffer : Bytes) : Except ε (Option (RawUdsFrame × Bytes)) :=
  match buffer with
  | type :: l₀ :: l₁ :: l₂ :: l₃ :: _ =>
    match RawUdsFrameType.ofByte? type with
    | none => .error (errors.unsupported type)
    | some frameType =>
      let payloadLength := intFromBytesLittle [l₀, l₁, l₂, l₃]
      if RAW_UDS_MAX_PAYLOAD_BYTES < payloadLength then .error errors.payloadTooLarge
      else
        let frameLength := RAW_UDS_HEADER_BYTES + payloadLength
        if buffer.length < frameLength then .ok none
        else
          .ok (some (⟨frameType, (buffer.take frameLength).drop RAW_UDS_HEADER_BYTES⟩,
            buffer.drop frameLength))
  | _ => .ok none

namespace RawUdsFrameDecoder

/-- The loop of `feed`; a round takes at least a header. -/
def feedLoop : ℕ → Bytes → List RawUdsFrame → RawUdsFrameDecoder × Except ε (List RawUdsFrame)
  | 0, buffer, frames => (⟨buffer⟩, .ok frames)
  | fuel + 1, buffer, frames =>
    match nextFrame errors buffer with
    | .error e => (⟨[]⟩, .error e)
    | .ok none => (⟨buffer⟩, .ok frames)
    | .ok (some (frame, rest)) => feedLoop fuel rest (frames ++ [frame])

variable (decoder : RawUdsFrameDecoder)

/-- `feed`. -/
def feed (data : Bytes) : RawUdsFrameDecoder × Except ε (List RawUdsFrame) :=
  if data = [] then (decoder, .ok [])
  else feedLoop errors (decoder.buffer ++ data).length (decoder.buffer ++ data) []

/-- `buffered_bytes`. -/
def bufferedBytes : ℕ := decoder.buffer.length

/-- `finish`. -/
def finish : RawUdsFrameDecoder × Except ε Unit :=
  if decoder.buffer = [] then (decoder, .ok ())
  else (⟨[]⟩, .error (errors.incomplete decoder.buffer.length))

/-- `feed` on the chunks one after the other, until it raises: the frames returned, the decoder
and the exception. -/
def feedAll : RawUdsFrameDecoder → List Bytes → List RawUdsFrame × RawUdsFrameDecoder × Option ε
  | decoder, [] => ([], decoder, none)
  | decoder, chunk :: chunks =>
    match decoder.feed errors chunk with
    | (decoder, .error e) => ([], decoder, some e)
    | (decoder, .ok frames) =>
      (frames ++ (feedAll decoder chunks).1, (feedAll decoder chunks).2)

end RawUdsFrameDecoder

/-! ## The framing -/

/-- What follows does not change a round of the loop that did not end it. -/
lemma nextFrame_append {buffer : Bytes} (c : Bytes) :
    (∀ {frame rest}, nextFrame errors buffer = .ok (some (frame, rest)) →
      nextFrame errors (buffer ++ c) = .ok (some (frame, rest ++ c))) ∧
    (∀ {e}, nextFrame errors buffer = .error e → nextFrame errors (buffer ++ c) = .error e) := by
  match buffer with
  | type :: l₀ :: l₁ :: l₂ :: l₃ :: payload =>
    set buffer := type :: l₀ :: l₁ :: l₂ :: l₃ :: payload with hbuffer
    have happend : buffer ++ c = type :: l₀ :: l₁ :: l₂ :: l₃ :: (payload ++ c) := rfl
    rw [happend]
    simp only [nextFrame, hbuffer]
    cases RawUdsFrameType.ofByte? type with
    | none => exact ⟨nofun, id⟩
    | some frameType =>
      dsimp only
      by_cases hlarge : RAW_UDS_MAX_PAYLOAD_BYTES < intFromBytesLittle [l₀, l₁, l₂, l₃]
      · rw [if_pos hlarge, if_pos hlarge]
        exact ⟨nofun, id⟩
      rw [if_neg hlarge, if_neg hlarge, ← happend, ← hbuffer]
      by_cases hshort : buffer.length <
          RAW_UDS_HEADER_BYTES + intFromBytesLittle [l₀, l₁, l₂, l₃]
      · rw [if_pos hshort]
        exact ⟨nofun, nofun⟩
      have hlong := not_lt.mp hshort
      have hlonger : ¬ (buffer ++ c).length <
          RAW_UDS_HEADER_BYTES + intFromBytesLittle [l₀, l₁, l₂, l₃] := by
        rw [List.length_append]
        omega
      rw [if_neg hshort, if_neg hlonger, List.take_append_of_le_length hlong,
        List.drop_append_of_le_length hlong]
      refine ⟨fun h => ?_, nofun⟩
      obtain ⟨rfl, rfl⟩ := Prod.mk.inj (Option.some.inj (Except.ok.inj h))
      rfl
  | [] => exact ⟨nofun, nofun⟩
  | [_] => exact ⟨nofun, nofun⟩
  | [_, _] => exact ⟨nofun, nofun⟩
  | [_, _, _] => exact ⟨nofun, nofun⟩
  | [_, _, _, _] => exact ⟨nofun, nofun⟩

/-- A frame takes its header at least. -/
lemma nextFrame_shorter {buffer rest : Bytes} {frame : RawUdsFrame}
    (h : nextFrame errors buffer = .ok (some (frame, rest))) : rest.length < buffer.length := by
  unfold nextFrame at h
  split at h
  · split at h
    · cases h
    · dsimp only at h
      split_ifs at h
      · cases h
      obtain ⟨-, rfl⟩ := Prod.mk.inj (Option.some.inj (Except.ok.inj h))
      simp only [List.length_drop, List.length_cons, RAW_UDS_HEADER_BYTES]
      omega
  · cases h

/-- The framing of the raw UDS stream. -/
def rawUdsFraming : Framing RawUdsFrame UInt8 ε where
  next := nextFrame errors
  shorter := nextFrame_shorter errors
  item_append {_ _ _} h c := (nextFrame_append errors c).1 h
  error_append {_ _} h c := (nextFrame_append errors c).2 h

variable {errors}

/-- The bytes of a valid frame are read as this frame. -/
lemma nextFrame_frameBytes {frame : RawUdsFrame} (h : frame.Valid) (c : Bytes) :
    nextFrame errors (frameBytes frame ++ c) = .ok (some (frame, c)) := by
  have hlength := h.length_field
  have htotal : (frameBytes frame).length = RAW_UDS_HEADER_BYTES + frame.payload.length := by
    rw [frameBytes, List.length_append, length_frameHeader]
  have hframe : nextFrame errors (frameBytes frame) = .ok (some (frame, [])) := by
    have htake := List.take_of_length_le htotal.le
    have hdrop := List.drop_eq_nil_iff.mpr htotal.le
    have hpayload : (frameBytes frame).drop RAW_UDS_HEADER_BYTES = frame.payload := by
      rw [frameBytes, List.drop_left' (length_frameHeader frame)]
    simp only [frameBytes, frameHeader, bytesLittle, List.cons_append, List.nil_append]
      at hlength htake hdrop hpayload htotal ⊢
    simp only [nextFrame, RawUdsFrameType.ofByte?_value, hlength]
    rw [if_neg (not_lt.mpr h), if_neg htotal.ge.not_gt, htake, hdrop, hpayload]
  simpa using (nextFrame_append errors c).1 hframe

variable (errors) in
/-- The valid frames of a stream are read, and then what follows. -/
lemma reads_frames {frames : List RawUdsFrame} (h : ∀ frame ∈ frames, frame.Valid) {tail : Bytes}
    {items : List RawUdsFrame} {outcome : Except ε Bytes}
    (htail : (rawUdsFraming errors).Reads tail items outcome) :
    (rawUdsFraming errors).Reads (frames.flatMap frameBytes ++ tail) (frames ++ items) outcome := by
  induction frames with
  | nil => exact htail
  | cons frame frames ih =>
    rw [List.flatMap_cons, List.append_assoc]
    exact .item (nextFrame_frameBytes (h frame (List.mem_cons_self ..)) _)
      (ih fun frame' hmem => h frame' (List.mem_cons_of_mem _ hmem))

/-- What ends inside a valid frame is too short. -/
lemma nextFrame_of_prefix {frame : RawUdsFrame} (h : frame.Valid) {tail : Bytes}
    (hbegin : tail <+: frameBytes frame) (hshort : tail.length < (frameBytes frame).length) :
    nextFrame errors tail = .ok none := by
  obtain ⟨c, hc⟩ := hbegin
  have hframe : nextFrame errors (tail ++ c) = .ok (some (frame, [])) := by
    rw [hc]
    simpa using nextFrame_frameBytes h []
  refine (rawUdsFraming errors).next_eq_none hframe ?_
  rintro rfl
  rw [← hc, List.append_nil] at hshort
  exact lt_irrefl _ hshort

/-! ## Feeding -/

namespace RawUdsFrameDecoder

/-- The decoder after reading the buffer: an error clears it, and the frames are lost. -/
def afterReading (frames : List RawUdsFrame) :
    Except ε Bytes → RawUdsFrameDecoder × Except ε (List RawUdsFrame)
  | .ok rest => (⟨rest⟩, .ok frames)
  | .error e => (⟨[]⟩, .error e)

/-- The loop reads the buffer. -/
lemma feedLoop_eq {buffer : Bytes} {items : List RawUdsFrame} {outcome : Except ε Bytes}
    (h : (rawUdsFraming errors).Reads buffer items outcome) {fuel : ℕ}
    (hfuel : buffer.length ≤ fuel) (frames : List RawUdsFrame) :
    feedLoop errors fuel buffer frames = afterReading (frames ++ items) outcome := by
  induction h generalizing fuel frames with
  | @more buffer hnext =>
    cases fuel with
    | zero => simp [feedLoop, afterReading]
    | succ fuel =>
      have hnext : nextFrame errors buffer = .ok none := hnext
      simp [feedLoop, hnext, afterReading]
  | @error buffer e hnext =>
    have hnext : nextFrame errors buffer = .error e := hnext
    cases fuel with
    | zero =>
      obtain rfl := List.length_eq_zero_iff.mp (Nat.le_zero.mp hfuel)
      cases hnext
    | succ fuel => simp [feedLoop, hnext, afterReading]
  | @item buffer rest frame items outcome hnext hrest ih =>
    have hshorter := nextFrame_shorter errors hnext
    have hnext : nextFrame errors buffer = .ok (some (frame, rest)) := hnext
    cases fuel with
    | zero => omega
    | succ fuel =>
      rw [feedLoop]
      simp only [hnext]
      rw [ih (by omega), List.append_assoc]
      rfl

/-- `feed` reads what is buffered with the chunk. -/
lemma feed_eq {decoder : RawUdsFrameDecoder} {data : Bytes} {items : List RawUdsFrame}
    {outcome : Except ε Bytes}
    (hbuffer : (rawUdsFraming errors).Reads decoder.buffer [] (.ok decoder.buffer))
    (h : (rawUdsFraming errors).Reads (decoder.buffer ++ data) items outcome) :
    decoder.feed errors data = afterReading items outcome := by
  unfold feed
  split_ifs with hdata
  · subst hdata
    rw [List.append_nil] at h
    obtain ⟨rfl, rfl⟩ := hbuffer.unique h
    rfl
  · exact feedLoop_eq h le_rfl []

/-- A stream without an error is fed: the frames come in order, and the rest is buffered. -/
lemma feedAll_of_reads {decoder : RawUdsFrameDecoder} {chunks : List Bytes}
    {items : List RawUdsFrame} {rest : Bytes}
    (hbuffer : (rawUdsFraming errors).Reads decoder.buffer [] (.ok decoder.buffer))
    (h : (rawUdsFraming errors).Reads (decoder.buffer ++ chunks.flatten) items (.ok rest)) :
    decoder.feedAll errors chunks = (items, ⟨rest⟩, none) := by
  induction chunks generalizing decoder items with
  | nil =>
    rw [List.flatten_nil, List.append_nil] at h
    obtain ⟨rfl, hrest⟩ := hbuffer.unique h
    obtain rfl := Except.ok.inj hrest
    rfl
  | cons chunk chunks ih =>
    rw [List.flatten_cons, ← List.append_assoc] at h
    obtain ⟨items₁, outcome, hchunk⟩ :=
      (rawUdsFraming errors).exists_reads (decoder.buffer ++ chunk)
    cases outcome with
    | error e => cases ((hchunk.append_error chunks.flatten).unique h).2
    | ok rest₁ =>
      obtain ⟨items₂, outcome, hlater⟩ :=
        (rawUdsFraming errors).exists_reads (rest₁ ++ chunks.flatten)
      obtain ⟨rfl, rfl⟩ := (hchunk.append hlater).unique h
      have hrest₁ : (rawUdsFraming errors).Reads rest₁ [] (.ok rest₁) := .more hchunk.next_rest
      simp only [feedAll, feed_eq hbuffer hchunk, afterReading]
      rw [@ih ⟨rest₁⟩ _ hrest₁ hlater]

/-- A stream with an error is fed: the error is raised, and all frames before it were returned if
and only if they were the frames of what a call before had seen. -/
lemma feedAll_of_error {decoder : RawUdsFrameDecoder} {chunks : List Bytes}
    {items : List RawUdsFrame} {e : ε}
    (hbuffer : (rawUdsFraming errors).Reads decoder.buffer [] (.ok decoder.buffer))
    (h : (rawUdsFraming errors).Reads (decoder.buffer ++ chunks.flatten) items (.error e)) :
    ∃ delivered, decoder.feedAll errors chunks = (delivered, ⟨[]⟩, some e) ∧
      delivered <+: items ∧
      (delivered = items ↔ ∃ k rest, (rawUdsFraming errors).Reads
        (decoder.buffer ++ (chunks.take k).flatten) items (.ok rest)) := by
  induction chunks generalizing decoder items with
  | nil =>
    rw [List.flatten_nil, List.append_nil] at h
    cases (hbuffer.unique h).2
  | cons chunk chunks ih =>
    rw [List.flatten_cons, ← List.append_assoc] at h
    obtain ⟨items₁, outcome, hchunk⟩ :=
      (rawUdsFraming errors).exists_reads (decoder.buffer ++ chunk)
    cases outcome with
    | error e' =>
      obtain ⟨rfl, he⟩ := (hchunk.append_error chunks.flatten).unique h
      obtain rfl := Except.error.inj he
      refine ⟨[], by simp only [feedAll, feed_eq hbuffer hchunk, afterReading], List.nil_prefix, ?_⟩
      constructor
      · rintro rfl
        exact ⟨0, decoder.buffer, by simpa using hbuffer⟩
      · rintro ⟨k, rest, hk⟩
        cases k with
        | zero =>
          rw [List.take_zero, List.flatten_nil, List.append_nil] at hk
          exact (hbuffer.unique hk).1
        | succ k =>
          rw [List.take_succ_cons, List.flatten_cons, ← List.append_assoc] at hk
          cases ((hchunk.append_error _).unique hk).2
    | ok rest₁ =>
      obtain ⟨items₂, outcome, hlater⟩ :=
        (rawUdsFraming errors).exists_reads (rest₁ ++ chunks.flatten)
      obtain ⟨rfl, rfl⟩ := (hchunk.append hlater).unique h
      have hrest₁ : (rawUdsFraming errors).Reads rest₁ [] (.ok rest₁) := .more hchunk.next_rest
      obtain ⟨delivered, hfeed, hbegin, hiff⟩ := @ih ⟨rest₁⟩ _ hrest₁ hlater
      refine ⟨items₁ ++ delivered, ?_, (List.prefix_append_right_inj items₁).mpr hbegin, ?_⟩
      · simp only [feedAll, feed_eq hbuffer hchunk, afterReading, hfeed]
      rw [List.append_cancel_left_eq, hiff]
      constructor
      · rintro ⟨k, rest, hk⟩
        refine ⟨k + 1, rest, ?_⟩
        rw [List.take_succ_cons, List.flatten_cons, ← List.append_assoc]
        exact hchunk.append hk
      · rintro ⟨k, rest, hk⟩
        cases k with
        | zero =>
          rw [List.take_zero, List.flatten_nil, List.append_nil] at hk
          obtain ⟨-, rfl⟩ := List.append_eq_nil_iff.mp (hbuffer.unique hk).1.symm
          exact ⟨0, rest₁, by simpa using hrest₁⟩
        | succ k =>
          rw [List.take_succ_cons, List.flatten_cons, ← List.append_assoc] at hk
          obtain ⟨items₃, outcome, hmiddle⟩ :=
            (rawUdsFraming errors).exists_reads (rest₁ ++ (chunks.take k).flatten)
          obtain ⟨hitems, rfl⟩ := (hchunk.append hmiddle).unique hk
          obtain rfl := List.append_cancel_left hitems
          exact ⟨k, rest, hmiddle⟩

end RawUdsFrameDecoder

/-! ## Streams of valid frames -/

/-- A stream that was cut: the frames it holds wholly, and the incomplete tail. -/
lemma exists_cut {frames : List RawUdsFrame} {data : Bytes}
    (h : data <+: frames.flatMap frameBytes) :
    ∃ done rest tail, frames = done ++ rest ∧ data = done.flatMap frameBytes ++ tail ∧
      tail <+: rest.flatMap frameBytes ∧
      ∀ frame ∈ rest.head?, tail.length < (frameBytes frame).length := by
  induction frames generalizing data with
  | nil => exact ⟨[], [], data, rfl, rfl, h, by simp⟩
  | cons frame frames ih =>
    rw [List.flatMap_cons] at h
    rcases lt_or_ge data.length (frameBytes frame).length with hshort | hlong
    · exact ⟨[], frame :: frames, data, rfl, rfl, by simpa using h, by simpa using hshort⟩
    · obtain ⟨data', rfl⟩ : frameBytes frame <+: data :=
        List.prefix_of_prefix_length_le (List.prefix_append _ _) h hlong
      obtain ⟨done, rest, tail, rfl, rfl, htail, hlt⟩ :=
        ih ((List.prefix_append_right_inj _).mp h)
      exact ⟨frame :: done, rest, tail, rfl, by simp, htail, hlt⟩

/-- The tail of a stream of valid frames that was cut is too short for a frame. -/
lemma reads_tail {rest : List RawUdsFrame} (hvalid : ∀ frame ∈ rest, frame.Valid) {tail : Bytes}
    (htail : tail <+: rest.flatMap frameBytes)
    (hlt : ∀ frame ∈ rest.head?, tail.length < (frameBytes frame).length) :
    (rawUdsFraming errors).Reads tail [] (.ok tail) := by
  refine .more ?_
  cases rest with
  | nil =>
    obtain rfl := List.prefix_nil.mp htail
    rfl
  | cons frame rest =>
    have hlt := hlt frame rfl
    rw [List.flatMap_cons] at htail
    exact nextFrame_of_prefix (hvalid frame (List.mem_cons_self ..))
      (List.prefix_of_prefix_length_le htail (List.prefix_append _ _) hlt.le) hlt

variable (errors) in
/-- **A cut stream of valid frames**: fed in any chunks, it gives the frames it holds wholly, and
its tail is buffered. -/
lemma feedAll_valid {frames : List RawUdsFrame} (hvalid : ∀ frame ∈ frames, frame.Valid)
    {chunks : List Bytes} (h : chunks.flatten <+: frames.flatMap frameBytes) :
    ∃ done rest tail, frames = done ++ rest ∧ chunks.flatten = done.flatMap frameBytes ++ tail ∧
      tail <+: rest.flatMap frameBytes ∧
      (∀ frame ∈ rest.head?, tail.length < (frameBytes frame).length) ∧
      RawUdsFrameDecoder.feedAll errors {} chunks = (done, ⟨tail⟩, none) := by
  obtain ⟨done, rest, tail, rfl, hdata, htail, hlt⟩ := exists_cut h
  refine ⟨done, rest, tail, rfl, hdata, htail, hlt, ?_⟩
  have hreads := reads_frames errors
    (fun frame hmem => hvalid frame (List.mem_append_left rest hmem))
    (reads_tail (fun frame hmem => hvalid frame (List.mem_append_right done hmem)) htail hlt)
  rw [List.append_nil, ← hdata] at hreads
  exact RawUdsFrameDecoder.feedAll_of_reads (.more rfl) hreads

/-! ## Malformed headers -/

/-- A header that the decoder refuses, with what it raises. -/
inductive BadHeader (errors : FrameErrors ε) : Bytes → ε → Prop
  | unsupported {type l₀ l₁ l₂ l₃ : UInt8} (h : RawUdsFrameType.ofByte? type = none) :
    BadHeader errors [type, l₀, l₁, l₂, l₃] (errors.unsupported type)
  | payloadTooLarge {type l₀ l₁ l₂ l₃ : UInt8} {frameType : RawUdsFrameType}
      (h : RawUdsFrameType.ofByte? type = some frameType)
      (hlarge : RAW_UDS_MAX_PAYLOAD_BYTES < intFromBytesLittle [l₀, l₁, l₂, l₃]) :
    BadHeader errors [type, l₀, l₁, l₂, l₃] errors.payloadTooLarge

lemma BadHeader.length_eq {header : Bytes} {e : ε} (h : BadHeader errors header e) :
    header.length = RAW_UDS_HEADER_BYTES := by
  cases h <;> rfl

/-- A malformed header is an error, whatever follows. -/
lemma BadHeader.nextFrame {header : Bytes} {e : ε} (h : BadHeader errors header e) (c : Bytes) :
    nextFrame errors (header ++ c) = .error e := by
  refine (nextFrame_append errors c).2 ?_
  cases h with
  | unsupported h => simp [RtcAsr.nextFrame, h]
  | payloadTooLarge h hlarge => simp [RtcAsr.nextFrame, h, hlarge]

/-- Less than a header is too short. -/
lemma nextFrame_short {b : Bytes} (h : b.length < RAW_UDS_HEADER_BYTES) :
    nextFrame errors b = .ok none := by
  unfold nextFrame
  split
  · simp only [List.length_cons, RAW_UDS_HEADER_BYTES] at h
    omega
  · rfl

/-- A beginning of the stream holds the frames and no error exactly when it ends between the last
frame and the end of the malformed header. -/
lemma reads_ok_iff {frames : List RawUdsFrame} (hvalid : ∀ frame ∈ frames, frame.Valid)
    {header more b : Bytes} {e : ε} (hbad : BadHeader errors header e)
    (hb : b <+: frames.flatMap frameBytes ++ (header ++ more)) :
    (∃ rest, (rawUdsFraming errors).Reads b frames (.ok rest)) ↔
      (frames.flatMap frameBytes).length ≤ b.length ∧
        b.length < (frames.flatMap frameBytes).length + RAW_UDS_HEADER_BYTES := by
  constructor
  · rintro ⟨rest, hreads⟩
    constructor
    · by_contra hshort
      have hbegin : b <+: frames.flatMap frameBytes :=
        List.prefix_of_prefix_length_le hb (List.prefix_append _ _) (not_le.mp hshort).le
      obtain ⟨done, left, tail, rfl, rfl, htail, hlt⟩ := exists_cut hbegin
      have hreads' := reads_frames errors
        (fun frame hmem => hvalid frame (List.mem_append_left left hmem))
        (reads_tail (fun frame hmem => hvalid frame (List.mem_append_right done hmem)) htail hlt)
      rw [List.append_nil] at hreads'
      have hleft : left = [] := by simpa using (hreads'.unique hreads).1
      subst hleft
      simp at hshort
    · by_contra hlong
      obtain ⟨c, rfl⟩ : frames.flatMap frameBytes ++ header <+: b := by
        rw [← List.append_assoc] at hb
        refine List.prefix_of_prefix_length_le (List.prefix_append _ _) hb ?_
        rw [List.length_append, hbad.length_eq]
        exact not_lt.mp hlong
      have herror := reads_frames errors hvalid (.error (hbad.nextFrame c))
      rw [List.append_nil, ← List.append_assoc] at herror
      cases (herror.unique hreads).2
  · rintro ⟨hlong, hshort⟩
    obtain ⟨c, rfl⟩ : frames.flatMap frameBytes <+: b :=
      List.prefix_of_prefix_length_le (List.prefix_append _ _) hb hlong
    rw [List.length_append] at hshort
    have hreads := reads_frames errors hvalid
      (.more (nextFrame_short (b := c) (by omega)))
    rw [List.append_nil] at hreads
    exact ⟨c, hreads⟩

/-- The chunks give the decoder a chance to return all frames before it sees the malformed header:
one of them ends after the last frame and before the end of the header. -/
def EndsBeforeHeader (frames : List RawUdsFrame) (chunks : List Bytes) : Prop :=
  ∃ k, (frames.flatMap frameBytes).length ≤ (chunks.take k).flatten.length ∧
    (chunks.take k).flatten.length < (frames.flatMap frameBytes).length + RAW_UDS_HEADER_BYTES

/-- **A stream with a malformed header**: the error is the same for all chunks, and all frames
before it are returned if and only if a chunk ends after the last of them and before the end of the
header. -/
lemma feedAll_malformed {frames : List RawUdsFrame} (hvalid : ∀ frame ∈ frames, frame.Valid)
    {header more : Bytes} {e : ε} (hbad : BadHeader errors header e) {chunks : List Bytes}
    (hchunks : chunks.flatten = frames.flatMap frameBytes ++ (header ++ more)) :
    ∃ delivered, RawUdsFrameDecoder.feedAll errors {} chunks = (delivered, ⟨[]⟩, some e) ∧
      delivered <+: frames ∧ (delivered = frames ↔ EndsBeforeHeader frames chunks) := by
  have hreads := reads_frames errors hvalid (.error (hbad.nextFrame more))
  rw [List.append_nil, ← hchunks] at hreads
  obtain ⟨delivered, hfeed, hbegin, hiff⟩ :=
    @RawUdsFrameDecoder.feedAll_of_error _ errors {} _ _ _ (.more rfl) hreads
  refine ⟨delivered, hfeed, hbegin, hiff.trans (exists_congr fun k => ?_)⟩
  have hb : (chunks.take k).flatten <+: frames.flatMap frameBytes ++ (header ++ more) := by
    rw [← hchunks, ← List.take_append_drop k chunks, List.flatten_append, List.take_append_drop]
    exact List.prefix_append _ _
  exact reads_ok_iff hvalid hbad hb

end RtcAsr
