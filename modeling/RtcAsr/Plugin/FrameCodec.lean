import RtcAsr.Protocol.FrameDecoder
import RtcAsr.Plugin.ServerEvent

/-!
# The two frame codecs

The plugin's `protocol.py` has the frame encoder, the frame decoder and `RawUdsFrameDecoder` of the
server once more, with `LocalSTTProtocolError` in the place of `LocalSttProtocolError`.  Both
decoders give the frames of a cut stream, in whatever chunks it arrives (`codecs_incremental`).
Where a malformed header follows, both lose the frames that arrive in the same chunk as the end of
this header (`ping_swallowed`, `delivered_iff_endsBeforeHeader`).
-/

namespace RtcAsr

/-- The functions of one side on raw UDS frames. -/
structure FrameCodec (ε : Type) where
  encode : RawUdsFrameType → Bytes → Except ε Bytes
  decode : Bytes → Except ε RawUdsFrame
  errors : FrameErrors ε

/-- The functions of `src/protocols/local_stt_v1.py`. -/
def serverCodec : FrameCodec Exn := ⟨encodeRawUdsFrame, decodeRawUdsFrame, serverFrameErrors⟩

namespace Plugin.RawUds

/-- The protocol error of a payload above the limit. -/
def payloadTooLarge : PluginExn :=
  .protocolError "Raw UDS frame payload exceeds 8388608 bytes" "raw_uds_payload_too_large"

/-- The protocol error of an unknown frame type. -/
def unsupportedFrameType (b : UInt8) : PluginExn :=
  .protocolError ("Unsupported Raw UDS frame type: " ++ toString b)
    "raw_uds_unsupported_frame_type"

/-- The exceptions of the plugin's decoder. -/
def frameErrors : FrameErrors PluginExn where
  unsupported := unsupportedFrameType
  payloadTooLarge := payloadTooLarge
  incomplete buffered :=
    .protocolError ("Raw UDS stream ended with " ++ toString buffered ++ " buffered frame bytes")
      "raw_uds_incomplete_frame"

/-- `encode_raw_uds_frame`. -/
def encodeRawUdsFrame (frameType : RawUdsFrameType) (payload : Bytes) : Except PluginExn Bytes :=
  if RAW_UDS_MAX_PAYLOAD_BYTES < payload.length then .error payloadTooLarge
  else .ok (frameBytes ⟨frameType, payload⟩)

/-- `decode_raw_uds_frame`. -/
def decodeRawUdsFrame (data : Bytes) : Except PluginExn RawUdsFrame :=
  match data with
  | type :: l₀ :: l₁ :: l₂ :: l₃ :: payload =>
    match RawUdsFrameType.ofByte? type with
    | none => .error (unsupportedFrameType type)
    | some frameType =>
      let payloadLen := intFromBytesLittle [l₀, l₁, l₂, l₃]
      if RAW_UDS_MAX_PAYLOAD_BYTES < payloadLen then .error payloadTooLarge
      else if payload.length ≠ payloadLen then
        .error (.protocolError ("Raw UDS frame length mismatch: header declares " ++
          toString payloadLen ++ " payload bytes but received " ++ toString payload.length)
          "raw_uds_frame_length_mismatch")
      else .ok ⟨frameType, payload⟩
  | _ =>
    .error (.protocolError "Raw UDS frames must include a 5 byte header"
      "raw_uds_incomplete_frame")

/-- Decoding the bytes of a valid frame gives the frame. -/
lemma decodeRawUdsFrame_frameBytes {frame : RawUdsFrame} (h : frame.Valid) :
    decodeRawUdsFrame (frameBytes frame) = .ok frame := by
  have hlength := h.length_field
  simp only [bytesLittle] at hlength
  simp only [frameBytes, frameHeader, bytesLittle, List.cons_append, List.nil_append,
    decodeRawUdsFrame, RawUdsFrameType.ofByte?_value, hlength]
  rw [if_neg (not_lt.mpr h), if_neg (by simp)]

/-- The functions of the plugin's `protocol.py`. -/
def pluginCodec : FrameCodec PluginExn := ⟨encodeRawUdsFrame, decodeRawUdsFrame, frameErrors⟩

end Plugin.RawUds

namespace FrameCodec

variable {ε : Type}

/-- **Decoding is independent of chunking.** Every valid frame is encoded and decoded back.  Any
chunks of a beginning of the encoded frames give the frames wholly in it, without an exception; what
is buffered afterwards is the incomplete tail, which is shorter than the next frame, and `finish`
raises exactly if there is one. -/
structure Incremental (codec : FrameCodec ε) : Prop where
  single : ∀ frame : RawUdsFrame, frame.Valid →
    ∃ data, codec.encode frame.frameType frame.payload = .ok data ∧ codec.decode data = .ok frame
  chunked : ∀ frames : List RawUdsFrame, (∀ frame ∈ frames, frame.Valid) →
    ∃ encoded, frames.mapM (fun frame => codec.encode frame.frameType frame.payload) = .ok encoded ∧
      ∀ chunks : List Bytes, chunks.flatten <+: encoded.flatten →
        ∃ done rest tail, frames = done ++ rest ∧
          chunks.flatten = (encoded.take done.length).flatten ++ tail ∧
          (∀ data ∈ encoded[done.length]?, tail.length < data.length) ∧ (rest = [] → tail = []) ∧
          RawUdsFrameDecoder.feedAll codec.errors {} chunks = (done, ⟨tail⟩, none) ∧
          (⟨tail⟩ : RawUdsFrameDecoder).bufferedBytes = tail.length ∧
          ((∃ e, (RawUdsFrameDecoder.finish codec.errors ⟨tail⟩).2 = .error e) ↔ tail ≠ [])

/-- A codec that encodes the valid frames as their bytes, and decodes these, is incremental. -/
lemma incremental_of_frameBytes {codec : FrameCodec ε}
    (hencode : ∀ frame : RawUdsFrame, frame.Valid →
      codec.encode frame.frameType frame.payload = .ok (frameBytes frame))
    (hdecode : ∀ frame : RawUdsFrame, frame.Valid →
      codec.decode (frameBytes frame) = .ok frame) : codec.Incremental where
  single frame h := ⟨frameBytes frame, hencode frame h, hdecode frame h⟩
  chunked frames hvalid := by
    have hencoded : frames.mapM (fun frame => codec.encode frame.frameType frame.payload) =
        .ok (frames.map frameBytes) := by
      induction frames with
      | nil => rfl
      | cons frame frames ih =>
        rw [List.mapM_cons, hencode frame (hvalid frame (List.mem_cons_self ..)),
          ih fun frame' hmem => hvalid frame' (List.mem_cons_of_mem _ hmem)]
        rfl
    refine ⟨_, hencoded, fun chunks hchunks => ?_⟩
    rw [← List.flatMap_def] at hchunks
    obtain ⟨done, rest, tail, rfl, hdata, htail, hlt, hfeed⟩ :=
      feedAll_valid codec.errors hvalid hchunks
    refine ⟨done, rest, tail, rfl, ?_, ?_, ?_, hfeed, rfl, ?_⟩
    · rw [hdata, List.map_append, List.take_left' (List.length_map ..), List.flatMap_def]
    · rw [List.map_append, List.getElem?_append_right (by simp)]
      cases rest with
      | nil => simp
      | cons frame rest => simpa using hlt frame rfl
    · rintro rfl
      simpa using htail
    · unfold RawUdsFrameDecoder.finish
      split_ifs with hempty
      · exact ⟨nofun, fun h => absurd hempty h⟩
      · exact ⟨fun _ => hempty, fun _ => ⟨_, rfl⟩⟩

end FrameCodec

/-- **Both decoders are independent of chunking on valid streams.** -/
theorem codecs_incremental : serverCodec.Incremental ∧ Plugin.RawUds.pluginCodec.Incremental :=
  ⟨FrameCodec.incremental_of_frameBytes (fun _ h => h.encode)
      fun _ h => decodeRawUdsFrame_frameBytes h,
    FrameCodec.incremental_of_frameBytes (fun _ h => if_neg (not_lt.mpr h))
      fun _ h => Plugin.RawUds.decodeRawUdsFrame_frameBytes h⟩

/-! ## Malformed headers -/

/-- The frames are returned, in order, before the exception is raised. -/
def DeliversAll {ε : Type} (errors : FrameErrors ε) (frames : List RawUdsFrame) (e : ε)
    (chunks : List Bytes) : Prop :=
  RawUdsFrameDecoder.feedAll errors {} chunks = (frames, ⟨[]⟩, some e)

/-- A stream with a malformed header, cut in two ways. -/
lemma deliversAll_iff {ε : Type} {errors : FrameErrors ε} {frames : List RawUdsFrame}
    (hvalid : ∀ frame ∈ frames, frame.Valid) {header more : Bytes} {e : ε}
    (hbad : BadHeader errors header e) {chunks : List Bytes}
    (hchunks : chunks.flatten = frames.flatMap frameBytes ++ (header ++ more)) :
    DeliversAll errors frames e chunks ↔ EndsBeforeHeader frames chunks := by
  obtain ⟨delivered, hfeed, -, hiff⟩ := feedAll_malformed hvalid hbad hchunks
  rw [← hiff, DeliversAll, hfeed]
  simp

/-- **Malformed input does not swallow earlier frames, for any two ways to cut the stream, if and
only if in each of them a chunk ends after the last valid frame and before the end of the malformed
header.** -/
theorem delivered_iff_endsBeforeHeader {frames : List RawUdsFrame}
    (hvalid : ∀ frame ∈ frames, frame.Valid) {header more : Bytes} {chunks chunks' : List Bytes}
    (hchunks : chunks.flatten = frames.flatMap frameBytes ++ (header ++ more))
    (hchunks' : chunks'.flatten = frames.flatMap frameBytes ++ (header ++ more)) :
    (∀ e, BadHeader serverFrameErrors header e →
      (DeliversAll serverFrameErrors frames e chunks ∧
          DeliversAll serverFrameErrors frames e chunks' ↔
        EndsBeforeHeader frames chunks ∧ EndsBeforeHeader frames chunks')) ∧
    (∀ e, BadHeader Plugin.RawUds.frameErrors header e →
      (DeliversAll Plugin.RawUds.frameErrors frames e chunks ∧
          DeliversAll Plugin.RawUds.frameErrors frames e chunks' ↔
        EndsBeforeHeader frames chunks ∧ EndsBeforeHeader frames chunks')) := by
  refine ⟨fun _ hbad => ?_, fun _ hbad => ?_⟩
  · exact and_congr (deliversAll_iff hvalid hbad hchunks) (deliversAll_iff hvalid hbad hchunks')
  · exact and_congr (deliversAll_iff hvalid hbad hchunks) (deliversAll_iff hvalid hbad hchunks')

/-- A ping without a payload. -/
def emptyPing : RawUdsFrame := ⟨.ping, []⟩

/-- A header of an unknown type. -/
def unknownHeader : Bytes := [9, 0, 0, 0, 0]

/-- `delivered_iff_endsBeforeHeader` for a ping and a header that come in chunks of their own, and
in single bytes. -/
theorem delivered_iff_endsBeforeHeader_emptyPing :
    DeliversAll serverFrameErrors [emptyPing] (serverFrameErrors.unsupported 9)
        [frameBytes emptyPing, unknownHeader] ∧
      DeliversAll serverFrameErrors [emptyPing] (serverFrameErrors.unsupported 9)
        [[5], [0], [0], [0], [0], [9], [0], [0], [0], [0]] := by
  have hends : EndsBeforeHeader [emptyPing] [frameBytes emptyPing, unknownHeader] :=
    ⟨1, by decide, by decide⟩
  have hends' : EndsBeforeHeader [emptyPing] [[5], [0], [0], [0], [0], [9], [0], [0], [0], [0]] :=
    ⟨5, by decide, by decide⟩
  exact ((@delivered_iff_endsBeforeHeader [emptyPing] (by decide) unknownHeader [] _ _ (by decide)
    (by decide)).1 _ (.unsupported rfl)).mpr ⟨hends, hends'⟩

/-- **A ping is swallowed** by both decoders: in one chunk with a malformed header it is lost, and
in a chunk of its own it is returned. -/
theorem ping_swallowed :
    RawUdsFrameDecoder.feedAll serverFrameErrors {} [frameBytes emptyPing ++ unknownHeader] =
        ([], {}, some (serverFrameErrors.unsupported 9)) ∧
      RawUdsFrameDecoder.feedAll serverFrameErrors {} [frameBytes emptyPing, unknownHeader] =
        ([emptyPing], {}, some (serverFrameErrors.unsupported 9)) ∧
      RawUdsFrameDecoder.feedAll Plugin.RawUds.frameErrors {}
        [frameBytes emptyPing ++ unknownHeader] =
        ([], {}, some (Plugin.RawUds.frameErrors.unsupported 9)) ∧
      RawUdsFrameDecoder.feedAll Plugin.RawUds.frameErrors {}
        [frameBytes emptyPing, unknownHeader] =
        ([emptyPing], {}, some (Plugin.RawUds.frameErrors.unsupported 9)) :=
  ⟨rfl, rfl, rfl, rfl⟩

end RtcAsr
