import RtcAsr.Server.Legacy

/-!
# Audio in text messages

A client that sends no binary frames puts each chunk into a JSON message as base64 text.
`b64decode_b64encode` says that the text stands for the chunk, and `decodeWebsocketAudio_audio` that
the server takes the chunk out of the message; only the empty chunk has an empty text, which the
server refuses.
-/

namespace RtcAsr

/-! ## Base64 -/

/-- The base64 digit for six bits. -/
def base64Char (n : ℕ) : Char :=
  if n < 26 then Char.ofNat ('A'.toNat + n)
  else if n < 52 then Char.ofNat ('a'.toNat + (n - 26))
  else if n < 62 then Char.ofNat ('0'.toNat + (n - 52))
  else if n = 62 then '+'
  else '/'

/-- `base64.b64encode` as a list of characters: three bytes in four digits, the last bytes padded.
-/
def b64encodeChars : Bytes → List Char
  | [] => []
  | [a] => [base64Char (a.toNat / 4), base64Char (a.toNat % 4 * 16), '=', '=']
  | [a, b] =>
    [base64Char (a.toNat / 4), base64Char (a.toNat % 4 * 16 + b.toNat / 16),
      base64Char (b.toNat % 16 * 4), '=']
  | a :: b :: c :: rest =>
    base64Char (a.toNat / 4) :: base64Char (a.toNat % 4 * 16 + b.toNat / 16) ::
      base64Char (b.toNat % 16 * 4 + c.toNat / 64) :: base64Char (c.toNat % 64) ::
      b64encodeChars rest

/-- `base64.b64encode(…).decode("ascii")`. -/
def b64encode (bytes : Bytes) : String := String.ofList (b64encodeChars bytes)

/-- A digit stands for its six bits. -/
lemma base64Digit_base64Char {n : ℕ} (hn : n < 64) : base64Digit (base64Char n) = some n := by
  have hall : ∀ n < 64, base64Digit (base64Char n) = some n := by decide +kernel
  exact hall n hn

/-- No digit is the padding. -/
lemma base64Char_ne_padding {n : ℕ} (hn : n < 64) : base64Char n ≠ '=' := by
  have hall : ∀ n < 64, base64Char n ≠ '=' := by decide +kernel
  exact hall n hn

/-- Four digits without padding are three bytes. -/
lemma b64decodeChars_quantum {a b c d : Char} (hd : d ≠ '=') (rest : List Char) :
    b64decodeChars (a :: b :: c :: d :: rest) = do
      let x ← base64Digit a
      let y ← base64Digit b
      let z ← base64Digit c
      let w ← base64Digit d
      let bytes ← (if rest.all (· = '=') = true then some [] else b64decodeChars rest)
      return UInt8.ofNat (x * 4 + y / 16) :: UInt8.ofNat (y % 16 * 16 + z / 4) ::
        UInt8.ofNat (z % 4 * 64 + w) :: bytes := by
  rw [b64decodeChars]
  · intro hc hd'
    exact absurd hd' hd
  · intro hd'
    exact absurd hd' hd

/-- An encoding is no padding alone. -/
lemma eq_nil_of_all_padding {bytes : Bytes}
    (h : (b64encodeChars bytes).all (· = '=') = true) : bytes = [] := by
  have hfirst : ∀ (a : UInt8) (rest : List Char),
      ¬ (base64Char (a.toNat / 4) :: rest).all (· = '=') = true := by
    intro a rest hall
    have ha := a.toNat_lt
    rw [List.all_cons, Bool.and_eq_true, decide_eq_true_eq] at hall
    exact base64Char_ne_padding (by omega) hall.1
  match bytes with
  | [] => rfl
  | [a] => exact absurd h (hfirst a _)
  | [a, b] => exact absurd h (hfirst a _)
  | a :: b :: c :: rest => exact absurd h (hfirst a _)

/-- A byte from its number. -/
lemma ofNat_eq {n : ℕ} {a : UInt8} (h : n = a.toNat) : UInt8.ofNat n = a := by
  rw [h, UInt8.ofNat_toNat]

/-- Decoding the encoding of a list of bytes. -/
lemma b64decodeChars_b64encodeChars (bytes : Bytes) :
    b64decodeChars (b64encodeChars bytes) = some bytes := by
  induction bytes using b64encodeChars.induct with
  | case1 => rfl
  | case2 a =>
    have ha := a.toNat_lt
    simp only [b64encodeChars, b64decodeChars]
    rw [base64Digit_base64Char (by omega), base64Digit_base64Char (by omega)]
    have hbyte : UInt8.ofNat (a.toNat / 4 * 4 + a.toNat % 4 * 16 / 16) = a := ofNat_eq (by omega)
    simp only [Option.bind_eq_bind, Option.bind_some, Option.pure_def, hbyte]
  | case3 a b =>
    have ha := a.toNat_lt
    have hb := b.toNat_lt
    have hdigit : base64Char (b.toNat % 16 * 4) ≠ '=' := base64Char_ne_padding (by omega)
    rw [b64encodeChars, b64decodeChars]
    · rw [base64Digit_base64Char (by omega), base64Digit_base64Char (by omega),
        base64Digit_base64Char (by omega)]
      have hfirst : UInt8.ofNat (a.toNat / 4 * 4 + (a.toNat % 4 * 16 + b.toNat / 16) / 16) = a :=
        ofNat_eq (by omega)
      have hsecond : UInt8.ofNat ((a.toNat % 4 * 16 + b.toNat / 16) % 16 * 16 +
          b.toNat % 16 * 4 / 4) = b := ofNat_eq (by omega)
      simp only [Option.bind_eq_bind, Option.bind_some, Option.pure_def, hfirst, hsecond]
    · exact hdigit
  | case4 a b c rest ih =>
    have ha := a.toNat_lt
    have hb := b.toNat_lt
    have hc := c.toNat_lt
    have hrest : (if (b64encodeChars rest).all (· = '=') = true then some []
        else b64decodeChars (b64encodeChars rest)) = some rest := by
      split_ifs with hall
      · rw [eq_nil_of_all_padding hall]
      · exact ih
    rw [b64encodeChars, b64decodeChars_quantum (base64Char_ne_padding (by omega)), hrest,
      base64Digit_base64Char (by omega), base64Digit_base64Char (by omega),
      base64Digit_base64Char (by omega), base64Digit_base64Char (by omega)]
    have hfirst : UInt8.ofNat (a.toNat / 4 * 4 + (a.toNat % 4 * 16 + b.toNat / 16) / 16) = a :=
      ofNat_eq (by omega)
    have hsecond : UInt8.ofNat ((a.toNat % 4 * 16 + b.toNat / 16) % 16 * 16 +
        (b.toNat % 16 * 4 + c.toNat / 64) / 4) = b := ofNat_eq (by omega)
    have hthird : UInt8.ofNat ((b.toNat % 16 * 4 + c.toNat / 64) % 4 * 64 + c.toNat % 64) = c :=
      ofNat_eq (by omega)
    simp only [Option.bind_eq_bind, Option.bind_some, Option.pure_def, hfirst, hsecond, hthird]

/-- **Base64 round trip.**  Decoding the text of some bytes gives the bytes. -/
lemma b64decode_b64encode (bytes : Bytes) : b64decode (b64encode bytes) = some bytes := by
  rw [b64decode, b64encode, String.toList_ofList]
  exact b64decodeChars_b64encodeChars bytes

/-- Only no bytes have an empty text. -/
lemma b64encode_eq_empty {bytes : Bytes} : b64encode bytes = "" ↔ bytes = [] := by
  constructor
  · intro h
    have hdecode := b64decode_b64encode bytes
    rw [h] at hdecode
    exact (Option.some.inj hdecode).symm
  · rintro rfl
    rfl

/-! ## Audio messages -/

/-- The message of `send_audio_chunk` without binary frames. -/
def audioPayload (chunk : Bytes) : Dict :=
  [("type", .str "audio"), ("audio_data", .str (b64encode chunk))]

/-- What the server takes out of an audio message: the chunk, if it is not empty. -/
lemma decodeWebsocketAudio_audio (chunk : Bytes) :
    decodeWebsocketAudio (audioPayload chunk) =
      if chunk = [] then .error (clientError "audio_data or audio is required for audio events")
      else .ok chunk := by
  by_cases hempty : chunk = []
  · subst hempty
    rfl
  · have htext : b64encode chunk ≠ "" := fun h => hempty (b64encode_eq_empty.mp h)
    have htruthy : (Json.str (b64encode chunk)).truthy = true := by
      simpa [Json.truthy] using htext
    rw [if_neg hempty]
    unfold decodeWebsocketAudio
    rw [show (audioPayload chunk).getD "audio_bytes" .null = .null from rfl,
      show (audioPayload chunk).getD "audio_data" .null = .str (b64encode chunk) from rfl]
    simp only [Json.isNull, Bool.true_eq_false, if_false, htruthy, if_true, if_neg htext,
      b64decode_b64encode]

end RtcAsr
