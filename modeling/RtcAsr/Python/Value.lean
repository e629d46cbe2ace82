import RtcAsr.Foundation.Binary64

/-!
# Python values the service computes with

`Json` is what `json.loads` returns: unbounded integers, binary64 floats with the infinities and
NaN, strings, lists and dictionaries.  A dictionary is a list of bindings read from the left
(`Dict.get?`), so every list of bindings stands for a dictionary.

The second half is the arithmetic of `int` and `float` with the exceptions it raises
(`PyError`), and the string methods the protocol code calls.
-/

namespace RtcAsr

/-- A byte string. -/
abbrev Bytes := List UInt8

/-- The built-in exceptions that arithmetic, conversions and hashing raise, and by name the ones
that are neither of these (`RecursionError`, `RuntimeError`, `ConnectionError`, …). -/
inductive PyError
  | overflowError (message : String)
  | valueError (message : String)
  | typeError (message : String)
  | other (name message : String)
  deriving DecidableEq, Repr

/-- The value is kept, an exception is put into another type of exceptions. -/
def liftError {ε ε' α : Type} (f : ε → ε') : Except ε α → Except ε' α
  | .ok a => .ok a
  | .error e => .error (f e)

/-! ## Floats -/

/-- A binary64 value: a finite one is given by the rational it denotes. -/
inductive PyFloat
  | finite (value : ℚ)
  | inf
  | negInf
  | nan
  deriving DecidableEq, Repr

namespace PyFloat

/-- `math.isfinite` on a float. -/
def isFinite : PyFloat → Bool
  | finite _ => true
  | _ => false

/-- The comparison `value <= 0`; every comparison with NaN is false. -/
def nonpos : PyFloat → Bool
  | finite q => decide (q ≤ 0)
  | negInf => true
  | inf => false
  | nan => false

/-- The float nearest to a rational, an infinity beyond the range. -/
def ofRat (q : ℚ) : PyFloat :=
  if Binary64.Overflows q then (if 0 < q then inf else negInf) else finite (Binary64.round q)

/-- Multiplication by a positive finite float. -/
def mulPos (x : PyFloat) (y : ℚ) : PyFloat :=
  match x with
  | finite q => ofRat (q * y)
  | inf => inf
  | negInf => negInf
  | nan => nan

/-- `round(x)`: the nearest integer, ties to even. -/
def toIntRound : PyFloat → Except PyError ℤ
  | finite q => .ok (Binary64.roundHalfEven q)
  | inf => .error (.overflowError "cannot convert float infinity to integer")
  | negInf => .error (.overflowError "cannot convert float infinity to integer")
  | nan => .error (.valueError "cannot convert float NaN to integer")

end PyFloat

/-! ## Integers meeting floats -/

/-- `float(n)`. -/
def intToFloat (n : ℤ) : Except PyError ℚ :=
  if Binary64.Overflows n then .error (.overflowError "int too large to convert to float")
  else .ok (Binary64.round n)

/-- `a / b` on integers: the correctly rounded quotient. -/
def intTrueDiv (a b : ℤ) : Except PyError ℚ :=
  if Binary64.Overflows ((a : ℚ) / b) then
    .error (.overflowError "integer division result too large for a float")
  else .ok (Binary64.round ((a : ℚ) / b))

/-! ## JSON values -/

/-- A value `json.loads` returns. -/
inductive Json
  | null
  | bool (b : Bool)
  | int (n : ℤ)
  | float (x : PyFloat)
  | str (s : String)
  | arr (items : List Json)
  | obj (fields : List (String × Json))

/-- A `dict[str, Any]`. -/
abbrev Dict := List (String × Json)

namespace Dict

/-- `payload.get(key)`, with `none` for an absent key. -/
def get? (d : Dict) (key : String) : Option Json := d.lookup key

/-- `key in payload`. -/
def contains (d : Dict) (key : String) : Bool := (d.lookup key).isSome

/-- `payload.get(key)` with Python's own `None` for an absent key. -/
def getD (d : Dict) (key : String) (default : Json) : Json := (d.lookup key).getD default

/-- `payload.setdefault(key, value)`. -/
def setdefault (d : Dict) (key : String) (value : Json) : Dict :=
  if d.contains key then d else d ++ [(key, value)]

end Dict

/-- Lists and dictionaries are the JSON values without a hash: a set lookup with one raises
`TypeError`. -/
def Json.unhashableType : Json → Option String
  | .arr _ => some "list"
  | .obj _ => some "dict"
  | _ => none

/-- `value == "…"` for a string literal. -/
def Json.isStr (literal : String) : Json → Bool
  | .str s => s == literal
  | _ => false

/-- `value is None`. -/
def Json.isNull : Json → Bool
  | .null => true
  | _ => false

/-- `str(value)` on the values whose rendering is plain; that of floats, lists and dictionaries
is left out. -/
def Json.pyStr : Json → String
  | .null => "None"
  | .bool true => "True"
  | .bool false => "False"
  | .int n => toString n
  | .str s => s
  | _ => ""

/-! ## Strings -/

/-- The characters `str.isspace`, `str.strip` and `str.split` treat as white space. -/
def pyIsSpace (c : Char) : Bool :=
  let n := c.toNat
  (0x09 ≤ n && n ≤ 0x0d) || (0x1c ≤ n && n ≤ 0x20) || n == 0x85 || n == 0xa0 || n == 0x1680 ||
    (0x2000 ≤ n && n ≤ 0x200a) || n == 0x2028 || n == 0x2029 || n == 0x202f || n == 0x205f ||
    n == 0x3000

/-- `str.strip()` on a list of characters. -/
def stripChars (cs : List Char) : List Char :=
  ((cs.dropWhile pyIsSpace).reverse.dropWhile pyIsSpace).reverse

/-- `str.strip()`. -/
def pyStrip (s : String) : String := String.ofList (stripChars s.toList)

/-- The words of `str.split()`: the maximal runs of characters that are not white space. -/
def splitChars : List Char → List (List Char)
  | [] => []
  | c :: cs =>
    if pyIsSpace c then splitChars cs
    else
      match cs with
      | [] => [[c]]
      | d :: _ =>
        if pyIsSpace d then [c] :: splitChars cs
        else
          match splitChars cs with
          | [] => [[c]]
          | w :: ws => (c :: w) :: ws

/-- `" ".join(s.split())`. -/
def pyJoinWords (s : String) : String :=
  String.intercalate " " ((splitChars s.toList).map String.ofList)

/-- `str.lower()` on ASCII letters.  No other character has an ASCII letter of `start` or `stop`
as its lower case, and the results are compared with these two words only. -/
def asciiLower (s : String) : String := String.ofList (s.toList.map Char.toLower)

end RtcAsr
