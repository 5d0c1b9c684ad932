import ChangeNotice.Json.Value

/-! # Numbers in JSON text

A number is an optional minus sign, digits without a leading zero, an optional
fraction and an optional exponent. Numbers whose magnitude exceeds the range of
a double-precision number are refused. The significand that decides this is the
longest run of leading digits that fits 64 bits.
-/

namespace ChangeNotice.Json

/-- Why a text was refused. -/
inductive ReadError where
  /-- The text ends before the value is complete. -/
  | unfinished
  /-- The text is not JSON. -/
  | malformed
  /-- The text is JSON of another shape. -/
  | mismatch
deriving DecidableEq, Inhabited

/-- A reader takes what it needs from the front of the text and returns the rest. -/
abbrev Reader (α : Type) := List Char → Except ReadError (α × List Char)

/-- The parts of a number as they are spelled. -/
structure Spelling where
  negative : Bool
  whole : List Char
  fraction : Option (List Char)
  exponent : Option (Bool × List Char)

def digitValue (c : Char) : Nat := c.toNat - '0'.toNat

def digitsValue (ds : List Char) : Nat := Nat.ofDigitChars 10 ds 0

def wordLimit : Nat := UInt64.size

/-- Takes digits into the significand while it fits 64 bits; returns the digits that were left. -/
def absorb : Nat → List Char → Nat × List Char
  | s, [] => (s, [])
  | s, d :: ds =>
    if 10 * s + digitValue d < wordLimit then absorb (10 * s + digitValue d) ds else (s, d :: ds)

/-- Rounds to 53 significant bits, a half to the even neighbour. -/
def roundToDouble (n : Nat) : Nat :=
  let drop := n.log2 - 52
  let unit := Nat.pow 2 drop
  let low := n / unit
  let rest := 2 * (n % unit)
  if rest < unit ∨ (rest = unit ∧ low % 2 = 0) then low * unit else (low + 1) * unit

/-- The least magnitude that rounds to infinity. -/
def doubleLimit : Nat := Nat.pow 2 1024 - Nat.pow 2 970

/-- Whether a significand times a power of ten is beyond the doubles. -/
def overflows (significand : Nat) (exponent : Int) : Bool :=
  significand != 0 &&
    (if exponent < 0 then false
     else if 308 < exponent then true
     else decide
      (doubleLimit ≤ roundToDouble significand * roundToDouble (Nat.pow 10 exponent.toNat)))

namespace Spelling

/-- The significand and the power of ten that scales it. -/
def scaled (n : Spelling) : Nat × Int :=
  let (s, unread) := absorb 0 n.whole
  let (s', unread') := absorb s (n.fraction.getD [])
  let taken := (n.fraction.getD []).length - unread'.length
  let shift : Int := match n.exponent with
    | none => 0
    | some (true, ds) => - (digitsValue ds : Int)
    | some (false, ds) => digitsValue ds
  (s', (unread.length : Int) - taken + shift)

def inRange (n : Spelling) : Bool := !overflows n.scaled.1 n.scaled.2

/-- A number without sign, fraction and exponent that fits 64 bits. -/
def natural? (n : Spelling) : Option UInt64 :=
  if n.negative || n.fraction.isSome || n.exponent.isSome then none
  else if digitsValue n.whole < wordLimit then some (UInt64.ofNat (digitsValue n.whole))
  else none

def chars (n : Spelling) : List Char :=
  (if n.negative then ['-'] else []) ++ n.whole ++
    (match n.fraction with | none => [] | some ds => '.' :: ds) ++
    (match n.exponent with
      | none => []
      | some (true, ds) => 'e' :: '-' :: ds
      | some (false, ds) => 'e' :: ds)

def value (n : Spelling) : Json :=
  match n.natural? with
  | some w => natural w
  | none => numeral (String.ofList n.chars)

end Spelling

/-- A run of digits, at least one; `cut` is the fault when the text ends before the first. -/
def readDigits (cut : ReadError) : Reader (List Char) := fun cs =>
  match cs with
  | [] => .error cut
  | c :: _ =>
    if c.isDigit then .ok (cs.takeWhile Char.isDigit, cs.dropWhile Char.isDigit)
    else .error .malformed

/-- The digits before the point: a lone zero, or a run that does not start with zero. -/
def readWhole (cut : ReadError) : Reader (List Char) := fun cs => do
  let (ds, rest) ← readDigits cut cs
  if ds.head? = some '0' ∧ ds ≠ ['0'] then .error .malformed else .ok (ds, rest)

def readFraction (cut : ReadError) : Reader (Option (List Char)) := fun cs =>
  match cs with
  | '.' :: rest => do
    let (ds, rest) ← readDigits cut rest
    .ok (some ds, rest)
  | _ => .ok (none, cs)

def readExponentDigits (cut : ReadError) (negative : Bool) :
    Reader (Option (Bool × List Char)) := fun cs => do
  let (ds, rest) ← readDigits cut cs
  .ok (some (negative, ds), rest)

def readExponent (cut : ReadError) : Reader (Option (Bool × List Char)) := fun cs =>
  match cs with
  | c :: rest =>
    if c = 'e' ∨ c = 'E' then
      match rest with
      | '-' :: rest => readExponentDigits cut true rest
      | '+' :: rest => readExponentDigits cut false rest
      | _ => readExponentDigits cut false rest
    else .ok (none, cs)
  | [] => .ok (none, cs)

/-- Reads the spelling of a number; `cut` is the fault when the text ends where a digit is due. -/
def readSpelling (cut : ReadError) : Reader Spelling := fun cs => do
  let (negative, cs) := match cs with
    | '-' :: rest => (true, rest)
    | _ => (false, cs)
  let (whole, cs) ← readWhole cut cs
  let (fraction, cs) ← readFraction cut cs
  let (exponent, cs) ← readExponent cut cs
  .ok (⟨negative, whole, fraction, exponent⟩, cs)

/-- Reads a number that has to be in range. -/
def readNumber : Reader Spelling := fun cs => do
  let (n, rest) ← readSpelling .unfinished cs
  if n.inRange then .ok (n, rest) else .error .malformed

end ChangeNotice.Json
