import ChangeNotice.Json.Numeral

/-! # Reading JSON text

A reader walks through the text once, so the first fault in the text is the one
that is reported. Brackets may nest to a limit. A value that nobody asked for is
skipped by a reader of its own, which has no such limit and looks at neither the
range of numbers nor the pairing of surrogates.

Loops over elements, members and characters take the length of the text as
their bound: every round consumes at least one character.
-/

namespace ChangeNotice.Json

def isBlank (c : Char) : Bool := c == ' ' || c == '\t' || c == '\n' || c == '\r'

def skipBlanks (cs : List Char) : List Char := cs.dropWhile isBlank

/-- Brackets may be open at once to this depth. -/
def nestingLimit : Nat := 127

/-! ## Literals and strings -/

/-- The rest of a literal word whose first letter has been seen. -/
def readWord : List Char → Reader Unit
  | [], cs => .ok ((), cs)
  | _ :: _, [] => .error .unfinished
  | w :: ws, c :: cs => if c = w then readWord ws cs else .error .malformed

def hexValue? (c : Char) : Option Nat :=
  if c.isDigit then some (c.toNat - '0'.toNat)
  else if 'a'.toNat ≤ c.toNat ∧ c.toNat ≤ 'f'.toNat then some (c.toNat - 'a'.toNat + 10)
  else if 'A'.toNat ≤ c.toNat ∧ c.toNat ≤ 'F'.toNat then some (c.toNat - 'A'.toNat + 10)
  else none

def utf8Length (cs : List Char) : Nat := cs.foldl (fun n c => n + c.utf8Size) 0

/-- Four hexadecimal digits; a text with fewer than four bytes left is unfinished. -/
def readUnit : Reader Nat := fun cs =>
  match cs.take 4 |>.mapM hexValue? with
  | some [a, b, c, d] => .ok (((a * 16 + b) * 16 + c) * 16 + d, cs.drop 4)
  | _ => if utf8Length (cs.take 4) < 4 then .error .unfinished else .error .malformed

def isHighSurrogate (u : Nat) : Bool := 0xD800 ≤ u && u ≤ 0xDBFF

def isLowSurrogate (u : Nat) : Bool := 0xDC00 ≤ u && u ≤ 0xDFFF

/-- The character that a pair of surrogates stands for. -/
def joinSurrogates (high low : Nat) : Char :=
  Char.ofNat (0x10000 + (high - 0xD800) * 0x400 + (low - 0xDC00))

/-- The low surrogate that has to follow a high one. -/
def readLowSurrogate (high : Nat) : Reader Char := fun cs =>
  match cs with
  | [] => .error .unfinished
  | '\\' :: [] => .error .unfinished
  | '\\' :: 'u' :: rest => do
    let (low, rest) ← readUnit rest
    if isLowSurrogate low then .ok (joinSurrogates high low, rest) else .error .malformed
  | _ => .error .malformed

/-- The character that a one-letter escape stands for. -/
def escapes : List (Char × Char) :=
  [('"', '"'), ('\\', '\\'), ('/', '/'), ('b', Char.ofNat 8), ('f', Char.ofNat 12), ('n', '\n'),
    ('r', '\r'), ('t', '\t')]

/-- What follows a backslash. -/
def readEscape : Reader Char := fun cs =>
  match cs with
  | [] => .error .unfinished
  | 'u' :: rest => do
    let (u, rest) ← readUnit rest
    if isLowSurrogate u then .error .malformed
    else if isHighSurrogate u then readLowSurrogate u rest
    else .ok (Char.ofNat u, rest)
  | c :: rest =>
    match escapes.lookup c with
    | some d => .ok (d, rest)
    | none => .error .malformed

/-- What follows a backslash in a skipped string. -/
def skipEscape : Reader Unit := fun cs =>
  match cs with
  | [] => .error .unfinished
  | 'u' :: rest => do
    let (_, rest) ← readUnit rest
    .ok ((), rest)
  | c :: rest =>
    match escapes.lookup c with
    | some _ => .ok ((), rest)
    | none => .error .malformed

/-- The characters up to the closing quotation mark. -/
def readChars : Nat → Reader (List Char)
  | 0, _ => .error .unfinished
  | _ + 1, [] => .error .unfinished
  | bound + 1, c :: cs =>
    if c = '"' then .ok ([], cs)
    else if c = '\\' then do
      let (d, cs) ← readEscape cs
      let (ds, cs) ← readChars bound cs
      .ok (d :: ds, cs)
    else if c.toNat < 32 then .error .malformed
    else do
      let (ds, cs) ← readChars bound cs
      .ok (c :: ds, cs)

/-- A string whose opening quotation mark has been taken. -/
def readString : Reader String := fun cs => do
  let (ds, rest) ← readChars (cs.length + 1) cs
  .ok (String.ofList ds, rest)

def skipChars : Nat → Reader Unit
  | 0, _ => .error .unfinished
  | _ + 1, [] => .error .unfinished
  | bound + 1, c :: cs =>
    if c = '"' then .ok ((), cs)
    else if c = '\\' then do
      let (_, cs) ← skipEscape cs
      skipChars bound cs
    else if c.toNat < 32 then .error .malformed
    else skipChars bound cs

def skipString : Reader Unit := fun cs => skipChars (cs.length + 1) cs

/-! ## Arrays and objects -/

/-- Whether another element follows, with the comma before it taken; a closing bracket is left. -/
def moreElements (first : Bool) : Reader Bool := fun cs =>
  match skipBlanks cs with
  | [] => .error .unfinished
  | ']' :: rest => .ok (false, ']' :: rest)
  | c :: rest =>
    if first then .ok (true, c :: rest)
    else if c = ',' then
      match skipBlanks rest with
      | [] => .error .unfinished
      | ']' :: _ => .error .malformed
      | rest => .ok (true, rest)
    else .error .malformed

/-- Takes the closing bracket of an array that has no further elements. -/
def closeArray : Reader Unit := fun cs =>
  match skipBlanks cs with
  | [] => .error .unfinished
  | ']' :: rest => .ok ((), rest)
  | _ => .error .malformed

/-- Folds the elements of an array whose opening bracket has been taken, and takes the closing
one. -/
def foldElements {σ : Type} (element : σ → Reader σ) : Nat → Bool → σ → Reader σ
  | 0, _, _, _ => .error .unfinished
  | bound + 1, first, s, cs => do
    let (more, cs) ← moreElements first cs
    if more then
      let (s, cs) ← element s cs
      foldElements element bound false s cs
    else
      let ((), cs) ← closeArray cs
      .ok (s, cs)

/-- Whether another key follows, with the comma before it and its quotation mark taken; a closing
brace is left. -/
def moreMembers (first : Bool) : Reader Bool := fun cs =>
  match skipBlanks cs with
  | [] => .error .unfinished
  | '\x7d' :: rest => .ok (false, '\x7d' :: rest)
  | c :: rest =>
    if first then
      if c = '"' then .ok (true, rest) else .error .malformed
    else if c = ',' then
      match skipBlanks rest with
      | [] => .error .unfinished
      | '"' :: rest => .ok (true, rest)
      | _ => .error .malformed
    else .error .malformed

/-- Takes the closing brace of an object that has no further members. -/
def closeObject : Reader Unit := fun cs =>
  match skipBlanks cs with
  | [] => .error .unfinished
  | '\x7d' :: rest => .ok ((), rest)
  | _ => .error .malformed

/-- The colon between a key and its value. -/
def readColon : Reader Unit := fun cs =>
  match skipBlanks cs with
  | [] => .error .unfinished
  | ':' :: rest => .ok ((), rest)
  | _ => .error .malformed

/-- Folds the members of an object whose opening brace has been taken, up to the closing brace,
which is left. The step is given the key and starts before the colon. -/
def foldMembers {σ : Type} (member : σ → String → Reader σ) : Nat → Bool → σ → Reader σ
  | 0, _, _, _ => .error .unfinished
  | bound + 1, first, s, cs => do
    let (more, cs) ← moreMembers first cs
    if more then
      let (key, cs) ← readString cs
      let (s, cs) ← member s key cs
      foldMembers member bound false s cs
    else .ok (s, cs)

/-! ## Values -/

/-- Reads a value; `room` is how many brackets may still be opened. -/
def readValue (room : Nat) : Reader Json := fun cs =>
  match skipBlanks cs with
  | [] => .error .unfinished
  | 'n' :: rest => do
    let ((), rest) ← readWord ['u', 'l', 'l'] rest
    .ok (null, rest)
  | 't' :: rest => do
    let ((), rest) ← readWord ['r', 'u', 'e'] rest
    .ok (bool true, rest)
  | 'f' :: rest => do
    let ((), rest) ← readWord ['a', 'l', 's', 'e'] rest
    .ok (bool false, rest)
  | '"' :: rest => do
    let (s, rest) ← readString rest
    .ok (string s, rest)
  | '[' :: rest =>
    match room with
    | 0 => .error .malformed
    | room + 1 => do
      let (es, rest) ← foldElements (fun es cs => do
        let (e, cs) ← readValue room cs
        .ok (e :: es, cs)) (rest.length + 1) true [] rest
      .ok (array es.reverse, rest)
  | '\x7b' :: rest =>
    match room with
    | 0 => .error .malformed
    | room + 1 => do
      let (ms, rest) ← foldMembers (fun ms key cs => do
        let ((), cs) ← readColon cs
        let (v, cs) ← readValue room cs
        .ok ((key, v) :: ms, cs)) (rest.length + 1) true [] rest
      let ((), rest) ← closeObject rest
      .ok (object ms.reverse, rest)
  | c :: rest =>
    if c = '-' ∨ c.isDigit then do
      let (n, rest) ← readNumber (c :: rest)
      .ok (n.value, rest)
    else .error .malformed
termination_by structural room

/-- Skips the members of an object up to the closing brace; their keys are skipped strings too. -/
def skipMembers (value : Reader Unit) : Nat → Bool → Reader Unit
  | 0, _, _ => .error .unfinished
  | bound + 1, first, cs => do
    let (more, cs) ← moreMembers first cs
    if more then
      let ((), cs) ← skipString cs
      let ((), cs) ← readColon cs
      let ((), cs) ← value cs
      skipMembers value bound false cs
    else .ok ((), cs)

/-- Skips a value; `room` is how many brackets may still be opened. -/
def skipValueWithin (room : Nat) : Reader Unit := fun cs =>
  match skipBlanks cs with
  | [] => .error .unfinished
  | 'n' :: rest => readWord ['u', 'l', 'l'] rest
  | 't' :: rest => readWord ['r', 'u', 'e'] rest
  | 'f' :: rest => readWord ['a', 'l', 's', 'e'] rest
  | '"' :: rest => skipString rest
  | '[' :: rest =>
    match room with
    | 0 => .error .malformed
    | room + 1 => foldElements (fun _ cs => skipValueWithin room cs) (rest.length + 1) true () rest
  | '\x7b' :: rest =>
    match room with
    | 0 => .error .malformed
    | room + 1 => do
      let ((), rest) ← skipMembers (skipValueWithin room) (rest.length + 1) true rest
      closeObject rest
  | c :: rest =>
    if c = '-' ∨ c.isDigit then do
      let (_, rest) ← readSpelling .malformed (c :: rest)
      .ok ((), rest)
    else .error .malformed
termination_by structural room

/-- Skips a value of any depth: no text opens more brackets than it has characters. -/
def skipValue : Reader Unit := fun cs => skipValueWithin (cs.length + 1) cs

/-! ## Values of a wanted type -/

/-- The fault of a value that is not of the wanted type. Brackets are refused at once; every other
value is read first, so that a fault inside it comes before. -/
def refuse : List Char → ReadError
  | '[' :: _ => .mismatch
  | '\x7b' :: _ => .mismatch
  | cs =>
    match readValue 0 cs with
    | .error e => e
    | .ok _ => .mismatch

/-- Reads a plain natural number below the limit. -/
def readNatural (limit : Nat) : Reader UInt64 := fun cs =>
  match skipBlanks cs with
  | [] => .error .unfinished
  | c :: rest =>
    if c = '-' ∨ c.isDigit then do
      let (n, rest) ← readNumber (c :: rest)
      match n.natural? with
      | some w => if w.toNat < limit then .ok (w, rest) else .error .mismatch
      | none => .error .mismatch
    else .error (refuse (c :: rest))

def readBool : Reader Bool := fun cs =>
  match skipBlanks cs with
  | [] => .error .unfinished
  | 't' :: rest => do
    let ((), rest) ← readWord ['r', 'u', 'e'] rest
    .ok (true, rest)
  | 'f' :: rest => do
    let ((), rest) ← readWord ['a', 'l', 's', 'e'] rest
    .ok (false, rest)
  | cs => .error (refuse cs)

/-- Reads a string value, opening quotation mark included. -/
def readText : Reader String := fun cs =>
  match skipBlanks cs with
  | [] => .error .unfinished
  | '"' :: rest => readString rest
  | cs => .error (refuse cs)

/-- Reads a whole text: after the value only blanks may follow. -/
def readAll {α : Type} (value : Reader α) (text : String) : Except ReadError α := do
  let (v, rest) ← value text.toList
  if (skipBlanks rest).isEmpty then .ok v else .error .malformed

/-- Reads a text as a value of any kind. -/
def ofText (text : String) : Except ReadError Json := readAll (readValue nestingLimit) text

end ChangeNotice.Json
