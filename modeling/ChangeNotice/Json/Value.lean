import ChangeNotice.Text.Inspect

/-! # JSON values

Members of an object keep the order in which they were written, and a key may
occur more than once. A plain natural number that fits 64 bits is a value of its
own; every other number is kept by its digits.
-/

namespace ChangeNotice

inductive Json where
  | null
  | bool (b : Bool)
  | natural (n : UInt64)
  | numeral (spelling : String)
  | string (s : String)
  | array (elements : List Json)
  | object (members : List (String × Json))
deriving Inhabited

namespace Json

def hexDigit (n : Nat) : Char := Nat.digitChar (n % 16)

/-- Quotation marks, backslashes and control characters are escaped, nothing else. -/
def escape (c : Char) : List Char :=
  if c = '"' then ['\\', '"']
  else if c = '\\' then ['\\', '\\']
  else if c = '\n' then ['\\', 'n']
  else if c = '\r' then ['\\', 'r']
  else if c = '\t' then ['\\', 't']
  else if c.toNat = 8 then ['\\', 'b']
  else if c.toNat = 12 then ['\\', 'f']
  else if c.toNat < 32 then ['\\', 'u', '0', '0', hexDigit (c.toNat / 16), hexDigit c.toNat]
  else [c]

def quoted (s : String) : List Char := '"' :: s.toList.flatMap escape ++ ['"']

/-- Whatever is not first stands behind a comma. -/
def separator (first : Bool) : List Char := if first then [] else [',']

mutual

/-- The compact text of a value: no blanks, members in order. -/
def chars : Json → List Char
  | null => ['n', 'u', 'l', 'l']
  | bool true => ['t', 'r', 'u', 'e']
  | bool false => ['f', 'a', 'l', 's', 'e']
  | natural n => Nat.toDigits 10 n.toNat
  | numeral s => s.toList
  | string s => quoted s
  | array es => '[' :: elementChars true es ++ [']']
  | object ms => '\x7b' :: memberChars true ms ++ ['\x7d']
termination_by structural j => j

def elementChars (first : Bool) : List Json → List Char
  | [] => []
  | e :: rest => separator first ++ chars e ++ elementChars false rest
termination_by structural es => es

def memberChars (first : Bool) : List (String × Json) → List Char
  | [] => []
  | (k, v) :: rest => separator first ++ quoted k ++ ':' :: chars v ++ memberChars false rest
termination_by structural ms => ms

end

def text (j : Json) : String := String.ofList j.chars

mutual

/-- Keeps the last of several members with one key, at every level. -/
def distinct : Json → Json
  | array es => array (distinctElements es)
  | object ms => object (distinctMembers ms)
  | j => j

def distinctElements : List Json → List Json
  | [] => []
  | e :: rest => distinct e :: distinctElements rest

def distinctMembers : List (String × Json) → List (String × Json)
  | [] => []
  | (k, v) :: rest =>
    if rest.any (·.1 == k) then distinctMembers rest
    else (k, distinct v) :: distinctMembers rest

end

/-- The value of a key; of several members with that key, the first. -/
def get? (j : Json) (key : String) : Option Json :=
  match j with
  | object ms => (ms.find? (·.1 == key)).map (·.2)
  | _ => none

end Json

end ChangeNotice
