/-! # Inspection text

Every value of the library has a one-line inspection form: a record lists its
fields, a wrapped value stands in parentheses behind its name, and numbers are
written in decimal or, for bit masks, in hexadecimal.
-/

namespace ChangeNotice.Text

def decimal (n : Nat) : String := String.ofList (Nat.toDigits 10 n)

/-- Lower-case hexadecimal behind its marker; zero has one digit. -/
def hex (n : Nat) : String := "0x" ++ String.ofList (Nat.toDigits 16 n)

def truth (b : Bool) : String := if b then "true" else "false"

/-- A named value in parentheses. -/
def wrapped (name value : String) : String := name ++ "(" ++ value ++ ")"

/-- A named list of fields in braces. -/
def record (name : String) (fields : List (String × String)) : String :=
  let entries := fields.map fun field => field.1 ++ ": " ++ field.2
  name ++ " \x7b " ++ ", ".intercalate entries ++ " \x7d"

end ChangeNotice.Text
