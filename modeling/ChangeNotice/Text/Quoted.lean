import ChangeNotice.Text.Inspect
import ChangeNotice.Text.Printable

/-! # Quoted text

The inspection form of a text: quotation marks around it, the usual one-letter
escapes inside, and every other character that is not printable as its code
point in braces.
-/

namespace ChangeNotice.Text

def quoteChar (c : Char) : String :=
  if c = '"' then "\\\""
  else if c = '\\' then "\\\\"
  else if c = '\n' then "\\n"
  else if c = '\t' then "\\t"
  else if c = '\r' then "\\r"
  else if c.toNat = 0 then "\\0"
  else if isPrintable c then c.toString
  else "\\u\x7b" ++ String.ofList (Nat.toDigits 16 c.toNat) ++ "\x7d"

def quoted (s : String) : String := "\"" ++ String.join (s.toList.map quoteChar) ++ "\""

end ChangeNotice.Text
