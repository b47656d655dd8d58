import Courier.Text.Hex
import Courier.Text.Printable

/-!
# Quoted text

Messages show a text in double quotes, so that its ends and its invisible characters can be seen.
The quote and the backslash are escaped, tab, newline, carriage return and NUL have short names,
and every other character that would not show is written by its code point.
-/

namespace Courier.Text

def quoteChar (c : Char) : List Char :=
  if c = '"' then ['\\', '"']
  else if c = '\\' then ['\\', '\\']
  else if c = '\n' then ['\\', 'n']
  else if c = '\r' then ['\\', 'r']
  else if c = '\t' then ['\\', 't']
  else if c = '\x00' then ['\\', '0']
  else if isPrintable c then [c]
  else ['\\', 'u', '\x7b'] ++ hexDigits c.toNat ++ ['\x7d']

/-- A text between double quotes, its invisible characters escaped. -/
def quote (s : String) : String :=
  String.ofList ('"' :: s.toList.flatMap quoteChar ++ ['"'])

end Courier.Text
