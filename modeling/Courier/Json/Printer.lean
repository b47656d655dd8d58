/-!
# Writing JSON

Texts are written without spaces, and only what must be escaped is. An object may also be laid out
in lines, for people.
-/

namespace Courier.Json

def unitDigits (n : Nat) : List Char :=
  [n / 0x1000 % 16, n / 0x100 % 16, n / 0x10 % 16, n % 16].map Nat.digitChar

def escape (c : Char) : List Char :=
  if c = '"' then ['\\', '"']
  else if c = '\\' then ['\\', '\\']
  else if c = '\x08' then ['\\', 'b']
  else if c = '\x0c' then ['\\', 'f']
  else if c = '\n' then ['\\', 'n']
  else if c = '\r' then ['\\', 'r']
  else if c = '\t' then ['\\', 't']
  else if c.toNat < 0x20 then ['\\', 'u'] ++ unitDigits c.toNat
  else [c]

def quote (s : String) : String :=
  String.ofList ('"' :: s.toList.flatMap escape ++ ['"'])

def object (members : List (String × String)) : String :=
  "\x7b" ++ ",".intercalate (members.map fun (name, v) => quote name ++ ":" ++ v) ++ "\x7d"

/-- An object with written members, each in a line that is indented by `depth` spaces and two. -/
def block (depth : Nat) (members : List (String × String)) : String :=
  let margin := String.ofList ('\n' :: List.replicate depth ' ')
  let lines := members.map fun (name, v) => margin ++ "  " ++ quote name ++ ": " ++ v
  "\x7b" ++ ",".intercalate lines ++ (if members.isEmpty then "" else margin) ++ "\x7d"

end Courier.Json
