import Courier.Bytes

/-!
# Client names

A daemon accepts client names of at most ten bytes, each only once. A client that finds its name
taken tries the next suffix, for which the name is cut.
-/

namespace Courier

namespace ClientName

def maxSize : Nat := 10

/-- The longest beginning of a text that has at most `limit` bytes. -/
def cut : Nat → List Char → List Char
  | _, [] => []
  | limit, c :: rest => if c.utf8Size ≤ limit then c :: cut (limit - c.utf8Size) rest else []

/-- What is put behind the name at an attempt: nothing at first, then a number. -/
def suffix (attempt : Nat) : String :=
  if attempt = 0 then "" else "-" ++ attempt.repr

def candidate (base : String) (attempt : Nat) : String :=
  String.ofList (cut (maxSize - (suffix attempt).utf8ByteSize) base.toList) ++ suffix attempt

end ClientName

end Courier
