import Courier.Text.Quoted

/-!
# Faults

What a transport reports when a call fails. Two kinds of fault end the session on which they
arise; the others leave it usable.
-/

namespace Courier

inductive Fault where
  | unreachable (address : String)
  | nameTaken (name : String)
  | illegalName (name : String)
  | closed
  | tooLong (size limit : Nat)
  | shortWrite (sent size : Nat)
  | nothingWaiting
  | io (text : String)
  deriving DecidableEq, Repr

namespace Fault

def message : Fault → String
  | unreachable address => "could not connect to " ++ address
  | nameTaken name => "client name " ++ Text.quote name ++ " is not unique"
  | illegalName name => "illegal name " ++ Text.quote name
  | closed => "connection closed"
  | tooLong size limit => "message too long: " ++ size.repr ++ " > " ++ limit.repr
  | shortWrite sent size => "only " ++ sent.repr ++ " of " ++ size.repr ++ " bytes sent"
  | nothingWaiting => "nothing to receive"
  | io text => "io error: " ++ text

def endsSession : Fault → Bool
  | closed | io _ => true
  | _ => false

end Fault

end Courier
