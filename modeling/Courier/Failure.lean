import Courier.FormatError
import Courier.Transport.Fault

/-!
# Failures

What an agent or a relay tells its callers when it cannot do what was asked.
-/

namespace Courier

inductive Operation where
  | join
  | leave
  | receive
  deriving DecidableEq, Repr

def Operation.name : Operation → String
  | .join => "join"
  | .leave => "leave"
  | .receive => "receive"

inductive Failure where
  | connecting (address : String) (cause : Fault)
  /-- A message was not sent, or not all of it. -/
  | sending (group : String) (cause : Fault)
  | tooLarge (size limit : Nat)
  | badTopic (cause : FormatError)
  | transport (operation : Operation) (cause : Fault)
  | undecodable (cause : FormatError)
  | stopped
  deriving DecidableEq, Repr

def Failure.message : Failure → String
  | .connecting address cause => "connection to " ++ address ++ " failed: " ++ cause.message
  | .sending group cause => "sending to " ++ group ++ " failed: " ++ cause.message
  | .tooLarge size limit => "message size " ++ size.repr ++ " exceeds maximum " ++ limit.repr
  | .badTopic cause => "invalid message type: " ++ cause.message
  | .transport operation cause => operation.name ++ " failed: " ++ cause.message
  | .undecodable cause => "decode error: " ++ cause.message
  | .stopped => "relay stopped"

end Courier
