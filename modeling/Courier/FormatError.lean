import Courier.Text.Quoted

/-!
# What can be wrong with received data

The causes for which a payload or a text is refused, and the wording of each.
-/

namespace Courier

inductive FrameFlaw where
  | noBracket
  | noDelimiter
  /-- The declared length has no room for the frame's own marks. -/
  | tooShort
  | tooLong
  | noParenthesis
  | noTrailer
  | noSeparator
  deriving DecidableEq, Repr

def FrameFlaw.message : FrameFlaw → String
  | .noBracket => "expected '['"
  | .noDelimiter => "missing length delimiter"
  | .tooShort => "declared length too short"
  | .tooLong => "declared length exceeds input"
  | .noParenthesis => "expected '('"
  | .noTrailer => "declared length does not match frame trailer"
  | .noSeparator => "missing name/value separator"

inductive FormatError where
  /-- The frame that starts at byte `offset` has a broken structure. -/
  | malformed (offset : Nat) (flaw : FrameFlaw)
  /-- The length field of the frame that starts at byte `offset` is no length. -/
  | badLength (offset : Nat) (field : String)
  | noTab
  | notText
  /-- The topic is empty, too long for a group name, or holds a tab. -/
  | badTopic (topic : String)
  deriving DecidableEq, Repr

def FormatError.message : FormatError → String
  | .malformed offset flaw =>
    "malformed frame at offset " ++ offset.repr ++ ": " ++ flaw.message
  | .badLength offset field =>
    "invalid length field " ++ Text.quote field ++ " at offset " ++ offset.repr
  | .noTab => "missing type separator"
  | .notText => "payload is not valid utf-8"
  | .badTopic topic => "invalid message type " ++ Text.quote topic

end Courier
