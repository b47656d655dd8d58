import Courier.Journal
import Courier.Text.Blank
import Courier.Text.Number

/-!
# How much is shown

A reader of the journal asks for all events up to a level, or for none at all. The level is asked
for by its name, in either case, or by a number.
-/

namespace Courier

abbrev Verbosity := Option Level

inductive VerbosityError where
  | noLevel
  | tooMuch
  deriving DecidableEq, Repr

def VerbosityError.message : VerbosityError → String
  | .noLevel =>
    "error parsing level filter: expected one of \"off\", \"error\", \"warn\", \"info\", \"debug\", "
      ++ "\"trace\", or a number 0-5"
  | .tooMuch => "invalid filter directive"

namespace Verbosity

def shows (v : Verbosity) (l : Level) : Bool :=
  match v with
  | none => false
  | some most => l.rank ≤ most.rank

def named : List (String × Verbosity) := [
  ("off", none),
  ("error", some .error),
  ("warn", some .warn),
  ("info", some .info),
  ("debug", some .debug),
  ("trace", some .trace)]

def ofWord? (s : String) : Option Verbosity :=
  match Text.word? s with
  | some n => named[n]?.map Prod.snd
  | none => named.lookup (String.ofList (s.toList.map Char.toLower))

/-- What a text asks for. Nothing asks for everything, and a comma may follow. -/
def ofText (s : String) : Except VerbosityError Verbosity :=
  let (word, rest) := s.toList.span (· ≠ ',')
  match if word = [] then some (some .trace) else ofWord? (String.ofList word) with
  | none => .error .noLevel
  | some v => if (rest.drop 1).all Text.isBlank then .ok v else .error .tooMuch

end Verbosity

end Courier
