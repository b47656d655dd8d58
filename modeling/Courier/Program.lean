import Courier.CommandLine
import Courier.Demo.Play
import Courier.Verbosity

/-!
# The program

A run of the program as a function of its arguments, its file of settings and its environment:
what is logged and printed, and how the run ends.
-/

namespace Courier.Program

inductive Trouble where
  | logLevel (cause : VerbosityError)
  | settings (cause : SettingsError)
  | nothingToDo
  | demo (cause : Demo.Trouble)
  | unfaithful
  deriving DecidableEq, Repr

def Trouble.message : Trouble → String
  | .logLevel cause => cause.message
  | .settings cause => cause.message
  | .nothingToDo => "--producers and --messages must be at least 1"
  | .demo cause => cause.message
  | .unfaithful => "demo lost or duplicated messages"

structure Report where
  verbosity : Verbosity
  journal : Journal := #[]
  summary? : Option Demo.Summary := none
  json : Bool := false
  /-- What is noted after the summary has been printed. -/
  closing : Journal := #[]
  trouble? : Option Trouble := none

def Report.shown (r : Report) (journal : Journal) : List Event :=
  journal.toList.filter fun e => r.verbosity.shows e.level

def remarks (s : Demo.Summary) : List Remark :=
  Demo.Say.received s :: s.counts.map fun (producer, n) => Demo.Say.count producer n

def demonstrate (o : CommandLine.Options) (s : Settings) (r : Report) : Report :=
  let (result, journal) := Demo.play s o.plan
  let r := { r with journal := r.journal ++ journal }
  match result with
  | .error cause => { r with trouble? := some (.demo cause) }
  | .ok summary =>
    let said := if o.json then [] else remarks summary
    let r := { r with journal := r.journal ++ said.map Event.remark, summary? := some summary }
    if summary.isFaithful then { r with closing := #[.remark Demo.Say.complete] }
    else { r with trouble? := some .unfaithful }

def run (o : CommandLine.Options) (file? : Option String) (var : String → Option String) :
    Report :=
  match Verbosity.ofText o.logLevel with
  | .error cause => { verbosity := none, trouble? := some (.logLevel cause) }
  | .ok verbosity =>
    let r : Report :=
      { verbosity, json := o.json, journal := #[.remark Demo.Say.starting] }
    match Settings.load file? var with
    | .error cause => { r with trouble? := some (.settings cause) }
    | .ok s =>
      if o.plan.producers = 0 ∨ o.plan.messages = 0 then
        { r with trouble? := some .nothingToDo }
      else
        demonstrate o s r

def Report.printed? (r : Report) : Option Demo.Summary :=
  if r.json then r.summary? else none

def Report.exitCode (r : Report) : UInt32 :=
  if r.trouble?.isSome then 1 else 0

def usageExitCode : UInt32 := 2

def versionLine : String :=
  "postbox " ++ Demo.version

end Courier.Program
