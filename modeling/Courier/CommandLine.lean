import Courier.Demo.Basic
import Courier.Text.Number

/-!
# The command line

Options are given as `--name value` or `--name=value`, each at most once and in any order; flags
take no value. Arguments are read from left to right, and the first that is wrong, or that asks
for help or for the version, decides.
-/

namespace Courier.CommandLine

structure Options where
  config : String := "postbox.yaml"
  logLevel : String := "info"
  plan : Demo.Plan := {}
  json : Bool := false
  deriving DecidableEq, Repr

inductive Parameter where
  | config
  | logLevel
  | producers
  | messages
  | topic
  | timeout
  deriving DecidableEq, Repr

inductive Meaning where
  | parameter (p : Parameter)
  | json
  | help
  | version
  deriving DecidableEq, Repr

def meanings : List (String × Meaning) := [
  ("config", .parameter .config),
  ("log-level", .parameter .logLevel),
  ("producers", .parameter .producers),
  ("messages", .parameter .messages),
  ("topic", .parameter .topic),
  ("timeout", .parameter .timeout),
  ("json", .json),
  ("help", .help),
  ("version", .version)]

inductive Request where
  | run (o : Options)
  | help
  | version
  deriving DecidableEq, Repr

inductive UsageError where
  | unexpected (arg : String)
  | missingValue (name : String)
  | needlessValue (name : String)
  | badValue (name value : String)
  | repeated (name : String)
  deriving DecidableEq, Repr

def UsageError.message : UsageError → String
  | .unexpected arg => "unexpected argument " ++ Text.quote arg
  | .missingValue name => "a value is required for --" ++ name
  | .needlessValue name => "no value is expected for --" ++ name
  | .badValue name value => "invalid value " ++ Text.quote value ++ " for --" ++ name
  | .repeated name => "--" ++ name ++ " was given more than once"

/-- Options with one value replaced, if the value makes sense. -/
def Options.set? (o : Options) (p : Parameter) (value : String) : Option Options :=
  match p with
  | .config => if value = "" then none else some { o with config := value }
  | .logLevel => some { o with logLevel := value }
  | .producers => (Text.word? value).map fun n => { o with plan := { o.plan with producers := n } }
  | .messages => (Text.word? value).map fun n => { o with plan := { o.plan with messages := n } }
  | .topic => some { o with plan := { o.plan with topic := value } }
  | .timeout =>
    (Duration.ofPhrase? value).map fun ns => { o with plan := { o.plan with timeout := ns } }

inductive Argument where
  | divider
  | named (name : String) (value? : Option String)
  /-- Letters behind one dash, the first of which counts. -/
  | letters (first : Char)
  | plain
  deriving DecidableEq, Repr

def Argument.ofText (arg : String) : Argument :=
  match arg.toList with
  | ['-', '-'] => divider
  | '-' :: '-' :: rest =>
    let (name, tail) := rest.span (· ≠ '=')
    named (String.ofList name) (if tail = [] then none else some (String.ofList (tail.drop 1)))
  | '-' :: first :: _ => letters first
  | _ => plain

/-- Reads a list of arguments. `given` holds the names that have been given. -/
def readFrom (o : Options) (given : List String) : List String → Except UsageError Request
  | [] => .ok (.run o)
  | arg :: rest =>
    let setting (name : String) (p : Parameter) (value : String) : Except UsageError Options :=
      if given.contains name then .error (.repeated name)
      else match o.set? p value with
        | some o => .ok o
        | none => .error (.badValue name value)
    match Argument.ofText arg with
    | .plain => .error (.unexpected arg)
    | .divider =>
      match rest with
      | [] => .ok (.run o)
      | extra :: _ => .error (.unexpected extra)
    | .letters first =>
      if first = 'h' then .ok .help
      else if first = 'V' then .ok .version
      else .error (.unexpected arg)
    | .named name value? =>
      match meanings.lookup name, value? with
      | none, _ => .error (.unexpected arg)
      | some (.parameter p), some value => do
        readFrom (← setting name p value) (name :: given) rest
      | some (.parameter p), none =>
        match rest with
        | [] => .error (.missingValue name)
        | value :: rest =>
          if Argument.ofText value = .plain then do
            readFrom (← setting name p value) (name :: given) rest
          else
            .error (.missingValue name)
      | some _, some _ => .error (.needlessValue name)
      | some .help, none => .ok .help
      | some .version, none => .ok .version
      | some .json, none =>
        if given.contains name then .error (.repeated name)
        else readFrom { o with json := true } (name :: given) rest

def read (args : List String) : Except UsageError Request :=
  readFrom {} [] args

def help : String :=
  "\n".intercalate [
    "Producer/consumer demo over the postbox relay",
    "",
    "Usage: postbox [OPTIONS]",
    "",
    "Options:",
    "      --config <CONFIG>        Configuration file path [default: postbox.yaml]",
    "      --log-level <LOG_LEVEL>  Log level (trace, debug, info, warn, error) [default: info]",
    "      --producers <PRODUCERS>  Number of producer relays [default: 4]",
    "      --messages <MESSAGES>    Messages sent by each producer [default: 100]",
    "      --topic <TOPIC>          Topic the producers publish on [default: Demo]",
    "      --timeout <TIMEOUT>      Give up waiting for the next message after this long, e.g. 5s "
      ++ "[default: 5s]",
    "      --json                   Print the summary as JSON",
    "  -h, --help                   Print help",
    "  -V, --version                Print version"]

end Courier.CommandLine
