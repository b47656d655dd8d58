import Courier.Agent.Basic
import Courier.Duration

/-!
# Descriptions of agents

An agent can describe itself for a developer: its transport, its profile, whether it has a session,
and its topics.
-/

namespace Courier

/-- A record with named fields as a developer reads it. -/
def describeFields (name : String) (fields : List (String × String)) : String :=
  name ++ " \x7b " ++ ", ".intercalate (fields.map fun (field, v) => field ++ ": " ++ v) ++ " \x7d"

def Profile.describe (p : Profile) : String :=
  describeFields "PostOfficeConfig"
    [("connect_string", Text.quote p.address),
      ("client_identifier", Text.quote p.client),
      ("max_message_len", p.limit.repr),
      ("keep_alive_interval",
        match p.keepAlive with
        | none => "None"
        | some interval => "Some(" ++ Duration.describe interval ++ ")")]

def Agent.describe {σ : Type} (t : Transport σ) (a : Agent) : String :=
  describeFields "PostOffice"
    [("transport", Text.quote t.name),
      ("config", a.profile.describe),
      ("connected", if a.isConnected then "true" else "false"),
      ("subscriptions", "\x7b" ++ ", ".intercalate (a.topics.toList.map Text.quote) ++ "\x7d")]

end Courier
