import Courier.Relay.Basic
import Courier.Text.Number
import Courier.Yaml.View

/-!
# Settings

Settings start from defaults. A file may replace some of them, and then the environment may. A
file that cannot be read as a whole changes nothing. What comes out is checked once, at the end.
-/

namespace Courier

structure RelaySettings where
  commands : Nat := 64
  inbound : Nat := 1024
  outbound : Nat := 1024
  idleMs : Nat := 100
  deriving DecidableEq, Repr

structure Settings where
  address : String := "4803@localhost"
  client : String := "postbox"
  limit : Nat := Transport.maxPayload
  /-- The time between keep-alives; zero for none. -/
  keepAliveMs : Nat := 2000
  relay : RelaySettings := {}
  deriving DecidableEq, Repr

inductive SettingsError where
  | zero (name : String)
  deriving DecidableEq, Repr

def SettingsError.message : SettingsError → String
  | .zero name => name ++ " must be at least 1"

namespace RelaySettings

def withSection? (s : RelaySettings) (d : Yaml.Document) : Option RelaySettings := do
  match ← d.fields? ["command_capacity", "inbound_capacity", "outbound_capacity",
      "idle_interval_ms"] with
  | [commands, inbound, outbound, idle] =>
    return {
      commands := (← Yaml.Document.field? Yaml.Document.number? commands).getD s.commands
      inbound := (← Yaml.Document.field? Yaml.Document.number? inbound).getD s.inbound
      outbound := (← Yaml.Document.field? Yaml.Document.number? outbound).getD s.outbound
      idleMs := (← Yaml.Document.field? Yaml.Document.number? idle).getD s.idleMs }
  | _ => none

def pace (s : RelaySettings) : Pace where
  commands := s.commands
  inbound := s.inbound
  outbound := s.outbound
  idle := s.idleMs * millisecond

end RelaySettings

namespace Settings

def withSection? (s : Settings) (d : Yaml.Document) : Option Settings := do
  match ← d.fields? ["connect_string", "client_id", "max_message_len", "keep_alive_interval_ms",
      "relay"] with
  | [address, client, limit, keepAlive, relay] =>
    return {
      address := (← Yaml.Document.field? Yaml.Document.text? address).getD s.address
      client := (← Yaml.Document.field? Yaml.Document.text? client).getD s.client
      limit := (← Yaml.Document.field? Yaml.Document.number? limit).getD s.limit
      keepAliveMs := (← Yaml.Document.field? Yaml.Document.number? keepAlive).getD s.keepAliveMs
      relay := (← Yaml.Document.field? s.relay.withSection? relay).getD s.relay }
  | _ => none

def withFile? (s : Settings) (file : String) : Option Settings := do
  match ← Yaml.Document.ofText? file with
  | [document] =>
    match ← document.fields? ["postbox"] with
    | [main] => return (← Yaml.Document.field? s.withSection? main).getD s
    | _ => none
  | _ => none

/-- Settings with what the environment says about them. A number that is none is passed over. -/
def withEnvironment (s : Settings) (var : String → Option String) : Settings :=
  let idleMs? := (var "POSTBOX_IDLE_INTERVAL_MS").bind Text.word?
  { s with
    address := (var "POSTBOX_CONNECT_STRING").getD s.address
    client := (var "POSTBOX_CLIENT_ID").getD s.client
    relay := { s.relay with idleMs := idleMs?.getD s.relay.idleMs } }

def check (s : Settings) : Except SettingsError Settings :=
  if s.relay.commands = 0 then .error (.zero "relay.command_capacity")
  else if s.relay.inbound = 0 then .error (.zero "relay.inbound_capacity")
  else if s.relay.outbound = 0 then .error (.zero "relay.outbound_capacity")
  else if s.limit = 0 then .error (.zero "max_message_len")
  else .ok s

def load (file? : Option String) (var : String → Option String) : Except SettingsError Settings :=
  let s : Settings := {}
  (((file?.bind s.withFile?).getD s).withEnvironment var).check

def profile (s : Settings) (client : String) : Profile where
  address := s.address
  client := client
  limit := s.limit
  keepAlive := if s.keepAliveMs = 0 then none else some (s.keepAliveMs * millisecond)

end Settings

end Courier
