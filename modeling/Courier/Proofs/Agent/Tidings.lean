import Courier.Proofs.Agent.Course

/-!
# What an agent tells of its sessions

An agent notes when it has connected and when it could not, and when it has
lost a session. These events are its tidings; whatever else it notes tells
nothing of sessions.

How many tidings a task brings and which follows from what the task comes to.
A search for a name brings one tiding, whatever its length is, and to give a
session up for a fault brings one. Nothing else brings any.
-/

namespace Courier

/-- What is told of the sessions at an address. -/
inductive Tiding where
  | connected (address : String)
  | restored (address : String)
  | unreachable (address : String)
  | stillUnreachable (address : String)
  | lost (address : String)
  deriving DecidableEq

def AgentEvent.tiding? : AgentEvent → Option Tiding
  | connected address _ => some (.connected address)
  | restored address _ => some (.restored address)
  | unreachable address _ => some (.unreachable address)
  | stillUnreachable address _ => some (.stillUnreachable address)
  | sessionLost address _ => some (.lost address)
  | _ => none

/-- What is told when a session was sought and was `found` or was not, and there
had been an `outage` or there had not. -/
def Tiding.ofSearch (address : String) (outage found : Bool) : Tiding :=
  match found, outage with
  | true, true => restored address
  | true, false => connected address
  | false, true => stillUnreachable address
  | false, false => unreachable address

def Event.agent? : Event → Option AgentEvent
  | .agent e => some e
  | _ => none

/-- What the agents have noted. -/
def Journal.noted (j : Journal) : List AgentEvent :=
  j.toList.filterMap Event.agent?

section Journal

variable {σ α : Type}

theorem noted_noting (site : Site σ) (e : AgentEvent) :
    (site.noting e).journal.noted = site.journal.noted ++ [e] := by
  simp [Site.noting, Journal.noted, Event.agent?]

/-- What a daemon notes about a call is not noted by an agent. -/
theorem noted_serve (site : Site σ) (served : Served σ α) :
    (site.serve served).journal.noted = site.journal.noted := by
  simp [Site.serve, Journal.noted, List.filterMap_map, Event.agent?]

end Journal

namespace Agent

/-- Between the sites an agent noted events that bring the tidings. -/
def Tells {σ : Type} (site site' : Site σ) (tidings : List Tiding) : Prop :=
  ∃ events, site'.journal.noted = site.journal.noted ++ events ∧
    events.filterMap AgentEvent.tiding? = tidings

variable {σ α : Type} {t : Transport σ} {s s' : Stage Agent σ}
  {site site' site'' : Site σ} {tidings more : List Tiding}

theorem Tells.of_same (h : site'.journal.noted = site.journal.noted) :
    Tells site site' [] :=
  ⟨[], by rw [h, List.append_nil], rfl⟩

theorem Tells.refl (site : Site σ) : Tells site site [] :=
  .of_same rfl

theorem Tells.trans (h : Tells site site' tidings)
    (h' : Tells site' site'' more) : Tells site site'' (tidings ++ more) := by
  obtain ⟨events, hnoted, rfl⟩ := h
  obtain ⟨events', hnoted', rfl⟩ := h'
  refine ⟨events ++ events', ?_, List.filterMap_append⟩
  rw [hnoted', hnoted, List.append_assoc]

theorem tells_serve (site : Site σ) (served : Served σ α) :
    Tells site (site.serve served) [] :=
  .of_same (noted_serve site served)

theorem tells_noting (site : Site σ) (e : AgentEvent) :
    Tells site (site.noting e) e.tiding?.toList :=
  ⟨[e], noted_noting site e, by cases h : e.tiding? <;> simp [h]⟩

/-! ## Tasks -/

theorem tells_rejoinedOn (topic : String) (c : Connection) (site : Site σ) :
    Tells site (rejoinedOn t topic c site) [] := by
  unfold rejoinedOn
  split
  · exact tells_serve _ _
  · next cause _ =>
      exact (tells_serve _ _).trans (tells_noting _ (.rejoinFailed topic cause))

theorem Rejoins.tells {topics : List String} {c c' : Connection}
    (h : Rejoins t topics c site c' site') : Tells site site' [] := by
  induction h with
  | nil => exact .refl _
  | cons _ ih => exact (tells_rejoinedOn _ _ _).trans ih

theorem tiding?_complaint (a : Agent) (cause : Fault) :
    (a.complaint cause).tiding? =
      some (.ofSearch a.profile.address a.outage false) := by
  rw [complaint]
  cases a.outage <;> rfl

theorem tiding?_greeting (a : Agent) (c : Connection) :
    (a.greeting c).tiding? =
      some (.ofSearch a.profile.address a.outage true) := by
  rw [greeting]
  cases a.outage <;> rfl

theorem tells_unconnected (a : Agent) (cause : Fault) (site : Site σ) :
    Tells site (a.unconnected cause site).site
      [.ofSearch a.profile.address a.outage false] := by
  have htold := tells_noting site (a.complaint cause)
  rwa [tiding?_complaint] at htold

theorem tells_connected (a : Agent) (c : Connection) (site : Site σ) :
    Tells site (a.connected c site).site
      [.ofSearch a.profile.address a.outage true] := by
  have htold := tells_noting site (a.greeting c)
  rwa [tiding?_greeting] at htold

theorem Searches.tells {a : Agent} {attempt remaining : Nat}
    {r : Except Failure Connection}
    (h : Searches t a attempt remaining site r s') :
    Tells site s'.site [.ofSearch a.profile.address a.outage r.isOk] := by
  induction h with
  | exhausted => exact tells_unconnected a _ _
  | accepted _ hrejoins =>
      exact (tells_serve _ _).trans
        (hrejoins.tells.trans (tells_connected a _ _))
  | @taken _ _ _ name _ _ _ _ ih =>
      exact (tells_serve _ _).trans
        ((tells_noting _ (.nameTaken name)).trans ih)
  | refused => exact (tells_serve _ _).trans (tells_unconnected a _ _)

theorem Connects.tells {r : Except Failure Connection}
    (h : Connects t s r s') :
    Tells s.site s'.site
      (if s.self.session.isSome then []
        else [.ofSearch s.self.profile.address s.self.outage r.isOk]) := by
  cases h with
  | held hsession =>
      rw [hsession]
      exact .refl _
  | opened hnone hsearch | failed hnone hsearch =>
      rw [hnone]
      exact hsearch.tells

theorem Disconnects.tells (h : Disconnects t s s') : Tells s.site s'.site [] := by
  cases h with
  | idle => exact .refl _
  | @ended c =>
      exact (tells_noting _ (.disconnecting c.address)).trans (tells_serve _ _)

theorem GivesUp.tells {cause : Fault} (h : GivesUp t cause s s') :
    Tells s.site s'.site
      (if cause.endsSession then [.lost s.self.profile.address] else []) := by
  cases h with
  | harmless hkeeps =>
      rw [hkeeps]
      exact .refl _
  | fatal hends hdisconnects =>
      rw [hends]
      exact (tells_noting s.site
        (.sessionLost s.self.profile.address cause)).trans hdisconnects.tells

end Agent

end Courier
