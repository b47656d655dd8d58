import Courier.Assembly
import Courier.Proofs.Run

/-!
# What senders see of each other's pieces

A table of open messages is used by acts: arrivals are pushed, what a sender
has open is discarded, everything is cleared. Each act looks at one entry of
the table at most and changes no other, so what a sender has open, and every
answer given to it, is decided by the acts that concern this sender alone.

`answers_filter` states this for whole runs: acts that do not concern a
sender can be taken out of a run, and neither the answers that are left nor
what the sender has open at the end will change. So senders have no way to
learn of each other (`senders_are_independent`): each is answered as if it
were alone, and in whatever order the acts of different senders come.
-/

namespace Courier

namespace Assemblies

/-! ## The table, entry by entry -/

theorem get?_insert (a : Assemblies) (s sender : String) (assembly : Assembly) :
    (a.insert s assembly).get? sender =
      if s = sender then some assembly else a.get? sender := by
  simp [get?, insert, Std.ExtTreeMap.getElem?_insert]

theorem get?_discard (a : Assemblies) (s sender : String) :
    (a.discard s).get? sender = if s = sender then none else a.get? sender := by
  simp [get?, discard, Std.ExtTreeMap.getElem?_erase]

/-- A table is what each sender has open in it. -/
theorem eq_of_get? {a b : Assemblies}
    (h : ∀ sender, a.get? sender = b.get? sender) : a = b :=
  congrArg mk (Std.ExtTreeMap.ext_getElem? h)

theorem get?_push_of_ne {arrival : Arrival} {sender : String}
    (h : arrival.sender ≠ sender) (a : Assemblies) :
    (a.push arrival).assemblies.get? sender = a.get? sender := by
  cases hp : arrival.piece <;> simp only [push, hp]
  case first =>
    simp only [pushFirst]
    split <;> simp [get?_insert, get?_discard, h]
  case middle =>
    simp only [pushMiddle]
    split <;> simp [get?_insert, h]
  case last =>
    simp only [pushLast]
    split
    · rfl
    · split <;> simp [get?_discard, h]

/-- What comes of an arrival is decided by what its sender has open. -/
theorem push_congr {a b : Assemblies} {arrival : Arrival}
    (h : a.get? arrival.sender = b.get? arrival.sender) :
    (a.push arrival).result = (b.push arrival).result ∧
      (a.push arrival).assemblies.get? arrival.sender =
        (b.push arrival).assemblies.get? arrival.sender := by
  cases hp : arrival.piece <;> simp only [push, hp]
  case single => exact ⟨trivial, h⟩
  case first =>
    simp only [pushFirst, h]
    split <;> simp [get?_insert, get?_discard]
  case middle =>
    simp only [pushMiddle, h]
    split
    · exact ⟨rfl, h⟩
    · simp [get?_insert]
  case last =>
    simp only [pushLast, h]
    split
    · exact ⟨rfl, h⟩
    · split <;> simp [get?_discard]

/-! ## Acts -/

inductive Act where
  | push (arrival : Arrival)
  | discard (sender : String)
  | clear
  deriving DecidableEq

inductive Answer where
  | pushed (result : Except AssemblyError (Option Message))
  /-- Had the sender anything open? -/
  | discarded (wasOpen : Bool)
  | cleared
  deriving DecidableEq

def act : Act → StateM Assemblies Answer
  | .push arrival => modifyGet fun a =>
    (.pushed (a.push arrival).result, (a.push arrival).assemblies)
  | .discard sender => modifyGet fun a =>
    (.discarded (a.get? sender).isSome, a.discard sender)
  | .clear => modifyGet fun _ => (.cleared, .empty)

/-- Can the act change what the sender has open? A complete message from the
sender cannot. -/
def Act.concerns (sender : String) : Act → Bool
  | .push arrival => arrival.sender = sender && arrival.piece ≠ .single
  | .discard s => s = sender
  | .clear => true

/-- Is the act answered by what the sender has open, if by anything? -/
def Act.isAbout (sender : String) : Act → Bool
  | .push arrival => arrival.sender = sender
  | .discard s => s = sender
  | .clear => true

theorem get?_act_of_not_concerns {sender : String} {d : Act}
    (h : d.concerns sender = false) (a : Assemblies) :
    ((act d).run a).2.get? sender = a.get? sender := by
  cases d with
  | push arrival =>
      simp only [act, modifyGet, StateT.run, MonadStateOf.modifyGet,
        StateT.modifyGet]
      by_cases hs : arrival.sender = sender
      · obtain ⟨s, piece, payload⟩ := arrival
        have hp : piece = .single := by
          simp only at hs
          simpa [Act.concerns, hs] using h
        subst hp
        rfl
      · exact get?_push_of_ne hs a
  | discard s =>
      have hs : s ≠ sender := by simpa [Act.concerns] using h
      show (a.discard s).get? sender = a.get? sender
      rw [get?_discard, if_neg hs]
  | clear => cases h

/-- Two tables in which the sender has the same open give the same answer to
an act about the sender, and the sender has the same open afterwards. -/
theorem act_congr {sender : String} {d : Act} (h : d.isAbout sender = true)
    {a b : Assemblies} (hab : a.get? sender = b.get? sender) :
    ((act d).run a).1 = ((act d).run b).1 ∧
      ((act d).run a).2.get? sender = ((act d).run b).2.get? sender := by
  cases d with
  | push arrival =>
      have hs : arrival.sender = sender := by simpa [Act.isAbout] using h
      subst hs
      obtain ⟨hresult, hopen⟩ := push_congr hab
      exact ⟨congrArg Answer.pushed hresult, hopen⟩
  | discard s =>
      have hs : s = sender := by simpa [Act.isAbout] using h
      subst hs
      refine ⟨congrArg (fun o : Option Assembly => Answer.discarded o.isSome) hab, ?_⟩
      show (a.discard s).get? s = (b.discard s).get? s
      rw [get?_discard, get?_discard, if_pos rfl, if_pos rfl]
  | clear => exact ⟨rfl, rfl⟩

/-- Acts that do not concern a sender can be taken out of a run. -/
theorem answers_filter {sender : String} {keep : Act → Bool}
    (hconcerns : ∀ d, d.concerns sender = true → keep d = true)
    (habout : ∀ d, keep d = true → d.isAbout sender = true)
    (a : Assemblies) (acts : List Act) :
    (Run.of act a acts).answers keep =
        (Run.of act a (acts.filter keep)).answers keep ∧
      (Run.of act a acts).state.get? sender =
        (Run.of act a (acts.filter keep)).state.get? sender := by
  induction acts using List.reverseRecOn with
  | nil => exact ⟨rfl, rfl⟩
  | append_singleton acts d ih =>
      obtain ⟨hanswers, hopen⟩ := ih
      rw [List.filter_append, Run.of_concat, Run.answers_take]
      cases hd : keep d with
      | false =>
          have hnot : d.concerns sender = false := by
            rw [← Bool.not_eq_true]
            exact fun hc => by simp [hconcerns d hc] at hd
          simp only [List.filter_cons, hd, Bool.false_eq_true, if_false,
            List.filter_nil, List.append_nil]
          exact ⟨hanswers, (get?_act_of_not_concerns hnot _).trans hopen⟩
      | true =>
          have hsame := act_congr (habout d hd) hopen
          simp only [List.filter_cons, hd, if_true, List.filter_nil,
            Run.of_concat, Run.answers_take, hanswers]
          exact ⟨congrArg (_ ++ [·]) hsame.1, hsame.2⟩

/-! ## Senders apart -/

theorem Act.isAbout_of_concerns {sender : String} {d : Act}
    (h : d.concerns sender = true) : d.isAbout sender = true := by
  cases d <;> simp_all [concerns, isAbout]

/-- The acts about a sender decide what comes of a run for it. -/
theorem answers_congr {sender : String} {acts acts' : List Act}
    (h : acts'.filter (Act.isAbout sender) = acts.filter (Act.isAbout sender))
    (a : Assemblies) :
    (Run.of act a acts').answers (Act.isAbout sender) =
        (Run.of act a acts).answers (Act.isAbout sender) ∧
      (Run.of act a acts').state.get? sender =
        (Run.of act a acts).state.get? sender := by
  have habout : ∀ d : Act, d.concerns sender = true → d.isAbout sender = true :=
    fun _ => Act.isAbout_of_concerns
  obtain ⟨hanswers, hopen⟩ := answers_filter habout (fun _ => id) a acts
  obtain ⟨hanswers', hopen'⟩ := answers_filter habout (fun _ => id) a acts'
  rw [h] at hanswers' hopen'
  exact ⟨hanswers'.trans hanswers.symm, hopen'.trans hopen.symm⟩

/-- A sender is answered, and left with what it has open, as in the run that
keeps the acts about this sender only: its arrivals, what is discarded of it,
and the clearings. So acts may come in any order in which those about each
sender keep theirs. -/
theorem senders_are_independent (acts : List Act) :
    (∀ sender,
      let own := acts.filter (Act.isAbout sender)
      (Run.of act empty acts).answers (Act.isAbout sender) =
          (Run.of act empty own).answers (Act.isAbout sender) ∧
        (Run.of act empty acts).state.get? sender =
          (Run.of act empty own).state.get? sender) ∧
    ∀ acts' : List Act,
      (∀ sender, acts'.filter (Act.isAbout sender) =
        acts.filter (Act.isAbout sender)) →
      (∀ sender, (Run.of act empty acts').answers (Act.isAbout sender) =
          (Run.of act empty acts).answers (Act.isAbout sender)) ∧
        (Run.of act empty acts').state = (Run.of act empty acts).state := by
  refine ⟨fun sender => ?_, fun acts' h => ⟨fun sender => ?_, ?_⟩⟩
  · refine answers_congr ?_ empty
    rw [List.filter_filter]
    exact List.filter_congr fun d _ => (Bool.and_self _).symm
  · exact (answers_congr (h sender) empty).1
  · exact eq_of_get? fun sender => (answers_congr (h sender) empty).2

/-- Two senders whose pieces come in turns, one of which cannot be read, and
a clearing before the last one. -/
def mingled : List Act :=
  [.push { sender := "#a#hub", piece := .first, payload := [84, 9, 97] },
    .push { sender := "#b#hub", piece := .first, payload := [255, 9] },
    .push { sender := "#a#hub", piece := .middle, payload := [98] },
    .push { sender := "#b#hub", piece := .first, payload := [66, 9] },
    .push { sender := "#a#hub", piece := .last, payload := [99] },
    .clear,
    .push { sender := "#b#hub", piece := .last, payload := [] }]

/-- The same acts, with each sender's in a row. -/
def parted : List Act :=
  [.push { sender := "#b#hub", piece := .first, payload := [255, 9] },
    .push { sender := "#b#hub", piece := .first, payload := [66, 9] },
    .push { sender := "#a#hub", piece := .first, payload := [84, 9, 97] },
    .push { sender := "#a#hub", piece := .middle, payload := [98] },
    .push { sender := "#a#hub", piece := .last, payload := [99] },
    .clear,
    .push { sender := "#b#hub", piece := .last, payload := [] }]

theorem senders_are_independent_parted :
    (∀ sender, parted.filter (Act.isAbout sender) =
        mingled.filter (Act.isAbout sender)) ∧
      (Run.of act empty parted).answers (Act.isAbout "#a#hub") =
        [.pushed (.ok none), .pushed (.ok none),
          .pushed (.ok (some { topic := "T", text := "abc" })), .cleared] ∧
      (Run.of act empty parted).answers (Act.isAbout "#b#hub") =
        [.pushed (.error (.undecodable "#b#hub" .notText)), .pushed (.ok none),
          .cleared, .pushed (.error (.orphan "#b#hub"))] := by
  have h : ∀ sender, parted.filter (Act.isAbout sender) =
      mingled.filter (Act.isAbout sender) := by
    intro sender
    by_cases ha : "#a#hub" = sender
    · subst ha
      decide
    · by_cases hb : "#b#hub" = sender
      · subst hb
        decide
      · simp [parted, mingled, Act.isAbout, ha, hb]
  obtain ⟨hanswers, -⟩ := (senders_are_independent mingled).2 parted h
  exact ⟨h, (hanswers "#a#hub").trans (by decide),
    (hanswers "#b#hub").trans (by decide)⟩

end Assemblies

end Courier
