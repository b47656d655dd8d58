import Courier.Json.Forms
import Courier.Proofs.Letter.RoundTrip

/-!
# Where the name of the body can be an attribute

The body of a letter travels under a reserved name. Writing an attribute of
that name, by hand or off a frame, writes the body instead, so no letter that
is built or received has such an attribute, and each is sent with one frame of
that name, its first.

A letter that is read from a JSON form is not built that way. The attributes
of the form are taken as they stand, and one under the reserved name stays
until it is erased or the whole letter is replaced. Such a letter is sent with
two frames for its body. The main theorem says that this is the only way: what
a form under that name has put there, and nothing has cleared since.
-/

namespace Courier.Letter

inductive Act where
  | start (topic : String)
  | write (body : String)
  | set (name value : String)
  | erase (name : String)
  | receive (m : Message)
  | load (json : String)

/-- The letter after an act. What cannot be read leaves the letter there was. -/
def Act.apply (l : Letter) : Act → Letter
  | start topic => { topic }
  | write body => { l with body }
  | set name value => l.set name value
  | erase name => l.erase name
  | receive m => (ofMessage m).toOption.getD l
  | load json => (ofJson? json).getD l

/-- An empty letter after acts, the oldest first. -/
def made (topic : String) (acts : List Act) : Letter :=
  acts.foldl Act.apply { topic }

/-- The names that a form writes among its attributes. -/
def writtenNames (json : String) : List String :=
  match (Json.parse? json).bind (·.fields? ["msg_type", "body", "attrs"]) with
  | some [_, _, attributes] => (attributes.members?.getD []).map Prod.fst
  | _ => []

/-- Nothing of the attributes is left, or nothing under the name of the
body. -/
def Act.Clears : Act → Prop
  | start _ => True
  | erase name => name = bodyName
  | receive m => (ofMessage m).toOption.isSome
  | load json => (ofJson? json).isSome
  | write _ | set _ _ => False

/-- A form that writes the name of the body among its attributes is read. -/
def Act.NamesBody : Act → Prop
  | load json => (ofJson? json).isSome ∧ bodyName ∈ writtenNames json
  | start _ | write _ | set _ _ | erase _ | receive _ => False

/-- An act has named the body among the attributes, and none has cleared that
since. -/
def BodyNamed (acts : List Act) : Prop :=
  ∃ past act later, acts = past ++ act :: later ∧ act.NamesBody ∧
    ∀ act ∈ later, ¬ act.Clears

variable {l : Letter} {topic name json : String} {acts : List Act}

/-! ## What a form writes -/

theorem map_of_mapM {α β γ : Type} {f : α → Option β} {g : β → γ} {h : α → γ}
    (hf : ∀ x y, f x = some y → g y = h x) {xs : List α} {ys : List β}
    (hxs : xs.mapM f = some ys) : ys.map g = xs.map h := by
  induction xs generalizing ys with
  | nil =>
      obtain rfl : ys = [] := by simpa using hxs.symm
      rfl
  | cons x xs ih =>
      rw [List.mapM_cons] at hxs
      obtain ⟨y, hy, hxs⟩ := Option.bind_eq_some_iff.mp hxs
      obtain ⟨rest, hrest, hxs⟩ := Option.bind_eq_some_iff.mp hxs
      obtain rfl : y :: rest = ys := Option.some.inj hxs
      rw [List.map_cons, List.map_cons, hf x y hy, ih hrest]

theorem mem_foldl_insert (pairs : List (String × String)) (a : Attributes) :
    name ∈ pairs.foldl (fun a (name, v) => a.insert name v) a ↔
      name ∈ pairs.map Prod.fst ∨ name ∈ a := by
  induction pairs generalizing a with
  | nil => simp
  | cons pair pairs ih =>
      rw [List.foldl_cons, ih, Std.ExtTreeMap.mem_insert,
        Std.LawfulEqCmp.compare_eq_iff_eq, List.map_cons, List.mem_cons,
        eq_comm, or_left_comm, or_assoc]

theorem mem_attributes_of_ofJson? {v : Json.Value} {a : Attributes}
    (h : Attributes.ofJson? v = some a) :
    name ∈ a ↔ name ∈ (v.members?.getD []).map Prod.fst := by
  obtain ⟨members, hmembers, h⟩ := Option.bind_eq_some_iff.mp h
  obtain ⟨pairs, hpairs, h⟩ := Option.bind_eq_some_iff.mp h
  obtain rfl := Option.some.inj h
  have hnames : pairs.map Prod.fst = members.map Prod.fst := by
    refine map_of_mapM (fun m pair hpair => ?_) hpairs
    obtain ⟨value, -, rfl⟩ := Option.map_eq_some_iff.mp hpair
    rfl
  rw [mem_foldl_insert, hnames, hmembers]
  simp

theorem mem_attributes_of_form (h : ofJson? json = some l) :
    name ∈ l.attributes ↔ name ∈ writtenNames json := by
  obtain ⟨v, hv, h⟩ := Option.bind_eq_some_iff.mp h
  obtain ⟨fields, hfields, h⟩ := Option.bind_eq_some_iff.mp h
  rw [writtenNames, hv, Option.bind_some, hfields]
  split at h
  · next topic body attributes =>
      obtain ⟨topic, -, h⟩ := Option.bind_eq_some_iff.mp h
      obtain ⟨body, -, h⟩ := Option.bind_eq_some_iff.mp h
      obtain ⟨a, ha, h⟩ := Option.bind_eq_some_iff.mp h
      obtain rfl := Option.some.inj h
      exact mem_attributes_of_ofJson? ha
  · cases h

/-! ## One act, and all of them -/

theorem bodyName_notMem_ofMessage {m : Message} (h : ofMessage m = .ok l) :
    bodyName ∉ l.attributes := by
  rw [ofMessage] at h
  cases hframes : Frame.decode m.text with
  | error e => rw [hframes] at h; cases h
  | ok frames =>
      rw [hframes] at h
      obtain rfl : ofFrames m.topic frames = l := Except.ok.inj h
      exact bodyName_notMem_ofFrames

/-- After an act the name of the body is an attribute if the act has made it
one, or if it was one and the act has not cleared it. -/
theorem bodyName_mem_apply (act : Act) :
    bodyName ∈ (act.apply l).attributes ↔
      act.NamesBody ∨ ¬ act.Clears ∧ bodyName ∈ l.attributes := by
  cases act with
  | start topic =>
      show bodyName ∈ (∅ : Attributes) ↔ _
      simp [Act.NamesBody, Act.Clears]
  | write body => simp [Act.NamesBody, Act.Clears, Act.apply]
  | set name value =>
      rw [Act.apply, mem_attributes_iff, get?_set, if_neg (by simp),
        ← mem_attributes_iff]
      simp [Act.NamesBody, Act.Clears]
  | erase name =>
      show bodyName ∈ l.attributes.erase name ↔ _
      rw [Std.ExtTreeMap.mem_erase, ne_eq, Std.LawfulEqCmp.compare_eq_iff_eq]
      simp [Act.NamesBody, Act.Clears]
  | receive m =>
      rw [Act.apply, Act.NamesBody, Act.Clears, false_or]
      cases hm : ofMessage m with
      | error e => simp [Except.toOption]
      | ok r => simp [Except.toOption, bodyName_notMem_ofMessage hm]
  | load json =>
      rw [Act.apply, Act.NamesBody, Act.Clears]
      cases hjson : ofJson? json with
      | none => simp
      | some r => simp [mem_attributes_of_form hjson]

theorem bodyNamed_concat (act : Act) :
    BodyNamed (acts ++ [act]) ↔
      act.NamesBody ∨ ¬ act.Clears ∧ BodyNamed acts := by
  constructor
  · rintro ⟨past, act', later, hacts, hnames, hlater⟩
    rcases List.eq_nil_or_concat later with rfl | ⟨later, last, rfl⟩
    · obtain ⟨-, hact⟩ := List.append_inj' hacts rfl
      obtain rfl : act = act' := (List.cons.inj hact).1
      exact .inl hnames
    · rw [List.concat_eq_append, ← List.cons_append, ← List.append_assoc] at hacts
      obtain ⟨rfl, hact⟩ := List.append_inj' hacts rfl
      obtain rfl : act = last := (List.cons.inj hact).1
      rw [List.concat_eq_append, List.forall_mem_append] at hlater
      exact .inr ⟨hlater.2 act (List.mem_singleton_self act),
        past, act', later, rfl, hnames, hlater.1⟩
  · rintro (hnames | ⟨hkeeps, past, act', later, rfl, hnames, hlater⟩)
    · exact ⟨acts, act, [], rfl, hnames, by simp⟩
    · refine ⟨past, act', later ++ [act], by simp, hnames, ?_⟩
      rw [List.forall_mem_append, List.forall_mem_singleton]
      exact ⟨hlater, hkeeps⟩

theorem bodyName_mem_made :
    bodyName ∈ (made topic acts).attributes ↔ BodyNamed acts := by
  induction acts using List.reverseRecOn with
  | nil =>
      show bodyName ∈ (∅ : Attributes) ↔ _
      simp [BodyNamed]
  | append_singleton acts act ih =>
      rw [bodyNamed_concat, ← ih, ← bodyName_mem_apply, made, List.foldl_append]
      rfl

/-! ## What is sent -/

/-- Of all frames of a letter, those under the name of the body are the body,
and an attribute of that name. -/
theorem filter_frames (l : Letter) :
    l.frames.filter (fun f => f.name = bodyName) =
      ⟨bodyName, l.body⟩ :: (l.get? bodyName).toList.map (⟨bodyName, ·⟩) := by
  rw [frames, List.filter_cons_of_pos (by simp), filter_attributes]

/-- The name of the body is among the attributes of a letter if and only if a
form that was read has put it there and nothing has cleared it since. Without
that it can be looked up in vain, and the first frame of the letter is the only
one of that name; with it the letter has two such frames. -/
theorem body_named_only_by_forms (topic : String) (acts : List Act) :
    let l := made topic acts
    (bodyName ∈ l.attributes ↔ BodyNamed acts) ∧
      l.toMessage = ⟨l.topic, Frame.encode l.frames⟩ ∧
      l.frames.head? = some ⟨bodyName, l.body⟩ ∧
      (¬ BodyNamed acts → l.get? bodyName = none ∧
        l.frames.filter (fun f => f.name = bodyName) = [⟨bodyName, l.body⟩]) ∧
      (BodyNamed acts → ∃ value, l.get? bodyName = some value ∧
        l.frames.filter (fun f => f.name = bodyName) =
          [⟨bodyName, l.body⟩, ⟨bodyName, value⟩]) := by
  intro l
  have hmem : bodyName ∈ l.attributes ↔ BodyNamed acts := bodyName_mem_made
  refine ⟨hmem, rfl, rfl, fun hnot => ?_, fun hnamed => ?_⟩
  · rw [← hmem, mem_attributes_iff, not_not] at hnot
    rw [filter_frames, hnot]
    exact ⟨rfl, rfl⟩
  · rw [← hmem, mem_attributes_iff] at hnamed
    obtain ⟨value, hvalue⟩ := Option.ne_none_iff_exists'.mp hnamed
    rw [filter_frames, hvalue]
    exact ⟨value, rfl, rfl⟩

/-- A form with the name of the body among its attributes. -/
theorem form_names_body :
    let l := made "T" [.load
      "\x7b\"msg_type\":\"T\",\"body\":\"x\",\"attrs\":\x7b\"m_body\":\"x\"\x7d\x7d"]
    bodyName ∈ l.attributes ∧ l.get? bodyName = some "x" ∧
      l.toMessage = ⟨"T", "[11 (m_body x)\n][11 (m_body x)\n]"⟩ := by
  decide +kernel

end Courier.Letter
