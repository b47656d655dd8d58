import Courier.Proofs.Assembly.Transmission

/-!
# What a history leaves open

What a sender has open can be read off the acts that were done, without
following the table: it was begun by the latest first piece of the sender's
that named a topic, it has grown by the sender's middle pieces since, and
nothing has closed it since. `LeftOpen` says this of a list of acts.

An act can be looked at from both sides. `get?_act` says what it does to the
entry of a sender, and `leftOpen_concat` what it does to the history of one,
in the same words; so table and history agree after any acts, by induction on
the last of them. What a sender is answered next is then decided by its
history too (`history_decides`).
-/

namespace Courier

/-- The message with more bytes at the end of its text. -/
def Assembly.extend (m : Assembly) (more : Bytes) : Assembly :=
  { m with text := m.text ++ more }

namespace Assemblies

variable {sender : String} {a : Assemblies} {acts : List Act} {d : Act}
  {payload : Bytes} {begun assembly : Assembly}

/-- The bytes before the first tab of the payload are the topic of a message,
and those behind it are what there is of its text. -/
def Begins (payload : Bytes) (begun : Assembly) : Prop :=
  ∃ header, payload = header ++ Message.tab :: begun.text ∧
    Message.tab ∉ header ∧ header.text? = some begun.topic

theorem begins_iff : Begins payload begun ↔ begin? payload = .ok begun := by
  rw [begin?_eq_ok_iff, Begins]
  simp only [Message.split_eq_ok_iff, and_assoc]

theorem exists_begins_iff :
    (∃ begun, Begins payload begun) ↔ Message.NamesTopic payload := by
  simp only [begins_iff, begin?_isOk_iff]

/-! ## Histories -/

/-- Does the act begin a message of the sender's? -/
def Act.opens (sender : String) : Act → Bool
  | .push arrival => arrival.sender = sender && arrival.piece = .first &&
      Message.NamesTopic arrival.payload
  | _ => false

/-- Does the act leave nothing of the sender's open? -/
def Act.closes (sender : String) : Act → Bool
  | .push arrival => arrival.sender = sender && (arrival.piece = .last ||
      arrival.piece = .first && !Message.NamesTopic arrival.payload)
  | .discard s => s = sender
  | .clear => true

/-- The bytes that the act adds to what the sender has open. -/
def Act.added (sender : String) : Act → Bytes
  | .push arrival =>
    if arrival.sender = sender ∧ arrival.piece = .middle then
      arrival.payload
    else
      []
  | _ => []

/-- The acts leave a message of the sender's open: the latest that was begun,
with the bytes that were added since, if nothing has closed it since. -/
def LeftOpen (sender : String) (acts : List Act) (assembly : Assembly) : Prop :=
  ∃ before payload begun since,
    acts = before ++ .push { sender, piece := .first, payload } :: since ∧
    Begins payload begun ∧
    (∀ d ∈ since, d.opens sender = false ∧ d.closes sender = false) ∧
    begun.extend (since.flatMap (Act.added sender)) = assembly

theorem opens_iff : d.opens sender = true ↔
    ∃ payload begun, d = .push { sender, piece := .first, payload } ∧
      Begins payload begun := by
  constructor
  · intro h
    cases d with
    | push arrival =>
        obtain ⟨s, piece, payload⟩ := arrival
        simp only [Act.opens, Bool.and_eq_true, decide_eq_true_eq] at h
        obtain ⟨⟨rfl, rfl⟩, hnames⟩ := h
        obtain ⟨begun, hbegun⟩ := exists_begins_iff.mpr hnames
        exact ⟨payload, begun, rfl, hbegun⟩
    | discard s => cases h
    | clear => cases h
  · rintro ⟨payload, begun, rfl, hbegun⟩
    simp [Act.opens, exists_begins_iff.mp ⟨begun, hbegun⟩]

/-- What one more act makes of what was left open. -/
def Next (sender : String) (d : Act) (before : Assembly → Prop)
    (after : Assembly) : Prop :=
  (∃ payload, d = .push { sender, piece := .first, payload } ∧
      Begins payload after) ∨
    d.opens sender = false ∧ d.closes sender = false ∧
      ∃ old, before old ∧ old.extend (d.added sender) = after

theorem leftOpen_concat :
    LeftOpen sender (acts ++ [d]) assembly ↔
      Next sender d (LeftOpen sender acts) assembly := by
  constructor
  · rintro ⟨before, payload, begun, since, hacts, hbegun, hsince, rfl⟩
    obtain rfl | ⟨since, d', rfl⟩ := since.eq_nil_or_concat
    · obtain ⟨-, hd⟩ := List.append_inj' hacts rfl
      refine .inl ⟨payload, List.singleton_inj.mp hd, ?_⟩
      simpa [Assembly.extend] using hbegun
    · rw [List.concat_eq_append, ← List.cons_append, ← List.append_assoc]
        at hacts
      obtain ⟨rfl, hd⟩ := List.append_inj' hacts rfl
      obtain rfl := List.singleton_inj.mp hd
      obtain ⟨hopens, hcloses⟩ := hsince d (by simp)
      refine .inr ⟨hopens, hcloses,
        begun.extend (since.flatMap (Act.added sender)),
        ⟨before, payload, begun, since, rfl, hbegun, fun d' hd' => ?_, rfl⟩, ?_⟩
      · exact hsince d' (by simp [hd'])
      · simp [Assembly.extend]
  · rintro (⟨payload, rfl, hbegun⟩ | ⟨hopens, hcloses, old, hold, rfl⟩)
    · refine ⟨acts, payload, assembly, [], rfl, hbegun, by simp, ?_⟩
      simp [Assembly.extend]
    · obtain ⟨before, payload, begun, since, rfl, hbegun, hsince, rfl⟩ := hold
      refine ⟨before, payload, begun, since ++ [d], by simp, hbegun,
        fun d' hd' => ?_, ?_⟩
      · rcases List.mem_append.mp hd' with hd' | hd'
        · exact hsince d' hd'
        · obtain rfl := List.mem_singleton.mp hd'
          exact ⟨hopens, hcloses⟩
      · simp [Assembly.extend]

theorem not_leftOpen_nil : ¬ LeftOpen sender [] assembly := by
  rintro ⟨before, payload, begun, since, hacts, -⟩
  simp at hacts

/-! ## The table -/

theorem act_last_open (h : a.get? sender = some assembly) :
    (act (.push { sender, piece := .last, payload })).run a =
      (.pushed (match (assembly.text ++ payload).text? with
        | some text => .ok (some { topic := assembly.topic, text })
        | none => .error (.undecodable sender .notText)),
        a.discard sender) := by
  show (Answer.pushed (a.pushLast sender payload).result,
    (a.pushLast sender payload).assemblies) = _
  simp only [pushLast, h, Message.readText]
  cases (assembly.text ++ payload).text? <;> rfl

theorem get?_after_last :
    ((act (.push { sender, piece := .last, payload })).run a).2.get? sender =
      none := by
  cases h : a.get? sender with
  | none =>
      rw [act_last_orphan h]
      exact h
  | some assembly =>
      rw [act_last_open h, get?_discard, if_pos rfl]

/-- A first piece that names no topic is refused, and closes what is open. -/
theorem act_first_nameless (hnames : ¬ Message.NamesTopic payload) :
    ((act (.push { sender, piece := .first, payload })).run a).2.get? sender =
        none ∧
      ∃ cause, ((act (.push { sender, piece := .first, payload })).run a).1 =
        .pushed (.error (.undecodable sender cause)) := by
  cases hbegin : begin? payload with
  | ok begun => exact absurd (begin?_isOk_iff.mp ⟨begun, hbegin⟩) hnames
  | error cause =>
      rw [act_first_error (b := a) hbegin]
      refine ⟨by rw [get?_discard, if_pos rfl], cause, ?_⟩
      rw [whole, push, ofPayload_of_begin?_error hbegin]

theorem get?_act_of_closes (h : d.closes sender = true) :
    ((act d).run a).2.get? sender = none := by
  cases d with
  | push arrival =>
      obtain ⟨s, piece, payload⟩ := arrival
      simp only [Act.closes, Bool.and_eq_true, Bool.or_eq_true,
        decide_eq_true_eq, Bool.not_eq_true', decide_eq_false_iff_not] at h
      obtain ⟨rfl, rfl | ⟨rfl, hnames⟩⟩ := h
      · exact get?_after_last
      · exact (act_first_nameless hnames).1
  | discard s =>
      obtain rfl : s = sender := by simpa [Act.closes] using h
      show (a.discard s).get? s = none
      rw [get?_discard, if_pos rfl]
  | clear => rfl

/-- An act that neither begins nor closes adds its bytes, if it has any. -/
theorem get?_act_of_added (hopens : d.opens sender = false)
    (hcloses : d.closes sender = false) :
    ((act d).run a).2.get? sender =
      (a.get? sender).map (·.extend (d.added sender)) := by
  have hnothing : d.added sender = [] → d.concerns sender = false →
      ((act d).run a).2.get? sender =
        (a.get? sender).map (·.extend (d.added sender)) := by
    intro hadded hconcerns
    rw [get?_act_of_not_concerns hconcerns, hadded]
    cases a.get? sender <;> simp [Assembly.extend]
  cases d with
  | push arrival =>
      obtain ⟨s, piece, payload⟩ := arrival
      by_cases hs : s = sender
      · subst hs
        cases piece with
        | single => exact hnothing (by simp [Act.added]) (by simp [Act.concerns])
        | first => simp_all [Act.opens, Act.closes]
        | middle =>
            cases h : a.get? s with
            | none =>
                rw [act_middle_orphan h]
                exact h
            | some assembly =>
                rw [act_middle h, get?_insert, if_pos rfl]
                simp [Act.added, Assembly.extend]
        | last => simp [Act.closes] at hcloses
      · exact hnothing (by simp [Act.added, hs]) (by simp [Act.concerns, hs])
  | discard s =>
      exact hnothing rfl (by simpa [Act.concerns, Act.closes] using hcloses)
  | clear => cases hcloses

theorem get?_act :
    ((act d).run a).2.get? sender = some assembly ↔
      Next sender d (fun old => a.get? sender = some old) assembly := by
  cases hopens : d.opens sender with
  | true =>
      obtain ⟨payload, begun, rfl, hbegun⟩ := opens_iff.mp hopens
      rw [begins_iff] at hbegun
      rw [act_first_ok hbegun, get?_insert, if_pos rfl]
      simp [Next, hopens, begins_iff, hbegun]
  | false =>
      have hnot : ¬ ∃ payload, d = .push { sender, piece := .first, payload } ∧
          Begins payload assembly := by
        rintro ⟨payload, rfl, hbegun⟩
        rw [opens_iff.mpr ⟨payload, assembly, rfl, hbegun⟩] at hopens
        cases hopens
      cases hcloses : d.closes sender with
      | true =>
          rw [get?_act_of_closes hcloses]
          simp [Next, hnot, hcloses]
      | false =>
          rw [get?_act_of_added hopens hcloses]
          simp [Next, hnot, hopens, hcloses]

theorem get?_iff_leftOpen (acts : List Act) (sender : String)
    (assembly : Assembly) :
    (Run.of act empty acts).state.get? sender = some assembly ↔
      LeftOpen sender acts assembly := by
  induction acts using List.reverseRecOn generalizing assembly with
  | nil => exact iff_of_false nofun not_leftOpen_nil
  | append_singleton acts d ih =>
      rw [Run.of_concat, leftOpen_concat]
      refine get?_act.trans ?_
      simp only [Next, ih]

/-! ## What is answered next -/

theorem not_open_iff :
    (¬ ∃ assembly, LeftOpen sender acts assembly) ↔
      (Run.of act empty acts).state.get? sender = none := by
  simp only [← get?_iff_leftOpen, Option.eq_none_iff_forall_ne_some,
    not_exists, Ne]

theorem answer_orphaned_iff {piece : Piece}
    (hpiece : piece = .middle ∨ piece = .last) :
    ((act (.push { sender, piece, payload })).run a).1 = orphaned sender ↔
      a.get? sender = none := by
  cases h : a.get? sender with
  | none =>
      obtain rfl | rfl := hpiece
      · simp [act_middle_orphan h]
      · simp [act_last_orphan h]
  | some assembly =>
      obtain rfl | rfl := hpiece
      · simp [act_middle h, orphaned]
      · rw [act_last_open h, orphaned]
        cases (assembly.text ++ payload).text? <;> simp

theorem answer_restarted_iff {discarded : Nat} (hbegun : Begins payload begun) :
    ((act (.push { sender, piece := .first, payload })).run a).1 =
        .pushed (.error (.restarted sender discarded)) ↔
      ∃ stale, a.get? sender = some stale ∧ stale.text.length = discarded := by
  rw [act_first_ok (begins_iff.mp hbegun), opening]
  cases a.get? sender <;> simp

theorem Begins.tab_not_mem (hbegun : Begins payload begun) :
    '\t' ∉ begun.topic.toList := by
  obtain ⟨header, -, htab, htopic⟩ := hbegun
  rwa [Bytes.eq_ofText_of_text? htopic, Message.tab_mem_ofText] at htab

/-- A payload that is a message names its topic. -/
theorem exists_begins_of_ofPayload {m : Message}
    (h : Message.ofPayload payload = .ok m) :
    ∃ begun, Begins payload begun ∧ begun.topic = m.topic := by
  cases hbegin : begin? payload with
  | error cause =>
      rw [ofPayload_of_begin?_error hbegin] at h
      cases h
  | ok begun =>
      refine ⟨begun, begins_iff.mpr hbegin, ?_⟩
      have hwhole := ofPayload_of_begin? hbegin []
      rw [List.append_nil, h] at hwhole
      cases htext : Message.readText (begun.text ++ []) with
      | error cause =>
          rw [htext] at hwhole
          cases hwhole
      | ok text =>
          rw [htext] at hwhole
          cases hwhole
          rfl

/-- A message that is handed out has a topic that a payload named: its own, or
the one that began what was open. -/
theorem topic_of_answer {piece : Piece} {m : Message}
    (h : ((act (.push { sender, piece, payload })).run a).1 =
      .pushed (.ok (some m))) :
    (∃ begun, Begins payload begun ∧ begun.topic = m.topic) ∨
      ∃ assembly, a.get? sender = some assembly ∧ assembly.topic = m.topic := by
  cases piece with
  | single =>
      refine .inl (exists_begins_of_ofPayload ?_)
      replace h := Answer.pushed.inj h
      simp only [push] at h
      split at h
      · next hm => simp_all
      · cases h
  | first =>
      cases hbegin : begin? payload with
      | error cause =>
          rw [act_first_error (b := a) hbegin, whole, push,
            ofPayload_of_begin?_error hbegin] at h
          cases h
      | ok begun =>
          rw [act_first_ok hbegin, opening] at h
          split at h <;> cases h
  | middle =>
      cases hopen : a.get? sender with
      | none =>
          rw [act_middle_orphan hopen] at h
          cases h
      | some assembly =>
          rw [act_middle hopen] at h
          cases h
  | last =>
      cases hopen : a.get? sender with
      | none =>
          rw [act_last_orphan hopen] at h
          cases h
      | some assembly =>
          rw [act_last_open hopen] at h
          refine .inr ⟨assembly, rfl, ?_⟩
          split at h <;> cases h
          rfl

theorem LeftOpen.tab_not_mem (h : LeftOpen sender acts assembly) :
    '\t' ∉ assembly.topic.toList := by
  obtain ⟨before, payload, begun, since, -, hbegun, -, rfl⟩ := h
  exact hbegun.tab_not_mem

theorem exists_pending (a : Assemblies) :
    ∃ senders : List String, senders.Nodup ∧
      (∀ s, s ∈ senders ↔ ∃ assembly, a.get? s = some assembly) ∧
      a.pending = senders.length := by
  refine ⟨a.bySender.keys, Std.ExtTreeMap.nodup_keys, fun s => ?_,
    Std.ExtTreeMap.length_keys.symm⟩
  rw [Std.ExtTreeMap.mem_keys, Std.ExtTreeMap.mem_iff_isSome_getElem?,
    Option.isSome_iff_exists]
  rfl

/-- What a sender has open is what its history leaves open, and by this it is
answered. A piece that continues is an orphan if nothing is open; a first piece
that names a topic gives up what is open, and says how much, and opens its own;
one that names none is refused and leaves nothing open; a last piece closes
what is open even if this is no text; and a complete message neither looks at
the table nor changes it. No message that is handed out has a tab in its
topic. -/
theorem history_decides (acts : List Act) (sender : String) :
    let run := Run.of act empty acts
    let push := fun piece payload =>
      run.moment act (.push { sender, piece, payload })
    (∀ assembly, run.state.get? sender = some assembly ↔
      LeftOpen sender acts assembly) ∧
    (∀ piece payload, piece = .middle ∨ piece = .last →
      ((push piece payload).answer = orphaned sender ↔
        ¬ ∃ assembly, LeftOpen sender acts assembly)) ∧
    (∀ payload begun, Begins payload begun →
      (push .first payload).after.get? sender = some begun ∧
        ∀ discarded, (push .first payload).answer =
            .pushed (.error (.restarted sender discarded)) ↔
          ∃ stale, LeftOpen sender acts stale ∧
            stale.text.length = discarded) ∧
    (∀ payload, ¬ Message.NamesTopic payload →
      (push .first payload).after.get? sender = none ∧
        ∃ cause, (push .first payload).answer =
          .pushed (.error (.undecodable sender cause))) ∧
    (∀ payload, (push .last payload).after.get? sender = none ∧
      ∀ assembly, LeftOpen sender acts assembly →
        (push .last payload).answer =
          .pushed (match (assembly.text ++ payload).text? with
            | some text => .ok (some { topic := assembly.topic, text })
            | none => .error (.undecodable sender .notText))) ∧
    (∀ payload b, (push .single payload).after = run.state ∧
      (push .single payload).answer = whole b sender payload) ∧
    (∀ piece payload m, (push piece payload).answer = .pushed (.ok (some m)) →
      '\t' ∉ m.topic.toList) ∧
    ∃ senders : List String, senders.Nodup ∧
      (∀ s, s ∈ senders ↔ ∃ assembly, LeftOpen s acts assembly) ∧
      run.state.pending = senders.length := by
  intro run push
  have hopen := get?_iff_leftOpen acts
  refine ⟨hopen sender, fun piece payload hpiece => ?_,
    fun payload begun hbegun => ⟨?_, fun discarded => ?_⟩,
    fun payload hnames => act_first_nameless hnames,
    fun payload => ⟨get?_after_last, fun assembly h => ?_⟩,
    fun payload b => ⟨rfl, rfl⟩, fun piece payload m h => ?_, ?_⟩
  · rw [not_open_iff]
    exact answer_orphaned_iff hpiece
  · exact get?_act.mpr (.inl ⟨payload, rfl, hbegun⟩)
  · simp only [← hopen]
    exact answer_restarted_iff hbegun
  · exact congrArg Prod.fst (act_last_open ((hopen sender assembly).mpr h))
  · obtain ⟨begun, hbegun, htopic⟩ | ⟨assembly, hassembly, htopic⟩ :=
      topic_of_answer h
    · exact htopic ▸ hbegun.tab_not_mem
    · exact htopic ▸ ((hopen sender assembly).mp hassembly).tab_not_mem
  · simp only [← hopen]
    exact exists_pending run.state

/-- A message that grows by half a character, after an orphan and a beginning
that named no topic, and while others send. -/
def halfway : List Act :=
  [.push { sender := "#a#hub", piece := .middle, payload := [120] },
    .push { sender := "#a#hub", piece := .first, payload := [83, 9] },
    .push { sender := "#a#hub", piece := .first, payload := [120] },
    .push { sender := "#a#hub", piece := .first, payload := [84, 9, 97] },
    .push { sender := "#b#hub", piece := .last, payload := [120] },
    .push { sender := "#a#hub", piece := .single, payload := [255, 9] },
    .discard "#b#hub",
    .push { sender := "#a#hub", piece := .middle, payload := [195] }]

theorem history_decides_halfway :
    let push := fun piece payload => (Run.of act empty halfway).moment act
      (.push { sender := "#a#hub", piece, payload })
    LeftOpen "#a#hub" halfway { topic := "T", text := [97, 195] } ∧
      (push .middle []).answer ≠ orphaned "#a#hub" ∧
      (push .first [78, 9, 110]).answer =
        .pushed (.error (.restarted "#a#hub" 2)) ∧
      (push .first [255, 9]).after.get? "#a#hub" = none ∧
      (push .last [164]).answer =
        .pushed (.ok (some { topic := "T", text := "aä" })) ∧
      '\t' ∉ "T".toList ∧
      (push .last []).answer =
        .pushed (.error (.undecodable "#a#hub" .notText)) := by
  intro push
  obtain ⟨hopen, horphan, hfirst, hmalformed, hlast, -, htopic, -⟩ :=
    history_decides halfway "#a#hub"
  have h : LeftOpen "#a#hub" halfway { topic := "T", text := [97, 195] } :=
    (hopen _).mp (by decide)
  have hmessage := (hlast [164]).2 _ h
  refine ⟨h, fun hno => (horphan .middle [] (.inl rfl)).mp hno ⟨_, h⟩, ?_,
    (hmalformed [255, 9] (by decide)).1, hmessage.trans (by decide),
    htopic .last [164] { topic := "T", text := "aä" } (hmessage.trans (by decide)),
    ((hlast []).2 _ h).trans (by decide)⟩
  have hbegun : Begins [78, 9, 110] { topic := "N", text := [110] } :=
    ⟨[78], rfl, by decide, by decide⟩
  exact ((hfirst _ _ hbegun).2 2).mpr ⟨_, h, rfl⟩

end Assemblies

end Courier
