import Courier.Proofs.Assembly.Acts
import Courier.Proofs.Payload

/-!
# A message in pieces is the message as a whole

A sender may send one payload as a first piece, any number of middle pieces
and a last one, cut anywhere. The receiver reads the topic when the first
piece comes and the text when the last one does, and by then other senders
have sent, this sender has sent complete messages, and others have been
discarded. `pieces_agree_with_whole` says that none of this shows: what the
last piece completes is what the payload would have given in one.

The other acts are taken out of the run first, by `answers_filter`. What is
left is the transmission alone, and it is followed piece by piece: while
something is open, its text grows by the bytes of each piece, and the last
piece closes it whether or not the text can be read.
-/

namespace Courier

namespace Assemblies

variable {sender : String} {a b : Assemblies}

/-- What a sender does who sends a payload in pieces. -/
def transmission (sender : String) (first : Bytes) (middles : List Bytes)
    (last : Bytes) : List Act :=
  .push { sender, piece := .first, payload := first } ::
    middles.map (fun payload => .push { sender, piece := .middle, payload }) ++
    [.push { sender, piece := .last, payload := last }]

/-- The answer to a first piece that names a topic. -/
def opening (a : Assemblies) (sender : String) : Answer :=
  match a.get? sender with
  | some stale => .pushed (.error (.restarted sender stale.text.length))
  | none => .pushed (.ok none)

/-- The answer to a piece that has nothing to continue. -/
def orphaned (sender : String) : Answer :=
  .pushed (.error (.orphan sender))

/-- The answer to a payload that comes in one. -/
def whole (b : Assemblies) (sender : String) (payload : Bytes) : Answer :=
  .pushed (b.push { sender, piece := .single, payload }).result

/-! ## Piece by piece -/

theorem act_first_ok {payload : Bytes} {assembly : Assembly}
    (h : begin? payload = .ok assembly) :
    (act (.push { sender, piece := .first, payload })).run a =
      (a.opening sender, a.insert sender assembly) := by
  show (Answer.pushed (a.pushFirst sender payload).result,
    (a.pushFirst sender payload).assemblies) = _
  simp only [pushFirst, h, opening]
  cases a.get? sender <;> rfl

theorem act_first_error {payload : Bytes} {cause : FormatError}
    (h : begin? payload = .error cause) :
    (act (.push { sender, piece := .first, payload })).run a =
      (b.whole sender payload, a.discard sender) := by
  show (Answer.pushed (a.pushFirst sender payload).result,
    (a.pushFirst sender payload).assemblies) = _
  simp only [pushFirst, h, whole, push, ofPayload_of_begin?_error h]

theorem act_middle {payload : Bytes} {assembly : Assembly}
    (h : a.get? sender = some assembly) :
    (act (.push { sender, piece := .middle, payload })).run a =
      (.pushed (.ok none),
        a.insert sender { assembly with text := assembly.text ++ payload }) := by
  show (Answer.pushed (a.pushMiddle sender payload).result,
    (a.pushMiddle sender payload).assemblies) = _
  simp only [pushMiddle, h]

theorem act_middle_orphan {payload : Bytes} (h : a.get? sender = none) :
    (act (.push { sender, piece := .middle, payload })).run a =
      (orphaned sender, a) := by
  show (Answer.pushed (a.pushMiddle sender payload).result,
    (a.pushMiddle sender payload).assemblies) = _
  simp only [pushMiddle, h, orphaned]

theorem act_last_orphan {payload : Bytes} (h : a.get? sender = none) :
    (act (.push { sender, piece := .last, payload })).run a =
      (orphaned sender, a) := by
  show (Answer.pushed (a.pushLast sender payload).result,
    (a.pushLast sender payload).assemblies) = _
  simp only [pushLast, h, orphaned]

theorem act_last {first more payload : Bytes} {assembly : Assembly}
    (hbegin : begin? first = .ok assembly)
    (h : a.get? sender =
      some { assembly with text := assembly.text ++ more }) :
    (act (.push { sender, piece := .last, payload })).run a =
      (b.whole sender (first ++ more ++ payload), a.discard sender) := by
  have hwhole := ofPayload_of_begin? hbegin (more ++ payload)
  rw [← List.append_assoc, ← List.append_assoc] at hwhole
  show (Answer.pushed (a.pushLast sender payload).result,
    (a.pushLast sender payload).assemblies) = _
  simp only [pushLast, h, whole, push, hwhole]
  cases Message.readText (assembly.text ++ more ++ payload) <;> rfl

/-! ## The pieces together -/

theorem concerns_push {piece : Piece} {payload : Bytes} (h : piece ≠ .single) :
    (Act.push { sender, piece, payload }).concerns sender = true := by
  simp [Act.concerns, h]

theorem run_middles (a : Assemblies) (sender : String) {first : Bytes}
    {assembly : Assembly} (h : begin? first = .ok assembly) (middles : List Bytes) :
    let run := Run.of act a
      (.push { sender, piece := .first, payload := first } ::
        middles.map fun payload => .push { sender, piece := .middle, payload })
    run.state.get? sender =
        some { assembly with text := assembly.text ++ middles.flatten } ∧
      run.answers (Act.concerns sender) =
        a.opening sender :: middles.map fun _ => .pushed (.ok none) := by
  induction middles using List.reverseRecOn with
  | nil =>
      simp only [List.map_nil, List.flatten_nil, List.append_nil]
      rw [← List.nil_append [_], Run.of_concat, Run.answers_take,
        concerns_push (by decide)]
      simp only [Run.take, Run.moment, Run.of_nil, act_first_ok h]
      exact ⟨by simp [get?_insert], by simp⟩
  | append_singleton middles payload ih =>
      obtain ⟨hopen, hanswers⟩ := ih
      simp only [List.map_append, List.map_cons, List.map_nil]
      rw [← List.cons_append, Run.of_concat, Run.answers_take,
        concerns_push (by decide), hanswers]
      simp only [Run.take, Run.moment, act_middle hopen]
      exact ⟨by simp [get?_insert], by simp⟩

theorem run_middles_orphan (a b : Assemblies) (sender : String) {first : Bytes}
    {cause : FormatError} (h : begin? first = .error cause)
    (middles : List Bytes) :
    let run := Run.of act a
      (.push { sender, piece := .first, payload := first } ::
        middles.map fun payload => .push { sender, piece := .middle, payload })
    run.state.get? sender = none ∧
      run.answers (Act.concerns sender) =
        b.whole sender first :: middles.map fun _ => orphaned sender := by
  induction middles using List.reverseRecOn with
  | nil =>
      simp only [List.map_nil]
      rw [← List.nil_append [_], Run.of_concat, Run.answers_take,
        concerns_push (by decide)]
      simp only [Run.take, Run.moment, Run.of_nil, act_first_error (b := b) h]
      exact ⟨by simp [get?_discard], by simp⟩
  | append_singleton middles payload ih =>
      obtain ⟨hnone, hanswers⟩ := ih
      simp only [List.map_append, List.map_cons, List.map_nil]
      rw [← List.cons_append, Run.of_concat, Run.answers_take,
        concerns_push (by decide), hanswers]
      simp only [Run.take, Run.moment, act_middle_orphan hnone]
      exact ⟨hnone, by simp⟩

/-- A payload sent in pieces is answered as the payload sent in one, whatever
the cuts and whatever is done in between that does not concern the sender. If
the first piece names no topic it is refused as it would be as a message, and
the others have nothing to continue. Nothing of the sender's stays open. -/
theorem pieces_agree_with_whole (a b : Assemblies) (sender : String)
    (first last : Bytes) (middles : List Bytes) (acts : List Act)
    (h : acts.filter (Act.concerns sender) =
      transmission sender first middles last) :
    let run := Run.of act a acts
    (Message.NamesTopic first →
      run.answers (Act.concerns sender) =
        a.opening sender :: middles.map (fun _ => .pushed (.ok none)) ++
          [b.whole sender (first ++ middles.flatten ++ last)]) ∧
    (¬ Message.NamesTopic first →
      (∃ cause, b.whole sender first =
        .pushed (.error (.undecodable sender cause))) ∧
      run.answers (Act.concerns sender) =
        b.whole sender first :: middles.map (fun _ => orphaned sender) ++
          [orphaned sender]) ∧
    run.state.get? sender = none := by
  have habout : ∀ d : Act, d.concerns sender = true → d.isAbout sender = true := by
    intro d hd
    cases d <;> simp_all [Act.concerns, Act.isAbout]
  obtain ⟨hanswers, hopen⟩ := answers_filter (fun _ => id) habout a acts
  simp only [hanswers, hopen, h, transmission]
  rw [Run.of_concat, Run.answers_take, concerns_push (by decide)]
  cases hbegin : begin? first with
  | ok assembly =>
      have hnames := begin?_isOk_iff.mp ⟨assembly, hbegin⟩
      obtain ⟨hstate, hmiddles⟩ := run_middles a sender hbegin middles
      rw [hmiddles]
      simp only [Run.take, Run.moment, act_last (b := b) hbegin hstate]
      refine ⟨fun _ => by simp, fun hnot => absurd hnames hnot, ?_⟩
      simp [get?_discard]
  | error cause =>
      have hnames : ¬ Message.NamesTopic first := fun hn => by
        obtain ⟨assembly, hok⟩ := begin?_isOk_iff.mpr hn
        rw [hbegin] at hok
        cases hok
      obtain ⟨hstate, hmiddles⟩ := run_middles_orphan a b sender hbegin middles
      rw [hmiddles]
      simp only [Run.take, Run.moment, act_last_orphan hstate]
      refine ⟨fun hn => absurd hn hnames, fun _ => ⟨⟨cause, ?_⟩, by simp⟩, hstate⟩
      simp only [whole, push, ofPayload_of_begin?_error hbegin]

/-- One character in two pieces, over a message that was left open. Between
the pieces come an empty one, a complete message that cannot be read, and
another sender's beginning. -/
def interrupted : List Act :=
  [.push { sender := "#a#hub", piece := .first, payload := [84, 9, 195] },
    .push { sender := "#b#hub", piece := .first, payload := [66, 9] },
    .push { sender := "#a#hub", piece := .single, payload := [84] },
    .push { sender := "#a#hub", piece := .middle, payload := [] },
    .discard "#b#hub",
    .push { sender := "#a#hub", piece := .last, payload := [164] }]

theorem pieces_agree_with_whole_interrupted :
    let stale := empty.insert "#a#hub" { topic := "Old", text := [120] }
    let run := Run.of act stale interrupted
    interrupted.filter (Act.concerns "#a#hub") =
        transmission "#a#hub" [84, 9, 195] [[]] [164] ∧
      run.answers (Act.concerns "#a#hub") =
        [.pushed (.error (.restarted "#a#hub" 1)), .pushed (.ok none),
          .pushed (.ok (some { topic := "T", text := "ä" }))] ∧
      run.state.get? "#a#hub" = none := by
  intro stale run
  have h : interrupted.filter (Act.concerns "#a#hub") =
      transmission "#a#hub" [84, 9, 195] [[]] [164] := by decide
  obtain ⟨hnamed, -, hclosed⟩ :=
    pieces_agree_with_whole stale empty "#a#hub" [84, 9, 195] [164] [[]]
      interrupted h
  exact ⟨h, (hnamed (by decide)).trans (by decide), hclosed⟩

end Assemblies

end Courier
