import Courier.Proofs.ClientName
import Courier.Proofs.CutPoints

/-!
# Names that come twice

The name of an attempt is the longest beginning of the base that leaves room
for the number behind it (`isPrefix_cut`). It can also be found by its place:
from the last byte that there is room for, back to where a character begins.
That search never goes back beyond the beginning of the text, since a text may
be cut there (`Stepwise.candidate_eq`).

Behind the last dash of a later name stands its number, so later names differ.
Only the first name has no number of its own, and it is the name of a later
attempt if it happens to end like one. Then it has the number of that attempt
behind its last dash, so there is one such attempt at most.
-/

namespace Courier

namespace ClientName

variable {base : String} {limit attempt : Nat} {front chars : List Char}

/-! ## The longest beginning -/

theorem cut_isPrefix (limit : Nat) (chars : List Char) :
    cut limit chars <+: chars := by
  induction chars generalizing limit with
  | nil => exact List.prefix_refl _
  | cons c rest ih =>
      rw [cut]
      split
      · rw [List.prefix_cons_inj]
        exact ih _
      · exact List.nil_prefix

theorem isPrefix_cut (h : front <+: chars)
    (hfits : (String.ofList front).utf8ByteSize ≤ limit) :
    front <+: cut limit chars := by
  induction front generalizing limit chars with
  | nil => exact List.nil_prefix
  | cons c front ih =>
      obtain ⟨rest, rfl⟩ := h
      rw [String.ofList_cons, String.utf8ByteSize_append,
        String.utf8ByteSize_singleton] at hfits
      rw [List.cons_append, cut, if_pos (by omega), List.prefix_cons_inj]
      exact ih (List.prefix_append ..) (by omega)

theorem size_le_size_cut (h : front <+: chars)
    (hfits : (String.ofList front).utf8ByteSize ≤ limit) :
    (String.ofList front).utf8ByteSize ≤
      (String.ofList (cut limit chars)).utf8ByteSize := by
  obtain ⟨more, hmore⟩ := isPrefix_cut h hfits
  rw [← hmore, String.ofList_append, String.utf8ByteSize_append]
  exact Nat.le_add_right ..

/-- A beginning that takes all the room is the longest. -/
theorem cut_append (front rest : List Char) :
    cut (String.ofList front).utf8ByteSize (front ++ rest) = front := by
  obtain ⟨more, hmore⟩ :=
    isPrefix_cut (List.prefix_append front rest) (Nat.le_refl _)
  have hsize := size_cut_le (String.ofList front).utf8ByteSize (front ++ rest)
  rw [← hmore, String.ofList_append, String.utf8ByteSize_append] at hsize
  have hnil : String.ofList more = "" :=
    String.utf8ByteSize_eq_zero_iff.mp (by omega)
  rw [← hmore, ← String.toList_ofList (l := more), hnil]
  exact List.append_nil front

/-- There is no room for the next character. -/
theorem lt_size_of_cut {c : Char} {rest : List Char}
    (h : chars = cut limit chars ++ c :: rest) :
    limit < (String.ofList (cut limit chars)).utf8ByteSize + c.utf8Size := by
  have hprefix : cut limit chars ++ [c] <+: chars :=
    ⟨rest, by rw [List.append_assoc]; exact h.symm⟩
  by_contra hroom
  have hfits : (String.ofList (cut limit chars ++ [c])).utf8ByteSize ≤ limit := by
    rw [String.ofList_append, String.utf8ByteSize_append,
      ← String.singleton_eq_ofList, String.utf8ByteSize_singleton]
    omega
  have hlonger := (isPrefix_cut hprefix hfits).length_le
  rw [List.length_append, List.length_singleton] at hlonger
  omega

/-! ## Finding it by its place -/

/-- May the text be cut at this place? -/
abbrev IsCutPoint (s : String) (place : Nat) : Prop :=
  String.Pos.Raw.IsValid s ⟨place⟩

theorem isCutPoint_iff {s : String} {place : Nat} :
    IsCutPoint s place ↔ ∃ front, front <+: s.toList ∧
      (String.ofList front).utf8ByteSize = place := by
  rw [IsCutPoint, String.Pos.Raw.isValid_iff_exists_append]
  constructor
  · rintro ⟨front, back, rfl, hplace⟩
    refine ⟨front.toList, ?_, ?_⟩
    · rw [String.toList_append]
      exact List.prefix_append ..
    · rw [String.ofList_toList]
      exact (congrArg String.Pos.Raw.byteIdx hplace).symm
  · rintro ⟨front, ⟨back, hback⟩, rfl⟩
    refine ⟨String.ofList front, String.ofList back, ?_, rfl⟩
    rw [← String.ofList_append, hback, String.ofList_toList]

/-- Goes back from a place to one where the text may be cut. There is nothing
to go back to from the beginning. -/
def stepBack (s : String) : (place : Nat) → Option Nat
  | 0 => if IsCutPoint s 0 then some 0 else none
  | place + 1 =>
    if IsCutPoint s (place + 1) then some (place + 1) else stepBack s place

theorem stepBack_eq {s : String} {stop place : Nat} (hstop : IsCutPoint s stop)
    (hle : stop ≤ place)
    (hlast : ∀ p, IsCutPoint s p → p ≤ place → p ≤ stop) :
    stepBack s place = some stop := by
  induction place with
  | zero =>
      obtain rfl := Nat.le_zero.mp hle
      rw [stepBack, if_pos hstop]
  | succ place ih =>
      rw [stepBack]
      split
      · next hplace =>
          rw [Nat.le_antisymm hle (hlast _ hplace (Nat.le_refl _))]
      · next hplace =>
          have hne : stop ≠ place + 1 := by
            rintro rfl
            exact hplace hstop
          exact ih (by omega) fun p hp hpl => hlast p hp (by omega)

/-- The candidate for an attempt, by places. There is none if the search for a
place where the base may be cut goes beyond its beginning, or if what is cut
there is no text. -/
def Stepwise.candidate (base : String) (attempt : Nat) : Option String := do
  let room := maxSize - (suffix attempt).utf8ByteSize
  let stop ← stepBack base (min base.utf8ByteSize room)
  let front ← Bytes.text? ((Bytes.ofText base).take stop)
  return front ++ suffix attempt

theorem stepBack_cut (base : String) (limit : Nat) :
    stepBack base (min base.utf8ByteSize limit) =
      some (String.ofList (cut limit base.toList)).utf8ByteSize := by
  have hcut := cut_isPrefix limit base.toList
  have hpoint : IsCutPoint base _ := isCutPoint_iff.mpr ⟨_, hcut, rfl⟩
  refine stepBack_eq hpoint
    (Nat.le_min.mpr ⟨hpoint.le_utf8ByteSize, size_cut_le ..⟩) fun p hp hle => ?_
  obtain ⟨front, hfront, rfl⟩ := isCutPoint_iff.mp hp
  exact size_le_size_cut hfront (Nat.le_min.mp hle).2

theorem Stepwise.candidate_eq (base : String) (attempt : Nat) :
    Stepwise.candidate base attempt = some (ClientName.candidate base attempt) := by
  rw [Stepwise.candidate, ClientName.candidate]
  generalize maxSize - (suffix attempt).utf8ByteSize = room
  have hstep := stepBack_cut base room
  obtain ⟨rest, hrest⟩ := cut_isPrefix room base.toList
  generalize cut room base.toList = front at hrest hstep ⊢
  have hbase : Bytes.ofText base =
      Bytes.ofText (String.ofList front) ++ Bytes.ofText (String.ofList rest) := by
    rw [← Bytes.ofText_append, ← String.ofList_append, hrest,
      String.ofList_toList]
  have htake : (Bytes.ofText base).take (String.ofList front).utf8ByteSize =
      Bytes.ofText (String.ofList front) := by
    rw [hbase]
    exact List.take_left' (Bytes.length_ofText _)
  simp only [hstep, bind, Option.bind, htake, Bytes.text?_ofText]
  rfl

/-! ## Numbers behind dashes -/

theorem dash_not_mem_toDigits (n : Nat) : '-' ∉ Nat.toDigits 10 n := fun hmem =>
  absurd (Frame.isDigit_of_mem_toDigits n '-' hmem) (by decide)

theorem rtakeWhile_append_dash {digits : List Char} (h : '-' ∉ digits)
    (front : List Char) :
    (front ++ '-' :: digits).rtakeWhile (· ≠ '-') = digits := by
  have hdigits : ∀ c ∈ digits.reverse, decide (c ≠ '-') = true := fun c hc => by
    simpa using ne_of_mem_of_not_mem (List.mem_reverse.mp hc) h
  rw [List.rtakeWhile, List.reverse_append, List.reverse_cons,
    List.append_assoc, List.takeWhile_append_of_pos hdigits]
  simp

/-- What stands behind the last dash of a name is its number. -/
theorem eq_of_append_dash {i j : Nat} {front front' : List Char}
    (h : front ++ '-' :: Nat.toDigits 10 i =
      front' ++ '-' :: Nat.toDigits 10 j) : i = j := by
  have hdigits := congrArg (List.rtakeWhile (· ≠ '-')) h
  rw [rtakeWhile_append_dash (dash_not_mem_toDigits i),
    rtakeWhile_append_dash (dash_not_mem_toDigits j)] at hdigits
  rw [← Nat.ofDigitChars_ten_toDigits (n := i), hdigits,
    Nat.ofDigitChars_ten_toDigits]

theorem toList_candidate_of_ne_zero (h : attempt ≠ 0) :
    (candidate base attempt).toList =
      cut (maxSize - (suffix attempt).utf8ByteSize) base.toList ++
        '-' :: Nat.toDigits 10 attempt := by
  rw [toList_candidate, toList_suffix h]

theorem candidate_ne {i j : Nat} (hi : 1 ≤ i) (hij : i < j) :
    candidate base i ≠ candidate base j := by
  intro h
  have hlist := congrArg String.toList h
  rw [toList_candidate_of_ne_zero (by omega),
    toList_candidate_of_ne_zero (by omega)] at hlist
  exact absurd (eq_of_append_dash hlist) (by omega)

/-! ## The first name -/

/-- The first name is that of a later attempt if the base goes on with the
number of that attempt just where the first name ends. -/
theorem candidate_zero_eq_iff (hzero : attempt ≠ 0)
    (h : attempt < 10 ^ 9) :
    candidate base 0 = candidate base attempt ↔
      ∃ front rest, base = front ++ suffix attempt ++ rest ∧
        (front ++ suffix attempt).utf8ByteSize = maxSize := by
  have hsuffix := size_suffix_le h
  constructor
  · intro hsame
    generalize hroom : maxSize - (suffix attempt).utf8ByteSize = room
    have hlist := congrArg String.toList hsame
    rw [candidate_zero, String.toList_ofList, toList_candidate_of_ne_zero hzero,
      hroom] at hlist
    obtain ⟨rest, hrest⟩ := cut_isPrefix maxSize base.toList
    rw [hlist, List.append_assoc, List.cons_append] at hrest
    -- The dash would have been kept, had there been room for it.
    have hfull := lt_size_of_cut hrest.symm
    have hfits := size_cut_le room base.toList
    have hdash : '-'.utf8Size = 1 := rfl
    refine ⟨String.ofList (cut room base.toList), String.ofList rest, ?_, ?_⟩
    · rw [← String.toList_inj, String.toList_append, String.toList_append,
        String.toList_ofList, String.toList_ofList, toList_suffix hzero,
        List.append_assoc, List.cons_append, hrest]
    · rw [String.utf8ByteSize_append]
      omega
  · rintro ⟨front, rest, rfl, hsize⟩
    rw [String.utf8ByteSize_append] at hsize
    have hroom : maxSize - (suffix attempt).utf8ByteSize =
        (String.ofList front.toList).utf8ByteSize := by
      rw [String.ofList_toList]
      omega
    have hwhole : maxSize =
        (String.ofList (front ++ suffix attempt).toList).utf8ByteSize := by
      rw [String.ofList_toList, String.utf8ByteSize_append, hsize]
    have hfirst : cut maxSize (front ++ suffix attempt ++ rest).toList =
        (front ++ suffix attempt).toList := by
      rw [hwhole, String.toList_append (s := _ ++ _), cut_append]
    have hlater : cut (maxSize - (suffix attempt).utf8ByteSize)
        (front ++ suffix attempt ++ rest).toList = front.toList := by
      rw [hroom, String.append_assoc, String.toList_append, cut_append]
    rw [candidate_zero, candidate, hfirst, hlater, String.ofList_toList,
      String.ofList_toList]

/-- Where a number with its dash stands among the bytes of a text, there it
stands in the text. -/
theorem exists_suffix_iff (hzero : attempt ≠ 0) {size : Nat} :
    (∃ front rest, base = front ++ suffix attempt ++ rest ∧
        (front ++ suffix attempt).utf8ByteSize = size) ↔
      size ≤ base.utf8ByteSize ∧
        Bytes.ofText (suffix attempt) <:+ (Bytes.ofText base).take size := by
  constructor
  · rintro ⟨front, rest, rfl, rfl⟩
    refine ⟨?_, Bytes.ofText front, ?_⟩
    · rw [String.utf8ByteSize_append (s := _ ++ _)]
      exact Nat.le_add_right ..
    · rw [Bytes.ofText_append (_ ++ _), ← Bytes.ofText_append]
      exact (List.take_left' (Bytes.length_ofText _)).symm
  · rintro ⟨hsize, before, hbefore⟩
    have hbase := List.take_append_drop size (Bytes.ofText base)
    rw [← hbefore] at hbase
    generalize (Bytes.ofText base).drop size = after at hbase
    have hcut : Bytes.IsText before := by
      have hdash : Bytes.ofText "-" = [Bytes.ofChar '-'] := rfl
      rw [suffix_of_ne_zero hzero, Bytes.ofText_append, hdash,
        List.append_assoc, List.append_assoc, List.singleton_append] at hbase
      exact (Bytes.IsText.cut (by decide) ⟨base, hbase.symm⟩).1
    obtain ⟨front, rfl⟩ := hcut
    rw [← Bytes.ofText_append] at hbase hbefore
    obtain ⟨rest, hrest, -⟩ := Bytes.exists_of_ofText_eq_append hbase.symm
    refine ⟨front, rest, hrest, ?_⟩
    rw [← Bytes.length_ofText, hbefore, List.length_take, Bytes.length_ofText]
    exact Nat.min_eq_left hsize

/-- The name of an attempt is that of an earlier one. -/
def Repeats (base : String) (attempt : Nat) : Prop :=
  ∃ earlier < attempt, candidate base earlier = candidate base attempt

theorem candidate_zero_of_repeats (h : Repeats base attempt) :
    attempt ≠ 0 ∧ candidate base 0 = candidate base attempt := by
  obtain ⟨earlier, hlt, hsame⟩ := h
  by_cases hzero : earlier = 0
  · rw [hzero] at hsame
    exact ⟨by omega, hsame⟩
  · exact absurd hsame (candidate_ne (by omega) hlt)

theorem eq_of_repeats {i j : Nat} (hi : Repeats base i) (hj : Repeats base j) :
    i = j := by
  obtain ⟨hi, hsamei⟩ := candidate_zero_of_repeats hi
  obtain ⟨hj, hsamej⟩ := candidate_zero_of_repeats hj
  have hsame := hsamei.symm.trans hsamej
  obtain hlt | heq | hlt := Nat.lt_trichotomy i j
  · exact absurd hsame (candidate_ne (by omega) hlt)
  · exact heq
  · exact absurd hsame.symm (candidate_ne (by omega) hlt)

/-- The name of an attempt is the longest beginning of the base that leaves
room for the number of the attempt, and the number. Later names differ from one
another, and from the first unless its ten bytes end with the number. So no
more than one attempt is made with a name that has been tried. -/
theorem attempts_repeat_once (base : String) :
    (∀ attempt, ∃ front : String, ∃ number : String,
      candidate base attempt = front ++ number ∧
      number = (if attempt = 0 then "" else "-" ++ attempt.repr) ∧
      front.toList <+: base.toList ∧
      front.utf8ByteSize ≤ 10 - number.utf8ByteSize ∧
      (∀ longer : String, longer.toList <+: base.toList →
        longer.utf8ByteSize ≤ 10 - number.utf8ByteSize →
        longer.utf8ByteSize ≤ front.utf8ByteSize) ∧
      Stepwise.candidate base attempt = some (candidate base attempt)) ∧
    (∀ attempt < 10 ^ 9, (candidate base attempt).utf8ByteSize ≤ 10) ∧
    (∀ i j, 1 ≤ i → i < j → candidate base i ≠ candidate base j) ∧
    (∀ k, 1 ≤ k → k < 10 ^ 9 →
      (candidate base 0 = candidate base k ↔
        10 ≤ base.utf8ByteSize ∧
          Bytes.ofText ("-" ++ k.repr) <:+ (Bytes.ofText base).take 10)) ∧
    ∀ i j, Repeats base i → Repeats base j → i = j := by
  refine ⟨fun attempt => ?_, fun attempt => size_candidate_le base,
    fun i j => candidate_ne, fun k hk hlt => ?_, fun i j => eq_of_repeats⟩
  · have hcut := cut_isPrefix (10 - (suffix attempt).utf8ByteSize) base.toList
    refine ⟨String.ofList (cut (10 - (suffix attempt).utf8ByteSize) base.toList),
      suffix attempt, rfl, rfl, ?_, size_cut_le .., fun longer hlonger hfits => ?_,
      Stepwise.candidate_eq base attempt⟩
    · rw [String.toList_ofList]
      exact hcut
    · rw [← String.ofList_toList (s := longer)] at hfits ⊢
      exact size_le_size_cut hlonger hfits
  · have hzero : k ≠ 0 := by omega
    rw [candidate_zero_eq_iff hzero hlt, exists_suffix_iff hzero,
      suffix_of_ne_zero hzero]
    rfl

/-- A base whose first ten bytes end with the number of attempt 7, behind
characters of two bytes. -/
theorem attempts_repeat_once_seven :
    let base := "käyttö-7 x"
    (10 ≤ base.utf8ByteSize ∧
      Bytes.ofText ("-" ++ Nat.repr 7) <:+ (Bytes.ofText base).take 10) ∧
    Repeats base 7 ∧ (∀ i, Repeats base i → i = 7) ∧
    candidate base 7 ≠ candidate base 77 ∧
    (candidate base 999999999).utf8ByteSize ≤ 10 := by
  intro base
  obtain ⟨-, hsize, hlater, hfirst, honce⟩ := attempts_repeat_once base
  have hends : 10 ≤ base.utf8ByteSize ∧
      Bytes.ofText ("-" ++ Nat.repr 7) <:+ (Bytes.ofText base).take 10 := by
    decide
  have hseven : Repeats base 7 :=
    ⟨0, by decide, (hfirst 7 (by decide) (by decide)).mpr hends⟩
  exact ⟨hends, hseven, fun i hi => honce i 7 hi hseven,
    hlater 7 77 (by decide) (by decide), hsize 999999999 (by decide)⟩

end ClientName

end Courier
