import Courier.Hub
import Courier.Proofs.Frame.Length

/-!
# Names for every attempt

The name of a later attempt is a shorter beginning of the same text with a
number behind it (`cut_isPrefix_cut`). A number is short and has nothing in it
that a name may not have. So if the first name is legal, those of all attempts
up to the thousandth are (`Hub.legalClient_candidate`): of a search for a free
name only the first attempt can show that the name is illegal.
-/

namespace Courier

namespace ClientName

theorem size_cut_le (limit : Nat) (chars : List Char) :
    (String.ofList (cut limit chars)).utf8ByteSize ≤ limit := by
  induction chars generalizing limit with
  | nil => exact Nat.zero_le limit
  | cons c rest ih =>
      rw [cut]
      split
      · next hfits =>
          have hrest := ih (limit - c.utf8Size)
          rw [String.ofList_cons, String.utf8ByteSize_append,
            String.utf8ByteSize_singleton]
          omega
      · exact Nat.zero_le limit

theorem cut_isPrefix_cut {m n : Nat} (h : m ≤ n) (chars : List Char) :
    cut m chars <+: cut n chars := by
  induction chars generalizing m n with
  | nil => exact List.prefix_refl _
  | cons c rest ih =>
      rw [cut, cut]
      by_cases hfits : c.utf8Size ≤ m
      · rw [if_pos hfits, if_pos (hfits.trans h), List.prefix_cons_inj]
        exact ih (Nat.sub_le_sub_right h _)
      · rw [if_neg hfits]
        exact List.nil_prefix

theorem suffix_of_ne_zero {attempt : Nat} (h : attempt ≠ 0) :
    suffix attempt = "-" ++ attempt.repr :=
  if_neg h

theorem toList_suffix {attempt : Nat} (h : attempt ≠ 0) :
    (suffix attempt).toList = '-' :: Nat.toDigits 10 attempt := by
  rw [suffix_of_ne_zero h, String.toList_append, Nat.toList_repr]
  rfl

theorem size_suffix {attempt : Nat} (h : attempt ≠ 0) :
    (suffix attempt).utf8ByteSize = Frame.digitCount attempt + 1 := by
  have hdash : "-".utf8ByteSize = 1 := rfl
  rw [suffix_of_ne_zero h, String.utf8ByteSize_append, Frame.digitCount_eq]
  omega

theorem size_suffix_le {attempt : Nat} (h : attempt < 10 ^ 9) :
    (suffix attempt).utf8ByteSize ≤ maxSize := by
  by_cases hzero : attempt = 0
  · rw [hzero]
    exact Nat.zero_le _
  · have hdigits := Frame.digitCount_le (by decide) h
    rw [size_suffix hzero, maxSize]
    omega

theorem hash_not_mem_suffix (attempt : Nat) : '#' ∉ (suffix attempt).toList := by
  by_cases hzero : attempt = 0
  · rw [hzero]
    decide
  · rw [toList_suffix hzero, List.mem_cons, not_or]
    refine ⟨by decide, fun hmem => ?_⟩
    exact absurd (Frame.isDigit_of_mem_toDigits attempt '#' hmem) (by decide)

theorem candidate_zero (base : String) :
    candidate base 0 = String.ofList (cut maxSize base.toList) := by
  rw [candidate, suffix, if_pos rfl]
  exact String.append_empty

theorem toList_candidate (base : String) (attempt : Nat) :
    (candidate base attempt).toList =
      cut (maxSize - (suffix attempt).utf8ByteSize) base.toList ++
        (suffix attempt).toList := by
  rw [candidate, String.toList_append, String.toList_ofList]

theorem size_candidate_le (base : String) {attempt : Nat}
    (h : attempt < 10 ^ 9) :
    (candidate base attempt).utf8ByteSize ≤ maxSize := by
  have hcut := size_cut_le (maxSize - (suffix attempt).utf8ByteSize) base.toList
  have hsuffix := size_suffix_le h
  rw [candidate, String.utf8ByteSize_append]
  omega

end ClientName

namespace Hub

open ClientName

theorem legalClient_iff {client : String} :
    legalClient client = true ↔ client ≠ "" ∧
      client.utf8ByteSize ≤ maxSize ∧ '#' ∉ client.toList := by
  simp [legalClient, and_assoc]

theorem legalClient_candidate_zero {base : String} :
    legalClient (candidate base 0) = true ↔
      candidate base 0 ≠ "" ∧ '#' ∉ (candidate base 0).toList := by
  have hsize : (candidate base 0).utf8ByteSize ≤ maxSize :=
    size_candidate_le base (by decide)
  rw [legalClient_iff, and_congr_right_iff, and_iff_right hsize]
  exact fun _ => Iff.rfl

theorem legalClient_candidate {base : String} {attempt : Nat}
    (h : legalClient (candidate base 0) = true) (hattempt : attempt < 1000) :
    legalClient (candidate base attempt) = true := by
  have hsize := size_candidate_le base (hattempt.trans (by decide))
  by_cases hzero : attempt = 0
  · rw [hzero]
    exact h
  obtain ⟨-, hhash⟩ := legalClient_candidate_zero.mp h
  rw [candidate_zero, String.toList_ofList] at hhash
  refine legalClient_iff.mpr ⟨fun hempty => ?_, hsize, fun hmem => ?_⟩
  · have hlist := congrArg String.toList hempty
    rw [toList_candidate, toList_suffix hzero] at hlist
    simp at hlist
  · rw [toList_candidate, List.mem_append] at hmem
    obtain hmem | hmem := hmem
    · exact hhash ((cut_isPrefix_cut (Nat.sub_le ..) _).mem hmem)
    · exact hash_not_mem_suffix attempt hmem

end Hub

end Courier
