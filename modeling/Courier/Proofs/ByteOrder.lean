import Courier.Proofs.Payload
import Std.Data.ExtTreeMap
import Std.Data.ExtTreeSet

/-!
# The order of texts

Texts are in the order of their bytes. Of two characters the one that comes
first has the UTF-8 form that comes first, and neither form begins with the
other, so the first characters in which two texts differ decide as the first
bytes do in which their forms differ.
-/

namespace Courier

namespace Bytes

theorem ofNat_lt_ofNat {m n : Nat} (hm : m < 256) (hn : n < 256) :
    UInt8.ofNat m < UInt8.ofNat n ↔ m < n := by
  rw [UInt8.lt_iff_toNat_lt, UInt8.toNat_ofNat_of_lt' hm,
    UInt8.toNat_ofNat_of_lt' hn]

theorem ofNat_inj {m n : Nat} (hm : m < 256) (hn : n < 256) :
    UInt8.ofNat m = UInt8.ofNat n ↔ m = n := by
  rw [← UInt8.toNat_inj, UInt8.toNat_ofNat_of_lt' hm,
    UInt8.toNat_ofNat_of_lt' hn]

theorem utf8EncodeChar_append_lt {c d : Char} (h : c < d)
    (more more' : Bytes) :
    String.utf8EncodeChar c ++ more < String.utf8EncodeChar d ++ more' := by
  have hlt : c.val.toNat < d.val.toNat := UInt32.lt_iff_toNat_lt.mp h
  have hd : d.val.toNat < 1114112 := d.valid.elim (fun h => by omega) And.right
  simp only [String.utf8EncodeChar]
  generalize c.val.toNat = m at hlt ⊢
  generalize d.val.toNat = n at hlt hd ⊢
  -- The digits to base 64, from the last to the first.
  have hlast : m / 64 < n / 64 ∨ m / 64 = n / 64 ∧ m % 64 < n % 64 := by omega
  have hthird : m / 64 < n / 64 → m / 4096 < n / 4096 ∨
      m / 4096 = n / 4096 ∧ m / 64 % 64 < n / 64 % 64 := by omega
  have hsecond : m / 4096 < n / 4096 → m / 262144 < n / 262144 ∨
      m / 262144 = n / 262144 ∧ m / 4096 % 64 < n / 4096 % 64 := by omega
  have hfirst : m / 262144 % 8 = m / 262144 ∧ n / 262144 % 8 = n / 262144 := by
    omega
  split <;> split <;> (try split) <;> (try split) <;> (try split) <;>
    (try split)
  all_goals
    simp (disch := omega) only [List.cons_append, List.nil_append,
      List.cons_lt_cons_iff, ofNat_lt_ofNat, ofNat_inj]
    omega

theorem flatMap_utf8EncodeChar_lt {s t : List Char} (h : s < t) :
    s.flatMap String.utf8EncodeChar < t.flatMap String.utf8EncodeChar := by
  induction s generalizing t with
  | nil =>
      cases t with
      | nil => exact absurd h (List.lt_irrefl _)
      | cons d t =>
          rw [List.flatMap_nil, List.flatMap_cons]
          have hne : String.utf8EncodeChar d ≠ [] := by simp
          obtain ⟨b, rest, hb⟩ := List.exists_cons_of_ne_nil hne
          rw [hb]
          exact List.nil_lt_cons ..
  | cons c s ih =>
      cases t with
      | nil => exact absurd h (List.not_lt_nil _)
      | cons d t =>
          rw [List.flatMap_cons, List.flatMap_cons]
          obtain hlt | ⟨rfl, hrest⟩ := List.cons_lt_cons_iff.mp h
          · exact utf8EncodeChar_append_lt hlt _ _
          · exact List.append_left_lt (ih hrest)

theorem ofText_lt {s t : String} (h : s < t) : ofText s < ofText t := by
  rw [ofText_eq_flatMap, ofText_eq_flatMap]
  exact flatMap_utf8EncodeChar_lt (String.lt_iff.mp h)

theorem pairwise_ofText {texts : List String}
    (h : texts.Pairwise fun s t => compare s t = .lt) :
    (texts.map ofText).Pairwise (· < ·) := by
  rw [List.pairwise_map]
  exact h.imp fun hlt => ofText_lt (compareOfLessAndEq_eq_lt.mp hlt)

end Bytes

/-- A set of texts is listed in the order of their bytes. -/
theorem pairwise_ofText_toList (texts : Std.ExtTreeSet String) :
    (texts.toList.map Bytes.ofText).Pairwise (· < ·) :=
  Bytes.pairwise_ofText Std.ExtTreeSet.ordered_toList

/-- What is kept under texts is listed in the order of the bytes of these. -/
theorem pairwise_ofText_keys {α : Type} (m : Std.ExtTreeMap String α) :
    (m.toList.map fun entry => Bytes.ofText entry.1).Pairwise (· < ·) := by
  have h := Bytes.pairwise_ofText (m.ordered_keys)
  rw [← Std.ExtTreeMap.map_fst_toList_eq_keys, List.map_map] at h
  exact h

end Courier
