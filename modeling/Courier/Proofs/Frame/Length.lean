import Courier.Frame.Reader
import Courier.Proofs.Payload
import Mathlib.Algebra.GroupWithZero.Nat
import Mathlib.Data.List.DropRight
import Mathlib.Data.List.Induction

/-!
# Length fields

A length field is read as a number below 2^64, and it may have zeros in
front. `length?_eq_some_iff` says which fields are read, in terms of decimal
digits. `toDigits_ofDigitChars` says how a number was written: its own digits
are what is left of a field without the zeros in front. `digitCount_eq` says
how many these are.
-/

namespace Courier

namespace Bytes

theorem isDigit_iff {c : Char} :
    c.isDigit = true ↔ 48 ≤ c.toNat ∧ c.toNat ≤ 57 :=
  Char.isDigit_iff_toNat

theorem lt_of_isDigit {c : Char} (h : c.isDigit = true) : c.toNat < 128 := by
  have hrange := isDigit_iff.mp h
  omega

/-- Digits take one byte each. -/
theorem ofText_digits {digits : List Char}
    (h : ∀ c ∈ digits, c.isDigit = true) :
    ofText (String.ofList digits) = digits.map ofChar := by
  rw [ofText_eq_flatMap, String.toList_ofList]
  induction digits with
  | nil => rfl
  | cons c rest ih =>
      have hc := lt_of_isDigit (h c List.mem_cons_self)
      rw [List.flatMap_cons, utf8EncodeChar_of_lt hc,
        ih fun d hd => h d (List.mem_cons_of_mem c hd)]
      rfl

/-- A byte that is a digit, as a character. -/
def toDigit (b : UInt8) : Char :=
  Char.ofUInt8 b

theorem toNat_toDigit (b : UInt8) : (toDigit b).toNat = b.toNat :=
  rfl

theorem ofChar_toDigit (b : UInt8) : ofChar (toDigit b) = b := by
  rw [ofChar, toNat_toDigit]
  exact UInt8.ofNat_toNat

end Bytes

namespace Frame

theorem foldl_digits {digits : List Char}
    (h : ∀ c ∈ digits, c.isDigit = true) (n : Nat) :
    (digits.map Bytes.ofChar).foldl (fun n b => 10 * n + (b.toNat - 48)) n =
      Nat.ofDigitChars 10 digits n := by
  induction digits generalizing n with
  | nil => rfl
  | cons c rest ih =>
      rw [List.map_cons, List.foldl_cons, Nat.ofDigitChars_cons,
        Bytes.toNat_ofChar (Bytes.lt_of_isDigit (h c List.mem_cons_self)),
        ih fun d hd => h d (List.mem_cons_of_mem c hd)]
      rfl

theorem all_digits_iff {field : Bytes} :
    field.all (fun b => 48 ≤ b && b ≤ 57) = true ↔
      ∀ c ∈ field.map Bytes.toDigit, c.isDigit = true := by
  simp only [List.all_eq_true, List.forall_mem_map, Bytes.isDigit_iff,
    Bytes.toNat_toDigit, Bool.and_eq_true, decide_eq_true_eq,
    UInt8.le_iff_toNat_le]
  rfl

/-- A length field is one or more decimal digits, for a number below 2^64. -/
theorem length?_eq_some_iff {field : Bytes} {n : Nat} :
    length? field = some n ↔
      ∃ digits : List Char, field = Bytes.ofText (String.ofList digits) ∧
        digits ≠ [] ∧ (∀ c ∈ digits, c.isDigit = true) ∧
        Nat.ofDigitChars 10 digits 0 = n ∧ n < 2 ^ 64 := by
  constructor
  · intro h
    simp only [length?] at h
    split at h
    · next hfield =>
        obtain ⟨hne, hall⟩ := hfield
        have hdigits := all_digits_iff.mp hall
        have hsame : (field.map Bytes.toDigit).map Bytes.ofChar = field := by
          simp [Function.comp_def, Bytes.ofChar_toDigit]
        have hvalue := foldl_digits hdigits 0
        rw [hsame] at hvalue
        rw [hvalue] at h
        split at h
        · next hlt =>
            obtain rfl := Option.some.inj h
            refine ⟨field.map Bytes.toDigit, ?_, by simpa using hne, hdigits,
              rfl, hlt⟩
            rw [Bytes.ofText_digits hdigits, hsame]
        · cases h
    · cases h
  · rintro ⟨digits, rfl, hne, hdigits, rfl, hlt⟩
    have hsame : (digits.map Bytes.ofChar).map Bytes.toDigit = digits := by
      rw [List.map_map]
      refine (List.map_congr_left fun c hc => ?_).trans (List.map_id digits)
      refine Char.toNat_inj.mp ?_
      exact Bytes.toNat_ofChar (Bytes.lt_of_isDigit (hdigits c hc))
    rw [Bytes.ofText_digits hdigits, length?, if_pos, foldl_digits hdigits]
    · exact if_pos hlt
    · rw [all_digits_iff, hsame]
      exact ⟨by simpa using hne, hdigits⟩

/-! ## How many digits -/

theorem isDigit_of_mem_toDigits (n : Nat) :
    ∀ c ∈ Nat.toDigits 10 n, c.isDigit = true := fun _ =>
  Nat.isDigit_of_mem_toDigits (by decide) (by decide)

theorem length_toDigits (n : Nat) :
    (Nat.toDigits 10 n).length = digitCount n := by
  induction n using digitCount.induct with
  | case1 n hsmall =>
      rw [digitCount, if_pos hsmall, Nat.toDigits_of_lt_base hsmall]
      rfl
  | case2 n hlarge ih =>
      rw [digitCount, if_neg hlarge, ← ih,
        Nat.toDigits_of_base_le (by decide) (Nat.not_lt.mp hlarge),
        List.length_append]
      rfl

/-- As many digits are counted as are written. -/
theorem digitCount_eq (n : Nat) : digitCount n = n.repr.utf8ByteSize := by
  rw [Nat.repr_eq_ofList_toDigits, ← Bytes.length_ofText,
    Bytes.ofText_digits (isDigit_of_mem_toDigits n), List.length_map,
    length_toDigits]

theorem digitCount_le {n k : Nat} (hk : 0 < k) (h : n < 10 ^ k) :
    digitCount n ≤ k := by
  rw [← length_toDigits]
  exact (Nat.length_toDigits_le_iff (by decide) hk).mpr h

/-! ## Zeros in front -/

/-- A field without the zeros in front of it. -/
def trimZeros (digits : List Char) : List Char :=
  digits.dropWhile (· = '0')

theorem mem_of_mem_trimZeros {digits : List Char} {c : Char}
    (h : c ∈ trimZeros digits) : c ∈ digits :=
  (List.dropWhile_sublist _).mem h

theorem trimZeros_eq_self_iff {digits : List Char} :
    trimZeros digits = digits ↔ digits.head? ≠ some '0' := by
  cases digits with
  | nil => simp [trimZeros]
  | cons c rest => simp [trimZeros, List.dropWhile_eq_self_iff]

theorem head?_trimZeros (digits : List Char) :
    (trimZeros digits).head? ≠ some '0' := by
  rw [← trimZeros_eq_self_iff]
  exact List.dropWhile_idempotent ..

theorem length_trimZeros_le (digits : List Char) :
    (trimZeros digits).length ≤ digits.length :=
  (List.dropWhile_sublist _).length_le

theorem length_trimZeros_eq_iff {digits : List Char} :
    (trimZeros digits).length = digits.length ↔
      digits.head? ≠ some '0' := by
  rw [← trimZeros_eq_self_iff]
  exact ⟨(List.dropWhile_sublist _).eq_of_length, congrArg List.length⟩

theorem ofDigitChars_trimZeros (digits : List Char) :
    Nat.ofDigitChars 10 (trimZeros digits) 0 = Nat.ofDigitChars 10 digits 0 := by
  rw [trimZeros]
  induction digits with
  | nil => rfl
  | cons c rest ih =>
      by_cases hc : c = '0'
      · rw [List.dropWhile_cons_of_pos (by simpa using hc), ih, hc,
          Nat.ofDigitChars_cons]
        rfl
      · rw [List.dropWhile_cons_of_neg (by simpa using hc)]

/-- Digits without a zero in front are the digits of their number. -/
theorem toDigits_of_head? {digits : List Char} (hne : digits ≠ [])
    (h : ∀ c ∈ digits, c.isDigit = true) (hhead : digits.head? ≠ some '0') :
    Nat.toDigits 10 (Nat.ofDigitChars 10 digits 0) = digits := by
  induction digits using List.reverseRecOn with
  | nil => exact absurd rfl hne
  | append_singleton before d ih =>
      have hrange := Bytes.isDigit_iff.mp (h d (by simp))
      have hd : Nat.digitChar (d.toNat - 48) = d := by
        refine Char.toNat_inj.mp ?_
        rw [Nat.toNat_digitChar_of_lt_ten (by omega)]
        omega
      rw [Nat.ofDigitChars_append, Nat.ofDigitChars_cons, Nat.ofDigitChars_nil]
      show Nat.toDigits 10 (10 * _ + (d.toNat - 48)) = _
      by_cases hbefore : before = []
      · rw [hbefore, Nat.ofDigitChars_nil, Nat.toDigits_of_lt_base (by omega)]
        simp [hd]
      · have hhead' : before.head? ≠ some '0' := by
          rwa [List.head?_append_of_ne_nil _ hbefore] at hhead
        have hdigits := ih hbefore (fun c hc => h c (by simp [hc])) hhead'
        generalize Nat.ofDigitChars 10 before 0 = n at hdigits ⊢
        -- A number of which no digit is a zero in front is not zero.
        have hpos : n ≠ 0 := by
          rintro rfl
          rw [← hdigits] at hhead'
          exact hhead' rfl
        have hdiv : (10 * n + (d.toNat - 48)) / 10 = n := by omega
        have hmod : (10 * n + (d.toNat - 48)) % 10 = d.toNat - 48 := by omega
        rw [Nat.toDigits_of_base_le (by decide) (by omega), hdiv, hmod, hdigits,
          hd]

/-- How a number other than zero is written: without zeros in front. -/
theorem toDigits_ofDigitChars {digits : List Char}
    (h : ∀ c ∈ digits, c.isDigit = true)
    (hpos : Nat.ofDigitChars 10 digits 0 ≠ 0) :
    Nat.toDigits 10 (Nat.ofDigitChars 10 digits 0) = trimZeros digits := by
  rw [← ofDigitChars_trimZeros] at hpos ⊢
  refine toDigits_of_head? (fun hnil => hpos ?_)
    (fun c hc => h c (mem_of_mem_trimZeros hc)) (head?_trimZeros digits)
  rw [hnil]
  rfl

end Frame

end Courier
