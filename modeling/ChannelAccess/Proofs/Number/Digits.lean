import ChannelAccess.Number.Natural
import Mathlib.Data.Nat.Digits.Defs
import Mathlib.Data.List.Induction

/-!
# Which texts spell a natural number

`Natural.Spells` says in which ways a number may be written: decimal digits, with any number of
leading zeros, and a plus sign before them or not. Reading accepts exactly these texts, as long as
the number is below the bound (`Natural.read?_eq_some_iff`). One of these texts has neither a sign
nor leading zeros, and it is the one that `Nat.toDigits` writes (`Natural.toDigits_ofDigits`).
-/

namespace ChannelAccess.Natural

/-- The text spells the number: one or more decimal digits, the most significant first, with or
without a plus sign before them. -/
def Spells (chars : List Char) (value : Nat) : Prop :=
  ∃ sign digits, chars = sign ++ digits ∧ (sign = [] ∨ sign = ['+']) ∧ digits ≠ [] ∧
    (∀ c ∈ digits, c.isDigit = true) ∧
    value = Nat.ofDigits 10 (digits.reverse.map fun c => c.toNat - '0'.toNat)

/-- The number that digits spell, the least significant one being the last. -/
theorem ofDigits_eq (digits : List Char) :
    ofDigits digits = Nat.ofDigits 10 (digits.reverse.map fun c => c.toNat - '0'.toNat) := by
  rw [Nat.ofDigits_eq_foldr, List.map_reverse, List.foldr_reverse, List.foldl_map, ofDigits]
  congr 1
  funext value c
  rw [Nat.mul_comm, Nat.add_comm]
  rfl

/-- Digits have no sign before them. -/
theorem dropPlus_of_digits {digits : List Char} (all : ∀ c ∈ digits, c.isDigit = true) :
    dropPlus digits = digits := by
  unfold dropPlus
  split
  · exact absurd (all '+' List.mem_cons_self) (by decide)
  · rfl

/-- Exactly the texts that spell a number below the bound are read, as that number. -/
theorem read?_eq_some_iff {bound value : Nat} {chars : List Char} :
    read? bound chars = some value ↔ Spells chars value ∧ value < bound := by
  constructor
  · intro found
    refine ⟨?_, lt_of_read? found⟩
    unfold read? readDigits? at found
    split at found
    · rename_i digits
      obtain ⟨some, all, -⟩ := digits
      obtain rfl := Option.some.inj found
      have isSigned : ∃ sign, chars = sign ++ dropPlus chars ∧ (sign = [] ∨ sign = ['+']) := by
        unfold dropPlus
        split
        · exact ⟨['+'], rfl, .inr rfl⟩
        · exact ⟨[], rfl, .inl rfl⟩
      obtain ⟨sign, signed, isSign⟩ := isSigned
      exact ⟨sign, dropPlus chars, signed, isSign, some, List.all_eq_true.mp all, ofDigits_eq _⟩
    · contradiction
  · rintro ⟨⟨sign, digits, rfl, isSign, some, all, rfl⟩, below⟩
    have unsigned : dropPlus (sign ++ digits) = digits := by
      rcases isSign with rfl | rfl
      · exact dropPlus_of_digits all
      · rfl
    rw [← ofDigits_eq] at below ⊢
    rw [read?, unsigned, readDigits?, if_pos ⟨some, List.all_eq_true.mpr all, below⟩]

/-- What is read without a sign is read in the same way where a sign may be. -/
theorem read?_of_readDigits? {bound value : Nat} {chars : List Char}
    (found : readDigits? bound chars = some value) : read? bound chars = some value := by
  have found' := found
  unfold readDigits? at found'
  split at found'
  · rename_i digits
    rwa [read?, dropPlus_of_digits (List.all_eq_true.mp digits.2.1)]
  · contradiction

/-! ## Written without leading zeros -/

/-- Digits before the last one count ten times. -/
theorem ofDigits_concat (digits : List Char) (c : Char) :
    ofDigits (digits ++ [c]) = ofDigits digits * 10 + (c.toNat - '0'.toNat) := by
  rw [ofDigits, List.foldl_append]
  rfl

/-- A digit is the one of its value. -/
theorem digitChar_of_isDigit {c : Char} (digit : c.isDigit = true) :
    c.toNat - '0'.toNat < 10 ∧ Nat.digitChar (c.toNat - '0'.toNat) = c := by
  have bounds : 48 ≤ c.toNat ∧ c.toNat ≤ 57 := by
    simp only [Char.isDigit, Bool.and_eq_true, decide_eq_true_eq, ge_iff_le,
      UInt32.le_iff_toNat_le] at digit
    exact digit
  have ofValue : ∀ value < 10, Nat.digitChar value = Char.ofNat (value + 48) := by decide
  have small : c.toNat - 48 < 10 := by omega
  have back : c.toNat - 48 + 48 = c.toNat := by omega
  refine ⟨small, ?_⟩
  rw [show '0'.toNat = 48 from rfl, ofValue _ small, back, Char.ofNat_toNat]

/-- The decimal digits of a number spell it. -/
theorem ofDigits_toDigits (value : Nat) : ofDigits (Nat.toDigits 10 value) = value := by
  have same : ofDigits (Nat.toDigits 10 value) = Nat.ofDigitChars 10 (Nat.toDigits 10 value) 0 := by
    simp only [ofDigits, Nat.ofDigitChars_eq_foldl, Nat.mul_comm]
  rw [same, Nat.ofDigitChars_ten_toDigits]

/-- The decimal digits of a number are a way to write it. -/
theorem spells_toDigits (value : Nat) : Spells (Nat.toDigits 10 value) value := by
  have digit : ∀ c ∈ Nat.toDigits 10 value, c.isDigit = true := fun c =>
    Nat.isDigit_of_mem_toDigits (by decide) (by decide)
  refine ⟨[], Nat.toDigits 10 value, rfl, .inl rfl, Nat.toDigits_ne_nil, digit, ?_⟩
  rw [← ofDigits_eq, ofDigits_toDigits]

/-- The decimal digits of a number begin with a zero only if it is zero. -/
theorem head?_toDigits_ne {value : Nat} (positive : 0 < value) :
    (Nat.toDigits 10 value).head? ≠ some '0' := by
  induction value using Nat.strongRecOn with
  | ind value ih =>
    rcases Nat.lt_or_ge value 10 with single | several
    · have nonzero : ∀ digit < 10, 0 < digit → [Nat.digitChar digit].head? ≠ some '0' := by decide
      rw [Nat.toDigits_of_lt_base single]
      exact nonzero value single positive
    · obtain ⟨c, others, front⟩ :=
        List.exists_cons_of_ne_nil (Nat.toDigits_ne_nil (b := 10) (n := value / 10))
      have earlier := ih (value / 10) (by omega) (by omega)
      rw [Nat.toDigits_of_base_le (by decide) several, front]
      rwa [front] at earlier

/-- Digits are the decimal digits of the number that they spell, if there is no zero before
others. -/
theorem toDigits_ofDigits {digits : List Char} (nonempty : digits ≠ [])
    (all : ∀ c ∈ digits, c.isDigit = true)
    (noZeros : digits.length = 1 ∨ digits.head? ≠ some '0') :
    Nat.toDigits 10 (ofDigits digits) = digits := by
  induction digits using List.reverseRecOn with
  | nil => exact absurd rfl nonempty
  | append_singleton front c ih =>
    obtain ⟨small, char⟩ := digitChar_of_isDigit
      (all c (List.mem_append_right front List.mem_cons_self))
    have last : Nat.toDigits 10 (c.toNat - '0'.toNat) = [c] := by
      rw [Nat.toDigits_of_lt_base small, char]
    rw [ofDigits_concat]
    cases front with
    | nil => rw [List.nil_append, ← last, ofDigits, List.foldl_nil, Nat.zero_mul, Nat.zero_add]
    | cons first others =>
      have noZero : first ≠ '0' := by
        rintro rfl
        rcases noZeros with single | other
        · rw [List.length_append, List.length_cons, List.length_singleton] at single
          omega
        · exact other rfl
      have written := ih (List.cons_ne_nil first others)
        (fun d inside => all d (List.mem_append_left [c] inside))
        (.inr fun isFirst => noZero (Option.some.inj isFirst))
      have positive : 0 < ofDigits (first :: others) := by
        refine Nat.pos_of_ne_zero fun isZero => noZero ?_
        rw [isZero, Nat.toDigits_zero] at written
        exact (List.cons.inj written).1.symm
      rw [Nat.mul_comm, ← Nat.toDigits_append_toDigits (by decide) positive small, written, last]

end ChannelAccess.Natural
