import Mathlib.Data.Nat.Digits.Defs
import SqlWorkflow.Yaml.Scalar

namespace SqlWorkflow.Yaml

theorem digit_value (c : Char) (digit : c.isDigit = true) :
    digitValue? 10 c = some (c.toNat - '0'.toNat) := by
  have below : c.toNat - '0'.toNat < 10 := by
    have bound : c.toNat ≤ 57 := by
      simp only [Char.isDigit, Bool.and_eq_true, decide_eq_true_eq] at digit
      exact digit.2
    have zero : '0'.toNat = 48 := rfl
    omega
  rw [digitValue?, hexDigit?, if_pos digit, Option.bind_some, if_pos below]

theorem natural_digits (digits : List Char) (plain : ∀ c ∈ digits, c.isDigit = true)
    (start : Nat) :
    digits.foldlM (fun value c => (digitValue? 10 c).map (value * 10 + ·)) start =
      some (Nat.ofDigitChars 10 digits start) := by
  induction digits generalizing start with
  | nil => rfl
  | cons c digits ih =>
      obtain ⟨first, rest⟩ := List.forall_mem_cons.mp plain
      rw [List.foldlM_cons, digit_value c first, Nat.ofDigitChars_cons, Nat.mul_comm 10 start]
      exact ih rest _

theorem natural_written (n : Nat) : natural? 10 (Nat.toDigits 10 n) = some n := by
  have written : (Nat.toDigits 10 n).isEmpty = false := by simp
  have plain (c : Char) (member : c ∈ Nat.toDigits 10 n) : c.isDigit = true :=
    Nat.isDigit_of_mem_toDigits (by decide) (by decide) member
  rw [natural?, written, if_neg Bool.false_ne_true, natural_digits _ plain,
    Nat.ofDigitChars_toDigits (by decide) (by decide)]

theorem digit_char_zero : ∀ n < 10, Nat.digitChar n = '0' → n = 0 := by decide

theorem digits_zero (n : Nat) (zero : (Nat.toDigits 10 n).head? = some '0') : n = 0 := by
  induction n using Nat.strongRecOn with
  | ind n ih =>
      by_cases small : n < 10
      · rw [Nat.toDigits_of_lt_base small, List.head?_cons, Option.some.injEq] at zero
        exact digit_char_zero n small zero
      · rw [Nat.toDigits_of_base_le (by decide) (by omega)] at zero
        obtain ⟨c, others, shape⟩ := List.exists_cons_of_ne_nil (Nat.toDigits_ne_nil (n := n / 10))
        rw [shape] at zero
        have front := ih (n / 10) (by omega) (by rw [shape]; exact zero)
        omega

theorem digits_not_padded (n : Nat) (c : Char) (rest : List Char) :
    Nat.toDigits 10 n ≠ '0' :: c :: rest := by
  intro padded
  have zero := digits_zero n (by rw [padded]; rfl)
  rw [zero, Nat.toDigits_zero] at padded
  cases padded

theorem based_written (n : Nat) : based? (Nat.toDigits 10 n) = none := by
  unfold based?
  split
  · rename_i shape
    exact absurd shape (digits_not_padded n _ _)
  · rename_i shape
    exact absurd shape (digits_not_padded n _ _)
  · rename_i shape
    exact absurd shape (digits_not_padded n _ _)
  · rfl

theorem padded_written (n : Nat) (text : List Char) (written : dropSign text = Nat.toDigits 10 n) :
    isPaddedDigits text = false := by
  unfold isPaddedDigits
  split
  · rename_i shape
    exact absurd (written.symm.trans shape) (digits_not_padded n _ _)
  · rfl

theorem to_string_natural (n : Nat) : (toString (n : Int)).toList = Nat.toDigits 10 n := by
  rw [Int.toString_eq_repr, Int.repr_eq_if, if_pos (Int.natCast_nonneg n), Int.toNat_natCast,
    Nat.toList_repr]

theorem to_string_negative (n : Nat) (positive : n ≠ 0) :
    (toString (-(n : Int))).toList = '-' :: Nat.toDigits 10 n := by
  rw [Int.toString_eq_repr, Int.repr_eq_if, if_neg (by omega), Int.neg_neg, Int.toNat_natCast,
    String.toList_append, Nat.toList_repr]
  rfl

theorem int_digits (n : Nat) : int? (Nat.toDigits 10 n) = some (n : Int) := by
  have digit (c : Char) (rest : List Char) (shape : Nat.toDigits 10 n = c :: rest) :
      c.isDigit = true :=
    Nat.isDigit_of_mem_toDigits (b := 10) (by decide) (by decide)
      (by rw [shape]; exact List.mem_cons_self)
  have unsigned : dropSign (Nat.toDigits 10 n) = Nat.toDigits 10 n := by
    unfold dropSign
    split
    · rename_i shape
      exact absurd (digit _ _ shape) (by decide)
    · rename_i shape
      exact absurd (digit _ _ shape) (by decide)
    · rfl
  unfold int?
  dsimp only
  rw [padded_written n _ unsigned]
  split
  · rename_i shape
    exact absurd (digit _ _ shape) (by decide)
  · rename_i shape
    exact absurd (digit _ _ shape) (by decide)
  · rw [based_written, if_neg Bool.false_ne_true, natural_written]
    rfl

theorem int_minus (n : Nat) : int? ('-' :: Nat.toDigits 10 n) = some (-(n : Int)) := by
  rw [int?]
  dsimp only
  rw [padded_written n _ rfl, based_written, if_neg Bool.false_ne_true, natural_written]
  rfl

theorem int_written (n : Int) : int? (toString n).toList = some n := by
  cases Int.natAbs_eq n with
  | inl natural =>
      rw [natural, to_string_natural, int_digits]
  | inr negative =>
      by_cases zero : n.natAbs = 0
      · rw [Int.natAbs_eq_zero.mp zero]
        decide
      · rw [negative, to_string_negative _ zero, int_minus]

theorem fits_int (n : Int) (fits : Document.fitsWord n = true) : fitsInt n = true := by
  simp only [Document.fitsWord, fitsInt, Bool.and_eq_true, decide_eq_true_eq] at fits ⊢
  have low : (Nat.pow 2 63 : Int) ≤ Nat.pow 2 127 := by decide
  have high : (Nat.pow 2 64 : Int) ≤ Nat.pow 2 128 := by decide
  omega

theorem other_word {α : Type} (reader : String → Option α) (word text : String) (value : α)
    (read : reader word = some value) (untaken : reader text = none) : (word == text) = false := by
  refine beq_eq_false_iff_ne.mpr fun same => ?_
  rw [same, untaken] at read
  cases read

theorem not_null {α : Type} (reader : String → Option α) (word : String) (value : α)
    (read : reader word = some value)
    (nulls : ∀ text ∈ ["", "null", "Null", "NULL", "~"], reader text = none) :
    (word.isEmpty || isNull word) = false := by
  have other (text : String) (member : text ∈ ["", "null", "Null", "NULL", "~"]) :
      (word == text) = false :=
    other_word reader word text value read (nulls text member)
  have written : word.isEmpty = false :=
    String.isEmpty_eq_false_iff.mpr (beq_eq_false_iff_ne.mp (other "" (by decide)))
  rw [written, isNull, other "null" (by decide), other "Null" (by decide),
    other "NULL" (by decide), other "~" (by decide)]
  rfl

theorem plain_value_bool (word : String) (flag : Bool) (read : bool? word = some flag) :
    plainValue word = .bool flag := by
  rw [plainValue, not_null bool? word flag read (by decide), read]
  rfl

theorem plain_value_int (word : String) (n : Int) (read : int? word.toList = some n)
    (fits : Document.fitsWord n = true) : plainValue word = .int n := by
  have other (text : String) (untaken : int? text.toList = none) :
      (word == text) = false :=
    other_word (int? ·.toList) word text n read untaken
  have noBool : bool? word = none := by
    rw [bool?, other "true" (by decide), other "True" (by decide), other "TRUE" (by decide),
      other "false" (by decide), other "False" (by decide), other "FALSE" (by decide)]
    rfl
  rw [plainValue, not_null (int? ·.toList) word n read (by decide), noBool, read,
    Option.filter_some, if_pos (fits_int n fits)]
  exact if_pos fits

theorem plain_value_number (n : Int) (fits : Document.fitsWord n = true) :
    plainValue (toString n) = .int n :=
  plain_value_int (toString n) n (int_written n) fits

end SqlWorkflow.Yaml
