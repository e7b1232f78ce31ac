import Mathlib.Data.String.Basic

namespace SqlWorkflow.Text

def bytes (text : String) : List UInt8 :=
  text.toByteArray.data.toList

theorem bytes_letters (text : String) : bytes text = text.toList.flatMap String.utf8EncodeChar := by
  rw [bytes]
  conv => lhs; rw [← String.ofList_toList (s := text)]
  rw [String.toByteArray_ofList, List.utf8Encode, List.toList_data_toByteArray]

theorem byte_lt (m n : Nat) (boundM : m < 256) (boundN : n < 256) :
    UInt8.ofNat m < UInt8.ofNat n ↔ m < n := by
  rw [UInt8.lt_iff_toNat_lt, UInt8.toNat_ofNat', UInt8.toNat_ofNat', Nat.mod_eq_of_lt boundM,
    Nat.mod_eq_of_lt boundN]

theorem byte_cons_lt (m n : Nat) (boundM : m < 256) (boundN : n < 256) (after later : List UInt8)
    (decided : m < n ∨ m = n ∧ after < later) :
    UInt8.ofNat m :: after < UInt8.ofNat n :: later := by
  rw [List.cons_lt_cons_iff, byte_lt m n boundM boundN]
  rcases decided with less | ⟨rfl, rest⟩
  · exact Or.inl less
  · exact Or.inr ⟨rfl, rest⟩

section Codes

variable (m n : Nat) (codes : m < n) (after later : List UInt8)

include codes

theorem one_byte_lt (front : m / 64 = n / 64) :
    UInt8.ofNat (m % 64 + 128) :: after < UInt8.ofNat (n % 64 + 128) :: later :=
  byte_cons_lt _ _ (by omega) (by omega) after later (Or.inl (by omega))

theorem two_bytes_lt (front : m / 4096 = n / 4096) :
    UInt8.ofNat (m / 64 % 64 + 128) :: UInt8.ofNat (m % 64 + 128) :: after <
      UInt8.ofNat (n / 64 % 64 + 128) :: UInt8.ofNat (n % 64 + 128) :: later := by
  apply byte_cons_lt _ _ (by omega) (by omega)
  by_cases same : m / 64 = n / 64
  · exact Or.inr ⟨by omega, one_byte_lt m n codes after later same⟩
  · exact Or.inl (by omega)

theorem three_bytes_lt (front : m / 262144 = n / 262144) :
    UInt8.ofNat (m / 4096 % 64 + 128) :: UInt8.ofNat (m / 64 % 64 + 128) ::
        UInt8.ofNat (m % 64 + 128) :: after <
      UInt8.ofNat (n / 4096 % 64 + 128) :: UInt8.ofNat (n / 64 % 64 + 128) ::
        UInt8.ofNat (n % 64 + 128) :: later := by
  apply byte_cons_lt _ _ (by omega) (by omega)
  by_cases same : m / 4096 = n / 4096
  · exact Or.inr ⟨by omega, two_bytes_lt m n codes after later same⟩
  · exact Or.inl (by omega)

end Codes

-- The first byte tells how many there are, and a longer encoding has a greater one.
theorem letter_bytes_lt (c d : Char) (less : c < d) (after later : List UInt8) :
    String.utf8EncodeChar c ++ after < String.utf8EncodeChar d ++ later := by
  have codes : c.val.toNat < d.val.toNat := less
  have top : d.val.toNat < 1114112 := by
    rcases d.valid with low | high
    · exact Nat.lt_trans low (by decide)
    · exact high.2
  unfold String.utf8EncodeChar
  dsimp only
  generalize c.val.toNat = m at codes
  generalize d.val.toNat = n at codes top
  by_cases one : m ≤ 127
  · rw [if_pos one]
    split_ifs <;> exact byte_cons_lt _ _ (by omega) (by omega) _ _ (Or.inl (by omega))
  · rw [if_neg one, if_neg (show ¬ n ≤ 127 by omega)]
    by_cases two : m ≤ 2047
    · rw [if_pos two]
      by_cases level : n ≤ 2047
      · rw [if_pos level]
        apply byte_cons_lt _ _ (by omega) (by omega)
        by_cases same : m / 64 = n / 64
        · exact Or.inr ⟨by omega, one_byte_lt m n codes after later same⟩
        · exact Or.inl (by omega)
      · rw [if_neg level]
        split_ifs <;> exact byte_cons_lt _ _ (by omega) (by omega) _ _ (Or.inl (by omega))
    · rw [if_neg two, if_neg (show ¬ n ≤ 2047 by omega)]
      by_cases three : m ≤ 65535
      · rw [if_pos three]
        by_cases level : n ≤ 65535
        · rw [if_pos level]
          apply byte_cons_lt _ _ (by omega) (by omega)
          by_cases same : m / 4096 = n / 4096
          · exact Or.inr ⟨by omega, two_bytes_lt m n codes after later same⟩
          · exact Or.inl (by omega)
        · rw [if_neg level]
          exact byte_cons_lt _ _ (by omega) (by omega) _ _ (Or.inl (by omega))
      · rw [if_neg three, if_neg (show ¬ n ≤ 65535 by omega)]
        apply byte_cons_lt _ _ (by omega) (by omega)
        by_cases same : m / 262144 = n / 262144
        · exact Or.inr ⟨by omega, three_bytes_lt m n codes after later same⟩
        · exact Or.inl (by omega)

theorem letters_bytes_lt (a b : List Char) (less : a < b) :
    a.flatMap String.utf8EncodeChar < b.flatMap String.utf8EncodeChar := by
  induction a generalizing b with
  | nil =>
      cases b with
      | nil => exact absurd less (List.lt_irrefl [])
      | cons d b =>
          rw [List.flatMap_cons]
          cases encoded : String.utf8EncodeChar d with
          | nil => exact absurd encoded String.utf8EncodeChar_ne_nil
          | cons byte more => exact List.nil_lt_cons byte _
  | cons c a ih =>
      cases b with
      | nil => exact absurd less (List.not_lt_nil _)
      | cons d b =>
          rw [List.flatMap_cons, List.flatMap_cons]
          rcases List.cons_lt_cons_iff.mp less with first | ⟨rfl, rest⟩
          · exact letter_bytes_lt c d first _ _
          · exact List.append_left_lt (ih b rest)

theorem bytes_lt (a b : String) (less : compare a b = .lt) : bytes a < bytes b := by
  rw [bytes_letters, bytes_letters]
  exact letters_bytes_lt _ _ (String.lt_iff_toList_lt.mp (compareOfLessAndEq_eq_lt.mp less))

end SqlWorkflow.Text
