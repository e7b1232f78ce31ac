import SqlWorkflow.Text.LetterCase

-- Changing the case of a letter of ASCII moves no character out of a word, so a sigma stands at the
-- end of a word in both texts or in neither.
namespace SqlWorkflow.Text

def SameLetters (a b : String) : Prop :=
  a.toList.map Char.toLower = b.toList.map Char.toLower

theorem to_lower_cases (c : Char) : c.toLower = c ∨ c.toNat < 0x80 := by
  unfold Char.toLower
  split
  · rename_i capital
    have above : c.toNat ≤ 90 := capital.2
    exact Or.inr (by omega)
  · exact Or.inl rfl

-- What is the same for a capital letter and its small one is so for all characters.
theorem to_lower_same {α : Type} [DecidableEq α] (f : Char → α)
    (ascii : ∀ n < 0x80, f (Char.ofNat n).toLower = f (Char.ofNat n)) (c : Char) :
    f c.toLower = f c := by
  rcases to_lower_cases c with same | small
  · rw [same]
  · have here := ascii c.toNat small
    rwa [Char.ofNat_toNat] at here

theorem lower_char_to_lower (c : Char) : lowerChar c.toLower = lowerChar c :=
  to_lower_same lowerChar (by decide +kernel) c

theorem is_cased_to_lower (c : Char) : isCased c.toLower = isCased c :=
  to_lower_same isCased (by decide +kernel) c

theorem is_word_mark_to_lower (c : Char) : isWordMark c.toLower = isWordMark c :=
  to_lower_same isWordMark (by decide +kernel) c

theorem is_sigma_to_lower (c : Char) : (c.toLower == 'Σ') = (c == 'Σ') :=
  to_lower_same (· == 'Σ') (by decide +kernel) c

theorem letter_follows_to_lower (text : List Char) :
    letterFollows (text.map Char.toLower) = letterFollows text := by
  induction text with
  | nil => rfl
  | cons c text ih =>
      unfold letterFollows at ih ⊢
      rw [List.map_cons, List.dropWhile_cons, List.dropWhile_cons, is_word_mark_to_lower]
      by_cases mark : isWordMark c = true
      · rw [if_pos mark, if_pos mark, ih]
      · rw [if_neg mark, if_neg mark]
        exact is_cased_to_lower c

theorem lower_from_to_lower (before text : List Char) :
    lowerFrom (before.map Char.toLower) (text.map Char.toLower) = lowerFrom before text := by
  induction text generalizing before with
  | nil => rfl
  | cons c text ih =>
      have next := ih (c :: before)
      rw [List.map_cons] at next
      rw [List.map_cons, lowerFrom, lowerFrom, is_sigma_to_lower, letter_follows_to_lower,
        letter_follows_to_lower, lower_char_to_lower, next]

theorem lower_same_letters (a b : String) (same : SameLetters a b) : lower a = lower b := by
  have small (text : String) :
      lower text = String.ofList (lowerFrom [] (text.toList.map Char.toLower)) :=
    congrArg String.ofList (lower_from_to_lower [] text.toList).symm
  rw [small, small, same]

end SqlWorkflow.Text
