import SqlWorkflow.Proofs.Definition.BlockText

namespace SqlWorkflow.Definition

def Place.inConfig : Place → Bool
  | .commentOpening => false
  | .blockComment _ => false
  | _ => true

-- What is still to come of a text inside a block, seen from a place in it.
def Continues : Place → List Char → Prop
  | .code afterBlank, text => BlockText false afterBlank text
  | .quoted quote, text => ∃ body rest, text = body ++ rest ∧ Quoted quote body ∧
      BlockText false false rest
  | .escaped quote, text => ∃ c body rest, text = c :: (body ++ rest) ∧ Quoted quote body ∧
      BlockText false false rest
  | .lineComment, text => ∃ comment rest, text = comment ++ '\n' :: rest ∧ '\n' ∉ comment ∧
      BlockText false true rest
  | _, _ => False

def Leaves : Nat → Place → List Char → Prop
  | 0, place, text => Continues place text
  | depth + 1, place, text => ∃ inner outer, text = inner ++ '\x7d' :: outer ∧
      Continues place inner ∧ Leaves depth (.code false) outer

theorem leaves_behind (place next : Place) (front : List Char)
    (goesOn : ∀ text, Continues next text → Continues place (front ++ text)) (depth : Nat)
    (text : List Char) (leaves : Leaves depth next text) : Leaves depth place (front ++ text) := by
  cases depth with
  | zero => exact goesOn text leaves
  | succ depth =>
      obtain ⟨inner, outer, rfl, continues, after⟩ := leaves
      exact ⟨front ++ inner, outer, (List.append_assoc _ _ _).symm, goesOn inner continues, after⟩

theorem leaves_nested (afterBlank : Bool) (depth : Nat) (text : List Char)
    (leaves : Leaves (depth + 1) (.code false) text) :
    Leaves depth (.code afterBlank) ('\x7b' :: text) := by
  obtain ⟨inner, outer, rfl, within, after⟩ := leaves
  have shape (text : List Char) :
      '\x7b' :: (inner ++ '\x7d' :: text) = ('\x7b' :: (inner ++ ['\x7d'])) ++ text := by
    rw [List.cons_append, List.append_assoc, List.singleton_append]
  rw [shape]
  refine leaves_behind (.code afterBlank) (.code false) _ (fun text more => ?_) depth outer after
  rw [← shape]
  exact .nested within more

theorem continues_code (afterBlank : Bool) (c : Char) (next : Option Char) (noOpening : c ≠ '\x7b')
    (noClosing : c ≠ '\x7d') (text : List Char)
    (continues : Continues (placeAfter false afterBlank c next) text) :
    Continues (.code afterBlank) (c :: text) := by
  unfold placeAfter at continues
  split at continues
  · rename_i comment
    obtain ⟨rfl, rfl⟩ : c = '#' ∧ afterBlank = true := by simpa using comment
    obtain ⟨comment, rest, rfl, line, more⟩ := continues
    exact .signComment rfl line more
  · rename_i noComment
    split at continues
    · rename_i dash
      simp at dash
    · split at continues
      · rename_i star
        simp at star
      · split at continues
        · rename_i quote
          obtain ⟨body, rest, rfl, string, more⟩ := continues
          exact .quoted quote string more
        · rename_i noQuote
          refine .ordinary ⟨by simpa using noQuote, noOpening, noClosing, ?_⟩ continues
          simpa [opensComment] using noComment

theorem continues_quoted (quote c : Char) (text : List Char)
    (continues : Continues (placeInQuotes quote c) text) :
    Continues (.quoted quote) (c :: text) := by
  unfold placeInQuotes at continues
  split at continues
  · rename_i backslash
    subst backslash
    obtain ⟨d, body, rest, rfl, string, more⟩ := continues
    exact ⟨'\\' :: d :: body, rest, rfl, .escape string, more⟩
  · rename_i noBackslash
    split at continues
    · rename_i closing
      subst closing
      exact ⟨[c], text, rfl, .close, continues⟩
    · rename_i different
      obtain ⟨body, rest, rfl, string, more⟩ := continues
      exact ⟨c :: body, rest, rfl, .plain different noBackslash string, more⟩

theorem continues_escaped (quote c : Char) (text : List Char)
    (continues : Continues (.quoted quote) text) : Continues (.escaped quote) (c :: text) := by
  obtain ⟨body, rest, rfl, string, more⟩ := continues
  exact ⟨c, body, rest, rfl, string, more⟩

theorem continues_line (c : Char) (text : List Char)
    (continues : Continues (if c = '\n' then .code true else .lineComment) text) :
    Continues .lineComment (c :: text) := by
  split at continues
  · rename_i line
    subst line
    exact ⟨[], text, rfl, by simp, continues⟩
  · rename_i different
    obtain ⟨comment, rest, rfl, line, more⟩ := continues
    exact ⟨c :: comment, rest, rfl, by simp [Ne.symm different, line], more⟩

theorem place_after_config (afterBlank : Bool) (c : Char) (next : Option Char) :
    (placeAfter false afterBlank c next).inConfig = true := by
  unfold placeAfter
  split
  · rfl
  · split
    · rfl
    · split
      · rename_i star
        simp at star
      · split <;> rfl

theorem place_in_quotes_config (quote c : Char) : (placeInQuotes quote c).inConfig = true := by
  unfold placeInQuotes
  split
  · rfl
  · split <;> rfl

theorem block_end_leaves (depth : Nat) (place : Place) (text inside rest : List Char)
    (config : place.inConfig = true)
    (found : blockEnd? false depth place text = some (inside, rest)) :
    text = inside ++ '\x7d' :: rest ∧ Leaves depth place inside := by
  induction text generalizing depth place inside with
  | nil => cases found
  | cons c text ih =>
      -- the scanner takes one character and goes on in the next place
      have onward (outer : Nat) (next : Place) (config : next.inConfig = true)
          (goesOn : ∀ more, Leaves outer next more → Leaves depth place (c :: more))
          (found : after [c] (blockEnd? false outer next text) = some (inside, rest)) :
          c :: text = inside ++ '\x7d' :: rest ∧ Leaves depth place inside := by
        obtain ⟨parts, later, same⟩ := Option.map_eq_some_iff.mp found
        obtain ⟨rfl, rfl⟩ := Prod.mk.inj same
        obtain ⟨split, leaves⟩ := ih outer next parts.1 config later
        exact ⟨congrArg (c :: ·) split, goesOn parts.1 leaves⟩
      have along (next : Place) (config : next.inConfig = true)
          (goesOn : ∀ more, Continues next more → Continues place (c :: more)) :=
        onward depth next config fun more => leaves_behind place next [c] goesOn depth more
      cases place with
      | code afterBlank =>
          by_cases opening : c = '\x7b'
          · subst opening
            exact onward (depth + 1) (.code false) rfl (leaves_nested afterBlank depth) found
          · by_cases closing : c = '\x7d'
            · subst closing
              cases depth with
              | zero =>
                  obtain ⟨rfl, rfl⟩ := Prod.mk.inj (Option.some.inj found)
                  exact ⟨rfl, .done⟩
              | succ depth =>
                  exact onward depth (.code false) rfl
                    (fun more leaves => ⟨[], more, rfl, .done, leaves⟩) found
            · rw [block_end_code false depth afterBlank c text opening closing] at found
              exact along _ (place_after_config afterBlank c text.head?)
                (continues_code afterBlank c text.head? opening closing) found
      | quoted quote =>
          rw [block_end_in_quotes] at found
          exact along _ (place_in_quotes_config quote c) (continues_quoted quote c) found
      | escaped quote => exact along (.quoted quote) rfl (continues_escaped quote c) found
      | lineComment =>
          rw [block_end_in_line] at found
          exact along _ (by split <;> rfl) (continues_line c) found
      | commentOpening => cases config
      | blockComment afterStar => cases config

-- With `block_end_exact` this says which texts the scanner takes as the inside of a config block.
theorem block_end_iff (text inside rest : List Char) :
    blockEnd? false 0 (.code false) text = some (inside, rest) ↔
      text = inside ++ '\x7d' :: rest ∧ BlockText false false inside := by
  constructor
  · exact block_end_leaves 0 (.code false) text inside rest rfl
  · rintro ⟨rfl, wellFormed⟩
    exact block_end_exact false inside rest wellFormed

end SqlWorkflow.Definition
