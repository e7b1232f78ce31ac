import SqlWorkflow.Proofs.Yaml.Passes

namespace SqlWorkflow.Yaml

open Cursor

-- A scalar behind its opening quote, up to and with its closing one. A single quote is written twice
-- in single quotes, where a backslash is a character like others; in double quotes a backslash takes
-- the next character.
inductive QuotedText (quote : Char) : List Char → Prop where
  | close : QuotedText quote [quote]
  | doubled {rest : List Char} (single : quote = '\'') (more : QuotedText quote rest) :
      QuotedText quote ('\'' :: '\'' :: rest)
  | escaped {c : Char} {rest : List Char} (double : quote = '"') (more : QuotedText quote rest) :
      QuotedText quote ('\\' :: c :: rest)
  | plain {c : Char} {rest : List Char} (different : c ≠ quote)
      (unescaped : quote = '"' → c ≠ '\\') (more : QuotedText quote rest) :
      QuotedText quote (c :: rest)

def Inside (quote : Char) (text : List Char) : Prop :=
  ∀ rest, QuotedText quote rest → QuotedText quote (text ++ rest)

theorem Inside.append {quote : Char} {a b : List Char} (first : Inside quote a)
    (second : Inside quote b) : Inside quote (a ++ b) := fun rest more => by
  rw [List.append_assoc]
  exact first _ (second rest more)

theorem inside_nil (quote : Char) : Inside quote [] := fun _ more => more

theorem inside_plain (quote : Char) (text : List Char)
    (plain : ∀ c ∈ text, c ≠ quote ∧ c ≠ '\\') : Inside quote text := by
  induction text with
  | nil => exact inside_nil quote
  | cons c text ih =>
      obtain ⟨first, others⟩ := List.forall_mem_cons.mp plain
      exact fun rest more => .plain first.1 (fun _ => first.2) (ih others rest more)

section Reader

variable (quote : Char) (proper : quote = '\'' ∨ quote = '"')

theorem hex_value_digits (digits : List Char) (start value : Nat)
    (read : digits.foldlM (fun value c => (hexDigit? c).map (value * 16 + ·)) start = some value) :
    ∀ c ∈ digits, (hexDigit? c).isSome = true := by
  induction digits generalizing start with
  | nil => simp
  | cons c digits ih =>
      rw [List.foldlM_cons] at read
      obtain ⟨next, first, later⟩ := Option.bind_eq_some_iff.mp read
      obtain ⟨digit, here, _⟩ := Option.map_eq_some_iff.mp first
      exact List.forall_mem_cons.mpr ⟨by rw [here]; rfl, ih next later⟩

theorem read_escape_text (text : List Char) (image : Char) (length : Nat)
    (read : readEscape text = some (image, length)) :
    ∃ c digits, text = c :: (digits ++ text.drop length) ∧
      ∀ d ∈ digits, (hexDigit? d).isSome = true := by
  unfold readEscape at read
  split at read
  · cases read
  · rename_i c rest
    split at read
    · obtain ⟨_, _, answer⟩ := Option.map_eq_some_iff.mp read
      obtain ⟨rfl, rfl⟩ := Prod.mk.inj answer
      exact ⟨c, [], rfl, by simp⟩
    · rename_i count _
      dsimp only at read
      split at read
      · cases read
      · obtain ⟨value, digits, read⟩ := Option.bind_eq_some_iff.mp read
        split at read
        · obtain ⟨rfl, rfl⟩ := Prod.mk.inj (Option.some.inj read)
          refine ⟨c, rest.take count, ?_, hex_value_digits _ 0 value digits⟩
          rw [List.drop_succ_cons, List.take_append_drop]
        · cases read

theorem hex_digit_plain (c : Char) (digit : (hexDigit? c).isSome = true) :
    c ≠ '\'' ∧ c ≠ '"' ∧ c ≠ '\\' := by
  refine ⟨?_, ?_, ?_⟩ <;> rintro rfl <;> revert digit <;> decide

theorem space_plain (c : Char) (space : isSpace c = true) : c ≠ '\'' ∧ c ≠ '"' ∧ c ≠ '\\' := by
  refine ⟨?_, ?_, ?_⟩ <;> rintro rfl <;> revert space <;> decide

include proper

theorem inside_of_others (text : List Char)
    (others : ∀ c ∈ text, c ≠ '\'' ∧ c ≠ '"' ∧ c ≠ '\\') : Inside quote text := by
  refine inside_plain quote text fun c member => ?_
  obtain ⟨noSingle, noDouble, noBackslash⟩ := others c member
  rcases proper with rfl | rfl
  · exact ⟨noSingle, noBackslash⟩
  · exact ⟨noDouble, noBackslash⟩

theorem inside_break (double : quote = '"') (cursor next : Cursor) (text : List Char)
    (broken : cursor.readBreak? = some (text, next)) :
    ∃ word, '\\' :: cursor.rest = word ++ next.rest ∧ Inside quote word := by
  obtain ⟨first, others, split, _, breaks⟩ := read_break_text cursor _ _ broken
  refine ⟨'\\' :: first :: others, by rw [split]; rfl, fun rest more => .escaped double ?_⟩
  exact inside_of_others quote proper others
    (fun c member => space_plain c (by simp [isSpace, breaks c member])) rest more

theorem inside_escape (double : quote = '"') (text : List Char) (image : Char) (length : Nat)
    (escape : readEscape text = some (image, length)) :
    ∃ word, '\\' :: text = word ++ text.drop length ∧ Inside quote word := by
  obtain ⟨first, digits, split, hex⟩ := read_escape_text text image length escape
  refine ⟨'\\' :: first :: digits, congrArg ('\\' :: ·) split, fun rest more => .escaped double ?_⟩
  exact inside_of_others quote proper digits (fun c member => hex_digit_plain c (hex c member))
    rest more

theorem quoted_word_text (fuel : Nat) (done : List Char) (cursor : Cursor)
    (found : List Char × Cursor × Bool) (read : quotedWord quote fuel done cursor = some found) :
    ∃ word, cursor.rest = word ++ found.2.1.rest ∧ Inside quote word := by
  induction fuel generalizing done cursor with
  | zero => cases read
  | succ fuel ih =>
      rw [quotedWord] at read
      split at read
      · obtain rfl := Option.some.inj read
        exact ⟨[], rfl, inside_nil quote⟩
      · rename_i c rest shape
        -- what is behind some first characters is read by induction
        have onward (text : List Char) (done : List Char) (next : Cursor)
            (here : cursor.rest = text ++ next.rest) (inside : Inside quote text)
            (read : quotedWord quote fuel done next = some found) :
            ∃ word, cursor.rest = word ++ found.2.1.rest ∧ Inside quote word := by
          obtain ⟨word, there, more⟩ := ih done next read
          exact ⟨text ++ word, by rw [here, there, List.append_assoc], inside.append more⟩
        split at read
        · obtain rfl := Option.some.inj read
          exact ⟨[], rfl, inside_nil quote⟩
        · split at read
          · rename_i closing
            split at read
            · rename_i double
              obtain ⟨single, next⟩ := double
              obtain ⟨tail, rfl⟩ := List.head?_eq_some_iff.mp next
              refine onward ['\'', '\''] _ (cursor.skip 2) ?_ (fun _ more => .doubled single more) read
              rw [skip, shape, closing, single]
              rfl
            · obtain rfl := Option.some.inj read
              exact ⟨[], rfl, inside_nil quote⟩
          · rename_i different
            split at read
            · rename_i escape
              obtain ⟨double, rfl⟩ := escape
              have behind : (cursor.skip 1).rest = rest := by rw [skip, shape]; rfl
              split at read
              · rename_i text next broken
                obtain rfl := Option.some.inj read
                obtain ⟨word, here, inside⟩ :=
                  inside_break quote proper double (cursor.skip 1) next text broken
                exact ⟨word, by rw [shape, ← behind, here], inside⟩
              · split at read
                · cases read
                · rename_i image length escape
                  obtain ⟨word, here, inside⟩ :=
                    inside_escape quote proper double rest image length escape
                  refine onward word _ (cursor.skip (length + 1)) ?_ inside read
                  rw [skip, shape, List.drop_succ_cons, here]
            · rename_i unescaped
              refine onward [c] _ (cursor.skip 1) (by rw [skip, shape]; rfl) ?_ read
              exact fun rest more => .plain different (fun double same => unescaped ⟨double, same⟩) more

theorem quoted_rest_text (fuel : Nat) (done : List Char) (cursor : Cursor)
    (found : List Char × Cursor) (read : quotedRest quote fuel done cursor = some found) :
    ∃ body, cursor.rest = body ++ found.2.rest ∧ QuotedText quote body := by
  induction fuel generalizing done cursor with
  | zero => cases read
  | succ fuel ih =>
      rw [quotedRest] at read
      split at read
      · cases read
      · obtain ⟨⟨text, next, escaped⟩, first, read⟩ := Option.bind_eq_some_iff.mp read
        obtain ⟨word, here, inside⟩ := quoted_word_text quote proper _ _ _ _ first
        dsimp only at read here
        split at read
        · rename_i closing
          obtain rfl := Option.some.inj read
          obtain ⟨tail, shape⟩ := List.head?_eq_some_iff.mp (beq_iff_eq.mp closing)
          refine ⟨word ++ [quote], ?_, inside _ .close⟩
          rw [here, skip, shape]
          simp
        · obtain ⟨⟨gap, behind⟩, blank, read⟩ := Option.bind_eq_some_iff.mp read
          obtain ⟨spaces, split, space⟩ := read_gap_text _ _ _ _ next _ blank
          obtain ⟨body, there, string⟩ := ih _ behind read
          refine ⟨word ++ (spaces ++ body), by rw [here, split, there]; simp, inside _ ?_⟩
          exact inside_of_others quote proper spaces (fun c member => space_plain c (space c member))
            body string

theorem read_quoted_text (cursor : Cursor) (found : List Char × Cursor)
    (read : readQuoted quote cursor = some found) :
    ∃ body, (cursor.skip 1).rest = body ++ found.2.rest ∧ QuotedText quote body :=
  quoted_rest_text quote proper _ _ _ found read

end Reader

end SqlWorkflow.Yaml
