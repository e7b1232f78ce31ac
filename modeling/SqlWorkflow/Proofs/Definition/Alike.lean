import SqlWorkflow.Proofs.Definition.BlockText
import SqlWorkflow.Proofs.Yaml.Flow
import SqlWorkflow.Proofs.Yaml.Pieces

-- The scanner of blocks knows quotes, comments and braces in a way of its own. Where a piece of
-- YAML is read alike by both, the scanner passes it and counts the braces that YAML has there.
namespace SqlWorkflow.Definition

open Yaml

-- Blanks, and comments that start behind a blank and end with a line feed.
def gapAlike : Bool → Bool → List Char → Bool
  | inComment, _, [] => !inComment
  | true, _, c :: rest => gapAlike (c != '\n') (Text.isBlank c) rest
  | false, afterBlank, c :: rest =>
      if c = '#' then afterBlank && gapAlike true (Text.isBlank c) rest
      else Text.isBlank c && gapAlike false (Text.isBlank c) rest

def plainAlike : Bool → List Char → Bool
  | _, [] => true
  | afterBlank, c :: rest =>
      !(isQuote c || c == '\x7b' || c == '\x7d' || (c == '#' && afterBlank)) &&
        plainAlike (Text.isBlank c) rest

-- A single quote behind an odd number of backslashes. The flag tells that the last one is left over.
def escapesQuote : Bool → List Char → Bool
  | _, [] => false
  | escaped, c :: rest =>
      if c = '\'' then escaped || escapesQuote false rest
      else escapesQuote (!escaped && c == '\\') rest

-- Double quotes and braces are read alike always, single quotes if none of them is escaped for the
-- scanner of blocks.
def tokenAlike (afterBlank : Bool) : List Char → Bool
  | '\x7b' :: _ => true
  | '\x7d' :: _ => true
  | '"' :: _ => true
  | '\'' :: body => !escapesQuote false body
  | text => plainAlike afterBlank text

def blankAfter (afterBlank : Bool) (text : List Char) : Bool :=
  text.foldl (fun _ c => Text.isBlank c) afterBlank

def piecesAlike : Bool → List Piece → Bool
  | _, [] => true
  | afterBlank, piece :: rest =>
      let behindGap := blankAfter afterBlank piece.gap
      gapAlike false afterBlank piece.gap && tokenAlike behindGap piece.text &&
        piecesAlike (blankAfter behindGap piece.text) rest

theorem blank_after_append (afterBlank : Bool) (a b : List Char) :
    blankAfter afterBlank (a ++ b) = blankAfter (blankAfter afterBlank a) b :=
  List.foldl_append

theorem blank_after_last (afterBlank : Bool) (text : List Char) (c : Char) :
    blankAfter afterBlank (text ++ [c]) = Text.isBlank c :=
  blank_after_append afterBlank text [c]

theorem pieces_alike_append (afterBlank : Bool) (a b : List Piece) :
    piecesAlike afterBlank (a ++ b) =
      (piecesAlike afterBlank a && piecesAlike (blankAfter afterBlank (written a)) b) := by
  induction a generalizing afterBlank with
  | nil => rfl
  | cons piece a ih =>
      rw [List.cons_append, piecesAlike, piecesAlike, ih, written_cons, blank_after_append,
        blank_after_append]
      simp only [Bool.and_assoc]

def PassesCode (depth outer : Nat) (afterBlank : Bool) (text : List Char) : Prop :=
  ∀ rest, blockEnd? false depth (.code afterBlank) (text ++ rest) =
    after text (blockEnd? false outer (.code (blankAfter afterBlank text)) rest)

theorem PassesCode.append {a b c : Nat} {afterBlank : Bool} {text more : List Char}
    (first : PassesCode a b afterBlank text)
    (second : PassesCode b c (blankAfter afterBlank text) more) :
    PassesCode a c afterBlank (text ++ more) := fun rest => by
  rw [List.append_assoc, first, second, after_after, blank_after_append]

section Scanner

variable (depth : Nat)

theorem passes_nothing (afterBlank : Bool) : PassesCode depth depth afterBlank [] :=
  fun _ => (after_nil _).symm

theorem ordinary_of_blank (afterBlank : Bool) (c : Char) (next : Option Char)
    (blank : Text.isBlank c = true) : Ordinary false afterBlank c next := by
  have different (other : Char) (solid : Text.isBlank other = false) : c ≠ other := by
    rintro rfl
    rw [blank] at solid
    cases solid
  refine ⟨?_, different _ (by decide), different _ (by decide), ?_⟩
  · simp [isQuote, different '"' (by decide), different '\'' (by decide),
      different '\x60' (by decide)]
  · simp [opensComment, different '#' (by decide)]

theorem gap_from (inComment afterBlank : Bool) (gap rest : List Char)
    (alike : gapAlike inComment afterBlank gap = true) :
    blockEnd? false depth (if inComment then .lineComment else .code afterBlank) (gap ++ rest) =
      after gap (blockEnd? false depth (.code (blankAfter afterBlank gap)) rest) := by
  induction gap generalizing inComment afterBlank with
  | nil =>
      cases inComment with
      | true => cases alike
      | false => exact (after_nil _).symm
  | cons c gap ih =>
      have behind : blankAfter afterBlank (c :: gap) = blankAfter (Text.isBlank c) gap := rfl
      rw [behind]
      cases inComment with
      | true =>
          have onward := ih (c != '\n') (Text.isBlank c) alike
          have place : (if c = '\n' then Place.code true else .lineComment) =
              if (c != '\n') = true then .lineComment else .code (Text.isBlank c) := by
            by_cases line : c = '\n'
            · subst line
              rfl
            · simp [line]
          rw [if_pos rfl, List.cons_append, block_end_in_line, place, onward]
          exact after_after [c] gap _
      | false =>
          rw [gapAlike] at alike
          split at alike
          · rename_i sign
            subst sign
            obtain ⟨rfl, alike⟩ := Bool.and_eq_true_iff.mp alike
            rw [if_neg Bool.false_ne_true, List.cons_append,
              block_end_code false depth true '#' _ (by decide) (by decide)]
            exact (congrArg (after ['#']) (ih true _ alike)).trans (after_after ['#'] gap _)
          · obtain ⟨blank, alike⟩ := Bool.and_eq_true_iff.mp alike
            have ordinary := ordinary_of_blank afterBlank c (gap ++ rest).head? blank
            rw [if_neg Bool.false_ne_true, List.cons_append, block_end_code false depth afterBlank c
              _ ordinary.noOpening ordinary.noClosing,
              place_after_ordinary false afterBlank c _ ordinary]
            exact (congrArg (after [c]) (ih false _ alike)).trans (after_after [c] gap _)

theorem gap_passes (afterBlank : Bool) (gap : List Char)
    (alike : gapAlike false afterBlank gap = true) : PassesCode depth depth afterBlank gap :=
  fun rest => gap_from depth false afterBlank gap rest alike

theorem plain_passes (afterBlank : Bool) (text : List Char)
    (alike : plainAlike afterBlank text = true) : PassesCode depth depth afterBlank text := by
  induction text generalizing afterBlank with
  | nil => exact passes_nothing depth afterBlank
  | cons c text ih =>
      intro rest
      obtain ⟨first, alike⟩ := Bool.and_eq_true_iff.mp alike
      simp only [Bool.not_eq_true', Bool.or_eq_false_iff, beq_eq_false_iff_ne] at first
      obtain ⟨⟨⟨noQuote, noOpening⟩, noClosing⟩, noComment⟩ := first
      have ordinary : Ordinary false afterBlank c (text ++ rest).head? :=
        ⟨noQuote, noOpening, noClosing, noComment⟩
      rw [List.cons_append, block_end_code false depth afterBlank c _ noOpening noClosing,
        place_after_ordinary false afterBlank c _ ordinary, ih _ alike rest, after_after]
      rfl

theorem quoted_text_last (quote : Char) (body : List Char) (string : QuotedText quote body) :
    ∃ front, body = front ++ [quote] := by
  induction string with
  | close => exact ⟨[], rfl⟩
  | doubled _ _ ih =>
      obtain ⟨front, rfl⟩ := ih
      exact ⟨_ :: _ :: front, rfl⟩
  | escaped _ _ ih =>
      obtain ⟨front, rfl⟩ := ih
      exact ⟨_ :: _ :: front, rfl⟩
  | plain _ _ _ ih =>
      obtain ⟨front, rfl⟩ := ih
      exact ⟨_ :: front, rfl⟩

theorem quoted_of_double (body : List Char) (string : QuotedText '"' body) : Quoted '"' body := by
  induction string with
  | close => exact .close
  | doubled single _ _ => cases single
  | escaped _ _ ih => exact .escape ih
  | plain different unescaped _ ih => exact .plain different (unescaped rfl) ih

-- A quote that is written twice ends one string for the scanner of blocks and starts another. Behind
-- a backslash that is left over it would do neither.
theorem single_from (escaped : Bool) (body rest : List Char) (string : QuotedText '\'' body)
    (alike : escapesQuote escaped body = false) :
    blockEnd? false depth (if escaped then .escaped '\'' else .quoted '\'') (body ++ rest) =
      after body (blockEnd? false depth (.code false) rest) := by
  induction string generalizing escaped with
  | close =>
      cases escaped with
      | true => cases alike
      | false => rfl
  | @doubled body _ _ ih =>
      cases escaped with
      | true => cases alike
      | false =>
          have onward := ih false alike
          have closed : blockEnd? false depth (.quoted '\'') ('\'' :: '\'' :: (body ++ rest)) =
              after ['\''] (after ['\''] (blockEnd? false depth (.quoted '\'') (body ++ rest))) := rfl
          rw [if_neg Bool.false_ne_true] at onward ⊢
          rw [List.cons_append, List.cons_append, closed, onward, after_after, after_after]
          rfl
  | escaped double _ _ => cases double
  | @plain c body different _ _ ih =>
      rw [escapesQuote, if_neg different] at alike
      have onward := ih _ alike
      rw [List.cons_append]
      cases escaped with
      | true =>
          rw [Bool.not_true, Bool.false_and, if_neg Bool.false_ne_true] at onward
          rw [if_pos rfl, block_end_escaped, onward]
          exact after_after [c] body _
      | false =>
          rw [Bool.not_false, Bool.true_and] at onward
          rw [if_neg Bool.false_ne_true, block_end_in_quotes, placeInQuotes]
          by_cases backslash : c = '\\'
          · rw [if_pos (by simpa using backslash)] at onward
            rw [if_pos backslash, onward]
            exact after_after [c] body _
          · rw [if_neg (by simpa using backslash)] at onward
            rw [if_neg backslash, if_neg different, onward]
            exact after_after [c] body _

theorem quote_passes (quote : Char) (opening : isQuote quote = true) (afterBlank : Bool)
    (body : List Char) (string : QuotedText quote body)
    (taken : ∀ rest, blockEnd? false depth (.quoted quote) (body ++ rest) =
      after body (blockEnd? false depth (.code false) rest)) :
    PassesCode depth depth afterBlank (quote :: body) := by
  intro rest
  obtain ⟨noOpening, noClosing, _⟩ := quote_is_proper quote opening
  have behind : blankAfter afterBlank (quote :: body) = false := by
    obtain ⟨front, rfl⟩ := quoted_text_last quote body string
    rw [← List.cons_append, blank_after_last]
    simp only [isQuote, Bool.or_eq_true, beq_iff_eq] at opening
    rcases opening with (rfl | rfl) | rfl <;> decide
  rw [List.cons_append, block_end_code false depth afterBlank quote _ noOpening noClosing,
    place_after_quote false afterBlank quote _ opening, taken rest, behind]
  exact after_after [quote] body _

end Scanner

theorem other_alike (afterBlank : Bool) (text : List Char)
    (start : ∀ c ∈ text.head?, c ≠ '\x7b' ∧ c ≠ '\x7d' ∧ c ≠ '\'' ∧ c ≠ '"')
    (alike : tokenAlike afterBlank text = true) : plainAlike afterBlank text = true := by
  cases text with
  | nil => rfl
  | cons c text =>
      obtain ⟨noOpening, noClosing, noSingle, noDouble⟩ := start c rfl
      unfold tokenAlike at alike
      split at alike <;> simp_all

theorem token_passes (depth outer : Nat) (afterBlank : Bool) (text : List Char)
    (form : TokenText text) (alike : tokenAlike afterBlank text = true)
    (nesting : depthAfter depth (brace? text).toList = some outer) :
    PassesCode depth outer afterBlank text := by
  have level (none : brace? text = none) : depth = outer := by
    rw [none] at nesting
    exact Option.some.inj nesting
  cases form with
  | opening =>
      obtain rfl : depth + 1 = outer := Option.some.inj nesting
      exact fun rest => rfl
  | closing =>
      cases depth with
      | zero => cases nesting
      | succ depth =>
          obtain rfl : depth = outer := Option.some.inj nesting
          exact fun rest => rfl
  | @single body string =>
      obtain rfl := level rfl
      exact quote_passes depth '\'' rfl afterBlank body string fun rest =>
        single_from depth false body rest string (by simpa [tokenAlike] using alike)
  | @double body string =>
      obtain rfl := level rfl
      exact quote_passes depth '"' rfl afterBlank body string fun rest =>
        block_end_quoted false depth '"' body rest (quoted_of_double body string) (by decide)
  | other start =>
      obtain rfl := level (brace_other text fun c first => ⟨(start c first).1, (start c first).2.1⟩)
      exact plain_passes depth afterBlank text (other_alike afterBlank text start alike)

theorem pieces_pass (pieces : List Piece) (depth outer : Nat) (afterBlank : Bool)
    (forms : ∀ piece ∈ pieces, TokenText piece.text)
    (alike : piecesAlike afterBlank pieces = true)
    (nesting : depthAfter depth (braces pieces) = some outer) :
    PassesCode depth outer afterBlank (written pieces) := by
  induction pieces generalizing depth afterBlank with
  | nil =>
      obtain rfl : depth = outer := Option.some.inj nesting
      exact passes_nothing depth afterBlank
  | cons piece pieces ih =>
      obtain ⟨form, forms⟩ := List.forall_mem_cons.mp forms
      simp only [piecesAlike, Bool.and_eq_true] at alike
      obtain ⟨⟨gap, token⟩, alike⟩ := alike
      rw [braces_cons, depth_after_append] at nesting
      obtain ⟨middle, here, nesting⟩ := Option.bind_eq_some_iff.mp nesting
      rw [written_cons]
      exact (gap_passes depth afterBlank piece.gap gap).append
        ((token_passes depth middle _ piece.text form token here).append
          (ih middle _ forms alike nesting))

end SqlWorkflow.Definition
