import SqlWorkflow.Proofs.Yaml.Steps

namespace SqlWorkflow.Yaml

open Cursor

-- A token and the blanks and comments before it. The last piece of a text has no token.
structure Piece where
  gap : List Char
  text : List Char
deriving DecidableEq

def written (pieces : List Piece) : List Char :=
  pieces.flatMap fun piece => piece.gap ++ piece.text

def brace? : List Char → Option Token
  | ['\x7b'] => some .flowMappingStart
  | ['\x7d'] => some .flowMappingEnd
  | _ => none

def braces (pieces : List Piece) : List Token :=
  pieces.filterMap fun piece => brace? piece.text

theorem written_cons (piece : Piece) (pieces : List Piece) :
    written (piece :: pieces) = piece.gap ++ (piece.text ++ written pieces) := by
  rw [written, List.flatMap_cons, List.append_assoc]
  rfl

theorem braces_cons (piece : Piece) (pieces : List Piece) :
    braces (piece :: pieces) = (brace? piece.text).toList ++ braces pieces := by
  rw [braces, List.filterMap_cons]
  cases brace? piece.text <;> rfl

theorem written_append (a b : List Piece) : written (a ++ b) = written a ++ written b :=
  List.flatMap_append

theorem brace_other (text : List Char) (other : ∀ c ∈ text.head?, c ≠ '\x7b' ∧ c ≠ '\x7d') :
    brace? text = none := by
  unfold brace?
  split
  · exact absurd rfl (other _ rfl).1
  · exact absurd rfl (other _ rfl).2
  · rfl

theorem brace_no_end (text : List Char) : .streamEnd ∉ (brace? text).toList := by
  unfold brace?
  split <;> simp

theorem braces_no_end (pieces : List Piece) : .streamEnd ∉ braces pieces := by
  intro member
  obtain ⟨piece, _, brace⟩ := List.mem_filterMap.mp member
  exact brace_no_end piece.text (Option.mem_toList.mpr brace)

-- How a token is written. Of the tokens that are no braces only quoted scalars start with a quote.
inductive TokenText : List Char → Prop where
  | opening : TokenText ['\x7b']
  | closing : TokenText ['\x7d']
  | single {body : List Char} (string : QuotedText '\'' body) : TokenText ('\'' :: body)
  | double {body : List Char} (string : QuotedText '"' body) : TokenText ('"' :: body)
  | other {text : List Char}
      (start : ∀ c ∈ text.head?, c ≠ '\x7b' ∧ c ≠ '\x7d' ∧ c ≠ '\'' ∧ c ≠ '"') : TokenText text

def Cursor.upTo (cursor later : Cursor) : List Char :=
  cursor.rest.take (cursor.rest.length - later.rest.length)

theorem Cursor.up_to_eq (cursor later : Cursor) (text : List Char)
    (split : cursor.rest = text ++ later.rest) : cursor.upTo later = text := by
  rw [upTo, split, List.length_append, Nat.add_sub_cancel, List.take_left]

theorem Cursor.Passes.up_to {cursor later : Cursor} (passes : cursor.Passes later) :
    cursor.rest = cursor.upTo later ++ later.rest := by
  obtain ⟨text, split⟩ := passes
  rw [cursor.up_to_eq later text split.symm, split]

namespace Scanner

def pieces : Nat → Scanner → List Piece
  | 0, _ => []
  | fuel + 1, s =>
      match s.approach with
      | none => []
      | some near =>
          match near.readToken with
          | none => [⟨s.cursor.upTo near.cursor, []⟩]
          | some next =>
              ⟨s.cursor.upTo near.cursor, near.cursor.upTo next.cursor⟩ :: pieces fuel next

theorem at_marker_head (cursor : Cursor) (mark c : Char) (rest : List Char)
    (shape : cursor.rest = c :: rest) (different : c ≠ mark) : cursor.atMarker mark = false := by
  simp [atMarker, shape, different]

theorem read_token_nothing (s : Scanner) (nothing : s.cursor.rest = []) : s.readToken = none := by
  delta readToken
  extract_lets cursor
  rw [show cursor.rest = [] from nothing]

theorem read_token_special (s : Scanner) (c : Char) (rest : List Char)
    (shape : s.cursor.rest = c :: rest)
    (special : c = '\x7b' ∨ c = '\x7d' ∨ c = '\'' ∨ c = '"') :
    s.readToken =
      if c = '\x7b' then s.openFlow .flowMappingStart
      else if c = '\x7d' then s.closeFlow .flowMappingEnd
      else s.quotedScalar c := by
  obtain ⟨noPercent, noDash, noDot⟩ : c ≠ '%' ∧ c ≠ '-' ∧ c ≠ '.' := by
    rcases special with rfl | rfl | rfl | rfl <;> decide
  delta readToken
  extract_lets cursor
  rw [show cursor.rest = c :: rest from shape]
  dsimp only
  rw [if_neg fun both => noPercent both.2, at_marker_head cursor '-' c rest shape noDash,
    if_neg Bool.false_ne_true, at_marker_head cursor '.' c rest shape noDot,
    if_neg Bool.false_ne_true]
  rcases special with rfl | rfl | rfl | rfl <;> rfl

theorem read_token_quoted (s next : Scanner) (quote : Char) (rest : List Char)
    (proper : quote = '\'' ∨ quote = '"') (shape : s.cursor.rest = quote :: rest)
    (step : s.quotedScalar quote = some next) :
    ∃ body, quote :: rest = (quote :: body) ++ next.cursor.rest ∧ QuotedText quote body ∧
      next.marks = s.marks ++ (brace? (quote :: body)).toList := by
  obtain ⟨value, read, marks⟩ := quoted_scalar_step s next quote step
  obtain ⟨body, split, string⟩ := read_quoted_text quote proper s.cursor _ read
  have tail : (s.cursor.skip 1).rest = rest := by rw [skip, shape]; rfl
  have noBrace : brace? (quote :: body) = none := by
    rcases proper with rfl | rfl <;> exact brace_other _ (by simp)
  refine ⟨body, by rw [← tail, split]; rfl, string, ?_⟩
  rw [marks, noBrace, Option.toList_none, List.append_nil]

theorem read_token_step (s next : Scanner) (step : s.readToken = some next) :
    ∃ text, s.cursor.rest = text ++ next.cursor.rest ∧ TokenText text ∧
      next.marks = s.marks ++ (brace? text).toList := by
  cases shape : s.cursor.rest with
  | nil =>
      rw [read_token_nothing s shape] at step
      cases step
  | cons c rest =>
      by_cases special : c = '\x7b' ∨ c = '\x7d' ∨ c = '\'' ∨ c = '"'
      · rw [read_token_special s c rest shape special] at step
        rcases special with rfl | rfl | rfl | rfl
        · obtain ⟨cursor, marks⟩ := open_flow_step s next _ step
          exact ⟨['\x7b'], by rw [cursor, skip, shape]; rfl, .opening, marks⟩
        · obtain ⟨cursor, marks⟩ := close_flow_step s next _ step
          exact ⟨['\x7d'], by rw [cursor, skip, shape]; rfl, .closing, marks⟩
        · obtain ⟨body, split, string, marks⟩ :=
            read_token_quoted s next '\'' rest (Or.inl rfl) shape step
          exact ⟨_, split, .single string, marks⟩
        · obtain ⟨body, split, string, marks⟩ :=
            read_token_quoted s next '"' rest (Or.inr rfl) shape step
          exact ⟨_, split, .double string, marks⟩
      · obtain ⟨noOpening, noClosing, noSingle, noDouble⟩ := by simpa only [not_or] using special
        obtain ⟨⟨text, split⟩, marks⟩ :=
          read_token_reads s next c rest shape noOpening noClosing noSingle noDouble step
        rw [shape] at split
        have start : ∀ d ∈ text.head?, d ≠ '\x7b' ∧ d ≠ '\x7d' ∧ d ≠ '\'' ∧ d ≠ '"' := by
          cases text with
          | nil => simp
          | cons d text =>
              obtain rfl := (List.cons.inj split).1
              simpa using ⟨noOpening, noClosing, noSingle, noDouble⟩
        have noBrace : brace? text = none :=
          brace_other _ fun d first => ⟨(start d first).1, (start d first).2.1⟩
        exact ⟨text, split.symm, .other start,
          by rw [marks, noBrace, Option.toList_none, List.append_nil]⟩

theorem finish_marks (s last : Scanner) (dropped : (s.unindent (-1)).dropKey = some last) :
    Yaml.marks (last.tokens.push .streamEnd).toList = s.marks ++ [.streamEnd] := by
  have steady := (close_blocks_steady (-1) s.outer s).trans (drop_key_steady _ last dropped)
  rw [marks_push, show Yaml.marks last.tokens.toList = s.marks from steady.marks]
  rfl

theorem read_all_pieces (fuel : Nat) (s : Scanner) (fresh : .streamEnd ∉ s.marks)
    (ends : .streamEnd ∈ Yaml.marks (readAll fuel s).1.toList) :
    s.cursor.rest = written (pieces fuel s) ∧ (∀ piece ∈ pieces fuel s, TokenText piece.text) ∧
      Yaml.marks (readAll fuel s).1.toList =
        s.marks ++ (braces (pieces fuel s) ++ [.streamEnd]) := by
  induction fuel generalizing s with
  | zero => exact absurd ends fresh
  | succ fuel ih =>
      rw [readAll] at ends ⊢
      rw [pieces]
      cases approached : s.approach with
      | none =>
          rw [approached] at ends
          exact absurd ends fresh
      | some near =>
          rw [approached] at ends
          dsimp only at ends ⊢
          have before := approach_reads s near approached
          have gap := before.passes.up_to
          have free : .streamEnd ∉ near.marks := by rw [before.marks]; exact fresh
          split at ends
          · rename_i finished
            have nothing : near.cursor.rest = [] := List.isEmpty_iff.mp finished
            rw [if_pos finished, read_token_nothing near nothing]
            cases dropped : (near.unindent (-1)).dropKey with
            | none =>
                rw [dropped] at ends
                exact absurd ends free
            | some last =>
                refine ⟨?_, List.forall_mem_singleton.mpr (.other (by simp)), ?_⟩
                · rw [gap, nothing, written_cons]
                  rfl
                · rw [finish_marks near last dropped, before.marks]
                  rfl
          · rename_i more
            rw [if_neg more]
            cases token : near.readToken with
            | none =>
                rw [token] at ends
                exact absurd ends free
            | some next =>
                rw [token] at ends
                dsimp only at ends ⊢
                obtain ⟨text, split, form, marks⟩ := read_token_step near next token
                have piece := near.cursor.up_to_eq next.cursor text split
                have fresh : .streamEnd ∉ next.marks := by
                  rw [marks, List.mem_append, not_or]
                  exact ⟨free, brace_no_end text⟩
                obtain ⟨rest, forms, whole⟩ := ih next fresh ends
                rw [piece]
                refine ⟨?_, List.forall_mem_cons.mpr ⟨form, forms⟩, ?_⟩
                · rw [gap, split, rest, written_cons]
                · rw [whole, marks, before.marks, braces_cons, List.append_assoc, List.append_assoc]

def start (text : List Char) : Scanner where
  cursor := { rest := text }

theorem start_opening (fuel : Nat) (rest : List Char) :
    ∃ next : Scanner, next.cursor.rest = rest ∧ next.marks = [.flowMappingStart] ∧
      readAll (fuel + 1) (start ('\x7b' :: rest)) = readAll fuel next ∧
      pieces (fuel + 1) (start ('\x7b' :: rest)) = ⟨[], ['\x7b']⟩ :: pieces fuel next := by
  have near : (start ('\x7b' :: rest)).approach = some (start ('\x7b' :: rest)) := rfl
  have token := read_token_special (start ('\x7b' :: rest)) '\x7b' rest rfl (Or.inl rfl)
  rw [if_pos rfl] at token
  obtain ⟨next, opened⟩ : ∃ next, (start ('\x7b' :: rest)).openFlow .flowMappingStart = some next :=
    ⟨_, rfl⟩
  obtain ⟨cursor, marks⟩ := open_flow_step _ next _ opened
  have behind : next.cursor.rest = rest := by rw [cursor]; rfl
  have gap := Cursor.up_to_eq (start ('\x7b' :: rest)).cursor (start ('\x7b' :: rest)).cursor [] rfl
  have text := Cursor.up_to_eq (start ('\x7b' :: rest)).cursor next.cursor ['\x7b']
    (by rw [behind]; rfl)
  refine ⟨next, behind, marks, ?_, ?_⟩
  · rw [readAll, near]
    dsimp only
    rw [token, opened]
    rfl
  · rw [pieces, near]
    dsimp only
    rw [token, opened]
    dsimp only
    rw [gap, text]

end Scanner

-- A byte order mark in front is not passed here.
def piecesOf (text : String) : List Piece :=
  Scanner.pieces (text.toList.length + 1) (.start text.toList)

end SqlWorkflow.Yaml
