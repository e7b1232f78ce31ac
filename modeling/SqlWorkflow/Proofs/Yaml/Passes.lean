import SqlWorkflow.Yaml.Token

namespace SqlWorkflow.Yaml

namespace Cursor

def Passes (cursor later : Cursor) : Prop :=
  later.rest <:+ cursor.rest

theorem passes_refl (cursor : Cursor) : cursor.Passes cursor :=
  List.suffix_refl _

theorem Passes.trans {a b c : Cursor} (first : a.Passes b) (second : b.Passes c) : a.Passes c :=
  List.IsSuffix.trans second first

theorem skip_passes (cursor : Cursor) (n : Nat) : cursor.Passes (cursor.skip n) :=
  List.drop_suffix _ _

theorem skip_while_passes (cursor : Cursor) (p : Char → Bool) : cursor.Passes (cursor.skipWhile p) :=
  cursor.skip_passes _

-- A break is one or two characters, and these are blanks of every kind.
theorem read_break_text (cursor next : Cursor) (text : List Char)
    (read : cursor.readBreak? = some (text, next)) :
    ∃ c more, cursor.rest = c :: (more ++ next.rest) ∧ isBreak c = true ∧
      ∀ d ∈ more, isBreak d = true := by
  unfold readBreak? at read
  split at read
  · rename_i rest shape
    obtain ⟨rfl, rfl⟩ := Prod.mk.inj (Option.some.inj read)
    exact ⟨'\r', ['\n'], shape, rfl, by simp [isBreak]⟩
  · rename_i c rest _ shape
    split at read
    · rename_i separator
      obtain ⟨rfl, rfl⟩ := Prod.mk.inj (Option.some.inj read)
      refine ⟨c, [], shape, ?_, by simp⟩
      rcases separator with rfl | rfl <;> rfl
    · split at read
      · rename_i isBreak
        obtain ⟨rfl, rfl⟩ := Prod.mk.inj (Option.some.inj read)
        exact ⟨c, [], shape, isBreak, by simp⟩
      · cases read
  · cases read

theorem read_break_passes (cursor next : Cursor) (text : List Char)
    (read : cursor.readBreak? = some (text, next)) : cursor.Passes next := by
  obtain ⟨c, more, shape, _, _⟩ := cursor.read_break_text next text read
  exact ⟨c :: more, shape.symm⟩

theorem after_break_passes (cursor : Cursor) :
    cursor.Passes (((cursor.readBreak?).map Prod.snd).getD cursor) := by
  cases read : cursor.readBreak? with
  | none => exact cursor.passes_refl
  | some result => exact cursor.read_break_passes result.2 result.1 read

theorem comment_passes (cursor : Cursor) (c : Char) (p : Char → Bool) :
    cursor.Passes (if cursor.atChar c then cursor.skipWhile p else cursor) := by
  split
  · exact cursor.skip_while_passes p
  · exact cursor.passes_refl

end Cursor

open Cursor

-- What one step of reading a gap does: it ends the gap, passes a line break, or passes a blank, which
-- counts only as long as no line has ended.
theorem read_gap_step (fuel : Nat) (bound : Option Nat) (gap : Gap) (cursor : Cursor)
    (found : Gap × Cursor) (read : readGap (fuel + 1) bound gap cursor = some found) :
    found = (gap, cursor) ∨
      (∃ text behind, cursor.readBreak? = some (text, behind) ∧
        readGap fuel bound { gap with breaks := gap.breaks ++ [text] } behind = some found) ∨
      ∃ c, cursor.rest = c :: (cursor.skip 1).rest ∧ isBlank c = true ∧
        readGap fuel bound
          (if gap.hasBreak then gap else { gap with blanks := gap.blanks ++ [c] })
          (cursor.skip 1) = some found := by
  rw [readGap] at read
  split at read
  · rename_i text behind broken
    exact Or.inr (Or.inl ⟨text, behind, broken, read⟩)
  · split at read
    · rename_i c rest shape
      have tail : cursor.rest = c :: (cursor.skip 1).rest := by rw [skip, shape]; rfl
      split at read
      · exact Or.inl (Option.some.inj read).symm
      · rename_i blank
        refine Or.inr (Or.inr ⟨c, tail, by simpa using blank, ?_⟩)
        split at read
        · rename_i broken
          rw [if_pos broken]
          split at read
          · cases read
          · exact read
        · rename_i line
          rw [if_neg line]
          exact read
    · exact Or.inl (Option.some.inj read).symm

theorem read_gap_text (fuel : Nat) (bound : Option Nat) (gap found : Gap) (cursor next : Cursor)
    (read : readGap fuel bound gap cursor = some (found, next)) :
    ∃ spaces, cursor.rest = spaces ++ next.rest ∧ ∀ c ∈ spaces, isSpace c = true := by
  induction fuel generalizing gap cursor with
  | zero =>
      obtain ⟨rfl, rfl⟩ := Prod.mk.inj (Option.some.inj read)
      exact ⟨[], rfl, by simp⟩
  | succ fuel ih =>
      rcases read_gap_step fuel bound gap cursor _ read with
        ended | ⟨text, behind, broken, read⟩ | ⟨c, shape, blank, read⟩
      · obtain ⟨rfl, rfl⟩ := Prod.mk.inj ended
        exact ⟨[], rfl, by simp⟩
      · obtain ⟨c, more, shape, first, others⟩ := cursor.read_break_text behind text broken
        obtain ⟨spaces, rest, blank⟩ := ih _ behind read
        refine ⟨c :: more ++ spaces, by simp [shape, rest], fun d member => ?_⟩
        simp only [List.cons_append, List.mem_cons, List.mem_append] at member
        rcases member with rfl | later | later
        · simp [isSpace, first]
        · simp [isSpace, others d later]
        · exact blank d later
      · obtain ⟨spaces, split, blanks⟩ := ih _ (cursor.skip 1) read
        refine ⟨c :: spaces, by rw [shape, split]; rfl, List.forall_mem_cons.mpr ⟨?_, blanks⟩⟩
        simp [isSpace, blank]

theorem read_gap_passes (fuel : Nat) (bound : Option Nat) (gap found : Gap) (cursor next : Cursor)
    (read : readGap fuel bound gap cursor = some (found, next)) : cursor.Passes next := by
  obtain ⟨spaces, shape, _⟩ := read_gap_text fuel bound gap found cursor next read
  exact ⟨spaces, shape.symm⟩

theorem plain_rest_passes (flow : Bool) (bound fuel : Nat) (text : List Char) (cursor : Cursor)
    (found : List Char × Cursor × Bool)
    (read : plainRest flow bound fuel text cursor = some found) : cursor.Passes found.2.1 := by
  induction fuel generalizing text cursor with
  | zero =>
      obtain rfl := Option.some.inj read
      exact cursor.passes_refl
  | succ fuel ih =>
      rw [plainRest] at read
      split at read
      · obtain rfl := Option.some.inj read
        exact cursor.passes_refl
      · obtain ⟨⟨gap, behind⟩, gapped, read⟩ := Option.bind_eq_some_iff.mp read
        have before := read_gap_passes _ _ _ _ cursor _ gapped
        dsimp only at read
        split at read
        · obtain rfl := Option.some.inj read
          exact before
        · split at read
          · obtain rfl := Option.some.inj read
            exact before
          · obtain ⟨word, _, read⟩ := Option.bind_eq_some_iff.mp read
            split at read
            · obtain rfl := Option.some.inj read
              exact before
            · exact before.trans ((skip_passes _ _).trans (ih _ _ read))

theorem read_plain_passes (flow : Bool) (bound : Nat) (cursor : Cursor)
    (found : List Char × Cursor × Bool) (read : readPlain flow bound cursor = some found) :
    cursor.Passes found.2.1 := by
  obtain ⟨word, _, read⟩ := Option.bind_eq_some_iff.mp read
  exact (skip_passes _ _).trans (plain_rest_passes _ _ _ _ _ found read)

theorem block_breaks_passes (indent fuel : Nat) (breaks : List Char) (widest : Nat)
    (cursor : Cursor) (found : List Char × Nat × Cursor)
    (read : blockBreaks indent fuel breaks widest cursor = some found) :
    cursor.Passes found.2.2 := by
  induction fuel generalizing breaks widest cursor with
  | zero =>
      obtain rfl := Option.some.inj read
      exact cursor.passes_refl
  | succ fuel ih =>
      rw [blockBreaks] at read
      have spaces := cursor.skip_passes (if indent = 0 then (cursor.rest.takeWhile (· == ' ')).length
        else min (cursor.rest.takeWhile (· == ' ')).length (indent - cursor.column))
      generalize cursor.skip (if indent = 0 then _ else _) = behind at read spaces
      split at read
      · cases read
      · split at read
        · obtain rfl := Option.some.inj read
          exact spaces
        · rename_i broken
          exact spaces.trans ((behind.read_break_passes _ _ broken).trans (ih _ _ _ read))

theorem block_lines_passes (literal : Bool) (indent fuel : Nat) (text ending empty : List Char)
    (blank : Bool) (cursor : Cursor) (found : List Char × List Char × List Char × Cursor)
    (read : blockLines literal indent fuel text ending empty blank cursor = some found) :
    cursor.Passes found.2.2.2 := by
  induction fuel generalizing text ending empty blank cursor with
  | zero =>
      obtain rfl := Option.some.inj read
      exact cursor.passes_refl
  | succ fuel ih =>
      rw [blockLines] at read
      split at read
      · obtain rfl := Option.some.inj read
        exact cursor.passes_refl
      · extract_lets startsBlank joint line behind at read
        split at read
        rename_i ending next broken
        split at read
        · cases read
        · rename_i breaks
          have onward := (block_breaks_passes _ _ _ _ _ _ breaks).trans (ih _ _ _ _ _ read)
          refine (cursor.skip_passes line.length).trans (Passes.trans ?_ onward)
          cases found : behind.readBreak? with
          | none =>
              rw [found] at broken
              obtain ⟨_, rfl⟩ := Prod.mk.inj broken
              exact behind.passes_refl
          | some result =>
              rw [found] at broken
              obtain rfl : result = (ending, next) := broken
              exact behind.read_break_passes _ _ found

theorem chomping_sign_passes (cursor : Cursor) : cursor.Passes (chompingSign cursor).2 := by
  unfold chompingSign
  split
  · exact skip_passes _ _
  · exact cursor.passes_refl

theorem indent_digit_passes (cursor : Cursor) (found : Option Nat × Cursor)
    (read : indentDigit cursor = some found) : cursor.Passes found.2 := by
  unfold indentDigit at read
  split at read
  · split at read
    · split at read
      · cases read
      · obtain rfl := Option.some.inj read
        exact skip_passes _ _
    · obtain rfl := Option.some.inj read
      exact cursor.passes_refl
  · obtain rfl := Option.some.inj read
    exact cursor.passes_refl

theorem block_header_passes (cursor : Cursor) (found : Chomping × Option Nat × Cursor)
    (read : blockHeader cursor = some found) : cursor.Passes found.2.2 := by
  have signed := chomping_sign_passes cursor
  unfold blockHeader at read
  split at read
  · rename_i sign behind shape
    rw [shape] at signed
    obtain ⟨⟨digit, next⟩, digits, read⟩ := Option.bind_eq_some_iff.mp read
    obtain rfl := Option.some.inj read
    exact signed.trans (indent_digit_passes behind _ digits)
  · rename_i behind shape
    rw [shape] at signed
    obtain ⟨⟨digit, next⟩, digits, read⟩ := Option.bind_eq_some_iff.mp read
    have here := signed.trans (indent_digit_passes behind _ digits)
    dsimp only at read
    split at read
    · obtain rfl := Option.some.inj read
      exact here.trans (chomping_sign_passes next)
    · obtain rfl := Option.some.inj read
      exact here

theorem read_block_passes (parent : Int) (cursor : Cursor) (found : List Char × Cursor)
    (read : readBlock parent cursor = some found) : cursor.Passes found.2 := by
  obtain ⟨⟨chomping, digit, behind⟩, header, read⟩ := Option.bind_eq_some_iff.mp read
  have opened := (skip_passes cursor 1).trans (block_header_passes _ _ header)
  have line := (behind.skip_while_passes isBlank).trans (comment_passes _ '#' (!isBreak ·))
  dsimp only at read opened
  generalize (if (behind.skipWhile isBlank).atChar '#' then _ else _ : Cursor) = comment at read line
  split at read
  · cases read
  · obtain ⟨⟨empty, widest, text⟩, breaks, read⟩ := Option.bind_eq_some_iff.mp read
    obtain ⟨⟨lines, ending, others, next⟩, body, read⟩ := Option.bind_eq_some_iff.mp read
    obtain rfl := Option.some.inj read
    have written := (block_breaks_passes _ _ _ _ _ _ breaks).trans
      (block_lines_passes _ _ _ _ _ _ _ _ _ body)
    exact opened.trans (line.trans (comment.after_break_passes.trans written))

theorem read_name_passes (cursor : Cursor) (found : String × Cursor)
    (read : Scanner.readName cursor = some found) : cursor.Passes found.2 := by
  unfold Scanner.readName at read
  extract_lets behind name next at read
  split at read
  · cases read
  · split at read
    · obtain rfl := Option.some.inj read
      exact (skip_passes _ _).trans (skip_passes _ _)
    · cases read

theorem read_tag_step (cursor : Cursor) (found : Token × Cursor)
    (read : Scanner.readTag cursor = some found) :
    cursor.Passes found.2 ∧ ∃ handle name, found.1 = .tag handle name := by
  unfold Scanner.readTag at read
  split at read
  · obtain ⟨⟨name, count⟩, _, read⟩ := Option.bind_eq_some_iff.mp read
    dsimp only at read
    split at read
    · cases read
    · obtain rfl := Option.some.inj read
      exact ⟨(skip_passes _ _).trans (skip_passes _ _), _, _, rfl⟩
  · dsimp only at read
    split at read
    · obtain ⟨⟨name, count⟩, _, read⟩ := Option.bind_eq_some_iff.mp read
      dsimp only at read
      split at read
      · cases read
      · obtain rfl := Option.some.inj read
        exact ⟨(skip_passes _ _).trans (skip_passes _ _), _, _, rfl⟩
    · obtain ⟨⟨name, count⟩, _, read⟩ := Option.bind_eq_some_iff.mp read
      obtain rfl := Option.some.inj read
      refine ⟨(skip_passes _ _).trans (skip_passes _ _), ?_⟩
      split <;> exact ⟨_, _, rfl⟩

theorem read_number_passes (cursor : Cursor) (found : Nat × Cursor)
    (read : Scanner.readDirectiveNumber cursor = some found) : cursor.Passes found.2 := by
  unfold Scanner.readDirectiveNumber at read
  extract_lets digits at read
  split at read
  · cases read
  · obtain rfl := Option.some.inj read
    exact skip_passes _ _

theorem read_version_step (cursor : Cursor) (found : Token × Cursor)
    (read : Scanner.readVersion cursor = some found) :
    cursor.Passes found.2 ∧ ∃ major minor, found.1 = .version major minor := by
  obtain ⟨⟨major, behind⟩, first, read⟩ := Option.bind_eq_some_iff.mp read
  dsimp only at read
  split at read
  · cases read
  · obtain ⟨⟨minor, next⟩, second, read⟩ := Option.bind_eq_some_iff.mp read
    obtain rfl := Option.some.inj read
    refine ⟨(skip_while_passes _ _).trans ((read_number_passes _ _ first).trans ?_), _, _, rfl⟩
    exact (skip_passes _ _).trans (read_number_passes _ _ second)

theorem read_tag_directive_step (cursor : Cursor) (found : Token × Cursor)
    (read : Scanner.readTagDirective cursor = some found) :
    cursor.Passes found.2 ∧ ∃ handle start, found.1 = .tagDirective handle start := by
  unfold Scanner.readTagDirective at read
  extract_lets behind handle next at read
  split at read
  · cases read
  · obtain ⟨⟨start, count⟩, _, read⟩ := Option.bind_eq_some_iff.mp read
    dsimp only at read
    split at read
    · cases read
    · obtain rfl := Option.some.inj read
      have named := (cursor.skip_while_passes isBlank).trans (behind.skip_passes handle.length)
      refine ⟨named.trans ((next.skip_while_passes isBlank).trans (skip_passes _ _)), _, _, rfl⟩

end SqlWorkflow.Yaml
