import SqlWorkflow.Proofs.Definition.BlockText

namespace SqlWorkflow.Definition

inductive Trivia : List Char → Prop where
  | none : Trivia []
  | blank {c : Char} {rest : List Char} (blank : Text.isAsciiBlank c = true) (more : Trivia rest) :
      Trivia (c :: rest)
  | dashComment {comment rest : List Char} (line : '\n' ∉ comment) (more : Trivia rest) :
      Trivia ('-' :: '-' :: (comment ++ '\n' :: rest))
  | starComment {comment rest : List Char} (unclosed : Unclosed comment) (more : Trivia rest) :
      Trivia ('/' :: '*' :: (comment ++ '*' :: '/' :: rest))

theorem after_comment_append (comment rest : List Char) (unclosed : Unclosed comment) :
    afterComment? (comment ++ '*' :: '/' :: rest) = some rest := by
  induction comment with
  | nil => rfl
  | cons c comment ih =>
      have later : Unclosed comment := fun found =>
        unclosed (found.trans (List.suffix_cons c _).isInfix)
      rw [← ih later, List.cons_append]
      refine afterComment?.eq_2 c _ fun more star slash => ?_
      cases comment with
      | nil => cases slash
      | cons d comment =>
          obtain ⟨rfl, -⟩ : d = '/' ∧ _ := by simpa using slash
          subst star
          exact unclosed ⟨[], comment, rfl⟩

theorem drop_while_line (comment rest : List Char) (line : '\n' ∉ comment) :
    (comment ++ '\n' :: rest).dropWhile (· != '\n') = '\n' :: rest := by
  rw [List.dropWhile_append_of_pos]
  · rfl
  · intro c member
    have different : c ≠ '\n' := fun same => line (same ▸ member)
    simpa using different

theorem skip_trivia_blank (c : Char) (rest : List Char) (blank : Text.isAsciiBlank c = true) :
    skipTrivia (c :: rest) = skipTrivia rest := by
  have noDash : c ≠ '-' := by rintro rfl; cases blank
  have noSlash : c ≠ '/' := by rintro rfl; cases blank
  rw [skipTrivia, if_pos blank]
  · exact fun _ dash _ => noDash dash
  · exact fun _ slash _ => noSlash slash

theorem skip_trivia_solid (c : Char) (rest : List Char) (noDash : c ≠ '-') (noSlash : c ≠ '/')
    (solid : Text.isAsciiBlank c = false) : skipTrivia (c :: rest) = c :: rest := by
  rw [skipTrivia, if_neg (by simpa using solid)]
  · exact fun _ dash _ => noDash dash
  · exact fun _ slash _ => noSlash slash

theorem skip_trivia_append (trivia rest : List Char) (wellFormed : Trivia trivia) :
    skipTrivia (trivia ++ rest) = skipTrivia rest := by
  induction wellFormed with
  | none => rfl
  | @blank c more blank _ ih => rw [List.cons_append, skip_trivia_blank c _ blank, ih]
  | @dashComment comment more line _ ih =>
      have shape : '-' :: '-' :: (comment ++ '\n' :: more) ++ rest =
          '-' :: '-' :: (comment ++ '\n' :: (more ++ rest)) := by simp
      rw [shape, skipTrivia, drop_while_line comment _ line, skip_trivia_blank '\n' _ rfl, ih]
  | @starComment comment more unclosed _ ih =>
      have shape : '/' :: '*' :: (comment ++ '*' :: '/' :: more) ++ rest =
          '/' :: '*' :: (comment ++ '*' :: '/' :: (more ++ rest)) := by simp
      have found := after_comment_append comment (more ++ rest) unclosed
      rw [shape, skipTrivia]
      split
      · rename_i missing
        cases found.symm.trans missing
      · rename_i after same
        cases found.symm.trans same
        exact ih

theorem after_comment_split (text rest : List Char) (found : afterComment? text = some rest) :
    ∃ comment, Unclosed comment ∧ text = comment ++ '*' :: '/' :: rest := by
  fun_induction afterComment? text with
  | case1 text =>
      cases found
      exact ⟨[], by simp [Unclosed], rfl⟩
  | case2 c text open' ih =>
      obtain ⟨comment, unclosed, rfl⟩ := ih found
      refine ⟨c :: comment, ?_, rfl⟩
      intro closed
      rcases List.infix_cons_iff.mp closed with ⟨more, start⟩ | within
      · cases comment with
        | nil => cases start
        | cons d comment =>
            cases start
            exact open' _ rfl rfl
      · exact unclosed within
  | case3 => cases found

theorem skip_trivia_head (text : List Char) (c : Char) (rest : List Char)
    (kept : skipTrivia text = c :: rest) : Text.isAsciiBlank c = false := by
  fun_induction skipTrivia text with
  | case1 => cases kept
  | case2 _ ih => exact ih kept
  | case3 => cases kept; rfl
  | case4 _ _ _ ih => exact ih kept
  | case5 _ _ _ _ _ ih => exact ih kept
  | case6 _ _ _ _ solid => cases kept; simpa using solid

theorem trivia_of_line_feed (trivia : List Char) (wellFormed : Trivia ('\n' :: trivia)) :
    Trivia trivia := by
  cases wellFormed with
  | blank _ more => exact more

-- What is skipped is trivia, unless a line comment at the end of the text has taken all.
theorem skip_trivia_split (text : List Char) (filled : skipTrivia text ≠ []) :
    ∃ trivia, Trivia trivia ∧ text = trivia ++ skipTrivia text := by
  fun_induction skipTrivia text with
  | case1 => exact absurd rfl filled
  | case2 rest ih =>
      obtain ⟨trivia, wellFormed, split⟩ := ih filled
      have whole := List.takeWhile_append_dropWhile (p := (· != '\n')) (l := rest)
      have line : '\n' ∉ rest.takeWhile (· != '\n') := fun member => by
        simpa using List.all_eq_true.mp List.all_takeWhile '\n' member
      cases left : rest.dropWhile (· != '\n') with
      | nil => exact absurd (by rw [left, skipTrivia]) filled
      | cons c more =>
          have feed : c = '\n' := by
            have head := List.head?_dropWhile_not (· != '\n') rest
            rw [left] at head
            simpa using head
          subst feed
          cases trivia with
          | nil =>
              -- the line feed itself is skipped
              rw [List.nil_append, left] at split
              exact absurd (skip_trivia_head _ _ _ split.symm) (by decide)
          | cons d trivia =>
              rw [left] at split whole
              obtain ⟨rfl, -⟩ := List.cons.inj split
              refine ⟨_, .dashComment line (trivia_of_line_feed trivia wellFormed), ?_⟩
              simp only [List.cons_append, List.append_assoc]
              exact congrArg (fun text => '-' :: '-' :: text) (whole.symm.trans (congrArg _ split))
  | case3 => exact ⟨[], .none, rfl⟩
  | case4 rest after found ih =>
      obtain ⟨trivia, wellFormed, split⟩ := ih filled
      obtain ⟨comment, unclosed, rfl⟩ := after_comment_split rest after found
      refine ⟨_, .starComment unclosed wellFormed, ?_⟩
      simp only [List.cons_append, List.append_assoc, ← split]
  | case5 c rest _ _ blank ih =>
      obtain ⟨trivia, wellFormed, split⟩ := ih filled
      exact ⟨c :: trivia, .blank blank wellFormed, congrArg (c :: ·) split⟩
  | case6 => exact ⟨[], .none, rfl⟩

end SqlWorkflow.Definition
