import Mathlib.Data.List.Forall2
import SqlWorkflow.Proofs.Compile.Renderings

namespace SqlWorkflow.Sql

open Text

theorem groups_ne_nil (lines : List (List Char)) : groups lines ≠ [] := by
  cases lines with
  | nil => simp [groups]
  | cons line lines =>
      by_cases separator : isSeparator line = true
      · simp [groups, separator]
      · simp only [groups, if_neg separator]
        split <;> simp

theorem groups_cons (line : List Char) (lines : List (List Char))
    (other : isSeparator line = false) :
    ∃ group more, groups lines = group :: more ∧ groups (line :: lines) = (line :: group) :: more := by
  cases found : groups lines with
  | nil => exact absurd found (groups_ne_nil lines)
  | cons group more => exact ⟨group, more, rfl, by simp [groups, other, found]⟩

theorem groups_separator (front back : List (List Char)) (line : List Char)
    (separator : isSeparator line = true) :
    groups (front ++ line :: back) = groups front ++ groups back := by
  induction front with
  | nil => simp [groups, separator]
  | cons first front ih =>
      by_cases cut : isSeparator first = true
      · simp [groups, cut, ih]
      · have other : isSeparator first = false := by simpa using cut
        obtain ⟨group, more, found, whole⟩ := groups_cons first front other
        simp [groups, other, ih, found]

theorem groups_lines (lines : List (List Char)) :
    ∀ group ∈ groups lines, ∀ line ∈ group, line ∈ lines ∧ isSeparator line = false := by
  induction lines with
  | nil => simp [groups]
  | cons line lines ih =>
      intro group member other inside
      by_cases separator : isSeparator line = true
      · rw [groups, if_pos separator] at member
        rcases List.mem_cons.mp member with rfl | later
        · cases inside
        · exact (ih group later other inside).imp_left (List.mem_cons_of_mem line)
      · have first : isSeparator line = false := by simpa using separator
        obtain ⟨start, more, found, whole⟩ := groups_cons line lines first
        rw [found] at ih
        rw [whole] at member
        rcases List.mem_cons.mp member with rfl | later
        · rcases List.mem_cons.mp inside with rfl | further
          · exact ⟨List.mem_cons_self, first⟩
          · exact (ih start List.mem_cons_self other further).imp_left (List.mem_cons_of_mem line)
        · exact (ih group (List.mem_cons_of_mem start later) other inside).imp_left
            (List.mem_cons_of_mem line)

theorem groups_undivided (lines : List (List Char))
    (undivided : ∀ line ∈ lines, isSeparator line = false) : groups lines = [lines] := by
  induction lines with
  | nil => rfl
  | cons line lines ih =>
      obtain ⟨first, rest⟩ := List.forall_mem_cons.mp undivided
      simp [groups, first, ih rest]

def textsOf (lines : List (List Char)) : List (List Char) :=
  ((groups lines).map fun group => trimChars (joinLines group)).filter (!·.isEmpty)

theorem texts_of_separator (front back : List (List Char)) (line : List Char)
    (separator : isSeparator line = true) :
    textsOf (front ++ line :: back) = textsOf front ++ textsOf back := by
  rw [textsOf, groups_separator front back line separator, List.map_append, List.filter_append]
  rfl

def Alike (a b : List (List Char)) : Prop :=
  trimRight (joinLines a) = trimRight (joinLines b)

theorem separator_congr (a b : List Char) (same : trimRight a = trimRight b) :
    isSeparator a = isSeparator b := by
  rw [isSeparator, isSeparator, trim_chars_congr a b same]

theorem join_lines_cons (line : List Char) (lines : List (List Char)) :
    joinLines (line :: lines) = (line ++ ['\n']) ++ joinLines lines :=
  List.flatMap_cons

theorem groups_cons_alike (line : List Char) (a b : List (List Char))
    (alike : List.Forall₂ Alike (groups a) (groups b)) :
    List.Forall₂ Alike (groups (line :: a)) (groups (line :: b)) := by
  by_cases separator : isSeparator line = true
  · rw [groups, groups, if_pos separator, if_pos separator]
    exact .cons rfl alike
  · have other : isSeparator line = false := by simpa using separator
    obtain ⟨first, more, foundA, wholeA⟩ := groups_cons line a other
    obtain ⟨second, others, foundB, wholeB⟩ := groups_cons line b other
    rw [foundA, foundB] at alike
    rw [wholeA, wholeB]
    obtain ⟨same, rest⟩ := List.forall₂_cons.mp alike
    refine .cons ?_ rest
    rw [Alike, join_lines_cons, join_lines_cons]
    exact trim_right_congr _ _ _ same

-- The last line of a text may lack its line feed and keep its return.
theorem groups_lines_alike (pieces : List (List Char)) :
    List.Forall₂ Alike (groups (linesOf pieces)) (groups (pieces.map withoutReturn)) := by
  induction pieces using linesOf.induct with
  | case1 => exact .cons rfl .nil
  | case2 last empty =>
      obtain rfl : last = [] := by simpa using empty
      exact .cons rfl .nil
  | case3 last filled =>
      have same := without_return_alike last
      have separators := separator_congr _ _ same
      rw [linesOf, if_neg filled, List.map_singleton]
      by_cases separator : isSeparator last = true
      · have again : isSeparator (withoutReturn last) = true := separators.trans separator
        simp only [groups, if_pos separator, if_pos again]
        exact .cons rfl (.cons rfl .nil)
      · have other : isSeparator last = false := by simpa using separator
        rw [groups_undivided [last] (by simpa using other),
          groups_undivided [withoutReturn last] (by simpa [separators] using other)]
        refine .cons ?_ .nil
        simp only [Alike, joinLines, List.flatMap_singleton]
        rw [trim_right_concat_blank _ _ rfl, trim_right_concat_blank _ _ rfl, same]
  | case4 line rest more ih =>
      rw [linesOf, List.map_cons]
      · exact groups_cons_alike _ _ _ ih
      · exact more

theorem texts_of_lines (pieces : List (List Char)) :
    textsOf (linesOf pieces) = textsOf (pieces.map withoutReturn) := by
  have same : (groups (linesOf pieces)).map (fun group => trimChars (joinLines group)) =
      (groups (pieces.map withoutReturn)).map fun group => trimChars (joinLines group) := by
    have alike := groups_lines_alike pieces
    generalize groups (linesOf pieces) = a at alike
    generalize groups (pieces.map withoutReturn) = b at alike
    induction alike with
    | nil => rfl
    | cons same _ ih => rw [List.map_cons, List.map_cons, trim_chars_congr _ _ same, ih]
  rw [textsOf, same, textsOf]

def Undivided (sql : String) : Prop :=
  ∀ line ∈ lines sql, trim line ≠ "---"

theorem lines_of_separators (pieces : List (List Char)) :
    (∀ line ∈ linesOf pieces, isSeparator line = false) ↔
      ∀ piece ∈ pieces, isSeparator piece = false := by
  induction pieces using linesOf.induct with
  | case1 => simp [linesOf]
  | case2 last empty =>
      obtain rfl : last = [] := by simpa using empty
      simp [linesOf, isSeparator, trimChars, trimLeft, trimRight]
  | case3 last filled => rw [linesOf, if_neg filled]
  | case4 line rest more ih =>
      have same := separator_congr _ _ (without_return_alike line)
      rw [linesOf, List.forall_mem_cons, List.forall_mem_cons, ih, same]
      exact more

theorem undivided_iff (sql : String) :
    Undivided sql ↔ ∀ piece ∈ splitOn '\n' sql.toList, isSeparator piece = false := by
  have each (line : List Char) : trim (String.ofList line) ≠ "---" ↔ isSeparator line = false := by
    rw [trim, String.toList_ofList, isSeparator, beq_eq_false_iff_ne,
      show "---" = String.ofList ['-', '-', '-'] from rfl, ne_eq, ne_eq, String.ofList_inj]
  rw [← lines_of_separators, Undivided, lines, List.forall_mem_map]
  exact forall₂_congr fun line _ => each line

theorem split_statements_eq (sql : String) :
    splitStatements sql = (textsOf (linesOf (splitOn '\n' sql.toList))).map String.ofList :=
  rfl

theorem split_statements_append (a b : String) :
    splitStatements (a ++ "\n---\n" ++ b) = splitStatements a ++ splitStatements b := by
  have cut : splitOn '\n' (a ++ "\n---\n" ++ b).toList =
      splitOn '\n' a.toList ++ ['-', '-', '-'] :: splitOn '\n' b.toList := by
    have whole : (a ++ "\n---\n" ++ b).toList =
        a.toList ++ '\n' :: (['-', '-', '-'] ++ '\n' :: b.toList) := by simp
    rw [whole, split_on_append, split_on_append]
    rfl
  have some : splitOn '\n' b.toList ≠ [] := split_on_ne_nil _ _
  have read : linesOf (['-', '-', '-'] :: splitOn '\n' b.toList) =
      ['-', '-', '-'] :: linesOf (splitOn '\n' b.toList) :=
    lines_of_append [['-', '-', '-']] _ some
  rw [split_statements_eq, cut, lines_of_append _ _ (List.cons_ne_nil _ _), read,
    texts_of_separator _ _ _ (by decide), ← texts_of_lines, List.map_append,
    ← split_statements_eq, ← split_statements_eq]

theorem join_lines_text (pieces : List (List Char)) (some : pieces ≠ []) :
    joinLines pieces = joinWith ['\n'] pieces ++ ['\n'] := by
  induction pieces with
  | nil => exact absurd rfl some
  | cons piece pieces ih =>
      by_cases last : pieces = []
      · simp [last, joinLines, joinWith]
      · rw [join_lines_cons, ih last, join_with_cons _ _ _ last]
        simp

theorem split_statements_single (sql : String) (statement : IsStatement sql)
    (undivided : Undivided sql) (plain : '\r' ∉ sql.toList) : splitStatements sql = [sql] := by
  have same : (splitOn '\n' sql.toList).map withoutReturn = splitOn '\n' sql.toList := by
    have each (piece : List Char) (member : piece ∈ splitOn '\n' sql.toList) :
        withoutReturn piece = piece := by
      have inside := mem_join_with ['\n'] piece _ member
      rw [join_with_split_on] at inside
      exact without_return_plain piece fun here => plain (inside here)
    rw [List.map_congr_left each, List.map_id']
  have group := groups_undivided _ ((undivided_iff sql).mp undivided)
  have text : trimChars (joinLines (splitOn '\n' sql.toList)) = sql.toList := by
    rw [join_lines_text _ (split_on_ne_nil _ _), join_with_split_on,
      trim_chars_congr _ _ (trim_right_concat_blank _ _ rfl), trim_chars_trimmed sql statement.2]
  have filled : sql.toList.isEmpty = false := by
    have some := statement.1
    simpa using some
  rw [split_statements_eq, texts_of_lines, same, textsOf, group, List.map_singleton, text]
  simp [filled]

theorem split_statements_join (statements : List String)
    (each : ∀ sql ∈ statements, splitStatements sql = [sql]) :
    splitStatements (join "\n---\n" statements) = statements := by
  induction statements with
  | nil => rfl
  | cons sql statements ih =>
      obtain ⟨first, rest⟩ := List.forall_mem_cons.mp each
      by_cases last : statements = []
      · rw [last, join_single, first]
      · rw [join_cons _ _ _ last, split_statements_append, first, ih rest]
        rfl

theorem join_lines_pieces (group : List (List Char)) (plain : ∀ line ∈ group, '\n' ∉ line) :
    splitOn '\n' (joinLines group) = group ++ [[]] := by
  induction group with
  | nil => rfl
  | cons line group ih =>
      obtain ⟨first, rest⟩ := List.forall_mem_cons.mp plain
      have whole : joinLines (line :: group) = line ++ '\n' :: joinLines group := by
        simp [join_lines_cons]
      rw [whole, split_on_append, split_on_plain _ _ first, ih rest]
      rfl

theorem lines_of_unbroken (pieces : List (List Char)) (plain : ∀ piece ∈ pieces, '\n' ∉ piece) :
    ∀ line ∈ linesOf pieces, '\n' ∉ line := by
  induction pieces using linesOf.induct with
  | case1 => simp [linesOf]
  | case2 last empty => simp [linesOf, empty]
  | case3 last filled => simpa [linesOf, filled] using plain
  | case4 line rest more ih =>
      obtain ⟨first, others⟩ := List.forall_mem_cons.mp plain
      rw [linesOf, List.forall_mem_cons]
      · exact ⟨fun here => first (without_return_subset line here), ih others⟩
      · exact more

-- Trimming takes no more than blanks from the first and the last line of a group.
theorem split_statements_undivided (sql : String) :
    ∀ statement ∈ splitStatements sql, Undivided statement := by
  intro statement member
  obtain ⟨chars, kept, rfl⟩ := List.mem_map.mp member
  obtain ⟨group, found, rfl⟩ := List.mem_map.mp (List.mem_filter.mp kept).1
  have inside := groups_lines _ group found
  have unbroken (line : List Char) (here : line ∈ group) : '\n' ∉ line :=
    lines_of_unbroken _ (split_on_pieces '\n' sql.toList) line (inside line here).1
  rw [undivided_iff, String.toList_ofList]
  intro piece pieceMember
  obtain ⟨line, there, same⟩ := trim_chars_pieces '\n' _ piece pieceMember
  have other : isSeparator line = false := by
    rw [join_lines_pieces group unbroken] at there
    rcases List.mem_append.mp there with here | final
    · exact (inside line here).2
    · obtain rfl := List.mem_singleton.mp final
      decide
  rwa [isSeparator, ← same]

-- Statements that are joined by separator lines come back, the two sides of a separator line are cut
-- apart from each other, and what comes out are statements.
theorem joined_statements_split :
    (∀ statements : List String,
      (∀ sql ∈ statements, IsStatement sql ∧ '\r' ∉ sql.toList ∧ Undivided sql) →
        splitStatements (join "\n---\n" statements) = statements) ∧
    (∀ a b : String,
      splitStatements (a ++ "\n---\n" ++ b) = splitStatements a ++ splitStatements b) ∧
    ∀ sql : String, ∀ statement ∈ splitStatements sql,
      IsStatement statement ∧ Undivided statement := by
  refine ⟨fun statements good => ?_, split_statements_append, fun sql statement member => ?_⟩
  · refine split_statements_join statements fun sql member => ?_
    obtain ⟨statement, plain, undivided⟩ := good sql member
    exact split_statements_single sql statement undivided plain
  · exact ⟨split_statements_all sql statement member, split_statements_undivided sql statement member⟩

def sampleStatements : List String :=
  ["grant select on orders\n  -- --- kept\nto reader", "select 2"]

theorem sample_statements_good : ∀ sql ∈ sampleStatements,
    IsStatement sql ∧ '\r' ∉ sql.toList ∧ Undivided sql := by
  unfold IsStatement Undivided
  decide

theorem sample_statements_split :
    (∀ sql ∈ sampleStatements, IsStatement sql ∧ '\r' ∉ sql.toList ∧ Undivided sql) ∧
      splitStatements (join "\n---\n" sampleStatements) = sampleStatements :=
  ⟨sample_statements_good, joined_statements_split.1 sampleStatements sample_statements_good⟩

end SqlWorkflow.Sql
