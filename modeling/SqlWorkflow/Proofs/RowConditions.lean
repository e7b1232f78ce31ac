import SqlWorkflow.AssertionSql
import SqlWorkflow.Proofs.Results
import SqlWorkflow.Proofs.Text

namespace SqlWorkflow.AssertionSql

-- The content of a literal behind its opening quote, and what follows the literal. A backslash takes
-- the next character as it is, a doubled quote stands for one, and the first quote that is neither
-- taken nor doubled is the closing one.
def readContent : List Char → Option (List Char × List Char)
  | [] => none
  | '\\' :: [] => none
  | '\\' :: c :: rest => (readContent rest).map fun read => (c :: read.1, read.2)
  | '\'' :: '\'' :: rest => (readContent rest).map fun read => ('\'' :: read.1, read.2)
  | '\'' :: rest => some ([], rest)
  | c :: rest => (readContent rest).map fun read => (c :: read.1, read.2)

def readLiteral : List Char → Option (List Char × List Char)
  | '\'' :: content => readContent content
  | _ => none

theorem read_content_end (rest : List Char) (ends : rest.head? ≠ some '\'') :
    readContent ('\'' :: rest) = some ([], rest) := by
  cases rest with
  | nil => rfl
  | cons c rest =>
      have other : c ≠ '\'' := by simpa using ends
      rw [readContent]
      rintro more ⟨rfl, _⟩
      exact other rfl

theorem read_content_plain (c : Char) (rest : List Char) (noQuote : c ≠ '\'') (noSlash : c ≠ '\\') :
    readContent (c :: rest) = (readContent rest).map fun read => (c :: read.1, read.2) := by
  rw [readContent]
  · intro slash
    exact absurd slash noSlash
  · exact fun _ _ slash => absurd slash noSlash
  · exact fun _ quote => absurd quote noQuote
  · exact noQuote

def escapeChar (c : Char) : List Char :=
  if c = '\\' then ['\\', '\\'] else if c = '\'' then ['\'', '\''] else [c]

theorem read_content_image (c : Char) (after : List Char) :
    readContent (escapeChar c ++ after) =
      (readContent after).map fun read => (c :: read.1, read.2) := by
  by_cases slash : c = '\\'
  · rw [escapeChar, if_pos slash, slash]
    rfl
  · by_cases quote : c = '\''
    · rw [escapeChar, if_neg slash, if_pos quote, quote]
      rfl
    · rw [escapeChar, if_neg slash, if_neg quote]
      exact read_content_plain c after quote slash

-- The backslashes that the first step writes are out of reach of the second, which sees to quotes.
theorem escape_eq (text : List Char) : escape text = text.flatMap escapeChar := by
  have each (c : Char) : Text.replaceChar '\'' ['\'', '\''] (if c = '\\' then ['\\', '\\'] else [c]) =
      escapeChar c := by
    by_cases slash : c = '\\'
    · rw [escapeChar, if_pos slash, if_pos slash]
      rfl
    · rw [escapeChar, if_neg slash, if_neg slash]
      exact List.flatMap_singleton _ _
  rw [escape, Text.replaceChar, Text.replaceChar, List.flatMap_assoc]
  exact List.flatMap_congr fun c _ => each c

theorem read_content_escape (text after : List Char) :
    readContent (escape text ++ after) =
      (readContent after).map fun read => (text ++ read.1, read.2) := by
  rw [escape_eq]
  induction text with
  | nil => exact Option.map_id'.symm
  | cons c text ih =>
      rw [List.flatMap_cons, List.append_assoc, read_content_image, ih, Option.map_map]
      rfl

def quoted (text : String) : String :=
  String.ofList ('\'' :: text.toList.flatMap escapeChar ++ ['\''])

theorem literal_quoted (text : String) : literal text = quoted text := by
  rw [literal, quoted, escape_eq]

theorem read_quoted (text : String) (rest : List Char) (ends : rest.head? ≠ some '\'') :
    readLiteral ((quoted text).toList ++ rest) = some (text.toList, rest) := by
  have shape : (quoted text).toList ++ rest = '\'' :: (escape text.toList ++ '\'' :: rest) := by
    simp [quoted, escape_eq]
  rw [shape, readLiteral, read_content_escape, read_content_end rest ends, Option.map_some,
    List.append_nil]

structure FirstBlank (conditions : List String) (index : Nat) : Prop where
  blank : ∃ condition, conditions[index]? = some condition ∧ Text.trim condition = ""
  filled : ∀ condition ∈ conditions.take index, Text.trim condition ≠ ""

theorem first_blank_head (condition : String) (conditions : List String)
    (blank : Text.trim condition = "") : FirstBlank (condition :: conditions) 0 :=
  ⟨⟨condition, rfl, blank⟩, by simp⟩

theorem first_blank_later (condition : String) (conditions : List String) (index : Nat)
    (first : Text.trim condition ≠ "") :
    FirstBlank (condition :: conditions) (index + 1) ↔ FirstBlank conditions index := by
  constructor
  · intro found
    exact ⟨found.blank, fun other member => found.filled other (List.mem_cons_of_mem _ member)⟩
  · intro found
    exact ⟨found.blank, List.forall_mem_cons.mpr ⟨first, found.filled⟩⟩

theorem filled_or_first_blank (conditions : List String) :
    (∀ condition ∈ conditions, Text.trim condition ≠ "") ∨
      ∃ index, FirstBlank conditions index := by
  induction conditions with
  | nil => exact Or.inl (by simp)
  | cons condition conditions ih =>
      by_cases first : Text.trim condition = ""
      · exact Or.inr ⟨0, first_blank_head condition conditions first⟩
      · cases ih with
        | inl filled => exact Or.inl (List.forall_mem_cons.mpr ⟨first, filled⟩)
        | inr later =>
            obtain ⟨index, found⟩ := later
            exact Or.inr ⟨index + 1, (first_blank_later condition conditions index first).mpr found⟩

section Selects

variable (table : String)

theorem condition_selects_filled (start : Nat) (conditions : List String)
    (filled : ∀ condition ∈ conditions, Text.trim condition ≠ "") :
    conditionSelects table start conditions =
      .ok (conditions.map fun condition => conditionSelect table (Text.trim condition)) := by
  induction conditions generalizing start with
  | nil => rfl
  | cons condition conditions ih =>
      obtain ⟨first, others⟩ := List.forall_mem_cons.mp filled
      rw [conditionSelects, if_neg first, ih (start + 1) others]
      rfl

theorem condition_selects_blank (start : Nat) (conditions : List String) (index : Nat)
    (found : FirstBlank conditions index) :
    conditionSelects table start conditions = .error (.emptyCondition (start + index) table) := by
  induction conditions generalizing start index with
  | nil =>
      obtain ⟨_, here, _⟩ := found.blank
      cases here
  | cons condition conditions ih =>
      cases index with
      | zero =>
          obtain ⟨_, here, blank⟩ := found.blank
          obtain rfl := Option.some.inj here
          exact if_pos blank
      | succ index =>
          have first : Text.trim condition ≠ "" := found.filled condition (by simp)
          have later := (first_blank_later condition conditions index first).mp found
          rw [conditionSelects, if_neg first, ih (start + 1) index later, Nat.add_right_comm]
          rfl

def afterLiteral (condition : String) : String :=
  " as failing_row_condition, * from " ++ table ++ " where not (" ++ condition ++ ")"

-- One select for each condition. Together they report the rows that fail any of the conditions.
def failures (conditions : List String) : String :=
  Text.join "\nunion all\n" (conditions.map fun condition =>
    "select " ++ quoted condition ++ afterLiteral table condition)

theorem condition_select_quoted (condition : String) :
    conditionSelect table condition =
      "select " ++ quoted condition ++ afterLiteral table condition := by
  unfold conditionSelect afterLiteral
  simp only [literal_quoted, String.append_assoc]

theorem row_conditions_filled (conditions : List String)
    (filled : ∀ condition ∈ conditions, Text.trim condition ≠ "") :
    rowConditions table conditions = .ok (failures table (conditions.map Text.trim)) := by
  have selects := condition_selects_filled table 0 conditions filled
  simp only [condition_select_quoted] at selects
  rw [failures, List.map_map]
  exact congrArg (Except.map (Text.join "\nunion all\n")) selects

theorem row_conditions_blank (conditions : List String) (index : Nat)
    (found : FirstBlank conditions index) :
    rowConditions table conditions = .error (.emptyCondition index table) := by
  have selects := condition_selects_blank table 0 conditions index found
  rw [Nat.zero_add] at selects
  exact congrArg (Except.map (Text.join "\nunion all\n")) selects

-- A query that is read from the front. The literal of each select denotes its condition and ends
-- where the rest of the select begins, and between two selects there is a separator line.
inductive ReadsAs : List String → List Char → Prop where
  | empty : ReadsAs [] []
  | last (condition : String) (text : List Char)
      (read : readLiteral text = some (condition.toList, (afterLiteral table condition).toList)) :
      ReadsAs [condition] ("select ".toList ++ text)
  | next (condition : String) (conditions : List String) (text rest : List Char)
      (more : conditions ≠ [])
      (read : readLiteral text = some (condition.toList,
        (afterLiteral table condition).toList ++ ("\nunion all\n".toList ++ rest)))
      (others : ReadsAs conditions rest) :
      ReadsAs (condition :: conditions) ("select ".toList ++ text)

theorem read_condition (condition : String) (more : List Char) :
    readLiteral ((quoted condition).toList ++ ((afterLiteral table condition).toList ++ more)) =
      some (condition.toList, (afterLiteral table condition).toList ++ more) := by
  have blank : (afterLiteral table condition).toList.head? = some ' ' := by
    unfold afterLiteral
    simp only [String.toList_append, List.append_assoc, List.head?_append]
    simp
  refine read_quoted condition _ ?_
  simp [List.head?_append, blank]

theorem failures_read_as (conditions : List String) :
    ReadsAs table conditions (failures table conditions).toList := by
  induction conditions with
  | nil => exact .empty
  | cons condition conditions ih =>
      by_cases last : conditions = []
      · have read := read_condition table condition []
        rw [List.append_nil] at read
        rw [last, failures, List.map_singleton, Text.join_single]
        simp only [String.toList_append, List.append_assoc]
        exact .last condition _ read
      · have read := read_condition table condition
          ("\nunion all\n".toList ++ (failures table conditions).toList)
        rw [failures, List.map_cons, Text.join_cons _ _ _ (by simpa using last), ← failures]
        simp only [String.toList_append, List.append_assoc]
        exact .next condition conditions _ _ last read ih

theorem row_conditions_iff (conditions : List String) :
    (∀ query, rowConditions table conditions = .ok query ↔
      (∀ condition ∈ conditions, Text.trim condition ≠ "") ∧
        query = failures table (conditions.map Text.trim)) ∧
    ∀ cause, rowConditions table conditions = .error cause ↔
      ∃ index, FirstBlank conditions index ∧ cause = .emptyCondition index table := by
  refine outcome_iff _ _ _ (fun _ answer => ?_) (fun _ failed => ?_) ?_
  · rw [answer.2]
    exact row_conditions_filled table conditions answer.1
  · obtain ⟨index, found, rfl⟩ := failed
    exact row_conditions_blank table conditions index found
  · cases filled_or_first_blank conditions with
    | inl filled => exact Or.inl ⟨_, filled, rfl⟩
    | inr blank =>
        obtain ⟨index, found⟩ := blank
        exact Or.inr ⟨_, index, found, rfl⟩

end Selects

-- The first blank condition is the one that is reported, and without one there is a select for each
-- condition. The literals of the query are read as the conditions, since behind any escaped text the
-- reader is still inside of the literal.
theorem row_conditions_outcome (table : String) (conditions : List String) :
    (∀ cause, rowConditions table conditions = .error cause ↔
      ∃ index, FirstBlank conditions index ∧ cause = .emptyCondition index table) ∧
    (∀ query, rowConditions table conditions = .ok query ↔
      (∀ condition ∈ conditions, Text.trim condition ≠ "") ∧
        query = failures table (conditions.map Text.trim)) ∧
    ReadsAs table (conditions.map Text.trim) (failures table (conditions.map Text.trim)).toList ∧
    ∀ text after : List Char,
      readContent (escape text ++ after) =
        (readContent after).map fun read => (text ++ read.1, read.2) := by
  obtain ⟨answered, failed⟩ := row_conditions_iff table conditions
  exact ⟨failed, answered, failures_read_as table _, read_content_escape⟩

example : readLiteral (quoted "name = 'it\\'s\\").toList = some ("name = 'it\\'s\\".toList, []) := by
  decide

end SqlWorkflow.AssertionSql
