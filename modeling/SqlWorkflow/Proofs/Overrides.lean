import SqlWorkflow.Proofs.SortedMap
import SqlWorkflow.Proofs.Text
import SqlWorkflow.Settings

namespace SqlWorkflow.Overrides

def pairsOf (raw : List Char) : List (List Char) :=
  ((Text.splitOn ',' raw).map Text.trimChars).filter (!·.isEmpty)

theorem parse_vars_eq (raw : String) :
    parseVars raw = ((pairsOf raw.toList).mapM parsePair).map SortedMap.ofList := by
  change (pairsOf raw.toList).mapM parsePair >>= (fun entries => pure (SortedMap.ofList entries)) = _
  cases (pairsOf raw.toList).mapM parsePair <;> rfl

theorem pairs_of_append (a b : List Char) :
    pairsOf (a ++ ',' :: b) = pairsOf a ++ pairsOf b := by
  rw [pairsOf, Text.split_on_append, List.map_append, List.filter_append]
  rfl

theorem parse_vars_append (a b : String) :
    parseVars (a ++ "," ++ b) =
      match parseVars a, parseVars b with
      | .error fault, _ => .error fault
      | .ok _, .error fault => .error fault
      | .ok earlier, .ok later => .ok (earlier.merge later) := by
  have whole : (a ++ "," ++ b).toList = a.toList ++ ',' :: b.toList := by simp
  rw [parse_vars_eq, parse_vars_eq, parse_vars_eq, whole, pairs_of_append, List.mapM_append]
  cases (pairsOf a.toList).mapM parsePair with
  | error fault => rfl
  | ok earlier =>
      cases (pairsOf b.toList).mapM parsePair with
      | error fault => rfl
      | ok later => exact congrArg Except.ok (SortedMap.of_list_merge earlier later)

def writePair (entry : String × String) : String :=
  entry.1 ++ "=" ++ entry.2

structure Writable (entry : String × String) : Prop where
  named : entry.1 ≠ ""
  nameTrimmed : Text.Trimmed entry.1
  nameComma : ',' ∉ entry.1.toList
  nameEquals : '=' ∉ entry.1.toList
  valueTrimmed : Text.Trimmed entry.2
  valueComma : ',' ∉ entry.2.toList

namespace Writable

variable {entry : String × String} (writable : Writable entry)

include writable

theorem name_chars : entry.1.toList ≠ [] := by
  have named := writable.named
  simpa using named

theorem pair_comma : ',' ∉ (writePair entry).toList := by
  simp [writePair, writable.nameComma, writable.valueComma]

theorem pair_trimmed : Text.Trimmed (writePair entry) := by
  have written : (writePair entry).toList = entry.1.toList ++ '=' :: entry.2.toList := by
    simp [writePair]
  rw [Text.Trimmed, written]
  constructor
  · intro c first
    rw [List.head?_append_of_ne_nil _ writable.name_chars] at first
    exact writable.nameTrimmed.1 c first
  · intro c last
    rw [List.getLast?_append_cons] at last
    cases value : entry.2.toList with
    | nil =>
        rw [value] at last
        obtain rfl : '=' = c := by simpa using last
        rfl
    | cons first rest =>
        rw [value, List.getLast?_cons_cons, ← value] at last
        exact writable.valueTrimmed.2 c last

theorem parse_pair : parsePair (writePair entry).toList = .ok entry := by
  have written : (writePair entry).toList = entry.1.toList ++ '=' :: entry.2.toList := by
    simp [writePair]
  rw [parsePair, written, Text.split_first_append _ _ _ writable.nameEquals]
  dsimp only
  rw [Text.trim_chars_trimmed _ writable.nameTrimmed, Text.trim_chars_trimmed _ writable.valueTrimmed]
  cases chars : entry.1.toList with
  | nil => exact absurd chars writable.name_chars
  | cons c rest =>
    simp [← chars]

end Writable

def writePairs (entries : List (String × String)) : String :=
  Text.join "," (entries.map writePair)

theorem pairs_of_written (entries : List (String × String))
    (writable : ∀ entry ∈ entries, Writable entry) :
    pairsOf (writePairs entries).toList = entries.map fun entry => (writePair entry).toList := by
  by_cases none : entries = []
  · rw [none]
    rfl
  · have cut : Text.splitOn ',' (writePairs entries).toList =
        entries.map fun entry => (writePair entry).toList := by
      have each (entry : String × String) (member : entry ∈ entries) :
          Text.splitOn ',' (writePair entry).toList = [(writePair entry).toList] :=
        Text.split_on_plain ',' _ (writable entry member).pair_comma
      rw [writePairs, Text.join, String.toList_ofList, show ",".toList = [','] from rfl,
        Text.split_on_join _ _ (by simpa using none), List.map_map, List.flatMap_map]
      simp only [Function.comp_apply]
      rw [List.flatMap_congr each, ← List.map_eq_flatMap]
    have trimmed : (entries.map fun entry => (writePair entry).toList).map Text.trimChars =
        entries.map fun entry => (writePair entry).toList := by
      rw [List.map_map]
      exact List.map_congr_left fun entry member =>
        Text.trim_chars_trimmed _ (writable entry member).pair_trimmed
    rw [pairsOf, cut, trimmed, List.filter_eq_self]
    intro pair member
    obtain ⟨entry, -, rfl⟩ := List.mem_map.mp member
    simp [writePair]

theorem parse_written (entries : List (String × String))
    (writable : ∀ entry ∈ entries, Writable entry) :
    (entries.map fun entry => (writePair entry).toList).mapM parsePair = .ok entries := by
  induction entries with
  | nil => rfl
  | cons entry entries ih =>
      obtain ⟨first, rest⟩ := List.forall_mem_cons.mp writable
      rw [List.map_cons, List.mapM_cons, first.parse_pair, ih rest]
      rfl

theorem parse_vars_written (vars : Vars) (entries : List (String × String))
    (perm : entries.Perm vars.toList) (writable : ∀ entry ∈ entries, Writable entry) :
    parseVars (writePairs entries) = .ok vars := by
  rw [parse_vars_eq, pairs_of_written entries writable, parse_written entries writable]
  exact congrArg Except.ok (SortedMap.of_list_perm vars entries perm)

-- Two lists joined by a comma give the variables of the first under those of the second, or the
-- fault of the first one that has a fault; and a list of the entries of a map gives the map.
theorem joined_vars_read :
    (∀ a b : String, parseVars (a ++ "," ++ b) =
      match parseVars a, parseVars b with
      | .error fault, _ => .error fault
      | .ok _, .error fault => .error fault
      | .ok earlier, .ok later => .ok (earlier.merge later)) ∧
    (∀ (earlier later : Vars) (name : String),
      (earlier.merge later).get? name = (later.get? name).or (earlier.get? name)) ∧
    ∀ (vars : Vars) (entries : List (String × String)), entries.Perm vars.toList →
      (∀ entry ∈ entries, Writable entry) → parseVars (writePairs entries) = .ok vars :=
  ⟨parse_vars_append, SortedMap.get_merge, parse_vars_written⟩

def sampleVars : Vars :=
  .ofList [("filter", "a = b"), ("engine", "")]

theorem sample_writable : ∀ entry ∈ sampleVars.toList, Writable entry := by
  have listed : sampleVars.toList = [("engine", ""), ("filter", "a = b")] := by decide
  rw [listed]
  intro entry member
  simp only [List.mem_cons, List.not_mem_nil, or_false] at member
  rcases member with rfl | rfl
  · exact ⟨by decide, by decide, by decide, by decide, by decide, by decide⟩
  · exact ⟨by decide, by decide, by decide, by decide, by decide, by decide⟩

theorem sample_vars_read :
    sampleVars.toList.Perm sampleVars.toList ∧ (∀ entry ∈ sampleVars.toList, Writable entry) ∧
      parseVars (writePairs sampleVars.toList) = .ok sampleVars :=
  ⟨List.Perm.refl _, sample_writable,
    joined_vars_read.2.2 sampleVars sampleVars.toList (List.Perm.refl _) sample_writable⟩

end SqlWorkflow.Overrides
