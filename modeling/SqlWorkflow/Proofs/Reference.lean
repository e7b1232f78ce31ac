import SqlWorkflow.Proofs.Text
import SqlWorkflow.Reference

namespace SqlWorkflow

structure PlainPart (part : String) : Prop where
  filled : part ≠ ""
  undotted : '.' ∉ part.toList
  trimmed : Text.trim part = part

namespace Reference

def Reads (name : String) : Prop :=
  "" ∉ dottedParts name ∧ 1 ≤ (dottedParts name).length ∧ (dottedParts name).length ≤ 3

theorem of_parts_some (parts : List String) (filled : "" ∉ parts) (least : 1 ≤ parts.length)
    (most : parts.length ≤ 3) : ∃ reference, ofParts? parts = some reference := by
  have noEmpty : ¬ parts.contains "" = true := by simpa using filled
  unfold ofParts?
  rw [if_neg noEmpty]
  rcases parts with _ | ⟨a, _ | ⟨b, _ | ⟨c, _ | ⟨d, rest⟩⟩⟩⟩
  · simp at least
  · exact ⟨.name a, rfl⟩
  · exact ⟨.schemaName a b, rfl⟩
  · exact ⟨.full a b c, rfl⟩
  · simp only [List.length_cons] at most
    omega

theorem of_parts_reads (parts : List String) (reference : Reference)
    (found : ofParts? parts = some reference) :
    "" ∉ parts ∧ 1 ≤ parts.length ∧ parts.length ≤ 3 := by
  unfold ofParts? at found
  split at found
  · cases found
  · rename_i filled
    refine ⟨by simpa using filled, ?_⟩
    split at found
    · simp
    · simp
    · simp
    · cases found

theorem parse_none_iff (name : String) : parse? name = none ↔ ¬ Reads name := by
  constructor
  · rintro absent ⟨filled, least, most⟩
    obtain ⟨reference, found⟩ := of_parts_some _ filled least most
    cases absent.symm.trans found
  · intro unread
    cases found : parse? name with
    | none => rfl
    | some reference => exact absurd (of_parts_reads _ reference found) unread

theorem dotted_parts_ne_nil (name : String) : dottedParts name ≠ [] := by
  have some := Text.split_on_ne_nil '.' name.toList
  simpa [dottedParts, Text.split] using some

theorem dotted_parts_piece (name piece : String) (member : piece ∈ dottedParts name) :
    '.' ∉ piece.toList ∧ Text.trim piece = piece := by
  obtain ⟨text, cut, rfl⟩ := List.mem_map.mp member
  constructor
  · intro dot
    exact Text.split_pieces '.' name text cut (Text.trim_subset text '.' dot)
  · exact Text.trim_idem text

theorem dotted_parts_join (parts : List String) (some : parts ≠ []) :
    dottedParts (Text.join "." parts) = parts.flatMap dottedParts := by
  rw [dottedParts, Text.split_join '.' "." rfl parts some, List.map_flatMap]
  rfl

theorem dotted_parts_plain (parts : List String) (some : parts ≠ [])
    (plain : ∀ part ∈ parts, PlainPart part) : dottedParts (Text.join "." parts) = parts := by
  have each (part : String) (member : part ∈ parts) : dottedParts part = [part] := by
    rw [dottedParts, Text.split_plain '.' part (plain part member).undotted, List.map_singleton,
      (plain part member).trimmed]
  rw [dotted_parts_join parts some, List.flatMap_congr each, List.flatMap_singleton']

theorem dotted_parts_length (parts : List String) (some : parts ≠ []) :
    parts.length ≤ (dottedParts (Text.join "." parts)).length := by
  rw [dotted_parts_join parts some]
  clear some
  induction parts with
  | nil => exact Nat.le_refl 0
  | cons part parts ih =>
      have pieces := List.length_pos_iff.mpr (dotted_parts_ne_nil part)
      rw [List.flatMap_cons, List.length_append, List.length_cons]
      omega

end Reference

namespace Target

theorem matches_parts_iff (target : Target) (parts : List String) :
    target.matchesParts parts = true ↔ parts ≠ [] ∧ parts <:+ target.parts := by
  have last : parts ≠ [] ∧ parts <:+ target.parts ↔
      parts = [target.name] ∨ parts = [target.schema, target.name] ∨
        ∃ database, target.database = some database ∧
          parts = [database, target.schema, target.name] := by
    unfold Target.parts
    cases target.database with
    | none =>
        simp only [Option.toList_none, List.nil_append, List.suffix_cons_iff, List.suffix_nil]
        grind
    | some database =>
        simp only [Option.toList_some, List.singleton_append, List.suffix_cons_iff, List.suffix_nil]
        grind
  rw [last]
  match parts with
  | [] => simp [matchesParts]
  | [a] => simp [matchesParts, @eq_comm _ target.name]
  | [a, b] => simp [matchesParts, @eq_comm _ target.name, @eq_comm _ target.schema]
  | [a, b, c] => simp [matchesParts]; grind
  | _ :: _ :: _ :: _ :: _ => simp [matchesParts]

end Target

end SqlWorkflow
