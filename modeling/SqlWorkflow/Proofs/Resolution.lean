import Mathlib.Data.List.Dedup
import SqlWorkflow.Proofs.NameTable
import SqlWorkflow.Proofs.Reference

namespace SqlWorkflow

namespace NameTable

section Set

variable (settings : Settings) (declared : List (ActionKind × Target))

theorem size_distinct : (ofList settings declared).size = (declared.map Prod.snd).dedup.length := by
  have keys := (List.perm_ext_iff_of_nodup
    (ascending_nodup _ (ofList settings declared).entries.ascending)
    (List.nodup_dedup (declared.map Prod.snd))).mpr fun target => by
      rw [List.mem_dedup]
      exact mem_keys settings declared target
  rw [size, ← keys.length_eq, List.length_map]

theorem get_entries (target : Target) : (ofList settings declared).entries.get? target =
    (declared.find? (·.2 = target)).map Prod.fst := by
  induction declared using List.reverseRecOn with
  | nil => rfl
  | append_singleton front last ih =>
      rw [of_list_concat, List.find?_append, insert]
      cases known : (ofList settings front).entries.get? last.2 with
      | some kind =>
          rw [Option.isSome_some, if_pos rfl, ih]
          by_cases same : last.2 = target
          · rw [← same] at ih ⊢
            rw [known] at ih
            obtain ⟨first, found, _⟩ := Option.map_eq_some_iff.mp ih.symm
            rw [found, Option.some_or]
          · rw [List.find?_singleton, if_neg (by simpa using same), Option.or_none]
      | none =>
          rw [Option.isSome_none, if_neg (Bool.false_ne_true)]
          dsimp only
          rw [SortedMap.get_insert]
          by_cases same : last.2 = target
          · rw [← same] at ih ⊢
            rw [known] at ih
            rw [if_pos rfl, Option.map_eq_none_iff.mp ih.symm, Option.none_or,
              List.find?_singleton, if_pos (by simp)]
            rfl
          · rw [if_neg (Ne.symm same), ih, List.find?_singleton, if_neg (by simpa using same),
              Option.or_none]

theorem mem_entries_iff (target : Target) (kind : ActionKind) :
    (target, kind) ∈ (ofList settings declared).entries.toList ↔
      declared.find? (·.2 = target) = some (kind, target) := by
  rw [← SortedMap.get_eq_some_iff, get_entries, Option.map_eq_some_iff]
  constructor
  · intro ⟨entry, found, same⟩
    have here : entry.2 = target := by simpa using List.find?_some found
    rw [found, ← same, ← here]
  · intro found
    exact ⟨_, found, rfl⟩

def Fits (reference : Reference) (target : Target) : Prop :=
  target ∈ declared.map Prod.snd ∧ target.matchesParts reference.parts = true

inductive Stands (reference : Reference) : Resolution → Prop where
  | found {canonical : Target} {kind : ActionKind}
      (only : ∀ t, Fits declared reference t ↔ t = canonical)
      (first : declared.find? (·.2 = canonical) = some (kind, canonical)) :
      Stands reference (.found canonical (settings.runtimeTarget kind canonical))
  | missing (none : ∀ t, ¬ Fits declared reference t) :
      Stands reference (.missing (placeholder settings reference)
        (settings.runtimeTarget .table (placeholder settings reference)))
  | ambiguous {candidates : List Target} (several : 2 ≤ candidates.length)
      (ascending : Ascending candidates) (all : ∀ t, t ∈ candidates ↔ Fits declared reference t) :
      Stands reference (.ambiguous candidates)

theorem mem_matching (reference : Reference) (target : Target) :
    target ∈ ((ofList settings declared).matching reference).map Prod.fst ↔
      Fits declared reference target := by
  rw [Fits, ← mem_keys settings declared, SortedMap.keys, matching]
  simp only [List.mem_map, List.mem_filter]
  constructor
  · intro found
    obtain ⟨entry, ⟨member, fits⟩, same⟩ := found
    exact ⟨⟨entry, member, same⟩, same ▸ fits⟩
  · intro found
    obtain ⟨⟨entry, member, same⟩, fits⟩ := found
    exact ⟨entry, ⟨member, same ▸ fits⟩, same⟩

theorem matching_ascending (reference : Reference) :
    Ascending (((ofList settings declared).matching reference).map Prod.fst) :=
  (ofList settings declared).entries.ascending.sublist (List.filter_sublist.map Prod.fst)

theorem matching_kind (reference : Reference) (entry : Target × ActionKind)
    (member : entry ∈ (ofList settings declared).matching reference) :
    declared.find? (·.2 = entry.1) = some (entry.2, entry.1) :=
  (mem_entries_iff settings declared entry.1 entry.2).mp (List.mem_filter.mp member).1

theorem matching_targets (reference : Reference) (targets : List Target)
    (ascending : Ascending targets) (all : ∀ t, t ∈ targets ↔ Fits declared reference t) :
    ((ofList settings declared).matching reference).map Prod.fst = targets :=
  ascending_ext _ _ (matching_ascending settings declared reference) ascending fun t =>
    (mem_matching settings declared reference t).trans (all t).symm

theorem resolve_stands (reference : Reference) :
    Stands settings declared reference ((ofList settings declared).resolve reference) := by
  have fits := mem_matching settings declared reference
  have ascending := matching_ascending settings declared reference
  have kinds := matching_kind settings declared reference
  rw [resolve, of_list_settings]
  generalize (ofList settings declared).matching reference = matching at fits ascending kinds
  cases matching with
  | nil => exact .missing fun t named => absurd ((fits t).mpr named) List.not_mem_nil
  | cons first others =>
      cases others with
      | nil =>
          refine .found (fun t => ?_) (kinds _ List.mem_cons_self)
          rw [← fits t]
          exact List.mem_singleton
      | cons second rest => exact .ambiguous (by simp) ascending fits

theorem resolve_of_stands (reference : Reference) (outcome : Resolution)
    (stands : Stands settings declared reference outcome) :
    (ofList settings declared).resolve reference = outcome := by
  have kinds := matching_kind settings declared reference
  have targets := matching_targets settings declared reference
  rw [resolve, of_list_settings]
  generalize (ofList settings declared).matching reference = matching at kinds targets
  cases stands with
  | @found canonical kind only first =>
      have single := targets [canonical] (List.pairwise_singleton _ _) fun t => by
        rw [List.mem_singleton, only]
      obtain ⟨⟨target, other⟩, rfl, rfl⟩ := List.map_eq_singleton_iff.mp single
      have same := first.symm.trans (kinds _ List.mem_cons_self)
      obtain ⟨rfl, _⟩ := Prod.mk.inj (Option.some.inj same)
      rfl
  | missing none =>
      have empty := targets [] List.Pairwise.nil fun t => by simp [none t]
      rw [List.map_eq_nil_iff.mp empty]
  | @ambiguous candidates several ascending all =>
      obtain rfl := targets candidates ascending all
      cases matching with
      | nil => simp at several
      | cons first others =>
          cases others with
          | nil => simp at several
          | cons second rest => rfl

theorem resolve_iff (reference : Reference) (outcome : Resolution) :
    (ofList settings declared).resolve reference = outcome ↔
      Stands settings declared reference outcome := by
  constructor
  · intro same
    exact same ▸ resolve_stands settings declared reference
  · exact resolve_of_stands settings declared reference outcome

def OneKind : Prop :=
  ∀ a ∈ declared, ∀ b ∈ declared, a.2 = b.2 → a.1 = b.1

theorem mem_entries_one_kind (oneKind : OneKind declared) (target : Target) (kind : ActionKind) :
    (target, kind) ∈ (ofList settings declared).entries.toList ↔ (kind, target) ∈ declared := by
  constructor
  · exact mem_entries settings declared target kind
  · intro member
    have known := (mem_keys settings declared target).mpr (List.mem_map_of_mem member)
    obtain ⟨⟨_, other⟩, entry, rfl⟩ := List.mem_map.mp known
    have there := mem_entries settings declared _ other entry
    obtain rfl : other = kind := oneKind _ there _ member rfl
    exact entry

theorem of_list_perm (others : List (ActionKind × Target)) (perm : declared.Perm others)
    (oneKind : OneKind declared) : ofList settings declared = ofList settings others := by
  have oneKindToo : OneKind others := fun a memberA b memberB =>
    oneKind a (perm.mem_iff.mpr memberA) b (perm.mem_iff.mpr memberB)
  have entries : (ofList settings declared).entries = (ofList settings others).entries := by
    refine SortedMap.ext (ascending_entries_ext _ _ (ofList settings declared).entries.ascending
      (ofList settings others).entries.ascending fun ⟨target, kind⟩ => ?_)
    rw [mem_entries_one_kind settings declared oneKind,
      mem_entries_one_kind settings others oneKindToo, perm.mem_iff]
  have shape (names : NameTable) : names = ⟨names.settings, names.entries⟩ := rfl
  rw [shape (ofList settings declared), shape (ofList settings others), entries, of_list_settings,
    of_list_settings]

end Set

end NameTable

namespace Reference

theorem parse_plain (parts : List String) (least : 1 ≤ parts.length) (most : parts.length ≤ 3)
    (plain : ∀ part ∈ parts, PlainPart part) :
    ∃ reference, parse? (Text.join "." parts) = some reference ∧ reference.parts = parts := by
  have filled : "" ∉ parts := fun empty => (plain "" empty).filled rfl
  obtain ⟨reference, found⟩ := of_parts_some parts filled least most
  refine ⟨reference, ?_, of_parts_parts parts reference found⟩
  rw [parse?, dotted_parts_plain parts (List.ne_nil_of_length_pos least) plain, found]

theorem parse_display (text : String) (reference : Reference)
    (parsed : parse? text = some reference) : parse? reference.display = some reference := by
  obtain ⟨filled, least, _⟩ := of_parts_reads _ reference parsed
  have parts := of_parts_parts _ reference parsed
  have plain (part : String) (member : part ∈ reference.parts) : PlainPart part := by
    rw [parts] at member
    obtain ⟨undotted, trimmed⟩ := dotted_parts_piece text part member
    exact ⟨fun empty => filled (empty ▸ member), undotted, trimmed⟩
  have some : reference.parts ≠ [] := by
    rw [parts]
    exact List.ne_nil_of_length_pos least
  rw [parse?, display, dotted_parts_plain _ some plain, parts]
  exact parsed

end Reference

namespace NameTable

theorem matches_own_parts (target other : Target) : other.matchesParts target.parts = true ↔
    other = target ∨
      target.database = none ∧ other.schema = target.schema ∧ other.name = target.name := by
  obtain ⟨database, schema, name⟩ := target
  obtain ⟨otherDatabase, otherSchema, otherName⟩ := other
  cases database with
  | none => simp [Target.parts, Target.matchesParts]
  | some database => simp [Target.parts, Target.matchesParts]

-- No declared target but this one has its schema and name, unless it spells its database.
def SoleName (declared : List (ActionKind × Target)) (target : Target) : Prop :=
  target.database = none → ∀ other ∈ declared.map Prod.snd,
    other.schema = target.schema → other.name = target.name → other = target

theorem resolve_own_display (settings : Settings) (declared : List (ActionKind × Target))
    (target : Target) (known : target ∈ declared.map Prod.snd)
    (plain : ∀ part ∈ target.parts, PlainPart part) (sole : SoleName declared target) :
    ∃ reference runtime, Reference.parse? target.display = some reference ∧
      (ofList settings declared).resolve reference = .found target runtime := by
  have length : 1 ≤ target.parts.length ∧ target.parts.length ≤ 3 := by
    unfold Target.parts
    cases target.database <;> simp
  obtain ⟨reference, parsed, parts⟩ := Reference.parse_plain _ length.1 length.2 plain
  have only (t : Target) : Fits declared reference t ↔ t = target := by
    rw [Fits, parts, matches_own_parts]
    constructor
    · intro ⟨knownToo, either⟩
      cases either with
      | inl same => exact same
      | inr short => exact sole short.1 t knownToo short.2.1 short.2.2
    · intro same
      subst same
      exact ⟨known, Or.inl rfl⟩
  cases first : declared.find? (·.2 = target) with
  | none =>
      obtain ⟨entry, member, here⟩ := List.mem_map.mp known
      exact absurd here (by simpa using List.find?_eq_none.mp first entry member)
  | some entry =>
      have here : entry.2 = target := by simpa using List.find?_some first
      obtain ⟨kind, _⟩ := entry
      subst here
      exact ⟨reference, _, parsed, (resolve_iff settings declared reference _).mpr
        (.found only first)⟩

theorem insert_same (settings : Settings) (declared : List (ActionKind × Target))
    (kind : ActionKind) (target : Target) (known : target ∈ declared.map Prod.snd) :
    (ofList settings declared).insert kind target = ofList settings declared :=
  if_pos ((get_is_some_iff _ target).mpr ((mem_keys settings declared target).mpr known))

end NameTable

end SqlWorkflow
