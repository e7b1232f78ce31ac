import SqlWorkflow.NameIndex
import SqlWorkflow.Proofs.Resolution

namespace SqlWorkflow

namespace NameIndex

structure Files (index : NameIndex) (names : NameTable) : Prop where
  settings : index.settings = names.settings
  filed : ∀ name, index.filed name = names.entries.toList.filter fun entry => entry.1.name = name

theorem in_order_perm (entries : List (Target × ActionKind)) : (inOrder entries).Perm entries :=
  List.mergeSort_perm entries _

theorem in_order_ascending (entries : List (Target × ActionKind))
    (distinct : (entries.map Prod.fst).Nodup) : Ascending ((inOrder entries).map Prod.fst) :=
  merge_sort_ascending Prod.fst entries distinct

section Insert

variable {index : NameIndex} {names : NameTable} (files : Files index names)

include files

theorem mem_filed (name : String) (entry : Target × ActionKind) :
    entry ∈ index.filed name ↔ entry ∈ names.entries.toList ∧ entry.1.name = name := by
  rw [files.filed, List.mem_filter, decide_eq_true_eq]

theorem filed_ascending (name : String) : Ascending ((index.filed name).map Prod.fst) := by
  rw [files.filed]
  exact names.entries.ascending.sublist (List.filter_sublist.map Prod.fst)

theorem filed_any_iff (canonical : Target) :
    (index.filed canonical.name).any (·.1 = canonical) = true ↔
      canonical ∈ names.entries.keys := by
  simp only [List.any_eq_true, mem_filed files, decide_eq_true_eq, SortedMap.keys, List.mem_map]
  constructor
  · intro found
    obtain ⟨entry, ⟨member, _⟩, same⟩ := found
    exact ⟨entry, member, same⟩
  · intro found
    obtain ⟨entry, member, same⟩ := found
    exact ⟨entry, ⟨member, congrArg Target.name same⟩, same⟩

theorem insert_known (kind : ActionKind) (canonical : Target)
    (known : canonical ∈ names.entries.keys) : index.insert kind canonical = index :=
  if_pos ((filed_any_iff files canonical).mpr known)

theorem filed_insert (kind : ActionKind) (canonical : Target)
    (fresh : canonical ∉ names.entries.keys) (name : String) :
    (index.insert kind canonical).filed name =
      if name = canonical.name then inOrder (index.filed name ++ [(canonical, kind)])
      else index.filed name := by
  rw [insert, if_neg (mt (filed_any_iff files canonical).mp fresh), filed]
  dsimp only
  rw [SortedMap.get_insert]
  by_cases same : name = canonical.name
  · rw [if_pos same, if_pos same, same]
    rfl
  · rw [if_neg same, if_neg same]
    rfl

theorem mem_filed_insert (kind : ActionKind) (canonical : Target)
    (fresh : canonical ∉ names.entries.keys) (name : String) (entry : Target × ActionKind) :
    entry ∈ (index.insert kind canonical).filed name ↔
      (entry = (canonical, kind) ∨ entry ∈ names.entries.toList) ∧ entry.1.name = name := by
  rw [filed_insert files kind canonical fresh]
  by_cases same : name = canonical.name
  · rw [if_pos same, (in_order_perm _).mem_iff, List.mem_append, mem_filed files,
      List.mem_singleton, or_comm, or_and_right]
    refine or_congr_left (and_iff_left_of_imp fun new => ?_).symm
    rw [new, same]
  · rw [if_neg same, mem_filed files, or_and_right]
    refine (or_iff_right ?_).symm
    rintro ⟨rfl, named⟩
    exact same named.symm

theorem filed_insert_ascending (kind : ActionKind) (canonical : Target)
    (fresh : canonical ∉ names.entries.keys) (name : String) :
    Ascending (((index.insert kind canonical).filed name).map Prod.fst) := by
  have old := filed_ascending files name
  rw [filed_insert files kind canonical fresh]
  by_cases same : name = canonical.name
  · rw [if_pos same]
    refine in_order_ascending _ ?_
    rw [List.map_append, List.map_singleton, ← List.concat_eq_append]
    refine (ascending_nodup _ old).concat fun again => ?_
    obtain ⟨entry, member, rfl⟩ := List.mem_map.mp again
    exact fresh (List.mem_map_of_mem ((mem_filed files name entry).mp member).1)
  · rw [if_neg same]
    exact old

theorem files_insert (kind : ActionKind) (canonical : Target) :
    Files (index.insert kind canonical) (names.insert kind canonical) := by
  by_cases known : canonical ∈ names.entries.keys
  · have kept : names.insert kind canonical = names :=
      if_pos ((NameTable.get_is_some_iff names canonical).mpr known)
    rw [insert_known files kind canonical known, kept]
    exact files
  · have added : names.insert kind canonical =
        { names with entries := names.entries.insert canonical kind } :=
      if_neg (mt (NameTable.get_is_some_iff names canonical).mp known)
    have others (entry : Target × ActionKind) (member : entry ∈ names.entries.toList) :
        entry.1 ≠ canonical := fun same => known (same ▸ List.mem_map_of_mem member)
    rw [added]
    constructor
    · rw [insert, if_neg (mt (filed_any_iff files canonical).mp known)]
      exact files.settings
    · intro name
      -- both lists are in ascending order, so only their members have to be compared
      refine ascending_entries_ext _ _ (filed_insert_ascending files kind canonical known name)
        ((names.entries.insert canonical kind).ascending.sublist
          (List.filter_sublist.map Prod.fst)) fun entry => ?_
      rw [mem_filed_insert files kind canonical known, List.mem_filter, decide_eq_true_eq,
        SortedMap.mem_insert, and_iff_left_of_imp (others entry)]

end Insert

theorem of_list_concat (settings : Settings) (front : List (ActionKind × Target))
    (last : ActionKind × Target) :
    ofList settings (front ++ [last]) = (ofList settings front).insert last.1 last.2 := by
  simp [ofList, List.foldl_append]

theorem files_of_list (settings : Settings) (declared : List (ActionKind × Target)) :
    Files (ofList settings declared) (.ofList settings declared) := by
  induction declared using List.reverseRecOn with
  | nil => exact ⟨rfl, fun name => rfl⟩
  | append_singleton front last ih =>
      rw [of_list_concat, NameTable.of_list_concat]
      exact files_insert ih last.1 last.2

theorem matches_parts_name (target : Target) (reference : Reference)
    (fits : target.matchesParts reference.parts = true) : target.name = reference.lastName := by
  cases reference <;> simp_all [Target.matchesParts, Reference.parts, Reference.lastName]

section Search

variable {index : NameIndex} {names : NameTable} (files : Files index names)

include files

theorem matching_eq (reference : Reference) :
    index.matching reference = names.matching reference := by
  rw [matching, files.filed, List.filter_filter, NameTable.matching]
  refine List.filter_congr fun entry _ => ?_
  by_cases fits : entry.1.matchesParts reference.parts = true
  · simp [fits, matches_parts_name entry.1 reference fits]
  · simp [fits]

theorem resolve_eq (reference : Reference) : index.resolve reference = names.resolve reference := by
  rw [resolve, matching_eq files, files.settings]
  rfl

theorem filed_perm : (index.byName.toList.flatMap Prod.snd).Perm names.entries.toList := by
  have whole (name : String) (entries : List (Target × ActionKind))
      (member : (name, entries) ∈ index.byName.toList) : entries = index.filed name := by
    rw [filed, (SortedMap.get_eq_some_iff index.byName name entries).mpr member, Option.getD_some]
  have once (entries : List (Target × ActionKind)) (sorted : Ascending (entries.map Prod.fst)) :
      entries.Nodup := List.Nodup.of_map Prod.fst (ascending_nodup _ sorted)
  have apart : (index.byName.toList.flatMap Prod.snd).Nodup := by
    rw [List.nodup_flatMap]
    constructor
    · intro ⟨name, entries⟩ member
      exact whole name entries member ▸ once _ (filed_ascending files name)
    · have names := List.pairwise_map.mp (ascending_nodup _ index.byName.ascending)
      refine names.imp_of_mem fun {a b} memberA memberB different entry inA inB => ?_
      rw [whole a.1 a.2 memberA, mem_filed files] at inA
      rw [whole b.1 b.2 memberB, mem_filed files] at inB
      exact different (inA.2.symm.trans inB.2)
  refine (List.perm_ext_iff_of_nodup apart (once _ names.entries.ascending)).mpr fun entry => ?_
  rw [List.mem_flatMap]
  constructor
  · intro ⟨⟨name, entries⟩, member, inside⟩
    rw [whole name entries member, mem_filed files] at inside
    exact inside.1
  · intro member
    have inside := (mem_filed files entry.1.name entry).mpr ⟨member, rfl⟩
    rw [filed] at inside
    cases found : index.byName.get? entry.1.name with
    | none => rw [found] at inside; cases inside
    | some entries =>
        rw [found] at inside
        exact ⟨_, (SortedMap.get_eq_some_iff index.byName _ entries).mp found, inside⟩

theorem size_eq : index.size = names.size := by
  rw [NameTable.size, ← (filed_perm files).length_eq, List.length_flatMap, List.sum_eq_foldl,
    List.foldl_map, size]

end Search

end NameIndex

theorem names_are_set (settings : Settings) (declared : List (ActionKind × Target)) :
    (∀ reference outcome, (NameIndex.ofList settings declared).resolve reference = outcome ↔
      NameTable.Stands settings declared reference outcome) ∧
    (∀ reference, (NameIndex.ofList settings declared).resolve reference =
      (NameTable.ofList settings declared).resolve reference) ∧
    (∀ kind, ∀ target ∈ declared.map Prod.snd,
      (NameIndex.ofList settings declared).insert kind target =
          NameIndex.ofList settings declared ∧
        (NameTable.ofList settings declared).insert kind target =
          NameTable.ofList settings declared) ∧
    ((NameIndex.ofList settings declared).size = (declared.map Prod.snd).dedup.length ∧
      (NameTable.ofList settings declared).size = (declared.map Prod.snd).dedup.length) ∧
    (∀ others, declared.Perm others → NameTable.OneKind declared → ∀ reference,
      (NameIndex.ofList settings others).resolve reference =
        (NameIndex.ofList settings declared).resolve reference) ∧
    (∀ target ∈ declared.map Prod.snd, (∀ part ∈ target.parts, PlainPart part) →
      NameTable.SoleName declared target → ∃ reference runtime,
        Reference.parse? target.display = some reference ∧
        (NameIndex.ofList settings declared).resolve reference = .found target runtime) ∧
    ∀ text reference, Reference.parse? text = some reference →
      Reference.parse? reference.display = some reference := by
  have files := NameIndex.files_of_list settings declared
  have scan := NameIndex.resolve_eq files
  refine ⟨fun reference outcome => ?_, scan, fun kind target known => ?_, ?_, ?_, ?_,
    Reference.parse_display⟩
  · rw [scan]
    exact NameTable.resolve_iff settings declared reference outcome
  · have entry := (NameTable.mem_keys settings declared target).mpr known
    exact ⟨NameIndex.insert_known files kind target entry,
      NameTable.insert_same settings declared kind target known⟩
  · have distinct := NameTable.size_distinct settings declared
    exact ⟨(NameIndex.size_eq files).trans distinct, distinct⟩
  · intro others perm oneKind reference
    rw [scan, NameIndex.resolve_eq (NameIndex.files_of_list settings others),
      NameTable.of_list_perm settings declared others perm oneKind]
  · intro target known plain sole
    obtain ⟨reference, runtime, parsed, found⟩ :=
      NameTable.resolve_own_display settings declared target known plain sole
    exact ⟨reference, runtime, parsed, (scan reference).trans found⟩

example : (NameIndex.ofList {} [(.table, ⟨some "D", "staging", "orders"⟩),
    (.declaration, ⟨none, "raw", "orders"⟩)]).resolve (.name "orders") =
      .ambiguous [⟨none, "raw", "orders"⟩, ⟨some "D", "staging", "orders"⟩] := by
  cbv

end SqlWorkflow
