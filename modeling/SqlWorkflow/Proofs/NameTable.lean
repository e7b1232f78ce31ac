import SqlWorkflow.Proofs.SortedMap
import SqlWorkflow.Template.Mention

namespace SqlWorkflow.NameTable

section Entries

variable (settings : Settings) (declared : List (ActionKind × Target))

theorem insert_settings (names : NameTable) (kind : ActionKind) (canonical : Target) :
    (names.insert kind canonical).settings = names.settings := by
  unfold insert
  split <;> rfl

theorem of_list_concat (front : List (ActionKind × Target)) (last : ActionKind × Target) :
    ofList settings (front ++ [last]) = (ofList settings front).insert last.1 last.2 := by
  simp [ofList, List.foldl_append]

@[simp]
theorem of_list_settings : (ofList settings declared).settings = settings := by
  induction declared using List.reverseRecOn with
  | nil => rfl
  | append_singleton front last ih => rw [of_list_concat, insert_settings, ih]

theorem get_is_some_iff (names : NameTable) (canonical : Target) :
    (names.entries.get? canonical).isSome = true ↔ canonical ∈ names.entries.keys := by
  rw [SortedMap.get?, List.lookup_isSome_iff, SortedMap.keys, List.mem_map]
  exact exists_congr fun entry => and_congr_right fun _ => beq_iff_eq.trans eq_comm

theorem mem_insert_keys (names : NameTable) (kind : ActionKind) (canonical target : Target) :
    target ∈ (names.insert kind canonical).entries.keys ↔
      target = canonical ∨ target ∈ names.entries.keys := by
  unfold insert
  split
  · rename_i known
    have member := (get_is_some_iff names canonical).mp known
    exact ⟨Or.inr, fun either => either.elim (fun same => same ▸ member) id⟩
  · exact SortedMap.keys_insert names.entries canonical kind target

theorem mem_keys (target : Target) :
    target ∈ (ofList settings declared).entries.keys ↔ target ∈ declared.map Prod.snd := by
  induction declared using List.reverseRecOn with
  | nil => exact Iff.rfl
  | append_singleton front last ih =>
      rw [of_list_concat, mem_insert_keys, ih, List.map_append, List.mem_append, List.map_singleton,
        List.mem_singleton, or_comm]

theorem mem_entries (target : Target) (kind : ActionKind)
    (entry : (target, kind) ∈ (ofList settings declared).entries.toList) :
    (kind, target) ∈ declared := by
  induction declared using List.reverseRecOn with
  | nil => cases entry
  | append_singleton front last ih =>
      rw [of_list_concat, insert] at entry
      split at entry
      · exact List.mem_append_left _ (ih entry)
      · rcases (SortedMap.mem_insert _ _ _ _).mp entry with same | ⟨old, _⟩
        · obtain ⟨rfl, rfl⟩ := Prod.mk.inj same
          exact List.mem_append_right _ List.mem_cons_self
        · exact List.mem_append_left _ (ih old)

end Entries

def bound (names : NameTable) : List (Target × Target) :=
  names.entries.toList.map fun entry =>
    (entry.1, names.settings.runtimeTarget entry.2 entry.1)

theorem bound_keys (names : NameTable) : names.bound.map Prod.fst = names.entries.keys := by
  rw [bound, List.map_map]
  rfl

theorem targets_eq (names : NameTable) (reference : Reference) :
    names.targets reference =
      match names.bound.filter (fun entry => entry.1.matchesParts reference.parts) with
      | [found] => .ok found
      | [] =>
          let canonical := placeholder names.settings reference
          .ok (canonical, names.settings.runtimeTarget .table canonical)
      | several => .error (.ambiguousReference reference.display (several.map Prod.fst)) := by
  have shown : names.bound.filter (fun entry => entry.1.matchesParts reference.parts) =
      (names.matching reference).map fun entry =>
        (entry.1, names.settings.runtimeTarget entry.2 entry.1) := by
    rw [bound, List.filter_map, matching]
    rfl
  rw [shown, targets, resolve]
  rcases names.matching reference with _ | ⟨first, _ | ⟨second, more⟩⟩
  · rfl
  · rfl
  · simp [Function.comp_def]

theorem targets_congr {names others : NameTable} (settings : names.settings = others.settings)
    (bound : names.bound = others.bound) : names.targets = others.targets := by
  funext reference
  rw [targets_eq, targets_eq, bound, settings]

def Consistent (declared : List (ActionKind × Target)) : Prop :=
  ∀ a ∈ declared, ∀ b ∈ declared, a.2 = b.2 → (a.1 = .declaration ↔ b.1 = .declaration)

theorem runtime_target_congr (settings : Settings) (a b : ActionKind) (canonical : Target)
    (same : a = .declaration ↔ b = .declaration) :
    settings.runtimeTarget a canonical = settings.runtimeTarget b canonical := by
  cases a <;> cases b <;> simp_all [Settings.runtimeTarget]

theorem bound_subset (settings : Settings) (declared others : List (ActionKind × Target))
    (perm : declared.Perm others) (consistent : Consistent declared) (entry : Target × Target)
    (member : entry ∈ (ofList settings declared).bound) :
    entry ∈ (ofList settings others).bound := by
  obtain ⟨⟨target, kind⟩, found, rfl⟩ := List.mem_map.mp member
  have here := mem_entries settings declared target kind found
  have known : target ∈ (ofList settings others).entries.keys :=
    (mem_keys settings others target).mpr
      ((perm.map Prod.snd).mem_iff.mp (List.mem_map_of_mem here))
  obtain ⟨⟨_, other⟩, there, rfl⟩ := List.mem_map.mp known
  have declaredToo := perm.mem_iff.mpr (mem_entries settings others _ other there)
  refine List.mem_map.mpr ⟨_, there, ?_⟩
  rw [of_list_settings, of_list_settings]
  exact congrArg (Prod.mk _) (runtime_target_congr settings other kind _
    (consistent _ declaredToo _ here rfl))

theorem targets_perm (settings : Settings) (declared others : List (ActionKind × Target))
    (perm : declared.Perm others) (consistent : Consistent declared) :
    (ofList settings declared).targets = (ofList settings others).targets := by
  have consistentToo : Consistent others := fun a memberA b memberB =>
    consistent a (perm.mem_iff.mpr memberA) b (perm.mem_iff.mpr memberB)
  have ascending (names : NameTable) : Ascending (names.bound.map Prod.fst) := by
    rw [bound_keys]
    exact names.entries.ascending
  refine targets_congr (by rw [of_list_settings, of_list_settings])
    (ascending_entries_ext _ _ (ascending _) (ascending _) fun entry => ⟨?_, ?_⟩)
  · exact bound_subset settings declared others perm consistent entry
  · exact bound_subset settings others declared perm.symm consistentToo entry

end SqlWorkflow.NameTable
