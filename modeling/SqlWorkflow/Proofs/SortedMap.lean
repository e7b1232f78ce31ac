import Mathlib.Data.List.Induction
import SqlWorkflow.SortedMap

namespace SqlWorkflow

theorem ne_of_compare_lt {α : Type} [Ord α] [Std.ReflOrd α] {a b : α} (less : compare a b = .lt) :
    a ≠ b := by
  rintro rfl
  rw [Std.ReflOrd.compare_self] at less
  cases less

theorem ascending_nodup {α : Type} [Ord α] [Std.ReflOrd α] (items : List α)
    (sorted : Ascending items) : items.Nodup :=
  List.Pairwise.imp ne_of_compare_lt sorted

theorem ascending_head_least {α : Type} [Ord α] (items : List α) (sorted : Ascending items)
    (first x : α) (head : items.head? = some first) (member : x ∈ items) :
    x = first ∨ compare first x = .lt := by
  obtain ⟨rest, rfl⟩ := List.head?_eq_some_iff.mp head
  cases List.mem_cons.mp member with
  | inl same => exact Or.inl same
  | inr later => exact Or.inr ((List.pairwise_cons.mp sorted).1 x later)

theorem ascending_ext {α : Type} [Ord α] [Std.TransOrd α] (a b : List α) (sortedA : Ascending a)
    (sortedB : Ascending b) (same : ∀ x, x ∈ a ↔ x ∈ b) : a = b := by
  have perm : a.Perm b :=
    (List.perm_ext_iff_of_nodup (ascending_nodup a sortedA) (ascending_nodup b sortedB)).mpr same
  refine perm.eq_of_pairwise ?_ sortedA sortedB
  intro x y _ _ less greater
  exact absurd greater (Std.OrientedCmp.not_lt_of_lt less)

theorem compare_total {α : Type} (cmp : α → α → Ordering) [Std.OrientedCmp cmp] (a b : α) :
    ((cmp a b).isLE || (cmp b a).isLE) = true := by
  have swapped : cmp a b = (cmp b a).swap := Std.OrientedCmp.eq_swap
  rw [swapped]
  cases cmp b a <;> rfl

theorem merge_sort_ascending {α κ : Type} [Ord κ] [Std.TransOrd κ] [Std.LawfulEqOrd κ] (key : α → κ)
    (items : List α) (distinct : (items.map key).Nodup) :
    Ascending ((items.mergeSort fun a b => (compare (key a) (key b)).isLE).map key) := by
  have perm := List.mergeSort_perm items fun a b => (compare (key a) (key b)).isLE
  have sorted := List.pairwise_mergeSort (fun _ _ _ => Std.TransCmp.isLE_trans)
    (fun a b => compare_total compare (key a) (key b)) items
  have once := (perm.map key).nodup_iff.mpr distinct
  refine List.pairwise_map.mpr ((sorted.and (List.pairwise_map.mp once)).imp ?_)
  intro a b ⟨least, different⟩
  cases order : compare (key a) (key b) with
  | lt => rfl
  | eq => exact absurd (Std.LawfulEqOrd.eq_of_compare order) different
  | gt =>
      rw [order] at least
      cases least

theorem ascending_entries_ext {κ β : Type} [Ord κ] [Std.TransOrd κ] (a b : List (κ × β))
    (sortedA : Ascending (a.map Prod.fst)) (sortedB : Ascending (b.map Prod.fst))
    (same : ∀ entry, entry ∈ a ↔ entry ∈ b) : a = b := by
  have distinct (entries : List (κ × β)) (sorted : Ascending (entries.map Prod.fst)) :
      entries.Nodup :=
    (List.pairwise_map.mp (ascending_nodup _ sorted)).imp fun different same =>
      different (congrArg Prod.fst same)
  have perm : a.Perm b :=
    (List.perm_ext_iff_of_nodup (distinct a sortedA) (distinct b sortedB)).mpr same
  refine perm.eq_of_pairwise ?_ (List.pairwise_map.mp sortedA) (List.pairwise_map.mp sortedB)
  intro x y _ _ less greater
  exact absurd greater (Std.OrientedCmp.not_lt_of_lt less)

theorem lookup_eq_some_iff_mem {κ β : Type} [DecidableEq κ] (entries : List (κ × β))
    (distinct : (entries.map Prod.fst).Nodup) (key : κ) (value : β) :
    entries.lookup key = some value ↔ (key, value) ∈ entries := by
  induction entries with
  | nil => simp
  | cons entry rest ih =>
      obtain ⟨k, v⟩ := entry
      obtain ⟨fresh, distinct⟩ := List.nodup_cons.mp distinct
      by_cases same : key = k
      · subst same
        have once : (key, value) ∉ rest := fun later =>
          fresh (List.mem_map.mpr ⟨_, later, rfl⟩)
        simp [once, eq_comm]
      · have other : (key == k) = false := by simpa using same
        simp [List.lookup_cons, other, same, ih distinct]

namespace SortedSet

variable {α : Type} [Ord α] [Std.LawfulEqOrd α]

theorem mem_insert_item_iff (x z : α) (items : List α) :
    z ∈ insertItem x items ↔ z = x ∨ z ∈ items := by
  induction items with
  | nil => simp [insertItem]
  | cons y rest ih =>
      unfold insertItem
      split
      · exact List.mem_cons
      · rename_i equal
        have same : x = y := Std.LawfulEqOrd.eq_of_compare equal
        simp [same]
      · simp only [List.mem_cons, ih]
        exact or_left_comm

variable [Std.TransOrd α]

theorem mem_insert (set : SortedSet α) (x z : α) :
    z ∈ (set.insert x).toList ↔ z = x ∨ z ∈ set.toList :=
  mem_insert_item_iff x z set.toList

theorem mem_of_list (items : List α) (x : α) : x ∈ (ofList items).toList ↔ x ∈ items := by
  induction items using List.reverseRecOn with
  | nil => exact Iff.rfl
  | append_singleton front last ih =>
      have step : ofList (front ++ [last]) = (ofList front).insert last := by
        simp [ofList, List.foldl_append]
      rw [step, mem_insert, ih, List.mem_append, List.mem_singleton, or_comm]

omit [Std.LawfulEqOrd α] in
theorem members_ext (a b : SortedSet α) (same : ∀ x, x ∈ a.toList ↔ x ∈ b.toList) : a = b :=
  ext (ascending_ext _ _ a.ascending b.ascending same)

theorem of_list_congr (a b : List α) (same : ∀ x, x ∈ a ↔ x ∈ b) : ofList a = ofList b :=
  members_ext _ _ fun x => by rw [mem_of_list, mem_of_list, same]

theorem of_list_nodup (items : List α) : (ofList items).toList.Nodup :=
  ascending_nodup _ (ofList items).ascending

end SortedSet

namespace SortedMap

variable {κ β : Type} [Ord κ] [Std.TransOrd κ]

omit [Std.TransOrd κ] in
theorem eq_empty (map : SortedMap κ β) (blank : map.isEmpty = true) : map = ∅ :=
  SortedMap.ext (List.isEmpty_iff.mp blank)

theorem of_list_append (front : List (κ × β)) (last : κ × β) :
    ofList (front ++ [last]) = (ofList front).insert last.1 last.2 := by
  simp [ofList, List.foldl_append]

variable [Std.LawfulEqOrd κ]

theorem mem_insert_entry (key : κ) (value : β) (entries : List (κ × β))
    (sorted : Ascending (entries.map Prod.fst)) (entry : κ × β) :
    entry ∈ insertEntry key value entries ↔
      entry = (key, value) ∨ entry ∈ entries ∧ entry.1 ≠ key := by
  induction entries with
  | nil => simp [insertEntry]
  | cons first rest ih =>
      obtain ⟨k, v⟩ := first
      obtain ⟨head, tail⟩ := List.pairwise_cons.mp sorted
      have above (other : κ × β) (member : other ∈ rest) : compare k other.1 = .lt :=
        head other.1 (List.mem_map_of_mem member)
      unfold insertEntry
      split
      · rename_i less
        -- nothing gives way here, since every old key is above the new one
        have fresh (other : κ × β) (member : other ∈ (k, v) :: rest) : other.1 ≠ key := by
          rcases List.mem_cons.mp member with rfl | later
          · exact (ne_of_compare_lt less).symm
          · exact (ne_of_compare_lt (Std.TransCmp.lt_trans less (above other later))).symm
        rw [List.mem_cons]
        exact or_congr_right ⟨fun old => ⟨old, fresh entry old⟩, And.left⟩
      · rename_i equal
        obtain rfl : key = k := Std.LawfulEqOrd.eq_of_compare equal
        have fresh (other : κ × β) (member : other ∈ rest) : other.1 ≠ key :=
          (ne_of_compare_lt (above other member)).symm
        rw [List.mem_cons]
        refine or_congr_right ⟨fun old => ⟨List.mem_cons_of_mem _ old, fresh entry old⟩, ?_⟩
        rintro ⟨old, different⟩
        rcases List.mem_cons.mp old with rfl | later
        · exact absurd rfl different
        · exact later
      · rename_i greater
        have kept : k ≠ key := ne_of_compare_lt (Std.OrientedCmp.lt_of_gt greater)
        rw [List.mem_cons, ih tail, List.mem_cons]
        constructor
        · rintro (rfl | same | ⟨old, different⟩)
          · exact Or.inr ⟨Or.inl rfl, kept⟩
          · exact Or.inl same
          · exact Or.inr ⟨Or.inr old, different⟩
        · rintro (same | ⟨here | old, different⟩)
          · exact Or.inr (Or.inl same)
          · exact Or.inl here
          · exact Or.inr (Or.inr ⟨old, different⟩)

theorem mem_insert (map : SortedMap κ β) (key : κ) (value : β) (entry : κ × β) :
    entry ∈ (map.insert key value).toList ↔
      entry = (key, value) ∨ entry ∈ map.toList ∧ entry.1 ≠ key :=
  mem_insert_entry key value map.toList map.ascending entry

theorem keys_insert (map : SortedMap κ β) (key : κ) (value : β) (k : κ) :
    k ∈ (map.insert key value).keys ↔ k = key ∨ k ∈ map.keys := by
  unfold keys insert
  rw [insert_entry_keys]
  exact SortedSet.mem_insert_item_iff key k (map.toList.map Prod.fst)

theorem mem_keys_of_list (entries : List (κ × β)) (key : κ) :
    key ∈ (ofList entries).keys ↔ key ∈ entries.map Prod.fst := by
  induction entries using List.reverseRecOn with
  | nil => exact Iff.rfl
  | append_singleton front last ih =>
      rw [of_list_append, keys_insert, ih, List.map_append, List.mem_append, List.map_singleton,
        List.mem_singleton, or_comm]

theorem mem_of_list (entries : List (κ × β)) (distinct : (entries.map Prod.fst).Nodup)
    (entry : κ × β) : entry ∈ (ofList entries).toList ↔ entry ∈ entries := by
  induction entries using List.reverseRecOn with
  | nil => exact Iff.rfl
  | append_singleton front last ih =>
      rw [List.map_append, List.map_singleton, List.nodup_append] at distinct
      have fresh (other : κ × β) (member : other ∈ front) : other.1 ≠ last.1 :=
        distinct.2.2 other.1 (List.mem_map_of_mem member) last.1 List.mem_cons_self
      rw [of_list_append, mem_insert, ih distinct.1, List.mem_append, List.mem_singleton, or_comm]
      exact or_congr_left ⟨And.left, fun member => ⟨member, fresh entry member⟩⟩

theorem of_list_to_list (entries : List (κ × β)) (distinct : (entries.map Prod.fst).Nodup) :
    (ofList entries).toList.Perm entries := by
  have apart (items : List (κ × β)) (keys : (items.map Prod.fst).Nodup) : items.Nodup :=
    (List.pairwise_map.mp keys).imp fun different same => different (congrArg Prod.fst same)
  have made := apart _ (ascending_nodup _ (ofList entries).ascending)
  exact (List.perm_ext_iff_of_nodup made (apart entries distinct)).mpr (mem_of_list entries distinct)

theorem of_list_perm (map : SortedMap κ β) (entries : List (κ × β))
    (perm : entries.Perm map.toList) : ofList entries = map := by
  have distinct := (perm.map Prod.fst).nodup_iff.mpr (ascending_nodup _ map.ascending)
  refine SortedMap.ext (ascending_entries_ext _ _ (ofList entries).ascending map.ascending ?_)
  intro entry
  rw [mem_of_list entries distinct, perm.mem_iff]

omit [Std.TransOrd κ] in
theorem get_eq_some_iff [DecidableEq κ] (map : SortedMap κ β) (key : κ) (value : β) :
    map.get? key = some value ↔ (key, value) ∈ map.toList :=
  lookup_eq_some_iff_mem map.toList (ascending_nodup _ map.ascending) key value

theorem get_insert [DecidableEq κ] (map : SortedMap κ β) (key : κ) (value : β) (k : κ) :
    (map.insert key value).get? k = if k = key then some value else map.get? k := by
  refine Option.ext fun found => ?_
  rw [get_eq_some_iff, mem_insert, Prod.mk.injEq]
  split
  · rename_i same
    simp [same, eq_comm]
  · rename_i different
    simp [different, get_eq_some_iff]

theorem mem_of_list_map (keys : List κ) (distinct : keys.Nodup) (image : κ → β) (key : κ)
    (value : β) :
    (key, value) ∈ (ofList (keys.map fun k => (k, image k))).toList ↔
      key ∈ keys ∧ value = image key := by
  have same : (keys.map fun k => (k, image k)).map Prod.fst = keys := by simp [Function.comp_def]
  rw [mem_of_list _ (same.symm ▸ distinct), List.mem_map]
  constructor
  · rintro ⟨k, member, pair⟩
    obtain ⟨rfl, rfl⟩ := Prod.mk.inj pair
    exact ⟨member, rfl⟩
  · rintro ⟨member, rfl⟩
    exact ⟨key, member, rfl⟩

section Merge

variable [DecidableEq κ]

theorem get_ext (a b : SortedMap κ β) (same : ∀ key, a.get? key = b.get? key) : a = b := by
  refine SortedMap.ext (ascending_entries_ext _ _ a.ascending b.ascending fun entry => ?_)
  rw [← get_eq_some_iff, ← get_eq_some_iff, same]

theorem get_fold_insert (entries : List (κ × β)) (map : SortedMap κ β) (key : κ) :
    (entries.foldl (fun all entry => all.insert entry.1 entry.2) map).get? key =
      ((ofList entries).get? key).or (map.get? key) := by
  induction entries using List.reverseRecOn with
  | nil => rfl
  | append_singleton front last ih =>
      rw [List.foldl_append, List.foldl_cons, List.foldl_nil, of_list_append, get_insert, get_insert]
      by_cases same : key = last.1
      · rw [if_pos same, if_pos same, Option.some_or]
      · rw [if_neg same, if_neg same, ih]

theorem get_merge (map other : SortedMap κ β) (key : κ) :
    (map.merge other).get? key = (other.get? key).or (map.get? key) := by
  rw [merge, get_fold_insert, of_list_perm other _ (List.Perm.refl _)]

theorem of_list_merge (front back : List (κ × β)) :
    ofList (front ++ back) = (ofList front).merge (ofList back) := by
  refine get_ext _ _ fun key => ?_
  rw [get_merge, ofList, List.foldl_append, get_fold_insert]
  rfl

end Merge

end SortedMap

end SqlWorkflow
