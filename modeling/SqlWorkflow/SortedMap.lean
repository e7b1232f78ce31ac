-- The lists are in strictly ascending order, so that two sets or maps with the same content are
-- equal.
namespace SqlWorkflow

def Ascending {α : Type} [Ord α] (items : List α) : Prop :=
  items.Pairwise fun a b => compare a b = .lt

structure SortedSet (α : Type) [Ord α] where
  toList : List α
  ascending : Ascending toList

namespace SortedSet

variable {α : Type} [Ord α]

def insertItem (x : α) : List α → List α
  | [] => [x]
  | y :: rest =>
      match compare x y with
      | .lt => x :: y :: rest
      | .eq => y :: rest
      | .gt => y :: insertItem x rest

theorem mem_insert_item (x z : α) (items : List α) (mem : z ∈ insertItem x items) :
    z = x ∨ z ∈ items := by
  induction items with
  | nil => simpa [insertItem] using mem
  | cons y rest ih =>
      unfold insertItem at mem
      split at mem
      · simpa using mem
      · exact Or.inr mem
      · rcases List.mem_cons.mp mem with same | later
        · exact Or.inr (same ▸ List.mem_cons_self)
        · exact (ih later).imp_right (List.mem_cons_of_mem y)

theorem insert_item_ascending [Std.TransOrd α] (x : α) (items : List α) (sorted : Ascending items) :
    Ascending (insertItem x items) := by
  induction items with
  | nil => exact List.pairwise_singleton _ _
  | cons y rest ih =>
      have ⟨head, tail⟩ := List.pairwise_cons.mp sorted
      unfold insertItem
      split
      · rename_i less
        refine List.pairwise_cons.mpr ⟨?_, sorted⟩
        intro z mem
        rcases List.mem_cons.mp mem with same | later
        · exact same ▸ less
        · exact Std.TransCmp.lt_trans less (head z later)
      · exact sorted
      · rename_i greater
        refine List.pairwise_cons.mpr ⟨?_, ih tail⟩
        intro z mem
        rcases mem_insert_item x z rest mem with same | later
        · exact same ▸ Std.OrientedCmp.lt_of_gt greater
        · exact head z later

def empty : SortedSet α := ⟨[], List.Pairwise.nil⟩

instance : EmptyCollection (SortedSet α) := ⟨empty⟩

instance : Inhabited (SortedSet α) := ⟨empty⟩

def insert [Std.TransOrd α] (set : SortedSet α) (x : α) : SortedSet α :=
  ⟨insertItem x set.toList, insert_item_ascending x set.toList set.ascending⟩

def ofList [Std.TransOrd α] (items : List α) : SortedSet α :=
  items.foldl insert ∅

def contains [BEq α] (set : SortedSet α) (x : α) : Bool :=
  set.toList.contains x

@[ext]
theorem ext {a b : SortedSet α} (same : a.toList = b.toList) : a = b := by
  cases a; cases b; simp_all

instance [DecidableEq α] : DecidableEq (SortedSet α) := fun a b =>
  if same : a.toList = b.toList then isTrue (ext same)
  else isFalse fun h => same (h ▸ rfl)

end SortedSet

structure SortedMap (κ : Type) [Ord κ] (β : Type) where
  toList : List (κ × β)
  ascending : Ascending (toList.map Prod.fst)

namespace SortedMap

variable {κ β : Type} [Ord κ]

def insertEntry (key : κ) (value : β) : List (κ × β) → List (κ × β)
  | [] => [(key, value)]
  | (k, v) :: rest =>
      match compare key k with
      | .lt => (key, value) :: (k, v) :: rest
      | .eq => (k, value) :: rest
      | .gt => (k, v) :: insertEntry key value rest

theorem insert_entry_keys (key : κ) (value : β) (entries : List (κ × β)) :
    (insertEntry key value entries).map Prod.fst =
      SortedSet.insertItem key (entries.map Prod.fst) := by
  induction entries with
  | nil => rfl
  | cons entry rest ih =>
      simp only [insertEntry, SortedSet.insertItem, List.map_cons]
      split <;> simp_all

def empty : SortedMap κ β := ⟨[], List.Pairwise.nil⟩

instance : EmptyCollection (SortedMap κ β) := ⟨empty⟩

instance : Inhabited (SortedMap κ β) := ⟨empty⟩

def insert [Std.TransOrd κ] (map : SortedMap κ β) (key : κ) (value : β) : SortedMap κ β :=
  ⟨insertEntry key value map.toList, by
    rw [insert_entry_keys]
    exact SortedSet.insert_item_ascending key _ map.ascending⟩

def ofList [Std.TransOrd κ] (entries : List (κ × β)) : SortedMap κ β :=
  entries.foldl (fun map entry => map.insert entry.1 entry.2) ∅

def get? [BEq κ] (map : SortedMap κ β) (key : κ) : Option β :=
  map.toList.lookup key

def keys (map : SortedMap κ β) : List κ :=
  map.toList.map Prod.fst

def isEmpty (map : SortedMap κ β) : Bool :=
  map.toList.isEmpty

def merge [Std.TransOrd κ] (map other : SortedMap κ β) : SortedMap κ β :=
  other.toList.foldl (fun all entry => all.insert entry.1 entry.2) map

@[ext]
theorem ext {a b : SortedMap κ β} (same : a.toList = b.toList) : a = b := by
  cases a; cases b; simp_all

instance [DecidableEq κ] [DecidableEq β] : DecidableEq (SortedMap κ β) := fun a b =>
  if same : a.toList = b.toList then isTrue (ext same)
  else isFalse fun h => same (h ▸ rfl)

end SortedMap

end SqlWorkflow
