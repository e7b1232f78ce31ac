import Mathlib.Data.List.Nodup
import Mathlib.Data.List.Perm.Basic
import SqlWorkflow.Json
import SqlWorkflow.Proofs.SortedMap

-- The members of an object have no order, so a reader has to find its value in whatever order they
-- come.
namespace SqlWorkflow.Json

-- The same value with the members of its objects in another order.
inductive Rearranged : Json → Json → Prop where
  | same (json : Json) : Rearranged json json
  | array (items others : List Json) (each : List.Forall₂ Rearranged items others) :
      Rearranged (.array items) (.array others)
  | object (members moved others : List (String × Json)) (order : members.Perm moved)
      (names : moved.map Prod.fst = others.map Prod.fst)
      (values : List.Forall₂ Rearranged (moved.map Prod.snd) (others.map Prod.snd)) :
      Rearranged (.object members) (.object others)

def Moved (members others : List (String × Json)) : Prop :=
  ∃ moved : List (String × Json), members.Perm moved ∧
    List.Forall₂ (fun a b => a.1 = b.1 ∧ Rearranged a.2 b.2) moved others

theorem rearranged_each (items : List Json) : List.Forall₂ Rearranged items items :=
  List.forall₂_same.mpr fun item _ => .same item

theorem array_rearranged (items : List Json) (json : Json)
    (rearranged : Rearranged (.array items) json) :
    ∃ others, json = .array others ∧ List.Forall₂ Rearranged items others := by
  cases rearranged with
  | same => exact ⟨items, rfl, rearranged_each items⟩
  | array _ others each => exact ⟨others, rfl, each⟩

theorem members_related (moved others : List (String × Json))
    (names : moved.map Prod.fst = others.map Prod.fst)
    (values : List.Forall₂ Rearranged (moved.map Prod.snd) (others.map Prod.snd)) :
    List.Forall₂ (fun a b => a.1 = b.1 ∧ Rearranged a.2 b.2) moved others := by
  induction moved generalizing others with
  | nil =>
      cases others with
      | nil => exact .nil
      | cons first others => cases names
  | cons first moved ih =>
      cases others with
      | nil => cases names
      | cons other others =>
          obtain ⟨name, names⟩ := List.cons.inj names
          obtain ⟨value, values⟩ := List.forall₂_cons.mp values
          exact .cons ⟨name, value⟩ (ih others names values)

theorem object_rearranged (members : List (String × Json)) (json : Json)
    (rearranged : Rearranged (.object members) json) :
    ∃ others, json = .object others ∧ Moved members others := by
  cases rearranged with
  | same =>
      refine ⟨members, rfl, members, List.Perm.refl _, List.forall₂_same.mpr fun member _ => ?_⟩
      exact ⟨rfl, .same member.2⟩
  | object _ moved others order names values =>
      exact ⟨others, rfl, moved, order, members_related moved others names values⟩

section Readers

variable {α : Type} {encode : α → Json} {decode : Json → Option α}

def Reads (encode : α → Json) (decode : Json → Option α) : Prop :=
  ∀ value json, Rearranged (encode value) json → decode json = some value

theorem string_reads : Reads .string string? := by
  intro value json rearranged
  cases rearranged
  rfl

theorem bool_reads : Reads .bool bool? := by
  intro value json rearranged
  cases rearranged
  rfl

theorem word_reads (word : α → String) (ofWord? : String → Option α)
    (back : ∀ value, ofWord? (word value) = some value) :
    Reads (fun value => .string (word value)) (fun json => json.string?.bind ofWord?) := by
  intro value json rearranged
  cases rearranged
  exact back value

theorem map_m_related {β : Type} (read : β → Option α) (values : List α) (items : List β)
    (each : List.Forall₂ (fun value item => read item = some value) values items) :
    items.mapM read = some values := by
  induction each with
  | nil => rfl
  | cons first _ ih =>
      rw [List.mapM_cons, first, ih]
      rfl

theorem list_reads (reads : Reads encode decode) :
    Reads (fun values => .array (values.map encode)) (list? decode) := by
  intro values json rearranged
  obtain ⟨items, rfl, each⟩ := array_rearranged _ json rearranged
  refine map_m_related decode values items ?_
  exact (List.forall₂_map_left_iff.mp each).imp reads

theorem strings_reads : Reads strings (list? string?) :=
  list_reads string_reads

-- The entries come in any order, and their keys put them back in theirs.
theorem map_reads (reads : Reads encode decode) : Reads (ofMap encode) (map? decode) := by
  intro map json rearranged
  obtain ⟨others, rfl, moved, order, each⟩ := object_rearranged _ json rearranged
  obtain ⟨entries, rfl, perm⟩ : ∃ entries : List (String × α),
      moved = entries.map (fun entry => (entry.1, encode entry.2)) ∧
        entries.Perm map.toList :=
    (congrFun (congrFun (List.eq_map_comp_perm _) moved) map.toList).mpr order.symm
  have read : (others.mapM fun member => (decode member.2).map fun value => (member.1, value)) =
      some entries := by
    refine map_m_related _ entries others ((List.forall₂_map_left_iff.mp each).imp ?_)
    intro entry member related
    rw [reads entry.2 member.2 related.2, ← related.1]
    rfl
  rw [map?, read, Option.map_some, SortedMap.of_list_perm map entries perm]

end Readers

def present (fields : List (String × Option Json)) : List (String × Json) :=
  fields.filterMap fun field => field.2.map (field.1, ·)

section Present

variable (fields others : List (String × Option Json)) (name : String) (json : Json)

@[simp]
theorem present_nil : present [] = [] :=
  rfl

@[simp]
theorem present_some : present ((name, some json) :: fields) = (name, json) :: present fields :=
  rfl

@[simp]
theorem present_map {α : Type} (encode : α → Json) (value : Option α) :
    present ((name, value.map encode) :: fields) =
      optional name encode value ++ present fields := by
  cases value <;> rfl

@[simp]
theorem present_unless (blank : Bool) :
    present ((name, if blank then none else some json) :: fields) =
      (if blank then [] else [(name, json)]) ++ present fields := by
  cases blank <;> rfl

@[simp]
theorem present_append : present (fields ++ others) = present fields ++ present others :=
  List.filterMap_append

theorem present_names : ((present fields).map Prod.fst).Sublist (fields.map Prod.fst) := by
  induction fields with
  | nil => exact List.Sublist.slnil
  | cons field fields ih =>
      obtain ⟨name, value⟩ := field
      cases value with
      | none => exact ih.cons name
      | some json => exact ih.cons_cons name

end Present

theorem present_mem (fields : List (String × Option Json)) (name : String) (json : Json) :
    (name, json) ∈ present fields ↔ (name, some json) ∈ fields := by
  simp [present]

structure Carries (fields : List (String × Option Json)) (members : List (String × Json)) :
    Prop where
  named : ∀ member ∈ members, member.1 ∈ fields.map Prod.fst
  found : ∀ name json, (name, some json) ∈ fields →
    ∃ other, members.lookup name = some other ∧ Rearranged json other
  absent : ∀ name, (name, none) ∈ fields → members.lookup name = none

theorem Carries.names_known {fields : List (String × Option Json)} {members : List (String × Json)}
    (carries : Carries fields members) :
    (members.any fun member => member.1 ∉ fields.map Prod.fst) = false := by
  rw [List.any_eq_false]
  intro member listed unknown
  exact of_decide_eq_true unknown (carries.named member listed)

theorem related_names (moved others : List (String × Json))
    (each : List.Forall₂ (fun a b => a.1 = b.1 ∧ Rearranged a.2 b.2) moved others) :
    others.map Prod.fst = moved.map Prod.fst := by
  induction each with
  | nil => rfl
  | cons first _ ih => rw [List.map_cons, List.map_cons, first.1, ih]

theorem related_member (moved others : List (String × Json))
    (each : List.Forall₂ (fun a b => a.1 = b.1 ∧ Rearranged a.2 b.2) moved others)
    (name : String) (json : Json) (member : (name, json) ∈ moved) :
    ∃ other, (name, other) ∈ others ∧ Rearranged json other := by
  induction each with
  | nil => cases member
  | @cons a b _ _ first _ ih =>
      rcases List.mem_cons.mp member with rfl | later
      · obtain ⟨key, value⟩ := b
        obtain rfl : name = key := first.1
        exact ⟨value, List.mem_cons_self, first.2⟩
      · obtain ⟨other, found, rearranged⟩ := ih later
        exact ⟨other, List.mem_cons_of_mem _ found, rearranged⟩

theorem present_carries (fields : List (String × Option Json))
    (distinct : (fields.map Prod.fst).Nodup) (json : Json)
    (rearranged : Rearranged (.object (present fields)) json) :
    ∃ members, json = .object members ∧ Carries fields members := by
  obtain ⟨members, rfl, moved, order, each⟩ := object_rearranged _ json rearranged
  have names : (members.map Prod.fst).Perm ((present fields).map Prod.fst) := by
    rw [related_names moved members each]
    exact (order.map Prod.fst).symm
  have once := names.nodup_iff.mpr (distinct.sublist (present_names fields))
  refine ⟨members, rfl, fun member listed => ?_, fun name json listed => ?_, fun name missing => ?_⟩
  · exact (present_names fields).subset (names.subset (List.mem_map_of_mem listed))
  · have written := order.subset ((present_mem fields name json).mpr listed)
    obtain ⟨other, found, rearranged⟩ := related_member moved members each name json written
    exact ⟨other, (lookup_eq_some_iff_mem members once name other).mpr found, rearranged⟩
  · cases found : members.lookup name with
    | none => rfl
    | some other =>
        -- a member of that name would come from a second field of that name
        have listed := (lookup_eq_some_iff_mem members once name other).mp found
        obtain ⟨⟨_, json⟩, written, rfl⟩ :=
          List.mem_map.mp (names.subset (List.mem_map_of_mem listed))
        have here := (present_mem fields _ json).mp written
        have same := List.inj_on_of_nodup_map distinct here missing rfl
        cases same

section Fields

variable {α : Type} {encode : α → Json} {decode : Json → Option α}
  {fields : List (String × Option Json)} {members : List (String × Json)}

theorem Carries.required (carries : Carries fields members) (reads : Reads encode decode)
    (name : String) (value : α) (listed : (name, some (encode value)) ∈ fields) :
    Json.required members name decode = some value := by
  obtain ⟨other, found, rearranged⟩ := carries.found name _ listed
  rw [Json.required, found]
  exact reads value other rearranged

theorem Carries.withDefault (carries : Carries fields members) (reads : Reads encode decode)
    (name : String) (value absent : α) (blank : Bool) (omitted : blank = true → absent = value)
    (listed : (name, if blank then none else some (encode value)) ∈ fields) :
    Json.withDefault members name decode absent = some value := by
  unfold Json.withDefault
  cases blank with
  | true => rw [carries.absent name listed, omitted rfl]
  | false =>
      obtain ⟨other, found, rearranged⟩ := carries.found name _ listed
      rw [found]
      exact reads value other rearranged

theorem Carries.nullable (carries : Carries fields members) (reads : Reads encode decode)
    (strict : decode .null = none) (name : String) (value : Option α)
    (listed : (name, value.map encode) ∈ fields) :
    Json.withDefault members name (Json.nullable decode) none = some value := by
  unfold Json.withDefault
  cases value with
  | none => rw [carries.absent name listed]
  | some value =>
      obtain ⟨other, found, rearranged⟩ := carries.found name _ listed
      have read := reads value other rearranged
      rw [found]
      cases other with
      | null => rw [strict] at read; cases read
      | _ => exact congrArg (Option.map some) read

end Fields

end SqlWorkflow.Json
