import Mathlib.Data.List.Induction
import SqlWorkflow.ConfigBlock.Read
import SqlWorkflow.Proofs.Results

-- Taking an entry out moves the last one, so what is taken and what is left are stated of every
-- arrangement of the entries.
namespace SqlWorkflow.ConfigBlock

def plainKey? (entry : Document × Document) : Option String :=
  match entry.1 with
  | .scalar text .text => some text
  | _ => none

def plainKeys (entries : Entries) : List String :=
  entries.filterMap plainKey?

def KeysApart (entries : Entries) : Prop :=
  (plainKeys entries).Nodup

theorem plain_key (key value : Document) (text : String)
    (plain : plainKey? (key, value) = some text) : key = .string text := by
  unfold plainKey? at plain
  split at plain
  next keyText same =>
      obtain rfl := Option.some.inj plain
      exact same
  next => cases plain

theorem plain_entry (entry : Document × Document) (text : String)
    (plain : plainKey? entry = some text) : entry = (.string text, entry.2) :=
  congrArg (·, entry.2) (plain_key entry.1 entry.2 text plain)

theorem plain_keys_perm {entries others : Entries} (perm : entries.Perm others) :
    (plainKeys entries).Perm (plainKeys others) :=
  perm.filterMap _

theorem KeysApart.perm {entries others : Entries} (apart : KeysApart entries)
    (perm : entries.Perm others) : KeysApart others :=
  (plain_keys_perm perm).nodup_iff.mp apart

theorem KeysApart.sublist {entries part : Entries} (apart : KeysApart entries)
    (within : part.Sublist entries) : KeysApart part :=
  List.Nodup.sublist (within.filterMap _) apart

theorem entries_value_apart (entries : Entries) (keys : List Document)
    (valued : Document.entriesHaveValue keys entries = true) :
    KeysApart entries ∧ ∀ text ∈ plainKeys entries, Document.string text ∉ keys := by
  induction entries generalizing keys with
  | nil => exact ⟨.nil, fun text member => by cases member⟩
  | cons entry entries ih =>
      obtain ⟨key, value⟩ := entry
      rw [Document.entriesHaveValue, Bool.and_eq_true, Bool.and_eq_true] at valued
      obtain ⟨⟨_, fresh⟩, rest⟩ := valued
      obtain ⟨apart, beyond⟩ := ih _ rest
      unfold KeysApart plainKeys at *
      cases plain : plainKey? (key, value) with
      | none =>
          rw [List.filterMap_cons_none plain]
          exact ⟨apart, fun text member => List.not_mem_of_not_mem_cons (beyond text member)⟩
      | some text =>
          rw [List.filterMap_cons_some plain]
          obtain rfl := plain_key key value text plain
          constructor
          · exact List.nodup_cons.mpr ⟨fun member => beyond text member (by simp), apart⟩
          · intro other member
            cases List.mem_cons.mp member with
            | inr later => exact List.not_mem_of_not_mem_cons (beyond other later)
            | inl same =>
                subst same
                intro seen
                have again : keys.any (Document.string other).same = true :=
                  List.any_eq_true.mpr ⟨_, seen, by simp [Document.string, Document.same, Scalar.same]⟩
                rw [again] at fresh
                cases fresh

theorem keys_apart_of_value (entries : Entries)
    (valued : (Document.mapping entries).hasValue = true) : KeysApart entries :=
  (entries_value_apart entries [] (by rwa [Document.hasValue] at valued)).1

theorem take_out_cons (name : String) (entry : Document × Document) (entries : Entries) :
    takeOut? name (entry :: entries) =
      if plainKey? entry = some name then some (entry.2, lastFirst entries)
      else (takeOut? name entries).map fun found => (found.1, entry :: found.2) := by
  obtain ⟨key, value⟩ := entry
  cases plain : plainKey? (key, value) with
  | none =>
      rw [if_neg (by simp)]
      conv_lhs => unfold takeOut?
      split
      next same => cases same
      next same => cases same; cases plain
      next same => cases same; rfl
  | some text =>
      obtain rfl := plain_key key value text plain
      simp only [Document.string, takeOut?, Option.some.injEq]

theorem last_first_perm (entries : Entries) : (lastFirst entries).Perm entries := by
  cases entries using List.reverseRecOn with
  | nil => exact .nil
  | append_singleton entries last =>
      rw [lastFirst, List.getLast?_append, List.dropLast_concat]
      exact List.perm_append_comm

theorem take_out_none_iff (name : String) (entries : Entries) :
    takeOut? name entries = none ↔ name ∉ plainKeys entries := by
  induction entries with
  | nil => simp [takeOut?, plainKeys]
  | cons entry entries ih =>
      rw [take_out_cons]
      by_cases plain : plainKey? entry = some name
      · simp [plainKeys, plain]
      · rw [if_neg plain, Option.map_eq_none_iff, ih]
        simp [plainKeys, plain]

theorem take_out_some (name : String) (entries rest : Entries) (value : Document)
    (found : takeOut? name entries = some (value, rest)) :
    entries.Perm ((.string name, value) :: rest) := by
  induction entries generalizing rest with
  | nil => cases found
  | cons entry entries ih =>
      rw [take_out_cons] at found
      by_cases plain : plainKey? entry = some name
      · rw [if_pos plain] at found
        cases found
        rw [← plain_entry entry name plain]
        exact (last_first_perm entries).symm.cons entry
      · rw [if_neg plain] at found
        obtain ⟨⟨_, others⟩, later, same⟩ := Option.map_eq_some_iff.mp found
        cases same
        exact ((ih others later).cons entry).trans (.swap _ _ _)

-- Where plain keys are apart, what is taken out does not depend on how the entries are arranged.
theorem take_out_perm (name : String) (entries others : Entries) (value : Document)
    (apart : KeysApart entries) (perm : entries.Perm ((.string name, value) :: others)) :
    ∃ rest, takeOut? name entries = some (value, rest) ∧ rest.Perm others := by
  have only : name ∉ plainKeys others :=
    (List.nodup_cons.mp (apart.perm perm)).1
  cases found : takeOut? name entries with
  | none =>
      have absent := (take_out_none_iff name entries).mp found
      exact absurd ((plain_keys_perm perm).mem_iff.mpr (by simp [plainKeys, plainKey?, Document.string]))
        absent
  | some taken =>
      obtain ⟨first, rest⟩ := taken
      have both := (take_out_some name entries rest first found).symm.trans perm
      have same : first = value := by
        cases List.mem_cons.mp (both.mem_iff.mp List.mem_cons_self) with
        | inl same => exact congrArg Prod.snd same
        | inr other => exact absurd (List.mem_filterMap.mpr ⟨_, other, rfl⟩ : name ∈ plainKeys others) only
      subst same
      exact ⟨rest, rfl, both.cons_inv⟩

theorem read_out_perm {α : Type} (name : String) (read : Document → Reading α) (absent result : α)
    (entries others rest : Entries) (apart : KeysApart entries) (perm : entries.Perm others)
    (taken : readOut name read absent entries = .ok (result, rest)) :
    KeysApart rest ∧
      ∃ left, readOut name read absent others = .ok (result, left) ∧ rest.Perm left := by
  unfold readOut at taken ⊢
  cases found : takeOut? name entries with
  | none =>
      rw [found] at taken
      cases taken
      have missing := (take_out_none_iff name entries).mp found
      rw [(plain_keys_perm perm).mem_iff, ← take_out_none_iff] at missing
      rw [missing]
      exact ⟨apart, others, rfl, perm⟩
  | some entry =>
      obtain ⟨value, kept⟩ := entry
      rw [found] at taken
      obtain ⟨middle, reading, same⟩ := (except_map_ok_iff _ _ _).mp taken
      cases same
      have split := take_out_some name entries _ value found
      obtain ⟨left, foundThere, same⟩ :=
        take_out_perm name others _ value (apart.perm perm) (perm.symm.trans split)
      rw [foundThere]
      refine ⟨(apart.perm split).sublist (List.sublist_cons_self _ _), left, ?_, same.symm⟩
      exact (except_map_ok_iff _ _ _).mpr ⟨_, reading, rfl⟩

theorem read_out_odd {α : Type} (name : String) (read : Document → Reading α) (absent result : α)
    (entries rest : Entries) (taken : readOut name read absent entries = .ok (result, rest))
    (entry : Document × Document) (member : entry ∈ entries) (odd : plainKey? entry = none) :
    entry ∈ rest := by
  unfold readOut at taken
  cases found : takeOut? name entries with
  | none => rw [found] at taken; cases taken; exact member
  | some pair =>
      obtain ⟨value, first⟩ := pair
      rw [found] at taken
      obtain ⟨middle, reading, same⟩ := (except_map_ok_iff _ _ _).mp taken
      cases same
      cases List.mem_cons.mp ((take_out_some name entries _ value found).mem_iff.mp member) with
      | inl same => subst same; cases odd
      | inr left => exact left

def leaveOut (names : List String) (entries : Entries) : Entries :=
  entries.filter fun entry => ∀ name ∈ names, plainKey? entry ≠ some name

theorem leave_out_congr {names others : List String} (same : ∀ name, name ∈ names ↔ name ∈ others)
    (entries : Entries) : leaveOut names entries = leaveOut others entries := by
  unfold leaveOut
  simp only [same]

theorem leave_out_absent (name : String) (names : List String) (entries : Entries)
    (absent : name ∉ plainKeys entries) :
    leaveOut (name :: names) entries = leaveOut names entries := by
  refine List.filter_congr fun entry member => ?_
  have different : plainKey? entry ≠ some name :=
    fun same => absent (List.mem_filterMap.mpr ⟨entry, member, same⟩)
  simp [different]

theorem without_perm (name : String) (entries : Entries) (apart : KeysApart entries) :
    (without entries name).Perm (leaveOut [name] entries) := by
  unfold without
  cases found : takeOut? name entries with
  | none =>
      have absent := (take_out_none_iff name entries).mp found
      rw [leave_out_absent name [] entries absent]
      simp [leaveOut]
  | some pair =>
      obtain ⟨value, rest⟩ := pair
      have split := take_out_some name entries rest value found
      have absent : name ∉ plainKeys rest := (List.nodup_cons.mp (apart.perm split)).1
      have left : (leaveOut [name] entries).Perm (leaveOut [name] ((.string name, value) :: rest)) :=
        split.filter _
      refine List.Perm.trans (.of_eq ?_) left.symm
      rw [leaveOut, List.filter_cons_of_neg (by simp [plainKey?, Document.string])]
      have same := leave_out_absent name [] rest absent
      simp only [leaveOut, List.not_mem_nil] at same ⊢
      rw [same]
      simp

theorem without_all_perm (names : List String) (entries : Entries) (apart : KeysApart entries) :
    (names.foldl without entries).Perm (leaveOut names entries) := by
  induction names generalizing entries with
  | nil => simp [leaveOut]
  | cons name names ih =>
      rw [List.foldl_cons]
      have first := without_perm name entries apart
      have left : KeysApart (without entries name) :=
        (apart.sublist List.filter_sublist).perm first.symm
      refine (ih _ left).trans ((first.filter _).trans (.of_eq ?_))
      unfold leaveOut
      rw [List.filter_filter]
      simp [Bool.and_comm]

end SqlWorkflow.ConfigBlock
