import Mathlib.Data.List.Nodup
import SqlWorkflow.FileTree
import SqlWorkflow.Proofs.SortedMap

namespace SqlWorkflow.FileTree

-- No directory has two entries of one name, and no name has a slash in it.
inductive WellNamed : FileTree → Prop where
  | file (text : Option String) : WellNamed (.file text)
  | directory (entries : List (String × FileTree)) (distinct : (entries.map Prod.fst).Nodup)
      (plain : ∀ entry ∈ entries, '/' ∉ entry.1.toList)
      (inside : ∀ entry ∈ entries, WellNamed entry.2) : WellNamed (.directory entries)

theorem at_directory (entries : List (String × FileTree)) (name : String) (path : List String) :
    (directory entries).at? (name :: path) =
      (entries.lookup name).bind fun child => child.at? path :=
  rfl

section Entries

variable {entries : List (String × FileTree)} (named : WellNamed (.directory entries))

include named

theorem lookup_entry (name : String) (child : FileTree) :
    entries.lookup name = some child ↔ (name, child) ∈ entries := by
  cases named with
  | directory _ distinct => exact lookup_eq_some_iff_mem entries distinct name child

theorem at_entry (name : String) (path : List String) (found : FileTree) :
    (directory entries).at? (name :: path) = some found ↔
      ∃ child, (name, child) ∈ entries ∧ child.at? path = some found := by
  simp only [at_directory, Option.bind_eq_some_iff, lookup_entry named]

theorem entry_well_named (name : String) (child : FileTree) (member : (name, child) ∈ entries) :
    '/' ∉ name.toList ∧ child.WellNamed := by
  cases named with
  | directory _ _ plain inside => exact ⟨plain _ member, inside _ member⟩

end Entries

theorem at_first (tree : FileTree) (name : String) (path : List String) :
    tree.at? (name :: path) = (tree.at? [name]).bind fun child => child.at? path := by
  rw [at?, at?]
  cases tree.entries.lookup name <;> rfl

theorem at_some_named (tree : FileTree) (named : tree.WellNamed) (path : List String)
    (found : FileTree) (leads : tree.at? path = some found) :
    (∀ name ∈ path, '/' ∉ name.toList) ∧ found.WellNamed := by
  induction path generalizing tree with
  | nil =>
      obtain rfl := Option.some.inj leads
      exact ⟨by simp, named⟩
  | cons first path ih =>
      cases tree with
      | file text => cases leads
      | directory entries =>
          obtain ⟨child, member, rest⟩ := (at_entry named first path found).mp leads
          obtain ⟨plain, below⟩ := entry_well_named named first child member
          obtain ⟨later, last⟩ := ih child below rest
          exact ⟨List.forall_mem_cons.mpr ⟨plain, later⟩, last⟩

theorem entries_well_named (tree : FileTree) (named : tree.WellNamed) :
    WellNamed (.directory tree.entries) := by
  cases tree with
  | file text => exact .directory [] .nil (by simp) (by simp)
  | directory entries => exact named

theorem entry_put_well_named {entries : List (String × FileTree)}
    (named : WellNamed (.directory entries)) (name : String) (plain : '/' ∉ name.toList)
    (child : FileTree) (below : child.WellNamed) :
    WellNamed (.directory (entries.filter (·.1 != name) ++ [(name, child)])) := by
  cases named with
  | directory _ distinct entryPlain inside =>
      have kept (entry : String × FileTree) (member : entry ∈ entries.filter (·.1 != name)) :
          entry ∈ entries ∧ entry.1 ≠ name := by
        simpa using member
      refine .directory _ ?_ ?_ ?_
      · have shorter := distinct.sublist (List.filter_sublist (p := (·.1 != name)) |>.map Prod.fst)
        rw [List.map_append, List.map_singleton, ← List.concat_eq_append, List.nodup_concat]
        refine ⟨?_, shorter⟩
        intro again
        obtain ⟨entry, member, same⟩ := List.mem_map.mp again
        exact (kept entry member).2 same
      · intro entry member
        rcases List.mem_append.mp member with old | new
        · exact entryPlain entry (kept entry old).1
        · obtain rfl := List.mem_singleton.mp new
          exact plain
      · intro entry member
        rcases List.mem_append.mp member with old | new
        · exact inside entry (kept entry old).1
        · obtain rfl := List.mem_singleton.mp new
          exact below

theorem put_well_named (content : FileTree) (contentNamed : content.WellNamed) (path : List String)
    (plain : ∀ name ∈ path, '/' ∉ name.toList) (tree : FileTree) (named : tree.WellNamed) :
    (put content path tree).WellNamed := by
  induction path generalizing tree with
  | nil =>
      unfold put
      split
      · exact named
      · exact contentNamed
  | cons name path ih =>
      obtain ⟨first, later⟩ := List.forall_mem_cons.mp plain
      have inner := entries_well_named tree named
      have child : ((tree.entries.lookup name).getD empty).WellNamed := by
        cases found : tree.entries.lookup name with
        | none => exact .directory [] .nil (by simp) (by simp)
        | some child =>
            have member := (lookup_entry inner name child).mp found
            exact (entry_well_named inner name child member).2
      rw [put]
      exact entry_put_well_named inner name first _ (ih later _ child)

theorem of_paths_well_named (files : List (List String × FileTree))
    (named : ∀ file ∈ files, (∀ name ∈ file.1, '/' ∉ name.toList) ∧ file.2.WellNamed) :
    (ofPaths files).WellNamed := by
  have blank : empty.WellNamed := .directory [] .nil (by simp) (by simp)
  unfold ofPaths
  generalize empty = tree at blank
  induction files generalizing tree with
  | nil => exact blank
  | cons file files ih =>
      obtain ⟨⟨plain, content⟩, later⟩ := List.forall_mem_cons.mp named
      exact ih later _ (put_well_named file.2 content file.1 plain tree blank)

def text? : FileTree → Option (Option String)
  | file text => some text
  | directory _ => none

def HoldsSame (tree other : FileTree) : Prop :=
  ∀ path, (tree.at? path).map text? = (other.at? path).map text?

inductive Rearranged : FileTree → FileTree → Prop where
  | order (entries others : List (String × FileTree)) (perm : entries.Perm others) :
      Rearranged (.directory entries) (.directory others)
  | inside (before after : List (String × FileTree)) (name : String) (child other : FileTree)
      (below : Rearranged child other) :
      Rearranged (.directory (before ++ (name, child) :: after))
        (.directory (before ++ (name, other) :: after))
  | trans (a b c : FileTree) (first : Rearranged a b) (second : Rearranged b c) : Rearranged a c

theorem order_well_named {entries others : List (String × FileTree)} (perm : entries.Perm others)
    (named : WellNamed (.directory entries)) : WellNamed (.directory others) := by
  cases named with
  | directory _ distinct plain inside =>
      refine .directory others ((perm.map Prod.fst).nodup_iff.mp distinct) ?_ ?_
      · exact fun entry member => plain entry (perm.mem_iff.mpr member)
      · exact fun entry member => inside entry (perm.mem_iff.mpr member)

theorem order_holds_same {entries others : List (String × FileTree)} (perm : entries.Perm others)
    (named : WellNamed (.directory entries)) :
    HoldsSame (.directory entries) (.directory others) := by
  intro path
  cases path with
  | nil => rfl
  | cons name path =>
      have same : entries.lookup name = others.lookup name := by
        apply Option.ext
        intro child
        rw [lookup_entry named, lookup_entry (order_well_named perm named), perm.mem_iff]
      rw [at_directory, at_directory, same]

section Replaced

variable {before after : List (String × FileTree)} {name : String} {child : FileTree}
  (named : WellNamed (.directory (before ++ (name, child) :: after)))

include named

theorem replaced_well_named (other : FileTree) (below : other.WellNamed) :
    WellNamed (.directory (before ++ (name, other) :: after)) := by
  cases named with
  | directory _ distinct plain inside =>
      have names : (before ++ (name, other) :: after).map Prod.fst =
          (before ++ (name, child) :: after).map Prod.fst := by simp
      refine .directory _ (names ▸ distinct) ?_ ?_
      · intro entry member
        have listed : entry.1 ∈ (before ++ (name, child) :: after).map Prod.fst :=
          names ▸ List.mem_map_of_mem member
        obtain ⟨old, known, same⟩ := List.mem_map.mp listed
        exact same ▸ plain old known
      · intro entry member
        rcases List.mem_append.mp member with left | right
        · exact inside entry (List.mem_append_left _ left)
        · rcases List.mem_cons.mp right with rfl | right
          · exact below
          · exact inside entry (List.mem_append_right _ (List.mem_cons_of_mem _ right))

theorem replaced_holds_same (other : FileTree) (below : other.WellNamed)
    (same : HoldsSame child other) :
    HoldsSame (.directory (before ++ (name, child) :: after))
      (.directory (before ++ (name, other) :: after)) := by
  have otherNamed := replaced_well_named named other below
  intro path
  cases path with
  | nil => rfl
  | cons first path =>
      rw [at_directory, at_directory]
      by_cases here : first = name
      · subst here
        rw [(lookup_entry named first child).mpr (by simp),
          (lookup_entry otherNamed first other).mpr (by simp)]
        exact same path
      · have elsewhere : (before ++ (name, child) :: after).lookup first =
            (before ++ (name, other) :: after).lookup first := by
          apply Option.ext
          intro found
          rw [lookup_entry named, lookup_entry otherNamed]
          simp [here]
        rw [elsewhere]

end Replaced

theorem rearranged_same (tree other : FileTree) (moved : tree.Rearranged other)
    (named : tree.WellNamed) : other.WellNamed ∧ tree.HoldsSame other := by
  induction moved with
  | order entries others perm =>
      exact ⟨order_well_named perm named, order_holds_same perm named⟩
  | inside before after name child other below ih =>
      obtain ⟨otherNamed, same⟩ := ih (entry_well_named named name child (by simp)).2
      exact ⟨replaced_well_named named other otherNamed,
        replaced_holds_same named other otherNamed same⟩
  | trans a b c first second ihFirst ihSecond =>
      obtain ⟨namedB, sameB⟩ := ihFirst named
      obtain ⟨namedC, sameC⟩ := ihSecond namedB
      exact ⟨namedC, fun path => (sameB path).trans (sameC path)⟩

section Same

variable {tree other : FileTree} (same : tree.HoldsSame other)

include same

theorem at_file_same (path : List String) (text : Option String) :
    tree.at? path = some (.file text) ↔ other.at? path = some (.file text) := by
  have shown (found : Option FileTree) :
      found.map text? = some (some text) ↔ found = some (.file text) := by
    cases found with
    | none => simp
    | some found => cases found <;> simp [text?]
  rw [← shown, same path, shown]

theorem at_some_same (path : List String) :
    (tree.at? path).isSome = (other.at? path).isSome := by
  rw [← Option.isSome_map (f := text?), same path, Option.isSome_map]

end Same

theorem absence_same (tree other : FileTree) (same : tree.HoldsSame other) (path : List String) :
    tree.absence path = other.absence path := by
  induction path generalizing tree other with
  | nil => cases tree <;> cases other <;> rfl
  | cons name path ih =>
      have kind := same []
      cases tree with
      | file text =>
          cases other with
          | file text => rfl
          | directory others => simp [at?, text?] at kind
      | directory entries =>
          cases other with
          | file text => simp [at?, text?] at kind
          | directory others =>
              have below (rest : List String) := same (name :: rest)
              simp only [at_directory] at below
              rw [absence, absence]
              cases here : entries.lookup name with
              | none =>
                  cases there : others.lookup name with
                  | none => rfl
                  | some child => simpa [here, there, at?] using below []
              | some child =>
                  cases there : others.lookup name with
                  | none => simpa [here, there, at?] using below []
                  | some otherChild =>
                      exact ih child otherChild fun rest => by
                        simpa only [here, there, Option.bind_some] using below rest

theorem read_text_same (tree other : FileTree) (same : tree.HoldsSame other) (path : List String) :
    tree.readText path = other.readText path := by
  have found := same path
  unfold readText
  rw [absence_same tree other same path]
  cases here : tree.at? path with
  | none =>
      cases there : other.at? path with
      | none => rfl
      | some right => simp [here, there] at found
  | some left =>
      cases there : other.at? path with
      | none => simp [here, there] at found
      | some right =>
          have alike : left.text? = right.text? := by simpa [here, there] using found
          cases left with
          | file text =>
              cases right with
              | file other =>
                  obtain rfl := Option.some.inj alike
                  rfl
              | directory others => cases alike
          | directory entries =>
              cases right with
              | file other => cases alike
              | directory others => rfl

end SqlWorkflow.FileTree
