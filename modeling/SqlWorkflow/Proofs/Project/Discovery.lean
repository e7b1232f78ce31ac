import SqlWorkflow.Proofs.FileTree
import SqlWorkflow.Proofs.Project.Resolution
import SqlWorkflow.Proofs.Text
import SqlWorkflow.Proofs.Text.Bytes

namespace SqlWorkflow

theorem FilePath.extension_some_iff (name extension : String) (plain : '.' ∉ extension.toList) :
    FilePath.extension? name = some extension ↔
      ∃ stem, stem ≠ "" ∧ name = stem ++ "." ++ extension := by
  unfold FilePath.extension?
  constructor
  · intro found
    cases cut : Text.splitFirst '.' name.toList.reverse with
    | none => simp [cut] at found
    | some parts =>
        obtain ⟨front, back⟩ := parts
        cases back with
        | nil => simp [cut] at found
        | cons c back =>
            obtain rfl : String.ofList front.reverse = extension := by simpa [cut] using found
            have whole := congrArg List.reverse (Text.split_first_some _ _ _ _ cut)
            refine ⟨String.ofList (c :: back).reverse, by simp, String.toList_injective ?_⟩
            simpa using whole
  · rintro ⟨stem, filled, rfl⟩
    have reversed : (stem ++ "." ++ extension).toList.reverse =
        extension.toList.reverse ++ '.' :: stem.toList.reverse := by simp
    rw [reversed, Text.split_first_append _ _ _ (by simpa using plain)]
    cases left : stem.toList.reverse with
    | nil => exact absurd (by simpa using left) filled
    | cons c rest => simp

namespace Project

theorem hidden_iff (name : String) : isHidden name = true ↔ name.toList.head? = some '.' := by
  rw [isHidden, String.startsWith_string_iff]
  cases name.toList <;> simp [eq_comm]

theorem definition_name_iff (name : String) :
    isDefinitionName name = true ↔ ∃ stem, stem ≠ "" ∧ name = stem ++ ".sqlx" := by
  have text (stem : String) : stem ++ "." ++ "sqlx" = stem ++ ".sqlx" := by
    rw [String.append_assoc]
    rfl
  simp only [isDefinitionName, beq_iff_eq, FilePath.extension_some_iff name "sqlx" (by decide), text]

structure DefinitionNames (names : List String) : Prop where
  visible : ∀ name ∈ names, name.toList.head? ≠ some '.'
  extension : ∃ above stem, stem ≠ "" ∧ names = above ++ [stem ++ ".sqlx"]

theorem definition_names_filled (names : List String) (definition : DefinitionNames names) :
    names ≠ [] := by
  obtain ⟨above, stem, _, same⟩ := definition.extension
  simp [same]

theorem definition_names_single (name : String) :
    DefinitionNames [name] ↔ isHidden name = false ∧ isDefinitionName name = true := by
  rw [← Bool.not_eq_true, hidden_iff, definition_name_iff]
  constructor
  · intro ⟨visible, above, stem, filled, same⟩
    cases above with
    | nil =>
        obtain rfl : name = stem ++ ".sqlx" := by simpa using same
        exact ⟨visible _ List.mem_cons_self, stem, filled, rfl⟩
    | cons first above => simp at same
  · intro ⟨visible, stem, filled, same⟩
    exact ⟨by simpa using visible, [], stem, filled, by rw [same]; rfl⟩

theorem definition_names_cons (name : String) (names : List String) (more : names ≠ []) :
    DefinitionNames (name :: names) ↔ isHidden name = false ∧ DefinitionNames names := by
  rw [← Bool.not_eq_true, hidden_iff]
  constructor
  · intro ⟨visible, above, stem, filled, same⟩
    cases above with
    | nil => exact absurd (List.cons.inj same).2 more
    | cons first above =>
        obtain ⟨_, rest⟩ := List.cons.inj same
        exact ⟨visible name List.mem_cons_self,
          fun other member => visible other (List.mem_cons_of_mem name member),
          above, stem, filled, rest⟩
  · intro ⟨first, visible, above, stem, filled, same⟩
    refine ⟨?_, name :: above, stem, filled, congrArg (name :: ·) same⟩
    intro other member
    rcases List.mem_cons.mp member with rfl | later
    · exact first
    · exact visible other later

def pathText (names : List String) : String :=
  Text.join "/" names

theorem path_text_concat (above : List String) (filled : above ≠ []) (name : String) :
    pathText (above ++ [name]) = pathText above ++ "/" ++ name := by
  apply String.toList_injective
  simp [pathText, Text.join, Text.join_with_concat _ _ _ (mt List.map_eq_nil_iff.mp filled)]

theorem split_path_text (names : List String) (filled : names ≠ [])
    (plain : ∀ name ∈ names, '/' ∉ name.toList) : Text.split '/' (pathText names) = names := by
  have each (name : String) (member : name ∈ names) : Text.split '/' name = [name] :=
    Text.split_plain '/' name (plain name member)
  rw [pathText, Text.split_join '/' "/" rfl names filled, List.flatMap_congr each,
    List.flatMap_singleton']

def foundAt (path : String) (entry : String × FileTree) : List String :=
  if isHidden entry.1 then []
  else if entry.2.isDirectory then definitionsIn (path ++ "/" ++ entry.1) entry.2
  else if isDefinitionName entry.1 then [path ++ "/" ++ entry.1]
  else []

theorem definitions_among_eq (path : String) (entries : List (String × FileTree)) :
    definitionsAmong path entries = entries.flatMap (foundAt path) := by
  induction entries with
  | nil => rw [definitionsAmong, List.flatMap_nil]
  | cons entry entries ih => rw [definitionsAmong, ih, List.flatMap_cons, foundAt]

def Discovers (tree : FileTree) (above : List String) (text : String) : Prop :=
  ∃ names content, tree.at? names = some (.file content) ∧ DefinitionNames names ∧
    text = pathText (above ++ names)

theorem mem_found_file (path name : String) (content : Option String) (text : String) :
    text ∈ foundAt path (name, .file content) ↔
      DefinitionNames [name] ∧ text = path ++ "/" ++ name := by
  rw [definition_names_single]
  by_cases hidden : isHidden name = true
  · simp [foundAt, hidden]
  · by_cases extension : isDefinitionName name = true
    · simp [foundAt, hidden, extension, FileTree.isDirectory]
    · simp [foundAt, hidden, extension, FileTree.isDirectory]

theorem mem_found_directory (path name : String) (entries : List (String × FileTree))
    (text : String) :
    text ∈ foundAt path (name, .directory entries) ↔
      isHidden name = false ∧ text ∈ definitionsIn (path ++ "/" ++ name) (.directory entries) := by
  by_cases hidden : isHidden name = true
  · simp [foundAt, hidden]
  · simp [foundAt, hidden, FileTree.isDirectory]

theorem mem_found_at (name : String) (child : FileTree) (above : List String) (filled : above ≠ [])
    (text : String)
    (below : text ∈ definitionsIn (pathText (above ++ [name])) child ↔
      Discovers child (above ++ [name]) text) :
    text ∈ foundAt (pathText above) (name, child) ↔ ∃ rest content,
      child.at? rest = some (.file content) ∧ DefinitionNames (name :: rest) ∧
        text = pathText (above ++ name :: rest) := by
  cases child with
  | file content =>
      rw [mem_found_file, ← path_text_concat above filled]
      constructor
      · intro ⟨names, same⟩
        exact ⟨[], content, rfl, names, same⟩
      · intro ⟨rest, other, leads, names, same⟩
        -- nothing is below a file
        cases rest with
        | nil => exact ⟨names, same⟩
        | cons first rest => cases leads
  | directory entries =>
      rw [mem_found_directory, ← path_text_concat above filled, below]
      constructor
      · intro ⟨visible, rest, content, leads, names, same⟩
        have more := definition_names_filled rest names
        exact ⟨rest, content, leads, (definition_names_cons name rest more).mpr ⟨visible, names⟩,
          by simpa using same⟩
      · intro ⟨rest, content, leads, names, same⟩
        have more : rest ≠ [] := by
          rintro rfl
          cases leads
        obtain ⟨visible, names⟩ := (definition_names_cons name rest more).mp names
        exact ⟨visible, rest, content, leads, names, by simpa using same⟩

theorem mem_definitions_in (tree : FileTree) (named : tree.WellNamed) (above : List String)
    (filled : above ≠ []) (text : String) :
    text ∈ definitionsIn (pathText above) tree ↔ Discovers tree above text := by
  induction named generalizing above with
  | file content =>
      rw [definitionsIn]
      refine iff_of_false List.not_mem_nil ?_
      intro ⟨names, found, leads, definition, _⟩
      cases names with
      | nil => exact definition_names_filled [] definition rfl
      | cons name rest => cases leads
  | directory entries distinct plain inside ih =>
      have named := FileTree.WellNamed.directory entries distinct plain inside
      have entry (name : String) (child : FileTree) (member : (name, child) ∈ entries) :=
        mem_found_at name child above filled text (ih (name, child) member (above ++ [name]) (by simp))
      rw [definitionsIn, definitions_among_eq, List.mem_flatMap]
      constructor
      · intro ⟨⟨name, child⟩, member, found⟩
        obtain ⟨rest, content, leads, names, same⟩ := (entry name child member).mp found
        have whole := (FileTree.at_entry named name rest _).mpr ⟨child, member, leads⟩
        exact ⟨name :: rest, content, whole, names, same⟩
      · intro ⟨names, content, leads, definition, same⟩
        cases names with
        | nil => cases leads
        | cons name rest =>
            obtain ⟨child, member, below⟩ := (FileTree.at_entry named name rest _).mp leads
            exact ⟨(name, child), member,
              (entry name child member).mpr ⟨rest, content, below, definition, same⟩⟩

theorem mem_discover (folder : Folder) (named : folder.tree.WellNamed) (text : String) :
    text ∈ (discover folder).toList ↔ ∃ names content,
      folder.tree.at? ("definitions" :: names) = some (.file content) ∧ DefinitionNames names ∧
        text = pathText ("definitions" :: names) := by
  unfold discover
  cases root : folder.tree.at? [definitionsFolder] with
  | none =>
      refine iff_of_false List.not_mem_nil ?_
      intro ⟨names, content, leads, _⟩
      rw [FileTree.at_first, ← definitionsFolder, root] at leads
      cases leads
  | some tree =>
      obtain ⟨_, below⟩ := FileTree.at_some_named folder.tree named _ tree root
      have walk := mem_definitions_in tree below [definitionsFolder] (by simp) text
      have down (names : List String) :
          folder.tree.at? ("definitions" :: names) = tree.at? names := by
        rw [FileTree.at_first, ← definitionsFolder, root, Option.bind_some]
      simp only [down]
      rw [SortedSet.mem_of_list]
      exact walk

-- What an entry contributes goes on with its name, so that no two entries contribute the same.
theorem found_at_name (above : List String) (filled : above ≠ [])
    (plain : ∀ name ∈ above, '/' ∉ name.toList) {entries : List (String × FileTree)}
    (named : FileTree.WellNamed (.directory entries)) (name : String) (child : FileTree)
    (member : (name, child) ∈ entries) (text : String)
    (found : text ∈ foundAt (pathText above) (name, child)) :
    ∃ rest, Text.split '/' text = above ++ name :: rest := by
  obtain ⟨plainName, below⟩ := FileTree.entry_well_named named name child member
  have walk := mem_definitions_in child below (above ++ [name]) (by simp) text
  obtain ⟨rest, content, leads, _, rfl⟩ := (mem_found_at name child above filled text walk).mp found
  have plainRest := (FileTree.at_some_named child below rest _ leads).1
  refine ⟨rest, split_path_text _ (by simp) ?_⟩
  exact List.forall_mem_append.mpr ⟨plain, List.forall_mem_cons.mpr ⟨plainName, plainRest⟩⟩

theorem definitions_in_nodup (tree : FileTree) (named : tree.WellNamed) (above : List String)
    (filled : above ≠ []) (plain : ∀ name ∈ above, '/' ∉ name.toList) :
    (definitionsIn (pathText above) tree).Nodup := by
  induction named generalizing above with
  | file content =>
      rw [definitionsIn]
      exact List.nodup_nil
  | directory entries distinct plainNames inside ih =>
      have named := FileTree.WellNamed.directory entries distinct plainNames inside
      rw [definitionsIn, definitions_among_eq, List.nodup_flatMap]
      constructor
      · intro ⟨name, child⟩ member
        rw [foundAt]
        split
        · exact List.nodup_nil
        · split
          · rw [← path_text_concat above filled]
            refine ih (name, child) member (above ++ [name]) (by simp) ?_
            exact List.forall_mem_append.mpr ⟨plain, by simpa using plainNames _ member⟩
          · split
            · exact List.nodup_singleton _
            · exact List.nodup_nil
      · refine (List.pairwise_map.mp distinct).imp_of_mem fun {a b} memberA memberB different => ?_
        intro text inA inB
        obtain ⟨restA, cutA⟩ := found_at_name above filled plain named a.1 a.2 memberA text inA
        obtain ⟨restB, cutB⟩ := found_at_name above filled plain named b.1 b.2 memberB text inB
        exact different (List.cons.inj (List.append_cancel_left (cutA.symm.trans cutB))).1

-- No path comes twice, so that sorting the paths as they are found gives the same list.
theorem discover_sorted (folder : Folder) (named : folder.tree.WellNamed) (tree : FileTree)
    (root : folder.tree.at? [definitionsFolder] = some tree) :
    (discover folder).toList =
      (definitionsIn definitionsFolder tree).mergeSort fun a b => (compare a b).isLE := by
  have below := (FileTree.at_some_named folder.tree named _ tree root).2
  have distinct : (definitionsIn definitionsFolder tree).Nodup :=
    definitions_in_nodup tree below [definitionsFolder] (by simp) (by decide)
  rw [discover, root]
  have sorted := merge_sort_ascending id (definitionsIn definitionsFolder tree)
    (by rwa [List.map_id])
  rw [List.map_id] at sorted
  refine ascending_ext _ _ (SortedSet.ofList _).ascending sorted fun text => ?_
  exact (SortedSet.mem_of_list _ text).trans List.mem_mergeSort.symm

-- Whole paths are put in order, not the names in each directory.
example : (discover ⟨"", .ofPaths [(["definitions", "old", "a.sqlx"], .file none),
    (["definitions", "old.b.sqlx"], .file none), (["definitions", ".old", "c.sqlx"], .file none),
    (["definitions", ".sqlx"], .file none)]⟩).toList =
      ["definitions/old.b.sqlx", "definitions/old/a.sqlx"] := by
  decide +kernel

end Project

theorem Settings.resolve_same (path : String) (tree other : FileTree) (same : tree.HoldsSame other)
    (overrides : Overrides) :
    resolve ⟨path, tree⟩ overrides = resolve ⟨path, other⟩ overrides := by
  have has (names : List String) : Folder.has ⟨path, tree⟩ names = Folder.has ⟨path, other⟩ names :=
    FileTree.at_some_same same names
  have read (names : List String) :
      Folder.read ⟨path, tree⟩ names = Folder.read ⟨path, other⟩ names :=
    congrArg (Except.mapError _) (FileTree.read_text_same tree other same names)
  have pathOf (names : List String) :
      Folder.pathOf ⟨path, tree⟩ names = Folder.pathOf ⟨path, other⟩ names :=
    rfl
  simp only [resolve, SettingsSource.locate, SettingsSource.load, Packages.check,
    Packages.installedVersion, Manifest.load, has, read, pathOf]

theorem Settings.resolve_directory (path : String) (tree : FileTree) (overrides : Overrides)
    (settings : Settings) (resolved : resolve ⟨path, tree⟩ overrides = .ok settings) :
    tree.isDirectory = true := by
  obtain ⟨_, ⟨source, chosen, _⟩, _⟩ := (resolve_ok_iff _ _ _).mp resolved
  have there := SettingsSource.chosen_has _ source chosen
  cases tree with
  | file text => cases there
  | directory entries => rfl

namespace Project

theorem load_resolved (path : String) (tree : FileTree) (overrides : Overrides)
    (settings : Settings) (resolved : Settings.resolve ⟨path, tree⟩ overrides = .ok settings) :
    load path (some tree) overrides = .ok ⟨⟨path, tree⟩, settings, discover ⟨path, tree⟩⟩ := by
  have directory := Settings.resolve_directory path tree overrides settings resolved
  rw [load, Option.filter_some, if_pos directory]
  dsimp only
  rw [resolved]
  rfl

theorem discover_same (path : String) (tree other : FileTree) (named : tree.WellNamed)
    (otherNamed : other.WellNamed) (same : tree.HoldsSame other) :
    discover ⟨path, other⟩ = discover ⟨path, tree⟩ := by
  refine SortedSet.members_ext _ _ fun text => ?_
  rw [mem_discover _ otherNamed, mem_discover _ named]
  simp only [FileTree.at_file_same same]

theorem load_definitions (path : String) (tree : FileTree) (overrides : Overrides)
    (settings : Settings) (named : tree.WellNamed)
    (resolved : Settings.resolve ⟨path, tree⟩ overrides = .ok settings) :
    ∃ project, load path (some tree) overrides = .ok project ∧ project.settings = settings ∧
      project.definitions.toList.Pairwise (fun a b => Text.bytes a < Text.bytes b) ∧
      (∀ text, text ∈ project.definitions.toList ↔ ∃ names content,
        tree.at? ("definitions" :: names) = some (.file content) ∧ DefinitionNames names ∧
          text = pathText ("definitions" :: names)) ∧
      (∀ names entries, tree.at? ("definitions" :: names) = some (.directory entries) →
        pathText ("definitions" :: names) ∉ project.definitions.toList) ∧
      (∀ other, tree.Rearranged other → ∃ again, load path (some other) overrides = .ok again ∧
        again.settings = settings ∧ again.definitions = project.definitions) ∧
      ((∀ entries, tree.at? ["definitions"] ≠ some (.directory entries)) →
        project.definitions.toList = []) := by
  have members := mem_discover ⟨path, tree⟩ named
  refine ⟨_, load_resolved path tree overrides settings resolved, rfl, ?_, members, ?_, ?_, ?_⟩
  · exact List.Pairwise.imp (Text.bytes_lt _ _) (discover ⟨path, tree⟩).ascending
  · intro names entries leads listed
    obtain ⟨others, content, found, _, same⟩ := (members _).mp listed
    have plain := (FileTree.at_some_named tree named _ _ leads).1
    have otherPlain := (FileTree.at_some_named tree named _ _ found).1
    have back := split_path_text _ (List.cons_ne_nil _ _) plain
    rw [same, split_path_text _ (List.cons_ne_nil _ _) otherPlain] at back
    rw [← back, found] at leads
    cases leads
  · intro other moved
    obtain ⟨otherNamed, same⟩ := FileTree.rearranged_same tree other moved named
    rw [Settings.resolve_same path tree other same] at resolved
    exact ⟨_, load_resolved path other overrides settings resolved, rfl,
      discover_same path tree other named otherNamed same⟩
  · intro missing
    refine List.eq_nil_iff_forall_not_mem.mpr fun text listed => ?_
    obtain ⟨names, content, leads, definition, _⟩ := (members text).mp listed
    rw [FileTree.at_first] at leads
    cases root : tree.at? ["definitions"] with
    | none =>
        rw [root] at leads
        cases leads
    | some found =>
        rw [root] at leads
        cases found with
        | directory entries => exact missing entries root
        | file content =>
            cases names with
            | nil => exact definition_names_filled [] definition rfl
            | cons name rest => cases leads

def nestedFiles : List (List String × FileTree) :=
  [(["workflow_settings.yaml"], .file (some "coreVersion: 3.0.0\n")),
    (["definitions", "old.sqlx", "daily.sqlx"], .file (some ""))]

theorem load_definitions_nested :
    ∃ settings, (FileTree.ofPaths nestedFiles).WellNamed ∧
      Settings.resolve ⟨"", .ofPaths nestedFiles⟩ {} = .ok settings ∧
      ∃ project, load "" (some (.ofPaths nestedFiles)) {} = .ok project ∧
        "definitions/old.sqlx/daily.sqlx" ∈ project.definitions.toList ∧
        "definitions/old.sqlx" ∉ project.definitions.toList := by
  have named : (FileTree.ofPaths nestedFiles).WellNamed := by
    apply FileTree.of_paths_well_named
    simp only [nestedFiles, List.forall_mem_cons]
    refine ⟨⟨by decide, .file _⟩, ⟨by decide, .file _⟩, by simp⟩
  have reads : (Settings.resolve ⟨"", .ofPaths nestedFiles⟩ {}).toOption.isSome = true := by
    decide +kernel
  obtain ⟨settings, read⟩ := Option.isSome_iff_exists.mp reads
  have resolved := to_option_some _ settings read
  obtain ⟨project, loaded, _, _, members, passed, _⟩ :=
    load_definitions "" (.ofPaths nestedFiles) {} settings named resolved
  refine ⟨settings, named, resolved, project, loaded, (members _).mpr ?_, ?_⟩
  · refine ⟨["old.sqlx", "daily.sqlx"], some "", by rfl, ⟨by decide, ["old.sqlx"], "daily", ?_⟩, ?_⟩
    · exact ⟨by decide, by decide⟩
    · decide
  · exact passed ["old.sqlx"] _ (by rfl)

end Project

end SqlWorkflow
