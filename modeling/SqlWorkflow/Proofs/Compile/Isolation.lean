import SqlWorkflow.Proofs.Compile.Files
import SqlWorkflow.Proofs.Graph.Isolated

-- The table of names comes from config blocks alone. As long as a file keeps its own, every other
-- definition is rendered as before, and only the checks on the whole graph can tell the difference.
namespace SqlWorkflow.Compile

-- Two versions of a project that differ in the text of one file and agree in what its config block
-- says.
structure Versions (file : String) (before after : Project) : Prop where
  settings : after.settings = before.settings
  definitions : after.definitions = before.definitions
  others : ∀ path ∈ before.definitions.toList, path ≠ file →
    after.folder.tree.readText (FilePath.names path) =
      before.folder.tree.readText (FilePath.names path)
  own : ∃ old new, before.readDefinition file = .ok old ∧ after.readDefinition file = .ok new ∧
    old.config = new.config

section Elsewhere

variable {file : String}

theorem flat_map_elsewhere {α β : Type} (g : α → List β) (path : α → String) (key : β → String)
    (kept : ∀ x, ∀ y ∈ g x, key y = path x) (items others : List α)
    (same : items.filter (path · ≠ file) = others.filter (path · ≠ file)) :
    (items.flatMap g).filter (key · ≠ file) = (others.flatMap g).filter (key · ≠ file) := by
  have split := flat_map_filter g path key kept (decide <| · ≠ file)
  rw [split, split, same]

theorem separate_elsewhere {α β : Type} (f : α → Except FileMessage β) (path : α → String)
    (key : β → String) (kept : ∀ x y, f x = .ok y → key y = path x)
    (blamed : ∀ x message, f x = .error message → message.path = path x) {items others : List α}
    (same : items.filter (path · ≠ file) = others.filter (path · ≠ file)) :
    (separate (items.map f)).1.filter (key · ≠ file) =
        (separate (others.map f)).1.filter (key · ≠ file) ∧
      (separate (items.map f)).2.filter (·.path ≠ file) =
        (separate (others.map f)).2.filter (·.path ≠ file) := by
  simp only [separate_accepted, separate_refused]
  constructor
  · exact flat_map_elsewhere _ path key
      (fun x y member => kept x y ((mem_accepted f x y).mp member)) _ _ same
  · exact flat_map_elsewhere _ path FileMessage.path
      (fun x message member => blamed x message ((mem_refused f x message).mp member)) _ _ same

theorem read_elsewhere {files others : List SourceFile}
    (same : files.filter (·.path ≠ file) = others.filter (·.path ≠ file)) :
    (parsed files).filter (·.path ≠ file) = (parsed others).filter (·.path ≠ file) ∧
      (unread files).filter (·.path ≠ file) = (unread others).filter (·.path ≠ file) :=
  separate_elsewhere SourceFile.read SourceFile.path Definition.path read_path read_error_path same

theorem rendered_elsewhere (names : NameTable) {definitions others : List Definition}
    (same : definitions.filter (·.path ≠ file) = others.filter (·.path ≠ file)) :
    (drafted names definitions).filter (·.fileName ≠ file) =
        (drafted names others).filter (·.fileName ≠ file) ∧
      (unrendered names definitions).filter (·.path ≠ file) =
        (unrendered names others).filter (·.path ≠ file) :=
  separate_elsewhere (Definition.draft names) Definition.path Draft.fileName (draft_file names)
    (draft_error_path names) same

theorem notes_elsewhere {definitions others : List Definition}
    (same : definitions.filter (·.path ≠ file) = others.filter (·.path ≠ file)) :
    (definitions.flatMap Definition.notes).filter (·.path ≠ file) =
      (others.flatMap Definition.notes).filter (·.path ≠ file) :=
  flat_map_elsewhere _ Definition.path FileMessage.path notes_path _ _ same

section Drafts

variable (settings : Settings) {drafts others : List Draft}
  (same : drafts.filter (·.fileName ≠ file) = others.filter (·.fileName ≠ file))

include same

theorem with_assertions_elsewhere :
    (withAssertions settings drafts).filter (·.fileName ≠ file) =
      (withAssertions settings others).filter (·.fileName ≠ file) := by
  have made := flat_map_elsewhere (fun draft => (Synthesis.ofDraft settings draft).drafts)
    Draft.fileName Draft.fileName (fun parent draft member =>
      brought_file settings parent draft (List.mem_cons_of_mem _ member)) drafts others same
  rw [withAssertions, withAssertions, Synthesis.of_drafts_drafts, Synthesis.of_drafts_drafts,
    List.filter_append, List.filter_append, same, made]

theorem synthesis_errors_elsewhere :
    (Synthesis.ofDrafts settings drafts).errors.filter (·.path ≠ file) =
      (Synthesis.ofDrafts settings others).errors.filter (·.path ≠ file) := by
  rw [Synthesis.of_drafts_errors, Synthesis.of_drafts_errors]
  exact flat_map_elsewhere _ Draft.fileName FileMessage.path
    (fun parent message => Synthesis.mem_of_draft_errors settings parent message) _ _ same

end Drafts

end Elsewhere

-- What a definition declares is in its path and its config block.
theorem declares_congr (settings : Settings) (old new : Definition) (path : old.path = new.path)
    (config : old.config = new.config) : declares settings old = declares settings new := by
  simp only [declares, Definition.canonicalTarget, Definition.identity, Definition.actionName,
    Definition.stem, path, config]

section Versions

variable {file : String} {before after : Project} (versions : Versions file before after)

include versions

theorem files_elsewhere : (filesOf before).filter (·.path ≠ file) =
    (filesOf after).filter (·.path ≠ file) := by
  simp only [filesOf, versions.definitions, List.filter_map, Function.comp_def]
  refine List.map_congr_left fun path member => ?_
  obtain ⟨known, other⟩ := List.mem_filter.mp member
  rw [versions.others path known (of_decide_eq_true other)]

theorem declared_same (settings : Settings) :
    declared settings (filesOf before) = declared settings (filesOf after) := by
  simp only [declared, parsed, separate_accepted, filesOf, versions.definitions, List.flatMap_map,
    List.map_flatMap]
  refine List.flatMap_congr fun path known => ?_
  by_cases here : path = file
  · subst here
    obtain ⟨old, new, readOld, readNew, config⟩ := versions.own
    have oldRead : SourceFile.read ⟨path, before.folder.tree.readText (FilePath.names path)⟩ =
        .ok old := readOld
    have newRead : SourceFile.read ⟨path, after.folder.tree.readText (FilePath.names path)⟩ =
        .ok new := readNew
    have samePath := (read_path _ old oldRead).trans (read_path _ new newRead).symm
    have same := declares_congr settings old new samePath config
    simp [accepted, oldRead, newRead, Except.toOption, same]
  · rw [versions.others path known here]

theorem file_isolated : Graph.Isolated file before.compile after.compile := by
  obtain ⟨parsedSame, unreadSame⟩ := read_elsewhere (files_elsewhere versions)
  have distinct : ((filesOf before).map SourceFile.path).Nodup := by
    rw [filesOf, List.map_map]
    simpa [Function.comp_def] using ascending_nodup _ before.definitions.ascending
  rw [compile_eq_files, compile_eq_files, versions.settings, compileFiles, compileFiles,
    declared_same versions]
  generalize NameTable.ofList before.settings
    (declared before.settings (filesOf after)) = names
  obtain ⟨draftsSame, unrenderedSame⟩ := rendered_elsewhere names parsedSame
  refine Graph.build_isolated file before.settings _ _ _ _ _ _
    (with_assertions_apart _ _ (drafted_files_nodup names _ distinct))
    (with_assertions_elsewhere before.settings draftsSame) ?_ (notes_elsewhere parsedSame)
  simp only [List.filter_append, unreadSame, unrenderedSame,
    synthesis_errors_elsewhere before.settings draftsSame]

end Versions

def shop (orders : String) : Project where
  folder := ⟨"shop", .directory [("definitions", .directory
    [("orders.sqlx", .file (some orders)),
      ("report.sqlx", .file (some "select id from $\x7bref('orders')\x7d"))])]⟩
  settings := {}
  definitions := .ofList ["definitions/orders.sqlx", "definitions/report.sqlx"]

def shopNames : NameTable :=
  .ofList {} (["orders", "report"].map fun name => (.operation, ⟨none, "dataform", name⟩))

def shopOrders (body : String) : Definition :=
  { path := "definitions/orders.sqlx", body }

-- The first version of the file renders. The second does not, and the other file refers to it.
theorem file_isolated_shop :
    (Template.render (Definition.setting shopNames (shopOrders "select 1 as id"))
      "select 1 as id").1 = .ok "select 1 as id" ∧
    (Template.render (Definition.setting shopNames (shopOrders "select $\x7bmissing("))
      "select $\x7bmissing(").1 = .error .unrenderable ∧
    Versions "definitions/orders.sqlx" (shop "select 1 as id") (shop "select $\x7bmissing(") ∧
      Graph.Isolated "definitions/orders.sqlx" (shop "select 1 as id").compile
        (shop "select $\x7bmissing(").compile := by
  have versions : Versions "definitions/orders.sqlx" (shop "select 1 as id")
      (shop "select $\x7bmissing(") := {
    settings := rfl
    definitions := rfl
    others := by
      intro path known other
      have second : path = "definitions/report.sqlx" := by
        have listed : path = "definitions/orders.sqlx" ∨ path = "definitions/report.sqlx" := by
          simpa using (SortedSet.mem_of_list _ path).mp known
        exact listed.resolve_left other
      subst second
      decide +kernel
    own := ⟨shopOrders "select 1 as id", shopOrders "select $\x7bmissing(", by decide +kernel,
      by decide +kernel, rfl⟩ }
  exact ⟨by decide +kernel, by decide +kernel, versions, file_isolated versions⟩

end SqlWorkflow.Compile
