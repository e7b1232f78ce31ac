import Mathlib.Data.List.Nodup
import SqlWorkflow.Compile
import SqlWorkflow.Proofs.Graph.Rearranged
import SqlWorkflow.Proofs.Results
import SqlWorkflow.Proofs.Synthesis

namespace SqlWorkflow.Compile

-- A definition file, or why it could not be read.
structure SourceFile where
  path : String
  text : Except ReadFailure String

def SourceFile.read (file : SourceFile) : Except FileMessage Definition :=
  ((file.text.mapError (Error.unreadableFile file.path)).bind
    (Definition.ofText file.path)).mapError fun cause => ⟨file.path, cause.message⟩

section Stages

variable (settings : Settings) (files : List SourceFile)

def parsed : List Definition :=
  (separate (files.map SourceFile.read)).1

def unread : List FileMessage :=
  (separate (files.map SourceFile.read)).2

def declares (definition : Definition) : ActionKind × Target :=
  (definition.config.actionKind, definition.canonicalTarget settings)

def declared : List (ActionKind × Target) :=
  (parsed files).map (declares settings)

def drafted (names : NameTable) (definitions : List Definition) : List Draft :=
  (separate (definitions.map (Definition.draft names))).1

def unrendered (names : NameTable) (definitions : List Definition) : List FileMessage :=
  (separate (definitions.map (Definition.draft names))).2

def withAssertions (drafts : List Draft) : List Draft :=
  drafts ++ (Synthesis.ofDrafts settings drafts).drafts

def compileFiles : Graph :=
  let names := NameTable.ofList settings (declared settings files)
  let drafts := drafted names (parsed files)
  .build settings (withAssertions settings drafts)
    (unread files ++ unrendered names (parsed files) ++
      (Synthesis.ofDrafts settings drafts).errors)
    ((parsed files).flatMap Definition.notes)

end Stages

def filesOf (project : Project) : List SourceFile :=
  project.definitions.toList.map fun path =>
    ⟨path, project.folder.tree.readText (FilePath.names path)⟩

theorem compile_eq_files (project : Project) :
    project.compile = compileFiles project.settings (filesOf project) := by
  have read : (filesOf project).map SourceFile.read =
      project.definitions.toList.map project.readDefinition := by
    rw [filesOf, List.map_map]
    rfl
  simp only [compileFiles, declared, parsed, unread, read]
  rfl

theorem of_text_path (path content : String) (definition : Definition)
    (read : Definition.ofText path content = .ok definition) : definition.path = path := by
  unfold Definition.ofText at read
  simp only [bind, Except.bind] at read
  repeat' split at read
  all_goals cases read
  all_goals rfl

theorem read_path (file : SourceFile) (definition : Definition)
    (read : file.read = .ok definition) : definition.path = file.path := by
  have parsed := (map_error_ok_iff _ _ _).mp read
  cases text : file.text with
  | error cause => rw [text] at parsed; cases parsed
  | ok content => rw [text] at parsed; exact of_text_path file.path content definition parsed

theorem read_error_path (file : SourceFile) (message : FileMessage)
    (unread : file.read = .error message) : message.path = file.path := by
  obtain ⟨cause, _, rfl⟩ := (map_error_error_iff _ _ _).mp unread
  rfl

theorem render_file (names : NameTable) (definition : Definition) (options : ActionOptions)
    (draft : Draft) (rendered : definition.render names options = .ok draft) :
    draft.fileName = definition.path := by
  unfold Definition.render at rendered
  simp only [bind, Except.bind] at rendered
  repeat' split at rendered
  all_goals cases rendered
  all_goals rfl

theorem draft_file (names : NameTable) (definition : Definition) (draft : Draft)
    (rendered : definition.draft names = .ok draft) : draft.fileName = definition.path := by
  unfold Definition.draft at rendered
  cases options : definition.config.options? with
  | none =>
      rw [options] at rendered
      cases rendered
      rfl
  | some options' =>
      rw [options] at rendered
      exact render_file names definition options' draft ((map_error_ok_iff _ _ _).mp rendered)

theorem draft_error_path (names : NameTable) (definition : Definition) (message : FileMessage)
    (unrendered : definition.draft names = .error message) : message.path = definition.path := by
  unfold Definition.draft at unrendered
  cases options : definition.config.options? with
  | none =>
      rw [options] at unrendered
      cases unrendered
  | some options' =>
      rw [options] at unrendered
      obtain ⟨cause, _, rfl⟩ := (map_error_error_iff _ _ _).mp unrendered
      rfl

theorem notes_path (definition : Definition) (message : FileMessage)
    (member : message ∈ definition.notes) : message.path = definition.path := by
  unfold Definition.notes at member
  rcases List.mem_append.mp member with warning | ignored
  · obtain ⟨_, _, rfl⟩ := List.mem_map.mp warning
    rfl
  · rw [(List.mem_singleton.mp (List.mem_ite_nil_right.mp ignored).2)]

theorem flat_map_filter {α β : Type} (g : α → List β) (path : α → String) (key : β → String)
    (kept : ∀ x, ∀ y ∈ g x, key y = path x) (p : String → Bool) (items : List α) :
    (items.flatMap g).filter (fun y => p (key y)) =
      (items.filter fun x => p (path x)).flatMap g := by
  induction items with
  | nil => rfl
  | cons x items ih =>
      rw [List.flatMap_cons, List.filter_append, ih]
      by_cases here : p (path x) = true
      · have all : (g x).filter (fun y => p (key y)) = g x :=
          List.filter_eq_self.mpr fun y member => by simpa only [kept x y member] using here
        rw [all, List.filter_cons, if_pos here, List.flatMap_cons]
      · have none : (g x).filter (fun y => p (key y)) = [] :=
          List.filter_eq_nil_iff.mpr fun y member => by simpa only [kept x y member] using here
        rw [none, List.filter_cons, if_neg here, List.nil_append]

theorem accepted_keys {α β : Type} (f : α → Except FileMessage β) (key : β → String)
    (path : α → String) (kept : ∀ x y, f x = .ok y → key y = path x) (items : List α) :
    ((separate (items.map f)).1.map key).Sublist (items.map path) := by
  rw [separate_accepted]
  induction items with
  | nil => exact List.Sublist.refl []
  | cons x items ih =>
      rw [List.flatMap_cons, List.map_append, List.map_cons]
      cases result : f x with
      | error message =>
          rw [accepted, result]
          exact ih.cons _
      | ok y =>
          rw [accepted, result]
          exact kept x y result ▸ ih.cons_cons (key y)

theorem parsed_paths_nodup (files : List SourceFile)
    (distinct : (files.map SourceFile.path).Nodup) :
    ((parsed files).map Definition.path).Nodup :=
  (accepted_keys SourceFile.read Definition.path SourceFile.path read_path files).nodup distinct

theorem drafted_files_nodup (names : NameTable) (files : List SourceFile)
    (distinct : (files.map SourceFile.path).Nodup) :
    ((drafted names (parsed files)).map Draft.fileName).Nodup :=
  (accepted_keys (Definition.draft names) Draft.fileName Definition.path (draft_file names)
    (parsed files)).nodup (parsed_paths_nodup files distinct)

section Brought

variable (settings : Settings)

def brought (parent : Draft) : List Draft :=
  parent :: (Synthesis.ofDraft settings parent).drafts

theorem brought_file (parent draft : Draft) (member : draft ∈ brought settings parent) :
    draft.fileName = parent.fileName := by
  rcases List.mem_cons.mp member with rfl | made
  · rfl
  · obtain ⟨_, _, _, _, rfl⟩ := Synthesis.mem_of_draft settings parent draft made
    rfl

theorem made_name_ne (parent made : Draft)
    (member : made ∈ (Synthesis.ofDraft settings parent).drafts) :
    made.identity.name ≠ parent.identity.name := by
  obtain ⟨table, spec, _, _, rfl⟩ := Synthesis.mem_of_draft settings parent made member
  have canonical := Graph.to_action_canonical settings parent
  rw [table] at canonical
  rw [canonical]
  exact spec.assertion_name_ne (settings.canonicalTarget .table parent.identity)

theorem brought_unique (parent a b : Draft) (memberA : a ∈ brought settings parent)
    (memberB : b ∈ brought settings parent) (name : a.identity.name = b.identity.name) :
    a = b := by
  rcases List.mem_cons.mp memberA with rfl | madeA <;>
    rcases List.mem_cons.mp memberB with rfl | madeB
  · rfl
  · exact absurd name.symm (made_name_ne settings a b madeB)
  · exact absurd name (made_name_ne settings b a madeA)
  · exact Synthesis.made_unique settings parent a b madeA madeB name

theorem mem_with_assertions (drafts : List Draft) (draft : Draft) :
    draft ∈ withAssertions settings drafts ↔
      ∃ parent ∈ drafts, draft ∈ brought settings parent := by
  simp only [withAssertions, Synthesis.of_drafts_drafts, brought, List.mem_append,
    List.mem_flatMap, List.mem_cons]
  constructor
  · rintro (own | ⟨parent, known, made⟩)
    · exact ⟨draft, own, Or.inl rfl⟩
    · exact ⟨parent, known, Or.inr made⟩
  · rintro ⟨parent, known, rfl | made⟩
    · exact Or.inl known
    · exact Or.inr ⟨parent, known, made⟩

-- Actions of one file come from one draft, and its assertions have names of their own.
theorem with_assertions_apart (drafts : List Draft)
    (distinct : (drafts.map Draft.fileName).Nodup) :
    Graph.Apart ((withAssertions settings drafts).map (Draft.toAction settings)) := by
  intro _ memberA _ memberB target file
  obtain ⟨a, knownA, rfl⟩ := List.mem_map.mp memberA
  obtain ⟨b, knownB, rfl⟩ := List.mem_map.mp memberB
  obtain ⟨parentA, inA, broughtA⟩ := (mem_with_assertions settings drafts a).mp knownA
  obtain ⟨parentB, inB, broughtB⟩ := (mem_with_assertions settings drafts b).mp knownB
  rw [Graph.to_action_file, Graph.to_action_file, brought_file settings parentA a broughtA,
    brought_file settings parentB b broughtB] at file
  obtain rfl := List.inj_on_of_nodup_map distinct inA inB file
  rw [Graph.to_action_canonical, Graph.to_action_canonical] at target
  have name : a.identity.name = b.identity.name := congrArg Target.name target
  rw [brought_unique settings parentA a b broughtA broughtB name]

end Brought

end SqlWorkflow.Compile
