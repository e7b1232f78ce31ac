import SqlWorkflow.Project.Packages
import SqlWorkflow.Proofs.Results

namespace SqlWorkflow

namespace Folder

variable {α : Type} (folder : Folder) (names : List String) (parse : String → Reading α)

inductive Unreadable : ReadFailure → Prop where
  | notText (there : folder.tree.at? names = some (.file none)) : Unreadable .notText
  | directory (entries : List (String × FileTree))
      (there : folder.tree.at? names = some (.directory entries)) : Unreadable .directory

def States (value : α) : Prop :=
  ∃ text, folder.tree.at? names = some (.file (some text)) ∧ parse text = .ok value

inductive Misstates : Error → Prop where
  | unreadable (reason : ReadFailure) (unread : folder.Unreadable names reason) :
      Misstates (.unreadableFile (folder.pathOf names) reason)
  | malformed (text : String) (fault : DocumentFault)
      (there : folder.tree.at? names = some (.file (some text))) (bad : parse text = .error fault) :
      Misstates (.unreadableDocument (folder.pathOf names) fault)

def document : Except Error α :=
  folder.read names >>= fun text =>
    (parse text).mapError (Error.unreadableDocument (folder.pathOf names))

theorem read_ok_iff (text : String) :
    folder.read names = .ok text ↔ folder.tree.at? names = some (.file (some text)) := by
  rw [read, map_error_ok_iff, FileTree.readText]
  cases folder.tree.at? names with
  | none => simp
  | some tree =>
      cases tree with
      | directory entries => simp
      | file text => cases text <;> simp

theorem read_error_iff (there : folder.has names = true) (error : Error) :
    folder.read names = .error error ↔
      ∃ reason, folder.Unreadable names reason ∧
        Error.unreadableFile (folder.pathOf names) reason = error := by
  rw [read, map_error_error_iff]
  refine exists_congr fun reason => and_congr_left fun _ => ?_
  obtain ⟨tree, found⟩ := Option.isSome_iff_exists.mp there
  rw [FileTree.readText, found]
  constructor
  · intro failed
    cases tree with
    | directory entries =>
        obtain rfl := Except.error.inj failed
        exact .directory entries found
    | file text =>
        cases text with
        | none =>
            obtain rfl := Except.error.inj failed
            exact .notText found
        | some text => cases failed
  · intro unread
    cases unread with
    | notText file => rw [Option.some.inj (found.symm.trans file)]
    | directory entries file => rw [Option.some.inj (found.symm.trans file)]

theorem document_ok_iff (value : α) :
    folder.document names parse = .ok value ↔ folder.States names parse value := by
  rw [document, except_bind_ok_iff]
  simp only [map_error_ok_iff, read_ok_iff, States]

theorem document_error_iff (there : folder.has names = true) (error : Error) :
    folder.document names parse = .error error ↔ folder.Misstates names parse error := by
  rw [document, except_bind_error_iff, read_error_iff folder names there]
  simp only [read_ok_iff, map_error_error_iff]
  constructor
  · intro failed
    rcases failed with ⟨reason, unread, rfl⟩ | ⟨text, held, fault, bad, rfl⟩
    · exact .unreadable reason unread
    · exact .malformed text fault held bad
  · intro failed
    cases failed with
    | unreadable reason unread => exact .inl ⟨reason, unread, rfl⟩
    | malformed text fault held bad => exact .inr ⟨text, held, fault, bad, rfl⟩

theorem has_of_states (value : α) (states : folder.States names parse value) :
    folder.has names = true := by
  obtain ⟨text, there, _⟩ := states
  rw [has, there]
  rfl

theorem has_of_misstates (error : Error) (bad : folder.Misstates names parse error) :
    folder.has names = true := by
  rw [has]
  cases bad with
  | malformed text fault there bad => rw [there]; rfl
  | unreadable reason unread =>
      cases unread with
      | notText there => rw [there]; rfl
      | directory entries there => rw [there]; rfl

def consult {β : Type} (absent : Error) (next : α → Except Error β) : Except Error β :=
  if folder.has names then folder.document names parse >>= next else .error absent

theorem consult_ok_iff {β : Type} (absent : Error) (next : α → Except Error β) (result : β) :
    folder.consult names parse absent next = .ok result ↔
      ∃ value, folder.States names parse value ∧ next value = .ok result := by
  by_cases there : folder.has names = true
  · rw [consult, if_pos there, except_bind_ok_iff]
    simp only [document_ok_iff]
  · rw [consult, if_neg there]
    constructor
    · intro failed
      cases failed
    · intro found
      obtain ⟨value, states, _⟩ := found
      exact absurd (folder.has_of_states names parse value states) there

theorem consult_error_iff {β : Type} (absent : Error) (next : α → Except Error β) (error : Error) :
    folder.consult names parse absent next = .error error ↔
      folder.has names = false ∧ absent = error ∨ folder.Misstates names parse error ∨
        ∃ value, folder.States names parse value ∧ next value = .error error := by
  by_cases there : folder.has names = true
  · rw [consult, if_pos there, except_bind_error_iff, document_error_iff folder names parse there]
    simp [document_ok_iff, there]
  · rw [consult, if_neg there]
    constructor
    · intro failed
      exact .inl ⟨by simpa using there, Except.error.inj failed⟩
    · intro failed
      rcases failed with ⟨_, rfl⟩ | bad | ⟨value, states, _⟩
      · rfl
      · exact absurd (folder.has_of_misstates names parse error bad) there
      · exact absurd (folder.has_of_states names parse value states) there

end Folder

namespace Packages

variable (folder : Folder) (settings : Settings)

def Requires (requirement : String) : Prop :=
  ∃ manifest, folder.States [manifestFile] Manifest.ofText manifest ∧
    manifest.dependencies.get? corePackage = some requirement

def Installs (version : Option String) : Prop :=
  ∃ manifest, folder.States installedManifest Manifest.ofText manifest ∧
    manifest.version = version

inductive Agrees : Prop where
  | pinned (version : String) (pins : settings.coreVersion = some version)
      (clear : ∀ name ∈ artifacts, folder.has [name] = false)
  | installed (free : settings.coreVersion = none) (requirement version : String)
      (requires : Requires folder requirement) (installs : Installs folder (some version))
      (fits : Version.satisfies requirement version = true)

inductive Unrequired : Error → Prop where
  | noManifest (absent : folder.has [manifestFile] = false) : Unrequired .missingCore
  | manifest (error : Error) (bad : folder.Misstates [manifestFile] Manifest.ofText error) :
      Unrequired error
  | undeclared (manifest : Manifest)
      (states : folder.States [manifestFile] Manifest.ofText manifest)
      (silent : manifest.dependencies.get? corePackage = none) : Unrequired .missingCore

inductive Unfit (requirement : String) : Error → Prop where
  | notInstalled (absent : folder.has installedManifest = false) :
      Unfit requirement (.coreNotInstalled requirement (folder.pathOf installedManifest))
  | manifest (error : Error) (bad : folder.Misstates installedManifest Manifest.ofText error) :
      Unfit requirement error
  | unversioned (installs : Installs folder none) :
      Unfit requirement (.unreadableDocument (folder.pathOf installedManifest) .missingVersion)
  | mismatch (version : String) (installs : Installs folder (some version))
      (misfits : Version.satisfies requirement version = false) :
      Unfit requirement (.coreMismatch requirement version)

inductive Disagrees : Error → Prop where
  | conflict (version name : String) (earlier later : List String)
      (pins : settings.coreVersion = some version) (order : artifacts = earlier ++ name :: later)
      (clear : ∀ other ∈ earlier, folder.has [other] = false) (there : folder.has [name] = true) :
      Disagrees (.pinnedVersionConflict (folder.pathOf [name]) version)
  | unrequired (free : settings.coreVersion = none) (error : Error)
      (missing : Unrequired folder error) : Disagrees error
  | unfit (free : settings.coreVersion = none) (requirement : String)
      (requires : Requires folder requirement) (error : Error)
      (missing : Unfit folder requirement error) : Disagrees error

def requirementOf (manifest : Manifest) : Except Error String :=
  match manifest.dependencies.get? corePackage with
  | none => .error .missingCore
  | some requirement => .ok requirement

def fitting (requirement : String) (manifest : Manifest) : Except Error String :=
  match manifest.version with
  | none => .error (.unreadableDocument (folder.pathOf installedManifest) .missingVersion)
  | some version =>
      if Version.satisfies requirement version then .ok version
      else .error (.coreMismatch requirement version)

def required : Except Error String :=
  folder.consult [manifestFile] Manifest.ofText .missingCore requirementOf

def fittingInstalled (requirement : String) : Except Error String :=
  folder.consult installedManifest Manifest.ofText
    (.coreNotInstalled requirement (folder.pathOf installedManifest)) (fitting folder requirement)

theorem installed_version_steps :
    installedVersion folder = required folder >>= fittingInstalled folder := by
  unfold installedVersion required Folder.consult
  by_cases there : folder.has [manifestFile] = true
  · rw [if_neg (by simp [there]), if_pos there, bind_assoc]
    refine congrArg (folder.document [manifestFile] Manifest.ofText >>= ·) ?_
    funext manifest
    unfold requirementOf
    cases manifest.dependencies.get? corePackage with
    | none => rfl
    | some requirement =>
        change (if _ then _ else _) = Folder.consult _ _ _ _ _
        rw [Folder.consult]
        by_cases installed : folder.has installedManifest = true
        · rw [if_neg (by simp [installed]), if_pos installed]
          rfl
        · rw [if_pos (by simp [installed]), if_neg installed]
  · rw [if_pos (by simp [there]), if_neg there]
    rfl

theorem requirement_of_ok_iff (manifest : Manifest) (requirement : String) :
    requirementOf manifest = .ok requirement ↔
      manifest.dependencies.get? corePackage = some requirement := by
  unfold requirementOf
  cases manifest.dependencies.get? corePackage <;> simp

theorem requirement_of_error_iff (manifest : Manifest) (error : Error) :
    requirementOf manifest = .error error ↔
      manifest.dependencies.get? corePackage = none ∧ .missingCore = error := by
  unfold requirementOf
  cases manifest.dependencies.get? corePackage <;> simp

theorem required_ok_iff (requirement : String) :
    required folder = .ok requirement ↔ Requires folder requirement := by
  rw [required, Folder.consult_ok_iff]
  simp only [requirement_of_ok_iff, Requires]

theorem required_error_iff (error : Error) :
    required folder = .error error ↔ Unrequired folder error := by
  rw [required, Folder.consult_error_iff]
  simp only [requirement_of_error_iff]
  constructor
  · intro failed
    rcases failed with ⟨absent, rfl⟩ | bad | ⟨manifest, states, silent, rfl⟩
    · exact .noManifest absent
    · exact .manifest error bad
    · exact .undeclared manifest states silent
  · intro missing
    cases missing with
    | noManifest absent => exact .inl ⟨absent, rfl⟩
    | manifest error bad => exact .inr (.inl bad)
    | undeclared manifest states silent => exact .inr (.inr ⟨manifest, states, silent, rfl⟩)

theorem fitting_ok_iff (requirement result : String) (manifest : Manifest) :
    fitting folder requirement manifest = .ok result ↔
      manifest.version = some result ∧ Version.satisfies requirement result = true := by
  unfold fitting
  cases manifest.version with
  | none => simp
  | some version =>
      by_cases fits : Version.satisfies requirement version = true
      · simp only [if_pos fits, Except.ok.injEq, Option.some.injEq]
        exact ⟨fun same => ⟨same, same ▸ fits⟩, And.left⟩
      · simp only [if_neg fits, reduceCtorEq, Option.some.injEq, false_iff]
        intro found
        exact fits (found.1 ▸ found.2)

theorem fitting_error_iff (requirement : String) (manifest : Manifest) (error : Error) :
    fitting folder requirement manifest = .error error ↔
      manifest.version = none ∧
          .unreadableDocument (folder.pathOf installedManifest) .missingVersion = error ∨
        ∃ version, manifest.version = some version ∧
          Version.satisfies requirement version = false ∧
            .coreMismatch requirement version = error := by
  unfold fitting
  cases manifest.version with
  | none => simp
  | some version =>
      by_cases fits : Version.satisfies requirement version = true
      · simp [fits]
      · simp [fits]

theorem fitting_installed_ok_iff (requirement version : String) :
    fittingInstalled folder requirement = .ok version ↔
      Installs folder (some version) ∧ Version.satisfies requirement version = true := by
  rw [fittingInstalled, Folder.consult_ok_iff]
  simp only [fitting_ok_iff, Installs, ← and_assoc, exists_and_right]

theorem fitting_installed_error_iff (requirement : String) (error : Error) :
    fittingInstalled folder requirement = .error error ↔ Unfit folder requirement error := by
  rw [fittingInstalled, Folder.consult_error_iff]
  simp only [fitting_error_iff]
  constructor
  · intro failed
    rcases failed with ⟨absent, rfl⟩ | bad | ⟨manifest, states, failed⟩
    · exact .notInstalled absent
    · exact .manifest error bad
    · rcases failed with ⟨silent, rfl⟩ | ⟨version, stated, misfits, rfl⟩
      · exact .unversioned ⟨manifest, states, silent⟩
      · exact .mismatch version ⟨manifest, states, stated⟩ misfits
  · intro missing
    cases missing with
    | notInstalled absent => exact .inl ⟨absent, rfl⟩
    | manifest error bad => exact .inr (.inl bad)
    | unversioned installs =>
        obtain ⟨manifest, states, silent⟩ := installs
        exact .inr (.inr ⟨manifest, states, .inl ⟨silent, rfl⟩⟩)
    | mismatch version installs misfits =>
        obtain ⟨manifest, states, stated⟩ := installs
        exact .inr (.inr ⟨manifest, states, .inr ⟨version, stated, misfits, rfl⟩⟩)

def conflict (version : String) : Except Error Unit :=
  match artifacts.find? fun name => folder.has [name] with
  | some name => .error (.pinnedVersionConflict (folder.pathOf [name]) version)
  | none => .ok ()

theorem conflict_outcome (version : String) :
    (∀ checked, conflict folder version = .ok checked ↔
      ∀ name ∈ artifacts, folder.has [name] = false) ∧
    ∀ error, conflict folder version = .error error ↔
      ∃ name earlier later, artifacts = earlier ++ name :: later ∧
        (∀ other ∈ earlier, folder.has [other] = false) ∧ folder.has [name] = true ∧
          .pinnedVersionConflict (folder.pathOf [name]) version = error := by
  have none : (artifacts.find? fun name => folder.has [name]) = none ↔
      ∀ name ∈ artifacts, folder.has [name] = false := by
    simp only [List.find?_eq_none, Bool.not_eq_true]
  have first (name : String) : (artifacts.find? fun name => folder.has [name]) = some name ↔
      folder.has [name] = true ∧ ∃ earlier later, artifacts = earlier ++ name :: later ∧
        ∀ other ∈ earlier, folder.has [other] = false := by
    simp only [List.find?_eq_some_iff_append, Bool.not_eq_true']
  refine outcome_iff _ _ _ (fun _ clear => ?_) (fun error failed => ?_) ?_
  · rw [conflict, none.mpr clear]
  · obtain ⟨name, earlier, later, order, clear, there, rfl⟩ := failed
    rw [conflict, (first name).mpr ⟨there, earlier, later, order, clear⟩]
  · cases found : artifacts.find? fun name => folder.has [name] with
    | none => exact .inl ⟨(), none.mp found⟩
    | some name =>
        obtain ⟨there, earlier, later, order, clear⟩ := (first name).mp found
        exact .inr ⟨_, name, earlier, later, order, clear, there, rfl⟩

theorem check_ok_iff : check folder settings = .ok () ↔ Agrees folder settings := by
  unfold check
  cases states : settings.coreVersion with
  | some version =>
      change conflict folder version = .ok () ↔ _
      rw [(conflict_outcome folder version).1]
      constructor
      · intro clear
        exact .pinned version states clear
      · intro agrees
        cases agrees with
        | pinned version pins clear => exact clear
        | installed free => cases states.symm.trans free
  | none =>
      change (installedVersion folder).map (fun _ => ()) = .ok () ↔ _
      rw [except_map_ok_iff, installed_version_steps]
      simp only [except_bind_ok_iff, required_ok_iff, fitting_installed_ok_iff, and_true]
      constructor
      · intro found
        obtain ⟨version, requirement, requires, installs, fits⟩ := found
        exact .installed states requirement version requires installs fits
      · intro agrees
        cases agrees with
        | pinned version pins => cases states.symm.trans pins
        | installed _ requirement version requires installs fits =>
            exact ⟨version, requirement, requires, installs, fits⟩

theorem check_error_iff (error : Error) :
    check folder settings = .error error ↔ Disagrees folder settings error := by
  unfold check
  cases states : settings.coreVersion with
  | some version =>
      change conflict folder version = .error error ↔ _
      rw [(conflict_outcome folder version).2]
      constructor
      · intro failed
        obtain ⟨name, earlier, later, order, clear, there, rfl⟩ := failed
        exact .conflict version name earlier later states order clear there
      · intro disagrees
        cases disagrees with
        | conflict pinned name earlier later pins order clear there =>
            obtain rfl := Option.some.inj (states.symm.trans pins)
            exact ⟨name, earlier, later, order, clear, there, rfl⟩
        | unrequired free => cases states.symm.trans free
        | unfit free => cases states.symm.trans free
  | none =>
      change (installedVersion folder).map (fun _ => ()) = .error error ↔ _
      rw [except_map_error_iff, installed_version_steps, except_bind_error_iff, required_error_iff]
      simp only [required_ok_iff, fitting_installed_error_iff]
      constructor
      · intro failed
        rcases failed with missing | ⟨requirement, requires, missing⟩
        · exact .unrequired states error missing
        · exact .unfit states requirement requires error missing
      · intro disagrees
        cases disagrees with
        | conflict version name earlier later pins => cases states.symm.trans pins
        | unrequired _ _ missing => exact .inl missing
        | unfit _ requirement requires _ missing => exact .inr ⟨requirement, requires, missing⟩

end Packages

end SqlWorkflow
