import SqlWorkflow.Compile
import SqlWorkflow.Proofs.Template.Calls

namespace SqlWorkflow

namespace NameTable

theorem declared_dependencies_append (names : NameTable) (front back : List String) :
    names.declaredDependencies (front ++ back) = do
      let first ← names.declaredDependencies front
      let second ← names.declaredDependencies back
      return first ++ second :=
  List.mapM_append

theorem declared_dependency (names : NameTable) (name : String) :
    names.declaredDependencies [name] =
      match Reference.parse? name with
      | none => .error (.invalidReference name)
      | some reference => (names.targets reference).map fun targets => [targets.1] := by
  rw [declaredDependencies, List.mapM_cons, List.mapM_nil]
  cases Reference.parse? name with
  | none => rfl
  | some reference =>
      dsimp only
      cases names.targets reference <;> rfl

theorem targets_error (names : NameTable) (reference : Reference) (cause : TemplateError)
    (failed : names.targets reference = .error cause) :
    ∃ candidates, cause = .ambiguousReference reference.display candidates := by
  unfold targets at failed
  cases resolved : names.resolve reference with
  | found canonical runtime => rw [resolved] at failed; cases failed
  | missing canonical runtime => rw [resolved] at failed; cases failed
  | ambiguous candidates =>
      rw [resolved] at failed
      exact ⟨candidates, (Except.error.inj failed).symm⟩

end NameTable

namespace Template

theorem text_args (parts : List String) :
    (parts.map Value.ofText).mapM Value.textArg? = some parts := by
  induction parts with
  | nil => rfl
  | cons part parts ih =>
      rw [List.map_cons, List.mapM_cons, ih]
      rfl

namespace Call

def onPieces (function name : String) : Call :=
  ⟨function, (Reference.dottedParts name).map Value.ofText⟩

structure FailsWith (setting : Setting) (call : Call) (cause : TemplateError) : Prop where
  stops : call.Raises setting cause
  reported : ∀ template calls, Calls setting template calls → call ∈ calls →
    (render setting template).1 = .error cause

structure StandsFor (setting : Setting) (call : Call) (text : String) (found : Mention) : Prop where
  returns : ∀ machine, (callFunction setting call.name call.args).run.run machine =
    (.ok (.ofText text), { machine with mentions := machine.mentions ++ [found] })
  captured : ∀ template calls, Calls setting template calls → call ∈ calls →
    found ∈ (render setting template).2

theorem Raises.fails {setting : Setting} {call : Call} {cause : TemplateError}
    (raises : call.Raises setting cause) : call.FailsWith setting cause :=
  ⟨raises, fun template calls made member =>
    render_raised setting call cause raises template calls made member⟩

theorem stands_for (setting : Setting) (call : Call) (text : String) (found : Mention)
    (returns : ∀ machine, (callFunction setting call.name call.args).run.run machine =
      (.ok (.ofText text), { machine with mentions := machine.mentions ++ [found] })) :
    call.StandsFor setting text found := by
  refine ⟨returns, fun template calls made member => ?_⟩
  have mentioned : call.mention? setting = some found := by
    have added := call_mentions setting call {}
    rw [returns {}] at added
    cases mention : call.mention? setting with
    | none => rw [mention] at added; cases added
    | some other =>
        rw [mention] at added
        exact congrArg some (List.head_eq_of_cons_eq added).symm
  rw [render_mentions setting template calls made]
  exact List.mem_filterMap.mpr ⟨call, member, mentioned⟩

end Call

section Refer

variable (setting : Setting) (name : String) (registers : Bool)

def referring (registers : Bool) : String :=
  if registers then "ref" else "resolve"

theorem refer_pieces (names : NameTable) :
    refer names registers (Reference.dottedParts name) =
      match Reference.parse? name with
      | none => .error (.invalidReference (Text.join "." (Reference.dottedParts name)))
      | some reference => (names.targets reference).map fun targets =>
          ⟨if registers then some targets.1 else none, targets.2⟩ :=
  rfl

theorem call_referring (machine : Machine) :
    (callFunction setting (referring registers)
      ((Reference.dottedParts name).map Value.ofText)).run.run machine =
      match refer setting.names registers (Reference.dottedParts name) with
      | .error cause => (.error .unrenderable, { machine with error := some cause })
      | .ok found =>
          (.ok (.ofText (found.text setting.names)),
            { machine with mentions := machine.mentions ++ [found] }) := by
  have one : callFunction setting (referring registers) = referTo setting registers := by
    cases registers <;> rfl
  have ran := refer_to_run setting registers ((Reference.dottedParts name).map Value.ofText) machine
  rw [text_args] at ran
  rw [one]
  exact ran

theorem pieces_fail (cause : TemplateError)
    (failed : refer setting.names registers (Reference.dottedParts name) = .error cause) :
    (Call.onPieces (referring registers) name).FailsWith setting cause := by
  apply Call.Raises.fails
  intro machine
  rw [Call.onPieces, call_referring, failed]

theorem pieces_stand (found : Mention)
    (referred : refer setting.names registers (Reference.dottedParts name) = .ok found) :
    (Call.onPieces (referring registers) name).StandsFor setting (found.text setting.names)
      found := by
  apply Call.stands_for
  intro machine
  rw [Call.onPieces, call_referring, referred]

end Refer

-- A name in a list and the calls on its pieces either fail alike or name the same canonical target.
-- The two functions then give the same text and mention the same runtime target. What a list cannot
-- read it reports as it stands there; a call reports the pieces joined, so without the blanks at dots.
theorem declarations_agree (setting : Setting) (name : String) :
    let listed := setting.names.declaredDependencies [name]
    let ref := Call.onPieces "ref" name
    let resolve := Call.onPieces "resolve" name
    let joined := Text.join "." (Reference.dottedParts name)
    ((listed = .error (.invalidReference name) ∧
        ref.FailsWith setting (.invalidReference joined) ∧
        resolve.FailsWith setting (.invalidReference joined)) ∨
      (∃ reference candidates, listed = .error (.ambiguousReference reference candidates) ∧
        ref.FailsWith setting (.ambiguousReference reference candidates) ∧
        resolve.FailsWith setting (.ambiguousReference reference candidates)) ∨
      ∃ canonical runtime text, listed = .ok [canonical] ∧
        ref.StandsFor setting text ⟨some canonical, runtime⟩ ∧
        resolve.StandsFor setting text ⟨none, runtime⟩) ∧
    ∀ front back, setting.names.declaredDependencies (front ++ name :: back) = do
      let first ← setting.names.declaredDependencies front
      let own ← listed
      let second ← setting.names.declaredDependencies back
      return first ++ own ++ second := by
  intro listed ref resolve joined
  constructor
  · have own : listed = _ := setting.names.declared_dependency name
    have referred (registers : Bool) := refer_pieces name registers setting.names
    cases spelled : Reference.parse? name with
    | none =>
        rw [spelled] at own referred
        left
        exact ⟨own, pieces_fail setting name true _ (referred true),
          pieces_fail setting name false _ (referred false)⟩
    | some reference =>
        rw [spelled] at own referred
        right
        cases targets : setting.names.targets reference with
        | error cause =>
            obtain ⟨candidates, rfl⟩ := setting.names.targets_error reference cause targets
            dsimp only at own referred
            rw [targets] at own referred
            left
            exact ⟨_, _, own, pieces_fail setting name true _ (referred true),
              pieces_fail setting name false _ (referred false)⟩
        | ok pair =>
            dsimp only at own referred
            rw [targets] at own referred
            right
            exact ⟨_, _, _, own, pieces_stand setting name true _ (referred true),
              pieces_stand setting name false _ (referred false)⟩
  · intro front back
    rw [← List.singleton_append]
    simp only [NameTable.declared_dependencies_append, bind_assoc, pure_bind, List.append_assoc]
    rfl

example :
    let names : NameTable := .ofList {}
      [(.table, ⟨none, "staging", "orders"⟩), (.table, ⟨none, "raw", "orders"⟩)]
    let cause := TemplateError.ambiguousReference "orders"
      [⟨none, "raw", "orders"⟩, ⟨none, "staging", "orders"⟩]
    names.declaredDependencies [" orders "] = .error cause ∧
      (render ⟨names, "daily", ⟨none, "raw", "daily"⟩, false⟩ "$\x7bref('orders')\x7d").1 =
        .error cause := by
  cbv

end Template

end SqlWorkflow
