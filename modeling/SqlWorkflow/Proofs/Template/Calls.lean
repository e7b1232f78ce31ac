import SqlWorkflow.Proofs.Template.Runs

namespace SqlWorkflow.Template

structure Call where
  name : String
  args : List Value

namespace Call

def reference? (call : Call) : Option Reference :=
  (call.args.mapM Value.textArg?).bind Reference.ofParts?

def targets? (names : NameTable) (call : Call) : Option (Target × Target) :=
  call.reference?.bind fun reference => (names.targets reference).toOption

def dependency? (names : NameTable) (call : Call) : Option Target :=
  if call.name = "ref" then (call.targets? names).map Prod.fst else none

def mention? (setting : Setting) (call : Call) : Option Mention :=
  if call.name = "ref" then
    (call.targets? setting.names).map fun targets => ⟨some targets.1, targets.2⟩
  else if call.name = "resolve" then
    (call.targets? setting.names).map fun targets => ⟨none, targets.2⟩
  else if call.name = "self" && call.args.isEmpty then some ⟨none, setting.target⟩
  else none

theorem mention_dependency (setting : Setting) (call : Call) :
    (call.mention? setting).bind Mention.dependency = call.dependency? setting.names := by
  unfold mention? dependency?
  by_cases ref : call.name = "ref"
  · rw [if_pos ref, if_pos ref]
    cases call.targets? setting.names <;> rfl
  · rw [if_neg ref, if_neg ref]
    split
    · cases call.targets? setting.names <;> rfl
    · split <;> rfl

end Call

theorem refer_to_option (names : NameTable) (registers : Bool) (parts : List String) :
    (refer names registers parts).toOption =
      ((Reference.ofParts? parts).bind fun reference => (names.targets reference).toOption).map
        fun targets => ⟨if registers then some targets.1 else none, targets.2⟩ := by
  unfold refer
  cases Reference.ofParts? parts with
  | none => rfl
  | some reference =>
      dsimp only [Option.bind_some]
      cases names.targets reference <;> rfl

theorem refer_to_run (setting : Setting) (registers : Bool) (args : List Value)
    (machine : Machine) :
    (referTo setting registers args).run.run machine =
      match args.mapM Value.textArg? with
      | none => (.error .unrenderable, machine)
      | some parts =>
          match refer setting.names registers parts with
          | .error cause => (.error .unrenderable, { machine with error := some cause })
          | .ok found =>
              (.ok (.ofText (found.text setting.names)),
                { machine with mentions := machine.mentions ++ [found] }) := by
  unfold referTo
  cases args.mapM Value.textArg? with
  | none => rfl
  | some parts =>
      rw [run_bind_ok (Run.orFault (some parts)) _ machine machine parts rfl]
      dsimp only
      cases refer setting.names registers parts <;> rfl

theorem refer_to_mentions (setting : Setting) (registers : Bool) (call : Call)
    (machine : Machine) :
    ((referTo setting registers call.args).run.run machine).2.mentions = machine.mentions ++
      ((call.targets? setting.names).map fun targets =>
        (⟨if registers then some targets.1 else none, targets.2⟩ : Mention)).toList := by
  rw [refer_to_run]
  unfold Call.targets? Call.reference?
  cases call.args.mapM Value.textArg? with
  | none => exact (List.append_nil _).symm
  | some parts =>
      rw [Option.bind_some, ← refer_to_option]
      dsimp only
      cases refer setting.names registers parts with
      | error cause => exact (List.append_nil _).symm
      | ok mention => rfl

theorem call_mentions (setting : Setting) (call : Call) (machine : Machine) :
    ((callFunction setting call.name call.args).run.run machine).2.mentions =
      machine.mentions ++ (call.mention? setting).toList := by
  have apart (run : Run Value) (kept : Secluded run) (none : call.mention? setting = none) :
      (run.run.run machine).2.mentions = machine.mentions ++ (call.mention? setting).toList := by
    rw [none, kept.quiet machine]
    exact (List.append_nil _).symm
  obtain ⟨name, args⟩ := call
  unfold callFunction
  dsimp only at apart ⊢
  split
  · exact refer_to_mentions setting true ⟨"ref", _⟩ machine
  · exact refer_to_mentions setting false ⟨"resolve", _⟩ machine
  · rfl
  · exact apart _ (secluded_pure _) rfl
  · exact apart _ (secluded_pure _) rfl
  · refine apart _ ?_ rfl
    split
    · exact secluded_fault
    · refine secluded_closed.bind _ _ (secluded_or_fault _) fun no => ?_
      exact secluded_closed.bind _ _ (secluded_opened _) fun condition => secluded_pure _
  · exact apart _ (secluded_or_fault _) rfl
  · exact apart _ (secluded_or_fault _) rfl
  · exact apart _ (secluded_namespace _) rfl
  · rename_i ref resolve _ _ _ self _ _ _
    refine apart _ secluded_fault ?_
    rw [Call.mention?, if_neg ref, if_neg resolve, if_neg (by simpa using self)]

-- A run, started in a machine, makes these calls one after the other. A run that fails has made the
-- calls before its failure.
inductive Makes (setting : Setting) : {α : Type} → Run α → Machine → List Call → Prop where
  | nothing {α : Type} {run : Run α} {machine : Machine} (quiet : Quiet run) :
      Makes setting run machine []
  | call (call : Call) (machine : Machine) :
      Makes setting (callFunction setting call.name call.args) machine [call]
  | stop {α β : Type} {first : Run β} {next : β → Run α} {machine after : Machine}
      {cause : TemplateError} {calls : List Call} (made : Makes setting first machine calls)
      (stopped : first.run.run machine = (.error cause, after)) :
      Makes setting (first >>= next) machine calls
  | next {α β : Type} {first : Run β} {next : β → Run α} {machine after : Machine} {value : β}
      {calls more : List Call} (made : Makes setting first machine calls)
      (went : first.run.run machine = (.ok value, after))
      (rest : Makes setting (next value) after more) :
      Makes setting (first >>= next) machine (calls ++ more)

theorem makes_mentions {α : Type} (setting : Setting) (run : Run α) (machine : Machine)
    (calls : List Call) (makes : Makes setting run machine calls) :
    (run.run.run machine).2.mentions =
      machine.mentions ++ calls.filterMap (Call.mention? setting) := by
  induction makes with
  | nothing quiet => rw [quiet, List.filterMap_nil, List.append_nil]
  | call call machine =>
      rw [call_mentions, List.filterMap_cons, List.filterMap_nil]
      cases call.mention? setting <;> rfl
  | stop made stopped ih =>
      rw [run_bind_error _ _ _ _ _ stopped]
      rwa [stopped] at ih
  | next made went rest ih restMentions =>
      rw [run_bind_ok _ _ _ _ _ went, restMentions]
      rw [went] at ih
      rw [ih, List.filterMap_append, List.append_assoc]

def Call.Raises (setting : Setting) (call : Call) (cause : TemplateError) : Prop :=
  ∀ machine, (callFunction setting call.name call.args).run.run machine =
    (.error .unrenderable, { machine with error := some cause })

theorem makes_raised {α : Type} (setting : Setting) (call : Call) (cause : TemplateError)
    (raises : call.Raises setting cause) (run : Run α) (machine : Machine) (calls : List Call)
    (makes : Makes setting run machine calls) (member : call ∈ calls) :
    ∃ after, run.run.run machine = (.error .unrenderable, after) ∧ after.error = some cause := by
  induction makes with
  | nothing quiet => cases member
  | call other machine =>
      obtain rfl := List.mem_singleton.mp member
      exact ⟨_, raises machine, rfl⟩
  | stop made stopped ih =>
      obtain ⟨after, ended, left⟩ := ih member
      exact ⟨after, run_bind_error _ _ _ _ _ ended, left⟩
  | next made went rest ih restEnds =>
      rcases List.mem_append.mp member with earlier | later
      · obtain ⟨after, ended, _⟩ := ih earlier
        cases went.symm.trans ended
      · obtain ⟨after, ended, left⟩ := restEnds later
        exact ⟨after, (run_bind_ok _ _ _ _ _ went).trans ended, left⟩

def Traced (setting : Setting) {α : Type} (run : Run α) : Prop :=
  ∀ machine, ∃ calls, Makes setting run machine calls

theorem traced_closed (setting : Setting) : Closed (Traced setting) where
  secluded run secluded machine := ⟨[], .nothing secluded.quiet⟩
  bind first next tracedFirst tracedNext machine := by
    obtain ⟨calls, made⟩ := tracedFirst machine
    cases went : first.run.run machine with
    | mk result after =>
        cases result with
        | error cause => exact ⟨calls, .stop made went⟩
        | ok value =>
            obtain ⟨more, rest⟩ := tracedNext value after
            exact ⟨calls ++ more, .next made went rest⟩

def Calls (setting : Setting) (template : String) (calls : List Call) : Prop :=
  ∃ statements, parse? template = some statements ∧
    Makes setting (runStmts (evaluator setting (blocksOf statements) maxReruns) statements) {} calls

theorem render_traced (setting : Setting) (template text : String)
    (rendered : (render setting template).1 = .ok text) :
    ∃ calls, Calls setting template calls := by
  cases read : parse? template with
  | none => rw [render_unread setting template read] at rendered; cases rendered
  | some statements =>
      obtain ⟨calls, made⟩ := (traced_closed setting).evaluate setting
        (fun name args machine => ⟨_, .call ⟨name, args⟩ machine⟩) (blocksOf statements) maxReruns
        statements {}
      exact ⟨calls, statements, read, made⟩

theorem render_mentions (setting : Setting) (template : String) (calls : List Call)
    (made : Calls setting template calls) :
    (render setting template).2 = calls.filterMap (Call.mention? setting) := by
  obtain ⟨statements, read, makes⟩ := made
  have mentions := makes_mentions setting _ {} calls makes
  rw [render_ran setting template statements read _ _ rfl]
  exact mentions

theorem render_raised (setting : Setting) (call : Call) (cause : TemplateError)
    (raises : call.Raises setting cause) (template : String) (calls : List Call)
    (made : Calls setting template calls) (member : call ∈ calls) :
    (render setting template).1 = .error cause := by
  obtain ⟨statements, read, makes⟩ := made
  obtain ⟨after, ended, left⟩ := makes_raised setting call cause raises _ {} calls makes member
  rw [render_ran setting template statements read _ _ ended]
  simp [Environment.settle, left]

theorem render_dependencies (setting : Setting) (template : String) (calls : List Call)
    (made : Calls setting template calls) :
    (render setting template).2.filterMap Mention.dependency =
      calls.filterMap (Call.dependency? setting.names) := by
  rw [render_mentions setting template calls made, List.filterMap_filterMap]
  exact congrArg (List.filterMap · calls) (funext (Call.mention_dependency setting))

end SqlWorkflow.Template
