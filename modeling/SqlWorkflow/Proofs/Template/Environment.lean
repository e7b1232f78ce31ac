import SqlWorkflow.Proofs.SortedMap
import SqlWorkflow.Proofs.Template.Calls

namespace SqlWorkflow.Template

def Appends {α : Type} (run : Run α) : Prop :=
  ∀ machine before, run.run.run { machine with mentions := before ++ machine.mentions } =
    ((run.run.run machine).1,
      { (run.run.run machine).2 with mentions := before ++ (run.run.run machine).2.mentions })

def Tidy {α : Type} (run : Run α) : Prop :=
  ∀ machine value after, run.run.run machine = (.ok value, after) → after.error = machine.error

theorem appends_closed : Closed Appends where
  secluded run secluded machine before := by
    have kept := secluded.kept machine
    refine (secluded machine (before ++ machine.mentions) machine.error).trans ?_
    rw [← kept.1, ← kept.2]
  bind first next appendsFirst appendsNext machine before :=
    commutes_bind (fun machine => { machine with mentions := before ++ machine.mentions }) first next
      (fun machine => appendsFirst machine before)
      (fun value machine => appendsNext value machine before) machine

theorem tidy_closed : Closed Tidy where
  secluded run secluded machine value after ran := by
    have kept := (secluded.kept machine).2
    rwa [ran] at kept
  bind first next tidyFirst tidyNext machine value after ran := by
    cases went : first.run.run machine with
    | mk result middle =>
        cases result with
        | error cause =>
            rw [run_bind_error first next machine middle cause went] at ran
            cases ran
        | ok found =>
            rw [run_bind_ok first next machine middle found went] at ran
            exact (tidyNext found middle value after ran).trans
              (tidyFirst machine found middle went)

theorem appends_mention (found : Mention) : Appends (Run.mention found) := by
  intro machine before
  have assoc := List.append_assoc before machine.mentions [found]
  exact congrArg (fun mentions => (Except.ok (), { machine with mentions })) assoc

theorem tidy_mention (found : Mention) : Tidy (Run.mention found) := by
  intro machine value after ran
  cases ran
  rfl

theorem appends_refer (setting : Setting) (registers : Bool) (args : List Value) :
    Appends (referTo setting registers args) := by
  intro machine before
  rw [refer_to_run, refer_to_run]
  cases args.mapM Value.textArg? with
  | none => rfl
  | some parts =>
      dsimp only
      cases refer setting.names registers parts with
      | error cause => rfl
      | ok found => simp

theorem tidy_refer (setting : Setting) (registers : Bool) (args : List Value) :
    Tidy (referTo setting registers args) := by
  intro machine value after ran
  rw [refer_to_run] at ran
  cases parts : args.mapM Value.textArg? with
  | none => rw [parts] at ran; cases ran
  | some parts' =>
      rw [parts] at ran
      dsimp only at ran
      cases named : refer setting.names registers parts' with
      | error cause => rw [named] at ran; cases ran
      | ok found => rw [named] at ran; cases ran; rfl

-- Of the functions, only those that refer to actions and the one for the own target touch what
-- outlives the rendering.
theorem Closed.call_function {P : ∀ {α : Type}, Run α → Prop} (closed : Closed P)
    (setting : Setting) (refers : ∀ registers args, P (referTo setting registers args))
    (mentions : ∀ found, P (Run.mention found)) (name : String) (args : List Value) :
    P (callFunction setting name args) := by
  unfold callFunction
  split
  · exact refers true _
  · exact refers false _
  · exact closed.bind _ _ (mentions _) fun _ => closed.secluded _ (secluded_pure _)
  · exact closed.secluded _ (secluded_pure _)
  · exact closed.secluded _ (secluded_pure _)
  · split
    · exact closed.secluded _ secluded_fault
    · refine closed.bind _ _ (closed.secluded _ (secluded_or_fault _)) fun no => ?_
      refine closed.bind _ _ (closed.secluded _ (secluded_opened _)) fun condition => ?_
      exact closed.secluded _ (secluded_pure _)
  · exact closed.secluded _ (secluded_or_fault _)
  · exact closed.secluded _ (secluded_or_fault _)
  · exact closed.secluded _ (secluded_namespace _)
  · exact closed.secluded _ secluded_fault

theorem statements_append (setting : Setting) (blocks : List (String × List Stmt)) (depth : Nat)
    (stmts : List Stmt) : Appends (runStmts (evaluator setting blocks depth) stmts) :=
  appends_closed.evaluate setting
    (appends_closed.call_function setting (appends_refer setting) appends_mention) blocks depth stmts

theorem statements_tidy (setting : Setting) (blocks : List (String × List Stmt)) (depth : Nat)
    (stmts : List Stmt) : Tidy (runStmts (evaluator setting blocks depth) stmts) :=
  tidy_closed.evaluate setting
    (tidy_closed.call_function setting (tidy_refer setting) tidy_mention) blocks depth stmts

namespace Environment

theorem render_with_eq (env : Environment) (clean : env.error = none) (template : String)
    (incremental : Bool) :
    env.renderWith template incremental =
      ((render { env.setting with incremental } template).1,
        { env with
          incremental := false
          mentions := env.mentions ++ (render { env.setting with incremental } template).2 }) := by
  cases read : parse? template with
  | none =>
      rw [env.render_with_unread template incremental read, render_unread _ template read]
      simp [settle, clean]
  | some statements =>
      let setting : Setting := { env.setting with incremental }
      let run := runStmts (evaluator setting (blocksOf statements) maxReruns) statements
      cases ran : run.run.run {} with
      | mk result machine =>
          have moved : run.run.run { mentions := env.mentions, error := env.error } =
              (result, { machine with mentions := env.mentions ++ machine.mentions }) := by
            have after := statements_append setting (blocksOf statements) maxReruns statements {}
              env.mentions
            rw [ran, List.append_nil] at after
            rwa [clean]
          rw [env.render_with_ran template incremental statements read _ _ moved,
            render_ran setting template statements read result machine ran]
          cases result with
          | error cause => simp [settle, clean]
          | ok text =>
              have left : machine.error = none := statements_tidy setting _ _ _ {} text machine ran
              simp [settle, clean, left]

end Environment

structure Job where
  template : String
  incremental : Bool := false

namespace Environment

def perform (env : Environment) (job : Job) : Except TemplateError String × Environment :=
  env.renderWith job.template job.incremental

def alone (env : Environment) (job : Job) : Except TemplateError String × List Mention :=
  render { env.setting with incremental := job.incremental } job.template

def mentioning (env : Environment) (mentions : List Mention) : Environment :=
  { env with mentions := env.mentions ++ mentions }

structure Idle (env : Environment) : Prop where
  unflagged : env.incremental = false
  clean : env.error = none

theorem perform_eq (env : Environment) (idle : env.Idle) (job : Job) :
    env.perform job = ((env.alone job).1, env.mentioning (env.alone job).2) := by
  rw [perform, render_with_eq env idle.clean, ← idle.unflagged]
  rfl

theorem Idle.mentioning {env : Environment} (idle : env.Idle) (mentions : List Mention) :
    (env.mentioning mentions).Idle :=
  ⟨idle.unflagged, idle.clean⟩

end Environment

end SqlWorkflow.Template
