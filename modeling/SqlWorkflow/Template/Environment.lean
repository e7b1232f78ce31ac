import SqlWorkflow.Template.Parse
import SqlWorkflow.Template.Render

-- The templates of one action share a flag for incremental queries, the mentions so far, and a
-- place for the error of a function that stops a rendering.
namespace SqlWorkflow.Template

structure Environment where
  names : NameTable
  action : String
  target : Target
  incremental : Bool := false
  mentions : List Mention := []
  error : Option TemplateError := none

namespace Environment

def start (names : NameTable) (action : String) (target : Target) : Environment :=
  { names, action, target }

def setting (env : Environment) : Setting :=
  ⟨env.names, env.action, env.target, env.incremental⟩

def dependencies (env : Environment) : SortedSet Target :=
  Template.dependencies env.mentions

def referenced (env : Environment) : SortedSet Target :=
  Template.referenced env.mentions

-- Runs a template on what the renderings share. One that is not well formed mentions nothing.
def evaluate (env : Environment) (template : String) : Except TemplateError String × Environment :=
  match parse? template with
  | none => (.error .unrenderable, env)
  | some statements =>
      let run := runStmts (evaluator env.setting (blocksOf statements) maxReruns) statements
      let (result, machine) := run.run.run { mentions := env.mentions, error := env.error }
      (result, { env with mentions := machine.mentions, error := machine.error })

-- A text loses the blanks at both ends. A failure takes the error that a function left, and is a
-- fault of the template if there is none.
def settle (env : Environment) (result : Except TemplateError String) :
    Except TemplateError String × Environment :=
  match result with
  | .ok text => (.ok (Text.trim text), env)
  | .error cause => (.error (env.error.getD cause), { env with error := none })

def flagged (env : Environment) (incremental : Bool) : Environment :=
  { env with incremental }

def renderWith (env : Environment) (template : String) (incremental : Bool) :
    Except TemplateError String × Environment :=
  let (result, after) := (env.flagged incremental).evaluate template
  (after.flagged false).settle result

end Environment

def Setting.environment (setting : Setting) : Environment :=
  .start setting.names setting.action setting.target

def render (setting : Setting) (template : String) : Except TemplateError String × List Mention :=
  let (result, after) := setting.environment.renderWith template setting.incremental
  (result, after.mentions)

theorem Environment.render_with_unread (env : Environment) (template : String) (incremental : Bool)
    (unread : parse? template = none) :
    env.renderWith template incremental =
      settle { env with incremental := false } (.error .unrenderable) := by
  have evaluated : (env.flagged incremental).evaluate template =
      (.error .unrenderable, env.flagged incremental) := by
    rw [evaluate, unread]
  rw [renderWith, evaluated]
  rfl

theorem render_unread (setting : Setting) (template : String) (unread : parse? template = none) :
    render setting template = (.error .unrenderable, []) := by
  rw [render, Environment.render_with_unread _ template _ unread]
  rfl

theorem Environment.evaluate_ran (env : Environment) (template : String) (statements : List Stmt)
    (read : parse? template = some statements) (result : Except TemplateError String)
    (machine : Machine)
    (ran : (runStmts (evaluator env.setting (blocksOf statements) maxReruns) statements).run.run
      { mentions := env.mentions, error := env.error } = (result, machine)) :
    env.evaluate template =
      (result, { env with mentions := machine.mentions, error := machine.error }) := by
  simp only [evaluate, read, ran]

theorem Environment.render_with_ran (env : Environment) (template : String) (incremental : Bool)
    (statements : List Stmt) (read : parse? template = some statements)
    (result : Except TemplateError String) (machine : Machine)
    (ran : (runStmts (evaluator { env.setting with incremental } (blocksOf statements) maxReruns)
      statements).run.run { mentions := env.mentions, error := env.error } = (result, machine)) :
    env.renderWith template incremental =
      settle
        { env with incremental := false, mentions := machine.mentions, error := machine.error }
        result := by
  have evaluated := (env.flagged incremental).evaluate_ran template statements read result machine ran
  rw [renderWith, evaluated]
  rfl

theorem render_ran (setting : Setting) (template : String) (statements : List Stmt)
    (read : parse? template = some statements) (result : Except TemplateError String)
    (machine : Machine)
    (ran : (runStmts (evaluator setting (blocksOf statements) maxReruns) statements).run.run {} =
      (result, machine)) :
    render setting template =
      ((Environment.settle { setting.environment with error := machine.error } result).1,
        machine.mentions) := by
  have rendered := setting.environment.render_with_ran template setting.incremental statements read
    result machine ran
  rw [render, rendered]
  cases result <;> rfl

end SqlWorkflow.Template
