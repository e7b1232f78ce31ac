import SqlWorkflow.Template.Environment

namespace SqlWorkflow.Template

structure Setting.Agree (s s' : Setting) : Prop where
  settings : s.names.settings = s'.names.settings
  targets : s.names.targets = s'.names.targets
  action : s.action = s'.action
  target : s.target = s'.target
  incremental : s.incremental = s'.incremental

def Evaluator.under (e : Evaluator) (setting : Setting) : Evaluator :=
  { e with setting }

section Lookup

variable {s s' : Setting} (agree : s.Agree s')

include agree

theorem refer_congr (registers : Bool) (parts : List String) :
    refer s.names registers parts = refer s'.names registers parts := by
  unfold refer
  rw [agree.targets]

theorem mention_text_congr (mention : Mention) : mention.text s.names = mention.text s'.names := by
  unfold Mention.text
  rw [agree.settings]

theorem refer_to_congr (registers : Bool) (args : List Value) :
    referTo s registers args = referTo s' registers args := by
  simp only [referTo, refer_congr agree, mention_text_congr agree]

theorem call_function_congr (name : String) (args : List Value) :
    callFunction s name args = callFunction s' name args := by
  unfold callFunction
  simp only [refer_to_congr agree, mention_text_congr agree, agree.target, agree.action,
    agree.incremental]

theorem find_congr (name : String) : Run.find? s name = Run.find? s' name := by
  simp only [Run.find?, Run.global?, agree.settings]

end Lookup

section Evaluation

variable {e : Evaluator} {setting : Setting} (agree : setting.Agree e.setting)

include agree

theorem call_value_congr (function : Value) (args : List Value) :
    callValue (e.under setting) function args = callValue e function args := by
  simp only [callValue, Evaluator.under, call_function_congr agree]

theorem call_method_congr (object : Value) (name : String) (args : List Value) :
    callMethod (e.under setting) object name args = callMethod e object name args := by
  simp only [callMethod, call_value_congr agree]

theorem call_name_congr (name : String) (args : List Value) :
    callName (e.under setting) name args = callName e name args := by
  unfold callName
  simp only [call_value_congr agree]
  simp only [Evaluator.under, find_congr agree]

-- Only names, calls and blocks look at the evaluator. Whatever else an expression does, its parts
-- do.
theorem eval_congr :
    (∀ expr, evalExpr (e.under setting) expr = evalExpr e expr) ∧
    (∀ args, evalNames (e.under setting) args = evalNames e args) ∧
    (∀ args, evalPlaces (e.under setting) args = evalPlaces e args) ∧
    (∀ expr absent, evalOption (e.under setting) expr absent = evalOption e expr absent) ∧
    (∀ entries, evalEntries (e.under setting) entries = evalEntries e entries) ∧
    ∀ items, evalItems (e.under setting) items = evalItems e items := by
  have find (name : String) : Run.find? (e.under setting).setting name = Run.find? e.setting name :=
    find_congr agree name
  have block (name : String) : callBlock (e.under setting) name = callBlock e name := rfl
  apply evalExpr.mutual_induct
  all_goals
    intros
    simp only [evalExpr, evalNames, evalPlaces, evalOption, evalEntries, evalItems,
      call_name_congr agree, call_method_congr agree, call_value_congr agree, *]

theorem eval_expr_congr : evalExpr (e.under setting) = evalExpr e :=
  funext (eval_congr agree).1

theorem eval_args_congr (args : List Arg) (caller : Option Value) :
    evalArgs (e.under setting) args caller = evalArgs e args caller := by
  obtain ⟨-, names, places, -⟩ := eval_congr agree
  simp only [evalArgs, names, places]

theorem eval_call_congr (function : Expr) (args : List Arg) (caller : Option Value) :
    evalCall (e.under setting) function args caller = evalCall e function args caller := by
  have block (name : String) : callBlock (e.under setting) name = callBlock e name := rfl
  simp only [evalCall, eval_args_congr agree, eval_expr_congr agree, call_name_congr agree,
    call_method_congr agree, call_value_congr agree, block]

theorem eval_filters_congr (filters : List FilterCall) (value : Value) :
    evalFilters (e.under setting) filters value = evalFilters e filters value := by
  simp only [evalFilters, eval_args_congr agree]

theorem run_congr :
    (∀ stmt, runStmt (e.under setting) stmt = runStmt e stmt) ∧
    ∀ stmts, runStmts (e.under setting) stmts = runStmts e stmts := by
  apply runStmt.mutual_induct
  all_goals
    intros
    simp only [runStmt, runStmts, eval_expr_congr agree, eval_call_congr agree,
      eval_filters_congr agree, *]

theorem run_stmts_congr : runStmts (e.under setting) = runStmts e :=
  funext (run_congr agree).2

end Evaluation

theorem evaluator_setting (setting : Setting) (blocks : List (String × List Stmt)) (depth : Nat) :
    (evaluator setting blocks depth).setting = setting := by
  induction depth with
  | zero => rfl
  | succ depth ih => exact ih

-- What a part does when it is run again agrees by the runs inside it, of which there are fewer.
theorem evaluator_congr {s s' : Setting} (agree : s.Agree s') (blocks : List (String × List Stmt))
    (depth : Nat) : evaluator s blocks depth = (evaluator s' blocks depth).under s := by
  induction depth with
  | zero => rfl
  | succ depth ih =>
      have inner : s.Agree (evaluator s' blocks depth).setting := by
        rw [evaluator_setting]
        exact agree
      simp only [evaluator, ih, eval_expr_congr inner, run_stmts_congr inner]
      rfl

theorem render_congr {s s' : Setting} (agree : s.Agree s') (template : String) :
    render s template = render s' template := by
  cases read : parse? template with
  | none => rw [render_unread s template read, render_unread s' template read]
  | some statements =>
      have inner : s.Agree (evaluator s' (blocksOf statements) maxReruns).setting := by
        rw [evaluator_setting]
        exact agree
      have same : runStmts (evaluator s (blocksOf statements) maxReruns) statements =
          runStmts (evaluator s' (blocksOf statements) maxReruns) statements := by
        rw [evaluator_congr agree, run_stmts_congr inner]
      cases ran : (runStmts (evaluator s' (blocksOf statements) maxReruns) statements).run.run {} with
      | mk result machine =>
          have alike := ran
          rw [← same] at alike
          rw [render_ran s template statements read result machine alike,
            render_ran s' template statements read result machine ran]
          cases result <;> rfl

end SqlWorkflow.Template
