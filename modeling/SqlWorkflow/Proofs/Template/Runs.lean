import SqlWorkflow.Proofs.Template.Agreement

-- What outlives a rendering, its mentions and its error, is only touched by functions. A property
-- is closed if it holds of every run that keeps away from it and of what is put together from runs
-- that have the property; evaluation puts nothing else together.
namespace SqlWorkflow.Template

def Quiet {α : Type} (run : Run α) : Prop :=
  ∀ machine, (run.run.run machine).2.mentions = machine.mentions

-- A run that neither reads nor changes what outlives the rendering.
def Secluded {α : Type} (run : Run α) : Prop :=
  ∀ machine mentions error, run.run.run { machine with mentions, error } =
    ((run.run.run machine).1, { (run.run.run machine).2 with mentions, error })

structure Closed (P : ∀ {α : Type}, Run α → Prop) : Prop where
  secluded : ∀ {α : Type} (run : Run α), Secluded run → P run
  bind : ∀ {α β : Type} (first : Run β) (next : β → Run α), P first → (∀ value, P (next value)) →
    P (first >>= next)

theorem Secluded.kept {α : Type} {run : Run α} (secluded : Secluded run) (machine : Machine) :
    (run.run.run machine).2.mentions = machine.mentions ∧
      (run.run.run machine).2.error = machine.error := by
  have same := secluded machine machine.mentions machine.error
  exact ⟨congrArg (fun ended => ended.2.mentions) same, congrArg (fun ended => ended.2.error) same⟩

theorem Secluded.quiet {α : Type} {run : Run α} (secluded : Secluded run) : Quiet run :=
  fun machine => (secluded.kept machine).1

theorem run_bind_error {α β : Type} (first : Run β) (next : β → Run α) (machine after : Machine)
    (cause : TemplateError) (stopped : first.run.run machine = (.error cause, after)) :
    (first >>= next).run.run machine = (.error cause, after) := by
  rw [ExceptT.run_bind, StateT.run_bind, stopped]
  rfl

theorem run_bind_ok {α β : Type} (first : Run β) (next : β → Run α) (machine after : Machine)
    (value : β) (went : first.run.run machine = (.ok value, after)) :
    (first >>= next).run.run machine = (next value).run.run after := by
  rw [ExceptT.run_bind, StateT.run_bind, went]
  rfl

def Commutes (change : Machine → Machine) {α : Type} (run : Run α) : Prop :=
  ∀ machine, run.run.run (change machine) =
    ((run.run.run machine).1, change (run.run.run machine).2)

theorem commutes_bind (change : Machine → Machine) {α β : Type} (first : Run β)
    (next : β → Run α) (commutesFirst : Commutes change first)
    (commutesNext : ∀ value, Commutes change (next value)) : Commutes change (first >>= next) := by
  intro machine
  have moved := commutesFirst machine
  cases went : first.run.run machine with
  | mk result after =>
      rw [went] at moved
      cases result with
      | error cause =>
          rw [run_bind_error first next _ _ cause moved,
            run_bind_error first next machine after cause went]
      | ok value =>
          rw [run_bind_ok first next _ _ value moved,
            run_bind_ok first next machine after value went]
          exact commutesNext value after

theorem secluded_closed : Closed Secluded where
  secluded _ secluded := secluded
  bind first next secludedFirst secludedNext machine mentions error :=
    commutes_bind (fun machine => { machine with mentions, error }) first next
      (fun machine => secludedFirst machine mentions error)
      (fun value machine => secludedNext value machine mentions error) machine

@[simp]
theorem secluded_pure {α : Type} (value : α) : Secluded (pure value : Run α) :=
  fun _ _ _ => rfl

@[simp]
theorem secluded_fault {α : Type} : Secluded (Run.fault : Run α) :=
  fun _ _ _ => rfl

@[simp]
theorem secluded_or_fault {α : Type} (value : Option α) : Secluded (Run.orFault value) := by
  cases value with
  | none => exact secluded_fault
  | some value => exact secluded_pure value

@[simp]
theorem secluded_new_cell : Secluded Run.newCell :=
  fun _ _ _ => rfl

@[simp]
theorem secluded_store (id : Nat) (name : String) (value : Value) : Secluded (Run.store id name value) :=
  fun _ _ _ => rfl

@[simp]
theorem secluded_opened (value : Value) : Secluded (Run.opened value) := by
  cases value <;> exact fun _ _ _ => rfl

@[simp]
theorem secluded_push (frame : Frame) : Secluded (Run.push frame) :=
  fun _ _ _ => rfl

@[simp]
theorem secluded_pop : Secluded Run.pop :=
  fun _ _ _ => rfl

@[simp]
theorem secluded_change_top (change : Frame → Frame) : Secluded (Run.changeTop change) :=
  fun _ _ _ => rfl

@[simp]
theorem secluded_find (setting : Setting) (name : String) : Secluded (Run.find? setting name) :=
  fun _ _ _ => rfl

@[simp]
theorem secluded_made (text : String) : Secluded (Run.made text) :=
  fun _ _ _ => rfl

@[simp]
theorem secluded_recursion : Secluded recursion? :=
  fun _ _ _ => rfl

section Closure

variable {P : ∀ {α : Type}, Run α → Prop} (closed : Closed P)

include closed

theorem Closed.read {α : Type} (next : Machine → Run α)
    (blind : ∀ machine mentions error, next { machine with mentions, error } = next machine)
    (each : ∀ machine, P (next machine)) : P (get >>= next) := by
  let view : Run Machine := do return { (← get) with mentions := [], error := none }
  have same : (get >>= next : Run α) = view >>= next := by
    funext machine
    have seen : (view >>= next).run.run machine =
        (next { machine with mentions := [], error := none }).run.run machine := rfl
    exact (congrArg (fun run : Run α => run.run.run machine) (blind machine [] none)).symm
  rw [same]
  exact closed.bind _ _ (closed.secluded view fun _ _ _ => rfl) each

theorem Closed.for_in {α β : Type} (items : List α) (body : α → β → Run (ForInStep β))
    (each : ∀ item state, P (body item state)) (start : β) : P (forIn items start body) := by
  induction items generalizing start with
  | nil => exact closed.secluded _ (secluded_pure start)
  | cons item items ih =>
      rw [List.forIn_cons]
      refine closed.bind _ _ (each item start) fun step => ?_
      cases step with
      | done state => exact closed.secluded _ (secluded_pure state)
      | yield state => exact ih state

theorem Closed.fold {α β : Type} (items : List α) (step : β → α → Run β)
    (each : ∀ state item, P (step state item)) (start : β) : P (items.foldlM step start) := by
  induction items generalizing start with
  | nil => exact closed.secluded _ (secluded_pure start)
  | cons item items ih =>
      rw [List.foldlM_cons]
      exact closed.bind _ _ (each start item) ih

theorem Closed.filter {α : Type} (items : List α) (test : α → Run Bool)
    (each : ∀ item, P (test item)) : P (items.filterM test) := by
  have onward (kept : List α) : P (items.filterAuxM test kept) := by
    induction items generalizing kept with
    | nil => exact closed.secluded _ (secluded_pure kept)
    | cons item items ih => exact closed.bind _ _ (each item) fun keep => ih _
  exact closed.bind _ _ (onward []) fun kept => closed.secluded _ (secluded_pure kept.reverse)

end Closure

@[simp]
theorem secluded_bind_name (name : String) (value : Value) : Secluded (Run.bindName name value) := by
  unfold Run.bindName
  refine secluded_closed.read _ (fun _ _ _ => rfl) fun machine => ?_
  dsimp only
  split
  · exact secluded_closed.bind _ _ (secluded_store _ _ _) fun _ => secluded_change_top _
  · exact secluded_change_top _

@[simp]
theorem secluded_enclose : Secluded Run.enclose := by
  unfold Run.enclose
  refine secluded_closed.read _ (fun _ _ _ => rfl) fun machine => ?_
  dsimp only
  split
  · exact fun _ _ _ => rfl
  · exact fun _ _ _ => rfl

@[simp]
theorem secluded_truth (value : Value) : Secluded (Run.truth value) := by
  unfold Run.truth
  split
  · exact secluded_fault
  · exact secluded_closed.bind _ _ (secluded_opened value) fun _ => secluded_pure _

@[simp]
theorem secluded_items_of (value : Value) : Secluded (Run.itemsOf value) :=
  secluded_closed.bind _ _ (secluded_opened value) fun _ => secluded_or_fault _

@[simp]
theorem secluded_printed (value : Value) : Secluded (Run.printed value) := by
  unfold Run.printed
  split
  · exact secluded_fault
  · exact secluded_closed.bind _ _ (secluded_opened value) fun _ => fun _ _ _ => rfl

@[simp]
theorem secluded_assign (pattern : Pattern) (value : Value) : Secluded (Run.assign pattern value) := by
  apply Run.assign.induct (fun patterns values => Secluded (Run.assign.assignAll patterns values))
    (fun pattern value => Secluded (Run.assign pattern value))
  case case1 =>
    intro name value
    rw [Run.assign]
    exact secluded_bind_name name value
  case case2 =>
    intro patterns value lists maps
    rw [Run.assign]
    refine secluded_closed.bind _ _ (secluded_opened value) fun value => ?_
    split
    · exact lists _
    · exact maps _
    · exact secluded_fault
  case case3 => exact secluded_pure ()
  case case4 =>
    intro pattern patterns item items first rest
    rw [Run.assign.assignAll]
    exact secluded_closed.bind _ _ first fun _ => rest
  case case5 =>
    intro patterns values none more
    rw [Run.assign.assignAll]
    · exact secluded_fault
    · exact none
    · exact more

@[simp]
theorem secluded_operate (op : BinaryOp) (a b : Value) : Secluded (operate op a b) := by
  unfold operate
  refine secluded_closed.bind _ _ (secluded_opened a) fun a => ?_
  refine secluded_closed.bind _ _ (secluded_opened b) fun b => ?_
  cases op with
  | contained =>
      dsimp only
      split
      · exact secluded_fault
      · exact secluded_closed.bind _ _ (secluded_or_fault _) fun _ => secluded_pure _
  | _ => simp

@[simp]
theorem secluded_found (object : Value) (result : Option Value) : Secluded (found object result) := by
  unfold found
  split
  · exact secluded_pure _
  · split <;> simp

@[simp]
theorem secluded_checked (name : String) (value : Value) (args : List Value) :
    Secluded (checked name value args) := by
  unfold checked
  split
  · exact secluded_pure _
  · exact secluded_pure _
  · refine secluded_closed.bind _ _ (secluded_opened value) fun value => ?_
    exact secluded_closed.bind _ _ (secluded_or_fault _) fun _ => secluded_pure _

@[simp]
theorem secluded_filtered (name : String) (value : Value) (args : List Value) :
    Secluded (filtered name value args) :=
  secluded_closed.bind _ _ (secluded_opened value) fun _ => secluded_or_fault _

@[simp]
theorem secluded_start_depth : Secluded startDepth :=
  secluded_closed.bind _ _ secluded_recursion fun _ => secluded_pure _

@[simp]
theorem secluded_assign_to (object : Value) (name : String) (value : Value) :
    Secluded (assignTo object name value) := by
  unfold assignTo
  split
  · exact secluded_closed.bind _ _ (secluded_store _ _ _) fun _ => secluded_pure _
  · exact secluded_fault

@[simp]
theorem secluded_namespace (args : List Value) : Secluded (namespaceOf args) := by
  unfold namespaceOf
  dsimp only
  -- Whatever entries the arguments give, a new cell is filled with them.
  split
  all_goals
    refine secluded_closed.bind _ _ (by simp) fun entries => ?_
    refine secluded_closed.bind _ _ secluded_new_cell fun id => ?_
    refine secluded_closed.bind _ _ ?_ fun _ => secluded_pure _
    refine secluded_closed.for_in _ _ (fun entry _ => ?_) _
    split
    · exact secluded_closed.bind _ _ (secluded_store _ _ _) fun _ => secluded_pure _
    · exact secluded_closed.bind _ _ secluded_fault fun _ => secluded_pure _

section Evaluation

variable {P : ∀ {α : Type}, Run α → Prop} (closed : Closed P) (e : Evaluator)
  (functions : ∀ name args, P (callFunction e.setting name args))
  (reruns : ∀ part args, P (e.rerun part args))

include closed functions reruns

theorem Closed.call_value (function : Value) (args : List Value) :
    P (callValue e function args) := by
  cases function with
  | function name => exact functions name args
  | procedure decl closure => exact reruns _ args
  | _ => exact closed.secluded _ secluded_fault

theorem Closed.call_method (object : Value) (name : String) (args : List Value) :
    P (callMethod e object name args) := by
  unfold callMethod
  split
  · split
    · exact closed.secluded _ secluded_fault
    · exact closed.secluded _ (secluded_pure _)
  · exact closed.secluded _ fun _ _ _ => rfl
  · refine closed.bind _ _ (closed.secluded _ (secluded_opened _)) fun object => ?_
    split
    · exact closed.call_value e functions reruns _ args
    · exact closed.secluded _ secluded_fault

theorem Closed.call_name (name : String) (args : List Value) : P (callName e name args) := by
  unfold callName
  split
  · exact closed.secluded _ secluded_fault
  · split
    · refine closed.bind _ _ (closed.secluded _ secluded_recursion) fun recursion => ?_
      split
      · exact reruns _ _
      · exact closed.secluded _ secluded_fault
    · refine closed.bind _ _ (closed.secluded _ (secluded_find _ name)) fun value => ?_
      split
      · exact closed.call_value e functions reruns _ args
      · exact closed.secluded _ secluded_fault

omit functions in
theorem Closed.call_block (name : String) : P (callBlock e name) := by
  unfold callBlock
  split
  · exact reruns _ _
  · exact closed.secluded _ secluded_fault

theorem Closed.eval :
    (∀ expr, P (evalExpr e expr)) ∧
    (∀ args, P (evalNames e args)) ∧
    (∀ args, P (evalPlaces e args)) ∧
    (∀ expr absent, P (evalOption e expr absent)) ∧
    (∀ entries, P (evalEntries e entries)) ∧
    ∀ items, P (evalItems e items) := by
  have named := closed.call_name e functions reruns
  have method := closed.call_method e functions reruns
  have value := closed.call_value e functions reruns
  have block := closed.call_block e reruns
  apply evalExpr.mutual_induct
  all_goals
    intros
    simp only [evalExpr, evalNames, evalPlaces, evalOption, evalEntries, evalItems]
    repeat' first
      | simp only [*]
      | with_reducible refine closed.read _ (fun _ _ _ => rfl) fun _ => ?_
      | with_reducible refine closed.bind _ _ ?_ fun _ => ?_
      | split
      | (refine closed.secluded _ ?_; simp)

theorem Closed.eval_args (args : List Arg) (caller : Option Value) :
    P (evalArgs e args caller) := by
  obtain ⟨-, names, places, -⟩ := closed.eval e functions reruns
  refine closed.bind _ _ (places args) fun places => ?_
  exact closed.bind _ _ (names args) fun names => closed.secluded _ (secluded_pure _)

theorem Closed.eval_call (function : Expr) (args : List Arg) (caller : Option Value) :
    P (evalCall e function args caller) := by
  have expr := (closed.eval e functions reruns).1
  have given := closed.eval_args e functions reruns args caller
  unfold evalCall
  split
  · exact closed.bind _ _ given fun args => closed.call_name e functions reruns _ args
  · exact closed.call_block e reruns _
  · refine closed.bind _ _ (expr _) fun object => ?_
    exact closed.bind _ _ given fun args => closed.call_method e functions reruns object _ args
  · refine closed.bind _ _ (expr _) fun function => ?_
    exact closed.bind _ _ given fun args => closed.call_value e functions reruns function args

theorem Closed.eval_filters (filters : List FilterCall) (value : Value) :
    P (evalFilters e filters value) :=
  closed.fold filters _ (fun value filter => closed.bind _ _
    (closed.eval_args e functions reruns filter.args none)
    fun args => closed.secluded _ (secluded_filtered _ value args)) value

end Evaluation

section Parts

variable {P : ∀ {α : Type}, Run α → Prop} (closed : Closed P)

include closed

theorem Closed.visit (id depth : Nat) (length : Option Nat) (target : Pattern) (body : Run String)
    (inner : P body) (index : Nat) (previous : Value) (items : List Value) :
    P (visit id depth length target body index previous items) := by
  induction items generalizing index previous with
  | nil => exact closed.secluded _ (secluded_pure "")
  | cons item items ih =>
      refine closed.bind _ _ (closed.secluded _ (secluded_change_top _)) fun _ => ?_
      refine closed.bind _ _ (closed.secluded _ (secluded_assign target item)) fun _ => ?_
      refine closed.bind _ _ inner fun text => ?_
      exact closed.bind _ _ (ih _ item) fun _ => closed.secluded _ (secluded_pure _)

theorem Closed.run_loop (target : Pattern) (recursion : Option Rerun) (body : Run String)
    (inner : P body) (items : Value) : P (runLoop target recursion body items) := by
  refine closed.bind _ _ (closed.secluded _ (secluded_items_of items)) fun values => ?_
  refine closed.bind _ _ (closed.secluded _ secluded_start_depth) fun depth => ?_
  refine closed.bind _ _ (closed.secluded _ secluded_new_cell) fun id => ?_
  refine closed.bind _ _ (closed.secluded _ (secluded_push _)) fun _ => ?_
  refine closed.bind _ _ (closed.secluded _ (secluded_opened items)) fun items => ?_
  refine closed.bind _ _ (closed.visit id depth _ target body inner 0 _ values) fun text => ?_
  exact closed.bind _ _ (closed.secluded _ secluded_pop) fun _ => closed.secluded _ (secluded_pure text)

theorem Closed.keep_items (target : Pattern) (condition : Run Value) (inner : P condition)
    (items : Value) : P (keepItems target condition items) := by
  refine closed.bind _ _ (closed.secluded _ (secluded_items_of items)) fun values => ?_
  refine closed.bind _ _ (closed.secluded _ (secluded_push _)) fun _ => ?_
  refine closed.bind _ _ (closed.filter values _ fun item => ?_) fun kept => ?_
  · refine closed.bind _ _ (closed.secluded _ (secluded_assign target item)) fun _ => ?_
    exact closed.bind _ _ inner fun value => closed.secluded _ (secluded_truth value)
  · exact closed.bind _ _ (closed.secluded _ secluded_pop) fun _ => closed.secluded _ (secluded_pure _)

theorem Closed.bind_params (default : Expr → Run Value) (inner : ∀ expr, P (default expr))
    (params : List (Pattern × Value × Option Expr)) : P (bindParams default params) := by
  induction params with
  | nil => exact closed.secluded _ (secluded_pure ())
  | cons param params ih =>
      refine closed.bind _ _ ih fun _ => ?_
      split
      · exact closed.bind _ _ (inner _) fun value => closed.secluded _ (secluded_assign _ value)
      · exact closed.secluded _ (secluded_assign _ _)

theorem Closed.run_procedure (default : Expr → Run Value) (run : List Stmt → Run String)
    (inner : ∀ expr, P (default expr)) (body : ∀ stmts, P (run stmts)) (decl : Procedure)
    (closure : Nat) (args : List Value) : P (runProcedure default run decl closure args) := by
  obtain ⟨name, params, defaults, stmts⟩ := decl
  unfold runProcedure
  dsimp only
  refine closed.bind _ _ (closed.secluded _ (secluded_or_fault _)) fun matched => ?_
  refine closed.read _ (fun _ _ _ => rfl) fun machine => ?_
  refine closed.bind _ _ (closed.secluded _ fun _ _ _ => rfl) fun _ => ?_
  have rest : P (do
      bindParams default (withDefaults params matched.1 defaults)
      let text ← run stmts
      modify fun after => { after with frames := machine.frames }
      Run.made text) := by
    refine closed.bind _ _ (closed.bind_params default inner _) fun _ => ?_
    refine closed.bind _ _ (body stmts) fun text => ?_
    exact closed.secluded _ fun _ _ _ => rfl
  split
  · exact closed.bind _ _ (closed.secluded _ (secluded_bind_name _ _)) fun _ => rest
  · exact rest

end Parts

section Statements

variable {P : ∀ {α : Type}, Run α → Prop} (closed : Closed P) (e : Evaluator)
  (functions : ∀ name args, P (callFunction e.setting name args))
  (reruns : ∀ part args, P (e.rerun part args))

include closed functions reruns

theorem Closed.run :
    (∀ stmt, P (runStmt e stmt)) ∧ ∀ stmts, P (runStmts e stmts) := by
  have expr := (closed.eval e functions reruns).1
  have call := closed.eval_call e functions reruns
  have filters := closed.eval_filters e functions reruns
  have loop := closed.run_loop
  have keep := closed.keep_items
  have escape (on : Bool) : P (modify fun machine => { machine with escaping := on }) :=
    closed.secluded _ fun _ _ _ => rfl
  have scope (bindings : List (Pattern × Expr)) : P (forIn bindings PUnit.unit fun binding _ => do
      Run.assign binding.1 (← evalExpr e binding.2)
      pure (ForInStep.yield PUnit.unit)) := by
    refine closed.for_in bindings _ (fun binding _ => ?_) _
    refine closed.bind _ _ (expr _) fun value => ?_
    refine closed.bind _ _ (closed.secluded _ (secluded_assign _ value)) fun _ => ?_
    exact closed.secluded _ (secluded_pure _)
  apply runStmt.mutual_induct
  all_goals
    intros
    simp only [runStmt, runStmts]
    repeat' first
      | simp only [*]
      | with_reducible refine closed.read _ (fun _ _ _ => rfl) fun _ => ?_
      | with_reducible refine closed.bind _ _ ?_ fun _ => ?_
      | split
      | (refine closed.secluded _ ?_; simp)

end Statements

section Templates

variable {P : ∀ {α : Type}, Run α → Prop} (closed : Closed P) (setting : Setting)
  (functions : ∀ name args, P (callFunction setting name args))
  (blocks : List (String × List Stmt))

include functions

theorem evaluator_functions (depth : Nat) (name : String) (args : List Value) :
    P (callFunction (evaluator setting blocks depth).setting name args) := by
  rw [evaluator_setting]
  exact functions name args

include closed

-- What is run again is run by an evaluator with fewer runs inside each other.
theorem Closed.reruns (depth : Nat) (part : Rerun) (args : List Value) :
    P ((evaluator setting blocks depth).rerun part args) := by
  induction depth generalizing part args with
  | zero => exact closed.secluded _ secluded_fault
  | succ depth ih =>
      have inner := evaluator_functions setting functions blocks depth
      have expr := (closed.eval _ inner ih).1
      have body := (closed.run _ inner ih).2
      rw [evaluator]
      dsimp only
      split
      · exact closed.run_procedure _ _ expr body _ _ _
      · refine closed.bind _ _ (closed.run_loop _ _ _ (body _) _) fun text => ?_
        exact closed.secluded _ (secluded_made text)
      · refine closed.bind _ _ (closed.secluded _ (secluded_push _)) fun _ => ?_
        refine closed.bind _ _ (body _) fun text => ?_
        refine closed.bind _ _ (closed.secluded _ secluded_pop) fun _ => ?_
        exact closed.secluded _ (secluded_made text)
      · exact closed.secluded _ secluded_fault

theorem Closed.evaluate (depth : Nat) (stmts : List Stmt) :
    P (runStmts (evaluator setting blocks depth) stmts) :=
  (closed.run _ (evaluator_functions setting functions blocks depth)
    (closed.reruns setting functions blocks depth)).2 stmts

end Templates

end SqlWorkflow.Template
