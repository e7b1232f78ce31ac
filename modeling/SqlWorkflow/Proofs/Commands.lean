import SqlWorkflow.Command.Outcome
import SqlWorkflow.Proofs.GraphJson
import SqlWorkflow.Proofs.Plan
import SqlWorkflow.Proofs.Results

namespace SqlWorkflow

-- Without errors there are no cycles, so putting a selection in order never fails.
theorem Graph.compiled_plan_iff (project : Project) (run : RunOptions) :
    (∃ plan, project.compile.plan run = .ok plan) ↔
      project.compile.hasErrors = false ∧ ∀ name ∈ run.actions, project.compile.Accepts name := by
  have wellFormed (free : project.compile.hasErrors = false) : project.compile.WellFormed :=
    ((error_free_iff _ _ _ _).mp free).2
  simp only [plan_ok_iff]
  constructor
  · rintro ⟨_, free, order, selected, _⟩
    exact ⟨free, (select_ok_iff _ (wellFormed free) run).mp ⟨order, selected⟩⟩
  · rintro ⟨free, accepted⟩
    obtain ⟨order, selected⟩ := (select_ok_iff _ (wellFormed free) run).mpr accepted
    exact ⟨_, free, order, selected, rfl⟩

namespace Command

section Commands

variable (premises : Premises) (path : String)

theorem loaded_compiled (settings : SettingsFlags) (graph : Graph)
    (loaded : premises.graph path settings = .ok graph) : ∃ project : Project,
      project.compile = graph := by
  obtain ⟨overrides, _, loaded⟩ := (except_bind_ok_iff _ _ _).mp loaded
  obtain ⟨project, _, loaded⟩ := (except_bind_ok_iff _ _ _).mp loaded
  exact ⟨project, Except.ok.inj loaded⟩

theorem compile_of_unloaded (flags : CompileFlags) (failure : Failure)
    (failed : premises.graph path flags.settings = .error failure) :
    compileOutcome premises path flags = .failing failure := by
  rw [compileOutcome, failed]
  rfl

theorem compile_of_loaded (flags : CompileFlags) (graph : Graph)
    (loaded : premises.graph path flags.settings = .ok graph) :
    (compileOutcome premises path flags).exitCode =
        (if graph.hasErrors && !flags.allowErrors then 1 else 0) ∧
      (compileOutcome premises path flags).output =
        if flags.json then textLine (graph.toJson.pretty 0) else graph.summary := by
  rw [compileOutcome, loaded]
  dsimp only [bind, Except.bind]
  cases first : graph.firstError? with
  | none =>
      rw [graph.first_error_none_iff.mp first]
      exact ⟨rfl, rfl⟩
  | some message =>
      have faulty : graph.hasErrors = true := by
        rw [← Bool.not_eq_false, ← graph.first_error_none_iff, first]
        exact nofun
      rw [faulty]
      cases flags.allowErrors with
      | false => exact ⟨rfl, rfl⟩
      | true => exact ⟨rfl, rfl⟩

theorem compile_succeeds_iff (flags : CompileFlags) (strict : flags.allowErrors = false) :
    (compileOutcome premises path flags).exitCode = 0 ↔
      ∃ graph, premises.graph path flags.settings = .ok graph ∧ graph.hasErrors = false := by
  cases loaded : premises.graph path flags.settings with
  | error failure =>
      rw [compile_of_unloaded premises path flags failure loaded]
      refine iff_of_false Nat.one_ne_zero ?_
      rintro ⟨graph, found, _⟩
      cases found
  | ok graph =>
      rw [(compile_of_loaded premises path flags graph loaded).1, strict]
      constructor
      · intro ended
        exact ⟨graph, rfl, by simpa using ended⟩
      · rintro ⟨_, found, free⟩
        obtain rfl := Except.ok.inj found
        simp [free]

theorem live_run_fails (verbose : Bool) (flags : RunFlags) (live : flags.dryRun = false) :
    runOutcome premises verbose path flags = .failing liveRunFailure := by
  rw [runOutcome, live]
  rfl

theorem run_of_unloaded (verbose : Bool) (flags : RunFlags) (dry : flags.dryRun = true)
    (failure : Failure) (failed : premises.graph path flags.settings = .error failure) :
    runOutcome premises verbose path flags = .failing failure := by
  rw [runOutcome, dry, failed]
  rfl

theorem run_of_refused (verbose : Bool) (flags : RunFlags) (dry : flags.dryRun = true)
    (graph : Graph) (loaded : premises.graph path flags.settings = .ok graph) (cause : PlanError)
    (refused : graph.plan flags.selection = .error cause) :
    (runOutcome premises verbose path flags).exitCode = 1 := by
  rw [runOutcome, dry, loaded]
  dsimp only [bind, Except.bind]
  rw [refused]
  rfl

theorem run_of_planned (verbose : Bool) (flags : RunFlags) (dry : flags.dryRun = true)
    (graph : Graph) (loaded : premises.graph path flags.settings = .ok graph) (plan : Plan)
    (planned : graph.plan flags.selection = .ok plan) :
    (runOutcome premises verbose path flags).exitCode = 0 ∧
      (runOutcome premises verbose path flags).output =
        if flags.json then textLine (plan.toJson.pretty 0) else plan.summary verbose := by
  rw [runOutcome, dry, loaded]
  dsimp only [bind, Except.bind]
  rw [planned]
  exact ⟨rfl, rfl⟩

theorem run_succeeds_iff (verbose : Bool) (flags : RunFlags) (dry : flags.dryRun = true) :
    (runOutcome premises verbose path flags).exitCode = 0 ↔
      ∃ graph plan, premises.graph path flags.settings = .ok graph ∧
        graph.plan flags.selection = .ok plan := by
  cases loaded : premises.graph path flags.settings with
  | error failure =>
      rw [run_of_unloaded premises path verbose flags dry failure loaded]
      refine iff_of_false Nat.one_ne_zero ?_
      rintro ⟨graph, _, found, _⟩
      cases found
  | ok graph =>
      cases planned : graph.plan flags.selection with
      | error cause =>
          rw [run_of_refused premises path verbose flags dry graph loaded cause planned]
          refine iff_of_false Nat.one_ne_zero ?_
          rintro ⟨_, plan, found, success⟩
          obtain rfl := Except.ok.inj found
          cases planned.symm.trans success
      | ok plan =>
          refine iff_of_true ?_ ⟨graph, plan, rfl, planned⟩
          exact (run_of_planned premises path verbose flags dry graph loaded plan planned).1

-- A reader of the printed text has the graph again, and not only some text about it.
theorem printed_graph_read (graph : Graph) :
    (Json.parse? (textLine (graph.toJson.pretty 0))).bind Graph.ofJson? = some graph := by
  have read : Json.parse? (textLine (graph.toJson.pretty 0)) = some graph.toJson :=
    Json.parse_pretty _ (graph.printable (Json.maxDepth - 5)) ['\n']
      (List.forall_mem_singleton.mpr rfl)
  rw [read]
  exact Graph.json_reads graph _ (.same _)

theorem printed_plan_read (plan : Plan) :
    Json.parse? (textLine (plan.toJson.pretty 0)) = some plan.toJson :=
  Json.parse_pretty _ (plan.printable (Json.maxDepth - 5)) ['\n']
    (List.forall_mem_singleton.mpr rfl)

-- A loaded graph is a compiled one, so its plan fails for what both commands can see.
theorem planned_iff (settings : SettingsFlags) (run : RunOptions) :
    (∃ graph plan, premises.graph path settings = .ok graph ∧ graph.plan run = .ok plan) ↔
      (∃ graph, premises.graph path settings = .ok graph ∧ graph.hasErrors = false) ∧
        ∃ graph, premises.graph path settings = .ok graph ∧
          ∀ name ∈ run.actions, graph.Accepts name := by
  constructor
  · rintro ⟨graph, plan, loaded, planned⟩
    obtain ⟨project, rfl⟩ := loaded_compiled premises path settings graph loaded
    obtain ⟨free, accepted⟩ := (Graph.compiled_plan_iff project run).mp ⟨plan, planned⟩
    exact ⟨⟨_, loaded, free⟩, _, loaded, accepted⟩
  · rintro ⟨⟨graph, loaded, free⟩, other, found, accepted⟩
    obtain rfl := Except.ok.inj (loaded.symm.trans found)
    obtain ⟨project, rfl⟩ := loaded_compiled premises path settings graph loaded
    obtain ⟨plan, planned⟩ := (Graph.compiled_plan_iff project run).mpr ⟨free, accepted⟩
    exact ⟨_, plan, loaded, planned⟩

theorem compile_run_agree (settings : SettingsFlags) (compile : CompileFlags) (run : RunFlags)
    (verbose : Bool) :
    let compiled := compileOutcome premises path { compile with settings, allowErrors := false }
    let ran := runOutcome premises verbose path { run with settings, dryRun := true }
    (ran.exitCode = 0 ↔ compiled.exitCode = 0 ∧
      ∃ graph, premises.graph path settings = .ok graph ∧
        ∀ name ∈ run.selection.actions, graph.Accepts name) ∧
    (ran.exitCode = 0 → compiled.exitCode = 0 →
      ∃ graph plan, premises.graph path settings = .ok graph ∧
        graph.plan run.selection = .ok plan ∧ plan.settings = graph.settings ∧
        compiled.output =
          (if compile.json then textLine (graph.toJson.pretty 0) else graph.summary) ∧
        ran.output = if run.json then textLine (plan.toJson.pretty 0) else plan.summary verbose) ∧
    (∀ graph, premises.graph path settings = .ok graph →
      let printed := compileOutcome premises path { compile with settings, json := true }
      printed.output = textLine (graph.toJson.pretty 0) ∧
        printed.exitCode = if graph.hasErrors && !compile.allowErrors then 1 else 0) ∧
    let live := runOutcome premises verbose path { run with settings, dryRun := false }
    live.exitCode = 1 ∧ live.output = "" := by
  refine ⟨?_, fun planned _ => ?_, ?_, ?_⟩
  · rw [run_succeeds_iff premises path verbose _ rfl, compile_succeeds_iff premises path _ rfl]
    exact planned_iff premises path settings run.selection
  · obtain ⟨graph, plan, loaded, planned⟩ :=
      (run_succeeds_iff premises path verbose _ rfl).mp planned
    obtain ⟨_, _, _, same⟩ := (graph.plan_ok_iff run.selection plan).mp planned
    exact ⟨graph, plan, loaded, planned, by rw [same],
      (compile_of_loaded premises path _ graph loaded).2,
      (run_of_planned premises path verbose _ rfl graph loaded plan planned).2⟩
  · intro graph loaded
    exact (compile_of_loaded premises path _ graph loaded).symm
  · rw [live_run_fails premises path verbose _ rfl]
    exact ⟨rfl, rfl⟩

end Commands

end Command

end SqlWorkflow
