import Mathlib.Data.List.Forall2
import SqlWorkflow.Compile

namespace SqlWorkflow

section Results

variable {ε δ α β : Type}

theorem except_bind_ok_iff (first : Except ε β) (next : β → Except ε α) (value : α) :
    first >>= next = .ok value ↔ ∃ middle, first = .ok middle ∧ next middle = .ok value := by
  cases first with
  | error cause => simp [bind, Except.bind]
  | ok middle => simp [bind, Except.bind]

theorem except_bind_error_iff (first : Except ε β) (next : β → Except ε α) (cause : ε) :
    first >>= next = .error cause ↔
      first = .error cause ∨ ∃ middle, first = .ok middle ∧ next middle = .error cause := by
  cases first with
  | error cause => simp [bind, Except.bind]
  | ok middle => simp [bind, Except.bind]

theorem map_error_ok_iff (f : ε → δ) (result : Except ε α) (value : α) :
    result.mapError f = .ok value ↔ result = .ok value := by
  cases result with
  | error cause => simp [Except.mapError]
  | ok value => simp [Except.mapError]

theorem map_error_error_iff (f : ε → δ) (result : Except ε α) (failure : δ) :
    result.mapError f = .error failure ↔ ∃ cause, result = .error cause ∧ f cause = failure := by
  cases result with
  | error cause => simp [Except.mapError]
  | ok value => simp [Except.mapError]

theorem except_map_ok_iff (f : β → α) (result : Except ε β) (value : α) :
    result.map f = .ok value ↔ ∃ middle, result = .ok middle ∧ f middle = value := by
  cases result with
  | error cause => simp [Except.map]
  | ok middle => simp [Except.map]

theorem except_map_error_iff (f : β → α) (result : Except ε β) (cause : ε) :
    result.map f = .error cause ↔ result = .error cause := by
  cases result with
  | error cause => simp [Except.map]
  | ok middle => simp [Except.map]

-- Cases of success and of failure that leave nothing out are exactly what a step gives.
theorem outcome_iff (result : Except ε α) (good : α → Prop) (bad : ε → Prop)
    (given : ∀ value, good value → result = .ok value)
    (refused : ∀ cause, bad cause → result = .error cause)
    (covered : (∃ value, good value) ∨ ∃ cause, bad cause) :
    (∀ value, result = .ok value ↔ good value) ∧ ∀ cause, result = .error cause ↔ bad cause := by
  rcases covered with ⟨value, holds⟩ | ⟨cause, holds⟩
  · have ended := given value holds
    refine ⟨fun other => ⟨fun same => ?_, given other⟩, fun cause => ⟨fun failed => ?_, ?_⟩⟩
    · obtain rfl := Except.ok.inj (ended.symm.trans same)
      exact holds
    · cases ended.symm.trans failed
    · exact refused cause
  · have ended := refused cause holds
    refine ⟨fun value => ⟨fun same => ?_, given value⟩, fun other => ⟨fun failed => ?_, ?_⟩⟩
    · cases ended.symm.trans same
    · obtain rfl := Except.error.inj (ended.symm.trans failed)
      exact holds
    · exact refused other

theorem to_option_some (result : Except ε α) (value : α) (some : result.toOption = some value) :
    result = .ok value := by
  cases result with
  | error cause => cases some
  | ok other => exact congrArg Except.ok (Option.some.inj some)

theorem map_m_ok (f : α → Except ε β) (items : List α) (results : List β)
    (mapped : items.mapM f = .ok results) :
    List.Forall₂ (fun item result => f item = .ok result) items results := by
  induction items generalizing results with
  | nil =>
      obtain rfl := Except.ok.inj mapped
      exact .nil
  | cons item items ih =>
      rw [List.mapM_cons] at mapped
      obtain ⟨result, first, mapped⟩ := (except_bind_ok_iff _ _ _).mp mapped
      obtain ⟨others, rest, mapped⟩ := (except_bind_ok_iff _ _ _).mp mapped
      obtain rfl := Except.ok.inj mapped
      exact .cons first (ih others rest)

end Results

namespace Compile

variable {α β : Type} (f : α → Except FileMessage β)

def accepted (x : α) : List β :=
  (f x).toOption.toList

def refused (x : α) : List FileMessage :=
  match f x with
  | .ok _ => []
  | .error message => [message]

theorem separate_accepted (items : List α) :
    (separate (items.map f)).1 = items.flatMap (accepted f) := by
  rw [separate, List.filterMap_map, List.filterMap_eq_flatMap_toList]
  rfl

theorem separate_refused (items : List α) :
    (separate (items.map f)).2 = items.flatMap (refused f) := by
  rw [separate]
  dsimp only
  rw [List.filterMap_map, List.filterMap_eq_flatMap_toList]
  refine congrArg (List.flatMap · items) (funext fun x => ?_)
  rw [Function.comp, refused]
  cases f x <;> rfl

theorem mem_accepted (x : α) (y : β) : y ∈ accepted f x ↔ f x = .ok y := by
  unfold accepted
  cases f x <;> simp [Except.toOption, eq_comm]

theorem mem_refused (x : α) (message : FileMessage) :
    message ∈ refused f x ↔ f x = .error message := by
  unfold refused
  cases f x <;> simp [eq_comm]

theorem separate_perm {items others : List α} (perm : items.Perm others) :
    (separate (items.map f)).1.Perm (separate (others.map f)).1 ∧
      (separate (items.map f)).2.Perm (separate (others.map f)).2 := by
  simp only [separate_accepted, separate_refused]
  exact ⟨perm.flatMap_right _, perm.flatMap_right _⟩

end Compile

end SqlWorkflow
