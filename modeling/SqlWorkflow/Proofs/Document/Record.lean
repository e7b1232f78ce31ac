import SqlWorkflow.Document.Record
import SqlWorkflow.Proofs.Results

namespace SqlWorkflow.Document

variable {α : Type}

def Changes (intake : Intake α) (name : String) (value : Document) (change : α → α) : Prop :=
  ∀ record, intake name value record = some (.ok (change record))

-- Each field that is read makes a change of its own, whatever the record is, and the changes that
-- different fields make come to the same in either order.
structure Independent (intake : Intake α) (makes : String → (α → α) → Prop) : Prop where
  reads : ∀ name value record result, intake name value record = some (.ok result) →
    ∃ change, makes name change ∧ Changes intake name value change ∧ result = change record
  apart : ∀ name other change change', name ≠ other → makes name change → makes other change' →
    ∀ record, change (change' record) = change' (change record)

section Fields

variable (name? : Document → Option String) {intake : Intake α}

theorem take_fields_step (seen : List String) (record result : α) (key value : Document)
    (entries : List (Document × Document))
    (read : takeFields name? intake seen record ((key, value) :: entries) = .ok result) :
    ∃ name middle, name? key = some name ∧ name ∉ seen ∧
      intake name value record = some (.ok middle) ∧
      takeFields name? intake (name :: seen) middle entries = .ok result := by
  rw [takeFields] at read
  cases named : name? key with
  | none => rw [named] at read; cases read
  | some name =>
      rw [named] at read
      dsimp only at read
      cases taken : intake name value record with
      | none => rw [taken] at read; cases read
      | some first =>
          rw [taken] at read
          dsimp only at read
          by_cases again : seen.contains name = true
          · rw [if_pos again] at read
            cases read
          · rw [if_neg again] at read
            obtain ⟨middle, rfl, rest⟩ := (except_bind_ok_iff _ _ _).mp read
            exact ⟨name, middle, rfl, by simpa using again, taken, rest⟩

variable {makes : String → (α → α) → Prop} (independent : Independent intake makes)

include independent

theorem take_fields_cons (seen : List String) (record result : α) (key value : Document)
    (entries : List (Document × Document)) :
    takeFields name? intake seen record ((key, value) :: entries) = .ok result ↔
      ∃ name change, name? key = some name ∧ name ∉ seen ∧ makes name change ∧
        Changes intake name value change ∧
        takeFields name? intake (name :: seen) (change record) entries = .ok result := by
  constructor
  · intro read
    obtain ⟨name, middle, named, fresh, taken, rest⟩ :=
      take_fields_step name? seen record result key value entries read
    obtain ⟨change, made, changes, rfl⟩ := independent.reads _ _ _ _ taken
    exact ⟨name, change, named, fresh, made, changes, rest⟩
  · intro ⟨name, change, named, fresh, _, changes, rest⟩
    rw [takeFields, named]
    dsimp only
    rw [changes record]
    dsimp only
    rw [if_neg (by simpa using fresh)]
    exact rest

theorem take_fields_seen (entries : List (Document × Document)) (seen others : List String)
    (same : ∀ name, name ∈ seen ↔ name ∈ others) (record result : α)
    (read : takeFields name? intake seen record entries = .ok result) :
    takeFields name? intake others record entries = .ok result := by
  induction entries generalizing seen others record with
  | nil => exact read
  | cons entry entries ih =>
      obtain ⟨key, value⟩ := entry
      obtain ⟨name, change, named, fresh, made, changes, rest⟩ :=
        (take_fields_cons name? independent _ _ _ _ _ _).mp read
      refine (take_fields_cons name? independent _ _ _ _ _ _).mpr
        ⟨name, change, named, mt (same name).mpr fresh, made, changes, ih _ _ (fun other => ?_) _ rest⟩
      simp only [List.mem_cons, same]

theorem take_fields_perm {entries others : List (Document × Document)}
    (perm : entries.Perm others) (seen : List String) (record result : α)
    (read : takeFields name? intake seen record entries = .ok result) :
    takeFields name? intake seen record others = .ok result := by
  have step := take_fields_cons name? independent
  induction perm generalizing seen record with
  | nil => exact read
  | cons entry _ ih =>
      obtain ⟨name, change, named, fresh, made, changes, rest⟩ := (step _ _ _ _ _ _).mp read
      exact (step _ _ _ _ _ _).mpr ⟨name, change, named, fresh, made, changes, ih _ _ rest⟩
  | swap second first entries =>
      obtain ⟨name, change, named, fresh, made, changes, read⟩ := (step _ _ _ _ _ _).mp read
      obtain ⟨other, change', named', fresh', made', changes', rest⟩ := (step _ _ _ _ _ _).mp read
      have different : other ≠ name := List.ne_of_not_mem_cons fresh'
      rw [independent.apart _ _ _ _ different made' made] at rest
      have rest := take_fields_seen name? independent entries _ (name :: other :: seen)
        (fun text => by simp only [List.mem_cons]; tauto) _ _ rest
      refine (step _ _ _ _ _ _).mpr ⟨other, change', named', List.not_mem_of_not_mem_cons fresh', made', changes', ?_⟩
      refine (step _ _ _ _ _ _).mpr ⟨name, change, named, ?_, made, changes, rest⟩
      exact List.not_mem_cons_of_ne_of_not_mem (Ne.symm different) fresh
  | trans _ _ ihFirst ihSecond => exact ihSecond _ _ (ihFirst _ _ read)

theorem take_fields_known (entries : List (Document × Document)) (seen : List String)
    (record result : α) (read : takeFields name? intake seen record entries = .ok result) :
    ∀ entry ∈ entries, ∃ name change, name? entry.1 = some name ∧ makes name change := by
  induction entries generalizing seen record with
  | nil => intro entry member; cases member
  | cons first entries ih =>
      obtain ⟨name, change, named, _, made, _, rest⟩ :=
        (take_fields_cons name? independent _ _ _ _ _ _).mp read
      intro entry member
      cases List.mem_cons.mp member with
      | inl same => exact same ▸ ⟨name, change, named, made⟩
      | inr later => exact ih _ _ rest entry later

end Fields

end SqlWorkflow.Document
