import SqlWorkflow.Proofs.Quoting.Identifiers

-- Quoting keeps all of its text. Two targets are written alike only where the notation leaves out
-- what tells them apart: PostgreSQL drops the database, and BigQuery joins the parts with dots that
-- a part may have as well.
namespace SqlWorkflow

namespace Warehouse

def escaped (text : List Char) : List Char :=
  Text.replaceChar '\x60' ['\\', '\x60'] text

theorem escaped_cons (x : Char) (text : List Char) :
    escaped (x :: text) = (if x = '\x60' then ['\\', '\x60'] else [x]) ++ escaped text :=
  Text.replace_char_cons '\x60' ['\\', '\x60'] x text

theorem escaped_head (text : List Char) : (escaped text).head? ≠ some '\x60' := by
  cases text with
  | nil => simp [escaped, Text.replace_char_nil]
  | cons x text =>
      rw [escaped_cons]
      by_cases quote : x = '\x60'
      · simp [quote]
      · simp [quote]

-- A backslash before a back quote was put there by the escape, since no other back quote is left.
theorem escaped_injective (a b : List Char) (same : escaped a = escaped b) : a = b := by
  have apart (x : Char) (text rest : List Char) (plain : x ≠ '\x60') :
      escaped (x :: text) ≠ ['\\', '\x60'] ++ rest := by
    intro same
    rw [escaped_cons, if_neg plain] at same
    have tails : escaped text = '\x60' :: rest := (List.cons.inj same).2
    exact escaped_head text (by rw [tails]; rfl)
  induction a generalizing b with
  | nil =>
      cases b with
      | nil => rfl
      | cons y b =>
          rw [escaped_cons] at same
          split at same <;> cases same
  | cons x a ih =>
      cases b with
      | nil =>
          rw [escaped_cons] at same
          split at same <;> cases same
      | cons y b =>
          by_cases first : x = '\x60' <;> by_cases second : y = '\x60'
          · rw [escaped_cons, escaped_cons, if_pos first, if_pos second] at same
            rw [first, second, ih b (List.append_cancel_left same)]
          · rw [escaped_cons x, if_pos first] at same
            exact absurd same.symm (apart y b _ second)
          · rw [escaped_cons y, if_pos second] at same
            exact absurd same (apart x a _ first)
          · rw [escaped_cons, escaped_cons, if_neg first, if_neg second] at same
            obtain ⟨heads, tails⟩ := List.cons.inj same
            rw [heads, ih b tails]

theorem quote_back_injective (a b : List Char) (same : quoteBack a = quoteBack b) : a = b :=
  escaped_injective a b (List.append_cancel_right (List.cons.inj same).2)

def Confuses (warehouse : Warehouse) (a b : Target) : Prop :=
  match warehouse with
  | bigQuery => a ≠ b ∧ a.display = b.display
  | snowflake => False
  | postgres => a.database ≠ b.database ∧ a.schema = b.schema ∧ a.name = b.name

theorem quote_eq_iff (warehouse : Warehouse) (a b : Target) :
    warehouse.quote a = warehouse.quote b ↔ a = b ∨ warehouse.Confuses a b := by
  cases warehouse with
  | bigQuery =>
      constructor
      · intro same
        have display := quote_back_injective _ _ (String.ofList_inj.mp same)
        by_cases equal : a = b
        · exact Or.inl equal
        · exact Or.inr ⟨equal, String.toList_inj.mp display⟩
      · rintro (rfl | ⟨_, display⟩)
        · rfl
        · rw [quote, quote, display]
  | snowflake => rw [snowflake_quote_eq_iff, Confuses, or_false]
  | postgres =>
      rw [postgres_quote_eq_iff]
      constructor
      · intro same
        by_cases database : a.database = b.database
        · exact Or.inl (by cases a; cases b; simp_all)
        · exact Or.inr ⟨database, same⟩
      · rintro (rfl | ⟨_, same⟩)
        · exact ⟨rfl, rfl⟩
        · exact same

end Warehouse

end SqlWorkflow
