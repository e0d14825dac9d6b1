/-
# Hearing from everybody

Somebody waits for a set of parties to answer and counts the answers as they come.  Counting is a
proxy: an answer can come from a party that is not waited for, or from one that has answered
already.  Such an answer is surplus.

Everybody has answered exactly when the answers outnumber the surplus ones by the number of the
parties (`all_heard_iff`).
-/
import Mathlib.Data.List.Nodup

namespace Quorum

variable {κ : Type} [DecidableEq κ]

/-- The parties that have not answered. -/
def missing (needed answers : List κ) : List κ := needed.filter (· ∉ answers)

/-- The number of surplus answers. -/
def surplus : List κ → List κ → Nat
  | _, [] => 0
  | needed, k :: answers =>
    if k ∈ needed then surplus (needed.erase k) answers else surplus needed answers + 1

theorem missing_eq_nil_iff {needed answers : List κ} :
    missing needed answers = [] ↔ ∀ k ∈ needed, k ∈ answers := by
  simp [missing]

/-- Every answer is surplus, or is the first of a party that is waited for. -/
theorem surplus_add_length {needed : List κ} (hnd : needed.Nodup) (answers : List κ) :
    surplus needed answers + needed.length = answers.length + (missing needed answers).length := by
  induction answers generalizing needed with
  | nil => simp [surplus, missing]
  | cons k answers ih =>
    rw [surplus]
    split
    · next hk =>
      have ih := ih (hnd.erase k)
      have hlength := List.length_erase_add_one hk
      have hmissing : missing needed (k :: answers) = missing (needed.erase k) answers := by
        rw [hnd.erase_eq_filter, missing, missing, List.filter_filter]
        refine List.filter_congr fun x _ => ?_
        by_cases hx : x = k <;> simp [hx]
      rw [hmissing, List.length_cons]
      omega
    · next hk =>
      have ih := ih hnd
      have hmissing : missing needed (k :: answers) = missing needed answers := by
        refine List.filter_congr fun x hx => ?_
        have hne : x ≠ k := fun h => hk (h ▸ hx)
        simp [hne]
      rw [hmissing, List.length_cons]
      omega

/-- **Everybody is heard** exactly when the answers make up for the surplus ones. -/
theorem all_heard_iff {needed : List κ} (hnd : needed.Nodup) (answers : List κ) :
    (∀ k ∈ needed, k ∈ answers) ↔ surplus needed answers + needed.length ≤ answers.length := by
  have hcount := surplus_add_length hnd answers
  rw [← missing_eq_nil_iff, ← List.length_eq_zero_iff]
  omega

end Quorum
