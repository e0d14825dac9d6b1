/-
# The seen-set loop

Removing duplicates while keeping the order is one loop: a `seen` set, and an element is kept
when its key is not in it.  `keepFirst` is that loop for any key.  What a caller needs from it
is which keys are left (all of them), that no two are equal, and when it drops nothing; how
many elements are left then follows from which keys they are (`length_eq_iff_of_subset`).
-/
import Mathlib.Data.List.Nodup
import Mathlib.Data.List.Perm.Subperm

namespace Python

variable {α β : Type} [DecidableEq β]

/-- The elements whose key occurs for the first time, in order. -/
def keepFirst (key : α → β) (seen : List β) : List α → List α
  | [] => []
  | x :: xs =>
    if key x ∈ seen then keepFirst key seen xs else x :: keepFirst key (key x :: seen) xs

variable {key : α → β}

theorem keepFirst_sublist (xs : List α) (seen : List β) : (keepFirst key seen xs).Sublist xs := by
  induction xs generalizing seen with
  | nil => exact .slnil
  | cons x xs ih =>
    unfold keepFirst
    by_cases h : key x ∈ seen
    · rw [if_pos h]
      exact (ih seen).cons x
    · rw [if_neg h]
      exact (ih (key x :: seen)).cons_cons x

/-- The keys that are left: those of the list that were not seen before it. -/
theorem mem_map_keepFirst {k : β} {xs : List α} {seen : List β} :
    k ∈ (keepFirst key seen xs).map key ↔ k ∈ xs.map key ∧ k ∉ seen := by
  induction xs generalizing seen with
  | nil => simp [keepFirst]
  | cons x xs ih =>
    unfold keepFirst
    by_cases h : key x ∈ seen
    · rw [if_pos h, ih, List.map_cons, List.mem_cons]
      constructor
      · exact fun ⟨hk, hs⟩ => ⟨Or.inr hk, hs⟩
      · rintro ⟨rfl | hk, hs⟩
        · exact absurd h hs
        · exact ⟨hk, hs⟩
    · rw [if_neg h, List.map_cons, List.mem_cons, ih, List.map_cons, List.mem_cons, List.mem_cons]
      by_cases hk : k = key x
      · subst hk
        exact iff_of_true (Or.inl rfl) ⟨Or.inl rfl, h⟩
      · simp [hk]

/-- No two kept elements have the same key. -/
theorem nodup_keepFirst (xs : List α) (seen : List β) :
    ((keepFirst key seen xs).map key).Nodup := by
  induction xs generalizing seen with
  | nil => exact .nil
  | cons x xs ih =>
    unfold keepFirst
    by_cases h : key x ∈ seen
    · rw [if_pos h]
      exact ih seen
    · rw [if_neg h, List.map_cons, List.nodup_cons]
      refine ⟨fun hmem => ?_, ih _⟩
      exact (mem_map_keepFirst.mp hmem).2 List.mem_cons_self

/-- What is kept under a key is the first element with that key. -/
theorem find?_keepFirst {k : β} {xs : List α} {seen : List β} (hk : k ∉ seen) :
    (keepFirst key seen xs).find? (fun x => key x == k) = xs.find? (fun x => key x == k) := by
  induction xs generalizing seen with
  | nil => rfl
  | cons x xs ih =>
    unfold keepFirst
    by_cases h : key x ∈ seen
    · have hne : (key x == k) = false := by
        simpa using fun e : key x = k => hk (e ▸ h)
      rw [if_pos h, ih hk, List.find?_cons, hne]
    · rw [if_neg h, List.find?_cons, List.find?_cons]
      by_cases hx : key x = k
      · simp [hx]
      · have hne : (key x == k) = false := by simpa using hx
        have hk' : k ∉ key x :: seen := by
          simpa using ⟨fun e : k = key x => hx e.symm, hk⟩
        simp only [hne]
        exact ih hk'

/-- With pairwise different keys, what a key finds does not depend on the order. -/
theorem find?_key_perm {xs ys : List α} (hp : xs.Perm ys) (hnd : (xs.map key).Nodup) (k : β) :
    xs.find? (fun x => key x == k) = ys.find? (fun x => key x == k) := by
  induction hp with
  | nil => rfl
  | cons x _ ih =>
    rw [List.map_cons, List.nodup_cons] at hnd
    rw [List.find?_cons, List.find?_cons, ih hnd.2]
  | swap x y l =>
    have hne : key y ≠ key x := by
      intro heq
      simp [heq] at hnd
    by_cases hx : key x = k
    · have hy : (key y == k) = false := by simpa using fun e : key y = k => hne (e.trans hx.symm)
      simp [hy, hx]
    · have hx' : (key x == k) = false := by simpa using hx
      simp [List.find?_cons, hx']
  | trans h₁ _ ih₁ ih₂ => exact (ih₁ hnd).trans (ih₂ ((h₁.map key).nodup_iff.mp hnd))

/-- With pairwise different keys, the key of an element finds that element. -/
theorem find?_key_of_mem {xs : List α} (hnd : (xs.map key).Nodup) {x : α} (hx : x ∈ xs) :
    xs.find? (fun y => key y == key x) = some x := by
  cases hfind : xs.find? (fun y => key y == key x) with
  | none => exact absurd (beq_self_eq_true _) (List.find?_eq_none.mp hfind x hx)
  | some y =>
    have hkey : key y = key x := by simpa using List.find?_some hfind
    rw [List.inj_on_of_nodup_map hnd (List.mem_of_find?_eq_some hfind) hx hkey]

omit [DecidableEq β] in
/-- Two lists with pairwise different keys, the second list's among the first's, are as long as
each other exactly when no key of the first is missing. -/
theorem length_eq_iff_of_subset {ks ls : List β} (hks : ks.Nodup) (hls : ls.Nodup)
    (hsub : ls ⊆ ks) : ls.length = ks.length ↔ ks ⊆ ls := by
  have hsubperm : List.Subperm ls ks := List.subperm_of_subset hls hsub
  constructor
  · intro hlen
    exact (hsubperm.perm_of_length_le (Nat.le_of_eq hlen.symm)).symm.subset
  · intro h
    exact Nat.le_antisymm hsubperm.length_le (List.subperm_of_subset hks h).length_le

end Python
