/-
# The first free number

Requests come one after the other, each for a number, and each is given the first number at or
above it that is not in use.  `Places` is such a history.

Which numbers are in use does not depend on the order of the requests: a number is when some run of
consecutive numbers that ends there was asked for at least as often as it is long
(`Places.mem_iff`).  So a request is given what it asks for exactly when there is no such run
(`Places.kept_iff`).
-/
import Mathlib.Data.Int.Order.Basic
import Mathlib.Data.List.Nodup
import Mathlib.Data.List.Perm.Subperm
import Mathlib.Data.Nat.Find
import Mathlib.Order.Basic

namespace Probing

/-! ## 1. Histories -/

/-- The first number from `request` on that is not in use. -/
structure First (used : List Int) (request given : Int) : Prop where
  le : request ≤ given
  free : given ∉ used
  passed : ∀ x, request ≤ x → x < given → x ∈ used

/-- The requests and the numbers they were given, the last of them first. -/
inductive Places : List Int → List Int → Prop where
  | nil : Places [] []
  | cons {requests used : List Int} {request given : Int} : Places requests used →
      First used request given → Places (request :: requests) (given :: used)

/-- Some run of numbers that ends at `x` was asked for as often as it is long. -/
def Crowded (requests : List Int) (x : Int) : Prop :=
  ∃ n : Nat, n < requests.countP fun r => x - n ≤ r ∧ r ≤ x

instance (requests : List Int) (x : Int) : Decidable (Crowded requests x) :=
  decidable_of_iff
    (∃ n < requests.length, n < requests.countP fun r => x - (n : Int) ≤ r ∧ r ≤ x)
    ⟨fun ⟨n, _, hn⟩ => ⟨n, hn⟩, fun ⟨n, hn⟩ => ⟨n, Nat.lt_of_lt_of_le hn List.countP_le_length, hn⟩⟩

theorem First.eq_iff {used : List Int} {request given : Int} (h : First used request given) :
    given = request ↔ request ∉ used := by
  constructor
  · rintro rfl
    exact h.free
  · intro hfree
    refine le_antisymm (not_lt.mp fun hlt => ?_) h.le
    exact hfree (h.passed request (le_refl request) hlt)

namespace Places

variable {requests used : List Int}

theorem nodup (h : Places requests used) : used.Nodup := by
  induction h with
  | nil => exact List.nodup_nil
  | cons _ hfirst ih => exact List.nodup_cons.mpr ⟨hfirst.free, ih⟩

/-! ## 2. Which numbers are in use -/

/-- Nobody goes past a number that is free: the requests up to it are served below it. -/
theorem countP_requests_le (h : Places requests used) {x : Int} (hx : x ∉ used) (n : Nat) :
    (requests.countP fun r => x - n ≤ r ∧ r ≤ x) ≤ used.countP fun c => x - n ≤ c ∧ c < x := by
  induction h with
  | nil => exact Nat.le_refl 0
  | @cons requests used request given _ hfirst ih =>
    obtain ⟨hne, hx⟩ := List.ne_and_not_mem_of_not_mem_cons hx
    have ih := ih hx
    rw [List.countP_cons, List.countP_cons]
    have hle : request ≤ x → given < x := by
      intro hrequest
      by_contra hge
      exact hx (hfirst.passed x hrequest (by omega))
    have hge := hfirst.le
    by_cases hcounts : x - (n : Int) ≤ request ∧ request ≤ x
    · have hgiven : x - (n : Int) ≤ given ∧ given < x :=
        ⟨hcounts.1.trans hge, hle hcounts.2⟩
      simp only [hcounts, hgiven, and_self, decide_true, if_true]
      omega
    · simp only [hcounts, decide_false, Bool.false_eq_true, if_false]
      omega

/-- What is given above a free number was asked for above it. -/
theorem countP_used_le (h : Places requests used) {y x : Int} (hy : y ∉ used) :
    (used.countP fun c => y < c ∧ c ≤ x) ≤ requests.countP fun r => y < r ∧ r ≤ x := by
  induction h with
  | nil => exact Nat.le_refl 0
  | @cons requests used request given _ hfirst ih =>
    obtain ⟨hne, hy⟩ := List.ne_and_not_mem_of_not_mem_cons hy
    have ih := ih hy
    rw [List.countP_cons, List.countP_cons]
    have habove : y < given → y < request := by
      intro hgiven
      by_contra hle
      exact hy (hfirst.passed y (by omega) hgiven)
    have hle := hfirst.le
    by_cases hcounts : y < given ∧ given ≤ x
    · have hrequest : y < request ∧ request ≤ x := ⟨habove hcounts.1, hle.trans hcounts.2⟩
      simp only [hcounts, hrequest, and_self, decide_true, if_true]
      omega
    · simp only [hcounts, decide_false, Bool.false_eq_true, if_false]
      omega

end Places

/-- So many different numbers below `x`. -/
theorem below_nodup (x : Int) (n : Nat) :
    ((List.range n).map fun k : Nat => x - (k : Int)).Nodup :=
  List.nodup_range.map fun a b hab => by
    have hab : x - (a : Int) = x - (b : Int) := hab
    omega

/-- Different numbers of a run are not more than the run is long. -/
theorem countP_run_le {used : List Int} (hnd : used.Nodup) (x : Int) (n : Nat) :
    (used.countP fun c => x - n ≤ c ∧ c < x) ≤ n := by
  have hsub : (used.filter fun c => x - (n : Int) ≤ c ∧ c < x) ⊆
      (List.range n).map fun k : Nat => x - 1 - (k : Int) := by
    intro c hc
    have hc := List.mem_filter.mp hc
    simp only [decide_eq_true_eq] at hc
    refine List.mem_map.mpr ⟨(x - 1 - c).toNat, List.mem_range.mpr (by omega), by omega⟩
  have hle := (List.subperm_of_subset (hnd.filter _) hsub).length_le
  rw [List.length_map, List.length_range] at hle
  rw [List.countP_eq_length_filter]
  exact hle

/-- A run of numbers in use is counted. -/
theorem le_countP_run {used : List Int} {x : Int} {n : Nat}
    (h : ∀ k : Nat, k < n → x - (k : Int) ∈ used) :
    n ≤ used.countP fun c => x - n < c ∧ c ≤ x := by
  have hsub : ((List.range n).map fun k : Nat => x - (k : Int)) ⊆
      used.filter fun c => x - (n : Int) < c ∧ c ≤ x := by
    intro c hc
    obtain ⟨k, hk, rfl⟩ := List.mem_map.mp hc
    have hk := List.mem_range.mp hk
    refine List.mem_filter.mpr ⟨h k hk, ?_⟩
    simp only [decide_eq_true_eq]
    omega
  have hle := (List.subperm_of_subset (below_nodup x n) hsub).length_le
  rw [List.length_map, List.length_range] at hle
  rw [List.countP_eq_length_filter]
  exact hle

/-- The numbers in use below `x` come to an end. -/
theorem exists_free_below (used : List Int) (x : Int) : ∃ k : Nat, x - (k : Int) ∉ used := by
  by_contra hnone
  have hall : ∀ k : Nat, x - (k : Int) ∈ used := fun k => not_not.mp (not_exists.mp hnone k)
  have hsub : ((List.range (used.length + 1)).map fun k : Nat => x - (k : Int)) ⊆ used := by
    intro c hc
    obtain ⟨k, -, rfl⟩ := List.mem_map.mp hc
    exact hall k
  have hle := (List.subperm_of_subset (below_nodup x _) hsub).length_le
  rw [List.length_map, List.length_range] at hle
  omega

namespace Places

variable {requests used : List Int}

/-- **A number is in use** exactly when some run that ends there was asked for as often as it is
long. -/
theorem mem_iff (h : Places requests used) (x : Int) : x ∈ used ↔ Crowded requests x := by
  constructor
  · intro hx
    -- the run goes down to the first free number
    have hexists := exists_free_below used x
    have hfree := Nat.find_spec hexists
    have hrun : ∀ k : Nat, k < Nat.find hexists → x - (k : Int) ∈ used := fun k hk =>
      not_not.mp (Nat.find_min hexists hk)
    have hpos : Nat.find hexists ≠ 0 := by
      intro hzero
      rw [hzero] at hfree
      exact hfree (by simpa using hx)
    obtain ⟨n, hn⟩ := Nat.exists_eq_succ_of_ne_zero hpos
    rw [hn] at hfree hrun
    refine ⟨n, Nat.lt_of_succ_le (((le_countP_run hrun).trans
      (h.countP_used_le hfree)).trans_eq (List.countP_congr fun r _ => ?_))⟩
    simp only [decide_eq_true_eq]
    omega
  · rintro ⟨n, hn⟩
    by_contra hx
    exact Nat.not_le_of_lt hn ((h.countP_requests_le hx n).trans (countP_run_le h.nodup x n))

/-- **A request keeps its number** exactly when no run that ends there is crowded. -/
theorem kept_iff (h : Places requests used) {request given : Int}
    (hfirst : First used request given) : given = request ↔ ¬ Crowded requests request := by
  rw [hfirst.eq_iff, h.mem_iff]

end Places

end Probing
