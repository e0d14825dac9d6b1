/-
# Cooldowns

A key that was served rests: until a cooldown has passed since, it is not served again.  The server
keeps the time it last served a key, and forgets what is older than an expiry.

The specification knows everything: it has the times of all that was ever served, and a key rests
when one of them is less than a cooldown ago.  `Recalls` connects the two: what the cache holds is
the last time, and what it has forgotten is too old to matter.  As long as the clock does not run
backwards and the expiry is not shorter than the cooldown, forgetting keeps it (`Recalls.prune`), so
the cache decides as the specification does (`Recalls.rests_iff`), and what is served is spaced
(`Recalls.mark`).
-/
import Mathlib.Algebra.Order.Group.Basic
import Mathlib.Logic.Function.Basic

namespace Cooldown

variable {κ T : Type}

/-- When each key was last served, as far as it is remembered. -/
abbrev Cache (κ T : Type) : Type := κ → Option T

/-- What was served, and when, in order. -/
abbrev Log (κ T : Type) : Type := List (κ × T)

/-! ## 1. The cache -/

section Cache

variable [Sub T] [LT T] [DecidableLT T]

/-- Forget what is as old as the expiry. -/
def prune (expiry now : T) (cache : Cache κ T) : Cache κ T :=
  fun k => (cache k).filter fun ts => now - ts < expiry

/-- The key was served less than a cooldown ago; `never` is the time of a key that is not
remembered. -/
def rests (cooldown never now : T) (cache : Cache κ T) (k : κ) : Bool :=
  now - (cache k).getD never < cooldown

/-- The key is served. -/
def mark [DecidableEq κ] (cache : Cache κ T) (k : κ) (now : T) : Cache κ T :=
  Function.update cache k (some now)

/-- The specification: the log has a time for the key less than a cooldown ago. -/
def Rests (cooldown now : T) (log : Log κ T) (k : κ) : Prop :=
  ∃ ts, (k, ts) ∈ log ∧ now - ts < cooldown

/-- Two times for one key are a cooldown apart. -/
def Spaced [LE T] (cooldown : T) (log : Log κ T) : Prop :=
  log.Pairwise fun e e' => e.1 = e'.1 → cooldown ≤ e'.2 - e.2

end Cache

/-! ## 2. What the cache recalls of the log -/

variable [AddCommGroup T] [LinearOrder T] [IsOrderedAddMonoid T]

/-- At the time `now` the cache agrees with the log as far as a cooldown can tell. -/
structure Recalls (cooldown now : T) (cache : Cache κ T) (log : Log κ T) : Prop where
  past : ∀ e ∈ log, e.2 ≤ now
  logged : ∀ k ts, cache k = some ts → (k, ts) ∈ log
  last : ∀ k ts, cache k = some ts → ∀ ts', (k, ts') ∈ log → ts' ≤ ts
  old : ∀ k ts, cache k = none → (k, ts) ∈ log → cooldown ≤ now - ts
  spaced : Spaced cooldown log

namespace Recalls

variable {cooldown expiry never now later : T} {cache : Cache κ T} {log : Log κ T}

omit [IsOrderedAddMonoid T] in
theorem empty : Recalls cooldown now (fun _ => none : Cache κ T) [] :=
  ⟨fun _ he => absurd he List.not_mem_nil, fun _ _ h => absurd h (by simp),
    fun _ _ h => absurd h (by simp), fun _ _ _ h => absurd h List.not_mem_nil, .nil⟩

/-- Time passes. -/
theorem mono (h : Recalls cooldown now cache log) (hle : now ≤ later) :
    Recalls cooldown later cache log where
  past e he := (h.past e he).trans hle
  logged := h.logged
  last := h.last
  old k ts hnone hmem := (h.old k ts hnone hmem).trans (sub_le_sub_right hle ts)
  spaced := h.spaced

/-- **Forgetting**: what the cache drops is older than the expiry, and the cooldown is not longer
than that. -/
theorem prune (h : Recalls cooldown now cache log) (hexpiry : cooldown ≤ expiry) :
    Recalls cooldown now (prune expiry now cache) log := by
  have hkept : ∀ k ts, Cooldown.prune expiry now cache k = some ts → cache k = some ts := by
    intro k ts hk
    exact (Option.filter_eq_some_iff.mp hk).1
  refine ⟨h.past, fun k ts hk => h.logged k ts (hkept k ts hk),
    fun k ts hk => h.last k ts (hkept k ts hk), fun k ts hnone hmem => ?_, h.spaced⟩
  cases hk : cache k with
  | none => exact h.old k ts hk hmem
  | some last =>
    -- the entry was dropped, so the last time is old, and `ts` is not later
    have hdropped : ¬ now - last < expiry := by
      intro hfresh
      have hstays : Cooldown.prune expiry now cache k = some last :=
        Option.filter_eq_some_iff.mpr ⟨hk, decide_eq_true hfresh⟩
      rw [hnone] at hstays
      cases hstays
    calc cooldown ≤ expiry := hexpiry
      _ ≤ now - last := not_lt.mp hdropped
      _ ≤ now - ts := sub_le_sub_left (h.last k last hk ts hmem) now

/-- **The cache decides as the specification**: a key rests exactly when the log has a time for it
less than a cooldown ago. -/
theorem rests_iff (h : Recalls cooldown now cache log) (hnever : cooldown ≤ now - never) (k : κ) :
    rests cooldown never now cache k = true ↔ Rests cooldown now log k := by
  unfold rests Rests
  rw [decide_eq_true_iff]
  cases hk : cache k with
  | none =>
    refine iff_of_false (not_lt.mpr hnever) ?_
    rintro ⟨ts, hmem, hlt⟩
    exact absurd hlt (not_lt.mpr (h.old k ts hk hmem))
  | some last =>
    refine ⟨fun hlt => ⟨last, h.logged k last hk, hlt⟩, ?_⟩
    rintro ⟨ts, hmem, hlt⟩
    exact (sub_le_sub_left (h.last k last hk ts hmem) now).trans_lt hlt

/-- **Serving**: a key that does not rest is served, and the log stays spaced. -/
theorem mark [DecidableEq κ] (h : Recalls cooldown now cache log) {k : κ}
    (hrests : ¬ Rests cooldown now log k) (hle : now ≤ later) :
    Recalls cooldown later (mark cache k later) (log ++ [(k, later)]) := by
  have hself : Cooldown.mark cache k later k = some later := Function.update_self _ _ _
  have hother : ∀ k', k' ≠ k → Cooldown.mark cache k later k' = cache k' :=
    fun k' hne => Function.update_of_ne hne _ _
  have hbefore : ∀ e ∈ log, e.2 ≤ later := fun e he => (h.past e he).trans hle
  refine ⟨?_, fun k' ts hk' => ?_, fun k' ts hk' ts' hmem => ?_, fun k' ts hnone hmem => ?_, ?_⟩
  · intro e he
    rcases List.mem_append.mp he with he | he
    · exact hbefore e he
    · rw [List.mem_singleton.mp he]
  · by_cases hne : k' = k
    · subst hne
      rw [hself, Option.some.injEq] at hk'
      subst hk'
      exact List.mem_append_right _ (List.mem_singleton_self _)
    · rw [hother k' hne] at hk'
      exact List.mem_append_left _ (h.logged k' ts hk')
  · by_cases hne : k' = k
    · subst hne
      rw [hself, Option.some.injEq] at hk'
      subst hk'
      rcases List.mem_append.mp hmem with hmem | hmem
      · exact hbefore _ hmem
      · rw [(Prod.mk.inj (List.mem_singleton.mp hmem)).2]
    · rw [hother k' hne] at hk'
      rcases List.mem_append.mp hmem with hmem | hmem
      · exact h.last k' ts hk' ts' hmem
      · exact absurd (Prod.mk.inj (List.mem_singleton.mp hmem)).1 hne
  · by_cases hne : k' = k
    · subst hne
      rw [hself] at hnone
      cases hnone
    · rw [hother k' hne] at hnone
      rcases List.mem_append.mp hmem with hmem | hmem
      · exact (h.old k' ts hnone hmem).trans (sub_le_sub_right hle ts)
      · exact absurd (Prod.mk.inj (List.mem_singleton.mp hmem)).1 hne
  · refine List.pairwise_append.mpr ⟨h.spaced, List.pairwise_singleton _ _, ?_⟩
    intro e he e' he' hkey
    rw [List.mem_singleton.mp he'] at hkey ⊢
    obtain ⟨k', ts⟩ := e
    dsimp only at hkey
    subst hkey
    have hapart : cooldown ≤ now - ts := not_lt.mp fun hlt => hrests ⟨ts, he, hlt⟩
    exact hapart.trans (sub_le_sub_right hle ts)

end Recalls

end Cooldown
