/-
# Families of systems that do not touch each other

A state that is kept by key (one entry a device, one a session) changes one entry at a time, and an
entry changes by its own events only.  `family` is that system.  What is known about one entry lifts
to all of them: a property that a step keeps exactly when it meets a condition is kept by the family
exactly when every step meets the condition at its own entry.
-/
import RaceLink.Lts.Basic
import Mathlib.Logic.Function.Basic

namespace Lts

variable {ι σ α : Type} [DecidableEq ι] {init : ι → σ} {step : σ → α → Option σ}

/-- One system for each key: an event is for one of them. -/
def family (init : ι → σ) (step : σ → α → Option σ) : System (ι → σ) (ι × α) where
  init := init
  step s e := (step (s e.1) e.2).map fun t => Function.update s e.1 t

/-- A step of the family is a step at one key. -/
theorem family_step {s t : ι → σ} {e : ι × α} (h : (family init step).step s e = some t) :
    step (s e.1) e.2 = some (t e.1) ∧ ∀ i, i ≠ e.1 → t i = s i := by
  obtain ⟨u, hu, rfl⟩ := Option.map_eq_some_iff.mp h
  refine ⟨by rw [Function.update_self]; exact hu, fun i hi => Function.update_of_ne hi _ _⟩

/-- What one entry keeps, all of them keep. -/
theorem family_keep {ok : σ → α → Prop} {I : σ → Prop}
    (hkeep : ∀ s a t, I s → ok s a → step s a = some t → I t) (s : ι → σ) (e : ι × α) (t : ι → σ)
    (hs : ∀ i, I (s i)) (hok : ok (s e.1) e.2) (h : (family init step).step s e = some t) :
    ∀ i, I (t i) := by
  obtain ⟨hstep, hothers⟩ := family_step h
  intro i
  by_cases hi : i = e.1
  · subst hi
    exact hkeep _ _ _ (hs e.1) hok hstep
  · rw [hothers i hi]
    exact hs i

/-- **Exact conditions lift**: a run of the family has the property at every key throughout exactly
when every event meets the condition at its own key. -/
theorem throughout_family_iff {ok : σ → α → Prop} {I P : σ → Prop} (hholds : ∀ s, I s → P s)
    (hkeep : ∀ s a t, I s → ok s a → step s a = some t → I t)
    (hlose : ∀ s a t, I s → ¬ ok s a → step s a = some t → ¬ P t) (hinit : ∀ i, I (init i))
    {as : List (ι × α)} {t : ι → σ} (h : run (family init step) init as = some t) :
    Throughout (family init step) (fun s => ∀ i, P (s i)) init as ↔
      RunMeets (family init step) (fun s e => ok (s e.1) e.2) init as := by
  refine throughout_iff (I := fun s => ∀ i, I (s i)) (fun s hs i => hholds _ (hs i))
    (family_keep hkeep) (fun s e t hs hok hstep hP => ?_) hinit h
  exact hlose _ _ _ (hs e.1) hok (family_step hstep).1 (hP e.1)

end Lts
