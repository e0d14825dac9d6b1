/-
# Transition systems with a guarded step function

`step s a` is the state after the event `a`, or `none` where `a` cannot happen.  One function
serves both ends: a concrete run is evaluated (`run`), and a property of all runs is proved by
induction (`ReachableBy.invariant`).

`ReachableBy ok` collects the states along the runs whose every step meets `ok`, a condition on
an event and the state it happens in.  Statements of the form "in every run whose steps all
meet the condition, the property holds in every state" are about it.
-/
import Mathlib.Logic.Basic

namespace Lts

/-- A transition system. -/
structure System (σ α : Type) where
  init : σ
  step : σ → α → Option σ

variable {σ α : Type} {sys : System σ α}

/-- The states along runs whose every step meets `ok`. -/
inductive ReachableBy (sys : System σ α) (ok : σ → α → Prop) : σ → Prop where
  | init : ReachableBy sys ok sys.init
  | step {s t : σ} {a : α} : ReachableBy sys ok s → ok s a → sys.step s a = some t →
      ReachableBy sys ok t

/-- **Invariants**: what holds initially and is kept by every step that meets the condition holds
in every state reached. -/
theorem ReachableBy.invariant {ok : σ → α → Prop} {P : σ → Prop} (hinit : P sys.init)
    (hstep : ∀ s a t, P s → ok s a → sys.step s a = some t → P t) {s : σ}
    (h : ReachableBy sys ok s) : P s := by
  induction h with
  | init => exact hinit
  | step _ hok ht ih => exact hstep _ _ _ ih hok ht

/-- The state after a list of events. -/
def run (sys : System σ α) : σ → List α → Option σ
  | s, [] => some s
  | s, a :: as => (sys.step s a).bind fun t => run sys t as

/-- A run goes on where another one has ended. -/
theorem run_append (s : σ) (as bs : List α) :
    run sys s (as ++ bs) = (run sys s as).bind fun t => run sys t bs := by
  induction as generalizing s with
  | nil => rfl
  | cons a as ih =>
    show (sys.step s a).bind _ = ((sys.step s a).bind _).bind _
    cases sys.step s a with
    | none => rfl
    | some u => exact ih u

/-- Every event of the run meets the condition in the state it happens in. -/
def RunMeets (sys : System σ α) (ok : σ → α → Prop) : σ → List α → Prop
  | _, [] => True
  | s, a :: as => ok s a ∧ ∀ t, sys.step s a = some t → RunMeets sys ok t as

instance decidableRunMeets (sys : System σ α) (ok : σ → α → Prop)
    [∀ s a, Decidable (ok s a)] : ∀ (s : σ) (as : List α), Decidable (RunMeets sys ok s as)
  | _, [] => isTrue trivial
  | s, a :: as =>
    match h : sys.step s a with
    | none => decidable_of_iff (ok s a) (by simp [RunMeets, h])
    | some t =>
      have := decidableRunMeets sys ok t as
      decidable_of_iff (ok s a ∧ RunMeets sys ok t as) (by simp [RunMeets, h])

/-- The property holds in every state of the run. -/
def Throughout (sys : System σ α) (P : σ → Prop) : σ → List α → Prop
  | s, [] => P s
  | s, a :: as => P s ∧ ∀ t, sys.step s a = some t → Throughout sys P t as

/-- The end of a run whose events meet the condition is reachable under it. -/
theorem ReachableBy.of_run {ok : σ → α → Prop} {as : List α} {s t : σ} (hs : ReachableBy sys ok s)
    (hok : RunMeets sys ok s as) (h : run sys s as = some t) : ReachableBy sys ok t := by
  induction as generalizing s with
  | nil =>
    cases h
    exact hs
  | cons a as ih =>
    obtain ⟨u, hu, hrun⟩ := Option.bind_eq_some_iff.mp h
    exact ih (hs.step hok.1 hu) (hok.2 u hu) hrun

/-- What every step keeps holds at the end of a run that starts with it. -/
theorem invariant_run {I : σ → Prop} (hinv : ∀ s a t, I s → sys.step s a = some t → I t)
    {as : List α} {s t : σ} (hs : I s) (h : run sys s as = some t) : I t := by
  induction as generalizing s with
  | nil =>
    cases h
    exact hs
  | cons a as ih =>
    obtain ⟨u, hu, hrun⟩ := Option.bind_eq_some_iff.mp h
    exact ih (hinv s a u hs hu) hrun

/-- A property that a step keeps exactly when it meets the condition holds at the end of a run
exactly when it held at its start and every event meets the condition. -/
theorem holds_run_iff {ok : σ → α → Prop} {I P : σ → Prop}
    (hinv : ∀ s a t, I s → sys.step s a = some t → I t)
    (hstep : ∀ s a t, I s → sys.step s a = some t → (P t ↔ P s ∧ ok s a))
    {as : List α} {s t : σ} (hs : I s) (h : run sys s as = some t) :
    P t ↔ P s ∧ RunMeets sys ok s as := by
  induction as generalizing s with
  | nil =>
    cases h
    exact (and_iff_left trivial).symm
  | cons a as ih =>
    obtain ⟨u, hu, hrun⟩ := Option.bind_eq_some_iff.mp h
    rw [ih (hinv s a u hs hu) hrun, hstep s a u hs hu, and_assoc]
    refine and_congr_right fun _ => and_congr_right fun _ => ⟨fun hrest v hv => ?_, fun hrest => ?_⟩
    · rw [hu] at hv
      cases hv
      exact hrest
    · exact hrest u hu

/-- **Exact conditions**: in a run whose events meet `pre`, where the invariant `I` has the
property, is kept by the steps that meet the condition, and the other steps lose the property, the
property holds throughout exactly when every event meets the condition. -/
theorem throughout_iff_of_meets {pre ok : σ → α → Prop} {I P : σ → Prop} (hholds : ∀ s, I s → P s)
    (hkeep : ∀ s a t, I s → pre s a → ok s a → sys.step s a = some t → I t)
    (hlose : ∀ s a t, I s → pre s a → ¬ ok s a → sys.step s a = some t → ¬ P t)
    {as : List α} {s t : σ} (hs : I s) (hpre : RunMeets sys pre s as) (h : run sys s as = some t) :
    Throughout sys P s as ↔ RunMeets sys ok s as := by
  induction as generalizing s with
  | nil => exact iff_of_true (hholds s hs) trivial
  | cons a as ih =>
    obtain ⟨u, hu, hrun⟩ := Option.bind_eq_some_iff.mp h
    have honly : ∀ v, sys.step s a = some v → v = u :=
      fun v hv => Option.some.inj (hv.symm.trans hu)
    by_cases hok : ok s a
    · have hrest := ih (hkeep s a u hs hpre.1 hok hu) (hpre.2 u hu) hrun
      constructor
      · rintro ⟨-, hP⟩
        refine ⟨hok, fun v hv => ?_⟩
        rw [honly v hv]
        exact hrest.mp (hP u hu)
      · rintro ⟨-, hmeets⟩
        refine ⟨hholds s hs, fun v hv => ?_⟩
        rw [honly v hv]
        exact hrest.mpr (hmeets u hu)
    · refine iff_of_false ?_ fun hmeets => hok hmeets.1
      rintro ⟨-, hP⟩
      have hPu : P u := by
        cases as with
        | nil => exact hP u hu
        | cons b bs => exact (hP u hu).1
      exact hlose s a u hs hpre.1 hok hu hPu

/-- A run that meets a condition meets a weaker one. -/
theorem RunMeets.mono {ok ok' : σ → α → Prop} (hweaker : ∀ s a, ok s a → ok' s a) {s : σ}
    {as : List α} (h : RunMeets sys ok s as) : RunMeets sys ok' s as := by
  induction as generalizing s with
  | nil => trivial
  | cons a as ih => exact ⟨hweaker s a h.1, fun t ht => ih (h.2 t ht)⟩

/-- Every run meets what always holds. -/
theorem runMeets_of_forall {ok : σ → α → Prop} (hok : ∀ s a, ok s a) (s : σ) (as : List α) :
    RunMeets sys ok s as := by
  induction as generalizing s with
  | nil => trivial
  | cons a as ih => exact ⟨hok s a, fun t _ => ih t⟩

/-- Where nothing is asked of the run. -/
theorem throughout_iff {ok : σ → α → Prop} {I P : σ → Prop} (hholds : ∀ s, I s → P s)
    (hkeep : ∀ s a t, I s → ok s a → sys.step s a = some t → I t)
    (hlose : ∀ s a t, I s → ¬ ok s a → sys.step s a = some t → ¬ P t)
    {as : List α} {s t : σ} (hs : I s) (h : run sys s as = some t) :
    Throughout sys P s as ↔ RunMeets sys ok s as :=
  throughout_iff_of_meets hholds (fun s a t hs _ => hkeep s a t hs)
    (fun s a t hs _ => hlose s a t hs) hs (runMeets_of_forall (fun _ _ => trivial) s as) h

/-- What the steps that meet the condition keep, holds throughout a run that meets it. -/
theorem throughout_of_runMeets {ok : σ → α → Prop} {I P : σ → Prop} (hholds : ∀ s, I s → P s)
    (hkeep : ∀ s a t, I s → ok s a → sys.step s a = some t → I t)
    {as : List α} {s : σ} (hs : I s) (hmeets : RunMeets sys ok s as) : Throughout sys P s as := by
  induction as generalizing s with
  | nil => exact hholds s hs
  | cons a as ih =>
    refine ⟨hholds s hs, fun t ht => ?_⟩
    exact ih (hkeep s a t hs hmeets.1 ht) (hmeets.2 t ht)

/-- A system driven by other events, each of which stands for one of its own. -/
def System.comap {β : Type} (sys : System σ α) (f : β → α) : System σ β :=
  ⟨sys.init, fun s b => sys.step s (f b)⟩

@[simp] theorem run_comap {β : Type} (f : β → α) (s : σ) (bs : List β) :
    run (sys.comap f) s bs = run sys s (bs.map f) := by
  induction bs generalizing s with
  | nil => rfl
  | cons b bs ih =>
    show (sys.step s (f b)).bind _ = (sys.step s (f b)).bind _
    exact congrArg _ (funext ih)

@[simp] theorem throughout_comap {β : Type} (f : β → α) {P : σ → Prop} (s : σ) (bs : List β) :
    Throughout (sys.comap f) P s bs ↔ Throughout sys P s (bs.map f) := by
  induction bs generalizing s with
  | nil => exact Iff.rfl
  | cons b bs ih =>
    exact and_congr_right fun _ => forall_congr' fun t => imp_congr_right fun _ => ih t

@[simp] theorem runMeets_comap {β : Type} (f : β → α) {ok : σ → α → Prop} (s : σ) (bs : List β) :
    RunMeets (sys.comap f) (fun s b => ok s (f b)) s bs ↔ RunMeets sys ok s (bs.map f) := by
  induction bs generalizing s with
  | nil => exact Iff.rfl
  | cons b bs ih =>
    exact and_congr_right fun _ => forall_congr' fun t => imp_congr_right fun _ => ih t

/-- An entry of a log stays where it is when entries are added. -/
theorem log_getElem? {γ : Type} {log new : List γ} {i : Nat} {x : γ} (h : log[i]? = some x) :
    (log ++ new)[i]? = some x := by
  rw [List.getElem?_append_left (List.getElem?_eq_some_iff.mp h).1, h]

/-- An entry that changes is there as it is now. -/
theorem mem_set_self {γ : Type} {l : List γ} {i : Nat} {x : γ} (hi : l[i]? = some x) (y : γ) :
    y ∈ l.set i y :=
  List.mem_set (List.getElem?_eq_some_iff.mp hi).1 y

/-- An entry that changes leaves the others. -/
theorem mem_set_or {γ : Type} {l : List γ} {i : Nat} {x : γ} (hi : l[i]? = some x) (y : γ) {z : γ}
    (hz : z ∈ l) : z = x ∨ z ∈ l.set i y := by
  obtain ⟨j, hj⟩ := List.mem_iff_getElem?.mp hz
  by_cases hij : i = j
  · subst hij
    exact .inl (Option.some.inj (hj.symm.trans hi))
  · refine .inr (List.mem_iff_getElem?.mpr ⟨j, ?_⟩)
    rw [List.getElem?_set_ne hij, hj]

end Lts
