/-
# Stateful computations that can raise

A method of a service reads and writes the service's fields, and can raise half way.  What it
has written by then stays written: the state after a raise is the state it had reached.
`Script σ α` is a computation of that kind, and a `do` block over it reads like the method.

The inversion lemma `bind_eq_ok` takes a returning run apart into its steps, and the simp set
computes the primitive ones.
-/
import RaceLink.Python.Value

namespace Python

/-- A computation over the state `σ` that returns an `α` or raises. -/
def Script (σ α : Type) : Type := σ → Except PyErr α × σ

namespace Script

variable {σ α β : Type}

instance : Monad (Script σ) where
  pure a := fun s => (.ok a, s)
  bind x f := fun s =>
    match x s with
    | (.ok a, s') => f a s'
    | (.error e, s') => (.error e, s')

/-- An expression that touches no field. -/
def lift (x : Except PyErr α) : Script σ α := fun s => (x, s)

instance : MonadLift (Except PyErr) (Script σ) := ⟨lift⟩

/-- Read the state. -/
def get : Script σ σ := fun s => (.ok s, s)

/-- Change the state. -/
def modify (f : σ → σ) : Script σ Unit := fun s => (.ok (), f s)

/-- `try: x` with an `except Exception` that turns the exception into a value. -/
def recover (x : Script σ α) (handler : PyErr → α) : σ → α × σ := fun s =>
  match x s with
  | (.ok a, s') => (a, s')
  | (.error e, s') => (handler e, s')

@[simp] theorem pure_run (a : α) (s : σ) : (pure a : Script σ α) s = (.ok a, s) := rfl

@[simp] theorem get_run (s : σ) : (get : Script σ σ) s = (.ok s, s) := rfl

@[simp] theorem modify_run (f : σ → σ) (s : σ) : modify f s = (.ok (), f s) := rfl

@[simp] theorem lift_run (x : Except PyErr α) (s : σ) : (lift x : Script σ α) s = (x, s) := rfl

@[simp] theorem monadLift_eq (x : Except PyErr α) : (liftM x : Script σ α) = lift x := rfl

theorem bind_run (x : Script σ α) (f : α → Script σ β) (s : σ) :
    (x >>= f) s = match x s with
      | (.ok a, s') => f a s'
      | (.error e, s') => (.error e, s') := rfl

/-- A step that returns hands its result and its state to the rest. -/
theorem bind_of_ok {x : Script σ α} {f : α → Script σ β} {s s' : σ} {a : α}
    (h : x s = (.ok a, s')) : (x >>= f) s = f a s' := by
  rw [bind_run, h]

/-- A sequence returns exactly when both of its parts do. -/
theorem bind_eq_ok {x : Script σ α} {f : α → Script σ β} {s s'' : σ} {b : β} :
    (x >>= f) s = (.ok b, s'') ↔ ∃ a s', x s = (.ok a, s') ∧ f a s' = (.ok b, s'') := by
  rw [bind_run]
  rcases hx : x s with ⟨r, s'⟩
  cases r with
  | error e => simp
  | ok a => simp

/-- Building a result from the one there is. -/
theorem bind_pure_result (x : Script σ α) (f : α → β) (s : σ) :
    ((x >>= fun a => pure (f a)) s).1 = (x s).1.map f := by
  rw [bind_run]
  rcases x s with ⟨_ | _, s'⟩ <;> rfl

/-- Building a result leaves the state as it is, also where there is none. -/
theorem bind_pure_state (x : Script σ α) (f : α → β) (s : σ) :
    ((x >>= fun a => pure (f a)) s).2 = (x s).2 := by
  rw [bind_run]
  rcases x s with ⟨_ | _, s'⟩ <;> rfl

theorem recover_state (x : Script σ α) (handler : PyErr → α) (s : σ) :
    (x.recover handler s).2 = (x s).2 := by
  unfold recover
  rcases x s with ⟨_ | _, s'⟩ <;> rfl

theorem lift_eq_ok {x : Except PyErr α} {s s' : σ} {a : α} :
    (lift x : Script σ α) s = (.ok a, s') ↔ x = .ok a ∧ s = s' := by
  rw [lift_run, Prod.mk.injEq]

/-- Steps can be grouped as one likes.  No instance: `simp` is to leave the steps as they are. -/
theorem lawfulMonad : LawfulMonad (Script σ) := by
  refine LawfulMonad.mk' _ (fun x => ?_) (fun a f => rfl) fun x f g => ?_
  · funext s
    show (match x s with | (.ok a, s') => (.ok a, s') | (.error e, s') => (.error e, s')) = x s
    rcases x s with ⟨_ | _, s'⟩ <;> rfl
  · funext s
    rw [bind_run, bind_run, bind_run]
    rcases x s with ⟨_ | _, s'⟩ <;> rfl

/-! ## A script and what is expected of it -/

/-- The script raises what `expected` raises, and otherwise returns, with `P` of what was expected,
the result and the state. -/
structure Does {γ : Type} (x : Script σ β) (s : σ) (expected : Except PyErr γ)
    (P : γ → β → σ → Prop) : Prop where
  returns : ∀ c, expected = .ok c → ∃ b s', x s = (.ok b, s') ∧ P c b s'
  raises : ∀ e, expected = .error e → ∃ s', x s = (.error e, s')

namespace Does

variable {γ δ : Type} {x : Script σ β} {s s' : σ} {expected : Except PyErr γ}
  {P : γ → β → σ → Prop}

theorem of_ok {b : β} {c : γ} (h : x s = (.ok b, s')) (hP : P c b s') : x.Does s (.ok c) P := by
  refine ⟨fun c' hc => ?_, nofun⟩
  cases hc
  exact ⟨b, s', h, hP⟩

theorem of_error {e : PyErr} (h : x s = (.error e, s')) : x.Does s (.error e) P := by
  refine ⟨nofun, fun e' he => ?_⟩
  cases he
  exact ⟨s', h⟩

/-- Only the run from `s` counts. -/
theorem congr {y : Script σ β} (h : x s = y s) (hy : y.Does s expected P) :
    x.Does s expected P :=
  ⟨by rw [h]; exact hy.returns, by rw [h]; exact hy.raises⟩

/-- What is expected of a step is expected of the script that goes on after it. -/
theorem bind {f : β → Script σ α} {g : γ → Except PyErr δ} {Q : δ → α → σ → Prop}
    (hx : x.Does s expected P)
    (hf : ∀ c b s', P c b s' → (f b).Does s' (g c) Q) : (x >>= f).Does s (expected >>= g) Q := by
  cases expected with
  | error e =>
    obtain ⟨s', hrun⟩ := hx.raises e rfl
    exact of_error (by rw [bind_run, hrun])
  | ok c =>
    obtain ⟨b, s', hrun, hP⟩ := hx.returns c rfl
    obtain ⟨hreturns, hraises⟩ := hf c b s' hP
    rw [ok_bind]
    exact ⟨by rwa [bind_of_ok hrun], by rwa [bind_of_ok hrun]⟩

/-- Building a result from the one there is. -/
theorem bind_pure (hx : x.Does s expected P) {f : β → α} {Q : γ → α → σ → Prop}
    (hf : ∀ c b s', P c b s' → Q c (f b) s') :
    (x >>= fun b => pure (f b)).Does s expected Q := by
  refine ⟨fun c hc => ?_, fun e he => ?_⟩
  · obtain ⟨b, s', hrun, hP⟩ := hx.returns c hc
    exact ⟨f b, s', bind_of_ok hrun, hf c b s' hP⟩
  · obtain ⟨s', hrun⟩ := hx.raises e he
    exact ⟨s', by rw [bind_run, hrun]⟩

/-- An expression that touches no field is expected as it is. -/
theorem lift_bind {f : γ → Script σ β} {g : γ → Except PyErr δ} {Q : δ → β → σ → Prop}
    (hf : ∀ c, expected = .ok c → (f c).Does s (g c) Q) :
    (lift expected >>= f).Does s (expected >>= g) Q := by
  cases expected with
  | error e => exact of_error rfl
  | ok c => exact hf c rfl

end Does

end Script

end Python
