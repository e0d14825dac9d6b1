/-
# Programs that call out, fail and clean up

A workflow over other services does three things that its result does not show: it makes calls,
it leaves marks in a record it keeps, and what it has done by the time something raises stays
done.  `Proc σ κ ε α` is a program of that kind: from the record and the calls made so far, it
returns or raises, with the record it leaves and the calls it has made itself.  What a call
answers may depend on every call before it, so one function stands for any behaviour of what is
called, failures included.

Two rules carry the proofs.

* **Trails.**  A relation between the record before, the calls made and the record after, that
  sequences keep (`Trail`), holds of a program as soon as it holds of its calls and its marks:
  through sequences, handlers, clean-up and loops alike (`Follows`).
* **Clean-up.**  `lastly` runs on every path, so the calls of `p.lastly q` end with those of `q`
  (`lastly_calls`), whatever `p` did.
-/
import Mathlib.Data.List.Basic

namespace Effects

variable {σ κ ε α β : Type}

/-! ## 1. Programs -/

/-- What a program does: its result, the record it leaves, and the calls it has made. -/
structure Outcome (σ κ ε α : Type) where
  result : Except ε α
  state : σ
  calls : List κ

/-- A program over a record, which it runs on with the calls made before it. -/
def Proc (σ κ ε α : Type) : Type := σ → List κ → Outcome σ κ ε α

namespace Proc

/-- What follows a part, on what the part did. -/
def andThen (o : Outcome σ κ ε α) (past : List κ) (next : Proc σ κ ε β) : Outcome σ κ ε β :=
  let rest := next o.state (past ++ o.calls)
  ⟨rest.result, rest.state, o.calls ++ rest.calls⟩

/-- One part after the other: the second gets what the first returns. -/
def sequence (p : Proc σ κ ε α) (f : α → Proc σ κ ε β) : Proc σ κ ε β := fun s past =>
  match p s past with
  | ⟨.ok a, t, calls⟩ => andThen ⟨.ok a, t, calls⟩ past (f a)
  | ⟨.error e, t, calls⟩ => ⟨.error e, t, calls⟩

instance : Monad (Proc σ κ ε) where
  pure a := fun s _ => ⟨.ok a, s, []⟩
  bind := sequence

/-- `raise e` -/
def raise (e : ε) : Proc σ κ ε α := fun s _ => ⟨.error e, s, []⟩

/-- An expression without calls and marks. -/
def lift (x : Except ε α) : Proc σ κ ε α := fun s _ => ⟨x, s, []⟩

/-- Read the record. -/
def get : Proc σ κ ε σ := fun s _ => ⟨.ok s, s, []⟩

/-- Leave a mark in the record. -/
def modify (f : σ → σ) : Proc σ κ ε Unit := fun s _ => ⟨.ok (), f s, []⟩

/-- A call, and what it answers: the calls made by then end with it. -/
def call (c : κ) (answer : List κ → Except ε α) : Proc σ κ ε α :=
  fun s past => ⟨answer (past ++ [c]), s, [c]⟩

/-- `if c: p` -/
def when (c : Bool) (p : Proc σ κ ε Unit) : Proc σ κ ε Unit :=
  bif c then p else fun s _ => ⟨.ok (), s, []⟩

/-- `try: p` with the handler of `except Exception as ex`. -/
def catching (p : Proc σ κ ε α) (handler : ε → Proc σ κ ε α) : Proc σ κ ε α := fun s past =>
  match p s past with
  | ⟨.ok a, t, calls⟩ => ⟨.ok a, t, calls⟩
  | ⟨.error e, t, calls⟩ => andThen (α := α) ⟨.error e, t, calls⟩ past (handler e)

/-- `try: p` with `finally: q`.  What `q` raises takes the place of what `p` raised. -/
def lastly (p : Proc σ κ ε α) (q : Proc σ κ ε Unit) : Proc σ κ ε α := fun s past =>
  match andThen (p s past) past q with
  | ⟨.ok (), t, calls⟩ => ⟨(p s past).result, t, calls⟩
  | ⟨.error e, t, calls⟩ => ⟨.error e, t, calls⟩

/-- `for x in xs: body(x)`, with the position of `x`. -/
def forEach (body : Nat → α → Proc σ κ ε Unit) : Nat → List α → Proc σ κ ε Unit
  | _, [] => Pure.pure ()
  | i, x :: xs => body i x >>= fun _ => forEach body (i + 1) xs

/-! ## 2. Runs -/

variable {p : Proc σ κ ε α} {f : α → Proc σ κ ε β} {s t : σ} {past calls : List κ}

theorem pure_run (a : α) (s : σ) (past : List κ) :
    (Pure.pure a : Proc σ κ ε α) s past = ⟨.ok a, s, []⟩ := rfl

/-- A part that returns hands its result on. -/
theorem bind_ok {a : α} (h : p s past = ⟨.ok a, t, calls⟩) :
    (p >>= f) s past = andThen ⟨.ok a, t, calls⟩ past (f a) := by
  change sequence p f s past = _
  rw [sequence, h]

/-- A part that raises is the end. -/
theorem bind_error {e : ε} (h : p s past = ⟨.error e, t, calls⟩) :
    (p >>= f) s past = ⟨.error e, t, calls⟩ := by
  change sequence p f s past = _
  rw [sequence, h]

theorem catching_ok {handler : ε → Proc σ κ ε α} {a : α} (h : p s past = ⟨.ok a, t, calls⟩) :
    p.catching handler s past = ⟨.ok a, t, calls⟩ := by
  rw [catching, h]

theorem catching_error {handler : ε → Proc σ κ ε α} {e : ε}
    (h : p s past = ⟨.error e, t, calls⟩) :
    p.catching handler s past
      = andThen (α := α) ⟨.error e, t, calls⟩ past (handler e) := by
  rw [catching, h]

/-- After a part without calls, the rest runs as if it came first. -/
theorem andThen_silent (r : Except ε α) (t : σ) (past : List κ) (next : Proc σ κ ε β) :
    andThen ⟨r, t, []⟩ past next = next t past := by
  rw [andThen, List.append_nil]
  rfl

theorem call_run {c : κ} {answer : List κ → Except ε α} {r : Except ε α} (s : σ)
    (h : answer (past ++ [c]) = r) : call c answer s past = ⟨r, s, [c]⟩ :=
  congrArg (Outcome.mk · s [c]) h

theorem modify_bind (f : σ → σ) (next : Unit → Proc σ κ ε β) (s : σ) (past : List κ) :
    (modify f >>= next) s past = next () (f s) past := by
  rw [bind_ok (show modify f s past = ⟨.ok (), f s, []⟩ from rfl), andThen_silent]

theorem lift_ok_bind (a : α) (f : α → Proc σ κ ε β) (s : σ) (past : List κ) :
    (lift (.ok a) >>= f) s past = f a s past := by
  rw [bind_ok (show lift (.ok a) s past = ⟨.ok a, s, []⟩ from rfl), andThen_silent]

/-- A mark after a part that returned. -/
theorem bind_modify {f : σ → σ} {a : α} (h : p s past = ⟨.ok a, t, calls⟩) :
    (p >>= fun _ => modify f) s past = ⟨.ok (), f t, calls⟩ := by
  rw [bind_ok h]
  exact congrArg (Outcome.mk _ _) (List.append_nil calls)

/-- **Clean-up runs on every path**: the calls of `p`, and then those of `q` in the record that `p`
left. -/
theorem lastly_calls (p : Proc σ κ ε α) (q : Proc σ κ ε Unit) (s : σ) (past : List κ) :
    (p.lastly q s past).calls
      = (p s past).calls ++ (q (p s past).state (past ++ (p s past).calls)).calls := by
  unfold lastly
  split
  · next h => rw [← show _ = _ from congrArg Outcome.calls h]; rfl
  · next h => rw [← show _ = _ from congrArg Outcome.calls h]; rfl

theorem lastly_state (p : Proc σ κ ε α) (q : Proc σ κ ε Unit) (s : σ) (past : List κ) :
    (p.lastly q s past).state = (q (p s past).state (past ++ (p s past).calls)).state := by
  unfold lastly
  split
  · next h => rw [← show _ = _ from congrArg Outcome.state h]; rfl
  · next h => rw [← show _ = _ from congrArg Outcome.state h]; rfl

/-- Clean-up that does not raise leaves the result as it is. -/
theorem lastly_ok {q : Proc σ κ ε Unit} {r : Except ε α} {u : σ} {closing : List κ}
    (hp : p s past = ⟨r, t, calls⟩) (hq : q t (past ++ calls) = ⟨.ok (), u, closing⟩) :
    p.lastly q s past = ⟨r, u, calls ++ closing⟩ := by
  unfold lastly andThen
  rw [hp, hq]

/-! ## 3. Trails -/

end Proc

/-- A relation between a record, the calls made from there on and the record after them, that
sequences keep. -/
structure Trail (σ κ : Type) where
  rel : σ → List κ → σ → Prop
  refl : ∀ s, rel s [] s
  append : ∀ {s t u a b}, rel s a t → rel t b u → rel s (a ++ b) u

/-- The calls are all of one kind. -/
def Trail.only (σ : Type) (C : κ → Prop) : Trail σ κ where
  rel _ calls _ := ∀ c ∈ calls, C c
  refl _ := by simp
  append ha hb := by
    intro c hc
    rcases List.mem_append.mp hc with hc | hc
    · exact ha c hc
    · exact hb c hc

namespace Proc

/-- Whatever happens, the program leaves the trail. -/
def Follows (p : Proc σ κ ε α) (R : Trail σ κ) : Prop :=
  ∀ s past, R.rel s (p s past).calls (p s past).state

variable {R : Trail σ κ} {p : Proc σ κ ε α}

theorem Follows.pure (a : α) : (Pure.pure a : Proc σ κ ε α).Follows R := fun s _ => R.refl s

theorem Follows.raise (e : ε) : (raise e : Proc σ κ ε α).Follows R := fun s _ => R.refl s

theorem Follows.lift (x : Except ε α) : (lift x : Proc σ κ ε α).Follows R := fun s _ => R.refl s

theorem Follows.get : (get : Proc σ κ ε σ).Follows R := fun s _ => R.refl s

theorem Follows.modify {f : σ → σ} (h : ∀ s, R.rel s [] (f s)) :
    (modify f : Proc σ κ ε Unit).Follows R := fun s _ => h s

theorem Follows.call {c : κ} (h : ∀ s, R.rel s [c] s) (answer : List κ → Except ε α) :
    (call c answer : Proc σ κ ε α).Follows R := fun s _ => h s

/-- What follows a part leaves the trail from where the part left it. -/
theorem andThen_follows {o : Outcome σ κ ε α} {s : σ} {past : List κ} {next : Proc σ κ ε β}
    (ho : R.rel s o.calls o.state) (hnext : next.Follows R) :
    R.rel s (andThen o past next).calls (andThen o past next).state :=
  R.append ho (hnext o.state (past ++ o.calls))

theorem Follows.bind {f : α → Proc σ κ ε β} (hp : p.Follows R) (hf : ∀ a, (f a).Follows R) :
    (p >>= f).Follows R := by
  intro s past
  have hps := hp s past
  rcases h : p s past with ⟨r, t, calls⟩
  rw [h] at hps
  cases r with
  | ok a =>
    rw [bind_ok h]
    exact andThen_follows hps (hf a)
  | error e =>
    rw [bind_error h]
    exact hps

/-- What an expression without calls returns, it returned. -/
theorem Follows.lift_bind {x : Except ε α} {f : α → Proc σ κ ε β}
    (hf : ∀ a, x = .ok a → (f a).Follows R) : (Proc.lift x >>= f).Follows R := by
  intro s past
  cases x with
  | ok a =>
    rw [lift_ok_bind]
    exact hf a rfl s past
  | error e =>
    rw [bind_error (show (Proc.lift (.error e) : Proc σ κ ε α) s past = ⟨.error e, s, []⟩ from rfl)]
    exact R.refl s

theorem Follows.catching {handler : ε → Proc σ κ ε α} (hp : p.Follows R)
    (hh : ∀ e, (handler e).Follows R) : (p.catching handler).Follows R := by
  intro s past
  have hps := hp s past
  rcases h : p s past with ⟨r, t, calls⟩
  rw [h] at hps
  cases r with
  | ok a =>
    rw [catching_ok h]
    exact hps
  | error e =>
    rw [catching_error h]
    exact andThen_follows (α := α) hps (hh e)

theorem Follows.lastly {q : Proc σ κ ε Unit} (hp : p.Follows R) (hq : q.Follows R) :
    (p.lastly q).Follows R := by
  intro s past
  rw [lastly_calls, lastly_state]
  exact R.append (hp s past) (hq _ _)

theorem Follows.cond {c : Bool} {q : Proc σ κ ε α} (hp : p.Follows R) (hq : q.Follows R) :
    (bif c then p else q).Follows R := by
  cases c with
  | true => exact hp
  | false => exact hq

theorem Follows.when {c : Bool} {p : Proc σ κ ε Unit} (hp : p.Follows R) :
    (when c p).Follows R := .cond hp (.pure ())

/-- A loop leaves the trail that each of its rounds leaves. -/
theorem Follows.forEach {body : Nat → α → Proc σ κ ε Unit} {xs : List α}
    (h : ∀ i, ∀ x ∈ xs, (body i x).Follows R) : ∀ i, (forEach body i xs).Follows R := by
  induction xs with
  | nil => exact fun i => .pure ()
  | cons x xs ih =>
    intro i
    exact .bind (h i x List.mem_cons_self) fun _ =>
      ih (fun j y hy => h j y (List.mem_cons_of_mem x hy)) (i + 1)

end Proc

end Effects
