/-
# Machines that read symbols and put out results

A machine takes a symbol at a time, changes its state and puts out a list of results.  `feed` runs
it over a list.  `Feeds` is the same as a relation, with the rules a proof composes runs with: one
symbol, a concatenation, a list of segments.

`feedChunks_eq` is the reason a machine may be given its input in pieces: the state carries over.
-/
import Mathlib.Data.List.Basic

namespace Lts

/-- A machine with states `σ` that reads `α` and puts out `β`. -/
abbrev Transducer (σ α β : Type) := σ → α → σ × List β

variable {σ α β γ : Type} {m : Transducer σ α β}

/-- Read a list. -/
def feed (m : Transducer σ α β) : σ → List α → σ × List β
  | s, [] => (s, [])
  | s, x :: xs => ((feed m (m s x).1 xs).1, (m s x).2 ++ (feed m (m s x).1 xs).2)

/-- Read a list that comes in pieces. -/
def feedChunks (m : Transducer σ α β) : σ → List (List α) → σ × List β
  | s, [] => (s, [])
  | s, chunk :: chunks =>
    ((feedChunks m (feed m s chunk).1 chunks).1,
      (feed m s chunk).2 ++ (feedChunks m (feed m s chunk).1 chunks).2)

/-- From `s` the machine reads `xs`, puts out `out` and ends in `t`. -/
def Feeds (m : Transducer σ α β) (s : σ) (xs : List α) (t : σ) (out : List β) : Prop :=
  feed m s xs = (t, out)

theorem Feeds.nil (s : σ) : Feeds m s [] s [] := rfl

theorem Feeds.cons {s t u : σ} {x : α} {xs : List α} {out out' : List β} (hx : m s x = (t, out))
    (h : Feeds m t xs u out') : Feeds m s (x :: xs) u (out ++ out') := by
  rw [Feeds, feed, hx, h]

theorem Feeds.single {s t : σ} {x : α} {out : List β} (hx : m s x = (t, out)) :
    Feeds m s [x] t out := by
  have h := Feeds.cons hx (Feeds.nil t)
  rwa [List.append_nil] at h

/-- **Concatenation**: runs compose. -/
theorem Feeds.append {s t u : σ} {xs ys : List α} {out out' : List β} (h : Feeds m s xs t out)
    (h' : Feeds m t ys u out') : Feeds m s (xs ++ ys) u (out ++ out') := by
  induction xs generalizing s out with
  | nil =>
    cases h
    exact h'
  | cons x xs ih =>
    cases h
    have hrest : Feeds m (m s x).1 (xs ++ ys) u ((feed m (m s x).1 xs).2 ++ out') := ih rfl
    rw [List.cons_append, List.append_assoc]
    exact Feeds.cons rfl hrest

/-- **Segments**: when every segment is read from a state with `P` to a state with `P`, so is any
list of them. -/
theorem Feeds.flatMap {P : σ → Prop} {f : γ → List α} {g : γ → List β}
    (h : ∀ c s, P s → ∃ t, P t ∧ Feeds m s (f c) t (g c)) (cs : List γ) {s : σ} (hs : P s) :
    ∃ t, P t ∧ Feeds m s (cs.flatMap f) t (cs.flatMap g) := by
  induction cs generalizing s with
  | nil => exact ⟨s, hs, Feeds.nil s⟩
  | cons c cs ih =>
    obtain ⟨t, ht, hc⟩ := h c s hs
    obtain ⟨u, hu, hcs⟩ := ih ht
    exact ⟨u, hu, hc.append hcs⟩

/-- **Pieces**: how the input is cut does not matter. -/
theorem feedChunks_eq (s : σ) (chunks : List (List α)) :
    feedChunks m s chunks = feed m s chunks.flatten := by
  induction chunks generalizing s with
  | nil => rfl
  | cons chunk chunks ih =>
    have h : Feeds m s (chunk ++ chunks.flatten) _ _ := Feeds.append rfl rfl
    rw [feedChunks, ih, List.flatten_cons]
    exact h.symm

end Lts
