/-
# Ids that are never given twice

A store gives its entries ids from a counter.  A `Book` is what matters of it: the names of the
entries, each an id and a key, and the counter.  `Follows` is one change of the store: an entry of
the new book was in the old one, or has an id from the counter on; and the counter does not fall.

`Keeps` says that a system's steps follow each other in this sense, for the books its states
`hold`.  Then, over any run, the counter is above every id ever held (`Keeps.above`), and an id that
comes into the store has not been in it before (`Keeps.fresh`): not the id of another entry, and not
of one that was deleted.
-/
import Mathlib.Data.List.Infix
import Mathlib.Data.List.Nodup
import Mathlib.Order.Lattice

namespace Ledger

variable {ι κ : Type} [LinearOrder ι]

/-! ## 1. Books -/

/-- The names of the entries, and the counter. -/
structure Book (ι κ : Type) where
  names : List (ι × κ)
  next : ι

/-- Ids and keys are different, and the counter is above the ids. -/
structure Book.Sound (b : Book ι κ) : Prop where
  ids : (b.names.map (·.1)).Nodup
  keys : (b.names.map (·.2)).Nodup
  below : ∀ e ∈ b.names, e.1 < b.next

/-- `b'` comes after `b`. -/
structure Follows (b b' : Book ι κ) : Prop where
  sound : b'.Sound
  kept : ∀ e ∈ b'.names, e ∈ b.names ∨ b.next ≤ e.1
  next : b.next ≤ b'.next

/-- The counter may run ahead. -/
theorem Book.Sound.mono {b : Book ι κ} (h : b.Sound) {n : ι} (hn : b.next ≤ n) :
    (Book.mk b.names n).Sound :=
  ⟨h.ids, h.keys, fun e he => lt_of_lt_of_le (h.below e he) hn⟩

/-- Nothing changes but the counter. -/
theorem Follows.advance {b : Book ι κ} (h : b.Sound) {n : ι} (hn : b.next ≤ n) :
    Follows b ⟨b.names, n⟩ :=
  ⟨h.mono hn, fun _ he => Or.inl he, hn⟩

/-- Entries are removed. -/
theorem Follows.remove {b : Book ι κ} (h : b.Sound) {names : List (ι × κ)}
    (hsub : names.Sublist b.names) : Follows b ⟨names, b.next⟩ :=
  ⟨⟨h.ids.sublist (hsub.map _), h.keys.sublist (hsub.map _),
      fun e he => h.below e (hsub.subset he)⟩,
    fun _ he => Or.inl (hsub.subset he), le_refl _⟩

/-- An entry is added under the counter's id and a new key. -/
theorem Follows.add {b : Book ι κ} (h : b.Sound) {key : κ} (hkey : key ∉ b.names.map (·.2))
    {next' : ι} (hnext : b.next < next') : Follows b ⟨b.names ++ [(b.next, key)], next'⟩ := by
  have hid : b.next ∉ b.names.map (·.1) := by
    intro hmem
    obtain ⟨e, he, heq⟩ := List.mem_map.mp hmem
    exact absurd (h.below e he) (by rw [heq]; exact lt_irrefl _)
  refine ⟨⟨?_, ?_, ?_⟩, ?_, le_of_lt hnext⟩
  · rw [List.map_append, List.nodup_append_comm]
    exact List.nodup_cons.mpr ⟨hid, h.ids⟩
  · rw [List.map_append, List.nodup_append_comm]
    exact List.nodup_cons.mpr ⟨hkey, h.keys⟩
  · intro e he
    rcases List.mem_append.mp he with he | he
    · exact lt_trans (h.below e he) hnext
    · rw [List.mem_singleton.mp he]
      exact hnext
  · intro e he
    rcases List.mem_append.mp he with he | he
    · exact Or.inl he
    · rw [List.mem_singleton.mp he]
      exact Or.inr (le_refl _)

/-- All entries are new. -/
theorem Follows.replace {b b' : Book ι κ} (h : b'.Sound) (hnew : ∀ e ∈ b'.names, b.next ≤ e.1)
    (hnext : b.next ≤ b'.next) : Follows b b' :=
  ⟨h, fun e he => Or.inr (hnew e he), hnext⟩

/-! ## 2. Runs -/

/-- A system whose states hold books that follow each other, as long as its steps meet `ok`. -/
structure Keeps {σ α : Type} (step : σ → α → σ) (ok : α → Prop) (holds : σ → Book ι κ → Prop) :
    Prop where
  unique : ∀ {s b b'}, holds s b → holds s b' → b = b'
  sound : ∀ {s b}, holds s b → b.Sound
  step : ∀ {s b a}, holds s b → ok a → ∃ b', holds (step s a) b' ∧ Follows b b'

namespace Keeps

variable {σ α : Type} {step : σ → α → σ} {ok : α → Prop} {holds : σ → Book ι κ → Prop}

/-- A run ends in a state that holds a book, and the counter has not fallen. -/
theorem run (h : Keeps step ok holds) {as : List α} (hok : ∀ a ∈ as, ok a) {s : σ} {b : Book ι κ}
    (hs : holds s b) : ∃ b', holds (as.foldl step s) b' ∧ b.next ≤ b'.next := by
  induction as generalizing s b with
  | nil => exact ⟨b, hs, le_refl _⟩
  | cons a as ih =>
    obtain ⟨ha, has⟩ := List.forall_mem_cons.mp hok
    obtain ⟨b', hb', hfollows⟩ := h.step hs ha
    obtain ⟨b'', hb'', hle⟩ := ih has hb'
    exact ⟨b'', hb'', le_trans hfollows.next hle⟩

/-- **The counter** is above every id held so far. -/
theorem above (h : Keeps step ok holds) {as early : List α} (hok : ∀ a ∈ as, ok a)
    (hearly : early <+: as) {s : σ} {b₁ b₂ : Book ι κ}
    (h₁ : holds (early.foldl step s) b₁) (h₂ : holds (as.foldl step s) b₂) :
    b₁.next ≤ b₂.next ∧ ∀ e ∈ b₁.names, e.1 < b₂.next := by
  obtain ⟨rest, rfl⟩ := hearly
  rw [List.foldl_append] at h₂
  obtain ⟨b', hb', hle⟩ := h.run (fun a ha => hok a (List.mem_append_right _ ha)) h₁
  obtain rfl := h.unique h₂ hb'
  exact ⟨hle, fun e he => lt_of_lt_of_le ((h.sound h₁).below e he) hle⟩

/-- **Freshness**: an entry after a step was there before it, or has an id that was never held. -/
theorem fresh (h : Keeps step ok holds) {as : List α} {a : α} (hok : ∀ x ∈ as, ok x) (ha : ok a)
    {s : σ} {b₁ b₂ : Book ι κ} (h₁ : holds (as.foldl step s) b₁)
    (h₂ : holds ((as ++ [a]).foldl step s) b₂) {e : ι × κ} (he : e ∈ b₂.names) :
    e ∈ b₁.names ∨ ∀ early, early <+: as → ∀ b₀, holds (early.foldl step s) b₀ →
      e.1 ∉ b₀.names.map (·.1) := by
  rw [List.foldl_append, List.foldl_cons, List.foldl_nil] at h₂
  obtain ⟨b', hb', hfollows⟩ := h.step h₁ ha
  obtain rfl := h.unique h₂ hb'
  refine (hfollows.kept e he).imp_right fun hnew early hearly b₀ h₀ hmem => ?_
  obtain ⟨e₀, he₀, heq⟩ := List.mem_map.mp hmem
  have hbelow := (h.above hok hearly h₀ h₁).2 e₀ he₀
  rw [heq] at hbelow
  exact absurd (lt_of_lt_of_le hbelow hnew) (lt_irrefl _)

end Keeps

/-! ## 3. What is seen of a run -/

/-- What a reader finds over the runs from `s₀` whose calls all meet `ok`: `names` lists the
entries and `counter` is the counter, for a reader that meets `works`. -/
structure IdsNeverReused {σ α τ : Type} (step : σ → α → σ) (ok : α → Prop) (works : τ → Prop)
    (names : τ → σ → Option (List (ι × κ))) (counter : τ → σ → Option ι) (s₀ : σ) : Prop where
  /-- The entries are listed, with different ids and different keys. -/
  distinct : ∀ calls : List α, (∀ c ∈ calls, ok c) → ∀ t : τ, works t →
    ∃ ns, names t (calls.foldl step s₀) = some ns ∧ (ns.map (·.1)).Nodup ∧ (ns.map (·.2)).Nodup
  /-- The counter is above every id that was ever listed. -/
  above : ∀ calls : List α, (∀ c ∈ calls, ok c) → ∀ t : τ, works t →
    ∃ n, counter t (calls.foldl step s₀) = some n ∧
      ∀ early : List α, early <+: calls → ∀ t' : τ, works t' →
      ∀ ns, names t' (early.foldl step s₀) = some ns → ∀ e ∈ ns, e.1 < n
  /-- What is listed after a call was listed before it, or has an id that was never listed. -/
  fresh : ∀ (calls : List α) (c : α), (∀ x ∈ calls, ok x) → ok c → ∀ t t' : τ, works t → works t' →
    ∀ ns ns', names t (calls.foldl step s₀) = some ns →
      names t' ((calls ++ [c]).foldl step s₀) = some ns' → ∀ e ∈ ns',
        e ∈ ns ∨ ∀ early : List α, early <+: calls → ∀ t'' : τ, works t'' → ∀ ns'',
          names t'' (early.foldl step s₀) = some ns'' → e.1 ∉ ns''.map (·.1)

/-- **The ledger, seen**: where the readers find what the states hold. -/
theorem Keeps.idsNeverReused {σ α τ : Type} {step : σ → α → σ} {ok : α → Prop} {works : τ → Prop}
    {holds : σ → Book ι κ → Prop} {names : τ → σ → Option (List (ι × κ))}
    {counter : τ → σ → Option ι} (h : Keeps step ok holds)
    (hseen : ∀ {s b t}, holds s b → works t →
      names t s = some b.names ∧ ∃ n, counter t s = some n ∧ b.next ≤ n)
    {s₀ : σ} {b₀ : Book ι κ} (h₀ : holds s₀ b₀) :
    IdsNeverReused step ok works names counter s₀ := by
  have hreached : ∀ {calls early : List α}, (∀ c ∈ calls, ok c) → early <+: calls →
      ∃ b, holds (early.foldl step s₀) b := by
    intro calls early hok hearly
    obtain ⟨b, hb, -⟩ := h.run (fun c hc => hok c (hearly.subset hc)) h₀
    exact ⟨b, hb⟩
  constructor
  · intro calls hok t ht
    obtain ⟨b, hb⟩ := hreached hok List.prefix_rfl
    exact ⟨b.names, (hseen hb ht).1, (h.sound hb).ids, (h.sound hb).keys⟩
  · intro calls hok t ht
    obtain ⟨b, hb⟩ := hreached hok List.prefix_rfl
    obtain ⟨-, n, hn, hle⟩ := hseen hb ht
    refine ⟨n, hn, fun early hearly t' ht' ns hns e he => ?_⟩
    obtain ⟨b₁, hb₁⟩ := hreached hok hearly
    rw [(hseen hb₁ ht').1] at hns
    cases hns
    exact lt_of_lt_of_le ((h.above hok hearly hb₁ hb).2 e he) hle
  · intro calls c hok hc t t' ht ht' ns ns' hns hns' e he
    obtain ⟨b₁, hb₁⟩ := hreached hok List.prefix_rfl
    have hok' : ∀ x ∈ calls ++ [c], ok x := by
      intro x hx
      rcases List.mem_append.mp hx with hx | hx
      · exact hok x hx
      · rw [List.mem_singleton.mp hx]
        exact hc
    obtain ⟨b₂, hb₂⟩ := hreached hok' List.prefix_rfl
    rw [(hseen hb₁ ht).1] at hns
    rw [(hseen hb₂ ht').1] at hns'
    cases hns
    cases hns'
    refine (h.fresh hok hc hb₁ hb₂ he).imp_right fun hnew early hearly t'' ht'' ns'' hns'' => ?_
    obtain ⟨b₀', hb₀'⟩ := hreached hok hearly
    rw [(hseen hb₀' ht'').1] at hns''
    cases hns''
    exact hnew early hearly b₀' hb₀'

end Ledger
