/-
# The steps of a method

The methods of both stores go the same way: `_items`, some checks, a write, and the cache is
dropped.  The lemmas here say what a method does if one of these steps is its last; `Does` is one
of the outcomes of a cached file.
-/
import RaceLink.Stores.CachedFile
import RaceLink.Stores.Shared

namespace RaceLink

open Python CachedFile

/-! ## 1. The steps -/

/-- A result is an exception. -/
def raised {α : Type} : Except PyErr α → Bool
  | .ok _ => false
  | .error _ => true

/-- A run from the state `s` has one of the outcomes. -/
def Does {σ φ α β τ : Type} (S : Service σ φ α PyErr τ) (t : τ) (lost : Prop) (makes : Change α)
    (s : σ) (run : Except PyErr β × σ) : Prop :=
  Outcome S t lost makes s (raised run.1) run.2

/-- The end of a method in the state `s`: the entries are written with the counter `n` and the cache
is dropped, or the write fails and nothing has changed. -/
def Saves {σ φ α β τ : Type} (S : Service σ φ α PyErr τ) (t : τ) (s : σ) (n : Int) (es : List α)
    (run : Except PyErr β × σ) : Prop :=
  (∃ b s', run = (.ok b, s') ∧ S.file s' = S.written t n es ∧ S.cache s' = none) ∨
    S.diskOk t = false ∧ ∃ e, run = (.error e, s)

section

variable {σ φ α β γ τ : Type} {S : Service σ φ α PyErr τ} {t : τ} {lost : Prop}
  {makes : Change α} {s s₁ s₂ : σ} {es es' : List α} {n m : Int}

/-- Building something from the result of a method. -/
theorem Does.map {x : Script σ β} (f : β → γ) (h : Does S t lost makes s (x s₁)) :
    Does S t lost makes s ((x >>= fun a => pure (f a)) s₁) := by
  rw [Script.bind_run]
  rcases hx : x s₁ with ⟨_ | _, s'⟩
  · rw [hx] at h
    exact h
  · rw [hx] at h
    exact h

/-- Only the counter has moved. -/
theorem does_raise (hitems : S.items t s = (.ok es, s₁)) (hfile : S.file s₂ = S.file s₁)
    (hcache : S.cache s₂ = some es) (hnext : S.next s₁ = some n) (hm : S.next s₂ = some m)
    (hle : n ≤ m) (hlost : ¬ lost) (r : Except PyErr β) : Does S t lost makes s (r, s₂) :=
  .looked (fun _ => hlost) hitems hfile hcache hnext hm hle

/-- A method that starts with `_items`. -/
theorem does_items (hS : S.Lawful) (hseeded : S.Seeded s) {x : Script σ (List α)}
    (hx : x s = S.items t s) {f : List α → Script σ β}
    (hunread : ∀ e, (S.items t s).1 = .error e → ¬ lost)
    (h : ∀ es s₁ n, S.items t s = (.ok es, s₁) → S.cache s₁ = some es → S.next s₁ = some n →
      Does S t lost makes s (f es s₁)) :
    Does S t lost makes s ((x >>= f) s) := by
  rw [Script.bind_run, hx]
  rcases hitems : S.items t s with ⟨e | es, s₁⟩
  · exact .unread (hunread e (by rw [hitems])) hitems
  · obtain ⟨hcache, n, hnext⟩ := hS.items_seeded hseeded hitems
    exact h es s₁ n hitems hcache hnext

/-- `_items` itself. -/
theorem does_read (hS : S.Lawful) (hseeded : S.Seeded s) :
    Does S t False makes s (S.items t s) := by
  rcases hitems : S.items t s with ⟨e | es, s₁⟩
  · exact .unread id hitems
  · obtain ⟨hcache, n, hnext⟩ := hS.items_seeded hseeded hitems
    exact does_raise hitems rfl hcache hnext hnext (le_refl n) id _

/-- A method that only looks at the entries. -/
theorem does_look (hS : S.Lawful) (hseeded : S.Seeded s) {x : Script σ (List α)}
    (hx : x s = S.items t s) (f : List α → Except PyErr β) :
    Does S t False makes s ((x >>= fun es => Script.lift (f es)) s) :=
  does_items hS hseeded hx (fun _ _ => id) fun _ _ _ hitems hcache hnext =>
    does_raise hitems rfl hcache hnext hnext (le_refl _) id _

/-- A method that ends with a write, and has not touched the cached list. -/
theorem does_write {run : Except PyErr β × σ} (hitems : S.items t s = (.ok es, s₁))
    (hfile : S.file s₂ = S.file s₁) (hcache : S.cache s₂ = some es) (hnext : S.next s₁ = some n)
    (hm : S.next s₂ = some m) (hle : n ≤ m)
    (hmakes : makes es n es' m) (hsaves : Saves S t s₂ m es' run) : Does S t False makes s run := by
  rcases hsaves with ⟨b, s', rfl, hwritten, hdropped⟩ | ⟨-, e, rfl⟩
  · exact .wrote hitems hnext hwritten hdropped hmakes
  · exact does_raise hitems hfile hcache hnext hm hle id _

/-- The end of `create`: the entry is in the cached list before it is written. -/
theorem does_append {x : α} {run : Except PyErr β × σ} (hitems : S.items t s = (.ok es, s₁))
    (hnext : S.next s₁ = some n) (hfile : S.file s₂ = S.file s₁)
    (hcache : S.cache s₂ = some (es ++ [x])) (hm : S.next s₂ = some m)
    (hmakes : makes es n (es ++ [x]) m) (hlost : (∃ e, run = (.error e, s₂)) → lost)
    (hsaves : Saves S t s₂ m (es ++ [x]) run) : Does S t lost makes s run := by
  rcases hsaves with ⟨b, s', rfl, hwritten, hdropped⟩ | ⟨hdisk, e, rfl⟩
  · exact .wrote hitems hnext hwritten hdropped hmakes
  · exact .phantom (hlost ⟨e, rfl⟩) hdisk hitems hnext hfile hcache hm hmakes

/-- The write at the end of a method, and what follows it: the cache is dropped. -/
theorem saves_bind {w : Script σ Unit} {ok : Bool} {written s' : σ} {f : Unit → Script σ β} {b : β}
    (hw : w s = if ok = true then (.ok (), written) else (.error .osError, s))
    (hok : ok = false → S.diskOk t = false) (hf : f () written = (.ok b, s'))
    (hfile : S.file s' = S.written t n es) (hcache : S.cache s' = none) :
    Saves S t s n es ((w >>= f) s) := by
  rw [Script.bind_run, hw]
  cases ok with
  | true => exact .inl ⟨b, s', hf, hfile, hcache⟩
  | false => exact .inr ⟨hok rfl, .osError, rfl⟩

/-- It raises when the write fails, and only then. -/
theorem ok_of_error {w : Script σ Unit} {ok : Bool} {written s' : σ} {f : Unit → Script σ β} {b : β}
    (hw : w s = if ok = true then (.ok (), written) else (.error .osError, s))
    (hf : f () written = (.ok b, s')) (herror : ∃ e, (w >>= f) s = (.error e, s₂)) :
    ok = false := by
  obtain ⟨e, herror⟩ := herror
  rw [Script.bind_run, hw] at herror
  cases ok with
  | true =>
    rw [if_pos rfl] at herror
    simp only [hf] at herror
    cases herror
  | false => rfl

/-! ## 2. What becomes of the names -/

/-- An entry is appended under the counter's id and a free key. -/
theorem follows_of_append {x : α} (hid : (S.name x).1 = n)
    (hkey : (S.name x).2 ∉ es.map fun e => (S.name e).2) (hsound : (S.bookOf es n).Sound) :
    Ledger.Follows (S.bookOf es n) (S.bookOf (es ++ [x]) (n + 1)) := by
  have hnames : S.bookOf (es ++ [x]) (n + 1)
      = ⟨(S.bookOf es n).names ++ [(n, (S.name x).2)], n + 1⟩ := by
    rw [Service.bookOf, List.map_append, ← hid]
    rfl
  have hfree : (S.name x).2 ∉ (S.bookOf es n).names.map (·.2) := by
    rw [Service.bookOf, List.map_map]
    exact hkey
  rw [hnames]
  exact Ledger.Follows.add hsound hfree (Int.lt_succ n)

/-- The names are unchanged. -/
theorem follows_of_map_name (h : es'.map S.name = es.map S.name)
    (hsound : (S.bookOf es n).Sound) : Ledger.Follows (S.bookOf es n) (S.bookOf es' n) := by
  rw [Service.bookOf, Service.bookOf, h]
  exact Ledger.Follows.advance hsound (le_refl n)

/-- All entries come from a bulk replacement. -/
theorem follows_of_claimed {seenKeys : List String} (h : Claimed S.name seenKeys n m es')
    (hle : n ≤ m) : Ledger.Follows (S.bookOf es n) (S.bookOf es' m) := by
  refine Ledger.Follows.replace ⟨?_, ?_, ?_⟩ ?_ hle
  · rw [Service.bookOf, List.map_map]
    exact h.ids
  · rw [Service.bookOf, List.map_map]
    exact h.keys
  · exact List.forall_mem_map.mpr fun x hx => (h.range x hx).2
  · exact List.forall_mem_map.mpr fun x hx => (h.range x hx).1

end

end RaceLink
