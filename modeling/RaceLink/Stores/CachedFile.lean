/-
# Entries behind a cache

A service over a file keeps the entries it has read in a cache, and the counter for their ids.  A
call takes the entries from the cache, or reads the file into it; then it fails, or answers, or
writes the whole list back and drops the cache.

`Outcome` lists what a call can do.  One of its cases is a fault: a call that adds an entry to the
cached list itself, and then fails to write it, leaves an entry behind that is in no file
(`phantom`).  Two properties follow from the list.

* As long as all writes succeed, what the files hold are the books of a ledger that is kept
  (`Service.keeps`).
* A call that raises is not seen by those who read afterwards, except in the faulty case
  (`Outcome.unseen_iff`).
-/
import RaceLink.Ledger.Basic
import Mathlib.Data.Int.Order.Basic

namespace CachedFile

open Ledger

/-- A service: its fields, what reading the entries does, and what a write leaves in the file.
`τ` is what a call meets outside the service, `ε` the exceptions. -/
structure Service (σ φ α ε τ : Type) where
  file : σ → φ
  cache : σ → Option (List α)
  next : σ → Option Int
  /-- A new service over a file. -/
  start : φ → σ
  /-- The entries, from the cache or from the file. -/
  items : τ → σ → Except ε (List α) × σ
  written : τ → Int → List α → φ
  /-- All writes succeed. -/
  diskOk : τ → Bool
  name : α → Int × String
  /-- What a file says of the names of its entries and of the counter. -/
  book : φ → Option (Book Int String)
  /-- Reading the file does not raise. -/
  Readable : φ → Prop
  /-- What the file holds is something a parser gives. -/
  Parsed : φ → Prop

variable {σ φ α ε τ : Type}

namespace Service

variable (S : Service σ φ α ε τ)

/-- The names of the entries and a counter. -/
def bookOf (es : List α) (n : Int) : Book Int String := ⟨es.map S.name, n⟩

/-- How reading and writing fit together. -/
structure Lawful : Prop where
  file_start : ∀ f, S.file (S.start f) = f
  cache_start : ∀ f, S.cache (S.start f) = none
  cached : ∀ {s es} (t : τ), S.cache s = some es → S.items t s = (.ok es, s)
  uncached : ∀ {s} (t : τ), S.cache s = none → (S.items t s).1 = (S.items t (S.start (S.file s))).1
  raised : ∀ {s t e s'}, S.items t s = (.error e, s') → S.file s' = S.file s ∧ S.cache s' = none
  loaded : ∀ {s t es s'}, S.cache s = none → S.items t s = (.ok es, s') →
    S.cache s' = some es ∧ (∃ n, S.next s' = some n) ∧
      (S.Parsed (S.file s) → S.Parsed (S.file s') ∧
        ∃ t', (S.items t' (S.start (S.file s'))).1 = .ok es) ∧
      (S.Readable (S.file s) → S.Readable (S.file s')) ∧
      ∀ b, S.book (S.file s) = some b → S.book (S.file s') = some b ∧ es.map S.name = b.names ∧
        S.next s' = some b.next
  returns : ∀ {s t}, S.Readable (S.file s) → S.diskOk t = true → ∃ es s', S.items t s = (.ok es, s')
  readable_written : ∀ (t : τ) (n : Int) (es : List α), S.Readable (S.written t n es)
  parsed_written : ∀ (t : τ) (n : Int) (es : List α), S.Parsed (S.written t n es)
  book_written : ∀ (t : τ) {n : Int} {es : List α}, (S.bookOf es n).Sound →
    ∃ m, n ≤ m ∧ S.book (S.written t n es) = some (S.bookOf es m)

/-- What is cached came with a counter. -/
def Seeded (s : σ) : Prop := ∀ es, S.cache s = some es → ∃ n, S.next s = some n

variable {S}

/-- After reading, the entries are cached, and the counter is known. -/
theorem Lawful.items_seeded (hS : S.Lawful) {s s₁ : σ} {t : τ} {es : List α} (hseeded : S.Seeded s)
    (h : S.items t s = (.ok es, s₁)) : S.cache s₁ = some es ∧ ∃ n, S.next s₁ = some n := by
  cases hcache : S.cache s with
  | some cached =>
    rw [hS.cached t hcache] at h
    cases h
    exact ⟨hcache, hseeded es hcache⟩
  | none =>
    obtain ⟨hcached, hnext, -⟩ := hS.loaded hcache h
    exact ⟨hcached, hnext⟩

end Service

/-! ## 1. What a call can do -/

/-- What a call makes of the entries and the counter: the ones before, and the ones after. -/
abbrev Change (α : Type) : Type := List α → Int → List α → Int → Prop

/-- The state after a call made in the state `s`, and whether it has raised.  `makes` is the list
the call is to write, and `lost` the condition under which it adds an entry to the cached list and
does not get it written. -/
inductive Outcome (S : Service σ φ α ε τ) (t : τ) (lost : Prop) (makes : Change α) (s : σ) :
    Bool → σ → Prop where
  /-- It does not come to read anything. -/
  | early {raised} : (raised = true → ¬ lost) → Outcome S t lost makes s raised s
  /-- The entries cannot be read. -/
  | unread {e s'} : ¬ lost → S.items t s = (.error e, s') → Outcome S t lost makes s true s'
  /-- It has the entries, and changes nothing but the counter. -/
  | looked {es s₁ s' n n' raised} : (raised = true → ¬ lost) → S.items t s = (.ok es, s₁) →
      S.file s' = S.file s₁ → S.cache s' = some es → S.next s₁ = some n → S.next s' = some n' →
      n ≤ n' → Outcome S t lost makes s raised s'
  /-- It writes a new list. -/
  | wrote {es s₁ s' n es' n'} : S.items t s = (.ok es, s₁) → S.next s₁ = some n →
      S.file s' = S.written t n' es' → S.cache s' = none → makes es n es' n' →
      Outcome S t lost makes s false s'
  /-- It adds an entry to the cached list, and fails to write. -/
  | phantom {es s₁ s' e n n'} : lost → S.diskOk t = false → S.items t s = (.ok es, s₁) →
      S.next s₁ = some n → S.file s' = S.file s₁ → S.cache s' = some (es ++ [e]) →
      S.next s' = some n' → makes es n (es ++ [e]) n' → Outcome S t lost makes s true s'

variable {S : Service σ φ α ε τ}

/-- What a call does after it has read the entries, it has done; the list it makes may then be
described by the entries it has read. -/
theorem Outcome.after_items (hS : S.Lawful) {t : τ} {lost : Prop} {makes makes' : Change α}
    {s s₁ s' : σ} {es : List α} {n : Int} {raised : Bool} (hitems : S.items t s = (.ok es, s₁))
    (hcache : S.cache s₁ = some es) (hnext : S.next s₁ = some n)
    (hmakes : ∀ {es' n'}, makes es n es' n' → makes' es n es' n')
    (ho : Outcome S t lost makes s₁ raised s') : Outcome S t lost makes' s raised s' := by
  have hagain := hS.cached t hcache
  cases ho with
  | early hlost => exact .looked hlost hitems rfl hcache hnext hnext (le_refl n)
  | unread _ herror =>
    rw [hagain] at herror
    cases herror
  | looked hlost hok hfile hcache' hn hn' hle =>
    rw [hagain] at hok
    cases hok
    exact .looked hlost hitems hfile hcache' hn hn' hle
  | wrote hok hn hfile hcache' h =>
    rw [hagain] at hok
    cases hok
    rw [hnext] at hn
    cases hn
    exact .wrote hitems hnext hfile hcache' (hmakes h)
  | phantom hlost hdisk hok hn hfile hcache' hn' h =>
    rw [hagain] at hok
    cases hok
    rw [hnext] at hn
    cases hn
    exact .phantom hlost hdisk hitems hnext hfile hcache' hn' (hmakes h)

/-! ## 2. The ledger -/

/-- The state agrees with its file: the file's book is sound, and what is cached has its names, with
a counter that has not fallen behind. -/
structure Service.Holds (S : Service σ φ α ε τ) (s : σ) (b : Book Int String) : Prop where
  sound : b.Sound
  readable : S.Readable (S.file s)
  book : S.book (S.file s) = some b
  cached : ∀ es, S.cache s = some es → es.map S.name = b.names ∧ ∃ n, S.next s = some n ∧ b.next ≤ n

theorem Service.Holds.seeded {s : σ} {b : Book Int String} (h : S.Holds s b) : S.Seeded s := by
  intro es hes
  obtain ⟨-, n, hnext, -⟩ := h.cached es hes
  exact ⟨n, hnext⟩

/-- Reading finds the names of the book, and a counter that is above them. -/
theorem Service.Holds.items (hS : S.Lawful) {s : σ} {b : Book Int String} (h : S.Holds s b) {t : τ}
    {es : List α} {s₁ : σ} (hitems : S.items t s = (.ok es, s₁)) :
    S.Holds s₁ b ∧ S.cache s₁ = some es ∧ es.map S.name = b.names ∧
      ∃ n, S.next s₁ = some n ∧ b.next ≤ n := by
  cases hcache : S.cache s with
  | some cached =>
    rw [hS.cached t hcache] at hitems
    cases hitems
    exact ⟨h, hcache, h.cached es hcache⟩
  | none =>
    obtain ⟨hcached, -, -, hreadable, hbook⟩ := hS.loaded hcache hitems
    obtain ⟨hbook, hnames, hnext⟩ := hbook b h.book
    refine ⟨⟨h.sound, hreadable h.readable, hbook, fun es' hes' => ?_⟩, hcached, hnames, _, hnext,
      le_refl _⟩
    rw [hcached] at hes'
    cases hes'
    exact ⟨hnames, _, hnext, le_refl _⟩

/-- The names of the list a call makes follow those before it. -/
def Service.Orderly (S : Service σ φ α ε τ) (makes : Change α) : Prop :=
  ∀ {es n es' n'}, makes es n es' n' → (S.bookOf es n).Sound →
    Follows (S.bookOf es n) (S.bookOf es' n')

/-- **One call**, with its writes succeeding: the state holds a book that follows. -/
theorem Outcome.follows (hS : S.Lawful) {t : τ} {lost : Prop} {makes : Change α}
    (horderly : S.Orderly makes) {s s' : σ} {raised : Bool}
    {b : Book Int String} (h : S.Holds s b) (hdisk : S.diskOk t = true)
    (ho : Outcome S t lost makes s raised s') : ∃ b', S.Holds s' b' ∧ Follows b b' := by
  have hsame : Follows b b := Follows.advance h.sound (le_refl _)
  cases ho with
  | early => exact ⟨b, h, hsame⟩
  | unread _ hitems =>
    obtain ⟨es, s₂, hok⟩ := hS.returns h.readable hdisk
    rw [hitems] at hok
    cases hok
  | looked _ hitems hfile hcache hn hn' hle =>
    obtain ⟨h₁, -, hnames, n, hnext, hfloor⟩ := h.items hS hitems
    rw [hn] at hnext
    cases hnext
    refine ⟨b, ⟨h.sound, hfile ▸ h₁.readable, hfile ▸ h₁.book, fun es' hes' => ?_⟩, hsame⟩
    rw [hcache] at hes'
    cases hes'
    exact ⟨hnames, _, hn', le_trans hfloor hle⟩
  | @wrote es s₁ _ n es' n' hitems hn hfile hcache hmakes =>
    obtain ⟨h₁, -, hnames, m, hnext, hfloor⟩ := h.items hS hitems
    rw [hn] at hnext
    cases hnext
    have hsound : (S.bookOf es n).Sound := by
      rw [Service.bookOf, hnames]
      exact h.sound.mono hfloor
    have hnew := horderly hmakes hsound
    obtain ⟨k, hk, hbook⟩ := hS.book_written t hnew.sound
    refine ⟨S.bookOf es' k, ⟨hnew.sound.mono hk, hfile ▸ hS.readable_written t n' es',
      hfile ▸ hbook, fun es'' hes'' => ?_⟩, ?_⟩
    · rw [hcache] at hes''
      cases hes''
    · refine ⟨hnew.sound.mono hk, fun e he => ?_, le_trans hfloor (le_trans hnew.next hk)⟩
      rcases hnew.kept e he with hold | hid
      · rw [Service.bookOf, hnames] at hold
        exact Or.inl hold
      · exact Or.inr (le_trans hfloor hid)
  | phantom _ hfail =>
    rw [hdisk] at hfail
    cases hfail

/-- A restart keeps the book. -/
theorem Service.Holds.restart (hS : S.Lawful) {s : σ} {b : Book Int String} (h : S.Holds s b) :
    S.Holds (S.start (S.file s)) b := by
  refine ⟨h.sound, ?_, ?_, fun es hes => ?_⟩
  · rw [hS.file_start]
    exact h.readable
  · rw [hS.file_start]
    exact h.book
  · rw [hS.cache_start] at hes
    cases hes

/-- **The ledger is kept** while all writes succeed, by a system whose steps are calls and
restarts. -/
theorem Service.keeps {γ : Type} (hS : S.Lawful) {step : σ → γ → σ} {meets : γ → τ}
    (hstep : ∀ s b c, S.Holds s b → step s c = S.start (S.file s) ∨
      ∃ lost makes raised, S.Orderly makes ∧ Outcome S (meets c) lost makes s raised (step s c)) :
    Keeps step (fun c => S.diskOk (meets c) = true) S.Holds where
  unique h h' := Option.some.inj (h.book.symm.trans h'.book)
  sound h := h.sound
  step h hok := by
    rcases hstep _ _ _ h with hrestart | ⟨lost, makes, raised, horderly, ho⟩
    · rw [hrestart]
      exact ⟨_, h.restart hS, Follows.advance h.sound (le_refl _)⟩
    · exact ho.follows hS horderly h hok

/-! ## 3. Failed calls -/

/-- A call that led from `s` to `s'` is not seen by those who read: at the moment of the call, or at
any time if the entries had been read before, they find what they would have found; and what they
find is what they find in a new service over the file. -/
structure Unseen {ρ : Type} (S : Service σ φ α ε τ) (reads : τ → σ → ρ) (t : τ) (s s' : σ) :
    Prop where
  same : reads t s' = reads t s
  later : S.cache s ≠ none → ∀ t', reads t' s' = reads t' s
  onDisk : ∀ t', ∃ t'', reads t' s' = reads t'' (S.start (S.file s'))

/-- What is cached was read from the file, and the counter with it. -/
structure Service.Faithful (S : Service σ φ α ε τ) (s : σ) : Prop where
  parsed : S.Parsed (S.file s)
  seeded : S.Seeded s
  onDisk : ∀ es, S.cache s = some es → ∃ t, (S.items t (S.start (S.file s))).1 = .ok es

/-- With nothing cached there is nothing to agree with. -/
theorem Service.faithful_of_uncached {s : σ} (hparsed : S.Parsed (S.file s))
    (h : S.cache s = none) : S.Faithful s := by
  refine ⟨hparsed, ?_, ?_⟩
  · intro es hes
    rw [h] at hes
    cases hes
  · intro es hes
    rw [h] at hes
    cases hes

/-- A new service is faithful. -/
theorem Service.faithful_start (hS : S.Lawful) {f : φ} (hparsed : S.Parsed f) :
    S.Faithful (S.start f) :=
  S.faithful_of_uncached ((hS.file_start f).symm ▸ hparsed) (hS.cache_start f)

/-- Reading keeps the state faithful, and caches what is read. -/
theorem Service.Faithful.items (hS : S.Lawful) {s s₁ : σ} (h : S.Faithful s) {t : τ} {es : List α}
    (hitems : S.items t s = (.ok es, s₁)) : S.Faithful s₁ ∧ S.cache s₁ = some es := by
  cases hs : S.cache s with
  | some es' =>
    rw [hS.cached t hs] at hitems
    cases hitems
    exact ⟨h, hs⟩
  | none =>
    obtain ⟨hcache, hnext, hparsed, -⟩ := hS.loaded hs hitems
    obtain ⟨hparsed, hdisk⟩ := hparsed h.parsed
    refine ⟨⟨hparsed, fun _ _ => hnext, fun es' hes' => ?_⟩, hcache⟩
    rw [hcache] at hes'
    cases hes'
    exact hdisk

/-- Faithful states are read as their file is. -/
theorem Service.Faithful.items_onDisk (hS : S.Lawful) {s : σ} (h : S.Faithful s) (t : τ) :
    ∃ t', (S.items t s).1 = (S.items t' (S.start (S.file s))).1 := by
  cases hcache : S.cache s with
  | none => exact ⟨t, hS.uncached t hcache⟩
  | some es =>
    obtain ⟨t', ht'⟩ := h.onDisk es hcache
    exact ⟨t', by rw [hS.cached t hcache, ht']⟩

/-- A call keeps the state faithful, unless an entry is lost. -/
theorem Outcome.faithful (hS : S.Lawful) {t : τ} {lost : Prop} {makes : Change α}
    {s s' : σ} {raised : Bool} (h : S.Faithful s) (hlost : ¬ lost)
    (ho : Outcome S t lost makes s raised s') : S.Faithful s' := by
  cases ho with
  | early => exact h
  | unread _ hitems =>
    obtain ⟨hfile, hcache⟩ := hS.raised hitems
    exact S.faithful_of_uncached (hfile ▸ h.parsed) hcache
  | looked _ hitems hfile hcache _ hn' _ =>
    obtain ⟨h₁, hcache₁⟩ := h.items hS hitems
    refine ⟨hfile ▸ h₁.parsed, fun _ _ => ⟨_, hn'⟩, fun es' hes' => ?_⟩
    rw [hcache] at hes'
    cases hes'
    rw [hfile]
    exact h₁.onDisk _ hcache₁
  | @wrote _ _ _ _ es' n' _ _ hfile hcache _ =>
    exact S.faithful_of_uncached (hfile ▸ hS.parsed_written t n' es') hcache
  | phantom hyes => exact absurd hyes hlost

/-- **A call that raises** is not seen, exactly when it does not lose an entry.  What is read
depends on the entries, and shows that there is one more. -/
theorem Outcome.unseen_iff {ρ : Type} (hS : S.Lawful) {reads : τ → σ → ρ}
    {view : Except ε (List α) → ρ} (hreads : ∀ t s, reads t s = view (S.items t s).1)
    (hview : ∀ es e, view (.ok (es ++ [e])) ≠ view (.ok es)) {t : τ} {lost : Prop}
    {makes : Change α} {s s' : σ} (h : S.Faithful s) (ho : Outcome S t lost makes s true s') :
    Unseen S reads t s s' ↔ ¬ lost := by
  by_cases hlost : lost
  · refine iff_of_false (fun hunseen => ?_) (not_not_intro hlost)
    cases ho with
    | early hnot => exact hnot rfl hlost
    | unread hnot => exact hnot hlost
    | looked hnot => exact hnot rfl hlost
    | phantom _ _ hitems _ _ hcache _ _ =>
      have hsame := hunseen.same
      rw [hreads, hreads, hS.cached t hcache, hitems] at hsame
      exact hview _ _ hsame
  · refine iff_of_true ?_ hlost
    have hfaithful := ho.faithful hS h hlost
    have hdisk : ∀ t', ∃ t'', reads t' s' = reads t'' (S.start (S.file s')) := fun t' => by
      obtain ⟨t'', ht''⟩ := hfaithful.items_onDisk hS t'
      exact ⟨t'', by rw [hreads, hreads, ht'']⟩
    cases ho with
    | early => exact ⟨rfl, fun _ _ => rfl, hdisk⟩
    | unread _ hitems =>
      obtain ⟨hfile, hcache⟩ := hS.raised hitems
      have hnone : S.cache s = none := by
        cases hs : S.cache s with
        | none => rfl
        | some es =>
          rw [hS.cached t hs] at hitems
          cases hitems
      refine ⟨?_, fun hcached => absurd hnone hcached, hdisk⟩
      rw [hreads, hreads, hS.uncached t hcache, hS.uncached t hnone, hfile]
    | looked _ hitems _ hcache _ _ _ =>
      refine ⟨by rw [hreads, hreads, hS.cached t hcache, hitems], fun hcached t' => ?_, hdisk⟩
      cases hs : S.cache s with
      | none => exact absurd hs hcached
      | some es =>
        rw [hS.cached t hs] at hitems
        cases hitems
        rw [hreads, hreads, hS.cached t' hcache, hS.cached t' hs]
    | phantom hyes => exact absurd hyes hlost

/-! ## 4. Runs -/

/-- No call of a run loses an entry. -/
def LosesNone {γ : Type} (step : σ → γ → σ) (lost : γ → σ → Prop) : σ → List γ → Prop
  | _, [] => True
  | s, c :: cs => ¬ lost c s ∧ LosesNone step lost (step s c) cs

/-- A run that loses no entry keeps the state faithful. -/
theorem Service.faithful_run {γ : Type} (hS : S.Lawful) {step : σ → γ → σ} {meets : γ → τ}
    {lost : γ → σ → Prop} (hstep : ∀ s c, S.Faithful s → step s c = S.start (S.file s) ∨
      ∃ makes raised, Outcome S (meets c) (lost c s) makes s raised (step s c)) {cs : List γ}
    {s : σ} (h : S.Faithful s) (hnone : LosesNone step lost s cs) :
    S.Faithful (cs.foldl step s) := by
  induction cs generalizing s with
  | nil => exact h
  | cons c cs ih =>
    refine ih ?_ hnone.2
    rcases hstep s c h with hrestart | ⟨makes, raised, ho⟩
    · rw [hrestart]
      exact S.faithful_start hS h.parsed
    · exact ho.faithful hS h hnone.1

end CachedFile
