/-
# Clients that fetch what is announced

Threads change a state and announce, by topic, what they have changed.  An announcement copies the
list of clients and puts the topics in the queue of each; a client that takes them from its queue
fetches them.  A fetch is answered with the view of its topic as it is then, and the answer arrives
later.  No lock is held from one of these steps to the next.  A client joins the list on a request
of its own, before or after it has fetched what it starts with, and what is in its queue when its
stream breaks is lost.

* `covered_step`: a change that somebody still has to announce keeps every client of the list up to
  date or about to be, while answers arrive in the order in which they were given.
* `holds_view`: when nobody is under way, a client that is covered holds every view as it is.
* `unseen_step`: what nobody announces, nobody comes to see.
-/
import RaceLink.Lts.Basic
import Mathlib.Data.List.Basic
import Mathlib.Logic.Function.Basic

namespace Announce

/-! ## 1. The system -/

/-- What a thread has left to do. -/
inductive Job (σ τ κ : Type) where
  | done
  /-- What comes next may depend on the state that is changed. -/
  | change (f : σ → σ) (next : σ → Job σ τ κ)
  | announce (what : List τ) (next : Job σ τ κ)
  /-- Nothing is announced where there is no client. -/
  | announceIfAny (what : List τ) (next : Job σ τ κ)
  | sending (what : List τ) (todo : List κ) (next : Job σ τ κ)

/-- An answer to a fetch, on its way. -/
structure Answer (τ δ : Type) where
  topic : τ
  data : δ
  version : Nat

/-- The state, the clients, and who is under way.  Versions are bookkeeping: they count the changes
of a view, and go with an answer. -/
structure Board (σ τ δ κ : Type) where
  value : σ
  version : τ → Nat
  clients : List κ
  /-- The queues of the clients. -/
  told : κ → List (List τ)
  /-- Fetches that are not answered yet. -/
  asked : κ → List τ
  answers : κ → List (Answer τ δ)
  held : κ → τ → Option (δ × Nat)
  jobs : List (Job σ τ κ)

inductive Event (σ τ κ : Type) where
  | start (job : Job σ τ κ)
  /-- A thread takes a step. -/
  | advance (i : Nat)
  | join (c : κ)
  /-- The stream of a client breaks. -/
  | leave (c : κ)
  /-- A client fetches some topics of its own accord. -/
  | fetch (c : κ) (asks : List τ)
  /-- A client takes an announcement from its queue. -/
  | hear (c : κ)
  /-- A fetch is answered. -/
  | serve (c : κ) (i : Nat)
  | arrive (c : κ) (i : Nat)

variable {σ τ δ κ : Type}

/-- A thread that was to put something in the queue of a client has nowhere to put it. -/
def Job.forget [DecidableEq κ] (c : κ) : Job σ τ κ → Job σ τ κ
  | .sending what todo next => .sending what (todo.filter (· ≠ c)) next
  | job => job

namespace Board

/-- A thread is where it is now. -/
def setJob (b : Board σ τ δ κ) (i : Nat) (job : Job σ τ κ) : Board σ τ δ κ :=
  { b with jobs := b.jobs.set i job }

/-- The state changes, and some of the views with it. -/
def write [DecidableEq δ] (view : τ → σ → δ) (b : Board σ τ δ κ) (value : σ) : Board σ τ δ κ :=
  { b with
    value := value
    version := fun t => if view t value = view t b.value then b.version t else b.version t + 1 }

variable [DecidableEq κ]

/-- Some topics are put in the queue of a client. -/
def tell (b : Board σ τ δ κ) (c : κ) (what : List τ) : Board σ τ δ κ :=
  { b with told := Function.update b.told c (b.told c ++ [what]) }

/-- A client fetches some topics. -/
def ask (b : Board σ τ δ κ) (c : κ) (what : List τ) : Board σ τ δ κ :=
  { b with asked := Function.update b.asked c (b.asked c ++ what) }

/-- A client takes the first announcement from its queue. -/
def take (b : Board σ τ δ κ) (c : κ) (what : List τ) : Board σ τ δ κ :=
  { b with told := Function.update b.told c (b.told c).tail }.ask c what

/-- The stream of a client is gone, and its queue. -/
def drop (b : Board σ τ δ κ) (c : κ) : Board σ τ δ κ :=
  { b with
    clients := b.clients.filter (· ≠ c)
    told := Function.update b.told c []
    jobs := b.jobs.map (·.forget c) }

variable [DecidableEq τ] [DecidableEq δ] (view : τ → σ → δ)

/-- The step of a thread; `none` when it is done. -/
def advance (b : Board σ τ δ κ) (i : Nat) : Job σ τ κ → Option (Board σ τ δ κ)
  | .done => none
  | .change f next => some ((b.write view (f b.value)).setJob i (next b.value))
  | .announce what next => some (b.setJob i (.sending what b.clients next))
  | .announceIfAny what next =>
    some (b.setJob i (if b.clients.isEmpty then next else .announce what next))
  | .sending what (c :: todo) next => some ((b.tell c what).setJob i (.sending what todo next))
  | .sending _ [] next => some (b.setJob i next)

/-- A fetch of a client is answered. -/
def answer (b : Board σ τ δ κ) (c : κ) (i : Nat) (t : τ) : Board σ τ δ κ :=
  { b with
    asked := Function.update b.asked c ((b.asked c).eraseIdx i)
    answers := Function.update b.answers c (b.answers c ++ [⟨t, view t b.value, b.version t⟩]) }

/-- An answer arrives, and replaces what the client holds. -/
def display (b : Board σ τ δ κ) (c : κ) (i : Nat) (a : Answer τ δ) : Board σ τ δ κ :=
  { b with
    answers := Function.update b.answers c ((b.answers c).eraseIdx i)
    held := Function.update b.held c
      (Function.update (b.held c) a.topic (some (a.data, a.version))) }

def step (b : Board σ τ δ κ) : Event σ τ κ → Option (Board σ τ δ κ)
  | .start job => some { b with jobs := b.jobs ++ [job] }
  | .advance i => (b.jobs[i]?).bind (b.advance view i)
  | .join c => if c ∈ b.clients then none else some { b with clients := b.clients ++ [c] }
  | .leave c => some (b.drop c)
  | .fetch c asks => some (b.ask c asks)
  | .hear c => ((b.told c).head?).map (b.take c)
  | .serve c i => ((b.asked c)[i]?).map (b.answer view c i)
  | .arrive c i => ((b.answers c)[i]?).map (b.display c i)

/-- Nobody has looked yet. -/
def init (value : σ) : Board σ τ δ κ :=
  { value := value, version := fun _ => 0, clients := [], told := fun _ => []
    asked := fun _ => [], answers := fun _ => [], held := fun _ _ => none, jobs := [] }

end Board

/-! ## 2. Who will be told -/

/-- The thread will ask the client to fetch the topic, whatever the others do. -/
def Job.Owes (c : κ) (t : τ) : Job σ τ κ → Prop
  | .done => False
  | .change _ next => ∀ s, (next s).Owes c t
  | .announce what next => t ∈ what ∨ next.Owes c t
  | .announceIfAny what next => t ∈ what ∨ next.Owes c t
  | .sending what todo next => t ∈ what ∧ c ∈ todo ∨ next.Owes c t

/-- The thread announces whatever its changes change. -/
def Job.Announced (view : τ → σ → δ) : Job σ τ κ → Prop
  | .done => True
  | .change f next => ∀ s, (next s).Announced view ∧
      ∀ t, view t (f s) ≠ view t s → ∀ c, (next s).Owes c t
  | .announce _ next => next.Announced view
  | .announceIfAny _ next => next.Announced view
  | .sending _ _ next => next.Announced view

/-- The thread has nothing left to do. -/
def Job.isDone : Job σ τ κ → Bool
  | .done => true
  | _ => false

/-- The topics a thread may come to announce. -/
def Job.Mentions (t : τ) : Job σ τ κ → Prop
  | .done => False
  | .change _ next => ∃ s, (next s).Mentions t
  | .announce what next => t ∈ what ∨ next.Mentions t
  | .announceIfAny what next => t ∈ what ∨ next.Mentions t
  | .sending what _ next => t ∈ what ∨ next.Mentions t

namespace Board

/-- A fetch of the topic is not answered yet, or the client has been told of the topic, or will
be. -/
def Owed (b : Board σ τ δ κ) (c : κ) (t : τ) : Prop :=
  t ∈ b.asked c ∨ (∃ what ∈ b.told c, t ∈ what) ∨ ∃ job ∈ b.jobs, job.Owes c t

/-- The client holds the latest view of the topic, or the answer with it is on its way. -/
def UpToDate (b : Board σ τ δ κ) (c : κ) (t : τ) : Prop :=
  (∃ data, b.held c t = some (data, b.version t)) ∨
    ∃ a ∈ b.answers c, a.topic = t ∧ a.version = b.version t

/-- Every client of the list is up to date, or will be told. -/
def Covered (b : Board σ τ δ κ) : Prop :=
  ∀ c ∈ b.clients, ∀ t, b.UpToDate c t ∨ b.Owed c t

/-- What goes with a version is the view at that version. -/
structure Dated (view : τ → σ → δ) (b : Board σ τ δ κ) : Prop where
  answers : ∀ c, ∀ a ∈ b.answers c,
    a.version ≤ b.version a.topic ∧ (a.version = b.version a.topic → a.data = view a.topic b.value)
  held : ∀ c t data version, b.held c t = some (data, version) →
    version ≤ b.version t ∧ (version = b.version t → data = view t b.value)

/-- No answer replaces a newer one. -/
def InOrder (b : Board σ τ δ κ) : Event σ τ κ → Prop
  | .arrive c i => ∀ a ∈ (b.answers c)[i]?, ∀ entry ∈ b.held c a.topic, entry.2 ≤ a.version
  | _ => True

instance (b : Board σ τ δ κ) (e : Event σ τ κ) : Decidable (b.InOrder e) := by
  cases e <;> unfold Board.InOrder <;> infer_instance

/-- The event leaves no client behind that nobody will tell: one that has just joined, or one that
has seen a view that has just changed. -/
def Announces [DecidableEq τ] [DecidableEq δ] [DecidableEq κ] (view : τ → σ → δ)
    (b : Board σ τ δ κ) (e : Event σ τ κ) : Prop :=
  ∀ b', b.step view e = some b' → ∀ c ∈ b'.clients, ∀ t,
    b'.version t ≠ b.version t ∨ c ∉ b.clients → b'.UpToDate c t ∨ b'.Owed c t

/-- Nobody is under way, and the client has heard all it was told and been answered. -/
def Settled (b : Board σ τ δ κ) (c : κ) : Prop :=
  (∀ job ∈ b.jobs, job.isDone = true) ∧ (b.told c).isEmpty = true ∧
    (b.asked c).isEmpty = true ∧ (b.answers c).isEmpty = true

instance (b : Board σ τ δ κ) (c : κ) : Decidable (b.Settled c) :=
  inferInstanceAs (Decidable ((∀ _ ∈ _, _) ∧ _ ∧ _ ∧ _))

end Board

/-! ## 3. The steps -/

/-- An entry of a list is still there when another one is taken out. -/
theorem mem_eraseIdx_or {α : Type} {l : List α} (i : Nat) {x : α} (hx : x ∈ l) :
    x ∈ l.eraseIdx i ∨ l[i]? = some x := by
  obtain ⟨j, hj⟩ := List.mem_iff_getElem?.mp hx
  by_cases hij : j = i
  · subst hij
    exact .inr hj
  · exact .inl (List.mem_eraseIdx_iff_getElem?.mpr ⟨j, hij, hj⟩)

section Step

variable [DecidableEq τ] [DecidableEq δ] [DecidableEq κ] {view : τ → σ → δ}
  {b b' : Board σ τ δ κ}

omit [DecidableEq τ] in
/-- **What a step of a thread is**: a change, a client that is told, or a move that forgets no
client of the list. -/
theorem Board.advance_cases {i : Nat} {job : Job σ τ κ} (hstep : b.advance view i job = some b') :
    (∃ f next, job = .change f next ∧ b' = (b.write view (f b.value)).setJob i (next b.value)) ∨
      (∃ c what todo next, job = .sending what (c :: todo) next ∧
        b' = (b.tell c what).setJob i (.sending what todo next)) ∨
      ∃ job', b' = b.setJob i job' ∧ (∀ c ∈ b.clients, ∀ t, job.Owes c t → job'.Owes c t) ∧
        (∀ t, job'.Mentions t → job.Mentions t) ∧
        (job.Announced view → job'.Announced view) := by
  cases job with
  | done => cases hstep
  | change f next =>
    cases hstep
    exact .inl ⟨f, next, rfl, rfl⟩
  | announce what next =>
    cases hstep
    refine .inr (.inr ⟨_, rfl, ?_, fun t h => h, fun h => h⟩)
    rintro c hc t (ht | ht)
    · exact .inl ⟨ht, hc⟩
    · exact .inr ht
  | announceIfAny what next =>
    cases hstep
    refine .inr (.inr ⟨_, rfl, ?_, ?_, ?_⟩)
    · intro c hc t ht
      rw [if_neg (by simpa using List.ne_nil_of_mem hc)]
      exact ht
    · intro t ht
      split at ht
      · exact .inr ht
      · exact ht
    · intro h
      split
      · exact h
      · exact h
  | sending what todo next =>
    cases todo with
    | nil =>
      cases hstep
      refine .inr (.inr ⟨_, rfl, ?_, fun t h => .inr h, fun h => h⟩)
      rintro c - t (⟨-, hc⟩ | ht)
      · exact absurd hc List.not_mem_nil
      · exact ht
    | cons c todo =>
      cases hstep
      exact .inr (.inl ⟨c, what, todo, next, rfl, rfl⟩)

/-- A client that joins was not on the list. -/
theorem Board.step_join {c : κ} (hstep : b.step view (.join c) = some b') :
    c ∉ b.clients ∧ b' = { b with clients := b.clients ++ [c] } := by
  by_cases hc : c ∈ b.clients
  · rw [Board.step, if_pos hc] at hstep
    cases hstep
  · rw [Board.step, if_neg hc] at hstep
    exact ⟨hc, (Option.some.inj hstep).symm⟩

omit [DecidableEq τ] [DecidableEq δ] in
/-- Who is asked keeps what it was asked before. -/
theorem Board.mem_ask {c c' : κ} {what : List τ} {t : τ} :
    t ∈ (b.ask c what).asked c' ↔ t ∈ b.asked c' ∨ c' = c ∧ t ∈ what := by
  show t ∈ Function.update b.asked c _ c' ↔ _
  by_cases hc : c' = c
  · subst hc
    simp
  · rw [Function.update_of_ne hc]
    simp [hc]

omit [DecidableEq τ] [DecidableEq δ] in
/-- Who is told was told before what it was. -/
theorem Board.mem_tell {c c' : κ} {what what' : List τ} :
    what' ∈ (b.tell c what).told c' ↔ what' ∈ b.told c' ∨ c' = c ∧ what' = what := by
  show what' ∈ Function.update b.told c _ c' ↔ _
  by_cases hc : c' = c
  · subst hc
    simp
  · rw [Function.update_of_ne hc]
    simp [hc]

omit [DecidableEq τ] [DecidableEq δ] in
/-- What a client takes from its queue, it fetches. -/
theorem Board.owed_take {c₀ : κ} {what : List τ} (hhead : (b.told c₀).head? = some what) {c : κ}
    {t : τ} (h : b.Owed c t) : (b.take c₀ what).Owed c t := by
  have hasks : ∀ {t}, t ∈ (b.take c₀ what).asked c ↔ t ∈ b.asked c ∨ c = c₀ ∧ t ∈ what := by
    intro t
    exact Board.mem_ask (b := { b with told := Function.update b.told c₀ (b.told c₀).tail })
  rcases h with hasked | ⟨what', hwhat', ht⟩ | hjob
  · exact .inl (hasks.mpr (.inl hasked))
  · by_cases hc : c = c₀
    · subst hc
      rw [List.head?_eq_some_iff] at hhead
      obtain ⟨later, hqueue⟩ := hhead
      rw [hqueue] at hwhat'
      rcases List.mem_cons.mp hwhat' with rfl | hlater
      · exact .inl (hasks.mpr (.inr ⟨rfl, ht⟩))
      · refine .inr (.inl ⟨what', ?_, ht⟩)
        show what' ∈ Function.update b.told c (b.told c).tail c
        rwa [Function.update_self, hqueue, List.tail_cons]
    · refine .inr (.inl ⟨what', ?_, ht⟩)
      show what' ∈ Function.update b.told c₀ (b.told c₀).tail c
      rwa [Function.update_of_ne hc]
  · exact .inr (.inr hjob)

omit [DecidableEq τ] [DecidableEq δ] in
/-- A stream that breaks is none of the other clients'. -/
theorem Board.owed_drop {c₀ c : κ} (hc : c ≠ c₀) {t : τ} (h : b.Owed c t) :
    (b.drop c₀).Owed c t := by
  rcases h with hasked | ⟨what, hwhat, ht⟩ | ⟨job, hjob, howes⟩
  · exact .inl hasked
  · refine .inr (.inl ⟨what, ?_, ht⟩)
    show what ∈ Function.update b.told c₀ [] c
    rwa [Function.update_of_ne hc]
  · refine .inr (.inr ⟨job.forget c₀, List.mem_map_of_mem hjob, ?_⟩)
    cases job with
    | sending what todo next =>
      refine howes.imp_left fun ⟨ht, hmem⟩ => ⟨ht, List.mem_filter.mpr ⟨hmem, ?_⟩⟩
      exact decide_eq_true hc
    | done => exact howes
    | change f next => exact howes
    | announce what next => exact howes
    | announceIfAny what next => exact howes

omit [DecidableEq τ] [DecidableEq δ] [DecidableEq κ] in
/-- A thread that takes a step still owes what it owed. -/
theorem Board.Owed.setJob {i : Nat} {job job' : Job σ τ κ} (hi : b.jobs[i]? = some job) {c : κ}
    {t : τ} (h : b.Owed c t) (howes : job.Owes c t → job'.Owes c t) :
    (b.setJob i job').Owed c t := by
  rcases h with hasked | htold | ⟨other, hother, hothers⟩
  · exact .inl hasked
  · exact .inr (.inl htold)
  · rcases Lts.mem_set_or hi job' hother with rfl | hstays
    · exact .inr (.inr ⟨job', Lts.mem_set_self hi job', howes hothers⟩)
    · exact .inr (.inr ⟨other, hstays, hothers⟩)

omit [DecidableEq τ] [DecidableEq κ] in
/-- A view that has not changed has its version. -/
theorem Board.write_version (value : σ) (t : τ) :
    (b.write view value).version t ≠ b.version t ↔ view t value ≠ view t b.value := by
  show (if _ then _ else _) ≠ _ ↔ _
  split
  · simp [*]
  · simp [*]

omit [DecidableEq τ] in
/-- A step of a thread leaves a client that was told up to date or told, unless the view has
changed. -/
theorem covered_advance {i : Nat} {job : Job σ τ κ} (hi : b.jobs[i]? = some job)
    (hstep : b.advance view i job = some b') {c : κ} (hc : c ∈ b.clients) {t : τ}
    (hsame : b'.version t = b.version t) (h : b.UpToDate c t ∨ b.Owed c t) :
    b'.UpToDate c t ∨ b'.Owed c t := by
  rcases Board.advance_cases hstep with
    ⟨f, next, rfl, rfl⟩ | ⟨c₀, what, todo, next, rfl, rfl⟩ | ⟨job', rfl, howes, -, -⟩
  · refine h.imp (fun hup => ?_) fun howed => ?_
    · show (∃ data, b.held c t = some (data, (b.write view (f b.value)).version t)) ∨
        ∃ a ∈ b.answers c, a.topic = t ∧ a.version = (b.write view (f b.value)).version t
      rw [show (b.write view (f b.value)).version t = b.version t from hsame]
      exact hup
    · have hwritten : (b.write view (f b.value)).Owed c t := howed
      exact hwritten.setJob hi fun ht => ht b.value
  · refine h.imp id fun howed => ?_
    rcases howed with hasked | ⟨what', hwhat', ht⟩ | ⟨other, hother, hothers⟩
    · exact .inl hasked
    · exact .inr (.inl ⟨what', Board.mem_tell.mpr (.inl hwhat'), ht⟩)
    · rcases Lts.mem_set_or hi (.sending what todo next) hother with rfl | hstays
      · rcases hothers with ⟨ht, hmem⟩ | ht
        · rcases List.mem_cons.mp hmem with rfl | hmem
          · exact .inr (.inl ⟨what, Board.mem_tell.mpr (.inr ⟨rfl, rfl⟩), ht⟩)
          · exact .inr (.inr ⟨_, Lts.mem_set_self hi _, .inl ⟨ht, hmem⟩⟩)
        · exact .inr (.inr ⟨_, Lts.mem_set_self hi _, .inr ht⟩)
      · exact .inr (.inr ⟨other, hstays, hothers⟩)
  · exact h.imp id fun howed => howed.setJob hi (howes c hc t)

omit [DecidableEq δ] [DecidableEq τ] in
/-- A fetch that is answered brings its client up to date. -/
theorem covered_answer {c₀ : κ} {i : Nat} {t₀ : τ} (hi : (b.asked c₀)[i]? = some t₀) {c : κ} {t : τ}
    (h : b.UpToDate c t ∨ b.Owed c t) :
    (b.answer view c₀ i t₀).UpToDate c t ∨ (b.answer view c₀ i t₀).Owed c t := by
  have hup : b.UpToDate c t → (b.answer view c₀ i t₀).UpToDate c t := by
    refine Or.imp_right ?_
    rintro ⟨a, ha, hat⟩
    refine ⟨a, ?_, hat⟩
    show a ∈ Function.update b.answers c₀ _ c
    by_cases hc : c = c₀
    · subst hc
      simp [ha]
    · simpa [Function.update_of_ne hc] using ha
  rcases h with h | hasked | hlater
  · exact .inl (hup h)
  · by_cases hc : c = c₀
    · subst hc
      rcases mem_eraseIdx_or i hasked with hstays | hthis
      · refine .inr (.inl ?_)
        show t ∈ Function.update b.asked c _ c
        rwa [Function.update_self]
      · obtain rfl : t₀ = t := Option.some.inj (hi.symm.trans hthis)
        refine .inl (.inr ⟨⟨t₀, view t₀ b.value, b.version t₀⟩, ?_, rfl, rfl⟩)
        show _ ∈ Function.update b.answers c _ c
        simp
    · refine .inr (.inl ?_)
      show t ∈ Function.update b.asked c₀ _ c
      rwa [Function.update_of_ne hc]
  · exact .inr (.inr hlater)

omit [DecidableEq δ] in
/-- An answer that arrives in order leaves its client up to date. -/
theorem covered_display (hdated : b.Dated view) {c₀ : κ} {i : Nat} {a : Answer τ δ}
    (hi : (b.answers c₀)[i]? = some a)
    (horder : ∀ entry ∈ b.held c₀ a.topic, entry.2 ≤ a.version)
    {c : κ} {t : τ} (h : b.UpToDate c t) : (b.display c₀ i a).UpToDate c t := by
  by_cases hc : c = c₀
  · subst hc
    have hheld : ∀ t', (b.display c i a).held c t' =
        Function.update (b.held c) a.topic (some (a.data, a.version)) t' := by
      intro t'
      show Function.update b.held c _ c t' = _
      rw [Function.update_self]
    have hlatest : a.topic = t → a.version = b.version t → (b.display c i a).UpToDate c t := by
      rintro rfl hversion
      refine .inl ⟨a.data, ?_⟩
      rw [hheld, Function.update_self, hversion]
      rfl
    rcases h with ⟨data, hdata⟩ | ⟨a', ha', hat, hversion⟩
    · by_cases ht : t = a.topic
      · subst ht
        -- the answer is not older than what is held, and nothing is newer than that
        have hle := horder _ hdata
        have hge := (hdated.answers c a (List.mem_of_getElem? hi)).1
        exact hlatest rfl (Nat.le_antisymm hge hle)
      · refine .inl ⟨data, ?_⟩
        rw [hheld, Function.update_of_ne ht]
        exact hdata
    · rcases mem_eraseIdx_or i ha' with hstays | hthis
      · refine .inr ⟨a', ?_, hat, hversion⟩
        show a' ∈ Function.update b.answers c _ c
        rwa [Function.update_self]
      · obtain rfl : a = a' := Option.some.inj (hi.symm.trans hthis)
        exact hlatest hat hversion
  · refine h.imp (fun ⟨data, hdata⟩ => ⟨data, ?_⟩) fun ⟨a', ha', hat⟩ => ⟨a', ?_, hat⟩
    · show Function.update b.held c₀ _ c t = _
      rw [Function.update_of_ne hc]
      exact hdata
    · show a' ∈ Function.update b.answers c₀ _ c
      rwa [Function.update_of_ne hc]

/-- **Nothing is lost**: where answers arrive in order, an event that is announced leaves every
client up to date, or about to be told. -/
theorem covered_step {e : Event σ τ κ} (h : b.Covered) (hdated : b.Dated view)
    (horder : b.InOrder e) (hannounced : b.Announces view e) (hstep : b.step view e = some b') :
    b'.Covered := by
  intro c hc t
  by_cases hold : b'.version t = b.version t ∧ c ∈ b.clients
  · have hbefore := h c hold.2 t
    cases e with
    | start job =>
      cases hstep
      exact hbefore.imp id (Or.imp_right (Or.imp_right fun ⟨other, hother, howes⟩ =>
        ⟨other, List.mem_append_left _ hother, howes⟩))
    | advance i =>
      obtain ⟨job, hi, hadvance⟩ := Option.bind_eq_some_iff.mp hstep
      exact covered_advance hi hadvance hold.2 hold.1 hbefore
    | join c₀ =>
      obtain ⟨-, rfl⟩ := Board.step_join hstep
      exact hbefore
    | leave c₀ =>
      cases hstep
      exact hbefore.imp id (Board.owed_drop (of_decide_eq_true (List.mem_filter.mp hc).2))
    | fetch c₀ asks =>
      cases hstep
      exact hbefore.imp id (Or.imp_left fun hasked => Board.mem_ask.mpr (.inl hasked))
    | hear c₀ =>
      obtain ⟨what, hhead, rfl⟩ := Option.map_eq_some_iff.mp hstep
      exact hbefore.imp id (Board.owed_take hhead)
    | serve c₀ i =>
      obtain ⟨t₀, hi, rfl⟩ := Option.map_eq_some_iff.mp hstep
      exact covered_answer hi hbefore
    | arrive c₀ i =>
      obtain ⟨a, hi, rfl⟩ := Option.map_eq_some_iff.mp hstep
      exact hbefore.imp_left (covered_display hdated hi (horder a hi))
  · refine hannounced b' hstep c hc t ?_
    by_cases hsame : b'.version t = b.version t
    · exact .inr fun hmem => hold ⟨hsame, hmem⟩
    · exact .inl hsame

/-! ## 4. What is held -/

omit [DecidableEq τ] [DecidableEq κ] in
/-- A view that changes leaves nothing that goes with its new version. -/
theorem dated_write {value : σ} {t : τ} {data : δ} {version : Nat} (hle : version ≤ b.version t)
    (hdata : version = b.version t → data = view t b.value) :
    version ≤ (b.write view value).version t ∧
      (version = (b.write view value).version t → data = view t value) := by
  show version ≤ (if _ then _ else _) ∧ (version = (if _ then _ else _) → _)
  by_cases hsame : view t value = view t b.value
  · rw [if_pos hsame, hsame]
    exact ⟨hle, hdata⟩
  · rw [if_neg hsame]
    refine ⟨Nat.le_succ_of_le hle, fun heq => ?_⟩
    rw [heq] at hle
    exact absurd hle (Nat.not_succ_le_self _)

/-- Answers and what is held stay dated. -/
theorem dated_step {e : Event σ τ κ} (h : b.Dated view) (hstep : b.step view e = some b') :
    b'.Dated view := by
  cases e with
  | start job =>
    cases hstep
    exact ⟨h.answers, h.held⟩
  | advance i =>
    obtain ⟨job, -, hadvance⟩ := Option.bind_eq_some_iff.mp hstep
    rcases Board.advance_cases hadvance with
      ⟨f, next, -, rfl⟩ | ⟨c, what, todo, next, -, rfl⟩ | ⟨job', rfl, -⟩
    · refine ⟨fun c a ha => ?_, fun c t data version hheld => ?_⟩
      · exact dated_write (h.answers c a ha).1 (h.answers c a ha).2
      · exact dated_write (h.held c t data version hheld).1 (h.held c t data version hheld).2
    · exact ⟨h.answers, h.held⟩
    · exact ⟨h.answers, h.held⟩
  | join c =>
    obtain ⟨-, rfl⟩ := Board.step_join hstep
    exact ⟨h.answers, h.held⟩
  | leave c =>
    cases hstep
    exact ⟨h.answers, h.held⟩
  | fetch c asks =>
    cases hstep
    exact ⟨h.answers, h.held⟩
  | hear c =>
    obtain ⟨what, -, rfl⟩ := Option.map_eq_some_iff.mp hstep
    exact ⟨h.answers, h.held⟩
  | serve c₀ i =>
    obtain ⟨t, -, rfl⟩ := Option.map_eq_some_iff.mp hstep
    refine ⟨fun c a ha => ?_, h.held⟩
    replace ha : a ∈ Function.update b.answers c₀ _ c := ha
    by_cases hc : c = c₀
    · subst hc
      rw [Function.update_self] at ha
      rcases List.mem_append.mp ha with ha | ha
      · exact h.answers c a ha
      · rw [List.mem_singleton.mp ha]
        exact ⟨Nat.le_refl _, fun _ => rfl⟩
    · rw [Function.update_of_ne hc] at ha
      exact h.answers c a ha
  | arrive c₀ i =>
    obtain ⟨a₀, hi, rfl⟩ := Option.map_eq_some_iff.mp hstep
    refine ⟨fun c a ha => ?_, fun c t data version hheld => ?_⟩
    · replace ha : a ∈ Function.update b.answers c₀ _ c := ha
      by_cases hc : c = c₀
      · subst hc
        rw [Function.update_self] at ha
        exact h.answers c a (List.mem_of_mem_eraseIdx ha)
      · rw [Function.update_of_ne hc] at ha
        exact h.answers c a ha
    · replace hheld : Function.update b.held c₀ _ c t = _ := hheld
      by_cases hc : c = c₀
      · subst hc
        rw [Function.update_self] at hheld
        by_cases ht : t = a₀.topic
        · subst ht
          rw [Function.update_self] at hheld
          cases hheld
          exact h.answers c a₀ (List.mem_of_getElem? hi)
        · rw [Function.update_of_ne ht] at hheld
          exact h.held c t data version hheld
      · rw [Function.update_of_ne hc] at hheld
        exact h.held c t data version hheld

omit [DecidableEq τ] [DecidableEq δ] [DecidableEq κ] in
/-- **What a client holds**: when nobody is under way, every view as it is. -/
theorem holds_view (hcovered : b.Covered) (hdated : b.Dated view) {c : κ} (hsettled : b.Settled c)
    (hc : c ∈ b.clients) (t : τ) : (b.held c t).map (·.1) = some (view t b.value) := by
  obtain ⟨hjobs, htold', hasked', hanswers⟩ := hsettled
  rcases hcovered c hc t with
    (⟨data, hheld⟩ | ⟨a, ha, -⟩) | hasked | ⟨what, hwhat, -⟩ | ⟨job, hjob, howes⟩
  · rw [hheld, Option.map_some, (hdated.held c t data _ hheld).2 rfl]
  · rw [List.isEmpty_iff.mp hanswers] at ha
    cases ha
  · rw [List.isEmpty_iff.mp hasked'] at hasked
    cases hasked
  · rw [List.isEmpty_iff.mp htold'] at hwhat
    cases hwhat
  · have hdone := hjobs job hjob
    cases job with
    | done => exact howes.elim
    | change f next => cases hdone
    | announce what next => cases hdone
    | announceIfAny what next => cases hdone
    | sending what todo next => cases hdone

omit [DecidableEq τ] [DecidableEq δ] [DecidableEq κ] in
theorem covered_init (value : σ) : (Board.init value : Board σ τ δ κ).Covered :=
  List.forall_mem_nil _

omit [DecidableEq τ] [DecidableEq δ] [DecidableEq κ] in
theorem dated_init (value : σ) : (Board.init value : Board σ τ δ κ).Dated view :=
  ⟨fun _ => List.forall_mem_nil _, by rintro _ _ _ _ ⟨⟩⟩

/-! ## 5. What is announced -/

omit [DecidableEq τ] [DecidableEq κ] in
/-- A thread that announces whatever it changes goes on doing so. -/
theorem Job.Announced.advance {i : Nat} {job : Job σ τ κ} [DecidableEq κ]
    (h : job.Announced view) (hstep : b.advance view i job = some b') :
    ∃ job', b'.jobs = b.jobs.set i job' ∧ job'.Announced view := by
  rcases Board.advance_cases hstep with
    ⟨f, next, rfl, rfl⟩ | ⟨c, what, todo, next, rfl, rfl⟩ | ⟨job', rfl, -, -, hkeeps⟩
  · exact ⟨_, rfl, (h b.value).1⟩
  · exact ⟨_, rfl, h⟩
  · exact ⟨job', rfl, hkeeps h⟩

omit [DecidableEq τ] [DecidableEq δ] in
theorem Job.Announced.forget {job : Job σ τ κ} (h : job.Announced view) (c : κ) :
    (job.forget c).Announced view := by
  cases job with
  | sending what todo next => exact h
  | done => exact h
  | change f next => exact h
  | announce what next => exact h
  | announceIfAny what next => exact h

/-- **A step that changes a view**: the thread that takes it announces the topic afterwards, or
somebody still has to. -/
theorem announces_advance {i : Nat} (h : ∀ f next, b.jobs[i]? = some (.change f next) →
      ∀ t, view t (f b.value) ≠ view t b.value → ∀ c ∈ b.clients,
        (next b.value).Owes c t ∨ ((b.write view (f b.value)).setJob i (next b.value)).Owed c t) :
    b.Announces view (.advance i) := by
  intro b' hstep c hc t hnew
  obtain ⟨job, hi, hadvance⟩ := Option.bind_eq_some_iff.mp hstep
  rcases Board.advance_cases hadvance with
    ⟨f, next, rfl, rfl⟩ | ⟨c₀, what, todo, next, rfl, rfl⟩ | ⟨job', rfl, -⟩
  · rcases hnew with hnew | hnew
    · rcases h f next hi t ((Board.write_version _ t).mp hnew) c hc with howes | howed
      · exact .inr (.inr (.inr ⟨_, Lts.mem_set_self hi _, howes⟩))
      · exact .inr howed
    · exact absurd hc hnew
  · rcases hnew with hnew | hnew
    · exact absurd rfl hnew
    · exact absurd hc hnew
  · rcases hnew with hnew | hnew
    · exact absurd rfl hnew
    · exact absurd hc hnew

/-- A client that joins when it is not behind is told. -/
theorem announces_join {c : κ} (h : ∀ t, b.UpToDate c t ∨ b.Owed c t) :
    b.Announces view (.join c) := by
  intro b' hstep c' hc' t hnew
  obtain ⟨-, rfl⟩ := Board.step_join hstep
  rcases hnew with hnew | hnew
  · exact absurd rfl hnew
  · rcases List.mem_append.mp hc' with hc' | hc'
    · exact absurd hc' hnew
    · rw [List.mem_singleton.mp hc']
      exact h t

/-- Nobody is about to tell the client of the topic. -/
structure Board.Silent (b : Board σ τ δ κ) (c : κ) (t : τ) : Prop where
  jobs : ∀ job ∈ b.jobs, ¬ job.Mentions t
  told : ∀ what ∈ b.told c, t ∉ what
  asked : t ∉ b.asked c
  answers : ∀ a ∈ b.answers c, a.topic ≠ t

/-- The event starts nobody who would tell the client of the topic. -/
def Event.KeepsSilent (c : κ) (t : τ) : Event σ τ κ → Prop
  | .start job => ¬ job.Mentions t
  | .fetch c' asks => c' = c → t ∉ asks
  | _ => True

/-- **What nobody announces, nobody comes to see**: the client goes on holding what it holds. -/
theorem unseen_step {e : Event σ τ κ} {c : κ} {t : τ} (h : b.Silent c t)
    (hsilent : e.KeepsSilent c t) (hstep : b.step view e = some b') :
    b'.Silent c t ∧ b'.held c t = b.held c t := by
  have hset : ∀ {i : Nat} {job' : Job σ τ κ}, ¬ job'.Mentions t →
      ∀ job ∈ b.jobs.set i job', ¬ job.Mentions t := by
    intro i job' hjob' job hjob
    rcases List.mem_or_eq_of_mem_set hjob with hjob | rfl
    · exact h.jobs job hjob
    · exact hjob'
  cases e with
  | start job =>
    cases hstep
    refine ⟨⟨fun other hother => ?_, h.told, h.asked, h.answers⟩, rfl⟩
    rcases List.mem_append.mp hother with hother | hother
    · exact h.jobs other hother
    · rw [List.mem_singleton.mp hother]
      exact hsilent
  | advance i =>
    obtain ⟨job, hi, hadvance⟩ := Option.bind_eq_some_iff.mp hstep
    have hjob := h.jobs job (List.mem_of_getElem? hi)
    rcases Board.advance_cases hadvance with
      ⟨f, next, rfl, rfl⟩ | ⟨c₀, what, todo, next, rfl, rfl⟩ | ⟨job', rfl, -, hmentions, -⟩
    · exact ⟨⟨hset fun hm => hjob ⟨_, hm⟩, h.told, h.asked, h.answers⟩, rfl⟩
    · refine ⟨⟨hset hjob, fun what' hwhat' => ?_, h.asked, h.answers⟩, rfl⟩
      rcases Board.mem_tell.mp hwhat' with hwhat' | ⟨-, rfl⟩
      · exact h.told what' hwhat'
      · exact fun ht => hjob (.inl ht)
    · exact ⟨⟨hset fun hm => hjob (hmentions t hm), h.told, h.asked, h.answers⟩, rfl⟩
  | join c₀ =>
    obtain ⟨-, rfl⟩ := Board.step_join hstep
    exact ⟨⟨h.jobs, h.told, h.asked, h.answers⟩, rfl⟩
  | leave c₀ =>
    cases hstep
    refine ⟨⟨fun job hjob hm => ?_, fun what hwhat => h.told what ?_, h.asked, h.answers⟩, rfl⟩
    · obtain ⟨was, hwas, rfl⟩ := List.mem_map.mp hjob
      refine h.jobs was hwas ?_
      cases was with
      | sending what todo next => exact hm
      | done => exact hm
      | change f next => exact hm
      | announce what next => exact hm
      | announceIfAny what next => exact hm
    · replace hwhat : what ∈ Function.update b.told c₀ [] c := hwhat
      by_cases hc : c = c₀
      · subst hc
        rw [Function.update_self] at hwhat
        cases hwhat
      · rwa [Function.update_of_ne hc] at hwhat
  | fetch c₀ asks =>
    cases hstep
    refine ⟨⟨h.jobs, h.told, fun hasked => ?_, h.answers⟩, rfl⟩
    rcases Board.mem_ask.mp hasked with hasked | ⟨rfl, hasks⟩
    · exact h.asked hasked
    · exact hsilent rfl hasks
  | hear c₀ =>
    obtain ⟨what, hhead, rfl⟩ := Option.map_eq_some_iff.mp hstep
    refine ⟨⟨h.jobs, fun what' hwhat' => h.told what' ?_, fun hasked => ?_, h.answers⟩, rfl⟩
    · replace hwhat' : what' ∈ Function.update b.told c₀ (b.told c₀).tail c := hwhat'
      by_cases hc : c = c₀
      · subst hc
        rw [Function.update_self] at hwhat'
        exact List.mem_of_mem_tail hwhat'
      · rwa [Function.update_of_ne hc] at hwhat'
    · rcases Board.mem_ask.mp hasked with hasked | ⟨rfl, ht⟩
      · exact h.asked hasked
      · exact h.told what (List.mem_of_mem_head? hhead) ht
  | serve c₀ i =>
    obtain ⟨t₀, hi, rfl⟩ := Option.map_eq_some_iff.mp hstep
    by_cases hc : c = c₀
    · subst hc
      have hne : t₀ ≠ t := fun heq => h.asked (heq ▸ List.mem_of_getElem? hi)
      refine ⟨⟨h.jobs, h.told, fun hasked => ?_, fun a ha => ?_⟩, rfl⟩
      · replace hasked : t ∈ Function.update b.asked c _ c := hasked
        rw [Function.update_self] at hasked
        exact h.asked (List.mem_of_mem_eraseIdx hasked)
      · replace ha : a ∈ Function.update b.answers c _ c := ha
        rw [Function.update_self] at ha
        rcases List.mem_append.mp ha with ha | ha
        · exact h.answers a ha
        · rw [List.mem_singleton.mp ha]
          exact hne
    · refine ⟨⟨h.jobs, h.told, fun hasked => h.asked ?_, fun a ha => h.answers a ?_⟩, rfl⟩
      · replace hasked : t ∈ Function.update b.asked c₀ _ c := hasked
        rwa [Function.update_of_ne hc] at hasked
      · replace ha : a ∈ Function.update b.answers c₀ _ c := ha
        rwa [Function.update_of_ne hc] at ha
  | arrive c₀ i =>
    obtain ⟨a₀, hi, rfl⟩ := Option.map_eq_some_iff.mp hstep
    by_cases hc : c = c₀
    · subst hc
      refine ⟨⟨h.jobs, h.told, h.asked, fun a ha => ?_⟩, ?_⟩
      · replace ha : a ∈ Function.update b.answers c _ c := ha
        rw [Function.update_self] at ha
        exact h.answers a (List.mem_of_mem_eraseIdx ha)
      · show Function.update b.held c _ c t = _
        have hne := h.answers a₀ (List.mem_of_getElem? hi)
        rw [Function.update_self, Function.update_of_ne hne.symm]
    · refine ⟨⟨h.jobs, h.told, h.asked, fun a ha => h.answers a ?_⟩, ?_⟩
      · replace ha : a ∈ Function.update b.answers c₀ _ c := ha
        rwa [Function.update_of_ne hc] at ha
      · show Function.update b.held c₀ _ c t = _
        rw [Function.update_of_ne hc]

end Step

end Announce
