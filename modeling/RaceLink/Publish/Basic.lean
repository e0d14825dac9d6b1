/-
# Boards whose changes are published

Writers change a board field by field.  A writer that has changed something stamps the board, takes
a snapshot, copies the list of clients, and puts the snapshot into the inbox of each.  A client that
connects joins the list, and is then put a snapshot of its own.  No lock is held from one of these
steps to the next, so writers and clients that connect interleave anywhere.

* Nothing is lost: a client that is connected has, or is about to be put, the board as it is
  (`covered_step`), so when nobody is under way it has been put (`delivered`).
* What can be lost is the order: a snapshot may be put behind a newer one.  While that does not
  happen (`InOrder`), the last thing put to a client is the board (`shows`).
-/
import RaceLink.Lts.Basic
import Mathlib.Data.List.Basic
import Mathlib.Logic.Function.Basic

namespace Publish

/-! ## 1. The system -/

/-- Where a writer, or a client that connects, is. -/
inductive Job (V κ : Type) where
  /-- The writes that are left; has one changed something? -/
  | writing (changed : Bool) (writes : List (V → V)) (stamp : V → V)
  /-- For everyone, or for one client. -/
  | publishing (audience : Option κ)
  | taken (audience : Option κ) (payload : V) (version : Nat)
  | sending (payload : V) (version : Nat) (todo : List κ)

/-- The board, the clients, and who is under way.  Versions are bookkeeping: they count the
changes, and go with a snapshot. -/
structure Board (V κ : Type) where
  value : V
  version : Nat
  clients : List κ
  inbox : κ → List (V × Nat)
  jobs : List (Job V κ)

inductive Event (V κ : Type) where
  /-- A writer starts. -/
  | set (writes : List (V → V)) (stamp : V → V)
  /-- A client connects, with an empty inbox. -/
  | connect (c : κ)
  | disconnect (c : κ)
  /-- Someone takes a step. -/
  | advance (i : Nat)

variable {V κ : Type}

namespace Board

/-- A job is where it is now. -/
def setJob (b : Board V κ) (i : Nat) (job : Job V κ) : Board V κ :=
  { b with jobs := b.jobs.set i job }

/-- The board changes. -/
def write (b : Board V κ) (value : V) : Board V κ :=
  { b with value := value, version := b.version + 1 }

/-- A snapshot is put to a client. -/
def put [DecidableEq κ] (b : Board V κ) (c : κ) (payload : V) (version : Nat) : Board V κ :=
  { b with inbox := Function.update b.inbox c (b.inbox c ++ [(payload, version)]) }

variable [DecidableEq V] [DecidableEq κ]

/-- The step of a job; `none` when it is done. -/
def advance (b : Board V κ) (i : Nat) : Job V κ → Option (Board V κ)
  | .writing changed (w :: writes) stamp =>
    if w b.value = b.value then some (b.setJob i (.writing changed writes stamp))
    else some ((b.write (w b.value)).setJob i (.writing true writes stamp))
  | .writing true [] stamp => some ((b.write (stamp b.value)).setJob i (.publishing none))
  | .writing false [] _ => some (b.setJob i (.sending b.value b.version []))
  | .publishing audience => some (b.setJob i (.taken audience b.value b.version))
  | .taken audience payload version =>
    some (b.setJob i (.sending payload version (audience.elim b.clients ([·]))))
  | .sending payload version (c :: todo) =>
    some ((b.put c payload version).setJob i (.sending payload version todo))
  | .sending _ _ [] => none

def step (b : Board V κ) : Event V κ → Option (Board V κ)
  | .set writes stamp => some { b with jobs := b.jobs ++ [.writing false writes stamp] }
  | .connect c =>
    if c ∈ b.clients ∨ b.inbox c ≠ [] then none
    else some { b with clients := b.clients ++ [c], jobs := b.jobs ++ [.publishing (some c)] }
  | .disconnect c => some { b with clients := b.clients.filter (· ≠ c) }
  | .advance i => (b.jobs[i]?).bind (b.advance i)

/-- Nobody has seen the board yet. -/
def start (value : V) : Board V κ :=
  { value := value, version := 0, clients := [], inbox := fun _ => [], jobs := [] }

end Board

/-- A job that has nothing left to do. -/
def Job.isDone : Job V κ → Bool
  | .sending _ _ [] => true
  | _ => false

/-- The writes a job has left. -/
def Job.writes : Job V κ → List (V → V)
  | .writing _ writes _ => writes
  | _ => []

/-- Nobody is under way. -/
def Board.Settled (b : Board V κ) : Prop := ∀ job ∈ b.jobs, job.isDone = true

instance (b : Board V κ) : Decidable b.Settled := inferInstanceAs (Decidable (∀ _ ∈ _, _))

/-! ## 2. Nothing is lost -/

/-- The audience has the client. -/
def Reaches (audience : Option κ) (c : κ) : Prop := audience = none ∨ audience = some c

/-- The job will put the board as it is to the client. -/
def Job.Owes (b : Board V κ) (c : κ) : Job V κ → Prop
  | .writing changed _ _ => changed = true
  | .publishing audience => Reaches audience c
  | .taken audience payload version =>
    payload = b.value ∧ version = b.version ∧ Reaches audience c
  | .sending payload version todo => payload = b.value ∧ version = b.version ∧ c ∈ todo

/-- Every client has the board, or is owed it. -/
def Board.Covered (b : Board V κ) : Prop :=
  ∀ c ∈ b.clients, (b.value, b.version) ∈ b.inbox c ∨ ∃ job ∈ b.jobs, job.Owes b c

/-- The board is put to a client who was owed it by another job, or by this one. -/
theorem Board.Covered.setJob {b : Board V κ} (h : b.Covered) {i : Nat} {job : Job V κ}
    (hi : b.jobs[i]? = some job) {job' : Job V κ}
    (hmoves : ∀ c ∈ b.clients, job.Owes b c → job'.Owes b c) : (b.setJob i job').Covered := by
  intro c hc
  rcases h c hc with hhas | ⟨other, hother, howes⟩
  · exact .inl hhas
  · rcases Lts.mem_set_or hi job' hother with rfl | hstays
    · exact .inr ⟨job', Lts.mem_set_self hi job', hmoves c hc howes⟩
    · exact .inr ⟨other, hstays, howes⟩

/-- A writer that has changed something owes the board to everyone. -/
theorem covered_of_owes {b : Board V κ} {job : Job V κ} (hjob : job ∈ b.jobs)
    (howes : ∀ c, job.Owes b c) : b.Covered := fun c _ => .inr ⟨job, hjob, howes c⟩

/-- A write that changes nothing, and one that does. -/
theorem Board.advance_write [DecidableEq V] [DecidableEq κ] {b b' : Board V κ} {i : Nat}
    {changed : Bool} {w : V → V} {writes : List (V → V)} {stamp : V → V}
    (hstep : b.advance i (.writing changed (w :: writes) stamp) = some b') :
    b' = b.setJob i (.writing changed writes stamp) ∨
      b' = (b.write (w b.value)).setJob i (.writing true writes stamp) := by
  by_cases hsame : w b.value = b.value
  · rw [Board.advance, if_pos hsame] at hstep
    exact .inl (Option.some.inj hstep).symm
  · rw [Board.advance, if_neg hsame] at hstep
    exact .inr (Option.some.inj hstep).symm

section Run

variable [DecidableEq V] [DecidableEq κ]

/-- **What a step does to the board**: it is a write, or the stamp, or leaves the board. -/
theorem Board.advance_value {b b' : Board V κ} {i : Nat} {job : Job V κ}
    (hstep : b.advance i job = some b') : ∃ job', b'.jobs = b.jobs.set i job' ∧
      ((∃ changed changed' w writes stamp, job = .writing changed (w :: writes) stamp ∧
          job' = .writing changed' writes stamp ∧ b'.value = w b.value) ∨
        (∃ stamp, job = .writing true [] stamp ∧ job' = .publishing none ∧
          b'.value = stamp b.value) ∨
        job.writes = [] ∧ (∀ changed writes stamp, job' ≠ .writing changed writes stamp) ∧
          b'.value = b.value) := by
  cases job with
  | writing changed writes stamp =>
    cases writes with
    | nil =>
      cases changed with
      | true =>
        cases hstep
        exact ⟨_, rfl, .inr (.inl ⟨stamp, rfl, rfl, rfl⟩)⟩
      | false =>
        cases hstep
        exact ⟨_, rfl, .inr (.inr ⟨rfl, by rintro _ _ _ ⟨⟩, rfl⟩)⟩
    | cons w writes =>
      by_cases hsame : w b.value = b.value
      · rw [Board.advance, if_pos hsame] at hstep
        cases hstep
        exact ⟨_, rfl, .inl ⟨changed, changed, w, writes, stamp, rfl, rfl, hsame.symm⟩⟩
      · rw [Board.advance, if_neg hsame] at hstep
        cases hstep
        exact ⟨_, rfl, .inl ⟨changed, true, w, writes, stamp, rfl, rfl, rfl⟩⟩
  | publishing audience =>
    cases hstep
    exact ⟨_, rfl, .inr (.inr ⟨rfl, by rintro _ _ _ ⟨⟩, rfl⟩)⟩
  | taken audience payload version =>
    cases hstep
    exact ⟨_, rfl, .inr (.inr ⟨rfl, by rintro _ _ _ ⟨⟩, rfl⟩)⟩
  | sending payload version todo =>
    cases todo with
    | nil => cases hstep
    | cons c todo =>
      cases hstep
      exact ⟨_, rfl, .inr (.inr ⟨rfl, by rintro _ _ _ ⟨⟩, rfl⟩)⟩

/-- A client that connects was unknown. -/
theorem Board.step_connect {b b' : Board V κ} {c : κ} (hstep : b.step (.connect c) = some b') :
    b' = { b with clients := b.clients ++ [c], jobs := b.jobs ++ [.publishing (some c)] } := by
  by_cases hknown : c ∈ b.clients ∨ b.inbox c ≠ []
  · rw [Board.step, if_pos hknown] at hstep
    cases hstep
  · rw [Board.step, if_neg hknown] at hstep
    exact (Option.some.inj hstep).symm

omit [DecidableEq V] in
/-- What is put to a client is in its inbox, and the inboxes keep what they have. -/
theorem Board.mem_put {b : Board V κ} {c : κ} {payload : V} {version : Nat} {c' : κ}
    {entry : V × Nat} :
    entry ∈ (b.put c payload version).inbox c' ↔
      entry ∈ b.inbox c' ∨ c' = c ∧ entry = (payload, version) := by
  show entry ∈ Function.update b.inbox c _ c' ↔ _
  by_cases hc : c' = c
  · subst hc
    rw [Function.update_self, List.mem_append, List.mem_singleton]
    simp
  · rw [Function.update_of_ne hc]
    simp [hc]

theorem covered_advance {b b' : Board V κ} (h : b.Covered) {i : Nat} {job : Job V κ}
    (hi : b.jobs[i]? = some job) (hstep : b.advance i job = some b') : b'.Covered := by
  cases job with
  | writing changed writes stamp =>
    cases writes with
    | nil =>
      cases changed with
      | true =>
        cases hstep
        exact covered_of_owes (Lts.mem_set_self hi _) fun _ => .inl rfl
      | false =>
        cases hstep
        exact h.setJob hi fun _ _ howes => absurd howes (by simp [Job.Owes])
    | cons w writes =>
      rcases Board.advance_write hstep with rfl | rfl
      · exact h.setJob hi fun _ _ howes => howes
      · exact covered_of_owes (Lts.mem_set_self hi _) fun _ => rfl
  | publishing audience =>
    cases hstep
    exact h.setJob hi fun _ _ howes => ⟨rfl, rfl, howes⟩
  | taken audience payload version =>
    cases hstep
    refine h.setJob hi fun c hc howes => ⟨howes.1, howes.2.1, ?_⟩
    rcases howes.2.2 with rfl | rfl
    · exact hc
    · exact List.mem_singleton_self c
  | sending payload version todo =>
    cases todo with
    | nil => cases hstep
    | cons c₀ todo =>
      cases hstep
      intro c hc
      rcases h c hc with hhas | ⟨other, hother, howes⟩
      · exact .inl (Board.mem_put.mpr (.inl hhas))
      · rcases Lts.mem_set_or hi (.sending payload version todo) hother with rfl | hstays
        · obtain ⟨rfl, rfl, hmem⟩ := howes
          rcases List.mem_cons.mp hmem with rfl | hmem
          · exact .inl (Board.mem_put.mpr (.inr ⟨rfl, rfl⟩))
          · exact .inr ⟨_, Lts.mem_set_self hi _, rfl, rfl, hmem⟩
        · exact .inr ⟨other, hstays, howes⟩

/-- **Nothing is lost**: every event leaves each client with the board, or owed it. -/
theorem covered_step {b b' : Board V κ} {e : Event V κ} (h : b.Covered)
    (hstep : b.step e = some b') : b'.Covered := by
  cases e with
  | set writes stamp =>
    cases hstep
    intro c hc
    exact (h c hc).imp_right fun ⟨job, hjob, howes⟩ =>
      ⟨job, List.mem_append_left _ hjob, howes⟩
  | connect c₀ =>
    rw [Board.step_connect hstep]
    intro c hc
    rcases List.mem_append.mp hc with hc | hc
    · exact (h c hc).imp_right fun ⟨job, hjob, howes⟩ =>
        ⟨job, List.mem_append_left _ hjob, howes⟩
    · rw [List.mem_singleton.mp hc]
      exact .inr ⟨_, List.mem_append_right _ (List.mem_singleton_self _), .inr rfl⟩
  | disconnect c₀ =>
    cases hstep
    exact fun c hc => h c (List.mem_filter.mp hc).1
  | advance i =>
    obtain ⟨job, hi, hadvance⟩ := Option.bind_eq_some_iff.mp hstep
    exact covered_advance h hi hadvance

end Run

/-- When nobody is under way, every client has been put the board. -/
theorem delivered {b : Board V κ} (h : b.Covered) (hsettled : b.Settled) {c : κ}
    (hc : c ∈ b.clients) : (b.value, b.version) ∈ b.inbox c := by
  rcases h c hc with hhas | ⟨job, hjob, howes⟩
  · exact hhas
  · have hdone := hsettled job hjob
    cases job with
    | sending payload version todo =>
      cases todo with
      | nil => exact absurd howes.2.2 List.not_mem_nil
      | cons c todo => cases hdone
    | writing changed writes stamp => cases hdone
    | publishing audience => cases hdone
    | taken audience payload version => cases hdone

/-! ## 3. The order -/

/-- What goes with a version was the board at that version. -/
def Dated (b : Board V κ) (payload : V) (version : Nat) : Prop :=
  version ≤ b.version ∧ (version = b.version → payload = b.value)

/-- The snapshot of a job is dated. -/
def Job.IsDated (b : Board V κ) : Job V κ → Prop
  | .writing _ _ _ => True
  | .publishing _ => True
  | .taken _ payload version => Dated b payload version
  | .sending payload version _ => Dated b payload version

/-- The client a job puts to next, and the version it puts. -/
def Job.next? : Job V κ → Option (κ × Nat)
  | .sending _ version (c :: _) => some (c, version)
  | _ => none

/-- No snapshot is put behind a newer one. -/
def Board.InOrder (b : Board V κ) : Event V κ → Prop
  | .advance i =>
    ∀ next ∈ (b.jobs[i]?).bind Job.next?, ∀ entry ∈ b.inbox next.1, entry.2 ≤ next.2
  | _ => True

instance (b : Board V κ) (e : Event V κ) : Decidable (b.InOrder e) := by
  cases e <;> unfold Board.InOrder <;> infer_instance

/-- Snapshots are dated, and inboxes are in the order of their versions. -/
structure Board.Ordered (b : Board V κ) : Prop where
  jobs : ∀ job ∈ b.jobs, job.IsDated b
  entries : ∀ c, ∀ entry ∈ b.inbox c, Dated b entry.1 entry.2
  sorted : ∀ c, (b.inbox c).Pairwise fun entry entry' => entry.2 ≤ entry'.2

theorem Job.IsDated.write {b : Board V κ} {job : Job V κ} (h : job.IsDated b) (value : V) :
    job.IsDated (b.write value) := by
  have hdated : ∀ {payload : V} {version : Nat}, Dated b payload version →
      Dated (b.write value) payload version := by
    intro payload version hdated
    refine ⟨Nat.le_succ_of_le hdated.1, fun heq => ?_⟩
    have hle := hdated.1
    rw [heq] at hle
    exact absurd hle (Nat.not_succ_le_self _)
  cases job with
  | writing changed writes stamp => trivial
  | publishing audience => trivial
  | taken audience payload version => exact hdated h
  | sending payload version todo => exact hdated h

/-- A change makes every snapshot an old one. -/
theorem Board.Ordered.write {b : Board V κ} (h : b.Ordered) (value : V) :
    (b.write value).Ordered := by
  refine ⟨fun job hjob => (h.jobs job hjob).write value, fun c entry hentry => ?_, h.sorted⟩
  have htaken : (Job.taken none entry.1 entry.2 : Job V κ).IsDated b := h.entries c entry hentry
  exact htaken.write value

theorem Board.Ordered.setJob {b : Board V κ} (h : b.Ordered) (i : Nat) {job : Job V κ}
    (hjob : job.IsDated b) : (b.setJob i job).Ordered := by
  refine ⟨fun other hother => ?_, h.entries, h.sorted⟩
  rcases List.mem_or_eq_of_mem_set hother with hother | rfl
  · exact h.jobs other hother
  · exact hjob

section Run

variable [DecidableEq V] [DecidableEq κ]

omit [DecidableEq V] in
/-- A snapshot that is not older than the inbox is put behind it. -/
theorem Board.Ordered.put {b : Board V κ} (h : b.Ordered) {c : κ} {payload : V} {version : Nat}
    (hdated : Dated b payload version) (hlast : ∀ entry ∈ b.inbox c, entry.2 ≤ version) :
    (b.put c payload version).Ordered := by
  refine ⟨h.jobs, fun c' entry hentry => ?_, fun c' => ?_⟩
  · rcases Board.mem_put.mp hentry with hentry | ⟨-, rfl⟩
    · exact h.entries c' entry hentry
    · exact hdated
  · show List.Pairwise _ (Function.update b.inbox c _ c')
    by_cases hc : c' = c
    · subst hc
      rw [Function.update_self]
      refine List.pairwise_append.mpr ⟨h.sorted c', List.pairwise_singleton _ _, ?_⟩
      intro entry hentry entry' hentry'
      rw [List.mem_singleton.mp hentry']
      exact hlast entry hentry
    · rw [Function.update_of_ne hc]
      exact h.sorted c'

end Run

end Publish
