/-
# The task of the web layer

The web layer shows one task at a time.  The record of the task counts the replies and the receive
windows that were seen while it ran.  `on_transport_event` adds to a counter in three steps, each
under the lock and none of them holding it for the next: it checks that a task is running, takes a
snapshot, and writes the snapshot's counter plus one into whatever record is there by then.

Here any number of threads handle events, between any starts and ends of tasks.
`attributed_iff` says in which runs every event is counted once, for the task it was seen under:
those in which nobody starts a task between the check and the write of an event, and nobody adds to
the counter between the snapshot and the write.  The runner of a task needs no condition: a new task
starts only after the runner's last update.
-/
import RaceLink.Lts.Basic
import Mathlib.Logic.Function.Basic
import Mathlib.Data.List.Basic

namespace RaceLink

/-! ## 1. The task manager -/

/-- `task["state"]`. -/
inductive TaskState where
  | running
  | done
  | error
  deriving DecidableEq

/-- The counters of a task. -/
inductive TaskCounter where
  | rxReplies
  | rxWindowEvents
  deriving DecidableEq

/-- `_task`: what the events and the runner write, and the name. -/
structure TaskRecord where
  id : Nat
  name : String
  state : TaskState
  counter : TaskCounter → Nat
  lastError : Option String

structure TaskManager where
  task : Option TaskRecord
  taskSeq : Nat

namespace TaskManager

variable (m : TaskManager)

/-- `update`; the values do not depend on the record. -/
def update (change : TaskRecord → TaskRecord) : TaskManager := { m with task := m.task.map change }

def isRunning : Bool :=
  match m.task with
  | some t => t.state = .running
  | none => false

/-- `start`, up to the thread of the runner; `none` while a task is running. -/
def start (name : String) : Option TaskManager :=
  if m.isRunning then none
  else some
    { task := some { id := m.taskSeq + 1, name := name, state := .running, counter := fun _ => 0
                     lastError := none }
      taskSeq := m.taskSeq + 1 }

end TaskManager

/-- The last update of a runner: the task has returned, or raised. -/
def TaskRecord.finished (failure : Option String) (t : TaskRecord) : TaskRecord :=
  match failure with
  | none => { t with state := .done }
  | some text => { t with state := .error, lastError := some text }

/-! ## 2. Handling an event -/

/-- An event of the transport, as far as the task is concerned. -/
inductive TransportEvent where
  | state (stateByte : Nat)
  | failure (text : String)
  | reply (kind : String)
  deriving DecidableEq

/-- `GATEWAY_STATE_RX_WINDOW`. -/
def TransportEvent.gatewayStateRxWindow : Nat := 0x02

/-- The counter of a task with this name that the event adds to. -/
def TransportEvent.counter : TransportEvent → Option String → Option TaskCounter
  | .state stateByte, _ =>
    if stateByte = gatewayStateRxWindow then some .rxWindowEvents else none
  | .failure _, _ => none
  | .reply kind, name =>
    if name = some "discover" ∧ kind = "IDENTIFY_REPLY" ∨
        name = some "status" ∧ kind = "STATUS_REPLY" then some .rxReplies
    else none

/-- The arguments of an `update` that an event makes. -/
inductive TaskChange where
  | count (counter : TaskCounter) (value : Nat)
  | lastError (text : String)

def TaskChange.apply : TaskChange → TaskRecord → TaskRecord
  | count c value, t => { t with counter := Function.update t.counter c value }
  | lastError text, t => { t with lastError := some text }

/-- The counter that is written. -/
def TaskChange.counter : TaskChange → Option TaskCounter
  | count c _ => some c
  | lastError _ => none

/-- What an event writes after a snapshot. -/
def TransportEvent.change (ev : TransportEvent) (snap : Option TaskRecord) : Option TaskChange :=
  (ev.counter (snap.map (·.name))).map fun c =>
    .count c ((snap.map (·.counter c)).getD 0 + 1)

/-- Where a thread is in `on_transport_event`; `observed` is not in the source: the task that was
running at the check. -/
inductive Handling where
  | idle
  | looking (ev : TransportEvent) (observed : Nat)
  | writing (ev : TransportEvent) (observed : Nat) (change : TaskChange)

/-- After the check has found a task. -/
def TransportEvent.checked (ev : TransportEvent) (observed : Nat) : Handling :=
  match ev with
  | .state stateByte => if stateByte = gatewayStateRxWindow then .looking ev observed else .idle
  | .failure text => .writing ev observed (.lastError text)
  | .reply _ => .looking ev observed

def Handling.observed : Handling → Option Nat
  | idle => none
  | looking _ k => some k
  | writing _ k _ => some k

/-! ## 3. The system -/

/-- The manager, the tasks whose runner has not ended, and the threads that handle events. -/
structure TaskBoard where
  manager : TaskManager
  runners : List Nat
  handlers : Nat → Handling
  /-- Not in the source: the events that were handled, each with the task of its check. -/
  handled : List (Nat × TransportEvent)
  /-- Not in the source: the updates for events, as the task of the check and the one written to. -/
  written : List (Nat × Nat)
  /-- Not in the source: the last updates of runners, as their task and the one written to. -/
  ended : List (Nat × Nat)

/-- What can happen: a start, the end of a runner, and the steps of a thread. -/
inductive TaskStep where
  | start (name : String)
  | finish (runner : Nat) (failure : Option String)
  | check (thread : Nat) (ev : TransportEvent)
  | look (thread : Nat)
  | write (thread : Nat)

/-- An update made for a task reaches the record that is there. -/
def TaskManager.reached (m : TaskManager) (k : Nat) : List (Nat × Nat) :=
  (m.task.map fun t => (k, t.id)).toList

namespace TaskBoard

variable (s : TaskBoard)

def started (name : String) : TaskBoard :=
  match s.manager.start name with
  | some m => { s with manager := m, runners := m.taskSeq :: s.runners }
  | none => s

def finish (k : Nat) (failure : Option String) : TaskBoard :=
  { s with manager := s.manager.update (·.finished failure), runners := s.runners.filter (· ≠ k)
           ended := s.ended ++ s.manager.reached k }

def setHandler (i : Nat) (h : Handling) : TaskBoard :=
  { s with handlers := Function.update s.handlers i h }

def check (i : Nat) (ev : TransportEvent) : TaskBoard :=
  if s.manager.isRunning then s.setHandler i (ev.checked ((s.manager.task.map (·.id)).getD 0))
  else s

def look (i : Nat) (ev : TransportEvent) (k : Nat) : TaskBoard :=
  match ev.change s.manager.task with
  | some change => s.setHandler i (.writing ev k change)
  | none => { s.setHandler i .idle with handled := s.handled ++ [(k, ev)] }

def write (i : Nat) (ev : TransportEvent) (k : Nat) (change : TaskChange) : TaskBoard :=
  { s.setHandler i .idle with
    manager := s.manager.update change.apply, handled := s.handled ++ [(k, ev)]
    written := s.written ++ s.manager.reached k }

/-- One step; a thread handles one event at a time. -/
def step (s : TaskBoard) : TaskStep → Option TaskBoard
  | .start name => some (s.started name)
  | .finish k failure => if k ∈ s.runners then some (s.finish k failure) else none
  | .check i ev =>
    match s.handlers i with
    | .idle => some (s.check i ev)
    | _ => none
  | .look i =>
    match s.handlers i with
    | .looking ev k => some (s.look i ev k)
    | _ => none
  | .write i =>
    match s.handlers i with
    | .writing ev k change => some (s.write i ev k change)
    | _ => none

theorem check_eq_some {s t : TaskBoard} {i : Nat} {ev : TransportEvent}
    (h : s.step (.check i ev) = some t) : t = s.check i ev := by
  unfold step at h
  dsimp only at h
  split at h
  · exact (Option.some.inj h).symm
  · cases h

theorem look_eq_some {s t : TaskBoard} {i : Nat} (h : s.step (.look i) = some t) :
    ∃ ev k, s.handlers i = .looking ev k ∧ t = s.look i ev k := by
  unfold step at h
  dsimp only at h
  split at h
  · next ev k hlooking => exact ⟨ev, k, hlooking, (Option.some.inj h).symm⟩
  · cases h

theorem write_eq_some {s t : TaskBoard} {i : Nat} (h : s.step (.write i) = some t) :
    ∃ ev k change, s.handlers i = .writing ev k change ∧ t = s.write i ev k change := by
  unfold step at h
  dsimp only at h
  split at h
  · next ev k change hwriting => exact ⟨ev, k, change, hwriting, (Option.some.inj h).symm⟩
  · cases h

theorem finish_eq_some {s t : TaskBoard} {k : Nat} {failure : Option String}
    (h : s.step (.finish k failure) = some t) : k ∈ s.runners ∧ t = s.finish k failure := by
  unfold step at h
  dsimp only at h
  split at h
  · next hk => exact ⟨hk, (Option.some.inj h).symm⟩
  · cases h

end TaskBoard

/-- Before the first task. -/
def emptyBoard : TaskBoard :=
  { manager := { task := none, taskSeq := 0 }, runners := [], handlers := fun _ => .idle
    handled := [], written := [], ended := [] }

def taskSystem : Lts.System TaskBoard TaskStep where
  init := emptyBoard
  step := TaskBoard.step

/-! ## 4. What the counters should say -/

/-- The event was seen under the task of this id and name, and adds to this counter of it. -/
def countsFor (id : Nat) (name : String) (c : TaskCounter) (h : Nat × TransportEvent) : Bool :=
  h.1 = id ∧ h.2.counter (some name) = some c

/-- The number of the events in a log that add to a counter of the task. -/
def TaskRecord.own (t : TaskRecord) (c : TaskCounter) (log : List (Nat × TransportEvent)) : Nat :=
  log.countP (countsFor t.id t.name c)

/-- Each counter of the task is the number of its own events that were handled; no update for an
event or by a runner has reached the record of another task. -/
structure Attributed (s : TaskBoard) : Prop where
  counters : ∀ t, s.manager.task = some t → ∀ c,
    t.counter c = t.own c s.handled
  events : ∀ w ∈ s.written, w.1 = w.2
  runners : ∀ w ∈ s.ended, w.1 = w.2

/-- At the write of an event, no task has been started since its check, and nobody has added to the
counter since its snapshot. -/
def Undisturbed (s : TaskBoard) : TaskStep → Prop
  | .write i => ∀ ev k change, s.handlers i = .writing ev k change →
      s.manager.taskSeq = k ∧ ∀ c n t, change = .count c n → s.manager.task = some t →
        n = t.counter c + 1
  | _ => True

/-! ## 5. What every run keeps -/

/-- A thread that has seen a task running, and what it is about to write. -/
structure HandlingKept (m : TaskManager) (h : Handling) : Prop where
  seen : ∀ k, h.observed = some k → k ≤ m.taskSeq ∧ m.task.isSome = true
  change : ∀ ev k change t, h = .writing ev k change → m.task = some t → t.id = k →
    change.counter = ev.counter (some t.name)

/-- The task is the last that was started, a runner that has not ended is the one of the task, and
the task is then running. -/
structure BoardKept (s : TaskBoard) : Prop where
  last : ∀ t, s.manager.task = some t → t.id = s.manager.taskSeq
  runners : ∀ k ∈ s.runners, ∃ t, s.manager.task = some t ∧ t.id = k ∧ t.state = .running
  handlers : ∀ i, HandlingKept s.manager (s.handlers i)
  handled : ∀ h ∈ s.handled, h.1 ≤ s.manager.taskSeq

theorem handlingKept_idle (m : TaskManager) : HandlingKept m .idle := ⟨nofun, nofun⟩

/-- A change to the record that keeps its id and its name. -/
theorem HandlingKept.update {m : TaskManager} {h : Handling} (hkept : HandlingKept m h)
    {change : TaskRecord → TaskRecord}
    (hsame : ∀ t, (change t).id = t.id ∧ (change t).name = t.name) :
    HandlingKept (m.update change) h := by
  refine ⟨fun k hk => ?_, fun ev k c t hwriting ht hid => ?_⟩
  · obtain ⟨hle, hsome⟩ := hkept.seen k hk
    exact ⟨hle, by rw [TaskManager.update, Option.isSome_map]; exact hsome⟩
  · obtain ⟨t₀, ht₀, rfl⟩ := Option.map_eq_some_iff.mp ht
    rw [(hsame t₀).1] at hid
    rw [(hsame t₀).2]
    exact hkept.change ev k c t₀ hwriting ht₀ hid

theorem finished_same (failure : Option String) (t : TaskRecord) :
    (t.finished failure).id = t.id ∧ (t.finished failure).name = t.name ∧
      (t.finished failure).counter = t.counter := by
  cases failure <;> exact ⟨rfl, rfl, rfl⟩

theorem apply_same (change : TaskChange) (t : TaskRecord) :
    (change.apply t).id = t.id ∧ (change.apply t).name = t.name ∧
      (change.apply t).state = t.state := by
  cases change <;> exact ⟨rfl, rfl, rfl⟩

/-- A task is found running when it is there. -/
theorem TaskManager.isRunning_iff {m : TaskManager} :
    m.isRunning = true ↔ ∃ t, m.task = some t ∧ t.state = .running := by
  unfold TaskManager.isRunning
  cases m.task with
  | none => simp
  | some t => simp

namespace BoardKept

variable {s : TaskBoard}

theorem started (h : BoardKept s) (name : String) : BoardKept (s.started name) := by
  unfold TaskBoard.started
  by_cases hrunning : s.manager.isRunning = true
  · rw [TaskManager.start, if_pos hrunning]
    exact h
  · rw [TaskManager.start, if_neg hrunning]
    refine ⟨fun t ht => ?_, fun k hk => ?_, fun i => ⟨fun k hk => ?_, ?_⟩, fun e he => ?_⟩
    · cases ht
      rfl
    · rcases List.mem_cons.mp hk with rfl | hk
      · exact ⟨_, rfl, rfl, rfl⟩
      -- a runner would have its task running
      · obtain ⟨t, ht, -, hstate⟩ := h.runners k hk
        exact absurd (TaskManager.isRunning_iff.mpr ⟨t, ht, hstate⟩) hrunning
    · exact ⟨Nat.le_succ_of_le ((h.handlers i).seen k hk).1, rfl⟩
    · rintro ev k change t hwriting ht rfl
      cases ht
      have hle := ((h.handlers i).seen _ (by rw [hwriting]; rfl)).1
      exact absurd hle (Nat.not_succ_le_self _)
    · exact Nat.le_succ_of_le (h.handled e he)

theorem finish (h : BoardKept s) {k : Nat} (hk : k ∈ s.runners) (failure : Option String) :
    BoardKept (s.finish k failure) := by
  obtain ⟨t₀, ht₀, hid₀, -⟩ := h.runners k hk
  refine ⟨fun t ht => ?_, fun j hj => ?_, fun i => (h.handlers i).update fun t => ?_, h.handled⟩
  · obtain ⟨t₁, ht₁, rfl⟩ := Option.map_eq_some_iff.mp ht
    rw [(finished_same failure t₁).1]
    exact h.last t₁ ht₁
  · obtain ⟨hj, hne⟩ := List.mem_filter.mp hj
    obtain ⟨t₁, ht₁, hid₁, -⟩ := h.runners j hj
    cases ht₀.symm.trans ht₁
    simp [hid₁.symm.trans hid₀] at hne
  · exact ⟨(finished_same failure t).1, (finished_same failure t).2.1⟩

/-- A thread that comes to a new place. -/
theorem setHandler (h : BoardKept s) {i : Nat} {handling : Handling}
    (hkept : HandlingKept s.manager handling) : BoardKept (s.setHandler i handling) := by
  refine ⟨h.last, h.runners, fun j => ?_, h.handled⟩
  dsimp only [TaskBoard.setHandler]
  by_cases hj : j = i
  · rw [hj, Function.update_self]
    exact hkept
  · rw [Function.update_of_ne hj]
    exact h.handlers j

theorem check (h : BoardKept s) (i : Nat) (ev : TransportEvent) : BoardKept (s.check i ev) := by
  unfold TaskBoard.check
  split
  · next hrunning =>
    obtain ⟨t, ht, -⟩ := TaskManager.isRunning_iff.mp hrunning
    have hseen : t.id ≤ s.manager.taskSeq ∧ s.manager.task.isSome = true :=
      ⟨Nat.le_of_eq (h.last t ht), by rw [ht]; rfl⟩
    refine h.setHandler ?_
    rw [ht, Option.map_some, Option.getD_some]
    unfold TransportEvent.checked
    cases ev with
    | state stateByte =>
      dsimp only
      split
      · exact ⟨fun k hk => Option.some.inj hk ▸ hseen, nofun⟩
      · exact handlingKept_idle _
    | failure text =>
      refine ⟨fun k hk => Option.some.inj hk ▸ hseen, fun ev k change t' hwriting _ _ => ?_⟩
      cases hwriting
      rfl
    | reply kind => exact ⟨fun k hk => Option.some.inj hk ▸ hseen, nofun⟩
  · exact h

theorem look (h : BoardKept s) {i : Nat} {ev : TransportEvent} {k : Nat}
    (hlooking : s.handlers i = .looking ev k) : BoardKept (s.look i ev k) := by
  have hseen := (h.handlers i).seen k (by rw [hlooking]; rfl)
  unfold TaskBoard.look
  split
  · next change hchange =>
    refine h.setHandler ⟨fun j hj => Option.some.inj hj ▸ hseen, ?_⟩
    intro ev' k' change' t hwriting ht _
    cases hwriting
    rw [TransportEvent.change, ht] at hchange
    obtain ⟨c, hc, rfl⟩ := Option.map_eq_some_iff.mp hchange
    exact hc.symm
  · have hkept := h.setHandler (i := i) (handlingKept_idle s.manager)
    exact ⟨hkept.last, hkept.runners, hkept.handlers, List.forall_mem_append.mpr
      ⟨h.handled, List.forall_mem_singleton.mpr hseen.1⟩⟩

theorem write (h : BoardKept s) {i : Nat} {ev : TransportEvent} {k : Nat} {change : TaskChange}
    (hwriting : s.handlers i = .writing ev k change) : BoardKept (s.write i ev k change) := by
  have hseen := (h.handlers i).seen k (by rw [hwriting]; rfl)
  have hkept := h.setHandler (i := i) (handlingKept_idle s.manager)
  refine ⟨fun t ht => ?_, fun j hj => ?_, fun j => (hkept.handlers j).update fun t => ?_,
    List.forall_mem_append.mpr ⟨h.handled, List.forall_mem_singleton.mpr hseen.1⟩⟩
  · obtain ⟨t₁, ht₁, rfl⟩ := Option.map_eq_some_iff.mp ht
    rw [(apply_same change t₁).1]
    exact h.last t₁ ht₁
  · obtain ⟨t, ht, hid, hstate⟩ := h.runners j hj
    obtain ⟨hsame, -, hsameState⟩ := apply_same change t
    exact ⟨change.apply t, Option.map_eq_some_iff.mpr ⟨t, ht, rfl⟩, hsame.trans hid,
      hsameState.trans hstate⟩
  · exact ⟨(apply_same change t).1, (apply_same change t).2.1⟩

end BoardKept

/-- **Every step** keeps the book of the runners and the threads. -/
theorem BoardKept.step {s t : TaskBoard} {e : TaskStep} (h : BoardKept s)
    (ht : taskSystem.step s e = some t) : BoardKept t := by
  cases e with
  | start name =>
    cases ht
    exact h.started name
  | finish k failure =>
    obtain ⟨hk, rfl⟩ := TaskBoard.finish_eq_some ht
    exact h.finish hk failure
  | check i ev =>
    obtain rfl := TaskBoard.check_eq_some ht
    exact h.check i ev
  | look i =>
    obtain ⟨ev, k, hlooking, rfl⟩ := TaskBoard.look_eq_some ht
    exact h.look hlooking
  | write i =>
    obtain ⟨ev, k, change, hwriting, rfl⟩ := TaskBoard.write_eq_some ht
    exact h.write hwriting

theorem boardKept_empty : BoardKept emptyBoard :=
  ⟨nofun, nofun, fun _ => handlingKept_idle _, nofun⟩

theorem attributed_empty : Attributed emptyBoard := ⟨nofun, nofun, nofun⟩

/-! ## 6. What the steps do to the counters -/

theorem countsFor_iff {id : Nat} {name : String} {c : TaskCounter} {k : Nat}
    {ev : TransportEvent} :
    countsFor id name c (k, ev) = true ↔ k = id ∧ ev.counter (some name) = some c :=
  decide_eq_true_iff

/-- One more event. -/
theorem TaskRecord.own_snoc (t : TaskRecord) (c : TaskCounter)
    (log : List (Nat × TransportEvent)) (k : Nat) (ev : TransportEvent) :
    t.own c (log ++ [(k, ev)])
      = t.own c log + if k = t.id ∧ ev.counter (some t.name) = some c then 1 else 0 := by
  rw [TaskRecord.own, TaskRecord.own, List.countP_append, List.countP_singleton]
  simp only [countsFor_iff]

theorem TaskRecord.own_congr {t t' : TaskRecord} (hid : t'.id = t.id) (hname : t'.name = t.name)
    (c : TaskCounter) (log : List (Nat × TransportEvent)) : t'.own c log = t.own c log := by
  rw [TaskRecord.own, TaskRecord.own, hid, hname]

namespace Attributed

variable {s : TaskBoard}

theorem started (ha : Attributed s) (h : BoardKept s) (name : String) :
    Attributed (s.started name) := by
  unfold TaskBoard.started
  by_cases hrunning : s.manager.isRunning = true
  · rw [TaskManager.start, if_pos hrunning]
    exact ha
  · rw [TaskManager.start, if_neg hrunning]
    refine ⟨fun t ht c => ?_, ha.events, ha.runners⟩
    cases ht
    refine (List.countP_eq_zero.mpr fun e he => ?_).symm
    have hle := h.handled e he
    rw [countsFor_iff]
    rintro ⟨hid, -⟩
    exact absurd (hid ▸ hle) (Nat.not_succ_le_self _)

theorem finish (ha : Attributed s) (h : BoardKept s) {k : Nat} (hk : k ∈ s.runners)
    (failure : Option String) : Attributed (s.finish k failure) := by
  obtain ⟨t₀, ht₀, hid₀, -⟩ := h.runners k hk
  refine ⟨fun t ht c => ?_, ha.events, List.forall_mem_append.mpr ⟨ha.runners, fun w hw => ?_⟩⟩
  · obtain ⟨t₁, ht₁, rfl⟩ := Option.map_eq_some_iff.mp ht
    obtain ⟨hid, hname, hcounter⟩ := finished_same failure t₁
    rw [hcounter, TaskRecord.own_congr hid hname]
    exact ha.counters t₁ ht₁ c
  · rw [TaskManager.reached, ht₀] at hw
    cases List.mem_singleton.mp hw
    exact hid₀.symm

theorem check (ha : Attributed s) (i : Nat) (ev : TransportEvent) :
    Attributed (s.check i ev) := by
  unfold TaskBoard.check
  split
  · exact ⟨ha.counters, ha.events, ha.runners⟩
  · exact ha

theorem look (ha : Attributed s) (i : Nat) (ev : TransportEvent) (k : Nat) :
    Attributed (s.look i ev k) := by
  unfold TaskBoard.look
  split
  · exact ⟨ha.counters, ha.events, ha.runners⟩
  · next hnone =>
    refine ⟨fun t ht c => ?_, ha.events, ha.runners⟩
    have ht : s.manager.task = some t := ht
    have hother : ¬ (k = t.id ∧ ev.counter (some t.name) = some c) := by
      rintro ⟨-, hcounter⟩
      rw [TransportEvent.change, ht, Option.map_some, hcounter] at hnone
      cases hnone
    rw [TaskRecord.own_snoc, if_neg hother]
    exact ha.counters t ht c

/-- **The write of an event** keeps the counters right exactly when it is undisturbed. -/
theorem write_iff (ha : Attributed s) (h : BoardKept s) {i : Nat} {ev : TransportEvent} {k : Nat}
    {change : TaskChange} (hwriting : s.handlers i = .writing ev k change) :
    Attributed (s.write i ev k change) ↔ s.manager.taskSeq = k ∧
      ∀ c n t, change = .count c n → s.manager.task = some t → n = t.counter c + 1 := by
  obtain ⟨-, hsome⟩ := (h.handlers i).seen k (by rw [hwriting]; rfl)
  obtain ⟨t, ht⟩ := Option.isSome_iff_exists.mp hsome
  have hlast := h.last t ht
  have hadds := fun hid : t.id = k => (h.handlers i).change ev k change t hwriting ht hid
  have hreached : s.manager.reached k = [(k, t.id)] := by rw [TaskManager.reached, ht]; rfl
  have hafter : (s.write i ev k change).manager.task = some (change.apply t) :=
    Option.map_eq_some_iff.mpr ⟨t, ht, rfl⟩
  obtain ⟨hid, hname, -⟩ := apply_same change t
  -- the record after the write has the right counters when what is written is one more
  have hright : t.id = k → ((∀ c, (change.apply t).counter c
        = (change.apply t).own c (s.handled ++ [(k, ev)])) ↔
      ∀ c n, change = .count c n → n = t.counter c + 1) := by
    intro hk
    have hadds := hadds hk
    simp only [TaskRecord.own_congr hid hname, TaskRecord.own_snoc, ← ha.counters t ht, hk,
      true_and, ← hadds]
    cases change with
    | count c₀ n₀ =>
      simp only [TaskChange.apply, TaskChange.counter, Option.some.injEq, TaskChange.count.injEq]
      constructor
      · rintro hall c n ⟨rfl, rfl⟩
        have hc := hall c₀
        rw [Function.update_self, if_pos rfl] at hc
        exact hc
      · intro hone c
        by_cases hc : c = c₀
        · rw [hc, Function.update_self, if_pos rfl]
          exact hone c₀ n₀ ⟨rfl, rfl⟩
        · rw [Function.update_of_ne hc, if_neg (Ne.symm hc)]
          rfl
    | lastError text =>
      simp only [TaskChange.apply, TaskChange.counter, reduceCtorEq, if_false, Nat.add_zero,
        implies_true, false_imp_iff]
  constructor
  · intro hafterwards
    have hk : k = t.id := hafterwards.events (k, t.id)
      (List.mem_append_right _ (by rw [hreached]; exact List.mem_singleton_self _))
    refine ⟨hlast.symm.trans hk.symm, fun c n t' hchange ht' => ?_⟩
    cases ht.symm.trans ht'
    exact (hright hk.symm).mp (hafterwards.counters _ hafter) c n hchange
  · rintro ⟨hseq, hone⟩
    have hk : t.id = k := hlast.trans hseq
    refine ⟨fun t' ht' => ?_, List.forall_mem_append.mpr ⟨ha.events, fun w hw => ?_⟩, ha.runners⟩
    · cases hafter.symm.trans ht'
      exact (hright hk).mpr fun c n hchange => hone c n t hchange ht
    · rw [hreached] at hw
      cases List.mem_singleton.mp hw
      exact hk.symm

end Attributed

/-- **The last update of a runner** reaches its own task, in every run. -/
theorem ended_run {es : List TaskStep} {t : TaskBoard}
    (hrun : Lts.run taskSystem emptyBoard es = some t) : ∀ w ∈ t.ended, w.1 = w.2 := by
  refine (Lts.invariant_run (I := fun s => BoardKept s ∧ ∀ w ∈ s.ended, w.1 = w.2)
    ?_ ⟨boardKept_empty, nofun⟩ hrun).2
  rintro s e t ⟨hkept, hended⟩ ht
  refine ⟨hkept.step ht, ?_⟩
  cases e with
  | start name =>
    cases ht
    unfold TaskBoard.started
    split <;> exact hended
  | finish k failure =>
    obtain ⟨hk, rfl⟩ := TaskBoard.finish_eq_some ht
    obtain ⟨t₀, ht₀, hid₀, -⟩ := hkept.runners k hk
    refine List.forall_mem_append.mpr ⟨hended, fun w hw => ?_⟩
    rw [TaskManager.reached, ht₀] at hw
    cases List.mem_singleton.mp hw
    exact hid₀.symm
  | check i ev =>
    obtain rfl := TaskBoard.check_eq_some ht
    unfold TaskBoard.check
    split <;> exact hended
  | look i =>
    obtain ⟨ev, k, -, rfl⟩ := TaskBoard.look_eq_some ht
    unfold TaskBoard.look
    split <;> exact hended
  | write i =>
    obtain ⟨ev, k, change, -, rfl⟩ := TaskBoard.write_eq_some ht
    exact hended

/-- **The counters of the tasks**: in every run of starts, ends and events, handled by any number of
threads, all counters are right and no update reaches another task's record, throughout, exactly
when every write of an event is undisturbed. -/
theorem attributed_iff {es : List TaskStep} {t : TaskBoard}
    (hrun : Lts.run taskSystem emptyBoard es = some t) :
    Lts.Throughout taskSystem Attributed emptyBoard es ↔
      Lts.RunMeets taskSystem Undisturbed emptyBoard es := by
  refine Lts.throughout_iff (I := fun s => BoardKept s ∧ Attributed s) (fun s hs => hs.2)
    ?keep ?lose ⟨boardKept_empty, attributed_empty⟩ hrun
  case keep =>
    rintro s e t ⟨hkept, ha⟩ hok ht
    refine ⟨hkept.step ht, ?_⟩
    cases e with
    | start name =>
      cases ht
      exact ha.started hkept name
    | finish k failure =>
      obtain ⟨hk, rfl⟩ := TaskBoard.finish_eq_some ht
      exact ha.finish hkept hk failure
    | check i ev =>
      obtain rfl := TaskBoard.check_eq_some ht
      exact ha.check i ev
    | look i =>
      obtain ⟨ev, k, -, rfl⟩ := TaskBoard.look_eq_some ht
      exact ha.look i ev k
    | write i =>
      obtain ⟨ev, k, change, hwriting, rfl⟩ := TaskBoard.write_eq_some ht
      exact (ha.write_iff hkept hwriting).mpr (hok ev k change hwriting)
  case lose =>
    rintro s e t ⟨hkept, ha⟩ hnot ht hafter
    cases e with
    | write i =>
      obtain ⟨ev, k, change, hwriting, rfl⟩ := TaskBoard.write_eq_some ht
      refine hnot fun ev' k' change' hwriting' => ?_
      cases hwriting.symm.trans hwriting'
      exact (ha.write_iff hkept hwriting).mp hafter
    | _ => exact hnot trivial

/-- A discovery, and one reply that is handled while it runs. -/
def discoverRun : List TaskStep :=
  [.start "discover", .check 0 (.reply "IDENTIFY_REPLY"), .look 0, .write 0, .finish 1 none]

theorem attributed_discoverRun : Lts.Throughout taskSystem Attributed emptyBoard discoverRun := by
  have hrun : Lts.run taskSystem emptyBoard discoverRun
      = some ((Lts.run taskSystem emptyBoard discoverRun).get rfl) := (Option.some_get _).symm
  refine (attributed_iff hrun).mpr ?_
  refine ⟨trivial, fun t ht => ?_⟩
  cases ht
  refine ⟨trivial, fun t ht => ?_⟩
  cases ht
  refine ⟨trivial, fun t ht => ?_⟩
  cases ht
  refine ⟨?_, fun t ht => ?_⟩
  · intro ev k change hwriting
    cases hwriting
    refine ⟨rfl, fun c n t hchange ht => ?_⟩
    cases hchange
    cases ht
    rfl
  cases ht
  refine ⟨trivial, fun t ht => ?_⟩
  cases ht
  trivial

/-- The same reply, and the task ends, and a second discovery is started, before the snapshot: the
second task has counted a reply that was seen under the first. -/
def overtakenRun : List TaskStep :=
  [.start "discover", .check 0 (.reply "IDENTIFY_REPLY"), .finish 1 none, .start "discover",
    .look 0, .write 0]

theorem attributed_overtaken : ∃ t, Lts.run taskSystem emptyBoard overtakenRun = some t ∧
    t.manager.task.map (fun task => (task.id, task.counter .rxReplies)) = some (2, 1) ∧
    t.handled = [(1, .reply "IDENTIFY_REPLY")] ∧ ¬ Attributed t := by
  refine ⟨(Lts.run taskSystem emptyBoard overtakenRun).get rfl, (Option.some_get _).symm, rfl, rfl,
    fun h => ?_⟩
  exact absurd (h.events (1, 2) List.mem_cons_self) (by decide)

end RaceLink
