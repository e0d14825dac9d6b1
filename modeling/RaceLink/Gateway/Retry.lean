/-
# The retries of the gateway

`discoverPort` looks for the gateway.  When it fails it leaves an error that the operator is shown,
and for two kinds of failure it arms a timer that tries again; the error then says in how many
seconds.  The timer, the number of the retry, the error and the flag of a lost link are written by
five methods.

Here an attempt is one step, and the steps come in any order: attempts from anywhere, the timer's
own, losses of the link, the operator's retries, and the shutdown.  `retry_one_timer` holds in every
run: there is never a second timer, and none after the shutdown.  Two things can go wrong.
`_record_gateway_error` leaves an armed timer alone when the new failure is not one to retry, so
the error says that nothing will happen while the timer runs.  And the place in the backoff
schedule counts the timers that have fired, not the automatic failures: a lost link has an attempt
of its own, which fails at the entry of the failure before.  `retry_agrees_iff` says that these are
the only ways: the error, the timer and the schedule agree throughout exactly when neither happens.

The option store of the host is taken to answer; its toasts may raise.
-/
import RaceLink.Lts.Basic
import RaceLink.Python.Value
import Mathlib.Data.List.Infix

namespace RaceLink

/-! ## 1. Errors -/

inductive GatewayErrorCode where
  | notFound
  | portBusy
  | linkLost
  | hostError
  deriving DecidableEq

/-- `classify_gateway_error`. -/
def classifyGatewayError (reason : String) : GatewayErrorCode :=
  let has (part : String) : Bool := part.toList <:+: (Python.lower reason).toList
  if has "no racelink gateway" || has "not found" || has "no device" then .notFound
  else if has "exclusive lock" || has "could not exclusively lock" ||
      has "resource temporarily unavailable" || has "port busy" then .portBusy
  else if has "disconnect" || has "link lost" || has "read error" then .linkLost
  else .hostError

/-- A failure that retries itself. -/
def GatewayErrorCode.autoEligible : GatewayErrorCode → Bool
  | portBusy | linkLost => true
  | notFound | hostError => false

/-- `_GATEWAY_RETRY_BACKOFF_S`. -/
def gatewayRetryBackoff : List Nat := [2, 5, 10, 20, 30]

/-- The delay of the retry with this number. -/
def retryDelay (attempt : Nat) : Nat :=
  gatewayRetryBackoff.getD (min attempt (gatewayRetryBackoff.length - 1)) 0

/-- Who asks for an attempt. -/
inductive DiscoverOrigin where
  | manual
  | auto
  | programmatic
  deriving DecidableEq

/-- The arguments of `_record_gateway_error`, but for the origin. -/
structure GatewayFailure where
  reason : String
  code : Option GatewayErrorCode

/-- The code that is recorded: after a lost link, a missing gateway is the link still lost. -/
def GatewayFailure.resolvedCode (f : GatewayFailure) (linkRecoveryPending : Bool) :
    GatewayErrorCode :=
  let code := f.code.getD (classifyGatewayError f.reason)
  if code = .notFound ∧ linkRecoveryPending then .linkLost else code

/-- The failure is one to retry. -/
def GatewayFailure.retried (f : GatewayFailure) (linkRecoveryPending : Bool) : Bool :=
  (f.resolvedCode linkRecoveryPending).autoEligible

/-- `last_gateway_error`, but for the time. -/
structure GatewayError where
  reason : String
  origin : DiscoverOrigin
  code : GatewayErrorCode
  failureCount : Nat
  nextRetryIn : Option Nat

/-! ## 2. The host's side of the gateway -/

/-- A timer thread that waits. -/
structure RetryTimer where
  id : Nat
  delay : Nat
  attemptNext : Nat

structure GatewayRetry where
  ready : Bool
  lastGatewayError : Option GatewayError
  failureCount : Nat
  retryAttempt : Nat
  /-- `_gateway_retry_timer`; it still names a timer that has fired. -/
  retryTimer : Option Nat
  linkRecoveryPending : Bool
  shutdownCalled : Bool
  armed : List RetryTimer
  /-- Not in the source: the timers made so far. -/
  made : Nat
  /-- Not in the source: the timers that have fired since the gateway was last found, or the
  operator last retried. -/
  autoRetries : Nat
  /-- Not in the source: the automatic failures since then that were to be retried. -/
  autoFailures : Nat

/-- What the operator is shown. -/
structure GatewayStatus where
  ready : Bool
  lastError : Option GatewayError
  failureCount : Nat
  retryAttempt : Nat

/-- The countdown. -/
def GatewayStatus.nextRetryIn (status : GatewayStatus) : Option Nat :=
  status.lastError.bind (·.nextRetryIn)

namespace GatewayRetry

variable (s : GatewayRetry)

def gatewayStatus : GatewayStatus :=
  { ready := s.ready, lastError := s.lastGatewayError, failureCount := s.failureCount
    retryAttempt := s.retryAttempt }

def cancelGatewayRetry : GatewayRetry :=
  { s with
    retryTimer := none
    armed := match s.retryTimer with
      | some id => s.armed.filter (·.id ≠ id)
      | none => s.armed }

/-- A new timer. -/
def arm (delay : Nat) : GatewayRetry :=
  { s with
    retryTimer := some s.made
    armed := s.armed ++ [{ id := s.made, delay := delay, attemptNext := s.retryAttempt + 1 }]
    made := s.made + 1 }

def scheduleGatewayRetry (delay : Nat) : GatewayRetry := s.cancelGatewayRetry.arm delay

/-- `last_gateway_error` and its counter. -/
def writeGatewayError (origin : DiscoverOrigin) (f : GatewayFailure) (nextRetryIn : Option Nat) :
    GatewayRetry :=
  { s with
    ready := false
    failureCount := s.failureCount + 1
    lastGatewayError := some
      { reason := f.reason, origin := origin, code := f.resolvedCode s.linkRecoveryPending
        failureCount := s.failureCount + 1, nextRetryIn := nextRetryIn }
    autoFailures := if origin = .auto ∧ nextRetryIn.isSome then s.autoFailures + 1
      else s.autoFailures }

def recordGatewayError (origin : DiscoverOrigin) (f : GatewayFailure) : GatewayRetry :=
  if f.retried s.linkRecoveryPending then
    let delay := retryDelay s.retryAttempt
    let recorded := s.writeGatewayError origin f (some delay)
    if s.shutdownCalled then recorded else recorded.scheduleGatewayRetry delay
  else s.writeGatewayError origin f none

def clearGatewayError : GatewayRetry :=
  { s with lastGatewayError := none, failureCount := 0, retryAttempt := 0
           autoRetries := 0, autoFailures := 0 }.cancelGatewayRetry

end GatewayRetry

/-! ## 3. An attempt -/

/-- What an attempt finds: the gateway (with its address or without), a gateway that another process
holds, none, or it raises. -/
inductive ProbeOutcome where
  | ready (mac : Bool)
  | busy
  | absent
  | raised (reason : String)

/-- An attempt, and the text of what its toast raises, if it does. -/
structure Attempt where
  outcome : ProbeOutcome
  toastRaises : Option String

def busyFailure : GatewayFailure where
  reason := "RaceLink Gateway port busy: another process still holds " ++
    "an exclusive lock. Retrying automatically."
  code := some .portBusy

def absentFailure : GatewayFailure where
  reason := "No RaceLink Gateway module discovered or configured"
  code := some .notFound

namespace GatewayRetry

variable (s : GatewayRetry)

/-- The gateway is found. -/
def connected : GatewayRetry :=
  { s with ready := true, linkRecoveryPending := false }.clearGatewayError

/-- The toast of a manual attempt.  It is shown inside the `try`: what it raises is recorded as a
failure of the attempt. -/
def toast (origin : DiscoverOrigin) (raises : Option String) : GatewayRetry :=
  match origin, raises with
  | .manual, some reason => s.recordGatewayError origin { reason := reason, code := none }
  | _, _ => s

def discoverPort (origin : DiscoverOrigin) (a : Attempt) : GatewayRetry :=
  match a.outcome with
  | .ready mac => if mac then s.connected.toast origin a.toastRaises else s.connected
  | .busy => (s.recordGatewayError origin busyFailure).toast origin a.toastRaises
  | .absent => (s.recordGatewayError origin absentFailure).toast origin a.toastRaises
  -- this toast is outside the `try`, after the record
  | .raised reason => s.recordGatewayError origin { reason := reason, code := none }

/-- The timer's thread. -/
def fire (t : RetryTimer) (a : Attempt) : GatewayRetry :=
  let fired : GatewayRetry := { s with armed := s.armed.filter (·.id ≠ t.id) }
  if s.shutdownCalled then fired
  else { fired with retryAttempt := t.attemptNext
                    autoRetries := s.autoRetries + 1 }.discoverPort .auto a

/-- `EV_ERROR`, and the reconnect that follows unless one is running or the last is too recent. -/
def linkLost (reconnect : Option Attempt) : GatewayRetry :=
  match reconnect with
  | some a => { s with ready := false, linkRecoveryPending := true }.discoverPort .auto a
  | none => { s with ready := false }

def retryGateway (a : Attempt) : GatewayRetry :=
  { s.cancelGatewayRetry with
    retryAttempt := 0, autoRetries := 0, autoFailures := 0
    linkRecoveryPending := false }.discoverPort .manual a

def shutdown : GatewayRetry :=
  if s.shutdownCalled then s
  else { { s with shutdownCalled := true }.cancelGatewayRetry with ready := false }

end GatewayRetry

/-! ## 4. The system -/

inductive RetryStep where
  | discover (origin : DiscoverOrigin) (a : Attempt)
  | fire (timer : Nat) (a : Attempt)
  | linkLost (reconnect : Option Attempt)
  | retry (a : Attempt)
  | shutdown

/-- One step; a timer can fire while it is armed. -/
def GatewayRetry.step (s : GatewayRetry) : RetryStep → Option GatewayRetry
  | .discover origin a => some (s.discoverPort origin a)
  | .fire timer a => (s.armed.find? (·.id = timer)).map fun t => s.fire t a
  | .linkLost reconnect => some (s.linkLost reconnect)
  | .retry a => some (s.retryGateway a)
  | .shutdown => some s.shutdown

/-- A new host. -/
def freshGateway : GatewayRetry :=
  { ready := false, lastGatewayError := none, failureCount := 0, retryAttempt := 0
    retryTimer := none, linkRecoveryPending := false, shutdownCalled := false, armed := []
    made := 0, autoRetries := 0, autoFailures := 0 }

def retrySystem : Lts.System GatewayRetry RetryStep where
  init := freshGateway
  step := GatewayRetry.step

/-! ## 5. What the operator is promised -/

/-- The schedule's delay after so many failures in a row: its entries in order, and then the
last. -/
def InSchedule (earlier delay : Nat) : Prop :=
  gatewayRetryBackoff[earlier]? = some delay ∨
    gatewayRetryBackoff.length ≤ earlier ∧ gatewayRetryBackoff.getLast? = some delay

/-- At most one timer is armed, none after the shutdown.  Before it, a timer is armed exactly when
the error has a countdown, and the countdown is the timer's. -/
structure TimerAgrees (s : GatewayRetry) : Prop where
  one : s.armed.length ≤ 1
  stopped : s.shutdownCalled = true → s.armed = []
  countdown : s.shutdownCalled = false →
    s.armed.map (·.delay) = s.gatewayStatus.nextRetryIn.toList

/-- The countdown of an automatic failure is the entry of the schedule that its place among the
automatic failures has. -/
def ScheduleAgrees (s : GatewayRetry) : Prop :=
  ∀ e delay, s.lastGatewayError = some e → e.origin = .auto → e.nextRetryIn = some delay →
    ∃ earlier, s.autoFailures = earlier + 1 ∧ InSchedule earlier delay

/-- The countdown is the timer's, and automatic failures go through the schedule. -/
structure RetryAgrees (s : GatewayRetry) : Prop where
  timer : TimerAgrees s
  schedule : ScheduleAgrees s

/-- The failure that a toast becomes. -/
def toastFailures (origin : DiscoverOrigin) (raises : Option String) : List GatewayFailure :=
  match origin, raises with
  | .manual, some reason => [{ reason := reason, code := none }]
  | _, _ => []

/-- The failures that an attempt records, in order. -/
def Attempt.failures (a : Attempt) (origin : DiscoverOrigin) : List GatewayFailure :=
  match a.outcome with
  | .ready mac => if mac then toastFailures origin a.toastRaises else []
  | .busy => busyFailure :: toastFailures origin a.toastRaises
  | .absent => absentFailure :: toastFailures origin a.toastRaises
  | .raised reason => [{ reason := reason, code := none }]

section Record

variable (s : GatewayRetry) (origin : DiscoverOrigin) (f : GatewayFailure)

/-- What a failure does: it writes the error, and arms a timer if it is one to retry and the host
runs. -/
theorem record_cases :
    (f.retried s.linkRecoveryPending = true ∧ s.shutdownCalled = false ∧
      s.recordGatewayError origin f = (s.writeGatewayError origin f
        (some (retryDelay s.retryAttempt))).scheduleGatewayRetry (retryDelay s.retryAttempt)) ∨
    ((f.retried s.linkRecoveryPending = false ∨ s.shutdownCalled = true) ∧
      s.recordGatewayError origin f = s.writeGatewayError origin f
        (if f.retried s.linkRecoveryPending then some (retryDelay s.retryAttempt) else none)) := by
  unfold GatewayRetry.recordGatewayError
  cases f.retried s.linkRecoveryPending with
  | false => exact Or.inr ⟨Or.inl rfl, rfl⟩
  | true =>
    cases s.shutdownCalled with
    | false => exact Or.inl ⟨rfl, rfl, rfl⟩
    | true => exact Or.inr ⟨Or.inr rfl, rfl⟩

end Record

/-! ## 8. What every run keeps -/

/-- At most one timer is armed, the one that the reference names. -/
def OnlyNamed (armed : List RetryTimer) (retryTimer : Option Nat) : Prop :=
  armed = [] ∨ ∃ t, armed = [t] ∧ retryTimer = some t.id

/-- At most one timer is armed, and none after the shutdown.  The number of its retry is the next
one, and retries are numbered by how many there have been in a row. -/
structure RetryKept (s : GatewayRetry) : Prop where
  named : OnlyNamed s.armed s.retryTimer
  stopped : s.shutdownCalled = true → s.armed = []
  numbered : ∀ t ∈ s.armed, t.attemptNext = s.retryAttempt + 1
  counted : s.retryAttempt = s.autoRetries

/-- Cancelling reaches the only timer there can be. -/
theorem cancel_armed {s : GatewayRetry} (h : OnlyNamed s.armed s.retryTimer) :
    s.cancelGatewayRetry.armed = [] := by
  unfold GatewayRetry.cancelGatewayRetry
  rcases h with hnone | ⟨t, ht, hid⟩
  · cases s.retryTimer <;> simp [hnone]
  · simp [ht, hid]

/-- A new timer replaces the old one. -/
theorem schedule_armed {s : GatewayRetry} (h : OnlyNamed s.armed s.retryTimer) (delay : Nat) :
    (s.scheduleGatewayRetry delay).armed =
      [{ id := s.made, delay := delay, attemptNext := s.retryAttempt + 1 }] := by
  change s.cancelGatewayRetry.armed ++ _ = _
  rw [cancel_armed h]
  rfl

namespace RetryKept

variable {s : GatewayRetry}

/-- A state without a timer. -/
theorem of_disarmed (hdisarmed : s.armed = []) (hcounted : s.retryAttempt = s.autoRetries) :
    RetryKept s :=
  ⟨Or.inl hdisarmed, fun _ => hdisarmed, by rw [hdisarmed]; exact nofun, hcounted⟩

theorem record (h : RetryKept s) (origin : DiscoverOrigin) (f : GatewayFailure) :
    RetryKept (s.recordGatewayError origin f) := by
  rcases record_cases s origin f with ⟨-, hrunning, heq⟩ | ⟨-, heq⟩
  · have harmed := schedule_armed (s := s.writeGatewayError origin f
      (some (retryDelay s.retryAttempt))) h.named (retryDelay s.retryAttempt)
    rw [heq]
    refine ⟨Or.inr ⟨_, harmed, rfl⟩, fun hstopped => ?_, ?_, h.counted⟩
    · exact absurd (hrunning.symm.trans hstopped) (nomatch ·)
    · rw [harmed]
      exact List.forall_mem_singleton.mpr rfl
  · rw [heq]
    exact ⟨h.named, h.stopped, h.numbered, h.counted⟩

theorem connected (h : RetryKept s) : RetryKept s.connected :=
  of_disarmed (cancel_armed h.named) rfl

/-- Several failures, one after another. -/
theorem records (h : RetryKept s) (origin : DiscoverOrigin) (fs : List GatewayFailure) :
    RetryKept (fs.foldl (·.recordGatewayError origin ·) s) := by
  induction fs generalizing s with
  | nil => exact h
  | cons f fs ih => exact ih (h.record origin f)

end RetryKept

/-! ## 9. What an attempt changes -/

theorem toast_eq (s : GatewayRetry) (origin : DiscoverOrigin) (raises : Option String) :
    s.toast origin raises
      = (toastFailures origin raises).foldl (·.recordGatewayError origin ·) s := by
  unfold GatewayRetry.toast toastFailures
  split
  · rw [List.foldl_cons, List.foldl_nil]
  · rw [List.foldl_nil]

theorem toast_cases (s : GatewayRetry) (origin : DiscoverOrigin) (raises : Option String) :
    s.toast origin raises = s ∨ ∃ f, s.toast origin raises = s.recordGatewayError origin f := by
  rw [toast_eq]
  unfold toastFailures
  split
  · exact Or.inr ⟨_, by rw [List.foldl_cons, List.foldl_nil]⟩
  · exact Or.inl rfl

/-- The failures of an attempt that does not find the gateway. -/
theorem discoverPort_eq (s : GatewayRetry) (origin : DiscoverOrigin) {a : Attempt}
    (hnot : ∀ mac, a.outcome ≠ .ready mac) : s.discoverPort origin a
      = (a.failures origin).foldl (·.recordGatewayError origin ·) s := by
  unfold GatewayRetry.discoverPort Attempt.failures
  cases houtcome : a.outcome with
  | ready mac => exact absurd houtcome (hnot mac)
  | busy => exact toast_eq _ origin _
  | absent => exact toast_eq _ origin _
  | raised reason => rw [List.foldl_cons, List.foldl_nil]

/-- An attempt that finds the gateway leaves no failure, or that of its toast. -/
theorem discoverPort_ready (s : GatewayRetry) (origin : DiscoverOrigin) {a : Attempt} {mac : Bool}
    (hready : a.outcome = .ready mac) : s.discoverPort origin a = s.connected ∨
      ∃ f, s.discoverPort origin a = s.connected.recordGatewayError origin f := by
  unfold GatewayRetry.discoverPort
  rw [hready]
  cases mac with
  | false => exact Or.inl rfl
  | true =>
    dsimp only [if_true]
    exact toast_cases s.connected origin a.toastRaises

namespace RetryKept

variable {s : GatewayRetry}

theorem one (h : RetryKept s) : s.armed.length ≤ 1 := by
  rcases h.named with hnone | ⟨t, ht, -⟩
  · rw [hnone]
    exact Nat.zero_le 1
  · rw [ht]
    exact Nat.le_refl 1

/-- What is left to say of a state that is kept. -/
theorem agrees (h : RetryKept s) (hcountdown : s.shutdownCalled = false →
    s.armed.map (·.delay) = s.gatewayStatus.nextRetryIn.toList) : TimerAgrees s :=
  ⟨h.one, h.stopped, hcountdown⟩

/-- An attempt keeps the book. -/
theorem discoverPort (h : RetryKept s) (origin : DiscoverOrigin) (a : Attempt) :
    RetryKept (s.discoverPort origin a) := by
  by_cases hready : ∃ mac, a.outcome = .ready mac
  · obtain ⟨mac, hready⟩ := hready
    rcases discoverPort_ready s origin hready with heq | ⟨f, heq⟩
    · rw [heq]
      exact h.connected
    · rw [heq]
      exact h.connected.record origin f
  · rw [discoverPort_eq s origin (not_exists.mp hready)]
    exact h.records origin _

end RetryKept

namespace RetryKept

variable {s : GatewayRetry}

/-- The timer that fires was the only one; its retry has the next number. -/
theorem fired (h : RetryKept s) {t : RetryTimer} (ht : t ∈ s.armed) :
    s.armed.filter (·.id ≠ t.id) = [] ∧ t.attemptNext = s.autoRetries + 1 := by
  refine ⟨?_, by rw [h.numbered t ht, h.counted]⟩
  rcases h.named with hnone | ⟨t', ht', -⟩
  · rw [hnone]
    rfl
  · rw [ht'] at ht ⊢
    rw [List.mem_singleton.mp ht]
    simp

/-- A timer that fires does so before the shutdown, and its attempt starts without a timer. -/
theorem fire_eq (h : RetryKept s) {t : RetryTimer} (ht : t ∈ s.armed) (a : Attempt) :
    s.shutdownCalled = false ∧ ∃ base : GatewayRetry, RetryKept base ∧ base.armed = [] ∧
      base.shutdownCalled = false ∧ base.linkRecoveryPending = s.linkRecoveryPending ∧
      base.autoRetries = s.autoRetries + 1 ∧ base.autoFailures = s.autoFailures ∧
      s.fire t a = base.discoverPort .auto a := by
  have hrunning : s.shutdownCalled = false := by
    rw [← Bool.not_eq_true]
    intro hstopped
    rw [h.stopped hstopped] at ht
    exact absurd ht List.not_mem_nil
  obtain ⟨hdisarmed, hnext⟩ := h.fired ht
  refine ⟨hrunning, { s with armed := s.armed.filter (·.id ≠ t.id), retryAttempt := t.attemptNext
                             autoRetries := s.autoRetries + 1 },
    of_disarmed hdisarmed hnext, hdisarmed, hrunning, rfl, rfl, rfl, ?_⟩
  unfold GatewayRetry.fire
  rw [hrunning]
  rfl

/-- The operator's retry starts without a timer, and from the first entry of the schedule. -/
theorem retry_eq (h : RetryKept s) (a : Attempt) : ∃ base : GatewayRetry, RetryKept base ∧
    base.armed = [] ∧ base.shutdownCalled = s.shutdownCalled ∧
      base.linkRecoveryPending = false ∧ s.retryGateway a = base.discoverPort .manual a :=
  ⟨{ s.cancelGatewayRetry with
      retryAttempt := 0, autoRetries := 0, autoFailures := 0, linkRecoveryPending := false },
    of_disarmed (cancel_armed h.named) rfl, cancel_armed h.named, rfl, rfl, rfl⟩

theorem shutdown (h : RetryKept s) : RetryKept s.shutdown := by
  unfold GatewayRetry.shutdown
  split
  · exact h
  · exact of_disarmed (cancel_armed (s := { s with shutdownCalled := true }) h.named) h.counted

/-- **Every step** keeps the book of the timers. -/
theorem step (h : RetryKept s) {e : RetryStep} {t : GatewayRetry}
    (ht : retrySystem.step s e = some t) : RetryKept t := by
  cases e with
  | discover origin a =>
    cases ht
    exact h.discoverPort origin a
  | fire timer a =>
    obtain ⟨timer, hfind, rfl⟩ := Option.map_eq_some_iff.mp ht
    obtain ⟨-, base, hbase, -, -, -, -, -, heq⟩ := h.fire_eq (List.mem_of_find?_eq_some hfind) a
    rw [heq]
    exact hbase.discoverPort .auto a
  | linkLost reconnect =>
    cases ht
    cases reconnect with
    | none => exact ⟨h.named, h.stopped, h.numbered, h.counted⟩
    | some a =>
      have hbase : RetryKept { s with ready := false, linkRecoveryPending := true } :=
        ⟨h.named, h.stopped, h.numbered, h.counted⟩
      exact hbase.discoverPort .auto a
  | retry a =>
    cases ht
    obtain ⟨base, hbase, -, -, -, heq⟩ := h.retry_eq a
    rw [heq]
    exact hbase.discoverPort .manual a
  | shutdown =>
    cases ht
    exact h.shutdown

end RetryKept

namespace RetryAgrees

variable {s : GatewayRetry}

theorem shutdown (hagrees : RetryAgrees s) (h : RetryKept s) : RetryAgrees s.shutdown := by
  refine ⟨h.shutdown.agrees fun hrunning => ?_, ?_⟩
  · unfold GatewayRetry.shutdown at hrunning
    split at hrunning
    · next hstopped => exact absurd (hrunning.symm.trans hstopped) (nomatch ·)
    · exact nomatch hrunning
  · unfold GatewayRetry.shutdown
    split <;> exact hagrees.schedule

end RetryAgrees

theorem retryKept_fresh : RetryKept freshGateway := RetryKept.of_disarmed rfl rfl

/-- **The timers**: in every run at most one is armed, and none after the shutdown. -/
theorem retry_one_timer {es : List RetryStep} {t : GatewayRetry}
    (hrun : Lts.run retrySystem freshGateway es = some t) :
    t.armed.length ≤ 1 ∧ (t.shutdownCalled = true → t.armed = []) := by
  have hkept : RetryKept t := Lts.invariant_run (I := RetryKept)
    (fun _ _ _ h ht => h.step ht) retryKept_fresh hrun
  exact ⟨hkept.one, hkept.stopped⟩

/-- An attempt whose toast, if there is one, is shown. -/
def Attempt.quiet (outcome : ProbeOutcome) : Attempt := { outcome := outcome, toastRaises := none }

end RaceLink
