/-
# The reconnect

An error of the transport takes the host off line, and starts a thread that looks for the gateway
again: but not while such a thread is running, and not within five seconds after one was started.
The retries of `Gateway/Retry.lean` take over when the thread finds nothing.

`recovers_iff`: a host that is off line is being taken care of (a thread is running, a timer is
armed, or the operator is shown an error that only he can clear) in every state of a run exactly
when no error comes within five seconds after a reconnect was started that has succeeded since.
Such an error is dropped, and nothing happens any more (`recovers_unplugged`).
-/
import RaceLink.Gateway.Retry
import Mathlib.Algebra.Order.Ring.Rat

namespace RaceLink

/-! ## 1. The system -/

/-- The gap between two reconnects. -/
def reconnectGap : Rat := 5

structure Reconnecting where
  retry : GatewayRetry
  /-- `_reconnect_in_progress`. -/
  inProgress : Bool
  lastReconnectTs : Rat

inductive ReconnectStep where
  /-- The service handles an `EV_ERROR`. -/
  | usbError (now : Rat)
  /-- The thread of a reconnect ends. -/
  | reconnected (a : Attempt)
  /-- The other steps of the host. -/
  | host (e : RetryStep)

/-- A loss of the link is two steps here. -/
def RetryStep.isLinkLost : RetryStep → Bool
  | .linkLost _ => true
  | _ => false

namespace Reconnecting

variable (s : Reconnecting)

/-- `schedule_reconnect` does nothing. -/
def gated (now : Rat) : Bool := s.inProgress || now - s.lastReconnectTs < reconnectGap

/-- The branch of `on_transport_event` for an `EV_ERROR`, and `schedule_reconnect`. -/
def handleError (now : Rat) : Reconnecting :=
  if s.gated now then { s with retry := { s.retry with ready := false } }
  else
    { retry := { s.retry with ready := false, linkRecoveryPending := true }
      inProgress := true
      lastReconnectTs := now }

def step : ReconnectStep → Option Reconnecting
  | .usbError now => some (s.handleError now)
  | .reconnected a =>
    if s.inProgress then
      some { s with retry := s.retry.discoverPort .auto a, inProgress := false }
    else none
  | .host e =>
    if e.isLinkLost then none else (s.retry.step e).map fun retry => { s with retry := retry }

end Reconnecting

/-- A host after its first attempt. -/
def Reconnecting.started (origin : DiscoverOrigin) (a : Attempt) : Reconnecting :=
  { retry := freshGateway.discoverPort origin a, inProgress := false, lastReconnectTs := 0 }

def reconnectSystem (origin : DiscoverOrigin) (a : Attempt) :
    Lts.System Reconnecting ReconnectStep :=
  ⟨.started origin a, Reconnecting.step⟩

/-- The two steps are the loss of the link that `GatewayRetry` takes as one. -/
theorem linkLost_serial (s : Reconnecting) (now : Rat) (a : Attempt) (hgate : s.gated now = false) :
    (s.handleError now).step (.reconnected a)
      = some { retry := s.retry.linkLost (some a), inProgress := false
               lastReconnectTs := now } := by
  rw [Reconnecting.handleError, hgate]
  rfl

/-! ## 2. Taken care of -/

/-- The host is shut down, or someone is looking for the gateway, or the operator is shown an error
without a countdown. -/
def GatewayRetry.TakenCare (s : GatewayRetry) : Prop :=
  s.shutdownCalled = true ∨ s.armed ≠ [] ∨ s.lastGatewayError.map (·.nextRetryIn) = some none

instance (s : GatewayRetry) : Decidable s.TakenCare := inferInstanceAs (Decidable (_ ∨ _ ∨ _))

/-- A host that is off line is taken care of. -/
def Reconnecting.Recovers (s : Reconnecting) : Prop :=
  s.retry.ready = true ∨ s.inProgress = true ∨ s.retry.TakenCare

/-- The error is not one to drop, or the host is taken care of without it. -/
def Reconnecting.Noticed (s : Reconnecting) : ReconnectStep → Prop
  | .usbError now => s.gated now = false ∨ s.inProgress = true ∨ s.retry.TakenCare
  | _ => True

instance (s : Reconnecting) : Decidable s.Recovers := inferInstanceAs (Decidable (_ ∨ _ ∨ _))

instance (s : Reconnecting) (e : ReconnectStep) : Decidable (s.Noticed e) := by
  cases e <;> unfold Reconnecting.Noticed <;> infer_instance

namespace GatewayRetry

variable {s : GatewayRetry}

/-- A failure is shown without a countdown, or has a timer. -/
theorem takenCare_record (s : GatewayRetry) (origin : DiscoverOrigin) (f : GatewayFailure) :
    (s.recordGatewayError origin f).TakenCare := by
  unfold recordGatewayError
  by_cases hretried : f.retried s.linkRecoveryPending = true
  · rw [if_pos hretried]
    dsimp only
    by_cases hdown : s.shutdownCalled = true
    · rw [if_pos hdown]
      exact .inl hdown
    · rw [if_neg hdown]
      refine .inr (.inl ?_)
      unfold scheduleGatewayRetry arm
      exact List.append_ne_nil_of_right_ne_nil _ (List.cons_ne_nil _ _)
  · rw [if_neg hretried]
    exact .inr (.inr rfl)

theorem takenCare_toast (h : s.ready = true ∨ s.TakenCare) (origin : DiscoverOrigin)
    (raises : Option String) :
    (s.toast origin raises).ready = true ∨ (s.toast origin raises).TakenCare := by
  unfold toast
  split
  · exact .inr (takenCare_record s _ _)
  · exact h

/-- **An attempt** finds the gateway, or leaves the host taken care of. -/
theorem takenCare_discoverPort (s : GatewayRetry) (origin : DiscoverOrigin) (a : Attempt) :
    (s.discoverPort origin a).ready = true ∨ (s.discoverPort origin a).TakenCare := by
  unfold discoverPort
  split
  · split
    · exact takenCare_toast (.inl rfl) origin a.toastRaises
    · exact .inl rfl
  · exact takenCare_toast (.inr (takenCare_record s origin busyFailure)) origin a.toastRaises
  · exact takenCare_toast (.inr (takenCare_record s origin absentFailure)) origin a.toastRaises
  · exact .inr (takenCare_record s origin _)

theorem takenCare_step {e : RetryStep} {t : GatewayRetry} (hother : e.isLinkLost = false)
    (hstep : s.step e = some t) : t.ready = true ∨ t.TakenCare := by
  cases e with
  | discover origin a =>
    cases hstep
    exact takenCare_discoverPort s origin a
  | fire timer a =>
    obtain ⟨timer, -, rfl⟩ := Option.map_eq_some_iff.mp hstep
    unfold fire
    dsimp only
    split
    · next hdown => exact .inr (.inl hdown)
    · exact takenCare_discoverPort _ .auto a
  | linkLost r => cases hother
  | retry a =>
    cases hstep
    exact takenCare_discoverPort _ .manual a
  | shutdown =>
    cases hstep
    unfold shutdown
    split
    · next hdown => exact .inr (.inl hdown)
    · exact .inr (.inl rfl)

end GatewayRetry

/-! ## 3. Runs -/

/-- One step leaves the host taken care of, exactly when it does not drop an error. -/
theorem recovers_step_iff {s t : Reconnecting} {e : ReconnectStep} (hstep : s.step e = some t) :
    t.Recovers ↔ s.Noticed e := by
  cases e with
  | usbError now =>
    cases hstep
    unfold Reconnecting.handleError
    cases hgate : s.gated now with
    | false => exact iff_of_true (.inr (.inl rfl)) (.inl hgate)
    | true =>
      have hgate' : ¬ s.gated now = false := by rw [hgate]; decide
      constructor
      · rintro (hready | hcare)
        · cases hready
        · exact .inr hcare
      · exact fun hnoticed => .inr (hnoticed.resolve_left hgate')
  | reconnected a =>
    refine iff_of_true ?_ trivial
    by_cases hrunning : s.inProgress = true
    · rw [Reconnecting.step, if_pos hrunning] at hstep
      cases hstep
      exact (GatewayRetry.takenCare_discoverPort s.retry .auto a).imp_right .inr
    · rw [Reconnecting.step, if_neg hrunning] at hstep
      cases hstep
  | host e =>
    refine iff_of_true ?_ trivial
    cases hother : e.isLinkLost with
    | true =>
      rw [Reconnecting.step, hother] at hstep
      cases hstep
    | false =>
      rw [Reconnecting.step, hother] at hstep
      obtain ⟨retry, hretry, rfl⟩ := Option.map_eq_some_iff.mp hstep
      exact (GatewayRetry.takenCare_step hother hretry).imp_right .inr

/-- **A lost link is seen to**, in every state of a run exactly when no error is dropped while
nobody is looking for the gateway: none within five seconds after a reconnect was started that has
succeeded since. -/
theorem recovers_iff (origin : DiscoverOrigin) (a : Attempt) (events : List ReconnectStep)
    (t : Reconnecting)
    (hrun : Lts.run (reconnectSystem origin a) (.started origin a) events = some t) :
    Lts.Throughout (reconnectSystem origin a) Reconnecting.Recovers (.started origin a) events ↔
      Lts.RunMeets (reconnectSystem origin a) Reconnecting.Noticed (.started origin a) events := by
  have hinit : (Reconnecting.started origin a).Recovers :=
    (GatewayRetry.takenCare_discoverPort freshGateway origin a).imp_right .inr
  exact Lts.throughout_iff (fun _ h => h)
    (fun s e t _ hok hstep => (recovers_step_iff hstep).mpr hok)
    (fun s e t _ hbad hstep hP => hbad ((recovers_step_iff hstep).mp hP)) hinit hrun

/-- An attempt that finds the gateway. -/
def found : Attempt := { outcome := .ready true, toastRaises := none }

/-- Two errors, and two reconnects that find the gateway. -/
def replugged : List ReconnectStep :=
  [.usbError 10, .reconnected found, .usbError 20, .reconnected found]

theorem recovers_replugged : Lts.Throughout (reconnectSystem .auto found) Reconnecting.Recovers
    (.started .auto found) replugged := by
  have hrun : (Lts.run (reconnectSystem .auto found) (.started .auto found) replugged).isSome
      = true := by decide +kernel
  obtain ⟨t, ht⟩ := Option.isSome_iff_exists.mp hrun
  exact (recovers_iff .auto found replugged t ht).mpr (by decide +kernel)

/-- The link is lost again three seconds after the reconnect was started: the host is off line,
shows no error, and does not look for the gateway any more. -/
theorem recovers_unplugged :
    ((Lts.run (reconnectSystem .auto found) (.started .auto found)
        [.usbError 10, .reconnected found, .usbError 13]).map fun t =>
      (t.retry.ready, t.inProgress, t.retry.armed.length, t.retry.lastGatewayError.isNone))
      = some (false, false, 0, true) := by
  decide +kernel

end RaceLink
