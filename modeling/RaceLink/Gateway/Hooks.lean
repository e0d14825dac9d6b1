/-
# Who hears the transport

`discoverPort` drops the transport and builds a new one, and the gateway service and the bridge to
the browsers each hang a listener on it.  Each of the two has a flag that its listener hangs: the
service's is cleared when the transport is replaced, the bridge's is not.  Flag, transport and
listeners are read and written one after the other, without a lock, by request threads, the retry
timer and the reconnect thread.

* `service_hears_iff`: the flag of the service is right, and an opened transport is heard once
  nobody is under way, in every state of a run exactly when nobody sets the flag for a transport
  that is gone, and nobody builds a transport under a flag that is set.
* `bridge_deaf`: once the bridge has hung its listener, it hears no later transport in any run: it
  is told of no transport event after a reconnect.
-/
import RaceLink.Lts.Basic
import Mathlib.Data.List.Basic
import Mathlib.Logic.Function.Basic

namespace RaceLink

/-! ## 1. The system -/

/-- Whose listener: `GatewayService.on_transport_event`, or that of `SSEBridge`. -/
inductive Hook where
  | service
  | bridge
  deriving DecidableEq

/-- Where a call is: what it does next. -/
inductive HookCall where
  /-- `discoverPort`: `self.transport = None`. -/
  | dropping
  /-- `self._transport_hooks_installed = False`. -/
  | resetting
  /-- `self.transport = GatewaySerialTransport(...)`. -/
  | building
  /-- `self.transport.discover_and_open()`. -/
  | opening
  /-- `install_transport_hooks` or `ensure_transport_hooked`: the flag is read. -/
  | checking (h : Hook)
  | reading (h : Hook)
  | adding (h : Hook) (t : Nat)
  | marking (h : Hook) (t : Nat)
  | done
  deriving DecidableEq

/-- The transport a call has read. -/
def HookCall.transport? : HookCall → Option Nat
  | .adding _ t | .marking _ t => some t
  | _ => none

/-- The transports are numbered as they are built. -/
structure TransportHooks where
  current : Option Nat
  built : Nat
  opened : Nat → Bool
  listens : Hook → Nat → Bool
  /-- `_transport_hooks_installed`, and `_hooked_transport["ok"]`. -/
  marked : Hook → Bool
  calls : List HookCall

inductive HookEvent where
  /-- Someone calls `discoverPort`. -/
  | discover
  /-- Someone calls `install_transport_hooks`, or `ensure_transport_hooked`. -/
  | ensure (h : Hook)
  /-- A call goes on; `found` is what `discover_and_open` answers. -/
  | advance (i : Nat) (found : Bool)

namespace TransportHooks

variable (s : TransportHooks)

def listen (h : Hook) (t : Nat) : TransportHooks :=
  { s with listens := Function.update s.listens h (Function.update (s.listens h) t true) }

def mark (h : Hook) (value : Bool) : TransportHooks :=
  { s with marked := Function.update s.marked h value }

/-- What a call does, and where it is then. -/
def advance (found : Bool) : HookCall → Option (TransportHooks × HookCall)
  | .dropping => some ({ s with current := none }, .resetting)
  | .resetting => some (s.mark .service false, .building)
  | .building => some ({ s with current := some s.built, built := s.built + 1 }, .opening)
  | .opening =>
    match s.current with
    | some t =>
      if found then
        some ({ s with opened := Function.update s.opened t true }, .checking .service)
      else some (s, .done)
    -- another call has dropped it: `discover_and_open` of `None` raises
    | none => some (s, .done)
  | .checking h => some (s, if s.marked h then .done else .reading h)
  | .reading h =>
    match s.current with
    | some t => some (s, .adding h t)
    | none => some (s, .done)
  | .adding h t => some (s.listen h t, .marking h t)
  | .marking h _ => some (s.mark h true, .done)
  | .done => none

/-- A call is where it is now. -/
def setCall (i : Nat) (call : HookCall) : TransportHooks := { s with calls := s.calls.set i call }

def step : HookEvent → Option TransportHooks
  | .discover => some { s with calls := s.calls ++ [.dropping] }
  | .ensure h => some { s with calls := s.calls ++ [.checking h] }
  | .advance i found =>
    ((s.calls[i]?).bind (s.advance found)).map fun next => next.1.setCall i next.2

end TransportHooks

/-- No transport yet. -/
def noTransport : TransportHooks :=
  { current := none, built := 0, opened := fun _ => false, listens := fun _ _ => false
    marked := fun _ => false, calls := [] }

def hookSystem : Lts.System TransportHooks HookEvent := ⟨noTransport, TransportHooks.step⟩

/-! ## 2. What is to hold -/

/-- The call is on its way to hang the service's listener on the transport. -/
def HookCall.Hangs (t : Nat) : HookCall → Prop
  | .checking h | .reading h => h = .service
  | .adding h t' => h = .service ∧ t' = t
  | _ => False

namespace TransportHooks

variable (s : TransportHooks)

/-- The current transport is heard by the service, or about to be replaced by a call that clears
the flag. -/
def Hung : Prop :=
  (∃ t, s.current = some t ∧ s.listens .service t = true) ∨
    s.current = none ∧ HookCall.resetting ∈ s.calls

/-- The flag of the service is right. -/
def FlagRight : Prop := s.marked .service = true → s.Hung

/-- Once nobody is under way, an opened transport is heard. -/
def Heard : Prop :=
  (∀ call ∈ s.calls, call = .done) → ∀ t, s.current = some t → s.opened t = true →
    s.listens .service t = true

/-- The call does not set the flag of the service for a transport that is gone, and does not build
a transport under a flag that is set. -/
def CallUndisturbed : HookCall → Prop
  | .building => s.marked .service = false
  | .marking .service _ => s.Hung
  | _ => True

def Undisturbed : HookEvent → Prop
  | .advance i _ => ∀ call ∈ s.calls[i]?, s.CallUndisturbed call
  | _ => True

/-- The bookkeeping of a run. -/
structure Kept : Prop where
  flag : s.FlagRight
  hears : ∀ t, s.current = some t → s.opened t = true →
    s.listens .service t = true ∨ ∃ call ∈ s.calls, HookCall.Hangs t call

/-- Transports that were not built have no listener. -/
structure Known : Prop where
  current : ∀ t, s.current = some t → t < s.built
  opened : ∀ t, s.opened t = true → t < s.built
  listens : ∀ h t, s.listens h t = true → t < s.built
  calls : ∀ call ∈ s.calls, ∀ t, call.transport? = some t → t < s.built

/-! ## 3. One step -/

variable {s}

/-- **What a step is**: one call does what it does next. -/
theorem step_advance {s' : TransportHooks} {i : Nat} {found : Bool}
    (hstep : s.step (.advance i found) = some s') :
    ∃ call t next, s.calls[i]? = some call ∧ s.advance found call = some (t, next) ∧
      s' = t.setCall i next := by
  obtain ⟨⟨t, next⟩, hnext, rfl⟩ := Option.map_eq_some_iff.mp hstep
  obtain ⟨call, hcall, hadvance⟩ := Option.bind_eq_some_iff.mp hnext
  exact ⟨call, t, next, hcall, hadvance, rfl⟩

/-- What is known stays known. -/
theorem Known.addCall (h : s.Known) {call : HookCall} (hcall : call.transport? = none) :
    Known { s with calls := s.calls ++ [call] } := by
  refine ⟨h.current, h.opened, h.listens, fun other hother t ht => ?_⟩
  rcases List.mem_append.mp hother with hother | hother
  · exact h.calls other hother t ht
  · rw [List.mem_singleton.mp hother, hcall] at ht
    cases ht

theorem Known.setCall (h : s.Known) (i : Nat) {next : HookCall}
    (hnext : ∀ t, next.transport? = some t → t < s.built) : (s.setCall i next).Known := by
  refine ⟨h.current, h.opened, h.listens, fun other hother t ht => ?_⟩
  rcases List.mem_or_eq_of_mem_set hother with hother | rfl
  · exact h.calls other hother t ht
  · exact hnext t ht

theorem listens_listen (s : TransportHooks) (h h' : Hook) (t t' : Nat) :
    (s.listen h t).listens h' t' = true ↔ h' = h ∧ t' = t ∨ s.listens h' t' = true := by
  show Function.update s.listens h _ h' t' = true ↔ _
  by_cases hh : h' = h
  · subst hh
    rw [Function.update_self]
    by_cases ht : t' = t
    · subst ht
      simp
    · rw [Function.update_of_ne ht]
      simp [ht]
  · rw [Function.update_of_ne hh]
    simp [hh]

theorem known_step {s' : TransportHooks} {e : HookEvent} (h : s.Known)
    (hstep : s.step e = some s') : s'.Known := by
  cases e with
  | discover =>
    cases hstep
    exact h.addCall rfl
  | ensure hook =>
    cases hstep
    exact h.addCall rfl
  | advance i found =>
    obtain ⟨call, t, next, hcall, hadvance, rfl⟩ := step_advance hstep
    have hmem : call ∈ s.calls := List.mem_of_getElem? hcall
    have hdone : ∀ t, HookCall.done.transport? = some t → t < s.built := by rintro _ ⟨⟩
    cases call with
    | dropping =>
      cases hadvance
      have hdropped : Known { s with current := none } :=
        ⟨by rintro _ ⟨⟩, h.opened, h.listens, h.calls⟩
      exact hdropped.setCall i (by rintro _ ⟨⟩)
    | resetting =>
      cases hadvance
      have hreset : (s.mark .service false).Known := ⟨h.current, h.opened, h.listens, h.calls⟩
      exact hreset.setCall i (by rintro _ ⟨⟩)
    | building =>
      cases hadvance
      have hbuilt : Known { s with current := some s.built, built := s.built + 1 } := by
        refine ⟨fun t ht => ?_, fun t ht => Nat.lt_succ_of_lt (h.opened t ht),
          fun hook t ht => Nat.lt_succ_of_lt (h.listens hook t ht),
          fun call hcall t ht => Nat.lt_succ_of_lt (h.calls call hcall t ht)⟩
        cases ht
        exact Nat.lt_succ_self _
      exact hbuilt.setCall i (by rintro _ ⟨⟩)
    | opening =>
      unfold TransportHooks.advance at hadvance
      cases hcurrent : s.current with
      | none =>
        rw [hcurrent] at hadvance
        cases hadvance
        exact h.setCall i hdone
      | some t =>
        rw [hcurrent] at hadvance
        cases found with
        | false =>
          cases hadvance
          exact h.setCall i hdone
        | true =>
          cases hadvance
          have hopened : Known { s with
              current := some t, opened := Function.update s.opened t true } := by
            refine ⟨fun t' ht' => h.current t' (hcurrent.trans ht'), fun t' ht' => ?_, h.listens,
              h.calls⟩
            by_cases heq : t' = t
            · rw [heq]
              exact h.current t hcurrent
            · dsimp only at ht'
              rw [Function.update_of_ne heq] at ht'
              exact h.opened t' ht'
          exact hopened.setCall i (by rintro _ ⟨⟩)
    | checking hook =>
      cases hadvance
      refine h.setCall i fun t ht => ?_
      split at ht <;> cases ht
    | reading hook =>
      unfold TransportHooks.advance at hadvance
      cases hcurrent : s.current with
      | none =>
        rw [hcurrent] at hadvance
        cases hadvance
        exact h.setCall i hdone
      | some t =>
        rw [hcurrent] at hadvance
        cases hadvance
        refine h.setCall i ?_
        rintro _ ⟨⟩
        exact h.current t hcurrent
    | adding hook t =>
      cases hadvance
      have ht := h.calls _ hmem t rfl
      have hlistens : (s.listen hook t).Known := by
        refine ⟨h.current, h.opened, fun hook' t' ht' => ?_, h.calls⟩
        rcases (listens_listen s hook hook' t t').mp ht' with ⟨-, rfl⟩ | hold
        · exact ht
        · exact h.listens hook' t' hold
      refine hlistens.setCall i ?_
      rintro _ ⟨⟩
      exact ht
    | marking hook t =>
      cases hadvance
      have hmarked : (s.mark hook true).Known := ⟨h.current, h.opened, h.listens, h.calls⟩
      exact hmarked.setCall i (by rintro _ ⟨⟩)
    | done => cases hadvance

/-- A call that is not about to clear the flag goes on, and leaves what is hung. -/
theorem Hung.setCall {t : TransportHooks} (h : s.Hung) (hcurrent : t.current = s.current)
    (hlistens : ∀ t', s.listens .service t' = true → t.listens .service t' = true)
    (hcalls : t.calls = s.calls) {i : Nat} {call : HookCall} (hcall : s.calls[i]? = some call)
    (hnot : call ≠ .resetting) (next : HookCall) : (t.setCall i next).Hung := by
  rcases h with ⟨t', ht', hlisten⟩ | ⟨hnone, hmem⟩
  · exact .inl ⟨t', hcurrent.trans ht', hlistens t' hlisten⟩
  · refine .inr ⟨hcurrent.trans hnone, ?_⟩
    show _ ∈ t.calls.set i next
    rw [hcalls]
    exact (Lts.mem_set_or hcall next hmem).resolve_left (Ne.symm hnot)

/-- The same for a call on its way to hang a listener. -/
theorem hangs_setCall {t : TransportHooks} (hcalls : t.calls = s.calls) {i : Nat} {call : HookCall}
    (hcall : s.calls[i]? = some call) {next : HookCall} {t' : Nat}
    (hmoves : call.Hangs t' → next.Hangs t')
    (h : ∃ other ∈ s.calls, HookCall.Hangs t' other) :
    ∃ other ∈ (t.setCall i next).calls, HookCall.Hangs t' other := by
  obtain ⟨other, hother, hhangs⟩ := h
  show ∃ other ∈ t.calls.set i next, _
  rw [hcalls]
  rcases Lts.mem_set_or hcall next hother with rfl | hstays
  · exact ⟨next, Lts.mem_set_self hcall next, hmoves hhangs⟩
  · exact ⟨other, hstays, hhangs⟩

/-! ## 4. What an undisturbed step keeps -/

theorem kept_addCall (h : s.Kept) (call : HookCall) :
    Kept { s with calls := s.calls ++ [call] } := by
  refine ⟨fun hmarked => (h.flag hmarked).imp_right fun hnone =>
    ⟨hnone.1, List.mem_append_left _ hnone.2⟩, fun t ht hopened => ?_⟩
  exact (h.hears t ht hopened).imp_right fun ⟨other, hother, hhangs⟩ =>
    ⟨other, List.mem_append_left _ hother, hhangs⟩

/-- A call that leaves the transport, its listeners and the flag. -/
theorem kept_quiet (h : s.Kept) {i : Nat} {call : HookCall} (hcall : s.calls[i]? = some call)
    (hnot : call ≠ .resetting) {next : HookCall} (hmoves : ∀ t, call.Hangs t → next.Hangs t) :
    (s.setCall i next).Kept :=
  ⟨fun hmarked => (h.flag hmarked).setCall rfl (fun _ hl => hl) rfl hcall hnot next,
    fun t ht hopened => (h.hears t ht hopened).imp_right (hangs_setCall rfl hcall (hmoves t))⟩

theorem kept_advance (hknown : s.Known) (h : s.Kept) {i : Nat} {found : Bool} {call : HookCall}
    {t : TransportHooks} {next : HookCall} (hcall : s.calls[i]? = some call)
    (hok : s.Undisturbed (.advance i found)) (hadvance : s.advance found call = some (t, next)) :
    (t.setCall i next).Kept := by
  have hmem : call ∈ s.calls := List.mem_of_getElem? hcall
  cases call with
  | dropping =>
    cases hadvance
    exact ⟨fun _ => .inr ⟨rfl, Lts.mem_set_self hcall _⟩, by rintro _ ⟨⟩⟩
  | resetting =>
    cases hadvance
    refine ⟨fun hmarked => ?_, fun t' ht' hopened => ?_⟩
    · have hmarked : Function.update s.marked .service false .service = true := hmarked
      rw [Function.update_self] at hmarked
      cases hmarked
    · exact (h.hears t' ht' hopened).imp_right
        (hangs_setCall (t := s.mark .service false) rfl hcall fun hf => hf.elim)
  | building =>
    cases hadvance
    refine ⟨fun hmarked => ?_, fun t' ht' hopened => ?_⟩
    · have hclear : s.marked .service = false := hok _ hcall
      have hmarked : s.marked .service = true := hmarked
      rw [hclear] at hmarked
      cases hmarked
    · -- the new transport is not opened yet
      cases ht'
      exact absurd (hknown.opened _ hopened) (Nat.lt_irrefl _)
  | opening =>
    unfold TransportHooks.advance at hadvance
    cases hcurrent : s.current with
    | none =>
      rw [hcurrent] at hadvance
      cases hadvance
      exact kept_quiet h hcall (by rintro ⟨⟩) fun _ hf => hf.elim
    | some t₀ =>
      rw [hcurrent] at hadvance
      cases found with
      | false =>
        cases hadvance
        exact kept_quiet h hcall (by rintro ⟨⟩) fun _ hf => hf.elim
      | true =>
        cases hadvance
        refine ⟨fun hmarked => ?_, fun _ _ _ => .inr ⟨_, Lts.mem_set_self hcall _, rfl⟩⟩
        let opened : TransportHooks :=
          { s with current := some t₀, opened := Function.update s.opened t₀ true }
        exact Hung.setCall (t := opened) (h.flag hmarked) hcurrent.symm (fun _ hl => hl) rfl hcall
          (by rintro ⟨⟩) _
  | checking hook =>
    cases hadvance
    refine ⟨fun hmarked => (h.flag hmarked).setCall rfl (fun _ hl => hl) rfl hcall (by rintro ⟨⟩) _,
      fun t ht hopened => ?_⟩
    by_cases hset : s.marked hook = true
    · rcases h.hears t ht hopened with hlistens | ⟨other, hother, hhangs⟩
      · exact .inl hlistens
      · rcases Lts.mem_set_or hcall (if s.marked hook then HookCall.done else .reading hook) hother
          with rfl | hstays
        · -- the flag is set, and the transport is there: it is heard
          obtain rfl := hhangs
          rcases h.flag hset with ⟨t', ht', hlistens⟩ | ⟨hnone, -⟩
          · obtain rfl := Option.some.inj (ht'.symm.trans ht)
            exact .inl hlistens
          · exact absurd (hnone.symm.trans ht) (by simp)
        · exact .inr ⟨other, hstays, hhangs⟩
    · refine (h.hears t ht hopened).imp_right (hangs_setCall rfl hcall fun hhangs => ?_)
      rw [if_neg hset]
      exact hhangs
  | reading hook =>
    unfold TransportHooks.advance at hadvance
    cases hcurrent : s.current with
    | none =>
      rw [hcurrent] at hadvance
      cases hadvance
      refine ⟨fun hmarked => (h.flag hmarked).setCall rfl (fun _ hl => hl) rfl hcall
        (by rintro ⟨⟩) _, fun t ht => ?_⟩
      exact absurd (hcurrent.symm.trans ht) (by simp)
    | some t₀ =>
      rw [hcurrent] at hadvance
      cases hadvance
      refine ⟨fun hmarked => (h.flag hmarked).setCall rfl (fun _ hl => hl) rfl hcall
        (by rintro ⟨⟩) _, fun t ht hopened => ?_⟩
      obtain rfl := Option.some.inj (hcurrent.symm.trans ht)
      exact (h.hears _ ht hopened).imp_right (hangs_setCall rfl hcall fun hhangs => ⟨hhangs, rfl⟩)
  | adding hook t₀ =>
    cases hadvance
    have hmore : ∀ t, s.listens .service t = true → (s.listen hook t₀).listens .service t = true :=
      fun t ht => (listens_listen s hook .service t₀ t).mpr (.inr ht)
    refine ⟨fun hmarked => Hung.setCall (t := s.listen hook t₀) (h.flag hmarked) rfl hmore rfl hcall
      (by rintro ⟨⟩) _, fun t ht hopened => ?_⟩
    rcases h.hears t ht hopened with hlistens | ⟨other, hother, hhangs⟩
    · exact .inl (hmore t hlistens)
    · rcases Lts.mem_set_or hcall (.marking hook t₀) hother with rfl | hstays
      · obtain ⟨rfl, rfl⟩ := hhangs
        exact .inl ((listens_listen s .service .service _ _).mpr (.inl ⟨rfl, rfl⟩))
      · exact .inr ⟨other, hstays, hhangs⟩
  | marking hook t₀ =>
    cases hadvance
    refine ⟨fun hmarked => ?_, fun t ht hopened => ?_⟩
    · have hhung : s.Hung := by
        cases hook with
        | service => exact hok _ hcall
        | bridge => exact h.flag hmarked
      exact hhung.setCall rfl (fun _ hl => hl) rfl hcall (by rintro ⟨⟩) _
    · exact (h.hears t ht hopened).imp_right
        (hangs_setCall (t := s.mark hook true) rfl hcall fun hf => hf.elim)
  | done => cases hadvance

/-- A step that is not undisturbed leaves a flag that is wrong. -/
theorem not_flagRight_of_disturbed {s' : TransportHooks} {e : HookEvent} (hknown : s.Known)
    (hbad : ¬ s.Undisturbed e) (hstep : s.step e = some s') : ¬ s'.FlagRight := by
  cases e with
  | discover => exact absurd trivial hbad
  | ensure hook => exact absurd trivial hbad
  | advance i found =>
    obtain ⟨call, t, next, hcall, hadvance, rfl⟩ := step_advance hstep
    intro hright
    refine hbad fun call' hcall' => ?_
    obtain rfl := Option.some.inj (hcall.symm.trans hcall')
    cases call with
    | building =>
      cases hadvance
      show s.marked .service = false
      by_contra hset
      have hset : s.marked .service = true := by simpa using hset
      -- the new transport has no listener
      rcases hright hset with ⟨t', ht', hlistens⟩ | ⟨hnone, -⟩
      · cases ht'
        exact absurd (hknown.listens .service _ hlistens) (Nat.lt_irrefl _)
      · cases hnone
    | marking hook t₀ =>
      cases hook with
      | bridge => trivial
      | service =>
        cases hadvance
        have hset : Function.update s.marked .service true .service = true :=
          Function.update_self _ _ _
        rcases hright hset with hheard | ⟨hnone, hmem⟩
        · exact .inl hheard
        · refine .inr ⟨hnone, ?_⟩
          rcases List.mem_or_eq_of_mem_set hmem with hmem | hmem
          · exact hmem
          · cases hmem
    | dropping => trivial
    | resetting => trivial
    | opening => trivial
    | checking hook => trivial
    | reading hook => trivial
    | adding hook t₀ => trivial
    | done => trivial

theorem kept_step {s' : TransportHooks} {e : HookEvent} (hknown : s.Known) (h : s.Kept)
    (hok : s.Undisturbed e) (hstep : s.step e = some s') : s'.Kept := by
  cases e with
  | discover => cases hstep; exact kept_addCall h _
  | ensure hook => cases hstep; exact kept_addCall h _
  | advance i found =>
    obtain ⟨call, t, next, hcall, hadvance, rfl⟩ := step_advance hstep
    exact kept_advance hknown h hcall hok hadvance

/-- When nobody is under way, nobody is about to hang the listener. -/
theorem Kept.heard (h : s.Kept) : s.Heard := by
  intro hdone t ht hopened
  refine (h.hears t ht hopened).resolve_right ?_
  rintro ⟨call, hcall, hhangs⟩
  rw [hdone call hcall] at hhangs
  exact hhangs

end TransportHooks

/-! ## 5. Runs -/

/-- **The service hears the transport.**  In a run, the service's flag is right in every state, and
an opened transport is heard whenever nobody is under way, exactly when no call sets the flag for a
transport that is gone and none builds a transport under a flag that is set. -/
theorem service_hears_iff (events : List HookEvent) (s : TransportHooks)
    (hrun : Lts.run hookSystem noTransport events = some s) :
    Lts.Throughout hookSystem (fun s => s.FlagRight ∧ s.Heard) noTransport events ↔
      Lts.RunMeets hookSystem TransportHooks.Undisturbed noTransport events := by
  have hinit : noTransport.Known ∧ noTransport.Kept :=
    ⟨⟨by rintro _ ⟨⟩, by rintro _ ⟨⟩, by rintro _ _ ⟨⟩, List.forall_mem_nil _⟩,
      by rintro ⟨⟩, by rintro _ ⟨⟩⟩
  exact Lts.throughout_iff (I := fun s => s.Known ∧ s.Kept) (fun s h => ⟨h.2.flag, h.2.heard⟩)
    (fun s e t h hok hstep =>
      ⟨TransportHooks.known_step h.1 hstep, TransportHooks.kept_step h.1 h.2 hok hstep⟩)
    (fun s e t h hbad hstep hP =>
      TransportHooks.not_flagRight_of_disturbed h.1 hbad hstep hP.1) hinit hrun

instance (s : TransportHooks) : Decidable s.Hung :=
  decidable_of_iff ((s.current.any fun t => s.listens .service t) = true ∨
      s.current = none ∧ HookCall.resetting ∈ s.calls) (by
    rw [TransportHooks.Hung, Option.any_eq_true])

instance (s : TransportHooks) (call : HookCall) : Decidable (s.CallUndisturbed call) := by
  unfold TransportHooks.CallUndisturbed
  split <;> infer_instance

instance (s : TransportHooks) (e : HookEvent) : Decidable (s.Undisturbed e) := by
  cases e <;> unfold TransportHooks.Undisturbed <;> infer_instance

/-- A call that runs from end to end. -/
def inFull (i steps : Nat) (e : HookEvent) : List HookEvent :=
  e :: List.replicate steps (.advance i true)

/-- A connection, the bridge, and a reconnect, one after the other. -/
def twoConnections : List HookEvent :=
  inFull 0 8 .discover ++ inFull 1 4 (.ensure .bridge) ++ inFull 2 8 .discover

/-- The second transport is heard by the service. -/
theorem service_hears_twoConnections : ∃ s,
    Lts.run hookSystem noTransport twoConnections = some s ∧ s.current = some 1 ∧
      s.listens .service 1 = true ∧
      Lts.Throughout hookSystem (fun s => s.FlagRight ∧ s.Heard) noTransport twoConnections := by
  have hrun : ((Lts.run hookSystem noTransport twoConnections).map fun s =>
      (s.current, s.listens .service 1)) = some (some 1, true) := by decide +kernel
  have hmeets : Lts.RunMeets hookSystem TransportHooks.Undisturbed noTransport twoConnections := by
    decide +kernel
  obtain ⟨s, hs, hfacts⟩ := Option.map_eq_some_iff.mp hrun
  obtain ⟨hcurrent, hlistens⟩ := Prod.mk.inj hfacts
  exact ⟨s, hs, hcurrent, hlistens, (service_hears_iff twoConnections s hs).mpr hmeets⟩

/-- A request reads the transport, the transport is replaced, and the request sets the flag: the
new transport is not heard. -/
theorem service_misses_replaced :
    ((Lts.run hookSystem noTransport
        (inFull 0 4 .discover ++ inFull 1 3 (.ensure .service) ++ inFull 2 3 .discover ++
          [.advance 1 true, .advance 2 true, .advance 2 true, .advance 0 true])).map fun s =>
      (s.calls.all (· = .done), s.current.map fun t => (s.opened t, s.listens .service t)))
      = some (true, some (true, false)) := by
  decide +kernel

/-! ## 6. The bridge -/

/-- The call is past the flag of the bridge. -/
def HookCall.hooksBridge : HookCall → Bool
  | .reading .bridge | .adding .bridge _ | .marking .bridge _ => true
  | _ => false

namespace TransportHooks

/-- The bridge has hung its listener, and no call of its is past the flag. -/
structure BridgeHung (s : TransportHooks) : Prop where
  marked : s.marked .bridge = true
  calls : ∀ call ∈ s.calls, call.hooksBridge = false

theorem bridgeHung_advance {s t : TransportHooks} {found : Bool} {call next : HookCall}
    (hmarked : s.marked .bridge = true) (hcall : call.hooksBridge = false)
    (hadvance : s.advance found call = some (t, next)) :
    t.marked .bridge = true ∧ t.calls = s.calls ∧ t.listens .bridge = s.listens .bridge ∧
      next.hooksBridge = false := by
  have hother : Hook.bridge ≠ .service := by decide
  cases call with
  | dropping => cases hadvance; exact ⟨hmarked, rfl, rfl, rfl⟩
  | resetting =>
    cases hadvance
    exact ⟨(Function.update_of_ne hother false s.marked).trans hmarked, rfl, rfl, rfl⟩
  | building => cases hadvance; exact ⟨hmarked, rfl, rfl, rfl⟩
  | opening =>
    unfold TransportHooks.advance at hadvance
    cases hcurrent : s.current with
    | none =>
      rw [hcurrent] at hadvance
      cases hadvance
      exact ⟨hmarked, rfl, rfl, rfl⟩
    | some t₀ =>
      rw [hcurrent] at hadvance
      cases found <;> cases hadvance <;> exact ⟨hmarked, rfl, rfl, rfl⟩
  | checking hook =>
    cases hadvance
    refine ⟨hmarked, rfl, rfl, ?_⟩
    cases hook with
    | bridge => rw [if_pos hmarked]; rfl
    | service => split <;> rfl
  | reading hook =>
    cases hook with
    | bridge => cases hcall
    | service =>
      unfold TransportHooks.advance at hadvance
      cases hcurrent : s.current <;> rw [hcurrent] at hadvance <;> cases hadvance <;>
        exact ⟨hmarked, rfl, rfl, rfl⟩
  | adding hook t₀ =>
    cases hook with
    | bridge => cases hcall
    | service =>
      cases hadvance
      exact ⟨hmarked, rfl, Function.update_of_ne hother
        (Function.update (s.listens .service) t₀ true) s.listens, rfl⟩
  | marking hook t₀ =>
    cases hook with
    | bridge => cases hcall
    | service =>
      cases hadvance
      exact ⟨(Function.update_of_ne hother true s.marked).trans hmarked, rfl, rfl, rfl⟩
  | done => cases hadvance

/-- No step hangs another listener of the bridge. -/
theorem bridgeHung_step {s s' : TransportHooks} {e : HookEvent} (h : s.BridgeHung)
    (hstep : s.step e = some s') : s'.BridgeHung ∧ s'.listens .bridge = s.listens .bridge := by
  have hadd : ∀ call : HookCall, call.hooksBridge = false →
      BridgeHung { s with calls := s.calls ++ [call] } := by
    intro call hcall
    refine ⟨h.marked, fun other hother => ?_⟩
    rcases List.mem_append.mp hother with hother | hother
    · exact h.calls other hother
    · rw [List.mem_singleton.mp hother]
      exact hcall
  cases e with
  | discover => cases hstep; exact ⟨hadd _ rfl, rfl⟩
  | ensure hook => cases hstep; exact ⟨hadd _ rfl, rfl⟩
  | advance i found =>
    obtain ⟨call, t, next, hcall, hadvance, rfl⟩ := step_advance hstep
    obtain ⟨hmarked, hcalls, hlistens, hnext⟩ :=
      bridgeHung_advance h.marked (h.calls call (List.mem_of_getElem? hcall)) hadvance
    refine ⟨⟨hmarked, fun other hother => ?_⟩, hlistens⟩
    rcases List.mem_or_eq_of_mem_set hother with hother | rfl
    · exact h.calls other (hcalls ▸ hother)
    · exact hnext

end TransportHooks

/-- **The bridge hears one transport.**  Once it has hung its listener, and no other call is past
its flag, it hears no transport that is built later, in any run: after a reconnect it is told of no
more transport events. -/
theorem bridge_deaf (before after : List HookEvent) (s s' : TransportHooks)
    (hbefore : Lts.run hookSystem noTransport before = some s) (hhung : s.BridgeHung)
    (hafter : Lts.run hookSystem s after = some s') (t : Nat) (ht : s.built ≤ t) :
    s'.listens .bridge t = false := by
  have hinit : noTransport.Known :=
    ⟨by rintro _ ⟨⟩, by rintro _ ⟨⟩, by rintro _ _ ⟨⟩, List.forall_mem_nil _⟩
  have hknown : s.Known :=
    Lts.invariant_run (I := TransportHooks.Known)
      (fun u e v h (hstep : u.step e = some v) => TransportHooks.known_step h hstep) hinit hbefore
  have hkept : s'.BridgeHung ∧ s'.listens .bridge = s.listens .bridge := by
    refine Lts.invariant_run (I := fun s'' : TransportHooks => s''.BridgeHung ∧
      s''.listens .bridge = s.listens .bridge) (fun u e v h hstep => ?_) ⟨hhung, rfl⟩ hafter
    obtain ⟨hstays, hsame⟩ := TransportHooks.bridgeHung_step h.1 hstep
    exact ⟨hstays, hsame.trans h.2⟩
  rw [hkept.2, Bool.eq_false_iff]
  exact fun hlistens => absurd (hknown.listens .bridge t hlistens) (Nat.not_lt.mpr ht)

instance (s : TransportHooks) : Decidable s.BridgeHung :=
  decidable_of_iff (s.marked .bridge = true ∧ ∀ call ∈ s.calls, call.hooksBridge = false)
    ⟨fun h => ⟨h.1, h.2⟩, fun h => ⟨h.marked, h.calls⟩⟩

/-- After the reconnect the service hears the gateway, and the bridge does not, however often it is
asked to hook itself. -/
theorem bridge_deaf_reconnected : ∃ s s',
    Lts.run hookSystem noTransport (inFull 0 8 .discover ++ inFull 1 4 (.ensure .bridge)) = some s ∧
      Lts.run hookSystem s (inFull 2 8 .discover ++ inFull 3 1 (.ensure .bridge)) = some s' ∧
      s'.current = some 1 ∧ s'.listens .service 1 = true ∧ s'.listens .bridge 1 = false := by
  have hrun : ((Lts.run hookSystem noTransport
      (inFull 0 8 .discover ++ inFull 1 4 (.ensure .bridge))).map fun s =>
        (decide s.BridgeHung, s.built, ((Lts.run hookSystem s
          (inFull 2 8 .discover ++ inFull 3 1 (.ensure .bridge))).map fun s' =>
            (s'.current, s'.listens .service 1))))
      = some (true, 1, some (some 1, true)) := by decide +kernel
  obtain ⟨s, hs, hfacts⟩ := Option.map_eq_some_iff.mp hrun
  obtain ⟨hhung, hrest⟩ := Prod.mk.inj hfacts
  obtain ⟨hbuilt, hthen⟩ := Prod.mk.inj hrest
  obtain ⟨s', hs', hcurrent⟩ := Option.map_eq_some_iff.mp hthen
  obtain ⟨hcurrent, hlistens⟩ := Prod.mk.inj hcurrent
  exact ⟨s, s', hs, hs', hcurrent, hlistens, bridge_deaf _ _ s s' hs (of_decide_eq_true hhung) hs' 1
    (Nat.le_of_eq hbuilt)⟩

end RaceLink
