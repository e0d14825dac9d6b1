/-
# The outcome slot of the serial transport

`_send_m2n` registers a cell, writes its frame and waits until the reader thread has put an
outcome into the cell or the time is up.  The registered cell is one field of the transport, and
it has no identity: the reader puts an outcome into whatever cell is registered when it handles
the frame.  The wait releases the lock, so another sender can register in between.

A run is any interleaving of the sections that hold the lock.  The `detail` texts of outcomes and
the events given to listeners are left out: nothing here reads them.

`foreignRejection_free_iff` says exactly which runs keep an `EV_TX_REJECTED` that echoes one type
from completing a send of another.
-/
import RaceLink.Lts.Basic
import Mathlib.Tactic.SplitIfs

namespace RaceLink

/-! ## 1. Outcomes and frames -/

/-- `SendOutcome`, by its `code`. -/
inductive SendOutcome where
  | success
  | rejected (reason : UInt8)
  | timeout
  | usbError
  deriving DecidableEq

/-- `SendOutcome.ok`, which is also its truth value. -/
def SendOutcome.ok : SendOutcome → Bool
  | .success => true
  | _ => false

/-- A frame from the gateway: its type byte and its data. -/
structure GatewayFrame where
  typeByte : UInt8
  data : List UInt8
  deriving DecidableEq

def evError : UInt8 := 0xF0
def evStateChanged : UInt8 := 0xF1
def evTxDone : UInt8 := 0xF3
def evTxRejected : UInt8 := 0xF4
def evStateReport : UInt8 := 0xF5
def gatewayStateUnknown : UInt8 := 0xFF
def txRejectUnknown : UInt8 := 0xFF

/-- `_parse_state_event_body`: the state byte and its metadata. -/
def parseStateEventBody : List UInt8 → UInt8 × Nat
  | [] => (gatewayStateUnknown, 0)
  | [state] => (state, 0)
  | [state, low] => (state, low.toNat)
  | state :: low :: high :: _ => (state, low.toNat + 256 * high.toNat)

/-! ## 2. The transport -/

/-- How far a call of `_send_m2n` is. -/
inductive SendPhase where
  /-- It holds the lock; its cell is registered. -/
  | writing
  /-- Its frame is written; the wait has released the lock. -/
  | waiting
  | returned
  deriving DecidableEq

/-- A call of `_send_m2n`.  `answeredBy` is bookkeeping of the model: the frame whose outcome the
reader has put into the cell. -/
structure Send where
  typeFull : UInt8
  recv3 : List UInt8
  body : List UInt8
  phase : SendPhase
  cell : Option SendOutcome
  answeredBy : Option GatewayFrame
  deriving DecidableEq

/-- The bytes a call writes. -/
def Send.frame (snd : Send) : List UInt8 :=
  let payload := snd.typeFull :: snd.recv3 ++ snd.body
  [0x00, UInt8.ofNat payload.length] ++ payload

/-- The transport.  The calls are numbered in the order in which they take the lock. -/
structure Port where
  sends : List Send
  lock : Option Nat
  pendingSendOutcome : Option Nat
  wire : List (List UInt8)
  gatewayStateByte : UInt8
  gatewayStateMetadataMs : Nat

/-- Change the record of a call. -/
def Port.modifySend (p : Port) (i : Nat) (f : Send → Send) : Port :=
  { p with sends := p.sends.modify i f }

/-- The outcome in the cell of a call, unless there is one. -/
def Send.fill (frame : GatewayFrame) (outcome : SendOutcome) (snd : Send) : Send :=
  if snd.cell = none then { snd with cell := some outcome, answeredBy := some frame } else snd

/-- `_fulfill_pending_outcome`. -/
def fulfillPendingOutcome (frame : GatewayFrame) (outcome : SendOutcome) (p : Port) : Port :=
  match p.pendingSendOutcome with
  | none => p
  | some i => p.modifySend i (Send.fill frame outcome)

/-- `_update_gateway_state`. -/
def updateGatewayState (body : UInt8 × Nat) (p : Port) : Port :=
  { p with gatewayStateByte := body.1, gatewayStateMetadataMs := body.2 % 0x10000 }

/-- `_handle_frame`.  A wire packet concerns the listeners only. -/
def handleFrame (frame : GatewayFrame) (p : Port) : Port :=
  if frame.typeByte = evTxDone then fulfillPendingOutcome frame .success p
  else if frame.typeByte = evTxRejected then
    fulfillPendingOutcome frame (.rejected (frame.data[1]?.getD txRejectUnknown)) p
  else if frame.typeByte = evStateChanged ∨ frame.typeByte = evStateReport then
    updateGatewayState (parseStateEventBody frame.data) p
  else if frame.typeByte = evError then fulfillPendingOutcome frame .usbError p
  else p

/-- The sections of `_send_m2n` and of the reader that hold the lock. -/
inductive PortEvent where
  /-- A call takes the lock and registers its cell. -/
  | acquire (typeFull : UInt8) (recv3 body : List UInt8)
  /-- It writes its frame, and waits; or the write fails, and it returns. -/
  | write (i : Nat) (ok : Bool)
  /-- The reader handles a frame. -/
  | frame (f : GatewayFrame)
  /-- The wait of a call finds its cell filled. -/
  | wake (i : Nat)
  /-- The wait of a call ends with the cell empty. -/
  | timeout (i : Nat)

/-- A call that takes the lock. -/
def registerSend (typeFull : UInt8) (recv3 body : List UInt8) (p : Port) : Port :=
  { p with
    sends := p.sends ++ [⟨typeFull, recv3, body, .writing, none, none⟩]
    lock := some p.sends.length
    pendingSendOutcome := some p.sends.length }

/-- The end of a wait: whatever is registered is cleared. -/
def finishSend (i : Nat) (f : Send → Send) (p : Port) : Port :=
  { p.modifySend i fun snd => { f snd with phase := .returned } with pendingSendOutcome := none }

/-- The transport after an event; `none` when the event cannot happen. -/
def portStep (p : Port) : PortEvent → Option Port
  | .acquire typeFull recv3 body =>
    if p.lock = none ∧ recv3.length = 3 ∧ body.length ≤ 251 then
      some (registerSend typeFull recv3 body p)
    else none
  | .write i ok =>
    match p.sends[i]? with
    | some snd =>
      if p.lock = some i then
        if ok then
          some { p.modifySend i fun snd => { snd with phase := .waiting } with
            lock := none, wire := p.wire ++ [snd.frame] }
        else
          some { finishSend i (fun snd => { snd with cell := some .usbError }) p with lock := none }
      else none
    | none => none
  | .frame f => if p.lock = none then some (handleFrame f p) else none
  | .wake i =>
    match p.sends[i]? with
    | some snd =>
      if p.lock = none ∧ snd.phase = .waiting ∧ snd.cell ≠ none then some (finishSend i id p)
      else none
    | none => none
  | .timeout i =>
    match p.sends[i]? with
    | some snd =>
      if p.lock = none ∧ snd.phase = .waiting ∧ snd.cell = none then
        some (finishSend i (fun snd => { snd with cell := some .timeout }) p)
      else none
    | none => none

/-- An opened port: no call yet, and the gateway's state unknown. -/
def openedPort : Port := ⟨[], none, none, [], gatewayStateUnknown, 0⟩

/-- Any number of senders and the reader, on one port. -/
def portSystem : Lts.System Port PortEvent := ⟨openedPort, portStep⟩

/-! ## 3. What an event does to the calls -/

/-- The outcome a frame carries, if it is an outcome frame. -/
def GatewayFrame.outcome? (f : GatewayFrame) : Option SendOutcome :=
  if f.typeByte = evTxDone then some .success
  else if f.typeByte = evTxRejected then some (.rejected (f.data[1]?.getD txRejectUnknown))
  else if f.typeByte = evStateChanged ∨ f.typeByte = evStateReport then none
  else if f.typeByte = evError then some .usbError
  else none

/-- The calls after a frame. -/
theorem handleFrame_sends (f : GatewayFrame) (p : Port) : (handleFrame f p).sends =
    match f.outcome?, p.pendingSendOutcome with
    | some outcome, some i => p.sends.modify i (Send.fill f outcome)
    | _, _ => p.sends := by
  unfold handleFrame GatewayFrame.outcome? fulfillPendingOutcome
  cases hp : p.pendingSendOutcome <;> split_ifs <;> rfl

/-- A call whose record is as the model keeps it: without an outcome nothing has answered it, and
what has answered it carries its outcome. -/
structure Send.Recorded (snd : Send) : Prop where
  unanswered : snd.cell = none → snd.answeredBy = none
  rejected : ∀ r, snd.cell = some (.rejected r) →
    ∃ f, snd.answeredBy = some f ∧ f.outcome? = some (.rejected r)

/-- An event of the calls themselves: it keeps who is called what and who has answered. -/
structure KeepsAnswer (g : Send → Send) : Prop where
  typeFull : ∀ snd, (g snd).typeFull = snd.typeFull
  answeredBy : ∀ snd, (g snd).answeredBy = snd.answeredBy

/-- **What an event does to the calls**: one more call, a change to a call that keeps its answer
and, when it puts an outcome into the cell, not a rejection, or the answer of a frame. -/
theorem portStep_sends {p p' : Port} {e : PortEvent} (h : portStep p e = some p') :
    (∃ typeFull recv3 body, p'.sends = p.sends ++ [⟨typeFull, recv3, body, .writing, none, none⟩] ∧
      ∀ f, e ≠ .frame f) ∨
    (∃ i g, p'.sends = p.sends.modify i g ∧ KeepsAnswer g ∧
      (∀ snd, (g snd).cell = snd.cell ∨ ∃ o, (g snd).cell = some o ∧ ∀ r, o ≠ .rejected r) ∧
      ∀ f, e ≠ .frame f) ∨
    ∃ f, e = .frame f ∧ p' = handleFrame f p := by
  cases e with
  | acquire typeFull recv3 body =>
    refine Or.inl ⟨typeFull, recv3, body, ?_, nofun⟩
    simp only [portStep, Option.ite_none_right_eq_some, Option.some.injEq] at h
    rw [← h.2]
    rfl
  | write i ok =>
    refine Or.inr (Or.inl ?_)
    simp only [portStep] at h
    split at h
    · cases ok with
      | true =>
        simp only [if_true, Option.ite_none_right_eq_some, Option.some.injEq] at h
        refine ⟨i, fun snd => { snd with phase := .waiting }, ?_, ⟨fun _ => rfl, fun _ => rfl⟩,
          fun _ => Or.inl rfl, nofun⟩
        rw [← h.2]
        rfl
      | false =>
        simp only [Bool.false_eq_true, if_false, Option.ite_none_right_eq_some,
          Option.some.injEq] at h
        refine ⟨i, fun snd => { snd with cell := some .usbError, phase := .returned }, ?_,
          ⟨fun _ => rfl, fun _ => rfl⟩, fun _ => Or.inr ⟨.usbError, rfl, nofun⟩, nofun⟩
        rw [← h.2]
        rfl
    · cases h
  | frame f =>
    simp only [portStep, Option.ite_none_right_eq_some, Option.some.injEq] at h
    exact Or.inr (Or.inr ⟨f, rfl, h.2.symm⟩)
  | wake i =>
    refine Or.inr (Or.inl ?_)
    simp only [portStep] at h
    split at h
    · simp only [Option.ite_none_right_eq_some, Option.some.injEq] at h
      refine ⟨i, fun snd => { snd with phase := .returned }, ?_, ⟨fun _ => rfl, fun _ => rfl⟩,
        fun _ => Or.inl rfl, nofun⟩
      rw [← h.2]
      rfl
    · cases h
  | timeout i =>
    refine Or.inr (Or.inl ?_)
    simp only [portStep] at h
    split at h
    · simp only [Option.ite_none_right_eq_some, Option.some.injEq] at h
      refine ⟨i, fun snd => { snd with cell := some .timeout, phase := .returned }, ?_,
        ⟨fun _ => rfl, fun _ => rfl⟩, fun _ => Or.inr ⟨.timeout, rfl, nofun⟩, nofun⟩
      rw [← h.2]
      rfl
    · cases h

theorem forall_mem_iff_getElem? {α : Type} {P : α → Prop} {l : List α} :
    (∀ x ∈ l, P x) ↔ ∀ (j : Nat) x, l[j]? = some x → P x := by
  simp only [List.mem_iff_getElem?]
  exact ⟨fun h j x hj => h x ⟨j, hj⟩, fun h x ⟨j, hj⟩ => h j x hj⟩

theorem forall_mem_modify {α : Type} {P : α → Prop} {l : List α} {i : Nat} {g : α → α} :
    (∀ y ∈ l.modify i g, P y) ↔ ∀ j x, l[j]? = some x → P (if i = j then g x else x) := by
  simp only [List.mem_iff_getElem?, List.getElem?_modify]
  constructor
  · intro h j x hx
    refine h _ ⟨j, ?_⟩
    rw [hx]
    by_cases hij : i = j <;> simp [hij]
  · rintro h y ⟨j, hy⟩
    cases hx : l[j]? with
    | none => simp [hx] at hy
    | some x =>
      have hval := h j x hx
      by_cases hij : i = j <;> simp_all

/-- Every call is recorded as the model keeps it. -/
def Recorded (p : Port) : Prop := ∀ snd ∈ p.sends, snd.Recorded

theorem Send.Recorded.fill {snd : Send} (h : snd.Recorded) {f : GatewayFrame} {o : SendOutcome}
    (ho : f.outcome? = some o) : (snd.fill f o).Recorded := by
  unfold Send.fill
  split
  · refine ⟨nofun, fun r hr => ⟨f, rfl, ?_⟩⟩
    rw [ho, ← hr]
  · exact h

theorem recorded_step {p p' : Port} {e : PortEvent} (hp : Recorded p)
    (h : portStep p e = some p') : Recorded p' := by
  unfold Recorded
  rcases portStep_sends h with ⟨typeFull, recv3, body, hs, -⟩ | ⟨i, g, hs, hg, hcell, -⟩ |
    ⟨f, -, rfl⟩
  · rw [hs, List.forall_mem_append, List.forall_mem_singleton]
    exact ⟨hp, fun _ => rfl, nofun⟩
  · rw [hs, forall_mem_modify]
    intro j snd hj
    have hsnd : snd.Recorded := hp snd (List.mem_of_getElem? hj)
    split
    · rcases hcell snd with hc | ⟨o, hc, ho⟩
      · exact ⟨fun hn => by rw [hg.answeredBy, hsnd.unanswered (hc ▸ hn)],
          fun r hr => by rw [hg.answeredBy]; exact hsnd.rejected r (hc ▸ hr)⟩
      · refine ⟨fun hn => ?_, fun r hr => ?_⟩
        · rw [hc] at hn
          cases hn
        · rw [hc, Option.some.injEq] at hr
          exact absurd hr (ho r)
    · exact hsnd
  · rw [handleFrame_sends]
    split
    · next o i ho _ =>
      rw [forall_mem_modify]
      intro j snd hj
      have hsnd : snd.Recorded := hp snd (List.mem_of_getElem? hj)
      split
      · exact hsnd.fill ho
      · exact hsnd
    · exact hp

/-! ## 4. Rejections and the calls they complete -/

/-- No rejection that echoes a type has completed a call of another type. -/
def Send.OwnRejection (snd : Send) : Prop :=
  ∀ f t, snd.answeredBy = some f → f.typeByte = evTxRejected → f.data.head? = some t →
    t = snd.typeFull

def OnlyOwnRejections (p : Port) : Prop := ∀ snd ∈ p.sends, snd.OwnRejection

/-- When a rejection that echoes `t` is handled, no call is registered, or the registered call has
its outcome already, or it is of type `t`. -/
def InTurn (p : Port) : PortEvent → Prop
  | .frame f => f.typeByte = evTxRejected → ∀ i snd t, p.pendingSendOutcome = some i →
      p.sends[i]? = some snd → snd.cell = none → f.data.head? = some t → t = snd.typeFull
  | _ => True

theorem inTurn_of_ne {p : Port} {e : PortEvent} (h : ∀ f, e ≠ .frame f) : InTurn p e := by
  cases e with
  | frame f => exact absurd rfl (h f)
  | _ => trivial

theorem KeepsAnswer.ownRejection_iff {g : Send → Send} (hg : KeepsAnswer g) (snd : Send) :
    (g snd).OwnRejection ↔ snd.OwnRejection := by
  unfold Send.OwnRejection
  rw [hg.answeredBy, hg.typeFull]

theorem ownRejection_fill_iff {snd : Send} (h : snd.Recorded) (f : GatewayFrame)
    (o : SendOutcome) : (snd.fill f o).OwnRejection ↔ snd.OwnRejection ∧
      (f.typeByte = evTxRejected → ∀ t, snd.cell = none → f.data.head? = some t →
        t = snd.typeFull) := by
  unfold Send.fill
  split
  · next hcell =>
    have hown : snd.OwnRejection := by
      intro f' t hf'
      rw [h.unanswered hcell] at hf'
      cases hf'
    constructor
    · intro hfill
      exact ⟨hown, fun htype t _ ht => hfill f t rfl htype ht⟩
    · rintro ⟨-, hturn⟩ f' t hf' htype ht
      cases hf'
      exact hturn htype t hcell ht
  · next hcell =>
    exact (and_iff_left fun _ _ hnone => absurd hnone hcell).symm

/-- **One event** keeps the property exactly when it is in turn. -/
theorem onlyOwnRejections_step {p p' : Port} {e : PortEvent} (hp : Recorded p)
    (h : portStep p e = some p') : OnlyOwnRejections p' ↔ OnlyOwnRejections p ∧ InTurn p e := by
  unfold OnlyOwnRejections
  rcases portStep_sends h with ⟨typeFull, recv3, body, hs, hne⟩ | ⟨i, g, hs, hg, -, hne⟩ |
    ⟨f, rfl, rfl⟩
  · rw [hs, List.forall_mem_append, List.forall_mem_singleton]
    exact and_congr_right fun _ => iff_of_true nofun (inTurn_of_ne hne)
  · rw [hs, forall_mem_modify, and_iff_left (inTurn_of_ne hne), forall_mem_iff_getElem?]
    refine forall_congr' fun j => forall_congr' fun snd => imp_congr_right fun _ => ?_
    split
    · exact hg.ownRejection_iff snd
    · exact Iff.rfl
  · rw [handleFrame_sends]
    cases ho : f.outcome? with
    | none =>
      refine (and_iff_left fun htype => ?_).symm
      rw [GatewayFrame.outcome?, htype] at ho
      cases ho
    | some o =>
      cases hpend : p.pendingSendOutcome with
      | none => exact (and_iff_left fun _ i _ _ hi => by rw [hpend] at hi; cases hi).symm
      | some i =>
        simp only
        rw [forall_mem_modify, forall_mem_iff_getElem?]
        constructor
        · intro hfill
          refine ⟨fun j snd hj => ?_, fun htype i' snd t hi' hsnd hcell ht => ?_⟩
          · have hown := hfill j snd hj
            split at hown
            · exact ((ownRejection_fill_iff (hp snd (List.mem_of_getElem? hj)) f o).mp hown).1
            · exact hown
          · obtain rfl : i = i' := Option.some.inj (hpend.symm.trans hi')
            have hown := hfill i snd hsnd
            rw [if_pos rfl] at hown
            exact ((ownRejection_fill_iff (hp snd (List.mem_of_getElem? hsnd)) f o).mp hown).2
              htype t hcell ht
        · rintro ⟨hown, hturn⟩ j snd hj
          split
          · next hij =>
            subst hij
            exact (ownRejection_fill_iff (hp snd (List.mem_of_getElem? hj)) f o).mpr
              ⟨hown i snd hj, fun htype t hcell ht => hturn htype i snd t hpend hj hcell ht⟩
          · exact hown j snd hj

/-- **Which runs keep rejections apart.**  At the end of a run no rejection has completed a call
of a type other than the one it echoes, exactly when every rejection of the run was handled in
turn. -/
theorem foreignRejection_free_iff {es : List PortEvent} {p : Port}
    (h : Lts.run portSystem openedPort es = some p) :
    OnlyOwnRejections p ↔ Lts.RunMeets portSystem InTurn openedPort es := by
  have hinit : Recorded openedPort := fun _ hsnd => absurd hsnd List.not_mem_nil
  have hown : OnlyOwnRejections openedPort := fun _ hsnd => absurd hsnd List.not_mem_nil
  have hiff : OnlyOwnRejections p ↔
      OnlyOwnRejections openedPort ∧ Lts.RunMeets portSystem InTurn openedPort es :=
    Lts.holds_run_iff (fun _ _ _ => recorded_step) (fun _ _ _ => onlyOwnRejections_step) hinit h
  rw [hiff, and_iff_right hown]

/-- The answer of the gateway to a frame it does not take: busy. -/
def busyRejection (typeFull : UInt8) : GatewayFrame := ⟨evTxRejected, [typeFull, 0x01]⟩

/-- A preset that is rejected in time, and reported so. -/
def rejectedInTime : List PortEvent :=
  [.acquire 0x04 [1, 2, 3] [1, 1, 7, 70], .write 0 true, .frame (busyRejection 0x04), .wake 0]

theorem foreignRejection_free_inTime : ∃ p, Lts.run portSystem openedPort rejectedInTime = some p ∧
    p.sends.map (·.cell) = [some (.rejected 0x01)] ∧
    (OnlyOwnRejections p ↔ Lts.RunMeets portSystem InTurn openedPort rejectedInTime) :=
  ⟨_, rfl, rfl, foreignRejection_free_iff rfl⟩

/-- A preset times out, a control packet is sent, and the rejection of the preset comes late: the
control packet is reported as rejected. -/
def rejectedLate : List PortEvent :=
  [.acquire 0x04 [1, 2, 3] [1, 1, 7, 70], .write 0 true, .timeout 0,
   .acquire 0x08 [1, 2, 3] [1, 1, 0], .write 1 true, .frame (busyRejection 0x04), .wake 1]

theorem foreignRejection_late : ∃ p, Lts.run portSystem openedPort rejectedLate = some p ∧
    p.sends.map (fun snd => (snd.typeFull, snd.phase, snd.cell))
      = [(0x04, .returned, some .timeout), (0x08, .returned, some (.rejected 0x01))] ∧
    ¬ OnlyOwnRejections p := by
  refine ⟨_, rfl, rfl, fun hown => ?_⟩
  have hforeign := hown ⟨0x08, [1, 2, 3], [1, 1, 0], .returned, some (.rejected 0x01),
    some (busyRejection 0x04)⟩ (List.mem_of_getElem? (i := 1) rfl) (busyRejection 0x04) 0x04 rfl rfl
  exact absurd (hforeign rfl) (by decide)

-- It takes no timeout: a second sender registers while the first one waits, and the rejection of
-- the first frame completes the second call.
example : ∃ p, Lts.run portSystem openedPort
    [.acquire 0x04 [1, 2, 3] [1, 1, 7, 70], .write 0 true, .acquire 0x08 [1, 2, 3] [1, 1, 0],
      .write 1 true, .frame (busyRejection 0x04), .wake 1] = some p ∧
    p.sends.map (fun snd => (snd.typeFull, snd.phase, snd.cell))
      = [(0x04, .waiting, none), (0x08, .returned, some (.rejected 0x01))] :=
  ⟨_, rfl, rfl⟩

end RaceLink
