/-
# One send at a time

`_send_m2n` says that `_tx_lock` lets a single send be in flight.  The lock is held while a call
registers its cell and writes its frame, but the wait for the outcome releases it, and then
another call can take it: it registers its own cell over the first one.

Here the gateway is as good as it can be.  It answers every frame once, in order, the answers
arrive in order, and no wait runs out.  `sendsServed_iff` says which runs then keep the promise:
those in which a call takes the lock only when every earlier call has returned.
-/
import RaceLink.Transport.SendSlot
import Mathlib.Data.List.Basic

namespace RaceLink

/-! ## 1. The transport and its gateway -/

/-- The transport with the gateway at the other end.  A frame from the gateway is kept with the
call whose frame it answers. -/
structure GatewayLink where
  port : Port
  /-- The calls whose frame is written, in the order of the wire. -/
  written : List Nat
  /-- Those the gateway has not answered yet. -/
  unanswered : List Nat
  /-- What it has answered. -/
  answers : List (Nat × GatewayFrame)
  /-- What the reader has not handled yet. -/
  inbox : List (Option Nat × GatewayFrame)

inductive LinkEvent where
  /-- A call takes the lock and registers its cell. -/
  | acquire (typeFull : UInt8) (recv3 body : List UInt8)
  /-- It writes its frame, or the write fails. -/
  | write (i : Nat) (ok : Bool)
  /-- The wait of a call finds its cell filled. -/
  | wake (i : Nat)
  /-- The gateway answers the oldest frame it has not answered. -/
  | answer (f : GatewayFrame)
  /-- The gateway sends something that is no outcome. -/
  | other (f : GatewayFrame)
  /-- The reader handles the next frame. -/
  | read

/-- The answers of the gateway. -/
def GatewayFrame.IsAnswer (f : GatewayFrame) : Prop :=
  f.typeByte = evTxDone ∨ f.typeByte = evTxRejected

instance (f : GatewayFrame) : Decidable f.IsAnswer := inferInstanceAs (Decidable (_ ∨ _))

/-- The state after an event; `none` when the event cannot happen.  The reader needs the lock for
an outcome only. -/
def linkStep (l : GatewayLink) : LinkEvent → Option GatewayLink
  | .acquire typeFull recv3 body =>
    (portStep l.port (.acquire typeFull recv3 body)).map fun p => { l with port := p }
  | .write i ok =>
    (portStep l.port (.write i ok)).map fun p =>
      if ok then
        { l with port := p, written := l.written ++ [i], unanswered := l.unanswered ++ [i] }
      else { l with port := p }
  | .wake i => (portStep l.port (.wake i)).map fun p => { l with port := p }
  | .answer f =>
    match l.unanswered with
    | i :: rest =>
      if f.IsAnswer then
        some { l with
          unanswered := rest, answers := l.answers ++ [(i, f)], inbox := l.inbox ++ [(some i, f)] }
      else none
    | [] => none
  | .other f =>
    if f.outcome? = none then some { l with inbox := l.inbox ++ [(none, f)] } else none
  | .read =>
    match l.inbox with
    | (_, f) :: rest =>
      if f.outcome? = none ∨ l.port.lock = none then
        some { l with port := handleFrame f l.port, inbox := rest }
      else none
    | [] => none

/-- Opened, and nothing on the wire. -/
def openedLink : GatewayLink := ⟨openedPort, [], [], [], []⟩

/-- Any number of senders, the reader and the gateway. -/
def linkSystem : Lts.System GatewayLink LinkEvent := ⟨openedLink, linkStep⟩

/-! ## 2. What the sends are promised -/

/-- A call has returned with what is due to it: the outcome the gateway emitted for its frame, or
a USB error when its frame was not written. -/
def Served (l : GatewayLink) (i : Nat) (snd : Send) : Prop :=
  snd.phase = .returned ∧
    if i ∈ l.written then ∃ f o, (i, f) ∈ l.answers ∧ f.outcome? = some o ∧ snd.cell = some o
    else snd.cell = some .usbError

/-- The frames of the written calls, whole. -/
def GatewayLink.framesWritten (l : GatewayLink) : List (List UInt8) :=
  l.written.filterMap fun i => l.port.sends[i]?.map Send.frame

/-- The promise of `_send_m2n`, in one state. -/
structure SendsServed (l : GatewayLink) : Prop where
  /-- At most one call is in flight. -/
  single : ∀ (i j : Nat) snd snd', l.port.sends[i]? = some snd → l.port.sends[j]? = some snd' →
    snd.phase ≠ .returned → snd'.phase ≠ .returned → i = j
  /-- The wire holds whole frames. -/
  whole : l.port.wire = l.framesWritten
  /-- They are in the order in which their calls took the lock. -/
  ordered : l.written.Pairwise (· < ·)
  /-- A call that has returned has the outcome that is due to it. -/
  served : ∀ (i : Nat) snd, l.port.sends[i]? = some snd → snd.phase = .returned → Served l i snd
  /-- The answer to a call that waits is still on its way, or in its cell. -/
  pending : ∀ (i : Nat) snd, l.port.sends[i]? = some snd → snd.phase = .waiting →
    i ∈ l.unanswered ∨ (∃ f, (some i, f) ∈ l.inbox) ∨ snd.cell ≠ none
  /-- Without a call in flight nothing is registered. -/
  empty : (∀ snd ∈ l.port.sends, snd.phase = .returned) → l.port.pendingSendOutcome = none

/-- A call takes the lock only when every earlier call has returned. -/
def Alone (l : GatewayLink) : LinkEvent → Prop
  | .acquire _ _ _ => ∀ snd ∈ l.port.sends, snd.phase = .returned
  | _ => True

/-! ## 3. What holds in every run -/

/-- The records of the wire and of the gateway agree. -/
structure Bookkept (l : GatewayLink) : Prop where
  answered : l.answers.map (·.1) ++ l.unanswered = l.written
  known : ∀ i ∈ l.written, i < l.port.sends.length
  ordered : l.written.Pairwise (· < ·)
  whole : l.port.wire = l.framesWritten
  tagged : ∀ e ∈ l.inbox, e.1 = none ↔ e.2.outcome? = none
  /-- The holder of the lock is the last call, and its frame is not written yet. -/
  holder : ∀ i, l.port.lock = some i → i + 1 = l.port.sends.length ∧ i ∉ l.written

/-- The frames of calls, by their numbers. -/
theorem framesOf_congr {sends sends' : List Send} {written : List Nat}
    (h : ∀ i ∈ written, (sends'[i]?).map Send.frame = (sends[i]?).map Send.frame) :
    (written.filterMap fun i => sends'[i]?.map Send.frame)
      = written.filterMap fun i => sends[i]?.map Send.frame :=
  List.filterMap_congr h

theorem modify_frame {sends : List Send} {g : Send → Send} (hg : ∀ snd, (g snd).frame = snd.frame)
    (i j : Nat) : ((sends.modify i g)[j]?).map Send.frame = (sends[j]?).map Send.frame := by
  rw [List.getElem?_modify]
  cases sends[j]? with
  | none => rfl
  | some snd =>
    by_cases hij : i = j
    · simp [hij, hg]
    · simp [hij]

/-- A frame does not touch the lock, the wire or what is registered. -/
theorem handleFrame_frame (f : GatewayFrame) (p : Port) : (handleFrame f p).lock = p.lock ∧
    (handleFrame f p).wire = p.wire ∧
    (handleFrame f p).pendingSendOutcome = p.pendingSendOutcome := by
  unfold handleFrame fulfillPendingOutcome
  cases hp : p.pendingSendOutcome <;> split_ifs <;> simp [Port.modifySend, updateGatewayState, hp]

/-- What is filled into a cell does not change the frame of its call. -/
theorem handleFrame_frames (f : GatewayFrame) (p : Port) (j : Nat) :
    ((handleFrame f p).sends[j]?).map Send.frame = (p.sends[j]?).map Send.frame := by
  have hfill : ∀ outcome (snd : Send), (snd.fill f outcome).frame = snd.frame := by
    intro outcome snd
    unfold Send.fill
    split <;> rfl
  rw [handleFrame_sends]
  split
  · exact modify_frame (hfill _) _ j
  · rfl

theorem length_handleFrame (f : GatewayFrame) (p : Port) :
    (handleFrame f p).sends.length = p.sends.length := by
  rw [handleFrame_sends]
  split
  · exact List.length_modify _ _ _
  · rfl

/-! ## 4. The steps of a call -/

theorem portStep_acquire {p p' : Port} {typeFull : UInt8} {recv3 body : List UInt8}
    (h : portStep p (.acquire typeFull recv3 body) = some p') :
    p.lock = none ∧ p' = registerSend typeFull recv3 body p := by
  simp only [portStep, Option.ite_none_right_eq_some, Option.some.injEq] at h
  exact ⟨h.1.1, h.2.symm⟩

/-- A call has written its frame. -/
def Port.sent (p : Port) (i : Nat) (snd : Send) : Port :=
  { p.modifySend i fun snd => { snd with phase := .waiting } with
    lock := none, wire := p.wire ++ [snd.frame] }

/-- The write of a call has failed. -/
def Port.unsent (p : Port) (i : Nat) : Port :=
  { finishSend i (fun snd => { snd with cell := some .usbError }) p with lock := none }

theorem portStep_write {p p' : Port} {i : Nat} {ok : Bool}
    (h : portStep p (.write i ok) = some p') : ∃ snd, p.sends[i]? = some snd ∧ p.lock = some i ∧
      p' = if ok then p.sent i snd else p.unsent i := by
  simp only [portStep] at h
  split at h
  · next snd hsnd =>
    split at h
    · next hlock =>
      refine ⟨snd, hsnd, hlock, ?_⟩
      cases ok <;> exact (Option.some.inj h).symm
    · cases h
  · cases h

theorem sends_sent (p : Port) (i : Nat) (snd : Send) : (p.sent i snd).sends
    = p.sends.modify i fun snd => { snd with phase := .waiting } := rfl

theorem sends_unsent (p : Port) (i : Nat) : (p.unsent i).sends
    = p.sends.modify i fun snd => { snd with cell := some .usbError, phase := .returned } := rfl

theorem sends_finishSend (i : Nat) (f : Send → Send) (p : Port) : (finishSend i f p).sends
    = p.sends.modify i fun snd => { f snd with phase := .returned } := rfl

theorem portStep_wake {p p' : Port} {i : Nat} (h : portStep p (.wake i) = some p') :
    ∃ snd, p.sends[i]? = some snd ∧ p.lock = none ∧ snd.phase = .waiting ∧ snd.cell ≠ none ∧
      p' = finishSend i id p := by
  simp only [portStep] at h
  split at h
  · next snd hsnd =>
    simp only [Option.ite_none_right_eq_some, Option.some.injEq] at h
    exact ⟨snd, hsnd, h.1.1, h.1.2.1, h.1.2.2, h.2.symm⟩
  · cases h

/-- The gateway's answers are outcomes. -/
theorem GatewayFrame.IsAnswer.outcome {f : GatewayFrame} (h : f.IsAnswer) : f.outcome? ≠ none := by
  unfold GatewayFrame.outcome?
  rcases h with h | h
  · rw [if_pos h]
    exact Option.some_ne_none _
  · rw [h]
    exact Option.some_ne_none _

/-- A step of the port that leaves the wire and the frames of the calls alone. -/
theorem Bookkept.setPort {l : GatewayLink} (hl : Bookkept l) {p : Port}
    (hwire : p.wire = l.port.wire) (hlength : l.port.sends.length ≤ p.sends.length)
    (hframes : ∀ i ∈ l.written, (p.sends[i]?).map Send.frame = (l.port.sends[i]?).map Send.frame)
    (hholder : ∀ i, p.lock = some i → i + 1 = p.sends.length ∧ i ∉ l.written) :
    Bookkept { l with port := p } :=
  { hl with
    known := fun i hi => Nat.lt_of_lt_of_le (hl.known i hi) hlength
    whole := hwire.trans (hl.whole.trans (framesOf_congr hframes).symm)
    holder := hholder }

theorem bookkept_acquire {l : GatewayLink} (hl : Bookkept l) (typeFull : UInt8)
    (recv3 body : List UInt8) :
    Bookkept { l with port := registerSend typeFull recv3 body l.port } := by
  refine hl.setPort rfl (by simp [registerSend]) (fun i hi => ?_) fun i hi => ?_
  · rw [registerSend, List.getElem?_append_left (hl.known i hi)]
  · obtain rfl : l.port.sends.length = i := by simpa [registerSend] using hi
    refine ⟨by simp [registerSend], fun hmem => ?_⟩
    exact absurd (hl.known _ hmem) (Nat.lt_irrefl _)

/-- The call that is written now is the last one, and its frame goes behind the others. -/
theorem bookkept_sent {l : GatewayLink} (hl : Bookkept l) {i : Nat} {snd : Send}
    (hsnd : l.port.sends[i]? = some snd) (hlock : l.port.lock = some i) :
    Bookkept { l with
      port := l.port.sent i snd, written := l.written ++ [i]
      unanswered := l.unanswered ++ [i] } := by
  obtain ⟨hlast, hnew⟩ := hl.holder i hlock
  have hlt : ∀ j ∈ l.written, j < i := by
    intro j hj
    have hjlt := hl.known j hj
    have hne : j ≠ i := fun hji => hnew (hji ▸ hj)
    omega
  have hframes : ∀ j : Nat, ((l.port.sent i snd).sends[j]?).map Send.frame
      = (l.port.sends[j]?).map Send.frame := by
    intro j
    rw [sends_sent]
    exact modify_frame (g := fun snd => { snd with phase := .waiting }) (fun _ => rfl) i j
  constructor
  · simp [← hl.answered]
  · intro j hj
    simp only [sends_sent, List.length_modify]
    rcases List.mem_append.mp hj with hj | hj
    · exact hl.known j hj
    · rw [List.mem_singleton.mp hj]
      omega
  · refine List.pairwise_append.mpr ⟨hl.ordered, List.pairwise_singleton _ _, ?_⟩
    intro j hj k hk
    rw [List.mem_singleton.mp hk]
    exact hlt j hj
  · simp only [GatewayLink.framesWritten, hframes, List.filterMap_append]
    simp [Port.sent, hl.whole, GatewayLink.framesWritten, hsnd]
  · exact hl.tagged
  · nofun

/-- What the gateway says goes to the end of the inbox, with the call it answers if it does. -/
theorem tagged_append {inbox : List (Option Nat × GatewayFrame)}
    (h : ∀ e ∈ inbox, e.1 = none ↔ e.2.outcome? = none) {tag : Option Nat} {f : GatewayFrame}
    (hf : tag = none ↔ f.outcome? = none) :
    ∀ e ∈ inbox ++ [(tag, f)], e.1 = none ↔ e.2.outcome? = none := by
  intro e he
  rcases List.mem_append.mp he with he | he
  · exact h e he
  · rw [List.mem_singleton.mp he]
    exact hf

theorem bookkept_read {l : GatewayLink} (hl : Bookkept l) {tag : Option Nat} {f : GatewayFrame}
    {rest : List (Option Nat × GatewayFrame)} (hinbox : l.inbox = (tag, f) :: rest) :
    Bookkept { l with port := handleFrame f l.port, inbox := rest } := by
  have htail : Bookkept { l with inbox := rest } :=
    { hl with tagged := fun e he => hl.tagged e (hinbox ▸ List.mem_cons_of_mem _ he) }
  obtain ⟨hlock, hwire, -⟩ := handleFrame_frame f l.port
  refine htail.setPort hwire (Nat.le_of_eq (length_handleFrame f l.port).symm)
    (fun i _ => handleFrame_frames f l.port i) fun i hi => ?_
  rw [length_handleFrame]
  exact hl.holder i (hlock ▸ hi)

/-- **The records agree in every run**: frames are written whole and in the order in which their
calls took the lock, however the calls overlap. -/
theorem bookkept_step {l l' : GatewayLink} {e : LinkEvent} (hl : Bookkept l)
    (h : linkStep l e = some l') : Bookkept l' := by
  cases e with
  | acquire typeFull recv3 body =>
    obtain ⟨p, hp, rfl⟩ := Option.map_eq_some_iff.mp h
    obtain ⟨-, rfl⟩ := portStep_acquire hp
    exact bookkept_acquire hl typeFull recv3 body
  | write i ok =>
    obtain ⟨p, hp, rfl⟩ := Option.map_eq_some_iff.mp h
    obtain ⟨snd, hsnd, hlock, rfl⟩ := portStep_write hp
    cases ok with
    | true => exact bookkept_sent hl hsnd hlock
    | false =>
      refine hl.setPort rfl (by simp [sends_unsent]) (fun j _ => ?_) nofun
      exact modify_frame (g := fun snd => { snd with cell := some .usbError, phase := .returned })
        (fun _ => rfl) i j
  | wake i =>
    obtain ⟨p, hp, rfl⟩ := Option.map_eq_some_iff.mp h
    obtain ⟨snd, -, hlock, -, -, rfl⟩ := portStep_wake hp
    refine hl.setPort rfl (by simp [sends_finishSend]) (fun j _ => ?_) fun j hj => ?_
    · exact modify_frame (g := fun snd => { snd with phase := .returned }) (fun _ => rfl) i j
    · have hnone : (finishSend i id l.port).lock = none := hlock
      rw [hnone] at hj
      cases hj
  | answer f =>
    simp only [linkStep] at h
    split at h
    · next i rest hrest =>
      simp only [Option.ite_none_right_eq_some, Option.some.injEq] at h
      obtain ⟨hf, rfl⟩ := h
      refine { hl with answered := ?_, tagged := tagged_append hl.tagged ?_ }
      · rw [← hl.answered, hrest]
        simp
      · exact iff_of_false (Option.some_ne_none _) hf.outcome
    · cases h
  | other f =>
    simp only [linkStep, Option.ite_none_right_eq_some, Option.some.injEq] at h
    obtain ⟨hf, rfl⟩ := h
    exact { hl with tagged := tagged_append hl.tagged (iff_of_true rfl hf) }
  | read =>
    simp only [linkStep] at h
    split at h
    · next tag f rest hinbox =>
      simp only [Option.ite_none_right_eq_some, Option.some.injEq] at h
      obtain ⟨-, rfl⟩ := h
      exact bookkept_read hl hinbox
    · cases h

/-! ## 5. One call at a time -/

/-- The answers that are on their way. -/
def GatewayLink.onTheWay (l : GatewayLink) : List (Option Nat × GatewayFrame) :=
  l.inbox.filter fun e => e.1.isSome

/-- Where the answer to the frame of the one call `i` is: not given, on its way, or in the cell. -/
def AnswerPlace (l : GatewayLink) (i : Nat) (snd : Send) : Prop :=
  (l.unanswered = [i] ∧ l.onTheWay = [] ∧ snd.cell = none) ∨
    ∃ f, (i, f) ∈ l.answers ∧ l.unanswered = [] ∧
      ((l.onTheWay = [(some i, f)] ∧ snd.cell = none) ∨
        (l.onTheWay = [] ∧ snd.cell ≠ none ∧ snd.cell = f.outcome?))

/-- All calls before `n` have returned with what is due to them. -/
def ServedBefore (l : GatewayLink) (n : Nat) : Prop :=
  ∀ (i : Nat) snd, i < n → l.port.sends[i]? = some snd → Served l i snd

/-- The stages of a transport with one call at a time. -/
inductive OneAtATime (l : GatewayLink) : Prop where
  /-- No call is in flight. -/
  | idle (served : ServedBefore l l.port.sends.length) (lock : l.port.lock = none)
      (slot : l.port.pendingSendOutcome = none) (unanswered : l.unanswered = [])
      (quiet : l.onTheWay = [])
  /-- The last call holds the lock. -/
  | writing (i : Nat) (snd : Send) (last : l.port.sends.length = i + 1)
      (call : l.port.sends[i]? = some snd) (served : ServedBefore l i)
      (lock : l.port.lock = some i) (slot : l.port.pendingSendOutcome = some i)
      (phase : snd.phase = .writing) (cell : snd.cell = none) (unanswered : l.unanswered = [])
      (quiet : l.onTheWay = [])
  /-- The last call waits. -/
  | waiting (i : Nat) (snd : Send) (last : l.port.sends.length = i + 1)
      (call : l.port.sends[i]? = some snd) (served : ServedBefore l i)
      (lock : l.port.lock = none) (slot : l.port.pendingSendOutcome = some i)
      (phase : snd.phase = .waiting) (written : i ∈ l.written) (place : AnswerPlace l i snd)

/-- The last of the calls, where the others have returned. -/
theorem eq_last_of_inFlight {l : GatewayLink} {i j : Nat} {snd : Send}
    (hserved : ServedBefore l i) (hlast : l.port.sends.length = i + 1)
    (hsnd : l.port.sends[j]? = some snd) (hphase : snd.phase ≠ .returned) : j = i := by
  have hlt : j < l.port.sends.length := (List.getElem?_eq_some_iff.mp hsnd).1
  rcases Nat.lt_or_ge j i with hji | hji
  · exact absurd (hserved j snd hji hsnd).1 hphase
  · omega

/-- With one call in flight, the last, the promise is about the others and about its answer. -/
theorem sendsServed_of_last {l : GatewayLink} (hbook : Bookkept l) {i : Nat} {call : Send}
    (hlast : l.port.sends.length = i + 1) (hcall : l.port.sends[i]? = some call)
    (hserved : ServedBefore l i) (hflight : call.phase ≠ .returned)
    (hpending : call.phase = .waiting →
      i ∈ l.unanswered ∨ (∃ f, (some i, f) ∈ l.inbox) ∨ call.cell ≠ none) : SendsServed l := by
  have honly : ∀ (j : Nat) snd, l.port.sends[j]? = some snd → snd.phase ≠ .returned → j = i :=
    fun j snd hsnd => eq_last_of_inFlight hserved hlast hsnd
  refine ⟨?_, hbook.whole, hbook.ordered, ?_, ?_, ?_⟩
  · intro j k snd snd' hsnd hsnd' hphase hphase'
    rw [honly j snd hsnd hphase, honly k snd' hsnd' hphase']
  · intro j snd hsnd hphase
    have hlt : j < l.port.sends.length := (List.getElem?_eq_some_iff.mp hsnd).1
    have hne : j ≠ i := by
      rintro rfl
      rw [hcall, Option.some.injEq] at hsnd
      exact hflight (hsnd ▸ hphase)
    exact hserved j snd (by omega) hsnd
  · intro j snd hsnd hphase
    have hji : j = i := honly j snd hsnd (by rw [hphase]; nofun)
    subst hji
    rw [hcall, Option.some.injEq] at hsnd
    subst hsnd
    exact hpending hphase
  · intro hall
    exact absurd (hall call (List.mem_of_getElem? hcall)) hflight

/-- **What one call at a time gives**. -/
theorem OneAtATime.sendsServed {l : GatewayLink} (hbook : Bookkept l) (h : OneAtATime l) :
    SendsServed l := by
  cases h with
  | idle served lock slot unanswered quiet =>
    have hall : ∀ (i : Nat) snd, l.port.sends[i]? = some snd → Served l i snd :=
      fun i snd hsnd => served i snd (List.getElem?_eq_some_iff.mp hsnd).1 hsnd
    refine ⟨?_, hbook.whole, hbook.ordered, fun i snd hsnd _ => hall i snd hsnd, ?_, fun _ => slot⟩
    · intro i j snd snd' hsnd _ hphase
      exact absurd (hall i snd hsnd).1 hphase
    · intro i snd hsnd hphase
      rw [(hall i snd hsnd).1] at hphase
      cases hphase
  | writing i call last hcall served lock slot phase cell unanswered quiet =>
    refine sendsServed_of_last hbook last hcall served (by rw [phase]; nofun) ?_
    intro hwaiting
    rw [phase] at hwaiting
    cases hwaiting
  | waiting i call last hcall served lock slot phase written place =>
    refine sendsServed_of_last hbook last hcall served (by rw [phase]; nofun) fun _ => ?_
    rcases place with ⟨hun, -, -⟩ | ⟨f, -, -, ⟨hway, -⟩ | ⟨-, hcell, -⟩⟩
    · exact Or.inl (by rw [hun]; exact List.mem_singleton_self i)
    · have hmem : (some i, f) ∈ l.onTheWay := by
        rw [hway]
        exact List.mem_singleton_self _
      exact Or.inr (Or.inl ⟨f, List.mem_of_mem_filter hmem⟩)
    · exact Or.inr (Or.inr hcell)

/-- What is due to earlier calls does not change when they stay as they are. -/
theorem ServedBefore.congr {l l' : GatewayLink} {n : Nat} (h : ServedBefore l n)
    (hsends : ∀ i < n, l'.port.sends[i]? = l.port.sends[i]?)
    (hwritten : ∀ i < n, i ∈ l'.written ↔ i ∈ l.written)
    (hanswers : ∀ e ∈ l.answers, e ∈ l'.answers) : ServedBefore l' n := by
  intro i snd hi hsnd
  obtain ⟨hphase, hdue⟩ := h i snd hi ((hsends i hi).symm.trans hsnd)
  refine ⟨hphase, ?_⟩
  by_cases hwrite : i ∈ l.written
  · rw [if_pos hwrite] at hdue
    obtain ⟨f, o, hf, ho, hcell⟩ := hdue
    rw [if_pos ((hwritten i hi).mpr hwrite)]
    exact ⟨f, o, hanswers _ hf, ho, hcell⟩
  · rw [if_neg hwrite] at hdue
    rw [if_neg fun hmem => hwrite ((hwritten i hi).mp hmem)]
    exact hdue

/-- One more call that has returned as it should. -/
theorem ServedBefore.succ {l : GatewayLink} {n : Nat} (h : ServedBefore l n) {snd : Send}
    (hsnd : l.port.sends[n]? = some snd) (hserved : Served l n snd) : ServedBefore l (n + 1) := by
  intro i snd' hi hsnd'
  rcases Nat.lt_succ_iff_lt_or_eq.mp hi with hlt | rfl
  · exact h i snd' hlt hsnd'
  · rw [hsnd, Option.some.injEq] at hsnd'
    exact hsnd' ▸ hserved

/-- Changing the call `i` leaves the earlier ones alone. -/
theorem getElem?_modify_of_lt {sends : List Send} {g : Send → Send} {i j : Nat} (h : j < i) :
    (sends.modify i g)[j]? = sends[j]? :=
  List.getElem?_modify_ne g sends (Nat.ne_of_gt h)

theorem getElem?_modify_self {sends : List Send} {g : Send → Send} {i : Nat} {snd : Send}
    (h : sends[i]? = some snd) : (sends.modify i g)[i]? = some (g snd) := by
  rw [List.getElem?_modify_eq, h]
  rfl

theorem onTheWay_append (l : GatewayLink) (e : Option Nat × GatewayFrame) :
    ({ l with inbox := l.inbox ++ [e] } : GatewayLink).onTheWay
      = l.onTheWay ++ bif e.1.isSome then [e] else [] := by
  unfold GatewayLink.onTheWay
  rw [List.filter_append, List.filter_singleton]

theorem oneAtATime_acquire {l : GatewayLink} (h : OneAtATime l)
    (hall : ∀ snd ∈ l.port.sends, snd.phase = .returned) (typeFull : UInt8)
    (recv3 body : List UInt8) :
    OneAtATime { l with port := registerSend typeFull recv3 body l.port } := by
  cases h with
  | idle served lock slot unanswered quiet =>
    refine .writing l.port.sends.length ⟨typeFull, recv3, body, .writing, none, none⟩ ?_ ?_ ?_ rfl
      rfl rfl rfl unanswered quiet
    · simp [registerSend]
    · simp [registerSend]
    · refine served.congr (fun i hi => ?_) (fun _ _ => Iff.rfl) fun _ he => he
      exact List.getElem?_append_left hi
  | writing i call last hcall served lock slot phase cell unanswered quiet =>
    have hreturned := hall call (List.mem_of_getElem? hcall)
    rw [phase] at hreturned
    cases hreturned
  | waiting i call last hcall served lock slot phase written place =>
    have hreturned := hall call (List.mem_of_getElem? hcall)
    rw [phase] at hreturned
    cases hreturned

theorem oneAtATime_write {l l' : GatewayLink} (hbook : Bookkept l) (h : OneAtATime l) {i : Nat}
    {ok : Bool} (hstep : linkStep l (.write i ok) = some l') : OneAtATime l' := by
  obtain ⟨p, hp, hl'⟩ := Option.map_eq_some_iff.mp hstep
  obtain ⟨snd, hsnd, hlock, rfl⟩ := portStep_write hp
  cases h with
  | idle served lock slot unanswered quiet => exact absurd (lock.symm.trans hlock) nofun
  | waiting j call last hcall served lock slot phase written place =>
    exact absurd (lock.symm.trans hlock) nofun
  | writing j call last hcall served lock slot phase cell unanswered quiet =>
    obtain rfl : j = i := Option.some.inj (lock.symm.trans hlock)
    obtain rfl : call = snd := Option.some.inj (hcall.symm.trans hsnd)
    obtain ⟨-, hnew⟩ := hbook.holder j hlock
    cases ok with
    | true =>
      subst hl'
      refine .waiting j { call with phase := .waiting } ?_ (getElem?_modify_self hcall) ?_ rfl slot
        rfl (List.mem_append_right _ (List.mem_singleton_self j)) (Or.inl ⟨?_, quiet, cell⟩)
      · simpa [sends_sent] using last
      · refine served.congr (fun k hk => getElem?_modify_of_lt hk) (fun k hk => ?_) fun _ he => he
        simp [Nat.ne_of_lt hk]
      · simp [unanswered]
    | false =>
      subst hl'
      have hlength : (l.port.unsent j).sends.length = j + 1 := by simpa [sends_unsent] using last
      have hbefore : ServedBefore { l with port := l.port.unsent j } j :=
        served.congr (fun k hk => getElem?_modify_of_lt hk) (fun _ _ => Iff.rfl) fun _ he => he
      refine .idle ?_ rfl rfl unanswered quiet
      simp only [Bool.false_eq_true, if_false, hlength]
      refine hbefore.succ (getElem?_modify_self hcall) ⟨rfl, ?_⟩
      rw [if_neg hnew]

theorem oneAtATime_wake {l l' : GatewayLink} (h : OneAtATime l) {i : Nat}
    (hstep : linkStep l (.wake i) = some l') : OneAtATime l' := by
  obtain ⟨p, hp, rfl⟩ := Option.map_eq_some_iff.mp hstep
  obtain ⟨snd, hsnd, hlock, hphase, hcell, rfl⟩ := portStep_wake hp
  have hflight : snd.phase ≠ .returned := by
    rw [hphase]
    nofun
  cases h with
  | idle served lock slot unanswered quiet =>
    have hlt := (List.getElem?_eq_some_iff.mp hsnd).1
    exact absurd (served i snd hlt hsnd).1 hflight
  | writing j call last hcall served lock slot phase cell unanswered quiet =>
    exact absurd (lock.symm.trans hlock) nofun
  | waiting j call last hcall served lock slot phase written place =>
    obtain rfl : i = j := eq_last_of_inFlight served last hsnd hflight
    obtain rfl : call = snd := Option.some.inj (hcall.symm.trans hsnd)
    rcases place with ⟨-, -, hnone⟩ | ⟨f, hf, hun, ⟨-, hnone⟩ | ⟨hway, -, hout⟩⟩
    · exact absurd hnone hcell
    · exact absurd hnone hcell
    · have hlength : (finishSend i id l.port).sends.length = i + 1 := by
        simpa [sends_finishSend] using last
      have hbefore : ServedBefore { l with port := finishSend i id l.port } i :=
        served.congr (fun k hk => getElem?_modify_of_lt hk) (fun _ _ => Iff.rfl) fun _ he => he
      obtain ⟨o, ho⟩ := Option.ne_none_iff_exists'.mp hcell
      refine .idle ?_ hlock rfl hun hway
      rw [hlength]
      refine hbefore.succ (getElem?_modify_self hcall) ⟨rfl, ?_⟩
      rw [if_pos written]
      exact ⟨f, o, hf, hout ▸ ho, ho⟩

theorem oneAtATime_answer {l l' : GatewayLink} (h : OneAtATime l) {f : GatewayFrame}
    (hstep : linkStep l (.answer f) = some l') : OneAtATime l' := by
  simp only [linkStep] at hstep
  split at hstep
  · next i rest hun =>
    split at hstep
    · cases hstep
      cases h with
      | idle served lock slot unanswered quiet => exact absurd (hun.symm.trans unanswered) nofun
      | writing j call last hcall served lock slot phase cell unanswered quiet =>
        exact absurd (hun.symm.trans unanswered) nofun
      | waiting j call last hcall served lock slot phase written place =>
        rcases place with ⟨hone, hway, hnone⟩ | ⟨g, -, hempty, -⟩
        · obtain ⟨rfl, rfl⟩ : i = j ∧ rest = [] := by simpa using hun.symm.trans hone
          refine .waiting i call last hcall ?_ lock slot phase written
            (Or.inr ⟨f, ?_, rfl, Or.inl ?_⟩)
          · exact served.congr (fun _ _ => rfl) (fun _ _ => Iff.rfl)
              fun _ he => List.mem_append_left _ he
          · exact List.mem_append_right _ (List.mem_singleton_self _)
          · refine ⟨?_, hnone⟩
            have happend := onTheWay_append l (some i, f)
            rw [hway] at happend
            exact happend
        · exact absurd (hun.symm.trans hempty) nofun
    · cases hstep
  · cases hstep

/-- A frame without an outcome changes nothing that the stages speak of. -/
theorem OneAtATime.of_quiet {l : GatewayLink} (h : OneAtATime l) {port : Port}
    {inbox : List (Option Nat × GatewayFrame)} (hsends : port.sends = l.port.sends)
    (hlock : port.lock = l.port.lock) (hslot : port.pendingSendOutcome = l.port.pendingSendOutcome)
    (hway : ({ l with port := port, inbox := inbox } : GatewayLink).onTheWay = l.onTheWay) :
    OneAtATime { l with port := port, inbox := inbox } := by
  have hserved : ∀ n, ServedBefore l n →
      ServedBefore { l with port := port, inbox := inbox } n := by
    intro n hn
    exact hn.congr (fun i _ => by rw [hsends]) (fun _ _ => Iff.rfl) fun _ he => he
  cases h with
  | idle served lock slot unanswered quiet =>
    refine .idle ?_ (hlock.trans lock) (hslot.trans slot) unanswered (hway.trans quiet)
    rw [hsends]
    exact hserved _ served
  | writing i call last hcall served lock slot phase cell unanswered quiet =>
    refine .writing i call ?_ ?_ (hserved i served) (hlock.trans lock) (hslot.trans slot) phase cell
      unanswered (hway.trans quiet)
    · rw [hsends, last]
    · rw [hsends, hcall]
  | waiting i call last hcall served lock slot phase written place =>
    refine .waiting i call ?_ ?_ (hserved i served) (hlock.trans lock) (hslot.trans slot) phase
      written ?_
    · rw [hsends, last]
    · rw [hsends, hcall]
    · unfold AnswerPlace at place ⊢
      rw [hway]
      exact place

theorem oneAtATime_read {l l' : GatewayLink} (hbook : Bookkept l) (h : OneAtATime l)
    (hstep : linkStep l .read = some l') : OneAtATime l' := by
  simp only [linkStep] at hstep
  split at hstep
  · next tag f rest hinbox =>
    simp only [Option.ite_none_right_eq_some, Option.some.injEq] at hstep
    obtain ⟨-, rfl⟩ := hstep
    obtain ⟨hlock, -, hslot⟩ := handleFrame_frame f l.port
    have htag : tag = none ↔ f.outcome? = none :=
      hbook.tagged (tag, f) (hinbox ▸ List.mem_cons_self)
    have hway : l.onTheWay = (bif tag.isSome then [(tag, f)] else [])
        ++ rest.filter fun e => e.1.isSome := by
      rw [GatewayLink.onTheWay, hinbox, List.filter_cons]
      cases tag <;> rfl
    cases tag with
    | none =>
      refine h.of_quiet ?_ hlock hslot hway.symm
      rw [handleFrame_sends, htag.mp rfl]
    | some j =>
      obtain ⟨o, ho⟩ := Option.ne_none_iff_exists'.mp fun hnone => nomatch htag.mpr hnone
      cases h with
      | idle served lock slot unanswered quiet => exact absurd (hway.symm.trans quiet) nofun
      | writing i call last hcall served lock slot phase cell unanswered quiet =>
        exact absurd (hway.symm.trans quiet) nofun
      | waiting i call last hcall served lock slot phase written place =>
        rcases place with ⟨-, hquiet, -⟩ | ⟨g, hg, hun, ⟨hone, hcell⟩ | ⟨hquiet, -, -⟩⟩
        · exact absurd (hway.symm.trans hquiet) nofun
        · -- the answer of the one call goes into its cell
          obtain ⟨⟨rfl, rfl⟩, hrest⟩ :
              (j = i ∧ f = g) ∧ (rest.filter fun e => e.1.isSome) = [] := by
            simpa using hway.symm.trans hone
          have hsends : (handleFrame f l.port).sends = l.port.sends.modify j (Send.fill f o) := by
            rw [handleFrame_sends, ho, slot]
          have hfill : call.fill f o = { call with cell := some o, answeredBy := some f } :=
            if_pos hcell
          refine .waiting j (call.fill f o) ?_ ?_ ?_ (hlock.trans lock) (hslot.trans slot) ?_
            written (Or.inr ⟨f, hg, hun, Or.inr ⟨hrest, ?_, ?_⟩⟩)
          · rw [hsends, List.length_modify, last]
          · rw [hsends]
            exact getElem?_modify_self hcall
          · refine served.congr (fun k hk => ?_) (fun _ _ => Iff.rfl) fun _ he => he
            rw [hsends]
            exact getElem?_modify_of_lt hk
          · rw [hfill]
            exact phase
          · rw [hfill]
            exact Option.some_ne_none o
          · rw [hfill, ho]
        · exact absurd (hway.symm.trans hquiet) nofun
  · cases hstep

/-- **One step of one call at a time**. -/
theorem oneAtATime_step {l l' : GatewayLink} {e : LinkEvent} (hbook : Bookkept l)
    (h : OneAtATime l) (halone : Alone l e) (hstep : linkStep l e = some l') : OneAtATime l' := by
  cases e with
  | acquire typeFull recv3 body =>
    obtain ⟨p, hp, rfl⟩ := Option.map_eq_some_iff.mp hstep
    obtain ⟨-, rfl⟩ := portStep_acquire hp
    exact oneAtATime_acquire h halone typeFull recv3 body
  | write i ok => exact oneAtATime_write hbook h hstep
  | wake i => exact oneAtATime_wake h hstep
  | answer f => exact oneAtATime_answer h hstep
  | other f =>
    simp only [linkStep, Option.ite_none_right_eq_some, Option.some.injEq] at hstep
    obtain ⟨-, rfl⟩ := hstep
    refine h.of_quiet rfl rfl rfl ?_
    exact (onTheWay_append l (none, f)).trans (List.append_nil _)
  | read => exact oneAtATime_read hbook h hstep

/-- A call that takes the lock while another one waits puts two calls in flight. -/
theorem not_sendsServed_of_overlap {l l' : GatewayLink} {e : LinkEvent} (halone : ¬ Alone l e)
    (hstep : linkStep l e = some l') : ¬ SendsServed l' := by
  cases e with
  | acquire typeFull recv3 body =>
    obtain ⟨p, hp, rfl⟩ := Option.map_eq_some_iff.mp hstep
    obtain ⟨-, rfl⟩ := portStep_acquire hp
    simp only [Alone, not_forall] at halone
    obtain ⟨snd, hmem, hflight⟩ := halone
    obtain ⟨i, hi⟩ := List.mem_iff_getElem?.mp hmem
    have hlt := (List.getElem?_eq_some_iff.mp hi).1
    intro hserved
    have hsame := hserved.single i l.port.sends.length snd
      ⟨typeFull, recv3, body, .writing, none, none⟩
      ((List.getElem?_append_left hlt).trans hi) (by simp [registerSend]) hflight nofun
    omega
  | _ => exact absurd trivial halone

/-! ## 6. The runs that keep the promise -/

/-- **Which runs keep the promise of `_send_m2n`.**  With a gateway that answers every frame once
and in order, and no timeout, the promise holds throughout a run exactly when every call of the
run takes the lock after all earlier calls have returned. -/
theorem sendsServed_iff {es : List LinkEvent} {l : GatewayLink}
    (h : Lts.run linkSystem openedLink es = some l) :
    Lts.Throughout linkSystem SendsServed openedLink es ↔
      Lts.RunMeets linkSystem Alone openedLink es := by
  have hinit : Bookkept openedLink ∧ OneAtATime openedLink := by
    refine ⟨⟨rfl, nofun, .nil, rfl, nofun, nofun⟩, .idle ?_ rfl rfl rfl rfl⟩
    intro i snd hi
    exact absurd hi (Nat.not_lt_zero i)
  exact Lts.throughout_iff (I := fun l => Bookkept l ∧ OneAtATime l)
    (fun l hl => hl.2.sendsServed hl.1)
    (fun l e l' hl halone hstep =>
      ⟨bookkept_step hl.1 hstep, oneAtATime_step hl.1 hl.2 halone hstep⟩)
    (fun l e l' _ halone hstep => not_sendsServed_of_overlap halone hstep) hinit h

/-- Two sends, the second after the first has returned; a state event comes between. -/
def oneAfterTheOther : List LinkEvent :=
  [.acquire 0x04 [1, 2, 3] [1, 1, 7, 70], .write 0 true, .other ⟨evStateChanged, [1]⟩,
    .answer (busyRejection 0x04), .read, .read, .wake 0,
    .acquire 0x08 [1, 2, 3] [1, 1, 0], .write 1 true, .answer ⟨evTxDone, [10]⟩, .read, .wake 1]

theorem sendsServed_oneAfterTheOther : ∃ l,
    Lts.run linkSystem openedLink oneAfterTheOther = some l ∧
    l.port.sends.map (fun snd => (snd.phase, snd.cell))
      = [(.returned, some (.rejected 0x01)), (.returned, some .success)] ∧
    (Lts.Throughout linkSystem SendsServed openedLink oneAfterTheOther ↔
      Lts.RunMeets linkSystem Alone openedLink oneAfterTheOther) :=
  ⟨_, rfl, rfl, sendsServed_iff rfl⟩

/-- The second call takes the lock while the first one waits. -/
def overlapping : List LinkEvent :=
  [.acquire 0x04 [1, 2, 3] [1, 1, 7, 70], .write 0 true, .acquire 0x08 [1, 2, 3] [1, 1, 0],
    .write 1 true, .answer (busyRejection 0x04), .read, .wake 1, .answer ⟨evTxDone, [10]⟩, .read]

/-- The second call returns the rejection of the first frame, although the gateway has sent the
second one, and the first call waits for an outcome that has been handled. -/
theorem sendsServed_overlapping : ∃ l, Lts.run linkSystem openedLink overlapping = some l ∧
    l.answers.map (fun e => (e.1, e.2.outcome?))
      = [(0, some (.rejected 0x01)), (1, some .success)] ∧
    l.port.sends.map (fun snd => (snd.phase, snd.cell))
      = [(.waiting, none), (.returned, some (.rejected 0x01))] ∧
    l.unanswered = [] ∧ l.inbox = [] ∧ ¬ SendsServed l ∧
    ¬ Lts.Throughout linkSystem SendsServed openedLink overlapping := by
  refine ⟨_, rfl, rfl, rfl, rfl, rfl, fun hserved => ?_, fun hserved => ?_⟩
  · have hwaiting := hserved.pending 0 _ rfl rfl
    simp at hwaiting
  · -- the state in which both calls are in flight
    obtain ⟨-, h1⟩ := hserved
    obtain ⟨-, h2⟩ := h1 _ rfl
    obtain ⟨-, h3⟩ := h2 _ rfl
    obtain ⟨hboth, -⟩ := h3 _ rfl
    exact absurd (hboth.single 0 1 _ _ rfl rfl nofun nofun) nofun

end RaceLink
