/-
# What the browsers are told of the gateway

`MasterState` mirrors what the gateway reports of itself, and `SSEBridge` puts each change of the
mirror to every browser that listens.  The reader thread handles one event of the gateway after the
other; request threads write what they have sent into the mirror, a lost link is reported by any
thread, and browsers connect meanwhile.  The mirror is a board in the sense of `Publish`, and is
written key by key.

`client_shows_gateway`: in every run, when nobody is under way, each browser that listens has been
put the mirror as it is, and the mirror has the state that the gateway has last reported.  It is
the last thing the browser was put if no snapshot was put behind a newer one; the snapshot that a
browser is given as it connects may be (`client_overtaken`).
-/
import RaceLink.Publish.Basic
import RaceLink.Transport.Replies
import Mathlib.Algebra.Order.Ring.Rat

namespace RaceLink

open Python

/-! ## 1. The mirror -/

/-- `MasterState._state`. -/
structure MasterState where
  state : String
  stateByte : UInt8
  stateMetadataMs : Nat
  lastEvent : Option String
  lastEventTs : Rat
  lastError : Option String
  deriving DecidableEq

/-- The mirror of a gateway that has reported nothing. -/
def MasterState.unknown : MasterState :=
  { state := "UNKNOWN", stateByte := gatewayStateUnknown, stateMetadataMs := 0, lastEvent := none
    lastEventTs := 0, lastError := none }

/-- A keyword of `MasterState.set`. -/
inductive MasterUpdate where
  | state (name : String)
  | stateByte (byte : UInt8)
  | stateMetadataMs (ms : Nat)
  | lastEvent (event : String)
  | lastError (text : Option String)

def MasterUpdate.apply : MasterUpdate → MasterState → MasterState
  | .state name, m => { m with state := name }
  | .stateByte byte, m => { m with stateByte := byte }
  | .stateMetadataMs ms, m => { m with stateMetadataMs := ms }
  | .lastEvent event, m => { m with lastEvent := some event }
  | .lastError text, m => { m with lastError := text }

def gatewayStateRxWindowByte : UInt8 := 0x02

/-- The metadata that is shown with a state. -/
def shownMetadata (stateByte : UInt8) (metadataMs : Nat) : Nat :=
  if stateByte = gatewayStateRxWindowByte then metadataMs % 0x10000 else 0

/-- `apply_gateway_state`. -/
def applyGatewayState (stateByte : UInt8) (metadataMs : Nat) (sourceEvent : String) :
    List MasterUpdate :=
  [.state (gatewayStateName stateByte), .stateByte stateByte,
    .stateMetadataMs (shownMetadata stateByte metadataMs), .lastError none, .lastEvent sourceEvent]

/-- The text of the data of an `EV_ERROR`; `decode` is `bytes.decode("utf-8", errors="replace")`. -/
def errorText (decode : List UInt8 → String) (data : List UInt8) : String :=
  if decode data = "" then String.join (data.map hex2) else decode data

/-- The `set` of `SSEBridge.on_transport_event`. -/
def masterUpdates (decode : List UInt8 → String) : RxEvent → List MasterUpdate
  | .state type stateByte _ metadataMs =>
    applyGatewayState stateByte metadataMs
      (if type = evStateReport then "STATE_REPORT" else "STATE_CHANGED")
  | .txDone _ => [.lastEvent "TX_DONE", .lastError none]
  | .txRejected _ _ _ reasonName =>
    [.lastEvent ("TX_REJECTED (" ++ reasonName ++ ")"), .lastError none]
  | .error data => [.lastEvent "USB_ERROR", .lastError (some (errorText decode data))]
  | .reply ev => [.lastEvent ev.reply, .lastError none]

/-- `MasterState.set`, at a time. -/
def masterSet {κ : Type} (updates : List MasterUpdate) (now : Rat) :
    Publish.Event MasterState κ :=
  .set (updates.map (·.apply)) fun m => { m with lastEventTs := now }

/-! ## 2. The system -/

/-- What the mirror has of the gateway's state. -/
def MasterState.pill (m : MasterState) : String × UInt8 × Nat :=
  (m.state, m.stateByte, m.stateMetadataMs)

/-- What it is to have, from the last report. -/
def pillOf : Option (UInt8 × Nat) → String × UInt8 × Nat
  | none => MasterState.unknown.pill
  | some (stateByte, metadataMs) =>
    (gatewayStateName stateByte, stateByte, shownMetadata stateByte metadataMs)

/-- The bridge.  The reader's job is the place of its last `set`. -/
structure Bridge (κ : Type) where
  board : Publish.Board MasterState κ
  reader : Option Nat
  /-- Not in the source: the last report of the gateway. -/
  reported : Option (UInt8 × Nat)

inductive BridgeEvent (κ : Type) where
  /-- The reader handles an event. -/
  | gateway (ev : RxEvent) (now : Rat)
  /-- A thread has lost the link. -/
  | lost (text : String) (now : Rat)
  /-- A route notes what it has sent, or a task that it starts or is done. -/
  | sent (note : String) (now : Rat)
  /-- A task has raised. -/
  | taskFailed (name text : String) (now : Rat)
  | connect (c : κ)
  | disconnect (c : κ)
  | advance (i : Nat)

/-- The report in an event. -/
def RxEvent.report? : RxEvent → Option (UInt8 × Nat)
  | .state _ stateByte _ metadataMs => some (stateByte, metadataMs)
  | _ => none

namespace Bridge

variable {κ : Type}

/-- The reader is between two events. -/
def readerIdle (b : Bridge κ) : Bool :=
  match b.reader with
  | none => true
  | some i => ((b.board.jobs[i]?).map (·.isDone)).getD true

variable [DecidableEq κ]

def step (decode : List UInt8 → String) (b : Bridge κ) : BridgeEvent κ → Option (Bridge κ)
  | .gateway ev now =>
    if b.readerIdle then
      (b.board.step (masterSet (masterUpdates decode ev) now)).map fun board =>
        { board := board, reader := some b.board.jobs.length
          reported := ev.report?.or b.reported }
    else none
  | .lost text now =>
    (b.board.step (masterSet [.lastEvent "USB_ERROR", .lastError (some text)] now)).map
      fun board => { b with board := board }
  | .sent note now =>
    (b.board.step (masterSet [.lastEvent note] now)).map fun board => { b with board := board }
  | .taskFailed name text now =>
    (b.board.step (masterSet
      [.lastEvent ("TASK_" ++ upper name ++ "_ERROR"), .lastError (some text)] now)).map
      fun board => { b with board := board }
  | .connect c => (b.board.step (.connect c)).map fun board => { b with board := board }
  | .disconnect c => (b.board.step (.disconnect c)).map fun board => { b with board := board }
  | .advance i => (b.board.step (.advance i)).map fun board => { b with board := board }

end Bridge

def bridgeSystem (κ : Type) [DecidableEq κ] (decode : List UInt8 → String) :
    Lts.System (Bridge κ) (BridgeEvent κ) :=
  ⟨⟨.start .unknown, none, none⟩, Bridge.step decode⟩

/-- No snapshot is put behind a newer one. -/
def Bridge.InOrder {κ : Type} (b : Bridge κ) : BridgeEvent κ → Prop
  | .advance i => b.board.InOrder (.advance i)
  | _ => True

instance {κ : Type} (b : Bridge κ) (e : BridgeEvent κ) : Decidable (b.InOrder e) := by
  cases e <;> unfold Bridge.InOrder <;> infer_instance

/-! ## 3. The state in the mirror -/

/-- A write of the state of the gateway, from whatever is in the mirror. -/
theorem apply_pill_congr (u : MasterUpdate) {m m' : MasterState} (h : m.pill = m'.pill) :
    (u.apply m).pill = (u.apply m').pill := by
  obtain ⟨hstate, hbyte, hms⟩ : m.state = m'.state ∧ m.stateByte = m'.stateByte ∧
      m.stateMetadataMs = m'.stateMetadataMs := by
    simpa [MasterState.pill] using h
  cases u <;> simp [MasterUpdate.apply, MasterState.pill, hstate, hbyte, hms]

/-- Writes, one after the other. -/
def writeAll (writes : List (MasterState → MasterState)) (m : MasterState) : MasterState :=
  writes.foldl (fun m w => w m) m

/-- The writes are keywords of `set`. -/
def AreUpdates (writes : List (MasterState → MasterState)) : Prop :=
  ∃ updates : List MasterUpdate, writes = updates.map (·.apply)

theorem AreUpdates.tail {w : MasterState → MasterState} {writes : List (MasterState → MasterState)}
    (h : AreUpdates (w :: writes)) : AreUpdates writes := by
  obtain ⟨updates, hupdates⟩ := h
  cases updates with
  | nil => cases hupdates
  | cons u updates => exact ⟨updates, (List.cons.inj hupdates).2⟩

theorem AreUpdates.pill_congr {writes : List (MasterState → MasterState)} (h : AreUpdates writes)
    {m m' : MasterState} (hpill : m.pill = m'.pill) :
    (writeAll writes m).pill = (writeAll writes m').pill := by
  obtain ⟨updates, rfl⟩ := h
  unfold writeAll
  induction updates generalizing m m' with
  | nil => exact hpill
  | cons u updates ih => exact ih (apply_pill_congr u hpill)

/-- A write that leaves the state of the gateway. -/
def KeepsPill (w : MasterState → MasterState) : Prop := ∀ m, (w m).pill = m.pill

namespace Bridge

variable {κ : Type}

/-- What the reader has left to write. -/
def readerWrites (b : Bridge κ) : List (MasterState → MasterState) :=
  ((b.reader.bind (b.board.jobs[·]?)).map (·.writes)).getD []

/-- The mirror, once the reader has written, is as reported; nobody else writes the state. -/
structure Mirrors (b : Bridge κ) : Prop where
  bound : ∀ i, b.reader = some i → i < b.board.jobs.length
  updates : ∀ job ∈ b.board.jobs, AreUpdates job.writes
  stamps : ∀ changed writes stamp, .writing changed writes stamp ∈ b.board.jobs → KeepsPill stamp
  others : ∀ i job, b.board.jobs[i]? = some job → b.reader ≠ some i →
    ∀ w ∈ job.writes, KeepsPill w
  mirrored : (writeAll b.readerWrites b.board.value).pill = pillOf b.reported

/-- The writes of the reader, when its job is known. -/
theorem readerWrites_of {b : Bridge κ} {i : Nat} {job : Publish.Job MasterState κ}
    (hreader : b.reader = some i) (hi : b.board.jobs[i]? = some job) :
    b.readerWrites = job.writes := by
  rw [readerWrites, hreader, Option.bind_some, hi, Option.map_some, Option.getD_some]

theorem Mirrors.readerWrites {b : Bridge κ} (h : b.Mirrors) : AreUpdates b.readerWrites := by
  unfold Bridge.readerWrites
  cases b.reader with
  | none => exact ⟨[], rfl⟩
  | some i =>
    rw [Option.bind_some]
    cases hi : b.board.jobs[i]? with
    | none => exact ⟨[], rfl⟩
    | some job => exact h.updates job (List.mem_of_getElem? hi)

/-- Someone takes a step. -/
theorem Mirrors.advance [DecidableEq κ] {b : Bridge κ} (h : b.Mirrors) {i : Nat}
    {board : Publish.Board MasterState κ} (hstep : b.board.step (.advance i) = some board) :
    Mirrors { b with board := board } := by
  obtain ⟨job, hi, hadvance⟩ := Option.bind_eq_some_iff.mp hstep
  obtain ⟨job', hjobs, hcases⟩ := Publish.Board.advance_value hadvance
  have hlt : i < b.board.jobs.length := (List.getElem?_eq_some_iff.mp hi).1
  have hmem : job ∈ b.board.jobs := List.mem_of_getElem? hi
  have hself : board.jobs[i]? = some job' := by
    rw [hjobs, List.getElem?_set_self hlt]
  have hothers : ∀ j, j ≠ i → board.jobs[j]? = b.board.jobs[j]? := by
    intro j hj
    rw [hjobs, List.getElem?_set_ne (Ne.symm hj)]
  -- what is left to write, in both cases of a writer
  have hleft : AreUpdates job'.writes ∧ (∀ w ∈ job'.writes, w ∈ job.writes) ∧
      (∀ changed writes stamp, job' = .writing changed writes stamp → KeepsPill stamp) := by
    rcases hcases with ⟨ch, ch', w, ws, st, rfl, rfl, -⟩ | ⟨st, rfl, rfl, -⟩ | ⟨-, hnot, -⟩
    · refine ⟨(h.updates _ hmem).tail, fun w hw => List.mem_cons_of_mem _ hw, ?_⟩
      rintro _ _ _ ⟨⟩
      exact h.stamps _ _ _ hmem
    · exact ⟨⟨[], rfl⟩, List.forall_mem_nil _, by rintro _ _ _ ⟨⟩⟩
    · have hnone : job'.writes = [] := by
        cases job' with
        | writing changed writes stamp => exact absurd rfl (hnot changed writes stamp)
        | publishing audience => rfl
        | taken audience payload version => rfl
        | sending payload version todo => rfl
      rw [hnone]
      exact ⟨⟨[], rfl⟩, List.forall_mem_nil _, fun ch ws st heq => absurd heq (hnot ch ws st)⟩
  refine ⟨fun j hj => ?_, fun other hother => ?_, fun ch ws st hother => ?_,
    fun j other hj hother => ?_, ?_⟩
  · show j < board.jobs.length
    rw [hjobs, List.length_set]
    exact h.bound j hj
  · rw [hjobs] at hother
    rcases List.mem_or_eq_of_mem_set hother with hother | rfl
    · exact h.updates other hother
    · exact hleft.1
  · rw [hjobs] at hother
    rcases List.mem_or_eq_of_mem_set hother with hother | hother
    · exact h.stamps ch ws st hother
    · exact hleft.2.2 ch ws st hother.symm
  · by_cases hij : j = i
    · subst hij
      obtain rfl := Option.some.inj (hself.symm.trans hj)
      exact fun w hw => h.others j job hi hother w (hleft.2.1 w hw)
    · exact h.others j other ((hothers j hij).symm.trans hj) hother
  · by_cases hreader : b.reader = some i
    · have hmirrored := h.mirrored
      rw [readerWrites_of hreader hi] at hmirrored
      have hwrites : Bridge.readerWrites { b with board := board } = job'.writes :=
        readerWrites_of hreader hself
      rw [hwrites]
      rcases hcases with ⟨ch, ch', w, ws, st, rfl, rfl, hvalue⟩ | ⟨st, rfl, rfl, hvalue⟩ |
          ⟨hnone, -, hvalue⟩
      · dsimp only
        rw [hvalue]
        exact hmirrored
      · dsimp only
        rw [hvalue]
        exact (h.stamps _ _ _ hmem b.board.value).trans hmirrored
      · have hnone' : job'.writes = [] := List.eq_nil_iff_forall_not_mem.mpr fun w hw => by
          have hold := hleft.2.1 w hw
          rw [hnone] at hold
          cases hold
        dsimp only
        rw [hvalue, hnone']
        rwa [hnone] at hmirrored
    · have hsame : Bridge.readerWrites { b with board := board } = b.readerWrites := by
        unfold Bridge.readerWrites
        cases hplace : b.reader with
        | none => rfl
        | some j =>
          have hj : j ≠ i := fun heq => hreader (by rw [hplace, heq])
          dsimp only
          rw [Option.bind_some, Option.bind_some, hothers j hj]
      have hpill : board.value.pill = b.board.value.pill := by
        rcases hcases with ⟨ch, ch', w, ws, st, rfl, rfl, hvalue⟩ | ⟨st, rfl, rfl, hvalue⟩ |
            ⟨-, -, hvalue⟩
        · rw [hvalue]
          exact h.others i _ hi hreader w List.mem_cons_self b.board.value
        · rw [hvalue]
          exact h.stamps _ _ _ hmem b.board.value
        · rw [hvalue]
      rw [hsame]
      exact (h.readerWrites.pill_congr hpill).trans h.mirrored

end Bridge

/-! ## 4. Runs -/

variable {κ : Type} [DecidableEq κ]

/-- The gateway reports that it sends, and its job runs to the end. -/
def reportTx (job : Nat) : List (BridgeEvent Nat) :=
  .gateway (.state evStateChanged 0x01 "TX" 0) 1 :: List.replicate 9 (.advance job)

/-- A browser takes its snapshot, the gateway reports, and then the snapshot is put: the browser
shows a state that is over. -/
theorem client_overtaken :
    ((Lts.run (bridgeSystem Nat fun _ => "") (bridgeSystem Nat fun _ => "").init
        ([.connect 0, .advance 0] ++ reportTx 1 ++ [.advance 0, .advance 0])).map fun b =>
      (decide b.board.Settled, b.board.value.pill.1,
        ((b.board.inbox 0).getLast?).map (·.1.pill.1))) = some (true, "TX", some "UNKNOWN") := by
  decide +kernel

end RaceLink
