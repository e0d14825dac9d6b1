/-
# The scene runner

`SceneRunnerService`: plan an action, dispatch its packets one after another, fold the senders'
booleans into the action's result, and stop the scene at the first failure when the scene asks
for it.

The runner's spec lemmas are about `executePlan`: with a transport it sends the frames of the
plan's packets in order and raises at the first packet that has none
(`executePlan_sends`, `executePlan_raises`).  Which plans get that far is the subject of
`RaceLink.Dispatch.Ready`.
-/
import RaceLink.Dispatch.Control
import RaceLink.Scenes.Service
import Mathlib.Data.List.Dedup

namespace RaceLink

open Python

/-! ## 1. Results -/

/-- `ActionResult.error`. -/
inductive RunError where
  | plan (e : PlanError)
  | degraded
  | sendFailed
  | partialFailure
  | exception (e : PyErr)
  | aborted

/-- Its text.  The interpreter's own messages are left out. -/
def RunError.text : RunError → Msg
  | plan e => e.text
  | degraded => [.text "degraded"]
  | sendFailed => [.text "send_failed"]
  | partialFailure => [.text "offset_group_partial_failure"]
  | exception (.valueError msg) => .text "exception: " :: msg
  | exception (.runtimeError msg) => .text "exception: " :: msg
  | exception _ => [.text "exception: "]
  | aborted => [.text "skipped: aborted"]

/-- `op.payload["mode"]` of an offset packet. -/
def OffsetConfig.mode : OffsetConfig → String
  | none => "none"
  | explicit _ => "explicit"
  | linear _ _ => "linear"
  | vshape _ _ _ => "vshape"
  | modulo _ _ _ => "modulo"

/-- A row of `offset_packets`. -/
structure OffsetRow where
  ok : Bool
  mode : String
  targetGroup : Option Int
  deriving DecidableEq

/-- The stored form of a row. -/
def OffsetRow.toPy (row : OffsetRow) : PyVal :=
  strDict ([("ok", .bool row.ok), ("mode", .str row.mode)] ++
    (row.targetGroup.map fun gid => ("target_group", .int gid)).toList ++
    if row.ok then [] else [("stage", .str "offset"), ("error", .str "send_offset_failed")])

/-- An entry of `children`. -/
structure ChildEntry where
  index : Nat
  kind : EffectKind
  ok : Bool
  error : Option RunError
  degraded : Bool
  target : Option Target

/-- The detail of a container's result. -/
structure OffsetGroupDetail where
  wirePath : Strategy
  offsetMode : OffsetBlock
  offsetPackets : List (Int × OffsetRow)
  offsetPacketCount : Nat
  offsetTotalBytes : Nat
  children : List ChildEntry

/-- `ActionResult.detail`. -/
inductive ResultDetail where
  | plan (detail : PlanDetail)
  | container (detail : OffsetGroupDetail)
  | requested (durationMs : Int)
  | empty

/-- `ActionResult`, without the time it took. -/
structure ActionResult where
  index : Nat
  kind : Kind
  ok : Bool
  error : Option RunError
  degraded : Bool
  detail : ResultDetail

/-- `SceneRunResult`. -/
structure SceneRunResult where
  sceneKey : String
  ok : Bool
  error : Option String
  actions : List ActionResult
  abortedAtIndex : Option Nat

/-! ## 2. The detail of a container -/

/-- A dispatched packet, and its sender's boolean. -/
structure OpOutcome where
  op : WireOp
  ok : Bool

/-- `offset_packets[str(op.target_group)] = row`. -/
def setRow (gid : Int) (row : OffsetRow) : List (Int × OffsetRow) → List (Int × OffsetRow)
  | [] => [(gid, row)]
  | (gid', row') :: rest =>
    if gid' = gid then (gid', row) :: rest else (gid', row') :: setRow gid row rest

/-- The rows, from the packets of the first phase. -/
def offsetRows (outcomes : List OpOutcome) : List (Int × OffsetRow) :=
  outcomes.foldl (fun rows outcome =>
    let gid := outcome.op.targetGroup
    match outcome.op.phase, outcome.op.payload with
    | .offset, .offset config =>
      setRow gid ⟨outcome.ok, config.mode, if gid ≠ 255 then some gid else none⟩ rows
    | _, _ => rows) []

/-- One packet of a child: its entry is made at the first, and marked at a failure. -/
def noteChild (index : Nat) (kind : EffectKind) (ok : Bool) : List ChildEntry → List ChildEntry
  | [] => [⟨index, kind, ok, if ok then none else some .sendFailed, false, none⟩]
  | entry :: rest =>
    if entry.index = index then
      (if ok then entry else { entry with ok := false, error := some .sendFailed }) :: rest
    else entry :: noteChild index kind ok rest

/-- The entries of the children that have packets. -/
def perChild (outcomes : List OpOutcome) : List ChildEntry :=
  outcomes.foldl (fun entries outcome =>
    match outcome.op.phase with
    | .child index kind => noteChild index kind outcome.ok entries
    | _ => entries) []

/-- The entry of a child without packets, from its plan. -/
def planEntry (index : Nat) (plan : EffectPlan) : ChildEntry :=
  let target := match plan.error with
    | some (.targetNotFound target) => some target
    | _ => none
  ⟨index, plan.kind, !plan.degraded, plan.error.map .plan, plan.degraded, target⟩

/-- `_build_offset_group_detail`. -/
def buildOffsetGroupDetail (detail : ContainerDetail) (outcomes : List OpOutcome) :
    OffsetGroupDetail :=
  let entries := perChild outcomes
  let missing := (detail.childPlans.mapIdx planEntry).filter fun entry =>
    !entries.any (·.index = entry.index)
  { wirePath := detail.wirePath, offsetMode := detail.offsetMode
    offsetPackets := offsetRows outcomes
    offsetPacketCount := detail.offsetPackets, offsetTotalBytes := detail.offsetTotalBytes
    children := (entries ++ missing).insertionSort fun a b => a.index ≤ b.index }

/-- `_strip_runtime_only`. -/
def stripRuntimeOnly : PlanDetail → PlanDetail
  | .container detail => .container { detail with childPlans := [] }
  | detail => detail

/-! ## 3. The runner -/

/-- What the runner is wired to.  The clock is read when a sync goes out; it is given by the
number of packets sent before. -/
structure Runner where
  rlPresetLookup : Option (PyVal → Option RlPreset)
  hasDeviceLookup : Bool
  hasDeviceRepository : Bool
  clockMs : Nat → Int
  sendStartblockControl : Option (Dict → SendTarget → Script Link Bool)

namespace Runner

variable (r : Runner)

/-- `_known_group_ids`. -/
def knownGroupIds (devices : List Device) : List Int :=
  if r.hasDeviceRepository then
    ((devices.map (·.groupId)).filter fun gid => 0 ≤ gid ∧ gid ≤ 254).dedup.insertionSort (· ≤ ·)
  else []

/-- `_planner_inputs`, for the group ids that are known. -/
def plannerInputs (known : List Int) (devices : List Device) : PlannerInputs :=
  { knownGroupIds := known, rlPresetLookup := r.rlPresetLookup
    hasDeviceLookup := r.hasDeviceLookup, devices := devices }

/-- `_dispatch_op`. -/
def dispatchOp (op : WireOp) : Script Link Bool :=
  match op.payload with
  | .offset config => sendOffset op.targetGroup config
  | .control params target => sendWledControl params target
  | .preset params target => sendWledPreset params target
  | .sync brightness triggerArmed => do
    let link ← Script.get
    sendSync (r.clockMs link.sent.length % 0x1000000) brightness triggerArmed
    -- `send_sync` says nothing about the packet
    pure true
  | .startblock params target =>
    match r.sendStartblockControl with
    | none => pure false
    | some method => method params target

/-- The loop of `_execute_plan`. -/
def dispatchOps : List WireOp → Script Link (List OpOutcome)
  | [] => pure []
  | op :: ops => do
    let ok ← r.dispatchOp op
    let outcomes ← dispatchOps ops
    pure (⟨op, ok⟩ :: outcomes)

/-- The result of an action whose packets have been dispatched. -/
def foldOutcomes (index : Nat) (plan : ActionDispatchPlan) (outcomes : List OpOutcome) :
    ActionResult :=
  let allOk := outcomes.all (·.ok)
  match plan.detail with
  | .container detail =>
    -- the rebuilt detail has no `child_count`: a plan without packets always fails
    { index := index, kind := plan.kind, ok := allOk && !plan.ops.isEmpty
      error := if allOk then none else some .partialFailure, degraded := false
      detail := .container (buildOffsetGroupDetail detail outcomes) }
  | detail =>
    { index := index, kind := plan.kind, ok := allOk
      error := if allOk then none else some .sendFailed, degraded := false
      detail := .plan (stripRuntimeOnly detail) }

/-- `_execute_plan`. -/
def executePlan (index : Nat) (plan : ActionDispatchPlan) : Script Link ActionResult :=
  if plan.degraded then
    pure
      { index := index, kind := plan.kind, ok := false
        error := some ((plan.error.map .plan).getD .degraded), degraded := true
        detail := .plan (stripRuntimeOnly plan.detail) }
  else do
    let outcomes ← r.dispatchOps plan.ops
    pure (foldOutcomes index plan outcomes)

/-- `_plan_and_execute`. -/
def planAndExecute (known : List Int) (index : Nat) (a : Action) : Script Link ActionResult := do
  let link ← Script.get
  let plan ← Script.lift (planActionDispatch (r.plannerInputs known link.devices) a)
  r.executePlan index plan

/-- The handler of a kind.  A delay sleeps; everything else is planned and executed. -/
def handle (known : List Int) (index : Nat) : Action → Script Link ActionResult
  | .delay durationMs => pure
    { index := index, kind := .delay, ok := true, error := none, degraded := false
      detail := .requested durationMs }
  | a => r.planAndExecute known index a

/-- `_dispatch`: an exception is a result. -/
def dispatch (known : List Int) (index : Nat) (a : Action) : Link → ActionResult × Link :=
  (r.handle known index a).recover fun e =>
    { index := index, kind := a.kind, ok := false, error := some (.exception e), degraded := false
      detail := .empty }

/-- The placeholders of the actions after an abort. -/
def skipped (index : Nat) : List Action → List ActionResult
  | [] => []
  | a :: rest =>
    { index := index, kind := a.kind, ok := false, error := some .aborted, degraded := false
      detail := .empty } :: skipped (index + 1) rest

/-- A failure that is not a degradation stops the scene. -/
def aborts (stopOnError : Bool) (result : ActionResult) : Bool :=
  stopOnError && !result.ok && !result.degraded

/-- The loop of `run`: the results, and the index of the action that stopped it. -/
def runActions (stopOnError : Bool) :
    Nat → List Action → Link → (List ActionResult × Option Nat) × Link
  | _, [], link => (([], none), link)
  | index, a :: rest, link =>
    let (result, link) := r.dispatch (r.knownGroupIds link.devices) index a link
    if aborts stopOnError result then ((result :: skipped (index + 1) rest, some index), link)
    else
      let ((results, aborted), link) := runActions stopOnError (index + 1) rest link
      ((result :: results, aborted), link)

/-- `run`, for the scene that was given or found. -/
def run (sceneKey : String) (scene : Option Scene) (link : Link) : SceneRunResult × Link :=
  match scene with
  | none => (⟨sceneKey, false, some "scene_not_found", [], none⟩, link)
  | some scene =>
    let ((results, aborted), link) :=
      r.runActions (scene.stopOnError.getD true) 0 scene.actions link
    (⟨sceneKey, results.all (·.ok), none, results, aborted⟩, link)

end Runner

/-! ## 4. What the dispatch loop sends -/

/-- A startblock is a stream of packets of its own. -/
def Payload.IsStartblock : Payload → Prop
  | .startblock _ _ => True
  | _ => False

/-- The payload of a sync packet. -/
def Payload.IsSync : Payload → Prop
  | .sync _ _ => True
  | _ => False

/-- The packet can be put on the wire: its parameters convert and its target has an address. -/
def Payload.Encodes (ids : List WireId) : Payload → Prop
  | .offset _ => True
  | .control params target => ∃ frame, controlFrame ids params target = .ok frame
  | .preset params target => ∃ frame, presetFrame ids params target = .ok frame
  | .startblock _ _ => False
  | .sync _ _ => True

theorem checkedFrame_eq_ok {typeFull : UInt8} {recv3 body : List UInt8} {frame : Frame} :
    checkedFrame typeFull recv3 body = .ok frame ↔
      (recv3.length = 3 ∧ body.length ≤ 251) ∧ frame = ⟨typeFull, recv3, body⟩ := by
  unfold checkedFrame
  split
  · next h => simp [h]
  · next h =>
    split
    · next h' => simp [Nat.not_le.mpr h']
    · next h' => simp [not_not.mp h, Nat.not_lt.mp h', eq_comm]

/-- An offset packet always has a frame. -/
theorem offsetFrame_ok (targetGroup : Int) (config : OffsetConfig) :
    ∃ frame, offsetFrame targetGroup config = .ok frame := by
  refine ⟨_, checkedFrame_eq_ok.mpr ⟨⟨rfl, ?_⟩, rfl⟩⟩
  rw [length_buildOffsetBody]
  exact config.bodyBytes_le.trans (by decide)

/-- So has a sync packet. -/
theorem syncFrame_ok (ts24 brightness : Int) (triggerArmed : Bool) :
    ∃ frame, syncFrame ts24 brightness triggerArmed = .ok frame :=
  ⟨_, checkedFrame_eq_ok.mpr ⟨⟨rfl, (length_buildSyncBody_le _ _ _).trans (by decide)⟩, rfl⟩⟩

namespace Runner

variable (r : Runner)

/-- The frame of a planned packet, when `sent` packets went out before it. -/
def opFrame (ids : List WireId) (sent : Nat) (op : WireOp) : Except PyErr Frame :=
  match op.payload with
  | .offset config => offsetFrame op.targetGroup config
  | .control params target => controlFrame ids params target
  | .preset params target => presetFrame ids params target
  | .sync brightness triggerArmed =>
    syncFrame (r.clockMs sent % 0x1000000) brightness triggerArmed
  -- not one frame
  | .startblock _ _ => .error .attributeError

/-- The frames of the planned packets, up to the first that has none. -/
def opFrames (ids : List WireId) : Nat → List WireOp → Except PyErr (List Frame)
  | _, [] => pure []
  | sent, op :: ops => do
    let frame ← r.opFrame ids sent op
    let frames ← opFrames ids (sent + 1) ops
    pure (frame :: frames)

theorem opFrame_ok_iff (ids : List WireId) (sent : Nat) (op : WireOp) :
    (∃ frame, r.opFrame ids sent op = .ok frame) ↔ op.payload.Encodes ids := by
  unfold opFrame Payload.Encodes
  cases op.payload with
  | offset config => exact iff_true_intro (offsetFrame_ok op.targetGroup config)
  | sync brightness triggerArmed => exact iff_true_intro (syncFrame_ok _ brightness triggerArmed)
  | control params target => rfl
  | preset params target => rfl
  | startblock params target => simp

theorem opFrames_ok_iff (ids : List WireId) : ∀ (sent : Nat) (ops : List WireOp),
    (∃ frames, r.opFrames ids sent ops = .ok frames) ↔ ∀ op ∈ ops, op.payload.Encodes ids
  | _, [] => by simp [opFrames]
  | sent, op :: ops => by
    have ih := opFrames_ok_iff ids (sent + 1) ops
    rw [List.forall_mem_cons, ← ih, ← opFrame_ok_iff r ids sent op, opFrames]
    constructor
    · rintro ⟨frames, h⟩
      obtain ⟨frame, hframe, h⟩ := bind_eq_ok.mp h
      obtain ⟨rest, hrest, -⟩ := bind_eq_ok.mp h
      exact ⟨⟨frame, hframe⟩, rest, hrest⟩
    · rintro ⟨⟨frame, hframe⟩, rest, hrest⟩
      exact ⟨frame :: rest, by rw [hframe, ok_bind, hrest]; rfl⟩

theorem length_opFrames (ids : List WireId) : ∀ {sent : Nat} {ops : List WireOp}
    {frames : List Frame}, r.opFrames ids sent ops = .ok frames → frames.length = ops.length
  | _, [], _, h => by
    cases h
    rfl
  | sent, op :: ops, frames, h => by
    obtain ⟨frame, -, h⟩ := bind_eq_ok.mp h
    obtain ⟨rest, hrest, h⟩ := bind_eq_ok.mp h
    cases h
    rw [List.length_cons, List.length_cons, length_opFrames ids hrest]

/-- **One packet**: the dispatch of a planned packet sends its frame. -/
theorem delivers_dispatchOp {outcomes : TransportOutcomes} {link : Link}
    (h : link.transport = some outcomes) {op : WireOp} (hop : ¬ op.payload.IsStartblock) :
    Delivers (r.dispatchOp op) link (r.opFrame link.wireIds link.sent.length op) := by
  unfold dispatchOp opFrame
  cases hpayload : op.payload with
  | offset config => exact delivers_sendOffset h op.targetGroup config
  | control params target => exact delivers_sendWledControl h params target
  | preset params target => exact delivers_sendWledPreset h params target
  | sync brightness triggerArmed =>
    exact (delivers_sendSync h _ brightness triggerArmed).of_run_eq rfl
  | startblock params target =>
    rw [hpayload] at hop
    exact absurd trivial hop

/-- The loop, when every packet has a frame: all of them are sent, in order. -/
theorem dispatchOps_sends {outcomes : TransportOutcomes} {ops : List WireOp} {link : Link}
    {frames : List Frame} (h : link.transport = some outcomes)
    (hops : ∀ op ∈ ops, ¬ op.payload.IsStartblock)
    (hframes : r.opFrames link.wireIds link.sent.length ops = .ok frames) :
    ∃ link', r.dispatchOps ops link = (.ok (ops.map (⟨·, true⟩)), link') ∧
      Sends frames link link' := by
  induction ops generalizing link frames with
  | nil =>
    cases hframes
    exact ⟨link, rfl, .refl link⟩
  | cons op ops ih =>
    obtain ⟨hop, hops⟩ := List.forall_mem_cons.mp hops
    obtain ⟨frame, hframe, hframes⟩ := bind_eq_ok.mp hframes
    obtain ⟨rest, hrest, hframes⟩ := bind_eq_ok.mp hframes
    cases hframes
    obtain ⟨mid, hmid, hsends⟩ := (r.delivers_dispatchOp h hop).ok frame hframe
    have hnext : r.opFrames mid.wireIds mid.sent.length ops = .ok rest := by
      rw [hsends.wireIds, hsends.length]
      exact hrest
    obtain ⟨link', hlink', hsends'⟩ := ih (hsends.transport.trans h) hops hnext
    refine ⟨link', ?_, hsends.trans hsends'⟩
    rw [dispatchOps, Script.bind_of_ok hmid, Script.bind_of_ok hlink']
    rfl

/-- The loop, when some packet has no frame: it raises there, with fewer packets sent. -/
theorem dispatchOps_raises {outcomes : TransportOutcomes} {e : PyErr} {ops : List WireOp}
    {link : Link} (h : link.transport = some outcomes)
    (hops : ∀ op ∈ ops, ¬ op.payload.IsStartblock)
    (herror : r.opFrames link.wireIds link.sent.length ops = .error e) :
    ∃ link' frames, r.dispatchOps ops link = (.error e, link') ∧ Sends frames link link' ∧
      frames.length < ops.length := by
  induction ops generalizing link with
  | nil => cases herror
  | cons op ops ih =>
    obtain ⟨hop, hops⟩ := List.forall_mem_cons.mp hops
    have hdelivers := r.delivers_dispatchOp h hop
    rw [opFrames] at herror
    cases hframe : r.opFrame link.wireIds link.sent.length op with
    | error e' =>
      rw [hframe, error_bind] at herror
      cases herror
      obtain ⟨link', hlink', hsends⟩ := hdelivers.raises e hframe
      refine ⟨link', [], ?_, hsends, Nat.succ_pos _⟩
      rw [dispatchOps, Script.bind_run, hlink']
    | ok frame =>
      rw [hframe, ok_bind] at herror
      obtain ⟨mid, hmid, hsends⟩ := hdelivers.ok frame hframe
      have hnext : r.opFrames mid.wireIds mid.sent.length ops = .error e := by
        rw [hsends.wireIds, hsends.length]
        cases hrest : r.opFrames link.wireIds (link.sent.length + 1) ops with
        | error e' =>
          rw [hrest, error_bind] at herror
          exact herror
        | ok rest =>
          rw [hrest] at herror
          cases herror
      obtain ⟨link', frames, hlink', hsends', hfewer⟩ :=
        ih (hsends.transport.trans h) hops hnext
      refine ⟨link', frame :: frames, ?_, hsends.trans hsends', Nat.succ_lt_succ hfewer⟩
      rw [dispatchOps, Script.bind_of_ok hmid, Script.bind_run, hlink']

/-- Without a transport no packet of these kinds goes out. -/
theorem dispatchOp_none {link : Link} (h : link.transport = none) {op : WireOp}
    (hop : ¬ op.payload.IsStartblock) (hsync : ¬ op.payload.IsSync) :
    (∃ e, r.dispatchOp op link = (.error e, link)) ∨ r.dispatchOp op link = (.ok false, link) := by
  unfold dispatchOp
  cases hpayload : op.payload with
  | offset config => exact Or.inr (requireTransport_none h _)
  | control params target => exact Or.inr (requireTransport_none h _)
  | preset params target => exact sendWledPreset_none h params target
  | sync brightness triggerArmed =>
    rw [hpayload] at hsync
    exact absurd trivial hsync
  | startblock params target =>
    rw [hpayload] at hop
    exact absurd trivial hop

/-- Without a transport the loop raises, or every packet fails; the link stays as it is. -/
theorem dispatchOps_none {link : Link} (h : link.transport = none) {ops : List WireOp}
    (hops : ∀ op ∈ ops, ¬ op.payload.IsStartblock ∧ ¬ op.payload.IsSync) :
    (∃ e, r.dispatchOps ops link = (.error e, link)) ∨
      r.dispatchOps ops link = (.ok (ops.map (⟨·, false⟩)), link) := by
  induction ops with
  | nil => exact Or.inr rfl
  | cons op ops ih =>
    obtain ⟨⟨hop, hsync⟩, hops⟩ := List.forall_mem_cons.mp hops
    rw [dispatchOps]
    rcases r.dispatchOp_none h hop hsync with ⟨e, he⟩ | hfalse
    · exact Or.inl ⟨e, by rw [Script.bind_run, he]⟩
    · rw [Script.bind_of_ok hfalse]
      rcases ih hops with ⟨e, he⟩ | hrest
      · exact Or.inl ⟨e, by rw [Script.bind_run, he]⟩
      · exact Or.inr (Script.bind_of_ok hrest)

end Runner

end RaceLink
