/-
# The dispatch planner

`plan_action_dispatch`: the packets an action would send, from the action and what the host
knows.  The scene runner sends them, the cost estimator counts them.

A planned packet is a `WireOp`: whom it addresses, the arguments for its sender, and the length
of its body.  The sender is the payload's constructor.  Planning sizes the bodies, so it raises
where a parameter of an `OPC_CONTROL` does not convert; it does not look at the parameters of an
`OPC_PRESET`.
-/
import RaceLink.Domain.Flags
import RaceLink.Offset.Optimizer
import RaceLink.State.Repository

namespace RaceLink

open Python

/-! ## 1. What the planner is given -/

/-- A stored RL preset. -/
structure RlPreset where
  params : Dict
  flags : Dict
  key : PyVal
  id : PyVal

/-- The arguments of `plan_action_dispatch` beside the action.  A lookup can be missing; one that
raises counts as finding nothing. -/
structure PlannerInputs where
  knownGroupIds : List Int
  rlPresetLookup : Option (PyVal → Option RlPreset)
  hasDeviceLookup : Bool
  devices : List Device

/-- `device_lookup(addr)`: a device of the repository, by its place in it. -/
def PlannerInputs.deviceLookup (inp : PlannerInputs) (addr : String) : Option Nat :=
  if inp.hasDeviceLookup then getDeviceFromAddress inp.devices addr else none

/-! ## 2. Planned packets -/

/-- `targetGroup` or `targetDevice` of a sender. -/
inductive SendTarget where
  | group (gid : Int)
  | device (place : Nat)
  deriving DecidableEq

/-- The sender of a packet, and what it is called with. -/
inductive Payload where
  | offset (config : OffsetConfig)
  | control (params : Dict) (target : SendTarget)
  | preset (params : Dict) (target : SendTarget)
  | startblock (params : Dict) (target : SendTarget)
  | sync (brightness : Int) (triggerArmed : Bool)

/-- `WireOp.opcode`. -/
def Payload.opcode : Payload → String
  | .offset _ => "OPC_OFFSET"
  | .control _ _ => "OPC_CONTROL"
  | .preset _ _ => "OPC_PRESET"
  | .startblock _ _ => "OPC_CONTROL"
  | .sync _ _ => "OPC_SYNC"

/-- What a plan says about the preset it has used. -/
inductive PresetDetail where
  | none
  | found (key id : PyVal)
  | unresolved (ref : PyVal)

/-- The part of an action a packet belongs to. -/
inductive Phase where
  | whole
  | offset
  | child (index : Nat) (kind : EffectKind)

/-- `WireOp`.  The body of a startblock is sized as an `OPC_CONTROL`, approximately. -/
structure WireOp where
  targetGroup : Int
  payload : Payload
  bodyBytes : Nat
  phase : Phase
  preset : PresetDetail

/-- `plan.error`. -/
inductive PlanError where
  | targetNotFound (target : Target)
  | missingPresetId
  | presetNotFound (ref : PyVal)

/-- Its text. -/
def PlanError.text : PlanError → Msg
  | targetNotFound _ => [.text "target_not_found"]
  | missingPresetId => [.text "missing_preset_id"]
  | presetNotFound ref => [.text "preset_not_found: ", .repr ref]

/-- The plan of an effect: its packets, or why there are none. -/
structure EffectPlan where
  kind : EffectKind
  ops : List WireOp
  error : Option PlanError
  preset : PresetDetail

/-- The plan is degraded. -/
def EffectPlan.degraded (p : EffectPlan) : Bool := p.error.isSome

/-- `plan.detail` of an `offset_group`. -/
structure ContainerDetail where
  wirePath : Strategy
  offsetMode : OffsetBlock
  offsetPackets : Nat
  offsetTotalBytes : Nat
  childCount : Nat
  childPlans : List EffectPlan

/-- `plan.detail`. -/
inductive PlanDetail where
  | effect (preset : PresetDetail)
  | target (target : Target)
  | duration (durationMs : Int)
  | container (detail : ContainerDetail)
  | empty

/-- `ActionDispatchPlan`. -/
structure ActionDispatchPlan where
  kind : Kind
  ops : List WireOp
  degraded : Bool
  error : Option PlanError
  detail : PlanDetail

/-! ## 3. Effects -/

/-- `_resolve_target`. -/
def resolveTarget (inp : PlannerInputs) : Target → Option (List SendTarget)
  | .broadcast => some [.group 255]
  | .groups value => if value.isEmpty then none else some (value.map .group)
  | .device value => (inp.deviceLookup value).map fun place => [.device place]

/-- `_target_group_for_op`. -/
def targetGroupForOp (inp : PlannerInputs) : SendTarget → Int
  | .group gid => gid
  | .device place =>
    match inp.devices[place]? with
    | some dev => if 0 ≤ dev.groupId ∧ dev.groupId ≤ 254 then dev.groupId else 255
    | none => 255

/-- The flag overrides in force: the action's own, and the container's for the offset mode. -/
def overrideOf (force : Option Bool) (e : Effect) (k : UserFlag) : Option Bool :=
  match force, k with
  | some b, .offsetMode => some b
  | _, _ => e.flagsOverride.bind fun f => f.get k

/-- `_merge_flags`: the flags that are set, as parameters; the others are taken out. -/
def mergeFlags (base persisted : Dict) (override : UserFlag → Option Bool) : Dict :=
  UserFlag.all.foldl (fun merged k =>
    let value := (override k).getD (Dict.getD persisted k.key (.bool false)).truthy
    if value then Dict.set merged (.str k.key) (.bool true) else Dict.erase merged k.key) base

/-- An integer parameter, masked with `& 0xFF`. -/
def intField (params : Dict) (key : String) : Except PyErr (Option Int) :=
  match Dict.get params key with
  | .null => pure none
  | v => do
    let i ← int v
    pure (some (i % 256))

/-- A boolean parameter. -/
def boolField (params : Dict) (key : String) : Option Bool :=
  match Dict.get params key with
  | .null => none
  | v => some v.truthy

/-- A colour parameter: a tuple of masked integers. -/
def colorField (params : Dict) (key : String) : Except PyErr (Option (List Int)) :=
  match Dict.get params key with
  | .null => pure none
  | v => do
    let items ← listOf v
    let color ← items.mapM fun c => do
      let i ← int c
      pure (i % 256)
    pure (some color)

/-- The arguments for `build_control_body` in a parameter dictionary.  The planner and the sender
collect them with the same loops. -/
def controlFields (params : Dict) : Except PyErr ControlFields := do
  let brightness ← intField params "brightness"
  let mode ← intField params "mode"
  let speed ← intField params "speed"
  let intensity ← intField params "intensity"
  let custom1 ← intField params "custom1"
  let custom2 ← intField params "custom2"
  let custom3 ← intField params "custom3"
  let palette ← intField params "palette"
  let color1 ← colorField params "color1"
  let color2 ← colorField params "color2"
  let color3 ← colorField params "color3"
  pure
    { brightness := brightness, mode := mode, speed := speed, intensity := intensity
      custom1 := custom1, custom2 := custom2, custom3 := custom3, palette := palette
      check1 := boolField params "check1", check2 := boolField params "check2"
      check3 := boolField params "check3"
      color1 := color1, color2 := color2, color3 := color3 }

/-- `_control_body_len`. -/
def controlBodyLen (params : Dict) : Except PyErr Nat := do
  let fields ← controlFields params
  let body ← buildControlBody 0 0 fields
  pure body.length

/-- The parameters, the flags and the detail of a preset reference. -/
structure Materialised where
  params : Dict
  flags : Dict
  detail : PresetDetail

/-- `_materialize_rl_preset`. -/
def materializeRlPreset (inp : PlannerInputs) (params : Dict) :
    Except PyErr (Option Materialised) :=
  let base := Dict.erase params "presetId"
  match Dict.get params "presetId" with
  | .null => pure none
  | ref =>
    match inp.rlPresetLookup with
    | none => pure (some ⟨base, [], .unresolved ref⟩)
    | some lookup =>
      match lookup ref with
      | none => pure none
      | some preset =>
        match Dict.get base "brightness" with
        | .null => pure (some ⟨preset.params, preset.flags, .found preset.key preset.id⟩)
        | v => do
          let brightness ← int v
          pure (some ⟨Dict.set preset.params (.str "brightness") (.int brightness), preset.flags,
            .found preset.key preset.id⟩)

/-- The parameters of an effect, from the preset for `rl_preset` and its own otherwise. -/
def materialize (inp : PlannerInputs) (e : Effect) : Except PyErr (Option Materialised) :=
  if e.kind = .rlPreset then materializeRlPreset inp e.params
  else pure (some ⟨e.params, [], .none⟩)

/-- `_build_effect_op`. -/
def buildEffectOp (inp : PlannerInputs) (kind : EffectKind) (params : Dict)
    (preset : PresetDetail) (target : SendTarget) : Except PyErr WireOp :=
  let op (payload : Payload) (bodyBytes : Nat) : WireOp :=
    ⟨targetGroupForOp inp target, payload, bodyBytes, .whole, preset⟩
  match kind with
  | .wledPreset => pure (op (.preset params target) (buildPresetBody 0 0 0 0).length)
  | .startblock => do
    let len ← controlBodyLen params
    pure (op (.startblock params target) len)
  | _ => do
    let len ← controlBodyLen params
    pure (op (.control params target) len)

/-- `_plan_effect`: one packet for each resolved target. -/
def planEffect (inp : PlannerInputs) (force : Option Bool) (e : Effect) :
    Except PyErr EffectPlan := do
  match resolveTarget inp e.target with
  | none => pure ⟨e.kind, [], some (.targetNotFound e.target), .none⟩
  | some targets =>
    match ← materialize inp e with
    | none =>
      match Dict.get e.params "presetId" with
      | .null => pure ⟨e.kind, [], some .missingPresetId, .none⟩
      | ref => pure ⟨e.kind, [], some (.presetNotFound ref), .none⟩
    | some m =>
      let params := mergeFlags m.params m.flags (overrideOf force e)
      let ops ← targets.mapM (buildEffectOp inp e.kind params m.detail)
      pure ⟨e.kind, ops, none, m.detail⟩

/-! ## 4. Actions -/

/-- An effect's plan, as the plan of an action. -/
def EffectPlan.toAction (p : EffectPlan) : ActionDispatchPlan :=
  { kind := .effect p.kind, ops := p.ops, degraded := p.degraded, error := p.error
    detail := match p.error with
      | some (.targetNotFound target) => .target target
      | some _ => .empty
      | none => .effect p.preset }

/-- `_plan_sync`. -/
def planSync : ActionDispatchPlan :=
  { kind := .sync, degraded := false, error := none, detail := .empty
    ops := [⟨255, .sync 0 true, (buildSyncBody 0 0 syncFlagTriggerArmed).length, .whole, .none⟩] }

/-- A packet of the first phase of a container. -/
def OffsetOp.toWire (op : OffsetOp) : WireOp :=
  ⟨op.targetGroup, .offset op.config, op.bodyBytes, .offset, .none⟩

/-- The packets of the children, each marked with its child. -/
def childOps (plans : List EffectPlan) : List WireOp :=
  (plans.mapIdx fun index plan => plan.ops.map fun op =>
    { op with phase := .child index plan.kind }).flatten

/-- `_plan_offset_group`: the offset packets, then the children's with the offset flag forced. -/
def planOffsetGroup (inp : PlannerInputs) (target : Target) (offset : OffsetBlock)
    (children : List Effect) : Except PyErr ActionDispatchPlan := do
  let optimizerPlan ← planOffsetSetup target offset inp.knownGroupIds
  let childPlans ← children.mapM (planEffect inp (some (offset ≠ .none)))
  pure
    { kind := .offsetGroup, ops := optimizerPlan.ops.map (·.toWire) ++ childOps childPlans
      degraded := childPlans.any (·.degraded), error := none
      detail := .container
        { wirePath := optimizerPlan.strategy, offsetMode := offset
          offsetPackets := optimizerPlan.packetCount
          offsetTotalBytes := optimizerPlan.totalBytes
          childCount := children.length, childPlans := childPlans } }

/-- `plan_action_dispatch` for an action. -/
def planActionDispatch (inp : PlannerInputs) : Action → Except PyErr ActionDispatchPlan
  | .effect e => do
    let plan ← planEffect inp none e
    pure plan.toAction
  | .sync => pure planSync
  | .delay durationMs => pure ⟨.delay, [], false, none, .duration durationMs⟩
  | .offsetGroup target offset actions => planOffsetGroup inp target offset actions

end RaceLink
