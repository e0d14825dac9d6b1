/-
# Planning the offset packets of a container

`evaluate_offset_ms` and `plan_offset_setup`: which `OPC_OFFSET` packets set up the groups of an
`offset_group`.  Up to three plans are made and the cheapest wins: fewest packets, then fewest
bytes, then the order A, B, C.
-/
import RaceLink.Protocol.Packets
import RaceLink.Scenes.CanonicalSpec
import Mathlib.Data.List.Sort

namespace RaceLink

open Python

/-! ## 1. The formula -/

/-- `_clamp`: into the range of an offset. -/
def clampMs (v : Int) : Int := clampTo 0 0xFFFF v

/-- `evaluate_offset_ms`.  An explicit block has no `offset_ms` of its own. -/
def evaluateOffsetMs (offset : OffsetBlock) (groupId : Int) : Int :=
  let gid := groupId % 256
  match offset with
  | .none => 0
  | .explicit _ => clampMs 0
  | .linear base step => clampMs (base + gid * step)
  | .vshape base step center => clampMs (base + (gid - center % 256).natAbs * step)
  | .modulo base step rawCycle =>
    let cycle := if rawCycle > 0 then rawCycle else 1
    clampMs (base + gid % cycle * step)

/-- The formula of a block with its parameters (`_offset_payload_kwargs`).  An explicit block is
not sent as a whole. -/
def offsetPayload : OffsetBlock → OffsetConfig
  | .none => .none
  | .explicit _ => .explicit 0
  | .linear base step => .linear base step
  | .vshape base step center => .vshape base step center
  | .modulo base step cycle => .modulo base step (max 1 cycle)

/-! ## 2. Plans -/

/-- The three strategies. -/
inductive Strategy where
  | broadcastFormula
  | perGroupExplicit
  | formulaPlusOverrides
  deriving DecidableEq

/-- The strategy's text. -/
def Strategy.name : Strategy → String
  | broadcastFormula => "A_broadcast_formula"
  | perGroupExplicit => "B_per_group_explicit"
  | formulaPlusOverrides => "C_formula_plus_overrides"

/-- One `OPC_OFFSET` to send: the group it addresses (255 for all), and what it carries. -/
structure OffsetOp where
  targetGroup : Int
  config : OffsetConfig
  deriving DecidableEq

/-- The body of the packet. -/
def OffsetOp.body (op : OffsetOp) : List UInt8 := buildOffsetBody op.targetGroup op.config

/-- `WireOp.body_bytes`. -/
def OffsetOp.bodyBytes (op : OffsetOp) : Nat := op.body.length

/-- `OptimizerPlan`. -/
structure OptimizerPlan where
  strategy : Strategy
  ops : List OffsetOp

/-- `packet_count`. -/
def OptimizerPlan.packetCount (p : OptimizerPlan) : Nat := p.ops.length

/-- `total_bytes`. -/
def OptimizerPlan.totalBytes (p : OptimizerPlan) : Nat := (p.ops.map (·.bodyBytes)).sum

/-- The order of the sort key `(packet_count, total_bytes)`. -/
def OptimizerPlan.NotDearer (p q : OptimizerPlan) : Prop :=
  p.packetCount < q.packetCount ∨ p.packetCount = q.packetCount ∧ p.totalBytes ≤ q.totalBytes

instance (p q : OptimizerPlan) : Decidable (p.NotDearer q) := inferInstanceAs (Decidable (_ ∨ _))

/-- Every group to the same kind of packet. -/
def perGroup (groups : List Int) (config : Int → OffsetConfig) : List OffsetOp :=
  groups.map fun gid => ⟨gid, config gid⟩

/-- The offset an explicit block gives a group: its last entry wins, and 0 without an entry. -/
def explicitMs (values : List OffsetValue) (gid : Int) : Int :=
  ((values.reverse.find? fun v => v.id == gid).map (·.offsetMs)).getD 0

/-- What strategy B sends a group. -/
def perGroupConfig (offset : OffsetBlock) (gid : Int) : OffsetConfig :=
  match offset with
  | .explicit values => .explicit (explicitMs values gid)
  | offset => .explicit (evaluateOffsetMs offset gid)

/-- The block is a formula the firmware evaluates (`FORMULA_MODES`). -/
def OffsetBlock.IsFormula : OffsetBlock → Bool
  | .explicit _ => false
  | _ => true

/-- Strategy A, for a broadcast target. -/
def planA (isAll : Bool) (offset : OffsetBlock) : Option OptimizerPlan :=
  if isAll && offset.IsFormula then
    some ⟨.broadcastFormula, [⟨255, offsetPayload offset⟩]⟩
  else none

/-- Strategy B: each group by itself.  A list of groups is cleared group by group. -/
def planB (isAll : Bool) (offset : OffsetBlock) (concreteGroups : List Int) :
    Option OptimizerPlan :=
  if offset = .none && !isAll then
    some ⟨.perGroupExplicit, perGroup concreteGroups fun _ => .none⟩
  else if concreteGroups.isEmpty then none
  else some ⟨.perGroupExplicit, perGroup concreteGroups (perGroupConfig offset)⟩

/-- Strategy C: the formula to all, and a clear for each known group that takes no part. -/
def planC (isAll : Bool) (offset : OffsetBlock) (participantGroups knownGroupIds : List Int) :
    Option OptimizerPlan :=
  if !isAll && offset.IsFormula && offset ≠ .none && !knownGroupIds.isEmpty then
    let nonParticipants := knownGroupIds.filter (· ∉ participantGroups)
    some ⟨.formulaPlusOverrides,
      ⟨255, offsetPayload offset⟩ :: perGroup nonParticipants fun _ => .none⟩
  else none

/-- The first of the cheapest plans; a plan without packets when there is no plan. -/
def cheapest (candidates : List OptimizerPlan) : OptimizerPlan :=
  ((candidates.insertionSort OptimizerPlan.NotDearer).head?).getD ⟨.broadcastFormula, []⟩

/-- The message `plan_offset_setup` refuses another target with. -/
def unsupportedTargetMsg (kind : String) : Msg :=
  [.text "plan_offset_setup: unsupported target kind ", .repr (.str kind),
    .text " (expected 'broadcast' or 'groups')"]

/-- The plan for a broadcast target (`participantGroups = none`) or a list of groups. -/
def planGroups (participantGroups : Option (List Int)) (offset : OffsetBlock)
    (knownGroupIds : List Int) : OptimizerPlan :=
  let isAll := participantGroups.isNone
  let concreteGroups := participantGroups.getD knownGroupIds
  cheapest ([planA isAll offset, planB isAll offset concreteGroups,
    planC isAll offset (participantGroups.getD []) knownGroupIds].filterMap id)

/-- `plan_offset_setup`. -/
def planOffsetSetup (target : Target) (offset : OffsetBlock) (knownGroupIds : List Int) :
    Except PyErr OptimizerPlan :=
  match target with
  | .broadcast => .ok (planGroups none offset knownGroupIds)
  | .groups value => .ok (planGroups (some value) offset knownGroupIds)
  | .device _ => .error (.valueError (unsupportedTargetMsg "device"))

/-! ## 3. Which plan is chosen -/

theorem cheapest_mem {candidates : List OptimizerPlan} (h : candidates ≠ []) :
    cheapest candidates ∈ candidates := by
  have hperm := List.perm_insertionSort OptimizerPlan.NotDearer candidates
  unfold cheapest
  cases hs : candidates.insertionSort OptimizerPlan.NotDearer with
  | nil =>
    rw [hs] at hperm
    exact absurd hperm.symm.eq_nil h
  | cons p rest =>
    rw [hs] at hperm
    exact hperm.subset List.mem_cons_self

/-- The plan for a list of groups is one of strategy B or C. -/
theorem planGroups_some {groups : List Int} (hne : groups ≠ []) (offset : OffsetBlock)
    (knownGroupIds : List Int) :
    planB false offset groups = some (planGroups (some groups) offset knownGroupIds) ∨
      planC false offset groups knownGroupIds
        = some (planGroups (some groups) offset knownGroupIds) := by
  have hA : planA false offset = none := rfl
  have hB : planB false offset groups ≠ none := by
    unfold planB
    split
    · exact Option.some_ne_none _
    · rw [if_neg (by simpa using hne)]
      exact Option.some_ne_none _
  have hmem : planGroups (some groups) offset knownGroupIds ∈ [planA false offset,
      planB false offset groups, planC false offset groups knownGroupIds].filterMap id := by
    refine cheapest_mem fun hnil => hB ?_
    exact List.filterMap_eq_nil_iff.mp hnil _ (List.mem_cons_of_mem _ List.mem_cons_self)
  obtain ⟨candidate, hcandidate, hsome⟩ := List.mem_filterMap.mp hmem
  simp only [hA, List.mem_cons, List.not_mem_nil, or_false] at hcandidate
  rcases hcandidate with rfl | rfl | rfl
  · cases hsome
  · exact Or.inl hsome
  · exact Or.inr hsome

/-- Of two plans the first is chosen unless the second is strictly cheaper. -/
theorem cheapest_pair (p q : OptimizerPlan) :
    cheapest [p, q] = if p.NotDearer q then p else q := by
  unfold cheapest
  by_cases h : p.NotDearer q <;> simp [List.insertionSort, List.orderedInsert, h]

@[simp] theorem OffsetOp.bodyBytes_eq (op : OffsetOp) : op.bodyBytes = op.config.bodyBytes :=
  length_buildOffsetBody op.targetGroup op.config

/-- The plan for a broadcast target is the formula, unless exactly one group is known and the
mode is not `none`: then its EXPLICIT packet is as many packets and fewer bytes. -/
theorem planGroups_none {offset : OffsetBlock} (hform : offset.IsFormula = true)
    (knownGroupIds : List Int) :
    planGroups none offset knownGroupIds =
      if offset = .none ∨ knownGroupIds.length ≠ 1 then
        ⟨.broadcastFormula, [⟨255, offsetPayload offset⟩]⟩
      else ⟨.perGroupExplicit, perGroup knownGroupIds (perGroupConfig offset)⟩ := by
  have hA : planA true offset = some ⟨.broadcastFormula, [⟨255, offsetPayload offset⟩]⟩ := by
    simp [planA, hform]
  have hB : planB true offset knownGroupIds = if knownGroupIds.isEmpty then none else
      some ⟨.perGroupExplicit, perGroup knownGroupIds (perGroupConfig offset)⟩ := by
    simp [planB]
  have hC : planC true offset [] knownGroupIds = none := by simp [planC]
  have hplan : planGroups none offset knownGroupIds = cheapest ([planA true offset,
      planB true offset knownGroupIds, planC true offset [] knownGroupIds].filterMap id) := rfl
  rw [hplan, hA, hB, hC]
  match knownGroupIds with
  | [] => exact (if_pos (Or.inr Nat.zero_ne_one)).symm
  | [g] =>
    have hpair := cheapest_pair ⟨.broadcastFormula, [⟨255, offsetPayload offset⟩]⟩
      ⟨.perGroupExplicit, perGroup [g] (perGroupConfig offset)⟩
    refine hpair.trans (if_congr ?_ rfl rfl)
    cases offset with
    | explicit values => cases hform
    | _ => simp [OptimizerPlan.NotDearer, OptimizerPlan.packetCount, OptimizerPlan.totalBytes,
        perGroup, perGroupConfig, offsetPayload, OffsetConfig.bodyBytes]
  | g :: g' :: rest =>
    have hpair := cheapest_pair ⟨.broadcastFormula, [⟨255, offsetPayload offset⟩]⟩
      ⟨.perGroupExplicit, perGroup (g :: g' :: rest) (perGroupConfig offset)⟩
    refine hpair.trans (if_congr ?_ rfl rfl)
    simp [OptimizerPlan.NotDearer, OptimizerPlan.packetCount, perGroup]

end RaceLink
