/-
# What a choice of plans costs

For a list of groups and a formula, `plan_offset_setup` has two plans to choose from: a value for
each group that takes part, or the formula for all and a clear for each known group that does not.
The cheaper of two plans sends as few packets as either (`packetCount_cheapest`), so the packets are
as many as the groups that take part, or one more than those that do not
(`planOffsetSetup_packets`).  Whom a container's packets are for is said once, for every target
(`targets_planOffsetSetup`).
-/
import RaceLink.Offset.Optimizer
import Mathlib.Data.List.Nodup

namespace RaceLink

open Python

/-! ## 1. The cheaper of two plans -/

/-- The plan that is chosen has the fewest packets. -/
theorem packetCount_cheapest (p q : OptimizerPlan) :
    (cheapest [p, q]).packetCount = min p.packetCount q.packetCount := by
  rw [cheapest_pair]
  split
  · next hfirst =>
    refine (min_eq_left ?_).symm
    rcases hfirst with hlt | ⟨heq, -⟩
    · exact Nat.le_of_lt hlt
    · exact Nat.le_of_eq heq
  · next hsecond =>
    refine (min_eq_right (not_lt.mp fun hlt => ?_)).symm
    exact hsecond (Or.inl hlt)

/-- The second plan is chosen when it is strictly cheaper. -/
theorem cheapest_strategy_iff {p q : OptimizerPlan} (hne : p.strategy ≠ q.strategy) :
    (cheapest [p, q]).strategy = q.strategy ↔ q.packetCount < p.packetCount ∨
      q.packetCount = p.packetCount ∧ q.totalBytes < p.totalBytes := by
  rw [cheapest_pair]
  split
  · next hfirst =>
    refine iff_of_false hne ?_
    rcases hfirst with hlt | ⟨heq, hle⟩ <;> omega
  · next hsecond =>
    refine iff_of_true rfl ?_
    unfold OptimizerPlan.NotDearer at hsecond
    omega

/-! ## 2. The two plans for a list of groups -/

theorem length_perGroup (groups : List Int) (config : Int → OffsetConfig) :
    (perGroup groups config).length = groups.length := List.length_map _

theorem targets_perGroup (groups : List Int) (config : Int → OffsetConfig) :
    (perGroup groups config).map (·.targetGroup) = groups := by
  rw [perGroup, List.map_map]
  exact List.map_id groups

/-- A block that is a formula of the position: linear, vshape or modulo. -/
def OffsetBlock.IsPositional (offset : OffsetBlock) : Prop :=
  offset.IsFormula = true ∧ offset ≠ .none

/-- A value for each group. -/
def valuesPlan (offset : OffsetBlock) (groups : List Int) : OptimizerPlan :=
  ⟨.perGroupExplicit, perGroup groups (perGroupConfig offset)⟩

/-- The formula for all, and a clear for each known group outside. -/
def overridesPlan (offset : OffsetBlock) (groups known : List Int) : OptimizerPlan :=
  ⟨.formulaPlusOverrides, ⟨255, offsetPayload offset⟩ ::
    perGroup (known.filter (· ∉ groups)) fun _ => .none⟩

theorem planB_positional {offset : OffsetBlock} (hform : offset.IsPositional) {groups : List Int}
    (hne : groups ≠ []) : planB false offset groups = some (valuesPlan offset groups) := by
  rw [planB, if_neg (by simpa using hform.2), if_neg (by simpa using hne), valuesPlan]

theorem planC_positional {offset : OffsetBlock} (hform : offset.IsPositional) (groups : List Int)
    {known : List Int} (hknown : known ≠ []) :
    planC false offset groups known = some (overridesPlan offset groups known) := by
  rw [planC, if_pos]
  · rfl
  · simpa [hform.1, hform.2] using hknown

/-- The choice is between these two. -/
theorem planGroups_positional {offset : OffsetBlock} (hform : offset.IsPositional)
    {groups known : List Int} (hne : groups ≠ []) (hknown : known ≠ []) :
    planGroups (some groups) offset known
      = cheapest [valuesPlan offset groups, overridesPlan offset groups known] := by
  have hplan : planGroups (some groups) offset known
      = cheapest ([planA false offset, planB false offset groups,
        planC false offset groups known].filterMap id) := rfl
  have hA : planA false offset = none := rfl
  rw [hplan, hA, planB_positional hform hne, planC_positional hform groups hknown]
  rfl

theorem packetCount_valuesPlan (offset : OffsetBlock) (groups : List Int) :
    (valuesPlan offset groups).packetCount = groups.length := length_perGroup groups _

theorem packetCount_overridesPlan (offset : OffsetBlock) (groups known : List Int) :
    (overridesPlan offset groups known).packetCount
      = 1 + (known.filter (· ∉ groups)).length := by
  rw [OptimizerPlan.packetCount, overridesPlan, List.length_cons, length_perGroup, Nat.add_comm]

/-- 255 is no known group. -/
theorem nodup_all_cons {known : List Int} (hdistinct : known.Nodup)
    (hrange : ∀ g ∈ known, 0 ≤ g ∧ g ≤ 254) (groups : List Int) :
    (255 :: known.filter (· ∉ groups)).Nodup := by
  refine List.nodup_cons.mpr ⟨fun hmem => ?_, hdistinct.filter _⟩
  have hbounds := hrange 255 (List.mem_filter.mp hmem).1
  omega

/-- **The packets of a container** for a list of groups: as few as the groups that take part, or as
one more than the known groups that do not.  The formula is sent when that is fewer packets, or as
many and fewer bytes.  Each packet is as long as its body, and no two are for the same group. -/
theorem planOffsetSetup_packets {offset : OffsetBlock} (hform : offset.IsPositional)
    {groups known : List Int} (hne : groups ≠ []) (hgroups : groups.Nodup) (hknown : known ≠ [])
    (hdistinct : known.Nodup) (hrange : ∀ g ∈ known, 0 ≤ g ∧ g ≤ 254) :
    ∃ plan, planOffsetSetup (.groups groups) offset known = .ok plan ∧
      plan.packetCount = min groups.length (1 + (known.filter (· ∉ groups)).length) ∧
      (plan.strategy = .formulaPlusOverrides ↔
        1 + (known.filter (· ∉ groups)).length < groups.length ∨
          1 + (known.filter (· ∉ groups)).length = groups.length ∧
            (overridesPlan offset groups known).totalBytes
              < (valuesPlan offset groups).totalBytes) ∧
      (∀ op ∈ plan.ops, op.bodyBytes = (buildOffsetBody op.targetGroup op.config).length) ∧
      (plan.ops.map (·.targetGroup)).Nodup := by
  have hplan := planGroups_positional hform hne hknown
  have hother : (valuesPlan offset groups).strategy ≠
      (overridesPlan offset groups known).strategy :=
    Strategy.noConfusion
  refine ⟨_, rfl, ?_, ?_, fun op _ => rfl, ?_⟩
  · rw [hplan, packetCount_cheapest, packetCount_valuesPlan, packetCount_overridesPlan]
  · have hchosen := cheapest_strategy_iff hother
    rw [packetCount_valuesPlan, packetCount_overridesPlan] at hchosen
    rw [hplan]
    exact hchosen
  · rw [hplan, cheapest_pair]
    split
    · rw [valuesPlan, targets_perGroup]
      exact hgroups
    · rw [overridesPlan, List.map_cons, targets_perGroup]
      exact nodup_all_cons hdistinct hrange groups

/-- Three groups of five, in a cascade: three packets either way, and the formula is shorter. -/
theorem planOffsetSetup_packets_tie :
    (planOffsetSetup (.groups [1, 2, 3]) (.linear 0 100) [1, 2, 3, 4, 5]).map
        (fun plan => (plan.packetCount, plan.strategy)) = .ok (3, .formulaPlusOverrides) := by
  have hform : (OffsetBlock.linear 0 100).IsPositional := ⟨rfl, nofun⟩
  obtain ⟨plan, hplan, hcount, hstrategy, -⟩ := planOffsetSetup_packets hform
    (List.cons_ne_nil 1 [2, 3]) (by decide) (List.cons_ne_nil 1 [2, 3, 4, 5]) (by decide)
    (by decide)
  rw [hplan, Except.map, hcount, hstrategy.mpr (Or.inr (by decide))]
  rfl

/-! ## 4. Whom the packets are for -/

theorem targets_planB {isAll : Bool} {offset : OffsetBlock} {groups : List Int}
    {plan : OptimizerPlan} (h : planB isAll offset groups = some plan) :
    plan.ops.map (·.targetGroup) = groups := by
  unfold planB at h
  split at h
  · cases h
    exact targets_perGroup groups _
  · split at h
    · cases h
    · cases h
      exact targets_perGroup groups _

theorem targets_planC {isAll : Bool} {offset : OffsetBlock} {groups known : List Int}
    {plan : OptimizerPlan} (h : planC isAll offset groups known = some plan) :
    plan.ops.map (·.targetGroup) = 255 :: known.filter (· ∉ groups) := by
  unfold planC at h
  split at h
  · cases h
    rw [List.map_cons, targets_perGroup]
  · cases h

/-- An explicit block has groups. -/
theorem isFormula_of_canonical_none {offset : OffsetBlock} (h : offset.Canonical none) :
    offset.IsFormula = true := by
  cases offset with
  | explicit values =>
    obtain ⟨_, hids, -⟩ := h
    cases hids
  | _ => rfl

/-- **A container's packets** are for all groups at once, for the known or the named groups one by
one, or for all and then for each known group that takes no part. -/
theorem targets_planOffsetSetup {target : Target} {offset : OffsetBlock} (ht : target.Canonical)
    (hd : target.NotDevice) (ho : offset.Canonical target.groupIds?) (known : List Int) :
    ∃ plan, planOffsetSetup target offset known = .ok plan ∧
      (plan.ops.map (·.targetGroup) = [255] ∨
        plan.ops.map (·.targetGroup) = known ∧ known ≠ [] ∨
        ∃ value, target = .groups value ∧ (plan.ops.map (·.targetGroup) = value ∨
          plan.ops.map (·.targetGroup) = 255 :: known.filter (· ∉ value))) := by
  cases target with
  | device value => exact hd.elim
  | broadcast =>
    refine ⟨_, rfl, ?_⟩
    rw [planGroups_none (isFormula_of_canonical_none ho)]
    split
    · exact Or.inl rfl
    · next h =>
      refine Or.inr (Or.inl ⟨targets_perGroup known _, ?_⟩)
      rintro rfl
      exact h (Or.inr Nat.zero_ne_one)
  | groups value =>
    refine ⟨_, rfl, Or.inr (Or.inr ⟨value, rfl, ?_⟩)⟩
    exact (planGroups_some ht.1 offset known).imp targets_planB targets_planC

end RaceLink
