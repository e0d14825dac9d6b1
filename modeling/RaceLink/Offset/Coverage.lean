/-
# What a container's offset packets leave on the devices

A node keeps one offset configuration, which an `OPC_OFFSET` for its group, or for all groups,
overwrites; from it and its group the node computes its offset.  The strategies send very
different packets, one value per group or one formula for all and a clear for each of the
others.

* `planOffsetSetup_sets_up`: for a list of groups it makes no difference to the known nodes.
* `broadcast_covers_iff`: for a broadcast target the formula reaches every node unless exactly
  one group is known and the mode is not `none`; then the one EXPLICIT packet is the shorter one.
-/
import RaceLink.Offset.Optimizer
import RaceLink.Python.Seen

namespace RaceLink

open Python

/-! ## 1. Nodes -/

/-- A node: its group, and the configuration it has stored. -/
structure Node where
  groupId : Fin 255
  stored : OffsetConfig

/-- The group as an id. -/
def Node.gid (n : Node) : Int := n.groupId.val

theorem Node.gid_range (n : Node) : 0 ≤ n.gid ∧ n.gid ≤ 254 := by
  have hlt : n.groupId.val < 255 := n.groupId.isLt
  unfold Node.gid
  omega

/-- A received `OPC_OFFSET`.  A body that does not parse is ignored. -/
def Node.receive (n : Node) (body : List UInt8) : Node :=
  match parseOffsetBody body with
  | .ok (g, config) => if g = 255 ∨ g = n.gid then { n with stored := config } else n
  | .error _ => n

/-- The packets of a plan, in order. -/
def Node.receiveAll (n : Node) (ops : List OffsetOp) : Node :=
  ops.foldl (fun n op => n.receive op.body) n

/-- The offset a configuration means for a group; `none` outside offset mode. -/
def OffsetConfig.offset? (gid : Int) : OffsetConfig → Option Int
  | .none => .none
  | .explicit ms => some ms
  | .linear base step => some (clampMs (base + gid * step))
  | .vshape base step center => some (clampMs (base + (gid - center).natAbs * step))
  | .modulo base step cycle =>
    some (clampMs (base + gid % (if cycle = 0 then 1 else cycle) * step))

/-- The node's offset. -/
def Node.offset? (n : Node) : Option Int := n.stored.offset? n.gid

/-- The offset a block means for a group; `none` where it clears the group. -/
def OffsetBlock.meant (gid : Int) : OffsetBlock → Option Int
  | .none => .none
  | .explicit values => (OffsetBlock.explicit values).offsetOf gid
  | offset => some (evaluateOffsetMs offset gid)

/-! ## 2. What a packet does -/

/-- A packet overwrites the configuration of the nodes it addresses. -/
theorem Node.receive_body (n : Node) (op : OffsetOp) :
    n.receive op.body = if op.targetGroup % 256 = 255 ∨ op.targetGroup % 256 = n.gid then
      { n with stored := op.config.clamped } else n := by
  rw [OffsetOp.body, Node.receive, parseOffsetBody_buildOffsetBody]

theorem Node.gid_receive (n : Node) (op : OffsetOp) : (n.receive op.body).gid = n.gid := by
  rw [n.receive_body]
  split <;> rfl

/-- One packet for each group: a node of a listed group ends with its group's configuration, the
others keep theirs. -/
theorem Node.receiveAll_perGroup (config : Int → OffsetConfig) {groups : List Int}
    (hrange : ∀ g ∈ groups, 0 ≤ g ∧ g ≤ 254) (n : Node) :
    n.receiveAll (perGroup groups config)
      = if n.gid ∈ groups then { n with stored := (config n.gid).clamped } else n := by
  induction groups generalizing n with
  | nil => simp [receiveAll, perGroup]
  | cons g groups ih =>
    obtain ⟨hg, hgroups⟩ := List.forall_mem_cons.mp hrange
    have hmod : g % 256 = g := by omega
    have hstep : n.receiveAll (perGroup (g :: groups) config)
        = (n.receive (OffsetOp.body ⟨g, config g⟩)).receiveAll (perGroup groups config) := rfl
    rw [hstep, ih hgroups, gid_receive, receive_body]
    simp only [hmod, show ¬ g = 255 by omega, false_or]
    by_cases hgid : g = n.gid
    · simp [hgid]
    · simp [hgid, Ne.symm hgid]

/-- A broadcast packet reaches every node. -/
theorem Node.receive_broadcast (n : Node) (config : OffsetConfig) :
    n.receive (OffsetOp.body ⟨255, config⟩) = { n with stored := config.clamped } := by
  rw [receive_body]
  exact if_pos (Or.inl rfl)

/-! ## 3. What a configuration means -/

theorem evaluateOffsetMs_range (offset : OffsetBlock) (gid : Int) :
    0 ≤ evaluateOffsetMs offset gid ∧ evaluateOffsetMs offset gid ≤ 0xFFFF := by
  cases offset with
  | none => exact ⟨le_refl 0, Int.natCast_nonneg 0xFFFF⟩
  | _ => exact clampTo_range (by decide) _

/-- The value the host computes for a group arrives as it is. -/
theorem offset?_explicit_clamped {ms : Int} (h : 0 ≤ ms ∧ ms ≤ 0xFFFF) (gid : Int) :
    (OffsetConfig.explicit ms).clamped.offset? gid = some ms := by
  rw [OffsetConfig.clamped, OffsetConfig.offset?, clampTo_eq_self h]

theorem clampI16_eq_self {base step : Int} (h : FormulaInRange base step) :
    clampI16 base = base ∧ clampI16 step = step :=
  ⟨clampTo_eq_self h.1, clampTo_eq_self h.2⟩

/-- The formula on the device is the formula on the host. -/
theorem offset?_offsetPayload {offset : OffsetBlock} (hform : offset.IsFormula = true)
    {groupIds : Option (List Int)} (hcanon : offset.Canonical groupIds) {gid : Int}
    (hgid : 0 ≤ gid ∧ gid ≤ 254) :
    (offsetPayload offset).clamped.offset? gid = offset.meant gid := by
  have hmod : gid % 256 = gid := by omega
  cases offset with
  | none => rfl
  | explicit values => cases hform
  | linear base step =>
    obtain ⟨hbase, hstep⟩ := clampI16_eq_self hcanon
    simp only [offsetPayload, OffsetConfig.clamped, hbase, hstep, OffsetConfig.offset?,
      OffsetBlock.meant, evaluateOffsetMs, hmod]
  | vshape base step center =>
    obtain ⟨hbase, hstep⟩ := clampI16_eq_self hcanon.1
    have hrange : 0 ≤ center ∧ center ≤ 254 := hcanon.2
    have hcenter : center % 256 = center := by omega
    simp only [offsetPayload, OffsetConfig.clamped, hbase, hstep, clampTo_eq_self hrange,
      OffsetConfig.offset?, OffsetBlock.meant, evaluateOffsetMs, hmod, hcenter]
  | modulo base step cycle =>
    obtain ⟨hbase, hstep⟩ := clampI16_eq_self hcanon.1
    have hrange : 1 ≤ cycle ∧ cycle ≤ 255 := hcanon.2
    have hmax : max 1 cycle = cycle := by omega
    have hpos : cycle > 0 := by omega
    have hne : ¬ cycle = 0 := by omega
    simp only [offsetPayload, OffsetConfig.clamped, hbase, hstep, hmax, clampTo_eq_self hrange,
      OffsetConfig.offset?, OffsetBlock.meant, evaluateOffsetMs, hmod, if_pos hpos, if_neg hne]

/-- What strategy B sends a group means what the block means for it. -/
theorem offset?_perGroupConfig {offset : OffsetBlock} (hne : offset ≠ .none) {groups : List Int}
    (hcanon : offset.Canonical (some groups)) (hnd : groups.Nodup)
    (honce : ∀ values, offset = .explicit values → (values.map (·.id)).Perm groups) {gid : Int}
    (hgid : gid ∈ groups) :
    (perGroupConfig offset gid).clamped.offset? gid = offset.meant gid := by
  have hformula : ∀ block : OffsetBlock,
      (OffsetConfig.explicit (evaluateOffsetMs block gid)).clamped.offset? gid
        = some (evaluateOffsetMs block gid) :=
    fun block => offset?_explicit_clamped (evaluateOffsetMs_range block gid) gid
  cases offset with
  | none => exact absurd rfl hne
  | explicit values =>
    have hperm := honce values rfl
    have hids : (values.map (·.id)).Nodup := hperm.nodup_iff.mpr hnd
    obtain ⟨_, -, -, -, hvalues⟩ := hcanon
    obtain ⟨v, hv, hvid⟩ := List.mem_map.mp (hperm.symm.subset hgid)
    have hreverse : values.reverse.find? (fun v => v.id == gid)
        = values.find? (fun v => v.id == gid) :=
      (find?_key_perm (List.reverse_perm values).symm hids gid).symm
    cases hfind : values.find? (fun v => v.id == gid) with
    | none => exact absurd (beq_iff_eq.mpr hvid) (List.find?_eq_none.mp hfind v hv)
    | some w =>
      obtain ⟨-, -, hms⟩ := hvalues w (List.mem_of_find?_eq_some hfind)
      rw [perGroupConfig, explicitMs, hreverse, hfind, OffsetBlock.meant, OffsetBlock.offsetOf,
        hfind]
      exact offset?_explicit_clamped hms gid
  | linear base step => exact hformula _
  | vshape base step center => exact hformula _
  | modulo base step cycle => exact hformula _

/-! ## 4. A list of groups -/

/-- Every node of a known group ends as the block means it: a participant with its offset, the
others outside offset mode. -/
def SetsUp (groups known : List Int) (offset : OffsetBlock) (ops : List OffsetOp) (n : Node) :
    Prop :=
  (n.gid ∈ groups → (n.receiveAll ops).offset? = offset.meant n.gid) ∧
    (n.gid ∈ known → n.gid ∉ groups → (n.receiveAll ops).stored = .none)

theorem offset?_of_stored {n : Node} {config : OffsetConfig} :
    ({ n with stored := config } : Node).offset? = config.offset? n.gid := rfl

/-- Strategy B, also where it clears the groups. -/
theorem setsUp_perGroup {groups : List Int} (hrange : ∀ g ∈ groups, 0 ≤ g ∧ g ≤ 254)
    (known : List Int) {offset : OffsetBlock} {config : Int → OffsetConfig}
    (hmeant : ∀ g ∈ groups, (config g).clamped.offset? g = offset.meant g) {n : Node}
    (hn : n.gid ∈ known → n.gid ∉ groups → n.stored = .none) :
    SetsUp groups known offset (perGroup groups config) n := by
  rw [SetsUp, n.receiveAll_perGroup config hrange]
  constructor
  · intro hgid
    rw [if_pos hgid, offset?_of_stored, hmeant _ hgid]
  · intro hknown hgid
    rw [if_neg hgid, hn hknown hgid]

/-- Strategy C: the formula reaches the participants, and the clears the other known groups. -/
theorem setsUp_formula {groups known : List Int} (hknown : ∀ g ∈ known, 0 ≤ g ∧ g ≤ 254)
    {offset : OffsetBlock} (hform : offset.IsFormula = true)
    (hcanon : offset.Canonical (some groups)) (n : Node) :
    SetsUp groups known offset (⟨255, offsetPayload offset⟩ ::
      perGroup (known.filter (· ∉ groups)) fun _ => .none) n := by
  have hrange : ∀ g ∈ known.filter (· ∉ groups), 0 ≤ g ∧ g ≤ 254 :=
    fun g hg => hknown g (List.mem_of_mem_filter hg)
  have hrun : n.receiveAll (⟨255, offsetPayload offset⟩ ::
      perGroup (known.filter (· ∉ groups)) fun _ => .none)
        = ({ n with stored := (offsetPayload offset).clamped } : Node).receiveAll
            (perGroup (known.filter (· ∉ groups)) fun _ => .none) := by
    rw [Node.receiveAll, List.foldl_cons, n.receive_broadcast]
    rfl
  have hgid : ({ n with stored := (offsetPayload offset).clamped } : Node).gid = n.gid := rfl
  rw [SetsUp, hrun, Node.receiveAll_perGroup _ hrange, hgid]
  constructor
  · intro hmem
    rw [if_neg (by simp [hmem]), offset?_of_stored, offset?_offsetPayload hform hcanon n.gid_range]
  · intro hk hmem
    rw [if_pos (by simp [hk, hmem])]
    rfl

/-- **A list of groups is set up**, by whichever strategy is cheaper.  From any state in which no
known group outside the list is in offset mode, the packets leave every node of a listed group
with the offset the block means for it, and every node of the other known groups outside offset
mode. -/
theorem planOffsetSetup_sets_up (groups known : List Int) (offset : OffsetBlock)
    (hne : groups ≠ []) (hnd : groups.Nodup) (hgroups : ∀ g ∈ groups, 0 ≤ g ∧ g ≤ 254)
    (hcanon : offset.Canonical (some groups))
    (honce : ∀ values, offset = .explicit values → (values.map (·.id)).Perm groups)
    (hknown : ∀ g ∈ known, 0 ≤ g ∧ g ≤ 254) :
    ∃ plan, planOffsetSetup (.groups groups) offset known = .ok plan ∧
      (plan.strategy = .perGroupExplicit ∨ plan.strategy = .formulaPlusOverrides) ∧
      ∀ nodes : List Node,
        (∀ n ∈ nodes, n.gid ∈ known → n.gid ∉ groups → n.stored = .none) →
        ∀ n ∈ nodes, SetsUp groups known offset plan.ops n := by
  refine ⟨_, rfl, ?_⟩
  rcases planGroups_some hne offset known with hB | hC
  · rw [planB] at hB
    split at hB
    · next hnone =>
      obtain rfl : offset = .none := by simpa using hnone
      rw [← Option.some.inj hB]
      exact ⟨Or.inl rfl, fun nodes hinit n hn =>
        setsUp_perGroup hgroups known (fun _ _ => rfl) (hinit n hn)⟩
    · next hnone =>
      have hoffset : offset ≠ .none := by simpa using hnone
      rw [if_neg (by simpa using hne)] at hB
      rw [← Option.some.inj hB]
      exact ⟨Or.inl rfl, fun nodes hinit n hn => setsUp_perGroup hgroups known
        (fun g hg => offset?_perGroupConfig hoffset hcanon hnd honce hg) (hinit n hn)⟩
  · rw [planC] at hC
    split at hC
    · next hform =>
      simp only [Bool.not_false, Bool.true_and, Bool.and_eq_true] at hform
      rw [← Option.some.inj hC]
      exact ⟨Or.inr rfl, fun nodes _ n _ => setsUp_formula hknown hform.1.1 hcanon n⟩
    · cases hC

/-- Three of four known groups, in a cascade: the formula and one clear are cheaper than three
values. -/
theorem planOffsetSetup_sets_up_cascade :
    ∃ plan, planOffsetSetup (.groups [1, 2, 3]) (.linear 0 100) [1, 2, 3, 4] = .ok plan ∧
      (plan.strategy = .perGroupExplicit ∨ plan.strategy = .formulaPlusOverrides) ∧
      ∀ nodes : List Node,
        (∀ n ∈ nodes, n.gid ∈ [1, 2, 3, 4] → n.gid ∉ [1, 2, 3] → n.stored = .none) →
        ∀ n ∈ nodes, SetsUp [1, 2, 3] [1, 2, 3, 4] (.linear 0 100) plan.ops n :=
  planOffsetSetup_sets_up [1, 2, 3] [1, 2, 3, 4] (.linear 0 100) (by decide) (by decide)
    (by decide) ⟨by decide, by decide⟩ nofun (by decide)

/-! ## 5. A broadcast target -/

/-- **What a broadcast formula reaches.**  The packets leave every node, of every group, with the
offset the formula means for it, exactly when the mode is `none` or the number of known groups is
not one. -/
theorem broadcast_covers_iff (offset : OffsetBlock) (hform : offset.IsFormula = true)
    (hcanon : offset.Canonical none) (known : List Int)
    (hknown : ∀ g ∈ known, 0 ≤ g ∧ g ≤ 254) :
    ∃ plan, planOffsetSetup .broadcast offset known = .ok plan ∧
      ((∀ n : Node, (n.receiveAll plan.ops).offset? = offset.meant n.gid) ↔
        offset = .none ∨ known.length ≠ 1) := by
  refine ⟨_, rfl, ?_⟩
  rw [planGroups_none hform]
  split
  · next hcond =>
    refine iff_of_true (fun n => ?_) hcond
    have hrun : n.receiveAll [⟨255, offsetPayload offset⟩]
        = { n with stored := (offsetPayload offset).clamped } := n.receive_broadcast _
    rw [hrun, offset?_of_stored, offset?_offsetPayload hform hcanon n.gid_range]
  · next hcond =>
    refine iff_of_false (fun hall => ?_) hcond
    obtain ⟨hne, hlen⟩ := not_or.mp hcond
    obtain ⟨g, rfl⟩ := List.length_eq_one_iff.mp (not_not.mp hlen)
    -- a node of another group, with nothing stored
    let other : Node := ⟨if g = 0 then 1 else 0, .none⟩
    have hother : other.gid ∉ [g] := by
      by_cases hg : g = 0
      · simp [other, Node.gid, hg]
      · simp [other, Node.gid, hg, Ne.symm hg]
    have hkept := hall other
    rw [Node.receiveAll_perGroup _ hknown, if_neg hother] at hkept
    have hmeant : offset.meant other.gid ≠ none := by
      cases offset with
      | none => exact absurd rfl hne
      | explicit values => cases hform
      | _ => exact Option.some_ne_none _
    exact hmeant hkept.symm

/-- Two known groups: the formula goes out as a broadcast. -/
theorem broadcast_covers_twoGroups :
    ∃ plan, planOffsetSetup .broadcast (.linear 0 100) [1, 2] = .ok plan ∧
      ((∀ n : Node, (n.receiveAll plan.ops).offset? = (OffsetBlock.linear 0 100).meant n.gid) ↔
        OffsetBlock.linear 0 100 = .none ∨ [1, 2].length ≠ 1) :=
  broadcast_covers_iff (.linear 0 100) rfl ⟨by decide, by decide⟩ [1, 2] (by decide)

/-- One known group: the only packet goes to that group, and a node of group 2 stays outside
offset mode. -/
theorem broadcast_misses_oneGroup :
    ∃ plan, planOffsetSetup .broadcast (.linear 0 100) [1] = .ok plan ∧
      plan.strategy = .perGroupExplicit ∧ plan.ops = [⟨1, .explicit 100⟩] ∧
      ((⟨2, .none⟩ : Node).receiveAll plan.ops).offset? = none ∧
      (OffsetBlock.linear 0 100).meant 2 = some 200 := by
  refine ⟨_, rfl, ?_⟩
  rw [planGroups_none rfl]
  exact ⟨rfl, rfl, rfl, rfl⟩

end RaceLink
