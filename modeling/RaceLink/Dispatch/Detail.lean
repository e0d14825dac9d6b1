/-
# What the result of a container tells

The detail of an `offset_group`'s result has a row for each offset packet, kept under the group it
is for, and an entry for each child, made and marked through the tags that `_plan_offset_group`
puts on the packets.

No row overwrites another because the packets are for different groups (`nodup_targetGroup`), and
no entry is made from the child's plan because every child has packets of its own
(`planEffect_ops`).  So the detail tells what became of each packet, whatever it was:
`offsetGroup_detail`.
-/
import RaceLink.Dispatch.Outcomes

namespace RaceLink

open Python

/-! ## 1. What a detail is to tell -/

/-- The packet is an `OPC_OFFSET`. -/
def OpOutcome.isOffset (outcome : OpOutcome) : Bool := outcome.op.payload.opcode == "OPC_OFFSET"

/-- The packet belongs to the child in this place. -/
def Phase.isChild (place : Nat) : Phase → Bool
  | .child index _ => index = place
  | _ => false

/-- A packet, marked with its child. -/
def WireOp.forChild (index : Nat) (kind : EffectKind) (op : WireOp) : WireOp :=
  { op with phase := .child index kind }

/-- What became of the offset packets. -/
def offsetOutcomes (outcomes : List OpOutcome) : List OpOutcome :=
  outcomes.filter (·.isOffset)

/-- What became of the packets of a child. -/
def childOutcomes (place : Nat) (outcomes : List OpOutcome) : List OpOutcome :=
  outcomes.filter fun outcome => outcome.op.phase.isChild place

/-- The row of an offset packet. -/
structure RowTells (row : Int × OffsetRow) (outcome : OpOutcome) : Prop where
  group : row.1 = outcome.op.targetGroup
  ok : row.2.ok = outcome.ok
  mode : ∃ config, outcome.op.payload = .offset config ∧ row.2.mode = config.mode

/-- The entry of the child in this place, which has this plan. -/
structure EntryTells (place : Nat) (plan : EffectPlan) (outcomes : List OpOutcome)
    (entry : ChildEntry) : Prop where
  index : entry.index = place
  kind : entry.kind = plan.kind
  own : (childOutcomes place outcomes).map (·.op) = plan.ops.map (·.forChild place plan.kind)
  ok : entry.ok = true ↔ ∀ outcome ∈ childOutcomes place outcomes, outcome.ok = true

/-- The detail of a container whose packets had these outcomes: one row for each offset packet, in
their order and under different groups, and one entry for each child, in their order. -/
structure DetailTells (inp : PlannerInputs) (offset : OffsetBlock) (actions : List Effect)
    (outcomes : List OpOutcome) (detail : OffsetGroupDetail) : Prop where
  rows : List.Forall₂ RowTells detail.offsetPackets (offsetOutcomes outcomes)
  distinct : (detail.offsetPackets.map (·.1)).Nodup
  length : detail.children.length = actions.length
  child : ∀ place e, actions[place]? = some e → ∃ plan entry,
    planEffect inp (some (offset ≠ .none)) e = .ok plan ∧ plan.kind = e.kind ∧
      detail.children[place]? = some entry ∧ EntryTells place plan outcomes entry

/-! ## 2. Rows -/

theorem setRow_of_new {gid : Int} {row : OffsetRow} {rows : List (Int × OffsetRow)}
    (h : gid ∉ rows.map (·.1)) : setRow gid row rows = rows ++ [(gid, row)] := by
  induction rows with
  | nil => rfl
  | cons head rest ih =>
    obtain ⟨hne, hrest⟩ := not_or.mp (List.mem_cons.not.mp h)
    rw [setRow, if_neg fun heq => hne heq.symm, ih hrest]
    rfl

/-- The packets of the children make no rows. -/
theorem offsetRows_append_children {before outs : List OpOutcome}
    (h : ∀ o ∈ outs, ∃ index kind, o.op.phase = .child index kind) :
    offsetRows (before ++ outs) = offsetRows before := by
  induction outs using List.reverseRecOn with
  | nil => rw [List.append_nil]
  | append_singleton outs o ih =>
    obtain ⟨index, kind, hphase⟩ := h o (List.mem_append_right _ List.mem_cons_self)
    rw [← List.append_assoc, offsetRows, List.foldl_append, ← offsetRows,
      ih fun o ho => h o (List.mem_append_left _ ho)]
    simp only [List.foldl_cons, List.foldl_nil, hphase]

/-- **Rows**: packets for different groups have a row each. -/
theorem offsetRows_offset {ops : List OffsetOp} (hops : (ops.map (·.targetGroup)).Nodup)
    {outs : List OpOutcome} (houts : outs.map (·.op) = ops.map (·.toWire)) :
    List.Forall₂ RowTells (offsetRows outs) outs ∧
      (offsetRows outs).map (·.1) = ops.map (·.targetGroup) := by
  induction ops using List.reverseRecOn generalizing outs with
  | nil =>
    cases List.map_eq_nil_iff.mp houts
    exact ⟨.nil, rfl⟩
  | append_singleton ops op ih =>
    rw [List.map_append] at houts hops
    obtain ⟨init, last, rfl, hinit, hlast⟩ := List.map_eq_append_iff.mp houts
    obtain ⟨o, rfl, ho⟩ := List.map_eq_singleton_iff.mp hlast
    obtain ⟨hrows, hgroups⟩ := ih (List.nodup_append.mp hops).1 hinit
    have hnew : op.targetGroup ∉ (offsetRows init).map (·.1) := by
      rw [hgroups]
      exact fun hmem => (List.nodup_append.mp hops).2.2 _ hmem _ List.mem_cons_self rfl
    have hstep : offsetRows (init ++ [o]) = offsetRows init ++ [(op.targetGroup,
        ⟨o.ok, op.config.mode, if op.targetGroup ≠ 255 then some op.targetGroup else none⟩)] := by
      rw [← setRow_of_new hnew, offsetRows, List.foldl_append, ← offsetRows]
      simp only [List.foldl_cons, List.foldl_nil, ho]
      rfl
    rw [hstep]
    refine ⟨List.rel_append hrows (.cons ⟨?_, rfl, op.config, ?_, rfl⟩ .nil), ?_⟩
    · rw [ho]
      rfl
    · rw [ho]
      rfl
    · rw [List.map_append, List.map_append, hgroups]
      rfl

/-- **Different groups**: no two offset packets of a container are for the same group. -/
theorem nodup_targetGroup {target : Target} {offset : OffsetBlock} {known : List Int}
    {plan : OptimizerPlan} (ht : target.Canonical) (hd : target.NotDevice)
    (ho : offset.Canonical target.groupIds?) (hknown : known.Nodup)
    (hrange : ∀ g ∈ known, 0 ≤ g ∧ g ≤ 254)
    (hplan : planOffsetSetup target offset known = .ok plan) :
    (plan.ops.map (·.targetGroup)).Nodup := by
  obtain ⟨plan', hplan', htargets⟩ := targets_planOffsetSetup ht hd ho known
  cases hplan.symm.trans hplan'
  rcases htargets with h | ⟨h, -⟩ | ⟨value, rfl, h | h⟩ <;> rw [h]
  · exact List.nodup_singleton _
  · exact hknown
  · exact ht.2.1.imp fun hlt => ne_of_lt hlt
  · exact nodup_all_cons hknown hrange value

/-! ## 3. Entries -/

/-- The entry made and marked by the packets of a child. -/
def sentEntry (index : Nat) (kind : EffectKind) (ok : Bool) : ChildEntry :=
  ⟨index, kind, ok, if ok then none else some .sendFailed, false, none⟩

theorem noteChild_of_new {index : Nat} {entries : List ChildEntry}
    (h : ∀ entry ∈ entries, entry.index ≠ index) (kind : EffectKind) (ok : Bool) :
    noteChild index kind ok entries = entries ++ [sentEntry index kind ok] := by
  induction entries with
  | nil => rfl
  | cons entry entries ih =>
    obtain ⟨hne, hrest⟩ := List.forall_mem_cons.mp h
    rw [noteChild, if_neg hne, ih hrest]
    rfl

theorem noteChild_of_last {index : Nat} {entries : List ChildEntry}
    (h : ∀ entry ∈ entries, entry.index ≠ index) (kind : EffectKind) (before ok : Bool) :
    noteChild index kind ok (entries ++ [sentEntry index kind before]) =
      entries ++ [sentEntry index kind (before && ok)] := by
  induction entries with
  | nil => cases before <;> cases ok <;> simp [noteChild, sentEntry]
  | cons entry entries ih =>
    obtain ⟨hne, hrest⟩ := List.forall_mem_cons.mp h
    rw [List.cons_append, noteChild, if_neg hne, ih hrest]
    rfl

/-- The packets of the first phase make no entries. -/
theorem perChild_offset {outs : List OpOutcome} (h : ∀ o ∈ outs, o.op.phase = .offset) :
    perChild outs = [] := by
  induction outs using List.reverseRecOn with
  | nil => rfl
  | append_singleton outs o ih =>
    rw [perChild, List.foldl_append, ← perChild, ih fun o ho => h o (List.mem_append_left _ ho)]
    simp only [List.foldl_cons, List.foldl_nil, h o (List.mem_append_right _ List.mem_cons_self)]

/-- **One child**: its packets, after those of other children, add its entry. -/
theorem perChild_append {index : Nat} {kind : EffectKind} {before outs : List OpOutcome}
    (hbefore : ∀ entry ∈ perChild before, entry.index ≠ index)
    (h : ∀ o ∈ outs, o.op.phase = .child index kind) (hne : outs ≠ []) :
    perChild (before ++ outs) = perChild before ++ [sentEntry index kind (outs.all (·.ok))] := by
  induction outs using List.reverseRecOn with
  | nil => exact absurd rfl hne
  | append_singleton outs o ih =>
    have hstep : perChild (before ++ (outs ++ [o])) =
        noteChild index kind o.ok (perChild (before ++ outs)) := by
      rw [← List.append_assoc, perChild, List.foldl_append, ← perChild]
      simp only [List.foldl_cons, List.foldl_nil,
        h o (List.mem_append_right _ List.mem_cons_self)]
    rw [hstep]
    by_cases hfirst : outs = []
    · subst hfirst
      rw [List.append_nil, noteChild_of_new hbefore]
      simp
    · rw [ih (fun o ho => h o (List.mem_append_left _ ho)) hfirst, noteChild_of_last hbefore]
      simp

theorem childOps_concat (plans : List EffectPlan) (plan : EffectPlan) :
    childOps (plans ++ [plan]) =
      childOps plans ++ plan.ops.map (·.forChild plans.length plan.kind) := by
  simp [childOps, WireOp.forChild]

/-- The packets of the children are marked with places among them. -/
theorem childOutcomes_of_le {plans : List EffectPlan} {outs : List OpOutcome}
    (houts : outs.map (·.op) = childOps plans) {place : Nat} (hplace : plans.length ≤ place) :
    childOutcomes place outs = [] := by
  refine List.filter_eq_nil_iff.mpr fun o ho => ?_
  obtain ⟨index, plan, hplan, op, -, hop⟩ := mem_childOps.mp (houts ▸ List.mem_map_of_mem ho)
  have hlt := (List.getElem?_eq_some_iff.mp hplan).1
  rw [hop]
  simp only [Phase.isChild, decide_eq_true_eq]
  omega

theorem childOutcomes_append (place : Nat) (outs outs' : List OpOutcome) :
    childOutcomes place (outs ++ outs') =
      childOutcomes place outs ++ childOutcomes place outs' := List.filter_append _ _

/-- The packets of one child are its own, and no other's. -/
theorem childOutcomes_forChild {place index : Nat} {kind : EffectKind} {ops : List WireOp}
    {outs : List OpOutcome} (houts : outs.map (·.op) = ops.map (·.forChild index kind)) :
    childOutcomes place outs = if index = place then outs else [] := by
  have hphase : ∀ o ∈ outs, o.op.phase = .child index kind := by
    intro o ho
    obtain ⟨op, -, hop⟩ := List.mem_map.mp (houts ▸ List.mem_map_of_mem ho)
    rw [← hop]
    rfl
  split
  · next h => exact List.filter_eq_self.mpr fun o ho => by simp [hphase o ho, Phase.isChild, h]
  · next h => exact List.filter_eq_nil_iff.mpr fun o ho => by simp [hphase o ho, Phase.isChild, h]

/-- **Entries**: when every child has packets, every child has an entry, which is ok when all its
packets are. -/
theorem perChild_childOps {plans : List EffectPlan} (hne : ∀ plan ∈ plans, plan.ops ≠ [])
    {before outs : List OpOutcome} (hbefore : ∀ o ∈ before, o.op.phase = .offset)
    (houts : outs.map (·.op) = childOps plans) :
    perChild (before ++ outs) = plans.mapIdx (fun index plan =>
      sentEntry index plan.kind ((childOutcomes index outs).all (·.ok))) := by
  induction plans using List.reverseRecOn generalizing outs with
  | nil =>
    cases List.map_eq_nil_iff.mp houts
    rw [List.append_nil]
    exact perChild_offset hbefore
  | append_singleton plans plan ih =>
    rw [childOps_concat] at houts
    obtain ⟨init, last, rfl, hinit, hlast⟩ := List.map_eq_append_iff.mp houts
    have hplans := ih (fun plan hplan => hne plan (List.mem_append_left _ hplan)) hinit
    have hother : ∀ entry ∈ perChild (before ++ init), entry.index ≠ plans.length := by
      rw [hplans]
      intro entry hentry
      obtain ⟨index, hlt, rfl⟩ := List.mem_mapIdx.mp hentry
      exact ne_of_lt hlt
    have hphase : ∀ o ∈ last, o.op.phase = .child plans.length plan.kind := by
      intro o ho
      obtain ⟨op, -, hop⟩ := List.mem_map.mp (hlast ▸ List.mem_map_of_mem ho)
      rw [← hop]
      rfl
    have hlastne : last ≠ [] := by
      rintro rfl
      exact hne plan (List.mem_append_right _ List.mem_cons_self)
        (List.map_eq_nil_iff.mp hlast.symm)
    rw [← List.append_assoc, perChild_append hother hphase hlastne, hplans, List.mapIdx_concat]
    congr 1
    · refine List.ext_getElem (by simp) fun index hlt _ => ?_
      rw [List.length_mapIdx] at hlt
      rw [List.getElem_mapIdx, List.getElem_mapIdx, childOutcomes_append,
        childOutcomes_forChild hlast, if_neg (by omega), List.append_nil]
    · rw [childOutcomes_append, childOutcomes_of_le hinit le_rfl, childOutcomes_forChild hlast,
        if_pos rfl, List.nil_append]

/-- The outcomes of a child are those of its plan's packets. -/
theorem childOutcomes_ops {plans : List EffectPlan} {outs : List OpOutcome}
    (houts : outs.map (·.op) = childOps plans) {place : Nat} {plan : EffectPlan}
    (hplan : plans[place]? = some plan) :
    (childOutcomes place outs).map (·.op) = plan.ops.map (·.forChild place plan.kind) := by
  induction plans using List.reverseRecOn generalizing outs with
  | nil => cases hplan
  | append_singleton plans plan' ih =>
    rw [childOps_concat] at houts
    obtain ⟨init, last, rfl, hinit, hlast⟩ := List.map_eq_append_iff.mp houts
    rw [childOutcomes_append, childOutcomes_forChild hlast]
    by_cases hlt : place < plans.length
    · rw [List.getElem?_append_left hlt] at hplan
      rw [if_neg (by omega), List.append_nil]
      exact ih hinit hplan
    · rw [List.getElem?_append_right (by omega)] at hplan
      obtain ⟨hone, hlast'⟩ := List.getElem?_eq_some_iff.mp hplan
      rw [List.length_singleton] at hone
      rw [List.getElem_singleton] at hlast'
      subst hlast'
      have heq : plans.length = place := by omega
      rw [childOutcomes_of_le hinit (by omega), if_pos heq, List.nil_append, hlast, heq]

theorem planEffect_kind {inp : PlannerInputs} {force : Option Bool} {e : Effect}
    {plan : EffectPlan} (hplan : planEffect inp force e = .ok plan) : plan.kind = e.kind := by
  unfold planEffect at hplan
  split at hplan
  · cases hplan
    rfl
  · obtain ⟨found, -, hplan⟩ := bind_eq_ok.mp hplan
    split at hplan
    · split at hplan <;> cases hplan <;> rfl
    · obtain ⟨ops, -, hplan⟩ := bind_eq_ok.mp hplan
      cases hplan
      rfl

/-- An effect whose plan is not degraded has a packet, and none that is an `OPC_OFFSET`. -/
theorem planEffect_ops {inp : PlannerInputs} {force : Option Bool} {e : Effect}
    {plan : EffectPlan} (he : e.target.Canonical) (hplan : planEffect inp force e = .ok plan)
    (hdegraded : plan.degraded = false) :
    plan.ops ≠ [] ∧ ∀ op ∈ plan.ops, op.payload.opcode ≠ "OPC_OFFSET" := by
  rcases planEffect_cases he hplan with ⟨-, hd, -⟩ | ⟨targets, m, len, htargets, -, -, hops⟩
  · rw [hdegraded] at hd
    cases hd
  · obtain ⟨hne, -⟩ := addressed_of_resolveTarget he htargets
    rw [hops]
    refine ⟨by simpa using hne, fun op hop => ?_⟩
    obtain ⟨target, -, rfl⟩ := List.mem_map.mp hop
    unfold effectOp EffectKind.payload
    cases e.kind <;> simp [Payload.opcode]

theorem childPlans_ops {inp : PlannerInputs} {force : Option Bool} {actions : List Effect}
    {plans : List EffectPlan} (hactions : ∀ e ∈ actions, e.target.Canonical)
    (hplans : actions.mapM (planEffect inp force) = .ok plans)
    (hdegraded : plans.any (·.degraded) = false) :
    ∀ plan ∈ plans, plan.ops ≠ [] ∧ ∀ op ∈ plan.ops, op.payload.opcode ≠ "OPC_OFFSET" := by
  intro plan hplan
  obtain ⟨e, he, hplanned⟩ := exists_of_mem_mapM hplans hplan
  refine planEffect_ops (hactions e he) hplanned (Bool.eq_false_iff.mpr fun hd => ?_)
  exact Bool.eq_false_iff.mp hdegraded (List.any_eq_true.mpr ⟨plan, hplan, hd⟩)

/-- No child of such a container needs an entry from its plan. -/
theorem buildOffsetGroupDetail_children {detail : ContainerDetail} {outcomes : List OpOutcome}
    {ok : Nat → Bool}
    (h : perChild outcomes = detail.childPlans.mapIdx fun index plan =>
      sentEntry index plan.kind (ok index)) :
    (buildOffsetGroupDetail detail outcomes).children = perChild outcomes := by
  have hmissing : ((detail.childPlans.mapIdx planEntry).filter fun entry =>
      !(perChild outcomes).any (·.index = entry.index)) = [] := by
    refine List.filter_eq_nil_iff.mpr fun entry hentry => ?_
    obtain ⟨index, hlt, rfl⟩ := List.mem_mapIdx.mp hentry
    have hany : (perChild outcomes).any (fun e =>
        decide (e.index = (planEntry index detail.childPlans[index]).index)) = true := by
      rw [h]
      exact List.any_eq_true.mpr ⟨_, List.mem_mapIdx.mpr ⟨index, hlt, rfl⟩, by
        simp [sentEntry, planEntry]⟩
    simp only [hany, Bool.not_true, Bool.false_eq_true, not_false_eq_true]
  have hsorted : (perChild outcomes).Pairwise fun a b => a.index ≤ b.index := by
    rw [h, List.pairwise_iff_getElem]
    intro i j hi hj hlt
    rw [List.getElem_mapIdx, List.getElem_mapIdx]
    exact hlt.le
  unfold buildOffsetGroupDetail
  simp only [hmissing, List.append_nil]
  exact List.Pairwise.insertionSort_eq hsorted

/-! ## 4. A container's packets -/

section Packets

variable {ops : List OffsetOp} {plans : List EffectPlan} {first second : List OpOutcome}

theorem phase_of_toWire (hfirst : first.map (·.op) = ops.map (·.toWire)) :
    ∀ o ∈ first, o.op.phase = .offset ∧ o.isOffset = true := by
  intro o ho
  obtain ⟨op, -, hop⟩ := List.mem_map.mp (hfirst ▸ List.mem_map_of_mem ho)
  rw [OpOutcome.isOffset, ← hop]
  exact ⟨rfl, beq_iff_eq.mpr rfl⟩

theorem phase_of_childOps (hsecond : second.map (·.op) = childOps plans) :
    ∀ o ∈ second, ∃ index kind, o.op.phase = .child index kind := by
  intro o ho
  obtain ⟨place, plan, -, op, -, hop⟩ := mem_childOps.mp (hsecond ▸ List.mem_map_of_mem ho)
  rw [hop]
  exact ⟨_, _, rfl⟩

theorem offsetOutcomes_eq (hfirst : first.map (·.op) = ops.map (·.toWire))
    (hsecond : second.map (·.op) = childOps plans)
    (hplans : ∀ plan ∈ plans, ∀ op ∈ plan.ops, op.payload.opcode ≠ "OPC_OFFSET") :
    offsetOutcomes (first ++ second) = first := by
  have hall : first.filter (·.isOffset) = first :=
    List.filter_eq_self.mpr fun o ho => (phase_of_toWire hfirst o ho).2
  have hnone : second.filter (·.isOffset) = [] := by
    refine List.filter_eq_nil_iff.mpr fun o ho => ?_
    have hopcode : o.op.payload.opcode ≠ "OPC_OFFSET" :=
      (forall_childOps_iff (P := fun payload => payload.opcode ≠ "OPC_OFFSET")).mpr hplans o.op
        (hsecond ▸ List.mem_map_of_mem ho)
    simpa [OpOutcome.isOffset] using hopcode
  rw [offsetOutcomes, List.filter_append, hall, hnone, List.append_nil]

theorem childOutcomes_eq (hfirst : first.map (·.op) = ops.map (·.toWire)) (place : Nat) :
    childOutcomes place (first ++ second) = childOutcomes place second := by
  have hnone : childOutcomes place first = [] :=
    List.filter_eq_nil_iff.mpr fun o ho => by
      rw [(phase_of_toWire hfirst o ho).1]
      exact Bool.false_ne_true
  rw [childOutcomes_append, hnone, List.nil_append]

theorem rows_ok_iff {rows : List (Int × OffsetRow)} {outs : List OpOutcome}
    (h : List.Forall₂ RowTells rows outs) :
    (∀ row ∈ rows, row.2.ok = true) ↔ ∀ o ∈ outs, o.ok = true := by
  induction h with
  | nil => exact iff_of_true (List.forall_mem_nil _) (List.forall_mem_nil _)
  | cons hrow _ ih => rw [List.forall_mem_cons, List.forall_mem_cons, ih, hrow.ok]

theorem entries_ok_iff (hsecond : second.map (·.op) = childOps plans) :
    (∀ entry ∈ plans.mapIdx fun index plan =>
      sentEntry index plan.kind ((childOutcomes index second).all (·.ok)), entry.ok = true) ↔
      ∀ o ∈ second, o.ok = true := by
  constructor
  · intro h o ho
    obtain ⟨place, plan, hplan, op, -, hop⟩ := mem_childOps.mp (hsecond ▸ List.mem_map_of_mem ho)
    obtain ⟨hlt, -⟩ := List.getElem?_eq_some_iff.mp hplan
    have hall := List.all_eq_true.mp (h _ (List.mem_mapIdx.mpr ⟨place, hlt, rfl⟩))
    refine hall o (List.mem_filter.mpr ⟨ho, ?_⟩)
    rw [hop]
    exact decide_eq_true rfl
  · intro h entry hentry
    obtain ⟨place, hlt, rfl⟩ := List.mem_mapIdx.mp hentry
    exact List.all_eq_true.mpr fun o ho => h o (List.mem_filter.mp ho).1

end Packets

namespace Runner

/-! ## 5. The result -/

/-- A container's result, whatever became of its packets. -/
theorem foldOutcomes_container {inp : PlannerInputs} {target : Target} {offset : OffsetBlock}
    {actions : List Effect} (ha : (Action.offsetGroup target offset actions).Canonical)
    (hknown : inp.knownGroupIds.Nodup) (hrange : ∀ g ∈ inp.knownGroupIds, 0 ≤ g ∧ g ≤ 254)
    {plan : ActionDispatchPlan}
    (hplan : planActionDispatch inp (.offsetGroup target offset actions) = .ok plan)
    (hdegraded : plan.degraded = false) (index : Nat) {outcomes : List OpOutcome}
    (houtcomes : outcomes.map (·.op) = plan.ops) :
    ∃ detail, (foldOutcomes index plan outcomes).detail = .container detail ∧
      DetailTells inp offset actions outcomes detail ∧
      ((foldOutcomes index plan outcomes).ok = true ↔
        (∀ row ∈ detail.offsetPackets, row.2.ok = true) ∧
          ∀ entry ∈ detail.children, entry.ok = true) := by
  obtain ⟨⟨ht, hdevice⟩, -, ho, -, hchildren⟩ := ha
  have hne := planOffsetSetup_ops_ne_nil ht hdevice ho inp.knownGroupIds
  obtain ⟨setup, hsetup, hplan⟩ := bind_eq_ok.mp hplan
  obtain ⟨plans, hplans, hplan⟩ := bind_eq_ok.mp hplan
  cases hplan
  obtain ⟨first, second, rfl, hfirst, hsecond⟩ := List.map_eq_append_iff.mp houtcomes
  have hops := childPlans_ops (fun e he => (hchildren e he).1.1) hplans hdegraded
  have hentries := perChild_childOps (fun p hp => (hops p hp).1)
    (fun o ho => (phase_of_toWire hfirst o ho).1) hsecond
  obtain ⟨hrows, hgroups⟩ := offsetRows_offset
    (nodup_targetGroup ht hdevice ho hknown hrange hsetup) hfirst
  rw [← offsetRows_append_children (phase_of_childOps hsecond)] at hrows hgroups
  refine ⟨_, rfl, ⟨?_, ?_, ?_, ?_⟩, ?_⟩
  · rw [offsetOutcomes_eq hfirst hsecond fun p hp => (hops p hp).2]
    exact hrows
  · exact hgroups ▸ nodup_targetGroup ht hdevice ho hknown hrange hsetup
  · rw [buildOffsetGroupDetail_children hentries, hentries, List.length_mapIdx,
      length_of_mapM hplans]
  · intro place e he
    obtain ⟨hlt, -⟩ := List.getElem?_eq_some_iff.mp he
    rw [← length_of_mapM hplans] at hlt
    obtain ⟨e', he', hep⟩ := getElem?_of_mapM hplans (List.getElem?_eq_getElem hlt)
    cases he.symm.trans he'
    refine ⟨plans[place], sentEntry place plans[place].kind
      ((childOutcomes place second).all (·.ok)), hep, planEffect_kind hep, ?_, rfl, rfl, ?_, ?_⟩
    · rw [buildOffsetGroupDetail_children hentries, hentries, List.getElem?_mapIdx,
        List.getElem?_eq_getElem hlt]
      rfl
    · rw [childOutcomes_eq hfirst]
      exact childOutcomes_ops hsecond (List.getElem?_eq_getElem hlt)
    · rw [childOutcomes_eq hfirst]
      exact List.all_eq_true
  · have hpackets : setup.ops.map (·.toWire) ++ childOps plans ≠ [] := by
      obtain ⟨setup', hsetup', hnil⟩ := hne
      cases hsetup.symm.trans hsetup'
      simp [hnil]
    rw [foldOutcomes_ok, buildOffsetGroupDetail_children hentries, hentries,
      entries_ok_iff hsecond, and_iff_left fun h => absurd h hpackets, List.forall_mem_append]
    exact and_congr (rows_ok_iff hrows).symm Iff.rfl

variable (r : Runner)

/-- The loop goes through all packets, or raises. -/
theorem dispatchOps_ops {ops : List WireOp} {outcomes : List OpOutcome} {link link' : Link}
    (h : r.dispatchOps ops link = (.ok outcomes, link')) : outcomes.map (·.op) = ops := by
  induction ops generalizing outcomes link with
  | nil =>
    cases h
    rfl
  | cons op ops ih =>
    obtain ⟨ok, mid, -, h⟩ := Script.bind_eq_ok.mp h
    obtain ⟨rest, mid', hrest, h⟩ := Script.bind_eq_ok.mp h
    cases h
    rw [List.map_cons, ih hrest]

theorem executePlan_eq_ok {plan : ActionDispatchPlan} (hdegraded : plan.degraded = false)
    {index : Nat} {result : ActionResult} {link link' : Link}
    (h : r.executePlan index plan link = (.ok result, link')) :
    ∃ outcomes : List OpOutcome, r.dispatchOps plan.ops link = (.ok outcomes, link') ∧
      outcomes.map (·.op) = plan.ops ∧ result = foldOutcomes index plan outcomes := by
  rw [executePlan, if_neg (Bool.eq_false_iff.mp hdegraded)] at h
  obtain ⟨outcomes, mid, houtcomes, h⟩ := Script.bind_eq_ok.mp h
  cases h
  exact ⟨outcomes, houtcomes, r.dispatchOps_ops houtcomes, rfl⟩

theorem nodup_knownGroupIds (devices : List Device) : (r.knownGroupIds devices).Nodup := by
  unfold knownGroupIds
  split
  · exact (List.perm_insertionSort _ _).nodup_iff.mpr (List.nodup_dedup _)
  · exact List.nodup_nil

theorem knownGroupIds_range (devices : List Device) :
    ∀ g ∈ r.knownGroupIds devices, 0 ≤ g ∧ g ≤ 254 := by
  intro g hg
  unfold knownGroupIds at hg
  split at hg
  · have hmem := List.mem_dedup.mp ((List.perm_insertionSort _ _).mem_iff.mp hg)
    simpa using (List.mem_filter.mp hmem).2
  · cases hg

/-- **Containers.**  For every canonical container whose plan is not degraded: whatever became of
its packets, its detail has a row for each offset packet and an entry for each child, in their
order, each ok when its own packets are; and the result is ok when they all are.  What
`_execute_plan` returns is the result of what `_dispatch_ops` makes of the packets. -/
theorem offsetGroup_detail {target : Target} {offset : OffsetBlock} {actions : List Effect}
    (ha : (Action.offsetGroup target offset actions).Canonical) {devices : List Device}
    {plan : ActionDispatchPlan}
    (hplan : planActionDispatch (r.plannerInputs (r.knownGroupIds devices) devices)
      (.offsetGroup target offset actions) = .ok plan)
    (hdegraded : plan.degraded = false) (index : Nat) :
    (∀ outcomes : List OpOutcome, outcomes.map (·.op) = plan.ops →
      ∃ detail, (foldOutcomes index plan outcomes).detail = .container detail ∧
        DetailTells (r.plannerInputs (r.knownGroupIds devices) devices) offset actions outcomes
          detail ∧
        ((foldOutcomes index plan outcomes).ok = true ↔
          (∀ row ∈ detail.offsetPackets, row.2.ok = true) ∧
            ∀ entry ∈ detail.children, entry.ok = true)) ∧
    ∀ link link' result, r.executePlan index plan link = (.ok result, link') →
      ∃ outcomes : List OpOutcome, r.dispatchOps plan.ops link = (.ok outcomes, link') ∧
        outcomes.map (·.op) = plan.ops ∧ result = foldOutcomes index plan outcomes :=
  ⟨fun _ houtcomes => foldOutcomes_container ha (r.nodup_knownGroupIds devices)
      (r.knownGroupIds_range devices) hplan hdegraded index houtcomes,
    fun _ _ _ h => r.executePlan_eq_ok hdegraded h⟩

end Runner

/-- Two presets in a cascade: on each of its groups, and on all. -/
def cascadeChildren : List Effect :=
  [⟨.wledPreset, .groups [1, 2], [(.str "presetId", .int 3)], some ⟨fun _ => none⟩⟩,
   ⟨.wledPreset, .broadcast, [(.str "presetId", .int 4)], some ⟨fun _ => none⟩⟩]

theorem canonical_cascade :
    (Action.offsetGroup (.groups [1, 2]) (.linear 0 100) cascadeChildren).Canonical := by
  refine ⟨⟨⟨by decide, by decide, by decide⟩, trivial⟩, by decide, ?_, by decide, ?_⟩
  · exact ⟨⟨by decide, by decide⟩, by decide, by decide⟩
  · rintro c (_ | ⟨_, _ | ⟨_, hc⟩⟩)
    · exact ⟨⟨⟨by decide, by decide, by decide⟩, rfl⟩, by decide, by rintro _ ⟨⟩; decide⟩
    · exact ⟨⟨trivial, rfl⟩, by decide, trivial⟩
    · cases hc

theorem offsetGroup_detail_cascade :
    ∃ plan, planActionDispatch (bareRunner.plannerInputs (bareRunner.knownGroupIds []) [])
        (.offsetGroup (.groups [1, 2]) (.linear 0 100) cascadeChildren) = .ok plan ∧
      plan.degraded = false ∧ plan.ops.length = 5 ∧
      ∀ outcomes : List OpOutcome, outcomes.map (·.op) = plan.ops →
        ∃ detail, (Runner.foldOutcomes 0 plan outcomes).detail = .container detail ∧
          DetailTells (bareRunner.plannerInputs (bareRunner.knownGroupIds []) [])
            (.linear 0 100) cascadeChildren outcomes detail ∧
          ((Runner.foldOutcomes 0 plan outcomes).ok = true ↔
            (∀ row ∈ detail.offsetPackets, row.2.ok = true) ∧
              ∀ entry ∈ detail.children, entry.ok = true) :=
  ⟨_, rfl, rfl, rfl, (bareRunner.offsetGroup_detail canonical_cascade rfl rfl 0).1⟩

end RaceLink
