/-
# Planned and emitted sizes

The planner writes into every packet the length of its body; the cost estimator charges it.  It
sizes an `OPC_CONTROL` with a placeholder for the group and the flags, before there is a body.
The sender collects the fields again, from the merged parameters.

The lengths agree for every packet that goes out (`opFrame_sized`).  What can go wrong is that a
packet does not go out: an `OPC_CONTROL` is converted at planning, an `OPC_PRESET` only in its
sender, which raises half way through a plan that was not degraded.  `bodiesAsPlanned_iff` says
exactly when the bodies are the planned ones.
-/
import RaceLink.Dispatch.Outcomes

namespace RaceLink

open Python

/-! ## 1. Sized packets -/

/-- The length that planning writes into a packet is the one its parameters have. -/
def WireOp.Sized (op : WireOp) : Prop :=
  match op.payload with
  | .offset config => op.bodyBytes = config.bodyBytes
  | .control params _ => controlBodyLen params = .ok op.bodyBytes
  | .preset _ _ => op.bodyBytes = (buildPresetBody 0 0 0 0).length
  | .startblock params _ => controlBodyLen params = .ok op.bodyBytes
  | .sync _ triggerArmed =>
    op.bodyBytes = (buildSyncBody 0 0 (if triggerArmed then syncFlagTriggerArmed else 0)).length

theorem sized_buildEffectOp {inp : PlannerInputs} {kind : EffectKind} {params : Dict}
    {preset : PresetDetail} {target : SendTarget} {op : WireOp}
    (h : buildEffectOp inp kind params preset target = .ok op) : op.Sized := by
  rw [buildEffectOp_eq] at h
  obtain ⟨len, hlen, h⟩ := bind_eq_ok.mp h
  cases h
  cases kind with
  | wledPreset => exact (Except.ok.inj hlen).symm
  | rlPreset => exact hlen
  | wledControl => exact hlen
  | startblock => exact hlen

theorem sized_planEffect {inp : PlannerInputs} {force : Option Bool} {e : Effect}
    {plan : EffectPlan} (h : planEffect inp force e = .ok plan) : ∀ op ∈ plan.ops, op.Sized := by
  unfold planEffect at h
  split at h
  · cases h
    exact fun op hop => (nomatch hop)
  · obtain ⟨found, -, h⟩ := bind_eq_ok.mp h
    split at h
    · split at h <;> cases h <;> exact fun op hop => (nomatch hop)
    · obtain ⟨ops, hops, h⟩ := bind_eq_ok.mp h
      cases h
      intro op hop
      obtain ⟨target, -, htarget⟩ := exists_of_mem_mapM hops hop
      exact sized_buildEffectOp htarget

/-- **Every packet of a plan is sized.** -/
theorem sized_planActionDispatch {inp : PlannerInputs} {a : Action} {plan : ActionDispatchPlan}
    (h : planActionDispatch inp a = .ok plan) : ∀ op ∈ plan.ops, op.Sized := by
  cases a with
  | effect e =>
    obtain ⟨p, hp, h⟩ := bind_eq_ok.mp h
    cases h
    exact sized_planEffect hp
  | sync =>
    cases h
    intro op hop
    cases List.mem_singleton.mp hop
    rfl
  | delay durationMs =>
    cases h
    exact fun op hop => (nomatch hop)
  | offsetGroup target offset actions =>
    obtain ⟨setup, plans, -, hplans, hops, -⟩ := planOffsetGroup_eq_ok h
    rw [hops]
    refine List.forall_mem_append.mpr ⟨fun op hop => ?_, fun op hop => ?_⟩
    · obtain ⟨offsetOp, -, rfl⟩ := List.mem_map.mp hop
      exact offsetOp.bodyBytes_eq
    · obtain ⟨index, p, hp, op', hop', rfl⟩ := mem_childOps.mp hop
      obtain ⟨e, -, he⟩ := exists_of_mem_mapM hplans (List.mem_of_getElem? hp)
      exact sized_planEffect he op' hop'

/-! ## 2. What is emitted -/

/-- The opcode a payload goes out with. -/
def Payload.typeFull : Payload → UInt8
  | .offset _ => opcOffset
  | .control _ _ => opcControl
  | .preset _ _ => opcPreset
  | .startblock _ _ => opcControl
  | .sync _ _ => opcSync

theorem length_buildSyncBody (ts24 brightness flags : Int) :
    (buildSyncBody ts24 brightness flags).length = if byteOf flags = 0 then 4 else 5 := by
  unfold buildSyncBody
  dsimp only
  split <;> rfl

/-- The body of an `OPC_CONTROL` has the planned length, whatever its group and flags. -/
theorem length_of_controlBodyLen {params : Dict} {fields : ControlFields} {len : Nat}
    (hlen : controlBodyLen params = .ok len) (hfields : controlFields params = .ok fields)
    {groupId flags : Int} {body : List UInt8}
    (h : buildControlBody groupId flags fields = .ok body) :
    body.length = len := by
  rw [controlBodyLen, hfields, ok_bind] at hlen
  obtain ⟨body', hbody', hlen⟩ := bind_eq_ok.mp hlen
  have hsame := length_buildControlBody groupId flags 0 0 fields
  rw [h, hbody'] at hsame
  exact (Except.ok.inj hsame).trans (Except.ok.inj hlen)

/-- The lists of opcodes and lengths. -/
def emitted (frames : List Frame) : List (UInt8 × Nat) :=
  frames.map fun frame => (frame.typeFull, frame.body.length)

/-- The same, as planned. -/
def planned (ops : List WireOp) : List (UInt8 × Nat) :=
  ops.map fun op => (op.payload.typeFull, op.bodyBytes)

namespace Runner

variable (r : Runner)

/-- **One packet**: its frame has the planned length. -/
theorem opFrame_sized {ids : List WireId} {sent : Nat} {op : WireOp} {frame : Frame}
    (hop : op.Sized) (h : r.opFrame ids sent op = .ok frame) :
    (frame.typeFull, frame.body.length) = (op.payload.typeFull, op.bodyBytes) := by
  unfold opFrame at h
  unfold WireOp.Sized at hop
  cases hpayload : op.payload with
  | offset config =>
    simp only [hpayload] at h hop
    obtain ⟨-, rfl⟩ := checkedFrame_eq_ok.mp h
    rw [hop, ← length_buildOffsetBody (op.targetGroup % 256) config]
    rfl
  | control params target =>
    simp only [hpayload] at h hop
    obtain ⟨fields, hfields, h⟩ := bind_eq_ok.mp h
    obtain ⟨receiver, -, h⟩ := bind_eq_ok.mp h
    obtain ⟨body, hbody, h⟩ := bind_eq_ok.mp h
    obtain ⟨-, rfl⟩ := checkedFrame_eq_ok.mp h
    rw [length_of_controlBodyLen hop hfields hbody]
    rfl
  | preset params target =>
    simp only [hpayload] at h hop
    obtain ⟨presetId, -, h⟩ := bind_eq_ok.mp h
    obtain ⟨brightness, -, h⟩ := bind_eq_ok.mp h
    obtain ⟨receiver, -, h⟩ := bind_eq_ok.mp h
    obtain ⟨-, rfl⟩ := checkedFrame_eq_ok.mp h
    rw [hop]
    rfl
  | startblock params target =>
    simp only [hpayload] at h
    cases h
  | sync brightness triggerArmed =>
    simp only [hpayload] at h hop
    obtain ⟨-, rfl⟩ := checkedFrame_eq_ok.mp h
    rw [hop, length_buildSyncBody, length_buildSyncBody]
    rfl

/-- The packets of a plan, when all of them have a frame. -/
theorem emitted_opFrames {ids : List WireId} {sent : Nat} {ops : List WireOp} {frames : List Frame}
    (hops : ∀ op ∈ ops, op.Sized) (h : r.opFrames ids sent ops = .ok frames) :
    emitted frames = planned ops := by
  induction ops generalizing sent frames with
  | nil =>
    cases h
    rfl
  | cons op ops ih =>
    obtain ⟨hop, hops⟩ := List.forall_mem_cons.mp hops
    obtain ⟨frame, hframe, h⟩ := bind_eq_ok.mp h
    obtain ⟨rest, hrest, h⟩ := bind_eq_ok.mp h
    cases h
    rw [emitted, List.map_cons, r.opFrame_sized hop hframe]
    exact congrArg _ (ih hops hrest)

/-! ## 3. Which plans are emitted whole -/

/-- Executing the plan of the action emits the planned bodies: one for one, in order, each with its
opcode and its length. -/
def BodiesAsPlanned (known : List Int) (index : Nat) (a : Action) (plan : ActionDispatchPlan)
    (link : Link) : Prop :=
  emitted ((newPackets link (r.dispatch known index a link).2).map (·.frame)) = planned plan.ops

/-- The parameters of every `OPC_PRESET` of the action convert. -/
def PresetsConvert (a : Action) : Prop :=
  ∀ e ∈ a.effects, e.kind = .wledPreset → PresetParamsConvert e.params

end Runner

/-- An effect whose plan is not degraded goes through, unless it is a preset whose parameters do
not convert. -/
theorem ready_iff_of_planned {inp : PlannerInputs} {force : Option Bool} {e : Effect}
    {plan : EffectPlan} (he : e.Plain) (hplan : planEffect inp force e = .ok plan)
    (hdegraded : plan.degraded = false) :
    e.Ready inp ↔ (e.kind = .wledPreset → PresetParamsConvert e.params) := by
  rcases planEffect_cases he.1 hplan with
    ⟨-, hd, -⟩ | ⟨targets, m, len, htargets, hm, -, hops⟩
  · rw [hdegraded] at hd
    cases hd
  by_cases hkind : e.kind = .wledPreset
  · have hparams : m.params = e.params := by
      rw [materialize, hkind, if_neg (by decide)] at hm
      cases hm
      rfl
    have hconvert : e.kind.ParamsConvert m.params ↔ PresetParamsConvert e.params := by
      rw [hkind, ← hparams]
      rfl
    constructor
    · rintro ⟨targets', m', -, hm', h⟩ -
      cases hm.symm.trans hm'
      exact hconvert.mp h
    · intro h
      exact ⟨targets, m, htargets, hm, hconvert.mpr (h hkind)⟩
  · refine iff_of_true ⟨targets, m, htargets, hm, ?_⟩ fun h => absurd h hkind
    -- planning has sized a body, so the parameters convert
    obtain ⟨hne, -⟩ := addressed_of_resolveTarget he.1 htargets
    obtain ⟨target, htarget⟩ := List.exists_mem_of_ne_nil targets hne
    have hsized := sized_planEffect hplan _ (hops ▸ List.mem_map_of_mem htarget)
    have hstartblock := he.2
    cases hk : e.kind with
    | wledPreset => exact absurd hk hkind
    | startblock => exact absurd hk hstartblock
    | rlPreset =>
      simp only [hk, effectOp, WireOp.Sized, EffectKind.payload,
        controlBodyLen_mergeFlags] at hsized
      exact ⟨len, hsized⟩
    | wledControl =>
      simp only [hk, effectOp, WireOp.Sized, EffectKind.payload,
        controlBodyLen_mergeFlags] at hsized
      exact ⟨len, hsized⟩

/-- The same for an action. -/
theorem action_ready_iff_of_planned {inp : PlannerInputs} {a : Action} {plan : ActionDispatchPlan}
    (ha : a.Plain) (hplan : planActionDispatch inp a = .ok plan)
    (hdegraded : plan.degraded = false) : a.Ready inp ↔ Runner.PresetsConvert a := by
  have heffects : ∀ e ∈ a.effects,
      (e.Ready inp ↔ (e.kind = .wledPreset → PresetParamsConvert e.params)) := by
    intro e he
    cases a with
    | effect e' =>
      cases List.mem_singleton.mp he
      obtain ⟨p, hp, hplan⟩ := bind_eq_ok.mp hplan
      cases hplan
      exact ready_iff_of_planned (ha.effects e he) hp hdegraded
    | sync => cases he
    | delay durationMs => cases he
    | offsetGroup target offset actions =>
      obtain ⟨setup, plans, -, hplans, -, hany⟩ := planOffsetGroup_eq_ok hplan
      obtain ⟨p, hp, hplan⟩ := exists_mem_of_mapM hplans he
      have hall : p.degraded = false := by
        rw [hdegraded] at hany
        simpa using List.any_eq_false.mp hany.symm p hp
      exact ready_iff_of_planned (ha.effects e he) hplan hall
  exact forall₂_congr heffects

namespace Runner

variable (r : Runner)

/-- Bodies of another number are not the planned ones. -/
theorem not_planned_of_fewer {frames : List Frame} {ops : List WireOp}
    (h : frames.length < ops.length) : emitted frames ≠ planned ops := by
  intro heq
  have hlen := congrArg List.length heq
  rw [emitted, planned, List.length_map, List.length_map] at hlen
  omega

/-- **Planned and emitted sizes.**  For every canonical action that is not a startblock, every state
of the link and every store: when its plan is not degraded, executing it emits bodies of the
planned opcodes and lengths, one for one and in order, exactly when the action is a delay, or there
is a transport and the parameters of its `OPC_PRESET` packets convert. -/
theorem bodiesAsPlanned_iff {known : List Int} {a : Action} {link : Link}
    {plan : ActionDispatchPlan} (ha : a.Plain)
    (hplan : planActionDispatch (r.plannerInputs known link.devices) a = .ok plan)
    (hdegraded : plan.degraded = false) (index : Nat) :
    r.BodiesAsPlanned known index a plan link ↔
      (∃ durationMs, a = .delay durationMs) ∨ link.transport.isSome = true ∧ PresetsConvert a := by
  have hready := action_ready_iff_of_planned ha hplan hdegraded
  unfold BodiesAsPlanned
  by_cases hdelay : ∃ durationMs, a = .delay durationMs
  · refine iff_of_true ?_ (Or.inl hdelay)
    obtain ⟨durationMs, rfl⟩ := hdelay
    cases hplan
    have hlink : (r.dispatch known index (.delay durationMs) link).2 = link := rfl
    rw [hlink, newPackets_self]
    rfl
  rw [or_iff_right hdelay, ← hready]
  cases ht : link.transport with
  | none =>
    refine iff_of_false ?_ fun h => Bool.false_ne_true h.1
    rw [(r.dispatch_none ht known ha index).1, newPackets_self]
    refine not_planned_of_fewer (List.length_pos_of_ne_nil ?_)
    exact ops_ne_nil ha (not_exists.mp hdelay) hplan hdegraded
  | some outcomes =>
    by_cases h : a.Ready (r.plannerInputs known link.devices)
    · obtain ⟨plan', frames, hplan', hframes, -, hsends⟩ := r.dispatch_ready ht ha h index
      cases hplan.symm.trans hplan'
      refine iff_of_true ?_ ⟨rfl, h⟩
      rw [newPackets_of_sends hsends]
      exact r.emitted_opFrames (sized_planActionDispatch hplan) hframes
    · obtain ⟨-, frames, hsends, -, hfewer⟩ := r.dispatch_unready ht ha h index
      have hfewer := hfewer plan hplan
      rw [hdegraded, if_neg Bool.false_ne_true] at hfewer
      refine iff_of_false ?_ fun hboth => h hboth.2
      rw [newPackets_of_sends hsends]
      exact not_planned_of_fewer hfewer

end Runner

/-- A preset whose parameters convert. -/
theorem bodiesAsPlanned_presetOnOne : ∃ plan,
    planActionDispatch (bareRunner.plannerInputs [] []) presetOnOne = .ok plan ∧
    bareRunner.BodiesAsPlanned [] 0 presetOnOne plan (freshLink (some fun _ => .success)) := by
  refine ⟨_, rfl, (@Runner.bodiesAsPlanned_iff bareRunner [] _ _ _ presetOnOne_plain rfl rfl 0).mpr
    (Or.inr ⟨rfl, ?_⟩)⟩
  intro e he _
  cases List.mem_singleton.mp he
  exact ⟨⟨3, rfl⟩, 128, rfl⟩

/-- An `OPC_PRESET` for all, whose preset is no number. -/
def presetUnnamed : Action :=
  .effect ⟨.wledPreset, .broadcast, [(.str "presetId", .str "party")], some ⟨fun _ => none⟩⟩

/-- The planner charges four bytes for it, and nothing is sent. -/
theorem presetUnnamed_not_emitted : presetUnnamed.Plain ∧
    ∃ plan, planActionDispatch (bareRunner.plannerInputs [] []) presetUnnamed = .ok plan ∧
      plan.degraded = false ∧ plan.ops.map (·.bodyBytes) = [4] ∧
      (bareRunner.dispatch [] 0 presetUnnamed (freshLink (some fun _ => .success))).2.sent = [] ∧
      ¬ bareRunner.BodiesAsPlanned [] 0 presetUnnamed plan
        (freshLink (some fun _ => .success)) := by
  refine ⟨⟨⟨trivial, rfl⟩, by decide⟩, _, rfl, rfl, rfl, rfl, fun h => ?_⟩
  have hlen := congrArg List.length h
  exact absurd hlen (by decide)

end RaceLink
