/-
# The cost estimator

`estimate_action` runs the runner's planner and counts the packets of the plan.  Its docstring
promises that a runner that emits N packets for an action finds N predicted.

Both sides read the same plan, by different rules: the runner sends nothing of a degraded plan and
stops at a packet it cannot build, the estimator counts every packet.  For an effect this comes
to the same when its target or preset is not found, since its plan is then empty.  For a container
it does not: `costPredicted_iff` asks of it that every child goes through.  The estimate of a scene
is the sum of its actions' (`estimateScene_predicts`).
-/
import RaceLink.Dispatch.Outcomes

namespace RaceLink

open Python

/-! ## 1. The estimator -/

/-- `ActionCost`.  The two times are floating point and left out. -/
structure ActionCost where
  packets : Nat
  bytes : Nat
  detail : PlanDetail

def radioHeaderBytes : Nat := 7
def usbFramingBytes : Nat := 2

/-- `add_packet`. -/
def ActionCost.addPacket (cost : ActionCost) (bodyBytes : Nat) : ActionCost :=
  { cost with
    packets := cost.packets + 1
    bytes := cost.bytes + (bodyBytes + radioHeaderBytes) + usbFramingBytes }

/-- The cost of the packets of a plan. -/
def costOfOps (ops : List WireOp) : ActionCost :=
  ops.foldl (fun (cost : ActionCost) op => cost.addPacket op.bodyBytes) ⟨0, 0, .empty⟩

/-- `estimate_action`. -/
def estimateAction (inp : PlannerInputs) : Action → Except PyErr ActionCost
  | .delay _ => pure ⟨0, 0, .empty⟩
  | a => do
    let plan ← planActionDispatch inp a
    pure { costOfOps plan.ops with detail := stripRuntimeOnly plan.detail }

/-- `SceneCost`. -/
structure SceneCost where
  total : ActionCost
  perAction : List ActionCost

/-- `estimate_scene`. -/
def estimateScene (inp : PlannerInputs) (actions : List Action) : Except PyErr SceneCost := do
  let perAction ← actions.mapM (estimateAction inp)
  pure ⟨⟨(perAction.map (·.packets)).sum, (perAction.map (·.bytes)).sum, .empty⟩, perAction⟩

theorem packets_foldl_addPacket (ops : List WireOp) : ∀ cost : ActionCost,
    (ops.foldl (fun (cost : ActionCost) op => cost.addPacket op.bodyBytes) cost).packets
      = cost.packets + ops.length := by
  induction ops with
  | nil => exact fun cost => rfl
  | cons op ops ih =>
    intro cost
    rw [List.foldl_cons, ih, List.length_cons, Nat.add_comm ops.length 1, ← Nat.add_assoc]
    rfl

theorem packets_costOfOps (ops : List WireOp) : (costOfOps ops).packets = ops.length :=
  (packets_foldl_addPacket ops _).trans (Nat.zero_add _)

/-- The prediction is the number of packets of the plan. -/
theorem estimateAction_packets_iff {inp : PlannerInputs} {a : Action} {n : Nat} :
    (∃ cost, estimateAction inp a = .ok cost ∧ n = cost.packets) ↔
      ∃ plan, planActionDispatch inp a = .ok plan ∧ n = plan.ops.length := by
  by_cases hdelay : ∃ durationMs, a = .delay durationMs
  · obtain ⟨durationMs, rfl⟩ := hdelay
    constructor
    · rintro ⟨cost, hcost, hn⟩
      cases hcost
      exact ⟨_, rfl, hn⟩
    · rintro ⟨plan, hplan, hn⟩
      cases hplan
      exact ⟨_, rfl, hn⟩
  · have hestimate : estimateAction inp a = (do
        let plan ← planActionDispatch inp a
        pure { costOfOps plan.ops with detail := stripRuntimeOnly plan.detail }) := by
      cases a with
      | delay durationMs => exact absurd ⟨durationMs, rfl⟩ hdelay
      | _ => rfl
    rw [hestimate]
    cases planActionDispatch inp a with
    | error e => simp
    | ok plan => simp [packets_costOfOps]

/-! ## 2. Predicted and sent -/

namespace Runner

variable (r : Runner)

/-- The estimator, given what the runner plans with, predicts the number of packets the runner
sends for the action. -/
def CostPredicted (known : List Int) (index : Nat) (a : Action) (link : Link) : Prop :=
  ∃ cost, estimateAction (r.plannerInputs known link.devices) a = .ok cost ∧
    (newPackets link (r.dispatch known index a link).2).length = cost.packets

/-- Every effect goes through, or it is a single effect whose target or preset is not found. -/
def Predictable (inp : PlannerInputs) : Action → Prop
  | .effect e => e.Ready inp ∨ e.Unresolved inp
  | .offsetGroup _ _ actions => ∀ e ∈ actions, e.Ready inp
  | .sync => True
  | .delay _ => True

theorem predictable_of_ready {inp : PlannerInputs} {a : Action} (h : a.Ready inp) :
    Predictable inp a := by
  cases a with
  | effect e => exact Or.inl (h e List.mem_cons_self)
  | offsetGroup target offset actions => exact h
  | sync => trivial
  | delay durationMs => trivial

/-- An action that is not ready has an empty plan exactly when it is an effect whose target or
preset is not found. -/
theorem degraded_empty_iff {inp : PlannerInputs} {a : Action} (ha : a.Plain)
    (h : ¬ a.Ready inp) :
    (∃ plan, planActionDispatch inp a = .ok plan ∧ plan.degraded = true ∧ plan.ops = []) ↔
      Predictable inp a := by
  cases a with
  | effect e =>
    have hunready : ¬ e.Ready inp := fun he => h fun e' he' => List.mem_singleton.mp he' ▸ he
    rw [Predictable, or_iff_right hunready]
    constructor
    · rintro ⟨plan, hplan, hdegraded, -⟩
      obtain ⟨p, hp, hplan⟩ := bind_eq_ok.mp hplan
      cases hplan
      rcases planEffect_cases ha.canonical.1 hp with ⟨hunresolved, -⟩ | ⟨_, _, _, -, -, hd, -⟩
      · exact hunresolved
      · exact absurd (hd.symm.trans hdegraded) Bool.false_ne_true
    · intro hunresolved
      obtain ⟨p, hp, hdegraded, hops⟩ := planEffect_unresolved hunresolved none
      exact ⟨p.toAction, by rw [planActionDispatch, hp]; rfl, hdegraded, hops⟩
  | offsetGroup target offset actions =>
    obtain ⟨⟨ht, hd⟩, -, ho, -, -⟩ := ha.canonical
    obtain ⟨setup, hsetup, hne⟩ := planOffsetSetup_ops_ne_nil ht hd ho inp.knownGroupIds
    refine iff_of_false ?_ h
    rintro ⟨plan, hplan, -, hnil⟩
    obtain ⟨setup', _, hsetup', -, hops, -⟩ := planOffsetGroup_eq_ok hplan
    cases hsetup.symm.trans hsetup'
    rw [hops, List.append_eq_nil_iff, List.map_eq_nil_iff] at hnil
    exact hne hnil.1
  | sync => exact absurd (List.forall_mem_nil _) h
  | delay durationMs => exact absurd (List.forall_mem_nil _) h

theorem length_newPackets {frames : List Frame} {link link' : Link} (h : Sends frames link link') :
    (newPackets link link').length = frames.length := by
  rw [← newPackets_of_sends h, List.length_map]

/-- **The prediction**, for every canonical action that is not a startblock, every repository, list
of known groups and preset store, and whatever the transport answers: it is right exactly when
every effect of the action goes through, or the action is one effect whose target or preset is
not found. -/
theorem costPredicted_iff {outcomes : TransportOutcomes} {link : Link}
    (ht : link.transport = some outcomes) (known : List Int) (index : Nat) {a : Action}
    (ha : a.Plain) :
    r.CostPredicted known index a link ↔ Predictable (r.plannerInputs known link.devices) a := by
  rw [CostPredicted, estimateAction_packets_iff]
  by_cases hready : a.Ready (r.plannerInputs known link.devices)
  · obtain ⟨plan, frames, hplan, hframes, -, hsends⟩ := r.dispatch_ready ht ha hready index
    refine iff_of_true ⟨plan, hplan, ?_⟩ (predictable_of_ready hready)
    rw [length_newPackets hsends, r.length_opFrames _ hframes]
  · obtain ⟨-, frames, hsends, -, hfewer⟩ := r.dispatch_unready ht ha hready index
    rw [← degraded_empty_iff ha hready, length_newPackets hsends]
    refine exists_congr fun plan => and_congr_right fun hplan => ?_
    have hfewer := hfewer plan hplan
    split at hfewer
    · next hdegraded =>
      rw [hfewer, List.length_nil, eq_comm, List.length_eq_zero_iff]
      exact (and_iff_right hdegraded).symm
    · next hdegraded => exact iff_of_false hfewer.ne fun h => hdegraded h.1

/-! ## 3. A scene -/

/-- What a predictable action sends. -/
theorem dispatch_predictable {outcomes : TransportOutcomes} {link : Link}
    (ht : link.transport = some outcomes) {known : List Int} (index : Nat) {a : Action}
    (ha : a.Plain) (h : Predictable (r.plannerInputs known link.devices) a) :
    ∃ cost frames, estimateAction (r.plannerInputs known link.devices) a = .ok cost ∧
      Sends frames link (r.dispatch known index a link).2 ∧ frames.length = cost.packets := by
  by_cases hready : a.Ready (r.plannerInputs known link.devices)
  · obtain ⟨plan, frames, hplan, hframes, -, hsends⟩ := r.dispatch_ready ht ha hready index
    obtain ⟨cost, hcost, hpackets⟩ := estimateAction_packets_iff.mpr ⟨plan, hplan, rfl⟩
    exact ⟨cost, frames, hcost, hsends, (r.length_opFrames _ hframes).trans hpackets⟩
  · obtain ⟨-, frames, hsends, -, hfewer⟩ := r.dispatch_unready ht ha hready index
    obtain ⟨plan, hplan, hdegraded, hops⟩ := (degraded_empty_iff ha hready).mpr h
    obtain ⟨cost, hcost, hpackets⟩ := estimateAction_packets_iff.mpr ⟨plan, hplan, rfl⟩
    have hnone := hfewer plan hplan
    rw [if_pos hdegraded] at hnone
    exact ⟨cost, frames, hcost, hsends, by rw [← hpackets, hnone, hops]; rfl⟩

variable {devices devices' : List Device}

theorem getDeviceFromAddress_wireIds (h : devices'.map (·.wireId) = devices.map (·.wireId))
    (addr : String) : getDeviceFromAddress devices' addr = getDeviceFromAddress devices addr := by
  have haddrs := congrArg (List.map WireId.addr) h
  rw [List.map_map, List.map_map] at haddrs
  rw [getDeviceFromAddress_addrs, getDeviceFromAddress_addrs,
    show devices'.map (·.addr) = devices.map (·.addr) from haddrs]

/-- The planner sees of the devices what a packet takes from them. -/
theorem resolveTarget_wireIds (h : devices'.map (·.wireId) = devices.map (·.wireId))
    (known : List Int) :
    resolveTarget (r.plannerInputs known devices') =
      resolveTarget (r.plannerInputs known devices) := by
  funext t
  cases t with
  | device value =>
    have hlookup : (r.plannerInputs known devices').deviceLookup value =
        (r.plannerInputs known devices).deviceLookup value := by
      unfold PlannerInputs.deviceLookup plannerInputs
      dsimp only
      rw [getDeviceFromAddress_wireIds h]
    rw [resolveTarget, resolveTarget, hlookup]
  | broadcast => rfl
  | groups value => rfl

theorem targetGroupForOp_wireIds (h : devices'.map (·.wireId) = devices.map (·.wireId))
    (known : List Int) :
    targetGroupForOp (r.plannerInputs known devices') =
      targetGroupForOp (r.plannerInputs known devices) := by
  funext t
  cases t with
  | group gid => rfl
  | device place =>
    have hplace := congrArg (·[place]?) h
    simp only [List.getElem?_map] at hplace
    unfold targetGroupForOp plannerInputs
    cases hdev' : devices'[place]? with
    | none =>
      rw [hdev', Option.map_none, eq_comm, Option.map_eq_none_iff] at hplace
      simp only [hdev', hplace]
    | some dev' =>
      rw [hdev', Option.map_some, eq_comm, Option.map_eq_some_iff] at hplace
      obtain ⟨dev, hdev, hid⟩ := hplace
      simp only [hdev', hdev, show dev'.groupId = dev.groupId from congrArg WireId.groupId hid.symm]

theorem planEffect_wireIds (h : devices'.map (·.wireId) = devices.map (·.wireId))
    (known : List Int) :
    planEffect (r.plannerInputs known devices') = planEffect (r.plannerInputs known devices) := by
  have hbuild : buildEffectOp (r.plannerInputs known devices') =
      buildEffectOp (r.plannerInputs known devices) := by
    unfold buildEffectOp
    rw [r.targetGroupForOp_wireIds h known]
  funext force e
  rw [planEffect, planEffect, r.resolveTarget_wireIds h known, hbuild]
  rfl

/-- A plan depends on nothing that a packet leaves in the records. -/
theorem planActionDispatch_wireIds (h : devices'.map (·.wireId) = devices.map (·.wireId))
    (known : List Int) :
    planActionDispatch (r.plannerInputs known devices') =
      planActionDispatch (r.plannerInputs known devices) := by
  funext a
  cases a with
  | effect e => rw [planActionDispatch, planActionDispatch, r.planEffect_wireIds h known]
  | offsetGroup target offset actions =>
    rw [planActionDispatch, planActionDispatch, planOffsetGroup, planOffsetGroup,
      r.planEffect_wireIds h known]
    rfl
  | sync => rfl
  | delay durationMs => rfl

theorem estimateAction_wireIds (h : devices'.map (·.wireId) = devices.map (·.wireId))
    (known : List Int) :
    estimateAction (r.plannerInputs known devices') =
      estimateAction (r.plannerInputs known devices) := by
  funext a
  cases a <;> simp only [estimateAction, r.planActionDispatch_wireIds h known]

theorem predictable_wireIds (h : devices'.map (·.wireId) = devices.map (·.wireId))
    (known : List Int) {a : Action} (ha : Predictable (r.plannerInputs known devices) a) :
    Predictable (r.plannerInputs known devices') a := by
  cases a with
  | effect e =>
    unfold Predictable Effect.Ready Effect.Unresolved at ha ⊢
    rwa [r.resolveTarget_wireIds h known]
  | offsetGroup target offset actions =>
    unfold Predictable Effect.Ready at ha ⊢
    rwa [r.resolveTarget_wireIds h known]
  | sync => trivial
  | delay durationMs => trivial

theorem knownGroupIds_wireIds (h : devices'.map (·.wireId) = devices.map (·.wireId)) :
    r.knownGroupIds devices' = r.knownGroupIds devices := by
  have hgroups := congrArg (List.map WireId.groupId) h
  rw [List.map_map, List.map_map] at hgroups
  unfold knownGroupIds
  rw [show devices'.map (·.groupId) = devices.map (·.groupId) from hgroups]

/-- The estimates of the actions, and what the loop sends when nothing stops it. -/
theorem runActions_predicted {outcomes : TransportOutcomes} {stopOnError : Bool}
    {actions : List Action} (hplain : ∀ a ∈ actions, a.Plain) {index : Nat} {link : Link}
    (ht : link.transport = some outcomes)
    (hpredictable : ∀ a ∈ actions,
      Predictable (r.plannerInputs (r.knownGroupIds link.devices) link.devices) a)
    (hends : (r.runActions stopOnError index actions link).1.2 = none) :
    ∃ costs frames,
      actions.mapM (estimateAction
        (r.plannerInputs (r.knownGroupIds link.devices) link.devices)) = .ok costs ∧
      Sends frames link (r.runActions stopOnError index actions link).2 ∧
      frames.length = (costs.map (·.packets)).sum := by
  induction actions generalizing index link with
  | nil => exact ⟨[], [], rfl, .refl link, rfl⟩
  | cons a rest ih =>
    obtain ⟨ha, hrest⟩ := List.forall_mem_cons.mp hplain
    obtain ⟨hpa, hprest⟩ := List.forall_mem_cons.mp hpredictable
    obtain ⟨cost, frames, hcost, hsends, hlength⟩ := r.dispatch_predictable ht index ha hpa
    rcases hrun : r.dispatch (r.knownGroupIds link.devices) index a link with ⟨result, link'⟩
    rw [hrun] at hsends
    simp only [runActions, hrun] at hends ⊢
    split at hends
    · cases hends
    · next hgoes =>
      rw [if_neg hgoes]
      have hids : link'.devices.map (·.wireId) = link.devices.map (·.wireId) := hsends.wireIds
      obtain ⟨costs, more, hcosts, hmore, htotal⟩ := ih hrest (hsends.transport.trans ht)
        (fun b hb => by
          rw [r.knownGroupIds_wireIds hids]
          exact r.predictable_wireIds hids _ (hprest b hb)) hends
      rw [r.knownGroupIds_wireIds hids, r.estimateAction_wireIds hids] at hcosts
      refine ⟨cost :: costs, frames ++ more, ?_, hsends.trans hmore, ?_⟩
      · rw [List.mapM_cons, hcost, hcosts]
        rfl
      · rw [List.length_append, hlength, htotal, List.map_cons, List.sum_cons]

/-- **The prediction for a scene**: where its actions are predictable and nothing stops its run, it
sends as many packets as `estimate_scene` says, whatever its actions leave in the records. -/
theorem estimateScene_predicts {outcomes : TransportOutcomes} {stopOnError : Bool}
    {actions : List Action} (hplain : ∀ a ∈ actions, a.Plain) (index : Nat) {link : Link}
    (ht : link.transport = some outcomes)
    (hpredictable : ∀ a ∈ actions,
      Predictable (r.plannerInputs (r.knownGroupIds link.devices) link.devices) a)
    (hends : (r.runActions stopOnError index actions link).1.2 = none) :
    ∃ cost, estimateScene (r.plannerInputs (r.knownGroupIds link.devices) link.devices) actions
        = .ok cost ∧
      (newPackets link (r.runActions stopOnError index actions link).2).length
        = cost.total.packets := by
  obtain ⟨costs, frames, hcosts, hsends, htotal⟩ :=
    r.runActions_predicted hplain ht hpredictable hends
  refine ⟨_, by rw [estimateScene, hcosts]; rfl, ?_⟩
  rw [length_newPackets hsends, htotal]

end Runner

theorem costPredicted_presetOnOne :
    bareRunner.CostPredicted [1] 0 presetOnOne (freshLink (some fun _ => .timeout)) :=
  (bareRunner.costPredicted_iff rfl [1] 0 presetOnOne_plain).mpr
    (Or.inl ⟨[.group 1], _, rfl, rfl, ⟨3, rfl⟩, 128, rfl⟩)

/-- A container with two children, one for a device that is not in the repository. -/
def strangerInContainer : Action :=
  .offsetGroup (.groups [1]) (.linear 0 100)
    [⟨.wledControl, .groups [1], [(.str "brightness", .int 128)], some ⟨fun _ => none⟩⟩,
      ⟨.wledControl, .device "AABBCCDDEEFF", [(.str "brightness", .int 128)],
        some ⟨fun _ => none⟩⟩]

theorem strangerInContainer_plain : strangerInContainer.Plain := by
  refine ⟨⟨⟨⟨by decide, by decide, by decide⟩, trivial⟩, by decide,
    ⟨⟨by decide, by decide⟩, by decide, by decide⟩, by decide, ?_⟩, by decide⟩
  refine List.forall_mem_cons.mpr ⟨?_, List.forall_mem_cons.mpr ⟨?_, fun e he => (nomatch he)⟩⟩
  · exact ⟨⟨⟨by decide, by decide, by decide⟩, rfl⟩, by decide, fun _ hp => by
      cases hp
      exact fun _ hg => hg⟩
  · exact ⟨⟨(by decide : isMac12 "AABBCCDDEEFF" = true), rfl⟩, by decide, trivial⟩

/-- Two packets are predicted, the container's and the first child's.  The plan is degraded, and
the runner sends none. -/
theorem strangerInContainer_overpredicted : strangerInContainer.Plain ∧
    ((estimateAction (bareRunner.plannerInputs [1] []) strangerInContainer).map (·.packets)
      = .ok 2) ∧
    (bareRunner.dispatch [1] 0 strangerInContainer
      (freshLink (some fun _ => .success))).2.sent = [] ∧
    ¬ bareRunner.CostPredicted [1] 0 strangerInContainer (freshLink (some fun _ => .success)) := by
  refine ⟨strangerInContainer_plain, rfl, rfl, ?_⟩
  rintro ⟨cost, hcost, hlen⟩
  cases hcost
  cases hlen

end RaceLink
