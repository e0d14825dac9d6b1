/-
# Results and outcomes

What an action's result says about its packets.  `dispatch_ready`, `dispatch_unready` and
`dispatch_none` are the spec of `_dispatch`: with a transport a ready action sends all its frames
and is ok whatever became of them, any other action fails; without one only a sync is ok.

The senders drop the `SendOutcome` and return `True`, and `_dispatch_op` returns `True` for a sync
that returns nothing.  So the result is ok for packets that were rejected or timed out, and
`outcomesReported_iff` says exactly when the result tells the truth.
-/
import RaceLink.Dispatch.Ready

namespace RaceLink

open Python

namespace Runner

variable (r : Runner)

/-! ## 1. What an action's dispatch does -/

/-- A plan that is not degraded, whose packets all have frames: they are sent, and it is ok. -/
theorem executePlan_sends {outcomes : TransportOutcomes} {link : Link}
    (h : link.transport = some outcomes) {plan : ActionDispatchPlan} (hplan : plan.degraded = false)
    (hops : ∀ op ∈ plan.ops, ¬ op.payload.IsStartblock) {frames : List Frame}
    (hframes : r.opFrames link.wireIds link.sent.length plan.ops = .ok frames) (index : Nat) :
    ∃ link', r.executePlan index plan link
        = (.ok (foldOutcomes index plan (plan.ops.map (⟨·, true⟩))), link') ∧
      Sends frames link link' := by
  obtain ⟨link', hlink', hsends⟩ := r.dispatchOps_sends h hops hframes
  refine ⟨link', ?_, hsends⟩
  rw [executePlan, hplan, if_neg Bool.false_ne_true, Script.bind_of_ok hlink']
  rfl

/-- Such a plan with a packet that has none: it raises, with fewer packets sent. -/
theorem executePlan_raises {outcomes : TransportOutcomes} {link : Link}
    (h : link.transport = some outcomes) {plan : ActionDispatchPlan} (hplan : plan.degraded = false)
    (hops : ∀ op ∈ plan.ops, ¬ op.payload.IsStartblock) {e : PyErr}
    (hframes : r.opFrames link.wireIds link.sent.length plan.ops = .error e) (index : Nat) :
    ∃ link' frames, r.executePlan index plan link = (.error e, link') ∧ Sends frames link link' ∧
      frames.length < plan.ops.length := by
  obtain ⟨link', frames, hlink', hsends, hfewer⟩ := r.dispatchOps_raises h hops hframes
  refine ⟨link', frames, ?_, hsends, hfewer⟩
  rw [executePlan, hplan, if_neg Bool.false_ne_true, Script.bind_run, hlink']

/-- A degraded plan is not executed. -/
theorem executePlan_degraded {plan : ActionDispatchPlan} (hplan : plan.degraded = true)
    (index : Nat) (link : Link) :
    ∃ result, r.executePlan index plan link = (.ok result, link) ∧ result.ok = false := by
  rw [executePlan, if_pos hplan]
  exact ⟨_, rfl, rfl⟩

/-- The fold is a conjunction; a container without packets fails. -/
theorem foldOutcomes_ok (index : Nat) (plan : ActionDispatchPlan) (outcomes : List OpOutcome) :
    (foldOutcomes index plan outcomes).ok = true ↔
      (∀ outcome ∈ outcomes, outcome.ok = true) ∧
        (plan.ops = [] → ∀ detail, plan.detail ≠ .container detail) := by
  unfold foldOutcomes
  cases hdetail : plan.detail with
  | container detail => simp [List.all_eq_true]
  | _ => simp [List.all_eq_true]

/-- Without a transport a plan that has packets, none of them a sync, fails or raises. -/
theorem executePlan_none {link : Link} (h : link.transport = none) {plan : ActionDispatchPlan}
    (hops : ∀ op ∈ plan.ops, ¬ op.payload.IsStartblock ∧ ¬ op.payload.IsSync)
    (hne : plan.degraded = false → plan.ops ≠ []) (index : Nat) :
    (∃ e, r.executePlan index plan link = (.error e, link)) ∨
      ∃ result, r.executePlan index plan link = (.ok result, link) ∧ result.ok = false := by
  by_cases hdegraded : plan.degraded = true
  · exact Or.inr (r.executePlan_degraded hdegraded index link)
  · rw [executePlan, if_neg hdegraded]
    rcases r.dispatchOps_none h hops with ⟨e, he⟩ | hfalse
    · exact Or.inl ⟨e, by rw [Script.bind_run, he]⟩
    · refine Or.inr ⟨_, Script.bind_of_ok hfalse, ?_⟩
      obtain ⟨op, hop⟩ := List.exists_mem_of_ne_nil _ (hne (Bool.not_eq_true _ ▸ hdegraded))
      rw [← Bool.not_eq_true, foldOutcomes_ok]
      rintro ⟨hall, -⟩
      exact Bool.false_ne_true (hall _ (List.mem_map_of_mem hop))

/-- Everything but a delay is planned and executed. -/
theorem handle_run (known : List Int) (index : Nat) {a : Action}
    (ha : ∀ durationMs, a ≠ .delay durationMs) (link : Link) :
    r.handle known index a link =
      match planActionDispatch (r.plannerInputs known link.devices) a with
      | .ok plan => r.executePlan index plan link
      | .error e => (.error e, link) := by
  have hhandle : r.handle known index a = r.planAndExecute known index a := by
    cases a with
    | delay durationMs => exact absurd rfl (ha durationMs)
    | _ => rfl
  rw [hhandle, planAndExecute, Script.bind_of_ok (Script.get_run link), Script.bind_run,
    Script.lift_run]
  cases planActionDispatch (r.plannerInputs known link.devices) a <;> rfl

/-- A handler that returns gives the result, and the state it has reached. -/
theorem dispatch_of_ok {known : List Int} {index : Nat} {a : Action} {link link' : Link}
    {result : ActionResult} (h : r.handle known index a link = (.ok result, link')) :
    r.dispatch known index a link = (result, link') := by
  rw [dispatch, Script.recover, h]

/-- A handler that raises gives a failure that is not a degradation. -/
theorem dispatch_of_error {known : List Int} {index : Nat} {a : Action} {link link' : Link}
    {e : PyErr} (h : r.handle known index a link = (.error e, link')) :
    (r.dispatch known index a link).1.ok = false ∧
      (r.dispatch known index a link).1.degraded = false ∧
      (r.dispatch known index a link).2 = link' := by
  rw [dispatch, Script.recover, h]
  exact ⟨rfl, rfl, rfl⟩

/-- **Ready actions**, with a transport: every frame is sent and the result is ok, whatever the
outcomes are. -/
theorem dispatch_ready {outcomes : TransportOutcomes} {link : Link}
    (ht : link.transport = some outcomes) {known : List Int} {a : Action} (ha : a.Plain)
    (h : a.Ready (r.plannerInputs known link.devices)) (index : Nat) :
    ∃ plan frames,
      planActionDispatch (r.plannerInputs known link.devices) a = .ok plan ∧
      r.opFrames link.wireIds link.sent.length plan.ops = .ok frames ∧
      (r.dispatch known index a link).1.ok = true ∧
      Sends frames link (r.dispatch known index a link).2 := by
  obtain ⟨plan, hplan, hdegraded, hnil, hencodes⟩ := planActionDispatch_ready ha h
  obtain ⟨frames, hframes⟩ :=
    (r.opFrames_ok_iff link.wireIds link.sent.length plan.ops).mpr hencodes
  refine ⟨plan, frames, hplan, hframes, ?_⟩
  by_cases hdelay : ∃ durationMs, a = .delay durationMs
  · obtain ⟨durationMs, rfl⟩ := hdelay
    cases hplan
    cases hframes
    exact ⟨rfl, .refl link⟩
  · rw [not_exists] at hdelay
    have hpayload := planActionDispatch_payload ha hplan
    obtain ⟨link', hlink', hsends⟩ :=
      r.executePlan_sends ht hdegraded (fun op hop => (hpayload op hop).1) hframes index
    have hrun := r.handle_run known index hdelay link
    rw [hplan] at hrun
    rw [dispatch_of_ok r (hrun.trans hlink')]
    refine ⟨(foldOutcomes_ok index plan _).mpr ⟨?_, fun hops => ?_⟩, hsends⟩
    · simp
    · obtain ⟨durationMs, rfl⟩ := hnil hops
      exact absurd rfl (hdelay durationMs)

/-- **Other actions**, with a transport: the result is a failure, with nothing sent for a degraded
plan and fewer frames than planned otherwise. -/
theorem dispatch_unready {outcomes : TransportOutcomes} {link : Link}
    (ht : link.transport = some outcomes) {known : List Int} {a : Action} (ha : a.Plain)
    (h : ¬ a.Ready (r.plannerInputs known link.devices)) (index : Nat) :
    (r.dispatch known index a link).1.ok = false ∧
    ∃ frames, Sends frames link (r.dispatch known index a link).2 ∧
      ((r.dispatch known index a link).1.degraded = true → frames = []) ∧
      ∀ plan, planActionDispatch (r.plannerInputs known link.devices) a = .ok plan →
        if plan.degraded then frames = [] else frames.length < plan.ops.length := by
  have hdelay : ∀ durationMs, a ≠ .delay durationMs := by
    rintro durationMs rfl
    exact h fun e he => (nomatch he)
  have hrun := r.handle_run known index hdelay link
  cases hplan : planActionDispatch (r.plannerInputs known link.devices) a with
  | error e =>
    rw [hplan] at hrun
    obtain ⟨hok, hdegraded, hlink⟩ := dispatch_of_error r hrun
    rw [hlink]
    exact ⟨hok, [], .refl link, fun _ => rfl, fun plan hp => (nomatch hp)⟩
  | ok plan =>
    rw [hplan] at hrun
    by_cases hdegraded : plan.degraded = true
    · obtain ⟨result, hresult, hok⟩ := r.executePlan_degraded hdegraded index link
      rw [dispatch_of_ok r (hrun.trans hresult)]
      refine ⟨hok, [], .refl link, fun _ => rfl, fun plan' hplan' => ?_⟩
      cases hplan'
      rw [if_pos hdegraded]
    · obtain ⟨op, hop, hnot⟩ :=
        (planActionDispatch_unready ha h hplan).resolve_left hdegraded
      cases hframes : r.opFrames link.wireIds link.sent.length plan.ops with
      | ok frames =>
        exact absurd ((r.opFrames_ok_iff _ _ _).mp ⟨frames, hframes⟩ op hop) hnot
      | error e =>
        have hpayload := planActionDispatch_payload ha hplan
        obtain ⟨link', frames, hraise, hsends, hfewer⟩ := r.executePlan_raises ht
          (Bool.not_eq_true _ ▸ hdegraded) (fun op hop => (hpayload op hop).1) hframes index
        obtain ⟨hok, hnot, hlink⟩ := dispatch_of_error r (hrun.trans hraise)
        rw [hlink]
        refine ⟨hok, frames, hsends, fun hd => ?_, fun plan' hplan' => ?_⟩
        · rw [hnot] at hd
          cases hd
        · cases hplan'
          rw [if_neg hdegraded]
          exact hfewer

/-- A plan that is not degraded has packets, unless it is a delay's. -/
theorem ops_ne_nil {inp : PlannerInputs} {a : Action} {plan : ActionDispatchPlan} (ha : a.Plain)
    (hdelay : ∀ durationMs, a ≠ .delay durationMs) (hplan : planActionDispatch inp a = .ok plan)
    (hdegraded : plan.degraded = false) : plan.ops ≠ [] := by
  intro hnil
  by_cases h : a.Ready inp
  · obtain ⟨plan', hplan', -, hdelay', -⟩ := planActionDispatch_ready ha h
    rw [hplan] at hplan'
    cases hplan'
    obtain ⟨durationMs, rfl⟩ := hdelay' hnil
    exact hdelay durationMs rfl
  · rcases planActionDispatch_unready ha h hplan with hd | ⟨op, hop, -⟩
    · rw [hdegraded] at hd
      cases hd
    · rw [hnil] at hop
      cases hop

/-- A sync without a transport is ok. -/
theorem dispatch_sync_none {link : Link} (ht : link.transport = none) (known : List Int)
    (index : Nat) :
    (r.dispatch known index .sync link).1.ok = true ∧
      (r.dispatch known index .sync link).2 = link := by
  have hsync : sendSync (r.clockMs link.sent.length % 0x1000000) 0 true link = (.ok (), link) := by
    rw [sendSync, Script.bind_of_ok (Script.get_run link)]
    simp only [ht]
    rfl
  have hdispatch : r.dispatchOps planSync.ops link
      = (.ok (planSync.ops.map (⟨·, true⟩)), link) :=
    Script.bind_of_ok (a := true) (Script.bind_of_ok hsync)
  have hexecute : r.executePlan index planSync link
      = (.ok (foldOutcomes index planSync (planSync.ops.map (⟨·, true⟩))), link) := by
    rw [executePlan, if_neg (by decide), Script.bind_of_ok hdispatch]
    rfl
  have hrun := r.handle_run known index (a := .sync) (fun _ => Action.noConfusion) link
  rw [dispatch_of_ok r (hrun.trans hexecute)]
  exact ⟨rfl, rfl⟩

/-- **Without a transport** nothing is sent, and only a sync or a delay is ok. -/
theorem dispatch_none {link : Link} (ht : link.transport = none) (known : List Int) {a : Action}
    (ha : a.Plain) (index : Nat) :
    (r.dispatch known index a link).2 = link ∧
      ((r.dispatch known index a link).1.ok = true ↔
        a = .sync ∨ ∃ durationMs, a = .delay durationMs) := by
  by_cases hdelay : ∃ durationMs, a = .delay durationMs
  · obtain ⟨durationMs, rfl⟩ := hdelay
    exact ⟨rfl, iff_of_true rfl (Or.inr ⟨durationMs, rfl⟩)⟩
  by_cases hsync : a = .sync
  · subst hsync
    have hsent := r.dispatch_sync_none ht known index
    exact ⟨hsent.2, iff_of_true hsent.1 (Or.inl rfl)⟩
  have hfails : (r.dispatch known index a link).2 = link ∧
      (r.dispatch known index a link).1.ok = false := by
    rw [not_exists] at hdelay
    have hrun := r.handle_run known index hdelay link
    cases hplan : planActionDispatch (r.plannerInputs known link.devices) a with
    | error e =>
      rw [hplan] at hrun
      obtain ⟨hok, -, hlink⟩ := dispatch_of_error r hrun
      exact ⟨hlink, hok⟩
    | ok plan =>
      rw [hplan] at hrun
      have hpayload := planActionDispatch_payload ha hplan
      rcases r.executePlan_none ht (fun op hop => (hpayload op hop).imp_right fun h => h hsync)
        (ops_ne_nil ha hdelay hplan) index with ⟨e, he⟩ | ⟨result, hresult, hok⟩
      · obtain ⟨hok, -, hlink⟩ := dispatch_of_error r (hrun.trans he)
        exact ⟨hlink, hok⟩
      · rw [dispatch_of_ok r (hrun.trans hresult)]
        exact ⟨rfl, hok⟩
  refine ⟨hfails.1, iff_of_false ?_ (not_or.mpr ⟨hsync, hdelay⟩)⟩
  rw [hfails.2]
  exact Bool.false_ne_true

/-! ## 2. What the result says about the packets -/

/-- The packets that went out between two states of the link. -/
def newPackets (link link' : Link) : List SentPacket := link'.sent.drop link.sent.length

theorem newPackets_self (link : Link) : newPackets link link = [] := List.drop_length

/-- The dispatch of an action in a scene, with the groups that are known then. -/
def dispatchNow (index : Nat) (a : Action) (link : Link) : ActionResult × Link :=
  r.dispatch (r.knownGroupIds link.devices) index a link

/-- Every packet the action plans was sent with outcome `SUCCESS`. -/
def AllSent (a : Action) (link link' : Link) : Prop :=
  ∃ plan,
    planActionDispatch (r.plannerInputs (r.knownGroupIds link.devices) link.devices) a = .ok plan ∧
    r.opFrames link.wireIds link.sent.length plan.ops
      = .ok ((newPackets link link').map (·.frame)) ∧
    ∀ packet ∈ newPackets link link', packet.outcome = .success

/-- The result of an action tells what became of its packets: it is ok only if all were sent with
outcome `SUCCESS`, and another outcome stops a scene that is to stop on errors. -/
structure OutcomesReported (index : Nat) (a : Action) (rest : List Action) (link : Link) :
    Prop where
  ok : (r.dispatchNow index a link).1.ok = true →
    r.AllSent a link (r.dispatchNow index a link).2
  abort : (∃ packet ∈ newPackets link (r.dispatchNow index a link).2,
      packet.outcome ≠ .success) →
    (r.runActions true index (a :: rest) link).1.2 = some index

/-- The action fails before all its packets are out, or nothing happens to them: no outcome but
`SUCCESS`, and no sync without a transport. -/
def OutcomesHarmless (a : Action) (link : Link) : Prop :=
  let inp := r.plannerInputs (r.knownGroupIds link.devices) link.devices
  ¬ a.Ready inp ∨
    match link.transport with
    | none => a ≠ .sync
    | some outcomes => ∀ plan, planActionDispatch inp a = .ok plan →
        ∀ k < plan.ops.length, outcomes (link.sent.length + k) = .success

theorem newPackets_of_sends {frames : List Frame} {link link' : Link}
    (h : Sends frames link link') : (newPackets link link').map (·.frame) = frames := by
  obtain ⟨packets, hsent, hframes, -⟩ := h.sent
  rw [newPackets, hsent, List.drop_left, hframes]

/-- The outcomes of the packets are the transport's next ones. -/
theorem success_of_sends_iff {frames : List Frame} {link link' : Link}
    (h : Sends frames link link') {outcomes : TransportOutcomes}
    (ht : link.transport = some outcomes) :
    (∀ packet ∈ newPackets link link', packet.outcome = .success) ↔
      ∀ k < frames.length, outcomes (link.sent.length + k) = .success := by
  obtain ⟨packets, hsent, hframes, hout⟩ := h.sent
  have hout := hout outcomes ht
  rw [newPackets, hsent, List.drop_left]
  constructor
  · intro hall k hk
    have hmem : outcomes (link.sent.length + k) ∈ packets.map (·.outcome) := by
      rw [hout]
      exact List.mem_map.mpr ⟨k, List.mem_range.mpr hk, rfl⟩
    obtain ⟨packet, hpacket, heq⟩ := List.mem_map.mp hmem
    exact heq ▸ hall packet hpacket
  · intro hall packet hpacket
    have hmem : packet.outcome ∈ packets.map (·.outcome) := List.mem_map_of_mem hpacket
    rw [hout] at hmem
    obtain ⟨k, hk, heq⟩ := List.mem_map.mp hmem
    exact heq ▸ hall k (List.mem_range.mp hk)

/-- A failure that is not a degradation stops the scene. -/
theorem runActions_aborts {index : Nat} {a : Action} {link : Link} (rest : List Action)
    (hok : (r.dispatchNow index a link).1.ok = false)
    (hdegraded : (r.dispatchNow index a link).1.degraded = false) :
    (r.runActions true index (a :: rest) link).1.2 = some index := by
  have haborts : aborts true (r.dispatchNow index a link).1 = true := by
    rw [aborts, hok, hdegraded]
    rfl
  rw [dispatchNow] at haborts
  rw [runActions]
  simp only [haborts, if_true]

theorem outcomesReported_of_unready {a : Action} (ha : a.Plain) {link : Link}
    (h : ¬ a.Ready (r.plannerInputs (r.knownGroupIds link.devices) link.devices)) (index : Nat)
    (rest : List Action) : r.OutcomesReported index a rest link := by
  cases ht : link.transport with
  | none =>
    obtain ⟨hlink, hok⟩ := r.dispatch_none ht (r.knownGroupIds link.devices) ha index
    refine ⟨fun hdispatch => ?_, ?_⟩
    · refine absurd (fun e he => ?_) h
      rcases hok.mp hdispatch with rfl | ⟨durationMs, rfl⟩ <;> cases he
    · rintro ⟨packet, hpacket, -⟩
      rw [dispatchNow, hlink, newPackets_self] at hpacket
      cases hpacket
  | some outcomes =>
    obtain ⟨hok, frames, hsends, hdegraded, -⟩ := r.dispatch_unready ht ha h index
    refine ⟨fun hdispatch => absurd (hok.symm.trans hdispatch) Bool.false_ne_true, ?_⟩
    rintro ⟨packet, hpacket, -⟩
    refine r.runActions_aborts rest hok ?_
    by_contra hd
    have hframes := newPackets_of_sends hsends
    rw [hdegraded ((Bool.not_eq_false _).mp hd), List.map_eq_nil_iff] at hframes
    rw [dispatchNow, hframes] at hpacket
    cases hpacket

/-- **Results and outcomes.**  For every canonical action that is not a startblock, in every state
of the link and for every sequence of outcomes: the result tells what became of the packets
exactly when there was nothing to tell. -/
theorem outcomesReported_iff {a : Action} (ha : a.Plain) (index : Nat) (rest : List Action)
    (link : Link) : r.OutcomesReported index a rest link ↔ r.OutcomesHarmless a link := by
  by_cases hready : a.Ready (r.plannerInputs (r.knownGroupIds link.devices) link.devices)
  swap
  · exact iff_of_true (r.outcomesReported_of_unready ha hready index rest) (Or.inl hready)
  rw [OutcomesHarmless, or_iff_right (not_not.mpr hready)]
  cases ht : link.transport with
  | none =>
    obtain ⟨hlink, hok⟩ := r.dispatch_none ht (r.knownGroupIds link.devices) ha index
    have hpackets : newPackets link (r.dispatchNow index a link).2 = [] := by
      rw [dispatchNow, hlink, newPackets_self]
    constructor
    · rintro hreported rfl
      obtain ⟨plan, hplan, hframes, -⟩ := hreported.ok (hok.mpr (Or.inl rfl))
      cases hplan
      rw [hpackets] at hframes
      cases r.length_opFrames _ hframes
    · intro hsync
      refine ⟨fun hdispatch => ?_, ?_⟩
      · obtain ⟨durationMs, rfl⟩ := (hok.mp hdispatch).resolve_left hsync
        refine ⟨_, rfl, ?_, ?_⟩
        · rw [hpackets]
          rfl
        · rw [hpackets]
          exact fun packet hpacket => (nomatch hpacket)
      · rintro ⟨packet, hpacket, -⟩
        rw [hpackets] at hpacket
        cases hpacket
  | some outcomes =>
    obtain ⟨plan, frames, hplan, hframes, hok, hsends⟩ := r.dispatch_ready ht ha hready index
    have hsuccess := success_of_sends_iff hsends ht
    rw [r.length_opFrames _ hframes] at hsuccess
    constructor
    · intro hreported plan' hplan'
      cases hplan.symm.trans hplan'
      obtain ⟨-, -, -, hall⟩ := hreported.ok hok
      exact hsuccess.mp hall
    · intro hharmless
      have hall := hsuccess.mpr (hharmless plan hplan)
      refine ⟨fun _ => ⟨plan, hplan, ?_, hall⟩, ?_⟩
      · rw [dispatchNow, newPackets_of_sends hsends]
        exact hframes
      · rintro ⟨packet, hpacket, hnot⟩
        exact absurd (hall packet hpacket) hnot

end Runner

/-- A runner without stores, in front of an empty repository. -/
def bareRunner : Runner :=
  { rlPresetLookup := none, hasDeviceLookup := true, hasDeviceRepository := true
    clockMs := fun _ => 0, sendStartblockControl := none }

/-- A link with nothing sent yet. -/
def freshLink (transport : Option TransportOutcomes) : Link := ⟨[], transport, []⟩

/-- Preset 3 at brightness 128, on group 1. -/
def presetOnOne : Action :=
  .effect ⟨.wledPreset, .groups [1],
    [(.str "presetId", .int 3), (.str "brightness", .int 128)], some ⟨fun _ => none⟩⟩

theorem presetOnOne_plain : presetOnOne.Plain :=
  ⟨⟨⟨by decide, by decide, by decide⟩, rfl⟩, by decide⟩

theorem outcomesReported_presetOnOne :
    bareRunner.OutcomesReported 0 presetOnOne [] (freshLink (some fun _ => .success)) :=
  (bareRunner.outcomesReported_iff presetOnOne_plain 0 [] _).mpr
    (Or.inr fun _ _ _ _ => rfl)

/-- The gateway rejects the preset's packet.  The action is ok, and the scene goes on. -/
theorem rejectedPreset_ok : presetOnOne.Plain ∧
    (bareRunner.dispatchNow 0 presetOnOne (freshLink (some fun _ => .rejected 0x01))).1.ok = true ∧
    (bareRunner.dispatchNow 0 presetOnOne (freshLink (some fun _ => .rejected 0x01))).2.sent
      = [⟨⟨0x04, [0xFF, 0xFF, 0xFF], [1, 5, 3, 128]⟩, .rejected 0x01⟩] ∧
    (bareRunner.runActions true 0 [presetOnOne, .sync]
      (freshLink (some fun _ => .rejected 0x01))).1.2 = none ∧
    ¬ bareRunner.OutcomesReported 0 presetOnOne [.sync]
      (freshLink (some fun _ => .rejected 0x01)) := by
  refine ⟨presetOnOne_plain, rfl, rfl, rfl, fun hreported => ?_⟩
  obtain ⟨-, -, -, hall⟩ := hreported.ok rfl
  exact absurd (hall ⟨⟨0x04, [0xFF, 0xFF, 0xFF], [1, 5, 3, 128]⟩, .rejected 0x01⟩
    List.mem_cons_self) (by decide)

end RaceLink
