/-
# The flags byte

Byte 1 of an `OPC_PRESET` and of an `OPC_CONTROL` is the same byte by protocol contract.  The two
senders build it with one function, from the same parameters: the user's flags agree for all of
them.  The power flag does not.  `send_wled_control` derives it from the brightness byte it sends,
`send_wled_preset` from the brightness before it is masked, so the two differ for a brightness
whose low byte says otherwise than its sign (`senders_flagContract_iff`).

A scene gets its flags into those parameters through the planner, which takes the flags of the
action apart and puts them together again.  Section 3 follows them from the action to the byte.
-/
import RaceLink.Dispatch.Outcomes
import RaceLink.Presets.Specials
import RaceLink.Startblock.Report

namespace RaceLink

open Python

/-! ## 1. What a packet says -/

/-- The bit of a user's flag. -/
def UserFlag.bit : UserFlag → Nat
  | .armOnSync => flagArmOnSync
  | .forceTt0 => flagForceTt0
  | .forceReapply => flagForceReapply
  | .offsetMode => flagOffsetMode

/-- The flags byte of an `OPC_PRESET` or an `OPC_CONTROL`. -/
def Frame.flagsByte (f : Frame) : Option UInt8 := f.body[1]?

/-- The brightness byte: the last of an `OPC_PRESET`, the first field of an `OPC_CONTROL`. -/
def Frame.brightnessByte (f : Frame) : Option UInt8 :=
  if f.typeFull = opcPreset then f.body[3]?
  else if f.typeFull = opcControl then (parseControlBody f.body).bind (·.brightness)
  else none

/-- The power flag says whether the brightness byte is not zero. -/
def Frame.PowerMatches (f : Frame) : Prop :=
  ∃ flags brightness, f.flagsByte = some flags ∧ f.brightnessByte = some brightness ∧
    (hasBit flags (UInt8.ofNat flagPowerOn) = true ↔ brightness ≠ 0)

/-- The bits of the byte are what it was built from. -/
theorem hasBit_flagsByte (powerOn : Bool) (user : UserFlag → Bool) :
    hasBit (byteOf (buildFlagsByte powerOn true user)) (UInt8.ofNat flagPowerOn) = powerOn ∧
      ∀ k : UserFlag,
        hasBit (byteOf (buildFlagsByte powerOn true user)) (UInt8.ofNat k.bit) = user k := by
  have hbits : ∀ p a b c d : Bool,
      let flags := byteOf (Nat.cast ((if p then flagPowerOn else 0) |||
        (if a then flagArmOnSync else 0) ||| flagHasBri ||| (if b then flagForceTt0 else 0) |||
        (if c then flagForceReapply else 0) ||| (if d then flagOffsetMode else 0)))
      hasBit flags (UInt8.ofNat flagPowerOn) = p ∧ hasBit flags (UInt8.ofNat flagArmOnSync) = a ∧
        hasBit flags (UInt8.ofNat flagForceTt0) = b ∧
        hasBit flags (UInt8.ofNat flagForceReapply) = c ∧
        hasBit flags (UInt8.ofNat flagOffsetMode) = d := by
    decide
  obtain ⟨hpower, hsync, htt0, hreapply, hoffset⟩ := hbits powerOn (user .armOnSync)
    (user .forceTt0) (user .forceReapply) (user .offsetMode)
  refine ⟨hpower, fun k => ?_⟩
  cases k with
  | armOnSync => exact hsync
  | forceTt0 => exact htt0
  | forceReapply => exact hreapply
  | offsetMode => exact hoffset

/-- The flags of the user's that a sender finds in its parameters. -/
def userFlags (params : Dict) (k : UserFlag) : Bool := (Dict.get params k.key).truthy

/-- The flags and the brightness of an `OPC_PRESET`. -/
theorem presetFrame_says {ids : List WireId} {params : Dict} {target : SendTarget} {f : Frame}
    (h : presetFrame ids params target = .ok f) :
    ∃ brightness, int (Dict.getD params "brightness" (.int 0)) = .ok brightness ∧
      f.typeFull = opcPreset ∧
      f.flagsByte = some (byteOf (senderFlags brightness params)) ∧
      f.brightnessByte = some (byteOf brightness) := by
  obtain ⟨presetId, -, h⟩ := bind_eq_ok.mp h
  obtain ⟨brightness, hbrightness, h⟩ := bind_eq_ok.mp h
  obtain ⟨receiver, -, h⟩ := bind_eq_ok.mp h
  obtain ⟨-, rfl⟩ := checkedFrame_eq_ok.mp h
  exact ⟨brightness, hbrightness, rfl, rfl, rfl⟩

/-- Those of an `OPC_CONTROL`. -/
theorem controlFrame_says {ids : List WireId} {params : Dict} {target : SendTarget} {f : Frame}
    (h : controlFrame ids params target = .ok f) :
    ∃ fields, controlFields params = .ok fields ∧ f.typeFull = opcControl ∧
      f.flagsByte = some (byteOf (senderFlags (fields.brightness.getD 0) params)) ∧
      f.brightnessByte = fields.brightness.map byteOf := by
  obtain ⟨fields, hfields, h⟩ := bind_eq_ok.mp h
  obtain ⟨receiver, -, h⟩ := bind_eq_ok.mp h
  obtain ⟨body, hbody, h⟩ := bind_eq_ok.mp h
  obtain ⟨-, rfl⟩ := checkedFrame_eq_ok.mp h
  have hrgb := (buildControlBody_eq_ok_iff _ _ fields).mp ⟨body, hbody⟩
  obtain ⟨body', hbody', hparse, -⟩ := parseControlBody_buildControlBody receiver.2
    (senderFlags (fields.brightness.getD 0) params) fields hrgb
  obtain rfl : body' = body := Except.ok.inj (hbody'.symm.trans hbody)
  rw [buildControlBody_eq _ _ hrgb] at hbody
  refine ⟨fields, hfields, rfl, ?_, ?_⟩
  · rw [Frame.flagsByte, ← Except.ok.inj hbody]
    rfl
  · rw [Frame.brightnessByte, if_neg (by decide : opcControl ≠ opcPreset), if_pos rfl, hparse]
    rfl

theorem intField_brightness {params : Dict} {fields : ControlFields}
    (h : controlFields params = .ok fields) :
    intField params "brightness" = .ok fields.brightness := by
  simp only [controlFields, bind_eq_ok] at h
  obtain ⟨brightness, hbrightness,
    _, -, _, -, _, -, _, -, _, -, _, -, _, -, _, -, _, -, _, -, h⟩ := h
  cases h
  exact hbrightness

/-! ## 2. The two senders -/

/-- The contract of the two opcodes, of the packet that each sender has put on the wire. -/
def FlagContract (link link₁ link₂ : Link) : Prop :=
  ∃ preset control, Runner.newPackets link link₁ = [preset] ∧
    Runner.newPackets link link₂ = [control] ∧
    preset.frame.flagsByte = control.frame.flagsByte ∧
    preset.frame.PowerMatches ∧ control.frame.PowerMatches

/-- A sender that has returned `True` has sent its frame. -/
theorem Delivers.sends {x : Script Link Bool} {link link' : Link} {frame : Except PyErr Frame}
    (h : Delivers x link frame) {ok : Bool} (hrun : x link = (.ok ok, link')) :
    ∃ f, frame = .ok f ∧ Sends [f] link link' := by
  cases frame with
  | error e =>
    obtain ⟨link'', hraise, -⟩ := h.raises e rfl
    cases hraise.symm.trans hrun
  | ok f =>
    obtain ⟨link'', hok, hsends⟩ := h.ok f rfl
    cases hok.symm.trans hrun
    exact ⟨f, rfl, hsends⟩

theorem newPackets_singleton {f : Frame} {link link' : Link} (h : Sends [f] link link') :
    ∃ packet, Runner.newPackets link link' = [packet] ∧ packet.frame = f := by
  obtain ⟨packet, hpacket, hframe⟩ := List.map_eq_singleton_iff.mp (Runner.newPackets_of_sends h)
  exact ⟨packet, hpacket, hframe⟩

/-- The byte of the control sender is the other's when they derive the same power flag. -/
theorem flagsByte_eq_iff_power {user : UserFlag → Bool} {p p' : Bool} :
    byteOf (buildFlagsByte p true user) = byteOf (buildFlagsByte p' true user) ↔ p = p' := by
  constructor
  · intro h
    rw [← (hasBit_flagsByte p user).1, h, (hasBit_flagsByte p' user).1]
  · rintro rfl
    rfl

/-- The byte of an integer is zero when its low byte is. -/
theorem byteOf_ne_zero_iff (v : Int) : byteOf v ≠ 0 ↔ v % 256 ≠ 0 := by
  have hval := toNat_byteOf v
  constructor
  · intro h hzero
    rw [hzero] at hval
    exact h (UInt8.toNat_inj.mp (by simpa using hval))
  · intro h hzero
    rw [hzero] at hval
    exact h hval.symm

/-- **The flags byte of the two senders**, for any parameters with a brightness: the contract holds
exactly when the brightness is positive or its low byte zero, and not both.  In the range of a byte
that is so; it is not for 256, which is sent as the byte 0, nor for -1, which is sent as 255. -/
theorem senders_flagContract_iff {outcomes : TransportOutcomes} {link link₁ link₂ : Link}
    {params : Dict} {brightness : Int} {target : SendTarget}
    (ht : link.transport = some outcomes)
    (hbrightness : Dict.get params "brightness" = .int brightness)
    (hpreset : sendWledPreset params target link = (.ok true, link₁))
    (hcontrol : sendWledControl params target link = (.ok true, link₂)) :
    FlagContract link link₁ link₂ ↔ (0 < brightness ↔ brightness % 256 ≠ 0) := by
  obtain ⟨f, hf, hsends₁⟩ := (delivers_sendWledPreset ht params target).sends hpreset
  obtain ⟨g, hg, hsends₂⟩ := (delivers_sendWledControl ht params target).sends hcontrol
  obtain ⟨preset, hnew₁, rfl⟩ := newPackets_singleton hsends₁
  obtain ⟨control, hnew₂, rfl⟩ := newPackets_singleton hsends₂
  obtain ⟨b, hb, -, hflags₁, hbyte₁⟩ := presetFrame_says hf
  obtain ⟨fields, hfields, -, hflags₂, hbyte₂⟩ := controlFrame_says hg
  have hfind : Dict.find? params "brightness" = some (.int brightness) :=
    Dict.find?_of_get hbrightness nofun
  obtain rfl : brightness = b := by
    rw [Dict.getD, hfind] at hb
    exact Except.ok.inj hb
  have hsome : fields.brightness = some (brightness % 256) := by
    have hfield := intField_brightness hfields
    rw [intField, hbrightness] at hfield
    exact (Except.ok.inj hfield).symm
  rw [hsome, Option.getD_some] at hflags₂
  rw [hsome, Option.map_some] at hbyte₂
  have hlow : byteOf (brightness % 256) ≠ 0 ↔ brightness % 256 ≠ 0 := by
    rw [byteOf_ne_zero_iff, Int.emod_emod]
  have hpositive : 0 < brightness % 256 ↔ brightness % 256 ≠ 0 := by omega
  constructor
  · rintro ⟨preset', control', hpreset', hcontrol', -, hpower, -⟩
    rw [hnew₁, List.singleton_inj] at hpreset'
    subst hpreset'
    obtain ⟨flags, byte, hflags, hbyte, hmatches⟩ := hpower
    cases hflags.symm.trans hflags₁
    cases hbyte.symm.trans hbyte₁
    rw [senderFlags, (hasBit_flagsByte _ _).1, byteOf_ne_zero_iff] at hmatches
    simpa using hmatches
  · intro hcondition
    refine ⟨preset, control, hnew₁, hnew₂, ?_, ⟨_, _, hflags₁, hbyte₁, ?_⟩,
      ⟨_, _, hflags₂, hbyte₂, ?_⟩⟩
    · rw [hflags₁, hflags₂, Option.some.injEq, senderFlags, senderFlags, flagsByte_eq_iff_power]
      exact decide_eq_decide.mpr (hcondition.trans hpositive.symm)
    · rw [senderFlags, (hasBit_flagsByte _ _).1, byteOf_ne_zero_iff, decide_eq_true_iff]
      exact hcondition
    · rw [senderFlags, (hasBit_flagsByte _ _).1, hlow, decide_eq_true_iff]
      exact hpositive

/-- Effect parameters with nothing but a brightness. -/
def brightnessOnly (brightness : Int) : Dict := [(.str "brightness", .int brightness)]

theorem senders_flagContract_at_200 : FlagContract RlPresets.openLink
    (sendWledPreset (brightnessOnly 200) (.group 1) RlPresets.openLink).2
    (sendWledControl (brightnessOnly 200) (.group 1) RlPresets.openLink).2 := by
  have ht : RlPresets.openLink.transport = some fun _ => .success := rfl
  have hbrightness : Dict.get (brightnessOnly 200) "brightness" = .int 200 := rfl
  have hpreset : sendWledPreset (brightnessOnly 200) (.group 1) RlPresets.openLink
      = (.ok true, (sendWledPreset (brightnessOnly 200) (.group 1) RlPresets.openLink).2) := rfl
  have hcontrol : sendWledControl (brightnessOnly 200) (.group 1) RlPresets.openLink
      = (.ok true, (sendWledControl (brightnessOnly 200) (.group 1) RlPresets.openLink).2) := rfl
  exact (senders_flagContract_iff ht hbrightness hpreset hcontrol).mpr (by decide)

/-- A brightness of 256: the one sender powers the device on, at brightness 0, the other off. -/
theorem senders_disagree_at_256 :
    let link₁ := (sendWledPreset (brightnessOnly 256) (.group 1) RlPresets.openLink).2
    let link₂ := (sendWledControl (brightnessOnly 256) (.group 1) RlPresets.openLink).2
    sendWledPreset (brightnessOnly 256) (.group 1) RlPresets.openLink = (.ok true, link₁) ∧
      sendWledControl (brightnessOnly 256) (.group 1) RlPresets.openLink = (.ok true, link₂) ∧
      Runner.newPackets RlPresets.openLink link₁
        = [⟨⟨opcPreset, broadcastRecv3, [1, 0x05, 1, 0]⟩, .success⟩] ∧
      Runner.newPackets RlPresets.openLink link₂
        = [⟨⟨opcControl, broadcastRecv3, [1, 0x04, 0x01, 0]⟩, .success⟩] ∧
      ¬ FlagContract RlPresets.openLink link₁ link₂ := by
  refine ⟨rfl, rfl, rfl, rfl, ?_⟩
  rintro ⟨preset, control, hpreset, hcontrol, hsame, -⟩
  obtain rfl := List.singleton_inj.mp hpreset
  obtain rfl := List.singleton_inj.mp hcontrol
  exact absurd hsame (by decide)

/-! ## 3. From an action to its packets -/

/-- The flags stored with the preset an effect refers to. -/
def storedFlags (inp : PlannerInputs) (e : Effect) : Dict :=
  if e.kind = .rlPreset then
    match inp.rlPresetLookup.bind fun lookup => lookup (Dict.get e.params "presetId") with
    | some preset => preset.flags
    | none => []
  else []

/-- A flag as the operator has set it: the effect's override, else the preset's flag, else off. -/
def Effect.flag (inp : PlannerInputs) (e : Effect) (k : UserFlag) : Bool :=
  match e.flagsOverride.bind fun f => f.get k with
  | some value => value
  | none => (Dict.getD (storedFlags inp e) k.key (.bool false)).truthy

/-- The effect, once for each target that it is sent to. -/
def Effect.perTarget (inp : PlannerInputs) (e : Effect) : List (Option Effect) :=
  ((resolveTarget inp e.target).getD []).map fun _ => some e

/-- A flag of the packets of an effect of an action: a container sets the offset mode of its
children, everything else is as the operator has set it. -/
def Action.flag (inp : PlannerInputs) (a : Action) (e : Effect) (k : UserFlag) : Bool :=
  match a, k with
  | .offsetGroup _ offset _, .offsetMode => decide (offset ≠ .none)
  | _, _ => e.flag inp k

/-- The effects that the packets of an action are for, in order: an effect has one packet for each
of its targets, and the children of a container have theirs after the packets that set the offsets
up, child by child.  `none` is a packet that is for no effect. -/
def Action.packetEffects (inp : PlannerInputs) : Action → List (Option Effect)
  | .effect e => e.perTarget inp
  | .sync => [none]
  | .delay _ => []
  | .offsetGroup target offset actions =>
    match planOffsetSetup target offset inp.knownGroupIds with
    | .ok setup => setup.ops.map (fun _ => none) ++ actions.flatMap (·.perTarget inp)
    | .error _ => []

/-- The flags byte of a packet has these flags of the user's. -/
def Frame.HasFlags (f : Frame) (user : UserFlag → Bool) : Prop :=
  ∃ flags, f.flagsByte = some flags ∧
    ∀ k : UserFlag, hasBit flags (UInt8.ofNat k.bit) = user k

/-- The payload is for a sender with these flags in its parameters. -/
def Payload.CarriesFlags (payload : Payload) (user : UserFlag → Bool) : Prop :=
  ∃ params target, (payload = .control params target ∨ payload = .preset params target ∨
    payload = .startblock params target) ∧ ∀ k, userFlags params k = user k

theorem Payload.CarriesFlags.userFlags_eq {payload : Payload} {user : UserFlag → Bool}
    (h : payload.CarriesFlags user) {params : Dict} {target : SendTarget}
    (hpayload : payload = .control params target ∨ payload = .preset params target)
    (k : UserFlag) : userFlags params k = user k := by
  obtain ⟨params', target', hcarrier, huser⟩ := h
  have hsame : params' = params := by
    rcases hpayload with rfl | rfl <;> rcases hcarrier with h | h | h <;> cases h <;> rfl
  exact hsame ▸ huser k

theorem storedFlags_of_materialize {inp : PlannerInputs} {e : Effect} {m : Materialised}
    (h : materialize inp e = .ok (some m)) : m.flags = storedFlags inp e := by
  unfold materialize at h
  unfold storedFlags
  split at h
  · next hkind =>
    rw [if_pos hkind]
    unfold materializeRlPreset at h
    dsimp only at h
    split at h
    · cases h
    · cases hlookup : inp.rlPresetLookup with
      | none =>
        simp only [hlookup] at h
        cases h
        rfl
      | some lookup =>
        simp only [hlookup] at h
        simp only [Option.bind_some]
        cases hfound : lookup (Dict.get e.params "presetId") with
        | none =>
          simp only [hfound] at h
          cases h
        | some preset =>
          simp only [hfound] at h
          split at h
          · cases h
            rfl
          · obtain ⟨brightness, -, h⟩ := bind_eq_ok.mp h
            cases h
            rfl
  · next hkind =>
    rw [if_neg hkind]
    cases h
    rfl

/-- What a planned packet carries, if it is for an effect of the action: its flags. -/
def Action.Carries (inp : PlannerInputs) (a : Action) (effect : Option Effect)
    (payload : Payload) : Prop :=
  match effect with
  | none => (∃ config, payload = .offset config) ∨ payload.IsSync
  | some e => payload.CarriesFlags (a.flag inp e)

/-- The packets of an effect carry the flags in force, one for each target. -/
theorem planEffect_carries {inp : PlannerInputs} {force : Option Bool} {e : Effect}
    {plan : EffectPlan} (h : planEffect inp force e = .ok plan) (hplan : plan.degraded = false)
    {a : Action} (hflag : ∀ k, (overrideOf force e k).getD
      (Dict.getD (storedFlags inp e) k.key (.bool false)).truthy = a.flag inp e k) :
    List.Forall₂ (a.Carries inp) (e.perTarget inp) (plan.ops.map (·.payload)) := by
  unfold planEffect at h
  unfold Effect.perTarget
  split at h
  · cases h
    cases hplan
  · next targets htargets =>
    obtain ⟨found, hm, h⟩ := bind_eq_ok.mp h
    split at h
    · split at h <;> cases h <;> cases hplan
    · next m =>
      obtain ⟨ops, hops, h⟩ := bind_eq_ok.mp h
      cases h
      rw [htargets, Option.getD_some, List.forall₂_map_left_iff, List.forall₂_map_right_iff]
      refine List.Forall₂.imp (fun target op htarget => ?_) (mapM_eq_ok.mp hops)
      rw [buildEffectOp_eq] at htarget
      obtain ⟨len, -, htarget⟩ := bind_eq_ok.mp htarget
      cases htarget
      refine ⟨mergeFlags m.params m.flags (overrideOf force e), target, ?_, fun k => ?_⟩
      · unfold effectOp EffectKind.payload
        cases e.kind <;> simp
      · rw [userFlags, Dict.get, RlPresets.find?_mergeFlags_flag, storedFlags_of_materialize hm,
          ← hflag k]
        generalize (overrideOf force e k).getD _ = value
        cases value <;> rfl

/-- Marking the packets of the children leaves their payloads. -/
theorem payloads_childOps (plans : List EffectPlan) :
    (childOps plans).map (·.payload) = plans.flatMap fun plan => plan.ops.map (·.payload) := by
  rw [childOps, List.map_flatten, List.flatMap_def]
  congr 1
  refine List.ext_getElem (by simp) fun i hi hi' => ?_
  simp

/-- The packets of the children, child by child. -/
theorem planEffects_carry {inp : PlannerInputs} {force : Option Bool} {effects : List Effect}
    {plans : List EffectPlan}
    (h : List.Forall₂ (fun e plan => planEffect inp force e = .ok plan) effects plans)
    (hplans : ∀ plan ∈ plans, ¬ plan.degraded = true) {a : Action}
    (hflag : ∀ e k, (overrideOf force e k).getD
      (Dict.getD (storedFlags inp e) k.key (.bool false)).truthy = a.flag inp e k) :
    List.Forall₂ (a.Carries inp) (effects.flatMap (·.perTarget inp))
      (plans.flatMap fun plan => plan.ops.map (·.payload)) := by
  induction h with
  | nil => exact .nil
  | cons hp _ ih =>
    obtain ⟨hhead, htail⟩ := List.forall_mem_cons.mp hplans
    exact List.rel_append
      (planEffect_carries hp (Bool.eq_false_of_not_eq_true hhead) (hflag _)) (ih htail)

/-- **The flags of the planned packets**, place by place: each has those of the effect that the
packet at its place is for. -/
theorem planActionDispatch_carries {inp : PlannerInputs} {a : Action} {plan : ActionDispatchPlan}
    (h : planActionDispatch inp a = .ok plan) (hplan : plan.degraded = false) :
    List.Forall₂ (a.Carries inp) (a.packetEffects inp) (plan.ops.map (·.payload)) := by
  have hflag : ∀ (e : Effect) (k : UserFlag), (overrideOf none e k).getD
      (Dict.getD (storedFlags inp e) k.key (.bool false)).truthy = e.flag inp k := by
    intro e k
    unfold overrideOf Effect.flag
    cases e.flagsOverride.bind fun f => f.get k <;> rfl
  cases a with
  | effect e =>
    obtain ⟨p, hp, h⟩ := bind_eq_ok.mp h
    cases h
    exact planEffect_carries hp hplan (hflag e)
  | sync =>
    cases h
    exact .cons (.inr trivial) .nil
  | delay durationMs =>
    cases h
    exact .nil
  | offsetGroup target offset actions =>
    obtain ⟨setup, plans, hsetup, hplans, hops, hdegraded⟩ := planOffsetGroup_eq_ok h
    have hchild : ∀ e k, (overrideOf (some (decide (offset ≠ .none))) e k).getD
        (Dict.getD (storedFlags inp e) k.key (.bool false)).truthy
        = (Action.offsetGroup target offset actions).flag inp e k := by
      intro e k
      cases k with
      | offsetMode => rfl
      | _ => exact hflag e _
    rw [hdegraded, List.any_eq_false] at hplan
    rw [hops, List.map_append, payloads_childOps, Action.packetEffects, hsetup]
    refine List.rel_append ?_ ?_
    · rw [List.map_map, List.forall₂_map_left_iff, List.forall₂_map_right_iff,
        List.forall₂_same]
      exact fun op _ => .inl ⟨op.config, rfl⟩
    · exact planEffects_carry (mapM_eq_ok.mp hplans) hplan hchild

/-! ## 4. From a run to its packets -/

/-- A packet of a planned one: an `OPC_PRESET` or an `OPC_CONTROL` has the flags of the payload. -/
def WireOp.FlagsOf (op : WireOp) (p : SentPacket) : Prop :=
  p.frame.typeFull = opcPreset ∨ p.frame.typeFull = opcControl →
    ∃ params target, (op.payload = .control params target ∨ op.payload = .preset params target) ∧
      p.frame.HasFlags (userFlags params)

/-- The byte that a sender derives has the flags that it finds. -/
theorem Frame.hasFlags_of_senderFlags {f : Frame} {brightness : Int} {params : Dict}
    (h : f.flagsByte = some (byteOf (senderFlags brightness params))) :
    f.HasFlags (userFlags params) :=
  ⟨_, h, (hasBit_flagsByte (decide (brightness > 0)) (userFlags params)).2⟩

namespace Runner

variable (r : Runner)

/-- The frame of a planned packet has the flags of its payload. -/
theorem flagsOf_opFrame {ids : List WireId} {sent : Nat} {op : WireOp} {f : Frame}
    (h : r.opFrame ids sent op = .ok f) (outcome : SendOutcome) : op.FlagsOf ⟨f, outcome⟩ := by
  unfold opFrame at h
  cases hpayload : op.payload with
  | control params target =>
    rw [hpayload] at h
    obtain ⟨fields, -, -, hflags, -⟩ := controlFrame_says h
    exact fun _ => ⟨params, target, Or.inl hpayload, Frame.hasFlags_of_senderFlags hflags⟩
  | preset params target =>
    rw [hpayload] at h
    obtain ⟨brightness, -, -, hflags, -⟩ := presetFrame_says h
    exact fun _ => ⟨params, target, Or.inr hpayload, Frame.hasFlags_of_senderFlags hflags⟩
  -- the other packets have an opcode of their own
  | offset config =>
    rw [hpayload] at h
    obtain ⟨-, rfl⟩ := checkedFrame_eq_ok.mp h
    have hother : ¬ (opcOffset = opcPreset ∨ opcOffset = opcControl) := by decide
    exact fun htype => absurd htype hother
  | sync brightness triggerArmed =>
    rw [hpayload] at h
    obtain ⟨-, rfl⟩ := checkedFrame_eq_ok.mp h
    have hother : ¬ (opcSync = opcPreset ∨ opcSync = opcControl) := by decide
    exact fun htype => absurd htype hother
  | startblock params target =>
    rw [hpayload] at h
    cases h

/-- What a script adds to the log are packets of a planned one. -/
def SendsFlagsOf {α : Type} (op : WireOp) (x : Script Link α) (link : Link) : Prop :=
  ∃ packets, (x link).2.sent = link.sent ++ packets ∧ ∀ p ∈ packets, op.FlagsOf p

theorem sendsFlagsOf_of_sends {α : Type} {op : WireOp} {x : Script Link α} {link link' : Link}
    {frames : List Frame} (hrun : (x link).2 = link') (h : Sends frames link link')
    (hflags : ∀ f ∈ frames, ∀ outcome, op.FlagsOf ⟨f, outcome⟩) : SendsFlagsOf op x link := by
  obtain ⟨packets, hsent, hframes, -⟩ := h.sent
  refine ⟨packets, by rw [hrun, hsent], fun p hp => ?_⟩
  exact hflags p.frame (hframes ▸ List.mem_map_of_mem hp) p.outcome

/-- **One planned packet.** -/
theorem sendsFlagsOf_dispatchOp (hr : r.StreamsOnly) (op : WireOp) (link : Link) :
    SendsFlagsOf op (r.dispatchOp op) link := by
  have hunchanged : (r.dispatchOp op link).2 = link → SendsFlagsOf op (r.dispatchOp op) link :=
    fun h => sendsFlagsOf_of_sends h (.refl link) fun _ hf => nomatch hf
  by_cases hop : op.payload.IsStartblock
  · unfold Payload.IsStartblock at hop
    split at hop
    · next params target hpayload =>
      cases hmethod : r.sendStartblockControl with
      | none =>
        refine hunchanged ?_
        rw [dispatchOp, hpayload]
        simp only [hmethod]
        rfl
      | some method =>
        have hcall : r.dispatchOp op = method params target := by
          rw [dispatchOp, hpayload]
          simp only [hmethod]
        obtain ⟨packets, hstate, hall⟩ := hr method hmethod params target link
        refine ⟨packets, by rw [hcall, hstate], fun p hp htype => ?_⟩
        rw [hall p hp] at htype
        exact absurd htype (by decide)
    · cases hop
  · cases ht : link.transport with
    | some outcomes =>
      have hdelivers := r.delivers_dispatchOp ht hop
      cases hframe : r.opFrame link.wireIds link.sent.length op with
      | ok f =>
        obtain ⟨link', hrun, hsends⟩ := hdelivers.ok f hframe
        refine sendsFlagsOf_of_sends (congrArg Prod.snd hrun) hsends fun g hg outcome => ?_
        rw [List.mem_singleton.mp hg]
        exact r.flagsOf_opFrame hframe outcome
      | error e =>
        obtain ⟨link', hrun, hsends⟩ := hdelivers.raises e hframe
        exact sendsFlagsOf_of_sends (congrArg Prod.snd hrun) hsends fun _ hg => nomatch hg
    | none =>
      by_cases hsync : op.payload.IsSync
      · unfold Payload.IsSync at hsync
        split at hsync
        · next brightness triggerArmed hpayload =>
          have hnone : ∀ ts24, sendSync ts24 brightness triggerArmed link = (.ok (), link) := by
            intro ts24
            rw [sendSync, Script.bind_of_ok (Script.get_run link)]
            simp only [ht]
            rfl
          refine hunchanged ?_
          rw [dispatchOp, hpayload]
          simp only [Script.bind_of_ok (Script.get_run link), Script.bind_of_ok (hnone _)]
          rfl
        · cases hsync
      · refine hunchanged ?_
        rcases r.dispatchOp_none ht hop hsync with ⟨e, h⟩ | h <;> rw [h]

/-- What each planned packet puts on the air, in order.  The loop stops where a sender raises. -/
def opPackets : List WireOp → Link → List (List SentPacket)
  | [], _ => []
  | op :: ops, link =>
    match r.dispatchOp op link with
    | (.ok _, mid) => newPackets link mid :: opPackets ops mid
    | (.error _, mid) => [newPackets link mid]

/-- **The loop over a plan** sends the packets of the planned ones, one after the other. -/
theorem dispatchOps_sent (hr : r.StreamsOnly) (ops : List WireOp) (link : Link) :
    (r.dispatchOps ops link).2.sent = link.sent ++ (r.opPackets ops link).flatten := by
  induction ops generalizing link with
  | nil => exact (List.append_nil _).symm
  | cons op ops ih =>
    obtain ⟨packets, hsent, -⟩ := r.sendsFlagsOf_dispatchOp hr op link
    have hnew : newPackets link (r.dispatchOp op link).2 = packets := by
      rw [newPackets, hsent, List.drop_left]
    rw [opPackets, dispatchOps, Script.bind_run]
    rcases hrun : r.dispatchOp op link with ⟨e | ok, mid⟩
    · rw [hrun] at hsent hnew
      simpa [hnew] using hsent
    · rw [hrun] at hsent hnew
      simp only [hnew, List.flatten_cons]
      rw [← List.append_assoc, ← hsent, ← ih mid]
      exact congrArg Link.sent
        (Script.bind_pure_state (r.dispatchOps ops) (OpOutcome.mk op ok :: ·) mid)

/-- The packets at a place have the flags of the payload that is planned there. -/
theorem flagsOf_opPackets (hr : r.StreamsOnly) {ops : List WireOp} {link : Link} {i : Nat}
    {packets : List SentPacket} (h : (r.opPackets ops link)[i]? = some packets) :
    ∃ op, ops[i]? = some op ∧ ∀ p ∈ packets, op.FlagsOf p := by
  induction ops generalizing link i with
  | nil => cases h
  | cons op ops ih =>
    obtain ⟨new, hsent, hflags⟩ := r.sendsFlagsOf_dispatchOp hr op link
    have hnew : newPackets link (r.dispatchOp op link).2 = new := by
      rw [newPackets, hsent, List.drop_left]
    rw [opPackets] at h
    rcases hrun : r.dispatchOp op link with ⟨e | ok, mid⟩
    · rw [hrun] at h hnew
      cases i with
      | zero =>
        cases h
        exact ⟨op, rfl, hnew ▸ hflags⟩
      | succ i => cases h
    · rw [hrun] at h hnew
      cases i with
      | zero =>
        cases h
        exact ⟨op, rfl, hnew ▸ hflags⟩
      | succ i => exact ih h

/-- A plan that is carried out leaves the link as its loop does. -/
theorem dispatch_state {known : List Int} {a : Action} {link : Link} {plan : ActionDispatchPlan}
    (ha : ∀ durationMs, a ≠ .delay durationMs)
    (hplan : planActionDispatch (r.plannerInputs known link.devices) a = .ok plan)
    (hdegraded : plan.degraded = false) (index : Nat) :
    (r.dispatch known index a link).2 = (r.dispatchOps plan.ops link).2 := by
  have hrun := r.handle_run known index ha link
  have hexecute : r.executePlan index plan link = (do
      let outcomes ← r.dispatchOps plan.ops
      Pure.pure (foldOutcomes index plan outcomes) : Script Link ActionResult) link := by
    rw [executePlan, if_neg (by rw [hdegraded]; exact Bool.false_ne_true)]
  rw [hplan] at hrun
  have hrun : r.handle known index a link = _ := hrun.trans hexecute
  rcases hops : r.dispatchOps plan.ops link with ⟨e | outcomes, link'⟩
  · have hraises : r.handle known index a link = (.error e, link') := by
      rw [hrun, Script.bind_run, hops]
    exact (r.dispatch_of_error hraises).2.2
  · rw [r.dispatch_of_ok (hrun.trans (Script.bind_of_ok hops))]

/-- The packets of an action, by the places of its plan; a plan that fails or is degraded has
none. -/
def packetsOf (known : List Int) (a : Action) (link : Link) : List (List SentPacket) :=
  match planActionDispatch (r.plannerInputs known link.devices) a with
  | .ok plan => if plan.degraded then [] else r.opPackets plan.ops link
  | .error _ => []

theorem newPackets_dispatch (hr : r.StreamsOnly) (known : List Int) (index : Nat) (a : Action)
    (link : Link) :
    newPackets link (r.dispatch known index a link).2 = (r.packetsOf known a link).flatten := by
  by_cases hdelay : ∃ durationMs, a = .delay durationMs
  · obtain ⟨durationMs, rfl⟩ := hdelay
    exact newPackets_self link
  · rw [not_exists] at hdelay
    have hrun := r.handle_run known index hdelay link
    unfold packetsOf
    cases hplan : planActionDispatch (r.plannerInputs known link.devices) a with
    | error e =>
      rw [hplan] at hrun
      rw [(r.dispatch_of_error hrun).2.2]
      exact newPackets_self link
    | ok plan =>
      rw [hplan] at hrun
      by_cases hdegraded : plan.degraded = true
      · obtain ⟨result, hresult, -⟩ := r.executePlan_degraded hdegraded index link
        rw [r.dispatch_of_ok (hrun.trans hresult)]
        simp only [if_pos hdegraded, List.flatten_nil]
        exact newPackets_self link
      · have hstate := r.dispatch_state hdelay hplan (Bool.eq_false_of_not_eq_true hdegraded) index
        simp only [if_neg hdegraded]
        rw [newPackets, hstate, r.dispatchOps_sent hr, List.drop_left]

/-- **The flags on the wire**: the packets of an action go out in the order of its plan, and every
`OPC_CONTROL` and `OPC_PRESET` that goes out for a place of the plan has the flags of the effect
that is due there, whatever is in the parameters of the effect or its preset. -/
theorem dispatch_flags (hr : r.StreamsOnly) (known : List Int) (index : Nat) (a : Action)
    (link : Link) :
    newPackets link (r.dispatch known index a link).2 = (r.packetsOf known a link).flatten ∧
      ∀ (i : Nat) (packets : List SentPacket), (r.packetsOf known a link)[i]? = some packets →
        ∀ p ∈ packets, p.frame.typeFull = opcPreset ∨ p.frame.typeFull = opcControl →
          ∃ e, (a.packetEffects (r.plannerInputs known link.devices))[i]? = some (some e) ∧
            p.frame.HasFlags (a.flag (r.plannerInputs known link.devices) e) := by
  refine ⟨r.newPackets_dispatch hr known index a link, fun i packets hi p hp htype => ?_⟩
  unfold packetsOf at hi
  split at hi
  · next plan hplan =>
    split at hi
    · cases hi
    · next hdegraded =>
      obtain ⟨op, hop, hflags⟩ := r.flagsOf_opPackets hr hi
      obtain ⟨params, target, hpayload, hbyte⟩ := hflags p hp htype
      have hall := planActionDispatch_carries hplan (Bool.eq_false_of_not_eq_true hdegraded)
      obtain ⟨effect, heffect, hcarries⟩ : ∃ effect,
          (a.packetEffects (r.plannerInputs known link.devices))[i]? = some effect ∧
            a.Carries (r.plannerInputs known link.devices) effect op.payload := by
        have hlt : i < plan.ops.length := (List.getElem?_eq_some_iff.mp hop).1
        have hlength := hall.length_eq
        rw [List.length_map] at hlength
        refine ⟨_, List.getElem?_eq_getElem (hlength ▸ hlt), ?_⟩
        have hat := List.forall₂_iff_get.mp hall
        have hget := hat.2 i (hlength ▸ hlt) (by rwa [List.length_map])
        simp only [List.get_eq_getElem, List.getElem_map] at hget
        rwa [(List.getElem?_eq_some_iff.mp hop).2] at hget
      cases effect with
      | none =>
        rcases hcarries with ⟨config, h⟩ | h
        · rw [h] at hpayload
          rcases hpayload with h | h <;> cases h
        · rcases hpayload with hpayload | hpayload <;> rw [hpayload] at h <;> cases h
      | some e =>
        refine ⟨e, heffect, ?_⟩
        rw [← funext (Payload.CarriesFlags.userFlags_eq hcarries hpayload)]
        exact hbyte
  · cases hi

end Runner

/-- A child with stray flags among its parameters. -/
def strayChild : Effect :=
  ⟨.wledControl, .groups [1], [(.str "brightness", .int 10), (.str "offset_mode", .bool true),
    (.str "force_tt0", .int 1)], none⟩

/-- Its container clears the offset mode. -/
def strayContainer : Action := .offsetGroup (.groups [1]) .none [strayChild]

theorem dispatch_flags_stray :
    let link' := ((startblockRunner (emptyHeat [])).dispatch [1] 0 strayContainer splitLink).2
    ∀ p ∈ Runner.newPackets splitLink link',
      p.frame.typeFull = opcPreset ∨ p.frame.typeFull = opcControl →
        p.frame.HasFlags fun _ => false := by
  have hr : (startblockRunner (emptyHeat [])).StreamsOnly := streamsOnly_of_startblockMethod rfl
  obtain ⟨hnew, hflags⟩ := Runner.dispatch_flags _ hr [1] 0 strayContainer splitLink
  intro link' p hp htype
  rw [hnew] at hp
  obtain ⟨packets, hpackets, hp⟩ := List.mem_flatten.mp hp
  obtain ⟨i, hi⟩ := List.mem_iff_getElem?.mp hpackets
  obtain ⟨e, he, hbyte⟩ := hflags i packets hi p hp htype
  have hat : strayContainer.packetEffects ((startblockRunner (emptyHeat [])).plannerInputs [1]
      splitLink.devices) = [none, some strayChild] := rfl
  have hmem := List.mem_of_getElem? he
  rw [hat] at hmem
  obtain rfl : e = strayChild := by simpa using hmem
  have hoff : ∀ k, strayContainer.flag ((startblockRunner (emptyHeat [])).plannerInputs [1]
      splitLink.devices) strayChild k = false := fun k => by cases k <;> rfl
  rw [← funext hoff]
  exact hbyte

end RaceLink
