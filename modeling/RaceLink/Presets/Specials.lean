/-
# WLED Control

"Apply WLED Control (RL preset via OPC_CONTROL)" is offered in two places.  The Specials page calls
`sendWledControl` of the controller, which takes `presetId` as the id of a stored preset and sends
that preset with the brightness of the form.  The scene editor offers the same two fields for an
action of kind `wled_control`; the planner hands them to the sender as they are, and the sender
has no use for a `presetId`.

So a scene sends the brightness and the action's own flags, and no preset.  The two packets are
the same exactly for a preset that says no more than that (`wledControl_action_iff`).
-/
import RaceLink.Presets.Apply

namespace RaceLink.RlPresets

open Python

/-! ## 1. The two ways -/

/-- `sendWledControl` of the controller. -/
def Controller.sendWledControl (presets : Option (List Preset)) (params : Dict)
    (target : SendTarget) : Script Link Bool := do
  let presetId ← Script.lift (int (Dict.getD params "presetId" (.int 0)))
  let brightness ← match Dict.get params "brightness" with
    | .null => pure .null
    | v => do
      let brightness ← Script.lift (int v)
      pure (.int brightness)
  sendRlPresetById presets (.int presetId) target brightness

/-- A brightness in a dictionary. -/
def brightnessVal (brightness : Option Int) : PyVal := (brightness.map PyVal.int).getD .null

/-- The fields of the form. -/
def editorParams (presetId : Int) (brightness : Option Int) : Dict :=
  [(.str "presetId", .int presetId), (.str "brightness", brightnessVal brightness)]

theorem sendWledControl_editorParams (presets : Option (List Preset)) (presetId : Int)
    (brightness : Option Int) (target : SendTarget) :
    Controller.sendWledControl presets (editorParams presetId brightness) target
      = sendRlPresetById presets (.int presetId) target (brightnessVal brightness) := by
  cases brightness <;> rfl

/-! ## 2. What goes out -/

/-- Two runs of packets from one state leave the same log exactly when the frames are the same. -/
theorem Sends.sent_eq_iff {outcomes : TransportOutcomes} {frames frames' : List Frame}
    {link link₁ link₂ : Link} (ht : link.transport = some outcomes) (h₁ : Sends frames link link₁)
    (h₂ : Sends frames' link link₂) : link₁.sent = link₂.sent ↔ frames = frames' := by
  obtain ⟨packets, hsent, hframes, hout⟩ := h₁.sent
  obtain ⟨packets', hsent', hframes', hout'⟩ := h₂.sent
  rw [hsent, hsent', List.append_cancel_left_eq]
  constructor
  · rintro rfl
    rw [← hframes, ← hframes']
  · rintro rfl
    have hzip : ∀ ps : List SentPacket,
        ps = List.zipWith SentPacket.mk (ps.map (·.frame)) (ps.map (·.outcome)) := by
      intro ps
      induction ps with
      | nil => rfl
      | cons p ps ih => rw [List.map_cons, List.map_cons, List.zipWith_cons_cons, ← ih]
    rw [hzip packets, hzip packets', hframes, hframes', hout outcomes ht, hout' outcomes ht]

/-- `send_wled_control` for one target after another, when every target has a frame. -/
theorem forEachTarget_sends {outcomes : TransportOutcomes} {params : Dict}
    {targets : List SendTarget} {frames : List Frame} {link : Link}
    (ht : link.transport = some outcomes)
    (h : targets.mapM (controlFrame link.wireIds params) = .ok frames) :
    Sends frames link (forEachTarget (sendWledControl params) targets link).2 := by
  induction targets generalizing link frames with
  | nil =>
    cases h
    exact .refl link
  | cons target targets ih =>
    rw [List.mapM_cons] at h
    obtain ⟨frame, hframe, h⟩ := bind_eq_ok.mp h
    obtain ⟨rest, hrest, h⟩ := bind_eq_ok.mp h
    cases h
    obtain ⟨link', hlink', hsends⟩ := (delivers_sendWledControl ht params target).ok frame hframe
    rw [forEachTarget, Script.bind_of_ok hlink', Script.bind_pure_state]
    exact hsends.trans (ih (hsends.transport.trans ht) (by rw [hsends.wireIds]; exact hrest))

/-- The frame of an `OPC_CONTROL`, for a target that can be addressed. -/
theorem controlFrame_eq {ids : List WireId} {params : Dict} {f : ControlFields}
    (hf : controlFields params = .ok f) (hrgb : f.RgbColors) {target : SendTarget}
    {recv3 : List UInt8} {groupId : Int} (hreceiver : receiverOf ids target = .ok (recv3, groupId))
    (hthree : recv3.length = 3) :
    controlFrame ids params target = .ok ⟨opcControl, recv3,
      (f.content groupId (senderFlags (f.brightness.getD 0) params)).bytes⟩ := by
  have hlength := (f.content groupId (senderFlags (f.brightness.getD 0) params)).length_bytes_le
  rw [controlFrame, hf, ok_bind, hreceiver, ok_bind, buildControlBody_eq groupId _ hrgb, ok_bind]
  exact checkedFrame_eq_ok.mpr ⟨⟨hthree, by omega⟩, rfl⟩

/-! ## 3. When two packets are the same -/

/-- A body says what its content is. -/
theorem content_eq_of_bytes {f f' : ControlFields} {groupId flags groupId' flags' : Int}
    (h : (f.content groupId flags).bytes = (f'.content groupId' flags').bytes) :
    f.content groupId flags = f'.content groupId' flags' := by
  have hparse := (reads_controlBody (f.custom3_lt groupId flags)).parseAll
  have hparse' := (reads_controlBody (f'.custom3_lt groupId' flags')).parseAll
  rw [h] at hparse
  exact Option.some.inj (hparse.symm.trans hparse')

/-- The user's flags can be read off the flags byte. -/
theorem flagsByte_eq_iff (powerOn : Bool) (user user' : UserFlag → Bool) :
    byteOf (buildFlagsByte powerOn true user) = byteOf (buildFlagsByte powerOn true user') ↔
      ∀ k, user k = user' k := by
  constructor
  · intro h k
    have hbits : ∀ p a b c d a' b' c' d' : Bool,
        byteOf (Nat.cast ((if p then flagPowerOn else 0) ||| (if a then flagArmOnSync else 0) |||
          flagHasBri ||| (if b then flagForceTt0 else 0) ||| (if c then flagForceReapply else 0) |||
          (if d then flagOffsetMode else 0))) =
        byteOf (Nat.cast ((if p then flagPowerOn else 0) ||| (if a' then flagArmOnSync else 0) |||
          flagHasBri ||| (if b' then flagForceTt0 else 0) |||
          (if c' then flagForceReapply else 0) |||
          (if d' then flagOffsetMode else 0))) → a = a' ∧ b = b' ∧ c = c' ∧ d = d' := by
      decide
    obtain ⟨hsync, htt0, hreapply, hoffset⟩ := hbits powerOn _ _ _ _ _ _ _ _ h
    cases k with
    | armOnSync => exact hsync
    | forceTt0 => exact htt0
    | forceReapply => exact hreapply
    | offsetMode => exact hoffset
  · intro h
    rw [funext h]

/-- A preset without parameters. -/
def noParams : PresetParams :=
  { mode := none, speed := none, intensity := none, custom1 := none, custom2 := none
    custom3 := none, check1 := none, check2 := none, check3 := none, palette := none
    color1 := none, color2 := none, color3 := none, brightness := none }

/-- The preset has no parameter but its brightness. -/
def PresetParams.OnlyBrightness (p : PresetParams) : Prop :=
  p = { noParams with brightness := p.brightness }

/-- The content of a packet with a brightness alone, and that of a preset's packet. -/
theorem content_noParams_eq_iff {p : PresetParams} {b b' : Option Int}
    {groupId flags flags' : Int} :
    (noParams.fields b).content groupId flags = (p.fields b').content groupId flags' ↔
      byteOf flags = byteOf flags' ∧ b.map byteOf = b'.map byteOf ∧ p.OnlyBrightness := by
  obtain ⟨mode, speed, intensity, custom1, custom2, custom3, check1, check2, check3, palette,
    color1, color2, color3, brightness⟩ := p
  simp only [ControlFields.content, PresetParams.fields, noParams, PresetParams.OnlyBrightness,
    ControlFields.custom3Checks, ControlFields.ext, ControlBody.mk.injEq, PresetParams.mk.injEq,
    Option.map_none, Option.isSome_none, Bool.or_self, Bool.false_eq_true, if_false, true_and,
    and_true]
  constructor
  · rintro ⟨hflags, hb, hmode, hspeed, hintensity, hcustom1, hcustom2, hchecks, hext⟩
    have hchecks := hchecks.symm
    have hext := hext.symm
    simp only [ite_eq_right_iff, reduceCtorEq, imp_false, Bool.not_eq_true, Bool.or_eq_false_iff,
      Option.isSome_map, Option.isSome_eq_false_iff, Option.isNone_iff_eq_none] at hchecks hext
    have hnone : ∀ {v : Option UInt8},
        none = (v.map fun b => (b.toNat : Int)).map byteOf → v = none :=
      fun h => Option.map_eq_none_iff.mp (Option.map_eq_none_iff.mp h.symm)
    simp [hflags, hb, hnone hmode, hnone hspeed, hnone hintensity, hnone hcustom1, hnone hcustom2,
      hchecks, hext]
  · rintro ⟨hflags, hb, rfl, rfl, rfl, rfl, rfl, rfl, rfl, rfl, rfl, rfl, rfl, rfl, rfl⟩
    simp [hflags, hb]

/-! ## 4. The result -/

/-- The brightness a preset is sent with. -/
def Preset.sentBrightness (p : Preset) : Option Int → Option Int
  | none => p.params.brightness.map (·.toNat)
  | some brightness => some (brightness % 256)

/-- The parameters of a preset, with the brightness of the form. -/
theorem withBrightness_brightnessVal (p : Preset) (brightness : Option Int) :
    ∃ merged, p.withBrightness (brightnessVal brightness) = .ok merged ∧
      controlFields merged = .ok (p.params.fields (p.sentBrightness brightness)) := by
  cases brightness with
  | none => exact ⟨_, rfl, controlFields_params p⟩
  | some b => exact ⟨_, rfl, controlFields_override p b⟩

/-- The form's fields, as the sender reads them: a brightness, and nothing of a preset. -/
theorem controlFields_editorParams (presetId : Int) (brightness : Option Int) :
    controlFields (editorParams presetId brightness)
      = .ok (noParams.fields (brightness.map (· % 256))) := by
  cases brightness <;>
    simp [controlFields, intField, boolField, colorField, editorParams, brightnessVal, Dict.get,
      PresetParams.fields, noParams]

/-- The flags byte the sender derives from merged parameters. -/
theorem senderFlags_mergeFlags (brightness : Int) (base persisted : Dict)
    (override : UserFlag → Option Bool) :
    senderFlags brightness (mergeFlags base persisted override) =
      buildFlagsByte (decide (brightness > 0)) true fun k =>
        (override k).getD (Dict.getD persisted k.key (.bool false)).truthy := by
  rw [senderFlags]
  congr 2
  funext k
  rw [Dict.get, find?_mergeFlags_flag]
  cases (override k).getD (Dict.getD persisted k.key (.bool false)).truthy <;> rfl

/-- The preset says no more than the scene's packet: it has no parameter but a brightness, the
form's brightness is there if the preset's is, and its flags are the action's. -/
structure Preset.NoMore (p : Preset) (brightness : Option Int) (flags : UserFlag → Bool) :
    Prop where
  params : p.params.OnlyBrightness
  brightness : brightness = none → p.params.brightness = none
  flags : ∀ k, flags k = p.flags k

/-- The two contents are the same exactly for a preset that says no more. -/
theorem content_eq_iff (p : Preset) (brightness : Option Int) (flags : UserFlag → Bool)
    (groupId : Int) :
    (noParams.fields (brightness.map (· % 256))).content groupId
        (buildFlagsByte (decide ((brightness.map (· % 256)).getD 0 > 0)) true flags)
      = (p.params.fields (p.sentBrightness brightness)).content groupId
        (buildFlagsByte (decide ((p.sentBrightness brightness).getD 0 > 0)) true p.flags) ↔
      p.NoMore brightness flags := by
  rw [content_noParams_eq_iff]
  have hsent : (brightness.map (· % 256)).map byteOf = (p.sentBrightness brightness).map byteOf ↔
      brightness.map (· % 256) = p.sentBrightness brightness ∧
        (brightness = none → p.params.brightness = none) := by
    cases brightness with
    | some b => simp [Preset.sentBrightness]
    | none => cases hp : p.params.brightness <;> simp [Preset.sentBrightness, hp]
  rw [hsent]
  constructor
  · rintro ⟨hflags, ⟨hsame, hnone⟩, hparams⟩
    rw [hsame, flagsByte_eq_iff] at hflags
    exact ⟨hparams, hnone, hflags⟩
  · rintro ⟨hparams, hnone, hflags⟩
    have hsame : brightness.map (· % 256) = p.sentBrightness brightness := by
      cases brightness with
      | some b => rfl
      | none => simp [Preset.sentBrightness, hnone rfl]
    refine ⟨?_, ⟨hsame, hnone⟩, hparams⟩
    rw [hsame, flagsByte_eq_iff]
    exact hflags

/-- The two frames for one target. -/
theorem controlFrame_eq_iff {ids : List WireId} {target : SendTarget} (h : target.Addressed ids)
    {p : Preset} {brightness : Option Int} {base merged : Dict}
    (hbase : controlFields base = .ok (noParams.fields (brightness.map (· % 256))))
    (hmerged : controlFields merged = .ok (p.params.fields (p.sentBrightness brightness)))
    (override : UserFlag → Option Bool) :
    ∃ frame frame', controlFrame ids (mergeFlags base [] override) target = .ok frame ∧
      controlFrame ids (mergeFlags merged p.entry.flags fun _ => none) target = .ok frame' ∧
      (frame = frame' ↔ p.NoMore brightness fun k => (override k).getD false) := by
  obtain ⟨recv3, groupId, hreceiver, hthree⟩ := h
  have hbase' := (controlFields_mergeFlags base [] override).trans hbase
  have hmerged' := (controlFields_mergeFlags merged p.entry.flags fun _ => none).trans hmerged
  refine ⟨_, _, controlFrame_eq hbase' (noParams.rgbColors_fields _) hreceiver hthree,
    controlFrame_eq hmerged' (p.params.rgbColors_fields _) hreceiver hthree, ?_⟩
  have hcontent := content_eq_iff p brightness (fun k => (override k).getD false) groupId
  have hflags : (fun k : UserFlag => (override k).getD
      (Dict.getD [] k.key (.bool false)).truthy) = fun k => (override k).getD false := rfl
  have hflags' : (fun k : UserFlag => (none : Option Bool).getD
      (Dict.getD p.entry.flags k.key (.bool false)).truthy) = p.flags := by
    funext k
    rw [getD_entry_flags]
    rfl
  rw [senderFlags_mergeFlags, senderFlags_mergeFlags, hflags, hflags', ← hcontent]
  constructor
  · intro heq
    exact content_eq_of_bytes (congrArg Frame.body heq)
  · intro heq
    exact congrArg (fun c : ControlBody => (⟨opcControl, recv3, c.bytes⟩ : Frame)) heq

/-- Two comprehensions over one list that is not empty: if for each element the results are equal
exactly when `P` holds, so are the lists. -/
theorem mapM_eq_iff {α ε β : Type} {f g : α → Except ε β} {P : Prop} {xs : List α} (hne : xs ≠ [])
    (h : ∀ x ∈ xs, ∃ y z, f x = .ok y ∧ g x = .ok z ∧ (y = z ↔ P)) :
    ∃ ys zs, xs.mapM f = .ok ys ∧ xs.mapM g = .ok zs ∧ (ys = zs ↔ P) := by
  induction xs with
  | nil => exact absurd rfl hne
  | cons x xs ih =>
    obtain ⟨⟨y, z, hy, hz, hiff⟩, hxs⟩ := List.forall_mem_cons.mp h
    cases xs with
    | nil => exact ⟨[y], [z], by simp [hy], by simp [hz], by simpa using hiff⟩
    | cons x' xs =>
      obtain ⟨ys, zs, hys, hzs, hiffs⟩ := ih (List.cons_ne_nil _ _) hxs
      refine ⟨y :: ys, z :: zs, ?_, ?_, ?_⟩
      · rw [List.mapM_cons, hy, ok_bind, hys]
        rfl
      · rw [List.mapM_cons, hz, ok_bind, hzs]
        rfl
      · rw [List.cons.injEq, hiff, hiffs, and_self]

/-- **WLED Control, twice.**  For every preset of the store, every brightness of the form, every
target that resolves and every set of flags: a scene's `wled_control` action sends what
`sendWledControl` sends for the same fields exactly when the preset says no more than the
brightness and the action's flags. -/
theorem wledControl_action_iff {r : Runner} {presets : List Preset} (h : Distinct presets)
    {p : Preset} (hp : p ∈ presets) {brightness : Option Int} {e : Effect}
    (hkind : e.kind = .wledControl) (hparams : e.params = editorParams p.id brightness)
    (htarget : e.target.Canonical) {known : List Int} {link : Link} {outcomes : TransportOutcomes}
    (ht : link.transport = some outcomes)
    (hresolves : (resolveTarget (r.plannerInputs known link.devices) e.target).isSome = true)
    (index : Nat) :
    (r.dispatch known index (.effect e) link).2.sent =
        (forEachTarget (Controller.sendWledControl (some presets) e.params)
          (targetsOf r known e link) link).2.sent ↔
      p.NoMore brightness fun k => (overrideOf none e k).getD false := by
  obtain ⟨targets, htargets⟩ := Option.isSome_iff_exists.mp hresolves
  obtain ⟨hne, haddressed⟩ := addressed_of_resolveTarget htarget htargets
  obtain ⟨merged, hmerged, hfields⟩ := withBrightness_brightnessVal p brightness
  have hbase : controlFields e.params = .ok (noParams.fields (brightness.map (· % 256))) := by
    rw [hparams, controlFields_editorParams]
  -- both ways are `send_wled_control`, with merged flags
  have hscene : (r.dispatch known index (.effect e) link).2 = (forEachTarget (sendWledControl
      (mergeFlags e.params [] (overrideOf none e))) targets link).2 := by
    have hm : materialize (r.plannerInputs known link.devices) e
        = .ok (some ⟨e.params, [], .none⟩) := by
      rw [materialize, if_neg (by simp [hkind])]
      rfl
    rw [dispatch_control r (Or.inr hkind) hm hbase (noParams.rgbColors_fields _), targetsOf,
      htargets]
    rfl
  have hdirect : Controller.sendWledControl (some presets) e.params
      = sendWledControl (mergeFlags merged p.entry.flags fun _ => none) := by
    funext target
    rw [hparams, sendWledControl_editorParams, sendRlPresetById_eq h hp, hmerged,
      sendWledControl_congr (find?_merged hmerged fun _ => rfl)]
    rfl
  rw [hscene, hdirect, targetsOf, htargets, Option.getD_some]
  obtain ⟨frames, frames', hframes, hframes', hiff⟩ := mapM_eq_iff hne fun target hmem =>
    controlFrame_eq_iff (haddressed target hmem) hbase hfields (overrideOf none e)
  rw [Sends.sent_eq_iff ht (forEachTarget_sends ht hframes) (forEachTarget_sends ht hframes'), hiff]

/-- The form's fields as a scene action for all devices. -/
def applyControl (brightness : Option Int) : Effect :=
  ⟨.wledControl, .broadcast, editorParams 0 brightness, none⟩

/-- A preset that is a brightness. -/
def dimmedPreset : Preset :=
  { partyPreset "dimmed" with
    params := { noParams with brightness := some 10 }
    flags := fun _ => false }

theorem wledControl_action_dimmed :
    ((presetRunner [dimmedPreset]).dispatch [] 0 (.effect (applyControl (some 40))) openLink).2.sent
      = (forEachTarget (Controller.sendWledControl (some [dimmedPreset])
          (editorParams 0 (some 40))) [.group 255] openLink).2.sent := by
  have hdistinct : Distinct [dimmedPreset] := ⟨List.nodup_singleton _, List.nodup_singleton _⟩
  have hkind : (applyControl (some 40)).kind = .wledControl := rfl
  exact (wledControl_action_iff hdistinct List.mem_cons_self hkind rfl trivial rfl rfl 0).mpr
    ⟨rfl, nofun, fun _ => rfl⟩

/-- A preset with a mode and a colour: the scene sends the brightness 40 and nothing else. -/
theorem wledControl_action_party :
    ∃ scene direct,
      ((presetRunner [partyPreset "party"]).dispatch [] 0 (.effect (applyControl (some 40)))
        openLink).2.sent = scene ∧
      (forEachTarget (Controller.sendWledControl (some [partyPreset "party"])
        (editorParams 0 (some 40))) [.group 255] openLink).2.sent = direct ∧
      scene.map (·.frame.body) = [[255, 0x05, 0x01, 40]] ∧
      direct.map (·.frame.body) = [[255, 0x07, 0xC3, 40, 95, 0x00, 0x02, 0, 128, 128]] ∧
      scene ≠ direct := by
  refine ⟨_, _, rfl, rfl, rfl, rfl, fun heq => ?_⟩
  exact absurd (congrArg (·.map (·.frame.body)) heq) (by decide)

end RaceLink.RlPresets
