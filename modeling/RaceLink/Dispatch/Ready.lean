/-
# Which actions go through

An action can fail before its first packet for three reasons: a target or a preset is not found
(the plan is degraded), a parameter does not convert while planning (the planner raises), or the
parameters of an `OPC_PRESET`, which planning does not look at, do not convert in the sender.

`Effect.Ready` says that none of this happens, on the inputs alone.  The results compare it with
the planner:

* `planEffect_ready`, `planEffect_unresolved`, `planEffect_unready`: the plan of an effect;
* `planActionDispatch_ready`, `planActionDispatch_unready`: the plan of an action.

A canonical device target that the lookup resolves always has an address for the packet:
`hasAddr_encodes`.
-/
import RaceLink.Dispatch.Runner
import RaceLink.Offset.Choice

namespace RaceLink

open Python

/-! ## 1. Addresses -/

/-- No space turns into another character in upper case. -/
theorem upperChar_of_isSpace {c : Char} (h : isSpace c = true) : upperChar c = [c] := by
  have hlow : ¬ (0x61 ≤ c.toNat ∧ c.toNat ≤ 0x7a) := by
    simp only [isSpace, Bool.or_eq_true, Bool.and_eq_true, decide_eq_true_eq, beq_iff_eq] at h
    omega
  unfold upperChar
  rw [if_neg hlow]
  split <;> first | rfl | exact absurd h (by decide)

/-- A character of a text whose upper case is a canonical address is neither a space nor a
colon. -/
theorem plain_of_upper_isMac12 {addr : String} (h : isMac12 (upper addr) = true) {c : Char}
    (hc : c ∈ addr.toList) : isSpace c = false ∧ c ≠ ':' := by
  simp only [isMac12, Bool.and_eq_true, List.all_eq_true] at h
  have hmem : ∀ c', c' ∈ upperChar c → isUpperHex c' = true := by
    intro c' hc'
    refine h.2 c' ?_
    rw [upper, String.toList_ofList]
    exact List.mem_flatMap.mpr ⟨c, hc, hc'⟩
  constructor
  · by_contra hspace
    have hspace : isSpace c = true := by simpa using hspace
    have hhex := hmem c (by rw [upperChar_of_isSpace hspace]; exact List.mem_singleton.mpr rfl)
    rw [isSpace_of_isUpperHex hhex] at hspace
    cases hspace
  · rintro rfl
    exact absurd (hmem ':' (by decide)) (by decide)

theorem hexValue?_of_isUpperHex {c : Char} (h : isUpperHex c = true) :
    ∃ n, hexValue? c = some n := by
  simp only [isUpperHex, Bool.or_eq_true, Bool.and_eq_true, decide_eq_true_eq] at h
  unfold hexValue?
  rcases h with h | h
  · exact ⟨_, if_pos h⟩
  · have h9 : ¬ (0x30 ≤ c.toNat ∧ c.toNat ≤ 0x39) := by omega
    exact ⟨_, by rw [if_neg h9, if_pos h]⟩

theorem isHexSpace_of_isUpperHex {c : Char} (h : isUpperHex c = true) : isHexSpace c = false := by
  have hspace := isSpace_of_isUpperHex h
  by_contra hhex
  have hhex : isHexSpace c = true := by simpa using hhex
  simp only [isHexSpace, Bool.or_eq_true, Bool.and_eq_true, decide_eq_true_eq] at hhex
  simp only [isUpperHex, Bool.or_eq_true, Bool.and_eq_true, decide_eq_true_eq] at h
  rcases hhex with rfl | hhex
  · exact absurd h (by decide)
  · omega

/-- Two digits give a byte. -/
theorem fromHexChars_pairs : ∀ (n : Nat) {cs : List Char}, cs.length = 2 * n →
    (∀ c ∈ cs, isUpperHex c = true) → ∃ bytes, fromHexChars cs = some bytes ∧ bytes.length = n
  | 0, cs, hlen, _ => by
    rw [List.eq_nil_of_length_eq_zero hlen]
    exact ⟨[], rfl, rfl⟩
  | n + 1, cs, hlen, hcs => by
    match cs with
    | [] => cases hlen
    | [_] => simp at hlen; omega
    | c :: c' :: cs =>
      obtain ⟨hc, hcs⟩ := List.forall_mem_cons.mp hcs
      obtain ⟨hc', hcs⟩ := List.forall_mem_cons.mp hcs
      have hlen' : cs.length = 2 * n := by
        simp only [List.length_cons] at hlen
        omega
      obtain ⟨bytes, hbytes, hcount⟩ := fromHexChars_pairs n hlen' hcs
      obtain ⟨high, hhigh⟩ := hexValue?_of_isUpperHex hc
      obtain ⟨low, hlow⟩ := hexValue?_of_isUpperHex hc'
      refine ⟨UInt8.ofNat (16 * high + low) :: bytes, ?_, by rw [List.length_cons, hcount]⟩
      rw [fromHexChars, isHexSpace_of_isUpperHex hc, hhigh, hlow, hbytes]
      rfl

/-- The receiver of a device whose address is, in upper case, a canonical one. -/
theorem macLast3FromHex_of_isMac12 {addr : String} (h : isMac12 (upper addr) = true) :
    ∃ recv3, macLast3FromHex addr = .ok recv3 ∧ recv3.length = 3 := by
  have hplain : (strip addr).toList.filter (· ≠ ':') = addr.toList := by
    rw [strip_eq_self fun c hc => (plain_of_upper_isMac12 h hc).1]
    exact List.filter_eq_self.mpr fun c hc => decide_eq_true (plain_of_upper_isMac12 h hc).2
  simp only [isMac12, Bool.and_eq_true, beq_iff_eq, List.all_eq_true] at h
  have hlast : ((upper addr).toList.drop 6).length = 2 * 3 := by
    rw [List.length_drop, h.1]
  obtain ⟨recv3, hrecv3, hlen⟩ := fromHexChars_pairs 3 hlast
    fun c hc => h.2 c (List.mem_of_mem_drop hc)
  have hlong : ¬ (upper addr).length < 6 := by
    rw [← String.length_toList, h.1]
    decide
  refine ⟨recv3, ?_, hlen⟩
  rw [macLast3FromHex, hplain, String.ofList_toList, if_neg hlong, ← String.length_toList, h.1,
    bytesFromHex, String.toList_ofList, hrecv3]

/-- The target has a receiver of three bytes. -/
def SendTarget.Addressed (ids : List WireId) (target : SendTarget) : Prop :=
  ∃ recv3 groupId, receiverOf ids target = .ok (recv3, groupId) ∧ recv3.length = 3

/-- A device that a canonical address finds can be addressed. -/
theorem addressed_of_deviceLookup {inp : PlannerInputs} {value : String} {place : Nat}
    (hmac : isMac12 value = true) (h : inp.deviceLookup value = some place) :
    (SendTarget.device place).Addressed (inp.devices.map (·.wireId)) := by
  have hfound : getDeviceFromAddress inp.devices value = some place := by
    unfold PlannerInputs.deviceLookup at h
    split at h
    · exact h
    · cases h
  rw [getDeviceFromAddress, upper_strip_of_isMac12 hmac,
    List.findIdx?_eq_some_iff_getElem] at hfound
  obtain ⟨hlt, haddr, -⟩ := hfound
  have hlen : value.length = 12 := by
    have hmac := hmac
    simp only [isMac12, Bool.and_eq_true, beq_iff_eq] at hmac
    rw [← String.length_toList, hmac.1]
  rw [Device.hasAddr, if_pos hlen, decide_eq_true_eq] at haddr
  obtain ⟨recv3, hrecv3, hthree⟩ := macLast3FromHex_of_isMac12 (haddr ▸ hmac)
  refine ⟨recv3, inp.devices[place].groupId, ?_, hthree⟩
  have hid : (inp.devices.map (·.wireId))[place]? = some inp.devices[place].wireId := by
    rw [List.getElem?_map, List.getElem?_eq_getElem hlt]
    rfl
  rw [receiverOf, hid]
  dsimp only [Device.wireId]
  rw [hrecv3]
  rfl

/-- What a canonical target resolves to is not empty and can be addressed. -/
theorem addressed_of_resolveTarget {inp : PlannerInputs} {t : Target} {targets : List SendTarget}
    (ht : t.Canonical) (h : resolveTarget inp t = some targets) :
    targets ≠ [] ∧ ∀ target ∈ targets, target.Addressed (inp.devices.map (·.wireId)) := by
  cases t with
  | broadcast =>
    cases h
    refine ⟨List.cons_ne_nil _ _, fun target htarget => ?_⟩
    cases List.mem_singleton.mp htarget
    exact ⟨_, _, rfl, rfl⟩
  | groups value =>
    obtain ⟨hne, -, -⟩ := ht
    rw [resolveTarget, if_neg (by simpa using hne)] at h
    cases h
    refine ⟨by simpa using hne, fun target htarget => ?_⟩
    obtain ⟨gid, -, rfl⟩ := List.mem_map.mp htarget
    exact ⟨_, _, rfl, rfl⟩
  | device value =>
    obtain ⟨place, hplace, rfl⟩ := Option.map_eq_some_iff.mp h
    refine ⟨List.cons_ne_nil _ _, fun target htarget => ?_⟩
    cases List.mem_singleton.mp htarget
    exact addressed_of_deviceLookup ht hplace

/-! ## 2. Parameters -/

/-- Merging the flags changes the entries of the flags only. -/
theorem find?_mergeFlags {key : String} (hkey : ∀ k : UserFlag, k.key ≠ key)
    (base persisted : Dict) (override : UserFlag → Option Bool) :
    Dict.find? (mergeFlags base persisted override) key = Dict.find? base key := by
  refine Dict.find?_foldl (fun d k _ => ?_) base
  dsimp only
  split
  · exact Dict.find?_set_of_ne (hkey k) _ d
  · exact Dict.find?_erase_of_ne (hkey k) d

theorem get_mergeFlags {key : String} (hkey : ∀ k : UserFlag, k.key ≠ key)
    (base persisted : Dict) (override : UserFlag → Option Bool) :
    Dict.get (mergeFlags base persisted override) key = Dict.get base key := by
  rw [Dict.get, find?_mergeFlags hkey, Dict.get]

/-- The parameters `send_wled_preset` converts do convert. -/
def PresetParamsConvert (params : Dict) : Prop :=
  (∃ presetId, int (Dict.getD params "presetId" (.int 1)) = .ok presetId) ∧
    ∃ brightness, int (Dict.getD params "brightness" (.int 0)) = .ok brightness

/-- The parameters of an `OPC_CONTROL` do convert, and give a body. -/
def ControlParamsConvert (params : Dict) : Prop := ∃ len, controlBodyLen params = .ok len

theorem presetParamsConvert_mergeFlags (base persisted : Dict)
    (override : UserFlag → Option Bool) :
    PresetParamsConvert (mergeFlags base persisted override) ↔ PresetParamsConvert base := by
  unfold PresetParamsConvert Dict.getD
  rw [find?_mergeFlags (by intro k; cases k <;> decide),
    find?_mergeFlags (by intro k; cases k <;> decide)]

theorem controlFields_mergeFlags (base persisted : Dict) (override : UserFlag → Option Bool) :
    controlFields (mergeFlags base persisted override) = controlFields base := by
  have hget : ∀ key ∈ ["brightness", "mode", "speed", "intensity", "custom1", "custom2", "custom3",
      "palette", "color1", "color2", "color3", "check1", "check2", "check3"],
      Dict.get (mergeFlags base persisted override) key = Dict.get base key := by
    intro key hkey
    refine get_mergeFlags ?_ base persisted override
    intro k
    rintro rfl
    revert hkey
    cases k <;> decide
  simp only [List.forall_mem_cons, List.not_mem_nil, false_imp_iff, implies_true, and_true] at hget
  simp only [controlFields, intField, colorField, boolField, hget]

theorem controlBodyLen_mergeFlags (base persisted : Dict) (override : UserFlag → Option Bool) :
    controlBodyLen (mergeFlags base persisted override) = controlBodyLen base := by
  rw [controlBodyLen, controlFields_mergeFlags, controlBodyLen]

/-- An `OPC_PRESET` for an addressed target has a frame exactly when its parameters convert. -/
theorem presetFrame_ok_iff {ids : List WireId} {target : SendTarget} (h : target.Addressed ids)
    (params : Dict) :
    (∃ frame, presetFrame ids params target = .ok frame) ↔ PresetParamsConvert params := by
  obtain ⟨recv3, groupId, hreceiver, hthree⟩ := h
  unfold presetFrame PresetParamsConvert
  cases int (Dict.getD params "presetId" (.int 1)) with
  | error e => simp
  | ok presetId =>
    cases int (Dict.getD params "brightness" (.int 0)) with
    | error e => simp
    | ok brightness =>
      refine iff_of_true ?_ ⟨⟨presetId, rfl⟩, brightness, rfl⟩
      simp only [ok_bind, hreceiver]
      exact ⟨_, checkedFrame_eq_ok.mpr ⟨⟨hthree, Nat.le_of_ble_eq_true rfl⟩, rfl⟩⟩

/-- An `OPC_CONTROL` for an addressed target has a frame exactly when its parameters convert. -/
theorem controlFrame_ok_iff {ids : List WireId} {target : SendTarget} (h : target.Addressed ids)
    (params : Dict) :
    (∃ frame, controlFrame ids params target = .ok frame) ↔ ControlParamsConvert params := by
  obtain ⟨recv3, groupId, hreceiver, hthree⟩ := h
  unfold controlFrame ControlParamsConvert controlBodyLen
  cases controlFields params with
  | error e => simp
  | ok fields =>
    simp only [ok_bind, hreceiver]
    have hlen := length_buildControlBody 0 0 groupId
      (senderFlags (fields.brightness.getD 0) params) fields
    cases hbody :
        buildControlBody groupId (senderFlags (fields.brightness.getD 0) params) fields with
    | error e =>
      rw [hbody] at hlen
      cases h₀ : buildControlBody 0 0 fields with
      | error e' => simp
      | ok body => rw [h₀] at hlen; cases hlen
    | ok body =>
      rw [hbody] at hlen
      cases h₀ : buildControlBody 0 0 fields with
      | error e' => rw [h₀] at hlen; cases hlen
      | ok body' =>
        refine iff_of_true ?_ ⟨_, rfl⟩
        have hshort := (length_le_of_buildControlBody hbody).trans (by decide : ctrlBodyMax ≤ 251)
        exact ⟨_, checkedFrame_eq_ok.mpr ⟨⟨hthree, hshort⟩, rfl⟩⟩

/-! ## 3. The plan of an effect -/

/-- The parameters of an effect convert, in the planner and in the sender. -/
def EffectKind.ParamsConvert (kind : EffectKind) (params : Dict) : Prop :=
  match kind with
  | .wledPreset => PresetParamsConvert params
  | _ => ControlParamsConvert params

/-- The target and the preset of an effect are found, and its parameters convert. -/
def Effect.Ready (inp : PlannerInputs) (e : Effect) : Prop :=
  ∃ targets m, resolveTarget inp e.target = some targets ∧ materialize inp e = .ok (some m) ∧
    e.kind.ParamsConvert m.params

/-- The target or the preset of an effect is not found. -/
def Effect.Unresolved (inp : PlannerInputs) (e : Effect) : Prop :=
  resolveTarget inp e.target = none ∨ materialize inp e = .ok none

/-- The body length `_build_effect_op` writes into its packet. -/
def EffectKind.bodyLen (kind : EffectKind) (params : Dict) : Except PyErr Nat :=
  match kind with
  | .wledPreset => pure (buildPresetBody 0 0 0 0).length
  | _ => controlBodyLen params

/-- The payload of a packet of this kind. -/
def EffectKind.payload (kind : EffectKind) (params : Dict) (target : SendTarget) : Payload :=
  match kind with
  | .wledPreset => .preset params target
  | .startblock => .startblock params target
  | _ => .control params target

/-- The packet for a target, of a given length. -/
def effectOp (inp : PlannerInputs) (kind : EffectKind) (params : Dict) (preset : PresetDetail)
    (len : Nat) (target : SendTarget) : WireOp :=
  ⟨targetGroupForOp inp target, kind.payload params target, len, .whole, preset⟩

theorem buildEffectOp_eq (inp : PlannerInputs) (kind : EffectKind) (params : Dict)
    (preset : PresetDetail) (target : SendTarget) :
    buildEffectOp inp kind params preset target = (do
      let len ← kind.bodyLen params
      pure (effectOp inp kind params preset len target)) := by
  cases kind <;> rfl

/-- A computation that does not depend on the element, over a list that is not empty. -/
theorem mapM_const {ε α β γ : Type} (x : Except ε γ) (f : γ → α → β) {xs : List α}
    (h : xs ≠ []) :
    (xs.mapM fun a => do let c ← x; pure (f c a)) = (do let c ← x; pure (xs.map (f c))) := by
  cases x with
  | error e =>
    cases xs with
    | nil => exact absurd rfl h
    | cons a xs => rw [List.mapM_cons]; rfl
  | ok c =>
    clear h
    induction xs with
    | nil => rfl
    | cons a xs ih => rw [List.mapM_cons, ih]; rfl

/-- The plan of an effect whose target and preset are found. -/
theorem planEffect_resolved {inp : PlannerInputs} {e : Effect} {targets : List SendTarget}
    {m : Materialised} (hne : targets ≠ []) (htargets : resolveTarget inp e.target = some targets)
    (hm : materialize inp e = .ok (some m)) (force : Option Bool) :
    planEffect inp force e = (do
      let params := mergeFlags m.params m.flags (overrideOf force e)
      let len ← e.kind.bodyLen params
      pure ⟨e.kind, targets.map (effectOp inp e.kind params m.detail len), none, m.detail⟩) := by
  have hops := mapM_const (e.kind.bodyLen (mergeFlags m.params m.flags (overrideOf force e)))
    (effectOp inp e.kind (mergeFlags m.params m.flags (overrideOf force e)) m.detail) hne
  simp only [← buildEffectOp_eq] at hops
  simp only [planEffect, htargets, hm, ok_bind, hops, bind_assoc, pure_bind]

/-- The plan of an effect whose target or preset is not found: degraded, without packets. -/
theorem planEffect_unresolved {inp : PlannerInputs} {e : Effect} (h : e.Unresolved inp)
    (force : Option Bool) :
    ∃ plan, planEffect inp force e = .ok plan ∧ plan.degraded = true ∧ plan.ops = [] := by
  unfold planEffect
  cases htargets : resolveTarget inp e.target with
  | none => exact ⟨_, rfl, rfl, rfl⟩
  | some targets =>
    rcases h with h | h
    · rw [htargets] at h
      cases h
    · simp only [h, ok_bind]
      cases Dict.get e.params "presetId" <;> exact ⟨_, rfl, rfl, rfl⟩

/-- Whether a packet of an effect can be put on the wire depends on its parameters only. -/
theorem encodes_payload_iff {ids : List WireId} {target : SendTarget} (h : target.Addressed ids)
    {kind : EffectKind} (hkind : kind ≠ .startblock) (base persisted : Dict)
    (override : UserFlag → Option Bool) :
    (kind.payload (mergeFlags base persisted override) target).Encodes ids ↔
      kind.ParamsConvert base := by
  have hcontrol : (∃ frame, controlFrame ids (mergeFlags base persisted override) target
      = .ok frame) ↔ ControlParamsConvert base := by
    rw [controlFrame_ok_iff h, ControlParamsConvert, controlBodyLen_mergeFlags]
    rfl
  cases kind with
  | wledPreset => exact (presetFrame_ok_iff h _).trans (presetParamsConvert_mergeFlags _ _ _)
  | startblock => exact absurd rfl hkind
  | rlPreset => exact hcontrol
  | wledControl => exact hcontrol

/-- Planning sizes the body where the parameters convert. -/
theorem bodyLen_of_paramsConvert {kind : EffectKind} {base : Dict} (h : kind.ParamsConvert base)
    (persisted : Dict) (override : UserFlag → Option Bool) :
    ∃ len, kind.bodyLen (mergeFlags base persisted override) = .ok len := by
  unfold EffectKind.bodyLen
  rw [controlBodyLen_mergeFlags]
  cases kind with
  | wledPreset => exact ⟨_, rfl⟩
  | rlPreset => exact h
  | wledControl => exact h
  | startblock => exact h

/-- An effect of a scene that is not a startblock, with a canonical target. -/
def Effect.Plain (e : Effect) : Prop := e.target.Canonical ∧ e.kind ≠ .startblock

/-- **Ready effects** are planned: every packet can be put on the wire. -/
theorem planEffect_ready {inp : PlannerInputs} {e : Effect} (he : e.Plain) (h : e.Ready inp)
    (force : Option Bool) :
    ∃ plan, planEffect inp force e = .ok plan ∧ plan.degraded = false ∧ plan.ops ≠ [] ∧
      ∀ op ∈ plan.ops, op.payload.Encodes (inp.devices.map (·.wireId)) := by
  obtain ⟨targets, m, htargets, hm, hconvert⟩ := h
  obtain ⟨hne, haddressed⟩ := addressed_of_resolveTarget he.1 htargets
  obtain ⟨len, hlen⟩ := bodyLen_of_paramsConvert hconvert m.flags (overrideOf force e)
  have hplan := planEffect_resolved hne htargets hm force
  simp only [hlen, ok_bind] at hplan
  refine ⟨_, hplan, rfl, by simpa using hne, fun op hop => ?_⟩
  obtain ⟨target, htarget, rfl⟩ := List.mem_map.mp hop
  exact (encodes_payload_iff (haddressed target htarget) he.2 _ _ _).mpr hconvert

/-- What a plan of an effect can be: degraded and empty, or one packet for each target. -/
theorem planEffect_cases {inp : PlannerInputs} {force : Option Bool} {e : Effect}
    {plan : EffectPlan} (he : e.target.Canonical) (hplan : planEffect inp force e = .ok plan) :
    (e.Unresolved inp ∧ plan.degraded = true ∧ plan.ops = []) ∨
      ∃ targets m len, resolveTarget inp e.target = some targets ∧
        materialize inp e = .ok (some m) ∧ plan.degraded = false ∧
        plan.ops = targets.map (effectOp inp e.kind
          (mergeFlags m.params m.flags (overrideOf force e)) m.detail len) := by
  by_cases hunresolved : e.Unresolved inp
  · obtain ⟨plan', hplan', hdegraded, hops⟩ := planEffect_unresolved hunresolved force
    rw [hplan] at hplan'
    cases hplan'
    exact Or.inl ⟨hunresolved, hdegraded, hops⟩
  right
  rw [Effect.Unresolved, not_or] at hunresolved
  obtain ⟨targets, htargets⟩ := Option.ne_none_iff_exists'.mp hunresolved.1
  obtain ⟨hne, -⟩ := addressed_of_resolveTarget he htargets
  cases hm : materialize inp e with
  | error err => simp [planEffect, htargets, hm] at hplan
  | ok found =>
    cases found with
    | none => exact absurd hm hunresolved.2
    | some m =>
      rw [planEffect_resolved hne htargets hm] at hplan
      obtain ⟨len, -, hplan⟩ := bind_eq_ok.mp hplan
      cases hplan
      exact ⟨targets, m, len, htargets, rfl, rfl, rfl⟩

/-- **Other effects** have no plan, a degraded one, or one whose packets cannot be put on the
wire. -/
theorem planEffect_unready {inp : PlannerInputs} {force : Option Bool} {e : Effect}
    {plan : EffectPlan} (he : e.Plain) (h : ¬ e.Ready inp)
    (hplan : planEffect inp force e = .ok plan) :
    (e.Unresolved inp ∧ plan.degraded = true) ∨
      ∃ op ∈ plan.ops, ¬ op.payload.Encodes (inp.devices.map (·.wireId)) := by
  rcases planEffect_cases he.1 hplan with
    ⟨hunresolved, hdegraded, -⟩ | ⟨targets, m, len, htargets, hm, -, hops⟩
  · exact Or.inl ⟨hunresolved, hdegraded⟩
  · obtain ⟨hne, haddressed⟩ := addressed_of_resolveTarget he.1 htargets
    obtain ⟨target, htarget⟩ := List.exists_mem_of_ne_nil targets hne
    refine Or.inr ⟨_, hops ▸ List.mem_map_of_mem htarget, ?_⟩
    rw [effectOp, encodes_payload_iff (haddressed target htarget) he.2]
    exact fun hconvert => h ⟨targets, m, htargets, hm, hconvert⟩

/-- The packets of an effect are neither startblocks nor syncs. -/
theorem planEffect_payload {inp : PlannerInputs} {force : Option Bool} {e : Effect}
    {plan : EffectPlan} (he : e.Plain) (hplan : planEffect inp force e = .ok plan) :
    ∀ op ∈ plan.ops, ¬ op.payload.IsStartblock ∧ ¬ op.payload.IsSync := by
  intro op hop
  rcases planEffect_cases he.1 hplan with ⟨-, -, hops⟩ | ⟨targets, m, len, -, -, -, hops⟩
  · rw [hops] at hop
    cases hop
  · rw [hops] at hop
    obtain ⟨target, -, rfl⟩ := List.mem_map.mp hop
    have hkind := he.2
    unfold effectOp EffectKind.payload
    cases hk : e.kind with
    | startblock => exact absurd hk hkind
    | _ => exact ⟨id, id⟩

/-! ## 4. The plan of an action -/

/-- What is asked of an action: its own parameters as an effect, its children's as a container. -/
def Action.Ready (inp : PlannerInputs) (a : Action) : Prop := ∀ e ∈ a.effects, e.Ready inp

/-- A packet of the children is a packet of one of them, with its phase set. -/
theorem mem_childOps {plans : List EffectPlan} {op : WireOp} :
    op ∈ childOps plans ↔ ∃ (index : Nat) (plan : EffectPlan), plans[index]? = some plan ∧
      ∃ op' ∈ plan.ops, op = { op' with phase := .child index plan.kind } := by
  unfold childOps
  simp only [List.mem_flatten, List.mem_mapIdx]
  constructor
  · rintro ⟨_, ⟨index, hlt, rfl⟩, hop⟩
    obtain ⟨op', hop', rfl⟩ := List.mem_map.mp hop
    exact ⟨index, plans[index], List.getElem?_eq_getElem hlt, op', hop', rfl⟩
  · rintro ⟨index, plan, hplan, op', hop', rfl⟩
    obtain ⟨hlt, rfl⟩ := List.getElem?_eq_some_iff.mp hplan
    exact ⟨_, ⟨index, hlt, rfl⟩, List.mem_map.mpr ⟨op', hop', rfl⟩⟩

theorem forall_childOps_iff {plans : List EffectPlan} {P : Payload → Prop} :
    (∀ op ∈ childOps plans, P op.payload) ↔ ∀ plan ∈ plans, ∀ op ∈ plan.ops, P op.payload := by
  constructor
  · intro h plan hplan op hop
    obtain ⟨index, hindex⟩ := List.mem_iff_getElem?.mp hplan
    exact h { op with phase := .child index plan.kind }
      (mem_childOps.mpr ⟨index, plan, hindex, op, hop, rfl⟩)
  · intro h op hop
    obtain ⟨index, plan, hindex, op', hop', rfl⟩ := mem_childOps.mp hop
    exact h plan (List.mem_of_getElem? hindex) op' hop'

/-- A container always has an offset packet. -/
theorem planOffsetSetup_ops_ne_nil {target : Target} {offset : OffsetBlock}
    (ht : target.Canonical) (hd : target.NotDevice) (ho : offset.Canonical target.groupIds?)
    (known : List Int) :
    ∃ plan, planOffsetSetup target offset known = .ok plan ∧ plan.ops ≠ [] := by
  obtain ⟨plan, hplan, htargets⟩ := targets_planOffsetSetup ht hd ho known
  refine ⟨plan, hplan, fun hnil => ?_⟩
  rw [hnil, List.map_nil] at htargets
  rcases htargets with h | ⟨h, hne⟩ | ⟨value, rfl, h | h⟩
  · cases h
  · exact hne h.symm
  · exact ht.1 h.symm
  · cases h

/-- The plan of a container, from the offset packets and the children's plans. -/
theorem planOffsetGroup_eq_ok {inp : PlannerInputs} {target : Target} {offset : OffsetBlock}
    {actions : List Effect} {plan : ActionDispatchPlan}
    (h : planOffsetGroup inp target offset actions = .ok plan) :
    ∃ setup plans, planOffsetSetup target offset inp.knownGroupIds = .ok setup ∧
      actions.mapM (planEffect inp (some (offset ≠ .none))) = .ok plans ∧
      plan.ops = setup.ops.map (·.toWire) ++ childOps plans ∧
      plan.degraded = plans.any (·.degraded) := by
  obtain ⟨setup, hsetup, h⟩ := bind_eq_ok.mp h
  obtain ⟨plans, hplans, h⟩ := bind_eq_ok.mp h
  cases h
  exact ⟨setup, plans, hsetup, hplans, rfl, rfl⟩

/-- A canonical action that is not a startblock. -/
structure Action.Plain (a : Action) : Prop where
  canonical : a.Canonical
  kind : a.kind ≠ .effect .startblock

theorem Action.Plain.effects {a : Action} (ha : a.Plain) : ∀ e ∈ a.effects, e.Plain := by
  obtain ⟨hcanonical, hkind⟩ := ha
  intro e he
  cases a with
  | effect e' =>
    cases List.mem_singleton.mp he
    exact ⟨hcanonical.1, fun hk => hkind (congrArg Kind.effect hk)⟩
  | offsetGroup target offset actions =>
    obtain ⟨-, -, -, -, hchildren⟩ := hcanonical
    obtain ⟨hcanonical, hchild, -⟩ := hchildren e he
    exact ⟨hcanonical.1, hchild⟩
  | sync => cases he
  | delay durationMs => cases he

/-- No packet of a plan is a startblock, and only a sync plans a sync. -/
theorem planActionDispatch_payload {inp : PlannerInputs} {a : Action} {plan : ActionDispatchPlan}
    (ha : a.Plain) (hplan : planActionDispatch inp a = .ok plan) :
    ∀ op ∈ plan.ops, ¬ op.payload.IsStartblock ∧ (a ≠ .sync → ¬ op.payload.IsSync) := by
  cases a with
  | effect e =>
    obtain ⟨p, hp, hplan⟩ := bind_eq_ok.mp hplan
    cases hplan
    intro op hop
    have hpayload := planEffect_payload (ha.effects e List.mem_cons_self) hp op hop
    exact ⟨hpayload.1, fun _ => hpayload.2⟩
  | sync =>
    cases hplan
    intro op hop
    cases List.mem_singleton.mp hop
    exact ⟨id, fun h => absurd rfl h⟩
  | delay durationMs =>
    cases hplan
    intro op hop
    cases hop
  | offsetGroup target offset actions =>
    obtain ⟨setup, plans, -, hplans, hops, -⟩ := planOffsetGroup_eq_ok hplan
    rw [hops]
    refine List.forall_mem_append.mpr ⟨fun op hop => ?_, ?_⟩
    · obtain ⟨offsetOp, -, rfl⟩ := List.mem_map.mp hop
      exact ⟨id, fun _ => id⟩
    · have hchildren : ∀ op ∈ childOps plans,
          ¬ op.payload.IsStartblock ∧ ¬ op.payload.IsSync := by
        refine (forall_childOps_iff (P := fun payload => ¬ payload.IsStartblock ∧
          ¬ payload.IsSync)).mpr fun p hp => ?_
        obtain ⟨e, he, hplan⟩ := exists_of_mem_mapM hplans hp
        exact planEffect_payload (ha.effects e he) hplan
      exact fun op hop => (hchildren op hop).imp_right fun hsync _ => hsync

/-- **Ready actions** are planned: the plan is not degraded, and every packet of it can be put on
the wire. -/
theorem planActionDispatch_ready {inp : PlannerInputs} {a : Action} (ha : a.Plain)
    (h : a.Ready inp) :
    ∃ plan, planActionDispatch inp a = .ok plan ∧ plan.degraded = false ∧
      (plan.ops = [] → ∃ durationMs, a = .delay durationMs) ∧
      ∀ op ∈ plan.ops, op.payload.Encodes (inp.devices.map (·.wireId)) := by
  cases a with
  | effect e =>
    obtain ⟨p, hp, hdegraded, hne, hencodes⟩ := planEffect_ready
      (ha.effects e List.mem_cons_self) (h e List.mem_cons_self) none
    refine ⟨p.toAction, ?_, hdegraded, fun hnil => absurd hnil hne, hencodes⟩
    rw [planActionDispatch, hp]
    rfl
  | sync =>
    refine ⟨planSync, rfl, rfl, fun hnil => (nomatch hnil), fun op hop => ?_⟩
    cases List.mem_singleton.mp hop
    trivial
  | delay durationMs =>
    exact ⟨_, rfl, rfl, fun _ => ⟨durationMs, rfl⟩, fun op hop => (nomatch hop)⟩
  | offsetGroup target offset actions =>
    obtain ⟨⟨ht, hd⟩, -, ho, -, -⟩ := ha.canonical
    obtain ⟨setup, hsetup, hne⟩ := planOffsetSetup_ops_ne_nil ht hd ho inp.knownGroupIds
    have hready : ∀ e ∈ actions, ∃ p, planEffect inp (some (offset ≠ .none)) e = .ok p ∧
        p.degraded = false ∧ ∀ op ∈ p.ops, op.payload.Encodes (inp.devices.map (·.wireId)) := by
      intro e he
      obtain ⟨p, hp, hdegraded, -, hencodes⟩ :=
        planEffect_ready (ha.effects e he) (h e he) (some (offset ≠ .none))
      exact ⟨p, hp, hdegraded, hencodes⟩
    obtain ⟨plans, hplans⟩ := mapM_of_forall fun e he => (hready e he).imp fun _ hp => hp.1
    have hall : ∀ p ∈ plans, p.degraded = false ∧
        ∀ op ∈ p.ops, op.payload.Encodes (inp.devices.map (·.wireId)) := by
      intro p hp
      obtain ⟨e, he, hplan⟩ := exists_of_mem_mapM hplans hp
      obtain ⟨p', hp', hgood⟩ := hready e he
      rw [hplan] at hp'
      cases hp'
      exact hgood
    obtain ⟨plan, hplan⟩ : ∃ plan, planOffsetGroup inp target offset actions = .ok plan := by
      rw [planOffsetGroup, hsetup, ok_bind, hplans]
      exact ⟨_, rfl⟩
    obtain ⟨setup', plans', hsetup', hplans', hops, hdegraded⟩ := planOffsetGroup_eq_ok hplan
    cases hsetup.symm.trans hsetup'
    cases hplans.symm.trans hplans'
    refine ⟨plan, hplan, ?_, fun hnil => ?_, ?_⟩
    · rw [hdegraded]
      exact List.any_eq_false.mpr fun p hp => by simp [(hall p hp).1]
    · rw [hops, List.append_eq_nil_iff, List.map_eq_nil_iff] at hnil
      exact absurd hnil.1 hne
    · rw [hops]
      refine List.forall_mem_append.mpr ⟨fun op hop => ?_, ?_⟩
      · obtain ⟨offsetOp, -, rfl⟩ := List.mem_map.mp hop
        trivial
      · exact forall_childOps_iff.mpr fun p hp => (hall p hp).2

/-- **Other actions** have no plan, a degraded one, or one with a packet that cannot be put on the
wire. -/
theorem planActionDispatch_unready {inp : PlannerInputs} {a : Action} {plan : ActionDispatchPlan}
    (ha : a.Plain) (h : ¬ a.Ready inp) (hplan : planActionDispatch inp a = .ok plan) :
    plan.degraded = true ∨
      ∃ op ∈ plan.ops, ¬ op.payload.Encodes (inp.devices.map (·.wireId)) := by
  obtain ⟨e, he, hunready⟩ : ∃ e ∈ a.effects, ¬ e.Ready inp := by
    simpa [Action.Ready] using h
  cases a with
  | effect e' =>
    cases List.mem_singleton.mp he
    obtain ⟨p, hp, hplan⟩ := bind_eq_ok.mp hplan
    cases hplan
    exact (planEffect_unready (ha.effects e he) hunready hp).imp_left fun hd => hd.2
  | sync => cases he
  | delay durationMs => cases he
  | offsetGroup target offset actions =>
    obtain ⟨setup, plans, -, hplans, hops, hdegraded⟩ := planOffsetGroup_eq_ok hplan
    obtain ⟨p, hp, hplan⟩ := exists_mem_of_mapM hplans he
    rcases planEffect_unready (ha.effects e he) hunready hplan with ⟨-, hd⟩ | ⟨op, hop, hnot⟩
    · exact Or.inl (hdegraded ▸ List.any_eq_true.mpr ⟨p, hp, hd⟩)
    · right
      by_contra hnone
      have hencodes : ∀ op ∈ childOps plans,
          op.payload.Encodes (inp.devices.map (·.wireId)) := by
        intro op hop
        by_contra hop'
        exact hnone ⟨op, hops ▸ List.mem_append_right _ hop, hop'⟩
      exact hnot (forall_childOps_iff.mp hencodes p hp op hop)

end RaceLink
