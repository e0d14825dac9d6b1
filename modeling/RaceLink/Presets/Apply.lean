/-
# Applying a preset

A stored preset reaches the air in two ways.  `send_rl_preset_by_id` reads it by its id and hands
its parameters and flags to `send_wled_control`.  A scene action of kind `rl_preset` names it by a
reference; the planner looks the reference up and merges the parameters and the flags itself.

The two merges differ: one adds the flags that are set, the other also takes out those that are
not.  A preset's parameters carry no flags, so the dictionaries have the same entries, and the
sender reads nothing else (`rlPreset_action_eq`).  What differs is what a reference means: a key
made of digits is read as an id.
-/
import RaceLink.Dispatch.Ready
import RaceLink.Presets.Preset
import RaceLink.Python.Seen

namespace RaceLink.RlPresets

open Python

/-! ## 1. Looking a preset up -/

/-- `RLPresetsService.get`, in the presets of the store. -/
def getByKey (presets : List Preset) (key : String) : Option Preset :=
  presets.find? (·.key == key)

/-- `RLPresetsService.get_by_id`, for a number. -/
def getById (presets : List Preset) (pid : Int) : Option Preset :=
  presets.find? (·.id == pid)

/-- A preset as the planner takes it. -/
def Preset.entry (p : Preset) : RlPreset :=
  { params := p.params.entries.map fun e => (.str e.1, e.2)
    flags := (flagEntries p.flags).map fun e => (.str e.1, e.2)
    key := .str p.key, id := .int p.id }

/-- The digits that are no decimal digits: superscripts, circled digits and the like. -/
def otherDigits : List (Nat × Nat) :=
  [(0xb2, 0xb3), (0xb9, 0xb9), (0x1369, 0x1371), (0x19da, 0x19da), (0x2070, 0x2070),
   (0x2074, 0x2079), (0x2080, 0x2089), (0x2460, 0x2468), (0x2474, 0x247c), (0x2488, 0x2490),
   (0x24ea, 0x24ea), (0x24f5, 0x24fd), (0x24ff, 0x24ff), (0x2776, 0x277e), (0x2780, 0x2788),
   (0x278a, 0x2792), (0x10a40, 0x10a43), (0x10e60, 0x10e68), (0x11052, 0x1105a), (0x1f100, 0x1f10a)]

/-- `str.isdigit`. -/
def isDigits (s : String) : Bool :=
  s != "" && s.toList.all fun c =>
    (digit? c).isSome || otherDigits.any fun run => run.1 ≤ c.toNat && c.toNat ≤ run.2

/-- The text starts with `RL:`. -/
def hasRlPrefix (s : String) : Bool := "RL:".toList.isPrefixOf s.toList

/-- The lookup of `_make_rl_preset_lookup`, for the presets of the store. -/
def lookupRlPreset (presets : List Preset) : PyVal → Option Preset
  | .str ref =>
    if hasRlPrefix ref then getByKey presets (String.ofList (ref.toList.drop 3))
    else
      let stripped := strip ref
      if isDigits stripped then
        match int (.str stripped) with
        | .ok pid => getById presets pid
        -- an exception counts as nothing found
        | .error _ => none
      else getByKey presets stripped
  | .int ref => getById presets ref
  | .bool ref => getById presets (if ref then 1 else 0)
  | _ => none

/-- `_make_rl_preset_lookup`. -/
def makeRlPresetLookup (presets : List Preset) (ref : PyVal) : Option RlPreset :=
  (lookupRlPreset presets ref).map (·.entry)

/-! ## 2. The direct way -/

/-- The flags that are set, added to the parameters. -/
def addFlags (flags : UserFlag → Bool) (params : Dict) : Dict :=
  UserFlag.all.foldl (fun merged k =>
    if flags k then Dict.set merged (.str k.key) (.bool true) else merged) params

/-- `send_rl_preset_by_id`, with the presets of the store if the service is wired.
`brightnessOverride` is `None` (`null`) when there is none. -/
def sendRlPresetById (presets : Option (List Preset)) (presetId : PyVal) (target : SendTarget)
    (brightnessOverride : PyVal) : Script Link Bool :=
  match presets with
  | none => pure false
  | some presets =>
    match int presetId with
    | .error .typeError => pure false
    | .error (.valueError _) => pure false
    | .error e => Script.lift (.error e)
    | .ok pid =>
      match getById presets pid with
      | none => pure false
      | some preset => do
        let merged ← match brightnessOverride with
          | .null => pure preset.entry.params
          | v => do
            let brightness ← Script.lift (int v)
            pure (Dict.set preset.entry.params (.str "brightness") (.int brightness))
        sendWledControl (addFlags preset.flags merged) target

/-- The same call for one target after another. -/
def forEachTarget (call : SendTarget → Script Link Bool) : List SendTarget → Script Link (List Bool)
  | [] => pure []
  | target :: targets => do
    let ok ← call target
    let oks ← forEachTarget call targets
    pure (ok :: oks)

/-! ## 3. What a sender reads of the parameters -/

/-- `send_wled_control` depends on the entries of its parameters only. -/
theorem sendWledControl_congr {params params' : Dict}
    (h : ∀ key, Dict.find? params key = Dict.find? params' key) (target : SendTarget) :
    sendWledControl params target = sendWledControl params' target := by
  have hget : ∀ key, Dict.get params key = Dict.get params' key := fun key => by
    rw [Dict.get, h, Dict.get]
  have hfields : controlFields params = controlFields params' := by
    simp only [controlFields, intField, boolField, colorField, hget]
  have hflags : ∀ brightness, senderFlags brightness params = senderFlags brightness params' := by
    intro brightness
    simp only [senderFlags, hget]
  simp only [sendWledControl, hfields, hflags]

/-- A fold over the flags whose steps each touch the entry of their flag only: what it does to
the entry of one flag. -/
theorem find?_foldl_flag (edit : Dict → UserFlag → Dict)
    (hother : ∀ d k key, k.key ≠ key → Dict.find? (edit d k) key = Dict.find? d key)
    (k : UserFlag) {flags : List UserFlag} (hnd : flags.Nodup) (hk : k ∈ flags) (base : Dict) :
    ∃ d, Dict.find? d k.key = Dict.find? base k.key ∧
      Dict.find? (flags.foldl edit base) k.key = Dict.find? (edit d k) k.key := by
  have hleft : ∀ d l, k ≠ l → Dict.find? (edit d l) k.key = Dict.find? d k.key := fun d l hne =>
    hother d l k.key fun h => hne (UserFlag.key_injective h).symm
  induction flags generalizing base with
  | nil => cases hk
  | cons l flags ih =>
    obtain ⟨hl, hnd⟩ := List.nodup_cons.mp hnd
    rw [List.foldl_cons]
    by_cases hkl : k = l
    · subst hkl
      refine ⟨base, rfl, Dict.find?_foldl (fun d l hmem => hleft d l ?_) _⟩
      rintro rfl
      exact hl hmem
    · obtain ⟨d, hd, hfold⟩ := ih hnd ((List.mem_cons.mp hk).resolve_left hkl) (edit base l)
      exact ⟨d, hd.trans (hleft base l hkl), hfold⟩

/-- The entry of a flag after `_merge_flags`. -/
theorem find?_mergeFlags_flag (base persisted : Dict) (override : UserFlag → Option Bool)
    (k : UserFlag) : Dict.find? (mergeFlags base persisted override) k.key =
      if (override k).getD (Dict.getD persisted k.key (.bool false)).truthy
      then some (.bool true) else none := by
  obtain ⟨d, -, hfold⟩ := find?_foldl_flag (fun merged k =>
      if (override k).getD (Dict.getD persisted k.key (.bool false)).truthy
      then Dict.set merged (.str k.key) (.bool true) else Dict.erase merged k.key)
    (fun d l key hne => by
      split
      · exact Dict.find?_set_of_ne hne _ d
      · exact Dict.find?_erase_of_ne hne d)
    k (by decide : UserFlag.all.Nodup) (UserFlag.mem_all k) base
  refine hfold.trans ?_
  split
  · exact Dict.find?_set_self _ _ d
  · exact Dict.find?_erase_self _ d

/-- The entry of a flag after the flags that are set were added. -/
theorem find?_addFlags_flag (flags : UserFlag → Bool) (params : Dict) (k : UserFlag) :
    Dict.find? (addFlags flags params) k.key =
      if flags k then some (.bool true) else Dict.find? params k.key := by
  obtain ⟨d, hd, hfold⟩ := find?_foldl_flag (fun merged k =>
      if flags k then Dict.set merged (.str k.key) (.bool true) else merged)
    (fun d l key hne => by
      split
      · exact Dict.find?_set_of_ne hne _ d
      · rfl)
    k (by decide : UserFlag.all.Nodup) (UserFlag.mem_all k) params
  refine hfold.trans ?_
  split
  · exact Dict.find?_set_self _ _ d
  · exact hd

/-- Adding flags leaves the other entries alone. -/
theorem find?_addFlags_of_ne (flags : UserFlag → Bool) {key : String}
    (hkey : ∀ k : UserFlag, k.key ≠ key) (params : Dict) :
    Dict.find? (addFlags flags params) key = Dict.find? params key := by
  refine Dict.find?_foldl (fun d k _ => ?_) params
  split
  · exact Dict.find?_set_of_ne (hkey k) _ d
  · rfl

/-! ## 4. The parameters of a preset -/

/-- The parameters as they are sent: `brightness` is the override, if there is one. -/
def Preset.withBrightness (p : Preset) : PyVal → Except PyErr Dict
  | .null => .ok p.entry.params
  | v => do
    let brightness ← int v
    pure (Dict.set p.entry.params (.str "brightness") (.int brightness))

/-- What is given of the parameters, for `build_control_body`. -/
def PresetParams.fields (p : PresetParams) (brightness : Option Int) : ControlFields :=
  { brightness := brightness, mode := p.mode.map (·.toNat), speed := p.speed.map (·.toNat)
    intensity := p.intensity.map (·.toNat), custom1 := p.custom1.map (·.toNat)
    custom2 := p.custom2.map (·.toNat), custom3 := p.custom3.map (·.toNat)
    palette := p.palette.map (·.toNat), check1 := p.check1, check2 := p.check2, check3 := p.check3
    color1 := p.color1.map fun c => [(c.r.toNat : Int), c.g.toNat, c.b.toNat]
    color2 := p.color2.map fun c => [(c.r.toNat : Int), c.g.toNat, c.b.toNat]
    color3 := p.color3.map fun c => [(c.r.toNat : Int), c.g.toNat, c.b.toNat] }

theorem PresetParams.rgbColors_fields (p : PresetParams) (brightness : Option Int) :
    (p.fields brightness).RgbColors := by
  have hthree : ∀ (v : Option Rgb) (c : List Int),
      (v.map fun c => [(c.r.toNat : Int), c.g.toNat, c.b.toNat]) = some c → c.length = 3 := by
    intro v c h
    obtain ⟨_, -, rfl⟩ := Option.map_eq_some_iff.mp h
    rfl
  exact ⟨hthree p.color1, hthree p.color2, hthree p.color3⟩

theorem intField_byteVal {d : Dict} {key : String} {v : Option UInt8}
    (h : Dict.get d key = byteVal v) : intField d key = .ok (v.map (·.toNat)) := by
  cases v with
  | none => simp [intField, h, byteVal]
  | some b =>
    have hlt := b.toNat_lt
    have hmod : ((b.toNat : Int) % 256) = b.toNat := by omega
    simp [intField, h, byteVal, hmod]

theorem boolField_boolVal {d : Dict} {key : String} {v : Option Bool}
    (h : Dict.get d key = boolVal v) : boolField d key = v := by
  cases v with
  | none => simp [boolField, h, boolVal]
  | some b => simp [boolField, h, boolVal, PyVal.truthy]

theorem colorField_colorVal {d : Dict} {key : String} {v : Option Rgb}
    (h : Dict.get d key = colorVal v) :
    colorField d key = .ok (v.map fun c => [(c.r.toNat : Int), c.g.toNat, c.b.toNat]) := by
  cases v with
  | none => simp [colorField, h, colorVal]
  | some c =>
    have hmod : ∀ b : UInt8, ((b.toNat : Int) % 256) = b.toNat := fun b => by
      have hlt := b.toNat_lt
      omega
    simp [colorField, h, colorVal, listOf, PyVal.iter?, hmod]

/-- What the sender collects from a dictionary with a preset's parameters, whatever its
brightness. -/
theorem controlFields_eq {p : PresetParams} {d : Dict} {brightness : Option Int}
    (hbrightness : intField d "brightness" = .ok brightness)
    (h : ∀ key, key ≠ "brightness" →
      Dict.get d key = Dict.get (p.entries.map fun e => (.str e.1, e.2)) key) :
    controlFields d = .ok (p.fields brightness) := by
  have hget : ∀ key, key ≠ "brightness" → Dict.get d key = (p.entries.lookup key).getD .null :=
    fun key hkey => (h key hkey).trans (get_params p key)
  rw [controlFields, hbrightness]
  rw [intField_byteVal (hget "mode" (by decide)), intField_byteVal (hget "speed" (by decide)),
    intField_byteVal (hget "intensity" (by decide)),
    intField_byteVal (hget "custom1" (by decide)), intField_byteVal (hget "custom2" (by decide)),
    intField_byteVal (hget "custom3" (by decide)), intField_byteVal (hget "palette" (by decide)),
    colorField_colorVal (hget "color1" (by decide)),
    colorField_colorVal (hget "color2" (by decide)),
    colorField_colorVal (hget "color3" (by decide)), boolField_boolVal (hget "check1" (by decide)),
    boolField_boolVal (hget "check2" (by decide)), boolField_boolVal (hget "check3" (by decide))]
  rfl

theorem controlFields_params (p : Preset) : controlFields p.entry.params
    = .ok (p.params.fields (p.params.brightness.map (·.toNat))) :=
  controlFields_eq (intField_byteVal (get_params p.params "brightness")) fun _ _ => rfl

theorem controlFields_override (p : Preset) (b : Int) :
    controlFields (Dict.set p.entry.params (.str "brightness") (.int b))
      = .ok (p.params.fields (some (b % 256))) := by
  refine controlFields_eq ?_ fun key hkey => ?_
  · simp [intField, Dict.get, Dict.find?_set_self]
  · rw [Dict.get, Dict.find?_set_of_ne hkey.symm]
    rfl

/-- A preset's parameters convert, with any override that is a number. -/
theorem controlFields_withBrightness {p : Preset} {v : PyVal} {merged : Dict}
    (h : p.withBrightness v = .ok merged) :
    ∃ brightness, controlFields merged = .ok (p.params.fields brightness) := by
  unfold Preset.withBrightness at h
  split at h
  · cases h
    exact ⟨_, controlFields_params p⟩
  · obtain ⟨b, -, h⟩ := bind_eq_ok.mp h
    cases h
    exact ⟨_, controlFields_override p b⟩

/-- The parameters of a preset are not flags. -/
theorem find?_withBrightness_flag {p : Preset} {v : PyVal} {merged : Dict}
    (h : p.withBrightness v = .ok merged) (k : UserFlag) : Dict.find? merged k.key = none := by
  have hparams : Dict.find? p.entry.params k.key = none := by
    cases k <;> simp [Preset.entry, PresetParams.entries, UserFlag.key]
  have hkey : "brightness" ≠ k.key := by cases k <;> decide
  unfold Preset.withBrightness at h
  split at h
  · cases h
    exact hparams
  · obtain ⟨b, -, h⟩ := bind_eq_ok.mp h
    cases h
    rw [Dict.find?_set_of_ne hkey, hparams]

theorem getD_entry_flags (p : Preset) (k : UserFlag) :
    Dict.getD p.entry.flags k.key (.bool false) = .bool (p.flags k) := by
  rw [Dict.getD, Preset.entry, get_flags]
  rfl

/-- **The two merges** leave the same entries. -/
theorem find?_merged {p : Preset} {v : PyVal} {merged : Dict} (h : p.withBrightness v = .ok merged)
    {override : UserFlag → Option Bool} (hoverride : ∀ k, override k = none) (key : String) :
    Dict.find? (mergeFlags merged p.entry.flags override) key
      = Dict.find? (addFlags p.flags merged) key := by
  by_cases hkey : ∃ k : UserFlag, k.key = key
  · obtain ⟨k, rfl⟩ := hkey
    rw [find?_mergeFlags_flag, find?_addFlags_flag, hoverride, getD_entry_flags,
      find?_withBrightness_flag h]
    rfl
  · have hkey := not_exists.mp hkey
    rw [find?_mergeFlags hkey, find?_addFlags_of_ne _ hkey]

/-! ## 5. The scene's way -/

/-- The key is not read as anything else: not as an id, not as an `RL:` reference, and it is what
is left of it without the blanks around it. -/
def PlainKey (key : String) : Prop :=
  isDigits key = false ∧ hasRlPrefix key = false ∧ strip key = key

/-- The text is the preset's id, written in digits. -/
def Preset.IdInDigits (p : Preset) (text : String) : Prop :=
  hasRlPrefix text = false ∧ isDigits (strip text) = true ∧ int (.str (strip text)) = .ok p.id

/-- The reference is the preset's id, as a number or in digits, its key after `RL:`, or its key, if
that is plain. -/
def Preset.NamedBy (p : Preset) : PyVal → Prop
  | .int ref => ref = p.id
  | .str ref => ref = "RL:" ++ p.key ∨ (ref = p.key ∧ PlainKey p.key) ∨ p.IdInDigits ref
  | _ => False

/-- The presets of a store have different ids and different keys. -/
structure Distinct (presets : List Preset) : Prop where
  ids : (presets.map (·.id)).Nodup
  keys : (presets.map (·.key)).Nodup

theorem Distinct.getById {presets : List Preset} (h : Distinct presets) {p : Preset}
    (hp : p ∈ presets) : getById presets p.id = some p :=
  find?_key_of_mem h.ids hp

theorem Distinct.getByKey {presets : List Preset} (h : Distinct presets) {p : Preset}
    (hp : p ∈ presets) : getByKey presets p.key = some p :=
  find?_key_of_mem h.keys hp

/-- A reference finds the preset it names. -/
theorem lookupRlPreset_eq {presets : List Preset} (h : Distinct presets) {p : Preset}
    (hp : p ∈ presets) {ref : PyVal} (href : p.NamedBy ref) :
    lookupRlPreset presets ref = some p := by
  cases ref with
  | int ref =>
    obtain rfl : ref = p.id := href
    exact h.getById hp
  | str ref =>
    rcases href with rfl | ⟨rfl, hdigits, hrl, hstrip⟩ | ⟨hrl, hdigits, hint⟩
    · have hdrop : String.ofList (("RL:" ++ p.key).toList.drop 3) = p.key := by simp
      have hrl : hasRlPrefix ("RL:" ++ p.key) = true := by simp [hasRlPrefix]
      rw [lookupRlPreset, if_pos hrl, hdrop]
      exact h.getByKey hp
    · rw [lookupRlPreset, if_neg (by simp [hrl]), hstrip]
      dsimp only
      rw [if_neg (by simp [hdigits])]
      exact h.getByKey hp
    · rw [lookupRlPreset, if_neg (by simp [hrl])]
      dsimp only
      rw [if_pos hdigits, hint]
      exact h.getById hp
  | _ => cases href

/-- The direct way, for a preset of the store. -/
theorem sendRlPresetById_eq {presets : List Preset} (h : Distinct presets) {p : Preset}
    (hp : p ∈ presets) (target : SendTarget) (v : PyVal) :
    sendRlPresetById (some presets) (.int p.id) target v = (do
      let merged ← Script.lift (p.withBrightness v)
      sendWledControl (addFlags p.flags merged) target) := by
  funext link
  rw [sendRlPresetById]
  simp only [int_int, h.getById hp]
  cases v with
  | null => rfl
  | _ =>
    simp only [Preset.withBrightness, Script.bind_run, Script.lift_run]
    cases int _ <;> rfl

/-- The planner's parameters, for a reference to a preset of the store. -/
theorem materialize_rlPreset {inp : PlannerInputs} {presets : List Preset} {e : Effect}
    (hlookup : inp.rlPresetLookup = some (makeRlPresetLookup presets)) (h : Distinct presets)
    {p : Preset} (hp : p ∈ presets) (hkind : e.kind = .rlPreset)
    (href : p.NamedBy (Dict.get e.params "presetId")) :
    materialize inp e = (p.withBrightness (Dict.get e.params "brightness")).map fun merged =>
      some ⟨merged, p.entry.flags, .found (.str p.key) (.int p.id)⟩ := by
  have hfound : makeRlPresetLookup presets (Dict.get e.params "presetId") = some p.entry := by
    rw [makeRlPresetLookup, lookupRlPreset_eq h hp href]
    rfl
  have hbrightness : Dict.get (Dict.erase e.params "presetId") "brightness"
      = Dict.get e.params "brightness" := by
    rw [Dict.get, Dict.find?_erase_of_ne (by decide), Dict.get]
  rw [materialize, if_pos hkind, materializeRlPreset]
  split
  · next hnull =>
    rw [hnull] at href
    cases href
  · simp only [hlookup, hfound, hbrightness]
    cases Dict.get e.params "brightness" with
    | null => rfl
    | _ =>
      simp only [Preset.withBrightness]
      cases int _ <;> rfl

/-- A target that resolves has a packet. -/
theorem resolveTarget_ne_nil {inp : PlannerInputs} {t : Target} {targets : List SendTarget}
    (h : resolveTarget inp t = some targets) : targets ≠ [] := by
  cases t with
  | broadcast =>
    cases h
    exact List.cons_ne_nil _ _
  | groups value =>
    rw [resolveTarget] at h
    split at h
    · cases h
    · next hne =>
      cases h
      simpa using hne
  | device value =>
    obtain ⟨place, -, rfl⟩ := Option.map_eq_some_iff.mp h
    exact List.cons_ne_nil _ _

/-! ## 6. One effect, two ways -/

/-- The dispatch loop over one packet for each target. -/
theorem dispatchOps_map (r : Runner) {op : SendTarget → WireOp}
    {call : SendTarget → Script Link Bool}
    (h : ∀ target, r.dispatchOp (op target) = call target) (targets : List SendTarget)
    (link : Link) :
    (r.dispatchOps (targets.map op) link).2 = (forEachTarget call targets link).2 := by
  induction targets generalizing link with
  | nil => rfl
  | cons target targets ih =>
    rw [List.map_cons, Runner.dispatchOps, forEachTarget, h, Script.bind_run, Script.bind_run]
    rcases call target link with ⟨_ | ok, link'⟩
    · rfl
    · dsimp only
      rw [Script.bind_pure_state, Script.bind_pure_state, ih]

/-- What an action whose plan is known leaves behind. -/
theorem dispatch_of_plan (r : Runner) {known : List Int} {index : Nat} {e : Effect} {link : Link}
    {plan : EffectPlan} (h : planEffect (r.plannerInputs known link.devices) none e = .ok plan) :
    (r.dispatch known index (.effect e) link).2 =
      if plan.degraded then link else (r.dispatchOps plan.ops link).2 := by
  have hplan : planActionDispatch (r.plannerInputs known link.devices) (.effect e)
      = .ok plan.toAction := by
    rw [planActionDispatch, h]
    rfl
  rw [Runner.dispatch, Script.recover_state, Runner.handle, Runner.planAndExecute,
    Script.bind_of_ok (Script.get_run link), hplan, Script.bind_of_ok (Script.lift_run _ _),
    Runner.executePlan]
  · cases hdegraded : plan.degraded
    · simp only [EffectPlan.toAction, hdegraded, Bool.false_eq_true, if_false]
      rw [Script.bind_pure_state]
    · simp only [EffectPlan.toAction, hdegraded, if_true]
      rfl
  · exact fun _ => Action.noConfusion

/-- An action that has no plan leaves the link as it is. -/
theorem dispatch_of_error (r : Runner) {known : List Int} {index : Nat} {e : Effect} {link : Link}
    {err : PyErr} (h : planEffect (r.plannerInputs known link.devices) none e = .error err) :
    (r.dispatch known index (.effect e) link).2 = link := by
  have hplan : planActionDispatch (r.plannerInputs known link.devices) (.effect e)
      = .error err := by
    rw [planActionDispatch, h]
    rfl
  rw [Runner.dispatch, Script.recover_state, Runner.handle, Runner.planAndExecute,
    Script.bind_of_ok (Script.get_run link), hplan]
  · rfl
  · exact fun _ => Action.noConfusion

/-- The targets of an effect, in the state it is dispatched in. -/
def targetsOf (r : Runner) (known : List Int) (e : Effect) (link : Link) : List SendTarget :=
  (resolveTarget (r.plannerInputs known link.devices) e.target).getD []

/-- An effect whose target does not resolve does nothing. -/
theorem dispatch_of_unresolved (r : Runner) {known : List Int} {e : Effect} {link : Link}
    (htargets : resolveTarget (r.plannerInputs known link.devices) e.target = none) (index : Nat) :
    (r.dispatch known index (.effect e) link).2 = link := by
  obtain ⟨plan, hplan, hdegraded, -⟩ := planEffect_unresolved (Or.inl htargets) none
  rw [dispatch_of_plan r hplan, if_pos hdegraded]

/-- **An `OPC_CONTROL` effect** whose parameters are known and convert is `send_wled_control` with
them and the merged flags, for one target after another. -/
theorem dispatch_control (r : Runner) {known : List Int} {e : Effect} {link : Link}
    {m : Materialised} {f : ControlFields} (hkind : e.kind = .rlPreset ∨ e.kind = .wledControl)
    (hm : materialize (r.plannerInputs known link.devices) e = .ok (some m))
    (hf : controlFields m.params = .ok f) (hrgb : f.RgbColors) (index : Nat) :
    (r.dispatch known index (.effect e) link).2 =
      (forEachTarget (sendWledControl (mergeFlags m.params m.flags (overrideOf none e)))
        (targetsOf r known e link) link).2 := by
  rw [targetsOf]
  cases htargets : resolveTarget (r.plannerInputs known link.devices) e.target with
  | none => exact dispatch_of_unresolved r htargets index
  | some targets =>
    have hplan := planEffect_resolved (resolveTarget_ne_nil htargets) htargets hm none
    have hbody := buildControlBody_eq 0 0 hrgb
    have hlen : e.kind.bodyLen (mergeFlags m.params m.flags (overrideOf none e))
        = .ok (f.content 0 0).bytes.length := by
      rcases hkind with hkind | hkind <;>
        simp [hkind, EffectKind.bodyLen, controlBodyLen, controlFields_mergeFlags, hf, hbody]
    simp only [hlen, ok_bind] at hplan
    rw [dispatch_of_plan r hplan, Option.getD_some, if_neg (by simp [EffectPlan.degraded])]
    refine dispatchOps_map r (fun target => ?_) targets link
    rcases hkind with hkind | hkind <;> rw [hkind] <;> rfl

/-- The presets are the store's, and the runner looks them up. -/
structure Wired (r : Runner) (presets : List Preset) : Prop where
  lookup : r.rlPresetLookup = some (makeRlPresetLookup presets)
  distinct : Distinct presets

/-- **An `rl_preset` action** without flags of its own does to the transport and the devices what
`send_rl_preset_by_id` does, called with the preset's id and the action's brightness for each of
the targets: for every preset, every way to name it, every target and every brightness. -/
theorem rlPreset_action_eq {r : Runner} {presets : List Preset} (h : Wired r presets) {p : Preset}
    (hp : p ∈ presets) {e : Effect} (hkind : e.kind = .rlPreset)
    (href : p.NamedBy (Dict.get e.params "presetId"))
    (hflags : ∀ f, e.flagsOverride = some f → ∀ k, f.get k = none)
    (known : List Int) (index : Nat) (link : Link) :
    (r.dispatch known index (.effect e) link).2 =
      (forEachTarget (fun target => sendRlPresetById (some presets) (.int p.id) target
        (Dict.get e.params "brightness")) (targetsOf r known e link) link).2 := by
  have hlookup : (r.plannerInputs known link.devices).rlPresetLookup
      = some (makeRlPresetLookup presets) := h.lookup
  have hm := materialize_rlPreset hlookup h.distinct hp hkind href
  have hoverride : ∀ k, overrideOf none e k = none := by
    intro k
    unfold overrideOf
    cases hf : e.flagsOverride with
    | none => rfl
    | some f => exact hflags f hf k
  simp only [sendRlPresetById_eq h.distinct hp]
  cases hmerged : p.withBrightness (Dict.get e.params "brightness") with
  | error err =>
    -- neither way gets to its first packet
    rw [hmerged] at hm
    rw [targetsOf]
    cases htargets : resolveTarget (r.plannerInputs known link.devices) e.target with
    | none => exact dispatch_of_unresolved r htargets index
    | some targets =>
      have hplan : planEffect (r.plannerInputs known link.devices) none e = .error err := by
        simp [planEffect, htargets, hm, Except.map]
      rw [dispatch_of_error r hplan, Option.getD_some]
      cases targets with
      | nil => exact absurd rfl (resolveTarget_ne_nil htargets)
      | cons target targets => rfl
  | ok merged =>
    rw [hmerged] at hm
    obtain ⟨brightness, hfields⟩ := controlFields_withBrightness hmerged
    rw [dispatch_control r (Or.inl hkind) hm hfields (p.params.rgbColors_fields brightness)]
    have hcall : sendWledControl (mergeFlags merged p.entry.flags (overrideOf none e))
        = sendWledControl (addFlags p.flags merged) :=
      funext (sendWledControl_congr (find?_merged hmerged hoverride))
    rw [hcall]
    rfl

/-- A preset that sets the mode, a check and a colour, and is armed on sync. -/
def partyPreset (key : String) : Preset :=
  { id := 0, key := key, label := key, created := .str "", updated := .str ""
    params :=
      { mode := some 95, speed := none, intensity := none, custom1 := none, custom2 := none
        custom3 := none, check1 := some false, check2 := none, check3 := none, palette := none
        color1 := some ⟨0, 128, 128⟩, color2 := none, color3 := none, brightness := some 200 }
    flags := fun k => k = .armOnSync }

/-- A runner over the presets of a store. -/
def presetRunner (presets : List Preset) : Runner :=
  { rlPresetLookup := some (makeRlPresetLookup presets), hasDeviceLookup := true
    hasDeviceRepository := true, clockMs := fun _ => 0, sendStartblockControl := none }

theorem wired_presetRunner (key : String) :
    Wired (presetRunner [partyPreset key]) [partyPreset key] :=
  ⟨rfl, List.nodup_singleton _, List.nodup_singleton _⟩

/-- An `rl_preset` action for all devices. -/
def applyPreset (ref : PyVal) : Effect :=
  ⟨.rlPreset, .broadcast, [(.str "presetId", ref), (.str "brightness", .int 40)], none⟩

/-- A link whose transport takes every packet. -/
def openLink : Link := { devices := [], transport := some fun _ => .success, sent := [] }

theorem rlPreset_action_party :
    ((presetRunner [partyPreset "party"]).dispatch [] 0 (.effect (applyPreset (.str "RL:party")))
        openLink).2.sent
      = (forEachTarget (fun target => sendRlPresetById (some [partyPreset "party"]) (.int 0) target
        (.int 40)) [.group 255] openLink).2.sent := by
  have hkind : (applyPreset (.str "RL:party")).kind = .rlPreset := rfl
  have hflags : ∀ f, (applyPreset (.str "RL:party")).flagsOverride = some f →
      ∀ k, f.get k = none := nofun
  exact congrArg (·.sent) (rlPreset_action_eq (wired_presetRunner "party") List.mem_cons_self hkind
    (Or.inl rfl) hflags [] 0 openLink)

/-- A preset whose key is made of digits, named by its key: the scene finds no preset 2024 and
sends nothing, where the direct way sends one packet. -/
theorem rlPreset_action_digits :
    ((presetRunner [partyPreset "2024"]).dispatch [] 0 (.effect (applyPreset (.str "2024")))
        openLink).2.sent = [] ∧
    (forEachTarget (fun target => sendRlPresetById (some [partyPreset "2024"]) (.int 0) target
        (.int 40)) [.group 255] openLink).2.sent.length = 1 ∧
    ¬ ∀ (presets : List Preset) (r : Runner), Wired r presets → ∀ p ∈ presets, ∀ e : Effect,
      e.kind = .rlPreset → e.flagsOverride = none → Dict.get e.params "presetId" = .str p.key →
      ∀ known index link, (r.dispatch known index (.effect e) link).2 =
        (forEachTarget (fun target => sendRlPresetById (some presets) (.int p.id) target
          (Dict.get e.params "brightness")) (targetsOf r known e link) link).2 := by
  refine ⟨rfl, rfl, fun hall => ?_⟩
  have heq := hall [partyPreset "2024"] _ (wired_presetRunner "2024") _ List.mem_cons_self
    (applyPreset (.str "2024")) rfl rfl rfl [] 0 openLink
  have hlength := congrArg (·.sent.length) heq
  exact absurd hlength (by decide)

end RaceLink.RlPresets
