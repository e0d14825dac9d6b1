/-
# Deleting a group

`api_groups_delete` renumbers the devices in a loop of its own, asks the scene service to
renumber the scenes, and swallows whatever that raises: the group goes either way.

* `groupsDelete_renumbers_scenes_iff`: for a canonical store the scenes follow exactly when
  every explicit container keeps an entry for each of its groups (and the file can be written).
* `groupsDelete_keeps_targets`: where each explicit block lists each group of its container
  once, an action targets after the deletion the devices it targeted before, and no others but
  devices of group 0 and of the deleted group, and a device keeps its explicit offset.
-/
import RaceLink.Scenes.Renumber
import RaceLink.State.Repository

namespace RaceLink

open Python

/-! ## 1. The route -/

/-- What the group routes work on. -/
structure Host where
  devices : List Device
  groups : List DeviceGroup
  scenes : Store

/-- The answer of a route: `{"ok": true, ...}` with its numbers, or an error text. -/
inductive Response where
  | ok (fields : List (String × Int))
  | error (msg : String)
  deriving DecidableEq

/-- The device loop of `api_groups_delete`, for one device. -/
def renumberDevice (gid : Int) (device : Device) : Device :=
  if device.groupId = gid then { device with groupId := 0 }
  else if device.groupId > gid then { device with groupId := device.groupId - 1 }
  else device

/-- `api_groups_delete`, for a parsed group id. -/
def apiGroupsDelete (env : Env) (gid : Int) (h : Host) : Response × Host :=
  if gid < 0 ∨ gid ≥ h.groups.length then (.error "invalid group id", h)
  else if (h.groups[gid.toNat]?.map (·.staticGroup)).getD 0 ≠ 0 then (.error "static group", h)
  else
    let (renumbered, scenes) := renumberGroupReferences env gid h.scenes
    let renumberedScenes := match renumbered with
      | .ok changed => changed
      | .error _ => 0  -- only logged
    (.ok [("moved_devices", h.devices.countP (·.groupId = gid)),
        ("renumbered_devices", h.devices.countP (·.groupId > gid)),
        ("renumbered_scenes", renumberedScenes)],
      { devices := h.devices.map (renumberDevice gid), groups := h.groups.eraseIdx gid.toNat
        scenes := scenes })

/-- A deletion that answers `ok` has taken the group out and renumbered the devices, and left the
scenes to the scene service. -/
theorem apiGroupsDelete_ok {env : Env} {gid : Int} {h h' : Host} {fields : List (String × Int)}
    (hok : apiGroupsDelete env gid h = (.ok fields, h')) :
    h'.devices = h.devices.map (renumberDevice gid) ∧ h'.groups = h.groups.eraseIdx gid.toNat ∧
      h'.scenes = (renumberGroupReferences env gid h.scenes).2 := by
  unfold apiGroupsDelete at hok
  split at hok
  · cases hok
  · split at hok
    · cases hok
    · cases hok
      exact ⟨rfl, rfl, rfl⟩

/-! ## 2. Devices, groups and scenes stay together -/

/-- **Exactly when the scenes follow a group deletion.**  On the left: the renumbering of the
store completes and leaves every list canonical, and a deletion that removes the group leaves
the renumbered scenes behind. -/
theorem groupsDelete_renumbers_scenes_iff (env : Env) (deletedGid : Int)
    (hgid : 1 ≤ deletedGid ∧ deletedGid ≤ 254) (st st₁ : Store) (scenes : List Scene)
    (hitems : items env st = (.ok scenes, st₁))
    (hcanon : ∀ s ∈ scenes, canonicalActions (actionsToPy s.actions) = .ok s.actions) :
    ((∃ changed st', renumberGroupReferences env deletedGid st = (.ok changed, st') ∧
        HoldsRenumbered env deletedGid scenes st') ∧
      ∀ h fields h', h.scenes = st → apiGroupsDelete env deletedGid h = (.ok fields, h') →
        HoldsRenumbered env deletedGid scenes h'.scenes) ↔
    ScenesCover deletedGid scenes ∧ (env.diskOk = true ∨ NothingToRenumber deletedGid scenes) := by
  have hspec := renumberGroupReferences_spec hgid.1 hitems
    fun s hs => canonicalActions_toPy_iff.mp (hcanon s hs)
  constructor
  · rintro ⟨⟨changed, st', hret, -⟩, -⟩
    exact hspec.2 changed st' hret
  · intro hcond
    obtain ⟨changed, st', hret, hholds⟩ := hspec.1 hcond
    refine ⟨⟨changed, st', hret, hholds⟩, fun h fields h' hst hok => ?_⟩
    obtain ⟨-, -, hscenes⟩ := apiGroupsDelete_ok hok
    rw [hscenes, hst, hret]
    exact hholds

/-- A device of the given group, otherwise as it was constructed. -/
def deviceIn (groupId : Int) : Device := .init "AABBCCDDEEFF" 10 "Node" groupId 1 10 1 1 70

/-- A store that holds one scene in its cache. -/
def storeOf (actions : List Action) : Store :=
  { file := .absent, nextId := some 1
    cache := some [⟨0, "show", "Show", .null, .null, actions, some true⟩] }

/-- Deleting group 1 under the pair of groups 1 and 2: the scenes follow. -/
theorem groupsDelete_renumbers_explicitPair :
    ∃ changed st', renumberGroupReferences (envKnowing []) 1 (storeOf [explicitPair])
        = (.ok changed, st') ∧
      HoldsRenumbered (envKnowing []) 1
        [⟨0, "show", "Show", .null, .null, [explicitPair], some true⟩] st' := by
  have hcover : ScenesCover 1 [⟨0, "show", "Show", .null, .null, [explicitPair], some true⟩] := by
    unfold ScenesCover
    rw [List.forall_mem_singleton, List.forall_mem_singleton]
    show ∀ g ∈ [1, 2], ∃ v ∈ [(⟨1, 0⟩ : OffsetValue), ⟨2, 100⟩],
      shiftGroupValue 1 v.id = shiftGroupValue 1 g
    decide
  exact ((groupsDelete_renumbers_scenes_iff (envKnowing []) 1 (by decide) (storeOf [explicitPair])
    (storeOf [explicitPair]) _ rfl (by rw [List.forall_mem_singleton]; rfl)).mpr
    ⟨hcover, Or.inl rfl⟩).1

/-- A container whose block names group 1 twice and group 2 never, and an action on group 6. -/
def twiceNamed : List Action :=
  [.offsetGroup (.groups [1, 2]) (.explicit [⟨1, 0⟩, ⟨1, 50⟩]) [],
   .effect ⟨.rlPreset, .groups [6], [], some ⟨fun _ => none⟩⟩]

/-- The list is canonical, but renumbering it raises whatever group goes: here group 5.  The
deletion goes through all the same.  The device of group 6 is now in group 5, and the scene
still sends to group 6. -/
theorem groupsDelete_leaves_twiceNamed :
    canonicalActions (actionsToPy twiceNamed) = .ok twiceNamed ∧
    (renumberGroupReferences (envKnowing []) 5 (storeOf twiceNamed)).1
      = .error (.valueError valuesLengthMsg) ∧
    ∃ fields h', apiGroupsDelete (envKnowing []) 5
        ⟨[deviceIn 6], List.replicate 7 ⟨"Lane", 0, 0⟩, storeOf twiceNamed⟩ = (.ok fields, h') ∧
      h'.devices.map (·.groupId) = [5] ∧ h'.groups.length = 6 ∧
      h'.scenes.cache.map (·.map (·.actions)) = some [twiceNamed] :=
  ⟨rfl, rfl, _, _, rfl, rfl, rfl, rfl⟩

/-! ## 3. Actions keep their targets -/

/-- The target addresses the device. -/
def Target.Targets (device : Device) : Target → Prop
  | .broadcast => True
  | .groups value => device.groupId ∈ value
  | .device value => upper device.addr = value

/-- What a deletion may do to a target: whom it addressed it still addresses, a device outside
group 0 and the deleted group is addressed as before, and a target without group ids stays. -/
def TargetKept (d : Int) (devices : List Device) (t t' : Target) : Prop :=
  (∀ dev ∈ devices, t.Targets dev → t'.Targets (renumberDevice d dev)) ∧
  (∀ dev ∈ devices, dev.groupId ≠ 0 → dev.groupId ≠ d →
    (t'.Targets (renumberDevice d dev) ↔ t.Targets dev)) ∧
  (t.groupIds? = none → t' = t)

/-- What it may do to an effect: nothing but to its target, and what the file does to `params`. -/
def EffectKept (d : Int) (devices : List Device) (e e' : Effect) : Prop :=
  TargetKept d devices e.target e'.target ∧
    (e'.kind = e.kind ∧ e'.flagsOverride = e.flagsOverride) ∧
    (e'.params = e.params ∨ ∃ floatText, e'.params = e.params.jsonRoundTrip floatText)

/-- What it may do to an offset block: a device outside group 0 and the deleted group keeps its
explicit offset, and a block without group ids stays. -/
def OffsetKept (d : Int) (devices : List Device) (o o' : OffsetBlock) : Prop :=
  (∀ dev ∈ devices, dev.groupId ≠ 0 → dev.groupId ≠ d →
    o'.offsetOf (renumberDevice d dev).groupId = o.offsetOf dev.groupId) ∧
  ((∀ values, o ≠ .explicit values) → o' = o)

/-- What it may do to an action, at both levels. -/
def ActionKept (d : Int) (devices : List Device) : Action → Action → Prop
  | .effect e, .effect e' => EffectKept d devices e e'
  | .offsetGroup t o cs, .offsetGroup t' o' cs' =>
    TargetKept d devices t t' ∧ OffsetKept d devices o o' ∧
      List.Forall₂ (EffectKept d devices) cs cs'
  | .sync, .sync => True
  | .delay durationMs, .delay durationMs' => durationMs' = durationMs
  | _, _ => False

/-- Each explicit block lists each group of its container exactly once. -/
def Action.ListsEachGroupOnce : Action → Prop
  | .offsetGroup (.groups value) (.explicit values) _ => (values.map (·.id)).Perm value
  | _ => True

theorem renumberDevice_groupId (d : Int) (dev : Device) :
    (renumberDevice d dev).groupId = shiftGroupValue d dev.groupId := by
  unfold renumberDevice shiftGroupValue
  split
  · rfl
  · split <;> rfl

theorem renumberDevice_addr (d : Int) (dev : Device) : (renumberDevice d dev).addr = dev.addr := by
  unfold renumberDevice
  split
  · rfl
  · split <;> rfl

/-- Outside `0` and `d` the shift loses nothing. -/
theorem shiftGroupValue_inj {d g g' : Int} (hd : 1 ≤ d) (h0 : g ≠ 0) (hne : g ≠ d) :
    shiftGroupValue d g' = shiftGroupValue d g ↔ g' = g := by
  constructor
  · intro heq
    have hg : shiftGroupValue d g = if g > d then g - 1 else g := if_neg hne
    rw [hg] at heq
    unfold shiftGroupValue at heq
    by_cases hgd : g > d
    · rw [if_pos hgd] at heq
      split at heq
      · omega
      · split at heq <;> omega
    · rw [if_neg hgd] at heq
      split at heq
      · omega
      · split at heq <;> omega
  · intro heq
    rw [heq]

theorem target_kept {d : Int} (hd : 1 ≤ d) {t : Target} (h : t.Canonical) (devices : List Device) :
    TargetKept d devices t (t.shift d).normal := by
  cases t with
  | broadcast => exact ⟨fun _ _ _ => trivial, fun _ _ _ _ => Iff.rfl, fun _ => rfl⟩
  | device value =>
    have hsame : ((Target.device value).shift d).normal = .device value :=
      Target.normal_of_canonical h
    rw [hsame]
    refine ⟨fun dev _ ht => ?_, fun dev _ _ _ => ?_, fun _ => rfl⟩
    · show upper (renumberDevice d dev).addr = value
      rw [renumberDevice_addr]
      exact ht
    · show upper (renumberDevice d dev).addr = value ↔ upper dev.addr = value
      rw [renumberDevice_addr]
  | groups value =>
    have hmem : ∀ dev : Device, (((Target.groups value).shift d).normal.Targets
        (renumberDevice d dev)) ↔
      ∃ g ∈ value, shiftGroupValue d g = shiftGroupValue d dev.groupId := by
      intro dev
      rw [← renumberDevice_groupId]
      exact mem_shift_groups
    refine ⟨fun dev _ ht => (hmem dev).mpr ⟨dev.groupId, ht, rfl⟩, fun dev _ h0 hne => ?_, ?_⟩
    · rw [hmem]
      constructor
      · rintro ⟨g, hg, heq⟩
        obtain rfl := (shiftGroupValue_inj hd h0 hne).mp heq
        exact hg
      · exact fun ht => ⟨dev.groupId, ht, rfl⟩
    · rintro ⟨⟩

theorem effect_kept {d : Int} (hd : 1 ≤ d) {e : Effect} (h : e.Canonical) (devices : List Device) :
    EffectKept d devices e (e.shift d).normal := by
  refine ⟨target_kept hd h.1 devices, ⟨rfl, ?_⟩, Or.inl rfl⟩
  have hflags : (e.shift d).normal.flagsOverride = e.normal.flagsOverride := rfl
  rw [hflags, Effect.normal_of_canonical h]

theorem offset_kept {d : Int} (hd : 1 ≤ d) (o : OffsetBlock) (devices : List Device) :
    OffsetKept d devices o (o.shift d).normal := by
  cases o with
  | explicit values =>
    refine ⟨fun dev _ h0 hne => ?_, fun h => absurd rfl (h values)⟩
    have hperm := List.perm_insertionSort (fun a b : OffsetValue => a.id ≤ b.id)
      (keepFirst (·.id) []
        (values.map fun v => (⟨shiftGroupValue d v.id, v.offsetMs⟩ : OffsetValue)))
    have hnd : ((keepFirst OffsetValue.id [] (values.map fun v =>
        ⟨shiftGroupValue d v.id, v.offsetMs⟩)).map OffsetValue.id).Nodup := nodup_keepFirst _ []
    have hinj : ∀ v : OffsetValue, (shiftGroupValue d v.id == shiftGroupValue d dev.groupId)
        = (v.id == dev.groupId) := by
      intro v
      rw [Bool.eq_iff_iff, beq_iff_eq, beq_iff_eq]
      exact shiftGroupValue_inj hd h0 hne
    show (List.find? _ _).map _ = (List.find? _ _).map _
    rw [renumberDevice_groupId, find?_key_perm hperm ((hperm.map _).nodup_iff.mpr hnd),
      find?_keepFirst (by simp), List.find?_map]
    simp only [Function.comp_def, hinj, Option.map_map]
  | none => exact ⟨fun _ _ _ _ => rfl, fun _ => rfl⟩
  | linear base step => exact ⟨fun _ _ _ _ => rfl, fun _ => rfl⟩
  | vshape base step center => exact ⟨fun _ _ _ _ => rfl, fun _ => rfl⟩
  | modulo base step cycle => exact ⟨fun _ _ _ _ => rfl, fun _ => rfl⟩

theorem action_kept {d : Int} (hd : 1 ≤ d) {a : Action} (h : a.Canonical) (devices : List Device) :
    ActionKept d devices a (a.renumbered d) := by
  cases a with
  | effect e => exact effect_kept hd h devices
  | sync => trivial
  | delay durationMs => rfl
  | offsetGroup target offset actions =>
    obtain ⟨⟨hcanon, -⟩, -, -, -, hactions⟩ := h
    refine ⟨target_kept hd hcanon devices, offset_kept hd offset devices, ?_⟩
    rw [List.map_map, List.forall₂_map_right_iff, List.forall₂_same]
    exact fun c hc => effect_kept hd (hactions c hc).1 devices

theorem action_kept_reload {d : Int} (hd : 1 ≤ d) {a : Action} (h : a.Canonical)
    (devices : List Device) (floatText : PyFloat → String) :
    ActionKept d devices a ((a.renumbered d).reload floatText) := by
  have heffect : ∀ e : Effect, e.Canonical →
      EffectKept d devices e ((e.shift d).normal.reload floatText) := by
    intro e he
    obtain ⟨htarget, hsame, -⟩ := effect_kept hd he devices
    exact ⟨htarget, hsame, Or.inr ⟨floatText, rfl⟩⟩
  cases a with
  | effect e => exact heffect e h
  | sync => trivial
  | delay durationMs => rfl
  | offsetGroup target offset actions =>
    obtain ⟨⟨hcanon, -⟩, -, -, -, hactions⟩ := h
    refine ⟨target_kept hd hcanon devices, offset_kept hd offset devices, ?_⟩
    rw [List.map_map, List.map_map, List.forall₂_map_right_iff, List.forall₂_same]
    exact fun c hc => heffect c (hactions c hc).1

theorem valuesCover_of_listsEachGroupOnce (d : Int) {a : Action} (h : a.ListsEachGroupOnce) :
    a.ValuesCover d := by
  unfold Action.ListsEachGroupOnce at h
  unfold Action.ValuesCover
  split
  · intro g hg
    obtain ⟨v, hv, rfl⟩ := List.mem_map.mp (h.symm.subset hg)
    exact ⟨v, hv, rfl⟩
  · trivial

/-- **A group deletion keeps every action's devices and offsets.**  The renumbering completes
when the file can be written, and after it the same scenes hold the same actions, each kept in
the sense of `ActionKept`, for the devices as the deletion renumbers them. -/
theorem groupsDelete_keeps_targets (env : Env) (deletedGid : Int)
    (hgid : 1 ≤ deletedGid ∧ deletedGid ≤ 254) (devices : List Device) (st st₁ : Store)
    (scenes : List Scene) (hitems : items env st = (.ok scenes, st₁))
    (hcanon : ∀ s ∈ scenes, canonicalActions (actionsToPy s.actions) = .ok s.actions)
    (honce : ∀ s ∈ scenes, ∀ a ∈ s.actions, a.ListsEachGroupOnce) :
    (env.diskOk = true →
      ∃ changed st', renumberGroupReferences env deletedGid st = (.ok changed, st')) ∧
    ∀ changed st', renumberGroupReferences env deletedGid st = (.ok changed, st') →
      ∀ env', ∃ scenes' st'', items env' st' = (.ok scenes', st'') ∧
        List.Forall₂ (fun s s' : Scene => s'.key = s.key ∧ s'.label = s.label ∧
          List.Forall₂ (ActionKept deletedGid devices) s.actions s'.actions) scenes scenes' := by
  have hcanon' : ∀ s ∈ scenes, ActionsCanonical s.actions :=
    fun s hs => canonicalActions_toPy_iff.mp (hcanon s hs)
  have hcover : ScenesCover deletedGid scenes :=
    fun s hs a ha => valuesCover_of_listsEachGroupOnce deletedGid (honce s hs a ha)
  have hspec := renumberGroupReferences_spec hgid.1 hitems hcanon'
  constructor
  · intro hdisk
    obtain ⟨changed, st', hret, -⟩ := hspec.1 ⟨hcover, Or.inl hdisk⟩
    exact ⟨changed, st', hret⟩
  · intro changed st' hret env'
    obtain ⟨changed₂, st₂, hret₂, hholds⟩ := hspec.1 (hspec.2 changed st' hret)
    rw [hret] at hret₂
    cases hret₂
    obtain ⟨scenes', st'', hitems', hall⟩ := hholds env'
    refine ⟨scenes', st'', hitems', forall₂_imp_mem ?_ hall⟩
    rintro s hs s' ⟨hkey, hlabel, hstored, -⟩
    refine ⟨hkey, hlabel, ?_⟩
    rcases hstored with heq | heq
    · rw [heq, List.forall₂_map_right_iff, List.forall₂_same]
      exact fun a ha => action_kept hgid.1 ((hcanon' s hs).2 a ha) devices
    · rw [heq, List.map_map, List.forall₂_map_right_iff, List.forall₂_same]
      exact fun a ha => action_kept_reload hgid.1 ((hcanon' s hs).2 a ha) devices env.floatText

/-- Deleting group 1 under the pair of groups 1 and 2, with a device in each. -/
theorem groupsDelete_keeps_targets_explicitPair :
    ∃ changed st', renumberGroupReferences (envKnowing []) 1 (storeOf [explicitPair])
        = (.ok changed, st') ∧
      ∀ env', ∃ scenes' st'', items env' st' = (.ok scenes', st'') ∧
        List.Forall₂ (fun s s' : Scene => s'.key = s.key ∧ s'.label = s.label ∧
          List.Forall₂ (ActionKept 1 [deviceIn 1, deviceIn 2]) s.actions s'.actions)
          [⟨0, "show", "Show", .null, .null, [explicitPair], some true⟩] scenes' := by
  have honce : explicitPair.ListsEachGroupOnce := List.Perm.refl [1, 2]
  obtain ⟨hreturns, hkept⟩ := groupsDelete_keeps_targets (envKnowing []) 1 (by decide)
    [deviceIn 1, deviceIn 2] (storeOf [explicitPair]) (storeOf [explicitPair]) _ rfl
    (by rw [List.forall_mem_singleton]; rfl)
    (by rw [List.forall_mem_singleton, List.forall_mem_singleton]; exact honce)
  obtain ⟨changed, st', hret⟩ := hreturns rfl
  exact ⟨changed, st', hret, hkept changed st' hret⟩

end RaceLink
