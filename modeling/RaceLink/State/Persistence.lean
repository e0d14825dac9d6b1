/-
# Saving and loading the repositories

`save_to_db` dumps every device with its whole `__dict__` and every group; `load_from_db`
rebuilds both.  The two sides do not have one shape: the dump nests the specials under
`specials`, the loader looks for each option's key in the record itself.

`savedDevices_restored_iff` says what that costs: everything the loader reads comes back, except
that a device's specials come back as the minimum of each option, whatever they were.
-/
import RaceLink.Domain.Capabilities
import RaceLink.Domain.Flags
import RaceLink.Python.Bytes
import RaceLink.Scenes.Reload
import RaceLink.State.Repository

namespace RaceLink

open Python

/-! ## 1. Records -/

/-- `_as_record` of a device: its `__dict__`. -/
def Device.record (d : Device) : PyVal :=
  strDict [("addr", .str d.addr), ("dev_type", .int d.devType), ("name", .str d.name),
    ("version", .int d.version), ("caps", .int d.caps), ("groupId", .int d.groupId),
    ("flags", .int d.flags.toNat), ("presetId", .int d.presetId.toNat),
    ("effectId", .int d.effectId.toNat), ("brightness", .int d.brightness.toNat),
    ("configByte", .int d.configByte.toNat),
    ("specials", strDict (d.specials.map fun e => (e.1, .int e.2))),
    ("voltage_mV", .int d.voltageMV), ("node_rssi", .int d.nodeRssi), ("node_snr", .int d.nodeSnr),
    ("host_rssi", .int d.hostRssi), ("host_snr", .int d.hostSnr), ("last_seen_ts", d.lastSeenTs),
    ("link_online", (d.linkOnline.map PyVal.bool).getD .null), ("link_ts", d.linkTs),
    ("link_error", (d.linkError.map PyVal.str).getD .null), ("last_ack", d.lastAck)]

/-- `_as_record` of a group. -/
def DeviceGroup.record (g : DeviceGroup) : Dict :=
  [(.str "name", .str g.name), (.str "static_group", .int g.staticGroup),
    (.str "dev_type", .int g.devType)]

/-- The group of `default_backup_groups`. -/
def allWledNodes : DeviceGroup := ⟨"All WLED Nodes", 1, 0⟩

/-- `dump_state`, as the document its text is read back as. -/
def dumpState (floatText : PyFloat → String) (devices : List Device) (groups : List DeviceGroup) :
    PyVal :=
  jsonRoundTrip floatText (strDict [("schema_version", .int 1),
    ("devices", .list (devices.map (·.record))),
    ("groups", .list (groups.map fun g => .dict g.record))])

/-- `default_backup_groups`. -/
def backupGroups : List DeviceGroup := [allWledNodes]

/-- The groups `save_to_db` writes: the backup groups when it has fewer than those. -/
def groupsToDump (groups : List DeviceGroup) : List DeviceGroup :=
  if groups.length < backupGroups.length then backupGroups else groups

theorem groupsToDump_ne_nil (groups : List DeviceGroup) : groupsToDump groups ≠ [] := by
  cases groups with
  | nil => exact List.cons_ne_nil _ _
  | cons g groups => simp [groupsToDump, backupGroups]

/-- `save_to_db`: the value of the option `rl_state_v1`. -/
def saveToDb (floatText : PyFloat → String) (devices : List Device) (groups : List DeviceGroup) :
    PyVal :=
  dumpState floatText devices (groupsToDump groups)

/-! ## 2. Loading -/

/-- The value, when it is a dictionary. -/
def dictOf? : PyVal → Option Dict
  | .dict d => some d
  | _ => none

/-- The dictionaries of a list (`_normalize_records`); `none` for what is no list. -/
def normalizeRecords : PyVal → Option (List Dict)
  | .null => some []
  | .list items => some (items.filterMap dictOf?)
  | _ => none

/-- `load_state`: devices, groups and schema version, with the defaults for what is missing. -/
def loadState (raw : PyVal) (defaultGroups : List Dict) : List Dict × List Dict × Int :=
  match raw with
  | .dict payload =>
    let version := match int ((Dict.getD payload "schema_version" (.int 0)).or (.int 0)) with
      | .ok v => v
      | .error _ => 0
    let devices := (normalizeRecords (Dict.getD payload "devices" (.list []))).getD []
    let groups := (normalizeRecords
      (Dict.getD payload "groups" (.list (defaultGroups.map .dict)))).getD defaultGroups
    (devices, groups, max 0 version)
  | _ => ([], defaultGroups, 0)

/-- The flags of a record, derived from the legacy fields when there are none. -/
def loadFlags (device : Dict) : Except PyErr Int :=
  match Dict.get device "flags" with
  | .null => do
    let legacyState ← int ((Dict.getD device "state" (.int 1)).or (.int 0))
    let power := if legacyState ≠ 0 then flagPowerOn else 0
    let flags := if Dict.contains device "brightness" then power ||| flagHasBri else power
    pure (flags : Nat)
  | flags => int flags

/-- The preset id of a record, from the legacy `effect` when there is none. -/
def loadPresetId (device : Dict) : Except PyErr Int :=
  match Dict.get device "presetId" with
  | .null => int ((Dict.getD device "effect" (.int 1)).or (.int 1))
  | presetId => int presetId

/-- The device type of a record, under its name or one of the legacy names. -/
def loadDevType (device : Dict) : Except PyErr Int :=
  let devType := match Dict.get device "dev_type" with
    | .null =>
      match Dict.get device "device_type" with
      | .null => Dict.getD device "caps" (Dict.getD device "type" (.int 0))
      | v => v
    | v => v
  int (devType.or (.int 0))

variable (reprText : PyVal → String)

/-- `str(v)`; how a value that is no string is spelled does not matter here. -/
def pyStr : PyVal → String
  | .str s => s
  | v => reprText v

/-- The loop body of `load_from_db` over the device records. -/
def loadDevice (device : Dict) : Except PyErr Device := do
  let flags ← loadFlags device
  let presetId ← loadPresetId device
  let brightness ← int ((Dict.getD device "brightness" (.int 70)).or (.int 0))
  let devType ← loadDevType device
  let specialState := buildSpecialsState devType device
  let groupId ← int ((Dict.getD device "groupId" (.int 0)).or (.int 0))
  let version ← int ((Dict.getD device "version" (.int 0)).or (.int 0))
  let dev := Device.init (upper (pyStr reprText (Dict.getD device "addr" (.str "")))) devType
    (pyStr reprText (Dict.getD device "name" (.str ""))) groupId version devType (byteOf flags)
    (byteOf presetId) (byteOf brightness)
  -- `create_device` reads the options from the state just built
  pure { dev with
    specials := buildSpecialsState devType (specialState.map fun e => (.str e.1, .int e.2)) }

/-- The device loop of `load_from_db`: a record that raises is skipped. -/
def loadDevices : List Dict → List Device
  | [] => []
  | device :: rest =>
    match loadDevice reprText device with
    | .ok dev => dev :: loadDevices rest
    | .error _ => loadDevices rest

/-- A group of a record.  The name of a record the program wrote is a string. -/
def loadGroup (group : Dict) : Except PyErr DeviceGroup :=
  match Dict.find? group "name", Dict.find? group "static_group" with
  | some (.str name), some (.int staticGroup) => do
    let devType ← int (Dict.getD group "dev_type" (Dict.getD group "device_type" (.int 0)))
    pure ⟨name, staticGroup, devType⟩
  | _, _ => .error .typeError

/-- `str(group.name).strip().lower()`. -/
def groupNameKey (g : DeviceGroup) : String := lower (strip g.name)

/-- The names `load_from_db` drops. -/
def droppedNames : List String := ["unconfigured", "all wled devices"]

/-- The group list `load_from_db` makes of the loaded groups: the dropped names go, and the
"All WLED Nodes" group is appended, or put into its fixed form. -/
def fixGroups (groups : List DeviceGroup) : List DeviceGroup :=
  let kept := groups.filter fun g => groupNameKey g ∉ droppedNames
  if kept.any fun g => groupNameKey g = "all wled nodes" then
    kept.map fun g => if groupNameKey g = "all wled nodes" then allWledNodes else g
  else kept ++ [allWledNodes]

/-- `load_from_db`: devices and groups from the option `rl_state_v1`, or from the backups when it
was never written.  The legacy option keys are not there. -/
def loadFromDb (raw : Option PyVal) : Except PyErr (List Device × List DeviceGroup) := do
  let backup := backupGroups.map (·.record)
  let (devices, groups, _) := match raw with
    | some doc => loadState doc backup
    | none => ([], backup, 0)
  let loadedGroups ← (if groups.isEmpty then backup else groups).mapM loadGroup
  pure (loadDevices reprText devices, fixGroups loadedGroups)

/-! ## 3. A saved device, loaded -/

variable (floatText : PyFloat → String)

/-- The record of a device as it stands in the file, and what the loader reads from it. -/
theorem jsonRoundTrip_record (d : Device) : ∃ r : Dict,
    jsonRoundTrip floatText d.record = .dict r ∧
      (Dict.get r "flags" = .int d.flags.toNat ∧ Dict.get r "presetId" = .int d.presetId.toNat ∧
        Dict.getD r "brightness" (.int 70) = .int d.brightness.toNat) ∧
      (Dict.get r "dev_type" = .int d.devType ∧ Dict.getD r "groupId" (.int 0) = .int d.groupId ∧
        Dict.getD r "version" (.int 0) = .int d.version) ∧
      (Dict.getD r "addr" (.str "") = .str d.addr ∧ Dict.getD r "name" (.str "") = .str d.name) ∧
      ∀ opt ∈ specialOptions d.devType, Dict.find? r opt.key = none := by
  have hopt : ∀ opt ∈ specialOptions d.devType,
      opt.key = "startblock_slots" ∨ opt.key = "startblock_first_slot" := by
    unfold specialOptions devTypeCaps
    split
    · simp [Cap.options]
    · split <;> simp [Cap.options]
  rw [Device.record, jsonRoundTrip_strDict floatText (by simp)]
  refine ⟨_, rfl, ⟨?_, ?_, ?_⟩, ⟨?_, ?_, ?_⟩, ⟨?_, ?_⟩, ?_⟩
  · simp [Dict.get, jsonRoundTrip]
  · simp [Dict.get, jsonRoundTrip]
  · simp [Dict.getD, jsonRoundTrip]
  · simp [Dict.get, jsonRoundTrip]
  · simp [Dict.getD, jsonRoundTrip]
  · simp [Dict.getD, jsonRoundTrip]
  · simp [Dict.getD, jsonRoundTrip]
  · simp [Dict.getD, jsonRoundTrip]
  · intro opt hmem
    rcases hopt opt hmem with h | h <;> simp [h]

/-- What a saved device comes back as. -/
def Device.reloaded (d : Device) : Device :=
  { Device.init (upper d.addr) d.devType d.name d.groupId d.version d.devType d.flags d.presetId
      d.brightness with
    specials := (specialOptions d.devType).map fun opt => (opt.key, opt.min) }

theorem int_or_zero (i : Int) : int ((PyVal.int i).or (.int 0)) = .ok i := by
  unfold PyVal.or PyVal.truthy
  by_cases h : i = 0
  · rw [h]
    rfl
  · rw [if_pos (by simpa using h)]
    rfl

/-- Without a key of its own every option comes out at its minimum. -/
theorem buildSpecialsState_of_absent {typeId : Int} {stored : Dict}
    (h : ∀ opt ∈ specialOptions typeId, Dict.find? stored opt.key = none) :
    buildSpecialsState typeId stored =
      (specialOptions typeId).map fun opt => (opt.key, opt.min) := by
  refine List.map_congr_left fun opt hopt => ?_
  have hmin : storedSpecial stored opt = opt.min := by
    rw [storedSpecial, Dict.getD, h opt hopt]
    rfl
  rw [hmin]

/-- Reading a state back from itself changes nothing. -/
theorem buildSpecialsState_idem {typeId : Int} {value : SpecialOption → Int} :
    buildSpecialsState typeId
        (((specialOptions typeId).map fun opt => (opt.key, value opt)).map
          fun e => (.str e.1, .int e.2))
      = (specialOptions typeId).map fun opt => (opt.key, value opt) := by
  have hfind : ∀ opts : List SpecialOption, (opts.map (·.key)).Nodup → ∀ opt ∈ opts,
      Dict.find? ((opts.map fun o => (o.key, value o)).map fun e => (.str e.1, .int e.2)) opt.key
        = some (.int (value opt)) := by
    intro opts hnd
    induction opts with
    | nil => exact fun opt h => absurd h List.not_mem_nil
    | cons o opts ih =>
      intro opt hopt
      rw [List.map_cons, List.nodup_cons] at hnd
      rw [List.map_cons, List.map_cons, Dict.find?_cons_str]
      rcases List.mem_cons.mp hopt with rfl | hopt
      · rw [if_pos rfl]
      · have hne : ¬ o.key = opt.key := fun e => hnd.1 (e ▸ List.mem_map_of_mem hopt)
        rw [if_neg hne]
        exact ih hnd.2 opt hopt
  refine List.map_congr_left fun opt hopt => ?_
  have hvalue : storedSpecial (((specialOptions typeId).map fun o => (o.key, value o)).map
      fun e => (.str e.1, .int e.2)) opt = value opt := by
    rw [storedSpecial, Dict.getD, hfind _ (nodup_specialOptions typeId) opt hopt]
    rfl
  rw [hvalue]

theorem loadDevice_record {d : Device} {r : Dict}
    (h : jsonRoundTrip floatText d.record = .dict r) : loadDevice reprText r = .ok d.reloaded := by
  obtain ⟨r', hr', ⟨hflags, hpreset, hbri⟩, ⟨htype, hgroup, hversion⟩, ⟨haddr, hname⟩, hopts⟩ :=
    jsonRoundTrip_record floatText d
  obtain rfl : r' = r := PyVal.dict.inj (hr'.symm.trans h)
  have hloadFlags : loadFlags r' = .ok d.flags.toNat := by rw [loadFlags, hflags]; rfl
  have hloadPreset : loadPresetId r' = .ok d.presetId.toNat := by rw [loadPresetId, hpreset]; rfl
  have hloadType : loadDevType r' = .ok d.devType := by rw [loadDevType, htype]; exact int_or_zero _
  simp only [loadDevice, hloadFlags, hloadPreset, hloadType, hbri, hgroup, hversion, haddr, hname,
    int_or_zero, ok_bind, pure_eq_ok, byteOf_toNat, buildSpecialsState_of_absent hopts,
    buildSpecialsState_idem]
  rfl

theorem loadDevices_records (devices : List Device) :
    loadDevices reprText
        (((devices.map (·.record)).map (jsonRoundTrip floatText)).filterMap dictOf?)
      = devices.map (·.reloaded) := by
  induction devices with
  | nil => rfl
  | cons d devices ih =>
    obtain ⟨r, hr, -⟩ := jsonRoundTrip_record floatText d
    simp only [List.map_cons, hr, List.filterMap_cons, dictOf?, loadDevices,
      loadDevice_record reprText floatText hr, ih]

theorem jsonRoundTrip_groupRecord (g : DeviceGroup) :
    jsonRoundTrip floatText (.dict g.record) = .dict g.record :=
  jsonRoundTrip_eq_self floatText _ rfl

theorem groupRecords_written (groups : List DeviceGroup) :
    ((groups.map fun g => PyVal.dict g.record).map (jsonRoundTrip floatText)).filterMap dictOf?
      = groups.map (·.record) := by
  induction groups with
  | nil => rfl
  | cons g groups ih =>
    simp only [List.map_cons, jsonRoundTrip_groupRecord, List.filterMap_cons, dictOf?, ih]

theorem loadGroup_record (g : DeviceGroup) : loadGroup g.record = .ok g := by
  simp [loadGroup, DeviceGroup.record, Dict.getD]

/-- **Saving and loading**, exactly: each device as `reloaded`, and the groups as the loader fixes
them. -/
theorem loadFromDb_saveToDb (devices : List Device) (groups : List DeviceGroup) :
    loadFromDb reprText (some (saveToDb floatText devices groups))
      = .ok (devices.map (·.reloaded), fixGroups (groupsToDump groups)) := by
  have hdoc : saveToDb floatText devices groups
      = .dict [(.str "schema_version", .int 1),
          (.str "devices", .list ((devices.map (·.record)).map (jsonRoundTrip floatText))),
          (.str "groups", .list (((groupsToDump groups).map fun g => .dict g.record).map
            (jsonRoundTrip floatText)))] := by
    rw [saveToDb, dumpState, jsonRoundTrip_strDict floatText (by simp)]
    simp only [List.map_cons, List.map_nil, jsonRoundTrip_list]
    rfl
  have hstate : loadState (saveToDb floatText devices groups) (backupGroups.map (·.record))
      = (((devices.map (·.record)).map (jsonRoundTrip floatText)).filterMap dictOf?,
          (groupsToDump groups).map (·.record), 1) := by
    rw [hdoc, ← groupRecords_written floatText (groupsToDump groups)]
    rfl
  have hgroups : ((groupsToDump groups).map (·.record)).isEmpty = false := by
    simpa using groupsToDump_ne_nil groups
  have hload : ((groupsToDump groups).map (·.record)).mapM loadGroup
      = Except.ok (groupsToDump groups) := by
    rw [mapM_eq_ok, List.forall₂_map_left_iff, List.forall₂_same]
    exact fun g _ => loadGroup_record g
  simp only [loadFromDb, hstate, hgroups, Bool.false_eq_true, if_false, hload, ok_bind, pure_eq_ok,
    loadDevices_records]

/-! ## 4. What is restored -/

/-- `d'` is `d` again, in everything a restart is to keep. -/
structure Device.RestoredAs (d d' : Device) : Prop where
  addr : d'.addr = upper d.addr
  name : d'.name = d.name
  devType : d'.devType = d.devType
  groupId : d'.groupId = d.groupId
  version : d'.version = d.version
  flags : d'.flags = d.flags
  presetId : d'.presetId = d.presetId
  brightness : d'.brightness = d.brightness
  specials : ∀ opt ∈ specialOptions d.devType,
    d'.specials.lookup opt.key = d.specials.lookup opt.key

theorem Device.specials_reloaded {d : Device} {opt : SpecialOption}
    (h : opt ∈ specialOptions d.devType) : d.reloaded.specials.lookup opt.key = some opt.min := by
  have hempty : d.reloaded.specials = buildSpecialsState d.devType [] :=
    (buildSpecialsState_of_absent fun _ _ => rfl).symm
  rw [hempty, lookup_buildSpecialsState h]
  rfl

theorem Device.restoredAs_reloaded_iff {d : Device} : d.RestoredAs d.reloaded ↔
    ∀ opt ∈ specialOptions d.devType, d.specials.lookup opt.key = some opt.min := by
  constructor
  · intro h opt hopt
    rw [← h.specials opt hopt, specials_reloaded hopt]
  · intro h
    refine ⟨rfl, rfl, rfl, rfl, rfl, rfl, rfl, rfl, fun opt hopt => ?_⟩
    rw [specials_reloaded hopt, h opt hopt]

/-- **What a restart keeps.**  Saving and loading restores every device exactly when every option
of every device stands at its minimum: the loader looks for the options in the record, the dump
has them one level below. -/
theorem savedDevices_restored_iff (devices : List Device) (groups : List DeviceGroup) :
    (∃ devices' groups',
        loadFromDb reprText (some (saveToDb floatText devices groups)) = .ok (devices', groups') ∧
        List.Forall₂ Device.RestoredAs devices devices') ↔
      ∀ d ∈ devices, ∀ opt ∈ specialOptions d.devType,
        d.specials.lookup opt.key = some opt.min := by
  have hall : List.Forall₂ Device.RestoredAs devices (devices.map (·.reloaded)) ↔
      ∀ d ∈ devices, d.RestoredAs d.reloaded := by
    rw [List.forall₂_map_right_iff, List.forall₂_same]
  rw [loadFromDb_saveToDb]
  constructor
  · rintro ⟨devices', groups', hload, hres⟩ d hd
    cases hload
    exact Device.restoredAs_reloaded_iff.mp (hall.mp hres d hd)
  · intro h
    exact ⟨_, _, rfl, hall.mpr fun d hd => Device.restoredAs_reloaded_iff.mpr (h d hd)⟩

/-- A start block with four slots, of which the first is slot 3. -/
def fourSlotBlock : Device :=
  { Device.init "A1B2C3D4E5F6" 50 "Start" 0 4 50 1 1 70 with
    specials := [("startblock_slots", 4), ("startblock_first_slot", 3)] }

/-- After a restart it has one. -/
theorem savedDevices_forget_slots :
    loadFromDb (fun _ => "") (some (saveToDb (fun _ => "") [fourSlotBlock] [allWledNodes]))
        = .ok ([fourSlotBlock.reloaded], [allWledNodes]) ∧
      fourSlotBlock.specials.lookup "startblock_slots" = some 4 ∧
      fourSlotBlock.reloaded.specials.lookup "startblock_slots" = some 1 ∧
      ¬ ∃ devices' groups', loadFromDb (fun _ => "")
          (some (saveToDb (fun _ => "") [fourSlotBlock] [allWledNodes])) = .ok (devices', groups') ∧
        List.Forall₂ Device.RestoredAs [fourSlotBlock] devices' := by
  have hload : loadFromDb (fun _ => "")
      (some (saveToDb (fun _ => "") [fourSlotBlock] [allWledNodes]))
        = .ok ([fourSlotBlock.reloaded], [allWledNodes]) := by
    rw [loadFromDb_saveToDb]
    rfl
  refine ⟨hload, rfl, rfl, ?_⟩
  rintro ⟨devices', groups', hload', hall⟩
  rw [hload] at hload'
  cases hload'
  cases hall with
  | cons hblock _ =>
    have hslots := hblock.specials ⟨"startblock_slots", 0x8C, 1, 8⟩ (by decide)
    exact absurd hslots (by decide)

end RaceLink
