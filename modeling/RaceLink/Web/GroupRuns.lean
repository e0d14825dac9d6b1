/-
# Groups over whole runs, and a restart

A device refers to its group by index.  The routes keep the indices right among themselves; the
loader filters the group list by name, rewrites one name and renumbers no device.

The system starts from a fresh install and takes the routes that change groups and memberships,
the discovery that brings devices in, and restarts.  Each event is one section under the state
lock, so a run is any interleaving of requests.

`groupNames_survive_restart`: in every state of every run in which no accepted request chooses a
name the loader gives a meaning of its own, saving and loading keeps every device's group.
-/
import RaceLink.Lts.Basic
import RaceLink.State.Persistence
import RaceLink.Web.Groups

namespace RaceLink

open Python

/-! ## 1. The other routes -/

/-- `api_groups_create`. -/
def apiGroupsCreate (name : String) (devType : Int) (h : Host) : Response × Host :=
  let name := strip name
  if name = "" then (.error "name required", h)
  else (.ok [("id", h.groups.length)], { h with groups := h.groups ++ [⟨name, 0, devType⟩] })

/-- `api_groups_rename`, for a parsed group id. -/
def apiGroupsRename (gid : Int) (name : String) (h : Host) : Response × Host :=
  let name := strip name
  if gid < 0 then (.error "invalid group id", h)
  else match h.groups[gid.toNat]? with
    | none => (.error "invalid group id", h)
    | some group =>
      if group.staticGroup ≠ 0 then (.error "static group", h)
      else
        let renamed := { group with name := if name = "" then group.name else name }
        (.ok [], { h with groups := h.groups.set gid.toNat renamed })

/-- `_prepare_discover_target`: the target group, and the group it has created. -/
def prepareDiscoverTarget (targetGid : Option Int) (newGroupName : String) (h : Host) :
    (Option Int × Option Int) × Host :=
  if newGroupName = "" then ((targetGid, none), h)
  else
    let createdGid : Int := h.groups.length
    ((some (targetGid.getD createdGid), some createdGid),
      { h with groups := h.groups ++ [⟨newGroupName, 0, 0⟩] })

/-- A change to the device of an address; without such a device nothing changes. -/
def updateDevice (addr : String) (f : Device → Device) (h : Host) : Host :=
  match getDeviceFromAddress h.devices addr with
  | some i => { h with devices := h.devices.modify i f }
  | none => h

/-- An iteration of `_apply_device_meta_updates`, up to the wire send. -/
def applyDeviceMeta (macs : List String) (mac : String) (newGroup : Option Int)
    (newName : Option String) (h : Host) : Host :=
  let update (dev : Device) : Device :=
    let dev := match newName with
      | some name => if name ≠ "" ∧ macs.length = 1 then { dev with name := name } else dev
      | none => dev
    match newGroup with
    | some g => { dev with groupId := g }
    | none => dev
  updateDevice mac update h

/-- An iteration of the assignment loop of `discover_devices`. -/
def assignResponder (assignedGroup : Int) (addr : String) (h : Host) : Host :=
  if 0 < assignedGroup ∧ assignedGroup < 255 then
    updateDevice addr (fun dev => { dev with groupId := assignedGroup }) h
  else h

/-- The sanity check of `_iterate_force_groups` for one device. -/
def forceGroup (index : Nat) (h : Host) : Host :=
  let update (dev : Device) : Device :=
    if dev.groupId ≥ h.groups.length then { dev with groupId := 0 } else dev
  { h with devices := h.devices.modify index update }

/-- What an `IDENTIFY_REPLY` carries, and when it arrives. -/
structure IdentifyReply where
  mac12 : String
  version : Option Int
  caps : Option Int
  groupId : Option Int
  hostRssi : Option Int
  hostSnr : Option Int
  now : PyVal

/-- `update_from_identify`. -/
def Device.updateFromIdentify (dev : Device) (r : IdentifyReply) : Device :=
  { dev with
    version := r.version.getD dev.version
    caps := r.caps.getD dev.caps
    devType := r.caps.getD dev.devType
    groupId := match r.groupId with
      | some g => if dev.groupId = 0 ∧ g ≠ 0 then g % 256 else dev.groupId
      | none => dev.groupId
    hostRssi := r.hostRssi.getD dev.hostRssi
    hostSnr := r.hostSnr.getD dev.hostSnr
    lastSeenTs := r.now
    linkOnline := some true
    linkTs := r.now
    linkError := none }

/-- What `_restore_known_device_group` does to the record: a stored group beyond the list is
reset, outside a discovery, when the device reports group 0. -/
def restoreKnownDeviceGroup (groupCount : Nat) (discovering : Bool) (r : IdentifyReply)
    (dev : Device) : Device :=
  if (r.groupId.getD 0) % 256 ≠ 0 ∨ discovering then dev
  else if dev.groupId % 256 ≥ groupCount then { dev with groupId := 0 } else dev

/-- The branch of the receive hook for an `IDENTIFY_REPLY`: an unknown address is a new device. -/
def handleIdentify (discovering : Bool) (r : IdentifyReply) (h : Host) : Host :=
  let update (dev : Device) : Device :=
    restoreKnownDeviceGroup h.groups.length discovering r (dev.updateFromIdentify r)
  if (getDeviceFromAddress h.devices r.mac12).isSome then updateDevice r.mac12 update h
  else
    let devType := r.caps.getD 0
    let dev := { Device.init r.mac12 devType ("WLED " ++ r.mac12) 0 0 0 1 1 70 with
      specials := buildSpecialsState devType [] }
    { h with devices := h.devices ++ [dev.updateFromIdentify r] }

/-! ## 2. The system -/

/-- The events of a run. -/
inductive GroupEvent where
  | create (name : String) (devType : Int)
  | rename (gid : Int) (name : String)
  | delete (env : Env) (gid : Int)
  | updateMeta (macs : List String) (mac : String) (newGroup : Option Int)
      (newName : Option String)
  | discover (targetGid : Option Int) (newGroupName : String)
  | identify (discovering : Bool) (r : IdentifyReply)
  | assign (assignedGroup : Int) (addr : String)
  | force (index : Nat)
  | restart (reprText : PyVal → String) (floatText : PyFloat → String)

/-- A restart: what `save_to_db` has written is loaded, and the scene cache is gone. -/
def restart (reprText : PyVal → String) (floatText : PyFloat → String) (h : Host) : Option Host :=
  match loadFromDb reprText (some (saveToDb floatText h.devices h.groups)) with
  | .ok (devices, groups) =>
    some ⟨devices, groups, { file := h.scenes.file, cache := none, nextId := none }⟩
  | .error _ => none

/-- The host after an event. -/
def groupStep (h : Host) : GroupEvent → Option Host
  | .create name devType => some (apiGroupsCreate name devType h).2
  | .rename gid name => some (apiGroupsRename gid name h).2
  | .delete env gid => some (apiGroupsDelete env gid h).2
  | .updateMeta macs mac newGroup newName => some (applyDeviceMeta macs mac newGroup newName h)
  | .discover targetGid newGroupName => some (prepareDiscoverTarget targetGid newGroupName h).2
  | .identify discovering r => some (handleIdentify discovering r h)
  | .assign assignedGroup addr => some (assignResponder assignedGroup addr h)
  | .force index => some (forceGroup index h)
  | .restart reprText floatText => restart reprText floatText h

/-- The host of a fresh install: no device, and the groups of `default_backup_groups`. -/
def freshInstall : Host :=
  ⟨[], backupGroups, { file := .absent, cache := none, nextId := none }⟩

/-- The group routes and the device routes from a fresh install on. -/
def groupSystem : Lts.System Host GroupEvent := ⟨freshInstall, groupStep⟩

/-- It is what the loader makes of an empty database. -/
theorem loadFromDb_fresh (reprText : PyVal → String) :
    loadFromDb reprText none = .ok (freshInstall.devices, freshInstall.groups) := by
  have hfix : fixGroups backupGroups = backupGroups := by decide
  have hload : (backupGroups.map (·.record)).mapM loadGroup = Except.ok backupGroups := by
    rw [mapM_eq_ok, List.forall₂_map_left_iff, List.forall₂_same]
    exact fun g _ => loadGroup_record g
  simp [loadFromDb, hload, hfix, loadDevices, freshInstall]

/-! ## 3. Names the loader leaves alone -/

/-- A name the loader neither drops nor rewrites. -/
def PlainName (name : String) : Prop :=
  lower (strip name) ∉ droppedNames ∧
    (lower (strip name) = "all wled nodes" → name = allWledNodes.name)

instance (name : String) : Decidable (PlainName name) := inferInstanceAs (Decidable (_ ∧ _))

/-- Group lists the loader leaves alone: the static group is in its place, and no name is one of
the loader's. -/
structure GroupsOk (groups : List DeviceGroup) : Prop where
  head : groups[0]? = some allWledNodes
  plain : ∀ g ∈ groups, PlainName g.name

theorem GroupsOk.ne_nil {groups : List DeviceGroup} (h : GroupsOk groups) : groups ≠ [] := by
  rintro rfl
  cases h.head

theorem GroupsOk.append {groups : List DeviceGroup} (h : GroupsOk groups) {g : DeviceGroup}
    (hg : PlainName g.name) : GroupsOk (groups ++ [g]) := by
  refine ⟨?_, ?_⟩
  · rw [List.getElem?_append_left (List.length_pos_iff.mpr h.ne_nil), h.head]
  · intro g' hg'
    rcases List.mem_append.mp hg' with hg' | hg'
    · exact h.plain g' hg'
    · rw [List.mem_singleton.mp hg']
      exact hg

/-- A group that is not static is not the first one. -/
theorem GroupsOk.index_pos {groups : List DeviceGroup} (h : GroupsOk groups) {i : Nat}
    {g : DeviceGroup} (hi : groups[i]? = some g) (hg : g.staticGroup = 0) : 0 < i := by
  rcases Nat.eq_zero_or_pos i with rfl | hpos
  · rw [h.head] at hi
    cases hi
    exact absurd hg (by decide)
  · exact hpos

theorem GroupsOk.set {groups : List DeviceGroup} (h : GroupsOk groups) {i : Nat} (hi : 0 < i)
    {g : DeviceGroup} (hg : PlainName g.name) : GroupsOk (groups.set i g) := by
  refine ⟨?_, ?_⟩
  · rw [List.getElem?_set_ne (by omega), h.head]
  · intro g' hg'
    rcases List.mem_or_eq_of_mem_set hg' with hg' | rfl
    · exact h.plain g' hg'
    · exact hg

theorem GroupsOk.eraseIdx {groups : List DeviceGroup} (h : GroupsOk groups) {i : Nat}
    (hi : 0 < i) : GroupsOk (groups.eraseIdx i) := by
  refine ⟨?_, fun g' hg' => h.plain g' (List.mem_of_mem_eraseIdx hg')⟩
  rw [List.getElem?_eraseIdx_of_lt hi, h.head]

/-- The loader only writes the static group anew, under its own name. -/
theorem GroupsOk.fixGroups_eq {groups : List DeviceGroup} (h : GroupsOk groups) :
    fixGroups groups
      = groups.map fun g => if groupNameKey g = "all wled nodes" then allWledNodes else g := by
  have hkept : groups.filter (fun g => groupNameKey g ∉ droppedNames) = groups :=
    List.filter_eq_self.mpr fun g hg => decide_eq_true (h.plain g hg).1
  have hany : (groups.any fun g => groupNameKey g = "all wled nodes") = true :=
    List.any_eq_true.mpr ⟨allWledNodes, List.mem_of_getElem? h.head, by decide⟩
  rw [fixGroups, hkept]
  simp only [hany, if_true]

theorem GroupsOk.name_fixed {groups : List DeviceGroup} (h : GroupsOk groups) {g : DeviceGroup}
    (hg : g ∈ groups) :
    (if groupNameKey g = "all wled nodes" then allWledNodes else g).name = g.name := by
  split
  · next hkey => exact ((h.plain g hg).2 hkey).symm
  · rfl

theorem GroupsOk.fixGroups {groups : List DeviceGroup} (h : GroupsOk groups) :
    GroupsOk (fixGroups groups) := by
  rw [h.fixGroups_eq]
  refine ⟨?_, ?_⟩
  · rw [List.getElem?_map, h.head]
    rfl
  · intro g' hg'
    obtain ⟨g, hg, rfl⟩ := List.mem_map.mp hg'
    rw [h.name_fixed hg]
    exact h.plain g hg

theorem GroupsOk.groupsToDump_eq {groups : List DeviceGroup} (h : GroupsOk groups) :
    groupsToDump groups = groups := by
  have hlen : 0 < groups.length := List.length_pos_iff.mpr h.ne_nil
  exact if_neg (not_lt.mpr hlen)

/-! ## 4. One event -/

/-- No accepted request chooses a name of the loader's. -/
def NoReservedName (h : Host) : GroupEvent → Prop
  | .create name _ => PlainName (strip name)
  | .rename gid name => (apiGroupsRename gid name h).1 = .ok [] → PlainName (strip name)
  | .discover _ newGroupName => PlainName newGroupName
  | _ => True

theorem groupsOk_create {h : Host} (hok : GroupsOk h.groups) {name : String}
    (hname : PlainName (strip name)) (devType : Int) :
    GroupsOk (apiGroupsCreate name devType h).2.groups := by
  dsimp only [apiGroupsCreate]
  split
  · exact hok
  · exact hok.append hname

theorem groupsOk_rename {h : Host} (hok : GroupsOk h.groups) {gid : Int} {name : String}
    (hname : (apiGroupsRename gid name h).1 = .ok [] → PlainName (strip name)) :
    GroupsOk (apiGroupsRename gid name h).2.groups := by
  unfold apiGroupsRename at hname ⊢
  by_cases hneg : gid < 0
  · simpa only [hneg, if_true] using hok
  · cases hg : h.groups[gid.toNat]? with
    | none => simpa only [hneg, hg, if_false] using hok
    | some g =>
      by_cases hstatic : g.staticGroup = 0
      · simp only [hneg, hg, hstatic, if_false, ne_eq, not_true_eq_false] at hname ⊢
        refine hok.set (hok.index_pos hg hstatic) ?_
        by_cases hblank : strip name = ""
        · simpa only [hblank, if_true] using hok.plain g (List.mem_of_getElem? hg)
        · simpa only [hblank, if_false] using hname trivial
      · simpa only [hneg, hg, hstatic, if_false, ne_eq, not_false_eq_true, if_true] using hok

theorem groupsOk_delete {h : Host} (hok : GroupsOk h.groups) (env : Env) (gid : Int) :
    GroupsOk (apiGroupsDelete env gid h).2.groups := by
  unfold apiGroupsDelete
  split
  · exact hok
  · next hrange =>
    split
    · exact hok
    · next hstatic =>
      have hlt : gid.toNat < h.groups.length := by omega
      rw [List.getElem?_eq_getElem hlt] at hstatic
      have hzero : h.groups[gid.toNat].staticGroup = 0 := by simpa using hstatic
      exact hok.eraseIdx (hok.index_pos (List.getElem?_eq_getElem hlt) hzero)

theorem groupsOk_discover {h : Host} (hok : GroupsOk h.groups) (targetGid : Option Int)
    {newGroupName : String} (hname : PlainName newGroupName) :
    GroupsOk (prepareDiscoverTarget targetGid newGroupName h).2.groups := by
  unfold prepareDiscoverTarget
  split
  · exact hok
  · exact hok.append hname

@[simp] theorem updateDevice_groups (addr : String) (f : Device → Device) (h : Host) :
    (updateDevice addr f h).groups = h.groups := by
  unfold updateDevice
  split <;> rfl

theorem handleIdentify_groups (discovering : Bool) (r : IdentifyReply) (h : Host) :
    (handleIdentify discovering r h).groups = h.groups := by
  dsimp only [handleIdentify]
  split
  · exact updateDevice_groups _ _ h
  · rfl

theorem assignResponder_groups (assignedGroup : Int) (addr : String) (h : Host) :
    (assignResponder assignedGroup addr h).groups = h.groups := by
  unfold assignResponder
  split
  · exact updateDevice_groups _ _ h
  · rfl

/-- What a restart makes of the host. -/
theorem restart_eq (reprText : PyVal → String) (floatText : PyFloat → String) (h : Host) :
    restart reprText floatText h
      = some ⟨h.devices.map (·.reloaded), fixGroups (groupsToDump h.groups),
          { file := h.scenes.file, cache := none, nextId := none }⟩ := by
  rw [restart, loadFromDb_saveToDb]

/-- **One event keeps the group list plain.** -/
theorem groupsOk_step {h h' : Host} {e : GroupEvent} (hok : GroupsOk h.groups)
    (hname : NoReservedName h e) (hstep : groupStep h e = some h') : GroupsOk h'.groups := by
  cases e with
  | create name devType =>
    obtain rfl := Option.some.inj hstep
    exact groupsOk_create hok hname devType
  | rename gid name =>
    obtain rfl := Option.some.inj hstep
    exact groupsOk_rename hok hname
  | delete env gid =>
    obtain rfl := Option.some.inj hstep
    exact groupsOk_delete hok env gid
  | discover targetGid newGroupName =>
    obtain rfl := Option.some.inj hstep
    exact groupsOk_discover hok targetGid hname
  | updateMeta macs mac newGroup newName =>
    obtain rfl := Option.some.inj hstep
    rw [applyDeviceMeta, updateDevice_groups]
    exact hok
  | identify discovering r =>
    obtain rfl := Option.some.inj hstep
    rw [handleIdentify_groups]
    exact hok
  | assign assignedGroup addr =>
    obtain rfl := Option.some.inj hstep
    rw [assignResponder_groups]
    exact hok
  | force index =>
    obtain rfl := Option.some.inj hstep
    exact hok
  | restart reprText floatText =>
    rw [groupStep, restart_eq, Option.some.injEq] at hstep
    subst hstep
    rw [hok.groupsToDump_eq]
    exact hok.fixGroups

/-! ## 5. Runs -/

/-- The name of the group an id indexes. -/
def groupName? (groups : List DeviceGroup) (gid : Int) : Option String :=
  if gid < 0 then none else groups[gid.toNat]?.map (·.name)

/-- Saving and loading keeps the name of every device's group. -/
def KeepsGroupNames (h : Host) : Prop :=
  ∀ reprText floatText, ∃ devices groups,
    loadFromDb reprText (some (saveToDb floatText h.devices h.groups)) = .ok (devices, groups) ∧
    List.Forall₂ (fun d d' : Device => ∀ n, groupName? h.groups d.groupId = some n →
      groupName? groups d'.groupId = some n) h.devices devices

theorem keepsGroupNames_of_groupsOk {h : Host} (hok : GroupsOk h.groups) : KeepsGroupNames h := by
  intro reprText floatText
  refine ⟨_, _, loadFromDb_saveToDb reprText floatText h.devices h.groups, ?_⟩
  rw [List.forall₂_map_right_iff, List.forall₂_same, hok.groupsToDump_eq, hok.fixGroups_eq]
  intro d _ n hn
  have hgroup : d.reloaded.groupId = d.groupId := rfl
  rw [hgroup]
  unfold groupName? at hn ⊢
  split at hn
  · cases hn
  · next hnonneg =>
    obtain ⟨g, hg, rfl⟩ := Option.map_eq_some_iff.mp hn
    rw [if_neg hnonneg, List.getElem?_map, hg, Option.map_some, Option.map_some,
      hok.name_fixed (List.mem_of_getElem? hg)]

/-- **A restart keeps every device's group** in every state of every run in which no accepted
request gives a group a name the loader drops or rewrites. -/
theorem groupNames_survive_restart {h : Host}
    (hreach : Lts.ReachableBy groupSystem NoReservedName h) : KeepsGroupNames h := by
  have hinit : GroupsOk groupSystem.init.groups := ⟨rfl, by decide⟩
  exact keepsGroupNames_of_groupsOk (hreach.invariant hinit fun _ _ _ => groupsOk_step)

/-- A node that reports for the first time. -/
def newNode : IdentifyReply :=
  { mac12 := "AABBCCDDEEFF", version := some 4, caps := some 10, groupId := some 0
    hostRssi := none, hostSnr := none, now := .int 0 }

/-- The groups of the given names are created and the new node is put into one. -/
def nodeRun (names : List String) (gid : Int) : List GroupEvent :=
  names.map (.create · 0) ++
    [.identify false newNode, .updateMeta [newNode.mac12] newNode.mac12 (some gid) none]

/-- One lane, with a node in it. -/
theorem groupNames_survive_restart_lane : ∃ h, Lts.run groupSystem freshInstall
    (nodeRun ["Lane A"] 1) = some h ∧ h.devices.map (·.groupId) = [1] ∧ KeepsGroupNames h := by
  have hlane : PlainName (strip "Lane A") := by decide
  have hmeets : Lts.RunMeets groupSystem NoReservedName freshInstall (nodeRun ["Lane A"] 1) :=
    ⟨hlane, fun _ _ => ⟨trivial, fun _ _ => ⟨trivial, fun _ _ => trivial⟩⟩⟩
  exact ⟨_, rfl, rfl, groupNames_survive_restart (.of_run .init hmeets rfl)⟩

/-- A group called "Unconfigured" is taken, and gone after a restart: the node of "Lane A", the
group behind it, is in no group any more. -/
theorem groupNames_lost_unconfigured : ∃ h, Lts.run groupSystem freshInstall
    (nodeRun ["Unconfigured", "Lane A"] 2) = some h ∧
    h.devices.map (·.groupId) = [2] ∧ groupName? h.groups 2 = some "Lane A" ∧
    ¬ KeepsGroupNames h := by
  refine ⟨_, rfl, rfl, rfl, fun hkeeps => ?_⟩
  obtain ⟨devices, groups, hload, hall⟩ := hkeeps (fun _ => "") (fun _ => "")
  rw [loadFromDb_saveToDb, Except.ok.injEq, Prod.mk.injEq] at hload
  obtain ⟨rfl, rfl⟩ := hload
  cases hall with
  | cons hnode _ => exact absurd (hnode "Lane A" rfl) (by decide)

end RaceLink
