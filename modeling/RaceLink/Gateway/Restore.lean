/-
# Restoring the groups of nodes

A node that starts is in group 0.  When it identifies itself and the host knows it under another
group, a worker sends it a `SET_GROUP`; a cooldown keeps a node that reports several times from
being sent several workers.

Here any number of nodes start, report, and take the frames that reach them, reports and frames are
delayed and lost, and the operator's requests change the host's records in between.

* `restores_spaced`: as long as the clock does not run backwards, a report starts a worker exactly
  when there is a group to restore and the last worker for the node is a cooldown ago; the cache
  that `_auto_reassign_recent` prunes decides as the list of all workers would.
* `storedGroup_restored`: while the operator leaves a record its group, its node is in group 0 or in
  the group of the record, whatever is lost or delayed.
* `nodeGroup_stays`: a node that has a group is left in it, whatever the operator does to the
  records.  The routes that renumber count on the restore to tell the nodes
  (`groupsDelete_leaves_node`); it does not.
-/
import RaceLink.Cooldown.Basic
import RaceLink.Dispatch.Ready
import RaceLink.Gateway.Collect
import RaceLink.Web.GroupRuns
import Mathlib.Algebra.Order.Ring.Rat
import Mathlib.Tactic.Linarith

namespace RaceLink

open Python

/-! ## 1. The restore -/

/-- `_auto_reassign_cooldown_s`. -/
def autoReassignCooldown : Rat := 2

/-- The expiry of `_prune_auto_reassign_cache_locked`. -/
def autoReassignExpiry : Rat := max (autoReassignCooldown * 4) 5

/-- The rest of `_restore_known_device_group`, up to the cooldown: `dev` is the record after the
reset, so a group that is left is one of the list. -/
def restoreWanted (discovering : Bool) (r : IdentifyReply) (dev : Device) : Bool :=
  (r.groupId.getD 0) % 256 = 0 && !discovering && dev.groupId % 256 ≠ 0 && upper dev.addr ≠ ""

/-- How the wait of `setNodeGroupId` ends: with an ACK of status 0, with another, or with none. -/
inductive SetGroupOutcome where
  | acked
  | refused
  | silent

/-- `build_set_group_body`, behind the receiver. -/
structure SetGroupFrame where
  recv3 : List UInt8
  groupId : UInt8

/-- `setNodeGroupId` with a transport: the frames, one for each attempt, the answer, and what is
left in the record. -/
def setNodeGroupId (attempts : Nat) (now : PyVal) (outcome : SetGroupOutcome) (dev : Device) :
    Except PyErr (List SetGroupFrame × Bool × Device) := do
  let recv3 ← macLast3FromHex dev.addr
  let frame : SetGroupFrame := ⟨recv3, byteOf dev.groupId⟩
  if recv3 = broadcastRecv3 then return ([frame], true, dev)
  let frames := List.replicate attempts frame
  let dev := { dev with lastAck := noAck }
  match outcome with
  | .acked => return (frames, true, dev)
  | .refused => return (frames, false, dev)
  | .silent => return (frames, false, dev.markOffline now "Missing reply (SET_GROUP)")

/-- `_worker`, with a transport; what it catches is only logged. -/
def autoRestoreWorker (attempts : Nat) (now : PyVal) (outcome : SetGroupOutcome) (dev : Device) :
    List SetGroupFrame × Device :=
  match setNodeGroupId attempts now outcome dev with
  | .error _ => ([], dev)
  | .ok (frames, true, dev) => (frames, dev)
  | .ok (frames, false, dev) => (frames, dev.markOffline now "Auto-restore SET_GROUP timeout")

/-- A route's call; what it catches is only logged. -/
def routeSend (attempts : Nat) (now : PyVal) (outcome : SetGroupOutcome) (dev : Device) :
    List SetGroupFrame × Device :=
  match setNodeGroupId attempts now outcome dev with
  | .error _ => ([], dev)
  | .ok (frames, _, dev) => (frames, dev)

/-! ## 2. The field -/

/-- The address of a node, as `bytes(mac6).hex().upper()` spells it. -/
abbrev Mac : Type := { mac : String // isMac12 mac = true }

/-- A packet for `recv3` reaches the node. -/
def Mac.Hears (mac : Mac) (recv3 : List UInt8) : Prop :=
  recv3 = broadcastRecv3 ∨ macLast3FromHex mac.val = .ok recv3

/-- The receivers of a node, to decide what it hears. -/
def Mac.receivers (mac : Mac) : List (List UInt8) :=
  broadcastRecv3 :: ((macLast3FromHex mac.val).toOption).toList

theorem Mac.hears_iff (mac : Mac) (recv3 : List UInt8) :
    mac.Hears recv3 ↔ mac.receivers.contains recv3 = true := by
  rw [List.contains_iff_mem]
  unfold Mac.Hears Mac.receivers
  cases macLast3FromHex mac.val with
  | error e => simp [Except.toOption]
  | ok r => simp [Except.toOption, eq_comm]

instance (mac : Mac) (recv3 : List UInt8) : Decidable (mac.Hears recv3) :=
  decidable_of_iff _ (mac.hears_iff recv3).symm

/-- A report on the way. -/
structure NodeReport where
  mac : Mac
  groupId : UInt8

/-- The report as `on_transport_event` reads it. -/
def NodeReport.read (report : NodeReport) (r : IdentifyReply) : IdentifyReply :=
  { r with mac12 := report.mac.val, groupId := some report.groupId.toNat }

structure GroupField where
  host : Host
  /-- `_auto_reassign_recent`. -/
  recent : Cooldown.Cache String Rat
  clock : Rat
  /-- The devices of the workers that have not run, by place. -/
  workers : List Nat
  /-- The groups of the nodes. -/
  nodes : Mac → UInt8
  reports : List NodeReport
  setGroups : List SetGroupFrame
  /-- Not in the source: all workers, with the times of `_mark_auto_reassign`. -/
  restores : Cooldown.Log String Rat

inductive FieldEvent where
  /-- The node starts. -/
  | reboot (mac : Mac)
  /-- It sends an `IDENTIFY_REPLY`. -/
  | report (mac : Mac)
  /-- The host handles the report at a place; `r` has the fields beside the address and the group.
  The cooldown is looked up at `now`, and marked at `marked`. -/
  | identify (i : Nat) (discovering : Bool) (r : IdentifyReply) (now marked : Rat)
  | loseReport (i : Nat)
  /-- The worker at a place runs. -/
  | worker (k : Nat) (attempts : Nat) (now : PyVal) (outcome : SetGroupOutcome)
  /-- A route calls `setNodeGroupId` for the device at a place. -/
  | setNodeGroupId (place : Nat) (attempts : Nat) (now : PyVal) (outcome : SetGroupOutcome)
  /-- The frame at a place reaches its node. -/
  | deliver (j : Nat)
  | loseFrame (j : Nat)
  /-- A route changes the records. -/
  | records (e : GroupEvent)

/-- The routes that change the records: a report has an event of its own, and a restart ends the
workers. -/
def GroupEvent.isRoute : GroupEvent → Bool
  | .identify _ _ | .restart _ _ => false
  | _ => true

namespace GroupField

variable (s : GroupField)

/-- `_auto_reassign_suppressed`, `_mark_auto_reassign` and `_spawn_auto_reassign_worker` for the
device at a place. -/
def spawnAutoReassign (place : Nat) (mac : String) (now marked : Rat) : GroupField :=
  let recent := Cooldown.prune autoReassignExpiry now s.recent
  if Cooldown.rests autoReassignCooldown 0 now recent mac then { s with recent := recent }
  else
    { s with
      recent := Cooldown.mark recent mac marked
      workers := s.workers ++ [place]
      restores := s.restores ++ [(mac, marked)] }

/-- The branch of `on_transport_event` for an `IDENTIFY_REPLY`, and
`_restore_known_device_group`. -/
def handleReport (discovering : Bool) (r : IdentifyReply) (now marked : Rat) : GroupField :=
  let known := getDeviceFromAddress s.host.devices r.mac12
  let handled : GroupField :=
    { s with host := handleIdentify discovering r s.host, clock := marked }
  match known.bind fun place => handled.host.devices[place]?.map (place, ·) with
  | some (place, dev) =>
    if restoreWanted discovering r dev then
      handled.spawnAutoReassign place (upper dev.addr) now marked
    else handled
  | none => handled

/-- Frames for the device at a place are sent, and its record is left as `send` says. -/
def sendSetGroup (send : Device → List SetGroupFrame × Device) (place : Nat) : GroupField :=
  { s with
    host := { s.host with devices := s.host.devices.modify place fun dev => (send dev).2 }
    setGroups := s.setGroups ++ ((s.host.devices[place]?).map fun dev => (send dev).1).getD [] }

/-- The field after an event; `none` when the event cannot happen. -/
def step : FieldEvent → Option GroupField
  | .reboot mac => some { s with nodes := Function.update s.nodes mac 0 }
  | .report mac => some { s with reports := s.reports ++ [⟨mac, s.nodes mac⟩] }
  | .identify i discovering r now marked =>
    (s.reports[i]?).map fun report =>
      { s with reports := s.reports.eraseIdx i }.handleReport discovering (report.read r) now marked
  | .loseReport i => some { s with reports := s.reports.eraseIdx i }
  | .worker k attempts now outcome =>
    (s.workers[k]?).map fun place =>
      { s with workers := s.workers.eraseIdx k }.sendSetGroup
        (autoRestoreWorker attempts now outcome) place
  | .setNodeGroupId place attempts now outcome =>
    some (s.sendSetGroup (routeSend attempts now outcome) place)
  | .deliver j =>
    (s.setGroups[j]?).map fun f =>
      { s with
        nodes := fun mac => if mac.Hears f.recv3 then f.groupId else s.nodes mac
        setGroups := s.setGroups.eraseIdx j }
  | .loseFrame j => some { s with setGroups := s.setGroups.eraseIdx j }
  | .records e =>
    if e.isRoute then (groupStep s.host e).map fun host => { s with host := host } else none

end GroupField

/-- The field from a state on. -/
def fieldSystem (init : GroupField) : Lts.System GroupField FieldEvent := ⟨init, GroupField.step⟩

/-- No report handled, no worker started, at a time of the clock. -/
def GroupField.start (host : Host) (nodes : Mac → UInt8) (clock : Rat) : GroupField :=
  { host := host, recent := fun _ => none, clock := clock, workers := [], nodes := nodes
    reports := [], setGroups := [], restores := [] }

/-! ## 3. Addresses stay in their places -/

/-- The addresses of the records. -/
def Host.addrs (h : Host) : List String := h.devices.map (·.addr)

theorem addrs_modify (h : Host) (i : Nat) {f : Device → Device} (hf : ∀ d, (f d).addr = d.addr) :
    Host.addrs { h with devices := h.devices.modify i f } = h.addrs := by
  refine List.ext_getElem? fun j => ?_
  unfold Host.addrs
  rw [List.getElem?_map, List.getElem?_map, List.getElem?_modify]
  cases h.devices[j]? with
  | none => rfl
  | some d =>
    by_cases hij : i = j
    · simp [hij, hf d]
    · simp [hij]

theorem addrs_updateDevice (addr : String) {f : Device → Device} (hf : ∀ d, (f d).addr = d.addr)
    (h : Host) : (updateDevice addr f h).addrs = h.addrs := by
  unfold updateDevice
  split
  · exact addrs_modify h _ hf
  · rfl

theorem addr_restored (groupCount : Nat) (discovering : Bool) (r : IdentifyReply) (dev : Device) :
    (restoreKnownDeviceGroup groupCount discovering r (dev.updateFromIdentify r)).addr
      = dev.addr := by
  unfold restoreKnownDeviceGroup
  split
  · rfl
  · split <;> rfl

/-- A report leaves the addresses in their places, or adds its own behind them. -/
theorem addrs_handleIdentify (discovering : Bool) (r : IdentifyReply) (h : Host) :
    (handleIdentify discovering r h).addrs
      = if (getDeviceFromAddress h.devices r.mac12).isSome then h.addrs
        else h.addrs ++ [r.mac12] := by
  dsimp only [handleIdentify]
  split
  · exact addrs_updateDevice _ (addr_restored _ _ _) h
  · rw [Host.addrs, List.map_append]
    rfl

/-- **A route leaves the addresses in their places.** -/
theorem addrs_groupStep {h h' : Host} {e : GroupEvent} (hroute : e.isRoute = true)
    (hstep : groupStep h e = some h') : h'.addrs = h.addrs := by
  cases e with
  | create name devType =>
    obtain rfl := Option.some.inj hstep
    dsimp only [apiGroupsCreate]
    split <;> rfl
  | rename gid name =>
    obtain rfl := Option.some.inj hstep
    unfold apiGroupsRename
    dsimp only
    split
    · rfl
    · split
      · rfl
      · split <;> rfl
  | delete env gid =>
    obtain rfl := Option.some.inj hstep
    unfold apiGroupsDelete
    split
    · rfl
    · split
      · rfl
      · show (h.devices.map (renumberDevice gid)).map (·.addr) = _
        rw [List.map_map]
        exact List.map_congr_left fun d _ => renumberDevice_addr gid d
  | updateMeta macs mac newGroup newName =>
    obtain rfl := Option.some.inj hstep
    refine addrs_updateDevice mac (fun d => ?_) h
    cases newName with
    | none => cases newGroup <;> rfl
    | some name => cases newGroup <;> dsimp only <;> split <;> rfl
  | discover targetGid newGroupName =>
    obtain rfl := Option.some.inj hstep
    unfold prepareDiscoverTarget
    split <;> rfl
  | identify discovering r => cases hroute
  | assign assignedGroup addr =>
    obtain rfl := Option.some.inj hstep
    unfold assignResponder
    split
    · refine addrs_updateDevice addr (fun d => ?_) h
      rfl
    · rfl
  | force index =>
    obtain rfl := Option.some.inj hstep
    refine addrs_modify h index fun d => ?_
    split <;> rfl
  | restart reprText floatText => cases hroute

/-- What `setNodeGroupId` sends is for the record, and the record keeps its address and group. -/
theorem setNodeGroupId_spec {attempts : Nat} {now : PyVal} {outcome : SetGroupOutcome}
    {dev dev' : Device} {frames : List SetGroupFrame} {ok : Bool}
    (h : setNodeGroupId attempts now outcome dev = .ok (frames, ok, dev')) :
    dev'.addr = dev.addr ∧ dev'.groupId = dev.groupId ∧ ∃ recv3,
      macLast3FromHex dev.addr = .ok recv3 ∧ ∀ f ∈ frames, f = ⟨recv3, byteOf dev.groupId⟩ := by
  unfold setNodeGroupId at h
  cases hrecv3 : macLast3FromHex dev.addr with
  | error e =>
    rw [hrecv3] at h
    cases h
  | ok recv3 =>
    rw [hrecv3] at h
    simp only [bind, Except.bind] at h
    split at h
    · cases h
      exact ⟨rfl, rfl, recv3, rfl, by simp⟩
    · have hframes : ∀ n, ∀ f ∈ List.replicate n (⟨recv3, byteOf dev.groupId⟩ : SetGroupFrame),
          f = ⟨recv3, byteOf dev.groupId⟩ := fun n f hf => List.eq_of_mem_replicate hf
      cases outcome <;> cases h <;> exact ⟨rfl, rfl, recv3, rfl, hframes _⟩

/-- A way to send that leaves the address and the group of a record, and sends only these. -/
structure SendsGroup (send : Device → List SetGroupFrame × Device) : Prop where
  addr : ∀ dev, (send dev).2.addr = dev.addr
  groupId : ∀ dev, (send dev).2.groupId = dev.groupId
  frames : ∀ dev, ∀ f ∈ (send dev).1,
    macLast3FromHex dev.addr = .ok f.recv3 ∧ f.groupId = byteOf dev.groupId

theorem sendsGroup_routeSend (attempts : Nat) (now : PyVal) (outcome : SetGroupOutcome) :
    SendsGroup (routeSend attempts now outcome) := by
  have hspec : ∀ dev, (routeSend attempts now outcome dev).2.addr = dev.addr ∧
      (routeSend attempts now outcome dev).2.groupId = dev.groupId ∧
      ∀ f ∈ (routeSend attempts now outcome dev).1,
        macLast3FromHex dev.addr = .ok f.recv3 ∧ f.groupId = byteOf dev.groupId := by
    intro dev
    unfold routeSend
    split
    · exact ⟨rfl, rfl, List.forall_mem_nil _⟩
    · next hsent =>
      obtain ⟨haddr, hgroup, recv3, hrecv3, hframes⟩ := setNodeGroupId_spec hsent
      refine ⟨haddr, hgroup, fun f hf => ?_⟩
      rw [hframes f hf]
      exact ⟨hrecv3, rfl⟩
  exact ⟨fun dev => (hspec dev).1, fun dev => (hspec dev).2.1, fun dev => (hspec dev).2.2⟩

/-- The worker sends what a route would. -/
theorem autoRestoreWorker_routeSend (attempts : Nat) (now : PyVal) (outcome : SetGroupOutcome)
    (dev : Device) :
    (autoRestoreWorker attempts now outcome dev).1 = (routeSend attempts now outcome dev).1 ∧
      (autoRestoreWorker attempts now outcome dev).2.addr
        = (routeSend attempts now outcome dev).2.addr ∧
      (autoRestoreWorker attempts now outcome dev).2.groupId
        = (routeSend attempts now outcome dev).2.groupId := by
  unfold autoRestoreWorker routeSend
  cases setNodeGroupId attempts now outcome dev with
  | error e => exact ⟨rfl, rfl, rfl⟩
  | ok sent =>
    obtain ⟨frames, ok, dev'⟩ := sent
    cases ok <;> exact ⟨rfl, rfl, rfl⟩

theorem sendsGroup_autoRestoreWorker (attempts : Nat) (now : PyVal) (outcome : SetGroupOutcome) :
    SendsGroup (autoRestoreWorker attempts now outcome) := by
  have hroute := sendsGroup_routeSend attempts now outcome
  refine ⟨fun dev => ?_, fun dev => ?_, fun dev f hf => ?_⟩
  · rw [(autoRestoreWorker_routeSend attempts now outcome dev).2.1, hroute.addr]
  · rw [(autoRestoreWorker_routeSend attempts now outcome dev).2.2, hroute.groupId]
  · rw [(autoRestoreWorker_routeSend attempts now outcome dev).1] at hf
    exact hroute.frames dev f hf

/-- What is on the way after a send was on the way before, or is for the record. -/
theorem mem_sendSetGroup {s : GroupField} {send : Device → List SetGroupFrame × Device}
    (hsend : SendsGroup send) {place : Nat} {f : SetGroupFrame}
    (hf : f ∈ (s.sendSetGroup send place).setGroups) :
    f ∈ s.setGroups ∨ ∃ dev, s.host.devices[place]? = some dev ∧
      macLast3FromHex dev.addr = .ok f.recv3 ∧ f.groupId = byteOf dev.groupId := by
  rcases List.mem_append.mp hf with hf | hf
  · exact .inl hf
  · cases hdev : s.host.devices[place]? with
    | none =>
      rw [hdev] at hf
      cases hf
    | some dev =>
      rw [hdev] at hf
      exact .inr ⟨dev, rfl, hsend.frames dev f hf⟩

theorem addrs_sendSetGroup (s : GroupField) {send : Device → List SetGroupFrame × Device}
    (hsend : SendsGroup send) (place : Nat) :
    (s.sendSetGroup send place).host.addrs = s.host.addrs :=
  addrs_modify s.host place hsend.addr

/-! ## 4. Whom an address reaches -/

/-- A packet for the address reaches the node. -/
def Mac.SharesReceiver (mac : Mac) (addr : String) : Prop :=
  ∃ recv3, macLast3FromHex addr = .ok recv3 ∧ mac.Hears recv3

theorem Mac.strip_val (mac : Mac) : strip mac.val = mac.val := by
  refine strip_eq_self fun c hc => ?_
  have hmac := mac.property
  simp only [isMac12, Bool.and_eq_true, List.all_eq_true] at hmac
  exact isSpace_of_isUpperHex (hmac.2 c hc)

theorem Mac.upper_val (mac : Mac) : upper mac.val = mac.val := by
  conv_lhs => rw [← mac.strip_val]
  exact upper_strip_of_isMac12 mac.property

/-- The spelling of an address does not change its receiver. -/
theorem macLast3FromHex_upper {mac : Mac} {addr : String} (h : upper addr = mac.val) :
    macLast3FromHex addr = macLast3FromHex mac.val := by
  have hplain : ∀ {a : String}, upper a = mac.val →
      String.ofList ((strip a).toList.filter (· ≠ ':')) = a := by
    intro a ha
    have hmac : isMac12 (upper a) = true := ha ▸ mac.property
    rw [strip_eq_self fun c hc => (plain_of_upper_isMac12 hmac hc).1,
      List.filter_eq_self.mpr fun c hc => decide_eq_true (plain_of_upper_isMac12 hmac hc).2,
      String.ofList_toList]
  unfold macLast3FromHex
  rw [hplain h, hplain mac.upper_val, h, mac.upper_val]

/-- The record that a full address finds has it. -/
theorem getDeviceFromAddress_mac {devices : List Device} {mac : Mac} {i : Nat}
    (h : getDeviceFromAddress devices mac.val = some i) :
    ∃ dev, devices[i]? = some dev ∧ upper dev.addr = mac.val := by
  rw [getDeviceFromAddress, upper_strip_of_isMac12 mac.property,
    List.findIdx?_eq_some_iff_getElem] at h
  obtain ⟨hlt, haddr, -⟩ := h
  have hlen : mac.val.length = 12 := by
    have hmac := mac.property
    simp only [isMac12, Bool.and_eq_true, beq_iff_eq] at hmac
    rw [← String.length_toList, hmac.1]
  rw [Device.hasAddr, if_pos hlen, decide_eq_true_eq] at haddr
  exact ⟨devices[i], List.getElem?_eq_getElem hlt, haddr⟩

/-- A record and the node of its address have one receiver. -/
theorem sharesReceiver_upper {m mac : Mac} {addr : String} (h : upper addr = mac.val) :
    m.SharesReceiver addr ↔ m.SharesReceiver mac.val := by
  rw [Mac.SharesReceiver, Mac.SharesReceiver, macLast3FromHex_upper h]

/-- A node hears what is sent to its address. -/
theorem Mac.sharesReceiver_self (mac : Mac) : mac.SharesReceiver mac.val := by
  obtain ⟨recv3, hrecv3, -⟩ := macLast3FromHex_of_isMac12 (mac.upper_val.symm ▸ mac.property)
  exact ⟨recv3, hrecv3, .inr hrecv3⟩

/-! ## 5. What a report does -/

/-- The host wants the node of the report back in the group of its record at the place. -/
structure GroupField.Wants (s : GroupField) (discovering : Bool) (report : NodeReport)
    (place : Nat) : Prop where
  unconfigured : report.groupId = 0
  idle : discovering = false
  known : getDeviceFromAddress s.host.devices report.mac.val = some place
  stored : ∃ dev, s.host.devices[place]? = some dev ∧ 0 < dev.groupId % 256 ∧
    dev.groupId % 256 < s.host.groups.length

/-- What a report leaves of a record. -/
def Device.afterReport (groupCount : Nat) (discovering : Bool) (r : IdentifyReply)
    (dev : Device) : Device :=
  restoreKnownDeviceGroup groupCount discovering r (dev.updateFromIdentify r)

theorem handleIdentify_known {h : Host} {discovering : Bool} {r : IdentifyReply} {i : Nat}
    (hknown : getDeviceFromAddress h.devices r.mac12 = some i) :
    handleIdentify discovering r h
      = { h with devices :=
            h.devices.modify i fun dev => dev.afterReport h.groups.length discovering r } := by
  unfold handleIdentify
  dsimp only
  rw [hknown, Option.isSome_some, if_pos rfl, updateDevice, hknown]
  rfl

theorem handleIdentify_unknown {h : Host} {discovering : Bool} {r : IdentifyReply}
    (hunknown : getDeviceFromAddress h.devices r.mac12 = none) :
    ∃ dev, dev.addr = r.mac12 ∧
      (handleIdentify discovering r h).devices = h.devices ++ [dev] := by
  unfold handleIdentify
  dsimp only
  rw [hunknown]
  exact ⟨_, rfl, rfl⟩

theorem handleIdentify_getElem? {h : Host} {discovering : Bool} {r : IdentifyReply} {i : Nat}
    {dev : Device} (hknown : getDeviceFromAddress h.devices r.mac12 = some i)
    (hdev : h.devices[i]? = some dev) :
    (handleIdentify discovering r h).devices[i]?
      = some (dev.afterReport h.groups.length discovering r) := by
  rw [handleIdentify_known hknown]
  dsimp only
  rw [List.getElem?_modify_eq, hdev]
  rfl

/-- A record with a group keeps it, when the list has that group. -/
theorem groupId_afterReport {groupCount : Nat} {dev : Device} (hne : dev.groupId ≠ 0)
    (hlt : dev.groupId % 256 < groupCount) (discovering : Bool) (r : IdentifyReply) :
    (dev.afterReport groupCount discovering r).groupId = dev.groupId := by
  have hsame : (dev.updateFromIdentify r).groupId = dev.groupId := by
    unfold Device.updateFromIdentify
    cases r.groupId with
    | none => rfl
    | some g => exact if_neg fun h => hne h.1
  unfold Device.afterReport restoreKnownDeviceGroup
  rw [hsame, if_neg (by omega : ¬ dev.groupId % 256 ≥ groupCount)]
  split <;> exact hsame

/-- The group of a record after a report of group 0. -/
theorem groupId_afterReport_zero (groupCount : Nat) {r : IdentifyReply} (hzero : r.groupId = some 0)
    (dev : Device) : (dev.afterReport groupCount false r).groupId
      = if dev.groupId % 256 ≥ groupCount then 0 else dev.groupId := by
  have hsame : (dev.updateFromIdentify r).groupId = dev.groupId := by
    unfold Device.updateFromIdentify
    rw [hzero]
    exact if_neg fun h => h.2 rfl
  have hread : ¬ ((r.groupId.getD 0) % 256 ≠ 0 ∨ false = true) := by
    rw [hzero]
    decide
  rw [Device.afterReport, restoreKnownDeviceGroup, if_neg hread, hsame]
  split
  · rfl
  · exact hsame

theorem addr_afterReport (groupCount : Nat) (discovering : Bool) (r : IdentifyReply)
    (dev : Device) : (dev.afterReport groupCount discovering r).addr = dev.addr :=
  addr_restored groupCount discovering r dev

/-- The record the worker is started for. -/
theorem restoreWanted_iff (groupCount : Nat) (discovering : Bool) (report : NodeReport)
    (r : IdentifyReply) {dev : Device} (haddr : upper dev.addr = report.mac.val) :
    restoreWanted discovering (report.read r)
        (dev.afterReport groupCount discovering (report.read r)) = true ↔
      report.groupId = 0 ∧ discovering = false ∧ 0 < dev.groupId % 256 ∧
        dev.groupId % 256 < groupCount := by
  have hne : report.mac.val ≠ "" := by
    intro hempty
    have hprop := report.mac.property
    rw [hempty] at hprop
    exact absurd hprop (by decide)
  have hread : ((report.read r).groupId.getD 0) % 256 = 0 ↔ report.groupId = 0 := by
    have hlt := report.groupId.toNat_lt
    rw [← UInt8.toNat_inj]
    show (report.groupId.toNat : Int) % 256 = 0 ↔ report.groupId.toNat = 0
    omega
  simp only [restoreWanted, addr_afterReport, haddr, Bool.and_eq_true, decide_eq_true_eq,
    Bool.not_eq_true', hread]
  constructor
  · rintro ⟨⟨⟨hzero, rfl⟩, hgroup⟩, -⟩
    have hzero' : (report.read r).groupId = some 0 := by
      rw [NodeReport.read, hzero]
      rfl
    rw [groupId_afterReport_zero groupCount hzero' dev] at hgroup
    split at hgroup
    · exact absurd rfl hgroup
    · exact ⟨hzero, rfl, by omega, by omega⟩
  · rintro ⟨hzero, rfl, hpos, hlt⟩
    rw [groupId_afterReport (by omega) hlt]
    exact ⟨⟨⟨hzero, rfl⟩, by omega⟩, hne⟩

/-- The host when the report is read, before a worker. -/
def GroupField.heard (s : GroupField) (discovering : Bool) (r : IdentifyReply) (marked : Rat) :
    GroupField :=
  { s with host := handleIdentify discovering r s.host, clock := marked }

/-- What a route does. -/
theorem step_records {s s' : GroupField} {e : GroupEvent}
    (hstep : s.step (.records e) = some s') :
    e.isRoute = true ∧ ∃ host, groupStep s.host e = some host ∧ s' = { s with host := host } := by
  by_cases hroute : e.isRoute = true
  · rw [GroupField.step, if_pos hroute] at hstep
    obtain ⟨host, hhost, rfl⟩ := Option.map_eq_some_iff.mp hstep
    exact ⟨hroute, host, hhost, rfl⟩
  · rw [GroupField.step, if_neg hroute] at hstep
    cases hstep

/-- **What a report does**: a worker is started for who is wanted, unless the cooldown keeps
it. -/
theorem handleReport_of_wants {s : GroupField} {discovering : Bool} {report : NodeReport}
    {place : Nat} (h : s.Wants discovering report place) (r : IdentifyReply) (now marked : Rat) :
    s.handleReport discovering (report.read r) now marked
      = (s.heard discovering (report.read r) marked).spawnAutoReassign place report.mac.val
          now marked := by
  have hknown : getDeviceFromAddress s.host.devices (report.read r).mac12 = some place := h.known
  obtain ⟨dev, hdev, hpos, hlt⟩ := h.stored
  obtain ⟨dev', hdev', haddr⟩ := getDeviceFromAddress_mac h.known
  obtain rfl : dev' = dev := Option.some.inj (hdev'.symm.trans hdev)
  have hwanted := (restoreWanted_iff s.host.groups.length discovering report r haddr).mpr
    ⟨h.unconfigured, h.idle, hpos, hlt⟩
  unfold GroupField.handleReport
  simp only [hknown, handleIdentify_getElem? hknown hdev, Option.bind_some, Option.map_some,
    hwanted, if_true, addr_afterReport, haddr]
  rfl

/-- Who is not wanted starts none. -/
theorem handleReport_of_not_wants {s : GroupField} {discovering : Bool} {report : NodeReport}
    (h : ∀ place, ¬ s.Wants discovering report place) (r : IdentifyReply) (now marked : Rat) :
    s.handleReport discovering (report.read r) now marked
      = s.heard discovering (report.read r) marked := by
  unfold GroupField.handleReport
  cases hknown : getDeviceFromAddress s.host.devices (report.read r).mac12 with
  | none => rfl
  | some place =>
    obtain ⟨dev, hdev, haddr⟩ := @getDeviceFromAddress_mac _ report.mac _ hknown
    have hunwanted : restoreWanted discovering (report.read r)
        (dev.afterReport s.host.groups.length discovering (report.read r)) = false := by
      rw [Bool.eq_false_iff]
      intro hwanted
      obtain ⟨hzero, hidle, hpos, hlt⟩ :=
        (restoreWanted_iff s.host.groups.length discovering report r haddr).mp hwanted
      exact h place ⟨hzero, hidle, hknown, dev, hdev, hpos, hlt⟩
    simp only [handleIdentify_getElem? hknown hdev, Option.bind_some, Option.map_some, hunwanted,
      Bool.false_eq_true, if_false]
    rfl

/-! ## 6. Workers are spaced -/

/-- The clock does not run backwards. -/
def GroupField.Timely (s : GroupField) : FieldEvent → Prop
  | .identify _ _ _ now marked => s.clock ≤ now ∧ now ≤ marked
  | _ => True

instance (s : GroupField) (e : FieldEvent) : Decidable (s.Timely e) := by
  cases e <;> unfold GroupField.Timely <;> infer_instance

/-- The cache recalls the workers, and the clock is past the cooldown of a node never served. -/
structure GroupField.Recalled (s : GroupField) : Prop where
  recalls : Cooldown.Recalls autoReassignCooldown s.clock s.recent s.restores
  late : autoReassignCooldown ≤ s.clock

theorem cooldown_le_expiry : autoReassignCooldown ≤ autoReassignExpiry := by decide +kernel

/-- The cooldown of `spawnAutoReassign` is that of the list of all workers. -/
theorem GroupField.Recalled.rests_iff {s : GroupField} (h : s.Recalled) {now : Rat}
    (hle : s.clock ≤ now) (mac : String) :
    Cooldown.rests autoReassignCooldown 0 now
        (Cooldown.prune autoReassignExpiry now s.recent) mac = true ↔
      Cooldown.Rests autoReassignCooldown now s.restores mac := by
  refine ((h.recalls.mono hle).prune cooldown_le_expiry).rests_iff ?_ mac
  rw [sub_zero]
  exact h.late.trans hle

theorem GroupField.Recalled.spawnAutoReassign {s : GroupField} (h : s.Recalled) (discovering : Bool)
    (r : IdentifyReply) (place : Nat) (mac : String) {now marked : Rat} (hnow : s.clock ≤ now)
    (hmarked : now ≤ marked) :
    ((s.heard discovering r marked).spawnAutoReassign place mac now marked).Recalled := by
  have hpruned := (h.recalls.mono hnow).prune cooldown_le_expiry
  unfold GroupField.spawnAutoReassign
  dsimp only
  split
  · exact ⟨hpruned.mono hmarked, h.late.trans (hnow.trans hmarked)⟩
  · next hrests =>
    refine ⟨hpruned.mark ?_ hmarked, h.late.trans (hnow.trans hmarked)⟩
    exact fun hserved => hrests ((h.rests_iff hnow mac).mpr hserved)

/-- One event keeps the cache right. -/
theorem recalled_step {s s' : GroupField} {e : FieldEvent} (h : s.Recalled) (htimely : s.Timely e)
    (hstep : s.step e = some s') : s'.Recalled := by
  cases e with
  | identify i discovering r now marked =>
    obtain ⟨hnow, hmarked⟩ := htimely
    obtain ⟨report, -, rfl⟩ := Option.map_eq_some_iff.mp hstep
    have htaken : ({ s with reports := s.reports.eraseIdx i } : GroupField).Recalled :=
      ⟨h.recalls, h.late⟩
    by_cases hwants : ∃ place, GroupField.Wants { s with reports := s.reports.eraseIdx i }
        discovering report place
    · obtain ⟨place, hwants⟩ := hwants
      rw [handleReport_of_wants hwants]
      exact htaken.spawnAutoReassign discovering _ place _ hnow hmarked
    · rw [handleReport_of_not_wants (not_exists.mp hwants)]
      exact ⟨h.recalls.mono (hnow.trans hmarked), h.late.trans (hnow.trans hmarked)⟩
  | worker k attempts now outcome =>
    obtain ⟨place, -, rfl⟩ := Option.map_eq_some_iff.mp hstep
    exact ⟨h.recalls, h.late⟩
  | deliver j =>
    obtain ⟨f, -, rfl⟩ := Option.map_eq_some_iff.mp hstep
    exact ⟨h.recalls, h.late⟩
  | records e =>
    obtain ⟨-, host, -, rfl⟩ := step_records hstep
    exact ⟨h.recalls, h.late⟩
  | reboot mac => cases hstep; exact ⟨h.recalls, h.late⟩
  | report mac => cases hstep; exact ⟨h.recalls, h.late⟩
  | loseReport i => cases hstep; exact ⟨h.recalls, h.late⟩
  | setNodeGroupId place attempts now outcome => cases hstep; exact ⟨h.recalls, h.late⟩
  | loseFrame j => cases hstep; exact ⟨h.recalls, h.late⟩

theorem recalled_of_reachable {host : Host} {nodes : Mac → UInt8} {clock : Rat}
    (hclock : autoReassignCooldown ≤ clock) {s : GroupField}
    (hreach : Lts.ReachableBy (fieldSystem (.start host nodes clock)) GroupField.Timely s) :
    s.Recalled :=
  hreach.invariant ⟨.empty, hclock⟩ fun _ _ _ => recalled_step

/-- **Workers are spaced.**  As long as the clock, which starts a cooldown past its zero at least,
does not run backwards, two workers for a node are a cooldown apart, and a report starts one exactly
when the host wants the node back and no worker was started for it less than a cooldown ago. -/
theorem restores_spaced (host : Host) (nodes : Mac → UInt8) (clock : Rat)
    (hclock : autoReassignCooldown ≤ clock) (s : GroupField)
    (hreach : Lts.ReachableBy (fieldSystem (.start host nodes clock)) GroupField.Timely s) :
    Cooldown.Spaced autoReassignCooldown s.restores ∧
    ∀ i discovering r now marked s', s.clock ≤ now →
      s.step (.identify i discovering r now marked) = some s' →
      ∃ report, s.reports[i]? = some report ∧
        (∀ place, s.Wants discovering report place →
          ¬ Cooldown.Rests autoReassignCooldown now s.restores report.mac.val →
          s'.workers = s.workers ++ [place] ∧
          s'.restores = s.restores ++ [(report.mac.val, marked)]) ∧
        ((∀ place, ¬ s.Wants discovering report place) ∨
            Cooldown.Rests autoReassignCooldown now s.restores report.mac.val →
          s'.workers = s.workers ∧ s'.restores = s.restores) := by
  have hrecalled := recalled_of_reachable hclock hreach
  refine ⟨hrecalled.recalls.spaced, fun i discovering r now marked s' hnow hstep => ?_⟩
  obtain ⟨report, hreport, rfl⟩ := Option.map_eq_some_iff.mp hstep
  -- reading the report takes it, and leaves what decides
  have htaken : ∀ place, s.Wants discovering report place ↔
      GroupField.Wants { s with reports := s.reports.eraseIdx i } discovering report place :=
    fun place => ⟨fun h => ⟨h.unconfigured, h.idle, h.known, h.stored⟩,
      fun h => ⟨h.unconfigured, h.idle, h.known, h.stored⟩⟩
  have hrests := hrecalled.rests_iff hnow report.mac.val
  refine ⟨report, hreport, fun place hwants hfresh => ?_, fun hnone => ?_⟩
  · rw [handleReport_of_wants ((htaken place).mp hwants)]
    unfold GroupField.spawnAutoReassign GroupField.heard
    dsimp only
    rw [if_neg fun h => hfresh (hrests.mp h)]
    exact ⟨rfl, rfl⟩
  · by_cases hwants : ∃ place, s.Wants discovering report place
    · obtain ⟨place, hwants⟩ := hwants
      have hserved := hnone.resolve_left fun h => h place hwants
      rw [handleReport_of_wants ((htaken place).mp hwants)]
      unfold GroupField.spawnAutoReassign GroupField.heard
      dsimp only
      rw [if_pos (hrests.mpr hserved)]
      exact ⟨rfl, rfl⟩
    · rw [handleReport_of_not_wants fun place h => hwants ⟨place, (htaken place).mpr h⟩]
      exact ⟨rfl, rfl⟩

/-- The rest of an `IDENTIFY_REPLY` of a node that gives its group only. -/
def bareReply : IdentifyReply :=
  { mac12 := "", version := none, caps := none, groupId := none, hostRssi := none,
    hostSnr := none, now := .null }

/-- A host with the node of `deviceIn` in a group, and three groups. -/
def hostWith (gid : Int) : Host :=
  ⟨[deviceIn gid], [allWledNodes, ⟨"Lane A", 0, 0⟩, ⟨"Lane B", 0, 0⟩], storeOf []⟩

/-- Its node. -/
def laneNode : Mac := ⟨"AABBCCDDEEFF", by decide +kernel⟩

/-- A report that is handled at once. -/
def reportAt (now : Rat) : List FieldEvent :=
  [.report laneNode, .identify 0 false bareReply now now]

/-- Three reports, the second within the cooldown of the first. -/
theorem restores_spaced_thrice : ∃ s,
    Lts.run (fieldSystem (.start (hostWith 1) (fun _ => 0) 2))
        (.start (hostWith 1) (fun _ => 0) 2) (reportAt 10 ++ reportAt 11 ++ reportAt 13) = some s ∧
      s.restores.map (·.2) = [10, 13] ∧ Cooldown.Spaced autoReassignCooldown s.restores := by
  let sys := fieldSystem (.start (hostWith 1) (fun _ => 0) 2)
  have hrun : ((Lts.run sys sys.init (reportAt 10 ++ reportAt 11 ++ reportAt 13)).map fun s =>
      s.restores.map (·.2)) = some [10, 13] := by decide +kernel
  obtain ⟨s, hs, htimes⟩ := Option.map_eq_some_iff.mp hrun
  refine ⟨s, hs, htimes, (restores_spaced (hostWith 1) (fun _ => 0) 2 (le_refl _) s
    (.of_run .init (by decide +kernel) hs)).1⟩

/-! ## 7. A stored group comes back -/

/-- The record of the node is at the place, with a group of the list, and no other record is sent
to where the node hears it. -/
structure StoredAlone (m : Mac) (g : UInt8) (place : Nat) (h : Host) : Prop where
  known : getDeviceFromAddress h.devices m.val = some place
  stored : ∃ dev, h.devices[place]? = some dev ∧ dev.groupId = g.toNat
  only : ∀ j addr, h.addrs[j]? = some addr → m.SharesReceiver addr → j = place
  listed : g.toNat < h.groups.length

/-- A route leaves the record at the place its group, and the group on the list; the clock does not
run backwards; and only the node and nodes it does not hear the frames of report. -/
def GroupField.Settled (m : Mac) (g : UInt8) (place : Nat) (s : GroupField) : FieldEvent → Prop
  | .records e => ∀ h, groupStep s.host e = some h →
    (∃ dev, h.devices[place]? = some dev ∧ dev.groupId = g.toNat) ∧ g.toNat < h.groups.length
  | .report mac => mac = m ∨ ¬ m.SharesReceiver mac.val
  | e => s.Timely e

/-- What holds of a node whose record keeps its group. -/
structure GroupField.Holds (m : Mac) (g : UInt8) (place : Nat) (s : GroupField) : Prop where
  alone : StoredAlone m g place s.host
  node : s.nodes m = 0 ∨ s.nodes m = g
  frames : ∀ f ∈ s.setGroups, m.Hears f.recv3 → f.groupId = g
  reports : ∀ report ∈ s.reports, report.mac = m ∨ ¬ m.SharesReceiver report.mac.val

/-- The place of an address does not change when addresses are added behind. -/
theorem StoredAlone.known_append {m : Mac} {h h' : Host} {place : Nat} {new : List String}
    (hknown : getDeviceFromAddress h.devices m.val = some place)
    (haddrs : h'.addrs = h.addrs ++ new) :
    getDeviceFromAddress h'.devices m.val = some place := by
  rw [getDeviceFromAddress_addrs] at hknown ⊢
  change h.addrs.findIdx? _ = _ at hknown
  change h'.addrs.findIdx? _ = _
  rw [haddrs, List.findIdx?_append, hknown]
  rfl

/-- A record that is changed but for its address and group is as good. -/
theorem StoredAlone.modify {m : Mac} {g : UInt8} {place : Nat} {h : Host}
    (halone : StoredAlone m g place h) (i : Nat) {f : Device → Device}
    (haddr : ∀ d, (f d).addr = d.addr)
    (hgroup : ∀ d, h.devices[place]? = some d → i = place → (f d).groupId = d.groupId) :
    StoredAlone m g place { h with devices := h.devices.modify i f } := by
  have haddrs := addrs_modify h i haddr
  obtain ⟨dev, hdev, hstored⟩ := halone.stored
  refine ⟨?_, ?_, fun j addr hj => halone.only j addr (haddrs ▸ hj), halone.listed⟩
  · exact StoredAlone.known_append halone.known (haddrs.trans (List.append_nil _).symm)
  · by_cases hi : i = place
    · subst hi
      refine ⟨f dev, ?_, (hgroup dev hdev rfl).trans hstored⟩
      show (h.devices.modify i f)[i]? = some (f dev)
      rw [List.getElem?_modify_eq, hdev]
      rfl
    · refine ⟨dev, ?_, hstored⟩
      show (h.devices.modify i f)[place]? = some dev
      rw [List.getElem?_modify_ne _ _ hi, hdev]

/-- A report of the node, or of one it does not hear the frames of, leaves the record. -/
theorem StoredAlone.handleIdentify {m : Mac} {g : UInt8} (hg : g ≠ 0) {place : Nat} {h : Host}
    (halone : StoredAlone m g place h) (discovering : Bool) {report : NodeReport}
    (hreport : report.mac = m ∨ ¬ m.SharesReceiver report.mac.val) (r : IdentifyReply) :
    StoredAlone m g place (handleIdentify discovering (report.read r) h) := by
  have hgroups := handleIdentify_groups discovering (report.read r) h
  cases hknown : getDeviceFromAddress h.devices (report.read r).mac12 with
  | none =>
    obtain ⟨dev, -, hdevices⟩ :
        ∃ dev, dev.addr = (report.read r).mac12 ∧
          (RaceLink.handleIdentify discovering (report.read r) h).devices = h.devices ++ [dev] :=
      handleIdentify_unknown hknown
    have haddrs : (RaceLink.handleIdentify discovering (report.read r) h).addrs
        = h.addrs ++ [report.mac.val] := by
      rw [addrs_handleIdentify, hknown]
      rfl
    obtain ⟨dev₀, hdev₀, hstored⟩ := halone.stored
    refine ⟨StoredAlone.known_append halone.known haddrs, ⟨dev₀, ?_, hstored⟩,
      fun j addr hj hshares => ?_, hgroups ▸ halone.listed⟩
    · rw [hdevices]
      exact Lts.log_getElem? hdev₀
    · rw [haddrs, List.getElem?_append] at hj
      split at hj
      · exact halone.only j addr hj hshares
      · -- the new record is not the node's, so the node does not hear its frames
        have haddr' : addr = report.mac.val :=
          List.mem_singleton.mp (List.mem_of_getElem? hj)
        rw [haddr'] at hshares
        rcases hreport with hmac | hapart
        · have hsome := halone.known
          rw [← hmac] at hsome
          exact absurd (hknown.symm.trans hsome) (by simp)
        · exact absurd hshares hapart
  | some i =>
    rw [handleIdentify_known hknown]
    refine halone.modify i (addr_afterReport _ _ _) fun d hd _ => ?_
    obtain ⟨dev, hdev, hstored⟩ := halone.stored
    obtain rfl : d = dev := Option.some.inj (hd.symm.trans hdev)
    have hpos : 0 < g.toNat := by
      rcases Nat.eq_zero_or_pos g.toNat with h0 | h0
      · exact absurd (UInt8.toNat_inj.mp h0) hg
      · exact h0
    have hlt := g.toNat_lt
    have hlisted := halone.listed
    exact groupId_afterReport (by omega) (by omega) _ _

/-- A send leaves the record, and what the node hears of it is the group of the record. -/
theorem holds_sendSetGroup {m : Mac} {g : UInt8} {place : Nat} {s : GroupField}
    (h : s.Holds m g place) {send : Device → List SetGroupFrame × Device} (hsend : SendsGroup send)
    (i : Nat) : (s.sendSetGroup send i).Holds m g place := by
  refine ⟨h.alone.modify i hsend.addr fun d _ _ => hsend.groupId d, h.node, fun f hf hhears => ?_,
    h.reports⟩
  rcases mem_sendSetGroup hsend hf with hf | ⟨dev, hdev, hrecv3, hgroup⟩
  · exact h.frames f hf hhears
  · have haddr : s.host.addrs[i]? = some dev.addr := by
      rw [Host.addrs, List.getElem?_map, hdev, Option.map_some]
    obtain rfl := h.alone.only i dev.addr haddr ⟨f.recv3, hrecv3, hhears⟩
    obtain ⟨dev', hdev', hstored⟩ := h.alone.stored
    obtain rfl : dev = dev' := Option.some.inj (hdev.symm.trans hdev')
    rw [hgroup, hstored, byteOf_toNat]

theorem holds_handleReport {m : Mac} {g : UInt8} (hg : g ≠ 0) {place : Nat} {s : GroupField}
    (h : s.Holds m g place) (discovering : Bool) {report : NodeReport}
    (hreport : report.mac = m ∨ ¬ m.SharesReceiver report.mac.val) (r : IdentifyReply)
    (now marked : Rat) :
    (s.handleReport discovering (report.read r) now marked).Holds m g place := by
  have halone := h.alone.handleIdentify hg discovering hreport r
  by_cases hwants : ∃ i, s.Wants discovering report i
  · obtain ⟨i, hwants⟩ := hwants
    rw [handleReport_of_wants hwants]
    unfold GroupField.spawnAutoReassign GroupField.heard
    dsimp only
    split <;> exact ⟨halone, h.node, h.frames, h.reports⟩
  · rw [handleReport_of_not_wants (not_exists.mp hwants)]
    exact ⟨halone, h.node, h.frames, h.reports⟩

/-- One event keeps what holds of the node. -/
theorem holds_step {m : Mac} {g : UInt8} (hg : g ≠ 0) {place : Nat} {s s' : GroupField}
    {e : FieldEvent} (h : s.Holds m g place) (hsettled : s.Settled m g place e)
    (hstep : s.step e = some s') : s'.Holds m g place := by
  cases e with
  | reboot mac =>
    cases hstep
    refine ⟨h.alone, ?_, h.frames, h.reports⟩
    by_cases hmac : m = mac
    · exact .inl (by rw [hmac]; exact Function.update_self _ _ _)
    · dsimp only
      rw [Function.update_of_ne hmac]
      exact h.node
  | report mac =>
    cases hstep
    refine ⟨h.alone, h.node, h.frames, fun report hreport => ?_⟩
    rcases List.mem_append.mp hreport with hreport | hreport
    · exact h.reports report hreport
    · rw [List.mem_singleton.mp hreport]
      exact hsettled
  | identify i discovering r now marked =>
    obtain ⟨report, hreport, rfl⟩ := Option.map_eq_some_iff.mp hstep
    have htaken : GroupField.Holds m g place { s with reports := s.reports.eraseIdx i } :=
      ⟨h.alone, h.node, h.frames, fun report' hreport' =>
        h.reports report' (List.mem_of_mem_eraseIdx hreport')⟩
    exact holds_handleReport hg htaken discovering (h.reports report (List.mem_of_getElem? hreport))
      r now marked
  | loseReport i =>
    cases hstep
    exact ⟨h.alone, h.node, h.frames, fun report hreport =>
      h.reports report (List.mem_of_mem_eraseIdx hreport)⟩
  | worker k attempts now outcome =>
    obtain ⟨i, -, rfl⟩ := Option.map_eq_some_iff.mp hstep
    have htaken : GroupField.Holds m g place { s with workers := s.workers.eraseIdx k } :=
      ⟨h.alone, h.node, h.frames, h.reports⟩
    exact holds_sendSetGroup htaken (sendsGroup_autoRestoreWorker attempts now outcome) i
  | setNodeGroupId i attempts now outcome =>
    cases hstep
    exact holds_sendSetGroup h (sendsGroup_routeSend attempts now outcome) i
  | deliver j =>
    obtain ⟨f, hf, rfl⟩ := Option.map_eq_some_iff.mp hstep
    have hf := List.mem_of_getElem? hf
    refine ⟨h.alone, ?_, fun f' hf' => h.frames f' (List.mem_of_mem_eraseIdx hf'), h.reports⟩
    dsimp only
    split
    · next hhears => exact .inr (h.frames f hf hhears)
    · exact h.node
  | loseFrame j =>
    cases hstep
    exact ⟨h.alone, h.node, fun f hf => h.frames f (List.mem_of_mem_eraseIdx hf), h.reports⟩
  | records e =>
    obtain ⟨hroute, host, hhost, rfl⟩ := step_records hstep
    have haddrs := addrs_groupStep hroute hhost
    obtain ⟨hstored, hlisted⟩ := hsettled host hhost
    refine ⟨⟨?_, hstored, fun j addr hj => h.alone.only j addr (haddrs ▸ hj), hlisted⟩, h.node,
      h.frames, h.reports⟩
    exact StoredAlone.known_append h.alone.known (haddrs.trans (List.append_nil _).symm)

/-- The last report is handled. -/
theorem step_identify_last (s : GroupField) (report : NodeReport) (discovering : Bool)
    (r : IdentifyReply) (now marked : Rat) :
    GroupField.step { s with reports := s.reports ++ [report] }
        (.identify s.reports.length discovering r now marked)
      = some (s.handleReport discovering (report.read r) now marked) := by
  have hlast : (s.reports ++ [report]).eraseIdx s.reports.length = s.reports := by
    rw [List.eraseIdx_append_of_length_le (le_refl _), Nat.sub_self, List.eraseIdx_cons_zero,
      List.append_nil]
  simp only [GroupField.step, List.getElem?_concat_length, Option.map_some, hlast]

/-- The last worker runs. -/
theorem step_worker_last (s : GroupField) (place attempts : Nat) (now : PyVal)
    (outcome : SetGroupOutcome) :
    GroupField.step { s with workers := s.workers ++ [place] }
        (.worker s.workers.length attempts now outcome)
      = some (s.sendSetGroup (autoRestoreWorker attempts now outcome) place) := by
  have hlast : (s.workers ++ [place]).eraseIdx s.workers.length = s.workers := by
    rw [List.eraseIdx_append_of_length_le (le_refl _), Nat.sub_self, List.eraseIdx_cons_zero,
      List.append_nil]
  simp only [GroupField.step, List.getElem?_concat_length, Option.map_some, hlast]

theorem setGroup_acked {dev : Device} {recv3 : List UInt8}
    (hrecv3 : macLast3FromHex dev.addr = .ok recv3) :
    (autoRestoreWorker 1 .null .acked dev).1 = [⟨recv3, byteOf dev.groupId⟩] := by
  have hsent : ∃ left, setNodeGroupId 1 .null .acked dev
      = .ok ([⟨recv3, byteOf dev.groupId⟩], true, left) := by
    unfold setNodeGroupId
    rw [hrecv3]
    simp only [bind, Except.bind]
    by_cases hbroadcast : recv3 = broadcastRecv3
    · rw [if_pos hbroadcast]
      exact ⟨_, rfl⟩
    · rw [if_neg hbroadcast]
      exact ⟨_, rfl⟩
  obtain ⟨left, hsent⟩ := hsent
  unfold autoRestoreWorker
  rw [hsent]

/-- The way back into the group: a report, the worker it starts, and its frame. -/
def wayBack (m : Mac) (s : GroupField) (now : Rat) : List FieldEvent :=
  [.report m, .identify s.reports.length false bareReply now now,
    .worker s.workers.length 1 .null .acked, .deliver s.setGroups.length]

/-- **The way back**: a node in group 0 that reports when the cooldown is over, to a host that is
not discovering, and hears what is sent, is in its group. -/
theorem wayBack_restores {m : Mac} {g : UInt8} (hg : g ≠ 0) {place : Nat} {s : GroupField}
    (h : s.Holds m g place) (hrecalled : s.Recalled) (hzero : s.nodes m = 0) {now : Rat}
    (hnow : s.clock + autoReassignCooldown ≤ now) (init : GroupField) :
    ∃ s', Lts.run (fieldSystem init) s (wayBack m s now) = some s' ∧ s'.nodes m = g := by
  have hpos : 0 < g.toNat := by
    rcases Nat.eq_zero_or_pos g.toNat with h0 | h0
    · exact absurd (UInt8.toNat_inj.mp h0) hg
    · exact h0
  have hlt := g.toNat_lt
  have hlisted := h.alone.listed
  obtain ⟨dev, hdev, hstored⟩ := h.alone.stored
  obtain ⟨dev', hdev', haddr⟩ := getDeviceFromAddress_mac h.alone.known
  obtain rfl : dev' = dev := Option.some.inj (hdev'.symm.trans hdev)
  have hwants : s.Wants false ⟨m, 0⟩ place :=
    ⟨rfl, rfl, h.alone.known, dev', hdev, by omega, by omega⟩
  have hle : s.clock ≤ now := by
    have hcooldown : (0 : Rat) ≤ autoReassignCooldown := by decide +kernel
    linarith
  -- the cooldown is over, whoever was served
  have hfresh : Cooldown.rests autoReassignCooldown 0 now
      (Cooldown.prune autoReassignExpiry now s.recent) m.val = false := by
    rw [Bool.eq_false_iff]
    intro hrests
    obtain ⟨ts, hmem, hts⟩ := (hrecalled.rests_iff hle m.val).mp hrests
    have hpast : ts ≤ s.clock := hrecalled.recalls.past _ hmem
    linarith
  let r := NodeReport.read ⟨m, 0⟩ bareReply
  let after := dev'.afterReport s.host.groups.length false r
  have hafter : (handleIdentify false r s.host).devices[place]? = some after :=
    handleIdentify_getElem? h.alone.known hdev
  have hgroup : byteOf after.groupId = g := by
    rw [groupId_afterReport (by omega) (by omega), hstored, byteOf_toNat]
  obtain ⟨recv3, hrecv3, hhears⟩ := m.sharesReceiver_self
  have haddr' : upper after.addr = m.val := by rw [addr_afterReport, haddr]
  have hrecv3' : macLast3FromHex after.addr = .ok recv3 := by
    rw [macLast3FromHex_upper haddr', hrecv3]
  have hframes : ((handleIdentify false r s.host).devices[place]?.map fun dev =>
      (autoRestoreWorker 1 .null .acked dev).1).getD [] = [⟨recv3, g⟩] := by
    rw [hafter, Option.map_some, setGroup_acked hrecv3', hgroup, Option.getD_some]
  -- the four events, one by one
  have hreport : s.step (.report m) = some { s with reports := s.reports ++ [⟨m, 0⟩] } := by
    rw [GroupField.step, hzero]
  let served : GroupField :=
    { s.heard false r now with
      recent := Cooldown.mark (Cooldown.prune autoReassignExpiry now s.recent) m.val now
      restores := s.restores ++ [(m.val, now)] }
  have hidentify : GroupField.step { s with reports := s.reports ++ [⟨m, 0⟩] }
      (.identify s.reports.length false bareReply now now)
        = some { served with workers := served.workers ++ [place] } := by
    rw [step_identify_last, handleReport_of_wants hwants]
    unfold GroupField.spawnAutoReassign
    dsimp only [GroupField.heard]
    rw [hfresh]
    rfl
  have hworker := step_worker_last served place 1 .null .acked
  have hdeliver : ∀ t : GroupField, t.setGroups = s.setGroups ++ [⟨recv3, g⟩] →
      ∃ t', t.step (.deliver s.setGroups.length) = some t' ∧ t'.nodes m = g := by
    intro t ht
    refine ⟨_, by rw [GroupField.step, ht, List.getElem?_concat_length, Option.map_some], ?_⟩
    exact if_pos hhears
  obtain ⟨s', hs', hnode⟩ := hdeliver (served.sendSetGroup (autoRestoreWorker 1 .null .acked) place)
    (by rw [GroupField.sendSetGroup]; exact congrArg (s.setGroups ++ ·) hframes)
  refine ⟨s', ?_, hnode⟩
  calc Lts.run (fieldSystem init) s (wayBack m s now)
      = (s.step (.report m)).bind fun t₁ =>
          (t₁.step (.identify s.reports.length false bareReply now now)).bind fun t₂ =>
          (t₂.step (.worker s.workers.length 1 .null .acked)).bind fun t₃ =>
          (t₃.step (.deliver s.setGroups.length)).bind some := rfl
    _ = some s' := by
      rw [hreport, Option.bind_some, hidentify, Option.bind_some]
      have hplace : s.workers.length = served.workers.length := rfl
      rw [hplace, hworker, Option.bind_some, hs', Option.bind_some]

theorem timely_of_settled {m : Mac} {g : UInt8} {place : Nat} {s : GroupField} {e : FieldEvent}
    (h : s.Settled m g place e) : s.Timely e := by
  cases e with
  | records e => trivial
  | identify i discovering r now marked => exact h
  | reboot mac => trivial
  | report mac => trivial
  | loseReport i => trivial
  | worker k attempts now outcome => trivial
  | setNodeGroupId place attempts now outcome => trivial
  | deliver j => trivial
  | loseFrame j => trivial

/-- **Stored groups come back.**  While the routes leave the record of a node its group, and the
group on the list, the node is in group 0 or in the group of its record, and there is always a way
back into that group.  No other record and no other node that reports has its receiver. -/
theorem storedGroup_restored (m : Mac) (g : UInt8) (hg : g ≠ 0) (place : Nat) (host : Host)
    (halone : StoredAlone m g place host) (nodes : Mac → UInt8) (hnode : nodes m = 0 ∨ nodes m = g)
    (clock : Rat) (hclock : autoReassignCooldown ≤ clock) (s : GroupField)
    (hreach : Lts.ReachableBy (fieldSystem (.start host nodes clock))
      (GroupField.Settled m g place) s) :
    (s.nodes m = 0 ∨ s.nodes m = g) ∧
    ∃ events s', Lts.RunMeets (fieldSystem (.start host nodes clock))
        (GroupField.Settled m g place) s events ∧
      Lts.run (fieldSystem (.start host nodes clock)) s events = some s' ∧ s'.nodes m = g := by
  have hinit : (GroupField.start host nodes clock).Holds m g place ∧
      (GroupField.start host nodes clock).Recalled :=
    ⟨⟨halone, hnode, List.forall_mem_nil _, List.forall_mem_nil _⟩, .empty, hclock⟩
  obtain ⟨hholds, hrecalled⟩ := hreach.invariant (P := fun s => s.Holds m g place ∧ s.Recalled)
    hinit fun s e s' h hsettled hstep => ⟨holds_step hg h.1 hsettled hstep,
      recalled_step h.2 (timely_of_settled hsettled) hstep⟩
  refine ⟨hholds.node, ?_⟩
  rcases hholds.node with hzero | hback
  · obtain ⟨s', hrun, hback⟩ := wayBack_restores hg hholds hrecalled hzero (le_refl _)
      (.start host nodes clock)
    refine ⟨wayBack m s (s.clock + autoReassignCooldown), s', ?_, hrun, hback⟩
    have hlater : s.clock ≤ s.clock + autoReassignCooldown := by
      have hcooldown : (0 : Rat) ≤ autoReassignCooldown := by decide +kernel
      linarith
    refine ⟨.inl rfl, fun t ht => ?_⟩
    obtain rfl := Option.some.inj ht
    exact ⟨⟨hlater, le_refl _⟩, fun _ _ => ⟨trivial, fun _ _ => ⟨trivial, fun _ _ => trivial⟩⟩⟩
  · exact ⟨[], s, trivial, rfl, hback⟩

/-- The node of group 1 starts anew, group 2 is deleted, and the report of the node is lost. -/
def laneRun : List FieldEvent :=
  [.reboot laneNode, .records (.delete (envKnowing []) 2), .report laneNode, .loseReport 0]

theorem storedGroup_restored_lane : ∃ s,
    Lts.run (fieldSystem (.start (hostWith 1) (fun _ => 1) 2))
        (.start (hostWith 1) (fun _ => 1) 2) laneRun
      = some s ∧ s.nodes laneNode = 0 ∧
    ∃ events s', Lts.run (fieldSystem (.start (hostWith 1) (fun _ => 1) 2)) s events = some s' ∧
      s'.nodes laneNode = 1 := by
  have halone : StoredAlone laneNode 1 0 (hostWith 1) := by
    refine ⟨by decide +kernel, ⟨deviceIn 1, rfl, rfl⟩, fun j addr hj _ => ?_, by decide +kernel⟩
    obtain ⟨hlt, -⟩ := List.getElem?_eq_some_iff.mp hj
    exact Nat.lt_one_iff.mp hlt
  let sys := fieldSystem (.start (hostWith 1) (fun _ => 1) 2)
  have hrun : ((Lts.run sys sys.init laneRun).map fun s => s.nodes laneNode) = some 0 := by
    decide +kernel
  obtain ⟨s, hs, hzero⟩ := Option.map_eq_some_iff.mp hrun
  have hdeleted : ∃ h, groupStep (hostWith 1) (.delete (envKnowing []) 2) = some h ∧
      (h.devices[0]?).map (·.groupId) = some 1 ∧ h.groups.length = 2 := by
    refine ⟨(groupStep (hostWith 1) (.delete (envKnowing []) 2)).get rfl,
      (Option.some_get _).symm, by decide +kernel, by decide +kernel⟩
  obtain ⟨deleted, hdeleted, hgroup, hlength⟩ := hdeleted
  obtain ⟨dev, hdev, hstored⟩ := Option.map_eq_some_iff.mp hgroup
  have hmeets : Lts.RunMeets sys (GroupField.Settled laneNode 1 0) sys.init laneRun := by
    refine ⟨trivial, fun s₁ hs₁ => ⟨fun h hh => ?_, fun _ _ =>
      ⟨.inl rfl, fun _ _ => ⟨trivial, fun _ _ => trivial⟩⟩⟩⟩
    obtain rfl := Option.some.inj hs₁
    obtain rfl : deleted = h := Option.some.inj (hdeleted.symm.trans hh)
    exact ⟨⟨dev, hdev, hstored⟩, by rw [hlength]; decide⟩
  obtain ⟨-, events, s', -, hrun, hback⟩ := storedGroup_restored laneNode 1 (by decide) 0
    (hostWith 1) halone (fun _ => 1) (.inr rfl) 2 (le_refl _) s (.of_run .init hmeets hs)
  exact ⟨s, hs, hzero, events, s', hrun, hback⟩

/-! ## 8. A node with a group is left in it -/

/-- The node does not start anew, nodes whose frames it hears do not report, and no route sends to
it; the records change as they like. -/
def GroupField.Leaves (m : Mac) (s : GroupField) : FieldEvent → Prop
  | .reboot mac => mac ≠ m
  | .report mac => mac = m ∨ ¬ m.SharesReceiver mac.val
  | .setNodeGroupId place _ _ _ =>
    ∀ addr, s.host.addrs[place]? = some addr → ¬ m.SharesReceiver addr
  | _ => True

/-- What holds of a node that is left in its group. -/
structure GroupField.Left (m : Mac) (g : UInt8) (s : GroupField) : Prop where
  node : s.nodes m = g
  frames : ∀ f ∈ s.setGroups, ¬ m.Hears f.recv3
  workers : ∀ place ∈ s.workers, ∃ addr, s.host.addrs[place]? = some addr ∧
    ¬ m.SharesReceiver addr
  reports : ∀ report ∈ s.reports,
    report.mac = m ∧ report.groupId = g ∨ ¬ m.SharesReceiver report.mac.val

/-- A report adds addresses at most. -/
theorem addrs_heard (s : GroupField) (discovering : Bool) (r : IdentifyReply) (marked : Rat) :
    ∃ new, (s.heard discovering r marked).host.addrs = s.host.addrs ++ new := by
  unfold GroupField.heard
  dsimp only
  rw [addrs_handleIdentify]
  split
  · exact ⟨[], (List.append_nil _).symm⟩
  · exact ⟨_, rfl⟩

theorem left_heard {m : Mac} {g : UInt8} {s : GroupField} (h : s.Left m g) (discovering : Bool)
    (r : IdentifyReply) (marked : Rat) : (s.heard discovering r marked).Left m g := by
  obtain ⟨new, hnew⟩ := addrs_heard s discovering r marked
  refine ⟨h.node, h.frames, fun place hplace => ?_, h.reports⟩
  obtain ⟨addr, haddr, hapart⟩ := h.workers place hplace
  exact ⟨addr, by rw [hnew]; exact Lts.log_getElem? haddr, hapart⟩

/-- The worker of a report is not for the node: the node's own reports give a group. -/
theorem left_handleReport {m : Mac} {g : UInt8} (hg : g ≠ 0) {s : GroupField} (h : s.Left m g)
    (discovering : Bool) {report : NodeReport}
    (hreport : report.mac = m ∧ report.groupId = g ∨ ¬ m.SharesReceiver report.mac.val)
    (r : IdentifyReply) (now marked : Rat) :
    (s.handleReport discovering (report.read r) now marked).Left m g := by
  by_cases hwants : ∃ place, s.Wants discovering report place
  · obtain ⟨place, hwants⟩ := hwants
    rcases hreport with ⟨-, hgroup⟩ | hapart
    · exact absurd (hgroup.symm.trans hwants.unconfigured) hg
    obtain ⟨dev, hdev, haddr⟩ := getDeviceFromAddress_mac hwants.known
    have hplace : s.host.addrs[place]? = some dev.addr := by
      rw [Host.addrs, List.getElem?_map, hdev, Option.map_some]
    obtain ⟨new, hnew⟩ := addrs_heard s discovering (report.read r) marked
    have hheard := left_heard h discovering (report.read r) marked
    rw [handleReport_of_wants hwants]
    unfold GroupField.spawnAutoReassign
    dsimp only
    split
    · exact ⟨hheard.node, hheard.frames, hheard.workers, hheard.reports⟩
    · refine ⟨hheard.node, hheard.frames, fun place' hplace' => ?_, hheard.reports⟩
      rcases List.mem_append.mp hplace' with hplace' | hplace'
      · exact hheard.workers place' hplace'
      · rw [List.mem_singleton.mp hplace']
        refine ⟨dev.addr, ?_, fun hshares => hapart ((sharesReceiver_upper haddr).mp hshares)⟩
        show (s.heard discovering (report.read r) marked).host.addrs[place]? = _
        rw [hnew]
        exact Lts.log_getElem? hplace
  · rw [handleReport_of_not_wants (not_exists.mp hwants)]
    exact left_heard h discovering _ marked

/-- A send to an address that is not the node's sends it nothing. -/
theorem left_sendSetGroup {m : Mac} {g : UInt8} {s : GroupField} (h : s.Left m g)
    {send : Device → List SetGroupFrame × Device} (hsend : SendsGroup send) {place : Nat}
    (hapart : ∀ addr, s.host.addrs[place]? = some addr → ¬ m.SharesReceiver addr) :
    (s.sendSetGroup send place).Left m g := by
  refine ⟨h.node, fun f hf hhears => ?_, fun place' hplace' => ?_, h.reports⟩
  · rcases mem_sendSetGroup hsend hf with hf | ⟨dev, hdev, hrecv3, -⟩
    · exact h.frames f hf hhears
    · refine hapart dev.addr ?_ ⟨f.recv3, hrecv3, hhears⟩
      rw [Host.addrs, List.getElem?_map, hdev, Option.map_some]
  · rw [addrs_sendSetGroup s hsend place]
    exact h.workers place' hplace'

theorem left_step {m : Mac} {g : UInt8} (hg : g ≠ 0) {s s' : GroupField} {e : FieldEvent}
    (h : s.Left m g) (hleaves : s.Leaves m e) (hstep : s.step e = some s') : s'.Left m g := by
  cases e with
  | reboot mac =>
    cases hstep
    refine ⟨?_, h.frames, h.workers, h.reports⟩
    dsimp only
    rw [Function.update_of_ne (Ne.symm hleaves)]
    exact h.node
  | report mac =>
    cases hstep
    refine ⟨h.node, h.frames, h.workers, fun report hreport => ?_⟩
    rcases List.mem_append.mp hreport with hreport | hreport
    · exact h.reports report hreport
    · rw [List.mem_singleton.mp hreport]
      rcases hleaves with hmac | hapart
      · exact .inl ⟨hmac, by rw [hmac]; exact h.node⟩
      · exact .inr hapart
  | identify i discovering r now marked =>
    obtain ⟨report, hreport, rfl⟩ := Option.map_eq_some_iff.mp hstep
    have htaken : GroupField.Left m g { s with reports := s.reports.eraseIdx i } :=
      ⟨h.node, h.frames, h.workers, fun report' hreport' =>
        h.reports report' (List.mem_of_mem_eraseIdx hreport')⟩
    exact left_handleReport hg htaken discovering (h.reports report (List.mem_of_getElem? hreport))
      r now marked
  | loseReport i =>
    cases hstep
    exact ⟨h.node, h.frames, h.workers, fun report hreport =>
      h.reports report (List.mem_of_mem_eraseIdx hreport)⟩
  | worker k attempts now outcome =>
    obtain ⟨place, hplace, rfl⟩ := Option.map_eq_some_iff.mp hstep
    have htaken : GroupField.Left m g { s with workers := s.workers.eraseIdx k } :=
      ⟨h.node, h.frames, fun place' hplace' =>
        h.workers place' (List.mem_of_mem_eraseIdx hplace'), h.reports⟩
    obtain ⟨addr, haddr, hapart⟩ := h.workers place (List.mem_of_getElem? hplace)
    refine left_sendSetGroup htaken (sendsGroup_autoRestoreWorker attempts now outcome)
      fun addr' haddr' => ?_
    obtain rfl := Option.some.inj (haddr.symm.trans haddr')
    exact hapart
  | setNodeGroupId place attempts now outcome =>
    cases hstep
    exact left_sendSetGroup h (sendsGroup_routeSend attempts now outcome) hleaves
  | deliver j =>
    obtain ⟨f, hf, rfl⟩ := Option.map_eq_some_iff.mp hstep
    refine ⟨?_, fun f' hf' => h.frames f' (List.mem_of_mem_eraseIdx hf'), h.workers, h.reports⟩
    dsimp only
    rw [if_neg (h.frames f (List.mem_of_getElem? hf))]
    exact h.node
  | loseFrame j =>
    cases hstep
    exact ⟨h.node, fun f hf => h.frames f (List.mem_of_mem_eraseIdx hf), h.workers, h.reports⟩
  | records e =>
    obtain ⟨hroute, host, hhost, rfl⟩ := step_records hstep
    refine ⟨h.node, h.frames, fun place hplace => ?_, h.reports⟩
    obtain ⟨addr, haddr, hapart⟩ := h.workers place hplace
    exact ⟨addr, by rw [← haddr, ← addrs_groupStep hroute hhost], hapart⟩

/-- **A node with a group is left in it.**  Whatever the routes make of the records, and however
often the node reports, as long as it does not start anew, no route sends to it, and no other node
with its receiver reports: the restore does not tell it that its group has another number now. -/
theorem nodeGroup_stays (m : Mac) (host : Host) (nodes : Mac → UInt8) (hg : nodes m ≠ 0)
    (clock : Rat) (s : GroupField)
    (hreach : Lts.ReachableBy (fieldSystem (.start host nodes clock)) (GroupField.Leaves m) s) :
    s.nodes m = nodes m := by
  have hinit : (GroupField.start host nodes clock).Left m (nodes m) :=
    ⟨rfl, List.forall_mem_nil _, List.forall_mem_nil _, List.forall_mem_nil _⟩
  exact (hreach.invariant hinit fun _ _ _ => left_step hg).node

/-- Group 1 is deleted, so the node of group 2 is to be in group 1; it reports, and stays in
group 2. -/
theorem nodeGroup_stays_deleted : ∃ s,
    Lts.run (fieldSystem (.start (hostWith 2) (fun _ => 2) 2))
        (.start (hostWith 2) (fun _ => 2) 2) (.records (.delete (envKnowing []) 1) :: reportAt 10)
      = some s ∧ s.host.devices.map (·.groupId) = [1] ∧ s.workers = [] ∧
    s.nodes laneNode = 2 := by
  let sys := fieldSystem (.start (hostWith 2) (fun _ => 2) 2)
  have hrun : ((Lts.run sys sys.init
      (.records (.delete (envKnowing []) 1) :: reportAt 10)).map fun s =>
        (s.host.devices.map (·.groupId), s.workers)) = some ([1], []) := by decide +kernel
  obtain ⟨s, hs, hgroups⟩ := Option.map_eq_some_iff.mp hrun
  obtain ⟨hdevices, hworkers⟩ := Prod.mk.inj hgroups
  refine ⟨s, hs, hdevices, hworkers, nodeGroup_stays laneNode (hostWith 2) (fun _ => 2) (by decide)
    2 s (.of_run .init ?_ hs)⟩
  exact ⟨trivial, fun _ _ => ⟨.inl rfl, fun _ _ => ⟨trivial, fun _ _ => trivial⟩⟩⟩

end RaceLink
