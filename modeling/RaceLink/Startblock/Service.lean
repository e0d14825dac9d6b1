/-
# Startblock control

`send_startblock_control` turns the slots of a heat into payloads and streams them: all eight to a
group, or each to the first of the startblocks that shows it.  `send_stream` sends a payload until
every receiver has acknowledged it, three times at most; it reports how many were to acknowledge it
and how many did.

`unicast_streams` says which streams a unicast call makes, for any list of startblocks.  What
becomes of the reports is the subject of the next module.
-/
import RaceLink.Domain.Capabilities
import RaceLink.Gateway.Collect
import RaceLink.Startblock.Payload
import RaceLink.State.Persistence

namespace RaceLink

open Python Parse

/-! ## 1. `send_stream` -/

/-- What the host hears in the window after the k-th packet it has sent. -/
abbrev Air := Nat → Window

/-- What `send_stream` reports. -/
structure StreamResult where
  expected : Nat
  acked : Nat
  deriving DecidableEq

/-- `groupId` or `device` of `send_stream`. -/
inductive StreamTarget where
  | group (groupId : Int)
  | device (dev : Device)

/-- The devices a stream is for. -/
def StreamTarget.devices (repository : List Device) : StreamTarget → List Device
  | .group groupId => repository.filter fun dev => dev.groupId = groupId
  | .device dev => [dev]

def StreamTarget.isDevice : StreamTarget → Bool
  | .group _ => false
  | .device _ => true

/-- The address a stream is sent to. -/
def StreamTarget.recv3 : StreamTarget → Except PyErr (List UInt8)
  | .group _ => pure broadcastRecv3
  | .device dev => macLast3FromHex dev.addr

/-- The attempts of `send_stream`, of which so many are left: the addresses that have
acknowledged. -/
def streamAttempts (air : Air) (outcomes : TransportOutcomes) (recv3 data : List UInt8)
    (receivers : List (List UInt8)) :
    Nat → List (List UInt8) → Script Link (List (List UInt8))
  | 0, acked => pure acked
  | left + 1, acked => do
    let link ← Script.get
    let _ ← sendM2n outcomes opcStream recv3 data
    let acked := ackedIn receivers acked (air link.sent.length)
    if receivers.length ≤ acked.length then pure acked
    else streamAttempts air outcomes recv3 data receivers left acked

/-- `STREAM_MAX_ATTEMPTS`. -/
def streamMaxAttempts : Nat := 3

/-- `send_stream`.  Without a transport it returns an empty dictionary. -/
def sendStream (air : Air) (payload : List UInt8) (target : StreamTarget) :
    Script Link (Option StreamResult) := do
  let link ← Script.get
  match link.transport with
  | none => pure none
  | some outcomes => do
    Script.lift (raiseIf (payload.length > 128) [.text "payload too large (max 128 bytes)"])
    let receivers ← Script.lift (targetLast3 (target.devices link.devices))
    if receivers.length = 0 then pure (some ⟨0, 0⟩)
    else do
      let recv3 ← Script.lift target.recv3
      if recv3 = broadcastRecv3 ∧ target.isDevice then pure (some ⟨receivers.length, 0⟩)
      else do
        let acked ← streamAttempts air outcomes recv3 payload receivers streamMaxAttempts []
        pure (some ⟨receivers.length, acked.length⟩)

/-! ## 2. Slots and startblocks -/

/-- An entry of a slot list: slots are counted from 0. -/
structure SlotEntry where
  slot : Int
  callsign : String
  racechannel : String
  deriving DecidableEq

/-- What the service is wired to: the heat of the host, and the spelling of values that are no
strings. -/
structure StartblockEnv where
  currentHeat : List SlotEntry
  reprText : PyVal → String
  air : Air

namespace StartblockEnv

variable (env : StartblockEnv)

/-- An item of `normalize_slot_list`; `none` where it is passed over. -/
def normalizeSlot : PyVal → Except PyErr (Option SlotEntry)
  | .list (slot :: callsign :: racechannel :: _) => do
    let slot ← int slot
    pure (some ⟨slot, pyStr env.reprText (callsign.or (.str "")),
      pyStr env.reprText (racechannel.or (.str "--"))⟩)
  | .dict item => do
    let slot ← int (Dict.getD item "slot" (.int 0))
    pure (some ⟨slot, pyStr env.reprText ((Dict.getD item "callsign" (.str "")).or (.str "")),
      pyStr env.reprText ((Dict.getD item "racechannel" (.str "--")).or (.str "--"))⟩)
  | _ => pure none

/-- `normalize_slot_list`. -/
def normalizeSlotList (slotList : PyVal) : Except PyErr (List SlotEntry) := do
  let items ← listOf (slotList.or (.list []))
  let entries ← items.mapM env.normalizeSlot
  pure (entries.filterMap id)

/-- The slot list of a call: the current heat's, unless the parameters say otherwise. -/
def slotList (params : Dict) : Except PyErr (List SlotEntry) :=
  match Dict.get params "startblock_use_current_heat" with
  | .null => pure env.currentHeat
  | useHeat =>
    if useHeat.truthy then pure env.currentHeat
    else env.normalizeSlotList (Dict.get params "startblock_slot_list")

end StartblockEnv

/-- The pilot and the channel of a slot in `slot_map`: the last entry of a slot counts. -/
def slotLabel (slots : List SlotEntry) (slot0 : Int) : String × String :=
  match slots.reverse.find? fun entry => entry.slot = slot0 with
  | some entry => (entry.callsign, if entry.racechannel = "" then "--" else entry.racechannel)
  | none => ("", "--")

/-- The payload of a slot. -/
def slotPayload (slots : List SlotEntry) (slot0 : Int) : List UInt8 :=
  buildStartblockPayloadV1 (slot0 + 1) (slotLabel slots slot0).2 (slotLabel slots slot0).1

/-- `is_startblock_device`. -/
def Device.isStartblock (dev : Device) : Bool := decide (Cap.startblock ∈ devTypeCaps dev.caps)

/-- The first and the last slot of a startblock: all eight when it does not say. -/
def Device.slotRange (dev : Device) : Int × Int :=
  let (slotCount, firstSlot) :=
    match dev.specials.lookup "startblock_slots", dev.specials.lookup "startblock_first_slot" with
    | some slotCount, some firstSlot => (slotCount, firstSlot)
    | _, _ => (8, 1)
  let slotCount := clampTo 1 8 slotCount
  let firstSlot := clampTo 1 8 firstSlot
  (firstSlot, min 8 (firstSlot + slotCount - 1))

/-- The slots of `range(first, last + 1)`. -/
def slotsBetween (first last : Int) : List Int :=
  (List.range (last + 1 - first).toNat).map fun k : Nat => first + (k : Int)

/-- `d.setdefault(slot, dev)`. -/
def setDefault (slotToDev : List (Int × Device)) (slot : Int) (dev : Device) :
    List (Int × Device) :=
  if (slotToDev.lookup slot).isSome then slotToDev else slotToDev ++ [(slot, dev)]

/-- `slot_to_dev` of `_build_device_slot_mapping`. -/
def buildSlotToDev (devices : List Device) : List (Int × Device) :=
  devices.foldl (fun slotToDev dev =>
    (slotsBetween dev.slotRange.1 dev.slotRange.2).foldl (fun slotToDev slot =>
      setDefault slotToDev slot dev) slotToDev) []

/-! ## 3. `send_startblock_control` -/

/-- A call of `send_stream`. -/
structure StreamCall where
  slot : Int
  payload : List UInt8
  target : StreamTarget

/-- The streams to a group: one for each slot. -/
def groupStreams (groupId : Int) (slots : List SlotEntry) : List StreamCall :=
  (List.range 8).map fun slot0 : Nat => ⟨slot0 + 1, slotPayload slots slot0, .group groupId⟩

/-- The streams to startblocks: one for each slot that is shown. -/
def unicastStreams (devices : List Device) (slots : List SlotEntry) : List StreamCall :=
  (List.range 8).filterMap fun slot0 : Nat =>
    ((buildSlotToDev devices).lookup ((slot0 : Int) + 1)).map fun dev =>
      ⟨slot0 + 1, slotPayload slots slot0, .device dev⟩

/-- An entry of `sent`. -/
structure SentSlot where
  slot : Int
  result : Option StreamResult

/-- The loop over the slots. -/
def sendStreams (air : Air) : List StreamCall → Script Link (List SentSlot)
  | [] => pure []
  | call :: calls => do
    let result ← sendStream air call.payload call.target
    let sent ← sendStreams air calls
    pure (⟨call.slot, result⟩ :: sent)

/-- What `send_startblock_control` returns. -/
inductive StartblockReply where
  /-- `{}` -/
  | notReady
  | error (text : String)
  | group (groupId : Int) (sent : List SentSlot)
  | unicast (ranges : List (Int × Int)) (sent : List SentSlot)

/-- `bool(...)` of it: only the empty dictionary is false. -/
def StartblockReply.truthy : StartblockReply → Bool
  | notReady => false
  | _ => true

/-- The streams to the devices of a call without a group. -/
def sendToDevices (env : StartblockEnv) (devices : List Device) (slots : List SlotEntry) :
    Script Link StartblockReply :=
  if devices.isEmpty then pure (.unicast [] [])
  else do
    let sent ← sendStreams env.air (unicastStreams devices slots)
    pure (.unicast (devices.map (·.slotRange)) sent)

/-- The streams of `send_startblock_control`, once it has its slots. -/
def sendSlots (env : StartblockEnv) (slots : List SlotEntry) (repository : List Device) :
    Option SendTarget → Script Link StartblockReply
  | some (.group groupId) => do
    let sent ← sendStreams env.air (groupStreams groupId slots)
    pure (.group groupId sent)
  | some (.device place) => do
    let dev ← deviceAt place
    if dev.isStartblock then sendToDevices env [dev] slots
    else pure (.error "targetDevice has no STARTBLOCK capability")
  | none => sendToDevices env (repository.filter (·.isStartblock)) slots

/-- `send_startblock_control`, for a group, a device or all startblocks. -/
def sendStartblockControl (env : StartblockEnv) (params : Dict) (target : Option SendTarget) :
    Script Link StartblockReply := do
  let link ← Script.get
  match link.transport with
  | none => pure .notReady
  | some _ => do
    let slots ← Script.lift (env.slotList params)
    sendSlots env slots link.devices target

/-! ## 4. Who shows a slot -/

/-- The startblock shows the slot. -/
def Device.Shows (dev : Device) (slot : Int) : Prop :=
  dev.slotRange.1 ≤ slot ∧ slot ≤ dev.slotRange.2

instance (dev : Device) (slot : Int) : Decidable (dev.Shows slot) :=
  inferInstanceAs (Decidable (_ ∧ _))

theorem mem_slotsBetween {first last slot : Int} :
    slot ∈ slotsBetween first last ↔ first ≤ slot ∧ slot ≤ last := by
  rw [slotsBetween, List.mem_map]
  constructor
  · rintro ⟨k, hk, rfl⟩
    have hk := List.mem_range.mp hk
    omega
  · rintro ⟨hfirst, hlast⟩
    exact ⟨(slot - first).toNat, List.mem_range.mpr (by omega), by omega⟩

theorem lookup_setDefault (slotToDev : List (Int × Device)) (slot slot' : Int) (dev : Device) :
    (setDefault slotToDev slot dev).lookup slot' =
      (slotToDev.lookup slot').or (if slot' = slot then some dev else none) := by
  have hone : [(slot, dev)].lookup slot' = if slot' = slot then some dev else none := by
    by_cases h : slot' = slot
    · simp [h]
    · have hne : (slot' == slot) = false := by simpa using h
      rw [List.lookup_cons, hne, if_neg h]
      rfl
  unfold setDefault
  split
  · next hsome =>
    by_cases h : slot' = slot
    · obtain ⟨old, hold⟩ := Option.isSome_iff_exists.mp hsome
      rw [h, hold, Option.some_or]
    · rw [if_neg h, Option.or_none]
  · rw [List.lookup_append, hone]

/-- One startblock takes the slots of its range that are free. -/
theorem lookup_foldl_setDefault (dev : Device) (slot : Int) (slots : List Int)
    (slotToDev : List (Int × Device)) :
    (slots.foldl (fun slotToDev slot => setDefault slotToDev slot dev) slotToDev).lookup slot =
      (slotToDev.lookup slot).or (if slot ∈ slots then some dev else none) := by
  induction slots generalizing slotToDev with
  | nil => simp
  | cons first slots ih =>
    rw [List.foldl_cons, ih, lookup_setDefault, Option.or_assoc]
    congr 1
    by_cases hfirst : slot = first <;> by_cases hslots : slot ∈ slots <;> simp [hfirst, hslots]

/-- **The mapping** gives a slot the first startblock that shows it. -/
theorem lookup_buildSlotToDev (devices : List Device) (slot : Int) :
    (buildSlotToDev devices).lookup slot = devices.find? fun dev => dev.Shows slot := by
  have hfold : ∀ slotToDev : List (Int × Device),
      (devices.foldl (fun slotToDev dev =>
        (slotsBetween dev.slotRange.1 dev.slotRange.2).foldl (fun slotToDev slot =>
          setDefault slotToDev slot dev) slotToDev) slotToDev).lookup slot =
      (slotToDev.lookup slot).or (devices.find? fun dev => dev.Shows slot) := by
    induction devices with
    | nil => simp
    | cons dev devices ih =>
      intro slotToDev
      rw [List.foldl_cons, ih, lookup_foldl_setDefault, Option.or_assoc, List.find?_cons]
      congr 1
      by_cases hshows : dev.Shows slot
      · rw [if_pos (mem_slotsBetween.mpr hshows), Option.some_or]
        simp [hshows]
      · rw [if_neg fun h => hshows (mem_slotsBetween.mp h), Option.none_or]
        simp [hshows]
  rw [buildSlotToDev, hfold]
  rfl

/-! ## 5. What a unicast call streams -/

/-- The payload of a slot says what it should: the slot, the first two characters of the padded
channel, and the cleaned name where the name is ASCII. -/
structure CarriesSlot (slots : List SlotEntry) (slot : Int) (payload : List UInt8) : Prop where
  short : payload.length ≤ 37
  reads : ∃ entry, parseStartblock payload = some entry ∧ entry.version = startblockVer ∧
    (entry.slot.toNat : Int) = slot ∧
    entry.channel = ((paddedChannel (slotLabel slots (slot - 1)).2).take 2).map asciiByte ∧
    (IsAscii (slotLabel slots (slot - 1)).1.toList →
      asciiText entry.name = (sanitizePilotName (slotLabel slots (slot - 1)).1 32).toList)

theorem carriesSlot_slotPayload (slots : List SlotEntry) {slot0 : Int} (h : 0 ≤ slot0 ∧ slot0 < 8) :
    CarriesSlot slots (slot0 + 1) (slotPayload slots slot0) := by
  obtain ⟨hparse, hshort⟩ := parseStartblock_build (slot0 + 1) (slotLabel slots slot0).2
    (slotLabel slots slot0).1
  have hslot : ((byteOf (clampTo 0 255 (slot0 + 1))).toNat : Int) = slot0 + 1 := by
    rw [clampTo_eq_self (by omega)]
    exact toNat_byteOf_eq (by omega)
  have hself : slot0 + 1 - 1 = slot0 := Int.add_sub_cancel slot0 1
  refine ⟨hshort, _, hparse, rfl, hslot, ?_, fun hascii => ?_⟩
  · rw [hself, encodeChannelFixed2]
  · rw [hself] at hascii ⊢
    dsimp only
    rw [asciiText_nameField hascii]

/-- The calls of a unicast: for each of the eight slots one to the first startblock that shows it,
and none when there is no such startblock. -/
structure OncePerSlot (devices : List Device) (slots : List SlotEntry) (calls : List StreamCall) :
    Prop where
  range : ∀ call ∈ calls, 1 ≤ call.slot ∧ call.slot ≤ 8
  once : ∀ slot : Int, 1 ≤ slot → slot ≤ 8 → ∃ payload, CarriesSlot slots slot payload ∧
    calls.filter (fun call => call.slot = slot) =
      ((devices.find? fun dev => dev.Shows slot).map fun dev =>
        (⟨slot, payload, .device dev⟩ : StreamCall)).toList

/-- Filtering by the slot picks one entry of the range. -/
theorem filter_slot_filterMap {f : Nat → Option StreamCall}
    (hf : ∀ k call, f k = some call → call.slot = (k : Int) + 1) {n k : Nat} (hk : k < n) :
    ((List.range n).filterMap f).filter (fun call => call.slot = (k : Int) + 1)
      = (f k).toList := by
  induction n with
  | zero => exact absurd hk (Nat.not_lt_zero k)
  | succ n ih =>
    have hlast : ((f n).toList).filter (fun call => call.slot = (k : Int) + 1)
        = if k = n then (f n).toList else [] := by
      cases hn : f n with
      | none => simp
      | some call =>
        have hslot := hf n call hn
        by_cases h : k = n
        · simp [hslot, h]
        · have hne : ¬ (n : Int) = k := by omega
          simp [hslot, h, hne]
    have hsingle : [n].filterMap f = (f n).toList := by
      rw [List.filterMap_cons]
      cases f n <;> rfl
    rw [List.range_succ, List.filterMap_append, List.filter_append, hsingle, hlast]
    by_cases h : k = n
    · subst h
      rw [if_pos rfl]
      have hnone : ((List.range k).filterMap f).filter (fun call => call.slot = (k : Int) + 1)
          = [] := by
        refine List.filter_eq_nil_iff.mpr fun call hcall => ?_
        obtain ⟨j, hj, hjcall⟩ := List.mem_filterMap.mp hcall
        have hslot := hf j call hjcall
        have hlt := List.mem_range.mp hj
        simp only [decide_eq_true_eq]
        omega
      rw [hnone, List.nil_append]
    · rw [if_neg h, List.append_nil]
      exact ih (by omega)

theorem oncePerSlot_unicastStreams (devices : List Device) (slots : List SlotEntry) :
    OncePerSlot devices slots (unicastStreams devices slots) := by
  have hslot : ∀ (k : Nat) (call : StreamCall),
      (((buildSlotToDev devices).lookup ((k : Int) + 1)).map fun dev =>
        (⟨k + 1, slotPayload slots k, .device dev⟩ : StreamCall)) = some call →
      call.slot = (k : Int) + 1 := by
    intro k call hcall
    obtain ⟨dev, -, rfl⟩ := Option.map_eq_some_iff.mp hcall
    rfl
  constructor
  · intro call hcall
    obtain ⟨k, hk, hkcall⟩ := List.mem_filterMap.mp hcall
    have hk := List.mem_range.mp hk
    have hkslot := hslot k call hkcall
    omega
  · intro slot hlow hhigh
    obtain ⟨k, rfl⟩ : ∃ k : Nat, slot = (k : Int) + 1 := ⟨(slot - 1).toNat, by omega⟩
    refine ⟨slotPayload slots k, carriesSlot_slotPayload slots ⟨by omega, by omega⟩, ?_⟩
    rw [unicastStreams, filter_slot_filterMap hslot (by omega : k < 8), lookup_buildSlotToDev]

/-- The startblocks of a call without a group: the one that is named, or all. -/
def unicastDevices (repository : List Device) : Option SendTarget → Option (List Device)
  | none => some (repository.filter (·.isStartblock))
  | some (.device place) => (repository[place]?.filter (·.isStartblock)).map fun dev => [dev]
  | some (.group _) => none

theorem unicastStreams_nil (slots : List SlotEntry) : unicastStreams [] slots = [] := by
  rfl

/-- The loop sends the calls one after the other. -/
theorem sendStreams_eq_mapM (air : Air) (calls : List StreamCall) :
    sendStreams air calls = calls.mapM fun call =>
      SentSlot.mk call.slot <$> sendStream air call.payload call.target := by
  have hlawful : LawfulMonad (Script Link) := Script.lawfulMonad
  induction calls with
  | nil => rfl
  | cons call calls ih =>
    rw [List.mapM_cons, ← ih, sendStreams, map_eq_pure_bind, bind_assoc]
    exact bind_congr fun result => (pure_bind _ _).symm

theorem sendToDevices_run (env : StartblockEnv) (devices : List Device) (slots : List SlotEntry)
    (link : Link) : ∃ ranges, sendToDevices env devices slots link = (do
      let sent ← (unicastStreams devices slots).mapM fun call : StreamCall =>
        SentSlot.mk call.slot <$> sendStream env.air call.payload call.target
      pure (StartblockReply.unicast ranges sent)) link := by
  simp only [← sendStreams_eq_mapM]
  cases devices with
  | nil => exact ⟨[], by rw [unicastStreams_nil]; rfl⟩
  | cons dev devices => exact ⟨_, rfl⟩

/-- The steps of a call before its streams. -/
theorem sendStartblockControl_run {env : StartblockEnv} {params : Dict} {link : Link}
    {outcomes : TransportOutcomes} {slots : List SlotEntry} (ht : link.transport = some outcomes)
    (hslots : env.slotList params = .ok slots) (target : Option SendTarget) :
    sendStartblockControl env params target link
      = sendSlots env slots link.devices target link := by
  rw [sendStartblockControl, Script.bind_of_ok (Script.get_run link)]
  simp only [ht]
  rw [hslots, Script.bind_of_ok (Script.lift_run _ _)]

theorem deviceAt_some {link : Link} {place : Nat} {dev : Device}
    (h : link.devices[place]? = some dev) : deviceAt place link = (.ok dev, link) := by
  rw [deviceAt, Script.bind_of_ok (Script.get_run link)]
  simp only [h]
  rfl

/-- **A unicast call** streams, for each of the slots 1 to 8 that some startblock shows, one payload
to the first that does, and nothing for the others: for any startblocks, whatever their specials
say, and any slot list.  The payload says the slot, the channel and the name. -/
theorem unicast_streams {env : StartblockEnv} {params : Dict} {target : Option SendTarget}
    {link : Link} {outcomes : TransportOutcomes} {slots : List SlotEntry} {devices : List Device}
    (ht : link.transport = some outcomes) (hslots : env.slotList params = .ok slots)
    (hdevices : unicastDevices link.devices target = some devices) :
    (∃ ranges, sendStartblockControl env params target link = (do
        let sent ← (unicastStreams devices slots).mapM fun call : StreamCall =>
          SentSlot.mk call.slot <$> sendStream env.air call.payload call.target
        pure (StartblockReply.unicast ranges sent)) link) ∧
      OncePerSlot devices slots (unicastStreams devices slots) := by
  refine ⟨?_, oncePerSlot_unicastStreams devices slots⟩
  rw [sendStartblockControl_run ht hslots]
  cases target with
  | none =>
    obtain rfl := Option.some.inj hdevices
    exact sendToDevices_run env _ slots link
  | some target =>
    cases target with
    | group groupId => cases hdevices
    | device place =>
      obtain ⟨dev, hdev, rfl⟩ := Option.map_eq_some_iff.mp hdevices
      obtain ⟨hplace, hcapable⟩ := Option.filter_eq_some_iff.mp hdev
      obtain ⟨ranges, hrun⟩ := sendToDevices_run env [dev] slots link
      refine ⟨ranges, ?_⟩
      rw [sendSlots, Script.bind_of_ok (deviceAt_some hplace), if_pos hcapable]
      exact hrun

/-- A startblock with these specials. -/
def startblockWith (addr : String) (groupId : Int) (specials : List (String × Int)) : Device :=
  { Device.init addr 50 "" groupId 0 50 0 0 0 with specials := specials }

/-- A host with this heat, in silence. -/
def silentHeat (slots : List SlotEntry) : StartblockEnv := ⟨slots, fun _ => "", fun _ => ⟨[], []⟩⟩

/-- Two startblocks, for the slots 1 to 3 and 3 to 8 (of 20 from the third on). -/
def splitBlocks : List Device :=
  [startblockWith "AABBCC000001" 1 [("startblock_slots", 3), ("startblock_first_slot", -4)],
    startblockWith "AABBCC000002" 1 [("startblock_slots", 20), ("startblock_first_slot", 3)]]

theorem unicast_streams_split :
    OncePerSlot splitBlocks [⟨2, "Pilot 42", "r1"⟩]
      (unicastStreams splitBlocks [⟨2, "Pilot 42", "r1"⟩]) := by
  have hslots : (silentHeat [⟨2, "Pilot 42", "r1"⟩]).slotList []
      = .ok [⟨2, "Pilot 42", "r1"⟩] := rfl
  have ht : (⟨splitBlocks, some fun _ => .success, []⟩ : Link).transport
      = some fun _ => .success := rfl
  have hdevices : unicastDevices splitBlocks none = some splitBlocks := rfl
  exact (unicast_streams ht hslots hdevices).2

example : (unicastStreams splitBlocks [⟨2, "Pilot 42", "r1"⟩]).map (fun call =>
      (call.slot, call.payload.length)) =
    [(1, 5), (2, 5), (3, 13), (4, 5), (5, 5), (6, 5), (7, 5), (8, 5)] := by
  decide +kernel

end RaceLink
