/-
# The senders

`ControlService` and the sync path: each turns the arguments of a planned packet into a body and
hands it to the transport.  The transport answers every send with a `SendOutcome`; here it is
given as the outcome of the k-th send, so a statement about all transports is one about all
sequences of outcomes.  What was sent, and how it went, is kept in a log.

A sender converts, reads the repository, sends and updates its cache, in this order or another.
What it puts on the wire does not depend on the order: section 3 says it as a pure function of
the arguments and of the devices' addresses and groups.  `Delivers` connects the two: the sender
returns `True` with that frame added to the log, or raises what the function raises.
-/
import RaceLink.Dispatch.Planner
import RaceLink.Python.Script
import RaceLink.Transport.SendSlot

namespace RaceLink

open Python

/-! ## 1. The transport -/

/-- A frame for the gateway. -/
structure Frame where
  typeFull : UInt8
  recv3 : List UInt8
  body : List UInt8
  deriving DecidableEq

/-- A frame handed to the transport, and its outcome. -/
structure SentPacket where
  frame : Frame
  outcome : SendOutcome
  deriving DecidableEq

/-- A transport, by the outcome of each send of its life. -/
abbrev TransportOutcomes := Nat → SendOutcome

/-- What a scene run works on: the device repository, the transport if there is one, and the log
of what it was handed. -/
structure Link where
  devices : List Device
  transport : Option TransportOutcomes
  sent : List SentPacket

/-- What `_send_m2n` checks before it writes: the receiver, and that the length fits in a byte. -/
def checkedFrame (typeFull : UInt8) (recv3 body : List UInt8) : Except PyErr Frame :=
  if recv3.length ≠ 3 then .error (.valueError [.text "recv3 must be 3 bytes"])
  else if body.length > 251 then .error (.valueError [.text "bytes must be in range(0, 256)"])
  else .ok ⟨typeFull, recv3, body⟩

/-- `_send_m2n`, as its callers see it. -/
def sendM2n (outcomes : TransportOutcomes) (typeFull : UInt8) (recv3 body : List UInt8) :
    Script Link SendOutcome := do
  let frame ← Script.lift (checkedFrame typeFull recv3 body)
  let link ← Script.get
  let outcome := outcomes link.sent.length
  Script.modify fun link => { link with sent := link.sent ++ [⟨frame, outcome⟩] }
  pure outcome

def opcPreset : UInt8 := 0x04
def opcSync : UInt8 := 0x06
def opcControl : UInt8 := 0x08
def opcOffset : UInt8 := 0x09

/-- The receiver of a packet for a group, or for all. -/
def broadcastRecv3 : List UInt8 := [0xFF, 0xFF, 0xFF]

/-- `mac_last3_from_hex`. -/
def macLast3FromHex (mac12 : String) : Except PyErr (List UInt8) :=
  let mac := upper (String.ofList ((strip mac12).toList.filter (· ≠ ':')))
  let mac := if mac.length < 6 then "FFFFFF" else mac
  bytesFromHex (String.ofList (mac.toList.drop (mac.length - 6)))

/-! ## 2. The senders -/

/-- The device at a place of the repository. -/
def deviceAt (place : Nat) : Script Link Device := do
  let link ← Script.get
  match link.devices[place]? with
  | some dev => pure dev
  | none => Script.lift (.error .attributeError)

/-- `device.flags`, `presetId` and `brightness`, as a sender sets them. -/
def Device.withPreset (flags presetId brightness : Int) (dev : Device) : Device :=
  { dev with flags := byteOf flags, presetId := byteOf presetId, brightness := byteOf brightness }

/-- `_require_transport`: without a transport a sender returns `False`. -/
def requireTransport (sender : TransportOutcomes → Script Link Bool) : Script Link Bool := do
  let link ← Script.get
  match link.transport with
  | none => pure false
  | some outcomes => sender outcomes

/-- `send_device_preset`, for given values. -/
def sendDevicePreset (place : Nat) (flags presetId brightness : Int) : Script Link Bool :=
  requireTransport fun outcomes => do
    let dev ← deviceAt place
    let recv3 ← Script.lift (macLast3FromHex dev.addr)
    -- the outcome is dropped, here and in the other senders
    let _ ← sendM2n outcomes opcPreset recv3
      (buildPresetBody dev.groupId flags presetId brightness)
    Script.modify fun link =>
      { link with devices := link.devices.modify place (·.withPreset flags presetId brightness) }
    pure true

/-- `_update_group_preset_cache`. -/
def updateGroupPresetCache (groupId flags presetId brightness : Int) (link : Link) : Link :=
  { link with devices := link.devices.map fun dev =>
      if dev.groupId % 256 = groupId then dev.withPreset flags presetId brightness else dev }

/-- `send_group_preset`, for given values. -/
def sendGroupPreset (groupId flags presetId brightness : Int) : Script Link Bool :=
  requireTransport fun outcomes => do
    Script.modify (updateGroupPresetCache (groupId % 256) flags presetId brightness)
    let _ ← sendM2n outcomes opcPreset broadcastRecv3
      (buildPresetBody (groupId % 256) flags presetId brightness)
    pure true

/-- The flags byte a sender derives: the power flag from the brightness, the user's flags from the
parameters. -/
def senderFlags (brightness : Int) (params : Dict) : Int :=
  buildFlagsByte (decide (brightness > 0)) true fun k => (Dict.get params k.key).truthy

/-- `send_wled_preset`. -/
def sendWledPreset (params : Dict) (target : SendTarget) : Script Link Bool := do
  let presetId ← Script.lift (int (Dict.getD params "presetId" (.int 1)))
  let brightness ← Script.lift (int (Dict.getD params "brightness" (.int 0)))
  let flags := senderFlags brightness params
  match target with
  | .group gid => sendGroupPreset gid flags presetId brightness
  | .device place => sendDevicePreset place flags presetId brightness

/-- `send_offset`, for a group. -/
def sendOffset (targetGroup : Int) (config : OffsetConfig) : Script Link Bool :=
  requireTransport fun outcomes => do
    let _ ← sendM2n outcomes opcOffset broadcastRecv3 (buildOffsetBody (targetGroup % 256) config)
    pure true

/-- `send_wled_control`. -/
def sendWledControl (params : Dict) (target : SendTarget) : Script Link Bool :=
  requireTransport fun outcomes => do
    let fields ← Script.lift (controlFields params)
    let flags := senderFlags (fields.brightness.getD 0) params
    match target with
    | .group gid =>
      let body ← Script.lift (buildControlBody (gid % 256) flags fields)
      let _ ← sendM2n outcomes opcControl broadcastRecv3 body
      pure true
    | .device place =>
      let dev ← deviceAt place
      let recv3 ← Script.lift (macLast3FromHex dev.addr)
      let body ← Script.lift (buildControlBody dev.groupId flags fields)
      let _ ← sendM2n outcomes opcControl recv3 body
      pure true

/-- `SyncService.send_sync` over `GatewayService.send_sync`; neither returns a value. -/
def sendSync (ts24 brightness : Int) (triggerArmed : Bool) : Script Link Unit := do
  let link ← Script.get
  match link.transport with
  | none => pure ()
  | some outcomes =>
    let flags := if triggerArmed then syncFlagTriggerArmed else 0
    let _ ← sendM2n outcomes opcSync broadcastRecv3
      (buildSyncBody (ts24 % 0x1000000) (brightness % 256) flags)
    pure ()

/-! ## 3. What goes on the wire -/

/-- What a packet takes from a device. -/
structure WireId where
  addr : String
  groupId : Int

def Device.wireId (dev : Device) : WireId := ⟨dev.addr, dev.groupId⟩

def Link.wireIds (link : Link) : List WireId := link.devices.map (·.wireId)

/-- The receiver and the group byte of a target. -/
def receiverOf (ids : List WireId) : SendTarget → Except PyErr (List UInt8 × Int)
  | .group gid => pure (broadcastRecv3, gid % 256)
  | .device place =>
    match ids[place]? with
    | some id => do
      let recv3 ← macLast3FromHex id.addr
      pure (recv3, id.groupId)
    | none => .error .attributeError

/-- The frame of `send_wled_preset`. -/
def presetFrame (ids : List WireId) (params : Dict) (target : SendTarget) :
    Except PyErr Frame := do
  let presetId ← int (Dict.getD params "presetId" (.int 1))
  let brightness ← int (Dict.getD params "brightness" (.int 0))
  let receiver ← receiverOf ids target
  checkedFrame opcPreset receiver.1
    (buildPresetBody receiver.2 (senderFlags brightness params) presetId brightness)

/-- The frame of `send_offset`. -/
def offsetFrame (targetGroup : Int) (config : OffsetConfig) : Except PyErr Frame :=
  checkedFrame opcOffset broadcastRecv3 (buildOffsetBody (targetGroup % 256) config)

/-- The frame of `send_wled_control`. -/
def controlFrame (ids : List WireId) (params : Dict) (target : SendTarget) :
    Except PyErr Frame := do
  let fields ← controlFields params
  let receiver ← receiverOf ids target
  let body ← buildControlBody receiver.2 (senderFlags (fields.brightness.getD 0) params) fields
  checkedFrame opcControl receiver.1 body

/-- The frame of `send_sync`. -/
def syncFrame (ts24 brightness : Int) (triggerArmed : Bool) : Except PyErr Frame :=
  checkedFrame opcSync broadcastRecv3
    (buildSyncBody (ts24 % 0x1000000) (brightness % 256)
      (if triggerArmed then syncFlagTriggerArmed else 0))

/-! ## 4. What a sender does to the link -/

/-- `link'` is `link` after the given frames were sent: the log has grown by them with the
transport's next outcomes, and no device has changed its address or its group. -/
structure Sends (frames : List Frame) (link link' : Link) : Prop where
  transport : link'.transport = link.transport
  wireIds : link'.wireIds = link.wireIds
  sent : ∃ packets, link'.sent = link.sent ++ packets ∧ packets.map (·.frame) = frames ∧
    ∀ outcomes, link.transport = some outcomes →
      packets.map (·.outcome) =
        (List.range frames.length).map fun k => outcomes (link.sent.length + k)

theorem Sends.refl (link : Link) : Sends [] link link :=
  ⟨rfl, rfl, [], (List.append_nil _).symm, rfl, fun _ _ => rfl⟩

/-- The number of packets that went out. -/
theorem Sends.length {frames : List Frame} {link link' : Link} (h : Sends frames link link') :
    link'.sent.length = link.sent.length + frames.length := by
  obtain ⟨packets, hsent, hframes, -⟩ := h.sent
  rw [hsent, List.length_append, ← hframes, List.length_map]

theorem Sends.trans {frames frames' : List Frame} {link link' link'' : Link}
    (h : Sends frames link link') (h' : Sends frames' link' link'') :
    Sends (frames ++ frames') link link'' := by
  have hlength := h.length
  obtain ⟨packets, hsent, hframes, hout⟩ := h.sent
  obtain ⟨packets', hsent', hframes', hout'⟩ := h'.sent
  refine ⟨h'.transport.trans h.transport, h'.wireIds.trans h.wireIds, packets ++ packets',
    ?_, ?_, ?_⟩
  · rw [hsent', hsent, List.append_assoc]
  · rw [List.map_append, hframes, hframes']
  · intro outcomes ho
    rw [List.map_append, hout outcomes ho, hout' outcomes (h.transport.trans ho), hlength,
      List.length_append, List.range_add, List.map_append, List.map_map]
    simp only [Function.comp_def, Nat.add_assoc]

/-- A change to the devices that keeps their addresses and groups sends nothing. -/
theorem sends_devices {link : Link} {devices : List Device}
    (h : devices.map (·.wireId) = link.devices.map (·.wireId)) :
    Sends [] link { link with devices := devices } :=
  ⟨rfl, h, [], (List.append_nil _).symm, rfl, fun _ _ => rfl⟩

/-- One more frame in the log. -/
theorem sends_append {outcomes : TransportOutcomes} {link : Link}
    (h : link.transport = some outcomes) (frame : Frame) :
    Sends [frame] link
      { link with sent := link.sent ++ [⟨frame, outcomes link.sent.length⟩] } := by
  refine ⟨rfl, rfl, _, rfl, rfl, fun outcomes' h' => ?_⟩
  obtain rfl : outcomes = outcomes' := Option.some.inj (h.symm.trans h')
  rfl

/-- The sender's result is the frame: it returns `True` once the frame is sent, and raises where
there is none. -/
structure Delivers (x : Script Link Bool) (link : Link) (frame : Except PyErr Frame) : Prop where
  ok : ∀ f, frame = .ok f → ∃ link', x link = (.ok true, link') ∧ Sends [f] link link'
  raises : ∀ e, frame = .error e → ∃ link', x link = (.error e, link') ∧ Sends [] link link'

theorem Delivers.of_run_eq {x y : Script Link Bool} {link : Link} {frame : Except PyErr Frame}
    (hy : Delivers y link frame) (h : x link = y link) : Delivers x link frame :=
  ⟨h ▸ hy.ok, h ▸ hy.raises⟩

theorem delivers_error {x : Script Link Bool} {link : Link} {e : PyErr}
    (h : x link = (.error e, link)) : Delivers x link (.error e) := by
  refine ⟨fun f hf => (nomatch hf), fun e' he => ?_⟩
  cases he
  exact ⟨link, h, .refl link⟩

/-- A conversion in front of a sender is one in front of the frame. -/
theorem delivers_lift {α : Type} {y : Except PyErr α} {x : α → Script Link Bool} {link : Link}
    {frame : α → Except PyErr Frame} (h : ∀ a, y = .ok a → Delivers (x a) link (frame a)) :
    Delivers (do let a ← Script.lift y; x a) link (y >>= frame) := by
  cases hy : y with
  | error e => exact delivers_error rfl
  | ok a => exact (h a hy).of_run_eq rfl

/-- A change to the devices in front of a sender. -/
theorem delivers_modify {f : Link → Link} {x : Script Link Bool} {link : Link}
    {frame : Except PyErr Frame} (hf : Sends [] link (f link)) (hx : Delivers x (f link) frame) :
    Delivers (do Script.modify f; x) link frame := by
  have hrun : (do Script.modify f; x : Script Link Bool) link = x (f link) := rfl
  constructor
  · intro frame' hframe
    obtain ⟨link', hlink', hsends⟩ := hx.ok frame' hframe
    exact ⟨link', hrun.trans hlink', hf.trans hsends⟩
  · intro e he
    obtain ⟨link', hlink', hsends⟩ := hx.raises e he
    exact ⟨link', hrun.trans hlink', hf.trans hsends⟩

/-- The steps of a sender that read the device and its address. -/
theorem delivers_receiver {place : Nat} {x : Device → List UInt8 → Script Link Bool} {link : Link}
    {frame : List UInt8 × Int → Except PyErr Frame}
    (h : ∀ dev recv3, Delivers (x dev recv3) link (frame (recv3, dev.groupId))) :
    Delivers (do
      let dev ← deviceAt place
      let recv3 ← Script.lift (macLast3FromHex dev.addr)
      x dev recv3) link (receiverOf link.wireIds (.device place) >>= frame) := by
  have hid : link.wireIds[place]? = link.devices[place]?.map (·.wireId) := List.getElem?_map
  cases hdev : link.devices[place]? with
  | none =>
    rw [hdev] at hid
    have hrun : deviceAt place link = (.error .attributeError, link) := by
      rw [deviceAt, Script.bind_of_ok (Script.get_run link)]
      simp only [hdev]
      rfl
    simp only [receiverOf, hid, Option.map_none]
    exact delivers_error (by rw [Script.bind_run, hrun])
  | some dev =>
    rw [hdev] at hid
    have hrun : deviceAt place link = (.ok dev, link) := by
      rw [deviceAt, Script.bind_of_ok (Script.get_run link)]
      simp only [hdev]
      rfl
    have hframe : receiverOf link.wireIds (.device place) >>= frame =
        macLast3FromHex dev.addr >>= fun recv3 => frame (recv3, dev.groupId) := by
      simp only [receiverOf, hid, Option.map_some, bind_assoc, pure_bind, Device.wireId]
    rw [hframe]
    refine Delivers.of_run_eq ?_ (Script.bind_of_ok hrun)
    exact delivers_lift fun recv3 _ => h dev recv3

/-- The end of a sender: hand over the frame, then update the cache. -/
theorem delivers_send {outcomes : TransportOutcomes} {link : Link}
    (h : link.transport = some outcomes) (typeFull : UInt8) (recv3 body : List UInt8)
    {after : Script Link Bool}
    (hafter : ∀ link, ∃ link', after link = (.ok true, link') ∧ Sends [] link link') :
    Delivers (do
      let _ ← sendM2n outcomes typeFull recv3 body
      after) link (checkedFrame typeFull recv3 body) := by
  cases hframe : checkedFrame typeFull recv3 body with
  | error e =>
    refine delivers_error ?_
    rw [Script.bind_run, sendM2n, hframe]
    rfl
  | ok frame =>
    refine ⟨fun f hf => ?_, fun e he => (nomatch he)⟩
    cases hf
    obtain ⟨link', hlink', hsends⟩ :=
      hafter { link with sent := link.sent ++ [⟨frame, outcomes link.sent.length⟩] }
    refine ⟨link', ?_, (sends_append h frame).trans hsends⟩
    rw [Script.bind_run, sendM2n, hframe]
    exact hlink'

/-- A sender that ends with the hand-over. -/
theorem delivers_sendM2n {outcomes : TransportOutcomes} {link : Link}
    (h : link.transport = some outcomes) (typeFull : UInt8) (recv3 body : List UInt8) :
    Delivers (do
      let _ ← sendM2n outcomes typeFull recv3 body
      pure true) link (checkedFrame typeFull recv3 body) :=
  delivers_send h typeFull recv3 body fun link => ⟨link, rfl, .refl link⟩

theorem requireTransport_some {outcomes : TransportOutcomes} {link : Link}
    (h : link.transport = some outcomes) (sender : TransportOutcomes → Script Link Bool) :
    requireTransport sender link = sender outcomes link := by
  rw [requireTransport, Script.bind_of_ok (Script.get_run link)]
  simp only [h]

theorem requireTransport_none {link : Link} (h : link.transport = none)
    (sender : TransportOutcomes → Script Link Bool) :
    requireTransport sender link = (.ok false, link) := by
  rw [requireTransport, Script.bind_of_ok (Script.get_run link)]
  simp only [h]
  rfl

/-! ## 5. The senders send their frames -/

theorem delivers_sendOffset {outcomes : TransportOutcomes} {link : Link}
    (h : link.transport = some outcomes) (targetGroup : Int) (config : OffsetConfig) :
    Delivers (sendOffset targetGroup config) link (offsetFrame targetGroup config) :=
  (delivers_sendM2n h opcOffset broadcastRecv3 _).of_run_eq (requireTransport_some h _)

theorem wireIds_modify (devices : List Device) (place : Nat) (flags presetId brightness : Int) :
    (devices.modify place (·.withPreset flags presetId brightness)).map (·.wireId)
      = devices.map (·.wireId) := by
  refine List.ext_getElem? fun j => ?_
  simp only [List.getElem?_map, List.getElem?_modify]
  cases devices[j]? with
  | none => rfl
  | some dev => by_cases hj : place = j <;> simp [hj, Device.wireId, Device.withPreset]

theorem wireIds_updateGroupPresetCache (groupId flags presetId brightness : Int) (link : Link) :
    (updateGroupPresetCache groupId flags presetId brightness link).devices.map (·.wireId)
      = link.devices.map (·.wireId) := by
  rw [updateGroupPresetCache, List.map_map]
  refine List.map_congr_left fun dev _ => ?_
  simp only [Function.comp_apply]
  split <;> rfl

theorem delivers_sendWledPreset {outcomes : TransportOutcomes} {link : Link}
    (h : link.transport = some outcomes) (params : Dict) (target : SendTarget) :
    Delivers (sendWledPreset params target) link (presetFrame link.wireIds params target) := by
  refine delivers_lift fun presetId _ => delivers_lift fun brightness _ => ?_
  cases target with
  | group gid =>
    refine Delivers.of_run_eq ?_ (requireTransport_some h _)
    have h' : (updateGroupPresetCache (gid % 256) (senderFlags brightness params) presetId
        brightness
        link).transport = some outcomes := h
    exact delivers_modify (sends_devices (wireIds_updateGroupPresetCache _ _ _ _ link))
      (delivers_sendM2n h' opcPreset broadcastRecv3 _)
  | device place =>
    refine Delivers.of_run_eq ?_ (requireTransport_some h _)
    refine delivers_receiver fun dev recv3 => delivers_send h opcPreset recv3 _ fun link => ?_
    exact ⟨_, rfl, sends_devices (wireIds_modify link.devices place _ _ _)⟩

theorem delivers_sendWledControl {outcomes : TransportOutcomes} {link : Link}
    (h : link.transport = some outcomes) (params : Dict) (target : SendTarget) :
    Delivers (sendWledControl params target) link (controlFrame link.wireIds params target) := by
  refine Delivers.of_run_eq ?_ (requireTransport_some h _)
  refine delivers_lift fun fields _ => ?_
  cases target with
  | group gid => exact delivers_lift fun body _ => delivers_sendM2n h opcControl broadcastRecv3 body
  | device place =>
    exact delivers_receiver fun dev recv3 => delivers_lift fun body _ =>
      delivers_sendM2n h opcControl recv3 body

/-- Without a transport the preset sender raises for its parameters, or returns `False`. -/
theorem sendWledPreset_none {link : Link} (h : link.transport = none) (params : Dict)
    (target : SendTarget) : (∃ e, sendWledPreset params target link = (.error e, link)) ∨
      sendWledPreset params target link = (.ok false, link) := by
  unfold sendWledPreset
  cases hpreset : int (Dict.getD params "presetId" (.int 1)) with
  | error e => exact Or.inl ⟨e, rfl⟩
  | ok presetId =>
    cases hbrightness : int (Dict.getD params "brightness" (.int 0)) with
    | error e => exact Or.inl ⟨e, rfl⟩
    | ok brightness =>
      right
      cases target with
      | group gid => exact requireTransport_none h _
      | device place => exact requireTransport_none h _

/-- The sync packet goes out whenever there is a transport. -/
theorem delivers_sendSync {outcomes : TransportOutcomes} {link : Link}
    (h : link.transport = some outcomes) (ts24 brightness : Int) (triggerArmed : Bool) :
    Delivers (do sendSync ts24 brightness triggerArmed; pure true) link
      (syncFrame ts24 brightness triggerArmed) := by
  refine Delivers.of_run_eq (delivers_sendM2n h opcSync broadcastRecv3 _) ?_
  rw [Script.bind_run, sendSync, Script.bind_of_ok (Script.get_run link)]
  simp only [h, Script.bind_run]
  rcases sendM2n outcomes opcSync broadcastRecv3 _ link with ⟨_ | _, _⟩ <;> rfl

end RaceLink
