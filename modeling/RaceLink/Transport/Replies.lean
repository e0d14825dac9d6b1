/-
# Replies from the gateway

A reply packet of a node reaches the host as one frame: the packet that `build` of
`racelink_proto.h` lays out, and the radio quality the gateway appends.  `_handle_frame` takes the
quality off the end and `parse_reply_event` reads the rest, by the length of the body.

The structs here are the firmware's, the parser is the host's: `rxEvent_reply` says that every
field arrives, and what becomes of a body of another length.
-/
import RaceLink.Transport.SendSlot
import RaceLink.Python.Bytes
import Mathlib.Data.List.Basic

namespace RaceLink

open Python

/-! ## 1. The packets of the nodes -/

/-- The two bytes of a packed `uint16_t`. -/
def uint16Bytes (v : UInt16) : List UInt8 := [v.toUInt8, (v >>> 8).toUInt8]

/-- `P_IdentifyReply`. -/
structure PIdentifyReply where
  fw : UInt8
  caps : UInt8
  groupId : UInt8
  mac6 : Vector UInt8 6

/-- `P_StatusReply`. -/
structure PStatusReply where
  flags : UInt8
  configByte : UInt8
  effectId : UInt8
  brightness : UInt8
  vbatMV : UInt16
  rssi : Int8
  snr : Int8

/-- `P_Ack`. -/
structure PAck where
  echoOpcode7 : UInt8
  status : UInt8
  seq : UInt8

/-- The packed struct in memory. -/
def PIdentifyReply.bytes (p : PIdentifyReply) : List UInt8 :=
  [p.fw, p.caps, p.groupId] ++ p.mac6.toList

def PStatusReply.bytes (p : PStatusReply) : List UInt8 :=
  [p.flags, p.configByte, p.effectId, p.brightness] ++ uint16Bytes p.vbatMV ++
    [p.rssi.toUInt8, p.snr.toUInt8]

def PAck.bytes (p : PAck) : List UInt8 := [p.echoOpcode7, p.status, p.seq]

/-- `build`: the header of 7 bytes, then the payload. -/
def build (sender3 receiver3 : Vector UInt8 3) (fullType : UInt8) (payload : List UInt8) :
    List UInt8 :=
  sender3.toList ++ receiver3.toList ++ [fullType] ++ payload

/-- What the gateway appends: the signal strength and the signal-to-noise ratio. -/
def gatewayTrailer (rssi : Int16) (snr : Int8) : List UInt8 :=
  uint16Bytes rssi.toUInt16 ++ [snr.toUInt8]

def dirN2M : UInt8 := 0x80
def opcDevices : UInt8 := 0x01
def opcStatus : UInt8 := 0x03
def opcAck : UInt8 := 0x7E

/-- `make_type`. -/
def makeType (dir opcode7 : UInt8) : UInt8 := dir ||| (opcode7 &&& 0x7F)

/-- The frame of a reply, as the gateway hands it to the host. -/
def replyFrame (sender3 receiver3 : Vector UInt8 3) (opcode7 : UInt8) (body : List UInt8)
    (rssi : Int16) (snr : Int8) : GatewayFrame :=
  let fullType := makeType dirN2M opcode7
  ⟨fullType, build sender3 receiver3 fullType body ++ gatewayTrailer rssi snr⟩

/-! ## 2. The host's parser -/

/-- The decoded fields of a reply, or its body as it is. -/
inductive ReplyFields where
  | identify (version caps groupId : UInt8) (mac6 : List UInt8)
  | status (flags configByte effectId brightness : UInt8) (vbatMV nodeRssi nodeSnr : Int)
  | ack (ackOf ackStatus : UInt8) (ackSeq : Option UInt8)
  | bodyRaw (body : List UInt8)
  deriving DecidableEq

/-- The event of a reply, without its time. -/
structure ReplyEvent where
  type : UInt8
  dir : UInt8
  opc : UInt8
  sender3 : List UInt8
  receiver3 : List UInt8
  hostRssi : Int
  hostSnr : Int
  reply : String
  fields : ReplyFields
  deriving DecidableEq

/-- The names in `RULES`. -/
def ruleNames : List (UInt8 × String) :=
  [(1, "DEVICES/IDENTIFY"), (2, "SET_GROUP"), (3, "STATUS"), (4, "PRESET"), (8, "CONTROL"),
    (5, "CONFIG"), (6, "SYNC"), (9, "OFFSET"), (7, "STREAM_M2N")]

/-- `opcode_name`. -/
def opcodeName (opcode7 : UInt8) : String :=
  (ruleNames.lookup (opcode7 &&& 0x7F)).getD ("0x" ++ hex2 (opcode7 &&& 0x7F))

/-- The fields of an identify reply: 9 bytes. -/
def identifyFields : List UInt8 → ReplyFields
  | [version, caps, groupId, m0, m1, m2, m3, m4, m5] =>
    .identify version caps groupId [m0, m1, m2, m3, m4, m5]
  | body => .bodyRaw body

/-- The fields of a status reply: 8 bytes, or the 7 of the form without `configByte`. -/
def statusFields : List UInt8 → ReplyFields
  | [flags, configByte, effectId, brightness, low, high, rssi, snr] =>
    .status flags configByte effectId brightness (u16 low high) (i8 rssi) (i8 snr)
  | [flags, effectId, brightness, low, high, rssi, snr] =>
    .status flags 0 effectId brightness (u16 low high) (i8 rssi) (i8 snr)
  | body => .bodyRaw body

/-- The fields of an ACK: 2 bytes or more, the third is the sequence number. -/
def ackFields : List UInt8 → ReplyFields
  | ackOf :: ackStatus :: rest => .ack (ackOf &&& 0x7F) ackStatus rest.head?
  | body => .bodyRaw body

/-- The name and the fields of a reply. -/
def replyOf (opc : UInt8) (body : List UInt8) : String × ReplyFields :=
  if opc = 0x01 then ("IDENTIFY_REPLY", identifyFields body)
  else if opc = 0x03 then ("STATUS_REPLY", statusFields body)
  else if opc = 0x7E then ("ACK", ackFields body)
  else (opcodeName opc, .bodyRaw body)

/-- `parse_reply_event`. -/
def parseReplyEvent (typeByte : UInt8) (data : List UInt8) (hostRssi hostSnr : Int) : ReplyEvent :=
  let hdr := slice data 0 7
  let body := slice data 7 (-3)
  let opc := typeByte &&& 0x7F
  { type := typeByte
    dir := typeByte &&& 0x80
    opc := opc
    sender3 := slice hdr 0 3
    receiver3 := slice hdr 3 6
    hostRssi := hostRssi
    hostSnr := hostSnr
    reply := (replyOf opc body).1
    fields := (replyOf opc body).2 }

/-- `GATEWAY_STATE_NAME`, with the name of other bytes. -/
def gatewayStateName (state : UInt8) : String :=
  ([(0x00, "IDLE"), (0x01, "TX"), (0x02, "RX_WINDOW"), (0x03, "RX"), (0xFE, "ERROR")].lookup
    state).getD "UNKNOWN"

/-- `TX_REJECT_REASON_NAME`, with the name of other bytes. -/
def txRejectReasonName (reason : UInt8) : String :=
  ([(0x01, "txPending"), (0x02, "oversize"), (0x03, "zeroLen")].lookup reason).getD "unknown"

/-- An event of the reader, without its time. -/
inductive RxEvent where
  | txDone (lastLen : UInt8)
  | txRejected (typeFull opc reason : UInt8) (reasonName : String)
  | state (type stateByte : UInt8) (state : String) (metadataMs : Nat)
  | error (data : List UInt8)
  | reply (ev : ReplyEvent)
  deriving DecidableEq

/-- What `_handle_frame` emits; `none` where it emits nothing. -/
def rxEvent (f : GatewayFrame) : Option RxEvent :=
  if f.typeByte = evTxDone then some (.txDone (f.data[0]?.getD 0))
  else if f.typeByte = evTxRejected then
    let rejTypeFull := f.data[0]?.getD 0
    let reason := f.data[1]?.getD txRejectUnknown
    some (.txRejected rejTypeFull (rejTypeFull &&& 0x7F) reason (txRejectReasonName reason))
  else if f.typeByte = evStateChanged ∨ f.typeByte = evStateReport then
    let body := parseStateEventBody f.data
    some (.state f.typeByte body.1 (gatewayStateName body.1) body.2)
  else if f.typeByte = evError then some (.error f.data)
  else if f.typeByte &&& 0x80 ≠ dirN2M then none
  else if f.data.length < 10 then none
  else
    match slice f.data (-3) (-1), sliceFrom f.data (-1) with
    | [low, high], [snr] =>
      some (.reply (parseReplyEvent f.typeByte f.data (i16 low high) (i8 snr)))
    | _, _ => none

/-! ## 3. Both sides of a field -/

theorem u16_uint16Bytes (v : UInt16) : u16 v.toUInt8 (v >>> 8).toUInt8 = v.toNat := by
  have hlt : v.toNat < 65536 := v.toNat_lt
  have hlow : v.toUInt8.toNat = v.toNat % 256 := UInt16.toNat_toUInt8 v
  have hhigh : (v >>> 8).toUInt8.toNat = v.toNat / 256 % 256 := by
    rw [UInt16.toNat_toUInt8, UInt16.toNat_shiftRight]
    simp [Nat.shiftRight_eq_div_pow]
  rw [u16, hlow, hhigh]
  omega

theorem i16_toUInt16 (v : Int16) : i16 v.toUInt16.toUInt8 (v.toUInt16 >>> 8).toUInt8 = v.toInt := by
  have hlt : v.toUInt16.toNat < 65536 := v.toUInt16.toNat_lt
  have htoInt : v.toInt = if 2 * v.toUInt16.toNat < 2 ^ 16 then (v.toUInt16.toNat : Int)
      else v.toUInt16.toNat - (2 ^ 16 : Nat) := BitVec.toInt_eq_toNat_cond v.toBitVec
  rw [i16, u16_uint16Bytes, htoInt]
  split_ifs <;> omega

theorem i8_toUInt8 (v : Int8) : i8 v.toUInt8 = v.toInt := by
  have hlt : v.toUInt8.toNat < 256 := v.toUInt8.toNat_lt
  have htoInt : v.toInt = if 2 * v.toUInt8.toNat < 2 ^ 8 then (v.toUInt8.toNat : Int)
      else v.toUInt8.toNat - (2 ^ 8 : Nat) := BitVec.toInt_eq_toNat_cond v.toBitVec
  rw [i8, htoInt]
  split_ifs <;> omega

/-! ## 4. A reply, from the node to the event -/

/-- A packet before its body: the header. -/
def header (sender3 receiver3 : Vector UInt8 3) (fullType : UInt8) : List UInt8 :=
  sender3.toList ++ receiver3.toList ++ [fullType]

theorem length_header (sender3 receiver3 : Vector UInt8 3) (fullType : UInt8) :
    (header sender3 receiver3 fullType).length = 7 := by
  simp [header]

/-- The opcodes of replies that are decoded. -/
def IsReplyOpcode (opc : UInt8) : Prop := opc = opcDevices ∨ opc = opcStatus ∨ opc = opcAck

/-- What the slices of `_handle_frame` and `parse_reply_event` cut out of a packet. -/
theorem packet_slices {hdr : List UInt8} (hhdr : hdr.length = 7) (body : List UInt8)
    (low high snr : UInt8) :
    slice (hdr ++ body ++ [low, high, snr]) 0 7 = hdr ∧
      slice (hdr ++ body ++ [low, high, snr]) 7 (-3) = body ∧
      slice (hdr ++ body ++ [low, high, snr]) (-3) (-1) = [low, high] ∧
      sliceFrom (hdr ++ body ++ [low, high, snr]) (-1) = [snr] := by
  refine ⟨?_, slice_middle ?_ ?_, ?_, ?_⟩
  · have hfront : slice ([] ++ hdr ++ (body ++ [low, high, snr])) 0 7 = hdr :=
      slice_middle (by simp [sliceIndex]) (by simp [sliceIndex, hhdr])
    rwa [List.nil_append, ← List.append_assoc] at hfront
  · simp [sliceIndex, hhdr]
  · simp [sliceIndex, hhdr]
    omega
  · have hback : slice (hdr ++ body ++ [low, high] ++ [snr]) (-3) (-1) = [low, high] :=
      slice_middle (by simp [sliceIndex]; omega) (by simp [sliceIndex]; omega)
    rwa [List.append_assoc (hdr ++ body)] at hback
  · have hback : sliceIndex (hdr ++ body ++ [low, high, snr]).length (-1)
        = (hdr ++ body ++ [low, high]).length := by
      simp [sliceIndex]
      omega
    have hsplit : hdr ++ body ++ [low, high, snr] = hdr ++ body ++ [low, high] ++ [snr] := by
      rw [List.append_assoc (hdr ++ body)]
      rfl
    rw [sliceFrom, hback, hsplit, List.drop_left]

/-- A frame with the type of a reply is taken for a wire packet. -/
theorem makeType_reply {opc : UInt8} (hopc : IsReplyOpcode opc) :
    makeType dirN2M opc &&& 0x80 = dirN2M ∧ makeType dirN2M opc &&& 0x7F = opc ∧
      makeType dirN2M opc ∉ [evTxDone, evTxRejected, evStateChanged, evStateReport, evError] := by
  rcases hopc with rfl | rfl | rfl <;> decide

/-- **The frame of a reply**: sender, receiver and radio quality arrive, and the fields are those
of the body alone. -/
theorem rxEvent_replyFrame {opc : UInt8} (hopc : IsReplyOpcode opc)
    (sender3 receiver3 : Vector UInt8 3) (body : List UInt8) (rssi : Int16) (snr : Int8) :
    rxEvent (replyFrame sender3 receiver3 opc body rssi snr) = some (.reply
      ⟨makeType dirN2M opc, dirN2M, opc, sender3.toList, receiver3.toList, rssi.toInt, snr.toInt,
        (replyOf opc body).1, (replyOf opc body).2⟩) := by
  have hdata : (replyFrame sender3 receiver3 opc body rssi snr).data
      = header sender3 receiver3 (makeType dirN2M opc) ++ body ++ gatewayTrailer rssi snr := rfl
  obtain ⟨hdir, hbase, hne⟩ := makeType_reply hopc
  simp only [List.mem_cons, List.not_mem_nil, or_false, not_or] at hne
  obtain ⟨hdone, hrejected, hchanged, hreport, herror⟩ := hne
  obtain ⟨hhdr, hbody, hquality, hsnr⟩ := packet_slices
    (length_header sender3 receiver3 (makeType dirN2M opc)) body rssi.toUInt16.toUInt8
    (rssi.toUInt16 >>> 8).toUInt8 snr.toUInt8
  obtain ⟨hsender, hreceiver⟩ : slice (header sender3 receiver3 (makeType dirN2M opc)) 0 3
        = sender3.toList ∧
      slice (header sender3 receiver3 (makeType dirN2M opc)) 3 6 = receiver3.toList := by
    refine ⟨?_, slice_middle (by simp [sliceIndex]) (by simp [sliceIndex])⟩
    simp [header, slice, sliceIndex]
  have hlong : ¬ (replyFrame sender3 receiver3 opc body rssi snr).data.length < 10 := by
    simp [hdata, header, gatewayTrailer, uint16Bytes]
    omega
  have htype : (replyFrame sender3 receiver3 opc body rssi snr).typeByte
      = makeType dirN2M opc := rfl
  unfold rxEvent
  rw [htype, if_neg hdone, if_neg hrejected, if_neg (not_or.mpr ⟨hchanged, hreport⟩),
    if_neg herror, if_neg (not_not.mpr hdir), if_neg hlong, hdata]
  simp only [gatewayTrailer, uint16Bytes, List.cons_append, List.nil_append, hquality, hsnr,
    parseReplyEvent, hhdr, hbody, hsender, hreceiver, hdir, hbase, i16_toUInt16, i8_toUInt8]

theorem identifyFields_mac6 (fw caps groupId : UInt8) (mac6 : Vector UInt8 6) :
    identifyFields ([fw, caps, groupId] ++ mac6.toList)
      = .identify fw caps groupId mac6.toList := by
  have hlen : mac6.toList.length = 6 := by simp
  match mac6.toList, hlen with
  | [_, _, _, _, _, _], _ => rfl

/-- **Replies arrive as they were sent.**  A reply of a node, with the gateway's radio quality, is
one event with the node's sender, receiver and opcode and every field of its struct; a body of
another length is passed on as it is, but for the status reply without `configByte` and ACKs of
two bytes or more. -/
theorem rxEvent_reply (sender3 receiver3 : Vector UInt8 3) (rssi : Int16) (snr : Int8) :
    let emitted (opc : UInt8) (body : List UInt8) (reply : String) (fields : ReplyFields) : Prop :=
      rxEvent (replyFrame sender3 receiver3 opc body rssi snr) = some (.reply
        ⟨makeType dirN2M opc, dirN2M, opc, sender3.toList, receiver3.toList, rssi.toInt,
          snr.toInt, reply, fields⟩)
    (∀ p : PIdentifyReply, emitted opcDevices p.bytes "IDENTIFY_REPLY"
      (.identify p.fw p.caps p.groupId p.mac6.toList)) ∧
    (∀ p : PStatusReply, emitted opcStatus p.bytes "STATUS_REPLY"
      (.status p.flags p.configByte p.effectId p.brightness p.vbatMV.toNat p.rssi.toInt
        p.snr.toInt)) ∧
    (∀ p : PAck, emitted opcAck p.bytes "ACK"
      (.ack (p.echoOpcode7 &&& 0x7F) p.status (some p.seq))) ∧
    (∀ body : List UInt8, body.length ≠ 9 →
      emitted opcDevices body "IDENTIFY_REPLY" (.bodyRaw body)) ∧
    (∀ body : List UInt8, body.length ≠ 8 → body.length ≠ 7 →
      emitted opcStatus body "STATUS_REPLY" (.bodyRaw body)) ∧
    (∀ (flags effectId brightness : UInt8) (vbatMV : UInt16) (nodeRssi nodeSnr : Int8),
      emitted opcStatus ([flags, effectId, brightness] ++ uint16Bytes vbatMV ++
          [nodeRssi.toUInt8, nodeSnr.toUInt8]) "STATUS_REPLY"
        (.status flags 0 effectId brightness vbatMV.toNat nodeRssi.toInt nodeSnr.toInt)) ∧
    (∀ body : List UInt8, body.length < 2 → emitted opcAck body "ACK" (.bodyRaw body)) ∧
    (∀ (ackOf ackStatus : UInt8) (rest : List UInt8),
      emitted opcAck (ackOf :: ackStatus :: rest) "ACK"
        (.ack (ackOf &&& 0x7F) ackStatus rest.head?)) := by
  intro emitted
  have hemitted : ∀ {opc : UInt8} {body : List UInt8} {reply : String} {fields : ReplyFields},
      IsReplyOpcode opc → replyOf opc body = (reply, fields) → emitted opc body reply fields := by
    intro opc body reply fields hopc hreply
    have hframe := rxEvent_replyFrame hopc sender3 receiver3 body rssi snr
    rwa [hreply] at hframe
  have hdevices : IsReplyOpcode opcDevices := Or.inl rfl
  have hstatus : IsReplyOpcode opcStatus := Or.inr (Or.inl rfl)
  have hack : IsReplyOpcode opcAck := Or.inr (Or.inr rfl)
  refine ⟨?_, ?_, ?_, ?_, ?_, ?_, ?_, ?_⟩
  · rintro ⟨fw, caps, groupId, mac6⟩
    exact hemitted hdevices (congrArg (Prod.mk _) (identifyFields_mac6 fw caps groupId mac6))
  · rintro ⟨flags, configByte, effectId, brightness, vbatMV, nodeRssi, nodeSnr⟩
    refine hemitted hstatus (congrArg (Prod.mk _) ?_)
    simp only [PStatusReply.bytes, uint16Bytes, List.cons_append, List.nil_append, statusFields,
      u16_uint16Bytes, i8_toUInt8]
  · rintro ⟨echoOpcode7, status, seq⟩
    exact hemitted hack rfl
  · intro body hlen
    refine hemitted hdevices (congrArg (Prod.mk _) ?_)
    unfold identifyFields
    split
    · exact absurd rfl hlen
    · rfl
  · intro body hlen8 hlen7
    refine hemitted hstatus (congrArg (Prod.mk _) ?_)
    unfold statusFields
    split
    · exact absurd rfl hlen8
    · exact absurd rfl hlen7
    · rfl
  · intro flags effectId brightness vbatMV nodeRssi nodeSnr
    refine hemitted hstatus (congrArg (Prod.mk _) ?_)
    simp only [uint16Bytes, List.cons_append, List.nil_append, statusFields, u16_uint16Bytes,
      i8_toUInt8]
  · intro body hlen
    refine hemitted hack (congrArg (Prod.mk _) ?_)
    unfold ackFields
    split
    · simp only [List.length_cons] at hlen
      omega
    · rfl
  · intro ackOf ackStatus rest
    exact hemitted hack rfl

/-- An identify reply that is cut short: it comes as its body. -/
theorem rxEvent_reply_short :
    rxEvent (replyFrame #v[1, 2, 3] #v[0xFF, 0xFF, 0xFF] opcDevices [4, 1] (-70) (-5))
      = some (.reply ⟨0x81, 0x80, 0x01, [1, 2, 3], [0xFF, 0xFF, 0xFF], -70, -5,
          "IDENTIFY_REPLY", .bodyRaw [4, 1]⟩) := by
  obtain ⟨-, -, -, hraw, -⟩ := rxEvent_reply #v[1, 2, 3] #v[0xFF, 0xFF, 0xFF] (-70) (-5)
  exact hraw [4, 1] (by decide)

-- The same frame, byte by byte: -70 is 0xFFBA, and -5 is 0xFB.
example : rxEvent ⟨0x81, [1, 2, 3, 0xFF, 0xFF, 0xFF, 0x81, 4, 1, 0xBA, 0xFF, 0xFB]⟩
    = some (.reply ⟨0x81, 0x80, 0x01, [1, 2, 3], [0xFF, 0xFF, 0xFF], -70, -5,
        "IDENTIFY_REPLY", .bodyRaw [4, 1]⟩) := by decide

end RaceLink
