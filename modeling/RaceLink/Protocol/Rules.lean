/-
# The packet rules

`RULES`, the table of `racelink_proto_auto.py` that says which reply a request has: an ACK that
names the request, a reply with an opcode of its own, or none.  The services that wait for replies
look their requests up in it.
-/
import RaceLink.Transport.Replies

namespace RaceLink

def opcSetGroup : UInt8 := 0x02

/-- `RESP_NONE`, `RESP_ACK`, `RESP_SPECIFIC`. -/
inductive ResponsePolicy where
  | none
  | ack
  | specific
  deriving DecidableEq

/-- A rule, without the lengths of its bodies. -/
structure PacketRule where
  opcode7 : UInt8
  reqDir : UInt8
  policy : ResponsePolicy
  rspOpcode7 : UInt8
  name : String

def dirM2N : UInt8 := 0x00

/-- `RULES`. -/
def rules : List PacketRule :=
  [⟨1, dirM2N, .specific, 1, "DEVICES/IDENTIFY"⟩, ⟨2, dirM2N, .ack, 126, "SET_GROUP"⟩,
    ⟨3, dirM2N, .specific, 3, "STATUS"⟩, ⟨4, dirM2N, .none, 0, "PRESET"⟩,
    ⟨8, dirM2N, .none, 0, "CONTROL"⟩, ⟨5, dirM2N, .ack, 126, "CONFIG"⟩,
    ⟨6, dirM2N, .none, 0, "SYNC"⟩, ⟨9, dirM2N, .none, 0, "OFFSET"⟩,
    ⟨7, dirM2N, .ack, 126, "STREAM_M2N"⟩]

/-- The names that events are given are those of the rules. -/
theorem ruleNames_eq : ruleNames = rules.map fun r => (r.opcode7, r.name) := rfl

/-- `find_rule`. -/
def findRule (opcode7 : UInt8) : Option PacketRule := rules.find? (·.opcode7 == opcode7 &&& 0x7F)

/-- `response_policy`. -/
def responsePolicy (opcode7 : UInt8) : ResponsePolicy :=
  ((findRule opcode7).map (·.policy)).getD .none

/-- `response_opcode`; `none` for the -1 of an opcode without a rule. -/
def responseOpcode (opcode7 : UInt8) : Option UInt8 :=
  (findRule opcode7).map (·.rspOpcode7 &&& 0x7F)

/-- A rule with a reply of its own says which opcode it has. -/
theorem exists_responseOpcode {opcode7 : UInt8} (h : responsePolicy opcode7 = .specific) :
    ∃ rspOpcode, responseOpcode opcode7 = some rspOpcode := by
  unfold responsePolicy at h
  unfold responseOpcode
  cases hrule : findRule opcode7 with
  | none =>
    rw [hrule] at h
    cases h
  | some rule => exact ⟨_, rfl⟩

/-- `request_direction`. -/
def requestDirection (opcode7 : UInt8) : UInt8 := ((findRule opcode7).map (·.reqDir)).getD dirM2N

/-- `ev.get("ack_of")`. -/
def ReplyEvent.ackOf (ev : ReplyEvent) : Option UInt8 :=
  match ev.fields with
  | .ack ackOf _ _ => some ackOf
  | _ => none

/-- The event is the reply that a request with the opcode waits for: the comparison of the
opcodes in `pending_try_match`. -/
def ReplyEvent.answers (ev : ReplyEvent) (opcode7 : UInt8) : Bool :=
  match responsePolicy opcode7 with
  | .ack => ev.opc == opcAck && ev.ackOf == some opcode7
  | .specific => some ev.opc == responseOpcode opcode7
  | .none => false

/-! ## What the parser leaves -/

/-- A reply event comes from the parser. -/
theorem exists_parse_of_rxEvent {f : GatewayFrame} {ev : ReplyEvent}
    (h : rxEvent f = some (.reply ev)) :
    ∃ typeByte data rssi snr, ev = parseReplyEvent typeByte data rssi snr := by
  unfold rxEvent at h
  split_ifs at h
  · cases h
  · cases h
  · cases h
  · cases h
  · split at h
    · cases h
      exact ⟨_, _, _, _, rfl⟩
    · cases h

/-- The parser masks opcodes. -/
theorem opc_masked {f : GatewayFrame} {ev : ReplyEvent} (h : rxEvent f = some (.reply ev)) :
    ev.opc &&& 0x7F = ev.opc := by
  obtain ⟨typeByte, data, rssi, snr, rfl⟩ := exists_parse_of_rxEvent h
  rw [parseReplyEvent, UInt8.and_assoc, UInt8.and_self]

/-- It masks the opcode that an ACK names, too. -/
theorem ackOf_masked {f : GatewayFrame} {ev : ReplyEvent} (h : rxEvent f = some (.reply ev))
    {a : UInt8} (ha : ev.ackOf = some a) : a &&& 0x7F = a := by
  obtain ⟨typeByte, data, rssi, snr, rfl⟩ := exists_parse_of_rxEvent h
  unfold ReplyEvent.ackOf at ha
  split at ha
  · next ackOf status seq hfields =>
    cases ha
    simp only [parseReplyEvent, replyOf] at hfields
    split_ifs at hfields
    · unfold identifyFields at hfields
      split at hfields <;> cases hfields
    · unfold statusFields at hfields
      split at hfields <;> cases hfields
    · unfold ackFields at hfields
      split at hfields
      · cases hfields
        rw [UInt8.and_assoc, UInt8.and_self]
      · cases hfields
  · cases ha

/-- The ACK of a request, as the gateway hands it on. -/
def ackFrame (dev : List UInt8) (opcode7 : UInt8) : GatewayFrame :=
  ⟨0xFE, dev ++ [0, 0, 0, 0xFE] ++ [opcode7, 0, 1] ++ [0xC4, 0xFF, 40]⟩

end RaceLink
