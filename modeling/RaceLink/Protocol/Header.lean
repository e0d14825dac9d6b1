/-
# The nodes' half of the protocol

`racelink_proto.h` is shared by the gateway and the nodes: the rules with the lengths of the bodies,
`decide_response`, and the header of a packet.  The host has the same rules from a generated mirror,
and asks them which reply a send of its own will have.

`decideResponse_hostRequest` says that the two agree: for everything the host's send methods can put
on the air as one packet, a node decides on the reply that the host waits for, and on none where the
host waits for none.  `answers_iff` is the other direction: the reply to a request answers requests
with its opcode and no others.
-/
import RaceLink.Dispatch.Control
import RaceLink.Gateway.Collect
import RaceLink.Protocol.ControlBody
import RaceLink.Protocol.OffsetGrammar
import RaceLink.Protocol.Rules

namespace RaceLink

open Python

/-! ## 1. Types and headers -/

/-- `type_dir`. -/
def typeDir (t : UInt8) : UInt8 := t &&& 0x80

/-- `type_base`. -/
def typeBase (t : UInt8) : UInt8 := t &&& 0x7F

/-- `flip_dir`. -/
def flipDir (t : UInt8) : UInt8 := t ^^^ 0x80

@[simp] theorem typeDir_makeType (opcode7 : UInt8) :
    typeDir (makeType dirM2N opcode7) = dirM2N := by
  rw [typeDir, makeType, dirM2N, UInt8.zero_or, UInt8.and_assoc]
  exact UInt8.and_zero

@[simp] theorem typeBase_makeType (opcode7 : UInt8) :
    typeBase (makeType dirM2N opcode7) = typeBase opcode7 := by
  rw [typeBase, makeType, dirM2N, UInt8.zero_or, UInt8.and_assoc, UInt8.and_self, typeBase]

@[simp] theorem typeBase_typeBase (t : UInt8) : typeBase (typeBase t) = typeBase t := by
  rw [typeBase, typeBase, UInt8.and_assoc, UInt8.and_self]

/-- `Header7`. -/
structure Header7 where
  sender : Vector UInt8 3
  receiver : Vector UInt8 3
  type : UInt8

/-- `parseHeader`; `none` where it returns false. -/
def parseHeader : List UInt8 → Option Header7
  | s0 :: s1 :: s2 :: r0 :: r1 :: r2 :: type :: _ => some ⟨#v[s0, s1, s2], #v[r0, r1, r2], type⟩
  | _ => none

/-- The receiver that means all nodes. -/
def broadcast3 : Vector UInt8 3 := #v[0xFF, 0xFF, 0xFF]

/-- `isBroadcast3`. -/
def isBroadcast3 (r3 : Vector UInt8 3) : Bool := r3 == broadcast3

theorem vector3_eq (v : Vector UInt8 3) : v = #v[v[0], v[1], v[2]] := by
  refine Vector.ext fun i hi => ?_
  obtain rfl | rfl | rfl : i = 0 ∨ i = 1 ∨ i = 2 := by omega
  all_goals rfl

/-- The header that `build` writes is the one that is read. -/
theorem parseHeader_build (sender3 receiver3 : Vector UInt8 3) (fullType : UInt8)
    (payload : List UInt8) :
    parseHeader (build sender3 receiver3 fullType payload) =
      some ⟨sender3, receiver3, fullType⟩ := by
  rw [vector3_eq sender3, vector3_eq receiver3]
  rfl

/-- The type stands behind the two addresses. -/
theorem getElem?_build (sender3 receiver3 : Vector UInt8 3) (fullType : UInt8)
    (payload : List UInt8) : (build sender3 receiver3 fullType payload)[6]? = some fullType := by
  have hlen : (sender3.toList ++ receiver3.toList).length = 6 := by simp
  rw [build, List.append_assoc, List.getElem?_append_right (by simp), hlen]
  rfl

theorem length_build (sender3 receiver3 : Vector UInt8 3) (fullType : UInt8)
    (payload : List UInt8) :
    (build sender3 receiver3 fullType payload).length = 7 + payload.length := by
  simp [build]
  omega

/-! ## 2. The rules -/

def opcConfig : UInt8 := 0x05

/-- A rule of the header: the lengths of the request's and of the reply's body come with it.  A
request of length 0 is one of any length. -/
structure HeaderRule extends PacketRule where
  reqLen : UInt8
  rspLen : UInt8

/-- `RULES` of the header, with the sizes of the packed structs. -/
def headerRules : List HeaderRule :=
  [⟨⟨opcDevices, dirM2N, .specific, opcDevices, "DEVICES/IDENTIFY"⟩, 2, 9⟩,
    ⟨⟨opcSetGroup, dirM2N, .ack, opcAck, "SET_GROUP"⟩, 1, 3⟩,
    ⟨⟨opcStatus, dirM2N, .specific, opcStatus, "STATUS"⟩, 2, 8⟩,
    ⟨⟨opcPreset, dirM2N, .none, 0, "PRESET"⟩, 4, 0⟩,
    ⟨⟨opcControl, dirM2N, .none, 0, "CONTROL"⟩, 0, 0⟩,
    ⟨⟨opcConfig, dirM2N, .ack, opcAck, "CONFIG"⟩, 5, 3⟩,
    ⟨⟨opcSync, dirM2N, .none, 0, "SYNC"⟩, 0, 0⟩,
    ⟨⟨opcOffset, dirM2N, .none, 0, "OFFSET"⟩, 0, 0⟩,
    ⟨⟨opcStream, dirM2N, .ack, opcAck, "STREAM_M2N"⟩, 9, 3⟩]

/-- `find_rule` of the header, which does not mask. -/
def headerFindRule (opcode7 : UInt8) : Option HeaderRule :=
  headerRules.find? (·.opcode7 == opcode7)

/-- `RespDecision`. -/
structure RespDecision where
  policy : ResponsePolicy
  respType : UInt8
  deriving DecidableEq

/-- `decide_response`. -/
def decideResponse (inType inBodyLen : UInt8) : RespDecision :=
  let dir := typeDir inType
  match headerFindRule (typeBase inType) with
  | none => ⟨.none, 0⟩
  | some r =>
    if r.reqDir ≠ dir then ⟨.none, 0⟩
    else if r.reqLen ≠ 0 ∧ inBodyLen ≠ r.reqLen then ⟨.none, 0⟩
    else
      match r.policy with
      | .ack => ⟨.ack, makeType (flipDir dir) opcAck⟩
      | .specific => ⟨.specific, makeType (flipDir dir) r.rspOpcode7⟩
      | .none => ⟨.none, 0⟩

/-- The host's mirror has the rules of the header, in their order. -/
theorem headerRules_mirrored : headerRules.map (·.toPacketRule) = rules := rfl

/-- So the host and the nodes find the same rule for an opcode. -/
theorem findRule_eq (opcode7 : UInt8) :
    findRule opcode7 = (headerFindRule (typeBase opcode7)).map (·.toPacketRule) := by
  rw [findRule, headerFindRule, ← headerRules_mirrored, List.find?_map]
  rfl

/-- A rule that is found is one of the table, and is the opcode's. -/
theorem mem_of_headerFindRule {opcode7 : UInt8} {r : HeaderRule}
    (h : headerFindRule opcode7 = some r) : r ∈ headerRules ∧ r.opcode7 = opcode7 := by
  have hopcode : (r.opcode7 == opcode7) = true :=
    List.find?_some (p := fun r : HeaderRule => r.opcode7 == opcode7) h
  exact ⟨List.mem_of_find?_eq_some h, beq_iff_eq.mp hopcode⟩

/-- Every rule is found: the opcodes are different. -/
theorem headerFindRule_self {r : HeaderRule} (h : r ∈ headerRules) :
    headerFindRule r.opcode7 = some r := by
  simp only [headerRules, List.mem_cons, List.not_mem_nil, or_false] at h
  rcases h with rfl | rfl | rfl | rfl | rfl | rfl | rfl | rfl | rfl <;> rfl

/-- What the table has in common: requests are the master's, opcodes have seven bits, and a reply of
its own has the opcode of its request. -/
theorem rules_regular : ∀ r ∈ headerRules, r.reqDir = dirM2N ∧ typeBase r.opcode7 = r.opcode7 ∧
    r.opcode7 ≠ opcAck ∧ (r.policy = .specific → r.rspOpcode7 = r.opcode7) := by
  decide

theorem responsePolicy_eq (opcode7 : UInt8) :
    responsePolicy opcode7 = ((headerFindRule (typeBase opcode7)).map (·.policy)).getD .none := by
  rw [responsePolicy, findRule_eq, Option.map_map]
  rfl

/-! ## 3. What a node decides on -/

/-- The length that the rule asks of a request. -/
def HeaderRule.Takes (r : HeaderRule) (bodyLen : UInt8) : Prop := r.reqLen = 0 ∨ bodyLen = r.reqLen

/-- The decision on a request of the rule. -/
def HeaderRule.decision (r : HeaderRule) : RespDecision :=
  match r.policy with
  | .ack => ⟨.ack, makeType dirN2M opcAck⟩
  | .specific => ⟨.specific, makeType dirN2M r.rspOpcode7⟩
  | .none => ⟨.none, 0⟩

@[simp] theorem HeaderRule.policy_decision (r : HeaderRule) : r.decision.policy = r.policy := by
  unfold HeaderRule.decision
  cases r.policy <;> rfl

/-- **A request of the right length** is decided by its rule. -/
theorem decideResponse_eq {opcode7 bodyLen : UInt8} {r : HeaderRule}
    (hr : headerFindRule (typeBase opcode7) = some r) (htakes : r.Takes bodyLen) :
    decideResponse (makeType dirM2N opcode7) bodyLen = r.decision := by
  have hdir : r.reqDir = dirM2N := (rules_regular r (mem_of_headerFindRule hr).1).1
  have hlen : ¬ (r.reqLen ≠ 0 ∧ bodyLen ≠ r.reqLen) := by
    rintro ⟨hzero, hne⟩
    exact htakes.elim hzero hne
  unfold decideResponse
  simp only [typeBase_makeType, typeDir_makeType, hr]
  rw [if_neg (not_not.mpr hdir), if_neg hlen]
  rfl

/-- A request that is answered has a rule, and the length it asks for. -/
theorem exists_rule_of_decideResponse {opcode7 bodyLen : UInt8}
    (h : (decideResponse (makeType dirM2N opcode7) bodyLen).policy ≠ .none) :
    ∃ r, headerFindRule (typeBase opcode7) = some r ∧ r.Takes bodyLen := by
  cases hr : headerFindRule (typeBase opcode7) with
  | none =>
    refine absurd ?_ h
    unfold decideResponse
    simp only [typeBase_makeType, hr]
  | some r =>
    refine ⟨r, rfl, ?_⟩
    by_contra htakes
    refine h ?_
    have hlen : r.reqLen ≠ 0 ∧ bodyLen ≠ r.reqLen := not_or.mp htakes
    unfold decideResponse
    simp only [typeBase_makeType, typeDir_makeType, hr, if_pos hlen]
    split <;> rfl

/-! ## 4. What the host sends -/

/-- The send methods of the transport whose frame the gateway sends as one packet. -/
inductive HostRequest where
  /-- `send_get_devices`. -/
  | getDevices (groupId flags : Int)
  /-- `send_set_group`. -/
  | setGroup (groupId : Int)
  /-- `send_get_status`. -/
  | getStatus (groupId flags : Int)
  /-- `send_preset`. -/
  | preset (groupId flags presetId brightness : Int)
  /-- `send_control`. -/
  | control (groupId flags : Int) (fields : ControlFields)
  /-- `send_config`. -/
  | config (option data0 data1 data2 data3 : Int)
  /-- `send_sync`. -/
  | sync (ts24 brightness flags : Int)
  /-- `send_offset`. -/
  | offset (groupId : Int) (args : OffsetArgs)

def HostRequest.opcode7 : HostRequest → UInt8
  | .getDevices _ _ => opcDevices
  | .setGroup _ => opcSetGroup
  | .getStatus _ _ => opcStatus
  | .preset _ _ _ _ => opcPreset
  | .control _ _ _ => opcControl
  | .config _ _ _ _ _ => opcConfig
  | .sync _ _ _ => opcSync
  | .offset _ _ => opcOffset

/-- The body, or what its builder raises. -/
def HostRequest.body : HostRequest → Except PyErr (List UInt8)
  | .getDevices groupId flags => pure [byteOf groupId, byteOf flags]
  | .setGroup groupId => pure [byteOf groupId]
  | .getStatus groupId flags => pure [byteOf groupId, byteOf flags]
  | .preset groupId flags presetId brightness =>
    pure (buildPresetBody groupId flags presetId brightness)
  | .control groupId flags fields => buildControlBody groupId flags fields
  | .config option data0 data1 data2 data3 =>
    pure [byteOf option, byteOf data0, byteOf data1, byteOf data2, byteOf data3]
  | .sync ts24 brightness flags => pure (buildSyncBody ts24 brightness flags)
  | .offset groupId args => buildOffsetBodyOf groupId args

/-- The longest body of a packet. -/
def bodyMax : Nat := 22

/-- Every body fits into a packet. -/
theorem HostRequest.length_body_le {q : HostRequest} {body : List UInt8} (h : q.body = .ok body) :
    body.length ≤ bodyMax := by
  cases q with
  | control groupId flags fields => exact length_le_of_buildControlBody h
  | sync ts24 brightness flags =>
    cases h
    have hle := length_buildSyncBody_le ts24 brightness flags
    unfold bodyMax
    omega
  | offset groupId args =>
    obtain ⟨config, -, rfl⟩ := buildOffsetBodyOf_eq_ok.mp h
    have hle := config.bodyBytes_le
    rw [length_buildOffsetBody]
    unfold bodyMax
    omega
  | _ =>
    cases h
    exact Nat.le_of_ble_eq_true rfl

/-- The length of the body, where it has one length only. -/
def HostRequest.reqLen : HostRequest → UInt8
  | .getDevices _ _ => 2
  | .setGroup _ => 1
  | .getStatus _ _ => 2
  | .preset _ _ _ _ => 4
  | .control _ _ _ => 0
  | .config _ _ _ _ _ => 5
  | .sync _ _ _ => 0
  | .offset _ _ => 0

/-- Every body has the length that its rule asks for. -/
theorem HostRequest.exists_rule {q : HostRequest} {body : List UInt8} (h : q.body = .ok body) :
    ∃ r, headerFindRule (typeBase q.opcode7) = some r ∧ r.Takes (UInt8.ofNat body.length) := by
  have hrule : (headerFindRule (typeBase q.opcode7)).map (·.reqLen) = some q.reqLen := by
    cases q <;> simp only [HostRequest.opcode7, HostRequest.reqLen] <;> decide
  obtain ⟨r, hr, hlen⟩ := Option.map_eq_some_iff.mp hrule
  refine ⟨r, hr, ?_⟩
  unfold HeaderRule.Takes
  rw [hlen]
  cases q with
  | control groupId flags fields => exact .inl rfl
  | sync ts24 brightness flags => exact .inl rfl
  | offset groupId args => exact .inl rfl
  | _ =>
    cases h
    exact .inr rfl

/-- **The nodes answer what the host waits for**: for every send, a node decides on the reply of the
host's rules. -/
theorem decideResponse_hostRequest {q : HostRequest} {body : List UInt8} (h : q.body = .ok body) :
    (decideResponse (makeType dirM2N q.opcode7) (UInt8.ofNat body.length)).policy =
      responsePolicy q.opcode7 := by
  obtain ⟨r, hr, htakes⟩ := q.exists_rule h
  rw [decideResponse_eq hr htakes, responsePolicy_eq, hr, HeaderRule.policy_decision]
  rfl

/-! ## 5. What a reply answers -/

/-- A reply answers a request with the opcode of a rule where it is the reply that the rule has. -/
theorem answers_rule_iff {r : HeaderRule} (hr : r ∈ headerRules) {ev : ReplyEvent} :
    ev.answers r.opcode7 = true ↔
      r.policy = .ack ∧ ev.opc = opcAck ∧ ev.ackOf = some r.opcode7 ∨
        r.policy = .specific ∧ ev.opc = r.rspOpcode7 := by
  obtain ⟨-, hseven, -, hrsp⟩ := rules_regular r hr
  unfold ReplyEvent.answers
  rw [responsePolicy_eq, responseOpcode, findRule_eq, hseven, headerFindRule_self hr]
  simp only [Option.map_some, Option.getD_some]
  cases hpolicy : r.policy with
  | none => simp
  | ack => simp
  | specific =>
    have hmask : r.rspOpcode7 &&& 0x7F = r.rspOpcode7 := by
      rw [hrsp hpolicy]
      exact hseven
    simp [hmask]

/-- An opcode that a reply answers has a rule. -/
theorem exists_rule_of_answers {ev : ReplyEvent} {opcode7 : UInt8}
    (hmasked : typeBase opcode7 = opcode7) (h : ev.answers opcode7 = true) :
    ∃ r ∈ headerRules, r.opcode7 = opcode7 := by
  unfold ReplyEvent.answers at h
  rw [responsePolicy_eq, hmasked] at h
  cases hr : headerFindRule opcode7 with
  | none =>
    rw [hr] at h
    cases h
  | some r => exact ⟨r, mem_of_headerFindRule hr⟩

/-- **Replies are not mixed up**: the reply to a request answers requests with its opcode, and no
others. -/
theorem answers_iff {r : HeaderRule} (hr : r ∈ headerRules) {ev : ReplyEvent}
    (hev : r.policy = .ack ∧ ev.opc = opcAck ∧ ev.ackOf = some r.opcode7 ∨
      r.policy = .specific ∧ ev.opc = r.rspOpcode7) {opcode7 : UInt8}
    (hmasked : typeBase opcode7 = opcode7) : ev.answers opcode7 = true ↔ opcode7 = r.opcode7 := by
  constructor
  · intro hanswers
    obtain ⟨r', hr', rfl⟩ := exists_rule_of_answers hmasked hanswers
    obtain ⟨-, -, hnotAck, hrsp⟩ := rules_regular r hr
    obtain ⟨-, -, hnotAck', hrsp'⟩ := rules_regular r' hr'
    -- an ACK names the opcode of its request, and no other reply has the opcode of ACKs
    rcases hev with ⟨-, hopc, hackOf⟩ | ⟨hspecific, hopc⟩ <;>
      rcases (answers_rule_iff hr').mp hanswers with ⟨-, hopc', hackOf'⟩ | ⟨hspecific', hopc'⟩
    · exact Option.some.inj (hackOf'.symm.trans hackOf)
    · exact absurd ((hrsp' hspecific').symm.trans (hopc'.symm.trans hopc)) hnotAck'
    · exact absurd ((hrsp hspecific).symm.trans (hopc.symm.trans hopc')) hnotAck
    · rw [← hrsp' hspecific', ← hopc', hopc, hrsp hspecific]
  · rintro rfl
    exact (answers_rule_iff hr).mpr hev

end RaceLink
