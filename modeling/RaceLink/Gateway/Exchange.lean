/-
# Requests and replies on the air

A request of the host leaves the gateway as one packet.  A node that hears it decides by
`decide_response` whether it answers and of which type, and the reader hands each answer that comes
in to the registry of pending requests.  Packets are lost, late, and heard again; `P_Ack.seq` is
always 0, and nothing in a reply says which packet it is for.

The radio is the worst there is: a packet that was sent can be heard by any node it is for, any
number of times and as late as one likes, and so can an answer by the host.

* `completed_answered`: a request that is completed was answered by its own node, which had been
  sent a packet with the opcode of the request.
* `call_completes`: a request that waits can be completed from every state in which one of the
  host's packets for it has been sent.
* `call_goes_through`: a request that is registered can be sent, and then completed.
-/
import RaceLink.Gateway.PendingRequests
import RaceLink.Protocol.Header

namespace RaceLink

/-! ## 1. The nodes -/

/-- What a node puts into an answer. -/
inductive NodeReply where
  | identify (p : PIdentifyReply)
  | status (p : PStatusReply)
  /-- `seq` is 0. -/
  | ack (ackStatus : UInt8)

def NodeReply.opcode7 : NodeReply → UInt8
  | .identify _ => opcDevices
  | .status _ => opcStatus
  | .ack _ => opcAck

/-- The body of the answer; an ACK names the opcode of the request. -/
def NodeReply.bytes (echoOpcode7 : UInt8) : NodeReply → List UInt8
  | .identify p => p.bytes
  | .status p => p.bytes
  | .ack ackStatus => (PAck.mk echoOpcode7 ackStatus 0).bytes

/-- What a node sends when it hears a packet: nothing, if the packet is for another node or if
`decide_response` says so. -/
def nodeAnswer (node3 : Vector UInt8 3) (packet : List UInt8) (reply : NodeReply) :
    Option (List UInt8) :=
  (parseHeader packet).bind fun h =>
    let d := decideResponse h.type (UInt8.ofNat (packet.length - 7))
    if (h.receiver = node3 ∨ isBroadcast3 h.receiver = true) ∧ d.policy ≠ .none ∧
        d.respType = makeType dirN2M reply.opcode7 then
      some (build node3 h.sender d.respType (reply.bytes (typeBase h.type)))
    else none

/-- An answer on the air; the number of the packet it answers is not in it. -/
structure SentAnswer where
  node3 : Vector UInt8 3
  request : Nat
  packet : List UInt8

/-- The frame in which the gateway hands a packet on. -/
def SentAnswer.frame (a : SentAnswer) (rssi : Int16) (snr : Int8) : GatewayFrame :=
  ⟨a.packet[6]?.getD 0, a.packet ++ gatewayTrailer rssi snr⟩

/-! ## 2. The system -/

/-- The host, and what is on the air. -/
structure Network where
  registry : Registry
  /-- Not in the source: for whom each request is, and its opcode. -/
  calls : List (Vector UInt8 3 × UInt8)
  /-- The packets that the gateway has sent. -/
  sent : List (List UInt8)
  answers : List SentAnswer

inductive NetworkEvent where
  /-- `send_and_wait_for_reply` registers a request. -/
  | register (recv3 : Vector UInt8 3) (opcode7 : UInt8)
  /-- Its wait ends. -/
  | cancel (i : Nat)
  /-- The gateway sends a packet, for a call that waits or for another one. -/
  | transmit (recv3 : Vector UInt8 3) (opcode7 : UInt8) (body : List UInt8)
  /-- A node hears a packet, and answers it. -/
  | answer (node3 : Vector UInt8 3) (k : Nat) (reply : NodeReply)
  /-- The reader takes up an answer. -/
  | hear (j : Nat) (rssi : Int16) (snr : Int8)
  | complete
  | remove

namespace Network

def withRegistry (s : Network) (registry : Registry) : Network := { s with registry }

/-- A step of the registry. -/
def onRegistry (s : Network) (e : RegistryEvent) : Option Network :=
  (registryStep s.registry e).map s.withRegistry

def register (s : Network) (recv3 : Vector UInt8 3) (opcode7 : UInt8) (req : PendingRequest) :
    Network :=
  { s with
    registry := s.registry.registerRequest req
    calls := s.calls ++ [(recv3, opcode7)] }

def transmit (s : Network) (packet : List UInt8) : Network := { s with sent := s.sent ++ [packet] }

def addAnswer (s : Network) (a : SentAnswer) : Network := { s with answers := s.answers ++ [a] }

def step (gateway3 : Vector UInt8 3) (s : Network) : NetworkEvent → Option Network
  | .register recv3 opcode7 =>
    if isBroadcast3 recv3 = true then none
    else (pendingRequestFor recv3.toList opcode7).map (s.register recv3 opcode7)
  | .cancel i => s.onRegistry (.cancel i)
  | .transmit recv3 opcode7 body =>
    if body.length ≤ bodyMax then
      some (s.transmit (build gateway3 recv3 (makeType dirM2N opcode7) body))
    else none
  | .answer node3 k reply =>
    (s.sent[k]?).bind fun packet =>
      (nodeAnswer node3 packet reply).map fun bytes => s.addAnswer ⟨node3, k, bytes⟩
  | .hear j rssi snr =>
    (s.answers[j]?).bind fun a => s.onRegistry (.tryMatch (a.frame rssi snr))
  | .complete => s.onRegistry .complete
  | .remove => s.onRegistry .remove

/-- Nothing has been sent. -/
def start : Network := ⟨emptyRegistry, [], [], []⟩

end Network

/-- The host behind a gateway, and any number of nodes. -/
def networkSystem (gateway3 : Vector UInt8 3) : Lts.System Network NetworkEvent :=
  ⟨.start, Network.step gateway3⟩

/-- Whatever a send method builds, the gateway can send. -/
theorem Network.step_transmit {q : HostRequest} {body : List UInt8} (h : q.body = .ok body)
    (gateway3 recv3 : Vector UInt8 3) (s : Network) :
    s.step gateway3 (.transmit recv3 q.opcode7 body) =
      some (s.transmit (build gateway3 recv3 (makeType dirM2N q.opcode7) body)) :=
  if_pos (q.length_body_le h)

/-! ## 3. What an answer is -/

/-- The answer was given to a packet of the gateway by a node it was for. -/
def SentAnswer.Owed (gateway3 : Vector UInt8 3) (sent : List (List UInt8)) (a : SentAnswer) :
    Prop :=
  ∃ receiver opcode7 body reply, body.length ≤ bodyMax ∧
    sent[a.request]? = some (build gateway3 receiver (makeType dirM2N opcode7) body) ∧
    nodeAnswer a.node3 (build gateway3 receiver (makeType dirM2N opcode7) body) reply =
      some a.packet

/-- The opcodes of answers are those the host decodes. -/
theorem NodeReply.isReplyOpcode (reply : NodeReply) : IsReplyOpcode reply.opcode7 := by
  cases reply with
  | identify p => exact .inl rfl
  | status p => exact .inr (.inl rfl)
  | ack ackStatus => exact .inr (.inr rfl)

/-- The type of an answer says what kind of answer it is. -/
theorem respType_inj : ∀ r ∈ headerRules, ∀ opcode7 ∈ [opcDevices, opcStatus, opcAck],
    r.policy ≠ .none → r.decision.respType = makeType dirN2M opcode7 →
      r.policy = .ack ∧ opcode7 = opcAck ∨ r.policy = .specific ∧ opcode7 = r.rspOpcode7 := by
  decide +kernel

/-- **An answer is one to a request**: it is from a node the packet was for, and of the type that
the packet's rule has. -/
theorem nodeAnswer_eq_some {gateway3 receiver node3 : Vector UInt8 3} {opcode7 : UInt8}
    {body bytes : List UInt8} {reply : NodeReply}
    (h : nodeAnswer node3 (build gateway3 receiver (makeType dirM2N opcode7) body) reply =
      some bytes) : ∃ r ∈ headerRules, r.opcode7 = typeBase opcode7 ∧
        (receiver = node3 ∨ receiver = broadcast3) ∧
        (r.policy = .ack ∧ reply.opcode7 = opcAck ∨
          r.policy = .specific ∧ reply.opcode7 = r.rspOpcode7) ∧
        bytes = build node3 gateway3 (makeType dirN2M reply.opcode7) (reply.bytes r.opcode7) := by
  unfold nodeAnswer at h
  rw [parseHeader_build, Option.bind_some] at h
  simp only [typeBase_makeType] at h
  split at h
  · next hanswers =>
    obtain ⟨hfor, hpolicy, htype⟩ := hanswers
    cases h
    obtain ⟨r, hr, htakes⟩ := exists_rule_of_decideResponse hpolicy
    rw [decideResponse_eq hr htakes] at hpolicy htype ⊢
    obtain ⟨hmem, hopcode⟩ := mem_of_headerFindRule hr
    rw [HeaderRule.policy_decision] at hpolicy
    refine ⟨r, hmem, hopcode, hfor.imp_right beq_iff_eq.mp, ?_, by rw [htype, hopcode]⟩
    refine respType_inj r hmem _ ?_ hpolicy htype
    rcases reply.isReplyOpcode with hk | hk | hk <;> simp [hk]
  · cases h

/-- The reader's event of an answer. -/
theorem rxEvent_answer {gateway3 node3 : Vector UInt8 3} {reply : NodeReply} {echo : UInt8}
    {k : Nat} (rssi : Int16) (snr : Int8) :
    rxEvent (SentAnswer.frame ⟨node3, k, build node3 gateway3 (makeType dirN2M reply.opcode7)
        (reply.bytes echo)⟩ rssi snr) = some (.reply
      ⟨makeType dirN2M reply.opcode7, dirN2M, reply.opcode7, node3.toList, gateway3.toList,
        rssi.toInt, snr.toInt, (replyOf reply.opcode7 (reply.bytes echo)).1,
        (replyOf reply.opcode7 (reply.bytes echo)).2⟩) := by
  have hframe : SentAnswer.frame ⟨node3, k, build node3 gateway3 (makeType dirN2M reply.opcode7)
      (reply.bytes echo)⟩ rssi snr =
        replyFrame node3 gateway3 reply.opcode7 (reply.bytes echo) rssi snr := by
    unfold SentAnswer.frame replyFrame
    rw [getElem?_build, Option.getD_some]
  rw [hframe, rxEvent_replyFrame reply.isReplyOpcode]

/-- **What an answer says** to the reader: its sender is the node, and it answers requests with the
opcode of the packet that it was given to, and no others. -/
theorem nodeAnswer_event {gateway3 receiver node3 : Vector UInt8 3} {opcode7 : UInt8}
    {body bytes : List UInt8} {reply : NodeReply}
    (h : nodeAnswer node3 (build gateway3 receiver (makeType dirM2N opcode7) body) reply =
      some bytes) (k : Nat) (rssi : Int16) (snr : Int8) :
    ∃ ev, rxEvent (SentAnswer.frame ⟨node3, k, bytes⟩ rssi snr) = some (.reply ev) ∧
      ev.sender3 = node3.toList ∧
      ∀ asked : UInt8, ev.answers (typeBase asked) = true ↔ typeBase asked = typeBase opcode7 := by
  obtain ⟨r, hr, hopcode, -, hkind, rfl⟩ := nodeAnswer_eq_some h
  refine ⟨_, rxEvent_answer rssi snr, rfl, fun asked => ?_⟩
  rw [← hopcode]
  refine answers_iff hr ?_ (typeBase_typeBase asked)
  rcases hkind with ⟨hack, hreply⟩ | ⟨hspecific, hreply⟩
  · refine .inl ⟨hack, hreply, ?_⟩
    have hseven : r.opcode7 &&& 0x7F = r.opcode7 := (rules_regular r hr).2.1
    cases reply with
    | identify p => cases hreply
    | status p => cases hreply
    | ack ackStatus =>
      show some (r.opcode7 &&& 0x7F) = some r.opcode7
      rw [hseven]
  · exact .inr ⟨hspecific, hreply⟩

/-- A node has an answer to every request that the host waits for. -/
theorem exists_nodeAnswer {q : HostRequest} {body : List UInt8} (hbody : q.body = .ok body)
    (hpolicy : responsePolicy q.opcode7 ≠ .none) (gateway3 node3 : Vector UInt8 3) :
    ∃ reply bytes, nodeAnswer node3 (build gateway3 node3 (makeType dirM2N q.opcode7) body) reply =
      some bytes := by
  obtain ⟨r, hr, htakes⟩ := q.exists_rule hbody
  rw [← decideResponse_hostRequest hbody] at hpolicy
  have hreply : ∃ reply : NodeReply, r.decision.respType = makeType dirN2M reply.opcode7 := by
    rw [decideResponse_eq hr htakes, HeaderRule.policy_decision] at hpolicy
    have hmem := (mem_of_headerFindRule hr).1
    simp only [headerRules, List.mem_cons, List.not_mem_nil, or_false] at hmem
    rcases hmem with rfl | rfl | rfl | rfl | rfl | rfl | rfl | rfl | rfl
    · exact ⟨.identify ⟨0, 0, 0, #v[0, 0, 0, 0, 0, 0]⟩, rfl⟩
    · exact ⟨.ack 0, rfl⟩
    · exact ⟨.status ⟨0, 0, 0, 0, 0, 0, 0⟩, rfl⟩
    · exact absurd rfl hpolicy
    · exact absurd rfl hpolicy
    · exact ⟨.ack 0, rfl⟩
    · exact absurd rfl hpolicy
    · exact absurd rfl hpolicy
    · exact ⟨.ack 0, rfl⟩
  obtain ⟨reply, htype⟩ := hreply
  have hlen : (build gateway3 node3 (makeType dirM2N q.opcode7) body).length - 7 = body.length := by
    rw [length_build]
    omega
  have htype' : (decideResponse (makeType dirM2N q.opcode7) (UInt8.ofNat body.length)).respType =
      makeType dirN2M reply.opcode7 := by
    rw [decideResponse_eq hr htakes, htype]
  refine ⟨reply, build node3 gateway3 (makeType dirN2M reply.opcode7)
    (reply.bytes (typeBase q.opcode7)), ?_⟩
  unfold nodeAnswer
  rw [parseHeader_build, Option.bind_some, hlen]
  dsimp only
  rw [if_pos ⟨.inl rfl, hpolicy, htype'⟩, htype', typeBase_makeType]

/-! ## 4. What every run keeps -/

/-- A request as it was registered. -/
def PendingRequest.fresh (req : PendingRequest) : PendingRequest :=
  { req with reply := none, cancelled := false }

@[simp] theorem PendingRequest.matches_fresh (req : PendingRequest) (ev : ReplyEvent) :
    req.fresh.matches ev = req.matches ev := rfl

/-- The event is that of an answer on the air. -/
def Network.Heard (s : Network) (ev : ReplyEvent) : Prop :=
  ∃ a ∈ s.answers, ∃ rssi snr, rxEvent (a.frame rssi snr) = some (.reply ev)

/-- The books of the air: what is registered is what was called for, and every event that the reader
has or had in hand is that of an answer to one of the gateway's packets. -/
structure Network.Accounted (gateway3 : Vector UInt8 3) (s : Network) : Prop where
  registry : Kept s.registry
  calls : s.calls.length = s.registry.requests.length
  asked : ∀ (i : Nat) (req : PendingRequest) (recv3 : Vector UInt8 3) (opcode7 : UInt8),
    s.registry.requests[i]? = some req → s.calls[i]? = some (recv3, opcode7) →
      pendingRequestFor recv3.toList opcode7 = some req.fresh
  packets : ∀ packet ∈ s.sent, ∃ receiver opcode7 body, body.length ≤ bodyMax ∧
    packet = build gateway3 receiver (makeType dirM2N opcode7) body
  owed : ∀ a ∈ s.answers, a.Owed gateway3 s.sent
  handled : ∀ ev candidates registered,
    s.registry.rx = .snapshot ev candidates registered → s.Heard ev
  replied : ∀ (i : Nat) (req : PendingRequest) (n : Nat) (ev : ReplyEvent),
    s.registry.requests[i]? = some req → req.reply = some (n, ev) → s.Heard ev

/-- What a step of the registry other than a registration does to the requests: each stays what it
was registered as, and gets no reply but the event that the reader has in hand. -/
theorem registryStep_requests {s t : Registry} {e : RegistryEvent}
    (he : ∀ senderLast3 expectedKey policy, e ≠ .register senderLast3 expectedKey policy)
    (ht : registryStep s e = some t) : t.requests.length = s.requests.length ∧
      ∀ (i : Nat) (req' : PendingRequest), t.requests[i]? = some req' →
        ∃ req, s.requests[i]? = some req ∧ req'.fresh = req.fresh ∧
          (req'.reply = req.reply ∨ ∃ n ev candidates registered,
            s.rx = .snapshot ev candidates registered ∧ req'.reply = some (n, ev)) := by
  cases e with
  | register senderLast3 expectedKey policy => exact absurd rfl (he _ _ _)
  | cancel i =>
    obtain ⟨gone, -, rfl⟩ := Option.map_eq_some_iff.mp ht
    refine ⟨List.length_modify _ _ _, fun j req' hj => ?_⟩
    obtain ⟨req, hreq, rfl⟩ := exists_of_getElem?_changed hj
    refine ⟨req, hreq, ?_, .inl ?_⟩ <;> split_ifs <;> rfl
  | tryMatch f =>
    dsimp only [registryStep] at ht
    split at ht
    · cases ht
      exact ⟨rfl, fun j req' hj => ⟨req', hj, rfl, .inl rfl⟩⟩
    · cases ht
  | complete =>
    dsimp only [registryStep] at ht
    split at ht
    · next ev candidates registered hrx =>
      cases ht
      unfold Registry.complete
      split
      · refine ⟨List.length_modify _ _ _, fun j req' hj => ?_⟩
        obtain ⟨req, hreq, rfl⟩ := exists_of_getElem?_changed hj
        refine ⟨req, hreq, ?_, ?_⟩
        · split_ifs <;> rfl
        · split_ifs
          · exact .inr ⟨_, ev, candidates, registered, hrx, rfl⟩
          · exact .inl rfl
      · exact ⟨rfl, fun j req' hj => ⟨req', hj, rfl, .inl rfl⟩⟩
    · cases ht
  | remove =>
    dsimp only [registryStep] at ht
    split at ht
    · cases ht
      exact ⟨rfl, fun j req' hj => ⟨req', hj, rfl, .inl rfl⟩⟩
    · cases ht

/-- The reader takes an event in hand when it takes up its frame. -/
theorem registryStep_snapshot {s t : Registry} {e : RegistryEvent} (ht : registryStep s e = some t)
    {ev : ReplyEvent} {candidates : List (RequestKey × Nat)} {registered : List Nat}
    (hrx : t.rx = .snapshot ev candidates registered) :
    s.rx = .snapshot ev candidates registered ∨
      ∃ f, e = .tryMatch f ∧ rxEvent f = some (.reply ev) := by
  cases e with
  | register senderLast3 expectedKey policy =>
    cases ht
    exact .inl hrx
  | cancel i =>
    obtain ⟨gone, -, rfl⟩ := Option.map_eq_some_iff.mp ht
    exact .inl hrx
  | tryMatch f =>
    dsimp only [registryStep] at ht
    split at ht
    · next hev =>
      cases ht
      cases hrx
      exact .inr ⟨f, rfl, hev⟩
    · cases ht
  | complete =>
    dsimp only [registryStep] at ht
    split at ht
    · cases ht
      unfold Registry.complete at hrx
      split at hrx <;> cases hrx
    · cases ht
  | remove =>
    dsimp only [registryStep] at ht
    split at ht
    · cases ht
      cases hrx
    · cases ht

variable {gateway3 : Vector UInt8 3} {s t : Network}

/-- A step of the registry keeps the books, if the frame it takes up is that of an answer. -/
theorem Network.Accounted.onRegistry (h : s.Accounted gateway3) {e : RegistryEvent}
    (he : ∀ senderLast3 expectedKey policy, e ≠ .register senderLast3 expectedKey policy)
    (hframe : ∀ f ev, e = .tryMatch f → rxEvent f = some (.reply ev) → s.Heard ev)
    (ht : s.onRegistry e = some t) : t.Accounted gateway3 := by
  obtain ⟨registry, hregistry, rfl⟩ := Option.map_eq_some_iff.mp ht
  obtain ⟨hlength, hrequests⟩ := registryStep_requests he hregistry
  refine ⟨h.registry.step hregistry, h.calls.trans hlength.symm, ?_, h.packets, h.owed, ?_, ?_⟩
  · intro i req' recv3 opcode7 hreq' hcall
    obtain ⟨req, hreq, hfresh, -⟩ := hrequests i req' hreq'
    rw [hfresh]
    exact h.asked i req recv3 opcode7 hreq hcall
  · intro ev candidates registered hrx
    rcases registryStep_snapshot hregistry hrx with hold | ⟨f, rfl, hev⟩
    · exact h.handled ev candidates registered hold
    · exact hframe f ev rfl hev
  · intro i req' n ev hreq' hreply
    obtain ⟨req, hreq, -, hsame | ⟨n', ev', candidates, registered, hrx, hnew⟩⟩ :=
      hrequests i req' hreq'
    · exact h.replied i req n ev hreq (hsame ▸ hreply)
    · rw [hnew] at hreply
      cases hreply
      exact h.handled _ candidates registered hrx

/-- A registration keeps the books. -/
theorem Network.Accounted.register (h : s.Accounted gateway3) {recv3 : Vector UInt8 3}
    {opcode7 : UInt8} {new : PendingRequest}
    (hnew : pendingRequestFor recv3.toList opcode7 = some new) :
    (s.register recv3 opcode7 new).Accounted gateway3 := by
  have hfresh : new.reply = none ∧ new.fresh = new := by
    simp only [pendingRequestFor] at hnew
    split at hnew <;> cases hnew <;> exact ⟨rfl, rfl⟩
  have hold : ∀ (i : Nat) (req : PendingRequest),
      (s.register recv3 opcode7 new).registry.requests[i]? = some req →
        s.registry.requests[i]? = some req ∨ i = s.registry.requests.length ∧ req = new := by
    intro i req hreq
    by_cases hlt : i < s.registry.requests.length
    · exact .inl ((List.getElem?_append_left hlt).symm.trans hreq)
    · have hright := (List.getElem?_append_right (Nat.le_of_not_lt hlt)).symm.trans hreq
      have hzero := (List.getElem?_eq_some_iff.mp hright).1
      rw [List.length_singleton] at hzero
      exact .inr ⟨by omega, List.mem_singleton.mp (List.mem_of_getElem? hright)⟩
  have hnot : new.cancelled = false := congrArg PendingRequest.cancelled hfresh.2.symm
  refine ⟨h.registry.register hfresh.1 hnot, ?_, ?_, h.packets, h.owed, h.handled, ?_⟩
  · simp [Network.register, Registry.registerRequest, h.calls]
  · intro i req recv3' opcode7' hreq hcall
    rcases hold i req hreq with hreq | ⟨rfl, rfl⟩
    · have hlt := (List.getElem?_eq_some_iff.mp hreq).1
      refine h.asked i req recv3' opcode7' hreq ?_
      rwa [Network.register, List.getElem?_append_left (h.calls ▸ hlt)] at hcall
    · rw [Network.register, ← h.calls, List.getElem?_concat_length] at hcall
      cases hcall
      rw [hfresh.2]
      exact hnew
  · intro i req n ev hreq hreply
    rcases hold i req hreq with hreq | ⟨-, rfl⟩
    · exact h.replied i req n ev hreq hreply
    · rw [hfresh.1] at hreply
      cases hreply

/-- A packet that is sent keeps the books. -/
theorem Network.Accounted.transmit (h : s.Accounted gateway3) (receiver : Vector UInt8 3)
    (opcode7 : UInt8) {body : List UInt8} (hbody : body.length ≤ bodyMax) :
    (s.transmit (build gateway3 receiver (makeType dirM2N opcode7) body)).Accounted gateway3 := by
  refine ⟨h.registry, h.calls, h.asked, fun packet hpacket => ?_, fun a ha => ?_, h.handled,
    h.replied⟩
  · rcases List.mem_append.mp hpacket with hpacket | hpacket
    · exact h.packets packet hpacket
    · exact ⟨receiver, opcode7, body, hbody, List.mem_singleton.mp hpacket⟩
  · obtain ⟨receiver', opcode7', body', reply, hbody', hsent, hanswer⟩ := h.owed a ha
    exact ⟨receiver', opcode7', body', reply, hbody', Lts.log_getElem? hsent, hanswer⟩

/-- So does an answer that is given. -/
theorem Network.Accounted.addAnswer (h : s.Accounted gateway3) {new : SentAnswer}
    (hnew : new.Owed gateway3 s.sent) : (s.addAnswer new).Accounted gateway3 := by
  have hheard : ∀ ev, s.Heard ev → (s.addAnswer new).Heard ev := by
    rintro ev ⟨a, ha, hev⟩
    exact ⟨a, List.mem_append_left _ ha, hev⟩
  refine ⟨h.registry, h.calls, h.asked, h.packets, fun a ha => ?_,
    fun ev candidates registered hrx => hheard ev (h.handled ev candidates registered hrx),
    fun i req n ev hreq hreply => hheard ev (h.replied i req n ev hreq hreply)⟩
  rcases List.mem_append.mp ha with ha | ha
  · exact h.owed a ha
  · rw [List.mem_singleton.mp ha]
    exact hnew

/-- **Every step keeps the books.** -/
theorem Network.Accounted.step (h : s.Accounted gateway3) {e : NetworkEvent}
    (ht : s.step gateway3 e = some t) : t.Accounted gateway3 := by
  cases e with
  | register recv3 opcode7 =>
    dsimp only [Network.step] at ht
    split at ht
    · cases ht
    · obtain ⟨new, hnew, rfl⟩ := Option.map_eq_some_iff.mp ht
      exact h.register hnew
  | cancel i => exact h.onRegistry (by rintro _ _ _ ⟨⟩) (by rintro _ _ ⟨⟩) ht
  | transmit recv3 opcode7 body =>
    dsimp only [Network.step] at ht
    split at ht
    · next hbody =>
      cases ht
      exact h.transmit recv3 opcode7 hbody
    · cases ht
  | answer node3 k reply =>
    obtain ⟨packet, hpacket, hbytes⟩ := Option.bind_eq_some_iff.mp ht
    obtain ⟨bytes, hanswer, rfl⟩ := Option.map_eq_some_iff.mp hbytes
    obtain ⟨receiver, opcode7, body, hbody, rfl⟩ :=
      h.packets packet (List.mem_of_getElem? hpacket)
    exact h.addAnswer ⟨receiver, opcode7, body, reply, hbody, hpacket, hanswer⟩
  | hear j rssi snr =>
    obtain ⟨a, ha, hframe⟩ := Option.bind_eq_some_iff.mp ht
    refine h.onRegistry (by rintro _ _ _ ⟨⟩) ?_ hframe
    rintro f ev hf hev
    cases hf
    exact ⟨a, List.mem_of_getElem? ha, rssi, snr, hev⟩
  | complete => exact h.onRegistry (by rintro _ _ _ ⟨⟩) (by rintro _ _ ⟨⟩) ht
  | remove => exact h.onRegistry (by rintro _ _ _ ⟨⟩) (by rintro _ _ ⟨⟩) ht

theorem accounted_start (gateway3 : Vector UInt8 3) : Network.start.Accounted gateway3 :=
  ⟨kept_emptyRegistry, rfl, by rintro _ _ _ _ ⟨⟩, by rintro _ ⟨⟩, by rintro _ ⟨⟩,
    by rintro _ _ _ ⟨⟩, by rintro _ _ _ _ ⟨⟩⟩

theorem Network.Accounted.run (h : s.Accounted gateway3) {events : List NetworkEvent}
    (hrun : Lts.run (networkSystem gateway3) s events = some t) : t.Accounted gateway3 :=
  Lts.invariant_run (I := fun s => s.Accounted gateway3) (fun _ _ _ hs ht => hs.step ht) h hrun

/-- What a request that matches an event was made for: the event is from its node, and answers its
opcode. -/
theorem Network.Accounted.asked_of_matches (h : s.Accounted gateway3) {f : GatewayFrame}
    {ev : ReplyEvent} (hev : rxEvent f = some (.reply ev)) {i : Nat} {req : PendingRequest}
    (hi : s.registry.requests[i]? = some req) (hmatches : req.matches ev = true) :
    ∃ recv3 opcode7, s.calls[i]? = some (recv3, opcode7) ∧
      pendingRequestFor recv3.toList opcode7 = some req.fresh ∧ ev.sender3 = recv3.toList ∧
      ev.answers (typeBase opcode7) = true := by
  have hlt : i < s.calls.length := h.calls.symm ▸ (List.getElem?_eq_some_iff.mp hi).1
  obtain ⟨⟨recv3, opcode7⟩, hcall⟩ : ∃ call, s.calls[i]? = some call :=
    ⟨_, List.getElem?_eq_getElem hlt⟩
  have hasked := h.asked i req recv3 opcode7 hi hcall
  rw [← PendingRequest.matches_fresh, pendingRequestFor_matches hasked hev, Bool.and_eq_true,
    beq_iff_eq] at hmatches
  exact ⟨recv3, opcode7, hcall, hasked, hmatches⟩

/-! ## 5. What a completed request says -/

/-- The request `i` was made to a node, with an opcode, and `ev` is the event of an answer that this
node has given to a packet of the gateway with that opcode, sent to it or to all. -/
def Network.AnsweredBy (gateway3 : Vector UInt8 3) (s : Network) (i : Nat) (ev : ReplyEvent) :
    Prop :=
  ∃ recv3 opcode7 a rssi snr receiver sentOpcode7 body, s.calls[i]? = some (recv3, opcode7) ∧
    a ∈ s.answers ∧ a.node3 = recv3 ∧ rxEvent (a.frame rssi snr) = some (.reply ev) ∧
    s.sent[a.request]? = some (build gateway3 receiver (makeType dirM2N sentOpcode7) body) ∧
    (receiver = recv3 ∨ receiver = broadcast3) ∧ typeBase sentOpcode7 = typeBase opcode7

/-- **Replies are earned.**  In every state of every run, however packets and answers are lost, late
or heard again: a request that is completed was completed by an answer of its own node, which the
node gave to a packet that the gateway had sent to it, or to all, with the opcode of the request. -/
theorem completed_answered (gateway3 : Vector UInt8 3) (events : List NetworkEvent) (s : Network)
    (hrun : Lts.run (networkSystem gateway3) (networkSystem gateway3).init events = some s)
    (i : Nat) (req : PendingRequest) (n : Nat) (ev : ReplyEvent)
    (hreq : s.registry.requests[i]? = some req) (hreply : req.reply = some (n, ev)) :
    s.AnsweredBy gateway3 i ev := by
  have h : s.Accounted gateway3 := (accounted_start gateway3).run hrun
  obtain ⟨a, ha, rssi, snr, hev⟩ := h.replied i req n ev hreq hreply
  obtain ⟨recv3, opcode7, hcall, -, hfrom, hanswered⟩ :=
    h.asked_of_matches hev hreq (h.registry.replied i req n ev hreq hreply).1
  obtain ⟨receiver, sentOpcode7, body, reply, -, hsent, hanswer⟩ := h.owed a ha
  obtain ⟨-, -, -, hfor, -⟩ := nodeAnswer_eq_some hanswer
  obtain ⟨ev', hev', hsender, hanswers⟩ := nodeAnswer_event hanswer a.request rssi snr
  obtain rfl : ev = ev' := by
    rw [hev] at hev'
    cases hev'
    rfl
  have hnode : a.node3 = recv3 := Vector.toList_inj.mp (hsender.symm.trans hfrom)
  exact ⟨recv3, opcode7, a, rssi, snr, receiver, sentOpcode7, body, hcall, ha, hnode, hev, hsent,
    hnode ▸ hfor, ((hanswers opcode7).mp hanswered).symm⟩

/-- A group is set on one node, which answers twice; the second answer comes to nothing. -/
def setGroupRun : List NetworkEvent :=
  [.register #v[1, 2, 3] opcSetGroup, .transmit #v[1, 2, 3] opcSetGroup [4],
    .answer #v[1, 2, 3] 0 (.ack 0), .answer #v[1, 2, 3] 0 (.ack 0), .hear 0 0 0, .complete, .remove,
    .cancel 0, .hear 1 0 0, .complete]

theorem completed_answered_setGroup : ∃ s req n ev,
    Lts.run (networkSystem #v[9, 9, 9]) .start setGroupRun = some s ∧
    s.registry.requests[0]? = some req ∧ req.reply = some (n, ev) ∧
    s.AnsweredBy #v[9, 9, 9] 0 ev := by
  obtain ⟨s, req, n, ev, hrun, hreq, hreply⟩ : ∃ s req n ev,
      Lts.run (networkSystem #v[9, 9, 9]) .start setGroupRun = some s ∧
      s.registry.requests[0]? = some req ∧ req.reply = some (n, ev) := ⟨_, _, _, _, rfl, rfl, rfl⟩
  exact ⟨s, req, n, ev, hrun, hreq, hreply,
    completed_answered #v[9, 9, 9] setGroupRun s hrun 0 req n ev hreq hreply⟩

/-! ## 6. What can come of a request -/

/-- The request is registered. -/
def Network.Waits (s : Network) (i : Nat) : Prop :=
  ∃ req, s.registry.requests[i]? = some req ∧ i ∈ s.registry.byKey req.key

def Network.Completed (s : Network) (i : Nat) : Prop :=
  ∃ req, s.registry.requests[i]? = some req ∧ req.reply.isSome = true

/-- The nodes and the reader take a step, and the host does nothing else. -/
def NetworkEvent.isReception : NetworkEvent → Bool
  | .answer _ _ _ => true
  | .hear _ _ _ => true
  | .complete => true
  | .remove => true
  | _ => false

/-- The way of an answer from the node through the reader. -/
def answering (s : Network) (node3 : Vector UInt8 3) (k : Nat) (reply : NodeReply) :
    List NetworkEvent :=
  [.answer node3 k reply, .hear s.answers.length 0 0, .complete, .remove]

/-- Two requests that match one answer are in the same bucket. -/
theorem Network.Accounted.key_eq (h : s.Accounted gateway3) {f : GatewayFrame} {ev : ReplyEvent}
    (hev : rxEvent f = some (.reply ev)) {sentOpcode7 : UInt8}
    (hanswers : ∀ asked : UInt8,
      ev.answers (typeBase asked) = true ↔ typeBase asked = typeBase sentOpcode7)
    {i j : Nat} {req req' : PendingRequest} (hi : s.registry.requests[i]? = some req)
    (hj : s.registry.requests[j]? = some req') (hmatches : req.matches ev = true)
    (hmatches' : req'.matches ev = true) : req.key = req'.key := by
  obtain ⟨recv3, opcode7, -, hreq, hfrom, hanswered⟩ := h.asked_of_matches hev hi hmatches
  obtain ⟨recv3', opcode7', -, hreq', hfrom', hanswered'⟩ := h.asked_of_matches hev hj hmatches'
  have hsame : pendingRequestFor recv3.toList opcode7 =
      pendingRequestFor recv3'.toList opcode7' := by
    have hmask : opcode7 &&& 0x7F = opcode7' &&& 0x7F :=
      ((hanswers opcode7).mp hanswered).trans ((hanswers opcode7').mp hanswered').symm
    unfold pendingRequestFor
    rw [← hfrom, ← hfrom', hmask]
  rw [hreq, hreq', Option.some.injEq] at hsame
  have hkey : req.fresh.key = req'.fresh.key := congrArg PendingRequest.key hsame
  exact hkey

/-- **The reader finds one**: where a request of its kind waits, the first candidate that matches an
answer is of the same bucket. -/
theorem Network.Accounted.finds (h : s.Accounted gateway3) {f : GatewayFrame} {ev : ReplyEvent}
    (hev : rxEvent f = some (.reply ev)) {sentOpcode7 : UInt8}
    (hanswers : ∀ asked : UInt8,
      ev.answers (typeBase asked) = true ↔ typeBase asked = typeBase sentOpcode7)
    {i : Nat} {req : PendingRequest} (hi : s.registry.requests[i]? = some req)
    (hwaits : i ∈ s.registry.byKey req.key) (hmatches : req.matches ev = true) :
    ∃ c found, (candidatesOf s.registry.byKey ev).find?
        (fun c => s.registry.matchesAt ev c.2) = some (req.key, c) ∧
      c ∈ s.registry.byKey req.key ∧ s.registry.requests[c]? = some found := by
  have hcandidate : (req.key, i) ∈ candidatesOf s.registry.byKey ev :=
    mem_candidatesOf hev hmatches hwaits
  obtain ⟨⟨key, c⟩, hfind⟩ : ∃ c, (candidatesOf s.registry.byKey ev).find?
      (fun c => s.registry.matchesAt ev c.2) = some c := by
    rw [← Option.isSome_iff_exists, List.find?_isSome]
    refine ⟨_, hcandidate, ?_⟩
    rw [Registry.matchesAt, hi]
    exact hmatches
  have hmem : c ∈ s.registry.byKey key :=
    mem_byKey_of_mem_candidatesOf (List.mem_of_find?_eq_some hfind)
  obtain ⟨found, hfound, hkey, -⟩ := h.registry.bucket key c hmem
  have hfoundMatches : found.matches ev = true := by
    have hat : s.registry.matchesAt ev c = true :=
      List.find?_some (p := fun c : RequestKey × Nat => s.registry.matchesAt ev c.2) hfind
    rwa [Registry.matchesAt, hfound] at hat
  obtain rfl : key = req.key := by
    rw [← hkey]
    exact h.key_eq hev hanswers hfound hi hfoundMatches hmatches
  exact ⟨c, found, hfind, hmem, hfound⟩

/-- **One answer**: where a request of its kind waits, it completes one of the requests of that
bucket, and leaves the others. -/
theorem Network.Accounted.oneAnswer (h : s.Accounted gateway3) (hidle : s.registry.rx = .idle)
    {node3 : Vector UInt8 3} {sentOpcode7 : UInt8} {k : Nat} {body bytes : List UInt8}
    {reply : NodeReply}
    (hsent : s.sent[k]? = some (build gateway3 node3 (makeType dirM2N sentOpcode7) body))
    (hanswer : nodeAnswer node3 (build gateway3 node3 (makeType dirM2N sentOpcode7) body) reply =
      some bytes)
    {ev : ReplyEvent} (hev : rxEvent (SentAnswer.frame ⟨node3, k, bytes⟩ 0 0) = some (.reply ev))
    (hanswers : ∀ asked : UInt8,
      ev.answers (typeBase asked) = true ↔ typeBase asked = typeBase sentOpcode7)
    {i : Nat} {req : PendingRequest} (hi : s.registry.requests[i]? = some req)
    (hwaits : i ∈ s.registry.byKey req.key) (hmatches : req.matches ev = true) :
    ∃ t c, Lts.run (networkSystem gateway3) s (answering s node3 k reply) = some t ∧
      t.registry.rx = .idle ∧ t.sent = s.sent ∧ c ∈ s.registry.byKey req.key ∧
      t.registry.byKey req.key = (s.registry.byKey req.key).erase c ∧
      t.Completed c ∧
      ∀ j, j ≠ c → t.registry.requests[j]? = s.registry.requests[j]? := by
  obtain ⟨c, found, hfind, hmem, hfound⟩ := h.finds hev hanswers hi hwaits hmatches
  -- the four steps
  let completed : Registry :=
    { s.registry with
      requests := s.registry.requests.modify c (·.complete (s.registry.log.length, ev))
      rx := .completed req.key c
      log := s.registry.log ++ [s.registry.processed ev s.registry.registered (some c)] }
  let t : Network :=
    { s with
      answers := s.answers ++ [⟨node3, k, bytes⟩]
      registry := { completed with byKey := removeFrom completed.byKey req.key c, rx := .idle } }
  have hanswered : s.step gateway3 (.answer node3 k reply) =
      some (s.addAnswer ⟨node3, k, bytes⟩) := by
    dsimp only [Network.step]
    rw [hsent, Option.bind_some, hanswer, Option.map_some]
  have hheard : (s.addAnswer ⟨node3, k, bytes⟩).step gateway3 (.hear s.answers.length 0 0) =
      some ((s.addAnswer ⟨node3, k, bytes⟩).withRegistry
        { s.registry with
          rx := .snapshot ev (candidatesOf s.registry.byKey ev) s.registry.registered }) := by
    dsimp only [Network.step, Network.addAnswer, Network.onRegistry, registryStep]
    rw [List.getElem?_concat_length, Option.bind_some, hev, hidle]
    rfl
  have hcompleted : ((s.addAnswer ⟨node3, k, bytes⟩).withRegistry
        { s.registry with
          rx := .snapshot ev (candidatesOf s.registry.byKey ev) s.registry.registered }).step
      gateway3 .complete = some ((s.addAnswer ⟨node3, k, bytes⟩).withRegistry completed) := by
    dsimp only [Network.step, Network.withRegistry, Network.onRegistry, registryStep,
      Registry.complete]
    have hfind' : (candidatesOf s.registry.byKey ev).find? (fun c =>
        ({ s.registry with
          rx := .snapshot ev (candidatesOf s.registry.byKey ev) s.registry.registered } :
            Registry).matchesAt ev c.2) = some (req.key, c) := hfind
    rw [hfind']
    rfl
  have hremoved : ((s.addAnswer ⟨node3, k, bytes⟩).withRegistry completed).step gateway3 .remove =
      some t := rfl
  refine ⟨t, c, ?_, rfl, rfl, hmem, Function.update_self .., ?_, fun j hj => ?_⟩
  · rw [answering]
    simp only [Lts.run, networkSystem, hanswered, hheard, hcompleted, hremoved, Option.bind_some]
  · refine ⟨found.complete (s.registry.log.length, ev), ?_, rfl⟩
    show (s.registry.requests.modify c _)[c]? = _
    rw [getElem?_changed hfound, if_pos rfl]
  · show (s.registry.requests.modify c _)[j]? = _
    exact List.getElem?_modify_ne _ _ (fun hcj : c = j => hj hcj.symm)

/-- As many answers as there are requests in the bucket complete all of them. -/
theorem Network.Accounted.completes {n : Nat} (h : s.Accounted gateway3)
    (hidle : s.registry.rx = .idle) {node3 : Vector UInt8 3} {sentOpcode7 : UInt8} {k : Nat}
    {body bytes : List UInt8} {reply : NodeReply}
    (hsent : s.sent[k]? = some (build gateway3 node3 (makeType dirM2N sentOpcode7) body))
    (hanswer : nodeAnswer node3 (build gateway3 node3 (makeType dirM2N sentOpcode7) body) reply =
      some bytes)
    {ev : ReplyEvent} (hev : rxEvent (SentAnswer.frame ⟨node3, k, bytes⟩ 0 0) = some (.reply ev))
    (hanswers : ∀ asked : UInt8,
      ev.answers (typeBase asked) = true ↔ typeBase asked = typeBase sentOpcode7)
    {i : Nat} {req : PendingRequest} (hi : s.registry.requests[i]? = some req)
    (hwaits : i ∈ s.registry.byKey req.key) (hmatches : req.matches ev = true)
    (hn : (s.registry.byKey req.key).length = n) :
    ∃ more t, (∀ e ∈ more, e.isReception = true) ∧
      Lts.run (networkSystem gateway3) s more = some t ∧ t.Completed i := by
  induction n generalizing s with
  | zero =>
    rw [List.length_eq_zero_iff] at hn
    rw [hn] at hwaits
    cases hwaits
  | succ n ih =>
    obtain ⟨u, c, hrun, huIdle, huSent, hc, hbucket, hdone, hothers⟩ :=
      h.oneAnswer hidle hsent hanswer hev hanswers hi hwaits hmatches
    have hreception : ∀ e ∈ answering s node3 k reply, e.isReception = true := by
      simp [answering, NetworkEvent.isReception]
    by_cases hic : i = c
    · subst hic
      exact ⟨_, u, hreception, hrun, hdone⟩
    · have huWaits : i ∈ u.registry.byKey req.key := by
        rw [hbucket]
        exact (List.mem_erase_of_ne hic).mpr hwaits
      have huLength : (u.registry.byKey req.key).length = n := by
        rw [hbucket, List.length_erase_of_mem hc, hn, Nat.add_sub_cancel]
      obtain ⟨more, t, hmore, hrest, hdone⟩ :=
        ih (h.run hrun) huIdle (huSent ▸ hsent) (hothers i hic ▸ hi) huWaits huLength
      refine ⟨answering s node3 k reply ++ more, t, ?_, ?_, hdone⟩
      · intro e he
        exact (List.mem_append.mp he).elim (hreception e) (hmore e)
      · rw [Lts.run_append, hrun, Option.bind_some, hrest]

theorem Network.Waits.remove {i c : Nat} (hwaits : s.Waits i) (hic : i ≠ c) (key : RequestKey) :
    (s.withRegistry { s.registry with
      byKey := removeFrom s.registry.byKey key c, rx := .idle }).Waits i := by
  obtain ⟨req, hreq, hbucket⟩ := hwaits
  refine ⟨req, hreq, ?_⟩
  show i ∈ Function.update s.registry.byKey key _ req.key
  by_cases hkey : req.key = key
  · rw [hkey, Function.update_self]
    exact (List.mem_erase_of_ne hic).mpr (hkey ▸ hbucket)
  · rw [Function.update_of_ne hkey]
    exact hbucket

theorem Network.Waits.complete {i : Nat} (hwaits : s.Waits i) (ev : ReplyEvent)
    (candidates : List (RequestKey × Nat)) (registered : List Nat) :
    (s.withRegistry (s.registry.complete ev candidates registered)).Waits i := by
  obtain ⟨req, hreq, hbucket⟩ := hwaits
  unfold Registry.complete
  split
  · refine ⟨_, getElem?_changed hreq, ?_⟩
    split_ifs <;> exact hbucket
  · exact ⟨req, hreq, hbucket⟩

/-- The request has been completed, or it waits still and the reader is between two frames. -/
def Network.Settled (s : Network) (i : Nat) (t : Network) : Prop :=
  t.Completed i ∨ t.registry.rx = .idle ∧ t.calls = s.calls ∧ t.sent = s.sent ∧ t.Waits i

/-- What it has completed the reader removes. -/
theorem Network.Accounted.settles_completed (h : s.Accounted gateway3) {i : Nat}
    (hwaits : s.Waits i) {key : RequestKey} {c : Nat} (hrx : s.registry.rx = .completed key c) :
    ∃ more t, (∀ e ∈ more, e.isReception = true) ∧
      Lts.run (networkSystem gateway3) s more = some t ∧ s.Settled i t := by
  by_cases hic : i = c
  · subst hic
    obtain ⟨req, hreq, -, hreply⟩ := h.registry.completing key i hrx
    exact ⟨[], s, by simp, rfl, .inl ⟨req, hreq, hreply⟩⟩
  · refine ⟨[.remove], s.withRegistry { s.registry with
      byKey := removeFrom s.registry.byKey key c, rx := .idle },
      by simp [NetworkEvent.isReception], ?_, .inr ⟨rfl, rfl, rfl, hwaits.remove hic key⟩⟩
    simp only [Lts.run, networkSystem, Network.step, Network.onRegistry, registryStep, hrx,
      Option.map_some, Option.bind_some]

/-- **The reader gets done** with what it has in hand, whatever that is. -/
theorem Network.Accounted.settles (h : s.Accounted gateway3) {i : Nat} (hwaits : s.Waits i) :
    ∃ more t, (∀ e ∈ more, e.isReception = true) ∧
      Lts.run (networkSystem gateway3) s more = some t ∧ s.Settled i t := by
  cases hrx : s.registry.rx with
  | idle => exact ⟨[], s, by simp, rfl, .inr ⟨hrx, rfl, rfl, hwaits⟩⟩
  | completed key c => exact h.settles_completed hwaits hrx
  | snapshot ev candidates registered =>
    have hstep : s.step gateway3 .complete =
        some (s.withRegistry (s.registry.complete ev candidates registered)) := by
      simp only [Network.step, Network.onRegistry, registryStep, hrx, Option.map_some]
    have hwaits' := hwaits.complete ev candidates registered
    cases hrx' : (s.registry.complete ev candidates registered).rx with
    | idle =>
      refine ⟨[.complete], s.withRegistry (s.registry.complete ev candidates registered),
        by simp [NetworkEvent.isReception], ?_, .inr ⟨hrx', rfl, rfl, hwaits'⟩⟩
      simp only [Lts.run, networkSystem, hstep, Option.bind_some]
    | snapshot ev' candidates' registered' =>
      unfold Registry.complete at hrx'
      split at hrx' <;> cases hrx'
    | completed key c =>
      obtain ⟨more, t, hmore, hrun, hend⟩ := (h.step hstep).settles_completed hwaits' hrx'
      refine ⟨.complete :: more, t, ?_, ?_, hend⟩
      · simpa [NetworkEvent.isReception] using hmore
      · simp only [Lts.run, networkSystem, hstep, Option.bind_some]
        exact hrun

/-- Where a packet of its opcode has been sent to its node, a request that waits can be
completed. -/
theorem Network.Accounted.call_answered {gateway3 : Vector UInt8 3} {s : Network}
    (h : s.Accounted gateway3) {i : Nat} {recv3 : Vector UInt8 3} {q : HostRequest}
    {body : List UInt8} {k : Nat} (hcall : s.calls[i]? = some (recv3, q.opcode7))
    (hwaits : s.Waits i) (hbody : q.body = .ok body)
    (hsent : s.sent[k]? = some (build gateway3 recv3 (makeType dirM2N q.opcode7) body)) :
    ∃ more t, (∀ e ∈ more, e.isReception = true) ∧
      Lts.run (networkSystem gateway3) s more = some t ∧ t.Completed i := by
  obtain ⟨first, u, hfirst, hfirstRun, hdone | ⟨hidle, hcalls, hsame, req, hi, hbucket⟩⟩ :=
    h.settles hwaits
  · exact ⟨first, u, hfirst, hfirstRun, hdone⟩
  have hu : u.Accounted gateway3 := h.run hfirstRun
  have hasked := hu.asked i req recv3 q.opcode7 hi (hcalls ▸ hcall)
  have hpolicy : responsePolicy q.opcode7 ≠ .none := by
    intro hnone
    have hmask : q.opcode7 &&& 0x7F = q.opcode7 := by
      cases q <;> simp only [HostRequest.opcode7] <;> decide
    simp only [pendingRequestFor, hmask, hnone] at hasked
    cases hasked
  obtain ⟨reply, bytes, hanswer⟩ := exists_nodeAnswer hbody hpolicy gateway3 recv3
  obtain ⟨ev, hev, hsender, hanswers⟩ := nodeAnswer_event hanswer k 0 0
  have hmatches : req.matches ev = true := by
    rw [← PendingRequest.matches_fresh, pendingRequestFor_matches hasked hev, Bool.and_eq_true,
      beq_iff_eq]
    exact ⟨hsender, (hanswers q.opcode7).mpr rfl⟩
  obtain ⟨rest, t, hrest, hrestRun, hdone⟩ :=
    hu.completes hidle (hsame ▸ hsent) hanswer hev hanswers hi hbucket hmatches rfl
  refine ⟨first ++ rest, t, ?_, ?_, hdone⟩
  · intro e he
    exact (List.mem_append.mp he).elim (hfirst e) (hrest e)
  · rw [Lts.run_append, hfirstRun, Option.bind_some, hrestRun]

/-- **A call goes through.**  From every state of every run: where a request is registered, what the
host's send method of its opcode builds can be sent, and after it answers of the node alone, taken
up by the reader, lead to the completion of the request. -/
theorem call_goes_through (gateway3 : Vector UInt8 3) (events : List NetworkEvent) (s : Network)
    (hrun : Lts.run (networkSystem gateway3) (networkSystem gateway3).init events = some s)
    (i : Nat) (recv3 : Vector UInt8 3) (q : HostRequest) (body : List UInt8)
    (hcall : s.calls[i]? = some (recv3, q.opcode7)) (hwaits : s.Waits i)
    (hbody : q.body = .ok body) :
    ∃ more t, (∀ e ∈ more, e.isReception = true) ∧
      Lts.run (networkSystem gateway3) s (.transmit recv3 q.opcode7 body :: more) = some t ∧
      t.Completed i := by
  have hstep := Network.step_transmit hbody gateway3 recv3 s
  have hsent := ((accounted_start gateway3).run hrun).step hstep
  obtain ⟨more, t, hmore, hmoreRun, hdone⟩ :=
    hsent.call_answered hcall hwaits hbody (k := s.sent.length) (List.getElem?_concat_length)
  exact ⟨more, t, hmore, Option.bind_eq_some_iff.mpr ⟨_, hstep, hmoreRun⟩, hdone⟩

/-- **A request that waits can be completed.**  From every state of every run: where a request is
registered, and a packet that the host's send method builds with its opcode has been sent to its
node, answers of the node alone, taken up by the reader, lead to its completion, whatever other
requests wait and whatever the reader has in hand. -/
theorem call_completes (gateway3 : Vector UInt8 3) (events : List NetworkEvent) (s : Network)
    (hrun : Lts.run (networkSystem gateway3) (networkSystem gateway3).init events = some s)
    (i : Nat) (recv3 : Vector UInt8 3) (q : HostRequest) (body : List UInt8) (k : Nat)
    (hcall : s.calls[i]? = some (recv3, q.opcode7)) (hwaits : s.Waits i) (hbody : q.body = .ok body)
    (hsent : s.sent[k]? = some (build gateway3 recv3 (makeType dirM2N q.opcode7) body)) :
    ∃ more t, (∀ e ∈ more, e.isReception = true) ∧
      Lts.run (networkSystem gateway3) s more = some t ∧ t.Completed i :=
  ((accounted_start gateway3).run hrun).call_answered hcall hwaits hbody hsent

theorem call_completes_setGroup : ∃ s more t,
    Lts.run (networkSystem #v[9, 9, 9]) .start (setGroupRun.take 2) = some s ∧
    (∀ e ∈ more, e.isReception = true) ∧
    Lts.run (networkSystem #v[9, 9, 9]) s more = some t ∧ t.Completed 0 := by
  obtain ⟨s, hrun, hcall, hwaits, hsent⟩ : ∃ s,
      Lts.run (networkSystem #v[9, 9, 9]) .start (setGroupRun.take 2) = some s ∧
      s.calls[0]? = some (#v[1, 2, 3], opcSetGroup) ∧ s.Waits 0 ∧
      s.sent[0]? = some (build #v[9, 9, 9] #v[1, 2, 3] (makeType dirM2N opcSetGroup) [4]) :=
    ⟨_, rfl, rfl, ⟨_, rfl, List.mem_singleton_self 0⟩, rfl⟩
  obtain ⟨more, t, hmore⟩ := call_completes #v[9, 9, 9] (setGroupRun.take 2) s hrun 0
    #v[1, 2, 3] (.setGroup 4) [4] 0 hcall hwaits rfl hsent
  exact ⟨s, more, t, hrun, hmore⟩

end RaceLink
