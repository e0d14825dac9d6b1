/-
# The pending expectation

A unicast request leaves an expectation behind: the next state event that is not `RX_WINDOW` takes
it as the end of the window and marks the device offline, unless the reply has come and cleared it
first.  Three functions share the one slot, and the stamp comes late: `_send_m2n` waits for
the outcome before it fans out `TX_M2N`, and only then `on_transport_tx` stamps the expectation.  By
then the reader can have handled the reply already.

Here is the sender thread with any number of requests, one after another, and the reader thread with
any frames, each step of both at a lock boundary.  `repliesCount_iff` says in which runs a device
that has replied is never marked offline for the request: those in which no expectation that was
stamped after its reply is swept.
-/
import RaceLink.Lts.Basic
import RaceLink.Protocol.Rules
import Mathlib.Logic.Function.Basic

namespace RaceLink

/-! ## 1. The state -/

/-- The link of a device in the repository.  A device is told apart by the last three bytes of its
address. -/
structure DeviceLink where
  linkOnline : Option Bool
  linkError : Option String
  /-- Not in the source: the request the device was marked offline for. -/
  missed : Option Nat

/-- `mark_online`. -/
def DeviceLink.markOnline (_ : DeviceLink) : DeviceLink := ⟨some true, none, none⟩

/-- `mark_offline`. -/
def DeviceLink.markOffline (reason : String) (request : Nat) (_ : DeviceLink) : DeviceLink :=
  ⟨some false, some reason, some request⟩

/-- The fields of `_pending_expect`.  Its `sender_last3` is the device's address. -/
structure Expectation where
  dev : List UInt8
  ruleName : String
  opcode7 : UInt8
  /-- Not in the source: which object this is, by its request. -/
  request : Nat
  /-- Not in the source: the reply had been handled before the stamp. -/
  late : Bool

/-- Where the sender thread is. -/
inductive SenderPhase where
  | idle
  /-- In the wait for the outcome. -/
  | waiting (request : Nat) (answered : Bool)
  /-- Past the wait and not in the listeners yet. -/
  | woken (request : Nat)

/-- Where the reader thread is, between two locks. -/
inductive RxPhase where
  | idle
  /-- The device is updated from the reply; `pending_try_match` has not read the expectation. -/
  | matching (ev : ReplyEvent)
  /-- It matched and has not marked the device online. -/
  | matched (p : Expectation)
  /-- `pending_window_closed` has not read the expectation. -/
  | sweeping
  /-- It read one and has not marked the device offline. -/
  | sweptAt (p : Expectation)
  /-- The expectation has not been cleared. -/
  | clearing (p : Expectation)

structure Watch where
  /-- The receiver and the opcode of every request that was written. -/
  requests : List (List UInt8 × UInt8)
  sender : SenderPhase
  pendingExpect : Option Expectation
  links : List UInt8 → Option DeviceLink
  rx : RxPhase
  /-- Not in the source: the requests whose reply was received after their frame was written. -/
  replied : List Nat

/-! ## 2. The steps -/

def gatewayStateRxWindow : UInt8 := 0x02

/-- `on_transport_tx`: the expectation it stamps, if it stamps one. -/
def onTransportTx (s : Watch) (request : Nat) (recv3 : List UInt8) (opc : UInt8) :
    Option Expectation :=
  let opcode7 := opc &&& 0x7F
  if recv3.length ≠ 3 ∨ recv3 = [0xFF, 0xFF, 0xFF] then none
  else match findRule opcode7, s.links recv3 with
    | some rule, some _ =>
      if requestDirection opcode7 ≠ dirM2N ∨ responsePolicy opcode7 = .none then none
      else some ⟨recv3, rule.name, opcode7, request, decide (request ∈ s.replied)⟩
    | _, _ => none

/-- The device update of `on_transport_event`: the device that sent an ACK or a status reply is
online, if it is known; the one that an identify reply names is, and becomes known. -/
def updateLinks (ev : ReplyEvent) (links : List UInt8 → Option DeviceLink) :
    List UInt8 → Option DeviceLink :=
  if ev.opc = opcAck then
    match ev.fields with
    | .ack _ _ _ => Function.update links ev.sender3 ((links ev.sender3).map (·.markOnline))
    | _ => links
  else if ev.opc = opcStatus ∧ ev.reply = "STATUS_REPLY" then
    Function.update links ev.sender3 ((links ev.sender3).map (·.markOnline))
  else if ev.opc = opcDevices ∧ ev.reply = "IDENTIFY_REPLY" then
    match ev.fields with
    | .identify _ _ _ mac6 =>
      Function.update links (mac6.drop 3)
        (some (((links (mac6.drop 3)).getD ⟨none, none, none⟩).markOnline))
    | _ => links
  else links

/-- The event is the device's reply to a request: an identify reply names its sender. -/
def ReplyEvent.repliesTo (ev : ReplyEvent) (request : List UInt8 × UInt8) : Bool :=
  ev.sender3 == request.1 && ev.answers (request.2 &&& 0x7F) &&
    match ev.fields with
    | .identify _ _ _ mac6 => mac6.drop 3 == ev.sender3
    | _ => ev.opc != opcDevices

/-- The match of `pending_try_match`. -/
def Expectation.matches (p : Expectation) (ev : ReplyEvent) : Bool :=
  ev.sender3 == p.dev && ev.answers p.opcode7

/-- `clear_pending_expect_if`. -/
def clearPendingExpectIf (expected : Expectation) (current : Option Expectation) :
    Option Expectation :=
  match current with
  | some p => if p.request = expected.request then none else some p
  | none => none

/-- The requests that a reply answers. -/
def Watch.answeredBy (s : Watch) (ev : ReplyEvent) : List Nat :=
  (List.range s.requests.length).filter fun i => (s.requests[i]?).any ev.repliesTo

/-- An outcome wakes the sender. -/
def SenderPhase.answered : SenderPhase → SenderPhase
  | .waiting request _ => .waiting request true
  | phase => phase

/-- `on_transport_event`, up to its first lock. -/
def Watch.received (s : Watch) : RxEvent → Watch
  | .txDone _ => { s with sender := s.sender.answered }
  | .txRejected _ _ _ _ => { s with sender := s.sender.answered }
  | .state _ stateByte _ _ =>
    if stateByte ≠ gatewayStateRxWindow then { s with rx := .sweeping } else s
  | .error _ => s
  | .reply ev =>
    { s with
      links := updateLinks ev s.links
      rx := .matching ev
      replied := s.replied ++ s.answeredBy ev }

/-- What the reader does up to its next lock. -/
def Watch.proceed (s : Watch) : Option Watch :=
  match s.rx with
  | .idle => none
  | .matching ev =>
    match s.pendingExpect with
    | some p => some { s with rx := if p.matches ev then .matched p else .idle }
    | none => some { s with rx := .idle }
  | .matched p =>
    some { s with
      links := Function.update s.links p.dev ((s.links p.dev).map (·.markOnline))
      rx := .clearing p }
  | .sweeping =>
    match s.pendingExpect with
    | some p => some { s with rx := .sweptAt p }
    | none => some { s with rx := .idle }
  | .sweptAt p =>
    some { s with
      links := Function.update s.links p.dev
        ((s.links p.dev).map (·.markOffline s!"Missing reply ({p.ruleName})" p.request))
      rx := .clearing p }
  | .clearing p =>
    some { s with pendingExpect := clearPendingExpectIf p s.pendingExpect, rx := .idle }

inductive WatchEvent where
  /-- The sender writes the frame of a request. -/
  | write (recv3 : List UInt8) (typeFull : UInt8)
  /-- Its wait ends, with the outcome or without. -/
  | wake (timeout : Bool)
  /-- It calls the listeners with `TX_M2N`. -/
  | fanOut
  /-- The reader handles a frame. -/
  | receive (f : GatewayFrame)
  /-- It goes on with it. -/
  | proceed

/-- The sender has called the listeners. -/
def Watch.fannedOut (s : Watch) (request : Nat) (recv3 : List UInt8) (opc : UInt8) : Watch :=
  { s with
    sender := .idle
    pendingExpect := (onTransportTx s request recv3 opc).orElse fun _ => s.pendingExpect }

/-- The state after an event; `none` when the event cannot happen. -/
def watchStep (s : Watch) : WatchEvent → Option Watch
  | .write recv3 typeFull =>
    match s.sender with
    | .idle => some { s with
        requests := s.requests ++ [(recv3, typeFull &&& 0x7F)]
        sender := .waiting s.requests.length false }
    | _ => none
  | .wake timeout =>
    match s.sender with
    | .waiting request answered =>
      if answered ∨ timeout then some { s with sender := .woken request } else none
    | _ => none
  | .fanOut =>
    match s.sender with
    | .woken request =>
      (s.requests[request]?).map fun r => s.fannedOut request r.1 r.2
    | _ => none
  | .receive f =>
    match s.rx with
    | .idle => some (((rxEvent f).map s.received).getD s)
    | _ => none
  | .proceed => s.proceed

/-- A repository, before the first request. -/
def watchStart (fleet : List UInt8 → Option (Option Bool × Option String)) : Watch :=
  { requests := []
    sender := .idle
    pendingExpect := none
    links := fun dev => (fleet dev).map fun link => ⟨link.1, link.2, none⟩
    rx := .idle
    replied := [] }

/-- The sender and the reader over a repository. -/
def watchSystem (fleet : List UInt8 → Option (Option Bool × Option String)) :
    Lts.System Watch WatchEvent := ⟨watchStart fleet, watchStep⟩

/-! ## 3. The promise and the condition -/

/-- No device is marked offline for a request that it has replied to. -/
def RepliesCount (s : Watch) : Prop :=
  ∀ dev link request, s.links dev = some link → link.linkOnline = some false →
    link.missed = some request → request ∉ s.replied

/-- An expectation that was stamped after its reply is not swept. -/
def StampedInTime (s : Watch) : WatchEvent → Prop
  | .proceed => ∀ p, s.rx = .sweptAt p → p.late = false
  | _ => True

/-! ## 4. What a reply does -/

/-- A reply that a request waits for is an ACK, a status reply or an identify reply. -/
theorem opc_of_answers {ev : ReplyEvent} {opcode7 : UInt8} (h : ev.answers opcode7 = true) :
    (ev.opc = opcAck ∧ ∃ ackOf status seq, ev.fields = .ack ackOf status seq) ∨
      ev.opc = opcStatus ∨ ev.opc = opcDevices := by
  have hspecific : ∀ rule ∈ rules, rule.policy = .specific →
      rule.rspOpcode7 &&& 0x7F = opcStatus ∨ rule.rspOpcode7 &&& 0x7F = opcDevices := by
    decide
  unfold ReplyEvent.answers at h
  split at h
  · rw [Bool.and_eq_true, beq_iff_eq, beq_iff_eq] at h
    obtain ⟨hopc, hack⟩ := h
    refine .inl ⟨hopc, ?_⟩
    unfold ReplyEvent.ackOf at hack
    split at hack
    · next heq => exact ⟨_, _, _, heq⟩
    · cases hack
  · next hpolicy =>
    unfold responsePolicy at hpolicy
    rw [beq_iff_eq, responseOpcode] at h
    cases hrule : findRule opcode7 with
    | none => rw [hrule] at h; cases h
    | some rule =>
      rw [hrule] at h hpolicy
      have hmem : rule ∈ rules := List.mem_of_find?_eq_some hrule
      have hopc : ev.opc = rule.rspOpcode7 &&& 0x7F := Option.some.inj h
      rw [hopc]
      exact .inr (hspecific rule hmem hpolicy)
  · cases h

/-- The parser names the replies. -/
theorem reply_of_rxEvent {f : GatewayFrame} {ev : ReplyEvent} (h : rxEvent f = some (.reply ev)) :
    (ev.opc = opcStatus → ev.reply = "STATUS_REPLY") ∧
      (ev.opc = opcDevices → ev.reply = "IDENTIFY_REPLY") := by
  obtain ⟨typeByte, data, rssi, snr, rfl⟩ := exists_parse_of_rxEvent h
  constructor
  · intro hopc
    have hopc : typeByte &&& 0x7F = 0x03 := hopc
    simp [parseReplyEvent, replyOf, hopc]
  · intro hopc
    have hopc : typeByte &&& 0x7F = 0x01 := hopc
    simp [parseReplyEvent, replyOf, hopc]

/-- The entry of one device is rewritten: it is marked online, and is not forgotten. -/
structure MarksOnline (links links' : List UInt8 → Option DeviceLink) (dev : List UInt8) :
    Prop where
  online : ∀ link, links' dev = some link → link.missed = none
  known : links dev ≠ none → links' dev ≠ none
  others : ∀ dev', dev' ≠ dev → links' dev' = links dev'

theorem marksOnline_update (links : List UInt8 → Option DeviceLink) (dev : List UInt8) :
    MarksOnline links (Function.update links dev ((links dev).map (·.markOnline))) dev := by
  refine ⟨fun link h => ?_, fun h => ?_, fun dev' h => Function.update_of_ne h _ _⟩
  · rw [Function.update_self] at h
    obtain ⟨_, -, rfl⟩ := Option.map_eq_some_iff.mp h
    rfl
  · rw [Function.update_self]
    simpa using h

theorem marksOnline_insert (links : List UInt8 → Option DeviceLink) (dev : List UInt8)
    (link : DeviceLink) :
    MarksOnline links (Function.update links dev (some link.markOnline)) dev := by
  refine ⟨fun link' h => ?_, fun _ => ?_, fun dev' h => Function.update_of_ne h _ _⟩
  · rw [Function.update_self] at h
    cases h
    rfl
  · rw [Function.update_self]
    exact Option.some_ne_none _

/-- A reply touches one device at most. -/
theorem updateLinks_cases (ev : ReplyEvent) (links : List UInt8 → Option DeviceLink) :
    updateLinks ev links = links ∨ ∃ dev, MarksOnline links (updateLinks ev links) dev := by
  unfold updateLinks
  split_ifs
  · split
    · exact .inr ⟨_, marksOnline_update links _⟩
    · exact .inl rfl
  · exact .inr ⟨_, marksOnline_update links _⟩
  · split
    · exact .inr ⟨_, marksOnline_insert links _ _⟩
    · exact .inl rfl
  · exact .inl rfl

/-- The reply to a request touches the device of the request. -/
theorem updateLinks_repliesTo {f : GatewayFrame} {ev : ReplyEvent}
    (hev : rxEvent f = some (.reply ev)) {request : List UInt8 × UInt8}
    (hreplies : ev.repliesTo request = true) (links : List UInt8 → Option DeviceLink) :
    MarksOnline links (updateLinks ev links) request.1 := by
  obtain ⟨hstatus, hdevices⟩ := reply_of_rxEvent hev
  simp only [ReplyEvent.repliesTo, Bool.and_eq_true, beq_iff_eq] at hreplies
  obtain ⟨⟨hsender, hanswers⟩, hnamed⟩ := hreplies
  rw [← hsender]
  rcases opc_of_answers hanswers with ⟨hopc, ackOf, status, seq, hfields⟩ | hopc | hopc
  · rw [updateLinks, if_pos hopc, hfields]
    exact marksOnline_update links _
  · have hack : ¬ ev.opc = opcAck := by rw [hopc]; decide
    rw [updateLinks, if_neg hack, if_pos ⟨hopc, hstatus hopc⟩]
    exact marksOnline_update links _
  · have hack : ¬ ev.opc = opcAck := by rw [hopc]; decide
    have hnot : ¬ (ev.opc = opcStatus ∧ ev.reply = "STATUS_REPLY") := by
      rw [hopc]
      exact fun h => absurd h.1 (by decide)
    rw [updateLinks, if_neg hack, if_neg hnot, if_pos ⟨hopc, hdevices hopc⟩]
    cases hfields : ev.fields with
    | identify version caps groupId mac6 =>
      rw [hfields, beq_iff_eq] at hnamed
      rw [← hnamed]
      exact marksOnline_insert links _ _
    | _ =>
      rw [hfields, hopc] at hnamed
      cases hnamed

/-- Whatever is marked online stays in the repository, and blames nobody. -/
theorem MarksOnline.link {links links' : List UInt8 → Option DeviceLink} {dev dev' : List UInt8}
    (h : MarksOnline links links' dev) {link : DeviceLink} (hlink : links' dev' = some link) :
    link.missed = none ∨ links dev' = some link := by
  by_cases heq : dev' = dev
  · subst heq
    exact .inl (h.online link hlink)
  · exact .inr ((h.others dev' heq).symm.trans hlink)

theorem MarksOnline.still_known {links links' : List UInt8 → Option DeviceLink}
    {dev dev' : List UInt8} (h : MarksOnline links links' dev) (hknown : links dev' ≠ none) :
    links' dev' ≠ none := by
  by_cases heq : dev' = dev
  · subst heq
    exact h.known hknown
  · rw [h.others dev' heq]
    exact hknown

/-- A device that is still marked was marked before. -/
theorem MarksOnline.still_missed {links links' : List UInt8 → Option DeviceLink}
    {dev dev' : List UInt8} (h : MarksOnline links links' dev) {link : DeviceLink} {request : Nat}
    (hlink : links' dev' = some link) (hmissed : link.missed = some request) :
    links dev' = some link := by
  rcases h.link hlink with hnone | hold
  · cases hnone.symm.trans hmissed
  · exact hold

/-! ## 5. What holds in every run -/

/-- The expectation is that of a request, for a device in the repository. -/
structure OfRequest (requests : List (List UInt8 × UInt8))
    (links : List UInt8 → Option DeviceLink) (replied : List Nat) (p : Expectation) : Prop where
  request : ∃ opc, requests[p.request]? = some (p.dev, opc) ∧ p.opcode7 = opc &&& 0x7F
  known : links p.dev ≠ none
  late : p.late = true → p.request ∈ replied

/-- The reader is about to clear the expectation. -/
def RxPhase.InHand (p : Expectation) : RxPhase → Prop
  | .matching ev => p.matches ev = true
  | .matched p' => p'.request = p.request
  | .clearing p' => p'.request = p.request
  | _ => False

/-- The invariant of the runs that meet the condition. -/
structure Tracked (s : Watch) : Prop where
  blamed : ∀ dev link request, s.links dev = some link → link.missed = some request →
    request ∉ s.replied ∧ ∃ opc, s.requests[request]? = some (dev, opc)
  expected : ∀ p, s.pendingExpect = some p → OfRequest s.requests s.links s.replied p ∧
    (p.late = false → p.request ∈ s.replied → s.rx.InHand p)
  swept : ∀ p, s.rx = .sweptAt p → OfRequest s.requests s.links s.replied p ∧
    (p.late = false → p.request ∉ s.replied)
  written : ∀ request ∈ s.replied, request < s.requests.length

/-- An expectation that the reader does not have in hand has had no reply. -/
theorem Tracked.not_replied {s : Watch} (hs : Tracked s) {p : Expectation}
    (hp : s.pendingExpect = some p) (hnot : ¬ s.rx.InHand p) (hlate : p.late = false) :
    p.request ∉ s.replied :=
  fun hmem => hnot ((hs.expected p hp).2 hlate hmem)

theorem Tracked.repliesCount {s : Watch} (h : Tracked s) : RepliesCount s :=
  fun dev link request hlink _ hmissed => (h.blamed dev link request hlink hmissed).1

/-- Requests are only added, devices stay known and replies stay received. -/
theorem OfRequest.mono {requests requests' : List (List UInt8 × UInt8)}
    {links links' : List UInt8 → Option DeviceLink} {replied replied' : List Nat} {p : Expectation}
    (h : OfRequest requests links replied p) (hrequests : requests <+: requests')
    (hlinks : ∀ dev, links dev ≠ none → links' dev ≠ none) (hreplied : replied ⊆ replied') :
    OfRequest requests' links' replied' p := by
  obtain ⟨opc, hopc, hopcode⟩ := h.request
  obtain ⟨rest, rfl⟩ := hrequests
  exact ⟨⟨opc, Lts.log_getElem? hopc, hopcode⟩, hlinks _ h.known,
    fun hlate => hreplied (h.late hlate)⟩

theorem tracked_write {s : Watch} (hs : Tracked s) (request : List UInt8 × UInt8)
    (sender : SenderPhase) :
    Tracked { s with requests := s.requests ++ [request], sender := sender } := by
  have hprefix : s.requests <+: s.requests ++ [request] := ⟨[request], rfl⟩
  constructor
  · intro dev link r hlink hmissed
    obtain ⟨hnot, opc, hopc⟩ := hs.blamed dev link r hlink hmissed
    exact ⟨hnot, opc, Lts.log_getElem? hopc⟩
  · intro p hp
    obtain ⟨hof, hinHand⟩ := hs.expected p hp
    exact ⟨hof.mono hprefix (fun _ => id) (fun _ => id), hinHand⟩
  · intro p hp
    obtain ⟨hof, hnot⟩ := hs.swept p hp
    exact ⟨hof.mono hprefix (fun _ => id) (fun _ => id), hnot⟩
  · intro r hr
    have hlt := hs.written r hr
    rw [List.length_append]
    omega

/-- What the listener stamps. -/
theorem onTransportTx_eq_some {s : Watch} {request : Nat} {recv3 : List UInt8} {opc : UInt8}
    {p : Expectation} (h : onTransportTx s request recv3 opc = some p) :
    p.dev = recv3 ∧ p.opcode7 = opc &&& 0x7F ∧ p.request = request ∧
      p.late = decide (request ∈ s.replied) ∧ s.links recv3 ≠ none := by
  simp only [onTransportTx, Option.ite_none_left_eq_some] at h
  obtain ⟨-, h⟩ := h
  split at h
  · next hrule hlink =>
    simp only [Option.ite_none_left_eq_some, Option.some.injEq] at h
    obtain ⟨-, rfl⟩ := h
    refine ⟨rfl, rfl, rfl, rfl, ?_⟩
    rw [hlink]
    exact Option.some_ne_none _
  · cases h

theorem tracked_fannedOut {s : Watch} (hs : Tracked s) {request : Nat} {recv3 : List UInt8}
    {opc : UInt8} (hrequest : s.requests[request]? = some (recv3, opc)) :
    Tracked (s.fannedOut request recv3 opc) := by
  refine ⟨hs.blamed, fun p hp => ?_, hs.swept, hs.written⟩
  cases htx : onTransportTx s request recv3 opc with
  | none =>
    refine hs.expected p ?_
    simpa [Watch.fannedOut, htx] using hp
  | some p' =>
    obtain rfl : p' = p := by simpa [Watch.fannedOut, htx] using hp
    obtain ⟨rfl, hopcode, rfl, hlate, hknown⟩ := onTransportTx_eq_some htx
    refine ⟨⟨⟨opc, hrequest, hopcode⟩, hknown, fun h => ?_⟩, fun h hmem => ?_⟩
    · rw [hlate] at h
      exact of_decide_eq_true h
    · rw [hlate] at h
      exact absurd hmem (of_decide_eq_false h)

/-- The requests that an event answers. -/
theorem mem_answeredBy {s : Watch} {ev : ReplyEvent} {request : Nat} :
    request ∈ s.answeredBy ev ↔ ∃ r, s.requests[request]? = some r ∧ ev.repliesTo r = true := by
  rw [Watch.answeredBy, List.mem_filter, List.mem_range, Option.any_eq_true]
  constructor
  · exact fun h => h.2
  · rintro ⟨r, hr, hreplies⟩
    exact ⟨(List.getElem?_eq_some_iff.mp hr).1, r, hr, hreplies⟩

theorem tracked_received {s : Watch} (hs : Tracked s) (hidle : s.rx = .idle) {f : GatewayFrame}
    {ev : RxEvent} (hev : rxEvent f = some ev) : Tracked (s.received ev) := by
  have hexpected : ∀ p, s.pendingExpect = some p → p.late = false → p.request ∉ s.replied :=
    fun p hp hlate => hs.not_replied hp (by rw [hidle]; exact id) hlate
  cases ev with
  | txDone lastLen => exact ⟨hs.blamed, hs.expected, hs.swept, hs.written⟩
  | txRejected typeFull opc reason reasonName =>
    exact ⟨hs.blamed, hs.expected, hs.swept, hs.written⟩
  | error data => exact hs
  | state type stateByte state metadataMs =>
    rw [Watch.received]
    split_ifs
    · refine ⟨hs.blamed, fun p hp => ⟨(hs.expected p hp).1, fun hlate hmem => ?_⟩, nofun,
        hs.written⟩
      exact absurd hmem (hexpected p hp hlate)
    · exact hs
  | reply ev =>
    have hmono : ∀ dev, s.links dev ≠ none → updateLinks ev s.links dev ≠ none := by
      intro dev hknown
      rcases updateLinks_cases ev s.links with heq | ⟨_, hmarks⟩
      · rw [heq]
        exact hknown
      · exact hmarks.still_known hknown
    refine ⟨fun dev link request hlink hmissed => ?_, fun p hp => ⟨?_, fun hlate hmem => ?_⟩, nofun,
      fun request hmem => ?_⟩
    · -- a device that is still marked has not sent this reply
      have hold : s.links dev = some link := by
        rcases updateLinks_cases ev s.links with heq | ⟨_, hmarks⟩
        · rw [← heq]
          exact hlink
        · exact hmarks.still_missed hlink hmissed
      obtain ⟨hnot, opc, hopc⟩ := hs.blamed dev link request hold hmissed
      refine ⟨fun hmem => ?_, opc, hopc⟩
      rcases List.mem_append.mp hmem with hmem | hmem
      · exact hnot hmem
      · obtain ⟨r, hr, hreplies⟩ := mem_answeredBy.mp hmem
        cases hopc.symm.trans hr
        have hnone := (updateLinks_repliesTo hev hreplies s.links).online link hlink
        cases hnone.symm.trans hmissed
    · exact (hs.expected p hp).1.mono (List.prefix_refl _) hmono (List.subset_append_left _ _)
    · -- the reply that came is the one that the expectation is for
      rcases List.mem_append.mp hmem with hmem | hmem
      · exact absurd hmem (hexpected p hp hlate)
      · obtain ⟨r, hr, hreplies⟩ := mem_answeredBy.mp hmem
        obtain ⟨opc, hopc, hopcode⟩ := (hs.expected p hp).1.request
        cases hopc.symm.trans hr
        simp only [ReplyEvent.repliesTo, Bool.and_eq_true] at hreplies
        simp only [Watch.received, RxPhase.InHand, Expectation.matches, Bool.and_eq_true, hopcode]
        exact hreplies.1
    · rcases List.mem_append.mp hmem with hmem | hmem
      · exact hs.written request hmem
      · obtain ⟨r, hr, -⟩ := mem_answeredBy.mp hmem
        exact (List.getElem?_eq_some_iff.mp hr).1

/-! The reader between its locks, phase by phase. -/

theorem tracked_idle {s : Watch} (hs : Tracked s) (hp : s.pendingExpect = none) :
    Tracked { s with rx := .idle } := by
  refine ⟨hs.blamed, fun p hp' => ?_, nofun, hs.written⟩
  cases hp.symm.trans hp'

theorem tracked_matching {s : Watch} (hs : Tracked s) {ev : ReplyEvent} (hrx : s.rx = .matching ev)
    {p : Expectation} (hp : s.pendingExpect = some p) :
    Tracked { s with rx := if p.matches ev then .matched p else .idle } := by
  have hswept : ∀ q, (if p.matches ev then RxPhase.matched p else .idle) ≠ .sweptAt q := by
    intro q
    split <;> nofun
  refine ⟨hs.blamed, fun p' hp' => ?_, fun q hq => absurd hq (hswept q), hs.written⟩
  cases hp.symm.trans hp'
  obtain ⟨hof, hinHand⟩ := hs.expected p hp
  refine ⟨hof, fun hlate hmem => ?_⟩
  rw [hrx] at hinHand
  have hmatches : p.matches ev = true := hinHand hlate hmem
  dsimp only
  rw [if_pos hmatches]
  rfl

theorem tracked_matched {s : Watch} (hs : Tracked s) {p : Expectation} (hrx : s.rx = .matched p) :
    Tracked { s with
      links := Function.update s.links p.dev ((s.links p.dev).map (·.markOnline))
      rx := .clearing p } := by
  have hmarks := marksOnline_update s.links p.dev
  refine ⟨fun dev link r hlink hmissed => ?_, fun p' hp' => ?_, nofun, hs.written⟩
  · exact hs.blamed dev link r (hmarks.still_missed hlink hmissed) hmissed
  · obtain ⟨hof, hinHand⟩ := hs.expected p' hp'
    refine ⟨hof.mono (List.prefix_refl _) (fun _ => hmarks.still_known) (fun _ => id), ?_⟩
    rw [hrx] at hinHand
    exact hinHand

theorem tracked_sweeping {s : Watch} (hs : Tracked s) (hrx : s.rx = .sweeping) {p : Expectation}
    (hp : s.pendingExpect = some p) : Tracked { s with rx := .sweptAt p } := by
  have hof := (hs.expected p hp).1
  have hnot : p.late = false → p.request ∉ s.replied :=
    hs.not_replied hp (by rw [hrx]; exact id)
  refine ⟨hs.blamed, fun p' hp' => ?_, fun p' hp' => ?_, hs.written⟩
  · cases hp.symm.trans hp'
    exact ⟨hof, fun hlate hmem => absurd hmem (hnot hlate)⟩
  · cases hp'
    exact ⟨hof, hnot⟩

/-- The device of an expectation that was stamped in time has not sent the reply it is marked
for. -/
theorem tracked_swept {s : Watch} (hs : Tracked s) {p : Expectation} (hrx : s.rx = .sweptAt p)
    (hintime : p.late = false) :
    Tracked { s with
      links := Function.update s.links p.dev
        ((s.links p.dev).map (·.markOffline s!"Missing reply ({p.ruleName})" p.request))
      rx := .clearing p } := by
  obtain ⟨hof, hnot⟩ := hs.swept p hrx
  refine ⟨fun dev link r hlink hmissed => ?_, fun p' hp' => ?_, nofun, hs.written⟩
  · dsimp only at hlink
    by_cases hdev : dev = p.dev
    · subst hdev
      rw [Function.update_self] at hlink
      obtain ⟨_, -, rfl⟩ := Option.map_eq_some_iff.mp hlink
      cases hmissed
      obtain ⟨opc, hopc, -⟩ := hof.request
      exact ⟨hnot hintime, opc, hopc⟩
    · rw [Function.update_of_ne hdev] at hlink
      exact hs.blamed dev link r hlink hmissed
  · refine ⟨(hs.expected p' hp').1.mono (List.prefix_refl _) (fun dev hknown => ?_)
      (fun _ => id), fun hlate hmem => ?_⟩
    · dsimp only
      by_cases hdev : dev = p.dev
      · subst hdev
        rw [Function.update_self]
        simpa using hknown
      · rw [Function.update_of_ne hdev]
        exact hknown
    · exact absurd hmem (hs.not_replied hp' (by rw [hrx]; exact id) hlate)

/-- An expectation that stays is not the one in hand. -/
theorem tracked_clearing {s : Watch} (hs : Tracked s) {p : Expectation}
    (hrx : s.rx = .clearing p) :
    Tracked { s with pendingExpect := clearPendingExpectIf p s.pendingExpect, rx := .idle } := by
  refine ⟨hs.blamed, fun p' hp' => ?_, nofun, hs.written⟩
  cases hp : s.pendingExpect with
  | none =>
    rw [hp] at hp'
    cases hp'
  | some q =>
    rw [hp, clearPendingExpectIf, Option.ite_none_left_eq_some] at hp'
    obtain ⟨hne, hq⟩ := hp'
    obtain rfl : q = p' := Option.some.inj hq
    refine ⟨(hs.expected q hp).1, fun hlate hmem => ?_⟩
    exact absurd hmem (hs.not_replied hp (by rw [hrx]; exact fun heq => hne heq.symm) hlate)

/-- The reader between its locks, in a run that meets the condition. -/
theorem tracked_proceed {s t : Watch} (hs : Tracked s) (hok : StampedInTime s .proceed)
    (h : s.proceed = some t) : Tracked t := by
  unfold Watch.proceed at h
  cases hrx : s.rx with
  | idle =>
    rw [hrx] at h
    cases h
  | matching ev =>
    simp only [hrx] at h
    split at h
    · next p hp => exact Option.some.inj h ▸ tracked_matching hs hrx hp
    · next hp => exact Option.some.inj h ▸ tracked_idle hs hp
  | matched p =>
    simp only [hrx] at h
    exact Option.some.inj h ▸ tracked_matched hs hrx
  | sweeping =>
    simp only [hrx] at h
    split at h
    · next p hp => exact Option.some.inj h ▸ tracked_sweeping hs hrx hp
    · next hp => exact Option.some.inj h ▸ tracked_idle hs hp
  | sweptAt p =>
    simp only [hrx] at h
    exact Option.some.inj h ▸ tracked_swept hs hrx (hok p hrx)
  | clearing p =>
    simp only [hrx] at h
    exact Option.some.inj h ▸ tracked_clearing hs hrx

theorem tracked_step {s t : Watch} {e : WatchEvent} (hs : Tracked s) (hok : StampedInTime s e)
    (h : watchStep s e = some t) : Tracked t := by
  cases e with
  | write recv3 typeFull =>
    simp only [watchStep] at h
    split at h
    · cases h
      exact tracked_write hs _ _
    · cases h
  | wake timeout =>
    simp only [watchStep] at h
    split at h
    · split_ifs at h
      cases h
      exact ⟨hs.blamed, hs.expected, hs.swept, hs.written⟩
    · cases h
  | fanOut =>
    simp only [watchStep] at h
    split at h
    · obtain ⟨r, hr, rfl⟩ := Option.map_eq_some_iff.mp h
      exact tracked_fannedOut hs hr
    · cases h
  | receive f =>
    simp only [watchStep] at h
    split at h
    · next hidle =>
      cases h
      cases hev : rxEvent f with
      | none => exact hs
      | some ev => exact tracked_received hs hidle hev
    · cases h
  | proceed => exact tracked_proceed hs hok h

/-- A sweep of an expectation that was stamped too late marks a device that has replied. -/
theorem not_repliesCount_of_late {s t : Watch} {e : WatchEvent} (hs : Tracked s)
    (hlate : ¬ StampedInTime s e) (h : watchStep s e = some t) : ¬ RepliesCount t := by
  cases e with
  | proceed =>
    simp only [StampedInTime, not_forall, Bool.not_eq_false] at hlate
    obtain ⟨p, hrx, hlate⟩ := hlate
    obtain ⟨hof, -⟩ := hs.swept p hrx
    simp only [watchStep, Watch.proceed, hrx] at h
    cases h
    intro hcount
    obtain ⟨link, hlink⟩ := Option.ne_none_iff_exists'.mp hof.known
    refine hcount p.dev (link.markOffline s!"Missing reply ({p.ruleName})" p.request) p.request ?_
      rfl rfl (hof.late hlate)
    dsimp only
    rw [Function.update_self, hlink]
    rfl
  | _ => exact absurd trivial hlate

theorem tracked_start (fleet : List UInt8 → Option (Option Bool × Option String)) :
    Tracked (watchStart fleet) := by
  refine ⟨fun dev link r hlink hmissed => ?_, nofun, nofun, by simp [watchStart]⟩
  obtain ⟨_, -, rfl⟩ := Option.map_eq_some_iff.mp hlink
  cases hmissed

/-- **When replies count.**  In a run of the sender and the reader, no device is ever left marked
offline for a request it has replied to exactly when no expectation is swept that was stamped after
its reply. -/
theorem repliesCount_iff {fleet : List UInt8 → Option (Option Bool × Option String)}
    {as : List WatchEvent} {s : Watch}
    (h : Lts.run (watchSystem fleet) (watchStart fleet) as = some s) :
    Lts.Throughout (watchSystem fleet) RepliesCount (watchStart fleet) as ↔
      Lts.RunMeets (watchSystem fleet) StampedInTime (watchStart fleet) as :=
  Lts.throughout_iff (fun _ => Tracked.repliesCount) (fun _ _ _ => tracked_step)
    (fun _ _ _ => not_repliesCount_of_late) (tracked_start fleet) h

/-! ## 6. Two runs -/

/-- A repository of one device. -/
def oneDevice (dev : List UInt8) : List UInt8 → Option (Option Bool × Option String) :=
  fun addr => if addr = dev then some (none, none) else none

/-- The gateway has gone idle. -/
def idleFrame : GatewayFrame := ⟨evStateChanged, [0x00, 0x00, 0x00]⟩

/-- The expectation of a `SET_GROUP` is stamped before the ACK. -/
def stampedFirst : List WatchEvent :=
  [.write [1, 2, 3] opcSetGroup, .receive ⟨evTxDone, [4]⟩, .wake false, .fanOut,
    .receive (ackFrame [1, 2, 3] opcSetGroup), .proceed, .proceed, .proceed, .receive idleFrame,
    .proceed]

/-- The ACK comes before the sender has woken. -/
def repliedFirst : List WatchEvent :=
  [.write [1, 2, 3] opcSetGroup, .receive ⟨evTxDone, [4]⟩,
    .receive (ackFrame [1, 2, 3] opcSetGroup), .proceed, .wake false, .fanOut,
    .receive idleFrame, .proceed, .proceed, .proceed]

theorem repliesCount_stampedFirst : ∃ s,
    Lts.run (watchSystem (oneDevice [1, 2, 3])) (watchStart (oneDevice [1, 2, 3])) stampedFirst
      = some s ∧
    (Lts.Throughout (watchSystem (oneDevice [1, 2, 3])) RepliesCount
        (watchStart (oneDevice [1, 2, 3])) stampedFirst ↔
      Lts.RunMeets (watchSystem (oneDevice [1, 2, 3])) StampedInTime
        (watchStart (oneDevice [1, 2, 3])) stampedFirst) := by
  obtain ⟨s, hs⟩ : ∃ s, Lts.run (watchSystem (oneDevice [1, 2, 3]))
      (watchStart (oneDevice [1, 2, 3])) stampedFirst = some s := ⟨_, rfl⟩
  exact ⟨s, hs, repliesCount_iff hs⟩

/-- The device has acknowledged the request, everything is processed, and it is marked offline for
the missing reply. -/
theorem repliesCount_repliedFirst : ∃ s link,
    Lts.run (watchSystem (oneDevice [1, 2, 3])) (watchStart (oneDevice [1, 2, 3])) repliedFirst
      = some s ∧
    s.sender = .idle ∧ s.rx = .idle ∧ s.links [1, 2, 3] = some link ∧ 0 ∈ s.replied ∧
    link.linkOnline = some false ∧ link.linkError = some "Missing reply (SET_GROUP)" ∧
    ¬ RepliesCount s := by
  refine ⟨_, _, rfl, rfl, rfl, rfl, by decide, rfl, rfl, fun hcount => ?_⟩
  exact hcount [1, 2, 3] _ 0 rfl rfl rfl (by decide)

end RaceLink
