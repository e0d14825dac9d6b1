/-
# The registry of pending requests

A sender that waits for a reply registers a request and cancels it when its wait ends; the reader
completes the first request that an incoming reply matches.  `try_match` holds the lock twice, once
for a snapshot of the candidates and once to remove the one it has completed, and completes it in
between, without the lock.  A cancel can fall there: the reply then goes to a waiter that has given
up, even when another one waits for it.

Here any number of senders register and cancel, at any time, and the reader handles one frame after
another in those three steps.  `Kept` is what the registry keeps in every run: a reply completes at
most one request, one of its own, and what is completed or cancelled is gone.  `matchedRight_iff`
says in which runs no reply is wasted either.
-/
import RaceLink.Lts.Basic
import RaceLink.Protocol.Rules
import Mathlib.Logic.Function.Basic
import Mathlib.Data.List.Nodup

namespace RaceLink

/-! ## 1. Requests -/

/-- The key of a bucket: sender, policy, opcode. -/
abbrev RequestKey := List UInt8 × ResponsePolicy × Nat

/-- A `PendingRequest`. -/
structure PendingRequest where
  senderLast3 : List UInt8
  /-- An opcode: that of the request for an ACK, that of the reply otherwise. -/
  expectedKey : Nat
  policy : ResponsePolicy
  /-- Its reply, once `done` is set, with the number of the event. -/
  reply : Option (Nat × ReplyEvent)
  /-- Not in the source: `cancel` was called for it. -/
  cancelled : Bool

/-- `matches`. -/
def PendingRequest.matches (req : PendingRequest) (ev : ReplyEvent) : Bool :=
  if ev.sender3 ≠ req.senderLast3 then false
  else
    let opc := ev.opc &&& 0x7F
    match req.policy with
    | .ack => opc == opcAck && ev.ackOf.map (·.toNat) == some req.expectedKey
    | .specific => opc.toNat == req.expectedKey
    | .none => false

/-- The key of its bucket. -/
def PendingRequest.key (req : PendingRequest) : RequestKey :=
  (req.senderLast3, req.policy, req.expectedKey)

/-- The request that `send_and_wait_for_reply` registers for a single receiver; without a reply
to wait for it registers none. -/
def pendingRequestFor (recv3 : List UInt8) (opcode7 : UInt8) : Option PendingRequest :=
  let opcode7 := opcode7 &&& 0x7F
  match responsePolicy opcode7 with
  | .none => none
  | .ack => some ⟨recv3, opcode7.toNat, .ack, none, false⟩
  | .specific =>
    some ⟨recv3, ((responseOpcode opcode7).getD opcode7).toNat, .specific, none, false⟩

/-- A request whose `reply` and `done` are set. -/
def PendingRequest.complete (req : PendingRequest) (reply : Nat × ReplyEvent) : PendingRequest :=
  { req with reply := some reply }

/-- A request that `cancel` was called for. -/
def PendingRequest.giveUp (req : PendingRequest) : PendingRequest := { req with cancelled := true }

/-! ## 2. The registry -/

/-- How the reader has handled an event.  Not in the source. -/
structure Processed where
  /-- The request it completed. -/
  completed : Option Nat
  /-- That request had been cancelled before. -/
  gaveUp : Bool
  /-- The matching requests that were registered at the snapshot and not cancelled since. -/
  waiting : List Nat

/-- Where the reader is in `try_match`. -/
inductive MatchPhase where
  | idle
  /-- It has the candidates, and has released the lock.  The second list is not in the source: all
  that was registered. -/
  | snapshot (ev : ReplyEvent) (candidates : List (RequestKey × Nat)) (registered : List Nat)
  /-- It has completed a request and not removed it. -/
  | completed (key : RequestKey) (i : Nat)

structure Registry where
  /-- Every request that was registered, by number. -/
  requests : List PendingRequest
  /-- `_by_key`; a missing bucket is empty. -/
  byKey : RequestKey → List Nat
  rx : MatchPhase
  log : List Processed

inductive RegistryEvent where
  | register (senderLast3 : List UInt8) (expectedKey : Nat) (policy : ResponsePolicy)
  | cancel (i : Nat)
  /-- `try_match` takes its snapshot. -/
  | tryMatch (f : GatewayFrame)
  /-- It completes the first candidate that matches, if there is one. -/
  | complete
  /-- It removes what it has completed. -/
  | remove

/-- The candidates of an event, in order. -/
def candidatesOf (byKey : RequestKey → List Nat) (ev : ReplyEvent) : List (RequestKey × Nat) :=
  let opc := ev.opc &&& 0x7F
  let bucket (key : RequestKey) : List (RequestKey × Nat) := (byKey key).map (key, ·)
  (match ev.ackOf with
    | some ackOf =>
      if opc = opcAck then bucket (ev.sender3, .ack, (ackOf &&& 0x7F).toNat) else []
    | none => []) ++
  bucket (ev.sender3, .specific, opc.toNat)

/-- The request of a number matches. -/
def Registry.matchesAt (s : Registry) (ev : ReplyEvent) (i : Nat) : Bool :=
  (s.requests[i]?).any (·.matches ev)

/-- The request of a number was cancelled. -/
def Registry.cancelledAt (s : Registry) (i : Nat) : Bool := (s.requests[i]?).any (·.cancelled)

/-- The requests in the buckets. -/
def Registry.registered (s : Registry) : List Nat :=
  (List.range s.requests.length).filter fun i =>
    (s.requests[i]?).any fun req => (s.byKey req.key).contains i

/-- `register`. -/
def Registry.registerRequest (s : Registry) (req : PendingRequest) : Registry :=
  { s with
    requests := s.requests ++ [req]
    byKey := Function.update s.byKey req.key (s.byKey req.key ++ [s.requests.length]) }

/-- `cancel`, and the removal of `try_match`. -/
def removeFrom (byKey : RequestKey → List Nat) (key : RequestKey) (i : Nat) :
    RequestKey → List Nat :=
  Function.update byKey key ((byKey key).erase i)

/-- The entry for an event whose candidates are decided. -/
def Registry.processed (s : Registry) (ev : ReplyEvent) (registered : List Nat)
    (completed : Option Nat) : Processed :=
  { completed := completed
    gaveUp := completed.any s.cancelledAt
    waiting := registered.filter fun i => s.matchesAt ev i && !s.cancelledAt i }

/-- The loop of `try_match` up to the removal: the first candidate that matches is completed. -/
def Registry.complete (s : Registry) (ev : ReplyEvent) (candidates : List (RequestKey × Nat))
    (registered : List Nat) : Registry :=
  match candidates.find? fun c => s.matchesAt ev c.2 with
  | some (key, i) =>
    { s with
      requests := s.requests.modify i (·.complete (s.log.length, ev))
      rx := .completed key i
      log := s.log ++ [s.processed ev registered (some i)] }
  | none => { s with rx := .idle, log := s.log ++ [s.processed ev registered none] }

/-- The state after an event; `none` when the event cannot happen. -/
def registryStep (s : Registry) : RegistryEvent → Option Registry
  | .register senderLast3 expectedKey policy =>
    some (s.registerRequest ⟨senderLast3, expectedKey, policy, none, false⟩)
  | .cancel i =>
    (s.requests[i]?).map fun req =>
      { s with
        requests := s.requests.modify i PendingRequest.giveUp
        byKey := removeFrom s.byKey req.key i }
  | .tryMatch f =>
    match s.rx, rxEvent f with
    | .idle, some (.reply ev) =>
      some { s with rx := .snapshot ev (candidatesOf s.byKey ev) s.registered }
    | _, _ => none
  | .complete =>
    match s.rx with
    | .snapshot ev candidates registered => some (s.complete ev candidates registered)
    | _ => none
  | .remove =>
    match s.rx with
    | .completed key i => some { s with byKey := removeFrom s.byKey key i, rx := .idle }
    | _ => none

/-- The empty registry. -/
def emptyRegistry : Registry := ⟨[], fun _ => [], .idle, []⟩

/-- Any number of senders and the reader. -/
def registrySystem : Lts.System Registry RegistryEvent := ⟨emptyRegistry, registryStep⟩

/-! ## 3. The promise and the condition -/

/-- What a request waits for: from its sender, an ACK of its opcode or a reply with its opcode. -/
def PendingRequest.Expects (req : PendingRequest) (ev : ReplyEvent) : Prop :=
  ev.sender3 = req.senderLast3 ∧
    (req.policy = .ack ∧ ev.opc &&& 0x7F = opcAck ∧
        (∃ ackOf, ev.ackOf = some ackOf ∧ ackOf.toNat = req.expectedKey) ∨
      req.policy = .specific ∧ (ev.opc &&& 0x7F).toNat = req.expectedKey)

/-- The promise of the registry. -/
structure MatchedRight (s : Registry) : Prop where
  /-- An event completes at most one request. -/
  oneRequest : ∀ (i j : Nat) (req req' : PendingRequest) (n : Nat) (ev ev' : ReplyEvent),
    s.requests[i]? = some req → s.requests[j]? = some req' →
      req.reply = some (n, ev) → req'.reply = some (n, ev') → i = j
  /-- A request is completed at most once. -/
  once : (s.log.filterMap (·.completed)).Nodup
  /-- What completes it is from its sender, with its opcode. -/
  own : ∀ (i : Nat) (req : PendingRequest) (n : Nat) (ev : ReplyEvent), s.requests[i]? = some req →
    req.reply = some (n, ev) → req.Expects ev
  /-- Once `try_match` has returned, the request it completed is not registered. -/
  returned : ∀ p ∈ s.log, ∀ i, p.completed = some i →
    (∃ key, s.rx = .completed key i) ∨ ∀ key, i ∉ s.byKey key
  /-- Once `cancel` has returned, the request it cancelled is not registered. -/
  cancelled : ∀ i, s.cancelledAt i = true → ∀ key, i ∉ s.byKey key
  /-- An event that a registered request waits for completes one that has not been cancelled. -/
  notWasted : ∀ p ∈ s.log, p.waiting ≠ [] → (∃ i, p.completed = some i) ∧ p.gaveUp = false

/-- The request that is completed has not been cancelled since the snapshot, unless every other
candidate that matches has been too. -/
def WaiterStays (s : Registry) : RegistryEvent → Prop
  | .complete => ∀ ev candidates registered c, s.rx = .snapshot ev candidates registered →
    candidates.find? (fun c => s.matchesAt ev c.2) = some c → s.cancelledAt c.2 = true →
      ∀ c' ∈ candidates, s.matchesAt ev c'.2 = true → s.cancelledAt c'.2 = true
  | _ => True

/-! ## 4. Matching -/

/-- `matches` is right. -/
theorem PendingRequest.matches_iff {req : PendingRequest} {ev : ReplyEvent} :
    req.matches ev = true ↔ req.Expects ev := by
  unfold PendingRequest.matches PendingRequest.Expects
  by_cases hsender : ev.sender3 = req.senderLast3
  · rw [if_neg (not_not.mpr hsender), and_iff_right hsender]
    cases req.policy with
    | ack =>
      simp only [Bool.and_eq_true, beq_iff_eq, Option.map_eq_some_iff, true_and, reduceCtorEq,
        false_and, or_false]
    | specific => simp
    | none => simp
  · rw [if_pos hsender]
    exact iff_of_false Bool.false_ne_true fun h => hsender h.1

/-- A request is in the bucket where its replies are looked up. -/
theorem mem_candidatesOf {byKey : RequestKey → List Nat} {f : GatewayFrame} {ev : ReplyEvent}
    (hev : rxEvent f = some (.reply ev)) {req : PendingRequest} (hreq : req.matches ev = true)
    {i : Nat} (hi : i ∈ byKey req.key) : (req.key, i) ∈ candidatesOf byKey ev := by
  unfold candidatesOf
  rw [List.mem_append]
  obtain ⟨hsender, hreply⟩ := PendingRequest.matches_iff.mp hreq
  rcases hreply with ⟨hpolicy, hopc, ackOf, hack, hexpected⟩ | ⟨hpolicy, hopc⟩
  · left
    have hkey : req.key = (ev.sender3, .ack, ackOf.toNat) := by
      rw [PendingRequest.key, hsender, hpolicy, hexpected]
    rw [hkey] at hi ⊢
    simp only [hack, if_pos hopc, ackOf_masked hev hack]
    exact List.mem_map.mpr ⟨i, hi, rfl⟩
  · right
    have hkey : req.key = (ev.sender3, .specific, (ev.opc &&& 0x7F).toNat) := by
      rw [PendingRequest.key, hsender, hpolicy, hopc]
    rw [hkey] at hi ⊢
    exact List.mem_map.mpr ⟨i, hi, rfl⟩

/-- A candidate is in the bucket of its key. -/
theorem mem_byKey_of_mem_candidatesOf {byKey : RequestKey → List Nat} {ev : ReplyEvent}
    {c : RequestKey × Nat} (h : c ∈ candidatesOf byKey ev) : c.2 ∈ byKey c.1 := by
  have hbucket : ∀ key, c ∈ (byKey key).map (key, ·) → c.2 ∈ byKey c.1 := by
    intro key hc
    obtain ⟨i, hi, rfl⟩ := List.mem_map.mp hc
    exact hi
  rcases List.mem_append.mp h with h | h
  · split at h
    · split_ifs at h
      · exact hbucket _ h
      · cases h
    · cases h
  · exact hbucket _ h

/-- The request of `send_and_wait_for_reply` matches the replies that answer it. -/
theorem pendingRequestFor_matches {recv3 : List UInt8} {opcode7 : UInt8} {req : PendingRequest}
    (hreq : pendingRequestFor recv3 opcode7 = some req) {f : GatewayFrame} {ev : ReplyEvent}
    (hev : rxEvent f = some (.reply ev)) :
    req.matches ev = (ev.sender3 == recv3 && ev.answers (opcode7 &&& 0x7F)) := by
  have htoNat : ∀ a b : UInt8, (a.toNat == b.toNat) = (a == b) := by
    intro a b
    rw [Bool.eq_iff_iff, beq_iff_eq, beq_iff_eq, UInt8.toNat_inj]
  simp only [pendingRequestFor] at hreq
  unfold PendingRequest.matches ReplyEvent.answers
  rw [opc_masked hev]
  generalize opcode7 &&& 0x7F = opcode at hreq ⊢
  split at hreq
  · cases hreq
  · next hpolicy =>
    cases hreq
    rw [hpolicy]
    by_cases hsender : ev.sender3 = recv3
    · cases hack : ev.ackOf <;> simp [hsender, htoNat]
    · simp [hsender]
  · next hpolicy =>
    cases hreq
    obtain ⟨rspOpcode, hrsp⟩ := exists_responseOpcode hpolicy
    rw [hpolicy, hrsp]
    by_cases hsender : ev.sender3 = recv3
    · simp [hsender, htoNat]
    · simp [hsender]

/-! ## 5. What every run keeps -/

/-- What is kept in every run: all of the promise but that no reply is wasted. -/
structure Kept (s : Registry) : Prop where
  /-- What is registered has not been cancelled, and not been completed but for what `try_match`
  removes next. -/
  bucket : ∀ key i, i ∈ s.byKey key → ∃ req, s.requests[i]? = some req ∧ req.key = key ∧
    req.cancelled = false ∧ (req.reply = none ∨ s.rx = .completed key i)
  nodup : ∀ key, (s.byKey key).Nodup
  /-- The candidates were registered, and wait still. -/
  candidates : ∀ ev candidates registered, s.rx = .snapshot ev candidates registered →
    ∀ c ∈ candidates, c.2 ∈ registered ∧
      ∃ req, s.requests[c.2]? = some req ∧ req.key = c.1 ∧ req.reply = none
  /-- What was registered and matches is a candidate. -/
  covered : ∀ ev candidates registered, s.rx = .snapshot ev candidates registered →
    ∀ i ∈ registered, ∃ req, s.requests[i]? = some req ∧
      (req.matches ev = true → (req.key, i) ∈ candidates)
  completing : ∀ key i, s.rx = .completed key i →
    ∃ req, s.requests[i]? = some req ∧ req.key = key ∧ req.reply.isSome = true
  replied : ∀ (i : Nat) (req : PendingRequest) (n : Nat) (ev : ReplyEvent),
    s.requests[i]? = some req → req.reply = some (n, ev) →
      req.matches ev = true ∧ ∃ p, s.log[n]? = some p ∧ p.completed = some i
  logged : ∀ p ∈ s.log, ∀ i, p.completed = some i →
    ∃ req, s.requests[i]? = some req ∧ req.reply.isSome = true
  once : (s.log.filterMap (·.completed)).Nodup

/-- The entry of an event that a registered request waits for. -/
def Processed.Delivered (p : Processed) : Prop :=
  p.waiting ≠ [] → (∃ i, p.completed = some i) ∧ p.gaveUp = false

/-- The promise is what is kept and that no reply is wasted. -/
theorem Kept.matchedRight {s : Registry} (h : Kept s) (hdelivered : ∀ p ∈ s.log, p.Delivered) :
    MatchedRight s where
  oneRequest := by
    intro i j req req' n ev ev' hi hj hreq hreq'
    obtain ⟨-, p, hp, hpi⟩ := h.replied i req n ev hi hreq
    obtain ⟨-, p', hp', hpj⟩ := h.replied j req' n ev' hj hreq'
    rw [hp] at hp'
    cases hp'
    exact Option.some.inj (hpi.symm.trans hpj)
  once := h.once
  own := fun i req n ev hi hreq => PendingRequest.matches_iff.mp (h.replied i req n ev hi hreq).1
  returned := by
    intro p hp i hpi
    by_cases hrx : ∃ key, s.rx = .completed key i
    · exact .inl hrx
    · right
      intro key hmem
      obtain ⟨req, hreq, -, -, hopen⟩ := h.bucket key i hmem
      obtain ⟨req', hreq', hsome⟩ := h.logged p hp i hpi
      rw [hreq] at hreq'
      cases hreq'
      rcases hopen with hnone | hcompleted
      · rw [hnone] at hsome
        cases hsome
      · exact hrx ⟨key, hcompleted⟩
  cancelled := by
    intro i hi key hmem
    obtain ⟨req, hreq, -, hnot, -⟩ := h.bucket key i hmem
    rw [Registry.cancelledAt, hreq, Option.any_some, hnot] at hi
    cases hi
  notWasted := hdelivered

/-- Nothing is registered at the start. -/
theorem kept_emptyRegistry : Kept emptyRegistry where
  bucket := fun _ _ h => nomatch h
  nodup := fun _ => List.nodup_nil
  candidates := fun _ _ _ h => nomatch h
  covered := fun _ _ _ h => nomatch h
  completing := fun _ _ h => nomatch h
  replied := fun _ _ _ _ h => nomatch h
  logged := fun _ h => nomatch h
  once := List.nodup_nil

/-! ## 6. The senders -/

/-- What is registered after a registration. -/
theorem mem_byKey_registerRequest {s : Registry} {new : PendingRequest} {key : RequestKey}
    {i : Nat} : i ∈ (s.registerRequest new).byKey key ↔
      i ∈ s.byKey key ∨ key = new.key ∧ i = s.requests.length := by
  dsimp only [Registry.registerRequest]
  by_cases hkey : key = new.key
  · subst hkey
    rw [Function.update_self, List.mem_append, List.mem_singleton, and_iff_right rfl]
  · rw [Function.update_of_ne hkey]
    exact ⟨.inl, fun h => h.resolve_right fun h => hkey h.1⟩

/-- A registration keeps it. -/
theorem Kept.register {s : Registry} (h : Kept s) {new : PendingRequest}
    (hopen : new.reply = none) (hnot : new.cancelled = false) : Kept (s.registerRequest new) where
  bucket := by
    intro key i hi
    rcases mem_byKey_registerRequest.mp hi with hi | ⟨rfl, rfl⟩
    · obtain ⟨req, hreq, hrest⟩ := h.bucket key i hi
      exact ⟨req, Lts.log_getElem? hreq, hrest⟩
    · exact ⟨new, List.getElem?_concat_length, rfl, hnot, .inl hopen⟩
  nodup := by
    intro key
    -- the number of the new request is not in a bucket
    have hfresh : s.requests.length ∉ s.byKey new.key := by
      intro hmem
      obtain ⟨req, hreq, -⟩ := h.bucket _ _ hmem
      exact Nat.lt_irrefl _ (List.getElem?_eq_some_iff.mp hreq).1
    dsimp only [Registry.registerRequest]
    by_cases hkey : key = new.key
    · subst hkey
      rw [Function.update_self, List.nodup_append]
      refine ⟨h.nodup _, List.nodup_singleton _, ?_⟩
      rintro i hi j hj rfl
      rw [List.mem_singleton.mp hj] at hi
      exact hfresh hi
    · rw [Function.update_of_ne hkey]
      exact h.nodup key
  candidates := by
    intro ev candidates registered hrx c hc
    obtain ⟨hregistered, req, hreq, hrest⟩ := h.candidates ev candidates registered hrx c hc
    exact ⟨hregistered, req, Lts.log_getElem? hreq, hrest⟩
  covered := by
    intro ev candidates registered hrx i hi
    obtain ⟨req, hreq, hrest⟩ := h.covered ev candidates registered hrx i hi
    exact ⟨req, Lts.log_getElem? hreq, hrest⟩
  completing := by
    intro key i hrx
    obtain ⟨req, hreq, hrest⟩ := h.completing key i hrx
    exact ⟨req, Lts.log_getElem? hreq, hrest⟩
  replied := by
    intro i req n ev hreq hreply
    have hlt : i < s.requests.length := by
      refine Nat.lt_of_le_of_ne ?_ ?_
      · have hle := (List.getElem?_eq_some_iff.mp hreq).1
        rw [Registry.registerRequest, List.length_append, List.length_singleton] at hle
        exact Nat.le_of_lt_succ hle
      · rintro rfl
        rw [Registry.registerRequest, List.getElem?_concat_length] at hreq
        cases hreq
        rw [hopen] at hreply
        cases hreply
    rw [Registry.registerRequest, List.getElem?_append_left hlt] at hreq
    exact h.replied i req n ev hreq hreply
  logged := by
    intro p hp i hi
    obtain ⟨req, hreq, hsome⟩ := h.logged p hp i hi
    exact ⟨req, Lts.log_getElem? hreq, hsome⟩
  once := h.once

/-- What a removal leaves registered. -/
theorem mem_byKey_of_mem_removeFrom {byKey : RequestKey → List Nat} {key key' : RequestKey}
    {i j : Nat} (h : j ∈ removeFrom byKey key i key') : j ∈ byKey key' := by
  unfold removeFrom at h
  by_cases hkey : key' = key
  · subst hkey
    rw [Function.update_self] at h
    exact List.mem_of_mem_erase h
  · rwa [Function.update_of_ne hkey] at h

/-- A request is removed from its bucket. -/
theorem not_mem_removeFrom {byKey : RequestKey → List Nat} {key : RequestKey} {i : Nat}
    (h : (byKey key).Nodup) : i ∉ removeFrom byKey key i key := by
  rw [removeFrom, Function.update_self]
  exact h.not_mem_erase

/-- A removal keeps the buckets free of repetitions. -/
theorem nodup_removeFrom {byKey : RequestKey → List Nat} (h : ∀ key, (byKey key).Nodup)
    (key : RequestKey) (i : Nat) (key' : RequestKey) : (removeFrom byKey key i key').Nodup := by
  unfold removeFrom
  by_cases hkey : key' = key
  · subst hkey
    rw [Function.update_self]
    exact (h key').erase i
  · rw [Function.update_of_ne hkey]
    exact h key'

/-- A request is found again, changed, where it was. -/
theorem getElem?_changed {requests : List PendingRequest} {change : PendingRequest → PendingRequest}
    {i j : Nat} {req : PendingRequest} (h : requests[j]? = some req) :
    (requests.modify i change)[j]? = some (if i = j then change req else req) := by
  rw [List.getElem?_modify, h]
  rfl

/-- What is found after a change was there before. -/
theorem exists_of_getElem?_changed {requests : List PendingRequest}
    {change : PendingRequest → PendingRequest} {i j : Nat} {req' : PendingRequest}
    (h : (requests.modify i change)[j]? = some req') :
    ∃ req, requests[j]? = some req ∧ req' = if i = j then change req else req := by
  rw [List.getElem?_modify] at h
  obtain ⟨req, hreq, rfl⟩ := Option.map_eq_some_iff.mp h
  exact ⟨req, hreq, rfl⟩

/-- A cancelled request leaves the registry; nothing else changes. -/
theorem Kept.cancel {s : Registry} (h : Kept s) {i : Nat} {gone : PendingRequest}
    (hgone : s.requests[i]? = some gone) :
    Kept { s with
      requests := s.requests.modify i PendingRequest.giveUp
      byKey := removeFrom s.byKey gone.key i } where
  bucket := by
    intro key j hj
    obtain ⟨req, hreq, hkey, hnot, hopen⟩ := h.bucket key j (mem_byKey_of_mem_removeFrom hj)
    have hne : i ≠ j := by
      rintro rfl
      rw [hgone] at hreq
      cases hreq
      subst hkey
      exact not_mem_removeFrom (h.nodup _) hj
    refine ⟨req, ?_, hkey, hnot, hopen⟩
    rw [getElem?_changed hreq, if_neg hne]
  nodup := fun key => nodup_removeFrom h.nodup _ _ key
  candidates := by
    intro ev candidates registered hrx c hc
    obtain ⟨hregistered, req, hreq, hkey, hopen⟩ :=
      h.candidates ev candidates registered hrx c hc
    refine ⟨hregistered, _, getElem?_changed hreq, ?_, ?_⟩
    · split_ifs <;> exact hkey
    · split_ifs <;> exact hopen
  covered := by
    intro ev candidates registered hrx j hj
    obtain ⟨req, hreq, hcandidate⟩ := h.covered ev candidates registered hrx j hj
    refine ⟨_, getElem?_changed hreq, ?_⟩
    split_ifs <;> exact hcandidate
  completing := by
    intro key j hrx
    obtain ⟨req, hreq, hkey, hsome⟩ := h.completing key j hrx
    refine ⟨_, getElem?_changed hreq, ?_, ?_⟩
    · split_ifs <;> exact hkey
    · split_ifs <;> exact hsome
  replied := by
    intro j req' n ev hreq' hreply
    obtain ⟨req, hreq, rfl⟩ := exists_of_getElem?_changed hreq'
    have hold : req.reply = some (n, ev) := by split_ifs at hreply <;> exact hreply
    obtain ⟨hmatches, hentry⟩ := h.replied j req n ev hreq hold
    refine ⟨?_, hentry⟩
    split_ifs <;> exact hmatches
  logged := by
    intro p hp j hpj
    obtain ⟨req, hreq, hsome⟩ := h.logged p hp j hpj
    refine ⟨_, getElem?_changed hreq, ?_⟩
    split_ifs <;> exact hsome
  once := h.once

/-! ## 7. The reader -/

/-- What is registered is in a bucket. -/
theorem mem_registered_iff {s : Registry} {i : Nat} :
    i ∈ s.registered ↔ ∃ req, s.requests[i]? = some req ∧ i ∈ s.byKey req.key := by
  unfold Registry.registered
  rw [List.mem_filter, List.mem_range, Option.any_eq_true]
  constructor
  · rintro ⟨-, req, hreq, hmem⟩
    exact ⟨req, hreq, List.contains_iff_mem.mp hmem⟩
  · rintro ⟨req, hreq, hmem⟩
    exact ⟨(List.getElem?_eq_some_iff.mp hreq).1, req, hreq, List.contains_iff_mem.mpr hmem⟩

/-- Unless `try_match` is about to remove one, what is registered has no reply. -/
theorem Kept.waits {s : Registry} (h : Kept s) (hrx : ∀ key i, s.rx ≠ .completed key i)
    {key : RequestKey} {i : Nat} (hi : i ∈ s.byKey key) : ∃ req, s.requests[i]? = some req ∧
      req.key = key ∧ req.cancelled = false ∧ req.reply = none := by
  obtain ⟨req, hreq, hkey, hnot, hopen⟩ := h.bucket key i hi
  exact ⟨req, hreq, hkey, hnot, hopen.resolve_right (hrx key i)⟩

/-- The snapshot has every registered request that matches. -/
theorem Kept.snapshot {s : Registry} (h : Kept s) (hidle : s.rx = .idle) {f : GatewayFrame}
    {ev : ReplyEvent} (hev : rxEvent f = some (.reply ev)) :
    Kept { s with rx := .snapshot ev (candidatesOf s.byKey ev) s.registered } where
  bucket := by
    intro key i hi
    obtain ⟨req, hreq, hkey, hnot, hopen⟩ := h.bucket key i hi
    refine ⟨req, hreq, hkey, hnot, .inl (hopen.resolve_right ?_)⟩
    rw [hidle]
    exact nofun
  nodup := h.nodup
  candidates := by
    intro ev' candidates registered hrx c hc
    cases hrx
    have hmem := mem_byKey_of_mem_candidatesOf hc
    obtain ⟨req, hreq, hkey, -, hopen⟩ := h.waits (by rw [hidle]; exact nofun) hmem
    exact ⟨mem_registered_iff.mpr ⟨req, hreq, by rwa [hkey]⟩, req, hreq, hkey, hopen⟩
  covered := by
    intro ev' candidates registered hrx i hi
    cases hrx
    obtain ⟨req, hreq, hmem⟩ := mem_registered_iff.mp hi
    exact ⟨req, hreq, fun hmatches => mem_candidatesOf hev hmatches hmem⟩
  completing := fun _ _ hrx => nomatch hrx
  replied := h.replied
  logged := h.logged
  once := h.once

/-- An event without a waiter completes nothing. -/
theorem Kept.missed {s : Registry} (h : Kept s) {ev : ReplyEvent}
    {candidates : List (RequestKey × Nat)} {registered : List Nat}
    (hrx : s.rx = .snapshot ev candidates registered) :
    Kept { s with rx := .idle, log := s.log ++ [s.processed ev registered none] } where
  bucket := by
    intro key i hi
    obtain ⟨req, hreq, hkey, hnot, hopen⟩ := h.waits (by rw [hrx]; exact nofun) hi
    exact ⟨req, hreq, hkey, hnot, .inl hopen⟩
  nodup := h.nodup
  candidates := fun _ _ _ hrx => nomatch hrx
  covered := fun _ _ _ hrx => nomatch hrx
  completing := fun _ _ hrx => nomatch hrx
  replied := by
    intro i req n ev hreq hreply
    obtain ⟨hmatches, p, hp, hpi⟩ := h.replied i req n ev hreq hreply
    exact ⟨hmatches, p, Lts.log_getElem? hp, hpi⟩
  logged := by
    intro p hp i hpi
    rcases List.mem_append.mp hp with hp | hp
    · exact h.logged p hp i hpi
    · rw [List.mem_singleton.mp hp] at hpi
      cases hpi
  once := by
    dsimp only
    rw [List.filterMap_append]
    exact (List.append_nil _).symm ▸ h.once

/-- The candidate that an event completes waits still, and matches. -/
theorem Kept.found {s : Registry} (h : Kept s) {ev : ReplyEvent}
    {candidates : List (RequestKey × Nat)} {registered : List Nat} {c : RequestKey × Nat}
    (hrx : s.rx = .snapshot ev candidates registered)
    (hfind : candidates.find? (fun c => s.matchesAt ev c.2) = some c) :
    ∃ req, s.requests[c.2]? = some req ∧ req.key = c.1 ∧ req.reply = none ∧
      req.matches ev = true := by
  obtain ⟨-, req, hreq, hkey, hopen⟩ :=
    h.candidates ev candidates registered hrx c (List.mem_of_find?_eq_some hfind)
  have hmatches := List.find?_some hfind
  rw [Registry.matchesAt, hreq] at hmatches
  exact ⟨req, hreq, hkey, hopen, hmatches⟩

/-- An event completes the first candidate that matches. -/
theorem Kept.hit {s : Registry} (h : Kept s) {ev : ReplyEvent}
    {candidates : List (RequestKey × Nat)} {registered : List Nat} {key : RequestKey} {i : Nat}
    (hrx : s.rx = .snapshot ev candidates registered)
    (hfind : candidates.find? (fun c => s.matchesAt ev c.2) = some (key, i)) :
    Kept { s with
      requests := s.requests.modify i (·.complete (s.log.length, ev))
      rx := .completed key i
      log := s.log ++ [s.processed ev registered (some i)] } := by
  obtain ⟨waiter, hwaiter, hwaiterKey, hwaiterOpen, hwaiterMatches⟩ := h.found hrx hfind
  refine ⟨?bucket, h.nodup, fun _ _ _ h => (nomatch h), fun _ _ _ h => (nomatch h), ?completing,
    ?replied, ?logged, ?once⟩
  case bucket =>
    intro key' j hj
    obtain ⟨req, hreq, hkey, hnot, hopen⟩ := h.waits (by rw [hrx]; exact nofun) hj
    by_cases hij : i = j
    · subst hij
      rw [hwaiter] at hreq
      cases hreq
      refine ⟨_, getElem?_changed hwaiter, ?_⟩
      rw [if_pos rfl]
      exact ⟨hkey, hnot, .inr (by rw [← hkey, hwaiterKey])⟩
    · refine ⟨_, getElem?_changed hreq, ?_⟩
      rw [if_neg hij]
      exact ⟨hkey, hnot, .inl hopen⟩
  case completing =>
    intro key' j hcompleted
    cases hcompleted
    refine ⟨_, getElem?_changed hwaiter, ?_⟩
    rw [if_pos rfl]
    exact ⟨hwaiterKey, rfl⟩
  case replied =>
    intro j req' n ev' hreq' hreply
    obtain ⟨req, hreq, rfl⟩ := exists_of_getElem?_changed hreq'
    by_cases hij : i = j
    · subst hij
      rw [hwaiter] at hreq
      cases hreq
      rw [if_pos rfl] at hreply ⊢
      cases hreply
      exact ⟨hwaiterMatches, _, List.getElem?_concat_length, rfl⟩
    · rw [if_neg hij] at hreply ⊢
      obtain ⟨hmatches, p, hp, hpj⟩ := h.replied j req n ev' hreq hreply
      exact ⟨hmatches, p, Lts.log_getElem? hp, hpj⟩
  case logged =>
    intro p hp j hpj
    rcases List.mem_append.mp hp with hp | hp
    · obtain ⟨req, hreq, hsome⟩ := h.logged p hp j hpj
      refine ⟨_, getElem?_changed hreq, ?_⟩
      split_ifs
      · rfl
      · exact hsome
    · rw [List.mem_singleton.mp hp] at hpj
      cases hpj
      refine ⟨_, getElem?_changed hwaiter, ?_⟩
      rw [if_pos rfl]
      rfl
  case once =>
    rw [List.filterMap_append, List.nodup_append]
    refine ⟨h.once, List.nodup_singleton _, ?_⟩
    rintro j hj j' hj' rfl
    -- the waiter has no reply, so no earlier event completed it
    obtain ⟨p, hp, hpj⟩ := List.mem_filterMap.mp hj
    obtain ⟨req, hreq, hsome⟩ := h.logged p hp j hpj
    cases List.mem_singleton.mp hj'
    rw [hwaiter] at hreq
    cases hreq
    rw [hwaiterOpen] at hsome
    cases hsome

/-- What has been completed is removed. -/
theorem Kept.remove {s : Registry} (h : Kept s) {key : RequestKey} {i : Nat}
    (hrx : s.rx = .completed key i) :
    Kept { s with byKey := removeFrom s.byKey key i, rx := .idle } where
  bucket := by
    intro key' j hj
    obtain ⟨req, hreq, hkey, hnot, hopen⟩ := h.bucket key' j (mem_byKey_of_mem_removeFrom hj)
    refine ⟨req, hreq, hkey, hnot, .inl (hopen.resolve_right ?_)⟩
    intro hcompleted
    rw [hrx] at hcompleted
    cases hcompleted
    exact not_mem_removeFrom (h.nodup _) hj
  nodup := fun key => nodup_removeFrom h.nodup _ _ key
  candidates := fun _ _ _ hrx => nomatch hrx
  covered := fun _ _ _ hrx => nomatch hrx
  completing := fun _ _ hrx => nomatch hrx
  replied := h.replied
  logged := h.logged
  once := h.once

/-! ## 8. Every run -/

/-- **The registry keeps its promise**, but for the replies wasted, whatever happens. -/
theorem Kept.step {s t : Registry} (h : Kept s) {e : RegistryEvent}
    (ht : registryStep s e = some t) : Kept t := by
  cases e with
  | register senderLast3 expectedKey policy =>
    cases ht
    exact h.register rfl rfl
  | cancel i =>
    obtain ⟨gone, hgone, rfl⟩ := Option.map_eq_some_iff.mp ht
    exact h.cancel hgone
  | tryMatch f =>
    dsimp only [registryStep] at ht
    split at ht
    · next hidle hev =>
      cases ht
      exact h.snapshot hidle hev
    · cases ht
  | complete =>
    dsimp only [registryStep] at ht
    split at ht
    · next ev candidates registered hrx =>
      cases ht
      unfold Registry.complete
      split
      · next hfind => exact h.hit hrx hfind
      · exact h.missed hrx
    · cases ht
  | remove =>
    dsimp only [registryStep] at ht
    split at ht
    · next hrx =>
      cases ht
      exact h.remove hrx
    · cases ht

/-- The entry of an event that is processed. -/
theorem log_complete {s t : Registry} {ev : ReplyEvent} {candidates : List (RequestKey × Nat)}
    {registered : List Nat} (hrx : s.rx = .snapshot ev candidates registered)
    (ht : registryStep s .complete = some t) :
    t.log = s.log ++ [s.processed ev registered
      ((candidates.find? fun c => s.matchesAt ev c.2).map (·.2))] := by
  dsimp only [registryStep] at ht
  rw [hrx] at ht
  cases ht
  unfold Registry.complete
  split <;> next hfind => rw [hfind]; rfl

/-- No other step adds an entry. -/
theorem log_step {s t : Registry} {e : RegistryEvent} (ht : registryStep s e = some t) :
    t.log = s.log ∨
      e = .complete ∧ ∃ ev candidates registered, s.rx = .snapshot ev candidates registered := by
  cases e with
  | register senderLast3 expectedKey policy =>
    cases ht
    exact .inl rfl
  | cancel i =>
    obtain ⟨gone, -, rfl⟩ := Option.map_eq_some_iff.mp ht
    exact .inl rfl
  | tryMatch f =>
    dsimp only [registryStep] at ht
    split at ht <;> cases ht
    exact .inl rfl
  | complete =>
    dsimp only [registryStep] at ht
    split at ht
    · next hrx => exact .inr ⟨rfl, _, _, _, hrx⟩
    · cases ht
  | remove =>
    dsimp only [registryStep] at ht
    split at ht <;> cases ht
    exact .inl rfl

/-- An event of a waiter that stays is delivered. -/
theorem Kept.delivered {s : Registry} (h : Kept s) {ev : ReplyEvent}
    {candidates : List (RequestKey × Nat)} {registered : List Nat}
    (hrx : s.rx = .snapshot ev candidates registered) (hstays : WaiterStays s .complete) :
    (s.processed ev registered
      ((candidates.find? fun c => s.matchesAt ev c.2).map (·.2))).Delivered := by
  intro hwaiting
  obtain ⟨i, hi⟩ := List.exists_mem_of_ne_nil _ hwaiting
  obtain ⟨hregistered, hi⟩ := List.mem_filter.mp hi
  rw [Bool.and_eq_true, Bool.not_eq_true'] at hi
  obtain ⟨req, hreq, hcandidate⟩ := h.covered ev candidates registered hrx i hregistered
  have hmatches := hi.1
  rw [Registry.matchesAt, hreq] at hmatches
  have hmem := hcandidate hmatches
  obtain ⟨c, hfind⟩ : ∃ c, candidates.find? (fun c => s.matchesAt ev c.2) = some c := by
    rw [← Option.isSome_iff_exists, List.find?_isSome]
    exact ⟨_, hmem, hi.1⟩
  rw [hfind]
  refine ⟨⟨c.2, rfl⟩, ?_⟩
  by_contra hgaveUp
  have hcancelled : s.cancelledAt c.2 = true := by simpa [Registry.processed] using hgaveUp
  rw [hstays ev candidates registered c hrx hfind hcancelled _ hmem hi.1] at hi
  cases hi.2

/-- An event of which the waiter has gone, and another one has not, is wasted. -/
theorem Kept.wasted {s : Registry} (h : Kept s) {ev : ReplyEvent}
    {candidates : List (RequestKey × Nat)} {registered : List Nat} {c c' : RequestKey × Nat}
    (hrx : s.rx = .snapshot ev candidates registered)
    (hfind : candidates.find? (fun c => s.matchesAt ev c.2) = some c)
    (hgone : s.cancelledAt c.2 = true) (hc' : c' ∈ candidates)
    (hmatches : s.matchesAt ev c'.2 = true) (hwaits : s.cancelledAt c'.2 = false) :
    ¬ (s.processed ev registered
      ((candidates.find? fun c => s.matchesAt ev c.2).map (·.2))).Delivered := by
  intro hdelivered
  rw [hfind] at hdelivered
  have hwaiting : c'.2 ∈ (s.processed ev registered (some c.2)).waiting := by
    refine List.mem_filter.mpr ⟨(h.candidates ev candidates registered hrx c' hc').1, ?_⟩
    rw [hmatches, hwaits]
    rfl
  obtain ⟨-, hnot⟩ := hdelivered (List.ne_nil_of_mem hwaiting)
  have hgaveUp : (s.processed ev registered (some c.2)).gaveUp = true := hgone
  exact Bool.noConfusion (hgaveUp.symm.trans hnot)

/-- **When no reply is wasted**: in every run of any number of senders and the reader, the registry
keeps its promise exactly when, at each completion, the first candidate that matches has not been
cancelled since the snapshot, or all the others that match have been, too. -/
theorem matchedRight_iff {es : List RegistryEvent} {t : Registry}
    (hrun : Lts.run registrySystem emptyRegistry es = some t) :
    Lts.Throughout registrySystem MatchedRight emptyRegistry es ↔
      Lts.RunMeets registrySystem WaiterStays emptyRegistry es := by
  refine Lts.throughout_iff (I := fun s => Kept s ∧ ∀ p ∈ s.log, p.Delivered)
    (fun s hs => hs.1.matchedRight hs.2) ?keep ?lose ⟨kept_emptyRegistry, nofun⟩ hrun
  case keep =>
    rintro s e t ⟨hkept, hdelivered⟩ hstays ht
    refine ⟨hkept.step ht, ?_⟩
    rcases log_step ht with hlog | ⟨rfl, ev, candidates, registered, hrx⟩
    · rwa [hlog]
    · rw [log_complete hrx ht]
      intro p hp
      rcases List.mem_append.mp hp with hp | hp
      · exact hdelivered p hp
      · rw [List.mem_singleton.mp hp]
        exact hkept.delivered hrx hstays
  case lose =>
    rintro s e t ⟨hkept, -⟩ hgone ht hmatched
    cases e with
    | complete =>
      unfold WaiterStays at hgone
      push Not at hgone
      obtain ⟨ev, candidates, registered, c, hrx, hfind, hcancelled, c', hc', hmatches, hwaits⟩ :=
        hgone
      refine hkept.wasted hrx hfind hcancelled hc' hmatches (Bool.not_eq_true _ ▸ hwaits)
        (hmatched.notWasted _ ?_)
      rw [log_complete hrx ht]
      exact List.mem_append_right _ (List.mem_singleton_self _)
    | _ => exact hgone trivial

/-! ## 9. Two runs -/

/-- Two requests with the same key, both acknowledged and both cancelled afterwards. -/
def servedRun : List RegistryEvent :=
  [.register [1, 2, 3] 0x02 .ack, .register [1, 2, 3] 0x02 .ack,
    .tryMatch (ackFrame [1, 2, 3] opcSetGroup), .complete, .remove, .cancel 0,
    .tryMatch (ackFrame [1, 2, 3] opcSetGroup), .complete, .remove, .cancel 1]

/-- The first of them is cancelled between the snapshot and the completion. -/
def wastedRun : List RegistryEvent :=
  [.register [1, 2, 3] 0x02 .ack, .register [1, 2, 3] 0x02 .ack,
    .tryMatch (ackFrame [1, 2, 3] opcSetGroup), .cancel 0, .complete, .remove]

theorem matchedRight_servedRun : ∃ t,
    Lts.run registrySystem emptyRegistry servedRun = some t ∧
    (Lts.Throughout registrySystem MatchedRight emptyRegistry servedRun ↔
      Lts.RunMeets registrySystem WaiterStays emptyRegistry servedRun) := by
  obtain ⟨t, ht⟩ : ∃ t, Lts.run registrySystem emptyRegistry servedRun = some t := ⟨_, rfl⟩
  exact ⟨t, ht, matchedRight_iff ht⟩

/-- The ACK completes the first request, which has been cancelled; the second one, registered all
the while and not cancelled, waits still. -/
theorem matchedRight_wastedRun : ∃ t req,
    Lts.run registrySystem emptyRegistry wastedRun = some t ∧
    t.rx = .idle ∧ t.log.map (·.completed) = [some 0] ∧ t.cancelledAt 0 = true ∧
    t.requests[1]? = some req ∧ t.registered = [1] ∧ req.reply = none ∧ req.cancelled = false ∧
    ¬ MatchedRight t := by
  refine ⟨_, _, rfl, rfl, rfl, rfl, rfl, by decide, rfl, rfl, fun hmatched => ?_⟩
  have hdelivered := hmatched.notWasted _ (List.mem_singleton_self _) (by decide)
  exact absurd hdelivered.2 (by decide)

end RaceLink
