/-
# Collecting replies

`send_and_collect` sends a packet and listens.  It leaves when a number of replies that its caller
counts have arrived, or by the clock.  Here the clock is not modelled: a window is given by the
replies that its listener hears, in their order, and by the place among them at which the waiting
thread looks and leaves.  What comes after that place and before the listener is removed is
collected too.

Two callers wait for several devices.  `send_stream` counts the ACKs of the stream's receivers,
`get_status` every status reply; both give the number of their devices as the number to wait for.
The count knows nothing of who has replied, so it closes the window too early as soon as one reply
too many is counted: a second one from a device, or one from a device that was not asked.
`count_exit_complete_iff` says how many the window can stand.
-/
import RaceLink.Dispatch.Control
import RaceLink.Quorum.Basic
import RaceLink.Transport.Replies
import Mathlib.Data.List.Dedup

namespace RaceLink

open Python Quorum

/-! ## 1. The window -/

/-- How a window ends. -/
inductive CollectExit where
  | count
  | clock
  deriving DecidableEq

/-- What the listener of `send_and_collect` hears. -/
structure Window where
  /-- Until the waiting thread looks at the flag, or at the clock, and leaves. -/
  heard : List ReplyEvent
  /-- From then on, until the listener is removed. -/
  late : List ReplyEvent

/-- All that is heard. -/
def Window.all (w : Window) : List ReplyEvent := w.heard ++ w.late

/-- `collected` and `full_flag`. -/
structure Collecting where
  collected : List ReplyEvent
  fullFlag : Bool

/-- `_cb`, the listener of `send_and_collect`. -/
def Collecting.hear (counts : ReplyEvent → Bool) (expected : Option Nat) (c : Collecting)
    (ev : ReplyEvent) : Collecting :=
  if counts ev then
    { collected := c.collected ++ [ev]
      fullFlag := c.fullFlag || expected.any (· ≤ (c.collected ++ [ev]).length) }
  else c

/-- `send_and_collect`: the replies it has collected when its listener is removed, and why the
waiting thread has left. -/
def sendAndCollect (counts : ReplyEvent → Bool) (expected : Option Nat) (w : Window) :
    List ReplyEvent × CollectExit :=
  let seen := w.heard.foldl (Collecting.hear counts expected) ⟨[], false⟩
  let ended := w.late.foldl (Collecting.hear counts expected) seen
  (ended.collected, if seen.fullFlag then .count else .clock)

/-- The replies that count are collected, and no others. -/
theorem collected_foldl_hear (counts : ReplyEvent → Bool) (expected : Option Nat)
    (c : Collecting) (heard : List ReplyEvent) :
    (heard.foldl (Collecting.hear counts expected) c).collected =
      c.collected ++ heard.filter counts := by
  induction heard generalizing c with
  | nil => exact (List.append_nil _).symm
  | cons ev heard ih =>
    rw [List.foldl_cons, ih, Collecting.hear]
    cases hcounts : counts ev with
    | false =>
      rw [if_neg Bool.false_ne_true, List.filter_cons_of_neg (by simp [hcounts])]
    | true => simp [hcounts]

/-- The flag says whether there are as many as are waited for. -/
theorem fullFlag_foldl_hear (counts : ReplyEvent → Bool) (n : Nat) {c : Collecting}
    (hc : c.fullFlag = decide (n ≤ c.collected.length)) (heard : List ReplyEvent) :
    (heard.foldl (Collecting.hear counts (some n)) c).fullFlag =
      decide (n ≤ (heard.foldl (Collecting.hear counts (some n)) c).collected.length) := by
  induction heard generalizing c with
  | nil => exact hc
  | cons ev heard ih =>
    refine ih ?_
    unfold Collecting.hear
    split
    · by_cases hfull : n ≤ c.collected.length <;> simp [hc, hfull]
      omega
    · exact hc

/-- **What is collected**: all that counts.  The exit is the count's when there was enough of it by
the time the thread looked. -/
theorem sendAndCollect_some (counts : ReplyEvent → Bool) {n : Nat} (hn : 0 < n) (w : Window) :
    sendAndCollect counts (some n) w = (w.all.filter counts,
      if n ≤ (w.heard.filter counts).length then .count else .clock) := by
  have hflag := fullFlag_foldl_hear counts n (c := ⟨[], false⟩) (by simp; omega) w.heard
  rw [sendAndCollect]
  simp only [collected_foldl_hear, hflag, Window.all, List.filter_append, List.nil_append,
    decide_eq_true_eq]

/-- Only replies that count are collected. -/
theorem counts_of_mem_sendAndCollect {counts : ReplyEvent → Bool} {expected : Option Nat}
    {w : Window} {ev : ReplyEvent} (h : ev ∈ (sendAndCollect counts expected w).1) :
    counts ev = true := by
  rw [sendAndCollect] at h
  simp only [collected_foldl_hear, List.nil_append, List.mem_append, List.mem_filter] at h
  exact h.elim And.right And.right

/-! ## 2. `send_stream` -/

def opcStream : UInt8 := 0x07

/-- `target_last3`: the addresses that are to acknowledge a stream for these devices. -/
def targetLast3 (targets : List Device) : Except PyErr (List (List UInt8)) := do
  let last3 ← (targets.filter fun dev => dev.addr ≠ "").mapM fun dev => macLast3FromHex dev.addr
  pure (last3.dedup.filter (· ≠ broadcastRecv3))

/-- The predicate of `send_stream`: an ACK of a stream, by one of the receivers. -/
def isStreamAck (receivers : List (List UInt8)) (ev : ReplyEvent) : Bool :=
  match ev.fields with
  | .ack ackOf _ _ => ev.opc = opcAck && ackOf = opcStream && decide (ev.sender3 ∈ receivers)
  | _ => false

/-- The window of one attempt. -/
def streamWindow (receivers : List (List UInt8)) (w : Window) :
    List ReplyEvent × CollectExit :=
  sendAndCollect (isStreamAck receivers) (some receivers.length) w

/-- `acked` after an attempt. -/
def ackedIn (receivers acked : List (List UInt8)) (w : Window) : List (List UInt8) :=
  (streamWindow receivers w).1.map (·.sender3) ∪ acked

/-- `acked` after several attempts. -/
def ackedAfter (receivers : List (List UInt8)) (windows : List Window) :
    List (List UInt8) :=
  windows.foldl (ackedIn receivers) []

theorem mem_of_isStreamAck {receivers : List (List UInt8)} {ev : ReplyEvent}
    (h : isStreamAck receivers ev = true) : ev.sender3 ∈ receivers := by
  unfold isStreamAck at h
  split at h
  · simp only [Bool.and_eq_true, decide_eq_true_eq] at h
    exact h.2
  · cases h

theorem nodup_targetLast3 {targets : List Device} {receivers : List (List UInt8)}
    (h : targetLast3 targets = .ok receivers) : receivers.Nodup := by
  obtain ⟨last3, -, h⟩ := bind_eq_ok.mp h
  cases h
  exact (List.nodup_dedup last3).filter _

/-! ## 3. `get_status` -/

/-- `mark_offline`, at a time. -/
def Device.markOffline (now : PyVal) (reason : String) (dev : Device) : Device :=
  { dev with linkOnline := some false, linkTs := now
             linkError := if reason = "" then none else some reason }

/-- The predicate of `get_status` for a group: any status reply. -/
def isStatusReply (ev : ReplyEvent) : Bool := ev.opc = opcStatus && ev.reply = "STATUS_REPLY"

/-- Some bytes in hexadecimal. -/
def hexUpper (bytes : List UInt8) : String := String.join (bytes.map hex2)

/-- What a reply adds to `responders`; a status reply carries no `mac6`. -/
def responderOf (ev : ReplyEvent) : Option String :=
  if ev.sender3.length = 3 then some (hexUpper ev.sender3) else none

/-- The devices that a status request is for. -/
def statusTargets (groupFilter : Int) (devices : List Device) : List Device :=
  if groupFilter = 255 then devices else devices.filter fun dev => dev.groupId = groupFilter

/-- The window of a status request for a group or for all. -/
def statusWindow (groupFilter : Int) (devices : List Device) (w : Window) :
    List ReplyEvent × CollectExit :=
  let expected := (statusTargets groupFilter devices).length
  sendAndCollect isStatusReply (if expected > 0 then some expected else none) w

/-- `mac[-6:]`. -/
def last6 (mac : String) : String := String.ofList (mac.toList.drop (mac.length - 6))

/-- The test of the loop after the window: the device has an address and is among no responders. -/
def missedReply (responders : List (Option String)) (dev : Device) : Bool :=
  let mac := upper dev.addr
  mac ≠ "" && some mac ∉ responders && some (last6 mac) ∉ responders

/-- `get_status` for a group or for all: what it does to the devices. -/
def getStatus (now : PyVal) (groupFilter : Int) (devices : List Device) (w : Window) :
    List Device :=
  let responders := (statusWindow groupFilter devices w).1.map responderOf
  devices.map fun dev =>
    if (groupFilter = 255 ∨ dev.groupId = groupFilter) ∧ missedReply responders dev then
      dev.markOffline now "Missing reply (STATUS)"
    else dev

/-! ## 4. Who has replied when the count closes the window -/

/-- A window with a number to wait for, and the parties that are still to reply in it. -/
structure Collection (κ : Type) where
  counts : ReplyEvent → Bool
  expected : Nat
  sender : ReplyEvent → κ
  needed : List κ

namespace Collection

variable {κ : Type} (c : Collection κ)

/-- The senders of the replies that are counted. -/
def counted (w : Window) : List κ := (w.all.filter c.counts).map c.sender

/-- The count is not reached by the time the thread looks, or enough replies are counted to make up
for the surplus ones among them. -/
def Fits [DecidableEq κ] (w : Window) : Prop :=
  (w.heard.filter c.counts).length < c.expected ∨
    surplus c.needed (c.counted w) + c.needed.length ≤ (c.counted w).length

theorem map_sender_collected (hpos : 0 < c.expected) (w : Window) :
    (sendAndCollect c.counts (some c.expected) w).1.map c.sender = c.counted w := by
  rw [sendAndCollect_some c.counts hpos, counted]

/-- **The exit on the count**: everybody has replied then, exactly when the window can stand the
surplus replies. -/
theorem complete_iff [DecidableEq κ] (hnd : c.needed.Nodup) (hpos : 0 < c.expected) (w : Window) :
    ((sendAndCollect c.counts (some c.expected) w).2 = .count →
      ∀ k ∈ c.needed, k ∈ c.counted w) ↔ c.Fits w := by
  rw [all_heard_iff hnd, sendAndCollect_some c.counts hpos, Fits]
  by_cases hfull : c.expected ≤ (w.heard.filter c.counts).length
  · simp only [if_pos hfull, forall_const]
    exact ⟨Or.inr, fun h => h.resolve_left (Nat.not_lt.mpr hfull)⟩
  · simp only [if_neg hfull, reduceCtorEq, false_imp_iff, true_iff]
    exact Or.inl (Nat.lt_of_not_le hfull)

end Collection

/-- An attempt of `send_stream`, after some of the receivers have acknowledged. -/
def streamCollection (receivers acked : List (List UInt8)) : Collection (List UInt8) :=
  { counts := isStreamAck receivers, expected := receivers.length, sender := (·.sender3)
    needed := receivers.filter (· ∉ acked) }

/-- A status request: each address with which a targeted device can reply, once. -/
def statusCollection (groupFilter : Int) (devices : List Device) : Collection (Option String) :=
  { counts := isStatusReply, expected := (statusTargets groupFilter devices).length
    sender := responderOf
    needed := (((statusTargets groupFilter devices).filter fun dev => upper dev.addr ≠ "").map
      fun dev => some (last6 (upper dev.addr))).dedup }

theorem ackedAfter_append (receivers : List (List UInt8)) (earlier : List Window) (w : Window) :
    ackedAfter receivers (earlier ++ [w]) = ackedIn receivers (ackedAfter receivers earlier) w := by
  rw [ackedAfter, List.foldl_append]
  rfl

/-- Every receiver has acknowledged by the end of an attempt when those that had not do in it. -/
theorem forall_mem_ackedIn_iff {receivers : List (List UInt8)} (hne : receivers ≠ [])
    (acked : List (List UInt8)) (w : Window) :
    (∀ r ∈ receivers, r ∈ ackedIn receivers acked w) ↔
      ∀ r ∈ (streamCollection receivers acked).needed,
        r ∈ (streamCollection receivers acked).counted w := by
  have hpos : 0 < (streamCollection receivers acked).expected := List.length_pos_of_ne_nil hne
  have hsenders : (streamWindow receivers w).1.map (·.sender3)
      = (streamCollection receivers acked).counted w :=
    (streamCollection receivers acked).map_sender_collected hpos w
  simp only [ackedIn, hsenders, List.mem_union_iff, streamCollection, List.mem_filter,
    decide_eq_true_eq]
  constructor
  · intro h r hr
    exact (h r hr.1).resolve_right hr.2
  · intro h r hr
    by_cases hacked : r ∈ acked
    · exact Or.inr hacked
    · exact Or.inl (h r ⟨hr, hacked⟩)

/-- The address a reply is filed under has six digits. -/
theorem length_of_responderOf {ev : ReplyEvent} {s : String} (h : responderOf ev = some s) :
    s.length = 6 := by
  unfold responderOf at h
  split at h
  · next hthree =>
    cases h
    obtain ⟨a, b, c, habc⟩ := List.length_eq_three.mp hthree
    rw [habc]
    simp [hexUpper, String.join, hex2]
  · cases h

/-- A device has replied when its last six digits are among the responders. -/
theorem missedReply_eq_false_iff {replies : List ReplyEvent} {dev : Device}
    (haddr : upper dev.addr ≠ "") : missedReply (replies.map responderOf) dev = false ↔
      some (last6 (upper dev.addr)) ∈ replies.map responderOf := by
  have hwhole : some (upper dev.addr) ∈ replies.map responderOf →
      some (last6 (upper dev.addr)) ∈ replies.map responderOf := by
    intro h
    obtain ⟨ev, hev, hkey⟩ := List.mem_map.mp h
    have hlength := length_of_responderOf hkey
    have hself : last6 (upper dev.addr) = upper dev.addr := by
      rw [last6, hlength, Nat.sub_self, List.drop_zero, String.ofList_toList]
    rwa [hself]
  simp only [missedReply, haddr, ne_eq, not_false_eq_true, decide_true, Bool.true_and,
    Bool.and_eq_false_iff, decide_eq_false_iff_not, not_not]
  exact ⟨fun h => h.elim hwhole id, Or.inr⟩

/-- Every targeted device has replied when those that can be waited for have. -/
theorem forall_missedReply_iff {groupFilter : Int} {devices : List Device}
    (hne : statusTargets groupFilter devices ≠ []) (w : Window) :
    (∀ dev ∈ statusTargets groupFilter devices, upper dev.addr ≠ "" →
      missedReply ((statusWindow groupFilter devices w).1.map responderOf) dev = false) ↔
      ∀ k ∈ (statusCollection groupFilter devices).needed,
        k ∈ (statusCollection groupFilter devices).counted w := by
  have hpos : 0 < (statusTargets groupFilter devices).length := List.length_pos_of_ne_nil hne
  have hresponders : (statusWindow groupFilter devices w).1.map responderOf
      = (statusCollection groupFilter devices).counted w := by
    rw [statusWindow]
    simp only [gt_iff_lt, if_pos hpos]
    exact (statusCollection groupFilter devices).map_sender_collected hpos w
  have hmissed (dev : Device) (haddr : upper dev.addr ≠ "") :
      missedReply ((statusWindow groupFilter devices w).1.map responderOf) dev = false ↔
        some (last6 (upper dev.addr)) ∈ (statusCollection groupFilter devices).counted w := by
    rw [missedReply_eq_false_iff haddr, hresponders]
  simp only [statusCollection, List.mem_dedup, List.mem_map, List.mem_filter, decide_eq_true_eq]
  constructor
  · rintro h _ ⟨dev, ⟨hdev, haddr⟩, rfl⟩
    exact (hmissed dev haddr).mp (h dev hdev haddr)
  · intro h dev hdev haddr
    exact (hmissed dev haddr).mpr (h _ ⟨dev, ⟨hdev, haddr⟩, rfl⟩)

/-- **The exit on the count.**  Whatever is heard in a window, every targeted device has replied
when the window ends on the count, exactly when it can stand the surplus replies: those from
devices that are not targeted, and all but the first from one that is.  A window in which nothing
is late says what holds when the thread leaves.

An attempt of `send_stream` counts ACKs of its receivers only, a status request every status
reply.  The count alone stands as many surplus replies as receivers have acknowledged in earlier
attempts, or as device records have no address of their own; every reply that gets in before the
listener is removed makes up for one more. -/
theorem count_exit_complete_iff (w : Window) :
    (∀ (targets : List Device) (receivers : List (List UInt8)),
      targetLast3 targets = .ok receivers → receivers ≠ [] →
      ∀ earlier : List Window,
        (((streamWindow receivers w).2 = .count →
            ∀ r ∈ receivers, r ∈ ackedAfter receivers (earlier ++ [w])) ↔
          (streamCollection receivers (ackedAfter receivers earlier)).Fits w)) ∧
    ∀ (groupFilter : Int) (devices : List Device), statusTargets groupFilter devices ≠ [] →
      (((statusWindow groupFilter devices w).2 = .count →
          ∀ dev ∈ statusTargets groupFilter devices, upper dev.addr ≠ "" →
            missedReply ((statusWindow groupFilter devices w).1.map responderOf) dev = false) ↔
        (statusCollection groupFilter devices).Fits w) := by
  constructor
  · intro targets receivers hreceivers hne earlier
    have hnd := (nodup_targetLast3 hreceivers).filter (· ∉ ackedAfter receivers earlier)
    rw [ackedAfter_append, forall_mem_ackedIn_iff hne]
    exact (streamCollection receivers (ackedAfter receivers earlier)).complete_iff hnd
      (List.length_pos_of_ne_nil hne) w
  · intro groupFilter devices hne
    have hpos : 0 < (statusTargets groupFilter devices).length := List.length_pos_of_ne_nil hne
    rw [forall_missedReply_iff hne]
    have hcomplete :=
      (statusCollection groupFilter devices).complete_iff (List.nodup_dedup _) hpos w
    rw [statusWindow]
    simp only [gt_iff_lt, if_pos hpos]
    exact hcomplete

/-- Two blocks of group 1. -/
def twoBlocks : List Device :=
  [Device.init "AABBCC000001" 50 "left" 1 0 50 0 0 0,
    Device.init "AABBCC000002" 50 "right" 1 0 50 0 0 0]

theorem targetLast3_twoBlocks : targetLast3 twoBlocks = .ok [[0, 0, 1], [0, 0, 2]] :=
  eq_ok_of_toOption (by decide +kernel)

/-- A reply of a node to the master. -/
def replyFrom (sender3 : List UInt8) (opc : UInt8) (reply : String) (fields : ReplyFields) :
    ReplyEvent :=
  { type := makeType dirN2M opc, dir := dirN2M, opc := opc, sender3 := sender3
    receiver3 := [0, 0, 0], hostRssi := 0, hostSnr := 0, reply := reply, fields := fields }

def streamAckFrom (sender3 : List UInt8) : ReplyEvent :=
  replyFrom sender3 opcAck "ACK" (.ack opcStream 0 none)

def statusReplyFrom (sender3 : List UInt8) : ReplyEvent :=
  replyFrom sender3 opcStatus "STATUS_REPLY" (.status 0 0 0 0 0 0 0)

/-- One reply too many, and that of the right block after the window.  The left block acknowledges a
stream twice, and the right one counts as silent; a block of another group answers a status
request, and the right one is taken offline. -/
theorem count_exit_too_early :
    targetLast3 twoBlocks = .ok [[0, 0, 1], [0, 0, 2]] ∧
    (streamWindow [[0, 0, 1], [0, 0, 2]]
      ⟨[streamAckFrom [0, 0, 1], streamAckFrom [0, 0, 1]], []⟩).2 = .count ∧
    ackedAfter [[0, 0, 1], [0, 0, 2]]
      [⟨[streamAckFrom [0, 0, 1], streamAckFrom [0, 0, 1]], []⟩] = [[0, 0, 1]] ∧
    (statusWindow 1 twoBlocks
      ⟨[statusReplyFrom [0, 0, 1], statusReplyFrom [0, 0, 9]], []⟩).2 = .count ∧
    (getStatus (.int 0) 1 twoBlocks
      ⟨[statusReplyFrom [0, 0, 1], statusReplyFrom [0, 0, 9]], []⟩).map (·.linkOnline)
        = [none, some false] := by
  exact ⟨targetLast3_twoBlocks, by decide +kernel⟩

/-- Each block replies once, and the left one again: the count closes the window after both, if the
second reply of the left block is heard last or the listener stays for that of the right one. -/
theorem count_exit_complete_two :
    (∀ r ∈ [[0, 0, 1], [0, 0, 2]], r ∈ ackedAfter [[0, 0, 1], [0, 0, 2]]
      [⟨[streamAckFrom [0, 0, 1], streamAckFrom [0, 0, 1]], [streamAckFrom [0, 0, 2]]⟩]) ∧
    ∀ dev ∈ statusTargets 1 twoBlocks, upper dev.addr ≠ "" →
      missedReply ((statusWindow 1 twoBlocks ⟨[statusReplyFrom [0, 0, 2],
        statusReplyFrom [0, 0, 1]], [statusReplyFrom [0, 0, 1]]⟩).1.map responderOf) dev
          = false := by
  have hstream := (count_exit_complete_iff ⟨[streamAckFrom [0, 0, 1], streamAckFrom [0, 0, 1]],
    [streamAckFrom [0, 0, 2]]⟩).1 twoBlocks _ targetLast3_twoBlocks (List.cons_ne_nil _ _) []
  have hstatus := (count_exit_complete_iff ⟨[statusReplyFrom [0, 0, 2],
    statusReplyFrom [0, 0, 1]], [statusReplyFrom [0, 0, 1]]⟩).2 1 twoBlocks
      (List.cons_ne_nil _ _)
  refine ⟨hstream.mpr (Or.inr (by decide +kernel)) (by decide +kernel),
    hstatus.mpr (Or.inr (by decide +kernel)) (by decide +kernel)⟩

end RaceLink
