/-
# What a startblock action reports

`send_stream` reports for every stream how many receivers it had and how many of them acknowledged
it.  `send_startblock_control` collects the reports in a dictionary, and the scene runner takes
`bool(...)` of the dictionary.  A dictionary is false only when it is empty, which this one is
without a transport: an action that gets as far as its streams is ok, whoever has heard them.

`dispatch_startblock_ok_iff` says that much.  `startblock_reported_iff` compares it with what ok
should mean: that there was somebody to hear, and that everybody has.
-/
import RaceLink.Presets.Apply
import RaceLink.Startblock.Service
import RaceLink.Dispatch.Outcomes

namespace RaceLink

open Python

/-! ## 1. A call only streams -/

/-- All that a script does to the link is to send streams. -/
def OnlyStreams {α : Type} (x : Script Link α) : Prop :=
  ∀ link, ∃ packets, (x link).2 = { link with sent := link.sent ++ packets } ∧
    ∀ p ∈ packets, p.frame.typeFull = opcStream

namespace OnlyStreams

variable {α β : Type}

theorem of_state_eq {x : Script Link α} (h : ∀ link, (x link).2 = link) : OnlyStreams x :=
  fun link => ⟨[], by rw [h, List.append_nil], fun _ hp => nomatch hp⟩

theorem bind {x : Script Link α} {f : α → Script Link β} (hx : OnlyStreams x)
    (hf : ∀ a, OnlyStreams (f a)) : OnlyStreams (x >>= f) := by
  intro link
  obtain ⟨packets, hstate, hall⟩ := hx link
  rw [Script.bind_run]
  rcases hrun : x link with ⟨_ | a, mid⟩
  · rw [hrun] at hstate
    exact ⟨packets, hstate, hall⟩
  · rw [hrun] at hstate
    obtain rfl : mid = { link with sent := link.sent ++ packets } := hstate
    obtain ⟨packets', hstate', hall'⟩ := hf a { link with sent := link.sent ++ packets }
    refine ⟨packets ++ packets', ?_, List.forall_mem_append.mpr ⟨hall, hall'⟩⟩
    rw [← List.append_assoc]
    exact hstate'

/-- Reading the link first. -/
theorem get_bind {f : Link → Script Link β} (hf : ∀ link, OnlyStreams (f link)) :
    OnlyStreams (do let link ← Script.get; f link) :=
  (of_state_eq fun _ => rfl).bind hf

theorem pure (a : α) : OnlyStreams (Pure.pure a) := of_state_eq fun _ => rfl

theorem lift (x : Except PyErr α) : OnlyStreams (Script.lift x) := of_state_eq fun _ => rfl

end OnlyStreams

theorem onlyStreams_sendM2n (outcomes : TransportOutcomes) (recv3 body : List UInt8) :
    OnlyStreams (sendM2n outcomes opcStream recv3 body) := by
  intro link
  rw [sendM2n, Script.bind_run, Script.lift_run]
  cases hframe : checkedFrame opcStream recv3 body with
  | error e => exact ⟨[], by rw [List.append_nil], List.forall_mem_nil _⟩
  | ok frame =>
    obtain ⟨-, rfl⟩ := checkedFrame_eq_ok.mp hframe
    refine ⟨_, rfl, fun p hp => ?_⟩
    cases List.mem_singleton.mp hp
    rfl

theorem onlyStreams_streamAttempts (air : Air) (outcomes : TransportOutcomes)
    (recv3 data : List UInt8) (receivers : List (List UInt8)) :
    ∀ (left : Nat) (acked : List (List UInt8)),
      OnlyStreams (streamAttempts air outcomes recv3 data receivers left acked)
  | 0, acked => .pure acked
  | left + 1, acked => by
    refine .get_bind fun link => (onlyStreams_sendM2n outcomes recv3 data).bind fun _ => ?_
    dsimp only
    split
    · exact .pure _
    · exact onlyStreams_streamAttempts air outcomes recv3 data receivers left _

theorem onlyStreams_sendStream (air : Air) (payload : List UInt8) (target : StreamTarget) :
    OnlyStreams (sendStream air payload target) := by
  refine .get_bind fun link => ?_
  split
  · exact .pure _
  · refine (OnlyStreams.lift _).bind fun _ => (OnlyStreams.lift _).bind fun receivers => ?_
    split
    · exact .pure _
    · refine (OnlyStreams.lift _).bind fun recv3 => ?_
      split
      · exact .pure _
      · exact (onlyStreams_streamAttempts air _ recv3 payload receivers _ _).bind fun _ => .pure _

theorem onlyStreams_sendStreams (air : Air) : ∀ calls : List StreamCall,
    OnlyStreams (sendStreams air calls)
  | [] => .pure _
  | call :: calls => (onlyStreams_sendStream air call.payload call.target).bind fun _ =>
      (onlyStreams_sendStreams air calls).bind fun _ => .pure _

theorem onlyStreams_sendToDevices (env : StartblockEnv) (devices : List Device)
    (slots : List SlotEntry) : OnlyStreams (sendToDevices env devices slots) := by
  unfold sendToDevices
  split
  · exact .pure _
  · exact (onlyStreams_sendStreams env.air _).bind fun _ => .pure _

theorem onlyStreams_deviceAt (place : Nat) : OnlyStreams (deviceAt place) := by
  refine .get_bind fun link => ?_
  split
  · exact .pure _
  · exact .lift _

/-- **Startblock control** sends streams and changes nothing else. -/
theorem onlyStreams_sendStartblockControl (env : StartblockEnv) (params : Dict)
    (target : Option SendTarget) : OnlyStreams (sendStartblockControl env params target) := by
  refine .get_bind fun link => ?_
  split
  · exact .pure _
  · refine (OnlyStreams.lift _).bind fun slots => ?_
    unfold sendSlots
    split
    · exact (onlyStreams_sendStreams env.air _).bind fun _ => .pure _
    · refine (onlyStreams_deviceAt _).bind fun dev => ?_
      split
      · exact onlyStreams_sendToDevices env _ slots
      · exact .pure _
    · exact onlyStreams_sendToDevices env _ slots

/-- `sendStartblockControl` of the controller, as the runner calls it: `bool(method(...))`. -/
def startblockMethod (env : StartblockEnv) (params : Dict) (target : SendTarget) :
    Script Link Bool := do
  let reply ← sendStartblockControl env params (some target)
  pure reply.truthy

/-- The startblock method of a runner sends streams only. -/
def Runner.StreamsOnly (r : Runner) : Prop :=
  ∀ method, r.sendStartblockControl = some method →
    ∀ params target, OnlyStreams (method params target)

theorem streamsOnly_of_startblockMethod {r : Runner} {env : StartblockEnv}
    (h : r.sendStartblockControl = some (startblockMethod env)) : r.StreamsOnly := by
  intro method hmethod params target
  obtain rfl : startblockMethod env = method := Option.some.inj (h.symm.trans hmethod)
  exact (onlyStreams_sendStartblockControl env params (some target)).bind fun _ => .pure _

/-! ## 2. One stream -/

/-- Every receiver has acknowledged within so many attempts, the first of which is the packet
number `sent`. -/
def HeardWithin (air : Air) (receivers : List (List UInt8)) (sent n : Nat) : Prop :=
  ∀ r ∈ receivers, ∃ k < n, r ∈ (streamWindow receivers (air (sent + k))).1.map (·.sender3)

instance (air : Air) (receivers : List (List UInt8)) (sent n : Nat) :
    Decidable (HeardWithin air receivers sent n) :=
  inferInstanceAs (Decidable (∀ r ∈ receivers, ∃ k < n, _))

theorem HeardWithin.mono {air : Air} {receivers : List (List UInt8)} {sent n m : Nat}
    (h : HeardWithin air receivers sent n) (hle : n ≤ m) : HeardWithin air receivers sent m := by
  intro r hr
  obtain ⟨k, hk, hmem⟩ := h r hr
  exact ⟨k, hk.trans_le hle, hmem⟩

/-- The receivers that have acknowledged after so many attempts. -/
def ackedAttempts (air : Air) (receivers : List (List UInt8)) (sent n : Nat) :
    List (List UInt8) :=
  ackedAfter receivers ((List.range n).map fun k => air (sent + k))

theorem ackedAttempts_succ (air : Air) (receivers : List (List UInt8)) (sent n : Nat) :
    ackedAttempts air receivers sent (n + 1)
      = ackedIn receivers (ackedAttempts air receivers sent n) (air (sent + n)) := by
  rw [ackedAttempts, List.range_succ, List.map_append, List.map_singleton, ackedAfter_append]
  rfl

theorem mem_ackedAttempts {air : Air} {receivers : List (List UInt8)} {sent n : Nat}
    {r : List UInt8} : r ∈ ackedAttempts air receivers sent n ↔
      ∃ k < n, r ∈ (streamWindow receivers (air (sent + k))).1.map (·.sender3) := by
  induction n with
  | zero => simp [ackedAttempts, ackedAfter]
  | succ n ih =>
    rw [ackedAttempts_succ, ackedIn, List.mem_union_iff, ih]
    constructor
    · rintro (h | ⟨k, hk, h⟩)
      · exact ⟨n, Nat.lt_succ_self n, h⟩
      · exact ⟨k, Nat.lt_succ_of_lt hk, h⟩
    · rintro ⟨k, hk, h⟩
      rcases Nat.lt_succ_iff_lt_or_eq.mp hk with hk | rfl
      · exact Or.inr ⟨k, hk, h⟩
      · exact Or.inl h

theorem nodup_ackedAttempts (air : Air) (receivers : List (List UInt8)) (sent n : Nat) :
    (ackedAttempts air receivers sent n).Nodup := by
  induction n with
  | zero => exact List.nodup_nil
  | succ n ih =>
    rw [ackedAttempts_succ]
    exact ih.union _

theorem ackedAttempts_subset {air : Air} {receivers : List (List UInt8)} {sent n : Nat} :
    ackedAttempts air receivers sent n ⊆ receivers := by
  intro r hr
  obtain ⟨k, -, hmem⟩ := mem_ackedAttempts.mp hr
  obtain ⟨ev, hev, rfl⟩ := List.mem_map.mp hmem
  exact mem_of_isStreamAck (counts_of_mem_sendAndCollect hev)

/-- The number that have acknowledged is that of the receivers when all of them have. -/
theorem length_ackedAttempts_iff {air : Air} {receivers : List (List UInt8)} {sent n : Nat}
    (hnd : receivers.Nodup) :
    (ackedAttempts air receivers sent n).length = receivers.length ↔
      HeardWithin air receivers sent n := by
  rw [length_eq_iff_of_subset hnd (nodup_ackedAttempts air receivers sent n) ackedAttempts_subset]
  exact forall_congr' fun r => imp_congr_right fun _ => mem_ackedAttempts

/-- The loop over the attempts: it stops at the first after which all have acknowledged. -/
theorem streamAttempts_run {air : Air} {outcomes : TransportOutcomes} {recv3 data : List UInt8}
    {frame : Frame} {receivers : List (List UInt8)} {sent : Nat} (hnd : receivers.Nodup)
    (hframe : checkedFrame opcStream recv3 data = .ok frame) :
    ∀ (left done : Nat) (link : Link), link.sent.length = sent + done →
      ¬ HeardWithin air receivers sent done →
      ∃ n link', streamAttempts air outcomes recv3 data receivers left
          (ackedAttempts air receivers sent done) link
            = (.ok (ackedAttempts air receivers sent (done + n)), link') ∧
        n ≤ left ∧ link'.sent.length = link.sent.length + n ∧
        (∀ m < done + n, ¬ HeardWithin air receivers sent m) ∧
        (HeardWithin air receivers sent (done + n) ∨ n = left)
  | 0, done, link, _, hnot =>
    ⟨0, link, rfl, Nat.le_refl 0, rfl, fun _ hm h => hnot (h.mono (Nat.le_of_lt hm)), Or.inr rfl⟩
  | left + 1, done, link, hsent, hnot => by
    let link₁ : Link := { link with sent := link.sent ++ [⟨frame, outcomes link.sent.length⟩] }
    have hsend : sendM2n outcomes opcStream recv3 data link
        = (.ok (outcomes link.sent.length), link₁) := by
      rw [sendM2n, hframe]
      rfl
    have hlength : link₁.sent.length = link.sent.length + 1 := List.length_append
    have hacked : ackedIn receivers (ackedAttempts air receivers sent done)
        (air link.sent.length) = ackedAttempts air receivers sent (done + 1) := by
      rw [ackedAttempts_succ, hsent]
    have hall : receivers.length ≤ (ackedAttempts air receivers sent (done + 1)).length ↔
        HeardWithin air receivers sent (done + 1) := by
      have hle := (List.subperm_of_subset (nodup_ackedAttempts air receivers sent (done + 1))
        ackedAttempts_subset).length_le
      rw [← length_ackedAttempts_iff hnd]
      omega
    rw [streamAttempts, Script.bind_of_ok (Script.get_run link), Script.bind_of_ok hsend]
    simp only [hacked, hall]
    split
    · next hheard =>
      refine ⟨1, link₁, rfl, by omega, hlength, fun m hm h => ?_, Or.inl hheard⟩
      exact hnot (h.mono (by omega))
    · next hsilent =>
      have hsent₁ : link₁.sent.length = sent + (done + 1) := by omega
      obtain ⟨n, link', hrun, hn, hlink', hfirst, hend⟩ :=
        streamAttempts_run hnd hframe left (done + 1) link₁ hsent₁ hsilent
      rw [show done + 1 + n = done + (n + 1) by omega] at hrun hfirst hend
      refine ⟨n + 1, link', hrun, by omega, by omega, hfirst, ?_⟩
      exact hend.imp_right fun h => congrArg (· + 1) h

/-- The first number of attempts after which every receiver has acknowledged a stream, if it is
one of those `send_stream` makes.  A stream without receivers is not sent. -/
def attemptsHeard (air : Air) (receivers : List (List UInt8)) (sent : Nat) : Option Nat :=
  (List.range (streamMaxAttempts + 1)).find? fun n => HeardWithin air receivers sent n

/-- Every stream is heard: the number of packets sent by then. -/
def streamsHeard (air : Air) : List (List (List UInt8)) → Nat → Option Nat
  | [], sent => some sent
  | receivers :: rest, sent =>
    (attemptsHeard air receivers sent).bind fun n => streamsHeard air rest (sent + n)

theorem streamsHeard_append (air : Air) (xs ys : List (List (List UInt8))) (sent : Nat) :
    streamsHeard air (xs ++ ys) sent = (streamsHeard air xs sent).bind (streamsHeard air ys) := by
  induction xs generalizing sent with
  | nil => rfl
  | cons receivers xs ih =>
    rw [List.cons_append, streamsHeard, streamsHeard]
    cases attemptsHeard air receivers sent with
    | none => rfl
    | some n => exact ih (sent + n)

/-- The first number is the one the loop stops at. -/
theorem attemptsHeard_eq {air : Air} {receivers : List (List UInt8)} {sent n : Nat}
    (hn : n ≤ streamMaxAttempts) (hfirst : ∀ m < n, ¬ HeardWithin air receivers sent m)
    (hend : HeardWithin air receivers sent n ∨ n = streamMaxAttempts) :
    attemptsHeard air receivers sent
      = if HeardWithin air receivers sent n then some n else none := by
  unfold attemptsHeard
  split
  · next hheard =>
    refine List.find?_range_eq_some.mpr ⟨decide_eq_true hheard, ?_, fun m hm => ?_⟩
    · exact List.mem_range.mpr (Nat.lt_succ_of_le hn)
    · simpa using hfirst m hm
  · next hsilent =>
    obtain rfl := hend.resolve_left hsilent
    refine List.find?_eq_none.mpr fun m hm => ?_
    have hm := List.mem_range.mp hm
    simp only [decide_eq_true_eq]
    exact fun h => hsilent (h.mono (by omega))

/-! ## 3. Several streams -/

/-- The receivers of a stream, or why it cannot be sent. -/
def StreamCall.receivers (repository : List Device) (call : StreamCall) :
    Except PyErr (List (List UInt8)) := do
  let receivers ← targetLast3 (call.target.devices repository)
  if receivers.length = 0 then pure receivers
  else do
    let recv3 ← call.target.recv3
    let _ ← checkedFrame opcStream recv3 call.payload
    pure receivers

/-- `results` is what streams to these receivers report: how many there were, and, for all of them
together, that everybody has acknowledged exactly when all are heard. -/
structure StreamsAs (air : Air) (receivers : List (List (List UInt8))) (link link' : Link)
    (results : List (Option StreamResult)) : Prop where
  devices : link'.devices = link.devices
  transport : link'.transport = link.transport
  expected : List.Forall₂ (fun rs result => ∃ acked, result = some ⟨rs.length, acked⟩)
    receivers results
  heard : (∀ result ∈ results, ∃ n, result = some ⟨n, n⟩) ↔
    (streamsHeard air receivers link.sent.length).isSome
  sent : ∀ n, streamsHeard air receivers link.sent.length = some n → link'.sent.length = n

theorem StreamsAs.nil (air : Air) (link : Link) : StreamsAs air [] link link [] :=
  ⟨rfl, rfl, .nil, iff_of_true (fun _ h => nomatch h) rfl, fun _ h => Option.some.inj h⟩

/-- **One after the other.** -/
theorem StreamsAs.append {air : Air} {xs ys : List (List (List UInt8))} {link mid link' : Link}
    {results results' : List (Option StreamResult)} (h : StreamsAs air xs link mid results)
    (h' : StreamsAs air ys mid link' results') :
    StreamsAs air (xs ++ ys) link link' (results ++ results') := by
  refine ⟨h'.devices.trans h.devices, h'.transport.trans h.transport,
    List.rel_append h.expected h'.expected, ?_, fun n hn => ?_⟩
  · rw [List.forall_mem_append, h.heard, streamsHeard_append]
    cases hxs : streamsHeard air xs link.sent.length with
    | none => simp
    | some n =>
      have hmid := h.sent n hxs
      rw [h'.heard, hmid]
      simp
  · rw [streamsHeard_append] at hn
    obtain ⟨m, hm, hn⟩ := Option.bind_eq_some_iff.mp hn
    exact h'.sent n (by rw [h.sent m hm]; exact hn)

/-- A device that a stream is for is not the broadcast address. -/
theorem recv3_ne_broadcast {repository : List Device} {target : StreamTarget}
    {receivers : List (List UInt8)} {recv3 : List UInt8}
    (h : targetLast3 (target.devices repository) = .ok receivers) (hne : receivers.length ≠ 0)
    (hrecv3 : target.recv3 = .ok recv3) : ¬ (recv3 = broadcastRecv3 ∧ target.isDevice = true) := by
  rintro ⟨rfl, hdevice⟩
  cases target with
  | group groupId => cases hdevice
  | device dev =>
    refine hne ?_
    obtain ⟨last3, hlast3, h⟩ := bind_eq_ok.mp h
    cases h
    have hbroadcast : ∀ r ∈ last3, r = broadcastRecv3 := by
      intro r hr
      obtain ⟨dev', hdev', hr⟩ := exists_of_mem_mapM hlast3 hr
      have hsame : dev' = dev := List.mem_singleton.mp (List.mem_filter.mp hdev').1
      rw [hsame] at hr
      exact Except.ok.inj (hr.symm.trans hrecv3)
    rw [List.length_eq_zero_iff, List.filter_eq_nil_iff]
    intro r hr
    simpa using hbroadcast r (List.mem_dedup.mp hr)

/-- The attempts of a stream that has receivers. -/
theorem streamsAs_of_attempts (air : Air) (outcomes : TransportOutcomes) {recv3 data : List UInt8}
    {frame : Frame} {receivers : List (List UInt8)} (hnd : receivers.Nodup)
    (hne : receivers.length ≠ 0) (hframe : checkedFrame opcStream recv3 data = .ok frame)
    (link : Link) :
    ∃ acked link', streamAttempts air outcomes recv3 data receivers streamMaxAttempts [] link
        = (.ok acked, link') ∧
      StreamsAs air [receivers] link link' [some ⟨receivers.length, acked.length⟩] := by
  have hnone : ¬ HeardWithin air receivers link.sent.length 0 := by
    intro h
    obtain ⟨r, hr⟩ := List.exists_mem_of_length_pos (Nat.pos_of_ne_zero hne)
    obtain ⟨k, hk, -⟩ := h r hr
    exact Nat.not_lt_zero k hk
  obtain ⟨n, link', hrun, hn, hsent, hfirst, hend⟩ :=
    @streamAttempts_run air outcomes _ _ _ _ _ hnd hframe streamMaxAttempts 0 link rfl hnone
  rw [Nat.zero_add] at hrun hfirst hend
  have hstop := attemptsHeard_eq hn hfirst hend
  have hlength : (ackedAttempts air receivers link.sent.length n).length = receivers.length ↔
      HeardWithin air receivers link.sent.length n := length_ackedAttempts_iff hnd
  obtain ⟨packets, hstate, -⟩ := onlyStreams_streamAttempts air outcomes recv3 data receivers
    streamMaxAttempts [] link
  have hzero : ackedAttempts air receivers link.sent.length 0 = [] := rfl
  rw [hzero] at hrun
  rw [hrun] at hstate
  obtain rfl : link' = { link with sent := link.sent ++ packets } := hstate
  refine ⟨_, _, hrun, rfl, rfl, .cons ⟨_, rfl⟩ .nil, ?_, fun m hm => ?_⟩
  · rw [streamsHeard, hstop]
    split
    · next hheard =>
      refine iff_of_true (fun result hresult => ?_) rfl
      rw [List.mem_singleton.mp hresult, hlength.mpr hheard]
      exact ⟨_, rfl⟩
    · next hsilent =>
      refine iff_of_false (fun h => hsilent (hlength.mp ?_)) nofun
      obtain ⟨m, hm⟩ := h _ List.mem_cons_self
      injection hm with hm
      injection hm with hexpected hacked
      rw [hexpected]
      exact hacked
  · rw [streamsHeard, hstop] at hm
    split at hm
    · rw [hsent]
      exact Option.some.inj hm
    · cases hm

theorem streamAttempts_raises {air : Air} {outcomes : TransportOutcomes} {recv3 data : List UInt8}
    {e : PyErr} (hframe : checkedFrame opcStream recv3 data = .error e)
    (receivers acked : List (List UInt8)) (left : Nat) (link : Link) :
    streamAttempts air outcomes recv3 data receivers (left + 1) acked link = (.error e, link) := by
  rw [streamAttempts, Script.bind_of_ok (Script.get_run link), Script.bind_run, sendM2n, hframe]
  rfl

/-- **One stream**: it reports its receivers, or raises. -/
theorem sendStream_run (air : Air) {outcomes : TransportOutcomes} {link : Link} {call : StreamCall}
    (ht : link.transport = some outcomes) (hshort : call.payload.length ≤ 128) :
    (sendStream air call.payload call.target).Does link (call.receivers link.devices)
      fun receivers result link' => StreamsAs air [receivers] link link' [result] := by
  have hstart : sendStream air call.payload call.target link = (do
      let receivers ← Script.lift (targetLast3 (call.target.devices link.devices))
      if receivers.length = 0 then pure (some ⟨0, 0⟩)
      else do
        let recv3 ← Script.lift call.target.recv3
        if recv3 = broadcastRecv3 ∧ call.target.isDevice then pure (some ⟨receivers.length, 0⟩)
        else do
          let acked ← streamAttempts air outcomes recv3 call.payload receivers streamMaxAttempts []
          pure (some ⟨receivers.length, acked.length⟩) :
        Script Link (Option StreamResult)) link := by
    rw [sendStream, Script.bind_of_ok (Script.get_run link)]
    simp only [ht, raiseIf_of_not (Nat.not_lt.mpr hshort)]
    rw [Script.bind_of_ok (Script.lift_run _ _)]
  refine .congr hstart (.lift_bind fun receivers hreceivers => ?_)
  by_cases hne : receivers.length = 0
  · rw [if_pos hne, if_pos hne]
    obtain rfl := List.length_eq_zero_iff.mp hne
    have hheard : streamsHeard air [[]] link.sent.length = some link.sent.length := rfl
    refine .of_ok rfl ⟨rfl, rfl, .cons ⟨0, rfl⟩ .nil, ?_, fun n hn => ?_⟩
    · exact iff_of_true (by simp) (by rw [hheard]; rfl)
    · exact Option.some.inj (hheard.symm.trans hn)
  · rw [if_neg hne, if_neg hne]
    refine .lift_bind fun recv3 hrecv3 => ?_
    rw [if_neg (recv3_ne_broadcast hreceivers hne hrecv3)]
    cases hframe : checkedFrame opcStream recv3 call.payload with
    | error e =>
      have hraises := @streamAttempts_raises air outcomes _ _ _ hframe receivers [] 2 link
      refine .of_error (?_ : _ = (_, link))
      rw [Script.bind_run, show streamMaxAttempts = 2 + 1 from rfl, hraises]
    | ok frame =>
      obtain ⟨acked, link', hrun, has⟩ := streamsAs_of_attempts air outcomes
        (nodup_targetLast3 hreceivers) hne hframe link
      exact .of_ok (Script.bind_of_ok hrun) has

/-- The loop over the slots reports what its streams do, or raises. -/
theorem sendStreams_run (air : Air) {outcomes : TransportOutcomes} {calls : List StreamCall}
    {link : Link} (ht : link.transport = some outcomes)
    (hshort : ∀ call ∈ calls, call.payload.length ≤ 128) :
    (sendStreams air calls).Does link (calls.mapM (·.receivers link.devices))
      fun receivers sent link' => StreamsAs air receivers link link' (sent.map (·.result)) := by
  induction calls generalizing link with
  | nil => exact .of_ok rfl (.nil air link)
  | cons call calls ih =>
    obtain ⟨hcall, hshort⟩ := List.forall_mem_cons.mp hshort
    rw [List.mapM_cons]
    refine (sendStream_run air ht hcall).bind fun first result mid has => ?_
    have hrest := ih (has.transport.trans ht) hshort
    rw [has.devices] at hrest
    exact hrest.bind fun rest sent link' has' => .of_ok rfl (has.append has')

/-! ## 4. Calls and actions -/

/-- The streams of a call, for a group or a device. -/
def startblockStreams (slots : List SlotEntry) (repository : List Device) :
    SendTarget → Except PyErr (List StreamCall)
  | .group groupId => pure (groupStreams groupId slots)
  | .device place =>
    match repository[place]? with
    | some dev => pure (if dev.isStartblock then unicastStreams [dev] slots else [])
    | none => .error .attributeError

/-- The receivers of its streams, or why they cannot all be sent. -/
def startblockReceivers (env : StartblockEnv) (params : Dict) (repository : List Device)
    (target : SendTarget) : Except PyErr (List (List (List UInt8))) := do
  let slots ← env.slotList params
  let calls ← startblockStreams slots repository target
  calls.mapM (·.receivers repository)

/-- The reports in a reply. -/
def StartblockReply.results : StartblockReply → List (Option StreamResult)
  | notReady => []
  | error _ => []
  | group _ sent => sent.map (·.result)
  | unicast _ sent => sent.map (·.result)

theorem length_slotPayload_le (slots : List SlotEntry) (slot0 : Int) :
    (slotPayload slots slot0).length ≤ 128 :=
  (parseStartblock_build (slot0 + 1) (slotLabel slots slot0).2
    (slotLabel slots slot0).1).2.trans (by decide)

theorem short_groupStreams (groupId : Int) (slots : List SlotEntry) :
    ∀ call ∈ groupStreams groupId slots, call.payload.length ≤ 128 := by
  intro call hcall
  obtain ⟨k, -, rfl⟩ := List.mem_map.mp hcall
  exact length_slotPayload_le slots k

theorem short_unicastStreams (devices : List Device) (slots : List SlotEntry) :
    ∀ call ∈ unicastStreams devices slots, call.payload.length ≤ 128 := by
  intro call hcall
  obtain ⟨k, -, hk⟩ := List.mem_filterMap.mp hcall
  obtain ⟨dev, -, rfl⟩ := Option.map_eq_some_iff.mp hk
  exact length_slotPayload_le slots k

/-- **A call**, with a transport: it raises where its slots or one of its streams does, and returns
a dictionary that is not empty otherwise. -/
theorem sendStartblockControl_streams (env : StartblockEnv) (params : Dict) {link : Link}
    {outcomes : TransportOutcomes} (ht : link.transport = some outcomes) (target : SendTarget) :
    (sendStartblockControl env params (some target)).Does link
      (startblockReceivers env params link.devices target) fun receivers reply link' =>
        reply.truthy = true ∧ StreamsAs env.air receivers link link' reply.results := by
  have hstart : sendStartblockControl env params (some target) link = (do
      let slots ← Script.lift (env.slotList params)
      sendSlots env slots link.devices (some target) : Script Link StartblockReply) link := by
    rw [sendStartblockControl, Script.bind_of_ok (Script.get_run link)]
    simp only [ht]
  refine .congr hstart (.lift_bind fun slots _ => ?_)
  cases target with
  | group groupId =>
    exact (sendStreams_run env.air ht (short_groupStreams groupId slots)).bind_pure
      fun receivers sent link' has => ⟨rfl, has⟩
  | device place =>
    unfold startblockStreams
    dsimp only
    cases hplace : link.devices[place]? with
    | none =>
      have hraises : deviceAt place link = (.error .attributeError, link) := by
        rw [deviceAt, Script.bind_of_ok (Script.get_run link)]
        simp only [hplace]
        rfl
      refine .of_error (?_ : _ = (_, link))
      rw [sendSlots, Script.bind_run, hraises]
    | some dev =>
      refine .congr (Script.bind_of_ok (deviceAt_some hplace)) ?_
      simp only [pure_eq_ok, ok_bind]
      by_cases hcapable : dev.isStartblock = true
      · rw [if_pos hcapable, if_pos hcapable]
        rw [sendToDevices, if_neg (by simp)]
        exact (sendStreams_run env.air ht (short_unicastStreams [dev] slots)).bind_pure
          fun receivers sent link' has => ⟨rfl, has⟩
      · rw [if_neg hcapable, if_neg hcapable]
        exact .of_ok rfl ⟨rfl, .nil env.air link⟩

/-- What the calls of an action return, one after the other. -/
def startblockReplies (env : StartblockEnv) (params : Dict) :
    List SendTarget → Script Link (List StartblockReply)
  | [] => pure []
  | target :: targets => do
    let reply ← sendStartblockControl env params (some target)
    let replies ← startblockReplies env params targets
    pure (reply :: replies)

theorem startblockReplies_run (env : StartblockEnv) (params : Dict) {targets : List SendTarget}
    {link : Link} {outcomes : TransportOutcomes} (ht : link.transport = some outcomes) :
    (startblockReplies env params targets).Does link
      (targets.mapM (startblockReceivers env params link.devices)) fun receivers replies link' =>
        (∀ reply ∈ replies, reply.truthy = true) ∧
          StreamsAs env.air receivers.flatten link link' (replies.flatMap (·.results)) := by
  induction targets generalizing link with
  | nil => exact .of_ok rfl ⟨nofun, .nil env.air link⟩
  | cons target targets ih =>
    rw [List.mapM_cons]
    refine (sendStartblockControl_streams env params ht target).bind ?_
    rintro first reply mid ⟨htruthy, has⟩
    have hrest := ih (has.transport.trans ht)
    rw [has.devices] at hrest
    refine hrest.bind ?_
    rintro rest replies link' ⟨hall, has'⟩
    refine .of_ok rfl ⟨List.forall_mem_cons.mpr ⟨htruthy, hall⟩, ?_⟩
    rw [List.flatten_cons, List.flatMap_cons]
    exact has.append has'

theorem startblockReplies_none (env : StartblockEnv) (params : Dict) {link : Link}
    (ht : link.transport = none) : ∀ targets : List SendTarget,
    startblockReplies env params targets link = (.ok (targets.map fun _ => .notReady), link)
  | [] => rfl
  | target :: targets => by
    have hfirst : sendStartblockControl env params (some target) link = (.ok .notReady, link) := by
      rw [sendStartblockControl, Script.bind_of_ok (Script.get_run link)]
      simp only [ht]
      rfl
    rw [startblockReplies, Script.bind_of_ok hfirst,
      Script.bind_of_ok (startblockReplies_none env params ht targets)]
    rfl

/-- The runner's loop over startblock packets makes the calls, and keeps of a reply its truth. -/
theorem dispatchOps_startblock {r : Runner} {env : StartblockEnv}
    (hr : r.sendStartblockControl = some (startblockMethod env)) {params : Dict}
    {op : SendTarget → WireOp} (hop : ∀ target, (op target).payload = .startblock params target)
    (targets : List SendTarget) (link : Link) :
    (∀ replies link', startblockReplies env params targets link = (.ok replies, link') →
      ∃ outcomes, r.dispatchOps (targets.map op) link = (.ok outcomes, link') ∧
        outcomes.map (·.ok) = replies.map (·.truthy)) ∧
    ∀ e link', startblockReplies env params targets link = (.error e, link') →
      r.dispatchOps (targets.map op) link = (.error e, link') := by
  induction targets generalizing link with
  | nil =>
    refine ⟨fun replies link' h => ?_, fun _ _ h => (nomatch h)⟩
    cases h
    exact ⟨[], rfl, rfl⟩
  | cons target targets ih =>
    have hcall : r.dispatchOp (op target) = startblockMethod env params target := by
      rw [Runner.dispatchOp, hop target]
      simp only [hr]
    rw [List.map_cons, startblockReplies, Runner.dispatchOps, hcall, startblockMethod]
    rcases hfirst : sendStartblockControl env params (some target) link with ⟨_ | reply, mid⟩
    · refine ⟨fun replies link' h => ?_, fun e link' h => ?_⟩
      · rw [Script.bind_run, hfirst] at h
        cases h
      · rw [Script.bind_run, hfirst] at h
        rw [Script.bind_run, Script.bind_run, hfirst]
        cases h
        rfl
    · have hbool : (do
          let reply ← sendStartblockControl env params (some target)
          pure reply.truthy : Script Link Bool) link = (.ok reply.truthy, mid) :=
        Script.bind_of_ok hfirst
      rw [Script.bind_of_ok hfirst, Script.bind_of_ok hbool]
      obtain ⟨hok, herror⟩ := ih mid
      rcases hrest : startblockReplies env params targets mid with ⟨_ | replies, link'⟩
      · refine ⟨fun _ _ h => ?_, fun e link'' h => ?_⟩
        · rw [Script.bind_run, hrest] at h
          cases h
        · rw [Script.bind_run, hrest] at h
          cases h
          rw [Script.bind_run, herror _ _ hrest]
      · refine ⟨fun replies' link'' h => ?_, fun _ _ h => ?_⟩
        · rw [Script.bind_of_ok hrest] at h
          cases h
          obtain ⟨outcomes, hrun, hoks⟩ := hok replies link' hrest
          exact ⟨_, Script.bind_of_ok hrun, congrArg (reply.truthy :: ·) hoks⟩
        · rw [Script.bind_of_ok hrest] at h
          cases h

namespace Runner

variable (r : Runner)

/-- The parameters of a startblock action. -/
def startblockParams (e : Effect) : Dict := mergeFlags e.params [] (overrideOf none e)

/-- A startblock action gets through to its streams, and these are the receivers of each: there is
a transport, the target is found, and nothing it converts raises. -/
def StreamsTo (env : StartblockEnv) (known : List Int) (e : Effect) (link : Link)
    (receivers : List (List (List UInt8))) : Prop :=
  link.transport ≠ none ∧ (∃ len, controlBodyLen (startblockParams e) = .ok len) ∧
  ∃ targets perCall, resolveTarget (r.plannerInputs known link.devices) e.target = some targets ∧
    targets.mapM (startblockReceivers env (startblockParams e) link.devices) = .ok perCall ∧
    receivers = perCall.flatten

/-- What a plan of a startblock action is: a call for each target. -/
theorem planEffect_startblock {inp : PlannerInputs} {e : Effect} (he : e.kind = .startblock)
    {targets : List SendTarget} (htargets : resolveTarget inp e.target = some targets) :
    planEffect inp none e = (do
      let len ← controlBodyLen (startblockParams e)
      pure ⟨.startblock, targets.map (effectOp inp .startblock (startblockParams e) .none len),
        none, .none⟩) := by
  have hm : materialize inp e = .ok (some ⟨e.params, [], .none⟩) := by
    rw [materialize, if_neg (by rw [he]; decide)]
    rfl
  rw [planEffect_resolved (RlPresets.resolveTarget_ne_nil htargets) htargets hm, he]
  rfl

/-- The plan of a startblock action whose parameters convert. -/
def startblockPlan (inp : PlannerInputs) (e : Effect) (len : Nat) (targets : List SendTarget) :
    ActionDispatchPlan :=
  EffectPlan.toAction ⟨.startblock,
    targets.map (effectOp inp .startblock (startblockParams e) .none len), none, .none⟩

theorem handle_startblock {e : Effect} (he : e.kind = .startblock) {known : List Int}
    {link : Link} {targets : List SendTarget} {len : Nat}
    (htargets : resolveTarget (r.plannerInputs known link.devices) e.target = some targets)
    (hlen : controlBodyLen (startblockParams e) = .ok len) (index : Nat) :
    r.handle known index (.effect e) link = (do
      let outcomes ← r.dispatchOps
        (startblockPlan (r.plannerInputs known link.devices) e len targets).ops
      pure (foldOutcomes index
        (startblockPlan (r.plannerInputs known link.devices) e len targets) outcomes)) link := by
  have hplan : planActionDispatch (r.plannerInputs known link.devices) (.effect e)
      = .ok (startblockPlan (r.plannerInputs known link.devices) e len targets) := by
    rw [planActionDispatch, planEffect_startblock he htargets, hlen]
    rfl
  have hnot : ∀ durationMs, Action.effect e ≠ .delay durationMs := fun _ => Action.noConfusion
  rw [r.handle_run known index hnot link, hplan]
  rfl

/-- The action is ok when every reply of its calls is true, and fails where a call raises. -/
theorem dispatch_of_replies {env : StartblockEnv}
    (hr : r.sendStartblockControl = some (startblockMethod env)) {e : Effect}
    (he : e.kind = .startblock) {known : List Int} {link : Link} {targets : List SendTarget}
    {len : Nat}
    (htargets : resolveTarget (r.plannerInputs known link.devices) e.target = some targets)
    (hlen : controlBodyLen (startblockParams e) = .ok len) (index : Nat) :
    (∀ replies link',
      startblockReplies env (startblockParams e) targets link = (.ok replies, link') →
      ((r.dispatch known index (.effect e) link).1.ok = true ↔
        ∀ reply ∈ replies, reply.truthy = true)) ∧
    ∀ err link', startblockReplies env (startblockParams e) targets link = (.error err, link') →
      (r.dispatch known index (.effect e) link).1.ok = false := by
  have hhandle := r.handle_startblock he htargets hlen index
  have hop : ∀ target, (effectOp (r.plannerInputs known link.devices) .startblock
      (startblockParams e) .none len target).payload = .startblock (startblockParams e) target :=
    fun _ => rfl
  obtain ⟨hok, herror⟩ := dispatchOps_startblock hr hop targets link
  constructor
  · intro replies link' hreplies
    obtain ⟨outcomes, hrun, hoks⟩ := hok replies link' hreplies
    rw [r.dispatch_of_ok (hhandle.trans (Script.bind_of_ok hrun)), foldOutcomes_ok]
    have hall : (∀ outcome ∈ outcomes, outcome.ok = true) ↔
        ∀ reply ∈ replies, reply.truthy = true := by
      rw [← List.forall_mem_map (P := fun b => b = true), hoks, List.forall_mem_map]
    rw [hall]
    exact and_iff_left fun _ _ => nofun
  · intro err link' hreplies
    have hops : r.dispatchOps
        (startblockPlan (r.plannerInputs known link.devices) e len targets).ops link
          = (.error err, link') := herror err link' hreplies
    have hraises : r.handle known index (.effect e) link = (.error err, link') := by
      rw [hhandle, Script.bind_run, hops]
    exact (r.dispatch_of_error hraises).1

/-- **Ok says nothing about the streams**: a startblock action is ok exactly when it gets through
to them. -/
theorem dispatch_startblock_ok_iff {env : StartblockEnv}
    (hr : r.sendStartblockControl = some (startblockMethod env)) {e : Effect}
    (he : e.kind = .startblock) (known : List Int) (index : Nat) (link : Link) :
    (r.dispatch known index (.effect e) link).1.ok = true ↔
      ∃ receivers, r.StreamsTo env known e link receivers := by
  have hnot : ∀ durationMs, Action.effect e ≠ .delay durationMs := fun _ => Action.noConfusion
  have hrun := r.handle_run known index hnot link
  cases htargets : resolveTarget (r.plannerInputs known link.devices) e.target with
  | none =>
    -- degraded
    obtain ⟨plan, hplan, hdegraded, -⟩ := planEffect_unresolved (Or.inl htargets) none
    rw [planActionDispatch, hplan, ok_bind] at hrun
    have hdegraded : plan.toAction.degraded = true := hdegraded
    obtain ⟨result, hresult, hfalse⟩ := r.executePlan_degraded hdegraded index link
    rw [r.dispatch_of_ok (hrun.trans hresult)]
    refine iff_of_false (by rw [hfalse]; exact Bool.false_ne_true) ?_
    rintro ⟨_, -, -, _, _, hsome, -⟩
    cases htargets.symm.trans hsome
  | some targets =>
    cases hlen : controlBodyLen (startblockParams e) with
    | error err =>
      -- no plan
      rw [planActionDispatch, planEffect_startblock he htargets, hlen, error_bind,
        error_bind] at hrun
      rw [(r.dispatch_of_error hrun).1]
      refine iff_of_false Bool.false_ne_true ?_
      rintro ⟨_, -, ⟨len, hok⟩, -⟩
      cases hlen.symm.trans hok
    | ok len =>
      obtain ⟨hok, herror⟩ := r.dispatch_of_replies hr he htargets hlen index
      cases ht : link.transport with
      | none =>
        rw [hok _ link (startblockReplies_none env _ ht targets)]
        refine iff_of_false (fun h => ?_) ?_
        · obtain ⟨target, htarget⟩ :=
            List.exists_mem_of_ne_nil _ (RlPresets.resolveTarget_ne_nil htargets)
          exact absurd (h _ (List.mem_map_of_mem htarget)) Bool.false_ne_true
        · rintro ⟨_, hne, -⟩
          exact hne ht
      | some outcomes =>
        have hdoes := @startblockReplies_run env (startblockParams e) targets link outcomes ht
        cases hmap : targets.mapM (startblockReceivers env (startblockParams e) link.devices) with
        | error err =>
          obtain ⟨link', hlink'⟩ := hdoes.raises err hmap
          rw [herror err link' hlink']
          refine iff_of_false Bool.false_ne_true ?_
          rintro ⟨_, -, -, targets', perCall, htargets', hperCall, -⟩
          cases htargets.symm.trans htargets'
          cases hmap.symm.trans hperCall
        | ok perCall =>
          obtain ⟨replies, link', hlink', htruthy, -⟩ := hdoes.returns perCall hmap
          rw [hok replies link' hlink']
          have hsome : link.transport ≠ none := by
            rw [ht]
            exact Option.some_ne_none _
          exact iff_of_true htruthy ⟨_, hsome, ⟨len, hlen⟩, targets, perCall, htargets, hmap, rfl⟩

/-! ## 5. What ok should mean -/

/-- The calls of an action streamed something to somebody, and every stream was acknowledged by all
the receivers it had. -/
def Reported (env : StartblockEnv) (known : List Int) (e : Effect) (link : Link) : Prop :=
  ∃ targets replies, resolveTarget (r.plannerInputs known link.devices) e.target = some targets ∧
    (startblockReplies env (startblockParams e) targets link).1 = .ok replies ∧
    (∃ result ∈ replies.flatMap (·.results), ∃ n acked, result = some ⟨n, acked⟩ ∧ 0 < n) ∧
    ∀ result ∈ replies.flatMap (·.results), ∃ n, result = some ⟨n, n⟩

theorem StreamsTo.unique {env : StartblockEnv} {known : List Int} {e : Effect} {link : Link}
    {receivers receivers' : List (List (List UInt8))} (h : r.StreamsTo env known e link receivers)
    (h' : r.StreamsTo env known e link receivers') : receivers = receivers' := by
  obtain ⟨-, -, targets, perCall, htargets, hmap, rfl⟩ := h
  obtain ⟨-, -, targets', perCall', htargets', hmap', rfl⟩ := h'
  cases htargets.symm.trans htargets'
  cases hmap.symm.trans hmap'
  rfl

/-- A stream with receivers is one that reports them. -/
theorem expected_pos_iff {receivers : List (List (List UInt8))}
    {results : List (Option StreamResult)}
    (h : List.Forall₂ (fun rs result => ∃ acked, result = some ⟨rs.length, acked⟩)
      receivers results) :
    (∃ result ∈ results, ∃ n acked, result = some ⟨n, acked⟩ ∧ 0 < n) ↔
      ∃ rs ∈ receivers, rs ≠ [] := by
  induction h with
  | nil => simp
  | @cons rs result receivers results hresult _ ih =>
    obtain ⟨acked, rfl⟩ := hresult
    have hhead : (∃ n acked', some (⟨rs.length, acked⟩ : StreamResult) = some ⟨n, acked'⟩ ∧ 0 < n) ↔
        rs ≠ [] := by
      rw [← List.length_pos_iff]
      constructor
      · rintro ⟨n, acked', h, hn⟩
        cases h
        exact hn
      · exact fun hn => ⟨_, _, rfl, hn⟩
    simp only [List.exists_mem_cons_iff, hhead, ih]

/-- What the calls report of their streams, when they get through to them. -/
theorem reported_of_streamsTo {env : StartblockEnv} {known : List Int} {e : Effect} {link : Link}
    {receivers : List (List (List UInt8))} (h : r.StreamsTo env known e link receivers) :
    r.Reported env known e link ↔ (∃ rs ∈ receivers, rs ≠ []) ∧
      (streamsHeard env.air receivers link.sent.length).isSome := by
  obtain ⟨htransport, -, targets, perCall, htargets, hmap, rfl⟩ := h
  obtain ⟨outcomes, ht⟩ := Option.ne_none_iff_exists'.mp htransport
  obtain ⟨replies, link', hrun, -, has⟩ :=
    (@startblockReplies_run env (startblockParams e) targets link outcomes ht).returns perCall hmap
  rw [← expected_pos_iff has.expected, ← has.heard]
  constructor
  · rintro ⟨targets', replies', htargets', hreplies', hsome, hall⟩
    cases htargets.symm.trans htargets'
    rw [hrun] at hreplies'
    cases hreplies'
    exact ⟨hsome, hall⟩
  · exact fun ⟨hsome, hall⟩ => ⟨targets, replies, htargets, by rw [hrun], hsome, hall⟩

/-- **Startblock reports**: ok means that everybody has heard exactly when the streams that the
action gets through to have a receiver and are all heard. -/
theorem startblock_reported_iff {env : StartblockEnv}
    (hr : r.sendStartblockControl = some (startblockMethod env)) {e : Effect}
    (he : e.kind = .startblock) (known : List Int) (index : Nat) (link : Link) :
    ((r.dispatch known index (.effect e) link).1.ok = true → r.Reported env known e link) ↔
      ∀ receivers, r.StreamsTo env known e link receivers →
        (∃ rs ∈ receivers, rs ≠ []) ∧
          (streamsHeard env.air receivers link.sent.length).isSome := by
  rw [r.dispatch_startblock_ok_iff hr he known index link]
  constructor
  · exact fun h receivers hto => (r.reported_of_streamsTo hto).mp (h ⟨receivers, hto⟩)
  · rintro h ⟨receivers, hto⟩
    exact (r.reported_of_streamsTo hto).mpr (h receivers hto)

end Runner

/-- A startblock action without parameters. -/
def startblockFor (target : Target) : Effect := ⟨.startblock, target, [], none⟩

/-- A host with two startblocks in group 1, that has sent nothing yet. -/
def splitLink : Link := ⟨splitBlocks, some fun _ => .success, []⟩

/-- A host without a heat, and what it hears after each packet. -/
def emptyHeat (heard : List ReplyEvent) : StartblockEnv := ⟨[], fun _ => "", fun _ => ⟨heard, []⟩⟩

/-- A runner wired to this host. -/
def startblockRunner (env : StartblockEnv) : Runner :=
  ⟨none, true, true, fun _ => 0, some (startblockMethod env)⟩

/-- Eight streams, for both startblocks. -/
theorem streamsTo_groups (heard : List ReplyEvent) :
    (startblockRunner (emptyHeat heard)).StreamsTo (emptyHeat heard) []
      (startblockFor (.groups [1])) splitLink (List.replicate 8 [[0, 0, 1], [0, 0, 2]]) := by
  -- what is heard does not matter for the receivers
  have hreceivers : startblockReceivers (emptyHeat []) [] splitBlocks (.group 1)
      = .ok (List.replicate 8 [[0, 0, 1], [0, 0, 2]]) :=
    eq_ok_of_toOption (by decide +kernel)
  have hall : [SendTarget.group 1].mapM (startblockReceivers (emptyHeat heard) [] splitBlocks)
      = .ok [List.replicate 8 [[0, 0, 1], [0, 0, 2]]] := by
    change [SendTarget.group 1].mapM (startblockReceivers (emptyHeat []) [] splitBlocks) = _
    rw [List.mapM_cons, hreceivers]
    rfl
  exact ⟨nofun, ⟨_, rfl⟩, [.group 1], _, rfl, hall, rfl⟩

/-- Nobody is in group 255, which a broadcast streams to. -/
theorem streamsTo_broadcast (heard : List ReplyEvent) :
    (startblockRunner (emptyHeat heard)).StreamsTo (emptyHeat heard) [] (startblockFor .broadcast)
      splitLink (List.replicate 8 []) :=
  ⟨nofun, ⟨_, rfl⟩, [.group 255], [List.replicate 8 []], rfl, rfl, rfl⟩

theorem startblock_reported_acked :
    (startblockRunner (emptyHeat [streamAckFrom [0, 0, 1], streamAckFrom [0, 0, 2]])).Reported
      (emptyHeat [streamAckFrom [0, 0, 1], streamAckFrom [0, 0, 2]]) []
      (startblockFor (.groups [1])) splitLink := by
  have hto := streamsTo_groups [streamAckFrom [0, 0, 1], streamAckFrom [0, 0, 2]]
  have hok := ((startblockRunner _).dispatch_startblock_ok_iff rfl rfl [] 0 splitLink).mpr ⟨_, hto⟩
  refine ((startblockRunner _).startblock_reported_iff rfl rfl [] 0 splitLink).mpr ?_ hok
  intro receivers hreceivers
  cases Runner.StreamsTo.unique _ hto hreceivers
  decide +kernel

/-- In silence, the action for group 1 is ok although no stream has been acknowledged, and the
broadcast is ok although no startblock is in its group. -/
theorem startblock_ok_unheard :
    (((startblockRunner (emptyHeat [])).dispatch [] 0 (.effect (startblockFor (.groups [1])))
        splitLink).1.ok = true ∧
      ¬ (startblockRunner (emptyHeat [])).Reported (emptyHeat []) [] (startblockFor (.groups [1]))
        splitLink) ∧
    ((startblockRunner (emptyHeat [])).dispatch [] 0 (.effect (startblockFor .broadcast))
        splitLink).1.ok = true ∧
      ¬ (startblockRunner (emptyHeat [])).Reported (emptyHeat []) [] (startblockFor .broadcast)
        splitLink := by
  have hgroups := streamsTo_groups []
  have hbroadcast := streamsTo_broadcast []
  refine ⟨⟨((startblockRunner _).dispatch_startblock_ok_iff rfl rfl [] 0 splitLink).mpr
      ⟨_, hgroups⟩, ?_⟩,
    ((startblockRunner _).dispatch_startblock_ok_iff rfl rfl [] 0 splitLink).mpr
      ⟨_, hbroadcast⟩, ?_⟩
  · rw [Runner.reported_of_streamsTo _ hgroups]
    decide +kernel
  · rw [Runner.reported_of_streamsTo _ hbroadcast]
    decide +kernel

end RaceLink
