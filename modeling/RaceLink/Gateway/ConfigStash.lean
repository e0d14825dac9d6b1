/-
# The stashed config

`send_config` stashes what it is about to send, under the receiver's address, and the ACK of the
device pops the stash and applies it to `configByte`.  The ACK says that a config was accepted and
not which one, and the stash has one entry a receiver.  So an ACK applies whatever was stashed last:
with two configs on the way the first ACK applies the second one, and the second ACK finds nothing.

Here any number of configs are sent to any receivers, each written as often as it is retried, and
each copy may be answered late, out of order or not at all.  `configs_inStep_iff` says in which runs
every ACK applies its own config: those in which the ACKs that are handled come in turn.
-/
import RaceLink.Lts.Family
import RaceLink.Python.Bytes

namespace RaceLink

open Python

/-! ## 1. The update -/

/-- What a config carries of interest to the host. -/
structure SentConfig where
  option : UInt8
  data0 : UInt8
  deriving DecidableEq

/-- `bit_map`. -/
def configBit (option : UInt8) : Option UInt8 :=
  [(0x01, 0), (0x03, 1), (0x04, 2)].lookup option

/-- `apply_config_update`. -/
def applyConfigUpdate (c : SentConfig) (configByte : UInt8) : UInt8 :=
  match configBit c.option with
  | none => configByte
  | some bit =>
    let mask := 1 <<< bit
    if c.data0 ≠ 0 then configByte ||| mask else configByte &&& ~~~mask

/-- The byte after the updates of some configs, in order. -/
def replay (sent : List SentConfig) (configByte : UInt8) (is : List Nat) : UInt8 :=
  is.foldl (fun b i => ((sent[i]?).map (applyConfigUpdate · b)).getD b) configByte

/-! ## 2. One receiver -/

/-- A device and its entry in the stash. -/
structure ConfigSlot where
  configByte : UInt8
  /-- The entry of `_pending_config`, with the number of its config. -/
  pendingConfig : Option (Nat × SentConfig)
  /-- The configs that were sent, in order. -/
  sent : List SentConfig
  /-- The copies that were written and may still be answered. -/
  copies : List Nat
  /-- Not in the source: the byte before the first config. -/
  initialByte : UInt8
  /-- Not in the source: the configs whose ACK with status 0 was handled, in order. -/
  acked : List Nat
  /-- Not in the source: the configs whose update was applied, in order. -/
  applied : List Nat
  /-- Not in the source: no ACK with status 0 was handled since the last config was sent. -/
  fresh : Bool

inductive ConfigEvent where
  /-- `send_config` stashes its config. -/
  | send (option data0 : Int)
  /-- The frame of a config is written, once for each attempt. -/
  | write (i : Nat)
  /-- The device's ACK of a copy is handled. -/
  | ack (i : Nat) (ackStatus : UInt8)

/-- `stash_pending_config`. -/
def ConfigSlot.stashed (r : ConfigSlot) (c : SentConfig) : ConfigSlot :=
  { r with
    pendingConfig := some (r.sent.length, c)
    sent := r.sent ++ [c]
    fresh := true }

/-- `take_pending_config`, and the update of what it returns. -/
def ConfigSlot.taken (r : ConfigSlot) : ConfigSlot :=
  match r.pendingConfig with
  | some (j, c) =>
    { r with
      configByte := applyConfigUpdate c r.configByte
      pendingConfig := none
      applied := r.applied ++ [j] }
  | none => r

/-- `handle_ack_event` for an ACK of `OPC_CONFIG` from a known device. -/
def ConfigSlot.handleAck (r : ConfigSlot) (i : Nat) (ackStatus : UInt8) : ConfigSlot :=
  if ackStatus = 0 then
    { r.taken with acked := if i ∈ r.acked then r.acked else r.acked ++ [i], fresh := false }
  else r

/-- The state after an event; `none` when the event cannot happen. -/
def configStep (r : ConfigSlot) : ConfigEvent → Option ConfigSlot
  | .send option data0 => some (r.stashed ⟨byteOf option, byteOf data0⟩)
  | .write i => if i < r.sent.length then some { r with copies := i :: r.copies } else none
  | .ack i ackStatus =>
    if i ∈ r.copies then some { r.handleAck i ackStatus with copies := r.copies.erase i } else none

/-- A device before the first config. -/
def ConfigSlot.start (configByte : UInt8) : ConfigSlot :=
  ⟨configByte, none, [], [], configByte, [], [], false⟩

/-- The addresses of single devices. -/
abbrev UnicastAddr := { addr : List UInt8 // addr ≠ [0xFF, 0xFF, 0xFF] }

/-- The repository before the first config. -/
def configStart (bytes : UnicastAddr → UInt8) : UnicastAddr → ConfigSlot :=
  fun addr => .start (bytes addr)

/-- Any number of senders, the devices and the reader. -/
def configSystem (bytes : UnicastAddr → UInt8) :
    Lts.System (UnicastAddr → ConfigSlot) (UnicastAddr × ConfigEvent) :=
  Lts.family (configStart bytes) configStep

/-! ## 3. The promise and the condition -/

/-- The promise to a device. -/
structure ConfigReflected (r : ConfigSlot) : Prop where
  /-- The byte is what the applied updates make of it. -/
  accounted : r.configByte = replay r.sent r.initialByte r.applied
  /-- No update is applied before its config is ACKed. -/
  notEarly : ∀ i ∈ r.applied, i ∈ r.acked
  /-- With every config ACKed, the byte reflects all of them in the order of their ACKs. -/
  reflected : (∀ i < r.sent.length, i ∈ r.acked) →
    r.configByte = replay r.sent r.initialByte r.acked

/-- Every ACK has applied its own config, and nothing else was applied. -/
def InStep (r : ConfigSlot) : Prop := r.applied = r.acked

/-- An ACK with status 0 comes in turn: since the last config was sent it is the first, and is that
config's, or it repeats an ACK that was handled before. -/
def InTurnAck (r : ConfigSlot) : ConfigEvent → Prop
  | .ack i ackStatus =>
    ackStatus = 0 → if r.fresh then i + 1 = r.sent.length else i ∈ r.acked
  | _ => True

/-! ## 4. What holds in every run -/

/-- Configs that are sent later do not change what the earlier ones make of the byte. -/
theorem replay_append {sent : List SentConfig} (c : SentConfig) {is : List Nat}
    (h : ∀ i ∈ is, i < sent.length) (b : UInt8) : replay (sent ++ [c]) b is = replay sent b is := by
  refine List.foldl_ext _ _ _ fun b i hi => ?_
  rw [List.getElem?_append_left (h i hi)]

/-- The invariant of the runs in which the ACKs come in turn. -/
structure Stashed (r : ConfigSlot) : Prop where
  inStep : r.applied = r.acked
  accounted : r.configByte = replay r.sent r.initialByte r.applied
  known : ∀ i ∈ r.acked, i < r.sent.length
  copied : ∀ i ∈ r.copies, i < r.sent.length
  /-- While no ACK has come, the stash holds the last config. -/
  holds : r.fresh = true → ∃ c rest, r.sent = rest ++ [c] ∧
    r.pendingConfig = some (rest.length, c) ∧ rest.length ∉ r.acked
  empty : r.fresh = false → r.pendingConfig = none

theorem Stashed.reflected {r : ConfigSlot} (h : Stashed r) : ConfigReflected r := by
  refine ⟨h.accounted, fun i hi => ?_, fun _ => ?_⟩
  · rw [← h.inStep]
    exact hi
  · rw [← h.inStep]
    exact h.accounted

theorem stashed_send {r : ConfigSlot} (hr : Stashed r) (c : SentConfig) :
    Stashed (r.stashed c) := by
  have happlied : ∀ i ∈ r.applied, i < r.sent.length := by
    rw [hr.inStep]
    exact hr.known
  have hgrow : ∀ i, i < r.sent.length → i < (r.sent ++ [c]).length := by
    intro i hi
    rw [List.length_append]
    omega
  refine ⟨hr.inStep, ?_, fun i hi => hgrow i (hr.known i hi), fun i hi => hgrow i (hr.copied i hi),
    fun _ => ⟨c, r.sent, rfl, rfl, fun hmem => ?_⟩, nofun⟩
  · exact hr.accounted.trans (replay_append c happlied r.initialByte).symm
  · exact absurd (hr.known _ hmem) (Nat.lt_irrefl _)

theorem stashed_ack {r : ConfigSlot} (hr : Stashed r) {i : Nat} {ackStatus : UInt8}
    (hok : InTurnAck r (.ack i ackStatus)) :
    Stashed { r.handleAck i ackStatus with copies := r.copies.erase i } := by
  have hcopied : ∀ j ∈ r.copies.erase i, j < r.sent.length :=
    fun j hj => hr.copied j (List.mem_of_mem_erase hj)
  by_cases hstatus : ackStatus = 0
  · have hturn := hok hstatus
    rw [ConfigSlot.handleAck, if_pos hstatus]
    cases hfresh : r.fresh with
    | true =>
      -- the stash holds the config that is ACKed
      obtain ⟨c, rest, hsent, hpending, hnew⟩ := hr.holds hfresh
      rw [if_pos hfresh, hsent, List.length_append, List.length_singleton] at hturn
      obtain rfl : i = rest.length := by omega
      have hc : r.sent[rest.length]? = some c := by
        rw [hsent, List.getElem?_concat_length]
      rw [ConfigSlot.taken, hpending, if_neg hnew]
      refine ⟨congrArg (· ++ [rest.length]) hr.inStep, ?_, fun j hj => ?_, hcopied, nofun,
        fun _ => rfl⟩
      · dsimp only
        rw [replay, List.foldl_append, List.foldl_cons, List.foldl_nil, hc, hr.accounted]
        rfl
      · rcases List.mem_append.mp hj with hj | hj
        · exact hr.known j hj
        · rw [List.mem_singleton.mp hj]
          exact (List.getElem?_eq_some_iff.mp hc).1
    | false =>
      -- the stash is empty, and the ACK is a repeated one
      rw [hfresh] at hturn
      have hmem : i ∈ r.acked := by simpa using hturn
      rw [ConfigSlot.taken, hr.empty hfresh, if_pos hmem]
      exact ⟨hr.inStep, hr.accounted, hr.known, hcopied, nofun, fun _ => hr.empty hfresh⟩
  · rw [ConfigSlot.handleAck, if_neg hstatus]
    exact ⟨hr.inStep, hr.accounted, hr.known, hcopied, hr.holds, hr.empty⟩

theorem stashed_step {r t : ConfigSlot} {e : ConfigEvent} (hr : Stashed r) (hok : InTurnAck r e)
    (h : configStep r e = some t) : Stashed t := by
  cases e with
  | send option data0 =>
    cases h
    exact stashed_send hr _
  | write i =>
    simp only [configStep, Option.ite_none_right_eq_some, Option.some.injEq] at h
    obtain ⟨hi, rfl⟩ := h
    refine ⟨hr.inStep, hr.accounted, hr.known, fun j hj => ?_, hr.holds, hr.empty⟩
    rcases List.mem_cons.mp hj with rfl | hj
    · exact hi
    · exact hr.copied j hj
  | ack i ackStatus =>
    simp only [configStep, Option.ite_none_right_eq_some, Option.some.injEq] at h
    obtain ⟨-, rfl⟩ := h
    exact stashed_ack hr hok

/-- An ACK out of turn applies a config that is not ACKed, or applies nothing. -/
theorem not_inStep_of_out_of_turn {r t : ConfigSlot} {e : ConfigEvent} (hr : Stashed r)
    (hout : ¬ InTurnAck r e) (h : configStep r e = some t) : ¬ InStep t := by
  cases e with
  | send option data0 => exact absurd trivial hout
  | write i => exact absurd trivial hout
  | ack i ackStatus =>
    simp only [configStep, Option.ite_none_right_eq_some, Option.some.injEq] at h
    obtain ⟨-, rfl⟩ := h
    rw [InTurnAck, Classical.not_imp] at hout
    obtain ⟨hstatus, hturn⟩ := hout
    rw [ConfigSlot.handleAck, if_pos hstatus, InStep]
    cases hfresh : r.fresh with
    | true =>
      obtain ⟨c, rest, hsent, hpending, hnew⟩ := hr.holds hfresh
      rw [if_pos hfresh, hsent, List.length_append, List.length_singleton] at hturn
      rw [ConfigSlot.taken, hpending]
      dsimp only
      intro heq
      have hmem : rest.length ∈ if i ∈ r.acked then r.acked else r.acked ++ [i] := by
        rw [← heq]
        simp
      split_ifs at hmem
      · exact hnew hmem
      · rcases List.mem_append.mp hmem with hmem | hmem
        · exact hnew hmem
        · rw [List.mem_singleton] at hmem
          omega
    | false =>
      rw [hfresh] at hturn
      have hmem : i ∉ r.acked := by simpa using hturn
      rw [ConfigSlot.taken, hr.empty hfresh, if_neg hmem]
      dsimp only
      rw [hr.inStep]
      intro heq
      exact hmem (heq ▸ List.mem_append_right _ (List.mem_singleton_self i))

theorem stashed_start (configByte : UInt8) : Stashed (.start configByte) :=
  ⟨rfl, rfl, nofun, nofun, nofun, fun _ => rfl⟩

/-- **When the ACKs apply their own configs.**  In a run, every ACK applies the config that it is
for and nothing else is applied exactly when the ACKs come in turn at every device; and then the
promise to every device is kept throughout. -/
theorem configs_inStep_iff {bytes : UnicastAddr → UInt8} {as : List (UnicastAddr × ConfigEvent)}
    {t : UnicastAddr → ConfigSlot}
    (h : Lts.run (configSystem bytes) (configStart bytes) as = some t) :
    (Lts.Throughout (configSystem bytes) (fun s => ∀ addr, InStep (s addr)) (configStart bytes) as ↔
      Lts.RunMeets (configSystem bytes) (fun s e => InTurnAck (s e.1) e.2) (configStart bytes) as) ∧
    (Lts.RunMeets (configSystem bytes) (fun s e => InTurnAck (s e.1) e.2) (configStart bytes) as →
      Lts.Throughout (configSystem bytes) (fun s => ∀ addr, ConfigReflected (s addr))
        (configStart bytes) as) := by
  have hkeep : ∀ r e t, Stashed r → InTurnAck r e → configStep r e = some t → Stashed t :=
    fun _ _ _ => stashed_step
  have hstart : ∀ addr, Stashed (configStart bytes addr) := fun addr => stashed_start _
  constructor
  · exact Lts.throughout_family_iff (fun _ => Stashed.inStep) hkeep
      (fun _ _ _ => not_inStep_of_out_of_turn) hstart h
  · refine Lts.throughout_of_runMeets (I := fun s : UnicastAddr → ConfigSlot =>
      ∀ addr, Stashed (s addr)) ?_ (Lts.family_keep hkeep) hstart
    exact fun s hs addr => (hs addr).reflected

/-! ## 5. Two runs -/

/-- The device of the examples. -/
def nodeAddr : UnicastAddr := ⟨[1, 2, 3], by decide⟩

/-- Two configs, the first of them written twice and both copies answered before the second is
sent. -/
def inTurnRun : List (UnicastAddr × ConfigEvent) :=
  [.send 0x01 1, .write 0, .write 0, .ack 0 0, .ack 0 0, .send 0x03 1, .write 1, .ack 1 0].map
    (nodeAddr, ·)

/-- Two configs on the way at once. -/
def overlappingRun : List ConfigEvent := [.send 0x01 1, .write 0, .send 0x03 1, .write 1, .ack 0 0]

theorem configs_inStep_inTurnRun : ∃ t,
    Lts.run (configSystem fun _ => 0) (configStart fun _ => 0) inTurnRun = some t ∧
    (Lts.Throughout (configSystem fun _ => 0) (fun s => ∀ addr, InStep (s addr))
        (configStart fun _ => 0) inTurnRun ↔
      Lts.RunMeets (configSystem fun _ => 0) (fun s e => InTurnAck (s e.1) e.2)
        (configStart fun _ => 0) inTurnRun) ∧
    (Lts.RunMeets (configSystem fun _ => 0) (fun s e => InTurnAck (s e.1) e.2)
        (configStart fun _ => 0) inTurnRun →
      Lts.Throughout (configSystem fun _ => 0) (fun s => ∀ addr, ConfigReflected (s addr))
        (configStart fun _ => 0) inTurnRun) := by
  obtain ⟨t, ht⟩ : ∃ t, Lts.run (configSystem fun _ => 0) (configStart fun _ => 0) inTurnRun
      = some t := ⟨_, rfl⟩
  exact ⟨t, ht, configs_inStep_iff ht⟩

/-- The ACK of the first config applies the second one, and when the second is ACKed as well the
first is lost. -/
theorem configs_overlapping : ∃ t t',
    Lts.run (configSystem fun _ => 0) (configStart fun _ => 0) (overlappingRun.map (nodeAddr, ·))
      = some t ∧
    1 ∈ (t nodeAddr).applied ∧ 1 ∉ (t nodeAddr).acked ∧
    Lts.run (configSystem fun _ => 0) t [(nodeAddr, .ack 1 0)] = some t' ∧
    (t' nodeAddr).acked = [0, 1] ∧ (t' nodeAddr).configByte = 0x02 ∧
    ¬ ConfigReflected (t nodeAddr) ∧ ¬ ConfigReflected (t' nodeAddr) := by
  refine ⟨_, _, rfl, by decide, by decide, rfl, by decide, by decide, fun h => ?_, fun h => ?_⟩
  · exact absurd (h.notEarly 1 (by decide)) (by decide)
  · exact absurd (h.reflected (by decide)) (by decide)

end RaceLink
