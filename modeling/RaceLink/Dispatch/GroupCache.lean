/-
# The cache of a group preset

`send_group_preset` sets the cached flags, preset and brightness of the devices of the group, and
then hands the packet to the transport.  What the cache should say is what the devices have been
told.  A packet for group 255 is one for every device, and a packet that the gateway has refused is
one for none.

The update knows neither: it compares the group of every device with that of the packet, and it is
made before there is an outcome.  `sendGroupPreset_cached_iff` says for which devices that makes no
difference.
-/
import RaceLink.Dispatch.Outcomes

namespace RaceLink

open Python

/-! ## 1. What the cache should say -/

/-- The flags, the preset and the brightness that the host has cached for a device. -/
structure CachedPreset where
  flags : UInt8
  presetId : UInt8
  brightness : UInt8
  deriving DecidableEq

def Device.cached (dev : Device) : CachedPreset := ⟨dev.flags, dev.presetId, dev.brightness⟩

/-- The values that a preset packet carries. -/
def sentPreset (flags presetId brightness : Int) : CachedPreset :=
  ⟨byteOf flags, byteOf presetId, byteOf brightness⟩

/-- A packet with this group is for the device: 255 is for every group. -/
def Addresses (group : Int) (dev : Device) : Prop := group = 255 ∨ dev.groupId = group

instance (group : Int) (dev : Device) : Decidable (Addresses group dev) :=
  inferInstanceAs (Decidable (_ ∨ _))

/-- One of the packets has got through to the gateway. -/
def GotThrough (link link' : Link) : Prop :=
  ∃ p ∈ Runner.newPackets link link', p.outcome = .success

/-- The cache follows a group packet: its values for the devices it is for, if it has got through,
and no change otherwise. -/
def CacheFollows (group : Int) (values : CachedPreset) (link link' : Link) : Prop :=
  (GotThrough link link' → link'.devices.map (·.cached)
    = link.devices.map fun dev => if Addresses group dev then values else dev.cached) ∧
  (¬ GotThrough link link' → link'.devices.map (·.cached) = link.devices.map (·.cached))

/-! ## 2. What it says -/

/-- The update of one device. -/
theorem cached_update (groupId flags presetId brightness : Int) (dev : Device) :
    (if dev.groupId % 256 = groupId then dev.withPreset flags presetId brightness else dev).cached
      = if dev.groupId % 256 = groupId then sentPreset flags presetId brightness
        else dev.cached := by
  split <;> rfl

/-- Two ways to choose which devices take the values agree on a device that has them already, and
where they choose alike. -/
theorem ite_eq_ite_iff {α : Type} {p q : Prop} [Decidable p] [Decidable q] {new old : α} :
    (if p then new else old) = (if q then new else old) ↔ old = new ∨ (p ↔ q) := by
  by_cases hp : p <;> by_cases hq : q <;> simp [hp, hq, eq_comm]

theorem ite_eq_old_iff {α : Type} {p : Prop} [Decidable p] {new old : α} :
    (if p then new else old) = old ↔ old = new ∨ ¬ p := by
  by_cases hp : p <;> simp [hp, eq_comm]

/-- One more packet has got through when its outcome is success. -/
theorem gotThrough_snoc (link : Link) (devices : List Device) (packet : SentPacket) :
    GotThrough link { link with devices := devices, sent := link.sent ++ [packet] } ↔
      packet.outcome = .success := by
  simp [GotThrough, Runner.newPackets]

theorem not_gotThrough_self (link : Link) : ¬ GotThrough link link := by
  rintro ⟨p, hp, -⟩
  rw [Runner.newPackets_self] at hp
  cases hp

/-- The call: the update, and then one packet. -/
theorem sendGroupPreset_run {outcomes : TransportOutcomes} {link : Link}
    (ht : link.transport = some outcomes) (groupId flags presetId brightness : Int) :
    (sendGroupPreset groupId flags presetId brightness link).2 =
      { updateGroupPresetCache (groupId % 256) flags presetId brightness link with
        sent := link.sent ++ [⟨⟨opcPreset, broadcastRecv3,
          buildPresetBody (groupId % 256) flags presetId brightness⟩,
          outcomes link.sent.length⟩] } := by
  rw [sendGroupPreset, requireTransport_some ht]
  rfl

/-- The devices that a call leaves as they should be, given how its packet went. -/
def CacheRight (group : Int) (values : CachedPreset) (outcome : SendOutcome) (dev : Device) :
    Prop :=
  dev.cached = values ∨
    if outcome = .success then (dev.groupId % 256 = group ↔ Addresses group dev)
    else dev.groupId % 256 ≠ group

instance (group : Int) (values : CachedPreset) (outcome : SendOutcome) (dev : Device) :
    Decidable (CacheRight group values outcome dev) :=
  inferInstanceAs (Decidable (_ ∨ _))

/-- **The cache after a group preset**: it follows the packet exactly when, for every device that
did not have the values before, the update has chosen as the packet does.  For group 255 it has
not, and where the packet did not get through it should have chosen none. -/
theorem sendGroupPreset_cached_iff (groupId flags presetId brightness : Int) (link : Link) :
    CacheFollows (groupId % 256) (sentPreset flags presetId brightness) link
        (sendGroupPreset groupId flags presetId brightness link).2 ↔
      ∀ outcomes, link.transport = some outcomes → ∀ dev ∈ link.devices,
        CacheRight (groupId % 256) (sentPreset flags presetId brightness)
          (outcomes link.sent.length) dev := by
  cases ht : link.transport with
  | none =>
    have hrun : (sendGroupPreset groupId flags presetId brightness link).2 = link := by
      rw [sendGroupPreset, requireTransport_none ht]
    rw [hrun]
    exact iff_of_true ⟨fun h => absurd h (not_gotThrough_self link), fun _ => rfl⟩
      fun _ h => nomatch h
  | some outcomes =>
    rw [sendGroupPreset_run ht]
    have hthrough := gotThrough_snoc link
      (updateGroupPresetCache (groupId % 256) flags presetId brightness link).devices
      ⟨⟨opcPreset, broadcastRecv3, buildPresetBody (groupId % 256) flags presetId brightness⟩,
        outcomes link.sent.length⟩
    have hcached : (updateGroupPresetCache (groupId % 256) flags presetId brightness
        link).devices.map (·.cached) = link.devices.map fun dev =>
          if dev.groupId % 256 = groupId % 256 then sentPreset flags presetId brightness
          else dev.cached := by
      rw [updateGroupPresetCache, List.map_map]
      exact List.map_congr_left fun dev _ => cached_update _ _ _ _ dev
    have hright : (∀ outcomes', some outcomes = some outcomes' → ∀ dev ∈ link.devices,
          CacheRight (groupId % 256) (sentPreset flags presetId brightness)
            (outcomes' link.sent.length) dev) ↔
        ∀ dev ∈ link.devices, CacheRight (groupId % 256) (sentPreset flags presetId brightness)
          (outcomes link.sent.length) dev :=
      ⟨fun h => h outcomes rfl, fun h outcomes' h' => Option.some.inj h' ▸ h⟩
    rw [hright]
    unfold CacheFollows
    refine (and_congr (imp_congr hthrough Iff.rfl)
      (imp_congr (not_congr hthrough) Iff.rfl)).trans ?_
    dsimp only
    rw [hcached, List.map_inj_left, List.map_inj_left]
    unfold CacheRight
    by_cases hsuccess : outcomes link.sent.length = .success
    · simp only [hsuccess, if_true, ite_eq_ite_iff, forall_const, not_true_eq_false,
        false_imp_iff, and_true]
    · simp only [hsuccess, if_false, ite_eq_old_iff, false_imp_iff, not_false_eq_true,
        forall_const, true_and]

/-- A device of group 1, that is off. -/
def darkDevice : Device := Device.init "AABBCC000001" 50 "" 1 0 50 0 0 0

/-- A broadcast that gets through leaves the cache as it was, and a packet that is refused does
not. -/
theorem sendGroupPreset_miscached :
    ¬ CacheFollows 255 (sentPreset 1 7 200) ⟨[darkDevice], some fun _ => .success, []⟩
        (sendGroupPreset 255 1 7 200 ⟨[darkDevice], some fun _ => .success, []⟩).2 ∧
      ¬ CacheFollows 1 (sentPreset 1 7 200) ⟨[darkDevice], some fun _ => .timeout, []⟩
        (sendGroupPreset 1 1 7 200 ⟨[darkDevice], some fun _ => .timeout, []⟩).2 := by
  constructor
  · intro h
    exact absurd (h.1 ⟨_, List.mem_cons_self, rfl⟩) (by decide)
  · intro h
    refine absurd (h.2 ?_) (by decide)
    rintro ⟨p, hp, hsuccess⟩
    cases List.mem_singleton.mp hp
    cases hsuccess

end RaceLink
