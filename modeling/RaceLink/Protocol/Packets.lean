/-
# Packet bodies

The body builders of `protocol/packets.py` that scenes use, and `parse_offset_body`.  A builder
takes any integers: single bytes are masked, the fields of an `OPC_OFFSET` are clamped.

`parseOffsetBody_buildOffsetBody` is the round trip: a body reads back as the configuration it
was built from, with each field clamped to the range of the wire.
-/
import RaceLink.Python.Bytes
import Mathlib.Algebra.GroupWithZero.Nat

namespace RaceLink

open Python

/-! ## 1. `OPC_OFFSET` -/

/-- A mode of `OPC_OFFSET` with its parameters. -/
inductive OffsetConfig where
  | none
  | explicit (offsetMs : Int)
  | linear (baseMs stepMs : Int)
  | vshape (baseMs stepMs center : Int)
  | modulo (baseMs stepMs cycle : Int)
  deriving DecidableEq

/-- `max(lo, min(hi, v))`. -/
def clampTo (lo hi v : Int) : Int := max lo (min hi v)

theorem clampTo_eq_self {lo hi v : Int} (h : lo ≤ v ∧ v ≤ hi) : clampTo lo hi v = v := by
  unfold clampTo
  omega

theorem clampTo_range {lo hi : Int} (h : lo ≤ hi) (v : Int) :
    lo ≤ clampTo lo hi v ∧ clampTo lo hi v ≤ hi := by
  unfold clampTo
  omega

/-- `base_ms` and `step_ms` on the wire. -/
def clampI16 (v : Int) : Int := clampTo (-32768) 32767 v

/-- The configuration with every field in the range of the wire. -/
def OffsetConfig.clamped : OffsetConfig → OffsetConfig
  | .none => .none
  | .explicit ms => .explicit (clampTo 0 0xFFFF ms)
  | .linear base step => .linear (clampI16 base) (clampI16 step)
  | .vshape base step center => .vshape (clampI16 base) (clampI16 step) (clampTo 0 254 center)
  | .modulo base step cycle => .modulo (clampI16 base) (clampI16 step) (clampTo 1 255 cycle)

/-- `build_offset_body`. -/
def buildOffsetBody (groupId : Int) : OffsetConfig → List UInt8
  | .none => [byteOf groupId, 0x00]
  | .explicit ms => [byteOf groupId, 0x01] ++ le16 (clampTo 0 0xFFFF ms)
  | .linear base step => [byteOf groupId, 0x02] ++ le16 (clampI16 base) ++ le16 (clampI16 step)
  | .vshape base step center =>
    [byteOf groupId, 0x03] ++ le16 (clampI16 base) ++ le16 (clampI16 step) ++
      [byteOf (clampTo 0 254 center)]
  | .modulo base step cycle =>
    [byteOf groupId, 0x04] ++ le16 (clampI16 base) ++ le16 (clampI16 step) ++
      [byteOf (clampTo 1 255 cycle)]

/-- The length of a body, which depends on the mode only. -/
def OffsetConfig.bodyBytes : OffsetConfig → Nat
  | .none => 2
  | .explicit _ => 4
  | .linear _ _ => 6
  | .vshape _ _ _ => 7
  | .modulo _ _ _ => 7

@[simp] theorem length_buildOffsetBody (groupId : Int) (config : OffsetConfig) :
    (buildOffsetBody groupId config).length = config.bodyBytes := by
  cases config <;> rfl

theorem OffsetConfig.bodyBytes_le (config : OffsetConfig) : config.bodyBytes ≤ 7 := by
  cases config <;> simp [bodyBytes]

/-- `parse_offset_body`. -/
def parseOffsetBody : List UInt8 → Except PyErr (Int × OffsetConfig)
  | [] => .error (.valueError [.text "OPC_OFFSET body too short: 0 B"])
  | [_] => .error (.valueError [.text "OPC_OFFSET body too short: 1 B"])
  | g :: m :: rest =>
    let badLength (mode : String) (bytes : Nat) : Except PyErr (Int × OffsetConfig) :=
      .error (.valueError
        [.text s!"OPC_OFFSET ({mode}) body must be {bytes} B, got {rest.length + 2}"])
    if m = 0x00 then
      match rest with
      | [] => .ok (g.toNat, .none)
      | _ => .error (.valueError [.text "OPC_OFFSET (NONE) body must be 2 B"])
    else if m = 0x01 then
      match rest with
      | [l, h] => .ok (g.toNat, .explicit (u16 l h))
      | _ => badLength "EXPLICIT" 4
    else if m = 0x02 then
      match rest with
      | [bl, bh, sl, sh] => .ok (g.toNat, .linear (i16 bl bh) (i16 sl sh))
      | _ => badLength "LINEAR" 6
    else if m = 0x03 then
      match rest with
      | [bl, bh, sl, sh, c] => .ok (g.toNat, .vshape (i16 bl bh) (i16 sl sh) c.toNat)
      | _ => badLength "VSHAPE" 7
    else if m = 0x04 then
      match rest with
      | [bl, bh, sl, sh, c] => .ok (g.toNat, .modulo (i16 bl bh) (i16 sl sh) c.toNat)
      | _ => badLength "MODULO" 7
    else .error (.valueError [.text ("unknown OPC_OFFSET mode byte 0x" ++ hex2 m)])

theorem i16_clampI16 (v : Int) :
    i16 (byteOf (clampI16 v)) (byteOf (clampI16 v / 256)) = clampI16 v :=
  i16_le16 (clampTo_range (by decide) v)

/-- **Round trip**: a body reads back as what it was built from, clamped to the wire. -/
theorem parseOffsetBody_buildOffsetBody (groupId : Int) (config : OffsetConfig) :
    parseOffsetBody (buildOffsetBody groupId config) = .ok (groupId % 256, config.clamped) := by
  cases config with
  | none =>
    simp [buildOffsetBody, parseOffsetBody, OffsetConfig.clamped, toNat_byteOf]
  | explicit ms =>
    have hms := u16_le16 (clampTo_range (by decide : (0 : Int) ≤ 0xFFFF) ms)
    simp [buildOffsetBody, parseOffsetBody, OffsetConfig.clamped, le16, toNat_byteOf, hms]
  | linear base step =>
    simp [buildOffsetBody, parseOffsetBody, OffsetConfig.clamped, le16, toNat_byteOf, i16_clampI16]
  | vshape base step center =>
    have hrange := clampTo_range (by decide : (0 : Int) ≤ 254) center
    have hcenter : ((byteOf (clampTo 0 254 center)).toNat : Int) = clampTo 0 254 center :=
      toNat_byteOf_eq ⟨hrange.1, by omega⟩
    simp [buildOffsetBody, parseOffsetBody, OffsetConfig.clamped, le16, toNat_byteOf groupId,
      i16_clampI16, hcenter]
  | modulo base step cycle =>
    have hrange := clampTo_range (by decide : (1 : Int) ≤ 255) cycle
    have hcycle : ((byteOf (clampTo 1 255 cycle)).toNat : Int) = clampTo 1 255 cycle :=
      toNat_byteOf_eq ⟨by omega, hrange.2⟩
    simp [buildOffsetBody, parseOffsetBody, OffsetConfig.clamped, le16, toNat_byteOf groupId,
      i16_clampI16, hcycle]

/-! ## 2. `OPC_PRESET` and `OPC_SYNC` -/

/-- `build_preset_body`. -/
def buildPresetBody (groupId flags presetId brightness : Int) : List UInt8 :=
  [byteOf groupId, byteOf flags, byteOf presetId, byteOf brightness]

/-- `SYNC_FLAG_TRIGGER_ARMED`. -/
def syncFlagTriggerArmed : Int := 0x01

/-- `build_sync_body`: 4 bytes, and a fifth for flags that are set. -/
def buildSyncBody (ts24 brightness flags : Int) : List UInt8 :=
  let base := [byteOf ts24, byteOf (ts24 / 0x100), byteOf (ts24 / 0x10000), byteOf brightness]
  if byteOf flags = 0 then base else base ++ [byteOf flags]

theorem length_buildSyncBody_le (ts24 brightness flags : Int) :
    (buildSyncBody ts24 brightness flags).length ≤ 5 := by
  unfold buildSyncBody
  dsimp only
  split <;> simp

/-! ## 3. `OPC_CONTROL` -/

/-- The optional arguments of `build_control_body`.  A colour is what was given for it, of any
length. -/
structure ControlFields where
  brightness : Option Int
  mode : Option Int
  speed : Option Int
  intensity : Option Int
  custom1 : Option Int
  custom2 : Option Int
  custom3 : Option Int
  palette : Option Int
  check1 : Option Bool
  check2 : Option Bool
  check3 : Option Bool
  color1 : Option (List Int)
  color2 : Option (List Int)
  color3 : Option (List Int)
  deriving DecidableEq

/-- One bit of a mask, and the bytes of a field, when the field is given. -/
def maskedField (bit : Nat) (value : Option Int) : Nat × List UInt8 :=
  match value with
  | some v => (bit, [byteOf v])
  | none => (0, [])

/-- `_rgb_bytes`: the colour has to have three components. -/
def rgbBytes : List Int → Except PyErr (List UInt8)
  | [r, g, b] => .ok [byteOf r, byteOf g, byteOf b]
  | c =>
    if c.length < 3 then
      .error (.valueError
        [.text s!"not enough values to unpack (expected 3, got {c.length})"])
    else .error (.valueError [.text "too many values to unpack (expected 3)"])

/-- A colour of the extended block. -/
def maskedColor (bit : Nat) (color : Option (List Int)) : Except PyErr (Nat × List UInt8) :=
  match color with
  | some c => do
    let bytes ← rgbBytes c
    pure (bit, bytes)
  | none => pure (0, [])

/-- The byte of `custom3` and the checks, when one of them is given. -/
def custom3Checks (f : ControlFields) : Nat × List UInt8 :=
  if f.custom3.isSome || f.check1.isSome || f.check2.isSome || f.check3.isSome then
    let bit (check : Option Bool) (mask : Int) : Int := if check = some true then mask else 0
    (0x40, [byteOf ((f.custom3.getD 0) % 32 + bit f.check1 0x20 + bit f.check2 0x40
      + bit f.check3 0x80)])
  else (0, [])

/-- The masks and the bytes of several fields, in order. -/
def joinFields (fields : List (Nat × List UInt8)) : Nat × List UInt8 :=
  ((fields.map (·.1)).sum, (fields.map (·.2)).flatten)

/-- The body after the group and the flags: the field mask, the fields, and the extended block
when it is not empty. -/
def controlTail (f : ControlFields) : Except PyErr (List UInt8) := do
  let (fieldMask, tailMain) := joinFields
    [maskedField 0x01 f.brightness, maskedField 0x02 f.mode, maskedField 0x04 f.speed,
      maskedField 0x08 f.intensity, maskedField 0x10 f.custom1, maskedField 0x20 f.custom2,
      custom3Checks f]
  let color1 ← maskedColor 0x02 f.color1
  let color2 ← maskedColor 0x04 f.color2
  let color3 ← maskedColor 0x08 f.color3
  let (extMask, tailExt) := joinFields [maskedField 0x01 f.palette, color1, color2, color3]
  if extMask ≠ 0 then
    pure (UInt8.ofNat (fieldMask + 0x80) :: tailMain ++ UInt8.ofNat extMask :: tailExt)
  else pure (UInt8.ofNat fieldMask :: tailMain)

/-- `RL_CTRL_BODY_MAX`. -/
def ctrlBodyMax : Nat := 22

/-- `build_control_body`. -/
def buildControlBody (groupId flags : Int) (f : ControlFields) : Except PyErr (List UInt8) := do
  let tail ← controlTail f
  let body := byteOf groupId :: byteOf flags :: tail
  if body.length ≤ ctrlBodyMax then pure body else .error .assertionError

theorem length_le_of_buildControlBody {groupId flags : Int} {f : ControlFields}
    {body : List UInt8} (h : buildControlBody groupId flags f = .ok body) :
    body.length ≤ ctrlBodyMax := by
  simp only [buildControlBody, bind_eq_ok] at h
  obtain ⟨tail, -, h⟩ := h
  split at h
  · next hlen =>
    cases h
    exact hlen
  · cases h

/-- Whether it builds a body, and of which length, does not depend on the group and the flags. -/
theorem length_buildControlBody (groupId flags groupId' flags' : Int) (f : ControlFields) :
    (buildControlBody groupId flags f).map List.length
      = (buildControlBody groupId' flags' f).map List.length := by
  unfold buildControlBody
  cases controlTail f with
  | error e => rfl
  | ok tail =>
    simp only [ok_bind, List.length_cons]
    split <;> rfl

end RaceLink
