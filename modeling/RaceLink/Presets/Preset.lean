/-
# RL presets

A preset freezes the parameters of an `OPC_CONTROL` and the operator's flags.  `None` in a
parameter says that the packet leaves the field alone, which is not the same as 0, `False` or
black; so every parameter is an option.

`_canonical_params` and `_canonical_flags` make a preset's parts from what a caller or a file
gives.  A validated preset is canonical: it is built again from its own dictionaries
(`canonicalParams_toPy`, `canonicalFlags_toPy`).
-/
import RaceLink.Protocol.ControlBody
import RaceLink.Scenes.Reload

namespace RaceLink.RlPresets

open Python

/-! ## 1. A preset -/

/-- The parameters of a preset, in the order of `_PARAM_KEYS`. -/
structure PresetParams where
  mode : Option UInt8
  speed : Option UInt8
  intensity : Option UInt8
  custom1 : Option UInt8
  custom2 : Option UInt8
  custom3 : Option UInt8
  check1 : Option Bool
  check2 : Option Bool
  check3 : Option Bool
  palette : Option UInt8
  color1 : Option Rgb
  color2 : Option Rgb
  color3 : Option Rgb
  brightness : Option UInt8
  deriving DecidableEq

/-- A preset of the store. -/
structure Preset where
  id : Int
  key : String
  label : String
  created : PyVal
  updated : PyVal
  params : PresetParams
  flags : UserFlag → Bool

/-- A slider in a dictionary. -/
def byteVal (v : Option UInt8) : PyVal := (v.map fun b => PyVal.int b.toNat).getD .null

/-- A toggle in a dictionary. -/
def boolVal (v : Option Bool) : PyVal := (v.map PyVal.bool).getD .null

/-- A colour in a dictionary. -/
def colorVal (v : Option Rgb) : PyVal :=
  (v.map fun c => PyVal.list [.int c.r.toNat, .int c.g.toNat, .int c.b.toNat]).getD .null

/-- The parameters as a dictionary: every key, also of what is `None`. -/
def PresetParams.entries (p : PresetParams) : List (String × PyVal) :=
  [("mode", byteVal p.mode), ("speed", byteVal p.speed), ("intensity", byteVal p.intensity),
    ("custom1", byteVal p.custom1), ("custom2", byteVal p.custom2), ("custom3", byteVal p.custom3),
    ("check1", boolVal p.check1), ("check2", boolVal p.check2), ("check3", boolVal p.check3),
    ("palette", byteVal p.palette), ("color1", colorVal p.color1), ("color2", colorVal p.color2),
    ("color3", colorVal p.color3), ("brightness", byteVal p.brightness)]

def PresetParams.toPy (p : PresetParams) : PyVal := strDict p.entries

/-- The flags as a dictionary. -/
def flagEntries (flags : UserFlag → Bool) : List (String × PyVal) :=
  UserFlag.all.map fun k => (k.key, .bool (flags k))

def flagsToPy (flags : UserFlag → Bool) : PyVal := strDict (flagEntries flags)

/-- The stored form of a preset. -/
def Preset.toPy (p : Preset) : PyVal :=
  strDict [("id", .int p.id), ("key", .str p.key), ("label", .str p.label), ("created", p.created),
    ("updated", p.updated), ("params", p.params.toPy), ("flags", flagsToPy p.flags)]

/-! ## 2. Validation -/

/-- `raw[key]` if `key in raw`, and `None` otherwise.  A sequence has no string index. -/
def paramOf (raw : PyVal) (key : String) : Except PyErr PyVal :=
  match raw with
  | .dict d => .ok (Dict.get d key)
  | .list xs => if xs.any (·.eqStr key) then .error .typeError else .ok .null
  | .str s => if key.toList <:+: s.toList then .error .typeError else .ok .null
  | _ => .error .typeError

/-- `_canonical_color`. -/
def canonicalColor : PyVal → Except PyErr (Option Rgb)
  | .null => .ok none
  | .list [r, g, b] => do
    let r ← int r
    let g ← int g
    let b ← int b
    pure (some ⟨byteOf r, byteOf g, byteOf b⟩)
  | value => .error (.valueError [.text "invalid color value ", .repr value])

/-- A slider of `_canonical_params`. -/
def byteParam (raw : PyVal) (key : String) : Except PyErr (Option UInt8) := do
  match ← paramOf raw key with
  | .null => pure none
  | val => do
    let i ← int val
    pure (some (byteOf i))

/-- A toggle of `_canonical_params`. -/
def boolParam (raw : PyVal) (key : String) : Except PyErr (Option Bool) := do
  match ← paramOf raw key with
  | .null => pure none
  | val => pure (some val.truthy)

/-- A colour of `_canonical_params`. -/
def colorParam (raw : PyVal) (key : String) : Except PyErr (Option Rgb) := do
  let val ← paramOf raw key
  canonicalColor val

/-- `_canonical_params`. -/
def canonicalParams (raw : PyVal) : Except PyErr PresetParams := do
  let raw := raw.or (.dict [])
  let mode ← byteParam raw "mode"
  let speed ← byteParam raw "speed"
  let intensity ← byteParam raw "intensity"
  let custom1 ← byteParam raw "custom1"
  let custom2 ← byteParam raw "custom2"
  let custom3 ← byteParam raw "custom3"
  let check1 ← boolParam raw "check1"
  let check2 ← boolParam raw "check2"
  let check3 ← boolParam raw "check3"
  let palette ← byteParam raw "palette"
  let color1 ← colorParam raw "color1"
  let color2 ← colorParam raw "color2"
  let color3 ← colorParam raw "color3"
  let brightness ← byteParam raw "brightness"
  pure
    { mode := mode, speed := speed, intensity := intensity, custom1 := custom1
      custom2 := custom2, custom3 := custom3, check1 := check1, check2 := check2
      check3 := check3, palette := palette, color1 := color1, color2 := color2
      color3 := color3, brightness := brightness }

/-- `_canonical_flags`. -/
def canonicalFlags (raw : PyVal) : Except PyErr (UserFlag → Bool) :=
  match raw.or (.dict []) with
  | .dict d => .ok fun k => (Dict.getD d k.key (.bool false)).truthy
  | _ => .error .attributeError

/-! ## 3. Validating what was validated -/

theorem byteOf_toNat (b : UInt8) : byteOf b.toNat = b := by
  have hlt := b.toNat_lt
  rw [byteOf]
  have heq : (((b.toNat : Int) % 256).toNat) = b.toNat := by omega
  rw [heq, UInt8.ofNat_toNat]

theorem byteParam_byteVal {d : Dict} {key : String} {v : Option UInt8}
    (h : Dict.get d key = byteVal v) : byteParam (.dict d) key = .ok v := by
  cases v with
  | none => simp [byteParam, paramOf, h, byteVal]
  | some b => simp [byteParam, paramOf, h, byteVal, byteOf_toNat]

theorem boolParam_boolVal {d : Dict} {key : String} {v : Option Bool}
    (h : Dict.get d key = boolVal v) : boolParam (.dict d) key = .ok v := by
  cases v with
  | none => simp [boolParam, paramOf, h, boolVal]
  | some b => simp [boolParam, paramOf, h, boolVal, PyVal.truthy]

theorem colorParam_colorVal {d : Dict} {key : String} {v : Option Rgb}
    (h : Dict.get d key = colorVal v) : colorParam (.dict d) key = .ok v := by
  cases v with
  | none => simp [colorParam, paramOf, h, colorVal, canonicalColor]
  | some c => simp [colorParam, paramOf, h, colorVal, canonicalColor, byteOf_toNat]

/-- The entry under a key of the dictionary of the parameters. -/
theorem get_params (p : PresetParams) (key : String) :
    Dict.get (p.entries.map fun e => (.str e.1, e.2)) key
      = ((p.entries.lookup key).getD .null) := by
  have hfind : ∀ es : List (String × PyVal),
      Dict.find? (es.map fun e => (.str e.1, e.2)) key = es.lookup key := by
    intro es
    induction es with
    | nil => rfl
    | cons e es ih =>
      obtain ⟨k, v⟩ := e
      rw [List.map_cons, Dict.find?_cons_str, ih, List.lookup_cons]
      by_cases hk : k = key
      · simp [hk]
      · have hne : (key == k) = false := by simpa using fun h : key = k => hk h.symm
        rw [if_neg hk, hne]
  rw [Dict.get, hfind]

/-- **Stored parameters** are read as they are. -/
theorem canonicalParams_toPy (p : PresetParams) : canonicalParams p.toPy = .ok p := by
  have hor : p.toPy.or (.dict []) = .dict (p.entries.map fun e => (.str e.1, e.2)) := rfl
  have hget := get_params p
  rw [canonicalParams, hor]
  rw [byteParam_byteVal (hget "mode"), byteParam_byteVal (hget "speed"),
    byteParam_byteVal (hget "intensity"), byteParam_byteVal (hget "custom1"),
    byteParam_byteVal (hget "custom2"), byteParam_byteVal (hget "custom3"),
    boolParam_boolVal (hget "check1"), boolParam_boolVal (hget "check2"),
    boolParam_boolVal (hget "check3"), byteParam_byteVal (hget "palette"),
    colorParam_colorVal (hget "color1"), colorParam_colorVal (hget "color2"),
    colorParam_colorVal (hget "color3"), byteParam_byteVal (hget "brightness")]
  rfl

theorem get_flags (flags : UserFlag → Bool) (k : UserFlag) :
    Dict.find? ((flagEntries flags).map fun e => (.str e.1, e.2)) k.key
      = some (.bool (flags k)) := by
  cases k <;> rfl

/-- **Stored flags** are read as they are. -/
theorem canonicalFlags_toPy (flags : UserFlag → Bool) :
    canonicalFlags (flagsToPy flags) = .ok flags := by
  have hor : (flagsToPy flags).or (.dict [])
      = .dict ((flagEntries flags).map fun e => (.str e.1, e.2)) := rfl
  rw [canonicalFlags, hor]
  refine congrArg Except.ok (funext fun k => ?_)
  rw [Dict.getD, get_flags]
  rfl

end RaceLink.RlPresets
