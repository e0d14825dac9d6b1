/-
# The `OPC_CONTROL` body

The receiver's side of `build_control_body`: a parser of the layout `racelink_proto.h` documents.
A mask byte says which fields follow, in a fixed order; its top bit announces a second mask for
the palette and the colours.

`parseControlBody_buildControlBody` says that what was given is what is read, and that the body is
never too long.  `buildControlBody_eq_ok_iff` says when a body is built at all.
-/
import RaceLink.Parse.Basic
import RaceLink.Protocol.Packets
import Mathlib.Tactic.SplitIfs

namespace RaceLink

open Python Parse

/-! ## 1. The layout -/

def rlCtrlFBrightness : UInt8 := 0x01
def rlCtrlFMode : UInt8 := 0x02
def rlCtrlFSpeed : UInt8 := 0x04
def rlCtrlFIntensity : UInt8 := 0x08
def rlCtrlFCustom1 : UInt8 := 0x10
def rlCtrlFCustom2 : UInt8 := 0x20
def rlCtrlFCustom3Checks : UInt8 := 0x40
def rlCtrlFExt : UInt8 := 0x80
def rlCtrlEPalette : UInt8 := 0x01
def rlCtrlEColor1 : UInt8 := 0x02
def rlCtrlEColor2 : UInt8 := 0x04
def rlCtrlEColor3 : UInt8 := 0x08

/-- A bit of a mask byte is set. -/
def hasBit (mask bit : UInt8) : Bool := mask &&& bit != 0

/-- A colour as it is sent. -/
structure Rgb where
  r : UInt8
  g : UInt8
  b : UInt8
  deriving DecidableEq

/-- The byte of `custom3` (bits 0 to 4) and the checks (bits 5 to 7). -/
structure Custom3Checks where
  custom3 : UInt8
  check1 : Bool
  check2 : Bool
  check3 : Bool
  deriving DecidableEq

/-- The extended block. -/
structure ControlExt where
  palette : Option UInt8
  color1 : Option Rgb
  color2 : Option Rgb
  color3 : Option Rgb
  deriving DecidableEq

/-- What a receiver finds in a body. -/
structure ControlBody where
  groupId : UInt8
  flags : UInt8
  brightness : Option UInt8
  mode : Option UInt8
  speed : Option UInt8
  intensity : Option UInt8
  custom1 : Option UInt8
  custom2 : Option UInt8
  custom3Checks : Option Custom3Checks
  ext : Option ControlExt
  deriving DecidableEq

def unpackCustom3Checks (packed : UInt8) : Custom3Checks :=
  ⟨packed &&& 0x1F, hasBit packed 0x20, hasBit packed 0x40, hasBit packed 0x80⟩

def takeRgb : Parser Rgb := do
  let r ← takeByte
  let g ← takeByte
  let b ← takeByte
  pure ⟨r, g, b⟩

def takeControlExt : Parser ControlExt := do
  let extMask ← takeByte
  let palette ← takeIf (hasBit extMask rlCtrlEPalette) takeByte
  let color1 ← takeIf (hasBit extMask rlCtrlEColor1) takeRgb
  let color2 ← takeIf (hasBit extMask rlCtrlEColor2) takeRgb
  let color3 ← takeIf (hasBit extMask rlCtrlEColor3) takeRgb
  pure ⟨palette, color1, color2, color3⟩

def takeControlBody : Parser ControlBody := do
  let groupId ← takeByte
  let flags ← takeByte
  let fieldMask ← takeByte
  let brightness ← takeIf (hasBit fieldMask rlCtrlFBrightness) takeByte
  let mode ← takeIf (hasBit fieldMask rlCtrlFMode) takeByte
  let speed ← takeIf (hasBit fieldMask rlCtrlFSpeed) takeByte
  let intensity ← takeIf (hasBit fieldMask rlCtrlFIntensity) takeByte
  let custom1 ← takeIf (hasBit fieldMask rlCtrlFCustom1) takeByte
  let custom2 ← takeIf (hasBit fieldMask rlCtrlFCustom2) takeByte
  let custom3Checks ← takeIf (hasBit fieldMask rlCtrlFCustom3Checks)
    (unpackCustom3Checks <$> takeByte)
  let ext ← takeIf (hasBit fieldMask rlCtrlFExt) takeControlExt
  pure ⟨groupId, flags, brightness, mode, speed, intensity, custom1, custom2, custom3Checks, ext⟩

/-- The content of a body that the layout covers exactly. -/
def parseControlBody (body : List UInt8) : Option ControlBody := parseAll takeControlBody body

/-! ## 2. What the arguments mean -/

/-- The colours that are given have three components. -/
structure ControlFields.RgbColors (f : ControlFields) : Prop where
  color1 : ∀ c, f.color1 = some c → c.length = 3
  color2 : ∀ c, f.color2 = some c → c.length = 3
  color3 : ∀ c, f.color3 = some c → c.length = 3

/-- A colour given by three numbers. -/
def rgbOf : List Int → Rgb
  | [r, g, b] => ⟨byteOf r, byteOf g, byteOf b⟩
  | _ => ⟨0, 0, 0⟩

/-- `custom3` and the checks, when one of them is given: what is absent counts as 0. -/
def ControlFields.custom3Checks (f : ControlFields) : Option Custom3Checks :=
  if f.custom3.isSome || f.check1.isSome || f.check2.isSome || f.check3.isSome then
    some ⟨byteOf (f.custom3.getD 0 % 32), f.check1 = some true, f.check2 = some true,
      f.check3 = some true⟩
  else none

/-- The palette and the colours, when one of them is given. -/
def ControlFields.ext (f : ControlFields) : Option ControlExt :=
  if f.palette.isSome || f.color1.isSome || f.color2.isSome || f.color3.isSome then
    some ⟨f.palette.map byteOf, f.color1.map rgbOf, f.color2.map rgbOf, f.color3.map rgbOf⟩
  else none

/-- The content a body for these arguments has to have. -/
def ControlFields.content (groupId flags : Int) (f : ControlFields) : ControlBody :=
  ⟨byteOf groupId, byteOf flags, f.brightness.map byteOf, f.mode.map byteOf, f.speed.map byteOf,
    f.intensity.map byteOf, f.custom1.map byteOf, f.custom2.map byteOf, f.custom3Checks, f.ext⟩

/-! ## 3. The layout, written -/

/-- The mask bit and the bytes of a part that may be absent. -/
def part {α : Type} (bit : Nat) (encode : α → List UInt8) (value : Option α) : Nat × List UInt8 :=
  (if value.isSome then bit else 0, (value.map encode).getD [])

def Rgb.bytes (c : Rgb) : List UInt8 := [c.r, c.g, c.b]

/-- `custom3` and the checks in one byte. -/
def Custom3Checks.packed (c : Custom3Checks) : UInt8 :=
  UInt8.ofNat (c.custom3.toNat % 32 + (if c.check1 then 0x20 else 0)
    + (if c.check2 then 0x40 else 0) + (if c.check3 then 0x80 else 0))

/-- A mask byte and the parts it announces. -/
def maskedBytes (parts : List (Nat × List UInt8)) : List UInt8 :=
  UInt8.ofNat (joinFields parts).1 :: (joinFields parts).2

/-- The parts of the extended block. -/
def ControlExt.parts (e : ControlExt) : List (Nat × List UInt8) :=
  [part 0x01 (fun b => [b]) e.palette, part 0x02 Rgb.bytes e.color1,
    part 0x04 Rgb.bytes e.color2, part 0x08 Rgb.bytes e.color3]

def ControlExt.bytes (e : ControlExt) : List UInt8 := maskedBytes e.parts

/-- The parts that are one byte. -/
def ControlBody.byteParts (c : ControlBody) : List (Nat × List UInt8) :=
  [part 0x01 (fun b => [b]) c.brightness, part 0x02 (fun b => [b]) c.mode,
    part 0x04 (fun b => [b]) c.speed, part 0x08 (fun b => [b]) c.intensity,
    part 0x10 (fun b => [b]) c.custom1, part 0x20 (fun b => [b]) c.custom2,
    part 0x40 (fun c => [c.packed]) c.custom3Checks]

def ControlBody.bytes (c : ControlBody) : List UInt8 :=
  c.groupId :: c.flags :: maskedBytes (c.byteParts ++ [part 0x80 ControlExt.bytes c.ext])

theorem maskedField_eq (bit : Nat) (value : Option Int) :
    maskedField bit value = part bit (fun b => [b]) (value.map byteOf) := by
  cases value <;> rfl

theorem maskedColor_eq (bit : Nat) {color : Option (List Int)}
    (h : ∀ c, color = some c → c.length = 3) :
    maskedColor bit color = .ok (part bit Rgb.bytes (color.map rgbOf)) := by
  cases color with
  | none => rfl
  | some c =>
    match c, h c rfl with
    | [r, g, b], _ => rfl

/-- Packing in the builder: the sum is a byte. -/
theorem byteOf_packed (custom3 : Int) (check1 check2 check3 : Bool) :
    byteOf (custom3 % 32 + (if check1 then 0x20 else 0) + (if check2 then 0x40 else 0)
        + (if check3 then 0x80 else 0))
      = (⟨byteOf (custom3 % 32), check1, check2, check3⟩ : Custom3Checks).packed := by
  have hcustom3 : ((byteOf (custom3 % 32)).toNat : Int) = custom3 % 32 :=
    toNat_byteOf_eq (by omega)
  dsimp only [Custom3Checks.packed]
  rw [byteOf]
  congr 1
  split_ifs <;> omega

theorem custom3Checks_eq (f : ControlFields) :
    custom3Checks f = part 0x40 (fun c => [c.packed]) f.custom3Checks := by
  unfold custom3Checks ControlFields.custom3Checks
  split
  · have hpacked := byteOf_packed (f.custom3.getD 0) (f.check1 = some true)
      (f.check2 = some true) (f.check3 = some true)
    simp only [decide_eq_true_eq] at hpacked
    simp only [part, Option.isSome_some, if_true, Option.map_some, Option.getD_some, hpacked]
  · rfl

theorem length_part_le {α : Type} (bit : Nat) {encode : α → List UInt8} {n : Nat}
    (h : ∀ a, (encode a).length ≤ n) (value : Option α) :
    (part bit encode value).2.length ≤ n := by
  cases value with
  | none => exact Nat.zero_le n
  | some a => exact h a

/-- One byte for each of four masks and fields, and three for each colour. -/
theorem ControlExt.length_bytes_le (e : ControlExt) : e.bytes.length ≤ 11 := by
  have hpalette := length_part_le 0x01 (n := 1) (fun b : UInt8 => Nat.le_refl [b].length) e.palette
  have hrgb (bit : Nat) (c : Option Rgb) : (part bit Rgb.bytes c).2.length ≤ 3 :=
    length_part_le bit (fun c => Nat.le_refl c.bytes.length) c
  have hcolor1 := hrgb 0x02 e.color1
  have hcolor2 := hrgb 0x04 e.color2
  have hcolor3 := hrgb 0x08 e.color3
  simp only [ControlExt.bytes, ControlExt.parts, maskedBytes, joinFields, List.length_cons,
    List.map_cons, List.map_nil, List.flatten_cons, List.flatten_nil, List.length_append,
    List.length_nil]
  omega

/-- A body has 3 to 21 bytes. -/
theorem ControlBody.length_bytes_le (c : ControlBody) :
    3 ≤ c.bytes.length ∧ c.bytes.length ≤ 21 := by
  have hbyte (bit : Nat) (v : Option UInt8) : (part bit (fun b => [b]) v).2.length ≤ 1 :=
    length_part_le bit (fun b => Nat.le_refl [b].length) v
  have hbrightness := hbyte 0x01 c.brightness
  have hmode := hbyte 0x02 c.mode
  have hspeed := hbyte 0x04 c.speed
  have hintensity := hbyte 0x08 c.intensity
  have hcustom1 := hbyte 0x10 c.custom1
  have hcustom2 := hbyte 0x20 c.custom2
  have hchecks : (part 0x40 (fun c : Custom3Checks => [c.packed]) c.custom3Checks).2.length ≤ 1 :=
    length_part_le 0x40 (fun c => Nat.le_refl [c.packed].length) c.custom3Checks
  have hext := length_part_le 0x80 ControlExt.length_bytes_le c.ext
  simp only [ControlBody.bytes, ControlBody.byteParts, List.cons_append, List.nil_append,
    maskedBytes, joinFields, List.length_cons, List.map_cons, List.map_nil, List.flatten_cons,
    List.flatten_nil, List.length_append, List.length_nil]
  omega

theorem joinFields_append (xs ys : List (Nat × List UInt8)) : joinFields (xs ++ ys)
    = ((joinFields xs).1 + (joinFields ys).1, (joinFields xs).2 ++ (joinFields ys).2) := by
  simp [joinFields]

/-- A last part adds its bit to the mask and its bytes to the end. -/
theorem maskedBytes_append_part {α : Type} (parts : List (Nat × List UInt8)) (bit : Nat)
    (encode : α → List UInt8) (value : Option α) : maskedBytes (parts ++ [part bit encode value])
      = UInt8.ofNat ((joinFields parts).1 + if value.isSome then bit else 0) ::
        ((joinFields parts).2 ++ (value.map encode).getD []) := by
  rw [maskedBytes, joinFields_append]
  simp [joinFields, part]

/-- The builder sends the extended block when its mask is not 0. -/
theorem ControlFields.ext_eq (f : ControlFields) : f.ext =
    let e : ControlExt := ⟨f.palette.map byteOf, f.color1.map rgbOf, f.color2.map rgbOf,
      f.color3.map rgbOf⟩
    if (joinFields e.parts).1 ≠ 0 then some e else none := by
  have hmask (p c1 c2 c3 : Bool) : (p || c1 || c2 || c3) = true ↔
      (if p then 0x01 else 0) + ((if c1 then 0x02 else 0) + ((if c2 then 0x04 else 0) +
        ((if c3 then 0x08 else 0) + 0))) ≠ 0 := by
    cases p <;> cases c1 <;> cases c2 <;> cases c3 <;> decide
  refine if_congr ?_ rfl rfl
  simpa [joinFields, ControlExt.parts, part] using
    hmask f.palette.isSome f.color1.isSome f.color2.isSome f.color3.isSome

/-- The builder's tail is the layout after the group and the flags. -/
theorem controlTail_eq {f : ControlFields} (h : f.RgbColors) (groupId flags : Int) :
    controlTail f = .ok (maskedBytes ((f.content groupId flags).byteParts ++
      [part 0x80 ControlExt.bytes f.ext])) := by
  unfold controlTail
  simp only [maskedField_eq, custom3Checks_eq, maskedColor_eq _ h.color1,
    maskedColor_eq _ h.color2, maskedColor_eq _ h.color3, ok_bind]
  rw [maskedBytes_append_part]
  split
  · next hext =>
    have hsome := f.ext_eq.trans (if_pos hext)
    rw [hsome]
    rfl
  · next hext =>
    have hnone := f.ext_eq.trans (if_neg hext)
    rw [hnone, Option.map_none, Option.getD_none, List.append_nil]
    rfl

/-- **What is built**: the layout of the content. -/
theorem buildControlBody_eq (groupId flags : Int) {f : ControlFields} (h : f.RgbColors) :
    buildControlBody groupId flags f = .ok (f.content groupId flags).bytes := by
  have hlength := (f.content groupId flags).length_bytes_le
  unfold buildControlBody
  rw [controlTail_eq h groupId flags, ok_bind]
  exact if_pos (Nat.le_succ_of_le hlength.2)

/-! ## 4. The layout, read -/

/-- A part is read as it was written, when the mask says whether it is there. -/
theorem reads_part {α : Type} {bit : Nat} {encode : α → List UInt8} {p : Parser α}
    {present : Bool} {value : Option α} (h : ∀ a, value = some a → Reads p (encode a) a)
    (hpresent : present = value.isSome) :
    Reads (takeIf present p) (part bit encode value).2 value := by
  cases value with
  | none => exact Reads.takeIf_false hpresent
  | some a => exact Reads.takeIf_true hpresent (h a rfl)

theorem reads_rgb (c : Rgb) : Reads takeRgb c.bytes c :=
  (Reads.takeByte c.r).bind ((Reads.takeByte c.g).bind ((Reads.takeByte c.b).bind (Reads.pure c)))

theorem fieldMask_bits : ∀ b0 b1 b2 b3 b4 b5 b6 b7 : Bool,
    let mask := UInt8.ofNat ((if b0 then 0x01 else 0) + ((if b1 then 0x02 else 0) +
      ((if b2 then 0x04 else 0) + ((if b3 then 0x08 else 0) + ((if b4 then 0x10 else 0) +
        ((if b5 then 0x20 else 0) + ((if b6 then 0x40 else 0) + (if b7 then 0x80 else 0))))))))
    hasBit mask rlCtrlFBrightness = b0 ∧ hasBit mask rlCtrlFMode = b1 ∧
      hasBit mask rlCtrlFSpeed = b2 ∧ hasBit mask rlCtrlFIntensity = b3 ∧
      hasBit mask rlCtrlFCustom1 = b4 ∧ hasBit mask rlCtrlFCustom2 = b5 ∧
      hasBit mask rlCtrlFCustom3Checks = b6 ∧ hasBit mask rlCtrlFExt = b7 := by
  decide

theorem extMask_bits : ∀ b0 b1 b2 b3 : Bool,
    let mask := UInt8.ofNat ((if b0 then 0x01 else 0) + ((if b1 then 0x02 else 0) +
      ((if b2 then 0x04 else 0) + (if b3 then 0x08 else 0))))
    hasBit mask rlCtrlEPalette = b0 ∧ hasBit mask rlCtrlEColor1 = b1 ∧
      hasBit mask rlCtrlEColor2 = b2 ∧ hasBit mask rlCtrlEColor3 = b3 := by
  decide

/-- Packing and unpacking, for a `custom3` of five bits. -/
theorem unpackCustom3Checks_packed {c : Custom3Checks} (h : c.custom3 < 32) :
    unpackCustom3Checks c.packed = c := by
  have hall : ∀ custom3 : Fin 32, ∀ check1 check2 check3 : Bool,
      unpackCustom3Checks (⟨UInt8.ofNat custom3, check1, check2, check3⟩ : Custom3Checks).packed
        = ⟨UInt8.ofNat custom3, check1, check2, check3⟩ := by
    decide +kernel
  have hc := hall ⟨c.custom3.toNat, h⟩ c.check1 c.check2 c.check3
  rwa [UInt8.ofNat_toNat] at hc

/-- The bytes of a list of parts, in the shape a sequence of parsers reads. -/
theorem maskedBytes_eq_foldr (parts : List (Nat × List UInt8)) : maskedBytes parts
    = [UInt8.ofNat (joinFields parts).1] ++ parts.foldr (fun p bytes => p.2 ++ bytes) [] := by
  have hflatten : (parts.map (·.2)).flatten = parts.foldr (fun p bytes => p.2 ++ bytes) [] := by
    induction parts with
    | nil => rfl
    | cons p parts ih => rw [List.map_cons, List.flatten_cons, ih, List.foldr_cons]
  rw [← hflatten]
  rfl

theorem reads_controlExt (e : ControlExt) : Reads takeControlExt e.bytes e := by
  obtain ⟨hpalette, hcolor1, hcolor2, hcolor3⟩ :
      let mask := UInt8.ofNat (joinFields e.parts).1
      hasBit mask rlCtrlEPalette = e.palette.isSome ∧ hasBit mask rlCtrlEColor1 = e.color1.isSome ∧
        hasBit mask rlCtrlEColor2 = e.color2.isSome ∧
        hasBit mask rlCtrlEColor3 = e.color3.isSome :=
    extMask_bits e.palette.isSome e.color1.isSome e.color2.isSome e.color3.isSome
  rw [ControlExt.bytes, maskedBytes_eq_foldr]
  unfold takeControlExt
  refine (Reads.takeByte _).bind ?_
  refine (reads_part (fun b _ => Reads.takeByte b) hpalette).bind ?_
  refine (reads_part (fun c _ => reads_rgb c) hcolor1).bind ?_
  refine (reads_part (fun c _ => reads_rgb c) hcolor2).bind ?_
  exact (reads_part (fun c _ => reads_rgb c) hcolor3).bind (Reads.pure e)

/-- **The layout is read as it was written**. -/
theorem reads_controlBody {c : ControlBody} (h : ∀ k, c.custom3Checks = some k → k.custom3 < 32) :
    Reads takeControlBody c.bytes c := by
  obtain ⟨hbrightness, hmode, hspeed, hintensity, hcustom1, hcustom2, hchecks, hext⟩ :
      let mask := UInt8.ofNat (joinFields (c.byteParts ++ [part 0x80 ControlExt.bytes c.ext])).1
      hasBit mask rlCtrlFBrightness = c.brightness.isSome ∧
        hasBit mask rlCtrlFMode = c.mode.isSome ∧ hasBit mask rlCtrlFSpeed = c.speed.isSome ∧
        hasBit mask rlCtrlFIntensity = c.intensity.isSome ∧
        hasBit mask rlCtrlFCustom1 = c.custom1.isSome ∧
        hasBit mask rlCtrlFCustom2 = c.custom2.isSome ∧
        hasBit mask rlCtrlFCustom3Checks = c.custom3Checks.isSome ∧
        hasBit mask rlCtrlFExt = c.ext.isSome :=
    fieldMask_bits c.brightness.isSome c.mode.isSome c.speed.isSome c.intensity.isSome
      c.custom1.isSome c.custom2.isSome c.custom3Checks.isSome c.ext.isSome
  have hpacked : ∀ k, c.custom3Checks = some k →
      Reads (unpackCustom3Checks <$> takeByte) [k.packed] k := by
    intro k hk
    have hread := (Reads.takeByte k.packed).map unpackCustom3Checks
    rwa [unpackCustom3Checks_packed (h k hk)] at hread
  have hbytes : c.bytes = [c.groupId] ++ ([c.flags] ++
      maskedBytes (c.byteParts ++ [part 0x80 ControlExt.bytes c.ext])) := rfl
  rw [hbytes, maskedBytes_eq_foldr]
  unfold takeControlBody
  refine (Reads.takeByte _).bind ((Reads.takeByte _).bind ((Reads.takeByte _).bind ?_))
  refine (reads_part (fun b _ => Reads.takeByte b) hbrightness).bind ?_
  refine (reads_part (fun b _ => Reads.takeByte b) hmode).bind ?_
  refine (reads_part (fun b _ => Reads.takeByte b) hspeed).bind ?_
  refine (reads_part (fun b _ => Reads.takeByte b) hintensity).bind ?_
  refine (reads_part (fun b _ => Reads.takeByte b) hcustom1).bind ?_
  refine (reads_part (fun b _ => Reads.takeByte b) hcustom2).bind ?_
  refine (reads_part hpacked hchecks).bind ?_
  exact (reads_part (fun e _ => reads_controlExt e) hext).bind (Reads.pure c)

/-! ## 5. The round trip -/

theorem ControlFields.custom3_lt (groupId flags : Int) (f : ControlFields) :
    ∀ k, (f.content groupId flags).custom3Checks = some k → k.custom3 < 32 := by
  intro k hk
  simp only [ControlFields.content, ControlFields.custom3Checks, Option.ite_none_right_eq_some,
    Option.some.injEq] at hk
  have hcustom3 : ((byteOf (f.custom3.getD 0 % 32)).toNat : Int) = f.custom3.getD 0 % 32 :=
    toNat_byteOf_eq (by omega)
  rw [← hk.2, UInt8.lt_iff_toNat_lt]
  have hmod : f.custom3.getD 0 % 32 < 32 := by omega
  have hlt : (byteOf (f.custom3.getD 0 % 32)).toNat < 32 := by omega
  exact hlt

/-- **What is given is what is read.**  The body of any arguments is covered exactly by the
documented layout and has their content: the group and the flags, the fields that were given and
no others, each modulo 256.  It has 3 to 21 bytes. -/
theorem parseControlBody_buildControlBody (groupId flags : Int) (f : ControlFields)
    (h : f.RgbColors) : ∃ body, buildControlBody groupId flags f = .ok body ∧
      parseControlBody body = some (f.content groupId flags) ∧
      3 ≤ body.length ∧ body.length ≤ 21 :=
  ⟨_, buildControlBody_eq groupId flags h,
    (reads_controlBody (f.custom3_lt groupId flags)).parseAll, ControlBody.length_bytes_le _⟩

/-- A packet that carries a masked field, `custom3` with one check, and a colour. -/
def tealFields : ControlFields :=
  { brightness := some 300, mode := none, speed := none, intensity := none, custom1 := none,
    custom2 := none, custom3 := some (-1), palette := none, check1 := none, check2 := some true,
    check3 := none, color1 := none, color2 := some [0, 128, -128], color3 := none }

theorem parseControlBody_teal : tealFields.RgbColors ∧
    ∃ body, buildControlBody 261 1 tealFields = .ok body ∧
      parseControlBody body = some (tealFields.content 261 1) ∧
      3 ≤ body.length ∧ body.length ≤ 21 := by
  have hrgb : tealFields.RgbColors := ⟨nofun, fun c hc => by cases hc; rfl, nofun⟩
  exact ⟨hrgb, parseControlBody_buildControlBody 261 1 tealFields hrgb⟩

example : buildControlBody 261 1 tealFields
    = .ok [5, 1, 0xC1, 44, 0x5F, 0x04, 0, 128, 128] := by rfl

theorem length_of_maskedColor {bit : Nat} {color : Option (List Int)} {r : Nat × List UInt8}
    (h : maskedColor bit color = .ok r) : ∀ c, color = some c → c.length = 3 := by
  rintro c rfl
  simp only [maskedColor, bind_eq_ok] at h
  obtain ⟨bytes, hbytes, -⟩ := h
  unfold rgbBytes at hbytes
  split at hbytes
  · rfl
  · split at hbytes <;> cases hbytes

/-- **When a body is built**: exactly when the colours have three components. -/
theorem buildControlBody_eq_ok_iff (groupId flags : Int) (f : ControlFields) :
    (∃ body, buildControlBody groupId flags f = .ok body) ↔ f.RgbColors := by
  constructor
  · rintro ⟨body, hbody⟩
    simp only [buildControlBody, controlTail, bind_eq_ok] at hbody
    obtain ⟨-, ⟨r1, h1, r2, h2, r3, h3, -⟩, -⟩ := hbody
    exact ⟨length_of_maskedColor h1, length_of_maskedColor h2, length_of_maskedColor h3⟩
  · intro h
    exact ⟨_, buildControlBody_eq groupId flags h⟩

end RaceLink
