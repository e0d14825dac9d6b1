/-
# Bytes

What the packet code uses of Python's `bytes`: masking with `& 0xFF`, the little-endian 16-bit
fields of `struct`, and `bytes.fromhex`.  A signed field is its value modulo 2^16; a caller that
packs a value clamps it first, so `struct.pack` never raises.
-/
import RaceLink.Python.Value

namespace Python

/-- `int(v) & 0xFF`. -/
def byteOf (v : Int) : UInt8 := UInt8.ofNat (v % 256).toNat

theorem toNat_byteOf (v : Int) : ((byteOf v).toNat : Int) = v % 256 := by
  have hlt : (v % 256).toNat < 256 := by omega
  rw [byteOf, UInt8.toNat_ofNat_of_lt' hlt]
  omega

theorem toNat_byteOf_eq {v : Int} (h : 0 ≤ v ∧ v ≤ 255) : ((byteOf v).toNat : Int) = v := by
  rw [toNat_byteOf]
  omega

theorem byteOf_toNat (b : UInt8) : byteOf b.toNat = b := by
  have hlt : b.toNat < 256 := b.toNat_lt
  have hmod : ((b.toNat : Int) % 256).toNat = b.toNat := by omega
  rw [byteOf, hmod, UInt8.ofNat_toNat]

/-! ## Little-endian fields -/

/-- `struct.pack("<H", v)` and `struct.pack("<h", v)`, for a value in range. -/
def le16 (v : Int) : List UInt8 := [byteOf v, byteOf (v / 256)]

/-- `struct.unpack("<H", [low, high])`. -/
def u16 (low high : UInt8) : Int := low.toNat + 256 * high.toNat

/-- `struct.unpack("<h", [low, high])`. -/
def i16 (low high : UInt8) : Int :=
  if u16 low high < 32768 then u16 low high else u16 low high - 65536

theorem u16_byteOf (v : Int) : u16 (byteOf v) (byteOf (v / 256)) = v % 65536 := by
  rw [u16, toNat_byteOf, toNat_byteOf]
  omega

theorem u16_le16 {v : Int} (h : 0 ≤ v ∧ v ≤ 65535) : u16 (byteOf v) (byteOf (v / 256)) = v := by
  rw [u16_byteOf]
  omega

theorem i16_le16 {v : Int} (h : -32768 ≤ v ∧ v ≤ 32767) :
    i16 (byteOf v) (byteOf (v / 256)) = v := by
  rw [i16, u16_byteOf]
  split <;> omega

/-- `struct.unpack("<b", [b])`. -/
def i8 (b : UInt8) : Int := if b.toNat < 128 then b.toNat else b.toNat - 256

/-! ## Slices -/

/-- The place a bound of a slice means: a negative one counts from the end. -/
def sliceIndex (length : Nat) (i : Int) : Nat :=
  if i < 0 then (i + length).toNat else min i.toNat length

/-- `data[start:stop]`. -/
def slice (data : List UInt8) (start stop : Int) : List UInt8 :=
  (data.take (sliceIndex data.length stop)).drop (sliceIndex data.length start)

/-- A slice whose bounds mean the ends of a middle part is that part. -/
theorem slice_middle {xs ys zs : List UInt8} {start stop : Int}
    (hstart : sliceIndex (xs ++ ys ++ zs).length start = xs.length)
    (hstop : sliceIndex (xs ++ ys ++ zs).length stop = (xs ++ ys).length) :
    slice (xs ++ ys ++ zs) start stop = ys := by
  rw [slice, hstart, hstop, List.take_left, List.drop_left]

/-- `data[start:]`. -/
def sliceFrom (data : List UInt8) (start : Int) : List UInt8 :=
  data.drop (sliceIndex data.length start)

/-! ## Hexadecimal text -/

/-- The value of a hexadecimal digit. -/
def hexValue? (c : Char) : Option Nat :=
  if 0x30 ≤ c.toNat ∧ c.toNat ≤ 0x39 then some (c.toNat - 0x30)
  else if 0x41 ≤ c.toNat ∧ c.toNat ≤ 0x46 then some (c.toNat - 0x37)
  else if 0x61 ≤ c.toNat ∧ c.toNat ≤ 0x66 then some (c.toNat - 0x57)
  else none

/-- The white space `bytes.fromhex` skips between two bytes. -/
def isHexSpace (c : Char) : Bool := c = ' ' || (0x09 ≤ c.toNat && c.toNat ≤ 0x0d)

/-- The bytes of a text in hexadecimal, or `none` where `bytes.fromhex` raises. -/
def fromHexChars : List Char → Option (List UInt8)
  | [] => some []
  | c :: cs =>
    if isHexSpace c then fromHexChars cs
    else match cs with
      | [] => none
      | c' :: rest => do
        let high ← hexValue? c
        let low ← hexValue? c'
        let bytes ← fromHexChars rest
        pure (UInt8.ofNat (16 * high + low) :: bytes)

/-- `bytes.fromhex`; the position in its message is left out. -/
def bytesFromHex (s : String) : Except PyErr (List UInt8) :=
  match fromHexChars s.toList with
  | some bytes => .ok bytes
  | none => .error (.valueError [.text "non-hexadecimal number found in fromhex() arg"])

/-- A byte as two hexadecimal digits (`:02X`). -/
def hex2 (b : UInt8) : String :=
  let digit (n : Nat) : Char := Char.ofNat (if n < 10 then 0x30 + n else 0x37 + n)
  String.ofList [digit (b.toNat / 16), digit (b.toNat % 16)]

end Python
