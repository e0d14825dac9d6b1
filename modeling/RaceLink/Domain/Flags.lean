/-
# The behaviour flags

The six flags of `domain/flags.py`, at the bit positions both `OPC_PRESET` and `OPC_CONTROL`
carry.  Four of them are the operator's (`USER_FLAG_KEYS`); `POWER_ON` and `HAS_BRI` are
derived from the brightness when a packet is built.
-/
import Mathlib.Data.Nat.Notation

namespace RaceLink

/-- The four user-intent flags, in the order of `USER_FLAG_KEYS`. -/
inductive UserFlag where
  | armOnSync
  | forceTt0
  | forceReapply
  | offsetMode
  deriving DecidableEq

namespace UserFlag

/-- The flag's key in a `flags_override`, a preset's `flags` and a sender's `params`. -/
def key : UserFlag → String
  | armOnSync => "arm_on_sync"
  | forceTt0 => "force_tt0"
  | forceReapply => "force_reapply"
  | offsetMode => "offset_mode"

/-- `USER_FLAG_KEYS`. -/
def all : List UserFlag := [armOnSync, forceTt0, forceReapply, offsetMode]

theorem mem_all (k : UserFlag) : k ∈ all := by cases k <;> decide

theorem key_injective {k l : UserFlag} (h : k.key = l.key) : k = l := by
  cases k <;> cases l <;> simp_all [key]

end UserFlag

/-! ## The flags byte -/

def flagPowerOn : Nat := 0x01
def flagArmOnSync : Nat := 0x02
def flagHasBri : Nat := 0x04
def flagForceTt0 : Nat := 0x08
def flagForceReapply : Nat := 0x10
def flagOffsetMode : Nat := 0x20

/-- `build_flags_byte`: the one flags byte of `OPC_PRESET` and `OPC_CONTROL`. -/
def buildFlagsByte (powerOn hasBri : Bool) (user : UserFlag → Bool) : Nat :=
  (if powerOn then flagPowerOn else 0) |||
  (if user .armOnSync then flagArmOnSync else 0) |||
  (if hasBri then flagHasBri else 0) |||
  (if user .forceTt0 then flagForceTt0 else 0) |||
  (if user .forceReapply then flagForceReapply else 0) |||
  (if user .offsetMode then flagOffsetMode else 0)

end RaceLink
