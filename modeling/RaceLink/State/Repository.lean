/-
# Devices and groups

The records of `domain/models.py`.  A device refers to its group by the group's index in the
group list, which is why removing a group renumbers devices.

The four bytes the constructor masks with `& 0xFF` are `UInt8`; everything else the source
keeps as a Python `int` is an `Int`.  The link fields are written by the receive path only and
are carried as the values they are.
-/
import RaceLink.Python.Value

namespace RaceLink

open Python

/-- `RL_Device`. -/
structure Device where
  addr : String
  devType : Int
  name : String
  version : Int
  caps : Int
  groupId : Int
  flags : UInt8
  presetId : UInt8
  effectId : UInt8
  brightness : UInt8
  configByte : UInt8
  specials : List (String × Int)
  voltageMV : Int
  nodeRssi : Int
  nodeSnr : Int
  hostRssi : Int
  hostSnr : Int
  lastSeenTs : PyVal
  linkOnline : Option Bool
  linkTs : PyVal
  linkError : Option String
  lastAck : PyVal

/-- `ack_clear`'s record: no acknowledgement yet. -/
def noAck : PyVal :=
  .dict [(.str "ok", .bool false), (.str "opcode", .null), (.str "status", .null),
    (.str "seq", .null), (.str "ts", .float (.finite 0))]

/-- `RL_Device(...)`: what its callers pass, and the constructor's defaults for the rest. -/
def Device.init (addr : String) (devType : Int) (name : String) (groupId version caps : Int)
    (flags presetId brightness : UInt8) : Device :=
  { addr := addr, devType := devType, name := name, version := version, caps := caps
    groupId := groupId, flags := flags, presetId := presetId, effectId := 0
    brightness := brightness, configByte := 0, specials := [], voltageMV := 0, nodeRssi := 0
    nodeSnr := 0, hostRssi := 0, hostSnr := 0, lastSeenTs := .int 0, linkOnline := none
    linkTs := .float (.finite 0), linkError := none, lastAck := noAck }

/-- The comparison of `get_by_addr`: the whole address, or its last six digits. -/
def Device.hasAddr (s : String) (d : Device) : Bool :=
  if s.length = 12 then upper d.addr = s
  else s.length = 6 && s.toList.isSuffixOf (upper d.addr).toList

/-- `getDeviceFromAddress`: the place in the repository of the first device with an address. -/
def getDeviceFromAddress (devices : List Device) (addr : String) : Option Nat :=
  devices.findIdx? (·.hasAddr (upper (strip addr)))

/-- `Device.hasAddr` for an address. -/
def addrMatches (s addr : String) : Bool :=
  if s.length = 12 then upper addr = s
  else s.length = 6 && s.toList.isSuffixOf (upper addr).toList

/-- The place of an address depends on the addresses only. -/
theorem getDeviceFromAddress_addrs (devices : List Device) (addr : String) :
    getDeviceFromAddress devices addr
      = (devices.map (·.addr)).findIdx? (addrMatches (upper (strip addr))) := by
  have hfun : addrMatches (upper (strip addr)) ∘ (fun d : Device => d.addr)
      = Device.hasAddr (upper (strip addr)) := by
    funext d
    rw [Function.comp_apply, addrMatches, Device.hasAddr]
  rw [getDeviceFromAddress, List.findIdx?_map, hfun]

/-- `RL_DeviceGroup`. -/
structure DeviceGroup where
  name : String
  staticGroup : Int
  devType : Int
  deriving DecidableEq

end RaceLink
