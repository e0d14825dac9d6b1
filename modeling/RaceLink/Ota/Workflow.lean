/-
# The over-the-air workflows

`OTAWorkflowService` brings up a node's access point with a CONFIG packet, joins it, works on the
node over HTTP and goes back.  Everything it calls can raise, and any of it may; the environment
(`OtaServices`) answers each call from all the calls made so far, so a theorem for every
environment is one for every behaviour of the radio, the WiFi, the nodes and the files.

The two workflows clean up differently.  `run_firmware_update` sends the disabling CONFIG in a
`finally` of its own for each device; `download_presets` sends it as the last statement of its
`try`.  What that comes to over a whole run is in `Ota.AccessPoints`.
-/
import RaceLink.Effects.Basic
import RaceLink.Python.Bytes

namespace RaceLink

open Python Effects

/-! ## 1. What is called, and what it answers -/

/-- An exception: its class, its text, and whether `except RuntimeError` catches it. -/
structure Raised where
  typeName : String
  text : String
  runtime : Bool

/-- `RuntimeError(text)` -/
def runtimeError (text : String) : Raised := ⟨"RuntimeError", text, true⟩

/-- `f"{type(ex).__name__}: {ex}"` -/
def Raised.shown (ex : Raised) : String := ex.typeName ++ ": " ++ ex.text

/-- `needle in text` -/
def within (needle text : String) : Bool :=
  text.toList.tails.any fun rest => needle.toList.isPrefixOf rest

/-- The calls of the two workflows, with what they pass on. -/
inductive OtaCall where
  | update (stage : String)
  | radioEnabled
  | setRadio (enabled : Bool)
  | waitIfaceReady (iface : String)
  | connectAp (ssids : List String) (password iface bssid : String)
  | disconnectAp (ssid : String)
  | sendConfig (option data0 : Nat) (recv3 : List UInt8) (waitForAck : Bool)
  | waitForExpectedNode (baseUrl expectedMac : String)
  | wledUploadFile (baseUrl path destName : String)
  | postUpdate (baseUrl path : String) (skipValidation : Bool)
  | attemptUnlock (baseUrl password : String)
  | wledDownloadPresets (baseUrl : String)
  | savePayload (payload : List UInt8)
  | listFiles
  | devicesProvider
  | sleep
  deriving DecidableEq

/-- The three keys of a saved presets file that are reported. -/
structure SavedFile where
  name : String
  size : Nat
  savedTs : PyVal

/-- The answers, each from the calls made by then, the one that is answered included. -/
structure OtaServices where
  update : List OtaCall → Except Raised Unit
  radioEnabled : List OtaCall → Bool
  setRadio : List OtaCall → Except Raised Unit
  waitIfaceReady : List OtaCall → Except Raised Unit
  connectAp : List OtaCall → Except Raised String
  disconnectAp : List OtaCall → Except Raised Unit
  sendConfig : List OtaCall → Except Raised Bool
  waitForExpectedNode : List OtaCall → Except Raised (Option Dict)
  wledUploadFile : List OtaCall → Except Raised Unit
  postUpdate : List OtaCall → Except Raised Unit
  attemptUnlock : List OtaCall → Bool
  wledDownloadPresets : List OtaCall → Except Raised (List UInt8)
  savePayload : List OtaCall → Except Raised SavedFile
  listFiles : List OtaCall → Except Raised (List SavedFile)
  devicesProvider : List OtaCall → Except Raised (List (String × Nat))

/-! ## 2. Addresses -/

/-- `norm_hex` -/
def normHex (value : String) : List Char :=
  (value.toList.filter fun c => (hexValue? c).isSome).map Char.toLower

/-- `expected_mac_hex` -/
def expectedMacHex (addr : String) : String :=
  let hx := normHex addr
  if hx.length < 12 then "" else String.ofList (hx.drop (hx.length - 12))

/-- `expected_last3_hex` -/
def expectedLast3Hex (addr : String) : String :=
  let hx := normHex addr
  if hx.length < 6 then "" else String.ofList (hx.drop (hx.length - 6))

/-- `recv3_bytes_from_addr` -/
def recv3BytesFromAddr (addr : String) : Except Raised (List UInt8) :=
  let last3 := expectedLast3Hex addr
  if last3.length ≠ 6 then .error ⟨"ValueError", "invalid addr", false⟩
  else match bytesFromHex last3 with
    | .ok bytes => .ok bytes
    | .error _ => .error ⟨"ValueError", "non-hexadecimal number found in fromhex() arg", false⟩

/-- `lookup_group_id_for_addr`, on the addresses and groups of the devices. -/
def lookupGroupIdForAddr (addr : String) (devices : List (String × Nat)) : Nat :=
  let want := expectedMacHex addr
  if want = "" then 0
  else match devices.find? fun dev => expectedMacHex dev.1 = want with
    | some dev => dev.2
    | none => 0

/-! ## 3. What is asked for, and what is reported -/

/-- The options of `parse_wifi_options` that the workflows pass on. -/
structure WifiOptions where
  ssids : List String
  password : String
  otaPassword : String
  iface : String
  bssid : String

/-- A file that is uploaded. -/
structure FileInfo where
  id : String
  name : String
  path : String
  size : Nat
  sha256 : String

/-- What is reported of a file; a presets file has no id. -/
structure FileSummary where
  id : Option String
  name : String
  size : Nat
  sha256 : String

structure HostWifi where
  wasEnabled : Bool
  enabled : Bool
  restored : Bool

/-- `dev_res` -/
structure DeviceResult where
  addr : String
  expectedMac : String
  groupId : Nat
  ok : Bool
  error : Option String
  ssid : Option String
  infoBefore : Option (List (String × PyVal))

/-- `results`, of either workflow: a key it does not set is `none` or empty. -/
structure OtaResults where
  ok : Bool
  baseUrl : String
  hostWifi : HostWifi
  errors : List Msg
  devices : List DeviceResult
  fw : Option FileSummary
  presets : Option FileSummary
  cfg : Option FileSummary
  addr : Option String
  file : Option SavedFile
  files : Option (List SavedFile)

/-- The record of a workflow: its results, and the SSID it is connected to. -/
structure OtaRecord where
  results : OtaResults
  connectedSsid : String

/-- The record before the first statement. -/
def OtaRecord.blank : OtaRecord :=
  ⟨⟨true, "", ⟨false, false, false⟩, [], [], none, none, none, none, none, none⟩, ""⟩

def OtaRecord.withResults (r : OtaRecord) (f : OtaResults → OtaResults) : OtaRecord :=
  { r with results := f r.results }

def OtaRecord.withHostWifi (r : OtaRecord) (f : HostWifi → HostWifi) : OtaRecord :=
  r.withResults fun res => { res with hostWifi := f res.hostWifi }

/-- `results["errors"].append(msg)` -/
def OtaRecord.note (msg : Msg) (r : OtaRecord) : OtaRecord :=
  r.withResults fun res => { res with errors := res.errors ++ [msg] }

/-- `results["ok"] = False` -/
def OtaRecord.fail (r : OtaRecord) : OtaRecord := r.withResults fun res => { res with ok := false }

/-- `results["devices"].append(dev_res)` -/
def OtaRecord.withEntry (entry : DeviceResult) (r : OtaRecord) : OtaRecord :=
  r.withResults fun res => { res with devices := res.devices ++ [entry] }

/-- A change of `dev_res`, which is the last of the devices. -/
def OtaRecord.withDevice (f : DeviceResult → DeviceResult) (r : OtaRecord) : OtaRecord :=
  r.withResults fun res => { res with devices := res.devices.modify (res.devices.length - 1) f }

/-- A part of a workflow. -/
abbrev Flow (α : Type) : Type := Proc OtaRecord OtaCall Raised α

open Proc

namespace OtaServices

variable (svc : OtaServices)

def doUpdate (stage : String) : Flow Unit := call (.update stage) svc.update

/-- `radio_enabled` catches whatever it calls raises. -/
def askRadio : Flow Bool := call .radioEnabled fun history => .ok (svc.radioEnabled history)

def doSetRadio (enabled : Bool) : Flow Unit := call (.setRadio enabled) svc.setRadio

def doWaitIface (wifi : WifiOptions) : Flow Unit :=
  call (.waitIfaceReady wifi.iface) svc.waitIfaceReady

def doConnectAp (wifi : WifiOptions) : Flow String :=
  call (.connectAp wifi.ssids wifi.password wifi.iface wifi.bssid) svc.connectAp

/-- `sendConfig(0x04, data0=…, recv3=…)`: the access point of one node, on or off. -/
def sendAp (data0 : Nat) (recv3 : List UInt8) (waitForAck : Bool) : Flow Bool :=
  call (.sendConfig 0x04 data0 recv3 waitForAck) svc.sendConfig

/-! ## 4. The steps that both workflows share -/

/-- The `try` of `_restore_host_wifi`: a failed disconnect is a note, and the radio goes off. -/
def releaseHostWifi : Flow Unit := do
  let r ← (get : Flow OtaRecord)
  (call (.disconnectAp r.connectedSsid) svc.disconnectAp).catching fun ex =>
    modify (OtaRecord.note [.text "Host WiFi cleanup: disconnect from ",
      .repr (.str r.connectedSsid), .text (" failed: " ++ ex.shown)])
  svc.doSetRadio false
  modify (OtaRecord.withHostWifi · fun wifi => { wifi with enabled := false, restored := true })

/-- `_restore_host_wifi` -/
def restoreHostWifi (hostWifiRestore hostWifiInitial : Bool) : Flow Unit :=
  when (hostWifiRestore && !hostWifiInitial) <| svc.askRadio >>= fun enabled => when enabled <|
    svc.releaseHostWifi.catching fun ex =>
      modify fun r => (r.note [.text ("Host WiFi restore failed: " ++ ex.shown)]).fail

/-- `_ensure_wifi_ready` -/
def ensureWifiReady (wifi : WifiOptions) (hostWifiEnable hostWifiInitial : Bool) : Flow Bool :=
  bif hostWifiEnable && !hostWifiInitial then do
    svc.doUpdate "HOST_WIFI_ON"
    svc.doSetRadio true
    svc.doWaitIface wifi
    modify (OtaRecord.withHostWifi · fun wifi => { wifi with enabled := true })
    pure true
  else pure false

/-- The radio is off, as the text of an exception says. -/
def saysDisabled (message : String) : Bool :=
  within "Wi-Fi is disabled" message || within "wireless is disabled" (lower message)

/-- `_connect_wled_wifi` -/
def connectWledWifi (wifi : WifiOptions) (hostWifiEnable hostWifiChanged : Bool) :
    Flow (String × Bool) := do
  svc.doUpdate "CONNECT_WIFI"
  (do
    let matched ← svc.doConnectAp wifi
    pure (matched, hostWifiChanged)).catching fun ex =>
      bif hostWifiEnable && !hostWifiChanged && saysDisabled ex.text then do
        svc.doUpdate "HOST_WIFI_ON"
        svc.doSetRadio true
        modify (OtaRecord.withHostWifi · fun wifi => { wifi with enabled := true })
        svc.doWaitIface wifi
        let matched ← svc.doConnectAp wifi
        pure (matched, true)
      else raise ex

/-- `wait_for_expected_node`, and the check of both workflows: an empty answer is none. -/
def waitForNode (baseUrl expectedMac : String) : Flow Dict := do
  let info ← call (.waitForExpectedNode baseUrl expectedMac) svc.waitForExpectedNode
  match info with
  | some info => pure info
  | none => raise (runtimeError ("Timeout waiting for node (baseUrl=" ++ baseUrl
      ++ ") to report expected mac " ++ expectedMac))

/-- The disabling CONFIG: what it raises is only logged. -/
def closeAp (addr : String) (waitForAck : Bool) : Flow Unit :=
  (do
    let recv3 ← lift (recv3BytesFromAddr addr)
    let _ ← svc.sendAp 0 recv3 waitForAck
    pure ()).catching fun _ => pure ()

end OtaServices

/-! ## 5. `download_presets` -/

/-- The arguments of `download_presets`. -/
structure PresetsJob where
  mac : String
  baseUrl : String
  wifi : WifiOptions
  hostWifiEnable : Bool
  hostWifiRestore : Bool

namespace OtaServices

variable (svc : OtaServices)

/-- The `try`, as far as the list of files. -/
def fetchPresets (job : PresetsJob) (hostWifiInitial : Bool) : Flow (List SavedFile) := do
  let changed ← svc.ensureWifiReady job.wifi job.hostWifiEnable hostWifiInitial
  svc.doUpdate "RACELINK_AP_ON"
  let recv3 ← lift (recv3BytesFromAddr job.mac)
  let okAp ← svc.sendAp 1 recv3 true
  when (!okAp) (raise (runtimeError ("Timeout waiting for CONFIG ACK from " ++ job.mac)))
  let (matched, _) ← svc.connectWledWifi job.wifi job.hostWifiEnable changed
  modify fun r => { r with connectedSsid := matched }
  svc.doUpdate "WAIT_HTTP"
  let _ ← svc.waitForNode job.baseUrl (expectedMacHex job.mac)
  svc.doUpdate "DOWNLOAD_PRESETS"
  let payload ← call (.wledDownloadPresets job.baseUrl) svc.wledDownloadPresets
  let saved ← call (.savePayload payload) svc.savePayload
  modify fun r => r.withResults fun res => { res with file := some saved }
  call .listFiles svc.listFiles

/-- The `try` of `download_presets`. -/
def downloadPresetsBody (job : PresetsJob) (hostWifiInitial : Bool) : Flow Unit := do
  let files ← svc.fetchPresets job hostWifiInitial
  modify fun r => r.withResults fun res => { res with files := some files }
  svc.closeAp job.mac true

/-- The dictionary that `download_presets` starts with. -/
def presetsStart (job : PresetsJob) (hostWifiInitial : Bool) : OtaRecord :=
  ⟨⟨true, job.baseUrl, ⟨hostWifiInitial, hostWifiInitial, false⟩, [], [], none, none, none,
    some job.mac, none, none⟩, ""⟩

/-- `download_presets`, from its `try` on. -/
def downloadPresetsFrom (job : PresetsJob) (hostWifiInitial : Bool) : Flow Unit :=
  ((svc.downloadPresetsBody job hostWifiInitial).catching fun ex =>
    modify fun r => r.fail.note [.text ex.shown]).lastly
      (svc.restoreHostWifi job.hostWifiRestore hostWifiInitial)

/-- `download_presets` -/
def downloadPresets (job : PresetsJob) : Flow Unit := do
  let hostWifiInitial ← svc.askRadio
  modify fun _ => presetsStart job hostWifiInitial
  svc.downloadPresetsFrom job hostWifiInitial

end OtaServices

/-! ## 6. `run_firmware_update` -/

/-- The arguments of `run_firmware_update`. -/
structure FirmwareJob where
  macs : List String
  baseUrl : String
  fwInfo : Option FileInfo
  presetsInfo : Option FileInfo
  cfgInfo : Option FileInfo
  retries : Int
  stopOnError : Bool
  wifi : WifiOptions
  hostWifiEnable : Bool
  hostWifiRestore : Bool
  skipValidation : Bool

/-- `not ops` -/
def FirmwareJob.idle (job : FirmwareJob) : Bool :=
  job.fwInfo.isNone && job.presetsInfo.isNone && job.cfgInfo.isNone

namespace OtaServices

variable (svc : OtaServices)

/-- `wled_upload_firmware`: one upload, and a second one after a 401 that could be unlocked. -/
def wledUploadFirmware (job : FirmwareJob) (path : String) : Flow Unit :=
  let post : Flow Unit := call (.postUpdate job.baseUrl path job.skipValidation) svc.postUpdate
  post.catching fun ex =>
    bif !ex.runtime || !within "HTTP 401" ex.text then raise ex
    else do
      let unlocked ← call (.attemptUnlock job.baseUrl job.wifi.otaPassword)
        fun history => .ok (svc.attemptUnlock history)
      when (!unlocked) (raise (runtimeError (ex.text
        ++ " Auto-unlock POST to /settings/sec also failed; check whether settingsPIN is set on "
        ++ "the device or otaPass differs from the supplied value (default '"
        ++ job.wifi.otaPassword ++ "').")))
      post.catching fun retryEx =>
        bif retryEx.runtime && within "HTTP 401" retryEx.text then
          raise (runtimeError (retryEx.text
            ++ " /update still 401 after auto-unlock — device likely has settingsPIN set, "
            ++ "otaPass differs from the supplied value (default '" ++ job.wifi.otaPassword
            ++ "'), or the auto-unlock POST didn't actually clear the gate. Check the device's "
            ++ "WLED Security settings."))
        else raise retryEx

/-- The failure that another attempt would only meet again. -/
def deviceSide (message : String) : Bool := within "HTTP 500" message || within "HTTP 503" message

/-- The attempts of the firmware upload: `none` when one went through, else `last_err`. -/
def uploadAttempts (job : FirmwareJob) (path : String) :
    Nat → Option Raised → Flow (Option (Option Raised))
  | 0, lastErr => pure (some lastErr)
  | left + 1, _ => do
    let failed ← (do
      svc.doUpdate "UPLOAD_FW"
      svc.wledUploadFirmware job path
      pure none).catching fun ex => pure (some ex)
    match failed with
    | none => pure none
    | some ex =>
      bif deviceSide ex.text then pure (some (some ex))
      else do
        call .sleep fun _ => .ok ()
        uploadAttempts job path left (some ex)

/-- The firmware upload of one device. -/
def uploadFirmware (job : FirmwareJob) (path : String) : Flow Unit := do
  let failed ← svc.uploadAttempts job path job.retries.toNat none
  match failed with
  | none => pure ()
  | some lastErr =>
    raise (runtimeError ("Firmware upload failed: " ++ (lastErr.map (·.text)).getD "None"))

/-- A file of the device's file system, if it is asked for. -/
def uploadFile (job : FirmwareJob) (destName : String) : Option FileInfo → Flow Unit
  | none => pure ()
  | some info => call (.wledUploadFile job.baseUrl info.path destName) svc.wledUploadFile

/-- The `try` of one device, as far as the last upload. -/
def updateDevice (job : FirmwareJob) (hostWifiInitial : Bool) (addr : String) : Flow Unit := do
  svc.doUpdate "RACELINK_AP_ON"
  let recv3 ← lift (recv3BytesFromAddr addr)
  let okAp ← svc.sendAp 1 recv3 true
  when (!okAp) (raise (runtimeError
    ("Timeout waiting for CONFIG ACK from " ++ addr ++ " (AP-enable)")))
  let r ← get
  let (matched, _) ← svc.connectWledWifi job.wifi job.hostWifiEnable
    (r.results.hostWifi.enabled && !hostWifiInitial)
  modify fun r => { r with connectedSsid := if matched = "" then r.connectedSsid else matched }
  modify (OtaRecord.withDevice fun dev => { dev with ssid := some matched })
  svc.doUpdate "WAIT_HTTP"
  let info ← svc.waitForNode job.baseUrl (expectedMacHex addr)
  modify (OtaRecord.withDevice fun dev => { dev with
    infoBefore := some (["mac", "ver", "arch", "name"].map fun k => (k, Dict.get info k)) })
  svc.uploadFile job "presets.json" job.presetsInfo
  svc.uploadFile job "cfg.json" job.cfgInfo
  match job.fwInfo with
  | none => pure ()
  | some info => svc.uploadFirmware job info.path

/-- One device, from its `try` on. -/
def attemptDevice (job : FirmwareJob) (hostWifiInitial : Bool) (addr : String) : Flow Unit :=
  ((do
    svc.updateDevice job hostWifiInitial addr
    modify (OtaRecord.withDevice fun dev => { dev with ok := true })).catching fun ex => do
      modify fun r => (r.withDevice fun dev => { dev with error := some ex.shown }).note
        [.text ex.shown]
      when job.stopOnError (raise ex)).lastly (svc.closeAp addr false)

/-- `dev_res`, as a round begins it. -/
def newEntry (addr : String) (devices : List (String × Nat)) : DeviceResult :=
  ⟨addr, expectedMacHex addr, lookupGroupIdForAddr addr devices, false, none, none, none⟩

/-- One round of the loop over the devices. -/
def deviceRound (job : FirmwareJob) (hostWifiInitial : Bool) (addr : String) : Flow Unit := do
  let devices ← call .devicesProvider svc.devicesProvider
  modify (OtaRecord.withEntry (newEntry addr devices))
  svc.attemptDevice job hostWifiInitial addr

/-- The dictionary that `run_firmware_update` has before its `try`. -/
def firmwareStart (job : FirmwareJob) (hostWifiInitial : Bool) : OtaRecord :=
  ⟨⟨true, job.baseUrl, ⟨hostWifiInitial, hostWifiInitial, false⟩, [], [],
    job.fwInfo.map fun info => ⟨some info.id, info.name, info.size, info.sha256⟩,
    job.presetsInfo.map fun info => ⟨none, info.name, info.size, info.sha256⟩,
    job.cfgInfo.map fun info => ⟨some info.id, info.name, info.size, info.sha256⟩,
    none, none, none⟩, ""⟩

/-- The `try` of `run_firmware_update`. -/
def firmwareBody (job : FirmwareJob) (hostWifiInitial : Bool) : Flow Unit := do
  let _ ← svc.ensureWifiReady job.wifi job.hostWifiEnable hostWifiInitial
  forEach (fun _ addr => svc.deviceRound job hostWifiInitial addr) 1 job.macs

/-- `run_firmware_update`, from its `try` on. -/
def firmwareFrom (job : FirmwareJob) (hostWifiInitial : Bool) : Flow Unit :=
  ((svc.firmwareBody job hostWifiInitial).catching fun _ => modify OtaRecord.fail).lastly
    (svc.restoreHostWifi job.hostWifiRestore hostWifiInitial)

/-- `run_firmware_update`: without an operation it raises before there is anything to restore. -/
def runFirmwareUpdate (job : FirmwareJob) : Flow Unit :=
  svc.askRadio >>= fun hostWifiInitial => bif job.idle then
    raise (runtimeError ("firmware-update called with no operations selected (no fw_info / "
      ++ "presets_info / cfg_info); the API route should have rejected this with 400"))
  else do
    modify fun _ => firmwareStart job hostWifiInitial
    svc.firmwareFrom job hostWifiInitial

end OtaServices

end RaceLink
