/-
# What a round of the firmware update leaves

A round is the work on one device.  The work itself can stop anywhere, so the facts about it are a
trail (`bodyTrail`): it disables nothing, it enables the access point of its own device only, and
it leaves what the report says of the run alone.  The round adds what the work cannot: the entry of
the device, its error, and the disabling CONFIG of the `finally`, which runs on every path.

`rounds_loop` puts the rounds together: the devices the report lists are the addresses in their
order as far as the loop came, with `ok` and `error` in agreement, and each of them was told to
disable its access point after anything that enabled one.
-/
import RaceLink.Ota.Workflow

namespace RaceLink

open Python Effects Effects.Proc

/-! ## 1. What the work on a device may do -/

/-- A call of the work on one device: a CONFIG enables the access point of that device, and the
radio is only turned on. -/
def OtaCall.ForDevice (addr : String) : OtaCall → Prop
  | .sendConfig _ data0 recv3 _ => data0 = 1 ∧ recv3BytesFromAddr addr = .ok recv3
  | .setRadio enabled => enabled = true
  | _ => True

/-- What the report says of the devices. -/
def OtaRecord.told (r : OtaRecord) : List (String × Bool × Option String) :=
  r.results.devices.map fun dev => (dev.addr, dev.ok, dev.error)

/-- The two records report the same. -/
structure OtaRecord.SameReport (s t : OtaRecord) : Prop where
  ok : t.results.ok = s.results.ok
  errors : t.results.errors = s.results.errors
  told : t.told = s.told
  files : t.results.files = s.results.files
  restored : t.results.hostWifi.restored = s.results.hostWifi.restored

namespace OtaRecord.SameReport

theorem refl (s : OtaRecord) : s.SameReport s := ⟨rfl, rfl, rfl, rfl, rfl⟩

theorem trans {s t u : OtaRecord} (h : s.SameReport t) (h' : t.SameReport u) : s.SameReport u :=
  ⟨h'.ok.trans h.ok, h'.errors.trans h.errors, h'.told.trans h.told, h'.files.trans h.files,
    h'.restored.trans h.restored⟩

end OtaRecord.SameReport

theorem modify_last {α : Type} (f : α → α) (x : α) (xs : List α) :
    (xs ++ [x]).modify ((xs ++ [x]).length - 1) f = xs ++ [f x] := by
  rw [List.length_append, List.length_singleton, Nat.add_sub_cancel]
  induction xs with
  | nil => rfl
  | cons y ys ih => exact congrArg (y :: ·) ih

/-- A mark on the entry of the device shows in what is told last, and nowhere else. -/
theorem told_withDevice {f : DeviceResult → DeviceResult}
    {g : String × Bool × Option String → String × Bool × Option String}
    (h : ∀ dev, ((f dev).addr, (f dev).ok, (f dev).error) = g (dev.addr, dev.ok, dev.error))
    {s : OtaRecord} {before : List (String × Bool × Option String)}
    {entry : String × Bool × Option String} (hs : s.told = before ++ [entry]) :
    (s.withDevice f).told = before ++ [g entry] := by
  obtain ⟨xs, last, hdevices, hxs, hlast⟩ := List.map_eq_append_iff.mp hs
  obtain ⟨dev, rest, rfl, hdev, hrest⟩ := List.map_eq_cons_iff.mp hlast
  obtain rfl := List.map_eq_nil_iff.mp hrest
  unfold OtaRecord.told OtaRecord.withDevice OtaRecord.withResults
  dsimp only
  rw [hdevices, modify_last, List.map_append, hxs, List.map_singleton, h, hdev]

/-- A mark that says the same of the device leaves everything told as it is. -/
theorem told_withDevice_same {f : DeviceResult → DeviceResult}
    (h : ∀ dev, ((f dev).addr, (f dev).ok, (f dev).error) = (dev.addr, dev.ok, dev.error))
    (s : OtaRecord) : (s.withDevice f).told = s.told := by
  rcases List.eq_nil_or_concat s.told with hnil | ⟨before, entry, hs⟩
  · have hdevices : s.results.devices = [] := List.map_eq_nil_iff.mp hnil
    unfold OtaRecord.told OtaRecord.withDevice OtaRecord.withResults
    dsimp only
    rw [hdevices]
    rfl
  · rw [List.concat_eq_append] at hs
    rw [hs]
    exact told_withDevice (g := id) h hs

theorem sameReport_withDevice {f : DeviceResult → DeviceResult}
    (h : ∀ dev, ((f dev).addr, (f dev).ok, (f dev).error) = (dev.addr, dev.ok, dev.error))
    (s : OtaRecord) : s.SameReport (s.withDevice f) :=
  ⟨rfl, rfl, told_withDevice_same h s, rfl, rfl⟩

/-- **The trail of the work on a device.** -/
def bodyTrail (addr : String) : Trail OtaRecord OtaCall where
  rel s calls t := (∀ c ∈ calls, c.ForDevice addr) ∧ s.SameReport t
  refl s := ⟨by simp, .refl s⟩
  append := by
    rintro s t u a b ⟨ha, hst⟩ ⟨hb, htu⟩
    exact ⟨fun c hc => (List.mem_append.mp hc).elim (ha c) (hb c), hst.trans htu⟩

theorem bodyTrail_call {addr : String} {c : OtaCall} (h : c.ForDevice addr) (s : OtaRecord) :
    (bodyTrail addr).rel s [c] s :=
  ⟨fun c' hc => by rwa [List.mem_singleton.mp hc], .refl s⟩

theorem bodyTrail_mark {addr : String} {s t : OtaRecord} (h : s.SameReport t) :
    (bodyTrail addr).rel s [] t := ⟨by simp, h⟩

/-! ## 2. The functions of the work -/

namespace OtaServices

variable {svc : OtaServices} {addr : String}

theorem call_follows {α : Type} {c : OtaCall} {answer : List OtaCall → Except Raised α}
    (h : c.ForDevice addr) : (call c answer : Flow α).Follows (bodyTrail addr) :=
  .call (bodyTrail_call h) answer

theorem doUpdate_follows (stage : String) : (svc.doUpdate stage).Follows (bodyTrail addr) :=
  call_follows (by trivial)

theorem enableRadio_follows : (svc.doSetRadio true).Follows (bodyTrail addr) :=
  call_follows rfl

/-- A mark on the entry of the device that says the same of it. -/
theorem device_follows {f : DeviceResult → DeviceResult}
    (h : ∀ dev, ((f dev).addr, (f dev).ok, (f dev).error) = (dev.addr, dev.ok, dev.error)) :
    (modify (OtaRecord.withDevice f) : Flow Unit).Follows (bodyTrail addr) :=
  .modify fun s => bodyTrail_mark (sameReport_withDevice h s)

/-- A mark that the report does not show. -/
theorem mark_follows {f : OtaRecord → OtaRecord} (h : ∀ s : OtaRecord, s.SameReport (f s)) :
    (modify f : Flow Unit).Follows (bodyTrail addr) :=
  .modify fun s => bodyTrail_mark (h s)

theorem hostWifi_follows :
    (modify (OtaRecord.withHostWifi · fun wifi => { wifi with enabled := true }) :
      Flow Unit).Follows (bodyTrail addr) :=
  mark_follows fun _ => ⟨rfl, rfl, rfl, rfl, rfl⟩

theorem ensureWifiReady_follows (wifi : WifiOptions) (enable initial : Bool) :
    (svc.ensureWifiReady wifi enable initial).Follows (bodyTrail addr) := by
  refine .cond ?_ (.pure false)
  refine .bind (doUpdate_follows _) fun _ => .bind enableRadio_follows fun _ => ?_
  refine .bind (call_follows (by trivial)) fun _ => ?_
  exact .bind hostWifi_follows fun _ => .pure true

theorem connectWledWifi_follows (wifi : WifiOptions) (enable changed : Bool) :
    (svc.connectWledWifi wifi enable changed).Follows (bodyTrail addr) := by
  have hconnect : (svc.doConnectAp wifi).Follows (bodyTrail addr) :=
    call_follows (by trivial)
  refine .bind (doUpdate_follows _) fun _ => .catching ?_ fun ex => .cond ?_ (.raise ex)
  · exact .bind hconnect fun matched => .pure _
  · refine .bind (doUpdate_follows _) fun _ => .bind enableRadio_follows fun _ => ?_
    refine .bind hostWifi_follows fun _ => .bind (call_follows (by trivial)) fun _ => ?_
    exact .bind hconnect fun matched => .pure _

theorem waitForNode_follows (baseUrl expectedMac : String) :
    (svc.waitForNode baseUrl expectedMac).Follows (bodyTrail addr) := by
  refine .bind (call_follows (by trivial)) fun info => ?_
  cases info with
  | none => exact .raise _
  | some info => exact .pure info

theorem wledUploadFirmware_follows (job : FirmwareJob) (path : String) :
    (svc.wledUploadFirmware job path).Follows (bodyTrail addr) := by
  refine .catching (call_follows (by trivial)) fun ex => .cond (.raise ex) ?_
  refine .bind (call_follows (by trivial)) fun unlocked => ?_
  refine .bind (.when (.raise _)) fun _ => .catching (call_follows (by trivial)) fun retryEx => ?_
  exact .cond (.raise _) (.raise retryEx)

theorem uploadAttempts_follows (job : FirmwareJob) (path : String) :
    ∀ left lastErr, (svc.uploadAttempts job path left lastErr).Follows (bodyTrail addr)
  | 0, lastErr => .pure _
  | left + 1, _ => by
    have htry : ((do
        svc.doUpdate "UPLOAD_FW"
        svc.wledUploadFirmware job path
        pure none : Flow (Option Raised))).Follows (bodyTrail addr) :=
      .bind (doUpdate_follows _) fun _ =>
        .bind (wledUploadFirmware_follows job path) fun _ => .pure none
    refine .bind (.catching htry fun ex => .pure (some ex)) fun failed => ?_
    cases failed with
    | none => exact .pure none
    | some ex =>
      refine .cond (.pure _) ?_
      exact .bind (call_follows (by trivial)) fun _ =>
        uploadAttempts_follows job path left (some ex)

theorem uploadFirmware_follows (job : FirmwareJob) (path : String) :
    (svc.uploadFirmware job path).Follows (bodyTrail addr) := by
  refine .bind (uploadAttempts_follows job path _ _) fun failed => ?_
  cases failed with
  | none => exact .pure ()
  | some lastErr => exact .raise _

theorem uploadFile_follows (job : FirmwareJob) (destName : String) (info : Option FileInfo) :
    (svc.uploadFile job destName info).Follows (bodyTrail addr) := by
  cases info with
  | none => exact .pure ()
  | some info => exact call_follows (by trivial)

/-- Enabling the access point of the device. -/
theorem enableAp_follows {α : Type} {f : Bool → Flow α}
    (hf : ∀ okAp, (f okAp).Follows (bodyTrail addr)) :
    (do
      let recv3 ← lift (recv3BytesFromAddr addr)
      let okAp ← svc.sendAp 1 recv3 true
      f okAp : Flow α).Follows (bodyTrail addr) :=
  .lift_bind fun _ hrecv3 => .bind (call_follows ⟨rfl, hrecv3⟩) hf

/-- **The work on a device**, whatever stops it. -/
theorem updateDevice_follows (job : FirmwareJob) (initial : Bool) :
    (svc.updateDevice job initial addr).Follows (bodyTrail addr) := by
  refine .bind (doUpdate_follows _) fun _ => enableAp_follows fun okAp => ?_
  refine .bind (.when (.raise _)) fun _ => .bind .get fun r => ?_
  refine .bind (connectWledWifi_follows _ _ _) fun matched => ?_
  refine .bind (mark_follows fun s => ⟨rfl, rfl, rfl, rfl, rfl⟩) fun _ => ?_
  refine .bind (device_follows fun dev => by rfl) fun _ => ?_
  refine .bind (doUpdate_follows _) fun _ => .bind (waitForNode_follows _ _) fun info => ?_
  refine .bind (device_follows fun dev => by rfl) fun _ => ?_
  refine .bind (uploadFile_follows job _ _) fun _ => .bind (uploadFile_follows job _ _) fun _ => ?_
  cases job.fwInfo with
  | none => exact .pure ()
  | some info => exact uploadFirmware_follows job info.path

/-- The work of a preset download, up to where it lists the files. -/
theorem fetchPresets_follows (job : PresetsJob) (initial : Bool) :
    (svc.fetchPresets job initial).Follows (bodyTrail job.mac) := by
  refine .bind (ensureWifiReady_follows _ _ _) fun changed => .bind (doUpdate_follows _) fun _ => ?_
  refine enableAp_follows fun okAp => .bind (.when (.raise _)) fun _ => ?_
  refine .bind (connectWledWifi_follows _ _ _) fun matched => ?_
  refine .bind (mark_follows fun s => ⟨rfl, rfl, rfl, rfl, rfl⟩) fun _ => ?_
  refine .bind (doUpdate_follows _) fun _ => .bind (waitForNode_follows _ _) fun info => ?_
  refine .bind (doUpdate_follows _) fun _ => .bind (call_follows (by trivial)) fun payload => ?_
  refine .bind (call_follows (by trivial)) fun saved => ?_
  refine .bind (mark_follows fun s => ⟨rfl, rfl, rfl, rfl, rfl⟩) fun _ => ?_
  exact call_follows (by trivial)

end OtaServices

/-! ## 3. Access points, on and off -/

/-- The address is that of the receiver. -/
def isReceiver (recv3 : List UInt8) (addr : String) : Bool :=
  match recv3BytesFromAddr addr with
  | .ok own => own = recv3
  | .error _ => false

theorem isReceiver_iff {recv3 : List UInt8} {addr : String} :
    isReceiver recv3 addr = true ↔ recv3BytesFromAddr addr = .ok recv3 := by
  unfold isReceiver
  cases recv3BytesFromAddr addr with
  | ok own => simp
  | error e => simp

/-- What a call tells the access point of a receiver: on, off, or nothing. -/
def OtaCall.switches (recv3 : List UInt8) : OtaCall → Option Bool
  | .sendConfig option data0 receiver _ =>
    if option = 0x04 ∧ receiver = recv3 then some (data0 ≠ 0) else none
  | _ => none

/-- What the access point was last told. -/
def lastSwitch (recv3 : List UInt8) (calls : List OtaCall) : Option Bool :=
  (calls.filterMap (OtaCall.switches recv3)).getLast?

theorem lastSwitch_append (recv3 : List UInt8) (a b : List OtaCall) :
    lastSwitch recv3 (a ++ b) = (lastSwitch recv3 b).or (lastSwitch recv3 a) := by
  rw [lastSwitch, List.filterMap_append, List.getLast?_append]
  rfl

theorem lastSwitch_eq_none {recv3 : List UInt8} {calls : List OtaCall}
    (h : ∀ c ∈ calls, c.switches recv3 = none) : lastSwitch recv3 calls = none := by
  rw [lastSwitch, List.filterMap_eq_nil_iff.mpr h, List.getLast?_nil]

/-- Calls that tell it nothing do not change the last word. -/
theorem lastSwitch_append_quiet {recv3 : List UInt8} {a b : List OtaCall}
    (h : ∀ c ∈ b, c.switches recv3 = none) : lastSwitch recv3 (a ++ b) = lastSwitch recv3 a := by
  rw [lastSwitch_append, lastSwitch_eq_none h, Option.none_or]

/-- What the work on a device tells an access point. -/
theorem switches_forDevice {addr : String} {c : OtaCall} (h : c.ForDevice addr)
    {recv3 : List UInt8} {on : Bool} (hc : c.switches recv3 = some on) :
    on = true ∧ recv3BytesFromAddr addr = .ok recv3 := by
  cases c with
  | sendConfig option data0 receiver waitForAck =>
    obtain ⟨rfl, hreceiver⟩ := h
    rw [OtaCall.switches] at hc
    split at hc
    · next hfor =>
      obtain ⟨-, rfl⟩ := hfor
      cases hc
      exact ⟨by decide, hreceiver⟩
    · cases hc
  | _ => cases hc

/-- The work on a device only enables, and only the device's own access point. -/
theorem lastSwitch_forDevice {addr : String} {calls : List OtaCall}
    (h : ∀ c ∈ calls, c.ForDevice addr) {recv3 : List UInt8} {on : Bool}
    (hlast : lastSwitch recv3 calls = some on) :
    on = true ∧ recv3BytesFromAddr addr = .ok recv3 := by
  obtain ⟨c, hc, hswitch⟩ := List.mem_filterMap.mp (List.mem_of_getLast? hlast)
  exact switches_forDevice (h c hc) hswitch

/-- At no moment of the calls has more than one access point been enabled by them and not disabled
again. -/
def OneAtOnce (calls : List OtaCall) : Prop :=
  ∀ pre, pre <+: calls → ∃ current, ∀ recv3, lastSwitch recv3 pre = some true → recv3 = current

theorem oneAtOnce_nil : OneAtOnce [] := by
  intro pre hpre
  obtain rfl := List.prefix_nil.mp hpre
  exact ⟨[], fun recv3 h => by cases h⟩

/-- Calls that leave none enabled can be followed by others. -/
theorem OneAtOnce.append {a b : List OtaCall} (ha : OneAtOnce a) (hb : OneAtOnce b)
    (hclosed : ∀ recv3, lastSwitch recv3 a ≠ some true) : OneAtOnce (a ++ b) := by
  intro pre hpre
  rcases List.prefix_or_prefix_of_prefix hpre (List.prefix_append a b) with hpre | ⟨rest, rfl⟩
  · exact ha pre hpre
  · obtain ⟨current, hcurrent⟩ := hb rest ((List.prefix_append_right_inj a).mp hpre)
    refine ⟨current, fun recv3 h => hcurrent recv3 ?_⟩
    rw [lastSwitch_append] at h
    cases hlast : lastSwitch recv3 rest with
    | none =>
      rw [hlast, Option.none_or] at h
      exact absurd h (hclosed recv3)
    | some on =>
      rw [hlast, Option.some_or] at h
      exact h

/-- A call that tells no access point anything but the device's own. -/
def OtaCall.OnlyFor (addr : String) (c : OtaCall) : Prop :=
  ∀ recv3 on, c.switches recv3 = some on → recv3BytesFromAddr addr = .ok recv3

theorem OtaCall.ForDevice.onlyFor {addr : String} {c : OtaCall} (h : c.ForDevice addr) :
    c.OnlyFor addr := fun _ _ hc => (switches_forDevice h hc).2

/-- Where no other access point is told anything, at most one is enabled. -/
theorem oneAtOnce_onlyFor {addr : String} {calls : List OtaCall}
    (h : ∀ c ∈ calls, c.OnlyFor addr) : OneAtOnce calls := by
  intro pre hpre
  have hown : ∀ recv3, lastSwitch recv3 pre = some true →
      recv3BytesFromAddr addr = .ok recv3 := by
    intro recv3 hlast
    obtain ⟨c, hc, hswitch⟩ := List.mem_filterMap.mp (List.mem_of_getLast? hlast)
    exact h c (hpre.subset hc) recv3 true hswitch
  cases hrecv3 : recv3BytesFromAddr addr with
  | ok recv3 =>
    exact ⟨recv3, fun recv3' hlast => Except.ok.inj ((hown recv3' hlast).symm.trans hrecv3)⟩
  | error e =>
    exact ⟨[], fun recv3' hlast => by cases (hown recv3' hlast).symm.trans hrecv3⟩

/-! ## 4. A round -/

/-- What is left of the rounds that told `new`. -/
structure Rounds (s : OtaRecord) (calls : List OtaCall) (t : OtaRecord)
    (new : List (String × Bool × Option String)) : Prop where
  told : t.told = s.told ++ new
  agree : ∀ entry ∈ new, entry.2.1 = true ↔ entry.2.2 = none
  errors : t.results.errors
    = s.results.errors ++ (new.filterMap (·.2.2)).map fun text => [.text text]
  ok : t.results.ok = s.results.ok
  restored : t.results.hostWifi.restored = s.results.hostWifi.restored
  switches : ∀ recv3, lastSwitch recv3 calls
    = bif new.any (fun entry => isReceiver recv3 entry.1) then some false else none
  single : OneAtOnce calls
  radio : ∀ c ∈ calls, c ≠ .setRadio false

theorem Rounds.refl (s : OtaRecord) : Rounds s [] s [] where
  told := (List.append_nil _).symm
  agree := by simp
  errors := by simp
  ok := rfl
  restored := rfl
  switches recv3 := by simp [lastSwitch]
  single := oneAtOnce_nil
  radio := by simp

theorem Rounds.append {s t u : OtaRecord} {a b : List OtaCall}
    {new new' : List (String × Bool × Option String)} (h : Rounds s a t new)
    (h' : Rounds t b u new') : Rounds s (a ++ b) u (new ++ new') where
  told := by rw [h'.told, h.told, List.append_assoc]
  agree entry he := (List.mem_append.mp he).elim (h.agree entry) (h'.agree entry)
  errors := by rw [h'.errors, h.errors, List.filterMap_append, List.map_append, List.append_assoc]
  ok := h'.ok.trans h.ok
  restored := h'.restored.trans h.restored
  switches recv3 := by
    rw [lastSwitch_append, h.switches, h'.switches, List.any_append]
    cases new.any fun entry => isReceiver recv3 entry.1 <;>
      cases new'.any fun entry => isReceiver recv3 entry.1 <;> rfl
  single := by
    refine h.single.append h'.single fun recv3 hlast => ?_
    rw [h.switches] at hlast
    cases hnew : new.any fun entry => isReceiver recv3 entry.1 <;> rw [hnew] at hlast <;>
      cases hlast
  radio c hc := (List.mem_append.mp hc).elim (h.radio c) (h'.radio c)

/-- Calls and marks of the work, before there is an entry. -/
theorem Rounds.of_quiet {s t : OtaRecord} {calls : List OtaCall} (hst : s.SameReport t)
    (hquiet : ∀ c ∈ calls, ∀ recv3, c.switches recv3 = none)
    (hradio : ∀ c ∈ calls, c ≠ .setRadio false) : Rounds s calls t [] where
  told := by rw [hst.told, List.append_nil]
  agree := by simp
  errors := by rw [hst.errors]; simp
  ok := hst.ok
  restored := hst.restored
  switches recv3 := by
    rw [lastSwitch_eq_none fun c hc => hquiet c hc recv3]
    rfl
  single pre hpre := by
    refine ⟨[], fun recv3 hlast => ?_⟩
    rw [lastSwitch_eq_none fun c hc => hquiet c (hpre.subset hc) recv3] at hlast
    cases hlast
  radio := hradio

/-- The disabling CONFIG, for an address that has a receiver. -/
def closingCalls (addr : String) (waitForAck : Bool) : List OtaCall :=
  match recv3BytesFromAddr addr with
  | .ok recv3 => [.sendConfig 0x04 0 recv3 waitForAck]
  | .error _ => []

theorem closeAp_run (svc : OtaServices) (addr : String) (waitForAck : Bool) (s : OtaRecord)
    (past : List OtaCall) :
    svc.closeAp addr waitForAck s past = ⟨.ok (), s, closingCalls addr waitForAck⟩ := by
  unfold OtaServices.closeAp closingCalls
  cases hrecv3 : recv3BytesFromAddr addr with
  | error e => rfl
  | ok recv3 =>
    have hsend : ∀ past, (svc.sendAp 0 recv3 waitForAck >>= fun _ => (pure () : Flow Unit)) s past
        = ⟨((svc.sendConfig (past ++ [.sendConfig 0x04 0 recv3 waitForAck])).map fun _ => ()), s,
            [.sendConfig 0x04 0 recv3 waitForAck]⟩ := by
      intro past
      cases hanswer : svc.sendConfig (past ++ [.sendConfig 0x04 0 recv3 waitForAck]) with
      | ok acked =>
        exact bind_ok (call_run s hanswer)
      | error e =>
        exact bind_error (call_run s hanswer)
    have hbody : (lift (.ok recv3) >>= fun recv3 => svc.sendAp 0 recv3 waitForAck >>= fun _ =>
        (pure () : Flow Unit)) s past
          = ⟨((svc.sendConfig (past ++ [.sendConfig 0x04 0 recv3 waitForAck])).map fun _ => ()), s,
            [.sendConfig 0x04 0 recv3 waitForAck]⟩ := by
      rw [lift_ok_bind, hsend past]
    cases hanswer : svc.sendConfig (past ++ [.sendConfig 0x04 0 recv3 waitForAck]) with
    | ok acked =>
      rw [hanswer] at hbody
      exact catching_ok hbody
    | error e =>
      rw [hanswer] at hbody
      exact catching_error hbody

theorem lastSwitch_closingCalls (addr : String) (waitForAck : Bool) (recv3 : List UInt8) :
    lastSwitch recv3 (closingCalls addr waitForAck)
      = bif isReceiver recv3 addr then some false else none := by
  unfold closingCalls isReceiver
  cases recv3BytesFromAddr addr with
  | error e => rfl
  | ok own =>
    by_cases hown : own = recv3
    · simp [lastSwitch, OtaCall.switches, hown]
    · simp [lastSwitch, OtaCall.switches, hown]

theorem closingCalls_onlyFor {addr : String} {waitForAck : Bool} {c : OtaCall}
    (hc : c ∈ closingCalls addr waitForAck) : c.OnlyFor addr := by
  unfold closingCalls at hc
  cases hrecv3 : recv3BytesFromAddr addr with
  | error e =>
    rw [hrecv3] at hc
    cases hc
  | ok own =>
    rw [hrecv3] at hc
    obtain rfl := List.mem_singleton.mp hc
    intro recv3 on hswitch
    rw [OtaCall.switches] at hswitch
    split at hswitch
    · next h => rw [hrecv3, h.2]
    · cases hswitch

theorem radio_of_closingCalls {addr : String} {waitForAck : Bool} {c : OtaCall}
    (hc : c ∈ closingCalls addr waitForAck) : c ≠ .setRadio false := by
  rintro rfl
  unfold closingCalls at hc
  split at hc <;> simp at hc

theorem radio_of_forDevice {addr : String} {c : OtaCall} (h : c.ForDevice addr) :
    c ≠ .setRadio false := by
  rintro rfl
  cases h

/-- The `try` and the `except` of one device. -/
structure Tried (addr : String) (stopOnError : Bool) (s : OtaRecord)
    (o : Outcome OtaRecord OtaCall Raised Unit) (error : Option String) : Prop where
  told : ∀ before, s.told = before ++ [(addr, false, none)] →
    o.state.told = before ++ [(addr, error.isNone, error)]
  errors : o.state.results.errors
    = s.results.errors ++ error.toList.map fun text => [.text text]
  ok : o.state.results.ok = s.results.ok
  restored : o.state.results.hostWifi.restored = s.results.hostWifi.restored
  calls : ∀ c ∈ o.calls, c.ForDevice addr
  goesOn : o.result = .ok () ↔ (stopOnError = true → error = none)

namespace OtaServices

variable (svc : OtaServices)

/-- `attemptDevice` without its `finally`. -/
def tryDevice (job : FirmwareJob) (hostWifiInitial : Bool) (addr : String) : Flow Unit :=
  (do
    svc.updateDevice job hostWifiInitial addr
    modify (OtaRecord.withDevice fun dev => { dev with ok := true })).catching fun ex => do
      modify fun r => (r.withDevice fun dev => { dev with error := some ex.shown }).note
        [.text ex.shown]
      when job.stopOnError (raise ex)

theorem attemptDevice_eq (job : FirmwareJob) (hostWifiInitial : Bool) (addr : String) :
    svc.attemptDevice job hostWifiInitial addr
      = (svc.tryDevice job hostWifiInitial addr).lastly (svc.closeAp addr false) := rfl

theorem tryDevice_attempt (job : FirmwareJob) (initial : Bool) (addr : String) (s : OtaRecord)
    (past : List OtaCall) :
    ∃ error, Tried addr job.stopOnError s (svc.tryDevice job initial addr s past) error := by
  have hfollows : (svc.updateDevice job initial addr).Follows (bodyTrail addr) :=
    updateDevice_follows job initial
  obtain ⟨hcalls, hsame⟩ := hfollows s past
  rcases hwork : svc.updateDevice job initial addr s past with ⟨result, t, calls⟩
  rw [hwork] at hcalls hsame
  cases result with
  | ok u =>
    have hrun : svc.tryDevice job initial addr s past
        = ⟨.ok (), t.withDevice fun dev => { dev with ok := true }, calls⟩ :=
      catching_ok (bind_modify hwork)
    refine ⟨none, ?_⟩
    rw [hrun]
    refine ⟨fun before hs => ?_, ?_, hsame.ok, hsame.restored, hcalls, ?_⟩
    · exact told_withDevice (g := fun entry => (entry.1, true, entry.2.2)) (fun dev => rfl)
        (hsame.told.trans hs)
    · exact hsame.errors.trans (List.append_nil _).symm
    · exact iff_of_true rfl fun _ => rfl
  | error ex =>
    have hrun : svc.tryDevice job initial addr s past
        = ⟨bif job.stopOnError then .error ex else .ok (),
            (t.withDevice fun dev => { dev with error := some ex.shown }).note [.text ex.shown],
            calls⟩ := by
      refine (catching_error (bind_error hwork)).trans ?_
      rw [andThen, modify_bind]
      cases job.stopOnError <;> exact congrArg (Outcome.mk _ _) (List.append_nil calls)
    refine ⟨some ex.shown, ?_⟩
    rw [hrun]
    refine ⟨fun before hs => ?_, ?_, hsame.ok, hsame.restored, hcalls, ?_⟩
    · exact told_withDevice (g := fun entry => (entry.1, entry.2.1, some ex.shown)) (fun dev => rfl)
        (hsame.told.trans hs)
    · exact congrArg (· ++ [[Frag.text ex.shown]]) hsame.errors
    · cases job.stopOnError <;> simp

/-- **The end of a device**: whatever stopped the work, the calls end with the disabling CONFIG. -/
theorem attemptDevice_run (job : FirmwareJob) (initial : Bool) (addr : String) (s : OtaRecord)
    (past : List OtaCall) :
    svc.attemptDevice job initial addr s past
      = ⟨(svc.tryDevice job initial addr s past).result,
          (svc.tryDevice job initial addr s past).state,
          (svc.tryDevice job initial addr s past).calls ++ closingCalls addr false⟩ := by
  rw [attemptDevice_eq]
  exact lastly_ok rfl (closeAp_run svc addr false _ _)

/-- **A round that came to its entry.** -/
theorem rounds_attempt {addr : String} {s : OtaRecord} {entry : DeviceResult} {calls : List OtaCall}
    {stopOnError : Bool} {o : Outcome OtaRecord OtaCall Raised Unit} {error : Option String}
    (hentry : (entry.addr, entry.ok, entry.error) = (addr, false, none))
    (h : Tried addr stopOnError
      (s.withEntry entry) o error)
    (hcalls : calls = .devicesProvider :: (o.calls ++ closingCalls addr false)) :
    Rounds s calls o.state [(addr, error.isNone, error)] := by
  have htold : (s.withEntry entry).told = s.told ++ [(addr, false, none)] := by
    rw [← hentry]
    exact List.map_append
  have honly : ∀ c ∈ calls, c.OnlyFor addr := by
    rw [hcalls]
    refine List.forall_mem_cons.mpr ⟨fun recv3 on hc => (by cases hc), fun c hc => ?_⟩
    exact (List.mem_append.mp hc).elim (fun hc => (h.calls c hc).onlyFor)
      fun hc => closingCalls_onlyFor hc
  refine ⟨h.told s.told htold, ?_, ?_, h.ok, h.restored, fun recv3 => ?_, oneAtOnce_onlyFor honly,
    fun c hc => ?_⟩
  · simp
  · rw [h.errors]
    cases error <;> rfl
  · have hwork : isReceiver recv3 addr = false → lastSwitch recv3 o.calls = none := by
      intro hother
      cases hlast : lastSwitch recv3 o.calls with
      | none => rfl
      | some on =>
        have hown := isReceiver_iff.mpr (lastSwitch_forDevice h.calls hlast).2
        rw [hother] at hown
        cases hown
    rw [hcalls, ← List.singleton_append, lastSwitch_append, lastSwitch_append,
      lastSwitch_closingCalls, List.any_cons, List.any_nil, Bool.or_false]
    cases hown : isReceiver recv3 addr with
    | true => rfl
    | false =>
      rw [hwork hown]
      rfl
  · rw [hcalls] at hc
    rcases List.mem_cons.mp hc with rfl | hc
    · intro h
      cases h
    · rcases List.mem_append.mp hc with hc | hc
      · exact radio_of_forDevice (h.calls c hc)
      · exact radio_of_closingCalls hc

/-- What came of a round: it went on, unless it had to stop. -/
def roundEnd (stopOnError : Bool) (addrs : List String) (new : List (String × Bool × Option String))
    (result : Except Raised Unit) : Prop :=
  new.map (·.1) <+: addrs ∧
    (result = .ok () ↔
      new.map (·.1) = addrs ∧ (stopOnError = true → ∀ entry ∈ new, entry.2.2 = none))

theorem deviceRound_ok (job : FirmwareJob) (initial : Bool) (addr : String) {s : OtaRecord}
    {past : List OtaCall} {devices : List (String × Nat)}
    (hanswer : svc.devicesProvider (past ++ [.devicesProvider]) = .ok devices) :
    svc.deviceRound job initial addr s past
      = let o := svc.tryDevice job initial addr (s.withEntry (newEntry addr devices))
          (past ++ [.devicesProvider])
        ⟨o.result, o.state, .devicesProvider :: (o.calls ++ closingCalls addr false)⟩ := by
  refine (bind_ok (call_run s hanswer)).trans ?_
  rw [andThen, modify_bind, attemptDevice_run]
  rfl

theorem deviceRound_rounds (job : FirmwareJob) (initial : Bool) (addr : String) (s : OtaRecord)
    (past : List OtaCall) :
    ∃ new, Rounds s (svc.deviceRound job initial addr s past).calls
        (svc.deviceRound job initial addr s past).state new ∧
      roundEnd job.stopOnError [addr] new (svc.deviceRound job initial addr s past).result := by
  cases hanswer : svc.devicesProvider (past ++ [.devicesProvider]) with
  | error e =>
    rw [show svc.deviceRound job initial addr s past = ⟨.error e, s, [.devicesProvider]⟩ from
      bind_error (call_run s hanswer)]
    refine ⟨[], .of_quiet (.refl s) ?_ ?_, List.nil_prefix, ?_⟩
    · simp [OtaCall.switches]
    · simp
    · simp
  | ok devices =>
    obtain ⟨error, hattempt⟩ := svc.tryDevice_attempt job initial addr
      (s.withEntry (newEntry addr devices)) (past ++ [.devicesProvider])
    have hrounds := rounds_attempt (by rfl) hattempt (Eq.refl _)
    rw [svc.deviceRound_ok job initial addr hanswer]
    refine ⟨_, hrounds, List.prefix_refl _, hattempt.goesOn.trans ?_⟩
    simp

/-- **The loop over the devices.** -/
theorem rounds_loop (job : FirmwareJob) (initial : Bool) (macs : List String) (i : Nat)
    (s : OtaRecord) (past : List OtaCall) :
    ∃ new, Rounds s (forEach (fun _ addr => svc.deviceRound job initial addr) i macs s past).calls
        (forEach (fun _ addr => svc.deviceRound job initial addr) i macs s past).state new ∧
      roundEnd job.stopOnError macs new
        (forEach (fun _ addr => svc.deviceRound job initial addr) i macs s past).result := by
  induction macs generalizing i s past with
  | nil => exact ⟨[], .refl s, List.prefix_refl _, by simp [forEach, pure_run]⟩
  | cons addr macs ih =>
    obtain ⟨new, hround, hprefix, hend⟩ := svc.deviceRound_rounds job initial addr s past
    rcases hrun : svc.deviceRound job initial addr s past with ⟨result, t, calls⟩
    rw [hrun] at hround hend
    cases result with
    | error e =>
      have hloop : forEach (fun _ addr => svc.deviceRound job initial addr) i (addr :: macs) s past
          = ⟨.error e, t, calls⟩ := bind_error hrun
      rw [hloop]
      refine ⟨new, hround, hprefix.trans ⟨macs, rfl⟩, iff_of_false (fun h => by cases h) ?_⟩
      rintro ⟨hall, hgood⟩
      have hlength : (addr :: macs).length ≤ [addr].length := hall ▸ hprefix.length_le
      obtain rfl : macs = [] := List.eq_nil_of_length_eq_zero (by simpa using hlength)
      cases hend.mpr ⟨hall, hgood⟩
    | ok u =>
      obtain ⟨new', hrounds, hprefix', hend'⟩ := ih (i + 1) t (past ++ calls)
      have hloop : forEach (fun _ addr => svc.deviceRound job initial addr) i (addr :: macs) s past
          = andThen ⟨.ok u, t, calls⟩ past
              (forEach (fun _ addr => svc.deviceRound job initial addr) (i + 1) macs) :=
        bind_ok hrun
      rw [hloop]
      obtain ⟨hnew, hgood⟩ := hend.mp rfl
      refine ⟨new ++ new', hround.append hrounds, ?_, hend'.trans ?_⟩
      · rw [List.map_append, hnew]
        exact List.cons_prefix_cons.mpr ⟨rfl, hprefix'⟩
      · rw [List.map_append, hnew, List.singleton_append, List.cons_inj_right]
        refine and_congr_right fun _ => imp_congr_right fun hstop => ?_
        rw [List.forall_mem_append]
        exact (and_iff_right (hgood hstop)).symm

end OtaServices

/-! ## 5. Going back -/

/-- The record after `disconnect_ap`. -/
def noteDisconnect (s : OtaRecord) : Except Raised Unit → OtaRecord
  | .ok () => s
  | .error ex => s.note [.text "Host WiFi cleanup: disconnect from ",
      .repr (.str s.connectedSsid), .text (" failed: " ++ ex.shown)]

/-- The record after the radio was to go off. -/
def noteRadioOff (s : OtaRecord) : Except Raised Unit → OtaRecord
  | .ok () => s.withHostWifi fun wifi => { wifi with enabled := false, restored := true }
  | .error ex => (s.note [.text ("Host WiFi restore failed: " ++ ex.shown)]).fail

namespace OtaServices

variable (svc : OtaServices)

/-- **Going back**: a failed disconnect keeps the radio from going off as little as it keeps the
workflow from returning. -/
theorem releaseHostWifi_run (s : OtaRecord) (past : List OtaCall) :
    (svc.releaseHostWifi.catching fun ex =>
      modify fun r => (r.note [.text ("Host WiFi restore failed: " ++ ex.shown)]).fail) s past
      = ⟨.ok (), noteRadioOff
          (noteDisconnect s (svc.disconnectAp (past ++ [.disconnectAp s.connectedSsid])))
          (svc.setRadio (past ++ [.disconnectAp s.connectedSsid] ++ [.setRadio false])),
          [.disconnectAp s.connectedSsid, .setRadio false]⟩ := by
  have hnote : ((call (.disconnectAp s.connectedSsid) svc.disconnectAp : Flow Unit).catching
      fun ex => modify (OtaRecord.note [.text "Host WiFi cleanup: disconnect from ",
        .repr (.str s.connectedSsid), .text (" failed: " ++ ex.shown)])) s past
      = ⟨.ok (), noteDisconnect s (svc.disconnectAp (past ++ [.disconnectAp s.connectedSsid])),
          [.disconnectAp s.connectedSsid]⟩ := by
    cases hanswer : svc.disconnectAp (past ++ [.disconnectAp s.connectedSsid]) with
    | ok u => exact catching_ok (call_run s hanswer)
    | error ex => exact catching_error (call_run s hanswer)
  have hget : (get : Flow OtaRecord) s past = ⟨.ok s, s, []⟩ := rfl
  generalize noteDisconnect s (svc.disconnectAp (past ++ [.disconnectAp s.connectedSsid])) = noted
    at hnote ⊢
  cases hoff : svc.setRadio (past ++ [.disconnectAp s.connectedSsid] ++ [.setRadio false]) with
  | ok u =>
    have hsend : svc.doSetRadio false noted (past ++ [.disconnectAp s.connectedSsid])
        = ⟨.ok u, noted, [.setRadio false]⟩ := call_run noted hoff
    refine catching_ok ((bind_ok hget).trans ?_)
    rw [andThen_silent]
    refine (bind_ok hnote).trans ?_
    rw [andThen, bind_modify hsend]
    rfl
  | error ex =>
    have hsend : svc.doSetRadio false noted (past ++ [.disconnectAp s.connectedSsid])
        = ⟨.error ex, noted, [.setRadio false]⟩ := call_run noted hoff
    have hrun : svc.releaseHostWifi s past
        = ⟨.error ex, noted, [.disconnectAp s.connectedSsid, .setRadio false]⟩ := by
      refine (bind_ok hget).trans ?_
      rw [andThen_silent]
      refine (bind_ok hnote).trans ?_
      rw [andThen, bind_error hsend]
      rfl
    exact catching_error hrun

/-- The record after going back from `s`, when the radio is on and was off. -/
def wentBack (s : OtaRecord) (past : List OtaCall) : OtaRecord :=
  let history := past ++ [.radioEnabled] ++ [.disconnectAp s.connectedSsid]
  noteRadioOff (noteDisconnect s (svc.disconnectAp history))
    (svc.setRadio (history ++ [.setRadio false]))

/-- The workflow goes back. -/
def GoesBack (restore initial : Bool) (past : List OtaCall) : Prop :=
  restore = true ∧ initial = false ∧ svc.radioEnabled (past ++ [.radioEnabled]) = true

/-- `_restore_host_wifi` goes back, or does nothing but ask for the radio. -/
theorem restoreHostWifi_run (restore initial : Bool) (s : OtaRecord) (past : List OtaCall) :
    (svc.GoesBack restore initial past ∧ svc.restoreHostWifi restore initial s past
      = ⟨.ok (), svc.wentBack s past,
          [.radioEnabled, .disconnectAp s.connectedSsid, .setRadio false]⟩) ∨
    (¬ svc.GoesBack restore initial past ∧ ∃ asked, (∀ c ∈ asked, c = .radioEnabled) ∧
      svc.restoreHostWifi restore initial s past = ⟨.ok (), s, asked⟩) := by
  cases hasks : restore && !initial with
  | false =>
    refine .inr ⟨fun hback => ?_, [], by simp, ?_⟩
    · obtain ⟨rfl, rfl, -⟩ := hback
      cases hasks
    · rw [restoreHostWifi, hasks]
      rfl
  | true =>
    obtain ⟨rfl, hinitial⟩ := Bool.and_eq_true_iff.mp hasks
    obtain rfl : initial = false := by simpa using hinitial
    have hask : svc.askRadio s past
        = ⟨.ok (svc.radioEnabled (past ++ [.radioEnabled])), s, [.radioEnabled]⟩ := rfl
    cases hradio : svc.radioEnabled (past ++ [.radioEnabled]) with
    | false =>
      refine .inr ⟨fun hback => ?_, [.radioEnabled], by simp, ?_⟩
      · cases hback.2.2.symm.trans hradio
      · rw [hradio] at hask
        exact (bind_ok hask).trans rfl
    | true =>
      refine .inl ⟨⟨rfl, rfl, hradio⟩, ?_⟩
      rw [hradio] at hask
      refine (bind_ok hask).trans ?_
      rw [andThen]
      exact congrArg (fun o : Outcome OtaRecord OtaCall Raised Unit =>
        (⟨o.result, o.state, .radioEnabled :: o.calls⟩ : Outcome OtaRecord OtaCall Raised Unit))
        (svc.releaseHostWifi_run s (past ++ [.radioEnabled]))

end OtaServices

/-! ## 6. The report of a firmware update -/

/-- A call of the work on a device without an address tells no access point anything. -/
theorem switches_of_forNone {c : OtaCall} (h : c.ForDevice "") (recv3 : List UInt8) :
    c.switches recv3 = none := by
  cases hswitch : c.switches recv3 with
  | none => rfl
  | some on => cases (switches_forDevice h hswitch).2

namespace OtaServices

variable (svc : OtaServices)

/-- The `try` of the firmware update.  Without a device the way it ends says nothing of the
rounds. -/
theorem firmwareBody_rounds (job : FirmwareJob) (initial : Bool) (s : OtaRecord)
    (past : List OtaCall) :
    ∃ new, Rounds s (svc.firmwareBody job initial s past).calls
        (svc.firmwareBody job initial s past).state new ∧ new.map (·.1) <+: job.macs ∧
      (job.macs ≠ [] →
        roundEnd job.stopOnError job.macs new (svc.firmwareBody job initial s past).result) := by
  have hfollows : (svc.ensureWifiReady job.wifi job.hostWifiEnable initial).Follows
      (bodyTrail "") := ensureWifiReady_follows _ _ _
  obtain ⟨hcalls, hsame⟩ := hfollows s past
  rcases hready : svc.ensureWifiReady job.wifi job.hostWifiEnable initial s past
    with ⟨result, t, calls⟩
  rw [hready] at hcalls hsame
  have hquiet : Rounds s calls t [] := .of_quiet hsame
    (fun c hc => switches_of_forNone (hcalls c hc)) fun c hc => radio_of_forDevice (hcalls c hc)
  cases result with
  | error e =>
    rw [show svc.firmwareBody job initial s past = ⟨.error e, t, calls⟩ from bind_error hready]
    refine ⟨[], hquiet, List.nil_prefix, fun hmacs => ⟨List.nil_prefix, ?_⟩⟩
    exact iff_of_false (fun h => by cases h) fun h => hmacs h.1.symm
  | ok changed =>
    obtain ⟨new, hrounds, hend⟩ := svc.rounds_loop job initial job.macs 1 t (past ++ calls)
    rw [show svc.firmwareBody job initial s past = andThen ⟨.ok changed, t, calls⟩ past
      (forEach (fun _ addr => svc.deviceRound job initial addr) 1 job.macs) from bind_ok hready]
    exact ⟨new, hquiet.append hrounds, hend.1, fun _ => hend⟩

/-- The `try` and the `except` of the firmware update. -/
def tryFirmware (job : FirmwareJob) (hostWifiInitial : Bool) : Flow Unit :=
  (svc.firmwareBody job hostWifiInitial).catching fun _ => modify OtaRecord.fail

/-- What the firmware update has reported when it goes back. -/
structure Reported (job : FirmwareJob) (o : Outcome OtaRecord OtaCall Raised Unit)
    (new : List (String × Bool × Option String)) : Prop where
  result : o.result = .ok ()
  told : o.state.told = new
  agree : ∀ entry ∈ new, entry.2.1 = true ↔ entry.2.2 = none
  errors : o.state.results.errors = (new.filterMap (·.2.2)).map fun text => [.text text]
  restored : o.state.results.hostWifi.restored = false
  inOrder : new.map (·.1) <+: job.macs
  ok : job.macs ≠ [] → (o.state.results.ok = true ↔
    new.map (·.1) = job.macs ∧ (job.stopOnError = true → ∀ entry ∈ new, entry.2.2 = none))
  switches : ∀ recv3, lastSwitch recv3 o.calls
    = bif new.any (fun entry => isReceiver recv3 entry.1) then some false else none
  single : OneAtOnce o.calls
  radio : ∀ c ∈ o.calls, c ≠ .setRadio false

theorem tryFirmware_reported (job : FirmwareJob) (initial : Bool) (past : List OtaCall) :
    ∃ new, Reported job (svc.tryFirmware job initial (firmwareStart job initial) past) new := by
  obtain ⟨new, h, hprefix, hend⟩ :=
    svc.firmwareBody_rounds job initial (firmwareStart job initial) past
  rcases hbody : svc.firmwareBody job initial (firmwareStart job initial) past
    with ⟨result, t, calls⟩
  rw [hbody] at h hend
  refine ⟨new, ?_⟩
  cases result with
  | ok u =>
    rw [show svc.tryFirmware job initial (firmwareStart job initial) past = ⟨.ok u, t, calls⟩ from
      catching_ok hbody]
    exact ⟨rfl, h.told, h.agree, h.errors, h.restored, hprefix,
      fun hmacs => iff_of_true h.ok ((hend hmacs).2.mp rfl), h.switches, h.single, h.radio⟩
  | error e =>
    have hrun : svc.tryFirmware job initial (firmwareStart job initial) past
        = ⟨.ok (), t.fail, calls⟩ := by
      refine (catching_error hbody).trans ?_
      exact congrArg (Outcome.mk _ _) (List.append_nil calls)
    rw [hrun]
    exact ⟨rfl, h.told, h.agree, h.errors, h.restored, hprefix,
      fun hmacs => iff_of_false (fun h => by cases h) fun hgood => (by
        cases (hend hmacs).2.mpr hgood),
      h.switches, h.single, h.radio⟩

/-- `run_firmware_update` with something to do: the `try`, and `_restore_host_wifi`. -/
theorem runFirmwareUpdate_run {job : FirmwareJob} (hops : job.idle = false) (s : OtaRecord)
    (past : List OtaCall) :
    let initial := svc.radioEnabled (past ++ [.radioEnabled])
    let o := svc.firmwareFrom job initial (firmwareStart job initial) (past ++ [.radioEnabled])
    svc.runFirmwareUpdate job s past = ⟨o.result, o.state, .radioEnabled :: o.calls⟩ := by
  have hask : svc.askRadio s past
      = ⟨.ok (svc.radioEnabled (past ++ [.radioEnabled])), s, [.radioEnabled]⟩ := rfl
  refine (bind_ok hask).trans ?_
  rw [andThen, hops, cond_false, modify_bind]
  rfl

/-- What is left of a report by going back. -/
structure BackFrom (o o' : Outcome OtaRecord OtaCall Raised Unit) : Prop where
  result : o'.result = .ok ()
  devices : o'.state.results.devices = o.state.results.devices
  files : o'.state.results.files = o.state.results.files
  notes : ∃ notes, o'.state.results.errors = o.state.results.errors ++ notes ∧ notes.length ≤ 2
  ok : o'.state.results.ok = true ↔ o.state.results.ok = true ∧
    ¬ (.setRadio false ∈ o'.calls ∧ o'.state.results.hostWifi.restored = false)
  calls : ∃ back, o'.calls = o.calls ++ back ∧ ∀ c ∈ back, ∀ recv3, c.switches recv3 = none

/-- What `_restore_host_wifi` leaves of the results: at most two notes, and `ok` unless the radio
stayed on. -/
structure Noted (s t : OtaRecord) : Prop where
  devices : t.results.devices = s.results.devices
  files : t.results.files = s.results.files
  notes : ∃ notes, t.results.errors = s.results.errors ++ notes ∧ notes.length ≤ 2
  ok : t.results.ok = true ↔ s.results.ok = true ∧ t.results.hostWifi.restored = true

theorem noteRadioOff_noted {s s' : OtaRecord}
    (hsame : s'.results.devices = s.results.devices ∧ s'.results.files = s.results.files ∧
      s'.results.ok = s.results.ok ∧ s'.results.hostWifi.restored = false)
    (hnotes : ∃ notes, s'.results.errors = s.results.errors ++ notes ∧ notes.length ≤ 1)
    (answer : Except Raised Unit) : Noted s (noteRadioOff s' answer) := by
  obtain ⟨hdevices, hfiles, hok, hrestored⟩ := hsame
  obtain ⟨notes, hnotes, hlen⟩ := hnotes
  cases answer with
  | ok u =>
    refine ⟨hdevices, hfiles, ⟨notes, hnotes, by omega⟩, ?_⟩
    exact (iff_of_eq (congrArg (· = true) hok)).trans (and_iff_left rfl).symm
  | error ex =>
    refine ⟨hdevices, hfiles, ⟨notes ++ [[.text ("Host WiFi restore failed: " ++ ex.shown)]],
      ?_, by simpa using hlen⟩, iff_of_false (fun h => by cases h) fun h => ?_⟩
    · exact (congrArg (· ++ _) hnotes).trans (List.append_assoc _ _ _)
    · cases h.2.symm.trans hrestored

theorem wentBack_noted {s : OtaRecord} (hrestored : s.results.hostWifi.restored = false)
    (past : List OtaCall) : Noted s (svc.wentBack s past) := by
  have hany : ∀ disconnected off, Noted s (noteRadioOff (noteDisconnect s disconnected) off) := by
    intro disconnected off
    cases disconnected with
    | ok u =>
      exact noteRadioOff_noted ⟨rfl, rfl, rfl, hrestored⟩
        ⟨[], (List.append_nil _).symm, Nat.zero_le 1⟩ off
    | error ex =>
      have hnote : ∃ notes, (noteDisconnect s (.error ex)).results.errors
          = s.results.errors ++ notes ∧ notes.length ≤ 1 := ⟨_, rfl, Nat.le_refl 1⟩
      refine noteRadioOff_noted ?_ hnote off
      exact ⟨rfl, rfl, rfl, hrestored⟩
  exact hany _ _

/-- `_restore_host_wifi` after what did not touch it. -/
theorem lastly_restore {p : Flow Unit} {s : OtaRecord} {past : List OtaCall}
    (hresult : (p s past).result = .ok ())
    (hradio : ∀ c ∈ (p s past).calls, c ≠ .setRadio false)
    (hrestored : (p s past).state.results.hostWifi.restored = false) (restore initial : Bool) :
    BackFrom (p s past) (p.lastly (svc.restoreHostWifi restore initial) s past) := by
  rcases hp : p s past with ⟨result, t, calls⟩
  rw [hp] at hresult hradio hrestored
  rcases svc.restoreHostWifi_run restore initial t (past ++ calls)
    with ⟨-, hrun⟩ | ⟨-, asked, hasked, hrun⟩
  · obtain ⟨hdevices, hfiles, hnotes, hok⟩ := svc.wentBack_noted hrestored (past ++ calls)
    rw [lastly_ok hp hrun]
    refine ⟨hresult, hdevices, hfiles, hnotes, hok.trans (and_congr_right fun _ => ?_), _, rfl, ?_⟩
    · rw [← Bool.not_eq_false, not_iff_not]
      exact (and_iff_right (List.mem_append_right _ (by simp))).symm
    · simp [OtaCall.switches]
  · rw [lastly_ok hp hrun]
    refine ⟨hresult, rfl, rfl, ⟨[], (List.append_nil _).symm, by simp⟩, ?_, asked, rfl, ?_⟩
    · refine (and_iff_left ?_).symm
      rintro ⟨hmem, -⟩
      rcases List.mem_append.mp hmem with hmem | hmem
      · exact hradio _ hmem rfl
      · cases hasked _ hmem
    · intro c hc recv3
      rw [hasked c hc]
      rfl

/-- What a firmware update reports when it is done. -/
structure FirmwareReport (job : FirmwareJob) (o : Outcome OtaRecord OtaCall Raised Unit) :
    Prop where
  returns : o.result = .ok ()
  inOrder : o.state.results.devices.map (·.addr) <+: job.macs
  agree : ∀ dev ∈ o.state.results.devices, dev.ok = true ↔ dev.error = none
  errors : ∃ notes, o.state.results.errors = (o.state.results.devices.filterMap (·.error)).map
    (fun text => [.text text]) ++ notes ∧ notes.length ≤ 2
  ok : o.state.results.ok = true ↔
    (o.state.results.devices.map (·.addr) = job.macs ∧
      (job.stopOnError = true → ∀ dev ∈ o.state.results.devices, dev.ok = true)) ∧
    ¬ (.setRadio false ∈ o.calls ∧ o.state.results.hostWifi.restored = false)

theorem firmwareFrom_report (job : FirmwareJob) (hmacs : job.macs ≠ []) (initial : Bool)
    (past : List OtaCall) :
    FirmwareReport job (svc.firmwareFrom job initial (firmwareStart job initial) past) := by
  obtain ⟨new, h⟩ := svc.tryFirmware_reported job initial past
  have hback : BackFrom _ (svc.firmwareFrom job initial (firmwareStart job initial) past) :=
    svc.lastly_restore h.result h.radio h.restored job.hostWifiRestore initial
  have htold : new = (svc.firmwareFrom job initial (firmwareStart job initial)
      past).state.told := by
    rw [← h.told]
    exact (congrArg (List.map _) hback.devices).symm
  have haddrs : new.map (·.1) = (svc.firmwareFrom job initial (firmwareStart job initial)
      past).state.results.devices.map (·.addr) := by
    rw [htold, OtaRecord.told, List.map_map]
    rfl
  have hagree : ∀ dev ∈ (svc.firmwareFrom job initial (firmwareStart job initial)
      past).state.results.devices, dev.ok = true ↔ dev.error = none := by
    intro dev hdev
    refine h.agree (dev.addr, dev.ok, dev.error) ?_
    rw [htold]
    exact List.mem_map_of_mem hdev
  refine ⟨hback.result, haddrs ▸ h.inOrder, hagree, ?_, ?_⟩
  · obtain ⟨notes, hnotes, hlen⟩ := hback.notes
    refine ⟨notes, ?_, hlen⟩
    rw [hnotes, h.errors, htold, OtaRecord.told, List.filterMap_map]
    rfl
  · rw [hback.ok, h.ok hmacs, haddrs]
    refine and_congr_left fun _ => and_congr_right fun _ => imp_congr_right fun _ => ?_
    rw [htold, OtaRecord.told, List.forall_mem_map]
    exact forall₂_congr fun dev hdev => (hagree dev hdev).symm

/-- **The report of a firmware update is true**, whatever the radio, the WiFi, the devices and the
files do, where there is something to do and somebody to do it to: the devices are the addresses in
their order, as far as the run came; each is `ok` exactly when it has no error; the errors are
theirs, in that order, and at most two notes; and the run is `ok` exactly when every device had its
turn, none that had to stop it failed, and the restore did not try to turn the radio off and
fail. -/
theorem firmware_reports (job : FirmwareJob) (hops : job.idle = false) (hmacs : job.macs ≠ [])
    (past : List OtaCall) : FirmwareReport job (svc.runFirmwareUpdate job .blank past) := by
  obtain ⟨hreturns, hinOrder, hagree, herrors, hok⟩ := svc.firmwareFrom_report job hmacs
    (svc.radioEnabled (past ++ [.radioEnabled])) (past ++ [.radioEnabled])
  rw [svc.runFirmwareUpdate_run hops .blank past]
  refine ⟨hreturns, hinOrder, hagree, herrors, hok.trans (and_congr_right fun _ => ?_)⟩
  rw [List.mem_cons]
  exact not_congr (and_congr_left fun _ => (or_iff_right (fun h => by cases h)).symm)

end OtaServices

/-- Services that do what they are asked. -/
def willing : OtaServices where
  update _ := .ok ()
  radioEnabled _ := true
  setRadio _ := .ok ()
  waitIfaceReady _ := .ok ()
  connectAp _ := .ok "WLED_RaceLink_AP"
  disconnectAp _ := .ok ()
  sendConfig _ := .ok true
  waitForExpectedNode _ := .ok (some [])
  wledUploadFile _ := .ok ()
  postUpdate _ := .ok ()
  attemptUnlock _ := true
  wledDownloadPresets _ := .ok []
  savePayload _ := .ok ⟨"presets.json", 0, .null⟩
  listFiles _ := .ok []
  devicesProvider _ := .ok []

/-- The firmware for two devices. -/
def twoDevices : FirmwareJob where
  macs := ["AABBCC000001", "AABBCC000002"]
  baseUrl := "http://4.3.2.1"
  fwInfo := some ⟨"1", "fw.bin", "/tmp/fw.bin", 1, "00"⟩
  presetsInfo := none
  cfgInfo := none
  retries := 3
  stopOnError := false
  wifi := ⟨["WLED_RaceLink_AP"], "wled1234", "wledota", "wlan0", ""⟩
  hostWifiEnable := true
  hostWifiRestore := true
  skipValidation := false

/-- The services, with a device that does not acknowledge. -/
def deafDevice (recv3 : List UInt8) : OtaServices where
  __ := willing
  sendConfig history := .ok (history.getLast?.bind (OtaCall.switches recv3) != some true)

/-- A device that does not acknowledge fails by itself, and the run is `ok`. -/
theorem firmware_reports_deafDevice :
    let o := (deafDevice [0, 0, 1]).runFirmwareUpdate twoDevices .blank []
    (o.state.results.devices.map (·.ok), o.state.results.ok) = ([false, true], true) ∧
      OtaServices.FirmwareReport twoDevices o :=
  ⟨by decide +kernel, OtaServices.firmware_reports _ twoDevices rfl (by simp [twoDevices]) []⟩

end RaceLink
