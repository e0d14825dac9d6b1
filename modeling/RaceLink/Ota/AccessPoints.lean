/-
# Which access points a run of workflows leaves on

Every node broadcasts the same SSID, so an access point that stays on is one the next workflow may
join in place of its own.  Here the workflows of a host run one after the other, each with whatever
happens to it, and the question is which access points were told to come on and not to go off.

* A firmware update leaves none on, and has never more than one on (`Reported.switches`,
  `Reported.single`): its disabling CONFIG stands in a `finally`.
* A preset download leaves its node's access point on exactly when it came to enabling it and not
  to listing the files (`PresetsReport`): its disabling CONFIG is the last statement of the `try`.

`leftOn_iff` puts these together for a run of any length.  What is counted is what the host sent;
whether a node heard it is another question, which the ACK of the enabling CONFIG answers only for
that one.
-/
import RaceLink.Ota.Rounds

namespace RaceLink

open Python Effects Effects.Proc

/-! ## 1. The last word -/

/-- The last mark of a list: what marked it, and nothing after it did. -/
theorem getLast?_filterMap_eq_some {α β : Type} {f : α → Option β} {xs : List α} {b : β} :
    (xs.filterMap f).getLast? = some b ↔
      ∃ before x after, xs = before ++ x :: after ∧ f x = some b ∧ ∀ y ∈ after, f y = none := by
  rw [List.getLast?_eq_some_iff]
  constructor
  · rintro ⟨marks, hmarks⟩
    obtain ⟨before, rest, rfl, -, hrest⟩ := List.filterMap_eq_append_iff.mp hmarks
    obtain ⟨skipped, x, after, rfl, -, hx, hafter⟩ := List.filterMap_eq_cons_iff.mp hrest
    refine ⟨before ++ skipped, x, after, by simp, hx, ?_⟩
    exact List.filterMap_eq_nil_iff.mp hafter
  · rintro ⟨before, x, after, rfl, hx, hafter⟩
    refine ⟨before.filterMap f, ?_⟩
    rw [List.filterMap_append, List.filterMap_cons_some hx, List.filterMap_eq_nil_iff.mpr hafter]

/-- The last word of a sequence of parts is that of the last part that said anything. -/
theorem lastSwitch_flatMap {α : Type} (recv3 : List UInt8) (calls : α → List OtaCall)
    (parts : List α) :
    lastSwitch recv3 (parts.flatMap calls)
      = (parts.filterMap fun part => lastSwitch recv3 (calls part)).getLast? := by
  induction parts with
  | nil => rfl
  | cons part parts ih =>
    rw [List.flatMap_cons, lastSwitch_append, ih, List.filterMap_cons]
    cases hpart : lastSwitch recv3 (calls part) with
    | none => exact Option.or_none
    | some on =>
      dsimp only
      rw [List.getLast?_cons]
      cases (parts.filterMap fun part => lastSwitch recv3 (calls part)).getLast? <;> rfl

/-! ## 2. A preset download -/

/-- What a preset download tells the access points, and what it reports. -/
structure PresetsReport (job : PresetsJob) (o : Outcome OtaRecord OtaCall Raised Unit) : Prop where
  onlyFor : ∀ c ∈ o.calls, c.OnlyFor job.mac
  closed : o.state.results.files.isSome = true →
    ∀ recv3, lastSwitch recv3 o.calls ≠ some true
  opened : o.state.results.files = none → ∀ c ∈ o.calls, ∀ recv3, c.switches recv3 ≠ some false
  failed : o.state.results.files = none → o.state.results.ok = false

/-- Going back tells no access point anything. -/
theorem PresetsReport.back {job : PresetsJob} {o o' : Outcome OtaRecord OtaCall Raised Unit}
    (h : PresetsReport job o) (hback : OtaServices.BackFrom o o') :
    PresetsReport job ⟨o'.result, o'.state, .radioEnabled :: o'.calls⟩ := by
  obtain ⟨-, -, hfiles, -, hok, back, hcalls, hquiet⟩ := hback
  refine ⟨?_, fun hlisted recv3 => ?_, fun hnone => ?_, fun hnone => ?_⟩
  · rw [hcalls]
    refine List.forall_mem_cons.mpr ⟨fun recv3 on hc => (by cases hc), fun c hc => ?_⟩
    refine (List.mem_append.mp hc).elim (h.onlyFor c) fun hc recv3 on hswitch => ?_
    cases (hquiet c hc recv3).symm.trans hswitch
  · have hlast : lastSwitch recv3 (.radioEnabled :: o'.calls) = lastSwitch recv3 o.calls := by
      rw [hcalls]
      exact (lastSwitch_append_quiet fun c hc => hquiet c hc recv3 :
        lastSwitch recv3 ((.radioEnabled :: o.calls) ++ back) = _)
    dsimp only at hlisted ⊢
    rw [hlast]
    rw [hfiles] at hlisted
    exact h.closed hlisted recv3
  · dsimp only at hnone ⊢
    rw [hfiles] at hnone
    rw [hcalls]
    refine List.forall_mem_cons.mpr ⟨fun recv3 hc => (by cases hc), fun c hc recv3 hswitch => ?_⟩
    rcases List.mem_append.mp hc with hc | hc
    · exact h.opened hnone c hc recv3 hswitch
    · cases (hquiet c hc recv3).symm.trans hswitch
  · dsimp only at hnone ⊢
    rw [hfiles] at hnone
    rw [← Bool.not_eq_true, hok, h.failed hnone]
    simp

namespace OtaServices

variable (svc : OtaServices)

/-- The `try` and the `except` of the preset download. -/
def tryPresets (job : PresetsJob) (hostWifiInitial : Bool) : Flow Unit :=
  (svc.downloadPresetsBody job hostWifiInitial).catching fun ex =>
    modify fun r => r.fail.note [.text ex.shown]

theorem tryPresets_report (job : PresetsJob) (initial : Bool) (past : List OtaCall) :
    let o := svc.tryPresets job initial (presetsStart job initial) past
    PresetsReport job o ∧ o.result = .ok () ∧ (∀ c ∈ o.calls, c ≠ .setRadio false) ∧
      o.state.results.hostWifi.restored = false := by
  have hfollows : (svc.fetchPresets job initial).Follows (bodyTrail job.mac) :=
    fetchPresets_follows job initial
  obtain ⟨hcalls, hsame⟩ := hfollows (presetsStart job initial) past
  rcases hfetch : svc.fetchPresets job initial (presetsStart job initial) past
    with ⟨result, t, calls⟩
  rw [hfetch] at hcalls hsame
  have hon : ∀ c ∈ calls, ∀ recv3, c.switches recv3 ≠ some false := by
    intro c hc recv3 hswitch
    cases (switches_forDevice (hcalls c hc) hswitch).1
  cases result with
  | error ex =>
    have hrun : svc.tryPresets job initial (presetsStart job initial) past
        = ⟨.ok (), t.fail.note [.text ex.shown], calls⟩ := by
      refine (catching_error (bind_error hfetch)).trans ?_
      exact congrArg (Outcome.mk _ _) (List.append_nil calls)
    rw [hrun]
    refine ⟨⟨fun c hc => (hcalls c hc).onlyFor, fun hfiles => ?_, fun _ => hon, fun _ => rfl⟩, rfl,
      fun c hc => radio_of_forDevice (hcalls c hc), hsame.restored⟩
    cases hfiles.symm.trans (congrArg Option.isSome hsame.files)
  | ok files =>
    have hrun : svc.tryPresets job initial (presetsStart job initial) past
        = ⟨.ok (), t.withResults fun res => { res with files := some files },
            calls ++ closingCalls job.mac true⟩ := by
      refine catching_ok ((bind_ok hfetch).trans ?_)
      rw [andThen, modify_bind, closeAp_run]
    rw [hrun]
    refine ⟨⟨fun c hc => ?_, fun _ recv3 hlast => ?_, fun hfiles => ?_, fun hfiles => ?_⟩, rfl,
      fun c hc => ?_, hsame.restored⟩
    · exact (List.mem_append.mp hc).elim (fun hc => (hcalls c hc).onlyFor)
        fun hc => closingCalls_onlyFor hc
    · rw [lastSwitch_append, lastSwitch_closingCalls] at hlast
      cases hown : isReceiver recv3 job.mac with
      | true =>
        rw [hown] at hlast
        cases hlast
      | false =>
        rw [hown] at hlast
        rw [isReceiver_iff.mpr (lastSwitch_forDevice hcalls hlast).2] at hown
        cases hown
    · cases hfiles
    · cases hfiles
    · rcases List.mem_append.mp hc with hc | hc
      · exact radio_of_forDevice (hcalls c hc)
      · exact radio_of_closingCalls hc

/-- `download_presets`: the `try`, and `_restore_host_wifi`. -/
theorem downloadPresets_run (job : PresetsJob) (s : OtaRecord) (past : List OtaCall) :
    let initial := svc.radioEnabled (past ++ [.radioEnabled])
    let o := svc.downloadPresetsFrom job initial (presetsStart job initial)
      (past ++ [.radioEnabled])
    svc.downloadPresets job s past = ⟨o.result, o.state, .radioEnabled :: o.calls⟩ := by
  have hask : svc.askRadio s past
      = ⟨.ok (svc.radioEnabled (past ++ [.radioEnabled])), s, [.radioEnabled]⟩ := rfl
  refine (bind_ok hask).trans ?_
  rw [andThen, modify_bind]
  rfl

/-- **A preset download tells no other access point anything, and leaves its own on only when it
failed before it had listed the files.** -/
theorem downloadPresets_report (job : PresetsJob) (s : OtaRecord) (past : List OtaCall) :
    PresetsReport job (svc.downloadPresets job s past) := by
  obtain ⟨hreport, hresult, hradio, hrestored⟩ := svc.tryPresets_report job
    (svc.radioEnabled (past ++ [.radioEnabled])) (past ++ [.radioEnabled])
  have hback := svc.lastly_restore hresult hradio hrestored job.hostWifiRestore
    (svc.radioEnabled (past ++ [.radioEnabled]))
  rw [svc.downloadPresets_run job s past]
  exact hreport.back hback

theorem runFirmwareUpdate_idle {job : FirmwareJob} (hops : job.idle = true) (s : OtaRecord)
    (past : List OtaCall) :
    ∃ e, svc.runFirmwareUpdate job s past = ⟨.error e, s, [.radioEnabled]⟩ := by
  have hask : svc.askRadio s past
      = ⟨.ok (svc.radioEnabled (past ++ [.radioEnabled])), s, [.radioEnabled]⟩ := rfl
  unfold runFirmwareUpdate
  rw [bind_ok hask, andThen, hops]
  exact ⟨_, rfl⟩

/-- The calls of a firmware update: the question for the radio, those of the `try`, and such as tell
no access point anything. -/
theorem runFirmwareUpdate_calls (job : FirmwareJob) (s : OtaRecord) (past : List OtaCall) :
    ∃ work back, (svc.runFirmwareUpdate job s past).calls = .radioEnabled :: (work ++ back) ∧
      OneAtOnce work ∧ (∀ recv3, lastSwitch recv3 work ≠ some true) ∧
      ∀ c ∈ back, ∀ recv3, c.switches recv3 = none := by
  cases hops : job.idle with
  | true =>
    obtain ⟨e, hrun⟩ := svc.runFirmwareUpdate_idle hops s past
    rw [hrun]
    exact ⟨[], [], rfl, oneAtOnce_nil, fun recv3 h => (by cases h), by simp⟩
  | false =>
    obtain ⟨new, h⟩ := svc.tryFirmware_reported job (svc.radioEnabled (past ++ [.radioEnabled]))
      (past ++ [.radioEnabled])
    have hback := svc.lastly_restore h.result h.radio h.restored job.hostWifiRestore
      (svc.radioEnabled (past ++ [.radioEnabled]))
    obtain ⟨-, -, -, -, -, back, hcalls, hquiet⟩ := hback
    rw [svc.runFirmwareUpdate_run hops s past]
    refine ⟨_, back, congrArg (OtaCall.radioEnabled :: ·) hcalls, h.single, fun recv3 hlast => ?_,
      hquiet⟩
    rw [h.switches] at hlast
    cases hnew : new.any fun entry => isReceiver recv3 entry.1 <;> rw [hnew] at hlast <;>
      cases hlast

end OtaServices

/-! ## 3. Workflows in sequence -/

/-- A workflow, as a task of the host starts it. -/
inductive OtaJob where
  | firmware (job : FirmwareJob)
  | presets (job : PresetsJob)

namespace OtaServices

variable (svc : OtaServices)

def perform : OtaJob → Flow Unit
  | .firmware job => svc.runFirmwareUpdate job
  | .presets job => svc.downloadPresets job

/-- A workflow that was run, and what it did. -/
abbrev Performed : Type := OtaJob × Outcome OtaRecord OtaCall Raised Unit

/-- The workflows of a host, one after the other. -/
def performAll : List OtaCall → List OtaJob → List Performed
  | _, [] => []
  | past, job :: jobs =>
    let o := svc.perform job .blank past
    (job, o) :: performAll (past ++ o.calls) jobs

/-- Every workflow of a sequence was run after some calls. -/
theorem mem_performAll {e : Performed} {jobs : List OtaJob} {past : List OtaCall}
    (h : e ∈ svc.performAll past jobs) : ∃ past', e.2 = svc.perform e.1 .blank past' := by
  induction jobs generalizing past with
  | nil => cases h
  | cons job jobs ih =>
    rcases List.mem_cons.mp h with rfl | h
    · exact ⟨past, rfl⟩
    · exact ih h

/-- A preset download of the receiver's node that failed. -/
def FailedDownload (recv3 : List UInt8) (e : Performed) : Prop :=
  ∃ job, e.1 = .presets job ∧ isReceiver recv3 job.mac = true ∧
    e.2.state.results.files = none ∧ e.2.state.results.ok = false

/-- **One workflow** has never more than one access point on by its own doing, and leaves one on
only when it is a preset download that failed. -/
theorem perform_switches {e : Performed} {past : List OtaCall}
    (he : e.2 = svc.perform e.1 .blank past) :
    OneAtOnce e.2.calls ∧
      ∀ recv3, lastSwitch recv3 e.2.calls = some true → FailedDownload recv3 e := by
  obtain ⟨job, o⟩ := e
  cases job with
  | firmware job =>
    obtain ⟨work, back, hcalls, hsingle, hclosed, hquiet⟩ :=
      svc.runFirmwareUpdate_calls job .blank past
    obtain rfl : o = svc.runFirmwareUpdate job .blank past := he
    rw [hcalls]
    have hlast : ∀ recv3, lastSwitch recv3 (.radioEnabled :: (work ++ back))
        = lastSwitch recv3 work := fun recv3 =>
      (lastSwitch_append_quiet fun c hc => hquiet c hc recv3 :
        lastSwitch recv3 ((.radioEnabled :: work) ++ back) = _)
    have honly : ∀ calls, (∀ c ∈ calls, ∀ recv3, OtaCall.switches recv3 c = none) →
        OneAtOnce calls := by
      intro calls hcalls
      have hnone : ∀ c ∈ calls, c.OnlyFor "" := fun c hc recv3 on hswitch => by
        cases (hcalls c hc recv3).symm.trans hswitch
      exact oneAtOnce_onlyFor hnone
    refine ⟨?_, fun recv3 h => absurd ((hlast recv3).symm.trans h) (hclosed recv3)⟩
    have hask : OneAtOnce ([.radioEnabled] ++ (work ++ back)) := by
      refine (honly _ (by simp [OtaCall.switches])).append ?_ fun recv3 h => (by cases h)
      exact hsingle.append (honly back hquiet) hclosed
    exact hask
  | presets job =>
    obtain rfl : o = svc.downloadPresets job .blank past := he
    have h := svc.downloadPresets_report job .blank past
    refine ⟨oneAtOnce_onlyFor h.onlyFor, fun recv3 hlast => ?_⟩
    have hfiles : (svc.downloadPresets job .blank past).state.results.files = none := by
      cases hfiles : (svc.downloadPresets job .blank past).state.results.files with
      | none => rfl
      | some files => exact absurd hlast (h.closed (by rw [hfiles]; rfl) recv3)
    obtain ⟨c, hc, hswitch⟩ := List.mem_filterMap.mp (List.mem_of_getLast? hlast)
    exact ⟨job, rfl, isReceiver_iff.mpr (h.onlyFor c hc recv3 true hswitch), hfiles,
      h.failed hfiles⟩

/-- **The access points that are left on**: after any sequence of workflows, whatever the radio, the
WiFi, the nodes and the files do, an access point was told to come on and not to go off exactly when
the last workflow that told it anything is a preset download of its node that failed, after it had
told it to come on. -/
theorem leftOn_iff (jobs : List OtaJob) (recv3 : List UInt8) :
    lastSwitch recv3 ((svc.performAll [] jobs).flatMap (·.2.calls)) = some true ↔
      ∃ before e after, svc.performAll [] jobs = before ++ e :: after ∧ FailedDownload recv3 e ∧
        (∃ c ∈ e.2.calls, c.switches recv3 = some true) ∧
        ∀ e' ∈ after, ∀ c ∈ e'.2.calls, c.switches recv3 = none := by
  rw [lastSwitch_flatMap, getLast?_filterMap_eq_some]
  have hquiet : ∀ e : Performed, lastSwitch recv3 e.2.calls = none ↔
      ∀ c ∈ e.2.calls, c.switches recv3 = none := fun e => by
    rw [lastSwitch, List.getLast?_eq_none_iff, List.filterMap_eq_nil_iff]
  refine exists₃_congr fun before e after => ?_
  rw [and_congr_right_iff]
  intro hjobs
  have hmem : e ∈ svc.performAll [] jobs := by rw [hjobs]; simp
  obtain ⟨past, he⟩ := svc.mem_performAll hmem
  simp only [hquiet, ← and_assoc]
  refine and_congr_left fun _ => ⟨fun hlast => ⟨(svc.perform_switches he).2 recv3 hlast, ?_⟩, ?_⟩
  · exact List.mem_filterMap.mp (List.mem_of_getLast? hlast)
  · rintro ⟨⟨job, hjob, -, hfiles, -⟩, c, hc, hswitch⟩
    rw [hjob] at he
    have h : PresetsReport job e.2 := he ▸ svc.downloadPresets_report job .blank past
    cases hlast : lastSwitch recv3 e.2.calls with
    | none => cases ((hquiet e).mp hlast c hc).symm.trans hswitch
    | some on =>
      obtain ⟨c', hc', hswitch'⟩ := List.mem_filterMap.mp (List.mem_of_getLast? hlast)
      cases on with
      | true => rfl
      | false => exact absurd hswitch' (h.opened hfiles c' hc' recv3)

theorem oneMore_performAll (jobs : List OtaJob) (recv3s : List UInt8 → Prop) (past : List OtaCall)
    (hfailed : ∀ e ∈ svc.performAll past jobs, ∀ recv3, FailedDownload recv3 e → recv3s recv3)
    {pre : List OtaCall} (hpre : pre <+: (svc.performAll past jobs).flatMap (·.2.calls)) :
    ∃ current, ∀ recv3, lastSwitch recv3 pre = some true → recv3 = current ∨ recv3s recv3 := by
  induction jobs generalizing past pre with
  | nil =>
    obtain rfl := List.prefix_nil.mp hpre
    exact ⟨[], fun recv3 h => (by cases h)⟩
  | cons job jobs ih =>
    obtain ⟨hfirst, hrest⟩ := List.forall_mem_cons.mp hfailed
    obtain ⟨hsingle, hleft⟩ := svc.perform_switches
      (show (job, svc.perform job .blank past).2 = svc.perform job .blank past from rfl)
    rw [performAll, List.flatMap_cons] at hpre
    rcases List.prefix_or_prefix_of_prefix hpre (List.prefix_append _ _) with hpre | ⟨rest, rfl⟩
    · obtain ⟨current, hcurrent⟩ := hsingle pre hpre
      exact ⟨current, fun recv3 h => .inl (hcurrent recv3 h)⟩
    · obtain ⟨current, hcurrent⟩ := ih _ hrest ((List.prefix_append_right_inj _).mp hpre)
      refine ⟨current, fun recv3 h => ?_⟩
      rw [lastSwitch_append] at h
      cases hlast : lastSwitch recv3 rest with
      | none =>
        rw [hlast, Option.none_or] at h
        exact .inr (hfirst recv3 (hleft recv3 h))
      | some on =>
        rw [hlast, Option.some_or] at h
        exact hcurrent recv3 (hlast.trans h)

/-- **One at a time**: at no moment of a sequence of workflows is more than one access point told to
be on, apart from those of the nodes whose preset download failed. -/
theorem one_at_a_time (jobs : List OtaJob) {pre : List OtaCall}
    (hpre : pre <+: (svc.performAll [] jobs).flatMap (·.2.calls)) :
    ∃ current, ∀ recv3, lastSwitch recv3 pre = some true →
      recv3 = current ∨ ∃ e ∈ svc.performAll [] jobs, FailedDownload recv3 e :=
  svc.oneMore_performAll jobs (fun recv3 => ∃ e ∈ svc.performAll [] jobs, FailedDownload recv3 e)
    [] (fun e he _ hfailed => ⟨e, he, hfailed⟩) hpre

end OtaServices

/-! ## 4. A download that fails -/

/-- The presets of a node. -/
def onePreset : PresetsJob where
  mac := "AABBCC000001"
  baseUrl := "http://4.3.2.1"
  wifi := twoDevices.wifi
  hostWifiEnable := true
  hostWifiRestore := true

/-- The services, with a node that cannot be found on its access point. -/
def unreachable : OtaServices where
  __ := willing
  connectAp _ := .error (runtimeError "timeout waiting for one of ['WLED_RaceLink_AP']")

/-- After a download and an update that both fail, the node of the download is the one left on, in
the middle of the update two are on. -/
theorem one_at_a_time_failedDownload :
    let jobs := [.presets onePreset, .firmware { twoDevices with macs := ["AABBCC000002"] }]
    let calls := (unreachable.performAll [] jobs).flatMap (·.2.calls)
    (lastSwitch [0, 0, 1] calls, lastSwitch [0, 0, 2] calls) = (some true, some false) ∧
      ∃ pre, (lastSwitch [0, 0, 1] pre, lastSwitch [0, 0, 2] pre) = (some true, some true) ∧
        ∃ current, ∀ recv3, lastSwitch recv3 pre = some true →
          recv3 = current ∨ ∃ e ∈ unreachable.performAll [] jobs,
            OtaServices.FailedDownload recv3 e := by
  intro jobs calls
  refine ⟨by decide +kernel, calls.take 10, by decide +kernel, ?_⟩
  exact unreachable.one_at_a_time jobs (List.take_prefix _ _)

end RaceLink
