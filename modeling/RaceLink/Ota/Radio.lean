/-
# The radio of the host

The workflows turn the radio of the host on where it is off, and off again at the end "if we were
the ones who turned it on".  The radio is the environment's: `radioAfter` reads off what the calls
made it, where a `set_radio` that raises leaves it as it was, and the one assumption (`Radio`) is
that `radio_enabled` answers what the radio is.  It answers that the radio is off when `nmcli`
fails, so the assumption is that `nmcli` answers; a workflow whose first question fails turns off a
radio that was on (`mutedRadio`).
-/
import RaceLink.Ota.AccessPoints

namespace RaceLink

open Python Effects Effects.Proc

/-- The radio after one more call. -/
def radioNow (setRadio : List OtaCall → Except Raised Unit) (on : Bool) (past : List OtaCall) :
    OtaCall → Bool
  | .setRadio enabled =>
    match setRadio (past ++ [.setRadio enabled]) with
    | .ok () => enabled
    | .error _ => on
  | _ => on

/-- The radio after calls that follow those of `past`. -/
def radioAfter (setRadio : List OtaCall → Except Raised Unit) :
    Bool → List OtaCall → List OtaCall → Bool
  | on, _, [] => on
  | on, past, c :: calls =>
    radioAfter setRadio (radioNow setRadio on past c) (past ++ [c]) calls

/-- The environment's radio, with `on` as it was before the first call. -/
structure Radio (svc : OtaServices) (on : Bool) : Prop where
  answers : ∀ past, svc.radioEnabled (past ++ [.radioEnabled]) = radioAfter svc.setRadio on [] past

theorem radioAfter_append (setRadio : List OtaCall → Except Raised Unit) (on : Bool)
    (past a b : List OtaCall) : radioAfter setRadio on past (a ++ b)
      = radioAfter setRadio (radioAfter setRadio on past a) (past ++ a) b := by
  induction a generalizing on past with
  | nil => simp [radioAfter]
  | cons c a ih =>
    rw [List.cons_append, radioAfter, ih, radioAfter, List.append_assoc, List.singleton_append]

/-- Without a call that turns it off, a radio that is on stays on. -/
theorem radioAfter_on {setRadio : List OtaCall → Except Raised Unit} {calls : List OtaCall}
    (h : ∀ c ∈ calls, c ≠ .setRadio false) (past : List OtaCall) :
    radioAfter setRadio true past calls = true := by
  induction calls generalizing past with
  | nil => rfl
  | cons c calls ih =>
    obtain ⟨hc, hcalls⟩ := List.forall_mem_cons.mp h
    have hnow : radioNow setRadio true past c = true := by
      cases c with
      | setRadio enabled =>
        obtain rfl : enabled = true := by cases enabled <;> simp_all
        rw [radioNow]
        cases setRadio (past ++ [.setRadio true]) <;> rfl
      | _ => rfl
    rw [radioAfter, hnow]
    exact ih hcalls _

/-- Questions leave it as it is. -/
theorem radioAfter_asked {setRadio : List OtaCall → Except Raised Unit} {calls : List OtaCall}
    (h : ∀ c ∈ calls, c = .radioEnabled) (on : Bool) (past : List OtaCall) :
    radioAfter setRadio on past calls = on := by
  induction calls generalizing past with
  | nil => rfl
  | cons c calls ih =>
    obtain ⟨rfl, hcalls⟩ := List.forall_mem_cons.mp h
    exact ih hcalls _

/-- What a workflow leaves of the radio that was `before`. -/
structure RadioKept (svc : OtaServices) (on : Bool) (restore : Bool) (past : List OtaCall)
    (o : Outcome OtaRecord OtaCall Raised Unit) : Prop where
  stays : radioAfter svc.setRadio on [] past = true →
    radioAfter svc.setRadio on [] (past ++ o.calls) = true
  goesOff : restore = true → radioAfter svc.setRadio on [] past = false →
    radioAfter svc.setRadio on [] (past ++ o.calls) = true →
    o.state.results.ok = false ∧ o.state.results.hostWifi.restored = false
  restored : o.state.results.hostWifi.restored = true →
    radioAfter svc.setRadio on [] past = false ∧
      radioAfter svc.setRadio on [] (past ++ o.calls) = false

namespace OtaServices

variable {svc : OtaServices} {on : Bool}

/-- The radio after a question is what it was. -/
theorem radioAfter_ask (setRadio : List OtaCall → Except Raised Unit) (on : Bool)
    (past : List OtaCall) :
    radioAfter setRadio on [] (past ++ [.radioEnabled]) = radioAfter setRadio on [] past :=
  (radioAfter_append setRadio on [] past _).trans (radioAfter_asked (by simp) _ _)

/-- **What `_restore_host_wifi` comes to**, after work that did not turn the radio off. -/
theorem lastly_radio (hradio : Radio svc on) {p : Flow Unit} {s : OtaRecord} {past : List OtaCall}
    (hwork : ∀ c ∈ (p s (past ++ [.radioEnabled])).calls, c ≠ .setRadio false)
    (hrestored : (p s (past ++ [.radioEnabled])).state.results.hostWifi.restored = false)
    (restore : Bool) :
    let o := p.lastly (svc.restoreHostWifi restore (svc.radioEnabled (past ++ [.radioEnabled])))
      s (past ++ [.radioEnabled])
    RadioKept svc on restore past ⟨o.result, o.state, .radioEnabled :: o.calls⟩ := by
  rcases hp : p s (past ++ [.radioEnabled]) with ⟨result, t, work⟩
  rw [hp] at hwork hrestored
  have hmid : radioAfter svc.setRadio on [] past = true →
      radioAfter svc.setRadio on [] (past ++ [.radioEnabled] ++ work) = true := by
    intro hbefore
    rw [radioAfter_append, radioAfter_ask, hbefore]
    exact radioAfter_on hwork _
  have hafter : ∀ back, radioAfter svc.setRadio on [] (past ++ .radioEnabled :: (work ++ back))
      = radioAfter svc.setRadio (radioAfter svc.setRadio on [] (past ++ [.radioEnabled] ++ work))
          (past ++ [.radioEnabled] ++ work) back := by
    intro back
    have happend := radioAfter_append svc.setRadio on [] (past ++ [.radioEnabled] ++ work) back
    rw [List.nil_append] at happend
    rw [← happend]
    simp
  rcases svc.restoreHostWifi_run restore (svc.radioEnabled (past ++ [.radioEnabled])) t
    (past ++ [.radioEnabled] ++ work) with ⟨⟨-, hinitial, -⟩, hrun⟩ | ⟨hnot, asked, hasked, hrun⟩
  · rw [hradio.answers] at hinitial
    rw [lastly_ok hp hrun]
    generalize hhist : past ++ [.radioEnabled] ++ work ++ [.radioEnabled]
      ++ [.disconnectAp t.connectedSsid] = history
    have hend : radioAfter svc.setRadio on [] (past ++ .radioEnabled :: (work ++
        [.radioEnabled, .disconnectAp t.connectedSsid, .setRadio false]))
        = radioNow svc.setRadio
            (radioAfter svc.setRadio on [] (past ++ [.radioEnabled] ++ work)) history
            (.setRadio false) := by
      rw [hafter, ← hhist]
      rfl
    have hwent : svc.wentBack t (past ++ [.radioEnabled] ++ work) = noteRadioOff
        (noteDisconnect t (svc.disconnectAp history))
        (svc.setRadio (history ++ [.setRadio false])) := by
      rw [← hhist]
      rfl
    have hkept :
        (noteDisconnect t (svc.disconnectAp history)).results.hostWifi.restored = false := by
      cases svc.disconnectAp history with
      | ok u => exact hrestored
      | error ex => exact hrestored
    rw [hwent]
    rw [radioNow] at hend
    cases hoff : svc.setRadio (history ++ [.setRadio false]) with
    | ok u =>
      rw [hoff] at hend
      refine ⟨fun hon => ?_, fun _ _ hon => ?_, fun _ => ⟨hinitial, hend⟩⟩
      · cases hinitial.symm.trans hon
      · cases hend.symm.trans hon
    | error ex =>
      refine ⟨fun hon => ?_, fun _ _ _ => ⟨rfl, hkept⟩, fun h => ?_⟩
      · cases hinitial.symm.trans hon
      · cases hkept.symm.trans h
  · rw [lastly_ok hp hrun]
    have hend : radioAfter svc.setRadio on [] (past ++ .radioEnabled :: (work ++ asked))
        = radioAfter svc.setRadio on [] (past ++ [.radioEnabled] ++ work) := by
      rw [hafter]
      exact radioAfter_asked hasked _ _
    refine ⟨fun hon => hend.trans (hmid hon), fun hrestore hoff hon => ?_, fun h => ?_⟩
    · refine absurd ⟨hrestore, (hradio.answers past).trans hoff, ?_⟩ hnot
      exact (hradio.answers _).trans (hend.symm.trans hon)
    · cases hrestored.symm.trans h

end OtaServices

/-- The workflow is asked to restore the radio. -/
def OtaJob.restores : OtaJob → Bool
  | .firmware job => job.hostWifiRestore
  | .presets job => job.hostWifiRestore

namespace OtaServices

variable {svc : OtaServices} {on : Bool}

/-- What one workflow leaves of the radio. -/
theorem perform_radio (hradio : Radio svc on) (job : OtaJob) (past : List OtaCall) :
    RadioKept svc on job.restores past (svc.perform job .blank past) := by
  cases job with
  | presets job =>
    obtain ⟨-, -, hwork, hrestored⟩ := svc.tryPresets_report job
      (svc.radioEnabled (past ++ [.radioEnabled])) (past ++ [.radioEnabled])
    have hkept := lastly_radio hradio hwork hrestored job.hostWifiRestore
    rw [perform, svc.downloadPresets_run job .blank past]
    exact hkept
  | firmware job =>
    cases hops : job.idle with
    | false =>
      obtain ⟨new, h⟩ := svc.tryFirmware_reported job (svc.radioEnabled (past ++ [.radioEnabled]))
        (past ++ [.radioEnabled])
      have hkept := lastly_radio hradio h.radio h.restored job.hostWifiRestore
      rw [perform, svc.runFirmwareUpdate_run hops .blank past]
      exact hkept
    | true =>
      obtain ⟨e, hrun⟩ := svc.runFirmwareUpdate_idle hops .blank past
      rw [perform, hrun]
      have hsame := radioAfter_ask svc.setRadio on past
      refine ⟨fun h => hsame.trans h, fun _ hoff hon => ?_, fun h => (by cases h)⟩
      cases (hsame.trans hoff).symm.trans hon

/-- A sequence of workflows keeps a radio that is on, and turns one off that was off. -/
theorem performAll_radio (hradio : Radio svc on) (jobs : List OtaJob) (past : List OtaCall) :
    let after :=
      radioAfter svc.setRadio on [] (past ++ (svc.performAll past jobs).flatMap (·.2.calls))
    (radioAfter svc.setRadio on [] past = true → after = true) ∧
      (radioAfter svc.setRadio on [] past = false →
        (∀ job ∈ jobs, job.restores = true) → after = true →
        ∃ e ∈ svc.performAll past jobs, e.2.state.results.ok = false ∧
          e.2.state.results.hostWifi.restored = false) := by
  induction jobs generalizing past with
  | nil =>
    refine ⟨fun h => ?_, fun hoff _ hon => ?_⟩
    · rwa [performAll, List.flatMap_nil, List.append_nil]
    · rw [performAll, List.flatMap_nil, List.append_nil] at hon
      cases hoff.symm.trans hon
  | cons job jobs ih =>
    have hjob := perform_radio hradio job past
    obtain ⟨hstays, hoff⟩ := ih (past ++ (svc.perform job .blank past).calls)
    rw [List.append_assoc] at hstays hoff
    rw [performAll, List.flatMap_cons]
    refine ⟨fun h => hstays (hjob.stays h), fun hbefore hrestore hafter => ?_⟩
    obtain ⟨hfirst, hrest⟩ := List.forall_mem_cons.mp hrestore
    cases hmid : radioAfter svc.setRadio on [] (past ++ (svc.perform job .blank past).calls) with
    | true => exact ⟨_, List.mem_cons_self, hjob.goesOff hfirst hbefore hmid⟩
    | false =>
      obtain ⟨e, he, hreport⟩ := hoff hmid hrest hafter
      exact ⟨e, List.mem_cons_of_mem _ he, hreport⟩

/-- **The radio is left as it was found**, by any sequence of workflows, whatever fails in them but
`radio_enabled`, which is taken to answer what the radio is: one that was on is on, and one that was
off is off when every workflow was asked to restore it, unless one of them reports that it failed
to. -/
theorem radio_restored (hradio : Radio svc on) (jobs : List OtaJob) :
    let done := svc.performAll [] jobs
    let after := radioAfter svc.setRadio on [] (done.flatMap (·.2.calls))
    (on = true → after = true) ∧
      (on = false → (∀ job ∈ jobs, job.restores = true) → after = true →
        ∃ e ∈ done, e.2.state.results.ok = false ∧ e.2.state.results.hostWifi.restored = false) :=
  performAll_radio hradio jobs []

end OtaServices

/-- A radio that cannot be turned off. -/
def stuckOn (history : List OtaCall) : Except Raised Unit :=
  if history.getLast? = some (.setRadio false)
  then .error (runtimeError "nmcli radio wifi off failed") else .ok ()

/-- The services of a host whose radio is off, and cannot be turned off again. -/
def stuckRadio : OtaServices where
  __ := willing
  setRadio := stuckOn
  radioEnabled history := radioAfter stuckOn false [] history.dropLast

theorem stuckRadio_radio : Radio stuckRadio false where
  answers _ := congrArg (radioAfter stuckOn false []) List.dropLast_concat

/-- The radio stays on, and the workflow says so. -/
theorem radio_restored_stuck :
    let done := stuckRadio.performAll [] [.presets onePreset]
    radioAfter stuckRadio.setRadio false [] (done.flatMap (·.2.calls)) = true ∧
      ∃ e ∈ done, e.2.state.results.ok = false ∧ e.2.state.results.hostWifi.restored = false := by
  intro done
  have hon : radioAfter stuckRadio.setRadio false [] (done.flatMap (·.2.calls)) = true := by
    decide +kernel
  have hrestores : ∀ job ∈ [OtaJob.presets onePreset], job.restores = true := by decide
  exact ⟨hon,
    (OtaServices.radio_restored stuckRadio_radio [.presets onePreset]).2 rfl hrestores hon⟩

/-- Services whose `nmcli` fails once, at the first question. -/
def mutedRadio : OtaServices where
  __ := willing
  radioEnabled history := decide (1 < history.length)

/-- What the assumption is for: a radio that was on is turned off, and the workflow says that it has
restored it. -/
example :
    let done := mutedRadio.performAll [] [.presets onePreset]
    radioAfter mutedRadio.setRadio true [] (done.flatMap (·.2.calls)) = false ∧
      done.map (fun e => (e.2.state.results.ok, e.2.state.results.hostWifi.restored)) =
        [(true, true)] := by
  decide +kernel

end RaceLink
