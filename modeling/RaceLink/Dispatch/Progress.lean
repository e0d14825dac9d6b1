/-
# What a scene run reports

`SceneRunnerService.run` has two outputs: a result for each action, and the events it hands to a
progress callback as it goes.  The callback is any code: it may raise, and what it does before
that stays done.  Here it is a script over the link and a state of its own.

`Runner.runWithProgress` is `run` with the callback.  It keeps a trace of the dispatches and the
events, in order, which no step of the run reads.

* `Runner.runWithProgress_reports` ties results, dispatches and events together: for every scene,
  every outcome of its actions and every callback.  `Runner.Plays` says that the trace is what
  happened: each entry is a call of the listener or of `_dispatch` in the state that the entries
  before it have left.
* `Runner.runWithProgress_eq_run`: the callback is additive.  As long as it leaves the link alone,
  the run is `Runner.run`.
-/
import RaceLink.Dispatch.Runner

namespace RaceLink

open Python

/-! ## 1. Events -/

/-- The status of an event that ends an action. -/
inductive EndStatus where
  | ok
  | error
  | degraded
  | skipped
  deriving DecidableEq

/-- Its text. -/
def EndStatus.name : EndStatus → String
  | ok => "ok"
  | error => "error"
  | degraded => "degraded"
  | skipped => "skipped"

/-- The payload of a progress event, without the time the action took.  A `running` event has no
`error` field. -/
inductive ProgressEvent where
  | running (sceneKey : String) (index : Nat) (kind : Kind)
  | ended (sceneKey : String) (index : Nat) (kind : Kind) (status : EndStatus)
      (error : Option RunError)

/-- `progress_cb`, over the link and the listener's own state. -/
abbrev ProgressCb (κ : Type) := ProgressEvent → Script (Link × κ) Unit

/-- A step of a run that can be seen from outside. -/
inductive RunStep where
  | progress (event : ProgressEvent)
  | dispatched (index : Nat) (action : Action) (result : ActionResult)

/-- A run under way. -/
structure Watched (κ : Type) where
  link : Link
  listener : κ
  trace : List RunStep

/-- `_emit_progress`. -/
def emitProgress {κ : Type} (progressCb : Option (ProgressCb κ)) (event : ProgressEvent)
    (w : Watched κ) : Watched κ :=
  match progressCb with
  | none => w
  | some cb =>
    -- whether the callback returned or raised
    let (link, listener) := (cb event (w.link, w.listener)).2
    ⟨link, listener, w.trace ++ [.progress event]⟩

/-- The status that a result ends with. -/
def terminalStatus (result : ActionResult) : EndStatus :=
  if result.degraded then .degraded else if result.ok then .ok else .error

/-- The placeholder of one action after an abort. -/
def skippedResult (index : Nat) (a : Action) : ActionResult :=
  { index := index, kind := a.kind, ok := false, error := some .aborted, degraded := false
    detail := .empty }

/-- The event of an action that has been dispatched. -/
def terminalEvent (sceneKey : String) (index : Nat) (result : ActionResult) : ProgressEvent :=
  .ended sceneKey index result.kind (terminalStatus result) result.error

/-- The event of an action that has not. -/
def skippedEvent (sceneKey : String) (index : Nat) (result : ActionResult) : ProgressEvent :=
  .ended sceneKey index result.kind .skipped result.error

/-! ## 2. The run -/

namespace Runner

variable {κ : Type} (r : Runner) (progressCb : Option (ProgressCb κ)) (sceneKey : String)

/-- The inner loop of `run`: a placeholder and an event for each action after an abort. -/
def skipRest : Nat → List Action → Watched κ → List ActionResult × Watched κ
  | _, [], w => ([], w)
  | index, a :: rest, w =>
    let result := skippedResult index a
    let w := emitProgress progressCb (skippedEvent sceneKey index result) w
    let (results, w) := skipRest (index + 1) rest w
    (result :: results, w)

/-- `_dispatch`, noted in the trace. -/
def dispatchWatched (index : Nat) (a : Action) (w : Watched κ) : ActionResult × Watched κ :=
  let (result, link) := r.dispatch (r.knownGroupIds w.link.devices) index a w.link
  (result, { w with link := link, trace := w.trace ++ [.dispatched index a result] })

/-- The loop of `run`. -/
def runWatched (stopOnError : Bool) :
    Nat → List Action → Watched κ → (List ActionResult × Option Nat) × Watched κ
  | _, [], w => (([], none), w)
  | index, a :: rest, w =>
    let w := emitProgress progressCb (.running sceneKey index a.kind) w
    let (result, w) := r.dispatchWatched index a w
    let w := emitProgress progressCb (terminalEvent sceneKey index result) w
    if aborts stopOnError result then
      let (placeholders, w) := skipRest progressCb sceneKey (index + 1) rest w
      ((result :: placeholders, some index), w)
    else
      let ((results, aborted), w) := runWatched stopOnError (index + 1) rest w
      ((result :: results, aborted), w)

/-- `run` with a callback, for the scene that was given or found. -/
def runWithProgress (scene : Option Scene) (link : Link) (listener : κ) :
    SceneRunResult × Watched κ :=
  match scene with
  | none => (⟨sceneKey, false, some "scene_not_found", [], none⟩, ⟨link, listener, []⟩)
  | some scene =>
    let ((results, aborted), w) := r.runWatched progressCb sceneKey
      (scene.stopOnError.getD true) 0 scene.actions ⟨link, listener, []⟩
    (⟨sceneKey, results.all (·.ok), none, results, aborted⟩, w)

end Runner

/-! ## 3. What it should report -/

/-- Neither ok nor degraded. -/
def ActionResult.failed (result : ActionResult) : Bool := !result.ok && !result.degraded

/-- Where a scene stops: at its first failure, if it is to stop at all. -/
def stopsAt (stopOnError : Bool) (results : List ActionResult) : Option Nat :=
  if stopOnError then results.findIdx? (·.failed) else none

/-- How many of the actions are dispatched. -/
def dispatchCount (stopOnError : Bool) (results : List ActionResult) : Nat :=
  match stopsAt stopOnError results with
  | some i => i + 1
  | none => results.length

/-- The events of a run, in order, of which the first `count` actions are dispatched. -/
def expectedEvents (sceneKey : String) :
    (count index : Nat) → List (Action × ActionResult) → List ProgressEvent
  | _, _, [] => []
  | 0, index, (_, result) :: rest =>
    skippedEvent sceneKey index result :: expectedEvents sceneKey 0 (index + 1) rest
  | count + 1, index, (a, result) :: rest =>
    .running sceneKey index a.kind :: terminalEvent sceneKey index result ::
      expectedEvents sceneKey count (index + 1) rest

/-- The events of a trace. -/
def eventsOf (trace : List RunStep) : List ProgressEvent :=
  trace.filterMap fun
    | .progress event => some event
    | .dispatched _ _ _ => none

/-- The dispatches of a trace: index, action and result. -/
def dispatchesOf (trace : List RunStep) : List (Nat × Action × ActionResult) :=
  trace.filterMap fun
    | .progress _ => none
    | .dispatched index a result => some (index, a, result)

/-- The actions and their results, with their indices. -/
def numbered (index : Nat) : List (Action × ActionResult) → List (Nat × Action × ActionResult)
  | [] => []
  | (a, result) :: rest => (index, a, result) :: numbered (index + 1) rest

/-- The trace is what has happened between two states: each event was handed to the listener, and
each action was dispatched by `_dispatch`, with the result that is noted, from the state that the
steps before have left. -/
inductive Runner.Plays {κ : Type} (r : Runner) (progressCb : Option (ProgressCb κ)) :
    Link × κ → List RunStep → Link × κ → Prop where
  | done (s : Link × κ) : Plays r progressCb s [] s
  | progress {cb : ProgressCb κ} {event : ProgressEvent} {s s' : Link × κ} {rest : List RunStep} :
      progressCb = some cb → Plays r progressCb (cb event s).2 rest s' →
      Plays r progressCb s (.progress event :: rest) s'
  | dispatched {index : Nat} {a : Action} {result : ActionResult} {link link' : Link}
      {listener : κ} {s' : Link × κ} {rest : List RunStep} :
      r.dispatch (r.knownGroupIds link.devices) index a link = (result, link') →
      Plays r progressCb (link', listener) rest s' →
      Plays r progressCb (link, listener) (.dispatched index a result :: rest) s'

/-- A run reports what it did. -/
structure Reports (sceneKey : String) (stopOnError watched : Bool) (actions : List Action)
    (result : SceneRunResult) (trace : List RunStep) : Prop where
  /-- One result per action. -/
  length : result.actions.length = actions.length
  /-- In order. -/
  indices : ∀ (i : Nat) (res : ActionResult), result.actions[i]? = some res → res.index = i
  /-- The first failure stops the scene. -/
  stopped : stopOnError = true → ∀ i, result.actions.findIdx? (·.failed) = some i →
    result.abortedAtIndex = some i ∧
      dispatchesOf trace = numbered 0 ((actions.zip result.actions).take (i + 1)) ∧
      ∀ res ∈ result.actions.drop (i + 1), res.ok = false ∧ res.error = some .aborted
  /-- Nothing else does. -/
  completed : (stopOnError = false ∨ result.actions.findIdx? (·.failed) = none) →
    result.abortedAtIndex = none ∧
      dispatchesOf trace = numbered 0 (actions.zip result.actions)
  ok : result.ok = true ↔ ∀ res ∈ result.actions, res.ok = true
  /-- The events; there are none without a callback. -/
  events : eventsOf trace = if watched then
      expectedEvents sceneKey (dispatchCount stopOnError result.actions) 0
        (actions.zip result.actions)
    else []

/-! ## 4. The loops -/

/-- The trace of one event. -/
def told (watched : Bool) (event : ProgressEvent) : List RunStep :=
  if watched then [.progress event] else []

/-- The trace of a run, of which the first `count` actions are dispatched. -/
def expectedTrace (watched : Bool) (sceneKey : String) :
    (count index : Nat) → List (Action × ActionResult) → List RunStep
  | _, _, [] => []
  | 0, index, (_, result) :: rest =>
    told watched (skippedEvent sceneKey index result) ++
      expectedTrace watched sceneKey 0 (index + 1) rest
  | count + 1, index, (a, result) :: rest =>
    told watched (.running sceneKey index a.kind) ++ .dispatched index a result ::
      (told watched (terminalEvent sceneKey index result) ++
        expectedTrace watched sceneKey count (index + 1) rest)

theorem eventsOf_append (xs ys : List RunStep) :
    eventsOf (xs ++ ys) = eventsOf xs ++ eventsOf ys :=
  List.filterMap_append

theorem dispatchesOf_append (xs ys : List RunStep) :
    dispatchesOf (xs ++ ys) = dispatchesOf xs ++ dispatchesOf ys :=
  List.filterMap_append

theorem eventsOf_told (watched : Bool) (event : ProgressEvent) :
    eventsOf (told watched event) = if watched then [event] else [] := by
  cases watched <;> rfl

theorem dispatchesOf_told (watched : Bool) (event : ProgressEvent) :
    dispatchesOf (told watched event) = [] := by
  cases watched <;> rfl

theorem eventsOf_dispatched (index : Nat) (a : Action) (result : ActionResult)
    (rest : List RunStep) : eventsOf (.dispatched index a result :: rest) = eventsOf rest := rfl

theorem dispatchesOf_dispatched (index : Nat) (a : Action) (result : ActionResult)
    (rest : List RunStep) :
    dispatchesOf (.dispatched index a result :: rest) = (index, a, result) :: dispatchesOf rest :=
  rfl

theorem eventsOf_expectedTrace (watched : Bool) (sceneKey : String) (count index : Nat)
    (played : List (Action × ActionResult)) :
    eventsOf (expectedTrace watched sceneKey count index played)
      = if watched then expectedEvents sceneKey count index played else [] := by
  induction played generalizing count index with
  | nil => cases count <;> cases watched <;> rfl
  | cons pair rest ih =>
    obtain ⟨a, result⟩ := pair
    cases count with
    | zero =>
      rw [expectedTrace, eventsOf_append, eventsOf_told, ih, expectedEvents]
      cases watched <;> rfl
    | succ count =>
      rw [expectedTrace, eventsOf_append, eventsOf_told, eventsOf_dispatched, eventsOf_append,
        eventsOf_told, ih, expectedEvents]
      cases watched <;> rfl

theorem dispatchesOf_expectedTrace (watched : Bool) (sceneKey : String) (count index : Nat)
    (played : List (Action × ActionResult)) :
    dispatchesOf (expectedTrace watched sceneKey count index played)
      = numbered index (played.take count) := by
  induction played generalizing count index with
  | nil => cases count <;> rfl
  | cons pair rest ih =>
    obtain ⟨a, result⟩ := pair
    cases count with
    | zero =>
      rw [expectedTrace, dispatchesOf_append, dispatchesOf_told, ih]
      rfl
    | succ count =>
      rw [expectedTrace, dispatchesOf_append, dispatchesOf_told, dispatchesOf_dispatched,
        dispatchesOf_append, dispatchesOf_told, ih]
      rfl

theorem trace_emitProgress {κ : Type} (progressCb : Option (ProgressCb κ)) (event : ProgressEvent)
    (w : Watched κ) :
    (emitProgress progressCb event w).trace = w.trace ++ told progressCb.isSome event := by
  cases progressCb with
  | none => exact (List.append_nil _).symm
  | some cb => rfl

namespace Runner

variable {κ : Type} (r : Runner) (progressCb : Option (ProgressCb κ)) (sceneKey : String)

/-- The results of the inner loop are the placeholders. -/
theorem skipRest_results (index : Nat) (actions : List Action) (w : Watched κ) :
    (skipRest progressCb sceneKey index actions w).1 = skipped index actions := by
  induction actions generalizing index w with
  | nil => rfl
  | cons a rest ih =>
    rw [skipRest, skipped, ← ih]
    rfl

theorem skipRest_trace (index : Nat) (actions : List Action) (w : Watched κ) :
    (skipRest progressCb sceneKey index actions w).2.trace = w.trace ++
      expectedTrace progressCb.isSome sceneKey 0 index (actions.zip (skipped index actions)) := by
  induction actions generalizing index w with
  | nil => exact (List.append_nil _).symm
  | cons a rest ih =>
    have hrest := ih (index + 1) (emitProgress progressCb (skippedEvent sceneKey index
      (skippedResult index a)) w)
    rw [trace_emitProgress, List.append_assoc] at hrest
    exact hrest

/-- A placeholder says so, and is for the action at its place. -/
theorem skipped_spec (index : Nat) (actions : List Action) :
    (skipped index actions).length = actions.length ∧
      (∀ i res, (skipped index actions)[i]? = some res → res.index = index + i) ∧
      ∀ res ∈ skipped index actions, res.ok = false ∧ res.error = some .aborted := by
  induction actions generalizing index with
  | nil => simp [skipped]
  | cons a rest ih =>
    obtain ⟨hlength, hindex, haborted⟩ := ih (index + 1)
    refine ⟨congrArg (· + 1) hlength, ?_, List.forall_mem_cons.mpr ⟨⟨rfl, rfl⟩, haborted⟩⟩
    intro i res hres
    cases i with
    | zero =>
      cases hres
      rfl
    | succ i =>
      rw [hindex i res hres]
      omega

/-- A result carries the index of its action. -/
theorem index_executePlan {index : Nat} {plan : ActionDispatchPlan} {link link' : Link}
    {result : ActionResult} (h : r.executePlan index plan link = (.ok result, link')) :
    result.index = index := by
  unfold executePlan at h
  split at h
  · cases h
    rfl
  · obtain ⟨outcomes, _, -, h⟩ := Script.bind_eq_ok.mp h
    cases h
    unfold foldOutcomes
    dsimp only
    split <;> rfl

theorem index_handle {known : List Int} {index : Nat} {a : Action} {link link' : Link}
    {result : ActionResult} (h : r.handle known index a link = (.ok result, link')) :
    result.index = index := by
  have hplanned : ∀ a, r.planAndExecute known index a link = (.ok result, link') →
      result.index = index := by
    intro a h
    obtain ⟨_, _, -, h⟩ := Script.bind_eq_ok.mp h
    obtain ⟨plan, _, -, h⟩ := Script.bind_eq_ok.mp h
    exact r.index_executePlan h
  cases a with
  | delay durationMs =>
    cases h
    rfl
  | effect e => exact hplanned _ h
  | sync => exact hplanned _ h
  | offsetGroup target offset actions => exact hplanned _ h

theorem index_dispatch (known : List Int) (index : Nat) (a : Action) (link : Link) :
    (r.dispatch known index a link).1.index = index := by
  unfold dispatch Script.recover
  rcases hrun : r.handle known index a link with ⟨outcome, link'⟩
  cases outcome with
  | ok result => exact r.index_handle hrun
  | error e => rfl

end Runner

/-- Past a result that does not stop the scene. -/
theorem stopsAt_cons {stopOnError : Bool} {result : ActionResult}
    (h : ¬ Runner.aborts stopOnError result = true) (results : List ActionResult) :
    stopsAt stopOnError (result :: results) = (stopsAt stopOnError results).map (· + 1) := by
  cases stopOnError with
  | false => rfl
  | true =>
    have hfailed : result.failed = false := by
      simpa [Runner.aborts, ActionResult.failed] using h
    simp [stopsAt, List.findIdx?_cons, hfailed]

/-- At a result that does. -/
theorem stopsAt_cons_of_aborts {stopOnError : Bool} {result : ActionResult}
    (h : Runner.aborts stopOnError result = true) (results : List ActionResult) :
    stopsAt stopOnError (result :: results) = some 0 := by
  simp only [Runner.aborts, Bool.and_eq_true, Bool.not_eq_true'] at h
  simp [stopsAt, List.findIdx?_cons, ActionResult.failed, h.1.1, h.1.2, h.2]

/-- What the loop has done when it started at an index. -/
structure LoopReports (watched : Bool) (sceneKey : String) (stopOnError : Bool) (index : Nat)
    (actions : List Action) (results : List ActionResult) (aborted : Option Nat)
    (before after : List RunStep) : Prop where
  length : results.length = actions.length
  indices : ∀ (i : Nat) (res : ActionResult), results[i]? = some res → res.index = index + i
  aborted : aborted = (stopsAt stopOnError results).map (index + ·)
  skipped : ∀ i, stopsAt stopOnError results = some i →
    ∀ res ∈ results.drop (i + 1), res.ok = false ∧ res.error = some .aborted
  trace : after = before ++ expectedTrace watched sceneKey (dispatchCount stopOnError results) index
    (actions.zip results)

theorem dispatchCount_cons {stopOnError : Bool} {result : ActionResult}
    (h : ¬ Runner.aborts stopOnError result = true) (results : List ActionResult) :
    dispatchCount stopOnError (result :: results) = dispatchCount stopOnError results + 1 := by
  unfold dispatchCount
  rw [stopsAt_cons h]
  cases stopsAt stopOnError results <;> rfl

theorem dispatchCount_cons_of_aborts {stopOnError : Bool} {result : ActionResult}
    (h : Runner.aborts stopOnError result = true) (results : List ActionResult) :
    dispatchCount stopOnError (result :: results) = 1 := by
  unfold dispatchCount
  rw [stopsAt_cons_of_aborts h]

/-- The trace of one iteration. -/
def iterationTrace (watched : Bool) (sceneKey : String) (index : Nat) (a : Action)
    (result : ActionResult) : List RunStep :=
  told watched (.running sceneKey index a.kind) ++
    .dispatched index a result :: told watched (terminalEvent sceneKey index result)

theorem expectedTrace_cons (watched : Bool) (sceneKey : String) (count index : Nat) (a : Action)
    (result : ActionResult) (rest : List (Action × ActionResult)) :
    expectedTrace watched sceneKey (count + 1) index ((a, result) :: rest) =
      iterationTrace watched sceneKey index a result ++
        expectedTrace watched sceneKey count (index + 1) rest := by
  simp [expectedTrace, iterationTrace]

theorem indices_cons {index : Nat} {result : ActionResult} {results : List ActionResult}
    (hindex : result.index = index)
    (h : ∀ (i : Nat) (res : ActionResult), results[i]? = some res → res.index = index + 1 + i) :
    ∀ (i : Nat) (res : ActionResult),
      (result :: results)[i]? = some res → res.index = index + i := by
  intro i res hres
  cases i with
  | zero =>
    cases hres
    exact hindex
  | succ i =>
    rw [h i res hres]
    omega

namespace LoopReports

variable {watched stopOnError : Bool} {sceneKey : String} {index : Nat} {a : Action}
  {rest : List Action} {result : ActionResult}

/-- The loop stops at its first action. -/
theorem stop (haborts : Runner.aborts stopOnError result = true) (hindex : result.index = index)
    (before : List RunStep) :
    LoopReports watched sceneKey stopOnError index (a :: rest)
      (result :: Runner.skipped (index + 1) rest) (some index) before
      (before ++ iterationTrace watched sceneKey index a result ++ expectedTrace watched sceneKey 0
        (index + 1) (rest.zip (Runner.skipped (index + 1) rest))) := by
  obtain ⟨hlength, hindices, hskipped⟩ := Runner.skipped_spec (index + 1) rest
  refine ⟨congrArg (· + 1) hlength, indices_cons hindex hindices, ?_, ?_, ?_⟩
  · rw [stopsAt_cons_of_aborts haborts]
    rfl
  · intro i hi res hres
    rw [stopsAt_cons_of_aborts haborts] at hi
    cases hi
    exact hskipped res hres
  · rw [dispatchCount_cons_of_aborts haborts, List.zip_cons_cons, expectedTrace_cons,
      List.append_assoc]

/-- The loop goes on after its first action. -/
theorem cons {results : List ActionResult} {aborted : Option Nat} {before after : List RunStep}
    (haborts : ¬ Runner.aborts stopOnError result = true) (hindex : result.index = index)
    (h : LoopReports watched sceneKey stopOnError (index + 1) rest results aborted
      (before ++ iterationTrace watched sceneKey index a result) after) :
    LoopReports watched sceneKey stopOnError index (a :: rest) (result :: results) aborted before
      after := by
  refine ⟨congrArg (· + 1) h.length, indices_cons hindex h.indices, ?_, ?_, ?_⟩
  · rw [stopsAt_cons haborts, h.aborted, Option.map_map]
    congr 1
    funext i
    show index + 1 + i = index + (i + 1)
    omega
  · intro i hi res hres
    rw [stopsAt_cons haborts, Option.map_eq_some_iff] at hi
    obtain ⟨j, hj, rfl⟩ := hi
    exact h.skipped j hj res hres
  · rw [dispatchCount_cons haborts, h.trace, List.zip_cons_cons, expectedTrace_cons,
      List.append_assoc]

end LoopReports

namespace Runner

variable {κ : Type} (r : Runner) (progressCb : Option (ProgressCb κ)) (sceneKey : String)

/-- One run is played after the other. -/
theorem Plays.append {r : Runner} {progressCb : Option (ProgressCb κ)} {s₁ s₂ s₃ : Link × κ}
    {xs ys : List RunStep} (h : r.Plays progressCb s₁ xs s₂) (h' : r.Plays progressCb s₂ ys s₃) :
    r.Plays progressCb s₁ (xs ++ ys) s₃ := by
  induction h with
  | done s => exact h'
  | progress hcb _ ih => exact .progress hcb (ih h')
  | dispatched hrun _ ih => exact .dispatched hrun (ih h')

/-- What a part of the run adds to the trace is what it does. -/
def PlaysOn (w w' : Watched κ) : Prop :=
  ∃ steps, w'.trace = w.trace ++ steps ∧
    r.Plays progressCb (w.link, w.listener) steps (w'.link, w'.listener)

variable {r progressCb} in
theorem PlaysOn.trans {w₁ w₂ w₃ : Watched κ} (h : r.PlaysOn progressCb w₁ w₂)
    (h' : r.PlaysOn progressCb w₂ w₃) : r.PlaysOn progressCb w₁ w₃ := by
  obtain ⟨xs, hxs, hplays⟩ := h
  obtain ⟨ys, hys, hplays'⟩ := h'
  exact ⟨xs ++ ys, by rw [hys, hxs, List.append_assoc], hplays.append hplays'⟩

theorem playsOn_emitProgress (event : ProgressEvent) (w : Watched κ) :
    r.PlaysOn progressCb w (emitProgress progressCb event w) := by
  cases progressCb with
  | none => exact ⟨[], (List.append_nil _).symm, .done _⟩
  | some cb => exact ⟨[.progress event], rfl, .progress rfl (.done _)⟩

theorem playsOn_dispatchWatched (index : Nat) (a : Action) (w : Watched κ) :
    r.PlaysOn progressCb w (r.dispatchWatched index a w).2 :=
  ⟨[.dispatched index a (r.dispatchWatched index a w).1], rfl, .dispatched rfl (.done _)⟩

theorem playsOn_skipRest (index : Nat) (actions : List Action) (w : Watched κ) :
    r.PlaysOn progressCb w (skipRest progressCb sceneKey index actions w).2 := by
  induction actions generalizing index w with
  | nil => exact ⟨[], (List.append_nil _).symm, .done _⟩
  | cons a rest ih => exact (r.playsOn_emitProgress progressCb _ w).trans (ih (index + 1) _)

/-- **The trace is what happens**, by induction on the actions that are left. -/
theorem playsOn_runWatched (stopOnError : Bool) (index : Nat) (actions : List Action)
    (w : Watched κ) :
    r.PlaysOn progressCb w (r.runWatched progressCb sceneKey stopOnError index actions w).2 := by
  induction actions generalizing index w with
  | nil => exact ⟨[], (List.append_nil _).symm, .done _⟩
  | cons a rest ih =>
    rw [runWatched]
    dsimp only
    have hstarted := r.playsOn_emitProgress progressCb (.running sceneKey index a.kind) w
    generalize emitProgress progressCb (.running sceneKey index a.kind) w = w₁ at hstarted ⊢
    have hdispatched := hstarted.trans (r.playsOn_dispatchWatched progressCb index a w₁)
    generalize r.dispatchWatched index a w₁ = outcome at hdispatched ⊢
    obtain ⟨result, w₂⟩ := outcome
    have hended := hdispatched.trans
      (r.playsOn_emitProgress progressCb (terminalEvent sceneKey index result) w₂)
    split
    · exact hended.trans (r.playsOn_skipRest progressCb sceneKey (index + 1) rest _)
    · exact hended.trans (ih (index + 1) _)

/-- **The loop**, by induction on the actions that are left. -/
theorem runWatched_reports (stopOnError : Bool) (index : Nat) (actions : List Action)
    (w : Watched κ) :
    LoopReports progressCb.isSome sceneKey stopOnError index actions
      (r.runWatched progressCb sceneKey stopOnError index actions w).1.1
      (r.runWatched progressCb sceneKey stopOnError index actions w).1.2 w.trace
      (r.runWatched progressCb sceneKey stopOnError index actions w).2.trace := by
  induction actions generalizing index w with
  | nil =>
    have hat : stopsAt stopOnError [] = none := by cases stopOnError <;> rfl
    refine ⟨rfl, ?_, ?_, ?_, ?_⟩
    · simp [runWatched]
    · rw [runWatched, hat]
      rfl
    · simp [runWatched]
    · simp [runWatched, expectedTrace]
  | cons a rest ih =>
    -- the three steps of an iteration, each with the state it leaves
    obtain ⟨w₁, hw₁⟩ : ∃ w₁, emitProgress progressCb (.running sceneKey index a.kind) w = w₁ :=
      ⟨_, rfl⟩
    obtain ⟨result, w₂, hw₂⟩ : ∃ result w₂, r.dispatchWatched index a w₁ = (result, w₂) :=
      ⟨_, _, rfl⟩
    obtain ⟨w₃, hw₃⟩ : ∃ w₃,
        emitProgress progressCb (terminalEvent sceneKey index result) w₂ = w₃ :=
      ⟨_, rfl⟩
    have hindex : result.index = index := by
      have hdispatch := r.index_dispatch (r.knownGroupIds w₁.link.devices) index a w₁.link
      rw [dispatchWatched, Prod.mk.injEq] at hw₂
      rw [← hw₂.1]
      exact hdispatch
    have htrace : w₃.trace
        = w.trace ++ iterationTrace progressCb.isSome sceneKey index a result := by
      rw [dispatchWatched, Prod.mk.injEq] at hw₂
      rw [← hw₃, trace_emitProgress, ← hw₂.2, ← hw₁, trace_emitProgress]
      simp [iterationTrace, ← hw₂.1, ← hw₁]
    have hrun : r.runWatched progressCb sceneKey stopOnError index (a :: rest) w
        = if aborts stopOnError result then
            ((result :: (skipRest progressCb sceneKey (index + 1) rest w₃).1, some index),
              (skipRest progressCb sceneKey (index + 1) rest w₃).2)
          else
            ((result :: (r.runWatched progressCb sceneKey stopOnError (index + 1) rest w₃).1.1,
                (r.runWatched progressCb sceneKey stopOnError (index + 1) rest w₃).1.2),
              (r.runWatched progressCb sceneKey stopOnError (index + 1) rest w₃).2) := by
      simp only [runWatched, hw₁, hw₂, hw₃]
    rw [hrun]
    split
    · next haborts =>
      dsimp only
      rw [skipRest_results, skipRest_trace, htrace]
      exact .stop haborts hindex w.trace
    · next haborts => exact .cons haborts hindex (htrace ▸ ih (index + 1) w₃)

/-- **What a scene run reports**, for every scene, every outcome of its actions and every callback,
raising or not: and the trace that it is held against is what has happened. -/
theorem runWithProgress_reports (scene : Scene) (link : Link) (listener : κ) :
    Reports sceneKey (scene.stopOnError.getD true) progressCb.isSome scene.actions
        (r.runWithProgress progressCb sceneKey (some scene) link listener).1
        (r.runWithProgress progressCb sceneKey (some scene) link listener).2.trace ∧
      r.Plays progressCb (link, listener)
        (r.runWithProgress progressCb sceneKey (some scene) link listener).2.trace
        ((r.runWithProgress progressCb sceneKey (some scene) link listener).2.link,
          (r.runWithProgress progressCb sceneKey (some scene) link listener).2.listener) := by
  obtain ⟨steps, hsteps, hplays⟩ := r.playsOn_runWatched progressCb sceneKey
    (scene.stopOnError.getD true) 0 scene.actions ⟨link, listener, []⟩
  obtain ⟨hlength, hindex, haborted, hskipped, htrace⟩ := r.runWatched_reports progressCb sceneKey
    (scene.stopOnError.getD true) 0 scene.actions ⟨link, listener, []⟩
  rw [runWithProgress]
  generalize r.runWatched progressCb sceneKey (scene.stopOnError.getD true) 0 scene.actions
    ⟨link, listener, []⟩ = run at *
  obtain ⟨⟨results, aborted⟩, w⟩ := run
  dsimp only at *
  rw [List.nil_append] at htrace hsteps
  refine ⟨⟨hlength, fun i res hres => (hindex i res hres).trans (Nat.zero_add i), ?_, ?_, ?_, ?_⟩,
    hsteps ▸ hplays⟩
  · intro hstop i hi
    have hat : stopsAt (scene.stopOnError.getD true) results = some i := by
      rw [stopsAt, if_pos hstop, hi]
    refine ⟨?_, ?_, hskipped i hat⟩
    · rw [haborted, hat]
      exact congrArg some (Nat.zero_add i)
    · rw [htrace, dispatchesOf_expectedTrace, dispatchCount, hat]
  · intro hcompleted
    have hat : stopsAt (scene.stopOnError.getD true) results = none := by
      rw [stopsAt]
      split
      · next hstop =>
        rcases hcompleted with hfalse | hnone
        · rw [hfalse] at hstop
          cases hstop
        · exact hnone
      · rfl
    refine ⟨by rw [haborted, hat]; rfl, ?_⟩
    rw [htrace, dispatchesOf_expectedTrace, dispatchCount, hat]
    congr 1
    rw [List.take_of_length_le]
    rw [List.length_zip]
    exact Nat.min_le_right _ _
  · exact List.all_eq_true
  · rw [htrace, eventsOf_expectedTrace]

/-! ## 5. The callback is additive -/

/-- A callback that leaves the link alone. -/
def LeavesLink (progressCb : Option (ProgressCb κ)) : Prop :=
  ∀ cb, progressCb = some cb → ∀ event link listener, (cb event (link, listener)).2.1 = link

variable {progressCb}

theorem link_emitProgress (h : LeavesLink progressCb) (event : ProgressEvent) (w : Watched κ) :
    (emitProgress progressCb event w).link = w.link := by
  cases progressCb with
  | none => rfl
  | some cb => exact h cb rfl event w.link w.listener

theorem link_skipRest (h : LeavesLink progressCb) (index : Nat) (actions : List Action)
    (w : Watched κ) : (skipRest progressCb sceneKey index actions w).2.link = w.link := by
  induction actions generalizing index w with
  | nil => rfl
  | cons a rest ih =>
    rw [skipRest]
    exact (ih (index + 1) _).trans (link_emitProgress h _ w)

theorem runWatched_eq_runActions (h : LeavesLink progressCb) (stopOnError : Bool) (index : Nat)
    (actions : List Action) (w : Watched κ) :
    (r.runWatched progressCb sceneKey stopOnError index actions w).1
        = (r.runActions stopOnError index actions w.link).1 ∧
      (r.runWatched progressCb sceneKey stopOnError index actions w).2.link
        = (r.runActions stopOnError index actions w.link).2 := by
  induction actions generalizing index w with
  | nil => exact ⟨rfl, rfl⟩
  | cons a rest ih =>
    have hlink := link_emitProgress h (.running sceneKey index a.kind) w
    simp only [runWatched, runActions, dispatchWatched, hlink]
    generalize r.dispatch (r.knownGroupIds w.link.devices) index a w.link = outcome
    obtain ⟨result, link⟩ := outcome
    dsimp only
    split
    · exact ⟨by rw [skipRest_results], by rw [link_skipRest sceneKey h, link_emitProgress h]⟩
    · have hrest := fun w₂ : Watched κ => ih (index + 1)
        (emitProgress progressCb (terminalEvent sceneKey index result) w₂)
      simp only [link_emitProgress h] at hrest
      exact ⟨congrArg (fun rest : List ActionResult × Option Nat => (result :: rest.1, rest.2))
        (hrest _).1, (hrest _).2⟩

/-- **The callback is additive**: one that leaves the link alone changes neither the results nor
what is sent. -/
theorem runWithProgress_eq_run (h : LeavesLink progressCb) (scene : Option Scene) (link : Link)
    (listener : κ) :
    (r.runWithProgress progressCb sceneKey scene link listener).1 = (r.run sceneKey scene link).1 ∧
      (r.runWithProgress progressCb sceneKey scene link listener).2.link
        = (r.run sceneKey scene link).2 := by
  cases scene with
  | none => exact ⟨rfl, rfl⟩
  | some scene =>
    obtain ⟨hresults, hlink⟩ := r.runWatched_eq_runActions sceneKey h
      (scene.stopOnError.getD true) 0 scene.actions ⟨link, listener, []⟩
    refine ⟨?_, hlink⟩
    simp only [runWithProgress, run, hresults]

end Runner

end RaceLink
