/-
# Calls that raise

A caller that gets an exception from a store counts on nothing having happened.  `failed_calls` says
exactly when that is so, for both stores and every call: unless the call is a `create` (or ends in
one) that has passed its checks, and the write fails.  Then the new entry is in the cached list
already.
-/
import RaceLink.Stores.Ids

namespace RaceLink

open Python CachedFile

/-! ## 1. The scenes -/

namespace SceneService

/-- What a caller can read. -/
structure Reads where
  list : Except PyErr (List Scene)
  get : String → Except PyErr (Option Scene)
  getById : PyVal → Except PyErr (Option Scene)

/-- `list`, `get` and `get_by_id`, in a state of the service. -/
def reads (env : Env) (s : Store) : Reads where
  list := (list env s).1
  get key := (get env key s).1
  getById sceneId := (getById env sceneId s).1

/-- The reads, from what `_items` gives. -/
def view (scenes : Except PyErr (List Scene)) : Reads where
  list := scenes.map fun scenes => scenes.map cloneScene
  get key := scenes.map fun scenes => (scenes.find? (·.key == key)).map cloneScene
  getById sceneId :=
    match int sceneId with
    | .error .typeError => .ok none
    | .error (.valueError _) => .ok none
    | .error e => .error e
    | .ok sid => scenes.map fun scenes => (scenes.find? (·.id == sid)).map cloneScene

theorem reads_eq (env : Env) (s : Store) : reads env s = view (items env s).1 := by
  have hgetById : ∀ sceneId,
      (getById env sceneId s).1 = (view (items env s).1).getById sceneId := by
    intro sceneId
    simp only [getById, view]
    cases int sceneId with
    | ok sid => exact Script.bind_pure_result _ _ s
    | error e => cases e <;> rfl
  rw [reads, funext hgetById]
  have hlist : (list env s).1 = (view (items env s).1).list := Script.bind_pure_result _ _ s
  have hget : ∀ key, (get env key s).1 = (view (items env s).1).get key := fun key =>
    Script.bind_pure_result _ _ s
  rw [hlist, funext hget]

theorem view_append (scenes : List Scene) (scene : Scene) :
    view (.ok (scenes ++ [scene])) ≠ view (.ok scenes) := by
  intro h
  have hlist : (scenes ++ [scene]).map cloneScene = scenes.map cloneScene :=
    Except.ok.inj (congrArg Reads.list h)
  have hlength := congrArg List.length hlist
  simp at hlength

/-- A call from a faithful state. -/
theorem faithful_step {s : Store} (c : Env × Call) (h : sceneService.Faithful s) :
    step s c = fresh s.file ∨ ∃ makes raised, Outcome sceneService c.1 (c.2.Lost c.1 s) makes s
      raised (step s c) := by
  by_cases hc : c.2 = .restart
  · left
    rw [step, hc]
    rfl
  · exact Or.inr ⟨_, _, call_outcome h.seeded hc⟩

/-- **Scenes**: a call that raises is not seen, exactly when it loses no scene. -/
theorem unseen_iff {file : File} {calls : List (Env × Call)}
    (hnone : LosesNone step (fun c s => c.2.Lost c.1 s) (fresh file) calls) {env : Env} {c : Call}
    (hraised : raised (c.perform env (calls.foldl step (fresh file))).1 = true) :
    Unseen sceneService reads env (calls.foldl step (fresh file))
      (step (calls.foldl step (fresh file)) (env, c)) ↔
      ¬ c.Lost env (calls.foldl step (fresh file)) := by
  have hstart : sceneService.Faithful (fresh file) :=
    sceneService.faithful_start sceneService_lawful trivial
  have hfaithful := sceneService.faithful_run sceneService_lawful
    (fun s c hs => faithful_step c hs) hstart hnone
  have hc : c ≠ .restart := by
    rintro rfl
    cases hraised
  have ho := @call_outcome env _ hfaithful.seeded c hc
  rw [Does, hraised] at ho
  exact ho.unseen_iff sceneService_lawful reads_eq view_append hfaithful

end SceneService

/-! ## 2. The presets -/

namespace RLPresetsService

open RlPresets

/-- What a caller can read. -/
structure Reads where
  list : Except PyErr (List Preset)
  get : String → Except PyErr (Option Preset)
  getById : PyVal → Except PyErr (Option Preset)

/-- `list`, `get` and `get_by_id`, in a state of the service. -/
def reads (env : Env) (s : Store) : Reads where
  list := (list env s).1
  get key := (get env key s).1
  getById presetId := (getById env presetId s).1

/-- The reads, from what `_items` gives. -/
def view (presets : Except PyErr (List Preset)) : Reads where
  list := presets
  get key := presets.map fun presets => presets.find? (·.key == key)
  getById presetId :=
    match int presetId with
    | .error .typeError => .ok none
    | .error (.valueError _) => .ok none
    | .error e => .error e
    | .ok pid => presets.map fun presets => presets.find? (·.id == pid)

theorem reads_eq (env : Env) (s : Store) : reads env s = view (items env s).1 := by
  have hgetById : ∀ presetId,
      (getById env presetId s).1 = (view (items env s).1).getById presetId := by
    intro presetId
    simp only [getById, view]
    cases int presetId with
    | ok pid => exact Script.bind_pure_result _ _ s
    | error e => cases e <;> rfl
  rw [reads, funext hgetById]
  have hget : ∀ key, (get env key s).1 = (view (items env s).1).get key := fun key =>
    Script.bind_pure_result _ _ s
  rw [funext hget]
  rfl

theorem view_append (presets : List Preset) (preset : Preset) :
    view (.ok (presets ++ [preset])) ≠ view (.ok presets) := by
  intro h
  have hlist : presets ++ [preset] = presets := Except.ok.inj (congrArg Reads.list h)
  simp at hlist

/-- A call from a faithful state. -/
theorem faithful_step {s : Store} (c : Env × Call) (h : presetService.Faithful s) :
    step s c = fresh s.file ∨ ∃ makes raised, Outcome presetService c.1 (c.2.Lost c.1 s) makes s
      raised (step s c) := by
  by_cases hc : c.2 = .restart
  · left
    rw [step, hc]
    rfl
  · exact Or.inr ⟨_, _, call_outcome h.seeded hc⟩

/-- **Presets**: a call that raises is not seen, exactly when it loses no preset. -/
theorem unseen_iff {file : File} (hparsed : ParsedFile file) {calls : List (Env × Call)}
    (hnone : LosesNone step (fun c s => c.2.Lost c.1 s) (fresh file) calls) {env : Env} {c : Call}
    (hraised : raised (c.perform env (calls.foldl step (fresh file))).1 = true) :
    Unseen presetService reads env (calls.foldl step (fresh file))
      (step (calls.foldl step (fresh file)) (env, c)) ↔
      ¬ c.Lost env (calls.foldl step (fresh file)) := by
  have hstart : presetService.Faithful (fresh file) :=
    presetService.faithful_start presetService_lawful hparsed
  have hfaithful := presetService.faithful_run presetService_lawful
    (fun s c hs => faithful_step c hs) hstart hnone
  have hc : c ≠ .restart := by
    rintro rfl
    cases hraised
  have ho := @call_outcome env _ hfaithful.seeded c hc
  rw [Does, hraised] at ho
  exact ho.unseen_iff presetService_lawful reads_eq view_append hfaithful

end RLPresetsService

/-! ## 3. Both -/

/-- **Calls that raise**, in either store.  From every file and over every run without a lost entry:
a call that raises, for whatever reason, is not seen by the readers and leaves them in agreement
with the file, if and only if it is not a `create` that has passed its checks and fails to write. -/
theorem failed_calls (file : File) :
    (∀ calls,
      LosesNone SceneService.step (fun c s => c.2.Lost c.1 s) (SceneService.fresh file) calls →
      ∀ env c, raised (SceneService.Call.perform env c
          (calls.foldl SceneService.step (SceneService.fresh file))).1 = true →
        (Unseen SceneService.sceneService SceneService.reads env
            (calls.foldl SceneService.step (SceneService.fresh file))
            (SceneService.step (calls.foldl SceneService.step (SceneService.fresh file)) (env, c)) ↔
          ¬ SceneService.Call.Lost env c
            (calls.foldl SceneService.step (SceneService.fresh file)))) ∧
    (RLPresetsService.ParsedFile file → ∀ calls,
      LosesNone RLPresetsService.step (fun c s => c.2.Lost c.1 s) (RLPresetsService.fresh file)
        calls →
      ∀ env c, raised (RLPresetsService.Call.perform env c
          (calls.foldl RLPresetsService.step (RLPresetsService.fresh file))).1 = true →
        (Unseen RLPresetsService.presetService RLPresetsService.reads env
            (calls.foldl RLPresetsService.step (RLPresetsService.fresh file))
            (RLPresetsService.step
              (calls.foldl RLPresetsService.step (RLPresetsService.fresh file)) (env, c)) ↔
          ¬ RLPresetsService.Call.Lost env c
            (calls.foldl RLPresetsService.step (RLPresetsService.fresh file)))) :=
  ⟨fun _ hnone _ _ hraised => SceneService.unseen_iff hnone hraised,
    fun hparsed _ hnone _ _ hraised => RLPresetsService.unseen_iff hparsed hnone hraised⟩

/-- A disk that is full. -/
def sceneEnvFull : Env := { envKnowing [] with diskOk := false }

def presetEnvFull : RLPresetsService.Env := { RLPresetsService.envNamed "" with diskOk := false }

/-- On a full disk, a rename of an entry that was created before is refused, and not seen. -/
theorem failed_calls_rename :
    Unseen SceneService.sceneService SceneService.reads sceneEnvFull
      (SceneService.step (SceneService.fresh .absent)
        (envKnowing [], .create "Show" .null none .null))
      (SceneService.step (SceneService.step (SceneService.fresh .absent)
          (envKnowing [], .create "Show" .null none .null))
        (sceneEnvFull, .update "show" (some "Finale") .null .null)) ∧
    Unseen RLPresetsService.presetService RLPresetsService.reads presetEnvFull
      (RLPresetsService.step (RLPresetsService.fresh .absent)
        (RLPresetsService.envNamed "", .create "Party" .null .null none))
      (RLPresetsService.step (RLPresetsService.step (RLPresetsService.fresh .absent)
          (RLPresetsService.envNamed "", .create "Party" .null .null none))
        (presetEnvFull, .update "party" (some "Finale") .null .null)) :=
  ⟨((failed_calls .absent).1 [(envKnowing [], .create "Show" .null none .null)]
      ⟨(fun hlost => nomatch hlost.1), trivial⟩ sceneEnvFull
      (.update "show" (some "Finale") .null .null) rfl).mpr id,
    ((failed_calls .absent).2 trivial
      [(RLPresetsService.envNamed "", .create "Party" .null .null none)]
      ⟨(fun hlost => nomatch hlost.1), trivial⟩ presetEnvFull
      (.update "party" (some "Finale") .null .null) rfl).mpr id⟩

/-- On a full disk, a `create` raises, and the entry it did not write is listed: by both. -/
theorem failed_calls_phantom :
    (raised (SceneService.Call.perform sceneEnvFull (.create "Show" .null none .null)
        (SceneService.fresh .absent)).1 = true ∧
      ¬ Unseen SceneService.sceneService SceneService.reads sceneEnvFull
        (SceneService.fresh .absent)
        (SceneService.step (SceneService.fresh .absent)
          (sceneEnvFull, .create "Show" .null none .null))) ∧
    (raised (RLPresetsService.Call.perform presetEnvFull (.create "Party" .null .null none)
        (RLPresetsService.fresh .absent)).1 = true ∧
      ¬ Unseen RLPresetsService.presetService RLPresetsService.reads presetEnvFull
        (RLPresetsService.fresh .absent)
        (RLPresetsService.step (RLPresetsService.fresh .absent)
          (presetEnvFull, .create "Party" .null .null none))) := by
  refine ⟨⟨rfl, fun hunseen => ?_⟩, rfl, fun hunseen => ?_⟩
  · cases congrArg SceneService.Reads.list hunseen.same
  · cases congrArg RLPresetsService.Reads.list hunseen.same

end RaceLink
