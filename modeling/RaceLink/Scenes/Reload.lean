/-
# What the next load makes of a saved scene

`create` and `update` write the file and drop the cache, so what they return is only worth
something if `_load` reads the same actions back.  Two things can come between.

* The validator may reject what was written, and then the whole list of the scene is dropped
  (`loadActions_of_not_canonical`).  The collapse can produce such a list.
* A `params` dictionary with a key that is not a string comes back with other keys.  Such a
  dictionary is not in any JSON document; the migration of the legacy `groups_offset` shape can
  still make one, out of `params` that are a list of pairs.

`save_faithful_iff` says that nothing else can: for both calls, what is returned is a fixed
point of the validator and is what the next load carries exactly when no canonical container
with an `explicit` block covers the known groups, and every `params` is JSON.
-/
import RaceLink.Scenes.Service

namespace RaceLink

open Python

/-! ## 1. Stored forms through the file -/

section

variable (floatText : PyFloat → String)

theorem isJson_strDict {kvs : List (String × PyVal)} (hnd : (kvs.map (·.1)).Nodup)
    (hvals : ∀ e ∈ kvs, isJson e.2 = true) : isJson (strDict kvs) = true := by
  rw [strDict, isJson_dict]
  refine ⟨?_, ?_, ?_⟩
  · intro e he
    obtain ⟨x, -, rfl⟩ := List.mem_map.mp he
    rfl
  · rw [List.map_map]
    have hcomp : kvs.map ((fun e : PyKey × PyVal => e.1) ∘ fun e => (PyKey.str e.1, e.2))
        = (kvs.map (·.1)).map PyKey.str := by
      rw [List.map_map]
      rfl
    rw [hcomp]
    exact hnd.map fun a b hab => by injection hab
  · intro e he
    obtain ⟨x, hx, rfl⟩ := List.mem_map.mp he
    exact hvals x hx

/-- A record comes back as the record of what its fields come back as. -/
theorem jsonRoundTrip_strDict {kvs : List (String × PyVal)} (hnd : (kvs.map (·.1)).Nodup) :
    jsonRoundTrip floatText (strDict kvs)
      = strDict (kvs.map fun e => (e.1, jsonRoundTrip floatText e.2)) := by
  have hentries : ∀ kvs : List (String × PyVal),
      jsonRoundTrip.entries floatText (kvs.map fun e => (.str e.1, e.2))
        = kvs.map fun e => (.str e.1, jsonRoundTrip floatText e.2) := by
    intro kvs
    induction kvs with
    | nil => rfl
    | cons e kvs ih => rw [List.map_cons, jsonRoundTrip.entries, ih]; rfl
  have hfresh : ((kvs.map fun e => (PyKey.str e.1, jsonRoundTrip floatText e.2)).map
      (·.1.norm)).Nodup := by
    rw [List.map_map]
    have hcomp : kvs.map ((fun e : PyKey × PyVal => e.1.norm) ∘
        fun e => (PyKey.str e.1, jsonRoundTrip floatText e.2)) = (kvs.map (·.1)).map PyKey.str := by
      rw [List.map_map]
      rfl
    rw [hcomp]
    exact hnd.map fun a b hab => by injection hab
  rw [strDict, jsonRoundTrip_dict, Dict.jsonRoundTrip, hentries, dictOfPairs_eq_self hfresh,
    strDict,
    List.map_map]
  rfl

theorem isJson_ints (xs : List Int) : isJson (.list (xs.map .int)) = true := by
  rw [isJson_list]
  intro x hx
  obtain ⟨i, -, rfl⟩ := List.mem_map.mp hx
  rfl

theorem isJson_target (t : Target) : isJson t.toPy = true := by
  cases t with
  | broadcast => rfl
  | device value => rfl
  | groups value =>
    refine isJson_strDict (by simp) ?_
    simp only [List.forall_mem_cons]
    exact ⟨rfl, isJson_ints value, by simp⟩

theorem isJson_offsetBlock (o : OffsetBlock) : isJson o.toPy = true := by
  cases o with
  | explicit values =>
    refine isJson_strDict (by simp) ?_
    simp only [List.forall_mem_cons]
    refine ⟨rfl, ?_, by simp⟩
    rw [isJson_list]
    intro x hx
    obtain ⟨v, -, rfl⟩ := List.mem_map.mp hx
    rfl
  | _ => rfl

theorem isJson_flagsOverride (f : FlagsOverride) : isJson f.toPy = true := by
  rw [FlagsOverride.toPy, isJson_dict]
  have hkeys : ∀ l : List UserFlag, l.Nodup →
      ((l.filterMap fun k => (f.get k).map fun b => (PyKey.str k.key, PyVal.bool b)).map
        (·.1)).Nodup := by
    intro l hl
    induction l with
    | nil => simp
    | cons k l ih =>
      obtain ⟨hk, hl⟩ := List.nodup_cons.mp hl
      rw [List.filterMap_cons]
      cases f.get k with
      | none => exact ih hl
      | some b =>
        refine List.nodup_cons.mpr ⟨?_, ih hl⟩
        intro hmem
        obtain ⟨e, he, hek⟩ := List.mem_map.mp hmem
        obtain ⟨k', hk', hsome⟩ := List.mem_filterMap.mp he
        obtain ⟨b', -, rfl⟩ := Option.map_eq_some_iff.mp hsome
        have hkey : k'.key = k.key := by simpa using hek
        exact hk (UserFlag.key_injective hkey ▸ hk')
  refine ⟨?_, hkeys _ (by decide), ?_⟩
  · intro e he
    obtain ⟨k, -, hk⟩ := List.mem_filterMap.mp he
    obtain ⟨b, -, rfl⟩ := Option.map_eq_some_iff.mp hk
    rfl
  · intro e he
    obtain ⟨k, -, hk⟩ := List.mem_filterMap.mp he
    obtain ⟨b, -, rfl⟩ := Option.map_eq_some_iff.mp hk
    rfl

/-- An effect as it comes back from the file: its `params` are what the file made of them. -/
def Effect.reload (e : Effect) : Effect := { e with params := e.params.jsonRoundTrip floatText }

/-- An action as it comes back from the file. -/
def Action.reload : Action → Action
  | .effect e => .effect (e.reload floatText)
  | .offsetGroup target offset actions =>
    .offsetGroup target offset (actions.map (·.reload floatText))
  | .sync => .sync
  | .delay durationMs => .delay durationMs

theorem jsonRoundTrip_effect (e : Effect) :
    jsonRoundTrip floatText e.toPy = (e.reload floatText).toPy := by
  obtain ⟨kind, target, params, flags⟩ := e
  have htarget := jsonRoundTrip_eq_self floatText _ (isJson_target target)
  cases flags with
  | none =>
    rw [Effect.toPy, jsonRoundTrip_strDict floatText (by simp)]
    simp only [List.append_nil, List.map_cons, List.map_nil, htarget]
    rfl
  | some f =>
    have hf := jsonRoundTrip_eq_self floatText _ (isJson_flagsOverride f)
    rw [Effect.toPy, jsonRoundTrip_strDict floatText (by simp)]
    simp only [List.cons_append, List.nil_append, List.map_cons, List.map_nil, htarget, hf]
    rfl

theorem jsonRoundTrip_action (a : Action) :
    jsonRoundTrip floatText a.toPy = (a.reload floatText).toPy := by
  cases a with
  | effect e => exact jsonRoundTrip_effect floatText e
  | sync => rfl
  | delay durationMs => rfl
  | offsetGroup target offset actions =>
    have htarget := jsonRoundTrip_eq_self floatText _ (isJson_target target)
    have hoffset := jsonRoundTrip_eq_self floatText _ (isJson_offsetBlock offset)
    have hchildren : (actions.map (·.toPy)).map (jsonRoundTrip floatText)
        = (actions.map (·.reload floatText)).map (·.toPy) := by
      rw [List.map_map, List.map_map]
      exact List.map_congr_left fun e _ => jsonRoundTrip_effect floatText e
    rw [Action.toPy, jsonRoundTrip_strDict floatText (by simp)]
    simp only [List.map_cons, List.map_nil, htarget, hoffset, jsonRoundTrip_list, hchildren]
    rfl

theorem jsonRoundTrip_actions (actions : List Action) :
    jsonRoundTrip floatText (actionsToPy actions)
      = actionsToPy (actions.map (·.reload floatText)) := by
  rw [actionsToPy, jsonRoundTrip_list, actionsToPy, List.map_map, List.map_map]
  congr 1
  exact List.map_congr_left fun a _ => jsonRoundTrip_action floatText a

/-! ## 2. Canonical does not depend on `params` -/

theorem reload_canonical_iff {a : Action} : (a.reload floatText).Canonical ↔ a.Canonical := by
  cases a with
  | effect e => exact Iff.rfl
  | sync => exact Iff.rfl
  | delay durationMs => exact Iff.rfl
  | offsetGroup target offset actions =>
    simp only [Action.reload, Action.Canonical, List.length_map, List.forall_mem_map]
    exact Iff.rfl

theorem actions_reload_canonical_iff {actions : List Action} :
    ActionsCanonical (actions.map (·.reload floatText)) ↔ ActionsCanonical actions := by
  simp only [ActionsCanonical, List.length_map, List.forall_mem_map, reload_canonical_iff]

/-- Every `params` of the action is JSON. -/
def Action.JsonParams (a : Action) : Prop := ∀ e ∈ a.effects, isJson (.dict e.params) = true

theorem effect_reload_eq_iff {e : Effect} :
    e.reload floatText = e ↔ isJson (.dict e.params) = true := by
  rw [← jsonRoundTrip_eq_self_iff floatText, jsonRoundTrip_dict, PyVal.dict.injEq]
  constructor
  · intro h
    exact congrArg Effect.params h
  · intro h
    rw [Effect.reload, h]

theorem action_reload_eq_iff {a : Action} : a.reload floatText = a ↔ a.JsonParams := by
  cases a with
  | effect e =>
    simp only [Action.reload, Action.effect.injEq, effect_reload_eq_iff, Action.JsonParams,
      Action.effects, List.forall_mem_singleton]
  | sync => exact iff_of_true rfl (fun e he => absurd he (by simp [Action.effects]))
  | delay durationMs => exact iff_of_true rfl (fun e he => absurd he (by simp [Action.effects]))
  | offsetGroup target offset actions =>
    simp only [Action.reload, Action.offsetGroup.injEq, true_and, Action.JsonParams,
      Action.effects]
    constructor
    · intro h e he
      exact (effect_reload_eq_iff floatText).mp (map_eq_self_iff.mp h e he)
    · intro h
      exact map_eq_self_iff.mpr fun e he => (effect_reload_eq_iff floatText).mpr (h e he)

theorem actions_reload_eq_iff {actions : List Action} :
    actions.map (·.reload floatText) = actions ↔ ∀ a ∈ actions, a.JsonParams := by
  simp only [map_eq_self_iff, action_reload_eq_iff]

end

/-! ## 3. A stored list that is not canonical is rejected, and nothing worse -/

theorem onlyValueError_groupIds : ∀ (ids seen : List Int),
    OnlyValueError (canonicalGroupIds seen (ids.map .int))
  | [], _ => .ok []
  | v :: ids, seen => by
    rw [List.map_cons, canonicalGroupIds, intCatch_int, ok_bind]
    refine .bind (.raiseIf _ _) fun _ => .bind (.raiseIf _ _) fun _ => ?_
    exact .bind (onlyValueError_groupIds ids (v :: seen)) fun _ => .ok _

theorem onlyValueError_target (t : Target) : OnlyValueError (canonicalTarget t.toPy) := by
  cases t with
  | broadcast => rw [canonicalTarget_broadcast]; exact .ok _
  | groups value =>
    cases value with
    | nil => rw [canonicalTarget_groups_nil]; exact .valueError _
    | cons g gs =>
      rw [canonicalTarget_groups]
      exact .bind (onlyValueError_groupIds (g :: gs) []) fun _ => .ok _
  | device value =>
    rw [canonicalTarget_device]
    exact .bind (.raiseIf _ _) fun _ => .ok _

theorem onlyValueError_containerTarget (t : Target) :
    OnlyValueError (canonicalOffsetGroupContainerTarget t.toPy) := by
  refine .bind (onlyValueError_target t) fun t' => ?_
  cases t' with
  | device value => exact .valueError _
  | broadcast => exact .ok _
  | groups value => exact .ok _

theorem onlyValueError_checkChildGroups (parent : List Int) : ∀ vs : List Int,
    OnlyValueError (checkChildGroups parent vs)
  | [] => .ok ()
  | _ :: vs => .bind (.raiseIf _ _) fun _ => onlyValueError_checkChildGroups parent vs

theorem onlyValueError_childTarget (t : Target) (parent : Option (List Int)) :
    OnlyValueError (canonicalOffsetGroupChildTarget t.toPy parent) := by
  refine .bind (onlyValueError_target t) fun t' => ?_
  split
  · exact .bind (onlyValueError_checkChildGroups _ _) fun _ => .ok _
  · exact .ok _

theorem onlyValueError_validateInt (name : String) (v lo hi : Int) :
    OnlyValueError (validateInt name (.int v) lo hi) := by
  rw [validateInt, intCatch_int, ok_bind]
  exact .bind (.raiseIf _ _) fun _ => .ok _

theorem onlyValueError_values (ids : List Int) (values : List OffsetValue) :
    OnlyValueError (canonicalValues ids (values.map (·.toPy))) := by
  induction values with
  | nil => exact .ok []
  | cons v values ih =>
    have hid : Dict.get [(.str "id", .int v.id), (.str "offset_ms", .int v.offsetMs)] "id"
        = .int v.id := by simp [Dict.get]
    have hms : Dict.get [(.str "id", .int v.id), (.str "offset_ms", .int v.offsetMs)] "offset_ms"
        = .int v.offsetMs := by simp [Dict.get]
    have hv : v.toPy = .dict [(.str "id", .int v.id), (.str "offset_ms", .int v.offsetMs)] := rfl
    rw [List.map_cons, hv, canonicalValues, hid, hms]
    refine .bind (onlyValueError_validateInt _ _ _ _) fun gid => .bind (.raiseIf _ _) fun _ => ?_
    refine .bind (onlyValueError_validateInt _ _ _ _) fun ms => ?_
    exact .bind ih fun _ => .ok _

theorem onlyValueError_checkFormula (base step : Int) {k : Int → Int → Except PyErr OffsetBlock}
    (h : ∀ base step, OnlyValueError (k base step)) : OnlyValueError (checkFormula base step k) :=
  .bind (onlyValueError_validateInt _ _ _ _) fun base =>
    .bind (onlyValueError_validateInt _ _ _ _) fun step => h base step

theorem onlyValueError_offsetBlock (o : OffsetBlock) (isAll : Bool) (ids : Option (List Int))
    (hall : isAll = ids.isNone) : OnlyValueError (canonicalOffsetBlock o.toPy isAll ids) := by
  cases o with
  | none => rw [(canonicalOffsetBlock_formula _ _ 0 0 0 0).1]; exact .ok _
  | explicit values =>
    subst hall
    cases ids with
    | none =>
      rw [show (none : Option (List Int)).isNone = true from rfl, canonicalOffsetBlock_explicit_all]
      exact .valueError _
    | some ids =>
      rw [show (some ids).isNone = false from rfl, canonicalOffsetBlock_explicit]
      refine .bind (.raiseIf _ _) fun _ => ?_
      exact .bind (onlyValueError_values ids values) fun _ => .ok _
  | linear base step =>
    rw [(canonicalOffsetBlock_formula _ _ base step 0 0).2.1]
    exact onlyValueError_checkFormula _ _ fun _ _ => .ok _
  | vshape base step center =>
    rw [(canonicalOffsetBlock_formula _ _ base step center 0).2.2.1]
    refine onlyValueError_checkFormula _ _ fun _ _ => ?_
    exact .bind (onlyValueError_validateInt _ _ _ _) fun _ => .ok _
  | modulo base step cycle =>
    rw [(canonicalOffsetBlock_formula _ _ base step 0 cycle).2.2.2]
    refine onlyValueError_checkFormula _ _ fun _ _ => ?_
    exact .bind (onlyValueError_validateInt _ _ _ _) fun _ => .ok _

theorem onlyValueError_params (msg : String) (raw : PyVal) :
    OnlyValueError (canonicalParams msg raw) := by
  unfold canonicalParams
  split
  · exact .ok _
  · exact .ok _
  · exact .valueError _

theorem onlyValueError_flagsOverride (raw : PyVal) :
    OnlyValueError (canonicalFlagsOverride raw) := by
  unfold canonicalFlagsOverride
  split
  · exact .ok _
  · exact .valueError _

theorem onlyValueError_child (parent : Option (List Int)) (e : Effect) :
    OnlyValueError (canonicalOffsetGroupChild parent e.toPy) := by
  obtain ⟨-, htarget, -⟩ := effect_dict_get e
  rw [Effect.toPy_eq, canonicalOffsetGroupChild]
  split
  · exact .valueError _
  · rw [htarget]
    refine .bind (.raiseIf _ _) fun _ => .bind (onlyValueError_childTarget _ _) fun _ => ?_
    refine .bind (onlyValueError_params _ _) fun _ => ?_
    exact .bind (onlyValueError_flagsOverride _) fun _ => .ok _

theorem onlyValueError_effect (e : Effect) : OnlyValueError (canonicalEffect e.kind e.dict) := by
  obtain ⟨-, htarget, -⟩ := effect_dict_get e
  rw [canonicalEffect, htarget]
  refine .bind (.raiseIf _ _) fun _ => .bind (onlyValueError_target _) fun _ => ?_
  refine .bind (onlyValueError_params _ _) fun _ => ?_
  split
  · exact .bind (onlyValueError_flagsOverride _) fun _ => .ok _
  · exact .ok _

theorem onlyValueError_offsetGroup (target : Target) (offset : OffsetBlock)
    (actions : List Effect) :
    OnlyValueError (canonicalOffsetGroupAction (offsetGroupDict target offset actions)) := by
  obtain ⟨-, -, hoffset, hactions⟩ := offsetGroupDict_get target offset actions
  rw [canonicalOffsetGroupAction, containerTargetRaw_offsetGroupDict, ok_bind, hoffset, hactions]
  refine .bind_of_ok (onlyValueError_containerTarget target) fun t ht => ?_
  have hall := beq_broadcast (canonicalOffsetGroupContainerTarget_sound ht).2
  refine .bind (.raiseIf _ _) fun _ => .bind (onlyValueError_offsetBlock _ _ _ hall) fun o => ?_
  refine .bind (.raiseIf _ _) fun _ => .bind (.mapM fun raw hraw => ?_) fun _ => .ok _
  obtain ⟨e, -, rfl⟩ := List.mem_map.mp hraw
  exact onlyValueError_child _ e

theorem onlyValueError_action (a : Action) : OnlyValueError (canonicalAction a.toPy) := by
  cases a with
  | effect e =>
    rw [canonicalAction_effect]
    exact .bind (onlyValueError_effect e) fun _ => .ok _
  | sync => exact .ok _
  | delay durationMs =>
    rw [canonicalAction_delay]
    exact .bind (.raiseIf _ _) fun _ => .ok _
  | offsetGroup target offset actions =>
    rw [canonicalAction_offsetGroup]
    exact onlyValueError_offsetGroup target offset actions

theorem onlyValueError_actions (actions : List Action) :
    OnlyValueError (canonicalActions (actionsToPy actions)) := by
  refine .bind (.raiseIf _ _) fun _ => .mapM ?_
  intro raw hraw
  obtain ⟨a, -, rfl⟩ := List.mem_map.mp hraw
  exact onlyValueError_action a

/-! ## 4. Loading what was written -/

section

variable (floatText : PyFloat → String)

theorem loadActions_canonical {actions : List Action} (h : ActionsCanonical actions) :
    loadActions (jsonRoundTrip floatText (actionsToPy actions))
      = .ok (actions.map (·.reload floatText)) := by
  have hok := canonicalActions_toPy_iff.mpr ((actions_reload_canonical_iff floatText).mpr h)
  rw [jsonRoundTrip_actions, loadActions, hok]

theorem loadActions_returns (actions : List Action) :
    ∃ loaded, loadActions (jsonRoundTrip floatText (actionsToPy actions)) = .ok loaded := by
  rw [jsonRoundTrip_actions, loadActions]
  cases hr : canonicalActions (actionsToPy (actions.map (·.reload floatText))) with
  | ok loaded => exact ⟨loaded, rfl⟩
  | error e =>
    obtain ⟨msg, rfl⟩ := onlyValueError_actions _ e hr
    exact ⟨[], rfl⟩

/-- What a load makes of a written scene: the same scene, and the same actions up to what the
file does to `params`, if they are canonical. -/
def ReadBack (s s' : Scene) : Prop :=
  s'.key = s.key ∧ s'.label = s.label ∧
    (ActionsCanonical s.actions → s'.actions = s.actions.map (·.reload floatText))

/-- A scene's dictionary as it stands in the file. -/
theorem jsonRoundTrip_scene (s : Scene) : ∃ d : Dict,
    jsonRoundTrip floatText s.toPy = .dict d ∧ Dict.get d "id" = .int s.id ∧
      Dict.get d "key" = .str s.key ∧ Dict.get d "label" = .str s.label ∧
      Dict.get d "actions" = jsonRoundTrip floatText (actionsToPy s.actions) := by
  obtain ⟨id, key, label, created, updated, actions, stop⟩ := s
  cases stop with
  | none =>
    rw [Scene.toPy, jsonRoundTrip_strDict floatText (by simp)]
    exact ⟨_, rfl, by simp [Dict.get, jsonRoundTrip], by simp [Dict.get, jsonRoundTrip],
      by simp [Dict.get, jsonRoundTrip], by simp [Dict.get]⟩
  | some b =>
    rw [Scene.toPy, jsonRoundTrip_strDict floatText (by simp)]
    exact ⟨_, rfl, by simp [Dict.get, jsonRoundTrip], by simp [Dict.get, jsonRoundTrip],
      by simp [Dict.get, jsonRoundTrip], by simp [Dict.get]⟩

theorem loadScenes_written (now : String) (written : List Scene) (used : List Int) (index : Int) :
    ∃ scenes used',
      loadScenes now used index ((written.map (·.toPy)).map (jsonRoundTrip floatText))
        = .ok (scenes, used') ∧ List.Forall₂ (ReadBack floatText) written scenes := by
  induction written generalizing used index with
  | nil => exact ⟨[], used, rfl, .nil⟩
  | cons s written ih =>
    obtain ⟨d, hd, hid, hkey, hlabel, hactions⟩ := jsonRoundTrip_scene floatText s
    obtain ⟨loaded, hloaded⟩ := loadActions_returns floatText s.actions
    obtain ⟨scenes, used', hrest, hall⟩ := ih (freshSceneId used s.id :: used) (index + 1)
    rw [List.map_cons, List.map_cons, hd, loadScenes]
    simp only [hkey, hlabel, hid, intCatch_int, hactions, hloaded, hrest, ok_bind, pure_eq_ok]
    refine ⟨_, _, rfl, .cons ⟨rfl, rfl, fun hcanon => ?_⟩ hall⟩
    rw [loadActions_canonical floatText hcanon] at hloaded
    exact (Except.ok.inj hloaded).symm

/-- **A written file loads**, scene by scene. -/
theorem load_written (env : Env) {st : Store} {nextId : Int} {written : List Scene}
    (h : st.file = .doc (jsonRoundTrip floatText (payload nextId written))) :
    ∃ scenes st', load env st = (.ok scenes, st') ∧
      List.Forall₂ (ReadBack floatText) written scenes := by
  obtain ⟨scenes, used, hscenes, hall⟩ := loadScenes_written floatText env.now written [] 0
  have hdoc : ∃ d : Dict, jsonRoundTrip floatText (payload nextId written) = .dict d ∧
      Dict.getD d "schema_version" (.int 0) = .int 1 ∧
      Dict.get d "scenes" = .list ((written.map (·.toPy)).map (jsonRoundTrip floatText)) := by
    rw [payload, jsonRoundTrip_strDict floatText (by simp)]
    exact ⟨_, rfl, by simp [Dict.getD, jsonRoundTrip], by simp [Dict.get, jsonRoundTrip_list]⟩
  obtain ⟨d, hd, hschema, hraws⟩ := hdoc
  refine ⟨scenes, { st with nextId := some (loadedNextId (Dict.get d "next_id") used) }, ?_, hall⟩
  have hint : int ((PyVal.int 1).or (.int 0)) = .ok 1 := rfl
  rw [load, Script.bind_of_ok (Script.get_run st), h, hd]
  simp only [hschema, hraws, hint, Script.monadLift_eq]
  rw [Script.bind_of_ok (Script.lift_run _ _), Script.bind_of_ok (by rw [Script.lift_run, hscenes])]
  rw [← hd, ← h]
  rfl

end

/-! ## 5. What a save writes -/

/-- The file holds a list whose first scene with the saved key has the saved actions. -/
def Written (env : Env) (st : Store) (scene : Scene) : Prop :=
  ∃ nextId written, st.file = .doc (jsonRoundTrip env.floatText (payload nextId written)) ∧
    ∃ s, written.find? (·.key == scene.key) = some s ∧ s.actions = scene.actions

theorem writeAtomic_eq_ok {env : Env} {scenes : List Scene} {st st' : Store} {u : Unit}
    (h : writeAtomic env scenes st = (.ok u, st')) :
    ∃ nextId, st'.file = .doc (jsonRoundTrip env.floatText (payload nextId scenes)) := by
  rw [writeAtomic, Script.bind_of_ok (Script.get_run st)] at h
  by_cases hd : env.diskOk = true
  · rw [if_pos hd] at h
    cases h
    exact ⟨_, rfl⟩
  · rw [if_neg hd] at h
    cases h

theorem find?_append_fresh {scenes : List Scene} {scene : Scene}
    (h : scene.key ∉ scenes.map (·.key)) :
    (scenes ++ [scene]).find? (·.key == scene.key) = some scene := by
  have hnone : scenes.find? (·.key == scene.key) = none := by
    rw [List.find?_eq_none]
    intro s hs heq
    exact h (List.mem_map.mpr ⟨s, hs, by simpa using heq⟩)
  rw [List.find?_append, hnone]
  simp

theorem find?_replaceFirst {key : String} {newEntry : Scene} (hkey : newEntry.key = key)
    {scenes : List Scene} {s : Scene} (h : scenes.find? (·.key == key) = some s) :
    (replaceFirst key newEntry scenes).find? (·.key == key) = some newEntry := by
  induction scenes with
  | nil => cases h
  | cons x rest ih =>
    unfold replaceFirst
    by_cases hx : x.key = key
    · rw [if_pos hx, List.find?_cons_of_pos (by simp [hkey])]
    · have hx' : (x.key == key) = false := by simpa using hx
      simp only [List.find?_cons, hx'] at h
      simp only [if_neg hx, List.find?_cons, hx']
      exact ih h

/-- The list an accepted raw value is saved as. -/
theorem create_spec {env : Env} {label : String} {raw : PyVal} {key : Option String}
    {stopOnError : PyVal} {st st' : Store} {scene : Scene} {actions : List Action}
    (hraw : canonicalActions raw = .ok actions)
    (h : create env label raw key stopOnError st = (.ok scene, st')) :
    scene.actions = applyBroadcastCollapse env actions ∧ Written env st' scene := by
  simp only [create, Script.monadLift_eq, hraw] at h
  obtain ⟨_, st₁, -, h⟩ := Script.bind_eq_ok.mp h
  rw [Script.bind_of_ok (Script.lift_run _ _)] at h
  obtain ⟨scenes, st₂, -, h⟩ := Script.bind_eq_ok.mp h
  obtain ⟨finalKey, st₃, hkey, h⟩ := Script.bind_eq_ok.mp h
  have hfresh := uniqueKey_not_mem (Script.lift_eq_ok.mp hkey).1
  rw [Script.bind_of_ok (Script.get_run st₃), Script.bind_of_ok (Script.modify_run _ _)] at h
  obtain ⟨_, st₄, hwrite, h⟩ := Script.bind_eq_ok.mp h
  obtain ⟨nextId, hfile⟩ := writeAtomic_eq_ok hwrite
  cases h
  exact ⟨rfl, nextId, _, hfile, _, find?_append_fresh hfresh, rfl⟩

theorem update_spec {env : Env} {key : String} {label : Option String} {raw : PyVal}
    {stopOnError : PyVal} {st st' : Store} {scene : Scene} {actions : List Action}
    (hnull : raw ≠ .null) (hraw : canonicalActions raw = .ok actions)
    (h : update env key label raw stopOnError st = (.ok (some scene), st')) :
    scene.actions = applyBroadcastCollapse env actions ∧ Written env st' scene := by
  have hcanonical : updatedActions env raw = .ok (some (applyBroadcastCollapse env actions)) := by
    unfold updatedActions
    split
    · exact absurd rfl hnull
    · rw [hraw]
      rfl
  rw [update, hcanonical, Script.monadLift_eq, Script.bind_of_ok (Script.lift_run _ _)] at h
  obtain ⟨scenes, st₂, -, h⟩ := Script.bind_eq_ok.mp h
  cases hfind : scenes.find? (·.key == key) with
  | none =>
    rw [hfind] at h
    cases h
  | some old =>
    rw [hfind] at h
    obtain rfl : old.key = key := by simpa using List.find?_some hfind
    obtain ⟨labelClean, st₃, -, h⟩ := Script.bind_eq_ok.mp h
    obtain ⟨_, st₄, hwrite, h⟩ := Script.bind_eq_ok.mp h
    obtain ⟨nextId, hfile⟩ := writeAtomic_eq_ok hwrite
    cases h
    refine ⟨rfl, nextId, _, hfile, _, find?_replaceFirst ?_ hfind, rfl⟩
    rfl

theorem applyBroadcastCollapse_effects_params {env : Env} {actions : List Action} :
    (∀ a ∈ applyBroadcastCollapse env actions, a.JsonParams) ↔ ∀ a ∈ actions, a.JsonParams := by
  have hcollapse : ∀ known (a : Action), (collapseAction known a).JsonParams ↔ a.JsonParams := by
    intro known a
    cases a with
    | offsetGroup target offset actions =>
      simp only [Action.JsonParams, collapseAction, Action.effects, List.forall_mem_map,
        collapseEffect]
    | _ => simp [Action.JsonParams, collapseAction, Action.effects, collapseEffect]
  unfold applyBroadcastCollapse
  split
  · rename_i known _
    unfold collapseActionsToBroadcast
    split
    · exact Iff.rfl
    · simp only [List.forall_mem_map, hcollapse]
  · exact Iff.rfl

/-- The known groups the collapse works with: none without a getter, or when it raises. -/
def Env.known (env : Env) : List Int :=
  match env.knownGroupIdsGetter with
  | some (.ok known) => known
  | _ => []

theorem applyBroadcastCollapse_eq (env : Env) (actions : List Action) :
    applyBroadcastCollapse env actions = collapseActionsToBroadcast env.known actions := by
  unfold applyBroadcastCollapse Env.known
  rcases env.knownGroupIdsGetter with _ | (_ | known)
  · rfl
  · rfl
  · rfl

/-! ## 6. When a save is faithful -/

/-- What a caller of `create` and `update` counts on: the returned actions are a fixed point of
the validator, and every next load returns and carries exactly these actions for the scene. -/
def SavedFaithfully (st : Store) (scene : Scene) : Prop :=
  canonicalActions (actionsToPy scene.actions) = .ok scene.actions ∧
    ∀ env, ∃ scenes st', load env st = (.ok scenes, st') ∧
      ∃ s, scenes.find? (·.key == scene.key) = some s ∧ s.actions = scene.actions

/-- The condition on the accepted list: no container with an `explicit` block covers the known
groups, and every `params` is JSON. -/
def SaveSafe (known : List Int) (actions : List Action) : Prop :=
  ∀ a ∈ actions, ¬ a.ExplicitCoversKnown known ∧ a.JsonParams

theorem find?_of_forall₂ {floatText : PyFloat → String} {key : String} :
    ∀ {written scenes : List Scene} {s : Scene}, List.Forall₂ (ReadBack floatText) written scenes →
      written.find? (·.key == key) = some s →
      ∃ s', scenes.find? (·.key == key) = some s' ∧ ReadBack floatText s s'
  | _, _, _, .nil, h => by simp at h
  | x :: _, x' :: _, s, .cons hx hall, h => by
    have hkey : x'.key = x.key := hx.1
    by_cases hk : (x.key == key) = true
    · simp only [List.find?_cons, hk] at h
      cases h
      exact ⟨x', by simp only [List.find?_cons, hkey, hk], hx⟩
    · have hk' : (x.key == key) = false := by simpa using hk
      simp only [List.find?_cons, hk'] at h
      obtain ⟨s', hs', hread⟩ := find?_of_forall₂ hall h
      exact ⟨s', by simpa only [List.find?_cons, hkey, hk'] using hs', hread⟩

theorem savedFaithfully_iff {env : Env} {st : Store} {scene : Scene} (h : Written env st scene) :
    SavedFaithfully st scene ↔
      ActionsCanonical scene.actions ∧ ∀ a ∈ scene.actions, a.JsonParams := by
  obtain ⟨nextId, written, hfile, s, hfind, hactions⟩ := h
  have hload : ∀ env', ActionsCanonical scene.actions → ∃ scenes st',
      load env' st = (.ok scenes, st') ∧ ∃ s', scenes.find? (·.key == scene.key) = some s' ∧
        s'.actions = scene.actions.map (·.reload env.floatText) := by
    intro env' hcanon
    obtain ⟨scenes, st', hscenes, hall⟩ := load_written env.floatText env' hfile
    obtain ⟨s', hs', hread⟩ := find?_of_forall₂ hall hfind
    have heq := hread.2.2 (by rwa [hactions])
    exact ⟨scenes, st', hscenes, s', hs', by rw [heq, hactions]⟩
  rw [SavedFaithfully, canonicalActions_toPy_iff]
  refine and_congr_right fun hcanon => ?_
  rw [← actions_reload_eq_iff env.floatText]
  constructor
  · intro hcarried
    obtain ⟨scenes, st', hscenes, s', hs', heq⟩ := hcarried env
    obtain ⟨scenes₂, st₂, hscenes₂, s₂, hs₂, heq₂⟩ := hload env hcanon
    rw [hscenes] at hscenes₂
    cases hscenes₂
    rw [hs'] at hs₂
    cases hs₂
    rw [← heq₂, heq]
  · intro hreload env'
    obtain ⟨scenes, st', hscenes, s', hs', heq⟩ := hload env' hcanon
    exact ⟨scenes, st', hscenes, s', hs', heq.trans hreload⟩

theorem savedFaithfully_iff_saveSafe {env : Env} {st : Store} {scene : Scene} {raw : PyVal}
    {actions : List Action} (hraw : canonicalActions raw = .ok actions)
    (h : scene.actions = applyBroadcastCollapse env actions ∧ Written env st scene) :
    SavedFaithfully st scene ↔ SaveSafe env.known actions := by
  rw [savedFaithfully_iff h.2, h.1, applyBroadcastCollapse_effects_params,
    applyBroadcastCollapse_eq, collapseActions_canonical_iff (canonicalActions_sound hraw)]
  constructor
  · exact fun ⟨hsafe, hparams⟩ a ha => ⟨hsafe a ha, hparams a ha⟩
  · exact fun hsafe => ⟨fun a ha => (hsafe a ha).1, fun a ha => (hsafe a ha).2⟩

/-- **Exactly when a save is faithful.**  For every accepted `actions` value, every service
state, every known list: what `create` and `update` return is a fixed point of the validator
and is what the next load carries if and only if no accepted container with an `explicit` block
covers the known groups and every accepted `params` is JSON. -/
theorem save_faithful_iff (env : Env) (raw : PyVal) (actions : List Action)
    (hraw : canonicalActions raw = .ok actions) :
    (∀ label key stopOnError st scene st',
      create env label raw key stopOnError st = (.ok scene, st') →
        (SavedFaithfully st' scene ↔ SaveSafe env.known actions)) ∧
    (∀ key label stopOnError st scene st', raw ≠ .null →
      update env key label raw stopOnError st = (.ok (some scene), st') →
        (SavedFaithfully st' scene ↔ SaveSafe env.known actions)) := by
  constructor
  · intro label key stopOnError st scene st' h
    exact savedFaithfully_iff_saveSafe hraw (create_spec hraw h)
  · intro key label stopOnError st scene st' hnull h
    exact savedFaithfully_iff_saveSafe hraw (update_spec hnull hraw h)

/-- A container over the groups 1 and 2 with one explicit offset each. -/
def explicitPair : Action := .offsetGroup (.groups [1, 2]) (.explicit [⟨1, 0⟩, ⟨2, 100⟩]) []

/-- A call on a machine whose getter gives these groups. -/
def envKnowing (known : List Int) : Env :=
  { now := "2026-01-01T00:00:00Z", diskOk := true, floatText := fun _ => "0.0"
    knownGroupIdsGetter := some (.ok known) }

/-- A service without a file. -/
def freshStore : Store := { file := .absent, cache := none, nextId := none }

/-- A service that has cached one scene. -/
def showStore : Store :=
  { file := .absent, nextId := some 1
    cache := some [⟨0, "show", "Show", .null, .null, [.sync], some true⟩] }

/-- With a third group known, the pair is saved and updated faithfully. -/
theorem save_faithful_explicitPair :
    ∃ scene st', create (envKnowing [1, 2, 3]) "Show" (actionsToPy [explicitPair]) none .null
        freshStore = (.ok scene, st') ∧ SavedFaithfully st' scene ∧
      ∃ scene' st'', update (envKnowing [1, 2, 3]) "show" none (actionsToPy [explicitPair]) .null
        showStore = (.ok (some scene'), st'') ∧ SavedFaithfully st'' scene' := by
  have hiff := save_faithful_iff (envKnowing [1, 2, 3]) (actionsToPy [explicitPair])
    [explicitPair] rfl
  have hsafe : SaveSafe (envKnowing [1, 2, 3]).known [explicitPair] := by
    intro a ha
    obtain rfl := List.mem_singleton.mp ha
    refine ⟨fun hbad => absurd (hbad.2 3 (by decide)) (by decide), ?_⟩
    simp [Action.JsonParams, explicitPair, Action.effects]
  refine ⟨_, _, rfl, (hiff.1 "Show" none .null freshStore _ _ rfl).mpr hsafe, _, _, rfl, ?_⟩
  exact (hiff.2 "show" none .null showStore _ _ (by rintro ⟨⟩) rfl).mpr hsafe

/-- With the groups 1 and 2 known, `create` accepts the pair and returns a broadcast container
with an `explicit` block.  The validator rejects it, and the next load drops the list. -/
theorem create_unfaithful_explicitPair :
    canonicalActions (actionsToPy [explicitPair]) = .ok [explicitPair] ∧
    ∃ scene st', create (envKnowing [1, 2]) "Show" (actionsToPy [explicitPair]) none .null
        freshStore = (.ok scene, st') ∧
      canonicalActions (actionsToPy scene.actions) = .error (.valueError
        [.text "groups_offset.offset.mode=\"explicit\" requires a concrete groups list"]) ∧
      ¬ SavedFaithfully st' scene ∧
      ∃ scenes st'', load (envKnowing [1, 2]) st' = (.ok scenes, st'') ∧
        scenes.map (·.actions) = [[]] := by
  refine ⟨rfl, _, _, rfl, rfl, ?_, _, _, rfl, rfl⟩
  rintro ⟨hfixed, -⟩
  cases hfixed

end RaceLink
