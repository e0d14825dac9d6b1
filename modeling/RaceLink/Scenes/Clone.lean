/-
# Defensive copies

`_clone_scene` and its helpers: what `list`, `get` and the mutating calls hand out.  They work on
dictionaries, whatever those hold, and raise where a field is missing (`none` here).

On the stored form of an action a copy is the action again (`cloneAction_toPy`).  A copy of a
scene has its `stop_on_error` filled in (`cloneScenePy_toPy`), as `cloneScene` says.
-/
import RaceLink.Scenes.Reload

namespace RaceLink

open Python

/-! ## 1. The copies -/

/-- `v[k]`. -/
def item? (v : PyVal) (k : String) : Option PyVal :=
  match v with
  | .dict d => Dict.find? d k
  | _ => none

/-- `v.get(k)`. -/
def get? (v : PyVal) (k : String) : Option PyVal :=
  match v with
  | .dict d => some (Dict.get d k)
  | _ => none

/-- `dict(v)`. -/
def dict? (v : PyVal) : Option Dict := (dictOf v).toOption

@[simp] theorem dict?_dict (d : Dict) : dict? (.dict d) = some d := rfl

/-- `_clone_target`. -/
def cloneTarget (target : PyVal) : Option PyVal := do
  let out ← dict? target
  match Dict.get out "value" with
  | .list value => some (.dict (Dict.set out (.str "value") (.list value)))
  | _ => some (.dict out)

/-- `_clone_offset_block`. -/
def cloneOffsetBlock (offset : PyVal) : Option PyVal := do
  let cloned ← dict? offset
  match Dict.get cloned "values" with
  | .list values => do
    let values ← values.mapM dict?
    some (.dict (Dict.set cloned (.str "values") (.list (values.map .dict))))
  | _ => some (.dict cloned)

/-- The copies of an effect's target, parameters and flags. -/
def cloneEffect (kind : PyVal) (action : PyVal) : Option PyVal := do
  let target ← cloneTarget (← item? action "target")
  let params ← dict? ((← get? action "params").or (.dict []))
  match item? action "flags_override" with
  | none => some (strDict [("kind", kind), ("target", target), ("params", .dict params)])
  | some raw => do
    let flags ← dict? raw
    some (strDict [("kind", kind), ("target", target), ("params", .dict params),
      ("flags_override", .dict flags)])

theorem sizeOf_get_lt {d : Dict} {k : String} {xs : List PyVal} {x : PyVal}
    (h : (Dict.get d k).or (.list []) = .list xs) (hx : x ∈ xs) :
    sizeOf x < sizeOf (PyVal.dict d) := by
  have hget : Dict.get d k = .list xs := by
    rw [PyVal.or] at h
    split at h
    · exact h
    · cases h
      cases hx
  have hlist : sizeOf x < sizeOf (PyVal.list xs) := by
    have hmem := List.sizeOf_lt_of_mem hx
    simp only [PyVal.list.sizeOf_spec]
    omega
  have hdict : ∀ d : Dict, Dict.get d k = .list xs → sizeOf (PyVal.list xs) < sizeOf d := by
    intro d
    induction d with
    | nil =>
      intro h
      cases h
    | cons e d ih =>
      obtain ⟨k', v⟩ := e
      intro h
      simp only [Dict.get, Dict.find?, List.lookup_cons] at h ih
      simp only [List.cons.sizeOf_spec, Prod.mk.sizeOf_spec]
      split at h
      · rw [Option.getD_some] at h
        rw [h]
        omega
      · have := ih h
        omega
  have hd := hdict d hget
  simp only [PyVal.dict.sizeOf_spec]
  omega

/-- `_clone_action`. -/
def cloneAction (action : PyVal) : Option PyVal :=
  match action with
  | .dict d => do
    let kind ← Dict.find? d "kind"
    if kind.eqStr "delay" then do
      let durationMs ← Dict.find? d "duration_ms"
      some (strDict [("kind", kind), ("duration_ms", durationMs)])
    else if kind.eqStr "sync" then some (strDict [("kind", kind)])
    else if kind.eqStr "offset_group" then do
      let target ← cloneTarget (← Dict.find? d "target")
      let offset ← cloneOffsetBlock ((Dict.get d "offset").or (.dict []))
      match _h : (Dict.get d "actions").or (.list []) with
      | .list children => do
        let actions ← children.attach.mapM fun child => cloneAction child.1
        some (strDict [("kind", kind), ("target", target), ("offset", offset),
          ("actions", .list actions)])
      | _ => none
    else cloneEffect kind (.dict d)
  | _ => none
termination_by sizeOf action
decreasing_by exact sizeOf_get_lt _h child.2

/-- The copies of a scene's actions. -/
def cloneActions (actions : PyVal) : Option PyVal :=
  match actions.or (.list []) with
  | .list actions => do
    let actions ← actions.mapM cloneAction
    some (.list actions)
  | _ => none

/-- `_clone_scene`. -/
def cloneScenePy (scene : PyVal) : Option PyVal := do
  let id ← item? scene "id"
  let key ← item? scene "key"
  let label ← item? scene "label"
  let created ← item? scene "created"
  let updated ← item? scene "updated"
  let actions ← cloneActions (← get? scene "actions")
  let stop := ((item? scene "stop_on_error").getD (.bool true)).truthy
  some (strDict [("id", id), ("key", key), ("label", label), ("created", created),
    ("updated", updated), ("actions", actions), ("stop_on_error", .bool stop)])

/-! ## 2. The copy of a stored form -/

theorem cloneTarget_toPy (t : Target) : cloneTarget t.toPy = some t.toPy := by
  cases t with
  | broadcast => rfl
  | groups value => rfl
  | device value => rfl

/-- A list of copies that are equal to what they copy. -/
theorem mapM_toPy {α : Type} {f : PyVal → Option PyVal} {toPy : α → PyVal} {xs : List α}
    (h : ∀ x ∈ xs, f (toPy x) = some (toPy x)) :
    (xs.map toPy).mapM f = some (xs.map toPy) := by
  induction xs with
  | nil => rfl
  | cons x xs ih =>
    obtain ⟨hx, hxs⟩ := List.forall_mem_cons.mp h
    rw [List.map_cons, List.mapM_cons, hx, ih hxs]
    rfl

theorem cloneOffsetBlock_toPy (o : OffsetBlock) :
    cloneOffsetBlock (o.toPy.or (.dict [])) = some o.toPy := by
  cases o with
  | explicit values =>
    have hvalues : (values.map (·.toPy)).mapM dict?
        = some (values.map fun v =>
            [(.str "id", .int v.id), (.str "offset_ms", .int v.offsetMs)]) := by
      induction values with
      | nil => rfl
      | cons v values ih => rw [List.map_cons, List.mapM_cons, ih]; rfl
    have hget : Dict.get [(.str "mode", .str "explicit"),
        (.str "values", .list (values.map (·.toPy)))] "values" = .list (values.map (·.toPy)) := by
      simp [Dict.get]
    have hor : (OffsetBlock.explicit values).toPy.or (.dict [])
        = .dict [(.str "mode", .str "explicit"),
            (.str "values", .list (values.map (·.toPy)))] := rfl
    rw [hor, cloneOffsetBlock]
    simp only [dict?_dict, Option.bind_eq_bind, Option.bind_some, hget, hvalues, List.map_map]
    rfl
  | _ => rfl

/-- The copy of an effect's stored form. -/
theorem cloneEffect_dict (e : Effect) :
    cloneEffect (.str e.kind.name) (.dict e.dict) = some e.toPy := by
  obtain ⟨kind, target, params, flags⟩ := e
  have hparams : (PyVal.dict params).or (.dict []) = .dict params := by
    cases params <;> rfl
  have hitems :
      item? (.dict (Effect.dict ⟨kind, target, params, flags⟩)) "target" = some target.toPy ∧
      get? (.dict (Effect.dict ⟨kind, target, params, flags⟩)) "params" = some (.dict params) ∧
      item? (.dict (Effect.dict ⟨kind, target, params, flags⟩)) "flags_override"
        = flags.map (·.toPy) := by
    cases flags <;> simp [item?, get?, Effect.dict, Dict.get]
  rw [cloneEffect]
  simp only [hitems, Option.bind_eq_bind, Option.bind_some, cloneTarget_toPy, hparams, dict?_dict]
  cases flags <;> rfl

theorem cloneAction_effect (e : Effect) : cloneAction e.toPy = some e.toPy := by
  have hkind : Dict.find? e.dict "kind" = some (.str e.kind.name) := by
    cases h : e.flagsOverride <;> simp [Effect.dict, h]
  have hother : (PyVal.str e.kind.name).eqStr "delay" = false ∧
      (PyVal.str e.kind.name).eqStr "sync" = false ∧
      (PyVal.str e.kind.name).eqStr "offset_group" = false := by
    cases e.kind <;> exact ⟨rfl, rfl, rfl⟩
  rw [Effect.toPy_eq, cloneAction]
  simp only [hkind, Option.bind_eq_bind, Option.bind_some, hother, Bool.false_eq_true, if_false]
  rw [cloneEffect_dict, Effect.toPy_eq]

/-- **A copy of an action is the action.** -/
theorem cloneAction_toPy (a : Action) : cloneAction a.toPy = some a.toPy := by
  cases a with
  | effect e => exact cloneAction_effect e
  | sync =>
    rw [Action.toPy, strDict, cloneAction]
    rfl
  | delay durationMs =>
    rw [Action.toPy, strDict, cloneAction]
    rfl
  | offsetGroup target offset actions =>
    obtain ⟨hkind, htarget, hoffset, hactions⟩ := offsetGroupDict_get target offset actions
    have hfind : Dict.find? (offsetGroupDict target offset actions) "kind"
          = some (.str "offset_group") ∧
        Dict.find? (offsetGroupDict target offset actions) "target" = some target.toPy := by
      simp [offsetGroupDict]
    have hother : (PyVal.str "offset_group").eqStr "delay" = false ∧
        (PyVal.str "offset_group").eqStr "sync" = false ∧
        (PyVal.str "offset_group").eqStr "offset_group" = true := ⟨rfl, rfl, rfl⟩
    have hclones : (actions.map (·.toPy)).attach.mapM (fun child => cloneAction child.1)
        = some (actions.map (·.toPy)) := by
      rw [List.mapM_subtype fun x hx => rfl, List.unattach_attach]
      exact mapM_toPy fun e _ => cloneAction_effect e
    have hdict : (Action.offsetGroup target offset actions).toPy
        = .dict (offsetGroupDict target offset actions) := rfl
    rw [hdict, cloneAction]
    simp only [hfind, Option.bind_eq_bind, Option.bind_some, hother, Bool.false_eq_true, if_false,
      if_true, cloneTarget_toPy, hoffset, cloneOffsetBlock_toPy]
    split
    · next children hchildren =>
      rw [hactions] at hchildren
      cases hchildren
      simp only [hclones, Option.bind_some]
      rfl
    · next hnot => exact absurd hactions (hnot _)

theorem cloneActions_toPy (actions : List Action) :
    cloneActions (actionsToPy actions) = some (actionsToPy actions) := by
  have hor : (actionsToPy actions).or (.list []) = .list (actions.map (·.toPy)) := by
    cases actions <;> rfl
  rw [cloneActions, hor]
  simp only [mapM_toPy fun a _ => cloneAction_toPy a]
  rfl

/-- **A copy of a scene** has its `stop_on_error`, and is the scene otherwise. -/
theorem cloneScenePy_toPy (s : Scene) : cloneScenePy s.toPy = some (cloneScene s).toPy := by
  obtain ⟨id, key, label, created, updated, actions, stop⟩ := s
  have hactions := cloneActions_toPy actions
  cases stop with
  | none => simp [cloneScenePy, Scene.toPy, strDict, item?, get?, Dict.get, hactions, cloneScene,
      PyVal.truthy]
  | some b => simp [cloneScenePy, Scene.toPy, strDict, item?, get?, Dict.get, hactions, cloneScene,
      PyVal.truthy]

end RaceLink
