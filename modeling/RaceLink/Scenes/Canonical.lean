/-
# The scene validator

`_canonical_actions` and everything it calls, as `scenes_service.py` computes them: the legacy
migrations, the checks in their order, the exceptions with their texts.  The validator reads a
raw value and returns an `Action`, or raises.

`int(x)` is called in two ways.  Under `except (TypeError, ValueError)` (`intCatch`) an
`OverflowError` still passes through; in the legacy migrations it is called bare, so those can
raise `TypeError` and `AttributeError` as well.  Both are kept.
-/
import RaceLink.Scenes.Action
import Mathlib.Data.List.Sort

namespace RaceLink

open Python

/-! ## 1. Limits -/

def maxActionsPerScene : Nat := 20
def maxDelayMs : Int := 60000
/-- 255 is the broadcast group and not a valid scene target. -/
def groupIdMax : Int := 254
def maxGroupsOffsetEntries : Nat := 64
def maxOffsetGroupChildren : Nat := 16
def offsetMsMin : Int := 0
def offsetMsMax : Int := 0xFFFF
def offsetBaseMin : Int := -32768
def offsetBaseMax : Int := 32767
def offsetStepMin : Int := -32768
def offsetStepMax : Int := 32767
def offsetCycleMin : Int := 1
def offsetCycleMax : Int := 255

/-- `OFFSET_FORMULA_MODES`. -/
def offsetFormulaModes : List String := ["none", "explicit", "linear", "vshape", "modulo"]

/-- `ALL_KINDS`. -/
def allKinds : List Kind :=
  [.effect .rlPreset, .effect .wledPreset, .effect .wledControl, .effect .startblock,
   .sync, .delay, .offsetGroup]

/-- The kind a raw value spells. -/
def Kind.ofVal? (v : PyVal) : Option Kind := allKinds.find? fun k => v.eqStr k.name

/-- `OFFSET_GROUP_CHILD_KINDS`. -/
def offsetGroupChildKinds : List EffectKind := [.rlPreset, .wledPreset, .wledControl]

/-! ## 2. Targets -/

/-- `_migrate_legacy_target`. -/
def migrateLegacyTarget (raw : PyVal) : Except PyErr PyVal :=
  match raw with
  | .dict d =>
    let kind := Dict.get d "kind"
    if kind.eqStr "scope" then
      .ok (strDict [("kind", .str "broadcast")])
    else if kind.eqStr "group" then
      match int (Dict.get d "value") with
      | .ok v => .ok (strDict [("kind", .str "groups"), ("value", .list [.int v])])
      | .error .typeError => .ok raw
      | .error (.valueError _) => .ok raw
      | .error e => .error e
    else .ok raw
  | _ => .ok raw

/-- The loop of `_canonical_target` over a list of group ids, before it sorts them. -/
def canonicalGroupIds (seen : List Int) : List PyVal → Except PyErr (List Int)
  | [] => .ok []
  | entry :: rest => do
    let v ← intCatch entry (.error (.valueError
      [.text "target.value[*] for groups must be int: ", .repr entry]))
    raiseIf (v < 0 ∨ v > groupIdMax) [.text s!"group id {v} out of range [0..{groupIdMax}]"]
    raiseIf (v ∈ seen) [.text s!"target.value duplicate group id {v}"]
    let ids ← canonicalGroupIds (v :: seen) rest
    pure (v :: ids)

/-- `c` matches `[0-9A-F]`. -/
def isUpperHex (c : Char) : Bool :=
  (0x30 ≤ c.toNat && c.toNat ≤ 0x39) || (0x41 ≤ c.toNat && c.toNat ≤ 0x46)

/-- `_MAC12_RE` matches. -/
def isMac12 (s : String) : Bool := s.toList.length == 12 && s.toList.all isUpperHex

/-- `_canonical_target`. -/
def canonicalTarget (raw : PyVal) : Except PyErr Target := do
  let raw ← migrateLegacyTarget raw
  match raw with
  | .dict d =>
    let kind := Dict.get d "kind"
    if kind.eqStr "broadcast" then
      pure .broadcast
    else if kind.eqStr "groups" then
      match Dict.get d "value" with
      | .list (v :: vs) => do
        let ids ← canonicalGroupIds [] (v :: vs)
        pure (.groups (ids.insertionSort (· ≤ ·)))
      | _ => .error (.valueError
          [.text "target.value for groups must be a non-empty list of int group ids"])
    else if kind.eqStr "device" then
      match Dict.get d "value" with
      | .str s => do
        let v := upper (strip s)
        raiseIf (¬ isMac12 v)
          [.text "invalid device address ", .repr (.str s), .text ": expected 12-char hex"]
        pure (.device v)
      | _ => .error (.valueError
          [.text "target.value for device must be a 12-char MAC hex string"])
    else
      .error (.valueError [.text "invalid target kind ", .repr kind,
        .text " (expected 'broadcast', 'groups', or 'device')"])
  | _ => .error (.valueError [.text "target must be a dict with 'kind'"])

/-- `_canonical_offset_group_container_target`. -/
def canonicalOffsetGroupContainerTarget (raw : PyVal) : Except PyErr Target := do
  let target ← canonicalTarget raw
  match target with
  | .device _ => .error (.valueError
      [.text ("offset_group container target cannot be 'device' " ++
        "(offset is per-group); use 'groups' or 'broadcast'")])
  | _ => pure target

/-- The subset check of a child's groups, in list order. -/
def checkChildGroups (parentGroups : List Int) : List Int → Except PyErr Unit
  | [] => .ok ()
  | v :: vs => do
    raiseIf (v ∉ parentGroups)
      [.text s!"child target group {v} is not in the offset_group's participating groups ",
       .repr (.list (parentGroups.map .int))]
    checkChildGroups parentGroups vs

/-- `_canonical_offset_group_child_target`.  `parentGroups` is `none` for `"all"`. -/
def canonicalOffsetGroupChildTarget (raw : PyVal) (parentGroups : Option (List Int)) :
    Except PyErr Target := do
  let target ← canonicalTarget raw
  match target, parentGroups with
  | .groups value, some parent => do
    checkChildGroups parent value
    pure target
  | _, _ => pure target

/-! ## 3. Effects -/

/-- `_canonical_flags_override`. -/
def canonicalFlagsOverride (raw : PyVal) : Except PyErr FlagsOverride :=
  match raw.or (.dict []) with
  | .dict d => .ok ⟨fun k => (Dict.find? d k.key).map (·.truthy)⟩
  | _ => .error (.valueError [.text "flags_override must be a dict or absent"])

/-- The check of a raw `params`, absent or a dictionary, with the caller's message. -/
def canonicalParams (msg : String) : PyVal → Except PyErr Dict
  | .null => .ok []
  | .dict d => .ok d
  | _ => .error (.valueError [.text msg])

/-- `_canonical_offset_group_child`. -/
def canonicalOffsetGroupChild (parentGroups : Option (List Int)) (raw : PyVal) :
    Except PyErr Effect :=
  match raw with
  | .dict d => do
    let kind := Dict.get d "kind"
    match offsetGroupChildKinds.find? fun k => kind.eqStr k.name with
    | none => .error (.valueError [.text "offset_group child kind ", .repr kind,
        .text " not in ('rl_preset', 'wled_preset', 'wled_control')"])
    | some k => do
      raiseIf (¬ Dict.contains d "target")
        [.text "offset_group child ", .repr kind, .text " requires a target"]
      let target ← canonicalOffsetGroupChildTarget (Dict.get d "target") parentGroups
      let params ← canonicalParams "offset_group child params must be a dict or absent"
        (Dict.get d "params")
      let flags ← canonicalFlagsOverride (Dict.get d "flags_override")
      pure { kind := k, target := target, params := params, flagsOverride := some flags }
  | _ => .error (.valueError [.text "offset_group child must be a dict"])

/-- The kinds that carry the four user flags (`KINDS_WITH_FLAGS`). -/
def EffectKind.withFlags : EffectKind → Bool
  | .startblock => false
  | _ => true

/-- The part of `_canonical_action` for the kinds with a target. -/
def canonicalEffect (kind : EffectKind) (d : Dict) : Except PyErr Effect := do
  raiseIf (¬ Dict.contains d "target")
    [.text "action kind ", .repr (.str kind.name), .text " requires a 'target'"]
  let target ← canonicalTarget (Dict.get d "target")
  let params ← canonicalParams "params must be a dict or absent" (Dict.get d "params")
  if kind.withFlags then do
    let flags ← canonicalFlagsOverride (Dict.get d "flags_override")
    pure { kind := kind, target := target, params := params, flagsOverride := some flags }
  else
    pure { kind := kind, target := target, params := params, flagsOverride := none }

/-! ## 4. Offset groups -/

/-- `_validate_int`. -/
def validateInt (name : String) (raw : PyVal) (lo hi : Int) : Except PyErr Int := do
  let v ← intCatch raw (.error (.valueError [.text s!"{name} must be int"]))
  raiseIf (v < lo ∨ v > hi) [.text s!"{name} {v} out of [{lo}..{hi}]"]
  pure v

/-- The loop of `_canonical_offset_block` over explicit values, before it sorts them. -/
def canonicalValues (groupIds : List Int) : List PyVal → Except PyErr (List OffsetValue)
  | [] => .ok []
  | .dict d :: rest => do
    let gid ← validateInt "groups_offset.offset.values[].id" (Dict.get d "id") 0 groupIdMax
    raiseIf (gid ∉ groupIds)
      [.text s!"groups_offset.offset.values references id {gid} not in groups"]
    let ms ← validateInt "groups_offset.offset.values[].offset_ms" (Dict.get d "offset_ms")
      offsetMsMin offsetMsMax
    let values ← canonicalValues groupIds rest
    pure (⟨gid, ms⟩ :: values)
  | _ :: _ => .error (.valueError [.text "groups_offset.offset.values entries must be dicts"])

/-- The message for an explicit block whose values do not match the groups in number. -/
def valuesLengthMsg : Msg :=
  [.text ("groups_offset.offset.values must be a list of " ++
    "\x7bid, offset_ms\x7d entries, one per group")]

/-- `_canonical_offset_block`. -/
def canonicalOffsetBlock (raw : PyVal) (groupsIsAll : Bool) (groupIds : Option (List Int)) :
    Except PyErr OffsetBlock :=
  match raw with
  | .dict d => do
    let mode := Dict.get d "mode"
    raiseIf (¬ offsetFormulaModes.any mode.eqStr)
      [.text "groups_offset.offset.mode ", .repr mode,
       .text " not in ('none', 'explicit', 'linear', 'vshape', 'modulo')"]
    if mode.eqStr "none" then
      pure .none
    else if mode.eqStr "explicit" then
      match groupsIsAll, groupIds with
      | false, some ids =>
        match Dict.get d "values" with
        | .list raws => do
          raiseIf (raws.length ≠ ids.length) valuesLengthMsg
          let values ← canonicalValues ids raws
          pure (.explicit (values.insertionSort fun a b => a.id ≤ b.id))
        | _ => .error (.valueError valuesLengthMsg)
      | _, _ => .error (.valueError
          [.text "groups_offset.offset.mode=\"explicit\" requires a concrete groups list"])
    else do
      let base ← validateInt "groups_offset.offset.base_ms" (Dict.getD d "base_ms" (.int 0))
        offsetBaseMin offsetBaseMax
      let step ← validateInt "groups_offset.offset.step_ms" (Dict.getD d "step_ms" (.int 0))
        offsetStepMin offsetStepMax
      if mode.eqStr "linear" then
        pure (.linear base step)
      else if mode.eqStr "vshape" then do
        let center ← validateInt "groups_offset.offset.center" (Dict.getD d "center" (.int 0))
          0 groupIdMax
        pure (.vshape base step center)
      else if mode.eqStr "modulo" then do
        let cycle ← validateInt "groups_offset.offset.cycle" (Dict.getD d "cycle" (.int 1))
          offsetCycleMin offsetCycleMax
        pure (.modulo base step cycle)
      else .error .assertionError
  | _ => .error (.valueError [.text "groups_offset.offset must be a dict"])

/-- The target of a container, derived from the standalone `groups` field of the legacy shape
when there is none. -/
def containerTargetRaw (d : Dict) : Except PyErr PyVal :=
  match Dict.get d "target" with
  | .null =>
    let legacy := Dict.get d "groups"
    if legacy.eqStr "all" || legacy.eqInt 255 then
      .ok (strDict [("kind", .str "broadcast")])
    else match legacy with
      | .list (g :: gs) => .ok (strDict [("kind", .str "groups"), ("value", .list (g :: gs))])
      | _ => .error (.valueError
          [.text "offset_group requires a \"target\" field; legacy \"groups\" ",
           .text "is missing or invalid: ", .repr legacy])
  | target => .ok target

/-- The group ids of a concrete list target; `none` for broadcast. -/
def Target.groupIds? : Target → Option (List Int)
  | .groups value => some value
  | _ => none

/-- The canonical children, each checked in turn. -/
def canonicalChildren (parentGroups : Option (List Int)) (raws : List PyVal) :
    Except PyErr (List Effect) :=
  raws.mapM (canonicalOffsetGroupChild parentGroups)

/-- `_canonical_offset_group_action`. -/
def canonicalOffsetGroupAction (d : Dict) : Except PyErr Action := do
  let targetRaw ← containerTargetRaw d
  let target ← canonicalOffsetGroupContainerTarget targetRaw
  let ids := target.groupIds?
  raiseIf ((ids.getD []).length > maxGroupsOffsetEntries)
    [.text s!"offset_group has {(ids.getD []).length} entries; max is {maxGroupsOffsetEntries}"]
  let offset ← canonicalOffsetBlock (Dict.get d "offset") (target == .broadcast) ids
  match (Dict.get d "actions").or (.list []) with
  | .list children => do
    raiseIf (children.length > maxOffsetGroupChildren)
      [.text s!"offset_group has {children.length} children; max is {maxOffsetGroupChildren}"]
    let actions ← canonicalChildren ids children
    pure (.offsetGroup target offset actions)
  | _ => .error (.valueError [.text "offset_group.actions must be a list"])

/-! ## 5. The legacy `groups_offset` target -/

/-- `_is_legacy_groups_offset_target`, with the target it has seen. -/
def legacyGroupsOffsetTarget? (d : Dict) : Option Dict :=
  match Dict.get d "target" with
  | .dict t => if (Dict.get t "kind").eqStr "groups_offset" then some t else none
  | _ => none

/-- `v.get(k)` of a value that need not be a dictionary. -/
def attrGet (v : PyVal) (k : String) : Except PyErr PyVal :=
  match v with
  | .dict d => .ok (Dict.get d k)
  | _ => .error .attributeError

/-- The entry `{id, offset_ms}` of an explicit block made from a legacy entry. -/
def legacyValue : PyVal → Except PyErr PyVal
  | .dict d => do
    let id ← int (Dict.get d "id")
    let ms ← int (Dict.getD d "offset_ms" (.int 0))
    pure (strDict [("id", .int id), ("offset_ms", .int ms)])
  | _ => .error .attributeError

/-- The groups and the offset block of the oldest legacy shape, a list of `{id, offset_ms}`
entries with optional `ui_hints`. -/
def preFormulaGroups (legacyTarget : Dict) (entries : List PyVal) :
    Except PyErr (PyVal × PyVal) := do
  let ids ← entries.mapM fun d => do int (← attrGet d "id")
  let hints := (legacyTarget.get "ui_hints").or (.dict [])
  let mode ← attrGet hints "mode"
  match hints with
  | .dict h =>
    match mode.eqStr "linear", Dict.get h "base_ms", Dict.get h "step_ms" with
    | false, _, _ | _, .null, _ | _, _, .null => do
      let values ← entries.mapM legacyValue
      pure (.list (ids.map .int), strDict [("mode", .str "explicit"), ("values", .list values)])
    | true, base, step => do
      let base ← int base
      let step ← int step
      pure (.list (ids.map .int),
        strDict [("mode", .str "linear"), ("base_ms", .int base), ("step_ms", .int step)])
  | _ => .error .attributeError

/-- The groups and the offset block of a legacy target. -/
def legacyGroupsAndOffset (legacyTarget : Dict) : Except PyErr (PyVal × PyVal) :=
  match legacyTarget.get "groups" with
  | .list (.dict e :: rest) => preFormulaGroups legacyTarget (.dict e :: rest)
  | legacy =>
    let groups := if legacy.eqStr "all" || legacy.eqInt 255 then .str "all" else legacy
    .ok (groups, (legacyTarget.get "offset").or (strDict [("mode", .str "none")]))

/-- `_migrate_legacy_groups_offset_action`. -/
def migrateLegacyGroupsOffsetAction (d legacyTarget : Dict) : Except PyErr Dict := do
  let (groups, offset) ← legacyGroupsAndOffset legacyTarget
  let params ← dictOf ((Dict.get d "params").or (.dict []))
  let flags ← dictOf ((Dict.get d "flags_override").or (.dict []))
  let child := strDict [("kind", Dict.get d "kind"),
    ("target", strDict [("kind", .str "broadcast")]),
    ("params", .dict params), ("flags_override", .dict flags)]
  let target ← if groups.eqStr "all" then pure (strDict [("kind", .str "broadcast")]) else do
    let value ← listOf groups
    pure (strDict [("kind", .str "groups"), ("value", .list value)])
  pure [(.str "kind", .str "offset_group"), (.str "target", target), (.str "offset", offset),
    (.str "actions", .list [child])]

/-! ## 6. Actions -/

/-- The check that a strict kind carries none of the given fields. -/
def rejectStray (kind : String) (d : Dict) : List String → Except PyErr Unit
  | [] => .ok ()
  | stray :: strays => do
    raiseIf (Dict.contains d stray) [.text s!"{kind} action must not carry '{stray}'"]
    rejectStray kind d strays

/-- `_canonical_action` of a dictionary that is not in the legacy `groups_offset` shape. -/
def canonicalActionDict (d : Dict) : Except PyErr Action :=
  let kind := Dict.get d "kind"
  match Kind.ofVal? kind with
  | none => .error (.valueError [.text "invalid action kind ", .repr kind,
      .text "; expected one of ('rl_preset', 'wled_preset', 'wled_control', 'startblock', ",
      .text "'sync', 'delay', 'offset_group')"])
  | some .offsetGroup => do
    rejectStray "offset_group" d ["params", "flags_override", "duration_ms"]
    canonicalOffsetGroupAction d
  | some .delay => do
    let dur ← intCatch (Dict.getD d "duration_ms" (.int 0))
      (.error (.valueError [.text "delay.duration_ms must be int"]))
    raiseIf (dur < 0 ∨ dur > maxDelayMs)
      [.text s!"delay duration_ms {dur} out of [0..{maxDelayMs}]"]
    rejectStray "delay" d ["target", "params", "flags_override"]
    pure (.delay dur)
  | some .sync => do
    rejectStray "sync" d ["target", "params", "flags_override", "duration_ms"]
    pure .sync
  | some (.effect k) => do
    let e ← canonicalEffect k d
    pure (.effect e)

/-- `_canonical_action`. -/
def canonicalAction (raw : PyVal) : Except PyErr Action :=
  match raw with
  | .dict d =>
    match legacyGroupsOffsetTarget? d with
    | some t => do
      let d ← migrateLegacyGroupsOffsetAction d t
      canonicalActionDict d
    | none => canonicalActionDict d
  | _ => .error (.valueError [.text "action must be a dict"])

/-- `_canonical_actions`. -/
def canonicalActions (raw : PyVal) : Except PyErr (List Action) :=
  match raw with
  | .null => .ok []
  | .list raws => do
    raiseIf (raws.length > maxActionsPerScene)
      [.text s!"too many actions: {raws.length} > {maxActionsPerScene}"]
    raws.mapM canonicalAction
  | _ => .error (.valueError [.text "actions must be a list"])

end RaceLink
