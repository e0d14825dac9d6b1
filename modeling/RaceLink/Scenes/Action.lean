/-
# Scene actions

A scene is an ordered list of actions.  The source keeps an action as a dictionary whose shape
`scenes_service.py` validates; here the validated shapes are types, and `toPy` gives back the
dictionary that is stored, so the validator can be run on what it produced.

A type admits more than the validator: the groups of a `Target` can be in any order, an
`explicit` offset block can sit under a broadcast target.  The rewrites the service applies
after validation (the broadcast collapse, the renumbering) do build such values, which is what
the results about them are about.
-/
import RaceLink.Python.Json
import RaceLink.Domain.Flags

namespace RaceLink

open Python

/-! ## 1. Targets and offset blocks -/

/-- An action's target. -/
inductive Target where
  | broadcast
  | groups (value : List Int)
  | device (value : String)
  deriving DecidableEq

/-- A dictionary with string keys. -/
def strDict (kvs : List (String × PyVal)) : PyVal := .dict (kvs.map fun e => (.str e.1, e.2))

/-- The stored form of a target. -/
def Target.toPy : Target → PyVal
  | .broadcast => strDict [("kind", .str "broadcast")]
  | .groups value => strDict [("kind", .str "groups"), ("value", .list (value.map .int))]
  | .device value => strDict [("kind", .str "device"), ("value", .str value)]

/-- One entry of an explicit offset block. -/
structure OffsetValue where
  id : Int
  offsetMs : Int
  deriving DecidableEq

/-- The stored form of an entry. -/
def OffsetValue.toPy (v : OffsetValue) : PyVal :=
  strDict [("id", .int v.id), ("offset_ms", .int v.offsetMs)]

/-- The offset block of an `offset_group` container, by mode. -/
inductive OffsetBlock where
  | none
  | explicit (values : List OffsetValue)
  | linear (baseMs stepMs : Int)
  | vshape (baseMs stepMs center : Int)
  | modulo (baseMs stepMs cycle : Int)
  deriving DecidableEq

/-- The stored form of an offset block. -/
def OffsetBlock.toPy : OffsetBlock → PyVal
  | .none => strDict [("mode", .str "none")]
  | .explicit values => strDict [("mode", .str "explicit"), ("values", .list (values.map (·.toPy)))]
  | .linear base step =>
    strDict [("mode", .str "linear"), ("base_ms", .int base), ("step_ms", .int step)]
  | .vshape base step center =>
    strDict [("mode", .str "vshape"), ("base_ms", .int base), ("step_ms", .int step),
      ("center", .int center)]
  | .modulo base step cycle =>
    strDict [("mode", .str "modulo"), ("base_ms", .int base), ("step_ms", .int step),
      ("cycle", .int cycle)]

/-- The offset an explicit block gives a group. -/
def OffsetBlock.offsetOf (groupId : Int) : OffsetBlock → Option Int
  | .explicit values => (values.find? (·.id == groupId)).map (·.offsetMs)
  | _ => .none

/-! ## 2. Effects -/

/-- The kinds that target groups or a device (`KINDS_WITH_TARGET`). -/
inductive EffectKind where
  | rlPreset
  | wledPreset
  | wledControl
  | startblock
  deriving DecidableEq

/-- The kind's text. -/
def EffectKind.name : EffectKind → String
  | rlPreset => "rl_preset"
  | wledPreset => "wled_preset"
  | wledControl => "wled_control"
  | startblock => "startblock"

/-- A `flags_override`: for each user flag a value, or none when the flag is not overridden. -/
structure FlagsOverride where
  get : UserFlag → Option Bool

/-- The stored form: the flags that are set, in the order of `USER_FLAG_KEYS`. -/
def FlagsOverride.toPy (f : FlagsOverride) : PyVal :=
  .dict (UserFlag.all.filterMap fun k => (f.get k).map fun b => (.str k.key, .bool b))

/-- An effect: a dispatchable action, at the top level or as the child of an `offset_group`.
A startblock has no `flags_override`. -/
structure Effect where
  kind : EffectKind
  target : Target
  params : Dict
  flagsOverride : Option FlagsOverride

/-- The stored form of an effect. -/
def Effect.toPy (e : Effect) : PyVal :=
  strDict ([("kind", .str e.kind.name), ("target", e.target.toPy), ("params", .dict e.params)] ++
    match e.flagsOverride with
    | some f => [("flags_override", f.toPy)]
    | none => [])

/-! ## 3. Actions -/

/-- A scene action. -/
inductive Action where
  | effect (e : Effect)
  | sync
  | delay (durationMs : Int)
  | offsetGroup (target : Target) (offset : OffsetBlock) (actions : List Effect)

/-- The stored form of an action. -/
def Action.toPy : Action → PyVal
  | .effect e => e.toPy
  | .sync => strDict [("kind", .str "sync")]
  | .delay durationMs => strDict [("kind", .str "delay"), ("duration_ms", .int durationMs)]
  | .offsetGroup target offset actions =>
    strDict [("kind", .str "offset_group"), ("target", target.toPy), ("offset", offset.toPy),
      ("actions", .list (actions.map (·.toPy)))]

/-- The stored form of a list of actions. -/
def actionsToPy (actions : List Action) : PyVal := .list (actions.map (·.toPy))

/-- The effects of an action: the action itself, or the container's children. -/
def Action.effects : Action → List Effect
  | .effect e => [e]
  | .offsetGroup _ _ actions => actions
  | .sync => []
  | .delay _ => []

/-- The action kinds (`ALL_KINDS`). -/
inductive Kind where
  | effect (k : EffectKind)
  | sync
  | delay
  | offsetGroup
  deriving DecidableEq

/-- The kind's text. -/
def Kind.name : Kind → String
  | effect k => k.name
  | sync => "sync"
  | delay => "delay"
  | offsetGroup => "offset_group"

/-- The kind of an action. -/
def Action.kind : Action → Kind
  | .effect e => .effect e.kind
  | .sync => .sync
  | .delay _ => .delay
  | .offsetGroup _ _ _ => .offsetGroup

end RaceLink
