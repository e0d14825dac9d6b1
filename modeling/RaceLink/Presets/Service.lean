/-
# The preset service

`RLPresetsService` keeps its presets as `SceneService` keeps its scenes.  What is different:

* `_load` migrates: a file of an older schema is written back at once, and if that write fails,
  `_load` raises;
* `create` takes the id before it validates the parameters, so a `create` that is refused uses an
  id up;
* `_load` does not catch what the validation raises.
-/
import RaceLink.Presets.Preset
import RaceLink.Stores.CachedFile

namespace RaceLink.RLPresetsService

open Python RlPresets CachedFile

/-! ## 1. The store -/

/-- The fields of the service, and its file. -/
structure Store where
  file : File
  cache : Option (List Preset)
  nextId : Option Int

/-- What one call meets outside the service. -/
structure Env where
  /-- `_now_iso()`. -/
  now : String
  /-- Whether the write of a migration succeeds. -/
  migrateOk : Bool
  /-- Whether the write of the call itself succeeds. -/
  diskOk : Bool
  /-- How the JSON encoder spells a float key. -/
  floatText : PyFloat → String

/-- `SCHEMA_VERSION`. -/
def schemaVersion : Int := 2

/-- `_slugify`. -/
def slugify (text : String) : String :=
  let base := String.ofList (stripChars (· == '_') (slugChars false (lower (strip text)).toList))
  if base = "" then "preset" else base

/-! ## 2. The file -/

/-- The document `_write_atomic` dumps. -/
def payload (nextId : Int) (presets : List Preset) : PyVal :=
  strDict [("schema_version", .int schemaVersion), ("next_id", .int nextId),
    ("presets", .list (presets.map (·.toPy)))]

/-- `_write_atomic`, which succeeds or not. -/
def writeAtomic (env : Env) (ok : Bool) (presets : List Preset) : Script Store Unit := do
  let s ← Script.get
  let nextId := s.nextId.getD (((presets.map (·.id)).max?.getD (-1)) + 1)
  if ok then
    Script.modify fun s =>
      { s with file := .doc (jsonRoundTrip env.floatText (payload nextId presets)) }
  else
    Script.lift (.error .osError)

/-- `_invalidate`. -/
def invalidate : Script Store Unit := Script.modify fun s => { s with cache := none }

/-- The loop of `_load` over the entries: the presets, and the ids they use. -/
def loadPresets (now : String) : List Int → Int → List PyVal → Except PyErr (List Preset × List Int)
  | used, _, [] => .ok ([], used)
  | used, index, .dict entry :: rest =>
    match Dict.get entry "key", Dict.get entry "label" with
    | .str key, .str label => do
      let rawId ← requestedId entry index
      let presetId := skipUsed used used.length rawId
      let params ← RlPresets.canonicalParams (Dict.get entry "params")
      let flags ← canonicalFlags (Dict.get entry "flags")
      let (presets, used') ← loadPresets now (presetId :: used) (index + 1) rest
      pure ({ id := presetId, key := key, label := label
              created := (Dict.get entry "created").or (.str now)
              updated := ((Dict.get entry "updated").or (Dict.get entry "created")).or (.str now)
              params := params, flags := flags } :: presets, used')
    | _, _ => loadPresets now used (index + 1) rest
  | used, index, _ :: rest => loadPresets now used (index + 1) rest

/-- An early exit of `_load`. -/
def loadEmpty : Script Store (List Preset) := do
  Script.modify fun s => { s with nextId := some 0 }
  pure []

/-- `_load`. -/
def load (env : Env) : Script Store (List Preset) := do
  let s ← Script.get
  match s.file with
  | .doc (.dict data) => do
    let schema ← int ((Dict.getD data "schema_version" (.int 0)).or (.int 0))
    match Dict.get data "presets" with
    | .list rawPresets => do
      let (presets, used) ← loadPresets env.now [] 0 rawPresets
      Script.modify fun s => { s with nextId := some (loadedNextId (Dict.get data "next_id") used) }
      if schema < schemaVersion then writeAtomic env env.migrateOk presets
      pure presets
    | _ => loadEmpty
  | _ => loadEmpty

/-- `_items`. -/
def items (env : Env) : Script Store (List Preset) := do
  let s ← Script.get
  match s.cache with
  | some presets => pure presets
  | none => do
    let presets ← load env
    Script.modify fun s => { s with cache := some presets }
    pure presets

/-! ## 3. The methods -/

/-- `list`. -/
def list (env : Env) : Script Store (List Preset) := items env

/-- `get`. -/
def get (env : Env) (key : String) : Script Store (Option Preset) := do
  let presets ← items env
  pure (presets.find? (·.key == key))

/-- `get_by_id`. -/
def getById (env : Env) (presetId : PyVal) : Script Store (Option Preset) :=
  match int presetId with
  | .error .typeError => pure none
  | .error (.valueError _) => pure none
  | .error e => Script.lift (.error e)
  | .ok pid => do
    let presets ← items env
    pure (presets.find? (·.id == pid))

/-- `create`. -/
def create (env : Env) (label : String) (params flags : PyVal) (key : Option String) :
    Script Store Preset := do
  let labelClean := strip label
  raiseIf (labelClean = "") [.text "label is required"]
  let presets ← items env
  let desired := slugify (if (key.getD "") = "" then labelClean else key.getD "")
  let finalKey ← uniqueKey desired (presets.map (·.key))
  let s ← Script.get
  let newId := s.nextId.getD 0
  Script.modify fun s => { s with nextId := some (newId + 1) }
  let params ← RlPresets.canonicalParams params
  let flags ← canonicalFlags flags
  let preset : Preset :=
    { id := newId, key := finalKey, label := labelClean, created := .str env.now
      updated := .str env.now, params := params, flags := flags }
  -- `items` is the cached list: the append shows in the cache before the write
  Script.modify fun s => { s with cache := some (presets ++ [preset]) }
  writeAtomic env env.diskOk (presets ++ [preset])
  invalidate
  pure preset

/-- `items[idx] = new_entry` at the first preset with the key. -/
def replaceFirst (key : String) (newEntry : Preset) : List Preset → List Preset
  | [] => []
  | preset :: rest =>
    if preset.key = key then newEntry :: rest else preset :: replaceFirst key newEntry rest

/-- A part of an update: validated when the caller gives it. -/
def given {α : Type} (old : α) (validate : PyVal → Except PyErr α) : PyVal → Except PyErr α
  | .null => .ok old
  | raw => validate raw

/-- The preset with what the caller gives: its label, its parameters, its flags. -/
def updated (env : Env) (preset : Preset) (label : Option String) (params flags : PyVal) :
    Except PyErr Preset := do
  let label ← updatedLabel preset.label label
  let params ← given preset.params RlPresets.canonicalParams params
  let flags ← given preset.flags canonicalFlags flags
  pure { preset with label := label, params := params, flags := flags, updated := .str env.now }

/-- `update`.  A part is `None` (`null`) when the caller gives none. -/
def update (env : Env) (key : String) (label : Option String) (params flags : PyVal) :
    Script Store (Option Preset) := do
  let presets ← items env
  match presets.find? (·.key == key) with
  | none => pure none
  | some preset => do
    let newEntry ← updated env preset label params flags
    writeAtomic env env.diskOk (replaceFirst key newEntry presets)
    invalidate
    pure (some newEntry)

/-- `delete`. -/
def delete (env : Env) (key : String) : Script Store Bool := do
  let presets ← items env
  let kept := presets.filter (·.key != key)
  if kept.length = presets.length then pure false
  else do
    writeAtomic env env.diskOk kept
    invalidate
    pure true

/-- The label of a duplicate. -/
def copyLabel (src : Preset) (newLabel : Option String) : String :=
  strip (if newLabel.getD "" = "" then s!"{src.label} copy" else newLabel.getD "")

/-- `duplicate`. -/
def duplicate (env : Env) (key : String) (newLabel : Option String) :
    Script Store (Option Preset) := do
  match ← get env key with
  | none => pure none
  | some src => do
    let preset ← create env (copyLabel src newLabel) src.params.toPy (flagsToPy src.flags) none
    pure (some preset)

/-- The entry `replace_all` builds. -/
def replacedPreset (env : Env) (newId : Int) (key : String) (entry : Dict) :
    Except PyErr Preset := do
  let label ← textOr (Dict.get entry "label") key
  let params ← RlPresets.canonicalParams (Dict.get entry "params")
  let flags ← canonicalFlags (Dict.get entry "flags")
  pure
    { id := newId, key := key, label := strip label
      created := (Dict.get entry "created").or (.str env.now)
      updated := (Dict.get entry "updated").or (.str env.now)
      params := params, flags := flags }

/-- `replace_all`. -/
def replaceAll (env : Env) (entries : List PyVal) : Script Store Unit := do
  let _ ← items env
  let s ← Script.get
  let (canonical, nextId) :=
    replaceEntries slugify (replacedPreset env) [] entries (s.nextId.getD 0)
  Script.modify fun s => { s with nextId := some nextId }
  let canonical ← canonical
  writeAtomic env env.diskOk canonical
  invalidate

/-! ## 4. Calls -/

/-- What is done with a service: its methods, and a restart. -/
inductive Call where
  | list
  | get (key : String)
  | getById (presetId : PyVal)
  | create (label : String) (params flags : PyVal) (key : Option String)
  | update (key : String) (label : Option String) (params flags : PyVal)
  | delete (key : String)
  | duplicate (key : String) (newLabel : Option String)
  | replaceAll (entries : List PyVal)
  | restart

/-- A service that has just been made, over this file. -/
def fresh (file : File) : Store := { file := file, cache := none, nextId := none }

/-- The call as it is made; its result is dropped. -/
def Call.perform (env : Env) : Call → Script Store Unit
  | .list => do let _ ← RLPresetsService.list env
  | .get key => do let _ ← RLPresetsService.get env key
  | .getById presetId => do let _ ← RLPresetsService.getById env presetId
  | .create label params flags key => do
    let _ ← RLPresetsService.create env label params flags key
  | .update key label params flags => do
    let _ ← RLPresetsService.update env key label params flags
  | .delete key => do let _ ← RLPresetsService.delete env key
  | .duplicate key newLabel => do let _ ← RLPresetsService.duplicate env key newLabel
  | .replaceAll entries => RLPresetsService.replaceAll env entries
  | .restart => Script.modify fun s => fresh s.file

/-- One call after another, each with what it meets. -/
def step (s : Store) (c : Env × Call) : Store := (c.2.perform c.1 s).2

end RaceLink.RLPresetsService
