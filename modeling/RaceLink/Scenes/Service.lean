/-
# The scene service

`SceneService`: the scenes of one JSON file behind a cache.  A mutating call loads the file if
nothing is cached, changes the list, writes the whole file and drops the cache, so the next
reader sees what `_load` makes of the file and not what the call had in hand.

The methods are `Script`s over the service's fields.  A raise keeps what was already assigned:
`create` appends to the cached list itself before it writes.
-/
import RaceLink.Scenes.Collapse
import RaceLink.Stores.Shared

namespace RaceLink

open Python

/-! ## 1. Scenes and the store -/

/-- A scene.  `stopOnError` is `none` when the entry has no such field. -/
structure Scene where
  id : Int
  key : String
  label : String
  created : PyVal
  updated : PyVal
  actions : List Action
  stopOnError : Option Bool

/-- The stored form of a scene. -/
def Scene.toPy (s : Scene) : PyVal :=
  strDict ([("id", .int s.id), ("key", .str s.key), ("label", .str s.label),
    ("created", s.created), ("updated", s.updated), ("actions", actionsToPy s.actions)] ++
    match s.stopOnError with
    | some b => [("stop_on_error", .bool b)]
    | none => [])

/-- `_clone_scene`.  The copies of the actions are equal to them. -/
def cloneScene (s : Scene) : Scene := { s with stopOnError := some (s.stopOnError.getD true) }

/-- The fields of the service, and its file. -/
structure Store where
  file : File
  cache : Option (List Scene)
  nextId : Option Int

/-- What one call meets outside the service. -/
structure Env where
  /-- `_now_iso()`. -/
  now : String
  /-- Whether the atomic write succeeds. -/
  diskOk : Bool
  /-- How the JSON encoder spells a float key. -/
  floatText : PyFloat → String
  /-- The injected getter, if any, and what it does when it is called. -/
  knownGroupIdsGetter : Option (Except Unit (List Int))

/-! ## 2. Helpers -/

/-- `_slugify`. -/
def slugify (text : String) : String :=
  let base := String.ofList (stripChars (· == '_') (slugChars false (lower (strip text)).toList))
  if base = "" then "scene" else base

/-- `_coerce_bool`. -/
def coerceBool (raw : PyVal) (default : Bool) : Bool :=
  match raw with
  | .bool b => b
  | .int i => i != 0
  | .str s =>
    let s := lower (strip s)
    if s ∈ ["true", "1", "yes", "on"] then true
    else if s ∈ ["false", "0", "no", "off"] then false
    else default
  | _ => default

/-- The id the loop ends at. -/
def freshSceneId (used : List Int) (sceneId : Int) : Int := skipUsed used used.length sceneId

/-! ## 3. Reading the file -/

/-- The actions of an entry; a list the validator rejects is dropped. -/
def loadActions (raw : PyVal) : Except PyErr (List Action) :=
  match canonicalActions raw with
  | .error (.valueError _) => .ok []
  | r => r

/-- The loop of `_load` over the entries: the scenes, and the ids they use. -/
def loadScenes (now : String) : List Int → Int → List PyVal → Except PyErr (List Scene × List Int)
  | used, _, [] => .ok ([], used)
  | used, index, .dict entry :: rest =>
    match Dict.get entry "key", Dict.get entry "label" with
    | .str key, .str label => do
      let sceneId ← match Dict.get entry "id" with
        | .null => pure index
        | rawId => intCatch rawId (.ok index)
      let sceneId := freshSceneId used sceneId
      let actions ← loadActions (Dict.get entry "actions")
      let (scenes, used) ← loadScenes now (sceneId :: used) (index + 1) rest
      pure ({ id := sceneId, key := key, label := label
              created := (Dict.get entry "created").or (.str now)
              updated := ((Dict.get entry "updated").or (Dict.get entry "created")).or (.str now)
              actions := actions
              stopOnError := some (coerceBool (Dict.get entry "stop_on_error") true) } :: scenes,
            used)
    | _, _ => loadScenes now used (index + 1) rest
  | used, index, _ :: rest => loadScenes now used (index + 1) rest

/-- An early exit of `_load`. -/
def loadEmpty : Script Store (List Scene) := do
  Script.modify fun s => { s with nextId := some 0 }
  pure []

/-- `_load`. -/
def load (env : Env) : Script Store (List Scene) := do
  let s ← Script.get
  match s.file with
  | .doc (.dict data) => do
    let _ ← int ((Dict.getD data "schema_version" (.int 0)).or (.int 0))
    match Dict.get data "scenes" with
    | .list rawScenes => do
      let (scenes, used) ← loadScenes env.now [] 0 rawScenes
      Script.modify fun s => { s with nextId := some (loadedNextId (Dict.get data "next_id") used) }
      pure scenes
    | _ => loadEmpty
  | _ => loadEmpty

/-- `_items`. -/
def items (env : Env) : Script Store (List Scene) := do
  let s ← Script.get
  match s.cache with
  | some scenes => pure scenes
  | none => do
    let scenes ← load env
    Script.modify fun s => { s with cache := some scenes }
    pure scenes

/-! ## 4. Writing it -/

/-- The document `_write_atomic` dumps. -/
def payload (nextId : Int) (scenes : List Scene) : PyVal :=
  strDict [("schema_version", .int 1), ("next_id", .int nextId),
    ("scenes", .list (scenes.map (·.toPy)))]

/-- `_write_atomic`: the file is replaced by the whole document, or nothing is. -/
def writeAtomic (env : Env) (scenes : List Scene) : Script Store Unit := do
  let s ← Script.get
  let nextId := s.nextId.getD (((scenes.map (·.id)).max?.getD (-1)) + 1)
  if env.diskOk then
    Script.modify fun s =>
      { s with file := .doc (jsonRoundTrip env.floatText (payload nextId scenes)) }
  else
    Script.lift (.error .osError)

/-- `_invalidate`. -/
def invalidate : Script Store Unit := Script.modify fun s => { s with cache := none }

/-- `_apply_broadcast_collapse`. -/
def applyBroadcastCollapse (env : Env) (actions : List Action) : List Action :=
  match env.knownGroupIdsGetter with
  | some (.ok known) => collapseActionsToBroadcast known actions
  | _ => actions

/-- `create`. -/
def create (env : Env) (label : String) (actions : PyVal) (key : Option String)
    (stopOnError : PyVal) : Script Store Scene := do
  let labelClean := strip label
  raiseIf (labelClean = "") [.text "label is required"]
  let canonical ← canonicalActions actions
  let collapsed := applyBroadcastCollapse env canonical
  let stop := match stopOnError with
    | .null => true
    | raw => coerceBool raw true
  let scenes ← items env
  let desired := slugify (if (key.getD "") = "" then labelClean else key.getD "")
  let finalKey ← uniqueKey desired (scenes.map (·.key))
  let s ← Script.get
  let newId := s.nextId.getD 0
  let scene : Scene :=
    { id := newId, key := finalKey, label := labelClean, created := .str env.now
      updated := .str env.now, actions := collapsed, stopOnError := some stop }
  -- `items` is the cached list: the append shows in the cache before the write
  Script.modify fun s => { s with nextId := some (newId + 1), cache := some (scenes ++ [scene]) }
  writeAtomic env (scenes ++ [scene])
  invalidate
  pure (cloneScene scene)

/-- `items[idx] = new_entry` at the first scene with the key. -/
def replaceFirst (key : String) (newEntry : Scene) : List Scene → List Scene
  | [] => []
  | scene :: rest =>
    if scene.key = key then newEntry :: rest else scene :: replaceFirst key newEntry rest

/-- The label of an update: unchanged when absent, not blank when given. -/
def updatedLabel (old : String) : Option String → Except PyErr String
  | none => .ok old
  | some label => do
    raiseIf (strip label = "") [.text "label must not be empty"]
    pure (strip label)

/-- The actions of an update, canonical and collapsed; `none` when the caller gives none. -/
def updatedActions (env : Env) : PyVal → Except PyErr (Option (List Action))
  | .null => .ok none
  | raw => do
    let canonical ← canonicalActions raw
    pure (some (applyBroadcastCollapse env canonical))

/-- `update`.  `actions` is `None` (`null`) when the caller gives none. -/
def update (env : Env) (key : String) (label : Option String) (actions stopOnError : PyVal) :
    Script Store (Option Scene) := do
  let canonical ← updatedActions env actions
  let scenes ← items env
  match scenes.find? (·.key == key) with
  | none => pure none
  | some scene => do
    let labelClean ← updatedLabel scene.label label
    let newEntry : Scene :=
      { scene with
        label := labelClean
        actions := canonical.getD scene.actions
        stopOnError := match stopOnError with
          | .null => scene.stopOnError
          | raw => some (coerceBool raw true)
        updated := .str env.now }
    writeAtomic env (replaceFirst key newEntry scenes)
    invalidate
    pure (some (cloneScene newEntry))

end RaceLink
