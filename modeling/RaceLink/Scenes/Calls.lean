/-
# The calls on the scene service

The rest of `SceneService`: the reads, `delete`, `duplicate` and `replace_all`, and what a caller
can do with the service as a whole (`Call`).

A load depends on the file alone (`load_eq`), and gives the entries the ids and keys the file says
(`loadScenes_names`).  So the service is a cache over its file (`sceneService`): what it writes it
reads again, under the same names and with a counter that has not fallen (`sceneService_lawful`).
-/
import RaceLink.Scenes.Renumber
import RaceLink.Stores.CachedFile

namespace RaceLink.SceneService

open Python CachedFile

/-! ## 1. The methods -/

/-- `list`. -/
def list (env : Env) : Script Store (List Scene) := do
  let scenes ← items env
  pure (scenes.map cloneScene)

/-- `get`. -/
def get (env : Env) (key : String) : Script Store (Option Scene) := do
  let scenes ← items env
  pure ((scenes.find? (·.key == key)).map cloneScene)

/-- `get_by_id`. -/
def getById (env : Env) (sceneId : PyVal) : Script Store (Option Scene) :=
  match int sceneId with
  | .error .typeError => pure none
  | .error (.valueError _) => pure none
  | .error e => Script.lift (.error e)
  | .ok sid => do
    let scenes ← items env
    pure ((scenes.find? (·.id == sid)).map cloneScene)

/-- `delete`. -/
def delete (env : Env) (key : String) : Script Store Bool := do
  let scenes ← items env
  let kept := scenes.filter (·.key != key)
  if kept.length = scenes.length then pure false
  else do
    writeAtomic env kept
    invalidate
    pure true

/-- The label of a duplicate. -/
def copyLabel (src : Scene) (newLabel : Option String) : String :=
  strip (if newLabel.getD "" = "" then s!"{src.label} copy" else newLabel.getD "")

/-- `duplicate`. -/
def duplicate (env : Env) (key : String) (newLabel : Option String) :
    Script Store (Option Scene) := do
  match ← get env key with
  | none => pure none
  | some src => do
    let scene ← create env (copyLabel src newLabel) (actionsToPy src.actions) none
      (.bool (src.stopOnError.getD true))
    pure (some scene)

/-- The entry `replace_all` builds: there is no `stop_on_error` in it. -/
def replacedScene (env : Env) (newId : Int) (key : String) (entry : Dict) :
    Except PyErr Scene := do
  let label ← textOr (Dict.get entry "label") key
  let actions ← canonicalActions (Dict.get entry "actions")
  pure
    { id := newId, key := key, label := strip label
      created := (Dict.get entry "created").or (.str env.now)
      updated := (Dict.get entry "updated").or (.str env.now)
      actions := actions, stopOnError := none }

/-- `replace_all`. -/
def replaceAll (env : Env) (entries : List PyVal) : Script Store Unit := do
  let _ ← items env
  let s ← Script.get
  let (canonical, nextId) :=
    replaceEntries slugify (replacedScene env) [] entries (s.nextId.getD 0)
  Script.modify fun s => { s with nextId := some nextId }
  let canonical ← canonical
  writeAtomic env canonical
  invalidate

/-! ## 2. Calls -/

/-- What is done with a service: its methods, and a restart. -/
inductive Call where
  | list
  | get (key : String)
  | getById (sceneId : PyVal)
  | create (label : String) (actions : PyVal) (key : Option String) (stopOnError : PyVal)
  | update (key : String) (label : Option String) (actions stopOnError : PyVal)
  | delete (key : String)
  | duplicate (key : String) (newLabel : Option String)
  | renumberGroupReferences (deletedGid : Int)
  | replaceAll (entries : List PyVal)
  | restart

/-- A service that has just been made, over this file. -/
def fresh (file : File) : Store := { file := file, cache := none, nextId := none }

/-- The call as it is made; its result is dropped. -/
def Call.perform (env : Env) : Call → Script Store Unit
  | .list => do let _ ← SceneService.list env
  | .get key => do let _ ← SceneService.get env key
  | .getById sceneId => do let _ ← SceneService.getById env sceneId
  | .create label actions key stopOnError => do
    let _ ← RaceLink.create env label actions key stopOnError
  | .update key label actions stopOnError => do
    let _ ← RaceLink.update env key label actions stopOnError
  | .delete key => do let _ ← SceneService.delete env key
  | .duplicate key newLabel => do let _ ← SceneService.duplicate env key newLabel
  | .renumberGroupReferences deletedGid => do
    let _ ← RaceLink.renumberGroupReferences env deletedGid
  | .replaceAll entries => SceneService.replaceAll env entries
  | .restart => Script.modify fun s => fresh s.file

/-- One call after another, each with what it meets. -/
def step (s : Store) (c : Env × Call) : Store := (c.2.perform c.1 s).2

/-! ## 3. What a load gives -/

/-- What `_load` reads from a file, and the counter it sets. -/
def readScenes (now : String) : File → Except PyErr (List Scene × Int)
  | .doc (.dict data) => do
    let _ ← int ((Dict.getD data "schema_version" (.int 0)).or (.int 0))
    match Dict.get data "scenes" with
    | .list rawScenes => do
      let (scenes, used) ← loadScenes now [] 0 rawScenes
      pure (scenes, loadedNextId (Dict.get data "next_id") used)
    | _ => pure ([], 0)
  | _ => pure ([], 0)

/-- A load depends on the file, and changes the counter. -/
theorem load_eq (env : Env) (s : Store) :
    load env s = match readScenes env.now s.file with
      | .ok (scenes, n) => (.ok scenes, { s with nextId := some n })
      | .error e => (.error e, s) := by
  obtain ⟨file, cache, nextId⟩ := s
  cases file with
  | absent => rfl
  | unreadable => rfl
  | doc v =>
    cases v with
    | dict data =>
      rw [load, Script.bind_of_ok (Script.get_run _), readScenes]
      simp only [Script.monadLift_eq]
      cases int ((Dict.getD data "schema_version" (.int 0)).or (.int 0)) with
      | error e => rfl
      | ok schema =>
        rw [Script.bind_of_ok (Script.lift_run _ _), ok_bind]
        cases Dict.get data "scenes" with
        | list rawScenes =>
          cases hscenes : loadScenes env.now [] 0 rawScenes with
          | error e => simp only [hscenes]; rfl
          | ok result => simp only [hscenes]; rfl
        | _ => rfl
    | _ => rfl

/-- The scene a load makes of an entry. -/
def loadedScene (now : String) (sceneId : Int) (key label : String) (actions : List Action)
    (entry : Dict) : Scene :=
  { id := sceneId, key := key, label := label
    created := (Dict.get entry "created").or (.str now)
    updated := ((Dict.get entry "updated").or (Dict.get entry "created")).or (.str now)
    actions := actions
    stopOnError := some (coerceBool (Dict.get entry "stop_on_error") true) }

/-- One round of the loop of `_load`. -/
theorem loadScenes_entry {now : String} {entry : Dict} {key label : String}
    (hkey : Dict.get entry "key" = .str key) (hlabel : Dict.get entry "label" = .str label)
    (used : List Int) (index : Int) (rest : List PyVal) :
    loadScenes now used index (.dict entry :: rest) = (do
      let rawId ← requestedId entry index
      let actions ← loadActions (Dict.get entry "actions")
      let (scenes, used') ← loadScenes now (freshSceneId used rawId :: used) (index + 1) rest
      pure (loadedScene now (freshSceneId used rawId) key label actions entry :: scenes,
        used')) := by
  rw [loadScenes, hkey, hlabel, requestedId]
  cases Dict.get entry "id" <;> rfl

/-- The ids and keys a load gives are those the file says. -/
theorem loadScenes_names {now : String} {raws : List PyVal} {used used' : List Int} {index : Int}
    {scenes : List Scene} (h : loadScenes now used index raws = .ok (scenes, used')) :
    assignIds used index raws = .ok (scenes.map fun s => (s.id, s.key), used') := by
  induction raws generalizing used index scenes with
  | nil =>
    cases h
    rfl
  | cons raw raws ih =>
    cases raw with
    | dict entry =>
      rw [assignIds]
      split
      · next key label hkey hlabel =>
        rw [loadScenes_entry hkey hlabel] at h
        obtain ⟨rawId, hid, h⟩ := bind_eq_ok.mp h
        obtain ⟨actions, -, h⟩ := bind_eq_ok.mp h
        obtain ⟨⟨rest, used''⟩, hrest, h⟩ := bind_eq_ok.mp h
        cases h
        rw [freshSceneId] at hrest
        simp only [hid, ok_bind, ih hrest]
        rfl
      · next hno =>
        rw [loadScenes] at h
        split at h
        · next key label hkey hlabel => exact absurd hlabel (hno key label hkey)
        · exact ih h
    | _ => exact ih h

/-- The book of a file that can be read. -/
theorem readScenes_book {now : String} {file : File} {scenes : List Scene} {n : Int}
    (h : readScenes now file = .ok (scenes, n)) :
    fileBook "scenes" file = some ⟨scenes.map fun s => (s.id, s.key), n⟩ := by
  cases file with
  | absent => cases h; rfl
  | unreadable => cases h; rfl
  | doc v =>
    cases v with
    | dict data =>
      obtain ⟨schema, -, h⟩ := bind_eq_ok.mp h
      rw [fileBook]
      cases hraws : Dict.get data "scenes" with
      | list raws =>
        rw [hraws] at h
        obtain ⟨⟨scenes', used⟩, hscenes, h⟩ := bind_eq_ok.mp h
        cases h
        simp only [loadScenes_names hscenes]
      | _ =>
        rw [hraws] at h
        cases h
        rfl
    | _ => cases h; rfl

/-! ## 4. The cache and its file -/

/-- `_items` on a cached list. -/
theorem items_cached (env : Env) {s : Store} {scenes : List Scene} (h : s.cache = some scenes) :
    items env s = (.ok scenes, s) := by
  rw [items, Script.bind_of_ok (Script.get_run s), h]
  rfl

/-- `_items` without one. -/
theorem items_uncached (env : Env) {s : Store} (h : s.cache = none) :
    items env s = match readScenes env.now s.file with
      | .ok (scenes, n) => (.ok scenes, { s with cache := some scenes, nextId := some n })
      | .error e => (.error e, s) := by
  rw [items, Script.bind_of_ok (Script.get_run s), h]
  simp only
  rw [Script.bind_run, load_eq]
  cases readScenes env.now s.file with
  | error e => rfl
  | ok result => rfl

/-- The scene service as a cache over its file. -/
def sceneService : Service Store File Scene PyErr Env where
  file := Store.file
  cache := Store.cache
  next := Store.nextId
  start := fresh
  items := items
  written env n scenes := .doc (jsonRoundTrip env.floatText (payload n scenes))
  diskOk := Env.diskOk
  name s := (s.id, s.key)
  book := fileBook "scenes"
  Readable file := ∀ now, ∃ result, readScenes now file = .ok result
  Parsed _ := True

/-- The document of a write, entry by entry. -/
theorem payload_doc (floatText : PyFloat → String) (n : Int) (scenes : List Scene) :
    ∃ d : Dict, jsonRoundTrip floatText (payload n scenes) = .dict d ∧
      Dict.get d "next_id" = .int n ∧
      Dict.get d "scenes" = .list ((scenes.map (·.toPy)).map (jsonRoundTrip floatText)) := by
  rw [payload, jsonRoundTrip_strDict floatText (by simp)]
  exact ⟨_, rfl, by simp [Dict.get, jsonRoundTrip], by simp [Dict.get, jsonRoundTrip_list]⟩

/-- The written entries are named as the scenes are. -/
theorem namedEntries_written (floatText : PyFloat → String) (scenes : List Scene) :
    List.Forall₂ NamedEntry ((scenes.map (·.toPy)).map (jsonRoundTrip floatText))
      (scenes.map fun s => (s.id, s.key)) := by
  induction scenes with
  | nil => exact .nil
  | cons s scenes ih =>
    obtain ⟨d, hd, hid, hkey, hlabel, -⟩ := jsonRoundTrip_scene floatText s
    exact .cons ⟨d, s.label, hd, hid, hkey, hlabel⟩ ih

/-- **Reading and writing** fit together. -/
theorem sceneService_lawful : sceneService.Lawful where
  file_start _ := rfl
  cache_start _ := rfl
  cached env h := items_cached env h
  uncached {s} env h := by
    have hfresh : (fresh s.file).cache = none := rfl
    show (items env s).1 = (items env (fresh s.file)).1
    rw [items_uncached env h, items_uncached env hfresh]
    have hfile : (fresh s.file).file = s.file := rfl
    rw [hfile]
    cases readScenes env.now s.file with
    | error e => rfl
    | ok result => rfl
  raised {s env e s'} h := by
    have hitems : items env s = (.error e, s') := h
    cases hcache : s.cache with
    | some scenes =>
      rw [items_cached env hcache] at hitems
      cases hitems
    | none =>
      rw [items_uncached env hcache] at hitems
      cases hread : readScenes env.now s.file with
      | ok result =>
        rw [hread] at hitems
        cases hitems
      | error e' =>
        rw [hread] at hitems
        cases hitems
        exact ⟨rfl, hcache⟩
  loaded {s env scenes s'} hcache h := by
    have hitems : items env s = (.ok scenes, s') := h
    rw [items_uncached env hcache] at hitems
    cases hread : readScenes env.now s.file with
    | error e =>
      rw [hread] at hitems
      cases hitems
    | ok result =>
      obtain ⟨scenes', n⟩ := result
      rw [hread] at hitems
      cases hitems
      have hbook := readScenes_book hread
      refine ⟨rfl, ⟨n, rfl⟩, fun _ => ⟨trivial, env, ?_⟩, id, fun b hb => ?_⟩
      · have hfresh : (fresh s.file).cache = none := rfl
        show (items env (fresh s.file)).1 = .ok scenes
        rw [items_uncached env hfresh]
        have hfile : (fresh s.file).file = s.file := rfl
        rw [hfile, hread]
      · have heq : b = ⟨scenes.map fun s => (s.id, s.key), n⟩ :=
          Option.some.inj (hb.symm.trans hbook)
        subst heq
        exact ⟨hbook, rfl, rfl⟩
  returns {s env} hreadable _ := by
    show ∃ scenes s', items env s = (.ok scenes, s')
    cases hcache : s.cache with
    | some scenes => exact ⟨scenes, s, items_cached env hcache⟩
    | none =>
      obtain ⟨⟨scenes, n⟩, hread⟩ := hreadable env.now
      have hfile : readScenes env.now s.file = .ok (scenes, n) := hread
      rw [items_uncached env hcache, hfile]
      exact ⟨_, _, rfl⟩
  readable_written env n scenes now := by
    have hfile : (fresh (sceneService.written env n scenes)).file
        = .doc (jsonRoundTrip env.floatText (payload n scenes)) := rfl
    obtain ⟨loaded, s', hload, -⟩ := load_written env.floatText { env with now := now } hfile
    rw [load_eq, hfile] at hload
    show ∃ result, readScenes now (.doc (jsonRoundTrip env.floatText (payload n scenes)))
      = .ok result
    cases hread : readScenes now (.doc (jsonRoundTrip env.floatText (payload n scenes))) with
    | ok result => exact ⟨result, rfl⟩
    | error e =>
      simp only [hread] at hload
      cases hload
  parsed_written _ _ _ := trivial
  book_written env n scenes hsound := by
    obtain ⟨d, hd, hnext, hraws⟩ := payload_doc env.floatText n scenes
    have hnew : ∀ i ∈ (sceneService.bookOf scenes n).names.map (·.1), i ∉ ([] : List Int) :=
      fun _ _ hmem => nomatch hmem
    obtain ⟨used, hnames⟩ := assignIds_written (namedEntries_written env.floatText scenes)
      hsound.ids hnew 0
    refine ⟨loadedNextId (.int n) used, le_loadedNextId n used, ?_⟩
    show fileBook "scenes" (.doc (jsonRoundTrip env.floatText (payload n scenes))) = _
    rw [hd, fileBook, hraws]
    simp only [hnames, hnext]
    rfl

end RaceLink.SceneService
