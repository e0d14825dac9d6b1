/-
# What a call does to the scene service

Every call is one of the outcomes of a cached file (`call_outcome`).  Where it raises, the service
has read its file at most, and may have used up some ids.  There is one exception.  `create` appends
the new scene to the cached list before it writes, so if the write fails the scene stays in the
cache (`Call.Lost`); and `duplicate` ends in a `create`.
-/
import RaceLink.Scenes.Calls
import RaceLink.Stores.Steps

namespace RaceLink.SceneService

open Python CachedFile

/-! ## 1. What a call is to do -/

/-- The key `create` asks for. -/
def desiredKey (label : String) (key : Option String) : String :=
  slugify (if key.getD "" = "" then strip label else key.getD "")

/-- The arguments of a `create` pass its checks: there is a label, the actions are accepted, the
file can be read, and there is a free key. -/
def CreateAccepted (env : Env) (label : String) (actions : PyVal) (key : Option String)
    (s : Store) : Prop :=
  strip label ≠ "" ∧ (∃ canonical, canonicalActions actions = .ok canonical) ∧
    ∃ scenes, (items env s).1 = .ok scenes ∧
      ∃ finalKey, uniqueKey (desiredKey label key) (scenes.map (·.key)) = .ok finalKey

/-- The scene `create` appends. -/
def createdScene (env : Env) (newId : Int) (key label : String) (canonical : List Action)
    (stopOnError : PyVal) : Scene :=
  { id := newId, key := key, label := strip label, created := .str env.now
    updated := .str env.now, actions := applyBroadcastCollapse env canonical
    stopOnError := some (match stopOnError with
      | .null => true
      | raw => coerceBool raw true) }

/-- The list after a `create`. -/
def CreateMakes (env : Env) (label : String) (actions : PyVal) (key : Option String)
    (stopOnError : PyVal) : Change Scene := fun scenes n scenes' n' =>
  ∃ canonical finalKey, strip label ≠ "" ∧ canonicalActions actions = .ok canonical ∧
    uniqueKey (desiredKey label key) (scenes.map (·.key)) = .ok finalKey ∧
    scenes' = scenes ++ [createdScene env n finalKey label canonical stopOnError] ∧ n' = n + 1

/-- The scene an `update` puts in the place of one. -/
def updatedScene (env : Env) (scene : Scene) (label : String) (canonical : Option (List Action))
    (stopOnError : PyVal) : Scene :=
  { scene with
    label := label
    actions := canonical.getD scene.actions
    stopOnError := match stopOnError with
      | .null => scene.stopOnError
      | raw => some (coerceBool raw true)
    updated := .str env.now }

/-- What each call makes of the scenes and the counter. -/
def Call.Makes (env : Env) : Call → Change Scene
  | .create label actions key stopOnError => CreateMakes env label actions key stopOnError
  | .update key label actions stopOnError => fun scenes n scenes' n' =>
    ∃ scene labelClean canonical, scenes.find? (·.key == key) = some scene ∧
      updatedLabel scene.label label = .ok labelClean ∧
      updatedActions env actions = .ok canonical ∧
      scenes' = replaceFirst key (updatedScene env scene labelClean canonical stopOnError) scenes ∧
      n' = n
  | .delete key => fun scenes n scenes' n' => scenes' = scenes.filter (·.key != key) ∧ n' = n
  | .duplicate key newLabel => fun scenes n scenes' n' =>
    ∃ src, scenes.find? (·.key == key) = some src ∧
      CreateMakes env (copyLabel src newLabel) (actionsToPy src.actions) none
        (.bool (src.stopOnError.getD true)) scenes n scenes' n'
  | .renumberGroupReferences deletedGid => fun scenes n scenes' n' =>
    (∃ changed, renumberScenes env deletedGid scenes = .ok (scenes', changed)) ∧ n' = n
  | .replaceAll entries => fun _ n scenes' n' =>
    replaceEntries slugify (replacedScene env) [] entries n = (.ok scenes', n')
  | _ => fun _ _ _ _ => False

/-- The call comes to append a scene, and the write after that fails. -/
def Call.Lost (env : Env) : Call → Store → Prop
  | .create label actions key _, s => env.diskOk = false ∧ CreateAccepted env label actions key s
  | .duplicate key newLabel, s => env.diskOk = false ∧
      ∃ src, (SceneService.get env key s).1 = .ok (some src) ∧
        CreateAccepted env (copyLabel src newLabel) (actionsToPy src.actions) none s
  | _, _ => False

/-! ## 2. The methods -/

/-- `_write_atomic`, where the counter is known. -/
theorem writeAtomic_eq (env : Env) (scenes : List Scene) {s : Store} {n : Int}
    (h : s.nextId = some n) :
    writeAtomic env scenes s = if env.diskOk = true then
      (.ok (), { s with file := sceneService.written env n scenes }) else (.error .osError, s) := by
  obtain ⟨file, cache, nextId⟩ := s
  cases h
  rw [writeAtomic, Script.bind_of_ok (Script.get_run _)]
  split <;> rfl

/-- The end of a method that changes the list. -/
theorem saves_writeAtomic {α : Type} {env : Env} {scenes : List Scene} {s : Store} {n : Int}
    (h : s.nextId = some n) {f : Unit → Script Store α}
    (hf : ∀ s, ∃ a, f () s = (.ok a, { s with cache := none })) :
    Saves sceneService env s n scenes ((writeAtomic env scenes >>= f) s) := by
  obtain ⟨a, ha⟩ := hf { s with file := sceneService.written env n scenes }
  exact saves_bind (writeAtomic_eq env scenes h) id ha rfl rfl

/-- Such a method raises when the disk fails, and only then. -/
theorem diskOk_of_error {α : Type} {env : Env} {scenes : List Scene} {s s' : Store} {n : Int}
    (h : s.nextId = some n) {f : Unit → Script Store α}
    (hf : ∀ s, ∃ a, f () s = (.ok a, { s with cache := none }))
    (herror : ∃ e, (writeAtomic env scenes >>= f) s = (.error e, s')) : env.diskOk = false := by
  obtain ⟨a, ha⟩ := hf { s with file := sceneService.written env n scenes }
  exact ok_of_error (writeAtomic_eq env scenes h) ha herror

/-- The lookup of a scene. -/
theorem does_getById {env : Env} {makes : Change Scene} {s : Store}
    (hseeded : sceneService.Seeded s) (sceneId : PyVal) :
    Does sceneService env False makes s (getById env sceneId s) := by
  unfold getById
  cases int sceneId with
  | ok sid => exact does_look sceneService_lawful hseeded rfl fun _ => .ok _
  | error e => cases e <;> exact .early fun _ => id

theorem does_update {env : Env} {s : Store} (hseeded : sceneService.Seeded s) (key : String)
    (label : Option String) (actions stopOnError : PyVal) :
    Does sceneService env False ((Call.update key label actions stopOnError).Makes env) s
      (update env key label actions stopOnError s) := by
  rw [update]
  simp only [Script.monadLift_eq]
  cases hactions : updatedActions env actions with
  | error e => exact .early fun _ => id
  | ok canonical =>
    rw [Script.bind_of_ok (Script.lift_run _ _)]
    refine does_items sceneService_lawful hseeded rfl (fun _ _ => id)
      fun scenes s₁ n hitems hcache hnext => ?_
    cases hfind : scenes.find? (·.key == key) with
    | none => exact does_raise hitems rfl hcache hnext hnext (le_refl n) id _
    | some scene =>
      simp only
      cases hlabel : updatedLabel scene.label label with
      | error e => exact does_raise hitems rfl hcache hnext hnext (le_refl n) id _
      | ok labelClean =>
        rw [Script.bind_of_ok (Script.lift_run _ _)]
        refine does_write hitems rfl hcache hnext hnext (le_refl n) ?_
          (saves_writeAtomic hnext fun s => ⟨_, rfl⟩)
        exact ⟨scene, labelClean, canonical, hfind, hlabel, hactions, rfl, rfl⟩

theorem does_delete {env : Env} {s : Store} (hseeded : sceneService.Seeded s) (key : String) :
    Does sceneService env False ((Call.delete key).Makes env) s (delete env key s) := by
  refine does_items sceneService_lawful hseeded rfl (fun _ _ => id)
    fun scenes s₁ n hitems hcache hnext => ?_
  by_cases hlength : (scenes.filter (·.key != key)).length = scenes.length
  · rw [if_pos hlength]
    exact does_raise hitems rfl hcache hnext hnext (le_refl n) id _
  · rw [if_neg hlength]
    exact does_write hitems rfl hcache hnext hnext (le_refl n) ⟨rfl, rfl⟩
      (saves_writeAtomic hnext fun s => ⟨_, rfl⟩)

theorem does_renumberGroupReferences {env : Env} {s : Store} (hseeded : sceneService.Seeded s)
    (deletedGid : Int) :
    Does sceneService env False ((Call.renumberGroupReferences deletedGid).Makes env) s
      (renumberGroupReferences env deletedGid s) := by
  refine does_items sceneService_lawful hseeded rfl (fun _ _ => id)
    fun scenes s₁ n hitems hcache hnext => ?_
  simp only [Script.monadLift_eq]
  cases hren : renumberScenes env deletedGid scenes with
  | error e => exact does_raise hitems rfl hcache hnext hnext (le_refl n) id _
  | ok result =>
    obtain ⟨newScenes, changed⟩ := result
    rw [Script.bind_of_ok (Script.lift_run _ _)]
    simp only
    split
    · exact does_write hitems rfl hcache hnext hnext (le_refl n) ⟨⟨changed, hren⟩, rfl⟩
        (saves_writeAtomic hnext fun s => ⟨_, rfl⟩)
    · exact does_raise hitems rfl hcache hnext hnext (le_refl n) id _

/-- The entries of a bulk replacement are new. -/
theorem replacedScene_name {env : Env} {newId : Int} {key : String} {entry : Dict} {x : Scene}
    (h : replacedScene env newId key entry = .ok x) : sceneService.name x = (newId, key) := by
  obtain ⟨label, -, h⟩ := bind_eq_ok.mp h
  obtain ⟨actions, -, h⟩ := bind_eq_ok.mp h
  cases h
  rfl

/-- What the loop of `replace_all` does to the counter, and what it builds. -/
theorem replaceScenes_spec (env : Env) (entries : List PyVal) (n : Int) :
    n ≤ (replaceEntries slugify (replacedScene env) [] entries n).2 ∧
      ∀ scenes, (replaceEntries slugify (replacedScene env) [] entries n).1 = .ok scenes →
        Claimed sceneService.name [] n
          (replaceEntries slugify (replacedScene env) [] entries n).2 scenes :=
  replaceEntries_spec replacedScene_name entries [] n

theorem does_replaceAll {env : Env} {s : Store} (hseeded : sceneService.Seeded s)
    (entries : List PyVal) :
    Does sceneService env False ((Call.replaceAll entries).Makes env) s
      (replaceAll env entries s) := by
  refine does_items sceneService_lawful hseeded rfl (fun _ _ => id)
    fun scenes s₁ n hitems hcache hnext => ?_
  have hcounter : s₁.nextId = some n := hnext
  rw [Script.bind_of_ok (Script.get_run s₁), hcounter]
  have hle := (replaceScenes_spec env entries n).1
  simp only [Option.getD_some]
  rcases hrun : replaceEntries slugify (replacedScene env) [] entries n with ⟨e | canonical, m⟩
  · rw [hrun] at hle
    refine does_raise hitems ?_ ?_ hnext ?_ hle id _
    · rfl
    · exact hcache
    · rfl
  · rw [hrun] at hle
    rw [Script.bind_of_ok (Script.modify_run _ _)]
    simp only [Script.monadLift_eq]
    rw [Script.bind_of_ok (Script.lift_run _ _)]
    refine does_write hitems ?_ ?_ hnext ?_ hle ?_ (saves_writeAtomic ?_ fun s => ⟨(), rfl⟩)
    · rfl
    · exact hcache
    · rfl
    · exact hrun
    · rfl

/-- **Creating** a scene loses it exactly when the checks pass and the write fails. -/
theorem does_create {env : Env} {s : Store} (hseeded : sceneService.Seeded s) (label : String)
    (actions : PyVal) (key : Option String) (stopOnError : PyVal) :
    Does sceneService env (env.diskOk = false ∧ CreateAccepted env label actions key s)
      (CreateMakes env label actions key stopOnError) s
      (create env label actions key stopOnError s) := by
  unfold create
  simp only [Script.monadLift_eq]
  by_cases hlabel : strip label = ""
  · rw [raiseIf, if_pos hlabel]
    exact .early fun _ hlost => hlost.2.1 hlabel
  rw [raiseIf_of_not hlabel, Script.bind_of_ok (Script.lift_run _ _)]
  cases hcanonical : canonicalActions actions with
  | error e =>
    refine .early fun _ hlost => ?_
    obtain ⟨-, -, ⟨canonical, hok⟩, -⟩ := hlost
    rw [hcanonical] at hok
    cases hok
  | ok canonical =>
    rw [Script.bind_of_ok (Script.lift_run _ _)]
    refine does_items sceneService_lawful hseeded rfl (fun e he hlost => ?_)
      fun scenes s₁ n hitems hcache hnext => ?_
    · obtain ⟨-, -, -, scenes, hok, -⟩ := hlost
      have herror : (items env s).1 = .error e := he
      rw [herror] at hok
      cases hok
    have hcounter : s₁.nextId = some n := hnext
    have hread : items env s = (.ok scenes, s₁) := hitems
    cases hkey : uniqueKey (slugify (if key.getD "" = "" then strip label else key.getD ""))
        (scenes.map (·.key)) with
    | error e =>
      refine does_raise hitems rfl hcache hnext hnext (le_refl n) (fun hlost => ?_) _
      obtain ⟨-, -, -, scenes', hok, finalKey, hfinal⟩ := hlost
      rw [hread] at hok
      cases hok
      rw [desiredKey, hkey] at hfinal
      cases hfinal
    | ok finalKey =>
      rw [Script.bind_of_ok (Script.lift_run _ _), Script.bind_of_ok (Script.get_run s₁),
        Script.bind_of_ok (Script.modify_run _ _), hcounter]
      have hmakes : CreateMakes env label actions key stopOnError scenes n
          (scenes ++ [createdScene env n finalKey label canonical stopOnError]) (n + 1) :=
        ⟨canonical, finalKey, hlabel, hcanonical, hkey, rfl, rfl⟩
      refine does_append hitems hnext ?_ ?_ ?_ hmakes (fun hfail => ?_)
        (saves_writeAtomic ?_ fun s => ⟨_, rfl⟩)
      · rfl
      · rfl
      · rfl
      · refine ⟨diskOk_of_error (n := n + 1) ?_ ?_ hfail, hlabel, ⟨canonical, hcanonical⟩, scenes,
          by rw [hread], finalKey, hkey⟩
        · rfl
        · exact fun s => ⟨_, rfl⟩
      · rfl

/-- **Duplicating** one loses the copy under the condition of its `create`. -/
theorem does_duplicate {env : Env} {s : Store} (hseeded : sceneService.Seeded s) (key : String)
    (newLabel : Option String) :
    Does sceneService env ((Call.duplicate key newLabel).Lost env s)
      ((Call.duplicate key newLabel).Makes env) s (duplicate env key newLabel s) := by
  rcases hitems : items env s with ⟨e | scenes, s₁⟩
  · have hget : get env key s = (.error e, s₁) := by rw [get, Script.bind_run, hitems]
    rw [duplicate, Script.bind_run, hget]
    refine .unread (fun hlost => ?_) hitems
    obtain ⟨-, src, hsrc, -⟩ := hlost
    rw [hget] at hsrc
    cases hsrc
  · obtain ⟨hcache, n, hnext⟩ := sceneService_lawful.items_seeded hseeded hitems
    have hget : get env key s = (.ok ((scenes.find? (·.key == key)).map cloneScene), s₁) := by
      rw [get, Script.bind_of_ok hitems]
      rfl
    rw [duplicate, Script.bind_of_ok hget]
    cases hfind : scenes.find? (·.key == key) with
    | none =>
      refine does_raise hitems rfl hcache hnext hnext (le_refl n) (fun hlost => ?_) _
      obtain ⟨-, src, hsrc, -⟩ := hlost
      rw [hget, hfind] at hsrc
      cases hsrc
    | some src =>
      -- what `create` does from here, it does for the caller of `duplicate`
      have hcreate := @does_create env s₁ (fun _ _ => ⟨n, hnext⟩) (copyLabel src newLabel)
        (actionsToPy src.actions) none (.bool (src.stopOnError.getD true))
      have hlost : (Call.duplicate key newLabel).Lost env s ↔ env.diskOk = false ∧
          CreateAccepted env (copyLabel src newLabel) (actionsToPy src.actions) none s₁ := by
        simp only [Call.Lost, CreateAccepted, hget, hfind, hitems, items_cached env hcache,
          Option.map_some, Except.ok.injEq, Option.some.injEq, exists_eq_left']
        rfl
      rw [propext hlost]
      refine Does.map some (hcreate.after_items sceneService_lawful hitems hcache hnext ?_)
      exact fun h => ⟨src, hfind, h⟩

/-! ## 3. All calls -/

/-- **Every call** has one of the outcomes. -/
theorem call_outcome {env : Env} {s : Store} (hseeded : sceneService.Seeded s) {c : Call}
    (hc : c ≠ .restart) :
    Does sceneService env (c.Lost env s) (c.Makes env) s (c.perform env s) := by
  cases c with
  | list =>
    exact .map _ (does_look sceneService_lawful hseeded rfl fun scenes =>
      .ok (scenes.map cloneScene))
  | get key => exact .map _ (does_look sceneService_lawful hseeded rfl fun _ => .ok _)
  | getById sceneId => exact .map _ (does_getById hseeded sceneId)
  | create label actions key stopOnError =>
    exact .map _ (does_create hseeded label actions key stopOnError)
  | update key label actions stopOnError =>
    exact .map _ (does_update hseeded key label actions stopOnError)
  | delete key => exact .map _ (does_delete hseeded key)
  | duplicate key newLabel => exact .map _ (does_duplicate hseeded key newLabel)
  | renumberGroupReferences deletedGid =>
    exact .map _ (does_renumberGroupReferences hseeded deletedGid)
  | replaceAll entries => exact does_replaceAll hseeded entries
  | restart => exact absurd rfl hc

/-! ## 4. What becomes of the names -/

theorem map_name_replaceFirst {key : String} {newEntry scene : Scene}
    (hname : newEntry.id = scene.id ∧ newEntry.key = scene.key) {scenes : List Scene}
    (h : scenes.find? (·.key == key) = some scene) :
    (replaceFirst key newEntry scenes).map (fun s => (s.id, s.key))
      = scenes.map fun s => (s.id, s.key) := by
  induction scenes with
  | nil => rfl
  | cons x rest ih =>
    rw [replaceFirst]
    by_cases hx : x.key = key
    · rw [if_pos hx, List.map_cons, List.map_cons, hname.1, hname.2]
      rw [List.find?_cons_of_pos (by simpa using hx)] at h
      cases h
      rfl
    · rw [if_neg hx, List.map_cons, List.map_cons]
      rw [List.find?_cons_of_neg (by simpa using hx)] at h
      rw [ih h]

theorem map_name_renumberScenes {env : Env} {deletedGid : Int} {scenes scenes' : List Scene}
    {changed : Nat} (h : renumberScenes env deletedGid scenes = .ok (scenes', changed)) :
    scenes'.map (fun s => (s.id, s.key)) = scenes.map fun s => (s.id, s.key) := by
  induction scenes generalizing scenes' changed with
  | nil =>
    cases h
    rfl
  | cons scene rest ih =>
    rw [renumberScenes] at h
    simp only at h
    split at h
    · obtain ⟨canonical, -, h⟩ := bind_eq_ok.mp h
      obtain ⟨⟨scenes'', n⟩, hrest, h⟩ := bind_eq_ok.mp h
      cases h
      rw [List.map_cons, List.map_cons, ih hrest]
    · obtain ⟨⟨scenes'', n⟩, hrest, h⟩ := bind_eq_ok.mp h
      cases h
      rw [List.map_cons, List.map_cons, ih hrest]

theorem createMakes_orderly (env : Env) (label : String) (actions : PyVal) (key : Option String)
    (stopOnError : PyVal) :
    sceneService.Orderly (CreateMakes env label actions key stopOnError) := by
  rintro scenes n _ _ ⟨canonical, finalKey, -, -, hkey, rfl, rfl⟩ hsound
  refine follows_of_append ?_ (uniqueKey_not_mem hkey) hsound
  rfl

/-- **Every call** keeps the names in order. -/
theorem makes_orderly (env : Env) (c : Call) : sceneService.Orderly (c.Makes env) := by
  intro scenes n scenes' n' hmakes hsound
  cases c with
  | create label actions key stopOnError => exact createMakes_orderly _ _ _ _ _ hmakes hsound
  | update key label actions stopOnError =>
    obtain ⟨scene, labelClean, canonical, hfind, -, -, rfl, rfl⟩ := hmakes
    refine follows_of_map_name (map_name_replaceFirst ?_ hfind) hsound
    exact ⟨rfl, rfl⟩
  | delete key =>
    obtain ⟨rfl, rfl⟩ := hmakes
    exact Ledger.Follows.remove hsound (List.filter_sublist.map _)
  | duplicate key newLabel =>
    obtain ⟨src, -, hmakes⟩ := hmakes
    exact createMakes_orderly _ _ _ _ _ hmakes hsound
  | renumberGroupReferences deletedGid =>
    obtain ⟨⟨changed, hren⟩, rfl⟩ := hmakes
    exact follows_of_map_name (map_name_renumberScenes hren) hsound
  | replaceAll entries =>
    obtain ⟨hle, hclaimed⟩ := replaceScenes_spec env entries n
    have hrun : replaceEntries slugify (replacedScene env) [] entries n = (.ok scenes', n') :=
      hmakes
    rw [hrun] at hle hclaimed
    exact follows_of_claimed (hclaimed scenes' rfl) hle
  | _ => exact absurd hmakes id

end RaceLink.SceneService
