/-
# Export and import

`list` exports the scenes of a store, and `replace_all` imports such a list.  The entries that
`replace_all` builds have no `stop_on_error`, and the load that follows takes a missing one for
`True`: a scene that was to play on after a failed action stops there when it has been imported.
All the rest survives (`export_import_iff`): the keys are slugs and different already, the labels
are stripped, and the actions are canonical, unless they have never been in a file.
-/
import RaceLink.Scenes.Tidy
import RaceLink.Stores.Failures

namespace RaceLink.SceneService

open Python CachedFile

/-! ## 1. Actions that a file keeps -/

/-- Canonical actions with JSON parameters: the validator leaves them as they are, and so does a
file. -/
def Savable (actions : List Action) : Prop :=
  ActionsCanonical actions ∧ ∀ a ∈ actions, a.JsonParams

theorem loadActions_savable (floatText : PyFloat → String) {actions : List Action}
    (h : Savable actions) :
    loadActions (jsonRoundTrip floatText (actionsToPy actions)) = .ok actions := by
  rw [loadActions_canonical floatText h.1, (actions_reload_eq_iff floatText).mpr h.2]

/-- What a file has made of parameters is JSON, and the validator copies it. -/
theorem jsonParams_reload_normal (floatText : PyFloat → String) (a : Action) :
    (a.reload floatText).normal.JsonParams := by
  have heffect : ∀ e : Effect, isJson (.dict (e.reload floatText).normal.params) = true := fun e =>
    isJson_jsonRoundTrip floatText (.dict e.params)
  cases a with
  | effect e => exact List.forall_mem_singleton.mpr (heffect e)
  | sync => exact fun e he => nomatch he
  | delay durationMs => exact fun e he => nomatch he
  | offsetGroup target offset actions =>
    intro e he
    obtain ⟨e₁, he₁, rfl⟩ := List.mem_map.mp he
    obtain ⟨e₂, -, rfl⟩ := List.mem_map.mp he₁
    exact heffect e₂

/-- **What is loaded** from a written list is savable. -/
theorem savable_of_loadActions {floatText : PyFloat → String} {actions loaded : List Action}
    (h : loadActions (jsonRoundTrip floatText (actionsToPy actions)) = .ok loaded) :
    Savable loaded := by
  rw [jsonRoundTrip_actions, loadActions] at h
  cases hr : canonicalActions (actionsToPy (actions.map (·.reload floatText))) with
  | ok canonical =>
    rw [hr] at h
    cases h
    obtain ⟨hcanonical, rfl⟩ := canonicalActions_toPy_eq_ok.mp hr
    refine ⟨hcanonical, ?_⟩
    rw [List.map_map]
    exact List.forall_mem_map.mpr fun a _ => jsonParams_reload_normal floatText a
  | error e =>
    -- the list is dropped
    obtain ⟨msg, rfl⟩ := onlyValueError_actions _ e hr
    rw [hr] at h
    cases h
    exact ⟨⟨Nat.zero_le _, by simp⟩, by simp⟩

/-! ## 2. What `replace_all` builds -/

/-- What it builds of an exported scene. -/
def Replaced (s s' : Scene) : Prop :=
  ∃ newId actions, canonicalActions (actionsToPy s.actions) = .ok actions ∧
    s' = { s with id := newId, actions := actions, stopOnError := none }

/-- The fields `replace_all` reads. -/
theorem toPy_dict (s : Scene) : ∃ d : Dict, s.toPy = .dict d ∧ Dict.get d "key" = .str s.key ∧
    Dict.get d "label" = .str s.label ∧ Dict.get d "created" = s.created ∧
    Dict.get d "updated" = s.updated ∧ Dict.get d "actions" = actionsToPy s.actions := by
  obtain ⟨id, key, label, created, updated, actions, stop⟩ := s
  cases stop with
  | none => exact ⟨_, rfl, by simp [Dict.get]⟩
  | some b => exact ⟨_, rfl, by simp [Dict.get]⟩

theorem or_of_ne {s : String} (h : s ≠ "") (w : PyVal) : (PyVal.str s).or w = .str s :=
  or_of_stamped ⟨s, rfl, h⟩

theorem textOr_of_ne {s : String} (h : s ≠ "") (default : String) :
    textOr (.str s) default = .ok s := by
  rw [textOr, or_of_ne h]

/-- The key of a tidy scene is taken as it is. -/
theorem replaceKey_tidy {s : Scene} (h : Tidy s) {d : Dict} (hkey : Dict.get d "key" = .str s.key)
    {seenKeys : List String} (hfree : s.key ∉ seenKeys) :
    replaceKey slugify seenKeys d = .ok s.key := by
  have hne : s.key ≠ "" := by
    intro hempty
    exact h.key.nonempty (by rw [hempty]; rfl)
  rw [replaceKey, hkey, or_of_ne hne, textOr_of_ne hne, ok_bind, slugify_of_isSlug h.key, uniqueKey,
    if_pos hfree]

/-- A tidy scene is rebuilt under its new id, without its `stop_on_error`. -/
theorem replacedScene_tidy (env : Env) (newId : Int) {s : Scene} (h : Tidy s) {d : Dict}
    (hlabel : Dict.get d "label" = .str s.label) (hcreated : Dict.get d "created" = s.created)
    (hupdated : Dict.get d "updated" = s.updated)
    (hactions : Dict.get d "actions" = actionsToPy s.actions) :
    replacedScene env newId s.key d = (do
      let actions ← canonicalActions (actionsToPy s.actions)
      pure { s with id := newId, actions := actions, stopOnError := none }) := by
  rw [replacedScene, hlabel, textOr_of_ne h.labelled, ok_bind, hactions, hcreated, hupdated,
    or_of_stamped h.created, or_of_stamped h.updated, h.stripped]

/-- The loop over tidy scenes with different keys raises only where the validator does. -/
theorem replaceEntries_tidy (env : Env) {scenes : List Scene} (htidy : ∀ s ∈ scenes, Tidy s)
    (hkeys : (scenes.map (·.key)).Nodup) {seenKeys : List String}
    (hfree : ∀ s ∈ scenes, s.key ∉ seenKeys) (n : Int) :
    (∀ built, (replaceEntries slugify (replacedScene env) seenKeys (scenes.map (·.toPy)) n).1
        = .ok built → List.Forall₂ Replaced scenes built) ∧
      ((∀ s ∈ scenes, ∃ actions, canonicalActions (actionsToPy s.actions) = .ok actions) →
        ∃ built, (replaceEntries slugify (replacedScene env) seenKeys (scenes.map (·.toPy)) n).1
          = .ok built) := by
  induction scenes generalizing seenKeys n with
  | nil =>
    refine ⟨fun built h => ?_, fun _ => ⟨[], rfl⟩⟩
    cases h
    exact .nil
  | cons s scenes ih =>
    obtain ⟨hs, htidy⟩ := List.forall_mem_cons.mp htidy
    obtain ⟨hnew, hfree⟩ := List.forall_mem_cons.mp hfree
    obtain ⟨hdiffer, hkeys⟩ := List.nodup_cons.mp hkeys
    obtain ⟨d, hd, hkey, hlabel, hcreated, hupdated, hactions⟩ := toPy_dict s
    have hstill : ∀ s' ∈ scenes, s'.key ∉ s.key :: seenKeys := by
      intro s' hs' hmem
      rcases List.mem_cons.mp hmem with heq | hmem
      · exact hdiffer (List.mem_map.mpr ⟨s', hs', heq⟩)
      · exact hfree s' hs' hmem
    obtain ⟨hbuilt, hreturns⟩ := ih htidy hkeys hstill (n + 1)
    rw [List.map_cons, hd, replaceEntries]
    simp only [Script.monadLift_eq]
    rw [Script.bind_of_ok (by rw [Script.lift_run, replaceKey_tidy hs hkey hnew]),
      Script.bind_of_ok (Script.get_run n), Script.bind_of_ok (Script.modify_run _ _),
      replacedScene_tidy env n hs hlabel hcreated hupdated hactions]
    cases hcanonical : canonicalActions (actionsToPy s.actions) with
    | error e =>
      refine ⟨fun built h => ?_, fun hall => ?_⟩
      · cases h
      · obtain ⟨actions, hok⟩ := hall s List.mem_cons_self
        rw [hcanonical] at hok
        cases hok
    | ok actions =>
      rw [ok_bind, pure_eq_ok, Script.bind_of_ok (Script.lift_run _ _), Script.bind_run]
      rcases hrest : replaceEntries slugify (replacedScene env) (s.key :: seenKeys)
          (scenes.map (·.toPy)) (n + 1) with ⟨e | rest, m⟩
      · refine ⟨fun built h => ?_, fun hall => ?_⟩
        · cases h
        · obtain ⟨rest, hok⟩ := hreturns (List.forall_mem_cons.mp hall).2
          rw [hrest] at hok
          cases hok
      · refine ⟨fun built h => ?_, fun _ => ⟨_, rfl⟩⟩
        cases h
        exact .cons ⟨n, actions, hcanonical, rfl⟩ (hbuilt rest (by rw [hrest]))

/-- `replace_all`, where the entries it replaces can be read. -/
theorem replaceAll_eq {env : Env} {s s₁ : Store} {scenes : List Scene}
    (hitems : items env s = (.ok scenes, s₁)) (entries : List PyVal) :
    replaceAll env entries s =
      match replaceEntries slugify (replacedScene env) [] entries (s₁.nextId.getD 0) with
      | (.error e, m) => (.error e, { s₁ with nextId := some m })
      | (.ok built, m) =>
        if env.diskOk = true then
          (.ok (), { file := sceneService.written env m built, cache := none, nextId := some m })
        else (.error .osError, { s₁ with nextId := some m }) := by
  rw [replaceAll, Script.bind_of_ok hitems, Script.bind_of_ok (Script.get_run s₁)]
  rcases replaceEntries slugify (replacedScene env) [] entries (s₁.nextId.getD 0)
    with ⟨e | built, m⟩
  · rfl
  · simp only [Script.monadLift_eq]
    rw [Script.bind_of_ok (Script.modify_run _ _), Script.bind_of_ok (Script.lift_run _ _),
      Script.bind_run, writeAtomic_eq env built (n := m) rfl]
    cases env.diskOk <;> rfl

/-! ## 3. Importing a tidy list -/

/-- The same scene, under whatever id. -/
def SameButId (s s' : Scene) : Prop := { s' with id := s.id } = s

/-- Importing exported scenes into a store: whoever lists it then finds them, in the same order and
the same but for the ids.  The ids are different, and no scene of the store had them. -/
def ImportsInto (exported : List Scene) (target : Store) : Prop :=
  ∀ env : Env, env.diskOk = true →
    ∃ target', replaceAll env (exported.map (·.toPy)) target = (.ok (), target') ∧
      ∀ env', ∃ imported, (list env' target').1 = .ok imported ∧
        List.Forall₂ SameButId exported imported ∧ (imported.map (·.id)).Nodup ∧
        ∀ env'' scenes, (list env'' target).1 = .ok scenes →
          ∀ s ∈ imported, s.id ∉ scenes.map (·.id)

/-- The scenes of a store can be read, and its counter is above their ids. -/
def Counted (target : Store) : Prop :=
  ∀ env, ∃ scenes target₁, items env target = (.ok scenes, target₁) ∧
    ∀ env' listed, (list env' target).1 = .ok listed →
      ∀ s ∈ listed, s.id < target₁.nextId.getD 0

/-- A load and a copy of what `replace_all` has built: the actions are savable, and
`stop_on_error` is `True`. -/
theorem savable_of_replaced {floatText : PyFloat → String} {exported built loaded : List Scene}
    (hbuilt : List.Forall₂ Replaced exported built)
    (hloaded : List.Forall₂ (Loaded floatText) built loaded) :
    ∀ s ∈ loaded.map cloneScene, s.stopOnError = some true ∧ Savable s.actions := by
  have hnone : ∀ s ∈ built, s.stopOnError = none :=
    forall_mem_of_forall₂ (p := fun _ => True) hbuilt
      (fun hs _ => by
        obtain ⟨newId, actions, -, rfl⟩ := hs
        rfl)
      fun _ _ => trivial
  refine List.forall_mem_map.mpr (forall_mem_of_forall₂ hloaded (fun hs hstop => ?_) hnone)
  obtain ⟨actions, hactions, rfl⟩ := hs
  refine ⟨?_, savable_of_loadActions hactions⟩
  rw [cloneScene, hstop]
  rfl

/-- Where the exported scenes are savable and have `stop_on_error`, they come back the same. -/
theorem sameButId_of_replaced {floatText : PyFloat → String} {exported built loaded : List Scene}
    (hbuilt : List.Forall₂ Replaced exported built)
    (hloaded : List.Forall₂ (Loaded floatText) built loaded)
    (hkept : ∀ s ∈ exported, s.stopOnError = some true ∧ Savable s.actions) :
    List.Forall₂ SameButId exported (loaded.map cloneScene) := by
  induction hbuilt generalizing loaded with
  | nil =>
    cases hloaded
    exact .nil
  | @cons s s₁ exported built hs _ ih =>
    cases hloaded with
    | @cons _ s₂ _ loaded hs₁ hloaded =>
      obtain ⟨⟨hstop, hsavable⟩, hkept⟩ := List.forall_mem_cons.mp hkept
      refine .cons ?_ (ih hloaded hkept)
      obtain ⟨newId, actions, hactions, rfl⟩ := hs
      obtain ⟨actions', hactions', rfl⟩ := hs₁
      rw [canonicalActions_toPy_iff.mpr hsavable.1] at hactions
      cases hactions
      rw [loadActions_savable floatText hsavable] at hactions'
      cases hactions'
      rw [SameButId, cloneScene]
      simp only [Option.getD_none, Option.getD_some]
      rw [← hstop]

/-- What the loop builds of tidy scenes is tidy. -/
theorem tidyList_replaced {exported built : List Scene} (htidy : ∀ s ∈ exported, Tidy s)
    (hbuilt : List.Forall₂ Replaced exported built) {n m : Int}
    (hclaimed : Claimed sceneService.name [] n m built) : TidyList built m := by
  refine ⟨forall_mem_of_forall₂ hbuilt (fun hs h => ?_) htidy, ?_, ?_, ?_⟩
  · obtain ⟨newId, actions, -, rfl⟩ := hs
    exact ⟨h.key, h.stripped, h.labelled, h.created, h.updated⟩
  · rw [Service.bookOf, List.map_map]
    exact hclaimed.ids
  · rw [Service.bookOf, List.map_map]
    exact hclaimed.keys
  · exact List.forall_mem_map.mpr fun s hs => (hclaimed.range s hs).2

/-- A load keeps the ids. -/
theorem map_id_loaded {floatText : PyFloat → String} {built loaded : List Scene}
    (h : List.Forall₂ (Loaded floatText) built loaded) :
    (loaded.map cloneScene).map (·.id) = built.map (·.id) := by
  have hids := congrArg (List.map Prod.fst) (map_name_loaded h)
  rw [List.map_map, List.map_map] at hids
  rw [List.map_map]
  exact hids

/-- Listing a file that was just written. -/
theorem list_written (env env' : Env) {built : List Scene} {m : Int} (h : TidyList built m)
    (next : Option Int) :
    ∃ loaded, (list env' ⟨sceneService.written env m built, none, next⟩).1
        = .ok (loaded.map cloneScene) ∧
      List.Forall₂ (Loaded env.floatText) built loaded := by
  obtain ⟨loaded, k, hread, hall, -⟩ := readScenes_written env env'.now h
  have hitems : items env' ⟨sceneService.written env m built, none, next⟩
      = (.ok loaded, ⟨sceneService.written env m built, some loaded, some k⟩) := by
    rw [items_uncached env' rfl, hread]
  exact ⟨loaded, by rw [list_eq hitems], hall⟩

section

variable {exported : List Scene} {n₀ : Int} {target : Store}

/-- What an import of tidy scenes builds. -/
theorem replaced_spec (env : Env) (htidy : TidyList exported n₀) (n : Int) :
    (∀ built m, replaceEntries slugify (replacedScene env) [] (exported.map (·.toPy)) n
        = (.ok built, m) → List.Forall₂ Replaced exported built ∧ TidyList built m ∧
          (built.map (·.id)).Nodup ∧ ∀ s ∈ built, n ≤ s.id) ∧
      ((∀ s ∈ exported, Savable s.actions) → ∃ built m,
        replaceEntries slugify (replacedScene env) [] (exported.map (·.toPy)) n
          = (.ok built, m)) := by
  have hnone : ∀ s ∈ exported, s.key ∉ ([] : List String) := fun _ _ => List.not_mem_nil
  obtain ⟨hbuilt, hreturns⟩ := replaceEntries_tidy env htidy.tidy htidy.nodup.2 hnone n
  obtain ⟨-, hclaimed⟩ := replaceScenes_spec env (exported.map (·.toPy)) n
  constructor
  · intro built m hrun
    rw [hrun] at hbuilt hclaimed
    have hclaimed := hclaimed built rfl
    exact ⟨hbuilt built rfl, tidyList_replaced htidy.tidy (hbuilt built rfl) hclaimed, hclaimed.ids,
      fun s hs => (hclaimed.range s hs).1⟩
  · intro hsavable
    obtain ⟨built, hok⟩ := hreturns fun s hs =>
      ⟨s.actions, canonicalActions_toPy_iff.mpr (hsavable s hs).1⟩
    exact ⟨built, _, Prod.ext hok rfl⟩

/-- **The import** of tidy scenes gives them back exactly when their actions are savable and they
have `stop_on_error`. -/
theorem importsInto_iff (htidy : TidyList exported n₀) (htarget : Counted target) :
    ImportsInto exported target ↔
      ∀ s ∈ exported, s.stopOnError = some true ∧ Savable s.actions := by
  constructor
  · intro himports
    obtain ⟨scenes, target₁, hitems, -⟩ := htarget (envKnowing [])
    obtain ⟨target', hrun, hlisted⟩ := himports (envKnowing []) rfl
    rw [replaceAll_eq hitems] at hrun
    rcases hreplaced : replaceEntries slugify (replacedScene (envKnowing [])) []
      (exported.map (·.toPy)) (target₁.nextId.getD 0) with ⟨e | built, m⟩
    · rw [hreplaced] at hrun
      cases hrun
    · obtain ⟨hbuilt, htidy', -⟩ := (replaced_spec (envKnowing []) htidy _).1 built m hreplaced
      rw [hreplaced] at hrun
      cases hrun
      obtain ⟨loaded, hlist, hloaded⟩ :=
        list_written (envKnowing []) (envKnowing []) htidy' (some m)
      obtain ⟨imported, himported, hsame, -⟩ := hlisted (envKnowing [])
      rw [hlist] at himported
      cases himported
      refine forall_mem_of_forall₂ hsame.flip (fun hs hkept => ?_)
        (savable_of_replaced hbuilt hloaded)
      rw [← hs]
      exact hkept
  · intro hkept env hdisk
    obtain ⟨scenes, target₁, hitems, hbelow⟩ := htarget env
    obtain ⟨built, m, hreplaced⟩ := (replaced_spec env htidy (target₁.nextId.getD 0)).2
      fun s hs => (hkept s hs).2
    obtain ⟨hbuilt, htidy', hids, hfrom⟩ := (replaced_spec env htidy _).1 built m hreplaced
    rw [replaceAll_eq hitems, hreplaced]
    simp only [hdisk, if_true]
    refine ⟨_, rfl, fun env' => ?_⟩
    obtain ⟨loaded, hlist, hloaded⟩ := list_written env env' htidy' (some m)
    refine ⟨_, hlist, sameButId_of_replaced hbuilt hloaded hkept, ?_, ?_⟩
    · rw [map_id_loaded hloaded]
      exact hids
    · intro env'' listed hlisted s hs hmem
      have hfresh : s.id ∈ built.map (·.id) := by
        rw [← map_id_loaded hloaded]
        exact List.mem_map_of_mem hs
      obtain ⟨s₁, hs₁, heq₁⟩ := List.mem_map.mp hfresh
      obtain ⟨s₂, hs₂, heq₂⟩ := List.mem_map.mp hmem
      have hge := hfrom s₁ hs₁
      have hlt := hbelow env'' listed hlisted s₂ hs₂
      omega

end

/-! ## 4. Exporting a store -/

/-- A store without scenes. -/
def ListsNothing (target : Store) : Prop := ∀ env, (list env target).1 = .ok []

theorem counted_of_listsNothing {target : Store} (h : ListsNothing target) : Counted target := by
  intro env
  have hlist := h env
  rw [list, Script.bind_run] at hlist
  rcases hitems : items env target with ⟨e | scenes, target₁⟩
  · rw [hitems] at hlist
    cases hlist
  · refine ⟨scenes, target₁, rfl, fun env' listed hlisted s hs => ?_⟩
    rw [h env'] at hlisted
    cases hlisted
    cases hs

theorem counted_of_cached {s : Store} {scenes : List Scene} {n : Int}
    (hcache : s.cache = some scenes) (hnext : s.nextId = some n) (h : TidyList scenes n) :
    Counted s := by
  intro env
  refine ⟨scenes, s, items_cached env hcache, fun env' listed hlisted x hx => ?_⟩
  rw [list_eq (items_cached env' hcache)] at hlisted
  cases hlisted
  obtain ⟨y, hy, rfl⟩ := List.mem_map.mp hx
  rw [hnext]
  exact h.sound.below (y.id, y.key) (List.mem_map_of_mem hy)

/-- The copies that `list` hands out are as tidy as the scenes. -/
theorem TidyList.cloned {scenes : List Scene} {n : Int} (h : TidyList scenes n) :
    TidyList (scenes.map cloneScene) n := by
  refine h.of_names (List.forall_mem_map.mpr fun s hs => ?_) ?_
  · have htidy := h.tidy s hs
    exact ⟨htidy.key, htidy.stripped, htidy.labelled, htidy.created, htidy.updated⟩
  · rw [List.map_map]
    rfl

/-- The actions in a tidy file are savable. -/
theorem savable_of_tidyFile {file : File} (h : TidyFile file) {now : String} {scenes : List Scene}
    {n : Int} (hread : readScenes now file = .ok (scenes, n)) :
    ∀ s ∈ scenes, Savable s.actions := by
  rcases h with rfl | ⟨env, n₀, written, rfl, htidy⟩
  · cases hread
    exact fun s hs => nomatch hs
  · obtain ⟨loaded, m, hloaded, hall, -⟩ := readScenes_written env now htidy
    rw [hread] at hloaded
    cases hloaded
    refine forall_mem_of_forall₂ (p := fun _ => True) hall (fun hs _ => ?_) fun _ _ => trivial
    obtain ⟨actions, hactions, rfl⟩ := hs
    exact savable_of_loadActions hactions

/-- Unless a scene was lost on the way, what is listed is in the file. -/
theorem savable_of_losesNone {calls : List (Env × Call)}
    (hcalls : ∀ c ∈ calls, c.2.Edits ∧ c.1.now ≠ "")
    (hnone : LosesNone step (fun c s => c.2.Lost c.1 s) (fresh .absent) calls) {env : Env}
    {scenes : List Scene} (h : (items env (calls.foldl step (fresh .absent))).1 = .ok scenes) :
    ∀ s ∈ scenes, Savable s.actions := by
  have htidy := tidyStore_run hcalls (tidyStore_fresh (Or.inl rfl))
  have hstart : sceneService.Faithful (fresh .absent) :=
    sceneService.faithful_start sceneService_lawful trivial
  have hfaithful := sceneService.faithful_run sceneService_lawful
    (fun s c hs => faithful_step c hs) hstart hnone
  obtain ⟨env', henv'⟩ := hfaithful.items_onDisk sceneService_lawful env
  have hdisk : (items env' (fresh (calls.foldl step (fresh .absent)).file)).1 = .ok scenes :=
    Eq.trans (Eq.symm henv') h
  rw [items_uncached env' rfl] at hdisk
  have hfile : (fresh (calls.foldl step (fresh .absent)).file).file
      = (calls.foldl step (fresh .absent)).file := rfl
  rw [hfile] at hdisk
  cases hread : readScenes env'.now (calls.foldl step (fresh .absent)).file with
  | error e =>
    rw [hread] at hdisk
    cases hdisk
  | ok result =>
    rw [hread] at hdisk
    cases hdisk
    exact savable_of_tidyFile htidy.file hread

/-- **Exporting and importing.**  Over every run of editing calls, whatever becomes of their writes:
the export returns, and importing it, into the same store or one without scenes, gives every scene
back the same but for the id if and only if each of them has `stop_on_error` and savable actions.
The actions are savable unless a `create` of the run has failed to write. -/
theorem export_import_iff (calls : List (Env × Call))
    (hcalls : ∀ c ∈ calls, c.2.Edits ∧ c.1.now ≠ "") (env : Env) :
    ∃ exported st, list env (calls.foldl step (fresh .absent)) = (.ok exported, st) ∧
      (∀ target, target = st ∨ ListsNothing target →
        (ImportsInto exported target ↔
          ∀ s ∈ exported, s.stopOnError = some true ∧ Savable s.actions)) ∧
      (LosesNone step (fun c s => c.2.Lost c.1 s) (fresh .absent) calls →
        ∀ s ∈ exported, Savable s.actions) := by
  have htidy := tidyStore_run hcalls (tidyStore_fresh (Or.inl rfl))
  obtain ⟨scenes, st, n, hitems, hcache, hnext, hscenes, -⟩ := htidy.items env
  refine ⟨scenes.map cloneScene, st, list_eq hitems, fun target htarget => ?_, fun hnone => ?_⟩
  · refine importsInto_iff hscenes.cloned ?_
    rcases htarget with rfl | hempty
    · exact counted_of_cached hcache hnext hscenes
    · exact counted_of_listsNothing hempty
  · exact List.forall_mem_map.mpr (savable_of_losesNone hcalls hnone (by rw [hitems]))

/-- The first scene of a store, without actions. -/
def shown (stopOnError : Bool) : Scene :=
  { id := 0, key := "show", label := "Show", created := .str "2026-01-01T00:00:00Z"
    updated := .str "2026-01-01T00:00:00Z", actions := [], stopOnError := some stopOnError }

/-- The call that creates it. -/
def createShown (stopOnError : Bool) : Env × Call :=
  (envKnowing [], .create "Show" .null none (.bool stopOnError))

/-- A scene that stops on errors is imported as it was. -/
theorem export_import_stops :
    ∃ st, list (envKnowing []) (step (fresh .absent) (createShown true)) = (.ok [shown true], st) ∧
      ImportsInto [shown true] st ∧ ImportsInto [shown true] (fresh .absent) := by
  have hedits : ∀ c ∈ [createShown true], c.2.Edits ∧ c.1.now ≠ "" :=
    List.forall_mem_singleton.mpr ⟨trivial, by decide⟩
  obtain ⟨exported, st, hlist, hiff, -⟩ :=
    export_import_iff [createShown true] hedits (envKnowing [])
  have hshown : (list (envKnowing []) ([createShown true].foldl step (fresh .absent))).1
      = .ok [shown true] := rfl
  rw [hlist] at hshown
  cases hshown
  have hkept : ∀ s ∈ [shown true], s.stopOnError = some true ∧ Savable s.actions :=
    List.forall_mem_singleton.mpr ⟨rfl, ⟨Nat.zero_le _, by simp [shown]⟩, by simp [shown]⟩
  exact ⟨st, hlist, (hiff st (Or.inl rfl)).mpr hkept, (hiff _ (Or.inr fun _ => rfl)).mpr hkept⟩

/-- One that plays on is exported as such.  It is imported without an error, as one that stops. -/
theorem export_import_plays_on :
    ∃ st, list (envKnowing []) (step (fresh .absent) (createShown false))
        = (.ok [shown false], st) ∧
      ∀ target, target = st ∨ target = fresh .absent → ¬ ImportsInto [shown false] target ∧
        ∃ target', replaceAll (envKnowing []) [(shown false).toPy] target = (.ok (), target') ∧
          ∃ imported, (list (envKnowing []) target').1 = .ok imported ∧
            imported.map (·.stopOnError) = [some true] := by
  have hnot : ∀ {target target' imported},
      replaceAll (envKnowing []) [(shown false).toPy] target = (.ok (), target') →
      (list (envKnowing []) target').1 = .ok imported →
      imported.map (·.stopOnError) = [some true] → ¬ ImportsInto [shown false] target := by
    intro target target' imported hrun hlist hstops himports
    obtain ⟨_, hrun', hlisted⟩ := himports (envKnowing []) rfl
    cases hrun.symm.trans hrun'
    obtain ⟨_, himported, hsame, -⟩ := hlisted (envKnowing [])
    cases hlist.symm.trans himported
    cases hsame with
    | @cons _ s _ _ hs _ =>
      have hplays : s.stopOnError = some false := congrArg Scene.stopOnError hs
      have hstop : s.stopOnError = some true := (List.cons.inj hstops).1
      cases hplays.symm.trans hstop
  refine ⟨_, rfl, ?_⟩
  rintro target (rfl | rfl)
  · exact ⟨hnot rfl rfl rfl, _, rfl, _, rfl, rfl⟩
  · exact ⟨hnot rfl rfl rfl, _, rfl, _, rfl, rfl⟩

end RaceLink.SceneService
