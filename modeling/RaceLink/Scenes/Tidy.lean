/-
# Scenes as the editing calls leave them

What `create`, `update`, `delete` and `duplicate` leave in a store is tidy: keys are slugs, labels
are stripped and not empty, and there are time stamps.  This holds of the file and of the cached
list, in every state a run of these calls reaches, whether the writes succeed or not
(`tidyStore_run`).

A tidy list that is written is read as it was, up to the actions, which the load validates, and to a
`stop_on_error` that is missing (`Loaded`).
-/
import RaceLink.Scenes.Steps
import RaceLink.Stores.Slugs

namespace RaceLink.SceneService

open Python CachedFile

/-! ## 1. Keys -/

/-- What `_slugify` gives is a slug. -/
theorem isSlug_slugify (text : String) : IsSlug (slugify text).toList := by
  have hdefault : IsSlug "scene".toList := by
    have hscene : slugText "scene" = "scene".toList := by decide +kernel
    rw [← hscene]
    exact isSlug_slugText (by rw [hscene]; simp)
  have heq : slugify text
      = if String.ofList (slugText text) = "" then "scene" else String.ofList (slugText text) := rfl
  rw [heq]
  split
  · exact hdefault
  · next hbase =>
    rw [String.toList_ofList]
    refine isSlug_slugText fun hnil => hbase ?_
    rw [hnil]

/-- A slug is its own. -/
theorem slugify_of_isSlug {key : String} (h : IsSlug key.toList) : slugify key = key := by
  have heq : slugify key
      = if String.ofList (slugText key) = "" then "scene" else String.ofList (slugText key) := rfl
  have hne : key ≠ "" := by
    rintro rfl
    exact h.nonempty rfl
  rw [heq, slugText_of_isSlug h, String.ofList_toList, if_neg hne]

/-- Making a slug unique leaves it a slug. -/
theorem isSlug_uniqueKey {desired key : String} {taken : List String} (h : IsSlug desired.toList)
    (hkey : uniqueKey desired taken = .ok key) : IsSlug key.toList := by
  unfold uniqueKey at hkey
  split at hkey
  · cases hkey
    exact h
  · split at hkey
    · next candidate hfind =>
      cases hkey
      obtain ⟨i, -, rfl⟩ := List.mem_map.mp (List.mem_of_find?_eq_some hfind)
      exact isSlug_numbered h (i + 2)
    · cases hkey

/-! ## 2. Tidy scenes -/

/-- A time stamp that is there. -/
def Stamped (v : PyVal) : Prop := ∃ t, v = .str t ∧ t ≠ ""

/-- A scene as `create` and `update` leave it. -/
structure Tidy (s : Scene) : Prop where
  key : IsSlug s.key.toList
  stripped : strip s.label = s.label
  labelled : s.label ≠ ""
  created : Stamped s.created
  updated : Stamped s.updated

/-- Tidy scenes with different ids below the counter, and different keys. -/
structure TidyList (scenes : List Scene) (n : Int) : Prop where
  tidy : ∀ s ∈ scenes, Tidy s
  sound : (sceneService.bookOf scenes n).Sound

/-- The counter may run ahead. -/
theorem TidyList.mono {scenes : List Scene} {n n' : Int} (h : TidyList scenes n) (hle : n ≤ n') :
    TidyList scenes n' :=
  ⟨h.tidy, h.sound.mono hle⟩

/-- So may tidy scenes take the place of others of the same names. -/
theorem TidyList.of_names {scenes scenes' : List Scene} {n : Int} (h : TidyList scenes n)
    (htidy : ∀ s ∈ scenes', Tidy s)
    (hnames : scenes'.map sceneService.name = scenes.map sceneService.name) :
    TidyList scenes' n := by
  refine ⟨htidy, ?_⟩
  rw [Service.bookOf, hnames]
  exact h.sound

/-- The ids of a tidy list, and the keys, are different. -/
theorem TidyList.nodup {scenes : List Scene} {n : Int} (h : TidyList scenes n) :
    (scenes.map (·.id)).Nodup ∧ (scenes.map (·.key)).Nodup := by
  obtain ⟨hids, hkeys, -⟩ := h.sound
  rw [Service.bookOf, List.map_map] at hids hkeys
  exact ⟨hids, hkeys⟩

/-- There is no file, or it is a written tidy list. -/
def TidyFile (file : File) : Prop :=
  file = .absent ∨ ∃ env n scenes, file = sceneService.written env n scenes ∧ TidyList scenes n

/-- The file is tidy, and what is cached. -/
structure TidyStore (s : Store) : Prop where
  file : TidyFile s.file
  cached : ∀ scenes, s.cache = some scenes → ∃ n, s.nextId = some n ∧ TidyList scenes n

theorem TidyStore.seeded {s : Store} (h : TidyStore s) : sceneService.Seeded s := by
  intro scenes hcache
  obtain ⟨n, hnext, -⟩ := h.cached scenes hcache
  exact ⟨n, hnext⟩

/-- A new service over a tidy file. -/
theorem tidyStore_fresh {file : File} (h : TidyFile file) : TidyStore (fresh file) :=
  ⟨h, fun _ hcache => nomatch hcache⟩

/-! ## 3. Reading a tidy file -/

/-- What a load makes of a written scene: its actions are validated, and it has a
`stop_on_error`. -/
def Loaded (floatText : PyFloat → String) (s s' : Scene) : Prop :=
  ∃ actions, loadActions (jsonRoundTrip floatText (actionsToPy s.actions)) = .ok actions ∧
    s' = { s with actions := actions, stopOnError := some (s.stopOnError.getD true) }

/-- What holds of the scenes on one side holds of those on the other. -/
theorem forall_mem_of_forall₂ {α β : Type} {r : α → β → Prop} {p : α → Prop} {q : β → Prop}
    {xs : List α} {ys : List β} (h : List.Forall₂ r xs ys) (hr : ∀ {x y}, r x y → p x → q y)
    (hp : ∀ x ∈ xs, p x) : ∀ y ∈ ys, q y := by
  induction h with
  | nil => exact fun _ hy => nomatch hy
  | cons hxy _ ih =>
    obtain ⟨hx, hxs⟩ := List.forall_mem_cons.mp hp
    exact List.forall_mem_cons.mpr ⟨hr hxy hx, ih hxs⟩

/-- The fields of a scene in the file that may be missing in another. -/
theorem jsonRoundTrip_scene_rest (floatText : PyFloat → String) {s : Scene} {d : Dict}
    (hd : jsonRoundTrip floatText s.toPy = .dict d) :
    Dict.get d "created" = jsonRoundTrip floatText s.created ∧
      Dict.get d "updated" = jsonRoundTrip floatText s.updated ∧
      Dict.get d "stop_on_error" = (match s.stopOnError with
        | some b => .bool b
        | none => .null) := by
  obtain ⟨id, key, label, created, updated, actions, stop⟩ := s
  cases stop with
  | none =>
    rw [Scene.toPy, jsonRoundTrip_strDict floatText (by simp)] at hd
    cases hd
    simp [Dict.get]
  | some b =>
    rw [Scene.toPy, jsonRoundTrip_strDict floatText (by simp)] at hd
    cases hd
    simp [Dict.get, jsonRoundTrip]

theorem or_of_stamped {v w : PyVal} (h : Stamped v) : v.or w = v := by
  obtain ⟨t, rfl, ht⟩ := h
  simp [PyVal.or, PyVal.truthy, ht]

theorem jsonRoundTrip_of_stamped (floatText : PyFloat → String) {v : PyVal} (h : Stamped v) :
    jsonRoundTrip floatText v = v := by
  obtain ⟨t, rfl, -⟩ := h
  rfl

/-- The scene a load makes of a written tidy one. -/
theorem loadedScene_tidy (floatText : PyFloat → String) (now : String) {s : Scene} (h : Tidy s)
    {d : Dict} (hd : jsonRoundTrip floatText s.toPy = .dict d) (actions : List Action) :
    loadedScene now s.id s.key s.label actions d
      = { s with actions := actions, stopOnError := some (s.stopOnError.getD true) } := by
  obtain ⟨hcreated, hupdated, hstop⟩ := jsonRoundTrip_scene_rest floatText hd
  rw [jsonRoundTrip_of_stamped floatText h.created] at hcreated
  rw [jsonRoundTrip_of_stamped floatText h.updated] at hupdated
  rw [loadedScene, hcreated, hupdated, or_of_stamped h.created, or_of_stamped h.updated,
    or_of_stamped h.updated, hstop]
  cases s.stopOnError <;> rfl

theorem loadScenes_tidy (floatText : PyFloat → String) (now : String) {scenes : List Scene}
    (htidy : ∀ s ∈ scenes, Tidy s) {used : List Int} (hnd : (scenes.map (·.id)).Nodup)
    (hnew : ∀ s ∈ scenes, s.id ∉ used) (index : Int) : ∃ loaded used',
      loadScenes now used index ((scenes.map (·.toPy)).map (jsonRoundTrip floatText))
        = .ok (loaded, used') ∧ List.Forall₂ (Loaded floatText) scenes loaded := by
  induction scenes generalizing used index with
  | nil => exact ⟨[], used, rfl, .nil⟩
  | cons s scenes ih =>
    obtain ⟨hs, htidy⟩ := List.forall_mem_cons.mp htidy
    obtain ⟨hfree, hnew⟩ := List.forall_mem_cons.mp hnew
    obtain ⟨hdiffer, hnd⟩ := List.nodup_cons.mp hnd
    obtain ⟨d, hd, hid, hkey, hlabel, hactions⟩ := jsonRoundTrip_scene floatText s
    obtain ⟨actions, hloaded⟩ := loadActions_returns floatText s.actions
    have hstill : ∀ s' ∈ scenes, s'.id ∉ s.id :: used := by
      intro s' hs' hmem
      rcases List.mem_cons.mp hmem with heq | hmem
      · exact hdiffer (List.mem_map.mpr ⟨s', hs', heq⟩)
      · exact hnew s' hs' hmem
    obtain ⟨loaded, used', hrest, hall⟩ := ih htidy hnd hstill (index + 1)
    have hrequested : requestedId d index = .ok s.id := by
      rw [requestedId, hid]
      exact intCatch_int _ _
    have hkept : freshSceneId used s.id = s.id := skipUsed_of_not_mem hfree _
    rw [List.map_cons, List.map_cons, hd, loadScenes_entry hkey hlabel]
    simp only [hrequested, hactions, hloaded, hkept, hrest, ok_bind, pure_eq_ok]
    exact ⟨_, _, rfl, .cons ⟨actions, hloaded, loadedScene_tidy floatText now hs hd actions⟩ hall⟩

theorem Tidy.loaded {floatText : PyFloat → String} {s s' : Scene} (h : Tidy s)
    (hloaded : Loaded floatText s s') : Tidy s' := by
  obtain ⟨actions, -, rfl⟩ := hloaded
  exact ⟨h.key, h.stripped, h.labelled, h.created, h.updated⟩

theorem map_name_loaded {floatText : PyFloat → String} {scenes loaded : List Scene}
    (h : List.Forall₂ (Loaded floatText) scenes loaded) :
    loaded.map sceneService.name = scenes.map sceneService.name := by
  induction h with
  | nil => rfl
  | cons hs _ ih =>
    obtain ⟨actions, -, rfl⟩ := hs
    rw [List.map_cons, List.map_cons, ih]
    rfl

/-- Loading does not change what makes a list tidy. -/
theorem TidyList.loaded {floatText : PyFloat → String} {scenes loaded : List Scene} {n : Int}
    (h : TidyList scenes n) (hall : List.Forall₂ (Loaded floatText) scenes loaded) :
    TidyList loaded n :=
  h.of_names (forall_mem_of_forall₂ hall (fun hs htidy => htidy.loaded hs) h.tidy)
    (map_name_loaded hall)

/-- **A written tidy list** is read again. -/
theorem readScenes_written (env : Env) (now : String) {scenes : List Scene} {n : Int}
    (h : TidyList scenes n) :
    ∃ loaded m, readScenes now (sceneService.written env n scenes) = .ok (loaded, m) ∧
      List.Forall₂ (Loaded env.floatText) scenes loaded ∧ TidyList loaded m := by
  obtain ⟨d, hd, hnext, hraws⟩ := payload_doc env.floatText n scenes
  have hnone : ∀ s ∈ scenes, s.id ∉ ([] : List Int) := fun _ _ => List.not_mem_nil
  obtain ⟨loaded, used, hloaded, hall⟩ := loadScenes_tidy env.floatText now h.tidy h.nodup.1 hnone 0
  obtain ⟨schema, hschema⟩ := sceneService_lawful.readable_written env n scenes now
  refine ⟨loaded, loadedNextId (.int n) used, ?_, hall,
    (h.loaded hall).mono (le_loadedNextId n used)⟩
  have hdoc : readScenes now (.doc (jsonRoundTrip env.floatText (payload n scenes))) = .ok schema :=
    hschema
  show readScenes now (.doc (jsonRoundTrip env.floatText (payload n scenes))) = _
  rw [hd, readScenes] at hdoc ⊢
  obtain ⟨version, hversion, -⟩ := bind_eq_ok.mp hdoc
  rw [hversion, ok_bind, hraws]
  simp only [hloaded, ok_bind, hnext]
  rfl

/-- A tidy file is read. -/
theorem readScenes_tidy (now : String) {file : File} (h : TidyFile file) :
    ∃ scenes n, readScenes now file = .ok (scenes, n) ∧ TidyList scenes n := by
  rcases h with rfl | ⟨env, n, scenes, rfl, htidy⟩
  · exact ⟨[], 0, rfl, by simp, ⟨.nil, .nil, by simp [Service.bookOf]⟩⟩
  · obtain ⟨loaded, m, hread, -, hloaded⟩ := readScenes_written env now htidy
    exact ⟨loaded, m, hread, hloaded⟩

/-- **Reading a tidy store** gives a tidy list, and it is cached. -/
theorem TidyStore.items {s : Store} (h : TidyStore s) (env : Env) :
    ∃ scenes s₁ n, items env s = (.ok scenes, s₁) ∧ s₁.cache = some scenes ∧ s₁.nextId = some n ∧
      TidyList scenes n ∧ s₁.file = s.file := by
  cases hcache : s.cache with
  | some scenes =>
    obtain ⟨n, hnext, htidy⟩ := h.cached scenes hcache
    exact ⟨scenes, s, n, items_cached env hcache, hcache, hnext, htidy, rfl⟩
  | none =>
    obtain ⟨scenes, n, hread, htidy⟩ := readScenes_tidy env.now h.file
    rw [items_uncached env hcache, hread]
    exact ⟨scenes, _, n, rfl, rfl, rfl, htidy, rfl⟩

/-! ## 4. The editing calls -/

/-- The calls that edit single scenes, the reads, and a restart. -/
def Call.Edits : Call → Prop
  | .renumberGroupReferences _ | .replaceAll _ => False
  | _ => True

theorem forall_mem_replaceFirst {p : Scene → Prop} {key : String} {newEntry : Scene}
    {scenes : List Scene} (h : ∀ s ∈ scenes, p s) (hnew : p newEntry) :
    ∀ s ∈ replaceFirst key newEntry scenes, p s := by
  induction scenes with
  | nil => exact h
  | cons scene scenes ih =>
    obtain ⟨hscene, hscenes⟩ := List.forall_mem_cons.mp h
    rw [replaceFirst]
    split
    · exact List.forall_mem_cons.mpr ⟨hnew, hscenes⟩
    · exact List.forall_mem_cons.mpr ⟨hscene, ih hscenes⟩

theorem createMakes_tidy {env : Env} (hnow : env.now ≠ "") {label : String} {actions : PyVal}
    {key : Option String} {stopOnError : PyVal} {scenes scenes' : List Scene} {n n' : Int}
    (hmakes : CreateMakes env label actions key stopOnError scenes n scenes' n')
    (h : ∀ s ∈ scenes, Tidy s) : ∀ s ∈ scenes', Tidy s := by
  obtain ⟨canonical, finalKey, hlabel, -, hkey, rfl, -⟩ := hmakes
  refine List.forall_mem_append.mpr ⟨h, List.forall_mem_singleton.mpr ?_⟩
  exact ⟨isSlug_uniqueKey (isSlug_slugify _) hkey, strip_strip label, hlabel, ⟨_, rfl, hnow⟩,
    ⟨_, rfl, hnow⟩⟩

/-- The label of an update is stripped and not empty, as the old one is. -/
theorem updatedLabel_tidy {old labelClean : String} {label : Option String}
    (hold : strip old = old ∧ old ≠ "") (h : updatedLabel old label = .ok labelClean) :
    strip labelClean = labelClean ∧ labelClean ≠ "" := by
  cases label with
  | none =>
    cases h
    exact hold
  | some label =>
    obtain ⟨_, hraise, h⟩ := bind_eq_ok.mp h
    cases h
    exact ⟨strip_strip label, raiseIf_eq_ok.mp hraise⟩

/-- **Editing** leaves tidy scenes. -/
theorem makes_tidy {env : Env} (hnow : env.now ≠ "") {c : Call} (hc : c.Edits)
    {scenes scenes' : List Scene} {n n' : Int} (hmakes : c.Makes env scenes n scenes' n')
    (h : TidyList scenes n) : TidyList scenes' n' := by
  refine ⟨?_, (makes_orderly env c hmakes h.sound).sound⟩
  cases c with
  | create label actions key stopOnError => exact createMakes_tidy hnow hmakes h.tidy
  | update key label actions stopOnError =>
    obtain ⟨scene, labelClean, canonical, hfind, hlabel, -, rfl, -⟩ := hmakes
    have hscene := h.tidy scene (List.mem_of_find?_eq_some hfind)
    obtain ⟨hstripped, hlabelled⟩ := updatedLabel_tidy ⟨hscene.stripped, hscene.labelled⟩ hlabel
    refine forall_mem_replaceFirst h.tidy ?_
    exact ⟨hscene.key, hstripped, hlabelled, hscene.created, ⟨_, rfl, hnow⟩⟩
  | delete key =>
    obtain ⟨rfl, -⟩ := hmakes
    exact fun s hs => h.tidy s (List.mem_of_mem_filter hs)
  | duplicate key newLabel =>
    obtain ⟨src, -, hmakes⟩ := hmakes
    exact createMakes_tidy hnow hmakes h.tidy
  | renumberGroupReferences deletedGid => exact absurd hc id
  | replaceAll entries => exact absurd hc id
  | _ => exact absurd hmakes id

/-- What a call that keeps lists tidy does to a tidy store, whatever becomes of its write. -/
theorem tidyStore_of_outcome {s s' : Store} (h : TidyStore s) {env : Env} {lost : Prop}
    {makes : Change Scene} {raised : Bool}
    (hmakes : ∀ {es n es' n'}, makes es n es' n' → TidyList es n → TidyList es' n')
    (ho : Outcome sceneService env lost makes s raised s') : TidyStore s' := by
  obtain ⟨scenes, s₁, n, hread, -, hnext, htidy, hfile⟩ := h.items env
  have hitems : sceneService.items env s = (.ok scenes, s₁) := hread
  -- a call that leaves the file as the look at it did
  have hunwritten : ∀ {es' n'}, s'.file = s₁.file → s'.cache = some es' → s'.nextId = some n' →
      TidyList es' n' → TidyStore s' := by
    intro es' n' hsame hcached hn' htidy'
    have hfile' : s'.file = s.file := hsame.trans hfile
    refine ⟨hfile' ▸ h.file, fun es hes => ⟨n', hn', ?_⟩⟩
    cases hcached.symm.trans hes
    exact htidy'
  cases ho with
  | early => exact h
  | unread _ herror =>
    rw [hitems] at herror
    cases herror
  | looked _ hok hsame hcached hn hn' hle =>
    rw [hitems] at hok
    cases hok
    cases hnext.symm.trans hn
    exact hunwritten hsame hcached hn' (htidy.mono hle)
  | @wrote _ _ _ _ es' n' hok hn hwritten hdropped hmade =>
    rw [hitems] at hok
    cases hok
    cases hnext.symm.trans hn
    refine ⟨Or.inr ⟨env, n', es', hwritten, hmakes hmade htidy⟩, fun es hes => ?_⟩
    cases hdropped.symm.trans hes
  | phantom _ _ hok hn hsame hcached hn' hmade =>
    rw [hitems] at hok
    cases hok
    cases hnext.symm.trans hn
    exact hunwritten hsame hcached hn' (hmakes hmade htidy)

/-- **One call** keeps the store tidy. -/
theorem tidyStore_step {s : Store} (h : TidyStore s) {c : Env × Call} (hc : c.2.Edits)
    (hnow : c.1.now ≠ "") : TidyStore (step s c) := by
  by_cases hrestart : c.2 = .restart
  · have heq : step s c = fresh s.file := by
      rw [step, hrestart]
      rfl
    rw [heq]
    exact tidyStore_fresh h.file
  · exact tidyStore_of_outcome h (fun hmade htidy => makes_tidy hnow hc hmade htidy)
      (call_outcome h.seeded hrestart)

/-- **A run** of editing calls keeps the store tidy. -/
theorem tidyStore_run {calls : List (Env × Call)} (hcalls : ∀ c ∈ calls, c.2.Edits ∧ c.1.now ≠ "")
    {s : Store} (h : TidyStore s) : TidyStore (calls.foldl step s) := by
  induction calls generalizing s with
  | nil => exact h
  | cons c calls ih =>
    obtain ⟨⟨hedits, hnow⟩, hcalls⟩ := List.forall_mem_cons.mp hcalls
    exact ih hcalls (tidyStore_step h hedits hnow)

end RaceLink.SceneService
