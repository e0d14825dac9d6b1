/-
# No id is given twice

RotorHazard bindings name a preset by its id, so an id must not come to mean another entry.  The
counter lives in the service and in the file; every write drops the cache, and the next load derives
the counter again.  `ids_never_reused` says that this works, for both stores, over every sequence of
calls and restarts whose writes succeed.
-/
import RaceLink.Presets.Steps
import RaceLink.Scenes.Steps

namespace RaceLink

open Python CachedFile

/-! ## 1. The scenes -/

namespace SceneService

/-- The ids and keys a caller sees. -/
def names (env : Env) (s : Store) : Option (List (Int × String)) :=
  match (list env s).1 with
  | .ok scenes => some (scenes.map fun scene => (scene.id, scene.key))
  | .error _ => none

/-- `_next_id`, when the scenes have been listed. -/
def counter (env : Env) (s : Store) : Option Int := (list env s).2.nextId

/-- A new service lists what is in the file, under different keys. -/
def Readable (file : File) : Prop :=
  ∀ env, ∃ scenes, (list env (fresh file)).1 = .ok scenes ∧ (scenes.map (·.key)).Nodup

theorem list_eq {env : Env} {s s' : Store} {scenes : List Scene}
    (h : items env s = (.ok scenes, s')) : list env s = (.ok (scenes.map cloneScene), s') := by
  rw [list, Script.bind_of_ok h]
  rfl

/-- What a read of a state finds that agrees with its file. -/
theorem seen_of_holds {env : Env} {s : Store} {b : Ledger.Book Int String}
    (h : sceneService.Holds s b) :
    names env s = some b.names ∧ ∃ n, counter env s = some n ∧ b.next ≤ n := by
  -- a read does not write, so it does not matter whether the disk works
  obtain ⟨scenes, s', hitems⟩ :=
    sceneService_lawful.returns (t := { env with diskOk := true }) h.readable rfl
  obtain ⟨-, -, hnames, n, hnext, hle⟩ := h.items sceneService_lawful hitems
  have hread : items env s = (.ok scenes, s') := hitems
  rw [names, counter, list_eq hread, ← hnames]
  refine ⟨?_, n, hnext, hle⟩
  simp only [List.map_map]
  rfl

/-- The calls keep the ledger while their writes succeed. -/
theorem keeps : Ledger.Keeps step (fun c : Env × Call => c.1.diskOk = true) sceneService.Holds :=
  sceneService.keeps sceneService_lawful fun s b c h => by
    by_cases hc : c.2 = .restart
    · left
      rw [step, hc]
      rfl
    · exact Or.inr ⟨_, _, _, makes_orderly c.1 c.2, call_outcome h.seeded hc⟩

/-- A new service over a readable file. -/
theorem holds_fresh {file : File} (h : Readable file) : ∃ b, sceneService.Holds (fresh file) b := by
  have hread : ∀ env : Env, ∃ scenes n, readScenes env.now file = .ok (scenes, n) ∧
      (scenes.map (·.key)).Nodup := by
    intro env
    obtain ⟨listed, hlist, hkeys⟩ := h env
    have hnone : (fresh file).cache = none := rfl
    rw [list, Script.bind_run, items_uncached env hnone] at hlist
    have hfile : (fresh file).file = file := rfl
    rw [hfile] at hlist
    cases hscenes : readScenes env.now file with
    | error e =>
      rw [hscenes] at hlist
      cases hlist
    | ok result =>
      rw [hscenes] at hlist
      cases hlist
      rw [List.map_map] at hkeys
      exact ⟨result.1, result.2, rfl, hkeys⟩
  obtain ⟨scenes, n, hscenes, hkeys⟩ := hread (envKnowing [])
  have hbook := readScenes_book hscenes
  refine ⟨_, ⟨⟨(fileBook_ids hbook).1, ?_, (fileBook_ids hbook).2⟩, fun now => ?_, hbook,
    fun _ hcache => nomatch hcache⟩⟩
  · rw [List.map_map]
    exact hkeys
  · obtain ⟨scenes, n, hscenes, -⟩ := hread { envKnowing [] with now := now }
    exact ⟨_, hscenes⟩

end SceneService

/-! ## 2. The presets -/

namespace RLPresetsService

open RlPresets

/-- The ids and keys a caller sees. -/
def names (env : Env) (s : Store) : Option (List (Int × String)) :=
  match (list env s).1 with
  | .ok presets => some (presets.map fun preset => (preset.id, preset.key))
  | .error _ => none

/-- `_next_id`, when the presets have been listed. -/
def counter (env : Env) (s : Store) : Option Int := (list env s).2.nextId

/-- A new service lists what is in the file, under different keys, if it can migrate it. -/
def Readable (file : File) : Prop :=
  ∀ env : Env, env.migrateOk = true →
    ∃ presets, (list env (fresh file)).1 = .ok presets ∧ (presets.map (·.key)).Nodup

/-- What a read of a state finds that agrees with its file. -/
theorem seen_of_holds {env : Env} {s : Store} {b : Ledger.Book Int String}
    (h : presetService.Holds s b) (hmigrate : env.migrateOk = true) :
    names env s = some b.names ∧ ∃ n, counter env s = some n ∧ b.next ≤ n := by
  have hdisk : presetService.diskOk { env with diskOk := true } = true := by
    show (true && env.migrateOk) = true
    rw [hmigrate, Bool.true_and]
  obtain ⟨presets, s', hitems⟩ := presetService_lawful.returns h.readable hdisk
  obtain ⟨-, -, hnames, n, hnext, hle⟩ := h.items presetService_lawful hitems
  have hread : items env s = (.ok presets, s') := hitems
  rw [names, counter, list, hread, ← hnames]
  exact ⟨rfl, n, hnext, hle⟩

/-- The calls keep the ledger while their writes succeed. -/
theorem keeps : Ledger.Keeps step (fun c : Env × Call => presetService.diskOk c.1 = true)
    presetService.Holds :=
  presetService.keeps presetService_lawful fun s b c h => by
    by_cases hc : c.2 = .restart
    · left
      rw [step, hc]
      rfl
    · exact Or.inr ⟨_, _, _, makes_orderly c.1 c.2, call_outcome h.seeded hc⟩

/-- A call whose writes all succeed. -/
def envNamed (now : String) : Env :=
  { now := now, migrateOk := true, diskOk := true, floatText := fun _ => "0.0" }

/-- A new service over a readable file. -/
theorem holds_fresh {file : File} (h : Readable file) :
    ∃ b, presetService.Holds (fresh file) b := by
  have hread : ∀ now, ∃ presets n migrates, readPresets now file = .ok (presets, n, migrates) ∧
      (presets.map (·.key)).Nodup := by
    intro now
    obtain ⟨listed, hlist, hkeys⟩ := h (envNamed now) rfl
    have hnone : (fresh file).cache = none := rfl
    rcases hitems : items (envNamed now) (fresh file) with ⟨e | presets, s'⟩
    · rw [list, hitems] at hlist
      cases hlist
    · rw [list, hitems] at hlist
      cases hlist
      obtain ⟨n, migrates, hpresets, -⟩ := items_uncached_ok hnone hitems
      exact ⟨listed, n, migrates, hpresets, hkeys⟩
  obtain ⟨presets, n, migrates, hpresets, hkeys⟩ := hread ""
  have hbook := readPresets_book hpresets
  refine ⟨_, ⟨⟨(fileBook_ids hbook).1, ?_, (fileBook_ids hbook).2⟩, fun now => ?_, hbook,
    fun _ hcache => nomatch hcache⟩⟩
  · rw [List.map_map]
    exact hkeys
  · obtain ⟨presets, n, migrates, hpresets, -⟩ := hread now
    exact ⟨_, hpresets⟩

end RLPresetsService

/-! ## 3. Both -/

/-- **No id is given twice**, by either store: from every readable file with different keys, over
every sequence of calls and restarts whose writes succeed, the ids and the keys that are listed are
different, the counter is above every id that was ever listed, and an entry that is listed after a
call was listed before it, or has an id that was never listed. -/
theorem ids_never_reused :
    (∀ file, SceneService.Readable file → Ledger.IdsNeverReused SceneService.step
      (fun c => c.1.diskOk = true) (fun _ => True) SceneService.names SceneService.counter
      (SceneService.fresh file)) ∧
    (∀ file, RLPresetsService.Readable file → Ledger.IdsNeverReused RLPresetsService.step
      (fun c => c.1.diskOk = true ∧ c.1.migrateOk = true) (fun env => env.migrateOk = true)
      RLPresetsService.names RLPresetsService.counter (RLPresetsService.fresh file)) := by
  constructor
  · intro file hfile
    obtain ⟨b, hb⟩ := SceneService.holds_fresh hfile
    exact SceneService.keeps.idsNeverReused (fun h _ => SceneService.seen_of_holds h) hb
  · intro file hfile
    obtain ⟨b, hb⟩ := RLPresetsService.holds_fresh hfile
    have hok : (fun c : RLPresetsService.Env × RLPresetsService.Call =>
        c.1.diskOk = true ∧ c.1.migrateOk = true)
        = fun c => RLPresetsService.presetService.diskOk c.1 = true :=
      funext fun c => (Bool.and_eq_true c.1.diskOk c.1.migrateOk).symm
    rw [hok]
    exact RLPresetsService.keeps.idsNeverReused RLPresetsService.seen_of_holds hb

/-- A file of either kind, as an old version left it: two entries with the same id, and no
counter. -/
def oldFile (field : String) : File :=
  .doc (strDict [(field, .list
    [strDict [("id", .int 4), ("key", .str "start"), ("label", .str "Start")],
      strDict [("id", .int 4), ("key", .str "finish"), ("label", .str "Finish")]])])

/-- Both services read the old file, and give no id of it again. -/
theorem ids_never_reused_oldFile :
    Ledger.IdsNeverReused SceneService.step (fun c => c.1.diskOk = true) (fun _ => True)
      SceneService.names SceneService.counter (SceneService.fresh (oldFile "scenes")) ∧
    Ledger.IdsNeverReused RLPresetsService.step
      (fun c => c.1.diskOk = true ∧ c.1.migrateOk = true) (fun env => env.migrateOk = true)
      RLPresetsService.names RLPresetsService.counter
      (RLPresetsService.fresh (oldFile "presets")) := by
  refine ⟨ids_never_reused.1 _ fun env => ?_, ids_never_reused.2 _ fun env hmigrate => ?_⟩
  · refine ⟨_, rfl, ?_⟩
    show ["start", "finish"].Nodup
    decide
  · obtain ⟨now, migrateOk, diskOk, floatText⟩ := env
    obtain rfl : migrateOk = true := hmigrate
    refine ⟨_, rfl, ?_⟩
    show ["start", "finish"].Nodup
    decide

end RaceLink
