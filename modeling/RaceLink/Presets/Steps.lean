/-
# What a call does to the preset service

The same as for the scenes: every call is one of the outcomes of a cached file (`call_outcome`), and
`create`, with `duplicate`, is where a failed write leaves an entry in the cache.
-/
import RaceLink.Presets.File
import RaceLink.Stores.Steps

namespace RaceLink.RLPresetsService

open Python RlPresets CachedFile

/-! ## 1. What a call is to do -/

/-- The key `create` asks for. -/
def desiredKey (label : String) (key : Option String) : String :=
  slugify (if key.getD "" = "" then strip label else key.getD "")

/-- The arguments of a `create` pass its checks: there is a label, the file can be read, there is a
free key, and the parameters and the flags are accepted. -/
def CreateAccepted (env : Env) (label : String) (params flags : PyVal) (key : Option String)
    (s : Store) : Prop :=
  strip label ≠ "" ∧ (∃ presets, (items env s).1 = .ok presets ∧
      ∃ finalKey, uniqueKey (desiredKey label key) (presets.map (·.key)) = .ok finalKey) ∧
    (∃ p, RlPresets.canonicalParams params = .ok p) ∧ ∃ f, canonicalFlags flags = .ok f

/-- The preset `create` appends. -/
def createdPreset (env : Env) (newId : Int) (key label : String) (params : PresetParams)
    (flags : UserFlag → Bool) : Preset :=
  { id := newId, key := key, label := strip label, created := .str env.now
    updated := .str env.now, params := params, flags := flags }

/-- The list after a `create`. -/
def CreateMakes (env : Env) (label : String) (params flags : PyVal) (key : Option String) :
    Change Preset := fun presets n presets' n' =>
  ∃ p f finalKey, strip label ≠ "" ∧ RlPresets.canonicalParams params = .ok p ∧
    canonicalFlags flags = .ok f ∧
    uniqueKey (desiredKey label key) (presets.map (·.key)) = .ok finalKey ∧
    presets' = presets ++ [createdPreset env n finalKey label p f] ∧ n' = n + 1

/-- What each call makes of the presets and the counter. -/
def Call.Makes (env : Env) : Call → Change Preset
  | .create label params flags key => CreateMakes env label params flags key
  | .update key label params flags => fun presets n presets' n' =>
    ∃ preset newEntry, presets.find? (·.key == key) = some preset ∧
      updated env preset label params flags = .ok newEntry ∧
      presets' = replaceFirst key newEntry presets ∧ n' = n
  | .delete key => fun presets n presets' n' => presets' = presets.filter (·.key != key) ∧ n' = n
  | .duplicate key newLabel => fun presets n presets' n' =>
    ∃ src, presets.find? (·.key == key) = some src ∧
      CreateMakes env (copyLabel src newLabel) src.params.toPy (flagsToPy src.flags) none
        presets n presets' n'
  | .replaceAll entries => fun _ n presets' n' =>
    replaceEntries slugify (replacedPreset env) [] entries n = (.ok presets', n')
  | _ => fun _ _ _ _ => False

/-- The call comes to append a preset, and the write after that fails. -/
def Call.Lost (env : Env) : Call → Store → Prop
  | .create label params flags key, s =>
    env.diskOk = false ∧ CreateAccepted env label params flags key s
  | .duplicate key newLabel, s => env.diskOk = false ∧
      ∃ src, (RLPresetsService.get env key s).1 = .ok (some src) ∧
        CreateAccepted env (copyLabel src newLabel) src.params.toPy (flagsToPy src.flags) none s
  | _, _ => False

/-! ## 2. The methods -/

/-- `_write_atomic`, where the counter is known. -/
theorem writeAtomic_eq (env : Env) (ok : Bool) (presets : List Preset) {s : Store} {n : Int}
    (h : s.nextId = some n) :
    writeAtomic env ok presets s = if ok = true then
      (.ok (), { s with file := presetService.written env n presets }) else
      (.error .osError, s) := by
  obtain ⟨file, cache, nextId⟩ := s
  cases h
  rw [writeAtomic, Script.bind_of_ok (Script.get_run _)]
  split <;> rfl

/-- The end of a method that changes the list. -/
theorem saves_writeAtomic {α : Type} {env : Env} {presets : List Preset} {s : Store} {n : Int}
    (h : s.nextId = some n) {f : Unit → Script Store α}
    (hf : ∀ s, ∃ a, f () s = (.ok a, { s with cache := none })) :
    Saves presetService env s n presets ((writeAtomic env env.diskOk presets >>= f) s) := by
  obtain ⟨a, ha⟩ := hf { s with file := presetService.written env n presets }
  have hfails : env.diskOk = false → presetService.diskOk env = false := by
    intro hdisk
    show (env.diskOk && env.migrateOk) = false
    rw [hdisk, Bool.false_and]
  exact saves_bind (writeAtomic_eq env env.diskOk presets h) hfails ha rfl rfl

/-- Such a method raises when the disk fails, and only then. -/
theorem diskOk_of_error {α : Type} {env : Env} {presets : List Preset} {s s' : Store} {n : Int}
    (h : s.nextId = some n) {f : Unit → Script Store α}
    (hf : ∀ s, ∃ a, f () s = (.ok a, { s with cache := none }))
    (herror : ∃ e, (writeAtomic env env.diskOk presets >>= f) s = (.error e, s')) :
    env.diskOk = false := by
  obtain ⟨a, ha⟩ := hf { s with file := presetService.written env n presets }
  exact ok_of_error (writeAtomic_eq env env.diskOk presets h) ha herror

theorem does_getById {env : Env} {makes : Change Preset} {s : Store}
    (hseeded : presetService.Seeded s) (presetId : PyVal) :
    Does presetService env False makes s (getById env presetId s) := by
  unfold getById
  cases int presetId with
  | ok pid => exact does_look presetService_lawful hseeded rfl fun _ => .ok _
  | error e => cases e <;> exact .early fun _ => id

theorem does_update {env : Env} {s : Store} (hseeded : presetService.Seeded s) (key : String)
    (label : Option String) (params flags : PyVal) :
    Does presetService env False ((Call.update key label params flags).Makes env) s
      (update env key label params flags s) := by
  refine does_items presetService_lawful hseeded rfl (fun _ _ => id)
    fun presets s₁ n hitems hcache hnext => ?_
  cases hfind : presets.find? (·.key == key) with
  | none => exact does_raise hitems rfl hcache hnext hnext (le_refl n) id _
  | some preset =>
    simp only [Script.monadLift_eq]
    cases hupdated : updated env preset label params flags with
    | error e => exact does_raise hitems rfl hcache hnext hnext (le_refl n) id _
    | ok newEntry =>
      rw [Script.bind_of_ok (Script.lift_run _ _)]
      exact does_write hitems rfl hcache hnext hnext (le_refl n)
        ⟨preset, newEntry, hfind, hupdated, rfl, rfl⟩ (saves_writeAtomic hnext fun s => ⟨_, rfl⟩)

theorem does_delete {env : Env} {s : Store} (hseeded : presetService.Seeded s) (key : String) :
    Does presetService env False ((Call.delete key).Makes env) s (delete env key s) := by
  refine does_items presetService_lawful hseeded rfl (fun _ _ => id)
    fun presets s₁ n hitems hcache hnext => ?_
  by_cases hlength : (presets.filter (·.key != key)).length = presets.length
  · rw [if_pos hlength]
    exact does_raise hitems rfl hcache hnext hnext (le_refl n) id _
  · rw [if_neg hlength]
    exact does_write hitems rfl hcache hnext hnext (le_refl n) ⟨rfl, rfl⟩
      (saves_writeAtomic hnext fun s => ⟨_, rfl⟩)

/-- The entries of a bulk replacement are new. -/
theorem replacedPreset_name {env : Env} {newId : Int} {key : String} {entry : Dict} {x : Preset}
    (h : replacedPreset env newId key entry = .ok x) : presetService.name x = (newId, key) := by
  obtain ⟨label, -, h⟩ := bind_eq_ok.mp h
  obtain ⟨params, -, h⟩ := bind_eq_ok.mp h
  obtain ⟨flags, -, h⟩ := bind_eq_ok.mp h
  cases h
  rfl

/-- What the loop of `replace_all` does to the counter, and what it builds. -/
theorem replacePresets_spec (env : Env) (entries : List PyVal) (n : Int) :
    n ≤ (replaceEntries slugify (replacedPreset env) [] entries n).2 ∧
      ∀ presets, (replaceEntries slugify (replacedPreset env) [] entries n).1 = .ok presets →
        Claimed presetService.name [] n
          (replaceEntries slugify (replacedPreset env) [] entries n).2 presets :=
  replaceEntries_spec replacedPreset_name entries [] n

theorem does_replaceAll {env : Env} {s : Store} (hseeded : presetService.Seeded s)
    (entries : List PyVal) :
    Does presetService env False ((Call.replaceAll entries).Makes env) s
      (replaceAll env entries s) := by
  refine does_items presetService_lawful hseeded rfl (fun _ _ => id)
    fun presets s₁ n hitems hcache hnext => ?_
  have hcounter : s₁.nextId = some n := hnext
  rw [Script.bind_of_ok (Script.get_run s₁), hcounter]
  have hle := (replacePresets_spec env entries n).1
  simp only [Option.getD_some]
  rcases hrun : replaceEntries slugify (replacedPreset env) [] entries n with ⟨e | canonical, m⟩
  · rw [hrun] at hle
    refine does_raise hitems ?_ ?_ hnext ?_ hle id _
    · rfl
    · exact hcache
    · rfl
  · rw [hrun] at hle
    rw [Script.bind_of_ok (Script.modify_run _ _)]
    simp only [Script.monadLift_eq]
    rw [Script.bind_of_ok (Script.lift_run _ _)]
    refine does_write hitems ?_ ?_ hnext ?_ hle ?_ (saves_writeAtomic ?_ fun s => ⟨(), rfl⟩)
    · rfl
    · exact hcache
    · rfl
    · exact hrun
    · rfl

/-- **Creating** a preset loses it exactly when the checks pass and the write fails. -/
theorem does_create {env : Env} {s : Store} (hseeded : presetService.Seeded s) (label : String)
    (params flags : PyVal) (key : Option String) :
    Does presetService env (env.diskOk = false ∧ CreateAccepted env label params flags key s)
      (CreateMakes env label params flags key) s (create env label params flags key s) := by
  unfold create
  simp only [Script.monadLift_eq]
  by_cases hlabel : strip label = ""
  · rw [raiseIf, if_pos hlabel]
    exact .early fun _ hlost => hlost.2.1 hlabel
  rw [raiseIf_of_not hlabel, Script.bind_of_ok (Script.lift_run _ _)]
  refine does_items presetService_lawful hseeded rfl (fun e he hlost => ?_)
    fun presets s₁ n hitems hcache hnext => ?_
  · obtain ⟨-, -, ⟨presets, hok, -⟩, -⟩ := hlost
    have herror : (items env s).1 = .error e := he
    rw [herror] at hok
    cases hok
  have hcounter : s₁.nextId = some n := hnext
  have hread : items env s = (.ok presets, s₁) := hitems
  cases hkey : uniqueKey (slugify (if key.getD "" = "" then strip label else key.getD ""))
      (presets.map (·.key)) with
  | error e =>
    refine does_raise hitems rfl hcache hnext hnext (le_refl n) (fun hlost => ?_) _
    obtain ⟨-, -, ⟨presets', hok, finalKey, hfinal⟩, -⟩ := hlost
    rw [hread] at hok
    cases hok
    rw [desiredKey, hkey] at hfinal
    cases hfinal
  | ok finalKey =>
    rw [Script.bind_of_ok (Script.lift_run _ _), Script.bind_of_ok (Script.get_run s₁),
      Script.bind_of_ok (Script.modify_run _ _), hcounter]
    -- from here the id is used up
    have hle : n ≤ n + 1 := by omega
    cases hparams : RlPresets.canonicalParams params with
    | error e =>
      refine does_raise hitems ?_ ?_ hnext ?_ hle (fun hlost => ?_) _
      · rfl
      · exact hcache
      · rfl
      · obtain ⟨-, -, -, ⟨p, hok⟩, -⟩ := hlost
        rw [hparams] at hok
        cases hok
    | ok p =>
      rw [Script.bind_of_ok (Script.lift_run _ _)]
      cases hflags : canonicalFlags flags with
      | error e =>
        refine does_raise hitems ?_ ?_ hnext ?_ hle (fun hlost => ?_) _
        · rfl
        · exact hcache
        · rfl
        · obtain ⟨-, -, -, -, f, hok⟩ := hlost
          rw [hflags] at hok
          cases hok
      | ok f =>
        rw [Script.bind_of_ok (Script.lift_run _ _), Script.bind_of_ok (Script.modify_run _ _)]
        have hmakes : CreateMakes env label params flags key presets n
            (presets ++ [createdPreset env n finalKey label p f]) (n + 1) :=
          ⟨p, f, finalKey, hlabel, hparams, hflags, hkey, rfl, rfl⟩
        refine does_append hitems hnext ?_ ?_ ?_ hmakes (fun hfail => ?_)
          (saves_writeAtomic ?_ fun s => ⟨_, rfl⟩)
        · rfl
        · rfl
        · rfl
        · refine ⟨diskOk_of_error (n := n + 1) ?_ ?_ hfail, hlabel,
            ⟨presets, by rw [hread], finalKey, hkey⟩, ⟨p, hparams⟩, f, hflags⟩
          · rfl
          · exact fun s => ⟨_, rfl⟩
        · rfl

/-- **Duplicating** one loses the copy under the condition of its `create`. -/
theorem does_duplicate {env : Env} {s : Store} (hseeded : presetService.Seeded s) (key : String)
    (newLabel : Option String) :
    Does presetService env ((Call.duplicate key newLabel).Lost env s)
      ((Call.duplicate key newLabel).Makes env) s (duplicate env key newLabel s) := by
  rcases hitems : items env s with ⟨e | presets, s₁⟩
  · have hget : get env key s = (.error e, s₁) := by rw [get, Script.bind_run, hitems]
    rw [duplicate, Script.bind_run, hget]
    refine .unread (fun hlost => ?_) hitems
    obtain ⟨-, src, hsrc, -⟩ := hlost
    rw [hget] at hsrc
    cases hsrc
  · obtain ⟨hcache, n, hnext⟩ := presetService_lawful.items_seeded hseeded hitems
    have hget : get env key s = (.ok (presets.find? (·.key == key)), s₁) := by
      rw [get, Script.bind_of_ok hitems]
      rfl
    rw [duplicate, Script.bind_of_ok hget]
    cases hfind : presets.find? (·.key == key) with
    | none =>
      refine does_raise hitems rfl hcache hnext hnext (le_refl n) (fun hlost => ?_) _
      obtain ⟨-, src, hsrc, -⟩ := hlost
      rw [hget, hfind] at hsrc
      cases hsrc
    | some src =>
      -- what `create` does from here, it does for the caller of `duplicate`
      have hcreate := @does_create env s₁ (fun _ _ => ⟨n, hnext⟩) (copyLabel src newLabel)
        src.params.toPy (flagsToPy src.flags) none
      have hlost : (Call.duplicate key newLabel).Lost env s ↔ env.diskOk = false ∧
          CreateAccepted env (copyLabel src newLabel) src.params.toPy (flagsToPy src.flags) none
            s₁ := by
        simp only [Call.Lost, CreateAccepted, hget, hfind, hitems, items_cached env hcache,
          Except.ok.injEq, Option.some.injEq, exists_eq_left']
      rw [propext hlost]
      refine Does.map some (hcreate.after_items presetService_lawful hitems hcache hnext ?_)
      exact fun h => ⟨src, hfind, h⟩

/-! ## 3. All calls -/

/-- **Every call** has one of the outcomes. -/
theorem call_outcome {env : Env} {s : Store} (hseeded : presetService.Seeded s) {c : Call}
    (hc : c ≠ .restart) :
    Does presetService env (c.Lost env s) (c.Makes env) s (c.perform env s) := by
  cases c with
  | list => exact .map _ (does_read presetService_lawful hseeded)
  | get key => exact .map _ (does_look presetService_lawful hseeded rfl fun _ => .ok _)
  | getById presetId => exact .map _ (does_getById hseeded presetId)
  | create label params flags key => exact .map _ (does_create hseeded label params flags key)
  | update key label params flags => exact .map _ (does_update hseeded key label params flags)
  | delete key => exact .map _ (does_delete hseeded key)
  | duplicate key newLabel => exact .map _ (does_duplicate hseeded key newLabel)
  | replaceAll entries => exact does_replaceAll hseeded entries
  | restart => exact absurd rfl hc

/-! ## 4. What becomes of the names -/

theorem map_name_replaceFirst {key : String} {newEntry preset : Preset}
    (hname : newEntry.id = preset.id ∧ newEntry.key = preset.key) {presets : List Preset}
    (h : presets.find? (·.key == key) = some preset) :
    (replaceFirst key newEntry presets).map (fun p => (p.id, p.key))
      = presets.map fun p => (p.id, p.key) := by
  induction presets with
  | nil => rfl
  | cons x rest ih =>
    rw [replaceFirst]
    by_cases hx : x.key = key
    · rw [if_pos hx, List.map_cons, List.map_cons, hname.1, hname.2]
      rw [List.find?_cons_of_pos (by simpa using hx)] at h
      cases h
      rfl
    · rw [if_neg hx, List.map_cons, List.map_cons]
      rw [List.find?_cons_of_neg (by simpa using hx)] at h
      rw [ih h]

/-- An update keeps the id and the key. -/
theorem updated_name {env : Env} {preset newEntry : Preset} {label : Option String}
    {params flags : PyVal} (h : updated env preset label params flags = .ok newEntry) :
    newEntry.id = preset.id ∧ newEntry.key = preset.key := by
  obtain ⟨label, -, h⟩ := bind_eq_ok.mp h
  obtain ⟨params, -, h⟩ := bind_eq_ok.mp h
  obtain ⟨flags, -, h⟩ := bind_eq_ok.mp h
  cases h
  exact ⟨rfl, rfl⟩

theorem createMakes_orderly (env : Env) (label : String) (params flags : PyVal)
    (key : Option String) : presetService.Orderly (CreateMakes env label params flags key) := by
  rintro presets n _ _ ⟨p, f, finalKey, -, -, -, hkey, rfl, rfl⟩ hsound
  refine follows_of_append ?_ (uniqueKey_not_mem hkey) hsound
  rfl

/-- **Every call** keeps the names in order. -/
theorem makes_orderly (env : Env) (c : Call) : presetService.Orderly (c.Makes env) := by
  intro presets n presets' n' hmakes hsound
  cases c with
  | create label params flags key => exact createMakes_orderly _ _ _ _ _ hmakes hsound
  | update key label params flags =>
    obtain ⟨preset, newEntry, hfind, hupdated, rfl, rfl⟩ := hmakes
    exact follows_of_map_name (map_name_replaceFirst (updated_name hupdated) hfind) hsound
  | delete key =>
    obtain ⟨rfl, rfl⟩ := hmakes
    exact Ledger.Follows.remove hsound (List.filter_sublist.map _)
  | duplicate key newLabel =>
    obtain ⟨src, -, hmakes⟩ := hmakes
    exact createMakes_orderly _ _ _ _ _ hmakes hsound
  | replaceAll entries =>
    obtain ⟨hle, hclaimed⟩ := replacePresets_spec env entries n
    have hrun : replaceEntries slugify (replacedPreset env) [] entries n = (.ok presets', n') :=
      hmakes
    rw [hrun] at hle hclaimed
    exact follows_of_claimed (hclaimed presets' rfl) hle
  | _ => exact absurd hmakes id

end RaceLink.RLPresetsService
