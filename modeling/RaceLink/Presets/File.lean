/-
# The preset file

What `_load` makes of a file, and of a file `_write_atomic` wrote.

A load that migrates writes the presets it has read; the next load reads the same presets from
that file (`readPresets_migrated`).  This takes a file that holds a JSON document.  With that, the
preset service is a cache over its file as the scene service is (`presetService_lawful`).
-/
import RaceLink.Presets.Service

namespace RaceLink.RLPresetsService

open Python RlPresets CachedFile

/-! ## 1. What a load gives -/

/-- What `_load` reads from a file: the presets, the counter it sets, and whether it migrates. -/
def readPresets (now : String) : File → Except PyErr (List Preset × Int × Bool)
  | .doc (.dict data) => do
    let schema ← int ((Dict.getD data "schema_version" (.int 0)).or (.int 0))
    match Dict.get data "presets" with
    | .list rawPresets => do
      let (presets, used) ← loadPresets now [] 0 rawPresets
      pure (presets, loadedNextId (Dict.get data "next_id") used, decide (schema < schemaVersion))
    | _ => pure ([], 0, false)
  | _ => pure ([], 0, false)

/-- The file after a load. -/
def migratedFile (env : Env) (file : File) (presets : List Preset) (n : Int) (migrates : Bool) :
    File :=
  if migrates then .doc (jsonRoundTrip env.floatText (payload n presets)) else file

/-- A load depends on the file; it sets the counter and may migrate. -/
theorem load_eq (env : Env) (s : Store) :
    load env s = match readPresets env.now s.file with
      | .ok (presets, n, migrates) =>
        if migrates = true ∧ env.migrateOk = false then
          (.error .osError, { s with nextId := some n })
        else
          (.ok presets,
            { s with nextId := some n, file := migratedFile env s.file presets n migrates })
      | .error e => (.error e, s) := by
  obtain ⟨file, cache, nextId⟩ := s
  cases file with
  | absent => rfl
  | unreadable => rfl
  | doc v =>
    cases v with
    | dict data =>
      rw [load, Script.bind_of_ok (Script.get_run _), readPresets]
      simp only [Script.monadLift_eq]
      cases int ((Dict.getD data "schema_version" (.int 0)).or (.int 0)) with
      | error e => rfl
      | ok schema =>
        rw [Script.bind_of_ok (Script.lift_run _ _), ok_bind]
        cases Dict.get data "presets" with
        | list rawPresets =>
          cases hpresets : loadPresets env.now [] 0 rawPresets with
          | error e => simp only [hpresets]; rfl
          | ok result =>
            obtain ⟨presets, used⟩ := result
            simp only [hpresets]
            by_cases hold : schema < schemaVersion
            · cases env.migrateOk <;> simp [Script.bind_run, writeAtomic, hold, migratedFile]
            · simp [Script.bind_run, hold, migratedFile]
        | _ => rfl
    | _ => rfl

/-- The ids and keys a load gives are those the file says. -/
theorem loadPresets_names {now : String} {raws : List PyVal} {used used' : List Int} {index : Int}
    {presets : List Preset} (h : loadPresets now used index raws = .ok (presets, used')) :
    assignIds used index raws = .ok (presets.map fun p => (p.id, p.key), used') := by
  induction raws generalizing used index presets with
  | nil =>
    cases h
    rfl
  | cons raw raws ih =>
    cases raw with
    | dict entry =>
      rw [assignIds]
      split
      · next key label hkey hlabel =>
        rw [loadPresets, hkey, hlabel] at h
        obtain ⟨rawId, hid, h⟩ := bind_eq_ok.mp h
        obtain ⟨params, -, h⟩ := bind_eq_ok.mp h
        obtain ⟨flags, -, h⟩ := bind_eq_ok.mp h
        obtain ⟨⟨rest, used''⟩, hrest, h⟩ := bind_eq_ok.mp h
        cases h
        simp only [hid, ok_bind, ih hrest]
        rfl
      · next hno =>
        rw [loadPresets] at h
        split at h
        · next key label hkey hlabel => exact absurd hlabel (hno key label hkey)
        · exact ih h
    | _ => exact ih h

/-- The book of a file that can be read. -/
theorem readPresets_book {now : String} {file : File} {presets : List Preset} {n : Int}
    {migrates : Bool} (h : readPresets now file = .ok (presets, n, migrates)) :
    fileBook "presets" file = some ⟨presets.map fun p => (p.id, p.key), n⟩ := by
  cases file with
  | absent => cases h; rfl
  | unreadable => cases h; rfl
  | doc v =>
    cases v with
    | dict data =>
      obtain ⟨schema, -, h⟩ := bind_eq_ok.mp h
      rw [fileBook]
      cases hraws : Dict.get data "presets" with
      | list raws =>
        rw [hraws] at h
        obtain ⟨⟨presets', used⟩, hpresets, h⟩ := bind_eq_ok.mp h
        cases h
        simp only [loadPresets_names hpresets]
      | _ =>
        rw [hraws] at h
        cases h
        rfl
    | _ => cases h; rfl

/-! ## 2. Reading what was written -/

section

variable (floatText : PyFloat → String)

theorem isJson_byteVal (v : Option UInt8) : isJson (byteVal v) = true := by cases v <;> rfl

theorem isJson_boolVal (v : Option Bool) : isJson (boolVal v) = true := by cases v <;> rfl

theorem isJson_colorVal (v : Option Rgb) : isJson (colorVal v) = true := by cases v <;> rfl

theorem isJson_params (p : PresetParams) : isJson p.toPy = true := by
  refine isJson_strDict (by simp [PresetParams.entries]) ?_
  simp [PresetParams.entries, isJson_byteVal, isJson_boolVal, isJson_colorVal]

theorem isJson_flags (flags : UserFlag → Bool) : isJson (flagsToPy flags) = true := by
  have hkeys : (flagEntries flags).map (·.1) = UserFlag.all.map UserFlag.key := rfl
  refine isJson_strDict (by rw [hkeys]; decide) ?_
  intro e he
  obtain ⟨k, -, rfl⟩ := List.mem_map.mp he
  rfl

/-- A preset's dictionary as it stands in the file. -/
theorem jsonRoundTrip_preset (p : Preset) : ∃ d : Dict,
    jsonRoundTrip floatText p.toPy = .dict d ∧ Dict.get d "id" = .int p.id ∧
      Dict.get d "key" = .str p.key ∧ Dict.get d "label" = .str p.label ∧
      Dict.get d "created" = jsonRoundTrip floatText p.created ∧
      Dict.get d "updated" = jsonRoundTrip floatText p.updated ∧
      Dict.get d "params" = p.params.toPy ∧ Dict.get d "flags" = flagsToPy p.flags := by
  obtain ⟨id, key, label, created, updated, params, flags⟩ := p
  have hparams := jsonRoundTrip_eq_self floatText _ (isJson_params params)
  have hflags := jsonRoundTrip_eq_self floatText _ (isJson_flags flags)
  rw [Preset.toPy, jsonRoundTrip_strDict floatText (by simp)]
  simp only [List.map_cons, List.map_nil, hparams, hflags]
  exact ⟨_, rfl, rfl, rfl, rfl, rfl, rfl, rfl, rfl⟩

/-- What a load at `now` makes of a written preset, up to the id. -/
def ReadBack (now : String) (p p' : Preset) : Prop :=
  p'.key = p.key ∧ p'.label = p.label ∧ p'.params = p.params ∧ p'.flags = p.flags ∧
    p'.created = (jsonRoundTrip floatText p.created).or (.str now) ∧
    p'.updated = ((jsonRoundTrip floatText p.updated).or
      (jsonRoundTrip floatText p.created)).or (.str now)

theorem loadPresets_written (now : String) (written : List Preset) (used : List Int) (index : Int) :
    ∃ presets used',
      loadPresets now used index ((written.map (·.toPy)).map (jsonRoundTrip floatText))
        = .ok (presets, used') ∧ List.Forall₂ (ReadBack floatText now) written presets := by
  induction written generalizing used index with
  | nil => exact ⟨[], used, rfl, .nil⟩
  | cons p written ih =>
    obtain ⟨d, hd, hid, hkey, hlabel, hcreated, hupdated, hparams, hflags⟩ :=
      jsonRoundTrip_preset floatText p
    obtain ⟨presets, used', hrest, hall⟩ := ih (skipUsed used used.length p.id :: used) (index + 1)
    rw [List.map_cons, List.map_cons, hd, loadPresets]
    simp only [hkey, hlabel, requestedId, hid, intCatch_int, hparams, hflags, canonicalParams_toPy,
      canonicalFlags_toPy, hrest, ok_bind, pure_eq_ok]
    refine ⟨_, _, rfl, .cons ⟨rfl, rfl, rfl, rfl, ?_, ?_⟩ hall⟩
    · simp only [hcreated]
    · simp only [hcreated, hupdated]

/-- The document of a write, entry by entry. -/
theorem payload_doc (n : Int) (presets : List Preset) :
    ∃ d : Dict, jsonRoundTrip floatText (payload n presets) = .dict d ∧
      Dict.getD d "schema_version" (.int 0) = .int schemaVersion ∧ Dict.get d "next_id" = .int n ∧
      Dict.get d "presets" = .list ((presets.map (·.toPy)).map (jsonRoundTrip floatText)) := by
  rw [payload, jsonRoundTrip_strDict floatText (by simp)]
  exact ⟨_, rfl, by simp [Dict.getD, jsonRoundTrip], by simp [Dict.get, jsonRoundTrip],
    by simp [Dict.get, jsonRoundTrip_list]⟩

/-- **A written file loads**, preset by preset, and is not migrated again. -/
theorem readPresets_written (now : String) (n : Int) (written : List Preset) :
    ∃ presets m, readPresets now (.doc (jsonRoundTrip floatText (payload n written)))
        = .ok (presets, m, false) ∧ List.Forall₂ (ReadBack floatText now) written presets := by
  obtain ⟨d, hd, hschema, hnext, hraws⟩ := payload_doc floatText n written
  obtain ⟨presets, used, hpresets, hall⟩ := loadPresets_written floatText now written [] 0
  have hint : int ((PyVal.int schemaVersion).or (.int 0)) = .ok schemaVersion := rfl
  refine ⟨presets, loadedNextId (.int n) used, ?_, hall⟩
  rw [hd, readPresets, hschema, hint, ok_bind, hraws]
  simp only [hpresets, ok_bind, hnext, lt_irrefl, decide_false, pure_eq_ok]

/-- The written entries are named as the presets are. -/
theorem namedEntries_written (presets : List Preset) :
    List.Forall₂ NamedEntry ((presets.map (·.toPy)).map (jsonRoundTrip floatText))
      (presets.map fun p => (p.id, p.key)) := by
  induction presets with
  | nil => exact .nil
  | cons p presets ih =>
    obtain ⟨d, hd, hid, hkey, hlabel, -⟩ := jsonRoundTrip_preset floatText p
    exact .cons ⟨d, p.label, hd, hid, hkey, hlabel⟩ ih

/-- The book of a written file, if the ids are different. -/
theorem fileBook_written (n : Int) {presets : List Preset} (hids : (presets.map (·.id)).Nodup) :
    ∃ used, (∀ i, i ∈ used ↔ i ∈ presets.map (·.id)) ∧
      fileBook "presets" (.doc (jsonRoundTrip floatText (payload n presets)))
        = some ⟨presets.map fun p => (p.id, p.key), loadedNextId (.int n) used⟩ := by
  obtain ⟨d, hd, -, hnext, hraws⟩ := payload_doc floatText n presets
  have hmap : (presets.map fun p => (p.id, p.key)).map (·.1) = presets.map (·.id) := by
    rw [List.map_map]
    rfl
  have hnew : ∀ i ∈ (presets.map fun p => (p.id, p.key)).map (·.1), i ∉ ([] : List Int) :=
    fun _ _ hmem => nomatch hmem
  obtain ⟨used, hnames⟩ := assignIds_written (namedEntries_written floatText presets)
    (hmap.symm ▸ hids) hnew 0
  obtain ⟨-, -, hused⟩ := assignIds_ids hnames
  refine ⟨used, fun i => ?_, ?_⟩
  · rw [hused, hmap]
    simp
  · rw [hd, fileBook, hraws]
    simp only [hnames, hnext]

end

/-! ## 3. Reading what was loaded -/

/-- The dates are JSON, and a load at `now` keeps them. -/
structure Stamped (now : String) (p : Preset) : Prop where
  created_json : isJson p.created = true
  updated_json : isJson p.updated = true
  created : p.created.or (.str now) = p.created
  updated : (p.updated.or p.created).or (.str now) = p.updated

theorem or_or_self (v w : PyVal) : (v.or w).or w = v.or w := by
  unfold PyVal.or
  split <;> simp_all

/-- The dates of a loaded preset. -/
theorem stamped_loaded {now : String} {entry : Dict} (h : isJson (.dict entry) = true) {p : Preset}
    (hcreated : p.created = (Dict.get entry "created").or (.str now))
    (hupdated : p.updated = ((Dict.get entry "updated").or (Dict.get entry "created")).or
      (.str now)) : Stamped now p where
  created_json := by
    rw [hcreated]
    exact isJson_or (isJson_get h _) rfl
  updated_json := by
    rw [hupdated]
    exact isJson_or (isJson_or (isJson_get h _) (isJson_get h _)) rfl
  created := by
    rw [hcreated]
    exact or_or_self _ _
  updated := by
    rw [hupdated, hcreated]
    generalize Dict.get entry "updated" = u
    generalize Dict.get entry "created" = c
    unfold PyVal.or
    by_cases hu : u.truthy = true
    · simp [hu]
    · by_cases hc : c.truthy = true
      · simp [hu, hc]
      · by_cases hn : (PyVal.str now).truthy = true
        · simp [hu, hc, hn]
        · simp [hu, hc, hn]

theorem loadPresets_stamped {now : String} {raws : List PyVal} (h : ∀ raw ∈ raws, isJson raw = true)
    {used used' : List Int} {index : Int} {presets : List Preset}
    (hload : loadPresets now used index raws = .ok (presets, used')) :
    ∀ p ∈ presets, Stamped now p := by
  induction raws generalizing used index presets with
  | nil =>
    cases hload
    simp
  | cons raw raws ih =>
    obtain ⟨hraw, hraws⟩ := List.forall_mem_cons.mp h
    cases raw with
    | dict entry =>
      rw [loadPresets] at hload
      split at hload
      · obtain ⟨rawId, -, hload⟩ := bind_eq_ok.mp hload
        obtain ⟨params, -, hload⟩ := bind_eq_ok.mp hload
        obtain ⟨flags, -, hload⟩ := bind_eq_ok.mp hload
        obtain ⟨⟨rest, used''⟩, hrest, hload⟩ := bind_eq_ok.mp hload
        cases hload
        exact List.forall_mem_cons.mpr ⟨stamped_loaded hraw rfl rfl, ih hraws hrest⟩
      · exact ih hraws hload
    | _ => exact ih hraws hload

/-- The file is absent, unreadable, or a JSON document. -/
def ParsedFile : File → Prop
  | .doc v => isJson v = true
  | _ => True

theorem readPresets_stamped {now : String} {file : File} (h : ParsedFile file)
    {presets : List Preset} {n : Int} {migrates : Bool}
    (hread : readPresets now file = .ok (presets, n, migrates)) : ∀ p ∈ presets, Stamped now p := by
  cases file with
  | absent => cases hread; simp
  | unreadable => cases hread; simp
  | doc v =>
    cases v with
    | dict data =>
      obtain ⟨schema, -, hread⟩ := bind_eq_ok.mp hread
      cases hraws : Dict.get data "presets" with
      | list raws =>
        rw [hraws] at hread
        obtain ⟨⟨presets', used⟩, hpresets, hread⟩ := bind_eq_ok.mp hread
        cases hread
        have hlist : isJson (.list raws) = true := hraws ▸ isJson_get h "presets"
        exact loadPresets_stamped ((isJson_list raws).mp hlist) hpresets
      | _ =>
        rw [hraws] at hread
        cases hread
        simp
    | _ => cases hread; simp

/-- A loaded preset is read back as it is. -/
theorem readBack_eq {floatText : PyFloat → String} {now : String} {p p' : Preset}
    (h : Stamped now p) (hread : ReadBack floatText now p p') (hid : p'.id = p.id) : p' = p := by
  obtain ⟨hkey, hlabel, hparams, hflags, hcreated, hupdated⟩ := hread
  rw [jsonRoundTrip_eq_self floatText _ h.created_json, h.created] at hcreated
  rw [jsonRoundTrip_eq_self floatText _ h.updated_json,
    jsonRoundTrip_eq_self floatText _ h.created_json, h.updated] at hupdated
  obtain ⟨id, key, label, created, updated, params, flags⟩ := p
  obtain ⟨id', key', label', created', updated', params', flags'⟩ := p'
  simp_all

theorem readBacks_eq {floatText : PyFloat → String} {now : String} {presets presets' : List Preset}
    (hstamped : ∀ p ∈ presets, Stamped now p)
    (hread : List.Forall₂ (ReadBack floatText now) presets presets')
    (hids : presets'.map (·.id) = presets.map (·.id)) : presets' = presets := by
  induction hread with
  | nil => rfl
  | cons hp _ ih =>
    obtain ⟨hstamp, hstamps⟩ := List.forall_mem_cons.mp hstamped
    rw [List.map_cons, List.map_cons, List.cons.injEq] at hids
    rw [readBack_eq hstamp hp hids.1, ih hstamps hids.2]

/-- The counter a load sets is what the next load of the same ids sets. -/
theorem readPresets_counter {now : String} {file : File} {presets : List Preset} {n : Int}
    {migrates : Bool} (h : readPresets now file = .ok (presets, n, migrates)) {used : List Int}
    (hused : ∀ i, i ∈ used ↔ i ∈ presets.map (·.id)) : loadedNextId (.int n) used = n := by
  have hempty : presets = [] → n = 0 → loadedNextId (.int n) used = n := by
    rintro rfl rfl
    have hnil : used = [] := List.eq_nil_iff_forall_not_mem.mpr fun i hi => by
      simpa using (hused i).mp hi
    rw [hnil]
    rfl
  cases file with
  | absent => cases h; exact hempty rfl rfl
  | unreadable => cases h; exact hempty rfl rfl
  | doc v =>
    cases v with
    | dict data =>
      obtain ⟨schema, -, h⟩ := bind_eq_ok.mp h
      cases hraws : Dict.get data "presets" with
      | list raws =>
        rw [hraws] at h
        obtain ⟨⟨presets', used'⟩, hpresets, h⟩ := bind_eq_ok.mp h
        cases h
        obtain ⟨-, -, hused'⟩ := assignIds_ids (loadPresets_names hpresets)
        refine loadedNextId_again _ fun i => ?_
        rw [hused, hused', List.map_map]
        simp [Function.comp_def]
      | _ =>
        rw [hraws] at h
        cases h
        exact hempty rfl rfl
    | _ => cases h; exact hempty rfl rfl

/-- **A migrated file** is read as the old one was. -/
theorem readPresets_migrated (floatText : PyFloat → String) {now : String} {file : File}
    (hparsed : ParsedFile file) {presets : List Preset} {n : Int} {migrates : Bool}
    (h : readPresets now file = .ok (presets, n, migrates)) :
    readPresets now (.doc (jsonRoundTrip floatText (payload n presets)))
      = .ok (presets, n, false) := by
  have hids : (presets.map (·.id)).Nodup := by
    have hbook := (fileBook_ids (readPresets_book h)).1
    rw [List.map_map] at hbook
    exact hbook
  obtain ⟨presets', m, hread, hall⟩ := readPresets_written floatText now n presets
  obtain ⟨used, hused, hbook⟩ := fileBook_written floatText n hids
  rw [readPresets_book hread, readPresets_counter h hused] at hbook
  injection hbook with hbook
  injection hbook with hnames hnext
  have hsame : presets'.map (·.id) = presets.map (·.id) := by
    have hfst := congrArg (List.map (·.1)) hnames
    rw [List.map_map, List.map_map] at hfst
    exact hfst
  rw [hread, readBacks_eq (readPresets_stamped hparsed h) hall hsame, hnext]

/-! ## 4. The cache and its file -/

/-- `_items` on a cached list. -/
theorem items_cached (env : Env) {s : Store} {presets : List Preset} (h : s.cache = some presets) :
    items env s = (.ok presets, s) := by
  rw [items, Script.bind_of_ok (Script.get_run s), h]
  rfl

/-- `_items` without one. -/
theorem items_uncached (env : Env) {s : Store} (h : s.cache = none) :
    items env s = match readPresets env.now s.file with
      | .ok (presets, n, migrates) =>
        if migrates = true ∧ env.migrateOk = false then
          (.error .osError, { s with nextId := some n })
        else
          (.ok presets, { file := migratedFile env s.file presets n migrates
                          cache := some presets, nextId := some n })
      | .error e => (.error e, s) := by
  rw [items, Script.bind_of_ok (Script.get_run s), h]
  simp only
  rw [Script.bind_run, load_eq]
  cases readPresets env.now s.file with
  | error e => rfl
  | ok result =>
    obtain ⟨presets, n, migrates⟩ := result
    by_cases hfail : migrates = true ∧ env.migrateOk = false
    · simp only [if_pos hfail, h]
    · simp only [if_neg hfail]
      rfl

/-- What a first look comes to: the file cannot be read, or cannot be migrated, and nothing is
kept; or its presets are. -/
theorem items_uncached_cases (env : Env) {s : Store} (h : s.cache = none) :
    (∃ e s', items env s = (.error e, s') ∧ s'.file = s.file ∧ s'.cache = none) ∨
    ∃ presets n migrates, readPresets env.now s.file = .ok (presets, n, migrates) ∧
      items env s = (.ok presets, { file := migratedFile env s.file presets n migrates
                                    cache := some presets, nextId := some n }) := by
  rw [items_uncached env h]
  cases readPresets env.now s.file with
  | error e => exact Or.inl ⟨e, s, rfl, rfl, h⟩
  | ok result =>
    obtain ⟨presets, n, migrates⟩ := result
    by_cases hfail : migrates = true ∧ env.migrateOk = false
    · simp only [if_pos hfail]
      exact Or.inl ⟨.osError, { s with nextId := some n }, rfl, rfl, h⟩
    · simp only [if_neg hfail]
      exact Or.inr ⟨presets, n, migrates, rfl, rfl⟩

theorem items_uncached_ok {env : Env} {s s' : Store} {presets : List Preset} (h : s.cache = none)
    (hitems : items env s = (.ok presets, s')) :
    ∃ n migrates, readPresets env.now s.file = .ok (presets, n, migrates) ∧
      s' = { file := migratedFile env s.file presets n migrates
             cache := some presets, nextId := some n } := by
  rcases items_uncached_cases env h with ⟨e, s'', herror, -⟩ | ⟨presets', n, migrates, hread, hok⟩
  · cases herror.symm.trans hitems
  · cases hok.symm.trans hitems
    exact ⟨n, migrates, hread, rfl⟩

theorem items_uncached_error {env : Env} {s s' : Store} {e : PyErr} (h : s.cache = none)
    (hitems : items env s = (.error e, s')) : s'.file = s.file ∧ s'.cache = none := by
  rcases items_uncached_cases env h with ⟨e', s'', herror, hkept⟩ | ⟨presets, n, migrates, -, hok⟩
  · cases herror.symm.trans hitems
    exact hkept
  · cases hok.symm.trans hitems

/-- The preset service as a cache over its file. -/
def presetService : Service Store File Preset PyErr Env where
  file := Store.file
  cache := Store.cache
  next := Store.nextId
  start := fresh
  items := items
  written env n presets := .doc (jsonRoundTrip env.floatText (payload n presets))
  diskOk env := env.diskOk && env.migrateOk
  name p := (p.id, p.key)
  book := fileBook "presets"
  Readable file := ∀ now, ∃ result, readPresets now file = .ok result
  Parsed := ParsedFile

/-- What a load leaves in the file is what it has read. -/
theorem migratedFile_read (env : Env) {file : File} (hparsed : ParsedFile file)
    {presets : List Preset} {n : Int} {migrates : Bool}
    (h : readPresets env.now file = .ok (presets, n, migrates)) :
    ParsedFile (migratedFile env file presets n migrates) ∧
      (items env (fresh (migratedFile env file presets n migrates))).1 = .ok presets := by
  have hnone : ∀ file, (fresh file).cache = none := fun _ => rfl
  cases migrates with
  | true =>
    refine ⟨isJson_jsonRoundTrip _ _, ?_⟩
    have hread := readPresets_migrated env.floatText hparsed h
    rw [items_uncached env (hnone _)]
    simp only [fresh, migratedFile, if_true, hread, Bool.false_eq_true, false_and, if_false]
  | false =>
    refine ⟨hparsed, ?_⟩
    rw [items_uncached env (hnone _)]
    simp only [fresh, migratedFile, Bool.false_eq_true, if_false, h, false_and]

/-- A load leaves the book as it is. -/
theorem migratedFile_book (env : Env) {file : File} {presets : List Preset} {n : Int}
    {migrates : Bool} (h : readPresets env.now file = .ok (presets, n, migrates)) :
    fileBook "presets" (migratedFile env file presets n migrates)
      = some ⟨presets.map fun p => (p.id, p.key), n⟩ := by
  have hbook := readPresets_book h
  cases migrates with
  | false => exact hbook
  | true =>
    have hids := (fileBook_ids hbook).1
    rw [List.map_map] at hids
    obtain ⟨used, hused, hwritten⟩ := fileBook_written env.floatText n hids
    rw [readPresets_counter h hused] at hwritten
    exact hwritten

/-- **Reading and writing** fit together. -/
theorem presetService_lawful : presetService.Lawful where
  file_start _ := rfl
  cache_start _ := rfl
  cached env h := items_cached env h
  uncached {s} env h := by
    have hfresh : (fresh s.file).cache = none := rfl
    show (items env s).1 = (items env (fresh s.file)).1
    rw [items_uncached env h, items_uncached env hfresh]
    have hfile : (fresh s.file).file = s.file := rfl
    rw [hfile]
    cases readPresets env.now s.file with
    | error e => rfl
    | ok result =>
      simp only
      split <;> rfl
  raised {s env e s'} h := by
    cases hcache : s.cache with
    | some presets => exact nomatch (items_cached env hcache).symm.trans h
    | none => exact items_uncached_error hcache h
  loaded {s env presets s'} hcache h := by
    obtain ⟨n, migrates, hread, rfl⟩ := items_uncached_ok hcache h
    refine ⟨rfl, ⟨n, rfl⟩, fun hparsed => ?_, fun hreadable now => ?_, fun b hb => ?_⟩
    · exact ⟨(migratedFile_read env hparsed hread).1, env, (migratedFile_read env hparsed hread).2⟩
    · cases migrates with
      | false => exact hreadable now
      | true =>
        obtain ⟨presets', m, hagain, -⟩ := readPresets_written env.floatText now n presets
        exact ⟨_, hagain⟩
    · have heq : b = ⟨presets.map fun p => (p.id, p.key), n⟩ :=
        Option.some.inj (hb.symm.trans (readPresets_book hread))
      subst heq
      exact ⟨migratedFile_book env hread, rfl, rfl⟩
  returns {s env} hreadable hdisk := by
    show ∃ presets s', items env s = (.ok presets, s')
    cases hcache : s.cache with
    | some presets => exact ⟨presets, s, items_cached env hcache⟩
    | none =>
      obtain ⟨⟨presets, n, migrates⟩, hread⟩ := hreadable env.now
      have hfile : readPresets env.now s.file = .ok (presets, n, migrates) := hread
      have hmigrate : env.migrateOk = true := (Bool.and_eq_true_iff.mp hdisk).2
      rw [items_uncached env hcache, hfile]
      simp only [hmigrate, Bool.true_eq_false, and_false, if_false]
      exact ⟨_, _, rfl⟩
  readable_written env n presets now := by
    obtain ⟨presets', m, hread, -⟩ := readPresets_written env.floatText now n presets
    exact ⟨_, hread⟩
  parsed_written env n presets := isJson_jsonRoundTrip _ _
  book_written env n presets hsound := by
    have hids := hsound.ids
    rw [Service.bookOf, List.map_map] at hids
    obtain ⟨used, -, hbook⟩ := fileBook_written env.floatText n hids
    exact ⟨loadedNextId (.int n) used, le_loadedNextId n used, hbook⟩

end RaceLink.RLPresetsService
