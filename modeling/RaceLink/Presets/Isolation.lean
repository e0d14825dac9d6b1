/-
# Bad entries of the preset file

`_load` passes over what is no entry at all, and over an entry without a key or a label.  The rest
it converts: an id that is no number is replaced, but what `_canonical_params` or
`_canonical_flags` raises is not caught, so one bad entry takes the whole list down (the loader of
the scenes catches it for each scene).  An entry without a usable id takes the number of its place,
which may be the id of an entry further down.

`list_isolated_iff` says when a bad entry is the only one to suffer.
-/
import RaceLink.Presets.File
import RaceLink.Probing.Basic

namespace RaceLink.RLPresetsService

open Python RlPresets CachedFile Probing

/-! ## 1. What a load should do -/

/-- An entry with a key and a label, which is read further. -/
def keyed : PyVal → Option Dict
  | .dict entry =>
    match Dict.get entry "key", Dict.get entry "label" with
    | .str _, .str _ => some entry
    | _, _ => none
  | _ => none

/-- An entry that can be read: its parameters and its flags can be normalised, and if it has an id
then looking at that does not raise. -/
def loadable (raw : PyVal) : Bool :=
  match keyed raw with
  | some entry =>
    (requestedId entry 0).toBool && (RlPresets.canonicalParams (Dict.get entry "params")).toBool &&
      (canonicalFlags (Dict.get entry "flags")).toBool
  | none => false

/-- The preset has the persisted key, label, parameters and flags of the entry, and its id if it has
persisted one. -/
def LoadedFrom (raw : PyVal) (p : Preset) : Prop :=
  ∃ entry, raw = .dict entry ∧ Dict.get entry "key" = .str p.key ∧
    Dict.get entry "label" = .str p.label ∧
    RlPresets.canonicalParams (Dict.get entry "params") = .ok p.params ∧
    canonicalFlags (Dict.get entry "flags") = .ok p.flags ∧
    ∀ id, Dict.get entry "id" = .int id → p.id = id

/-- `list` returns, and every entry that can be read is in the list as it was persisted; whatever
becomes of the others. -/
def Isolated (env : Env) (s : Store) (raws : List PyVal) : Prop :=
  ∃ presets s' loaded, list env s = (.ok presets, s') ∧ loaded.Sublist presets ∧
    List.Forall₂ LoadedFrom (raws.filter loadable) loaded

/-! ## 2. Entry by entry -/

/-- The id an entry asks for. -/
def asked (entry : Dict) (index : Int) : Int := (requestedId entry index).toOption.getD index

/-- Every entry that has persisted an id can have it: the entries above it, and the places of those
without one, do not crowd it out. -/
def IdsKept : List Int → Int → List PyVal → Prop
  | _, _, [] => True
  | earlier, index, raw :: rest =>
    match keyed raw with
    | some entry => (∀ id, Dict.get entry "id" = .int id → ¬ Crowded earlier id) ∧
        IdsKept (asked entry index :: earlier) (index + 1) rest
    | none => IdsKept earlier (index + 1) rest

theorem keyed_eq_some {raw : PyVal} {entry : Dict} (h : keyed raw = some entry) :
    ∃ key label, raw = .dict entry ∧ Dict.get entry "key" = .str key ∧
      Dict.get entry "label" = .str label := by
  unfold keyed at h
  split at h
  · next entry' =>
    split at h
    · next key label hkey hlabel =>
      cases h
      exact ⟨key, label, rfl, hkey, hlabel⟩
    · cases h
  · cases h

theorem toBool_iff {ε α : Type} {x : Except ε α} : x.toBool = true ↔ ∃ a, x = .ok a := by
  cases x <;> simp [Except.toBool]

/-- Whether the id converts does not depend on the place. -/
theorem requestedId_ok (entry : Dict) (index : Int) :
    (requestedId entry index).toBool = (requestedId entry 0).toBool := by
  unfold requestedId
  split
  · rfl
  · unfold intCatch
    split <;> rfl

theorem loadable_iff {raw : PyVal} {entry : Dict} (h : keyed raw = some entry) (index : Int) :
    loadable raw = true ↔ (∃ id, requestedId entry index = .ok id) ∧
      (∃ params, RlPresets.canonicalParams (Dict.get entry "params") = .ok params) ∧
        ∃ flags, canonicalFlags (Dict.get entry "flags") = .ok flags := by
  unfold loadable
  simp only [h, Bool.and_eq_true, ← requestedId_ok entry index, toBool_iff, and_assoc]

theorem not_loadable {raw : PyVal} (h : keyed raw = none) : loadable raw = false := by
  unfold loadable
  simp only [h]

theorem loadPresets_skip {now : String} {raw : PyVal} (h : keyed raw = none) (used : List Int)
    (index : Int) (rest : List PyVal) :
    loadPresets now used index (raw :: rest) = loadPresets now used (index + 1) rest := by
  cases raw with
  | dict entry =>
    rw [loadPresets]
    split
    · next key label hkey hlabel =>
      unfold keyed at h
      simp only [hkey, hlabel] at h
      cases h
    · rfl
  | _ => rfl

/-- The preset that an entry gives. -/
def presetOf (now : String) (entry : Dict) (id : Int) (key label : String) (params : PresetParams)
    (flags : UserFlag → Bool) : Preset :=
  { id := id, key := key, label := label
    created := (Dict.get entry "created").or (.str now)
    updated := ((Dict.get entry "updated").or (Dict.get entry "created")).or (.str now)
    params := params, flags := flags }

theorem loadPresets_keyed {now : String} {entry : Dict} {key label : String}
    (hkey : Dict.get entry "key" = .str key) (hlabel : Dict.get entry "label" = .str label)
    (used : List Int) (index : Int) (rest : List PyVal) :
    loadPresets now used index (.dict entry :: rest) = (do
      let rawId ← requestedId entry index
      let params ← RlPresets.canonicalParams (Dict.get entry "params")
      let flags ← canonicalFlags (Dict.get entry "flags")
      let (presets, used') ←
        loadPresets now (skipUsed used used.length rawId :: used) (index + 1) rest
      pure (presetOf now entry (skipUsed used used.length rawId) key label params flags :: presets,
        used')) := by
  rw [loadPresets]
  simp only [hkey, hlabel]
  rfl

/-- A load returns when every entry with a key and a label can be read. -/
theorem loadPresets_ok_iff (now : String) {raws : List PyVal} {used : List Int} {index : Int} :
    (∃ result, loadPresets now used index raws = .ok result) ↔
      ∀ raw ∈ raws, (keyed raw).isSome = true → loadable raw = true := by
  induction raws generalizing used index with
  | nil => exact iff_of_true ⟨_, rfl⟩ fun _ h => nomatch h
  | cons raw rest ih =>
    rw [List.forall_mem_cons]
    cases hraw : keyed raw with
    | none =>
      rw [loadPresets_skip hraw, ih]
      simp
    | some entry =>
      obtain ⟨key, label, rfl, hkey, hlabel⟩ := keyed_eq_some hraw
      rw [loadPresets_keyed hkey hlabel, loadable_iff hraw index]
      constructor
      · rintro ⟨result, h⟩
        obtain ⟨id, hid, h⟩ := bind_eq_ok.mp h
        obtain ⟨params, hparams, h⟩ := bind_eq_ok.mp h
        obtain ⟨flags, hflags, h⟩ := bind_eq_ok.mp h
        obtain ⟨result', hrest, -⟩ := bind_eq_ok.mp h
        exact ⟨fun _ => ⟨⟨id, hid⟩, ⟨params, hparams⟩, flags, hflags⟩, ih.mp ⟨result', hrest⟩⟩
      · rintro ⟨hentry, hrest⟩
        obtain ⟨⟨id, hid⟩, ⟨params, hparams⟩, flags, hflags⟩ := hentry rfl
        obtain ⟨result, hresult⟩ :=
          @ih (skipUsed used used.length id :: used) (index + 1) |>.mpr hrest
        rw [hid, hparams, hflags]
        simp only [ok_bind, hresult]
        exact ⟨_, rfl⟩

/-- The id after skipping is the first that is free. -/
theorem first_skipUsed (used : List Int) (request : Int) :
    First used request (skipUsed used used.length request) := by
  have hrounds : ∀ (rounds : Nat) (start : Int), start ≤ skipUsed used rounds start ∧
      ∀ x, start ≤ x → x < skipUsed used rounds start → x ∈ used := by
    intro rounds
    induction rounds with
    | zero => exact fun start => ⟨le_refl start, fun x hx hlt => absurd hx (not_le.mpr hlt)⟩
    | succ rounds ih =>
      intro start
      rw [skipUsed]
      split
      · next hmem =>
        obtain ⟨hle, hpassed⟩ := ih (start + 1)
        refine ⟨by omega, fun x hx hlt => ?_⟩
        rcases eq_or_lt_of_le hx with rfl | hx
        · exact hmem
        · exact hpassed x hx hlt
      · exact ⟨le_refl start, fun x hx hlt => absurd hx (not_le.mpr hlt)⟩
  obtain ⟨hle, hpassed⟩ := hrounds used.length request
  exact ⟨hle, skipUsed_not_mem used request, hpassed⟩

/-- **The entries of a load**: each is as persisted, up to the ids, and the ids are when none of
them is crowded out. -/
theorem loadPresets_loaded {now : String} {raws : List PyVal} {earlier used used' : List Int}
    {index : Int} {presets : List Preset} (hplaces : Places earlier used)
    (h : loadPresets now used index raws = .ok (presets, used')) :
    (raws.filter loadable).length = presets.length ∧
      (List.Forall₂ LoadedFrom (raws.filter loadable) presets ↔ IdsKept earlier index raws) := by
  induction raws generalizing earlier used index presets with
  | nil =>
    cases h
    exact ⟨rfl, iff_of_true .nil trivial⟩
  | cons raw rest ih =>
    cases hraw : keyed raw with
    | none =>
      rw [loadPresets_skip hraw] at h
      rw [List.filter_cons_of_neg (by rw [not_loadable hraw]; exact Bool.false_ne_true), IdsKept]
      simp only [hraw]
      exact ih hplaces h
    | some entry =>
      obtain ⟨key, label, rfl, hkey, hlabel⟩ := keyed_eq_some hraw
      rw [loadPresets_keyed hkey hlabel] at h
      obtain ⟨rawId, hid, h⟩ := bind_eq_ok.mp h
      obtain ⟨params, hparams, h⟩ := bind_eq_ok.mp h
      obtain ⟨flags, hflags, h⟩ := bind_eq_ok.mp h
      obtain ⟨⟨presets', used''⟩, hrest, h⟩ := bind_eq_ok.mp h
      cases h
      have hloadable := (loadable_iff hraw index).mpr ⟨⟨_, hid⟩, ⟨_, hparams⟩, _, hflags⟩
      have hasked : asked entry index = rawId := by rw [asked, hid]; rfl
      have hfirst := first_skipUsed used rawId
      obtain ⟨hlength, hall⟩ := ih (.cons hplaces hfirst) hrest
      rw [List.filter_cons_of_pos hloadable, IdsKept]
      simp only [hraw, hasked]
      refine ⟨congrArg (· + 1) hlength, ?_⟩
      rw [List.forall₂_cons, hall]
      refine and_congr_left fun _ => ?_
      -- the id of the entry itself
      have hkept : ∀ id, Dict.get entry "id" = .int id →
          (skipUsed used used.length rawId = id ↔ ¬ Crowded earlier id) := by
        intro id hpersisted
        obtain rfl : rawId = id := by
          rw [requestedId, hpersisted] at hid
          exact (Except.ok.inj hid).symm
        exact hplaces.kept_iff hfirst
      constructor
      · rintro ⟨entry', hentry', -, -, -, -, hids⟩ id hpersisted
        cases hentry'
        exact (hkept id hpersisted).mp (hids id hpersisted)
      · intro hfree
        exact ⟨entry, rfl, hkey, hlabel, hparams, hflags, fun id hpersisted =>
          (hkept id hpersisted).mpr (hfree id hpersisted)⟩

/-! ## 3. The list -/

/-- What `_load` reads from a document of an integer schema with a list of presets. -/
theorem readPresets_doc {now : String} {data : Dict} {schema : Int} {raws : List PyVal}
    (hschema : Dict.get data "schema_version" = .int schema)
    (hraws : Dict.get data "presets" = .list raws) :
    readPresets now (.doc (.dict data)) = (do
      let (presets, used) ← loadPresets now [] 0 raws
      pure (presets, loadedNextId (Dict.get data "next_id") used,
        decide (schema < schemaVersion))) := by
  have hint : int ((Dict.getD data "schema_version" (.int 0)).or (.int 0)) = .ok schema := by
    rw [Dict.getD, Dict.find?_of_get hschema PyVal.noConfusion, Option.getD_some]
    by_cases hzero : schema = 0
    · rw [hzero]
      rfl
    · simp [PyVal.or, PyVal.truthy, hzero]
  rw [readPresets, hint, ok_bind]
  simp only [hraws]

/-- **Isolation**, for every file with an integer schema version and a list of presets: `list`
returns the readable entries as they were persisted exactly when every entry with a key and a label
can be read, no persisted id is crowded out by the entries above it, and the file need not be
migrated or can be. -/
theorem list_isolated_iff (env : Env) {s : Store} {data : Dict} {schema : Int} {raws : List PyVal}
    (hfile : s.file = .doc (.dict data)) (hcache : s.cache = none)
    (hschema : Dict.get data "schema_version" = .int schema)
    (hraws : Dict.get data "presets" = .list raws) :
    Isolated env s raws ↔
      (schema < schemaVersion → env.migrateOk = true) ∧
      (∀ raw ∈ raws, (keyed raw).isSome = true → loadable raw = true) ∧ IdsKept [] 0 raws := by
  have hread := @readPresets_doc env.now _ _ _ hschema hraws
  have hlist := items_uncached env hcache
  rw [hfile, hread] at hlist
  rw [Isolated, list, hlist, ← loadPresets_ok_iff env.now]
  cases hload : loadPresets env.now [] 0 raws with
  | error e =>
    refine iff_of_false ?_ ?_
    · rintro ⟨_, _, _, h, -⟩
      cases h
    · rintro ⟨-, ⟨_, h⟩, -⟩
      cases h
  | ok result =>
    obtain ⟨presets, used⟩ := result
    obtain ⟨hlength, hall⟩ := loadPresets_loaded .nil hload
    simp only [ok_bind, pure_eq_ok, decide_eq_true_eq]
    by_cases hfail : schema < schemaVersion ∧ env.migrateOk = false
    · simp only [if_pos hfail]
      refine iff_of_false ?_ ?_
      · rintro ⟨_, _, _, h, -⟩
        cases h
      · rintro ⟨hmigrate, -⟩
        rw [hmigrate hfail.1] at hfail
        exact absurd hfail.2 (by decide)
    · simp only [if_neg hfail]
      have hmigrate : schema < schemaVersion → env.migrateOk = true := fun hold =>
        Bool.eq_true_of_not_eq_false fun hfalse => hfail ⟨hold, hfalse⟩
      constructor
      · rintro ⟨presets', s', loaded, h, hsub, hloaded⟩
        cases h
        obtain rfl : loaded = presets := hsub.eq_of_length (hloaded.length_eq.symm.trans hlength)
        exact ⟨hmigrate, ⟨_, rfl⟩, hall.mp hloaded⟩
      · rintro ⟨-, -, hkept⟩
        exact ⟨presets, _, presets, rfl, List.Sublist.refl _, hall.mpr hkept⟩

/-- An entry of a file, with these fields besides its key and its label. -/
def entryNamed (key : String) (fields : List (String × PyVal)) : PyVal :=
  strDict ([("key", .str key), ("label", .str key)] ++ fields)

/-- A service that has read nothing, over a file of schema 2 with these entries. -/
def overEntries (raws : List PyVal) : Store :=
  fresh (.doc (strDict [("schema_version", .int 2), ("presets", .list raws)]))

/-- A call on a disk that takes every write. -/
def openDisk : Env := ⟨"2024-01-01T00:00:00Z", true, true, fun _ => ""⟩

/-- An entry without an id below one that has persisted 3. -/
def tidyEntries : List PyVal := [entryNamed "party" [("id", .int 3)], entryNamed "rain" []]

theorem list_isolated_tidy : Isolated openDisk (overEntries tidyEntries) tidyEntries := by
  refine (list_isolated_iff openDisk rfl rfl rfl rfl).mpr ⟨fun _ => rfl, by decide +kernel, ?_⟩
  refine ⟨fun id hid => ?_, fun id hid => ?_, trivial⟩
  · cases hid
    decide
  · cases hid

/-- A colour that is no list. -/
def redEntries : List PyVal :=
  [entryNamed "red" [("id", .int 0), ("params", strDict [("color1", .str "red")])],
    entryNamed "party" [("id", .int 1)]]

/-- An entry without an id, above one with the number of its place. -/
def placeEntries : List PyVal := [entryNamed "rain" [], entryNamed "party" [("id", .int 0)]]

/-- One bad colour, and no preset is listed; one entry without an id, and the preset below has
another id than the one it has persisted. -/
theorem list_not_isolated :
    ¬ Isolated openDisk (overEntries redEntries) redEntries ∧
      ¬ Isolated openDisk (overEntries placeEntries) placeEntries := by
  constructor
  · rintro ⟨presets, s', loaded, h, -⟩
    have hraises : (list openDisk (overEntries redEntries)).1.toBool = false := rfl
    rw [h] at hraises
    cases hraises
  · rintro ⟨presets, s', loaded, h, hsub, hall⟩
    have hids : ((list openDisk (overEntries placeEntries)).1.map fun presets =>
        presets.map (·.id)) = .ok [0, 1] := rfl
    rw [h] at hids
    have hids : presets.map (·.id) = [0, 1] := Except.ok.inj hids
    have hfilter : placeEntries.filter loadable = placeEntries := rfl
    rw [hfilter] at hall
    have hlength : presets.length = 2 := by simpa using congrArg List.length hids
    obtain rfl : loaded = presets :=
      hsub.eq_of_length (hall.length_eq.symm.trans hlength.symm)
    obtain ⟨p, rest, -, hrest, rfl⟩ := List.forall₂_cons_left_iff.mp hall
    obtain ⟨q, rest', hq, -, rfl⟩ := List.forall₂_cons_left_iff.mp hrest
    obtain ⟨entry, hentry, -, -, -, -, hid⟩ := hq
    cases hentry
    have hzero := hid 0 rfl
    simp [hzero] at hids

end RaceLink.RLPresetsService
