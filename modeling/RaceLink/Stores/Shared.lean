/-
# What the two stores share

`SceneService` and `RLPresetsService` each keep a list of entries in one JSON file.  An entry has
an id and a key: the key is a slug, made unique with a number where it is taken, and the id comes
from a counter that the file carries too.  Both services spell these helpers the same way.

The lemmas say that a unique key is not taken, which ids a load gives to the entries of a file, and
which ones a bulk replacement takes from the counter.
-/
import RaceLink.Ledger.Basic
import RaceLink.Python.Script
import Mathlib.Data.List.Perm.Subperm

namespace RaceLink

open Python

/-! ## 1. The helpers -/

/-- The file: absent, unreadable (an I/O or syntax error), or a document. -/
inductive File where
  | absent
  | unreadable
  | doc (v : PyVal)

/-- `[a-z0-9]`. -/
def isSlugChar (c : Char) : Bool :=
  (0x61 ≤ c.toNat && c.toNat ≤ 0x7a) || (0x30 ≤ c.toNat && c.toNat ≤ 0x39)

/-- `_SLUG_RE.sub("_", ·)`: each run of other characters becomes one underscore. -/
def slugChars (inRun : Bool) : List Char → List Char
  | [] => []
  | c :: cs =>
    if isSlugChar c then c :: slugChars false cs
    else if inRun then slugChars true cs
    else '_' :: slugChars true cs

/-- `while scene_id in used_ids: scene_id += 1`, for at most as many rounds as there are ids. -/
def skipUsed (used : List Int) : Nat → Int → Int
  | 0, sceneId => sceneId
  | rounds + 1, sceneId =>
    if sceneId ∈ used then skipUsed used rounds (sceneId + 1) else sceneId

/-- The id counter after a load: the stored one if it is above every id in use. -/
def loadedNextId (persistedNext : PyVal) (used : List Int) : Int :=
  let top := used.max?.getD (-1)
  match persistedNext with
  | .int n => if n > top then n else top + 1
  | .bool b => if (if b then 1 else 0) > top then (if b then 1 else 0) else top + 1
  | _ => top + 1

/-- `_unique_key`. -/
def uniqueKey (desired : String) (taken : List String) : Except PyErr String :=
  if desired ∉ taken then .ok desired
  else
    match ((List.range 998).map fun i => s!"{desired}_{i + 2}").find? (· ∉ taken) with
    | some candidate => .ok candidate
    | none =>
      .error (.runtimeError [.text "could not derive a unique key from ", .repr (.str desired)])

/-- `(v or default)` where a method of a text is called on it. -/
def textOr (v : PyVal) (default : String) : Except PyErr String :=
  match v.or (.str default) with
  | .str s => .ok s
  | _ => .error .attributeError

/-- The key `replace_all` takes for an entry. -/
def replaceKey (slugify : String → String) (seenKeys : List String) (entry : Dict) :
    Except PyErr String := do
  let text ← textOr ((Dict.get entry "key").or (Dict.get entry "label")) ""
  uniqueKey (slugify text) seenKeys

/-- The loop of `replace_all` over the counter: an entry gets its key and its id before the rest of
it is built, so an id is used up where that raises. -/
def replaceEntries {α : Type} (slugify : String → String)
    (build : Int → String → Dict → Except PyErr α) : List String → List PyVal → Script Int (List α)
  | _, [] => pure []
  | seenKeys, .dict entry :: rest => do
    let key ← replaceKey slugify seenKeys entry
    let newId ← Script.get
    Script.modify (· + 1)
    let x ← build newId key entry
    let xs ← replaceEntries slugify build (key :: seenKeys) rest
    pure (x :: xs)
  | _, _ :: _ => Script.lift (.error .attributeError)

/-! ## 2. Ids -/

theorem skipUsed_mem {used : List Int} : ∀ {rounds : Nat} {sceneId : Int},
    skipUsed used rounds sceneId ∈ used →
      ∀ k : Nat, k ≤ rounds → sceneId + k ∈ used
  | 0, sceneId, h, k, hk => by
    obtain rfl : k = 0 := by omega
    simpa [skipUsed] using h
  | rounds + 1, sceneId, h, k, hk => by
    unfold skipUsed at h
    split at h
    · rename_i hmem
      cases k with
      | zero => simpa using hmem
      | succ k =>
        have hnext := skipUsed_mem h k (by omega)
        have heq : sceneId + ((k + 1 : Nat) : Int) = sceneId + 1 + k := by push_cast; omega
        rw [heq]
        exact hnext
    · rename_i hmem
      exact absurd h hmem

/-- The rounds suffice: the loop ends at an unused id. -/
theorem skipUsed_not_mem (used : List Int) (sceneId : Int) :
    skipUsed used used.length sceneId ∉ used := by
  intro h
  have hall := skipUsed_mem h
  -- otherwise `used` would contain one more id than it has elements
  have hsub : (List.range (used.length + 1)).map (fun k : Nat => sceneId + (k : Int)) ⊆ used := by
    intro x hx
    obtain ⟨k, hk, rfl⟩ := List.mem_map.mp hx
    have hlt : k < used.length + 1 := List.mem_range.mp hk
    exact hall k (by omega)
  have hnd : ((List.range (used.length + 1)).map (fun k : Nat => sceneId + (k : Int))).Nodup :=
    List.Nodup.map (fun a b hab => Int.ofNat_inj.mp (Int.add_left_cancel hab)) List.nodup_range
  have hlen := (List.subperm_of_subset hnd hsub).length_le
  simp only [List.length_map, List.length_range] at hlen
  omega

/-- An unused id is taken as it is. -/
theorem skipUsed_of_not_mem {used : List Int} {sceneId : Int} (h : sceneId ∉ used) (rounds : Nat) :
    skipUsed used rounds sceneId = sceneId := by
  cases rounds with
  | zero => rfl
  | succ rounds => rw [skipUsed, if_neg h]

/-- The counter of a load is above the greatest id in use. -/
theorem max_lt_loadedNextId (persistedNext : PyVal) (used : List Int) :
    used.max?.getD (-1) < loadedNextId persistedNext used := by
  unfold loadedNextId
  split
  · dsimp only
    split <;> omega
  · dsimp only
    split <;> omega
  · dsimp only
    omega

/-- The counter of a load is above the ids in use. -/
theorem lt_loadedNextId (persistedNext : PyVal) {used : List Int} {i : Int} (h : i ∈ used) :
    i < loadedNextId persistedNext used := by
  have htop : i ≤ used.max?.getD (-1) := by
    cases hmax : used.max? with
    | none => simp [List.max?_eq_none_iff.mp hmax] at h
    | some top => exact (List.max?_eq_some_iff.mp hmax).2 i h
  exact Int.lt_of_le_of_lt htop (max_lt_loadedNextId persistedNext used)

/-- The counter of a load, stored, is the counter of the next load of the same ids. -/
theorem loadedNextId_again (persistedNext : PyVal) {used used' : List Int}
    (h : ∀ i, i ∈ used' ↔ i ∈ used) :
    loadedNextId (.int (loadedNextId persistedNext used)) used'
      = loadedNextId persistedNext used := by
  have hmax : used'.max? = used.max? := by
    cases hmax : used.max? with
    | none =>
      have hnil : used' = [] := by
        rw [List.eq_nil_iff_forall_not_mem]
        intro i hi
        have hmem := (h i).mp hi
        simp [List.max?_eq_none_iff.mp hmax] at hmem
      rw [hnil]
      rfl
    | some top =>
      obtain ⟨hmem, hle⟩ := List.max?_eq_some_iff.mp hmax
      exact List.max?_eq_some_iff.mpr ⟨(h top).mpr hmem, fun i hi => hle i ((h i).mp hi)⟩
  have hlt := max_lt_loadedNextId persistedNext used
  rw [loadedNextId, hmax]
  exact if_pos hlt

/-- The counter of a load does not fall below the stored one. -/
theorem le_loadedNextId (n : Int) (used : List Int) : n ≤ loadedNextId (.int n) used := by
  unfold loadedNextId
  dsimp only
  split <;> omega

/-- The id an entry asks for: its own, if that is a number, and its place otherwise. -/
def requestedId (entry : Dict) (index : Int) : Except PyErr Int :=
  match Dict.get entry "id" with
  | .null => .ok index
  | rawId => intCatch rawId (.ok index)

/-- The ids and keys both loads give to the entries of a file, and the ids in use at the end. -/
def assignIds : List Int → Int → List PyVal → Except PyErr (List (Int × String) × List Int)
  | used, _, [] => .ok ([], used)
  | used, index, .dict entry :: rest =>
    match Dict.get entry "key", Dict.get entry "label" with
    | .str key, .str _ => do
      let rawId ← requestedId entry index
      let entryId := skipUsed used used.length rawId
      let (names, used) ← assignIds (entryId :: used) (index + 1) rest
      pure ((entryId, key) :: names, used)
    | _, _ => assignIds used (index + 1) rest
  | used, index, _ :: rest => assignIds used (index + 1) rest

/-- The ids a load gives are different from each other and from those in use before. -/
theorem assignIds_ids {raws : List PyVal} {used used' : List Int} {index : Int}
    {names : List (Int × String)} (h : assignIds used index raws = .ok (names, used')) :
    (names.map (·.1)).Nodup ∧ (∀ i ∈ names.map (·.1), i ∉ used) ∧
      ∀ i, i ∈ used' ↔ i ∈ used ∨ i ∈ names.map (·.1) := by
  induction raws generalizing used index names with
  | nil =>
    cases h
    simp
  | cons raw raws ih =>
    cases raw with
    | dict entry =>
      rw [assignIds] at h
      split at h
      · next key _ _ _ =>
        obtain ⟨rawId, -, h⟩ := bind_eq_ok.mp h
        obtain ⟨⟨rest, used''⟩, hrest, h⟩ := bind_eq_ok.mp h
        cases h
        obtain ⟨hnd, hnew, hused⟩ := ih hrest
        have hfresh := skipUsed_not_mem used rawId
        refine ⟨?_, ?_, fun i => ?_⟩
        · rw [List.map_cons, List.nodup_cons]
          exact ⟨fun hmem => hnew _ hmem List.mem_cons_self, hnd⟩
        · rw [List.map_cons, List.forall_mem_cons]
          exact ⟨hfresh, fun i hi hmem => hnew i hi (List.mem_cons_of_mem _ hmem)⟩
        · rw [hused, List.map_cons, List.mem_cons, List.mem_cons]
          exact ⟨fun hi =>
            hi.elim (fun hi => hi.elim (fun he => .inr (.inl he)) .inl) (.inr ∘ .inr),
            fun hi => hi.elim (.inl ∘ .inr) (fun hi => hi.elim (.inl ∘ .inl) .inr)⟩
      · exact ih h
    | _ => exact ih h

/-- The entry of a file with this id and key. -/
def NamedEntry (raw : PyVal) (name : Int × String) : Prop :=
  ∃ entry label, raw = .dict entry ∧ Dict.get entry "id" = .int name.1 ∧
    Dict.get entry "key" = .str name.2 ∧ Dict.get entry "label" = .str label

/-- Entries with different ids keep them. -/
theorem assignIds_written {raws : List PyVal} {names : List (Int × String)}
    (h : List.Forall₂ NamedEntry raws names) {used : List Int} (hnd : (names.map (·.1)).Nodup)
    (hnew : ∀ i ∈ names.map (·.1), i ∉ used) (index : Int) :
    ∃ used', assignIds used index raws = .ok (names, used') := by
  induction h generalizing used index with
  | nil => exact ⟨used, rfl⟩
  | @cons _ name _ names hname _ ih =>
    obtain ⟨entry, label, rfl, hid, hkey, hlabel⟩ := hname
    rw [List.map_cons, List.nodup_cons] at hnd
    rw [List.map_cons, List.forall_mem_cons] at hnew
    have hstill : ∀ i ∈ names.map (·.1), i ∉ name.1 :: used := by
      intro i hi hmem
      rcases List.mem_cons.mp hmem with rfl | hmem
      · exact hnd.1 hi
      · exact hnew.2 i hi hmem
    obtain ⟨used', hrest⟩ := ih hnd.2 hstill (index + 1)
    refine ⟨used', ?_⟩
    rw [assignIds]
    simp only [requestedId, hid, hkey, hlabel, intCatch_int, ok_bind, skipUsed_of_not_mem hnew.1,
      hrest, pure_eq_ok]

/-- What a file says of the ids and keys in its list `field`, and of the counter; `none` if that
cannot be told. -/
def fileBook (field : String) : File → Option (Ledger.Book Int String)
  | .doc (.dict data) =>
    match Dict.get data field with
    | .list raws =>
      match assignIds [] 0 raws with
      | .ok (names, used) => some ⟨names, loadedNextId (Dict.get data "next_id") used⟩
      | .error _ => none
    | _ => some ⟨[], 0⟩
  | _ => some ⟨[], 0⟩

/-- The ids are different and below the counter. -/
theorem fileBook_ids {field : String} {file : File} {b : Ledger.Book Int String}
    (h : fileBook field file = some b) :
    (b.names.map (·.1)).Nodup ∧ ∀ e ∈ b.names, e.1 < b.next := by
  unfold fileBook at h
  split at h
  · split at h
    · split at h
      · next names used hnames =>
        cases h
        obtain ⟨hnd, -, hused⟩ := assignIds_ids hnames
        refine ⟨hnd, fun e he => lt_loadedNextId _ ?_⟩
        exact (hused e.1).mpr (Or.inr (List.mem_map_of_mem he))
      · cases h
    · cases h
      simp
  · cases h
    simp

/-! ## 3. Keys -/

/-- A unique key is not taken. -/
theorem uniqueKey_not_mem {desired key : String} {taken : List String}
    (h : uniqueKey desired taken = .ok key) : key ∉ taken := by
  unfold uniqueKey at h
  split at h
  · cases h; assumption
  · split at h
    · rename_i candidate hfind
      cases h
      simpa using List.find?_some hfind
    · cases h

/-! ## 4. Bulk replacement -/

/-- Entries with different ids from `n` up to below `m`, and different keys outside `seenKeys`. -/
structure Claimed {α : Type} (name : α → Int × String) (seenKeys : List String) (n m : Int)
    (xs : List α) : Prop where
  ids : (xs.map fun x => (name x).1).Nodup
  keys : (xs.map fun x => (name x).2).Nodup
  range : ∀ x ∈ xs, n ≤ (name x).1 ∧ (name x).1 < m
  unseen : ∀ x ∈ xs, (name x).2 ∉ seenKeys

theorem Claimed.cons {α : Type} {name : α → Int × String} {seenKeys : List String} {n m : Int}
    {x : α} {xs : List α} (h : Claimed name ((name x).2 :: seenKeys) (n + 1) m xs)
    (hid : (name x).1 = n) (hkey : (name x).2 ∉ seenKeys) (hle : n + 1 ≤ m) :
    Claimed name seenKeys n m (x :: xs) where
  ids := by
    rw [List.map_cons, List.nodup_cons]
    refine ⟨fun hmem => ?_, h.ids⟩
    obtain ⟨y, hy, heq⟩ := List.mem_map.mp hmem
    have hrange := (h.range y hy).1
    omega
  keys := by
    rw [List.map_cons, List.nodup_cons]
    refine ⟨fun hmem => ?_, h.keys⟩
    obtain ⟨y, hy, heq⟩ := List.mem_map.mp hmem
    exact h.unseen y hy (by rw [heq]; exact List.mem_cons_self)
  range := by
    rw [List.forall_mem_cons]
    refine ⟨by omega, fun y hy => ?_⟩
    have hrange := h.range y hy
    omega
  unseen := by
    rw [List.forall_mem_cons]
    exact ⟨hkey, fun y hy hmem => h.unseen y hy (List.mem_cons_of_mem _ hmem)⟩

/-- The loop of `replace_all` raises the counter past the ids it gives out, and does not lower it
where it raises. -/
theorem replaceEntries_spec {α : Type} {slugify : String → String}
    {build : Int → String → Dict → Except PyErr α} {name : α → Int × String}
    (hbuild : ∀ {newId key entry x}, build newId key entry = .ok x → name x = (newId, key))
    (entries : List PyVal) (seenKeys : List String) (n : Int) :
    n ≤ (replaceEntries slugify build seenKeys entries n).2 ∧
      ∀ xs, (replaceEntries slugify build seenKeys entries n).1 = .ok xs →
        Claimed name seenKeys n (replaceEntries slugify build seenKeys entries n).2 xs := by
  induction entries generalizing seenKeys n with
  | nil =>
    refine ⟨Int.le_refl n, fun xs hxs => ?_⟩
    cases hxs
    exact ⟨.nil, .nil, by simp, by simp⟩
  | cons entry entries ih =>
    cases entry with
    | dict entry =>
      rw [replaceEntries]
      simp only [Script.monadLift_eq]
      cases hkey : replaceKey slugify seenKeys entry with
      | error e => exact ⟨Int.le_refl n, fun xs hxs => nomatch hxs⟩
      | ok key =>
        rw [Script.bind_of_ok (Script.lift_run _ _), Script.bind_of_ok (Script.get_run n),
          Script.bind_of_ok (Script.modify_run _ _)]
        cases hx : build n key entry with
        | error e =>
          refine ⟨?_, fun xs hxs => nomatch hxs⟩
          show n ≤ n + 1
          omega
        | ok x =>
          rw [Script.bind_of_ok (Script.lift_run _ _), Script.bind_pure_state]
          have hname := hbuild hx
          obtain ⟨hle, hrest⟩ := ih (key :: seenKeys) (n + 1)
          refine ⟨by omega, fun xs hxs => ?_⟩
          cases hr : replaceEntries slugify build (key :: seenKeys) entries (n + 1) with
          | mk r m =>
            rw [Script.bind_run, hr] at hxs
            rw [hr] at hle hrest
            cases r with
            | error e => cases hxs
            | ok rest =>
              cases hxs
              obtain ⟨text, -, hunique⟩ := bind_eq_ok.mp hkey
              refine Claimed.cons ?_ (by rw [hname]) ?_ hle
              · rw [hname]
                exact hrest rest rfl
              · rw [hname]
                exact uniqueKey_not_mem hunique
    | _ => exact ⟨Int.le_refl n, fun xs hxs => nomatch hxs⟩

end RaceLink
