/-
# What the validator accepts of a container

A container is checked in turn: its groups, its offset block over them, and its children.  A check
is only come to when the ones before it have accepted, so what may go wrong in it depends on what
they accept.  This file says that of the groups and of the block by the raw values alone:

* `containerGroups_iff`: the groups with which a container is accepted, from its `target` or from
  the legacy field;
* `accepts_offsetBlock_iff`: the offset blocks that are accepted over these groups.
-/
import RaceLink.Python.Raises
import RaceLink.Scenes.CanonicalSpec

namespace RaceLink

open Python

/-! ## 1. Integers and ids -/

/-- The value is read as an integer of the range. -/
def InRange (v : PyVal) (lo hi : Int) : Prop := ∃ i, int v = .ok i ∧ lo ≤ i ∧ i ≤ hi

theorem validateInt_eq_ok_iff {name : String} {v : PyVal} {lo hi i : Int} :
    validateInt name v lo hi = .ok i ↔ int v = .ok i ∧ lo ≤ i ∧ i ≤ hi := by
  simp only [validateInt, bind_eq_ok, intCatch_error_eq_ok, raiseIf_eq_ok, pure_eq_ok,
    Except.ok.injEq, not_or, not_lt, gt_iff_lt]
  constructor
  · rintro ⟨v, hv, -, hrange, rfl⟩
    exact ⟨hv, hrange⟩
  · rintro ⟨hv, hrange⟩
    exact ⟨i, hv, (), hrange, rfl⟩

/-- The value is read as a group id. -/
def SpellsId (raw : PyVal) (id : Int) : Prop := int raw = .ok id ∧ 0 ≤ id ∧ id ≤ groupIdMax

/-- The values are read as group ids, no two the same. -/
def SpellsIds (raws : List PyVal) (ids : List Int) : Prop :=
  List.Forall₂ SpellsId raws ids ∧ ids.Nodup

/-- The loop over the ids also refuses the ones it has seen. -/
theorem canonicalGroupIds_eq_ok_iff {raws : List PyVal} : ∀ {seen ids : List Int},
    canonicalGroupIds seen raws = .ok ids ↔ SpellsIds raws ids ∧ ∀ id ∈ ids, id ∉ seen := by
  induction raws with
  | nil =>
    intro seen ids
    rw [canonicalGroupIds, Except.ok.injEq]
    constructor
    · rintro rfl
      exact ⟨⟨.nil, List.nodup_nil⟩, by simp⟩
    · rintro ⟨⟨h, -⟩, -⟩
      cases h
      rfl
  | cons raw rest ih =>
    intro seen ids
    simp only [canonicalGroupIds, bind_eq_ok, intCatch_error_eq_ok, raiseIf_eq_ok, pure_eq_ok,
      Except.ok.injEq, ih, not_or, not_lt, gt_iff_lt]
    constructor
    · rintro ⟨id, hint, -, hrange, -, hseen, ids', ⟨⟨hspells, hnd⟩, hnew⟩, rfl⟩
      have hid : id ∉ ids' := fun h => hnew id h List.mem_cons_self
      refine ⟨⟨.cons ⟨hint, hrange⟩ hspells, List.nodup_cons.mpr ⟨hid, hnd⟩⟩, ?_⟩
      exact List.forall_mem_cons.mpr
        ⟨hseen, fun i hi h => hnew i hi (List.mem_cons_of_mem _ h)⟩
    · rintro ⟨⟨hspells, hnd⟩, hnew⟩
      cases hspells with
      | cons hid hspells =>
        rename_i id ids'
        obtain ⟨hfresh, hnd⟩ := List.nodup_cons.mp hnd
        obtain ⟨hseen, hnew⟩ := List.forall_mem_cons.mp hnew
        refine ⟨id, hid.1, (), hid.2, (), hseen, ids', ⟨⟨hspells, hnd⟩, fun i hi h => ?_⟩, rfl⟩
        rcases List.mem_cons.mp h with rfl | h
        · exact hfresh hi
        · exact hnew i hi h

/-! ## 2. The groups of a container -/

/-- The groups of a non-empty list of ids, in order. -/
def SpellsGroups (raw : PyVal) (groupIds : List Int) : Prop :=
  ∃ raws ids, raw = .list raws ∧ raws ≠ [] ∧ SpellsIds raws ids ∧
    groupIds = ids.insertionSort (· ≤ ·)

/-- The groups of a target: those of a list, the single group of the legacy shape, or all of them,
for which `none` stands. -/
def TakesGroups (raw : PyVal) (groupIds : Option (List Int)) : Prop :=
  ∃ d, raw = .dict d ∧
    ((Dict.get d "kind" = .str "broadcast" ∨ Dict.get d "kind" = .str "scope") ∧ groupIds = none ∨
      (Dict.get d "kind" = .str "groups" ∧
        ∃ ids, SpellsGroups (Dict.get d "value") ids ∧ groupIds = some ids) ∨
      Dict.get d "kind" = .str "group" ∧
        ∃ id, SpellsId (Dict.get d "value") id ∧ groupIds = some [id])

/-- The groups of the legacy field. -/
def LegacyGroups (raw : PyVal) (groupIds : Option (List Int)) : Prop :=
  (raw.eqStr "all" = true ∨ raw.eqInt 255 = true) ∧ groupIds = none ∨
    ∃ ids, SpellsGroups raw ids ∧ groupIds = some ids

/-- The groups with which a container is accepted: of its target or, when it has none, of the
legacy field. -/
def ContainerGroups (d : Dict) (groupIds : Option (List Int)) : Prop :=
  TakesGroups (Dict.get d "target") groupIds ∨
    Dict.get d "target" = .null ∧ LegacyGroups (Dict.get d "groups") groupIds

/-- A non-empty list, canonicalised. -/
theorem spellsGroups_iff {raw : PyVal} {groupIds : List Int} :
    SpellsGroups raw groupIds ↔ ∃ raws, raw = .list raws ∧ raws ≠ [] ∧
      ∃ ids, canonicalGroupIds [] raws = .ok ids ∧ groupIds = ids.insertionSort (· ≤ ·) := by
  simp only [SpellsGroups, canonicalGroupIds_eq_ok_iff, List.not_mem_nil, not_false_eq_true,
    implies_true, and_true]
  constructor
  · rintro ⟨raws, ids, rfl, hne, hids, rfl⟩
    exact ⟨raws, rfl, hne, ids, hids, rfl⟩
  · rintro ⟨raws, rfl, hne, ids, hids, rfl⟩
    exact ⟨raws, ids, rfl, hne, hids, rfl⟩

/-- A container accepts a target that names no device. -/
theorem containerTarget_eq_ok {raw : PyVal} {target : Target} :
    canonicalOffsetGroupContainerTarget raw = .ok target ↔
      canonicalTarget raw = .ok target ∧ target.NotDevice := by
  simp only [canonicalOffsetGroupContainerTarget, bind_eq_ok]
  constructor
  · rintro ⟨t, ht, h⟩
    cases t with
    | device value => cases h
    | broadcast => cases h; exact ⟨ht, trivial⟩
    | groups value => cases h; exact ⟨ht, trivial⟩
  · rintro ⟨ht, hdevice⟩
    refine ⟨target, ht, ?_⟩
    cases target with
    | device value => exact hdevice.elim
    | broadcast => rfl
    | groups value => rfl

/-- The legacy scope is broadcast. -/
theorem canonicalTarget_scope {d : Dict} (hscope : Dict.get d "kind" = .str "scope") :
    canonicalTarget (.dict d) = .ok .broadcast := by
  have hkind : (Dict.get d "kind").eqStr "scope" = true := eqStr_iff.mpr hscope
  rw [canonicalTarget, migrateLegacyTarget, if_pos hkind]
  exact canonicalTarget_broadcast

/-- A single group in the legacy shape is a list of one. -/
theorem canonicalTarget_group {d : Dict} {id : Int} (hgroup : Dict.get d "kind" = .str "group")
    (hvalue : int (Dict.get d "value") = .ok id) :
    canonicalTarget (.dict d) = canonicalTarget (Target.groups [id]).toPy := by
  have hkind : (Dict.get d "kind").eqStr "group" = true := eqStr_iff.mpr hgroup
  have hscope : ¬ (Dict.get d "kind").eqStr "scope" = true := by
    rw [hgroup]
    decide
  have hmigrate : migrateLegacyTarget (.dict d) = .ok (Target.groups [id]).toPy := by
    rw [migrateLegacyTarget, if_neg hscope, if_pos hkind, hvalue]
    rfl
  rw [canonicalTarget, canonicalTarget, hmigrate]
  rfl

/-- A single group that cannot be converted is refused. -/
theorem canonicalTarget_group_error {d : Dict} {e : PyErr} {target : Target}
    (hgroup : Dict.get d "kind" = .str "group") (hvalue : int (Dict.get d "value") = .error e) :
    canonicalTarget (.dict d) ≠ .ok target := by
  intro h
  rw [canonicalTarget, migrateLegacyTarget, hgroup, hvalue] at h
  cases e <;> simp [hgroup] at h

/-- A target in any other shape is read as it is. -/
theorem migrateLegacyTarget_eq_self {d : Dict} (hscope : Dict.get d "kind" ≠ .str "scope")
    (hgroup : Dict.get d "kind" ≠ .str "group") :
    migrateLegacyTarget (.dict d) = .ok (.dict d) := by
  rw [migrateLegacyTarget, if_neg fun h => hscope (eqStr_iff.mp h),
    if_neg fun h => hgroup (eqStr_iff.mp h)]

/-- A list of groups. -/
theorem canonicalTarget_list {d : Dict} {v : PyVal} {vs : List PyVal}
    (hgroups : Dict.get d "kind" = .str "groups") (hvalue : Dict.get d "value" = .list (v :: vs)) :
    canonicalTarget (.dict d) =
      (canonicalGroupIds [] (v :: vs) >>= fun ids =>
        .ok (.groups (ids.insertionSort (· ≤ ·)))) := by
  have hmigrate := migrateLegacyTarget_eq_self (d := d) (by simp [hgroups]) (by simp [hgroups])
  rw [canonicalTarget, hmigrate, ok_bind]
  simp [hgroups, hvalue]

/-- What an accepted target that names no device spells. -/
theorem takesGroups_of_canonicalTarget {raw : PyVal} {target : Target}
    (h : canonicalTarget raw = .ok target) (hdevice : target.NotDevice) :
    TakesGroups raw target.groupIds? := by
  cases raw with
  | dict d =>
    refine ⟨d, rfl, ?_⟩
    by_cases hscope : Dict.get d "kind" = .str "scope"
    · rw [canonicalTarget_scope hscope] at h
      cases h
      exact .inl ⟨.inr hscope, rfl⟩
    by_cases hgroup : Dict.get d "kind" = .str "group"
    · cases hvalue : int (Dict.get d "value") with
      | error e => exact absurd h (canonicalTarget_group_error hgroup hvalue)
      | ok id =>
        rw [canonicalTarget_group hgroup hvalue, canonicalTarget_toPy_eq_ok] at h
        obtain ⟨⟨-, -, hrange⟩, rfl⟩ := h
        exact .inr (.inr ⟨hgroup, id, ⟨hvalue, hrange id (by simp)⟩, rfl⟩)
    rw [canonicalTarget, migrateLegacyTarget_eq_self hscope hgroup, ok_bind] at h
    dsimp only at h
    split at h
    · next hbroadcast =>
      cases h
      exact .inl ⟨.inl (eqStr_iff.mp hbroadcast), rfl⟩
    split at h
    · next hgroups =>
      split at h
      · next v vs hvalue =>
        obtain ⟨ids, hids, h⟩ := bind_eq_ok.mp h
        cases h
        refine .inr (.inl ⟨eqStr_iff.mp hgroups, _, ?_, rfl⟩)
        exact spellsGroups_iff.mpr ⟨v :: vs, hvalue, by simp, ids, hids, rfl⟩
      · cases h
    split at h
    · split at h
      · obtain ⟨-, -, h⟩ := bind_eq_ok.mp h
        cases h
        exact hdevice.elim
      · cases h
    · cases h
  | _ => cases h

/-- Which groups a target has when it is accepted. -/
theorem takesGroups_iff {raw : PyVal} {groupIds : Option (List Int)} :
    TakesGroups raw groupIds ↔
      ∃ target, canonicalOffsetGroupContainerTarget raw = .ok target ∧
        target.groupIds? = groupIds := by
  simp only [containerTarget_eq_ok]
  constructor
  · rintro ⟨d, rfl, ⟨hkind | hkind, rfl⟩ | ⟨hkind, ids, hids, rfl⟩ | ⟨hkind, id, hid, rfl⟩⟩
    · refine ⟨.broadcast, ⟨?_, trivial⟩, rfl⟩
      rw [canonicalTarget, migrateLegacyTarget_eq_self (by simp [hkind]) (by simp [hkind]),
        ok_bind]
      simp [hkind]
    · exact ⟨.broadcast, ⟨canonicalTarget_scope hkind, trivial⟩, rfl⟩
    · obtain ⟨raws, hvalue, hne, ids, hids, rfl⟩ := spellsGroups_iff.mp hids
      obtain ⟨v, vs, rfl⟩ := List.exists_cons_of_ne_nil hne
      refine ⟨.groups (ids.insertionSort (· ≤ ·)), ⟨?_, trivial⟩, rfl⟩
      rw [canonicalTarget_list hkind hvalue, hids, ok_bind]
    · refine ⟨.groups [id], ⟨?_, trivial⟩, rfl⟩
      rw [canonicalTarget_group hkind hid.1]
      have hcanonical : (Target.groups [id]).Canonical :=
        ⟨by simp, by simp, by simpa using hid.2⟩
      exact canonicalTarget_toPy_eq_ok.mpr ⟨hcanonical, rfl⟩
  · rintro ⟨target, ⟨h, hdevice⟩, rfl⟩
    exact takesGroups_of_canonicalTarget h hdevice

theorem takesGroups_broadcast {groupIds : Option (List Int)} :
    TakesGroups (strDict [("kind", .str "broadcast")]) groupIds ↔ groupIds = none := by
  simp [TakesGroups, strDict, Dict.get]

theorem takesGroups_groups {value : PyVal} {groupIds : Option (List Int)} :
    TakesGroups (strDict [("kind", .str "groups"), ("value", value)]) groupIds ↔
      ∃ ids, SpellsGroups value ids ∧ groupIds = some ids := by
  simp [TakesGroups, strDict, Dict.get]

/-- A target that is there is taken as it is. -/
theorem containerTargetRaw_of_ne {d : Dict} (htarget : Dict.get d "target" ≠ .null) :
    containerTargetRaw d = .ok (Dict.get d "target") := by
  unfold containerTargetRaw
  split
  · next hnull => exact absurd hnull htarget
  · rfl

/-- The target that the legacy field stands for. -/
theorem legacyGroups_iff {d : Dict} {groupIds : Option (List Int)}
    (htarget : Dict.get d "target" = .null) :
    LegacyGroups (Dict.get d "groups") groupIds ↔
      ∃ raw, containerTargetRaw d = .ok raw ∧ TakesGroups raw groupIds := by
  unfold containerTargetRaw LegacyGroups
  rw [htarget]
  dsimp only
  generalize Dict.get d "groups" = legacy
  by_cases hall : (legacy.eqStr "all" || legacy.eqInt 255) = true
  · rw [if_pos hall]
    rw [Bool.or_eq_true] at hall
    simp only [Except.ok.injEq, exists_eq_left', takesGroups_broadcast]
    refine ⟨?_, fun hnone => .inl ⟨hall, hnone⟩⟩
    rintro (⟨-, hnone⟩ | ⟨_, ⟨raws, _, rfl, -⟩, -⟩)
    · exact hnone
    · exact absurd hall (by simp [PyVal.eqStr, PyVal.eqInt])
  · rw [if_neg hall]
    rw [Bool.or_eq_true] at hall
    rw [or_iff_right fun h => hall h.1]
    split
    · simp only [Except.ok.injEq, exists_eq_left', takesGroups_groups]
    · next hne =>
      constructor
      · rintro ⟨_, ⟨raws, _, rfl, hraws, -⟩, -⟩
        obtain ⟨v, vs, rfl⟩ := List.exists_cons_of_ne_nil hraws
        exact absurd rfl (hne v vs)
      · rintro ⟨_, ⟨⟩, -⟩

/-- **The groups of a container**: those that its target is accepted with, whether it has one or
takes it over from the legacy field. -/
theorem containerGroups_iff {d : Dict} {groupIds : Option (List Int)} :
    ContainerGroups d groupIds ↔
      ∃ raw target, containerTargetRaw d = .ok raw ∧
        canonicalOffsetGroupContainerTarget raw = .ok target ∧ target.groupIds? = groupIds := by
  simp only [exists_and_left, ← takesGroups_iff]
  by_cases htarget : Dict.get d "target" = .null
  · have hnone : ¬ TakesGroups (Dict.get d "target") groupIds := by
      rw [htarget]
      rintro ⟨_, ⟨⟩, -⟩
    rw [ContainerGroups, or_iff_right hnone, and_iff_right htarget, legacyGroups_iff htarget]
  · rw [ContainerGroups, or_iff_left fun h => htarget h.1, containerTargetRaw_of_ne htarget]
    simp only [Except.ok.injEq, exists_eq_left']

/-! ## 3. Offset blocks -/

/-- An explicit value: the id of one of the groups, and an offset in range. -/
def FitsValue (groupIds : List Int) (raw : PyVal) : Prop :=
  ∃ d id, raw = .dict d ∧ SpellsId (Dict.get d "id") id ∧ id ∈ groupIds ∧
    InRange (Dict.get d "offset_ms") offsetMsMin offsetMsMax

/-- The numbers of a formula are in range. -/
def FitsFormula (d : Dict) : Prop :=
  InRange (Dict.getD d "base_ms" (.int 0)) offsetBaseMin offsetBaseMax ∧
    InRange (Dict.getD d "step_ms" (.int 0)) offsetStepMin offsetStepMax ∧
    (Dict.get d "mode" = .str "vshape" → InRange (Dict.getD d "center" (.int 0)) 0 groupIdMax) ∧
    (Dict.get d "mode" = .str "modulo" →
      InRange (Dict.getD d "cycle" (.int 1)) offsetCycleMin offsetCycleMax)

/-- An offset block over the groups of its container: none, a value for each group, or a
formula. -/
def FitsBlock (groupIds : Option (List Int)) (raw : PyVal) : Prop :=
  ∃ d, raw = .dict d ∧
    (Dict.get d "mode" = .str "none" ∨
      (Dict.get d "mode" = .str "explicit" ∧ ∃ ids raws, groupIds = some ids ∧
        Dict.get d "values" = .list raws ∧ raws.length = ids.length ∧
        ∀ raw ∈ raws, FitsValue ids raw) ∨
      (Dict.get d "mode" = .str "linear" ∨ Dict.get d "mode" = .str "vshape" ∨
        Dict.get d "mode" = .str "modulo") ∧ FitsFormula d)

theorem accepts_values_iff {groupIds : List Int} {raws : List PyVal} :
    Accepts (canonicalValues groupIds raws) ↔ ∀ raw ∈ raws, FitsValue groupIds raw := by
  induction raws with
  | nil => exact iff_of_true ⟨[], rfl⟩ (by simp)
  | cons raw rest ih =>
    rw [List.forall_mem_cons, ← ih]
    cases raw with
    | dict d =>
      simp only [Accepts, canonicalValues, bind_eq_ok, validateInt_eq_ok_iff, raiseIf_eq_ok,
        not_not, pure_eq_ok, Except.ok.injEq, FitsValue, SpellsId, InRange, PyVal.dict.injEq]
      constructor
      · rintro ⟨_, id, hid, -, hmem, ms, hms, values, hvalues, -⟩
        exact ⟨⟨d, id, rfl, hid, hmem, ms, hms⟩, values, hvalues⟩
      · rintro ⟨⟨_, id, rfl, hid, hmem, ms, hms⟩, values, hvalues⟩
        exact ⟨_, id, hid, (), hmem, ms, hms, values, hvalues, rfl⟩
    | _ =>
      refine iff_of_false ?_ ?_
      · rintro ⟨_, ⟨⟩⟩
      · rintro ⟨⟨_, _, ⟨⟩, -⟩, -⟩

/-- A mode is one of the five, or it is refused. -/
theorem mode_cases {mode : PyVal} (h : offsetFormulaModes.any mode.eqStr = true) :
    mode = .str "none" ∨ mode = .str "explicit" ∨ mode = .str "linear" ∨ mode = .str "vshape" ∨
      mode = .str "modulo" := by
  simpa [offsetFormulaModes, eqStr_iff] using h

/-- **The offset block of a container**: which of them are accepted over its groups. -/
theorem accepts_offsetBlock_iff {raw : PyVal} {groupIds : Option (List Int)} :
    Accepts (canonicalOffsetBlock raw groupIds.isNone groupIds) ↔ FitsBlock groupIds raw := by
  cases raw with
  | dict d =>
    unfold canonicalOffsetBlock FitsBlock FitsFormula
    simp only [Accepts, bind_eq_ok, raiseIf_eq_ok, not_not, PyVal.dict.injEq, exists_eq_left']
    generalize Dict.get d "mode" = mode
    by_cases hmode : offsetFormulaModes.any mode.eqStr = true
    · rcases mode_cases hmode with rfl | rfl | rfl | rfl | rfl
      · exact iff_of_true ⟨.none, (), hmode, rfl⟩ (.inl rfl)
      · cases groupIds with
        | none => simp
        | some ids =>
          cases Dict.get d "values" with
          | list raws =>
            simp [bind_eq_ok, ← accepts_values_iff, Accepts, hmode]
          | _ => simp
      · simp [bind_eq_ok, validateInt_eq_ok_iff, InRange, hmode]
      · simp [bind_eq_ok, validateInt_eq_ok_iff, InRange, hmode]
      · simp [bind_eq_ok, validateInt_eq_ok_iff, InRange, hmode]
    · refine iff_of_false ?_ ?_
      · rintro ⟨_, _, h, -⟩
        exact hmode h
      · rintro (rfl | ⟨rfl, -⟩ | ⟨rfl | rfl | rfl, -⟩) <;> exact hmode (by decide)
  | _ =>
    refine iff_of_false ?_ ?_
    · rintro ⟨_, ⟨⟩⟩
    · rintro ⟨_, ⟨⟩, -⟩

end RaceLink
