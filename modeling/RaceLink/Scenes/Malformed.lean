/-
# What a malformed scene costs

`_load` reads a file that anyone may have edited: it drops the actions of a scene that the validator
refuses and goes on.  It catches `ValueError` for that, and the validator does not raise
`ValueError` only.  `int(x)` of an infinite number overflows wherever it is called, and the
migration of the legacy `groups_offset` actions converts and copies with no handler at all.

Below, the condition for each function says which of the values it comes to must be readable, over
the groups and the blocks that are accepted before them; `malformed_iff` puts them together for a
list of actions and for a file.
-/
import RaceLink.Scenes.Accepted
import RaceLink.Scenes.Reload

namespace RaceLink

open Python

/-! ## 1. Targets -/

/-- The group ids of a list that the validator comes to are not infinite. -/
def SafeGroupIds (seen : List Int) : List PyVal → Prop
  | [] => True
  | entry :: rest =>
    NotInfinite entry ∧ ∀ v, int entry = .ok v → 0 ≤ v ∧ v ≤ groupIdMax → v ∉ seen →
      SafeGroupIds (v :: seen) rest

/-- The same for a target, whose single group may be in the legacy shape. -/
def SafeTarget : PyVal → Prop
  | .dict d =>
    ((Dict.get d "kind").eqStr "group" = true → NotInfinite (Dict.get d "value")) ∧
      ((Dict.get d "kind").eqStr "groups" = true →
        ∀ ids, Dict.get d "value" = .list ids → SafeGroupIds [] ids)
  | _ => True

theorem onlyValueError_groupIds_iff {ids : List PyVal} : ∀ {seen : List Int},
    OnlyValueError (canonicalGroupIds seen ids) ↔ SafeGroupIds seen ids := by
  induction ids with
  | nil => exact fun {seen} => iff_of_true (.ok []) trivial
  | cons entry rest ih =>
    intro seen
    rw [canonicalGroupIds, OnlyValueError.bind_iff, onlyValueError_intCatch_iff (.valueError _)]
    simp only [OnlyValueError.raiseIf_bind_iff, pure_eq_ok, OnlyValueError.bind_ok_iff, ih,
      intCatch_error_eq_ok, SafeGroupIds, not_or, not_lt, gt_iff_lt]

/-- A value spells one text only. -/
theorem not_eqStr {v : PyVal} {s t : String} (h : v.eqStr s = true) (hne : s ≠ t) :
    ¬ v.eqStr t = true := by
  rw [eqStr_iff.mp h, eqStr_str, beq_iff_eq]
  exact hne

/-- A target that the legacy migration leaves as it is. -/
theorem onlyValueError_unmigrated_iff {d : Dict}
    (hscope : ¬ (Dict.get d "kind").eqStr "scope" = true)
    (hgroup : ¬ (Dict.get d "kind").eqStr "group" = true) :
    OnlyValueError (canonicalTarget (.dict d)) ↔
      ((Dict.get d "kind").eqStr "groups" = true →
        ∀ ids, Dict.get d "value" = .list ids → SafeGroupIds [] ids) := by
  have hmigrate := migrateLegacyTarget_eq_self (mt eqStr_iff.mpr hscope) (mt eqStr_iff.mpr hgroup)
  simp only [canonicalTarget, hmigrate, ok_bind]
  by_cases hbroadcast : (Dict.get d "kind").eqStr "broadcast" = true
  · rw [if_pos hbroadcast]
    exact iff_of_true (.ok _) fun hgroups => absurd hgroups (not_eqStr hbroadcast (by decide))
  rw [if_neg hbroadcast]
  by_cases hgroups : (Dict.get d "kind").eqStr "groups" = true
  · rw [if_pos hgroups]
    simp only [hgroups, true_implies]
    split
    · next v vs hvalue =>
      refine (OnlyValueError.bind_ok_iff.trans onlyValueError_groupIds_iff).trans ?_
      simp only [hvalue, PyVal.list.injEq, forall_eq']
    · next hne =>
      refine iff_of_true (.valueError _) fun ids hids => ?_
      cases ids with
      | nil => trivial
      | cons v vs => exact absurd hids (hne v vs)
  · rw [if_neg hgroups]
    refine iff_of_true ?_ fun h => absurd h hgroups
    split
    · split
      · exact .bind (.raiseIf _ _) fun _ => .ok _
      · exact .valueError _
    · exact .valueError _

/-- A target in the legacy shape: its value is converted, and what cannot be converted stays. -/
theorem onlyValueError_legacyGroup_iff {d : Dict}
    (hgroup : (Dict.get d "kind").eqStr "group" = true) :
    OnlyValueError (canonicalTarget (.dict d)) ↔ NotInfinite (Dict.get d "value") := by
  have hscope : ¬ (Dict.get d "kind").eqStr "scope" = true := not_eqStr hgroup (by decide)
  have hstays : migrateLegacyTarget (.dict d) = .ok (.dict d) →
      OnlyValueError (canonicalTarget (.dict d)) := by
    intro hmigrate
    rw [canonicalTarget, hmigrate, ok_bind]
    simp only [if_neg (not_eqStr hgroup (t := "broadcast") (by decide)),
      if_neg (not_eqStr hgroup (t := "groups") (by decide)),
      if_neg (not_eqStr hgroup (t := "device") (by decide))]
    exact .valueError _
  cases hvalue : int (Dict.get d "value") with
  | ok v =>
    refine iff_of_true ?_ fun negative hinf => ?_
    · rw [canonicalTarget_group (eqStr_iff.mp hgroup) hvalue]
      exact onlyValueError_target (.groups [v])
    · rw [hinf] at hvalue
      cases hvalue
  | error e =>
    rcases int_eq_error hvalue with rfl | ⟨msg, rfl⟩ | ⟨rfl, negative, hinf⟩
    · refine iff_of_true (hstays ?_) fun negative hinf => ?_
      · rw [migrateLegacyTarget, if_neg hscope, if_pos hgroup, hvalue]
      · rw [hinf] at hvalue
        cases hvalue
    · refine iff_of_true (hstays ?_) fun negative hinf => ?_
      · rw [migrateLegacyTarget, if_neg hscope, if_pos hgroup, hvalue]
      · rw [hinf] at hvalue
        cases hvalue
    · refine iff_of_false ?_ fun h => h negative hinf
      rw [canonicalTarget, migrateLegacyTarget, if_neg hscope, if_pos hgroup, hvalue]
      intro h
      obtain ⟨_, ⟨⟩⟩ := h _ rfl

theorem onlyValueError_target_iff {raw : PyVal} :
    OnlyValueError (canonicalTarget raw) ↔ SafeTarget raw := by
  cases raw with
  | dict d =>
    by_cases hscope : (Dict.get d "kind").eqStr "scope" = true
    · refine iff_of_true ?_ ⟨fun h => absurd h (not_eqStr hscope (by decide)),
        fun h => absurd h (not_eqStr hscope (by decide))⟩
      rw [canonicalTarget, migrateLegacyTarget, if_pos hscope]
      exact onlyValueError_target .broadcast
    by_cases hgroup : (Dict.get d "kind").eqStr "group" = true
    · have hgroups : ¬ (Dict.get d "kind").eqStr "groups" = true :=
        not_eqStr hgroup (by decide)
      rw [SafeTarget, and_iff_left fun h => absurd h hgroups, imp_iff_right hgroup]
      exact onlyValueError_legacyGroup_iff hgroup
    · rw [SafeTarget, and_iff_right fun h => absurd h hgroup]
      exact onlyValueError_unmigrated_iff hscope hgroup
  | _ => exact iff_of_true (.valueError _) trivial

theorem onlyValueError_containerTarget_iff {raw : PyVal} :
    OnlyValueError (canonicalOffsetGroupContainerTarget raw) ↔ SafeTarget raw := by
  rw [canonicalOffsetGroupContainerTarget, OnlyValueError.bind_iff, onlyValueError_target_iff]
  refine and_iff_left fun target _ => ?_
  cases target with
  | device value => exact .valueError _
  | broadcast => exact .ok _
  | groups value => exact .ok _

theorem onlyValueError_childTarget_iff {raw : PyVal} {parentGroups : Option (List Int)} :
    OnlyValueError (canonicalOffsetGroupChildTarget raw parentGroups) ↔ SafeTarget raw := by
  rw [canonicalOffsetGroupChildTarget, OnlyValueError.bind_iff, onlyValueError_target_iff]
  refine and_iff_left fun target _ => ?_
  split
  · exact .bind (onlyValueError_checkChildGroups _ _) fun _ => .ok _
  · exact .ok _

/-! ## 2. Effects -/

/-- The target of an effect is only looked at when there is one. -/
theorem safeTarget_of_not_contains {d : Dict} (h : ¬ Dict.contains d "target" = true) :
    SafeTarget (Dict.get d "target") := by
  have hnone : Dict.find? d "target" = none := by
    simpa [Dict.contains] using h
  rw [Dict.get, hnone]
  trivial

/-- A target that is required and read, followed by checks that raise nothing else. -/
theorem onlyValueError_requireTarget_iff {d : Dict} {msg : Msg} {read : Except PyErr Target}
    {rest : Target → Except PyErr Effect}
    (hread : OnlyValueError read ↔ SafeTarget (Dict.get d "target"))
    (hrest : ∀ target, OnlyValueError (rest target)) :
    OnlyValueError (raiseIf (¬ Dict.contains d "target") msg >>= fun _ => read >>= rest) ↔
      SafeTarget (Dict.get d "target") := by
  rw [OnlyValueError.raiseIf_bind_iff, not_not, OnlyValueError.bind_iff, hread,
    and_iff_left fun target _ => hrest target]
  refine ⟨fun h => ?_, fun h _ => h⟩
  by_cases hcontains : Dict.contains d "target" = true
  · exact h hcontains
  · exact safeTarget_of_not_contains hcontains

theorem onlyValueError_effect_iff {kind : EffectKind} {d : Dict} :
    OnlyValueError (canonicalEffect kind d) ↔ SafeTarget (Dict.get d "target") := by
  refine onlyValueError_requireTarget_iff onlyValueError_target_iff fun target => ?_
  refine .bind (onlyValueError_params _ _) fun params => ?_
  split
  · exact .bind (onlyValueError_flagsOverride _) fun _ => .ok _
  · exact .ok _

/-- The target of a child is safe. -/
def SafeChild : PyVal → Prop
  | .dict d =>
    (∃ k ∈ offsetGroupChildKinds, (Dict.get d "kind").eqStr k.name = true) →
      SafeTarget (Dict.get d "target")
  | _ => True

theorem onlyValueError_child_iff {parentGroups : Option (List Int)} {raw : PyVal} :
    OnlyValueError (canonicalOffsetGroupChild parentGroups raw) ↔ SafeChild raw := by
  cases raw with
  | dict d =>
    rw [canonicalOffsetGroupChild, SafeChild]
    cases hkind : offsetGroupChildKinds.find? fun k => (Dict.get d "kind").eqStr k.name with
    | none =>
      refine iff_of_true (.valueError _) ?_
      rintro ⟨k, hk, hname⟩
      exact absurd hname (List.find?_eq_none.mp hkind k hk)
    | some k =>
      have hmem : ∃ k ∈ offsetGroupChildKinds, (Dict.get d "kind").eqStr k.name = true :=
        ⟨k, List.mem_of_find?_eq_some hkind,
          List.find?_some (p := fun k : EffectKind => (Dict.get d "kind").eqStr k.name) hkind⟩
      rw [imp_iff_right hmem]
      refine onlyValueError_requireTarget_iff onlyValueError_childTarget_iff fun target => ?_
      refine .bind (onlyValueError_params _ _) fun params => ?_
      exact .bind (onlyValueError_flagsOverride _) fun flags => .ok _
  | _ => exact iff_of_true (.valueError _) trivial

/-! ## 3. Offset groups -/

theorem onlyValueError_validateInt_iff {name : String} {v : PyVal} {lo hi : Int} :
    OnlyValueError (validateInt name v lo hi) ↔ NotInfinite v := by
  rw [validateInt, OnlyValueError.bind_iff, onlyValueError_intCatch_iff (.valueError _)]
  exact and_iff_left fun i _ => .bind (.raiseIf _ _) fun _ => .ok i

/-- A checked integer, and what is read when it is in range. -/
theorem onlyValueError_validateInt_bind_iff {α : Type} {name : String} {v : PyVal} {lo hi : Int}
    {rest : Int → Except PyErr α} {safe : Prop} (h : ∀ i, OnlyValueError (rest i) ↔ safe) :
    OnlyValueError (validateInt name v lo hi >>= rest) ↔
      NotInfinite v ∧ (InRange v lo hi → safe) := by
  rw [OnlyValueError.bind_iff, onlyValueError_validateInt_iff]
  simp only [h, validateInt_eq_ok_iff, InRange, forall_exists_index]

/-- The ids and the offsets of an explicit block that the validator comes to are not infinite. -/
def SafeValues (groupIds : List Int) : List PyVal → Prop
  | [] => True
  | .dict d :: rest =>
    NotInfinite (Dict.get d "id") ∧
      ∀ gid, int (Dict.get d "id") = .ok gid → 0 ≤ gid ∧ gid ≤ groupIdMax → gid ∈ groupIds →
        NotInfinite (Dict.get d "offset_ms") ∧
          (InRange (Dict.get d "offset_ms") offsetMsMin offsetMsMax → SafeValues groupIds rest)
  | _ :: _ => True

theorem onlyValueError_values_iff {groupIds : List Int} {values : List PyVal} :
    OnlyValueError (canonicalValues groupIds values) ↔ SafeValues groupIds values := by
  induction values with
  | nil => exact iff_of_true (.ok []) trivial
  | cons raw rest ih =>
    cases raw with
    | dict d =>
      rw [canonicalValues, SafeValues, OnlyValueError.bind_iff, onlyValueError_validateInt_iff]
      have hrest : ∀ gid, OnlyValueError (validateInt "groups_offset.offset.values[].offset_ms"
            (Dict.get d "offset_ms") offsetMsMin offsetMsMax >>= fun ms =>
          canonicalValues groupIds rest >>= fun values => pure (⟨gid, ms⟩ :: values)) ↔ _ :=
        fun gid => onlyValueError_validateInt_bind_iff fun ms =>
          OnlyValueError.bind_ok_iff.trans ih
      simp only [OnlyValueError.raiseIf_bind_iff, hrest, validateInt_eq_ok_iff, not_not, and_imp]
    | _ => exact iff_of_true (.valueError _) trivial

/-- The numbers of a formula that the validator comes to are not infinite. -/
def SafeFormula (d : Dict) : Prop :=
  NotInfinite (Dict.getD d "base_ms" (.int 0)) ∧
    (InRange (Dict.getD d "base_ms" (.int 0)) offsetBaseMin offsetBaseMax →
      NotInfinite (Dict.getD d "step_ms" (.int 0)) ∧
        (InRange (Dict.getD d "step_ms" (.int 0)) offsetStepMin offsetStepMax →
          ((Dict.get d "mode").eqStr "vshape" = true →
            NotInfinite (Dict.getD d "center" (.int 0))) ∧
          ((Dict.get d "mode").eqStr "modulo" = true →
            NotInfinite (Dict.getD d "cycle" (.int 1)))))

/-- An offset block: its explicit values or its formula. -/
def SafeBlock (groupIds : Option (List Int)) : PyVal → Prop
  | .dict d =>
    ((Dict.get d "mode").eqStr "explicit" = true → ∀ ids raws, groupIds = some ids →
      Dict.get d "values" = .list raws → raws.length = ids.length → SafeValues ids raws) ∧
    ((Dict.get d "mode").eqStr "linear" = true ∨ (Dict.get d "mode").eqStr "vshape" = true ∨
      (Dict.get d "mode").eqStr "modulo" = true → SafeFormula d)
  | _ => True

theorem onlyValueError_explicit_iff {groupIds : Option (List Int)} {values : PyVal} :
    OnlyValueError (match groupIds.isNone, groupIds with
      | false, some ids =>
        match values with
        | .list raws => do
          raiseIf (raws.length ≠ ids.length) valuesLengthMsg
          let values ← canonicalValues ids raws
          pure (OffsetBlock.explicit (values.insertionSort fun a b => a.id ≤ b.id))
        | _ => .error (.valueError valuesLengthMsg)
      | _, _ => .error (.valueError
          [.text "groups_offset.offset.mode=\"explicit\" requires a concrete groups list"])) ↔
      ∀ ids raws, groupIds = some ids → values = .list raws → raws.length = ids.length →
        SafeValues ids raws := by
  cases groupIds with
  | none =>
    refine iff_of_true (.valueError _) ?_
    rintro _ _ ⟨⟩
  | some ids =>
    cases values with
    | list raws =>
      simp only [Option.isNone_some, OnlyValueError.raiseIf_bind_iff, not_not, pure_eq_ok,
        OnlyValueError.bind_ok_iff, onlyValueError_values_iff]
      constructor
      · rintro h ids raws ⟨⟩ ⟨⟩
        exact h
      · intro h
        exact h ids raws rfl rfl
    | _ =>
      refine iff_of_true (.valueError _) ?_
      rintro _ _ - ⟨⟩

/-- The last number of a formula, after its base and its step. -/
theorem onlyValueError_lastNumber_iff {d : Dict} {mode : PyVal} (base step : Int)
    (h : mode = .str "linear" ∨ mode = .str "vshape" ∨ mode = .str "modulo") :
    OnlyValueError (if mode.eqStr "linear" = true then pure (OffsetBlock.linear base step)
      else if mode.eqStr "vshape" = true then do
        let center ← validateInt "groups_offset.offset.center" (Dict.getD d "center" (.int 0))
          0 groupIdMax
        pure (.vshape base step center)
      else if mode.eqStr "modulo" = true then do
        let cycle ← validateInt "groups_offset.offset.cycle" (Dict.getD d "cycle" (.int 1))
          offsetCycleMin offsetCycleMax
        pure (.modulo base step cycle)
      else .error .assertionError) ↔
      (mode.eqStr "vshape" = true → NotInfinite (Dict.getD d "center" (.int 0))) ∧
        (mode.eqStr "modulo" = true → NotInfinite (Dict.getD d "cycle" (.int 1))) := by
  rcases h with rfl | rfl | rfl
  · exact iff_of_true (.ok _) ⟨nofun, nofun⟩
  · refine OnlyValueError.bind_ok_iff.trans (onlyValueError_validateInt_iff.trans ?_)
    simp
  · refine OnlyValueError.bind_ok_iff.trans (onlyValueError_validateInt_iff.trans ?_)
    simp

theorem onlyValueError_offsetBlock_iff {raw : PyVal} {groupIds : Option (List Int)} :
    OnlyValueError (canonicalOffsetBlock raw groupIds.isNone groupIds) ↔
      SafeBlock groupIds raw := by
  cases raw with
  | dict d =>
    unfold canonicalOffsetBlock
    dsimp only
    rw [SafeBlock, OnlyValueError.raiseIf_bind_iff, not_not, SafeFormula]
    generalize Dict.get d "mode" = mode
    by_cases hmode : offsetFormulaModes.any mode.eqStr = true
    · rw [imp_iff_right hmode]
      rcases mode_cases hmode with rfl | rfl | h
      · exact iff_of_true (.ok _) ⟨fun h => absurd h (by decide), fun h => absurd h (by decide)⟩
      · refine onlyValueError_explicit_iff.trans ?_
        simp
      · have hnone : ¬ mode.eqStr "none" = true := by rcases h with rfl | rfl | rfl <;> decide
        have hexplicit : ¬ mode.eqStr "explicit" = true := by
          rcases h with rfl | rfl | rfl <;> decide
        have hone : mode.eqStr "linear" = true ∨ mode.eqStr "vshape" = true ∨
            mode.eqStr "modulo" = true := by
          rcases h with rfl | rfl | rfl <;> decide
        rw [if_neg hnone, if_neg hexplicit, and_iff_right fun h => absurd h hexplicit,
          imp_iff_right hone]
        exact onlyValueError_validateInt_bind_iff fun base =>
          onlyValueError_validateInt_bind_iff fun step => onlyValueError_lastNumber_iff base step h
    · have hother : ∀ t ∈ offsetFormulaModes, ¬ mode.eqStr t = true := fun t ht h =>
        hmode (List.any_eq_true.mpr ⟨t, ht, h⟩)
      refine iff_of_true (fun h => absurd h hmode) ⟨fun h => ?_, fun h => ?_⟩
      · exact absurd h (hother "explicit" (by simp [offsetFormulaModes]))
      · rcases h with h | h | h
        · exact absurd h (hother "linear" (by simp [offsetFormulaModes]))
        · exact absurd h (hother "vshape" (by simp [offsetFormulaModes]))
        · exact absurd h (hother "modulo" (by simp [offsetFormulaModes]))
  | _ => exact iff_of_true (.valueError _) trivial

theorem onlyValueError_containerTargetRaw (d : Dict) : OnlyValueError (containerTargetRaw d) := by
  unfold containerTargetRaw
  split
  · dsimp only
    split
    · exact .ok _
    · split
      · exact .ok _
      · exact .valueError _
  · exact .ok _

/-- A container's target is safe or, when it has none, the groups of the legacy field. -/
def SafeContainerTarget (d : Dict) : Prop :=
  SafeTarget (Dict.get d "target") ∧
    (Dict.get d "target" = .null →
      ∀ ids, Dict.get d "groups" = .list ids → SafeGroupIds [] ids)

theorem safeTarget_groups {value : PyVal} :
    SafeTarget (strDict [("kind", .str "groups"), ("value", value)]) ↔
      ∀ ids, value = .list ids → SafeGroupIds [] ids := by
  simp [SafeTarget, strDict, Dict.get]

theorem onlyValueError_containerTargets_iff {d : Dict} :
    (∀ raw, containerTargetRaw d = .ok raw →
      OnlyValueError (canonicalOffsetGroupContainerTarget raw)) ↔ SafeContainerTarget d := by
  simp only [onlyValueError_containerTarget_iff]
  by_cases htarget : Dict.get d "target" = .null
  · have hsafe : SafeTarget (Dict.get d "target") := by
      rw [htarget]
      trivial
    rw [SafeContainerTarget, and_iff_right hsafe, imp_iff_right htarget]
    unfold containerTargetRaw
    rw [htarget]
    dsimp only
    generalize Dict.get d "groups" = legacy
    split
    · next hall =>
      refine iff_of_true ?_ ?_
      · rintro _ ⟨⟩
        exact onlyValueError_target_iff.mp (onlyValueError_target .broadcast)
      · rintro ids rfl
        exact absurd hall (by simp [PyVal.eqStr, PyVal.eqInt])
    · split
      · simp only [Except.ok.injEq, forall_eq', safeTarget_groups]
      · next hne =>
        refine iff_of_true ?_ ?_
        · rintro _ ⟨⟩
        · rintro (_ | ⟨v, vs⟩) rfl
          · trivial
          · exact absurd rfl (hne v vs)
  · have hraw : containerTargetRaw d = .ok (Dict.get d "target") := containerTargetRaw_of_ne htarget
    rw [SafeContainerTarget, and_iff_left fun h => absurd h htarget, hraw]
    simp only [Except.ok.injEq, forall_eq']

/-- What the validator comes to in a container over its groups: the offset block, and the children
when the block is accepted. -/
def SafeContents (d : Dict) (groupIds : Option (List Int)) : Prop :=
  (groupIds.getD []).length ≤ maxGroupsOffsetEntries →
    SafeBlock groupIds (Dict.get d "offset") ∧
      (FitsBlock groupIds (Dict.get d "offset") →
        ∀ children, (Dict.get d "actions").or (.list []) = .list children →
          children.length ≤ maxOffsetGroupChildren →
          EachReached (canonicalOffsetGroupChild groupIds) SafeChild children)

/-- What the validator comes to in a container: its target, and its contents over the groups that
it accepts. -/
def SafeOffsetGroup (d : Dict) : Prop :=
  SafeContainerTarget d ∧ ∀ groupIds, ContainerGroups d groupIds → SafeContents d groupIds

theorem onlyValueError_children_iff {target : Target} {offset : OffsetBlock} {actions : PyVal} :
    OnlyValueError (match actions with
      | .list children => do
        raiseIf (children.length > maxOffsetGroupChildren)
          [.text s!"offset_group has {children.length} children; max is {maxOffsetGroupChildren}"]
        let actions ← canonicalChildren target.groupIds? children
        pure (Action.offsetGroup target offset actions)
      | _ => .error (.valueError [.text "offset_group.actions must be a list"])) ↔
      ∀ children, actions = .list children → children.length ≤ maxOffsetGroupChildren →
        EachReached (canonicalOffsetGroupChild target.groupIds?) SafeChild children := by
  cases actions with
  | list children =>
    simp only [OnlyValueError.raiseIf_bind_iff, pure_eq_ok, OnlyValueError.bind_ok_iff,
      canonicalChildren, onlyValueError_mapM_iff fun _ => onlyValueError_child_iff, gt_iff_lt,
      not_lt, PyVal.list.injEq, forall_eq']
  | _ =>
    refine iff_of_true (.valueError _) ?_
    rintro _ ⟨⟩

theorem onlyValueError_offsetGroup_iff {d : Dict} :
    OnlyValueError (canonicalOffsetGroupAction d) ↔ SafeOffsetGroup d := by
  rw [canonicalOffsetGroupAction, OnlyValueError.bind_iff,
    and_iff_right (onlyValueError_containerTargetRaw d), SafeOffsetGroup,
    ← onlyValueError_containerTargets_iff]
  refine (forall₂_congr fun raw _ => OnlyValueError.bind_iff.trans (and_congr_right fun _ =>
    forall₂_congr fun target htarget => (?_ : _ ↔ SafeContents d target.groupIds?))).trans ?_
  · rw [beq_broadcast (canonicalOffsetGroupContainerTarget_sound htarget).2,
      OnlyValueError.raiseIf_bind_iff, OnlyValueError.bind_iff, onlyValueError_offsetBlock_iff,
      gt_iff_lt, not_lt, SafeContents, ← accepts_offsetBlock_iff, Accepts, forall_exists_index]
    refine imp_congr_right fun _ => and_congr_right fun _ => forall₂_congr fun offset _ => ?_
    exact onlyValueError_children_iff
  · constructor
    · intro h
      refine ⟨fun raw hraw => (h raw hraw).1, fun groupIds hgroups => ?_⟩
      obtain ⟨raw, target, hraw, htarget, rfl⟩ := containerGroups_iff.mp hgroups
      exact (h raw hraw).2 target htarget
    · rintro ⟨hsafe, hcontents⟩ raw hraw
      refine ⟨hsafe raw hraw, fun target htarget => hcontents _ ?_⟩
      exact containerGroups_iff.mpr ⟨raw, target, hraw, htarget, rfl⟩

/-! ## 4. Actions -/

theorem onlyValueError_rejectStray (kind : String) (d : Dict) : ∀ strays : List String,
    OnlyValueError (rejectStray kind d strays)
  | [] => .ok ()
  | _ :: strays => .bind (.raiseIf _ _) fun _ => onlyValueError_rejectStray kind d strays

/-- What the validator comes to in an action that needs no migration. -/
def SafeActionDict (d : Dict) : Prop :=
  match Kind.ofVal? (Dict.get d "kind") with
  | none => True
  | some .offsetGroup =>
    (∀ stray ∈ ["params", "flags_override", "duration_ms"], Dict.contains d stray = false) →
      SafeOffsetGroup d
  | some .delay => NotInfinite (Dict.getD d "duration_ms" (.int 0))
  | some .sync => True
  | some (.effect _) => SafeTarget (Dict.get d "target")

theorem onlyValueError_actionDict_iff {d : Dict} :
    OnlyValueError (canonicalActionDict d) ↔ SafeActionDict d := by
  unfold canonicalActionDict SafeActionDict
  dsimp only
  cases Kind.ofVal? (Dict.get d "kind") with
  | none => exact iff_of_true (.valueError _) trivial
  | some kind =>
    cases kind with
    | offsetGroup =>
      rw [OnlyValueError.bind_iff, and_iff_right (onlyValueError_rejectStray _ _ _)]
      simp only [rejectStray_eq_ok_iff, onlyValueError_offsetGroup_iff, forall_const]
    | delay =>
      rw [OnlyValueError.bind_iff, onlyValueError_intCatch_iff (.valueError _)]
      refine and_iff_left fun dur _ => .bind (.raiseIf _ _) fun _ => ?_
      exact .bind (onlyValueError_rejectStray _ _ _) fun _ => .ok _
    | sync =>
      exact iff_of_true (.bind (onlyValueError_rejectStray _ _ _) fun _ => .ok _) trivial
    | effect k => exact OnlyValueError.bind_ok_iff.trans onlyValueError_effect_iff

/-! ## 5. The legacy `groups_offset` actions -/

/-- The id of a legacy entry. -/
def legacyId (entry : PyVal) : Except PyErr Int := do int (← attrGet entry "id")

/-- The entry is an object whose id can be converted. -/
def SafeLegacyId (entry : PyVal) : Prop := ∃ d, entry = .dict d ∧ IntReadable (Dict.get d "id")

theorem onlyValueError_legacyId_iff {entry : PyVal} :
    OnlyValueError (legacyId entry) ↔ SafeLegacyId entry := by
  cases entry with
  | dict d =>
    rw [legacyId, attrGet, ok_bind, onlyValueError_int_iff]
    simp [SafeLegacyId]
  | _ => exact iff_of_false OnlyValueError.not_attributeError (by rintro ⟨_, ⟨⟩, -⟩)

/-- The id of the entry is converted. -/
def TakesLegacyId (entry : PyVal) : Prop :=
  ∃ d, entry = .dict d ∧ Accepts (int (Dict.get d "id"))

theorem accepts_legacyId_iff {entry : PyVal} : Accepts (legacyId entry) ↔ TakesLegacyId entry := by
  cases entry with
  | dict d => simp [legacyId, attrGet, TakesLegacyId]
  | _ =>
    refine iff_of_false ?_ ?_
    · rintro ⟨_, ⟨⟩⟩
    · rintro ⟨_, ⟨⟩, -⟩

/-- The entry is an object whose id and offset can be converted. -/
def SafeLegacyValue (entry : PyVal) : Prop :=
  ∃ d, entry = .dict d ∧ IntReadable (Dict.get d "id") ∧
    (Accepts (int (Dict.get d "id")) → IntReadable (Dict.getD d "offset_ms" (.int 0)))

theorem onlyValueError_legacyValue_iff {entry : PyVal} :
    OnlyValueError (legacyValue entry) ↔ SafeLegacyValue entry := by
  cases entry with
  | dict d =>
    simp only [legacyValue, OnlyValueError.bind_iff (x := int (Dict.get d "id")), pure_eq_ok,
      OnlyValueError.bind_ok_iff, onlyValueError_int_iff, SafeLegacyValue, PyVal.dict.injEq,
      exists_eq_left', Accepts, forall_exists_index]
  | _ => exact iff_of_false OnlyValueError.not_attributeError (by rintro ⟨_, ⟨⟩, -⟩)

/-- The id and the offset of the entry are converted. -/
def TakesLegacyValue (entry : PyVal) : Prop :=
  ∃ d, entry = .dict d ∧ Accepts (int (Dict.get d "id")) ∧
    Accepts (int (Dict.getD d "offset_ms" (.int 0)))

theorem accepts_legacyValue_iff {entry : PyVal} :
    Accepts (legacyValue entry) ↔ TakesLegacyValue entry := by
  cases entry with
  | dict d => simp [legacyValue, bind_eq_ok, Accepts, TakesLegacyValue]
  | _ =>
    refine iff_of_false ?_ ?_
    · rintro ⟨_, ⟨⟩⟩
    · rintro ⟨_, ⟨⟩, -⟩

/-- The hints are taken as a formula. -/
def LinearHints (hints : Dict) : Prop :=
  (Dict.get hints "mode").eqStr "linear" = true ∧ Dict.get hints "base_ms" ≠ .null ∧
    Dict.get hints "step_ms" ≠ .null

/-- What the migration comes to in a list of legacy entries: every id, then the hints, and then
the formula of the hints or the entries. -/
def SafePreFormula (legacyTarget : Dict) (entries : List PyVal) : Prop :=
  EachReached legacyId SafeLegacyId entries ∧
    ((∀ entry ∈ entries, TakesLegacyId entry) →
      ∃ hints, (legacyTarget.get "ui_hints").or (.dict []) = .dict hints ∧
        (LinearHints hints → IntReadable (Dict.get hints "base_ms") ∧
          (Accepts (int (Dict.get hints "base_ms")) → IntReadable (Dict.get hints "step_ms"))) ∧
        (¬ LinearHints hints → EachReached legacyValue SafeLegacyValue entries))

/-- The legacy entries that are migrated. -/
def TakesPreFormula (legacyTarget : Dict) (entries : List PyVal) : Prop :=
  (∀ entry ∈ entries, TakesLegacyId entry) ∧
    ∃ hints, (legacyTarget.get "ui_hints").or (.dict []) = .dict hints ∧
      (LinearHints hints → Accepts (int (Dict.get hints "base_ms")) ∧
        Accepts (int (Dict.get hints "step_ms"))) ∧
      (¬ LinearHints hints → ∀ entry ∈ entries, TakesLegacyValue entry)

theorem accepts_legacyIds_iff {entries : List PyVal} :
    Accepts (entries.mapM legacyId) ↔ ∀ entry ∈ entries, TakesLegacyId entry :=
  accepts_mapM_iff.trans (forall₂_congr fun _ _ => accepts_legacyId_iff)

theorem accepts_legacyValues_iff {entries : List PyVal} :
    Accepts (entries.mapM legacyValue) ↔ ∀ entry ∈ entries, TakesLegacyValue entry :=
  accepts_mapM_iff.trans (forall₂_congr fun _ _ => accepts_legacyValue_iff)

/-- Where the hints are no formula, only the entries count. -/
theorem copied_iff {hints : Dict} {formula copied : Prop} (hnot : ¬ LinearHints hints) :
    (LinearHints hints → formula) ∧ (¬ LinearHints hints → copied) ↔ copied := by
  rw [and_iff_right fun h => absurd h hnot, imp_iff_right hnot]

/-- An offset block made from the entries. -/
theorem onlyValueError_copied_iff {entries : List PyVal} {ids : List Int} :
    OnlyValueError (entries.mapM legacyValue >>= fun values =>
      pure (PyVal.list (ids.map .int),
        strDict [("mode", .str "explicit"), ("values", .list values)])) ↔
      EachReached legacyValue SafeLegacyValue entries :=
  OnlyValueError.bind_ok_iff.trans
    (onlyValueError_mapM_iff fun _ => onlyValueError_legacyValue_iff)

theorem onlyValueError_preFormula_iff {legacyTarget : Dict} {entries : List PyVal} :
    OnlyValueError (preFormulaGroups legacyTarget entries) ↔
      SafePreFormula legacyTarget entries := by
  have hids : OnlyValueError (entries.mapM legacyId) ↔ EachReached legacyId SafeLegacyId entries :=
    onlyValueError_mapM_iff fun _ => onlyValueError_legacyId_iff
  unfold preFormulaGroups SafePreFormula
  refine OnlyValueError.bind_iff.trans (and_congr hids ?_)
  rw [← accepts_legacyIds_iff, Accepts, forall_exists_index]
  refine forall₂_congr fun ids _ => ?_
  cases hhints : (legacyTarget.get "ui_hints").or (.dict []) with
  | dict hints =>
    simp only [attrGet, ok_bind, PyVal.dict.injEq, exists_eq_left']
    split
    · next hmode =>
      have hnot : ¬ LinearHints hints := fun h => nomatch hmode.symm.trans h.1
      exact onlyValueError_copied_iff.trans (copied_iff hnot).symm
    · next hbase _ =>
      exact onlyValueError_copied_iff.trans (copied_iff fun h => h.2.1 hbase).symm
    · next hstep _ _ =>
      exact onlyValueError_copied_iff.trans (copied_iff fun h => h.2.2 hstep).symm
    · next hmode hbase hstep =>
      have hlinear : LinearHints hints := ⟨hmode, hbase, hstep⟩
      rw [OnlyValueError.bind_iff, onlyValueError_int_iff, imp_iff_right hlinear,
        and_iff_left fun h => absurd hlinear h, Accepts, forall_exists_index]
      refine and_congr_right fun _ => forall₂_congr fun base _ => ?_
      exact OnlyValueError.bind_ok_iff.trans onlyValueError_int_iff
  | _ => exact iff_of_false OnlyValueError.not_attributeError (by rintro ⟨_, ⟨⟩, -⟩)

/-- Every entry, and the hints, are converted or the migration raises. -/
theorem accepts_preFormula_iff {legacyTarget : Dict} {entries : List PyVal} :
    Accepts (preFormulaGroups legacyTarget entries) ↔ TakesPreFormula legacyTarget entries := by
  unfold preFormulaGroups
  refine (accepts_bind_iff fun ids => ?_).trans (and_congr_left fun _ => accepts_legacyIds_iff)
  cases hhints : (legacyTarget.get "ui_hints").or (.dict []) with
  | dict hints =>
    simp only [attrGet, ok_bind, PyVal.dict.injEq, exists_eq_left', ← accepts_legacyValues_iff]
    split
    · next hmode =>
      have hnot : ¬ LinearHints hints := fun h => Bool.false_ne_true (hmode.symm.trans h.1)
      exact accepts_map_iff.trans (copied_iff hnot).symm
    · next hbase _ => exact accepts_map_iff.trans (copied_iff fun h => h.2.1 hbase).symm
    · next hstep _ _ => exact accepts_map_iff.trans (copied_iff fun h => h.2.2 hstep).symm
    · next hmode hbase hstep =>
      have hlinear : LinearHints hints := ⟨hmode, hbase, hstep⟩
      rw [imp_iff_right hlinear, and_iff_left fun h => absurd hlinear h]
      exact accepts_bind_iff fun base => accepts_map_iff
  | _ =>
    refine iff_of_false ?_ ?_
    · rintro ⟨_, ⟨⟩⟩
    · rintro ⟨_, ⟨⟩, -⟩

/-- Only the groups in the oldest shape are read; any others are passed on. -/
theorem legacyGroupsAndOffset_iff {p : Except PyErr (PyVal × PyVal) → Prop}
    (hok : ∀ read, p (.ok read)) {legacyTarget : Dict} :
    p (legacyGroupsAndOffset legacyTarget) ↔
      ∀ e rest, legacyTarget.get "groups" = .list (.dict e :: rest) →
        p (preFormulaGroups legacyTarget (.dict e :: rest)) := by
  unfold legacyGroupsAndOffset
  split
  · next e rest hgroups =>
    constructor
    · intro h e' rest' heq
      cases hgroups.symm.trans heq
      exact h
    · exact fun h => h e rest hgroups
  · next hne => exact iff_of_true (hok _) fun e rest h => absurd h (hne e rest)

/-- The groups of a legacy target, whichever of its shapes it is in. -/
def SafeLegacyGroups (legacyTarget : Dict) : Prop :=
  ∀ e rest, legacyTarget.get "groups" = .list (.dict e :: rest) →
    SafePreFormula legacyTarget (.dict e :: rest)

theorem onlyValueError_legacyGroups_iff {legacyTarget : Dict} :
    OnlyValueError (legacyGroupsAndOffset legacyTarget) ↔ SafeLegacyGroups legacyTarget :=
  (legacyGroupsAndOffset_iff .ok).trans
    (forall₃_congr fun _ _ _ => onlyValueError_preFormula_iff)

/-- The groups that are migrated. -/
def TakesLegacyGroups (legacyTarget : Dict) : Prop :=
  ∀ e rest, legacyTarget.get "groups" = .list (.dict e :: rest) →
    TakesPreFormula legacyTarget (.dict e :: rest)

theorem accepts_legacyGroups_iff {legacyTarget : Dict} :
    Accepts (legacyGroupsAndOffset legacyTarget) ↔ TakesLegacyGroups legacyTarget :=
  (legacyGroupsAndOffset_iff fun read => ⟨read, rfl⟩).trans
    (forall₃_congr fun _ _ _ => accepts_preFormula_iff)

/-- The groups are in the oldest shape, a list of `{id, offset_ms}` entries. -/
def IsPreFormula (legacyTarget : Dict) : Prop :=
  ∃ e rest, legacyTarget.get "groups" = .list (.dict e :: rest)

/-- The groups are not `"all"`. -/
def ListsGroups (legacyTarget : Dict) : Prop :=
  ¬ ((legacyTarget.get "groups").eqStr "all" = true ∨ (legacyTarget.get "groups").eqInt 255 = true)

/-- The offset block of a legacy target. -/
def legacyOffset (legacyTarget : Dict) : PyVal :=
  (legacyTarget.get "offset").or (strDict [("mode", .str "none")])

/-- What the validator comes to in what the migration passes on: the listed groups, and over them
the offset block.  Of the oldest shape it has made integers. -/
def SafePassedOn (legacyTarget : Dict) : Prop :=
  ¬ IsPreFormula legacyTarget →
    (¬ ListsGroups legacyTarget → SafeBlock none (legacyOffset legacyTarget)) ∧
    (ListsGroups legacyTarget → ∃ raws, (legacyTarget.get "groups").iter? = some raws ∧
      SafeGroupIds [] raws ∧ ∀ groupIds, SpellsGroups (.list raws) groupIds →
        groupIds.length ≤ maxGroupsOffsetEntries →
          SafeBlock (some groupIds) (legacyOffset legacyTarget))

/-- What the migration comes to, and after it the validator: the groups, then the fields that are
copied, and then what is passed on. -/
def SafeMigration (d legacyTarget : Dict) : Prop :=
  SafeLegacyGroups legacyTarget ∧ (TakesLegacyGroups legacyTarget →
    DictReadable ((Dict.get d "params").or (.dict [])) ∧
      (Accepts (dictOf ((Dict.get d "params").or (.dict []))) →
        DictReadable ((Dict.get d "flags_override").or (.dict [])) ∧
          (Accepts (dictOf ((Dict.get d "flags_override").or (.dict []))) →
            SafePassedOn legacyTarget)))

/-- The container that the migration makes. -/
def migratedDict (target offset : PyVal) (kind : PyVal) (params flags : Dict) : Dict :=
  [(.str "kind", .str "offset_group"), (.str "target", target), (.str "offset", offset),
    (.str "actions", .list [strDict [("kind", kind),
      ("target", strDict [("kind", .str "broadcast")]), ("params", .dict params),
      ("flags_override", .dict flags)]])]

theorem migratedDict_get (target offset kind : PyVal) (params flags : Dict) :
    Dict.get (migratedDict target offset kind params flags) "kind" = .str "offset_group" ∧
      Dict.get (migratedDict target offset kind params flags) "target" = target ∧
      Dict.get (migratedDict target offset kind params flags) "offset" = offset ∧
      ∀ stray ∈ ["params", "flags_override", "duration_ms"],
        Dict.contains (migratedDict target offset kind params flags) stray = false := by
  simp [migratedDict, Dict.get, Dict.contains]

/-- The child is for every group, and nothing in it can go wrong. -/
theorem safeChild_migrated (kind : PyVal) (params flags : Dict) :
    SafeChild (strDict [("kind", kind), ("target", strDict [("kind", .str "broadcast")]),
      ("params", .dict params), ("flags_override", .dict flags)]) := by
  rintro -
  exact onlyValueError_target_iff.mp (onlyValueError_target .broadcast)

/-- What the validator comes to in it: the target, and the block over its groups. -/
theorem onlyValueError_migratedDict_iff {target offset kind : PyVal} {params flags : Dict}
    (hnull : target ≠ .null) :
    OnlyValueError (canonicalActionDict (migratedDict target offset kind params flags)) ↔
      SafeTarget target ∧ ∀ groupIds, TakesGroups target groupIds →
        (groupIds.getD []).length ≤ maxGroupsOffsetEntries → SafeBlock groupIds offset := by
  obtain ⟨hkind, htarget, hoffset, hstray⟩ := migratedDict_get target offset kind params flags
  have hofVal : Kind.ofVal? (.str "offset_group") = some .offsetGroup := rfl
  rw [onlyValueError_actionDict_iff, SafeActionDict, hkind, hofVal]
  dsimp only
  rw [imp_iff_right hstray, SafeOffsetGroup, SafeContainerTarget, htarget]
  simp only [ContainerGroups, SafeContents, htarget, hoffset, hnull, false_implies, and_true,
    false_and, or_false]
  refine and_congr_right fun _ => forall₂_congr fun groupIds _ => imp_congr_right fun _ =>
    and_iff_left fun _ children hchildren _ => ?_
  have hone : (Dict.get (migratedDict target offset kind params flags) "actions").or
      (.list []) = .list [strDict [("kind", kind), ("target", strDict [("kind", .str "broadcast")]),
        ("params", .dict params), ("flags_override", .dict flags)]] := by
    simp [migratedDict, Dict.get, PyVal.or, PyVal.truthy]
  cases hone.symm.trans hchildren
  rw [eachReached_cons]
  exact ⟨safeChild_migrated kind params flags, fun _ => eachReached_nil _ _⟩

/-- The entries that are copied are stored as values of an explicit block. -/
theorem legacyValues_toPy {entries values : List PyVal}
    (h : entries.mapM legacyValue = .ok values) :
    ∃ copied : List OffsetValue, values = copied.map (·.toPy) := by
  induction entries generalizing values with
  | nil =>
    cases h
    exact ⟨[], rfl⟩
  | cons entry entries ih =>
    simp only [List.mapM_cons, bind_eq_ok, pure_eq_ok, Except.ok.injEq] at h
    obtain ⟨value, hvalue, rest, hrest, rfl⟩ := h
    obtain ⟨copied, rfl⟩ := ih hrest
    cases entry with
    | dict d =>
      simp only [legacyValue, bind_eq_ok, pure_eq_ok, Except.ok.injEq] at hvalue
      obtain ⟨id, -, ms, -, rfl⟩ := hvalue
      exact ⟨⟨id, ms⟩ :: copied, rfl⟩
    | _ => cases hvalue

/-- Of the oldest shape the migration makes stored forms. -/
theorem preFormulaGroups_toPy {legacyTarget : Dict} {entries : List PyVal} {groups offset : PyVal}
    (h : preFormulaGroups legacyTarget entries = .ok (groups, offset)) :
    ∃ (ids : List Int) (block : OffsetBlock), groups = .list (ids.map .int) ∧
      offset = block.toPy := by
  have hcopied : ∀ {ids : List Int}, (entries.mapM legacyValue >>= fun values =>
      pure (PyVal.list (ids.map .int),
        strDict [("mode", .str "explicit"), ("values", .list values)]))
        = .ok (groups, offset) → ∃ (ids : List Int) (block : OffsetBlock),
          groups = .list (ids.map .int) ∧ offset = block.toPy := by
    intro ids h
    obtain ⟨values, hvalues, h⟩ := bind_eq_ok.mp h
    obtain ⟨copied, rfl⟩ := legacyValues_toPy hvalues
    cases h
    exact ⟨ids, .explicit copied, rfl, rfl⟩
  simp only [preFormulaGroups, bind_eq_ok] at h
  obtain ⟨ids, -, mode, -, h⟩ := h
  split at h
  · split at h
    · exact hcopied h
    · exact hcopied h
    · exact hcopied h
    · obtain ⟨base, -, h⟩ := bind_eq_ok.mp h
      obtain ⟨step, -, h⟩ := bind_eq_ok.mp h
      cases h
      exact ⟨ids, .linear base step, rfl, rfl⟩
  · cases h

/-- The groups and the block that are passed to the container. -/
theorem legacyGroupsAndOffset_eq_ok {legacyTarget : Dict} {groups offset : PyVal}
    (h : legacyGroupsAndOffset legacyTarget = .ok (groups, offset)) :
    (IsPreFormula legacyTarget ∧ ∃ (ids : List Int) (block : OffsetBlock),
      groups = .list (ids.map .int) ∧ offset = block.toPy) ∨
    (¬ IsPreFormula legacyTarget ∧ offset = legacyOffset legacyTarget ∧
      (¬ ListsGroups legacyTarget ∧ groups = .str "all" ∨
        ListsGroups legacyTarget ∧ groups = legacyTarget.get "groups")) := by
  unfold legacyGroupsAndOffset at h
  split at h
  · next e rest hgroups => exact .inl ⟨⟨e, rest, hgroups⟩, preFormulaGroups_toPy h⟩
  · next hne =>
    cases h
    refine .inr ⟨fun ⟨e, rest, h⟩ => hne e rest h, rfl, ?_⟩
    rw [ListsGroups, ← Bool.or_eq_true, not_not]
    by_cases hall : ((legacyTarget.get "groups").eqStr "all" ||
        (legacyTarget.get "groups").eqInt 255) = true
    · exact .inl ⟨hall, if_pos hall⟩
    · exact .inr ⟨hall, if_neg hall⟩

/-- For every group, the block goes through the validator as it would in a container. -/
theorem onlyValueError_passedOn_all {legacyTarget params flags : Dict} {groups offset kind : PyVal}
    (h : legacyGroupsAndOffset legacyTarget = .ok (groups, offset))
    (hall : groups.eqStr "all" = true) :
    OnlyValueError (canonicalActionDict (migratedDict (strDict [("kind", .str "broadcast")]) offset
      kind params flags)) ↔ SafePassedOn legacyTarget := by
  have hsafe : SafeTarget (strDict [("kind", .str "broadcast")]) :=
    onlyValueError_target_iff.mp (onlyValueError_target .broadcast)
  rcases legacyGroupsAndOffset_eq_ok h with
    ⟨-, ids, -, rfl, -⟩ | ⟨hnew, rfl, ⟨hlists, rfl⟩ | ⟨hlists, rfl⟩⟩
  · cases hall
  · rw [SafePassedOn, imp_iff_right hnew, imp_iff_right hlists,
      and_iff_left fun h => absurd h hlists,
      onlyValueError_migratedDict_iff (by simp [strDict]), and_iff_right hsafe]
    simp only [takesGroups_broadcast, forall_eq]
    exact imp_iff_right (Nat.zero_le _)
  · exact absurd (.inl hall) hlists

/-- For listed groups, they and the block do. -/
theorem onlyValueError_passedOn_list {legacyTarget params flags : Dict} {groups offset kind : PyVal}
    (h : legacyGroupsAndOffset legacyTarget = .ok (groups, offset))
    (hall : ¬ groups.eqStr "all" = true) :
    OnlyValueError (listOf groups >>= fun value => canonicalActionDict
      (migratedDict (strDict [("kind", .str "groups"), ("value", .list value)]) offset
        kind params flags)) ↔ SafePassedOn legacyTarget := by
  have hmigrated : ∀ (value : List PyVal) (offset : PyVal), OnlyValueError (canonicalActionDict
      (migratedDict (strDict [("kind", .str "groups"), ("value", .list value)]) offset
        kind params flags)) ↔
      SafeGroupIds [] value ∧ ∀ groupIds, SpellsGroups (.list value) groupIds →
        groupIds.length ≤ maxGroupsOffsetEntries → SafeBlock (some groupIds) offset := by
    intro value offset
    rw [onlyValueError_migratedDict_iff (by simp [strDict]), safeTarget_groups]
    simp only [takesGroups_groups, PyVal.list.injEq, forall_eq']
    refine and_congr_right fun _ => ⟨fun h ids hids => h _ ⟨ids, hids, rfl⟩, ?_⟩
    rintro h _ ⟨ids, hids, rfl⟩
    exact h ids hids
  rcases legacyGroupsAndOffset_eq_ok h with
    ⟨hold, ids, block, rfl, rfl⟩ | ⟨hnew, rfl, ⟨hlists, rfl⟩ | ⟨hlists, rfl⟩⟩
  · refine iff_of_true ?_ fun hnot => absurd hold hnot
    refine (hmigrated _ _).mpr ⟨?_, fun groupIds _ _ => ?_⟩
    · exact onlyValueError_groupIds_iff.mp (onlyValueError_groupIds ids [])
    · exact onlyValueError_offsetBlock_iff.mp
        (onlyValueError_offsetBlock block false (some groupIds) rfl)
  · exact absurd rfl hall
  · rw [SafePassedOn, imp_iff_right hnew, imp_iff_right hlists,
      and_iff_right fun h => absurd hlists h, listOf]
    cases (legacyTarget.get "groups").iter? with
    | none =>
      refine iff_of_false OnlyValueError.not_typeError ?_
      rintro ⟨_, ⟨⟩, -⟩
    | some raws =>
      simp only [ok_bind, Option.some.injEq, exists_eq_left']
      exact hmigrated _ _

/-- The migration, and then the validator. -/
theorem onlyValueError_migration_iff {d legacyTarget : Dict} :
    OnlyValueError (migrateLegacyGroupsOffsetAction d legacyTarget >>= canonicalActionDict) ↔
      SafeMigration d legacyTarget := by
  unfold migrateLegacyGroupsOffsetAction SafeMigration
  rw [bind_assoc, OnlyValueError.bind_iff, onlyValueError_legacyGroups_iff]
  refine and_congr_right fun _ => ?_
  rw [← accepts_legacyGroups_iff, Accepts, forall_exists_index]
  refine forall₂_congr fun read hread => ?_
  obtain ⟨groups, offset⟩ := read
  dsimp only
  rw [bind_assoc, OnlyValueError.bind_iff, onlyValueError_dictOf_iff]
  refine and_congr_right fun _ => ?_
  rw [Accepts, forall_exists_index]
  refine forall₂_congr fun params _ => ?_
  rw [bind_assoc, OnlyValueError.bind_iff, onlyValueError_dictOf_iff]
  refine and_congr_right fun _ => ?_
  rw [Accepts, forall_exists_index]
  refine forall₂_congr fun flags _ => ?_
  split
  · next hall => exact onlyValueError_passedOn_all hread hall
  · next hall =>
    rw [bind_assoc]
    exact onlyValueError_passedOn_list hread hall

/-! ## 6. A scene's actions -/

/-- An action in either shape. -/
def SafeAction : PyVal → Prop
  | .dict d =>
    match legacyGroupsOffsetTarget? d with
    | some t => SafeMigration d t
    | none => SafeActionDict d
  | _ => True

/-- The actions of a scene, as far as the validator comes to them. -/
def SafeActions (raw : PyVal) : Prop :=
  ∀ raws, raw = .list raws → raws.length ≤ maxActionsPerScene →
    EachReached canonicalAction SafeAction raws

theorem onlyValueError_action_iff {raw : PyVal} :
    OnlyValueError (canonicalAction raw) ↔ SafeAction raw := by
  cases raw with
  | dict d =>
    unfold canonicalAction SafeAction
    dsimp only
    cases legacyGroupsOffsetTarget? d with
    | some t => exact onlyValueError_migration_iff
    | none => exact onlyValueError_actionDict_iff
  | _ => exact iff_of_true (.valueError _) trivial

theorem onlyValueError_actions_iff {raw : PyVal} :
    OnlyValueError (canonicalActions raw) ↔ SafeActions raw := by
  cases raw with
  | null =>
    refine iff_of_true (.ok []) ?_
    rintro _ ⟨⟩
  | list raws =>
    simp only [canonicalActions, OnlyValueError.raiseIf_bind_iff, gt_iff_lt, not_lt,
      onlyValueError_mapM_iff fun _ => onlyValueError_action_iff, SafeActions, PyVal.list.injEq,
      forall_eq']
  | _ =>
    refine iff_of_true (.valueError _) ?_
    rintro _ ⟨⟩

/-- The promise of the validator: a canonical list, or a `ValueError`. -/
def CanonicalOrValueError (raw : PyVal) : Prop :=
  (∃ actions, canonicalActions raw = .ok actions ∧ ActionsCanonical actions) ∨
    ∃ msg, canonicalActions raw = .error (.valueError msg)

theorem canonicalOrValueError_iff {raw : PyVal} : CanonicalOrValueError raw ↔ SafeActions raw := by
  rw [← onlyValueError_actions_iff, CanonicalOrValueError]
  cases hraw : canonicalActions raw with
  | ok actions =>
    exact iff_of_true (.inl ⟨actions, rfl, canonicalActions_sound hraw⟩) (.ok actions)
  | error e =>
    constructor
    · rintro (⟨actions, ⟨⟩, -⟩ | ⟨msg, hmsg⟩) e' he'
      cases he'
      exact ⟨msg, Except.error.inj hmsg⟩
    · intro h
      obtain ⟨msg, rfl⟩ := h e rfl
      exact .inr ⟨msg, rfl⟩

/-! ## 7. The file -/

/-- The actions a scene is left with. -/
def keptActions (raw : PyVal) : List Action :=
  match canonicalActions raw with
  | .ok actions => actions
  | .error _ => []

theorem loadActions_eq_ok {raw : PyVal} {actions : List Action}
    (h : loadActions raw = .ok actions) : actions = keptActions raw := by
  unfold loadActions at h
  unfold keptActions
  split at h
  · next hraw =>
    cases h
    rw [hraw]
  · rw [h]

theorem accepts_loadActions_iff {raw : PyVal} : Accepts (loadActions raw) ↔ SafeActions raw := by
  rw [← onlyValueError_actions_iff, loadActions]
  cases canonicalActions raw with
  | ok actions => exact iff_of_true ⟨actions, rfl⟩ (.ok actions)
  | error e =>
    constructor
    · rintro ⟨actions, hactions⟩ e' he'
      cases he'
      split at hactions
      · next heq => exact ⟨_, Except.error.inj heq⟩
      · cases hactions
    · intro h
      obtain ⟨msg, rfl⟩ := h e rfl
      exact ⟨[], rfl⟩

/-- The entry is a scene: it has a key and a label. -/
def isScene : PyVal → Bool
  | .dict entry =>
    match Dict.get entry "key", Dict.get entry "label" with
    | .str _, .str _ => true
    | _, _ => false
  | _ => false

/-- The scene is the entry with the actions that the validator accepts, or with none. -/
def LoadedAs (entry : PyVal) (scene : Scene) : Prop :=
  ∃ d, entry = .dict d ∧ Dict.get d "key" = .str scene.key ∧ Dict.get d "label" = .str scene.label ∧
    scene.actions = keptActions (Dict.get d "actions")

/-- What the reader comes to in a scene: its id and its actions. -/
def SafeEntry (entry : PyVal) : Prop :=
  ∀ d, entry = .dict d → isScene entry = true →
    NotInfinite (Dict.get d "id") ∧ SafeActions (Dict.get d "actions")

/-- The scene that is built from an entry. -/
def loadedScene (now : String) (entry : Dict) (key label : String) (sceneId : Int)
    (actions : List Action) : Scene :=
  { id := sceneId
    key := key
    label := label
    created := (Dict.get entry "created").or (.str now)
    updated := ((Dict.get entry "updated").or (Dict.get entry "created")).or (.str now)
    actions := actions
    stopOnError := some (coerceBool (Dict.get entry "stop_on_error") true) }

/-- One round of the loop at a scene.  A missing id is one that cannot be converted. -/
theorem loadScenes_scene {now key label : String} {used : List Int} {index : Int} {entry : Dict}
    {rest : List PyVal} (hkey : Dict.get entry "key" = .str key)
    (hlabel : Dict.get entry "label" = .str label) :
    loadScenes now used index (.dict entry :: rest) =
      (intCatch (Dict.get entry "id") (.ok index) >>= fun sceneId =>
        loadActions (Dict.get entry "actions") >>= fun actions =>
          loadScenes now (freshSceneId used sceneId :: used) (index + 1) rest >>= fun loaded =>
            .ok (loadedScene now entry key label (freshSceneId used sceneId) actions :: loaded.1,
              loaded.2)) := by
  rw [loadScenes, hkey, hlabel]
  cases Dict.get entry "id" <;> rfl

/-- A scene has a key and a label. -/
theorem isScene_iff {raw : PyVal} : isScene raw = true ↔ ∃ entry key label, raw = .dict entry ∧
    Dict.get entry "key" = .str key ∧ Dict.get entry "label" = .str label := by
  constructor
  · intro h
    cases raw with
    | dict entry =>
      dsimp only [isScene] at h
      split at h
      · next key label hkey hlabel => exact ⟨entry, key, label, rfl, hkey, hlabel⟩
      · cases h
    | _ => cases h
  · rintro ⟨entry, key, label, rfl, hkey, hlabel⟩
    simp only [isScene, hkey, hlabel]

/-- One round of the loop at anything else. -/
theorem loadScenes_other {now : String} {used : List Int} {index : Int} {raw : PyVal}
    {rest : List PyVal} (h : ¬ isScene raw = true) :
    loadScenes now used index (raw :: rest) = loadScenes now used (index + 1) rest := by
  cases raw with
  | dict entry =>
    conv_lhs => unfold loadScenes
    dsimp only
    split
    · next key label hkey hlabel =>
      exact absurd (isScene_iff.mpr ⟨entry, key, label, rfl, hkey, hlabel⟩) h
    · rfl
  | _ => rfl

/-- **What the reader returns**: one scene for each entry that is one, in order. -/
theorem loadScenes_eq_ok {now : String} {raws : List PyVal} : ∀ {used : List Int} {index : Int}
    {loaded : List Scene × List Int}, loadScenes now used index raws = .ok loaded →
      List.Forall₂ LoadedAs (raws.filter isScene) loaded.1 := by
  induction raws with
  | nil =>
    intro used index loaded h
    cases h
    exact .nil
  | cons raw rest ih =>
    intro used index loaded h
    by_cases hscene : isScene raw = true
    · obtain ⟨entry, key, label, rfl, hkey, hlabel⟩ := isScene_iff.mp hscene
      simp only [loadScenes_scene hkey hlabel, bind_eq_ok, Except.ok.injEq] at h
      obtain ⟨sceneId, -, actions, hactions, loaded', hrest, rfl⟩ := h
      rw [List.filter_cons_of_pos hscene]
      exact .cons ⟨entry, rfl, hkey, hlabel, loadActions_eq_ok hactions⟩ (ih hrest)
    · rw [loadScenes_other hscene] at h
      rw [List.filter_cons_of_neg hscene]
      exact ih h

/-- **When it returns**: when every scene it comes to is safe. -/
theorem accepts_loadScenes_iff {now : String} {raws : List PyVal} : ∀ {used : List Int}
    {index : Int}, Accepts (loadScenes now used index raws) ↔ ∀ entry ∈ raws, SafeEntry entry := by
  induction raws with
  | nil => exact fun {used index} => iff_of_true ⟨_, rfl⟩ (by simp)
  | cons raw rest ih =>
    intro used index
    rw [List.forall_mem_cons]
    by_cases hscene : isScene raw = true
    · obtain ⟨entry, key, label, rfl, hkey, hlabel⟩ := isScene_iff.mp hscene
      have hentry : SafeEntry (.dict entry) ↔
          Accepts (intCatch (Dict.get entry "id") (.ok index)) ∧
            Accepts (loadActions (Dict.get entry "actions")) := by
        rw [accepts_intCatch_iff, accepts_loadActions_iff]
        constructor
        · exact fun h => h entry rfl hscene
        · rintro h d ⟨⟩ -
          exact h
      rw [loadScenes_scene hkey hlabel, hentry]
      constructor
      · rintro ⟨loaded, h⟩
        simp only [bind_eq_ok] at h
        obtain ⟨sceneId, hid, actions, hactions, loaded', hrest, -⟩ := h
        exact ⟨⟨⟨sceneId, hid⟩, ⟨actions, hactions⟩⟩, ih.mp ⟨loaded', hrest⟩⟩
      · rintro ⟨⟨⟨sceneId, hid⟩, ⟨actions, hactions⟩⟩, hrest⟩
        obtain ⟨loaded, hloaded⟩ := ih.mpr hrest
        rw [hid, ok_bind, hactions, ok_bind, hloaded]
        exact ⟨_, rfl⟩
    · have hentry : SafeEntry raw := fun d _ h => absurd h hscene
      rw [loadScenes_other hscene, and_iff_right hentry]
      exact ih

/-- The file is read: every entry that is a scene is loaded, in order, and each has the actions
that the validator accepts, or none. -/
def LoadsEveryScene (env : Env) (s : Store) (raws : List PyVal) : Prop :=
  ∃ scenes s', load env s = (.ok scenes, s') ∧ List.Forall₂ LoadedAs (raws.filter isScene) scenes

/-- An integer version is read as it is. -/
theorem int_version {data : Dict} {version : Int}
    (h : Dict.get data "schema_version" = .int version) :
    int ((Dict.getD data "schema_version" (.int 0)).or (.int 0)) = .ok version := by
  have hgetD : Dict.getD data "schema_version" (.int 0) = .int version := by
    unfold Dict.get at h
    unfold Dict.getD
    cases hfind : Dict.find? data "schema_version" with
    | none => rw [hfind] at h; cases h
    | some v => rw [hfind] at h; exact h
  rw [hgetD, PyVal.or]
  by_cases hzero : version = 0
  · subst hzero
    rfl
  · have htruthy : (PyVal.int version).truthy = true := bne_iff_ne.mpr hzero
    rw [if_pos htruthy, int_int]

theorem loadsEveryScene_iff {env : Env} {s : Store} {data : Dict} {raws : List PyVal}
    {version : Int} (hfile : s.file = .doc (.dict data))
    (hversion : Dict.get data "schema_version" = .int version)
    (hscenes : Dict.get data "scenes" = .list raws) :
    LoadsEveryScene env s raws ↔ ∀ entry ∈ raws, SafeEntry entry := by
  obtain ⟨file, cache, nextId⟩ := s
  obtain rfl : file = .doc (.dict data) := hfile
  have haccepts : Accepts (loadScenes env.now [] 0 raws) ↔ ∀ entry ∈ raws, SafeEntry entry :=
    accepts_loadScenes_iff
  rw [← haccepts]
  cases h : loadScenes env.now [] 0 raws with
  | ok loaded =>
    have hload : load env ⟨.doc (.dict data), cache, nextId⟩ = (.ok loaded.1, ⟨.doc (.dict data),
        cache, some (loadedNextId (Dict.get data "next_id") loaded.2)⟩) := by
      simp only [load, Script.bind_run, Script.get_run, int_version hversion, hscenes, h,
        Script.monadLift_eq, Script.lift_run]
      rfl
    exact iff_of_true ⟨loaded.1, _, hload, loadScenes_eq_ok h⟩ ⟨loaded, rfl⟩
  | error e =>
    refine iff_of_false ?_ (by rintro ⟨_, ⟨⟩⟩)
    rintro ⟨scenes, s', hload, -⟩
    simp only [load, Script.bind_run, Script.get_run, int_version hversion, hscenes, h,
      Script.monadLift_eq, Script.lift_run] at hload
    cases hload

/-- **What a malformed scene costs.**  The validator returns a canonical list or raises
`ValueError` exactly on the actions that are safe.  A file with a list of scenes is read, and every
scene of it is loaded with the actions that the validator accepts or with none, exactly when every
scene's id is not infinite and its actions are safe. -/
theorem malformed_iff {env : Env} {s : Store} {data : Dict} {raws : List PyVal} {version : Int}
    (hfile : s.file = .doc (.dict data))
    (hversion : Dict.get data "schema_version" = .int version)
    (hscenes : Dict.get data "scenes" = .list raws) :
    (∀ raw, CanonicalOrValueError raw ↔ SafeActions raw) ∧
      (LoadsEveryScene env s raws ↔ ∀ entry ∈ raws, SafeEntry entry) :=
  ⟨fun _ => canonicalOrValueError_iff, loadsEveryScene_iff hfile hversion hscenes⟩

/-- A file with one empty scene and one with the given actions. -/
def twoScenes (actions : PyVal) : Store :=
  { file := .doc (strDict [("schema_version", .int 1), ("scenes", .list [
      strDict [("key", .str "start"), ("label", .str "Start")],
      strDict [("key", .str "edited"), ("label", .str "Edited"), ("actions", actions)]])])
    cache := none
    nextId := none }

/-- A delay whose duration is a word costs the scene its actions. -/
theorem malformed_delay : ∃ raws, raws.length = 2 ∧
    (∀ raw, CanonicalOrValueError raw ↔ SafeActions raw) ∧
      (LoadsEveryScene ⟨"now", true, fun _ => "", none⟩
        (twoScenes (.list [strDict [("kind", .str "delay"), ("duration_ms", .str "soon")]])) raws ↔
        ∀ entry ∈ raws, SafeEntry entry) :=
  ⟨_, rfl, malformed_iff rfl rfl rfl⟩

/-- An action in the oldest shape, with the given entries. -/
def legacyEntries (entries : List PyVal) : PyVal :=
  .list [strDict [("kind", .str "rl_preset"),
    ("target", strDict [("kind", .str "groups_offset"), ("groups", .list entries)])]]

theorem not_canonicalOrValueError {raw : PyVal} {e : PyErr} (h : canonicalActions raw = .error e)
    (hne : ∀ msg, e ≠ .valueError msg) : ¬ CanonicalOrValueError raw := by
  rintro (⟨actions, hok, -⟩ | ⟨msg, herr⟩)
  · cases h.symm.trans hok
  · exact hne msg (Except.error.inj (h.symm.trans herr))

/-- A legacy entry without an id, one that is no object after one that is, and a delay of infinite
duration: none raises `ValueError`, and a file with such a scene is not read at all. -/
theorem malformed_legacy :
    ¬ CanonicalOrValueError (legacyEntries [strDict [("offset_ms", .int 100)]]) ∧
    ¬ CanonicalOrValueError (legacyEntries [strDict [("id", .int 1)], .int 3]) ∧
    ¬ CanonicalOrValueError (.list [strDict [("kind", .str "delay"),
        ("duration_ms", .float (.inf false))]]) ∧
    ∀ env, load env (twoScenes (legacyEntries [strDict [("offset_ms", .int 100)]])) =
      (.error .typeError, twoScenes (legacyEntries [strDict [("offset_ms", .int 100)]])) := by
  refine ⟨not_canonicalOrValueError (e := .typeError) rfl nofun,
    not_canonicalOrValueError (e := .attributeError) rfl nofun,
    not_canonicalOrValueError (e := .overflowError) rfl nofun, fun env => rfl⟩

end RaceLink
