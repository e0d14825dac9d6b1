/-
# Renumbering group references

When the group at index `d` is removed, every later group moves down by one and the devices of
`d` fall to group 0.  `renumber_group_references` rewrites the scenes accordingly: target lists,
child lists and the ids of an explicit offset block, each in its own loop, and then runs the
validator over the result.

Two old ids can become one (`0` and `d`), so the loops drop duplicates.  The lists of a
container and its explicit block are de-duplicated separately, and the validator wants them of
one length: it raises exactly when some group of the container has no entry left
(`renumbered_canonical_iff`, through `Action.ValuesCover`).
-/
import RaceLink.Python.Seen
import RaceLink.Scenes.Reload

namespace RaceLink

open Python

/-! ## 1. The rewrite -/

/-- `_shift_group_value`. -/
def shiftGroupValue (deletedGid value : Int) : Int :=
  if value = deletedGid then 0 else if value > deletedGid then value - 1 else value

/-- `_shift_target_groups_list`, with its `changed` flag. -/
def shiftTargetGroupsList (deletedGid : Int) : Target → Target × Bool
  | .groups value =>
    let deduped := keepFirst id [] (value.map (shiftGroupValue deletedGid))
    if deduped = value then (.groups value, false) else (.groups deduped, true)
  | target => (target, false)

/-- The loop of `_renumber_action` over explicit values, with its `offset_changed` flag. -/
def shiftValues (deletedGid : Int) (seenIds : List Int) : List OffsetValue → List OffsetValue × Bool
  | [] => ([], false)
  | entry :: rest =>
    let shifted := shiftGroupValue deletedGid entry.id
    if shifted ∈ seenIds then ((shiftValues deletedGid seenIds rest).1, true)
    else
      let (rewritten, changed) := shiftValues deletedGid (shifted :: seenIds) rest
      (⟨shifted, entry.offsetMs⟩ :: rewritten, changed || shifted != entry.id)

/-- The offset block's part of `_renumber_action`. -/
def renumberOffset (deletedGid : Int) : OffsetBlock → OffsetBlock × Bool
  | .explicit values =>
    let (rewritten, changed) := shiftValues deletedGid [] values
    if changed then (.explicit rewritten, true) else (.explicit values, false)
  | block => (block, false)

/-- `_renumber_action` of an effect. -/
def renumberEffect (deletedGid : Int) (e : Effect) : Effect × Bool :=
  let (target, changed) := shiftTargetGroupsList deletedGid e.target
  if changed then ({ e with target := target }, true) else (e, false)

/-- `_renumber_actions_for_deleted_group`, over the rewrite of one element. -/
def renumberEach {α : Type} (renumber : α → α × Bool) (actions : List α) : List α × Bool :=
  if actions.any fun a => (renumber a).2 then (actions.map fun a => (renumber a).1, true)
  else (actions, false)

/-- `_renumber_action`. -/
def renumberAction (deletedGid : Int) : Action → Action × Bool
  | .effect e =>
    let (e', changed) := renumberEffect deletedGid e
    (.effect e', changed)
  | .offsetGroup target offset actions =>
    let (target', targetChanged) := shiftTargetGroupsList deletedGid target
    let (actions', childrenChanged) := renumberEach (renumberEffect deletedGid) actions
    let (offset', offsetChanged) := renumberOffset deletedGid offset
    if targetChanged || childrenChanged || offsetChanged then
      (.offsetGroup target' offset' actions', true)
    else (.offsetGroup target offset actions, false)
  | .sync => (.sync, false)
  | .delay durationMs => (.delay durationMs, false)

/-- `_renumber_actions_for_deleted_group` of a scene. -/
def renumberActionsForDeletedGroup (deletedGid : Int) (actions : List Action) :
    List Action × Bool :=
  renumberEach (renumberAction deletedGid) actions

/-- The loop of `renumber_group_references` over the scenes: the new scenes, and how many
changed. -/
def renumberScenes (env : Env) (deletedGid : Int) : List Scene → Except PyErr (List Scene × Nat)
  | [] => .ok ([], 0)
  | scene :: rest => do
    let (newActions, wasChanged) := renumberActionsForDeletedGroup deletedGid scene.actions
    if wasChanged then do
      let canonical ← canonicalActions (actionsToPy newActions)
      let (scenes, changed) ← renumberScenes env deletedGid rest
      pure ({ scene with actions := canonical, updated := .str env.now } :: scenes, changed + 1)
    else do
      let (scenes, changed) ← renumberScenes env deletedGid rest
      pure (scene :: scenes, changed)

/-- `renumber_group_references`. -/
def renumberGroupReferences (env : Env) (deletedGid : Int) : Script Store Nat := do
  let scenes ← items env
  let (newScenes, changed) ← renumberScenes env deletedGid scenes
  if changed ≠ 0 then do
    writeAtomic env newScenes
    invalidate
  pure changed

/-! ## 2. What it computes

The flags only say whether the result differs; the result itself is the plain rewrite. -/

/-- A target with every group id shifted and duplicates dropped. -/
def Target.shift (d : Int) : Target → Target
  | .groups value => .groups (keepFirst id [] (value.map (shiftGroupValue d)))
  | target => target

/-- The entries with every id shifted and duplicates dropped. -/
def OffsetBlock.shift (d : Int) : OffsetBlock → OffsetBlock
  | .explicit values =>
    .explicit (keepFirst (·.id) [] (values.map fun v => ⟨shiftGroupValue d v.id, v.offsetMs⟩))
  | block => block

/-- An effect with its target shifted. -/
def Effect.shift (d : Int) (e : Effect) : Effect := { e with target := e.target.shift d }

/-- An action with every reference shifted. -/
def Action.shift (d : Int) : Action → Action
  | .effect e => .effect (e.shift d)
  | .offsetGroup target offset actions =>
    .offsetGroup (target.shift d) (offset.shift d) (actions.map (·.shift d))
  | .sync => .sync
  | .delay durationMs => .delay durationMs

theorem shiftTargetGroupsList_fst (d : Int) (t : Target) :
    (shiftTargetGroupsList d t).1 = t.shift d := by
  cases t with
  | groups value =>
    unfold shiftTargetGroupsList Target.shift
    simp only
    split
    · rename_i h
      rw [h]
    · rfl
  | _ => rfl

theorem shiftTargetGroupsList_snd {d : Int} {t : Target}
    (h : (shiftTargetGroupsList d t).2 = false) : t.shift d = t := by
  cases t with
  | groups value =>
    unfold shiftTargetGroupsList at h
    simp only at h
    split at h
    · rename_i hsame
      rw [Target.shift, hsame]
    · cases h
  | _ => rfl

theorem shiftValues_fst (d : Int) (values : List OffsetValue) (seen : List Int) :
    (shiftValues d seen values).1
      = keepFirst (·.id) seen (values.map fun v => ⟨shiftGroupValue d v.id, v.offsetMs⟩) := by
  induction values generalizing seen with
  | nil => rfl
  | cons v values ih =>
    rw [List.map_cons, keepFirst, shiftValues]
    simp only
    split
    · exact ih seen
    · simp only [ih]

theorem shiftValues_snd {d : Int} {values : List OffsetValue} {seen : List Int}
    (h : (shiftValues d seen values).2 = false) : (shiftValues d seen values).1 = values := by
  induction values generalizing seen with
  | nil => rfl
  | cons v values ih =>
    rw [shiftValues] at h ⊢
    simp only at h ⊢
    split
    · rename_i hseen
      rw [if_pos hseen] at h
      cases h
    · rename_i hseen
      rw [if_neg hseen] at h
      simp only [Bool.or_eq_false_iff, bne_eq_false_iff_eq] at h
      rw [ih h.1, h.2]

theorem renumberOffset_fst (d : Int) (o : OffsetBlock) : (renumberOffset d o).1 = o.shift d := by
  cases o with
  | explicit values =>
    have hfst := shiftValues_fst d values []
    simp only [renumberOffset, OffsetBlock.shift, ← hfst]
    cases hc : (shiftValues d [] values).2 with
    | true => rfl
    | false => rw [if_neg Bool.false_ne_true, shiftValues_snd hc]
  | _ => rfl

theorem renumberOffset_snd {d : Int} {o : OffsetBlock} (h : (renumberOffset d o).2 = false) :
    o.shift d = o := by
  cases o with
  | explicit values =>
    unfold renumberOffset at h
    cases hc : (shiftValues d [] values).2 with
    | true => simp [hc] at h
    | false => rw [OffsetBlock.shift, ← shiftValues_fst, shiftValues_snd hc]
  | _ => rfl

theorem renumberEffect_fst (d : Int) (e : Effect) : (renumberEffect d e).1 = e.shift d := by
  unfold renumberEffect Effect.shift
  cases hc : (shiftTargetGroupsList d e.target).2 with
  | true => simp only [hc, if_true, shiftTargetGroupsList_fst]
  | false => simp only [hc, Bool.false_eq_true, if_false, shiftTargetGroupsList_snd hc]

theorem renumberEffect_snd {d : Int} {e : Effect} (h : (renumberEffect d e).2 = false) :
    e.shift d = e := by
  unfold renumberEffect at h
  cases hc : (shiftTargetGroupsList d e.target).2 with
  | true => simp [hc] at h
  | false => rw [Effect.shift, shiftTargetGroupsList_snd hc]

theorem renumberEach_fst {α : Type} {renumber : α → α × Bool} {shift : α → α}
    (hfst : ∀ a, (renumber a).1 = shift a) (hsnd : ∀ a, (renumber a).2 = false → shift a = a)
    (actions : List α) : (renumberEach renumber actions).1 = actions.map shift := by
  unfold renumberEach
  split
  · exact List.map_congr_left fun a _ => hfst a
  · rename_i h
    simp only [Bool.not_eq_true, List.any_eq_false] at h
    exact (map_eq_self_iff.mpr fun a ha => hsnd a (by simpa using h a ha)).symm

theorem renumberEach_snd {α : Type} {renumber : α → α × Bool} {shift : α → α}
    (hsnd : ∀ a, (renumber a).2 = false → shift a = a) {actions : List α}
    (h : (renumberEach renumber actions).2 = false) : actions.map shift = actions := by
  unfold renumberEach at h
  split at h
  · cases h
  · rename_i hany
    simp only [Bool.not_eq_true, List.any_eq_false] at hany
    exact map_eq_self_iff.mpr fun a ha => hsnd a (by simpa using hany a ha)

theorem renumberAction_snd {d : Int} {a : Action} (h : (renumberAction d a).2 = false) :
    a.shift d = a := by
  cases a with
  | effect e => rw [Action.shift, renumberEffect_snd h]
  | offsetGroup target offset actions =>
    unfold renumberAction at h
    simp only at h
    split at h
    · cases h
    · rename_i hflags
      simp only [Bool.or_eq_true, not_or, Bool.not_eq_true] at hflags
      obtain ⟨⟨ht, hc⟩, ho⟩ := hflags
      rw [Action.shift, shiftTargetGroupsList_snd ht, renumberOffset_snd ho,
        renumberEach_snd (fun e => renumberEffect_snd) hc]
  | sync => rfl
  | delay durationMs => rfl

theorem renumberAction_fst (d : Int) (a : Action) : (renumberAction d a).1 = a.shift d := by
  cases hc : (renumberAction d a).2 with
  | false =>
    rw [renumberAction_snd hc]
    cases a with
    | effect e =>
      unfold renumberAction at hc ⊢
      simp only at hc ⊢
      rw [renumberEffect_fst, renumberEffect_snd hc]
    | offsetGroup target offset actions =>
      unfold renumberAction at hc ⊢
      simp only at hc ⊢
      split at hc
      · cases hc
      · rename_i hflags
        rw [if_neg hflags]
    | sync => rfl
    | delay durationMs => rfl
  | true =>
    cases a with
    | effect e =>
      show Action.effect (renumberEffect d e).1 = _
      rw [renumberEffect_fst, Action.shift]
    | offsetGroup target offset actions =>
      unfold renumberAction at hc ⊢
      simp only at hc ⊢
      split at hc
      · rename_i hflags
        rw [if_pos hflags, Action.shift, shiftTargetGroupsList_fst, renumberOffset_fst,
          renumberEach_fst (renumberEffect_fst d) (fun e => renumberEffect_snd)]
      · cases hc
    | sync => rfl
    | delay durationMs => rfl

theorem renumberActions_fst (d : Int) (actions : List Action) :
    (renumberActionsForDeletedGroup d actions).1 = actions.map (·.shift d) :=
  renumberEach_fst (renumberAction_fst d) (fun _ => renumberAction_snd) actions

theorem renumberActions_snd {d : Int} {actions : List Action}
    (h : (renumberActionsForDeletedGroup d actions).2 = false) :
    actions.map (·.shift d) = actions :=
  renumberEach_snd (fun _ => renumberAction_snd) h

/-! ## 3. When the result is canonical -/

theorem shiftGroupValue_range {d g : Int} (hd : 1 ≤ d) (hg : 0 ≤ g ∧ g ≤ groupIdMax) :
    0 ≤ shiftGroupValue d g ∧ shiftGroupValue d g ≤ groupIdMax := by
  unfold shiftGroupValue
  split
  · exact ⟨le_refl 0, by decide⟩
  · split <;> omega

/-- The ids of a rewritten list, sorted: the shifted ids of the list. -/
theorem mem_shift_groups {d : Int} {value : List Int} {g' : Int} :
    g' ∈ (keepFirst id [] (value.map (shiftGroupValue d))).insertionSort (· ≤ ·) ↔
      ∃ g ∈ value, shiftGroupValue d g = g' := by
  have hkeys : g' ∈ (keepFirst id [] (value.map (shiftGroupValue d))).map id ↔
      g' ∈ (value.map (shiftGroupValue d)).map id ∧ g' ∉ [] := mem_map_keepFirst
  rw [List.map_id, List.map_id] at hkeys
  rw [List.mem_insertionSort, hkeys, List.mem_map]
  simp

theorem nodup_shift_groups (d : Int) (value : List Int) :
    (keepFirst id [] (value.map (shiftGroupValue d))).Nodup := by
  have h : ((keepFirst id [] (value.map (shiftGroupValue d))).map id).Nodup := nodup_keepFirst _ []
  rwa [List.map_id] at h

/-- An action after the rewrite and the validator's re-canonicalisation. -/
def Action.renumbered (d : Int) (a : Action) : Action := (a.shift d).normal

theorem target_renumbered_canonical {d : Int} (hd : 1 ≤ d) {t : Target} (h : t.Canonical) :
    (t.shift d).normal.Canonical := by
  cases t with
  | broadcast => trivial
  | groups value =>
    obtain ⟨hne, -, hrange⟩ := h
    refine ⟨?_, pairwise_lt_insertionSort (nodup_shift_groups d value), ?_⟩
    · obtain ⟨g, hg⟩ := List.exists_mem_of_ne_nil value hne
      exact List.ne_nil_of_mem (mem_shift_groups.mpr ⟨g, hg, rfl⟩)
    · intro g' hg'
      obtain ⟨g, hg, rfl⟩ := mem_shift_groups.mp hg'
      exact shiftGroupValue_range hd (hrange g hg)
  | device value =>
    show isMac12 (upper (strip value)) = true
    rw [upper_strip_of_isMac12 h]
    exact h

theorem target_renumbered_notDevice {d : Int} {t : Target} (h : t.NotDevice) :
    (t.shift d).normal.NotDevice := by
  cases t with
  | device value => exact h.elim
  | broadcast => trivial
  | groups value => trivial

theorem target_renumbered_within {d : Int} {parent t : Target} (h : t.Within parent.groupIds?) :
    (t.shift d).normal.Within (parent.shift d).normal.groupIds? := by
  cases t with
  | broadcast => trivial
  | device value => trivial
  | groups value =>
    cases parent with
    | broadcast => rintro p ⟨⟩
    | device v => rintro p ⟨⟩
    | groups parent =>
      rintro _ ⟨⟩ g' hg'
      obtain ⟨g, hg, rfl⟩ := mem_shift_groups.mp hg'
      exact mem_shift_groups.mpr ⟨g, h parent rfl g hg, rfl⟩

theorem effect_renumbered_canonicalChild {d : Int} (hd : 1 ≤ d) {parent : Target} {e : Effect}
    (h : e.CanonicalChild parent.groupIds?) :
    (e.shift d).normal.CanonicalChild (parent.shift d).normal.groupIds? :=
  ⟨⟨target_renumbered_canonical hd h.1.1, normal_withFlags (e.shift d)⟩, h.2.1,
    target_renumbered_within h.2.2⟩

/-- Every group of a container with an `explicit` block has an entry for what it becomes. -/
def Action.ValuesCover (d : Int) : Action → Prop
  | .offsetGroup (.groups value) (.explicit values) _ =>
    ∀ g ∈ value, ∃ v ∈ values, shiftGroupValue d v.id = shiftGroupValue d g
  | _ => True

/-- The entries of a rewritten block, and the groups they are for. -/
theorem mem_shift_values {d : Int} {values : List OffsetValue} {v' : OffsetValue}
    (h : v' ∈ keepFirst (·.id) [] (values.map fun v => (⟨shiftGroupValue d v.id, v.offsetMs⟩ :
      OffsetValue))) :
    ∃ v ∈ values, v' = ⟨shiftGroupValue d v.id, v.offsetMs⟩ := by
  obtain ⟨v, hv, rfl⟩ := List.mem_map.mp ((keepFirst_sublist _ _).subset h)
  exact ⟨v, hv, rfl⟩

theorem mem_map_id_shift_values {d : Int} {values : List OffsetValue} {g' : Int} :
    g' ∈ (keepFirst (·.id) [] (values.map fun v => (⟨shiftGroupValue d v.id, v.offsetMs⟩ :
      OffsetValue))).map (·.id) ↔ ∃ v ∈ values, shiftGroupValue d v.id = g' := by
  rw [mem_map_keepFirst, List.map_map, List.mem_map]
  simp

theorem explicit_renumbered_canonical_iff {d : Int} (hd : 1 ≤ d) {value : List Int}
    {values : List OffsetValue}
    (h : (OffsetBlock.explicit values).Canonical (Target.groups value).groupIds?) :
    ((OffsetBlock.explicit values).shift d).normal.Canonical
        ((Target.groups value).shift d).normal.groupIds? ↔
      ∀ g ∈ value, ∃ v ∈ values, shiftGroupValue d v.id = shiftGroupValue d g := by
  obtain ⟨_, hids, -, -, hcanon⟩ := h
  cases hids
  -- the ids of both lists, after the rewrite
  have hks := nodup_shift_groups d value
  have hls : ((keepFirst OffsetValue.id [] (values.map fun v =>
      ⟨shiftGroupValue d v.id, v.offsetMs⟩)).map OffsetValue.id).Nodup := nodup_keepFirst _ []
  have hks' : ∀ g', g' ∈ keepFirst id [] (value.map (shiftGroupValue d)) ↔
      ∃ g ∈ value, shiftGroupValue d g = g' := by
    intro g'
    rw [← mem_shift_groups, List.mem_insertionSort]
  have hsub : (keepFirst OffsetValue.id [] (values.map fun v =>
      ⟨shiftGroupValue d v.id, v.offsetMs⟩)).map (·.id)
        ⊆ keepFirst id [] (value.map (shiftGroupValue d)) := by
    intro g' hg'
    obtain ⟨v, hv, rfl⟩ := mem_map_id_shift_values.mp hg'
    exact (hks' _).mpr ⟨v.id, (hcanon v hv).1, rfl⟩
  have hlen := length_eq_iff_of_subset hks hls hsub
  rw [List.length_map] at hlen
  have hcover : keepFirst id [] (value.map (shiftGroupValue d)) ⊆
      (keepFirst OffsetValue.id [] (values.map fun v =>
        ⟨shiftGroupValue d v.id, v.offsetMs⟩)).map (·.id) ↔
      ∀ g ∈ value, ∃ v ∈ values, shiftGroupValue d v.id = shiftGroupValue d g := by
    constructor
    · intro hsub' g hg
      exact mem_map_id_shift_values.mp (hsub' ((hks' _).mpr ⟨g, hg, rfl⟩))
    · intro hall g' hg'
      obtain ⟨g, hg, rfl⟩ := (hks' g').mp hg'
      exact mem_map_id_shift_values.mpr (hall g hg)
  rw [← hcover, ← hlen]
  constructor
  · rintro ⟨_, hids, heq, -⟩
    cases hids
    rw [List.length_insertionSort, List.length_insertionSort] at heq
    exact heq
  · intro heq
    refine ⟨_, rfl, ?_, List.pairwise_insertionSort _ _, fun v' hv' => ?_⟩
    · rw [List.length_insertionSort, List.length_insertionSort]
      exact heq
    · obtain ⟨v, hv, rfl⟩ := mem_shift_values ((List.mem_insertionSort _).mp hv')
      obtain ⟨hmem, hrange, hoff⟩ := hcanon v hv
      exact ⟨mem_shift_groups.mpr ⟨v.id, hmem, rfl⟩, shiftGroupValue_range hd hrange, hoff⟩

theorem offset_renumbered_canonical_iff {d : Int} (hd : 1 ≤ d) {target : Target}
    {offset : OffsetBlock} {actions : List Effect} (hdevice : target.NotDevice)
    (h : offset.Canonical target.groupIds?) :
    (offset.shift d).normal.Canonical (target.shift d).normal.groupIds? ↔
      (Action.offsetGroup target offset actions).ValuesCover d := by
  cases offset with
  | explicit values =>
    cases target with
    | groups value => exact explicit_renumbered_canonical_iff hd h
    | broadcast => obtain ⟨_, hids, -⟩ := h; cases hids
    | device value => exact hdevice.elim
  | none => exact iff_of_true trivial (by cases target <;> trivial)
  | linear base step =>
    have hformula : FormulaInRange base step := h
    exact iff_of_true hformula (by cases target <;> trivial)
  | vshape base step center =>
    have hformula : FormulaInRange base step ∧ 0 ≤ center ∧ center ≤ groupIdMax := h
    exact iff_of_true hformula (by cases target <;> trivial)
  | modulo base step cycle =>
    have hformula : FormulaInRange base step ∧ offsetCycleMin ≤ cycle ∧ cycle ≤ offsetCycleMax := h
    exact iff_of_true hformula (by cases target <;> trivial)

/-- **Exactly when the renumbered action is canonical.** -/
theorem renumbered_canonical_iff {d : Int} (hd : 1 ≤ d) {a : Action} (h : a.Canonical) :
    (a.renumbered d).Canonical ↔ a.ValuesCover d := by
  cases a with
  | effect e =>
    exact iff_of_true ⟨target_renumbered_canonical hd h.1, normal_withFlags (e.shift d)⟩ trivial
  | sync => exact iff_of_true trivial trivial
  | delay durationMs => exact iff_of_true h trivial
  | offsetGroup target offset actions =>
    obtain ⟨⟨hcanon, hdevice⟩, hlen, hoffset, hchildren, hactions⟩ := h
    rw [← offset_renumbered_canonical_iff hd hdevice hoffset]
    constructor
    · exact fun h => h.2.2.1
    · intro ho
      refine ⟨⟨target_renumbered_canonical hd hcanon, target_renumbered_notDevice hdevice⟩, ?_, ho,
        by simpa using hchildren, ?_⟩
      · cases target with
        | broadcast => exact hlen
        | device value => exact hdevice.elim
        | groups value =>
          have hle : (keepFirst id [] (value.map (shiftGroupValue d))).length ≤
              (value.map (shiftGroupValue d)).length := (keepFirst_sublist _ []).length_le
          rw [List.length_map] at hle
          show ((keepFirst id [] (value.map (shiftGroupValue d))).insertionSort _).length ≤ _
          rw [List.length_insertionSort]
          exact hle.trans hlen
      · intro c hc
        rw [List.map_map] at hc
        obtain ⟨e, he, rfl⟩ := List.mem_map.mp hc
        exact effect_renumbered_canonicalChild hd (hactions e he)

/-! ## 4. The scenes of a store -/

theorem renumbered_list_canonical_iff {d : Int} (hd : 1 ≤ d) {actions : List Action}
    (h : ActionsCanonical actions) :
    ActionsCanonical (actions.map (·.renumbered d)) ↔ ∀ a ∈ actions, a.ValuesCover d := by
  have hlen : (actions.map (·.renumbered d)).length ≤ maxActionsPerScene := by
    rw [List.length_map]
    exact h.1
  constructor
  · intro hcanon a ha
    exact (renumbered_canonical_iff hd (h.2 a ha)).mp (hcanon.2 _ (List.mem_map_of_mem ha))
  · intro hcover
    refine ⟨hlen, fun b hb => ?_⟩
    obtain ⟨a, ha, rfl⟩ := List.mem_map.mp hb
    exact (renumbered_canonical_iff hd (h.2 a ha)).mpr (hcover a ha)

theorem canonicalActions_renumbered {d : Int} (hd : 1 ≤ d) {actions actions' : List Action}
    (h : ActionsCanonical actions) :
    canonicalActions (actionsToPy (renumberActionsForDeletedGroup d actions).1) = .ok actions' ↔
      (∀ a ∈ actions, a.ValuesCover d) ∧ actions' = actions.map (·.renumbered d) := by
  have hmap : (actions.map (·.shift d)).map (·.normal) = actions.map (·.renumbered d) := by
    rw [List.map_map]
    rfl
  rw [renumberActions_fst, canonicalActions_toPy_eq_ok, hmap, renumbered_list_canonical_iff hd h]

/-- A list with no reference to rewrite is its own result. -/
theorem renumbered_of_unchanged {d : Int} (hd : 1 ≤ d) {actions : List Action}
    (h : ActionsCanonical actions) (hsame : (renumberActionsForDeletedGroup d actions).2 = false) :
    (∀ a ∈ actions, a.ValuesCover d) ∧ actions.map (·.renumbered d) = actions := by
  have hshift := map_eq_self_iff.mp (renumberActions_snd hsame)
  have hren : actions.map (·.renumbered d) = actions := by
    refine map_eq_self_iff.mpr fun a ha => ?_
    rw [Action.renumbered, hshift a ha, Action.normal_of_canonical (h.2 a ha)]
  exact ⟨(renumbered_list_canonical_iff hd h).mp (hren.symm ▸ h), hren⟩

/-- The same scene with renumbered actions. -/
def SceneRenumbered (d : Int) (s s' : Scene) : Prop :=
  s'.id = s.id ∧ s'.key = s.key ∧ s'.label = s.label ∧
    s'.actions = s.actions.map (·.renumbered d)

/-- No reference of any scene has to be rewritten. -/
def NothingToRenumber (d : Int) (scenes : List Scene) : Prop :=
  ∀ s ∈ scenes, (renumberActionsForDeletedGroup d s.actions).2 = false

/-- Every explicit container of every scene keeps an entry for each of its groups. -/
def ScenesCover (d : Int) (scenes : List Scene) : Prop :=
  ∀ s ∈ scenes, ∀ a ∈ s.actions, a.ValuesCover d

theorem renumberScenes_spec (env : Env) {d : Int} (hd : 1 ≤ d) {scenes : List Scene}
    (hcanon : ∀ s ∈ scenes, ActionsCanonical s.actions) (hcover : ScenesCover d scenes) :
    ∃ scenes' changed, renumberScenes env d scenes = .ok (scenes', changed) ∧
      List.Forall₂ (SceneRenumbered d) scenes scenes' ∧
      (changed = 0 ↔ NothingToRenumber d scenes) := by
  induction scenes with
  | nil => exact ⟨[], 0, rfl, .nil, iff_of_true rfl (by simp [NothingToRenumber])⟩
  | cons s rest ih =>
    obtain ⟨hs, hrest⟩ := List.forall_mem_cons.mp hcanon
    obtain ⟨hcs, hcrest⟩ := List.forall_mem_cons.mp hcover
    obtain ⟨scenes', changed, hren, hall, hzero⟩ := ih hrest hcrest
    unfold renumberScenes
    cases hc : (renumberActionsForDeletedGroup d s.actions).2 with
    | true =>
      have hok := (canonicalActions_renumbered hd hs).mpr ⟨hcs, rfl⟩
      simp only [hc, if_true, hok, hren, ok_bind, pure_eq_ok]
      refine ⟨_, _, rfl, .cons ⟨rfl, rfl, rfl, rfl⟩ hall, iff_of_false (by simp) fun hno => ?_⟩
      have hfalse := hno s List.mem_cons_self
      rw [hc] at hfalse
      cases hfalse
    | false =>
      simp only [hc, Bool.false_eq_true, if_false, hren, ok_bind, pure_eq_ok]
      have hsame := (renumbered_of_unchanged hd hs hc).2
      refine ⟨_, _, rfl, .cons ⟨rfl, rfl, rfl, hsame.symm⟩ hall, ?_⟩
      rw [hzero]
      unfold NothingToRenumber
      rw [List.forall_mem_cons]
      exact ⟨fun h => ⟨hc, h⟩, fun h => h.2⟩

theorem scenesCover_of_renumberScenes (env : Env) {d : Int} (hd : 1 ≤ d) {scenes : List Scene}
    {r : List Scene × Nat} (hcanon : ∀ s ∈ scenes, ActionsCanonical s.actions)
    (h : renumberScenes env d scenes = .ok r) : ScenesCover d scenes := by
  induction scenes generalizing r with
  | nil => simp [ScenesCover]
  | cons s rest ih =>
    obtain ⟨hs, hrest⟩ := List.forall_mem_cons.mp hcanon
    unfold renumberScenes at h
    cases hc : (renumberActionsForDeletedGroup d s.actions).2 with
    | true =>
      simp only [hc, if_true, bind_eq_ok] at h
      obtain ⟨canonical, hok, r', hr', -⟩ := h
      have hcs := ((canonicalActions_renumbered hd hs).mp hok).1
      exact List.forall_mem_cons.mpr ⟨hcs, ih hrest hr'⟩
    | false =>
      simp only [hc, Bool.false_eq_true, if_false, bind_eq_ok] at h
      obtain ⟨r', hr', -⟩ := h
      have hcs := (renumbered_of_unchanged hd hs hc).1
      exact List.forall_mem_cons.mpr ⟨hcs, ih hrest hr'⟩

/-! ## 5. The service call -/

/-- The actions as they are in memory, or as they come back from the file. -/
def Stored (env : Env) (actions stored : List Action) : Prop :=
  stored = actions ∨ stored = actions.map (·.reload env.floatText)

theorem Stored.canonical {env : Env} {actions stored : List Action} (h : Stored env actions stored)
    (hcanon : ActionsCanonical actions) : ActionsCanonical stored := by
  rcases h with rfl | rfl
  · exact hcanon
  · exact (actions_reload_canonical_iff env.floatText).mpr hcanon

/-- The store now holds the renumbered scenes: whoever reads it next gets them, and every list is
a fixed point of the validator. -/
def HoldsRenumbered (env : Env) (d : Int) (scenes : List Scene) (st : Store) : Prop :=
  ∀ env', ∃ scenes' st', items env' st = (.ok scenes', st') ∧
    List.Forall₂ (fun s s' : Scene => s'.key = s.key ∧ s'.label = s.label ∧
      Stored env (s.actions.map (·.renumbered d)) s'.actions ∧
      canonicalActions (actionsToPy s'.actions) = .ok s'.actions) scenes scenes'

theorem items_cached {env env' : Env} {st st' : Store} {scenes : List Scene}
    (h : items env st = (.ok scenes, st')) : items env' st' = (.ok scenes, st') := by
  have hcache : st'.cache = some scenes := by
    rw [items, Script.bind_of_ok (Script.get_run st)] at h
    cases hc : st.cache with
    | some cached =>
      rw [hc] at h
      cases h
      exact hc
    | none =>
      rw [hc] at h
      obtain ⟨loaded, st₁, -, h⟩ := Script.bind_eq_ok.mp h
      cases h
      rfl
  rw [items, Script.bind_of_ok (Script.get_run st'), hcache]
  rfl

theorem holdsRenumbered_of_written {env : Env} {d : Int} (hd : 1 ≤ d) {scenes written : List Scene}
    {st : Store} {nextId : Int} (hcanon : ∀ s ∈ scenes, ActionsCanonical s.actions)
    (hcover : ScenesCover d scenes) (hren : List.Forall₂ (SceneRenumbered d) scenes written)
    (hfile : st.file = .doc (jsonRoundTrip env.floatText (payload nextId written)))
    (hcache : st.cache = none) : HoldsRenumbered env d scenes st := by
  intro env'
  obtain ⟨loaded, st', hload, hread⟩ := load_written env.floatText env' hfile
  refine ⟨loaded, { st' with cache := some loaded }, ?_, ?_⟩
  · rw [items, Script.bind_of_ok (Script.get_run st), hcache]
    exact (Script.bind_of_ok hload).trans rfl
  · clear hload hfile
    induction hren generalizing loaded with
    | nil => cases hread; exact .nil
    | cons hs _ ih =>
      obtain _ | ⟨hr, hrest⟩ := hread
      obtain ⟨hc, hcs⟩ := List.forall_mem_cons.mp hcanon
      obtain ⟨hv, hvs⟩ := List.forall_mem_cons.mp hcover
      obtain ⟨-, hkey, hlabel, hactions⟩ := hs
      have hcanon' := (renumbered_list_canonical_iff hd hc).mpr hv
      have hstored := hr.2.2 (by rwa [hactions])
      refine .cons ⟨hr.1.trans hkey, hr.2.1.trans hlabel, Or.inr (hstored.trans (by rw [hactions])),
        ?_⟩ (ih hcs hvs _ hrest)
      rw [canonicalActions_toPy_iff, hstored, hactions, actions_reload_canonical_iff]
      exact hcanon'

theorem holdsRenumbered_of_unchanged {env : Env} {d : Int} (hd : 1 ≤ d) {scenes : List Scene}
    {st st' : Store} (hitems : items env st = (.ok scenes, st'))
    (hcanon : ∀ s ∈ scenes, ActionsCanonical s.actions) (hsame : NothingToRenumber d scenes) :
    HoldsRenumbered env d scenes st' := by
  intro env'
  refine ⟨scenes, st', items_cached hitems, List.forall₂_same.mpr fun s hs => ?_⟩
  have hren := (renumbered_of_unchanged hd (hcanon s hs) (hsame s hs)).2
  exact ⟨rfl, rfl, Or.inl hren.symm, canonicalActions_toPy_iff.mpr (hcanon s hs)⟩

theorem writeAtomic_of_diskOk {env : Env} (h : env.diskOk = true) (scenes : List Scene)
    (st : Store) : ∃ nextId, writeAtomic env scenes st = (.ok (),
      { st with file := .doc (jsonRoundTrip env.floatText (payload nextId scenes)) }) := by
  rw [writeAtomic, Script.bind_of_ok (Script.get_run st), if_pos h]
  exact ⟨_, rfl⟩

/-- **Exactly when the renumbering of a canonical store completes**, and then the store holds
the renumbered scenes. -/
theorem renumberGroupReferences_spec {env : Env} {d : Int} (hd : 1 ≤ d) {st st₁ : Store}
    {scenes : List Scene} (hitems : items env st = (.ok scenes, st₁))
    (hcanon : ∀ s ∈ scenes, ActionsCanonical s.actions) :
    (ScenesCover d scenes ∧ (env.diskOk = true ∨ NothingToRenumber d scenes) →
      ∃ changed st', renumberGroupReferences env d st = (.ok changed, st') ∧
        HoldsRenumbered env d scenes st') ∧
    ∀ changed st', renumberGroupReferences env d st = (.ok changed, st') →
      ScenesCover d scenes ∧ (env.diskOk = true ∨ NothingToRenumber d scenes) := by
  constructor
  · rintro ⟨hcover, hdisk⟩
    obtain ⟨scenes', changed, hren, hall, hzero⟩ := renumberScenes_spec env hd hcanon hcover
    rw [renumberGroupReferences, Script.bind_of_ok hitems, hren, Script.monadLift_eq,
      Script.bind_of_ok (Script.lift_run _ _)]
    simp only
    by_cases hc : changed = 0
    · rw [if_neg (not_not.mpr hc)]
      exact ⟨changed, st₁, rfl, holdsRenumbered_of_unchanged hd hitems hcanon (hzero.mp hc)⟩
    · have hok : env.diskOk = true := hdisk.resolve_right fun h => hc (hzero.mpr h)
      obtain ⟨nextId, hwrite⟩ := writeAtomic_of_diskOk hok scenes' st₁
      rw [if_pos hc]
      refine ⟨changed, _, (Script.bind_of_ok hwrite).trans rfl, ?_⟩
      exact holdsRenumbered_of_written hd hcanon hcover hall rfl rfl
  · intro changed st' h
    rw [renumberGroupReferences, Script.bind_of_ok hitems] at h
    obtain ⟨⟨scenes', n⟩, st₂, hlift, h⟩ := Script.bind_eq_ok.mp h
    have hren : renumberScenes env d scenes = .ok (scenes', n) := (Script.lift_eq_ok.mp hlift).1
    have hcover := scenesCover_of_renumberScenes env hd hcanon hren
    refine ⟨hcover, ?_⟩
    obtain ⟨_, _, hren', -, hzero⟩ := renumberScenes_spec env hd hcanon hcover
    rw [hren] at hren'
    cases hren'
    by_cases hc : n = 0
    · exact Or.inr (hzero.mp hc)
    · left
      simp only at h
      rw [if_pos hc] at h
      obtain ⟨_, st₃, hwrite, -⟩ := Script.bind_eq_ok.mp h
      by_contra hd'
      rw [writeAtomic, Script.bind_of_ok (Script.get_run _), if_neg hd'] at hwrite
      cases hwrite

end RaceLink
