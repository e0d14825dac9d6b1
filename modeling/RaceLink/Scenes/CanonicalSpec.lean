/-
# What the validator accepts

`Action.Canonical` says, with no mention of the validator, what a canonical action is: which
shapes, which ranges, and how a container's offset block and children are tied to its target.

* `canonicalAction_sound`: what the validator returns is canonical, whatever it was given
  (legacy shapes included).
* `canonicalAction_toPy_eq_ok`: on the stored form of an action, in any order and spelling, it
  returns exactly when the normal form of the action is canonical, and returns that normal form
  (`Action.normal`: sorted groups and values, upper-case addresses, a flags block on every kind
  that has one).

A canonical action is its own normal form, so the fixed points of the validator are the
canonical actions (`canonicalAction_toPy_iff`), and the same for a scene's list
(`canonicalActions_toPy_iff`).  Every question of the kind "does this rewrite leave a scene
loadable" is from here on a question about `Canonical`.
-/
import RaceLink.Scenes.Canonical

namespace RaceLink

open Python

/-! ## 1. The predicate -/

/-- A canonical target: a group list is non-empty, in range and strictly increasing. -/
def Target.Canonical : Target → Prop
  | .broadcast => True
  | .groups value => value ≠ [] ∧ value.Pairwise (· < ·) ∧ ∀ g ∈ value, 0 ≤ g ∧ g ≤ groupIdMax
  | .device value => isMac12 value = true

/-- The target is not a single device. -/
def Target.NotDevice : Target → Prop
  | .device _ => False
  | _ => True

/-- A child's group list stays inside the container's (`none` is every group). -/
def Target.Within (parentGroups : Option (List Int)) : Target → Prop
  | .groups value => ∀ parent, parentGroups = some parent → ∀ g ∈ value, g ∈ parent
  | _ => True

/-- A canonical entry of an explicit block over the groups `ids`. -/
def OffsetValue.Canonical (ids : List Int) (v : OffsetValue) : Prop :=
  v.id ∈ ids ∧ (0 ≤ v.id ∧ v.id ≤ groupIdMax) ∧ offsetMsMin ≤ v.offsetMs ∧ v.offsetMs ≤ offsetMsMax

/-- The shared parameters of the formula modes are in range. -/
def FormulaInRange (base step : Int) : Prop :=
  (offsetBaseMin ≤ base ∧ base ≤ offsetBaseMax) ∧ offsetStepMin ≤ step ∧ step ≤ offsetStepMax

/-- A canonical offset block under a container with the given groups. -/
def OffsetBlock.Canonical (groupIds : Option (List Int)) : OffsetBlock → Prop
  | .none => True
  | .explicit values => ∃ ids, groupIds = some ids ∧ values.length = ids.length ∧
      values.Pairwise (fun a b => a.id ≤ b.id) ∧ ∀ v ∈ values, v.Canonical ids
  | .linear base step => FormulaInRange base step
  | .vshape base step center => FormulaInRange base step ∧ 0 ≤ center ∧ center ≤ groupIdMax
  | .modulo base step cycle =>
      FormulaInRange base step ∧ offsetCycleMin ≤ cycle ∧ cycle ≤ offsetCycleMax

/-- A canonical effect. -/
def Effect.Canonical (e : Effect) : Prop :=
  e.target.Canonical ∧ e.flagsOverride.isSome = e.kind.withFlags

/-- A canonical child of a container with the given groups. -/
def Effect.CanonicalChild (parentGroups : Option (List Int)) (e : Effect) : Prop :=
  e.Canonical ∧ e.kind ≠ .startblock ∧ e.target.Within parentGroups

/-- A canonical action. -/
def Action.Canonical : Action → Prop
  | .effect e => e.Canonical
  | .sync => True
  | .delay durationMs => 0 ≤ durationMs ∧ durationMs ≤ maxDelayMs
  | .offsetGroup target offset actions =>
      (target.Canonical ∧ target.NotDevice) ∧
      (target.groupIds?.getD []).length ≤ maxGroupsOffsetEntries ∧
      offset.Canonical target.groupIds? ∧
      actions.length ≤ maxOffsetGroupChildren ∧
      ∀ c ∈ actions, c.CanonicalChild target.groupIds?

/-- A canonical list of actions. -/
def ActionsCanonical (actions : List Action) : Prop :=
  actions.length ≤ maxActionsPerScene ∧ ∀ a ∈ actions, a.Canonical

/-! ## 2. The normal form -/

/-- The target the validator makes of a target: groups sorted, an address stripped and in upper
case. -/
def Target.normal : Target → Target
  | .broadcast => .broadcast
  | .groups value => .groups (value.insertionSort (· ≤ ·))
  | .device value => .device (upper (strip value))

/-- The block the validator makes of a block: explicit values sorted by group. -/
def OffsetBlock.normal : OffsetBlock → OffsetBlock
  | .explicit values => .explicit (values.insertionSort fun a b => a.id ≤ b.id)
  | block => block

/-- The effect the validator makes of an effect: a flags block exactly on the kinds with flags. -/
def Effect.normal (e : Effect) : Effect :=
  { e with
    target := e.target.normal
    flagsOverride :=
      if e.kind.withFlags then some (e.flagsOverride.getD ⟨fun _ => none⟩) else none }

/-- The action the validator makes of an action. -/
def Action.normal : Action → Action
  | .effect e => .effect e.normal
  | .sync => .sync
  | .delay durationMs => .delay durationMs
  | .offsetGroup target offset actions =>
    .offsetGroup target.normal offset.normal (actions.map (·.normal))

theorem normal_withFlags (e : Effect) :
    e.normal.flagsOverride.isSome = e.normal.kind.withFlags := by
  unfold Effect.normal
  cases e.kind.withFlags <;> rfl

/-! ## 3. Targets -/

theorem canonicalGroupIds_sound {vs : List PyVal} {seen ids : List Int}
    (h : canonicalGroupIds seen vs = .ok ids) :
    (ids.length = vs.length ∧ ids.Nodup) ∧ ∀ g ∈ ids, g ∉ seen ∧ 0 ≤ g ∧ g ≤ groupIdMax := by
  induction vs generalizing seen ids with
  | nil =>
    cases h
    simp
  | cons entry rest ih =>
    simp only [canonicalGroupIds, bind_eq_ok, raiseIf_eq_ok, pure_eq_ok, Except.ok.injEq] at h
    obtain ⟨v, -, _, hrange, _, hseen, ids', hrest, rfl⟩ := h
    obtain ⟨⟨hlen, hnd⟩, hall⟩ := ih hrest
    have hv : v ∉ ids' := fun hv => (hall v hv).1 List.mem_cons_self
    refine ⟨⟨by simp [hlen], List.nodup_cons.mpr ⟨hv, hnd⟩⟩, ?_⟩
    intro g hg
    rcases List.mem_cons.mp hg with rfl | hg
    · exact ⟨hseen, by omega⟩
    · exact ⟨fun h => (hall g hg).1 (List.mem_cons_of_mem _ h), (hall g hg).2⟩

/-- On a list of integers the loop returns that list, if it returns. -/
theorem canonicalGroupIds_ints {ids seen ids' : List Int} :
    canonicalGroupIds seen (ids.map .int) = .ok ids' ↔
      ids' = ids ∧ ids.Nodup ∧ ∀ g ∈ ids, g ∉ seen ∧ 0 ≤ g ∧ g ≤ groupIdMax := by
  induction ids generalizing seen ids' with
  | nil =>
    simp only [List.map_nil, canonicalGroupIds, Except.ok.injEq]
    exact ⟨fun h => ⟨h.symm, List.nodup_nil, by simp⟩, fun h => h.1.symm⟩
  | cons v ids ih =>
    simp only [List.map_cons, canonicalGroupIds, intCatch_int, ok_bind, bind_eq_ok, raiseIf_eq_ok,
      pure_eq_ok, Except.ok.injEq, ih, List.nodup_cons]
    rw [List.forall_mem_cons]
    constructor
    · rintro ⟨_, hrange, _, hseen, ids', ⟨rfl, hnd, hall⟩, rfl⟩
      have hv : v ∉ ids' := fun hv => (hall v hv).1 List.mem_cons_self
      refine ⟨rfl, ⟨hv, hnd⟩, ⟨hseen, by omega⟩, fun g hg => ⟨fun h => ?_, (hall g hg).2⟩⟩
      exact (hall g hg).1 (List.mem_cons_of_mem _ h)
    · rintro ⟨rfl, ⟨hv, hnd⟩, ⟨hseen, hrange⟩, hall⟩
      refine ⟨(), by omega, (), hseen, ids, ⟨rfl, hnd, fun g hg => ?_⟩, rfl⟩
      refine ⟨fun h => ?_, (hall g hg).2⟩
      rcases List.mem_cons.mp h with rfl | h
      · exact hv hg
      · exact (hall g hg).1 h

/-- Sorting a list of distinct ids makes it strictly increasing. -/
theorem pairwise_lt_insertionSort {ids : List Int} (h : ids.Nodup) :
    (ids.insertionSort (· ≤ ·)).Pairwise (· < ·) := by
  have hle := List.pairwise_insertionSort (r := fun a b : Int => a ≤ b) ids
  have hne : (ids.insertionSort (· ≤ ·)).Nodup :=
    (List.perm_insertionSort (· ≤ ·) ids).nodup_iff.mpr h
  exact (hle.and hne).imp fun ⟨h1, h2⟩ => lt_of_le_of_ne h1 h2

/-- A strictly increasing list is sorted already. -/
theorem insertionSort_of_pairwise_lt {ids : List Int} (h : ids.Pairwise (· < ·)) :
    ids.insertionSort (· ≤ ·) = ids :=
  List.Pairwise.insertionSort_eq (h.imp fun h => h.le)

theorem canonical_of_canonicalGroupIds {vs : List PyVal} {ids : List Int} (hvs : vs ≠ [])
    (h : canonicalGroupIds [] vs = .ok ids) :
    (Target.groups (ids.insertionSort (· ≤ ·))).Canonical := by
  obtain ⟨⟨hlen, hnd⟩, hall⟩ := canonicalGroupIds_sound h
  refine ⟨?_, pairwise_lt_insertionSort hnd, ?_⟩
  · intro hnil
    have h0 : (ids.insertionSort (· ≤ ·)).length = ids.length := List.length_insertionSort _ _
    rw [hnil, hlen] at h0
    exact hvs (List.length_eq_zero_iff.mp h0.symm)
  · intro g hg
    exact (hall g ((List.mem_insertionSort _).mp hg)).2

theorem canonicalTarget_sound {raw : PyVal} {t : Target} (h : canonicalTarget raw = .ok t) :
    t.Canonical := by
  simp only [canonicalTarget, bind_eq_ok] at h
  obtain ⟨raw', -, h⟩ := h
  split at h
  · split at h
    · cases h; trivial
    · split at h
      · split at h
        · simp only [bind_eq_ok, pure_eq_ok, Except.ok.injEq] at h
          obtain ⟨ids, hids, rfl⟩ := h
          exact canonical_of_canonicalGroupIds (by simp) hids
        · cases h
      · split at h
        · split at h
          · simp only [bind_eq_ok, raiseIf_eq_ok, pure_eq_ok, Except.ok.injEq] at h
            obtain ⟨_, hmac, rfl⟩ := h
            exact not_not.mp hmac
          · cases h
        · cases h
  · cases h

theorem isSpace_of_isUpperHex {c : Char} (h : isUpperHex c = true) : isSpace c = false := by
  simp only [isUpperHex, Bool.or_eq_true, Bool.and_eq_true, decide_eq_true_eq] at h
  simp only [isSpace, Bool.or_eq_false_iff, Bool.and_eq_false_iff, decide_eq_false_iff_not,
    beq_eq_false_iff_ne]
  omega

theorem upperChar_of_isUpperHex {c : Char} (h : isUpperHex c = true) : upperChar c = [c] := by
  have hlow : ¬ (0x61 ≤ c.toNat ∧ c.toNat ≤ 0x7a) := by
    simp only [isUpperHex, Bool.or_eq_true, Bool.and_eq_true, decide_eq_true_eq] at h
    omega
  unfold upperChar
  rw [if_neg hlow]
  split <;> first | rfl | exact absurd h (by decide)

/-- An address in canonical form is what stripping and upper-casing make of it. -/
theorem upper_strip_of_isMac12 {s : String} (h : isMac12 s = true) : upper (strip s) = s := by
  simp only [isMac12, Bool.and_eq_true, List.all_eq_true] at h
  rw [strip_eq_self fun c hc => isSpace_of_isUpperHex (h.2 c hc),
    upper_eq_self fun c hc => upperChar_of_isUpperHex (h.2 c hc)]

/-- The stored form of a group list, canonicalised. -/
theorem canonicalTarget_groups (g : Int) (gs : List Int) :
    canonicalTarget (Target.groups (g :: gs)).toPy =
      (canonicalGroupIds [] ((g :: gs).map .int) >>= fun ids =>
        .ok (.groups (ids.insertionSort (· ≤ ·)))) := by
  simp [canonicalTarget, Target.toPy, migrateLegacyTarget, strDict, Dict.get]

theorem canonicalTarget_groups_nil :
    canonicalTarget (Target.groups []).toPy = .error (.valueError
      [.text "target.value for groups must be a non-empty list of int group ids"]) := by
  simp [canonicalTarget, Target.toPy, migrateLegacyTarget, strDict, Dict.get]

/-- The stored form of a device, canonicalised. -/
theorem canonicalTarget_device (value : String) :
    canonicalTarget (Target.device value).toPy =
      (raiseIf (¬ isMac12 (upper (strip value)))
        [.text "invalid device address ", .repr (.str value), .text ": expected 12-char hex"]
        >>= fun _ => .ok (.device (upper (strip value)))) := by
  simp [canonicalTarget, Target.toPy, migrateLegacyTarget, strDict, Dict.get]

theorem canonicalTarget_broadcast : canonicalTarget Target.broadcast.toPy = .ok .broadcast := by
  simp [canonicalTarget, Target.toPy, migrateLegacyTarget, strDict, Dict.get]

theorem canonicalTarget_toPy_eq_ok {t t' : Target} :
    canonicalTarget t.toPy = .ok t' ↔ t.normal.Canonical ∧ t' = t.normal := by
  cases t with
  | broadcast =>
    rw [canonicalTarget_broadcast, Except.ok.injEq]
    exact ⟨fun h => ⟨trivial, h.symm⟩, fun h => h.2.symm⟩
  | groups value =>
    cases value with
    | nil =>
      rw [canonicalTarget_groups_nil]
      exact ⟨fun h => (nomatch h), fun h => absurd rfl h.1.1⟩
    | cons g gs =>
      simp only [canonicalTarget_groups, bind_eq_ok, Except.ok.injEq, canonicalGroupIds_ints]
      constructor
      · rintro ⟨_, ⟨rfl, hnd, hall⟩, rfl⟩
        have hids := canonicalGroupIds_ints.mpr ⟨rfl, hnd, hall⟩
        exact ⟨canonical_of_canonicalGroupIds (List.cons_ne_nil _ _) hids, rfl⟩
      · rintro ⟨⟨-, hlt, hrange⟩, rfl⟩
        have hnd : (g :: gs).Nodup :=
          (List.perm_insertionSort (· ≤ ·) (g :: gs)).nodup_iff.mp (hlt.imp fun h => h.ne)
        refine ⟨g :: gs, ⟨rfl, hnd, fun v hv => ⟨by simp, ?_⟩⟩, rfl⟩
        exact hrange v ((List.mem_insertionSort _).mpr hv)
  | device value =>
    simp only [canonicalTarget_device, bind_eq_ok, raiseIf_eq_ok, not_not, Except.ok.injEq]
    constructor
    · rintro ⟨_, hmac, rfl⟩
      exact ⟨hmac, rfl⟩
    · rintro ⟨hmac, rfl⟩
      exact ⟨(), hmac, rfl⟩

/-- A canonical target is its own normal form. -/
theorem Target.normal_of_canonical {t : Target} (h : t.Canonical) : t.normal = t := by
  cases t with
  | broadcast => rfl
  | groups value => rw [Target.normal, insertionSort_of_pairwise_lt h.2.1]
  | device value => rw [Target.normal, upper_strip_of_isMac12 h]

theorem canonicalOffsetGroupContainerTarget_sound {raw : PyVal} {t : Target}
    (h : canonicalOffsetGroupContainerTarget raw = .ok t) : t.Canonical ∧ t.NotDevice := by
  simp only [canonicalOffsetGroupContainerTarget, bind_eq_ok] at h
  obtain ⟨t', ht', h⟩ := h
  have hc := canonicalTarget_sound ht'
  cases t' with
  | device value => cases h
  | broadcast => cases h; exact ⟨hc, trivial⟩
  | groups value => cases h; exact ⟨hc, trivial⟩

theorem canonicalOffsetGroupContainerTarget_toPy_eq_ok {t t' : Target} :
    canonicalOffsetGroupContainerTarget t.toPy = .ok t' ↔
      (t.normal.Canonical ∧ t.normal.NotDevice) ∧ t' = t.normal := by
  simp only [canonicalOffsetGroupContainerTarget, bind_eq_ok, canonicalTarget_toPy_eq_ok]
  constructor
  · rintro ⟨_, ⟨hcanon, rfl⟩, h⟩
    cases t with
    | device value => cases h
    | broadcast => cases h; exact ⟨⟨hcanon, trivial⟩, rfl⟩
    | groups value => cases h; exact ⟨⟨hcanon, trivial⟩, rfl⟩
  · rintro ⟨⟨hcanon, hdevice⟩, rfl⟩
    refine ⟨_, ⟨hcanon, rfl⟩, ?_⟩
    cases t with
    | device value => exact hdevice.elim
    | broadcast => rfl
    | groups value => rfl

theorem checkChildGroups_eq_ok {parent : List Int} {u : Unit} {vs : List Int} :
    checkChildGroups parent vs = .ok u ↔ ∀ g ∈ vs, g ∈ parent := by
  induction vs with
  | nil => simp [checkChildGroups]
  | cons v vs ih =>
    simp only [checkChildGroups, bind_eq_ok, raiseIf_eq_ok, not_not, List.forall_mem_cons]
    constructor
    · rintro ⟨_, hv, hrest⟩
      exact ⟨hv, ih.mp hrest⟩
    · rintro ⟨hv, hrest⟩
      exact ⟨(), hv, ih.mpr hrest⟩

theorem canonicalOffsetGroupChildTarget_sound {raw : PyVal} {parent : Option (List Int)}
    {t : Target} (h : canonicalOffsetGroupChildTarget raw parent = .ok t) :
    t.Canonical ∧ t.Within parent := by
  simp only [canonicalOffsetGroupChildTarget, bind_eq_ok] at h
  obtain ⟨t', ht', h⟩ := h
  have hc := canonicalTarget_sound ht'
  split at h
  · simp only [bind_eq_ok, pure_eq_ok, Except.ok.injEq] at h
    obtain ⟨_, hcheck, rfl⟩ := h
    refine ⟨hc, ?_⟩
    rintro _ ⟨⟩
    exact checkChildGroups_eq_ok.mp hcheck
  · rename_i hne
    cases h
    refine ⟨hc, ?_⟩
    cases t with
    | groups value => exact fun p hp => (hne value p rfl hp).elim
    | broadcast => trivial
    | device value => trivial

theorem canonicalOffsetGroupChildTarget_toPy_eq_ok {t t' : Target} {parent : Option (List Int)} :
    canonicalOffsetGroupChildTarget t.toPy parent = .ok t' ↔
      (t.normal.Canonical ∧ t.normal.Within parent) ∧ t' = t.normal := by
  constructor
  · intro h
    have hsound := canonicalOffsetGroupChildTarget_sound h
    simp only [canonicalOffsetGroupChildTarget, bind_eq_ok, canonicalTarget_toPy_eq_ok] at h
    obtain ⟨_, ⟨-, rfl⟩, h⟩ := h
    have heq : t' = t.normal := by
      split at h
      · simp only [bind_eq_ok, pure_eq_ok, Except.ok.injEq] at h
        obtain ⟨_, -, rfl⟩ := h
        rfl
      · cases h; rfl
    exact ⟨heq ▸ hsound, heq⟩
  · rintro ⟨⟨hcanon, hwithin⟩, rfl⟩
    simp only [canonicalOffsetGroupChildTarget, canonicalTarget_toPy_eq_ok.mpr ⟨hcanon, rfl⟩,
      ok_bind]
    cases t with
    | broadcast => rfl
    | device value => rfl
    | groups value =>
      cases parent with
      | none => rfl
      | some p =>
        have hcheck : checkChildGroups p (value.insertionSort (· ≤ ·)) = .ok () :=
          checkChildGroups_eq_ok.mpr (hwithin p rfl)
        simp [Target.normal, hcheck]

/-! ## 4. Offset blocks -/

theorem validateInt_sound {name : String} {raw : PyVal} {lo hi v : Int}
    (h : validateInt name raw lo hi = .ok v) : lo ≤ v ∧ v ≤ hi := by
  simp only [validateInt, bind_eq_ok, raiseIf_eq_ok, pure_eq_ok, Except.ok.injEq] at h
  obtain ⟨v', -, _, hr, rfl⟩ := h
  omega

theorem validateInt_int_eq_ok {name : String} {lo hi v v' : Int} :
    validateInt name (.int v) lo hi = .ok v' ↔ (lo ≤ v ∧ v ≤ hi) ∧ v' = v := by
  simp only [validateInt, intCatch_int, ok_bind, bind_eq_ok, raiseIf_eq_ok, pure_eq_ok,
    Except.ok.injEq]
  constructor
  · rintro ⟨_, hrange, rfl⟩
    exact ⟨by omega, rfl⟩
  · rintro ⟨hrange, rfl⟩
    exact ⟨(), by omega, rfl⟩

theorem canonicalValues_sound : ∀ {ids : List Int} {raws : List PyVal} {values : List OffsetValue},
    canonicalValues ids raws = .ok values →
      values.length = raws.length ∧ ∀ v ∈ values, v.Canonical ids
  | ids, [], values, h => by
    cases h
    simp
  | ids, raw :: rest, values, h => by
    cases raw with
    | dict d =>
      simp only [canonicalValues, bind_eq_ok, raiseIf_eq_ok, pure_eq_ok, Except.ok.injEq] at h
      obtain ⟨gid, hgid, _, hmem, ms, hms, values', hrest, rfl⟩ := h
      obtain ⟨hlen, hall⟩ := canonicalValues_sound hrest
      refine ⟨by simp [hlen], List.forall_mem_cons.mpr ⟨?_, hall⟩⟩
      exact ⟨not_not.mp hmem, validateInt_sound hgid, validateInt_sound hms⟩
    | _ => simp [canonicalValues] at h

theorem canonicalValues_toPy_eq_ok : ∀ {ids : List Int} {values values' : List OffsetValue},
    canonicalValues ids (values.map (·.toPy)) = .ok values' ↔
      (∀ v ∈ values, v.Canonical ids) ∧ values' = values
  | _, [], values' => by
    simp only [List.map_nil, canonicalValues, Except.ok.injEq]
    exact ⟨fun h => ⟨by simp, h.symm⟩, fun h => h.2.symm⟩
  | ids, v :: values, values' => by
    have hid : Dict.get [(.str "id", .int v.id), (.str "offset_ms", .int v.offsetMs)] "id"
        = .int v.id := by simp [Dict.get]
    have hms : Dict.get [(.str "id", .int v.id), (.str "offset_ms", .int v.offsetMs)] "offset_ms"
        = .int v.offsetMs := by simp [Dict.get]
    have hv : v.toPy = .dict [(.str "id", .int v.id), (.str "offset_ms", .int v.offsetMs)] := rfl
    simp only [List.map_cons, hv, canonicalValues, hid, hms, bind_eq_ok, validateInt_int_eq_ok,
      raiseIf_eq_ok, not_not, pure_eq_ok, Except.ok.injEq, canonicalValues_toPy_eq_ok,
      List.forall_mem_cons]
    constructor
    · rintro ⟨_, ⟨hrange, rfl⟩, _, hmem, _, ⟨hoff, rfl⟩, _, ⟨hall, rfl⟩, rfl⟩
      exact ⟨⟨⟨hmem, hrange, hoff⟩, hall⟩, rfl⟩
    · rintro ⟨⟨⟨hmem, hrange, hoff⟩, hall⟩, rfl⟩
      exact ⟨v.id, ⟨hrange, rfl⟩, (), hmem, v.offsetMs, ⟨hoff, rfl⟩, values, ⟨hall, rfl⟩, rfl⟩

theorem canonicalOffsetBlock_sound {raw : PyVal} {isAll : Bool} {ids : Option (List Int)}
    {o : OffsetBlock} (h : canonicalOffsetBlock raw isAll ids = .ok o) : o.Canonical ids := by
  unfold canonicalOffsetBlock at h
  split at h
  · simp only [bind_eq_ok] at h
    obtain ⟨_, -, h⟩ := h
    split at h
    · cases h; trivial
    · split at h
      · split at h
        · rename_i ids'
          split at h
          · simp only [bind_eq_ok, raiseIf_eq_ok, pure_eq_ok, Except.ok.injEq, not_not] at h
            obtain ⟨_, hlen, values, hvalues, rfl⟩ := h
            obtain ⟨hlen', hall⟩ := canonicalValues_sound hvalues
            refine ⟨ids', rfl, ?_, List.pairwise_insertionSort _ values, ?_⟩
            · rw [List.length_insertionSort, hlen', hlen]
            · exact fun v hv => hall v ((List.mem_insertionSort _).mp hv)
          · cases h
        · cases h
      · simp only [bind_eq_ok] at h
        obtain ⟨base, hbase, step, hstep, h⟩ := h
        have hformula : FormulaInRange base step :=
          ⟨validateInt_sound hbase, validateInt_sound hstep⟩
        split at h
        · cases h; exact hformula
        · split at h
          · simp only [bind_eq_ok, pure_eq_ok, Except.ok.injEq] at h
            obtain ⟨center, hcenter, rfl⟩ := h
            exact ⟨hformula, validateInt_sound hcenter⟩
          · split at h
            · simp only [bind_eq_ok, pure_eq_ok, Except.ok.injEq] at h
              obtain ⟨cycle, hcycle, rfl⟩ := h
              exact ⟨hformula, validateInt_sound hcycle⟩
            · cases h
  · cases h

/-- The stored form of an explicit block over a concrete group list, canonicalised. -/
theorem canonicalOffsetBlock_explicit (values : List OffsetValue) (ids : List Int) :
    canonicalOffsetBlock (OffsetBlock.explicit values).toPy false (some ids) =
      (raiseIf (values.length ≠ ids.length) valuesLengthMsg >>= fun _ =>
        canonicalValues ids (values.map (·.toPy)) >>= fun vs =>
          .ok (.explicit (vs.insertionSort fun a b => a.id ≤ b.id))) := by
  simp [canonicalOffsetBlock, OffsetBlock.toPy, strDict, Dict.get, offsetFormulaModes, raiseIf]

theorem canonicalOffsetBlock_explicit_all (values : List OffsetValue) (ids : Option (List Int)) :
    canonicalOffsetBlock (OffsetBlock.explicit values).toPy true ids = .error (.valueError
      [.text "groups_offset.offset.mode=\"explicit\" requires a concrete groups list"]) := by
  simp [canonicalOffsetBlock, OffsetBlock.toPy, strDict, Dict.get, offsetFormulaModes, raiseIf]

/-- The two checks every formula mode starts with. -/
def checkFormula (base step : Int) (k : Int → Int → Except PyErr OffsetBlock) :
    Except PyErr OffsetBlock :=
  validateInt "groups_offset.offset.base_ms" (.int base) offsetBaseMin offsetBaseMax >>= fun base =>
    validateInt "groups_offset.offset.step_ms" (.int step)
        offsetStepMin offsetStepMax >>= fun step =>
      k base step

/-- The stored form of the other modes, canonicalised. -/
theorem canonicalOffsetBlock_formula (isAll : Bool) (ids : Option (List Int))
    (base step center cycle : Int) :
    canonicalOffsetBlock OffsetBlock.none.toPy isAll ids = .ok .none ∧
    canonicalOffsetBlock (OffsetBlock.linear base step).toPy isAll ids =
      checkFormula base step (fun base step => .ok (.linear base step)) ∧
    canonicalOffsetBlock (OffsetBlock.vshape base step center).toPy isAll ids =
      checkFormula base step (fun base step =>
        validateInt "groups_offset.offset.center" (.int center) 0 groupIdMax >>= fun center =>
          .ok (.vshape base step center)) ∧
    canonicalOffsetBlock (OffsetBlock.modulo base step cycle).toPy isAll ids =
      checkFormula base step (fun base step =>
        validateInt "groups_offset.offset.cycle" (.int cycle) offsetCycleMin offsetCycleMax >>=
          fun cycle => .ok (.modulo base step cycle)) := by
  refine ⟨?_, ?_, ?_, ?_⟩ <;>
    simp [canonicalOffsetBlock, checkFormula, OffsetBlock.toPy, strDict, Dict.get, Dict.getD,
      offsetFormulaModes, raiseIf]

theorem checkFormula_eq_ok {base step : Int} {k : Int → Int → Except PyErr OffsetBlock}
    {o : OffsetBlock} :
    checkFormula base step k = .ok o ↔ FormulaInRange base step ∧ k base step = .ok o := by
  simp only [checkFormula, bind_eq_ok, validateInt_int_eq_ok]
  constructor
  · rintro ⟨_, ⟨hbase, rfl⟩, _, ⟨hstep, rfl⟩, hk⟩
    exact ⟨⟨hbase, hstep⟩, hk⟩
  · rintro ⟨⟨hbase, hstep⟩, hk⟩
    exact ⟨base, ⟨hbase, rfl⟩, step, ⟨hstep, rfl⟩, hk⟩

theorem canonicalOffsetBlock_toPy_eq_ok {o o' : OffsetBlock} {isAll : Bool}
    {ids : Option (List Int)} (hall : isAll = ids.isNone) :
    canonicalOffsetBlock o.toPy isAll ids = .ok o' ↔ o.normal.Canonical ids ∧ o' = o.normal := by
  subst hall
  cases o with
  | none =>
    rw [(canonicalOffsetBlock_formula _ _ 0 0 0 0).1, Except.ok.injEq]
    exact ⟨fun h => ⟨trivial, h.symm⟩, fun h => h.2.symm⟩
  | explicit values =>
    cases ids with
    | none =>
      rw [show (none : Option (List Int)).isNone = true from rfl, canonicalOffsetBlock_explicit_all]
      refine ⟨fun h => (nomatch h), ?_⟩
      rintro ⟨⟨_, hids, -⟩, -⟩
      cases hids
    | some ids =>
      rw [show (some ids).isNone = false from rfl, canonicalOffsetBlock_explicit]
      simp only [bind_eq_ok, raiseIf_eq_ok, not_not, canonicalValues_toPy_eq_ok, Except.ok.injEq]
      have hsorted := List.pairwise_insertionSort (r := fun a b : OffsetValue => a.id ≤ b.id) values
      constructor
      · rintro ⟨_, hlen, _, ⟨hcanon, rfl⟩, rfl⟩
        refine ⟨⟨ids, rfl, by rw [List.length_insertionSort, hlen], hsorted, fun v hv => ?_⟩, rfl⟩
        exact hcanon v ((List.mem_insertionSort _).mp hv)
      · rintro ⟨⟨_, hids, hlen, -, hcanon⟩, rfl⟩
        cases hids
        rw [List.length_insertionSort] at hlen
        refine ⟨(), hlen, values, ⟨fun v hv => ?_, rfl⟩, rfl⟩
        exact hcanon v ((List.mem_insertionSort _).mpr hv)
  | linear base step =>
    rw [(canonicalOffsetBlock_formula _ _ base step 0 0).2.1, checkFormula_eq_ok, Except.ok.injEq]
    exact and_congr_right fun _ => eq_comm
  | vshape base step center =>
    rw [(canonicalOffsetBlock_formula _ _ base step center 0).2.2.1, checkFormula_eq_ok]
    simp only [bind_eq_ok, validateInt_int_eq_ok, Except.ok.injEq]
    constructor
    · rintro ⟨hformula, _, ⟨hcenter, rfl⟩, rfl⟩
      exact ⟨⟨hformula, hcenter⟩, rfl⟩
    · rintro ⟨⟨hformula, hcenter⟩, rfl⟩
      exact ⟨hformula, center, ⟨hcenter, rfl⟩, rfl⟩
  | modulo base step cycle =>
    rw [(canonicalOffsetBlock_formula _ _ base step 0 cycle).2.2.2, checkFormula_eq_ok]
    simp only [bind_eq_ok, validateInt_int_eq_ok, Except.ok.injEq]
    constructor
    · rintro ⟨hformula, _, ⟨hcycle, rfl⟩, rfl⟩
      exact ⟨⟨hformula, hcycle⟩, rfl⟩
    · rintro ⟨⟨hformula, hcycle⟩, rfl⟩
      exact ⟨hformula, cycle, ⟨hcycle, rfl⟩, rfl⟩

theorem OffsetBlock.normal_of_canonical {o : OffsetBlock} {ids : Option (List Int)}
    (h : o.Canonical ids) : o.normal = o := by
  cases o with
  | explicit values =>
    obtain ⟨_, -, -, hsorted, -⟩ := h
    rw [OffsetBlock.normal, List.Pairwise.insertionSort_eq hsorted]
  | _ => rfl

/-! ## 5. Effects -/

theorem find?_filterMap_flags (f : FlagsOverride) (k : UserFlag) :
    Dict.find? (UserFlag.all.filterMap fun k => (f.get k).map fun b => (.str k.key, .bool b)) k.key
      = (f.get k).map .bool := by
  have key : ∀ l : List UserFlag, l.Nodup →
      Dict.find? (l.filterMap fun k => (f.get k).map fun b => (.str k.key, .bool b)) k.key
        = if k ∈ l then (f.get k).map .bool else none := by
    intro l hl
    induction l with
    | nil => simp
    | cons m l ih =>
      obtain ⟨hm, hl⟩ := List.nodup_cons.mp hl
      rw [List.filterMap_cons]
      by_cases hkm : m = k
      · subst hkm
        cases f.get m <;> simp [ih hl, hm]
      · have hne : ¬ m.key = k.key := fun e => hkm (UserFlag.key_injective e)
        have hkm' : ¬ k = m := fun e => hkm e.symm
        cases f.get m <;> simp [ih hl, hne, hkm']
  rw [key _ (by decide), if_pos (UserFlag.mem_all k)]

theorem canonicalFlagsOverride_toPy (f : FlagsOverride) :
    canonicalFlagsOverride f.toPy = .ok f := by
  have hget : ∀ k, ((f.get k).map PyVal.bool).map (·.truthy) = f.get k := by
    intro k
    cases f.get k <;> rfl
  by_cases hempty : f.toPy.truthy
  · rw [canonicalFlagsOverride, PyVal.or, if_pos hempty]
    simp only [FlagsOverride.toPy, find?_filterMap_flags, hget]
  · -- an empty block is replaced by `{}`, which says the same
    have hnil : (UserFlag.all.filterMap fun k =>
        (f.get k).map fun b => (PyKey.str k.key, PyVal.bool b))
        = [] := by
      simpa [FlagsOverride.toPy, PyVal.truthy] using hempty
    have hnone : ∀ k, f.get k = none := by
      intro k
      have h := find?_filterMap_flags f k
      rw [hnil] at h
      simpa using h.symm
    simp only [canonicalFlagsOverride, PyVal.or, if_neg hempty, Dict.find?_nil, Option.map_none]
    congr 1
    cases f
    simp only [FlagsOverride.mk.injEq]
    funext k
    exact (hnone k).symm

theorem canonicalParams_dict (msg : String) (d : Dict) :
    canonicalParams msg (.dict d) = .ok d := rfl

theorem find?_offsetGroupChildKinds {v : PyVal} {k : EffectKind}
    (h : offsetGroupChildKinds.find? (fun k => v.eqStr k.name) = some k) : k ≠ .startblock := by
  have hmem := List.mem_of_find?_eq_some h
  rintro rfl
  simp [offsetGroupChildKinds] at hmem

theorem canonicalOffsetGroupChild_sound {parent : Option (List Int)} {raw : PyVal} {e : Effect}
    (h : canonicalOffsetGroupChild parent raw = .ok e) : e.CanonicalChild parent := by
  cases raw with
  | dict d =>
    unfold canonicalOffsetGroupChild at h
    simp only at h
    split at h
    · cases h
    · rename_i k hk
      have hkind : k ≠ .startblock := find?_offsetGroupChildKinds hk
      simp only [bind_eq_ok, pure_eq_ok, Except.ok.injEq] at h
      obtain ⟨_, -, target, htarget, params, -, flags, -, rfl⟩ := h
      obtain ⟨hcanon, hwithin⟩ := canonicalOffsetGroupChildTarget_sound htarget
      have hflags : k.withFlags = true := by cases k <;> first | rfl | exact absurd rfl hkind
      exact ⟨⟨hcanon, hflags.symm⟩, hkind, hwithin⟩
  | _ => simp [canonicalOffsetGroupChild] at h

/-- The dictionary an effect is stored as. -/
def Effect.dict (e : Effect) : Dict :=
  [(.str "kind", .str e.kind.name), (.str "target", e.target.toPy),
    (.str "params", .dict e.params)] ++
    match e.flagsOverride with
    | some f => [(.str "flags_override", f.toPy)]
    | none => []

theorem Effect.toPy_eq (e : Effect) : e.toPy = .dict e.dict := by
  unfold Effect.toPy Effect.dict strDict
  cases e.flagsOverride <;> rfl

/-- What the validator reads from the dictionary of an effect. -/
theorem effect_dict_get (e : Effect) :
    Dict.get e.dict "kind" = .str e.kind.name ∧ Dict.get e.dict "target" = e.target.toPy ∧
      Dict.contains e.dict "target" = true ∧ Dict.get e.dict "params" = .dict e.params ∧
      canonicalFlagsOverride (Dict.get e.dict "flags_override")
        = .ok (e.flagsOverride.getD ⟨fun _ => none⟩) := by
  have hnull : canonicalFlagsOverride .null = .ok ⟨fun _ => none⟩ := rfl
  obtain ⟨kind, target, params, flags⟩ := e
  cases flags with
  | none => simp [Effect.dict, Dict.get, Dict.contains, hnull]
  | some f => simp [Effect.dict, Dict.get, Dict.contains, canonicalFlagsOverride_toPy]

/-- The child kind an effect's kind spells. -/
theorem find?_child_kind (k : EffectKind) :
    (offsetGroupChildKinds.find? fun k' => (PyVal.str k.name).eqStr k'.name)
      = if k = .startblock then none else some k := by
  cases k <;> rfl

theorem canonicalOffsetGroupChild_toPy_eq_ok {parent : Option (List Int)} {e e' : Effect} :
    canonicalOffsetGroupChild parent e.toPy = .ok e' ↔
      e.normal.CanonicalChild parent ∧ e' = e.normal := by
  obtain ⟨hkind, htarget, hhas, hparams, hflags⟩ := effect_dict_get e
  rw [Effect.toPy_eq, canonicalOffsetGroupChild]
  simp only [hkind, find?_child_kind, htarget, hhas, hparams, hflags, canonicalParams_dict, ok_bind]
  by_cases hk : e.kind = .startblock
  · rw [if_pos hk]
    exact ⟨fun h => (nomatch h), fun h => absurd hk h.1.2.1⟩
  · have hwith : e.kind.withFlags = true := by
      cases hkk : e.kind <;> first | rfl | exact absurd hkk hk
    rw [if_neg hk]
    simp only [bind_eq_ok, raiseIf_eq_ok, canonicalOffsetGroupChildTarget_toPy_eq_ok, pure_eq_ok,
      Except.ok.injEq]
    constructor
    · rintro ⟨_, -, _, ⟨⟨hcanon, hwithin⟩, rfl⟩, rfl⟩
      refine ⟨⟨⟨hcanon, normal_withFlags e⟩, hk, hwithin⟩, ?_⟩
      rw [Effect.normal, if_pos hwith]
    · rintro ⟨⟨⟨hcanon, -⟩, -, hwithin⟩, rfl⟩
      refine ⟨(), not_not.mpr trivial, _, ⟨⟨hcanon, hwithin⟩, rfl⟩, ?_⟩
      rw [Effect.normal, if_pos hwith]

theorem canonicalEffect_sound {kind : EffectKind} {d : Dict} {e : Effect}
    (h : canonicalEffect kind d = .ok e) : e.Canonical := by
  simp only [canonicalEffect, bind_eq_ok] at h
  obtain ⟨_, -, target, htarget, params, -, h⟩ := h
  have hcanon := canonicalTarget_sound htarget
  split at h
  · rename_i hflags
    simp only [bind_eq_ok, pure_eq_ok, Except.ok.injEq] at h
    obtain ⟨flags, -, rfl⟩ := h
    exact ⟨hcanon, hflags.symm⟩
  · rename_i hflags
    cases h
    exact ⟨hcanon, by simpa using hflags⟩

theorem canonicalEffect_dict_eq_ok {e e' : Effect} :
    canonicalEffect e.kind e.dict = .ok e' ↔ e.normal.Canonical ∧ e' = e.normal := by
  obtain ⟨-, htarget, hhas, hparams, hflags⟩ := effect_dict_get e
  simp only [canonicalEffect, htarget, hhas, hparams, canonicalParams_dict, ok_bind, bind_eq_ok,
    raiseIf_eq_ok, canonicalTarget_toPy_eq_ok]
  constructor
  · rintro ⟨_, -, _, ⟨hcanon, rfl⟩, h⟩
    refine ⟨⟨hcanon, normal_withFlags e⟩, ?_⟩
    by_cases hk : e.kind.withFlags = true
    · rw [if_pos hk, hflags] at h
      rw [Effect.normal, if_pos hk]
      exact (Except.ok.inj h).symm
    · rw [if_neg hk] at h
      rw [Effect.normal, if_neg hk]
      exact (Except.ok.inj h).symm
  · rintro ⟨⟨hcanon, -⟩, rfl⟩
    refine ⟨(), not_not.mpr trivial, _, ⟨hcanon, rfl⟩, ?_⟩
    by_cases hk : e.kind.withFlags = true
    · rw [if_pos hk, hflags, Effect.normal, if_pos hk]
      rfl
    · rw [if_neg hk, Effect.normal, if_neg hk]
      rfl

theorem Effect.normal_of_canonical {e : Effect} (h : e.Canonical) : e.normal = e := by
  obtain ⟨hcanon, hflags⟩ := h
  obtain ⟨kind, target, params, flags⟩ := e
  simp only [Effect.normal, Target.normal_of_canonical hcanon]
  cases flags with
  | none =>
    have hk : kind.withFlags = false := by simpa using hflags.symm
    simp [hk]
  | some f =>
    have hk : kind.withFlags = true := by simpa using hflags.symm
    simp [hk]

/-! ## 6. Actions -/

theorem canonicalOffsetGroupAction_sound {d : Dict} {a : Action}
    (h : canonicalOffsetGroupAction d = .ok a) : a.Canonical := by
  simp only [canonicalOffsetGroupAction, bind_eq_ok, raiseIf_eq_ok] at h
  obtain ⟨raw, -, target, htarget, _, hlen, offset, hoffset, h⟩ := h
  split at h
  · simp only [bind_eq_ok, raiseIf_eq_ok, pure_eq_ok, Except.ok.injEq] at h
    obtain ⟨_, hchildren, actions, hactions, rfl⟩ := h
    refine ⟨canonicalOffsetGroupContainerTarget_sound htarget, by omega,
      canonicalOffsetBlock_sound hoffset, ?_, ?_⟩
    · rw [length_of_mapM hactions]; omega
    · intro c hc
      obtain ⟨_, -, hraw⟩ := exists_of_mem_mapM hactions hc
      exact canonicalOffsetGroupChild_sound hraw
  · cases h

/-- The dictionary an `offset_group` is stored as. -/
def offsetGroupDict (target : Target) (offset : OffsetBlock) (actions : List Effect) : Dict :=
  [(.str "kind", .str "offset_group"), (.str "target", target.toPy), (.str "offset", offset.toPy),
    (.str "actions", .list (actions.map (·.toPy)))]

theorem containerTargetRaw_offsetGroupDict (target : Target) (offset : OffsetBlock)
    (actions : List Effect) :
    containerTargetRaw (offsetGroupDict target offset actions) = .ok target.toPy := by
  cases target <;> simp [containerTargetRaw, offsetGroupDict, Dict.get, Target.toPy, strDict]

/-- What the validator reads from the dictionary of a container, besides its target. -/
theorem offsetGroupDict_get (target : Target) (offset : OffsetBlock) (actions : List Effect) :
    Dict.get (offsetGroupDict target offset actions) "kind" = .str "offset_group" ∧
      Dict.get (offsetGroupDict target offset actions) "target" = target.toPy ∧
      Dict.get (offsetGroupDict target offset actions) "offset" = offset.toPy ∧
      (Dict.get (offsetGroupDict target offset actions) "actions").or (.list [])
        = .list (actions.map (·.toPy)) := by
  refine ⟨?_, ?_, ?_, ?_⟩
  · simp [offsetGroupDict, Dict.get]
  · simp [offsetGroupDict, Dict.get]
  · simp [offsetGroupDict, Dict.get]
  · cases actions <;> simp [offsetGroupDict, Dict.get, PyVal.or, PyVal.truthy]

/-- A container is for every group exactly when it has no group list. -/
theorem beq_broadcast {t : Target} (h : t.NotDevice) :
    (t == .broadcast) = t.groupIds?.isNone := by
  cases t with
  | device value => exact h.elim
  | broadcast => rfl
  | groups value => simp [Target.groupIds?]

theorem mapM_child_eq_ok {parent : Option (List Int)} {actions actions' : List Effect} :
    canonicalChildren parent (actions.map (·.toPy)) = .ok actions' ↔
      (∀ c ∈ actions.map (·.normal), c.CanonicalChild parent) ∧
        actions' = actions.map (·.normal) := by
  rw [canonicalChildren, mapM_map_eq_ok fun e e' => canonicalOffsetGroupChild_toPy_eq_ok,
    List.forall_mem_map]

theorem canonicalOffsetGroupAction_dict_eq_ok {target : Target} {offset : OffsetBlock}
    {actions : List Effect} {a : Action} :
    canonicalOffsetGroupAction (offsetGroupDict target offset actions) = .ok a ↔
      (Action.offsetGroup target offset actions).normal.Canonical ∧
        a = (Action.offsetGroup target offset actions).normal := by
  obtain ⟨-, -, hoffset, hactions⟩ := offsetGroupDict_get target offset actions
  rw [canonicalOffsetGroupAction, containerTargetRaw_offsetGroupDict, ok_bind, hoffset, hactions]
  simp only [bind_eq_ok, raiseIf_eq_ok, canonicalOffsetGroupContainerTarget_toPy_eq_ok,
    mapM_child_eq_ok, List.length_map, pure_eq_ok, Except.ok.injEq]
  constructor
  · rintro ⟨_, ⟨htarget, rfl⟩, _, hlen, _, hblock, _, hchildren, _, ⟨hcanon, rfl⟩, rfl⟩
    obtain ⟨hoffset, rfl⟩ := (canonicalOffsetBlock_toPy_eq_ok (beq_broadcast htarget.2)).mp hblock
    exact ⟨⟨htarget, by omega, hoffset, by rw [List.length_map]; omega, hcanon⟩, rfl⟩
  · rintro ⟨⟨htarget, hlen, hblock, hchildren, hcanon⟩, rfl⟩
    rw [List.length_map] at hchildren
    exact ⟨_, ⟨htarget, rfl⟩, (), by omega, _,
      (canonicalOffsetBlock_toPy_eq_ok (beq_broadcast htarget.2)).mpr ⟨hblock, rfl⟩, (),
      by omega, _,
      ⟨hcanon, rfl⟩, rfl⟩

theorem canonicalActionDict_sound {d : Dict} {a : Action} (h : canonicalActionDict d = .ok a) :
    a.Canonical := by
  unfold canonicalActionDict at h
  simp only at h
  split at h
  · cases h
  · simp only [bind_eq_ok] at h
    obtain ⟨_, -, h⟩ := h
    exact canonicalOffsetGroupAction_sound h
  · simp only [bind_eq_ok, raiseIf_eq_ok, pure_eq_ok, Except.ok.injEq] at h
    obtain ⟨dur, -, _, hdur, _, -, rfl⟩ := h
    show 0 ≤ dur ∧ dur ≤ maxDelayMs
    omega
  · simp only [bind_eq_ok, pure_eq_ok, Except.ok.injEq] at h
    obtain ⟨_, -, rfl⟩ := h
    trivial
  · simp only [bind_eq_ok, pure_eq_ok, Except.ok.injEq] at h
    obtain ⟨e, he, rfl⟩ := h
    exact canonicalEffect_sound he

/-- **The validator is sound**: what it returns is canonical. -/
theorem canonicalAction_sound {raw : PyVal} {a : Action} (h : canonicalAction raw = .ok a) :
    a.Canonical := by
  cases raw with
  | dict d =>
    unfold canonicalAction at h
    simp only at h
    split at h
    · simp only [bind_eq_ok] at h
      obtain ⟨_, -, h⟩ := h
      exact canonicalActionDict_sound h
    · exact canonicalActionDict_sound h
  | _ => simp [canonicalAction] at h

/-- A stored target is never in the legacy shape. -/
theorem legacyGroupsOffsetTarget?_eq_none {d : Dict} {t : Target}
    (h : Dict.get d "target" = t.toPy) : legacyGroupsOffsetTarget? d = none := by
  unfold legacyGroupsOffsetTarget?
  rw [h]
  cases t <;> simp [Target.toPy, strDict, Dict.get]

theorem ofVal?_effect (k : EffectKind) : Kind.ofVal? (.str k.name) = some (.effect k) := by
  cases k <;> rfl

theorem rejectStray_eq_ok_iff {kind : String} {d : Dict} {u : Unit} {strays : List String} :
    rejectStray kind d strays = .ok u ↔ ∀ k ∈ strays, Dict.contains d k = false := by
  induction strays with
  | nil => simp [rejectStray]
  | cons stray strays ih =>
    rw [rejectStray, List.forall_mem_cons, ← ih, bind_eq_ok]
    simp

/-- The stored form of a delay, canonicalised. -/
theorem canonicalAction_delay (durationMs : Int) :
    canonicalAction (Action.delay durationMs).toPy =
      (raiseIf (durationMs < 0 ∨ durationMs > maxDelayMs)
        [.text s!"delay duration_ms {durationMs} out of [0..{maxDelayMs}]"] >>= fun _ =>
        .ok (.delay durationMs)) := by
  have hkind : Kind.ofVal? (.str "delay") = some .delay := rfl
  have hstray : rejectStray "delay" [(.str "kind", .str "delay"),
      (.str "duration_ms", .int durationMs)] ["target", "params", "flags_override"] = .ok () :=
    rejectStray_eq_ok_iff.mpr (by simp [Dict.contains])
  simp [canonicalAction, Action.toPy, strDict, legacyGroupsOffsetTarget?, Dict.get, Dict.getD,
    canonicalActionDict, hkind, hstray]

/-- The stored form of a container, canonicalised. -/
theorem canonicalAction_offsetGroup (target : Target) (offset : OffsetBlock)
    (actions : List Effect) :
    canonicalAction (Action.offsetGroup target offset actions).toPy
      = canonicalOffsetGroupAction (offsetGroupDict target offset actions) := by
  obtain ⟨hkind, htarget, -, -⟩ := offsetGroupDict_get target offset actions
  have hdict : (Action.offsetGroup target offset actions).toPy
      = .dict (offsetGroupDict target offset actions) := rfl
  have hval : Kind.ofVal? (.str "offset_group") = some .offsetGroup := rfl
  have hstray : rejectStray "offset_group" (offsetGroupDict target offset actions)
      ["params", "flags_override", "duration_ms"] = .ok () :=
    rejectStray_eq_ok_iff.mpr (by simp [offsetGroupDict, Dict.contains])
  simp only [hdict, canonicalAction, legacyGroupsOffsetTarget?_eq_none htarget,
    canonicalActionDict, hkind, hval, hstray, ok_bind]

/-- The stored form of an effect, canonicalised. -/
theorem canonicalAction_effect (e : Effect) :
    canonicalAction (Action.effect e).toPy
      = (canonicalEffect e.kind e.dict >>= fun e => .ok (.effect e)) := by
  obtain ⟨hkind, htarget, -⟩ := effect_dict_get e
  simp only [Action.toPy, Effect.toPy_eq, canonicalAction,
    legacyGroupsOffsetTarget?_eq_none htarget, canonicalActionDict, hkind, ofVal?_effect,
    pure_eq_ok]

/-- **The validator on stored forms**: it returns exactly when the normal form is canonical, and
returns the normal form. -/
theorem canonicalAction_toPy_eq_ok {a a' : Action} :
    canonicalAction a.toPy = .ok a' ↔ a.normal.Canonical ∧ a' = a.normal := by
  cases a with
  | effect e =>
    simp only [canonicalAction_effect, bind_eq_ok, canonicalEffect_dict_eq_ok, Except.ok.injEq]
    constructor
    · rintro ⟨_, ⟨hcanon, rfl⟩, rfl⟩
      exact ⟨hcanon, rfl⟩
    · rintro ⟨hcanon, rfl⟩
      exact ⟨_, ⟨hcanon, rfl⟩, rfl⟩
  | sync => exact ⟨fun h => ⟨trivial, (Except.ok.inj h).symm⟩, fun h => h.2 ▸ rfl⟩
  | delay durationMs =>
    simp only [canonicalAction_delay, bind_eq_ok, raiseIf_eq_ok, Except.ok.injEq]
    constructor
    · rintro ⟨_, hrange, rfl⟩
      exact ⟨⟨by omega, by omega⟩, rfl⟩
    · rintro ⟨⟨h0, hmax⟩, rfl⟩
      exact ⟨(), by omega, rfl⟩
  | offsetGroup target offset actions =>
    rw [canonicalAction_offsetGroup]
    exact canonicalOffsetGroupAction_dict_eq_ok

/-- A canonical action is its own normal form. -/
theorem Action.normal_of_canonical {a : Action} (h : a.Canonical) : a.normal = a := by
  cases a with
  | effect e => rw [Action.normal, Effect.normal_of_canonical h]
  | sync => rfl
  | delay durationMs => rfl
  | offsetGroup target offset actions =>
    obtain ⟨⟨hcanon, -⟩, -, hoffset, -, hactions⟩ := h
    rw [Action.normal, Target.normal_of_canonical hcanon, OffsetBlock.normal_of_canonical hoffset,
      map_eq_self_iff.mpr fun c hc => Effect.normal_of_canonical (hactions c hc).1]

/-- **The fixed points of the validator are the canonical actions.** -/
theorem canonicalAction_toPy_iff {a : Action} : canonicalAction a.toPy = .ok a ↔ a.Canonical :=
  ⟨canonicalAction_sound, fun h =>
    canonicalAction_toPy_eq_ok.mpr (by rw [Action.normal_of_canonical h]; exact ⟨h, rfl⟩)⟩

theorem canonicalActions_sound {raw : PyVal} {actions : List Action}
    (h : canonicalActions raw = .ok actions) : ActionsCanonical actions := by
  cases raw with
  | null => cases h; exact ⟨Nat.zero_le _, by simp⟩
  | list raws =>
    simp only [canonicalActions, bind_eq_ok, raiseIf_eq_ok] at h
    obtain ⟨_, hlen, hactions⟩ := h
    refine ⟨by rw [length_of_mapM hactions]; omega, fun a ha => ?_⟩
    obtain ⟨_, -, hraw⟩ := exists_of_mem_mapM hactions ha
    exact canonicalAction_sound hraw
  | _ => simp [canonicalActions] at h

theorem canonicalActions_toPy_eq_ok {actions actions' : List Action} :
    canonicalActions (actionsToPy actions) = .ok actions' ↔
      ActionsCanonical (actions.map (·.normal)) ∧ actions' = actions.map (·.normal) := by
  simp only [canonicalActions, actionsToPy, List.length_map, bind_eq_ok, raiseIf_eq_ok,
    mapM_map_eq_ok fun a a' => canonicalAction_toPy_eq_ok, ActionsCanonical, List.forall_mem_map]
  constructor
  · rintro ⟨_, hlen, hcanon, rfl⟩
    exact ⟨⟨by omega, hcanon⟩, rfl⟩
  · rintro ⟨⟨hlen, hcanon⟩, rfl⟩
    exact ⟨(), by omega, hcanon, rfl⟩

theorem map_normal_of_canonical {actions : List Action} (h : ActionsCanonical actions) :
    actions.map (·.normal) = actions :=
  map_eq_self_iff.mpr fun a ha => Action.normal_of_canonical (h.2 a ha)

/-- **The fixed points of the list validator are the canonical lists.** -/
theorem canonicalActions_toPy_iff {actions : List Action} :
    canonicalActions (actionsToPy actions) = .ok actions ↔ ActionsCanonical actions :=
  ⟨canonicalActions_sound, fun h =>
    canonicalActions_toPy_eq_ok.mpr (by rw [map_normal_of_canonical h]; exact ⟨h, rfl⟩)⟩

end RaceLink
