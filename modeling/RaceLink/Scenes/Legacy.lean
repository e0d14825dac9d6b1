/-
# What the migration of the oldest scenes keeps

The oldest `groups_offset` actions list an offset for each group, and may carry the hints the user
interface once generated the offsets from.  `_migrate_legacy_groups_offset_action` copies the list
into an explicit block; but when the hints are linear, it drops the list and takes the hints as a
formula over group ids.  Nothing checks that the formula gives the listed offsets.

`migrated_offsets_iff` says for which actions the offsets survive.
-/
import RaceLink.Offset.Coverage

namespace RaceLink

open Python

/-! ## 1. The legacy shape -/

/-- An entry `{id, offset_ms}`, as the migration reads it. -/
def ReadsEntry (raw : PyVal) (e : OffsetValue) : Prop :=
  ∃ d, raw = .dict d ∧ int (Dict.get d "id") = .ok e.id ∧
    int (Dict.getD d "offset_ms" (.int 0)) = .ok e.offsetMs

/-- An action in the oldest shape: its target `t` lists the entries. -/
structure PreFormula (d t : Dict) (entries : List OffsetValue) : Prop where
  target : Dict.get d "target" = .dict t
  kind : (Dict.get t "kind").eqStr "groups_offset" = true
  groups : ∃ raws, Dict.get t "groups" = .list raws ∧ List.Forall₂ ReadsEntry raws entries

/-- The formula that the hints of a target stand for: the base and the step of a linear one. -/
def hintFormula? (t : Dict) : Option (Int × Int) :=
  match (Dict.get t "ui_hints").or (.dict []) with
  | .dict hints =>
    if (Dict.get hints "mode").eqStr "linear" then
      match int (Dict.get hints "base_ms"), int (Dict.get hints "step_ms") with
      | .ok base, .ok step => some (base, step)
      | _, _ => none
    else none
  | _ => none

/-- The offset block the migration makes. -/
def migratedBlock (t : Dict) (entries : List OffsetValue) : OffsetBlock :=
  match hintFormula? t with
  | some (base, step) => .linear base step
  | none => .explicit entries

/-- The action is a container for exactly the listed groups, and gives each its listed offset. -/
def OffsetsKept (entries : List OffsetValue) (a : Action) : Prop :=
  ∃ groups offset actions, a = .offsetGroup (.groups groups) offset actions ∧
    (∀ g, g ∈ groups ↔ g ∈ entries.map (·.id)) ∧
    ∀ e ∈ entries, offset.meant e.id = some e.offsetMs

/-- The formula of the hints, if there is one, gives each group its listed offset. -/
def HintsAgree (t : Dict) (entries : List OffsetValue) : Prop :=
  ∀ base step, hintFormula? t = some (base, step) →
    ∀ e ∈ entries, clampMs (base + e.id * step) = e.offsetMs

/-! ## 2. What the migration writes -/

theorem ids_of_entries {raws : List PyVal} {entries : List OffsetValue}
    (h : List.Forall₂ ReadsEntry raws entries) :
    (raws.mapM fun raw => do int (← attrGet raw "id")) = .ok (entries.map (·.id)) := by
  rw [mapM_eq_ok, List.forall₂_map_right_iff]
  refine h.imp fun raw e hread => ?_
  obtain ⟨d, rfl, hid, -⟩ := hread
  rw [attrGet, ok_bind, hid]

theorem values_of_entries {raws : List PyVal} {entries : List OffsetValue}
    (h : List.Forall₂ ReadsEntry raws entries) :
    raws.mapM legacyValue = .ok (entries.map (·.toPy)) := by
  rw [mapM_eq_ok, List.forall₂_map_right_iff]
  refine h.imp fun raw e hread => ?_
  obtain ⟨d, rfl, hid, hms⟩ := hread
  rw [legacyValue, hid, ok_bind, hms]
  rfl

/-- The groups and the block, in their stored forms. -/
theorem preFormulaGroups_eq_ok {t : Dict} {raws : List PyVal} {entries : List OffsetValue}
    (h : List.Forall₂ ReadsEntry raws entries) {r : PyVal × PyVal}
    (hr : preFormulaGroups t raws = .ok r) :
    r = (.list ((entries.map (·.id)).map .int), (migratedBlock t entries).toPy) := by
  unfold preFormulaGroups at hr
  rw [ids_of_entries h, ok_bind] at hr
  cases hhints : (Dict.get t "ui_hints").or (.dict []) with
  | dict hints =>
    simp only [hhints, attrGet, ok_bind] at hr
    have hcopied : ∀ {r : PyVal × PyVal}, (do
          let values ← raws.mapM legacyValue
          pure (.list ((entries.map (·.id)).map .int),
            strDict [("mode", .str "explicit"), ("values", .list values)])) = Except.ok r →
        hintFormula? t = none →
        r = (.list ((entries.map (·.id)).map .int), (migratedBlock t entries).toPy) := by
      intro r hr hnone
      rw [values_of_entries h, ok_bind, pure_eq_ok, Except.ok.injEq] at hr
      rw [migratedBlock, hnone, ← hr]
      rfl
    split at hr
    · next hmode =>
      refine hcopied hr ?_
      simp only [hintFormula?, hhints, hmode, Bool.false_eq_true, if_false]
    · next hbase _ =>
      refine hcopied hr ?_
      simp only [hintFormula?, hhints, hbase, int]
      split <;> rfl
    · next hstep _ _ =>
      refine hcopied hr ?_
      simp only [hintFormula?, hhints, hstep, int]
      split
      · split
        · next hnull => cases hnull
        · rfl
      · rfl
    · next hmode _ _ =>
      simp only [bind_eq_ok, pure_eq_ok, Except.ok.injEq] at hr
      obtain ⟨base, hbase, step, hstep, rfl⟩ := hr
      have hformula : hintFormula? t = some (base, step) := by
        simp only [hintFormula?, hhints, hmode, if_true, hbase, hstep]
      rw [migratedBlock, hformula]
      rfl
  | _ =>
    simp only [hhints, attrGet, error_bind] at hr
    cases hr

/-- The child of a migrated action. -/
def legacyChild (d params flags : Dict) : Dict :=
  [(.str "kind", Dict.get d "kind"), (.str "target", strDict [("kind", .str "broadcast")]),
    (.str "params", .dict params), (.str "flags_override", .dict flags)]

/-- The migrated action, of whichever legacy shape: a container with one child, which takes over
the kind, the parameters and the flags. -/
theorem migrate_shape {d t d' : Dict} (h : migrateLegacyGroupsOffsetAction d t = .ok d') :
    ∃ target offset params flags,
      d' = [(.str "kind", .str "offset_group"), (.str "target", target), (.str "offset", offset),
        (.str "actions", .list [.dict (legacyChild d params flags)])] ∧
      dictOf ((Dict.get d "params").or (.dict [])) = .ok params := by
  unfold migrateLegacyGroupsOffsetAction at h
  simp only [bind_eq_ok] at h
  obtain ⟨⟨groups, offset⟩, -, params, hparams, flags, -, h⟩ := h
  split at h
  · cases h
    exact ⟨_, _, params, flags, rfl, hparams⟩
  · simp only [bind_eq_ok, pure_eq_ok, Except.ok.injEq] at h
    obtain ⟨value, -, _, rfl, rfl⟩ := h
    exact ⟨_, offset, params, flags, rfl, hparams⟩

/-- The migrated action: a container for the listed groups with the migrated block, and one
child. -/
theorem migrate_eq_ok {d t : Dict} {entries : List OffsetValue} (h : PreFormula d t entries)
    {d' : Dict} (hd' : migrateLegacyGroupsOffsetAction d t = .ok d') :
    ∃ offset child, d' = [(.str "kind", .str "offset_group"),
        (.str "target", (Target.groups (entries.map (·.id))).toPy), (.str "offset", offset),
        (.str "actions", .list [child])] ∧
      (entries ≠ [] → offset = (migratedBlock t entries).toPy) := by
  obtain ⟨raws, hgroups, hentries⟩ := h.groups
  have hread : ∀ {groups offset : PyVal}, legacyGroupsAndOffset t = .ok (groups, offset) →
      groups = .list ((entries.map (·.id)).map .int) ∧
        (entries ≠ [] → offset = (migratedBlock t entries).toPy) := by
    intro groups offset hr
    unfold legacyGroupsAndOffset at hr
    rw [hgroups] at hr
    cases hentries with
    | nil =>
      cases hr
      exact ⟨rfl, fun hne => absurd rfl hne⟩
    | cons hentry hrest =>
      obtain ⟨e, rfl, -⟩ := id hentry
      have hpre := preFormulaGroups_eq_ok (.cons hentry hrest) hr
      cases hpre
      exact ⟨rfl, fun _ => rfl⟩
  unfold migrateLegacyGroupsOffsetAction at hd'
  simp only [bind_eq_ok] at hd'
  obtain ⟨⟨groups, offset⟩, hgo, params, -, flags, -, hd'⟩ := hd'
  obtain ⟨rfl, hoffset⟩ := hread hgo
  have hlist : ¬ (PyVal.list ((entries.map (·.id)).map .int)).eqStr "all" = true := nofun
  rw [if_neg hlist] at hd'
  cases hd'
  exact ⟨offset, _, rfl, hoffset⟩

/-! ## 3. What the validator makes of it -/

/-- The container that is accepted. -/
theorem canonicalAction_preFormula {d t : Dict} {entries : List OffsetValue}
    (h : PreFormula d t entries) {a : Action} (ha : canonicalAction (.dict d) = .ok a) :
    ∃ actions, a = .offsetGroup (.groups ((entries.map (·.id)).insertionSort (· ≤ ·)))
        (migratedBlock t entries).normal actions ∧ a.Canonical := by
  have hlegacy : legacyGroupsOffsetTarget? d = some t := by
    rw [legacyGroupsOffsetTarget?, h.target]
    exact if_pos h.kind
  have hcanon := canonicalAction_sound ha
  simp only [canonicalAction, hlegacy, bind_eq_ok] at ha
  obtain ⟨d', hd', ha⟩ := ha
  obtain ⟨offset, child, rfl, hoffset⟩ := migrate_eq_ok h hd'
  have hkind : Kind.ofVal? (.str "offset_group") = some .offsetGroup := rfl
  simp only [canonicalActionDict, Dict.get, Dict.find?_cons_str, if_true, Option.getD_some, hkind,
    bind_eq_ok] at ha
  obtain ⟨-, -, ha⟩ := ha
  have hraw : containerTargetRaw [(.str "kind", .str "offset_group"),
      (.str "target", (Target.groups (entries.map (·.id))).toPy), (.str "offset", offset),
      (.str "actions", .list [child])] = .ok (Target.groups (entries.map (·.id))).toPy := by
    simp [containerTargetRaw, Dict.get, Target.toPy, strDict]
  simp only [canonicalOffsetGroupAction, hraw, ok_bind, bind_eq_ok,
    canonicalOffsetGroupContainerTarget_toPy_eq_ok] at ha
  obtain ⟨target, ⟨⟨htarget, hdevice⟩, rfl⟩, -, -, block, hblock, ha⟩ := ha
  have hne : entries ≠ [] := by
    rintro rfl
    exact absurd rfl htarget.1
  have hget : Dict.get [(.str "kind", .str "offset_group"),
      (.str "target", (Target.groups (entries.map (·.id))).toPy), (.str "offset", offset),
      (.str "actions", .list [child])] "offset" = (migratedBlock t entries).toPy := by
    simp [Dict.get, hoffset hne]
  rw [hget, canonicalOffsetBlock_toPy_eq_ok (beq_broadcast hdevice)] at hblock
  obtain ⟨-, rfl⟩ := hblock
  split at ha
  · simp only [bind_eq_ok, pure_eq_ok, Except.ok.injEq] at ha
    obtain ⟨-, -, actions, -, rfl⟩ := ha
    exact ⟨actions, rfl, hcanon⟩
  · cases ha

/-- With one entry a group, an explicit block gives each group the offset of its entry. -/
theorem offsetOf_normal_explicit {entries : List OffsetValue} (hnd : (entries.map (·.id)).Nodup)
    {e : OffsetValue} (he : e ∈ entries) :
    (OffsetBlock.explicit entries).normal.meant e.id = some e.offsetMs := by
  have hperm := List.perm_insertionSort (fun a b : OffsetValue => a.id ≤ b.id) entries
  have hsorted : (entries.insertionSort fun a b => a.id ≤ b.id).find? (fun v => v.id == e.id)
      = entries.find? fun v => v.id == e.id :=
    (find?_key_perm hperm.symm hnd e.id).symm
  have hfound : entries.find? (fun v => v.id == e.id) = some e := find?_key_of_mem hnd he
  rw [OffsetBlock.normal, OffsetBlock.meant, OffsetBlock.offsetOf, hsorted, hfound]
  rfl

/-- **Which migrated actions keep their offsets.**  An accepted action of the oldest shape becomes a
container for exactly its groups, and gives every group its listed offset, exactly when the formula
of its hints does. -/
theorem migrated_offsets_iff {d t : Dict} {entries : List OffsetValue}
    (h : PreFormula d t entries) {a : Action} (ha : canonicalAction (.dict d) = .ok a) :
    OffsetsKept entries a ↔ HintsAgree t entries := by
  obtain ⟨actions, rfl, ⟨⟨-, hsorted, hrange⟩, -⟩, -⟩ := canonicalAction_preFormula h ha
  have hperm := List.perm_insertionSort (· ≤ ·) (entries.map (·.id))
  have hnd : (entries.map (·.id)).Nodup := hperm.nodup_iff.mp (hsorted.imp Int.ne_of_lt)
  have hkept : OffsetsKept entries (.offsetGroup
        (.groups ((entries.map (·.id)).insertionSort (· ≤ ·))) (migratedBlock t entries).normal
        actions) ↔
      ∀ e ∈ entries, (migratedBlock t entries).normal.meant e.id = some e.offsetMs := by
    constructor
    · rintro ⟨groups, offset, actions', heq, -, hmeant⟩
      cases heq
      exact hmeant
    · exact fun hmeant => ⟨_, _, _, rfl, fun g => hperm.mem_iff, hmeant⟩
  rw [hkept]
  cases hhints : hintFormula? t with
  | none =>
    have hblock : migratedBlock t entries = .explicit entries := by
      rw [migratedBlock, hhints]
    rw [hblock]
    refine iff_of_true (fun e he => offsetOf_normal_explicit hnd he) ?_
    intro base step hsome
    rw [hhints] at hsome
    cases hsome
  | some formula =>
    obtain ⟨base, step⟩ := formula
    have hblock : (migratedBlock t entries).normal = .linear base step := by
      rw [migratedBlock, hhints]
      rfl
    have hmeant : ∀ e ∈ entries, (OffsetBlock.linear base step).meant e.id
        = some (clampMs (base + e.id * step)) := by
      intro e he
      have hid := hrange e.id (hperm.mem_iff.mpr (List.mem_map_of_mem he))
      have hmod : e.id % 256 = e.id := by
        unfold groupIdMax at hid
        omega
      have hvalue : (OffsetBlock.linear base step).meant e.id
          = some (evaluateOffsetMs (.linear base step) e.id) := rfl
      rw [hvalue, evaluateOffsetMs, hmod]
    rw [hblock]
    constructor
    · intro hall base' step' hsome e he
      rw [hhints] at hsome
      cases hsome
      exact Option.some.inj ((hmeant e he).symm.trans (hall e he))
    · intro hagree e he
      rw [hmeant e he, hagree base step hhints e he]

/-- The target of an action in the oldest shape, with linear hints. -/
def hintedTarget (entries : List OffsetValue) (baseMs stepMs : Int) : Dict :=
  [(.str "kind", .str "groups_offset"), (.str "groups", .list (entries.map (·.toPy))),
    (.str "ui_hints", strDict [("mode", .str "linear"), ("base_ms", .int baseMs),
      ("step_ms", .int stepMs)])]

/-- Such an action. -/
def hintedAction (entries : List OffsetValue) (baseMs stepMs : Int) : Dict :=
  [(.str "kind", .str "wled_control"), (.str "target", .dict (hintedTarget entries baseMs stepMs)),
    (.str "params", strDict [("presetId", .int 7)])]

theorem preFormula_hinted (entries : List OffsetValue) (baseMs stepMs : Int) :
    PreFormula (hintedAction entries baseMs stepMs) (hintedTarget entries baseMs stepMs)
      entries := by
  refine ⟨by simp [hintedAction, Dict.get], by simp [hintedTarget, Dict.get], entries.map (·.toPy),
    by simp [hintedTarget, Dict.get], ?_⟩
  rw [List.forall₂_map_left_iff, List.forall₂_same]
  intro e _
  exact ⟨_, rfl, by simp [Dict.get], by simp [Dict.getD]⟩

/-- Groups 1 and 3 with offsets that are linear in the group. -/
theorem migrated_offsets_linear : ∃ a,
    canonicalAction (.dict (hintedAction [⟨1, 100⟩, ⟨3, 300⟩] 0 100)) = .ok a ∧
    (OffsetsKept [⟨1, 100⟩, ⟨3, 300⟩] a ↔
      HintsAgree (hintedTarget [⟨1, 100⟩, ⟨3, 300⟩] 0 100) [⟨1, 100⟩, ⟨3, 300⟩]) := by
  obtain ⟨a, ha⟩ : ∃ a, canonicalAction (.dict (hintedAction [⟨1, 100⟩, ⟨3, 300⟩] 0 100)) = .ok a :=
    ⟨_, rfl⟩
  exact ⟨a, ha, migrated_offsets_iff (preFormula_hinted _ _ _) ha⟩

/-- Groups 1 and 3 with offsets that count the groups, 0 and 100: after the migration they are
100 and 300. -/
theorem migrated_offsets_counted :
    PreFormula (hintedAction [⟨1, 0⟩, ⟨3, 100⟩] 0 100) (hintedTarget [⟨1, 0⟩, ⟨3, 100⟩] 0 100)
      [⟨1, 0⟩, ⟨3, 100⟩] ∧
    ∃ child, canonicalAction (.dict (hintedAction [⟨1, 0⟩, ⟨3, 100⟩] 0 100))
        = .ok (.offsetGroup (.groups [1, 3]) (.linear 0 100) [child]) ∧
      (OffsetBlock.linear 0 100).meant 1 = some 100 ∧
      (OffsetBlock.linear 0 100).meant 3 = some 300 ∧
      ¬ OffsetsKept [⟨1, 0⟩, ⟨3, 100⟩] (.offsetGroup (.groups [1, 3]) (.linear 0 100) [child]) := by
  refine ⟨preFormula_hinted _ _ _, _, rfl, rfl, rfl, ?_⟩
  rintro ⟨groups, offset, actions, heq, -, hmeant⟩
  cases heq
  have hfirst := hmeant ⟨1, 0⟩ List.mem_cons_self
  exact absurd hfirst (by decide)

end RaceLink
