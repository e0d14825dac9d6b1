/-
# One offset for each group of an explicit block

The message of `_canonical_offset_block` asks for one entry per group; the check counts the entries
and looks for each entry's group in the list.  An entry that repeats a group passes, and then, the
numbers being equal, another group has no entry: `plan_offset_setup` gives that one the offset 0.

`explicit_oneToOne_iff`: of the accepted actions, exactly those whose raw entries are for pairwise
different groups name each group once and send each group what the operator gave for it.
-/
import RaceLink.Scenes.Legacy

namespace RaceLink

open Python

/-! ## 1. What the operator gave -/

/-- The raw entries of the values of a container's block. -/
def rawEntries (d : Dict) : List PyVal :=
  match Dict.get d "offset" with
  | .dict o =>
    match Dict.get o "values" with
    | .list raws => raws
    | _ => []
  | _ => []

/-- The group a raw entry is for. -/
def entryId? : PyVal → Option Int
  | .dict e => (int (Dict.get e "id")).toOption
  | _ => none

/-- The offset a raw entry gives. -/
def entryMs? : PyVal → Option Int
  | .dict e => (int (Dict.get e "offset_ms")).toOption
  | _ => none

/-- The operator gave this offset for the group. -/
def Gave (d : Dict) (gid ms : Int) : Prop :=
  ∃ raw ∈ rawEntries d, entryId? raw = some gid ∧ entryMs? raw = some ms

/-- A raw `offset_group` action whose mode is explicit. -/
structure ExplicitRaw (d : Dict) : Prop where
  kind : (Dict.get d "kind").eqStr "offset_group" = true
  mode : ∃ o, Dict.get d "offset" = .dict o ∧ (Dict.get o "mode").eqStr "explicit" = true

/-- The entries are for pairwise different groups. -/
def EntriesDistinct (d : Dict) : Prop := ((rawEntries d).map entryId?).Nodup

/-- The values name every group exactly once and no other. -/
def NamesEachOnce (ids : List Int) (values : List OffsetValue) : Prop :=
  (values.map (·.id)).Perm ids

/-- Whatever groups are known, one packet goes to each group of the list, with the one offset that
the operator gave for it. -/
def SentAsGiven (d : Dict) (ids : List Int) (values : List OffsetValue) : Prop :=
  ∀ known, ∃ plan, planOffsetSetup (.groups ids) (.explicit values) known = .ok plan ∧
    plan.ops.map (·.targetGroup) = ids ∧
    ∀ op ∈ plan.ops, ∃ ms, op.config = .explicit ms ∧ ∀ ms', Gave d op.targetGroup ms' ↔ ms' = ms

/-! ## 2. What the validator reads -/

/-- A value is what was read of an entry. -/
def ReadFrom (raw : PyVal) (v : OffsetValue) : Prop :=
  entryId? raw = some v.id ∧ entryMs? raw = some v.offsetMs

theorem int_of_validateInt {name : String} {raw : PyVal} {lo hi v : Int}
    (h : validateInt name raw lo hi = .ok v) : int raw = .ok v := by
  simp only [validateInt, bind_eq_ok, raiseIf_eq_ok, pure_eq_ok, Except.ok.injEq] at h
  obtain ⟨v', hv, _, -, rfl⟩ := h
  exact int_of_intCatch_error hv

theorem canonicalValues_readFrom {ids : List Int} {raws : List PyVal} {given : List OffsetValue}
    (h : canonicalValues ids raws = .ok given) : List.Forall₂ ReadFrom raws given := by
  induction raws generalizing given with
  | nil =>
    cases h
    exact .nil
  | cons raw raws ih =>
    cases raw with
    | dict e =>
      simp only [canonicalValues, bind_eq_ok, pure_eq_ok, Except.ok.injEq] at h
      obtain ⟨gid, hgid, _, -, ms, hms, given', hrest, rfl⟩ := h
      refine .cons ⟨?_, ?_⟩ (ih hrest)
      · rw [entryId?, int_of_validateInt hgid]
        rfl
      · rw [entryMs?, int_of_validateInt hms]
        rfl
    | _ => simp [canonicalValues] at h

/-- A child is of one of the three kinds that a container may have. -/
theorem ne_offsetGroup_of_child {parent : Option (List Int)} {d : Dict} {e : Effect}
    (h : canonicalOffsetGroupChild parent (.dict d) = .ok e) :
    ¬ (Dict.get d "kind").eqStr "offset_group" = true := by
  intro hkind
  have hfind : (offsetGroupChildKinds.find? fun k => (PyVal.str "offset_group").eqStr k.name)
      = none := rfl
  simp only [canonicalOffsetGroupChild, eqStr_iff.mp hkind, hfind] at h
  cases h

/-- An `offset_group` in the legacy shape is refused: its one child would be an `offset_group`. -/
theorem legacyGroupsOffsetTarget?_of_accepted {d : Dict} {a : Action}
    (hkind : (Dict.get d "kind").eqStr "offset_group" = true)
    (ha : canonicalAction (.dict d) = .ok a) : legacyGroupsOffsetTarget? d = none := by
  cases hlegacy : legacyGroupsOffsetTarget? d with
  | none => rfl
  | some t =>
    exfalso
    simp only [canonicalAction, hlegacy, bind_eq_ok] at ha
    obtain ⟨d', hd', ha⟩ := ha
    obtain ⟨target, offset, params, flags, rfl, -⟩ := migrate_shape hd'
    have hval : Kind.ofVal? (.str "offset_group") = some .offsetGroup := rfl
    simp only [canonicalActionDict, Dict.get, Dict.find?_cons_str, if_true, Option.getD_some, hval,
      bind_eq_ok] at ha
    obtain ⟨-, -, ha⟩ := ha
    have hactions : (Dict.get [(.str "kind", .str "offset_group"), (.str "target", target),
        (.str "offset", offset), (.str "actions", .list [.dict (legacyChild d params flags)])]
        "actions").or (.list []) = .list [.dict (legacyChild d params flags)] := by
      simp [Dict.get, PyVal.or, PyVal.truthy]
    simp only [canonicalOffsetGroupAction, hactions, bind_eq_ok] at ha
    obtain ⟨_, -, _, -, _, -, _, -, _, -, children, hchildren, -⟩ := ha
    obtain ⟨child, -, hchild⟩ := exists_mem_of_mapM hchildren List.mem_cons_self
    refine ne_offsetGroup_of_child hchild ?_
    simpa [legacyChild, Dict.get] using hkind

/-- What an accepted explicit action becomes. -/
theorem canonicalAction_explicit {d : Dict} (h : ExplicitRaw d) {a : Action}
    (ha : canonicalAction (.dict d) = .ok a) :
    ∃ ids given children, a = .offsetGroup (.groups ids)
        (.explicit (given.insertionSort fun a b => a.id ≤ b.id)) children ∧
      List.Forall₂ ReadFrom (rawEntries d) given := by
  obtain ⟨o, hoffset, hmode⟩ := h.mode
  have hval : Kind.ofVal? (.str "offset_group") = some .offsetGroup := rfl
  simp only [canonicalAction, legacyGroupsOffsetTarget?_of_accepted h.kind ha, canonicalActionDict,
    eqStr_iff.mp h.kind, hval, bind_eq_ok] at ha
  obtain ⟨-, -, ha⟩ := ha
  simp only [canonicalOffsetGroupAction, hoffset, bind_eq_ok] at ha
  obtain ⟨_, -, target, htarget, _, -, block, hblock, ha⟩ := ha
  have hother : (PyVal.str "explicit").eqStr "none" = false := rfl
  have hsame : (PyVal.str "explicit").eqStr "explicit" = true := rfl
  simp only [canonicalOffsetBlock, eqStr_iff.mp hmode, hother, hsame, Bool.false_eq_true, if_false,
    if_true, bind_eq_ok] at hblock
  obtain ⟨-, -, hblock⟩ := hblock
  split at hblock
  · next ids _ hids =>
    split at hblock
    · next raws hraws =>
      simp only [bind_eq_ok, pure_eq_ok, Except.ok.injEq] at hblock
      obtain ⟨_, -, given, hgiven, rfl⟩ := hblock
      have hgroups : target = .groups ids := by
        cases target with
        | groups value => exact congrArg Target.groups (Option.some.inj hids)
        | _ => cases hids
      have hentries : rawEntries d = raws := by
        simp only [rawEntries, hoffset, hraws]
      split at ha
      · simp only [bind_eq_ok, pure_eq_ok, Except.ok.injEq] at ha
        obtain ⟨_, -, children, -, rfl⟩ := ha
        exact ⟨ids, given, children, by rw [hgroups], hentries ▸ canonicalValues_readFrom hgiven⟩
      · cases ha
    · cases hblock
  · cases hblock

/-! ## 3. What is sent -/

/-- The plan of an explicit block: one packet for each group. -/
theorem planGroups_explicit {ids : List Int} (hne : ids ≠ []) (values : List OffsetValue)
    (known : List Int) :
    planGroups (some ids) (.explicit values) known
      = ⟨.perGroupExplicit, perGroup ids (perGroupConfig (.explicit values))⟩ := by
  rcases planGroups_some hne (.explicit values) known with hB | hC
  · have hempty : ids.isEmpty = false := by simpa using hne
    simp only [planB, hempty, reduceCtorEq, decide_false, Bool.false_and, Bool.false_eq_true,
      if_false, Option.some.injEq] at hB
    exact hB.symm
  · simp [planC, OffsetBlock.IsFormula] at hC

/-- With one entry a group, the planner's map has every entry. -/
theorem explicitMs_of_mem {values : List OffsetValue} (hnd : (values.map (·.id)).Nodup)
    {v : OffsetValue} (hv : v ∈ values) : explicitMs values v.id = v.offsetMs := by
  have hrev : (values.reverse.map (·.id)).Nodup := by
    rw [List.map_reverse]
    exact List.nodup_reverse.mpr hnd
  have hfind : values.reverse.find? (fun w => w.id == v.id) = some v :=
    find?_key_of_mem hrev (List.mem_reverse.mpr hv)
  rw [explicitMs, hfind]
  rfl

/-- Entries for pairwise different groups of the list, as many as the list has, name each of its
groups once. -/
theorem namesEachOnce_iff {ids : List Int} {values : List OffsetValue} (hnd : ids.Nodup)
    (hlen : values.length = ids.length) (hmem : ∀ v ∈ values, v.id ∈ ids) :
    NamesEachOnce ids values ↔ (values.map (·.id)).Nodup := by
  constructor
  · intro hperm
    exact hperm.nodup_iff.mpr hnd
  · intro hvalues
    have hsub : values.map (·.id) ⊆ ids := by
      intro g hg
      obtain ⟨v, hv, rfl⟩ := List.mem_map.mp hg
      exact hmem v hv
    have hle : ids.length ≤ (values.map (·.id)).length := by
      rw [List.length_map]
      omega
    exact (List.subperm_of_subset hvalues hsub).perm_of_length_le hle

/-- The operator gave a group what the entry read for it says. -/
theorem gave_iff {d : Dict} {given : List OffsetValue}
    (hread : List.Forall₂ ReadFrom (rawEntries d) given) {gid ms : Int} :
    Gave d gid ms ↔ ⟨gid, ms⟩ ∈ given := by
  unfold Gave
  generalize rawEntries d = raws at hread
  induction hread with
  | nil => simp
  | @cons raw v raws given hv _ ih =>
    simp only [List.mem_cons, or_and_right, exists_or, exists_eq_left, ih]
    refine or_congr_left ?_
    obtain ⟨hid, hms⟩ := hv
    rw [hid, hms, Option.some.injEq, Option.some.injEq]
    constructor
    · rintro ⟨rfl, rfl⟩
      rfl
    · intro hv
      cases hv
      exact ⟨rfl, rfl⟩

theorem entriesDistinct_iff {d : Dict} {given : List OffsetValue}
    (hread : List.Forall₂ ReadFrom (rawEntries d) given) :
    EntriesDistinct d ↔ (given.map (·.id)).Nodup := by
  have hids : (rawEntries d).map entryId? = (given.map (·.id)).map some := by
    generalize rawEntries d = raws at hread
    induction hread with
    | nil => rfl
    | cons hv _ ih => rw [List.map_cons, hv.1, ih, List.map_cons, List.map_cons]
  rw [EntriesDistinct, hids]
  exact List.nodup_map_iff (Option.some_injective Int)

/-- What is sent when each group is named once. -/
theorem sentAsGiven {d : Dict} {ids : List Int} (hne : ids ≠ []) {given values : List OffsetValue}
    (hread : List.Forall₂ ReadFrom (rawEntries d) given) (hperm : values.Perm given)
    (hnames : NamesEachOnce ids values) (hnd : ids.Nodup) : SentAsGiven d ids values := by
  intro known
  have hvalues : (values.map (·.id)).Nodup := hnames.nodup_iff.mpr hnd
  refine ⟨_, rfl, ?_, ?_⟩
  · rw [planGroups_explicit hne, perGroup, List.map_map]
    exact List.map_id' ids
  · rw [planGroups_explicit hne, perGroup]
    intro op hop
    obtain ⟨gid, hgid, rfl⟩ := List.mem_map.mp hop
    obtain ⟨v, hv, rfl⟩ := List.mem_map.mp (hnames.symm.subset hgid)
    refine ⟨v.offsetMs, by rw [perGroupConfig, explicitMs_of_mem hvalues hv], fun ms => ?_⟩
    rw [gave_iff hread, ← hperm.mem_iff]
    constructor
    · intro hms
      exact congrArg OffsetValue.offsetMs (List.inj_on_of_nodup_map hvalues hms hv rfl)
    · rintro rfl
      exact hv

/-! ## 4. The result -/

/-- **One offset for each group.**  An accepted explicit action is a container for a list of
groups.  Its values name each of the groups once, and each is sent what the operator gave for it,
exactly when the raw entries are for pairwise different groups. -/
theorem explicit_oneToOne_iff {d : Dict} (h : ExplicitRaw d) {a : Action}
    (ha : canonicalAction (.dict d) = .ok a) :
    ∃ ids values children, a = .offsetGroup (.groups ids) (.explicit values) children ∧
      (NamesEachOnce ids values ∧ SentAsGiven d ids values ↔ EntriesDistinct d) := by
  obtain ⟨ids, given, children, rfl, hread⟩ := canonicalAction_explicit h ha
  obtain ⟨⟨⟨hne, hsorted, -⟩, -⟩, -, ⟨_, hids, hlen, -, hall⟩, -⟩ := canonicalAction_sound ha
  cases hids
  have hnd : ids.Nodup := hsorted.imp Int.ne_of_lt
  have hperm := List.perm_insertionSort (fun a b : OffsetValue => a.id ≤ b.id) given
  have hnames := namesEachOnce_iff hnd hlen fun v hv => (hall v hv).1
  have hdistinct : EntriesDistinct d ↔
      NamesEachOnce ids (given.insertionSort fun a b => a.id ≤ b.id) :=
    (entriesDistinct_iff hread).trans ((hperm.map _).nodup_iff.symm.trans hnames.symm)
  refine ⟨ids, _, children, rfl, ?_⟩
  rw [hdistinct]
  exact ⟨And.left, fun heach => ⟨heach, sentAsGiven hne hread hperm heach hnd⟩⟩

/-- A raw container for the groups 1 and 2, with these values. -/
def explicitRaw (values : List OffsetValue) : Dict :=
  [(.str "kind", .str "offset_group"),
    (.str "target", strDict [("kind", .str "groups"), ("value", .list [.int 1, .int 2])]),
    (.str "offset", strDict [("mode", .str "explicit"), ("values", .list (values.map (·.toPy)))]),
    (.str "actions", .list [])]

theorem explicitRaw_explicit (values : List OffsetValue) : ExplicitRaw (explicitRaw values) :=
  ⟨by simp [explicitRaw, Dict.get], _, by simp [explicitRaw, Dict.get]; rfl,
    by simp [Dict.get]⟩

/-- One entry for each of the two groups. -/
theorem explicit_oneToOne_pair : ∃ a ids values children,
    canonicalAction (.dict (explicitRaw [⟨2, 100⟩, ⟨1, 0⟩])) = .ok a ∧
    a = .offsetGroup (.groups ids) (.explicit values) children ∧
    (NamesEachOnce ids values ∧ SentAsGiven (explicitRaw [⟨2, 100⟩, ⟨1, 0⟩]) ids values ↔
      EntriesDistinct (explicitRaw [⟨2, 100⟩, ⟨1, 0⟩])) := by
  obtain ⟨a, ha⟩ : ∃ a, canonicalAction (.dict (explicitRaw [⟨2, 100⟩, ⟨1, 0⟩])) = .ok a := ⟨_, rfl⟩
  obtain ⟨ids, values, children, h⟩ := explicit_oneToOne_iff (explicitRaw_explicit _) ha
  exact ⟨a, ids, values, children, ha, h⟩

/-- Two entries for group 1: the action is accepted, and group 2 is sent the offset 0, which the
operator gave for no group. -/
theorem explicit_repeated_defaults :
    canonicalAction (.dict (explicitRaw [⟨1, 40⟩, ⟨1, 100⟩]))
      = .ok (.offsetGroup (.groups [1, 2]) (.explicit [⟨1, 40⟩, ⟨1, 100⟩]) []) ∧
    ¬ NamesEachOnce [1, 2] [⟨1, 40⟩, ⟨1, 100⟩] ∧
    (∃ plan, planOffsetSetup (.groups [1, 2]) (.explicit [⟨1, 40⟩, ⟨1, 100⟩]) [1, 2] = .ok plan ∧
      plan.ops = [⟨1, .explicit 100⟩, ⟨2, .explicit 0⟩]) ∧
    ∀ ms, ¬ Gave (explicitRaw [⟨1, 40⟩, ⟨1, 100⟩]) 2 ms := by
  refine ⟨rfl, by unfold NamesEachOnce; decide, ⟨_, rfl, ?_⟩, ?_⟩
  · rw [planGroups_explicit (by decide)]
    rfl
  · rintro ms ⟨raw, hraw, hid, -⟩
    have hentries : rawEntries (explicitRaw [⟨1, 40⟩, ⟨1, 100⟩])
        = [OffsetValue.toPy ⟨1, 40⟩, OffsetValue.toPy ⟨1, 100⟩] := rfl
    rw [hentries] at hraw
    rcases List.mem_pair.mp hraw with rfl | rfl
    · exact absurd hid (by decide)
    · exact absurd hid (by decide)

end RaceLink
