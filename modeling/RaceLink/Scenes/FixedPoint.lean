/-
# Validating twice

Every load validates again what an earlier save has produced.  What `_canonical_actions` returns is
canonical, so it accepts that and returns it unchanged; the same after `_clone_scene`.  In between
lies a file, where every dictionary key becomes text.  A document has text keys only, and the
validator copies `params` as they are, with one exception: the migration of the legacy
`groups_offset` shape reads `params` with `dict(..)`, which also accepts a list of pairs, with keys
of any kind.

`fixedPoint_iff` is the result, for every JSON value and every shape: the result is a fixed point
exactly when the pairs of such a list are named by strings.
-/
import RaceLink.Scenes.Clone
import RaceLink.Scenes.Legacy

namespace RaceLink

open Python

/-! ## 1. Parts of a document -/

theorem isJson_toVal (k : PyKey) : isJson k.toVal = true := by
  cases k <;> rfl

/-- What iterating over a part of a document yields is a part of one. -/
theorem isJson_iter {v : PyVal} (h : isJson v = true) {xs : List PyVal} (hxs : v.iter? = some xs) :
    ∀ x ∈ xs, isJson x = true := by
  cases v with
  | str s =>
    cases hxs
    intro x hx
    obtain ⟨c, -, rfl⟩ := List.mem_map.mp hx
    rfl
  | list ys =>
    cases hxs
    exact (isJson_list _).mp h
  | dict d =>
    cases hxs
    intro x hx
    obtain ⟨e, -, rfl⟩ := List.mem_map.mp hx
    exact isJson_toVal e.1
  | _ => cases hxs

/-! ## 2. `dict(..)` of a list of pairs -/

/-- The pair's first component is a string. -/
def NamedPair (pair : PyVal) : Prop := ∃ name rest, pair.iter? = some (.str name :: rest)

theorem toKey?_isStr {v : PyVal} {k : PyKey} (h : v.toKey? = some k) :
    k.isStr = true ↔ ∃ name, v = .str name := by
  cases v <;> simp_all [PyVal.toKey?] <;> subst h <;> simp [PyKey.isStr]

theorem pairsOf_spec {xs : List PyVal} (hxs : ∀ x ∈ xs, isJson x = true)
    {kvs : List (PyKey × PyVal)} (h : pairsOf xs = .ok kvs) :
    (∀ e ∈ kvs, isJson e.2 = true) ∧
      ((∀ e ∈ kvs, e.1.isStr = true) ↔ ∀ x ∈ xs, NamedPair x) := by
  induction xs generalizing kvs with
  | nil =>
    cases h
    simp
  | cons x xs ih =>
    obtain ⟨hx, hxs⟩ := List.forall_mem_cons.mp hxs
    rw [pairsOf] at h
    split at h
    · cases h
    · next k v hiter =>
      split at h
      · cases h
      · next key hkey =>
        cases hrest : pairsOf xs with
        | error e =>
          rw [hrest] at h
          cases h
        | ok rest =>
          rw [hrest] at h
          cases h
          obtain ⟨hvals, hnames⟩ := ih hxs hrest
          have hv : isJson v = true := isJson_iter hx hiter v (by simp)
          refine ⟨List.forall_mem_cons.mpr ⟨hv, hvals⟩, ?_⟩
          rw [List.forall_mem_cons, List.forall_mem_cons, hnames, toKey?_isStr hkey]
          refine and_congr_left' ?_
          constructor
          · rintro ⟨name, rfl⟩
            exact ⟨name, [v], hiter⟩
          · rintro ⟨name, rest, hname⟩
            rw [hiter] at hname
            cases hname
            exact ⟨name, rfl⟩
    · cases h

theorem norm_mem_dictOfPairs {kvs : List (PyKey × PyVal)} {e : PyKey × PyVal} (he : e ∈ kvs) :
    e.1.norm ∈ (dictOfPairs kvs).map (·.1.norm) := by
  have hkeep : ∀ (kvs d : Dict) (k : PyKey), k ∈ d.map (·.1.norm) →
      k ∈ (kvs.foldl (fun d kv => d.set kv.1 kv.2) d).map (·.1.norm) := by
    intro kvs
    induction kvs with
    | nil => exact fun d k h => h
    | cons e kvs ih =>
      intro d k h
      refine ih _ k ?_
      rw [map_norm_set]
      split
      · exact h
      · exact List.mem_append_left _ h
  have hset : ∀ (d : Dict) (e : PyKey × PyVal), e.1.norm ∈ (d.set e.1 e.2).map (·.1.norm) := by
    intro d e
    rw [map_norm_set]
    split
    · next h => exact h
    · exact List.mem_append_right _ List.mem_cons_self
  obtain ⟨l₁, l₂, rfl⟩ := List.append_of_mem he
  rw [dictOfPairs, List.foldl_append, List.foldl_cons]
  exact hkeep l₂ _ _ (hset _ e)

/-- Only a string is equal to a string. -/
theorem isStr_of_norm_eq {k k' : PyKey} (h : k.norm = k'.norm) (hk : k.isStr = true) :
    k'.isStr = true := by
  cases k <;> cases k' <;> simp_all [PyKey.norm, PyKey.isStr]

/-- A dictionary made of pairs is part of a document exactly when the pairs are named. -/
theorem isJson_dictOfPairs_iff {xs : List PyVal} (hxs : ∀ x ∈ xs, isJson x = true)
    {kvs : List (PyKey × PyVal)} (h : pairsOf xs = .ok kvs) :
    isJson (.dict (dictOfPairs kvs)) = true ↔ ∀ x ∈ xs, NamedPair x := by
  obtain ⟨hvals, hnames⟩ := pairsOf_spec hxs h
  rw [← hnames]
  constructor
  · intro hjson e he
    obtain ⟨hstr, -, -⟩ := (isJson_dict _).mp hjson
    obtain ⟨e', he', hnorm⟩ := List.mem_map.mp (norm_mem_dictOfPairs he)
    exact isStr_of_norm_eq hnorm (hstr e' he')
  · intro hstr
    have hall := forall_mem_dictOfPairs (P := (·.isStr = true)) (Q := (isJson · = true))
      fun e he => ⟨hstr e he, hvals e he⟩
    refine (isJson_dict _).mpr ⟨fun e he => (hall e he).1, ?_, fun e he => (hall e he).2⟩
    exact (nodup_norm_iff fun e he => (hall e he).1).mp (nodup_dictOfPairs kvs)

/-- `dict(params or {})`, for a part of a document. -/
theorem isJson_dictOf_iff {raw : PyVal} (hraw : isJson raw = true) {params : Dict}
    (h : dictOf (raw.or (.dict [])) = .ok params) :
    isJson (.dict params) = true ↔ ∀ pairs, raw = .list pairs → ∀ pair ∈ pairs, NamedPair pair := by
  cases htruthy : raw.truthy with
  | false =>
    rw [PyVal.or, htruthy] at h
    cases h
    refine iff_of_true rfl ?_
    rintro pairs rfl
    cases pairs with
    | nil => simp
    | cons pair pairs => cases htruthy
  | true =>
    rw [PyVal.or, htruthy, if_pos rfl] at h
    cases raw with
    | dict d =>
      cases h
      refine iff_of_true hraw ?_
      rintro _ ⟨⟩
    | list pairs =>
      obtain ⟨xs, hxs, h⟩ := bind_eq_ok.mp h
      cases hxs
      obtain ⟨kvs, hkvs, h⟩ := bind_eq_ok.mp h
      cases h
      rw [isJson_dictOfPairs_iff ((isJson_list _).mp hraw) hkvs]
      constructor
      · rintro hnamed _ ⟨⟩
        exact hnamed
      · exact fun hnamed => hnamed _ rfl
    | str s =>
      -- its characters are no pairs
      obtain ⟨xs, hxs, h⟩ := bind_eq_ok.mp h
      cases hxs
      obtain ⟨kvs, hkvs, -⟩ := bind_eq_ok.mp h
      cases hs : s.toList with
      | nil =>
        have hempty : s = "" := String.toList_eq_nil_iff.mp hs
        rw [hempty] at htruthy
        cases htruthy
      | cons c cs =>
        rw [hs, List.map_cons, pairsOf] at hkvs
        have hiter : (PyVal.str (String.singleton c)).iter?
            = some [.str (String.singleton c)] := by
          simp [PyVal.iter?]
        rw [hiter] at hkvs
        cases hkvs
    | null => cases h
    | bool b => cases h
    | int i => cases h
    | float f => cases h

/-! ## 3. The `params` of an accepted action -/

theorem canonicalParams_isJson {msg : String} {d : Dict} (hd : isJson (.dict d) = true)
    {params : Dict} (h : canonicalParams msg (Dict.get d "params") = .ok params) :
    isJson (.dict params) = true := by
  have hget := isJson_get hd "params"
  unfold canonicalParams at h
  split at h
  · cases h
    rfl
  · next p hp =>
    cases h
    rw [hp] at hget
    exact hget
  · cases h

theorem canonicalOffsetGroupChild_params {parent : Option (List Int)} {raw : PyVal} {e : Effect}
    (hraw : isJson raw = true) (h : canonicalOffsetGroupChild parent raw = .ok e) :
    isJson (.dict e.params) = true := by
  cases raw with
  | dict d =>
    unfold canonicalOffsetGroupChild at h
    dsimp only at h
    split at h
    · cases h
    · simp only [bind_eq_ok, pure_eq_ok, Except.ok.injEq] at h
      obtain ⟨_, -, target, -, params, hparams, flags, -, rfl⟩ := h
      exact canonicalParams_isJson hraw hparams
  | _ => cases h

theorem canonicalEffect_params {kind : EffectKind} {d : Dict} {e : Effect}
    (hd : isJson (.dict d) = true) (h : canonicalEffect kind d = .ok e) :
    isJson (.dict e.params) = true := by
  simp only [canonicalEffect, bind_eq_ok] at h
  obtain ⟨_, -, target, -, params, hparams, h⟩ := h
  have hjson := canonicalParams_isJson hd hparams
  split at h
  · simp only [bind_eq_ok, pure_eq_ok, Except.ok.injEq] at h
    obtain ⟨flags, -, rfl⟩ := h
    exact hjson
  · cases h
    exact hjson

/-- The children of an accepted container, and what they were read from. -/
theorem canonicalOffsetGroupAction_children {d : Dict} {a : Action}
    (h : canonicalOffsetGroupAction d = .ok a) :
    ∃ target offset raws actions, a = .offsetGroup target offset actions ∧
      (Dict.get d "actions").or (.list []) = .list raws ∧
      canonicalChildren target.groupIds? raws = .ok actions := by
  simp only [canonicalOffsetGroupAction, bind_eq_ok] at h
  obtain ⟨_, -, target, -, _, -, offset, -, h⟩ := h
  split at h
  · next raws hraws =>
    simp only [bind_eq_ok, pure_eq_ok, Except.ok.injEq] at h
    obtain ⟨_, -, actions, hactions, rfl⟩ := h
    exact ⟨target, offset, raws, actions, rfl, hraws, hactions⟩
  · cases h

/-- The `params` of an action that is not in the legacy shape are parts of the document. -/
theorem canonicalActionDict_jsonParams {d : Dict} {a : Action} (hd : isJson (.dict d) = true)
    (h : canonicalActionDict d = .ok a) : a.JsonParams := by
  unfold canonicalActionDict at h
  dsimp only at h
  split at h
  · cases h
  · obtain ⟨_, -, h⟩ := bind_eq_ok.mp h
    obtain ⟨target, offset, raws, actions, rfl, hraws, hactions⟩ :=
      canonicalOffsetGroupAction_children h
    have hjson := isJson_or (isJson_get hd "actions") (w := .list []) rfl
    rw [hraws] at hjson
    intro e he
    obtain ⟨raw, hraw, hchild⟩ := exists_of_mem_mapM hactions he
    exact canonicalOffsetGroupChild_params ((isJson_list _).mp hjson raw hraw) hchild
  · simp only [bind_eq_ok, pure_eq_ok, Except.ok.injEq] at h
    obtain ⟨dur, -, _, -, _, -, rfl⟩ := h
    exact List.forall_mem_nil _
  · simp only [bind_eq_ok, pure_eq_ok, Except.ok.injEq] at h
    obtain ⟨_, -, rfl⟩ := h
    exact List.forall_mem_nil _
  · simp only [bind_eq_ok, pure_eq_ok, Except.ok.injEq] at h
    obtain ⟨e, he, rfl⟩ := h
    intro e' he'
    cases List.mem_singleton.mp he'
    exact canonicalEffect_params hd he

/-- A migrated action has the `params` that the migration read. -/
theorem canonicalActionDict_migrated {d t d' : Dict} {a : Action}
    (hd' : migrateLegacyGroupsOffsetAction d t = .ok d') (h : canonicalActionDict d' = .ok a) :
    ∃ params, dictOf ((Dict.get d "params").or (.dict [])) = .ok params ∧
      (a.JsonParams ↔ isJson (.dict params) = true) := by
  obtain ⟨target, offset, params, flags, rfl, hparams⟩ := migrate_shape hd'
  refine ⟨params, hparams, ?_⟩
  have hval : Kind.ofVal? (.str "offset_group") = some .offsetGroup := rfl
  simp only [canonicalActionDict, Dict.get, Dict.find?_cons_str, if_true, Option.getD_some, hval,
    bind_eq_ok] at h
  obtain ⟨-, -, h⟩ := h
  obtain ⟨target, offset', raws, actions, rfl, hraws, hactions⟩ :=
    canonicalOffsetGroupAction_children h
  have honly : raws = [.dict (legacyChild d params flags)] := by
    have hget := hraws
    simp [Dict.get, PyVal.or, PyVal.truthy] at hget
    exact hget.symm
  subst honly
  rw [canonicalChildren, List.mapM_cons] at hactions
  obtain ⟨child, hchild, hrest⟩ := bind_eq_ok.mp hactions
  have hactions : actions = [child] := (Except.ok.inj hrest).symm
  have hcopied : child.params = params := by
    unfold canonicalOffsetGroupChild at hchild
    dsimp only at hchild
    split at hchild
    · cases hchild
    · simp only [bind_eq_ok, pure_eq_ok, Except.ok.injEq] at hchild
      obtain ⟨_, -, target, -, params', hparams', flags', -, rfl⟩ := hchild
      have hget : Dict.get (legacyChild d params flags) "params" = .dict params := by
        simp [legacyChild, Dict.get]
      rw [hget] at hparams'
      exact (Except.ok.inj hparams').symm
  rw [Action.JsonParams, Action.effects, hactions, List.forall_mem_singleton, hcopied]

/-! ## 4. The result -/

/-- The `params` of an action, if it is in the legacy `groups_offset` shape and has them as a list,
are a list of pairs named by strings. -/
def LegacyParamsNamed (raw : PyVal) : Prop :=
  ∀ d t, raw = .dict d → legacyGroupsOffsetTarget? d = some t →
    ∀ pairs, Dict.get d "params" = .list pairs → ∀ pair ∈ pairs, NamedPair pair

theorem jsonParams_iff {raw : PyVal} (hraw : isJson raw = true) {a : Action}
    (h : canonicalAction raw = .ok a) : a.JsonParams ↔ LegacyParamsNamed raw := by
  cases raw with
  | dict d =>
    unfold canonicalAction at h
    dsimp only at h
    split at h
    · next t ht =>
      obtain ⟨d', hd', h⟩ := bind_eq_ok.mp h
      obtain ⟨params, hparams, hiff⟩ := canonicalActionDict_migrated hd' h
      rw [hiff, isJson_dictOf_iff (isJson_get hraw "params") hparams]
      constructor
      · rintro hnamed _ _ ⟨⟩ -
        exact hnamed
      · exact fun hnamed => hnamed d t rfl ht
    · next ht =>
      refine iff_of_true (canonicalActionDict_jsonParams hraw h) ?_
      rintro _ t ⟨⟩ hsome
      rw [ht] at hsome
      cases hsome
  | _ => cases h

/-- The result of the validator is a fixed point of it, at once, through a file and as a copy. -/
structure FixedPoint (floatText : PyFloat → String) (actions : List Action) : Prop where
  again : canonicalActions (actionsToPy actions) = .ok actions
  reloaded : canonicalActions (jsonRoundTrip floatText (actionsToPy actions)) = .ok actions
  cloned : ∃ copy, cloneActions (actionsToPy actions) = some copy ∧
    canonicalActions copy = .ok actions

theorem fixedPoint_iff_jsonParams (floatText : PyFloat → String) {actions : List Action}
    (h : ActionsCanonical actions) :
    FixedPoint floatText actions ↔ ∀ a ∈ actions, a.JsonParams := by
  have hagain := canonicalActions_toPy_iff.mpr h
  have hreload := canonicalActions_toPy_iff.mpr ((actions_reload_canonical_iff floatText).mpr h)
  rw [← actions_reload_eq_iff floatText]
  constructor
  · rintro ⟨-, hreloaded, -⟩
    rw [jsonRoundTrip_actions, hreload] at hreloaded
    exact Except.ok.inj hreloaded
  · intro hsame
    refine ⟨hagain, ?_, actionsToPy actions, cloneActions_toPy actions, hagain⟩
    rw [jsonRoundTrip_actions, hreload, hsame]

/-- **Validating twice.**  For every JSON value that is accepted, in whatever shape: the result is
accepted again and returned unchanged, at once, after a JSON write and read and after a copy,
exactly when the `params` of its legacy `groups_offset` actions are named by strings. -/
theorem fixedPoint_iff (floatText : PyFloat → String) {raw : PyVal} (hraw : isJson raw = true)
    {actions : List Action} (h : canonicalActions raw = .ok actions) :
    FixedPoint floatText actions ↔ ∀ raws, raw = .list raws → ∀ r ∈ raws, LegacyParamsNamed r := by
  rw [fixedPoint_iff_jsonParams floatText (canonicalActions_sound h)]
  cases raw with
  | null =>
    cases h
    exact iff_of_true (fun a ha => (nomatch ha)) nofun
  | list raws =>
    obtain ⟨_, -, hactions⟩ := bind_eq_ok.mp h
    have hjson := (isJson_list _).mp hraw
    constructor
    · rintro hparams _ ⟨⟩ r hr
      obtain ⟨a, ha, hra⟩ := exists_mem_of_mapM hactions hr
      exact (jsonParams_iff (hjson r hr) hra).mp (hparams a ha)
    · intro hnamed a ha
      obtain ⟨r, hr, hra⟩ := exists_of_mem_mapM hactions ha
      exact (jsonParams_iff (hjson r hr) hra).mpr (hnamed raws rfl r hr)
  | _ => cases h

/-- A legacy action for group 3 with these `params`. -/
def legacyWithParams (params : PyVal) : PyVal :=
  .list [strDict [("kind", .str "wled_control"),
    ("target", strDict [("kind", .str "groups_offset"), ("groups", .list [.int 3])]),
    ("params", params)]]

/-- A pair named by a string. -/
theorem fixedPoint_named :
    ∃ actions, canonicalActions (legacyWithParams (.list [.list [.str "mode", .int 2]]))
        = .ok actions ∧
      FixedPoint (fun _ => "0.0") actions := by
  obtain ⟨actions, h⟩ : ∃ actions,
      canonicalActions (legacyWithParams (.list [.list [.str "mode", .int 2]])) = .ok actions :=
    ⟨_, rfl⟩
  refine ⟨actions, h, (fixedPoint_iff _ rfl h).mpr ?_⟩
  rintro _ ⟨⟩ r hr d t rfl ht pairs hpairs pair hpair
  cases List.mem_singleton.mp hr
  cases hpairs
  cases List.mem_singleton.mp hpair
  exact ⟨"mode", [.int 2], rfl⟩

/-- A pair named by a number: the key 1 is written as `"1"`, and comes back as that. -/
theorem fixedPoint_numbered :
    isJson (legacyWithParams (.list [.list [.int 1, .int 2]])) = true ∧
    ∃ actions, canonicalActions (legacyWithParams (.list [.list [.int 1, .int 2]])) = .ok actions ∧
      actions.map (·.effects.map (·.params)) = [[[(.int 1, .int 2)]]] ∧
      ¬ FixedPoint (fun _ => "0.0") actions := by
  refine ⟨rfl, _, rfl, rfl, fun h => ?_⟩
  have hparams := (fixedPoint_iff_jsonParams _ (canonicalActions_toPy_iff.mp h.again)).mp h
  exact absurd (hparams _ List.mem_cons_self _ List.mem_cons_self) (by decide)

end RaceLink
