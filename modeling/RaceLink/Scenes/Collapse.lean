/-
# The broadcast collapse

`collapse_actions_to_broadcast`: when a scene is saved, a group list that covers every known
group becomes `broadcast`.  The rewrite looks at one target at a time and at nothing else of
the action.  The validator does not: an `explicit` offset block wants a concrete group list.

`collapseActions_canonical_iff` says exactly when the collapse of a canonical list is
canonical: when no container with an `explicit` block covers the known groups.
-/
import RaceLink.Scenes.CanonicalSpec

namespace RaceLink

/-! ## 1. The rewrite -/

/-- `_collapse_groups_target`.  The source returns the same object when nothing changes, and
its callers test for that; the value returned is the same either way. -/
def collapseGroupsTarget (known : List Int) : Target → Target
  | .groups value =>
    if value ≠ [] ∧ known ≠ [] ∧ ∀ g ∈ known, g ∈ value then .broadcast else .groups value
  | target => target

/-- `_collapse_action` of an effect, at the top level or as a child. -/
def collapseEffect (known : List Int) (e : Effect) : Effect :=
  { e with target := collapseGroupsTarget known e.target }

/-- `_collapse_action`. -/
def collapseAction (known : List Int) : Action → Action
  | .effect e => .effect (collapseEffect known e)
  | .offsetGroup target offset actions =>
    .offsetGroup (collapseGroupsTarget known target) offset (actions.map (collapseEffect known))
  | .sync => .sync
  | .delay durationMs => .delay durationMs

/-- `collapse_actions_to_broadcast`. -/
def collapseActionsToBroadcast (known : List Int) (actions : List Action) : List Action :=
  if known = [] then actions else actions.map (collapseAction known)

/-! ## 2. What it keeps -/

/-- The action is a container with an `explicit` block whose groups are all of the known ones
(and there is a known one). -/
def Action.ExplicitCoversKnown (known : List Int) : Action → Prop
  | .offsetGroup (.groups value) (.explicit _) _ => known ≠ [] ∧ ∀ g ∈ known, g ∈ value
  | _ => False

theorem collapseGroupsTarget_cases (known : List Int) (t : Target) :
    collapseGroupsTarget known t = t ∨
      ∃ value, t = .groups value ∧ (known ≠ [] ∧ ∀ g ∈ known, g ∈ value) ∧
        collapseGroupsTarget known t = .broadcast := by
  cases t with
  | broadcast => exact Or.inl rfl
  | device value => exact Or.inl rfl
  | groups value =>
    by_cases h : value ≠ [] ∧ known ≠ [] ∧ ∀ g ∈ known, g ∈ value
    · exact Or.inr ⟨value, rfl, h.2, if_pos h⟩
    · exact Or.inl (if_neg h)

theorem collapseGroupsTarget_of_covers {known value : List Int} (hv : value ≠ [])
    (hk : known ≠ []) (hsub : ∀ g ∈ known, g ∈ value) :
    collapseGroupsTarget known (.groups value) = .broadcast := if_pos ⟨hv, hk, hsub⟩

theorem collapseGroupsTarget_canonical {known : List Int} {t : Target} (h : t.Canonical) :
    (collapseGroupsTarget known t).Canonical := by
  rcases collapseGroupsTarget_cases known t with heq | ⟨_, -, -, heq⟩
  · rw [heq]; exact h
  · rw [heq]; trivial

theorem collapseGroupsTarget_notDevice {known : List Int} {t : Target} (h : t.NotDevice) :
    (collapseGroupsTarget known t).NotDevice := by
  rcases collapseGroupsTarget_cases known t with heq | ⟨_, -, -, heq⟩
  · rw [heq]; exact h
  · rw [heq]; trivial

/-- A child target stays inside its container: the child's list shrinks to nothing that is
checked, and a collapsed container admits every group. -/
theorem collapseGroupsTarget_within {known : List Int} {parent t : Target}
    (h : t.Within parent.groupIds?) :
    (collapseGroupsTarget known t).Within (collapseGroupsTarget known parent).groupIds? := by
  rcases collapseGroupsTarget_cases known t with heq | ⟨_, -, -, heq⟩
  · rw [heq]
    rcases collapseGroupsTarget_cases known parent with hp | ⟨_, -, -, hp⟩
    · rw [hp]; exact h
    · rw [hp]
      cases t with
      | groups value => intro p hp; cases hp
      | broadcast => trivial
      | device value => trivial
  · rw [heq]; trivial

theorem collapseEffect_canonical {known : List Int} {e : Effect} (h : e.Canonical) :
    (collapseEffect known e).Canonical :=
  ⟨collapseGroupsTarget_canonical h.1, h.2⟩

theorem collapseEffect_canonicalChild {known : List Int} {parent : Target} {e : Effect}
    (h : e.CanonicalChild parent.groupIds?) :
    (collapseEffect known e).CanonicalChild (collapseGroupsTarget known parent).groupIds? :=
  ⟨collapseEffect_canonical h.1, h.2.1, collapseGroupsTarget_within h.2.2⟩

/-- Under a collapsed container only an `explicit` block stops being canonical. -/
theorem offsetBlock_canonical_broadcast_iff {offset : OffsetBlock} {ids : Option (List Int)}
    (h : offset.Canonical ids) :
    offset.Canonical none ↔ ∀ values, offset ≠ .explicit values := by
  cases offset with
  | explicit values =>
    constructor
    · rintro ⟨_, hids, -⟩
      cases hids
    · intro hne
      exact absurd rfl (hne values)
  | none => exact iff_of_true trivial (fun _ => by simp)
  | linear base step => exact iff_of_true h (fun _ => by simp)
  | vshape base step center => exact iff_of_true h (fun _ => by simp)
  | modulo base step cycle => exact iff_of_true h (fun _ => by simp)

theorem collapseAction_canonical_iff {known : List Int} {a : Action} (h : a.Canonical) :
    (collapseAction known a).Canonical ↔ ¬ a.ExplicitCoversKnown known := by
  cases a with
  | effect e => exact iff_of_true (collapseEffect_canonical h) id
  | sync => exact iff_of_true trivial id
  | delay durationMs => exact iff_of_true h id
  | offsetGroup target offset actions =>
    obtain ⟨⟨hcanon, hdevice⟩, hlen, hoffset, hchildren, hactions⟩ := h
    have hrest : (collapseAction known (.offsetGroup target offset actions)).Canonical ↔
        offset.Canonical (collapseGroupsTarget known target).groupIds? := by
      constructor
      · exact fun h => h.2.2.1
      · intro ho
        refine ⟨⟨collapseGroupsTarget_canonical hcanon, collapseGroupsTarget_notDevice hdevice⟩,
          ?_, ho, by rwa [List.length_map], ?_⟩
        · rcases collapseGroupsTarget_cases known target with heq | ⟨_, -, -, heq⟩
          · rwa [heq]
          · rw [heq]; exact Nat.zero_le _
        · intro c hc
          obtain ⟨e, he, rfl⟩ := List.mem_map.mp hc
          exact collapseEffect_canonicalChild (hactions e he)
    rw [hrest]
    rcases collapseGroupsTarget_cases known target with heq | ⟨value, rfl, hcover, heq⟩
    · -- the container keeps its list: it does not cover the known groups
      rw [heq]
      refine iff_of_true hoffset ?_
      cases target with
      | broadcast => exact id
      | device value => exact hdevice.elim
      | groups value =>
        cases offset with
        | explicit values =>
          intro hbad
          rw [collapseGroupsTarget_of_covers hcanon.1 hbad.1 hbad.2] at heq
          cases heq
        | _ => exact id
    · rw [heq]
      have hnone : offset.Canonical (Target.groupIds? .broadcast) ↔
          ∀ values, offset ≠ .explicit values := offsetBlock_canonical_broadcast_iff hoffset
      rw [hnone]
      cases offset with
      | explicit values => exact iff_of_false (fun hne => hne values rfl) (not_not.mpr hcover)
      | none => exact iff_of_true (fun _ => by simp) id
      | linear base step => exact iff_of_true (fun _ => by simp) id
      | vshape base step center => exact iff_of_true (fun _ => by simp) id
      | modulo base step cycle => exact iff_of_true (fun _ => by simp) id

/-- **Exactly when the collapse of a canonical list is canonical.** -/
theorem collapseActions_canonical_iff {known : List Int} {actions : List Action}
    (h : ActionsCanonical actions) :
    ActionsCanonical (collapseActionsToBroadcast known actions) ↔
      ∀ a ∈ actions, ¬ a.ExplicitCoversKnown known := by
  unfold collapseActionsToBroadcast
  by_cases hk : known = []
  · rw [if_pos hk]
    refine iff_of_true h fun a ha => ?_
    unfold Action.ExplicitCoversKnown
    split
    · exact fun hbad => hbad.1 hk
    · exact id
  · rw [if_neg hk]
    constructor
    · intro hcanon a ha
      exact (collapseAction_canonical_iff (h.2 a ha)).mp
        (hcanon.2 _ (List.mem_map_of_mem ha))
    · intro hsafe
      refine ⟨by rw [List.length_map]; exact h.1, fun b hb => ?_⟩
      obtain ⟨a, ha, rfl⟩ := List.mem_map.mp hb
      exact (collapseAction_canonical_iff (h.2 a ha)).mpr (hsafe a ha)

end RaceLink
