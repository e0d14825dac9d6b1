/-
# Files that are named after a look

A thread that saves something has a list of names.  It looks at one after the other for a name that
is free, and then writes to the first it finds; if none is free, it writes to the last one and
reports the first.  Between the look and the write nothing is held, and other threads write.

* `right_iff`: in every state everything saved is under the name it was reported with, and nothing
  that was there before is lost, exactly when every write goes to a name that is still free.
* `right_alone_iff`: where the saves come one after the other, that is so exactly when each of them
  starts with a free name in its list.
-/
import RaceLink.Lts.Basic
import Mathlib.Logic.Function.Basic

namespace Naming

variable {ν π : Type}

/-! ## 1. The system -/

/-- Where a file is from. -/
inductive Origin where
  | before
  | save (i : Nat)
  deriving DecidableEq

/-- What a thread has left to do. -/
inductive Job (ν π : Type) where
  /-- The names that are left to look at. -/
  | looking (base : ν) (todo : List ν) (payload : π)
  | writing (name reported : ν) (payload : π)
  | saved (reported : ν) (payload : π)

/-- The thread has nothing left to do. -/
def Job.isSaved : Job ν π → Bool
  | .saved _ _ => true
  | _ => false

/-- The name the thread is about to write to. -/
def Job.goesTo : Job ν π → Option ν
  | .writing name _ _ => some name
  | _ => none

structure Shelf (ν π : Type) where
  files : ν → Option (Origin × π)
  jobs : List (Job ν π)

inductive Event (ν π : Type) where
  | start (base : ν) (alternates : List ν) (payload : π)
  /-- A thread takes a step. -/
  | advance (i : Nat)

namespace Shelf

/-- A thread is where it is now. -/
def setJob (s : Shelf ν π) (i : Nat) (job : Job ν π) : Shelf ν π :=
  { s with jobs := s.jobs.set i job }

variable [DecidableEq ν]

/-- A thread writes to a file, and is done. -/
def put (s : Shelf ν π) (i : Nat) (name reported : ν) (payload : π) : Shelf ν π :=
  { s with files := Function.update s.files name (some (.save i, payload)) }.setJob i
    (.saved reported payload)

/-- The step of a thread; `none` when it is done. -/
def advance (s : Shelf ν π) (i : Nat) : Job ν π → Option (Shelf ν π)
  | .looking _ [] _ => none
  | .looking base (name :: rest) payload =>
    some (s.setJob i (if (s.files name).isNone then .writing name name payload
      else if rest.isEmpty then .writing name base payload
      else .looking base rest payload))
  | .writing name reported payload => some (s.put i name reported payload)
  | .saved _ _ => none

def step (s : Shelf ν π) : Event ν π → Option (Shelf ν π)
  | .start base alternates payload =>
    some { s with jobs := s.jobs ++ [.looking base (base :: alternates) payload] }
  | .advance i => (s.jobs[i]?).bind (s.advance i)

/-- What is there before anybody saves. -/
def init (was : ν → Option π) : Shelf ν π := ⟨fun name => (was name).map (.before, ·), []⟩

/-! ## 2. What is right -/

/-- Everything saved is under the name it was reported with, and what was there before still is. -/
def Right (was : ν → Option π) (s : Shelf ν π) : Prop :=
  (∀ i reported payload, s.jobs[i]? = some (.saved reported payload) →
      s.files reported = some (.save i, payload)) ∧
    ∀ name payload, was name = some payload → s.files name = some (.before, payload)

/-- A write goes to a name that is still free. -/
def WritesFree (s : Shelf ν π) : Event ν π → Prop
  | .advance i => ∀ name ∈ (s.jobs[i]?).bind Job.goesTo, s.files name = none
  | _ => True

/-- The files of the shelf are those of its threads and those of before; who has found no free name
is about to write to one that is taken. -/
structure Kept (was : ν → Option π) (s : Shelf ν π) : Prop where
  right : s.Right was
  saves : ∀ name i payload, s.files name = some (.save i, payload) →
    s.jobs[i]? = some (.saved name payload)
  olds : ∀ name payload, s.files name = some (.before, payload) → was name = some payload
  reports : ∀ (i : Nat) (name reported : ν) (payload : π),
    s.jobs[i]? = some (.writing name reported payload) → s.files name = none → name = reported

/-- Nobody is under way. -/
def Settled (s : Shelf ν π) : Prop := ∀ job ∈ s.jobs, job.isSaved = true

instance (s : Shelf ν π) : Decidable s.Settled := inferInstanceAs (Decidable (∀ _ ∈ _, _))

instance decidableWritesFree (s : Shelf ν π) (e : Event ν π) : Decidable (s.WritesFree e) := by
  cases e <;> unfold Shelf.WritesFree <;> infer_instance

end Shelf

/-- The shelf from some files on. -/
def shelfSystem [DecidableEq ν] (was : ν → Option π) : Lts.System (Shelf ν π) (Event ν π) :=
  ⟨.init was, Shelf.step⟩

/-! ## 3. The steps -/

section

variable [DecidableEq ν] {was : ν → Option π} {s t : Shelf ν π}

omit [DecidableEq ν] in
/-- A thread that takes a step is where it is now, and the others are where they were. -/
theorem getElem?_setJob {i : Nat} {old : Job ν π} (hi : s.jobs[i]? = some old) (new : Job ν π)
    (j : Nat) : (s.setJob i new).jobs[j]? = if i = j then some new else s.jobs[j]? := by
  show (s.jobs.set i new)[j]? = _
  rw [List.getElem?_set]
  split
  · simp [(List.getElem?_eq_some_iff.mp hi).1]
  · rfl

/-- **What a step of a thread is**: a look, or a write. -/
theorem advance_cases {i : Nat} {job : Job ν π} (hstep : s.advance i job = some t) :
    (∃ base name rest payload, job = .looking base (name :: rest) payload ∧
        ((s.files name = none ∧ t = s.setJob i (.writing name name payload)) ∨
          s.files name ≠ none ∧ (rest = [] ∧ t = s.setJob i (.writing name base payload) ∨
            rest ≠ [] ∧ t = s.setJob i (.looking base rest payload)))) ∨
      ∃ name reported payload, job = .writing name reported payload ∧
        t = s.put i name reported payload := by
  cases job with
  | looking base todo payload =>
    cases todo with
    | nil => cases hstep
    | cons name rest =>
      refine .inl ⟨base, name, rest, payload, rfl, ?_⟩
      rw [Shelf.advance, Option.some.injEq] at hstep
      subst hstep
      cases hfile : s.files name with
      | none => exact .inl ⟨rfl, by simp⟩
      | some file =>
        refine .inr ⟨by simp, ?_⟩
        cases rest with
        | nil => exact .inl ⟨rfl, by simp⟩
        | cons next rest => exact .inr ⟨by simp, by simp⟩
  | writing name reported payload =>
    cases hstep
    exact .inr ⟨name, reported, payload, rfl, rfl⟩
  | saved reported payload => cases hstep

omit [DecidableEq ν] in
/-- A thread that only looks leaves what has been saved. -/
theorem Shelf.Kept.look (h : s.Kept was) {i : Nat} {old new : Job ν π} (hi : s.jobs[i]? = some old)
    (hold : ∀ reported payload, old ≠ .saved reported payload)
    (hnew : ∀ reported payload, new ≠ .saved reported payload)
    (hreports : ∀ name reported payload, new = .writing name reported payload →
      s.files name = none → name = reported) : (s.setJob i new).Kept was := by
  refine ⟨⟨fun j reported payload hj => ?_, h.right.2⟩, fun name j payload hfile => ?_, h.olds,
    fun j name reported payload hj => ?_⟩
  · rw [getElem?_setJob hi] at hj
    split at hj
    · exact absurd (Option.some.inj hj) (hnew _ _)
    · exact h.right.1 j reported payload hj
  · have hj := h.saves name j payload hfile
    rw [getElem?_setJob hi]
    split
    · next hij =>
      subst hij
      exact absurd (Option.some.inj (hi.symm.trans hj)) (hold _ _)
    · exact hj
  · rw [getElem?_setJob hi] at hj
    split at hj
    · exact hreports name reported payload (Option.some.inj hj)
    · exact h.reports j name reported payload hj

/-- The file that is written, and the other ones. -/
theorem put_self (i : Nat) (name reported : ν) (payload : π) :
    (s.put i name reported payload).files name = some (.save i, payload) :=
  Function.update_self ..

theorem put_of_ne (i : Nat) {name other : ν} (h : other ≠ name) (reported : ν) (payload : π) :
    (s.put i name reported payload).files other = s.files other :=
  Function.update_of_ne h ..

theorem getElem?_put {i : Nat} {old : Job ν π} (hi : s.jobs[i]? = some old) (name reported : ν)
    (payload : π) (j : Nat) : (s.put i name reported payload).jobs[j]? =
      if i = j then some (.saved reported payload) else s.jobs[j]? :=
  getElem?_setJob (s := { s with files := _ }) hi _ j

/-- A write to a free name adds a file. -/
theorem Shelf.Kept.write (h : s.Kept was) {i : Nat} {name reported : ν} {payload : π}
    (hi : s.jobs[i]? = some (.writing name reported payload)) (hfree : s.files name = none) :
    (s.put i name reported payload).Kept was := by
  obtain rfl := h.reports i name reported payload hi hfree
  have hfiles : ∀ other file, s.files other = some file →
      (s.put i name name payload).files other = some file := by
    intro other file hother
    rw [put_of_ne i fun heq => ?_]
    · exact hother
    · rw [heq, hfree] at hother
      cases hother
  refine ⟨⟨fun j reported payload' hj => ?_, fun old p hold => hfiles _ _ (h.right.2 old p hold)⟩,
    fun other j p hfile => ?_, fun other p hfile => ?_,
    fun j other reported payload' hj hnone => ?_⟩
  · rw [getElem?_put hi] at hj
    split at hj
    · next hij =>
      cases hj
      rw [put_self, hij]
    · exact hfiles _ _ (h.right.1 j reported payload' hj)
  · rw [getElem?_put hi]
    by_cases hother : other = name
    · rw [hother, put_self] at hfile
      cases hfile
      rw [if_pos rfl, hother]
    · rw [put_of_ne i hother] at hfile
      have hj := h.saves other j p hfile
      rw [if_neg fun hij => ?_]
      · exact hj
      · rw [← hij, hi] at hj
        cases hj
  · by_cases hother : other = name
    · rw [hother, put_self] at hfile
      cases hfile
    · rw [put_of_ne i hother] at hfile
      exact h.olds other p hfile
  · rw [getElem?_put hi] at hj
    split at hj
    · cases hj
    · refine h.reports j other reported payload' hj ?_
      cases hfile : s.files other with
      | none => rfl
      | some file =>
        rw [hfiles other file hfile] at hnone
        cases hnone

/-- A step that writes to a free name, if it writes, keeps everything right. -/
theorem kept_step {e : Event ν π} (h : s.Kept was) (hfree : s.WritesFree e)
    (hstep : s.step e = some t) : t.Kept was := by
  cases e with
  | start base alternates payload =>
    cases hstep
    have hold : ∀ (j : Nat) (job : Job ν π),
        (s.jobs ++ [.looking base (base :: alternates) payload])[j]? = some job →
        s.jobs[j]? = some job ∨ job = .looking base (base :: alternates) payload := by
      intro j job hj
      rw [List.getElem?_append] at hj
      split at hj
      · exact .inl hj
      · exact .inr (List.mem_singleton.mp (List.mem_of_getElem? hj))
    refine ⟨⟨fun j reported payload hj => ?_, h.right.2⟩, fun name j payload hfile => ?_, h.olds,
      fun j name reported payload hj => ?_⟩
    · rcases hold j _ hj with hj | hj
      · exact h.right.1 j reported payload hj
      · cases hj
    · exact Lts.log_getElem? (h.saves name j payload hfile)
    · rcases hold j _ hj with hj | hj
      · exact h.reports j name reported payload hj
      · cases hj
  | advance i =>
    obtain ⟨job, hi, hadvance⟩ := Option.bind_eq_some_iff.mp hstep
    rcases advance_cases hadvance with
      ⟨base, name, rest, payload, rfl, ⟨hname, rfl⟩ | ⟨hname, ⟨-, rfl⟩ | ⟨-, rfl⟩⟩⟩ |
      ⟨name, reported, payload, rfl, rfl⟩
    · refine h.look hi (by rintro _ _ ⟨⟩) (by rintro _ _ ⟨⟩) ?_
      rintro _ _ _ ⟨⟩ -
      rfl
    · refine h.look hi (by rintro _ _ ⟨⟩) (by rintro _ _ ⟨⟩) ?_
      rintro _ _ _ ⟨⟩ hnone
      exact absurd hnone hname
    · exact h.look hi (by rintro _ _ ⟨⟩) (by rintro _ _ ⟨⟩) (by rintro _ _ _ ⟨⟩)
    · exact h.write hi (hfree name (by rw [hi]; rfl))

/-- A write to a name that is taken loses a file. -/
theorem not_right_step {e : Event ν π} (h : s.Kept was) (htaken : ¬ s.WritesFree e)
    (hstep : s.step e = some t) : ¬ t.Right was := by
  cases e with
  | start base alternates payload => exact absurd trivial htaken
  | advance i =>
    rintro ⟨hsaved, hwas⟩
    refine htaken fun name hname => ?_
    obtain ⟨job, hi, hadvance⟩ := Option.bind_eq_some_iff.mp hstep
    obtain ⟨reported, payload, rfl⟩ : ∃ reported payload, job = .writing name reported payload := by
      rw [hi] at hname
      cases job with
      | writing _ reported payload =>
        cases hname
        exact ⟨reported, payload, rfl⟩
      | looking _ _ _ => cases hname
      | saved _ _ => cases hname
    cases hadvance
    cases hfile : s.files name with
    | none => rfl
    | some file =>
      obtain ⟨origin, p⟩ := file
      cases origin with
      | before =>
        have hlost := hwas name p (h.olds name p hfile)
        rw [put_self] at hlost
        cases hlost
      | save j =>
        have hj := h.saves name j p hfile
        have hne : i ≠ j := by
          rintro rfl
          rw [hi] at hj
          cases hj
        have hstill := hsaved j name p (by rw [getElem?_put hi, if_neg hne, hj])
        rw [put_self] at hstill
        cases hstill
        exact absurd rfl hne

omit [DecidableEq ν] in
theorem kept_init (was : ν → Option π) : (Shelf.init was).Kept was := by
  refine ⟨⟨by rintro _ _ _ ⟨⟩, fun name payload hwas => ?_⟩, fun name i payload hfile => ?_,
    fun name payload hfile => ?_, by rintro _ _ _ _ ⟨⟩⟩
  · show (was name).map _ = _
    rw [hwas, Option.map_some]
  · obtain ⟨p, -, hp⟩ := Option.map_eq_some_iff.mp hfile
    cases hp
  · obtain ⟨p, hwas, hp⟩ := Option.map_eq_some_iff.mp hfile
    cases hp
    exact hwas

/-- **Nothing is lost** in any state of a run exactly when every write goes to a free name. -/
theorem right_iff {es : List (Event ν π)}
    (hrun : Lts.run (shelfSystem was) (.init was) es = some t) :
    Lts.Throughout (shelfSystem was) (·.Right was) (.init was) es ↔
      Lts.RunMeets (shelfSystem was) Shelf.WritesFree (.init was) es :=
  Lts.throughout_iff (fun _ h => h.right) (fun _ _ _ h hok hstep => kept_step h hok hstep)
    (fun _ _ _ h hok hstep => not_right_step h hok hstep) (kept_init was) hrun

/-! ## 4. One after the other -/

/-- A save starts when nobody else is under way. -/
def Shelf.Alone (s : Shelf ν π) : Event ν π → Prop
  | .start _ _ _ => s.Settled
  | _ => True

omit [DecidableEq ν] in
instance decidableAlone (s : Shelf ν π) (e : Event ν π) : Decidable (s.Alone e) := by
  cases e <;> unfold Shelf.Alone <;> infer_instance

/-- A save starts with a free name in its list. -/
def Shelf.HasFree (s : Shelf ν π) : Event ν π → Prop
  | .start base alternates _ => ∃ name ∈ base :: alternates, s.files name = none
  | _ => True

instance decidableHasFree (s : Shelf ν π) (e : Event ν π) : Decidable (s.HasFree e) := by
  cases e <;> unfold Shelf.HasFree <;> infer_instance

/-- The thread will find a free name while nobody else writes. -/
def Job.Finds (files : ν → Option (Origin × π)) : Job ν π → Prop
  | .looking _ todo _ => ∃ name ∈ todo, files name = none
  | .writing name _ _ => files name = none
  | .saved _ _ => True

/-- The thread will find no free name, whoever writes. -/
def Job.Misses (files : ν → Option (Origin × π)) : Job ν π → Prop
  | .looking _ todo _ => ∀ name ∈ todo, files name ≠ none
  | .writing name _ _ => files name ≠ none
  | .saved _ _ => False

/-- At most one thread is under way, and it will find a free name. -/
def Shelf.OneFinds (s : Shelf ν π) : Prop :=
  ∀ (i : Nat) (job : Job ν π), s.jobs[i]? = some job → job.Finds s.files ∧
    (job.isSaved = false →
      ∀ (j : Nat) (other : Job ν π), s.jobs[j]? = some other → j ≠ i → other.isSaved = true)

/-- A save that starts alone and with a free name finds one. -/
theorem oneFinds_step {e : Event ν π} (h : s.OneFinds) (halone : s.Alone e) (hfree : s.HasFree e)
    (hstep : s.step e = some t) : t.OneFinds := by
  cases e with
  | start base alternates payload =>
    cases hstep
    have hold : ∀ (j : Nat) (job : Job ν π),
        (s.jobs ++ [.looking base (base :: alternates) payload])[j]? = some job →
        s.jobs[j]? = some job ∨
          j = s.jobs.length ∧ job = .looking base (base :: alternates) payload := by
      intro j job hj
      by_cases hlt : j < s.jobs.length
      · rw [List.getElem?_append_left hlt] at hj
        exact .inl hj
      · rw [List.getElem?_append_right (Nat.le_of_not_lt hlt)] at hj
        have hzero := (List.getElem?_eq_some_iff.mp hj).1
        rw [List.length_singleton] at hzero
        refine .inr ⟨by omega, List.mem_singleton.mp (List.mem_of_getElem? hj)⟩
    intro i job hi
    rcases hold i job hi with hi | ⟨rfl, rfl⟩
    · refine ⟨(h i job hi).1, fun hunsaved => ?_⟩
      rw [halone job (List.mem_of_getElem? hi)] at hunsaved
      cases hunsaved
    · refine ⟨hfree, fun _ j other hj hne => ?_⟩
      rcases hold j other hj with hj | ⟨hlast, -⟩
      · exact halone other (List.mem_of_getElem? hj)
      · exact absurd hlast hne
  | advance i =>
    obtain ⟨job, hi, hadvance⟩ := Option.bind_eq_some_iff.mp hstep
    obtain ⟨hfinds, honly⟩ := h i job hi
    -- the others are done, so only what this thread finds can change
    have hmove : ∀ new : Job ν π, job.isSaved = false → new.Finds s.files →
        (s.setJob i new).OneFinds := by
      intro new hunsaved hnew j other hj
      rw [getElem?_setJob hi] at hj
      split at hj
      · next hij =>
        cases hj
        refine ⟨hnew, fun _ k third hk hne => ?_⟩
        rw [getElem?_setJob hi, if_neg fun hik => hne (hik.symm.trans hij)] at hk
        exact honly hunsaved k third hk fun hki => hne (hki.trans hij)
      · next hij =>
        refine ⟨(h j other hj).1, fun hother => ?_⟩
        rw [honly hunsaved j other hj fun hji => hij hji.symm] at hother
        cases hother
    rcases advance_cases hadvance with
      ⟨base, name, rest, payload, rfl, ⟨hname, rfl⟩ | ⟨hname, ⟨rfl, rfl⟩ | ⟨-, rfl⟩⟩⟩ |
      ⟨name, reported, payload, rfl, rfl⟩
    · exact hmove _ rfl hname
    · obtain ⟨other, hother, hnone⟩ := hfinds
      rw [List.mem_singleton.mp hother] at hnone
      exact absurd hnone hname
    · refine hmove _ rfl ?_
      obtain ⟨other, hother, hnone⟩ := hfinds
      rcases List.mem_cons.mp hother with rfl | hother
      · exact absurd hnone hname
      · exact ⟨other, hother, hnone⟩
    · intro j other hj
      rw [getElem?_put hi] at hj
      split at hj
      · cases hj
        exact ⟨trivial, by rintro ⟨⟩⟩
      · next hij =>
        have hsaved := honly rfl j other hj fun hji => hij hji.symm
        cases other with
        | saved _ _ => exact ⟨trivial, by rintro ⟨⟩⟩
        | looking _ _ _ => cases hsaved
        | writing _ _ _ => cases hsaved

/-- A thread that will find no free name goes on finding none, until it overwrites a file. -/
theorem misses_step {e : Event ν π} {i : Nat} {job : Job ν π} (hi : s.jobs[i]? = some job)
    (hmisses : job.Misses s.files) (hfree : s.WritesFree e) (hstep : s.step e = some t) :
    ∃ job', t.jobs[i]? = some job' ∧ job'.Misses t.files := by
  cases e with
  | start base alternates payload =>
    cases hstep
    exact ⟨job, Lts.log_getElem? hi, hmisses⟩
  | advance j =>
    obtain ⟨mover, hj, hadvance⟩ := Option.bind_eq_some_iff.mp hstep
    rcases advance_cases hadvance with
      ⟨base, name, rest, payload, rfl, hlook⟩ | ⟨name, reported, payload, rfl, rfl⟩
    · -- a look moves one thread, and no file
      have hmove : ∀ new : Job ν π, (j = i → new.Misses s.files) →
          ∃ job', (s.setJob j new).jobs[i]? = some job' ∧ job'.Misses s.files := by
        intro new hnew
        rw [getElem?_setJob hj]
        by_cases hji : j = i
        · exact ⟨new, if_pos hji, hnew hji⟩
        · exact ⟨job, by rw [if_neg hji, hi], hmisses⟩
      have hthis : j = i → ∀ other ∈ name :: rest, s.files other ≠ none := by
        rintro rfl
        obtain rfl := Option.some.inj (hi.symm.trans hj)
        exact hmisses
      rcases hlook with ⟨hname, rfl⟩ | ⟨hname, ⟨-, rfl⟩ | ⟨-, rfl⟩⟩
      · exact hmove _ fun hji => absurd hname (hthis hji name List.mem_cons_self)
      · exact hmove _ fun _ => hname
      · exact hmove _ fun hji other hother => hthis hji other (List.mem_cons_of_mem _ hother)
    · have hnone := hfree name (by rw [hj]; rfl)
      have hne : j ≠ i := by
        rintro rfl
        obtain rfl := Option.some.inj (hi.symm.trans hj)
        exact hmisses hnone
      refine ⟨job, by rw [getElem?_put hj, if_neg hne, hi], ?_⟩
      have hgrows : ∀ other, s.files other ≠ none → (s.put j name reported payload).files other ≠
          none := by
        intro other hother
        by_cases heq : other = name
        · rw [heq, put_self]
          simp
        · rwa [put_of_ne j heq]
      cases job with
      | looking base todo p => exact fun other hother => hgrows other (hmisses other hother)
      | writing other _ _ => exact hgrows other hmisses
      | saved _ _ => exact hmisses

/-- Such a thread is still under way at the end of a run that overwrites nothing. -/
theorem not_settled_of_misses {es : List (Event ν π)} {i : Nat} {job : Job ν π}
    (hi : s.jobs[i]? = some job) (hmisses : job.Misses s.files)
    (hfree : Lts.RunMeets (shelfSystem was) Shelf.WritesFree s es)
    (hrun : Lts.run (shelfSystem was) s es = some t) : ¬ t.Settled := by
  induction es generalizing s job with
  | nil =>
    cases hrun
    intro hsettled
    have hsaved := hsettled job (List.mem_of_getElem? hi)
    cases job with
    | looking _ _ _ => cases hsaved
    | writing _ _ _ => cases hsaved
    | saved _ _ => exact hmisses
  | cons e es ih =>
    obtain ⟨u, hstep, hrest⟩ := Option.bind_eq_some_iff.mp hrun
    obtain ⟨job', hi', hmisses'⟩ := misses_step hi hmisses hfree.1 hstep
    exact ih hi' hmisses' (hfree.2 u hstep) hrest

/-- **One after the other**: where no save starts before the others are done, nothing is lost in any
state exactly when each save starts with a free name. -/
theorem right_alone_iff {es : List (Event ν π)}
    (hrun : Lts.run (shelfSystem was) (.init was) es = some t) (hsettled : t.Settled)
    (halone : Lts.RunMeets (shelfSystem was) Shelf.Alone (.init was) es) :
    Lts.Throughout (shelfSystem was) (·.Right was) (.init was) es ↔
      Lts.RunMeets (shelfSystem was) Shelf.HasFree (.init was) es := by
  rw [right_iff hrun]
  have hinit : (Shelf.init was).OneFinds := by rintro _ _ ⟨⟩
  generalize Shelf.init was = s at hrun halone hinit ⊢
  induction es generalizing s with
  | nil => exact iff_of_true trivial trivial
  | cons e es ih =>
    obtain ⟨u, hstep, hrest⟩ := Option.bind_eq_some_iff.mp hrun
    have honly : ∀ v, s.step e = some v → v = u := fun v hv => Option.some.inj (hv.symm.trans hstep)
    constructor
    · rintro ⟨hfree, hfrees⟩
      have hhas : s.HasFree e := by
        cases e with
        | advance i => trivial
        | start base alternates payload =>
          by_contra hnone
          cases hstep
          have hmisses : (Job.looking base (base :: alternates) payload).Misses s.files :=
            fun name hname hfile => hnone ⟨name, hname, hfile⟩
          have hlast : (s.jobs ++ [Job.looking base (base :: alternates) payload])[s.jobs.length]? =
            some (.looking base (base :: alternates) payload) := List.getElem?_concat_length
          have hlater : Lts.RunMeets (shelfSystem was) Shelf.WritesFree
              { s with jobs := s.jobs ++ [.looking base (base :: alternates) payload] } es :=
            hfrees _ rfl
          exact not_settled_of_misses
            (s := { s with jobs := s.jobs ++ [.looking base (base :: alternates) payload] })
            hlast hmisses hlater hrest hsettled
      refine ⟨hhas, fun v hv => ?_⟩
      rw [honly v hv]
      exact (ih u hrest (halone.2 u hstep) (oneFinds_step hinit halone.1 hhas hstep)).mp
        (hfrees u hstep)
    · rintro ⟨hhas, hhases⟩
      refine ⟨?_, fun v hv => ?_⟩
      · cases e with
        | start base alternates payload => trivial
        | advance i =>
          intro name hname
          obtain ⟨job, hi, hto⟩ := Option.bind_eq_some_iff.mp hname
          have hfinds := (hinit i job hi).1
          cases job with
          | writing _ reported payload =>
            cases hto
            exact hfinds
          | looking _ _ _ => cases hto
          | saved _ _ => cases hto
      · rw [honly v hv]
        exact (ih u hrest (halone.2 u hstep) (oneFinds_step hinit halone.1 hhas hstep)).mpr
          (hhases u hstep)

end

end Naming
