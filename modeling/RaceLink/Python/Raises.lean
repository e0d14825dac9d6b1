/-
# When an expression raises nothing but `ValueError`

`except ValueError` is a promise about everything under the `try`.  This file says for each
built-in on which values it keeps the promise: `int(x)` with and without a handler of its own,
`list(x)`, `dict(x)`, and a list comprehension, where an element counts only if the ones before it
were accepted (`EachReached`).

`bind_iff` is the rule: the rest of a sequence has to keep the promise only on what its first part
returns.
-/
import RaceLink.Python.Value

namespace Python

variable {α β : Type}

/-! ## 1. Sequences -/

/-- The expression returns. -/
def Accepts (x : Except PyErr α) : Prop := ∃ a, x = .ok a

/-- A sequence returns when its first part does, and its rest on whatever that returns. -/
theorem accepts_bind_iff {x : Except PyErr α} {f : α → Except PyErr β} {p : Prop}
    (h : ∀ a, Accepts (f a) ↔ p) : Accepts (x >>= f) ↔ Accepts x ∧ p := by
  constructor
  · rintro ⟨b, hb⟩
    obtain ⟨a, ha, hb⟩ := bind_eq_ok.mp hb
    exact ⟨⟨a, ha⟩, (h a).mp ⟨b, hb⟩⟩
  · rintro ⟨⟨a, ha⟩, hp⟩
    rw [ha]
    exact (h a).mpr hp

/-- Building a result adds nothing to it. -/
theorem accepts_map_iff {x : Except PyErr α} {g : α → β} :
    Accepts (x >>= fun a => .ok (g a)) ↔ Accepts x :=
  (accepts_bind_iff fun a => iff_of_true ⟨g a, rfl⟩ trivial).trans (and_iff_left trivial)

namespace OnlyValueError

theorem not_typeError : ¬ OnlyValueError (.error .typeError : Except PyErr α) := by
  intro h
  obtain ⟨_, ⟨⟩⟩ := h _ rfl

/-- A sequence keeps the promise when its first part does, and its rest does on what that
returns. -/
theorem bind_iff {x : Except PyErr α} {f : α → Except PyErr β} :
    OnlyValueError (x >>= f) ↔ OnlyValueError x ∧ ∀ a, x = .ok a → OnlyValueError (f a) := by
  constructor
  · intro h
    cases x with
    | ok a =>
      refine ⟨ok a, fun a' ha' => ?_⟩
      cases ha'
      exact h
    | error e => exact ⟨fun e' he' => h e' (by cases he'; rfl), fun a ha => nomatch ha⟩
  · rintro ⟨hx, hf⟩
    exact bind_of_ok hx hf

/-- What follows a check has to keep the promise only when the check passes. -/
theorem raiseIf_bind_iff {c : Prop} [Decidable c] {msg : Msg} {f : Unit → Except PyErr β} :
    OnlyValueError (Python.raiseIf c msg >>= f) ↔ (¬ c → OnlyValueError (f ())) := by
  rw [bind_iff]
  constructor
  · rintro ⟨-, hf⟩ hc
    exact hf () (raiseIf_of_not hc)
  · intro hf
    exact ⟨raiseIf c msg, fun _ hok => hf (raiseIf_eq_ok.mp hok)⟩

/-- Building a result raises nothing. -/
theorem bind_ok_iff {x : Except PyErr α} {g : α → β} :
    OnlyValueError (x >>= fun a => .ok (g a)) ↔ OnlyValueError x := by
  rw [bind_iff]
  exact and_iff_left fun a _ => ok (g a)

end OnlyValueError

/-! ## 2. `int(x)` -/

/-- The value is not an infinite number. -/
def NotInfinite (v : PyVal) : Prop := ∀ negative, v ≠ .float (.inf negative)

/-- The value is a number other than the infinite ones, or a string. -/
def IntReadable : PyVal → Prop
  | .bool _ | .int _ | .str _ => True
  | .float f => ∀ negative, f ≠ .inf negative
  | .null | .list _ | .dict _ => False

theorem onlyValueError_int_iff {v : PyVal} : OnlyValueError (int v) ↔ IntReadable v := by
  cases v with
  | bool b => exact iff_of_true (.ok _) trivial
  | int i => exact iff_of_true (.ok _) trivial
  | str s =>
    refine iff_of_true ?_ trivial
    rw [int]
    split
    · exact .ok _
    · exact .valueError _
  | float f =>
    cases f with
    | finite q => exact iff_of_true (.ok _) nofun
    | nan => exact iff_of_true (.valueError _) nofun
    | inf negative => exact iff_of_false (fun h => nomatch h _ rfl) fun h => h negative rfl
  | null => exact iff_of_false OnlyValueError.not_typeError id
  | list xs => exact iff_of_false OnlyValueError.not_typeError id
  | dict d => exact iff_of_false OnlyValueError.not_typeError id

/-- The exceptions of `int`. -/
theorem int_eq_error {v : PyVal} {e : PyErr} (h : int v = .error e) :
    e = .typeError ∨ (∃ msg, e = .valueError msg) ∨
      e = .overflowError ∧ ∃ negative, v = .float (.inf negative) := by
  cases v with
  | bool b => cases h
  | int i => cases h
  | str s =>
    obtain ⟨msg, rfl⟩ := onlyValueError_int_iff (v := .str s) |>.mpr trivial e h
    exact .inr (.inl ⟨msg, rfl⟩)
  | float f =>
    cases f with
    | finite q => cases h
    | nan => cases h; exact .inr (.inl ⟨_, rfl⟩)
    | inf negative => cases h; exact .inr (.inr ⟨rfl, negative, rfl⟩)
  | null => cases h; exact .inl rfl
  | list xs => cases h; exact .inl rfl
  | dict d => cases h; exact .inl rfl

/-- The handler of `except (TypeError, ValueError)` leaves one exception: an infinite number
overflows. -/
theorem onlyValueError_intCatch_iff {v : PyVal} {handler : Except PyErr Int}
    (hhandler : OnlyValueError handler) : OnlyValueError (intCatch v handler) ↔ NotInfinite v := by
  constructor
  · rintro h negative rfl
    exact nomatch h .overflowError rfl
  · intro h
    cases hv : int v with
    | ok i =>
      rw [intCatch, hv]
      exact .ok i
    | error e =>
      rcases int_eq_error hv with rfl | ⟨msg, rfl⟩ | ⟨rfl, negative, rfl⟩
      · rw [intCatch, hv]
        exact hhandler
      · rw [intCatch, hv]
        exact hhandler
      · exact absurd rfl (h negative)

/-- A handler that returns leaves one exception as well. -/
theorem accepts_intCatch_iff {v : PyVal} {default : Int} :
    Accepts (intCatch v (.ok default)) ↔ NotInfinite v := by
  rw [← onlyValueError_intCatch_iff (.ok default)]
  constructor
  · rintro ⟨i, hi⟩
    rw [hi]
    exact .ok i
  · intro h
    cases hv : int v with
    | ok i => exact ⟨i, by rw [intCatch, hv]⟩
    | error e =>
      rcases int_eq_error hv with rfl | ⟨msg, rfl⟩ | ⟨rfl, negative, rfl⟩
      · exact ⟨default, by rw [intCatch, hv]⟩
      · exact ⟨default, by rw [intCatch, hv]⟩
      · exact nomatch h .overflowError rfl

/-- A handler that raises adds no result. -/
theorem intCatch_error_eq_ok {v : PyVal} {e : PyErr} {i : Int} :
    intCatch v (.error e) = .ok i ↔ int v = .ok i := by
  constructor
  · exact int_of_intCatch_error
  · intro h
    rw [intCatch, h]

/-! ## 3. List comprehensions -/

/-- Every element that a comprehension over `f` comes to is safe: the ones before it were
accepted. -/
def EachReached (f : α → Except PyErr β) (safe : α → Prop) (xs : List α) : Prop :=
  ∀ before x after, xs = before ++ x :: after → (∀ y ∈ before, Accepts (f y)) → safe x

theorem eachReached_nil (f : α → Except PyErr β) (safe : α → Prop) : EachReached f safe [] := by
  intro before x after h
  simp at h

theorem eachReached_cons {f : α → Except PyErr β} {safe : α → Prop} {x : α} {xs : List α} :
    EachReached f safe (x :: xs) ↔ safe x ∧ (Accepts (f x) → EachReached f safe xs) := by
  constructor
  · intro h
    refine ⟨h [] x xs rfl (by simp), ?_⟩
    rintro hx before y after rfl hbefore
    exact h (x :: before) y after rfl (List.forall_mem_cons.mpr ⟨hx, hbefore⟩)
  · rintro ⟨hx, hxs⟩ before y after heq hbefore
    cases before with
    | nil =>
      obtain ⟨rfl, -⟩ := List.cons.inj heq
      exact hx
    | cons b before =>
      obtain ⟨rfl, rfl⟩ := List.cons.inj heq
      obtain ⟨hb, hbefore⟩ := List.forall_mem_cons.mp hbefore
      exact hxs hb before y after rfl hbefore

/-- **A comprehension keeps the promise** when every element it comes to does. -/
theorem onlyValueError_mapM_iff {f : α → Except PyErr β} {safe : α → Prop} {xs : List α}
    (h : ∀ x, OnlyValueError (f x) ↔ safe x) :
    OnlyValueError (xs.mapM f) ↔ EachReached f safe xs := by
  induction xs with
  | nil => exact iff_of_true (.ok []) (eachReached_nil f safe)
  | cons x xs ih =>
    rw [List.mapM_cons, OnlyValueError.bind_iff, eachReached_cons, h x]
    have hrest : ∀ y, OnlyValueError (xs.mapM f >>= fun ys => pure (y :: ys)) ↔
        EachReached f safe xs := fun y => OnlyValueError.bind_ok_iff.trans ih
    simp only [hrest, Accepts, forall_exists_index]

/-- A comprehension returns when every element is accepted. -/
theorem accepts_mapM_iff {f : α → Except PyErr β} {xs : List α} :
    Accepts (xs.mapM f) ↔ ∀ x ∈ xs, Accepts (f x) := by
  induction xs with
  | nil => exact iff_of_true ⟨[], rfl⟩ (by simp)
  | cons x xs ih =>
    rw [List.mapM_cons, List.forall_mem_cons, ← ih]
    simp only [Accepts, bind_eq_ok, pure_eq_ok, Except.ok.injEq]
    constructor
    · rintro ⟨_, y, hy, ys, hys, -⟩
      exact ⟨⟨y, hy⟩, ys, hys⟩
    · rintro ⟨⟨y, hy⟩, ys, hys⟩
      exact ⟨_, y, hy, ys, hys, rfl⟩

/-! ## 4. `list(x)` and `dict(x)` -/

/-- The value can be iterated over. -/
def Iterable (v : PyVal) : Prop := ∃ xs, v.iter? = some xs

theorem onlyValueError_listOf_iff {v : PyVal} : OnlyValueError (listOf v) ↔ Iterable v := by
  unfold listOf Iterable
  cases hv : v.iter? with
  | none => exact iff_of_false OnlyValueError.not_typeError (by simp)
  | some xs => exact iff_of_true (.ok _) ⟨xs, rfl⟩

/-- The key and the value that `dict` reads from one element. -/
def pairOf (x : PyVal) : Except PyErr (PyKey × PyVal) :=
  match x.iter? with
  | none => .error .typeError
  | some [k, v] =>
    match k.toKey? with
    | none => .error .typeError
    | some k => .ok (k, v)
  | some _ => .error (.valueError [.text "dictionary update sequence element has the wrong length"])

theorem pairsOf_eq_mapM (xs : List PyVal) : pairsOf xs = xs.mapM pairOf := by
  induction xs with
  | nil => rfl
  | cons x xs ih =>
    rw [List.mapM_cons, ← ih, pairsOf, pairOf]
    rcases hx : x.iter? with _ | (_ | ⟨k, _ | ⟨v, _ | ⟨_, _⟩⟩⟩)
    · rfl
    · rfl
    · rfl
    · simp only
      cases hk : k.toKey? with
      | none => rfl
      | some key => cases pairsOf xs <;> rfl
    · rfl

/-- The element can be iterated over, and if it has two items the first is hashable. -/
def PairReadable (x : PyVal) : Prop :=
  Iterable x ∧ ∀ k v, x.iter? = some [k, v] → ∃ key, k.toKey? = some key

theorem onlyValueError_pairOf_iff {x : PyVal} : OnlyValueError (pairOf x) ↔ PairReadable x := by
  unfold pairOf PairReadable Iterable
  split
  · next hx => exact iff_of_false OnlyValueError.not_typeError (by simp [hx])
  · next k v hx =>
    split
    · next hk =>
      refine iff_of_false OnlyValueError.not_typeError ?_
      rintro ⟨-, hkey⟩
      obtain ⟨key, hkey⟩ := hkey k v hx
      exact nomatch hk.symm.trans hkey
    · next key hk =>
      refine iff_of_true (.ok _) ⟨⟨_, hx⟩, fun k' v' h => ?_⟩
      cases hx.symm.trans h
      exact ⟨key, hk⟩
  · next xs hne hx =>
    refine iff_of_true (.valueError _) ⟨⟨_, hx⟩, fun k v h => ?_⟩
    exact absurd (Option.some.inj (hx.symm.trans h)) (hne k v)

/-- A dictionary, or something whose items are pairs as far as they are read. -/
def DictReadable : PyVal → Prop
  | .dict _ => True
  | v => ∃ xs, v.iter? = some xs ∧ EachReached pairOf PairReadable xs

theorem onlyValueError_dictOf_iff {v : PyVal} : OnlyValueError (dictOf v) ↔ DictReadable v := by
  have hread : ∀ v : PyVal,
      OnlyValueError (listOf v >>= fun xs => pairsOf xs >>= fun kvs => .ok (dictOfPairs kvs)) ↔
        ∃ xs, v.iter? = some xs ∧ EachReached pairOf PairReadable xs := by
    intro v
    have hpairs : ∀ xs, OnlyValueError (pairsOf xs >>= fun kvs => .ok (dictOfPairs kvs)) ↔
        EachReached pairOf PairReadable xs := by
      intro xs
      rw [OnlyValueError.bind_ok_iff, pairsOf_eq_mapM]
      exact onlyValueError_mapM_iff fun x => onlyValueError_pairOf_iff
    rw [OnlyValueError.bind_iff, onlyValueError_listOf_iff]
    simp only [hpairs, Iterable, listOf]
    cases v.iter? <;> simp
  cases v with
  | dict d => exact iff_of_true (.ok d) trivial
  | null => exact hread .null
  | bool b => exact hread (.bool b)
  | int i => exact hread (.int i)
  | float f => exact hread (.float f)
  | str s => exact hread (.str s)
  | list xs => exact hread (.list xs)

end Python
