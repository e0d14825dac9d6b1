/-
# Python values, as far as a validator of JSON documents sees them

A service that reads JSON and keeps what it read in dictionaries works on a small part of the
language: `None`, booleans, integers, floats, strings, lists and dictionaries, and the
built-ins that take one of them to another.  This file fixes that part.

* **Values** (`PyVal`).  A dictionary is an association list in insertion order.  Its keys are
  hashable scalars (`PyKey`): a decoded JSON document only has string keys, but `dict(pairs)`
  makes a dictionary with any scalar key, and such a dictionary can reach a JSON encoder.
* **Exceptions** (`PyErr`).  `except (TypeError, ValueError)` tells them apart by class, so the
  class is kept, and so is the message of an exception the program raises itself.
* **Built-ins.**  Truth testing, `int(x)`, `list(x)`, `dict(x)`, `str.strip`, `str.upper`,
  `str.lower`.
Strings are sequences of Unicode scalar values; lone surrogates are outside the model.
-/
import Mathlib.Data.Rat.Defs
import Mathlib.Data.List.Basic
import Mathlib.Data.List.Nodup
import Mathlib.Data.List.Forall2

namespace Python

/-! ## 1. Values and exceptions -/

/-- A float.  A finite double is its rational value; `int` and truth testing see no more. -/
inductive PyFloat where
  | finite (q : Rat)
  | inf (negative : Bool)
  | nan
  deriving DecidableEq

/-- The hashable scalars, which are the possible dictionary keys.  `null` is `None`. -/
inductive PyKey where
  | null
  | bool (b : Bool)
  | int (i : Int)
  | float (f : PyFloat)
  | str (s : String)
  deriving DecidableEq

/-- The values of a decoded JSON document, with dictionaries over any scalar key. -/
inductive PyVal where
  | null
  | bool (b : Bool)
  | int (i : Int)
  | float (f : PyFloat)
  | str (s : String)
  | list (xs : List PyVal)
  | dict (kvs : List (PyKey × PyVal))

/-- A dictionary: keys and values in insertion order. -/
abbrev Dict := List (PyKey × PyVal)

/-- A piece of an exception's message: literal text, or `{v!r}`. -/
inductive Frag where
  | text (s : String)
  | repr (v : PyVal)

/-- The message of an exception. -/
abbrev Msg := List Frag

/-- The exceptions, by class. -/
inductive PyErr where
  | valueError (msg : Msg)
  | typeError
  | overflowError
  | attributeError
  | runtimeError (msg : Msg)
  | osError
  | assertionError

/-- The scalar as a value. -/
def PyKey.toVal : PyKey → PyVal
  | .null => .null
  | .bool b => .bool b
  | .int i => .int i
  | .float f => .float f
  | .str s => .str s

/-- The value as a key; `none` when it is not hashable. -/
def PyVal.toKey? : PyVal → Option PyKey
  | .null => some .null
  | .bool b => some (.bool b)
  | .int i => some (.int i)
  | .float f => some (.float f)
  | .str s => some (.str s)
  | .list _ => none
  | .dict _ => none

/-- `bool(v)`. -/
def PyVal.truthy : PyVal → Bool
  | .null => false
  | .bool b => b
  | .int i => i != 0
  | .float (.finite q) => q != 0
  | .float _ => true
  | .str s => s != ""
  | .list xs => !xs.isEmpty
  | .dict kvs => !kvs.isEmpty

/-- `v or w`. -/
def PyVal.or (v w : PyVal) : PyVal := if v.truthy then v else w

/-- `v == n` for an integer `n`: numbers of every type compare by value. -/
def PyVal.eqInt (v : PyVal) (n : Int) : Bool :=
  match v with
  | .bool b => (if b then 1 else 0) == n
  | .int i => i == n
  | .float (.finite q) => q == (n : Rat)
  | _ => false

/-- `v == s` for a string `s`. -/
def PyVal.eqStr (v : PyVal) (s : String) : Bool :=
  match v with
  | .str t => t == s
  | _ => false

@[simp] theorem eqStr_str (t s : String) : (PyVal.str t).eqStr s = (t == s) := rfl

theorem eqStr_iff {v : PyVal} {s : String} : v.eqStr s = true ↔ v = .str s := by
  cases v <;> simp [PyVal.eqStr]

/-! ## 2. Strings -/

/-- `str.isspace` of one character. -/
def isSpace (c : Char) : Bool :=
  let n := c.toNat
  (0x9 ≤ n && n ≤ 0xd) || (0x1c ≤ n && n ≤ 0x20) || n == 0x85 || n == 0xa0 || n == 0x1680 ||
    (0x2000 ≤ n && n ≤ 0x200a) || n == 0x2028 || n == 0x2029 || n == 0x202f || n == 0x205f ||
    n == 0x3000

/-- `strip` on the characters, for the characters `p` accepts. -/
def stripChars (p : Char → Bool) (cs : List Char) : List Char :=
  ((cs.dropWhile p).reverse.dropWhile p).reverse

/-- `s.strip()`. -/
def strip (s : String) : String := String.ofList (stripChars isSpace s.toList)

/-- `c.upper()`, exact wherever the result is ASCII.  The other letters are left as they are:
their upper case never equals an ASCII letter. -/
def upperChar (c : Char) : List Char :=
  if 0x61 ≤ c.toNat ∧ c.toNat ≤ 0x7a then [Char.ofNat (c.toNat - 32)] else
  match c with
  | 'ß' => ['S', 'S']
  | 'ı' => ['I']
  | 'ſ' => ['S']
  | 'ﬀ' => ['F', 'F']
  | 'ﬁ' => ['F', 'I']
  | 'ﬂ' => ['F', 'L']
  | 'ﬃ' => ['F', 'F', 'I']
  | 'ﬄ' => ['F', 'F', 'L']
  | 'ﬅ' => ['S', 'T']
  | 'ﬆ' => ['S', 'T']
  | c => [c]

/-- `s.upper()`. -/
def upper (s : String) : String := String.ofList (s.toList.flatMap upperChar)

/-- Stripping removes nothing where the predicate holds of no character. -/
theorem stripChars_eq_self {p : Char → Bool} {cs : List Char} (h : ∀ c ∈ cs, p c = false) :
    stripChars p cs = cs := by
  have hdrop : ∀ l : List Char, (∀ c ∈ l, p c = false) → l.dropWhile p = l := by
    intro l hl
    cases l with
    | nil => rfl
    | cons c l => simp [hl c List.mem_cons_self]
  rw [stripChars, hdrop cs h, hdrop cs.reverse fun c hc => h c (List.mem_reverse.mp hc),
    List.reverse_reverse]

theorem strip_eq_self {s : String} (h : ∀ c ∈ s.toList, isSpace c = false) : strip s = s := by
  rw [strip, stripChars_eq_self h, String.ofList_toList]

theorem upper_eq_self {s : String} (h : ∀ c ∈ s.toList, upperChar c = [c]) : upper s = s := by
  have hmap : s.toList.flatMap upperChar = s.toList := by
    rw [List.flatMap_congr h, List.flatMap_singleton']
  rw [upper, hmap, String.ofList_toList]

/-- `c.lower()`, exact wherever the result has an ASCII letter. -/
def lowerChar (c : Char) : List Char :=
  if 0x41 ≤ c.toNat ∧ c.toNat ≤ 0x5a then [Char.ofNat (c.toNat + 32)] else
  if c.toNat = 0x130 then ['i', Char.ofNat 0x307] else
  if c.toNat = 0x212a then ['k'] else [c]

/-- `s.lower()`. -/
def lower (s : String) : String := String.ofList (s.toList.flatMap lowerChar)

/-! ## 3. `int(x)` -/

/-- Where Unicode's runs of ten decimal digits start. -/
def digitRuns : List Nat :=
  [0x30, 0x660, 0x6f0, 0x7c0, 0x966, 0x9e6, 0xa66, 0xae6, 0xb66, 0xbe6, 0xc66, 0xce6, 0xd66, 0xde6,
   0xe50, 0xed0, 0xf20, 0x1040, 0x1090, 0x17e0, 0x1810, 0x1946, 0x19d0, 0x1a80, 0x1a90, 0x1b50,
   0x1bb0, 0x1c40, 0x1c50, 0xa620, 0xa8d0, 0xa900, 0xa9d0, 0xa9f0, 0xaa50, 0xabf0, 0xff10, 0x104a0,
   0x10d30, 0x11066, 0x110f0, 0x11136, 0x111d0, 0x112f0, 0x11450, 0x114d0, 0x11650, 0x116c0,
   0x11730, 0x118e0, 0x11950, 0x11c50, 0x11d50, 0x11da0, 0x16a60, 0x16ac0, 0x16b50, 0x1d7ce,
   0x1d7d8, 0x1d7e2, 0x1d7ec, 0x1d7f6, 0x1e140, 0x1e2f0, 0x1e950, 0x1fbf0]

/-- The value of a decimal digit. -/
def digit? (c : Char) : Option Nat :=
  (digitRuns.find? fun z => z ≤ c.toNat && c.toNat ≤ z + 9).map (c.toNat - ·)

/-- The rest of a number after its first digit: digits, with single underscores between them. -/
def digitsFrom (acc : Nat) : List Char → Option Nat
  | [] => some acc
  | '_' :: c :: cs => (digit? c).bind fun d => digitsFrom (10 * acc + d) cs
  | c :: cs => (digit? c).bind fun d => digitsFrom (10 * acc + d) cs

/-- An unsigned decimal number. -/
def digits? : List Char → Option Nat
  | [] => none
  | c :: cs => (digit? c).bind fun d => digitsFrom d cs

/-- `int(s)` for a string: blanks around, an optional sign, a decimal number of at most 4300
digits (the interpreter's default limit). -/
def intOfStr? (s : String) : Option Int :=
  let cs := stripChars isSpace s.toList
  let number (cs : List Char) : Option Nat :=
    if (cs.filter (· != '_')).length ≤ 4300 then digits? cs else none
  match cs with
  | '-' :: cs => (number cs).map fun n => -(n : Int)
  | '+' :: cs => (number cs).map fun n => (n : Int)
  | cs => (number cs).map fun n => (n : Int)

/-- `int(v)`. -/
def int : PyVal → Except PyErr Int
  | .null => .error .typeError
  | .bool b => .ok (if b then 1 else 0)
  | .int i => .ok i
  | .float (.finite q) => .ok (q.num.tdiv q.den)
  | .float (.inf _) => .error .overflowError
  | .float .nan => .error (.valueError [.text "cannot convert float NaN to integer"])
  | .str s =>
    match intOfStr? s with
    | some i => .ok i
    | none =>
      .error (.valueError [.text "invalid literal for int() with base 10: ", .repr (.str s)])
  | .list _ => .error .typeError
  | .dict _ => .error .typeError

@[simp] theorem int_int (i : Int) : int (.int i) = .ok i := rfl

/-- `try: int(v)` / `except (TypeError, ValueError): h`. -/
def intCatch (v : PyVal) (h : Except PyErr Int) : Except PyErr Int :=
  match int v with
  | .error .typeError => h
  | .error (.valueError _) => h
  | r => r

@[simp] theorem intCatch_int (i : Int) (h : Except PyErr Int) : intCatch (.int i) h = .ok i := rfl

theorem int_of_intCatch_error {v : PyVal} {e : PyErr} {i : Int}
    (h : intCatch v (.error e) = .ok i) : int v = .ok i := by
  unfold intCatch at h
  split at h
  · cases h
  · cases h
  · exact h

/-! ## 4. Dictionaries -/

namespace Dict

/-- The entry under a string key. -/
def find? (d : Dict) (k : String) : Option PyVal := List.lookup (.str k) d

/-- `d.get(k)`. -/
def get (d : Dict) (k : String) : PyVal := (d.find? k).getD .null

/-- `d.get(k, default)`. -/
def getD (d : Dict) (k : String) (default : PyVal) : PyVal := (d.find? k).getD default

/-- `k in d`. -/
def contains (d : Dict) (k : String) : Bool := (d.find? k).isSome

/-- `d.pop(k, None)`, without its result. -/
def erase (d : Dict) (k : String) : Dict := d.filter fun e => e.1 != .str k

end Dict

namespace Dict

@[simp] theorem find?_nil (k : String) : find? [] k = none := rfl

@[simp] theorem find?_cons_str (k' : String) (v : PyVal) (d : Dict) (k : String) :
    find? ((.str k', v) :: d) k = if k' = k then some v else find? d k := by
  unfold find?
  rw [List.lookup_cons]
  by_cases h : k' = k
  · simp [h]
  · have hb : (PyKey.str k == PyKey.str k') = false := by simpa using fun e : k = k' => h e.symm
    simp [h, hb]

end Dict

/-- The class of keys a key is equal to: numbers of every type compare by value. -/
def PyKey.norm : PyKey → PyKey
  | .bool b => .float (.finite (if b then 1 else 0))
  | .int i => .float (.finite i)
  | k => k

/-- `d[k] = v`: an equal key keeps its place and its spelling. -/
def Dict.set : Dict → PyKey → PyVal → Dict
  | [], k, v => [(k, v)]
  | (k', v') :: rest, k, v =>
    if k'.norm = k.norm then (k', v) :: rest else (k', v') :: Dict.set rest k v

namespace Dict

/-- What `get` finds is there, unless it is `None`. -/
theorem find?_of_get {d : Dict} {k : String} {v : PyVal} (h : d.get k = v) (hv : v ≠ .null) :
    d.find? k = some v := by
  unfold get at h
  cases hfind : d.find? k with
  | none => exact absurd (by rw [← h, hfind]; rfl) hv
  | some v' =>
    rw [hfind] at h
    exact congrArg some h

theorem find?_set_of_ne {k k' : String} (h : k ≠ k') (v : PyVal) : ∀ d : Dict,
    find? (d.set (.str k) v) k' = find? d k'
  | [] => by simp [set, h]
  | (k₀, v₀) :: d => by
    have hne : (PyKey.str k' == PyKey.str k) = false := by simpa using h.symm
    unfold set
    split
    · next hnorm =>
      have hk₀ : k₀ = .str k := by cases k₀ <;> simp_all [PyKey.norm]
      subst hk₀
      simp [find?, List.lookup_cons, hne]
    · have ih := find?_set_of_ne h v d
      unfold find? at ih ⊢
      rw [List.lookup_cons, List.lookup_cons, ih]

theorem find?_set_self (k : String) (v : PyVal) (d : Dict) :
    find? (d.set (.str k) v) k = some v := by
  induction d with
  | nil => simp [set]
  | cons e d ih =>
    obtain ⟨k₀, v₀⟩ := e
    unfold set
    split
    · next hnorm =>
      have hk₀ : k₀ = .str k := by cases k₀ <;> simp_all [PyKey.norm]
      simp [hk₀]
    · next hnorm =>
      have hne : (PyKey.str k == k₀) = false := by
        simpa using fun h : PyKey.str k = k₀ => hnorm (by rw [h])
      unfold find? at ih ⊢
      rw [List.lookup_cons, hne, ih]

theorem find?_erase_self (k : String) (d : Dict) : find? (erase d k) k = none := by
  unfold find? erase
  rw [List.lookup_eq_none_iff]
  intro e he
  have hne : e.1 ≠ .str k := by simpa using (List.mem_filter.mp he).2
  simpa using hne.symm

theorem find?_erase_of_ne {k k' : String} (h : k ≠ k') : ∀ d : Dict,
    find? (erase d k) k' = find? d k'
  | [] => rfl
  | (k₀, v₀) :: d => by
    have ih := find?_erase_of_ne h d
    unfold find? erase at ih ⊢
    rw [List.filter_cons]
    split
    · rw [List.lookup_cons, List.lookup_cons, ih]
    · next hk₀ =>
      have hk₀ : k₀ = .str k := by simpa using hk₀
      subst hk₀
      have hne : (PyKey.str k' == PyKey.str k) = false := by simpa using h.symm
      rw [List.lookup_cons, hne, ih]

/-- Edits that leave an entry alone leave it alone one after another. -/
theorem find?_foldl {α : Type} {edit : Dict → α → Dict} {k : String} {xs : List α}
    (h : ∀ d, ∀ x ∈ xs, find? (edit d x) k = find? d k) (d : Dict) :
    find? (xs.foldl edit d) k = find? d k := by
  induction xs generalizing d with
  | nil => rfl
  | cons x xs ih =>
    have hrest : ∀ d, ∀ y ∈ xs, find? (edit d y) k = find? d k := fun d y hy =>
      h d y (List.mem_cons_of_mem x hy)
    rw [List.foldl_cons, ih hrest, h d x List.mem_cons_self]

end Dict

/-- The dictionary made by setting each pair in turn. -/
def dictOfPairs (kvs : List (PyKey × PyVal)) : Dict :=
  kvs.foldl (fun d kv => d.set kv.1 kv.2) []

/-- What iterating over a value yields; `none` when it is not iterable. -/
def PyVal.iter? : PyVal → Option (List PyVal)
  | .str s => some (s.toList.map fun c => .str (String.singleton c))
  | .list xs => some xs
  | .dict kvs => some (kvs.map fun kv => kv.1.toVal)
  | _ => none

/-- `list(v)`. -/
def listOf (v : PyVal) : Except PyErr (List PyVal) :=
  match v.iter? with
  | some xs => .ok xs
  | none => .error .typeError

/-- The key and value pairs `dict(xs)` reads from an iterable that is not a dictionary. -/
def pairsOf : List PyVal → Except PyErr (List (PyKey × PyVal))
  | [] => .ok []
  | x :: xs =>
    match x.iter? with
    | none => .error .typeError
    | some [k, v] =>
      match k.toKey? with
      | none => .error .typeError
      | some k => (pairsOf xs).map ((k, v) :: ·)
    | some _ =>
      .error (.valueError [.text "dictionary update sequence element has the wrong length"])

/-- `dict(v)`. -/
def dictOf : PyVal → Except PyErr Dict
  | .dict kvs => .ok kvs
  | v => do
    let xs ← listOf v
    let kvs ← pairsOf xs
    pure (dictOfPairs kvs)

@[simp] theorem dictOf_dict (d : Dict) : dictOf (.dict d) = .ok d := rfl

/-! ## 5. Raising -/

/-- `if c: raise ValueError(msg)`. -/
def raiseIf (c : Prop) [Decidable c] (msg : Msg) : Except PyErr Unit :=
  if c then .error (.valueError msg) else .ok ()

@[simp] theorem raiseIf_eq_ok {c : Prop} [Decidable c] {msg : Msg} {u : Unit} :
    raiseIf c msg = .ok u ↔ ¬ c := by
  by_cases h : c <;> simp [raiseIf, h]

theorem raiseIf_of_not {c : Prop} [Decidable c] {msg : Msg} (h : ¬ c) :
    raiseIf c msg = .ok () := if_neg h

/-- A sequence returns exactly when both of its parts do. -/
theorem bind_eq_ok {ε α β : Type} {x : Except ε α} {f : α → Except ε β} {b : β} :
    (x >>= f) = .ok b ↔ ∃ a, x = .ok a ∧ f a = .ok b := by
  cases x with
  | error e => simp [bind, Except.bind]
  | ok a => simp [bind, Except.bind]

@[simp] theorem ok_bind {ε α β : Type} (a : α) (f : α → Except ε β) :
    (Except.ok a >>= f) = f a := rfl

@[simp] theorem pure_eq_ok {ε α : Type} (a : α) : (pure a : Except ε α) = .ok a := rfl

/-- A computed value is one that is returned. -/
theorem eq_ok_of_toOption {ε α : Type} {x : Except ε α} {a : α} (h : x.toOption = some a) :
    x = .ok a := by
  cases x with
  | error e => cases h
  | ok b => exact congrArg Except.ok (Option.some.inj h)

@[simp] theorem error_bind {ε α β : Type} (e : ε) (f : α → Except ε β) :
    (Except.error e >>= f) = .error e := rfl

/-- A list comprehension returns exactly when every element does, and then element by element. -/
theorem mapM_eq_ok {ε α β : Type} {f : α → Except ε β} {xs : List α} {ys : List β} :
    xs.mapM f = .ok ys ↔ List.Forall₂ (fun x y => f x = .ok y) xs ys := by
  induction xs generalizing ys with
  | nil =>
    cases ys with
    | nil => simp [pure, Except.pure]
    | cons y ys => simp [pure, Except.pure]
  | cons x xs ih =>
    simp only [List.mapM_cons, bind_eq_ok, pure, Except.pure, Except.ok.injEq]
    constructor
    · rintro ⟨y, hy, ys', hys', rfl⟩
      exact .cons hy (ih.mp hys')
    · rintro (_ | ⟨hy, hys⟩)
      exact ⟨_, hy, _, ih.mpr hys, rfl⟩

/-- A list comprehension over written elements returns exactly when every element is accepted,
and then what each is read as. -/
theorem mapM_map_eq_ok {ε α β γ : Type} {f : α → Except ε β} {g : γ → α} {P : γ → Prop}
    {r : γ → β} (h : ∀ x y, f (g x) = .ok y ↔ P x ∧ y = r x) {xs : List γ} {ys : List β} :
    (xs.map g).mapM f = .ok ys ↔ (∀ x ∈ xs, P x) ∧ ys = xs.map r := by
  induction xs generalizing ys with
  | nil =>
    simp only [List.map_nil, List.mapM_nil, pure_eq_ok, Except.ok.injEq]
    exact ⟨fun hys => ⟨by simp, hys.symm⟩, fun hys => hys.2.symm⟩
  | cons x xs ih =>
    simp only [List.map_cons, List.mapM_cons, bind_eq_ok, h, ih, pure_eq_ok, Except.ok.injEq,
      List.forall_mem_cons]
    constructor
    · rintro ⟨_, ⟨hx, rfl⟩, _, ⟨hxs, rfl⟩, rfl⟩
      exact ⟨⟨hx, hxs⟩, rfl⟩
    · rintro ⟨⟨hx, hxs⟩, rfl⟩
      exact ⟨_, ⟨hx, rfl⟩, _, ⟨hxs, rfl⟩, rfl⟩

/-- What a list comprehension returns at an index comes from its input there. -/
theorem getElem?_of_mapM {ε α β : Type} {f : α → Except ε β} {xs : List α} {ys : List β}
    (h : xs.mapM f = .ok ys) {k : Nat} {y : β} (hk : ys[k]? = some y) :
    ∃ x, xs[k]? = some x ∧ f x = .ok y := by
  have hall := mapM_eq_ok.mp h
  clear h
  induction hall generalizing k with
  | nil => cases hk
  | cons hxy _ ih =>
    cases k with
    | zero =>
      cases hk
      exact ⟨_, rfl, hxy⟩
    | succ k => exact ih hk

/-- What a list comprehension returns comes from its input. -/
theorem exists_of_mem_mapM {ε α β : Type} {f : α → Except ε β} {xs : List α} {ys : List β}
    (h : xs.mapM f = .ok ys) {y : β} (hy : y ∈ ys) : ∃ x ∈ xs, f x = .ok y := by
  obtain ⟨k, hk⟩ := List.mem_iff_getElem?.mp hy
  obtain ⟨x, hx, hfx⟩ := getElem?_of_mapM h hk
  exact ⟨x, List.mem_of_getElem? hx, hfx⟩

/-- What a list comprehension reads is in its result. -/
theorem exists_mem_of_mapM {ε α β : Type} {f : α → Except ε β} {xs : List α} {ys : List β}
    (h : xs.mapM f = .ok ys) {x : α} (hx : x ∈ xs) : ∃ y ∈ ys, f x = .ok y := by
  have hall := mapM_eq_ok.mp h
  clear h
  induction hall with
  | nil => simp at hx
  | cons hxy _ ih =>
    rcases List.mem_cons.mp hx with rfl | hx
    · exact ⟨_, List.mem_cons_self, hxy⟩
    · obtain ⟨y, hy, hfx⟩ := ih hx
      exact ⟨y, List.mem_cons_of_mem _ hy, hfx⟩

/-- A list comprehension returns where every element does. -/
theorem mapM_of_forall {ε α β : Type} {f : α → Except ε β} {xs : List α}
    (h : ∀ x ∈ xs, ∃ y, f x = .ok y) : ∃ ys, xs.mapM f = .ok ys := by
  induction xs with
  | nil => exact ⟨[], rfl⟩
  | cons x xs ih =>
    obtain ⟨⟨y, hy⟩, hxs⟩ := List.forall_mem_cons.mp h
    obtain ⟨ys, hys⟩ := ih hxs
    exact ⟨y :: ys, by rw [List.mapM_cons, hy, ok_bind, hys]; rfl⟩

/-- Mapping changes nothing exactly when it changes no element. -/
theorem map_eq_self_iff {α : Type} {f : α → α} {xs : List α} :
    xs.map f = xs ↔ ∀ x ∈ xs, f x = x := by
  constructor
  · intro h x hx
    exact List.map_inj_left.mp (h.trans (List.map_id' xs).symm) x hx
  · intro h
    exact (List.map_congr_left h).trans (List.map_id' xs)

/-- Weakening a pairing, with the membership of the left elements at hand. -/
theorem forall₂_imp_mem {α β : Type} {R S : α → β → Prop} : ∀ {xs : List α} {ys : List β},
    (∀ x ∈ xs, ∀ y, R x y → S x y) → List.Forall₂ R xs ys → List.Forall₂ S xs ys
  | [], _, _, .nil => .nil
  | x :: _, _, h, .cons hxy hrest =>
    .cons (h x List.mem_cons_self _ hxy)
      (forall₂_imp_mem (fun x' hx' => h x' (List.mem_cons_of_mem _ hx')) hrest)

theorem length_of_mapM {ε α β : Type} {f : α → Except ε β} {xs : List α} {ys : List β}
    (h : xs.mapM f = .ok ys) : ys.length = xs.length :=
  (mapM_eq_ok.mp h).length_eq.symm

/-! ## 6. Raising nothing but `ValueError` -/

/-- If the expression raises, it raises a `ValueError`. -/
def OnlyValueError {α : Type} (x : Except PyErr α) : Prop :=
  ∀ e, x = .error e → ∃ msg, e = .valueError msg

namespace OnlyValueError

variable {α β : Type}

theorem ok (a : α) : OnlyValueError (.ok a) := fun _ h => nomatch h

theorem valueError (msg : Msg) : OnlyValueError (.error (.valueError msg) : Except PyErr α) := by
  rintro e ⟨⟩
  exact ⟨msg, rfl⟩

theorem not_attributeError : ¬ OnlyValueError (.error .attributeError : Except PyErr α) := by
  intro h
  obtain ⟨_, ⟨⟩⟩ := h _ rfl

theorem raiseIf (c : Prop) [Decidable c] (msg : Msg) : OnlyValueError (raiseIf c msg) := by
  unfold Python.raiseIf
  by_cases hc : c
  · rw [if_pos hc]
    exact valueError msg
  · rw [if_neg hc]
    exact ok ()

theorem bind_of_ok {x : Except PyErr α} {f : α → Except PyErr β} (hx : OnlyValueError x)
    (hf : ∀ a, x = .ok a → OnlyValueError (f a)) : OnlyValueError (x >>= f) := by
  cases x with
  | ok a => exact hf a rfl
  | error e =>
    rintro _ ⟨⟩
    exact hx e rfl

theorem bind {x : Except PyErr α} {f : α → Except PyErr β} (hx : OnlyValueError x)
    (hf : ∀ a, OnlyValueError (f a)) : OnlyValueError (x >>= f) :=
  bind_of_ok hx fun a _ => hf a

theorem mapM {f : α → Except PyErr β} : ∀ {xs : List α},
    (∀ x ∈ xs, OnlyValueError (f x)) → OnlyValueError (xs.mapM f)
  | [], _ => ok []
  | x :: xs, h => by
    rw [List.mapM_cons]
    refine bind (h x List.mem_cons_self) fun y => ?_
    exact bind (mapM fun x' hx' => h x' (List.mem_cons_of_mem _ hx')) fun ys => ok (y :: ys)

end OnlyValueError

end Python
