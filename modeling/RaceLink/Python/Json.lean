/-
# Writing a value as JSON and reading it back

`jsonRoundTrip` is `json.loads(json.dumps(v))`.  Every key becomes text, and two keys with one
text become one entry that holds the last value.  So the round trip is not the identity on
values in general, and this file says exactly when it is: on a value whose dictionaries have
pairwise distinct string keys (`isJson`, `jsonRoundTrip_eq_self_iff`), which is also what the
round trip of any value has.

How a float key is spelled is a parameter, `floatText`: nothing here depends on it.
-/
import RaceLink.Python.Value

namespace Python

/-! ## 1. The round trip -/

/-- The text of a dictionary key in a JSON document. -/
def PyKey.jsonText (floatText : PyFloat → String) : PyKey → String
  | .null => "null"
  | .bool b => if b then "true" else "false"
  | .int i => toString i
  | .float f => floatText f
  | .str s => s

/-- `json.loads(json.dumps(v))`. -/
def jsonRoundTrip (floatText : PyFloat → String) : PyVal → PyVal
  | .list xs => .list (items xs)
  | .dict kvs => .dict (dictOfPairs (entries kvs))
  | .null => .null
  | .bool b => .bool b
  | .int i => .int i
  | .float f => .float f
  | .str s => .str s
where
  /-- The elements of a list, each written and read. -/
  items : List PyVal → List PyVal
    | [] => []
    | x :: xs => jsonRoundTrip floatText x :: items xs
  /-- The entries of a dictionary in the order of the text. -/
  entries : List (PyKey × PyVal) → List (PyKey × PyVal)
    | [] => []
    | (k, v) :: kvs => (.str (k.jsonText floatText), jsonRoundTrip floatText v) :: entries kvs

/-- The round trip of a dictionary, as a dictionary. -/
def Dict.jsonRoundTrip (floatText : PyFloat → String) (d : Dict) : Dict :=
  dictOfPairs (Python.jsonRoundTrip.entries floatText d)

theorem jsonRoundTrip_dict (floatText : PyFloat → String) (d : Dict) :
    jsonRoundTrip floatText (.dict d) = .dict (d.jsonRoundTrip floatText) := rfl

theorem jsonRoundTrip_list (floatText : PyFloat → String) (xs : List PyVal) :
    jsonRoundTrip floatText (.list xs) = .list (xs.map (jsonRoundTrip floatText)) := by
  have hitems : ∀ xs, jsonRoundTrip.items floatText xs = xs.map (jsonRoundTrip floatText) := by
    intro xs
    induction xs with
    | nil => rfl
    | cons x xs ih => rw [jsonRoundTrip.items, ih, List.map_cons]
  rw [jsonRoundTrip, hitems]

/-! ## 2. JSON values -/

/-- The key is a string. -/
def PyKey.isStr : PyKey → Bool
  | .str _ => true
  | _ => false

/-- A decoded JSON document: every dictionary has pairwise distinct string keys. -/
def isJson : PyVal → Bool
  | .list xs => items xs
  | .dict kvs => kvs.all (·.1.isStr) && decide (kvs.map (·.1)).Nodup && entries kvs
  | _ => true
where
  /-- Every element is JSON. -/
  items : List PyVal → Bool
    | [] => true
    | x :: xs => isJson x && items xs
  /-- Every value is JSON. -/
  entries : List (PyKey × PyVal) → Bool
    | [] => true
    | (_, v) :: kvs => isJson v && entries kvs

theorem isJson_items_iff (xs : List PyVal) :
    isJson.items xs = true ↔ ∀ x ∈ xs, isJson x = true := by
  induction xs with
  | nil => simp [isJson.items]
  | cons x xs ih => simp [isJson.items, ih]

theorem isJson_entries_iff (kvs : List (PyKey × PyVal)) :
    isJson.entries kvs = true ↔ ∀ e ∈ kvs, isJson e.2 = true := by
  induction kvs with
  | nil => simp [isJson.entries]
  | cons e kvs ih => obtain ⟨k, v⟩ := e; simp [isJson.entries, ih]

theorem isJson_list (xs : List PyVal) :
    isJson (.list xs) = true ↔ ∀ x ∈ xs, isJson x = true := by
  rw [isJson, isJson_items_iff]

theorem isJson_dict (d : Dict) :
    isJson (.dict d) = true ↔
      (∀ e ∈ d, e.1.isStr = true) ∧ (d.map (·.1)).Nodup ∧ ∀ e ∈ d, isJson e.2 = true := by
  simp [isJson, isJson_entries_iff, and_assoc]

/-- What stands in a document is one. -/
theorem isJson_get {d : Dict} (h : isJson (.dict d) = true) (k : String) :
    isJson (Dict.get d k) = true := by
  obtain ⟨-, -, hvals⟩ := (isJson_dict d).mp h
  rw [Dict.get, Dict.find?]
  cases hfind : List.lookup (PyKey.str k) d with
  | none => rfl
  | some v =>
    obtain ⟨l₁, l₂, hd, -⟩ := List.lookup_eq_some_iff.mp hfind
    exact hvals (.str k, v) (by rw [hd]; simp)

theorem isJson_or {v w : PyVal} (hv : isJson v = true) (hw : isJson w = true) :
    isJson (v.or w) = true := by
  rw [PyVal.or]
  split
  · exact hv
  · exact hw

/-! ## 3. Building a dictionary from pairs -/

/-- Setting a key that equals no key of the dictionary appends. -/
theorem set_of_fresh {d : Dict} {k : PyKey} (v : PyVal) (h : ∀ e ∈ d, e.1.norm ≠ k.norm) :
    d.set k v = d ++ [(k, v)] := by
  induction d with
  | nil => rfl
  | cons e d ih =>
    obtain ⟨k', v'⟩ := e
    have hk : k'.norm ≠ k.norm := h (k', v') List.mem_cons_self
    simp only [Dict.set, if_neg hk, List.cons_append]
    rw [ih fun e he => h e (List.mem_cons_of_mem _ he)]

theorem foldl_set_of_fresh : ∀ (kvs d : Dict),
    ((d ++ kvs).map (·.1.norm)).Nodup → kvs.foldl (fun d kv => d.set kv.1 kv.2) d = d ++ kvs
  | [], d, _ => by simp
  | (k, v) :: kvs, d, h => by
    have hfresh : ∀ e ∈ d, e.1.norm ≠ k.norm := by
      intro e he heq
      simp only [List.map_append, List.map_cons, List.nodup_append, List.mem_map] at h
      exact h.2.2 e.1.norm ⟨e, he, rfl⟩ k.norm List.mem_cons_self heq
    simp only [List.foldl_cons, set_of_fresh v hfresh]
    rw [foldl_set_of_fresh kvs (d ++ [(k, v)]) (by simpa using h)]
    simp

/-- Pairs with pairwise different keys are the dictionary they make. -/
theorem dictOfPairs_eq_self {kvs : Dict} (h : (kvs.map (·.1.norm)).Nodup) :
    dictOfPairs kvs = kvs := by
  simpa [dictOfPairs] using foldl_set_of_fresh kvs [] (by simpa using h)

theorem mem_set {d : Dict} {k : PyKey} {v : PyVal} {e : PyKey × PyVal} (he : e ∈ d.set k v) :
    e ∈ d ∨ (e.2 = v ∧ (e.1 = k ∨ e.1 ∈ d.map (·.1))) := by
  induction d with
  | nil => simp only [Dict.set, List.mem_singleton] at he; simp [he]
  | cons x d ih =>
    obtain ⟨k', v'⟩ := x
    unfold Dict.set at he
    split at he
    · rcases List.mem_cons.mp he with rfl | he
      · exact Or.inr ⟨rfl, Or.inr (by simp)⟩
      · exact Or.inl (List.mem_cons_of_mem _ he)
    · rcases List.mem_cons.mp he with rfl | he
      · exact Or.inl List.mem_cons_self
      · rcases ih he with h | ⟨hv, h | h⟩
        · exact Or.inl (List.mem_cons_of_mem _ h)
        · exact Or.inr ⟨hv, Or.inl h⟩
        · exact Or.inr ⟨hv, Or.inr (List.mem_cons_of_mem _ h)⟩

/-- The keys of a dictionary after a write: the old ones, and the new one if it was not there. -/
theorem map_norm_set (d : Dict) (k : PyKey) (v : PyVal) :
    (d.set k v).map (·.1.norm) =
      if k.norm ∈ d.map (·.1.norm) then d.map (·.1.norm) else d.map (·.1.norm) ++ [k.norm] := by
  induction d with
  | nil => simp [Dict.set]
  | cons x d ih =>
    obtain ⟨k', v'⟩ := x
    unfold Dict.set
    split
    · rename_i h; simp [h]
    · rename_i h
      have h' : ¬ k.norm = k'.norm := fun e => h e.symm
      simp only [List.map_cons, ih, List.mem_cons, h', false_or]
      split <;> simp

theorem nodup_set {d : Dict} (h : (d.map (·.1.norm)).Nodup) (k : PyKey) (v : PyVal) :
    ((d.set k v).map (·.1.norm)).Nodup := by
  rw [map_norm_set]
  split
  · exact h
  · rename_i hk
    simp only [List.nodup_append, List.mem_singleton]
    exact ⟨h, List.nodup_singleton _, by rintro a ha b rfl rfl; exact hk ha⟩

/-- The keys of a built dictionary are pairwise different. -/
theorem nodup_dictOfPairs (kvs : Dict) : ((dictOfPairs kvs).map (·.1.norm)).Nodup := by
  suffices h : ∀ (kvs d : Dict), (d.map (·.1.norm)).Nodup →
      ((kvs.foldl (fun d kv => d.set kv.1 kv.2) d).map (·.1.norm)).Nodup by
    exact h kvs [] List.nodup_nil
  intro kvs
  induction kvs with
  | nil => exact fun d hd => hd
  | cons e kvs ih => exact fun d hd => ih _ (nodup_set hd e.1 e.2)

/-- What holds of every pair's key and of every pair's value holds of every entry. -/
theorem forall_mem_dictOfPairs {P : PyKey → Prop} {Q : PyVal → Prop} {kvs : Dict}
    (h : ∀ e ∈ kvs, P e.1 ∧ Q e.2) : ∀ e ∈ dictOfPairs kvs, P e.1 ∧ Q e.2 := by
  suffices hs : ∀ (kvs d : Dict), (∀ e ∈ kvs, P e.1 ∧ Q e.2) → (∀ e ∈ d, P e.1 ∧ Q e.2) →
      ∀ e ∈ kvs.foldl (fun d kv => d.set kv.1 kv.2) d, P e.1 ∧ Q e.2 by
    exact hs kvs [] h (by simp)
  intro kvs
  induction kvs with
  | nil => exact fun d _ hd => hd
  | cons x kvs ih =>
    intro d hkvs hd
    refine ih _ (fun e he => hkvs e (List.mem_cons_of_mem _ he)) ?_
    intro e he
    have hx := hkvs x List.mem_cons_self
    rcases mem_set he with h | ⟨hv, hk | hk⟩
    · exact hd e h
    · exact ⟨hk ▸ hx.1, hv ▸ hx.2⟩
    · obtain ⟨e', he', hk'⟩ := List.mem_map.mp hk
      exact ⟨hk' ▸ (hd e' he').1, hv ▸ hx.2⟩

/-! ## 4. When the round trip changes nothing -/

theorem norm_of_isStr {k : PyKey} (h : k.isStr = true) : k.norm = k := by
  cases k <;> simp_all [PyKey.isStr, PyKey.norm]

/-- On string keys, different as keys is different. -/
theorem nodup_norm_iff {d : Dict} (h : ∀ e ∈ d, e.1.isStr = true) :
    (d.map (·.1.norm)).Nodup ↔ (d.map (·.1)).Nodup := by
  have : d.map (·.1.norm) = d.map (·.1) := List.map_congr_left fun e he => norm_of_isStr (h e he)
  rw [this]

variable (floatText : PyFloat → String)

mutual

/-- **A JSON value survives the round trip.** -/
theorem jsonRoundTrip_eq_self : ∀ v, isJson v = true → jsonRoundTrip floatText v = v
  | .null, _ => rfl
  | .bool _, _ => rfl
  | .int _, _ => rfl
  | .float _, _ => rfl
  | .str _, _ => rfl
  | .list xs, h => by
    rw [jsonRoundTrip, items_eq_self xs (by simpa [isJson] using h)]
  | .dict kvs, h => by
    obtain ⟨hstr, hnd, _⟩ := (isJson_dict kvs).mp h
    have hent : isJson.entries kvs = true := by
      simp only [isJson, Bool.and_eq_true] at h
      exact h.2
    rw [jsonRoundTrip, entries_eq_self kvs hent hstr,
      dictOfPairs_eq_self ((nodup_norm_iff hstr).mpr hnd)]

theorem items_eq_self : ∀ xs, isJson.items xs = true → jsonRoundTrip.items floatText xs = xs
  | [], _ => rfl
  | x :: xs, h => by
    simp only [isJson.items, Bool.and_eq_true] at h
    rw [jsonRoundTrip.items, jsonRoundTrip_eq_self x h.1, items_eq_self xs h.2]

theorem entries_eq_self : ∀ kvs, isJson.entries kvs = true →
    (∀ e ∈ kvs, e.1.isStr = true) → jsonRoundTrip.entries floatText kvs = kvs
  | [], _, _ => rfl
  | (k, v) :: kvs, h, hstr => by
    simp only [isJson.entries, Bool.and_eq_true] at h
    have hk : k.isStr = true := hstr (k, v) List.mem_cons_self
    rw [jsonRoundTrip.entries, jsonRoundTrip_eq_self v h.1,
      entries_eq_self kvs h.2 fun e he => hstr e (List.mem_cons_of_mem _ he)]
    cases k <;> simp_all [PyKey.isStr, PyKey.jsonText]

end

theorem isStr_of_mem_entries : ∀ {kvs : Dict} {e : PyKey × PyVal},
    e ∈ jsonRoundTrip.entries floatText kvs → e.1.isStr = true
  | (k, v) :: kvs, e, he => by
    simp only [jsonRoundTrip.entries, List.mem_cons] at he
    rcases he with rfl | he
    · rfl
    · exact isStr_of_mem_entries he

/-- The round trip of a dictionary is JSON as soon as its written values are. -/
theorem isJson_dictOfPairs_entries {kvs : Dict}
    (h : ∀ e ∈ jsonRoundTrip.entries floatText kvs, isJson e.2 = true) :
    isJson (.dict (dictOfPairs (jsonRoundTrip.entries floatText kvs))) = true := by
  have hall := forall_mem_dictOfPairs (P := (·.isStr = true)) (Q := (isJson · = true))
    fun e he => ⟨isStr_of_mem_entries floatText he, h e he⟩
  have hnd := (nodup_norm_iff fun e he => (hall e he).1).mp (nodup_dictOfPairs _)
  exact (isJson_dict _).mpr ⟨fun e he => (hall e he).1, hnd, fun e he => (hall e he).2⟩

mutual

/-- **The round trip of any value is JSON.** -/
theorem isJson_jsonRoundTrip : ∀ v, isJson (jsonRoundTrip floatText v) = true
  | .null => rfl
  | .bool _ => rfl
  | .int _ => rfl
  | .float _ => rfl
  | .str _ => rfl
  | .list xs => by
    rw [jsonRoundTrip, isJson_list]
    exact isJson_of_mem_items xs
  | .dict kvs => by
    rw [jsonRoundTrip]
    exact isJson_dictOfPairs_entries floatText (isJson_of_mem_entries kvs)

theorem isJson_of_mem_items : ∀ xs, ∀ y ∈ jsonRoundTrip.items floatText xs, isJson y = true
  | [], y, hy => by simp [jsonRoundTrip.items] at hy
  | x :: xs, y, hy => by
    rw [jsonRoundTrip.items, List.mem_cons] at hy
    rcases hy with rfl | hy
    · exact isJson_jsonRoundTrip x
    · exact isJson_of_mem_items xs y hy

theorem isJson_of_mem_entries : ∀ kvs, ∀ e ∈ jsonRoundTrip.entries floatText kvs,
    isJson e.2 = true
  | [], e, he => by simp [jsonRoundTrip.entries] at he
  | (k, v) :: kvs, e, he => by
    rw [jsonRoundTrip.entries, List.mem_cons] at he
    rcases he with rfl | he
    · exact isJson_jsonRoundTrip v
    · exact isJson_of_mem_entries kvs e he

end

/-- **Exactly when a value comes back unchanged**: when it is JSON. -/
theorem jsonRoundTrip_eq_self_iff {v : PyVal} :
    jsonRoundTrip floatText v = v ↔ isJson v = true := by
  constructor
  · intro h
    rw [← h]
    exact isJson_jsonRoundTrip floatText v
  · exact jsonRoundTrip_eq_self floatText v

end Python
