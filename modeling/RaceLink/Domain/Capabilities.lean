/-
# Device types, capabilities and their options

`domain/device_types.py`, the option table of `domain/specials.py` and
`build_specials_state` of `domain/capabilities.py`: which integer settings ("specials") a device
of a type has, and how they are read back from a stored record.
-/
import RaceLink.Python.Value

namespace RaceLink

open Python

/-- The capabilities (`RL_DEV_TYPE_CAPS`). -/
inductive Cap where
  | startblock
  | ledMatrix
  | wled
  deriving DecidableEq

/-- The sorted `caps` of `get_dev_type_info`. -/
def devTypeCaps (typeId : Int) : List Cap :=
  if typeId ∈ [10, 11, 12, 13] then [.wled]
  else if typeId = 50 then [.startblock, .wled]
  else []

/-- An option of a capability: its key in the specials, and its range. -/
structure SpecialOption where
  key : String
  option : Nat
  min : Int
  max : Int
  deriving DecidableEq

/-- The options of `RL_SPECIALS`. -/
def Cap.options : Cap → List SpecialOption
  | .startblock => [⟨"startblock_slots", 0x8C, 1, 8⟩, ⟨"startblock_first_slot", 0x8D, 1, 8⟩]
  | .ledMatrix => []
  | .wled => []

/-- The options of a device type, in the order of its capabilities. -/
def specialOptions (typeId : Int) : List SpecialOption := (devTypeCaps typeId).flatMap (·.options)

/-- The value of an option in a stored record: its minimum when it is absent or no integer. -/
def storedSpecial (stored : Dict) (opt : SpecialOption) : Int :=
  match int (Dict.getD stored opt.key (.int opt.min)) with
  | .ok v => v
  | .error _ => opt.min

/-- `build_specials_state`. -/
def buildSpecialsState (typeId : Int) (stored : Dict) : List (String × Int) :=
  (specialOptions typeId).map fun opt => (opt.key, storedSpecial stored opt)

/-- Keys of the options of a type are pairwise different. -/
theorem nodup_specialOptions (typeId : Int) : ((specialOptions typeId).map (·.key)).Nodup := by
  unfold specialOptions devTypeCaps
  split
  · decide
  · split <;> decide

/-- What the state holds under an option's key. -/
theorem lookup_buildSpecialsState {typeId : Int} {stored : Dict} {opt : SpecialOption}
    (h : opt ∈ specialOptions typeId) :
    (buildSpecialsState typeId stored).lookup opt.key = some (storedSpecial stored opt) := by
  have key : ∀ opts : List SpecialOption, (opts.map (·.key)).Nodup → opt ∈ opts →
      (opts.map fun o => (o.key, storedSpecial stored o)).lookup opt.key
        = some (storedSpecial stored opt) := by
    intro opts hnd hmem
    induction opts with
    | nil => exact absurd hmem List.not_mem_nil
    | cons o opts ih =>
      rw [List.map_cons, List.nodup_cons] at hnd
      rw [List.map_cons, List.lookup_cons]
      rcases List.mem_cons.mp hmem with rfl | hmem
      · simp
      · have hne : (opt.key == o.key) = false := by
          simpa using fun e : opt.key = o.key => hnd.1 (e ▸ List.mem_map_of_mem hmem)
        rw [hne]
        exact ih hnd.2 hmem
  exact key _ (nodup_specialOptions typeId) h

end RaceLink
