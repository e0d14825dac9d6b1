/-
# The files of presets.json

`PresetsService` keeps every `presets.json` it is given, uploaded by the operator or downloaded from
a node, under a name of the second in which it came.  A second file of that second gets a number.
Both ways of saving look for a free name first and write to it then, with nothing held in between.

* `stored_iff`: in every state of a run every file is what it was reported as, and none is lost,
  exactly when no file is written over one that was written since the look, or that was the last of
  the hundred names of the second.
* `stored_alone_iff`: where the saves come one after the other, that is so exactly when each of them
  finds one of its hundred names free.
-/
import RaceLink.Naming.Basic

namespace RaceLink

/-! ## 1. Names -/

/-- The local time of a save: the date as `yyyymmdd` and the time as `hhmmss`. -/
structure LocalTime where
  date : Nat
  time : Nat

/-- The last digits of a number. -/
def lastDigits : Nat → Nat → List Char
  | 0, _ => []
  | width + 1, n => lastDigits width (n / 10) ++ [Char.ofNat (0x30 + n % 10)]

/-- `preset_filename`, without its suffix. -/
def presetStem (ts : LocalTime) : String :=
  "presets_" ++ String.ofList (lastDigits 8 ts.date) ++ "_" ++ String.ofList (lastDigits 6 ts.time)

/-- `preset_filename`. -/
def presetFilename (ts : LocalTime) : String := presetStem ts ++ ".json"

/-- `name.replace(".json", f"_{idx}.json")`, for `idx` in `range(1, 100)`. -/
def alternateNames (ts : LocalTime) : List String :=
  (List.range 99).map fun i => presetStem ts ++ s!"_{i + 1}.json"

/-! ## 2. Saves -/

/-- The directory, by what was there before and what has been saved since, and the threads that are
saving something. -/
abbrev PresetsDir : Type := Naming.Shelf String (List UInt8)

inductive SaveEvent where
  /-- `store_uploaded_file`, with a file. -/
  | storeUploadedFile (ts : LocalTime) (payload : List UInt8)
  /-- `save_payload`. -/
  | savePayload (ts : LocalTime) (payload : List UInt8)
  /-- A thread looks at a name, or writes. -/
  | advance (i : Nat)

/-- Both ways of saving look at the same names in the same order. -/
def SaveEvent.onShelf : SaveEvent → Naming.Event String (List UInt8)
  | .storeUploadedFile ts payload => .start (presetFilename ts) (alternateNames ts) payload
  | .savePayload ts payload => .start (presetFilename ts) (alternateNames ts) payload
  | .advance i => .advance i

/-- The directory from some files on. -/
def presetsSystem (was : String → Option (List UInt8)) : Lts.System PresetsDir SaveEvent :=
  (Naming.shelfSystem was).comap SaveEvent.onShelf

/-! ## 3. What is kept

`PresetsDir.Right` says of every save that is done that its file is there under the name in its
answer, and of every file of before that it is as it was. -/

/-- **Nothing is lost** in any state of a run exactly when every write goes to a name that is free
when it is made.  A look that is out of date is one way to miss it; the hundredth file of a second
is the other. -/
theorem stored_iff (was : String → Option (List UInt8)) (events : List SaveEvent) (dir : PresetsDir)
    (hrun : Lts.run (presetsSystem was) (presetsSystem was).init events = some dir) :
    Lts.Throughout (presetsSystem was) (·.Right was) (presetsSystem was).init events ↔
      Lts.RunMeets (presetsSystem was) (fun dir e => dir.WritesFree e.onShelf)
        (presetsSystem was).init events := by
  rw [presetsSystem, Lts.run_comap] at hrun
  rw [presetsSystem, Lts.throughout_comap, Lts.runMeets_comap]
  exact Naming.right_iff hrun

/-- **One after the other**: where no save starts before the others are done, nothing is lost
exactly when each of them finds one of its hundred names free. -/
theorem stored_alone_iff (was : String → Option (List UInt8)) (events : List SaveEvent)
    (dir : PresetsDir)
    (hrun : Lts.run (presetsSystem was) (presetsSystem was).init events = some dir)
    (hsettled : dir.Settled)
    (halone : Lts.RunMeets (presetsSystem was) (fun dir e => dir.Alone e.onShelf)
      (presetsSystem was).init events) :
    Lts.Throughout (presetsSystem was) (·.Right was) (presetsSystem was).init events ↔
      Lts.RunMeets (presetsSystem was) (fun dir e => dir.HasFree e.onShelf)
        (presetsSystem was).init events := by
  rw [presetsSystem, Lts.run_comap] at hrun
  rw [presetsSystem, Lts.runMeets_comap] at halone
  rw [presetsSystem, Lts.throughout_comap, Lts.runMeets_comap]
  exact Naming.right_alone_iff hrun hsettled halone

/-! ## 4. Two files of one second -/

/-- An upload and a download of the same second, one after the other. -/
def sameSecond : List SaveEvent :=
  [.storeUploadedFile ⟨20240131, 93000⟩ [1], .advance 0, .advance 0,
    .savePayload ⟨20240131, 93000⟩ [2], .advance 1, .advance 1, .advance 1]

/-- The second is under the first of the other names. -/
example : ((Lts.run (presetsSystem fun _ => none) (presetsSystem fun _ => none).init
    sameSecond).map fun dir =>
      (dir.files "presets_20240131_093000.json", dir.files "presets_20240131_093000_1.json")) =
    some (some (.save 0, [1]), some (.save 1, [2])) := by
  decide +kernel

theorem stored_sameSecond : Lts.Throughout (presetsSystem fun _ => none) (·.Right fun _ => none)
    (presetsSystem fun _ => none).init sameSecond := by
  have hrun : (Lts.run (presetsSystem fun _ => none) (presetsSystem fun _ => none).init
      sameSecond).isSome = true := by
    decide +kernel
  obtain ⟨dir, hdir⟩ := Option.isSome_iff_exists.mp hrun
  exact (stored_iff (fun _ => none) sameSecond dir hdir).mpr (by decide +kernel)

theorem stored_alone_sameSecond : Lts.Throughout (presetsSystem fun _ => none)
    (·.Right fun _ => none) (presetsSystem fun _ => none).init sameSecond := by
  have hrun : (Lts.run (presetsSystem fun _ => none) (presetsSystem fun _ => none).init
      sameSecond).map (fun dir => decide dir.Settled) = some true := by
    decide +kernel
  obtain ⟨dir, hdir, hsettled⟩ := Option.map_eq_some_iff.mp hrun
  have hfree : Lts.RunMeets (presetsSystem fun _ => none) (fun dir e => dir.HasFree e.onShelf)
      (presetsSystem fun _ => none).init sameSecond := by
    decide +kernel
  exact (stored_alone_iff (fun _ => none) sameSecond dir hdir (of_decide_eq_true hsettled)
    (by decide +kernel)).mpr hfree

end RaceLink
