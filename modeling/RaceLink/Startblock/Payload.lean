/-
# The startblock payload

What a startblock shows for a slot: two letters for the channel and the pilot's name, in ASCII.
`build_startblock_payload_v1` cleans the name and lays the payload out; here is also the layout
as a reader sees it.

The cleaning works on text of any kind.  Its stages are defined on lists of characters, each with
what it does to an ASCII text; `parseStartblock_build` says that every payload is read back.
-/
import RaceLink.Parse.Basic
import RaceLink.Protocol.Packets

namespace RaceLink

open Python Parse

/-! ## 1. Text -/

/-- The letters whose upper case is several characters, none of them ASCII: the first and the last
of a run, and how many. -/
def longUpper : List (Nat × Nat × Nat) :=
  [(0x390, 0x390, 3), (0x3b0, 0x3b0, 3), (0x587, 0x587, 2), (0x1f50, 0x1f50, 2),
   (0x1f52, 0x1f52, 3), (0x1f54, 0x1f54, 3), (0x1f56, 0x1f56, 3), (0x1f80, 0x1faf, 2),
   (0x1fb2, 0x1fb4, 2), (0x1fb6, 0x1fb6, 2), (0x1fb7, 0x1fb7, 3), (0x1fbc, 0x1fbc, 2),
   (0x1fc2, 0x1fc4, 2), (0x1fc6, 0x1fc6, 2), (0x1fc7, 0x1fc7, 3), (0x1fcc, 0x1fcc, 2),
   (0x1fd2, 0x1fd3, 3), (0x1fd6, 0x1fd6, 2), (0x1fd7, 0x1fd7, 3), (0x1fe2, 0x1fe3, 3),
   (0x1fe4, 0x1fe4, 2), (0x1fe6, 0x1fe6, 2), (0x1fe7, 0x1fe7, 3), (0x1ff2, 0x1ff4, 2),
   (0x1ff6, 0x1ff6, 2), (0x1ff7, 0x1ff7, 3), (0x1ffc, 0x1ffc, 2), (0xfb13, 0xfb17, 2)]

/-- The letters whose upper case is an ASCII letter and a mark, in their order. -/
def markedUpper : List (Nat × List Char) :=
  [(0x149, [Char.ofNat 0x2bc, 'N']), (0x1f0, ['J', Char.ofNat 0x30c]),
   (0x1e96, ['H', Char.ofNat 0x331]), (0x1e97, ['T', Char.ofNat 0x308]),
   (0x1e98, ['W', Char.ofNat 0x30a]), (0x1e99, ['Y', Char.ofNat 0x30a]),
   (0x1e9a, ['A', Char.ofNat 0x2be])]

/-- `c.upper()`, exact in its length and in its ASCII characters.  A letter that is not ASCII
stands for those of its upper case: the payload has no room for any of them. -/
def upperText (c : Char) : List Char :=
  match markedUpper.lookup c.toNat with
  | some cs => cs
  | none =>
    match longUpper.find? fun run => run.1 ≤ c.toNat && c.toNat ≤ run.2.1 with
    | some run => List.replicate run.2.2 c
    | none => upperChar c

/-- `s.replace(old, new)`, for an `old` of two characters. -/
def replacePair (first second : Char) (new : List Char) : List Char → List Char
  | c :: c' :: cs =>
    if c = first ∧ c' = second then new ++ replacePair first second new cs
    else c :: replacePair first second new (c' :: cs)
  | cs => cs

/-- `_DE_UMLAUT_MAP`, with its keys as the file spells them: the UTF-8 bytes of an umlaut, each
read as a character of its own. -/
def deUmlautMap : List (Char × Char × List Char) :=
  [(Char.ofNat 0xc3, Char.ofNat 0xa4, ['a', 'e']), (Char.ofNat 0xc3, Char.ofNat 0xb6, ['o', 'e']),
   (Char.ofNat 0xc3, Char.ofNat 0xbc, ['u', 'e']), (Char.ofNat 0xc3, Char.ofNat 0x178, ['s', 's']),
   (Char.ofNat 0xc3, Char.ofNat 0x201e, ['A', 'E']),
   (Char.ofNat 0xc3, Char.ofNat 0x2013, ['O', 'E']),
   (Char.ofNat 0xc3, Char.ofNat 0x153, ['U', 'E'])]

/-- What `_ALLOWED_NAME_RE` leaves alone.  It ignores case, which lets four letters pass that are
not ASCII. -/
def isNameChar (c : Char) : Bool :=
  let n := c.toNat
  (0x41 ≤ n && n ≤ 0x5a) || (0x61 ≤ n && n ≤ 0x7a) || (0x30 ≤ n && n ≤ 0x39) || c = ' ' ||
    c = '_' || c = '-' || c = '.' || c = '+' || n = 0x130 || n = 0x131 || n = 0x17f || n = 0x212a

/-- `re.sub(r"\s+", " ", s)`. -/
def collapseSpaces : List Char → List Char
  | [] => []
  | [c] => if isSpace c then [' '] else [c]
  | c :: c' :: cs =>
    if isSpace c then
      -- a run of blanks leaves its last
      if isSpace c' then collapseSpaces (c' :: cs) else ' ' :: collapseSpaces (c' :: cs)
    else c :: collapseSpaces (c' :: cs)

/-- The stages of `sanitize_pilot_name` before it cuts the name. -/
def cleanName (name : List Char) : List Char :=
  let name := deUmlautMap.foldl (fun cs e => replacePair e.1 e.2.1 e.2.2 cs) name
  let name := (stripChars isSpace name).flatMap upperText
  let name := name.map fun c => if isNameChar c then c else ' '
  stripChars isSpace (collapseSpaces name)

/-- `sanitize_pilot_name`. -/
def sanitizePilotName (name : String) (maxLen : Int) : String :=
  let name := cleanName name.toList
  String.ofList (if maxLen > 0 then name.take maxLen.toNat else name)

/-- A character, encoded with `errors="replace"`. -/
def asciiByte (c : Char) : UInt8 := if c.toNat < 128 then UInt8.ofNat c.toNat else 0x3F

/-- The text of bytes that are ASCII. -/
def asciiText (bytes : List UInt8) : List Char := bytes.map fun b => Char.ofNat b.toNat

/-- The channel, padded. -/
def paddedChannel (label : String) : List Char :=
  (stripChars isSpace label.toList).flatMap upperText ++ ['-', '-']

/-- `encode_channel_fixed2`. -/
def encodeChannelFixed2 (label : String) : List UInt8 :=
  ((paddedChannel label).take 2).map asciiByte

/-- `_STARTBLOCK_VER`. -/
def startblockVer : UInt8 := 0x01

/-- `build_startblock_payload_v1`. -/
def buildStartblockPayloadV1 (slot : Int) (channelLabel pilotName : String)
    (maxNameLen : Int := 32) (nameEncoding : String := "ascii") : List UInt8 :=
  let name := (sanitizePilotName pilotName maxNameLen).toList
  let nameBytes := if lower nameEncoding = "utf-8" then name.flatMap String.utf8EncodeChar
    else name.map asciiByte
  let nameBytes := nameBytes.take 255
  [startblockVer, byteOf (clampTo 0 255 slot)] ++ encodeChannelFixed2 channelLabel ++
    [UInt8.ofNat nameBytes.length] ++ nameBytes

/-! ## 2. The layout, read -/

/-- What a startblock finds in a payload. -/
structure StartblockEntry where
  version : UInt8
  slot : UInt8
  channel : List UInt8
  name : List UInt8
  deriving DecidableEq

def takeStartblock : Parser StartblockEntry := do
  let version ← takeByte
  let slot ← takeByte
  let channel ← takeBytes 2
  let length ← takeByte
  let name ← takeBytes length.toNat
  pure ⟨version, slot, channel, name⟩

/-- The content of a payload that the layout covers exactly. -/
def parseStartblock (payload : List UInt8) : Option StartblockEntry :=
  parseAll takeStartblock payload

theorem length_encodeChannelFixed2 (label : String) : (encodeChannelFixed2 label).length = 2 := by
  rw [encodeChannelFixed2, List.length_map, List.length_take, paddedChannel, List.length_append]
  simp

theorem reads_startblock (version slot : UInt8) {channel name : List UInt8}
    (hchannel : channel.length = 2) (hname : name.length < 256) :
    Reads takeStartblock ([version, slot] ++ channel ++ [UInt8.ofNat name.length] ++ name)
      ⟨version, slot, channel, name⟩ := by
  have hlength : (UInt8.ofNat name.length).toNat = name.length := UInt8.toNat_ofNat_of_lt' hname
  have htwo : Reads (takeBytes 2) channel channel := hchannel ▸ Reads.takeBytes channel
  have hrest : Reads (takeBytes (UInt8.ofNat name.length).toNat) name name := by
    rw [hlength]
    exact Reads.takeBytes name
  have h : Reads takeStartblock
      ([version] ++ ([slot] ++ (channel ++ ([UInt8.ofNat name.length] ++ (name ++ [])))))
      ⟨version, slot, channel, name⟩ :=
    (Reads.takeByte version).bind ((Reads.takeByte slot).bind (htwo.bind
      ((Reads.takeByte (UInt8.ofNat name.length)).bind (hrest.bind (Reads.pure _)))))
  simpa using h

/-- The name field of a payload. -/
def nameField (pilotName : String) : List UInt8 :=
  (sanitizePilotName pilotName 32).toList.map asciiByte

theorem length_nameField_le (pilotName : String) : (nameField pilotName).length ≤ 32 := by
  rw [nameField, List.length_map, sanitizePilotName]
  simp only [gt_iff_lt, Int.reduceLT, if_true, String.toList_ofList, List.length_take]
  exact Nat.min_le_left _ _

theorem buildStartblockPayloadV1_eq (slot : Int) (channelLabel pilotName : String) :
    buildStartblockPayloadV1 slot channelLabel pilotName =
      [startblockVer, byteOf (clampTo 0 255 slot)] ++ encodeChannelFixed2 channelLabel ++
        [UInt8.ofNat (nameField pilotName).length] ++ nameField pilotName := by
  have hshort := length_nameField_le pilotName
  have htake : (nameField pilotName).take 255 = nameField pilotName :=
    List.take_of_length_le (by omega)
  unfold buildStartblockPayloadV1
  dsimp only
  rw [if_neg (by decide), ← nameField, htake]

/-- **Reading a payload back**: the version, the slot, the two bytes of the channel and the name.
It has at most 37 bytes. -/
theorem parseStartblock_build (slot : Int) (channelLabel pilotName : String) :
    parseStartblock (buildStartblockPayloadV1 slot channelLabel pilotName) =
      some ⟨startblockVer, byteOf (clampTo 0 255 slot), encodeChannelFixed2 channelLabel,
        nameField pilotName⟩ ∧
    (buildStartblockPayloadV1 slot channelLabel pilotName).length ≤ 37 := by
  have hshort := length_nameField_le pilotName
  have htwo := length_encodeChannelFixed2 channelLabel
  rw [buildStartblockPayloadV1_eq]
  constructor
  · exact (reads_startblock _ _ htwo (by omega)).parseAll
  · simp only [List.length_append, List.length_cons, List.length_nil, htwo]
    omega

/-! ## 3. ASCII names -/

/-- A text of ASCII characters. -/
def IsAscii (cs : List Char) : Prop := ∀ c ∈ cs, c.toNat < 128

theorem mem_stripChars {p : Char → Bool} {cs : List Char} {c : Char} (h : c ∈ stripChars p cs) :
    c ∈ cs := by
  rw [stripChars, List.mem_reverse] at h
  have hfront := List.mem_reverse.mp ((List.dropWhile_sublist p).mem h)
  exact (List.dropWhile_sublist p).mem hfront

theorem mem_replacePair {first second : Char} {new : List Char} : ∀ {cs : List Char} {c : Char},
    c ∈ replacePair first second new cs → c ∈ new ∨ c ∈ cs
  | [], _, h => (nomatch h)
  | [_], _, h => Or.inr h
  | a :: b :: cs, c, h => by
    rw [replacePair] at h
    split at h
    · rcases List.mem_append.mp h with h | h
      · exact Or.inl h
      · exact (mem_replacePair h).imp_right fun h =>
          List.mem_cons_of_mem _ (List.mem_cons_of_mem _ h)
    · rcases List.mem_cons.mp h with rfl | h
      · exact Or.inr List.mem_cons_self
      · exact (mem_replacePair h).imp_right (List.mem_cons_of_mem _)

theorem mem_collapseSpaces : ∀ {cs : List Char} {c : Char}, c ∈ collapseSpaces cs →
    c = ' ' ∨ c ∈ cs
  | [], _, h => (nomatch h)
  | [a], c, h => by
    rw [collapseSpaces] at h
    split at h
    · exact Or.inl (List.mem_singleton.mp h)
    · exact Or.inr h
  | a :: b :: cs, c, h => by
    rw [collapseSpaces] at h
    split at h
    · split at h
      · exact (mem_collapseSpaces h).imp_right (List.mem_cons_of_mem _)
      · rcases List.mem_cons.mp h with rfl | h
        · exact Or.inl rfl
        · exact (mem_collapseSpaces h).imp_right (List.mem_cons_of_mem _)
    · rcases List.mem_cons.mp h with rfl | h
      · exact Or.inr List.mem_cons_self
      · exact (mem_collapseSpaces h).imp_right (List.mem_cons_of_mem _)

/-- A table is checked by a test, not by a quantifier over its letters. -/
theorem isAscii_of_all {cs : List Char} (h : cs.all (·.toNat < 128) = true) : IsAscii cs :=
  fun c hc => of_decide_eq_true (List.all_eq_true.mp h c hc)

theorem isAscii_upperText {c : Char} (h : c.toNat < 128) : IsAscii (upperText c) := by
  have hall : ∀ n : Fin 128, (upperText (Char.ofNat n)).all (·.toNat < 128) = true := by
    decide +kernel
  have hc := hall ⟨c.toNat, h⟩
  rw [Char.ofNat_toNat] at hc
  exact isAscii_of_all hc

/-- Cleaning keeps an ASCII name ASCII. -/
theorem isAscii_cleanName {name : List Char} (h : IsAscii name) : IsAscii (cleanName name) := by
  have hreplaced : ∀ (table : List (Char × Char × List Char)) (cs : List Char),
      (∀ e ∈ table, IsAscii e.2.2) → IsAscii cs →
      IsAscii (table.foldl (fun cs e => replacePair e.1 e.2.1 e.2.2 cs) cs) := by
    intro table
    induction table with
    | nil => exact fun _ _ hcs => hcs
    | cons e table ih =>
      intro cs htable hcs
      obtain ⟨he, htable⟩ := List.forall_mem_cons.mp htable
      exact ih _ htable fun c hc => (mem_replacePair hc).elim (he c) (hcs c)
  have htable : deUmlautMap.all (fun e => e.2.2.all (·.toNat < 128)) = true := by decide
  have hname := hreplaced deUmlautMap name
    (fun e he => isAscii_of_all (List.all_eq_true.mp htable e he)) h
  intro c hc
  have hcollapsed := mem_collapseSpaces (mem_stripChars hc)
  rcases hcollapsed with rfl | hmapped
  · decide
  · obtain ⟨c', hc', rfl⟩ := List.mem_map.mp hmapped
    obtain ⟨c'', hc'', hupper⟩ := List.mem_flatMap.mp hc'
    have hascii := isAscii_upperText (hname c'' (mem_stripChars hc'')) c' hupper
    split
    · exact hascii
    · decide

/-- What is ASCII survives its encoding. -/
theorem asciiText_map {cs : List Char} (h : IsAscii cs) : asciiText (cs.map asciiByte) = cs := by
  rw [asciiText, List.map_map]
  refine map_eq_self_iff.mpr fun c hc => ?_
  have hlt := h c hc
  have hbyte : (UInt8.ofNat c.toNat).toNat = c.toNat :=
    UInt8.toNat_ofNat_of_lt' (hlt.trans (by decide))
  rw [Function.comp_apply, asciiByte, if_pos hlt, hbyte, Char.ofNat_toNat]

/-- **An ASCII name** is read back as the cleaned name. -/
theorem asciiText_nameField {pilotName : String} (h : IsAscii pilotName.toList) :
    asciiText (nameField pilotName) = (sanitizePilotName pilotName 32).toList := by
  refine asciiText_map ?_
  rw [sanitizePilotName, String.toList_ofList]
  have hclean := isAscii_cleanName h
  split
  · exact fun c hc => hclean c (List.mem_of_mem_take hc)
  · exact hclean

end RaceLink
