/-
# Pilot names

What a startblock shows of a name.  The names are those of printable ASCII characters and German
letters; the payload is the one `build_startblock_payload_v1` makes with its default length and
encoding.

`transliterated` says what the name field is for: the letters a display of ASCII characters has,
umlauts spelled out, one blank between two words.  `cleanName_eq` says what the stages of
`sanitize_pilot_name` come to: every character is cleaned on its own and the words are put in
order.  The two differ at the umlauts only, which `_DE_UMLAUT_MAP` misses.  So the crux is where
the first of them stands: `showsName_iff`.
-/
import RaceLink.Startblock.Payload
import RaceLink.Words.Basic

namespace RaceLink

open Python Words

/-! ## 1. What the field is for -/

/-- The umlauts, and how each is spelled. -/
def umlauts : List (Char × List Char) :=
  [('ä', ['A', 'E']), ('ö', ['O', 'E']), ('ü', ['U', 'E']),
   ('Ä', ['A', 'E']), ('Ö', ['O', 'E']), ('Ü', ['U', 'E'])]

def isUmlaut (c : Char) : Bool := (umlauts.lookup c).isSome

/-- The characters of a name. -/
def isPilotChar (c : Char) : Bool :=
  (0x20 ≤ c.toNat && c.toNat ≤ 0x7e) || isUmlaut c || c == 'ß'

def isPilotLetter (c : Char) : Bool :=
  ('A' ≤ c && c ≤ 'Z') || ('a' ≤ c && c ≤ 'z') || isUmlaut c || c == 'ß'

/-- The characters of a name field. -/
def isFieldChar (c : Char) : Bool :=
  ('A' ≤ c && c ≤ 'Z') || ('0' ≤ c && c ≤ '9') || [' ', '_', '-', '.', '+'].contains c

/-- A character, in those of the field. -/
def spelled (c : Char) : List Char :=
  match umlauts.lookup c with
  | some letters => letters
  | none =>
    if c = 'ß' then ['S', 'S'] else if isFieldChar c.toUpper then [c.toUpper] else [' ']

/-- A name, in the characters of the field: trimmed, its runs of blanks collapsed. -/
def transliterated (name : List Char) : List Char := tidy isSpace ' ' (name.flatMap spelled)

/-- Where a character has its place in the transliteration of a name. -/
def place (before : List Char) (c : Char) : Nat :=
  (transliterated (before ++ [c])).length - (spelled c).length

/-- What cleaning makes of one character. -/
def cleanedChar (c : Char) : List Char :=
  (upperText c).map fun c => if isNameChar c then c else ' '

/-- The payload shows the name: its name field is the start of the transliteration, no letter with
a place in the field has become a blank or a question mark, and every byte is one of the field's
characters. -/
structure ShowsName (slot : Int) (channelLabel pilotName : String) (entry : StartblockEntry) :
    Prop where
  read : parseStartblock (buildStartblockPayloadV1 slot channelLabel pilotName) = some entry
  name : entry.name = ((transliterated pilotName.toList).take 32).map asciiByte
  letters : ∀ before c after, pilotName.toList = before ++ c :: after → isPilotLetter c = true →
    place before c < 32 → ∀ b ∈ (cleanedChar c).map asciiByte, b ≠ 0x20 ∧ b ≠ 0x3F
  bytes : ∀ b ∈ entry.name, isFieldChar (Char.ofNat b.toNat) = true

/-- No umlaut has a place in the field; and where the field ends with the blank in front of one,
a character that is shown follows. -/
def UmlautsPastField (name : List Char) : Prop :=
  ∀ before u after, name = before ++ u :: after → isUmlaut u = true →
    32 ≤ place before u ∧
    ((transliterated before).length < 32 → ∃ c ∈ after, isUmlaut c = false ∧ spelled c ≠ [' '])

/-! ## 2. What the stages come to -/

theorem rdropWhile_cons {p : Char → Bool} {c : Char} {cs : List Char}
    (h : p c = false ∨ cs.rdropWhile p ≠ []) :
    (c :: cs).rdropWhile p = c :: cs.rdropWhile p := by
  rw [List.rdropWhile, List.reverse_cons, List.dropWhile_append]
  cases hempty : (cs.reverse.dropWhile p).isEmpty with
  | false => simp [List.rdropWhile]
  | true =>
    have hnil : cs.rdropWhile p = [] := by
      rw [List.rdropWhile, List.isEmpty_iff.mp hempty]
      rfl
    have hc := h.resolve_right (not_not.mpr hnil)
    simp [hnil, hc]

/-- A collapsed text, trimmed at its end, is read as the rest of a word. -/
theorem rdropWhile_collapseSpaces (cs : List Char) :
    (collapseSpaces cs).rdropWhile isSpace = resume isSpace ' ' .word cs := by
  fun_induction collapseSpaces cs with
  | case1 => rfl
  | case2 c hc =>
    rw [resume_cons_of_blank hc]
    rfl
  | case3 c hc =>
    have hc : isSpace c = false := by simpa using hc
    rw [resume_cons_of_letter hc, rdropWhile_cons (Or.inl hc)]
    rfl
  | case4 c c' cs hc hc' ih =>
    rw [ih, resume_cons_of_blank hc, resume_cons_of_blank hc', resume_cons_of_blank hc']
    rfl
  | case5 c c' cs hc hc' ih =>
    have hc' : isSpace c' = false := by simpa using hc'
    rw [resume_cons_of_letter hc'] at ih
    rw [rdropWhile_cons (Or.inr (by simp [ih])), ih, resume_cons_of_blank hc,
      resume_cons_of_letter hc']
    rfl
  | case6 c c' cs hc ih =>
    have hc : isSpace c = false := by simpa using hc
    rw [rdropWhile_cons (Or.inl hc), ih, resume_cons_of_letter hc]
    rfl

/-- **Collapsing and trimming** leave the words, one blank between two. -/
theorem stripChars_collapseSpaces (cs : List Char) :
    stripChars isSpace (collapseSpaces cs) = tidy isSpace ' ' cs := by
  have hletter : ∀ {c : Char} (cs : List Char), isSpace c = false →
      stripChars isSpace (c :: cs) = (c :: cs).rdropWhile isSpace := by
    intro c cs hc
    rw [stripChars, List.dropWhile_cons_of_neg (by simp [hc])]
    rfl
  rw [tidy_eq]
  fun_induction collapseSpaces cs with
  | case1 => rfl
  | case2 c hc =>
    rw [resume_cons_of_blank hc]
    rfl
  | case3 c hc =>
    have hc : isSpace c = false := by simpa using hc
    rw [hletter _ hc, rdropWhile_cons (Or.inl hc), resume_cons_of_letter hc]
    rfl
  | case4 c c' cs hc hc' ih =>
    rw [ih, resume_cons_of_blank hc]
    rfl
  | case5 c c' cs hc hc' ih =>
    rw [resume_cons_of_blank hc, Standing.rest, ← ih, stripChars,
      List.dropWhile_cons_of_pos (by decide)]
    rfl
  | case6 c c' cs hc ih =>
    have hc : isSpace c = false := by simpa using hc
    rw [hletter _ hc, rdropWhile_cons (Or.inl hc), rdropWhile_collapseSpaces,
      resume_cons_of_letter hc]
    rfl

/-- A pair whose first character does not occur is not replaced. -/
theorem replacePair_eq_self {first second : Char} {new : List Char} : ∀ {cs : List Char},
    first ∉ cs → replacePair first second new cs = cs
  | [], _ => rfl
  | [_], _ => rfl
  | a :: b :: cs, h => by
    obtain ⟨hne, hrest⟩ := not_or.mp (List.mem_cons.not.mp h)
    rw [replacePair, if_neg fun hpair => hne hpair.1.symm, replacePair_eq_self hrest]

/-! ## 3. The characters of a name -/

theorem mem_umlauts_of_isUmlaut {c : Char} (h : isUmlaut c = true) : c ∈ umlauts.map (·.1) := by
  rw [isUmlaut, List.lookup_isSome_iff] at h
  obtain ⟨e, he, heq⟩ := h
  exact List.mem_map.mpr ⟨e, he, (beq_iff_eq.mp heq).symm⟩

/-- The characters of a name, one after another. -/
def pilotChars : List Char :=
  (List.range' 0x20 95).map Char.ofNat ++ umlauts.map (·.1) ++ ['ß']

theorem mem_pilotChars {c : Char} (hc : isPilotChar c = true) : c ∈ pilotChars := by
  rw [isPilotChar, Bool.or_eq_true, Bool.or_eq_true] at hc
  rcases hc with (hc | hc) | hc
  · simp only [Bool.and_eq_true, decide_eq_true_eq] at hc
    have hrange : c.toNat ∈ List.range' 0x20 95 := List.mem_range'_1.mpr ⟨hc.1, by omega⟩
    exact List.mem_append_left _ (List.mem_append_left _
      (List.mem_map.mpr ⟨c.toNat, hrange, Char.ofNat_toNat c⟩))
  · exact List.mem_append_left _ (List.mem_append_right _ (mem_umlauts_of_isUmlaut hc))
  · exact List.mem_append_right _ (List.mem_singleton.mpr (beq_iff_eq.mp hc))

/-- What a test finds of each of them it finds of every character of a name. -/
theorem of_isPilotChar (test : Char → Bool) (h : pilotChars.all test = true) {c : Char}
    (hc : isPilotChar c = true) : test c = true :=
  List.all_eq_true.mp h c (mem_pilotChars hc)

theorem isPilotChar_of_isUmlaut {c : Char} (h : isUmlaut c = true) : isPilotChar c = true := by
  rw [isPilotChar, h]
  simp

/-- Cleaning spells every character but the umlauts, and leaves a blank of these. -/
theorem cleanedChar_eq {c : Char} (hc : isPilotChar c = true) :
    cleanedChar c = if isUmlaut c then [' '] else spelled c := by
  have h := of_isPilotChar
    (fun c => cleanedChar c == if isUmlaut c then [' '] else spelled c) (by decide +kernel) hc
  exact beq_iff_eq.mp h

theorem cleanedChar_umlaut {u : Char} (hu : isUmlaut u = true) : cleanedChar u = [' '] := by
  rw [cleanedChar_eq (isPilotChar_of_isUmlaut hu), if_pos hu]

/-- What the field does not show of a name is cleaned to a blank. -/
theorem cleanedChar_of_not_shown {c : Char} (hc : isPilotChar c = true)
    (h : ¬ (isUmlaut c = false ∧ spelled c ≠ [' '])) : cleanedChar c = [' '] := by
  cases hu : isUmlaut c with
  | true => exact cleanedChar_umlaut hu
  | false =>
    rw [cleanedChar_eq hc, hu]
    by_contra hne
    exact h ⟨hu, hne⟩

/-- A character is a blank, or letters without one. -/
theorem spelled_cases {c : Char} (hc : isPilotChar c = true) :
    spelled c = [' '] ∨ spelled c ≠ [] ∧ ∀ x ∈ spelled c, isSpace x = false := by
  have h := of_isPilotChar (fun c => spelled c == [' '] ||
    (!(spelled c).isEmpty && (spelled c).all fun x => !isSpace x)) (by decide +kernel) hc
  simpa using h

theorem isFieldChar_of_spelled {c x : Char} (hc : isPilotChar c = true) (hx : x ∈ spelled c) :
    isFieldChar x = true := by
  have h := of_isPilotChar (fun c => (spelled c).all isFieldChar) (by decide +kernel) hc
  exact List.all_eq_true.mp h x hx

theorem cleanedChar_of_isSpace {c : Char} (hc : isPilotChar c = true)
    (hspace : isSpace c = true) : cleanedChar c = [' '] := by
  have h := of_isPilotChar (fun c => !isSpace c || cleanedChar c == [' ']) (by decide +kernel) hc
  simpa [hspace] using h

/-- A letter that is no umlaut stays a letter. -/
theorem cleanedChar_of_isPilotLetter {c : Char} (hc : isPilotChar c = true)
    (hletter : isPilotLetter c = true) (hu : isUmlaut c = false) :
    ∀ b ∈ (cleanedChar c).map asciiByte, b ≠ 0x20 ∧ b ≠ 0x3F := by
  have h := of_isPilotChar (fun c => !isPilotLetter c || isUmlaut c ||
    ((cleanedChar c).map asciiByte).all fun b => b != 0x20 && b != 0x3F) (by decide +kernel) hc
  simpa [hletter, hu] using h

/-- An umlaut is a letter, and is spelled with letters. -/
theorem spelled_umlaut {u : Char} (hu : isUmlaut u = true) :
    isPilotLetter u = true ∧ spelled u ≠ [] ∧ ∀ x ∈ spelled u, isSpace x = false := by
  have hc := isPilotChar_of_isUmlaut hu
  have h := of_isPilotChar (fun c => !isUmlaut c || (isPilotLetter c && spelled c != [' ']))
    (by decide +kernel) hc
  have h : isPilotLetter u = true ∧ spelled u ≠ [' '] := by simpa [hu] using h
  exact ⟨h.1, (spelled_cases hc).resolve_left h.2⟩

theorem not_mem_of_isPilotChar {name : List Char} (hname : ∀ c ∈ name, isPilotChar c = true) :
    Char.ofNat 0xc3 ∉ name := fun hmem => by
  have h := of_isPilotChar (· != Char.ofNat 0xc3) (by decide +kernel) (hname _ hmem)
  simp at h

theorem isAscii_of_isFieldChar {cs : List Char} (h : ∀ c ∈ cs, isFieldChar c = true) :
    IsAscii cs := by
  intro c hc
  have hfield := h c hc
  simp only [isFieldChar, Bool.or_eq_true, Bool.and_eq_true, decide_eq_true_eq,
    List.contains_iff_mem, List.mem_cons, List.not_mem_nil, or_false] at hfield
  rcases hfield with (⟨-, h⟩ | ⟨-, h⟩) | rfl | rfl | rfl | rfl | rfl
  · exact (Nat.lt_of_le_of_lt (Char.le_def.mp h) (by decide))
  · exact (Nat.lt_of_le_of_lt (Char.le_def.mp h) (by decide))
  all_goals decide

/-! ## 4. The name field -/

theorem replaced_eq_self {name : List Char} (hname : ∀ c ∈ name, isPilotChar c = true) :
    deUmlautMap.foldl (fun cs e => replacePair e.1 e.2.1 e.2.2 cs) name = name := by
  have hnot := not_mem_of_isPilotChar hname
  have htable : ∀ table : List (Char × Char × List Char),
      (∀ e ∈ table, e.1 = Char.ofNat 0xc3) →
      table.foldl (fun cs e => replacePair e.1 e.2.1 e.2.2 cs) name = name := by
    intro table
    induction table with
    | nil => exact fun _ => rfl
    | cons e table ih =>
      intro h
      obtain ⟨he, htable⟩ := List.forall_mem_cons.mp h
      rw [List.foldl_cons, replacePair_eq_self (he ▸ hnot), ih htable]
  exact htable deUmlautMap (by decide)

/-- **The stages**, on a name: every character is cleaned on its own, and what is left are the
words, one blank between two. -/
theorem cleanName_eq {name : List Char} (hname : ∀ c ∈ name, isPilotChar c = true) :
    cleanName name = tidy isSpace ' ' (name.flatMap cleanedChar) := by
  have hcut : name = name.takeWhile isSpace ++ stripChars isSpace name ++
      (name.dropWhile isSpace).rtakeWhile isSpace := by
    have hend : stripChars isSpace name ++ (name.dropWhile isSpace).rtakeWhile isSpace =
        name.dropWhile isSpace := List.rdropWhile_append_rtakeWhile
    rw [List.append_assoc, hend, List.takeWhile_append_dropWhile]
  have hblank : ∀ cs : List Char, (∀ c ∈ cs, c ∈ name ∧ isSpace c = true) →
      ∀ x ∈ cs.flatMap cleanedChar, isSpace x = true := by
    intro cs hcs x hx
    obtain ⟨c, hc, hx⟩ := List.mem_flatMap.mp hx
    rw [cleanedChar_of_isSpace (hname c (hcs c hc).1) (hcs c hc).2] at hx
    exact List.mem_singleton.mp hx ▸ by decide
  have hbefore := hblank (name.takeWhile isSpace) fun c hc =>
    ⟨(List.takeWhile_prefix isSpace).subset hc, List.mem_takeWhile_imp hc⟩
  have hafter := hblank ((name.dropWhile isSpace).rtakeWhile isSpace) fun c hc =>
    ⟨(List.dropWhile_suffix isSpace).subset ((List.rtakeWhile_suffix _ _).subset hc),
      List.mem_rtakeWhile_imp hc⟩
  have htidy : tidy isSpace ' ' (name.flatMap cleanedChar) =
      tidy isSpace ' ' ((stripChars isSpace name).flatMap cleanedChar) := by
    have h : tidy isSpace ' ' _ = _ :=
      tidy_blanks hbefore hafter ((stripChars isSpace name).flatMap cleanedChar)
    rwa [← List.flatMap_append, ← List.flatMap_append, ← hcut] at h
  rw [cleanName]
  simp only [replaced_eq_self hname, List.map_flatMap]
  rw [stripChars_collapseSpaces, htidy]
  rfl

/-- What the code shows of a name. -/
theorem nameField_eq {pilotName : String} (hname : ∀ c ∈ pilotName.toList, isPilotChar c = true) :
    nameField pilotName =
      ((tidy isSpace ' ' (pilotName.toList.flatMap cleanedChar)).take 32).map asciiByte := by
  rw [nameField, sanitizePilotName, cleanName_eq hname, if_pos (by decide), String.toList_ofList]
  rfl

/-- Every byte of the field is one of its characters. -/
theorem isFieldChar_of_nameField {pilotName : String}
    (hname : ∀ c ∈ pilotName.toList, isPilotChar c = true) {b : UInt8}
    (hb : b ∈ nameField pilotName) : isFieldChar (Char.ofNat b.toNat) = true := by
  rw [nameField_eq hname] at hb
  have hchars : ∀ x ∈ (tidy isSpace ' ' (pilotName.toList.flatMap cleanedChar)).take 32,
      isFieldChar x = true := by
    intro x hx
    rcases mem_tidy (List.mem_of_mem_take hx) with rfl | hx
    · decide
    · obtain ⟨c, hc, hx⟩ := List.mem_flatMap.mp hx
      rw [cleanedChar_eq (hname c hc)] at hx
      split at hx
      · exact List.mem_singleton.mp hx ▸ by decide
      · exact isFieldChar_of_spelled (hname c hc) hx
  have htext := asciiText_map (isAscii_of_isFieldChar hchars)
  exact hchars _ (htext ▸ List.mem_map_of_mem hb)

/-! ## 5. Places -/

/-- A letter has its place behind the transliteration before it, and behind a blank where a word
ends there. -/
theorem place_eq {before : List Char} {u : Char} (hu : isUmlaut u = true) :
    place before u = (transliterated before).length +
      ((standing isSpace ' ' (before.flatMap spelled)).lead ' ').length := by
  obtain ⟨-, hne, hletters⟩ := spelled_umlaut hu
  rw [place, transliterated, List.flatMap_append, List.flatMap_singleton, tidy_append,
    resume_of_word hletters hne, transliterated]
  simp only [List.length_append]
  omega

/-- A transliteration grows with its name. -/
theorem transliterated_start (before after : List Char) :
    transliterated before <+: transliterated (before ++ after) := by
  rw [transliterated, transliterated, List.flatMap_append, tidy_append]
  exact List.prefix_append _ _

/-- A letter has its place in what is spelled up to it. -/
theorem place_le (before after : List Char) (c : Char) :
    place before c ≤ (transliterated (before ++ c :: after)).length := by
  have hlength := (transliterated_start (before ++ [c]) after).length_le
  rw [List.append_assoc] at hlength
  exact (Nat.sub_le _ _).trans hlength

theorem flatMap_cleanedChar {cs : List Char} (hcs : ∀ c ∈ cs, isPilotChar c = true)
    (hu : ∀ c ∈ cs, isUmlaut c = false) : cs.flatMap cleanedChar = cs.flatMap spelled := by
  refine List.flatMap_congr fun c hc => ?_
  rw [cleanedChar_eq (hcs c hc), hu c hc]
  rfl

/-! ## 6. Where umlauts are lost -/

/-- An umlaut right behind the field, with the field not full before it, follows on a blank. -/
theorem standing_of_place {before : List Char} {u : Char} (hu : isUmlaut u = true)
    (hplace : 32 ≤ place before u) (hshort : (transliterated before).length < 32) :
    standing isSpace ' ' (before.flatMap spelled) = .gap ∧
      (transliterated before).length = 31 := by
  rw [place_eq hu] at hplace
  cases hs : standing isSpace ' ' (before.flatMap spelled) with
  | gap =>
    rw [hs] at hplace
    change 32 ≤ _ + 1 at hplace
    exact ⟨rfl, by omega⟩
  | _ =>
    rw [hs] at hplace
    exact absurd hplace (Nat.not_le.mpr hshort)

/-- The field ends with the blank in front of what follows. -/
theorem take_of_gap {shown : List Char} (hlength : shown.length = 31) {cs : List Char}
    (hcs : ∃ x ∈ cs, isSpace x = false) :
    (shown ++ resume isSpace ' ' .gap cs).take 32 = shown ++ [' '] := by
  obtain ⟨out, hout⟩ := resume_gap_of_letter hcs
  rw [hout, List.take_append, hlength, List.take_of_length_le (by omega)]
  rfl

/-- A name whose umlauts are all past the field is shown. -/
theorem take_tidy_of_umlautsPastField {name : List Char}
    (hname : ∀ c ∈ name, isPilotChar c = true) (h : UmlautsPastField name) :
    (tidy isSpace ' ' (name.flatMap cleanedChar)).take 32 = (transliterated name).take 32 := by
  cases hfind : name.find? isUmlaut with
  | none =>
    have hnone : ∀ c ∈ name, isUmlaut c = false := by simpa using hfind
    rw [flatMap_cleanedChar hname hnone, transliterated]
  | some u =>
    obtain ⟨hu, before, after, rfl, hbefore⟩ := List.find?_eq_some_iff_append.mp hfind
    have hbefore : ∀ c ∈ before, isUmlaut c = false := by simpa using hbefore
    obtain ⟨hplace, hkept⟩ := h before u after rfl hu
    have hsame := flatMap_cleanedChar
      (fun c hc => hname c (List.mem_append_left _ hc)) hbefore
    rw [transliterated, List.flatMap_append, List.flatMap_append, tidy_append, tidy_append, hsame,
      ← transliterated]
    by_cases hfull : 32 ≤ (transliterated before).length
    · rw [List.take_append_of_le_length hfull, List.take_append_of_le_length hfull]
    -- otherwise the field ends with the blank in front of the umlaut: both put it out
    obtain ⟨hgap, hlength⟩ := standing_of_place hu hplace (Nat.lt_of_not_le hfull)
    obtain ⟨c, hc, hcu, hcletter⟩ := hkept (Nat.lt_of_not_le hfull)
    have hmem := List.mem_cons_of_mem u hc
    have hc' := hname c (List.mem_append_right _ hmem)
    obtain ⟨hne, hletters⟩ := (spelled_cases hc').resolve_left hcletter
    obtain ⟨x, hx⟩ := List.exists_mem_of_ne_nil _ hne
    have hcleaned : x ∈ cleanedChar c := by
      rw [cleanedChar_eq hc', hcu]
      exact hx
    rw [hgap, take_of_gap hlength ⟨x, List.mem_flatMap.mpr ⟨c, hmem, hcleaned⟩, hletters x hx⟩,
      take_of_gap hlength ⟨x, List.mem_flatMap.mpr ⟨c, hmem, hx⟩, hletters x hx⟩]

/-- Behind the umlaut at the end of a field something has to follow, or the blank is trimmed. -/
theorem exists_kept_of_take {before after : List Char} {u : Char}
    (hname : ∀ c ∈ before ++ u :: after, isPilotChar c = true) (hu : isUmlaut u = true)
    (hbefore : ∀ c ∈ before, isUmlaut c = false) (hplace : 32 ≤ place before u)
    (hshort : (transliterated before).length < 32)
    (htake : ((tidy isSpace ' ' ((before ++ u :: after).flatMap cleanedChar)).take 32).length =
      ((transliterated (before ++ u :: after)).take 32).length) :
    ∃ c ∈ after, isUmlaut c = false ∧ spelled c ≠ [' '] := by
  by_contra hnone
  have hblank : ∀ x ∈ (u :: after).flatMap cleanedChar, isSpace x = true := by
    intro x hx
    obtain ⟨c, hc, hx⟩ := List.mem_flatMap.mp hx
    have hcleaned : cleanedChar c = [' '] := by
      rcases List.mem_cons.mp hc with rfl | hafter
      · exact cleanedChar_umlaut hu
      · exact cleanedChar_of_not_shown (hname c (List.mem_append_right _ hc)) fun hshown =>
          hnone ⟨c, hafter, hshown⟩
    rw [hcleaned] at hx
    exact List.mem_singleton.mp hx ▸ by decide
  have hsame := flatMap_cleanedChar (fun c hc => hname c (List.mem_append_left _ hc)) hbefore
  have hlong := place_le before after u
  rw [List.flatMap_append, tidy_append, resume_of_blanks hblank, List.append_nil, hsame,
    ← transliterated, List.length_take, List.length_take] at htake
  omega

section Shows

variable {pilotName : String} {slot : Int} {channelLabel : String} {entry : StartblockEntry}

theorem ShowsName.name_eq (h : ShowsName slot channelLabel pilotName entry) :
    entry.name = nameField pilotName := by
  rw [Option.some.inj (h.read.symm.trans (parseStartblock_build slot channelLabel pilotName).1)]

/-- Every umlaut is cleaned to a blank, so none has a place in a field that shows the name. -/
theorem ShowsName.le_place (h : ShowsName slot channelLabel pilotName entry)
    {before after : List Char} {u : Char} (hcut : pilotName.toList = before ++ u :: after)
    (hu : isUmlaut u = true) : 32 ≤ place before u := by
  by_contra hplace
  have hbyte : (0x20 : UInt8) ∈ (cleanedChar u).map asciiByte := by
    rw [cleanedChar_umlaut hu]
    decide
  have hletter := h.letters before u after hcut (spelled_umlaut hu).1 (Nat.lt_of_not_le hplace)
  exact (hletter _ hbyte).1 rfl

theorem ShowsName.umlautsPastField (h : ShowsName slot channelLabel pilotName entry)
    (hname : ∀ c ∈ pilotName.toList, isPilotChar c = true) :
    UmlautsPastField pilotName.toList := by
  intro before u after hcut hu
  refine ⟨h.le_place hcut hu, fun hshort => ?_⟩
  -- an umlaut further in front would have a place in the field
  have hbefore : ∀ c ∈ before, isUmlaut c = false := by
    intro c hc
    by_contra hcu
    obtain ⟨before', after', rfl⟩ := List.append_of_mem hc
    have hplace : 32 ≤ place before' c :=
      h.le_place (by rw [hcut, List.append_assoc]; rfl) ((Bool.not_eq_false _).mp hcu)
    exact absurd (hplace.trans (place_le before' after' c)) (Nat.not_le.mpr hshort)
  have hfield := congrArg List.length (h.name_eq.symm.trans h.name)
  rw [nameField_eq hname, List.length_map, List.length_map, hcut] at hfield
  exact exists_kept_of_take (hcut ▸ hname) hu hbefore (h.le_place hcut hu) hshort hfield

end Shows

/-- **Pilot names.**  The payload of a name shows the name exactly when its umlauts are past the
field. -/
theorem showsName_iff {pilotName : String} (hname : ∀ c ∈ pilotName.toList, isPilotChar c = true)
    (slot : Int) (channelLabel : String) :
    (∃ entry, ShowsName slot channelLabel pilotName entry) ↔
      UmlautsPastField pilotName.toList := by
  constructor
  · rintro ⟨entry, hshows⟩
    exact hshows.umlautsPastField hname
  · intro h
    refine ⟨_, (parseStartblock_build slot channelLabel pilotName).1, ?_, ?_, ?_⟩
    · dsimp only
      rw [nameField_eq hname, take_tidy_of_umlautsPastField hname h]
    · intro before c after hcut hletter hplace
      have hmem : c ∈ pilotName.toList := by
        rw [hcut]
        exact List.mem_append_right _ List.mem_cons_self
      refine cleanedChar_of_isPilotLetter (hname c hmem) hletter (Bool.not_eq_true _ ▸ fun hu => ?_)
      exact absurd (h before c after hcut hu).1 (Nat.not_le.mpr hplace)
    · dsimp only
      exact fun b hb => isFieldChar_of_nameField hname hb

/-- A sharp s is spelled: its upper case is ASCII. -/
theorem showsName_gross : (∀ c ∈ "Groß 7".toList, isPilotChar c = true) ∧
    ∃ entry, ShowsName 1 "R1" "Groß 7" entry := by
  have hname : ∀ c ∈ "Groß 7".toList, isPilotChar c = true :=
    List.all_eq_true.mp (by decide +kernel)
  have hnone : "Groß 7".toList.all (fun c => !isUmlaut c) = true := by decide +kernel
  refine ⟨hname, (showsName_iff hname 1 "R1").mpr fun before u after hcut hu => ?_⟩
  have hmem : u ∈ "Groß 7".toList := by
    rw [hcut]
    exact List.mem_append_right _ List.mem_cons_self
  have hu' := List.all_eq_true.mp hnone u hmem
  rw [hu] at hu'
  cases hu'

/-- An umlaut is not: the field of `Müller` is `M LLER`. -/
theorem showsName_mueller : (∀ c ∈ "Müller".toList, isPilotChar c = true) ∧
    (parseStartblock (buildStartblockPayloadV1 1 "R1" "Müller")).map (fun e => asciiText e.name) =
      some ['M', ' ', 'L', 'L', 'E', 'R'] ∧
    transliterated "Müller".toList = ['M', 'U', 'E', 'L', 'L', 'E', 'R'] ∧
    ¬ ∃ entry, ShowsName 1 "R1" "Müller" entry := by
  have hspec : transliterated "Müller".toList = ['M', 'U', 'E', 'L', 'L', 'E', 'R'] := by
    decide +kernel
  have hfield : asciiText (nameField "Müller") = ['M', ' ', 'L', 'L', 'E', 'R'] := by
    decide +kernel
  have hread := (parseStartblock_build 1 "R1" "Müller").1
  refine ⟨List.all_eq_true.mp (by decide +kernel), ?_, hspec, ?_⟩
  · rw [hread, Option.map_some, hfield]
  · rintro ⟨entry, hshows⟩
    have hname := hshows.name
    rw [Option.some.inj (hshows.read.symm.trans hread), hspec] at hname
    have htext := congrArg asciiText hname
    rw [hfield] at htext
    revert htext
    decide

end RaceLink
