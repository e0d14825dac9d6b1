/-
# Slugs

`_slugify` cuts a text down to runs of `[a-z0-9]` with single underscores between them.  A text that
has this form already is its own slug (`slugText_of_isSlug`), and so is such a text with the number
`_unique_key` puts at its end (`isSlug_numbered`): the keys of a store are slugs, and slugging them
again does not change them.
-/
import RaceLink.Stores.Shared
import Mathlib.Data.List.Chain
import Mathlib.Data.List.TakeWhile

namespace RaceLink

open Python

/-! ## 1. Stripping -/

/-- Neither end is a character that `p` accepts. -/
def Trimmed (p : Char → Bool) (cs : List Char) : Prop :=
  (∀ c ∈ cs.head?, p c = false) ∧ ∀ c ∈ cs.getLast?, p c = false

theorem dropWhile_of_head {p : Char → Bool} {cs : List Char} (h : ∀ c ∈ cs.head?, p c = false) :
    cs.dropWhile p = cs := by
  cases cs with
  | nil => rfl
  | cons c cs => rw [List.dropWhile_cons_of_neg (by simp [h c rfl])]

theorem head_dropWhile (p : Char → Bool) (cs : List Char) :
    ∀ c ∈ (cs.dropWhile p).head?, p c = false := by
  intro c hc
  have h := List.head?_dropWhile_not p cs
  rw [Option.mem_def.mp hc] at h
  exact h

/-- A trimmed text is not stripped of anything. -/
theorem stripChars_of_trimmed {p : Char → Bool} {cs : List Char} (h : Trimmed p cs) :
    stripChars p cs = cs := by
  have hlast : ∀ c ∈ cs.reverse.head?, p c = false := by
    rw [List.head?_reverse]
    exact h.2
  rw [stripChars, dropWhile_of_head h.1, dropWhile_of_head hlast, List.reverse_reverse]

/-- What is left after both ends begins where the first one was cut. -/
theorem stripChars_start (p : Char → Bool) (cs : List Char) :
    stripChars p cs <+: cs.dropWhile p := by
  have hsuffix := List.dropWhile_suffix p (l := (cs.dropWhile p).reverse)
  simpa [stripChars] using List.reverse_prefix.mpr hsuffix

/-- What is stripped is a part of the text. -/
theorem stripChars_part (p : Char → Bool) (cs : List Char) : stripChars p cs <:+: cs :=
  (stripChars_start p cs).isInfix.trans (List.dropWhile_suffix p).isInfix

/-- **What is stripped** is trimmed. -/
theorem stripChars_trimmed (p : Char → Bool) (cs : List Char) : Trimmed p (stripChars p cs) := by
  constructor
  · intro c hc
    obtain ⟨rest, hrest⟩ := stripChars_start p cs
    refine head_dropWhile p cs c ?_
    rw [← hrest, List.head?_append, Option.mem_def.mp hc]
    rfl
  · intro c hc
    rw [stripChars, List.getLast?_reverse] at hc
    exact head_dropWhile p _ c hc

/-- `s.strip().strip()` is `s.strip()`. -/
theorem strip_strip (s : String) : strip (strip s) = strip s := by
  rw [strip, strip, String.toList_ofList, stripChars_of_trimmed (stripChars_trimmed _ _)]

/-! ## 2. Slugs -/

/-- `[a-z0-9]` or an underscore. -/
def SlugText (c : Char) : Prop := isSlugChar c = true ∨ c = '_'

/-- Runs of `[a-z0-9]`, with single underscores between them. -/
structure IsSlug (cs : List Char) : Prop where
  nonempty : cs ≠ []
  chars : ∀ c ∈ cs, SlugText c
  spaced : cs.IsChain fun a b => isSlugChar a = true ∨ isSlugChar b = true
  trimmed : Trimmed (· == '_') cs

/-- The characters `_slugify` keeps, and one underscore for each run of others. -/
theorem slugChars_spec (cs : List Char) : ∀ inRun,
    (∀ c ∈ slugChars inRun cs, SlugText c) ∧
      (slugChars inRun cs).IsChain (fun a b => isSlugChar a = true ∨ isSlugChar b = true) ∧
      (inRun = true → ∀ c ∈ (slugChars inRun cs).head?, isSlugChar c = true) := by
  induction cs with
  | nil => intro inRun; simp [slugChars]
  | cons c cs ih =>
    intro inRun
    rw [slugChars]
    by_cases hc : isSlugChar c = true
    · obtain ⟨hchars, hchain, -⟩ := ih false
      rw [if_pos hc]
      refine ⟨?_, List.isChain_cons.mpr ⟨fun _ _ => Or.inl hc, hchain⟩, fun _ d hd => ?_⟩
      · exact List.forall_mem_cons.mpr ⟨Or.inl hc, hchars⟩
      · cases hd
        exact hc
    · rw [if_neg hc]
      obtain ⟨hchars, hchain, hhead⟩ := ih true
      cases inRun with
      | true => exact ⟨hchars, hchain, hhead⟩
      | false =>
        refine ⟨List.forall_mem_cons.mpr ⟨Or.inr rfl, hchars⟩, ?_, fun h => nomatch h⟩
        exact List.isChain_cons.mpr ⟨fun d hd => Or.inr (hhead rfl d hd), hchain⟩

/-- A spaced text is kept as it is. -/
theorem slugChars_of_spaced {cs : List Char} (hchars : ∀ c ∈ cs, SlugText c)
    (hspaced : cs.IsChain fun a b => isSlugChar a = true ∨ isSlugChar b = true) :
    slugChars false cs = cs ∧
      ((∀ c ∈ cs.head?, isSlugChar c = true) → slugChars true cs = cs) := by
  induction cs with
  | nil => exact ⟨rfl, fun _ => rfl⟩
  | cons c cs ih =>
    obtain ⟨hc, hcs⟩ := List.forall_mem_cons.mp hchars
    obtain ⟨hnext, hspaced⟩ := List.isChain_cons.mp hspaced
    obtain ⟨hfalse, htrue⟩ := ih hcs hspaced
    by_cases hslug : isSlugChar c = true
    · rw [slugChars, slugChars, if_pos hslug, if_pos hslug, hfalse]
      exact ⟨rfl, fun _ => rfl⟩
    · obtain rfl : c = '_' := hc.resolve_left hslug
      refine ⟨?_, fun hhead => absurd (hhead _ rfl) hslug⟩
      rw [slugChars, if_neg hslug, if_neg Bool.false_ne_true,
        htrue fun d hd => (hnext d hd).resolve_left hslug]

/-- The characters of a slug are neither blank nor upper case. -/
theorem slugText_plain {c : Char} (h : SlugText c) :
    isSpace c = false ∧ lowerChar c = [c] := by
  rcases h with h | rfl
  · have hrange : (0x61 ≤ c.toNat ∧ c.toNat ≤ 0x7a) ∨ (0x30 ≤ c.toNat ∧ c.toNat ≤ 0x39) := by
      simpa [isSlugChar] using h
    constructor
    · simp [isSpace]
      omega
    · rw [lowerChar, if_neg (by omega), if_neg (by omega), if_neg (by omega)]
  · exact ⟨rfl, rfl⟩

/-- The text `_slugify` makes, before it looks whether there is one. -/
def slugText (text : String) : List Char :=
  stripChars (· == '_') (slugChars false (lower (strip text)).toList)

/-- It is a slug if there is one. -/
theorem isSlug_slugText {text : String} (h : slugText text ≠ []) : IsSlug (slugText text) := by
  obtain ⟨hchars, hspaced, -⟩ := slugChars_spec (lower (strip text)).toList false
  have hpart := stripChars_part (· == '_') (slugChars false (lower (strip text)).toList)
  exact ⟨h, fun c hc => hchars c (hpart.subset hc), hspaced.infix hpart, stripChars_trimmed _ _⟩

/-- **A slug is its own slug.** -/
theorem slugText_of_isSlug {s : String} (h : IsSlug s.toList) : slugText s = s.toList := by
  have hstrip : stripChars isSpace s.toList = s.toList :=
    stripChars_of_trimmed
      ⟨fun c hc => (slugText_plain (h.chars c (List.mem_of_mem_head? hc))).1,
        fun c hc => (slugText_plain (h.chars c (List.mem_of_getLast? hc))).1⟩
  have hlower : s.toList.flatMap lowerChar = s.toList := by
    have hone : ∀ c ∈ s.toList, lowerChar c = [c] := fun c hc => (slugText_plain (h.chars c hc)).2
    rw [List.flatMap_congr hone, List.flatMap_singleton']
  rw [slugText, lower, strip, String.toList_ofList, String.toList_ofList, hstrip, hlower,
    (slugChars_of_spaced h.chars h.spaced).1, stripChars_of_trimmed h.trimmed]

theorem isSlugChar_digit {c : Char} {n : Nat} (h : c ∈ Nat.toDigits 10 n) :
    isSlugChar c = true := by
  have hdigit := Nat.isDigit_of_mem_toDigits (by decide) (by decide) h
  simp only [Char.isDigit, Bool.and_eq_true, decide_eq_true_eq, ge_iff_le, UInt32.le_iff_toNat_le]
    at hdigit
  have hrange : 0x30 ≤ c.toNat ∧ c.toNat ≤ 0x39 := hdigit
  simp [isSlugChar, hrange]

theorem getLast?_underscore {cs ds : List Char} (hds : ds ≠ []) :
    (cs ++ '_' :: ds).getLast? = ds.getLast? := by
  rw [List.getLast?_append, List.getLast?_cons]
  cases hlast : ds.getLast? with
  | none => exact absurd (List.getLast?_eq_none_iff.mp hlast) hds
  | some d => rfl

/-- A slug with a number at the end is a slug. -/
theorem isSlug_numbered {s : String} (h : IsSlug s.toList) (n : Nat) :
    IsSlug s!"{s}_{n}".toList := by
  have hlist : s!"{s}_{n}".toList = s.toList ++ '_' :: Nat.toDigits 10 n := by
    show (s ++ "_" ++ toString n).toList = _
    rw [String.toList_append, String.toList_append, Nat.toString_eq_ofList_toDigits]
    simp
  have hdigits : ∀ c ∈ Nat.toDigits 10 n, isSlugChar c = true := fun c hc => isSlugChar_digit hc
  have hnonempty : Nat.toDigits 10 n ≠ [] := Nat.toDigits_ne_nil
  rw [hlist]
  refine ⟨by simp, ?_, ?_, ?_, ?_⟩
  · intro c hc
    rcases List.mem_append.mp hc with hc | hc
    · exact h.chars c hc
    · rcases List.mem_cons.mp hc with rfl | hc
      · exact Or.inr rfl
      · exact Or.inl (hdigits c hc)
  · refine h.spaced.append (List.isChain_cons.mpr ⟨fun d hd => ?_, ?_⟩) fun c hc d hd => ?_
    · exact Or.inr (hdigits d (List.mem_of_mem_head? hd))
    · refine List.Pairwise.isChain (List.pairwise_iff_forall_sublist.mpr fun hsub => ?_)
      exact Or.inl (hdigits _ (hsub.subset List.mem_cons_self))
    · cases hd
      have hlast := h.trimmed.2 c hc
      exact Or.inl ((h.chars c (List.mem_of_getLast? hc)).resolve_right (by simpa using hlast))
  · intro c hc
    refine h.trimmed.1 c ?_
    rwa [List.head?_append_of_ne_nil _ h.nonempty] at hc
  · intro c hc
    rw [getLast?_underscore hnonempty] at hc
    have hslug := hdigits c (List.mem_of_getLast? hc)
    have hne : c ≠ '_' := fun heq => absurd (heq ▸ hslug) (by decide)
    simpa using hne

end RaceLink
