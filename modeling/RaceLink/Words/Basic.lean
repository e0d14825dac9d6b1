/-
# Words

A list is cut at its blanks into words, and the words are joined with one separator between two:
`tidy`.  It trims a text and collapses its blanks at once.

`tidier` does the same on one reading from the left.  It puts a separator out only when the next
word begins, so what it has put out stays: `tidy_append` cuts a text anywhere, and the rest depends
on the text before it through `Standing` only.
-/
import RaceLink.Lts.Transducer
import Mathlib.Data.List.DropRight

namespace Words

open Lts

variable {α : Type} {blank : α → Bool} {sep : α}

/-! ## 1. Words and their text -/

/-- The words between the blanks. -/
def words (blank : α → Bool) (xs : List α) : List (List α) :=
  (xs.splitOnP blank).filter fun w => !w.isEmpty

/-- The words, one separator between two. -/
def unwords (sep : α) (ws : List (List α)) : List α := [sep].intercalate ws

/-- Trimmed, and every run of blanks one separator. -/
def tidy (blank : α → Bool) (sep : α) (xs : List α) : List α := unwords sep (words blank xs)

/-- The words after the first, each behind its separator. -/
def moreWords (sep : α) (ws : List (List α)) : List α := ws.flatMap (sep :: ·)

theorem unwords_cons (sep : α) (w : List α) (ws : List (List α)) :
    unwords sep (w :: ws) = w ++ moreWords sep ws := by
  induction ws generalizing w with
  | nil => simp [unwords, moreWords]
  | cons w' ws ih =>
    have htail : unwords sep (w :: w' :: ws) = w ++ sep :: unwords sep (w' :: ws) := by
      simp [unwords, List.intercalate]
    rw [htail, ih, moreWords, moreWords, List.flatMap_cons, List.cons_append]

theorem words_cons_of_blank {x : α} (hx : blank x = true) (xs : List α) :
    words blank (x :: xs) = words blank xs := by
  rw [words, List.splitOnP_cons_eq_if_modifyHead, if_pos hx]
  rfl

/-! ## 2. One reading -/

/-- Where a reader stands: before the first word, in a word, or behind one. -/
inductive Standing where
  | start
  | word
  | gap
  deriving DecidableEq

/-- What the next word has in front of it. -/
def Standing.lead (sep : α) : Standing → List α
  | .gap => [sep]
  | _ => []

/-- Where a blank leads. -/
def Standing.rest : Standing → Standing
  | .start => .start
  | _ => .gap

/-- The words as they are read, each letter at once and a separator with the letter behind it. -/
def tidier (blank : α → Bool) (sep : α) : Transducer Standing α α := fun s x =>
  if blank x then (s.rest, []) else (.word, s.lead sep ++ [x])

/-- Where the reader stands after a text. -/
def standing (blank : α → Bool) (sep : α) (xs : List α) : Standing :=
  (feed (tidier blank sep) .start xs).1

/-- What it puts out for the rest of a text. -/
def resume (blank : α → Bool) (sep : α) (s : Standing) (xs : List α) : List α :=
  (feed (tidier blank sep) s xs).2

theorem resume_cons_of_blank {x : α} (hx : blank x = true) (s : Standing) (xs : List α) :
    resume blank sep s (x :: xs) = resume blank sep s.rest xs := by
  simp [resume, feed, tidier, hx]

theorem resume_cons_of_letter {x : α} (hx : blank x = false) (s : Standing) (xs : List α) :
    resume blank sep s (x :: xs) = s.lead sep ++ x :: resume blank sep .word xs := by
  simp [resume, feed, tidier, hx]

/-- What the reader puts out, in terms of the words: the word it stands in goes on, and each
other word has its separator. -/
theorem resume_eq (xs : List α) :
    (∀ w ws, xs.splitOnP blank = w :: ws →
      resume blank sep .word xs = w ++ moreWords sep (ws.filter fun w => !w.isEmpty)) ∧
    resume blank sep .gap xs = moreWords sep (words blank xs) ∧
    resume blank sep .start xs = tidy blank sep xs := by
  induction xs with
  | nil =>
    refine ⟨fun w ws h => ?_, rfl, rfl⟩
    cases h
    rfl
  | cons x xs ih =>
    obtain ⟨hword, hgap, hstart⟩ := ih
    cases hx : blank x with
    | true =>
      rw [tidy, words_cons_of_blank hx]
      simp only [resume_cons_of_blank hx, Standing.rest]
      refine ⟨fun w ws h => ?_, hgap, hstart⟩
      rw [List.splitOnP_cons_eq_if_modifyHead, if_pos hx] at h
      cases h
      exact hgap
    | false =>
      obtain ⟨w, ws, hsplit⟩ := List.exists_cons_of_ne_nil (List.splitOnP_ne_nil blank xs)
      have hword := hword w ws hsplit
      have hcons : (x :: xs).splitOnP blank = (x :: w) :: ws := by
        rw [List.splitOnP_cons_eq_if_modifyHead, if_neg (by simp [hx]), hsplit]
        rfl
      have hwords : words blank (x :: xs) = (x :: w) :: ws.filter fun w => !w.isEmpty := by
        rw [words, hcons]
        rfl
      simp only [resume_cons_of_letter hx, hword]
      refine ⟨fun w' ws' h => ?_, ?_, ?_⟩
      · rw [hcons] at h
        cases h
        rfl
      · rw [hwords]
        rfl
      · rw [tidy, hwords, unwords_cons]
        rfl

/-- **One reading** is enough. -/
theorem tidy_eq (xs : List α) : tidy blank sep xs = resume blank sep .start xs :=
  (resume_eq xs).2.2.symm

/-! ## 3. A text, cut -/

theorem resume_append (s : Standing) (xs ys : List α) :
    resume blank sep s (xs ++ ys) = resume blank sep s xs ++
      resume blank sep (feed (tidier blank sep) s xs).1 ys := by
  have h : Feeds (tidier blank sep) s (xs ++ ys) _ _ := Feeds.append rfl rfl
  rw [resume, h]
  rfl

/-- **A text in two parts**: the second part goes on where the first left off. -/
theorem tidy_append (xs ys : List α) :
    tidy blank sep (xs ++ ys) =
      tidy blank sep xs ++ resume blank sep (standing blank sep xs) ys := by
  rw [tidy_eq, tidy_eq, resume_append]
  rfl

/-- Blanks put nothing out. -/
theorem resume_of_blanks {xs : List α} (h : ∀ x ∈ xs, blank x = true) (s : Standing) :
    resume blank sep s xs = [] := by
  induction xs generalizing s with
  | nil => rfl
  | cons x xs ih =>
    obtain ⟨hx, hxs⟩ := List.forall_mem_cons.mp h
    rw [resume_cons_of_blank hx, ih hxs]

/-- A word goes on the text as it is. -/
theorem resume_of_word {w : List α} (h : ∀ x ∈ w, blank x = false) (hne : w ≠ [])
    (s : Standing) : resume blank sep s w = s.lead sep ++ w := by
  have hinside : ∀ w : List α, (∀ x ∈ w, blank x = false) → resume blank sep .word w = w := by
    intro w
    induction w with
    | nil => exact fun _ => rfl
    | cons x w ih =>
      intro h
      obtain ⟨hx, hw⟩ := List.forall_mem_cons.mp h
      rw [resume_cons_of_letter hx, ih hw]
      rfl
  cases w with
  | nil => exact absurd rfl hne
  | cons x w =>
    obtain ⟨hx, hw⟩ := List.forall_mem_cons.mp h
    rw [resume_cons_of_letter hx, hinside w hw]

/-- Behind a word and a blank, the next letter brings the separator. -/
theorem resume_gap_of_letter {xs : List α} (h : ∃ x ∈ xs, blank x = false) :
    ∃ out, resume blank sep .gap xs = sep :: out := by
  induction xs with
  | nil =>
    obtain ⟨x, hx, -⟩ := h
    cases hx
  | cons x xs ih =>
    cases hx : blank x with
    | true =>
      obtain ⟨y, hy, hblank⟩ := h
      rcases List.mem_cons.mp hy with rfl | hy
      · rw [hx] at hblank
        cases hblank
      · rw [resume_cons_of_blank hx]
        exact ih ⟨y, hy, hblank⟩
    | false => exact ⟨_, resume_cons_of_letter hx _ _⟩

theorem mem_resume {s : Standing} {xs : List α} {x : α} (h : x ∈ resume blank sep s xs) :
    x = sep ∨ x ∈ xs := by
  induction xs generalizing s with
  | nil => cases h
  | cons y xs ih =>
    cases hy : blank y with
    | true =>
      rw [resume_cons_of_blank hy] at h
      exact (ih h).imp_right (List.mem_cons_of_mem y)
    | false =>
      rw [resume_cons_of_letter hy, List.mem_append, List.mem_cons] at h
      rcases h with hlead | rfl | h
      · cases s with
        | start => cases hlead
        | word => cases hlead
        | gap => exact Or.inl (List.mem_singleton.mp hlead)
      · exact Or.inr List.mem_cons_self
      · exact (ih h).imp_right (List.mem_cons_of_mem y)

/-- Nothing new but the separator. -/
theorem mem_tidy {xs : List α} {x : α} (h : x ∈ tidy blank sep xs) : x = sep ∨ x ∈ xs := by
  rw [tidy_eq] at h
  exact mem_resume h

/-- **Blanks at the ends** do not matter. -/
theorem tidy_blanks {before after : List α} (hbefore : ∀ x ∈ before, blank x = true)
    (hafter : ∀ x ∈ after, blank x = true) (xs : List α) :
    tidy blank sep (before ++ xs ++ after) = tidy blank sep xs := by
  have hstart : tidy blank sep (before ++ xs) = tidy blank sep xs := by
    induction before with
    | nil => rfl
    | cons x before ih =>
      obtain ⟨hx, hbefore⟩ := List.forall_mem_cons.mp hbefore
      rw [← ih hbefore, tidy, tidy, List.cons_append, words_cons_of_blank hx]
  rw [tidy_append, resume_of_blanks hafter, List.append_nil, hstart]

end Words
