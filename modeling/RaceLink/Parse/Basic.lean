/-
# Parsers over bytes

A parser takes a value from the front of a byte string and leaves the rest.  `Reads p bytes a`
says that `p` takes exactly `bytes`, whatever follows, and gives `a`; its rules follow the
structure of a parser, so that the layout of an encoder and the code of a decoder are matched part
by part.
-/
import Mathlib.Logic.Basic

namespace Parse

/-- A parser of `α`. -/
abbrev Parser (α : Type) := StateT (List UInt8) Option α

variable {α β : Type}

/-- The next byte. -/
def takeByte : Parser UInt8
  | [] => none
  | b :: rest => some (b, rest)

/-- The next bytes, so many of them. -/
def takeBytes : Nat → Parser (List UInt8)
  | 0 => pure []
  | n + 1 => do
    let b ← takeByte
    let bytes ← takeBytes n
    pure (b :: bytes)

/-- A part that is there only when `present`. -/
def takeIf (present : Bool) (p : Parser α) : Parser (Option α) :=
  if present then some <$> p else pure none

/-- The value of a byte string that a parser takes as a whole. -/
def parseAll (p : Parser α) (bytes : List UInt8) : Option α :=
  match p.run bytes with
  | some (a, []) => some a
  | _ => none

/-- `p` takes exactly `bytes` from whatever they are followed by, and gives `a`. -/
def Reads (p : Parser α) (bytes : List UInt8) (a : α) : Prop :=
  ∀ rest, p.run (bytes ++ rest) = some (a, rest)

theorem Reads.pure (a : α) : Reads (Pure.pure a) [] a := fun _ => rfl

/-- **Sequence**: the bytes of two parts, one after the other. -/
theorem Reads.bind {p : Parser α} {q : α → Parser β} {xs ys : List UInt8} {a : α} {b : β}
    (hp : Reads p xs a) (hq : Reads (q a) ys b) : Reads (p >>= q) (xs ++ ys) b := by
  intro rest
  have hpq : (p >>= q).run (xs ++ ys ++ rest)
      = (p.run (xs ++ (ys ++ rest))).bind fun r => (q r.1).run r.2 := by
    rw [List.append_assoc]
    rfl
  rw [hpq, hp, Option.bind_some, hq]

theorem Reads.map {p : Parser α} {xs : List UInt8} {a : α} (f : α → β) (hp : Reads p xs a) :
    Reads (f <$> p) xs (f a) := by
  have h : Reads (p >>= fun x => Pure.pure (f x)) (xs ++ []) (f a) := hp.bind (Reads.pure (f a))
  rw [List.append_nil] at h
  exact h

theorem Reads.takeByte (b : UInt8) : Reads Parse.takeByte [b] b := fun _ => rfl

theorem Reads.takeBytes : ∀ bytes : List UInt8, Reads (Parse.takeBytes bytes.length) bytes bytes
  | [] => Reads.pure []
  | b :: bytes => by
    have h : Reads (Parse.takeBytes (b :: bytes).length) ([b] ++ (bytes ++ [])) (b :: bytes) :=
      (Reads.takeByte b).bind ((Reads.takeBytes bytes).bind (Reads.pure (b :: bytes)))
    rwa [List.append_nil] at h

theorem Reads.takeIf_true {p : Parser α} {xs : List UInt8} {a : α} {present : Bool}
    (hpresent : present = true) (hp : Reads p xs a) : Reads (takeIf present p) xs (some a) := by
  rw [takeIf, if_pos hpresent]
  exact hp.map some

theorem Reads.takeIf_false {p : Parser α} {present : Bool} (hpresent : present = false) :
    Reads (takeIf present p) [] none := by
  rw [takeIf, if_neg (by simp [hpresent])]
  exact Reads.pure none

theorem Reads.parseAll {p : Parser α} {xs : List UInt8} {a : α} (hp : Reads p xs a) :
    parseAll p xs = some a := by
  have h := hp []
  rw [List.append_nil] at h
  rw [Parse.parseAll, h]

end Parse
