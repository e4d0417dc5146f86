/-!
Surrogates: the halves of pairs that stand for one character.

A character beyond the first plane takes two units of sixteen bits, a high surrogate and a low one.
One of the two alone is no character, but a text that comes as escapes or as units can have it. It
is kept as the character of a private plane that has the same last sixteen bits; `code` tells which
unit that was, and for every other character it is the code point.

A text that the system gives, such as a name or a variable, may have bytes that are no UTF-8. Each
of them has a low surrogate of its own, and is that byte again when the system gets the text back.
-/

namespace ImageRelease.Text

namespace Surrogate

def isHigh (n : Nat) : Bool := 0xD800 ≤ n && n ≤ 0xDBFF

def isLow (n : Nat) : Bool := 0xDC00 ≤ n && n ≤ 0xDFFF

/-- The character that a high and a low surrogate stand for. -/
def pair (high low : Nat) : Char :=
  Char.ofNat (0x10000 + (high - 0xD800) * 0x400 + (low - 0xDC00))

/-- How far on the characters lie that hold the places of surrogates. -/
def distance : Nat := 0xF0000

/-- The character of one unit; a surrogate has one that holds its place. -/
def ofUnit (n : Nat) : Char :=
  if isHigh n || isLow n then Char.ofNat (distance + n) else Char.ofNat n

/-- Whether a character holds the place of a surrogate. -/
def isAlone (c : Char) : Bool :=
  isHigh (c.toNat - distance) || isLow (c.toNat - distance)

/-- The code point of a character, or the surrogate whose place it holds. -/
def code (c : Char) : Nat :=
  if isAlone c then c.toNat - distance else c.toNat

/-- A choice of the characters that hold the places of surrogates, all of them for private use.
Texts that come as escapes or as units have the usual ones. What is said for every choice is also
said of a text that has some of these as characters of its own. -/
structure Places where
  /-- The surrogate whose place a character holds. -/
  surrogate? : Char → Option Nat
  isPrivate : ∀ c n, surrogate? c = some n → distance ≤ c.toNat
  isSurrogate : ∀ c n, surrogate? c = some n → (isHigh n || isLow n) = true
  once : ∀ c d n, surrogate? c = some n → surrogate? d = some n → c = d

namespace Places

def holds (places : Places) (c : Char) : Bool :=
  (places.surrogate? c).isSome

/-- The code point of a character, or the surrogate whose place it holds. -/
def code (places : Places) (c : Char) : Nat :=
  (places.surrogate? c).getD c.toNat

/-- Whether a character holds the place of a byte of the system that is no UTF-8. -/
def isByte (places : Places) (c : Char) : Bool :=
  match places.surrogate? c with
  | some n => 0xDC80 ≤ n && n ≤ 0xDCFF
  | none => false

/-- The places of `isAlone`. -/
def usual : Places where
  surrogate? c := if isAlone c then some (c.toNat - distance) else none
  isPrivate c n h := by
    simp only [isAlone, isHigh, isLow, Bool.or_eq_true, Bool.and_eq_true, decide_eq_true_eq,
      Option.ite_none_right_eq_some] at h
    omega
  isSurrogate c n h := by
    obtain ⟨alone, h⟩ := Option.ite_none_right_eq_some.mp h
    exact Option.some.inj h ▸ alone
  once c d n hc hd := by
    simp only [isAlone, isHigh, isLow, Bool.or_eq_true, Bool.and_eq_true, decide_eq_true_eq,
      Option.ite_none_right_eq_some, Option.some.injEq] at hc hd
    exact Char.toNat_inj.mp (by omega)

@[simp] theorem holds_usual : usual.holds = isAlone := by
  funext c
  simp only [holds, usual]
  split <;> simp_all

end Places

end Surrogate

open Surrogate (Places)

/-- The code points of a text, with the surrogates among them. -/
def codes (s : String) (places : Places := .usual) : List Nat :=
  s.toList.map places.code

/-- Whether two texts stand in the order of their code points: the second does not come first. -/
def inOrder (a b : String) (places : Places := .usual) : Bool :=
  !(codes b places).lex (codes a places) Nat.blt

/-- The size of a text in the bytes of the system. -/
def systemSize (s : String) (places : Places := .usual) : Nat :=
  s.toList.foldr (fun c size => (if places.isByte c then 1 else c.utf8Size) + size) 0

theorem systemSize_append (s t : String) (places : Places) :
    systemSize (s ++ t) places = systemSize s places + systemSize t places := by
  unfold systemSize
  rw [String.toList_append]
  induction s.toList with
  | nil => simp
  | cons c rest ih => rw [List.cons_append, List.foldr_cons, List.foldr_cons, ih, Nat.add_assoc]

/-- Whether the system can be given a text: without a NUL, and with surrogates for bytes alone. -/
def isForSystem (s : String) (places : Places := .usual) : Bool :=
  s.toList.all fun c => c != Char.ofNat 0 && (!places.holds c || places.isByte c)

end ImageRelease.Text
