/-!
Cutting a text at a separator, putting texts together with one, and replacing a part of a text
wherever it stands.
-/

namespace ImageRelease.Text

/-- The text before and after the first separator. -/
def cutFirst (sep : Char) : List Char → Option (List Char × List Char)
  | [] => none
  | c :: rest =>
    if c = sep then some ([], rest) else (cutFirst sep rest).map fun (a, b) => (c :: a, b)

/-- The text before and after the last separator. -/
def cutLast (sep : Char) : List Char → Option (List Char × List Char)
  | [] => none
  | c :: rest =>
    match cutLast sep rest with
    | some (a, b) => some (c :: a, b)
    | none => if c = sep then some ([], rest) else none

/-- The fields between separators; one more than there are separators. -/
def fields (sep : Char) : List Char → List (List Char)
  | [] => [[]]
  | c :: rest =>
    if c = sep then [] :: fields sep rest
    else match fields sep rest with
      | [] => [[c]]
      | f :: fs => (c :: f) :: fs

/-- The texts one after another, with a separator between any two. -/
def joined (sep : String) : List String → String
  | [] => ""
  | [x] => x
  | x :: y :: rest => x ++ sep ++ joined sep (y :: rest)

/-- Replaces from the left, passing over the first `skip` characters; what a replacement covers is
not looked at again. -/
def replaceFrom (part repl : List Char) : Nat → List Char → List Char
  | _, [] => []
  | skip + 1, _ :: rest => replaceFrom part repl skip rest
  | 0, c :: rest =>
    if part.isPrefixOf (c :: rest) then repl ++ replaceFrom part repl (part.length - 1) rest
    else c :: replaceFrom part repl 0 rest

/-- Replaces each occurrence of a part that is not empty, taken from the left and without
overlap. -/
def replaceAll (part repl : List Char) (l : List Char) : List Char :=
  if part = [] then l else replaceFrom part repl 0 l

def lastChars (n : Nat) (s : String) : String :=
  .ofList (s.toList.drop (s.toList.length - n))

def firstChars (n : Nat) (s : String) : String :=
  .ofList (s.toList.take n)

theorem cutFirst_append {sep : Char} {a b : List Char} (h : sep ∉ a) :
    cutFirst sep (a ++ sep :: b) = some (a, b) := by
  induction a with
  | nil => simp [cutFirst]
  | cons c r ih =>
    simp only [List.mem_cons, not_or] at h
    simp [cutFirst, ih h.2, Ne.symm h.1]

theorem eq_append_of_cutFirst {sep : Char} {l a b : List Char} (h : cutFirst sep l = some (a, b)) :
    l = a ++ sep :: b ∧ sep ∉ a := by
  induction l generalizing a b with
  | nil => simp [cutFirst] at h
  | cons c r ih =>
    by_cases hc : c = sep
    · simp only [cutFirst, hc, ↓reduceIte, Option.some.injEq, Prod.mk.injEq] at h
      obtain ⟨rfl, rfl⟩ := h
      simp [hc]
    · simp only [cutFirst, hc, ↓reduceIte, Option.map_eq_some_iff, Prod.mk.injEq, Prod.exists] at h
      obtain ⟨a', b', h', rfl, rfl⟩ := h
      obtain ⟨rfl, hn⟩ := ih h'
      simp [hn, Ne.symm hc]

theorem cutLast_eq_none {sep : Char} {l : List Char} : cutLast sep l = none ↔ sep ∉ l := by
  induction l with
  | nil => simp [cutLast]
  | cons c r ih =>
    simp only [cutLast, List.mem_cons, not_or, ← ih]
    cases cutLast sep r with
    | some parts => simp
    | none => simp [eq_comm]

theorem eq_append_of_cutLast {sep : Char} {l a b : List Char} (h : cutLast sep l = some (a, b)) :
    l = a ++ sep :: b ∧ sep ∉ b := by
  induction l generalizing a b with
  | nil => simp [cutLast] at h
  | cons c r ih =>
    simp only [cutLast] at h
    split at h
    · case h_1 a' b' hr =>
      cases h
      obtain ⟨rfl, hb⟩ := ih hr
      exact ⟨rfl, hb⟩
    · case h_2 hr =>
      split at h
      · case isTrue hc =>
        cases h
        exact ⟨by rw [hc, List.nil_append], cutLast_eq_none.mp hr⟩
      · cases h

theorem fields_ne_nil (sep : Char) (l : List Char) : fields sep l ≠ [] := by
  cases l with
  | nil => simp [fields]
  | cons c r =>
    simp only [fields]
    split
    · simp
    · split <;> simp

theorem toList_joined_cons (sep x y : String) (rest : List String) :
    (joined sep (x :: y :: rest)).toList =
      x.toList ++ sep.toList ++ (joined sep (y :: rest)).toList := by
  rw [joined, String.toList_append, String.toList_append]

end ImageRelease.Text
