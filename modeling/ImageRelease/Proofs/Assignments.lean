import ImageRelease.Proofs.Version

/-!
What a properties text assigns.

The reader goes through a text line by line and keeps a table of what it has met. Its rule is said
of the lines alone: a line assigns if, without the blanks at its ends, it is not empty, does not
begin with the mark of a comment, and has an equals sign. `parse_assigns` says that the table has
the keys of these lines, in the order in which they first come up, each with the value of its last
line, whatever stood there before.
-/

namespace ImageRelease

namespace Text

/-! ### Lines -/

/-- What ends a line: one of the characters for it, or a carriage return and a line feed. -/
def IsEnd (e : List Char) : Prop :=
  e = ['\r', '\n'] ∨ ∃ c, isLineEnd c = true ∧ e = [c]

/-- A text and its lines. A line goes up to the first end, which takes as much as it can, and the
end of the text ends a line that is not empty. -/
inductive Lined : List Char → List (List Char) → Prop
  | nil : Lined [] []
  | last {line : List Char} (some : line ≠ []) (plain : ∀ c ∈ line, isLineEnd c = false) :
      Lined line [line]
  | ended {l e rest : List Char} {more : List (List Char)}
      (plain : ∀ c ∈ l, isLineEnd c = false) (isEnd : IsEnd e)
      (whole : e = ['\r'] → rest.head? ≠ some '\n') (lined : Lined rest more) :
      Lined (l ++ e ++ rest) (l :: more)

lemma Lined.onFirst {c : Char} (h : isLineEnd c = false) {text : List Char}
    {ls : List (List Char)} (lined : Lined text ls) : Lined (c :: text) (onFirst c ls) := by
  have plain {line : List Char} (rest : ∀ d ∈ line, isLineEnd d = false) :
      ∀ d ∈ c :: line, isLineEnd d = false := List.forall_mem_cons.mpr ⟨h, rest⟩
  cases lined with
  | nil => exact .last (List.cons_ne_nil _ _) (plain nofun)
  | last _ rest => exact .last (List.cons_ne_nil _ _) (plain rest)
  | ended rest isEnd whole more => exact .ended (l := c :: _) (plain rest) isEnd whole more

lemma lined_lines (text : List Char) : Lined text (lines text) := by
  fun_induction lines text with
  | case1 => exact .nil
  | case2 rest ih => exact .ended (l := []) nofun (.inl rfl) nofun ih
  | case3 c rest other ends ih =>
    -- a carriage return with a line feed after it is the case before
    refine .ended (l := []) (e := [c]) nofun (.inr ⟨c, ends, rfl⟩) (fun cr feed => ?_) ih
    obtain ⟨after, rfl⟩ := List.head?_eq_some_iff.mp feed
    exact other after (List.singleton_inj.mp cr) rfl
  | case4 c rest other plain ih => exact ih.onFirst (Bool.eq_false_iff.mpr plain)

/-! ### Parts of a line -/

lemma cutFirst_of_mem {sep : Char} {l : List Char} (h : sep ∈ l) :
    cutFirst sep l = some (l.takeWhile (· != sep), (l.dropWhile (· != sep)).drop 1) := by
  have before : sep ∉ l.takeWhile (· != sep) := fun hm => by
    have other := List.mem_takeWhile_imp hm
    simp at other
  cases rest : l.dropWhile (· != sep) with
  | nil =>
    have all := List.dropWhile_eq_nil_iff.mp rest sep h
    simp at all
  | cons c after =>
    have first : c = sep := by
      have stopped := List.head?_dropWhile_not (· != sep) l
      rw [rest, List.head?_cons] at stopped
      simpa using stopped
    have parts : l = l.takeWhile (· != sep) ++ sep :: after := by
      rw [first] at rest
      rw [← rest, List.takeWhile_append_dropWhile]
    calc cutFirst sep l
        = cutFirst sep (l.takeWhile (· != sep) ++ sep :: after) := by rw [← parts]
      _ = some (l.takeWhile (· != sep), after) := cutFirst_append before

lemma cutFirst_of_not_mem {sep : Char} {l : List Char} (h : sep ∉ l) : cutFirst sep l = none := by
  cases cut : cutFirst sep l with
  | none => rfl
  | some parts =>
    obtain ⟨whole, -⟩ := eq_append_of_cutFirst (a := parts.1) (b := parts.2) cut
    exact absurd (by rw [whole]; simp) h

end Text

namespace Properties

open Text

/-! ### What lines assign -/

/-- A line that assigns a value to a key. -/
def IsAssignment (line : List Char) : Prop :=
  trim line ≠ [] ∧ (trim line).head? ≠ some '#' ∧ (trim line).head? ≠ some '!' ∧ '=' ∈ trim line

instance : DecidablePred IsAssignment := fun _ => inferInstanceAs (Decidable (_ ∧ _ ∧ _ ∧ _))

/-- What stands before the first equals sign of a line, without the blanks at its ends. -/
def keyOf (line : List Char) : String :=
  .ofList (trim ((trim line).takeWhile (· != '=')))

/-- What stands after the first equals sign of a line, without the blanks at its ends. -/
def valueOf (line : List Char) : String :=
  .ofList (trim (((trim line).dropWhile (· != '=')).drop 1))

/-- The lines of a text that assign something. -/
def assigning (text : List Char) : List (List Char) :=
  (lines text).filter IsAssignment

/-- A line is the last one that assigns to its key. -/
def IsLast (text line : List Char) : Prop :=
  ∃ before after, assigning text = before ++ line :: after ∧
    ∀ later ∈ after, keyOf later ≠ keyOf line

lemma assignment?_of_assigns {line : List Char} (h : IsAssignment line) :
    ∃ key value, assignment? line = some (key, value) ∧ String.ofList key = keyOf line ∧
      String.ofList value = valueOf line := by
  obtain ⟨some, number, mark, equals⟩ := h
  refine ⟨_, _, ?_, rfl, rfl⟩
  unfold assignment?
  cases trimmed : trim line with
  | nil => exact absurd trimmed some
  | cons c rest =>
    rw [trimmed, List.head?_cons, ne_eq, Option.some_inj] at number mark
    rw [trimmed] at equals
    simp only [number, mark, or_self, ↓reduceIte, cutFirst_of_mem equals, Option.map_some]

lemma assignment?_of_other {line : List Char} (h : ¬IsAssignment line) :
    assignment? line = none := by
  unfold assignment?
  cases trimmed : trim line with
  | nil => rfl
  | cons c rest =>
    by_cases comment : c = '#' ∨ c = '!'
    · simp only [comment, ↓reduceIte]
    · have equals : '=' ∉ c :: rest := fun equals => by
        rw [not_or] at comment
        exact h ⟨by simp [trimmed], by simp [trimmed, comment], by simp [trimmed, comment],
          by rwa [trimmed]⟩
      simp only [comment, ↓reduceIte, cutFirst_of_not_mem equals, Option.map_none]

/-- The assignments of a text are those of its lines that assign something. -/
lemma assignments_eq (text : List Char) :
    assignments text = (assigning text).map fun line => (keyOf line, valueOf line) := by
  unfold assignments assigning
  induction lines text with
  | nil => rfl
  | cons line rest ih =>
    by_cases assigns : IsAssignment line
    · obtain ⟨key, value, found, hk, hv⟩ := assignment?_of_assigns assigns
      simp only [List.filterMap_cons, found, List.map_cons, ih, List.filter_cons, assigns,
        decide_true, ↓reduceIte, hk, hv]
    · simp only [List.filterMap_cons, assignment?_of_other assigns, ih, List.filter_cons, assigns,
        decide_false, Bool.false_eq_true, ↓reduceIte]

/-- The last line for a key is the one after which there is no other. -/
lemma getLast?_eq_some {text line : List Char} {key : String} :
    ((assigning text).filter (keyOf · == key)).getLast? = some line ↔
      IsLast text line ∧ keyOf line = key := by
  rw [List.getLast?_filter, List.find?_eq_some_iff_append]
  constructor
  · rintro ⟨same, after, before, parts, others⟩
    obtain rfl : keyOf line = key := by simpa using same
    refine ⟨⟨before.reverse, after.reverse, ?_, fun later hl => ?_⟩, rfl⟩
    · rw [← List.reverse_reverse (assigning text), parts]
      simp
    · simpa using others later (List.mem_reverse.mp hl)
  · rintro ⟨⟨before, after, parts, others⟩, rfl⟩
    refine ⟨by simp, after.reverse, before.reverse, by simp [parts], fun later hl => ?_⟩
    simpa using others later (List.mem_reverse.mp hl)

lemma get?_parse (text : List Char) (key value : String) :
    Entries.get? key (parse text) = some value ↔
      ∃ line, IsLast text line ∧ keyOf line = key ∧ valueOf line = value := by
  have found : Entries.get? key (parse text) =
      (((assigning text).filter (keyOf · == key)).getLast?).map valueOf := by
    rw [parse, Entries.get?_ofPairs, assignments_eq, List.filter_map, List.getLast?_map,
      Option.map_map]
    rfl
  rw [found, Option.map_eq_some_iff]
  constructor
  · rintro ⟨line, last, same⟩
    obtain ⟨isLast, key_eq⟩ := getLast?_eq_some.mp last
    exact ⟨line, isLast, key_eq, same⟩
  · rintro ⟨line, isLast, key_eq, same⟩
    exact ⟨line, getLast?_eq_some.mpr ⟨isLast, key_eq⟩, same⟩

/-- **What a text assigns**: the keys are those of the lines that assign something, in the order in
which they first come up, and each has the value of the last line that assigns to it. The version
under a key is that value if it is not empty; an earlier one does not count then. -/
theorem parse_assigns (text : List Char) :
    Lined text (lines text) ∧
      Entries.names (parse text) = ((assigning text).map keyOf).eraseDups ∧
      (∀ key value, Entries.get? key (parse text) = some value ↔
        ∃ line, IsLast text line ∧ keyOf line = key ∧ valueOf line = value) ∧
      ∀ key value, version? text key = some value ↔
        value ≠ "" ∧ ∃ line, IsLast text line ∧ keyOf line = key ∧ valueOf line = value := by
  refine ⟨lined_lines text, ?_, get?_parse text, fun key value => ?_⟩
  · rw [parse, Entries.names_ofPairs, assignments_eq, List.map_map]
    rfl
  · rw [version?, Option.filter_eq_some_iff, get?_parse, and_comm]
    simp

/-- A key keeps its place and takes its last value, and an empty one leaves no version. -/
example : parse "a=1\n ! a=2\nb = x=y\n#\n a =\n".toList = [("a", ""), ("b", "x=y")] ∧
    version? "a=1\n ! a=2\nb = x=y\n#\n a =\n".toList "a" = none := by
  decide +kernel

end Properties

end ImageRelease
