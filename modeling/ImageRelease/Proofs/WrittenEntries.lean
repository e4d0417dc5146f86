import ImageRelease.Proofs.Assignments

/-!
Entries written out, one a line, and read back.

What a properties text can give is known exactly: keys and values without blanks at their ends and
without a line end, keys without an equals sign and without the mark of a comment in front. Such
entries survive a second reading, so `parse_written` says that what was read from any text is read
from its own lines again, and that lines which assign nothing make no difference, wherever they are
put.
-/

namespace ImageRelease

namespace Text

/-! ### Lines of a text put together from lines -/

/-- A text in which no line ends. -/
def IsPlain (l : List Char) : Prop :=
  ∀ c ∈ l, isLineEnd c = false

instance (l : List Char) : Decidable (IsPlain l) :=
  List.decidableBAll _ l

lemma Lined.plain {text : List Char} {ls : List (List Char)} (h : Lined text ls) :
    ∀ line ∈ ls, IsPlain line ∧ line ⊆ text := by
  induction h with
  | nil => exact nofun
  | last _ plain => exact List.forall_mem_singleton.mpr ⟨plain, List.Subset.refl _⟩
  | ended plain _ _ _ ih =>
    refine List.forall_mem_cons.mpr ⟨⟨plain, fun c hc => by simp [hc]⟩, fun line hl => ?_⟩
    exact ⟨(ih line hl).1, fun c hc => by simp [(ih line hl).2 hc]⟩

/-- A line has no line ends, and no characters but those of the text. -/
lemma plain_of_mem_lines {text line : List Char} (h : line ∈ lines text) :
    IsPlain line ∧ line ⊆ text :=
  (lined_lines text).plain line h

/-- A character that is not part of a carriage return with a line feed stands for itself. -/
lemma lines_cons {c : Char} {rest : List Char} (h : c = '\r' → rest.head? ≠ some '\n') :
    lines (c :: rest) = if isLineEnd c then [] :: lines rest else onFirst c (lines rest) := by
  rw [lines]
  rintro after rfl rfl
  exact h rfl rfl

lemma lines_cons_of_plain {c : Char} (plain : isLineEnd c = false) (rest : List Char) :
    lines (c :: rest) = onFirst c (lines rest) := by
  have alone : c ≠ '\r' := by
    rintro rfl
    cases plain
  rw [lines_cons (absurd · alone), plain, if_neg Bool.false_ne_true]

lemma lines_eq_nil {text : List Char} (h : lines text = []) : text = [] := by
  have lined := lined_lines text
  rw [h] at lined
  cases lined
  rfl

lemma lines_of_plain {l : List Char} (plain : IsPlain l) (some : l ≠ []) : lines l = [l] := by
  induction l with
  | nil => exact absurd rfl some
  | cons c rest ih =>
    obtain ⟨first, others⟩ := List.forall_mem_cons.mp plain
    rw [lines_cons_of_plain first]
    rcases rest with _ | ⟨d, rest⟩
    · rfl
    · rw [ih others (List.cons_ne_nil _ _)]
      rfl

lemma lines_plain_append {l : List Char} (plain : IsPlain l) (rest : List Char) :
    lines (l ++ '\n' :: rest) = l :: lines rest := by
  induction l with
  | nil => rfl
  | cons c more ih =>
    obtain ⟨first, others⟩ := List.forall_mem_cons.mp plain
    rw [List.cons_append, lines_cons_of_plain first, ih others]
    rfl

/-- A line feed ends a line. It ends none of its own only where it goes with a carriage return or
ends a line that the text before it left open. -/
lemma lines_append_feed (l rest : List Char) :
    lines (l ++ '\n' :: rest) = lines l ++ lines rest ∨
      lines (l ++ '\n' :: rest) = lines l ++ [] :: lines rest := by
  fun_induction lines l with
  | case1 => exact .inr rfl
  | case2 after ih =>
    have cut : lines ('\r' :: '\n' :: after ++ '\n' :: rest) =
      [] :: lines (after ++ '\n' :: rest) := rfl
    rw [cut]
    exact ih.imp (congrArg ([] :: ·)) (congrArg ([] :: ·))
  | case3 c after other ends ih =>
    by_cases together : c = '\r' ∧ after = []
    · obtain ⟨rfl, rfl⟩ := together
      exact .inl rfl
    · have apart : c = '\r' → (after ++ '\n' :: rest).head? ≠ some '\n' := by
        rintro rfl feed
        rcases after with _ | ⟨d, after⟩
        · exact together ⟨rfl, rfl⟩
        · cases feed
          exact other after rfl rfl
      rw [List.cons_append, lines_cons apart, if_pos ends]
      exact ih.imp (congrArg ([] :: ·)) (congrArg ([] :: ·))
  | case4 c after other plain ih =>
    rw [List.cons_append, lines_cons_of_plain (Bool.eq_false_iff.mpr plain)]
    cases opened : lines after with
    | nil =>
      rw [lines_eq_nil opened]
      exact .inl rfl
    | cons line more =>
      rw [opened] at ih
      exact ih.imp (congrArg (onFirst c)) (congrArg (onFirst c))

/-- Lines that are not empty are the lines of the text that they are put together to. -/
lemma lines_joined {ls : List String} (h : ∀ l ∈ ls, IsPlain l.toList ∧ l.toList ≠ []) :
    lines (joined "\n" ls).toList = ls.map String.toList := by
  have feed : "\n".toList = ['\n'] := rfl
  induction ls with
  | nil => rfl
  | cons x rest ih =>
    obtain ⟨⟨plain, some⟩, others⟩ := List.forall_mem_cons.mp h
    rcases rest with _ | ⟨y, rest⟩
    · exact lines_of_plain plain some
    · rw [toList_joined_cons, feed, List.append_assoc, List.singleton_append,
        lines_plain_append plain, ih others]
      rfl

end Text

namespace Properties

open Text

/-! ### Lines put together -/

lemma assigning_joined (ls : List String) :
    assigning (joined "\n" ls).toList = ls.flatMap fun l => assigning l.toList := by
  have nothing : ¬IsAssignment [] := fun h => h.1 rfl
  induction ls with
  | nil => rfl
  | cons x rest ih =>
    rcases rest with _ | ⟨y, rest⟩
    · exact (List.append_nil _).symm
    · have feed : "\n".toList = ['\n'] := rfl
      rw [toList_joined_cons, feed, List.append_assoc, List.singleton_append, List.flatMap_cons,
        ← ih]
      unfold assigning
      rcases lines_append_feed x.toList (joined "\n" (y :: rest)).toList with h | h
      · rw [h, List.filter_append]
      · rw [h, List.filter_append, List.filter_cons_of_neg (by simpa using nothing)]

/-! ### Entries and their lines -/

def lineOf (entry : String × String) : String :=
  entry.1 ++ "=" ++ entry.2

/-- Entries as a text, one a line, in their order. -/
def written (entries : List (String × String)) : String :=
  joined "\n" (entries.map lineOf)

/-- What an entry that was read looks like. -/
structure Tidy (entry : String × String) : Prop where
  key : trim entry.1.toList = entry.1.toList
  value : trim entry.2.toList = entry.2.toList
  keyPlain : IsPlain entry.1.toList
  valuePlain : IsPlain entry.2.toList
  equals : '=' ∉ entry.1.toList
  number : entry.1.toList.head? ≠ some '#'
  mark : entry.1.toList.head? ≠ some '!'

lemma toList_lineOf (e : String × String) :
    (lineOf e).toList = e.1.toList ++ '=' :: e.2.toList := by
  rw [lineOf, String.toList_append, String.toList_append, List.append_assoc]
  rfl

lemma tidy_of_assigns {text line : List Char} (h : line ∈ assigning text) :
    Tidy (keyOf line, valueOf line) := by
  obtain ⟨hl, assigns⟩ := List.mem_filter.mp h
  obtain ⟨-, number, mark, -⟩ := of_decide_eq_true assigns
  have plain := (plain_of_mem_lines hl).1
  have front : (trim line).takeWhile (· != '=') ⊆ line :=
    List.Subset.trans (List.takeWhile_subset _) (trim_subset line)
  have back : ((trim line).dropWhile (· != '=')).drop 1 ⊆ line :=
    List.Subset.trans (List.drop_subset _ _)
      (List.Subset.trans (List.dropWhile_subset _) (trim_subset line))
  -- the key begins as the line does, unless it is empty
  have first : ∀ c, (trim ((trim line).takeWhile (· != '='))).head? = some c →
      (trim line).head? = some c := by
    have starts : ∀ c ∈ ((trim line).takeWhile (· != '=')).head?, (trim line).head? = some c := by
      intro c hc
      obtain ⟨rest, hr⟩ := List.head?_eq_some_iff.mp hc
      obtain ⟨more, hm⟩ := List.takeWhile_prefix (p := (· != '=')) (l := trim line)
      rw [← hm, hr]
      rfl
    intro c hc
    rw [head?_trim, dropWhile_of_solid fun d hd => isBlank_of_head?_trim (starts d hd)] at hc
    exact starts c hc
  refine ⟨?_, ?_, ?_, ?_, ?_, ?_, ?_⟩ <;> simp only [keyOf, valueOf, String.toList_ofList]
  · exact trim_trim _
  · exact trim_trim _
  · exact fun c hc => plain c (front (trim_subset _ hc))
  · exact fun c hc => plain c (back (trim_subset _ hc))
  · intro equals
    have other := List.mem_takeWhile_imp (trim_subset _ equals)
    simp at other
  · exact fun h => number (first _ h)
  · exact fun h => mark (first _ h)

lemma Tidy.plain {e : String × String} (h : Tidy e) : IsPlain (lineOf e).toList := by
  rw [toList_lineOf]
  exact List.forall_mem_append.mpr ⟨h.keyPlain, List.forall_mem_cons.mpr ⟨rfl, h.valuePlain⟩⟩

lemma Tidy.line {e : String × String} (h : Tidy e) :
    IsAssignment (lineOf e).toList ∧ keyOf (lineOf e).toList = e.1 ∧
      valueOf (lineOf e).toList = e.2 := by
  obtain ⟨key, value, -, -, equals, number, mark⟩ := h
  obtain ⟨keyFirst, -⟩ := trim_eq_self_iff.mp key
  obtain ⟨-, valueLast⟩ := trim_eq_self_iff.mp value
  rw [toList_lineOf]
  have starts {c : Char} (h : (e.1.toList ++ '=' :: e.2.toList).head? = some c) :
      e.1.toList.head? = some c ∨ c = '=' := by
    cases hk : e.1.toList with
    | nil => rw [hk] at h; cases h; exact .inr rfl
    | cons d rest => rw [hk] at h; exact .inl h
  have ends {c : Char} (h : (e.1.toList ++ '=' :: e.2.toList).getLast? = some c) :
      e.2.toList.getLast? = some c ∨ c = '=' := by
    rw [List.getLast?_append, List.getLast?_cons] at h
    cases hv : e.2.toList.getLast? with
    | none => rw [hv] at h; cases h; exact .inr rfl
    | some d => rw [hv] at h; exact .inl h
  have whole : trim (e.1.toList ++ '=' :: e.2.toList) = e.1.toList ++ '=' :: e.2.toList := by
    refine trim_eq_self_iff.mpr ⟨fun c hc => ?_, fun c hc => ?_⟩
    · rcases starts hc with hk | rfl
      · exact keyFirst c hk
      · rfl
    · rcases ends hc with hv | rfl
      · exact valueLast c hv
      · rfl
  have front : ∀ c ∈ e.1.toList, (c != '=') = true := fun c hc => by
    rw [bne_iff_ne]
    rintro rfl
    exact equals hc
  refine ⟨⟨?_, ?_, ?_, ?_⟩, ?_, ?_⟩
  · rw [whole]
    simp
  · rw [whole]
    exact fun h => (starts h).elim number (by decide)
  · rw [whole]
    exact fun h => (starts h).elim mark (by decide)
  · rw [whole]
    simp
  · rw [keyOf, whole, List.takeWhile_append_of_pos front, List.takeWhile_cons_of_neg (by simp),
      List.append_nil, key, String.ofList_toList]
  · rw [valueOf, whole, List.dropWhile_append_of_pos front, List.dropWhile_cons_of_neg (by simp),
      List.drop_one, List.tail_cons, value, String.ofList_toList]

lemma Tidy.assigning {e : String × String} (h : Tidy e) :
    assigning (lineOf e).toList = [(lineOf e).toList] := by
  have some : (lineOf e).toList ≠ [] := by
    rw [toList_lineOf]
    simp
  rw [Properties.assigning, lines_of_plain h.plain some, List.filter_singleton,
    decide_eq_true h.line.1]
  rfl

lemma parse_tidy (text : List Char) :
    (∀ e ∈ parse text, Tidy e) ∧ (Entries.names (parse text)).Nodup := by
  refine ⟨fun e he => ?_, Entries.nodup_names_ofPairs _⟩
  have given := Entries.mem_of_mem_ofPairs he
  rw [assignments_eq] at given
  obtain ⟨line, hl, rfl⟩ := List.mem_map.mp given
  exact tidy_of_assigns hl

/-! ### Lines put between others -/

/-- A line that is passed over: there is nothing but blanks to it, it is a comment after its
blanks, or it has no equals sign. -/
inductive PassedOver (line : String) : Prop
  | blank (h : strip line = "")
  | comment (plain : IsPlain line.toList)
      (mark : (line.toList.dropWhile isBlank).head? = some '#' ∨
        (line.toList.dropWhile isBlank).head? = some '!')
  | bare (h : '=' ∉ line.toList)

/-- Lines with others of some kind put anywhere among them. -/
inductive Among (kind : String → Prop) : List String → List String → Prop
  | nil : Among kind [] []
  | keep (line : String) {ls more : List String} (h : Among kind ls more) :
      Among kind (line :: ls) (line :: more)
  | add {line : String} (h : kind line) {ls more : List String} (rest : Among kind ls more) :
      Among kind ls (line :: more)

lemma Among.self (kind : String → Prop) (ls : List String) : Among kind ls ls := by
  induction ls with
  | nil => exact .nil
  | cons line _ ih => exact .keep line ih

lemma assigning_of_bare {text : List Char} (h : '=' ∉ text) : assigning text = [] := by
  refine List.filter_eq_nil_iff.mpr fun line hl assigns => ?_
  obtain ⟨-, -, -, equals⟩ := of_decide_eq_true assigns
  exact h ((plain_of_mem_lines hl).2 (trim_subset line equals))

lemma PassedOver.assigning {line : String} (h : PassedOver line) : assigning line.toList = [] := by
  cases h with
  | bare h => exact assigning_of_bare h
  | blank h =>
    refine assigning_of_bare fun equals => ?_
    have none : trim line.toList = [] := by simpa [strip] using congrArg String.toList h
    have first := head?_trim line.toList
    rw [none] at first
    have blanks := List.dropWhile_eq_nil_iff.mp (List.head?_eq_none_iff.mp first.symm)
    exact Bool.noConfusion (blanks '=' equals)
  | comment plain mark =>
    have some : line.toList ≠ [] := by
      intro none
      rw [none] at mark
      cases mark with
      | inl number => cases number
      | inr other => cases other
    rw [← head?_trim] at mark
    rw [Properties.assigning, lines_of_plain plain some, List.filter_eq_nil_iff]
    intro l hl assigns
    obtain ⟨-, number, other, -⟩ := of_decide_eq_true assigns
    rw [List.mem_singleton.mp hl] at number other
    exact mark.elim number other

lemma Among.assigning {ls more : List String} (h : Among PassedOver ls more) :
    (more.flatMap fun l => assigning l.toList) = ls.flatMap fun l => assigning l.toList := by
  induction h with
  | nil => rfl
  | keep line _ ih => rw [List.flatMap_cons, List.flatMap_cons, ih]
  | add passed _ ih => rw [List.flatMap_cons, passed.assigning, ih, List.nil_append]

/-- Tidy entries are read back from their lines, whatever is put between these that is passed
over. -/
lemma parse_among {entries : List (String × String)} (tidy : ∀ e ∈ entries, Tidy e)
    (once : (Entries.names entries).Nodup) {ls : List String}
    (among : Among PassedOver (entries.map lineOf) ls) :
    parse (joined "\n" ls).toList = entries := by
  have read : (entries.flatMap fun e => assigning (lineOf e).toList).map
      (fun line => (keyOf line, valueOf line)) = entries := by
    clear among once
    induction entries with
    | nil => rfl
    | cons e rest ih =>
      obtain ⟨first, others⟩ := List.forall_mem_cons.mp tidy
      obtain ⟨-, key, value⟩ := first.line
      rw [List.flatMap_cons, first.assigning, List.singleton_append, List.map_cons, ih others, key,
        value]
  rw [parse, assignments_eq, assigning_joined, among.assigning, List.flatMap_map, read,
    Entries.ofPairs_of_nodup once]

/-- What a text can give: tidy entries, and no key twice. -/
theorem exists_parse_eq_iff {entries : List (String × String)} :
    (∃ text, parse text = entries) ↔
      (∀ e ∈ entries, Tidy e) ∧ (Entries.names entries).Nodup := by
  constructor
  · rintro ⟨text, rfl⟩
    exact parse_tidy text
  · rintro ⟨tidy, once⟩
    exact ⟨_, parse_among tidy once (.self _ _)⟩

lemma lines_written {entries : List (String × String)} (tidy : ∀ e ∈ entries, Tidy e) :
    lines (written entries).toList = entries.map fun e => (lineOf e).toList := by
  rw [written, lines_joined, List.map_map]
  · rfl
  · refine List.forall_mem_map.mpr fun e he => ⟨(tidy e he).plain, ?_⟩
    rw [toList_lineOf]
    simp

/-- **The texts that were read, written back**: the entries of a text, written one a line, have as
many lines as there are entries, each line assigns its own value to its own key, and reading them
gives the entries again, in their order. Lines that are passed over change nothing of that, wherever
they are put. -/
theorem parse_written (text : List Char) :
    parse (written (parse text)).toList = parse text ∧
      lines (written (parse text)).toList = (parse text).map (fun e => (lineOf e).toList) ∧
      (∀ e ∈ parse text, IsAssignment (lineOf e).toList ∧ keyOf (lineOf e).toList = e.1 ∧
        valueOf (lineOf e).toList = e.2) ∧
      ∀ ls, Among PassedOver ((parse text).map lineOf) ls →
        parse (joined "\n" ls).toList = parse text := by
  obtain ⟨tidy, once⟩ := parse_tidy text
  exact ⟨parse_among tidy once (.self _ _), lines_written tidy, fun e he => (tidy e he).line,
    fun ls => parse_among tidy once⟩

/-- A page break, comments and a line without an equals sign between entries with an empty value,
an empty key, and an equals sign in a value. -/
theorem parse_written_padded :
    Among PassedOver ((parse "b = x\n!c=1\n = y=z\na=1\nb=\n".toList).map lineOf)
        ["\x0c ", "b=", "  # b=2", "=y=z", "none", "a=1", "!"] ∧
      parse (joined "\n" ["\x0c ", "b=", "  # b=2", "=y=z", "none", "a=1", "!"]).toList =
        [("b", ""), ("", "y=z"), ("a", "1")] := by
  have read : parse "b = x\n!c=1\n = y=z\na=1\nb=\n".toList =
      [("b", ""), ("", "y=z"), ("a", "1")] := by decide +kernel
  have among : Among PassedOver ((parse "b = x\n!c=1\n = y=z\na=1\nb=\n".toList).map lineOf)
      ["\x0c ", "b=", "  # b=2", "=y=z", "none", "a=1", "!"] := by
    rw [read]
    exact .add (.blank (by decide)) <| .keep "b=" <|
      .add (.comment (by decide) (.inl (by decide))) <| .keep "=y=z" <|
      .add (.bare (by decide)) <| .keep "a=1" <|
      .add (.comment (by decide) (.inr (by decide))) .nil
  refine ⟨among, ?_⟩
  rw [(parse_written "b = x\n!c=1\n = y=z\na=1\nb=\n".toList).2.2.2 _ among, read]

end Properties

end ImageRelease
