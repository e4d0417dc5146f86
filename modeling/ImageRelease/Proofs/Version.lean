import Mathlib.Data.List.DropRight
import ImageRelease.Proofs.Entries
import ImageRelease.Properties
import ImageRelease.Request

/-!
The version that a properties file gives.

A value stands without the blanks at its ends, and a version is not empty, so a request takes it as
it is: `create_of_version?` says that no version that a file gives is refused or changed.
-/

namespace ImageRelease

namespace Text

lemma trimBy_eq (p : Char → Bool) (l : List Char) : trimBy p l = (l.dropWhile p).rdropWhile p := rfl

lemma head?_trim (l : List Char) : (trim l).head? = (l.dropWhile isBlank).head? := by
  cases rest : l.dropWhile isBlank with
  | nil => rw [trim, trimBy_eq, rest]; rfl
  | cons c more =>
    have solid := List.head?_dropWhile_not isBlank l
    rw [rest] at solid
    rw [trim, trimBy_eq, rest]
    rcases kept : (c :: more).rdropWhile isBlank with _ | ⟨d, others⟩
    · have blank := List.rdropWhile_eq_nil_iff.mp kept c List.mem_cons_self
      exact Bool.noConfusion (solid.symm.trans blank)
    · have starts := List.rdropWhile_prefix isBlank (c :: more)
      rw [kept, List.cons_prefix_cons] at starts
      rw [starts.1]
      rfl

lemma isBlank_of_head?_trim {l : List Char} {c : Char} (h : (trim l).head? = some c) :
    isBlank c = false := by
  have solid := List.head?_dropWhile_not isBlank l
  rwa [← head?_trim, h] at solid

lemma isBlank_of_getLast?_trim {l : List Char} {c : Char} (h : (trim l).getLast? = some c) :
    isBlank c = false := by
  obtain ⟨some, rfl⟩ := List.mem_getLast?_eq_getLast h
  exact Bool.eq_false_iff.mpr (List.rdropWhile_last_not isBlank _ some)

lemma trim_subset (l : List Char) : trim l ⊆ l :=
  List.Subset.trans (List.rdropWhile_prefix _ _).subset (List.dropWhile_suffix _).subset

/-- In front of a text that does not begin with a blank there is nothing to trim. -/
lemma dropWhile_of_solid {l : List Char} (first : ∀ c ∈ l.head?, isBlank c = false) :
    l.dropWhile isBlank = l :=
  List.dropWhile_eq_self_iff.mpr fun some => by
    simpa using first l[0] (by simp [List.head?_eq_getElem?, some])

/-- There is nothing to trim where neither the first nor the last character is blank. -/
lemma trim_eq_self_iff {l : List Char} :
    trim l = l ↔ (∀ c ∈ l.head?, isBlank c = false) ∧ ∀ c ∈ l.getLast?, isBlank c = false := by
  constructor
  · intro h
    rw [← h]
    exact ⟨fun _ => isBlank_of_head?_trim, fun _ => isBlank_of_getLast?_trim⟩
  · rintro ⟨first, last⟩
    have right : l.rdropWhile isBlank = l := List.rdropWhile_eq_self_iff.mpr fun some => by
      simpa using last (l.getLast some) (List.getLast?_eq_some_getLast some)
    rw [trim, trimBy_eq, dropWhile_of_solid first, right]

lemma trim_trim (l : List Char) : trim (trim l) = trim l :=
  trim_eq_self_iff.mpr ⟨fun _ => isBlank_of_head?_trim, fun _ => isBlank_of_getLast?_trim⟩

lemma strip_ofList_trim (l : List Char) : strip (.ofList (trim l)) = .ofList (trim l) := by
  rw [strip, String.toList_ofList, trim_trim]

end Text

namespace Properties

lemma version?_solid {text : List Char} {key version : String}
    (h : version? text key = some version) : version ≠ "" ∧ Text.strip version = version := by
  obtain ⟨found, some⟩ := Option.filter_eq_some_iff.mp h
  refine ⟨by simpa using some, ?_⟩
  rw [parse, Entries.get?_ofPairs, Option.map_eq_some_iff] at found
  obtain ⟨pair, hp, rfl⟩ := found
  have given := (List.mem_filter.mp (List.mem_of_getLast? hp)).1
  obtain ⟨⟨k, v⟩, ha, rfl⟩ := List.mem_map.mp given
  obtain ⟨line, -, hl⟩ := List.mem_filterMap.mp ha
  unfold assignment? at hl
  split at hl
  · cases hl
  · split at hl
    · cases hl
    · obtain ⟨parts, -, hp⟩ := Option.map_eq_some_iff.mp hl
      cases hp
      exact Text.strip_ofList_trim _

/-- What stands in the file at a path, where there is one; it must be in UTF-8. -/
def text? (files : FileTree) (path : Path) : Except Failure (Option (List Char)) :=
  match files.read? path with
  | .error fault => .error (.longName fault.path)
  | .ok none => .ok none
  | .ok (some bytes) =>
    match Text.Utf8.decode bytes with
    | .error fault => .error (.notText fault)
    | .ok text => .ok (some (Text.plainLineFeeds text))

lemma readVersion_eq (files : FileTree) (path : Path) (key : String) :
    readVersion files path key =
      match text? files path with
      | .error e => .error e
      | .ok none => .error (.rejected (.propertiesNotFound path.text))
      | .ok (some text) => .ok (version? text key) := by
  unfold readVersion text?
  cases files.read? path with
  | error fault => rfl
  | ok found =>
    cases found with
    | none => rfl
    | some bytes =>
      dsimp only
      cases Text.Utf8.decode bytes <;> rfl

lemma version?_of_readVersion {files : FileTree} {path : Path} {key : String}
    {version : Option String} (h : readVersion files path key = .ok version) :
    ∃ text, text? files path = .ok (some text) ∧ version? text key = version := by
  rw [readVersion_eq] at h
  split at h
  · cases h
  · cases h
  · case h_3 text found => exact ⟨text, found, Except.ok.inj h⟩

/-- A file that cannot be read as a text: its path is too long to be looked up, or its bytes are not
in UTF-8. -/
inductive Unreadable (files : FileTree) (path : Path) : Failure → Prop
  | long {fault : FileTree.LongName} (h : files.read? path = .error fault) :
      Unreadable files path (.longName fault.path)
  | garbled {bytes : List UInt8} {fault : Text.Utf8.Fault} (h : files.read? path = .ok (some bytes))
      (bad : Text.Utf8.decode bytes = .error fault) : Unreadable files path (.notText fault)

lemma Unreadable.readVersion {files : FileTree} {path : Path} {e : Failure}
    (h : Unreadable files path e) (key : String) : readVersion files path key = .error e := by
  unfold Properties.readVersion
  cases h with
  | long h => rw [h]
  | garbled h bad => rw [h]; simp only [bad]

/-- Reading a version fails where there is no file, and where there is one that cannot be read. -/
lemma readVersion_error {files : FileTree} {path : Path} {key : String} {e : Failure}
    (h : readVersion files path key = .error e) :
    e = .rejected (.propertiesNotFound path.text) ∨ Unreadable files path e := by
  unfold readVersion at h
  split at h
  · case h_1 hr => cases h; exact .inr (.long hr)
  · cases h; exact .inl rfl
  · case h_3 hr =>
    split at h
    · case h_1 bad => cases h; exact .inr (.garbled hr bad)
    · cases h

end Properties

lemma Request.create_without_version {mode : Mode} (h : mode ≠ .release) :
    create (.mode mode) none = .ok ⟨mode, "", true⟩ := by
  have blank : Text.strip "" = "" := rfl
  simp only [create, Mode.parse, Option.getD_none, blank]
  exact if_neg fun hn => h hn.1

/-- A version that a text gives is taken as it is. -/
lemma Request.create_of_version? {text : List Char} {key version : String}
    (h : Properties.version? text key = some version) (mode : Mode) :
    create (.mode mode) (some version) = .ok ⟨mode, version, true⟩ := by
  obtain ⟨some, solid⟩ := Properties.version?_solid h
  have none : ¬(mode = .release ∧ version = "") := fun hn => some hn.2
  simp only [create, Mode.parse, Option.getD_some, solid, if_neg none]

lemma Request.create_of_version {files : FileTree} {path : Path} {key version : String}
    (h : Properties.readVersion files path key = .ok (some version)) (mode : Mode) :
    create (.mode mode) (some version) = .ok ⟨mode, version, true⟩ := by
  obtain ⟨text, -, found⟩ := Properties.version?_of_readVersion h
  exact create_of_version? found mode

end ImageRelease
