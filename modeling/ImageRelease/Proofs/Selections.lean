import ImageRelease.Plan
import ImageRelease.Proofs.Unicode

/-!
Selections as records.

A selection is read as a record with a tag of at least one character. Its tag has a colon whatever
was asked, so all that can be wrong with it is a surrogate that stands alone: `selection_eq` says
what comes of it, wherever the places of surrogates are. A plan is one of a request with such a
selection.
-/

namespace ImageRelease

variable {places : Text.Surrogate.Places}

namespace Selection

variable (s : Selection)

/-- What is wrong with a tag in which a surrogate stands alone. -/
def unwritable : Failure :=
  .misfits [⟨[.name "tag"], .notUnicode, .str s.tag⟩]

lemma read_toRecord : read s.toRecord places =
    match FieldType.read places [.name "tag"] (.text 1) (.str s.tag) with
    | .ok tag => .ok (ofRecord [("tag", tag), ("push", .bool s.push)])
    | .error e => .error (.misfits e) := by
  have given : s.toRecord.field? "tag" = some (.str s.tag) := rfl
  simp only [read, Schema.read, selectionSchema, FieldType.readFields, given, List.nil_append]
  cases FieldType.read places [.name "tag"] (.text 1) (.str s.tag) <;> rfl

lemma read_toRecord_of_unicode (solid : s.tag ≠ "") (unicode : Text.IsUnicode s.tag places) :
    read s.toRecord places = .ok s := by
  have long : ¬s.tag.length < 1 := by
    rw [Nat.lt_one_iff, String.length_eq_zero_iff]
    exact solid
  simp only [read_toRecord, FieldType.read, FieldType.atPath,
    Text.any_holds_eq_false_iff.mpr unicode, long, Bool.false_eq_true, and_false, ↓reduceIte]
  rfl

lemma read_toRecord_of_alone (alone : ¬Text.IsUnicode s.tag places) :
    read s.toRecord places = .error s.unwritable := by
  have held : s.tag.toList.any places.holds = true :=
    Bool.eq_true_of_not_eq_false (Text.any_holds_eq_false_iff.not.mpr alone)
  simp only [read_toRecord, FieldType.read, FieldType.atPath, held, Nat.one_pos, and_self,
    ↓reduceIte]
  rfl

end Selection

namespace Request

variable (r : Request) (image : String)

lemma tag_ne_empty : (r.select image).tag ≠ "" := by
  intro empty
  have colon := r.colon_mem_select image
  rw [empty] at colon
  cases colon

/-- A tag can be written if its image can, and for a release its version. -/
lemma isUnicode_tag_iff : Text.IsUnicode (r.select image).tag places ↔
    Text.IsUnicode image places ∧ (r.mode = .release → Text.IsUnicode r.version places) := by
  have colon : Text.IsUnicode ":" places := Text.isUnicode_of_common (by decide) places
  have nightly : Text.IsUnicode nightlyTag places := Text.isUnicode_of_common (by decide) places
  have suffix : Text.IsUnicode releaseSuffix places := Text.isUnicode_of_common (by decide) places
  rw [select, Text.isUnicode_append, Text.isUnicode_append, reference]
  cases r.mode with
  | nightly => simp [colon, nightly]
  | release => simp [colon, suffix, Text.isUnicode_append]

/-- A selection is a record unless a surrogate stands alone in its tag. -/
lemma selection_eq : r.selection image places =
    if Text.IsUnicode (r.select image).tag places then .ok (r.select image)
    else .error (r.select image).unwritable := by
  unfold selection
  split
  · case isTrue unicode =>
    exact Selection.read_toRecord_of_unicode _ (r.tag_ne_empty image) unicode
  · case isFalse alone => exact Selection.read_toRecord_of_alone _ alone

variable {r image} in
lemma selection_eq_ok {s : Selection} :
    r.selection image places = .ok s ↔ s = r.select image ∧ Text.IsUnicode s.tag places := by
  rw [selection_eq]
  constructor
  · intro h
    split at h
    · case isTrue unicode => cases h; exact ⟨rfl, unicode⟩
    · cases h
  · rintro ⟨rfl, unicode⟩
    exact if_pos unicode

end Request

/-! ### Plans -/

namespace Plan

variable {asked : Asked} {version : Option String}

def ofRequest (r : Request) (image : String) : Plan :=
  ⟨r.mode, r.select image, r.buildArgs⟩

lemma make_of_refused {r : Rejection} (h : Request.create asked version = .error r)
    (image : String) : make asked version image places = .error (.rejected r) := by
  rw [make, h]
  rfl

/-- There is a plan for a request unless a surrogate stands alone in its tag. -/
lemma make_of_created {r : Request} (h : Request.create asked version = .ok r) (image : String) :
    make asked version image places =
      if Text.IsUnicode (r.select image).tag places then .ok (ofRequest r image)
      else .error (r.select image).unwritable := by
  have same : make asked version image places =
      (r.selection image places >>= fun s => .ok ⟨r.mode, s, r.buildArgs⟩) := by
    rw [make, h]
    rfl
  rw [same, r.selection_eq]
  split <;> rfl

end Plan

lemma selectTag_eq (asked : Asked) (version : Option String) (image : String) :
    selectTag asked version image places =
      (Plan.make asked version image places).map (·.selection) := by
  cases created : Request.create asked version with
  | error r =>
    rw [Plan.make_of_refused created, selectTag, created]
    rfl
  | ok request =>
    have same : selectTag asked version image places = request.selection image places := by
      rw [selectTag, created]
      rfl
    rw [same, Plan.make_of_created created, request.selection_eq]
    split <;> rfl

end ImageRelease
