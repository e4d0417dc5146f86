import ImageRelease.Proofs.Selections
import ImageRelease.Proofs.Tags
import ImageRelease.Service

/-!
Tags taken apart again.

A tag is put together from an image and a reference with a colon between them, and a lookup takes it
apart at its last colon. Images and versions may hold colons of their own, so the parts are not
always the ones that were put together: `select_parts` says what they are, and exactly when they are
the image and the reference of the request.
-/

namespace ImageRelease

namespace Text

lemma cutLast_append {sep : Char} {b : List Char} (a : List Char) (h : sep ∉ b) :
    cutLast sep (a ++ sep :: b) = some (a, b) := by
  induction a with
  | nil => simp [cutLast, cutLast_eq_none.mpr h]
  | cons c a ih => simp [cutLast, ih]

end Text

namespace Selection

variable (s : Selection)

/-- Only a tag without a colon has no reference, and it is the repository as a whole. -/
lemma reference_eq_error_iff (e : Failure) :
    s.reference = .error e ↔ ':' ∉ s.tag.toList ∧ e = .noReference := by
  rw [← Text.cutLast_eq_none]
  cases hc : Text.cutLast ':' s.tag.toList with
  | none => simp [reference, hc, eq_comm]
  | some parts => simp [reference, hc]

lemma repository_of_no_colon (h : ':' ∉ s.tag.toList) : s.repository = s.tag := by
  rw [repository, Text.cutLast_eq_none.mpr h]

/-- The parts of a tag are those between which it has its last colon. -/
lemma parts_of_append {a b : String} (tag : s.tag = a ++ ":" ++ b) (h : ':' ∉ b.toList) :
    s.repository = a ∧ s.reference = .ok b := by
  have cut : Text.cutLast ':' s.tag.toList = some (a.toList, b.toList) := by
    rw [tag, String.toList_append, String.toList_append, List.append_assoc]
    exact Text.cutLast_append a.toList h
  rw [repository, reference, cut]
  exact ⟨String.ofList_toList, congrArg _ String.ofList_toList⟩

end Selection

namespace Request

variable (r : Request) (image : String)

lemma colon_not_mem_reference_iff :
    ':' ∉ r.reference.toList ↔ (r.mode = .release → ':' ∉ r.version.toList) := by
  have nightly : ':' ∉ nightlyTag.toList := by decide
  have suffix : ':' ∉ releaseSuffix.toList := by decide
  rw [reference]
  cases r.mode with
  | nightly => simp [nightly]
  | release => simp [suffix]

lemma ne_empty_of_reference {reference : String} (tag : (r.select image).tag =
    (r.select image).repository ++ ":" ++ reference) : reference ≠ "" := by
  rintro rfl
  have last := r.getLast?_tag image
  rw [tag, String.append_empty, String.toList_append] at last
  have colon : ((r.select image).repository.toList ++ ":".toList).getLast? = some ':' :=
    List.getLast?_concat
  rw [colon] at last
  cases mode : r.mode <;> rw [mode] at last <;> cases last

/-- The parts are those of the request exactly if its reference has no colon. -/
lemma parts_iff :
    ((r.select image).repository = image ↔ ':' ∉ r.reference.toList) ∧
      ((r.select image).reference = .ok r.reference ↔ ':' ∉ r.reference.toList) := by
  obtain ⟨reference, given, tag, plain⟩ := Selection.tag_eq (r.colon_mem_select image)
  have whole (h : ':' ∉ r.reference.toList) := (r.select image).parts_of_append rfl h
  refine ⟨⟨fun same => ?_, fun h => (whole h).1⟩, fun same => ?_, fun h => (whole h).2⟩
  · rw [same] at tag
    have behind : r.reference = reference := (String.append_right_inj _).mp tag
    rwa [behind]
  · rw [given] at same
    cases same
    exact plain

end Request

/-- **Tags taken apart**: the tag of a request is its repository, a colon and its reference, which
is more than nothing and has no colon, whatever the image is. For a nightly run these parts are the
image and the reference that were put together, and for a release exactly if its version has no
colon. A selection is a record exactly if its tag can be written, wherever the places of surrogates
are. Any tag has a reference exactly if it has a colon, and without one it is the repository as a
whole. -/
theorem select_parts :
    (∀ (r : Request) (image : String),
      (∀ places, r.selection image places = .ok (r.select image) ↔
        Text.IsUnicode image places ∧ (r.mode = .release → Text.IsUnicode r.version places)) ∧
      (∃ reference, (r.select image).reference = .ok reference ∧
        (r.select image).repository ++ ":" ++ reference = (r.select image).tag ∧
        reference ≠ "" ∧ ':' ∉ reference.toList) ∧
      (r.mode = .nightly →
        (r.select image).repository = image ∧ (r.select image).reference = .ok "cpu-nightly") ∧
      (r.mode = .release →
        ((r.select image).repository = image ↔ ':' ∉ r.version.toList) ∧
        ((r.select image).reference = .ok (r.version ++ "-cpu") ↔ ':' ∉ r.version.toList))) ∧
    ∀ s : Selection,
      ((∃ e, s.reference = .error e) ↔ ':' ∉ s.tag.toList) ∧
      ∀ e, s.reference = .error e → e = .noReference ∧ s.repository = s.tag := by
  refine ⟨fun r image => ⟨fun places => ?_, ?_, fun nightly => ?_, fun release => ?_⟩,
    fun s => ⟨?_, fun e h => ?_⟩⟩
  · rw [Request.selection_eq_ok, ← r.isUnicode_tag_iff]
    exact and_iff_right rfl
  · obtain ⟨reference, given, tag, plain⟩ := Selection.tag_eq (r.colon_mem_select image)
    exact ⟨reference, given, tag.symm, r.ne_empty_of_reference image tag, plain⟩
  · have plain : ':' ∉ r.reference.toList :=
      r.colon_not_mem_reference_iff.mpr fun release => nomatch nightly.symm.trans release
    have whole : r.reference = "cpu-nightly" := by rw [Request.reference, nightly]; rfl
    obtain ⟨repository, reference⟩ := r.parts_iff image
    exact ⟨repository.mpr plain, whole ▸ reference.mpr plain⟩
  · have colon : ':' ∉ r.reference.toList ↔ ':' ∉ r.version.toList :=
      r.colon_not_mem_reference_iff.trans (forall_prop_of_true release)
    have whole : r.reference = r.version ++ "-cpu" := by rw [Request.reference, release]; rfl
    obtain ⟨repository, reference⟩ := r.parts_iff image
    rw [colon] at repository reference
    exact ⟨repository, whole ▸ reference⟩
  · simp [s.reference_eq_error_iff]
  · obtain ⟨colon, rfl⟩ := (s.reference_eq_error_iff e).mp h
    exact ⟨rfl, s.repository_of_no_colon colon⟩

/-- An image on a host with a port, in a nightly run and in a release of a version with a colon, and
a tag without any. -/
theorem select_parts_colons :
    (∃ r, Request.create .nothing none = .ok r ∧ r.mode = .nightly ∧
      (r.select "host:5000/djl").repository = "host:5000/djl") ∧
    (∃ r, Request.create (.word "release") (some " 1:2 ") = .ok r ∧ r.mode = .release ∧
      Text.IsUnicode "host:5000/djl" ∧ Text.IsUnicode r.version ∧
      (r.select "host:5000/djl").repository ≠ "host:5000/djl" ∧
      r.selection "host:5000/djl" = .ok (r.select "host:5000/djl")) ∧
    ∃ s : Selection, s.reference = .error .noReference ∧ s.repository = "djl" := by
  obtain ⟨selected, parted⟩ := select_parts
  refine ⟨⟨⟨.nightly, "", true⟩, rfl, rfl, ?_⟩, ⟨⟨.release, "1:2", true⟩, rfl, rfl, by decide,
    by decide, ?_, ?_⟩, ⟨"djl", true⟩, rfl, ?_⟩
  · exact ((selected ⟨.nightly, "", true⟩ "host:5000/djl").2.2.1 rfl).1
  · exact ((selected ⟨.release, "1:2", true⟩ "host:5000/djl").2.2.2 rfl).1.not.mpr (by decide)
  · exact ((selected ⟨.release, "1:2", true⟩ "host:5000/djl").1 .usual).mpr (by decide)
  · exact ((parted ⟨"djl", true⟩).2 .noReference rfl).2

/-- A release of a version in which a surrogate stands alone, as a text in JSON can have it: the
request is made, but what it selects is no record. -/
theorem select_parts_alone :
    ∃ version r, Json.read "\"\\ud800\"".toList Service.bodyLimits = .ok (.str version) ∧
      Request.create (.word "release") (some version) = .ok r ∧
      r.selection usualImage = .error (r.select usualImage).unwritable :=
  ⟨.ofList [Text.Surrogate.ofUnit 0xD800], _, rfl, rfl, rfl⟩

end ImageRelease
