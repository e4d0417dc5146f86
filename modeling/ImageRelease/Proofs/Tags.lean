import Mathlib.Data.String.Basic
import ImageRelease.Proofs.Selections

/-!
Tags of different runs.

The last letter of a tag tells the mode, whatever stands in front of it, so that no release has the
tag of a nightly run, of the same image or of another. For one image the rest can be cancelled:
`selectTag_tag_eq_iff` says that releases share a tag when their versions are the same without the
blanks around them, and nightly runs always.
-/

namespace ImageRelease

namespace Request

variable (r q : Request) (image : String)

/-- The letter with which all tags of a mode end. -/
def lastLetter : Mode → Char
  | .nightly => 'y'
  | .release => 'u'

lemma toList_tag : (r.select image).tag.toList = image.toList ++ ':' :: r.reference.toList := by
  simp [select]

lemma getLast?_reference : r.reference.toList.getLast? = some (lastLetter r.mode) := by
  cases mode : r.mode with
  | nightly =>
    have whole : nightlyTag.toList.getLast? = some (lastLetter .nightly) := by decide
    simp only [reference, mode, whole]
  | release =>
    have suffix : releaseSuffix.toList.getLast? = some (lastLetter .release) := by decide
    simp only [reference, mode]
    rw [String.toList_append, List.getLast?_append, suffix, Option.some_or]

lemma getLast?_tag : (r.select image).tag.toList.getLast? = some (lastLetter r.mode) := by
  rw [toList_tag, List.getLast?_append, List.getLast?_cons, getLast?_reference]
  rfl

variable {r q} in
lemma mode_eq_of_tag_eq {other : String} (h : (r.select image).tag = (q.select other).tag) :
    r.mode = q.mode := by
  have last : lastLetter r.mode = lastLetter q.mode := by
    rw [← Option.some_inj, ← getLast?_tag r image, ← getLast?_tag q other, h]
  cases hr : r.mode <;> cases hq : q.mode <;> simp [hr, hq, lastLetter] at last ⊢

/-- For one image, what stands behind the colon is all that there is to compare. -/
lemma tag_eq_iff_reference : (r.select image).tag = (q.select image).tag ↔
    r.reference = q.reference := by
  rw [← String.toList_inj, toList_tag, toList_tag, List.append_cancel_left_eq, List.cons.injEq,
    String.toList_inj]
  exact and_iff_right rfl

lemma reference_eq_iff (same : r.mode = q.mode) :
    r.reference = q.reference ↔ (r.mode = .release → r.version = q.version) := by
  unfold reference
  rw [← same]
  cases r.mode with
  | nightly => simp
  | release => simp [← String.toList_inj]

lemma tag_eq_iff : (r.select image).tag = (q.select image).tag ↔
    r.mode = q.mode ∧ (r.mode = .release → r.version = q.version) := by
  constructor
  · intro h
    have same := mode_eq_of_tag_eq image h
    exact ⟨same, (reference_eq_iff r q same).mp ((tag_eq_iff_reference r q image).mp h)⟩
  · rintro ⟨same, version⟩
    exact (tag_eq_iff_reference r q image).mpr ((reference_eq_iff r q same).mpr version)

variable {asked : Asked} {mode : Mode} (parsed : Mode.parse asked = .ok mode)
  (version : Option String) (push : Bool)

include parsed

/-- A request that is made has the mode that was asked for, and the version without the blanks
around it. -/
lemma create_eq_ok_iff : create asked version push = .ok r ↔
    r = ⟨mode, Text.strip (version.getD ""), push⟩ ∧
      (mode = .release → Text.strip (version.getD "") ≠ "") := by
  simp only [create, parsed]
  split
  · case isTrue missing => simp [missing]
  · case isFalse given =>
    rw [Except.ok.injEq, eq_comm, and_iff_left]
    exact fun release none => given ⟨release, none⟩

end Request

variable {asked : Asked} {mode : Mode} {version : Option String} {image : String} {s : Selection}
  {places : Text.Surrogate.Places}

lemma selectTag_eq_ok_iff (parsed : Mode.parse asked = .ok mode) :
    selectTag asked version image places = .ok s ↔
      s = Request.select ⟨mode, Text.strip (version.getD ""), true⟩ image ∧
        (mode = .release → Text.strip (version.getD "") ≠ "") ∧ Text.IsUnicode s.tag places := by
  unfold selectTag
  constructor
  · intro h
    cases made : Request.create asked version with
    | error e => rw [made] at h; cases h
    | ok r =>
      rw [made] at h
      obtain ⟨rfl, some⟩ := (Request.create_eq_ok_iff r parsed version true).mp made
      obtain ⟨rfl, unicode⟩ := Request.selection_eq_ok.mp h
      exact ⟨rfl, some, unicode⟩
  · rintro ⟨rfl, some, unicode⟩
    rw [(Request.create_eq_ok_iff _ parsed version true).mpr ⟨rfl, some⟩]
    exact Request.selection_eq_ok.mpr ⟨rfl, unicode⟩

/-- **No tag is shared by mistake.** A release is taken when its version is more than blanks, and a
nightly run always, if no surrogate stands alone in what the tag is made of. Whatever was asked and
whatever the images are, two tags are different where one is that of a release and the other that of
a nightly run. The tags of one image are the same for all nightly runs, and for two releases when
their versions differ in the blanks around them at most. -/
theorem selectTag_tag_eq_iff {asked asked' : Asked} {mode mode' : Mode}
    (parsed : Mode.parse asked = .ok mode) (parsed' : Mode.parse asked' = .ok mode')
    (version version' : Option String) (places : Text.Surrogate.Places) :
    (∀ image, (∃ s, selectTag asked version image places = .ok s) ↔
      Text.IsUnicode image places ∧
        (mode = .release → Text.strip (version.getD "") ≠ "" ∧
          Text.IsUnicode (Text.strip (version.getD "")) places)) ∧
    (∀ image image' s s', selectTag asked version image places = .ok s →
      selectTag asked' version' image' places = .ok s' → s.tag = s'.tag → mode = mode') ∧
    ∀ image s s', selectTag asked version image places = .ok s →
      selectTag asked' version' image places = .ok s' →
        (s.tag = s'.tag ↔ mode = mode' ∧
          (mode = .release → Text.strip (version.getD "") = Text.strip (version'.getD ""))) := by
  refine ⟨fun image => ⟨fun ⟨s, h⟩ => ?_, fun ⟨name, given⟩ => ?_⟩,
    fun image image' s s' h h' same => ?_, fun image s s' h h' => ?_⟩
  · obtain ⟨rfl, some, unicode⟩ := (selectTag_eq_ok_iff parsed).mp h
    obtain ⟨name, written⟩ := (Request.isUnicode_tag_iff _ image).mp unicode
    exact ⟨name, fun release => ⟨some release, written release⟩⟩
  · refine ⟨_, (selectTag_eq_ok_iff parsed).mpr ⟨rfl, fun release => (given release).1, ?_⟩⟩
    exact (Request.isUnicode_tag_iff _ image).mpr ⟨name, fun release => (given release).2⟩
  · obtain ⟨rfl, -⟩ := (selectTag_eq_ok_iff parsed).mp h
    obtain ⟨rfl, -⟩ := (selectTag_eq_ok_iff parsed').mp h'
    exact Request.mode_eq_of_tag_eq image same
  · obtain ⟨rfl, -⟩ := (selectTag_eq_ok_iff parsed).mp h
    obtain ⟨rfl, -⟩ := (selectTag_eq_ok_iff parsed').mp h'
    exact Request.tag_eq_iff _ _ image

/-- A version that is spelled like the nightly tag, and a version with blanks around it. -/
theorem selectTag_tag_eq_iff_alike :
    (∃ s s', selectTag (.word "release") (some "cpu-nightly") "a" = .ok s ∧
      selectTag .nothing none "a" = .ok s' ∧ s.tag ≠ s'.tag) ∧
    ∃ s s', selectTag (.word "release") (some "\u2003 1 ") "a" = .ok s ∧
      selectTag (.mode .release) (some "1") "a" = .ok s' ∧ s.tag = s'.tag := by
  have word : Mode.parse (.word "release") = .ok .release := rfl
  have mode : Mode.parse (.mode .release) = .ok .release := rfl
  have nothing : Mode.parse .nothing = .ok .nightly := rfl
  have spelled := selectTag_tag_eq_iff word nothing (some "cpu-nightly") none .usual
  have nightly := selectTag_tag_eq_iff nothing nothing none none .usual
  have padded := selectTag_tag_eq_iff word mode (some "\u2003 1 ") (some "1") .usual
  have bare := selectTag_tag_eq_iff mode nothing (some "1") none .usual
  constructor
  · obtain ⟨s, h⟩ := (spelled.1 "a").mpr ⟨by decide, fun _ => by decide⟩
    obtain ⟨s', h'⟩ := (nightly.1 "a").mpr ⟨by decide, nofun⟩
    exact ⟨s, s', h, h', fun same => nomatch spelled.2.1 _ _ s s' h h' same⟩
  · obtain ⟨s, h⟩ := (padded.1 "a").mpr ⟨by decide, fun _ => by decide⟩
    obtain ⟨s', h'⟩ := (bare.1 "a").mpr ⟨by decide, fun _ => by decide⟩
    exact ⟨s, s', h, h', (padded.2.2 _ s s' h h').mpr ⟨rfl, fun _ => by decide⟩⟩

/-- Releases of different images can have one tag, where the name of an image holds a colon. -/
example :
    (Request.select ⟨.release, "b:1", true⟩ "a").tag =
      (Request.select ⟨.release, "1", true⟩ "a:b").tag := by
  decide

end ImageRelease
