import ImageRelease.Failure
import ImageRelease.Mode
import ImageRelease.Text.Blank
/-!
What one run is to release, the tag that follows from it, and the arguments of its build.

A nightly run has one tag for all versions and no build argument. A release run has its version in
its tag and in its build argument, so it needs one: blanks around a version do not count, and
nothing else is no version.
-/

namespace ImageRelease

structure Request where
  mode : Mode := .nightly
  version : String := ""
  push : Bool := true
  deriving DecidableEq, Repr

/-- The tag of an image, and whether the image is to be pushed. -/
structure Selection where
  tag : String
  push : Bool := true
  deriving DecidableEq, Repr

def usualImage : String := "deepjavalibrary/djl-spark"

def nightlyTag : String := "cpu-nightly"

def releaseSuffix : String := "-cpu"

def versionArgument : String := "DJL_VERSION"

namespace Request

def create (asked : Asked) (version : Option String) (push : Bool := true) :
    Except Rejection Request :=
  match Mode.parse asked with
  | .error r => .error r
  | .ok mode =>
    let version := Text.strip (version.getD "")
    if mode = .release ∧ version = "" then .error (.missingVersion anyVersionKey)
    else .ok ⟨mode, version, push⟩

/-- What stands after the colon of the tag. -/
def reference (r : Request) : String :=
  match r.mode with
  | .nightly => nightlyTag
  | .release => r.version ++ releaseSuffix

def select (r : Request) (image : String) : Selection :=
  ⟨image ++ ":" ++ r.reference, r.push⟩

def buildArgs (r : Request) : List (String × String) :=
  match r.mode with
  | .nightly => []
  | .release => [(versionArgument, r.version)]

end Request

namespace Selection

/-- The tag before its last colon; all of it if it has none. -/
def repository (s : Selection) : String :=
  match Text.cutLast ':' s.tag.toList with
  | some (a, _) => .ofList a
  | none => s.tag

/-- The tag after its last colon, which it must have. -/
def reference (s : Selection) : Except Failure String :=
  match Text.cutLast ':' s.tag.toList with
  | some (_, b) => .ok (.ofList b)
  | none => .error .noReference

/-- A tag with a colon is parted at its last one. -/
theorem tag_eq {s : Selection} (h : ':' ∈ s.tag.toList) :
    ∃ reference, s.reference = .ok reference ∧ s.tag = s.repository ++ ":" ++ reference ∧
      ':' ∉ reference.toList := by
  cases hc : Text.cutLast ':' s.tag.toList with
  | none => exact absurd h (Text.cutLast_eq_none.mp hc)
  | some parts =>
    obtain ⟨ht, hb⟩ := Text.eq_append_of_cutLast (a := parts.1) (b := parts.2) hc
    refine ⟨.ofList parts.2, ?_, ?_, ?_⟩
    · rw [reference, hc]
    · rw [repository, hc]
      apply String.toList_injective
      simp [ht]
    · simpa using hb

end Selection

/-- A selected tag has a colon. -/
theorem Request.colon_mem_select (r : Request) (image : String) :
    ':' ∈ (r.select image).tag.toList := by
  simp [select]

end ImageRelease
