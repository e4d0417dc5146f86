import ImageRelease.Json.Value
import ImageRelease.Number.Seconds
import ImageRelease.Text.Split
import ImageRelease.Text.Upper
/-!
The catalogue of the reasons why a release is refused or comes to a stop.

Each reason is a cause. How it is told, as a code, a message, a suggestion and a detail, follows
from the cause in `Rejection.report`, and what surfaces print is the report as JSON.
-/

namespace ImageRelease

open Text

/-- A refusal in the form in which it is told. -/
structure Report where
  code : String
  message : String
  suggestion : Option String := some ""
  detail : Json := .null

/-- The report as an object; a suggestion or a detail that is blank has no field. -/
def Report.toJson (r : Report) : Json :=
  .obj ([("error_code", .str r.code), ("message", .str r.message)] ++
    (match r.suggestion.filter (· != "") with
      | some s => [("suggestion", .str s)]
      | none => []) ++
    (if r.detail.isBlank then [] else [("detail", r.detail)]))

/-- A tool that ended with a status other than zero. The wording can be given; a blank one counts
as not given. -/
structure ToolExit where
  tool : String
  status : Int
  stderr : String := ""
  code : Option String := none
  message : Option String := none
  suggestion : Option String := none

inductive ToolFault
  | exited (exit : ToolExit)
  | notFound (tool : String)
  | timedOut (tool : String) (limit : Seconds)

inductive Rejection
  | invalidMode (mode : Json)
  | missingVersion (key : String)
  | propertiesNotFound (path : String)
  | missingCredentials (names : List String)
  | tool (fault : ToolFault)
  | registryQuery (url : String) (status : Int) (body : String)
  | releaseTagExists (tag : String)
  | other (report : Report)

/-- The key that is named where no other is known. -/
def anyVersionKey : String := "version"

/-- How much of what a tool wrote to its error stream is told, in characters. -/
def stderrLimit : Nat := 2000

/-- How much of the body of an answer is told, in characters. -/
def bodyLimit : Nat := 500

def ToolFault.tool : ToolFault → String
  | .exited e => e.tool
  | .notFound t => t
  | .timedOut t _ => t

def ToolFault.status : ToolFault → Int
  | .exited e => e.status
  | .notFound _ => 127
  | .timedOut .. => -1

/-- The code for a tool that failed: its name in capitals, with underscores. -/
def toolCode (tool : String) : String :=
  .ofList ((upper tool).toList.map fun c => if c = '-' then '_' else c) ++ "_FAILED"

/-- A wording that was given and is not blank, or else the usual one. -/
def worded (given : Option String) (usual : String) : String :=
  match given with
  | some s => if s = "" then usual else s
  | none => usual

/-- A text as a detail; a blank one is none. -/
def textDetail (s : String) : Json :=
  if s = "" then .null else .str s

def ToolFault.report : ToolFault → Report
  | .exited e =>
    { code := worded e.code (toolCode e.tool)
      message := worded e.message (e.tool ++ " exited with status " ++ toString e.status)
      suggestion := some (worded e.suggestion
        ("Inspect the " ++ e.tool ++ " output above; the run was aborted at this step."))
      detail := textDetail (lastChars stderrLimit e.stderr) }
  | .notFound tool =>
    { code := "TOOL_NOT_FOUND"
      message := "Executable not found on PATH: " ++ tool
      suggestion := some ("Install " ++ tool ++ " on the runner image.") }
  | .timedOut tool limit =>
    { code := "TOOL_TIMEOUT"
      message := tool ++ " timed out after " ++ limit.rounded ++ "s"
      suggestion := some "Raise PUBLISH_TOOL_TIMEOUT or check the runner for stalls." }

def Rejection.report : Rejection → Report
  | .invalidMode mode =>
    { code := "INVALID_MODE"
      message := "Unknown publish mode: " ++ mode.literal
      suggestion := some "Use 'nightly' (default) or 'release'." }
  | .missingVersion key =>
    { code := "MISSING_VERSION"
      message := "Release mode requires a version, but '" ++ key ++ "' is empty or missing"
      suggestion :=
        some ("Set " ++ key ++ "=<x.y.z> in the properties file before a release run.") }
  | .propertiesNotFound path =>
    { code := "PROPERTIES_NOT_FOUND"
      message := "Properties file not found: " ++ path
      suggestion := some "Run from the repository root or set PUBLISH_PROPERTIES_FILE." }
  | .missingCredentials names =>
    { code := "MISSING_CREDENTIALS"
      message := "Missing registry credentials: " ++ joined ", " names
      suggestion := some "Export the variables or add them to .env before publishing."
      detail := .arr (names.map .str) }
  | .tool fault => fault.report
  | .registryQuery url status body =>
    { code := "REGISTRY_QUERY_FAILED"
      message := "Registry lookup " ++ url ++ " returned HTTP " ++ toString status
      suggestion := some "Check registry availability and retry the run."
      detail := textDetail (firstChars bodyLimit body) }
  | .releaseTagExists tag =>
    { code := "RELEASE_TAG_EXISTS"
      message := "Release tag already published: " ++ tag
      suggestion := some "Release tags are immutable. Bump the version or pass --allow-overwrite." }
  | .other report => report

def Rejection.message (r : Rejection) : String := r.report.message

def Rejection.isToolFailure : Rejection → Bool
  | .tool _ => true
  | _ => false

end ImageRelease
