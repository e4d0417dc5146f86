import ImageRelease.Buildx
import ImageRelease.Job
import ImageRelease.Record
import ImageRelease.Request
/-!
The records of a release as they are given from outside, and what they stand for.
-/

namespace ImageRelease

def requestSchema : Schema where
  name := "PublishRequest"
  frozen := true
  fields := [
    ("mode", .choice [Mode.nightly.name, Mode.release.name], some (.str Mode.nightly.name)),
    ("version", .text 0, some (.str "")), ("push_enabled", .flag, some (.bool true))]

def selectionSchema : Schema where
  name := "TagSelection"
  frozen := true
  fields := [("tag", .text 1, none), ("push", .flag, some (.bool true))]

def buildSpecSchema : Schema where
  name := "ImageBuildSpec"
  fields := [("context", .text 0, some (.str ".")), ("dockerfile", .text 0, none),
    ("tags", .list 1 (.text 0), none), ("build_args", .map (.text 0), some (.obj [])),
    ("push", .flag, some (.bool false))]

def timingSchema : Schema where
  name := "StepTiming"
  fields := [("step", .text 0, none), ("duration_ms", .whole, none),
    ("status", .text 0, some (.str StageStatus.ok.name)), ("detail", .text 0, some (.str ""))]

def artifactSchema : Schema where
  name := "ArtifactMetadata"
  fields := [("filename", .text 0, none), ("size_bytes", .whole, none),
    ("content_hash", .text 0, some (.str ""))]

def resultSchema : Schema where
  name := "JobResult"
  fields := [("job_id", .text 0, none), ("state", .choice (JobState.all.map (·.name)), none),
    ("mode", .text 0, none), ("version", .text 0, some (.str "")),
    ("image_tag", .nullable (.text 0), some .null), ("pushed", .flag, some (.bool false)),
    ("dry_run", .flag, some (.bool false)),
    ("artifacts", .list 0 (.record artifactSchema.name artifactSchema.fields), some (.arr [])),
    ("timings", .list 0 (.record timingSchema.name timingSchema.fields), some (.arr [])),
    ("warnings", .list 0 (.text 0), some (.arr []))]

def schemas : List Schema :=
  [requestSchema, selectionSchema, buildSpecSchema, timingSchema, artifactSchema, resultSchema]

/-- The request of a record, which needs a version only for a release. -/
def Request.ofRecord (record : List (String × Json)) : Except Failure Request :=
  let mode := (Mode.ofName? (textField "mode" record)).getD .nightly
  let needed := ["mode"] ++ (if mode = .release then ["version"] else []) ++ ["push_enabled"]
  match needed.find? fun n => (Entries.get? n record).isNone with
  | some lacking => .error (.lacks requestSchema.name lacking)
  | none => .ok {
      mode
      version := textField "version" record
      push := flagField "push_enabled" record }

def Selection.ofRecord (record : List (String × Json)) : Selection :=
  ⟨textField "tag" record, flagField "push" record⟩

def textsOf : Json → List String
  | .arr items => items.filterMap fun
    | .str s => some s
    | _ => none
  | _ => []

def entriesOf : Json → List (String × String)
  | .obj fields => fields.filterMap fun
    | (n, .str s) => some (n, s)
    | _ => none
  | _ => []

def BuildSpec.ofRecord (record : List (String × Json)) : BuildSpec where
  context := textField "context" record
  dockerfile := textField "dockerfile" record
  tags := textsOf ((Entries.get? "tags" record).getD .null)
  buildArgs := entriesOf ((Entries.get? "build_args" record).getD .null)
  push := flagField "push" record

def Selection.read (given : Json) (places : Text.Surrogate.Places := .usual) :
    Except Failure Selection :=
  (selectionSchema.read given [] places).map ofRecord

def Selection.toRecord (s : Selection) : Json :=
  .obj [("tag", .str s.tag), ("push", .bool s.push)]

/-- The selection for a request. It is a record like any other, so its tag must be Unicode text. -/
def Request.selection (r : Request) (image : String)
    (places : Text.Surrogate.Places := .usual) : Except Failure Selection :=
  Selection.read (r.select image).toRecord places

def BuildSpec.read (given : Json) : Except Failure BuildSpec :=
  (buildSpecSchema.read given).map ofRecord

end ImageRelease
