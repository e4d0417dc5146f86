import ImageRelease.Json.Value
/-!
What a release run reports: its state, its stages with their times, the wheels it built, and the
result that holds all of it.
-/

namespace ImageRelease

inductive JobState
  | received
  | authorized
  | credentialsConfigured
  | versionResolved
  | wheelBuilt
  | imagePublished
  | delivered
  | skipped
  | failed
  deriving DecidableEq, Repr

def JobState.name : JobState → String
  | received => "RECEIVED"
  | authorized => "AUTHORIZED"
  | credentialsConfigured => "CREDENTIALS_CONFIGURED"
  | versionResolved => "VERSION_RESOLVED"
  | wheelBuilt => "WHEEL_BUILT"
  | imagePublished => "IMAGE_PUBLISHED"
  | delivered => "DELIVERED"
  | skipped => "SKIPPED"
  | failed => "FAILED"

def JobState.all : List JobState :=
  [.received, .authorized, .credentialsConfigured, .versionResolved, .wheelBuilt, .imagePublished,
    .delivered, .skipped, .failed]

inductive Stage
  | authorize
  | validate
  | credentials
  | resolveVersion
  | buildWheel
  | publishImage
  deriving DecidableEq, Repr

def Stage.name : Stage → String
  | authorize => "authorize"
  | validate => "validate"
  | credentials => "credentials"
  | resolveVersion => "resolve_version"
  | buildWheel => "build_wheel"
  | publishImage => "publish_image"

inductive StageStatus
  | ok
  | skipped
  | failed
  deriving DecidableEq, Repr

def StageStatus.name : StageStatus → String
  | ok => "ok"
  | skipped => "skipped"
  | failed => "failed"

def StageStatus.symbol : StageStatus → String
  | ok => "✓"
  | skipped => "⊘"
  | failed => "✗"

structure StageTiming where
  stage : Stage
  milliseconds : Int
  status : StageStatus := .ok
  detail : String := ""
  deriving DecidableEq, Repr

def StageTiming.toJson (t : StageTiming) : Json :=
  .obj [("step", .str t.stage.name), ("duration_ms", .int t.milliseconds),
    ("status", .str t.status.name), ("detail", .str t.detail)]

structure Artifact where
  fileName : String
  size : Nat
  /-- The digest SHA-256 of the content. -/
  digest : String := ""
  deriving DecidableEq, Repr

def Artifact.toJson (a : Artifact) : Json :=
  .obj [("filename", .str a.fileName), ("size_bytes", .int a.size), ("content_hash", .str a.digest)]

structure JobResult where
  jobId : String
  state : JobState
  mode : String
  version : String := ""
  imageTag : Option String := none
  pushed : Bool := false
  dryRun : Bool := false
  artifacts : List Artifact := []
  timings : List StageTiming := []
  warnings : List String := []
  deriving DecidableEq, Repr

def JobResult.toJson (r : JobResult) : Json :=
  .obj [("job_id", .str r.jobId), ("state", .str r.state.name), ("mode", .str r.mode),
    ("version", .str r.version), ("image_tag", (r.imageTag.map Json.str).getD .null),
    ("pushed", .bool r.pushed), ("dry_run", .bool r.dryRun),
    ("artifacts", .arr (r.artifacts.map Artifact.toJson)),
    ("timings", .arr (r.timings.map StageTiming.toJson)), ("warnings", .arr (r.warnings.map .str))]

end ImageRelease
