import ImageRelease.Buildx
import ImageRelease.Ecr
import ImageRelease.Hub
import ImageRelease.Properties
import ImageRelease.Records
import ImageRelease.Trigger
import ImageRelease.Wheel
/-!
The release of one image.

A run goes through six stages: the repository is authorized, the mode is validated, the logins are
made, the version is resolved, the wheels are built, and the image is built and pushed. A
repository that may not release ends the run as skipped before any tool is started. The first
failure ends it as failed; nothing is undone. A publisher can run again: its progress, with the
timings and warnings of earlier runs, goes on from where it was.

A publisher makes a runner of its own and looks tags up in the registry of its settings. It can be
given both: a runner that others work with as well, and that may be in earnest where the publisher
is not, and something else that knows about tags.
-/

namespace ImageRelease

structure Publisher where
  asked : Asked
  settings : Settings
  repository : String := ""
  dryRun : Bool := false
  allowOverwrite : Bool := false
  root : Path := ⟨.here, []⟩
  jobId : String

/-- What a publisher has come to. -/
structure Progress where
  state : JobState := .received
  mode : Option Mode := none
  request : Option Request := none
  selection : Option Selection := none
  artifacts : List Artifact := []
  warnings : List String := []
  timings : List StageTiming := []

/-- A session together with the progress of the publisher in it. -/
structure Publishing where
  session : Session
  progress : Progress := {}

/-- An action of the session, in the midst of a release. -/
def inSession {α : Type} (x : Act Session α) : Act Publishing α :=
  x.within (·.session) fun s p => { p with session := s }

def update (f : Progress → Progress) : Act Publishing Unit :=
  Act.modify fun p => { p with progress := f p.progress }

def enter (state : JobState) : Act Publishing Unit :=
  update fun p => { p with state }

def warn (text : String) : Act Publishing Unit :=
  update fun p => { p with warnings := p.warnings ++ [text] }

def now : Act Publishing Float := do
  return (← Act.state).session.clock

/-- Records how a stage that began at `start` ended, if its time can be told. -/
def recordStage (stage : Stage) (start : Float) (status : StageStatus := .ok)
    (detail : String := "") : Act Publishing Unit := do
  let time ← Act.ofExcept (wholeMilliseconds start (← now))
  update fun p => { p with timings := p.timings ++ [⟨stage, time, status, detail⟩] }
  inSession (info ("  " ++ status.symbol ++ " " ++ stage.name ++ " — " ++ toString time ++ "ms " ++
    detail))

def recordingFailure {α : Type} (stage : Stage) (start : Float) (body : Act Publishing α) :
    Act Publishing α :=
  body.onFailure fun e => recordStage stage start .failed e.message

/-- Masks values one after another, as a runner does with those that it is made with. -/
def maskEach : List String → Act Session Unit
  | [] => return ()
  | secret :: rest => do
    addSecret secret
    maskEach rest

/-- What a publisher works with. -/
structure Equipment where
  runner : Runner
  /-- Whether a repository has a tag. -/
  tagExists : String → String → Act Session Bool

def Equipment.docker (e : Equipment) : Docker :=
  { runner := e.runner }

def rule : String :=
  .ofList (List.replicate 60 '=')

namespace Publisher

def runner (p : Publisher) : Runner :=
  ⟨p.dryRun, some (.real p.settings.toolTimeout)⟩

def docker (p : Publisher) : Docker :=
  { runner := p.runner }

def hub (p : Publisher) : Hub :=
  .ofUrl p.settings.dockerHub.url

/-- What a publisher makes for itself. -/
def equipment (p : Publisher) : Equipment :=
  ⟨p.runner, p.hub.exists?⟩

/-- Gets ready to run: the secrets of the settings are masked from now on. -/
def prepare (p : Publisher) : Act Session Unit :=
  maskEach [p.settings.aws.secretAccessKey, p.settings.dockerHub.password]

def result (p : Publisher) (g : Progress) : JobResult :=
  { jobId := p.jobId
    state := g.state
    mode := match g.mode with
      | some m => m.name
      | none => p.asked.nameOrNightly
    version := (g.request.map (·.version)).getD ""
    imageTag := g.selection.map (·.tag)
    pushed := match g.selection with
      | some s => s.push && g.state == .delivered && !p.dryRun
      | none => false
    dryRun := p.dryRun
    artifacts := g.artifacts
    timings := g.timings
    warnings := g.warnings }

/-- Whether the repository may release; if not, the run is skipped. -/
def authorize (p : Publisher) : Act Publishing Bool := do
  let start ← now
  let allowed := p.settings.allowedRepository
  if repositoryAllowed p.repository allowed then
    enter .authorized
    recordStage .authorize start
    return true
  enter .skipped
  warn ("Repository " ++ p.repository ++ " is not " ++ allowed ++ "; nothing published.")
  recordStage .authorize start .skipped p.repository
  return false

def validate (p : Publisher) : Act Publishing Mode := do
  let start ← now
  let mode ← recordingFailure .validate start do
    let mode ← Act.ofRejection (Mode.parse p.asked)
    update fun g => { g with mode := some mode }
    return mode
  recordStage .validate start .ok ("mode=" ++ mode.name)
  return mode

/-- Makes the logins; outside a dry run all credentials must be there. -/
def credentials (p : Publisher) (e : Equipment := p.equipment) : Act Publishing Unit := do
  let start ← now
  let hosts ← recordingFailure .credentials start do
    if !p.dryRun then Act.ofRejection p.settings.validateCredentials
    inSession e.docker.setupBuildx
    let hosts ← inSession (Ecr.login e.runner p.settings.aws p.settings.aws.registries)
    inSession (e.docker.login p.settings.dockerHub.username p.settings.dockerHub.password)
    return hosts
  enter .credentialsConfigured
  recordStage .credentials start .ok ("ecr=" ++ toString hosts.length ++ " docker_hub=yes")

/-- The version that the properties file gives. A nightly run does without it, and without the
file. -/
def lookUpVersion (p : Publisher) (mode : Mode) (start : Float) :
    Act Publishing (Option String) := do
  let path := p.root.join p.settings.propertiesFile
  match Properties.readVersion (← Act.state).session.files path p.settings.versionKey with
  | .ok version => return version
  | .error (.rejected (.propertiesNotFound path)) =>
    if mode = .release then
      let r := Rejection.propertiesNotFound path
      recordStage .resolveVersion start .failed r.message
      .fail (.rejected r)
    else return none
  | .error e => .fail e

def resolveVersion (p : Publisher) (mode : Mode) : Act Publishing Request := do
  let start ← now
  let key := p.settings.versionKey
  let version ← p.lookUpVersion mode start
  if version.isNone then
    if mode = .release then
      recordStage .resolveVersion start .failed (key ++ " missing")
      .fail (.rejected (.missingVersion key))
    else warn (key ++ " not found; nightly image is built without a version.")
  let request ← Act.ofRejection (Request.create (.mode mode) version)
  update fun g => { g with request := some request }
  enter .versionResolved
  recordStage .resolveVersion start .ok (version.getD "-")
  return request

def wheelBuilder (p : Publisher) (interpreter : String) (e : Equipment := p.equipment) :
    WheelBuilder :=
  ⟨e.runner, p.root.join p.settings.wheelDirectory, interpreter⟩

def buildWheel (p : Publisher) (e : Equipment := p.equipment) : Act Publishing Unit := do
  let start ← now
  let builder := p.wheelBuilder (← Act.state).session.interpreter e
  let artifacts ← recordingFailure .buildWheel start do
    let artifacts ← inSession builder.build
    update fun g => { g with artifacts }
    return artifacts
  enter .wheelBuilt
  recordStage .buildWheel start .ok (toString artifacts.length ++ " wheel(s)")

/-- Makes sure that a tag is not released yet, as far as that can be asked. -/
def checkUnreleased (p : Publisher) (selection : Selection) (e : Equipment := p.equipment) :
    Act Session Unit := do
  if p.dryRun then
    info ("  DRY RUN: would check " ++ selection.tag ++ " is not yet published")
  else
    let reference ← Act.ofExcept selection.reference
    if ← e.tagExists selection.repository reference then
      .fail (.rejected (.releaseTagExists selection.tag))

def buildSpec (p : Publisher) (request : Request) (selection : Selection) : BuildSpec :=
  { context := (p.root.join p.settings.image.context).text
    dockerfile := (p.root.join p.settings.image.dockerfile).text
    tags := [selection.tag]
    buildArgs := request.buildArgs
    push := selection.push }

/-- Builds and pushes the image. A release tag that exists is not written over unless that is
allowed. The tag is selected before the stage can record a failure. -/
def publishImage (p : Publisher) (request : Request) (e : Equipment := p.equipment) :
    Act Publishing Unit := do
  let start ← now
  let places := (← Act.state).session.files.places
  let selection ← Act.ofExcept (request.selection p.settings.image.image places)
  update fun g => { g with selection := some selection }
  recordingFailure .publishImage start do
    if request.mode = .release ∧ !p.allowOverwrite then inSession (p.checkUnreleased selection e)
    let _ ← inSession (e.docker.build (p.buildSpec request selection))
  enter .imagePublished
  recordStage .publishImage start .ok selection.tag

/-- The stages of a run, and whether they were gone through. -/
def stages (p : Publisher) (e : Equipment := p.equipment) : Act Publishing Bool := do
  if ← p.authorize then
    let mode ← p.validate
    p.credentials e
    let request ← p.resolveVersion mode
    p.buildWheel e
    p.publishImage request e
    enter .delivered
    return true
  return false

def banner (text : String) : Act Publishing Unit := do
  inSession (info rule)
  inSession (info text)
  inSession (info rule)

def run (p : Publisher) (e : Equipment := p.equipment) : Act Publishing JobResult := do
  let job := "[" ++ p.jobId ++ "] "
  banner (job ++ "Publish starting (mode=" ++ p.asked.literal ++ " dry_run=" ++
    (if p.dryRun then "True" else "False") ++ ")")
  let start ← now
  let delivered ← (p.stages e).onFailure fun _ => enter .failed
  if delivered then
    let time ← Act.ofExcept (wholeMilliseconds start (← now))
    let tag := (((← Act.state).progress.selection).map (·.tag)).getD ""
    banner (job ++ "Publish complete — " ++ tag ++ " in " ++ toString time ++ "ms")
  return p.result (← Act.state).progress

/-- The first run of a publisher, from getting ready on. -/
def release (p : Publisher) : Act Session JobResult := do
  p.prepare
  p.run.within (fun session => { session }) fun done _ => done.session

end Publisher

end ImageRelease
