import ImageRelease.CommandLine.Invocation
import ImageRelease.Json.Writer
import ImageRelease.Plan
import ImageRelease.Publisher
/-!
Carrying out a command line in a session.

The answer is what the program prints and its exit status: 0 for success, also of a run that is
skipped, 1 if a tool failed, 2 for anything else that is refused. A refusal is told as one line of
JSON in the error stream and as a line in the log. What is not foreseen as a refusal is no answer
and stays a failure.
-/

namespace ImageRelease.CommandLine

structure Answer where
  status : Nat := 0
  stdout : String := ""
  stderr : String := ""
  deriving DecidableEq, Repr

def helpText : String :=
  "usage: " ++ productName ++ " [-h] [--version] COMMAND ...\n\n" ++
  "Build and publish the nightly or release container image.\n\n" ++
  "  publish [--mode MODE] [--from-event] [--root ROOT] [--dry-run] [--allow-overwrite]\n" ++
  "  plan [--mode MODE] [--version VERSION | --properties FILE] [--output text|json|github]\n"

/-- The answer to a command line that is not carried out. -/
def Stop.answer : Stop → Answer
  | .help => { stdout := helpText }
  | .version => { stdout := productName ++ " " ++ productVersion ++ "\n" }
  | .misuse program m => { status := 2, stderr := program ++ ": error: " ++ m.message ++ "\n" }

/-- The answer to a line without a command. -/
def idleAnswer : Answer :=
  { status := 2, stderr := "ERROR: Command is required. Use --help for usage information.\n" }

def Output.print (plan : Plan) : Output → String
  | .text => plan.selection.tag ++ "\n"
  | .json => plan.toJson.compact ++ "\n"
  | .github =>
    "tag=" ++ plan.selection.tag ++ "\n" ++
      "push=" ++ (if plan.selection.push then "true" else "false") ++ "\n"

/-- Carries out a release: the mode comes from the event or from the command line. -/
def publish (o : PublishOptions) : Act Session JobResult := do
  let s ← Act.state
  let settings ← Act.ofExcept (Settings.load s.env)
  let trigger ← Trigger.load s.env
  let mode ← if o.fromEvent then Act.ofExcept trigger.mode else pure o.mode
  Publisher.release {
    asked := .word mode
    settings
    repository := trigger.repository
    dryRun := o.dryRun
    allowOverwrite := o.allowOverwrite
    root := .parse o.root
    jobId := s.jobId }

/-- The version that a plan is told: that of a properties file, or the one given. -/
def plannedVersion (o : PlanOptions) (settings : Settings) : Act Session (Option String) := do
  match o.properties.filter (· != "") with
  | none => return o.version
  | some path =>
    Act.ofExcept (Properties.readVersion (← Act.state).files (.parse path) settings.versionKey)

def plan (o : PlanOptions) : Act Session Plan := do
  let s ← Act.state
  let settings ← Act.ofExcept (Settings.load s.env)
  let version ← plannedVersion o settings
  Act.ofExcept (Plan.make (.word o.mode) version settings.image.image s.files.places)

def refusal (r : Rejection) : Answer where
  status := if r.isToolFailure then 1 else 2
  stderr := r.report.toJson.compact ++ "\n"

/-- A result as it is printed, which must be Unicode text. -/
def printed (result : JobResult) (places : Text.Surrogate.Places := .usual) :
    Except Failure String :=
  match result.toJson.writeFault? places with
  | some fault => .error (.notPrintable fault)
  | none => .ok (result.toJson.indented ++ "\n")

/-- Answers with what an action prints, or with its refusal. -/
def answering (x : Act Session String) : Act Session Answer := do
  match ← x.attempt with
  | .ok stdout => return { stdout }
  | .error (.rejected r) =>
    log .error
      ((if r.isToolFailure then "Publish aborted: " else "Publish rejected: ") ++ r.message)
    return refusal r
  | .error e => .fail e

def Invocation.run : Invocation → Act Session Answer
  | .idle => return idleAnswer
  | .publish o => do
    let places := (← Act.state).files.places
    answering do Act.ofExcept (printed (← CommandLine.publish o) places)
  | .plan o => answering do return o.output.print (← CommandLine.plan o)

def run (args : List String) : Act Session Answer :=
  match Invocation.read args with
  | .error stop => return stop.answer
  | .ok invocation => invocation.run

end ImageRelease.CommandLine
