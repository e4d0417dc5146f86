import ImageRelease.CommandLine.Run
/-!
The program: a command line, read and carried out, and its answer printed.

The session is a picture of what the program finds: the variables that settings and events are read
from, and the files below the working directory that the command names. No tool is started from
here, so a release gets past its first tool only as a dry run.
-/

open ImageRelease

/-- The variables that settings and events are read from. -/
def variableNames : List String :=
  ["AWS_ACCESS_KEY_ID", "AWS_SECRET_ACCESS_KEY", "AWS_REGION", "ECR_REGISTRIES", "DOCKER_USERNAME",
    "DOCKER_PASSWORD", "PUBLISH_HUB_URL", "PUBLISH_IMAGE", "PUBLISH_CONTEXT", "PUBLISH_DOCKERFILE",
    "PUBLISH_PROPERTIES_FILE", "PUBLISH_VERSION_KEY", "PUBLISH_WHEEL_DIR",
    "PUBLISH_ALLOWED_REPOSITORY", "PUBLISH_TOOL_TIMEOUT", "GITHUB_EVENT_NAME", "GITHUB_EVENT_PATH",
    "GITHUB_REPOSITORY"]

/-- The files that an invocation may read. -/
def filesNamed (env : Env) : CommandLine.Invocation → List Path
  | .idle => []
  | .publish o =>
    [(Path.parse o.root).join (env.getD "PUBLISH_PROPERTIES_FILE" "gradle.properties"),
      .parse (env.getD "GITHUB_EVENT_PATH" "")]
  | .plan o => o.properties.toList.map Path.parse

def readVariables : List String → IO Env
  | [] => return []
  | name :: rest => do
    let others ← readVariables rest
    match ← IO.getEnv name with
    | some value => return (name, value) :: others
    | none => return others

/-- The files among some paths, each as it is read. -/
def readFiles : List Path → IO (List (String × FileChange))
  | [] => return []
  | path :: rest => do
    let others ← readFiles rest
    try
      let bytes ← IO.FS.readBinFile path.text
      return (path.text, .write bytes.toList) :: others
    catch _ => return others

def levelName : Level → String
  | .info => "INFO"
  | .warning => "WARNING"
  | .error => "ERROR"

def main (args : List String) : IO UInt32 := do
  let env ← readVariables variableNames
  let paths := match CommandLine.Invocation.read args with
    | .ok invocation => filesNamed env invocation
    | .error _ => []
  let files := FileTree.apply {} (← readFiles paths)
  let identifier := String.ofList (Text.hex 12 (← IO.rand 0 (Number.twoTo 48 - 1)))
  let (result, after) := (CommandLine.run args).run
    { env, files, identifier, script := [{ ending := .notFound }] }
  for (level, text) in after.journal.filterMap Event.line? do
    IO.eprintln (levelName level ++ " " ++ text)
  match result with
  | .ok answer =>
    IO.print answer.stdout
    IO.eprint answer.stderr
    return answer.status.toUInt32
  | .error failure =>
    IO.eprintln failure.message
    return 1
