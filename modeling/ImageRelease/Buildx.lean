import ImageRelease.Runner
/-!
Images built and pushed with `docker buildx`.
-/

namespace ImageRelease

/-- What one build is given. -/
structure BuildSpec where
  context : String := "."
  dockerfile : String
  tags : List String
  buildArgs : List (String × String) := []
  push : Bool := false
  deriving DecidableEq, Repr

structure Docker where
  runner : Runner
  executable : String := "docker"

namespace Docker

def setupCommand (d : Docker) : List String :=
  [d.executable, "buildx", "create", "--use"]

def setupBuildx (d : Docker) : Act Session Unit :=
  timed "Setup Docker buildx" do
    let _ ← d.runner.run d.setupCommand

def loginCommand (d : Docker) (username : String) (registry : Option String) : List String :=
  [d.executable, "login", "--username", username, "--password-stdin"] ++ registry.toList

/-- Logs in to a registry, or to Docker Hub where none is named. The password goes by the standard
input and is masked before that. -/
def login (d : Docker) (username password : String) (registry : Option String := none) :
    Act Session Unit :=
  let registry := registry.filter (· != "")
  timed ("Login to " ++ registry.getD "Docker Hub") do
    addSecret password
    let _ ← d.runner.run (d.loginCommand username registry) none [] (some password)

def sortedArgs (args : List (String × String)) : List (String × String) :=
  args.mergeSort fun a b => Text.inOrder a.1 b.1

/-- The command line of a build: the file, each tag, each argument, what to do with the image, and
the context last. -/
def buildCommand (d : Docker) (spec : BuildSpec) : List String :=
  [d.executable, "buildx", "build", "--file", spec.dockerfile] ++
    spec.tags.flatMap (["--tag", ·]) ++
    (sortedArgs spec.buildArgs).flatMap (fun a => ["--build-arg", a.1 ++ "=" ++ a.2]) ++
    [if spec.push then "--push" else "--load", spec.context]

def build (d : Docker) (spec : BuildSpec) : Act Session Completed :=
  let tags := Text.joined ", " spec.tags
  timed ((if spec.push then "Build and push " else "Build ") ++ tags) do
    let result ← d.runner.run (d.buildCommand spec)
    info ("  Image " ++ (if spec.push then "pushed" else "built") ++ ": " ++ tags)
    return result

end Docker

end ImageRelease
