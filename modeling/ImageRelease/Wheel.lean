import ImageRelease.Digest.Sha256
import ImageRelease.Job
import ImageRelease.Runner
/-!
Wheels, built in their package directory.

What counts is what is new: the wheels that are in `dist` after the build and were not there
before it, in the order of their names, each with the size and the digest of its content.
-/

namespace ImageRelease

structure WheelBuilder where
  runner : Runner
  directory : Path
  interpreter : String

namespace WheelBuilder

def dist (w : WheelBuilder) : Path :=
  w.directory.join "dist"

def isWheelName (name : String) : Bool :=
  ".whl".toList.isSuffixOf name.toList

def wheelsIn (dist : Path) : Act Session (List String) := do
  match (← Act.state).files.list? dist with
  | .ok names => return names.filter isWheelName
  | .error fault => .fail (.longName fault.path)

/-- The wheels of `after` that are not in `before`, by name. -/
def newWheels (before after : List String) (places : Text.Surrogate.Places := .usual) :
    List String :=
  (after.filter fun n => !before.contains n).mergeSort (Text.inOrder · · places)

def command (w : WheelBuilder) : List String :=
  [w.interpreter, "setup.py", "bdist_wheel"]

/-- The record of a wheel, which must be a file whose path is not too long. -/
def inspect (dist : Path) (name : String) : Act Session Artifact := do
  let path := dist.join name
  match (← Act.state).files.read? path with
  | .error fault => .fail (.longName fault.path)
  | .ok none => .fail (.isDirectory path.text)
  | .ok (some bytes) =>
    info ("  Built wheel: " ++ name ++ " (" ++ toString bytes.length ++ " bytes)")
    return ⟨name, bytes.length, Digest.sha256 bytes⟩

def inspectEach (dist : Path) : List String → Act Session (List Artifact)
  | [] => return []
  | name :: rest => do
    let a ← inspect dist name
    return a :: (← inspectEach dist rest)

/-- Builds the wheels and tells the new ones; none in a dry run. -/
def build (w : WheelBuilder) : Act Session (List Artifact) := do
  let places := (← Act.state).files.places
  let before ← wheelsIn w.dist
  timed "Build wheel" do
    let _ ← w.runner.run w.command (some w.directory.text)
  if w.runner.dryRun then return []
  inspectEach w.dist (newWheels before (← wheelsIn w.dist) places)

end WheelBuilder

end ImageRelease
