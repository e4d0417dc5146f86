import ImageRelease.Session
import ImageRelease.Text.Lines
/-!
What triggered a run: the event of the platform, and whether its repository may release.

Only a manual dispatch asks for a mode, as the input of that name in its payload; every other event
asks for nothing. A blank value on the way to the input is as good as none, and any other value on
the way must be an object.
-/

namespace ImageRelease

def dispatchEvent : String := "workflow_dispatch"

structure Trigger where
  event : String
  repository : String := ""
  payload : Json := .obj []

namespace Trigger

/-- A field of a value, null where the value is blank or lacks it. -/
def field (name : String) (v : Json) : Except Failure Json :=
  if v.isBlank then .ok .null
  else match v with
    | .obj fields => .ok ((Entries.get? name fields).getD .null)
    | v => .error (.lacks v.kind "get")

def modeOf (event : String) (payload : Json) : Except Failure String :=
  if event = dispatchEvent then
    match field "inputs" payload with
    | .error e => .error e
    | .ok inputs =>
      match field "mode" inputs with
      | .error e => .error e
      | .ok mode => .ok (if mode.isBlank then "" else mode.shown)
  else .ok ""

def mode (t : Trigger) : Except Failure String :=
  modeOf t.event t.payload

def readPayload (bytes : List UInt8) : Except Failure Json :=
  match Text.Utf8.decode bytes with
  | .error fault => .error (.notText fault)
  | .ok text =>
    let text := Text.plainLineFeeds text
    match Json.readUnmarked text with
    | .error obstacle => .error (.notJson obstacle text)
    | .ok v => .ok v

/-- The payload of the event that an environment describes; an empty object where no file has it. -/
def payloadFor (files : FileTree) (env : Env) : Except Failure Json :=
  let path := env.getD "GITHUB_EVENT_PATH" ""
  if path = "" then .ok (.obj [])
  else match files.read? (.parse path) with
    | .error fault => .error (.longName fault.path)
    | .ok (some bytes) => readPayload bytes
    | .ok none => .ok (.obj [])

def orDash (s : String) : String :=
  if s = "" then "-" else s

def load (env : Env) : Act Session Trigger := do
  let payload ← Act.ofExcept (payloadFor (← Act.state).files env)
  let t : Trigger :=
    ⟨env.getD "GITHUB_EVENT_NAME" "", env.getD "GITHUB_REPOSITORY" "", payload⟩
  info ("  Trigger: event=" ++ orDash t.event ++ " repository=" ++ orDash t.repository)
  return t

end Trigger

/-- Whether a repository may release. An unknown repository and a guard that is not set never stop
a run. -/
def repositoryAllowed (current allowed : String) : Bool :=
  current == "" || allowed == "" || current == allowed

end ImageRelease
