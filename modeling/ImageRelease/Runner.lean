import ImageRelease.Masking
import ImageRelease.Session
/-!
Running external commands, one at a time.

A command line is shown in the log with all secrets masked, and then the command is started, or
only shown in a dry run. A status of zero is success, if what the tool wrote is text; every other
end is a failure. What a failed tool wrote to its error stream is masked before any of it is told.
-/

namespace ImageRelease

structure Runner where
  dryRun : Bool := false
  timeout : Option Seconds := none

/-- A command that succeeded, or would have in a dry run. -/
structure Completed where
  argv : List String
  status : Int := 0
  stdout : String := ""
  stderr : String := ""
  deriving DecidableEq, Repr

def baseName (path : String) : String :=
  match Text.cutLast '/' path.toList with
  | some (_, name) => .ofList name
  | none => path

/-- How much of an error stream the log shows, in characters. -/
def logLimit : Nat := 500

/-- Starts a command: it takes its time, changes files, and ends. -/
def start (c : Command) : Act Session Ending := do
  let outcome := (← Act.state).script.head?.getD {}
  Act.modify fun s => { s with
    clock := s.clock + outcome.elapsed
    files := s.files.apply outcome.changes
    script := s.script.drop 1 }
  note (.command c (.started outcome.ending))
  return outcome.ending

namespace Runner

/-- The time that is told when a command has run out of time. -/
def limit (r : Runner) : Seconds :=
  match r.timeout with
  | some t => if t.isZero then .whole 0 else t
  | none => .whole 0

/-- What the end of a command means. -/
def conclude (r : Runner) (argv : List String) (program : String) : Ending → Act Session Completed
  | .exited status stdout stderr =>
    if status = 0 then return ⟨argv, status, stdout, stderr⟩
    else do
      let stderr := redact [stderr] (← Act.state).secrets
      let tail := Text.lastChars logLimit (Text.strip stderr)
      log .error ("  " ++ baseName program ++ " returned " ++ toString status ++ ": " ++ tail)
      .fail (.rejected (.tool (.exited { tool := baseName program, status, stderr })))
  | .unreadable _ fault => .fail (.notText fault)
  | .notFound => .fail (.rejected (.tool (.notFound (baseName program))))
  | .timedOut => .fail (.timedOut (baseName program) r.limit)
  | .denied => .fail (.permissionDenied program)
  | .refused why => .fail (.refused why)

/-- Runs a command. Variables in `overrides` go over those of the session; without any, the command
gets the environment as it is. -/
def run (r : Runner) (argv : List String) (cwd : Option String := none) (overrides : Env := [])
    (input : Option String := none) : Act Session Completed :=
  match argv with
  | [] => .fail .emptyCommand
  | program :: _ => do
    let s ← Act.state
    let shown := redact argv s.secrets
    let env := if overrides = [] then none else some (Entries.merge s.env overrides)
    let command : Command := ⟨argv, cwd, env, input, r.timeout⟩
    if r.dryRun then
      info ("  DRY RUN: would execute: " ++ shown)
      note (.command command .rehearsed)
      return { argv }
    info ("  $ " ++ shown)
    r.conclude argv program (← start command)

end Runner

end ImageRelease
