import ImageRelease.Act
import ImageRelease.FileTree
import ImageRelease.Settings
/-!
A session: the world as a run meets it, and the journal of what the run did.

The world is the environment, the files, the clock, and what is to come of it: how each command
will end, in order, and what the registry will answer. The journal takes every line of the log,
every command with its end, every lookup with its answer, and every value that is masked from then
on. It only ever grows at its end, and the values to mask are read off it.
-/

namespace ImageRelease

inductive Level
  | info
  | warning
  | error
  deriving DecidableEq, Repr

/-- How a command ends: with a status and what it wrote, or without. What it wrote need not be text,
and a command that the system does not take, such as one with a NUL in it, ends as refused. -/
inductive Ending
  | exited (status : Int) (stdout stderr : String)
  /-- The status is there, but what was written is no UTF-8. -/
  | unreadable (status : Int) (fault : Text.Utf8.Fault)
  | notFound
  | timedOut
  | denied
  | refused (why : Refusal)
  deriving DecidableEq, Repr

/-- What a command will do: take its time, change files, and end. -/
structure Outcome where
  elapsed : Float := 0
  changes : List (String × FileChange) := []
  ending : Ending := .exited 0 "" ""

structure Response where
  status : Int := 404
  body : String := ""
  headers : List (String × String) := []
  deriving DecidableEq, Repr

/-- What comes of a question to the registry. -/
inductive Reply
  | response (r : Response)
  | noConnection (message : String)
  | fault (fault : ExchangeFault) (message : String)
  deriving DecidableEq, Repr

/-- A command as it is handed over; `env` is the whole environment where it is not the usual one. -/
structure Command where
  argv : List String
  cwd : Option String := none
  env : Option Env := none
  input : Option String := none
  timeout : Option Seconds := none

/-- What became of a command: it was only shown, or it was started and ended. -/
inductive Fate
  | rehearsed
  | started (ending : Ending)
  deriving DecidableEq, Repr

inductive Event
  | logged (level : Level) (text : String)
  | command (c : Command) (fate : Fate)
  | lookup (url : String) (reply : Reply)
  | masked (secret : String)

namespace Event

def secret? : Event → Option String
  | masked s => some s
  | _ => none

/-- A command that was started, with its end. -/
def call? : Event → Option (Command × Ending)
  | command c (.started e) => some (c, e)
  | _ => none

/-- A command that was started or only shown. -/
def command? : Event → Option Command
  | command c _ => some c
  | _ => none

def lookup? : Event → Option (String × Reply)
  | lookup u r => some (u, r)
  | _ => none

def line? : Event → Option (Level × String)
  | logged l t => some (l, t)
  | _ => none

end Event

structure Session where
  env : Env := []
  files : FileTree := {}
  clock : Float := 0
  script : List Outcome := []
  reply : Reply := .response {}
  replyTime : Float := 0
  /-- The program that builds wheels. -/
  interpreter : String := "python3"
  /-- The next identifier to be handed out, in base sixteen. -/
  identifier : String
  journal : List Event := []

namespace Session

/-- The values to mask, in the order in which they became known. -/
def secrets (s : Session) : List String :=
  s.journal.filterMap Event.secret?

def jobId (s : Session) : String :=
  Text.firstChars 12 s.identifier

def noted (s : Session) (e : Event) : Session :=
  { s with journal := s.journal ++ [e] }

end Session

def note (e : Event) : Act Session Unit :=
  Act.modify fun s => { s with journal := s.journal ++ [e] }

def log (level : Level) (text : String) : Act Session Unit :=
  note (.logged level text)

def info (text : String) : Act Session Unit :=
  log .info text

@[simp] theorem run_note (e : Event) (s : Session) : (note e).run s = (.ok (), s.noted e) := rfl

@[simp] theorem run_log (level : Level) (text : String) (s : Session) :
    (log level text).run s = (.ok (), s.noted (.logged level text)) := rfl

@[simp] theorem run_info (text : String) (s : Session) :
    (info text).run s = (.ok (), s.noted (.logged .info text)) := rfl

/-- Masks a value from now on. An empty value and one already known change nothing. -/
def addSecret (secret : String) : Act Session Unit := do
  let s ← Act.state
  if secret = "" ∨ secret ∈ s.secrets then return ()
  note (.masked secret)

def millisecondsSince (start now : Float) : Float :=
  (now - start) * 1000

/-- The whole milliseconds since a reading of the clock. -/
def wholeMilliseconds (start now : Float) : Except Failure Int :=
  let time := millisecondsSince start now
  match Number.view time with
  | .nan => .error .undefined
  | .infinite _ => .error .endless
  | .finite .. => .ok (Number.truncate time)

/-- Runs an external step under a name: a line before it, and one after it with the time it took,
whether it succeeds or fails. -/
def timed {α : Type} (name : String) (body : Act Session α) : Act Session α := do
  info ("▶ " ++ name ++ " — started")
  let start := (← Act.state).clock
  let result ← body.onFailure fun _ => do
    let time := Number.wholeText (millisecondsSince start (← Act.state).clock)
    log .error ("✗ " ++ name ++ " — failed after " ++ time ++ " ms")
  let time := Number.wholeText (millisecondsSince start (← Act.state).clock)
  info ("✔ " ++ name ++ " — completed in " ++ time ++ " ms")
  return result

end ImageRelease
