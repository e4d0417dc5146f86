import ImageRelease.Json.Bytes
import ImageRelease.Json.Writer
import ImageRelease.Plan
import ImageRelease.Product
import ImageRelease.Publisher
/-!
The service that plans and dispatches releases over HTTP.

An endpoint has one path and one method; with slashes after it, a path sends on to the endpoint. The
body is an object, and what is wrong with its fields is told all at once, before anything is done.
A refusal is answered with its report, with status 502 if a tool failed and with 422 otherwise.
What is not foreseen as a refusal is no answer and stays a failure.
-/

namespace ImageRelease.Service

/-- What goes with a call: nothing, a text, or a value. -/
inductive Content
  | nothing
  | text (s : String)
  | json (v : Json)

/-- A call of the service: the path with its escapes read, and the bytes of the body. -/
structure Call where
  method : String
  path : List Char
  body : List UInt8 := []
  deriving DecidableEq, Repr

/-- An answer, which may be without a body. -/
structure Answer where
  status : Nat
  body : Option Json

def Content.bytes : Content → Except Failure (List UInt8)
  | .nothing => .ok []
  | .text s => .ok (Text.Utf8.encode s.toList)
  | .json v =>
    if v.isStrict then .ok (Text.Utf8.encode v.dense.toList) else .error .notStrictJson

/-- The call that a client makes at an address, which is one of the service if it does not stand on
its own. -/
def Call.make (method address : String) (content : Content) : Except Failure Call :=
  match Url.Address.read address with
  | .error fault => .error (.badAddress fault)
  | .ok a =>
    match content.bytes with
    | .error e => .error e
    | .ok body =>
      match if a.isAbsolute then a.checkHost else .ok () with
      | .error fault => .error (.badHost fault)
      | .ok () => .ok ⟨Text.upper method, a.path?.getD [], body⟩

inductive Endpoint
  | health
  | plan
  | dispatch
  deriving DecidableEq, Repr

def Endpoint.path : Endpoint → String
  | health => "/health"
  | plan => "/v1/plan"
  | dispatch => "/v1/dispatch"

def Endpoint.method : Endpoint → String
  | health => "GET"
  | plan => "POST"
  | dispatch => "POST"

def Endpoint.all : List Endpoint :=
  [.health, .plan, .dispatch]

/-- The endpoint at a path, which may end with a line feed. -/
def Endpoint.at? (path : List Char) : Option Endpoint :=
  let path := if path.getLast? = some '\n' then path.dropLast else path
  Endpoint.all.find? (·.path.toList == path)

/-- The endpoint that a path with slashes after it sends on to. -/
def Endpoint.behind? (path : List Char) : Option Endpoint :=
  if path.getLast? = some '/' then at? (path.reverse.dropWhile (· == '/')).reverse else none

theorem Endpoint.at?_path (e : Endpoint) : Endpoint.at? e.path.toList = some e := by
  cases e <;> decide +kernel

/-! ### Bodies -/

def planFields : Fields :=
  [("mode", .text 0, some (.str Mode.nightly.name)), ("version", .nullable (.text 0), some .null)]

def dispatchFields : Fields :=
  [("mode", .text 0, some (.str Mode.nightly.name)), ("repository", .text 0, some (.str "")),
    ("dry_run", .flag, some (.bool false)), ("allow_overwrite", .flag, some (.bool false))]

structure PlanOrder where
  mode : String
  version : Option String
  deriving DecidableEq, Repr

structure DispatchOrder where
  mode : String
  repository : String
  dryRun : Bool
  allowOverwrite : Bool
  deriving DecidableEq, Repr

def PlanOrder.ofRecord (record : List (String × Json)) : PlanOrder :=
  ⟨textField "mode" record, textField? "version" record⟩

def DispatchOrder.ofRecord (record : List (String × Json)) : DispatchOrder :=
  ⟨textField "mode" record, textField "repository" record, flagField "dry_run" record,
    flagField "allow_overwrite" record⟩

/-- How deep arrays and objects may lie in a body. -/
def bodyLimits : Json.Limits := { depth := 955 }

/-- What is wrong with a body: it is not read at all, or its fields do not fit. -/
inductive BodyFault
  | unreadable
  | misfits (all : List Misfit)

def readBody (fields : Fields) (body : List UInt8) : Except BodyFault (List (String × Json)) :=
  let here := [Step.name "body"]
  if body = [] then .error (.misfits [⟨here, .missing, .null⟩])
  else match Json.textOf? body with
    | none => .error .unreadable
    | some text =>
      match Json.read text bodyLimits with
      | .error (.fault f) =>
        .error (.misfits [⟨here ++ [.index f.position], .notJson f.cause, .obj []⟩])
      | .error _ => .error .unreadable
      | .ok (.obj given) =>
        match FieldType.readFields .usual here (.obj given) fields with
        | .ok record => .ok record
        | .error all => .error (.misfits all)
      | .ok v => .error (.misfits [⟨here, .notObject, v⟩])

/-! ### Answers -/

def stepJson : Step → Json
  | .name s => .str s
  | .index n => .int n

/-- What is told of a fault beyond its wording. -/
def context : FieldFault → List (String × Json)
  | .notJson cause => [("ctx", .obj [("error", .str cause.text)])]
  | _ => []

def misfitJson (m : Misfit) : Json :=
  .obj ([("type", .str m.fault.code), ("loc", .arr (m.path.map stepJson)),
    ("msg", .str m.fault.message), ("input", m.input)] ++ context m.fault)

def detail (v : Json) : Json :=
  .obj [("detail", v)]

def answerWith (status : Nat) (v : Json) : Answer :=
  ⟨status, some v⟩

def BodyFault.answer : BodyFault → Answer
  | .unreadable => answerWith 400 (detail (.str "There was an error parsing the body"))
  | .misfits all => answerWith 422 (detail (.arr (all.map misfitJson)))

def refusal (r : Rejection) : Answer :=
  answerWith (if r.isToolFailure then 502 else 422) (detail r.report.toJson)

def health : Json :=
  .obj [("status", .str "ok"), ("service", .str productName), ("version", .str productVersion)]

def plan (o : PlanOrder) : Act Session Answer := do
  let s ← Act.state
  let settings ← Act.ofExcept (Settings.load s.env)
  match Plan.make (.word o.mode) o.version settings.image.image s.files.places with
  | .ok p => return answerWith 200 p.toJson
  | .error (.rejected r) => return refusal r
  | .error e => .fail e

def release (o : DispatchOrder) : Act Session JobResult := do
  let s ← Act.state
  let settings ← Act.ofExcept (Settings.load s.env)
  Publisher.release {
    asked := .word o.mode
    settings
    repository := o.repository
    dryRun := o.dryRun
    allowOverwrite := o.allowOverwrite
    jobId := s.jobId }

def dispatch (o : DispatchOrder) : Act Session Answer := do
  let s ← Act.state
  let label := "[" ++ s.jobId ++ "] "
  info (label ++ "POST /v1/dispatch — mode=" ++ o.mode ++ " dry_run=" ++
    (if o.dryRun then "True" else "False"))
  match ← (release o).attempt with
  | .ok result =>
    let time := Number.wholeText (millisecondsSince s.clock (← Act.state).clock)
    info (label ++ result.state.name ++ " in " ++ time ++ " ms")
    return answerWith 200 result.toJson
  | .error (.rejected r) =>
    log .warning
      (label ++ (if r.isToolFailure then "tool failure: " else "rejected: ") ++ r.report.code)
    return refusal r
  | .error e => .fail e

def withBody {α : Type} (fields : Fields) (ofRecord : List (String × Json) → α) (body : List UInt8)
    (next : α → Act Session Answer) : Act Session Answer :=
  match readBody fields body with
  | .error fault => return fault.answer
  | .ok record => next (ofRecord record)

def respond (c : Call) : Act Session Answer :=
  match Endpoint.at? c.path with
  | some e =>
    if c.method ≠ e.method then return answerWith 405 (detail (.str "Method Not Allowed"))
    else match e with
      | .health => return answerWith 200 health
      | .plan => withBody planFields .ofRecord c.body plan
      | .dispatch => withBody dispatchFields .ofRecord c.body dispatch
  | none =>
    match Endpoint.behind? c.path with
    | some _ => return ⟨307, none⟩
    | none => return answerWith 404 (detail (.str "Not Found"))

/-- Writes an answer, whose doubles must be finite and whose text must be Unicode. -/
def Answer.write (a : Answer) (places : Text.Surrogate.Places := .usual) :
    Except Failure Answer :=
  match a.body with
  | none => .ok a
  | some v =>
    if !v.isStrict then .error .notStrictJson
    else match Text.utf8Fault? v.dense.toList places with
      | some fault => .error (.notWritable fault)
      | none => .ok a

/-- Answers a call; one that asks for the head alone gets no body. -/
def answer (c : Call) : Act Session Answer := do
  let places := (← Act.state).files.places
  let a ← Act.ofExcept ((← respond c).write places)
  return if c.method = "HEAD" then { a with body := none } else a

end ImageRelease.Service
