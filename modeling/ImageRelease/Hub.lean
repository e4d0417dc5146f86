import ImageRelease.MediaType
import ImageRelease.Packing.Wrapper
import ImageRelease.Session
/-!
Tags on Docker Hub.

A tag exists if the registry answers 200 and is free if it answers 404; any other answer, and none
at all, settles nothing and is a failure. An answer that sends on to another location is not
followed, but that location must be an address.
-/

namespace ImageRelease

namespace Response

/-- The values of a header, in any case of its name; several are one list. -/
def header? (name : String) (r : Response) : Option String :=
  match r.headers.filter fun h => h.1.toList.map Char.toLower = name.toList with
  | [] => none
  | l => Text.joined ", " (l.map (·.2))

/-- What in the headers is not ASCII, if anything is. -/
def headerFault? (r : Response) : Option Text.WriteFault :=
  (r.headers.flatMap fun h => [h.1, h.2]).findSome? (Text.asciiFault? ·.toList)

/-- How the body is said to be packed, the last way first. Ways that are not known count for
nothing. -/
def packing (r : Response) : List Packing.Method :=
  let given := match r.header? "content-encoding" with
    | some list =>
      (Text.fields ',' list.toList).map fun e => String.ofList (Text.lower (Text.trim e))
    | none => []
  (given.filterMap fun
    | "gzip" => some .gzip
    | "deflate" => some .deflate
    | _ => none).reverse

/-- The bytes of the body when it is unpacked. -/
def content (r : Response) : Except String (List UInt8) :=
  r.packing.foldlM (fun bytes m => m.unpack bytes) (Text.Utf8.encode r.body.toList)

def redirects : List Int := [301, 302, 303, 307, 308]

/-- The location that an answer sends on to. -/
def location? (r : Response) : Option String :=
  if redirects.contains r.status then r.header? "location" else none

/-- The bytes of the body in the charset that its type names, or else in UTF-8. -/
def text (r : Response) (content : List UInt8) : Except Text.Charset.Fault String :=
  if content = [] then .ok ""
  else do
    let charset ← match r.header? "content-type" with
      | some type => MediaType.charset? type
      | none => .ok none
    return .ofList (← (charset.getD .utf8).decode content)

end Response

/-- Why a location is no address to go to. -/
inductive LocationFault
  | notRead (fault : Url.Fault)
  | badAddress (fault : Url.Fault)
  | badHost (fault : Host.Name.Fault)

/-- Checks a location. One with a scheme but no host is taken to be under the host that was asked,
and then its path must start at the root. -/
def checkLocation (location : String) : Except LocationFault Unit :=
  match Url.Address.read location with
  | .error fault => .error (.notRead fault)
  | .ok a =>
    if a.scheme ≠ [] ∧ a.host = [] ∧ a.path ≠ [] ∧ a.path.head? ≠ some '/' then
      .error (.badAddress .noSlash)
    else match a.checkHost with
      | .ok () => .ok ()
      | .error fault => .error (.badHost fault)

structure Hub where
  /-- The address without slashes at its end. -/
  base : String

namespace Hub

def usualUrl : String := "https://hub.docker.com"

def ofUrl (url : String) : Hub :=
  ⟨.ofList (url.toList.reverse.dropWhile (· == '/')).reverse⟩

def tagUrl (h : Hub) (repository tag : String) : String :=
  h.base ++ "/v2/repositories/" ++ repository ++ "/tags/" ++ tag

/-- Asks the registry, which takes its time and gives the reply of the session. -/
def ask (url : String) : Act Session Reply := do
  let reply := (← Act.state).reply
  Act.modify fun s => { s with clock := s.clock + s.replyTime }
  note (.lookup url reply)
  return reply

/-- The end of a lookup to which no answer came. -/
def giveUp {α : Type} (url message : String) : Act Session α := do
  log .error ("  Docker Hub lookup failed: " ++ message)
  .fail (.rejected (.registryQuery url 0 message))

/-- Takes a response as the answer to a lookup, with its content, if it is one. -/
def receive (url : String) (address : Url.Address) (r : Response) :
    Act Session (Response × List UInt8) :=
  match r.headerFault?, r.content with
  | some fault, _ => .fail (.notWritable fault)
  | none, .error message =>
    .fail (.exchange .decoding ("Error -3 while decompressing data: " ++ message))
  | none, .ok content =>
    if !address.isAbsolute then .fail (.looseAddress address.sent)
    else match (r.location?.map checkLocation).getD (.ok ()) with
      | .ok () => return (r, content)
      | .error (.notRead fault) =>
        giveUp url ("Invalid URL in location header: " ++ fault.message ++ ".")
      | .error (.badAddress fault) => .fail (.badAddress fault)
      | .error (.badHost fault) => .fail (.badHost fault)

/-- The address that is asked about a url, if it can be asked. -/
def target (url : String) : Except Failure Url.Address :=
  match Url.Address.read url with
  | .error fault => .error (.badAddress fault)
  | .ok a =>
    if a.isAbsolute then
      match a.checkHost with
      | .ok () => .ok a
      | .error fault => .error (.badHost fault)
    else .ok a

def fetch (url : String) : Act Session (Response × List UInt8) := do
  let address ← Act.ofExcept (target url)
  match ← ask address.sent with
  | .noConnection message => giveUp url message
  | .fault fault message => .fail (.exchange fault message)
  | .response r => receive url address r

def exists? (h : Hub) (repository tag : String) : Act Session Bool := do
  let url := h.tagUrl repository tag
  let (r, content) ← fetch url
  if r.status = 200 then
    info ("  Tag " ++ repository ++ ":" ++ tag ++ " already exists on Docker Hub")
    return true
  else if r.status = 404 then return false
  else match r.text content with
    | .ok body => .fail (.rejected (.registryQuery url r.status body))
    | .error fault => .fail (.notRead fault)

end Hub

end ImageRelease
