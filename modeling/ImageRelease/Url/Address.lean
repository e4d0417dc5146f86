import ImageRelease.Host.Name
import ImageRelease.Host.Numeric
import ImageRelease.Number.Reading
import ImageRelease.Url.Escape
/-!
Addresses as they are sent.

An address is a scheme, a user, a host with a number behind it, a path, a query and a fragment. A
host is a number of the Internet Protocol or a name, and either is sent in ASCII. The number that is
usual for the scheme is not sent. A path under a scheme or a host has no dot segments. ASCII
controls may not stand in an address at all.
-/

namespace ImageRelease.Url

open Text

inductive Fault
  | tooLong
  | control (c : Char) (position : Nat)
  | dottedHost (host : String)
  | groupedHost (host : String)
  | hostName (host : String)
  | badNumber (text : String)
  | doubleSlash
  | colon
  | noSlash
  deriving DecidableEq, Repr

def Fault.message : Fault → String
  | .tooLong => "URL too long"
  | .control c n =>
    "Invalid non-printable ASCII character in URL, " ++ quoted (.ofList [c]) ++ " at position " ++
      toString n ++ "."
  | .dottedHost host => "Invalid IPv4 address: " ++ quoted host
  | .groupedHost host => "Invalid IPv6 address: " ++ quoted host
  | .hostName host => "Invalid IDNA hostname: " ++ quoted host
  | .badNumber text => "Invalid port: " ++ quoted text
  | .doubleSlash => "Relative URLs cannot have a path starting with '//'"
  | .colon => "Relative URLs cannot have a path starting with ':'"
  | .noSlash => "For absolute URLs, path must be empty or begin with '/'"

def lengthLimit : Nat := 65536

def isControl (c : Char) : Bool :=
  c.toNat < 0x20 || c.toNat == 0x7F

/-- The first control in a text, with its position. -/
def firstControl? (l : List Char) : Option (Char × Nat) :=
  (l.find? isControl).map fun c => (c, (l.takeWhile (!isControl ·)).length)

/-! ### Parts -/

/-- An address cut into parts, each as it is written. -/
structure Parts where
  scheme : List Char
  user : List Char
  host : List Char
  number : List Char
  path : List Char
  query : Option (List Char)
  fragment : Option (List Char)

def isSchemeChar (c : Char) : Bool :=
  c.isAlphanum || c == '+' || c == '.' || c == '-'

def takeScheme (l : List Char) : List Char × List Char :=
  match l.dropWhile isSchemeChar with
  | ':' :: rest =>
    match l.takeWhile isSchemeChar with
    | [] => ([], rest)
    | c :: s => if c.isAlpha then (c :: s, rest) else ([], l)
  | _ => ([], l)

/-- What stands behind two slashes, up to the next slash or to the query, and the rest. -/
def takeAuthority (l : List Char) : List Char × List Char :=
  match l with
  | '/' :: '/' :: rest =>
    let ends (c : Char) := c == '/' || c == '?' || c == '#'
    (rest.takeWhile (!ends ·), rest.dropWhile (!ends ·))
  | _ => ([], l)

/-- The text before the first of a sign, and the text after it if there is one. -/
def cutAt (sign : Char) (l : List Char) : List Char × Option (List Char) :=
  match cutFirst sign l with
  | some (a, b) => (a, some b)
  | none => (l, none)

/-- A host and the number behind it. Brackets around a host part it from its number, elsewhere a
colon does. -/
def takeHost (l : List Char) : List Char × List Char :=
  let (host, rest) := match l, cutLast ']' l with
    | '[' :: _, some (a, b) => (a ++ [']'], b)
    | _, _ => (l.takeWhile (· != ':'), l.dropWhile (· != ':'))
  (host, if rest.head? = some ':' then rest.drop 1 else rest)

def split (l : List Char) : Parts :=
  let (scheme, l) := takeScheme l
  let (authority, l) := takeAuthority l
  let (l, fragment) := cutAt '#' l
  let (path, query) := cutAt '?' l
  let (user, l) := (cutLast '@' authority).getD ([], authority)
  let (host, number) := takeHost l
  ⟨scheme, user, host, number, path, query, fragment⟩

/-! ### The normal form of each part -/

def sentHost (host : List Char) : Except Fault (List Char) :=
  if Host.looksDotted host then
    if Host.isDotted host then .ok host else .error (.dottedHost (.ofList host))
  else if host.head? = some '[' ∧ host.getLast? = some ']' then
    if Host.isGrouped (host.drop 1).dropLast then .ok host
    else .error (.groupedHost (.ofList host))
  else if host.all (·.toNat < 0x80) then .ok (escape hostMarks (host.map Char.toLower))
  else match Host.Name.encode host with
    | .ok name => .ok name
    | .error _ => .error (.hostName (.ofList host))

/-- The number behind a host that a scheme has when none is given. -/
def usualNumbers : List (String × Int) :=
  [("ftp", 21), ("http", 80), ("https", 443), ("ws", 80), ("wss", 443)]

def sentNumber (scheme number : List Char) : Except Fault (Option Int) :=
  if number = [] then .ok none
  else match Number.readWhole? number with
    | some n => .ok (if usualNumbers.lookup (.ofList scheme) = some n then none else some n)
    | none => .error (.badNumber (.ofList number))

/-- Follows the dots along a path, the segments kept so far newest first. -/
def followDots : (kept segments : List (List Char)) → List (List Char)
  | kept, [] => kept.reverse
  | kept, s :: rest =>
    if s = ['.'] then followDots kept rest
    else if s = ['.', '.'] then
      followDots (if kept = [] ∨ kept = [[]] then kept else kept.drop 1) rest
    else followDots (s :: kept) rest

def withoutDots (path : List Char) : List Char :=
  let segments := fields '/' path
  if segments.contains ['.'] || segments.contains ['.', '.'] then
    (joined "/" ((followDots [] segments).map String.ofList)).toList
  else path

/-! ### Addresses -/

structure Address where
  scheme : List Char
  user : List Char
  host : List Char
  number : Option Int
  path : List Char
  query : Option (List Char)
  fragment : Option (List Char)
  deriving DecidableEq, Repr

namespace Address

/-- What is wrong with a path that stands under no scheme and no host. -/
def loosePathFault? (path : List Char) : Option Fault :=
  match path with
  | '/' :: '/' :: _ => some .doubleSlash
  | ':' :: _ => some .colon
  | _ => none

def ofParts (p : Parts) : Except Fault Address := do
  let user := escape userMarks p.user
  let host ← sentHost p.host
  let number ← sentNumber p.scheme p.number
  let isLoose := p.scheme = [] ∧ user = [] ∧ host = [] ∧ number = none
  match if isLoose then loosePathFault? p.path else none with
  | some fault => throw fault
  | none =>
    return {
      scheme := p.scheme.map Char.toLower
      user
      host
      number
      path := escape pathMarks (if isLoose then p.path else withoutDots p.path)
      query := p.query.map (escape queryMarks)
      fragment := p.fragment.map (escape fragmentMarks) }

def read (s : String) : Except Fault Address :=
  if lengthLimit < s.length then .error .tooLong
  else match firstControl? s.toList with
    | some (c, n) => .error (.control c n)
    | none => ofParts (split s.toList)

def isAbsolute (a : Address) : Bool :=
  a.scheme != [] && a.host != []

/-- A part with the sign in front of it, if there is such a part. -/
def marked (sign : Char) : Option (List Char) → List Char
  | some l => sign :: l
  | none => []

def authority (a : Address) : List Char :=
  (if a.user = [] then [] else a.user ++ ['@']) ++ a.host ++
    marked ':' (a.number.map fun n => (toString n).toList)

/-- The path from the root on. -/
def rootedPath (a : Address) : List Char :=
  '/' :: a.path.dropWhile (· == '/')

/-- What is sent for an address: the whole of it, or its path and query if it does not stand on its
own. -/
def sent (a : Address) : String :=
  if a.isAbsolute then
    .ofList (a.scheme ++ ':' :: '/' :: '/' :: a.authority ++ a.path ++ marked '?' a.query ++
      marked '#' a.fragment)
  else .ofList (a.rootedPath ++ marked '?' a.query)

/-- Checks the host of an address if it is a name whose first label is told by numbers. -/
def checkHost (a : Address) : Except Host.Name.Fault Unit :=
  if Host.Label.told.isPrefixOf a.host then Host.Name.check a.host else .ok ()

/-- The path and query of the resource that an address asks a host for, where an address that does
not stand on its own is one of that host. -/
def path? (a : Address) : Option (List Char) :=
  unescape? (if a.isAbsolute then (if a.path = [] then ['/'] else a.path)
    else withoutDots a.rootedPath)

end Address

end ImageRelease.Url
