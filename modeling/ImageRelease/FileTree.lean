import ImageRelease.Path
import ImageRelease.Text.Surrogate
/-!
The files below the working directory.

The tree lists what there is by the names that lead to it from the working directory. Above that
directory there are directories too, but nothing else in them is known, and so it is with the
root. A path is followed name by name, and only a directory leads on. A path is not looked up beyond
a name that is too long, nor at all if it is too long itself.
-/

namespace ImageRelease

inductive Entry
  | file (bytes : List UInt8)
  | directory
  deriving DecidableEq, Repr

/-- What may be done to the tree at a path. -/
inductive FileChange
  | write (bytes : List UInt8)
  | makeDirectory
  | remove
  deriving DecidableEq, Repr

structure FileTree where
  entries : List (List String × Entry) := []
  /-- Where names have surrogates, for their bytes that are no UTF-8. -/
  places : Text.Surrogate.Places := .usual

/-- Where a walk along a path has come to. -/
inductive Place
  | inside (names : List String)
  | above (levels : Nat)
  | root
  deriving DecidableEq, Repr

namespace FileTree

def at? (t : FileTree) (names : List String) : Option Entry :=
  if names = [] then some .directory else t.entries.lookup names

/-- Whether a walk may go on from a place. -/
def leadsOn (t : FileTree) : Place → Bool
  | .inside names => t.at? names == some .directory
  | .above _ => true
  | .root => true

/-- The place that a name leads to. -/
def next? (name : String) : Place → Option Place
  | .inside names =>
    if name = ".." then some (if names = [] then .above 1 else .inside names.dropLast)
    else some (.inside (names ++ [name]))
  | .above n => if name = ".." then some (.above (n + 1)) else none
  | .root => if name = ".." then some .root else none

def walk? (t : FileTree) (place : Place) : List String → Option Place
  | [] => some place
  | name :: rest =>
    if t.leadsOn place then (next? name place).bind fun p => t.walk? p rest else none

/-- The place of a path; that there is something at it is not said. -/
def place? (t : FileTree) (p : Path) : Option Place :=
  t.walk? (if p.anchor = .here then .inside [] else .root) p.names

def entry? (t : FileTree) (p : Path) : Option Entry :=
  (t.place? p).bind fun
    | .inside names => t.at? names
    | _ => some .directory

def file? (t : FileTree) (p : Path) : Option (List UInt8) :=
  match t.entry? p with
  | some (.file bytes) => some bytes
  | _ => none

def isDirectory (t : FileTree) (p : Path) : Bool :=
  t.entry? p == some .directory

def nameLimit : Nat := 255

def pathLimit : Nat := 4095

/-- Whether a walk along names comes to one that is too long. -/
def meetsLongName (t : FileTree) (place : Place) : List String → Bool
  | [] => false
  | name :: rest =>
    t.leadsOn place &&
      (nameLimit < Text.systemSize name t.places || match next? name place with
        | some p => t.meetsLongName p rest
        | none => false)

/-- Whether there is a name or a path that is too long where a path is looked up. What the system
cannot be given is never looked up. -/
def isLong (t : FileTree) (p : Path) : Bool :=
  p.names.all (Text.isForSystem · t.places) &&
    (pathLimit < Text.systemSize p.text t.places ||
      t.meetsLongName (if p.anchor = .here then .inside [] else .root) p.names)

/-- A path that cannot be looked up, as a text. -/
structure LongName where
  path : String
  deriving DecidableEq, Repr

/-- The content of the regular file at a path, if there is one. -/
def read? (t : FileTree) (p : Path) : Except LongName (Option (List UInt8)) :=
  if t.isLong p then .error ⟨p.text⟩ else .ok (t.file? p)

/-- The name of an entry that lies in a directory, if this one does. -/
def nameIn? (directory : List String) (names : List String) : Option String :=
  match names.getLast? with
  | some n => if names.dropLast = directory then some n else none
  | none => none

/-- The names in a directory; none where there is no directory. -/
def namesIn (t : FileTree) (p : Path) : List String :=
  if t.isDirectory p then
    match t.place? p with
    | some (.inside directory) => t.entries.filterMap fun e => nameIn? directory e.1
    | _ => []
  else []

def list? (t : FileTree) (p : Path) : Except LongName (List String) :=
  if t.isLong p then .error ⟨p.text⟩ else .ok (t.namesIn p)

/-- Gives the names an entry, in the place of one that was there. -/
def set (t : FileTree) (names : List String) (e : Entry) : FileTree :=
  { t with entries := t.entries.filter (·.1 != names) ++ [(names, e)] }

/-- Adds the directories along the names, but for the last name. -/
def makeParents (t : FileTree) : (done left : List String) → FileTree
  | _, [] => t
  | _, [_] => t
  | done, n :: m :: rest =>
    let names := done ++ [n]
    (if t.at? names = none then t.set names .directory else t).makeParents names (m :: rest)

def applyAt (t : FileTree) (names : List String) : FileChange → FileTree
  | .write bytes => (t.makeParents [] names).set names (.file bytes)
  | .makeDirectory =>
    let t := t.makeParents [] names
    if t.at? names = none then t.set names .directory else t
  | .remove => { t with entries := t.entries.filter fun e => !names.isPrefixOf e.1 }

/-- The tree after changes at paths below the working directory. -/
def apply (t : FileTree) (changes : List (String × FileChange)) : FileTree :=
  changes.foldl (fun t c => t.applyAt (Path.parse c.1).names c.2) t

theorem places_makeParents (t : FileTree) (done left : List String) :
    (t.makeParents done left).places = t.places := by
  induction left generalizing t done with
  | nil => rfl
  | cons n rest ih =>
    cases rest with
    | nil => rfl
    | cons m more =>
      unfold makeParents
      dsimp only
      rw [ih]
      split <;> rfl

theorem places_applyAt (t : FileTree) (names : List String) (change : FileChange) :
    (t.applyAt names change).places = t.places := by
  cases change with
  | write bytes => exact places_makeParents t [] names
  | makeDirectory =>
    unfold applyAt
    dsimp only
    split <;> exact places_makeParents t [] names
  | remove => rfl

/-- No change makes names have their surrogates elsewhere. -/
@[simp] theorem places_apply (t : FileTree) (changes : List (String × FileChange)) :
    (t.apply changes).places = t.places := by
  unfold apply
  induction changes generalizing t with
  | nil => rfl
  | cons c rest ih => exact (ih _).trans (places_applyAt t _ _)

end FileTree

end ImageRelease
