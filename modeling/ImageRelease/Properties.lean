import ImageRelease.Failure
import ImageRelease.FileTree
import ImageRelease.Text.Blank
import ImageRelease.Text.Lines
/-!
The version in a properties file.

A line is an assignment if it is no comment and has an equals sign; the first one parts the key
from the value, and blanks around either do not count. A key keeps its last value and its first
place.
-/

namespace ImageRelease.Properties

open Text

/-- The key and the value of a line that assigns one. -/
def assignment? (line : List Char) : Option (List Char × List Char) :=
  match trim line with
  | [] => none
  | c :: rest =>
    if c = '#' ∨ c = '!' then none
    else (cutFirst '=' (c :: rest)).map fun (k, v) => (trim k, trim v)

def assignments (text : List Char) : List (String × String) :=
  ((lines text).filterMap assignment?).map fun (k, v) => (.ofList k, .ofList v)

/-- The last value of each key. -/
def parse (text : List Char) : List (String × String) :=
  Entries.ofPairs (assignments text)

/-- The value of a key, if it has one that is not empty. -/
def version? (text : List Char) (key : String) : Option String :=
  (Entries.get? key (parse text)).filter (· != "")

/-- The value of a key in the file at a path. -/
def readVersion (files : FileTree) (path : Path) (key : String) : Except Failure (Option String) :=
  match files.read? path with
  | .error fault => .error (.longName fault.path)
  | .ok none => .error (.rejected (.propertiesNotFound path.text))
  | .ok (some bytes) =>
    match Utf8.decode bytes with
    | .error fault => .error (.notText fault)
    | .ok text => .ok (version? (plainLineFeeds text) key)

end ImageRelease.Properties
