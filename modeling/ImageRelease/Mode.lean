import ImageRelease.Rejection
/-!
The two modes of a release run, and the words that ask for them.

Nothing asked, or an empty word, means nightly; any other word must be the name of a mode exactly.
-/

namespace ImageRelease

inductive Mode
  | nightly
  | release
  deriving DecidableEq, Repr

/-- What a caller asks for: nothing, a word, or a mode. -/
inductive Asked
  | nothing
  | word (s : String)
  | mode (m : Mode)
  deriving DecidableEq, Repr

namespace Mode

def name : Mode → String
  | nightly => "nightly"
  | release => "release"

def ofName? (s : String) : Option Mode :=
  if s = "nightly" then some nightly
  else if s = "release" then some release
  else none

def parse : Asked → Except Rejection Mode
  | .nothing => .ok nightly
  | .mode m => .ok m
  | .word s =>
    if s = "" then .ok nightly
    else match ofName? s with
      | some m => .ok m
      | none => .error (.invalidMode (.str s))

@[simp] theorem ofName?_name (m : Mode) : ofName? m.name = some m := by
  cases m <;> rfl

theorem ofName?_eq_some {s : String} {m : Mode} : ofName? s = some m ↔ s = m.name := by
  constructor
  · intro h
    unfold ofName? at h
    split at h
    · cases h; assumption
    · split at h
      · cases h; assumption
      · cases h
  · rintro rfl; simp

end Mode

namespace Asked

/-- What a value asks for; what is neither a word nor null asks for no mode there is. -/
def ofJson : Json → Except Rejection Asked
  | .null => .ok .nothing
  | .str s => .ok (.word s)
  | v => .error (.invalidMode v)

def literal : Asked → String
  | .nothing => "None"
  | .word s => Text.quoted s
  | .mode .nightly => "<PublishMode.NIGHTLY: 'nightly'>"
  | .mode .release => "<PublishMode.RELEASE: 'release'>"

/-- The name of what was asked, nightly where nothing was. -/
def nameOrNightly : Asked → String
  | .nothing => Mode.nightly.name
  | .word s => if s = "" then Mode.nightly.name else s
  | .mode m => m.name

end Asked

end ImageRelease
