import ImageRelease.Text.Split
/-!
Paths in their normal form: where they start, and the names along them.

Empty names and single dots between slashes mean nothing and are dropped; two dots are kept, since
what they mean depends on the tree. Two slashes in front are a start of their own, three and more
are one.
-/

namespace ImageRelease

/-- Where a path starts: at the working directory, at the root, or at the root with two slashes. -/
inductive Anchor
  | here
  | root
  | doubleRoot
  deriving DecidableEq, Repr

structure Path where
  anchor : Anchor
  names : List String
  deriving DecidableEq, Repr

namespace Path

def anchorOf (l : List Char) : Anchor :=
  match (l.takeWhile (· == '/')).length with
  | 0 => .here
  | 2 => .doubleRoot
  | _ => .root

/-- The names between the slashes that lead anywhere. -/
def namesOf (l : List Char) : List String :=
  ((Text.fields '/' l).map String.ofList).filter fun n => n != "" && n != "."

def parse (s : String) : Path :=
  ⟨anchorOf s.toList, namesOf s.toList⟩

/-- The path that leads on from the end of `p`; a path that starts at the root stands alone. -/
def join (p : Path) (s : String) : Path :=
  let q := parse s
  match q.anchor with
  | .here => ⟨p.anchor, p.names ++ q.names⟩
  | _ => q

def text (p : Path) : String :=
  let names := Text.joined "/" p.names
  match p.anchor with
  | .here => if p.names = [] then "." else names
  | .root => "/" ++ names
  | .doubleRoot => "//" ++ names

theorem join_eq_of_here {p : Path} {s : String} (h : (parse s).anchor = .here) :
    p.join s = ⟨p.anchor, p.names ++ (parse s).names⟩ := by
  simp [join, h]

end Path

end ImageRelease
