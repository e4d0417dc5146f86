import ImageRelease.Records
/-!
What a run would release, decided before anything is done.
-/

namespace ImageRelease

/-- The tag and push decision for what is asked. -/
def selectTag (asked : Asked) (version : Option String) (image : String)
    (places : Text.Surrogate.Places := .usual) : Except Failure Selection := do
  let request ← (Request.create asked version).mapError .rejected
  request.selection image places

structure Plan where
  mode : Mode
  selection : Selection
  buildArgs : List (String × String)
  deriving DecidableEq, Repr

namespace Plan

def make (asked : Asked) (version : Option String) (image : String)
    (places : Text.Surrogate.Places := .usual) : Except Failure Plan := do
  let request ← (Request.create asked version).mapError .rejected
  let selection ← request.selection image places
  return ⟨request.mode, selection, request.buildArgs⟩

def toJson (p : Plan) : Json :=
  .obj [("mode", .str p.mode.name), ("tag", .str p.selection.tag), ("push", .bool p.selection.push),
    ("build_args", .obj (p.buildArgs.map fun a => (a.1, .str a.2)))]

end Plan

end ImageRelease
