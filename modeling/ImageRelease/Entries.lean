/-!
Named values in the order in which their names first came up.

Giving a name a value again keeps its place and changes the value. `names_put` and `get?_put` say
so; no name stands twice in what is built from pairs.
-/

namespace ImageRelease.Entries

variable {α : Type}

def put (name : String) (value : α) : List (String × α) → List (String × α)
  | [] => [(name, value)]
  | (n, v) :: rest => if n = name then (name, value) :: rest else (n, v) :: put name value rest

def get? (name : String) : List (String × α) → Option α
  | [] => none
  | (n, v) :: rest => if n = name then some v else get? name rest

/-- The entries that pairs build, the later ones over the earlier. -/
def ofPairs (pairs : List (String × α)) : List (String × α) :=
  pairs.foldl (fun entries p => put p.1 p.2 entries) []

/-- Entries with others laid over them. -/
def merge (base added : List (String × α)) : List (String × α) :=
  added.foldl (fun entries p => put p.1 p.2 entries) base

def names (entries : List (String × α)) : List String :=
  entries.map (·.1)

@[simp] theorem get?_put (name other : String) (value : α) (entries : List (String × α)) :
    get? other (put name value entries) =
      if name = other then some value else get? other entries := by
  induction entries with
  | nil => simp [put, get?]
  | cons e rest ih =>
    obtain ⟨n, v⟩ := e
    by_cases h : n = name
    · subst h; by_cases h' : n = other <;> simp [put, get?, h']
    · by_cases h' : n = other
      · subst h'; simp [put, get?, h, Ne.symm h]
      · simp [put, get?, h, h', ih]

theorem names_put (name : String) (value : α) (entries : List (String × α)) :
    names (put name value entries) =
      if name ∈ names entries then names entries else names entries ++ [name] := by
  induction entries with
  | nil => simp [put, names]
  | cons e rest ih =>
    obtain ⟨n, v⟩ := e
    by_cases h : n = name
    · simp [put, names, h]
    · simp only [names] at ih
      simp only [put, h, ↓reduceIte, names, List.map_cons, List.mem_cons, Ne.symm h, false_or, ih]
      split <;> simp_all

end ImageRelease.Entries
