import ImageRelease.Buildx
import ImageRelease.Proofs.CodePoints
import ImageRelease.Proofs.Entries

/-!
What the command line of a build says.

Behind the name of the command stand flags, each with its value, then what is to be done with the
image, and the context. Read from the left in this way every value is passed over as a whole, so
that it may be spelled like a flag: `readPairs_cons` is one step of the reading, `readPairs_line`
the reading of all of them. `buildCommand_eq_iff` puts the parts together again, and two builds have
one command line when they are the same but for the order in which the build arguments were given.
-/

namespace ImageRelease

namespace BuildSpec

/-- The name of a build argument can be told from its value, and no name is given twice. -/
structure Legible (spec : BuildSpec) : Prop where
  once : (Entries.names spec.buildArgs).Nodup
  unequal : ∀ name ∈ Entries.names spec.buildArgs, '=' ∉ name.toList

/-- The flags of a build that have a value, with their values. -/
def pairs (spec : BuildSpec) : List (String × String) :=
  ("--file", spec.dockerfile) :: (spec.tags.map (("--tag", ·)) ++
    (Docker.sortedArgs spec.buildArgs).map fun a => ("--build-arg", a.1 ++ "=" ++ a.2))

/-- The same build with its arguments in the order of their names. -/
def sorted (spec : BuildSpec) : BuildSpec :=
  { spec with buildArgs := Docker.sortedArgs spec.buildArgs }

end BuildSpec

namespace Docker

/-! ### Reading from the left -/

/-- Flags with their values from the left, up to what is to be done with the image and the
context. -/
def readPairs : List String → Option (List (String × String) × Bool × String)
  | ["--push", context] => some ([], true, context)
  | ["--load", context] => some ([], false, context)
  | flag :: value :: rest =>
    if flag ∈ ["--file", "--tag", "--build-arg"] then
      (readPairs rest).map fun (pairs, rest) => ((flag, value) :: pairs, rest)
    else none
  | _ => none

def valuesOf (flag : String) (pairs : List (String × String)) : List String :=
  (pairs.filter (·.1 == flag)).map (·.2)

/-- The build that flags, values and what comes behind them ask for. -/
def readBuild (line : List String) : Option BuildSpec := do
  let (pairs, push, context) ← readPairs line
  let dockerfile ← (valuesOf "--file" pairs).head?
  let buildArgs ← (valuesOf "--build-arg" pairs).mapM (Entries.ofText? ·.toList)
  return { context, dockerfile, tags := valuesOf "--tag" pairs, buildArgs, push }

lemma readPairs_cons {flag : String} (known : flag ∈ ["--file", "--tag", "--build-arg"])
    (value : String) {rest : List String} {pairs : List (String × String)} {push : Bool}
    {context : String} (h : readPairs rest = some (pairs, push, context)) :
    readPairs (flag :: value :: rest) = some ((flag, value) :: pairs, push, context) := by
  have other : flag ≠ "--push" ∧ flag ≠ "--load" := by
    simp only [List.mem_cons, List.not_mem_nil, or_false] at known
    rcases known with rfl | rfl | rfl <;> decide
  rw [readPairs, if_pos known, h]
  · rfl
  · exact fun isPush _ => other.1 isPush
  · exact fun isLoad _ => other.2 isLoad

/-- Whatever the values are, they are read as the values of their flags. -/
lemma readPairs_line {pairs : List (String × String)}
    (known : ∀ p ∈ pairs, p.1 ∈ ["--file", "--tag", "--build-arg"]) (push : Bool)
    (context : String) :
    readPairs (pairs.flatMap (fun p => [p.1, p.2]) ++
      [if push then "--push" else "--load", context]) = some (pairs, push, context) := by
  induction pairs with
  | nil => cases push <;> rfl
  | cons p rest ih =>
    obtain ⟨first, others⟩ := List.forall_mem_cons.mp known
    exact readPairs_cons first p.2 (ih others)

/-! ### The command line of a build -/

variable (d : Docker) (spec : BuildSpec)

lemma buildCommand_eq_pairs :
    d.buildCommand spec = [d.executable, "buildx", "build"] ++
      (spec.pairs.flatMap (fun p => [p.1, p.2]) ++
        [if spec.push then "--push" else "--load", spec.context]) := by
  simp [buildCommand, BuildSpec.pairs, List.flatMap_append, List.flatMap_map]

lemma readPairs_buildCommand :
    readPairs ((d.buildCommand spec).drop 3) = some (spec.pairs, spec.push, spec.context) := by
  rw [buildCommand_eq_pairs]
  refine readPairs_line (fun p hp => ?_) spec.push spec.context
  simp only [BuildSpec.pairs, List.mem_cons, List.mem_append, List.mem_map] at hp
  rcases hp with rfl | ⟨tag, -, rfl⟩ | ⟨argument, -, rfl⟩ <;> simp

lemma valuesOf_pairs :
    valuesOf "--file" spec.pairs = [spec.dockerfile] ∧ valuesOf "--tag" spec.pairs = spec.tags ∧
      valuesOf "--build-arg" spec.pairs =
        (sortedArgs spec.buildArgs).map fun a => a.1 ++ "=" ++ a.2 := by
  simp [valuesOf, BuildSpec.pairs, List.filter_append, List.filter_map, Function.comp_def]

lemma mem_sortedArgs {args : List (String × String)} {a : String × String} :
    a ∈ sortedArgs args ↔ a ∈ args :=
  List.mem_mergeSort

lemma mapM_ofText? {args : List (String × String)}
    (h : ∀ name ∈ Entries.names args, '=' ∉ name.toList) :
    (args.map fun a => a.1 ++ "=" ++ a.2).mapM (Entries.ofText? ·.toList) = some args := by
  induction args with
  | nil => rfl
  | cons a rest ih =>
    obtain ⟨first, others⟩ := List.forall_mem_cons.mp h
    rw [List.map_cons, List.mapM_cons, Entries.ofText?_append first, ih others]
    rfl

variable {spec}

/-- The command line tells the build, with its arguments in the order of their names. -/
lemma readBuild_buildCommand (h : spec.Legible) :
    readBuild ((d.buildCommand spec).drop 3) = some spec.sorted := by
  obtain ⟨file, tags, arguments⟩ := valuesOf_pairs spec
  have names : ∀ name ∈ Entries.names (sortedArgs spec.buildArgs), '=' ∉ name.toList := by
    intro name hn
    obtain ⟨a, ha, rfl⟩ := List.mem_map.mp hn
    exact h.unequal _ (List.mem_map.mpr ⟨a, mem_sortedArgs.mp ha, rfl⟩)
  simp only [readBuild, readPairs_buildCommand, Option.bind_eq_bind, Option.bind_some, file, tags,
    arguments, mapM_ofText? names, List.head?_cons, BuildSpec.sorted]
  rfl

/-! ### Builds with one command line -/

/-- Build arguments come in the same order wherever they are the same by name. -/
lemma sortedArgs_eq_iff {a b : List (String × String)} (ha : (Entries.names a).Nodup)
    (hb : (Entries.names b).Nodup) :
    sortedArgs a = sortedArgs b ↔ ∀ name, Entries.get? name a = Entries.get? name b := by
  rw [← Entries.perm_iff_get? ha hb]
  constructor
  · intro same
    calc a.Perm (sortedArgs a) := (List.mergeSort_perm a _).symm
      _ = sortedArgs b := same
      List.Perm _ b := List.mergeSort_perm b _
  · intro perm
    have all : (sortedArgs a).Perm (sortedArgs b) :=
      (List.mergeSort_perm a _).trans (perm.trans (List.mergeSort_perm b _).symm)
    refine all.eq_of_pairwise (fun x y _ _ before after => ?_)
      (Text.pairwise_lt_mergeSort ha) (Text.pairwise_lt_mergeSort hb)
    exact absurd (before.trans after) (lt_irrefl _)

lemma buildCommand_eq_iff_sorted {a b : BuildSpec} (ha : a.Legible) (hb : b.Legible) :
    d.buildCommand a = d.buildCommand b ↔ a.sorted = b.sorted := by
  constructor
  · intro same
    have read := d.readBuild_buildCommand ha
    rw [same, d.readBuild_buildCommand hb] at read
    exact (Option.some.inj read).symm
  · intro same
    simp only [BuildSpec.sorted, BuildSpec.mk.injEq] at same
    obtain ⟨context, file, tags, arguments, push⟩ := same
    rw [buildCommand_eq_pairs, buildCommand_eq_pairs, BuildSpec.pairs, BuildSpec.pairs, file, tags,
      arguments, push, context]

/-- **The command line of a build tells the build.** Two builds have one command line exactly when
they have the same file, the same tags in the same order, the same value for each build argument,
the same context, and both are pushed or both are not. Read from the left in flags and values, the
command line of any build gives each of its values with the flag that it was given for, whatever the
value looks like, and the build itself where names and values of its arguments can be told apart. -/
theorem buildCommand_eq_iff (d : Docker) {a b : BuildSpec} (ha : a.Legible) (hb : b.Legible) :
    (d.buildCommand a = d.buildCommand b ↔
      a.dockerfile = b.dockerfile ∧ a.tags = b.tags ∧
        (∀ name, Entries.get? name a.buildArgs = Entries.get? name b.buildArgs) ∧
        a.push = b.push ∧ a.context = b.context) ∧
    (d.buildCommand a).take 3 = [d.executable, "buildx", "build"] ∧
    (∀ spec : BuildSpec,
      readPairs ((d.buildCommand spec).drop 3) = some (spec.pairs, spec.push, spec.context)) ∧
    readBuild ((d.buildCommand a).drop 3) = some a.sorted := by
  refine ⟨?_, rfl, d.readPairs_buildCommand, d.readBuild_buildCommand ha⟩
  rw [buildCommand_eq_iff_sorted d ha hb, ← sortedArgs_eq_iff ha.once hb.once]
  simp only [BuildSpec.sorted, BuildSpec.mk.injEq]
  tauto

/-- A build in which values are spelled like flags. -/
def flagged : BuildSpec where
  context := "--load"
  dockerfile := "--tag"
  tags := ["--push", "--build-arg"]
  buildArgs := [("version", "--push"), ("--load", "a=b")]
  push := true

def standard : Docker where
  runner := {}

/-- Its arguments may be given the other way round, and its tags may not. -/
theorem buildCommand_eq_iff_flagged :
    flagged.Legible ∧
      standard.buildCommand flagged =
        standard.buildCommand { flagged with buildArgs := flagged.buildArgs.reverse } ∧
      standard.buildCommand flagged ≠
        standard.buildCommand { flagged with tags := flagged.tags.reverse } ∧
      readBuild ((standard.buildCommand flagged).drop 3) = some flagged.sorted := by
  have legible : flagged.Legible := ⟨by decide, by decide⟩
  have turned : { flagged with buildArgs := flagged.buildArgs.reverse }.Legible :=
    ⟨by decide, by decide⟩
  have retagged : { flagged with tags := flagged.tags.reverse }.Legible := ⟨by decide, by decide⟩
  refine ⟨legible, ?_, fun same => ?_, (buildCommand_eq_iff standard legible turned).2.2.2⟩
  · refine (buildCommand_eq_iff standard legible turned).1.mpr ⟨rfl, rfl, fun name => ?_, rfl, rfl⟩
    exact (Entries.perm_iff_get? legible.once turned.once).mp (List.reverse_perm _).symm name
  · have tags := ((buildCommand_eq_iff standard legible retagged).1.mp same).2.1
    revert tags
    decide

/-- Where a name may hold the sign between name and value, two builds can have one command line. -/
example :
    let named (name value : String) : BuildSpec :=
      { dockerfile := "Dockerfile", tags := ["a:1"], buildArgs := [(name, value)] }
    standard.buildCommand (named "a=b" "c") = standard.buildCommand (named "a" "b=c") := by
  decide +kernel

end Docker

end ImageRelease
