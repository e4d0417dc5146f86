import Mathlib.Data.List.Basic
import ImageRelease.CommandLine.Invocation

/-!
Command lines that are read as they are meant.

An option with its value behind an equals sign is read as that option with that value, whatever the
value is: an option has no equals sign in its name, so the first one is where the value begins. The
grammar of the program sorts the arguments of a command as well, before the command gets them, and
must not stumble over them. `read_planLine` says what is read of the line of a plan.
-/

namespace ImageRelease.CommandLine

/-! ### Sorting the arguments -/

namespace Grammar

variable {g : Grammar}

/-- No option has an equals sign in a name. -/
def Unequal (g : Grammar) : Prop :=
  ∀ o ∈ g.options, ∀ n ∈ o.names, '=' ∉ n.toList

instance : Decidable g.Unequal :=
  inferInstanceAs (Decidable (∀ o ∈ g.options, ∀ n ∈ o.names, '=' ∉ n.toList))

lemma option?_of_mem (unequal : g.Unequal) {s : String} (h : '=' ∈ s.toList) :
    g.option? s = none := by
  unfold option?
  rw [List.find?_eq_none]
  intro o ho named
  exact unequal o ho s (List.contains_iff_mem.mp named) h

lemma cutValue_append {name : List Char} (h : '=' ∉ name) (value : String) :
    cutValue (name ++ '=' :: value.toList) = (name, some value) := by
  rw [cutValue, Text.cutFirst_append h]
  dsimp only
  rw [String.ofList_toList]

/-- An option of two dashes with its value behind an equals sign. -/
def valued (name value : String) : String :=
  "--" ++ name ++ "=" ++ value

lemma toList_valued (name value : String) :
    (valued name value).toList = '-' :: '-' :: name.toList ++ '=' :: value.toList := by
  simp [valued]

lemma valued_ne_dashes (name value : String) : valued name value ≠ "--" := by
  intro h
  have equals : '=' ∈ (valued name value).toList := by simp [toList_valued]
  rw [h] at equals
  revert equals
  decide

/-- What is asked for with a value behind an equals sign: the option of that name, and if there is
none and no longer name begins so, nothing that is known. -/
lemma tokenOf_valued (unequal : g.Unequal) {name : String} (h : '=' ∉ name.toList)
    (value : String) :
    (∀ o, g.option? ("--" ++ name) = some o →
        g.tokenOf (valued name value) = .ok (.option o (some value))) ∧
      (g.option? ("--" ++ name) = none → g.optionsFrom ("--" ++ name).toList = [] →
        ∃ t, g.tokenOf (valued name value) = .ok t) := by
  have start : ("--" ++ name).toList = '-' :: '-' :: name.toList := by simp
  have cut : cutValue (valued name value).toList = (("--" ++ name).toList, some value) := by
    rw [toList_valued, start]
    exact cutValue_append (by simp [h]) value
  have whole : g.option? (valued name value) = none :=
    option?_of_mem unequal (by simp [toList_valued])
  have dash : (valued name value).toList.head? = some '-' := by rw [toList_valued]; rfl
  have long : (valued name value).toList.length ≠ 1 := by simp [toList_valued]
  constructor
  · intro o found
    simp only [tokenOf, dash, whole, long, cut, String.ofList_toList, found, ne_eq,
      not_true_eq_false, ↓reduceIte]
  · intro found none
    have candidates : g.candidates (valued name value).toList = [] := by
      rw [toList_valued] at cut ⊢
      simp only [Grammar.candidates, List.cons_append] at cut ⊢
      rw [cut, none]
      rfl
    simp only [tokenOf, dash, whole, long, cut, String.ofList_toList, found, candidates, ne_eq,
      not_true_eq_false, ↓reduceIte]
    split <;> exact ⟨_, rfl⟩

/-- Arguments that each ask for something, or for nothing, are all sorted, and kept. -/
lemma tokens_of_each {args : List String} (each : ∀ s ∈ args, ∃ t, g.tokenOf s = .ok t) :
    ∃ ts, g.tokens args = .ok ts ∧ ts.map (·.1) = args := by
  induction args with
  | nil => exact ⟨[], rfl, rfl⟩
  | cons s rest ih =>
    obtain ⟨t, first⟩ := each s List.mem_cons_self
    obtain ⟨ts, others, kept⟩ := ih fun s hs => each s (List.mem_cons_of_mem _ hs)
    unfold tokens
    split
    · -- after two dashes the others ask for nothing, and are kept as they are
      refine ⟨_, rfl, ?_⟩
      rw [List.map_cons, List.map_map]
      exact congrArg _ (List.map_id rest)
    · rw [first, others]
      exact ⟨_, rfl, congrArg (s :: ·) kept⟩

/-- What a grammar makes of more arguments, after what it has read. -/
def readOn (g : Grammar) (args : List String) (p : Parsed) : Except Stop (Parsed × Chosen) := do
  g.consume (← g.check (g.tokens args)) p

lemma readOn_valued {s target v : String} {o : OptionSpec} {choices rest : List String}
    {p q : Parsed} (other : s ≠ "--") (asks : g.tokenOf s = .ok (.option o (some v)))
    (effect : o.effect = .value target choices) (takes : p.take o target choices v = .ok q) :
    g.readOn (s :: rest) p = g.readOn rest q := by
  rw [readOn, readOn, tokens, if_neg other, asks]
  cases g.tokens rest with
  | error m => rfl
  | ok ts =>
    have step : g.consume ((s, .option o (some v)) :: ts) p = g.consume ts q := by
      rw [consume.eq_def]
      simp only [effect, takes]
      rfl
    exact step

end Grammar

/-! ### The line of a plan -/

open Grammar

/-- An option with its value, if there is one to be given. -/
def given (name : String) (value : Option String) : List String :=
  (value.map (valued name)).toList

/-- The arguments that ask for a form, if one is asked for. -/
def inForm (output : Option Output) : List String :=
  (output.map fun o => ["--output", o.name]).getD []

/-- The command line of a plan, with a mode, a version and a form in which it is printed. -/
def planLine (mode version : Option String) (output : Option Output) : List String :=
  "plan" :: (given "mode" mode ++ (given "version" version ++ inForm output))

lemma tokenOf_planLine (mode version : Option String) (output : Option Output) :
    ∀ s ∈ given "mode" mode ++ (given "version" version ++ inForm output),
      ∃ t, programGrammar.tokenOf s = .ok t := by
  have unequal : programGrammar.Unequal := by decide +kernel
  intro s hs
  rcases List.mem_append.mp hs with hs | hs
  · obtain ⟨m, -, rfl⟩ := Option.map_eq_some_iff.mp (Option.mem_toList.mp hs)
    exact (tokenOf_valued unequal (by decide) m).2 rfl rfl
  rcases List.mem_append.mp hs with hs | hs
  · obtain ⟨v, -, rfl⟩ := Option.map_eq_some_iff.mp (Option.mem_toList.mp hs)
    exact ⟨_, (tokenOf_valued unequal (by decide) v).1 _ rfl⟩
  cases output with
  | none => cases hs
  | some o =>
    rcases List.mem_cons.mp hs with rfl | hs
    · exact ⟨.unknown, rfl⟩
    · rw [List.mem_singleton.mp hs]
      exact ⟨.plain, by cases o <;> rfl⟩

/-- The grammar of the program leaves to the plan what belongs to it. -/
lemma parse_planLine (mode version : Option String) (output : Option Output) :
    programGrammar.parse (planLine mode version output) = .ok ({}, some ("plan",
      given "mode" mode ++ (given "version" version ++ inForm output))) := by
  obtain ⟨ts, sorted, kept⟩ := tokens_of_each (tokenOf_planLine mode version output)
  have command : programGrammar.tokens (planLine mode version output) =
      .ok (("plan", .plain) :: ts) := by
    have plain : programGrammar.tokenOf "plan" = .ok .plain := rfl
    rw [planLine, tokens, if_neg (by decide), plain, sorted]
  rw [parse, command, ← kept]
  rfl

/-- A value that is given is taken, for an option that takes any value here. -/
lemma readOn_given {name : String} {o : OptionSpec} (plain : '=' ∉ name.toList)
    (found : planGrammar.option? ("--" ++ name) = some o) (effect : o.effect = .value name [])
    {p : Parsed} (free : ∀ v, p.take o name [] v = .ok { p with values := (name, v) :: p.values })
    (value : Option String) (rest : List String) :
    planGrammar.readOn (given name value ++ rest) p = planGrammar.readOn rest
      { p with values := (value.map (name, ·)).toList ++ p.values } := by
  cases value with
  | none => rfl
  | some v =>
    have unequal : planGrammar.Unequal := by decide +kernel
    exact readOn_valued (valued_ne_dashes name v) ((tokenOf_valued unequal plain v).1 o found)
      effect (free v)

lemma readOn_inForm (output : Option Output) (values : List (String × String)) :
    planGrammar.readOn (inForm output) { values } =
      .ok ({ values := (output.map fun o => ("output", o.name)).toList ++ values }, none) := by
  rcases output with _ | _ | _ | _ <;> rfl

/-- **The line of a plan is read as that plan**, whatever its mode and its version are. -/
theorem read_planLine (mode version : Option String) (output : Option Output) :
    Invocation.read (planLine mode version output) =
      .ok (.plan ⟨mode.getD "", version, none, output.getD .text⟩) := by
  have noRival (v : String) : Parsed.take { values := (mode.map ("mode", ·)).toList ++ [] }
      (valueOption "version" ["properties"]) "version" [] v =
        .ok { values := ("version", v) :: ((mode.map ("mode", ·)).toList ++ []) } := by
    cases mode <;> rfl
  have plan : planGrammar.parse (given "mode" mode ++ (given "version" version ++ inForm output)) =
      .ok ({ values := (output.map fun o => ("output", o.name)).toList ++
        ((version.map ("version", ·)).toList ++ ((mode.map ("mode", ·)).toList ++ [])) },
          none) := by
    have parse (args : List String) : planGrammar.parse args = planGrammar.readOn args {} := rfl
    rw [parse, readOn_given (by decide) rfl rfl fun _ => rfl,
      readOn_given (by decide) rfl rfl noRival, readOn_inForm]
  rw [Invocation.read, parse_planLine]
  dsimp only [bind, Except.bind]
  rw [if_neg (by decide), if_pos rfl, plan]
  cases mode <;> cases version <;> rcases output with _ | _ | _ | _ <;> rfl

end ImageRelease.CommandLine
