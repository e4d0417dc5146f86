import ImageRelease.Entries
import ImageRelease.Text.Digit
import ImageRelease.Text.Quoted
import ImageRelease.Text.Split
/-!
Command lines with long options, by a grammar.

An argument that begins with a dash asks for an option: by its name, by a part of its name that no
other option shares, or by either with a value after an equals sign. Without an equals sign a value
is the next argument, if that is none of these. Options of one letter may stand together behind one
dash. A dash alone, a negative number, and an unknown name with a space in it ask for nothing; after
two dashes nothing asks. All arguments are sorted in this way before the first of them acts.
-/

namespace ImageRelease.CommandLine

open Text

/-- What an option does when it is met. -/
inductive Effect
  | help
  | version
  | switch (name : String)
  | value (name : String) (choices : List String)
  deriving DecidableEq, Repr

/-- An option: its names, what it does, and the options that it does not go with. -/
structure OptionSpec where
  names : List String
  effect : Effect
  rivals : List String := []
  deriving DecidableEq, Repr

/-- A grammar: the name of the program, its options, and the commands after them. -/
structure Grammar where
  program : String
  options : List OptionSpec
  commands : List String := []

/-- What has been read: switches, values, and what belongs nowhere. -/
structure Parsed where
  switches : List String := []
  values : List (String × String) := []
  extras : List String := []
  deriving DecidableEq, Repr

/-- A command line that is not carried out, with what is wrong. -/
inductive Misuse
  | ambiguous (argument : String) (names : List String)
  | expectsValue (option : String)
  | takesNoValue (option value : String)
  | notAChoice (option value : String) (choices : List String)
  | rivals (option other : String)
  | unrecognized (arguments : List String)
  deriving DecidableEq, Repr

/-- How reading can end without all having been read. -/
inductive Stop
  | help
  | version
  | misuse (program : String) (m : Misuse)
  deriving DecidableEq, Repr

def Misuse.message : Misuse → String
  | .ambiguous a names => "ambiguous option: " ++ a ++ " could match " ++ joined ", " names
  | .expectsValue o => "argument " ++ o ++ ": expected one argument"
  | .takesNoValue o v => "argument " ++ o ++ ": ignored explicit argument " ++ quoted v
  | .notAChoice o v choices =>
    "argument " ++ o ++ ": invalid choice: " ++ quoted v ++ " (choose from " ++
      joined ", " (choices.map quoted) ++ ")"
  | .rivals o other => "argument " ++ o ++ ": not allowed with argument " ++ other
  | .unrecognized l => "unrecognized arguments: " ++ joined " " l

/-- What an argument asks for: nothing, an option under its name, an option under its letter with
more characters after it, an option that is not there, or that nothing more is asked for. -/
inductive Token
  | plain
  | option (o : OptionSpec) (value : Option String)
  | letters (o : OptionSpec) (more : List Char)
  | unknown
  | noMoreOptions
  deriving DecidableEq, Repr

def OptionSpec.label (o : OptionSpec) : String :=
  joined "/" o.names

namespace Grammar

def option? (g : Grammar) (name : String) : Option OptionSpec :=
  g.options.find? (·.names.contains name)

/-- The options with a name that begins in a certain way, each with that name. -/
def optionsFrom (g : Grammar) (start : List Char) : List (OptionSpec × String) :=
  g.options.flatMap fun o => (o.names.filter (start.isPrefixOf ·.toList)).map (o, ·)

/-- Digits, with a point among them or in front at most, after a dash. -/
def isNegativeNumber (l : List Char) : Bool :=
  match l with
  | '-' :: rest =>
    let rest := if rest.getLast? = some '\n' then rest.dropLast else rest
    match cutFirst '.' rest with
    | none => rest != [] && rest.all isDigit
    | some (a, b) => a.all isDigit && b != [] && b.all isDigit
  | _ => false

/-- An argument cut at its first equals sign. -/
def cutValue (l : List Char) : List Char × Option String :=
  match cutFirst '=' l with
  | some (a, b) => (a, some (.ofList b))
  | none => (l, none)

/-- What an argument may ask for by a part of an option's name or by its letter, with that name. -/
def candidates (g : Grammar) (l : List Char) : List (String × Token) :=
  match l with
  | '-' :: '-' :: _ =>
    let (start, value) := cutValue l
    (g.optionsFrom start).map fun (o, n) => (n, .option o value)
  | _ =>
    g.options.flatMap fun o => o.names.filterMap fun n =>
      if n.toList = l.take 2 then some (n, .letters o (l.drop 2))
      else if l.isPrefixOf n.toList then some (n, .option o none)
      else none

/-- What an argument asks for that is not one of the two dashes. -/
def tokenOf (g : Grammar) (s : String) : Except Misuse Token :=
  let l := s.toList
  if l.head? ≠ some '-' then .ok .plain
  else match g.option? s with
    | some o => .ok (.option o none)
    | none =>
      if l.length = 1 then .ok .plain
      else
        let (start, value) := cutValue l
        match value, g.option? (.ofList start) with
        | some v, some o => .ok (.option o (some v))
        | _, _ =>
          match g.candidates l with
          | [(_, t)] => .ok t
          | [] =>
            if isNegativeNumber l || l.contains ' ' then .ok .plain else .ok .unknown
          | many => .error (.ambiguous s (many.map (·.1)))

def tokens (g : Grammar) : List String → Except Misuse (List (String × Token))
  | [] => .ok []
  | s :: rest =>
    if s = "--" then .ok ((s, .noMoreOptions) :: rest.map (·, .plain))
    else match g.tokenOf s with
      | .error m => .error m
      | .ok t =>
        match tokens g rest with
        | .error m => .error m
        | .ok ts => .ok ((s, t) :: ts)

/-- The options whose letters stand together behind one dash, the first of them being `o`, and what
is left from the first letter on that is no option. -/
def cluster (g : Grammar) (o : OptionSpec) :
    List Char → Except Misuse (List OptionSpec × List String)
  | [] => .ok ([o], [])
  | '=' :: rest => .error (.takesNoValue o.label (.ofList rest))
  | '-' :: rest => .error (.takesNoValue o.label (.ofList ('-' :: rest)))
  | c :: rest =>
    match g.option? (.ofList ['-', c]) with
    | none => .ok ([o], [.ofList ('-' :: c :: rest)])
    | some next => (g.cluster next rest).map fun (l, left) => (o :: l, left)

end Grammar

def Parsed.take (p : Parsed) (o : OptionSpec) (name : String) (choices : List String)
    (v : String) : Except Misuse Parsed :=
  if choices ≠ [] ∧ !choices.contains v then .error (.notAChoice o.label v choices)
  else match o.rivals.find? fun r => p.values.any (·.1 == r) with
    | some r => .error (.rivals o.label ("--" ++ r))
    | none => .ok { p with values := (name, v) :: p.values }

/-- Lets options that take no value act. -/
def Parsed.act (p : Parsed) : List OptionSpec → Except Stop Parsed
  | [] => .ok p
  | o :: rest =>
    match o.effect with
    | .help => .error .help
    | .version => .error .version
    | .switch name => act { p with switches := name :: p.switches } rest
    | .value .. => act p rest

def Parsed.value? (p : Parsed) (name : String) : Option String :=
  Entries.get? name p.values

/-- A command with the arguments after it. -/
abbrev Chosen := Option (String × List String)

namespace Grammar

def stop (g : Grammar) (m : Misuse) : Stop :=
  .misuse g.program m

def check {α : Type} (g : Grammar) : Except Misuse α → Except Stop α
  | .ok a => .ok a
  | .error m => .error (g.stop m)

/-- Lets the arguments act, up to the command if the grammar has commands. -/
def consume (g : Grammar) : List (String × Token) → Parsed → Except Stop (Parsed × Chosen)
  | [], p => .ok (p, none)
  | (s, .unknown) :: rest, p => g.consume rest { p with extras := p.extras ++ [s] }
  | (s, .plain) :: rest, p =>
    if g.commands = [] then g.consume rest { p with extras := p.extras ++ [s] }
    else .ok (p, some (s, rest.map (·.1)))
  | (s, .noMoreOptions) :: rest, p =>
    if g.commands = [] ∨ rest = [] then g.consume rest { p with extras := p.extras ++ [s] }
    else .ok (p, some (s, rest.map (·.1)))
  | (_, .option o value) :: rest, p =>
    match o.effect, value, rest with
    | .value target choices, some v, rest => do
      g.consume rest (← g.check (p.take o target choices v))
    | .value target choices, none, (v, .plain) :: rest => do
      g.consume rest (← g.check (p.take o target choices v))
    | .value .., none, _ => .error (g.stop (.expectsValue o.label))
    | _, some v, _ => .error (g.stop (.takesNoValue o.label v))
    | _, none, rest => do g.consume rest (← p.act [o])
  | (_, .letters o more) :: rest, p =>
    match o.effect with
    | .value target choices => do
      g.consume rest (← g.check (p.take o target choices (.ofList more)))
    | _ => do
      let (options, left) ← g.check (g.cluster o more)
      g.consume rest (← { p with extras := p.extras ++ left }.act options)

def parse (g : Grammar) (args : List String) : Except Stop (Parsed × Chosen) := do
  g.consume (← g.check (g.tokens args)) {}

end Grammar

end ImageRelease.CommandLine
