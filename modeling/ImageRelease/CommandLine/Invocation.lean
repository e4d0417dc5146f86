import ImageRelease.CommandLine.Grammar
import ImageRelease.Product
/-!
The command lines of the program: which commands there are, what they may be told, and what a list
of arguments asks for.

The arguments before a command are read by the grammar of the program, those after it by the grammar
of the command. What neither can place is told together, once both have been read.
-/

namespace ImageRelease.CommandLine

inductive Output
  | text
  | json
  | github
  deriving DecidableEq, Repr

structure PublishOptions where
  mode : String := ""
  fromEvent : Bool := false
  root : String := "."
  dryRun : Bool := false
  allowOverwrite : Bool := false
  deriving DecidableEq, Repr

structure PlanOptions where
  mode : String := ""
  version : Option String := none
  properties : Option String := none
  output : Output := .text
  deriving DecidableEq, Repr

/-- What a command line asks for; `idle` is a line without a command. -/
inductive Invocation
  | idle
  | publish (o : PublishOptions)
  | plan (o : PlanOptions)
  deriving DecidableEq, Repr

def Output.name : Output → String
  | text => "text"
  | json => "json"
  | github => "github"

def Output.all : List Output :=
  [.text, .json, .github]

/-- The form of a name, plain text where no form has it. -/
def Output.ofName (s : String) : Output :=
  (Output.all.find? (·.name == s)).getD .text

@[simp] theorem Output.ofName_name (o : Output) : Output.ofName o.name = o := by
  cases o <;> rfl

def helpOption : OptionSpec := ⟨["-h", "--help"], .help, []⟩

def valueOption (name : String) (rivals choices : List String := []) : OptionSpec :=
  ⟨["--" ++ name], .value name choices, rivals⟩

def switchOption (name : String) : OptionSpec :=
  ⟨["--" ++ name], .switch name, []⟩

def programGrammar : Grammar where
  program := productName
  options := [helpOption, ⟨["--version"], .version, []⟩]
  commands := ["publish", "plan"]

def publishGrammar : Grammar where
  program := productName ++ " publish"
  options := [helpOption, valueOption "mode", switchOption "from-event", valueOption "root",
    switchOption "dry-run", switchOption "allow-overwrite"]

def planGrammar : Grammar where
  program := productName ++ " plan"
  options := [helpOption, valueOption "mode", valueOption "version" ["properties"],
    valueOption "properties" ["version"], valueOption "output" [] (Output.all.map (·.name))]

def PublishOptions.ofParsed (p : Parsed) : PublishOptions where
  mode := (p.value? "mode").getD ""
  fromEvent := p.switches.contains "from-event"
  root := (p.value? "root").getD "."
  dryRun := p.switches.contains "dry-run"
  allowOverwrite := p.switches.contains "allow-overwrite"

def PlanOptions.ofParsed (p : Parsed) : PlanOptions where
  mode := (p.value? "mode").getD ""
  version := p.value? "version"
  properties := p.value? "properties"
  output := .ofName ((p.value? "output").getD "")

/-- An invocation for which there must be no arguments left. -/
def placed (extras : List String) (i : Invocation) : Except Stop Invocation :=
  if extras = [] then .ok i else .error (programGrammar.stop (.unrecognized extras))

def Invocation.read (args : List String) : Except Stop Invocation := do
  let (top, chosen) ← programGrammar.parse args
  match chosen with
  | none => placed top.extras .idle
  | some (command, rest) =>
    if command = "publish" then
      let (p, _) ← publishGrammar.parse rest
      placed (top.extras ++ p.extras) (.publish (.ofParsed p))
    else if command = "plan" then
      let (p, _) ← planGrammar.parse rest
      placed (top.extras ++ p.extras) (.plan (.ofParsed p))
    else .error (programGrammar.stop (.notAChoice "command" command programGrammar.commands))

end ImageRelease.CommandLine
