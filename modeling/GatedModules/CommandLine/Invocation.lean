import GatedModules.CommandLine.Taking
import GatedModules.Files.Path
import GatedModules.Json.Basic

/-!
# Invocations

What the program is asked to do: to resolve a target, to list the modules of a registry, to list the
samples, or nothing. The command is the first positional argument, and everything behind it belongs
to the command.
-/

namespace GatedModules

/-- Where the modules come from. -/
inductive RegistrySource where
  | path (path : Setting FilePath)
  | sample (name : Text)
  deriving DecidableEq, Repr

/-- The options for the source of the modules. -/
structure SourceOptions where
  registry : Option (Setting FilePath) := none
  sample : Option Text := none
  deriving DecidableEq, Repr

/-- The source that is asked for. A sample goes before a registry, but one without a name is
none. -/
def SourceOptions.source (o : SourceOptions) : Option RegistrySource :=
  match o.sample.filter fun name : Text => name ≠ "" with
  | some name => some (.sample name)
  | none => o.registry.map .path

/-- How a plan is shown. -/
inductive PlanFormat where
  | json
  | table
  deriving DecidableEq, Repr, Inhabited

def PlanFormat.words : List (Text × PlanFormat) := [("json", .json), ("table", .table)]

/-- The options of a resolution. -/
structure ResolveOptions extends SourceOptions where
  target : Option (Setting FilePath) := none
  platform : Option Text := none
  architecture : Option Text := none
  configuration : Json := .str "Development"
  features : List (Setting Text) := []
  maxDepth : Option Json := none
  format : PlanFormat := .json
  output : Option (Setting FilePath) := none
  verbose : Bool := false
  deriving DecidableEq, Repr

/-- The options of a listing of modules. -/
structure ListOptions extends SourceOptions where
  verbose : Bool := false
  deriving DecidableEq, Repr

inductive Invocation where
  | nothing
  | resolve (options : ResolveOptions)
  | modules (options : ListOptions)
  | samples
  deriving DecidableEq, Repr

/-- What an option is for. -/
inductive OptionKey where
  | help
  | version
  | registry
  | sample
  | target
  | platform
  | architecture
  | configuration
  | feature
  | maxDepth
  | format
  | output
  | verbose
  deriving DecidableEq, Repr

/-- The commands, and the program itself, each with options and a help text of its own. -/
inductive Page where
  | program
  | resolve
  | modules
  | samples
  deriving DecidableEq, Repr

namespace Page

def commands : List (Text × Page) :=
  [("resolve", .resolve), ("modules", .modules), ("samples", .samples)]

def helpOption : OptionSpec OptionKey := ⟨.help, ["-h", "--help"], false⟩

def registryOption : OptionSpec OptionKey := ⟨.registry, ["-r", "--registry"], true⟩

def sampleOption : OptionSpec OptionKey := ⟨.sample, ["-s", "--sample"], true⟩

def verboseOption : OptionSpec OptionKey := ⟨.verbose, ["-v", "--verbose"], false⟩

/-- The options of a page, in the order in which they are listed. -/
def options : Page → List (OptionSpec OptionKey)
  | .program => [helpOption, ⟨.version, ["--version"], false⟩]
  | .resolve => [
    helpOption, registryOption, sampleOption,
    ⟨.target, ["-t", "--target"], true⟩,
    ⟨.platform, ["-p", "--platform"], true⟩,
    ⟨.architecture, ["-a", "--arch"], true⟩,
    ⟨.configuration, ["-c", "--configuration"], true⟩,
    ⟨.feature, ["-f", "--feature"], true⟩,
    ⟨.maxDepth, ["--max-depth"], true⟩,
    ⟨.format, ["--format"], true⟩,
    ⟨.output, ["-o", "--output"], true⟩,
    verboseOption]
  | .modules => [helpOption, registryOption, sampleOption, verboseOption]
  | .samples => [helpOption]

end Page

/-- Why the arguments are refused. -/
inductive UsageError where
  | ambiguous (option : AmbiguousOption)
  | fault (fault : OptionFault OptionKey)
  | conflict (spec other : OptionSpec OptionKey)
  | notInteger (spec : OptionSpec OptionKey) (value : Text)
  | notChoice (argument value : Text) (choices : List Text)
  | unrecognized (arguments : List Text)
  deriving DecidableEq, Repr

namespace UsageError

/-- A message about an argument. -/
def about (argument text : Text) : Text := "argument " ++ argument ++ ": " ++ text

def message : UsageError → Text
  | .ambiguous option =>
    "ambiguous option: " ++ option.text ++ " could match " ++ Text.intercalate ", " option.names
  | .fault (.missingValue spec) => about spec.title "expected one argument"
  | .fault (.ignoredValue spec value) =>
    about spec.title ("ignored explicit argument " ++ Text.quoted value)
  | .conflict spec other => about spec.title ("not allowed with argument " ++ other.title)
  | .notInteger spec value => about spec.title ("invalid int value: " ++ Text.quoted value)
  | .notChoice argument value choices =>
    about argument ("invalid choice: " ++ Text.quoted value ++ " (choose from "
      ++ ", ".intercalate (choices.map Text.quoted) ++ ")" : String)
  | .unrecognized arguments => "unrecognized arguments: " ++ Text.intercalate " " arguments

end UsageError

/-- Why nothing is invoked: a help text or the version is asked for, or the arguments are refused,
which the page says that they belong to. -/
inductive Dismissal where
  | help (page : Page)
  | version
  | refused (page : Page) (error : UsageError)
  deriving DecidableEq, Repr

namespace Invocation

/-! ## The options of a command -/

/-- Sets where the modules come from. The two kinds of source exclude each other. -/
def setSource (o : SourceOptions) (spec : OptionSpec OptionKey) (setting : Setting Text) :
    Except UsageError SourceOptions :=
  match spec.key with
  | .sample =>
    if o.registry.isSome then .error (.conflict spec Page.registryOption)
    else .ok { o with sample := some (setting.getD "") }
  | _ =>
    if o.sample.isSome then .error (.conflict spec Page.sampleOption)
    else .ok { o with registry := some (setting.map .ofText) }

/-- What stands for a value that is dropped where any value is taken. -/
def emptyValue : Json := .arr []

/-- The limit that an option gives. -/
def readDepth (spec : OptionSpec OptionKey) : Setting Text → Except UsageError Json
  | .dropped => .ok emptyValue
  | .value value =>
    match Text.integer? value with
    | some n => .ok (.int n)
    | none => .error (.notInteger spec value)

/-- The format that an option gives. -/
def readFormat (spec : OptionSpec OptionKey) : Setting Text → Except UsageError PlanFormat
  | .dropped => .ok .json
  | .value value =>
    match PlanFormat.words.lookup value with
    | some format => .ok format
    | none => .error (.notChoice spec.title value (PlanFormat.words.map (·.1)))

/-- The configuration that an option gives. -/
def configurationOf : Setting Text → Json
  | .dropped => emptyValue
  | .value value => .str value

/-- The options of a resolution with one more of them set. -/
def setResolve (o : ResolveOptions) (given : Given OptionKey) :
    Except UsageError ResolveOptions := do
  let ⟨spec, setting⟩ := given
  match spec.key with
  | .registry | .sample =>
    return { o with toSourceOptions := ← setSource o.toSourceOptions spec setting }
  | .target => return { o with target := some (setting.map .ofText) }
  | .platform => return { o with platform := some (setting.getD "") }
  | .architecture => return { o with architecture := some (setting.getD "") }
  | .configuration => return { o with configuration := configurationOf setting }
  | .feature => return { o with features := o.features ++ [setting] }
  | .maxDepth => return { o with maxDepth := some (← readDepth spec setting) }
  | .format => return { o with format := ← readFormat spec setting }
  | .output => return { o with output := some (setting.map .ofText) }
  | .verbose => return { o with verbose := true }
  | .help | .version => return o

/-- The options of a listing with one more of them set. -/
def setList (o : ListOptions) (given : Given OptionKey) : Except UsageError ListOptions := do
  match given.spec.key with
  | .registry | .sample =>
    return { o with toSourceOptions := ← setSource o.toSourceOptions given.spec given.setting }
  | .verbose => return { o with verbose := true }
  | _ => return o

/-! ## Reading the arguments -/

variable {σ : Type}

/-- What an option asks for at once, before any other argument is looked at. -/
def immediate? (page : Page) (given : Given OptionKey) : Option Dismissal :=
  match given.spec.key with
  | .help => some (.help page)
  | .version => some .version
  | _ => none

/-- Sets some options, one after the other. -/
def setAll (page : Page) (set : σ → Given OptionKey → Except UsageError σ) (s : σ) :
    List (Given OptionKey) → Except Dismissal σ
  | [] => .ok s
  | given :: rest =>
    match immediate? page given with
    | some dismissal => .error dismissal
    | none => do
      let s ← (set s given).mapError (.refused page)
      setAll page set s rest

/-- Takes the option that an argument is. -/
def take (page : Page) (rest : List (Argument OptionKey)) (spec : OptionSpec OptionKey)
    (name : Text) (attached : Option Text) : Except Dismissal (Taking OptionKey) :=
  (Taking.ofArgument page.options rest.head? spec name attached).mapError fun fault =>
    .refused page (.fault fault)

/-- The options that some arguments set, and the arguments that are left over. -/
def readOptions (page : Page) (set : σ → Given OptionKey → Except UsageError σ) (s : σ) :
    List (Argument OptionKey) → Except Dismissal (σ × List Text)
  | [] => .ok (s, [])
  | ⟨_, .option spec name attached⟩ :: rest => do
    let taking ← take page rest spec name attached
    let s ← setAll page set s taking.given
    readOptions page set s (rest.drop (if taking.usesNext then 1 else 0))
  | ⟨text, _⟩ :: rest => do
    let (s, others) ← readOptions page set s rest
    return (s, text :: others)
termination_by arguments => arguments.length

/-- The roles of some arguments on a page. -/
def classify (page : Page) (texts : List Text) :
    Except Dismissal (List (Argument OptionKey)) :=
  (Argument.classify page.options texts).mapError fun option => .refused page (.ambiguous option)

/-- The options of a command. -/
def readPage (page : Page) (set : σ → Given OptionKey → Except UsageError σ) (s : σ)
    (texts : List Text) : Except Dismissal (σ × List Text) := do
  readOptions page set s (← classify page texts)

/-- The invocation of a command, with the arguments that are left over. -/
def readCommand (page : Page) (texts : List Text) :
    Except Dismissal (Invocation × List Text) :=
  match page with
  | .program => .ok (.nothing, texts)
  | .resolve => do
    let (options, others) ← readPage page setResolve {} texts
    return (.resolve options, others)
  | .modules => do
    let (options, others) ← readPage page setList {} texts
    return (.modules options, others)
  | .samples => do
    let ((), others) ← readPage page (fun _ _ => .ok ()) () texts
    return (.samples, others)

/-- The command of a name. -/
def commandPage (name : Text) : Except Dismissal Page :=
  match Page.commands.lookup name with
  | some page => .ok page
  | none => .error (.refused .program (.notChoice "command" name (Page.commands.map (·.1))))

/-- The invocation that some arguments make, with the arguments that are left over. -/
def readArguments : List (Argument OptionKey) → Except Dismissal (Invocation × List Text)
  | [] => .ok (.nothing, [])
  | ⟨_, .option spec name attached⟩ :: rest => do
    let taking ← take .program rest spec name attached
    setAll .program (fun _ _ => .ok ()) () taking.given
    readArguments rest
  | ⟨text, .unknown⟩ :: rest => do
    let (invocation, others) ← readArguments rest
    return (invocation, text :: others)
  | ⟨text, .separator⟩ :: rest => do
    if rest.isEmpty then return (.nothing, [text])
    let page ← commandPage text
    readCommand page (rest.map Argument.text)
  | ⟨text, .positional⟩ :: rest => do
    let page ← commandPage text
    readCommand page (rest.map Argument.text)

/-- The invocation that the arguments of the program make. -/
def read (texts : List Text) : Except Dismissal Invocation := do
  let (invocation, others) ← readArguments (← classify .program texts)
  if others.isEmpty then return invocation
  else throw (.refused .program (.unrecognized others))

end Invocation

end GatedModules
