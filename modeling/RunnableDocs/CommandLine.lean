/-
The command line: what its arguments ask for, and how the command ends.

The command succeeds only if everything does, and then prints one line; a failure is told on the other stream and gives
the exit code of its cause.
-/
import RunnableDocs.Package

namespace RunnableDocs.CommandLine

open RunnableDocs.Action (fail look)
open RunDirectory (Provider)

/-- the options, as far as they have been given -/
structure Options where
  package : Option Text := none
  dir : Option Path := none
  config : Option Path := none
  deriving DecidableEq, Repr

inductive OptionName where
  | package
  | dir
  | config
  deriving DecidableEq, Repr

/-- an option by its long name -/
def OptionName.ofLong? (name : Text) : Option OptionName :=
  if name = "package".toList then some .package
  else if name = "dir".toList then some .dir
  else if name = "config".toList then some .config
  else none

/-- an option by its letter -/
def OptionName.ofShort? (letter : Char) : Option OptionName :=
  if letter = 'p' then some .package
  else if letter = 'd' then some .dir
  else if letter = 'c' then some .config
  else none

/-- an option given; none may be given twice, and a path may not be empty -/
def Options.set? (o : Options) (name : OptionName) (value : Text) : Option Options :=
  match name with
  | .package => if o.package.isSome then none else some { o with package := some value }
  | .dir => if o.dir.isSome || value = [] then none else some { o with dir := some value }
  | .config => if o.config.isSome || value = [] then none else some { o with config := some value }

/-- what the arguments ask for -/
inductive Request where
  | run (package : Text) (dir config : Option Path)
  | version
  | help
  deriving DecidableEq, Repr

/-- a package has to be named -/
def Options.request? (o : Options) : Option Request := o.package.map fun package => .run package o.dir o.config

/-- an argument that may be the value of an option before it; one that looks like an option may not -/
def isValue (argument : Text) : Bool := argument.head? ≠ some '-' || argument = ['-']

/-- what one argument is -/
inductive Argument where
  /-- an option, with its value if that is part of the same argument -/
  | option (name : OptionName) (value : Option Text)
  | version
  | help
  /-- the end of the options -/
  | separator
  deriving DecidableEq, Repr

/-- the argument behind two dashes: a name, and a value behind an equals sign -/
def Argument.ofLong? (text : Text) : Option Argument :=
  let name := text.takeWhile (· ≠ '=')
  let value := match text.dropWhile (· ≠ '=') with
    | [] => none
    | _ :: value => some value
  if text = [] then some .separator
  else if text = "version".toList then some .version
  else if text = "help".toList then some .help
  else (OptionName.ofLong? name).map (.option · value)

/-- the argument behind one dash: a letter, and a value right behind it or behind an equals sign -/
def Argument.ofShort? (letter : Char) (text : Text) : Option Argument :=
  let value := match text with
    | [] => none
    | '=' :: value => some value
    | value => some value
  if letter = 'V' then some .version
  else if letter = 'h' then some .help
  else (OptionName.ofShort? letter).map (.option · value)

def Argument.ofText? : Text → Option Argument
  | '-' :: '-' :: text => ofLong? text
  | '-' :: letter :: text => ofShort? letter text
  | _ => none

/-- the request of the arguments, after those that gave the options `o`; nothing if they make no sense -/
def requestFrom? (o : Options) : List Text → Option Request
  | [] => o.request?
  | argument :: rest =>
    match Argument.ofText? argument with
    | none => none
    | some .version => some .version
    | some .help => some .help
    | some .separator => if rest = [] then o.request? else none
    | some (.option name (some value)) => (o.set? name value).bind (requestFrom? · rest)
    | some (.option name none) =>
      match rest with
      | [] => none
      | value :: rest => if isValue value then (o.set? name value).bind (requestFrom? · rest) else none

def request? (arguments : List Text) : Option Request := requestFrom? {} arguments

/-- the file that configures a run unless another one is named -/
def configFile : Path := "doctest.toml".toList

/-- the configuration in a file that is named, which has to be there, or in the usual one -/
def loadConfig : Option Path → Action Config
  | none => Config.load configFile
  | some path => do
    if ← look (·.pathExists path) then Config.load path else fail (Cause.configNotFound path)

/-- a package run with the configuration of a file -/
def runPackage (launch : Launcher) (package : Text) (dir config : Option Path) (temporary : Provider := .system) :
    Action Summary := do
  let config ← loadConfig config
  Package.run launch package dir config temporary

/-- how the command ends -/
inductive Ending where
  /-- the arguments make no sense -/
  | usage
  | done (code : Nat) (stdout stderr : Text)
  deriving DecidableEq, Repr

def Ending.code : Ending → Nat
  | usage => 2
  | done code _ _ => code

def versionLine : Text := "doctest 0.1.0\n".toList

def helpText : Text :=
  "Run programs from package documentation\n\nUsage: doctest --package <PACKAGE> [--dir <DIR>] [--config <CONFIG>]\n".toList

/-- the line that a success prints -/
def summaryLine (s : Summary) : Text :=
  s!"doctest: ok programs={s.programs} doc={Text.shown s.docFile}\n".toList

/-- how a run of a package ends the command -/
def Ending.ofResult : Except Failure Summary → Ending
  | .ok summary => done 0 (summaryLine summary) []
  | .error failure => done failure.exitCode [] (failure.message.toList ++ ['\n'])

/-- the command, with these arguments and in this world -/
def run (launch : Launcher) (arguments : List Text) (w : World) (temporary : Provider := .system) : World × Ending :=
  match request? arguments with
  | none => (w, .usage)
  | some .version => (w, .done 0 versionLine [])
  | some .help => (w, .done 0 helpText [])
  | some (.run package dir config) =>
    let o := runPackage launch package dir config temporary w
    (o.world, Ending.ofResult o.result)

end RunnableDocs.CommandLine
