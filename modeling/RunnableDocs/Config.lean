/-
Configurations: where documentation is found, what its comments look like, and how programs are run.

Everything has a default, so that an absent file is a configuration too. `validate` refuses, in a fixed order, what
could not be used later: no time at all, a command without a program, an empty marker, an extension that could not be
told from the text around it.
-/
import RunnableDocs.Comment
import RunnableDocs.Table
import RunnableDocs.Toml.Document

namespace RunnableDocs

/-- where the documentation of a package is looked for -/
structure Locate where
  rootCommand : List Text := ["go".toList, "env".toList, "GOPATH".toList]
  sourceDir : Text := "src".toList
  docFile : Text := "doc.go".toList
  deriving DecidableEq, Repr

/-- how programs of one language are run: by a command, or by building them first -/
inductive Language where
  | interpreted (command : List Text)
  | buildThenRun (build : List Text)
  deriving DecidableEq, Repr

/-- the command, without the file name that follows it -/
def Language.command : Language → List Text
  | interpreted command => command
  | buildThenRun build => build

structure Config where
  /-- how long each child process may take, in seconds -/
  timeoutSecs : Option Nat := none
  locate : Locate := {}
  markers : Markers := {}
  languages : Table Language := {}

namespace Config

/-- the first part names a program -/
def isCommand (command : List Text) : Bool :=
  match command with
  | [] => false
  | program :: _ => Text.trim program ≠ []

/-- letters and digits of ASCII, at least one -/
def isExtension (extension : Text) : Bool := extension ≠ [] && extension.all Char.isAlphanum

/-- the first fault of the languages, in the order of their extensions -/
def languageFault? : List (Text × Language) → Option ConfigFault
  | [] => none
  | (extension, language) :: rest =>
    if !isExtension extension then some (.oddExtension extension)
    else if !isCommand language.command then some (.noCommand extension)
    else languageFault? rest

/-- the first fault of a configuration -/
def fault? (config : Config) : Option ConfigFault :=
  if config.timeoutSecs = some 0 then some .zeroTimeout
  else if !isCommand config.locate.rootCommand then some .noRootCommand
  else if Text.trim config.locate.docFile = [] then some .noDocFile
  else if config.markers.opening = [] || config.markers.closing = [] then some .emptyMarker
  else languageFault? config.languages.entries

def validate (config : Config) : Except Failure Unit :=
  match config.fault? with
  | some fault => .error (Cause.config fault)
  | none => .ok ()

/-- the limit for each child process, in milliseconds -/
def limit (config : Config) : Option Nat := config.timeoutSecs.map (· * 1000)

/-! ## Configurations written in TOML -/

open Toml (Value)

/-- the value of a field; a field that is not given takes its default -/
def field {α : Type} (read : Value → Option α) (default : α) (v : Value) (key : String) : Option α :=
  match v.field? key.toList with
  | some inner => read inner
  | none => some default

/-- fields of other names are passed over, but have to be readable -/
def othersReadable (known : List String) (entries : List (Text × Value)) : Bool :=
  entries.all fun e => known.any (·.toList = e.1) || e.2.isReadable

/-- a list of fields in their order, a shorter list leaving the others at their defaults -/
def element {α : Type} (read : Value → Option α) (default : α) (vs : List Value) (index : Nat) : Option α :=
  match vs[index]? with
  | some inner => read inner
  | none => some default

def readText : Value → Option Text
  | .string text => some text
  | _ => none

def readTexts : Value → Option (List Text)
  | .array vs => vs.mapM readText
  | _ => none

/-- a number of seconds that fits in 64 bits -/
def readSeconds : Value → Option (Option Nat)
  | .integer n => if 0 ≤ n ∧ n.toNat < UInt64.size then some (some n.toNat) else none
  | _ => none

/-- a table of the fields, or their values in order; a date has none of the fields -/
def readLocate : Value → Option Locate
  | .table entries => do
    let v := Value.table entries
    let d : Locate := {}
    if !othersReadable ["root_command", "source_dir", "doc_file"] entries then none
    some ⟨← field readTexts d.rootCommand v "root_command", ← field readText d.sourceDir v "source_dir",
      ← field readText d.docFile v "doc_file"⟩
  | .array vs => do
    let d : Locate := {}
    some ⟨← element readTexts d.rootCommand vs 0, ← element readText d.sourceDir vs 1,
      ← element readText d.docFile vs 2⟩
  | .dateTime => some {}
  | _ => none

/-- a table of the fields, or their values in order; a date has none of the fields -/
def readMarkers : Value → Option Markers
  | .table entries => do
    let v := Value.table entries
    let d : Markers := {}
    if !othersReadable ["open", "close"] entries then none
    some ⟨← field readText d.opening v "open", ← field readText d.closing v "close"⟩
  | .array vs => do
    let d : Markers := {}
    some ⟨← element readText d.opening vs 0, ← element readText d.closing vs 1⟩
  | .dateTime => some {}
  | _ => none

/-- a language by its kind and what that kind needs, which is looked for under the name that the kind gives it -/
def languageOf (kind : Value) (command? : String → Option Value) : Option Language := do
  let kind ← readText kind
  if kind = "interpreted".toList then (command? "command" >>= readTexts).map .interpreted
  else if kind = "build_then_run".toList then (command? "build" >>= readTexts).map .buildThenRun
  else none

/-- a table of the kind and its command, or the two in order; all of it has to be kept until the kind is known -/
def readLanguage (v : Value) : Option Language :=
  if !v.isKeepable then none
  else match v with
    | .table _ => (v.field? "kind".toList).bind fun kind => languageOf kind fun name => v.field? name.toList
    | .array [kind, command] => languageOf kind fun _ => some command
    | _ => none

def readLanguages : Value → Option (Table Language)
  | .table entries => (entries.mapM fun e => (readLanguage e.2).map (e.1, ·)).map Table.ofList
  | _ => none

/-- the configuration that a table writes; fields of other names are passed over -/
def ofValue? (v : Value) : Option Config := do
  if let .table entries := v then
    if !othersReadable ["timeout_secs", "locate", "comment", "languages"] entries then none
  some ⟨← field readSeconds none v "timeout_secs", ← field readLocate {} v "locate",
    ← field readMarkers {} v "comment", ← field readLanguages {} v "languages"⟩

/-- the valid configuration that a document writes -/
def parse (document : Text) : Except Failure Config :=
  match Toml.parse? document >>= ofValue? with
  | none => .error (Failure.during .parseConfig Cause.configSyntax)
  | some config => do
    config.validate
    return config

end Config
end RunnableDocs
