/-
Failures: what went wrong, and what was being done meanwhile.

A failure is a cause inside any number of activities, the outermost first. Its message names them all; its exit code
depends on the cause alone (`exitCode_during`), so wrapping a failure in another activity never changes how the command
ends.
-/
import RunnableDocs.Text.Basic
import RunnableDocs.Text.Quoted

namespace RunnableDocs

open Text (shown quoted)

/-- a path, as it is written -/
abbrev Path := Text

/-- how the system refuses a request -/
inductive SystemError where
  | noEntry
  /-- there is nothing behind a device -/
  | noDevice
  | argumentsTooLong
  | notExecutable
  | badDescriptor
  | accessDenied
  /-- something that has to stay where it is -/
  | inUse
  | alreadyExists
  | notDirectory
  | isDirectory
  | invalidArgument
  | noSpace
  | brokenPipe
  | nameTooLong
  | directoryInUse
  /-- one thing leads to another for too long -/
  | tooManyLevels
  /-- bytes that were to be text are not UTF-8 -/
  | invalidText
  /-- a null character where none can be passed on -/
  | nullCharacter
  deriving DecidableEq, Repr

namespace SystemError

/-- the number the system reports, if it is the system that refuses -/
def number? : SystemError → Option Nat
  | noEntry => some 2
  | noDevice => some 6
  | argumentsTooLong => some 7
  | notExecutable => some 8
  | badDescriptor => some 9
  | accessDenied => some 13
  | inUse => some 16
  | alreadyExists => some 17
  | notDirectory => some 20
  | isDirectory => some 21
  | invalidArgument => some 22
  | noSpace => some 28
  | brokenPipe => some 32
  | nameTooLong => some 36
  | directoryInUse => some 39
  | tooManyLevels => some 40
  | invalidText => none
  | nullCharacter => none

def message (e : SystemError) : String :=
  match e.number?, e with
  | some n, _ => s!"<os error {n}>"
  | none, invalidText => "<io InvalidData>"
  | none, _ => "<io InvalidInput>"

end SystemError

/-- why a configuration is refused -/
inductive ConfigFault where
  | zeroTimeout
  | noRootCommand
  | noDocFile
  | emptyMarker
  | oddExtension (extension : Text)
  | noCommand (extension : Text)
  deriving DecidableEq, Repr

/-- `locate.root_command` holds no program to run -/
def noRootCommandMessage : String := "locate.root_command must be a non-empty array"

def ConfigFault.message : ConfigFault → String
  | zeroTimeout => "timeout_secs must be > 0"
  | noRootCommand => noRootCommandMessage
  | noDocFile => "locate.doc_file must be non-empty"
  | emptyMarker => "comment.open and comment.close must be non-empty"
  | oddExtension extension => s!"languages.{shown extension}: extension must use [A-Za-z0-9] only"
  | noCommand extension => s!"languages.{shown extension}: command must be a non-empty array"

/-- what went wrong -/
inductive Cause where
  /-- no line of the source holds the open marker -/
  | missingOpen (marker : Text)
  /-- the comment that starts at this line is never closed -/
  | missingClose (line : Nat) (marker : Text)
  /-- the first paragraph is code, so nothing can name it -/
  | codeWithoutDeclaration (line : Nat)
  | docFileNotFound (path : Path)
  | unsupportedLanguage (filename : Text) (line : Nat) (language : Text)
  | build (command : Text) (stderr : Text)
  | missingExecutable (path : Path)
  | run (command : Text) (stderr : Text)
  | outputMismatch (filename expected actual : Text)
  | system (error : SystemError)
  /-- the configuration is no TOML, or not of the expected shape -/
  | configSyntax
  | config (fault : ConfigFault)
  | configNotFound (path : Path)
  | emptyRootCommand
  | rootCommandFailed (command : Text) (stderr : Text)
  | noWorkspaceRoot (command : Text)
  | emptyCommand
  /-- a failure in words of a caller's own -/
  | other (text : Text)
  deriving DecidableEq, Repr

/-- the kinds of failure that have an exit code of their own -/
inductive Kind where
  | parse
  | unsupportedLanguage
  | build
  | run
  | outputMismatch
  deriving DecidableEq, Repr

def Kind.exitCode : Kind → Nat
  | parse => 2
  | unsupportedLanguage => 3
  | build => 4
  | run => 5
  | outputMismatch => 6

namespace Cause

def message : Cause → String
  | missingOpen marker => s!"no doc comment: open marker {quoted marker} not found"
  | missingClose line marker => s!"doc comment starting at line {line} is not closed by {quoted marker}"
  | codeWithoutDeclaration line => s!"line {line}: code block without previous paragraph"
  | docFileNotFound path => s!"can't find doc file {shown path}"
  | unsupportedLanguage filename line language =>
    s!"{shown filename} (line {line}): unsupported language {quoted language}"
  | build command stderr => s!"'{shown command}' failed: {shown stderr}"
  | missingExecutable path => s!"no executable found: {shown path}"
  | run command stderr => s!"'{shown command}' failed: {shown stderr}"
  | outputMismatch filename expected actual =>
    s!"unexpected output from {shown filename}\nExpect:\n{shown expected}\n\nGot:\n{shown actual}"
  | system error => error.message
  | configSyntax => "<toml>"
  | config fault => fault.message
  | configNotFound path => s!"config file {shown path} not found"
  | emptyRootCommand => noRootCommandMessage
  | rootCommandFailed command stderr => s!"'{shown command}' failed: {shown stderr}"
  | noWorkspaceRoot command => s!"'{shown command}' printed no workspace root"
  | emptyCommand => "strategy command must be non-empty"
  | other text => shown text

def kind? : Cause → Option Kind
  | missingOpen _ | missingClose _ _ | codeWithoutDeclaration _ | docFileNotFound _ => some .parse
  | unsupportedLanguage _ _ _ => some .unsupportedLanguage
  | build _ _ | missingExecutable _ => some .build
  | run _ _ => some .run
  | outputMismatch _ _ _ => some .outputMismatch
  | _ => none

/-- a cause of no kind is an invalid request -/
def exitCode (c : Cause) : Nat := (c.kind?.map Kind.exitCode).getD 1

end Cause

/-- what was being done when a failure arose -/
inductive Activity where
  | readFile (path : Path)
  | parseFile (path : Path)
  | loadConfig (path : Path)
  | parseConfig
  | writeFile (path : Path)
  | runCommand (command : Text)
  | spawn (command : Text)
  | readCurrentDirectory
  | createTemporaryDirectory
  | createDirectory (path : Path)
  | changeDirectory (path : Path)
  | locateDocumentation (package : Text)
  | runProgram (filename : Text) (line : Nat)
  /-- an activity in words of a caller's own -/
  | other (text : Text)
  deriving DecidableEq, Repr

def Activity.message : Activity → String
  | readFile path => s!"read {shown path}"
  | parseFile path => s!"parse {shown path}"
  | loadConfig path => s!"load {shown path}"
  | parseConfig => "parse config toml"
  | writeFile path => s!"write {shown path}"
  | runCommand command => s!"run {shown command}"
  | spawn command => s!"spawn {shown command}"
  | readCurrentDirectory => "read current directory"
  | createTemporaryDirectory => "create temporary directory"
  | createDirectory path => s!"create directory {shown path}"
  | changeDirectory path => s!"change directory to {shown path}"
  | locateDocumentation package => s!"locate documentation of {shown package}"
  | runProgram filename line => s!"{shown filename} (line {line})"
  | other text => shown text

/-- a cause inside the activities it stopped, the outermost first -/
structure Failure where
  cause : Cause
  activities : List Activity := []
  deriving DecidableEq, Repr

namespace Failure

/-- a cause that no activity stands around yet -/
def ofCause (cause : Cause) : Failure := ⟨cause, []⟩

/-- a refusal by the system -/
def ofSystem (error : SystemError) : Failure := ofCause (.system error)

instance : Coe Cause Failure := ⟨ofCause⟩
instance : Coe SystemError Failure := ⟨ofSystem⟩

/-- the failure, as it is seen from an activity around it -/
def during (activity : Activity) (f : Failure) : Failure := { f with activities := activity :: f.activities }

/-- the messages of the activities and the cause, the outermost first -/
def messages (f : Failure) : List String := f.activities.map Activity.message ++ [f.cause.message]

def message (f : Failure) : String := ": ".intercalate f.messages

def exitCode (f : Failure) : Nat := f.cause.exitCode

theorem exitCode_during (activity : Activity) (f : Failure) : (f.during activity).exitCode = f.exitCode := rfl

end Failure

end RunnableDocs
