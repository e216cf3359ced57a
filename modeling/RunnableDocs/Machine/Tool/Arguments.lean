/-
The arguments of tools: options by letters and by long names, and operands.

Letters may stand together behind one dash, and a long name may be cut as long as only one name begins like that. An
argument of an option follows its letter, or stands behind an equals sign, or comes next. Operands may stand among the
options, unless the first one ends them; two dashes end them in any case.
-/
import RunnableDocs.Machine.Complaint
import RunnableDocs.Machine.Stream

namespace RunnableDocs.Machine.Tool

open Exec

/-- whether an option has an argument -/
inductive Takes where
  | nothing
  | perhaps
  | something
  deriving DecidableEq, Repr

/-- an option that a tool knows; the key is what it is called inside the tool -/
structure Known where
  key : Char
  long : String := ""
  takes : Takes := .nothing
  /-- the key is also the letter of the option -/
  isLetter : Bool := true
  deriving DecidableEq, Repr

/-- letters without arguments and without long names -/
def letters (t : String) : List Known := t.toList.map fun c => { key := c }

/-- an option given, by its key, with its argument -/
structure Given where
  key : Char
  value : Option Octets := none
  deriving DecidableEq, Repr

/-- what the arguments of a tool are, up to the first that makes no sense -/
structure Arguments where
  given : List Given := []
  operands : List Octets := []
  misuse : Option String := none
  deriving DecidableEq, Repr

namespace Arguments

def has (a : Arguments) (key : Char) : Bool := a.given.any (·.key = key)

def hasAny (a : Arguments) (keys : String) : Bool := a.given.any fun g => keys.toList.contains g.key

/-- the argument of an option that was given last -/
def value? (a : Arguments) (key : Char) : Option Octets := (a.given.filter (·.key = key)).getLast?.bind (·.value)

/-- the one of some options that was given last -/
def last? (a : Arguments) (keys : String) : Option Char :=
  (a.given.filter fun g => keys.toList.contains g.key).getLast?.map (·.key)

def add (g : Given) (a : Arguments) : Arguments := { a with given := g :: a.given }

/-- the options whose long names begin like this; one that is this name is the only one -/
def named (known : List Known) (name : String) : List Known :=
  match known.filter fun k => k.long = name && name ≠ "" with
  | [k] => [k]
  | _ => known.filter fun k => k.long ≠ "" && name.toList.isPrefixOf k.long.toList

/-- options that mean the same, which are not confused by having two names -/
def areSame : List Known → Bool
  | [] => true
  | k :: rest => rest.all fun k' => k'.key = k.key && k'.takes = k.takes

mutual

/-- letters behind a dash, and the arguments after them -/
def group (known : List Known) (ordered : Bool) : Nat → Octets → List Octets → Arguments
  | 0, _, _ => {}
  | n + 1, [], rest => ofRest known ordered n rest
  | n + 1, c :: more, rest =>
    match known.find? fun k => k.isLetter && k.key = c with
    | none => { misuse := some s!"invalid option -- '{c}'" }
    | some k =>
      match k.takes, more, rest with
      | .nothing, _, _ => add ⟨c, none⟩ (group known ordered n more rest)
      | .perhaps, [], _ => add ⟨c, none⟩ (ofRest known ordered n rest)
      | _, _ :: _, _ => add ⟨c, some more⟩ (ofRest known ordered n rest)
      | .something, [], value :: rest => add ⟨c, some value⟩ (ofRest known ordered n rest)
      | .something, [], [] => { misuse := some s!"option requires an argument -- '{c}'" }

/-- the arguments from here on -/
def ofRest (known : List Known) (ordered : Bool) : Nat → List Octets → Arguments
  | 0, _ => {}
  | _ + 1, [] => {}
  | n + 1, arg :: rest =>
    match arg with
    | ['-', '-'] => { operands := rest }
    | '-' :: '-' :: text =>
      let name := String.ofList (text.takeWhile (· ≠ '='))
      let given := if name.length < text.length then some (text.drop (name.length + 1)) else none
      match named known name with
      | [] => { misuse := some s!"unrecognized option '{arg.shown}'" }
      | k :: others =>
        if others ≠ [] && !areSame (k :: others) then
          let all := String.join ((k :: others).map fun k => " '--" ++ k.long ++ "'")
          { misuse := some s!"option '{arg.shown}' is ambiguous; possibilities:{all}" }
        else match k.takes, given, rest with
          | .nothing, some _, _ => { misuse := some s!"option '--{k.long}' doesn't allow an argument" }
          | .something, none, [] => { misuse := some s!"option '--{k.long}' requires an argument" }
          | .something, none, value :: rest => add ⟨k.key, some value⟩ (ofRest known ordered n rest)
          | _, value, _ => add ⟨k.key, value⟩ (ofRest known ordered n rest)
    | '-' :: c :: more => group known ordered n (c :: more) rest
    | _ =>
      if ordered then { operands := arg :: rest }
      else
        let a := ofRest known ordered n rest
        { a with operands := arg :: a.operands }

end

/-- the arguments of a tool that knows these options; `ordered` says that the first operand ends the options -/
def ofList (known : List Known) (ordered : Bool) (args : List Octets) : Arguments :=
  ofRest known ordered (args.foldl (fun n a => n + a.length + 2) 2) args

end Arguments

/-! ## Messages -/

/-- a message under the name by which the tool was called; what has been printed comes before it -/
def say (message : String) : Exec Unit := do
  if let .error e ← flush then changeMe fun p => { p with printError := some e }
  complain s!"{(← gets (·.me.called)).shown}: {message}\n"

def adviseHelp : Exec Unit := do
  complain s!"Try '{(← gets (·.me.called)).shown} --help' for more information.\n"

/-- the advice after a call that makes no sense -/
def misused (message : String) (status : Nat := 1) : Exec Nat := do
  say message
  adviseHelp
  return status

/-- why an option is refused for its argument, with advice or without -/
structure Refusal where
  message : String
  isAdvised : Bool := true
  status : Nat := 1
  deriving DecidableEq, Repr

def Refusal.tell (r : Refusal) : Exec Nat := do
  if r.isAdvised then misused r.message r.status
  else do
    say r.message
    return r.status

/-- what a tool does, given its arguments, if they make sense; the first that does not is told of -/
def withArguments (known : List Known) (args : List Octets) (run : Arguments → Exec Nat) (ordered : Bool := false)
    (refused : Nat := 1) (refusal? : Given → Option Refusal := fun _ => none) : Exec Nat := do
  let a := Arguments.ofList known ordered args
  match a.given.findSome? refusal?, a.misuse with
  | some r, _ => r.tell
  | none, some message => misused message refused
  | none, none => run a

/-- a name that is only quoted where it has to be -/
def plainName (o : Octets) : String := o.quotedIfOdd.shown

/-- a name in quotes -/
def quotedName (o : Octets) : String := o.inQuotes.shown

/-- the end of a tool: what it printed is handed on -/
def conclude (status failed : Nat) : Exec Unit := do
  match ← flush with
  | .ok () => finish (.exited status)
  | .error e => do
    complain s!"{(← gets (·.me.called)).shown}: write error: {e.words}\n"
    finish (.exited failed)

end RunnableDocs.Machine.Tool
