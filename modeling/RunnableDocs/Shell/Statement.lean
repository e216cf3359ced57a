/-
What a shell script is made of: words with what is to be put into them, and statements with what is to be done.

Words and statements contain each other, because the output of statements may stand in a word.
-/
import RunnableDocs.Text.Octets

namespace RunnableDocs.Shell

/-- at which end of a value a pattern is cut off -/
inductive Side where
  | front
  | back
  deriving DecidableEq, Repr

/-- how a redirection opens its target -/
inductive Opening where
  | read
  | write
  /-- even over a file that is to be kept -/
  | clobber
  | append
  | both
  /-- the target is the number of another descriptor -/
  | duplicate
  /-- the target is the text itself -/
  | here
  deriving DecidableEq, Repr

mutual

/-- one piece of a word -/
inductive Part where
  | text (t : Octets) (quoted : Bool)
  | parameter (name : Octets) (use : Use) (quoted : Bool)
  /-- what statements print -/
  | output (body : Statement) (quoted : Bool)
  | arithmetic (expression : List Part) (quoted : Bool)

/-- what is made of the value of a parameter; `colon` says that an empty value counts as none -/
inductive Use where
  | value
  | length
  | orElse (colon : Bool) (word : List Part)
  | assign (colon : Bool) (word : List Part)
  | require (colon : Bool) (word : List Part)
  | andThen (colon : Bool) (word : List Part)
  | trim (side : Side) (longest : Bool) (pattern : List Part)
  | bad

inductive Statement where
  | simple (line : Nat) (assignments : List (Octets × List Part)) (words : List (List Part))
    (redirections : List Redirection)
  | define (name : Octets) (body : Statement)
  | pipeline (negated : Bool) (stages : List Statement)
  | both (first second : Statement)
  | either (first second : Statement)
  | sequence (statements : List Statement)
  | background (line : Nat) (body : Statement) (redirections : List Redirection)
  | choice (condition first second : Statement)
  | repeated (until_ : Bool) (condition body : Statement)
  | each (line : Nat) (name : Octets) (words : Option (List (List Part))) (body : Statement)
  | cases (line : Nat) (subject : List Part) (arms : List (List (List Part) × Statement))
  | subshell (line : Nat) (body : Statement) (redirections : List Redirection)
  | redirected (line : Nat) (body : Statement) (redirections : List Redirection)

inductive Redirection where
  | mk (descriptor : Nat) (opening : Opening) (target : List Part)

end

/-- a word: its pieces in order -/
abbrev Word := List Part

instance : Inhabited Statement := ⟨.sequence []⟩
instance : Inhabited Part := ⟨.text [] false⟩

/-- the plain text of a word in which nothing is quoted or put in -/
def plainText? : Word → Option Octets
  | [.text t false] => some t
  | _ => none

def isNameStart (c : Char) : Bool := c.isAlpha || c = '_'

def isNameChar (c : Char) : Bool := c.isAlphanum || c = '_'

/-- a text that may name a variable -/
def isName : Octets → Bool
  | [] => false
  | c :: rest => isNameStart c && rest.all isNameChar

/-- the commands whose faults end the shell and whose assignments stay -/
def specialCommands : List String :=
  [":", ".", "break", "continue", "eval", "exec", "exit", "export", "local", "readonly", "return", "set", "shift",
    "times", "trap", "unset"]

/-- a name that no function may have -/
def isReserved (name : Octets) : Bool := specialCommands.contains (String.ofList name)

end RunnableDocs.Shell
