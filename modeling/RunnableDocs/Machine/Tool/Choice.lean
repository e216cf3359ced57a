/-
The words that an option takes as its argument.

A word may be cut as long as all words that begin like it mean the same. One that means nothing, or several things, is
refused with a list of the words that there are.
-/
import RunnableDocs.Machine.Tool.Arguments

namespace RunnableDocs.Machine.Tool

/-- words with what they mean; neighbours that mean the same are told in one line -/
abbrev Choice (α : Type) := List (String × α)

namespace Choice

inductive Meaning (α : Type) where
  | one (a : α)
  | none
  | several
  deriving DecidableEq, Repr

/-- what a word means, whole or cut -/
def meaning {α : Type} [DecidableEq α] (c : Choice α) (word : Octets) : Meaning α :=
  match c.find? fun n => n.1.toList = word with
  | some n => .one n.2
  | Option.none => match c.filter fun n => word.isPrefixOf n.1.toList with
    | [] => .none
    | n :: rest => if rest.all fun m => m.2 = n.2 then .one n.2 else .several

/-- the one meaning of a word -/
def meaning? {α : Type} [DecidableEq α] (c : Choice α) (word : Octets) : Option α :=
  match c.meaning word with
  | .one a => some a
  | _ => Option.none

/-- the words, one meaning a line -/
def lines {α : Type} [DecidableEq α] : Choice α → Option α → String
  | [], _ => ""
  | (name, a) :: rest, last =>
    (if last = some a then ", '" else "\n  - '") ++ name ++ "'" ++ lines rest (some a)

/-- what is wrong with a word that is the argument of something -/
def refusal? {α : Type} [DecidableEq α] (c : Choice α) (what : String) (word : Octets) : Option String :=
  let say (how : String) : String :=
    s!"{how} argument {quotedName word} for '{what}'\nValid arguments are:" ++ c.lines Option.none
  match c.meaning word with
  | .one _ => Option.none
  | .none => some (say "invalid")
  | .several => some (say "ambiguous")

/-- an option refused because its argument is none of some words; an option without an argument is not -/
def refuse? {α : Type} [DecidableEq α] (c : Choice α) (what : String) (g : Given) : Option Refusal :=
  (g.value.bind (c.refusal? what)).map fun message => { message }

end Choice

/-- when something is to be done; `watched` means if somebody looks on, and nobody does -/
inductive Occasion where
  | always
  | never
  | watched
  deriving DecidableEq, Repr

def occasions : Choice Occasion :=
  [("always", .always), ("yes", .always), ("force", .always), ("never", .never), ("no", .never), ("none", .never),
    ("auto", .watched), ("tty", .watched), ("if-tty", .watched)]

end RunnableDocs.Machine.Tool
