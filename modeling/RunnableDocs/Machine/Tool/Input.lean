/-
What tools read: named files one after the other, block after block, with time going by meanwhile.
-/
import RunnableDocs.Machine.Status
import RunnableDocs.Machine.Tool.Arguments

namespace RunnableDocs.Machine.Tool

open Exec

/-- the name that stands for the input that is there already -/
def dash : Octets := ['-']

/-- what is read at once -/
def blockSize : Nat := Pipe.capacity

/-- what it takes to handle so many octets -/
def labour (octets : Nat) : Exec Unit := do if 1024 ≤ octets then pass (octets / 64)

/-- blocks read one after the other and used, until they are done with or there are none left; what has come of it, and
why it could not go on -/
def eachBlock {σ : Type} (fd size : Nat) (use : σ → Octets → Exec (ForInStep σ)) : Nat → σ →
    Exec (σ × Option SystemError)
  | 0, a => return (a, none)
  | n + 1, a => do
    match ← readSome fd size with
    | .error e => return (a, some e)
    | .ok [] => return (a, none)
    | .ok block => do
      labour block.length
      match ← use a block with
      | .done a => return (a, none)
      | .yield a => eachBlock fd size use n a

/-- an input by its name, under its descriptor as long as it is used; else why it cannot be opened -/
def withInput {α : Type} (name : Octets) (refused : SystemError → Exec α) (use : Nat → Exec α) : Exec α := do
  if name = dash then use 0
  else match ← openFile name { reads := true } with
    | .error e => refused e
    | .ok opened => withOpened opened use

/-- octets that were read from a file given back, so that others can read them -/
def giveBack (fd n : Nat) : Exec Unit := do
  if let some o ← openedAt? fd then
    if o.target matches .file _ | .lost _ then modify (·.setOpened { o with offset := o.offset - n })

/-- everything that is left of an input, and why there is no more if that is no good reason -/
def readToEnd (fd : Nat) : Exec (Octets × Option SystemError) := do
  let add (pieces : List Octets) (block : Octets) : Exec (ForInStep (List Octets)) := return .yield (block :: pieces)
  let (pieces, e) ← eachBlock fd blockSize add manyTimes []
  return (pieces.reverse.flatten, e)

/-- something printed that a tool cannot do without; whether that went well -/
def printed (o : Octets) : Exec Bool := do
  print o
  match ← gets (·.me.printError) with
  | none => return true
  | some e => do
    changeMe fun p => { p with printed := [], printedSize := 0, printError := none }
    say s!"error writing 'standard output': {e.words}"
    return false

/-- the input itself cannot be closed at the end, because it is not open -/
def lacksInput : Exec Bool := return (← openedAt? 0).isNone

end RunnableDocs.Machine.Tool
