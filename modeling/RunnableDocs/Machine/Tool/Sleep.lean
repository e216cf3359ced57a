/-
Waiting: times are numbers with a fraction and a unit, and all that are given are waited for.
-/
import RunnableDocs.Machine.Tool.Input
import RunnableDocs.Number.Real

namespace RunnableDocs.Machine.Tool.Sleep

open Exec

/-- the seconds in a unit -/
def unit? : Octets → Option Nat
  | [] => some 1
  | ['s'] => some 1
  | ['m'] => some 60
  | ['h'] => some 3600
  | ['d'] => some 86400
  | _ => none

/-- longer than anybody waits, in microseconds -/
def forever : Nat := 1000000000000000000000

/-- so many seconds in microseconds, rounded up -/
def microseconds (unit : Nat) : Number.Real → Option Nat
  | .finite negative m e =>
    if negative && m ≠ 0 then none
    else
      let (num, den) := Number.fractionOf m e
      some (min forever ((num * unit * 1000000 + den - 1) / den))
  | .infinite negative => if negative then none else some forever
  | .none _ => none

/-- the microseconds that a text asks for -/
def ofText? (t : Octets) : Option Nat :=
  (Number.Read.ofText? .double t).bind fun r => (unit? r.rest).bind fun u => microseconds u r.value

def run (args : List Octets) : Exec Nat :=
  withArguments [] args fun a => do
    if a.operands = [] then misused "missing operand"
    else
      match a.operands.filter fun t => (ofText? t).isNone with
      | [] => do
        pass ((a.operands.filterMap ofText?).foldl (· + ·) 0)
        return 0
      | odd => do
        for t in odd do say s!"invalid time interval {quotedName t}"
        adviseHelp
        return 1

end RunnableDocs.Machine.Tool.Sleep
