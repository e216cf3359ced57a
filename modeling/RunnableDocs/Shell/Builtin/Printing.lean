/-
The commands of a shell that print: texts, texts after a format, and values in quotes that can be read back.
-/
import RunnableDocs.Machine.Format
import RunnableDocs.Shell.Options

namespace RunnableDocs.Shell.Builtin

open Machine (Exec)
open Machine.Exec

/-- a line printed -/
def printLine (o : Octets) : Exec Unit := print (o ++ ['\n'])

/-- a text in quotes, from which a shell reads it back: single ones around all but single quotes -/
def quotedValue : Nat → Octets → Octets
  | 0, _ => []
  | n + 1, t =>
    let plain := t.takeWhile (· ≠ '\'')
    let rest := t.drop plain.length
    let quotes := rest.takeWhile (· = '\'')
    let after := rest.drop quotes.length
    let shown := '\'' :: plain ++ ['\'']
    if quotes = [] then shown
    else shown ++ '"' :: quotes ++ '"' :: (if after = [] then [] else quotedValue n after)

def quoted (t : Octets) : Octets := quotedValue (t.length + 1) t

def echo (args : List Octets) : Exec Nat := do
  let (newline, rest) := match args with
    | ['-', 'n'] :: rest => (false, rest)
    | rest => (true, rest)
  print (Format.echoed .shell newline rest)
  return 0

/-- a complaint about a format in the words of the shell, and its status -/
def formatWords : Format.Complaint → String × Nat
  | .noNumber t => (s!"{t.shown}: expected numeric value", 1)
  | .notAllNumber t => (s!"{t.shown}: not completely converted", 1)
  | .outOfRange t => (s!"{t.shown}: Numerical result out of range", 1)
  | .restIgnored t => (s!"{t.shown}: not completely converted", 1)
  | .badDirective t => (s!"{t.shown}: invalid directive", 2)
  | .noKind => ("missing format character", 2)
  | .noDigits => ("missing hexadecimal number", 2)
  | .badCharacter t => (s!"{t.shown}: invalid directive", 2)

def printf (args : List Octets) : Exec Nat := do
  let (_, args) ← optionsOf "" args
  match args with
  | [] => refuse "usage: printf format [arg ...]"
  | format :: rest => do
    let r := Format.printed .shell format rest
    let mut status := 0
    for c in r.complaints do
      let (words, s) := formatWords c
      warn words
      status := max status s
    print r.output
    if 2 ≤ status then fail
    return status

end RunnableDocs.Shell.Builtin
