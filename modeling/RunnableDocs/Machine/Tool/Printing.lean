/-
The tools that print: texts, texts after a format, and the directory they are in.
-/
import RunnableDocs.Machine.Format
import RunnableDocs.Machine.Tool.Input

namespace RunnableDocs.Machine.Tool

open Exec

/-- a variable that the tool was given -/
def variable_ (name : String) : Exec (Option Octets) := gets fun s => s.me.environment.lookup name.toList

/-- what leading options of a text to print ask for -/
structure EchoStyle where
  newline : Bool := true
  escapes : Bool := false

/-- the leading options, and the texts behind them -/
def echoOptions (style : EchoStyle) : List Octets → EchoStyle × List Octets
  | [] => (style, [])
  | arg :: rest =>
    match arg with
    | '-' :: c :: more =>
      if (c :: more).all fun c => "neE".toList.contains c then
        let newline := style.newline && !(c :: more).contains 'n'
        let escapes := (c :: more).foldl (fun e c => c = 'e' || (e && c ≠ 'E')) style.escapes
        echoOptions { newline, escapes } rest
      else (style, arg :: rest)
    | _ => (style, arg :: rest)

def echo (args : List Octets) : Exec Nat := do
  let isStrict := (← variable_ "POSIXLY_CORRECT").isSome
  let (style, rest) := if isStrict && args.head? ≠ some "-n".toList then ({}, args) else echoOptions {} args
  if style.escapes || isStrict then print (Format.echoed .tool style.newline rest)
  else print ([' '].intercalate rest ++ if style.newline then ['\n'] else [])
  return 0

/-- a complaint about a format in words, and whether it counts as a failure -/
def formatWords : Format.Complaint → String × Bool
  | .noNumber t => (s!"{quotedName t}: expected a numeric value", true)
  | .notAllNumber t => (s!"{quotedName t}: value not completely converted", true)
  | .outOfRange t => (s!"{quotedName t}: Numerical result out of range", true)
  | .restIgnored t =>
    (s!"warning: {t.shown}: character(s) following character constant have been ignored", false)
  | .badDirective t => (s!"{t.shown}: invalid conversion specification", true)
  | .noKind => ("%: invalid conversion specification", true)
  | .noDigits => ("missing hexadecimal number in escape", true)
  | .badCharacter t => (s!"invalid universal character name {t.shown}", true)

def printf (args : List Octets) : Exec Nat := do
  match if args.head? = some "--".toList then args.drop 1 else args with
  | [] => misused "missing operand"
  | format :: rest => do
    let r := Format.printed .tool format rest
    let mut status := 0
    for piece in r.pieces do
      match piece with
      | .ok o => print o
      | .error c => do
        let (words, fails) := formatWords c
        say words
        if fails then status := 1
    if let first :: _ := r.unused then
      say s!"warning: ignoring excess arguments, starting with {quotedName first}"
    return status

/-- the path of the directory that a tool is in, as it is or as a variable names it -/
def pwd (args : List Octets) : Exec Nat :=
  withArguments [⟨'L', "logical", .nothing, true⟩, ⟨'P', "physical", .nothing, true⟩] args fun a => do
    if a.operands ≠ [] then say "ignoring non-option arguments"
    let isStrict := (← variable_ "POSIXLY_CORRECT").isSome
    let isLogical := (a.last? "LP").any (· = 'L') || ((a.last? "LP").isNone && isStrict)
    let named := (← variable_ "PWD").getD []
    let w ← lookWorld id
    let isRight := named.head? = some '/' && w.cwd.isSome &&
      (Text.splitOn '/' named).all (fun piece => piece ≠ ['.'] && piece ≠ ['.', '.']) &&
      (w.resolve (Octets.toText named)).toOption = w.cwd
    match if isLogical && isRight then .ok named else w.currentPath.map Octets.ofText with
    | .ok path => do
      print (path ++ ['\n'])
      return 0
    | .error _ => do
      say "couldn't find directory entry in '..' with matching i-node"
      return 1

end RunnableDocs.Machine.Tool
