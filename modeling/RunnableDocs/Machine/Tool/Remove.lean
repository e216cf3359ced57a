/-
Files and directories removed, after a question where that is asked for.
-/
import RunnableDocs.Machine.Tool.Choice
import RunnableDocs.Machine.Tool.Tree

namespace RunnableDocs.Machine.Tool.Remove

open Exec

structure Wish where
  recursive : Bool
  /-- empty directories go too -/
  takesEmpty : Bool
  silent : Bool
  asks : Bool
  tells : Bool

def refuse (message : String) : Exec Nat := do
  say message
  return 1

/-- what is at a place removed, and told of -/
def removeAt (w : Wish) (name : Octets) (place : Location) (isDirectory : Bool) : Exec Unit := do
  let _ ← attemptWorld fun world => (world.remove place, .ok ())
  let kind := if isDirectory then "directory " else ""
  if w.tells then print s!"removed {kind}{quotedName name}\n".toList

/-- what is under a name removed, if it is agreed; the status -/
def removeUnder (w : Wish) : Nat → Octets → Exec Nat
  | 0, _ => return 0
  | n + 1, name => do
    match ← entryAt name, ← placeOf? name with
    | .error e, _ =>
      if w.silent && (e = .noEntry || e = .notDirectory) then return 0
      else refuse s!"cannot remove {quotedName name}: {e.words}"
    | .ok _, none => return 0
    | .ok .directory, some place => do
      let inside ← namesIn place
      if !w.recursive && !w.takesEmpty then refuse s!"cannot remove {quotedName name}: {SystemError.isDirectory.words}"
      else if !w.recursive && inside ≠ [] then
        refuse s!"cannot remove {quotedName name}: {SystemError.directoryInUse.words}"
      else
        let goesIn ← if w.asks && inside ≠ [] then isAgreed s!"descend into directory {quotedName name}? "
          else pure true
        if !goesIn then return 0
        let mut status := 0
        for inner in inside do status := max status (← removeUnder w n (below name inner))
        let isLeft := (← namesIn place) ≠ []
        if isLeft && status ≠ 0 then return status
        let goes ← if w.asks then isAgreed s!"remove directory {quotedName name}? " else pure true
        if !goes then return status
        if isLeft then
          return max status (← refuse s!"cannot remove {quotedName name}: {SystemError.directoryInUse.words}")
        removeAt w name place true
        return status
    | .ok e, some place => do
      let kind := match e with
        | .file [] _ => "regular empty file"
        | .device _ => "character special file"
        | _ => "regular file"
      let goes ← if w.asks then isAgreed s!"remove {kind} {quotedName name}? " else pure true
      if goes then removeAt w name place false
      return 0

/-- an argument removed, unless that would be a mistake -/
def removeArgument (w : Wish) (name : Octets) : Exec Nat := do
  match ← entryAt name, ← placeOf? name with
  | .ok .directory, some place =>
    if w.recursive && isDots name then
      refuse s!"refusing to remove '.' or '..' directory: skipping {quotedName name}"
    else if w.recursive && place = [] then do
      if withoutSlashes name = ['/'] then say "it is dangerous to operate recursively on '/'"
      else say s!"it is dangerous to operate recursively on {quotedName name} (same as '/')"
      refuse "use --no-preserve-root to override this failsafe"
    else removeUnder w 1000 name
  | _, _ => removeUnder w 1000 name

def known : List Known :=
  [⟨'r', "recursive", .nothing, true⟩, ⟨'R', "", .nothing, true⟩, ⟨'f', "force", .nothing, true⟩,
    ⟨'i', "", .nothing, true⟩, ⟨'I', "", .nothing, true⟩, ⟨'W', "interactive", .perhaps, false⟩,
    ⟨'d', "dir", .nothing, true⟩, ⟨'v', "verbose", .nothing, true⟩, ⟨'o', "one-file-system", .nothing, false⟩,
    ⟨'p', "preserve-root", .perhaps, false⟩, ⟨'n', "no-preserve-root", .nothing, false⟩]

/-- how often questions are asked -/
inductive Asking where
  | never
  | once
  | always
  deriving DecidableEq, Repr

def askings : Choice Asking :=
  [("never", .never), ("no", .never), ("none", .never), ("once", .once), ("always", .always), ("yes", .always)]

/-- what an option says about questions -/
def Asking.of (g : Given) : Asking :=
  match g.key, g.value with
  | 'f', _ => .never
  | 'I', _ => .once
  | 'W', some word => (askings.meaning? word).getD .always
  | _, _ => .always

/-- an option refused for its argument -/
def refuse? (g : Given) : Option Refusal :=
  match g.key, g.value with
  | 'W', _ => askings.refuse? "--interactive" g
  | 'p', some word =>
    if word = "all".toList then none
    else some { message := s!"unrecognized --preserve-root argument: {quotedName word}", isAdvised := false }
  | _, _ => none

/-- a hint for names that look like options -/
def hint (args : List Octets) : Exec Unit := do
  for arg in args do
    if arg.head? = some '-' && arg ≠ dash && arg ≠ "--".toList && (← entryAt arg).toOption.isSome then
      let shown : Octets := "./".toList ++ arg
      let called ← gets (·.me.called)
      complain s!"Try '{called.shown} {plainName shown}' to remove the file {quotedName arg}.\n"
      return ()

def run (args : List Octets) : Exec Nat := do
  let a := Arguments.ofList known false args
  match a.given.findSome? refuse?, a.misuse with
  | some r, _ => r.tell
  | none, some message => do
    say message
    hint args
    adviseHelp
    return 1
  | none, none => do
    let asking := ((a.given.filter fun g => "fiIW".toList.contains g.key).getLast?.map Asking.of).getD .never
    let silent := (a.given.filter fun g => "fiI".toList.contains g.key).getLast?.any (·.key = 'f')
    let recursive := a.hasAny "rR"
    let count := a.operands.length
    if count = 0 then return ← if silent then pure 0 else misused "missing operand"
    let wish : Wish :=
      { recursive, takesEmpty := a.has 'd', silent, asks := asking = .always, tells := a.has 'v' }
    let noun := if count = 1 then "argument" else "arguments"
    let how := if recursive then " recursively" else ""
    let goes ← if asking = .once && (recursive || 3 < count) then isAgreed s!"remove {count} {noun}{how}? "
      else pure true
    let mut status := 0
    if goes then for name in a.operands do status := max status (← removeArgument wish name)
    giveBackInput
    return status

end RunnableDocs.Machine.Tool.Remove
