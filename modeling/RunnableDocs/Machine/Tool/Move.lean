/-
Files and trees of files moved.

A tree is not copied: it gets another name, and what is open in it and who stands in it goes along. What is at the
target goes, if it may be written over: a directory only takes the place of an empty one, and nothing is put into itself.
-/
import RunnableDocs.Machine.Tool.Copy

namespace RunnableDocs.Machine.Tool.Move

open Exec
open Copy (Made mayOverwrite refuse)

structure Wish extends Copy.Wish where
  /-- what is there stays, and that is a failure -/
  keepsOld : Bool

/-! ## Another name -/

/-- the place of an entry that is to be made or taken away: dots and the root cannot be -/
def entryPlace (w : World) (p : Path) : Except SystemError Location := do
  if (w.stepsInRemoved p).isSome then throw .inUse
  let (start, way) ← w.origin p
  match Path.lastPiece? way with
  | none => .error .inUse
  | some last =>
    let dir ← w.holderFrom start way
    if Path.isDots last then .error .inUse else w.step dir last

/-- from where to where a tree goes when it gets another name -/
def journey (w : World) (source target : Path) : Except SystemError (Location × Location) := do
  let start ← entryPlace w source
  let goal ← entryPlace w target
  match w.find? start, w.find? goal with
  | none, _ => .error .noEntry
  | some .directory, there =>
    if goal = start then .ok (start, goal)
    else if start.isPrefixOf goal then .error .invalidArgument
    else if goal.isPrefixOf start then .error .directoryInUse
    else match there with
      | none => .ok (start, goal)
      | some .directory => if w.childrenAt goal = [] then .ok (start, goal) else .error .directoryInUse
      | some _ => .error .notDirectory
  | some _, there =>
    if Path.endsInSlash source || Path.endsInSlash target then .error .notDirectory
    else if goal.isPrefixOf start && goal ≠ start then .error .directoryInUse
    else if there = some .directory then .error .isDirectory
    else .ok (start, goal)

/-- another name given to what is under one, if the system allows it -/
def rename (source target : Octets) : Exec (Except SystemError Unit) := do
  match ← lookWorld fun w => journey w (Octets.toText source) (Octets.toText target) with
  | .error e => return .error e
  | .ok (start, goal) => do
    if start ≠ goal then modify (·.moveTree start goal)
    return .ok ()

/-! ## Moving -/

/-- what is at a target put aside; under which name -/
def putAside (w : Wish) (target : Octets) : Exec (Option Octets) := do
  let name := withoutSlashes target
  let some place ← placeOf? name | return none
  let some aside ← Copy.backupName? w.toWish name place | return none
  let _ ← rename name aside
  return some aside

/-- the refusals for which the target is to blame -/
def isOfTarget (e : SystemError) : Bool :=
  e = .alreadyExists || e = .isDirectory || e = .directoryInUse || e = .noSpace

/-- a source put at a target, under which nothing stands in the way -/
def carry (w : Wish) (made : Made) (source target : Octets) (kept : Option Octets) : Exec (Made × Nat) := do
  match ← rename source target with
  | .ok () => do
    if w.tells then print "renamed ".toList
    Copy.tellCopy w.toWish source target kept
    return ((← placeOf? target).toList ++ made, 0)
  | .error e =>
    if e = .invalidArgument then
      refuse made s!"cannot move {quotedName source} to a subdirectory of itself, {quotedName target}"
    else if isOfTarget e then refuse made s!"cannot overwrite {quotedName target}: {e.words}"
    else refuse made s!"cannot move {quotedName source} to {quotedName target}: {e.words}"

/-- a source moved to a target, where something may be; a file that was just put there stays -/
def moveOne (w : Wish) (made : Made) (source target : Octets) : Exec (Made × Nat) := do
  match ← inspect source, ← inspect target with
  | .error e, _ => refuse made s!"cannot stat {quotedName source}: {e.words}"
  | .ok _, .error .noEntry => carry w made source target none
  | .ok _, .error e => refuse made s!"cannot stat {quotedName target}: {e.words}"
  | .ok status, .ok old => do
    let isTree := status.kind = .directory
    let isNew := (← placeOf? target).any (made.contains ·)
    let overwriting := if isTree && w.overwriting = .older then .all else w.overwriting
    if w.keepsOld then refuse made s!"not replacing {quotedName target}"
    else if old.target = status.target && status.kind ≠ .device then
      refuse made s!"{quotedName source} and {quotedName target} are the same file"
    else match ← mayOverwrite { w.toWish with overwriting } source target with
      | .error result => return (made, result)
      | .ok () =>
        if !isTree && old.kind = .directory then
          refuse made s!"cannot overwrite directory {quotedName target} with non-directory"
        else if !isTree && isNew && w.backup ≠ .numbered then
          refuse made s!"will not overwrite just-created {quotedName target} with {quotedName source}"
        else if isTree && old.kind ≠ .directory && w.backup = .none then
          refuse made s!"cannot overwrite non-directory {quotedName target} with directory {quotedName source}"
        else carry w made source target (← putAside w target)

/-! ## Arguments -/

def known : List Known :=
  [⟨'b', "", .nothing, true⟩, ⟨'B', "backup", .perhaps, false⟩, ⟨'D', "debug", .nothing, false⟩,
    ⟨'f', "force", .nothing, true⟩, ⟨'i', "interactive", .nothing, true⟩, ⟨'n', "no-clobber", .nothing, true⟩,
    ⟨'c', "no-copy", .nothing, false⟩, ⟨'w', "strip-trailing-slashes", .nothing, false⟩,
    ⟨'S', "suffix", .something, true⟩, ⟨'t', "target-directory", .something, true⟩,
    ⟨'T', "no-target-directory", .nothing, true⟩, ⟨'u', "", .nothing, true⟩, ⟨'U', "update", .perhaps, false⟩,
    ⟨'v', "verbose", .nothing, true⟩, ⟨'Z', "context", .nothing, true⟩]

/-- an option refused for its argument -/
def refuse? (g : Given) : Option Refusal := if g.key = 'U' then Copy.updates.refuse? "--update" g else none

/-- what is wished; of the options about what is there, the last one counts -/
def wishOf (a : Arguments) (backup : Copy.Backup) (valueOf : String → Option Octets) : Wish :=
  let last := a.last? "fin"
  { Copy.wishOf a backup valueOf with
    asks := last = some 'i', overwriting := Copy.overwritingOf a, keepsOld := last = some 'n' }

/-- sources moved into a directory -/
def moveInto (w : Wish) (dir : Octets) (sources : List Octets) : Exec Nat := do
  let mut made : Made := []
  let mut status := 0
  for source in sources do
    let base := baseName source
    let (m, s) ← moveOne w made source (below dir (if base = ['/'] then [] else base))
    made := m
    status := max status s
  return status

def run (args : List Octets) : Exec Nat :=
  withArguments known args (fun a => do
    let environment ← gets (·.me.environment)
    let valueOf (name : String) : Option Octets := environment.lookup name.toList
    match Copy.backupOf a valueOf with
    | .error message => misused message
    | .ok backup => do
      let w := wishOf a backup valueOf
      let operands := if a.has 'w' then a.operands.map withoutSlashes else a.operands
      match ← Copy.goalOf a operands with
      | .error status => return status
      | .ok goal =>
        if backup ≠ .none && w.keepsOld then misused "options --backup and --no-clobber are mutually exclusive"
        else
          let status ← match goal with
            | .to target source => pure (← moveOne w [] source target).2
            | .into dir sources => moveInto w dir sources
          giveBackInput
          return status) false 1 refuse?

end RunnableDocs.Machine.Tool.Move
