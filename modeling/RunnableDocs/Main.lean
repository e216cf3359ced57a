/-
The command, with the files below the current directory.

The files are read into a world, the command is run in it, and what it has changed there is written back.
-/
import RunnableDocs.CommandLine
import RunnableDocs.Machine

namespace RunnableDocs.Files

open Text (Bytes)

/-- the place that an absolute path leads to -/
def placeOf (path : String) : Location := Path.names path.toList

/-- the path of a place, as the system takes it -/
def pathOf (place : Location) : String := String.ofList (Path.ofNames place)

/-- a world with a directory that holds these entries, in which the process stands -/
def worldOf (home : Location) (found : List (Location × Entry)) : World :=
  let system := Machine.initial home
  { system with entries := (found.map fun e => { place := e.1, entry := e.2 }) ++ system.entries }

/-- the entries below a place that one world has and another one has not -/
def newEntries (home : Location) (old new : World) : List (Location × Entry) :=
  (new.treeAt home).filterMap fun e =>
    let place := home ++ e.1
    if old.find? place = some e.2 then none else some (place, e.2)

/-- the places of files below a place that one world has and another one has nothing at -/
def lostFiles (home : Location) (old new : World) : List Location :=
  (old.treeAt home).filterMap fun e =>
    let place := home ++ e.1
    if e.2 ≠ .directory && (new.find? place).isNone then some place else none

/-- what is at a path of the system -/
def readEntry (path : String) (isDirectory : Bool) : IO Entry := do
  if isDirectory then return .directory
  else return .file (← IO.FS.readBinFile path).toList World.newFileMode

/-- the entries below the current directory -/
def readAll : IO (List (Location × Entry)) := do
  let home ← IO.currentDir
  let mut found := []
  for path in ← home.walkDir do
    found := (placeOf path.toString, ← readEntry path.toString (← path.isDir)) :: found
  return found

def writeEntry (e : Location × Entry) : IO Unit := do
  match e.2 with
  | .directory => IO.FS.createDirAll (pathOf e.1)
  | .file content _ => IO.FS.writeBinFile (pathOf e.1) (ByteArray.mk content.toArray)
  | _ => return ()

end RunnableDocs.Files

open RunnableDocs Files in
def main (args : List String) : IO UInt32 := do
  let here := (← IO.currentDir).toString
  let home := placeOf here
  let before := worldOf home (← readAll)
  let (after, ending) := CommandLine.run Machine.launch (args.map String.toList) before
  for e in newEntries home before after do writeEntry e
  for place in lostFiles home before after do IO.FS.removeFile (pathOf place)
  match ending with
  | .usage => IO.eprintln "error: invalid arguments\n\nFor more information, try '--help'."
  | .done _ out err => do
    IO.print (String.ofList out)
    IO.eprint (String.ofList err)
  return ending.code.toUInt32
