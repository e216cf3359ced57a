/-
Files and trees of files copied.

A file that is there already keeps its permissions unless those are copied too; it may be kept under another name. What
has been made on the way is remembered, so that a directory is not copied into itself for ever.
-/
import RunnableDocs.Machine.Tool.Choice
import RunnableDocs.Machine.Tool.Permissions
import RunnableDocs.Machine.Tool.Tree

namespace RunnableDocs.Machine.Tool.Copy

open Exec

/-- under which names files are kept that would be written over -/
inductive Backup where
  | none
  | simple
  | numbered
  /-- numbered where there are numbered ones already -/
  | existing
  deriving DecidableEq, Repr

/-- what becomes of files that are there already -/
inductive Overwriting where
  | all
  | older
  | none
  deriving DecidableEq, Repr

structure Wish where
  recursive : Bool
  keepsMode : Bool
  /-- new files do not get the permissions of their sources -/
  dropsMode : Bool
  keepsTime : Bool
  asks : Bool
  overwriting : Overwriting
  removesFirst : Bool
  backup : Backup
  suffix : Octets
  tells : Bool
  /-- no content is copied -/
  onlyAttributes : Bool
  /-- the names by which the argument is copied, for messages -/
  top : Octets × Octets := ([], [])

/-- what has been made: directories, and files that stand for arguments -/
abbrev Made := List Location

def refuse (made : Made) (message : String) : Exec (Made × Nat) := do
  say message
  return (made, 1)

def tellCopy (w : Wish) (source target : Octets) (kept : Option Octets) : Exec Unit := do
  if w.tells then
    let more := (kept.map fun k => s!" (backup: {quotedName k})").getD ""
    print s!"{quotedName source} -> {quotedName target}{more}\n".toList

/-- the greatest number among the backups of a name -/
def lastBackup (name : Octets) (names : List Octets) : Nat :=
  let start := name ++ ".~".toList
  (names.filterMap fun n =>
    if start.isPrefixOf n && n.getLast? = some '~' then Octets.toNat? (n.drop start.length).dropLast
    else none).foldl max 0

/-- the name under which a file is kept -/
def backupName? (w : Wish) (target : Octets) (place : Location) : Exec (Option Octets) := do
  let last := lastBackup (baseName target) (← namesIn place.dropLast)
  let numbered := target ++ ".~".toList ++ Octets.ofNat (last + 1) ++ ['~']
  return match w.backup with
    | .none => none
    | .simple => some (target ++ w.suffix)
    | .numbered => some numbered
    | .existing => some (if last = 0 then target ++ w.suffix else numbered)

/-- a file that would be written over put aside; under which name -/
def putAside (w : Wish) (target : Octets) (place : Location) (e : Entry) : Exec (Option Octets) := do
  match ← backupName? w target place with
  | none => do
    if w.removesFirst then
      let _ ← attemptWorld fun world => (world.remove place, .ok ())
      if w.tells then print s!"removed {quotedName target}\n".toList
    return none
  | some name => do
    let aside := place.dropLast ++ [Octets.toText (baseName name)]
    let _ ← attemptWorld fun world => ((world.remove place).put aside e, .ok ())
    return some name

/-- attributes of a source given to a copy -/
def giveAttributes (w : Wish) (isNew : Bool) (source : Status) (place : Location) : Exec Unit := do
  let mode ← if w.keepsMode then pure (some (source.mode &&& Permissions.every))
    else if !isNew || w.dropsMode then pure none
    else do pure (some (← permitted (source.mode &&& 0o777)))
  if let some mode := mode then modify fun s => { s with world := s.world.setMode place mode }
  if w.keepsTime then modify fun s =>
    { s with world := s.world.modifyAt place ({ · with changed := source.changed }) }

/-- the content of one file written to another -/
def transfer (input output : Nat) (source target : Octets) : Exec Nat := do
  let use (_ : Option SystemError) (block : Octets) : Exec (ForInStep (Option SystemError)) := do
    match ← write? output block with
    | .ok () => return .yield none
    | .error e => return .done (some e)
  match ← eachBlock input blockSize use manyTimes none with
  | (some e, _) => do
    say s!"error writing {quotedName target}: {e.words}"
    return 1
  | (none, some e) => do
    say s!"error reading {quotedName source}: {e.words}"
    return 1
  | (none, none) => return 0

/-- a file copied to a target where something may be that is no directory -/
def copyFile (w : Wish) (source target : Octets) (status : Status) : Exec Nat := do
  let refuse (message : String) : Exec Nat := do
    say message
    return 1
  match ← openFile source { reads := true } with
  | .error e => refuse s!"cannot open {quotedName source} for reading: {e.words}"
  | .ok input => withOpened input fun input => do
    let isNew := (← entryAt target).toOption.isNone
    if isNew && Path.endsInSlash target then
      return ← refuse s!"cannot create regular file {quotedName target}: {SystemError.notDirectory.words}"
    match ← openFile target { writes := true, truncates := !w.onlyAttributes } with
    | .error e => refuse s!"cannot create regular file {quotedName target}: {e.words}"
    | .ok output => withOpened output fun output => do
      let result ← if w.onlyAttributes then pure 0 else transfer input output source target
      if let some place ← placeOf? target then giveAttributes w isNew status place
      return result

/-- what is there already may be written over -/
def mayOverwrite (w : Wish) (source target : Octets) : Exec (Except Nat Unit) := do
  match w.overwriting, ← inspect source, ← inspect target with
  | .none, _, _ => return .error 0
  | .older, .ok s, .ok t =>
    if s.changed ≤ t.changed then return .error 0
    else if w.asks then return if ← isAgreed s!"overwrite {quotedName target}? " then .ok () else .error 1
    else return .ok ()
  | _, _, _ =>
    if w.asks then return if ← isAgreed s!"overwrite {quotedName target}? " then .ok () else .error 1
    else return .ok ()

/-- something that is no directory copied -/
def copyPlain (w : Wish) (made : Made) (source target : Octets) (status : Status) : Exec (Made × Nat) := do
  match ← inspect target, ← placeOf? target with
  | .ok old, some place =>
    if old.target = status.target && status.kind ≠ .device then
      refuse made s!"{quotedName source} and {quotedName target} are the same file"
    else if old.kind = .directory then
      refuse made s!"cannot overwrite directory {quotedName target} with non-directory"
    else if made.contains place && w.backup ≠ .numbered then
      refuse made s!"will not overwrite just-created {quotedName target} with {quotedName source}"
    else match ← mayOverwrite w source target with
      | .error status => return (made, status)
      | .ok () => do
        let kept ← match ← entryAt target with
          | .ok (.file content mode) => putAside w target place (.file content mode)
          | _ => pure none
        tellCopy w source target kept
        return (place :: made, ← copyFile w source target status)
  | _, _ => do
    tellCopy w source target none
    let result ← copyFile w source target status
    return ((← placeOf? target).toList ++ made, result)

/-- the directory that a directory is copied to, made if it is not there; whether it is new -/
def directoryFor (source target : Octets) : Exec (Except String (Bool × Location)) := do
  match ← entryAt target, ← placeOf? target with
  | .ok .directory, some place => return .ok (false, place)
  | .ok _, _ =>
    return .error s!"cannot overwrite non-directory {quotedName target} with directory {quotedName source}"
  | .error _, _ => do
    let w ← lookWorld id
    match w.placeToWrite (Octets.toText (withoutSlashes target)) with
    | .error e => return .error s!"cannot create directory {quotedName target}: {e.words}"
    | .ok place => do
      let _ ← changeWorld fun world => .ok (world.put place .directory)
      return .ok (true, place)

/-- something copied, with all that is below it -/
def copyUnder (w : Wish) : Nat → Made → Octets → Octets → Exec (Made × Nat)
  | 0, made, _, _ => return (made, 0)
  | n + 1, made, source, target => do
    match ← inspect source, ← placeOf? source with
    | .error e, _ => refuse made s!"cannot stat {quotedName source}: {e.words}"
    | .ok status, none => copyPlain w made source target status
    | .ok status, some origin =>
      if status.kind ≠ .directory then copyPlain w made source target status
      else if !w.recursive then refuse made s!"-r not specified; omitting directory {quotedName source}"
      else if made.contains origin then
        refuse made s!"cannot copy a directory, {quotedName w.top.1}, into itself, {quotedName w.top.2}"
      else
        match ← directoryFor source target with
        | .error message => refuse made message
        | .ok (isNew, place) => do
          if w.tells && isNew then tellCopy w source target none
          let mut made := if isNew then place :: made else made
          let mut result := 0
          for name in ← namesIn origin do
            let (m, r) ← copyUnder w n made (below source name) (below target name)
            made := m
            result := max result r
          giveAttributes w isNew status place
          return (made, result)

/-! ## Arguments -/

/-- arguments copied one after the other, each to a target of its own; a source counts once -/
def copyAll (w : Wish) (targetOf : Octets → Exec (Except Nat Octets)) : List Octets → List Target → Made → Nat →
    Exec Nat
  | [], _, _, status => return status
  | source :: rest, seen, made, status => do
    let found := (← inspect source).toOption
    match found.filter fun s => seen.contains s.target && w.backup = .none with
    | some s => do
      let kind := if s.kind = .directory then "directory" else "file"
      if s.kind = .directory && !w.recursive then
        say s!"-r not specified; omitting directory {quotedName source}"
        copyAll w targetOf rest seen made 1
      else
        say s!"warning: source {kind} {quotedName source} specified more than once"
        copyAll w targetOf rest seen made status
    | none => do
      match ← targetOf source with
      | .error e => copyAll w targetOf rest seen made (max status e)
      | .ok target => do
        let (made, result) ← copyUnder { w with top := (source, target) } 1000 made source target
        copyAll w targetOf rest ((found.map (·.target)).toList ++ seen) made (max status result)

/-- the directories on the way to a source made below a directory, as they are there -/
def makeWay (w : Wish) (dir : Octets) : Octets → List Octets → Exec (Except Nat Unit)
  | _, [] => return .ok ()
  | _, [_] => return .ok ()
  | way, name :: rest => do
    let source := if way = [] then name else below way name
    let target := below dir source
    match ← inspect source, ← entryAt target with
    | .error e, _ => do
      say s!"failed to get attributes of {quotedName source}: {e.words}"
      return .error 1
    | .ok _, .ok .directory => makeWay w dir source rest
    | .ok _, .ok _ => do
      say s!"{quotedName target} exists but is not a directory"
      return .error 1
    | .ok status, .error _ => do
      match (← lookWorld id).placeToWrite (Octets.toText target) with
      | .error e => do
        say s!"cannot make directory {quotedName target}: {e.words}"
        return .error 1
      | .ok place => do
        let _ ← changeWorld fun world => .ok (world.put place .directory)
        if w.tells then print (source ++ " -> ".toList ++ target ++ ['\n'])
        giveAttributes w true status place
        makeWay w dir source rest

def known : List Known :=
  [⟨'a', "archive", .nothing, true⟩, ⟨'A', "attributes-only", .nothing, false⟩, ⟨'b', "", .nothing, true⟩,
    ⟨'B', "backup", .perhaps, false⟩, ⟨'d', "", .nothing, true⟩, ⟨'f', "force", .nothing, true⟩,
    ⟨'i', "interactive", .nothing, true⟩, ⟨'l', "link", .nothing, true⟩, ⟨'L', "dereference", .nothing, true⟩,
    ⟨'n', "no-clobber", .nothing, true⟩, ⟨'P', "no-dereference", .nothing, true⟩, ⟨'H', "", .nothing, true⟩,
    ⟨'p', "", .nothing, true⟩, ⟨'k', "preserve", .perhaps, false⟩, ⟨'K', "no-preserve", .something, false⟩,
    ⟨'y', "parents", .nothing, false⟩, ⟨'r', "recursive", .nothing, true⟩, ⟨'R', "", .nothing, true⟩,
    ⟨'e', "remove-destination", .nothing, false⟩, ⟨'w', "strip-trailing-slashes", .nothing, false⟩,
    ⟨'s', "symbolic-link", .nothing, true⟩, ⟨'S', "suffix", .something, true⟩,
    ⟨'t', "target-directory", .something, true⟩, ⟨'T', "no-target-directory", .nothing, true⟩,
    ⟨'u', "", .nothing, true⟩, ⟨'U', "update", .perhaps, false⟩, ⟨'v', "verbose", .nothing, true⟩,
    ⟨'x', "one-file-system", .nothing, true⟩, ⟨'Z', "context", .nothing, true⟩, ⟨'q', "reflink", .perhaps, false⟩,
    ⟨'z', "sparse", .something, false⟩, ⟨'c', "copy-contents", .nothing, false⟩, ⟨'D', "debug", .nothing, false⟩]

def backups : Choice Backup :=
  [("none", .none), ("off", .none), ("simple", .simple), ("never", .simple), ("existing", .existing),
    ("nil", .existing), ("numbered", .numbered), ("t", .numbered)]

def updates : Choice Overwriting := [("all", .all), ("none", .none), ("older", .older)]

def attributes : Choice Char :=
  [("mode", 'm'), ("timestamps", 't'), ("ownership", 'o'), ("links", 'l'), ("context", 'c'), ("xattr", 'x'),
    ("all", 'a')]

/-- a list of attributes refused for the first of them that there is not -/
def refuseAttributes? (what : String) (g : Given) : Option Refusal :=
  (g.value.bind fun words => (Text.splitOn ',' words).findSome? (attributes.refusal? what)).map fun message => { message }

/-- an option refused for its argument -/
def refuse? (g : Given) : Option Refusal :=
  match g.key with
  | 'U' => updates.refuse? "--update" g
  | 'k' => refuseAttributes? "--preserve" g
  | 'K' => refuseAttributes? "--no-preserve" g
  | 'z' => Choice.refuse? [("never", 0), ("auto", 1), ("always", 2)] "--sparse" g
  | 'q' => Choice.refuse? [("auto", 0), ("always", 1), ("never", 2)] "--reflink" g
  | _ => none

/-- how files are kept that would be written over: as the option says, or else the environment -/
def backupOf (a : Arguments) (valueOf : String → Option Octets) : Except String Backup :=
  let read (what : String) (word : Octets) : Except String Backup :=
    match backups.refusal? what word with
    | some message => .error message
    | none => .ok ((backups.meaning? word).getD .none)
  if !a.hasAny "bBS" then .ok .none
  else match (a.value? 'B').filter (· ≠ []), (valueOf "VERSION_CONTROL").filter (· ≠ []) with
    | some word, _ => read "backup type" word
    | none, some word => read "$VERSION_CONTROL" word
    | none, none => .ok .existing

/-- whether an attribute is kept, by the option given last that is about it -/
def keeps (a : Arguments) (which : Char) (byDefault : Bool) : Bool :=
  a.given.foldl (fun kept g =>
    let isNamed := ((g.value.map fun words => Text.splitOn ',' words).getD []).any fun word =>
      match attributes.meaning? word with
      | some c => c = which || c = 'a'
      | none => false
    match g.key with
    | 'a' => true
    | 'p' => kept || byDefault
    | 'k' => kept || (if g.value.isNone then byDefault else isNamed)
    | 'K' => kept && !isNamed
    | _ => kept) false

/-- what the last option about updates says -/
def overwritingOf (a : Arguments) : Overwriting :=
  match (a.given.filter fun g => g.key = 'U' || g.key = 'u').getLast? with
  | some ⟨'U', some word⟩ => (updates.meaning? word).getD .all
  | some _ => .older
  | none => .all

def wishOf (a : Arguments) (backup : Backup) (valueOf : String → Option Octets) : Wish :=
  let lastAsking := a.last? "in"
  let suffix := (a.value? 'S').orElse fun _ => valueOf "SIMPLE_BACKUP_SUFFIX"
  { recursive := a.hasAny "rRa"
    keepsMode := keeps a 'm' true
    dropsMode := a.given.any fun g => g.key = 'K' && (g.value.getD []).take 4 = "mode".toList
    keepsTime := keeps a 't' true
    asks := lastAsking = some 'i'
    overwriting := if lastAsking = some 'n' then .none else overwritingOf a
    removesFirst := a.has 'e'
    backup
    suffix := suffix.getD ['~']
    tells := a.hasAny "vD"
    onlyAttributes := a.has 'A' }

/-- sources copied into a directory -/
def copyInto (w : Wish) (withWay : Bool) (dir : Octets) (sources : List Octets) : Exec Nat :=
  let targetOf (source : Octets) : Exec (Except Nat Octets) := do
    if withWay then
      let names := (Text.splitOn '/' source).filter (· ≠ [])
      match ← makeWay w dir [] names with
      | .error e => return .error e
      | .ok () => return .ok (below dir (['/'].intercalate names))
    else
      let base := baseName source
      return .ok (if base = ['.', '.'] then dir else below dir base)
  copyAll w targetOf sources [] [] 0

def isDirectory (name : Octets) : Exec Bool := return (← entryAt name).toOption = some .directory

/-- what operands ask for -/
inductive Goal where
  /-- each of the sources under its own name into a directory -/
  | into (dir : Octets) (sources : List Octets)
  /-- the one source to a target -/
  | to (target source : Octets)
  deriving DecidableEq, Repr

/-- what the operands ask for, as far as it is clear which are sources and which is the target; else a status -/
def goalOf (a : Arguments) (operands : List Octets) : Exec (Except Nat Goal) := do
  let fail (message : String) : Exec (Except Nat Goal) := do
    say message
    return .error 1
  match a.value? 't', operands.reverse with
  | _, [] => return .error (← misused "missing file operand")
  | some dir, _ => do
    if a.has 'T' then return ← fail "cannot combine --target-directory (-t) and --no-target-directory (-T)"
    match ← entryAt dir with
    | .ok .directory => return .ok (.into dir operands)
    | .ok _ => fail s!"target directory {quotedName dir}: {SystemError.notDirectory.words}"
    | .error e => fail s!"target directory {quotedName dir}: {e.words}"
  | none, [one] => return .error (← misused s!"missing destination file operand after {quotedName one}")
  | none, target :: sources => do
    let isInto ← if a.has 'T' then pure false else isDirectory target
    if a.has 'T' && 1 < sources.length then
      return .error (← misused s!"extra operand {quotedName (operands.getD 2 [])}")
    else if isInto then return .ok (.into target sources.reverse)
    else if 1 < sources.length then
      match ← entryAt target with
      | .ok _ => fail s!"target {quotedName target}: {SystemError.notDirectory.words}"
      | .error e => fail s!"target {quotedName target}: {e.words}"
    else return .ok (.to target (sources.headD []))

/-- sources copied to their targets; a file that is copied to itself by force is copied to the name under which it would
be kept -/
def copyOperands (a : Arguments) (w : Wish) (operands : List Octets) : Exec Nat := do
  match ← goalOf a operands with
  | .error status => return status
  | .ok (.into dir sources) => copyInto w (a.has 'y') dir sources
  | .ok (.to target source) =>
    if a.has 'y' then misused "with --parents, the destination must be a directory"
    else
      let regular := (← inspect source).toOption.filter fun s => s.kind = .regular
      match if a.has 'f' && source = target then regular else none, ← placeOf? target with
      | some _, some place => do
        let target := (← backupName? w target place).getD target
        copyAll { w with backup := .none } (fun _ => return .ok target) [source] [] [] 0
      | _, _ => copyAll w (fun _ => return .ok target) [source] [] [] 0

def run (args : List Octets) : Exec Nat :=
  withArguments known args (fun a => do
    let environment ← gets (·.me.environment)
    let valueOf (name : String) : Option Octets := environment.lookup name.toList
    match backupOf a valueOf with
    | .error message => misused message
    | .ok backup => do
      let w := wishOf a backup valueOf
      if a.has 'n' then
        say "warning: behavior of -n is non-portable and may change in future; use --update=none instead"
      let operands := if a.has 'w' then a.operands.map withoutSlashes else a.operands
      let status ← copyOperands a w operands
      giveBackInput
      return status) false 1 refuse?

end RunnableDocs.Machine.Tool.Copy
