/-
What directories hold, listed: names in order, one a line, in columns, or with all that is known of them.
-/
import RunnableDocs.Machine.Tool.Columns
import RunnableDocs.Machine.Tool.Date
import RunnableDocs.Machine.Tool.Permissions
import RunnableDocs.Machine.Tool.Quoting
import RunnableDocs.Machine.Tool.Size
import RunnableDocs.Machine.Tool.Tree
import RunnableDocs.Shell.Pattern

namespace RunnableDocs.Machine.Tool.Listing

open Exec

/-! ## What is asked for -/

inductive Layout where
  | single
  | long
  | downwards
  | across
  | commas
  deriving DecidableEq, Repr

inductive Order where
  | name
  | time
  | size
  | ending
  | version
  | width
  | none
  deriving DecidableEq, Repr

/-- what is put behind names to tell of their kinds -/
inductive Marking where
  | none
  | directories
  | types
  | all
  deriving DecidableEq, Repr

inductive Stamp where
  | plain
  | full
  | longNumbers
  | numbers
  | custom (format : Octets)
  deriving DecidableEq, Repr

structure Style where
  layout : Layout
  order : Order
  isReversed : Bool
  quoting : Quoting
  marking : Marking
  stamp : Stamp
  showsHidden : Bool
  showsDots : Bool
  /-- names that end in a tilde are left out -/
  hidesBackups : Bool
  hidden : List Octets
  onlyThemselves : Bool
  recursive : Bool
  showsOwner : Bool
  showsGroup : Bool
  isNumeric : Bool
  showsAuthor : Bool
  showsContext : Bool
  showsBlocks : Bool
  showsNumbers : Bool
  /-- how sizes of files are shown, and those of the blocks that they take -/
  sizeScale : Size.Scale
  blockScale : Size.Scale
  directoriesFirst : Bool
  page : Columns.Page
  now : Int

/-- the octets in a block -/
def blockSize : Nat := 4096

def Style.isInColumns (s : Style) : Bool := s.layout = .downwards || s.layout = .across

/-- something to be listed -/
structure Item where
  name : Octets
  status : Status
  links : Nat
  isLink : Bool := false

/-! ## Items -/

/-- the octets that are kept for something -/
def keptFor (s : Status) : Nat := if s.kind = .device then 0 else Size.ceilDiv s.size blockSize * blockSize

/-- the item of a name that leads to something -/
def itemAt (name path : Octets) : Exec (Except SystemError Item) := do
  match ← inspect path with
  | .error e => return .error e
  | .ok status => do
    let w ← lookWorld id
    let inside := match status.target with
      | .directory place => (w.childrenAt place).filter fun n => w.isDirectoryAt (place ++ [n])
      | _ => []
    let links := if status.kind = .directory then inside.length + 2 else 1
    return .ok { name, status, links, isLink := w.isLink (Octets.toText path) }

/-- digits in a name count as numbers; capitals stand before small letters -/
def versionKey : Nat → Octets → List (Nat × Nat)
  | 0, _ => []
  | _ + 1, [] => []
  | n + 1, c :: rest =>
    if c.isDigit then
      let digits := (c :: rest).takeWhile Char.isDigit
      (1, (Octets.toNat? digits).getD 0) :: versionKey n ((c :: rest).drop digits.length)
    else (if c = '~' then 0 else if c.isAlpha then 2 else 3, c.toNat) :: versionKey n rest

def keyLess : List (Nat × Nat) → List (Nat × Nat) → Bool
  | [], [] => false
  | [], _ :: _ => true
  | _ :: _, [] => false
  | a :: as, b :: bs =>
    if a = b then keyLess as bs else a.1 < b.1 || (a.1 = b.1 && a.2 < b.2)

/-- what follows the last dot of a name, with the dot -/
def ending (name : Octets) : Octets :=
  if name.contains '.' then '.' :: (name.reverse.takeWhile (· ≠ '.')).reverse else []

def isBefore (order : Order) (a b : Item) : Bool :=
  let byName := !Text.inOrder b.name a.name
  match order with
  | .name => byName
  | .none => byName
  | .time => b.status.changed < a.status.changed || (a.status.changed = b.status.changed && byName)
  | .size => b.status.size < a.status.size || (a.status.size = b.status.size && byName)
  | .ending =>
    let (x, y) := (ending a.name, ending b.name)
    if x = y then byName else !Text.inOrder y x
  | .width =>
    let (x, y) := (Columns.room a.name, Columns.room b.name)
    x < y || (x = y && byName)
  | .version =>
    let (x, y) := (versionKey (a.name.length + 1) a.name, versionKey (b.name.length + 1) b.name)
    if x = y then byName else keyLess x y

def Style.sorted (s : Style) (items : List Item) : List Item :=
  let inOrder := items.mergeSort fun a b => !(isBefore s.order b a)
  let inOrder := if s.isReversed && s.order ≠ .none then inOrder.reverse else inOrder
  if s.directoriesFirst then
    inOrder.filter (·.status.kind = .directory) ++ inOrder.filter (·.status.kind ≠ .directory)
  else inOrder

/-! ## Names -/

/-- the mark behind a name -/
def Style.markOf (s : Style) (i : Item) : Octets :=
  match s.marking, i.status.kind with
  | .none, _ => []
  | _, .directory => ['/']
  | .directories, _ => []
  | m, kind =>
    if i.isLink then ['@']
    else if kind = .pipe then ['|']
    else if m = .all && kind = .regular && i.status.mode &&& 0o111 ≠ 0 then ['*']
    else []

def Style.blocks (s : Style) (i : Item) : Octets := s.blockScale.shown (keptFor i.status)

/-- text on the right of a field -/
def onRight (width : Nat) (t : Octets) : Octets := List.replicate (width - t.length) ' ' ++ t

def widest (ts : List Octets) : Nat := (ts.map (·.length)).foldl max 0

/-- a name as it is written, among others of which some may need quotes -/
def Style.title (s : Style) (someQuoted : Bool) (i : Item) : Octets :=
  let shown := s.quoting.shown i.name
  (if someQuoted && shown = i.name then [' '] else []) ++ shown ++ s.markOf i

/-- names are moved by the width of a quote, because some need quotes -/
def Style.makesRoom (s : Style) (items : List Item) : Bool :=
  s.quoting.isAligned && (s.layout = .long || (s.isInColumns && s.page.width ≠ 0)) &&
    items.any fun i => s.quoting.shown i.name ≠ i.name

/-- names with what stands before and behind them -/
def Style.decorated (s : Style) (items : List Item) : List Octets :=
  let width := widest (items.map s.blocks)
  let someQuoted := s.makesRoom items
  items.map fun i =>
    let number := if s.showsNumbers then "1 ".toList else []
    let size := if s.showsBlocks then
        (if s.layout = .commas then s.blocks i else onRight width (s.blocks i)) ++ [' ']
      else []
    number ++ size ++ (if s.showsContext then "? ".toList else []) ++ s.title someQuoted i

/-! ## Long lines -/

def kindLetter (i : Item) : Char :=
  match i.status.kind with
  | .directory => 'd'
  | .device => 'c'
  | .pipe => 'p'
  | .regular => '-'

/-- a moment in a format of letters behind percent signs -/
def dated (moment : Int) : Octets → Octets
  | [] => []
  | '%' :: c :: rest =>
    let (d, seconds) := Date.split moment
    let text := match c with
      | 'Y' => toString d.year
      | 'm' => Date.twoDigits d.month
      | 'd' => Date.twoDigits d.day
      | 'e' => (if d.day < 10 then " " else "") ++ toString d.day
      | 'H' => Date.twoDigits (seconds / 3600)
      | 'M' => Date.twoDigits (seconds / 60 % 60)
      | 'S' => Date.twoDigits (seconds % 60)
      | 'b' => Date.monthNames.getD (d.month - 1) ""
      | 'y' => Date.twoDigits (d.year.toNat % 100)
      | 's' => toString moment
      | 'F' => s!"{d.year}-{Date.twoDigits d.month}-{Date.twoDigits d.day}"
      | 'T' => s!"{Date.twoDigits (seconds / 3600)}:{Date.twoDigits (seconds / 60 % 60)}:{Date.twoDigits (seconds % 60)}"
      | 'R' => s!"{Date.twoDigits (seconds / 3600)}:{Date.twoDigits (seconds / 60 % 60)}"
      | 'n' => "\n"
      | '%' => "%"
      | c => String.ofList ['%', c]
    text.toList ++ dated moment rest
  | c :: rest => c :: dated moment rest

/-- the nanoseconds of a time in milliseconds -/
def nanoseconds (time : Int) : Octets :=
  let n := (time.fmod 1000).toNat
  let d := Octets.ofNat n
  List.replicate (3 - d.length) '0' ++ d ++ List.replicate 6 '0'

def Style.stampOf (s : Style) (time : Int) : Octets :=
  let moment := time.fdiv 1000
  let isRecent := s.now - Date.halfYear < moment && moment ≤ s.now
  match s.stamp with
  | .plain => (Date.listed s.now moment).toList
  | .full => dated moment "%F %T.".toList ++ nanoseconds time ++ " +0000".toList
  | .longNumbers => dated moment "%F %R".toList
  | .numbers => dated moment (if isRecent then "%m-%d %R" else "%F ").toList
  | .custom format => dated moment format

def deviceNumbers (s : Status) : Octets :=
  (match s.target with
    | .device .null => "1, 3"
    | .device .zero => "1, 5"
    | .device .full => "1, 7"
    | _ => "5, 0").toList

def Style.sizeOf (s : Style) (i : Item) : Octets :=
  if i.status.kind = .device then deviceNumbers i.status else s.sizeScale.shown i.status.size

/-- items with all that is known of them; the others are not shown, but room is made for them -/
def Style.long (s : Style) (items others : List Item) : Octets :=
  let all := items ++ others
  let user := if s.isNumeric then "0".toList else "root".toList
  let links := widest (all.map fun i => Octets.ofNat i.links)
  let sizes := widest (all.map s.sizeOf)
  let blocks := widest (all.map s.blocks)
  let someQuoted := s.makesRoom all
  items.flatMap fun i =>
    (if s.showsNumbers then "1 ".toList else []) ++
      (if s.showsBlocks then onRight blocks (s.blocks i) ++ [' '] else []) ++
      kindLetter i :: (Permissions.shown i.status.mode).toList ++ ' ' :: onRight links (Octets.ofNat i.links) ++
      (if s.showsOwner then ' ' :: user else []) ++ (if s.showsGroup then ' ' :: user else []) ++
      (if s.showsAuthor then ' ' :: user else []) ++ (if s.showsContext then " ?".toList else []) ++
      ' ' :: onRight sizes (s.sizeOf i) ++ ' ' :: s.stampOf i.status.changed ++ ' ' ::
      s.title someQuoted i ++ [s.page.lineEnd]

/-- items in the layout that is asked for, with room for others -/
def Style.show_ (s : Style) (items others : List Item) : Octets :=
  if items.isEmpty then []
  else match s.layout with
    | .single => (s.decorated items).flatMap (· ++ [s.page.lineEnd])
    | .long => s.long items others
    | .commas => Columns.joined s.page ',' 0 (s.decorated items)
    | layout =>
      if s.page.width = 0 then [' ', ' '].intercalate (s.decorated items) ++ [s.page.lineEnd]
      else Columns.set_ s.page (layout = .downwards) (s.decorated items)

/-! ## Directories -/

/-- the names of a directory that are listed -/
def Style.chosen (s : Style) (place : Location) : Exec (List Octets) := do
  let all ← namesIn place
  let dots : List Octets := if s.showsDots && place ≠ World.removedPlace then [['.'], ['.', '.']] else []
  let isHidden (name : Octets) : Bool :=
    (name.head? = some '.' && !s.showsHidden) || (s.hidesBackups && name.getLast? = some '~') ||
      s.hidden.any fun p => Shell.Glob.covers (Shell.Glob.ofField (p.map (·, false))) name
  return dots ++ all.filter (!isHidden ·)

/-- directories listed one after the other, each under its title if they have titles; the status -/
def Style.directories (s : Style) (titles : Bool) : Nat → Bool → List Octets → Nat → Exec Nat
  | 0, _, _, status => return status
  | _ + 1, _, [], status => return status
  | n + 1, isFirst, name :: rest, status => do
    match ← placeOf? name with
    | none => s.directories titles n isFirst rest status
    | some place => do
      let items := (← (← s.chosen place).mapM fun inner => itemAt inner (below name inner)).filterMap (·.toOption)
      let items := s.sorted items
      let title := if titles then s.quoting.shown name ++ ":\n".toList else []
      let total := s.blockScale.shown (items.foldl (fun n i => n + keptFor i.status) 0)
      let head := if s.layout = .long || s.showsBlocks then "total ".toList ++ total ++ [s.page.lineEnd] else []
      print ((if isFirst || !titles then [] else ['\n']) ++ title ++ head ++ s.show_ items [])
      let isInner (i : Item) : Bool := i.status.kind = .directory && i.name ≠ ['.'] && i.name ≠ ['.', '.']
      let inner := if s.recursive then (items.filter isInner).map fun i => below name i.name else []
      s.directories titles n false (inner ++ rest) status

/-- arguments sorted into files and directories; those that lead nowhere are told of -/
def Style.collect (s : Style) : List Octets → Exec (List Item × List Item × Nat)
  | [] => return ([], [], 0)
  | name :: rest => do
    match ← itemAt name name with
    | .error e => do
      say s!"cannot access {quotedName name}: {e.words}"
      let (files, directories, _) ← s.collect rest
      return (files, directories, 2)
    | .ok i => do
      let (files, directories, status) ← s.collect rest
      if i.status.kind = .directory && !s.onlyThemselves then return (files, i :: directories, status)
      else return (i :: files, directories, status)

def Style.list (s : Style) (names : List Octets) : Exec Nat := do
  let (files, directories, status) ← s.collect names
  print (s.show_ (s.sorted files) directories)
  let titles := s.recursive || 1 < names.length || !files.isEmpty
  if !files.isEmpty && !directories.isEmpty then print ['\n']
  let entries ← lookWorld (·.entries.length)
  s.directories titles (entries + directories.length + 1) true ((s.sorted directories).map (·.name)) status

/-! ## Arguments -/

def known : List Known :=
  [⟨'a', "all", .nothing, true⟩, ⟨'A', "almost-all", .nothing, true⟩, ⟨'b', "escape", .nothing, true⟩,
    ⟨'B', "ignore-backups", .nothing, true⟩, ⟨'d', "directory", .nothing, true⟩, ⟨'F', "", .nothing, true⟩,
    ⟨'!', "classify", .perhaps, false⟩, ⟨'h', "human-readable", .nothing, true⟩, ⟨'i', "inode", .nothing, true⟩,
    ⟨'I', "ignore", .something, true⟩, ⟨'H', "dereference-command-line", .nothing, true⟩,
    ⟨'L', "dereference", .nothing, true⟩, ⟨'k', "kibibytes", .nothing, true⟩,
    ⟨'n', "numeric-uid-gid", .nothing, true⟩, ⟨'N', "literal", .nothing, true⟩, ⟨'G', "no-group", .nothing, true⟩,
    ⟨'q', "hide-control-chars", .nothing, true⟩, ⟨'Q', "quote-name", .nothing, true⟩,
    ⟨'r', "reverse", .nothing, true⟩, ⟨'R', "recursive", .nothing, true⟩, ⟨'s', "size", .nothing, true⟩,
    ⟨'T', "tabsize", .something, true⟩, ⟨'w', "width", .something, true⟩, ⟨'Z', "context", .nothing, true⟩,
    ⟨'@', "color", .perhaps, false⟩, ⟨'/', "file-type", .nothing, false⟩,
    ⟨'%', "group-directories-first", .nothing, false⟩, ⟨'$', "full-time", .nothing, false⟩,
    ⟨'=', "time-style", .something, false⟩, ⟨'&', "sort", .something, false⟩, ⟨'*', "format", .something, false⟩,
    ⟨'^', "indicator-style", .something, false⟩, ⟨'?', "hide", .something, false⟩,
    ⟨'"', "quoting-style", .something, false⟩, ⟨'0', "zero", .nothing, false⟩,
    ⟨';', "show-control-chars", .nothing, false⟩, ⟨'+', "si", .nothing, false⟩, ⟨'|', "time", .something, false⟩,
    ⟨'-', "author", .nothing, false⟩, ⟨'~', "hyperlink", .perhaps, false⟩, ⟨'#', "block-size", .something, false⟩,
    ⟨'_', "dereference-command-line-symlink-to-dir", .nothing, false⟩] ++ letters "CcDfglmoptuUvxXS1"

def layouts : Choice Layout :=
  [("verbose", .long), ("long", .long), ("commas", .commas), ("horizontal", .across), ("across", .across),
    ("vertical", .downwards), ("single-column", .single)]

def orders : Choice Order :=
  [("none", .none), ("time", .time), ("size", .size), ("extension", .ending), ("version", .version), ("width", .width)]

def markings : Choice Marking :=
  [("none", .none), ("slash", .directories), ("file-type", .types), ("classify", .all)]

/-- which time is meant; only that of the last change is kept -/
def times : Choice Nat :=
  [("atime", 0), ("access", 0), ("use", 0), ("ctime", 1), ("status", 1), ("mtime", 2), ("modification", 2),
    ("birth", 3), ("creation", 3)]

def stamps : Choice Stamp := [("full-iso", .full), ("long-iso", .longNumbers), ("iso", .numbers), ("locale", .plain)]

/-- scales by their names -/
def scales : Choice Nat := [("human-readable", 1024), ("si", 1000)]

/-- the status of a call that makes no sense -/
def failed : Nat := 2

/-- a number that is not negative, in base eight if it begins with a zero -/
def number? (t : Octets) : Option Nat :=
  if t.head? = some '0' && t.all Octets.isOctal then some (Octets.ofOctal t) else Octets.toNat? t

/-- the scale that a text names or writes -/
def scaleOf (t : Octets) : Except Size.Scale.Fault Size.Scale :=
  match scales.meaning? (t.dropWhile (· = '\'')) with
  | some base => .ok (.fitting base)
  | none => Size.Scale.ofOctets t

/-- an option refused for its argument -/
def refuse? (g : Given) : Option Refusal :=
  let word := quotedName (g.value.getD [])
  let plainly (message : String) : Option Refusal := some { message, isAdvised := false, status := failed }
  match g.key with
  | '*' => layouts.refuse? "--format" g
  | '&' => orders.refuse? "--sort" g
  | '^' => markings.refuse? "--indicator-style" g
  | '"' => Quoting.names.refuse? "--quoting-style" g
  | '|' => times.refuse? "--time" g
  | '@' => occasions.refuse? "--color" g
  | '!' => occasions.refuse? "--classify" g
  | '~' => occasions.refuse? "--hyperlink" g
  | 'w' => if (number? (g.value.getD [])).isNone then plainly s!"invalid line width: {word}" else none
  | 'T' => if (number? (g.value.getD [])).isNone then plainly s!"invalid tab size: {word}" else none
  | '#' => match scaleOf (g.value.getD []) with
    | .ok _ => none
    | .error .noNumber => plainly s!"invalid --block-size argument {word}"
    | .error .badUnit => plainly s!"invalid suffix in --block-size argument {word}"
    | .error .tooLarge => plainly s!"--block-size argument {word} too large"
  | _ => none

/-- the layout that options ask for, one after the other; a single column does not replace long lines -/
def layoutOf (a : Arguments) : Layout :=
  a.given.foldl (fun layout g => match g.key with
    | 'l' => .long
    | 'g' => .long
    | 'o' => .long
    | 'n' => .long
    | '$' => .long
    | 'C' => .downwards
    | 'x' => .across
    | 'm' => .commas
    | '1' => if layout = .long then .long else .single
    | '0' => if layout = .long then .long else .single
    | 'f' => if layout = .long then .single else layout
    | '*' => (layouts.meaning? (g.value.getD [])).getD layout
    | _ => layout) .single

def orderOf (a : Arguments) (layout : Layout) : Order :=
  let chosen := a.given.foldl (fun order g => match g.key with
    | 't' => some .time
    | 'S' => some .size
    | 'X' => some .ending
    | 'v' => some .version
    | 'U' => some .none
    | 'f' => some .none
    | '&' => (orders.meaning? (g.value.getD [])).or order
    | _ => order) (none : Option Order)
  chosen.getD (if a.hasAny "cu" && layout ≠ .long then .time else .name)

/-- the stamp that a text names, unless it is one that does not count here; or what is wrong with the text -/
def stampNamed (t : Octets) : Except String Stamp :=
  if "posix-".toList.isPrefixOf t then .ok .plain
  else match t with
    | '+' :: format => .ok (.custom format)
    | _ => match stamps.meaning t with
      | .one stamp => .ok stamp
      | m =>
        let how := if m = .none then "invalid" else "ambiguous"
        let names := String.join ((stamps.map fun n => "\n  - [posix-]" ++ n.1))
        .error (s!"{how} argument {quotedName t} for 'time style'\nValid arguments are:{names}" ++
          "\n  - +FORMAT (e.g., +%H:%M) for a 'date'-style format")

/-- the text that names a stamp: the argument given last, or else the variable for it -/
def stampText? (a : Arguments) (default? : Option Octets) : Option Octets :=
  match (a.given.filter fun g => g.key = '$' || g.key = '=').getLast? with
  | some ⟨'$', _⟩ => some "full-iso".toList
  | some g => g.value
  | none => default?

/-- the scales of files and of blocks that options ask for; the last one counts -/
def scalesOf (a : Arguments) : Size.Scale × Size.Scale :=
  a.given.foldl (fun (files, blocks) g => match g.key with
    | 'h' => (.fitting 1024, .fitting 1024)
    | '+' => (.fitting 1000, .fitting 1000)
    | '#' => match scaleOf (g.value.getD []) with
      | .ok scale => (scale, scale)
      | .error _ => (files, blocks)
    | _ => (files, blocks)) (.units 1 "", .units 1024 "")

def quotingOf (a : Arguments) : Quoting :=
  let chosen := a.given.foldl (fun q g => match g.key with
    | 'b' => .escaped
    | 'Q' => .between '"'
    | 'N' => .literal
    | '0' => .literal
    | '"' => (Quoting.names.meaning? (g.value.getD [])).getD q
    | _ => q) Quoting.literal
  if chosen = .literal && (a.last? "q;0").any (· = 'q') then .marked else chosen

def markingOf (a : Arguments) : Marking :=
  a.given.foldl (fun m g => match g.key with
    | 'F' => .all
    | '!' => if g.value.all fun v => occasions.meaning? v = some .always then .all else m
    | 'p' => .directories
    | '/' => .types
    | '^' => (markings.meaning? (g.value.getD [])).getD m
    | _ => m) .none

def styleOf (a : Arguments) (stamp : Stamp) (page : Columns.Page) (now : Int) : Style :=
  let (sizeScale, blockScale) := scalesOf a
  let layout := layoutOf a
  { layout
    order := orderOf a layout
    isReversed := a.has 'r'
    quoting := quotingOf a
    marking := markingOf a
    stamp
    showsHidden := a.hasAny "aAf"
    showsDots := (a.last? "aAf").any (· ≠ 'A')
    hidesBackups := a.has 'B'
    hidden := (a.given.filter fun g => g.key = 'I' || (g.key = '?' && !a.hasAny "aA")).filterMap (·.value)
    onlyThemselves := a.has 'd'
    recursive := a.has 'R' && !a.has 'd'
    showsOwner := !a.has 'g'
    showsGroup := !a.hasAny "oG"
    isNumeric := a.has 'n'
    showsAuthor := a.has '-'
    showsContext := a.has 'Z'
    showsBlocks := (a.last? "sf").any (· = 's')
    showsNumbers := a.has 'i'
    sizeScale
    blockScale
    directoriesFirst := a.has '%'
    page
    now }

/-- a number that an option gives, or else a variable; a variable that holds none is told of -/
def numberFrom (a : Arguments) (key : Char) (what variableName : String) : Exec (Option Nat) := do
  match a.value? key, (← gets (·.me.environment)).lookup variableName.toList with
  | some t, _ => return number? t
  | none, some [] => return none
  | none, some t => do
    if (number? t).isNone then say s!"ignoring invalid {what} in environment variable {variableName}: {quotedName t}"
    return number? t
  | none, none => return none

/-- the page that files are listed on -/
def pageOf (a : Arguments) : Exec Columns.Page := do
  let lineEnd := if a.has '0' then '\x00' else '\n'
  let layout := layoutOf a
  if layout = .single || layout = .long then return { lineEnd }
  let width ← numberFrom a 'w' "width" "COLUMNS"
  let tab ← numberFrom a 'T' "tab size" "TABSIZE"
  return { width := width.getD 80, tab := tab.getD 8, lineEnd }

def run (args : List Octets) : Exec Nat :=
  withArguments known args (fun a => do
    let page ← pageOf a
    let text := stampText? a ((← gets (·.me.environment)).lookup "TIME_STYLE".toList)
    match if layoutOf a = .long then stampNamed (text.getD "locale".toList) else .ok .plain with
    | .error message => misused message failed
    | .ok stamp => do
      let now ← lookWorld (·.now)
      let s := styleOf a stamp page (now.fdiv 1000)
      s.list (if a.operands = [] then [['.']] else a.operands)) false failed refuse?

end RunnableDocs.Machine.Tool.Listing
