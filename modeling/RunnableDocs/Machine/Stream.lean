/-
Reading and writing through descriptors, and opening files.

Reading from a pipe waits until there is something or nobody is left to write; writing waits for room, and is punished
by a signal when nobody is left to read. What a tool prints is collected and handed on in large pieces, and at its end.
-/
import RunnableDocs.Machine.Exec

namespace RunnableDocs.Machine.Exec

open Text (Bytes)

/-- what a descriptor of the process at work leads to -/
def openedAt? (fd : Nat) : Exec (Option Opened) := gets fun s =>
  (s.me.descriptor? fd).bind fun d => s.opened? d.opened

/-! ## Reading -/

/-- octets that can be read now or will be when somebody has written them; nothing means that there will be no more.
They are not taken out. -/
def peekOf (o : Opened) : Exec (Except SystemError Octets) :=
  if !o.mayRead then pure (.error .badDescriptor)
  else match o.target with
    | .device .terminal => pure (.error .noDevice)
    | .device .null => pure (.ok [])
    | .device _ => pure (.ok (List.replicate Pipe.capacity '\x00'))
    | .directory _ => pure (.error .isDirectory)
    | .writing _ => pure (.error .badDescriptor)
    | .reading pipe => retry manyTimes (do
        match ← gets (·.pipe? pipe) with
        | none => pure (some (.ok []))
        | some p =>
          if p.size ≠ 0 then pure (some (.ok p.content))
          else if !(← gets (·.hasWriter pipe)) then pure (some (.ok []))
          else do
            await (.input pipe)
            pure none) (.ok [])
    | target => gets fun s => .ok (Octets.ofBytes ((s.contentOf target).drop o.offset))

/-- octets taken out of what a descriptor leads to, or passed over -/
def skipOf (o : Opened) (n : Nat) : Exec Unit := modify fun s =>
  match o.target with
  | .reading pipe => match s.pipe? pipe with
    | some p => s.setPipe (p.take n).2
    | none => s
  | .device _ => s
  | _ => s.setOpened { o with offset := o.offset + n }

def peek (fd : Nat) : Exec (Except SystemError Octets) := do
  match ← openedAt? fd with
  | none => pure (.error .badDescriptor)
  | some o => peekOf o

def skip (fd n : Nat) : Exec Unit := do
  if let some o ← openedAt? fd then skipOf o n

/-- at most so many octets read; nothing at the end -/
def readSome (fd n : Nat) : Exec (Except SystemError Octets) := do
  match ← openedAt? fd with
  | none => pure (.error .badDescriptor)
  | some o =>
    match o.mayRead, o.target with
    | true, .file place => do
      let taken ← gets fun s => ((s.contentOf (.file place)).drop o.offset).take n
      skipOf o taken.length
      return .ok (Octets.ofBytes taken)
    | _, _ => match ← peekOf o with
      | .error e => return .error e
      | .ok available => do
        let taken := available.take n
        skipOf o taken.length
        return .ok taken

/-! ## Writing -/

/-- octets written to a pipe, in one piece if they are few -/
def writePipe (pipe : Nat) : Nat → Octets → Exec (Except SystemError Unit)
  | 0, _ => pure (.ok ())
  | n + 1, o => do
    if o = [] then return .ok ()
    if !(← gets (·.hasReader pipe)) then
      let id ← gets (·.me.id)
      send id Signal.brokenPipe
      return .error .brokenPipe
    else
      match ← gets (·.pipe? pipe) with
      | none => return .error .brokenPipe
      | some p =>
        let length := o.length
        if length ≤ p.room then
          modify (·.setPipe (p.add o))
          return .ok ()
        else if p.room = 0 || length ≤ Pipe.atom then
          await (.room pipe (min length Pipe.atom))
          writePipe pipe n o
        else
          let room := p.room
          modify (·.setPipe (p.add (o.take room)))
          writePipe pipe n (o.drop room)

/-- the content of a file with octets written over it from a place on -/
def overwritten (content : Bytes) (offset : Nat) (bytes : Bytes) : Bytes :=
  if offset = content.length then content ++ bytes
  else content.take offset ++ List.replicate (offset - content.length) 0 ++ bytes ++
    content.drop (offset + bytes.length)

/-- octets written to what a descriptor leads to -/
def write? (fd : Nat) (o : Octets) : Exec (Except SystemError Unit) := do
  match ← openedAt? fd with
  | none => return .error .badDescriptor
  | some opened =>
    if !opened.mayWrite then return .error .badDescriptor
    else if o = [] then return .ok ()
    else match opened.target with
      | .device .full => return .error .noSpace
      | .device .terminal => return .error .noDevice
      | .device _ => return .ok ()
      | .directory _ => return .error .isDirectory
      | .reading _ => return .error .badDescriptor
      | .writing pipe => writePipe pipe manyTimes o
      | target => do
        modify fun s =>
          let content := s.contentOf target
          let bytes := Octets.toBytes o
          let offset := if opened.appends then content.length else opened.offset
          (s.setContent target (overwritten content offset bytes)).setOpened
            { opened with offset := offset + bytes.length }
        return .ok ()

/-- octets written, whatever becomes of them -/
def write (fd : Nat) (o : Octets) : Exec Unit := do
  let _ ← write? fd o

/-- a message on the error stream; its characters stand for octets -/
def complain (message : String) : Exec Unit := write 2 message.toList

/-! ## Printing -/

/-- what is collected before it is handed on -/
def printSize : Nat := 4096

/-- what has been printed so far handed on; an error from before counts too -/
def flush : Exec (Except SystemError Unit) := do
  let p ← gets (·.me)
  changeMe fun p => { p with printed := [], printedSize := 0, printError := none }
  match ← write? 1 p.printed.reverse.flatten, p.printError with
  | .error e, _ => return .error e
  | .ok (), some e => return .error e
  | .ok (), none => return .ok ()

/-- something printed: it is collected until there is enough of it -/
def print (o : Octets) : Exec Unit := do
  changeMe fun p => { p with printed := o :: p.printed, printedSize := p.printedSize + o.length }
  if printSize ≤ (← gets (·.me.printedSize)) then
    if let .error e ← flush then changeMe fun p => { p with printError := some e }

/-! ## Opening -/

/-- what a file is opened for -/
structure Access where
  reads : Bool := false
  writes : Bool := false
  /-- what it holds is dropped -/
  truncates : Bool := false
  appends : Bool := false
  /-- it must not be there yet -/
  isNew : Bool := false
  deriving DecidableEq, Repr

/-- the permissions that the process at work gives to what it makes, of those asked for -/
def permitted (mode : Nat) : Exec Nat := gets fun s => mode - (mode &&& s.me.mask)

def openTarget (target : Target) (a : Access) : Exec (Except SystemError Nat) :=
  modifyGet fun s =>
    let (s, n) := s.open_ target a.reads a.writes a.appends
    (.ok n, s)

/-- what is open already opened once more -/
def reopen (fd : Nat) (a : Access) : Exec (Except SystemError Nat) := do
  match ← openedAt? fd with
  | none => return .error .noEntry
  | some o =>
    match o.target with
    | .reading pipe => openTarget (if a.writes then .writing pipe else .reading pipe) a
    | .writing pipe => openTarget (if a.writes then .writing pipe else .reading pipe) a
    | target => do
      if a.truncates then modify (·.setContent target [])
      openTarget target a

/-- something that is there opened; a file that is to be written may have to be made first -/
def openEntry (place : Location) (a : Access) : Option Entry → Exec (Except SystemError Nat)
  | some .directory => if a.writes then return .error .isDirectory else openTarget (.directory place) a
  | some (.device (.descriptor fd)) => reopen fd a
  | some (.device .terminal) => return .error .noDevice
  | some (.device d) => openTarget (.device d) a
  | some (.tool _) => if a.writes then return .error .accessDenied else openTarget (.file place) a
  | some (.file _ _) =>
    if a.isNew then return .error .alreadyExists
    else do
      if a.truncates then modify (·.setContent (.file place) [])
      openTarget (.file place) a
  | none =>
    if !a.writes then return .error .noEntry
    else do
      let mode ← permitted 0o666
      modify fun s => { s with world := s.world.put place (.file [] mode) }
      openTarget (.file place) a

/-- a file opened, and made where it is to be written -/
def openFile (path : Octets) (a : Access) : Exec (Except SystemError Nat) := do
  let w ← lookWorld id
  let p := Octets.toText path
  if a.writes then
    match w.placeToWrite p with
    | .error e => return .error e
    | .ok place => openEntry place a (w.find? place)
  else
    match w.at? p, w.resolve p with
    | .ok e, .ok place => openEntry place a (some e)
    | .error e, _ => return .error e
    | _, .error e => return .error e

/-! ## Descriptors -/

def setDescriptor (fd opened : Nat) : Exec Unit := modify fun s =>
  (s.setDescriptor { number := fd, opened }).collect

def closeDescriptor (fd : Nat) : Exec Unit := modify (·.closeDescriptors (·.number = fd))

/-- something that is open used through a descriptor of its own, which is closed afterwards -/
def withOpened {α : Type} (opened : Nat) (use : Nat → Exec α) : Exec α := do
  let fd ← gets (·.freeNumber 0)
  setDescriptor fd opened
  let r ← settled (use fd)
  closeDescriptor fd
  match r with
  | .ok a => return a
  | .error e => throw e

end RunnableDocs.Machine.Exec
