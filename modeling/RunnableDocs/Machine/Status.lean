/-
What is known of a thing under a path without opening it.
-/
import RunnableDocs.Machine.Stream

namespace RunnableDocs.Machine

inductive Kind where
  | regular
  | directory
  | device
  | pipe
  deriving DecidableEq, Repr

structure Status where
  kind : Kind
  /-- what it is: two paths with the same target lead to the same thing -/
  target : Target
  mode : Nat
  size : Nat := 0
  changed : Int := 0
  deriving DecidableEq, Repr

/-- the size that a directory has -/
def directorySize : Nat := 4096

namespace Status

def ofPlace (w : World) (place : Location) : Option Status :=
  let changed := ((w.placed? place).map (·.changed)).getD 0
  let mode := w.modeAt place
  match w.find? place with
  | none =>
    if place = World.removedPlace then some ⟨.directory, .directory place, 0o755, 0, w.now⟩ else none
  | some .directory => some ⟨.directory, .directory place, mode, directorySize, changed⟩
  | some (.file content _) => some ⟨.regular, .file place, mode, content.length, changed⟩
  | some (.tool _) => some ⟨.regular, .file place, mode, World.toolContent.length, changed⟩
  | some (.device d) => some ⟨.device, .device d, mode, 0, changed⟩

/-- the status of what is open -/
def ofTarget (s : State) : Target → Option Status
  | .device d => some ⟨.device, .device d, 0o666, 0, 0⟩
  | .file place => ofPlace s.world place
  | .directory place => ofPlace s.world place
  | .lost number => some ⟨.regular, .lost number, 0o644, (s.contentOf (.lost number)).length, 0⟩
  | .reading pipe => some ⟨.pipe, .reading pipe, 0o600, 0, 0⟩
  | .writing pipe => some ⟨.pipe, .reading pipe, 0o600, 0, 0⟩

end Status

namespace Exec

/-- the status of what a path leads to -/
def inspect (path : Octets) : Exec (Except SystemError Status) := gets fun s =>
  let p := Octets.toText path
  match s.world.at? p, s.world.resolve p with
  | .ok (.device (.descriptor fd)), _ =>
    match (s.me.descriptor? fd).bind fun d => s.opened? d.opened with
    | none => .error .noEntry
    | some o => match Status.ofTarget s o.target with
      | some status => .ok status
      | none => .error .noEntry
  | .ok _, .ok place => match Status.ofPlace s.world place with
    | some status => .ok status
    | none => .error .noEntry
  | .error e, _ => .error e
  | _, .error e => .error e

/-- the status of what the descriptor leads to -/
def inspectAt? (fd : Nat) : Exec (Option Status) := gets fun s =>
  ((s.me.descriptor? fd).bind fun d => s.opened? d.opened).bind fun o => Status.ofTarget s o.target

end Exec
end RunnableDocs.Machine
