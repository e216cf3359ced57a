/-
Actions: what the program does to the world, what it reports on the way, and how it ends.

An action takes the world as it finds it and leaves one, also when it fails: nothing is undone. Events come in the order
in which they are reported, and an action after a failure does nothing (`bind_of_error`).
-/
import RunnableDocs.World

namespace RunnableDocs

/-- what is reported while programs are run -/
inductive Event where
  | parsed (docFile : Path) (programs : Nat)
  | directory (path : Path) (ephemeral : Bool)
  | build (filename : Text)
  | run (target : Text)
  | verified (filename : Text)
  deriving DecidableEq, Repr

/-- what an action leaves -/
structure Outcome (α : Type) where
  events : List Event
  world : World
  result : Except Failure α

def Action (α : Type) := World → Outcome α

namespace Action
variable {α β : Type}

def pure (a : α) : Action α := fun w => ⟨[], w, .ok a⟩

def fail (f : Failure) : Action α := fun w => ⟨[], w, .error f⟩

/-- one action, then another that depends on what the first gave -/
def bind (x : Action α) (f : α → Action β) : Action β := fun w =>
  let first := x w
  match first.result with
  | .error e => ⟨first.events, first.world, .error e⟩
  | .ok a =>
    let second := f a first.world
    ⟨first.events ++ second.events, second.world, second.result⟩

instance : Monad Action where
  pure := pure
  bind := bind

/-- an event reported -/
def report (e : Event) : Action Unit := fun w => ⟨[e], w, .ok ()⟩

/-- a result that is known already -/
def ofResult (r : Except Failure α) : Action α := fun w => ⟨[], w, r⟩

/-- a look at the world -/
def look (f : World → α) : Action α := fun w => ⟨[], w, .ok (f w)⟩

/-- a look at the world that may be refused -/
def inspect (f : World → Except SystemError α) : Action α := fun w =>
  ⟨[], w, (f w).mapError Failure.ofSystem⟩

/-- a change of the world that may be refused; then the world is as it was -/
def change (f : World → Except SystemError World) : Action Unit := fun w =>
  match f w with
  | .ok w' => ⟨[], w', .ok ()⟩
  | .error e => ⟨[], w, .error e⟩

/-- a change of the world in steps, of which those before a refusal stay -/
def attempt (f : World → World × Except SystemError Unit) : Action Unit := fun w =>
  ⟨[], (f w).1, (f w).2.mapError Failure.ofSystem⟩

/-- the action, its failure seen from an activity around it -/
def during (activity : Activity) (x : Action α) : Action α := fun w =>
  let o := x w
  { o with result := o.result.mapError (·.during activity) }

/-- the action, and after it, however it ended, a change of the world -/
def andAfter (x : Action α) (f : World → World) : Action α := fun w =>
  let o := x w
  { o with world := f o.world }

theorem bind_of_ok {x : Action α} {f : α → Action β} {w : World} {a : α} (h : (x w).result = .ok a) :
    (x >>= f) w = ⟨(x w).events ++ (f a (x w).world).events, (f a (x w).world).world, (f a (x w).world).result⟩ := by
  show bind x f w = _
  simp only [bind, h]

theorem bind_of_error {x : Action α} {f : α → Action β} {w : World} {e : Failure} (h : (x w).result = .error e) :
    (x >>= f) w = ⟨(x w).events, (x w).world, .error e⟩ := by
  show bind x f w = _
  simp only [bind, h]

end Action
end RunnableDocs
