import GoGlue.Registry

/-!
# A shared registry

The registry of a process stands behind a lock. A call that panics while it holds the lock for writing leaves the
lock poisoned. Whoever takes it later is told so, and takes the registry out of it all the same.

* `access_eq`: what is found behind a lock does not depend on whether it is poisoned.
-/
namespace GoGlue

/-- A value behind a lock, which is poisoned once a writer has panicked. -/
structure Lock (α : Type) where
  value : α
  poisoned : Bool

namespace Lock

variable {α ε : Type}

def new (value : α) : Lock α := ⟨value, false⟩

/-- Take the lock. A poisoned one says so, and gives the value with that. -/
def take (l : Lock α) : Except α α := if l.poisoned then .error l.value else .ok l.value

/-- The value of a lock that was taken, in either case. -/
def intoInner : Except α α → α
  | .ok value | .error value => value

def access (l : Lock α) : α := intoInner l.take

/-- Change the value. What fails does so while the lock is held, and changes nothing. -/
def write (l : Lock α) (change : α → Except ε α) : Except ε Unit × Lock α :=
  match change l.access with
  | .ok value => (.ok (), { l with value })
  | .error e => (.error e, { l with poisoned := true })

theorem access_eq (l : Lock α) : l.access = l.value := by
  unfold access take
  cases l.poisoned <;> rfl

end Lock

abbrev SharedRegistry := Lock Registry

namespace SharedRegistry

/-- What can be asked of a registry. -/
inductive Call where
  | register (name : String) (factory : PluginFactory)
  | get (name : String) (opts : PluginOptions)
  | contains (name : String)
  | list

inductive Answer where
  | registered
  | panic (e : RegistryError)
  | plugin (p : Plugin)
  | failure (e : CodegenError)
  | contained (b : Bool)
  | names (ns : List String)

/-- Answer a call. The empty name is refused before the lock is taken. -/
def perform (s : SharedRegistry) : Call → Answer × SharedRegistry
  | .register name factory =>
    if name = "" then (.panic .emptyName, s)
    else
      match s.write (·.register name factory) with
      | (.ok (), s) => (.registered, s)
      | (.error e, s) => (.panic e, s)
  | .get name opts =>
    match s.access.get name opts with
    | .ok p => (.plugin p, s)
    | .error e => (.failure e, s)
  | .contains name => (.contained (s.access.contains name), s)
  | .list => (.names s.access.names, s)

/-- Answer calls one after the other. -/
def performAll (s : SharedRegistry) : List Call → List Answer × SharedRegistry
  | [] => ([], s)
  | c :: rest =>
    let (answer, s) := s.perform c
    let (answers, s) := s.performAll rest
    (answer :: answers, s)

end SharedRegistry

end GoGlue
