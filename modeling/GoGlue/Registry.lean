import GoGlue.Plugin
import Std.Data.TreeMap

/-!
# The plugin registry

Plugins by name. A name is registered at most once, and the names are listed in ascending order.

* `names_sorted`: the list of names is strictly ascending.
-/
namespace GoGlue

/-- What makes a plugin from options; mirrors `PluginFactory`. -/
abbrev PluginFactory := PluginOptions → Plugin

/-- Why a name cannot be registered. -/
inductive RegistryError where
  | emptyName
  | alreadyRegistered (name : String)
  deriving DecidableEq, Repr

def RegistryError.message : RegistryError → String
  | emptyName => "plugin name must not be empty"
  | alreadyRegistered name => "plugin already registered: " ++ name

/-- mirrors `PluginRegistry` -/
structure Registry where
  factories : Std.TreeMap String PluginFactory

namespace Registry

def empty : Registry := ⟨∅⟩

/-- All registered names in ascending order; mirrors `list`. -/
def names (r : Registry) : List String := r.factories.keys

/-- mirrors `contains` -/
def contains (r : Registry) (name : String) : Bool := r.factories.contains name

/-- Register a factory under a name; mirrors `register`. -/
def register (r : Registry) (name : String) (factory : PluginFactory) :
    Except RegistryError Registry :=
  if name = "" then .error .emptyName
  else if r.contains name then .error (.alreadyRegistered name)
  else .ok ⟨r.factories.insert name factory⟩

/-- The plugin of a name, made from options; mirrors `get`. -/
def get (r : Registry) (name : String) (opts : PluginOptions) : Except CodegenError Plugin :=
  match r.factories[name]? with
  | some factory => .ok (factory opts)
  | none => .error (.unknownPlugin name r.names)

/-- The registry of the built-in plugins; mirrors `with_builtin`. -/
def builtin : Registry := ⟨.ofList [("cgo", Plugin.cgo), ("python", Plugin.python)]⟩

/-- The registry as it is shown for debugging; mirrors `fmt`. -/
def debugText (r : Registry) : String :=
  "PluginRegistry \x7b plugins: [" ++ ", ".intercalate (r.names.map Text.quoted) ++ "] \x7d"

theorem names_sorted (r : Registry) : r.names.Pairwise fun a b => compare a b = .lt :=
  Std.TreeMap.ordered_keys

end Registry

end GoGlue
