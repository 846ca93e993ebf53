import GoGlue.Text.Blank

/-!
# Build systems

The Python build systems that packaging metadata can be written for.
-/
namespace GoGlue

/-- mirrors `BuildSystem` -/
inductive BuildSystem where
  | setuptools | hatch | poetry | uv
  deriving DecidableEq, Repr

namespace BuildSystem

/-- mirrors `ALL` -/
def all : List BuildSystem := [setuptools, hatch, poetry, uv]

/-- mirrors `as_str` -/
def name : BuildSystem → String
  | setuptools => "setuptools"
  | hatch => "hatch"
  | poetry => "poetry"
  | uv => "uv"

/-- The build system of a name. Blanks around it and the case of its ASCII letters do not matter, and any
other name means setuptools; mirrors `from_name`. -/
def ofName (s : String) : BuildSystem :=
  let key := (Text.trim s.toList).map Char.toLower
  (all.find? fun b => b.name.toList = key).getD setuptools

end BuildSystem

end GoGlue
