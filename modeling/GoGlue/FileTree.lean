import GoGlue.FileError
import GoGlue.Path
import Std.Data.TreeMap

/-!
# File trees

Files, directories and symbolic links by their places, with the directory that relative paths start from.
Looking at a path walks through the tree segment by segment, as an operating system does: a directory that a
path leads through has to exist even if the path leaves it again, and a link is followed at once, unless too
many of them have been followed already.

* `node?_put`: putting a node somewhere changes nothing elsewhere.
-/
namespace GoGlue

/-- The names that lead from the root to a file or directory. -/
abbrev Place := List String

/-- The spelling of a place as an absolute path. -/
def Place.path (p : Place) : String := "/" ++ "/".intercalate p

inductive Node where
  | file (content : ByteArray)
  | directory
  /-- A symbolic link, with the path that it stands for. -/
  | link (target : String)

instance : DecidableEq Node
  | .file a, .file b =>
    match ByteArray.instDecidableEq a b with
    | .isTrue h => .isTrue (congrArg Node.file h)
    | .isFalse h => .isFalse fun e => h (Node.file.inj e)
  | .directory, .directory => .isTrue rfl
  | .link a, .link b =>
    if h : a = b then .isTrue (congrArg Node.link h) else .isFalse fun e => h (Node.link.inj e)
  | .file _, .directory | .file _, .link _ | .directory, .file _ | .directory, .link _ | .link _, .file _
  | .link _, .directory => .isFalse fun e => Node.noConfusion e

structure FileTree where
  /-- Everything but the root. -/
  nodes : Std.TreeMap Place Node
  workDir : Place

namespace FileTree

def node? (t : FileTree) (p : Place) : Option Node :=
  if p = [] then some .directory else t.nodes[p]?

def put (t : FileTree) (p : Place) (n : Node) : FileTree := { t with nodes := t.nodes.insert p n }

theorem node?_put (t : FileTree) (p : Place) (n : Node) (q : Place) (h : q ≠ []) :
    (t.put p n).node? q = if p = q then some n else t.node? q := by
  simp [node?, put, h, Std.TreeMap.getElem?_insert]

/-- The files of the tree in the order of their places. -/
def files (t : FileTree) : List (Place × ByteArray) :=
  t.nodes.toList.filterMap fun
    | (p, .file content) => some (p, content)
    | (_, .directory) | (_, .link _) => none

/-- The files directly in a directory, in the order of their names. -/
def filesIn (t : FileTree) (dir : Place) : List (String × ByteArray) :=
  t.files.filterMap fun f =>
    match f.1.getLast? with
    | some name => if f.1.dropLast = dir then some (name, f.2) else none
    | none => none

/-! ## Following a path -/

/-- What no path may hold whatever the tree. -/
def checkPath (path : String) : Except FileError Unit :=
  if path = "" then .error .notFound
  else if '\x00' ∈ path.toList then .error .nulInName
  else .ok ()

/-- A path that is handed to the system whole is short. -/
def checkLength (path : String) : Except FileError Unit :=
  if 4096 ≤ path.utf8ByteSize then .error .nameTooLong else .ok ()

/-- What no name may hold whatever the directory. -/
def checkName (name : String) : Except FileError Unit :=
  if 255 < name.utf8ByteSize then .error .nameTooLong else .ok ()

def checkDirectory (t : FileTree) (here : Place) : Except FileError Unit :=
  match t.node? here with
  | some .directory => .ok ()
  | some _ => .error .notADirectory
  | none => .error .notFound

/-- Where a path starts that is read in a directory. -/
def origin (here : Place) (path : String) : Place := if Path.isAbsolute path then [] else here

def segmentsOf (path : String) : List String := (Path.segments path.toList).map String.ofList

/-- Where a walk along a path has come to. -/
structure Stage where
  here : Place
  /-- How many links may still be followed. -/
  links : Nat
  deriving DecidableEq, Repr

/-- The system follows that many links for one path. -/
def maxLinks : Nat := 40

/-- Follow one segment of a path. What a link stands for is followed at once, and links in there as well, down to
the given depth. -/
def enter (t : FileTree) : Nat → Stage → String → Except FileError Stage
  | depth, s, segment => do
    t.checkDirectory s.here
    if segment = "" ∨ segment = "." then return s
    if segment = ".." then return ⟨s.here.dropLast, s.links⟩
    checkName segment
    match t.node? (s.here ++ [segment]) with
    | none => throw .notFound
    | some (.link target) =>
      match depth, s.links with
      | depth + 1, links + 1 => (segmentsOf target).foldlM (t.enter depth) ⟨origin s.here target, links⟩
      | _, _ => throw .tooManyLinks
    | some _ => return ⟨s.here ++ [segment], s.links⟩

/-- Follow segments one after the other. -/
def walk (t : FileTree) (depth : Nat) (s : Stage) (segments : List String) : Except FileError Stage :=
  segments.foldlM (t.enter depth) s

/-- Where the walk along a path starts. -/
def start (t : FileTree) (path : String) : Stage := ⟨origin t.workDir path, maxLinks⟩

/-- Where the segments of a path lead, whatever the path may hold and however long it is. -/
def follow (t : FileTree) (path : String) : Except FileError Stage :=
  t.walk maxLinks (t.start path) (segmentsOf path)

/-- The place that a path leads to; mirrors `canonicalize`. The segments are asked for one after the other, so
the path may be of any length. -/
def locate (t : FileTree) (path : String) : Except FileError Place := do
  checkPath path
  return (← t.follow path).here

/-- The place that a path leads to when the system is handed the whole path. -/
def reach (t : FileTree) (path : String) : Except FileError Place := do
  checkPath path
  checkLength path
  return (← t.follow path).here

/-- The place that a place stands for, which is another one if there is a link. -/
def resolve (t : FileTree) (p : Place) : Except FileError Place := do
  match t.node? p with
  | some (.link target) =>
    let depth := maxLinks - 1
    return (← t.walk depth ⟨origin p.dropLast target, depth⟩ (segmentsOf target)).here
  | _ => return p

/-! ## Looking -/

/-- The node at the end of a way, if it leads anywhere. -/
def lookup (t : FileTree) (way : Except FileError Place) : Option Node :=
  match way with
  | .ok p => t.node? p
  | .error _ => none

/-- Mirrors `is_dir`. -/
def isDirectory (t : FileTree) (path : String) : Bool := t.lookup (t.reach path) = some .directory

/-- A file is at the end of a way. -/
def isFileAt (t : FileTree) (way : Except FileError Place) : Bool :=
  match t.lookup way with
  | some (.file _) => true
  | _ => false

/-- Mirrors `is_file`. -/
def isFile (t : FileTree) (path : String) : Bool := t.isFileAt (t.reach path)

/-- The content as text. -/
def decode (content : ByteArray) : Except FileError String :=
  match String.fromUTF8? content with
  | some text => .ok text
  | none => .error .invalidUtf8

/-- The text at a place. -/
def readAt (t : FileTree) (p : Place) : Except FileError String :=
  match t.node? p with
  | some (.file content) => decode content
  | some .directory => .error .isADirectory
  | some (.link _) | none => .error .notFound

/-- The text of the file that a path leads to; mirrors `read_to_string`. -/
def read (t : FileTree) (path : String) : Except FileError String := do t.readAt (← t.reach path)

end FileTree

end GoGlue
