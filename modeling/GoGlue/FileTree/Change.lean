import GoGlue.FileTree

/-!
# Changing a file tree

Making directories and writing files. A change that fails midway keeps what it has done, so a change
answers its result beside the tree. A directory is only made where nothing is, not even a link, but a file is
written through links.
-/
namespace GoGlue.FileTree

/-- Where a path puts something: a name in a directory, or something that always exists. -/
inductive Spot where
  /-- `links` more links may be followed from there. `slash` says that the name is followed by a slash. -/
  | named (dir : Place) (links : Nat) (name : String) (slash : Bool)
  | standing
  deriving DecidableEq, Repr

/-- Follow segments up to their last name. -/
def spotFrom (t : FileTree) (depth : Nat) (s : Stage) (segments : List String) : Except FileError Spot := do
  let reversed := segments.reverse
  let bare := reversed.dropWhile (· = "")
  match bare with
  | [] => return .standing
  | last :: above =>
    let dir ← t.walk depth s above.reverse
    t.checkDirectory dir.here
    if last = "." ∨ last = ".." then return .standing
    return .named dir.here dir.links last (bare.length < reversed.length)

/-- Follow a path up to its last name. -/
def spot (t : FileTree) (path : String) : Except FileError Spot := do
  checkPath path
  checkLength path
  t.spotFrom maxLinks (t.start path) (segmentsOf path)

/-- Make one directory; mirrors `create_dir`. -/
def makeDir (t : FileTree) (path : String) : Except FileError FileTree := do
  match ← t.spot path with
  | .standing => throw .alreadyExists
  | .named dir _ name _ =>
    checkName name
    if (t.node? (dir ++ [name])).isSome then throw .alreadyExists
    return t.put (dir ++ [name]) .directory

/-- Make the first of the given directories, and the others as far as they are needed for that. -/
def makeDirsAlong (t : FileTree) : List String → Except FileError Unit × FileTree
  | [] => (.error .notFound, t)
  | path :: above =>
    let settle (t : FileTree) (e : FileError) : Except FileError Unit × FileTree :=
      (if t.isDirectory path then .ok () else .error e, t)
    if path = "" then (.ok (), t)
    else
      match t.makeDir path with
      | .ok t => (.ok (), t)
      | .error .notFound =>
        match makeDirsAlong t above with
        | (.error e, t) => (.error e, t)
        | (.ok (), t) =>
          match t.makeDir path with
          | .ok t => (.ok (), t)
          | .error e => settle t e
      | .error e => settle t e

/-- Make a directory and those it is in; one that exists will do. Mirrors `create_dir_all`. -/
def makeDirs (t : FileTree) (path : String) : Except FileError Unit × FileTree :=
  t.makeDirsAlong (path :: Path.parents path)

/-- Make the directories that a path leads through. -/
def makeParents (t : FileTree) (path : String) : Except FileError Unit × FileTree :=
  match Path.parent? path with
  | some parent => t.makeDirs parent
  | none => (.ok (), t)

/-- Where the last name of a path leads a file that is written: to a place, or on to what a link in a directory
stands for. -/
inductive Landing where
  | place (p : Place)
  | link (dir : Place) (links : Nat) (target : String)

/-- A slash after the last name is refused before the name is looked at. -/
def landing (t : FileTree) : Spot → Except FileError Landing
  | .standing => .error .isADirectory
  | .named dir links name slash => do
    if slash then throw .isADirectory
    checkName name
    match t.node? (dir ++ [name]) with
    | some .directory => throw .isADirectory
    | some (.link target) => return .link dir links target
    | some (.file _) | none => return .place (dir ++ [name])

/-- Where a file can be written along segments, and along those of the links that it is written through. -/
def writableFrom (t : FileTree) : Nat → Stage → List String → Except FileError Place
  | depth, s, segments =>
    match t.spotFrom depth s segments >>= t.landing with
    | .error e => .error e
    | .ok (.place p) => .ok p
    | .ok (.link dir links target) =>
      match depth, links with
      | depth + 1, links + 1 => t.writableFrom depth ⟨origin dir target, links⟩ (segmentsOf target)
      | _, _ => .error .tooManyLinks

/-- Where a file can be written. -/
def writable (t : FileTree) (path : String) : Except FileError Place := do
  checkPath path
  checkLength path
  t.writableFrom maxLinks (t.start path) (segmentsOf path)

/-- Write a file, new or not; mirrors `fs::write`. -/
def write (t : FileTree) (path content : String) : Except FileError FileTree :=
  (t.writable path).map fun p => t.put p (.file content.toUTF8)

/-- Write files with their directories, one after the other, to paths from a directory; mirrors
`write_to_disk`. -/
def writeAll (t : FileTree) (dir : String) :
    List (String × String) → Except FileError Unit × FileTree
  | [] => (.ok (), t)
  | (path, content) :: rest =>
    let target := Path.join dir path
    match t.makeParents target with
    | (.error e, t) => (.error e, t)
    | (.ok (), t) =>
      match t.write target content with
      | .error e => (.error e, t)
      | .ok t => t.writeAll dir rest

end GoGlue.FileTree
