/-!
# Paths

A path as it is spelled: segments between slashes. Joining and taking parents work on the spelling alone
and keep the rest of it as it is.

* `joinSegments_segments`: cutting a path at its slashes loses nothing.
-/
namespace GoGlue.Path

/-- What stands between two slashes. -/
abbrev Segment := List Char

/-- Cut a path at its slashes. -/
def segments : List Char → List Segment
  | [] => [[]]
  | c :: rest =>
    if c = '/' then [] :: segments rest
    else
      match segments rest with
      | [] => [[c]]
      | s :: ss => (c :: s) :: ss

def joinSegments : List Segment → List Char
  | [] => []
  | [s] => s
  | s :: ss => s ++ '/' :: joinSegments ss

theorem segments_ne_nil (cs : List Char) : segments cs ≠ [] := by
  cases cs with
  | nil => simp [segments]
  | cons c rest => unfold segments; split <;> (try split) <;> simp

theorem joinSegments_segments (cs : List Char) : joinSegments (segments cs) = cs := by
  induction cs with
  | nil => rfl
  | cons c rest ih =>
    unfold segments
    split
    · subst_vars
      cases h : segments rest with
      | nil => exact absurd h (segments_ne_nil rest)
      | cons s ss => rw [h] at ih; simp [joinSegments, ih]
    · cases h : segments rest with
      | nil => exact absurd h (segments_ne_nil rest)
      | cons s ss =>
        rw [h] at ih
        cases ss with
        | nil => simpa [joinSegments] using ih
        | cons _ _ => simpa [joinSegments] using ih

def isAbsolute (path : String) : Bool := path.startsWith "/"

/-- The path that leads from a directory along another path; an absolute path leads there from
anywhere. -/
def join (dir path : String) : String :=
  if isAbsolute path || dir = "" then path
  else if dir.endsWith "/" then dir ++ path
  else dir ++ "/" ++ path

/-! ## Parents -/

/-- The segment leads nowhere. -/
def isIdle (s : Segment) : Bool := s = [] || s = ['.']

/-- Drop idle segments at the front of a reversed path. The first segment of the path stays. -/
def dropIdle : List Segment → List Segment
  | [] => []
  | [first] => [first]
  | s :: rest => if isIdle s then dropIdle rest else s :: rest

/-- The paths from a reversed path upwards. -/
def upwards : List Segment → List String
  | [] => []
  | [first] => if first = [] then ["/"] else [String.ofList first, ""]
  | s :: rest =>
    if isIdle s then upwards rest
    else String.ofList (joinSegments (s :: rest).reverse) :: upwards rest

/-- The directories that a path leads through, the nearest one first. A relative path comes from the empty
path, an absolute one from the root, and neither of these has a parent. -/
def parents (path : String) : List String :=
  match dropIdle (segments path.toList).reverse with
  | [] | [[]] => []
  | [_] => [""]
  | _ :: rest => upwards rest

def parent? (path : String) : Option String := (parents path).head?

end GoGlue.Path
