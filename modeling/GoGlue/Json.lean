/-!
# JSON values

A JSON value with its object members in written order, duplicates included, so that a reader of records
can refuse a key that is given twice.
-/
namespace GoGlue

/-- A JSON value. A number is an integer when it is written without fraction and exponent; every other
number keeps its text. -/
inductive Json where
  | null
  | bool (b : Bool)
  | integer (n : Int)
  | real (text : String)
  | string (s : String)
  | array (items : List Json)
  | object (members : List (String × Json))
  deriving Repr, Inhabited

namespace Json

/-- The values given for a key, in order. -/
def values (members : List (String × Json)) (key : String) : List Json :=
  (members.filter (·.1 == key)).map (·.2)

/-- The value of a key; of several, the last one counts. -/
def get? (members : List (String × Json)) (key : String) : Option Json :=
  (values members key).getLast?

/-- The value of a key, where `null` is as good as none. -/
def present? (members : List (String × Json)) (key : String) : Option Json :=
  match get? members key with
  | some .null => none
  | v => v

theorem mem_of_mem_values (members : List (String × Json)) (key : String) (v : Json)
    (h : v ∈ values members key) : v ∈ members.map (·.2) := by
  simp only [values, List.mem_map, List.mem_filter] at h ⊢
  obtain ⟨m, ⟨hm, -⟩, rfl⟩ := h
  exact ⟨m, hm, rfl⟩

theorem mem_of_present? (members : List (String × Json)) (key : String) (v : Json)
    (h : present? members key = some v) : v ∈ members.map (·.2) := by
  refine mem_of_mem_values members key v ?_
  unfold present? get? at h
  split at h
  · simp at h
  · exact List.mem_of_getLast? h

/-- No key is given twice. -/
def distinctKeys : List (String × Json) → Bool
  | [] => true
  | (key, _) :: rest => !(rest.any (·.1 == key)) && distinctKeys rest

def nat (n : Nat) : Json := .integer n

def strings (xs : List String) : Json := .array (xs.map .string)

/-- `null` for an absent value. -/
def option {α : Type} (f : α → Json) : Option α → Json
  | none => .null
  | some a => f a

/-! ## Order of keys -/

/-- Insert a member before the first one with a greater key. -/
def insertMember (m : String × Json) : List (String × Json) → List (String × Json)
  | [] => [m]
  | x :: rest => if m.1 < x.1 then m :: x :: rest else x :: insertMember m rest

mutual
/-- The value with the members of every object in ascending order of their keys. -/
def sorted : Json → Json
  | .array items => .array (sortedItems items)
  | .object members => .object (sortedMembers members)
  | j => j
def sortedItems : List Json → List Json
  | [] => []
  | j :: rest => j.sorted :: sortedItems rest
def sortedMembers : List (String × Json) → List (String × Json)
  | [] => []
  | (key, j) :: rest => insertMember (key, j.sorted) (sortedMembers rest)
end

end Json

end GoGlue
