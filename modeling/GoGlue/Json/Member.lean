import GoGlue.Json

/-!
# Members of a record

Readers for the members of a JSON value that stands for a record: required ones, ones with a default, and
ones that may be absent or `null`.

* `record?_object`: the members of an object are a record as they are.
* `sizeOf_record?`: the values in a record are smaller than the record.
* `inside_some`, `inside_none`: reading a part with a reader that may call itself on it.
-/
namespace GoGlue.Json

def asString? : Json → Option String
  | .string s => some s
  | _ => none

def asBool? : Json → Option Bool
  | .bool b => some b
  | _ => none

/-- An integer from 0 to 2^64 - 1. -/
def asWord? : Json → Option UInt64
  | .integer (.ofNat n) => if h : n < UInt64.size then some (.ofNatLT n h) else none
  | _ => none

def asArray? : Json → Option (List Json)
  | .array items => some items
  | _ => none

/-- The name of a choice: a string, or an object with that name as its only key and nothing to say about
it. -/
def asName? : Json → Option String
  | .string s => some s
  | .object ((key, v) :: rest) =>
    match rest.all (·.1 = key), get? ((key, v) :: rest) key with
    | true, some .null => some key
    | _, _ => none
  | _ => none

/-- The members of a record with the given keys. It is an object, or an array of the values in the order of
the keys, which may end early. -/
def record? (keys : List String) : Json → Option (List (String × Json))
  | .object members => some members
  | .array items => if items.length ≤ keys.length then some (keys.zip items) else none
  | _ => none

theorem record?_object (keys : List String) (members : List (String × Json)) :
    record? keys (.object members) = some members := rfl

theorem sizeOf_record? {keys : List String} {j : Json} {members : List (String × Json)}
    (h : record? keys j = some members) {v : Json} (hv : v ∈ members.map (·.2)) :
    sizeOf v < sizeOf j := by
  obtain ⟨⟨key, w⟩, hm, rfl⟩ := List.mem_map.mp hv
  unfold record? at h
  split at h
  · cases h
    have := List.sizeOf_lt_of_mem hm
    simp only [Prod.mk.sizeOf_spec, object.sizeOf_spec] at this ⊢
    omega
  · split at h
    · cases h
      have := List.sizeOf_lt_of_mem (List.of_mem_zip hm).2
      simp only [array.sizeOf_spec] at this ⊢
      omega
    · cases h
  · cases h

/-- A member that must be there. -/
def required {α : Type} (f : Json → Option α) (members : List (String × Json)) (key : String) :
    Option α :=
  match get? members key with
  | some j => f j
  | none => none

/-- A member with a default. -/
def optional {α : Type} (f : Json → Option α) (default : α) (members : List (String × Json))
    (key : String) : Option α :=
  match get? members key with
  | some j => f j
  | none => some default

/-- A member that may be absent or `null`. -/
def nullable {α : Type} (f : Json → Option α) (members : List (String × Json)) (key : String) :
    Option (Option α) :=
  match present? members key with
  | some j => (f j).map some
  | none => some none

/-- A member that may be absent or `null`, read by a reader that needs to know that it is one of the values
of the record. -/
def inside {α : Type} (members : List (String × Json)) (key : String)
    (f : (j : Json) → j ∈ members.map (·.2) → Option α) : Option (Option α) :=
  match h : present? members key with
  | some j => (f j (mem_of_present? members key j h)).map some
  | none => some none

theorem inside_none {α : Type} (members : List (String × Json)) (key : String)
    (f : (j : Json) → j ∈ members.map (·.2) → Option α) (h : present? members key = none) :
    inside members key f = some none := by
  unfold inside
  split
  · rename_i j hj; rw [h] at hj; cases hj
  · rfl

theorem inside_some {α : Type} (members : List (String × Json)) (key : String)
    (f : (j : Json) → j ∈ members.map (·.2) → Option α) (j : Json)
    (h : present? members key = some j) :
    inside members key f = (f j (mem_of_present? members key j h)).map some := by
  unfold inside
  split
  · rename_i k hk; rw [h] at hk; cases hk; rfl
  · rename_i hk; rw [h] at hk; cases hk

/-- A list of records; absent, it is empty. -/
def listOf {α : Type} (f : Json → Option α) (members : List (String × Json)) (key : String) :
    Option (List α) :=
  optional (fun j => j.asArray?.bind (·.mapM f)) [] members key

end GoGlue.Json
