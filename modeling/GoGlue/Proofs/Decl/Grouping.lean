import GoGlue.Decl.Parser
import Mathlib.Data.List.Basic

/-!
# Go's grouping rule

The entries of a parameter list do not tell by themselves what they are: a name alone is a type if no entry has
a name and a type, and else a name that waits for the type of a later entry. So the list is looked at as a whole
first, and names are then kept until a type comes. What is kept is as good as entries in front of those that are
still to come, and therefore a list and what is kept of it are taken together below.

* `groupNamed_eq_none_iff`, `groupNamed_parameters`: when the names of a list get types, and which ones.
* `groupParameters_rule`: when the entries of a list are grouped, and to which parameters.
-/
namespace GoGlue

/-- The parameters that a field stands for: one for each of its names, and one if it has none. -/
def Field.parameters (f : Field) : List (Option String × TypeExpr) :=
  if f.names = [] then [(none, f.type)] else f.names.map (some ·, f.type)

theorem Field.parameters_named {names : List String} (h : names ≠ []) (type : TypeExpr) (tag : Option String) :
    (mk names type tag).parameters = names.map (some ·, type) := if_neg h

namespace Parse

namespace Entry

/-- The name of an entry, where entries have names. -/
def name? : Entry → Option String
  | bare name | named name _ => some name
  | type _ => none

/-- The type that an entry has besides its name. -/
def ownType? : Entry → Option TypeExpr
  | named _ t => some t
  | bare _ | type _ => none

/-- The type that an entry is, where entries have no names. -/
def asType : Entry → TypeExpr
  | bare name => .ident name
  | named _ t | type t => t

theorem isNamed_iff (e : Entry) : e.isNamed = true ↔ ∃ name t, e = named name t := by
  cases e <;> simp [isNamed]

end Entry

/-- There are names with types, but also a type alone, or a last name that no type follows. -/
def Mixed (es : List Entry) : Prop :=
  (∃ name t, .named name t ∈ es) ∧ ((∃ t, .type t ∈ es) ∨ ∃ name, es.getLast? = some (.bare name))

/-- Every entry is the type of a parameter without a name. -/
structure GroupedTypes (es : List Entry) (fields : List Field) : Prop where
  unnamed : ∀ f ∈ fields, f.names = []
  parameters : fields.flatMap Field.parameters = es.map fun e => (none, e.asType)

/-- Every entry is a parameter of its name, with the type of the next entry that has one. -/
structure GroupedNames (es : List Entry) (fields : List Field) : Prop where
  named : ∀ f ∈ fields, f.names ≠ []
  length : (fields.flatMap Field.parameters).length = es.length
  parameters : ∀ i e, es[i]? = some e → ∃ name t, e.name? = some name ∧
    (es.drop i).findSome? Entry.ownType? = some t ∧ (fields.flatMap Field.parameters)[i]? = some (some name, t)

/-! ## Names that wait for a type -/

/-- The names of a list get no types exactly if a type stands alone in it, or its last entry is a name. -/
theorem groupNamed_eq_none_iff (pending : List String) (es : List Entry) :
    groupNamed pending es = none ↔
      (∃ t, .type t ∈ es) ∨ ∃ name, (pending.map Entry.bare ++ es).getLast? = some (.bare name) := by
  fun_induction groupNamed pending es with
  | case1 pending none =>
    obtain rfl := List.isEmpty_iff.1 none
    simp
  | case2 pending some =>
    obtain ⟨init, last, rfl⟩ := (List.eq_nil_or_concat pending).resolve_left (by simpa using some)
    simp
  | case3 pending name rest ih => simpa using ih
  | case4 pending name type rest ih =>
    have last : (pending.map Entry.bare ++ Entry.named name type :: rest).getLast?
        = rest.getLast?.or (some (.named name type)) := by
      simp [List.getLast?_append, List.getLast?_cons]
    rw [Option.map_eq_none_iff, ih, last]
    cases h : rest.getLast? <;> simp [h]
  | case5 pending type rest => simp

/-- Names alone have no type. -/
theorem findSome?_bare (names : List String) (es : List Entry) :
    (names.map Entry.bare ++ es).findSome? Entry.ownType? = es.findSome? Entry.ownType? := by
  induction names with
  | nil => rfl
  | cons name names ih => exact ih

/-- The names of a list, each with the type of the next entry that has one. -/
theorem groupNamed_parameters {pending : List String} {es : List Entry} {fields : List Field}
    (h : groupNamed pending es = some fields) : GroupedNames (pending.map Entry.bare ++ es) fields := by
  fun_induction groupNamed pending es generalizing fields with
  | case1 pending none =>
    obtain rfl := List.isEmpty_iff.1 none
    cases h
    exact ⟨by simp, rfl, by simp⟩
  | case2 => cases h
  | case3 pending name rest ih => simpa using ih h
  | case4 pending name type rest ih =>
    obtain ⟨later, hl, rfl⟩ := Option.map_eq_some_iff.1 h
    obtain ⟨named, length, parameters⟩ := ih hl
    have split : pending.map Entry.bare ++ Entry.named name type :: rest
        = (pending.map Entry.bare ++ [Entry.named name type]) ++ rest := by simp
    refine ⟨List.forall_mem_cons.2 ⟨by simp [Field.names], named⟩, ?_, fun i e he => ?_⟩ <;>
      rw [List.flatMap_cons, Field.parameters_named (by simp)]
    · rw [split, List.length_append, List.length_append, length]
      simp
    by_cases behind : pending.length + 1 ≤ i
    · rw [split, List.getElem?_append_right (by simpa using behind)] at he
      obtain ⟨name', t, hname, ht, hp⟩ := parameters _ e he
      refine ⟨name', t, hname, ?_, ?_⟩
      · rw [split, List.drop_append, List.drop_eq_nil_of_le (by simpa using behind)]
        exact ht
      · rw [List.getElem?_append_right (by simpa using behind)]
        simpa using hp
    · -- Up to the entry with a type, which ends the field, every name gets that type.
      have within : i < (pending ++ [name]).length := by simp; omega
      refine ⟨(pending ++ [name])[i], type, ?_, ?_, ?_⟩
      · by_cases last : i = pending.length
        · subst last
          obtain rfl : Entry.named name type = e := by simpa using he
          simp [Entry.name?]
        · have waits : i < pending.length := by omega
          rw [List.getElem?_append_left (by simpa using waits)] at he
          obtain rfl : Entry.bare pending[i] = e := by simpa [waits] using he
          simp [Entry.name?, List.getElem_append_left waits]
      · rw [List.drop_append_of_le_length (by simp; omega), ← List.map_drop, findSome?_bare]
        rfl
      · rw [List.getElem?_append_left (by simpa using within), List.getElem?_map,
          List.getElem?_eq_getElem within]
        rfl
  | case5 => cases h

/-! ## The rule -/

theorem any_isNamed_iff (es : List Entry) :
    es.any Entry.isNamed = true ↔ ∃ name t, Entry.named name t ∈ es := by
  rw [List.any_eq_true]
  constructor
  · rintro ⟨e, he, named⟩
    obtain ⟨name, t, rfl⟩ := e.isNamed_iff.1 named
    exact ⟨name, t, he⟩
  · rintro ⟨name, t, he⟩
    exact ⟨_, he, rfl⟩

theorem groupedTypes_unnamed {es : List Entry} (h : ∀ e ∈ es, e.isNamed = false) :
    GroupedTypes es (es.map Entry.unnamed) := by
  have alone : ∀ e ∈ es, e.unnamed = .unnamed e.asType := by
    intro e he
    cases e with
    | named name t => cases h _ he
    | bare name => rfl
    | type t => rfl
  rw [List.map_congr_left alone]
  refine ⟨List.forall_mem_map.2 fun e _ => rfl, ?_⟩
  rw [List.flatMap_map, List.map_eq_flatMap]
  rfl

/-- **The grouping rule.** The entries of a list cannot be grouped exactly if there are names with types among
them, but also a type alone or a last name without a type. Otherwise there are as many parameters as entries, in
the same order: without names, each of the type that its entry is; with names, each under the name of its entry,
with the type of the next entry that has one behind its name. -/
theorem groupParameters_rule (es : List Entry) :
    (groupParameters es = none ↔ Mixed es) ∧
      ∀ fields, groupParameters es = some fields →
        (fields.flatMap Field.parameters).length = es.length ∧
        (((∃ name t, Entry.named name t ∈ es) ∧ GroupedNames es fields) ∨
          ((¬ ∃ name t, Entry.named name t ∈ es) ∧ GroupedTypes es fields)) := by
  unfold groupParameters Mixed
  by_cases named : es.any Entry.isNamed = true
  · have some := (any_isNamed_iff es).1 named
    rw [if_pos named, groupNamed_eq_none_iff, List.map_nil, List.nil_append]
    refine ⟨(and_iff_right some).symm, fun fields h => ?_⟩
    have grouped := groupNamed_parameters h
    exact ⟨grouped.length, .inl ⟨some, grouped⟩⟩
  · have none := mt (any_isNamed_iff es).2 named
    rw [if_neg named]
    refine ⟨iff_of_false (by simp) fun mixed => none mixed.1, fun fields h => ?_⟩
    cases h
    have unnamed : ∀ e ∈ es, e.isNamed = false := by simpa using named
    have grouped := groupedTypes_unnamed unnamed
    exact ⟨by rw [grouped.parameters, List.length_map], .inr ⟨none, grouped⟩⟩

/-- In `(a, b int, s string)` the name `a` waits for the type of `b`. -/
theorem groupParameters_rule_waiting :
    groupParameters [.bare "a", .named "b" (.ident "int"), .named "s" (.ident "string")]
        = some [.mk ["a", "b"] (.ident "int") none, .mk ["s"] (.ident "string") none] ∧
      GroupedNames [.bare "a", .named "b" (.ident "int"), .named "s" (.ident "string")]
        [.mk ["a", "b"] (.ident "int") none, .mk ["s"] (.ident "string") none] := by
  have grouped : groupParameters [.bare "a", .named "b" (.ident "int"), .named "s" (.ident "string")]
      = some [.mk ["a", "b"] (.ident "int") none, .mk ["s"] (.ident "string") none] := rfl
  refine ⟨grouped, ?_⟩
  obtain ⟨-, ⟨-, names⟩ | ⟨unnamed, -⟩⟩ := (groupParameters_rule _).2 _ grouped
  · exact names
  · exact absurd ⟨"b", .ident "int", by simp⟩ unnamed

end Parse

end GoGlue
