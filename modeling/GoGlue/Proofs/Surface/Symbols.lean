import GoGlue.Proofs.Surface.Callables
import Mathlib.Data.List.Nodup

/-!
# The symbols of a package

A symbol is the name of its owner, which is a struct or the package, and that of a member, joined by an
underscore. The members of one owner have symbols of their own. Between owners that is a matter of their
names, since a name may have underscores itself: the constructor of a struct `A_B` has the symbol of a method
`B_New` of a struct `A`.

* `memberNames_nodup`: the members of a struct have distinct names.
* `callables_nodup`: all symbols are distinct, if no owner's name begins with another's and an underscore.
-/
namespace GoGlue

/-! ## Owners and members -/

/-- The symbol of a member. Both names may contain underscores themselves. -/
def mangle (owner member : String) : String := owner ++ "_" ++ member

/-- The name begins with the owner's and an underscore. -/
def Under (owner name : String) : Prop := (owner ++ "_").toList <+: name.toList

instance (owner name : String) : Decidable (Under owner name) :=
  inferInstanceAs (Decidable (_ <+: _))

theorem mangle_under (owner member : String) : Under owner (mangle owner member) := by
  simp [Under, mangle]

theorem mangle_injective {owner m n : String} (h : mangle owner m = mangle owner n) : m = n := by
  have chars := congrArg String.toList h
  simp only [mangle, String.toList_append, List.append_cancel_left_eq] at chars
  exact String.toList_injective chars

/-- Neither owner's symbols can be taken for the other's. -/
def Apart (a b : String) : Prop := ¬ Under a (b ++ "_") ∧ ¬ Under b (a ++ "_")

instance (a b : String) : Decidable (Apart a b) := inferInstanceAs (Decidable (_ ∧ _))

theorem Apart.not_under {a b name : String} (h : Apart a b) (ha : Under a name) : ¬ Under b name := by
  intro hb
  rcases List.prefix_or_prefix_of_prefix ha hb with hab | hba
  · exact h.1 hab
  · exact h.2 hba

theorem Under.underscore {owner name : String} (h : Under owner name) : '_' ∈ name.toList :=
  h.subset (by simp)

namespace Surface

/-! ## Members -/

def accessorNames (f : FieldSurface) : List String :=
  f.getter.toList.map (fun _ => "Get" ++ f.field.name)
    ++ f.setter.toList.map fun _ => "Set" ++ f.field.name

/-- What a struct has entry points for: its constructor and destructor, accessors and methods. -/
def memberNames (s : StructSurface) : List String :=
  ["New", "Free"] ++ s.fields.flatMap accessorNames ++ s.methods.map (·.method.name)

theorem structCallables_symbols (structs : StructNames) (s : StructSurface) :
    (structCallables structs s).map (·.symbol) = (memberNames s).map (mangle s.struct.name) := by
  have prefixed : ∀ start rest, s.struct.name ++ ("_" ++ start) ++ rest
      = mangle s.struct.name (start ++ rest) := by
    simp only [mangle, String.append_assoc, implies_true]
  have accessor : ∀ f, (accessorCallables s.struct.name f).map (·.symbol)
      = (accessorNames f).map (mangle s.struct.name) := by
    intro f
    simp only [accessorCallables, accessorNames, List.map_append, List.map_map, Function.comp_def,
      ← prefixed]
    rfl
  simp only [structCallables, memberNames, List.map_append, List.map_flatMap, accessor, List.map_map]
  simp [mangle, methodCallable, String.append_assoc]

theorem callables_symbols (p : Package) :
    (callables p).map (·.symbol)
      = (ofPackage p).structs.flatMap (fun s => (memberNames s).map (mangle s.struct.name))
        ++ ((ofPackage p).functions.map (·.func.name)).map (mangle p.name) := by
  simp only [callables, List.map_append, List.map_flatMap, structCallables_symbols, List.map_map]
  rfl

/-- What is kept of a list, by something that it has from where it comes from. -/
theorem kept_map {α β γ : Type} {source : α → γ} {verdict : α → Verdict β} {target : β → γ}
    (h : ∀ a b, verdict a = .ok b → target b = source a) (as : List α) :
    (kept (as.map verdict)).map target = (as.filter fun a => (verdict a).isOk).map source := by
  induction as with
  | nil => rfl
  | cons a rest ih =>
    cases hv : verdict a with
    | ok b => simpa [kept, hv, h a b hv, Except.isOk, Except.toBool] using ih
    | error o => simpa [kept, hv, Except.isOk, Except.toBool] using ih

/-- What is kept has names of its own. -/
theorem kept_names {α β : Type} (source : α → String) {verdict : α → Verdict β} {name : β → String}
    (h : ∀ a b, verdict a = .ok b → name b = source a) (as : List α) :
    ((kept (as.map verdict)).map name).Sublist (as.map source) := by
  rw [kept_map h]
  exact List.filter_sublist.map source

theorem field_accessors {structs : StructNames} {s : Struct} {sf : StructField} {f : FieldSurface}
    (h : field structs s sf = .ok f) :
    f.field = sf ∧ ∀ n ∈ accessorNames f, s.hasMethod n = false := by
  unfold field at h
  split at h
  · cases h
    refine ⟨rfl, ?_⟩
    intro n hn
    simp only [accessorNames, List.mem_append, List.mem_map, Option.mem_toList,
      Option.ite_none_left_eq_some] at hn
    grind
  · cases h

theorem method_name {structs : StructNames} {s : Struct} {m : Method} {ms : MethodSurface}
    (h : method structs s m = .ok ms) :
    ms.method = m ∧ m.name ≠ "New" ∧ m.name ≠ "Free" := by
  unfold method at h
  split at h
  · cases h
  · rename_i free
    split at h
    · cases h
      exact ⟨rfl, not_or.1 free⟩
    · cases h

theorem func_name {structs : StructNames} {f : Func} {fs : FuncSurface}
    (h : func structs f = .ok fs) : fs.func = f := by
  unfold func at h
  split at h
  · cases h; rfl
  · cases h

/-- An accessor's name begins with one of two words, and its field's name is the rest. -/
theorem accessorNames_form {f : FieldSurface} {n : String} (h : n ∈ accessorNames f) :
    n = "Get" ++ f.field.name ∨ n = "Set" ++ f.field.name := by
  simp only [accessorNames, List.mem_append, List.mem_map] at h
  grind

theorem accessorNames_other {f : FieldSurface} {n : String} (h : n ∈ accessorNames f) :
    n ≠ "New" ∧ n ≠ "Free" := by
  rcases accessorNames_form h with rfl | rfl <;>
    refine ⟨fun e => ?_, fun e => ?_⟩ <;> simpa using congrArg (·.toList.head?) e

theorem accessorNames_nodup (f : FieldSurface) : (accessorNames f).Nodup := by
  unfold accessorNames
  cases f.getter <;> cases f.setter <;> simp [← String.toList_inj]

theorem accessorNames_disjoint {f g : FieldSurface} (h : f.field.name ≠ g.field.name) :
    List.Disjoint (accessorNames f) (accessorNames g) := by
  intro n hf hg
  rcases accessorNames_form hf with rfl | rfl <;> rcases accessorNames_form hg with e | e <;>
    simp [← String.toList_inj] at e h <;> exact h e

end Surface

/-! ## Distinct symbols -/

/-- What is declared together has distinct names. -/
structure Package.Distinct (p : Package) : Prop where
  declared : (p.functions.map (·.name) ++ p.structs.map (·.name)).Nodup
  members : ∀ s ∈ p.structs, (s.fields.map (·.name) ++ s.methods.map (·.name)).Nodup

/-- The names that symbols begin with. -/
def Package.owners (p : Package) : List String := p.name :: p.structs.map (·.name)

namespace Surface

/-- **The members of a struct have distinct names**: an accessor gives way to a method of its name, and
so does a method to the constructor and destructor. -/
theorem memberNames_nodup (structs : StructNames) {s : Struct}
    (h : (s.fields.map (·.name) ++ s.methods.map (·.name)).Nodup) :
    (memberNames (struct structs s)).Nodup := by
  obtain ⟨fields, methods, -⟩ := List.nodup_append.1 h
  have accessors : ∀ f ∈ (struct structs s).fields, ∀ n ∈ accessorNames f, s.hasMethod n = false := by
    intro f hf
    obtain ⟨sf, -, he⟩ := List.mem_map.1 (mem_kept.1 hf)
    exact (field_accessors he).2
  have kept : ∀ m ∈ (struct structs s).methods,
      m.method ∈ s.methods ∧ m.method.name ≠ "New" ∧ m.method.name ≠ "Free" := by
    intro m hm
    obtain ⟨sm, hsm, he⟩ := List.mem_map.1 (mem_kept.1 hm)
    obtain ⟨rfl, named⟩ := method_name he
    exact ⟨hsm, named⟩
  have fieldNames : ((struct structs s).fields.map (·.field.name)).Nodup := by
    refine List.Nodup.sublist ?_ fields
    refine (kept_names (·.name) ?_ s.exportedFields).trans (List.filter_sublist.map _)
    intro sf f he
    rw [(field_accessors he).1]
  have methodNames : ((struct structs s).methods.map (·.method.name)).Nodup := by
    refine methods.sublist (kept_names (·.name) ?_ s.methods)
    intro sm m he
    rw [(method_name he).1]
  refine (List.nodup_append'.2 ⟨List.nodup_append'.2 ⟨by decide, ?_, ?_⟩, methodNames, ?_⟩)
  · refine List.nodup_flatMap.2 ⟨fun f _ => accessorNames_nodup f, ?_⟩
    exact (List.pairwise_map.1 fieldNames).imp accessorNames_disjoint
  · intro n hn ha
    obtain ⟨f, -, ha⟩ := List.mem_flatMap.1 ha
    simp only [List.mem_cons, List.not_mem_nil, or_false] at hn
    rcases hn with rfl | rfl
    · exact (accessorNames_other ha).1 rfl
    · exact (accessorNames_other ha).2 rfl
  · intro n hn hm
    obtain ⟨m, mem, rfl⟩ := List.mem_map.1 hm
    obtain ⟨isMethod, new, free⟩ := kept m mem
    rcases List.mem_append.1 hn with hn | hn
    · simp [new, free] at hn
    · obtain ⟨f, hf, hn⟩ := List.mem_flatMap.1 hn
      have none := accessors f hf _ hn
      simp only [Struct.hasMethod, List.any_eq_false, decide_eq_true_eq] at none
      exact none m.method isMethod rfl

theorem callables_under {p : Package} {n : String} (h : n ∈ (callables p).map (·.symbol)) :
    ∃ owner ∈ p.owners, Under owner n := by
  rw [callables_symbols] at h
  rcases List.mem_append.1 h with h | h
  · obtain ⟨s, hs, h⟩ := List.mem_flatMap.1 h
    obtain ⟨m, -, rfl⟩ := List.mem_map.1 h
    obtain ⟨st, hst, rfl⟩ := List.mem_map.1 hs
    exact ⟨st.name, List.mem_cons_of_mem _ (List.mem_map_of_mem hst), mangle_under _ _⟩
  · obtain ⟨f, -, rfl⟩ := List.mem_map.1 h
    exact ⟨p.name, List.mem_cons_self, mangle_under _ _⟩

theorem callables_nodup {p : Package} (h : p.Distinct) (owners : p.owners.Pairwise Apart) :
    ((callables p).map (·.symbol)).Nodup := by
  obtain ⟨first, structs⟩ := List.pairwise_cons.1 owners
  rw [callables_symbols]
  refine List.nodup_append'.2 ⟨List.nodup_flatMap.2 ⟨?_, ?_⟩, ?_, ?_⟩
  · intro s hs
    obtain ⟨st, hst, rfl⟩ := List.mem_map.1 hs
    exact (memberNames_nodup _ (h.members st hst)).map fun _ _ => mangle_injective
  · rw [ofPackage, List.pairwise_map]
    refine (List.pairwise_map.1 structs).imp ?_
    intro s t hst n hs ht
    obtain ⟨m, -, rfl⟩ := List.mem_map.1 hs
    obtain ⟨k, -, e⟩ := List.mem_map.1 ht
    exact hst.not_under (mangle_under _ m) (e ▸ mangle_under _ k)
  · have names : ((ofPackage p).functions.map (·.func.name)).Nodup := by
      refine (List.nodup_append.1 h.declared).1.sublist
        (kept_names (·.name) ?_ p.functions)
      intro f fs he
      rw [func_name he]
    exact names.map fun _ _ => mangle_injective
  · intro n hs hf
    obtain ⟨s, mem, hs⟩ := List.mem_flatMap.1 hs
    obtain ⟨st, hst, rfl⟩ := List.mem_map.1 mem
    obtain ⟨m, -, rfl⟩ := List.mem_map.1 hs
    obtain ⟨f, -, e⟩ := List.mem_map.1 hf
    exact (first st.name (List.mem_map_of_mem hst)).not_under (e ▸ mangle_under _ _) (mangle_under _ m)

end Surface

end GoGlue
