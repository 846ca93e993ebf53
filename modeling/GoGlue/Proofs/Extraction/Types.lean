import GoGlue.Proofs.Extraction.Placement
import GoGlue.Proofs.GoType.WellFormed

/-!
# The types of an extracted package

Every type in an extracted package was resolved from a written one, whether it belongs to a parameter, a
result or a field and however the names of a declaration were grouped. So all of them are well formed, and
no function, method or field of the package lacks a plan because one of its types has no strategy.

* `Exactly.resolved`: every type of the package comes from a type that a symbol is declared with.
* `extracted_types_wellFormed`: all types are well formed, and no plan fails for want of a strategy.
-/
namespace GoGlue

def Signature.types (s : Signature) : List GoType := (s.params ++ s.results).map (·.type)

/-- All types of parameters, results and fields. -/
def Package.types (p : Package) : List GoType :=
  p.functions.flatMap (·.types) ++ p.structs.flatMap fun s =>
    s.fields.map (·.type) ++ s.methods.flatMap (·.types)

namespace Extraction

/-- The types that a symbol is declared with. -/
def Symbol.types : Symbol → List TypeExpr
  | func f | method _ _ f => (f.params ++ f.results).map (·.type)
  | struct _ _ fields => fields.map (·.type)
  | field _ f _ => [f.type]

/-- A parameter has the type of a field, and one of its names unless it has none. -/
theorem mem_expand {fields : List Field} {d : String × TypeExpr} (h : d ∈ expand fields) :
    ∃ f ∈ fields, d.2 = f.type ∧ (d.1 = "" ∨ d.1 ∈ f.names) := by
  obtain ⟨f, hf, hd⟩ := List.mem_flatMap.1 h
  refine ⟨f, hf, ?_⟩
  split at hd
  · rw [List.mem_singleton.1 hd]
    exact ⟨rfl, .inl rfl⟩
  · obtain ⟨name, hn, rfl⟩ := List.mem_map.1 hd
    exact ⟨rfl, .inr hn⟩

theorem ParamsOf.resolved {fields : List Field} {ps : List Param} (h : ParamsOf fields ps) :
    ∀ p ∈ ps, ∃ e ∈ fields.map (·.type), e.resolve = .ok p.type := by
  intro p hp
  obtain ⟨d, hd, -, resolved⟩ := exists_related h hp
  obtain ⟨f, hf, type, -⟩ := mem_expand hd
  exact ⟨d.2, type ▸ List.mem_map_of_mem hf, resolved⟩

theorem SignatureOf.resolved {f : FuncDecl} {sig : Signature} (h : SignatureOf f sig) :
    ∀ t ∈ sig.types, ∃ e ∈ (f.params ++ f.results).map (·.type), e.resolve = .ok t := by
  intro t ht
  obtain ⟨p, hp, rfl⟩ := List.mem_map.1 ht
  rw [List.map_append]
  rcases List.mem_append.1 hp with hp | hp
  · obtain ⟨e, he, resolved⟩ := h.params.resolved p hp
    exact ⟨e, List.mem_append_left _ he, resolved⟩
  · obtain ⟨e, he, resolved⟩ := h.results.resolved p hp
    exact ⟨e, List.mem_append_right _ he, resolved⟩

/-- **Every type of the package comes from a type** that one of the symbols is declared with. -/
theorem Exactly.resolved {ss : List Symbol} {x : Extraction} (h : Exactly ss x) :
    ∀ t ∈ x.package.types, ∃ s ∈ ss, ∃ e ∈ s.types, e.resolve = .ok t := by
  intro t ht
  rcases List.mem_append.1 ht with ht | ht
  · obtain ⟨f, hf, ht⟩ := List.mem_flatMap.1 ht
    obtain ⟨_, hs, -, -, signature⟩ := exists_related h.functions hf
    exact ⟨_, (List.mem_filter.1 hs).1, signature.resolved t ht⟩
  · obtain ⟨s, hs, ht⟩ := List.mem_flatMap.1 ht
    rcases List.mem_append.1 ht with ht | ht
    · obtain ⟨f, hf, rfl⟩ := List.mem_map.1 ht
      obtain ⟨_, hd, -, -, members⟩ := exists_related h.structs hs
      obtain ⟨_, hm, ⟨resolved⟩⟩ := exists_related members hf
      obtain ⟨declared, hf, _, -, ⟨⟩, -⟩ := mem_fieldSymbols (List.mem_filter.1 hm).1
      exact ⟨_, (List.mem_filter.1 hd).1, _, List.mem_map_of_mem hf, resolved⟩
    · obtain ⟨m, hm, ht⟩ := List.mem_flatMap.1 ht
      obtain ⟨_, hk, -, -, -, -, -, -, signature⟩ := h.method_symbol hs hm
      exact ⟨_, (List.mem_filter.1 hk).1, signature.resolved t ht⟩

theorem extracted_wellFormed {opts : ExtractOptions} {dir : String} {sources : List (String × String)}
    {x : Extraction} (h : (extract opts dir sources).1 = .ok x) : ∀ t ∈ x.package.types, t.WellFormed := by
  obtain ⟨read, name, files, -, -, rfl⟩ := extract_ok h
  have exactly := (fileItems_holds files).exactly dir name (files.map (·.1))
  intro t ht
  obtain ⟨_, -, e, -, resolved⟩ := exactly.resolved t ht
  exact TypeExpr.resolve_wellFormed resolved

/-- **Extraction yields well-formed types only**, and so the mapping never rejects one: no function, method
or field of the package lacks a plan because one of its types has no strategy. -/
theorem extracted_types_wellFormed {opts : ExtractOptions} {dir : String}
    {sources : List (String × String)} {x : Extraction} (h : (extract opts dir sources).1 = .ok x) :
    (∀ t ∈ x.package.types, t.WellFormed) ∧
    ∀ (structs : StructNames) (cause : MappingError),
      (∀ f ∈ x.package.functions,
        CallPlan.ofSignature structs f.toSignature ≠ .error (.mapping cause)) ∧
      ∀ s ∈ x.package.structs,
        (∀ m ∈ s.methods, CallPlan.ofSignature structs m.toSignature ≠ .error (.mapping cause)) ∧
        ∀ f ∈ s.fields, CallPlan.ofGetter structs f.type ≠ .error (.mapping cause) ∧
          CallPlan.ofSetter structs f.type ≠ .error (.mapping cause) := by
  have formed := extracted_wellFormed h
  obtain ⟨functions, structs⟩ := List.forall_mem_append.1 formed
  refine ⟨formed, fun names cause => ⟨?_, ?_⟩⟩
  · intro f hf
    refine CallPlan.ofSignature_mapped (fun p hp => ?_) cause
    exact functions _ (List.mem_flatMap.2 ⟨f, hf, List.mem_map_of_mem hp⟩)
  · intro s hs
    obtain ⟨fields, methods⟩ := List.forall_mem_append.1 fun t ht =>
      structs t (List.mem_flatMap.2 ⟨s, hs, ht⟩)
    refine ⟨?_, ?_⟩
    · intro m hm
      refine CallPlan.ofSignature_mapped (fun p hp => ?_) cause
      exact methods _ (List.mem_flatMap.2 ⟨m, hm, List.mem_map_of_mem hp⟩)
    · intro f hf
      have type := fields _ (List.mem_map_of_mem hf)
      exact ⟨CallPlan.ofGetter_mapped type cause, CallPlan.ofSetter_mapped type cause⟩

/-- Nested types, one of them an array of unknown length. -/
def nested : List (String × String) :=
  [("a.go", "package p\ntype T struct { A [n]int }\nfunc F(m map[string][]*T, xs ...[2]q.U) {}\n")]

theorem extracted_types_wellFormed_nested :
    ∃ x, (extract ⟨false, true⟩ "" nested).1 = .ok x ∧
      x.package.types.map (·.name) = ["map[string][]*T", "...[2]U", "[?]int"] ∧
      (∀ t ∈ x.package.types, t.WellFormed) ∧
      ∀ f ∈ x.package.functions, ∀ cause,
        CallPlan.ofSignature x.package.structNames f.toSignature ≠ .error (.mapping cause) := by
  have seen : (extract ⟨false, true⟩ "" nested).1.toOption.map (fun x => x.package.types.map (·.name))
      = some ["map[string][]*T", "...[2]U", "[?]int"] := by decide +kernel
  cases h : (extract ⟨false, true⟩ "" nested).1 with
  | error e => simp [h, Except.toOption] at seen
  | ok x =>
    simp only [h, Except.toOption, Option.map_some, Option.some.injEq] at seen
    obtain ⟨formed, mapped⟩ := extracted_types_wellFormed h
    exact ⟨x, rfl, seen, formed, fun f hf cause => (mapped x.package.structNames cause).1 f hf⟩

end Extraction

end GoGlue
