import GoGlue.Proofs.Decl.Identifiers
import GoGlue.Proofs.Extraction.Types

/-!
# The names in an extracted package

Whatever is named in an extracted package is named as in its sources: functions, structs, fields, methods and
parameters, and also the types that these have, down to the packages of struct types. Since a source is cut into
tokens before it is read, all of these are words. A package can so be imported under the name that a type
selects it by, and nothing that is generated from such a name can be mistaken for something else.

* `symbols_identifiers`: the symbols of a declaration are named as it is.
* `extracted_named`, `extracted_word`: the names in an extracted package and its own are words.
-/
namespace GoGlue

/-- A parameter may be without a name. -/
def Signature.Named (P : String → Prop) (sig : Signature) : Prop :=
  ∀ x ∈ sig.params ++ sig.results, x.name = "" ∨ P x.name

/-- The names in the package have `P`. -/
structure Package.Named (P : String → Prop) (p : Package) : Prop where
  functions : ∀ f ∈ p.functions, P f.name ∧ f.toSignature.Named P
  structs : ∀ s ∈ p.structs, P s.name ∧ (∀ f ∈ s.fields, P f.name) ∧
    ∀ m ∈ s.methods, P m.name ∧ m.toSignature.Named P
  types : ∀ t ∈ p.types, ∃ names, (∀ n ∈ names, P n) ∧ ∀ n ∈ t.nodes, n.NamedBy names

theorem Package.Named.imp {P Q : String → Prop} {p : Package} (h : p.Named P) (pq : ∀ n, P n → Q n) : p.Named Q := by
  have signature : ∀ {sig : Signature}, sig.Named P → sig.Named Q := fun hs x hx => (hs x hx).imp_right (pq _)
  refine ⟨fun f hf => ?_, fun s hs => ?_, fun t ht => ?_⟩
  · obtain ⟨name, sig⟩ := h.functions f hf
    exact ⟨pq _ name, signature sig⟩
  · obtain ⟨name, fields, methods⟩ := h.structs s hs
    exact ⟨pq _ name, fun f hf => pq _ (fields f hf), fun m hm => (methods m hm).imp (pq _) signature⟩
  · obtain ⟨names, words, named⟩ := h.types t ht
    exact ⟨names, fun n hn => pq n (words n hn), named⟩

theorem TypeExpr.baseName_identifiers {t : TypeExpr} {n : String} (h : t.baseName = some n) :
    n ∈ t.identifiers := by
  fun_induction TypeExpr.baseName t with
  | case1 name =>
    cases h
    exact List.mem_cons_self
  | case2 package name =>
    cases h
    exact List.mem_cons_of_mem _ List.mem_cons_self
  | case3 elem ih => exact ih h
  | case4 base args ih => exact List.mem_append_left _ (ih h)
  | case5 => cases h

namespace Extraction

/-- The identifiers that a symbol is declared with. -/
def Symbol.identifiers : Symbol → List String
  | func f | method _ _ f => f.name :: (fieldIdentifiers f.params ++ fieldIdentifiers f.results)
  | struct _ s fields => s.name :: fieldIdentifiers fields
  | field _ f name => name :: f.type.identifiers

theorem Symbol.types_identifiers {s : Symbol} {e : TypeExpr} (h : e ∈ s.types) :
    e.identifiers ⊆ s.identifiers := by
  intro q hq
  have ofField : ∀ {fields : List Field}, e ∈ fields.map (·.type) → q ∈ fieldIdentifiers fields := by
    intro fields he
    obtain ⟨f, hf, rfl⟩ := List.mem_map.1 he
    exact mem_fieldIdentifiers.2 ⟨f, hf, .inr hq⟩
  cases s with
  | func f | method owner recv f =>
    rw [types, List.map_append] at h
    exact List.mem_cons_of_mem _ (List.mem_append.2 ((List.mem_append.1 h).imp ofField ofField))
  | struct doc s fields => exact List.mem_cons_of_mem _ (ofField h)
  | field owner f name =>
    rw [List.mem_singleton.1 h] at hq
    exact List.mem_cons_of_mem _ hq

theorem declaredNames_identifiers {f : Field} {name : String} (h : name ∈ declaredNames f) :
    name ∈ f.names ∨ name ∈ f.type.identifiers := by
  obtain ⟨names, type, tag⟩ := f
  cases names with
  | nil => exact .inr (TypeExpr.baseName_identifiers (Option.mem_toList.1 h))
  | cons n more => exact .inl h

/-- **The symbols of a declaration are named as it is.** -/
theorem symbols_identifiers {d : Decl} {s : Symbol} (h : s ∈ symbols d) : s.identifiers ⊆ d.identifiers := by
  cases d with
  | func f =>
    have same : s.identifiers = (Decl.func f).identifiers := by
      simp only [symbols] at h
      split at h
      · split at h
        · rw [List.mem_singleton.1 h]
          rfl
        · cases h
      · split at h
        · cases h
        · split at h
          · rw [List.mem_singleton.1 h]
            rfl
          · cases h
    rw [same]
    exact List.Subset.refl _
  | type t =>
    obtain ⟨spec, hspec, h⟩ := List.mem_flatMap.1 h
    refine List.Subset.trans ?_ fun q hq => List.mem_flatMap.2 ⟨spec, hspec, hq⟩
    simp only [specSymbols] at h
    split at h
    · next fields declared =>
      have struct : spec.identifiers = spec.name :: fieldIdentifiers fields := by
        rw [TypeSpec.identifiers, declared, TypeExpr.identifiers]
      rw [struct]
      split at h
      · rcases List.mem_cons.1 h with rfl | h
        · exact List.Subset.refl _
        · split at h
          · cases h
          · obtain ⟨field, hf, name, hn, rfl, -⟩ := mem_fieldSymbols h
            refine List.cons_subset.2 ⟨?_, fun q hq => ?_⟩
            · exact List.mem_cons_of_mem _ (mem_fieldIdentifiers.2 ⟨field, hf, declaredNames_identifiers hn⟩)
            · exact List.mem_cons_of_mem _ (mem_fieldIdentifiers.2 ⟨field, hf, .inr hq⟩)
      · cases h
    · cases h

/-! ## The whole package -/

variable {P : String → Prop}

theorem ParamsOf.named {fields : List Field} {ps : List Param} (h : ParamsOf fields ps)
    (hp : ∀ q ∈ fieldIdentifiers fields, P q) : ∀ x ∈ ps, x.name = "" ∨ P x.name := by
  intro x hx
  obtain ⟨d, hd, name, -⟩ := exists_related h hx
  obtain ⟨f, hf, -, unnamed | named⟩ := mem_expand hd
  · exact .inl (name.trans unnamed)
  · exact .inr (name ▸ hp _ (mem_fieldIdentifiers.2 ⟨f, hf, .inl named⟩))

theorem SignatureOf.named {f : FuncDecl} {sig : Signature} (h : SignatureOf f sig)
    (hp : ∀ q ∈ fieldIdentifiers f.params ++ fieldIdentifiers f.results, P q) : sig.Named P := by
  obtain ⟨params, results⟩ := List.forall_mem_append.1 hp
  exact List.forall_mem_append.2 ⟨h.params.named params, h.results.named results⟩

/-- What holds of the identifiers of the symbols holds of the names in the package. -/
theorem Exactly.named {ss : List Symbol} {x : Extraction} (h : Exactly ss x)
    (hp : ∀ s ∈ ss, ∀ q ∈ s.identifiers, P q) : x.package.Named P := by
  refine ⟨?_, ?_, ?_⟩
  · intro f hf
    obtain ⟨s, hs, name, -, signature⟩ := exists_related h.functions hf
    obtain ⟨itself, rest⟩ := List.forall_mem_cons.1 (hp _ (List.mem_filter.1 hs).1)
    exact ⟨name ▸ itself, signature.named rest⟩
  · intro s hs
    obtain ⟨d, hd, name, -, members⟩ := exists_related h.structs hs
    obtain ⟨itself, rest⟩ := List.forall_mem_cons.1 (hp _ (List.mem_filter.1 hd).1)
    refine ⟨name ▸ itself, ?_, ?_⟩
    · intro f hf
      obtain ⟨_, hm, related⟩ := exists_related members hf
      obtain ⟨field, hfield, _, declared, rfl, -⟩ := mem_fieldSymbols (List.mem_filter.1 hm).1
      cases related
      exact rest _ (mem_fieldIdentifiers.2 ⟨field, hfield, declaredNames_identifiers declared⟩)
    · intro m hm
      obtain ⟨_, hk, -, name, -, -, -, -, signature⟩ := h.method_symbol hs hm
      obtain ⟨itself, rest⟩ := List.forall_mem_cons.1 (hp _ (List.mem_filter.1 hk).1)
      exact ⟨name ▸ itself, signature.named rest⟩
  · intro t ht
    obtain ⟨s, hs, e, he, resolved⟩ := h.resolved t ht
    exact ⟨e.identifiers, fun q hq => hp s hs q (Symbol.types_identifiers he hq),
      TypeExpr.resolve_identifiers resolved⟩

/-- **The names in an extracted package are words.** -/
theorem extracted_named {opts : ExtractOptions} {dir : String} {sources : List (String × String)}
    {x : Extraction} (h : (extract opts dir sources).1 = .ok x) : x.package.Named IsWord := by
  obtain ⟨read, name, files, reads, selected, rfl⟩ := extract_ok h
  refine ((fileItems_holds files).exactly dir name (files.map (·.1))).named ?_
  intro s hs q hq
  obtain ⟨file, hf, hs⟩ := List.mem_flatMap.1 hs
  obtain ⟨d, hd, hs⟩ := List.mem_flatMap.1 hs
  rw [selected.files] at hf
  obtain ⟨_, -, -, parsed⟩ := exists_related reads (List.mem_filter.1 hf).1
  exact SourceFile.parse_identifiers parsed d hd q (symbols_identifiers hs hq)

/-- **The name of an extracted package is a word.** -/
theorem extracted_word {opts : ExtractOptions} {dir : String} {sources : List (String × String)} {x : Extraction}
    (h : (extract opts dir sources).1 = .ok x) : IsWord x.package.name := by
  obtain ⟨read, name, files, reads, selected, rfl⟩ := extract_ok h
  obtain ⟨before, file, after, split, itself, -⟩ := selected.first
  obtain ⟨_, -, -, parsed⟩ := exists_related reads (split ▸ List.mem_append_right before List.mem_cons_self)
  have word := SourceFile.parse_package parsed
  rwa [itself] at word

end Extraction

end GoGlue
