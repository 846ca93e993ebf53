import GoGlue.Proofs.Extraction.Placement
import GoGlue.Proofs.Glue.Selectors

/-!
# Visibility of what the glue selects

The glue stands in a package of its own, where only exported names can be selected. The functions and
structs of an extracted package are exported, but the types of their parameters and fields need not be: any
name that is no built-in type is taken for a struct of the package, and visibility is asked of declarations
only. So whatever the glue selects is exported, or is a struct type inside the type of a parameter or field.

* `Surface.ofPackage_offers`: what the surface of a package has selected.
* `Glue.selects_exported`: what is selected is exported, or named by the type of a parameter or field.
* `Glue.selects_hidden`: a package for which it is not exported.
-/
namespace GoGlue

/-! ## Types that are taken -/

/-- The types of parameters and fields. -/
def Package.takenTypes (p : Package) : List GoType :=
  p.functions.flatMap (·.params.map (·.type)) ++ p.structs.flatMap fun s =>
    s.fields.map (·.type) ++ s.methods.flatMap (·.params.map (·.type))

namespace Surface

open Go

variable {p : Package} {P : Selector → Prop}

theorem takes_of_types {plan : CallPlan} {ts : List GoType} (h : plan.params.map (·.type) = ts)
    (ht : ∀ t ∈ ts, Selects p.name P t) : Takes p.name P plan :=
  fun s hs => ht s.type (h ▸ List.mem_map_of_mem hs)

/-- **What the surface of a package has selected**: the names of its functions and structs, and the struct
types inside the types that it takes. -/
theorem ofPackage_offers (functions : ∀ f ∈ p.functions, P ⟨.own p.name, f.name⟩)
    (structs : ∀ s ∈ p.structs, P ⟨.own p.name, s.name⟩)
    (types : ∀ t ∈ p.takenTypes, Selects p.name P t) : Offers p.name P (ofPackage p) := by
  obtain ⟨ofFunctions, ofStructs⟩ := List.forall_mem_append.1 types
  have members : ∀ s ∈ p.structs, (∀ f ∈ s.fields, Selects p.name P f.type) ∧
      ∀ m ∈ s.methods, ∀ t ∈ m.params.map (·.type), Selects p.name P t := by
    intro s hs
    obtain ⟨fields, methods⟩ := List.forall_mem_append.1 fun t ht =>
      ofStructs t (List.mem_flatMap.2 ⟨s, hs, ht⟩)
    exact ⟨fun f hf => fields _ (List.mem_map_of_mem hf),
      fun m hm t ht => methods t (List.mem_flatMap.2 ⟨m, hm, ht⟩)⟩
  have ofStruct : ∀ s ∈ (ofPackage p).structs, s.struct ∈ p.structs := fun s hs => (struct_source hs).1
  refine ⟨?_, fun s hs => structs _ (ofStruct s hs), ?_, ?_⟩
  · intro f hf
    obtain ⟨hm, plan⟩ := function_source hf
    exact ⟨functions _ hm, takes_of_types (CallPlan.ofSignature_params plan) fun t ht =>
      ofFunctions t (List.mem_flatMap.2 ⟨_, hm, ht⟩)⟩
  · intro s hs f hf plan hp
    rw [(struct_source hs).2] at hf
    obtain ⟨hm, getter, setter⟩ := field_source hf
    have type := (members _ (ofStruct s hs)).1 f.field hm
    rcases List.mem_append.1 hp with hp | hp
    · -- a getter takes nothing
      have none := CallPlan.ofGetter_params _ _ _ (getter plan (Option.mem_toList.1 hp))
      simp [Takes, none]
    · have set := setter plan (Option.mem_toList.1 hp)
      exact takes_of_types (CallPlan.ofSetter_params set) (by simpa using type)
  · intro s hs m hmm
    rw [(struct_source hs).2] at hmm
    obtain ⟨hm, plan⟩ := method_source hmm
    exact takes_of_types (CallPlan.ofSignature_params plan)
      ((members _ (ofStruct s hs)).2 m.method hm)

end Surface

/-! ## The glue of an extracted package -/

namespace Glue

open Extraction Go

/-- **What the glue selects is exported, or is a struct type that a parameter or field names**, at whatever
depth. -/
theorem selects_exported {opts : ExtractOptions} {dir : String} {sources : List (String × String)}
    {x : Extraction} {g : Glue} (h : (extract opts dir sources).1 = .ok x)
    (hg : ofPackage x.package = some g) : ∀ e ∈ g.entries, ∀ s ∈ e.selectors,
      isExported s.name = true ∨
        ∃ t ∈ x.package.takenTypes, ∃ n ∈ t.nodes, n.kind = .struct ∧
          Selector.ofStruct x.package.name n = s := by
  obtain ⟨read, name, files, -, -, rfl⟩ := extract_ok h
  have exactly := (fileItems_holds files).exactly dir name (files.map (·.1))
  have visible := exactly.onlyExported (exported_exportedBy files)
  obtain ⟨es, emission, he, emitted, rfl⟩ := Glue.ofPackage_eq_some_iff.1 hg
  refine entries_selects (Surface.ofPackage_offers ?_ ?_ ?_) he
  · exact fun f hf => .inl (visible.functions f hf)
  · exact fun s hs => .inl (visible.structs s hs).1
  · exact fun t ht n hn kind => .inr ⟨t, ht, n, hn, kind, rfl⟩

/-- An exported function that takes a struct which is not exported. -/
def area : List (String × String) :=
  [("geo.go", "package geo\n\ntype point struct{ X int }\n\nfunc Area(p point) int { return p.X }\n")]

theorem area_selectors :
    ∃ x g, (extract ⟨false, false⟩ "" area).1 = .ok x ∧ ofPackage x.package = some g ∧
      x.package.name = "geo" ∧
      g.entries.flatMap Entry.selectors = [⟨.own "geo", "Area"⟩, ⟨.own "geo", "point"⟩] := by
  have seen : ((extract ⟨false, false⟩ "" area).1.toOption.bind fun x =>
      (ofPackage x.package).map fun g => (x.package.name, g.entries.flatMap Entry.selectors))
      = some ("geo", [⟨.own "geo", "Area"⟩, ⟨.own "geo", "point"⟩]) := by decide +kernel
  obtain ⟨x, hx, hs⟩ := Option.bind_eq_some_iff.1 seen
  obtain ⟨g, hg, e⟩ := Option.map_eq_some_iff.1 hs
  obtain ⟨name, selectors⟩ := Prod.mk.inj e
  exact ⟨x, g, ok_of_toOption hx, hg, name, selectors⟩

/-- The type of its parameter is what `Area` has selected that is not exported. -/
theorem selects_exported_area :
    ∃ x g, (extract ⟨false, false⟩ "" area).1 = .ok x ∧ ofPackage x.package = some g ∧
      ∃ t ∈ x.package.takenTypes, ∃ n ∈ t.nodes, n.kind = .struct ∧
        Selector.ofStruct x.package.name n = ⟨.own "geo", "point"⟩ := by
  obtain ⟨x, g, hx, hg, -, selectors⟩ := area_selectors
  obtain ⟨e, he, hs⟩ : ∃ e ∈ g.entries, ⟨.own "geo", "point"⟩ ∈ e.selectors := by
    rw [← List.mem_flatMap, selectors]
    decide
  have hidden : ¬ isExported "point" = true := by decide +kernel
  exact ⟨x, g, hx, hg, (selects_exported hx hg e he _ hs).resolve_left hidden⟩

/-- **The glue of an extracted package may select a name that is not exported** from that package. -/
theorem selects_hidden :
    ∃ x g, (extract ⟨false, false⟩ "" area).1 = .ok x ∧ ofPackage x.package = some g ∧
      ∃ e ∈ g.entries, ∃ s ∈ e.selectors,
        s.qualifier = .own x.package.name ∧ isExported s.name = false := by
  obtain ⟨x, g, hx, hg, name, selectors⟩ := area_selectors
  obtain ⟨e, he, hs⟩ : ∃ e ∈ g.entries, ⟨.own "geo", "point"⟩ ∈ e.selectors := by
    rw [← List.mem_flatMap, selectors]
    decide
  exact ⟨x, g, hx, hg, e, he, _, hs, by rw [name], by decide +kernel⟩

end Glue

end GoGlue
