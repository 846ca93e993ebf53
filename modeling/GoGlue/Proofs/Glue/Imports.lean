import GoGlue.Proofs.Glue.Emitted
import Mathlib.Data.List.Nodup

/-!
# Imports of the glue

The glue imports what its entry points spell. Of the packages that can be wrapped they spell one only,
their own, at whatever depth a type of it stands; so the wrapped package is the only one that is imported
under a local name, and nothing is imported twice.

* `Go.entries_within`: entry points spell no wrapped package but their own.
* `Glue.mem_imports`: the imports are those of the qualifiers in the code.
* `Glue.named_import`: the only import with a local name is that of the wrapped package.
* `Glue.imports_nodup`, `Glue.plainImports_nodup`: nothing is imported twice.
-/
namespace GoGlue

/-! ## Qualifiers -/

namespace Go

/-- No package is spelled as the wrapped one but `own`. -/
def Within (own : String) (x : Selector) : Prop := ∀ package, x.qualifier = .own package → package = own

theorem within_own (own name : String) : Within own ⟨.own own, name⟩ := by simp [Within]

theorem within_ofStruct (own : String) (t : GoType) : Within own (.ofStruct own t) := by
  unfold Selector.ofStruct
  split <;> simp [Within]

theorem within_takes (own : String) (plan : CallPlan) : Takes own (Within own) plan :=
  fun _ _ n _ _ => within_ofStruct own n

/-- **The entry points of a package refer to no other package as the wrapped one.** -/
theorem entries_within {own : String} {surface : Surface} {es : List Entry}
    (h : entries own surface = some es) : ∀ e ∈ es, ∀ x ∈ e.selectors, Within own x :=
  entries_selects
    { functions := fun f _ => ⟨within_own own f.func.name, within_takes own f.plan⟩
      structs := fun s _ => within_own own s.struct.name
      accessors := fun _ _ _ _ plan _ => within_takes own plan
      methods := fun _ _ m _ => within_takes own m.plan } h

end Go

/-! ## Imports -/

namespace Glue

variable {p : Package} {g : Glue}

/-- The entry points of the glue, and where it comes from. -/
theorem ofPackage_entries (h : ofPackage p = some g) :
    Go.entries p.name (Surface.ofPackage p) = some g.entries ∧ g.importPath = p.effectiveImportPath := by
  obtain ⟨es, emission, he, -, rfl⟩ := ofPackage_eq_some_iff.1 h
  exact ⟨he, rfl⟩

theorem imports_nodup (h : ofPackage p = some g) : g.imports.Nodup := by
  obtain ⟨es, emission, -, -, rfl⟩ := ofPackage_eq_some_iff.1 h
  exact Writer.imports_run_nodup List.nodup_nil _

/-- **An import is that of a qualifier in the code**: what was asked for on the way is what is spelled. -/
theorem mem_imports (h : ofPackage p = some g) {i : Import} :
    i ∈ g.imports ↔ ∃ e ∈ g.entries, ∃ q ∈ e.qualifiers, i = importOf g.importPath q := by
  obtain ⟨es, emission, he, emitted, rfl⟩ := ofPackage_eq_some_iff.1 h
  have emits := Go.emits_of emitted he
  rw [Writer.mem_imports_run, ← Writer.mem_asked, emits.asked]
  simp [Writer.new, eq_comm]

theorem plainImports_nodup (g : Glue) : g.plainImports.Nodup := Text.sortedSet_nodup _

/-- **Only the wrapped package is imported under a local name**, and that is its own. -/
theorem named_import (h : ofPackage p = some g) :
    ∀ i ∈ g.imports, i.names ≠ "" → i = ⟨p.name, p.effectiveImportPath⟩ := by
  intro i hi named
  obtain ⟨e, hm, q, hq, rfl⟩ := (mem_imports h).1 hi
  obtain ⟨es, emission, he, -, rfl⟩ := ofPackage_eq_some_iff.1 h
  rw [Go.Entry.qualifiers, Go.Stmt.qualifiersAll_eq] at hq
  obtain ⟨x, hx, rfl⟩ := List.mem_map.1 hq
  cases hx' : x.qualifier with
  | own package => simp [importOf, Go.entries_within he e hm x hx package hx']
  | foreign package =>
    rw [hx'] at named
    exact absurd rfl named

end Glue

end GoGlue
