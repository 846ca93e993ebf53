import GoGlue.Proofs.Extraction.Sources

/-!
# The exported symbols of a declaration

Every symbol that a declaration exports, in order: functions, structs with their fields, and methods. A
symbol can cross the boundary or there is an obstacle, and what it becomes follows from that. The items of
a declaration are what becomes of its symbols, no more and no less.

* `obstacle_eq_none`: the symbols that can cross the boundary.
* `signature_cases`: a signature is resolved as a whole or refused for its first obstacle.
* `declItems_holds`: what one declaration contributes.
-/
namespace GoGlue.Extraction

/-! ## Symbols -/

/-- The type a method belongs to. -/
structure Owner where
  name : String
  byPointer : Bool
  /-- The type has arguments. -/
  instantiated : Bool

/-- A named type, or an instance of one. -/
def Owner.bare (byPointer : Bool) : TypeExpr → Option Owner
  | .ident name => some ⟨name, byPointer, false⟩
  | .generic base _ => base.baseName.map (⟨·, byPointer, true⟩)
  | _ => none

/-- The owner of the methods with a receiver of that type. -/
def Owner.ofReceiver : TypeExpr → Option Owner
  | .pointer t => Owner.bare true t
  | t => Owner.bare false t

/-- An exported symbol with its declaration. -/
inductive Symbol where
  | func (f : FuncDecl)
  | struct (doc : String) (s : TypeSpec) (fields : List Field)
  | field (owner : String) (f : Field) (name : String)
  | method (owner : Owner) (recv : Field) (f : FuncDecl)

/-- The names that a field declaration gives, where an embedded field is named after its base type. -/
def declaredNames : Field → List String
  | .mk [] type _ => type.baseName.toList
  | .mk names _ _ => names

def fieldSymbols (owner : String) (fields : List Field) : List Symbol :=
  fields.flatMap fun f => ((declaredNames f).filter isExported).map (.field owner f)

/-- A type declares an exported struct, with the fields that stay when the struct does. -/
def specSymbols (doc : String) (s : TypeSpec) : List Symbol :=
  match s.type with
  | .struct fields =>
    if isExported s.name && !s.isAlias then
      .struct doc s fields :: if s.generic then [] else fieldSymbols s.name fields
    else []
  | _ => []

/-- The symbols that a declaration exports. -/
def symbols : Decl → List Symbol
  | .func f =>
    match f.recv with
    | none => if isExported f.name then [.func f] else []
    | some recv =>
      match Owner.ofReceiver recv.type with
      | none => []
      | some owner => if isExported f.name && isExported owner.name then [.method owner recv f] else []
  | .type t => t.specs.flatMap (specSymbols t.doc)

namespace Symbol

/-- The name under which the symbol is reported. -/
def name : Symbol → String
  | func f => f.name
  | struct _ s _ => s.name
  | field owner _ name => owner ++ "." ++ name
  | method owner _ f => owner.name ++ "." ++ f.name

/-- All that the name is made of is exported. -/
def Exported : Symbol → Prop
  | func f => isExported f.name = true
  | struct _ s _ => isExported s.name = true
  | field owner _ name => isExported owner = true ∧ isExported name = true
  | method owner _ f => isExported owner.name = true ∧ isExported f.name = true

/-! ## What can be kept -/

/-- The first type of the fields that cannot cross the boundary. -/
def refusal (fields : List Field) : Option Unsupported :=
  fields.findSome? fun f =>
    match f.type.resolve with
    | .ok _ => none
    | .error cause => some cause

/-- Why the symbol cannot cross the boundary. -/
def obstacle : Symbol → Option Unsupported
  | func f => if f.generic then some .generic else refusal (f.params ++ f.results)
  | struct _ s _ => if s.generic then some .generic else none
  | field _ f _ => refusal [f]
  | method owner _ f =>
    if owner.instantiated || f.generic then some .generic else refusal (f.params ++ f.results)

/-- The types of all fields resolve. -/
def Resolve (fields : List Field) : Prop := ∀ f ∈ fields, ∃ t, f.type.resolve = .ok t

/-- The symbol can cross the boundary: nothing about it is generic, and its types resolve. -/
def Kept : Symbol → Prop
  | func f => f.generic = false ∧ Resolve f.params ∧ Resolve f.results
  | struct _ s _ => s.generic = false
  | field _ f _ => ∃ t, f.type.resolve = .ok t
  | method owner _ f =>
    owner.instantiated = false ∧ f.generic = false ∧ Resolve f.params ∧ Resolve f.results

theorem refusal_eq_none {fields : List Field} : refusal fields = none ↔ Resolve fields := by
  simp only [refusal, Resolve, List.findSome?_eq_none_iff]
  refine forall₂_congr fun f _ => ?_
  cases f.type.resolve <;> simp

theorem obstacle_eq_none (s : Symbol) : s.obstacle = none ↔ s.Kept := by
  have append (xs ys : List Field) : Resolve (xs ++ ys) ↔ Resolve xs ∧ Resolve ys := by
    simp [Resolve, or_imp, forall_and]
  cases s with
  | func f => cases hg : f.generic <;> simp [obstacle, Kept, hg, refusal_eq_none, append]
  | struct doc s fields => cases hg : s.generic <;> simp [obstacle, Kept, hg]
  | field owner f name => simp [obstacle, Kept, refusal_eq_none, Resolve]
  | method owner recv f =>
    cases hi : owner.instantiated <;> cases hg : f.generic <;>
      simp [obstacle, Kept, hi, hg, refusal_eq_none, append]

instance (s : Symbol) : Decidable s.Kept := decidable_of_iff _ s.obstacle_eq_none

end Symbol

/-! ## What a symbol becomes -/

/-- The parameters that fields stand for: one for each name, or a single one without a name. -/
def expand (fields : List Field) : List (String × TypeExpr) :=
  fields.flatMap fun f =>
    match f.names with
    | [] => [("", f.type)]
    | names => names.map (·, f.type)

def ParamsOf (fields : List Field) (ps : List Param) : Prop :=
  List.Forall₂ (fun d p => p.name = d.1 ∧ d.2.resolve = .ok p.type) (expand fields) ps

structure SignatureOf (f : FuncDecl) (sig : Signature) : Prop where
  params : ParamsOf f.params sig.params
  results : ParamsOf f.results sig.results
  variadic : sig.isVariadic = true
    ↔ ∃ before names t tag, f.params = before ++ [.mk names (.ellipsis t) tag]

inductive FuncOf : Symbol → Func → Prop
  | mk {f : FuncDecl} {g : Func} (name : g.name = f.name) (doc : g.doc = f.doc)
      (signature : SignatureOf f g.toSignature) : FuncOf (.func f) g

inductive FieldOf : Symbol → StructField → Prop
  | mk {owner name : String} {f : Field} {t : GoType} (type : f.type.resolve = .ok t) :
      FieldOf (.field owner f name) ⟨name, t, f.tag.getD "", true⟩

inductive MethodOf : Symbol → Method → Prop
  | mk {owner : Owner} {recv : Field} {f : FuncDecl} {m : Method} (name : m.name = f.name)
      (doc : m.doc = f.doc) (receiverName : m.receiverName = recv.names.head?.getD "")
      (receiverType : m.receiverType = owner.name) (receiverIsPtr : m.receiverIsPtr = owner.byPointer)
      (signature : SignatureOf f m.toSignature) : MethodOf (.method owner recv f) m

inductive SymbolKind where
  | func | struct | field | method
  deriving DecidableEq

def Symbol.kind : Symbol → SymbolKind
  | func _ => .func
  | struct _ _ _ => .struct
  | field _ _ _ => .field
  | method _ _ _ => .method

/-- The symbols of a kind that can cross the boundary. -/
def keptOf (k : SymbolKind) (ss : List Symbol) : List Symbol :=
  ss.filter fun s => s.kind = k ∧ s.Kept

/-- The symbols that cannot cross the boundary. -/
def unkept (ss : List Symbol) : List Symbol := ss.filter fun s => ¬ s.Kept

/-- The struct has the kept fields of its declaration; its methods are declared elsewhere. -/
inductive StructOf : Symbol → Struct → Prop
  | mk {outer : String} {s : TypeSpec} {fields : List Field} {t : Struct} (name : t.name = s.name)
      (doc : t.doc = if outer = "" then s.doc else outer)
      (members : List.Forall₂ FieldOf (keptOf .field (fieldSymbols s.name fields)) t.fields) :
      StructOf (.struct outer s fields) t

/-- The symbol is reported with what keeps it from crossing the boundary. -/
def LeftOut (s : Symbol) (d : Dropped) : Prop := d.symbol = s.name ∧ s.obstacle = some d.cause

theorem LeftOut.not_kept {s : Symbol} {d : Dropped} (h : LeftOut s d) : ¬ s.Kept := by
  rw [← Symbol.obstacle_eq_none, h.2]
  simp

/-! ## Signatures -/

theorem params_of {f : Field} {t : GoType} (h : f.type.resolve = .ok t) :
    ∃ ps, params f = .ok ps ∧ ParamsOf [f] ps := by
  obtain ⟨names, type, tag⟩ := f
  refine ⟨_, by rw [params, h]; rfl, ?_⟩
  have resolved : TypeExpr.resolve type = .ok t := h
  cases names with
  | nil => simpa [ParamsOf, expand, Field.names, Field.type, Param.unnamed] using resolved
  | cons name more =>
    simp only [ParamsOf, expand, Field.names, Field.type, List.flatMap_cons, List.flatMap_nil,
      List.append_nil, reduceCtorEq, if_false, List.forall₂_map_left_iff,
      List.forall₂_map_right_iff, List.forall₂_same, resolved]
    exact fun _ _ => ⟨trivial, trivial⟩

/-- Parameters are made from all fields, or refused for the first type that cannot cross. -/
theorem allParams_cases (fields : List Field) :
    (∃ ps, allParams fields = .ok ps ∧ Symbol.refusal fields = none ∧ ParamsOf fields ps) ∨
    ∃ cause, allParams fields = .error cause ∧ Symbol.refusal fields = some cause := by
  induction fields with
  | nil => exact .inl ⟨[], rfl, rfl, .nil⟩
  | cons f rest ih =>
    cases hr : f.type.resolve with
    | error cause =>
      refine .inr ⟨cause, ?_, by simp [Symbol.refusal, hr]⟩
      simp [allParams, params, hr, Except.map, bind, Except.bind]
    | ok t =>
      have refusal : Symbol.refusal (f :: rest) = Symbol.refusal rest := by
        simp [Symbol.refusal, hr]
      obtain ⟨first, hf, hp⟩ := params_of hr
      rw [refusal]
      rcases ih with ⟨more, ha, hn, hm⟩ | ⟨cause, ha, hs⟩
      · refine .inl ⟨first ++ more, by simp [allParams, hf, ha, bind, Except.bind, pure, Except.pure],
          hn, ?_⟩
        have split : expand (f :: rest) = expand [f] ++ expand rest := by simp [expand]
        rw [ParamsOf, split]
        exact List.rel_append hp hm
      · exact .inr ⟨cause, by simp [allParams, hf, ha, bind, Except.bind], hs⟩

theorem isVariadic_iff (fields : List Field) :
    isVariadic fields = true
      ↔ ∃ before names t tag, fields = before ++ [Field.mk names (.ellipsis t) tag] := by
  constructor
  · intro h
    unfold isVariadic at h
    split at h
    · rename_i names t tag hl
      obtain ⟨before, rfl⟩ := List.getLast?_eq_some_iff.1 hl
      exact ⟨before, names, t, tag, rfl⟩
    · cases h
  · rintro ⟨before, names, t, tag, rfl⟩
    simp [isVariadic]

/-- A signature is resolved as a whole, or refused for its first type that cannot cross. -/
theorem signature_cases (f : FuncDecl) :
    (∃ sig, signature f = .ok sig ∧ Symbol.refusal (f.params ++ f.results) = none ∧
      SignatureOf f sig) ∨
    ∃ cause, signature f = .error cause ∧
      Symbol.refusal (f.params ++ f.results) = some cause := by
  have append : Symbol.refusal (f.params ++ f.results)
      = (Symbol.refusal f.params).or (Symbol.refusal f.results) := by
    simp [Symbol.refusal, List.findSome?_append]
  rw [append]
  rcases allParams_cases f.params with ⟨ps, hp, hn, ho⟩ | ⟨cause, hp, hs⟩
  · rcases allParams_cases f.results with ⟨rs, hr, hrn, hro⟩ | ⟨cause, hr, hs⟩
    · refine .inl ⟨⟨ps, rs, isVariadic f.params⟩, ?_, by rw [hn, hrn]; rfl,
        ⟨ho, hro, isVariadic_iff f.params⟩⟩
      simp [signature, hp, hr, bind, Except.bind, pure, Except.pure]
    · exact .inr ⟨cause, by simp [signature, hp, hr, bind, Except.bind], by rw [hn, hs]; rfl⟩
  · exact .inr ⟨cause, by simp [signature, hp, bind, Except.bind], by rw [hs]; rfl⟩

/-! ## One declaration -/

/-- The items hold what becomes of the symbols, in order. -/
structure Holds (ss : List Symbol) (items : List Item) : Prop where
  functions : List.Forall₂ FuncOf (keptOf .func ss) (items.filterMap Item.func?)
  structs : List.Forall₂ StructOf (keptOf .struct ss) (items.filterMap Item.struct?)
  methods : List.Forall₂ MethodOf (keptOf .method ss) (items.filterMap Item.method?)
  dropped : List.Forall₂ LeftOut (unkept ss) (items.filterMap Item.dropped?)

namespace Holds

theorem nil : Holds [] [] := ⟨.nil, .nil, .nil, .nil⟩

theorem append {ss ts : List Symbol} {is js : List Item} (h : Holds ss is) (k : Holds ts js) :
    Holds (ss ++ ts) (is ++ js) := by
  constructor <;> simp only [keptOf, unkept, List.filter_append, List.filterMap_append]
  · exact List.rel_append h.functions k.functions
  · exact List.rel_append h.structs k.structs
  · exact List.rel_append h.methods k.methods
  · exact List.rel_append h.dropped k.dropped

theorem flatMap {α : Type} {f : α → List Symbol} {g : α → List Item} (h : ∀ a, Holds (f a) (g a))
    (as : List α) : Holds (as.flatMap f) (as.flatMap g) := by
  induction as with
  | nil => exact nil
  | cons a rest ih => exact (h a).append ih

/-- What one symbol becomes. -/
def Becomes (s : Symbol) : Item → Prop
  | .func g => FuncOf s g ∧ s.Kept
  | .struct t => StructOf s t ∧ s.Kept
  | .method m => MethodOf s m ∧ s.Kept
  | .dropped d => LeftOut s d

theorem single {s : Symbol} {i : Item} (h : Becomes s i) : Holds [s] [i] := by
  cases i with
  | dropped d =>
    have unkept' : ¬ s.Kept := h.not_kept
    constructor <;>
      simp [keptOf, unkept, unkept', Item.func?, Item.struct?, Item.method?, Item.dropped?]
    exact h
  | func g =>
    obtain ⟨h, k⟩ := h
    have kind : s.kind = .func := by cases h; rfl
    constructor <;>
      simp [keptOf, unkept, k, kind, Item.func?, Item.struct?, Item.method?, Item.dropped?]
    exact h
  | struct t =>
    obtain ⟨h, k⟩ := h
    have kind : s.kind = .struct := by cases h; rfl
    constructor <;>
      simp [keptOf, unkept, k, kind, Item.func?, Item.struct?, Item.method?, Item.dropped?]
    exact h
  | method m =>
    obtain ⟨h, k⟩ := h
    have kind : s.kind = .method := by cases h; rfl
    constructor <;>
      simp [keptOf, unkept, k, kind, Item.func?, Item.struct?, Item.method?, Item.dropped?]
    exact h

end Holds

theorem funcItems_holds {f : FuncDecl} (h : isExported f.name = true) :
    Holds [.func f] (funcItems f) := by
  have visible : (!isExported f.name) = false := by rw [h]; rfl
  unfold funcItems
  rw [visible, if_neg (by simp)]
  cases hg : f.generic with
  | true => exact .single ⟨rfl, by simp [Symbol.obstacle, hg]⟩
  | false =>
    rcases signature_cases f with ⟨sig, hs, hn, ho⟩ | ⟨cause, hs, hc⟩
    · have kept : (Symbol.func f).Kept := by
        rw [← Symbol.obstacle_eq_none]
        simpa [Symbol.obstacle, hg] using hn
      simp only [hs, Bool.false_eq_true, if_false]
      exact .single ⟨.mk rfl rfl ho, kept⟩
    · simp only [hs, Bool.false_eq_true, if_false]
      exact .single ⟨rfl, by simpa [Symbol.obstacle, hg] using hc⟩

/-- The type behind a receiver. A receiver that has none may still be taken for one of the empty name, which
is not exported. -/
theorem receiverType_cases (t : TypeExpr) :
    (∃ o, Owner.ofReceiver t = some o ∧ receiverType t = some (o.name, o.byPointer, o.instantiated)) ∨
    Owner.ofReceiver t = none ∧
      (receiverType t = none ∨ ∃ byPointer generic, receiverType t = some ("", byPointer, generic)) := by
  have bare (b : TypeExpr) (p : Bool) :
      (∃ o, b.baseName.map (Owner.mk · p true) = some o ∧
        some (b.baseName.getD "", p, true) = some (o.name, o.byPointer, o.instantiated)) ∨
      b.baseName.map (Owner.mk · p true) = none ∧
        ∃ q g, some (b.baseName.getD "", p, true) = some ("", q, g) := by
    cases b.baseName <;> simp
  cases t with
  | ident name => exact .inl ⟨_, rfl, rfl⟩
  | generic base args =>
    rcases bare base false with h | ⟨hn, h⟩
    · exact .inl h
    · exact .inr ⟨hn, .inr h⟩
  | pointer e =>
    cases e with
    | ident name => exact .inl ⟨_, rfl, rfl⟩
    | generic base args =>
      rcases bare base true with h | ⟨hn, h⟩
      · exact .inl h
      · exact .inr ⟨hn, .inr h⟩
    | _ => exact .inr ⟨rfl, .inl rfl⟩
  | _ => exact .inr ⟨rfl, .inl rfl⟩

theorem methodItems_holds {recv : Field} {f : FuncDecl} (h : f.recv = some recv) :
    Holds (symbols (.func f)) (methodItems recv f) := by
  simp only [methodItems, symbols, h]
  rcases receiverType_cases recv.type with ⟨o, ho, hr⟩ | ⟨ho, hr | ⟨p, g, hr⟩⟩
  · simp only [ho, hr, ← Bool.not_and]
    cases isExported f.name && isExported o.name with
    | false => exact .nil
    | true =>
      rw [if_pos rfl, Bool.not_true, if_neg (by simp)]
      cases hg : (o.instantiated || f.generic) with
      | true => exact .single ⟨rfl, by simp [Symbol.obstacle, hg]⟩
      | false =>
        rcases signature_cases f with ⟨sig, hs, hn, hsig⟩ | ⟨cause, hs, hc⟩
        · have kept : (Symbol.method o recv f).Kept := by
            rw [← Symbol.obstacle_eq_none]
            simpa [Symbol.obstacle, hg] using hn
          simp only [hs, Bool.false_eq_true, if_false]
          exact .single ⟨.mk rfl rfl rfl rfl rfl hsig, kept⟩
        · simp only [hs, Bool.false_eq_true, if_false]
          exact .single ⟨rfl, by simpa [Symbol.obstacle, hg] using hc⟩
  · simp only [ho, hr]
    exact .nil
  · have silent : isExported "" = false := rfl
    simp only [ho, hr, silent, Bool.not_false, Bool.or_true, if_true]
    exact .nil

theorem fieldNames_eq (f : Field) : fieldNames f = (declaredNames f).filter isExported := by
  obtain ⟨names, type, tag⟩ := f
  cases names <;> rfl

/-- A field declaration keeps all its exported names, or reports each of them. -/
theorem structFields_cases (owner : String) (f : Field) :
    List.Forall₂ FieldOf (keptOf .field (fieldSymbols owner [f])) (structFields owner f).1 ∧
    List.Forall₂ LeftOut (unkept (fieldSymbols owner [f])) (structFields owner f).2 := by
  simp only [structFields, fieldNames_eq, fieldSymbols, List.flatMap_cons, List.flatMap_nil,
    List.append_nil]
  generalize (declaredNames f).filter isExported = names
  cases hr : f.type.resolve with
  | ok t =>
    have kept (name : String) : (Symbol.field owner f name).Kept := ⟨t, hr⟩
    simp only [keptOf, unkept, List.filter_map, Function.comp_def, kept, Symbol.kind]
    simp [List.forall₂_map_left_iff, List.forall₂_map_right_iff, List.forall₂_same, FieldOf.mk hr]
  | error cause =>
    have obstacle (name : String) : (Symbol.field owner f name).obstacle = some cause := by
      simp [Symbol.obstacle, Symbol.refusal, hr]
    have unkept' (name : String) : ¬ (Symbol.field owner f name).Kept := by
      simp [← Symbol.obstacle_eq_none, obstacle]
    simp only [keptOf, unkept, List.filter_map, Function.comp_def, unkept', Symbol.kind]
    simp [List.forall₂_map_left_iff, List.forall₂_map_right_iff, List.forall₂_same, LeftOut, obstacle,
      Symbol.name]

theorem fields_holds (owner : String) (fields : List Field) :
    List.Forall₂ FieldOf (keptOf .field (fieldSymbols owner fields))
      ((fields.map (structFields owner)).flatMap (·.1)) ∧
    List.Forall₂ LeftOut (unkept (fieldSymbols owner fields))
      ((fields.map (structFields owner)).flatMap (·.2)) := by
  induction fields with
  | nil => exact ⟨.nil, .nil⟩
  | cons f rest ih =>
    have split : fieldSymbols owner (f :: rest) = fieldSymbols owner [f] ++ fieldSymbols owner rest := by
      simp [fieldSymbols]
    obtain ⟨kept, unkept'⟩ := structFields_cases owner f
    simp only [split, keptOf, unkept, List.filter_append, List.map_cons, List.flatMap_cons]
    exact ⟨List.rel_append kept ih.1, List.rel_append unkept' ih.2⟩

theorem mem_fieldSymbols {owner : String} {fields : List Field} {s : Symbol}
    (h : s ∈ fieldSymbols owner fields) :
    ∃ f ∈ fields, ∃ name ∈ declaredNames f, s = .field owner f name ∧ isExported name = true := by
  obtain ⟨f, hf, h⟩ := List.mem_flatMap.1 h
  obtain ⟨name, hn, rfl⟩ := List.mem_map.1 h
  exact ⟨f, hf, name, (List.mem_filter.1 hn).1, rfl, (List.mem_filter.1 hn).2⟩

theorem keptOf_fieldSymbols {k : SymbolKind} (h : k ≠ .field) (owner : String) (fields : List Field) :
    keptOf k (fieldSymbols owner fields) = [] := by
  refine List.filter_eq_nil_iff.2 fun s hs => ?_
  obtain ⟨f, -, name, -, rfl, -⟩ := mem_fieldSymbols hs
  simp [Symbol.kind, h.symm]

/-- A struct that stays comes after the fields of it that are left out. -/
theorem struct_holds {doc : String} {s : TypeSpec} {fields : List Field} {t : Struct} {ds : List Dropped}
    (kept : s.generic = false) (h : StructOf (.struct doc s fields) t)
    (left : List.Forall₂ LeftOut (unkept (fieldSymbols s.name fields)) ds) :
    Holds (.struct doc s fields :: fieldSymbols s.name fields) (ds.map .dropped ++ [.struct t]) := by
  have stays : (Symbol.struct doc s fields).Kept := kept
  have silent {β : Type} (f : Item → Option β) (hf : ∀ d, f (.dropped d) = none) :
      (ds.map Item.dropped).filterMap f = [] := by simp [hf]
  have others {k : SymbolKind} (hk : k ≠ .field) :
      keptOf k (.struct doc s fields :: fieldSymbols s.name fields)
        = keptOf k [.struct doc s fields] := by
    have := keptOf_fieldSymbols hk s.name fields
    simp only [keptOf] at this
    simp only [keptOf, List.filter_cons, this, List.filter_nil]
  constructor
  · rw [others (by decide), List.filterMap_append, silent _ fun _ => rfl]
    exact .nil
  · rw [others (by decide), List.filterMap_append, silent _ fun _ => rfl]
    exact (Holds.single (i := .struct t) ⟨h, stays⟩).structs
  · rw [others (by decide), List.filterMap_append, silent _ fun _ => rfl]
    exact .nil
  · have dropped : (ds.map Item.dropped ++ [Item.struct t]).filterMap Item.dropped? = ds := by
      simp [List.filterMap_append, List.filterMap_map, Function.comp_def, Item.dropped?]
    have rest : unkept (.struct doc s fields :: fieldSymbols s.name fields)
        = unkept (fieldSymbols s.name fields) := by
      simp [unkept, stays]
    rw [dropped, rest]
    exact left

theorem specItems_holds (doc : String) (s : TypeSpec) :
    Holds (specSymbols doc s) (specItems doc s) := by
  unfold specSymbols specItems
  cases s.type with
  | struct fields =>
    have hidden : (s.isAlias || !isExported s.name) = !(isExported s.name && !s.isAlias) := by
      cases s.isAlias <;> cases isExported s.name <;> rfl
    simp only [hidden]
    cases isExported s.name && !s.isAlias with
    | false => exact .nil
    | true =>
      simp only [if_true, Bool.not_true, Bool.false_eq_true, if_false]
      cases hg : s.generic with
      | true => exact .single (i := .dropped _) ⟨rfl, by simp [Symbol.obstacle, hg]⟩
      | false =>
        simp only [Bool.false_eq_true, if_false]
        obtain ⟨kept, left⟩ := fields_holds s.name fields
        exact struct_holds hg (.mk rfl rfl kept) left
  | _ => exact .nil

/-- **One declaration.** Its items hold what becomes of the symbols that it exports. -/
theorem declItems_holds (d : Decl) : Holds (symbols d) (declItems d) := by
  cases d with
  | type t => exact .flatMap (specItems_holds t.doc) t.specs
  | func f =>
    cases hr : f.recv with
    | some recv =>
      simp only [declItems, hr]
      exact methodItems_holds hr
    | none =>
      simp only [declItems, symbols, hr]
      cases he : isExported f.name with
      | true => exact funcItems_holds he
      | false =>
        simp only [funcItems, he]
        exact .nil

end GoGlue.Extraction
