import GoGlue.Decl.Parser
import GoGlue.Proofs.Decl.Rendering

/-!
# What the parser sees ahead of a written type

Go's grammar needs look-ahead in four places: a parameter that begins with a name, a struct field that
begins with a name, a square bracket after a name, and a square bracket after the name of a declared
type. Each decision is right on written types, because brackets are balanced in them.

* `Balanced.type`: the brackets of a written type are balanced.
* `closeOffset_balanced`: the bracket that closes a group is found behind balanced tokens.
* `beginsArray_head`, `beginsArray_args`: an array or slice type is told from type arguments.
* `entryForm_type`, `isEmbedded_type`: a type after a name makes that name a parameter or field name.
-/
namespace GoGlue.Parse

/-! ## Balanced brackets -/

/-- Tokens in which every bracket has its partner. -/
inductive Balanced : List Token → Prop
  | nil : Balanced []
  | plain {t : Token} {w : List Token} (ho : t.isOpening = false) (hc : t.isClosing = false)
      (hw : Balanced w) : Balanced (t :: w)
  | group {o c : Token} {v w : List Token} (ho : o.isOpening = true) (hco : c.isOpening = false)
      (hc : c.isClosing = true) (hv : Balanced v) (hw : Balanced w) :
      Balanced (o :: (v ++ c :: w))

namespace Balanced

theorem append {v w : List Token} (hv : Balanced v) (hw : Balanced w) : Balanced (v ++ w) := by
  induction hv with
  | nil => exact hw
  | plain ho hc _ ih => exact .plain ho hc ih
  | group ho hco hc hv _ _ ih =>
    rw [List.cons_append, List.append_assoc, List.cons_append]
    exact .group ho hco hc hv ih

theorem separated {ws : List (List Token)} (h : ∀ w ∈ ws, Balanced w) :
    Balanced (GoGlue.separated ws) := by
  induction ws with
  | nil => exact .nil
  | cons w ws ih =>
    have hw := h w (by simp)
    cases ws with
    | nil => exact hw
    | cons v ws => exact hw.append (.plain rfl rfl (ih fun x hx => h x (by simp [hx])))

theorem terminated {ws : List (List Token)} (h : ∀ w ∈ ws, Balanced w) :
    Balanced (GoGlue.terminated ws) := by
  induction ws with
  | nil => exact .nil
  | cons w ws ih =>
    rw [GoGlue.terminated, List.flatMap_cons]
    exact ((h w (by simp)).append (.plain rfl rfl .nil)).append (ih fun x hx => h x (by simp [hx]))

theorem list {ws : List (List Token)} (h : ∀ w ∈ ws, Balanced w) : Balanced (listTokens ws) :=
  .group rfl rfl rfl (separated h) .nil

theorem results {ws : List (List Token)} (h : ∀ w ∈ ws, Balanced w) :
    Balanced (resultTokens ws) := by
  cases ws with
  | nil => exact .nil
  | cons w ws => exact list h

theorem names (names : List String) : Balanced (nameTokens names) := by
  refine separated fun w hw => ?_
  obtain ⟨name, -, rfl⟩ := List.mem_map.mp hw
  exact .plain rfl rfl .nil

theorem field {f : Field} (h : Balanced f.type.render) : Balanced f.render := by
  obtain ⟨names, type, tag⟩ := f
  rw [Field.render]
  refine (Balanced.names names).append (h.append ?_)
  cases tag with
  | none => exact .nil
  | some tag => exact .plain rfl rfl .nil

theorem fields {fs : List Field} (h : ∀ f ∈ fs, Balanced f.type.render) :
    ∀ w ∈ renderFields fs, Balanced w := by
  intro w hw
  rw [renderFields_eq] at hw
  obtain ⟨f, hf, rfl⟩ := List.mem_map.mp hw
  exact field (h f hf)

theorem types {ts : List TypeExpr} (h : ∀ t ∈ ts, Balanced t.render) :
    ∀ w ∈ renderTypes ts, Balanced w := by
  intro w hw
  rw [renderTypes_eq] at hw
  obtain ⟨t, ht, rfl⟩ := List.mem_map.mp hw
  exact h t ht

theorem of_repeated {t : TypeExpr} (h : Balanced t.repeated.render) : Balanced t.render := by
  cases t with
  | ellipsis elem => exact .plain rfl rfl h
  | _ => exact h

/-- The brackets of a written type are balanced. -/
theorem type {t : TypeExpr} (h : t.Printable) : Balanced t.render := by
  induction h with
  | ident name => exact .plain rfl rfl .nil
  | selector package name => exact .plain rfl rfl (.plain rfl rfl (.plain rfl rfl .nil))
  | pointer _ ih => exact .plain rfl rfl ih
  | slice _ ih => exact .group rfl rfl rfl .nil ih
  | array len _ ih =>
    have hl : Balanced [lengthToken len] := by cases len <;> exact .plain rfl rfl .nil
    exact .group rfl rfl rfl hl ih
  | map _ _ ihk ihv => exact .plain rfl rfl (.group rfl rfl rfl ihk ihv)
  | chan dir _ ih =>
    have hg := Balanced.group (o := .symbol .lparen) (c := .symbol .rparen) rfl rfl rfl ih .nil
    cases dir with
    | both => exact .plain rfl rfl hg
    | send => exact .plain rfl rfl (.plain rfl rfl hg)
    | recv => exact .plain rfl rfl (.plain rfl rfl hg)
  | func _ _ _ _ ihp ihr =>
    have params := list (fields fun f hf => of_repeated (ihp f hf))
    exact .plain rfl rfl (params.append (results (fields fun f hf => of_repeated (ihr f hf))))
  | interface empty =>
    cases empty with
    | true => exact .plain rfl rfl (.group rfl rfl rfl .nil .nil)
    | false =>
      exact .plain rfl rfl (.group rfl rfl rfl (.plain rfl rfl (.group rfl rfl rfl .nil .nil)) .nil)
  | struct _ _ ih => exact .plain rfl rfl (.group rfl rfl rfl (.terminated (fields ih)) .nil)
  | generic hb _ _ ih =>
    rw [TypeExpr.render]
    refine .append ?_ (.group rfl rfl rfl (separated (types ih)) .nil)
    rcases TypeExpr.isBase_cases hb with ⟨name, rfl⟩ | ⟨package, name, rfl⟩
    · exact .plain rfl rfl .nil
    · exact .plain rfl rfl (.plain rfl rfl (.plain rfl rfl .nil))

theorem args {args : List TypeExpr} (h : ∀ a ∈ args, a.Printable) :
    Balanced (GoGlue.separated (renderTypes args)) :=
  separated (types fun a ha => type (h a ha))

end Balanced

theorem closeOffset_plain {t : Located} (ho : t.token.isOpening = false)
    (hc : t.token.isClosing = false) (depth : Nat) (r : Tokens) :
    closeOffset depth (t :: r) = (closeOffset depth r).map (· + 1) := by
  rw [closeOffset.eq_def]
  simp [ho, hc]

theorem closeOffset_opening {t : Located} (ho : t.token.isOpening = true) (depth : Nat)
    (r : Tokens) : closeOffset depth (t :: r) = (closeOffset (depth + 1) r).map (· + 1) := by
  rw [closeOffset.eq_def]
  simp [ho]

theorem closeOffset_closing {t : Located} (ho : t.token.isOpening = false)
    (hc : t.token.isClosing = true) (depth : Nat) (r : Tokens) :
    closeOffset (depth + 1) (t :: r) = (closeOffset depth r).map (· + 1) := by
  rw [closeOffset.eq_def]
  simp [ho, hc]

/-- The bracket that closes a group is found behind balanced tokens. -/
theorem closeOffset_balanced {w : List Token} (h : Balanced w) (pos : Nat → Position) (depth : Nat)
    (r : Tokens) :
    closeOffset depth (place pos w ++ r) = (closeOffset depth r).map (· + w.length) := by
  induction h generalizing pos depth r with
  | nil => simp
  | plain ho hc _ ih =>
    rw [place_cons, List.cons_append, closeOffset_plain ho hc, ih]
    simp [Option.map_map, Function.comp_def, Nat.add_assoc]
  | @group o c v w ho hco hc _ _ ihv ihw =>
    rw [place_cons, place_append, List.cons_append, List.append_assoc, closeOffset_opening ho, ihv,
      place_cons, List.cons_append, closeOffset_closing hco hc, ihw]
    simp only [Option.map_map, List.length_cons, List.length_append]
    congr 1
    funext n
    show n + w.length + 1 + v.length + 1 = n + (v.length + (w.length + 1) + 1)
    omega

/-! ## First tokens -/

/-- What follows a type: the end of the source, or a token that neither begins a type nor goes on with
a name. -/
def Ends (r : Tokens) : Prop :=
  ∀ t ∈ r.head?, startsType t.token = false ∧ t.token ≠ .symbol .dot

theorem ends_cons {t : Token} (h : startsType t = false ∧ t ≠ .symbol .dot) (p : Position)
    (r : Tokens) : Ends (⟨t, p⟩ :: r) := by
  intro u hu
  obtain rfl : (⟨t, p⟩ : Located) = u := by simpa using hu
  exact h

/-- A written type begins with a token with which types begin. -/
theorem startsType_render {t : TypeExpr} (h : t.Printable) :
    ∃ u w, t.render = u :: w ∧ startsType u = true := by
  cases h with
  | generic hb _ _ =>
    rcases TypeExpr.isBase_cases hb with ⟨name, rfl⟩ | ⟨package, name, rfl⟩ <;>
      exact ⟨_, _, rfl, rfl⟩
  | chan dir _ => cases dir <;> exact ⟨_, _, rfl, rfl⟩
  | _ => exact ⟨_, _, rfl, rfl⟩

theorem startsType_head {t : TypeExpr} (h : t.Printable) {pos : Nat → Position} {r : Tokens}
    {u : Located} (hu : u ∈ (place pos t.render ++ r).head?) : startsType u.token = true := by
  obtain ⟨v, w, hw, hv⟩ := startsType_render h
  rw [hw] at hu
  obtain rfl : ⟨v, pos 0⟩ = u := Option.some.inj hu
  exact hv

theorem separated_renderTypes_ne_nil {args : List TypeExpr} (hne : args ≠ [])
    (h : ∀ a ∈ args, a.Printable) : separated (renderTypes args) ≠ [] := by
  obtain ⟨a, args, rfl⟩ := List.exists_cons_of_ne_nil hne
  obtain ⟨u, w, hw, -⟩ := startsType_render (h a (List.mem_cons_self ..))
  cases args with
  | nil =>
    show a.render ≠ []
    simp [hw]
  | cons b args =>
    show a.render ++ _ ≠ []
    simp [hw]

theorem beginsArray_slice (p : Position) (r : Tokens) :
    beginsArray (⟨.symbol .rbrack, p⟩ :: r) = true := rfl

theorem beginsArray_array (len : Option UInt64) (p q q' : Position) {u : Token} (r : Tokens)
    (h : startsType u = true) :
    beginsArray (⟨lengthToken len, p⟩ :: ⟨.symbol .rbrack, q⟩ :: ⟨u, q'⟩ :: r) = true := by
  cases len <;> simpa [beginsArray, closeOffset, lengthToken, Token.isOpening, Token.isClosing]

/-- Only slices and arrays begin with a square bracket. -/
theorem lbrack_cases {t : TypeExpr} (h : t.Printable) {w : List Token}
    (hw : t.render = .symbol .lbrack :: w) :
    ∃ elem : TypeExpr, elem.Printable ∧ (w = .symbol .rbrack :: elem.render ∨
      ∃ len, w = lengthToken len :: .symbol .rbrack :: elem.render) := by
  cases h with
  | slice he => exact ⟨_, he, .inl (List.cons.inj hw).2.symm⟩
  | array len he => exact ⟨_, he, .inr ⟨len, (List.cons.inj hw).2.symm⟩⟩
  | generic hb _ _ =>
    rcases TypeExpr.isBase_cases hb with ⟨name, rfl⟩ | ⟨package, name, rfl⟩ <;>
      simp [TypeExpr.render] at hw
  | chan dir _ => cases dir <;> simp [TypeExpr.render, chanTokens] at hw
  | _ => simp [TypeExpr.render] at hw

/-- A square bracket at the beginning of a written type begins an array or a slice. -/
theorem beginsArray_head {t : TypeExpr} (h : t.Printable) {w : List Token}
    (hw : t.render = .symbol .lbrack :: w) (pos : Nat → Position) (r : Tokens) :
    beginsArray (place pos w ++ r) = true := by
  obtain ⟨elem, he, rfl | ⟨len, rfl⟩⟩ := lbrack_cases h hw
  · exact beginsArray_slice _ _
  · obtain ⟨u, v, hv, hu⟩ := startsType_render he
    rw [hv]
    exact beginsArray_array len _ _ _ _ hu

/-- Type arguments are no array: no type follows them. -/
theorem beginsArray_args {w : List Token} (hw : Balanced w) (hne : w ≠ []) (pos : Nat → Position)
    {r : Tokens} (hr : Ends r) : beginsArray (place pos (w ++ [Token.symbol .rbrack]) ++ r) = false := by
  have hclose : closeOffset 0 (place pos (w ++ [Token.symbol .rbrack]) ++ r) = some w.length := by
    rw [place_append, List.append_assoc, closeOffset_balanced hw]
    simp [closeOffset, Token.isOpening, Token.isClosing]
  obtain ⟨n, hn⟩ : ∃ n, w.length = n + 1 :=
    Nat.exists_eq_add_one_of_ne_zero (by simpa using hne)
  have hnext : (place pos (w ++ [Token.symbol .rbrack]) ++ r)[n + 2]? = r.head? := by
    have hlen : (place pos (w ++ [Token.symbol .rbrack])).length = n + 2 := by
      rw [length_place, List.length_append, hn, List.length_singleton]
    rw [List.getElem?_append_right (by omega), hlen, Nat.sub_self, List.head?_eq_getElem?]
  rw [beginsArray, hclose, hn]
  simp only [hnext]
  cases hr' : r.head? with
  | none => rfl
  | some t => exact (hr t hr').1

/-! ## A name and what follows it -/

/-- A name with a type behind it is named. -/
theorem entryForm_type {t : TypeExpr} (h : t.Printable) (pos : Nat → Position) (r : Tokens) :
    entryForm (place pos t.render ++ r) = .named := by
  obtain ⟨u, w, hw, hu⟩ := startsType_render h
  by_cases hb : u = .symbol .lbrack
  · subst hb
    rw [hw, place_cons, List.cons_append, entryForm, if_pos (beginsArray_head h hw _ r)]
  · rw [hw, place_cons, List.cons_append]
    unfold entryForm
    split <;> simp_all [startsType]

theorem entryForm_args {w : List Token} (hw : Balanced w) (hne : w ≠ []) (pos : Nat → Position)
    {r : Tokens} (hr : Ends r) :
    entryForm (place pos (.symbol .lbrack :: (w ++ [Token.symbol .rbrack])) ++ r) = .type := by
  rw [place_cons, List.cons_append, entryForm, beginsArray_args hw hne _ hr]
  rfl

/-- A name with a type behind it is the name of a field. -/
theorem isEmbedded_type {t : TypeExpr} (h : t.Printable) (pos : Nat → Position) (r : Tokens) :
    isEmbedded (place pos t.render ++ r) = false := by
  obtain ⟨u, w, hw, hu⟩ := startsType_render h
  by_cases hb : u = .symbol .lbrack
  · subst hb
    rw [hw, place_cons, List.cons_append, isEmbedded, beginsArray_head h hw _ r]
    rfl
  · rw [hw, place_cons, List.cons_append]
    unfold isEmbedded
    split <;> simp_all [startsType]

theorem isEmbedded_args {w : List Token} (hw : Balanced w) (hne : w ≠ []) (pos : Nat → Position)
    {r : Tokens} (hr : Ends r) :
    isEmbedded (place pos (.symbol .lbrack :: (w ++ [Token.symbol .rbrack])) ++ r) = true := by
  rw [place_cons, List.cons_append, isEmbedded, beginsArray_args hw hne _ hr]
  rfl

/-- The type of a declaration does not look like type parameters. -/
theorem opensTypeParams_type {t : TypeExpr} (h : t.Printable) {w : List Token}
    (hw : t.render = .symbol .lbrack :: w) (pos : Nat → Position) (r : Tokens) :
    opensTypeParams (place pos w ++ r) = false := by
  obtain ⟨elem, he, rfl | ⟨len, rfl⟩⟩ := lbrack_cases h hw
  · rfl
  · cases len <;> rfl

end GoGlue.Parse
