import GoGlue.Proofs.Decl.Agreement

/-!
# Where declarations are read

The tokens that an answer leaves are the last ones of those it was given, so every declaration of a file is read
from a place of the file's tokens, and its doc text is the one for that place.

* `Leaves.andThen`, `Leaves.expect`: answers in a row leave the last tokens.
* `typeExpr_leaves`: types leave the tokens behind them.
* `sourceFile_places`: where the declarations of a file are read.
-/
namespace GoGlue

namespace Reply

variable {α β : Type} {ts : Tokens} {stop : Position}

/-! ## What holds of an answer -/

/-- A value and the tokens left have the property. -/
def Ensures (P : α → Tokens → Prop) (x : Reply α ts) : Prop := ∀ a r, x.value = .ok (a, r) → P a r

section Ensures

variable {P : α → Tokens → Prop} {Q : β → Tokens → Prop}

theorem Ensures.imp {P' : α → Tokens → Prop} {x : Reply α ts} (h : Ensures P x)
    (hp : ∀ a r, P a r → P' a r) : Ensures P' x := fun a r hr => hp a r (h a r hr)

theorem Ensures.and {P' : α → Tokens → Prop} {x : Reply α ts} (h : Ensures P x) (h' : Ensures P' x) :
    Ensures (fun a r => P a r ∧ P' a r) x := fun a r hr => ⟨h a r hr, h' a r hr⟩

theorem ensures_trivial (x : Reply α ts) : Ensures (fun _ _ => True) x := fun _ _ _ => trivial

theorem ensures_done {a : α} (h : P a ts) : Ensures P (done a ts) := by
  intro b r hr
  cases hr
  exact h

theorem ensures_value (x : Reply α ts) : Ensures (fun a r => x.value = .ok (a, r)) x := fun _ _ h => h

theorem ensures_error (e : SyntaxError) : Ensures P (.error e : Reply α ts) := by
  intro a r hr
  cases hr

theorem ensures_fail (fault : SyntaxFault) : Ensures P (fail stop fault ts) := ensures_error _

theorem ensures_unexpected (what : Expected) : Ensures P (unexpected stop what ts) := ensures_fail _

theorem Ensures.widen {r : Tokens} {x : Reply α r} (h : Ensures P x) (hr : r.length ≤ ts.length) :
    Ensures P (x.widen hr : Reply α ts) := fun a s hs => h a s (by rwa [value_widen] at hs)

theorem Ensures.later {x : Reply α ts} (h : Ensures P x) (t : Located) : Ensures P (x.later t) :=
  h.widen _

theorem Ensures.map {x : Reply α ts} {f : α → β} (h : Ensures (fun a r => Q (f a) r) x) :
    Ensures Q (x.map f) := by
  intro b r hr
  match x, h with
  | .error e, _ => cases hr
  | .ok ⟨(a, s), hs⟩, h =>
    cases hr
    exact h a r rfl

theorem Ensures.andThen {x : Reply α ts} {f : α → (r : Tokens) → r.length ≤ ts.length → Reply β r}
    (h : Ensures P x) (hf : ∀ a r hr, P a r → Ensures Q (f a r hr)) : Ensures Q (x.andThen f) := by
  intro b r hr
  match x, h with
  | .error e, _ => cases hr
  | .ok ⟨(a, s), hs⟩, h => exact (hf a s hs (h a s rfl)).widen hs b r hr

theorem ensures_expect {token : Token} {what : Expected}
    {next : (r : Tokens) → r.length < ts.length → Reply α r}
    (h : ∀ p r hr, ts = ⟨token, p⟩ :: r → Ensures P (next r hr)) :
    Ensures P (expect stop token what ts next) := by
  cases ts with
  | nil => exact ensures_unexpected what
  | cons t r =>
    rw [expect]
    split
    · next ht =>
      obtain ⟨k, p⟩ := t
      cases ht
      exact (h p r _ rfl).later _
    · exact ensures_unexpected what

theorem ensures_identifier {what : Expected} {next : String → (r : Tokens) → r.length < ts.length → Reply α r}
    (h : ∀ name p r hr, ts = ⟨.ident name, p⟩ :: r → Ensures P (next name r hr)) :
    Ensures P (identifier stop what ts next) := by
  unfold identifier
  split
  · exact (h _ _ _ _ rfl).later _
  · exact ensures_unexpected what

end Ensures

/-! ## The tokens left -/

/-- The tokens left are the last ones of those given. -/
def Leaves (x : Reply α ts) : Prop := x.Ensures fun _ r => r <:+ ts

theorem leaves_done (a : α) (ts : Tokens) : Leaves (done a ts) := ensures_done List.suffix_rfl

theorem leaves_fail (fault : SyntaxFault) : Leaves (fail stop fault ts : Reply α ts) := ensures_fail fault

theorem leaves_unexpected (what : Expected) : Leaves (unexpected stop what ts : Reply α ts) := leaves_fail _

theorem Leaves.widen {r : Tokens} {x : Reply α r} (h : Leaves x) (hr : r <:+ ts) :
    Leaves (x.widen hr.length_le : Reply α ts) := (h.imp fun _ _ hs => hs.trans hr).widen _

theorem Leaves.later {x : Reply α ts} (h : Leaves x) (t : Located) : Leaves (x.later t) :=
  (h.imp fun _ _ hs => hs.trans (List.suffix_cons t ts)).later t

theorem Leaves.map {x : Reply α ts} (h : Leaves x) (f : α → β) : Leaves (x.map f) := Ensures.map h

theorem Leaves.andThen {x : Reply α ts} {f : α → (r : Tokens) → r.length ≤ ts.length → Reply β r}
    (h : Leaves x) (hf : ∀ a r hr, Leaves (f a r hr)) : Leaves (x.andThen f) :=
  Ensures.andThen h fun a r hr hs => (hf a r hr).imp fun _ _ hu => hu.trans hs

theorem leaves_expect {token : Token} {what : Expected}
    {next : (r : Tokens) → r.length < ts.length → Reply α r} (h : ∀ r hr, Leaves (next r hr)) :
    Leaves (expect stop token what ts next) :=
  ensures_expect fun p r hr ht => (h r hr).imp fun _ _ hs => by
    rw [ht]
    exact hs.trans (List.suffix_cons _ r)

theorem leaves_identifier {what : Expected} {next : String → (r : Tokens) → r.length < ts.length → Reply α r}
    (h : ∀ name r hr, Leaves (next name r hr)) : Leaves (identifier stop what ts next) :=
  ensures_identifier fun name p r hr ht => (h name r hr).imp fun _ _ hs => by
    rw [ht]
    exact hs.trans (List.suffix_cons _ r)

theorem endOfStatement_leaves (stop : Position) (ts : Tokens) : Leaves (endOfStatement stop ts) := by
  unfold endOfStatement
  split
  · exact leaves_done _ _
  · exact (leaves_done _ _).later _
  · exact leaves_unexpected _

end Reply

namespace Parse

open Reply

variable {stop : Position} {ts : Tokens}

/-! ## Brackets -/

theorem groupEnd_suffix {depth : Nat} {ts r : Tokens} (h : groupEnd depth ts = some r) : r <:+ ts := by
  fun_induction groupEnd depth ts with
  | case1 => cases h
  | case2 depth t s _ ih => exact (ih h).trans (List.suffix_cons t s)
  | case3 t s =>
    cases h
    exact List.suffix_cons t r
  | case4 t s _ _ d ih => exact (ih h).trans (List.suffix_cons t s)
  | case5 depth t s _ _ ih => exact (ih h).trans (List.suffix_cons t s)

theorem lengthEnd_suffix {depth : Nat} {ts r : Tokens} (h : lengthEnd depth ts = some r) : r <:+ ts := by
  fun_induction lengthEnd depth ts with
  | case1 => cases h
  | case2 depth t s _ ih => exact (ih h).trans (List.suffix_cons t s)
  | case3 depth t s =>
    cases h
    exact List.suffix_cons t r
  | case4 depth t s _ _ _ ih => exact (ih h).trans (List.suffix_cons t s)
  | case5 depth t s _ _ _ ih => exact (ih h).trans (List.suffix_cons t s)

theorem interfaceEnd_suffix {depth : Nat} {empty e : Bool} {ts r : Tokens}
    (h : interfaceEnd depth empty ts = some (e, r)) : r <:+ ts := by
  fun_induction interfaceEnd depth empty ts with
  | case1 => cases h
  | case2 depth empty t s _ ih => exact (ih h).trans (List.suffix_cons t s)
  | case3 empty t s =>
    cases h
    exact List.suffix_cons t r
  | case4 empty t s _ _ d ih => exact (ih h).trans (List.suffix_cons t s)
  | case5 depth empty t s _ _ ih => exact (ih h).trans (List.suffix_cons t s)

theorem skipGroup_leaves (stop : Position) (ts : Tokens) : Leaves (skipGroup stop ts) := by
  cases ts with
  | nil => exact leaves_fail _
  | cons t r =>
    intro a s hs
    rw [skipGroup_value] at hs
    cases hg : groupEnd 0 r with
    | none =>
      rw [hg] at hs
      cases hs
    | some u =>
      rw [hg] at hs
      cases hs
      exact (groupEnd_suffix hg).trans (List.suffix_cons t r)

theorem arrayLength_leaves (stop : Position) (ts : Tokens) : Leaves (arrayLength stop ts) := by
  unfold arrayLength
  split
  · next text p q r =>
    intro a s hs
    cases hs
    exact (List.suffix_cons _ r).trans (List.suffix_cons _ _)
  · split
    · next r h =>
      intro a s hs
      cases hs
      exact lengthEnd_suffix h
    · intro a s hs
      cases hs

theorem interfaceBody_leaves (stop : Position) (ts : Tokens) : Leaves (interfaceBody stop ts) := by
  unfold interfaceBody
  split
  · next empty r h =>
    intro a s hs
    cases hs
    exact interfaceEnd_suffix h
  · intro a s hs
    cases hs

theorem fieldTag_leaves (ts : Tokens) : Leaves (fieldTag ts) := by
  unfold fieldTag
  split
  · exact (leaves_done _ _).later _
  · exact leaves_done _ _

theorem fieldNames_leaves (stop : Position) (ts : Tokens) : Leaves (fieldNames stop ts) := by
  rw [fieldNames]
  refine leaves_identifier fun name r hr => ?_
  split
  · exact ((fieldNames_leaves stop _).map _).later _
  · exact leaves_done _ _
termination_by ts.length
decreasing_by simp_all; omega

/-! ## Types -/

mutual
/-- **A type leaves the tokens behind it.** -/
theorem typeExpr_leaves (stop : Position) (ts : Tokens) : Leaves (typeExpr stop ts) := by
  rw [typeExpr.eq_def]
  split
  · exact ((leaves_identifier fun name r _ => instantiated_leaves stop _ r).later _).later _
  · exact (instantiated_leaves stop _ _).later _
  · exact ((typeExpr_leaves stop _).map _).later _
  · exact (((typeExpr_leaves stop _).map _).later _).later _
  · exact ((arrayLength_leaves stop _).andThen fun len r _ => (typeExpr_leaves stop r).map _).later _
  · refine (leaves_expect fun r1 _ => (typeExpr_leaves stop r1).andThen fun key r2 _ => ?_).later _
    exact leaves_expect fun r3 _ => (typeExpr_leaves stop r3).map _
  · exact (((typeExpr_leaves stop _).map _).later _).later _
  · exact ((typeExpr_leaves stop _).map _).later _
  · exact (leaves_expect fun r _ => (typeExpr_leaves stop r).map _).later _
  · exact ((parameters_leaves stop _).andThen fun params r _ => (results_leaves stop r).map _).later _
  · exact (leaves_expect fun r _ => (interfaceBody_leaves stop r).map _).later _
  · exact (leaves_expect fun r _ => (structFields_leaves stop r).map _).later _
  · exact ((typeExpr_leaves stop _).map _).later _
  · refine ((typeExpr_leaves stop _).andThen fun t r _ => ?_).later _
    exact leaves_expect fun r' _ => leaves_done t r'
  · exact leaves_unexpected _
termination_by 3 * ts.length + 0
decreasing_by all_goals (subst_vars; simp only [List.length_cons] at *; omega)

theorem instantiated_leaves (stop : Position) (base : TypeExpr) (ts : Tokens) :
    Leaves (instantiated stop base ts) := by
  rw [instantiated.eq_def]
  split
  · exact ((typeArgs_leaves stop _).map _).later _
  · exact leaves_done _ _
termination_by 3 * ts.length + 0
decreasing_by all_goals (subst_vars; simp only [List.length_cons] at *; omega)

theorem typeArgs_leaves (stop : Position) (ts : Tokens) : Leaves (typeArgs stop ts) := by
  rw [typeArgs.eq_def]
  split
  · exact (leaves_done _ _).later _
  · refine (typeExpr_leaves stop _).andThen fun t r _ => ?_
    split
    · exact ((typeArgs_leaves stop _).map _).later _
    · exact leaves_expect fun r' _ => leaves_done _ r'
termination_by 3 * ts.length + 1
decreasing_by all_goals (subst_vars; simp only [List.length_cons] at *; omega)

theorem parameters_leaves (stop : Position) (ts : Tokens) : Leaves (parameters stop ts) := by
  rw [parameters.eq_def]
  refine leaves_expect fun r _ => (entries_leaves stop r).andThen fun es r' _ => ?_
  split
  · exact leaves_done _ r'
  · exact leaves_fail _
termination_by 3 * ts.length + 0

theorem entries_leaves (stop : Position) (ts : Tokens) : Leaves (entries stop ts) := by
  rw [entries.eq_def]
  split
  · exact (leaves_done _ _).later _
  · refine (entry_leaves stop _).andThen fun e r _ => ?_
    split
    · exact ((entries_leaves stop _).map _).later _
    · exact leaves_expect fun r' _ => leaves_done _ r'
termination_by 3 * ts.length + 2
decreasing_by all_goals (subst_vars; simp only [List.length_cons] at *; omega)

theorem entry_leaves (stop : Position) (ts : Tokens) : Leaves (entry stop ts) := by
  rw [entry.eq_def]
  split
  · split
    · exact (leaves_done _ _).later _
    · exact ((typeExpr_leaves stop _).map _).later _
    · exact (typeExpr_leaves stop _).map _
  · exact (typeExpr_leaves stop _).map _
termination_by 3 * ts.length + 1
decreasing_by all_goals (subst_vars; simp only [List.length_cons] at *; omega)

theorem results_leaves (stop : Position) (ts : Tokens) : Leaves (results stop ts) := by
  rw [results.eq_def]
  split
  · exact leaves_done _ _
  · split
    · exact parameters_leaves stop _
    · split
      · exact (typeExpr_leaves stop _).map _
      · exact leaves_done _ _
termination_by 3 * ts.length + 1
decreasing_by all_goals (subst_vars; simp only [List.length_cons] at *; omega)

theorem structFields_leaves (stop : Position) (ts : Tokens) : Leaves (structFields stop ts) := by
  rw [structFields.eq_def]
  split
  · exact (structFields_leaves stop _).later _
  · exact (leaves_done _ _).later _
  · refine (structField_leaves stop _).andThen fun f r _ => (fieldTag_leaves r).andThen fun tag r' _ => ?_
    split
    · exact (leaves_done _ _).later _
    · exact leaves_expect fun r'' _ => (structFields_leaves stop r'').map _
termination_by 3 * ts.length + 2
decreasing_by all_goals (subst_vars; simp only [List.length_cons] at *; omega)

theorem structField_leaves (stop : Position) (ts : Tokens) : Leaves (structField stop ts) := by
  rw [structField.eq_def]
  split
  · exact (typeExpr_leaves stop _).map _
  · split
    · exact (typeExpr_leaves stop _).map _
    · exact (fieldNames_leaves stop _).andThen fun names r _ => (typeExpr_leaves stop r).map _
  · exact leaves_unexpected _
termination_by 3 * ts.length + 1
decreasing_by all_goals (subst_vars; simp only [List.length_cons] at *; omega)
end

/-! ## Declarations -/

theorem skipValue_leaves (stop : Position) (ts : Tokens) : Leaves (skipValue stop ts) := by
  rw [skipValue.eq_def]
  split
  · exact leaves_done _ _
  · next t r =>
    split
    · exact (leaves_done _ _).later _
    · split
      · split
        · next s hs =>
          have short := groupEnd_length 0 r s hs
          exact (skipValue_leaves stop s).widen ((groupEnd_suffix hs).trans (List.suffix_cons t r))
        · exact ensures_error _
      · split
        · exact leaves_unexpected _
        · exact (skipValue_leaves stop r).later _
termination_by ts.length
decreasing_by all_goals (subst_vars; simp only [List.length_cons] at *; omega)

theorem valueDecl_leaves (stop : Position) (ts : Tokens) : Leaves (valueDecl stop ts) := by
  unfold valueDecl
  split
  · exact (skipGroup_leaves stop _).andThen fun _ r _ => endOfStatement_leaves stop r
  · exact skipValue_leaves stop _

theorem optionalGroup_leaves (stop : Position) (opening : Symbol) (ts : Tokens) :
    Leaves (optionalGroup stop opening ts) := by
  unfold optionalGroup
  split
  · exact leaves_done _ _
  · split
    · exact (skipGroup_leaves stop _).map _
    · exact leaves_done _ _

theorem receiver_leaves (stop : Position) (ts : Tokens) : Leaves (receiver stop ts) := by
  unfold receiver
  split
  · refine (parameters_leaves stop _).andThen fun fields r _ => ?_
    split
    · exact leaves_done _ r
    · exact leaves_fail _
  · exact leaves_done _ _

theorem funcDecl_leaves (stop : Position) (doc : String) (line : Nat) (ts : Tokens) :
    Leaves (funcDecl stop doc line ts) := by
  refine (receiver_leaves stop ts).andThen fun recv r1 _ => leaves_identifier fun name r2 _ => ?_
  refine (optionalGroup_leaves stop .lbrack r2).andThen fun generic r3 _ => ?_
  refine (parameters_leaves stop r3).andThen fun params r4 _ => ?_
  refine (results_leaves stop r4).andThen fun res r5 _ => ?_
  refine (optionalGroup_leaves stop .lbrace r5).andThen fun _ r6 _ => ?_
  exact (endOfStatement_leaves stop r6).map _

theorem funcDecl_doc (stop : Position) (doc : String) (line : Nat) (ts : Tokens) :
    Ensures (fun f _ => f.doc = doc) (funcDecl stop doc line ts) := by
  refine (ensures_trivial _).andThen fun recv r1 _ _ => ensures_identifier fun name _ r2 _ _ => ?_
  refine (ensures_trivial _).andThen fun generic r3 _ _ => ?_
  refine (ensures_trivial _).andThen fun params r4 _ _ => ?_
  refine (ensures_trivial _).andThen fun res r5 _ _ => ?_
  refine (ensures_trivial _).andThen fun _ r6 _ _ => ?_
  exact Ensures.map fun _ _ _ => rfl

theorem typeParams_leaves (stop : Position) (ts : Tokens) : Leaves (typeParams stop ts) := by
  unfold typeParams
  split
  · split
    · exact (skipGroup_leaves stop _).map _
    · exact leaves_done _ _
  · exact leaves_done _ _

theorem aliasMark_leaves (ts : Tokens) : Leaves (aliasMark ts) := by
  unfold aliasMark
  split
  · exact (leaves_done _ _).later _
  · exact leaves_done _ _

theorem typeSpec_leaves (stop : Position) (doc : String) (ts : Tokens) : Leaves (typeSpec stop doc ts) := by
  refine leaves_identifier fun name r1 _ => (typeParams_leaves stop r1).andThen fun generic r2 _ => ?_
  exact (aliasMark_leaves r2).andThen fun isAlias r3 _ => (typeExpr_leaves stop r3).map _

theorem typeSpec_doc (stop : Position) (doc : String) (ts : Tokens) :
    Ensures (fun s _ => s.doc = doc) (typeSpec stop doc ts) := by
  refine ensures_identifier fun name _ r1 _ _ => (ensures_trivial _).andThen fun generic r2 _ _ => ?_
  exact (ensures_trivial _).andThen fun isAlias r3 _ _ => Ensures.map fun _ _ _ => rfl

/-! ## Places -/

/-- Each of the values is read from a place of the tokens. -/
def Placed {α : Type} (At : Located → Tokens → α → Prop) (ts : Tokens) (as : List α) : Prop :=
  ∀ a ∈ as, ∃ d post, (d :: post) <:+ ts ∧ At d post a

section Placed

variable {α : Type} {At : Located → Tokens → α → Prop} {us : Tokens} {as : List α}

theorem placed_nil : Placed At ts [] := by simp [Placed]

theorem Placed.cons {d : Located} {post : Tokens} {a : α} (h : Placed At ts as) (at_ : (d :: post) <:+ ts)
    (ha : At d post a) : Placed At ts (a :: as) := List.forall_mem_cons.2 ⟨⟨d, post, at_, ha⟩, h⟩

theorem Placed.widen (h : Placed At us as) (hs : us <:+ ts) : Placed At ts as := fun a ha =>
  have ⟨d, post, at_, place⟩ := h a ha
  ⟨d, post, at_.trans hs, place⟩

end Placed

/-- The type is read from the token `d` on, within a group, with the doc text for the place of `d`. -/
def SpecAt (stop : Position) (docAt : Nat → String) (d : Located) (post : Tokens) (spec : TypeSpec) : Prop :=
  spec.doc = docAt d.pos.line ∧ ∃ r, (typeSpec stop spec.doc (d :: post)).value = .ok (spec, r)

/-- The declaration is read behind its keyword `d`, with the doc text for the place of `d`. The types of a group
have places of their own; a type without a group has no doc text of its own. -/
def DeclAt (stop : Position) (docAt : Nat → String) (d : Located) (post : Tokens) : Decl → Prop
  | .func f =>
    d.token = .keyword .func ∧ f.doc = docAt d.pos.line ∧
      ∃ r, (funcDecl stop f.doc d.pos.line post).value = .ok (f, r)
  | .type t =>
    d.token = .keyword .type ∧ t.doc = docAt d.pos.line ∧
      (∃ r, (typeDecl stop docAt t.doc post).value = .ok (t, r)) ∧
      ((∀ spec ∈ t.specs, spec.doc = "") ∨ Placed (SpecAt stop docAt) post t.specs)

theorem typeSpecs_places (stop : Position) (docAt : Nat → String) (ts : Tokens) :
    Ensures (fun specs r => r <:+ ts ∧ Placed (SpecAt stop docAt) ts specs) (typeSpecs stop docAt ts) := by
  rw [typeSpecs.eq_def]
  split
  · next p r =>
    have rest := List.suffix_cons (⟨.symbol .semi, p⟩ : Located) r
    exact ((typeSpecs_places stop docAt r).imp fun specs s h => ⟨h.1.trans rest, h.2.widen rest⟩).later _
  · next p r => exact (ensures_done ⟨List.suffix_cons _ r, placed_nil⟩).later _
  · refine Ensures.andThen ((typeSpec_leaves stop _ ts).and ((typeSpec_doc stop _ ts).and (ensures_value _)))
      fun spec r _ h => ?_
    obtain ⟨rest, doc, read⟩ := h
    have first : ∀ {specs}, Placed (SpecAt stop docAt) ts specs →
        Placed (SpecAt stop docAt) ts (spec :: specs) := by
      intro specs h
      cases ts with
      | nil => cases read
      | cons d post => exact h.cons List.suffix_rfl ⟨doc, r, doc ▸ read⟩
    split
    · exact (ensures_done ⟨(List.suffix_cons _ _).trans rest, first placed_nil⟩).later _
    · refine ensures_expect fun p s _ he => ?_
      subst he
      have shorter : s.length < ts.length := rest.length_le
      have rest := (List.suffix_cons _ s).trans rest
      exact Ensures.map ((typeSpecs_places stop docAt s).imp fun specs u h =>
        ⟨h.1.trans rest, first (h.2.widen rest)⟩)
termination_by ts.length
decreasing_by all_goals (subst_vars; simp only [List.length_cons] at *; omega)

/-- Where the types of a declaration are read. -/
theorem typeDecl_places (stop : Position) (docAt : Nat → String) (doc : String) (ts : Tokens) :
    Ensures (fun t r => r <:+ ts ∧ t.doc = doc ∧
      ((∀ spec ∈ t.specs, spec.doc = "") ∨ Placed (SpecAt stop docAt) ts t.specs))
      (typeDecl stop docAt doc ts) := by
  unfold typeDecl
  split
  · next p r =>
    refine (Ensures.andThen (typeSpecs_places stop docAt r) fun specs s _ h => ?_).later _
    refine Ensures.map ((endOfStatement_leaves stop s).imp fun _ u hu => ?_)
    have rest := List.suffix_cons (⟨.symbol .lparen, p⟩ : Located) r
    exact ⟨hu.trans (h.1.trans rest), rfl, .inr (h.2.widen rest)⟩
  · refine Ensures.andThen ((typeSpec_leaves stop "" _).and (typeSpec_doc stop "" _)) fun spec r _ h => ?_
    exact Ensures.map ((endOfStatement_leaves stop r).imp fun _ u hu =>
      ⟨hu.trans h.1, rfl, .inl (by simpa using h.2)⟩)

theorem declarations_places (stop : Position) (docAt : Nat → String) (ts : Tokens) :
    Ensures (fun decls _ => Placed (DeclAt stop docAt) ts decls) (declarations stop docAt ts) := by
  have value : ∀ t r, ts = t :: r → Ensures (fun decls _ => Placed (DeclAt stop docAt) ts decls)
      ((valueDecl stop r).andThen fun _ r' _ => declarations stop docAt r') := by
    rintro t r rfl
    refine Ensures.andThen (valueDecl_leaves stop r) fun _ r' _ h => ?_
    exact (declarations_places stop docAt r').imp fun decls _ hd => hd.widen (h.trans (List.suffix_cons t r))
  rw [declarations.eq_def]
  split
  · exact ensures_done placed_nil
  · next p r =>
    exact ((declarations_places stop docAt r).imp fun decls _ h => h.widen (List.suffix_cons _ r)).later _
  · exact (value _ _ rfl).later _
  · exact (value _ _ rfl).later _
  · exact (value _ _ rfl).later _
  · next p post =>
    refine (Ensures.andThen ((funcDecl_leaves stop _ _ post).and ((funcDecl_doc stop _ _ post).and
      (ensures_value _))) fun f r _ h => ?_).later _
    obtain ⟨rest, doc, read⟩ := h
    refine Ensures.map ((declarations_places stop docAt r).imp fun decls _ h => ?_)
    exact (h.widen (rest.trans (List.suffix_cons _ post))).cons List.suffix_rfl ⟨rfl, doc, r, doc ▸ read⟩
  · next p post =>
    refine (Ensures.andThen ((typeDecl_places stop docAt _ post).and (ensures_value _)) fun t r _ h => ?_).later _
    obtain ⟨⟨rest, doc, specs⟩, read⟩ := h
    refine Ensures.map ((declarations_places stop docAt r).imp fun decls _ h => ?_)
    exact (h.widen (rest.trans (List.suffix_cons _ post))).cons List.suffix_rfl
      ⟨rfl, doc, ⟨r, doc ▸ read⟩, specs⟩
  · exact ensures_fail _
termination_by ts.length
decreasing_by all_goals (subst_vars; simp only [List.length_cons] at *; omega)

/-- **Where the declarations of a file are read.** -/
theorem sourceFile_places (stop : Position) (docAt : Nat → String) (ts : Tokens) :
    Ensures (fun file _ => Placed (DeclAt stop docAt) ts file.decls) (sourceFile stop docAt ts) := by
  rw [sourceFile.eq_def]
  split
  · next p r =>
    exact ((sourceFile_places stop docAt r).imp fun file _ h => h.widen (List.suffix_cons _ r)).later _
  · refine ensures_expect fun p r _ hr => ensures_identifier fun package q s _ hs => ?_
    refine Ensures.andThen (endOfStatement_leaves stop s) fun _ u _ hu => ?_
    refine Ensures.map ((declarations_places stop docAt u).imp fun decls _ h => h.widen (hu.trans ?_))
    subst hr hs
    exact (List.suffix_cons _ s).trans (List.suffix_cons _ _)
termination_by ts.length
decreasing_by all_goals (subst_vars; simp only [List.length_cons] at *; omega)

end Parse

end GoGlue
