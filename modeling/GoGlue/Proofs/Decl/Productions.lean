import GoGlue.Proofs.Decl.LookAhead

/-!
# Productions of the grammar

The answers of the parser as rules: what it reads from the parts of a construct gives what it reads from
the construct. Only the value of an answer and the tokens it leaves matter here.

* `literalLength_toString`: a decimal literal is read back as the length it spells.
* `typeExpr_…`, `entry_…`, `structField_…`: one rule for each form of a type, parameter and field.
-/
namespace GoGlue

/-! ## Answers -/

namespace Reply

variable {α β : Type} {ts : Tokens}

@[simp] theorem value_done (a : α) (ts : Tokens) : (done a ts).value = .ok (a, ts) := rfl

@[simp] theorem value_ok (p : { p : α × Tokens // p.2.length ≤ ts.length }) :
    value (.ok p : Reply α ts) = .ok p.1 := rfl

@[simp] theorem value_widen {r : Tokens} (h : r.length ≤ ts.length) (x : Reply α r) :
    (x.widen h).value = x.value := by
  cases x <;> rfl

@[simp] theorem value_later (t : Located) (x : Reply α ts) : (x.later t).value = x.value :=
  value_widen _ x

theorem value_map {x : Reply α ts} {a : α} {r : Tokens} (h : x.value = .ok (a, r)) (f : α → β) :
    (x.map f).value = .ok (f a, r) := by
  cases x with
  | error e => exact absurd h (by simp [value])
  | ok p =>
    obtain ⟨⟨b, s⟩, hs⟩ := p
    cases h
    rfl

theorem value_andThen {x : Reply α ts} {a : α} {r : Tokens} (h : x.value = .ok (a, r))
    {f : α → (r : Tokens) → r.length ≤ ts.length → Reply β r}
    {result : Except SyntaxError (β × Tokens)} (hf : ∀ hr, (f a r hr).value = result) :
    (x.andThen f).value = result := by
  cases x with
  | error e => exact absurd h (by simp [value])
  | ok p =>
    obtain ⟨⟨b, s⟩, hs⟩ := p
    cases h
    show ((f a r hs).widen hs).value = result
    rw [value_widen]
    exact hf hs

@[simp] theorem value_expect (stop : Position) (t : Token) (what : Expected) (p : Position)
    (r : Tokens) (next : (r' : Tokens) → r'.length < (Located.mk t p :: r).length → Reply α r') :
    (expect stop t what (⟨t, p⟩ :: r) next).value = (next r (Nat.lt_succ_self _)).value := by
  rw [expect_eq stop what ⟨t, p⟩, value_later]

@[simp] theorem value_identifier (stop : Position) (what : Expected) (name : String) (p : Position)
    (r : Tokens)
    (next : String → (r' : Tokens) → r'.length < (Located.mk (.ident name) p :: r).length →
      Reply α r') :
    (identifier stop what (⟨.ident name, p⟩ :: r) next).value
      = (next name r (Nat.lt_succ_self _)).value := by
  rw [identifier_eq, value_later]

end Reply

namespace Parse

open Reply

variable {stop p q : Position} {ts r : Tokens}

/-! ## Array lengths -/

/-- A decimal literal is read back as the length it spells. -/
theorem literalLength_toString (n : UInt64) : literalLength (toString n.toNat) = some n := by
  have hcs : (toString n.toNat).toList = Nat.toDigits 10 n.toNat := Nat.toList_repr
  have hdigits : (Nat.toDigits 10 n.toNat).all Char.isDigit = true := by
    rw [List.all_eq_true]
    intro c hc
    exact Nat.isDigit_of_mem_toDigits (by decide) (by decide) hc
  have hvalue : (Nat.toDigits 10 n.toNat).foldl (fun m c => m * 10 + (c.toNat - 0x30)) 0
      = n.toNat := by
    have h := Nat.ofDigitChars_ten_toDigits (n := n.toNat)
    rw [Nat.ofDigitChars_eq_foldl] at h
    simp only [Nat.mul_comm 10] at h
    exact h
  rw [literalLength, hcs]
  simp only [hdigits, Nat.toDigits_ne_nil, ne_eq, not_false_eq_true, and_self, if_true, hvalue,
    n.toNat_lt_size, dite_true]
  simp

theorem arrayLength_lengthToken (len : Option UInt64) :
    (arrayLength stop (⟨lengthToken len, p⟩ :: ⟨.symbol .rbrack, q⟩ :: r)).value
      = .ok (len, r) := by
  cases len with
  | some n => rw [lengthToken, arrayLength, value_ok, literalLength_toString]
  | none => rfl

/-! ## Types -/

section Types

variable {elem key value : TypeExpr}

theorem instantiated_ends (base : TypeExpr) (hr : Ends r) :
    (instantiated stop base r).value = .ok (base, r) := by
  unfold instantiated
  split
  · exact absurd (hr _ rfl).1 (by simp [startsType])
  · rfl

/-- A name, with type arguments when they follow. -/
theorem typeExpr_base {base : TypeExpr} (hb : base.isBase) (pos : Nat → Position)
    (hdot : ∀ t ∈ ts.head?, t.token ≠ .symbol .dot)
    {result : Except SyntaxError (TypeExpr × Tokens)}
    (h : (instantiated stop base ts).value = result) :
    (typeExpr stop (place pos base.render ++ ts)).value = result := by
  rcases TypeExpr.isBase_cases hb with ⟨name, rfl⟩ | ⟨package, name, rfl⟩
  · show (typeExpr stop (⟨.ident name, pos 0⟩ :: ts)).value = result
    rw [typeExpr, value_later, h]
    rintro q r rfl
    exact hdot _ rfl rfl
  · show (typeExpr stop (⟨.ident package, pos 0⟩ :: ⟨.symbol .dot, pos 1⟩ ::
      ⟨.ident name, pos 2⟩ :: ts)).value = result
    rw [typeExpr, value_later, value_later, value_identifier, h]

theorem typeExpr_generic {base : TypeExpr} {args : List TypeExpr} (hb : base.isBase)
    (pos : Nat → Position) (h : (typeArgs stop ts).value = .ok (args, r)) :
    (typeExpr stop (place pos base.render ++ ⟨.symbol .lbrack, p⟩ :: ts)).value
      = .ok (.generic base args, r) := by
  refine typeExpr_base hb pos (by simp) ?_
  rw [instantiated, value_later, value_map h]

theorem typeExpr_pointer (h : (typeExpr stop ts).value = .ok (elem, r)) :
    (typeExpr stop (⟨.symbol .star, p⟩ :: ts)).value = .ok (.pointer elem, r) := by
  rw [typeExpr, value_later, value_map h]

theorem typeExpr_ellipsis (h : (typeExpr stop ts).value = .ok (elem, r)) :
    (typeExpr stop (⟨.symbol .ellipsis, p⟩ :: ts)).value = .ok (.ellipsis elem, r) := by
  rw [typeExpr, value_later, value_map h]

theorem typeExpr_slice (h : (typeExpr stop ts).value = .ok (elem, r)) :
    (typeExpr stop (⟨.symbol .lbrack, p⟩ :: ⟨.symbol .rbrack, q⟩ :: ts)).value
      = .ok (.slice elem, r) := by
  rw [typeExpr, value_later, value_later, value_map h]

theorem typeExpr_array {q' : Position} (len : Option UInt64)
    (h : (typeExpr stop ts).value = .ok (elem, r)) :
    (typeExpr stop
      (⟨.symbol .lbrack, p⟩ :: ⟨lengthToken len, q⟩ :: ⟨.symbol .rbrack, q'⟩ :: ts)).value
      = .ok (.array len elem, r) := by
  rw [typeExpr, value_later]
  · exact value_andThen (arrayLength_lengthToken len) fun _ => value_map h _
  · cases len <;> simp [lengthToken]

theorem typeExpr_map {q' : Position} {us : Tokens}
    (hk : (typeExpr stop ts).value = .ok (key, ⟨.symbol .rbrack, q'⟩ :: us))
    (hv : (typeExpr stop us).value = .ok (value, r)) :
    (typeExpr stop (⟨.keyword .map, p⟩ :: ⟨.symbol .lbrack, q⟩ :: ts)).value
      = .ok (.map key value, r) := by
  rw [typeExpr, value_later, value_expect]
  refine value_andThen hk fun _ => ?_
  rw [value_expect, value_map hv]

theorem typeExpr_parens (h : (typeExpr stop ts).value = .ok (elem, ⟨.symbol .rparen, q⟩ :: r)) :
    (typeExpr stop (⟨.symbol .lparen, p⟩ :: ts)).value = .ok (elem, r) := by
  rw [typeExpr, value_later]
  refine value_andThen h fun _ => ?_
  rw [value_expect, value_done]

theorem typeExpr_chan (dir : ChanDir) (pos : Nat → Position)
    (h : (typeExpr stop (⟨.symbol .lparen, p⟩ :: ts)).value = .ok (elem, r)) :
    (typeExpr stop (place pos (chanTokens dir) ++ ⟨.symbol .lparen, p⟩ :: ts)).value
      = .ok (.chan dir elem, r) := by
  cases dir with
  | both =>
    show (typeExpr stop (⟨.keyword .chan, _⟩ :: ⟨.symbol .lparen, p⟩ :: ts)).value = _
    rw [typeExpr, value_later, value_map h]
    simp
  | send =>
    show (typeExpr stop (⟨.keyword .chan, pos 0⟩ :: ⟨.symbol .arrow, pos 1⟩ ::
      ⟨.symbol .lparen, p⟩ :: ts)).value = _
    rw [typeExpr, value_later, value_later, value_map h]
  | recv =>
    show (typeExpr stop (⟨.symbol .arrow, pos 0⟩ :: ⟨.keyword .chan, pos 1⟩ ::
      ⟨.symbol .lparen, p⟩ :: ts)).value = _
    rw [typeExpr, value_later, value_expect, value_map h]

theorem typeExpr_func {params results : List Field} {us : Tokens}
    (hp : (parameters stop ts).value = .ok (params, us))
    (hr : (Parse.results stop us).value = .ok (results, r)) :
    (typeExpr stop (⟨.keyword .func, p⟩ :: ts)).value = .ok (.func params results, r) := by
  rw [typeExpr, value_later]
  exact value_andThen hp fun _ => value_map hr _

theorem typeExpr_interface (empty : Bool) (pos : Nat → Position) :
    (typeExpr stop (⟨.keyword .interface, p⟩ :: ⟨.symbol .lbrace, q⟩ ::
      (place pos (methodTokens empty ++ [Token.symbol .rbrace]) ++ r))).value
      = .ok (.interface empty, r) := by
  rw [typeExpr, value_later, value_expect]
  refine value_map (a := empty) ?_ _
  cases empty <;> rfl

theorem typeExpr_struct {fields : List Field} (h : (structFields stop ts).value = .ok (fields, r)) :
    (typeExpr stop (⟨.keyword .struct, p⟩ :: ⟨.symbol .lbrace, q⟩ :: ts)).value
      = .ok (.struct fields, r) := by
  rw [typeExpr, value_later, value_expect, value_map h]

end Types

/-! ## Type arguments -/

theorem typeArgs_last {t : TypeExpr}
    (h : (typeExpr stop ts).value = .ok (t, ⟨.symbol .rbrack, q⟩ :: r)) :
    (typeArgs stop ts).value = .ok ([t], r) := by
  unfold typeArgs
  split
  · simp [typeExpr, unexpected, fail, value] at h
  · refine value_andThen h fun _ => ?_
    show (expect stop (.symbol .rbrack) .rbrack (⟨.symbol .rbrack, q⟩ :: r) _).value = _
    rw [value_expect, value_done]

theorem typeArgs_more {t : TypeExpr} {args : List TypeExpr} {us : Tokens}
    (h : (typeExpr stop ts).value = .ok (t, ⟨.symbol .comma, q⟩ :: us))
    (hus : (typeArgs stop us).value = .ok (args, r)) :
    (typeArgs stop ts).value = .ok (t :: args, r) := by
  unfold typeArgs
  split
  · simp [typeExpr, unexpected, fail, value] at h
  · refine value_andThen h fun _ => ?_
    show (((typeArgs stop us).map (t :: ·)).later _).value = _
    rw [value_later, value_map hus]

/-! ## Parameters -/

/-- What follows an entry: the entries behind it and the tokens that they leave. -/
inductive EntryTail (stop : Position) : Tokens → List Entry → Tokens → Prop
  | close (p : Position) (r : Tokens) : EntryTail stop (⟨.symbol .rparen, p⟩ :: r) [] r
  | more {ts r : Tokens} {es : List Entry} (p : Position)
      (h : (entries stop ts).value = .ok (es, r)) : EntryTail stop (⟨.symbol .comma, p⟩ :: ts) es r

theorem EntryTail.ends {es : List Entry} (h : EntryTail stop ts es r) : Ends ts := by
  cases h with
  | close p r => exact ends_cons ⟨rfl, by decide⟩ p r
  | more p _ => exact ends_cons ⟨rfl, by decide⟩ p _

/-- One entry, then those behind it. -/
theorem entries_step {e : Entry} {es : List Entry} {tail : Tokens}
    (he : (entry stop ts).value = .ok (e, tail)) (ht : EntryTail stop tail es r) :
    (entries stop ts).value = .ok (e :: es, r) := by
  unfold entries
  split
  · simp [entry, typeExpr, unexpected, fail, value, Reply.map] at he
  · refine value_andThen he fun _ => ?_
    cases ht with
    | close p r =>
      show (expect stop (.symbol .rparen) .rparen (⟨.symbol .rparen, p⟩ :: r) _).value = _
      rw [value_expect, value_done]
    | @more us r es p h =>
      show (((entries stop us).map (e :: ·)).later _).value = _
      rw [value_later, value_map h]

theorem entry_bare {name : String} {es : List Entry} (ht : EntryTail stop ts es r) :
    (entry stop (⟨.ident name, p⟩ :: ts)).value = .ok (.bare name, ts) := by
  have hform : entryForm ts = .bare := by cases ht <;> rfl
  rw [entry, hform]
  rfl

theorem entry_named {name : String} {t : TypeExpr} (hform : entryForm ts = .named)
    (h : (typeExpr stop ts).value = .ok (t, r)) :
    (entry stop (⟨.ident name, p⟩ :: ts)).value = .ok (.named name t, r) := by
  rw [entry, hform]
  show (((typeExpr stop ts).map _).later _).value = _
  rw [value_later, value_map h]

/-- A type that begins with a name. -/
theorem entry_name {name : String} {t : TypeExpr} (hform : entryForm ts = .type)
    (h : (typeExpr stop (⟨.ident name, p⟩ :: ts)).value = .ok (t, r)) :
    (entry stop (⟨.ident name, p⟩ :: ts)).value = .ok (.type t, r) := by
  rw [entry, hform]
  exact value_map h _

/-- A type that begins with anything else. -/
theorem entry_type {t : TypeExpr} (hts : ∀ u ∈ ts.head?, ∀ name, u.token ≠ .ident name)
    (h : (typeExpr stop ts).value = .ok (t, r)) : (entry stop ts).value = .ok (.type t, r) := by
  unfold entry
  split
  · exact absurd rfl (hts _ rfl _)
  · exact value_map h _

theorem parameters_list {es : List Entry} {params : List Field}
    (h : (entries stop ts).value = .ok (es, r)) (hg : groupParameters es = some params) :
    (parameters stop (⟨.symbol .lparen, p⟩ :: ts)).value = .ok (params, r) := by
  rw [parameters, value_expect]
  refine value_andThen h fun _ => ?_
  rw [hg]
  rfl

theorem results_none (hr : Ends r) : (results stop r).value = .ok ([], r) := by
  cases r with
  | nil => rw [results, value_done]
  | cons t r =>
    have ht := (hr t rfl).1
    have hparen : t.token ≠ .symbol .lparen := by
      intro h
      rw [h] at ht
      exact absurd ht (by decide)
    rw [results, if_neg hparen, if_neg (by rw [ht]; decide), value_done]

theorem results_list {params : List Field}
    (h : (parameters stop (⟨.symbol .lparen, p⟩ :: ts)).value = .ok (params, r)) :
    (results stop (⟨.symbol .lparen, p⟩ :: ts)).value = .ok (params, r) := by
  rw [results, if_pos rfl, h]

/-! ## Struct fields -/

theorem structFields_close :
    (structFields stop (⟨.symbol .rbrace, p⟩ :: r)).value = .ok ([], r) := by
  rw [structFields, value_later, value_done]

/-- One field with its tag, then those behind it. -/
theorem structFields_step {f : Field} {tag : Option String} {fields : List Field} {us vs : Tokens}
    (hf : (structField stop ts).value = .ok (f, us))
    (htag : (fieldTag us).value = .ok (tag, ⟨.symbol .semi, q⟩ :: vs))
    (hvs : (structFields stop vs).value = .ok (fields, r)) :
    (structFields stop ts).value = .ok (f.withTag tag :: fields, r) := by
  unfold structFields
  split
  · simp [structField, unexpected, fail, value] at hf
  · simp [structField, unexpected, fail, value] at hf
  · refine value_andThen hf fun _ => value_andThen htag fun _ => ?_
    show (expect stop (.symbol .semi) .endOfStatement (⟨.symbol .semi, q⟩ :: vs) _).value = _
    rw [value_expect, value_map hvs]

theorem fieldTag_tagTokens (tag : Option String) (pos : Nat → Position) (r : Tokens) :
    ∃ q, (fieldTag (place pos (tagTokens tag ++ [Token.symbol .semi]) ++ r)).value
      = .ok (tag, ⟨.symbol .semi, q⟩ :: r) := by
  cases tag <;> exact ⟨_, rfl⟩

theorem fieldNames_nameTokens {names : List String} (hne : names ≠ []) (pos : Nat → Position)
    (hts : ∀ t ∈ ts.head?, t.token ≠ .symbol .comma) :
    (fieldNames stop (place pos (nameTokens names) ++ ts)).value = .ok (names, ts) := by
  induction names generalizing pos with
  | nil => exact absurd rfl hne
  | cons name names ih =>
    cases names with
    | nil =>
      show (fieldNames stop (⟨.ident name, pos 0⟩ :: ts)).value = _
      rw [fieldNames, value_identifier]
      split
      · exact absurd rfl (hts _ rfl)
      · rfl
    | cons next names =>
      have h := ih (by simp) fun i => pos (i + 2)
      show (fieldNames stop (⟨.ident name, pos 0⟩ :: ⟨.symbol .comma, pos 1⟩ ::
        (place (fun i => pos (i + 2)) (nameTokens (next :: names)) ++ ts))).value = _
      rw [fieldNames, value_identifier]
      show (((fieldNames stop _).map (name :: ·)).later _).value = _
      rw [value_later, value_map h]

theorem structField_pointer {t : TypeExpr}
    (h : (typeExpr stop (⟨.symbol .star, p⟩ :: ts)).value = .ok (t, r)) :
    (structField stop (⟨.symbol .star, p⟩ :: ts)).value = .ok (.unnamed t, r) := by
  rw [structField, value_map h]

theorem structField_embedded {name : String} {t : TypeExpr} (hform : isEmbedded ts = true)
    (h : (typeExpr stop (⟨.ident name, p⟩ :: ts)).value = .ok (t, r)) :
    (structField stop (⟨.ident name, p⟩ :: ts)).value = .ok (.unnamed t, r) := by
  rw [structField, if_pos hform, value_map h]

theorem structField_named {name : String} {names : List String} {t : TypeExpr} {us : Tokens}
    (hform : isEmbedded ts = false)
    (hn : (fieldNames stop (⟨.ident name, p⟩ :: ts)).value = .ok (names, us))
    (h : (typeExpr stop us).value = .ok (t, r)) :
    (structField stop (⟨.ident name, p⟩ :: ts)).value = .ok (.mk names t none, r) := by
  rw [structField, if_neg (by rw [hform]; decide)]
  exact value_andThen hn fun _ => value_map h _

end Parse

/-- The declarations of a source are the value of the answer on its tokens. -/
theorem SourceFile.ofSource_eq (s : Source) :
    ofSource s
      = (Parse.sourceFile s.stop (Comment.docText s.comments) s.tokens).value.map Prod.fst := by
  rw [ofSource]
  cases Parse.sourceFile s.stop (Comment.docText s.comments) s.tokens <;> rfl

end GoGlue
