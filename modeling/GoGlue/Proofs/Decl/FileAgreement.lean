import GoGlue.Proofs.Decl.Declarations
import GoGlue.Proofs.Decl.TypeAgreement

/-!
# Skipped code does not reach the declarations

What is read from a source is not changed by what is skipped in it. A function body is skipped up to its own
closing bracket, and a declaration of imports, constants or variables up to its own semicolon or the end of
the stream, whatever balanced tokens are in them. The declarations that are kept are the same, but for docs
and lines, which tell where a declaration stands.

* `valueDecl_value`, `declarations_gap`: skipped declarations end where they should, and give nothing.
* `funcDecl_agree`, `typeDecl_agree`, `declarations_agree`: declarations agree.
* `SourceFile.skipped_irrelevant`: sources that differ in skipped code hold the same declarations.
-/
namespace GoGlue

open Reply

namespace Parse

section

variable {m m' : Skippable} {ts ts' : Tokens} {stop stop' : Position}

/-! ## Values -/

theorem endOfStatement_head {r r' : Tokens} (h : (endOfStatement stop r).value = .ok ((), r')) :
    ∀ t ∈ r.head?, t.token = .symbol .semi := by
  rcases r with - | ⟨⟨t, p⟩, r⟩
  · simp
  by_cases hs : t = .symbol .semi
  · simpa using hs
  · obtain ⟨e, he⟩ : Fails (endOfStatement stop (⟨t, p⟩ :: r)) :=
      fails_endOfStatement (by simp) (by simpa using hs)
    rw [he] at h
    cases h

theorem skipValue_end {r r' : Tokens} (h : (endOfStatement stop r).value = .ok ((), r')) :
    (skipValue stop r).value = .ok ((), r') := by
  have semi := endOfStatement_head h
  rcases r with - | ⟨⟨t, p⟩, r⟩
  · rw [skipValue]
    exact h
  · obtain rfl : t = .symbol .semi := semi _ rfl
    rw [skipValue, if_pos rfl]
    exact h

theorem skipValue_plain {t : Located} {r : Tokens} (hs : t.token ≠ .symbol .semi)
    (ho : t.token.isOpening = false) (hc : t.token.isClosing = false) :
    (skipValue stop (t :: r)).value = (skipValue stop r).value := by
  rw [skipValue, if_neg hs, if_neg (by simp [ho]), if_neg (by simp [hc]), value_later]

theorem skipValue_opening {t : Located} {r : Tokens} (ho : t.token.isOpening = true) :
    (skipValue stop (t :: r)).value = (groupEnd 0 r).elim (.error ⟨t.pos, .unclosedDelimiter⟩)
      fun r' => (skipValue stop r').value := by
  have hs : t.token ≠ .symbol .semi := fun e => by simp [e, Token.isOpening] at ho
  rw [skipValue, if_neg hs, if_pos ho]
  split
  · next r' hr =>
    rw [value_widen, hr]
    rfl
  · next hr =>
    rw [hr]
    rfl

theorem fails_skipValue {t : Located} {r : Tokens} (hc : t.token.isClosing = true) :
    Fails (skipValue stop (t :: r)) := by
  have hs : t.token ≠ .symbol .semi := fun e => by simp [e, Token.isClosing] at hc
  rw [skipValue, if_neg hs, if_neg (by simp [opening_of_closing hc]), if_pos hc]
  exact fails_unexpected _

theorem skipValue_inline {w : List Token} (hw : Inline w) (pos : Nat → Position) (r : Tokens) :
    (skipValue stop (place pos w ++ r)).value = (skipValue stop r).value := by
  induction hw generalizing pos with
  | nil => rfl
  | plain ho hc hs _ ih =>
    rw [place_cons, List.cons_append, skipValue_plain hs ho hc, ih]
  | group ho hc hv _ ih =>
    rw [place_cons, place_append, List.cons_append, List.append_assoc, skipValue_opening ho,
      groupEnd_counts.balanced hv, place_cons, List.cons_append, groupEnd_end hc, Option.elim_some, ih]

theorem valueDecl_single (h : ∀ t ∈ ts.head?, ¬ t.token = .symbol .lparen) :
    valueDecl stop ts = skipValue stop ts := by
  unfold valueDecl
  split
  · exact absurd rfl (h _ rfl)
  · rfl

/-- **A skipped declaration is skipped**, up to its own end. -/
theorem valueDecl_value {v : List Token} (hv : Value v) (pos : Nat → Position) {r r' : Tokens}
    (h : (endOfStatement stop r).value = .ok ((), r')) :
    (valueDecl stop (place pos v ++ r)).value = .ok ((), r') := by
  cases hv with
  | @group c w hc hw =>
    rw [place_cons, place_append, List.cons_append, List.append_assoc]
    refine value_andThen (a := ()) (r := r) ?_ fun _ => h
    rw [skipGroup_value, groupEnd_counts.balanced hw, place_cons, List.cons_append, groupEnd_end hc]
    rfl
  | inline hw hp =>
    have single : ∀ t ∈ (place pos v ++ r).head?, ¬ t.token = .symbol .lparen := by
      cases v with
      | nil => exact fun t ht => by simp [endOfStatement_head h t ht]
      | cons u v => simpa using hp
    rw [valueDecl_single single, skipValue_inline hw, skipValue_end h]

theorem skipValue_agree (h : KeptAlike m ts ts') (hm : m ≠ .declarations) :
    Agree Eq .declarations (skipValue stop ts).value (skipValue stop' ts').value := by
  -- on the length, since a group is skipped at once
  induction hn : ts.length using Nat.strongRecOn generalizing ts ts' m with
  | _ n ih =>
    cases h with
    | ended h h' =>
      obtain ⟨g, pos, hg, he⟩ := endOfStatement_ended stop h
      obtain ⟨g', pos', hg', he'⟩ := endOfStatement_ended stop' h'
      rw [skipValue_end he, skipValue_end he']
      exact .done rfl (.last hg hg')
    | @keep _ t p p' r r' h =>
      by_cases hs : t = .symbol .semi
      · subst hs
        rw [skipValue, skipValue, if_pos rfl, if_pos rfl]
        exact .done rfl h
      by_cases hc : t.isClosing = true
      · exact .fails (fails_skipValue hc) (fails_skipValue hc)
      by_cases ho : t.isOpening = true
      · rw [skipValue_opening ho, skipValue_opening ho]
        have ends := groupEnd_alike h 0
        have shorter := groupEnd_length 0 r
        generalize groupEnd 0 r = x, groupEnd 0 r' = x' at ends shorter ⊢
        cases ends with
        | none => exact .fail _ _
        | @some s s' hk =>
          have less := shorter s rfl
          exact ih s.length (by simp at hn; omega) hk (by decide) rfl
      · rw [Bool.not_eq_true] at ho hc
        rw [skipValue_plain hs ho hc, skipValue_plain hs ho hc]
        exact ih r.length (by simp at hn; omega) h (behind_ne hs) rfl
    | body _ hc hw hw' h =>
      rw [skipValue_opening rfl, skipValue_opening rfl, groupEnd_counts.balanced hw, groupEnd_counts.balanced hw',
        groupEnd_end hc, groupEnd_end hc]
      exact ih _ (by simp at hn; omega) h (by decide) rfl
    | skip | last => exact absurd rfl hm

/-- A declaration that is skipped in both streams ends in both or in neither. -/
theorem valueDecl_agree (h : KeptAlike .bodies ts ts') :
    Agree Eq .declarations (valueDecl stop ts).value (valueDecl stop' ts').value := by
  rcases h.head_cases (by decide) (P := (· = .symbol .lparen)) (by simp) (.inr (by simp)) with
    ⟨_, p, p', r, r', rfl, rfl, rfl, hk⟩ | ⟨hts, hts'⟩
  · rw [valueDecl, valueDecl]
    exact (skipGroup_agree h).andThen fun _ _ _ _ _ _ _ hk => endOfStatement_agree hk
  · rw [valueDecl_single hts, valueDecl_single hts']
    exact skipValue_agree h (by decide)

/-! ## Functions -/

theorem types_agree (h : KeptAlike .bodies ts ts') :
    Agree Eq .bodies (typeExpr stop ts).value (typeExpr stop' ts').value :=
  typeExpr_agree (below stop stop' ts.length) (Nat.le_refl _) h

theorem signature_agree (h : KeptAlike .bodies ts ts') :
    Agree Eq .bodies (parameters stop ts).value (parameters stop' ts').value :=
  parameters_agree (below stop stop' ts.length) (Nat.le_refl _) h

theorem receiver_none (h : ∀ t ∈ ts.head?, ¬ t.token = .symbol .lparen) :
    (receiver stop ts).value = .ok (none, ts) := by
  unfold receiver
  split
  · exact absurd rfl (h _ rfl)
  · rfl

theorem receiver_agree (h : KeptAlike .bodies ts ts') :
    Agree Eq .bodies (receiver stop ts).value (receiver stop' ts').value := by
  rcases h.head_cases (by decide) (P := (· = .symbol .lparen)) (by simp) (.inr (by simp)) with
    ⟨_, p, p', r, r', rfl, rfl, rfl, hk⟩ | ⟨hts, hts'⟩
  · rw [receiver, receiver]
    refine (signature_agree h).andThen fun fields fields' s s' hs hs' e hk => ?_
    subst e
    split
    · exact .done rfl hk
    · exact .fail _ _
  · rw [receiver_none hts, receiver_none hts']
    exact .done rfl h

end

end Parse

/-! ## Declarations without their places -/

def FuncDecl.bare (f : FuncDecl) : FuncDecl := { f with doc := "", line := 0 }

def TypeSpec.bare (s : TypeSpec) : TypeSpec := { s with doc := "" }

def TypeDecl.bare (t : TypeDecl) : TypeDecl := ⟨"", t.specs.map TypeSpec.bare⟩

def Decl.bare : Decl → Decl
  | .func f => .func f.bare
  | .type t => .type t.bare

/-- The file without docs and lines. -/
def SourceFile.bare (f : SourceFile) : SourceFile := { f with decls := f.decls.map Decl.bare }

namespace Parse

section

variable {α β : Type} {m m' : Skippable} {ts ts' : Tokens} {stop stop' : Position}
  {docAt docAt' : Nat → String}

theorem funcDecl_agree (doc doc' : String) (line line' : Nat) (h : KeptAlike .bodies ts ts') :
    Agree (fun f f' => f.bare = f'.bare) .declarations (funcDecl stop doc line ts).value
      (funcDecl stop' doc' line' ts').value := by
  refine (receiver_agree h).andThen fun recv _ r r' _ _ e h => ?_
  subst e
  refine identifier_agree h (by decide) fun name r r' _ _ h => ?_
  refine (optionalGroup_agree (by decide) h).andThen fun generic _ r r' _ _ e h => ?_
  subst e
  refine (signature_agree h).andThen fun params _ r r' _ _ e h => ?_
  subst e
  refine (results_agree (below stop stop' (r.length + 1)) (Nat.lt_succ_self _) h).andThen
    fun res _ r r' _ _ e h => ?_
  subst e
  refine (optionalGroup_agree (by decide) h).andThen fun _ _ r r' _ _ _ h => ?_
  exact (endOfStatement_agree h).map fun _ _ _ => rfl

/-! ## Types that are declared -/

theorem typeParams_agree (h : KeptAlike .bodies ts ts') :
    Agree Eq .bodies (typeParams stop ts).value (typeParams stop' ts').value := by
  rcases h.head_cases (by decide) (P := (· = .symbol .lbrack)) (by simp) (.inr (by simp)) with
    ⟨_, p, p', r, r', rfl, rfl, rfl, hk⟩ | ⟨hts, hts'⟩
  · rw [typeParams, typeParams, opensTypeParams_alike hk]
    split
    · exact (skipGroup_agree h).map fun _ _ _ => rfl
    · exact .done rfl h
  · rw [typeParams_none fun p r e => absurd rfl (hts ⟨.symbol .lbrack, p⟩ (by rw [e]; rfl)),
      typeParams_none fun p r e => absurd rfl (hts' ⟨.symbol .lbrack, p⟩ (by rw [e]; rfl))]
    exact .done rfl h

theorem aliasMark_agree (h : KeptAlike .bodies ts ts') :
    Agree Eq .bodies (aliasMark ts).value (aliasMark ts').value := by
  rcases h.head_cases (by decide) (P := (· = .symbol .assign)) (by simp) (.inr (by simp)) with
    ⟨_, p, p', r, r', rfl, rfl, rfl, hk⟩ | ⟨hts, hts'⟩
  · exact .done rfl hk
  · rw [aliasMark_none hts, aliasMark_none hts']
    exact .done rfl h

theorem typeSpec_agree (doc doc' : String) (h : KeptAlike .bodies ts ts') :
    Agree (fun s s' => s.bare = s'.bare) .bodies (typeSpec stop doc ts).value
      (typeSpec stop' doc' ts').value := by
  refine identifier_agree h (by decide) fun name r r' _ _ h => ?_
  refine (typeParams_agree h).andThen fun generic _ r r' _ _ e h => ?_
  subst e
  refine (aliasMark_agree h).andThen fun isAlias _ r r' _ _ e h => ?_
  subst e
  refine (types_agree h).map fun t _ e => ?_
  subst e
  rfl

theorem fails_typeSpec (doc : String) (h : ∀ t ∈ ts.head?, ¬ ∃ name, t.token = .ident name) :
    Fails (typeSpec stop doc ts) := fails_identifier h

theorem typeSpecs_other (h : ∀ t ∈ ts.head?, t.token ≠ .symbol .semi ∧ t.token ≠ .symbol .rparen) :
    (typeSpecs stop docAt ts).value = ((typeSpec stop (docAt (here stop ts).line) ts).andThen
      fun spec r _ => moreLines stop .rparen (typeSpecs stop docAt) spec r).value := by
  rw [typeSpecs.eq_def]
  split
  · exact absurd rfl (h _ rfl).1
  · exact absurd rfl (h _ rfl).2
  · congr 2
    funext spec r _
    rcases r with - | ⟨⟨t, p⟩, r⟩
    · rfl
    · cases t with
      | symbol s => cases s <;> rfl
      | _ => rfl

theorem fails_typeSpecs (h : ∀ t ∈ ts.head?, (t.token ≠ .symbol .semi ∧ t.token ≠ .symbol .rparen) ∧
      ¬ ∃ name, t.token = .ident name) : Fails (typeSpecs stop docAt ts) := by
  rw [Fails, typeSpecs_other fun t ht => (h t ht).1]
  exact (fails_typeSpec _ fun t ht => (h t ht).2).andThen _

theorem typeSpecs_rejects : Rejects (typeSpecs stop docAt) where
  nil := fails_typeSpecs (by simp)
  brace p r := fails_typeSpecs (by simp)
  semi p r := by rw [typeSpecs, value_later]
  keyword k p r _ := fails_typeSpecs (by simp)

theorem typeSpecs_agree (h : KeptAlike .declarations ts ts') :
    Agree (fun ss ss' => ss.map TypeSpec.bare = ss'.map TypeSpec.bare) .bodies
      (typeSpecs stop docAt ts).value (typeSpecs stop' docAt' ts').value := by
  induction hn : ts.length using Nat.strongRecOn generalizing ts ts' with
  | _ n ih =>
    refine typeSpecs_rejects.agree typeSpecs_rejects h ?_
    rintro t p p' r r' rfl rfl hk
    by_cases hs : t = .symbol .semi
    · subst hs
      rw [typeSpecs, typeSpecs, value_later, value_later]
      exact ih r.length (by simp at hn; omega) hk rfl
    by_cases hb : t = .symbol .rparen
    · subst hb
      rw [typeSpecs, typeSpecs]
      exact .done rfl hk
    rw [typeSpecs_other (by simpa using ⟨hs, hb⟩), typeSpecs_other (by simpa using ⟨hs, hb⟩)]
    refine (typeSpec_agree _ _ (.keep hk)).andThen fun spec spec' s s' hl hl' e hk => ?_
    refine moreLines_agree typeSpecs_rejects typeSpecs_rejects (by decide) (by decide) hk
      (by simpa using e) fun u u' hu hk => ?_
    exact (ih u.length (by omega) hk rfl).weaken fun _ _ es => by simp [e, es]

theorem typeDecl_single (doc : String) (h : ∀ t ∈ ts.head?, ¬ t.token = .symbol .lparen) :
    typeDecl stop docAt doc ts = (typeSpec stop "" ts).andThen fun spec r _ =>
      (endOfStatement stop r).map fun _ => ⟨doc, [spec]⟩ := by
  unfold typeDecl
  split
  · exact absurd rfl (h _ rfl)
  · rfl

theorem typeDecl_agree (doc doc' : String) (h : KeptAlike .bodies ts ts') :
    Agree (fun t t' => t.bare = t'.bare) .declarations (typeDecl stop docAt doc ts).value
      (typeDecl stop' docAt' doc' ts').value := by
  rcases h.head_cases (by decide) (P := (· = .symbol .lparen)) (by simp) (.inr (by simp)) with
    ⟨_, p, p', r, r', rfl, rfl, rfl, hk⟩ | ⟨hts, hts'⟩
  · rw [typeDecl, typeDecl, value_later, value_later]
    refine (typeSpecs_agree (KeptAlike.weaken hk)).andThen fun specs specs' s s' _ _ e hk => ?_
    exact (endOfStatement_agree hk).map fun _ _ _ => congrArg (TypeDecl.mk "") e
  · rw [typeDecl_single doc hts, typeDecl_single doc' hts']
    refine (typeSpec_agree _ _ h).andThen fun spec spec' s s' _ _ e hk => ?_
    exact (endOfStatement_agree hk).map fun _ _ _ => congrArg (fun s => TypeDecl.mk "" [s]) e

/-! ## Source files -/

theorem declarations_value {k : Keyword} (hk : startsValue k = true) (p : Position) (r : Tokens) :
    (declarations stop docAt (⟨.keyword k, p⟩ :: r)).value
      = ((valueDecl stop r).andThen fun _ r' _ => declarations stop docAt r').value := by
  cases k with
  | importDecl | const | var => rw [declarations, value_later]
  | _ => cases hk

/-- **Skipped declarations give nothing.** -/
theorem declarations_gap {g : List Token} (hg : Gap g) (pos : Nat → Position) (r : Tokens) :
    (declarations stop docAt (place pos g ++ r)).value = (declarations stop docAt r).value := by
  induction hg generalizing pos with
  | nil => rfl
  | semi _ ih => rw [place_cons, List.cons_append, declarations, value_later, ih]
  | value hk hv _ ih =>
    rw [place_cons, place_append, place_cons, List.cons_append, List.append_assoc, List.cons_append,
      declarations_value hk]
    exact value_andThen (valueDecl_value hv _ rfl) fun _ => ih _

theorem declarations_last {g : List Token} (hg : LastGap g) (pos : Nat → Position) :
    (declarations stop docAt (place pos g)).value = .ok ([], []) := by
  have nothing : (declarations stop docAt []).value = .ok ([], []) := by rw [declarations, value_done]
  cases hg with
  | gap hg =>
    rw [← nothing, ← declarations_gap hg pos [], List.append_nil]
  | @value k v g hg hk hv =>
    rw [place_append, declarations_gap hg, place_cons, declarations_value hk]
    have skipped : ∀ pos, (valueDecl stop (place pos v)).value = .ok ((), []) := by
      intro pos
      have skipped := valueDecl_value hv pos (rfl : (endOfStatement stop []).value = .ok ((), []))
      rwa [List.append_nil] at skipped
    exact value_andThen (skipped _) fun _ => nothing

theorem fails_declarations (hne : ts ≠ []) (h : ∀ t ∈ ts.head?, t.token ≠ .symbol .semi ∧
      ∀ k, t.token = .keyword k → startsValue k = false ∧ startsDecl k = false) :
    Fails (declarations stop docAt ts) := by
  unfold declarations
  split
  case h_1 => exact absurd rfl hne
  case h_2 => exact absurd rfl (h _ rfl).1
  case h_8 => exact ⟨_, rfl⟩
  all_goals exact absurd ((h _ rfl).2 _ rfl) (by decide)

theorem declarations_ended (h : Ended ts) : (declarations stop docAt ts).value = .ok ([], []) := by
  cases h with
  | nil => rw [declarations, value_done]
  | semi hg p pos => rw [declarations, value_later, declarations_last hg]

/-- Declarations are the same, but for docs and lines. -/
abbrev DeclsAgree (stop stop' : Position) (docAt docAt' : Nat → String) (ts ts' : Tokens) : Prop :=
  Agree (fun ds ds' => ds.map Decl.bare = ds'.map Decl.bare) .declarations
    (declarations stop docAt ts).value (declarations stop' docAt' ts').value

/-- Behind what is skipped, both streams go on with the same declaration. -/
theorem declarations_kept {k : Keyword} {p p' : Position} {r r' : Tokens} (hk : startsDecl k = true)
    (h : KeptAlike .bodies r r')
    (ih : ∀ s s', s.length ≤ r.length → KeptAlike .declarations s s' →
      DeclsAgree stop stop' docAt docAt' s s') :
    DeclsAgree stop stop' docAt docAt' (⟨.keyword k, p⟩ :: r) (⟨.keyword k, p'⟩ :: r') := by
  cases k with
  | func =>
    rw [DeclsAgree, declarations, declarations, value_later, value_later]
    refine (funcDecl_agree _ _ _ _ h).andThen fun f f' s s' hs hs' e h => ?_
    exact (ih s s' hs h).map fun _ _ es => by simp [Decl.bare, e, es]
  | type =>
    rw [DeclsAgree, declarations, declarations, value_later, value_later]
    refine (typeDecl_agree _ _ h).andThen fun t t' s s' hs hs' e h => ?_
    exact (ih s s' hs h).map fun _ _ es => by simp [Decl.bare, e, es]
  | _ => cases hk

/-- **Declarations agree**, but for docs and lines. -/
theorem declarations_agree (h : KeptAlike .declarations ts ts') :
    DeclsAgree stop stop' docAt docAt' ts ts' := by
  induction hn : ts.length using Nat.strongRecOn generalizing ts ts' with
  | _ n ih =>
    cases h with
    | ended h h' =>
      rw [DeclsAgree, declarations_ended h, declarations_ended h']
      exact .done rfl (.ended .nil .nil)
    | last hg hg' =>
      rw [DeclsAgree, declarations_last hg, declarations_last hg']
      exact .done rfl (.ended .nil .nil)
    | @skip k g g' p p' pos pos' r r' hk hg hg' h =>
      have shorter : r.length < n := by simp at hn; omega
      rw [DeclsAgree, declarations_gap hg, declarations_gap hg']
      exact declarations_kept hk h fun s s' hs h => ih s.length (by omega) h rfl
    | body =>
      exact .fails (fails_declarations (by simp) (by simp)) (fails_declarations (by simp) (by simp))
    | @keep _ t p p' r r' h =>
      have shorter : r.length < n := by simp at hn; omega
      by_cases hs : t = .symbol .semi
      · subst hs
        rw [DeclsAgree, declarations, declarations, value_later, value_later]
        exact ih r.length shorter h rfl
      by_cases hv : ∃ k, t = .keyword k ∧ startsValue k = true
      · obtain ⟨k, rfl, hk⟩ := hv
        rw [behind_decl (.inl hk)] at h
        rw [DeclsAgree, declarations_value hk, declarations_value hk]
        refine (valueDecl_agree h).andThen fun _ _ s s' hs hs' _ h => ?_
        exact ih s.length (by omega) h rfl
      by_cases hd : ∃ k, t = .keyword k ∧ startsDecl k = true
      · obtain ⟨k, rfl, hk⟩ := hd
        rw [behind_decl (.inr hk)] at h
        exact declarations_kept hk h fun s s' hs h => ih s.length (by omega) h rfl
      have other : ∀ k, t = .keyword k → startsValue k = false ∧ startsDecl k = false := by
        intro k e
        exact ⟨by simpa using fun hk => hv ⟨k, e, hk⟩, by simpa using fun hk => hd ⟨k, e, hk⟩⟩
      exact .fails (fails_declarations (by simp) (by simpa using ⟨hs, other⟩))
        (fails_declarations (by simp) (by simpa using ⟨hs, other⟩))

/-- A source file behind the semicolons in front of it. -/
theorem sourceFile_other (h : ∀ t ∈ ts.head?, ¬ t.token = .symbol .semi) :
    sourceFile stop docAt ts = expect stop (.keyword .package) .packageKeyword ts fun r _ =>
      identifier stop .packageName r fun package r' _ =>
        (endOfStatement stop r').andThen fun _ r'' _ =>
          (declarations stop docAt r'').map fun decls => ⟨package, decls⟩ := by
  rw [sourceFile.eq_def]
  split
  · exact absurd rfl (h _ rfl)
  · rfl

theorem fails_sourceFile
    (h : ∀ t ∈ ts.head?, t.token ≠ .symbol .semi ∧ t.token ≠ .keyword .package) :
    Fails (sourceFile stop docAt ts) := by
  rw [sourceFile_other fun t ht => (h t ht).1]
  exact fails_expect fun t ht => (h t ht).2

theorem sourceFile_rejects : Rejects (sourceFile stop docAt) where
  nil := fails_sourceFile (by simp)
  brace p r := fails_sourceFile (by simp)
  semi p r := by rw [sourceFile, value_later]
  keyword k p r hk := by
    have other : k ≠ .package := by
      rintro rfl
      cases hk
    exact fails_sourceFile (by simpa using other)

theorem sourceFile_agree (h : KeptAlike .declarations ts ts') :
    Agree (fun f f' => f.bare = f'.bare) .declarations (sourceFile stop docAt ts).value
      (sourceFile stop' docAt' ts').value := by
  induction hn : ts.length using Nat.strongRecOn generalizing ts ts' with
  | _ n ih =>
    refine sourceFile_rejects.agree sourceFile_rejects h ?_
    rintro t p p' r r' rfl rfl hk
    by_cases hs : t = .symbol .semi
    · subst hs
      rw [sourceFile, sourceFile, value_later, value_later]
      exact ih r.length (by simp at hn; omega) hk rfl
    rw [sourceFile_other (by simpa using hs), sourceFile_other (by simpa using hs)]
    refine expect_agree (.keep hk : KeptAlike .bodies _ _) (by decide) (by decide) (by decide)
      fun r r' _ _ h => ?_
    refine identifier_agree (h : KeptAlike .bodies r r') (by decide) fun package r r' _ _ h => ?_
    refine (endOfStatement_agree h).andThen fun _ _ r r' _ _ _ h => ?_
    exact (declarations_agree h).map fun _ _ e => congrArg (SourceFile.mk package) e

end

end Parse

namespace SourceFile

open Parse

/-- **Skipped code does not reach the declarations.** Two streams of tokens that differ in function bodies,
and in the imports, constants and variables between other declarations, are both read or both refused, and
what is read from them is the same but for docs and lines. -/
theorem skipped_irrelevant {m : Skippable} {s s' : Source} (h : KeptAlike m s.tokens s'.tokens) :
    (ofSource s).toOption.map bare = (ofSource s').toOption.map bare := by
  have agree : Agree (fun f f' => f.bare = f'.bare) .declarations
      (sourceFile s.stop (Comment.docText s.comments) s.tokens).value
      (sourceFile s'.stop (Comment.docText s'.comments) s'.tokens).value := sourceFile_agree h.weaken
  rw [ofSource_eq, ofSource_eq]
  generalize (sourceFile s.stop (Comment.docText s.comments) s.tokens).value = x,
    (sourceFile s'.stop (Comment.docText s'.comments) s'.tokens).value = y at agree ⊢
  cases agree with
  | fail e e' => rfl
  | done hab _ => exact congrArg some hab

/-- The imports of a group, a body with brackets of its own, and a constant at the end. -/
def routes : Source where
  tokens :=
    place (fun i => ⟨1, i⟩) [.keyword .package, .ident "routes", .symbol .semi] ++
    (place (fun i => ⟨2, i⟩) [.keyword .importDecl, .symbol .lparen, .string "fmt", .symbol .semi,
      .string "os", .symbol .rparen, .symbol .semi] ++ ⟨.keyword .func, ⟨3, 0⟩⟩ ::
    (place (fun i => ⟨3, i + 1⟩) [.ident "Serve", .symbol .lparen, .symbol .rparen] ++
      ⟨.symbol .lbrace, ⟨3, 4⟩⟩ ::
    (place (fun i => ⟨4, i⟩) [.ident "log", .symbol .dot, .ident "Print", .symbol .lparen,
      .ident "seen", .symbol .lbrack, .number "0", .symbol .rbrack, .symbol .rparen, .symbol .semi] ++
      ⟨.symbol .rbrace, ⟨5, 0⟩⟩ ::
    (place (fun i => ⟨6, i⟩) [.symbol .semi, .keyword .type, .ident "Server", .keyword .struct,
      .symbol .lbrace, .ident "Name", .ident "string", .symbol .rbrace, .symbol .semi] ++
    place (fun i => ⟨7, i⟩) [.keyword .const, .ident "Limit", .symbol .assign, .number "1"]))))
  comments := []
  stop := ⟨8, 1⟩

/-- The same routes, documented, and without all that is skipped. -/
def routesStub : Source where
  tokens :=
    place (fun i => ⟨1, i⟩) [.keyword .package, .ident "routes", .symbol .semi] ++
    ⟨.keyword .func, ⟨3, 0⟩⟩ ::
    (place (fun i => ⟨3, i + 1⟩) [.ident "Serve", .symbol .lparen, .symbol .rparen] ++
      ⟨.symbol .lbrace, ⟨3, 4⟩⟩ :: ⟨.symbol .rbrace, ⟨3, 5⟩⟩ ::
    (place (fun i => ⟨4, i⟩) [.symbol .semi, .keyword .type, .ident "Server", .keyword .struct,
      .symbol .lbrace, .ident "Name", .ident "string", .symbol .rbrace, .symbol .semi] ++ []))
  comments := [⟨"// Serve answers.", 2, 2, false⟩]
  stop := ⟨5, 1⟩

theorem routes_alike : KeptAlike .declarations routes.tokens routesStub.tokens := by
  have imports : Gap [.keyword .importDecl, .symbol .lparen, .string "fmt", .symbol .semi, .string "os",
      .symbol .rparen, .symbol .semi] :=
    .value rfl (.group (w := [.string "fmt", .symbol .semi, .string "os"]) (c := .symbol .rparen) rfl
      (.plain rfl rfl (.plain rfl rfl (.plain rfl rfl .nil)))) .nil
  have body : Balanced [.ident "log", .symbol .dot, .ident "Print", .symbol .lparen, .ident "seen",
      .symbol .lbrack, .number "0", .symbol .rbrack, .symbol .rparen, .symbol .semi] := by
    have args : Balanced [.ident "seen", .symbol .lbrack, .number "0", .symbol .rbrack] :=
      .plain rfl rfl (.group (v := [.number "0"]) rfl rfl rfl (.plain rfl rfl .nil) .nil)
    exact .plain rfl rfl (.plain rfl rfl (.plain rfl rfl (.group rfl rfl rfl args (.plain rfl rfl .nil))))
  have limit : LastGap [.keyword .const, .ident "Limit", .symbol .assign, .number "1"] :=
    .value (g := []) .nil rfl (.inline (.plain rfl rfl (by decide) (.plain rfl rfl (by decide)
      (.plain rfl rfl (by decide) .nil))) (by decide))
  refine KeptAlike.append ?_ _ _
  refine @KeptAlike.skip .func _ [] _ _ _ (fun _ => .start) _ _ rfl imports .nil ?_
  refine KeptAlike.append ?_ _ _
  refine @KeptAlike.body .bodies (.symbol .rbrace) _ [] _ _ _ _ _ (fun _ => .start) _ _ (by decide) rfl
    body .nil ?_
  refine KeptAlike.append ?_ _ _
  exact @KeptAlike.last _ [] _ (fun _ => .start) limit (.gap .nil)

theorem skipped_irrelevant_routes :
    (ofSource routes).toOption.map bare = (ofSource routesStub).toOption.map bare ∧
      (ofSource routesStub).toOption.map (·.decls.length) = some 2 :=
  ⟨skipped_irrelevant routes_alike, by decide +kernel⟩

end SourceFile

end GoGlue
