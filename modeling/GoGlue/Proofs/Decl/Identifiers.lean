import GoGlue.Proofs.Decl.Places
import GoGlue.Proofs.GoType.WellFormed
import GoGlue.Proofs.Source.Semicolons

/-!
# The identifiers of declarations

All that is named in a declaration, a type of another package with the name of that package included, is named
by an identifier among the tokens of the file, wherever in a parameter, a result or a field it stands. And the
identifiers of a source were cut out of it as words.

* `typeExpr_identifiers`: what holds of the identifiers ahead holds of those in the type that is read.
* `sourceFile_identifiers`: so it is for the declarations of a file.
* `parse_identifiers`, `parse_package`: the identifiers in the declarations of a source and its package are words.
* `resolve_identifiers`: a resolved type is named by the identifiers of the written one.
-/
namespace GoGlue

mutual
/-- The identifiers in a type and its parts. -/
def TypeExpr.identifiers : TypeExpr → List String
  | .ident name => [name]
  | .selector package name => [package, name]
  | .interface _ => []
  | .pointer elem | .slice elem | .array _ elem | .chan _ elem | .ellipsis elem => elem.identifiers
  | .map key value => key.identifiers ++ value.identifiers
  | .func params results => fieldIdentifiers params ++ fieldIdentifiers results
  | .struct fields => fieldIdentifiers fields
  | .generic base args => base.identifiers ++ typeIdentifiers args
def fieldIdentifiers : List Field → List String
  | [] => []
  | .mk names type _ :: rest => names ++ type.identifiers ++ fieldIdentifiers rest
def typeIdentifiers : List TypeExpr → List String
  | [] => []
  | t :: rest => t.identifiers ++ typeIdentifiers rest
end

def TypeSpec.identifiers (s : TypeSpec) : List String := s.name :: s.type.identifiers

/-- The identifiers in a declaration; a receiver adds nothing that is declared elsewhere. -/
def Decl.identifiers : Decl → List String
  | .func f => f.name :: (fieldIdentifiers f.params ++ fieldIdentifiers f.results)
  | .type t => t.specs.flatMap TypeSpec.identifiers

theorem mem_fieldIdentifiers {fields : List Field} {q : String} :
    q ∈ fieldIdentifiers fields ↔ ∃ f ∈ fields, q ∈ f.names ∨ q ∈ f.type.identifiers := by
  induction fields with
  | nil => simp [fieldIdentifiers]
  | cons f rest ih =>
    obtain ⟨names, type, tag⟩ := f
    rw [fieldIdentifiers, List.mem_append, List.mem_append, ih, List.exists_mem_cons_iff]
    rfl

namespace Parse

open Reply

variable {P : String → Prop} {stop : Position} {ts : Tokens}

/-- The identifiers among the tokens have `P`. -/
def Identifiers (P : String → Prop) (ts : Tokens) : Prop := ∀ t ∈ ts, ∀ name, t.token = .ident name → P name

theorem Identifiers.head {name : String} {p : Position} (h : Identifiers P (⟨.ident name, p⟩ :: ts)) : P name :=
  h _ List.mem_cons_self name rfl

theorem Identifiers.suffix {r : Tokens} (h : Identifiers P ts) (hr : r <:+ ts) : Identifiers P r :=
  fun t ht => h t (hr.subset ht)

theorem Identifiers.tail {t : Located} (h : Identifiers P (t :: ts)) : Identifiers P ts :=
  h.suffix (List.suffix_cons t ts)

/-- The names have `P`. -/
def Over (P : String → Prop) (qs : List String) : Prop := ∀ q ∈ qs, P q

theorem over_cons {q : String} {qs : List String} : Over P (q :: qs) ↔ P q ∧ Over P qs := List.forall_mem_cons

theorem over_append {qs rs : List String} : Over P (qs ++ rs) ↔ Over P qs ∧ Over P rs := List.forall_mem_append

/-! ## Parameter lists -/

/-- The identifiers in an entry of a parameter list. -/
def Entry.identifiers : Entry → List String
  | .bare name => [name]
  | .named name t => name :: t.identifiers
  | .type t => t.identifiers

theorem groupNamed_identifiers {pending : List String} {es : List Entry} {fields : List Field}
    (h : groupNamed pending es = some fields) (hp : Over P pending) (he : ∀ e ∈ es, Over P e.identifiers) :
    Over P (fieldIdentifiers fields) := by
  fun_induction groupNamed pending es generalizing fields with
  | case1 pending empty =>
    cases h
    simp [fieldIdentifiers, Over]
  | case2 => cases h
  | case3 pending name rest ih =>
    obtain ⟨first, others⟩ := List.forall_mem_cons.1 he
    exact ih h (over_append.2 ⟨hp, first⟩) others
  | case4 pending name type rest ih =>
    obtain ⟨more, hm, rfl⟩ := Option.map_eq_some_iff.1 h
    obtain ⟨first, others⟩ := List.forall_mem_cons.1 he
    obtain ⟨itself, ofType⟩ := List.forall_mem_cons.1 first
    have names : Over P (pending ++ [name]) := over_append.2 ⟨hp, by simpa [Over] using itself⟩
    exact over_append.2 ⟨over_append.2 ⟨names, ofType⟩, ih hm (by simp [Over]) others⟩
  | case5 => cases h

theorem groupParameters_identifiers {es : List Entry} {fields : List Field}
    (h : groupParameters es = some fields) (he : ∀ e ∈ es, Over P e.identifiers) :
    Over P (fieldIdentifiers fields) := by
  unfold groupParameters at h
  split at h
  · exact groupNamed_identifiers h (by simp [Over]) he
  · cases h
    intro q hq
    obtain ⟨f, hf, hq⟩ := mem_fieldIdentifiers.1 hq
    obtain ⟨e, hm, rfl⟩ := List.mem_map.1 hf
    refine he e hm q ?_
    have unnamed : q ∈ e.unnamed.type.identifiers := hq.resolve_left (by cases e <;> exact List.not_mem_nil)
    cases e with
    | bare name | type type => exact unnamed
    | named name type => exact List.mem_cons_of_mem _ unnamed

theorem fieldNames_identifiers (stop : Position) (ts : Tokens) (h : Identifiers P ts) :
    Ensures (fun names _ => Over P names) (fieldNames stop ts) := by
  rw [fieldNames]
  refine ensures_identifier fun name p r hr e => ?_
  have here : Identifiers P (⟨.ident name, p⟩ :: r) := e ▸ h
  split
  · exact (Ensures.map ((fieldNames_identifiers stop _ here.tail.tail).imp fun names _ hn =>
      over_cons.2 ⟨here.head, hn⟩)).later _
  · exact ensures_done (by simpa [Over] using here.head)
termination_by ts.length
decreasing_by subst_vars; simp only [List.length_cons] at *; omega

/-! ## Types -/

mutual
/-- **What holds of the identifiers ahead holds of those in the type that is read.** -/
theorem typeExpr_identifiers (stop : Position) (ts : Tokens) (h : Identifiers P ts) :
    Ensures (fun e _ => Over P e.identifiers) (typeExpr stop ts) := by
  rw [typeExpr.eq_def]
  split
  · next package p q r =>
    refine ((ensures_identifier fun name p' r' _ e => ?_).later _).later _
    have member : Identifiers P (⟨.ident name, p'⟩ :: r') := e ▸ h.tail.tail
    exact instantiated_identifiers stop _ r' member.tail
      (over_cons.2 ⟨h.head, by simpa [Over] using member.head⟩)
  · next name p r _ =>
    exact (instantiated_identifiers stop _ r h.tail (by simpa [TypeExpr.identifiers, Over] using h.head)).later _
  · exact (Ensures.map (typeExpr_identifiers stop _ h.tail)).later _
  · exact ((Ensures.map (typeExpr_identifiers stop _ h.tail.tail)).later _).later _
  · exact (Ensures.andThen (arrayLength_leaves stop _) fun len r _ hr =>
      Ensures.map (typeExpr_identifiers stop r (h.tail.suffix hr))).later _
  · refine (ensures_expect fun p r1 _ e1 => ?_).later _
    have h1 : Identifiers P r1 := (e1 ▸ h.tail).tail
    refine Ensures.andThen ((typeExpr_leaves stop r1).and (typeExpr_identifiers stop r1 h1)) fun key r2 _ hk => ?_
    refine ensures_expect fun p' r3 _ e3 => ?_
    have h3 : Identifiers P r3 := (e3 ▸ h1.suffix hk.1).tail
    exact Ensures.map ((typeExpr_identifiers stop r3 h3).imp fun value _ hv => over_append.2 ⟨hk.2, hv⟩)
  · exact ((Ensures.map (typeExpr_identifiers stop _ h.tail.tail)).later _).later _
  · exact (Ensures.map (typeExpr_identifiers stop _ h.tail)).later _
  · exact (ensures_expect fun p r _ e => Ensures.map (typeExpr_identifiers stop r (e ▸ h.tail).tail)).later _
  · refine (Ensures.andThen ((parameters_leaves stop _).and (parameters_identifiers stop _ h.tail))
      fun params r _ hp => ?_).later _
    exact Ensures.map ((results_identifiers stop r (h.tail.suffix hp.1)).imp fun results _ hr =>
      over_append.2 ⟨hp.2, hr⟩)
  · refine (ensures_expect fun p r _ _ => Ensures.map fun empty r' _ => ?_).later _
    simp [TypeExpr.identifiers, Over]
  · exact (ensures_expect fun p r _ e => Ensures.map (structFields_identifiers stop r (e ▸ h.tail).tail)).later _
  · exact (Ensures.map (typeExpr_identifiers stop _ h.tail)).later _
  · exact (Ensures.andThen (typeExpr_identifiers stop _ h.tail) fun t r _ ht =>
      ensures_expect fun p r' _ _ => ensures_done ht).later _
  · exact ensures_unexpected _
termination_by 3 * ts.length + 0
decreasing_by all_goals (subst_vars; simp only [List.length_cons] at *; omega)

theorem instantiated_identifiers (stop : Position) (base : TypeExpr) (ts : Tokens) (h : Identifiers P ts)
    (hb : Over P base.identifiers) : Ensures (fun e _ => Over P e.identifiers) (instantiated stop base ts) := by
  rw [instantiated.eq_def]
  split
  · exact (Ensures.map ((typeArgs_identifiers stop _ h.tail).imp fun args _ ha => over_append.2 ⟨hb, ha⟩)).later _
  · exact ensures_done hb
termination_by 3 * ts.length + 0
decreasing_by all_goals (subst_vars; simp only [List.length_cons] at *; omega)

theorem typeArgs_identifiers (stop : Position) (ts : Tokens) (h : Identifiers P ts) :
    Ensures (fun args _ => Over P (typeIdentifiers args)) (typeArgs stop ts) := by
  rw [typeArgs.eq_def]
  split
  · exact (ensures_done (by simp [typeIdentifiers, Over])).later _
  · refine Ensures.andThen ((typeExpr_leaves stop _).and (typeExpr_identifiers stop _ h)) fun t r _ ht => ?_
    have rest := h.suffix ht.1
    split
    · exact (Ensures.map ((typeArgs_identifiers stop _ rest.tail).imp fun args _ ha =>
        over_append.2 ⟨ht.2, ha⟩)).later _
    · exact ensures_expect fun p r' _ _ => ensures_done (by simpa [typeIdentifiers] using ht.2)
termination_by 3 * ts.length + 1
decreasing_by all_goals (subst_vars; simp only [List.length_cons] at *; omega)

theorem parameters_identifiers (stop : Position) (ts : Tokens) (h : Identifiers P ts) :
    Ensures (fun fields _ => Over P (fieldIdentifiers fields)) (parameters stop ts) := by
  rw [parameters.eq_def]
  refine ensures_expect fun p r _ e => ?_
  refine Ensures.andThen (entries_identifiers stop r (e ▸ h).tail) fun es r' _ he => ?_
  split
  · next grouped => exact ensures_done (groupParameters_identifiers grouped he)
  · exact ensures_fail _
termination_by 3 * ts.length + 0

theorem entries_identifiers (stop : Position) (ts : Tokens) (h : Identifiers P ts) :
    Ensures (fun es _ => ∀ e ∈ es, Over P e.identifiers) (entries stop ts) := by
  rw [entries.eq_def]
  split
  · exact (ensures_done (by simp)).later _
  · refine Ensures.andThen ((entry_leaves stop _).and (entry_identifiers stop _ h)) fun e r _ he => ?_
    have rest := h.suffix he.1
    split
    · refine (Ensures.map ((entries_identifiers stop _ rest.tail).imp fun es _ hs => ?_)).later _
      exact List.forall_mem_cons.2 ⟨he.2, hs⟩
    · exact ensures_expect fun p r' _ _ => ensures_done (by simpa using he.2)
termination_by 3 * ts.length + 2
decreasing_by all_goals (subst_vars; simp only [List.length_cons] at *; omega)

theorem entry_identifiers (stop : Position) (ts : Tokens) (h : Identifiers P ts) :
    Ensures (fun e _ => Over P e.identifiers) (entry stop ts) := by
  rw [entry.eq_def]
  split
  · split
    · exact (ensures_done (by simpa [Entry.identifiers, Over] using h.head)).later _
    · exact (Ensures.map ((typeExpr_identifiers stop _ h.tail).imp fun t _ ht =>
        over_cons.2 ⟨h.head, ht⟩)).later _
    · exact Ensures.map (typeExpr_identifiers stop _ h)
  · exact Ensures.map (typeExpr_identifiers stop _ h)
termination_by 3 * ts.length + 1
decreasing_by all_goals (subst_vars; simp only [List.length_cons] at *; omega)

theorem results_identifiers (stop : Position) (ts : Tokens) (h : Identifiers P ts) :
    Ensures (fun fields _ => Over P (fieldIdentifiers fields)) (results stop ts) := by
  rw [results.eq_def]
  split
  · exact ensures_done (by simp [fieldIdentifiers, Over])
  · split
    · exact parameters_identifiers stop _ h
    · split
      · exact Ensures.map ((typeExpr_identifiers stop _ h).imp fun type _ ht => by
          simpa [Field.unnamed, fieldIdentifiers] using ht)
      · exact ensures_done (by simp [fieldIdentifiers, Over])
termination_by 3 * ts.length + 1
decreasing_by all_goals (subst_vars; simp only [List.length_cons] at *; omega)

theorem structFields_identifiers (stop : Position) (ts : Tokens) (h : Identifiers P ts) :
    Ensures (fun fields _ => Over P (fieldIdentifiers fields)) (structFields stop ts) := by
  rw [structFields.eq_def]
  split
  · exact (structFields_identifiers stop _ h.tail).later _
  · exact (ensures_done (by simp [fieldIdentifiers, Over])).later _
  · refine Ensures.andThen ((structField_leaves stop _).and (structField_identifiers stop _ h)) fun f r _ hf => ?_
    refine Ensures.andThen (fieldTag_leaves r) fun tag r' _ ht => ?_
    have rest := h.suffix (ht.trans hf.1)
    have tagged : Over P (fieldIdentifiers [f.withTag tag]) := by
      obtain ⟨names, type, tag⟩ := f
      simpa [Field.withTag, fieldIdentifiers, Field.names, Field.type] using hf.2
    have shorter := (ht.trans hf.1).length_le
    split
    · exact (ensures_done tagged).later _
    · refine ensures_expect fun p r'' hr e => Ensures.map ?_
      exact (structFields_identifiers stop r'' (e ▸ rest).tail).imp fun fields _ hs => by
        obtain ⟨names, type, tag⟩ := f
        exact over_append.2 ⟨hf.2, hs⟩
termination_by 3 * ts.length + 2
decreasing_by all_goals (subst_vars; simp only [List.length_cons] at *; omega)

theorem structField_identifiers (stop : Position) (ts : Tokens) (h : Identifiers P ts) :
    Ensures (fun f _ => Over P (f.names ++ f.type.identifiers)) (structField stop ts) := by
  rw [structField.eq_def]
  split
  · exact Ensures.map (typeExpr_identifiers stop _ h)
  · split
    · exact Ensures.map (typeExpr_identifiers stop _ h)
    · refine Ensures.andThen ((fieldNames_leaves stop _).and (fieldNames_identifiers stop _ h))
        fun names r _ hn => ?_
      exact Ensures.map ((typeExpr_identifiers stop r (h.suffix hn.1)).imp fun type _ ht =>
        over_append.2 ⟨hn.2, ht⟩)
  · exact ensures_unexpected _
termination_by 3 * ts.length + 1
decreasing_by all_goals (subst_vars; simp only [List.length_cons] at *; omega)
end

/-! ## Declarations -/

theorem funcDecl_identifiers (doc : String) (line : Nat) (h : Identifiers P ts) :
    Ensures (fun f _ => Over P (Decl.func f).identifiers) (funcDecl stop doc line ts) := by
  refine Ensures.andThen (receiver_leaves stop ts) fun recv r1 _ h1 =>
    ensures_identifier fun name p r2 _ e => ?_
  have s1 : Identifiers P (⟨.ident name, p⟩ :: r2) := e ▸ h.suffix h1
  refine Ensures.andThen (optionalGroup_leaves stop .lbrack r2) fun generic r3 _ h3 => ?_
  have s3 := s1.tail.suffix h3
  refine Ensures.andThen ((parameters_leaves stop r3).and (parameters_identifiers stop r3 s3))
    fun params r4 _ h4 => ?_
  refine Ensures.andThen (results_identifiers stop r4 (s3.suffix h4.1)) fun res r5 _ h5 => ?_
  refine Ensures.andThen (ensures_trivial _) fun _ r6 _ _ => Ensures.map fun _ _ _ => ?_
  exact over_cons.2 ⟨s1.head, over_append.2 ⟨h4.2, h5⟩⟩

theorem typeSpec_identifiers (doc : String) (h : Identifiers P ts) :
    Ensures (fun s _ => Over P s.identifiers) (typeSpec stop doc ts) := by
  refine ensures_identifier fun name p r1 _ e => ?_
  have s1 : Identifiers P (⟨.ident name, p⟩ :: r1) := e ▸ h
  refine Ensures.andThen (typeParams_leaves stop r1) fun generic r2 _ h2 => ?_
  refine Ensures.andThen (aliasMark_leaves r2) fun isAlias r3 _ h3 => ?_
  exact Ensures.map ((typeExpr_identifiers stop r3 (s1.tail.suffix (h3.trans h2))).imp fun type _ ht =>
    over_cons.2 ⟨s1.head, ht⟩)

theorem typeSpecs_identifiers (stop : Position) (docAt : Nat → String) (ts : Tokens) (h : Identifiers P ts) :
    Ensures (fun specs _ => ∀ s ∈ specs, Over P s.identifiers) (typeSpecs stop docAt ts) := by
  rw [typeSpecs.eq_def]
  split
  · exact (typeSpecs_identifiers stop docAt _ h.tail).later _
  · exact (ensures_done (by simp)).later _
  · refine Ensures.andThen ((typeSpec_leaves stop _ _).and (typeSpec_identifiers _ h)) fun spec r _ hs => ?_
    have rest := h.suffix hs.1
    have shorter := hs.1.length_le
    split
    · exact (ensures_done (by simpa using hs.2)).later _
    · refine ensures_expect fun p r' hr e => Ensures.map ?_
      exact (typeSpecs_identifiers stop docAt r' (e ▸ rest).tail).imp fun specs _ more =>
        List.forall_mem_cons.2 ⟨hs.2, more⟩
termination_by ts.length
decreasing_by all_goals (subst_vars; simp only [List.length_cons] at *; omega)

theorem typeDecl_identifiers (docAt : Nat → String) (doc : String) (h : Identifiers P ts) :
    Ensures (fun t _ => ∀ s ∈ t.specs, Over P s.identifiers) (typeDecl stop docAt doc ts) := by
  unfold typeDecl
  split
  · exact (Ensures.andThen (typeSpecs_identifiers stop docAt _ h.tail) fun specs r _ hs =>
      Ensures.map fun _ _ _ => hs).later _
  · exact Ensures.andThen (typeSpec_identifiers "" h) fun spec r _ hs =>
      Ensures.map fun _ _ _ => by simpa using hs

/-- **The identifiers in the declarations of a file are among its tokens.** -/
theorem sourceFile_identifiers (docAt : Nat → String) (h : Identifiers P ts) :
    Ensures (fun file _ => ∀ d ∈ file.decls, Over P d.identifiers) (sourceFile stop docAt ts) := by
  refine (sourceFile_places stop docAt ts).imp fun file _ placed d hd => ?_
  obtain ⟨t, post, at_, read⟩ := placed d hd
  have ahead := (h.suffix at_).tail
  cases d with
  | func f =>
    obtain ⟨-, -, r, read⟩ := read
    exact funcDecl_identifiers _ _ ahead f r read
  | type t =>
    obtain ⟨-, -, ⟨r, read⟩, -⟩ := read
    intro q hq
    obtain ⟨s, hs, hq⟩ := List.mem_flatMap.1 hq
    exact typeDecl_identifiers docAt _ ahead t r read s hs q hq

/-- The name of the package is among the tokens of the file. -/
theorem sourceFile_package (docAt : Nat → String) (ts : Tokens) (h : Identifiers P ts) :
    Ensures (fun file _ => P file.package) (sourceFile stop docAt ts) := by
  rw [sourceFile.eq_def]
  split
  · exact (sourceFile_package docAt _ h.tail).later _
  · refine ensures_expect fun p r _ hr => ensures_identifier fun package q s _ hs => ?_
    subst hr hs
    refine Ensures.andThen (ensures_trivial _) fun _ u _ _ => ?_
    exact Ensures.map ((ensures_trivial _).imp fun _ _ _ => h.tail.head)
termination_by ts.length
decreasing_by all_goals (subst_vars; simp only [List.length_cons] at *; omega)

end Parse

/-! ## Identifiers of a source -/

/-- The name is made of the characters of identifiers. -/
def IsWord (name : String) : Prop := name ≠ "" ∧ ∀ c ∈ name.toList, Lexeme.continuesWord c = true

namespace Lexeme

theorem scanSymbol_cls (c : Char) (r : List Char) : (scanSymbol c r).1 ≠ .word := by
  fun_cases scanSymbol c r <;> simp

theorem IsLiteral.ne_word {cls : LexemeClass} (h : IsLiteral cls) : cls ≠ .word := by
  rcases h with rfl | rfl | rfl <;> simp

theorem scan_word {c : Char} {r : List Char} {n : Nat} (h : scan c r = .ok (.word, n)) :
    ∀ x ∈ c :: r.take n, continuesWord x = true := by
  unfold scan at h
  split at h
  · cases h
  split at h
  · cases h
  split at h
  · next starts =>
    cases h
    have taken : r.take (r.takeWhile continuesWord).length = r.takeWhile continuesWord :=
      (List.prefix_iff_eq_take.1 (List.takeWhile_prefix _)).symm
    rw [taken]
    exact List.forall_mem_cons.2 ⟨by rw [continuesWord, starts, Bool.true_or], fun x => List.mem_takeWhile_imp⟩
  split at h
  · cases h
  split at h
  · cases h
  split at h
  · exact absurd rfl (scanString_literal h).ne_word
  split at h
  · exact absurd rfl (scanRawString_literal h).ne_word
  split at h
  · exact absurd rfl (scanRune_literal h).ne_word
  split at h
  · cases h
  · split at h <;> cases h
  · exact absurd (congrArg Prod.fst (Except.ok.inj h)) (scanSymbol_cls _ _)

theorem lexemesFrom_words {pos stop : Position} {s : List Char} {ls : List Lexeme}
    (h : lexemesFrom pos s = .ok (ls, stop)) : ∀ l ∈ ls, l.cls = .word → IsWord (String.ofList l.text) := by
  fun_induction lexemesFrom pos s generalizing ls stop with
  | case1 pos =>
    cases h
    simp
  | case2 pos c r skipped ih => exact ih h
  | case3 => cases h
  | case4 => cases h
  | case5 pos c r hs cls n first found stop rest ih =>
    cases h
    refine List.forall_mem_cons.2 ⟨?_, ih rest⟩
    rintro rfl
    exact ⟨by simp, by simpa using scan_word first⟩

theorem token_ident {l : Lexeme} {name : String} (h : l.token? = some (.ident name)) :
    l.cls = .word ∧ name = String.ofList l.text := by
  unfold token? at h
  dsimp only at h
  split at h <;> try cases h
  · next word =>
    split at h <;> cases h
    exact ⟨word, rfl⟩
  · obtain ⟨c, -, e⟩ := Option.map_eq_some_iff.1 h
    cases e

end Lexeme

namespace Source

theorem tokensFrom_words {stop : Position} {due : Bool} {ls : List Lexeme}
    (h : ∀ l ∈ ls, l.cls = .word → IsWord (String.ofList l.text)) :
    Parse.Identifiers IsWord (tokensFrom stop due ls) := by
  have semi : ∀ (due : Bool) (pos : Position), Parse.Identifiers IsWord (dueSemi due pos) := by
    intro due pos t ht name e
    unfold dueSemi at ht
    split at ht
    · rw [List.mem_singleton.1 ht] at e
      cases e
    · cases ht
  induction ls generalizing due with
  | nil => exact semi due stop
  | cons l rest ih =>
    obtain ⟨first, others⟩ := List.forall_mem_cons.1 h
    rw [tokensFrom]
    split
    · next t ht =>
      refine List.forall_mem_cons.2 ⟨fun name e => ?_, ih others⟩
      cases e
      obtain ⟨word, rfl⟩ := Lexeme.token_ident ht
      exact first word
    · split
      · exact List.forall_mem_append.2 ⟨semi due l.pos, ih others⟩
      · exact ih others

end Source

/-- What holds of a file whose tokens have words for identifiers. -/
theorem SourceFile.parse_words {Q : SourceFile → Prop} {text : String} {file : SourceFile} (h : parse text = .ok file)
    (hq : ∀ s : Source, Parse.Identifiers IsWord s.tokens →
      Reply.Ensures (fun file _ => Q file) (Parse.sourceFile s.stop (Comment.docText s.comments) s.tokens)) :
    Q file := by
  unfold parse at h
  split at h
  · cases h
  · next s read =>
    have words : Parse.Identifiers IsWord s.tokens := by
      obtain ⟨lexemes, cut, tokens, -⟩ := Source.read_eq read
      exact tokens ▸ Source.tokensFrom_words (Lexeme.lexemesFrom_words cut)
    rw [ofSource_eq] at h
    obtain ⟨⟨file', r⟩, answer, rfl⟩ := ok_of_map h
    exact hq s words _ r answer

/-- **The identifiers in the declarations of a source are words.** -/
theorem SourceFile.parse_identifiers {text : String} {file : SourceFile} (h : parse text = .ok file) :
    ∀ d ∈ file.decls, ∀ q ∈ d.identifiers, IsWord q :=
  parse_words h fun _ words => Parse.sourceFile_identifiers _ words

/-- The name of the package of a source is a word. -/
theorem SourceFile.parse_package {text : String} {file : SourceFile} (h : parse text = .ok file) :
    IsWord file.package := parse_words h fun _ words => Parse.sourceFile_package _ _ words

/-- The package of the node is one of the names, and so is the node itself if it has no parts to be named
after. -/
structure GoType.NamedBy (names : List String) (n : GoType) : Prop where
  package : ∀ q ∈ n.package, q ∈ names
  leaf : n.elem = none → n.kind ≠ .interface → n.name ∈ names

/-- **A resolved type is named by the identifiers of the written one.** -/
theorem TypeExpr.resolve_identifiers {e : TypeExpr} {t : GoType} (h : e.resolve = .ok t) :
    ∀ n ∈ t.nodes, n.NamedBy e.identifiers := by
  have leaf : ∀ {kind : TypeKind} {name : String} {package : Option String} {names : List String},
      (∀ q ∈ package, q ∈ names) → (kind ≠ .interface → name ∈ names) →
        ∀ n ∈ GoType.nodes ⟨kind, name, package, none, none, none⟩, n.NamedBy names := by
    intro kind name package names hq hn n hm
    have same : n = ⟨kind, name, package, none, none, none⟩ := by
      simpa [GoType.nodes, GoType.partNodes] using hm
    rw [same]
    exact ⟨hq, fun _ => hn⟩
  have elem : ∀ {kind : TypeKind} {name : String} {t : GoType} {size : Option UInt64} {names : List String},
      (∀ n ∈ t.nodes, n.NamedBy names) →
        ∀ n ∈ GoType.nodes ⟨kind, name, none, some t, none, size⟩, n.NamedBy names := by
    intro kind name t size names ht n hn
    rw [GoType.nodes_eq, List.mem_cons] at hn
    rcases hn with rfl | hn
    · exact ⟨by simp, by simp⟩
    · exact ht n (by simpa [GoType.partNodes] using hn)
  fun_induction TypeExpr.resolve e generalizing t with
  | case1 name =>
    cases h
    unfold GoType.ofName
    have itself : name ∈ (TypeExpr.ident name).identifiers := by simp [TypeExpr.identifiers]
    split_ifs with predeclared string error any
    · exact leaf (by simp) fun _ => itself
    · exact leaf (by simp) fun _ => string ▸ itself
    · exact leaf (by simp) fun _ => error ▸ itself
    · exact leaf (by simp) fun interface => absurd rfl interface
    · exact leaf (by simp) fun _ => itself
  | case2 package name =>
    cases h
    exact leaf (by simp [TypeExpr.identifiers]) fun _ => List.mem_cons_of_mem _ List.mem_cons_self
  | case3 e ih | case4 e ih | case5 len e ih | case7 e ih =>
    obtain ⟨t', he, rfl⟩ := ok_of_map h
    exact elem (ih he)
  | case6 key value ihKey ihValue =>
    cases hk : key.resolve with
    | error c => simp [hk, bind, Except.bind] at h
    | ok k =>
      cases hv : value.resolve with
      | error c => simp [hk, hv, bind, Except.bind] at h
      | ok v =>
        simp only [hk, hv, bind, Except.bind, pure, Except.pure, Except.ok.injEq] at h
        subst h
        intro n hn
        rw [GoType.nodes_eq, List.mem_cons, List.mem_append] at hn
        rcases hn with rfl | hn | hn
        · exact ⟨by simp [GoType.map, GoType.leaf], by simp [GoType.map, GoType.leaf]⟩
        · obtain ⟨ofPackage, ofLeaf⟩ := ihValue hv n hn
          exact ⟨fun q hq => List.mem_append_right _ (ofPackage q hq),
            fun none kind => List.mem_append_right _ (ofLeaf none kind)⟩
        · obtain ⟨ofPackage, ofLeaf⟩ := ihKey hk n hn
          exact ⟨fun q hq => List.mem_append_left _ (ofPackage q hq),
            fun none kind => List.mem_append_left _ (ofLeaf none kind)⟩
  | case8 =>
    cases h
    exact leaf (by simp) fun interface => absurd rfl interface
  | case9 | case10 | case11 | case12 | case13 => cases h

end GoGlue
