import GoGlue.Proofs.Decl.Cursor.Types
import GoGlue.Proofs.Decl.FileAgreement

/-!
# Source files under a cursor

With types followed, so are declarations, and the loop over all of them. The marks of a source leave room for
types as deep as they can be, so the cursor reads a whole file and is never at fault.

* `follows_valueDecl`, `follows_funcDecl`, `follows_typeDecl`: declarations.
* `follows_declarations`: the loop that collects them.
* `parseFile_faultless`: a whole file, for any text.
-/
namespace GoGlue.Cursor

open Reply

variable {α β γ σ : Type} {src : Source} {type : Cursor TypeExpr} {docAt : Nat → String} {k : Nat}
  {ts r : Tokens}

/-! ## Values -/

theorem outcome_ne_fault (v : Except SyntaxError (α × Tokens)) (f : Fault) : outcome src v ≠ .fault f := by
  cases v <;> exact fun h => nomatch h

/-- A step that comes to the same behind some tokens, before others. -/
theorem run_skip {c : Cursor α} {d : α → Cursor β} {x : Reply β r}
    (same : c src.marks (place src ts) = c src.marks (place src r)) (hr : r.length ≤ ts.length)
    (rest : (c >>= d) src.marks (place src r) = outcome src x.value) :
    (c >>= d) src.marks (place src ts) = outcome src x.value := by
  rw [← rest]
  change Cursor.bind c d _ _ = _ at rest
  show Cursor.bind c d _ _ = Cursor.bind c d _ _
  unfold Cursor.bind at *
  rw [same]
  match c src.marks (place src r), rest with
  | .error e, _ => rfl
  | .fault f, rest => exact absurd rest.symm (outcome_ne_fault _ f)
  | .value a next, rest =>
    dsimp only at *
    split at rest
    · next inside => rw [if_pos inside, if_pos ⟨Nat.le_trans (place_mono src hr) inside.1, inside.2⟩]
    · exact absurd rest.symm (outcome_ne_fault _ _)

/-! ### Rounds -/

theorem run_valueRound_ended (hs : ts <:+ src.tokens) (last : ∀ t ∈ ts.head?, t.token = .symbol .semi) :
    valueRound () src.marks (place src ts) = .value (.ended ()) (place src ts) := by
  refine Follows.current (x := done (Round.ended ()) ts) ?_ hs
  match ts, last with
  | [], _ => exact follows_pure _ []
  | t :: r, last =>
    show Follows src (ite (t.token = _) _ _) _
    rw [if_pos (last t rfl)]
    exact follows_pure _ _

section

variable {t : Located} (semi : t.token ≠ .symbol .semi)

include semi

theorem run_valueRound_group (hs : t :: r <:+ src.tokens) (opening : t.token.isOpening = true) :
    valueRound () src.marks (place src (t :: r)) = match Parse.groupEnd 0 r with
      | some r' => .value (.again ()) (place src r')
      | none => .error ⟨t.pos, .unclosedDelimiter⟩ := by
  have round : Follows src (valueRound ())
      ((Parse.skipGroup src.stop (t :: r)).map fun _ => Round.again ()) := by
    refine Follows.current ?_
    show Follows src (ite (t.token = _) _ _) _
    rw [if_neg semi, if_pos opening]
    exact (follows_skipGroup opening r).map _
  rw [round hs, value_map_eq, Parse.skipGroup_value]
  cases Parse.groupEnd 0 r <;> rfl

theorem follows_valueRound_closing (closing : t.token.isClosing = true) : Follows src (valueRound ())
    (Reply.unexpected src.stop .endOfStatement (t :: r) : Reply (Round Unit Unit) (t :: r)) := by
  refine Follows.current ?_
  show Follows src (ite (t.token = _) _ _) _
  rw [if_neg semi, if_neg (by simp [Parse.opening_of_closing closing]), if_pos closing]
  exact follows_unexpected _ _

theorem follows_valueRound_plain (opening : t.token.isOpening = false) (closing : t.token.isClosing = false) :
    Follows src (valueRound ()) ((done (Round.again ()) r).later t : Reply (Round Unit Unit) (t :: r)) := by
  refine Follows.current ?_
  show Follows src (ite (t.token = _) _ _) _
  rw [if_neg semi, if_neg (by simp [opening]), if_neg (by simp [closing])]
  exact Follows.bump (follows_pure _ r)

end

/-! ### The loop -/

theorem follows_skipValue (ts : Tokens) :
    Follows src (loop valueRound () >>= fun _ => endOfStatement) (Parse.skipValue src.stop ts) := by
  induction hn : ts.length using Nat.strongRecOn generalizing ts with | ind n ih => ?_
  intro hs
  match ts with
  | [] =>
    rw [run_bind (loop_ended (run_valueRound_ended hs (by simp))) (Nat.le_refl _), follows_endOfStatement [] hs,
      Parse.skipValue.eq_def]
    rfl
  | t :: r =>
    have inner := (List.suffix_cons t r).trans hs
    by_cases semi : t.token = .symbol .semi
    · rw [run_bind (loop_ended (run_valueRound_ended hs (by simpa using semi))) (Nat.le_refl _),
        follows_endOfStatement _ hs]
      cases t
      subst semi
      rw [Parse.skipValue, if_pos rfl]
      rfl
    · cases opening : t.token.isOpening with
      | true =>
        have round := run_valueRound_group semi hs opening
        rw [Parse.skipValue_opening opening]
        cases hg : Parse.groupEnd 0 r with
        | none =>
          rw [hg] at round
          exact run_stop (loop_error round) _
        | some r' =>
          rw [hg] at round
          have shorter : r'.length < (t :: r).length := Nat.lt_succ_of_lt (Parse.groupEnd_length 0 r r' hg)
          exact run_skip (run_again round hs shorter) (Nat.le_of_lt shorter)
            (ih r'.length (hn ▸ shorter) r' rfl ((Parse.groupEnd_suffix hg).trans inner))
      | false =>
        cases closing : t.token.isClosing with
        | true =>
          rw [Parse.skipValue, if_neg semi, if_neg (by simp [opening]), if_pos closing]
          exact run_stop (loop_error (follows_valueRound_closing semi closing hs)) _
        | false =>
          have round := follows_valueRound_plain semi opening closing hs
          rw [value_later] at round
          rw [Parse.skipValue_plain semi opening closing]
          exact run_skip (run_again round hs (Nat.lt_succ_self _)) (Nat.le_succ _)
            (ih r.length (hn ▸ Nat.lt_succ_self _) r rfl inner)

theorem follows_valueDecl (ts : Tokens) : Follows src valueDecl (Parse.valueDecl src.stop ts) := by
  by_cases group : ts.head?.map (·.token) = some (.symbol .lparen)
  · obtain ⟨p, r, rfl⟩ := exists_cons_of_head group
    exact Follows.isAt (Follows.bind (follows_skipGroup rfl r) (Parse.skipGroup_leaves src.stop _) fun _ r' _ =>
      follows_endOfStatement r')
  · rw [Parse.valueDecl_single (by simpa using group)]
    exact Follows.isAtOther group (follows_skipValue ts)

/-! ## Functions -/

theorem follows_receiver (h : Knows src type k) (short : ts.length < k) :
    Follows src (receiver type) (Parse.receiver src.stop ts) := by
  by_cases method : ts.head?.map (·.token) = some (.symbol .lparen)
  · obtain ⟨p, r, rfl⟩ := exists_cons_of_head method
    refine Follows.isAt (Follows.bind (follows_parameters h short) (Parse.parameters_leaves src.stop _)
      fun fields r' _ => ?_)
    rcases fields with - | ⟨f, - | ⟨g, fs⟩⟩
    · exact follows_fail _ r'
    · exact follows_pure _ r'
    · exact follows_fail _ r'
  · unfold Parse.receiver
    split
    · exact absurd rfl method
    · exact Follows.isAtOther method (follows_pure none _)

theorem follows_optionalGroup (opening : Symbol) (open_ : (Token.symbol opening).isOpening = true) (ts : Tokens) :
    Follows src (optionalGroup opening) (Parse.optionalGroup src.stop opening ts) := by
  by_cases group : ts.head?.map (·.token) = some (.symbol opening)
  · obtain ⟨p, r, rfl⟩ := exists_cons_of_head group
    rw [Parse.optionalGroup, if_pos rfl]
    exact Follows.isAt ((follows_skipGroup open_ r).map _)
  · unfold Parse.optionalGroup
    split
    · exact Follows.isAtOther group (follows_pure false [])
    · rw [if_neg (by simpa using group)]
      exact Follows.isAtOther group (follows_pure false _)

/-- **Functions**, with their keyword. -/
theorem follows_funcDecl (h : Knows src type k) (short : ts.length < k) {t : Located} :
    Follows src (funcDecl docAt type)
      ((Parse.funcDecl src.stop (docAt t.pos.line) t.pos.line ts).later t) := by
  refine Follows.current (Follows.bump ?_)
  refine Follows.bind (follows_receiver h short) (Parse.receiver_leaves src.stop ts) fun recv r1 h1 => ?_
  refine Follows.identifier fun name r2 h2 => ?_
  refine Follows.bind (follows_optionalGroup .lbrack rfl r2) (Parse.optionalGroup_leaves src.stop .lbrack r2)
    fun generic r3 h3 => ?_
  refine Follows.bind (follows_parameters h (by omega)) (Parse.parameters_leaves src.stop r3) fun params r4 h4 => ?_
  refine Follows.bind (follows_results h (by omega)) (Parse.results_leaves src.stop r4) fun res r5 h5 => ?_
  refine Follows.bind (follows_optionalGroup .lbrace rfl r5) (Parse.optionalGroup_leaves src.stop .lbrace r5)
    fun _ r6 h6 => ?_
  exact (follows_endOfStatement r6).map _

/-! ## Types -/

theorem follows_opensTypeParams (t : Located) (r : Tokens) :
    Follows src opensTypeParams (done (Parse.opensTypeParams r) (t :: r)) := by
  refine Follows.ahead ?_
  match r with
  | [] => exact follows_pure false _
  | ⟨u, p⟩ :: r =>
    cases u with
    | ident name =>
      refine Follows.ahead ?_
      match r with
      | [] => exact follows_pure true _
      | ⟨u, q⟩ :: r =>
        cases u with
        | symbol s => cases s <;> exact follows_pure _ _
        | _ => exact follows_pure _ _
    | _ => exact follows_pure false _

theorem follows_typeParams (ts : Tokens) : Follows src typeParams (Parse.typeParams src.stop ts) := by
  by_cases bracket : ts.head?.map (·.token) = some (.symbol .lbrack)
  · obtain ⟨p, r, rfl⟩ := exists_cons_of_head bracket
    rw [Parse.typeParams]
    refine Follows.isAt (.look (follows_opensTypeParams _ r) ?_)
    cases Parse.opensTypeParams r with
    | true => exact (follows_skipGroup rfl r).map _
    | false => exact follows_pure false _
  · unfold Parse.typeParams
    split
    · exact absurd rfl bracket
    · exact Follows.isAtOther bracket (follows_pure false _)

theorem follows_aliasMark (ts : Tokens) : Follows src (eat (.symbol .assign)) (Parse.aliasMark ts) := by
  by_cases assign : ts.head?.map (·.token) = some (.symbol .assign)
  · obtain ⟨p, r, rfl⟩ := exists_cons_of_head assign
    exact fun hs => run_eat hs
  · unfold Parse.aliasMark
    split
    · exact absurd rfl assign
    · exact fun hs => run_eat_other hs assign

theorem follows_typeSpec (h : Knows src type k) (short : ts.length < k) (doc : String) :
    Follows src (typeSpec type doc) (Parse.typeSpec src.stop doc ts) := by
  refine Follows.identifier fun name r1 h1 => ?_
  refine Follows.bind (follows_typeParams r1) (Parse.typeParams_leaves src.stop r1) fun generic r2 h2 => ?_
  refine Follows.bind (follows_aliasMark r2) (Parse.aliasMark_leaves r2) fun isAlias r3 h3 => ?_
  exact (h r3 (by omega)).map _

theorem typeSpec_moves (stop : Position) (doc : String) (ts : Tokens) :
    Ensures (fun _ r => r.length < ts.length) (Parse.typeSpec stop doc ts) := by
  refine ensures_identifier fun name p r1 _ e => Ensures.andThen (ensures_trivial _) fun generic r2 h2 _ => ?_
  refine Ensures.andThen (ensures_trivial _) fun isAlias r3 h3 _ => Ensures.map ?_
  refine (typeExpr_moves stop r3).imp fun _ r moved => ?_
  rw [e, List.length_cons]
  omega

/-- A type of a group, as a parser reads it. -/
def placedSpecOf (stop : Position) (docAt : Nat → String) (ts : Tokens) : Reply TypeSpec ts :=
  Parse.typeSpec stop (docAt (here stop ts).line) ts

theorem follows_placedSpec (h : Knows src type k) (short : ts.length < k) :
    Follows src (placedSpec docAt type) (placedSpecOf src.stop docAt ts) := by
  refine Follows.current ?_
  rw [markBefore_pos]
  exact follows_typeSpec h short _

theorem typeSpecs_lineList (stop : Position) (docAt : Nat → String) :
    LineList stop .rparen (placedSpecOf stop docAt) (Parse.typeSpecs stop docAt) where
  semi p r := by rw [Parse.typeSpecs, value_later]
  closed p r := by
    rw [Parse.typeSpecs]
    rfl
  failed semi closes hv := by
    rw [Parse.typeSpecs.eq_def]
    split
    · exact absurd rfl semi
    · exact absurd rfl closes
    · exact value_andThen_error hv _
  last semi closes hv := by
    rw [Parse.typeSpecs.eq_def]
    split
    · exact absurd rfl semi
    · exact absurd rfl closes
    · exact value_andThen hv fun _ => value_later _ _
  more semi closes hv other := by
    rw [Parse.typeSpecs.eq_def]
    split
    · exact absurd rfl semi
    · exact absurd rfl closes
    · refine value_andThen hv fun _ => ?_
      split
      · exact absurd rfl other
      · rfl

theorem follows_typeSpecs (h : Knows src type k) (short : ts.length < k) :
    Follows src (lineList (placedSpec docAt type) .rparen) (Parse.typeSpecs src.stop docAt ts) := by
  refine Follows.congr ((typeSpecs_lineList src.stop docAt).follows (fun ts short => follows_placedSpec h short)
    (fun ts => Parse.typeSpec_leaves src.stop _ ts) (fun ts => typeSpec_moves src.stop _ ts) ts short []) ?_
  rw [value_map_eq]
  cases (Parse.typeSpecs src.stop docAt ts).value <;> rfl

/-- **Types**, with their keyword. -/
theorem follows_typeDecl (h : Knows src type k) (short : ts.length < k) {t : Located} :
    Follows src (typeDecl docAt type) ((Parse.typeDecl src.stop docAt (docAt t.pos.line) ts).later t) := by
  refine Follows.current (Follows.bump ?_)
  by_cases group : ts.head?.map (·.token) = some (.symbol .lparen)
  · obtain ⟨p, r, rfl⟩ := exists_cons_of_head group
    refine Follows.eat (Follows.bind (follows_typeSpecs h (Nat.lt_of_succ_lt short)) ?_ fun specs r' _ => ?_)
    · exact (Parse.typeSpecs_places src.stop docAt r).imp fun _ _ h => h.1
    · exact (follows_endOfStatement r').map _
  · have single : Parse.typeDecl src.stop docAt (docAt t.pos.line) ts
        = (Parse.typeSpec src.stop "" ts).andThen fun spec r _ =>
          (Reply.endOfStatement src.stop r).map fun _ => ⟨docAt t.pos.line, [spec]⟩ := by
      unfold Parse.typeDecl
      split
      · exact absurd rfl group
      · rfl
    rw [single]
    refine Follows.eatOther group ?_
    exact Follows.bind (follows_typeSpec h short "") (Parse.typeSpec_leaves src.stop "" ts) fun spec r' _ =>
      (follows_endOfStatement r').map _

/-! ## Declarations -/

/-- A round that reads something behind the current token, and the rounds behind it. -/
theorem follows_round {round : σ → Cursor (Round σ β)} {s : σ} {t : Located} {x : Reply α r} {f : α → σ}
    {y : α → (r' : Tokens) → Reply γ r'} {g : γ → β}
    (first : Follows src (round s) ((x.later t).map fun a => Round.again (f a))) (leaves : Leaves x)
    (more : ∀ a r', r'.length ≤ r.length → Follows src (loop round (f a)) ((y a r').map g)) :
    Follows src (loop round s) (((x.andThen fun a r' _ => y a r').later t).map g) := by
  intro hs
  have taken := first hs
  rw [value_map_eq, value_later] at taken
  rw [value_map_eq, value_later]
  match x, leaves, taken with
  | .error e, _, taken => exact loop_error taken
  | .ok ⟨(a, r'), hr⟩, leaves, taken =>
    have rest := (leaves a r' rfl).trans (List.suffix_cons t r)
    rw [run_again taken hs (Nat.lt_succ_of_le hr), more a r' hr (rest.trans hs), value_map_eq]
    simp only [andThen, value_widen]

/-- Declarations are collected at the end. -/
theorem follows_declNext {acc : List Decl} {d : Decl}
    (h : Follows src (loop (declRound docAt type) (acc ++ [d]))
      ((Parse.declarations src.stop docAt ts).map (acc ++ [d] ++ ·))) :
    Follows src (loop (declRound docAt type) (acc ++ [d]))
      (((Parse.declarations src.stop docAt ts).map (d :: ·)).map (acc ++ ·)) := by
  refine h.congr ?_
  simp only [value_map_eq]
  cases (Parse.declarations src.stop docAt ts).value <;> simp [Except.map]

theorem follows_declarationsFrom (h : Knows src type k) (ts : Tokens) (short : ts.length < k)
    (acc : List Decl) : Follows src (loop (declRound docAt type) acc)
      ((Parse.declarations src.stop docAt ts).map (acc ++ ·)) := by
  induction hn : ts.length using Nat.strongRecOn generalizing ts acc with | ind n ih => ?_
  match ts with
  | [] =>
    intro hs
    have ended : declRound docAt type acc src.marks (place src []) = .value (.ended acc) (place src []) :=
      Follows.current (x := done (Round.ended acc) []) (follows_pure _ []) hs
    rw [loop_ended ended, Parse.declarations]
    simp [value_map_eq, Except.map, outcome]
  | ⟨t, p⟩ :: r =>
    have fewer : r.length < k := Nat.lt_of_succ_lt short
    have more : ∀ r' : Tokens, r'.length ≤ r.length → ∀ acc, Follows src (loop (declRound docAt type) acc)
        ((Parse.declarations src.stop docAt r').map (acc ++ ·)) := fun r' hr acc =>
      ih r'.length (hn ▸ Nat.lt_succ_of_le hr) r' (Nat.lt_of_le_of_lt hr fewer) acc rfl
    have failed : Follows src (declRound docAt type acc)
        (Reply.fail src.stop (.notADeclaration t) (⟨t, p⟩ :: r) : Reply (Round _ _) _) →
        Follows src (loop (declRound docAt type) acc)
          (Reply.map (acc ++ ·) (Reply.fail src.stop (.notADeclaration t) (⟨t, p⟩ :: r))) :=
      fun first hs => loop_error (first hs)
    cases t with
    | symbol s =>
      cases s with
      | semi =>
        intro hs
        have round : declRound docAt type acc src.marks (place src (⟨.symbol .semi, p⟩ :: r))
            = .value (.again acc) (place src r) :=
          Follows.current (x := (done (Round.again acc) r).later ⟨.symbol .semi, p⟩)
            (Follows.bump (follows_pure _ r)) hs
        rw [run_again round hs (Nat.lt_succ_self _), Parse.declarations, value_map_eq, value_later, ← value_map_eq]
        exact more r (Nat.le_refl _) acc ((List.suffix_cons _ r).trans hs)
      | _ =>
        rw [Parse.declarations.eq_def]
        exact failed (Follows.current (follows_fail _ _))
    | keyword w =>
      cases w with
      | importDecl | const | var =>
        rw [Parse.declarations]
        refine follows_round (f := fun _ => acc) ?_ (Parse.valueDecl_leaves src.stop r) fun _ r' hr => more r' hr acc
        refine Follows.congr (Follows.current (Follows.bump ((follows_valueDecl r).map _))) ?_
        simp only [value_map_eq, value_later]
      | func =>
        rw [Parse.declarations]
        refine follows_round (f := fun f => acc ++ [.func f]) ?_ (Parse.funcDecl_leaves src.stop _ _ r)
          fun f r' hr => follows_declNext (more r' hr _)
        exact Follows.current ((follows_funcDecl h fewer).map _)
      | type =>
        rw [Parse.declarations]
        refine follows_round (f := fun t => acc ++ [.type t]) ?_ ?_
          fun f r' hr => follows_declNext (more r' hr _)
        · exact Follows.current ((follows_typeDecl h fewer).map _)
        · exact (Parse.typeDecl_places src.stop docAt _ r).imp fun _ _ h => h.1
      | _ =>
        rw [Parse.declarations.eq_def]
        exact failed (Follows.current (follows_fail _ _))
    | _ =>
      rw [Parse.declarations.eq_def]
      exact failed (Follows.current (follows_fail _ _))

theorem follows_declarations (h : Knows src type k) (ts : Tokens) (short : ts.length < k) :
    Follows src (declarations docAt type) (Parse.declarations src.stop docAt ts) := by
  refine Follows.congr (follows_declarationsFrom h ts short []) ?_
  rw [value_map_eq]
  cases (Parse.declarations src.stop docAt ts).value <;> rfl

/-! ## Files -/

theorem value_sourceFile_pastSemis (stop : Position) (docAt : Nat → String) (ts : Tokens) :
    (Parse.sourceFile stop docAt (pastSemis ts)).value = (Parse.sourceFile stop docAt ts).value := by
  induction ts with
  | nil => rfl
  | cons t r ih =>
    by_cases semi : (t :: r).head?.map (·.token) = some (.symbol .semi)
    · obtain ⟨p, r, e⟩ := exists_cons_of_head semi
      cases e
      rw [pastSemis_semi, Parse.sourceFile, value_later, ih]
    · rw [pastSemis_other semi]

theorem sourceFile_package (stop : Position) (docAt : Nat → String)
    (other : ts.head?.map (·.token) ≠ some (.symbol .semi)) : Parse.sourceFile stop docAt ts
      = Reply.expect stop (.keyword .package) .packageKeyword ts fun r _ =>
        Reply.identifier stop .packageName r fun package r' _ =>
          (Reply.endOfStatement stop r').andThen fun _ r'' _ =>
            (Parse.declarations stop docAt r'').map fun decls => ⟨package, decls⟩ := by
  rw [Parse.sourceFile.eq_def]
  split
  · exact absurd rfl other
  · rfl

/-- From the first mark on, a whole file is read as the parser reads it. -/
theorem run_sourceFile (h : Knows src type k) (short : src.tokens.length < k) :
    sourceFile docAt type src.marks 0
      = outcome src (Parse.sourceFile src.stop docAt src.tokens).value := by
  have start : place src src.tokens = 0 := Nat.sub_self _
  have past := pastSemis_suffix src.tokens
  have fewer := past.length_le
  rw [← start, ← value_sourceFile_pastSemis, sourceFile_package src.stop docAt (pastSemis_head src.tokens)]
  unfold sourceFile
  rw [run_bind (run_skipSemis List.suffix_rfl) fewer]
  refine Follows.expect (fun r1 h1 => Follows.identifier fun package r2 h2 => ?_) past
  refine Follows.bind (follows_endOfStatement r2) (endOfStatement_leaves src.stop r2) fun _ r3 h3 => ?_
  exact (follows_declarations h r3 (by omega)).map _

/-- **A cursor reads every text without a fault.** What it gives is what parsing gives, a source file or a syntax
error, and in the end it stands within the marks. -/
theorem parseFile_faultless (text : String) :
    (∃ e, parseFile text = .error e ∧ SourceFile.parse text = .error e) ∨
      ∃ src file pos, Source.read text = .ok src ∧ pos < src.marks.length ∧
        parseFile text = .value file pos ∧ SourceFile.parse text = .ok file := by
  unfold parseFile SourceFile.parse
  cases hread : Source.read text with
  | error e => exact .inl ⟨e, rfl, rfl⟩
  | ok src =>
    have room : src.tokens.length < src.marks.length := by simp [marks_length]
    have types : Knows src (parseType src.marks.length) src.marks.length :=
      follows_parseType src.marks.length
    dsimp only
    rw [run_sourceFile types room]
    unfold SourceFile.ofSource
    match Parse.sourceFile src.stop (Comment.docText src.comments) src.tokens with
    | .error e => exact .inl ⟨e, rfl, rfl⟩
    | .ok ⟨(file, r), _⟩ => exact .inr ⟨src, file, place src r, rfl, place_lt src r, rfl, rfl⟩

end GoGlue.Cursor
