import GoGlue.Proofs.Decl.Cursor.Lists

/-!
# Types under a cursor

A type is read by a program that is given another one for the types within it. If that one follows the parser
on fewer tokens, then so does every production, one after the other, and in the end the program for types
itself, on one token more. Every nested type begins behind the token that its enclosing one begins with, so the
depth that is needed never exceeds the number of tokens.

* `typeExpr_moves`: a type consumes something.
* `follows_parameters`, `follows_structBody`: productions that hold types.
* `follows_typeForm`: the step from the types within a type to the type.
* `follows_parseType`: all types, if there is room for them.
-/
namespace GoGlue.Cursor

open Reply

variable {α β : Type} {src : Source} {self : Cursor TypeExpr} {k : Nat} {ts r : Tokens}

/-- The program reads types that have fewer than so many tokens before the end of the source. -/
def Knows (src : Source) (self : Cursor TypeExpr) (k : Nat) : Prop :=
  ∀ ts : Tokens, ts.length < k → Follows src self (Parse.typeExpr src.stop ts)

/-! ## What consumes something -/

theorem ensures_later (x : Reply α ts) (t : Located) :
    Ensures (fun _ r => r.length < (t :: ts).length) (x.later t) := by
  intro a r h
  rw [value_later] at h
  cases x with
  | error e => cases h
  | ok s =>
    obtain ⟨⟨_, left⟩, short⟩ := s
    cases h
    exact Nat.lt_succ_of_le short

/-- **A type consumes something.** -/
theorem typeExpr_moves (stop : Position) (ts : Tokens) :
    Ensures (fun _ r => r.length < ts.length) (Parse.typeExpr stop ts) := by
  rw [Parse.typeExpr.eq_def]
  split
  case h_15 => exact ensures_unexpected _
  all_goals exact ensures_later _ _

/-! ## Parameters -/

theorem follows_entry (h : Knows src self k) (short : ts.length < k) :
    Follows src (entry self) (Parse.entry src.stop ts) := by
  have whole := h ts short
  rw [Parse.entry.eq_def]
  refine Follows.current ?_
  match ts with
  | [] => exact whole.map _
  | ⟨t, p⟩ :: r =>
    cases t with
    | ident name =>
      have named : Follows src (bump >>= fun _ => self >>= fun type => pure (Parse.Entry.named name type))
          (((Parse.typeExpr src.stop r).map (Parse.Entry.named name)).later ⟨.ident name, p⟩) :=
        Follows.bump ((h r (Nat.lt_of_succ_lt short)).map _)
      refine Follows.ahead ?_
      match r with
      | [] => exact named
      | ⟨u, q⟩ :: r =>
        cases u with
        | symbol s =>
          cases s with
          | dot => exact whole.map _
          | comma | rparen => exact Follows.bump (follows_pure (Parse.Entry.bare name) _)
          | lbrack =>
            refine .look (fun hs => run_bracketsStartType rfl hs) ?_
            dsimp only [Parse.entryForm]
            cases Parse.beginsArray r with
            | true => exact named
            | false => exact whole.map _
          | _ => exact named
        | _ => exact named
    | _ => exact whole.map _

theorem entry_moves (stop : Position) (ts : Tokens) :
    Ensures (fun _ r => r.length < ts.length) (Parse.entry stop ts) := by
  rw [Parse.entry.eq_def]
  split
  · split
    · exact ensures_later _ _
    · exact ensures_later _ _
    · exact Ensures.map (typeExpr_moves stop _)
  · exact Ensures.map (typeExpr_moves stop _)

theorem entries_commaList (stop : Position) :
    CommaList stop .rparen .rparen (Parse.entry stop) (Parse.entries stop) where
  closed p r := by
    rw [Parse.entries]
    rfl
  opened other := by
    rw [Parse.entries.eq_def]
    split
    · exact absurd rfl other
    · rfl

theorem follows_parameters (h : Knows src self k) (short : ts.length < k) :
    Follows src (parameters self) (Parse.parameters src.stop ts) := by
  rw [Parse.parameters]
  refine Follows.expect fun r hr => ?_
  have list := (entries_commaList src.stop).follows (fun ts short => follows_entry h short)
    (Parse.entry_leaves src.stop) (entry_moves src.stop) r (Nat.lt_trans hr short)
  refine Follows.bind list (Parse.entries_leaves src.stop r) fun es r' _ => ?_
  cases Parse.groupParameters es with
  | some fields => exact follows_pure fields r'
  | none => exact follows_fail _ r'

theorem follows_results (h : Knows src self k) (short : ts.length < k) :
    Follows src (results self) (Parse.results src.stop ts) := by
  by_cases list : ts.head?.map (·.token) = some (.symbol .lparen)
  · obtain ⟨p, r, rfl⟩ := exists_cons_of_head list
    rw [Parse.results, if_pos rfl]
    exact Follows.isAt (follows_parameters h short)
  · refine Follows.isAtOther list (Follows.current ?_)
    rw [Parse.results.eq_def]
    cases ts with
    | nil => exact follows_pure [] []
    | cons t r =>
      show Follows src (ite (Parse.startsType t.token = true) _ _) (ite _ _ (ite _ _ _))
      rw [if_neg (c := t.token = _) (by simpa using list)]
      split
      · exact (h (t :: r) short).map _
      · exact follows_pure [] (t :: r)

/-! ## Arguments -/

theorem typeArgs_commaList (stop : Position) :
    CommaList stop .rbrack .rbrack (Parse.typeExpr stop) (Parse.typeArgs stop) where
  closed p r := by
    rw [Parse.typeArgs]
    rfl
  opened other := by
    rw [Parse.typeArgs.eq_def]
    split
    · exact absurd rfl other
    · rfl

theorem follows_typeArgs (h : Knows src self k) (p : Position) (short : r.length < k) :
    Follows src (typeArgs self) ((Parse.typeArgs src.stop r).later ⟨.symbol .lbrack, p⟩) :=
  Follows.take ((typeArgs_commaList src.stop).follows h (Parse.typeExpr_leaves src.stop)
    (typeExpr_moves src.stop) r short)

theorem follows_instantiated (h : Knows src self k) (short : ts.length < k) (base : TypeExpr) :
    Follows src (instantiated self base) (Parse.instantiated src.stop base ts) := by
  by_cases args : ts.head?.map (·.token) = some (.symbol .lbrack)
  · obtain ⟨p, r, rfl⟩ := exists_cons_of_head args
    have generic := (follows_typeArgs h p (Nat.lt_of_succ_lt short)).map (TypeExpr.generic base)
    rw [Parse.instantiated]
    refine Follows.isAt (generic.congr ?_)
    simp only [value_map_eq, value_later]
  · rw [Parse.instantiated.eq_def]
    split
    · exact absurd rfl args
    · exact Follows.isAtOther args (follows_pure base _)

/-! ## Fields -/

theorem follows_fieldTag (ts : Tokens) : Follows src fieldTag (Parse.fieldTag ts) := by
  refine Follows.current ?_
  match ts with
  | [] => exact follows_pure none []
  | ⟨t, p⟩ :: r =>
    cases t with
    | string tag => exact Follows.bump (follows_pure (some tag) r)
    | _ => exact follows_pure none _

theorem follows_namedField (h : Knows src self k) (short : ts.length < k) :
    Follows src (namedField self) ((Parse.fieldNames src.stop ts).andThen fun names r _ =>
      (Parse.typeExpr src.stop r).map fun type => .mk names type none) :=
  Follows.bind (follows_fieldNames ts) (Parse.fieldNames_leaves src.stop ts) fun _ r hr =>
    (h r (Nat.lt_of_le_of_lt hr short)).map _

theorem follows_structField (h : Knows src self k) (short : ts.length < k) :
    Follows src (structField self) (Parse.structField src.stop ts) := by
  have whole := h ts short
  have named := follows_namedField h short
  rw [Parse.structField.eq_def]
  refine Follows.current ?_
  match ts with
  | [] => exact follows_unexpected _ []
  | ⟨t, p⟩ :: r =>
    cases t with
    | symbol s =>
      cases s with
      | star => exact whole.map _
      | _ => exact follows_unexpected _ _
    | ident name =>
      refine Follows.ahead ?_
      match r with
      | [] => exact named
      | ⟨u, q⟩ :: r =>
        cases u with
        | string => exact whole.map _
        | symbol s =>
          cases s with
          | dot | semi | rbrace => exact whole.map _
          | lbrack =>
            refine .look (fun hs => run_bracketsStartType rfl hs) ?_
            dsimp only
            by_cases array : Parse.beginsArray r = true
            · rw [if_pos array, if_neg (by simp [Parse.isEmbedded, array])]
              exact named
            · rw [if_neg array, if_pos (by simp [Parse.isEmbedded, array])]
              exact whole.map _
          | _ => exact named
        | _ => exact named
    | _ => exact follows_unexpected _ _

/-- A field with its tag, as a parser reads it. -/
def fieldOf (stop : Position) (ts : Tokens) : Reply Field ts :=
  (Parse.structField stop ts).andThen fun f r _ => (Parse.fieldTag r).map f.withTag

theorem follows_taggedField (h : Knows src self k) (short : ts.length < k) :
    Follows src (taggedField self) (fieldOf src.stop ts) :=
  Follows.bind (follows_structField h short) (Parse.structField_leaves src.stop ts) fun _ r _ =>
    (follows_fieldTag r).map _

theorem fieldOf_leaves (stop : Position) (ts : Tokens) : Leaves (fieldOf stop ts) :=
  (Parse.structField_leaves stop ts).andThen fun _ r _ => (Parse.fieldTag_leaves r).map _

theorem structField_moves (stop : Position) (ts : Tokens) :
    Ensures (fun _ r => r.length < ts.length) (Parse.structField stop ts) := by
  rw [Parse.structField.eq_def]
  split
  · exact Ensures.map (typeExpr_moves stop _)
  · split
    · exact Ensures.map (typeExpr_moves stop _)
    · exact Ensures.andThen (ensures_trivial _) fun _ r hr _ => Ensures.map
        ((typeExpr_moves stop r).imp fun _ _ moved => Nat.lt_of_lt_of_le moved hr)
  · exact ensures_unexpected _

theorem fieldOf_moves (stop : Position) (ts : Tokens) :
    Ensures (fun _ r => r.length < ts.length) (fieldOf stop ts) :=
  Ensures.andThen (structField_moves stop ts) fun _ r _ moved => Ensures.map
    ((Parse.fieldTag_leaves r).imp fun _ _ rest => Nat.lt_of_le_of_lt rest.length_le moved)

theorem fieldOf_ok {stop : Position} {a : Field} (h : (fieldOf stop ts).value = .ok (a, r)) :
    ∃ f u tag, (Parse.structField stop ts).value = .ok (f, u) ∧ (Parse.fieldTag u).value = .ok (tag, r) ∧
      a = f.withTag tag := by
  unfold fieldOf at h
  match hf : Parse.structField stop ts with
  | .error e =>
    rw [hf] at h
    cases h
  | .ok ⟨(f, u), hu⟩ =>
    rw [hf] at h
    simp only [andThen, value_widen, value_map_eq] at h
    cases ht : (Parse.fieldTag u).value with
    | error e =>
      rw [ht] at h
      cases h
    | ok q =>
      rw [ht] at h
      cases h
      exact ⟨f, u, q.1, rfl, ht, rfl⟩

/-- A tag is never wrong. -/
theorem fieldOf_error {stop : Position} {e : SyntaxError} (h : (fieldOf stop ts).value = .error e) :
    (Parse.structField stop ts).value = .error e := by
  unfold fieldOf at h
  match hf : Parse.structField stop ts with
  | .error e' =>
    rw [hf] at h
    cases h
    rfl
  | .ok ⟨(f, u), hu⟩ =>
    rw [hf] at h
    simp only [andThen, value_widen, value_map_eq] at h
    unfold Parse.fieldTag at h
    split at h <;> cases h

theorem structFields_lineList (stop : Position) :
    LineList stop .rbrace (fieldOf stop) (Parse.structFields stop) where
  semi p r := by rw [Parse.structFields, value_later]
  closed p r := by
    rw [Parse.structFields]
    rfl
  failed semi closes hv := by
    rw [Parse.structFields.eq_def]
    split
    · exact absurd rfl semi
    · exact absurd rfl closes
    · exact value_andThen_error (fieldOf_error hv) _
  last semi closes hv := by
    obtain ⟨f, u, tag, field, tagged, rfl⟩ := fieldOf_ok hv
    rw [Parse.structFields.eq_def]
    split
    · exact absurd rfl semi
    · exact absurd rfl closes
    · exact value_andThen field fun _ => value_andThen tagged fun _ => value_later _ _
  more semi closes hv other := by
    obtain ⟨f, u, tag, field, tagged, rfl⟩ := fieldOf_ok hv
    rw [Parse.structFields.eq_def]
    split
    · exact absurd rfl semi
    · exact absurd rfl closes
    · refine value_andThen field fun _ => value_andThen tagged fun _ => ?_
      split
      · exact absurd rfl other
      · rfl

theorem follows_structBody (h : Knows src self k) (short : ts.length < k) :
    Follows src (structBody self)
      (Reply.expect src.stop (.symbol .lbrace) .lbrace ts fun r _ => Parse.structFields src.stop r) := by
  refine Follows.expect fun r hr => ?_
  refine Follows.congr ((structFields_lineList src.stop).follows (fun ts short => follows_taggedField h short)
    (fieldOf_leaves src.stop) (fieldOf_moves src.stop) r (Nat.lt_trans hr short) []) ?_
  rw [value_map_eq]
  cases (Parse.structFields src.stop r).value <;> rfl

/-! ## Types -/

/-- **From the types within a type to the type**, which may have one token more. -/
theorem follows_typeForm (h : Knows src self k) (short : ts.length < k + 1) :
    Follows src (typeForm self) (Parse.typeExpr src.stop ts) := by
  refine Follows.current ?_
  match ts with
  | [] =>
    rw [Parse.typeExpr.eq_def]
    exact follows_unexpected _ []
  | ⟨t, p⟩ :: r =>
    have fewer : r.length < k := Nat.lt_of_succ_lt_succ short
    have inner := h r fewer
    cases t with
    | ident name =>
      by_cases selected : r.head?.map (·.token) = some (.symbol .dot)
      · obtain ⟨q, r, rfl⟩ := exists_cons_of_head selected
        rw [Parse.typeExpr]
        exact Follows.bump (Follows.eat (Follows.identifier fun _ r' hr =>
          follows_instantiated h (Nat.lt_trans hr (Nat.lt_of_succ_lt fewer)) _))
      · rw [Parse.typeExpr]
        · exact Follows.bump (Follows.eatOther selected (follows_instantiated h fewer _))
        · rintro q r rfl
          exact selected rfl
    | symbol s =>
      cases s with
      | star =>
        rw [Parse.typeExpr]
        exact Follows.bump (inner.map _)
      | lbrack =>
        by_cases slice : r.head?.map (·.token) = some (.symbol .rbrack)
        · obtain ⟨q, r, rfl⟩ := exists_cons_of_head slice
          rw [Parse.typeExpr]
          exact Follows.bump (Follows.eat ((h r (Nat.lt_of_succ_lt fewer)).map _))
        · rw [Parse.typeExpr]
          · refine Follows.bump (Follows.eatOther slice ?_)
            refine Follows.bind (follows_arrayLength r) (Parse.arrayLength_leaves src.stop r) fun len r' hr => ?_
            exact (h r' (Nat.lt_of_le_of_lt hr fewer)).map _
          · rintro q r rfl
            exact slice rfl
      | arrow =>
        rw [Parse.typeExpr]
        exact Follows.bump (Follows.expect fun r' hr => (h r' (Nat.lt_trans hr fewer)).map _)
      | ellipsis =>
        rw [Parse.typeExpr]
        exact Follows.bump (inner.map _)
      | lparen =>
        rw [Parse.typeExpr]
        refine Follows.bump (Follows.bind inner (Parse.typeExpr_leaves src.stop r) fun t r' _ => ?_)
        exact Follows.expect fun r'' _ => follows_pure t r''
      | _ =>
        rw [Parse.typeExpr.eq_def]
        exact follows_unexpected _ _
    | keyword w =>
      cases w with
      | map =>
        rw [Parse.typeExpr]
        refine Follows.bump (Follows.expect fun r1 h1 => ?_)
        refine Follows.bind (h r1 (Nat.lt_trans h1 fewer)) (Parse.typeExpr_leaves src.stop r1) fun key r2 h2 => ?_
        exact Follows.expect fun r3 h3 => (h r3 (by omega)).map _
      | chan =>
        by_cases send : r.head?.map (·.token) = some (.symbol .arrow)
        · obtain ⟨q, r, rfl⟩ := exists_cons_of_head send
          rw [Parse.typeExpr]
          exact Follows.bump (Follows.eat ((h r (Nat.lt_of_succ_lt fewer)).map _))
        · rw [Parse.typeExpr]
          · exact Follows.bump (Follows.eatOther send (inner.map _))
          · rintro q r rfl
            exact send rfl
      | func =>
        rw [Parse.typeExpr]
        refine Follows.bump (Follows.bind (follows_parameters h fewer) (Parse.parameters_leaves src.stop r)
          fun params r' hr => ?_)
        exact (follows_results h (Nat.lt_of_le_of_lt hr fewer)).map _
      | interface =>
        rw [Parse.typeExpr]
        refine Follows.bump (Follows.congr ((follows_interfaceBody r).map _) ?_)
        rw [value_map_eq, value_expect_map]
      | struct =>
        rw [Parse.typeExpr]
        refine Follows.bump (Follows.congr ((follows_structBody h fewer).map _) ?_)
        rw [value_map_eq, value_expect_map]
      | _ =>
        rw [Parse.typeExpr.eq_def]
        exact follows_unexpected _ _
    | _ =>
      rw [Parse.typeExpr.eq_def]
      exact follows_unexpected _ _

/-- **Types** are followed as deep as there are tokens, and consume something. -/
theorem follows_parseType (depth : Nat) (ts : Tokens) (short : ts.length < depth) :
    Follows src (parseType depth) (Parse.typeExpr src.stop ts) := by
  induction depth generalizing ts with
  | zero => exact absurd short (Nat.not_lt_zero _)
  | succ depth ih =>
    intro hs
    have form := follows_typeForm ih short hs
    show moving (typeForm (parseType depth)) _ _ = _
    rw [moving, form]
    cases hv : (Parse.typeExpr src.stop ts).value with
    | error e => rfl
    | ok q => exact if_pos (place_strict hs (typeExpr_moves src.stop ts q.1 q.2 hv))

end GoGlue.Cursor
