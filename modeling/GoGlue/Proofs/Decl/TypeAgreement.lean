import GoGlue.Proofs.Decl.Agreement

/-!
# Types agree on streams that differ in skipped code

The readers of types, of lists of them and of struct fields call each other, always on shorter streams.
So they agree together, by induction on the length of the first stream: `Below` is what the induction
carries, and every reader has one lemma that takes it one step further.

* `typeExpr_agree`, `typeArgs_agree`, `entries_agree`, `structFields_agree`: one step of each reader.
* `below`: all of them agree.
-/
namespace GoGlue.Parse

open Reply

variable {m m' : Skippable} {ts ts' : Tokens} {stop stop' : Position}

/-! ## Types -/

theorem fails_typeExpr
    (h : ∀ t ∈ ts.head?, startsType t.token = false ∧ t.token ≠ .symbol .ellipsis) :
    Fails (typeExpr stop ts) := by
  unfold typeExpr
  split
  case h_13 => exact absurd rfl (h _ rfl).2
  case h_15 => exact fails_unexpected _
  all_goals exact absurd (h _ rfl).1 (by simp [startsType])

theorem typeExpr_name {name : String} {p : Position} {r : Tokens}
    (h : ∀ t ∈ r.head?, ¬ t.token = .symbol .dot) :
    (typeExpr stop (⟨.ident name, p⟩ :: r)).value = (instantiated stop (.ident name) r).value := by
  rw [typeExpr, value_later]
  rintro q r' rfl
  exact h _ rfl rfl

theorem typeExpr_length {p : Position} {r : Tokens} (h : ∀ t ∈ r.head?, ¬ t.token = .symbol .rbrack) :
    (typeExpr stop (⟨.symbol .lbrack, p⟩ :: r)).value = ((arrayLength stop r).andThen fun len r' _ =>
      (typeExpr stop r').map (.array len)).value := by
  rw [typeExpr, value_later]
  rintro q r' rfl
  exact h _ rfl rfl

theorem typeExpr_both {p : Position} {r : Tokens} (h : ∀ t ∈ r.head?, ¬ t.token = .symbol .arrow) :
    (typeExpr stop (⟨.keyword .chan, p⟩ :: r)).value = ((typeExpr stop r).map (.chan .both)).value := by
  rw [typeExpr, value_later]
  rintro q r' rfl
  exact h _ rfl rfl

theorem instantiated_bare {base : TypeExpr} (h : ∀ t ∈ ts.head?, ¬ t.token = .symbol .lbrack) :
    (instantiated stop base ts).value = .ok (base, ts) := by
  unfold instantiated
  split
  · exact absurd rfl (h _ rfl)
  · rfl

/-- The readers of types agree on streams shorter than `n`. -/
structure Below (stop stop' : Position) (n : Nat) : Prop where
  typeExpr : ∀ {ts ts'}, ts.length < n → KeptAlike .bodies ts ts' →
    Agree Eq .bodies (typeExpr stop ts).value (typeExpr stop' ts').value
  typeArgs : ∀ {ts ts'}, ts.length < n → KeptAlike .bodies ts ts' →
    Agree Eq .bodies (typeArgs stop ts).value (typeArgs stop' ts').value
  entries : ∀ {ts ts'}, ts.length < n → KeptAlike .bodies ts ts' →
    Agree Eq .bodies (entries stop ts).value (entries stop' ts').value
  structFields : ∀ {ts ts'}, ts.length < n → KeptAlike .declarations ts ts' →
    Agree Eq .bodies (structFields stop ts).value (structFields stop' ts').value

variable {n : Nat}

theorem instantiated_agree (b : Below stop stop' n) (hn : ts.length ≤ n) (h : KeptAlike .bodies ts ts')
    (base : TypeExpr) :
    Agree Eq .bodies (instantiated stop base ts).value (instantiated stop' base ts').value := by
  rcases h.head_cases (by decide) (P := (· = .symbol .lbrack)) (by simp) (.inr (by simp)) with
    ⟨_, p, p', r, r', rfl, rfl, rfl, hk⟩ | ⟨hts, hts'⟩
  · rw [instantiated, instantiated, value_later, value_later]
    exact (b.typeArgs hn hk).map fun _ _ e => congrArg _ e
  · rw [instantiated_bare hts, instantiated_bare hts']
    exact .done rfl h

theorem parameters_agree (b : Below stop stop' n) (hn : ts.length ≤ n) (h : KeptAlike .bodies ts ts') :
    Agree Eq .bodies (parameters stop ts).value (parameters stop' ts').value := by
  rw [parameters, parameters]
  refine expect_agree h (by decide) (by decide) (by decide) fun r r' hr hr' h => ?_
  refine (b.entries (by omega) h).andThen fun es es' s s' hs hs' e h => ?_
  subst e
  cases groupParameters es with
  | none => exact .fail _ _
  | some fields => exact .done rfl h

theorem results_agree (b : Below stop stop' n) (hn : ts.length < n) (h : KeptAlike .bodies ts ts') :
    Agree Eq .bodies (results stop ts).value (results stop' ts').value := by
  have none : ∀ {us : Tokens} {halt : Position}, Ended us → (results halt us).value = .ok ([], us) :=
    fun hu => results_none fun t ht => by simp [hu.head t ht, startsType]
  have decided : ∀ {halt : Position} (t : Located) (r : Tokens), (results halt (t :: r)).value
      = if t.token = .symbol .lparen then (parameters halt (t :: r)).value
        else if startsType t.token then ((typeExpr halt (t :: r)).map fun type => [.unnamed type]).value
        else .ok ([], t :: r) := by
    intro halt t r
    rw [results]
    split
    · rfl
    · split <;> rfl
  cases h with
  | ended h h' =>
    rw [none h, none h']
    exact .done rfl (.ended h h')
  | @keep _ t p p' r r' h =>
    rw [decided, decided]
    dsimp only
    split
    · exact parameters_agree b (Nat.le_of_lt hn) (.keep h)
    · split
      · exact (b.typeExpr hn (.keep h)).map fun _ _ e => by rw [e]
      · exact .done rfl (.keep h)
  | body hm hc hw hw' h =>
    rw [results_none (ends_cons ⟨rfl, by decide⟩ _ _), results_none (ends_cons ⟨rfl, by decide⟩ _ _)]
    exact .done rfl (.body hm hc hw hw' h)

/-- **Types agree.** -/
theorem typeExpr_agree (b : Below stop stop' n) (hn : ts.length ≤ n) (h : KeptAlike .bodies ts ts') :
    Agree Eq .bodies (typeExpr stop ts).value (typeExpr stop' ts').value := by
  cases h with
  | ended h h' =>
    exact .fails (fails_typeExpr fun t ht => by simp [h.head t ht, startsType])
      (fails_typeExpr fun t ht => by simp [h'.head t ht, startsType])
  | body => exact .fails (fails_typeExpr (by simp [startsType])) (fails_typeExpr (by simp [startsType]))
  | @keep _ t p p' r r' h =>
    have shorter : r.length < n := hn
    -- a name, an opening bracket and `chan` leave a choice, which the next token makes
    cases t with
    | ident name =>
      have h : KeptAlike .bodies r r' := h
      rcases h.head_cases (by decide) (P := (· = .symbol .dot)) (by simp) (.inr (by simp)) with
        ⟨_, q, q', s, s', rfl, rfl, rfl, hk⟩ | ⟨hr, hr'⟩
      · rw [typeExpr, typeExpr, value_later, value_later, value_later, value_later]
        refine identifier_agree (hk : KeptAlike .bodies s s') (by decide) fun sel u u' hu hu' hk => ?_
        exact instantiated_agree b (by simp at hn; omega) hk _
      · rw [typeExpr_name hr, typeExpr_name hr']
        exact instantiated_agree b (by omega) h _
    | symbol s =>
      cases s with
      | star =>
        rw [typeExpr, typeExpr, value_later, value_later]
        exact (b.typeExpr shorter h).map fun _ _ e => congrArg _ e
      | lbrack =>
        have h : KeptAlike .bodies r r' := h
        rcases h.head_cases (by decide) (P := (· = .symbol .rbrack)) (by simp) (.inr (by simp)) with
          ⟨_, q, q', s, s', rfl, rfl, rfl, hk⟩ | ⟨hr, hr'⟩
        · rw [typeExpr, typeExpr, value_later, value_later, value_later, value_later]
          exact (b.typeExpr (by simp at hn; omega) hk).map fun _ _ e => congrArg _ e
        · rw [typeExpr_length hr, typeExpr_length hr']
          refine (arrayLength_agree h).andThen fun len len' s s' hs hs' e hk => ?_
          exact (b.typeExpr (by omega) hk).map fun _ _ e' => by rw [e, e']
      | arrow =>
        rw [typeExpr, typeExpr, value_later, value_later]
        refine expect_agree (h : KeptAlike .bodies r r') (by decide) (by decide) (by decide)
          fun s s' hs hs' hk => ?_
        exact (b.typeExpr (by omega) hk).map fun _ _ e => congrArg _ e
      | ellipsis =>
        rw [typeExpr, typeExpr, value_later, value_later]
        exact (b.typeExpr shorter h).map fun _ _ e => congrArg _ e
      | lparen =>
        rw [typeExpr, typeExpr, value_later, value_later]
        refine (b.typeExpr shorter h).andThen fun a a' s s' hs hs' e hk => ?_
        exact expect_agree hk (by decide) (by decide) (by decide) fun u u' _ _ hu => .done e hu
      | _ => exact .fails (fails_typeExpr (by simp [startsType])) (fails_typeExpr (by simp [startsType]))
    | keyword k =>
      cases k with
      | map =>
        rw [typeExpr, typeExpr, value_later, value_later]
        refine expect_agree (h : KeptAlike .bodies r r') (by decide) (by decide) (by decide)
          fun s s' hs hs' hk => ?_
        refine (b.typeExpr (by omega) hk).andThen fun key key' u u' hu hu' e hk => ?_
        refine expect_agree hk (by decide) (by decide) (by decide) fun v v' hv hv' hk => ?_
        exact (b.typeExpr (by omega) hk).map fun _ _ e' => by rw [e, e']
      | chan =>
        have h : KeptAlike .bodies r r' := h
        rcases h.head_cases (by decide) (P := (· = .symbol .arrow)) (by simp) (.inr (by simp)) with
          ⟨_, q, q', s, s', rfl, rfl, rfl, hk⟩ | ⟨hr, hr'⟩
        · rw [typeExpr, typeExpr, value_later, value_later, value_later, value_later]
          exact (b.typeExpr (by simp at hn; omega) hk).map fun _ _ e => congrArg _ e
        · rw [typeExpr_both hr, typeExpr_both hr']
          exact (b.typeExpr shorter h).map fun _ _ e => congrArg _ e
      | func =>
        rw [typeExpr, typeExpr, value_later, value_later]
        refine (parameters_agree b (Nat.le_of_lt shorter) h).andThen fun ps ps' s s' hs hs' e hk => ?_
        exact (results_agree b (by omega) hk).map fun _ _ e' => by rw [e, e']
      | interface =>
        rw [typeExpr, typeExpr, value_later, value_later]
        refine expect_agree (h : KeptAlike .nothing r r') (by decide) (by decide) (fun _ => rfl)
          fun s s' hs hs' hk => ?_
        exact (interfaceBody_agree hk).map fun _ _ e => congrArg _ e
      | struct =>
        rw [typeExpr, typeExpr, value_later, value_later]
        refine expect_agree (h : KeptAlike .nothing r r') (by decide) (by decide) (fun _ => rfl)
          fun s s' hs hs' hk => ?_
        exact (b.structFields (by omega) (KeptAlike.weaken hk)).map fun _ _ e => congrArg _ e
      | _ => exact .fails (fails_typeExpr (by simp [startsType])) (fails_typeExpr (by simp [startsType]))
    | _ => exact .fails (fails_typeExpr (by simp [startsType])) (fails_typeExpr (by simp [startsType]))

/-! ## Lists in brackets -/

theorem typeArgs_other (h : ∀ t ∈ ts.head?, ¬ t.token = .symbol .rbrack) :
    (typeArgs stop ts).value = ((typeExpr stop ts).andThen fun t r _ =>
      moreItems stop .rbrack .rbrack (typeArgs stop) t r).value := by
  rw [typeArgs.eq_def]
  split
  · exact absurd rfl (h _ rfl)
  · congr 2
    funext t r _
    rcases r with - | ⟨⟨u, p⟩, r⟩
    · rfl
    · cases u with
      | symbol s => cases s <;> rfl
      | _ => rfl

theorem entries_other (h : ∀ t ∈ ts.head?, ¬ t.token = .symbol .rparen) :
    (entries stop ts).value = ((entry stop ts).andThen fun e r _ =>
      moreItems stop .rparen .rparen (entries stop) e r).value := by
  rw [entries.eq_def]
  split
  · exact absurd rfl (h _ rfl)
  · congr 2
    funext e r _
    rcases r with - | ⟨⟨u, p⟩, r⟩
    · rfl
    · cases u with
      | symbol s => cases s <;> rfl
      | _ => rfl

theorem entry_other (h : ∀ t ∈ ts.head?, ¬ ∃ name, t.token = .ident name) :
    entry stop ts = (typeExpr stop ts).map .type := by
  rw [entry.eq_def]
  split
  · exact absurd ⟨_, rfl⟩ (h _ rfl)
  · rfl

theorem typeArgs_agree (b : Below stop stop' n) (hn : ts.length ≤ n) (h : KeptAlike .bodies ts ts') :
    Agree Eq .bodies (typeArgs stop ts).value (typeArgs stop' ts').value := by
  rcases h.head_cases (by decide) (P := (· = .symbol .rbrack)) (by simp) (.inr (by simp)) with
    ⟨_, p, p', r, r', rfl, rfl, rfl, hk⟩ | ⟨hts, hts'⟩
  · rw [typeArgs, typeArgs]
    exact .done rfl hk
  · rw [typeArgs_other hts, typeArgs_other hts']
    refine (typeExpr_agree b hn h).andThen fun t t' s s' hs hs' e hk => ?_
    subst e
    exact moreItems_agree t (by decide) (by decide) hk fun _ _ hu hk => b.typeArgs (by omega) hk

theorem entry_agree (b : Below stop stop' n) (hn : ts.length ≤ n) (h : KeptAlike .bodies ts ts') :
    Agree Eq .bodies (entry stop ts).value (entry stop' ts').value := by
  rcases h.head_cases (by decide) (P := fun t => ∃ name, t = .ident name) (by simp) (.inr (by simp)) with
    ⟨_, p, p', r, r', ⟨name, rfl⟩, rfl, rfl, hk⟩ | ⟨hts, hts'⟩
  · rw [entry, entry, entryForm_alike hk]
    cases entryForm r' with
    | bare => exact .done rfl hk
    | named =>
      show Agree Eq .bodies (((typeExpr stop r).map _).later _).value
        (((typeExpr stop' r').map _).later _).value
      rw [value_later, value_later]
      exact (b.typeExpr hn hk).map fun _ _ e => congrArg _ e
    | type => exact (typeExpr_agree b hn h).map fun _ _ e => congrArg _ e
  · rw [entry_other hts, entry_other hts']
    exact (typeExpr_agree b hn h).map fun _ _ e => congrArg _ e

theorem entries_agree (b : Below stop stop' n) (hn : ts.length ≤ n) (h : KeptAlike .bodies ts ts') :
    Agree Eq .bodies (entries stop ts).value (entries stop' ts').value := by
  rcases h.head_cases (by decide) (P := (· = .symbol .rparen)) (by simp) (.inr (by simp)) with
    ⟨_, p, p', r, r', rfl, rfl, rfl, hk⟩ | ⟨hts, hts'⟩
  · rw [entries, entries]
    exact .done rfl hk
  · rw [entries_other hts, entries_other hts']
    refine (entry_agree b hn h).andThen fun t t' s s' hs hs' e hk => ?_
    subst e
    exact moreItems_agree t (by decide) (by decide) hk fun _ _ hu hk => b.entries (by omega) hk

/-! ## Struct fields -/

theorem fails_structField
    (h : ∀ t ∈ ts.head?, t.token ≠ .symbol .star ∧ ¬ ∃ name, t.token = .ident name) :
    Fails (structField stop ts) := by
  unfold structField
  split
  · exact absurd rfl (h _ rfl).1
  · exact absurd ⟨_, rfl⟩ (h _ rfl).2
  · exact fails_unexpected _

/-- What follows a field: its tag, and more fields. -/
def fieldEnd (stop : Position) (f : Field) (ts : Tokens) : Reply (List Field) ts :=
  (fieldTag ts).andThen fun tag r _ =>
    moreLines stop .rbrace (structFields stop) (f.withTag tag) r

theorem structFields_other (h : ∀ t ∈ ts.head?, t.token ≠ .symbol .semi ∧ t.token ≠ .symbol .rbrace) :
    (structFields stop ts).value
      = ((structField stop ts).andThen fun f r _ => fieldEnd stop f r).value := by
  rw [structFields.eq_def]
  split
  · exact absurd rfl (h _ rfl).1
  · exact absurd rfl (h _ rfl).2
  · congr 2
    funext f r _
    unfold fieldEnd
    congr 1
    funext tag r' _
    rcases r' with - | ⟨⟨t, p⟩, r'⟩
    · rfl
    · cases t with
      | symbol s => cases s <;> rfl
      | _ => rfl

theorem fails_structFields (h : ∀ t ∈ ts.head?, (t.token ≠ .symbol .semi ∧ t.token ≠ .symbol .rbrace) ∧
      t.token ≠ .symbol .star ∧ ¬ ∃ name, t.token = .ident name) : Fails (structFields stop ts) := by
  rw [Fails, structFields_other fun t ht => (h t ht).1]
  exact (fails_structField fun t ht => (h t ht).2).andThen _

theorem structFields_rejects : Rejects (structFields stop) where
  nil := fails_structFields (by simp)
  brace p r := fails_structFields (by simp)
  semi p r := by rw [structFields, value_later]
  keyword k p r _ := fails_structFields (by simp)

theorem fieldEnd_agree (b : Below stop stop' n) (hn : ts.length ≤ n) (h : KeptAlike .bodies ts ts')
    (f : Field) : Agree Eq .bodies (fieldEnd stop f ts).value (fieldEnd stop' f ts').value := by
  refine (fieldTag_agree h).andThen fun tag tag' s s' hs hs' e hk => ?_
  subst e
  refine moreLines_agree structFields_rejects structFields_rejects (by decide) (by decide) hk rfl ?_
  intro r r' hr hk
  exact (b.structFields (by omega) hk).weaken fun _ _ e => congrArg _ e

/-- A name is no list of fields when nothing is kept behind it: at the end of the stream a type is missing,
and before a semicolon it is an embedded field without an end of the list. -/
theorem fails_fieldName {name : String} {p : Position} (h : Ended ts) :
    Fails ((structField stop (⟨.ident name, p⟩ :: ts)).andThen fun f r _ => fieldEnd stop f r) := by
  cases h with
  | nil =>
    refine Fails.andThen ?_ _
    rw [structField, if_neg (by decide)]
    obtain ⟨e, he⟩ : Fails ((typeExpr stop []).map fun type => Field.mk [name] type none) :=
      (fails_typeExpr (by simp)).map _
    exact ⟨e, value_andThen (fieldNames_last (by simp)) fun _ => he⟩
  | @semi g hg q pos =>
    have embedded : (structField stop (⟨.ident name, p⟩ :: ⟨.symbol .semi, q⟩ :: place pos g)).value
        = .ok (.unnamed (.ident name), ⟨.symbol .semi, q⟩ :: place pos g) := by
      refine structField_embedded rfl ?_
      rw [typeExpr_name (by simp), instantiated_bare (by simp)]
    have untagged : (fieldTag (⟨.symbol .semi, q⟩ :: place pos g)).value = .ok (none, _) :=
      fieldTag_none (by simp)
    obtain ⟨e, he⟩ : Fails (moreLines stop .rbrace (structFields stop)
        ((Field.unnamed (.ident name)).withTag none) _) :=
      structFields_rejects.moreLines (by decide) (.semi hg q pos)
    exact ⟨e, value_andThen embedded fun _ => value_andThen untagged fun _ => he⟩

theorem structField_agree (b : Below stop stop' n) (hn : ts.length ≤ n) (h : KeptAlike .bodies ts ts') :
    Agree Eq .bodies ((structField stop ts).andThen fun f r _ => fieldEnd stop f r).value
      ((structField stop' ts').andThen fun f r _ => fieldEnd stop' f r).value := by
  have tail : ∀ {x : Reply Field ts} {y : Reply Field ts'}, Agree Eq .bodies x.value y.value →
      Agree Eq .bodies (x.andThen fun f r _ => fieldEnd stop f r).value
        (y.andThen fun f r _ => fieldEnd stop' f r).value := by
    intro x y hxy
    refine hxy.andThen fun f f' s s' hs hs' e hk => ?_
    subst e
    exact fieldEnd_agree b (Nat.le_trans hs hn) hk f
  rcases h.head_cases (by decide) (P := (· = .symbol .star)) (by simp) (.inr (by simp)) with
    ⟨_, p, p', r, r', rfl, rfl, rfl, hk⟩ | ⟨hts, hts'⟩
  · refine tail ?_
    rw [structField, structField]
    exact (typeExpr_agree b hn h).map fun _ _ e => congrArg _ e
  rcases h.head_cases (by decide) (P := fun t => ∃ name, t = .ident name) (by simp) (.inr (by simp)) with
    ⟨_, p, p', r, r', ⟨name, rfl⟩, rfl, rfl, hk⟩ | ⟨hname, hname'⟩
  · rcases isEmbedded_alike hk with ⟨he, he'⟩ | same
    · exact .fails (fails_fieldName he) (fails_fieldName he')
    · refine tail ?_
      rw [structField, structField, same]
      split
      · exact (typeExpr_agree b hn h).map fun _ _ e => congrArg _ e
      · refine (fieldNames_agree h).andThen fun names names' s s' hs hs' e hk => ?_
        subst e
        exact (typeExpr_agree b (Nat.le_trans hs hn) hk).map fun _ _ e => by rw [e]
  · exact tail (.fails (fails_structField fun t ht => ⟨hts t ht, hname t ht⟩)
      (fails_structField fun t ht => ⟨hts' t ht, hname' t ht⟩))

theorem structFields_agree (b : Below stop stop' n) (hn : ts.length ≤ n)
    (h : KeptAlike .declarations ts ts') :
    Agree Eq .bodies (structFields stop ts).value (structFields stop' ts').value := by
  refine structFields_rejects.agree structFields_rejects h ?_
  rintro t p p' r r' rfl rfl hk
  by_cases hs : t = .symbol .semi
  · subst hs
    rw [structFields, structFields, value_later, value_later]
    exact b.structFields hn hk
  by_cases hb : t = .symbol .rbrace
  · subst hb
    rw [structFields, structFields]
    exact .done rfl hk
  · rw [structFields_other (by simpa using ⟨hs, hb⟩), structFields_other (by simpa using ⟨hs, hb⟩)]
    exact structField_agree b hn (.keep hk)

/-- **All readers of types agree.** -/
theorem below (stop stop' : Position) (n : Nat) : Below stop stop' n := by
  induction n with
  | zero => exact ⟨fun h => absurd h (by simp), fun h => absurd h (by simp), fun h => absurd h (by simp),
      fun h => absurd h (by simp)⟩
  | succ n b =>
    exact ⟨fun h hk => typeExpr_agree b (Nat.le_of_lt_succ h) hk,
      fun h hk => typeArgs_agree b (Nat.le_of_lt_succ h) hk,
      fun h hk => entries_agree b (Nat.le_of_lt_succ h) hk,
      fun h hk => structFields_agree b (Nat.le_of_lt_succ h) hk⟩

end GoGlue.Parse
