import GoGlue.Proofs.Decl.Cursor.Brackets

/-!
# Lists under a cursor

The grammar has lists with commas, which end with their last item or with a comma, and lists of lines, in which
semicolons may be repeated. A cursor collects the items of either in a loop, so what has been collected is put
before whatever the parser answers on the tokens that are left.

* `CommaList.follows`, `LineList.follows`: lists, if their items are followed and consume something.
* `follows_fieldNames`: names with commas, of which there is at least one.
-/
namespace GoGlue.Cursor

open Reply

variable {α β : Type} {src : Source} {ts r : Tokens}

theorem value_andThen_error {x : Reply α ts} {e : SyntaxError} (h : x.value = .error e)
    (f : α → (r : Tokens) → r.length ≤ ts.length → Reply β r) : (x.andThen f).value = .error e := by
  cases x with
  | error => cases h; rfl
  | ok p => cases h

theorem value_map_eq (x : Reply α ts) (f : α → β) :
    (x.map f).value = x.value.map fun p => (f p.1, p.2) := by
  cases x <;> rfl

/-- What is made of an answer behind an expected token may be made of it with that token. -/
theorem value_expect_map {stop : Position} {t : Token} {what : Expected} (f : α → β)
    (next : (r : Tokens) → r.length < ts.length → Reply α r) :
    (Reply.expect stop t what ts fun r hr => (next r hr).map f).value
      = (Reply.expect stop t what ts next).value.map fun p => (f p.1, p.2) := by
  cases ts with
  | nil => rfl
  | cons u r =>
    rw [Reply.expect, Reply.expect]
    split
    · rw [value_later, value_later, value_map_eq]
    · rfl

theorem value_expectOther {stop : Position} {t : Token} {what : Expected}
    {next : (r : Tokens) → r.length < ts.length → Reply α r} (other : ts.head?.map (·.token) ≠ some t) :
    (Reply.expect stop t what ts next).value = (Reply.unexpected stop what ts : Reply α ts).value := by
  cases ts with
  | nil => rfl
  | cons u r => rw [Reply.expect, if_neg (by simpa using other)]

/-- Tokens that begin with the given one. -/
theorem exists_cons_of_head {t : Token} (h : ts.head?.map (·.token) = some t) :
    ∃ pos r, ts = ⟨t, pos⟩ :: r := by
  cases ts with
  | nil => cases h
  | cons u r => exact ⟨u.pos, r, by cases h; rfl⟩

/-! ## Lists with commas -/

/-- How a parser answers on a list with commas whose items it reads as another one does. -/
structure CommaList (stop : Position) (closing : Symbol) (what : Expected) (item : (ts : Tokens) → Reply α ts)
    (list : (ts : Tokens) → Reply (List α) ts) : Prop where
  closed : ∀ p r, (list (⟨.symbol closing, p⟩ :: r)).value = .ok ([], r)
  opened : ∀ {ts}, ts.head?.map (·.token) ≠ some (.symbol closing) → list ts = (item ts).andThen fun a r _ =>
    match r with
    | ⟨.symbol .comma, p⟩ :: r' => ((list r').map (a :: ·)).later ⟨.symbol .comma, p⟩
    | r => Reply.expect stop (.symbol closing) what r fun r' _ => done [a] r'

section CommaList

variable {closing : Symbol} {what : Expected} {item : Cursor α} {itemOf : (ts : Tokens) → Reply α ts}
  {list : (ts : Tokens) → Reply (List α) ts} {k : Nat}

section

variable {stop : Position} (h : CommaList stop closing what itemOf list)
  (opened : ts.head?.map (·.token) ≠ some (.symbol closing))

include h opened

theorem CommaList.failed {e : SyntaxError} (hv : (itemOf ts).value = .error e) : (list ts).value = .error e := by
  rw [h.opened opened]
  exact value_andThen_error hv _

theorem CommaList.more {a : α} {p : Position} (hv : (itemOf ts).value = .ok (a, ⟨.symbol .comma, p⟩ :: r)) :
    (list ts).value = ((list r).map (a :: ·)).value := by
  rw [h.opened opened]
  exact value_andThen hv fun _ => value_later _ _

theorem CommaList.last {a : α} (hv : (itemOf ts).value = .ok (a, r))
    (other : r.head?.map (·.token) ≠ some (.symbol .comma)) :
    (list ts).value = (Reply.expect stop (.symbol closing) what r fun r' _ => done [a] r').value := by
  rw [h.opened opened]
  refine value_andThen hv fun _ => ?_
  split
  · exact absurd rfl other
  · rfl

end

/-- What the loop collects, together with the closing token, is what the parser answers. -/
theorem CommaList.collects (h : CommaList src.stop closing what itemOf list)
    (items : ∀ ts : Tokens, ts.length < k → Follows src item (itemOf ts)) (leaves : ∀ ts, Leaves (itemOf ts))
    (moves : ∀ ts : Tokens, Ensures (fun _ r => r.length < ts.length) (itemOf ts)) (ts : Tokens)
    (short : ts.length < k) (hs : ts <:+ src.tokens) (acc : List α) :
    ∃ v : Except SyntaxError (List α × Tokens), (∀ as r, v = .ok (as, r) → r <:+ ts) ∧
      loop (commaRound item closing) acc src.marks (place src ts) = outcome src v ∧
      (v >>= fun p => (Reply.expect src.stop (.symbol closing) what p.2 fun r' _ => done p.1 r').value)
        = (list ts).value.map fun p => (acc ++ p.1, p.2) := by
  by_cases closes : ts.head?.map (·.token) = some (.symbol closing)
  · obtain ⟨p, r, rfl⟩ := exists_cons_of_head closes
    refine ⟨.ok (acc, ⟨.symbol closing, p⟩ :: r), ?_, loop_ended ?_, ?_⟩
    · rintro as r ⟨⟩
      exact List.suffix_rfl
    · unfold commaRound
      rw [run_bind (run_isAt hs) (Nat.le_refl _)]
      rfl
    · rw [h.closed]
      simp [Except.map, bind, Except.bind]
  · have opened : ∀ d : Bool → Cursor (Round (List α) (List α)),
        (isAt (.symbol closing) >>= d) src.marks (place src ts) = d false src.marks (place src ts) :=
      run_bind (run_isAt_other hs closes) (Nat.le_refl _)
    have read := items ts short hs
    cases hv : (itemOf ts).value with
    | error e =>
      rw [hv] at read
      refine ⟨.error e, fun _ _ => by simp, loop_error ?_, ?_⟩
      · unfold commaRound
        rw [opened]
        exact run_stop read _
      · rw [h.failed closes hv]
        rfl
    | ok p =>
      obtain ⟨a, r⟩ := p
      have rest : r <:+ ts := leaves ts a r hv
      rw [hv] at read
      by_cases comma : r.head?.map (·.token) = some (.symbol .comma)
      · obtain ⟨p, r', rfl⟩ := exists_cons_of_head comma
        have fewer : r'.length < ts.length := rest.length_le
        have inner : r' <:+ ts := (List.suffix_cons _ r').trans rest
        obtain ⟨v, left, run, value⟩ :=
          h.collects items leaves moves r' (Nat.lt_trans fewer short) (inner.trans hs) (acc ++ [a])
        refine ⟨v, fun as u e => (left as u e).trans inner, ?_, ?_⟩
        · rw [← run]
          refine run_again ?_ hs fewer
          unfold commaRound
          rw [opened]
          show (item >>= _) _ _ = _
          rw [run_bind read rest.length_le, run_bind (run_eat (rest.trans hs)) (Nat.le_succ _)]
          rfl
        · rw [value, h.more closes hv, value_map_eq]
          cases (list r').value <;> simp [Except.map]
      · refine ⟨.ok (acc ++ [a], r), ?_, run_leave ?_ hs (moves ts a r hv), ?_⟩
        · rintro as u ⟨⟩
          exact rest
        · unfold commaRound
          rw [opened]
          show (item >>= _) _ _ = _
          rw [run_bind read rest.length_le, run_bind (run_eat_other (rest.trans hs) comma) (Nat.le_refl _)]
          rfl
        · rw [h.last closes hv comma]
          exact value_expect_map (acc ++ ·) fun r' _ => done [a] r'
termination_by ts.length

/-- **A list with commas** is followed if its items are, and consume something. -/
theorem CommaList.follows (h : CommaList src.stop closing what itemOf list)
    (items : ∀ ts : Tokens, ts.length < k → Follows src item (itemOf ts)) (leaves : ∀ ts, Leaves (itemOf ts))
    (moves : ∀ ts : Tokens, Ensures (fun _ r => r.length < ts.length) (itemOf ts)) (ts : Tokens)
    (short : ts.length < k) : Follows src (commaList item closing what) (list ts) := by
  intro hs
  obtain ⟨v, left, run, value⟩ := h.collects items leaves moves ts short hs []
  have whole : (list ts).value.map (fun p => ([] ++ p.1, p.2)) = (list ts).value := by
    cases (list ts).value <;> rfl
  rw [← whole, ← value]
  cases v with
  | error e => exact run_stop run _
  | ok p =>
    have rest := left p.1 p.2 rfl
    unfold commaList
    rw [run_bind run rest.length_le]
    exact Follows.expect (fun r' _ => follows_pure p.1 r') (rest.trans hs)

end CommaList

/-! ## Lists of lines -/

/-- How a parser answers on a list of lines whose items it reads as another one does. -/
structure LineList (stop : Position) (closing : Symbol) (item : (ts : Tokens) → Reply α ts)
    (list : (ts : Tokens) → Reply (List α) ts) : Prop where
  semi : ∀ p r, (list (⟨.symbol .semi, p⟩ :: r)).value = (list r).value
  closed : ∀ p r, (list (⟨.symbol closing, p⟩ :: r)).value = .ok ([], r)
  failed : ∀ {ts e}, ts.head?.map (·.token) ≠ some (.symbol .semi) →
    ts.head?.map (·.token) ≠ some (.symbol closing) → (item ts).value = .error e → (list ts).value = .error e
  last : ∀ {ts a p r}, ts.head?.map (·.token) ≠ some (.symbol .semi) →
    ts.head?.map (·.token) ≠ some (.symbol closing) → (item ts).value = .ok (a, ⟨.symbol closing, p⟩ :: r) →
    (list ts).value = .ok ([a], r)
  more : ∀ {ts a r}, ts.head?.map (·.token) ≠ some (.symbol .semi) →
    ts.head?.map (·.token) ≠ some (.symbol closing) → (item ts).value = .ok (a, r) →
    r.head?.map (·.token) ≠ some (.symbol closing) →
    (list ts).value
      = (Reply.expect stop (.symbol .semi) .endOfStatement r fun r' _ => (list r').map (a :: ·)).value

/-- The tokens behind the semicolons at their beginning. -/
def pastSemis (ts : Tokens) : Tokens := ts.dropWhile (·.token = .symbol .semi)

theorem pastSemis_suffix (ts : Tokens) : pastSemis ts <:+ ts := List.dropWhile_suffix _

theorem pastSemis_head (ts : Tokens) : (pastSemis ts).head?.map (·.token) ≠ some (.symbol .semi) := by
  induction ts with
  | nil => simp [pastSemis]
  | cons t r ih =>
    unfold pastSemis
    rw [List.dropWhile_cons]
    split
    · exact ih
    · next other => simpa using other

theorem pastSemis_semi (p : Position) (r : Tokens) : pastSemis (⟨.symbol .semi, p⟩ :: r) = pastSemis r := by
  simp [pastSemis]

theorem pastSemis_other (other : ts.head?.map (·.token) ≠ some (.symbol .semi)) : pastSemis ts = ts := by
  cases ts with
  | nil => rfl
  | cons t r => exact List.dropWhile_cons_of_neg (by simpa using other)

theorem run_skipSemis (hs : ts <:+ src.tokens) :
    skipSemis src.marks (place src ts) = .value () (place src (pastSemis ts)) := by
  induction ts with
  | nil =>
    refine loop_ended ?_
    unfold semiRound
    rw [run_bind (run_eat_other hs (by simp)) (Nat.le_refl _)]
    rfl
  | cons t r ih =>
    by_cases semi : (t :: r).head?.map (·.token) = some (.symbol .semi)
    · obtain ⟨p, r, e⟩ := exists_cons_of_head semi
      cases e
      rw [pastSemis_semi, ← ih ((List.suffix_cons _ r).trans hs)]
      refine run_again ?_ hs (Nat.lt_succ_self _)
      unfold semiRound
      rw [run_bind (run_eat hs) (Nat.le_succ _)]
      rfl
    · rw [pastSemis_other semi]
      refine loop_ended ?_
      unfold semiRound
      rw [run_bind (run_eat_other hs semi) (Nat.le_refl _)]
      rfl

section LineList

variable {closing : Symbol} {item : Cursor α} {itemOf : (ts : Tokens) → Reply α ts}
  {list : (ts : Tokens) → Reply (List α) ts} {k : Nat}

theorem LineList.value_pastSemis {stop : Position} (h : LineList stop closing itemOf list) (ts : Tokens) :
    (list (pastSemis ts)).value = (list ts).value := by
  induction ts with
  | nil => rfl
  | cons t r ih =>
    by_cases semi : (t :: r).head?.map (·.token) = some (.symbol .semi)
    · obtain ⟨p, r, e⟩ := exists_cons_of_head semi
      cases e
      rw [pastSemis_semi, h.semi, ih]
    · rw [pastSemis_other semi]

/-! ### One round -/

theorem run_lineRound_closed {p : Position} {acc : List α} (hs : ts <:+ src.tokens)
    (closes : pastSemis ts = ⟨.symbol closing, p⟩ :: r) :
    lineRound item closing acc src.marks (place src ts) = .value (.leave acc) (place src r) := by
  have past := pastSemis_suffix ts
  have inner : ⟨.symbol closing, p⟩ :: r <:+ src.tokens := closes ▸ past.trans hs
  unfold lineRound
  rw [run_bind (run_skipSemis hs) past.length_le, closes, run_bind (run_eat inner) (Nat.le_succ _)]
  rfl

theorem run_lineRound_item {acc : List α} (hs : ts <:+ src.tokens)
    (closes : (pastSemis ts).head?.map (·.token) ≠ some (.symbol closing)) :
    lineRound item closing acc src.marks (place src ts)
      = (item >>= fun a => lineEnd closing (acc ++ [a])) src.marks (place src (pastSemis ts)) := by
  have past := pastSemis_suffix ts
  unfold lineRound
  rw [run_bind (run_skipSemis hs) past.length_le, run_bind (run_eat_other (past.trans hs) closes) (Nat.le_refl _)]
  rfl

theorem run_lineEnd_closed {p : Position} (hs : ⟨.symbol closing, p⟩ :: r <:+ src.tokens) (as : List α) :
    lineEnd closing as src.marks (place src (⟨.symbol closing, p⟩ :: r))
      = .value (.again as) (place src (⟨.symbol closing, p⟩ :: r)) := by
  unfold lineEnd
  rw [run_bind (run_isAt hs) (Nat.le_refl _)]
  rfl

theorem follows_lineEnd {as : List α} (shut : ts.head?.map (·.token) ≠ some (.symbol closing)) :
    Follows src (lineEnd closing as)
      (Reply.expect src.stop (.symbol .semi) .endOfStatement ts fun r _ => done (.again as) r) :=
  Follows.isAtOther shut (Follows.expect fun r _ => follows_pure _ r)

/-! ### All rounds -/

/-- **A list of lines** is followed if its items are, and consume something. -/
theorem LineList.follows (h : LineList src.stop closing itemOf list)
    (items : ∀ ts : Tokens, ts.length < k → Follows src item (itemOf ts)) (leaves : ∀ ts, Leaves (itemOf ts))
    (moves : ∀ ts : Tokens, Ensures (fun _ r => r.length < ts.length) (itemOf ts)) (ts : Tokens)
    (short : ts.length < k) (acc : List α) :
    Follows src (loop (lineRound item closing) acc) ((list ts).map (acc ++ ·)) := by
  intro hs
  have past := pastSemis_suffix ts
  have semi := pastSemis_head ts
  rw [value_map_eq, ← h.value_pastSemis ts]
  by_cases closes : (pastSemis ts).head?.map (·.token) = some (.symbol closing)
  · obtain ⟨p, r, e⟩ := exists_cons_of_head closes
    have fewer : r.length < ts.length := Nat.lt_of_lt_of_le (by rw [e]; exact Nat.lt_succ_self _) past.length_le
    rw [run_leave (run_lineRound_closed hs e) hs fewer, e, h.closed]
    simp [Except.map, outcome]
  · have read := items (pastSemis ts) (Nat.lt_of_le_of_lt past.length_le short) (past.trans hs)
    have round : lineRound item closing acc src.marks (place src ts) = _ := run_lineRound_item hs closes
    cases hv : (itemOf (pastSemis ts)).value with
    | error e =>
      rw [h.failed semi closes hv]
      exact loop_error (round.trans (run_stop (read.trans (by rw [hv]; rfl)) _))
    | ok q =>
      obtain ⟨a, r⟩ := q
      have rest : r <:+ pastSemis ts := leaves _ a r hv
      have inner := rest.trans (past.trans hs)
      have fewer : r.length < ts.length := Nat.lt_of_lt_of_le (moves _ a r hv) past.length_le
      rw [run_bind (read.trans (by rw [hv]; rfl)) rest.length_le] at round
      by_cases shut : r.head?.map (·.token) = some (.symbol closing)
      · obtain ⟨p, r', rfl⟩ := exists_cons_of_head shut
        have more := h.follows items leaves moves _ (Nat.lt_trans fewer short) (acc ++ [a]) inner
        rw [run_again (round.trans (run_lineEnd_closed inner _)) hs fewer, more, h.last semi closes hv,
          value_map_eq, h.closed]
        simp [Except.map]
      · rw [h.more semi closes hv shut]
        rw [follows_lineEnd shut inner] at round
        by_cases line : r.head?.map (·.token) = some (.symbol .semi)
        · obtain ⟨p, r', rfl⟩ := exists_cons_of_head line
          have shorter : r'.length < ts.length := Nat.lt_of_succ_lt fewer
          have more := h.follows items leaves moves r' (Nat.lt_trans shorter short) (acc ++ [a])
            ((List.suffix_cons _ r').trans inner)
          rw [value_expect] at round ⊢
          rw [run_again round hs shorter, more, value_map_eq, value_map_eq]
          cases (list r').value <;> simp [Except.map]
        · rw [value_expectOther line] at round ⊢
          exact loop_error round
termination_by ts.length

end LineList

/-! ## Names -/

/-- How a parser answers behind a name of a field, where more names may follow. -/
def moreNames (stop : Position) (ts : Tokens) : Reply (List String) ts :=
  match ts with
  | ⟨.symbol .comma, p⟩ :: r => (Parse.fieldNames stop r).later ⟨.symbol .comma, p⟩
  | ts => done [] ts

theorem value_moreNames_other {stop : Position} (other : ts.head?.map (·.token) ≠ some (.symbol .comma)) :
    (moreNames stop ts).value = .ok ([], ts) := by
  unfold moreNames
  split
  · exact absurd rfl other
  · rfl

theorem value_fieldNames (stop : Position) (name : String) (p : Position) (r : Tokens) :
    (Parse.fieldNames stop (⟨.ident name, p⟩ :: r)).value
      = (moreNames stop r).value.map fun q => (name :: q.1, q.2) := by
  rw [Parse.fieldNames, value_identifier]
  by_cases comma : r.head?.map (·.token) = some (.symbol .comma)
  · obtain ⟨q, r, rfl⟩ := exists_cons_of_head comma
    rw [moreNames, value_later, value_later, value_map_eq]
  · rw [value_moreNames_other comma]
    split
    · exact absurd rfl comma
    · rfl

theorem follows_nameLoop (ts : Tokens) (acc : List String) :
    Follows src (loop nameRound acc) ((moreNames src.stop ts).map (acc ++ ·)) := by
  induction hn : ts.length using Nat.strongRecOn generalizing ts acc with | ind n ih => ?_
  intro hs
  by_cases comma : ts.head?.map (·.token) = some (.symbol .comma)
  · obtain ⟨p, r, rfl⟩ := exists_cons_of_head comma
    have inner := (List.suffix_cons _ r).trans hs
    -- a round takes the comma and a name
    have round : nameRound acc src.marks (place src (⟨.symbol .comma, p⟩ :: r)) = _ :=
      (run_bind (run_eat hs) (Nat.le_succ _) _).trans
        (Follows.identifier (fun name r' _ => follows_pure (Round.again (acc ++ [name])) r') inner)
    rw [value_map_eq, moreNames, value_later]
    rcases r with _ | ⟨⟨t, q⟩, r⟩
    · rw [Parse.fieldNames]
      exact loop_error round
    · cases t with
      | ident name =>
        rw [value_identifier] at round
        have fewer : r.length < (⟨.symbol .comma, p⟩ :: ⟨.ident name, q⟩ :: r : Tokens).length :=
          Nat.lt_succ_of_lt (Nat.lt_succ_self _)
        rw [run_again round hs fewer, ih r.length (hn ▸ fewer) r (acc ++ [name]) rfl
          ((List.suffix_cons _ r).trans inner), value_map_eq, value_fieldNames]
        cases (moreNames src.stop r).value <;> simp [Except.map]
      | _ =>
        rw [Parse.fieldNames]
        exact loop_error round
  · rw [value_map_eq, value_moreNames_other comma]
    have ended : nameRound acc src.marks (place src ts) = .value (.ended acc) (place src ts) := by
      unfold nameRound
      rw [run_bind (run_eat_other hs comma) (Nat.le_refl _)]
      rfl
    rw [loop_ended ended]
    simp [Except.map, outcome]

theorem follows_fieldNames (ts : Tokens) : Follows src fieldNames (Parse.fieldNames src.stop ts) := by
  refine Follows.congr (Follows.identifier fun name r _ => follows_nameLoop r [name]) ?_
  rcases ts with _ | ⟨⟨t, p⟩, r⟩
  · rw [Parse.fieldNames]
    rfl
  · cases t with
    | ident name => rw [value_identifier, value_map_eq, value_fieldNames]; rfl
    | _ =>
      rw [Parse.fieldNames]
      rfl

end GoGlue.Cursor
