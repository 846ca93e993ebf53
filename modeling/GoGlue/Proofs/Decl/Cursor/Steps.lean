import GoGlue.Proofs.Decl.Cursor.Machine
import GoGlue.Proofs.Decl.Places

/-!
# What a cursor does on tokens

Where the tokens that are left are the last ones of a source, the cursor stands before them, and a program that
answers like a parser leaves it before the tokens which that parser leaves. A program that follows a parser is
never at fault, so to follow one is shown piece by piece: for steps in a row, for each token that is taken, and
for loops.

* `Follows.bind`, `Follows.bump`, `Follows.expect`: steps in a row.
* `Follows.again`, `Follows.leave`: a round of a loop.
-/
namespace GoGlue.Cursor

open Reply

variable {α β σ : Type} {src : Source} {ts r : Tokens}

/-! ## Places -/

/-- The index before the tokens that are left. -/
def place (src : Source) (ts : Tokens) : Nat := src.tokens.length - ts.length

theorem marks_length (src : Source) : src.marks.length = src.tokens.length + 1 := by
  simp [Source.marks]

theorem place_lt (src : Source) (ts : Tokens) : place src ts < src.marks.length := by
  rw [marks_length, place]
  omega

theorem place_mono (src : Source) (h : r.length ≤ ts.length) : place src ts ≤ place src r := by
  unfold place
  omega

/-- Fewer tokens are left behind a later place. -/
theorem place_strict (hs : ts <:+ src.tokens) (h : r.length < ts.length) : place src ts < place src r := by
  have := hs.length_le
  unfold place
  omega

/-- The mark that stands before the tokens, `n` places on. -/
def markBefore (src : Source) (ts : Tokens) (n : Nat) : Mark :=
  match ts[n]? with
  | some t => t.mark
  | none => src.finish

theorem getElem?_marks (hs : ts <:+ src.tokens) {n : Nat} (hn : n ≤ ts.length) :
    src.marks[place src ts + n]? = some (markBefore src ts n) := by
  obtain ⟨pre, hp⟩ := hs
  have hplace : place src ts = pre.length := by simp [place, ← hp]
  have behind : src.marks = pre.map Located.mark ++ (ts.map Located.mark ++ [src.finish]) := by
    simp [Source.marks, ← hp]
  rw [hplace, behind, List.getElem?_append_right (by simp), markBefore]
  simp only [List.length_map, Nat.add_sub_cancel_left]
  rcases Nat.lt_or_eq_of_le hn with hn | rfl
  · rw [List.getElem?_append_left (by simpa using hn)]
    simp [List.getElem?_eq_getElem hn]
  · rw [List.getElem?_append_right (by simp)]
    simp

/-! ## Answers -/

/-- The outcome that an answer stands for: its tokens become the place before them. -/
def outcome (src : Source) : Except SyntaxError (α × Tokens) → Outcome α
  | .error e => .error e
  | .ok (a, r) => .value a (place src r)

/-- The program answers like the parser, before the last tokens of the source. -/
def Follows (src : Source) (c : Cursor α) {ts : Tokens} (x : Reply α ts) : Prop :=
  ts <:+ src.tokens → c src.marks (place src ts) = outcome src x.value

theorem Follows.congr {c : Cursor α} {x : Reply α ts} {y : Reply α ts} (h : Follows src c x)
    (hv : x.value = y.value) : Follows src c y := fun hs => hv ▸ h hs

theorem follows_pure (a : α) (ts : Tokens) : Follows src (pure a) (done a ts) := fun _ => rfl

/-- A step that goes well, and what comes behind it. -/
theorem run_bind {c : Cursor α} {a : α} (hc : c src.marks (place src ts) = .value a (place src r))
    (hr : r.length ≤ ts.length) (d : α → Cursor β) :
    (c >>= d) src.marks (place src ts) = d a src.marks (place src r) := by
  show Cursor.bind c d _ _ = _
  rw [Cursor.bind, hc]
  exact if_pos ⟨place_mono src hr, place_lt src r⟩

/-- Nothing comes behind an error. -/
theorem run_stop {c : Cursor α} {ms : List Mark} {pos : Nat} {e : SyntaxError} (h : c ms pos = .error e)
    (d : α → Cursor β) : (c >>= d) ms pos = .error e := by
  show Cursor.bind c d _ _ = _
  rw [Cursor.bind, h]

/-- **Steps in a row** follow answers in a row. -/
theorem Follows.bind {c : Cursor α} {d : α → Cursor β} {x : Reply α ts}
    {f : α → (r : Tokens) → r.length ≤ ts.length → Reply β r} (hx : Follows src c x) (hl : Leaves x)
    (hf : ∀ a r hr, Follows src (d a) (f a r hr)) : Follows src (c >>= d) (x.andThen f) := by
  intro hs
  have first := hx hs
  match x, hl, first with
  | .error e, _, first => exact run_stop first d
  | .ok ⟨(a, r), hr⟩, hl, first =>
    rw [run_bind first hr, hf a r hr ((hl a r rfl).trans hs)]
    exact congrArg (outcome src) (value_widen hr _).symm

/-- A step whose value is turned into another one. -/
theorem Follows.map {c : Cursor α} {x : Reply α ts} (hx : Follows src c x) (f : α → β) :
    Follows src (c >>= fun a => pure (f a)) (x.map f) := by
  intro hs
  have first := hx hs
  match x, first with
  | .error e, first => exact run_stop first _
  | .ok ⟨(a, r), hr⟩, first => exact run_bind first hr _

/-! ## The current token -/

/-- A look at the tokens, which moves nothing. -/
theorem Follows.look {c : Cursor α} {a : α} {d : α → Cursor β} {x : Reply β ts}
    (hc : ts <:+ src.tokens → c src.marks (place src ts) = .value a (place src ts))
    (hd : Follows src (d a) x) : Follows src (c >>= d) x := fun hs => by
  rw [run_bind (hc hs) (Nat.le_refl _), hd hs]

theorem run_lastIndex (src : Source) (pos : Nat) :
    lastIndex src.marks pos = .value src.tokens.length pos := by
  simp [lastIndex, marks_length]

/-- Looking ahead finds the mark of the token there, or the end. -/
theorem run_ahead (hs : ts <:+ src.tokens) (n : Nat) :
    ahead n src.marks (place src ts) = .value (markBefore src ts n) (place src ts) := by
  have short := hs.length_le
  have index : min (place src ts + n) src.tokens.length = place src ts + min n ts.length := by
    unfold place
    omega
  have mark : markBefore src ts (min n ts.length) = markBefore src ts n := by
    rcases Nat.le_total n ts.length with h | h
    · rw [Nat.min_eq_left h]
    · rw [Nat.min_eq_right h, markBefore, markBefore, List.getElem?_eq_none (Nat.le_refl _),
        List.getElem?_eq_none h]
  unfold ahead
  rw [run_bind (a := place src ts) (r := ts) rfl (Nat.le_refl _),
    run_bind (run_lastIndex src _) (Nat.le_refl _), markAt, index,
    getElem?_marks hs (Nat.min_le_right _ _), mark]

theorem Follows.ahead {n : Nat} {d : Mark → Cursor β} {x : Reply β ts}
    (h : Follows src (d (markBefore src ts n)) x) : Follows src (ahead n >>= d) x :=
  .look (run_ahead · n) h

theorem Follows.current {d : Mark → Cursor β} {x : Reply β ts} (h : Follows src (d (markBefore src ts 0)) x) :
    Follows src (current >>= d) x := h.ahead

/-- The cursor is moved behind the token that is taken. -/
theorem run_bump {t : Located} (hs : t :: r <:+ src.tokens) :
    bump src.marks (place src (t :: r)) = .value (some t.token) (place src r) := by
  have long := hs.length_le
  rw [List.length_cons] at long
  have next : (if place src (t :: r) < src.tokens.length then place src (t :: r) + 1 else place src (t :: r))
      = place src r := by
    unfold place
    rw [List.length_cons]
    split <;> omega
  unfold bump Cursor.current
  rw [run_bind (run_ahead hs 0) (Nat.le_refl _), run_bind (run_lastIndex src _) (Nat.le_refl _),
    run_bind (a := place src (t :: r)) rfl (Nat.le_refl _), next,
    run_bind (a := ()) (r := r) rfl (Nat.le_succ _)]
  rfl

/-- At the end the cursor stays where it is. -/
theorem run_bump_end (src : Source) : bump src.marks (place src []) = .value none (place src []) := by
  have last : place src [] = src.tokens.length := by simp [place]
  unfold bump Cursor.current
  rw [run_bind (run_ahead List.nil_suffix 0) (Nat.le_refl _), run_bind (run_lastIndex src _) (Nat.le_refl _),
    run_bind (a := place src []) rfl (Nat.le_refl _), if_neg (by omega),
    run_bind (a := ()) (r := []) rfl (Nat.le_refl _)]
  rfl

theorem Follows.bump {t : Located} {d : Option Token → Cursor β} {x : Reply β r}
    (h : Follows src (d (some t.token)) x) : Follows src (bump >>= d) (x.later t) := fun hs => by
  rw [run_bind (run_bump hs) (Nat.le_succ _), h ((List.suffix_cons t r).trans hs), value_later]

/-! ## Errors -/

theorem follows_error (e : SyntaxError) (ts : Tokens) : Follows src (raise e) (.error e : Reply α ts) :=
  fun _ => rfl

theorem markBefore_pos (src : Source) (ts : Tokens) : (markBefore src ts 0).pos = here src.stop ts := by
  cases ts <;> rfl

theorem markBefore_token (src : Source) (ts : Tokens) :
    (markBefore src ts 0).token = ts.head?.map (·.token) := by
  cases ts <;> rfl

theorem follows_fail (fault : SyntaxFault) (ts : Tokens) :
    Follows src (fail fault) (Reply.fail src.stop fault ts : Reply α ts) := by
  refine Follows.current ?_
  rw [markBefore_pos]
  exact follows_error _ ts

theorem follows_unexpected (what : Expected) (ts : Tokens) :
    Follows src (unexpected what) (Reply.unexpected src.stop what ts : Reply α ts) := by
  refine Follows.current ?_
  rw [markBefore_token]
  exact follows_fail _ ts

/-! ## Given tokens -/

theorem run_isAt {t : Located} (hs : t :: r <:+ src.tokens) :
    isAt t.token src.marks (place src (t :: r)) = .value true (place src (t :: r)) := by
  unfold isAt current
  rw [run_bind (run_ahead hs 0) (Nat.le_refl _)]
  exact congrArg (Outcome.value · _) (decide_eq_true rfl)

theorem run_isAt_other {t : Token} (hs : ts <:+ src.tokens) (other : ts.head?.map (·.token) ≠ some t) :
    isAt t src.marks (place src ts) = .value false (place src ts) := by
  unfold isAt current
  rw [run_bind (run_ahead hs 0) (Nat.le_refl _), markBefore_token]
  exact congrArg (Outcome.value · _) (decide_eq_false other)

theorem Follows.isAt {t : Located} {d : Bool → Cursor β} {x : Reply β (t :: r)} (h : Follows src (d true) x) :
    Follows src (isAt t.token >>= d) x := .look run_isAt h

theorem Follows.isAtOther {t : Token} {d : Bool → Cursor β} {x : Reply β ts}
    (other : ts.head?.map (·.token) ≠ some t) (h : Follows src (d false) x) :
    Follows src (Cursor.isAt t >>= d) x := .look (run_isAt_other · other) h

theorem run_eat {t : Located} (hs : t :: r <:+ src.tokens) :
    eat t.token src.marks (place src (t :: r)) = .value true (place src r) := by
  unfold eat
  rw [run_bind (run_isAt hs) (Nat.le_refl _), if_pos rfl, run_bind (run_bump hs) (Nat.le_succ _)]
  rfl

theorem run_eat_other {t : Token} (hs : ts <:+ src.tokens) (other : ts.head?.map (·.token) ≠ some t) :
    eat t src.marks (place src ts) = .value false (place src ts) := by
  unfold eat
  rw [run_bind (run_isAt_other hs other) (Nat.le_refl _), if_neg Bool.false_ne_true]
  rfl

theorem Follows.eat {t : Located} {d : Bool → Cursor β} {x : Reply β r} (h : Follows src (d true) x) :
    Follows src (eat t.token >>= d) (x.later t) := fun hs => by
  rw [run_bind (run_eat hs) (Nat.le_succ _), h ((List.suffix_cons t r).trans hs), value_later]

theorem Follows.eatOther {t : Token} {d : Bool → Cursor β} {x : Reply β ts}
    (other : ts.head?.map (·.token) ≠ some t) (h : Follows src (d false) x) :
    Follows src (Cursor.eat t >>= d) x := .look (run_eat_other · other) h

theorem Follows.stop {c : Cursor α} {e : SyntaxError} (h : Follows src c (.error e : Reply α ts))
    (d : α → Cursor β) : Follows src (c >>= d) (.error e : Reply β ts) := fun hs => run_stop (h hs) d

theorem run_expect {t : Located} (what : Expected) (hs : t :: r <:+ src.tokens) :
    expect t.token what src.marks (place src (t :: r)) = .value () (place src r) := by
  unfold expect
  rw [run_bind (run_eat hs) (Nat.le_succ _)]
  rfl

theorem follows_expectOther {t : Token} (what : Expected) (other : ts.head?.map (·.token) ≠ some t) :
    Follows src (expect t what) (Reply.unexpected src.stop what ts : Reply Unit ts) :=
  .eatOther other (follows_unexpected what ts)

theorem Follows.take {t : Located} {what : Expected} {d : Unit → Cursor β} {x : Reply β r}
    (h : Follows src (d ()) x) : Follows src (Cursor.expect t.token what >>= d) (x.later t) := fun hs => by
  rw [run_bind (run_expect what hs) (Nat.le_succ _), h ((List.suffix_cons t r).trans hs), value_later]

theorem Follows.expect {t : Token} {what : Expected} {d : Unit → Cursor β}
    {next : (r : Tokens) → r.length < ts.length → Reply β r} (h : ∀ r hr, Follows src (d ()) (next r hr)) :
    Follows src (expect t what >>= d) (Reply.expect src.stop t what ts next) := by
  cases ts with
  | nil => exact (follows_expectOther what (by simp)).stop d
  | cons u r =>
    rw [Reply.expect]
    split
    · next same =>
      subst same
      intro hs
      rw [run_bind (run_expect what hs) (Nat.le_succ _), h r _ ((List.suffix_cons u r).trans hs), value_later]
    · next other => exact (follows_expectOther what (by simpa using other)).stop d

theorem run_identifier {name : String} {pos : Position} (what : Expected)
    (hs : ⟨.ident name, pos⟩ :: r <:+ src.tokens) :
    identifier what src.marks (place src (⟨.ident name, pos⟩ :: r)) = .value name (place src r) := by
  unfold identifier current
  rw [run_bind (run_ahead hs 0) (Nat.le_refl _)]
  exact run_bind (run_bump hs) (Nat.le_succ _) _

theorem Follows.identifier {what : Expected} {d : String → Cursor β}
    {next : String → (r : Tokens) → r.length < ts.length → Reply β r}
    (h : ∀ name r hr, Follows src (d name) (next name r hr)) :
    Follows src (identifier what >>= d) (Reply.identifier src.stop what ts next) := by
  match ts with
  | [] => exact (Follows.current (follows_unexpected what [])).stop d
  | ⟨t, pos⟩ :: r =>
    cases t with
    | ident name =>
      intro hs
      rw [run_bind (run_identifier what hs) (Nat.le_succ _), h name r (Nat.lt_succ_self _)
        ((List.suffix_cons _ r).trans hs), identifier_eq, value_later]
    | _ => exact (Follows.current (follows_unexpected what _)).stop d

theorem follows_endOfStatement (ts : Tokens) :
    Follows src endOfStatement (Reply.endOfStatement src.stop ts) := by
  refine Follows.current ?_
  match ts with
  | [] => exact follows_pure () []
  | ⟨t, pos⟩ :: r =>
    by_cases semi : t = .symbol .semi
    · subst semi
      exact fun hs => run_expect _ hs
    · have same : Reply.endOfStatement src.stop (⟨t, pos⟩ :: r)
          = Reply.unexpected src.stop .endOfStatement (⟨t, pos⟩ :: r) := by
        simp [Reply.endOfStatement, semi]
      rw [same]
      exact follows_expectOther _ (by simpa using semi)

/-! ## Loops -/

section

variable {round : σ → Cursor (Round σ β)} {s : σ}

/-- A round after which there is another, behind the tokens that it takes. -/
theorem run_again {s' : σ} (h : round s src.marks (place src ts) = .value (.again s') (place src r))
    (hs : ts <:+ src.tokens) (hr : r.length < ts.length) :
    loop round s src.marks (place src ts) = loop round s' src.marks (place src r) :=
  loop_eq h (place_strict hs hr) (place_lt src r)

/-- The last round, which takes tokens as well. -/
theorem run_leave {b : β} (h : round s src.marks (place src ts) = .value (.leave b) (place src r))
    (hs : ts <:+ src.tokens) (hr : r.length < ts.length) :
    loop round s src.marks (place src ts) = .value b (place src r) :=
  loop_leave h (place_strict hs hr)

/-! A round that takes the current token first is decided by it. -/

variable {d : Option Token → Cursor (Round σ β)} {t : Located}

theorem loop_takes (s' : σ) (form : round s = bump >>= d) (hd : d (some t.token) = pure (.again s'))
    (hs : t :: r <:+ src.tokens) :
    loop round s src.marks (place src (t :: r)) = loop round s' src.marks (place src r) := by
  refine run_again ?_ hs (Nat.lt_succ_self _)
  rw [form, run_bind (run_bump hs) (Nat.le_succ _), hd]
  rfl

theorem loop_takesLast (b : β) (form : round s = bump >>= d) (hd : d (some t.token) = pure (.leave b))
    (hs : t :: r <:+ src.tokens) : loop round s src.marks (place src (t :: r)) = .value b (place src r) := by
  refine run_leave ?_ hs (Nat.lt_succ_self _)
  rw [form, run_bind (run_bump hs) (Nat.le_succ _), hd]
  rfl

theorem loop_fails {e : SyntaxError} (form : round s = bump >>= d)
    (hd : Follows src (d none) (.error e : Reply (Round σ β) [])) :
    loop round s src.marks (place src []) = .error e := by
  refine loop_error ?_
  rw [form, run_bind (run_bump_end src) (Nat.le_refl _)]
  exact hd List.nil_suffix

end

end GoGlue.Cursor
