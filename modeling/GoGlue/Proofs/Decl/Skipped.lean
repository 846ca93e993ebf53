import GoGlue.Proofs.Decl.LookAhead

/-!
# Streams that differ in skipped code

Function bodies and the declarations of imports, constants and variables are skipped. Two streams of tokens
that differ only there are alike in what is kept, wherever their tokens stand. A body is told by its brace:
only a `struct` or an `interface` has braces of its own, and these stand directly behind the keyword. Skipped
declarations stand behind a semicolon, and what follows them is the next kept declaration or the end of the
stream.

All that looks ahead counts brackets, and skipped code is balanced. So every look-ahead crosses skipped code
as if it were not there, and stops at the same bracket of either stream.

* `KeptAlike`: the two streams differ in skipped code only.
* `Counts.balanced`: a scanner that counts brackets passes over balanced tokens.
* `groupEnd_alike`, `lengthEnd_alike`, `interfaceEnd_alike`: groups end at the same place.
* `beginsArray_alike`, `entryForm_alike`, `isEmbedded_alike`, `opensTypeParams_alike`: decisions are the same.
-/
namespace GoGlue.Parse

/-! ## Skipped code -/

/-- The declaration that begins with the keyword is skipped. -/
def startsValue (k : Keyword) : Bool := k matches .importDecl | .const | .var

/-- The declaration that begins with the keyword is kept. -/
def startsDecl (k : Keyword) : Bool := k matches .func | .type

/-- Balanced tokens without a semicolon outside of brackets. -/
inductive Inline : List Token → Prop
  | nil : Inline []
  | plain {t : Token} {w : List Token} (ho : t.isOpening = false) (hc : t.isClosing = false)
      (hs : t ≠ .symbol .semi) (hw : Inline w) : Inline (t :: w)
  | group {o c : Token} {v w : List Token} (ho : o.isOpening = true) (hc : c.isClosing = true)
      (hv : Balanced v) (hw : Inline w) : Inline (o :: (v ++ c :: w))

/-- A declaration of imports, constants or variables behind its keyword: a group in parentheses, or a
single one. -/
inductive Value : List Token → Prop
  | group {c : Token} {w : List Token} (hc : c.isClosing = true) (hw : Balanced w) :
      Value (.symbol .lparen :: (w ++ [c]))
  | inline {w : List Token} (hw : Inline w) (hp : w.head? ≠ some (.symbol .lparen)) : Value w

/-- Declarations that are skipped, and semicolons. -/
inductive Gap : List Token → Prop
  | nil : Gap []
  | semi {g : List Token} (hg : Gap g) : Gap (.symbol .semi :: g)
  | value {k : Keyword} {v g : List Token} (hk : startsValue k = true) (hv : Value v) (hg : Gap g) :
      Gap (.keyword k :: (v ++ .symbol .semi :: g))

/-- The same at the end of the stream, where the last declaration needs no semicolon. -/
inductive LastGap : List Token → Prop
  | gap {g : List Token} (hg : Gap g) : LastGap g
  | value {k : Keyword} {v g : List Token} (hg : Gap g) (hk : startsValue k = true) (hv : Value v) :
      LastGap (g ++ .keyword k :: v)

/-- Nothing is kept any more: the stream ends here, or goes on with skipped declarations only. -/
inductive Ended : Tokens → Prop
  | nil : Ended []
  | semi {g : List Token} (hg : LastGap g) (p : Position) (pos : Nat → Position) :
      Ended (⟨.symbol .semi, p⟩ :: place pos g)

/-- What may be skipped at a place between two tokens. -/
inductive Skippable where
  | nothing | bodies | declarations
  deriving DecidableEq

/-- What may be skipped behind a token. -/
def Skippable.behind : Token → Skippable
  | .keyword .struct | .keyword .interface => nothing
  | .symbol .semi => declarations
  | _ => bodies

/-- Two streams of which the same is kept, at a place where `m` may be skipped. -/
inductive KeptAlike : Skippable → Tokens → Tokens → Prop
  | ended {m : Skippable} {ts ts' : Tokens} (h : Ended ts) (h' : Ended ts') : KeptAlike m ts ts'
  | keep {m : Skippable} {t : Token} {p p' : Position} {r r' : Tokens}
      (h : KeptAlike (.behind t) r r') : KeptAlike m (⟨t, p⟩ :: r) (⟨t, p'⟩ :: r')
  /-- The brackets of a body are kept, and what is in it may be anything that is balanced. -/
  | body {m : Skippable} {c : Token} {w w' : List Token} {p p' q q' : Position}
      {pos pos' : Nat → Position} {r r' : Tokens} (hm : m ≠ .nothing) (hc : c.isClosing = true)
      (hw : Balanced w) (hw' : Balanced w') (h : KeptAlike .bodies r r') :
      KeptAlike m (⟨.symbol .lbrace, p⟩ :: (place pos w ++ ⟨c, q⟩ :: r))
        (⟨.symbol .lbrace, p'⟩ :: (place pos' w' ++ ⟨c, q'⟩ :: r'))
  | skip {k : Keyword} {g g' : List Token} {p p' : Position} {pos pos' : Nat → Position}
      {r r' : Tokens} (hk : startsDecl k = true) (hg : Gap g) (hg' : Gap g')
      (h : KeptAlike .bodies r r') :
      KeptAlike .declarations (place pos g ++ ⟨.keyword k, p⟩ :: r)
        (place pos' g' ++ ⟨.keyword k, p'⟩ :: r')
  | last {g g' : List Token} {pos pos' : Nat → Position} (hg : LastGap g) (hg' : LastGap g') :
      KeptAlike .declarations (place pos g) (place pos' g')

theorem opening_of_closing {t : Token} (h : t.isClosing = true) : t.isOpening = false := by
  cases t with
  | symbol s => cases s <;> first | rfl | cases h
  | _ => cases h

theorem behind_symbol {s : Symbol} (h : s ≠ .semi) : Skippable.behind (.symbol s) = .bodies := by
  cases s <;> first | rfl | cases h rfl

theorem behind_closing {t : Token} (h : t.isClosing = true) : Skippable.behind t = .bodies := by
  cases t with
  | symbol s =>
    refine behind_symbol ?_
    rintro rfl
    cases h
  | _ => cases h

theorem behind_decl {k : Keyword} (h : startsValue k = true ∨ startsDecl k = true) :
    Skippable.behind (.keyword k) = .bodies := by
  cases k <;> first | rfl | exact absurd h (by decide)

theorem behind_ne {t : Token} (h : t ≠ .symbol .semi) : Skippable.behind t ≠ .declarations := by
  unfold Skippable.behind
  split
  · decide
  · decide
  · exact absurd rfl h
  · decide

/-- Where declarations may be skipped, everything may be. -/
theorem KeptAlike.weaken {m : Skippable} {ts ts' : Tokens} (h : KeptAlike m ts ts') :
    KeptAlike .declarations ts ts' := by
  cases h with
  | ended h h' => exact .ended h h'
  | keep h => exact .keep h
  | body _ hc hw hw' h => exact .body (by decide) hc hw hw' h
  | skip hk hg hg' h => exact .skip hk hg hg' h
  | last hg hg' => exact .last hg hg'

/-- The same tokens may stand at different places. -/
theorem KeptAlike.append {w : List Token} {m : Skippable} {r r' : Tokens}
    (h : KeptAlike (w.foldl (fun _ => .behind) m) r r') (pos pos' : Nat → Position) :
    KeptAlike m (place pos w ++ r) (place pos' w ++ r') := by
  induction w generalizing m pos pos' with
  | nil => exact h
  | cons t w ih => exact .keep (ih h _ _)

/-! ## Skipped code is balanced -/

theorem Inline.balanced {w : List Token} (h : Inline w) : Balanced w := by
  induction h with
  | nil => exact .nil
  | plain ho hc _ _ ih => exact .plain ho hc ih
  | group ho hc hv _ ih => exact .group ho (opening_of_closing hc) hc hv ih

theorem Value.balanced {v : List Token} (h : Value v) : Balanced v := by
  cases h with
  | group hc hw => exact .group rfl (opening_of_closing hc) hc hw .nil
  | inline hw _ => exact hw.balanced

theorem Gap.balanced {g : List Token} (h : Gap g) : Balanced g := by
  induction h with
  | nil => exact .nil
  | semi _ ih => exact .plain rfl rfl ih
  | value _ hv _ ih => exact .plain rfl rfl (hv.balanced.append (.plain rfl rfl ih))

theorem LastGap.balanced {g : List Token} (h : LastGap g) : Balanced g := by
  cases h with
  | gap hg => exact hg.balanced
  | value hg _ hv => exact hg.balanced.append (.plain rfl rfl hv.balanced)

/-! ## The end of a group -/

/-- A scanner that counts brackets, and passes over everything else. -/
structure Counts {α : Type} (f : Nat → Tokens → Option α) : Prop where
  nil : ∀ depth, f depth [] = none
  plain : ∀ {depth t r}, t.token.isOpening = false → t.token.isClosing = false →
    f depth (t :: r) = f depth r
  opening : ∀ {depth t r}, t.token.isOpening = true → f depth (t :: r) = f (depth + 1) r
  closing : ∀ {depth t r}, t.token.isClosing = true → f (depth + 1) (t :: r) = f depth r

theorem groupEnd_counts : Counts groupEnd where
  nil depth := rfl
  plain ho hc := by
    rw [groupEnd.eq_def]
    simp [ho, hc]
  opening ho := by
    rw [groupEnd.eq_def]
    simp [ho]
  closing hc := by
    rw [groupEnd.eq_def]
    simp [opening_of_closing hc, hc]

/-- A bracket of array lengths is closed by a square bracket only. -/
theorem lengthEnd_counts : Counts lengthEnd where
  nil depth := rfl
  plain {depth t r} ho hc := by
    have other : t.token ≠ .symbol .rbrack := fun h => by simp [h, Token.isClosing] at hc
    rw [lengthEnd.eq_def]
    simp [ho, hc, other]
  opening ho := by
    rw [lengthEnd.eq_def]
    simp [ho]
  closing hc := by
    rw [lengthEnd.eq_def]
    simp [opening_of_closing hc, hc]

theorem groupEnd_end {t : Located} {r : Tokens} (hc : t.token.isClosing = true) :
    groupEnd 0 (t :: r) = some r := by
  rw [groupEnd.eq_def]
  simp [opening_of_closing hc, hc]

section

variable {t : Located} {depth : Nat} {empty : Bool} {r : Tokens}

theorem interfaceEnd_plain (ho : t.token.isOpening = false) (hc : t.token.isClosing = false) :
    interfaceEnd depth empty (t :: r)
      = interfaceEnd depth (empty && decide (t.token = .symbol .semi)) r := by
  rw [interfaceEnd.eq_def]
  simp [ho, hc]

theorem interfaceEnd_opening (ho : t.token.isOpening = true) :
    interfaceEnd depth empty (t :: r) = interfaceEnd (depth + 1) false r := by
  rw [interfaceEnd.eq_def]
  simp [ho]

theorem interfaceEnd_closing (hc : t.token.isClosing = true) :
    interfaceEnd (depth + 1) empty (t :: r) = interfaceEnd depth empty r := by
  rw [interfaceEnd.eq_def]
  simp [opening_of_closing hc, hc]

theorem interfaceEnd_end (hc : t.token.isClosing = true) :
    interfaceEnd 0 empty (t :: r) = some (empty, r) := by
  rw [interfaceEnd.eq_def]
  simp [opening_of_closing hc, hc]

end

/-- A body that is not empty stays so. -/
theorem interfaceEnd_counts : Counts fun depth => interfaceEnd depth false where
  nil depth := rfl
  plain ho hc := by rw [interfaceEnd_plain ho hc, Bool.false_and]
  opening := interfaceEnd_opening
  closing := interfaceEnd_closing

/-! ## Groups end at the same place -/

theorem Ended.balanced {ts : Tokens} (h : Ended ts) : ∃ pos w, Balanced w ∧ ts = place pos w := by
  cases h with
  | nil => exact ⟨fun _ => .start, [], .nil, rfl⟩
  | @semi g hg p pos =>
    refine ⟨fun i => if i = 0 then p else pos (i - 1), .symbol .semi :: g, .plain rfl rfl hg.balanced, ?_⟩
    simp [place_cons]

namespace Counts

variable {α : Type} {f : Nat → Tokens → Option α}

/-- Balanced tokens are passed over. -/
theorem balanced (hf : Counts f) {w : List Token} (h : Balanced w) (pos : Nat → Position) (depth : Nat)
    (r : Tokens) : f depth (place pos w ++ r) = f depth r := by
  induction h generalizing pos depth r with
  | nil => rfl
  | plain ho hc _ ih =>
    rw [place_cons, List.cons_append, hf.plain ho hc, ih]
  | group ho _ hc _ _ ihv ihw =>
    rw [place_cons, place_append, List.cons_append, List.append_assoc, hf.opening ho, ihv,
      place_cons, List.cons_append, hf.closing hc, ihw]

/-- Nothing is found in balanced tokens. -/
theorem none (hf : Counts f) {w : List Token} (h : Balanced w) (pos : Nat → Position) (depth : Nat) :
    f depth (place pos w) = none := by
  rw [← List.append_nil (place pos w), hf.balanced h, hf.nil]

/-- **What a scanner finds is the same** in both streams, if it is the same at a closing bracket of the
outermost group. -/
theorem alike (hf : Counts f) {R : α → α → Prop}
    (hend : ∀ {t p p' r r'}, t.isClosing = true → KeptAlike (.behind t) r r' →
      Option.Rel R (f 0 r) (f 0 r') → Option.Rel R (f 0 (⟨t, p⟩ :: r)) (f 0 (⟨t, p'⟩ :: r')))
    {m : Skippable} {ts ts' : Tokens} (h : KeptAlike m ts ts') (depth : Nat) :
    Option.Rel R (f depth ts) (f depth ts') := by
  induction h generalizing depth with
  | ended h h' =>
    obtain ⟨_, _, hw, rfl⟩ := h.balanced
    obtain ⟨_, _, hw', rfl⟩ := h'.balanced
    rw [hf.none hw, hf.none hw']
    exact .none
  | @keep m t p p' r r' h ih =>
    by_cases ho : t.isOpening = true
    · rw [hf.opening ho, hf.opening ho]
      exact ih _
    · by_cases hc : t.isClosing = true
      · cases depth with
        | zero => exact hend hc h (ih 0)
        | succ depth =>
          rw [hf.closing hc, hf.closing hc]
          exact ih _
      · rw [Bool.not_eq_true] at ho hc
        rw [hf.plain ho hc, hf.plain ho hc]
        exact ih _
  | body _ hc hw hw' _ ih =>
    rw [hf.opening rfl, hf.opening rfl, hf.balanced hw, hf.balanced hw', hf.closing hc, hf.closing hc]
    exact ih _
  | skip _ hg hg' _ ih =>
    rw [hf.balanced hg.balanced, hf.balanced hg'.balanced, hf.plain rfl rfl, hf.plain rfl rfl]
    exact ih _
  | last hg hg' =>
    rw [hf.none hg.balanced, hf.none hg'.balanced]
    exact .none

end Counts

/-- **A group ends at the same place.** -/
theorem groupEnd_alike {m : Skippable} {ts ts' : Tokens} (h : KeptAlike m ts ts') (depth : Nat) :
    Option.Rel (KeptAlike .bodies) (groupEnd depth ts) (groupEnd depth ts') := by
  refine groupEnd_counts.alike (fun {t p p' r r'} hc h _ => ?_) h depth
  rw [groupEnd_end hc, groupEnd_end hc]
  exact .some (behind_closing hc ▸ h)

/-- **An array length ends at the same place.** -/
theorem lengthEnd_alike {m : Skippable} {ts ts' : Tokens} (h : KeptAlike m ts ts') (depth : Nat) :
    Option.Rel (KeptAlike .bodies) (lengthEnd depth ts) (lengthEnd depth ts') := by
  refine lengthEnd_counts.alike (fun {t p p' r r'} hc h rest => ?_) h depth
  by_cases hb : t = .symbol .rbrack
  · subst hb
    exact .some h
  · -- another bracket closes nothing here
    have passed : ∀ {q : Position} {s : Tokens}, lengthEnd 0 (⟨t, q⟩ :: s) = lengthEnd 0 s := by
      intro q s
      rw [lengthEnd.eq_def]
      simp [opening_of_closing hc, hc, hb]
    rwa [passed, passed]

section

variable {depth : Nat} {empty : Bool} {r : Tokens}

/-- Balanced tokens may leave a body non-empty. -/
theorem interfaceEnd_balanced {w : List Token} (h : Balanced w) (empty : Bool)
    (pos : Nat → Position) :
    ∃ still, interfaceEnd depth empty (place pos w ++ r) = interfaceEnd depth still r := by
  induction h generalizing pos empty with
  | nil => exact ⟨empty, rfl⟩
  | plain ho hc _ ih =>
    rw [place_cons, List.cons_append, interfaceEnd_plain ho hc]
    exact ih _ _
  | group ho _ hc hv hw _ _ =>
    rw [place_cons, place_append, List.cons_append, List.append_assoc, interfaceEnd_opening ho,
      interfaceEnd_counts.balanced hv, place_cons, List.cons_append, interfaceEnd_closing hc]
    exact ⟨false, interfaceEnd_counts.balanced hw _ _ _⟩

theorem interfaceEnd_none {w : List Token} (h : Balanced w) (pos : Nat → Position) :
    interfaceEnd depth empty (place pos w) = none := by
  obtain ⟨still, hs⟩ : ∃ still, interfaceEnd depth empty (place pos w ++ []) = interfaceEnd depth still [] :=
    interfaceEnd_balanced h empty pos
  simpa [interfaceEnd] using hs

end

/-- **An interface ends at the same place**, and is empty in both streams or in neither. -/
theorem interfaceEnd_alike {m : Skippable} {ts ts' : Tokens} (h : KeptAlike m ts ts') (depth : Nat)
    (empty : Bool) :
    Option.Rel (fun x x' => x.1 = x'.1 ∧ KeptAlike .bodies x.2 x'.2)
      (interfaceEnd depth empty ts) (interfaceEnd depth empty ts') := by
  induction h generalizing depth empty with
  | ended h h' =>
    obtain ⟨_, _, hw, rfl⟩ := h.balanced
    obtain ⟨_, _, hw', rfl⟩ := h'.balanced
    rw [interfaceEnd_none hw, interfaceEnd_none hw']
    exact .none
  | @keep m t p p' r r' h ih =>
    by_cases ho : t.isOpening = true
    · rw [interfaceEnd_opening ho, interfaceEnd_opening ho]
      exact ih _ _
    · by_cases hc : t.isClosing = true
      · cases depth with
        | zero =>
          rw [interfaceEnd_end hc, interfaceEnd_end hc]
          exact .some ⟨rfl, behind_closing hc ▸ h⟩
        | succ depth =>
          rw [interfaceEnd_closing hc, interfaceEnd_closing hc]
          exact ih _ _
      · rw [Bool.not_eq_true] at ho hc
        rw [interfaceEnd_plain ho hc, interfaceEnd_plain ho hc]
        exact ih _ _
  | body hm hc hw hw' _ ih =>
    rw [interfaceEnd_opening rfl, interfaceEnd_opening rfl, interfaceEnd_counts.balanced hw,
      interfaceEnd_counts.balanced hw', interfaceEnd_closing hc, interfaceEnd_closing hc]
    exact ih _ _
  | skip _ hg hg' _ ih =>
    -- whatever is skipped, the keyword of the next declaration is not a semicolon
    obtain ⟨still, hs⟩ := interfaceEnd_balanced hg.balanced empty _
    obtain ⟨still', hs'⟩ := interfaceEnd_balanced hg'.balanced empty _
    rw [hs, hs', interfaceEnd_plain rfl rfl, interfaceEnd_plain rfl rfl]
    simpa using ih depth false
  | last hg hg' =>
    rw [interfaceEnd_none hg.balanced, interfaceEnd_none hg'.balanced]
    exact .none

/-! ## Decisions are the same -/

/-- Nothing but a semicolon follows where nothing is kept. -/
theorem Ended.head {ts : Tokens} (h : Ended ts) : ∀ t ∈ ts.head?, t.token = .symbol .semi := by
  cases h <;> simp

/-- **The next token is of a kind in both streams or in neither**, and if it is, the same follows it. Kinds
of tokens that may begin what is skipped are left aside. -/
theorem KeptAlike.head_cases {m : Skippable} {ts ts' : Tokens} (h : KeptAlike m ts ts')
    (hm : m ≠ .declarations) {P : Token → Prop} (hs : ¬ P (.symbol .semi))
    (hb : m = .nothing ∨ ¬ P (.symbol .lbrace)) :
    (∃ t p p' r r', P t ∧ ts = ⟨t, p⟩ :: r ∧ ts' = ⟨t, p'⟩ :: r' ∧ KeptAlike (.behind t) r r') ∨
      (∀ t ∈ ts.head?, ¬ P t.token) ∧ ∀ t ∈ ts'.head?, ¬ P t.token := by
  cases h with
  | ended h h' => exact .inr ⟨fun t ht => by rwa [h.head t ht], fun t ht => by rwa [h'.head t ht]⟩
  | @keep _ t p p' r r' h =>
    by_cases ht : P t
    · exact .inl ⟨t, p, p', r, r', ht, rfl, rfl, h⟩
    · exact .inr ⟨by simpa using ht, by simpa using ht⟩
  | body hne _ _ _ _ =>
    have other := hb.resolve_left hne
    exact .inr ⟨by simpa using other, by simpa using other⟩
  | skip | last => exact absurd rfl hm

/-- Something that is not said of a semicolon holds of both next tokens or of none. -/
theorem head_alike {m : Skippable} {ts ts' : Tokens} (h : KeptAlike m ts ts') (hm : m ≠ .declarations)
    {f : Token → Bool} (hf : f (.symbol .semi) = false) :
    ts.head?.any (f ·.token) = ts'.head?.any (f ·.token) := by
  have ended : ∀ {us : Tokens}, Ended us → us.head?.any (f ·.token) = false := by
    rintro us (- | ⟨-, -, -⟩)
    · rfl
    · simpa using hf
  cases h with
  | ended h h' => rw [ended h, ended h']
  | keep _ => rfl
  | body _ _ _ _ _ => rfl
  | skip | last => exact absurd rfl hm

theorem groupEnd_eq (depth : Nat) (r : Tokens) :
    groupEnd depth r = (closeOffset depth r).map fun n => r.drop (n + 1) := by
  fun_induction closeOffset depth r with
  | case1 => rfl
  | case2 depth t r ho ih =>
    rw [groupEnd_counts.opening ho, ih]
    cases closeOffset (depth + 1) r <;> rfl
  | case3 t r _ hc => rw [groupEnd_end hc]; rfl
  | case4 t r _ hc depth ih =>
    rw [groupEnd_counts.closing hc, ih]
    cases closeOffset depth r <;> rfl
  | case5 depth t r ho hc ih =>
    rw [groupEnd_counts.plain (Bool.not_eq_true _ ▸ ho) (Bool.not_eq_true _ ▸ hc), ih]
    cases closeOffset depth r <;> rfl

theorem closeOffset_zero {r : Tokens} {n : Nat} (h : closeOffset 0 r = some n) :
    r.head?.any (·.token.isClosing) = decide (n = 0) := by
  cases r with
  | nil => cases h
  | cons t r =>
    rw [List.head?_cons, Option.any_some]
    cases ho : t.token.isOpening with
    | true =>
      rw [closeOffset_opening ho] at h
      obtain ⟨k, -, rfl⟩ := Option.map_eq_some_iff.1 h
      cases hc : t.token.isClosing with
      | true => simp [opening_of_closing hc] at ho
      | false => simp
    | false =>
      cases hc : t.token.isClosing with
      | true =>
        rw [closeOffset.eq_def] at h
        simp [ho, hc] at h
        simp [← h]
      | false =>
        rw [closeOffset_plain ho hc] at h
        obtain ⟨k, -, rfl⟩ := Option.map_eq_some_iff.1 h
        simp

/-- The decision on a square bracket, by the end of its group: the group is empty, or a type follows. -/
theorem beginsArray_eq (r : Tokens) :
    beginsArray r = (groupEnd 0 r).any fun r' =>
      r.head?.any (·.token.isClosing) || r'.head?.any (startsType ·.token) := by
  rw [groupEnd_eq, beginsArray]
  cases hn : closeOffset 0 r with
  | none => rfl
  | some n =>
    rw [Option.map_some, Option.any_some, closeOffset_zero hn, List.head?_drop]
    cases n with
    | zero => rfl
    | succ n => cases hx : r[n + 2]? <;> simp [hx]

/-- A square bracket begins an array in both streams or in none. -/
theorem beginsArray_alike {r r' : Tokens} (h : KeptAlike .bodies r r') :
    beginsArray r = beginsArray r' := by
  rw [beginsArray_eq, beginsArray_eq, head_alike h (by decide) rfl]
  have ends := groupEnd_alike h 0
  generalize groupEnd 0 r = x, groupEnd 0 r' = x' at ends ⊢
  cases ends with
  | none => rfl
  | some hr => rw [Option.any_some, Option.any_some, head_alike hr (by decide) rfl]

theorem entryForm_alike {r r' : Tokens} (h : KeptAlike .bodies r r') : entryForm r = entryForm r' := by
  have ended : ∀ {us : Tokens}, Ended us → entryForm us = .named := by
    rintro us (- | ⟨-, -, -⟩) <;> rfl
  cases h with
  | ended h h' => rw [ended h, ended h']
  | body _ _ _ _ _ => rfl
  | @keep _ t p p' r r' h =>
    cases t with
    | symbol s =>
      cases s with
      | lbrack =>
        rw [entryForm, entryForm, beginsArray_alike h]
      | _ => rfl
    | _ => rfl

/-- A field is embedded in both streams or in none, unless nothing is kept behind its name. -/
theorem isEmbedded_alike {r r' : Tokens} (h : KeptAlike .bodies r r') :
    (Ended r ∧ Ended r') ∨ isEmbedded r = isEmbedded r' := by
  cases h with
  | ended h h' => exact .inl ⟨h, h'⟩
  | body _ _ _ _ _ => exact .inr rfl
  | @keep _ t p p' r r' h =>
    refine .inr ?_
    cases t with
    | symbol s =>
      cases s with
      | lbrack => rw [isEmbedded, isEmbedded, beginsArray_alike h]
      | _ => rfl
    | _ => rfl

theorem opensTypeParams_alike {r r' : Tokens} (h : KeptAlike .bodies r r') :
    opensTypeParams r = opensTypeParams r' := by
  have ended : ∀ {us : Tokens}, Ended us → opensTypeParams us = false := by
    rintro us (- | ⟨-, -, -⟩) <;> rfl
  cases h with
  | ended h h' => rw [ended h, ended h']
  | body _ _ _ _ _ => rfl
  | @keep _ t p p' r r' h =>
    cases t with
    | ident name =>
      have last : ∀ {us : Tokens} (q : Position), Ended us →
          opensTypeParams (⟨.ident name, q⟩ :: us) = true := by
        rintro us q (- | ⟨-, -, -⟩) <;> rfl
      cases h with
      | ended h h' => rw [last _ h, last _ h']
      | body _ _ _ _ _ => rfl
      | keep _ => rfl
    | _ => rfl

end GoGlue.Parse
