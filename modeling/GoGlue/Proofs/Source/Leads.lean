import GoGlue.Proofs.Comment.Groups
import GoGlue.Proofs.Source.Semicolons

/-!
# Comments and the tokens around them

Comments are set aside from the tokens, and what is kept of their place is the lines they stand on, and whether a
token begins before them on the first of these. For the comments of a group that tells which tokens stand between
them, but for two kinds: tokens behind a comment on the line where it ends, and tokens in front of the documented
one on its line. If there are none of them, the group stands behind all tokens that precede the documented one.

* `tokensFrom_ordered`: the tokens stand in the order of their positions.
* `tokensFrom_origin`: a token is written there, or inserted on the line where one ends.
* `commentsFrom_setAside`: what is kept of the comments.
* `between`, `Kept.parted`: what a token between comments, or behind a group, means for the lines.
* `read_led`: the comments of a doc text and the tokens in front of the documented one.
-/
namespace GoGlue

theorem Position.Before.of_not {p q r : Position} (h : p.Before q) (h' : ¬ r.Before q) : p.Before r := by
  unfold Before at *
  omega

namespace Lexeme

/-- What is set aside for doc texts. -/
def IsComment (l : Lexeme) : Prop := l.cls = .lineComment ∨ l.cls = .blockComment

instance : DecidablePred IsComment := fun _ => inferInstanceAs (Decidable (_ ∨ _))

theorem IsComment.token? {l : Lexeme} (h : l.IsComment) : l.token? = none := by
  unfold Lexeme.token?
  rcases h with h | h <;> rw [h]

theorem line_le_endLine (l : Lexeme) : l.pos.line ≤ l.endLine := (Position.line_after l.pos l.text).1

/-- What stands between tokens and does not end the line is on one line. -/
theorem endLine_eq_line {l : Lexeme} (hs : l.Spelled) (hg : l.IsGap) (hb : ¬ l.BreaksLine) :
    l.endLine = l.pos.line := by
  have plain : ¬ ∃ c ∈ l.text, endsLine c = true := by
    rintro ⟨c, hc, he⟩
    rcases hg with h | h | h
    · exact hb (.inl h)
    · rw [Spelled, h] at hs
      rw [hs.2 c hc] at he
      cases he
    · exact hb (.inr ⟨h, c, hc, he⟩)
  obtain ⟨le, lt, -⟩ := Position.line_after l.pos l.text
  exact Nat.le_antisymm (Nat.not_lt.1 (mt lt.1 plain)) le

/-- Of two lexemes of a source, one stands in front of the other. -/
theorem Tiles.apart {pos stop : Position} {text : List Char} {ls : List Lexeme} (h : Tiles pos text ls stop)
    {l m : Lexeme} (hl : l ∈ ls) (hm : m ∈ ls) :
    l = m ∨ (l.pos.Before m.pos ∧ l.endLine ≤ m.pos.line) ∨ (m.pos.Before l.pos ∧ m.endLine ≤ l.pos.line) := by
  induction h with
  | done => cases hl
  | blank hc rest ih => exact ih hl hm
  | lexeme hne hl' rest ih =>
    have order := (List.pairwise_cons.1 (Tiles.lexeme hne hl' rest).ordered).1
    rcases List.mem_cons.1 hl with rfl | later
    · exact (List.mem_cons.1 hm).imp Eq.symm fun hm => .inl (order m hm)
    · rcases List.mem_cons.1 hm with rfl | hm
      · exact .inr (.inr (order l later))
      · exact ih later hm

end Lexeme

namespace Source

open Lexeme Comment

variable {pos stop : Position} {text : List Char} {ls : List Lexeme}

/-! ## Places of tokens -/

/-- A lexeme gives at most one token, which stands where the lexeme does. -/
theorem tokensFrom_cons (stop : Position) (due : Bool) (l : Lexeme) (ls : List Lexeme) :
    ∃ front due', tokensFrom stop due (l :: ls) = front ++ tokensFrom stop due' ls ∧
      (front = [] ∨ ∃ t, front = [⟨t, l.pos⟩]) := by
  rw [tokensFrom]
  split
  · next t _ => exact ⟨[⟨t, l.pos⟩], t.endsStatement, rfl, .inr ⟨t, rfl⟩⟩
  · split
    · refine ⟨dueSemi due l.pos, false, rfl, ?_⟩
      cases due
      · exact .inl rfl
      · exact .inr ⟨.symbol .semi, rfl⟩
    · exact ⟨[], due, rfl, .inl rfl⟩

theorem mem_tokensFrom_cons {due : Bool} {l : Lexeme} {σ : Located} (h : σ ∈ tokensFrom stop due (l :: ls)) :
    σ.pos = l.pos ∨ ∃ due', σ ∈ tokensFrom stop due' ls := by
  obtain ⟨front, due', tokens, hf⟩ := tokensFrom_cons stop due l ls
  rw [tokens, List.mem_append] at h
  rcases h with h | h
  · rcases hf with rfl | ⟨t, rfl⟩
    · cases h
    · exact .inl (by rw [List.mem_singleton.1 h])
  · exact .inr ⟨due', h⟩

theorem mem_dueSemi {due : Bool} {σ : Located} (h : σ ∈ dueSemi due pos) : due = true ∧ σ.pos = pos := by
  cases due with
  | false => cases h
  | true => exact ⟨rfl, by rw [List.mem_singleton.1 h]⟩

/-- No token stands in front of the text it is read from. -/
theorem tokensFrom_within (h : Tiles pos text ls stop) {due : Bool} {σ : Located}
    (hσ : σ ∈ tokensFrom stop due ls) : ¬ σ.pos.Before pos := by
  induction h generalizing due with
  | done stop => exact (mem_dueSemi hσ).2 ▸ Position.Before.irrefl stop
  | @blank pos stop c s ls hc rest ih =>
    have moved : pos.Before ⟨pos.line, pos.column + 1⟩ := .inr ⟨rfl, Nat.lt_succ_self _⟩
    exact fun before => ih hσ (before.trans moved)
  | @lexeme stop l s ls hne hl rest ih =>
    rcases mem_tokensFrom_cons hσ with at_ | ⟨due', later⟩
    · exact at_ ▸ Position.Before.irrefl l.pos
    · exact fun before => ih later (before.trans (Position.before_after hne l.pos))

/-- **The tokens stand in the order of their positions.** -/
theorem tokensFrom_ordered (h : Tiles pos text ls stop) (due : Bool) :
    (tokensFrom stop due ls).Pairwise fun a b => a.pos.Before b.pos := by
  induction h generalizing due with
  | done stop => cases due <;> simp [tokensFrom, dueSemi]
  | blank hc rest ih => exact ih due
  | @lexeme stop l s ls hne hl rest ih =>
    obtain ⟨front, due', tokens, hf⟩ := tokensFrom_cons stop due l ls
    rw [tokens]
    rcases hf with rfl | ⟨t, rfl⟩
    · exact ih due'
    · exact List.pairwise_cons.2
        ⟨fun σ hσ => (Position.before_after hne l.pos).of_not (tokensFrom_within rest hσ), ih due'⟩

/-- What stands in front of a token ends in front of it. -/
theorem endLine_le_line (h : Tiles pos text ls stop) {due : Bool} {l : Lexeme} (hl : l ∈ ls) {σ : Located}
    (hσ : σ ∈ tokensFrom stop due ls) (front : l.pos.Before σ.pos) : l.endLine ≤ σ.pos.line := by
  induction h generalizing due with
  | done => cases hl
  | blank hc rest ih => exact ih hl hσ
  | @lexeme stop m s ls hne hm rest ih =>
    rcases mem_tokensFrom_cons hσ with at_ | ⟨due', later⟩
    · rw [at_] at front
      rcases List.mem_cons.1 hl with rfl | hl
      · exact absurd front (Position.Before.irrefl _)
      · exact absurd (front.trans ((List.pairwise_cons.1 (Tiles.lexeme hne hm rest).ordered).1 l hl).1)
          (Position.Before.irrefl _)
    · rcases List.mem_cons.1 hl with rfl | hl
      · have := tokensFrom_within rest later
        unfold Position.Before at this
        unfold Lexeme.endLine
        omega
      · exact ih hl later

/-- A written token is among the tokens. -/
theorem token_mem_tokensFrom {l : Lexeme} (hl : l ∈ ls) {t : Token} (ht : l.token? = some t) (due : Bool) :
    ⟨t, l.pos⟩ ∈ tokensFrom stop due ls := by
  induction ls generalizing due with
  | nil => cases hl
  | cons m ls ih =>
    rcases List.mem_cons.1 hl with rfl | hl
    · rw [tokensFrom, ht]
      exact List.mem_cons_self ..
    · obtain ⟨front, due', tokens, -⟩ := tokensFrom_cons stop due m ls
      rw [tokens]
      exact List.mem_append_right _ (ih hl due')

/-- The token is written in the source. -/
def Written (ls : List Lexeme) (σ : Located) : Prop := ∃ t ∈ ls, t.token? = some σ.token ∧ t.pos = σ.pos

/-- A token stands in front and ends on the same line. -/
def Follows (ls : List Lexeme) (σ : Located) : Prop :=
  ∃ t ∈ ls, t.token?.isSome ∧ t.pos.Before σ.pos ∧ t.endLine = σ.pos.line

/-- **Where tokens come from.** A token is written there, or it is a semicolon that is inserted behind a token, on
the line where this ends. The token behind which a semicolon was due from the start is not among the lexemes. -/
theorem tokensFrom_origin (h : Tiles pos text ls stop) {due : Bool} {σ : Located}
    (hσ : σ ∈ tokensFrom stop due ls) :
    Written ls σ ∨ Follows ls σ ∨ (due = true ∧ σ.pos.line = pos.line) := by
  induction h generalizing due with
  | done stop =>
    obtain ⟨hd, hp⟩ := mem_dueSemi hσ
    exact .inr (.inr ⟨hd, by rw [hp]⟩)
  | blank hc rest ih => exact ih hσ
  | @lexeme stop l s ls hne hl rest ih =>
    -- A token of the lexemes behind `l` keeps its origin, unless its semicolon was due from `l` on.
    have lift : ∀ {due'}, σ ∈ tokensFrom stop due' ls →
        (due' = true → σ.pos.line = l.endLine →
          Follows (l :: ls) σ ∨ (due = true ∧ σ.pos.line = l.pos.line)) →
        Written (l :: ls) σ ∨ Follows (l :: ls) σ ∨ (due = true ∧ σ.pos.line = l.pos.line) := by
      intro due' later carried
      rcases ih later with ⟨t, ht, written⟩ | ⟨t, ht, inserted⟩ | ⟨hd, hp⟩
      · exact .inl ⟨t, List.mem_cons_of_mem l ht, written⟩
      · exact .inr (.inl ⟨t, List.mem_cons_of_mem l ht, inserted⟩)
      · exact .inr (carried hd hp)
    rw [tokensFrom] at hσ
    split at hσ
    · next t ht =>
      rcases List.mem_cons.1 hσ with rfl | later
      · exact .inl ⟨l, List.mem_cons_self .., ht, rfl⟩
      · refine lift later fun _ hp => .inl ⟨l, List.mem_cons_self .., by rw [ht]; rfl, ?_, hp.symm⟩
        exact (Position.before_after hne l.pos).of_not (tokensFrom_within rest later)
    · next ht =>
      split at hσ
      · rcases List.mem_append.1 hσ with semi | later
        · obtain ⟨hd, hp⟩ := mem_dueSemi semi
          exact .inr (.inr ⟨hd, by rw [hp]⟩)
        · exact lift later fun h => by cases h
      · next hb =>
        have line := endLine_eq_line hl ((token?_eq_none hne).1 ht) (mt (breaks_iff l).2 hb)
        exact lift hσ fun hd hp => .inr ⟨hd, hp.trans line⟩

/-! ## Comments -/

/-- What is kept of a comment among the lexemes `ls`. -/
structure SetAside (ls : List Lexeme) (l : Lexeme) (c : Comment) : Prop where
  text : c.text = String.ofList l.text
  line : c.line = l.pos.line
  endLine : c.endLine = l.endLine
  plain : c.trailing = false → ∀ t ∈ ls, t.token?.isSome → t.pos.Before l.pos → t.pos.line < l.pos.line

/-- The comments of a stream behind a token on the given line. -/
theorem commentsFrom_behind (h : Tiles pos text ls stop) {line : Nat} (hline : line ≤ pos.line) :
    List.Forall₂ (fun l c => SetAside ls l c ∧ (c.trailing = false → line < l.pos.line))
      (ls.filter IsComment) (commentsFrom line ls) := by
  induction h generalizing line with
  | done => exact .nil
  | blank hc rest ih => exact ih hline
  | @lexeme stop l s ls hne hl rest ih =>
    have below := line_le_endLine l
    have widen : ∀ {line' m c}, (l.token?.isSome → c.trailing = false → l.pos.line < m.pos.line) →
        SetAside ls m c ∧ (c.trailing = false → line' < m.pos.line) → SetAside (l :: ls) m c := by
      rintro line' m c front ⟨⟨ht, hl, he, plain⟩, -⟩
      refine ⟨ht, hl, he, fun hc => List.forall_mem_cons.2 ⟨fun hs _ => front hs hc, plain hc⟩⟩
    cases ht : l.token? with
    | some t =>
      have no : ¬ l.IsComment := fun h => by simp [h.token?] at ht
      rw [commentsFrom, ht, List.filter_cons_of_neg (by simpa using no)]
      refine (ih below).imp fun m c hm => ⟨widen (fun _ => hm.2) hm, fun hc => ?_⟩
      exact Nat.lt_of_le_of_lt hline (hm.2 hc)
    | none =>
      have later := (ih (Nat.le_trans hline below)).imp fun m c hm =>
        (⟨widen (by simp [ht]) hm, hm.2⟩ : SetAside (l :: ls) m c ∧ (c.trailing = false → line < m.pos.line))
      rw [commentsFrom, ht]
      dsimp only
      by_cases hn : l.cls = .newline
      · rw [if_pos hn, List.filter_cons_of_neg (by simp [IsComment, hn])]
        exact later
      · have comment : l.IsComment := ((token?_eq_none hne).1 ht).resolve_left hn
        rw [if_neg hn, List.filter_cons_of_pos (by simpa using comment)]
        refine .cons ⟨⟨rfl, rfl, rfl, fun _ t hts hs before => ?_⟩, fun hc => ?_⟩ later
        · rcases List.mem_cons.1 hts with rfl | hts
          · simp [ht] at hs
          · exact absurd (before.trans ((List.pairwise_cons.1 (Tiles.lexeme hne hl rest).ordered).1 t hts).1)
              (Position.Before.irrefl _)
        · have : line ≠ l.pos.line := by simpa using hc
          omega

/-- **What is kept of the comments.** -/
theorem commentsFrom_setAside (h : Tiles .start text ls stop) :
    List.Forall₂ (SetAside ls) (ls.filter IsComment) (commentsFrom 0 ls) :=
  (commentsFrom_behind h (Nat.zero_le _)).imp fun _ _ h => h.1

/-! ## Groups of comments -/

/-- What is related to a stretch of a list is a stretch itself. -/
theorem exists_stretch {α β : Type} {R : α → β → Prop} {as : List α} {bs part : List β} (h : List.Forall₂ R as bs)
    (hp : part <:+: bs) : ∃ part', part' <:+: as ∧ List.Forall₂ R part' part := by
  obtain ⟨front, back, rfl⟩ := hp
  rw [List.append_assoc] at h
  have behind := List.forall₂_drop_append as front _ h
  refine ⟨(as.drop front.length).take part.length, ?_, List.forall₂_take_append _ part back behind⟩
  exact (List.take_prefix _ _).isInfix.trans (List.drop_suffix _ _).isInfix

/-- If a token stands between two comments of a group, then one stands behind the first comment on the line where
this ends. -/
theorem between (tiles : Tiles pos text ls stop) {g n : Lexeme} (hg : g ∈ ls ∧ g.IsComment)
    (hn : n ∈ ls ∧ n.IsComment) (close : n.pos.line ≤ g.endLine + 1)
    (plain : ∀ t ∈ ls, t.token?.isSome → t.pos.Before n.pos → t.pos.line < n.pos.line) {σ : Located}
    (hσ : σ ∈ tokensFrom stop false ls) (behind : g.pos.Before σ.pos) (upto : ¬ n.pos.Before σ.pos) :
    ∃ τ ∈ tokensFrom stop false ls, g.pos.Before τ.pos ∧ ¬ σ.pos.Before τ.pos ∧ τ.pos.line = g.endLine := by
  have below := endLine_le_line tiles hg.1 hσ behind
  have above : σ.pos.line ≤ n.pos.line := by
    unfold Position.Before at upto
    omega
  by_cases same : σ.pos.line = g.endLine
  · exact ⟨σ, hσ, behind, Position.Before.irrefl _, same⟩
  have other : ∀ {t : Lexeme}, t.token?.isSome → ∀ {m : Lexeme}, m.IsComment → t ≠ m := by
    rintro t ht m hm rfl
    simp [hm.token?] at ht
  -- On the line of the second comment it can only be inserted, behind a token that begins where the first one ends.
  rcases tokensFrom_origin tiles hσ with ⟨t, hts, ht, at_⟩ | ⟨t, hts, ht, before, ends⟩ | ⟨due, -⟩
  · have ht : t.token?.isSome := by rw [ht]; rfl
    rcases tiles.apart hts hn.1 with rfl | ⟨tn, -⟩ | ⟨nt, -⟩
    · exact absurd rfl (other ht hn.2)
    · have := plain t hts ht tn
      rw [at_] at this
      omega
    · exact absurd (at_ ▸ nt) upto
  · have tn : t.pos.Before n.pos := before.of_not upto
    have line := plain t hts ht tn
    rcases tiles.apart hts hg.1 with rfl | ⟨-, le⟩ | ⟨gt, le⟩
    · exact absurd rfl (other ht hg.2)
    · have := line_le_endLine g
      omega
    · obtain ⟨k, hk⟩ := Option.isSome_iff_exists.1 ht
      refine ⟨⟨k, t.pos⟩, token_mem_tokensFrom hts hk false, gt, fun h => ?_, ?_⟩
      · exact Position.Before.irrefl _ (h.trans before)
      · show t.pos.line = g.endLine
        omega
  · cases due

/-- A token on the line of the documented one, or behind a comment of the group on the line where this ends. -/
def Parts (group : List Lexeme) (d σ : Position) : Prop :=
  σ.line = d.line ∨ ∃ g ∈ group, g.pos.Before σ ∧ σ.line = g.endLine

theorem Parts.cons {group : List Lexeme} {d σ : Position} (h : Parts group d σ) (g : Lexeme) :
    Parts (g :: group) d σ :=
  h.imp_right fun ⟨m, hm, rest⟩ => ⟨m, List.mem_cons_of_mem g hm, rest⟩

/-- The comments of a group, in the source and as they are kept. -/
structure Kept (ls : List Lexeme) (line : Nat) (group : List Lexeme) (cs : List Comment) : Prop where
  among : group <:+: ls.filter IsComment
  aside : List.Forall₂ (SetAside ls) group cs
  grouped : Grouped line cs

namespace Kept

variable {line : Nat} {g : Lexeme} {group : List Lexeme} {c : Comment} {cs : List Comment}

theorem tail (h : Kept ls line (g :: group) (c :: cs)) : Kept ls line group cs where
  among := (List.suffix_cons g group).isInfix.trans h.among
  aside := (List.forall₂_cons.1 h.aside).2
  grouped :=
    { plain := (List.forall_mem_cons.1 h.grouped.plain).2
      close := (List.isChain_cons.1 h.grouped.close).2
      above := fun d hd => h.grouped.above d (by
        cases cs with
        | nil => cases hd
        | cons e cs => rwa [List.getLast?_cons_cons]) }

theorem mem (h : Kept ls line group cs) (hg : g ∈ group) : g ∈ ls ∧ g.IsComment := by
  simpa using h.among.subset hg

/-- A comment is followed by the next of the group at the latest on the line below, or by the documented line. -/
theorem next (tiles : Tiles pos text ls stop) (h : Kept ls line (g :: group) (c :: cs)) :
    (group = [] ∧ g.endLine + 1 = line) ∨
      ∃ m ∈ group, g.pos.Before m.pos ∧ g.endLine ≤ m.pos.line ∧ m.pos.line ≤ g.endLine + 1 ∧
        ∀ t ∈ ls, t.token?.isSome → t.pos.Before m.pos → t.pos.line < m.pos.line := by
  obtain ⟨first, rest⟩ := List.forall₂_cons.1 h.aside
  cases rest with
  | nil => exact .inl ⟨rfl, first.endLine ▸ h.grouped.above c rfl⟩
  | @cons m d group cs second rest =>
    have order := (List.pairwise_cons.1
      (tiles.ordered.sublist (h.among.sublist.trans List.filter_sublist))).1 m (List.mem_cons_self ..)
    have close := (List.isChain_cons_cons.1 h.grouped.close).1
    rw [first.endLine, second.line] at close
    have plain : d.trailing = false := h.grouped.plain d (by simp)
    exact .inr ⟨m, List.mem_cons_self .., order.1, order.2, close, second.plain plain⟩

/-- The comments end above the documented line. -/
theorem above (tiles : Tiles pos text ls stop) (h : Kept ls line group cs) (hg : g ∈ group) :
    g.endLine < line := by
  induction group generalizing cs g with
  | nil => cases hg
  | cons m group ih =>
    cases cs with
    | nil => cases h.aside
    | cons c cs =>
      rcases List.mem_cons.1 hg with rfl | hg
      · rcases h.next tiles with ⟨-, last⟩ | ⟨m, hm, -, le, -⟩
        · omega
        · have := ih h.tail hm
          have := line_le_endLine m
          omega
      · exact ih h.tail hg

/-- **What stands between a comment and the documented token.** If any token does, then one of the two kinds that
the lines of comments do not tell of. -/
theorem parted (tiles : Tiles pos text ls stop) {d : Position} (h : Kept ls d.line group cs) (hg : g ∈ group)
    {σ : Located} (hσ : σ ∈ tokensFrom stop false ls) (behind : g.pos.Before σ.pos) (front : σ.pos.Before d) :
    ∃ τ ∈ tokensFrom stop false ls, g.pos.Before τ.pos ∧ ¬ σ.pos.Before τ.pos ∧ Parts group d τ.pos := by
  induction group generalizing cs g with
  | nil => cases hg
  | cons m group ih =>
    cases cs with
    | nil => cases h.aside
    | cons c cs =>
      -- Behind a later comment of the group, the group from there on gives the token.
      have later : ∀ n ∈ group, n.pos.Before σ.pos → ∃ τ ∈ tokensFrom stop false ls, n.pos.Before τ.pos ∧
          ¬ σ.pos.Before τ.pos ∧ Parts (m :: group) d τ.pos := fun n hn hnσ =>
        have ⟨τ, hτ, after, upto, parts⟩ := ih h.tail hn hnσ
        ⟨τ, hτ, after, upto, parts.cons m⟩
      rcases List.mem_cons.1 hg with rfl | hg
      swap
      · exact later g hg behind
      have first := h.mem (List.mem_cons_self ..)
      rcases h.next tiles with ⟨-, last⟩ | ⟨n, hn, gn, -, close, plain⟩
      · have below := endLine_le_line tiles first.1 hσ behind
        have above := front.line_le
        refine ⟨σ, hσ, behind, Position.Before.irrefl _, ?_⟩
        by_cases same : σ.pos.line = g.endLine
        · exact .inr ⟨g, List.mem_cons_self .., behind, same⟩
        · exact .inl (by omega)
      · by_cases nσ : n.pos.Before σ.pos
        · obtain ⟨τ, hτ, after, rest⟩ := later n hn nσ
          exact ⟨τ, hτ, gn.trans after, rest⟩
        · have second := h.mem (List.mem_cons_of_mem g hn)
          obtain ⟨τ, hτ, after, upto, same⟩ := between tiles first second close plain hσ behind nσ
          exact ⟨τ, hτ, after, upto, .inr ⟨g, List.mem_cons_self .., after, same⟩⟩

end Kept

/-- The comments of the doc text at `d`, behind the tokens `pre`. They end above the line of `d`, and each stands
behind all of `pre`, unless one of these stands behind a comment of the group on the line where it ends, or on the
line of `d`. -/
def Led (ls : List Lexeme) (comments : List Comment) (pre : List Located) (d : Position) : Prop :=
  ∃ group, group <:+: ls.filter IsComment ∧
    List.Forall₂ (SetAside ls) group (docGroup comments d.line) ∧
    ∀ g ∈ group, g.endLine < d.line ∧
      ((∀ σ ∈ pre, ¬ g.pos.Before σ.pos) ∨ ∃ τ ∈ pre, g.pos.Before τ.pos ∧ Parts group d τ.pos)

/-- **The comments of a doc text and the tokens in front of the documented one.** -/
theorem read_led {text : String} {s : Source} (h : read text = .ok s) :
    ∃ ls, lexemesFrom .start text.toList = .ok (ls, s.stop) ∧
      ∀ pre d post, s.tokens = pre ++ d :: post → Led ls s.comments pre d.pos := by
  obtain ⟨ls, cut, tokens, comments⟩ := read_eq h
  have tiles := lexemesFrom_tiles cut
  refine ⟨ls, cut, fun pre d post at_ => ?_⟩
  have order := at_ ▸ tokens ▸ tokensFrom_ordered tiles false
  obtain ⟨-, later, front⟩ := List.pairwise_append.1 order
  obtain ⟨grouped, part⟩ := docGroup_grouped s.comments d.pos.line
  obtain ⟨group, among, aside⟩ := exists_stretch (comments ▸ commentsFrom_setAside tiles) part
  have kept : Kept ls d.pos.line group (docGroup s.comments d.pos.line) := ⟨among, aside, grouped⟩
  refine ⟨group, kept.among, kept.aside, fun g hg => ⟨kept.above tiles hg, ?_⟩⟩
  refine or_iff_not_imp_left.2 fun some => ?_
  push Not at some
  obtain ⟨σ, hσ, behind⟩ := some
  have before : σ.pos.Before d.pos := front σ hσ d (List.mem_cons_self ..)
  have mem : σ ∈ tokensFrom s.stop false ls := by
    rw [← tokens, at_]
    exact List.mem_append_left _ hσ
  obtain ⟨τ, hτ, after, upto, parts⟩ := kept.parted tiles hg mem behind before
  refine ⟨τ, ?_, after, parts⟩
  rw [← tokens, at_] at hτ
  have early : τ.pos.Before d.pos := by
    unfold Position.Before at *
    omega
  rcases List.mem_append.1 hτ with hτ | hτ
  · exact hτ
  · rcases List.mem_cons.1 hτ with rfl | hτ
    · exact absurd early (Position.Before.irrefl _)
    · exact absurd (early.trans ((List.pairwise_cons.1 later).1 τ hτ)) (Position.Before.irrefl _)

end Source

end GoGlue
