import GoGlue.Proofs.Decl.Productions
import GoGlue.Proofs.Decl.Skipped

/-!
# Readers agree on streams that differ in skipped code

A reader agrees on two streams when it fails on both, or has the same value on both and leaves streams of
which the same is kept. Agreement is passed on by what readers are made of: by taking a token, by going on
with an answer, by lists and by bodies. So it holds of a reader as soon as its decisions are the same on both
streams, and these read no further than the next kept token or the end of a group.

* `Agree.andThen`, `expect_agree`, `identifier_agree`: agreement goes from a piece of a reader to the next.
* `skipGroup_agree`, `endOfStatement_agree`: groups and statements end in both streams or in none.
* `Rejects.agree`: a reader that wants no declaration fails where one is skipped.
* `moreItems_agree`, `moreLines_agree`: lists in brackets and bodies go on in both streams or end in both.
-/
namespace GoGlue.Parse

open Reply

/-! ## Answers -/

/-- Both answers fail, or both have values that are related, and leave streams of which the same is kept. -/
inductive Agree {α β : Type} (R : α → β → Prop) (m : Skippable) :
    Except SyntaxError (α × Tokens) → Except SyntaxError (β × Tokens) → Prop
  | fail (e e' : SyntaxError) : Agree R m (.error e) (.error e')
  | done {a : α} {b : β} {r r' : Tokens} (hab : R a b) (h : KeptAlike m r r') :
      Agree R m (.ok (a, r)) (.ok (b, r'))

/-- There is no value. -/
def Fails {α : Type} {ts : Tokens} (x : Reply α ts) : Prop := ∃ e, x.value = .error e

namespace Fails

variable {α β : Type} {ts : Tokens} {x : Reply α ts}

theorem map (h : Fails x) (f : α → β) : Fails (x.map f) := by
  rcases x with e | p
  · exact ⟨e, rfl⟩
  · obtain ⟨e, he⟩ := h
    cases he

theorem andThen (h : Fails x) (f : α → (r : Tokens) → r.length ≤ ts.length → Reply β r) :
    Fails (x.andThen f) := by
  rcases x with e | p
  · exact ⟨e, rfl⟩
  · obtain ⟨e, he⟩ := h
    cases he

end Fails

namespace Agree

variable {α β γ δ : Type} {R : α → β → Prop} {S : γ → δ → Prop} {m m' : Skippable} {ts ts' : Tokens}

theorem fails {x : Reply α ts} {y : Reply β ts'} (hx : Fails x) (hy : Fails y) :
    Agree R m x.value y.value := by
  obtain ⟨e, he⟩ := hx
  obtain ⟨e', he'⟩ := hy
  rw [he, he']
  exact .fail e e'

theorem map {x : Reply α ts} {y : Reply β ts'} {f : α → γ} {g : β → δ}
    (h : Agree R m x.value y.value) (hfg : ∀ a b, R a b → S (f a) (g b)) :
    Agree S m (x.map f).value (y.map g).value := by
  rcases x with e | ⟨⟨a, r⟩, hr⟩ <;> rcases y with e' | ⟨⟨b, s⟩, hs⟩
  · exact .fail e e'
  · cases h
  · cases h
  · cases h with
    | done hab h => exact .done (hfg a b hab) h

theorem weaken {R' : α → β → Prop} {x : Except SyntaxError (α × Tokens)}
    {y : Except SyntaxError (β × Tokens)} (h : Agree R m x y) (hR : ∀ a b, R a b → R' a b) :
    Agree R' m x y := by
  cases h with
  | fail e e' => exact .fail e e'
  | done hab h => exact .done (hR _ _ hab) h

theorem andThen {x : Reply α ts} {y : Reply β ts'}
    {f : α → (r : Tokens) → r.length ≤ ts.length → Reply γ r}
    {g : β → (r : Tokens) → r.length ≤ ts'.length → Reply δ r} (h : Agree R m x.value y.value)
    (hfg : ∀ a b r r' hr hr', R a b → KeptAlike m r r' →
      Agree S m' (f a r hr).value (g b r' hr').value) :
    Agree S m' (x.andThen f).value (y.andThen g).value := by
  rcases x with e | ⟨⟨a, r⟩, hr⟩ <;> rcases y with e' | ⟨⟨b, s⟩, hs⟩
  · exact .fail e e'
  · cases h
  · cases h
  · cases h with
    | done hab h =>
      show Agree S m' ((f a r hr).widen hr).value ((g b s hs).widen hs).value
      rw [value_widen, value_widen]
      exact hfg a b r s hr hs hab h

end Agree

section

variable {α β : Type} {R : α → β → Prop} {m m' : Skippable} {ts ts' : Tokens} {stop stop' : Position}

theorem fails_unexpected (what : Expected) : Fails (unexpected stop what ts : Reply α ts) := ⟨_, rfl⟩

theorem fails_expect {token : Token} {what : Expected}
    {next : (r : Tokens) → r.length < ts.length → Reply α r}
    (h : ∀ t ∈ ts.head?, t.token ≠ token) : Fails (expect stop token what ts next) := by
  cases ts with
  | nil => exact fails_unexpected what
  | cons t r =>
    rw [expect, if_neg (h t rfl)]
    exact fails_unexpected what

/-- A token is taken from both streams or from none. -/
theorem expect_agree {token : Token} {what : Expected}
    {next : (r : Tokens) → r.length < ts.length → Reply α r}
    {next' : (r : Tokens) → r.length < ts'.length → Reply β r}
    (h : KeptAlike m ts ts') (hm : m ≠ .declarations) (hs : token ≠ .symbol .semi)
    (hb : token = .symbol .lbrace → m = .nothing)
    (hnext : ∀ r r' hr hr', KeptAlike (.behind token) r r' →
      Agree R m' (next r hr).value (next' r' hr').value) :
    Agree R m' (expect stop token what ts next).value (expect stop' token what ts' next').value := by
  rcases h.head_cases hm (P := (· = token)) hs.symm (by grind) with
    ⟨t, p, p', r, r', rfl, rfl, rfl, hk⟩ | ⟨hts, hts'⟩
  · rw [value_expect, value_expect]
    exact hnext _ _ _ _ hk
  · exact .fails (fails_expect hts) (fails_expect hts')

theorem fails_identifier {what : Expected}
    {next : String → (r : Tokens) → r.length < ts.length → Reply α r}
    (h : ∀ t ∈ ts.head?, ¬ ∃ name, t.token = .ident name) : Fails (identifier stop what ts next) := by
  unfold identifier
  split
  · exact absurd ⟨_, rfl⟩ (h _ rfl)
  · exact fails_unexpected what

/-- A name is taken from both streams or from none. -/
theorem identifier_agree {what : Expected}
    {next : String → (r : Tokens) → r.length < ts.length → Reply α r}
    {next' : String → (r : Tokens) → r.length < ts'.length → Reply β r}
    (h : KeptAlike m ts ts') (hm : m ≠ .declarations)
    (hnext : ∀ name r r' hr hr', KeptAlike .bodies r r' →
      Agree R m' (next name r hr).value (next' name r' hr').value) :
    Agree R m' (identifier stop what ts next).value (identifier stop' what ts' next').value := by
  rcases h.head_cases hm (P := fun t => ∃ name, t = .ident name) (by simp) (.inr (by simp)) with
    ⟨_, p, p', r, r', ⟨name, rfl⟩, rfl, rfl, hk⟩ | ⟨hts, hts'⟩
  · rw [value_identifier, value_identifier]
    exact hnext _ _ _ _ _ hk
  · exact .fails (fails_identifier hts) (fails_identifier hts')

/-! ## Groups and ends of statements -/

theorem skipGroup_value (t : Located) (r : Tokens) :
    (skipGroup stop (t :: r)).value
      = ((groupEnd 0 r).map fun r' => ((), r')).elim (.error ⟨t.pos, .unclosedDelimiter⟩) .ok := by
  unfold skipGroup
  dsimp only
  split <;> simp_all [value]

/-- A bracketed group is taken from both streams. -/
theorem skipGroup_agree (h : KeptAlike .bodies ts ts') :
    Agree Eq .bodies (skipGroup stop ts).value (skipGroup stop' ts').value := by
  cases h with
  | ended h h' =>
    have none : ∀ {us : Tokens} {halt : Position}, Ended us → Fails (skipGroup halt us) := by
      rintro us halt (- | ⟨hg, p, pos⟩)
      · exact ⟨_, rfl⟩
      · exact ⟨_, by rw [skipGroup_value, groupEnd_counts.none hg.balanced]; rfl⟩
    exact .fails (none h) (none h')
  | @keep _ t p p' r r' h =>
    rw [skipGroup_value, skipGroup_value]
    have ends := groupEnd_alike h 0
    generalize groupEnd 0 r = x, groupEnd 0 r' = x' at ends ⊢
    cases ends with
    | none => exact .fail _ _
    | some hr => exact .done rfl hr
  | body _ hc hw hw' h =>
    rw [skipGroup_value, skipGroup_value, groupEnd_counts.balanced hw, groupEnd_counts.balanced hw', groupEnd_end hc,
      groupEnd_end hc]
    exact .done rfl h

theorem optionalGroup_agree {opening : Symbol} (hs : opening ≠ .semi) (h : KeptAlike .bodies ts ts') :
    Agree Eq .bodies (optionalGroup stop opening ts).value (optionalGroup stop' opening ts').value := by
  have step : ∀ {halt : Position} (t : Located) (r : Tokens),
      (optionalGroup halt opening (t :: r)).value
        = if t.token = .symbol opening then ((skipGroup halt (t :: r)).map fun _ => true).value
          else .ok (false, t :: r) := by
    intro halt t r
    rw [optionalGroup]
    split <;> rfl
  -- the decision is on a token that both streams have
  have same : ∀ {t : Token} {p p' : Position} {r r' : Tokens},
      KeptAlike .bodies (⟨t, p⟩ :: r) (⟨t, p'⟩ :: r') →
      Agree Eq .bodies (optionalGroup stop opening (⟨t, p⟩ :: r)).value
        (optionalGroup stop' opening (⟨t, p'⟩ :: r')).value := by
    intro t p p' r r' h
    rw [step, step]
    dsimp only
    split
    · exact (skipGroup_agree h).map fun _ _ _ => rfl
    · exact .done rfl h
  cases h with
  | ended h h' =>
    have none : ∀ {us : Tokens} {halt : Position}, Ended us →
        (optionalGroup halt opening us).value = .ok (false, us) := by
      rintro us halt (- | ⟨hg, p, pos⟩)
      · rfl
      · rw [step, if_neg (by simpa using hs.symm)]
    rw [none h, none h']
    exact .done rfl (.ended h h')
  | keep h => exact same (.keep h)
  | body hm hc hw hw' h => exact same (.body hm hc hw hw' h)

theorem endOfStatement_ended (stop : Position) (h : Ended ts) :
    ∃ g pos, LastGap g ∧ (endOfStatement stop ts).value = .ok ((), place pos g) := by
  cases h with
  | nil => exact ⟨[], fun _ => .start, .gap .nil, rfl⟩
  | @semi g hg p pos => exact ⟨g, pos, hg, rfl⟩

theorem fails_endOfStatement (hne : ts ≠ []) (h : ∀ t ∈ ts.head?, t.token ≠ .symbol .semi) :
    Fails (endOfStatement stop ts) := by
  unfold endOfStatement
  split
  · exact absurd rfl hne
  · exact absurd rfl (h _ rfl)
  · exact fails_unexpected _

/-- A statement ends in both streams or in none, and what may be skipped behind it are declarations. -/
theorem endOfStatement_agree (h : KeptAlike .bodies ts ts') :
    Agree Eq .declarations (endOfStatement stop ts).value (endOfStatement stop' ts').value := by
  cases h with
  | ended h h' =>
    obtain ⟨g, pos, hg, he⟩ := endOfStatement_ended stop h
    obtain ⟨g', pos', hg', he'⟩ := endOfStatement_ended stop' h'
    rw [he, he']
    exact .done rfl (.last hg hg')
  | @keep _ t p p' r r' h =>
    by_cases ht : t = .symbol .semi
    · subst ht
      exact .done rfl h
    · exact .fails (fails_endOfStatement (by simp) (by simpa using ht))
        (fails_endOfStatement (by simp) (by simpa using ht))
  | body =>
    exact .fails (fails_endOfStatement (by simp) (by simp)) (fails_endOfStatement (by simp) (by simp))

/-! ## Pieces that hold no types -/

theorem fieldTag_none (h : ∀ t ∈ ts.head?, ¬ ∃ tag, t.token = .string tag) :
    (fieldTag ts).value = .ok (none, ts) := by
  unfold fieldTag
  split
  · exact absurd ⟨_, rfl⟩ (h _ rfl)
  · rfl

theorem fieldTag_agree (h : KeptAlike .bodies ts ts') :
    Agree Eq .bodies (fieldTag ts).value (fieldTag ts').value := by
  rcases h.head_cases (by decide) (P := fun t => ∃ tag, t = .string tag) (by simp) (.inr (by simp)) with
    ⟨_, p, p', r, r', ⟨tag, rfl⟩, rfl, rfl, hk⟩ | ⟨hts, hts'⟩
  · exact .done rfl hk
  · rw [fieldTag_none hts, fieldTag_none hts']
    exact .done rfl h

theorem fieldNames_last {name : String} {p : Position} {r : Tokens}
    (h : ∀ t ∈ r.head?, t.token ≠ .symbol .comma) :
    (fieldNames stop (⟨.ident name, p⟩ :: r)).value = .ok ([name], r) := by
  rw [fieldNames, value_identifier]
  split
  · exact absurd rfl (h _ rfl)
  · rfl

theorem fieldNames_more {name : String} {p q : Position} {r : Tokens} :
    (fieldNames stop (⟨.ident name, p⟩ :: ⟨.symbol .comma, q⟩ :: r)).value
      = ((fieldNames stop r).map (name :: ·)).value := by
  rw [fieldNames, value_identifier]
  exact value_later _ _

theorem fieldNames_agree (h : KeptAlike .bodies ts ts') :
    Agree Eq .bodies (fieldNames stop ts).value (fieldNames stop' ts').value := by
  induction hn : ts.length using Nat.strongRecOn generalizing ts ts' with
  | _ n ih =>
    rcases h.head_cases (by decide) (P := fun t => ∃ name, t = .ident name) (by simp)
      (.inr (by simp)) with ⟨_, p, p', r, r', ⟨name, rfl⟩, rfl, rfl, hk⟩ | ⟨hts, hts'⟩
    · have hk : KeptAlike .bodies r r' := hk
      rcases hk.head_cases (by decide) (P := (· = .symbol .comma)) (by simp) (.inr (by simp)) with
        ⟨_, q, q', s, s', rfl, rfl, rfl, hn'⟩ | ⟨hr, hr'⟩
      · rw [fieldNames_more, fieldNames_more]
        have shorter : s.length < n := by simp at hn; omega
        exact (ih s.length shorter hn' rfl).map fun _ _ e => congrArg _ e
      · rw [fieldNames_last hr, fieldNames_last hr']
        exact .done rfl hk
    · rw [fieldNames, fieldNames]
      exact .fails (fails_identifier hts) (fails_identifier hts')

/-! ## Array lengths and interfaces -/

/-- Any length but a single number is none. -/
theorem arrayLength_none
    (h : ∀ text p q r, ts ≠ ⟨.number text, p⟩ :: ⟨.symbol .rbrack, q⟩ :: r) :
    (arrayLength stop ts).value
      = ((lengthEnd 0 ts).map fun r => (none, r)).elim (.error ⟨stop, .unterminatedLength⟩) .ok := by
  unfold arrayLength
  split
  · exact absurd rfl (h _ _ _ _)
  · split <;> simp_all [value]

theorem arrayLength_agree (h : KeptAlike .bodies ts ts') :
    Agree Eq .bodies (arrayLength stop ts).value (arrayLength stop' ts').value := by
  have other : (∀ text p q r, ts ≠ ⟨.number text, p⟩ :: ⟨.symbol .rbrack, q⟩ :: r) →
      (∀ text p q r, ts' ≠ ⟨.number text, p⟩ :: ⟨.symbol .rbrack, q⟩ :: r) →
      Agree Eq .bodies (arrayLength stop ts).value (arrayLength stop' ts').value := by
    intro hts hts'
    rw [arrayLength_none hts, arrayLength_none hts']
    have ends := lengthEnd_alike h 0
    generalize lengthEnd 0 ts = x, lengthEnd 0 ts' = x' at ends ⊢
    cases ends with
    | none => exact .fail _ _
    | some hr => exact .done rfl hr
  rcases h.head_cases (by decide) (P := fun t => ∃ text, t = .number text) (by simp) (.inr (by simp))
    with ⟨_, p, p', r, r', ⟨text, rfl⟩, rfl, rfl, hk⟩ | ⟨hts, hts'⟩
  · have hk : KeptAlike .bodies r r' := hk
    rcases hk.head_cases (by decide) (P := (· = .symbol .rbrack)) (by simp) (.inr (by simp)) with
      ⟨_, q, q', s, s', rfl, rfl, rfl, hn⟩ | ⟨hr, hr'⟩
    · exact .done rfl hn
    · exact other (by rintro _ _ _ _ ⟨⟩; exact hr _ rfl rfl) (by rintro _ _ _ _ ⟨⟩; exact hr' _ rfl rfl)
  · exact other (by rintro _ _ _ _ rfl; exact hts _ rfl ⟨_, rfl⟩)
      (by rintro _ _ _ _ rfl; exact hts' _ rfl ⟨_, rfl⟩)

theorem interfaceBody_agree (h : KeptAlike .bodies ts ts') :
    Agree Eq .bodies (interfaceBody stop ts).value (interfaceBody stop' ts').value := by
  have body : ∀ {halt : Position} (us : Tokens), (interfaceBody halt us).value
      = (interfaceEnd 0 true us).elim (.error ⟨halt, .unterminatedInterface⟩) .ok := by
    intro halt us
    unfold interfaceBody
    split <;> simp_all [value]
  rw [body, body]
  have ends := interfaceEnd_alike h 0 true
  generalize interfaceEnd 0 true ts = x, interfaceEnd 0 true ts' = x' at ends ⊢
  cases ends with
  | none => exact .fail _ _
  | some hr => exact .done hr.1 hr.2

/-! ## Readers that want no declaration -/

/-- A reader that passes over semicolons, and fails where a declaration stands or the stream ends. -/
structure Rejects (f : (ts : Tokens) → Reply α ts) : Prop where
  nil : Fails (f [])
  brace : ∀ p r, Fails (f (⟨.symbol .lbrace, p⟩ :: r))
  semi : ∀ p r, (f (⟨.symbol .semi, p⟩ :: r)).value = (f r).value
  keyword : ∀ k p r, startsValue k || startsDecl k → Fails (f (⟨.keyword k, p⟩ :: r))

namespace Rejects

variable {f : (ts : Tokens) → Reply α ts}

theorem gap (hf : Rejects f) {g : List Token} (hg : Gap g) {r : Tokens} (hr : Fails (f r))
    (pos : Nat → Position) : Fails (f (place pos g ++ r)) := by
  induction hg generalizing pos with
  | nil => exact hr
  | semi _ ih =>
    obtain ⟨e, he⟩ := ih fun i => pos (i + 1)
    exact ⟨e, by rw [place_cons, List.cons_append, hf.semi, he]⟩
  | value hk _ _ _ => exact hf.keyword _ _ _ (by simp [hk])

theorem last (hf : Rejects f) {g : List Token} (hg : LastGap g) (pos : Nat → Position) :
    Fails (f (place pos g)) := by
  cases hg with
  | gap hg =>
    have h := hf.gap hg hf.nil pos
    rwa [List.append_nil] at h
  | value hg hk hv =>
    rw [place_append]
    exact hf.gap hg (hf.keyword _ _ _ (by simp [hk])) pos

theorem ended (hf : Rejects f) (h : Ended ts) : Fails (f ts) := by
  cases h with
  | nil => exact hf.nil
  | semi hg p pos =>
    obtain ⟨e, he⟩ := hf.last hg pos
    exact ⟨e, by rw [hf.semi, he]⟩

/-- Such a reader fails on both streams, unless the next token is kept in both. -/
theorem agree {f' : (ts : Tokens) → Reply β ts} (hf : Rejects f) (hf' : Rejects f')
    (h : KeptAlike m ts ts')
    (keep : ∀ t p p' r r', ts = ⟨t, p⟩ :: r → ts' = ⟨t, p'⟩ :: r' → KeptAlike (.behind t) r r' →
      Agree R m' (f ts).value (f' ts').value) : Agree R m' (f ts).value (f' ts').value := by
  cases h with
  | ended h h' => exact .fails (hf.ended h) (hf'.ended h')
  | keep h => exact keep _ _ _ _ _ rfl rfl h
  | body => exact .fails (hf.brace _ _) (hf'.brace _ _)
  | skip hk hg hg' _ =>
    exact .fails (hf.gap hg (hf.keyword _ _ _ (by simp [hk])) _)
      (hf'.gap hg' (hf'.keyword _ _ _ (by simp [hk])) _)
  | last hg hg' => exact .fails (hf.last hg _) (hf'.last hg' _)

end Rejects

/-! ## Items of a list -/

/-- What follows an item of a list: a comma and more items, or the closing bracket. -/
def moreItems (stop : Position) (close : Symbol) (what : Expected)
    (more : (r : Tokens) → Reply (List α) r) (a : α) (ts : Tokens) : Reply (List α) ts :=
  match ts with
  | ⟨.symbol .comma, p⟩ :: r => ((more r).map (a :: ·)).later ⟨.symbol .comma, p⟩
  | ts => expect stop (.symbol close) what ts fun r _ => done [a] r

theorem moreItems_agree {close : Symbol} {what : Expected} {more more' : (r : Tokens) → Reply (List α) r}
    (a : α) (hs : close ≠ .semi) (hb : close ≠ .lbrace) (h : KeptAlike .bodies ts ts')
    (hmore : ∀ r r', r.length < ts.length → KeptAlike .bodies r r' →
      Agree Eq .bodies (more r).value (more' r').value) :
    Agree Eq .bodies (moreItems stop close what more a ts).value
      (moreItems stop' close what more' a ts').value := by
  rcases h.head_cases (by decide) (P := (· = .symbol .comma)) (by simp) (.inr (by simp)) with
    ⟨_, p, p', r, r', rfl, rfl, rfl, hk⟩ | ⟨hts, hts'⟩
  · rw [moreItems, moreItems, value_later, value_later]
    exact (hmore r r' (by simp) hk).map fun _ _ e => congrArg _ e
  · have closed : ∀ {us : Tokens} {halt : Position} {f : (r : Tokens) → Reply (List α) r},
        (∀ t ∈ us.head?, ¬ t.token = .symbol .comma) →
        moreItems halt close what f a us
          = expect halt (.symbol close) what us fun r _ => done [a] r := by
      intro us halt f hus
      unfold moreItems
      split
      · exact absurd rfl (hus _ rfl)
      · rfl
    rw [closed hts, closed hts']
    refine expect_agree h (by decide) (by simpa using hs) (fun e => absurd e (by simpa using hb))
      fun r r' _ _ hk => .done rfl ?_
    rwa [behind_symbol hs] at hk

/-- What follows an item of a body: the closing bracket, or a semicolon and more items. -/
def moreLines (stop : Position) (close : Symbol) (more : (r : Tokens) → Reply (List α) r) (a : α)
    (ts : Tokens) : Reply (List α) ts :=
  match ts with
  | [] => expect stop (.symbol .semi) .endOfStatement [] fun r _ => (more r).map (a :: ·)
  | t :: r =>
    if t.token = .symbol close then (done [a] r).later t
    else expect stop (.symbol .semi) .endOfStatement (t :: r) fun r _ => (more r).map (a :: ·)

section

variable {close : Symbol} {more : (r : Tokens) → Reply (List α) r} {a : α}
  {more' : (r : Tokens) → Reply (List β) r} {b : β}

theorem moreLines_semi (hs : close ≠ .semi) (p : Position) (r : Tokens) :
    (moreLines stop close more a (⟨.symbol .semi, p⟩ :: r)).value = ((more r).map (a :: ·)).value := by
  rw [moreLines, if_neg (by simpa using hs.symm), value_expect]

theorem fails_moreLines {t : Located} {r : Tokens} (hs : t.token ≠ .symbol .semi)
    (hc : t.token ≠ .symbol close) : Fails (moreLines stop close more a (t :: r)) := by
  rw [moreLines, if_neg hc]
  exact fails_expect (by simpa using hs)

/-- A body does not end where nothing is kept. -/
theorem Rejects.moreLines (hf : Rejects more) (hs : close ≠ .semi) (h : Ended ts) :
    Fails (moreLines stop close more a ts) := by
  cases h with
  | nil => exact fails_unexpected _
  | semi hg p pos =>
    rw [Fails, moreLines_semi hs]
    exact (hf.last hg pos).map _

theorem moreLines_agree {S : List α → List β → Prop} (hf : Rejects more) (hf' : Rejects more')
    (hs : close ≠ .semi) (hb : close ≠ .lbrace) (h : KeptAlike .bodies ts ts') (hab : S [a] [b])
    (hmore : ∀ r r', r.length < ts.length → KeptAlike .declarations r r' →
      Agree (fun as bs => S (a :: as) (b :: bs)) .bodies (more r).value (more' r').value) :
    Agree S .bodies (moreLines stop close more a ts).value (moreLines stop' close more' b ts').value := by
  cases h with
  | ended h h' => exact .fails (hf.moreLines hs h) (hf'.moreLines hs h')
  | @keep _ t p p' r r' h =>
    by_cases hc : t = .symbol close
    · subst hc
      rw [Parse.moreLines, Parse.moreLines, if_pos rfl, if_pos rfl]
      exact .done hab (behind_symbol hs ▸ h)
    by_cases ht : t = .symbol .semi
    · subst ht
      rw [moreLines_semi hs, moreLines_semi hs]
      exact (hmore r r' (by simp) h).map fun _ _ e => e
    · exact .fails (fails_moreLines ht hc) (fails_moreLines ht hc)
  | body =>
    exact .fails (fails_moreLines (by simp) (by simpa using hb.symm))
      (fails_moreLines (by simp) (by simpa using hb.symm))

end

end

end GoGlue.Parse
