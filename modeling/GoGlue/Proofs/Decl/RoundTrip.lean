import Mathlib.Data.List.Basic
import GoGlue.Proofs.Decl.Productions

/-!
# Written types are read back

Reading the tokens of a type gives the type and leaves what follows it, whatever follows, as long as it
ends a type. The induction is on the type; lists of parameters, arguments and fields are read entry by
entry from what is known of their types.

* `groupParameters_entries`: the entries of a parameter list are grouped into its fields again.
* `reads_type`: every printable type is read back from its tokens.
-/
namespace GoGlue

/-! ## The entries of a parameter list -/

namespace Field

open Parse

/-- An unnamed parameter: a name alone cannot be told from a type. -/
def unnamedEntry : TypeExpr → Entry
  | .ident name => .bare name
  | t => .type t

/-- The names of a parameter, of which the last one has the type. -/
def namedEntries (type : TypeExpr) : List String → List Entry
  | [] => []
  | [name] => [.named name type]
  | name :: next :: names => .bare name :: namedEntries type (next :: names)

/-- The entries that a parameter is written as. -/
def entries : Field → List Entry
  | mk [] type _ => [unnamedEntry type]
  | mk (name :: names) type _ => namedEntries type (name :: names)

theorem entries_unnamed {f : Field} (h : f.names = []) : f.entries = [unnamedEntry f.type] := by
  obtain ⟨names, type, tag⟩ := f
  obtain rfl : names = [] := h
  rfl

theorem entries_named {f : Field} (h : f.names ≠ []) : f.entries = namedEntries f.type f.names := by
  obtain ⟨names, type, tag⟩ := f
  cases names with
  | nil => exact absurd rfl h
  | cons name names => rfl

theorem eq_untagged {f : Field} (h : f.tag = none) : f = mk f.names f.type none := by
  obtain ⟨names, type, tag⟩ := f
  obtain rfl : tag = none := h
  rfl

end Field

namespace Parse

open Reply

variable {stop : Position}

theorem groupNamed_namedEntries (type : TypeExpr) {names : List String} (hne : names ≠ [])
    (pending : List String) (rest : List Entry) :
    groupNamed pending (Field.namedEntries type names ++ rest)
      = (groupNamed [] rest).map (Field.mk (pending ++ names) type none :: ·) := by
  induction names generalizing pending with
  | nil => exact absurd rfl hne
  | cons name names ih =>
    cases names with
    | nil => rfl
    | cons next names =>
      show groupNamed (pending ++ [name]) (Field.namedEntries type (next :: names) ++ rest) = _
      rw [ih (by simp), List.append_assoc, List.singleton_append]

theorem any_isNamed_namedEntries (type : TypeExpr) {names : List String} (hne : names ≠ []) :
    (Field.namedEntries type names).any Entry.isNamed = true := by
  induction names with
  | nil => exact absurd rfl hne
  | cons name names ih =>
    cases names with
    | nil => rfl
    | cons next names =>
      show (false || (Field.namedEntries type (next :: names)).any Entry.isNamed) = true
      rw [ih (by simp)]
      rfl

theorem groupNamed_entries {params : List Field} (htag : ∀ f ∈ params, f.tag = none)
    (hnames : ∀ f ∈ params, f.names ≠ []) :
    groupNamed [] (params.flatMap Field.entries) = some params := by
  induction params with
  | nil => rfl
  | cons f params ih =>
    obtain ⟨htagf, htags⟩ := List.forall_mem_cons.1 htag
    obtain ⟨hn, hns⟩ := List.forall_mem_cons.1 hnames
    rw [List.flatMap_cons, Field.entries_named hn, groupNamed_namedEntries f.type hn, ih htags hns]
    show some (Field.mk f.names f.type none :: params) = some (f :: params)
    rw [← Field.eq_untagged htagf]

theorem isNamed_unnamedEntry (type : TypeExpr) : (Field.unnamedEntry type).isNamed = false := by
  cases type <;> rfl

theorem unnamed_unnamedEntry (type : TypeExpr) :
    (Field.unnamedEntry type).unnamed = .unnamed type := by
  cases type <;> rfl

/-- **Grouping.** The entries of a parameter list are grouped into its fields again. -/
theorem groupParameters_entries {params : List Field} (h : ParamShape params) :
    groupParameters (params.flatMap Field.entries) = some params := by
  rcases h.uniform with hnamed | hunnamed
  · cases params with
    | nil => rfl
    | cons f params =>
      have hn : f.names ≠ [] := hnamed f (List.mem_cons_self ..)
      have hany : ((f :: params).flatMap Field.entries).any Entry.isNamed = true := by
        rw [List.flatMap_cons, List.any_append, Field.entries_named hn,
          any_isNamed_namedEntries f.type hn, Bool.true_or]
      rw [groupParameters, if_pos hany]
      exact groupNamed_entries h.untagged hnamed
  · have hentries : params.flatMap Field.entries
        = params.map fun f => Field.unnamedEntry f.type := by
      rw [List.map_eq_flatMap]
      exact List.flatMap_congr fun f hf => Field.entries_unnamed (hunnamed f hf)
    rw [hentries, groupParameters_unnamed]
    · rw [List.map_map]
      refine congrArg some ((List.map_congr_left fun f hf => ?_).trans (List.map_id _))
      show (Field.unnamedEntry f.type).unnamed = f
      rw [unnamed_unnamedEntry, Field.eq_untagged (h.untagged f hf), hunnamed f hf]
      rfl
    · intro e he
      obtain ⟨f, -, rfl⟩ := List.mem_map.mp he
      exact isNamed_unnamedEntry f.type

/-! ## Reading from the types of the parts -/

/-- The type is read back from its tokens, wherever they stand and whatever ends it. -/
def Reads (stop : Position) (t : TypeExpr) : Prop :=
  ∀ (pos : Nat → Position) (r : Tokens), Ends r →
    (typeExpr stop (place pos t.render ++ r)).value = .ok (t, r)

theorem Reads.of_repeated {t : TypeExpr} (h : Reads stop t.repeated) : Reads stop t := by
  cases t with
  | ellipsis elem =>
    intro pos r hr
    exact typeExpr_ellipsis (h _ r hr)
  | _ => exact h

theorem typeArgs_render {args : List TypeExpr} (hne : args ≠ []) (h : ∀ a ∈ args, Reads stop a)
    (pos : Nat → Position) (q : Position) (r : Tokens) :
    (typeArgs stop (place pos (separated (renderTypes args)) ++ ⟨.symbol .rbrack, q⟩ :: r)).value
      = .ok (args, r) := by
  induction args generalizing pos with
  | nil => exact absurd rfl hne
  | cons a args ih =>
    obtain ⟨ha, has⟩ := List.forall_mem_cons.1 h
    cases args with
    | nil => exact typeArgs_last (ha pos _ (ends_cons ⟨rfl, by decide⟩ q r))
    | cons b args =>
      have hsep : separated (renderTypes (a :: b :: args))
          = a.render ++ .symbol .comma :: separated (renderTypes (b :: args)) := rfl
      rw [hsep, place_append, List.append_assoc, place_cons, List.cons_append]
      exact typeArgs_more (ha pos _ (ends_cons ⟨rfl, by decide⟩ _ _)) (ih (by simp) has _)

/-- A name with a parameter type behind it is named. -/
theorem entryForm_param {t : TypeExpr} (h : t.repeated.Printable) (pos : Nat → Position)
    (r : Tokens) : entryForm (place pos t.render ++ r) = .named := by
  cases t with
  | ellipsis elem => rfl
  | _ => exact entryForm_type h pos r

/-! ## Parameters -/

/-- An unnamed parameter is read as its entry. -/
theorem entry_render {t : TypeExpr} (ht : t.repeated.Printable) (h : Reads stop t) {tail r : Tokens}
    {es : List Entry} (htail : EntryTail stop tail es r) (pos : Nat → Position) :
    (entry stop (place pos t.render ++ tail)).value = .ok (Field.unnamedEntry t, tail) := by
  have hread := h pos tail htail.ends
  -- a name alone, a name with a dot and a name with arguments are told apart by what follows the name
  cases t with
  | ident name => exact entry_bare htail
  | selector package name => exact entry_name rfl hread
  | generic base args =>
    cases ht with
    | generic hb hne hargs =>
      rcases TypeExpr.isBase_cases hb with ⟨name, rfl⟩ | ⟨package, name, rfl⟩
      · exact entry_name (entryForm_args (.args hargs) (separated_renderTypes_ne_nil hne hargs) _
          htail.ends) hread
      · exact entry_name rfl hread
  | chan dir elem => cases dir <;> exact entry_type (by simp [TypeExpr.render, chanTokens]) hread
  | _ => exact entry_type (by simp [TypeExpr.render]) hread

/-- A named parameter is read as its entries. -/
theorem entries_named {t : TypeExpr} (ht : t.repeated.Printable) (h : Reads stop t)
    {names : List String} (hne : names ≠ []) {tail r : Tokens} {es : List Entry}
    (htail : EntryTail stop tail es r) (pos : Nat → Position) :
    (entries stop (place pos (nameTokens names ++ t.render) ++ tail)).value
      = .ok (Field.namedEntries t names ++ es, r) := by
  induction names generalizing pos with
  | nil => exact absurd rfl hne
  | cons name names ih =>
    cases names with
    | nil =>
      have hform := entryForm_param ht (fun i => pos (i + 1)) tail
      exact entries_step (entry_named hform (h _ tail htail.ends)) htail
    | cons next names =>
      have hrest := ih (by simp) fun i => pos (i + 2)
      exact entries_step (entry_bare (.more _ hrest)) (.more _ hrest)

theorem entries_field {f : Field} (hf : f.type.repeated.Printable) (htag : f.tag = none)
    (h : Reads stop f.type) {tail r : Tokens} {es : List Entry} (htail : EntryTail stop tail es r)
    (pos : Nat → Position) :
    (entries stop (place pos f.render ++ tail)).value = .ok (f.entries ++ es, r) := by
  obtain ⟨names, type, tag⟩ := f
  obtain rfl : tag = none := htag
  have hrender : (Field.mk names type none).render = nameTokens names ++ type.render := by
    rw [Field.render, tagTokens, List.append_nil]
  rw [hrender]
  cases names with
  | nil => exact entries_step (entry_render hf h htail pos) htail
  | cons name names => exact entries_named hf h (by simp) htail pos

theorem entries_render {params : List Field} (htag : ∀ f ∈ params, f.tag = none)
    (hp : ∀ f ∈ params, f.type.repeated.Printable) (h : ∀ f ∈ params, Reads stop f.type)
    (pos : Nat → Position) (q : Position) (r : Tokens) :
    (entries stop (place pos (separated (renderFields params)) ++ ⟨.symbol .rparen, q⟩ :: r)).value
      = .ok (params.flatMap Field.entries, r) := by
  induction params generalizing pos with
  | nil =>
    show (entries stop (⟨.symbol .rparen, q⟩ :: r)).value = .ok ([], r)
    rw [entries, value_later, value_done]
  | cons f params ih =>
    obtain ⟨htagf, htags⟩ := List.forall_mem_cons.1 htag
    obtain ⟨hpf, hps⟩ := List.forall_mem_cons.1 hp
    obtain ⟨hf, hfs⟩ := List.forall_mem_cons.1 h
    rw [List.flatMap_cons]
    cases params with
    | nil => exact entries_field hpf htagf hf (.close q r) pos
    | cons g params =>
      have hsep : separated (renderFields (f :: g :: params))
          = f.render ++ .symbol .comma :: separated (renderFields (g :: params)) := rfl
      rw [hsep, place_append, List.append_assoc, place_cons, List.cons_append]
      exact entries_field hpf htagf hf (.more _ (ih htags hps hfs _)) pos

theorem parameters_render {params : List Field} (hs : ParamShape params)
    (hp : ∀ f ∈ params, f.type.repeated.Printable) (h : ∀ f ∈ params, Reads stop f.type)
    (pos : Nat → Position) (r : Tokens) :
    (parameters stop (place pos (listTokens (renderFields params)) ++ r)).value
      = .ok (params, r) := by
  rw [listTokens, place_cons, place_append, List.cons_append, List.append_assoc]
  exact parameters_list (entries_render hs.untagged hp h _ _ r) (groupParameters_entries hs)

theorem results_render {results : List Field} (hs : ParamShape results)
    (hp : ∀ f ∈ results, f.type.repeated.Printable) (h : ∀ f ∈ results, Reads stop f.type)
    (pos : Nat → Position) {r : Tokens} (hr : Ends r) :
    (Parse.results stop (place pos (resultTokens (renderFields results)) ++ r)).value
      = .ok (results, r) := by
  cases results with
  | nil => exact results_none hr
  | cons f results => exact results_list (parameters_render hs hp h pos r)

/-! ## Struct fields -/

/-- An embedded field is read from its type. -/
theorem structField_embeds {t : TypeExpr} (ht : t.Printable) (he : t.isEmbeddable)
    (h : Reads stop t) {tail : Tokens} (htail : Ends tail) (hend : isEmbedded tail = true)
    (pos : Nat → Position) :
    (structField stop (place pos t.render ++ tail)).value = .ok (.unnamed t, tail) := by
  have hread := h pos tail htail
  cases ht with
  | ident name => exact structField_embedded hend hread
  | selector package name => exact structField_embedded rfl hread
  | pointer _ => exact structField_pointer hread
  | generic hb hne hargs =>
    rcases TypeExpr.isBase_cases hb with ⟨name, rfl⟩ | ⟨package, name, rfl⟩
    · exact structField_embedded (isEmbedded_args (.args hargs)
        (separated_renderTypes_ne_nil hne hargs) _ htail) hread
    · exact structField_embedded rfl hread
  | _ => exact absurd he Bool.false_ne_true

/-- A named field is read from its names and its type. -/
theorem structField_names {t : TypeExpr} (ht : t.Printable) (h : Reads stop t)
    {names : List String} (hne : names ≠ []) {tail : Tokens} (htail : Ends tail)
    (pos : Nat → Position) :
    (structField stop (place pos (nameTokens names ++ t.render) ++ tail)).value
      = .ok (.mk names t none, tail) := by
  rw [place_append, List.append_assoc]
  have hread := h (fun i => pos (i + (nameTokens names).length)) tail htail
  have hnames : (fieldNames stop (place pos (nameTokens names) ++
      (place (fun i => pos (i + (nameTokens names).length)) t.render ++ tail))).value
      = .ok (names, place (fun i => pos (i + (nameTokens names).length)) t.render ++ tail) := by
    refine fieldNames_nameTokens hne pos fun u hu hcomma => ?_
    have hstart := startsType_head ht hu
    rw [hcomma] at hstart
    exact absurd hstart (by decide)
  cases names with
  | nil => exact absurd rfl hne
  | cons name names =>
    cases names with
    | nil => exact structField_named (isEmbedded_type ht _ tail) hnames hread
    | cons next names => exact structField_named rfl hnames hread

/-- What follows the type of a written struct field ends it, and ends an embedded name. -/
theorem ends_tagTokens (tag : Option String) (pos : Nat → Position) (r : Tokens) :
    Ends (place pos (tagTokens tag ++ [Token.symbol .semi]) ++ r) ∧
      isEmbedded (place pos (tagTokens tag ++ [Token.symbol .semi]) ++ r) = true := by
  cases tag with
  | none => exact ⟨ends_cons ⟨rfl, by decide⟩ _ r, rfl⟩
  | some tag => exact ⟨ends_cons ⟨rfl, by simp⟩ _ _, rfl⟩

/-- A struct field with its tag and its semicolon, then those behind it. -/
theorem structFields_field {f : Field} (hform : f.names = [] → f.type.isEmbeddable)
    (hp : f.type.Printable) (h : Reads stop f.type) {fields : List Field} {rest r : Tokens}
    (hrest : (structFields stop rest).value = .ok (fields, r)) (pos : Nat → Position) :
    (structFields stop (place pos (f.render ++ [Token.symbol .semi]) ++ rest)).value
      = .ok (f :: fields, r) := by
  obtain ⟨names, type, tag⟩ := f
  have hrender : (Field.mk names type tag).render ++ [Token.symbol .semi]
      = (nameTokens names ++ type.render) ++ (tagTokens tag ++ [Token.symbol .semi]) := by
    rw [Field.render]
    simp only [List.append_assoc]
  rw [hrender, place_append, List.append_assoc]
  obtain ⟨hends, hembedded⟩ := ends_tagTokens tag
    (fun i => pos (i + (nameTokens names ++ type.render).length)) rest
  obtain ⟨q, htag⟩ := fieldTag_tagTokens tag
    (fun i => pos (i + (nameTokens names ++ type.render).length)) rest
  refine structFields_step (f := .mk names type none) ?_ htag hrest
  cases names with
  | nil => exact structField_embeds hp (hform rfl) h hends hembedded pos
  | cons name names => exact structField_names hp h (by simp) hends pos

theorem structFields_render {fields : List Field}
    (hform : ∀ f ∈ fields, f.names = [] → f.type.isEmbeddable)
    (hp : ∀ f ∈ fields, f.type.Printable) (h : ∀ f ∈ fields, Reads stop f.type)
    (pos : Nat → Position) (q : Position) (r : Tokens) :
    (structFields stop
      (place pos (terminated (renderFields fields)) ++ ⟨.symbol .rbrace, q⟩ :: r)).value
      = .ok (fields, r) := by
  induction fields generalizing pos with
  | nil => exact structFields_close
  | cons f fields ih =>
    rw [renderFields, terminated, List.flatMap_cons, place_append, List.append_assoc]
    obtain ⟨hformf, hforms⟩ := List.forall_mem_cons.1 hform
    obtain ⟨hpf, hps⟩ := List.forall_mem_cons.1 hp
    obtain ⟨hf, hfs⟩ := List.forall_mem_cons.1 h
    exact structFields_field hformf hpf hf (ih hforms hps hfs _) pos

/-! ## Types -/

/-- **Types.** Every printable type is read back from its tokens. -/
theorem reads_type {t : TypeExpr} (h : t.Printable) : Reads stop t := by
  induction h with
  | ident name =>
    intro pos r hr
    have hb : (TypeExpr.ident name).isBase := rfl
    exact typeExpr_base hb pos (fun t ht => (hr t ht).2) (instantiated_ends _ hr)
  | selector package name =>
    intro pos r hr
    have hb : (TypeExpr.selector package name).isBase := rfl
    exact typeExpr_base hb pos (fun t ht => (hr t ht).2) (instantiated_ends _ hr)
  | pointer _ ih =>
    intro pos r hr
    exact typeExpr_pointer (ih _ r hr)
  | slice _ ih =>
    intro pos r hr
    exact typeExpr_slice (ih _ r hr)
  | array len _ ih =>
    intro pos r hr
    exact typeExpr_array len (ih _ r hr)
  | map _ _ ihk ihv =>
    intro pos r hr
    rw [TypeExpr.render, place_cons, place_cons, place_append, place_cons, List.cons_append,
      List.cons_append, List.append_assoc, List.cons_append]
    exact typeExpr_map (ihk _ _ (ends_cons ⟨rfl, by decide⟩ _ _)) (ihv _ r hr)
  | chan dir _ ih =>
    intro pos r _
    rw [TypeExpr.render, place_append, List.append_assoc, place_cons, List.cons_append, place_append,
      List.append_assoc]
    exact typeExpr_chan dir pos (typeExpr_parens (ih _ _ (ends_cons ⟨rfl, by decide⟩ _ _)))
  | func hps hrs hpt hrt ihp ihr =>
    intro pos r hr
    rw [TypeExpr.render, place_cons, place_append, List.cons_append, List.append_assoc]
    exact typeExpr_func (parameters_render hps hpt (fun f hf => .of_repeated (ihp f hf)) _ _)
      (results_render hrs hrt (fun f hf => .of_repeated (ihr f hf)) _ hr)
  | interface empty =>
    intro pos r _
    exact typeExpr_interface empty _
  | struct hform hp ih =>
    intro pos r _
    rw [TypeExpr.render, place_cons, place_cons, place_append, List.cons_append, List.cons_append,
      List.append_assoc]
    exact typeExpr_struct (structFields_render hform hp ih _ _ r)
  | generic hb hne _ ih =>
    intro pos r _
    rw [TypeExpr.render, place_append, List.append_assoc, place_cons, place_append, List.cons_append,
      List.append_assoc]
    exact typeExpr_generic hb pos (typeArgs_render hne ih _ _ r)

theorem reads_param {t : TypeExpr} (h : t.repeated.Printable) : Reads stop t :=
  .of_repeated (reads_type h)

end Parse

end GoGlue
