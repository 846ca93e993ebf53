import GoGlue.Proofs.Decl.RoundTrip

/-!
# Written source files are read back

Function declarations, type declarations and whole files: reading the tokens that a declaration is
written with gives the declaration again, with its doc and its line.

* `funcDecl_render`, `typeSpec_render`: a function and one declared type are read back.
* `declarations_decl`: one written declaration is read and what follows it is left.
* `SourceFile.exists_written`: every file whose docs stand in the source has a spelling.
* `SourceFile.read_written`: a printable file is read back from any of its spellings.
-/
namespace GoGlue

namespace Parse

open Reply

variable {stop : Position} {docAt : Nat → String}

/-! ## Functions -/

theorem receiver_render {recv : Option Field} (h : ∀ r, recv = some r → ParamList [r])
    (name : String) (pos : Nat → Position) (q : Position) (ts : Tokens) :
    (receiver stop (place pos (recvTokens recv) ++ ⟨.ident name, q⟩ :: ts)).value
      = .ok (recv, ⟨.ident name, q⟩ :: ts) := by
  cases recv with
  | none => rfl
  | some r =>
    have hlist := h r rfl
    have hread : (parameters stop (place pos (recvTokens (some r)) ++ ⟨.ident name, q⟩ :: ts)).value
        = .ok ([r], ⟨.ident name, q⟩ :: ts) :=
      parameters_render hlist.toParamShape hlist.types
        (fun f hf => reads_param (hlist.types f hf)) pos _
    exact value_andThen hread fun _ => rfl

theorem optionalGroup_typeParams (generic : Bool) (pos : Nat → Position) {r : Tokens}
    (hr : ∀ t ∈ r.head?, t.token ≠ .symbol .lbrack) :
    (optionalGroup stop .lbrack (place pos (typeParamTokens generic) ++ r)).value
      = .ok (generic, r) := by
  cases generic with
  | true => rfl
  | false =>
    show (optionalGroup stop .lbrack r).value = _
    unfold optionalGroup
    split
    · rfl
    · next t r => rw [if_neg (hr t rfl), value_done]

/-- A function declaration is read back after its keyword. -/
theorem funcDecl_render {f : FuncDecl} (h : f.Printable) (pos : Nat → Position) (r : Tokens) :
    (funcDecl stop f.doc f.line (place pos f.render ++ r)).value = .ok (f, r) := by
  obtain ⟨doc, line, recv, name, generic, params, res⟩ := f
  rw [FuncDecl.render, place_append, place_cons, place_append, place_append, place_append,
    List.append_assoc, List.cons_append, List.append_assoc, List.append_assoc, List.append_assoc,
    funcDecl]
  have hrecv : ∀ r, recv = some r → ParamList [r] := h.recv
  refine value_andThen (receiver_render hrecv name pos _ _) fun _ => ?_
  rw [value_identifier]
  refine value_andThen (optionalGroup_typeParams generic _ (by simp [listTokens])) fun _ => ?_
  refine value_andThen (parameters_render h.params.toParamShape h.params.types
    (fun f hf => reads_param (h.params.types f hf)) _ _) fun _ => ?_
  refine value_andThen (results_render h.results.toParamShape h.results.types
    (fun f hf => reads_param (h.results.types f hf)) _ (ends_cons ⟨rfl, by decide⟩ _ _)) fun _ => ?_
  rfl

/-! ## Types -/

theorem typeParams_none {ts : Tokens}
    (h : ∀ p r, ts = ⟨.symbol .lbrack, p⟩ :: r → opensTypeParams r = false) :
    (typeParams stop ts).value = .ok (false, ts) := by
  unfold typeParams
  split
  · next p r => rw [if_neg (by rw [h p r rfl]; decide), value_done]
  · rfl

theorem typeParams_render (generic isAlias : Bool) {t : TypeExpr} (h : t.Printable)
    (pos pos' : Nat → Position) (r : Tokens) :
    (typeParams stop (place pos (typeParamTokens generic) ++
        (place pos' (aliasTokens isAlias ++ t.render) ++ r))).value
      = .ok (generic, place pos' (aliasTokens isAlias ++ t.render) ++ r) := by
  cases generic with
  | true => rfl
  | false =>
    refine typeParams_none fun p s hs => ?_
    cases isAlias with
    | true => exact absurd (List.cons.inj hs).1 (by simp)
    | false =>
      obtain ⟨u, w, hw, -⟩ := startsType_render h
      have hs' : place pos' t.render ++ r = ⟨.symbol .lbrack, p⟩ :: s := hs
      rw [hw] at hs'
      obtain ⟨hu, rfl⟩ := List.cons.inj hs'
      obtain ⟨rfl, -⟩ := Located.mk.inj hu
      exact opensTypeParams_type h hw _ r

theorem aliasMark_none {ts : Tokens} (h : ∀ t ∈ ts.head?, t.token ≠ .symbol .assign) :
    (aliasMark ts).value = .ok (false, ts) := by
  unfold aliasMark
  split
  · exact absurd rfl (h _ rfl)
  · rfl

theorem aliasMark_render (isAlias : Bool) {t : TypeExpr} (h : t.Printable) (pos : Nat → Position)
    (r : Tokens) :
    ∃ pos', (aliasMark (place pos (aliasTokens isAlias ++ t.render) ++ r)).value
      = .ok (isAlias, place pos' t.render ++ r) := by
  cases isAlias with
  | true => exact ⟨_, rfl⟩
  | false =>
    refine ⟨pos, aliasMark_none fun u hu hassign => ?_⟩
    have hstart := startsType_head h hu
    rw [hassign] at hstart
    exact absurd hstart (by decide)

/-- One declared type is read back, with the doc that it is read with. -/
theorem typeSpec_render {s : TypeSpec} (h : s.type.Printable) (pos : Nat → Position) {r : Tokens}
    (hr : Ends r) : (typeSpec stop s.doc (place pos s.render ++ r)).value = .ok (s, r) := by
  obtain ⟨doc, name, generic, isAlias, type⟩ := s
  rw [TypeSpec.render, place_cons, place_append, List.cons_append, List.append_assoc, typeSpec,
    value_identifier]
  refine value_andThen (typeParams_render generic isAlias h _ _ r) fun _ => ?_
  obtain ⟨pos', halias⟩ := aliasMark_render isAlias h _ r
  exact value_andThen halias fun _ => value_map (reads_type h pos' r hr) _

theorem typeSpec_semi (stop : Position) {s : TypeSpec} (h : s.type.Printable)
    (pos : Nat → Position) (r : Tokens) :
    ∃ q, (typeSpec stop s.doc (place pos (s.render ++ [Token.symbol .semi]) ++ r)).value
      = .ok (s, ⟨.symbol .semi, q⟩ :: r) := by
  rw [place_append, List.append_assoc]
  exact ⟨_, typeSpec_render h pos (ends_cons ⟨rfl, by decide⟩ _ _)⟩

/-- One type of a group, then those behind it. -/
theorem typeSpecs_step {s : TypeSpec} {specs : List TypeSpec} {q : Position} {ts us r : Tokens}
    (hs : (typeSpec stop (docAt (here stop ts).line) ts).value = .ok (s, ⟨.symbol .semi, q⟩ :: us))
    (hus : (typeSpecs stop docAt us).value = .ok (specs, r)) :
    (typeSpecs stop docAt ts).value = .ok (s :: specs, r) := by
  unfold typeSpecs
  split
  · simp [typeSpec, identifier, unexpected, fail, value] at hs
  · simp [typeSpec, identifier, unexpected, fail, value] at hs
  · refine value_andThen hs fun _ => ?_
    show (expect stop (.symbol .semi) .endOfStatement (⟨.symbol .semi, q⟩ :: us) _).value = _
    rw [value_expect, value_map hus]

theorem typeSpecs_written {specs : List TypeSpec} {ts : Tokens} (hw : WrittenSpecs docAt specs ts)
    (hp : ∀ s ∈ specs, s.type.Printable) (q : Position) (r : Tokens) :
    (typeSpecs stop docAt (ts ++ ⟨.symbol .rparen, q⟩ :: r)).value = .ok (specs, r) := by
  induction hw with
  | nil =>
    show (typeSpecs stop docAt (⟨.symbol .rparen, q⟩ :: r)).value = _
    rw [typeSpecs, value_later, value_done]
  | @cons s specs rest pos hdoc _ ih =>
    obtain ⟨hs, hspecs⟩ := List.forall_mem_cons.1 hp
    obtain ⟨_, hspec⟩ := typeSpec_semi stop hs pos (rest ++ ⟨.symbol .rparen, q⟩ :: r)
    rw [← hdoc] at hspec
    rw [List.append_assoc]
    exact typeSpecs_step hspec (ih hspecs)

/-! ## Declarations -/

/-- **Declarations.** A written declaration is read, and then those behind it. -/
theorem declarations_decl {d : Decl} (hd : d.Printable) {ts : Tokens} (hw : d.Written docAt ts)
    {decls : List Decl} {rest r : Tokens}
    (hrest : (declarations stop docAt rest).value = .ok (decls, r)) :
    (declarations stop docAt (ts ++ rest)).value = .ok (d :: decls, r) := by
  cases hw with
  | @func f p pos hline hdoc =>
    rw [List.cons_append, declarations, value_later, hdoc, hline]
    exact value_andThen (funcDecl_render hd pos rest) fun _ => value_map hrest _
  | @single doc s p pos hdoc hplain =>
    have hs : s.type.Printable := hd s (List.mem_singleton_self s)
    rw [List.cons_append, declarations, value_later, hdoc]
    refine value_andThen (a := ⟨doc, [s]⟩) (r := rest) ?_ fun _ => value_map hrest _
    obtain ⟨_, hspec⟩ := typeSpec_semi stop hs pos rest
    rw [hplain] at hspec
    exact value_andThen hspec fun _ => rfl
  | @group doc specs ts p q pos hdoc hspecs =>
    rw [List.cons_append, List.cons_append, List.append_assoc, declarations, value_later, hdoc]
    refine value_andThen (a := ⟨doc, specs⟩) (r := rest) ?_ fun _ => value_map hrest _
    rw [typeDecl, value_later]
    exact value_andThen (typeSpecs_written hspecs hd _ _) fun _ => rfl

theorem declarations_written {decls : List Decl} {ts : Tokens} (hw : WrittenDecls docAt decls ts)
    (hp : ∀ d ∈ decls, d.Printable) : (declarations stop docAt ts).value = .ok (decls, []) := by
  induction hw with
  | nil => rw [declarations, value_done]
  | @cons d decls ts rest hd _ ih =>
    obtain ⟨hpd, hps⟩ := List.forall_mem_cons.1 hp
    exact declarations_decl hpd hd (ih hps)

theorem sourceFile_written {file : SourceFile} {ts : Tokens} (hw : file.Written docAt ts)
    (hp : file.Printable) : (sourceFile stop docAt ts).value = .ok (file, []) := by
  cases hw with
  | @mk package decls rest pos hdecls =>
    show (sourceFile stop docAt (⟨.keyword .package, pos 0⟩ :: ⟨.ident package, pos 1⟩ ::
      ⟨.symbol .semi, pos 2⟩ :: rest)).value = _
    have hread : (declarations stop docAt rest).value = .ok (decls, []) :=
      declarations_written hdecls hp
    rw [sourceFile, value_expect, value_identifier]
    · exact value_andThen (a := ()) (r := rest) rfl fun _ => value_map hread _
    · simp

end Parse

/-! ## Source files -/

/-- Each doc is the doc of some line, and that of a function is the doc of its own line. -/
def Decl.Documented (docAt : Nat → String) : Decl → Prop
  | .func f => docAt f.line = f.doc
  | .type t => (∃ line, docAt line = t.doc) ∧ ∀ s ∈ t.specs, ∃ line, docAt line = s.doc

theorem exists_writtenSpecs {docAt : Nat → String} {specs : List TypeSpec}
    (h : ∀ s ∈ specs, ∃ line, docAt line = s.doc) : ∃ ts, WrittenSpecs docAt specs ts := by
  induction specs with
  | nil => exact ⟨_, .nil⟩
  | cons s specs ih =>
    obtain ⟨⟨line, hline⟩, hspecs⟩ := List.forall_mem_cons.1 h
    obtain ⟨ts, hts⟩ := ih hspecs
    exact ⟨_, .cons (fun _ => ⟨line, 1⟩) hline hts⟩

theorem Decl.exists_written {docAt : Nat → String} {d : Decl} (h : d.Documented docAt) :
    ∃ ts, d.Written docAt ts := by
  cases d with
  | func f => exact ⟨_, .func ⟨f.line, 1⟩ (fun _ => .start) rfl h⟩
  | type t =>
    obtain ⟨⟨line, hline⟩, hspecs⟩ := h
    obtain ⟨ts, hts⟩ := exists_writtenSpecs hspecs
    exact ⟨_, .group ⟨line, 1⟩ .start (fun _ => .start) hline hts⟩

namespace SourceFile

/-- Every file whose docs stand in the source has a spelling. -/
theorem exists_written {docAt : Nat → String} {file : SourceFile}
    (h : ∀ d ∈ file.decls, d.Documented docAt) : ∃ ts, file.Written docAt ts := by
  have hdecls : ∀ decls : List Decl, (∀ d ∈ decls, d.Documented docAt) →
      ∃ ts, WrittenDecls docAt decls ts := by
    intro decls hd
    induction decls with
    | nil => exact ⟨_, .nil⟩
    | cons d decls ih =>
      obtain ⟨hdd, hds⟩ := List.forall_mem_cons.1 hd
      obtain ⟨ts, hts⟩ := Decl.exists_written hdd
      obtain ⟨rest, hrest⟩ := ih hds
      exact ⟨_, .cons hts hrest⟩
  obtain ⟨ts, hts⟩ := hdecls file.decls h
  exact ⟨_, .mk (fun _ => .start) hts⟩

/-- **Round trip.** A printable source file is read back from any tokens that spell it: nothing is
left, and the file is exactly the one that was written. -/
theorem read_written {file : SourceFile} (hp : file.Printable) {docAt : Nat → String} {ts : Tokens}
    (hw : file.Written docAt ts) (stop : Position) :
    (Parse.sourceFile stop docAt ts).value = .ok (file, []) ∧
      ∀ comments, Comment.docText comments = docAt →
        SourceFile.ofSource ⟨ts, comments, stop⟩ = .ok file := by
  have hread : (Parse.sourceFile stop docAt ts).value = .ok (file, []) :=
    Parse.sourceFile_written hw hp
  refine ⟨hread, ?_⟩
  rintro comments rfl
  rw [SourceFile.ofSource]
  cases h : Parse.sourceFile stop (Comment.docText comments) ts with
  | error e =>
    rw [h] at hread
    cases hread
  | ok p =>
    rw [h] at hread
    obtain ⟨⟨found, left⟩, hlen⟩ := p
    cases hread
    rfl

/-- A documented method and a generic struct. -/
def grid : SourceFile where
  package := "grid"
  decls :=
    [.func {
      doc := "Move shifts.\n", line := 3, recv := some (.mk ["g"] (.pointer (.ident "Grid")) none)
      name := "Move", generic := false
      params := [.mk ["by", "off"] (.slice (.ident "int")) none,
        .mk ["rest"] (.ellipsis (.generic (.ident "List") [.ident "int"])) none]
      results := [.unnamed (.generic (.selector "opt" "Of") [.ident "int"]),
        .unnamed (.ident "error")] },
    .type ⟨"", [⟨"", "Grid", true, false, .struct [.unnamed (.pointer (.selector "log" "Logger")),
      .mk ["cells"] (.array (some 4) (.ident "T")) (some "x")]⟩]⟩]

def gridComments : List Comment := [⟨"// Move shifts.", 2, 2, false⟩]

/-- The tokens of `grid`, with its method on line 3 and its type on line 4. -/
def gridTokens : Tokens :=
  place (fun i => ⟨1, i⟩) [.keyword .package, .ident "grid", .symbol .semi] ++
  (place (fun i => ⟨3, i⟩)
    [.keyword .func, .symbol .lparen, .ident "g", .symbol .star, .ident "Grid", .symbol .rparen,
      .ident "Move", .symbol .lparen, .ident "by", .symbol .comma, .ident "off", .symbol .lbrack,
      .symbol .rbrack, .ident "int", .symbol .comma, .ident "rest", .symbol .ellipsis,
      .ident "List", .symbol .lbrack, .ident "int", .symbol .rbrack, .symbol .rparen,
      .symbol .lparen, .ident "opt", .symbol .dot, .ident "Of", .symbol .lbrack, .ident "int",
      .symbol .rbrack, .symbol .comma, .ident "error", .symbol .rparen, .symbol .lbrace,
      .symbol .rbrace, .symbol .semi] ++
  place (fun i => ⟨4, i⟩)
    [.keyword .type, .ident "Grid", .symbol .lbrack, .ident "T", .ident "any", .symbol .rbrack,
      .keyword .struct, .symbol .lbrace, .symbol .star, .ident "log", .symbol .dot, .ident "Logger",
      .symbol .semi, .ident "cells", .symbol .lbrack, .number "4", .symbol .rbrack, .ident "T",
      .string "x", .symbol .semi, .symbol .rbrace, .symbol .semi])

theorem grid_written : grid.Written (Comment.docText gridComments) gridTokens :=
  .mk (fun i => ⟨1, i⟩)
    (.cons (.func ⟨3, 0⟩ (fun i => ⟨3, i + 1⟩) rfl (by decide +kernel))
      (.cons (.single ⟨4, 0⟩ (fun i => ⟨4, i + 1⟩) (by decide +kernel) rfl) .nil))

theorem grid_printable : grid.Printable := by
  have hints : ∀ a ∈ [TypeExpr.ident "int"], a.Printable := List.forall_mem_singleton.2 (.ident _)
  refine List.forall_mem_cons.2 ⟨⟨?_, ?_, ?_⟩, List.forall_mem_singleton.2 ?_⟩
  · rintro r ⟨⟩
    exact ⟨⟨by decide, by decide⟩, List.forall_mem_singleton.2 (.pointer (.ident _))⟩
  · refine ⟨⟨by decide, by decide⟩, List.forall_mem_cons.2 ⟨.slice (.ident _), ?_⟩⟩
    exact List.forall_mem_singleton.2 (.generic rfl (by simp) hints)
  · refine ⟨⟨by decide, by decide⟩, List.forall_mem_cons.2 ⟨.generic rfl (by simp) hints, ?_⟩⟩
    exact List.forall_mem_singleton.2 (.ident _)
  · refine List.forall_mem_singleton.2 (.struct (by decide) ?_)
    exact List.forall_mem_cons.2
      ⟨.pointer (.selector _ _), List.forall_mem_singleton.2 (.array _ (.ident _))⟩

theorem read_written_grid :
    (Parse.sourceFile ⟨5, 1⟩ (Comment.docText gridComments) gridTokens).value = .ok (grid, []) ∧
      SourceFile.ofSource ⟨gridTokens, gridComments, ⟨5, 1⟩⟩ = .ok grid :=
  have h := read_written grid_printable grid_written ⟨5, 1⟩
  ⟨h.1, h.2 gridComments rfl⟩

end SourceFile

end GoGlue
