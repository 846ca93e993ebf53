import GoGlue.Proofs.Decl.Places
import GoGlue.Proofs.Source.Leads

/-!
# Doc texts and their declarations

The doc text of a declaration is looked up by the line on which the declaration begins. The comments that are found
stand behind all tokens in front of the declaration, unless one of these stands on the line of the declaration, or
behind a comment of the group on the line where it ends: the lines of comments tell of tokens in front of a comment
only.

* `docs_led`: the comments of each doc text of a file.
* `docs_reach_back`: a comment in front of other code is taken for a part of a doc text.
-/
namespace GoGlue

open Lexeme

/-- The doc text is the one for the token `d` of the source, which is followed by `post`, and its comments are
known. -/
def Source.Documents (s : Source) (ls : List Lexeme) (doc : String) (d : Located) (post : Tokens) : Prop :=
  ∃ pre, s.tokens = pre ++ d :: post ∧ doc = Comment.docText s.comments d.pos.line ∧
    Led ls s.comments pre d.pos

/-- A declaration is read behind its keyword, which its doc text documents. Within a group each type is read from
its first token on, which the doc text of the type documents. -/
def Decl.Led (s : Source) (ls : List Lexeme) : Decl → Prop
  | .func f => ∃ d post, d.token = .keyword .func ∧
      (∃ rest, (Parse.funcDecl s.stop f.doc d.pos.line post).value = .ok (f, rest)) ∧ s.Documents ls f.doc d post
  | .type t => ∃ d post, d.token = .keyword .type ∧
      (∃ rest, (Parse.typeDecl s.stop (Comment.docText s.comments) t.doc post).value = .ok (t, rest)) ∧
      s.Documents ls t.doc d post ∧
      ((∀ spec ∈ t.specs, spec.doc = "") ∨ ∀ spec ∈ t.specs, ∃ d' post',
        (∃ rest, (Parse.typeSpec s.stop spec.doc (d' :: post')).value = .ok (spec, rest)) ∧
        s.Documents ls spec.doc d' post')

namespace SourceFile

theorem ofSource_value {s : Source} {file : SourceFile} (h : ofSource s = .ok file) :
    ∃ rest, (Parse.sourceFile s.stop (Comment.docText s.comments) s.tokens).value = .ok (file, rest) := by
  unfold ofSource at h
  split at h
  · cases h
  · next f rest bound read =>
    cases h
    exact ⟨rest, by rw [read]; rfl⟩

/-- **The comments of each doc text of a file.** They end above what they document. Each stands behind all tokens
in front of that, unless one of these stands behind a comment of the same group on the line where it ends, or on
the line of what is documented. -/
theorem docs_led {text : String} {file : SourceFile} (h : parse text = .ok file) :
    ∃ s ls, Source.read text = .ok s ∧ lexemesFrom .start text.toList = .ok (ls, s.stop) ∧
      ∀ decl ∈ file.decls, decl.Led s ls := by
  unfold parse at h
  split at h
  · cases h
  next s hs =>
  obtain ⟨rest, read⟩ := ofSource_value h
  obtain ⟨ls, cut, led⟩ := Source.read_led hs
  have documents : ∀ {doc d post}, (d :: post) <:+ s.tokens → doc = Comment.docText s.comments d.pos.line →
      s.Documents ls doc d post := fun ⟨pre, at_⟩ hd => ⟨pre, at_.symm, hd, led pre _ _ at_.symm⟩
  refine ⟨s, ls, hs, cut, fun decl hdecl => ?_⟩
  obtain ⟨d, post, at_, place⟩ := Parse.sourceFile_places s.stop _ s.tokens file rest read decl hdecl
  cases decl with
  | func f =>
    obtain ⟨key, doc, value⟩ := place
    exact ⟨d, post, key, value, documents at_ doc⟩
  | type t =>
    obtain ⟨key, doc, value, specs⟩ := place
    refine ⟨d, post, key, value, documents at_ doc, specs.imp_right fun placed spec hspec => ?_⟩
    obtain ⟨d', post', at', doc', value'⟩ := placed.widen ((List.suffix_cons d post).trans at_) spec hspec
    exact ⟨d', post', value', documents at' doc'⟩

/-- Docs of a group of types and of one of its types, and a comment behind a token. -/
def shapes : String :=
  "package geo\n// Shapes.\ntype (\n\t// Box.\n\tBox int\n\tDot int\n)\nvar n = 1 // odd\nfunc Area() \x7b\x7d\n"

/-- The doc texts of a declaration, with those of its types. -/
def docs : Decl → List String
  | .func f => [f.doc]
  | .type t => t.doc :: t.specs.map (·.doc)

theorem docs_led_shapes :
    ∃ file, parse shapes = .ok file ∧
      file.decls.map docs = [["Shapes.\n", "Box.\n", ""], [""]] ∧
      ∃ s ls, Source.read shapes = .ok s ∧ lexemesFrom .start shapes.toList = .ok (ls, s.stop) ∧
        ∀ decl ∈ file.decls, decl.Led s ls := by
  have told : (parse shapes).toOption.map (·.decls.map docs) =
      some [["Shapes.\n", "Box.\n", ""], [""]] := by decide +kernel
  match h : parse shapes with
  | .error e =>
    rw [h] at told
    cases told
  | .ok file =>
    rw [h] at told
    exact ⟨file, rfl, Option.some.inj told, docs_led h⟩

/-- A comment in front of other code, above a doc comment. -/
def scaled : String :=
  "package geo\n\n/* unit */ var scale = 1\n// Area is scaled.\nfunc Area() int \x7b return scale \x7d\n"

/-- **A comment in front of other code is taken for a part of a doc text.** The declaration `var scale` stands
between the comment and the function. -/
theorem docs_reach_back :
    ∃ file s ls group, parse scaled = .ok file ∧ Source.read scaled = .ok s ∧
      lexemesFrom .start scaled.toList = .ok (ls, s.stop) ∧
      file.decls.map docs = [[" unit\nArea is scaled.\n"]] ∧
      ∃ pre post, s.tokens = pre ++ ⟨.keyword .func, ⟨5, 1⟩⟩ :: post ∧
        group <:+: ls.filter IsComment ∧
        List.Forall₂ (Source.SetAside ls) group (Comment.docGroup s.comments 5) ∧
        ∃ g ∈ group, String.ofList g.text = "/* unit */" ∧
          ∃ σ ∈ pre, σ.token = .keyword .var ∧ g.pos.Before σ.pos := by
  have told : (parse scaled).toOption.map (·.decls.map docs) = some [[" unit\nArea is scaled.\n"]] := by
    decide +kernel
  have seen : (Source.read scaled).toOption.map (fun s =>
      (decide (s.tokens = s.tokens.take 8 ++ ⟨.keyword .func, ⟨5, 1⟩⟩ :: s.tokens.drop 9),
        decide (⟨.keyword .var, ⟨3, 12⟩⟩ ∈ s.tokens.take 8), Comment.docGroup s.comments 5)) =
      some (true, true, [⟨"/* unit */", 3, 3, false⟩, ⟨"// Area is scaled.", 4, 4, false⟩]) := by
    decide +kernel
  have first : (lexemesFrom .start scaled.toList).toOption.map (fun found =>
      decide (∀ g ∈ found.1, String.ofList g.text = "/* unit */" → g.pos = ⟨3, 1⟩)) = some true := by
    decide +kernel
  match hp : parse scaled, hs : Source.read scaled with
  | .error e, _ =>
    rw [hp] at told
    cases told
  | _, .error e =>
    rw [hs] at seen
    cases seen
  | .ok file, .ok s =>
    obtain ⟨ls, cut, led⟩ := Source.read_led hs
    rw [hp] at told
    rw [hs] at seen
    rw [cut] at first
    obtain ⟨split, var, docGroup⟩ : s.tokens = s.tokens.take 8 ++ ⟨.keyword .func, ⟨5, 1⟩⟩ :: s.tokens.drop 9 ∧
        ⟨.keyword .var, ⟨3, 12⟩⟩ ∈ s.tokens.take 8 ∧ _ := by
      simpa only [Prod.mk.injEq, decide_eq_true_eq] using Option.some.inj seen
    obtain ⟨group, inside, aside, -⟩ := led _ _ _ split
    have comments := aside
    rw [docGroup] at comments
    obtain ⟨g, rest, unit, -, rfl⟩ := List.forall₂_cons_right_iff.1 comments
    have mem : g ∈ ls := List.mem_of_mem_filter (inside.subset (List.mem_cons_self ..))
    have place : g.pos = ⟨3, 1⟩ := of_decide_eq_true (Option.some.inj first) g mem unit.text.symm
    refine ⟨file, s, ls, g :: rest, rfl, rfl, cut, Option.some.inj told, _, _, split, inside, aside, g,
      List.mem_cons_self .., unit.text.symm, _, var, rfl, ?_⟩
    rw [place]
    decide

end SourceFile

end GoGlue
