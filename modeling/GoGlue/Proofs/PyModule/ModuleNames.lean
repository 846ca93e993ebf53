import GoGlue.Generation
import GoGlue.Proofs.PyModule.Closed
import GoGlue.Proofs.PyModule.MemberNames

/-!
# The names of a module

At its top level a module has the names that it imports, those that its prelude defines, and one name for each
class and function. Functions claim their names, against each other and against all that the module refers to. A
class claims nothing: it has the name of its struct, with an underscore where that is a word of Python or of the
module, and so it may meet the class of a struct that has the underscore already. Nor do functions claim their
names against classes. The two are kept apart by how they begin, unless a function begins with a capital that has
no small letter. Names are compared as they are written.

* `prelude_defined`, `prelude_called`: what the prelude defines and calls, read off its text.
* `ctypesNames_ofCtypes`: what is imported from `ctypes` is reserved.
* `className_cases`: how the class of an exported struct is called.
* `functionsOf_names`: the functions of a module have the names that are claimed for them.
* `module_names`: what the names of classes and functions keep clear of, and when they are distinct.
* `classes_collide`, `function_collides`: packages for which they are not.
-/
namespace GoGlue

namespace Py

/-! ## What the prelude refers to -/

/-- The lines of a layout that are not inside another one. -/
def topLines : List Layout → List (List Char)
  | [] => []
  | .blank :: rest => topLines rest
  | .line text :: rest | .suite text _ _ :: rest => text.toList :: topLines rest

/-- The name that a line defines, if it is the head of a function or class or an assignment. -/
def definedName (line : List Char) : List (List Char) :=
  let word := line.takeWhile Text.isWordChar
  if word = ['d', 'e', 'f'] then [(line.drop 4).takeWhile Text.isWordChar]
  else if word = ['c', 'l', 'a', 's', 's'] then [(line.drop 6).takeWhile Text.isWordChar]
  else if [' ', '=', ' '].isPrefixOf (line.drop word.length) then [word]
  else []

/-- The words of a line that an opening bracket follows, but for members; `word` has been read already, and
`member` says that there is a dot before it. -/
def calledNames (word : List Char) (member : Bool) : List Char → List (List Char)
  | [] => []
  | c :: rest =>
    if Text.isWordChar c then calledNames (word ++ [c]) member rest
    else (if c = '(' ∧ word ≠ [] ∧ member = false then [word] else []) ++ calledNames [] (c == '.') rest

/-- What the prelude defines. -/
def preludeDefined : List (List Char) := (topLines preludeLayout).flatMap definedName

/-- What the prelude calls, and what it defines as a function or class. -/
def preludeCalled : List (List Char) :=
  (Layout.linesAll preludeLayout).flatMap fun line => calledNames [] false line.toList

/-- The prelude defines a class besides its functions and the library, -/
theorem prelude_defined : preludeDefined.Perm (("GoError" :: preludeNames).map String.toList) := by
  simp only [preludeDefined, preludeLayout, preludeParts, conversions, loadLibrary, releases, eachEnding,
    preludeNames, Routine.layout, Layout.indented, Declaration.layout, topLines, CtypesToken.text,
    String.intercalate_singleton, String.toList_append, List.flatMap_cons, List.flatMap_nil, List.map_cons,
    List.map_nil, List.cons_append, List.nil_append, List.append_nil]
  repeat rw [String.toList_ofList]
  decide +kernel

/-- and calls these, what it imports from `ctypes`, builtins, and a parameter. -/
theorem prelude_called : ∀ word ∈ preludeCalled,
    word ∈ ("convert" :: "GoError" :: preludeNames ++ initialCtypes ++ pythonBuiltins).map String.toList := by
  simp only [preludeCalled, preludeLayout, preludeParts, conversions, loadLibrary, releases, initialCtypes,
    eachEnding, preludeNames, pythonBuiltins, Routine.layout, Layout.indented, Declaration.layout,
    Layout.linesAll, Layout.lines, CtypesToken.text, String.intercalate_singleton, String.toList_append,
    List.flatMap_cons, List.flatMap_nil, List.map_cons, List.map_nil, List.cons_append, List.nil_append,
    List.append_nil, ↓reduceIte]
  repeat rw [String.toList_ofList]
  decide +kernel

/-! ## Names of `ctypes` -/

theorem token_ofCtypes {n : String} (t : CtypesToken) (h : n ∈ t.names) : ofCtypes n = true := by
  induction t with
  | pointer target ih =>
    rcases List.mem_cons.1 h with rfl | h
    · decide
    · exact ih h
  | primitive p =>
    rw [List.mem_singleton.1 h]
    cases p <;> decide
  | sizeT | int | charP | voidP =>
    rw [List.mem_singleton.1 h]
    decide

mutual
theorem Expr.names_ofCtypes {n : String} (e : Expr) (h : n ∈ e.ctypesNames) : ofCtypes n = true := by
  cases e with
  | name | none | number | text | emptyBytes | emptyList | entry | cls => simp [ctypesNames] at h
  | ctypes t => exact token_ofCtypes t (by rwa [ctypesNames] at h)
  | byref e =>
    rw [ctypesNames, List.mem_cons] at h
    exact h.elim (fun same => same ▸ by decide) e.names_ofCtypes
  | member e | keyword _ e | isNone e | negation e => exact e.names_ofCtypes (by rwa [ctypesNames] at h)
  | call f args =>
    rw [ctypesNames, List.mem_append] at h
    exact h.elim f.names_ofCtypes (allNames_ofCtypes args)
  | either a b =>
    rw [ctypesNames, List.mem_append] at h
    exact h.elim a.names_ofCtypes b.names_ofCtypes
  | conditional a b c =>
    rw [ctypesNames, List.mem_append, List.mem_append] at h
    exact h.elim (Or.rec a.names_ofCtypes b.names_ofCtypes) c.names_ofCtypes
  | comprehension value var items =>
    rw [ctypesNames, List.mem_append] at h
    exact h.elim value.names_ofCtypes items.names_ofCtypes
theorem Expr.allNames_ofCtypes {n : String} (es : List Expr) (h : n ∈ ctypesNamesAll es) : ofCtypes n = true := by
  cases es with
  | nil => simp [ctypesNamesAll] at h
  | cons e rest =>
    rw [ctypesNamesAll, List.mem_append] at h
    exact h.elim e.names_ofCtypes (allNames_ofCtypes rest)
end

mutual
theorem Stmt.names_ofCtypes {n : String} (s : Stmt) (h : n ∈ s.ctypesNames) : ofCtypes n = true := by
  cases s with
  | expr e => exact e.names_ofCtypes (by rwa [ctypesNames] at h)
  | assign targets e =>
    rw [ctypesNames, List.mem_append] at h
    exact h.elim (Expr.allNames_ofCtypes targets) e.names_ofCtypes
  | ret values => exact Expr.allNames_ofCtypes values (by rwa [ctypesNames] at h)
  | pass => simp [ctypesNames] at h
  | ifs cond body =>
    rw [ctypesNames, List.mem_append] at h
    exact h.elim cond.names_ofCtypes (allNames_ofCtypes body)
  | attempt body failure handler =>
    rw [ctypesNames, List.mem_append] at h
    exact h.elim (allNames_ofCtypes body) (allNames_ofCtypes handler)
theorem Stmt.allNames_ofCtypes {n : String} (ss : List Stmt) (h : n ∈ ctypesNamesAll ss) : ofCtypes n = true := by
  cases ss with
  | nil => simp [ctypesNamesAll] at h
  | cons s rest =>
    rw [ctypesNamesAll, List.mem_append] at h
    exact h.elim s.names_ofCtypes (allNames_ofCtypes rest)
end

/-- What is imported from `ctypes` has a name of `ctypes`. -/
theorem ctypesNames_ofCtypes {library : String} {p : Package} {m : PyModule}
    (made : PyModule.ofPackage library p = some m) {n : String} (h : n ∈ m.ctypesNames) : ofCtypes n = true := by
  have prelude : ∀ n ∈ initialCtypes, ofCtypes n = true := by decide
  rcases (mem_ctypesNames made).1 h with h | ⟨d, -, h⟩ | ⟨d, -, h⟩
  · exact prelude n h
  · obtain ⟨t, -, h⟩ := List.mem_flatMap.1 h
    exact token_ofCtypes t h
  · exact Stmt.allNames_ofCtypes d.body h

/-! ## Names that hide nothing -/

/-- The names that a module imports. -/
def importedNames (m : PyModule) : List String := ["os", "Any", "List", "Optional", "Tuple"] ++ m.ctypesNames

/-- A name at the top level of a module that hides nothing the module refers to. -/
structure Unshadowing (m : PyModule) (n : String) : Prop where
  imported : n ∉ importedNames m
  library : n ≠ "_LIB_NAME"
  defined : n.toList ∉ preludeDefined
  /-- What the prelude calls is not hidden, except from a function that has a parameter of the name. -/
  called : n.toList ∈ preludeCalled → n = "convert"
  builtin : n ∉ pythonBuiltins
  keyword : n ∉ pythonKeywords

/-- What is neither reserved nor a keyword hides nothing. -/
theorem unshadowing {library : String} {p : Package} {m : PyModule}
    (made : PyModule.ofPackage library p = some m) {n : String} (unreserved : pythonReserved.contains n = false)
    (keyword : n ∉ pythonKeywords) : Unshadowing m n := by
  have imported : ∀ k ∈ ["os", "Any", "List", "Optional", "Tuple"], pythonReserved.contains k = true := by decide
  have prelude : ∀ k ∈ "GoError" :: preludeNames ++ initialCtypes ++ pythonBuiltins,
      pythonReserved.contains k = true := by decide +kernel
  have other : ∀ k, pythonReserved.contains k = true → n ≠ k := by
    rintro k reserved rfl
    simp [reserved] at unreserved
  refine ⟨fun h => ?_, other "_LIB_NAME" (by decide), fun h => ?_, fun h => ?_, fun h => ?_, keyword⟩
  · rcases List.mem_append.1 h with h | h
    · exact other n (imported n h) rfl
    · simpa [ofCtypes_unreserved unreserved] using ctypesNames_ofCtypes made h
  · obtain ⟨k, hk, same⟩ := List.mem_map.1 (prelude_defined.mem_iff.1 h)
    refine other k (prelude k ?_) (String.toList_injective same).symm
    exact List.mem_append_left _ (List.mem_append_left _ hk)
  · obtain ⟨k, hk, same⟩ := List.mem_map.1 (prelude_called _ h)
    rcases List.mem_cons.1 hk with rfl | hk
    · exact (String.toList_injective same).symm
    · exact absurd (String.toList_injective same).symm (other k (prelude k hk))
  · exact other n (prelude n (List.mem_append_right _ h)) rfl

/-! ## Classes -/

/-- The name of a struct that no class can have. -/
def Taken (struct : String) : Prop := struct ∈ pythonKeywords ∨ struct ∈ pythonReserved.names

instance (struct : String) : Decidable (Taken struct) := inferInstanceAs (Decidable (_ ∨ _))

/-- No name that begins with a capital has a reserved beginning. -/
theorem capital_unblocked {n : String} {c : Char} (head : n.toList.head? = some c)
    (upper : Text.isUppercase c = true) : pythonReserved.blocks n = false := by
  have lower : Text.isUppercase 'c' = false ∧ Text.isUppercase '_' = false := by decide +kernel
  obtain ⟨rest, chars⟩ := List.head?_eq_some_iff.1 head
  have begins : ∀ start d more, start.toList = d :: more → Text.isUppercase d = false →
      beginsWith start n = false := by
    intro start d more e small
    have apart : d ≠ c := by
      rintro rfl
      simp [upper] at small
    simp [beginsWith, e, chars, List.isPrefixOf, apart]
  have first := begins "c_" 'c' ['_'] (by decide) lower.1
  have second := begins "_" '_' [] (by decide) lower.2
  simp [Reserved.blocks, pythonReserved, first, second]

theorem capital_reserved {n : String} {c : Char} (head : n.toList.head? = some c)
    (upper : Text.isUppercase c = true) : pythonReserved.contains n = true ↔ n ∈ pythonReserved.names := by
  have temporaries : pythonReserved.temporaries = false := rfl
  rw [Reserved.contains, capital_unblocked head upper, Bool.or_false, Reserved.holds, temporaries, Bool.false_and,
    Bool.or_false, List.contains_iff_mem]

theorem padded_untaken (s : String) : ¬ Taken (s ++ "_") := by
  have last : ∀ n ∈ pythonKeywords ++ pythonReserved.names, n.toList.getLast? ≠ some '_' := by decide +kernel
  exact fun h => last _ (List.mem_append.2 h) (by simp)

/-- **The class of an exported struct** has its name, or an underscore after it if that is taken. -/
theorem className_cases {s : String} (h : isExported s = true) :
    Taken s ∧ className s = s ++ "_" ∨ ¬ Taken s ∧ className s = s := by
  obtain ⟨c, rest, chars, upper⟩ := isExported_iff.1 h
  have head : s.toList.head? = some c := by simp [chars]
  have padded : (s ++ "_").toList.head? = some c := by simp [chars]
  have unreserved : pythonReserved.contains (s ++ "_") = false := by
    rw [← Bool.not_eq_true, capital_reserved padded upper]
    exact (not_or.1 (padded_untaken s)).2
  have here := capital_reserved head upper
  unfold className pythonIdent
  by_cases word : s ∈ pythonKeywords
  · exact .inl ⟨.inl word, by simp [word, unreserved]⟩
  · by_cases listed : s ∈ pythonReserved.names
    · exact .inl ⟨.inr listed, by simp [word, here.2 listed]⟩
    · rw [iff_false_right listed, Bool.not_eq_true] at here
      exact .inr ⟨not_or.2 ⟨word, listed⟩, by simp [word, here]⟩

theorem className_head {s : String} {c : Char} (head : s.toList.head? = some c)
    (upper : Text.isUppercase c = true) : (className s).toList.head? = some c := by
  obtain ⟨rest, chars⟩ := List.head?_eq_some_iff.1 head
  have exported := isExported_iff.2 ⟨c, rest, chars, upper⟩
  rcases className_cases exported with ⟨-, e⟩ | ⟨-, e⟩ <;> simp [e, chars]

/-- No class hides what the module refers to. -/
theorem className_unshadowing {library : String} {p : Package} {m : PyModule}
    (made : PyModule.ofPackage library p = some m) {s : String} (h : isExported s = true) :
    Unshadowing m (className s) := by
  obtain ⟨c, rest, chars, upper⟩ := isExported_iff.1 h
  have untaken : ¬ Taken (className s) := by
    rcases className_cases h with ⟨-, e⟩ | ⟨free, e⟩
    · exact e ▸ padded_untaken s
    · rwa [e]
  obtain ⟨keyword, unlisted⟩ := not_or.1 untaken
  refine unshadowing made ?_ keyword
  rwa [← Bool.not_eq_true, capital_reserved (className_head (by simp [chars]) upper) upper]

/-- **Two classes have one name** exactly if one of their structs is called like the other, whose name is taken,
with an underscore. -/
theorem classNames_nodup {structs : List String} (distinct : structs.Nodup)
    (exported : ∀ s ∈ structs, isExported s = true) :
    (structs.map className).Nodup ↔ ∀ s ∈ structs, Taken s → s ++ "_" ∉ structs := by
  rw [List.nodup_map_iff_inj_on distinct]
  constructor
  · intro injective s hs taken padded
    have first : className s = s ++ "_" :=
      ((className_cases (exported s hs)).resolve_right fun h => h.1 taken).2
    have second : className (s ++ "_") = s ++ "_" :=
      ((className_cases (exported _ padded)).resolve_left fun h => padded_untaken s h.1).2
    have same := injective s hs _ padded (first.trans second.symm)
    simpa using congrArg String.length same
  · intro apart a ha b hb same
    rcases className_cases (exported a ha) with ⟨ta, ea⟩ | ⟨-, ea⟩ <;>
      rcases className_cases (exported b hb) with ⟨tb, eb⟩ | ⟨-, eb⟩ <;> rw [ea, eb] at same
    · simpa [← String.toList_inj] using same
    · exact absurd (same ▸ hb) (apart a ha ta)
    · exact absurd (same ▸ ha) (apart b hb tb)
    · exact same

/-! ## Functions -/

/-- The functions of a module have the names that are claimed for them. -/
theorem functionsOf_names {structs : StructNames} {package : String} {fs : List FuncSurface} {ds : List Def}
    (h : functionsOf structs package fs = some ds) :
    claimAll pythonReserved [] ((fs.map (·.func.name)).map memberName) = some (ds.map (·.name)) := by
  simp only [functionsOf, bind, Option.bind_eq_some_iff] at h
  obtain ⟨names, claimed, made⟩ := h
  have length : names.length = fs.length := by rw [claimAll_length claimed, List.length_map]
  have named : (fs.zip names).map (·.2) = ds.map (·.name) := by
    rw [← List.forall₂_eq_eq_eq, List.forall₂_map_left_iff, List.forall₂_map_right_iff]
    refine (forall₂_of_mapM made).imp fun x d hd => ?_
    simp only [functionOf, bind, Option.bind_eq_some_iff, pure, Option.some.injEq] at hd
    obtain ⟨_, -, rfl⟩ := hd
    rfl
  rw [← named, List.map_snd_zip (Nat.le_of_eq length)]
  simpa [Function.comp_def] using claimed

/-- The name begins with a character that has a small letter. -/
def BeginsSmall (name : String) : Prop :=
  ∀ c ∈ name.toList.head?, ∀ l ∈ (Text.lower c).head?, Text.isUppercase l = false

/-- A letter of ASCII has a small one. -/
theorem beginsSmall_ascii {name : String} (h : ∀ c ∈ name.toList.head?, c.toNat < 0x80) : BeginsSmall name := by
  have ascii : ∀ n < 128, Text.isUppercase (Char.ofNat n).toLower = false := by decide +kernel
  intro c hc l hl
  rw [Text.lower_ascii c (h c hc)] at hl
  cases hl
  have small := ascii c.toNat (h c hc)
  rwa [Char.ofNat_toNat] at small

/-- A function whose name begins with a character that has a small letter is called like no class. -/
theorem functionName_apart {go name : String} (named : NamedAfter go name) (exported : isExported go = true)
    (small : BeginsSmall go) {s : String} (visible : isExported s = true) : name ≠ className s := by
  obtain ⟨c, rest, chars, -⟩ := isExported_iff.1 exported
  obtain ⟨d, more, letters, upper⟩ := isExported_iff.1 visible
  have begins : name.toList.head? = (Text.lower c).head? :=
    (named.head (by rintro rfl; cases chars)).trans (memberName_head chars)
  rintro rfl
  rw [className_head (by simp [letters]) upper] at begins
  simp [small c (by simp [chars]) d begins.symm] at upper

/-! ## The module -/

def functionNames (m : PyModule) : List String := m.functions.map (·.name)

def classNames (m : PyModule) : List String := m.classes.map (className ·.struct)

/-- The names of the functions and classes of a module. -/
structure NamesDecided (p : Package) (m : PyModule) : Prop where
  named : List.Forall₂ (fun f n => NamedAfter f.func.name n) (Surface.ofPackage p).functions (functionNames m)
  classNamed : classNames m = p.structNames.map className
  unshadowing : ∀ n ∈ classNames m ++ functionNames m, Unshadowing m n
  functions : (functionNames m).Nodup
  /-- Classes are distinct exactly if no struct is called like one of a taken name with an underscore. -/
  classes : (classNames m).Nodup ↔ ∀ s ∈ p.structNames, Taken s → s ++ "_" ∉ p.structNames
  /-- A function is called like a class only if it begins with a capital that has no small letter. -/
  apart : List.Forall₂ (fun f n => BeginsSmall f.func.name → n ∉ classNames m)
    (Surface.ofPackage p).functions (functionNames m)

theorem ofPackage_names {library : String} {p : Package} {m : PyModule}
    (functions : ∀ f ∈ p.functions, isExported f.name = true) (structs : ∀ s ∈ p.structNames, isExported s = true)
    (distinct : p.structNames.Nodup) (h : PyModule.ofPackage library p = some m) : NamesDecided p m := by
  have classNamed : classNames m = p.structNames.map className := by
    rw [← classes_structs h, List.map_map]
    rfl
  have claimed : claimAll pythonReserved []
      (((Surface.ofPackage p).functions.map (·.func.name)).map memberName) = some (functionNames m) := by
    obtain ⟨_, _, _, -, made, -, rfl⟩ := PyModule.ofPackage_eq_some_iff.1 h
    exact functionsOf_names made
  obtain ⟨apart, unused, -⟩ := claimAll_claimed claimed
  have named := (List.forall₂_map_left_iff).1 (claimAll_namedAfter claimed)
  exact
    { named
      classNamed
      unshadowing := by
        refine List.forall_mem_append.2 ⟨fun n hn => ?_, fun n hn => ?_⟩
        · rw [classNamed] at hn
          obtain ⟨s, hs, rfl⟩ := List.mem_map.1 hn
          exact className_unshadowing h (structs s hs)
        · exact unshadowing h (unused n hn).1 (claimAll_nonKeyword claimed n hn)
      functions := apart
      classes := by rw [classNamed, classNames_nodup distinct structs]
      apart := by
        have exported : ∀ f ∈ (Surface.ofPackage p).functions, isExported f.func.name = true :=
          fun f hf => functions f.func (Surface.function_source hf).1
        refine ((List.forall₂_and_left _ _).2 ⟨exported, named⟩).imp ?_
        rintro f n ⟨visible, after⟩ small hn
        rw [classNamed] at hn
        obtain ⟨s, hs, same⟩ := List.mem_map.1 hn
        exact functionName_apart after visible small (structs s hs) same.symm }

/-- Where functions begin with characters that have small letters, only classes can meet. -/
theorem NamesDecided.nodup_iff {p : Package} {m : PyModule} (h : NamesDecided p m)
    (small : ∀ f ∈ p.functions, BeginsSmall f.name) :
    (classNames m ++ functionNames m).Nodup ↔ ∀ s ∈ p.structNames, Taken s → s ++ "_" ∉ p.structNames := by
  have disjoint : List.Disjoint (classNames m) (functionNames m) := by
    intro n hc hf
    obtain ⟨f, hm, apart⟩ := exists_related h.apart hf
    exact apart (small f.func (Surface.function_source hm).1) hc
  rw [List.nodup_append', h.classes]
  exact ⟨fun all => all.1, fun classes => ⟨classes, h.functions, disjoint⟩⟩

open Extraction (extract extracted_exported)

/-- **The names of a module hide nothing that it refers to.** Its functions have distinct names. Its classes do
exactly if no struct is called like one of a taken name with an underscore, and no class is called like a
function that begins with a character that has a small letter. -/
theorem module_names {opts : ExtractOptions} {dir path library : String} {sources : List (String × String)}
    {x : Extraction} {m : PyModule} (h : (extract opts dir sources).1 = .ok x)
    (distinct : x.package.structNames.Nodup)
    (made : PyModule.ofPackage library (x.withImportPath path).package = some m) :
    NamesDecided (x.withImportPath path).package m := by
  have visible := extracted_exported h
  refine ofPackage_names visible.functions (fun s hs => ?_) distinct made
  obtain ⟨t, ht, rfl⟩ := List.mem_map.1 hs
  exact (visible.structs t ht).1

/-- The names in the module of some sources, which are computed. -/
theorem exists_names (sources : List (String × String)) (structs classes functions : List String)
    (seen : ((extract ⟨false, false⟩ "" sources).1.toOption.bind fun x =>
      (PyModule.ofPackage "geo" (x.withImportPath "").package).map fun m =>
        (x.package.structNames, classNames m, functionNames m)) = some (structs, classes, functions)) :
    ∃ x m, (extract ⟨false, false⟩ "" sources).1 = .ok x ∧
      PyModule.ofPackage "geo" (x.withImportPath "").package = some m ∧
      x.package.structNames = structs ∧ classNames m = classes ∧ functionNames m = functions := by
  obtain ⟨x, hx, later⟩ := Option.bind_eq_some_iff.1 seen
  obtain ⟨m, hm, shown⟩ := Option.map_eq_some_iff.1 later
  simp only [Prod.mk.injEq] at shown
  exact ⟨x, m, ok_of_toOption hx, hm, shown⟩

/-- A struct with the name of a type hint, and functions whose names fall together in Python. -/
def shelf : List (String × String) :=
  [("g.go", "package g\ntype List struct{}\nfunc Len() {}\nfunc AB() {}\nfunc A_b() {}\n")]

theorem module_names_shelf :
    ∃ x m, (extract ⟨false, false⟩ "" shelf).1 = .ok x ∧ x.package.structNames.Nodup ∧
      PyModule.ofPackage "geo" (x.withImportPath "").package = some m ∧
      classNames m = ["List_"] ∧ functionNames m = ["len_", "a_b", "a_b_"] ∧
      NamesDecided (x.withImportPath "").package m := by
  obtain ⟨x, m, extracted, made, structs, classes, functions⟩ :=
    exists_names shelf ["List"] ["List_"] ["len_", "a_b", "a_b_"] (by decide +kernel)
  have distinct : x.package.structNames.Nodup := by simp [structs]
  exact ⟨x, m, extracted, distinct, made, classes, functions, module_names extracted distinct made⟩

/-- Two structs, the second of which is called like the class of the first. -/
def lists : List (String × String) :=
  [("list.go", "package geo\n\ntype List struct{}\n\ntype List_ struct{}\n")]

/-- **Not all modules define distinct classes.** -/
theorem classes_collide :
    ∃ x m, (extract ⟨false, false⟩ "" lists).1 = .ok x ∧
      PyModule.ofPackage "geo" (x.withImportPath "").package = some m ∧ x.package.structNames = ["List", "List_"] ∧
      classNames m = ["List_", "List_"] ∧ functionNames m = [] :=
  exists_names lists _ _ _ (by decide +kernel)

/-- A struct and a function that begin with a capital that has no small letter. -/
def plane : List (String × String) :=
  [("p.go", "package p\ntype ℂ_a struct{}\nfunc ℂA() {}\n")]

/-- **A function may be called like a class.** -/
theorem function_collides :
    ∃ x m, (extract ⟨false, false⟩ "" plane).1 = .ok x ∧
      PyModule.ofPackage "geo" (x.withImportPath "").package = some m ∧ x.package.structNames = ["ℂ_a"] ∧
      classNames m = ["ℂ_a"] ∧ functionNames m = ["ℂ_a"] :=
  exists_names plane _ _ _ (by decide +kernel)

end Py

end GoGlue
