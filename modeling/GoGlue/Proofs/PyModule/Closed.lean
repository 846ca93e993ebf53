import GoGlue.Proofs.PyModule.Emitted

/-!
# The module is closed

The names of `ctypes` that a module imports are those that were noted while it was emitted. That the list is
complete and holds nothing else is what makes the module load without a name that is missing, and run without one
that nothing defines: each name that the code of the module looks up is then a parameter, a local, a builtin, a
function of the prelude, an imported name or the class of a struct. Two classes may have one name, as those of
`List` and `List_` do; a hint then names the class of either.

* `spelling_ctypes`, `layout_ctypes`: a name of `ctypes` in code is a word of its text.
* `hint_declared`: a hint names structs of the package only.
* `definition_resolved`: what a definition looks up is found.
* `module_closed`: what the emitter writes is a closed module.
-/
namespace GoGlue

open Text (words words_after words_around words_before mem_words_intercalate)

/-- The structs whose classes a hint names. -/
def PyHint.classes : PyHint → List String
  | cls struct => [struct]
  | optional h | list h => h.classes
  | scalar _ | str | bytes | any => []

namespace Py

/-! ## Names of `ctypes` in the text -/

-- literals between the parts of a text separate their words
mutual
/-- **A name of `ctypes` that an expression uses is a word of its spelling.** -/
theorem Expr.spelling_ctypes {n : String} (e : Expr) (h : n ∈ e.ctypesNames) : n ∈ words e.spelling := by
  cases e with
  | name | none | number | text | emptyBytes | emptyList | entry | cls => simp [ctypesNames] at h
  | ctypes t => rwa [spelling, t.token_words]
  | byref e =>
    have function : words "byref(" = ["byref"] := by decide +kernel
    rw [ctypesNames, List.mem_cons] at h
    simp (disch := decide +kernel) only [spelling, words_after, words_before, function, List.mem_append,
      List.mem_singleton]
    exact .inl (h.imp id e.spelling_ctypes)
  | member e n =>
    simp (disch := decide +kernel) only [spelling, words_around, List.mem_append]
    exact .inl (.inl (e.spelling_ctypes (by rwa [ctypesNames] at h)))
  | keyword n e =>
    simp (disch := decide +kernel) only [spelling, words_around, List.mem_append]
    exact .inr (e.spelling_ctypes (by rwa [ctypesNames] at h))
  | isNone e =>
    simp (disch := decide +kernel) only [spelling, words_after, List.mem_append]
    exact .inl (e.spelling_ctypes (by rwa [ctypesNames] at h))
  | negation e =>
    simp (disch := decide +kernel) only [spelling, words_before, List.mem_append]
    exact .inr (e.spelling_ctypes (by rwa [ctypesNames] at h))
  | call f args =>
    rw [ctypesNames, List.mem_append] at h
    simp (disch := decide +kernel) only [spelling, words_after, words_around, List.mem_append]
    refine .inl (h.elim (fun hf => .inl (.inl (f.spelling_ctypes hf))) fun ha => .inr ?_)
    obtain ⟨x, hx, hn⟩ := spellings_ctypes args ha
    exact mem_words_intercalate hx hn
  | either a b =>
    rw [ctypesNames, List.mem_append] at h
    simp (disch := decide +kernel) only [spelling, words_around, List.mem_append]
    exact h.elim (fun ha => .inl (.inl (a.spelling_ctypes ha))) fun hb => .inr (b.spelling_ctypes hb)
  | conditional a b c =>
    rw [ctypesNames, List.mem_append, List.mem_append] at h
    simp (disch := decide +kernel) only [spelling, words_around, List.mem_append]
    rcases h with (ha | hb) | hc
    · exact .inl (.inl (.inl (.inl (a.spelling_ctypes ha))))
    · exact .inl (.inl (.inr (b.spelling_ctypes hb)))
    · exact .inr (c.spelling_ctypes hc)
  | comprehension value var items =>
    rw [ctypesNames, List.mem_append] at h
    simp (disch := decide +kernel) only [spelling, words_after, words_around, words_before, List.mem_append]
    rcases h with hv | hi
    · exact .inl (.inl (.inl (.inl (.inl (.inr (value.spelling_ctypes hv))))))
    · exact .inl (.inr (items.spelling_ctypes hi))
theorem Expr.spellings_ctypes {n : String} (es : List Expr) (h : n ∈ ctypesNamesAll es) :
    ∃ x ∈ spellings es, n ∈ words x := by
  cases es with
  | nil => cases h
  | cons e rest =>
    rw [ctypesNamesAll, List.mem_append] at h
    rcases h with he | hr
    · exact ⟨e.spelling, List.mem_cons_self, e.spelling_ctypes he⟩
    · obtain ⟨x, hx, hn⟩ := spellings_ctypes rest hr
      exact ⟨x, List.mem_cons_of_mem _ hx, hn⟩
end

theorem Expr.list_ctypes {es : List Expr} {n : String} (h : n ∈ ctypesNamesAll es) :
    n ∈ words (", ".intercalate (es.map spelling)) := by
  obtain ⟨e, he, hn⟩ := mem_ctypesNamesAll.1 h
  exact mem_words_intercalate (List.mem_map_of_mem he) (e.spelling_ctypes hn)

/-- The name is a word of one of the lines. -/
def Occurs (n : String) (ls : List Layout) : Prop := ∃ line ∈ Layout.linesAll ls, n ∈ words line

theorem occurs_append {n : String} {ls ms : List Layout} (h : Occurs n ls ∨ Occurs n ms) :
    Occurs n (ls ++ ms) := by
  unfold Occurs
  rw [Layout.linesAll_append]
  rcases h with ⟨line, hl, hn⟩ | ⟨line, hl, hn⟩
  · exact ⟨line, List.mem_append_left _ hl, hn⟩
  · exact ⟨line, List.mem_append_right _ hl, hn⟩

theorem occurs_line {n text : String} {ls : List Layout} (h : n ∈ words text) : Occurs n (.line text :: ls) :=
  ⟨text, List.mem_cons_self, h⟩

theorem occurs_header {n header : String} {body ls : List Layout} (h : n ∈ words header) :
    Occurs n (.indented header body :: ls) := ⟨header, List.mem_cons_self, h⟩

theorem Occurs.inside {n header : String} {body ls : List Layout} (h : Occurs n body) :
    Occurs n (.indented header body :: ls) := by
  obtain ⟨line, hl, hn⟩ := h
  refine ⟨line, List.mem_append_left _ (List.mem_cons_of_mem _ (List.mem_append_left _ hl)), hn⟩

mutual
theorem Stmt.layout_ctypes {n : String} (s : Stmt) (h : n ∈ s.ctypesNames) : Occurs n s.layout := by
  cases s with
  | expr e =>
    rw [layout]
    exact occurs_line (e.spelling_ctypes (by rwa [ctypesNames] at h))
  | assign targets e =>
    rw [layout]
    rw [ctypesNames, List.mem_append] at h
    refine occurs_line ?_
    simp (disch := decide +kernel) only [words_around, List.mem_append]
    exact h.elim (fun ht => .inl (.inl (Expr.list_ctypes ht))) fun he => .inr (e.spelling_ctypes he)
  | ret values =>
    rw [layout]
    refine occurs_line ?_
    simp (disch := decide +kernel) only [words_before, List.mem_append]
    exact .inr (Expr.list_ctypes (by rwa [ctypesNames] at h))
  | pass => simp [ctypesNames] at h
  | ifs cond body =>
    rw [layout]
    rw [ctypesNames, List.mem_append] at h
    refine h.elim (fun hc => occurs_header ?_) fun hb => (layouts_ctypes body hb).inside
    simp (disch := decide +kernel) only [words_after, words_before, List.mem_append]
    exact .inl (.inr (cond.spelling_ctypes hc))
  | attempt body failure handler =>
    rw [layout]
    rw [ctypesNames, List.mem_append] at h
    rcases h with hb | hh
    · exact (layouts_ctypes body hb).inside
    · rw [← List.singleton_append]
      exact occurs_append (.inr (layouts_ctypes handler hh).inside)
/-- **A name of `ctypes` that statements use is a word of one of their lines.** -/
theorem Stmt.layouts_ctypes {n : String} (ss : List Stmt) (h : n ∈ ctypesNamesAll ss) :
    Occurs n (layouts ss) := by
  cases ss with
  | nil => cases h
  | cons s rest =>
    rw [layouts]
    rw [ctypesNamesAll, List.mem_append] at h
    exact occurs_append (h.imp s.layout_ctypes (layouts_ctypes rest))
end

/-! ## Type hints -/

def ReturnHint.classes : ReturnHint → List String
  | none => []
  | one h => h.classes
  | tuple hs => hs.flatMap PyHint.classes

/-- The structs whose classes the hints of a definition name. -/
def Def.hinted (d : Def) : List String :=
  (d.params.flatMap fun x => x.hint.toList.flatMap PyHint.classes) ++ d.returns.classes

/-- **A hint names structs of the package only.** -/
theorem hint_declared {structs : StructNames} {t : GoType} {tr : Transfer} (h : classify structs t = .ok tr) :
    ∀ struct ∈ (PyType.describe t tr).hint.classes, struct ∈ structs := by
  intro struct hs
  induction tr generalizing t with
  | value p => cases hs
  | ownedString => cases hs
  | errorOut => cases hs
  | handle kind nullable =>
    have known : (Transfer.handle kind nullable).knownStruct = some struct := by
      cases kind with
      | struct name package known =>
        cases known <;> cases nullable <;>
          simp_all [PyType.describe, PyType.handleHint, PyType.plain, PyHint.classes, Transfer.knownStruct]
      | _ => cases hs
    exact known_declared h known
  | composite kind elem len ih =>
    obtain ⟨te, he, hc⟩ := classify_composite h
    refine ih hc ?_
    cases kind <;> simp_all [PyType.describe, PyType.plain, PyHint.classes]

theorem slot_declared {structs : StructNames} {s : Slot} (h : s.Form structs) :
    ∀ struct ∈ (slotType s).hint.classes, struct ∈ structs := by
  cases h with
  | scalar ht | bytes ht | slice ht | array ht | pointer ht => exact hint_declared ht

/-! ## What is found -/

variable {library : String} {p : Package} {m : PyModule}

/-- The name is one that the module imports from `ctypes`. -/
def ofCtypes (n : String) : Bool :=
  ["CDLL", "string_at", "POINTER", "byref"].contains n || beginsWith "c_" n

/-- What the prelude defines for the code after it. -/
def preludeNames : List String := "_lib" :: (loadLibrary :: conversions).map (·.name)

/-- Where a name that a definition looks up is found. A plain name does not pass for one of `ctypes`. -/
def Resolved (m : PyModule) (d : Def) : Lookup → Prop
  | .ctypes n => n ∈ m.ctypesNames
  | .cls struct => ∃ c ∈ m.classes, c.struct = struct
  | .plain n => ofCtypes n = false ∧
    (n ∈ d.params.map (·.name) ∨ n ∈ Stmt.assignedAll d.body ∨ n ∈ pythonBuiltins ∨ n ∈ preludeNames)

/-- What is not reserved is no name of `ctypes`. -/
theorem ofCtypes_unreserved {n : String} (h : pythonReserved.contains n = false) : ofCtypes n = false := by
  have reserved : ∀ k ∈ ["CDLL", "string_at", "POINTER", "byref"], k ∈ pythonReserved.names := by decide
  simp only [Reserved.contains, Reserved.holds, Reserved.blocks, Bool.or_eq_false_iff] at h
  obtain ⟨⟨names, -⟩, beginnings⟩ := h
  have others : n ∉ ["CDLL", "string_at", "POINTER", "byref"] := fun hn => by
    simp [reserved n hn] at names
  have fixed : beginsWith "c_" n = false := by
    simpa using List.any_eq_false.1 beginnings "c_" (by decide)
  rw [ofCtypes, fixed, Bool.or_false]
  simpa using others

theorem ofCtypes_local (name : String) : ofCtypes (localOf name) = false := by
  have first : ∀ k ∈ ["CDLL", "string_at", "POINTER", "byref"], k.toList.head? ≠ some '_' := by decide
  have starts : (localOf name).toList.head? = some '_' := by simp [localOf]
  have others : localOf name ∉ ["CDLL", "string_at", "POINTER", "byref"] := fun hn => first _ hn starts
  have fixed : beginsWith "c_" (localOf name) = false := by
    simp [beginsWith, localOf, List.isPrefixOf]
  rw [ofCtypes, fixed, Bool.or_false]
  simpa using others

/-- The bodies of plans call functions that exist. -/
theorem bodyFunctions_found {d : Def} : ∀ f ∈ bodyFunctions, Resolved m d (.plain f) := by
  have found : ∀ f ∈ bodyFunctions, ofCtypes f = false ∧ (f ∈ pythonBuiltins ∨ f ∈ preludeNames) := by
    decide
  intro f hf
  exact ⟨(found f hf).1, .inr (.inr (found f hf).2)⟩

/-- A definition finds the names of `ctypes` that it looks up. -/
theorem ctypes_imported (h : PyModule.ofPackage library p = some m) {d : Def} (hd : d ∈ m.definitions) {n : String}
    (hn : .ctypes n ∈ d.lookups) : n ∈ m.ctypesNames :=
  (mem_ctypesNames h).2 (.inr (.inr ⟨d, hd, (Stmt.lookupsAll_ctypes d.body).1 hn⟩))

/-- A definition that looks up plain names only. -/
theorem plain_resolved {d : Def} (looked params assigned : List String)
    (hl : d.lookups = looked.map .plain) (hp : d.params.map (·.name) = params)
    (ha : Stmt.assignedAll d.body = assigned)
    (found : ∀ n ∈ looked, ofCtypes n = false ∧
      (n ∈ params ∨ n ∈ assigned ∨ n ∈ pythonBuiltins ∨ n ∈ preludeNames)) :
    ∀ x ∈ d.lookups, Resolved m d x := by
  rw [hl, List.forall_mem_map]
  intro n hn
  rw [Resolved, hp, ha]
  exact found n hn

/-- The members that every class has use their parameters, a local, builtins and the library. -/
theorem fixedMembers_resolved {struct : String} {hasMethods : Bool} {d : Def}
    (hd : d ∈ fixedMembers struct hasMethods) : ∀ x ∈ d.lookups, Resolved m d x := by
  have all : d ∈ [initMember struct, fromHandleMember struct, freeMember struct, delMember] ∨
      d ∈ [enterMember struct, exitMember] := by
    refine (List.mem_append.1 hd).imp id fun later => ?_
    split at later
    · exact later
    · cases later
  simp only [List.mem_cons, List.not_mem_nil, or_false] at all
  rcases all with (rfl | rfl | rfl | rfl) | (rfl | rfl)
  · exact plain_resolved ["self", "_lib", "_handle", "_handle"] ["self", "_handle"] [] rfl rfl rfl (by decide)
  · exact plain_resolved ["handle", "cls", "handle"] ["cls", "handle"] [] rfl rfl rfl (by decide)
  · exact plain_resolved ["getattr", "self", "handle", "self", "_lib", "handle"] ["self"] ["handle"] rfl rfl
      rfl (by decide)
  · exact plain_resolved ["self", "Exception"] ["self"] [] rfl rfl rfl (by decide)
  · exact plain_resolved ["self"] ["self"] [] rfl rfl rfl (by decide)
  · exact plain_resolved ["self"] ["self", "exc"] [] rfl rfl rfl (by decide)

/-- What a definition for a callable looks up is found. -/
theorem laidOut_resolved (h : PyModule.ofPackage library p = some m) {c : Callable} {names : List String}
    {d : Def} (hd : d ∈ m.definitions) (hf : c.plan.Formed p.structNames) (laid : LaidOut c names d)
    (free : ∀ n ∈ names, ofCtypes n = false) : ∀ x ∈ d.lookups, Resolved m d x := by
  have parameter : ∀ n ∈ names, n ∈ d.params.map (·.name) := fun n hn => by
    rw [laid.params, List.map_append, typedParams_names laid.length]
    exact List.mem_append_right _ hn
  have self : c.bound = true → "self" ∈ d.params.map (·.name) := fun hb => by
    simp [laid.params, hb, Parameter.plain]
  have known : Known p.structNames fun x => (∃ n, x = .ctypes n) ∨ Resolved m d x :=
    ⟨fun f hf => .inr (bodyFunctions_found f hf), fun n => .inl ⟨n, rfl⟩, fun struct hs => .inr <| by
      rw [← classes_structs h] at hs
      exact List.mem_map.1 hs⟩
  intro x hx
  have found : (∃ n, x = .ctypes n) ∨ Resolved m d x := by
    refine callBody_lookups known hf (fun hb => .inr ⟨by decide, .inl (self hb)⟩)
      (fun n hn => .inr ⟨free n hn, .inl (parameter n hn)⟩) (fun l hl => .inr ?_) x
      (by rwa [Def.lookups, laid.body] at hx)
    obtain ⟨name, rfl⟩ := assigned_localOf hf hl
    exact ⟨ofCtypes_local name, .inr (.inl (laid.body ▸ hl))⟩
  rcases found with ⟨n, rfl⟩ | found
  · exact ctypes_imported h hd hx
  · exact found

/-- **What a definition looks up is found.** -/
theorem definition_resolved (h : PyModule.ofPackage library p = some m) {d : Def} (hd : d ∈ m.definitions) :
    ∀ x ∈ d.lookups, Resolved m d x := by
  rcases definitions_cases h hd with ⟨s, -, hasMethods, fixed⟩ | ⟨c, hc, claimed | accesses⟩
  · exact fixedMembers_resolved fixed
  · obtain ⟨names, hn, laid⟩ := claimed
    refine laidOut_resolved h hd (Surface.callables_formed p c hc) laid fun n hm => ?_
    exact ofCtypes_unreserved (parameterNames_unreserved hn n hm).1
  · obtain ⟨names, value, laid⟩ := accesses
    refine laidOut_resolved h hd (Surface.callables_formed p c hc) laid fun n hm => ?_
    rcases value with rfl | rfl
    · cases hm
    · rw [List.mem_singleton.1 hm]
      decide

/-! ## The module -/

/-- The classes that a declaration writes down. -/
def Declaration.tokens (d : Declaration) : List CtypesToken := d.arguments ++ d.result.toList

theorem Declaration.mem_ctypesNames {d : Declaration} {n : String} :
    n ∈ d.ctypesNames ↔ ∃ t ∈ d.tokens, n ∈ words t.text := by
  simp only [ctypesNames, tokens, List.mem_flatMap, CtypesToken.token_words]

/-- A class that a declaration writes down is found in its lines. -/
theorem Declaration.layout_ctypes {d : Declaration} {t : CtypesToken} (ht : t ∈ d.tokens) {n : String}
    (hn : n ∈ words t.text) : Occurs n d.layout := by
  unfold layout
  rcases List.mem_append.1 ht with ha | hr
  · refine occurs_line ?_
    have listed : n ∈ words (", ".intercalate (d.arguments.map CtypesToken.text)) :=
      mem_words_intercalate (List.mem_map_of_mem ha) hn
    simp (disch := decide +kernel) only [words_after, words_around, List.mem_append]
    exact .inl (.inr listed)
  · rw [Option.mem_toList.1 hr, ← List.singleton_append]
    refine occurs_append (.inr (occurs_line ?_))
    simp (disch := decide +kernel) only [words_around, List.mem_append]
    exact .inr hn

/-- A name that is imported from `ctypes` is used in the prelude, in a declaration or by a definition. -/
def Used (m : PyModule) (n : String) : Prop :=
  Occurs n preludeLayout ∨
    (∃ d ∈ m.declarations, (∃ t ∈ d.tokens, n ∈ words t.text) ∧ Occurs n d.layout) ∨
      ∃ d ∈ m.definitions, .ctypes n ∈ d.lookups ∧ Occurs n (Stmt.layouts d.body)

/-- The module is closed. -/
structure Closed (m : PyModule) (structs : StructNames) : Prop where
  /-- What the prelude uses of `ctypes` is imported, -/
  prelude : ∀ line ∈ Layout.linesAll preludeLayout, ∀ n ∈ words line, ofCtypes n = true → n ∈ m.ctypesNames
  /-- what a declaration uses, -/
  declared : ∀ d ∈ m.declarations, ∀ t ∈ d.tokens, ∀ n ∈ words t.text, n ∈ m.ctypesNames
  /-- and what a body uses, which finds everything else as well. -/
  resolved : ∀ d ∈ m.definitions, ∀ x ∈ d.lookups, Resolved m d x
  used : ∀ n ∈ m.ctypesNames, Used m n
  /-- There is a class for each struct of the package, -/
  classes : m.classes.map (·.struct) = structs
  /-- and no hint names another one. -/
  hinted : ∀ d ∈ m.definitions, ∀ struct ∈ d.hinted, ∃ c ∈ m.classes, c.struct = struct

/-- The words of the prelude that pass for names of `ctypes` are those that are imported for it. The words are
lists of characters here, which are cheap to compare. -/
theorem prelude_words :
    let words := (Layout.linesAll preludeLayout).flatMap fun line => Text.pieces line.toList
    let names := initialCtypes.map String.toList
    (∀ w ∈ words, (["CDLL", "string_at", "POINTER", "byref"].map String.toList).contains w = true ∨
      "c_".toList.isPrefixOf w = true → w ∈ names) ∧ ∀ w ∈ names, w ∈ words := by
  simp only [preludeLayout, preludeParts, conversions, loadLibrary, releases, initialCtypes, eachEnding,
    Routine.layout, Layout.indented, Declaration.layout, Layout.linesAll, Layout.lines, CtypesToken.text,
    String.intercalate_singleton, String.toList_append, List.flatMap_cons, List.flatMap_nil, List.map_cons,
    List.map_nil, List.cons_append, List.nil_append, List.append_nil, ↓reduceIte]
  repeat rw [String.toList_ofList]
  decide +kernel

theorem prelude_ctypes {line n : String} (hl : line ∈ Layout.linesAll preludeLayout) (hn : n ∈ words line)
    (hc : ofCtypes n = true) : n ∈ initialCtypes := by
  have word : n.toList ∈ (Layout.linesAll preludeLayout).flatMap fun line => Text.pieces line.toList :=
    List.mem_flatMap.2 ⟨line, hl, (Text.mem_words.1 hn).1⟩
  have named : (["CDLL", "string_at", "POINTER", "byref"].map String.toList).contains n.toList = true ∨
      "c_".toList.isPrefixOf n.toList = true := by
    refine (Bool.or_eq_true _ _).mp hc |>.imp (fun listed => ?_) id
    rw [List.contains_iff_mem] at listed ⊢
    exact List.mem_map_of_mem listed
  obtain ⟨k, hk, same⟩ := List.mem_map.1 (prelude_words.1 n.toList word named)
  rwa [← String.toList_injective same]

theorem prelude_used {n : String} (hn : n ∈ initialCtypes) : Occurs n preludeLayout := by
  have nonempty : ∀ n ∈ initialCtypes, n ≠ "" := by decide
  obtain ⟨line, hl, word⟩ := List.mem_flatMap.1 (prelude_words.2 n.toList (List.mem_map_of_mem hn))
  exact ⟨line, hl, Text.mem_words.2 ⟨word, nonempty n hn⟩⟩

theorem ctypesNames_used (h : PyModule.ofPackage library p = some m) : ∀ n ∈ m.ctypesNames, Used m n := by
  intro n hn
  rcases (mem_ctypesNames h).1 hn with prelude | ⟨d, hd, hn⟩ | ⟨d, hd, hn⟩
  · exact .inl (prelude_used prelude)
  · obtain ⟨t, ht, hn⟩ := Declaration.mem_ctypesNames.1 hn
    exact .inr (.inl ⟨d, hd, ⟨t, ht, hn⟩, Declaration.layout_ctypes ht hn⟩)
  · exact .inr (.inr ⟨d, hd, (Stmt.lookupsAll_ctypes d.body).2 hn, Stmt.layouts_ctypes d.body hn⟩)

theorem laidOut_hinted {structs : StructNames} {c : Callable} {names : List String} {d : Def}
    (hf : c.plan.Formed structs) (laid : LaidOut c names d) : ∀ struct ∈ d.hinted, struct ∈ structs := by
  have params : ∀ x ∈ typedParams c.plan names, ∀ h ∈ x.hint, ∀ struct ∈ h.classes, struct ∈ structs := by
    intro x hx h hh
    rw [typedParams, ← List.map_uncurry_zip_eq_zipWith] at hx
    obtain ⟨⟨s, name⟩, hz, rfl⟩ := List.mem_map.1 hx
    cases hh
    exact slot_declared (hf.params s (List.of_mem_zip hz).1)
  have results : ∀ s ∈ c.plan.results, ∀ struct ∈ (slotType s).hint.classes, struct ∈ structs :=
    fun s hs => slot_declared (hf.results s hs).1
  intro struct hs
  rw [Def.hinted, List.mem_append, laid.params, laid.returns] at hs
  rcases hs with hs | hs
  · obtain ⟨x, hx, hs⟩ := List.mem_flatMap.1 hs
    obtain ⟨h, hh, hs⟩ := List.mem_flatMap.1 hs
    have hh : x.hint = some h := Option.mem_toList.1 hh
    rcases List.mem_append.1 hx with receiver | own
    · split at receiver
      · rw [List.mem_singleton.1 receiver] at hh
        cases hh
      · cases receiver
    · exact params x own h hh struct hs
  · unfold returnHint at hs
    split at hs
    · cases hs
    · next s only => exact results s (by simp [only]) struct hs
    · rw [ReturnHint.classes, List.flatMap_map] at hs
      obtain ⟨s, hm, hs⟩ := List.mem_flatMap.1 hs
      exact results s hm struct hs

theorem fixedMembers_hinted {struct : String} {hasMethods : Bool} {d : Def}
    (hd : d ∈ fixedMembers struct hasMethods) : ∀ s ∈ d.hinted, s = struct := by
  have all : ∀ d ∈ fixedMembers struct true, d.hinted ⊆ [struct] := by
    simp [fixedMembers, initMember, fromHandleMember, freeMember, delMember, enterMember, exitMember,
      Def.hinted, ReturnHint.classes, PyHint.classes, Parameter.plain, Parameter.typed]
  exact fun s hs => List.mem_singleton.1 (all d (mem_fixedMembers hd) hs)

/-- **A hint names the class of a struct of the package.** -/
theorem definition_hinted (h : PyModule.ofPackage library p = some m) {d : Def} (hd : d ∈ m.definitions) :
    ∀ struct ∈ d.hinted, struct ∈ p.structNames := by
  rcases definitions_cases h hd with ⟨s, hs, hasMethods, fixed⟩ | ⟨c, hc, claimed | accesses⟩
  · intro struct hstruct
    rw [fixedMembers_hinted fixed struct hstruct, Package.structNames, ← Surface.ofPackage_structs p,
      List.map_map]
    exact List.mem_map_of_mem (f := fun s : StructSurface => s.struct.name) hs
  · obtain ⟨names, -, laid⟩ := claimed
    exact laidOut_hinted (Surface.callables_formed p c hc) laid
  · obtain ⟨names, -, laid⟩ := accesses
    exact laidOut_hinted (Surface.callables_formed p c hc) laid

theorem ofPackage_closed (h : PyModule.ofPackage library p = some m) : Closed m p.structNames where
  prelude := fun _ hl _ hn hc => (mem_ctypesNames h).2 (.inl (prelude_ctypes hl hn hc))
  declared := fun d hd t ht _ hn =>
    (mem_ctypesNames h).2 (.inr (.inl ⟨d, hd, Declaration.mem_ctypesNames.2 ⟨t, ht, hn⟩⟩))
  resolved := fun _ hd => definition_resolved h hd
  used := ctypesNames_used h
  classes := classes_structs h
  hinted := fun d hd struct hs => by
    have declared := definition_hinted h hd struct hs
    rw [← classes_structs h] at declared
    exact List.mem_map.1 declared

/-- **What the emitter writes is a closed module.** -/
theorem module_closed {text : String} (h : generate library p = some text) :
    ∃ m, PyModule.ofPackage library p = some m ∧ m.text = text ∧ Closed m p.structNames := by
  rw [generate_eq] at h
  obtain ⟨m, made, rfl⟩ := Option.map_eq_some_iff.1 h
  exact ⟨m, made, rfl, ofPackage_closed made⟩

/-- A package with a struct `Tree` and a function `Grow(heights []float64) (*Tree, error)`. -/
def grove : Package where
  name := "grove"
  importPath := "example.com/grove"
  dir := ""
  functions :=
    [⟨⟨[⟨"heights", .slice (.primitive "float64")⟩], [.unnamed (.pointer (.struct "Tree")), .unnamed .error],
      false⟩, "Grow", ""⟩]
  structs := [⟨"Tree", "", [⟨"Name", .string, "", true⟩], []⟩]

theorem module_closed_grove :
    ∃ text m, generate "libgrove" grove = some text ∧ PyModule.ofPackage "libgrove" grove = some m ∧ m.text = text ∧
      m.ctypesNames = ["CDLL", "POINTER", "byref", "c_char_p", "c_double", "c_int", "c_size_t", "c_void_p",
        "string_at"] ∧
      m.functions.map (·.hinted) = [["Tree"]] ∧ Closed m grove.structNames := by
  have seen : (PyModule.ofPackage "libgrove" grove).map (fun m => (m.ctypesNames, m.functions.map (·.hinted)))
      = some (["CDLL", "POINTER", "byref", "c_char_p", "c_double", "c_int", "c_size_t", "c_void_p",
        "string_at"], [["Tree"]]) := by decide +kernel
  obtain ⟨m, hm, shown⟩ := Option.map_eq_some_iff.1 seen
  obtain ⟨names, hints⟩ := Prod.mk.inj shown
  have written : generate "libgrove" grove = some m.text := by rw [generate_eq, hm, Option.map_some]
  obtain ⟨m', hm', same, closed⟩ := module_closed written
  cases hm.symm.trans hm'
  exact ⟨m.text, m, written, hm, rfl, names, hints, closed⟩

end Py

end GoGlue
