import GoGlue.Proofs.Surface.Callables

/-!
# What the entry points of a surface are made for

Besides the constructor and the destructor of each struct, every entry point of a surface serves one of its
functions, methods or accessors, with the receiver and the plan of that member; and every member is served.

* `entries_cases`: there are no other entry points.
* `constructor_mem`, `served_mem`: none of these is missing.
-/
namespace GoGlue.Go

variable {own : String} {surface : Surface}

/-- A receiver, a call and a plan that belong together, since they are those of one member of the surface. -/
inductive Serves (own : String) (surface : Surface) : Option Receiver → Invoke → CallPlan → Prop
  | func {f : FuncSurface} (hf : f ∈ surface.functions) :
    Serves own surface none (.func (.qualified (.own own) f.func.name)) f.plan
  | getter {s : StructSurface} {f : FieldSurface} {plan : CallPlan} (hs : s ∈ surface.structs)
    (hf : f ∈ s.fields) (hp : plan ∈ f.getter) :
    Serves own surface (some ⟨s.struct.name, ownType own s.struct.name, true⟩) (.read f.field.name) plan
  | setter {s : StructSurface} {f : FieldSurface} {plan : CallPlan} (hs : s ∈ surface.structs)
    (hf : f ∈ s.fields) (hp : plan ∈ f.setter) :
    Serves own surface (some ⟨s.struct.name, ownType own s.struct.name, true⟩) (.write f.field.name) plan
  | method {s : StructSurface} {m : MethodSurface} (hs : s ∈ surface.structs) (hm : m ∈ s.methods) :
    Serves own surface
      (some ⟨s.struct.name, ownType own s.struct.name, m.method.receiverIsPtr⟩)
      (.method m.method.name) m.plan

/-- The entry point serves a member of the surface. -/
def Serving (own : String) (surface : Surface) (e : Entry) : Prop :=
  ∃ symbol receiver invoke plan, Serves own surface receiver invoke plan ∧
    entryOf own symbol receiver invoke plan = some e

theorem fieldEntries_serving {s : StructSurface} {f : FieldSurface} {es : List Entry}
    (hs : s ∈ surface.structs) (hf : f ∈ s.fields) (h : fieldEntries own s.struct.name f = some es) :
    ∀ e ∈ es, Serving own surface e := by
  simp only [fieldEntries, bind, Option.bind_eq_some_iff, pure, Option.some.injEq] at h
  obtain ⟨getter, hg, setter, hset, rfl⟩ := h
  intro e he
  rcases List.mem_append.1 he with he | he
  · obtain ⟨plan, hm, he⟩ := exists_related (forall₂_of_mapM hg) he
    exact ⟨_, _, _, _, .getter hs hf (Option.mem_toList.1 hm), he⟩
  · obtain ⟨plan, hm, he⟩ := exists_related (forall₂_of_mapM hset) he
    exact ⟨_, _, _, _, .setter hs hf (Option.mem_toList.1 hm), he⟩

theorem structEntries_cases {s : StructSurface} {es : List Entry} (hs : s ∈ surface.structs)
    (h : structEntries own s = some es) : ∀ e ∈ es,
      e = constructor own s.struct.name ∨ e = destructor s.struct.name ∨ Serving own surface e := by
  simp only [structEntries, bind, Option.bind_eq_some_iff, pure, Option.some.injEq] at h
  obtain ⟨fields, hf, methods, hm, rfl⟩ := h
  intro e he
  rcases List.mem_append.1 he with he | he
  · rcases List.mem_cons.1 he with rfl | he
    · exact .inl rfl
    · rcases List.mem_cons.1 he with rfl | he
      · exact .inr (.inl rfl)
      · obtain ⟨group, hg, he⟩ := List.mem_flatten.1 he
        obtain ⟨f, hfm, hg⟩ := exists_related (forall₂_of_mapM hf) hg
        exact .inr (.inr (fieldEntries_serving hs hfm hg e he))
  · obtain ⟨m, hmm, he⟩ := exists_related (forall₂_of_mapM hm) he
    exact .inr (.inr ⟨_, _, _, _, .method hs hmm, he⟩)

/-- **An entry point of a surface is a constructor or destructor, or serves a member of the surface.** -/
theorem entries_cases {es : List Entry} (h : entries own surface = some es) {e : Entry} (he : e ∈ es) :
    (∃ s ∈ surface.structs, e = constructor own s.struct.name ∨ e = destructor s.struct.name) ∨
      Serving own surface e := by
  simp only [entries, bind, Option.bind_eq_some_iff, pure, Option.some.injEq] at h
  obtain ⟨structs, hs, functions, hf, rfl⟩ := h
  rcases List.mem_append.1 he with he | he
  · obtain ⟨group, hg, he⟩ := List.mem_flatten.1 he
    obtain ⟨s, hm, hg⟩ := exists_related (forall₂_of_mapM hs) hg
    rcases structEntries_cases hm hg e he with made | made | serving
    · exact .inl ⟨s, hm, .inl made⟩
    · exact .inl ⟨s, hm, .inr made⟩
    · exact .inr serving
  · obtain ⟨f, hm, he⟩ := exists_related (forall₂_of_mapM hf) he
    exact .inr ⟨_, _, _, _, .func hm, he⟩

/-! ## No entry point is missing -/

theorem exists_mapM {α β : Type} {f : α → Option β} {xs : List α} {ys : List β} (h : xs.mapM f = some ys)
    {x : α} (hx : x ∈ xs) : ∃ y ∈ ys, f x = some y := exists_related_right (forall₂_of_mapM h) hx

/-- The entry points of a struct of the surface are among those of the surface. -/
theorem structEntries_subset {es : List Entry} (h : entries own surface = some es) {s : StructSurface}
    (hs : s ∈ surface.structs) : ∃ group, structEntries own s = some group ∧ group ⊆ es := by
  simp only [entries, bind, Option.bind_eq_some_iff, pure, Option.some.injEq] at h
  obtain ⟨structs, made, functions, -, rfl⟩ := h
  obtain ⟨group, hg, of⟩ := exists_mapM made hs
  exact ⟨group, of, fun e he => List.mem_append_left _ (List.mem_flatten_of_mem hg he)⟩

/-- **Every struct of a surface has a constructor.** -/
theorem constructor_mem {es : List Entry} (h : entries own surface = some es) {s : StructSurface}
    (hs : s ∈ surface.structs) : constructor own s.struct.name ∈ es := by
  obtain ⟨group, made, within⟩ := structEntries_subset h hs
  simp only [structEntries, bind, Option.bind_eq_some_iff, pure, Option.some.injEq] at made
  obtain ⟨fields, -, methods, -, rfl⟩ := made
  exact within (by simp)

/-- **Every member of a surface has an entry point.** -/
theorem served_mem {es : List Entry} (h : entries own surface = some es) {receiver : Option Receiver}
    {invoke : Invoke} {plan : CallPlan} (hs : Serves own surface receiver invoke plan) :
    ∃ symbol, ∃ e ∈ es, entryOf own symbol receiver invoke plan = some e := by
  have ofField : ∀ {s : StructSurface} {f : FieldSurface}, s ∈ surface.structs → f ∈ s.fields →
      ∃ group, fieldEntries own s.struct.name f = some group ∧ group ⊆ es := by
    intro s f hs hf
    obtain ⟨group, made, within⟩ := structEntries_subset h hs
    simp only [structEntries, bind, Option.bind_eq_some_iff, pure, Option.some.injEq] at made
    obtain ⟨fields, hfields, methods, -, rfl⟩ := made
    obtain ⟨ofField, hm, made⟩ := exists_mapM hfields hf
    exact ⟨ofField, made, fun e he => within (by simp [List.mem_flatten_of_mem hm he])⟩
  cases hs with
  | func hf =>
    simp only [entries, bind, Option.bind_eq_some_iff, pure, Option.some.injEq] at h
    obtain ⟨structs, -, functions, made, rfl⟩ := h
    obtain ⟨e, he, of⟩ := exists_mapM made hf
    exact ⟨_, e, List.mem_append_right _ he, of⟩
  | getter hs hf hp =>
    obtain ⟨group, made, within⟩ := ofField hs hf
    simp only [fieldEntries, bind, Option.bind_eq_some_iff, pure, Option.some.injEq] at made
    obtain ⟨getter, hg, setter, -, rfl⟩ := made
    obtain ⟨e, he, of⟩ := exists_mapM hg (Option.mem_toList.2 hp)
    exact ⟨_, e, within (List.mem_append_left _ he), of⟩
  | setter hs hf hp =>
    obtain ⟨group, made, within⟩ := ofField hs hf
    simp only [fieldEntries, bind, Option.bind_eq_some_iff, pure, Option.some.injEq] at made
    obtain ⟨getter, -, setter, hset, rfl⟩ := made
    obtain ⟨e, he, of⟩ := exists_mapM hset (Option.mem_toList.2 hp)
    exact ⟨_, e, within (List.mem_append_right _ he), of⟩
  | method hs hm =>
    obtain ⟨group, made, within⟩ := structEntries_subset h hs
    simp only [structEntries, bind, Option.bind_eq_some_iff, pure, Option.some.injEq] at made
    obtain ⟨fields, -, methods, hmethods, rfl⟩ := made
    obtain ⟨e, he, of⟩ := exists_mapM hmethods hm
    exact ⟨_, e, within (by simp [he]), of⟩

end GoGlue.Go
