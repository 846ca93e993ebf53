import GoGlue.FileTree.Change
import GoGlue.Proofs.FileTree.Following

/-!
# Where a path puts something

A path that makes a directory or writes a file is followed up to its last name. Once something stands there,
the path leads to it; a file is written through links, and then the path leads through them as well.

* `spot_ok`: where a path puts something.
* `reach_of_spot`, `writable_ok`: a path leads to the place where it puts something.
* `spot_join`: without links, a path of names puts something straight below the directory.
-/
namespace GoGlue.FileTree

variable {t u : FileTree}

/-! ## Spots -/

/-- The segments of a path up to the last one that is not empty, if there is one. -/
theorem segments_split (segments : List String) :
    (∀ s ∈ segments, s = "") ∨ ∃ above last trail, segments = above ++ last :: trail ∧ last ≠ "" ∧
      ∀ s ∈ trail, s = "" := by
  induction segments with
  | nil => simp
  | cons s rest ih =>
    rcases ih with empty | ⟨above, last, trail, split, nonempty, empty⟩
    · by_cases hs : s = ""
      · exact .inl (List.forall_mem_cons.2 ⟨hs, empty⟩)
      · exact .inr ⟨[], s, rest, rfl, hs, empty⟩
    · exact .inr ⟨s :: above, last, trail, by rw [split, List.cons_append], nonempty, empty⟩

/-- Where segments put something. Without names they lead to what stands, and so they do if the last one leads
nowhere new. -/
inductive Finds (t : FileTree) (depth : Nat) (s : Stage) (segments : List String) : Spot → Prop
  | bare (h : ∀ segment ∈ segments, segment = "") : Finds t depth s segments .standing
  | last {above trail : List String} {last : String} {dir : Stage}
    (split : segments = above ++ last :: trail) (nonempty : last ≠ "")
    (empty : ∀ segment ∈ trail, segment = "") (hw : t.walk depth s above = .ok dir)
    (hd : t.node? dir.here = some .directory) :
    Finds t depth s segments
      (if last = "." ∨ last = ".." then .standing else .named dir.here dir.links last (!trail.isEmpty))

theorem dropWhile_bare {segments : List String} (h : ∀ s ∈ segments, s = "") :
    segments.reverse.dropWhile (· = "") = [] := by
  have all : ∀ s ∈ segments.reverse, decide (s = "") = true := by simpa using h
  have gone := @List.dropWhile_append_of_pos _ _ _ [] all
  rwa [List.append_nil] at gone

theorem dropWhile_split {above trail : List String} {last : String} (nonempty : last ≠ "")
    (empty : ∀ s ∈ trail, s = "") :
    (above ++ last :: trail).reverse.dropWhile (· = "") = last :: above.reverse := by
  have all : ∀ s ∈ trail.reverse, decide (s = "") = true := by simpa using empty
  rw [List.reverse_append, List.reverse_cons, List.append_assoc, List.dropWhile_append_of_pos all]
  exact List.dropWhile_cons_of_neg (by simpa using nonempty)

/-- Whether there is a slash behind the last name. -/
theorem shorter_split (above trail : List String) (last : String) :
    decide ((last :: above.reverse).length < (above ++ last :: trail).reverse.length) = !trail.isEmpty := by
  cases trail with
  | nil => simp
  | cons s rest =>
    simp
    omega

theorem spotFrom_ok {depth : Nat} {s : Stage} {segments : List String} {x : Spot} :
    t.spotFrom depth s segments = .ok x ↔ Finds t depth s segments x := by
  constructor
  · intro h
    unfold spotFrom at h
    dsimp only at h
    rcases segments_split segments with bare | ⟨above, last, trail, rfl, nonempty, empty⟩
    · rw [dropWhile_bare bare] at h
      cases h
      exact .bare bare
    · rw [dropWhile_split nonempty empty] at h
      obtain ⟨dir, hw, h⟩ := ok_of_bind h
      obtain ⟨_, hd, h⟩ := ok_of_bind h
      rw [List.reverse_reverse] at hw
      rw [shorter_split, ← apply_ite] at h
      cases h
      exact .last rfl nonempty empty hw (checkDirectory_ok.1 hd)
  · intro found
    unfold spotFrom
    cases found with
    | bare h =>
      dsimp only
      rw [dropWhile_bare h]
      rfl
    | last split nonempty empty hw hd =>
      dsimp only
      rw [split, dropWhile_split nonempty empty]
      dsimp only [bind, Except.bind]
      rw [List.reverse_reverse, hw]
      dsimp only
      rw [checkDirectory_ok.2 hd]
      dsimp only
      rw [shorter_split, ← apply_ite]
      rfl

/-- **What a path puts where**, as far as nothing is refused. -/
theorem spot_ok {path : String} {x : Spot} :
    t.spot path = .ok x ↔ checkPath path = .ok () ∧ checkLength path = .ok () ∧
      Finds t maxLinks (t.start path) (segmentsOf path) x := by
  rw [← spotFrom_ok]
  constructor
  · intro h
    obtain ⟨_, hc, h⟩ := ok_of_bind h
    obtain ⟨_, hl, h⟩ := ok_of_bind h
    exact ⟨hc, hl, h⟩
  · rintro ⟨hc, hl, h⟩
    rw [spot, hc, hl]
    exact h

/-- What segments that put something somewhere look like. -/
theorem Finds.named {depth links : Nat} {s : Stage} {segments : List String} {dir : Place} {name : String}
    {slash : Bool} (h : Finds t depth s segments (.named dir links name slash)) :
    IsName name ∧ t.node? dir = some .directory ∧ ∃ above trail, segments = above ++ name :: trail ∧
      (∀ segment ∈ trail, segment = "") ∧ (slash = false → trail = []) ∧
        t.walk depth s above = .ok ⟨dir, links⟩ := by
  generalize hx : Spot.named dir links name slash = x at h
  cases h with
  | bare => cases hx
  | last split nonempty empty hw hd =>
    split at hx
    · cases hx
    · next proper =>
      cases hx
      exact ⟨⟨nonempty, not_or.1 proper⟩, hd, _, _, split, empty, by simp, hw⟩

theorem Grows.finds (h : Grows t u) {depth : Nat} {s : Stage} {segments : List String} {x : Spot}
    (hs : Finds t depth s segments x) : Finds u depth s segments x := by
  cases hs with
  | bare bare => exact .bare bare
  | last split nonempty empty hw hd => exact .last split nonempty empty (h.walk hw) (h.directories _ hd)

theorem Grows.spot (h : Grows t u) {path : String} {x : Spot} (hs : t.spot path = .ok x) :
    u.spot path = .ok x := by
  obtain ⟨hc, hl, found⟩ := spot_ok.1 hs
  exact spot_ok.2 ⟨hc, hl, h.start path ▸ h.finds found⟩

/-! ## What stands there -/

/-- A path that leads somewhere puts something where something is, or it leads to what always exists. -/
theorem spot_of_reach {path : String} {p : Place} (h : t.reach path = .ok p) :
    t.spot path = .ok .standing ∨ ∃ dir links name slash, t.spot path = .ok (.named dir links name slash) ∧
      checkName name = .ok () ∧ (t.node? (dir ++ [name])).isSome := by
  obtain ⟨hc, hl, links, hf⟩ := reach_ok.1 h
  rcases segments_split (segmentsOf path) with bare | ⟨above, last, trail, split, nonempty, empty⟩
  · exact .inl (spot_ok.2 ⟨hc, hl, .bare bare⟩)
  · rw [follow, split, walk_append] at hf
    obtain ⟨dir, hw, hf⟩ := ok_of_bind hf
    rw [walk_cons] at hf
    obtain ⟨next, he, -⟩ := ok_of_bind hf
    have enters := enter_ok.1 he
    have found := spot_ok.2 ⟨hc, hl, .last split nonempty empty hw enters.directory⟩
    cases enters with
    | idle _ idle => exact .inl (by rwa [if_pos (.inl (idle.resolve_left nonempty))] at found)
    | up => exact .inl (by rwa [if_pos (.inr rfl)] at found)
    | name _ hs hn hx =>
      obtain ⟨n, hx, -⟩ := hx
      rw [if_neg (not_or.2 hs.2)] at found
      exact .inr ⟨_, _, _, _, found, hn, by rw [hx]; rfl⟩
    | link _ hs hn hx =>
      rw [if_neg (not_or.2 hs.2)] at found
      exact .inr ⟨_, _, _, _, found, hn, by rw [hx]; rfl⟩

/-- **A path leads to the spot where it puts something**, once something stands there. -/
theorem reach_of_spot {path name : String} {dir : Place} {links : Nat} {slash : Bool}
    (h : t.spot path = .ok (.named dir links name slash)) (hg : Grows t u) (hn : checkName name = .ok ())
    (hx : u.Solid (dir ++ [name])) (hs : slash = true → u.node? (dir ++ [name]) = some .directory) :
    u.reach path = .ok (dir ++ [name]) := by
  obtain ⟨hc, hl, found⟩ := spot_ok.1 h
  obtain ⟨named, hd, above, trail, split, empty, bare, hw⟩ := found.named
  have last : u.walk maxLinks ⟨dir ++ [name], links⟩ trail = .ok ⟨dir ++ [name], links⟩ := by
    cases slash with
    | false =>
      rw [bare rfl]
      rfl
    | true => exact walk_empty (hs rfl) empty
  refine reach_ok.2 ⟨hc, hl, links, ?_⟩
  rw [follow, hg.start, split, walk_append, hg.walk hw]
  show u.walk maxLinks ⟨dir, links⟩ (name :: trail) = _
  rw [walk_cons, enter_ok.2 (.name (hg.directories dir hd) named hn hx)]
  exact last

/-! ## Where files are written -/

theorem landing_ok {x : Spot} {y : Landing} (h : t.landing x = .ok y) :
    ∃ dir links name, x = .named dir links name false ∧ checkName name = .ok () ∧
      ((y = .place (dir ++ [name]) ∧ (t.node? (dir ++ [name]) = none ∨
          ∃ content, t.node? (dir ++ [name]) = some (.file content))) ∨
        ∃ target, y = .link dir links target ∧ t.node? (dir ++ [name]) = some (.link target)) := by
  cases x with
  | standing => cases h
  | named dir links name slash =>
    cases slash with
    | true => cases h
    | false =>
      obtain ⟨_, hn, h⟩ := ok_of_bind h
      refine ⟨dir, links, name, rfl, hn, ?_⟩
      split at h
      · cases h
      · next target hx =>
        cases h
        exact .inr ⟨target, rfl, hx⟩
      · next content hx =>
        cases h
        exact .inl ⟨rfl, .inr ⟨content, hx⟩⟩
      · next hx =>
        cases h
        exact .inl ⟨rfl, .inl hx⟩

/-- A place where a file can be written is a name in a directory where nothing or a file is, and the segments lead
there once it is written. -/
theorem writableFrom_ok {depth : Nat} {s : Stage} {segments : List String} {p : Place}
    (h : t.writableFrom depth s segments = .ok p) :
    (∃ dir name, p = dir ++ [name]) ∧ (t.node? p = none ∨ ∃ content, t.node? p = some (.file content)) ∧
      ∀ u, Grows t u → u.Solid p → ∃ links, u.walk depth s segments = .ok ⟨p, links⟩ := by
  unfold writableFrom at h
  cases hy : t.spotFrom depth s segments >>= t.landing with
  | error e =>
    rw [hy] at h
    cases h
  | ok y =>
    rw [hy] at h
    obtain ⟨x, hx, hy⟩ := ok_of_bind hy
    obtain ⟨dir, links, name, rfl, hn, way⟩ := landing_ok hy
    obtain ⟨named, hd, above, trail, rfl, -, bare, hw⟩ := (spotFrom_ok.1 hx).named
    obtain rfl := bare rfl
    -- up to the last name, the segments lead where they led
    have last {u : FileTree} (hg : Grows t u) :
        u.walk depth s (above ++ [name]) = u.enter depth ⟨dir, links⟩ name := by
      rw [walk_append, hg.walk hw]
      show u.walk depth ⟨dir, links⟩ [name] = _
      rw [walk_cons]
      cases u.enter depth ⟨dir, links⟩ name <;> rfl
    rcases way with ⟨rfl, free⟩ | ⟨target, rfl, linked⟩
    · cases h
      refine ⟨⟨dir, name, rfl⟩, free, fun u hg there => ⟨links, ?_⟩⟩
      rw [last hg, enter_ok.2 (.name (hg.directories dir hd) named hn there)]
    · cases depth with
      | zero => cases h
      | succ depth =>
        cases links with
        | zero => cases h
        | succ links =>
          obtain ⟨place, free, leads⟩ := writableFrom_ok h
          refine ⟨place, free, fun u hg there => ?_⟩
          obtain ⟨left, hl⟩ := leads u hg there
          refine ⟨left, ?_⟩
          rw [last hg, enter_ok.2 (.link (hg.directories dir hd) named hn ((hg.links _ _).2 linked) rfl hl)]
termination_by depth

/-- **A file is written where nothing or a file is, and where its path leads** from then on. -/
theorem writable_ok {path : String} {p : Place} (h : t.writable path = .ok p) :
    (∃ dir name, p = dir ++ [name]) ∧ (t.node? p = none ∨ ∃ content, t.node? p = some (.file content)) ∧
      ∀ u, Grows t u → u.Solid p → u.reach path = .ok p := by
  obtain ⟨_, hc, h⟩ := ok_of_bind h
  obtain ⟨_, hl, h⟩ := ok_of_bind h
  obtain ⟨place, free, leads⟩ := writableFrom_ok h
  refine ⟨place, free, fun u hg there => reach_ok.2 ⟨hc, hl, ?_⟩⟩
  rw [follow, hg.start]
  exact leads u hg there

/-- Without links, a file is written at the spot. -/
theorem Linkless.writable (plain : t.Linkless) {path : String} {p : Place} (h : t.writable path = .ok p) :
    ∃ dir links name, t.spot path = .ok (.named dir links name false) ∧ checkName name = .ok () ∧
      p = dir ++ [name] := by
  obtain ⟨_, hc, h⟩ := ok_of_bind h
  obtain ⟨_, hl, h⟩ := ok_of_bind h
  unfold writableFrom at h
  cases hy : t.spotFrom maxLinks (t.start path) (segmentsOf path) >>= t.landing with
  | error e =>
    rw [hy] at h
    cases h
  | ok y =>
    rw [hy] at h
    obtain ⟨x, hx, hy⟩ := ok_of_bind hy
    obtain ⟨dir, links, name, rfl, hn, ⟨rfl, -⟩ | ⟨target, rfl, linked⟩⟩ := landing_ok hy
    · cases h
      exact ⟨dir, links, name, spot_ok.2 ⟨hc, hl, spotFrom_ok.1 hx⟩, hn, rfl⟩
    · exact absurd linked (plain _ _)

/-! ## Joined paths -/

/-- **Without links, a path of names puts something straight below** the directory that it is joined to. -/
theorem Linkless.spot_join (plain : t.Linkless) {dir path name : String} {here : Place} {links : Nat}
    {d : Stage} {slash : Bool} (h : Path.Plain path) (hd : t.follow dir = .ok d)
    (hs : t.spot (Path.join dir path) = .ok (.named here links name slash)) :
    here ++ [name] = d.here ++ segmentsOf path := by
  obtain ⟨-, -, above, trail, split, empty, -, hw⟩ := (spot_ok.1 hs).2.2.named
  obtain ⟨front, joined, own⟩ := segmentsOf_join dir h
  obtain ⟨init, last, hp⟩ := (List.eq_nil_or_concat (segmentsOf path)).resolve_left
    (segmentsOf_ne_nil path)
  have names : ∀ s ∈ segmentsOf path, IsName s := segmentsOf_isName h
  rw [hp] at joined names
  rw [start_join t dir h] at hw
  -- the path ends in a name, so nothing trails
  have bare : trail = [] := by
    rcases List.eq_nil_or_concat trail with rfl | ⟨more, s, rfl⟩
    · rfl
    · have grouped : (above ++ name :: more) ++ [s] = (front ++ init) ++ [last] := by
        simpa using split.symm.trans joined
      obtain ⟨-, same⟩ := List.append_inj' grouped rfl
      cases same
      exact absurd (empty last (by simp)) (names last (by simp)).1
  subst bare
  obtain ⟨rfl, same⟩ : above = front ++ init ∧ [name] = [last] :=
    List.append_inj' (by simpa using split.symm.trans joined) rfl
  rw [walk_append, walk_front own hd] at hw
  have place := congrArg Stage.here (plain.walk (fun s hs => names s (by simp [hs])) hw)
  dsimp only at place
  rw [place, hp, same]
  simp

/-- A name that is joined to a directory is put straight into it. -/
theorem spot_name {dir name : String} {d : Stage} (hn : Path.Single name) (hd : t.follow dir = .ok d)
    (hx : t.node? d.here = some .directory) :
    t.spot (Path.join dir name) = checkPath (Path.join dir name) >>= fun _ =>
      checkLength (Path.join dir name) >>= fun _ => .ok (.named d.here d.links name false) := by
  obtain ⟨front, joined, own⟩ := segmentsOf_join dir hn.plain
  have one := segmentsOf_single hn
  obtain ⟨nonempty, proper⟩ := segmentsOf_isName hn.plain name (by simp [one])
  have found : Finds t maxLinks (t.start (Path.join dir name)) (segmentsOf (Path.join dir name))
      (.named d.here d.links name false) := by
    have split : segmentsOf (Path.join dir name) = front ++ name :: [] := by rw [joined, one]
    have last := Finds.last split nonempty (by simp) (start_join t dir hn.plain ▸ walk_front own hd) hx
    rwa [if_neg (not_or.2 proper)] at last
  rw [spot, spotFrom_ok.2 found]

theorem spot_name_ne {dir name : String} {d : Stage} (hn : Path.Single name)
    (hd : t.follow dir = .ok d) (hx : t.node? d.here = some .directory) :
    t.spot (Path.join dir name) ≠ .error .notFound := by
  intro h
  rw [spot_name hn hd hx, checkPath, if_neg (Path.join_ne_empty dir hn.plain), checkLength] at h
  rcases error_of_bind h with h | ⟨_, -, h⟩
  · split at h <;> cases h
  · rcases error_of_bind h with h | ⟨_, -, h⟩
    · split at h <;> cases h
    · cases h

end GoGlue.FileTree
