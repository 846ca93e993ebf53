import GoGlue.Proofs.FileTree.Changing

/-!
# Changes below a directory

Writing files below a directory changes nothing outside of it, if there are no links: the directories on the way
there are made from the first missing one downwards, and none is missing above a directory that is there.

* `makeDirs_confined`: directories are made below it only.
* `writeAll_confined`: files are written below it only.
-/
namespace GoGlue.FileTree

variable {t u v : FileTree} {root : Place}

/-- A tree that has grown below a place only. -/
structure Confined (root : Place) (t u : FileTree) : Prop where
  grows : Grows t u
  outside : ∀ q, ¬ root <+: q → u.node? q = t.node? q

theorem Confined.refl (root : Place) (t : FileTree) : Confined root t t := ⟨.refl t, fun _ _ => rfl⟩

theorem Confined.trans (h : Confined root t u) (h' : Confined root u v) : Confined root t v :=
  ⟨h.grows.trans h'.grows, fun q hq => (h'.outside q hq).trans (h.outside q hq)⟩

/-- The path leads downwards, and the first name on the way is the given one. -/
structure Through (first path : String) : Prop where
  plain : Path.Plain path
  head : (segmentsOf path).head? = some first

/-! Paths that go through a name, made longer and shorter. -/

theorem Through.single {name : String} (h : Path.Single name) : Through name name :=
  ⟨h.plain, by rw [segmentsOf_single h]; rfl⟩

theorem Through.slash {first path more : String} (h : Through first path) (hm : Path.Plain more) :
    Through first (path ++ "/" ++ more) :=
  ⟨Path.plain_slash.2 ⟨h.plain, hm⟩, by rw [segmentsOf_slash, List.head?_append, h.head]; rfl⟩

theorem Through.of_slash {first path name : String} (h : Through first (path ++ "/" ++ name)) :
    Through first path := by
  refine ⟨(Path.plain_slash.1 h.plain).1, ?_⟩
  obtain ⟨s, rest, e⟩ := List.exists_cons_of_ne_nil (segmentsOf_ne_nil path)
  simpa [segmentsOf_slash, e] using h.head

/-- Where the path leads from a place is below the first name. -/
theorem Through.isPrefix {first path : String} (h : Through first path) (d : Place) :
    d ++ [first] <+: d ++ segmentsOf path := by
  obtain ⟨rest, e⟩ := List.head?_eq_some_iff.1 h.head
  rw [e]
  exact ⟨rest, by simp⟩

/-! ## Directories -/

variable {dir first path : String} {d : Stage}

theorem makeDir_confined (plain : t.Linkless) (hp : Through first path) (hd : t.follow dir = .ok d)
    (h : t.makeDir (Path.join dir path) = .ok u) : Confined (d.here ++ [first]) t u := by
  have grows := makeDir_grows h
  obtain ⟨here, links, name, slash, hs, -, -, rfl⟩ := makeDir_ok h
  refine ⟨grows, fun q hq => node?_put_ne _ ?_⟩
  rintro rfl
  exact hq (plain.spot_join hp.plain hd hs ▸ hp.isPrefix d.here)

/-- **Directories are made below the name only.** -/
theorem makeDirs_confined (plain : t.Linkless) (hp : Through first path) (hd : t.follow dir = .ok d)
    (hx : t.node? d.here = some .directory) :
    Confined (d.here ++ [first]) t (t.makeDirs (Path.join dir path)).2 := by
  have step {path : String} (hp : Through first path) : ∀ u v, Confined (d.here ++ [first]) t u →
      u.makeDir (Path.join dir path) = .ok v → Confined (d.here ++ [first]) t v :=
    fun u v hu hv => hu.trans (makeDir_confined (hu.grows.linkless plain) hp (hu.grows.follow hd) hv)
  -- the parents of a path are the path without its last name and the parents of that
  have below := @Path.Plain.induct (fun path => Through first path →
    ∀ u, Confined (d.here ++ [first]) t u →
      Confined (d.here ++ [first]) t (u.makeDirs (Path.join dir path)).2)
  refine below (fun name single hp u hu => ?_) (fun above name _ single ih hp u hu => ?_) hp.plain hp t
    (.refl _ t)
  · refine makeDirsAlong_cons (step hp) (fun v hv missing => ?_) hu
    exact absurd missing (makeDir_found single (hv.grows.follow hd) (hv.grows.directories d.here hx))
  · refine makeDirsAlong_cons (step hp) (fun v hv _ => ?_) hu
    rw [Path.parents_join dir hp.of_slash.plain single]
    exact ih hp.of_slash v hv

/-! ## Files -/

/-- The file has its place below the directory `first` in `dir`. -/
def Inside (dir first target : String) : Prop :=
  ∃ above name, target = Path.join dir (above ++ "/" ++ name) ∧ Through first above ∧ Path.Single name

/-- Such a file does not stand right in the directory. -/
theorem reach_inside_ne (plain : t.Linkless) {target name : String} (h : Inside dir first target)
    (hd : t.follow dir = .ok d) : t.reach target ≠ .ok (d.here ++ [name]) := by
  intro hr
  obtain ⟨above, last, rfl, ha, hn⟩ := h
  obtain ⟨links, hf⟩ := (reach_ok.1 hr).2.2
  obtain ⟨d', hd', place⟩ := follow_join_ok plain (Path.plain_slash.2 ⟨ha.plain, hn.plain⟩) hf
  cases hd.symm.trans hd'
  rw [segmentsOf_slash, segmentsOf_single hn] at place
  have names := List.append_cancel_left (congrArg Stage.here place)
  have nonempty := List.length_pos_iff.2 (segmentsOf_ne_nil above)
  have lengths := congrArg List.length names
  simp only [List.length_append, List.length_singleton] at lengths
  omega

theorem makeParents_confined (plain : t.Linkless) {target : String} (hp : Inside dir first target)
    (hd : t.follow dir = .ok d) (hx : t.node? d.here = some .directory) :
    Confined (d.here ++ [first]) t (t.makeParents target).2 := by
  obtain ⟨above, name, rfl, ha, hn⟩ := hp
  have parent : Path.parent? (Path.join dir (above ++ "/" ++ name)) = some (Path.join dir above) := by
    rw [Path.parent?, Path.parents_join dir ha.plain hn]
    rfl
  rw [makeParents, parent]
  exact makeDirs_confined plain ha hd hx

theorem write_confined (plain : t.Linkless) {target content : String} (hp : Inside dir first target)
    (hd : t.follow dir = .ok d) (h : t.write target content = .ok u) :
    Confined (d.here ++ [first]) t u := by
  have grows := write_grows h
  obtain ⟨above, name, rfl, ha, hn⟩ := hp
  have through := ha.slash hn.plain
  obtain ⟨p, hw, rfl⟩ := write_ok h
  obtain ⟨here, links, last, hs, -, rfl⟩ := plain.writable hw
  refine ⟨grows, fun q hq => node?_put_ne _ ?_⟩
  rintro rfl
  exact hq (plain.spot_join through.plain hd hs ▸ through.isPrefix d.here)

/-- **Files are written below the name only.** -/
theorem writeAll_confined (plain : t.Linkless) {root : String} {files : List (String × String)}
    (hp : ∀ f ∈ files, Inside dir first (Path.join root f.1)) (hd : t.follow dir = .ok d)
    (hx : t.node? d.here = some .directory) (h : t.writeAll root files = (.ok (), u)) :
    Confined (d.here ++ [first]) t u := by
  induction files generalizing t with
  | nil =>
    cases h
    exact .refl _ _
  | cons f rest ih =>
    obtain ⟨path, content⟩ := f
    obtain ⟨inside, others⟩ := List.forall_mem_cons.1 hp
    obtain ⟨made, written, hm, hw, hr⟩ := writeAll_cons.1 h
    have parents : Confined (d.here ++ [first]) t made := by
      simpa [hm] using makeParents_confined plain inside hd hx
    have bare := parents.grows.linkless plain
    have file := parents.trans (write_confined bare inside (parents.grows.follow hd) hw)
    have stillBare := file.grows.linkless plain
    exact file.trans (ih stillBare others (file.grows.follow hd) (file.grows.directories d.here hx) hr)

end GoGlue.FileTree
