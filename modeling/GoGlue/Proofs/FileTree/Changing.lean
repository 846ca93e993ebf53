import GoGlue.Proofs.FileTree.Spots

/-!
# What a change leaves alone

Making directories puts directories where nothing was, and writing a file puts a file where nothing or a file
was. So a tree only grows, and it gets no links. Whatever is written, any file that has changed is where one of
the paths leads. Without links, files that are written one after the other stand where their paths lead, as long
as no two paths lead to one place, and writing files that stand changes nothing any more.

* `makeDir_ok`, `write_ok`: what one change does.
* `makeDirs_ok`: directories that were made are there.
* `writeAll_changes`: what writing files one after the other changes.
* `writeAll_stands`: where files stand that were written.
* `writeAll_again`: doing it again changes nothing.
-/
namespace GoGlue.FileTree

variable {t u : FileTree}

/-! ## One change -/

/-- The content of the file at a place. -/
def content? (t : FileTree) (p : Place) : Option ByteArray :=
  match t.node? p with
  | some (.file content) => some content
  | _ => none

theorem content?_eq_some {p : Place} {content : ByteArray} :
    t.content? p = some content ↔ t.node? p = some (.file content) := by
  unfold content?
  split <;> simp_all

theorem node?_put_ne {p q : Place} (n : Node) (h : q ≠ p) : (t.put p n).node? q = t.node? q := by
  by_cases root : q = []
  · subst root; rfl
  · rw [node?_put _ _ _ _ root, if_neg (Ne.symm h)]

theorem node?_put_name (t : FileTree) (dir : Place) (name : String) (n : Node) :
    (t.put (dir ++ [name]) n).node? (dir ++ [name]) = some n := by
  rw [node?_put _ _ _ _ (by simp), if_pos rfl]

/-- A tree grows if something that is no link is put where nothing or a file was. -/
theorem grows_put {dir : Place} {name : String} {n : Node} (hn : ∀ target, n ≠ .link target)
    (h : t.node? (dir ++ [name]) = none ∨ ∃ content, t.node? (dir ++ [name]) = some (.file content)) :
    Grows t (t.put (dir ++ [name]) n) := by
  have here := node?_put_name t dir name n
  refine ⟨rfl, fun p hp => ?_, fun p hp => ?_, fun p target => ?_⟩
  · rw [node?_put_ne]
    · exact hp
    · rintro rfl
      rcases h with h | ⟨_, h⟩ <;> rw [h] at hp <;> cases hp
  · by_cases e : p = dir ++ [name]
    · exact ⟨n, e ▸ here, hn⟩
    · simpa only [Solid, node?_put_ne n e] using hp
  · by_cases e : p = dir ++ [name]
    · rw [e, here]
      constructor
      · intro hp
        exact absurd (Option.some.inj hp) (hn target)
      · intro hp
        rcases h with h | ⟨_, h⟩ <;> rw [h] at hp <;> cases hp
    · rw [node?_put_ne n e]

theorem makeDir_ok {path : String} (h : t.makeDir path = .ok u) :
    ∃ dir links name slash, t.spot path = .ok (.named dir links name slash) ∧ checkName name = .ok () ∧
      t.node? (dir ++ [name]) = none ∧ u = t.put (dir ++ [name]) .directory := by
  obtain ⟨spot, hs, h⟩ := ok_of_bind h
  cases spot with
  | standing => cases h
  | named dir links name slash =>
    obtain ⟨_, hn, h⟩ := ok_of_bind h
    dsimp only at h
    split at h
    · cases h
    · next free =>
      cases h
      exact ⟨dir, links, name, slash, hs, hn, by simpa using free, rfl⟩

theorem write_ok {path content : String} (h : t.write path content = .ok u) :
    ∃ p, t.writable path = .ok p ∧ u = t.put p (.file content.toUTF8) := by
  unfold write at h
  cases hw : t.writable path with
  | error e =>
    rw [hw] at h
    cases h
  | ok p =>
    rw [hw] at h
    cases h
    exact ⟨p, rfl, rfl⟩

theorem makeDir_grows {path : String} (h : t.makeDir path = .ok u) : Grows t u := by
  obtain ⟨dir, links, name, slash, -, -, free, rfl⟩ := makeDir_ok h
  exact grows_put nofun (.inl free)

/-- Making a directory changes no file. -/
theorem makeDir_content {path : String} (h : t.makeDir path = .ok u) (p : Place) :
    u.content? p = t.content? p := by
  obtain ⟨dir, links, name, slash, -, -, free, rfl⟩ := makeDir_ok h
  unfold content?
  by_cases e : p = dir ++ [name]
  · subst e
    rw [node?_put_name, free]
  · rw [node?_put_ne _ e]

/-- A directory that was made is there. -/
theorem makeDir_isDirectory {path : String} (h : t.makeDir path = .ok u) :
    u.isDirectory path = true := by
  have grows := makeDir_grows h
  obtain ⟨dir, links, name, slash, hs, hn, free, rfl⟩ := makeDir_ok h
  have made := node?_put_name t dir name .directory
  exact isDirectory_iff.2 ⟨_, reach_of_spot hs grows hn (solid_directory made) fun _ => made, made⟩

/-- A directory that is there is not made again. -/
theorem makeDir_of_isDirectory {path : String} (h : t.isDirectory path = true) :
    t.makeDir path = .error .alreadyExists := by
  obtain ⟨p, hr, -⟩ := isDirectory_iff.1 h
  rcases spot_of_reach hr with hs | ⟨dir, links, name, slash, hs, hn, there⟩
  · rw [makeDir, hs]
    rfl
  · rw [makeDir, hs]
    dsimp only [bind, Except.bind]
    rw [hn]
    dsimp only
    rw [there]
    rfl

/-- Where the directory is there, making another one in it does not fail for want of it. -/
theorem makeDir_found {dir name : String} {d : Stage} (hn : Path.Single name)
    (hd : t.follow dir = .ok d) (hx : t.node? d.here = some .directory) :
    t.makeDir (Path.join dir name) ≠ .error .notFound := by
  intro h
  rcases error_of_bind h with h | ⟨spot, -, h⟩
  · exact spot_name_ne hn hd hx h
  · cases spot with
    | standing => cases h
    | named dir links name slash =>
      rcases error_of_bind h with h | ⟨_, -, h⟩
      · unfold checkName at h
        split at h <;> cases h
      · dsimp only at h
        split at h <;> cases h

/-! ## Directories above -/

/-- What making a directory preserves, and making those above it if these are missing, making the directory
with those above does. -/
theorem makeDirsAlong_cons {Q : FileTree → Prop} {path : String} {above : List String}
    (here : ∀ t u, Q t → t.makeDir path = .ok u → Q u)
    (others : ∀ t, Q t → t.makeDir path = .error .notFound → Q (t.makeDirsAlong above).2) (h : Q t) :
    Q (t.makeDirsAlong (path :: above)).2 := by
  unfold makeDirsAlong
  split
  · exact h
  · split
    · next u hu => exact here t u h hu
    · next missing =>
      have made := others t h missing
      split
      · next e u hu => rwa [hu] at made
      · next u hu =>
        rw [hu] at made
        split
        · next v hv => exact here u v made hv
        · exact made
    · exact h

/-- **What making one directory preserves, making directories does.** -/
theorem makeDirsAlong_preserves {Q : FileTree → Prop} {paths : List String}
    (step : ∀ path ∈ paths, ∀ t u, Q t → t.makeDir path = .ok u → Q u) (h : Q t) :
    Q (t.makeDirsAlong paths).2 := by
  induction paths generalizing t with
  | nil => exact h
  | cons path above ih =>
    obtain ⟨first, others⟩ := List.forall_mem_cons.1 step
    exact makeDirsAlong_cons first (fun u hu _ => ih others hu) h

theorem makeDirsAlong_ok {path : String} {above : List String}
    (h : t.makeDirsAlong (path :: above) = (.ok (), u)) : path = "" ∨ u.isDirectory path = true := by
  unfold makeDirsAlong at h
  split at h
  · exact .inl ‹_›
  · have settled : ∀ {v : FileTree} {e : FileError},
        ((if v.isDirectory path then .ok () else .error e : Except FileError Unit), v) = (.ok (), u) →
          u.isDirectory path = true := by
      intro v e h
      obtain ⟨hr, rfl⟩ := Prod.mk.inj h
      split at hr
      · assumption
      · cases hr
    refine .inr ?_
    split at h
    · next v hv =>
      cases h
      exact makeDir_isDirectory hv
    · split at h
      · cases h
      · next v hv =>
        split at h
        · next w hw =>
          cases h
          exact makeDir_isDirectory hw
        · exact settled h
    · exact settled h

/-- **Directories that were made are there.** -/
theorem makeDirs_ok {path : String} (h : t.makeDirs path = (.ok (), u)) :
    path = "" ∨ u.isDirectory path = true := makeDirsAlong_ok h

/-- Where the directory is, nothing is made. -/
theorem makeDirs_of_isDirectory {path : String} (h : path = "" ∨ t.isDirectory path = true) :
    t.makeDirs path = (.ok (), t) := by
  unfold makeDirs makeDirsAlong
  split
  · rfl
  · next nonempty =>
    have there := h.resolve_left nonempty
    simp [makeDir_of_isDirectory there, there]

theorem makeParents_grows (t : FileTree) (path : String) : Grows t (t.makeParents path).2 := by
  unfold makeParents
  split
  · exact makeDirsAlong_preserves (Q := Grows t) (fun _ _ _ _ h made => h.trans (makeDir_grows made))
      (.refl t)
  · exact .refl t

theorem makeParents_content (t : FileTree) (path : String) (p : Place) :
    (t.makeParents path).2.content? p = t.content? p := by
  unfold makeParents
  split
  · exact makeDirsAlong_preserves (Q := fun u => u.content? p = t.content? p)
      (fun _ _ _ _ h made => (makeDir_content made p).trans h) rfl
  · rfl

/-- The directories that a path leads through are there. -/
def HasParent (t : FileTree) (path : String) : Prop :=
  ∀ parent ∈ Path.parent? path, parent = "" ∨ t.isDirectory parent = true

theorem Grows.hasParent (h : Grows t u) {path : String} (hp : t.HasParent path) : u.HasParent path :=
  fun parent hm => (hp parent hm).imp_right h.isDirectory

theorem makeParents_ok {path : String} (h : t.makeParents path = (.ok (), u)) : u.HasParent path := by
  intro parent hm
  unfold makeParents at h
  rw [Option.mem_def.1 hm] at h
  exact makeDirs_ok h

theorem makeParents_of_hasParent {path : String} (h : t.HasParent path) :
    t.makeParents path = (.ok (), t) := by
  unfold makeParents
  split
  · next parent hp => exact makeDirs_of_isDirectory (h parent hp)
  · rfl

/-! ## Files -/

theorem write_grows {path content : String} (h : t.write path content = .ok u) : Grows t u := by
  obtain ⟨p, hw, rfl⟩ := write_ok h
  obtain ⟨⟨dir, name, rfl⟩, free, -⟩ := writable_ok hw
  exact grows_put nofun free

/-- Writing changes no place but the one that the path leads to. -/
theorem write_content {path content : String} {p : Place} (h : t.write path content = .ok u)
    (hp : u.content? p ≠ t.content? p) : u.reach path = .ok p := by
  have grows := write_grows h
  obtain ⟨q, hw, rfl⟩ := write_ok h
  obtain ⟨⟨dir, name, rfl⟩, -, leads⟩ := writable_ok hw
  by_cases e : p = dir ++ [name]
  · rw [e]
    exact leads _ grows (solid_file (node?_put_name t dir name _))
  · exact absurd (by rw [content?, node?_put_ne _ e]; rfl) hp

/-- A file that can be written where it stands, with the content that it has. -/
structure Stands (t : FileTree) (path content : String) : Prop where
  parent : t.HasParent path
  spot : ∃ dir links name, t.spot path = .ok (.named dir links name false) ∧ checkName name = .ok () ∧
    t.node? (dir ++ [name]) = some (.file content.toUTF8)

/-- The path of a file that stands leads to its content. -/
theorem Stands.reach {path content : String} (h : t.Stands path content) :
    ∃ p, t.reach path = .ok p ∧ t.content? p = some content.toUTF8 := by
  obtain ⟨dir, links, name, hs, hn, hx⟩ := h.spot
  exact ⟨_, reach_of_spot hs (.refl t) hn (solid_file hx) (by simp), content?_eq_some.2 hx⟩

/-- A file that was written stands, if there are no links. -/
theorem write_stands (plain : t.Linkless) {path content : String} (hp : t.HasParent path)
    (h : t.write path content = .ok u) : u.Stands path content := by
  have grows := write_grows h
  obtain ⟨p, hw, rfl⟩ := write_ok h
  obtain ⟨dir, links, name, hs, hn, rfl⟩ := plain.writable hw
  exact ⟨grows.hasParent hp, dir, links, name, grows.spot hs, hn, node?_put_name ..⟩

/-- A file stands in a tree that has grown if its content is still the same. -/
theorem Stands.grow {path content : String} (h : t.Stands path content) (hg : Grows t u)
    (hc : ∀ p, t.reach path = .ok p → u.content? p = t.content? p) : u.Stands path content := by
  obtain ⟨dir, links, name, hs, hn, hx⟩ := h.spot
  have kept := hc _ (reach_of_spot hs (.refl t) hn (solid_file hx) (by simp))
  rw [content?_eq_some.2 hx] at kept
  exact ⟨hg.hasParent h.parent, dir, links, name, hg.spot hs, hn, content?_eq_some.1 kept⟩

/-! ## Many files -/

@[simp] theorem writeAll_nil (t : FileTree) (dir : String) : t.writeAll dir [] = (.ok (), t) := rfl

theorem writeAll_cons {dir path content : String} {rest : List (String × String)} :
    t.writeAll dir ((path, content) :: rest) = (.ok (), u) ↔
      ∃ made written, t.makeParents (Path.join dir path) = (.ok (), made) ∧
        made.write (Path.join dir path) content = .ok written ∧ written.writeAll dir rest = (.ok (), u) := by
  conv_lhs => unfold writeAll
  dsimp only
  cases hm : t.makeParents (Path.join dir path) with
  | mk result made =>
    cases result with
    | error e => simp
    | ok _ => cases hw : made.write (Path.join dir path) content <;> simp [hw]

/-- What files that are written to paths from a directory change. -/
structure Changes (dir : String) (files : List (String × String)) (t u : FileTree) : Prop where
  grows : Grows t u
  /-- Any place with a new content is that of one of the files. -/
  elsewhere : ∀ p, u.content? p ≠ t.content? p → ∃ f ∈ files, u.reach (Path.join dir f.1) = .ok p

/-- **What writing files one after the other changes.** -/
theorem writeAll_changes {dir : String} {files : List (String × String)}
    (h : t.writeAll dir files = (.ok (), u)) : Changes dir files t u := by
  induction files generalizing t with
  | nil =>
    cases h
    exact ⟨.refl _, fun p hp => absurd rfl hp⟩
  | cons f rest ih =>
    obtain ⟨path, content⟩ := f
    obtain ⟨made, written, hm, hw, hr⟩ := writeAll_cons.1 h
    have more := ih hr
    have made_grows : Grows t made := by simpa [hm] using makeParents_grows t (Path.join dir path)
    refine ⟨made_grows.trans ((write_grows hw).trans more.grows), fun p hp => ?_⟩
    by_cases hl : u.content? p = written.content? p
    · have same : made.content? p = t.content? p := by
        simpa [hm] using makeParents_content t (Path.join dir path) p
      have reached := write_content hw (p := p) (by rwa [← hl, same])
      exact ⟨_, List.mem_cons_self, more.grows.reach reached⟩
    · obtain ⟨g, hg, reached⟩ := more.elsewhere p hl
      exact ⟨g, List.mem_cons_of_mem _ hg, reached⟩

/-- The paths of the files, from a directory, do not lead to one place in any tree without links. -/
def NeverMeet (dir : String) (f g : String × String) : Prop :=
  ∀ t : FileTree, t.Linkless → ∀ p, t.reach (Path.join dir f.1) = .ok p → t.reach (Path.join dir g.1) ≠ .ok p

/-- **Files that were written stand**, if there are no links and no two of them meet. -/
theorem writeAll_stands (plain : t.Linkless) {dir : String} {files : List (String × String)}
    (apart : files.Pairwise (NeverMeet dir)) (h : t.writeAll dir files = (.ok (), u)) :
    ∀ f ∈ files, u.Stands (Path.join dir f.1) f.2 := by
  induction files generalizing t with
  | nil => simp
  | cons f rest ih =>
    obtain ⟨path, content⟩ := f
    obtain ⟨others, later⟩ := List.pairwise_cons.1 apart
    obtain ⟨made, written, hm, hw, hr⟩ := writeAll_cons.1 h
    have more := writeAll_changes hr
    have made_grows : Grows t made := by simpa [hm] using makeParents_grows t (Path.join dir path)
    have bare := made_grows.linkless plain
    have stillBare := (write_grows hw).linkless bare
    have stands := write_stands bare (makeParents_ok hm) hw
    refine List.forall_mem_cons.2 ⟨?_, ih stillBare later hr⟩
    -- whatever was written later went elsewhere
    refine stands.grow more.grows fun p hp => Classical.byContradiction fun changed => ?_
    obtain ⟨g, hg, reached⟩ := more.elsewhere p changed
    exact others g hg u (more.grows.linkless stillBare) p (more.grows.reach hp) reached

/-! ## Writing again -/

/-- Nothing differs between the trees. -/
structure Same (t u : FileTree) : Prop where
  workDir : u.workDir = t.workDir
  nodes : ∀ p, u.node? p = t.node? p

theorem Same.refl (t : FileTree) : Same t t := ⟨rfl, fun _ => rfl⟩

theorem Same.trans {v : FileTree} (h : Same t u) (h' : Same u v) : Same t v :=
  ⟨h'.workDir.trans h.workDir, fun p => (h'.nodes p).trans (h.nodes p)⟩

theorem Same.grows (h : Same t u) : Grows t u :=
  ⟨h.workDir, fun p hp => by rwa [h.nodes p], fun p hp => by rwa [Solid, h.nodes p],
    fun p target => by rw [h.nodes p]⟩

theorem Same.stands (h : Same t u) {path content : String} (hs : t.Stands path content) :
    u.Stands path content :=
  hs.grow h.grows fun p _ => by rw [content?, h.nodes p]; rfl

/-- Writing a file that stands changes nothing. -/
theorem Stands.write {path content : String} (h : t.Stands path content) :
    ∃ v, t.write path content = .ok v ∧ Same t v := by
  obtain ⟨dir, links, name, hs, hn, hx⟩ := h.spot
  have writable : t.writable path = .ok (dir ++ [name]) := by
    obtain ⟨hc, hl, found⟩ := spot_ok.1 hs
    rw [FileTree.writable, hc, hl]
    dsimp only [bind, Except.bind]
    rw [writableFrom, spotFrom_ok.2 found]
    dsimp only [bind, Except.bind, landing]
    rw [hn, hx]
    rfl
  refine ⟨t.put (dir ++ [name]) (.file content.toUTF8), by rw [FileTree.write, writable]; rfl, rfl,
    fun p => ?_⟩
  by_cases e : p = dir ++ [name]
  · subst e
    rw [node?_put_name, hx]
  · exact node?_put_ne _ e

/-- **Writing files that stand changes nothing.** -/
theorem writeAll_again {dir : String} {files : List (String × String)}
    (h : ∀ f ∈ files, t.Stands (Path.join dir f.1) f.2) :
    ∃ v, t.writeAll dir files = (.ok (), v) ∧ Same t v := by
  induction files generalizing t with
  | nil => exact ⟨t, rfl, .refl t⟩
  | cons f rest ih =>
    obtain ⟨path, content⟩ := f
    obtain ⟨first, others⟩ := List.forall_mem_cons.1 h
    obtain ⟨written, hw, same⟩ := first.write
    obtain ⟨v, hv, again⟩ := ih fun g hg => same.stands (others g hg)
    exact ⟨v, writeAll_cons.2 ⟨t, written, makeParents_of_hasParent first.parent, hw, hv⟩, same.trans again⟩

end GoGlue.FileTree
