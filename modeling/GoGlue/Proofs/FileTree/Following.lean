import GoGlue.FileTree
import GoGlue.Proofs.Path.Joining

/-!
# Following paths in a growing tree

Where a path leads depends on directories and links only, and on whether anything else stands where a segment
points. So in a tree that has grown, which means that nothing was removed, that directories are still
directories and that links are the same, every path that led somewhere leads there still. A joined path leads
through the place of the directory; without links, a path of names leads from there straight downwards.

* `enter_ok`: what one segment can do.
* `Grows.follow`, `Grows.reach`: a path leads where it led.
* `follow_join`: a joined path is followed in two parts.
* `follow_join_ok`, `reach_join_inj`: names lead to different places from one directory.
-/
namespace GoGlue

/-- A composed step succeeds if both of its parts do. -/
theorem ok_of_bind {α β ε : Type} {e : Except ε α} {f : α → Except ε β} {b : β} (h : e >>= f = .ok b) :
    ∃ a, e = .ok a ∧ f a = .ok b := by
  cases e with
  | error e => cases h
  | ok a => exact ⟨a, rfl, h⟩

/-- A composed step fails if one of its parts does. -/
theorem error_of_bind {α β ε : Type} {e : Except ε α} {f : α → Except ε β} {x : ε}
    (h : e >>= f = .error x) : e = .error x ∨ ∃ a, e = .ok a ∧ f a = .error x := by
  cases e with
  | error e => exact .inl (by cases h; rfl)
  | ok a => exact .inr ⟨a, rfl, h⟩

/-- Whether a node is a link. -/
def Node.isLink : Node → Bool
  | .link _ => true
  | .file _ | .directory => false

namespace FileTree

variable {t u v : FileTree}

/-! ## Growing trees -/

/-- Something that is no link stands at the place. -/
def Solid (t : FileTree) (p : Place) : Prop := ∃ n, t.node? p = some n ∧ ∀ target, n ≠ .link target

/-- There are no symbolic links. -/
def Linkless (t : FileTree) : Prop := ∀ p target, t.node? p ≠ some (.link target)

theorem solid_directory {p : Place} (h : t.node? p = some .directory) : t.Solid p := ⟨_, h, nofun⟩

theorem solid_file {p : Place} {content : ByteArray} (h : t.node? p = some (.file content)) : t.Solid p :=
  ⟨_, h, nofun⟩

theorem linkless_of_nodes (h : ∀ e ∈ t.nodes.toList, e.2.isLink = false) : t.Linkless := by
  intro p target hp
  unfold node? at hp
  split at hp
  · cases hp
  · exact absurd (h _ (Std.TreeMap.mem_toList_iff_getElem?_eq_some.2 hp)) (by simp [Node.isLink])

/-- Nothing was removed, directories are still directories, and links are what they were. -/
structure Grows (t u : FileTree) : Prop where
  workDir : u.workDir = t.workDir
  directories : ∀ p, t.node? p = some .directory → u.node? p = some .directory
  solid : ∀ p, t.Solid p → u.Solid p
  links : ∀ p target, u.node? p = some (.link target) ↔ t.node? p = some (.link target)

theorem Grows.refl (t : FileTree) : Grows t t := ⟨rfl, fun _ h => h, fun _ h => h, fun _ _ => .rfl⟩

theorem Grows.trans (h : Grows t u) (h' : Grows u v) : Grows t v :=
  ⟨h'.workDir.trans h.workDir, fun p hp => h'.directories p (h.directories p hp),
    fun p hp => h'.solid p (h.solid p hp), fun p target => (h'.links p target).trans (h.links p target)⟩

theorem Grows.linkless (h : Grows t u) (ht : t.Linkless) : u.Linkless :=
  fun p target hp => ht p target ((h.links p target).1 hp)

/-! ## One segment -/

theorem checkDirectory_ok {here : Place} :
    t.checkDirectory here = .ok () ↔ t.node? here = some .directory := by
  unfold checkDirectory
  split <;> simp_all

/-- The segment is the name of a file or directory. -/
def IsName (segment : String) : Prop := segment ≠ "" ∧ segment ≠ "." ∧ segment ≠ ".."

theorem isName_ofList {cs : Path.Segment} (h : Path.IsName cs) : IsName (String.ofList cs) := by
  have chars : ∀ s : String, String.ofList cs = s → cs = s.toList := by
    rintro s rfl
    simp
  exact ⟨fun e => h.1 (chars _ e), fun e => h.2.1 (chars _ e), fun e => h.2.2 (chars _ e)⟩

/-- What one segment can do. -/
inductive Enters (t : FileTree) (s : Stage) : Nat → String → Stage → Prop
  | idle {depth : Nat} {segment : String} (hd : t.node? s.here = some .directory)
      (hs : segment = "" ∨ segment = ".") : Enters t s depth segment s
  | up {depth : Nat} (hd : t.node? s.here = some .directory) :
      Enters t s depth ".." ⟨s.here.dropLast, s.links⟩
  | name {depth : Nat} {segment : String} (hd : t.node? s.here = some .directory) (hs : IsName segment)
      (hn : checkName segment = .ok ()) (hx : t.Solid (s.here ++ [segment])) :
      Enters t s depth segment ⟨s.here ++ [segment], s.links⟩
  /-- The segment is the name of a link, and what the link stands for leads on. -/
  | link {depth links : Nat} {segment target : String} {e : Stage} (hd : t.node? s.here = some .directory)
      (hs : IsName segment) (hn : checkName segment = .ok ())
      (hx : t.node? (s.here ++ [segment]) = some (.link target)) (hl : s.links = links + 1)
      (hw : t.walk depth ⟨origin s.here target, links⟩ (segmentsOf target) = .ok e) :
      Enters t s (depth + 1) segment e

theorem Enters.directory {s e : Stage} {depth : Nat} {segment : String} (h : Enters t s depth segment e) :
    t.node? s.here = some .directory := by cases h <;> assumption

theorem enters_of_enter {depth : Nat} {s e : Stage} {segment : String} (h : t.enter depth s segment = .ok e) :
    Enters t s depth segment e := by
  unfold enter at h
  obtain ⟨_, hd, h⟩ := ok_of_bind h
  have directory := checkDirectory_ok.1 hd
  split at h
  · next idle =>
    cases h
    exact .idle directory idle
  · next proper =>
    obtain ⟨empty, dot⟩ := not_or.1 proper
    split at h
    · next up =>
      cases h
      subst up
      exact .up directory
    · next down =>
      obtain ⟨_, hn, h⟩ := ok_of_bind h
      have named : IsName segment := ⟨empty, dot, down⟩
      split at h
      · cases h
      · next target hx =>
        cases depth with
        | zero => cases h
        | succ depth =>
          cases hl : s.links with
          | zero =>
            rw [hl] at h
            cases h
          | succ links =>
            rw [hl] at h
            exact .link directory named hn hx hl h
      · next n notLink hx =>
        cases h
        exact .name directory named hn ⟨n, hx, fun target e => notLink target e⟩

theorem enter_of_enters {depth : Nat} {s e : Stage} {segment : String} (h : Enters t s depth segment e) :
    t.enter depth s segment = .ok e := by
  have directory := checkDirectory_ok.2 h.directory
  unfold enter
  rw [directory]
  cases h with
  | idle _ hs => simp [bind, Except.bind, hs, pure, Except.pure]
  | up _ => rfl
  | name _ hs hn hx =>
    obtain ⟨empty, dot, dots⟩ := hs
    obtain ⟨n, hx, notLink⟩ := hx
    cases n with
    | link target => exact absurd rfl (notLink target)
    | file content => simp [bind, Except.bind, empty, dot, dots, hn, hx, pure, Except.pure]
    | directory => simp [bind, Except.bind, empty, dot, dots, hn, hx, pure, Except.pure]
  | link _ hs hn hx hl hw =>
    obtain ⟨empty, dot, dots⟩ := hs
    simp only [bind, Except.bind, empty, dot, dots, hn, hx, hl, or_self, if_false]
    exact hw

/-- **A segment is followed in one of these ways.** -/
theorem enter_ok {depth : Nat} {s e : Stage} {segment : String} :
    t.enter depth s segment = .ok e ↔ Enters t s depth segment e :=
  ⟨enters_of_enter, enter_of_enters⟩

theorem enter_empty {depth : Nat} {s e : Stage} (h : t.enter depth s "" = .ok e) : e = s := by
  generalize hs : "" = segment at h
  cases enter_ok.1 h with
  | idle => rfl
  | up => exact absurd hs (by decide)
  | name _ proper => exact absurd hs.symm proper.1
  | link _ proper => exact absurd hs.symm proper.1

theorem enter_checkName {depth : Nat} {s e : Stage} {segment : String} (hs : IsName segment)
    (h : t.enter depth s segment = .ok e) : checkName segment = .ok () := by
  cases enter_ok.1 h with
  | idle _ idle => exact absurd idle (by simp [hs.1, hs.2.1])
  | up => exact absurd rfl hs.2.2
  | name _ _ short => exact short
  | link _ _ short => exact short

/-- Without links, a name leads downwards. -/
theorem Linkless.enter (h : t.Linkless) {depth : Nat} {s e : Stage} {segment : String}
    (hs : IsName segment) (he : t.enter depth s segment = .ok e) : e = ⟨s.here ++ [segment], s.links⟩ := by
  cases enter_ok.1 he with
  | idle _ idle => exact absurd idle (by simp [hs.1, hs.2.1])
  | up => exact absurd rfl hs.2.2
  | name => rfl
  | link _ _ _ linked => exact absurd linked (h _ _)

/-! ## Many segments -/

theorem walk_append (t : FileTree) (depth : Nat) (s : Stage) (a b : List String) :
    t.walk depth s (a ++ b) = t.walk depth s a >>= (t.walk depth · b) := List.foldlM_append

theorem walk_cons (t : FileTree) (depth : Nat) (s : Stage) (segment : String) (rest : List String) :
    t.walk depth s (segment :: rest) = t.enter depth s segment >>= (t.walk depth · rest) :=
  List.foldlM_cons

/-- What keeps single segments keeps many of them. -/
theorem walk_mono {depth : Nat}
    (step : ∀ {s e : Stage} {segment : String}, t.enter depth s segment = .ok e →
      u.enter depth s segment = .ok e)
    {s e : Stage} {segments : List String} (h : t.walk depth s segments = .ok e) :
    u.walk depth s segments = .ok e := by
  induction segments generalizing s with
  | nil => exact h
  | cons segment rest ih =>
    rw [walk_cons] at h ⊢
    obtain ⟨next, he, h⟩ := ok_of_bind h
    rw [step he]
    exact ih h

theorem Grows.enter (h : Grows t u) {depth : Nat} {s e : Stage} {segment : String}
    (he : t.enter depth s segment = .ok e) : u.enter depth s segment = .ok e := by
  refine enter_ok.2 ?_
  cases enter_ok.1 he with
  | idle hd hs => exact .idle (h.directories _ hd) hs
  | up hd => exact .up (h.directories _ hd)
  | name hd hs hn hx => exact .name (h.directories _ hd) hs hn (h.solid _ hx)
  | link hd hs hn hx hl hw =>
    -- links in what the link stands for are followed less deep
    exact .link (h.directories _ hd) hs hn ((h.links _ _).2 hx) hl (walk_mono (fun hi => h.enter hi) hw)
termination_by depth

/-- **In a tree that has grown, segments lead where they led.** -/
theorem Grows.walk (h : Grows t u) {depth : Nat} {s e : Stage} {segments : List String}
    (hw : t.walk depth s segments = .ok e) : u.walk depth s segments = .ok e := walk_mono h.enter hw

/-- Without links, names lead downwards. -/
theorem Linkless.walk (h : t.Linkless) {depth : Nat} {s e : Stage} {names : List String}
    (hn : ∀ name ∈ names, IsName name) (hw : t.walk depth s names = .ok e) :
    e = ⟨s.here ++ names, s.links⟩ := by
  induction names generalizing s with
  | nil =>
    cases hw
    simp
  | cons name rest ih =>
    obtain ⟨hs, hr⟩ := List.forall_mem_cons.1 hn
    rw [walk_cons] at hw
    obtain ⟨next, he, hw⟩ := ok_of_bind hw
    rw [ih hr hw, h.enter hs he]
    simp

/-- Empty segments lead nowhere. -/
theorem walk_empty {depth : Nat} {s : Stage} {segments : List String}
    (hd : t.node? s.here = some .directory) (hs : ∀ segment ∈ segments, segment = "") :
    t.walk depth s segments = .ok s := by
  induction segments with
  | nil => rfl
  | cons segment rest ih =>
    obtain ⟨e, hr⟩ := List.forall_mem_cons.1 hs
    rw [walk_cons, enter_ok.2 (.idle hd (.inl e))]
    exact ih hr

theorem walk_trail {depth : Nat} {s e : Stage} {segments : List String}
    (hs : ∀ segment ∈ segments, segment = "") (h : t.walk depth s segments = .ok e) : e = s := by
  induction segments with
  | nil =>
    cases h
    rfl
  | cons segment rest ih =>
    obtain ⟨rfl, hr⟩ := List.forall_mem_cons.1 hs
    rw [walk_cons] at h
    obtain ⟨next, he, h⟩ := ok_of_bind h
    rw [enter_empty he] at h
    exact ih hr h

/-! ## Paths -/

theorem locate_ok {path : String} {p : Place} :
    t.locate path = .ok p ↔ checkPath path = .ok () ∧ ∃ links, t.follow path = .ok ⟨p, links⟩ := by
  constructor
  · intro h
    obtain ⟨_, hc, h⟩ := ok_of_bind h
    obtain ⟨e, hf, h⟩ := ok_of_bind h
    cases h
    exact ⟨hc, e.links, hf⟩
  · rintro ⟨hc, links, h⟩
    rw [locate, hc]
    simp [bind, Except.bind, h, pure, Except.pure]

theorem reach_ok {path : String} {p : Place} :
    t.reach path = .ok p ↔
      checkPath path = .ok () ∧ checkLength path = .ok () ∧ ∃ links, t.follow path = .ok ⟨p, links⟩ := by
  constructor
  · intro h
    obtain ⟨_, hc, h⟩ := ok_of_bind h
    obtain ⟨_, hl, h⟩ := ok_of_bind h
    obtain ⟨e, hf, h⟩ := ok_of_bind h
    cases h
    exact ⟨hc, hl, e.links, hf⟩
  · rintro ⟨hc, hl, links, h⟩
    rw [reach, hc, hl]
    simp [bind, Except.bind, h, pure, Except.pure]

theorem locate_of_reach {path : String} {p : Place} (h : t.reach path = .ok p) : t.locate path = .ok p :=
  locate_ok.2 ⟨(reach_ok.1 h).1, (reach_ok.1 h).2.2⟩

/-- Without links, a place stands for itself. -/
theorem Linkless.resolve (h : t.Linkless) (p : Place) : t.resolve p = .ok p := by
  unfold FileTree.resolve
  split
  · next target linked => exact absurd linked (h p target)
  · rfl

theorem Grows.start (h : Grows t u) (path : String) : u.start path = t.start path := by
  rw [FileTree.start, FileTree.start, h.workDir]

/-- **In a tree that has grown, a path leads where it led.** -/
theorem Grows.follow (h : Grows t u) {path : String} {e : Stage} (hf : t.follow path = .ok e) :
    u.follow path = .ok e := by
  rw [FileTree.follow, h.start]
  exact h.walk hf

theorem Grows.locate (h : Grows t u) {path : String} {p : Place} (hl : t.locate path = .ok p) :
    u.locate path = .ok p :=
  locate_ok.2 ((locate_ok.1 hl).imp_right fun ⟨links, hf⟩ => ⟨links, h.follow hf⟩)

theorem Grows.reach (h : Grows t u) {path : String} {p : Place} (hr : t.reach path = .ok p) :
    u.reach path = .ok p :=
  reach_ok.2 ((reach_ok.1 hr).imp_right (And.imp_right fun ⟨links, hf⟩ => ⟨links, h.follow hf⟩))

/-- A path leads to a directory. -/
theorem isDirectory_iff {path : String} :
    t.isDirectory path = true ↔ ∃ p, t.reach path = .ok p ∧ t.node? p = some .directory := by
  unfold isDirectory lookup
  cases h : t.reach path with
  | error e => simp
  | ok p => simp

theorem Grows.isDirectory (h : Grows t u) {path : String} (hd : t.isDirectory path = true) :
    u.isDirectory path = true := by
  obtain ⟨p, hr, hn⟩ := isDirectory_iff.1 hd
  exact isDirectory_iff.2 ⟨p, h.reach hr, h.directories p hn⟩

/-! ## Joined paths -/

theorem segmentsOf_isName {path : String} (h : Path.Plain path) : ∀ s ∈ segmentsOf path, IsName s := by
  intro s hs
  obtain ⟨cs, hc, rfl⟩ := List.mem_map.1 hs
  exact isName_ofList (h cs hc)

theorem segmentsOf_single {name : String} (h : Path.Single name) : segmentsOf name = [name] := by
  simp [segmentsOf, h.segments]

theorem segmentsOf_slash (a b : String) : segmentsOf (a ++ "/" ++ b) = segmentsOf a ++ segmentsOf b := by
  simp [segmentsOf, Path.segments_slash]

theorem segmentsOf_ne_nil (path : String) : segmentsOf path ≠ [] := by
  simpa [segmentsOf] using Path.segments_ne_nil path.toList

theorem segmentsOf_injective {a b : String} (h : segmentsOf a = segmentsOf b) : a = b :=
  Path.segments_injective ((List.map_inj_right fun _ _ => String.ofList_injective).1 h)

/-- Whether a directory is looked at once or twice makes no difference. -/
theorem walk_empty_segment (t : FileTree) (depth : Nat) (s : Stage) {segments : List String}
    (h : segments ≠ []) : t.walk depth s ("" :: segments) = t.walk depth s segments := by
  obtain ⟨segment, rest, rfl⟩ := List.exists_cons_of_ne_nil h
  cases hd : t.checkDirectory s.here with
  | error e =>
    have stuck (segment : String) : t.enter depth s segment = .error e := by
      unfold enter
      rw [hd]
      rfl
    rw [walk_cons, walk_cons, stuck, stuck]
    rfl
  | ok _ =>
    rw [walk_cons, enter_ok.2 (.idle (checkDirectory_ok.1 hd) (.inl rfl))]
    rfl

/-- The segments of a joined path come from both of its parts; an empty one between them is lost. -/
theorem segmentsOf_join (dir : String) {path : String} (h : Path.Plain path) :
    ∃ front, segmentsOf (Path.join dir path) = front ++ segmentsOf path ∧
      (segmentsOf dir = front ∨ segmentsOf dir = front ++ [""]) := by
  obtain ⟨front, joined, own⟩ := Path.segments_join dir h
  refine ⟨front.map String.ofList, ?_, own.imp ?_ ?_⟩
  · rw [segmentsOf, joined, List.map_append]
    rfl
  · exact fun e => by rw [segmentsOf, e]
  · exact fun e => by rw [segmentsOf, e, List.map_append]; rfl

/-- Without the empty segment at its end, a path leads to the same place. -/
theorem walk_front {dir : String} {front : List String} {d : Stage}
    (own : segmentsOf dir = front ∨ segmentsOf dir = front ++ [""]) (hd : t.follow dir = .ok d) :
    t.walk maxLinks (t.start dir) front = .ok d := by
  rw [follow] at hd
  rcases own with own | own
  · rwa [own] at hd
  · rw [own, walk_append] at hd
    obtain ⟨here, hf, he⟩ := ok_of_bind hd
    rw [hf, walk_trail (by simp) he]

theorem start_join (t : FileTree) (dir : String) {path : String} (h : Path.Plain path) :
    t.start (Path.join dir path) = t.start dir := by
  rw [start, origin, Path.isAbsolute_join dir h]
  rfl

/-- **A joined path is followed in two parts.** -/
theorem follow_join (t : FileTree) (dir : String) {path : String} (h : Path.Plain path) :
    t.follow (Path.join dir path) = t.follow dir >>= (t.walk maxLinks · (segmentsOf path)) := by
  obtain ⟨front, joined, own⟩ := segmentsOf_join dir h
  rw [follow, follow, start_join t dir h, joined, ← walk_append]
  rcases own with own | own
  · rw [own]
  · rw [own, List.append_assoc, walk_append, walk_append]
    congr 1
    funext here
    exact (walk_empty_segment t maxLinks here (segmentsOf_ne_nil path)).symm

/-- Where a joined path leads without links, if it leads anywhere. -/
theorem follow_join_ok (plain : t.Linkless) {dir path : String} {e : Stage} (h : Path.Plain path)
    (hf : t.follow (Path.join dir path) = .ok e) :
    ∃ d, t.follow dir = .ok d ∧ e = ⟨d.here ++ segmentsOf path, d.links⟩ := by
  rw [follow_join t dir h] at hf
  obtain ⟨d, hd, hw⟩ := ok_of_bind hf
  exact ⟨d, hd, plain.walk (segmentsOf_isName h) hw⟩

/-- **Different names lead to different places** from one directory. -/
theorem reach_join_inj (plain : t.Linkless) {dir a b : String} {p : Place} (ha : Path.Plain a)
    (hb : Path.Plain b) (h : t.reach (Path.join dir a) = .ok p) (h' : t.reach (Path.join dir b) = .ok p) :
    a = b := by
  obtain ⟨_, hf⟩ := (reach_ok.1 h).2.2
  obtain ⟨_, hf'⟩ := (reach_ok.1 h').2.2
  obtain ⟨d, hd, e⟩ := follow_join_ok plain ha hf
  obtain ⟨d', hd', e'⟩ := follow_join_ok plain hb hf'
  cases hd.symm.trans hd'
  exact segmentsOf_injective (List.append_cancel_left
    ((congrArg Stage.here e).symm.trans (congrArg Stage.here e')))

end FileTree

end GoGlue
