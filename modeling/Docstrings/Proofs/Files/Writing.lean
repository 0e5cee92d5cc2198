/-
Docstrings/Proofs/Files/Writing.lean

What writing a file does to a tree.

A write puts a file where no directory is.  So every directory stays what it is,
nothing else becomes one, and all that was there is still there: the tree *grows*.
Along a route nothing else is asked of the locations passed, and so every path
that led somewhere leads to the same place afterwards:

    Grows t t'  →  t.resolve path = .ok loc  →  t'.resolve path = .ok loc

A path that led nowhere may lead to the new file.

* `step_eq_ok_iff`, `target_eq_ok_iff` — where a step leads, and where a file goes.
* `grows_put` — a tree grows by a write.
* `Grows.resolve`, `Grows.target` — paths lead where they led.
* `namesFile_put_self` — what is written to a path is read from it.
-/
import Docstrings.Files.Tree

namespace Docstrings

namespace Files

/-! ### Steps and targets -/

/-- Where a step ends that is taken from a location, whatever is there. -/
def Step.end? (loc : Location) : Step → Option Location
  | .here => some loc
  | .up => some loc.parent
  | .into name => if tooLong name then none else some (loc.child name)

namespace Tree

theorem step_eq_ok_iff {t : Tree} {loc next : Location} {s : Step} :
    t.step loc s = .ok next ↔
      t.node? loc = some .directory ∧ s.end? loc = some next ∧ (t.node? next).isSome = true := by
  unfold step
  rcases hnode : t.node? loc with - | (content | -)
  · simp
  · simp
  · have hhere : (t.node? loc).isSome = true := by rw [hnode]; rfl
    -- from a directory each kind of step has its own end
    cases s with
    | here =>
      constructor
      · rintro ⟨⟩
        exact ⟨rfl, rfl, hhere⟩
      · rintro ⟨-, ⟨⟩, -⟩
        rfl
    | up =>
      constructor
      · intro h
        obtain ⟨rfl, hsome⟩ := enter_eq_ok_iff.1 h
        exact ⟨rfl, rfl, hsome⟩
      · rintro ⟨-, ⟨⟩, hsome⟩
        exact enter_eq_ok_iff.2 ⟨rfl, hsome⟩
    | into name =>
      by_cases hlong : tooLong name = true
      · simp [Step.end?, hlong]
      · show (if tooLong name then .error .nameTooLong else t.enter (loc.child name)) = .ok next ↔
          _ ∧ (if tooLong name then none else some (loc.child name)) = some next ∧ _
        rw [if_neg hlong, if_neg hlong]
        constructor
        · intro h
          obtain ⟨rfl, hsome⟩ := enter_eq_ok_iff.1 h
          exact ⟨rfl, rfl, hsome⟩
        · rintro ⟨-, ⟨⟩, hsome⟩
          exact enter_eq_ok_iff.2 ⟨rfl, hsome⟩

theorem targetIn_eq_ok_iff {t : Tree} {dir loc : Location} {last : Step} {slashAtEnd : Bool} :
    t.targetIn dir last slashAtEnd = .ok loc ↔
      slashAtEnd = false ∧ t.node? dir = some .directory ∧ ∃ name, last = .into name ∧
        tooLong name = false ∧ t.node? (dir.child name) ≠ some .directory ∧
        loc = dir.child name := by
  unfold targetIn
  rcases hstep : t.step dir .here with fault | next
  · have hdir : t.node? dir ≠ some .directory := by
      intro hdir
      simp [step, hdir] at hstep
    simp [hdir]
  · have hdir : t.node? dir = some .directory := (step_eq_ok_iff.1 hstep).1
    cases last with
    | here => simp
    | up => simp
    | into name =>
      cases slashAtEnd with
      | true => simp
      | false =>
        by_cases hlong : tooLong name = true
        · simp [hlong]
        · by_cases hthere : t.node? (dir.child name) = some .directory
          · simp [hlong, hthere]
          · simpa [hdir, hlong, hthere] using eq_comm

/-- A file goes to the entry that the last step of a path names, in the directory that
the steps before lead to, unless a directory is there. -/
theorem target_eq_ok_iff {t : Tree} {path : Path} {loc : Location} :
    t.target path = .ok loc ↔
      ∃ r dir name, Route.ofPath path = .ok r ∧ r.slashAtEnd = false ∧
        r.steps.getLast? = some (.into name) ∧
        t.walk (t.origin r) r.steps.dropLast = .ok dir ∧ t.node? dir = some .directory ∧
        tooLong name = false ∧ t.node? (dir.child name) ≠ some .directory ∧
        loc = dir.child name := by
  unfold target
  rcases hroute : Route.ofPath path with fault | r
  · simp
  rcases hlast : r.steps.getLast? with - | last
  · simp [hlast]
  rcases hwalk : t.walk (t.origin r) r.steps.dropLast with fault | dir
  · simp [hlast, hwalk]
  · -- the route has a last step, and the steps before it lead to `dir`
    simp only [hlast, hwalk]
    constructor
    · intro h
      obtain ⟨hslash, hdir, name, rfl, hname, hfree, rfl⟩ := targetIn_eq_ok_iff.1 h
      exact ⟨r, dir, name, rfl, hslash, hlast, hwalk, hdir, hname, hfree, rfl⟩
    · rintro ⟨r', dir', name, ⟨⟩, hslash, hlast', hwalk', hdir, hname, hfree, rfl⟩
      obtain rfl : last = .into name := Option.some.inj (hlast.symm.trans hlast')
      obtain rfl : dir = dir' := Except.ok.inj (hwalk.symm.trans hwalk')
      exact targetIn_eq_ok_iff.2 ⟨hslash, hdir, name, rfl, hname, hfree, rfl⟩

/-- A write fails exactly if there is no place for the file, whatever it holds. -/
theorem write_eq_error_iff {t : Tree} {path : Path} {content : ByteArray} {fault : Fault} :
    (t.write path content).1 = .error fault ↔ t.target path = .error fault := by
  unfold write
  rcases t.target path with fault' | loc
  · simp
  · simp

theorem write_eq_ok_iff {t : Tree} {path : Path} {content : ByteArray} :
    (t.write path content).1 = .ok () ↔ ∃ loc, t.target path = .ok loc := by
  unfold write
  rcases t.target path with fault | loc
  · simp
  · simp

/-! ### Files by their paths -/

/-- The path leads to a file, which stands at the location and holds the content. -/
def NamesFile (t : Tree) (path : Path) (loc : Location) (content : ByteArray) : Prop :=
  t.resolve path = .ok loc ∧ t.node? loc = some (.file content)

theorem read_eq_ok_iff {t : Tree} {path : Path} {content : ByteArray} :
    t.read path = .ok content ↔ ∃ loc, t.NamesFile path loc content := by
  unfold read NamesFile
  rcases hloc : t.resolve path with fault | loc
  · simp
  · rcases hnode : t.node? loc with - | (bytes | -)
    · simp [hnode]
    · simp [hnode]
    · simp [hnode]

theorem isFile_eq_false_iff {t : Tree} {path : Path} :
    t.isFile path = false ↔ ¬ ∃ loc content, t.NamesFile path loc content := by
  rw [Bool.eq_false_iff, ne_eq, isFile_iff]
  simp only [read_eq_ok_iff]
  rw [exists_comm]

theorem isFile_of_read_error {t : Tree} {path : Path} {fault : Fault}
    (h : t.read path = .error fault) : t.isFile path = false := by
  rw [Bool.eq_false_iff, ne_eq, isFile_iff]
  rintro ⟨content, hcontent⟩
  rw [h] at hcontent
  exact absurd hcontent nofun

/-! ### Growing trees -/

/-- The tree `t'` has all that is in `t`, and the same directories. -/
structure Grows (t t' : Tree) : Prop where
  workingDirectory : t'.workingDirectory = t.workingDirectory
  directory : ∀ loc, t'.node? loc = some .directory ↔ t.node? loc = some .directory
  present : ∀ loc, (t.node? loc).isSome = true → (t'.node? loc).isSome = true

theorem Grows.refl (t : Tree) : Grows t t := ⟨rfl, fun _ => .rfl, fun _ => id⟩

theorem Grows.trans {t₁ t₂ t₃ : Tree} (h₁ : Grows t₁ t₂) (h₂ : Grows t₂ t₃) : Grows t₁ t₃ where
  workingDirectory := h₂.workingDirectory.trans h₁.workingDirectory
  directory loc := (h₂.directory loc).trans (h₁.directory loc)
  present loc hsome := h₂.present loc (h₁.present loc hsome)

/-- Where a file is, a file still is when the tree has grown. -/
theorem Grows.file {t t' : Tree} (h : Grows t t') {loc : Location} {content : ByteArray}
    (hfile : t.node? loc = some (.file content)) :
    ∃ content', t'.node? loc = some (.file content') := by
  have hsome : (t'.node? loc).isSome = true := h.present loc (by rw [hfile]; rfl)
  rcases hnode : t'.node? loc with - | (content' | -)
  · rw [hnode] at hsome
    exact absurd hsome (by decide)
  · exact ⟨content', rfl⟩
  · -- a directory would have been one before
    have hdir := (h.directory loc).1 hnode
    rw [hfile] at hdir
    exact absurd hdir (by simp)

/-- A tree grows by a file that is put where no directory is. -/
theorem grows_put {t : Tree} {loc : Location} (content : ByteArray)
    (h : t.node? loc ≠ some .directory) : Grows t (t.put loc (.file content)) := by
  -- the root is a directory
  have hroot : loc ≠ .root := by
    rintro rfl
    exact h (if_pos rfl)
  have hself : (t.put loc (.file content)).node? loc = some (.file content) :=
    node?_put_self t (.file content) hroot
  refine ⟨rfl, ?_, ?_⟩
  · intro other
    by_cases hother : other = loc
    · rw [hother, hself]
      simp [h]
    · rw [node?_put_of_ne t (.file content) hother]
  · intro other hsome
    by_cases hother : other = loc
    · rw [hother, hself]
      rfl
    · rw [node?_put_of_ne t (.file content) hother]
      exact hsome

section

variable {t t' : Tree}

theorem Grows.origin (h : Grows t t') (r : Route) : t'.origin r = t.origin r := by
  unfold Tree.origin
  rw [h.workingDirectory]

theorem Grows.step (h : Grows t t') {loc next : Location} {s : Step}
    (hstep : t.step loc s = .ok next) : t'.step loc s = .ok next := by
  obtain ⟨hdir, hend, hsome⟩ := step_eq_ok_iff.1 hstep
  exact step_eq_ok_iff.2 ⟨(h.directory loc).2 hdir, hend, h.present next hsome⟩

theorem Grows.walk (h : Grows t t') {loc last : Location} {steps : List Step}
    (hwalk : t.walk loc steps = .ok last) : t'.walk loc steps = .ok last := by
  induction steps generalizing loc with
  | nil => exact hwalk
  | cons s rest ih =>
    rw [Tree.walk] at hwalk ⊢
    rcases hstep : t.step loc s with fault | next
    · simp [hstep] at hwalk
    · rw [hstep] at hwalk
      rw [h.step hstep]
      exact ih hwalk

/-- A path that led somewhere leads to the same place when the tree has grown. -/
theorem Grows.resolve (h : Grows t t') {path : Path} {loc : Location}
    (hpath : t.resolve path = .ok loc) : t'.resolve path = .ok loc := by
  unfold Tree.resolve at hpath ⊢
  rcases hroute : Route.ofPath path with fault | r
  · simp [hroute] at hpath
  · rw [hroute] at hpath
    show t'.walk (t'.origin r) r.stepsToRead = .ok loc
    rw [h.origin]
    exact h.walk hpath

/-- A file that could be written to a path still goes to the same place. -/
theorem Grows.target (h : Grows t t') {path : Path} {loc : Location}
    (hpath : t.target path = .ok loc) : t'.target path = .ok loc := by
  obtain ⟨r, dir, name, hroute, hslash, hlast, hwalk, hdir, hname, hfree, hloc⟩ :=
    target_eq_ok_iff.1 hpath
  refine target_eq_ok_iff.2 ⟨r, dir, name, hroute, hslash, hlast, ?_, ?_, hname, ?_, hloc⟩
  · rw [h.origin]
    exact h.walk hwalk
  · exact (h.directory dir).2 hdir
  · intro hthere
    exact hfree ((h.directory (dir.child name)).1 hthere)

end

/-! ### After a write -/

section

variable {t : Tree} {path : Path} {loc : Location}

theorem node?_ne_directory_of_target (h : t.target path = .ok loc) :
    t.node? loc ≠ some .directory := by
  obtain ⟨r, dir, name, -, -, -, -, -, -, hfree, rfl⟩ := target_eq_ok_iff.1 h
  exact hfree

theorem grows_put_of_target (h : t.target path = .ok loc) (content : ByteArray) :
    Grows t (t.put loc (.file content)) :=
  grows_put content (node?_ne_directory_of_target h)

/-- A path that a file can be written to leads to that place, if something is there. -/
theorem resolve_eq_enter_of_target (h : t.target path = .ok loc) :
    t.resolve path = t.enter loc := by
  obtain ⟨r, dir, name, hroute, hslash, hlast, hwalk, hdir, hname, -, rfl⟩ :=
    target_eq_ok_iff.1 h
  -- what is walked to read is what is walked to write, and the step to the file
  have hsteps : r.stepsToRead = r.steps.dropLast ++ [.into name] := by
    obtain ⟨front, hfront⟩ := List.getLast?_eq_some_iff.1 hlast
    simp [Route.stepsToRead, hslash, hfront]
  have hstep : t.step dir (.into name) = t.enter (dir.child name) := by
    simp [Tree.step, hdir, hname]
  unfold Tree.resolve
  rw [hroute]
  show t.walk (t.origin r) r.stepsToRead = t.enter (dir.child name)
  rw [hsteps, walk_append, hwalk]
  show t.walk dir [.into name] = t.enter (dir.child name)
  rw [Tree.walk, hstep]
  rcases t.enter (dir.child name) with fault | next
  · rfl
  · rfl

/-- A path that a file can be written to leads to the file once it is there. -/
theorem resolve_of_target (h : t.target path = .ok loc) (hsome : (t.node? loc).isSome = true) :
    t.resolve path = .ok loc := by
  rw [resolve_eq_enter_of_target h]
  exact enter_eq_ok_iff.2 ⟨rfl, hsome⟩

/-- Where a path leads is where a file goes that is written to it. -/
theorem eq_of_target_of_resolve {next : Location} (h : t.target path = .ok loc)
    (hnext : t.resolve path = .ok next) : next = loc := by
  rw [resolve_eq_enter_of_target h] at hnext
  exact (enter_eq_ok_iff.1 hnext).1

/-- What is written to a path is read from it. -/
theorem namesFile_put_self (h : t.target path = .ok loc) (content : ByteArray) :
    (t.put loc (.file content)).NamesFile path loc content := by
  have hroot : loc ≠ .root := by
    rintro rfl
    exact node?_ne_directory_of_target h (if_pos rfl)
  have hself : (t.put loc (.file content)).node? loc = some (.file content) :=
    node?_put_self t (.file content) hroot
  refine ⟨resolve_of_target ((grows_put_of_target h content).target h) ?_, hself⟩
  rw [hself]
  rfl

/-- A file elsewhere is read as before. -/
theorem NamesFile.put_of_ne {other : Path} {elsewhere : Location} {held : ByteArray}
    (hother : t.NamesFile other elsewhere held) (hne : elsewhere ≠ loc)
    (h : t.target path = .ok loc) (content : ByteArray) :
    (t.put loc (.file content)).NamesFile other elsewhere held := by
  refine ⟨(grows_put_of_target h content).resolve hother.1, ?_⟩
  rw [node?_put_of_ne t (.file content) hne]
  exact hother.2

/-- Steps that lead elsewhere after a write led there before: on their way they meet
directories only. -/
theorem walk_of_walk_put {start last : Location} {steps : List Step} {content : ByteArray}
    (h : t.target path = .ok loc) (hwalk : (t.put loc (.file content)).walk start steps = .ok last)
    (hne : last ≠ loc) : t.walk start steps = .ok last := by
  induction steps generalizing start with
  | nil => exact hwalk
  | cons s rest ih =>
    rw [Tree.walk] at hwalk ⊢
    rcases hstep : (t.put loc (.file content)).step start s with fault | next
    · simp [hstep] at hwalk
    · rw [hstep] at hwalk
      obtain ⟨hdir, hend, hsome⟩ := step_eq_ok_iff.1 hstep
      -- no step is taken from the file that was written
      have hnext : next ≠ loc := by
        rintro rfl
        have hfile := (namesFile_put_self h content).2
        cases rest with
        | nil => exact hne (Except.ok.inj hwalk).symm
        | cons s' rest => simp [Tree.walk, Tree.step, hfile] at hwalk
      rw [node?_put_of_ne t (.file content) hnext] at hsome
      have hdir' := ((grows_put_of_target h content).directory start).1 hdir
      rw [step_eq_ok_iff.2 ⟨hdir', hend, hsome⟩]
      exact ih hwalk

/-- A write changes nothing of what the paths to other files lead to. -/
theorem namesFile_put_iff_of_ne {other : Path} {elsewhere : Location} {held : ByteArray}
    (hne : elsewhere ≠ loc) (h : t.target path = .ok loc) (content : ByteArray) :
    (t.put loc (.file content)).NamesFile other elsewhere held
      ↔ t.NamesFile other elsewhere held := by
  constructor
  · rintro ⟨hresolve, hnode⟩
    rw [node?_put_of_ne t (.file content) hne] at hnode
    refine ⟨?_, hnode⟩
    unfold Tree.resolve at hresolve ⊢
    rcases hroute : Route.ofPath other with fault | r
    · simp [hroute] at hresolve
    · rw [hroute] at hresolve
      exact walk_of_walk_put h hresolve hne
  · intro hother
    exact hother.put_of_ne hne h content

/-- A file that is overwritten through one path is read through the other with the new
content. -/
theorem NamesFile.put_self {other : Path} {held : ByteArray}
    (hother : t.NamesFile other loc held) (h : t.target path = .ok loc) (content : ByteArray) :
    (t.put loc (.file content)).NamesFile other loc content :=
  ⟨(grows_put_of_target h content).resolve hother.1, (namesFile_put_self h content).2⟩

end

end Tree

end Files

end Docstrings
