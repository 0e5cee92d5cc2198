/-
Docstrings/Proofs/Files/Resolution.lean

Why a path leads nowhere.

A path is followed step by step, and the first step that cannot be taken decides what is
wrong with it; what comes behind that step is not looked at.  A step cannot be taken
because nothing is there to take it from, because a file is, because its name is too
long, or because nothing is where it ends:

    walk loc steps = error fault  ↔  steps = before ++ s :: after,  `before` leads to a
                                     place where `s` is blocked by `fault`

Before any step is taken, the path as a whole may be refused.

* `step_eq_error_iff`, `walk_eq_error_iff` — what blocks one step, and many.
* `resolve_eq_error_iff` — what is wrong with a path that leads nowhere.
* `isSome_node?_of_resolve` — where a path leads, there is something.
* `read_eq_error_iff` — what is wrong with a path that cannot be read.
-/
import Docstrings.Proofs.Files.Writing

namespace Docstrings

namespace Files

/-! ### Routes of a path -/

namespace Route

theorem ofPath_eq_error_iff {path : Path} {fault : Fault} :
    ofPath path = .error fault ↔
      ('\x00' ∈ path.toList ∧ fault = .nulInPath) ∨ (path = "" ∧ fault = .missing) ∨
        ('\x00' ∉ path.toList ∧ pathLimit < path.utf8ByteSize ∧ fault = .nameTooLong) := by
  unfold ofPath
  by_cases hnul : '\x00' ∈ path.toList
  · have hne : path ≠ "" := by
      rintro rfl
      exact absurd hnul (by decide)
    simp [hnul, hne, eq_comm]
  · by_cases hempty : path = ""
    · simp [hempty, eq_comm, pathLimit]
    · by_cases hlong : pathLimit < path.utf8ByteSize
      · simp [hnul, hempty, hlong, eq_comm]
      · simp [hnul, hempty, hlong]

/-- A route that starts at the working directory goes somewhere from there. -/
theorem stepsToRead_ne_nil {path : Path} {r : Route} (h : ofPath path = .ok r)
    (hrel : r.absolute = false) : r.stepsToRead ≠ [] := by
  obtain ⟨-, hne, -, rfl⟩ := ofPath_eq_ok_iff.1 h
  obtain ⟨c, cs, hcs⟩ := List.exists_cons_of_ne_nil fun hnil => hne (String.toList_eq_nil_iff.1 hnil)
  have hslash : c ≠ '/' := by
    rintro rfl
    rw [hcs] at hrel
    exact absurd hrel (by simp [ofChars])
  have hsteps : (ofChars path.toList).steps ≠ [] := by
    obtain ⟨first, rest, hparts⟩ := List.exists_cons_of_ne_nil (List.splitOn_ne_nil '/' cs)
    rw [hcs]
    simp [ofChars, List.splitOn_cons_eq_if_modifyHead, hslash, hparts]
  unfold stepsToRead
  split
  · exact List.append_ne_nil_of_left_ne_nil hsteps _
  · exact hsteps

end Route

namespace Tree

/-! ### Steps that cannot be taken -/

/-- Why a step cannot be taken from a location. -/
inductive Blocked (t : Tree) (loc : Location) (s : Step) : Fault → Prop
  /-- Nothing is there to take it from. -/
  | nowhere (h : t.node? loc = none) : Blocked t loc s .missing
  /-- A file is there, and a step is taken from a directory. -/
  | file {content : ByteArray} (h : t.node? loc = some (.file content)) :
    Blocked t loc s .notDirectory
  /-- No entry has a name as long as that. -/
  | tooLong (h : t.node? loc = some .directory) (hend : s.end? loc = none) :
    Blocked t loc s .nameTooLong
  /-- Nothing is where it ends. -/
  | absent {next : Location} (h : t.node? loc = some .directory) (hend : s.end? loc = some next)
    (hnext : t.node? next = none) : Blocked t loc s .missing

theorem step_of_directory {t : Tree} {loc : Location} (h : t.node? loc = some .directory)
    (s : Step) :
    t.step loc s = match s.end? loc with
      | none => .error .nameTooLong
      | some next => t.enter next := by
  unfold step
  rw [h]
  cases s with
  | here => simp [Step.end?, enter, h]
  | up => rfl
  | into name =>
    by_cases hlong : tooLong name = true
    · simp [Step.end?, hlong]
    · simp [Step.end?, hlong]

theorem enter_eq_error_iff {t : Tree} {loc : Location} {fault : Fault} :
    t.enter loc = .error fault ↔ t.node? loc = none ∧ fault = .missing := by
  unfold enter
  rcases t.node? loc with - | node <;> simp [eq_comm]

theorem step_eq_error_iff {t : Tree} {loc : Location} {s : Step} {fault : Fault} :
    t.step loc s = .error fault ↔ t.Blocked loc s fault := by
  constructor
  · intro h
    rcases hnode : t.node? loc with - | (content | -)
    · obtain rfl : fault = .missing := by simpa [step, hnode, eq_comm] using h
      exact .nowhere hnode
    · obtain rfl : fault = .notDirectory := by simpa [step, hnode, eq_comm] using h
      exact .file hnode
    · rw [step_of_directory hnode] at h
      rcases hend : s.end? loc with - | next
      · obtain rfl : fault = .nameTooLong := by simpa [hend, eq_comm] using h
        exact .tooLong hnode hend
      · rw [hend] at h
        obtain ⟨hnext, rfl⟩ := enter_eq_error_iff.1 h
        exact .absent hnode hend hnext
  · intro h
    cases h with
    | nowhere hnode => simp [step, hnode]
    | file hnode => simp [step, hnode]
    | tooLong hnode hend => rw [step_of_directory hnode, hend]
    | absent hnode hend hnext =>
      rw [step_of_directory hnode, hend]
      exact enter_eq_error_iff.2 ⟨hnext, rfl⟩

/-- The first step that cannot be taken decides. -/
theorem walk_eq_error_iff {t : Tree} {loc : Location} {steps : List Step} {fault : Fault} :
    t.walk loc steps = .error fault ↔
      ∃ before s after mid, steps = before ++ s :: after ∧ t.walk loc before = .ok mid ∧
        t.Blocked mid s fault := by
  constructor
  · intro h
    induction steps generalizing loc with
    | nil => exact absurd h nofun
    | cons s rest ih =>
      rw [walk] at h
      rcases hstep : t.step loc s with fault' | next
      · rw [hstep] at h
        obtain rfl : fault' = fault := Except.error.inj h
        exact ⟨[], s, rest, loc, rfl, rfl, step_eq_error_iff.1 hstep⟩
      · rw [hstep] at h
        obtain ⟨before, s', after, mid, rfl, hwalk, hblocked⟩ := ih h
        refine ⟨s :: before, s', after, mid, rfl, ?_, hblocked⟩
        rw [walk, hstep]
        exact hwalk
  · rintro ⟨before, s, after, mid, rfl, hwalk, hblocked⟩
    rw [walk_append, hwalk]
    show t.walk mid (s :: after) = .error fault
    rw [walk, step_eq_error_iff.2 hblocked]

/-- Where steps lead, there is something. -/
theorem isSome_node?_of_walk {t : Tree} {loc next : Location} {steps : List Step}
    (h : t.walk loc steps = .ok next) (hne : steps ≠ []) : (t.node? next).isSome = true := by
  induction steps generalizing loc with
  | nil => exact absurd rfl hne
  | cons s rest ih =>
    rw [walk] at h
    rcases hstep : t.step loc s with fault | mid
    · simp [hstep] at h
    · rw [hstep] at h
      by_cases hrest : rest = []
      · subst hrest
        obtain rfl : mid = next := Except.ok.inj h
        exact isSome_node?_of_step hstep
      · exact ih h hrest

/-! ### Paths -/

/-- Why a path leads nowhere: because of what is written in it, or because of the first
step that cannot be taken. -/
inductive LeadsNowhere (t : Tree) (path : Path) : Fault → Prop
  | nul (h : '\x00' ∈ path.toList) : LeadsNowhere t path .nulInPath
  | empty (h : path = "") : LeadsNowhere t path .missing
  | tooLong (hnul : '\x00' ∉ path.toList) (h : pathLimit < path.utf8ByteSize) :
    LeadsNowhere t path .nameTooLong
  | blocked {r : Route} {before after : List Step} {s : Step} {mid : Location} {fault : Fault}
    (hroute : Route.ofPath path = .ok r) (hsteps : r.stepsToRead = before ++ s :: after)
    (hwalk : t.walk (t.origin r) before = .ok mid) (h : t.Blocked mid s fault) :
    LeadsNowhere t path fault

theorem resolve_eq_error_iff {t : Tree} {path : Path} {fault : Fault} :
    t.resolve path = .error fault ↔ t.LeadsNowhere path fault := by
  unfold resolve
  constructor
  · intro h
    rcases hroute : Route.ofPath path with fault' | r
    · rw [hroute] at h
      obtain rfl : fault' = fault := Except.error.inj h
      rcases Route.ofPath_eq_error_iff.1 hroute with
        ⟨hnul, rfl⟩ | ⟨hempty, rfl⟩ | ⟨hnul, hlong, rfl⟩
      · exact .nul hnul
      · exact .empty hempty
      · exact .tooLong hnul hlong
    · rw [hroute] at h
      obtain ⟨before, s, after, mid, hsteps, hwalk, hblocked⟩ := walk_eq_error_iff.1 h
      exact .blocked hroute hsteps hwalk hblocked
  · intro h
    cases h with
    | nul hnul => rw [Route.ofPath_eq_error_iff.2 (.inl ⟨hnul, rfl⟩)]
    | empty hempty => rw [Route.ofPath_eq_error_iff.2 (.inr (.inl ⟨hempty, rfl⟩))]
    | tooLong hnul hlong => rw [Route.ofPath_eq_error_iff.2 (.inr (.inr ⟨hnul, hlong, rfl⟩))]
    | blocked hroute hsteps hwalk hblocked =>
      rw [hroute]
      exact walk_eq_error_iff.2 ⟨_, _, _, _, hsteps, hwalk, hblocked⟩

/-- Only the root is named without a step. -/
theorem eq_root_of_stepsToRead_eq_nil {t : Tree} {path : Path} {r : Route} {loc : Location}
    (hroute : Route.ofPath path = .ok r) (hwalk : t.walk (t.origin r) r.stepsToRead = .ok loc)
    (hsteps : r.stepsToRead = []) : loc = .root := by
  have habs : r.absolute = true := by
    rcases habs : r.absolute with - | -
    · exact absurd hsteps (Route.stepsToRead_ne_nil hroute habs)
    · rfl
  rw [hsteps, origin, if_pos habs] at hwalk
  exact (Except.ok.inj hwalk).symm

/-- Where a path leads, there is something. -/
theorem isSome_node?_of_resolve {t : Tree} {path : Path} {loc : Location}
    (h : t.resolve path = .ok loc) : (t.node? loc).isSome = true := by
  unfold resolve at h
  rcases hroute : Route.ofPath path with fault | r
  · simp [hroute] at h
  · rw [hroute] at h
    by_cases hsteps : r.stepsToRead = []
    · rw [eq_root_of_stepsToRead_eq_nil hroute h hsteps]
      rfl
    · exact isSome_node?_of_walk h hsteps

/-- Why a path cannot be read. -/
theorem read_eq_error_iff {t : Tree} {path : Path} {fault : Fault} :
    t.read path = .error fault ↔
      t.LeadsNowhere path fault ∨
        ∃ loc, t.resolve path = .ok loc ∧ t.node? loc = some .directory ∧ fault = .isDirectory := by
  rw [← resolve_eq_error_iff]
  unfold read
  rcases hresolve : t.resolve path with fault' | loc
  · simp
  · have hsome := isSome_node?_of_resolve hresolve
    rcases hnode : t.node? loc with - | (content | -)
    · rw [hnode] at hsome
      exact absurd hsome (by decide)
    · simp [hnode]
    · simp [hnode, eq_comm]

end Tree

end Files

end Docstrings
