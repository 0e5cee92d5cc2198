/-
Docstrings/Proofs/Files/Entries.lean

The entry that a path names, whether or not something is there.

A path to a file ends in a name.  The steps before the name lead to a location, and the
name is that of an entry below it.  This can be said before there is a file, so two paths
can name the same file although neither of them leads anywhere yet: `o.md`, `./o.md` and
`sub/../o.md`, where `sub` is a directory.

Where a file goes that is written to a path is a question about the path, and whether it
can go there is one about the entry:

    t.target path = .ok loc  ↔  t.NamesEntry path loc ∧ t.Admits loc

So of two paths that name the same file either both can be written to, or none can.

* `target_eq_ok_iff_namesEntry` — the equivalence above.
* `NamesEntry.unique` — a path names one entry at most.
* `NamesFile.namesEntry` — a path that leads to a file names its entry.
* `SameFile.target_eq_ok` — a file goes to the same place by either path.
-/
import Docstrings.Proofs.Files.Resolution

namespace Docstrings

namespace Files

namespace Location

/-- A location other than the root is an entry of the one above. -/
theorem exists_eq_child {loc : Location} (h : loc ≠ .root) : ∃ name, loc = loc.parent.child name := by
  have hne : loc.names ≠ [] := fun hnil => h (ext_names hnil)
  refine ⟨loc.names.getLast hne, ext_names ?_⟩
  exact (List.dropLast_concat_getLast hne).symm

end Location

namespace Tree

/-! ### Entries and paths -/

/-- The path names the entry at the location, whether or not something is there: it ends
in a name, and the steps before the name lead to where the entry is. -/
def NamesEntry (t : Tree) (path : Path) (loc : Location) : Prop :=
  ∃ r dir name, Route.ofPath path = .ok r ∧ r.slashAtEnd = false ∧
    r.steps.getLast? = some (.into name) ∧ t.walk (t.origin r) r.steps.dropLast = .ok dir ∧
    loc = dir.child name

/-- A file can be put at the location: it is an entry of a directory, its name is not too
long, and it is no directory itself. -/
def Admits (t : Tree) (loc : Location) : Prop :=
  ∃ dir name, loc = dir.child name ∧ t.node? dir = some .directory ∧ tooLong name = false ∧
    t.node? loc ≠ some .directory

/-- The two paths name the same file, which may be there or not. -/
def SameFile (t : Tree) (p q : Path) : Prop := ∃ loc, t.NamesEntry p loc ∧ t.NamesEntry q loc

section

variable {t : Tree} {path : Path} {loc : Location}

/-- A file goes to the entry that the path names, if a file can be put there. -/
theorem target_eq_ok_iff_namesEntry :
    t.target path = .ok loc ↔ t.NamesEntry path loc ∧ t.Admits loc := by
  rw [target_eq_ok_iff]
  constructor
  · rintro ⟨r, dir, name, hroute, hslash, hlast, hwalk, hdir, hname, hfree, rfl⟩
    exact ⟨⟨r, dir, name, hroute, hslash, hlast, hwalk, rfl⟩, dir, name, rfl, hdir, hname, hfree⟩
  · rintro ⟨⟨r, dir, name, hroute, hslash, hlast, hwalk, rfl⟩, dir', name', hloc, hdir, hname,
      hfree⟩
    -- the directory and the name are those of the entry
    obtain ⟨rfl, rfl⟩ := Location.child_inj.1 hloc
    exact ⟨r, dir, name, hroute, hslash, hlast, hwalk, hdir, hname, hfree, rfl⟩

theorem NamesEntry.unique {other : Location} (h : t.NamesEntry path loc)
    (hother : t.NamesEntry path other) : other = loc := by
  obtain ⟨r, dir, name, hroute, -, hlast, hwalk, rfl⟩ := h
  obtain ⟨r', dir', name', hroute', -, hlast', hwalk', rfl⟩ := hother
  obtain rfl : r = r' := Except.ok.inj (hroute.symm.trans hroute')
  obtain rfl : dir = dir' := Except.ok.inj (hwalk.symm.trans hwalk')
  obtain rfl : name = name' := Step.into.inj (Option.some.inj (hlast.symm.trans hlast'))
  rfl

/-- The last step to a file is one to its name, if nothing lies in the file: a step that
stays, or that goes up, ends at a directory. -/
theorem eq_into_of_step_to_file {mid : Location} {s : Step} {content : ByteArray}
    (h : t.step mid s = .ok loc) (hfile : t.node? loc = some (.file content))
    (hleaf : ∀ name, t.node? (loc.child name) = none) :
    ∃ name, s = .into name ∧ loc = mid.child name := by
  obtain ⟨hdir, hend, -⟩ := step_eq_ok_iff.1 h
  cases s with
  | here =>
    obtain rfl : mid = loc := Option.some.inj hend
    rw [hdir] at hfile
    exact absurd hfile (by simp)
  | up =>
    obtain rfl : mid.parent = loc := Option.some.inj hend
    by_cases hroot : mid = .root
    · -- above the root is the root, which is a directory
      subst hroot
      rw [Location.parent_root, hdir] at hfile
      exact absurd hfile (by simp)
    · obtain ⟨name, hname⟩ := Location.exists_eq_child hroot
      rw [hname, hleaf] at hdir
      exact absurd hdir (by simp)
  | into name =>
    refine ⟨name, rfl, ?_⟩
    rw [Step.end?] at hend
    by_cases hlong : tooLong name = true
    · simp [hlong] at hend
    · rw [if_neg hlong] at hend
      exact (Option.some.inj hend).symm

/-- A path that leads to a file in which nothing lies names the entry of the file. -/
theorem NamesFile.namesEntry {content : ByteArray} (h : t.NamesFile path loc content)
    (hleaf : ∀ name, t.node? (loc.child name) = none) : t.NamesEntry path loc := by
  obtain ⟨hresolve, hfile⟩ := h
  unfold Tree.resolve at hresolve
  rcases hroute : Route.ofPath path with fault | r
  · simp [hroute] at hresolve
  rw [hroute] at hresolve
  have hwalk : t.walk (t.origin r) r.stepsToRead = .ok loc := hresolve
  rcases List.eq_nil_or_concat r.stepsToRead with hnil | ⟨front, s, hsteps⟩
  · -- a path without a step leads to the root, which is no file
    rw [eq_root_of_stepsToRead_eq_nil hroute hwalk hnil] at hfile
    exact absurd hfile (by simp [node?])
  · rw [List.concat_eq_append] at hsteps
    rw [hsteps, walk_append] at hwalk
    rcases hfront : t.walk (t.origin r) front with fault | mid
    · simp [hfront] at hwalk
    rw [hfront] at hwalk
    have hstep : t.step mid s = .ok loc := by
      rcases hstep : t.step mid s with fault | next
      · simp [Tree.walk, hstep] at hwalk
      · simpa [Tree.walk, hstep] using hwalk
    obtain ⟨name, rfl, hloc⟩ := eq_into_of_step_to_file hstep hfile hleaf
    -- the last step is one to a name, so the path does not end in a slash
    have hslash : r.slashAtEnd = false := by
      rcases hslash : r.slashAtEnd with - | -
      · rfl
      · rw [Route.stepsToRead, if_pos hslash] at hsteps
        exact absurd (congrArg List.getLast? hsteps) (by simp)
    rw [Route.stepsToRead, if_neg (by simp [hslash])] at hsteps
    refine ⟨r, mid, name, hroute, hslash, ?_, ?_, hloc⟩
    · rw [hsteps, List.getLast?_concat]
    · rw [hsteps, List.dropLast_concat]
      exact hfront

end

/-! ### Two paths to one file -/

section

variable {t : Tree} {p q : Path}

/-- Paths that lead to the same file name the same file. -/
theorem sameFile_of_namesFile {loc : Location} {a b : ByteArray} (hp : t.NamesFile p loc a)
    (hq : t.NamesFile q loc b) (hleaf : ∀ name, t.node? (loc.child name) = none) :
    t.SameFile p q :=
  ⟨loc, hp.namesEntry hleaf, hq.namesEntry hleaf⟩

/-- A file goes to the same place by either path, and if it can be put there by one of
them, then by the other. -/
theorem SameFile.target_eq_ok (h : t.SameFile p q) {loc : Location} (hp : t.target p = .ok loc) :
    t.target q = .ok loc := by
  obtain ⟨entry, hpe, hqe⟩ := h
  obtain ⟨hnames, hadmits⟩ := target_eq_ok_iff_namesEntry.1 hp
  obtain rfl : entry = loc := hnames.unique hpe
  exact target_eq_ok_iff_namesEntry.2 ⟨hqe, hadmits⟩

end

end Tree

end Files

end Docstrings
