/-
Docstrings/Proofs/Files/Overwriting.lean

What overwriting a file does to a tree.

A file that is put where a file was changes what is read there, and nothing else: files
and directories stand at the same places as before, so the tree has kept its *shape*.
The shape is all that the following of a path asks about.  So every path leads where it
led, or fails for the same reason, and a file that is written to it goes to the same
place:

    SameShape t t'  →  t'.resolve path = t.resolve path  ∧  t'.target path = t.target path

This says more than that the tree grows, where a path that led nowhere may lead somewhere
afterwards.

* `sameShape_put` — overwriting keeps the shape.
* `SameShape.resolve_eq`, `SameShape.target_eq` — and the shape decides.
* `read_put_of_ne` — what is read of the other files.
* `put_comm` — two files may be overwritten in either order.
-/
import Docstrings.Proofs.Files.Resolution

namespace Docstrings

namespace Files

namespace Tree

/-! ### Trees of the same shape -/

/-- The trees have files and directories at the same places. -/
structure SameShape (t t' : Tree) : Prop where
  workingDirectory : t'.workingDirectory = t.workingDirectory
  directory : ∀ loc, t'.node? loc = some .directory ↔ t.node? loc = some .directory
  absent : ∀ loc, t'.node? loc = none ↔ t.node? loc = none

/-- A file that is put where a file was leaves the shape of the tree. -/
theorem sameShape_put {t : Tree} {loc : Location} {held : ByteArray} (content : ByteArray)
    (h : t.node? loc = some (.file held)) : SameShape t (t.put loc (.file content)) := by
  have hdir : t.node? loc ≠ some .directory := by simp [h]
  have hgrows := grows_put content hdir
  refine ⟨rfl, hgrows.directory, fun other => ?_⟩
  by_cases hother : other = loc
  · subst hother
    obtain ⟨content', hcontent'⟩ := hgrows.file h
    simp [h, hcontent']
  · rw [node?_put_of_ne t (.file content) hother]

namespace SameShape

variable {t t' : Tree}

theorem origin_eq (h : SameShape t t') (r : Route) : t'.origin r = t.origin r := by
  unfold Tree.origin
  rw [h.workingDirectory]

theorem enter_eq (h : SameShape t t') (loc : Location) : t'.enter loc = t.enter loc := by
  unfold enter
  simp only [Option.isNone_iff_eq_none, h.absent]

theorem step_eq (h : SameShape t t') (loc : Location) (s : Step) :
    t'.step loc s = t.step loc s := by
  rcases hnode : t.node? loc with - | (held | -)
  · -- nothing is there in either tree
    simp only [Tree.step, hnode, (h.absent loc).2 hnode]
  · -- a file is there in both
    rcases hnode' : t'.node? loc with - | (held' | -)
    · rw [(h.absent loc).1 hnode'] at hnode
      exact absurd hnode (by simp)
    · simp only [Tree.step, hnode, hnode']
    · rw [(h.directory loc).1 hnode'] at hnode
      exact absurd hnode (by simp)
  · rw [step_of_directory hnode, step_of_directory ((h.directory loc).2 hnode)]
    simp only [h.enter_eq]

theorem walk_eq (h : SameShape t t') (loc : Location) (steps : List Step) :
    t'.walk loc steps = t.walk loc steps := by
  induction steps generalizing loc with
  | nil => rfl
  | cons s rest ih =>
    rw [Tree.walk, Tree.walk, h.step_eq]
    rcases t.step loc s with fault | next
    · rfl
    · exact ih next

/-- A path leads where it led, or nowhere for the same reason. -/
theorem resolve_eq (h : SameShape t t') (path : Path) : t'.resolve path = t.resolve path := by
  unfold Tree.resolve
  rcases Route.ofPath path with fault | r
  · rfl
  · show t'.walk (t'.origin r) r.stepsToRead = t.walk (t.origin r) r.stepsToRead
    rw [h.origin_eq, h.walk_eq]

theorem targetIn_eq (h : SameShape t t') (dir : Location) (last : Step) (slashAtEnd : Bool) :
    t'.targetIn dir last slashAtEnd = t.targetIn dir last slashAtEnd := by
  unfold targetIn
  simp only [h.step_eq, h.directory]

/-- A file that is written to a path goes to the same place, or nowhere for the same
reason. -/
theorem target_eq (h : SameShape t t') (path : Path) : t'.target path = t.target path := by
  unfold Tree.target
  simp only [h.origin_eq, h.walk_eq, h.targetIn_eq]

end SameShape

/-! ### Overwriting one file -/

/-- A path that leads elsewhere, or nowhere, is read as before. -/
theorem read_put_of_ne {t : Tree} {loc : Location} {held : ByteArray} (content : ByteArray)
    (h : t.node? loc = some (.file held)) {path : Path} (hne : t.resolve path ≠ .ok loc) :
    (t.put loc (.file content)).read path = t.read path := by
  unfold read
  rw [(sameShape_put content h).resolve_eq]
  rcases hresolve : t.resolve path with fault | other
  · rfl
  · have hother : other ≠ loc := by
      rintro rfl
      exact hne hresolve
    simp only [node?_put_of_ne t (.file content) hother]

/-! ### Overwriting two -/

/-- An entry that is there is replaced in its place, before or after what happens to
another one. -/
theorem putIn_comm {a b : Location} (hab : a ≠ b) (x y : Node) {es : List (Location × Node)}
    (ha : (es.lookup a).isSome = true) : putIn b y (putIn a x es) = putIn a x (putIn b y es) := by
  induction es with
  | nil => simp at ha
  | cons e es ih =>
    obtain ⟨l, v⟩ := e
    by_cases hla : l = a
    · simp [putIn, hla, hab]
    · by_cases hlb : l = b
      · simp [putIn, hlb, Ne.symm hab]
      · have hrest : (es.lookup a).isSome = true := by
          rwa [List.lookup_cons, beq_eq_false_iff_ne.2 (Ne.symm hla)] at ha
        simp [putIn, hla, hlb, ih hrest]

/-- A file that is there may be overwritten before or after what is put elsewhere. -/
theorem put_comm {t : Tree} {a b : Location} {held : ByteArray} (hab : a ≠ b) (x y : Node)
    (ha : t.node? a = some (.file held)) : (t.put a x).put b y = (t.put b y).put a x := by
  have hroot : a ≠ .root := by
    rintro rfl
    exact absurd ha (by simp [node?])
  have hsome : (t.entries.lookup a).isSome = true := by
    rw [node?, if_neg hroot] at ha
    simp [ha]
  simp only [put, putIn_comm hab x y hsome]

end Tree

end Files

end Docstrings
