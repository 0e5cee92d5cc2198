/-
Docstrings/Proofs/Files/WellFormed.lean

Trees that a file system could hold.

A tree is a list of entries, and nothing in its type keeps one of them from standing below a
file, or twice.  The operations on trees never come to that.  What they keep is that a tree
is *well formed*:

* `distinct` — no location has two entries, and the root, which is there anyway, has none;
* `above` — what is there stands in a directory;
* `workingDirectory` — where relative paths start is a directory.

A new entry is put in a directory, and where no directory is; and what is removed takes all
that is below it along, but never the working directory.  Note where `above` is consumed: a
path that ends in a step up could end at a file only if something lay below the file.  So in
a well-formed tree a path to a file ends in the file's name.

* `WellFormed.node?_child_of_file` — nothing lies below a file.
* `WellFormed.sameFile` — paths that lead to one file name the same file.
* `WellFormed.put`, `WellFormed.keeping` — an entry put, and entries removed.
* `WellFormed.write`, `WellFormed.makeDirectories`, `WellFormed.remove` — the operations.
* `Made.wellFormed` — every tree that they can make.
-/
import Mathlib.Data.List.Induction
import Mathlib.Data.List.Nodup
import Docstrings.Proofs.Files.Entries

namespace Docstrings

namespace Files

namespace Tree

/-- A tree that a file system could hold. -/
structure WellFormed (t : Tree) : Prop where
  distinct : (Location.root :: t.entries.map Prod.fst).Nodup
  above : ∀ loc, (t.node? loc).isSome = true → t.node? loc.parent = some .directory
  workingDirectory : t.node? t.workingDirectory = some .directory

/-! ### What is above, and what is below -/

section

variable {t : Tree} {loc : Location}

/-- Nothing lies below a file. -/
theorem WellFormed.node?_child_of_file (h : t.WellFormed) {content : ByteArray}
    (hfile : t.node? loc = some (.file content)) (name : String) :
    t.node? (loc.child name) = none := by
  rcases hchild : t.node? (loc.child name) with - | node
  · rfl
  · have habove := h.above (loc.child name) (by rw [hchild]; rfl)
    rw [Location.parent_child, hfile] at habove
    exact absurd habove (by simp)

/-- All that is above a directory is a directory. -/
theorem WellFormed.directory_of_holds (h : t.WellFormed) {below : Location}
    (hholds : loc.holds below = true) (hbelow : t.node? below = some .directory) :
    t.node? loc = some .directory := by
  obtain ⟨rest, hrest⟩ := Location.holds_iff.1 hholds
  clear hholds
  -- one name after the other is taken off the end
  induction rest using List.reverseRecOn generalizing below with
  | nil =>
    obtain rfl : loc = below := Location.ext_names (by simpa using hrest)
    exact hbelow
  | append_singleton rest name ih =>
    have hparent : loc.names ++ rest = below.parent.names := by
      show _ = below.names.dropLast
      rw [← hrest, ← List.append_assoc, List.dropLast_concat]
    exact ih (h.above below (by rw [hbelow]; rfl)) hparent

/-- Two paths that lead to one file name the same file. -/
theorem WellFormed.sameFile (h : t.WellFormed) {p q : Path} {a b : ByteArray}
    (hp : t.NamesFile p loc a) (hq : t.NamesFile q loc b) : t.SameFile p q :=
  sameFile_of_namesFile hp hq (h.node?_child_of_file hp.2)

end

/-! ### The fresh tree -/

theorem wellFormed_fresh : fresh.WellFormed where
  distinct := by decide
  above loc hsome := by
    by_cases hroot : loc = .root
    · subst hroot
      rfl
    · have hwork : loc = Location.root.child "work" := by
        by_contra hne
        simp [node?, fresh, hroot, List.lookup_cons, beq_eq_false_iff_ne.2 hne] at hsome
      subst hwork
      rfl
  workingDirectory := by rfl

/-! ### An entry put -/

/-- An entry that is put replaces the one of its location, or comes last. -/
theorem map_fst_putIn (loc : Location) (node : Node) (es : List (Location × Node)) :
    (putIn loc node es).map Prod.fst
      = if loc ∈ es.map Prod.fst then es.map Prod.fst else es.map Prod.fst ++ [loc] := by
  induction es with
  | nil => rfl
  | cons e es ih =>
    by_cases he : e.1 = loc
    · simp [putIn, he]
    · rw [putIn, if_neg he, List.map_cons, ih, List.map_cons]
      by_cases hrest : loc ∈ es.map Prod.fst
      · rw [if_pos hrest, if_pos (List.mem_cons_of_mem _ hrest)]
      · have hnew : loc ∉ e.1 :: es.map Prod.fst :=
          List.not_mem_cons_of_ne_of_not_mem (Ne.symm he) hrest
        rw [if_neg hrest, if_neg hnew, List.cons_append]

section

variable {t : Tree} {loc : Location}

theorem WellFormed.distinct_put (h : t.WellFormed) (hroot : loc ≠ .root) (node : Node) :
    (Location.root :: (t.put loc node).entries.map Prod.fst).Nodup := by
  show (Location.root :: (putIn loc node t.entries).map Prod.fst).Nodup
  rw [map_fst_putIn]
  by_cases hthere : loc ∈ t.entries.map Prod.fst
  · rw [if_pos hthere]
    exact h.distinct
  · have hnew : loc ∉ Location.root :: t.entries.map Prod.fst :=
      List.not_mem_cons_of_ne_of_not_mem hroot hthere
    rw [if_neg hthere, ← List.cons_append]
    exact List.nodup_append.2 ⟨h.distinct, List.nodup_singleton loc,
      fun a ha b hb hab => hnew (by rwa [← List.mem_singleton.1 hb, ← hab])⟩

/-- A tree stays well formed when an entry is put in a directory, and where no directory
is. -/
theorem WellFormed.put (h : t.WellFormed) (hparent : t.node? loc.parent = some .directory)
    (hfree : t.node? loc ≠ some .directory) (node : Node) : (t.put loc node).WellFormed := by
  have hroot : loc ≠ .root := by
    rintro rfl
    exact hfree (if_pos rfl)
  -- a directory is not the place of the entry, so it is still there
  have hkept {dir : Location} (hdir : t.node? dir = some .directory) :
      (t.put loc node).node? dir = some .directory := by
    have hne : dir ≠ loc := by
      rintro rfl
      exact hfree hdir
    rw [node?_put_of_ne t node hne]
    exact hdir
  refine ⟨h.distinct_put hroot node, fun other hsome => hkept ?_, hkept h.workingDirectory⟩
  by_cases hother : other = loc
  · rw [hother]
    exact hparent
  · rw [node?_put_of_ne t node hother] at hsome
    exact h.above other hsome

/-- A tree stays well formed when a file is written. -/
theorem WellFormed.write (h : t.WellFormed) (path : Path) (content : ByteArray) :
    (t.write path content).2.WellFormed := by
  unfold Tree.write
  rcases htarget : t.target path with fault | loc
  · exact h
  · obtain ⟨-, dir, name, rfl, hdir, -, hfree⟩ := target_eq_ok_iff_namesEntry.1 htarget
    exact h.put (by rwa [Location.parent_child]) hfree _

/-! ### Directories made -/

theorem WellFormed.makeAlong (h : t.WellFormed) (hdir : t.node? loc = some .directory)
    (steps : List Step) : (t.makeAlong loc steps).2.WellFormed := by
  induction steps generalizing t loc with
  | nil => exact h
  | cons s steps ih =>
    cases s with
    | here => exact ih h hdir
    | up => exact ih h (h.above loc (by rw [hdir]; rfl))
    | into name =>
      rw [Tree.makeAlong]
      rcases hchild : t.node? (loc.child name) with - | (content | -)
      · by_cases hlong : tooLong name = true
        · simp only [hlong]
          exact h
        · -- a new directory in the one that has been come to
          simp only [hlong]
          refine ih (h.put ?_ ?_ _) (node?_put_self t _ (Location.child_ne_root loc name))
          · rwa [Location.parent_child]
          · simp [hchild]
      · exact h
      · exact ih h hchild

theorem WellFormed.directory_origin (h : t.WellFormed) (r : Route) :
    t.node? (t.origin r) = some .directory := by
  unfold Tree.origin
  rcases r.absolute with - | -
  · exact h.workingDirectory
  · rfl

/-- A tree stays well formed when directories are made, also if not all of them can be. -/
theorem WellFormed.makeDirectories (h : t.WellFormed) (path : Path) :
    (t.makeDirectories path).2.WellFormed := by
  have hmade (r : Route) (steps : List Step) : (t.makeAlong (t.origin r) steps).2.WellFormed :=
    h.makeAlong (h.directory_origin r) steps
  unfold Tree.makeDirectories
  split
  · exact h
  · split
    · exact h
    · rename_i r _
      split
      · -- what is made stays made, whether or not the path can then be followed
        have hfront := hmade r (r.steps.filter (· ≠ .here)).dropLast
        rcases hresult : t.makeAlong (t.origin r) (r.steps.filter (· ≠ .here)).dropLast
          with ⟨fault | ⟨⟩, after⟩
        · simpa only [hresult] using hfront
        · simpa only [hresult] using hfront
      · exact hmade r r.steps

end

/-! ### Entries removed -/

/-- The tree with the entries at some locations only. -/
def keeping (t : Tree) (keeps : Location → Bool) : Tree :=
  { t with entries := t.entries.filter fun e => keeps e.1 }

theorem lookup_filter_fst (keeps : Location → Bool) (loc : Location)
    (es : List (Location × Node)) :
    (es.filter fun e => keeps e.1).lookup loc = if keeps loc then es.lookup loc else none := by
  induction es with
  | nil => simp
  | cons e es ih =>
    obtain ⟨l, node⟩ := e
    by_cases hl : loc = l
    · subst hl
      by_cases hkeeps : keeps loc = true
      · simp [hkeeps]
      · simp [hkeeps, ih]
    · by_cases hkeeps : keeps l = true
      · simp [hkeeps, List.lookup_cons, beq_eq_false_iff_ne.2 hl, ih]
      · simp [hkeeps, List.lookup_cons, beq_eq_false_iff_ne.2 hl, ih]

theorem node?_keeping (t : Tree) (keeps : Location → Bool) {loc : Location} (h : loc ≠ .root) :
    (t.keeping keeps).node? loc = if keeps loc then t.node? loc else none := by
  simp only [node?, keeping, h, if_false, lookup_filter_fst]

section

variable {t : Tree} {loc : Location}

/-- A tree stays well formed when entries are removed, if all that is above what is kept is
kept as well, and the working directory is. -/
theorem WellFormed.keeping (h : t.WellFormed) {keeps : Location → Bool}
    (habove : ∀ l, keeps l = true → keeps l.parent = true)
    (hwork : keeps t.workingDirectory = true) : (t.keeping keeps).WellFormed := by
  have hkept (l : Location) (hl : keeps l = true) : (t.keeping keeps).node? l = t.node? l := by
    by_cases hroot : l = .root
    · subst hroot
      rfl
    · rw [node?_keeping t keeps hroot, if_pos hl]
  refine ⟨?_, fun l hsome => ?_, (hkept _ hwork).trans h.workingDirectory⟩
  · exact h.distinct.sublist ((List.filter_sublist.map Prod.fst).cons_cons Location.root)
  · by_cases hroot : l = .root
    · subst hroot
      rfl
    · rw [node?_keeping t keeps hroot] at hsome
      by_cases hl : keeps l = true
      · rw [if_pos hl] at hsome
        rw [hkept l.parent (habove l hl)]
        exact h.above l hsome
      · rw [if_neg hl] at hsome
        exact absurd hsome (by simp)

/-- A tree stays well formed when an entry is removed with all below it, if the working
directory is not there. -/
theorem WellFormed.removeAt (h : t.WellFormed) (hwork : loc.holds t.workingDirectory = false) :
    (t.removeAt loc).WellFormed := by
  show (t.keeping fun l => !loc.holds l).WellFormed
  refine h.keeping (fun l hl => ?_) (by rw [hwork]; rfl)
  rw [Bool.not_eq_true', Bool.eq_false_iff] at hl ⊢
  exact fun hparent => hl (Location.holds_trans hparent l.parent_holds)

/-- A tree stays well formed when all is removed that is below a directory, but for the
working directory and what it is in. -/
theorem WellFormed.removeBelow (h : t.WellFormed) (loc : Location) :
    (t.removeBelow loc).WellFormed := by
  show (t.keeping fun l =>
    !(loc.holds l && loc ≠ l) || l.holds t.workingDirectory).WellFormed
  refine h.keeping (fun l hl => ?_) (by simp [Location.holds_self])
  simp only [Bool.or_eq_true, Bool.not_eq_true', Bool.and_eq_false_iff, decide_eq_false_iff_not,
    ne_eq, not_not] at hl ⊢
  rcases hl with (houtside | rfl) | hwork
  · -- what is above something outside of the directory is outside of it
    refine .inl (.inl (Bool.eq_false_iff.2 fun hparent => ?_))
    rw [Location.holds_trans hparent l.parent_holds] at houtside
    exact absurd houtside (by simp)
  · rcases hparent : loc.holds loc.parent with - | -
    · exact .inl (.inl rfl)
    · -- the root alone is above itself
      obtain rfl := Location.eq_root_of_holds_parent hparent
      exact .inl (.inr rfl)
  · exact .inr (Location.holds_trans l.parent_holds hwork)

theorem WellFormed.removeEmptied (h : t.WellFormed) (loc : Location) (r : Route) :
    (t.removeEmptied loc r).2.WellFormed := by
  unfold Tree.removeEmptied
  split
  · exact h
  · exact h
  · by_cases hwork : loc.holds t.workingDirectory = true
    · rw [if_pos hwork]
      exact h
    · rw [if_neg hwork]
      exact h.removeAt (Bool.eq_false_iff.2 hwork)
  · exact h
  · exact h

/-- A tree stays well formed when the file, or the directory, that a path names is
removed. -/
theorem WellFormed.remove (h : t.WellFormed) (path : Path) : (t.remove path).2.WellFormed := by
  unfold Tree.remove
  split
  · exact h
  · split
    · exact h
    · rename_i r _ _ loc _
      split
      · exact (h.removeBelow loc).removeEmptied loc r
      · -- what holds the working directory is a directory
        rename_i hne
        exact h.removeAt (Bool.eq_false_iff.2 fun hholds =>
          hne (h.directory_of_holds hholds h.workingDirectory))

end

/-! ### All trees that can be made -/

/-- The trees that come from the fresh one by the operations, whether these succeed or
not. -/
inductive Made : Tree → Prop
  | fresh : Made .fresh
  | write {t : Tree} (h : Made t) (path : Path) (content : ByteArray) :
    Made (t.write path content).2
  | makeDirectories {t : Tree} (h : Made t) (path : Path) : Made (t.makeDirectories path).2
  | remove {t : Tree} (h : Made t) (path : Path) : Made (t.remove path).2

/-- **The trees that can be made** are well formed. -/
theorem Made.wellFormed {t : Tree} (h : Made t) : t.WellFormed := by
  induction h with
  | fresh => exact wellFormed_fresh
  | write _ path content ih => exact ih.write path content
  | makeDirectories _ path ih => exact ih.makeDirectories path
  | remove _ path ih => exact ih.remove path

end Tree

end Files

end Docstrings
