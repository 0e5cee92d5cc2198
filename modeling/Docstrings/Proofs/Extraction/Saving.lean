/-
Docstrings/Proofs/Extraction/Saving.lean

Saving reports, one after the other, in one file.

Whether a report can be saved is a question about the path and the tree; what is in the
report has no part in it.  If it can, the file holds the report and nothing else
afterwards, whatever was there before and however long it was.  So a second report that
is saved in the same file, by the same path or by another one, leaves no trace of the
first:

    saving last q (saving first p t).2  =  (ok, (saving last p t).2)

The file need not be there at first.  Then the first report makes a new entry, and the
second one replaces what it holds.

* `saving_of_no_target`, `saving_of_target` — the two ways to end, as equations.
* `saving_again` — the second report.
* `saving_saving` — the whole of it, with the frame of a single save.
-/
import Docstrings.Extraction
import Docstrings.Proofs.Files.WellFormed

namespace Docstrings

open Files Text

/-- What saving the report of some blocks on a tree comes to, and the tree that it leaves;
its events are left out. -/
def saving (blocks : List Block) (path : Path) (t : Tree) : Except WriteError Unit × Tree :=
  let done := (writeReport Tree.access blocks path).run t
  (done.1.result, done.2)

section

variable {t : Tree} {p q : Path}

/-! ### The two ways to end -/

/-- A report is saved by one write. -/
theorem saving_eq_write (blocks : List Block) (p : Path) (t : Tree) :
    saving blocks p t
      = let written := t.write p (encode (Markdown.render blocks))
        ((savedAs blocks p written.1).result, written.2) := rfl

theorem saving_of_no_target {fault : Fault} (h : t.target p = .error fault)
    (blocks : List Block) : saving blocks p t = (.error ⟨p, fault⟩, t) := by
  rw [saving_eq_write, Tree.write, h]
  rfl

theorem saving_of_target {loc : Location} (h : t.target p = .ok loc) (blocks : List Block) :
    saving blocks p t = (.ok (), t.put loc (.file (encode (Markdown.render blocks)))) := by
  rw [saving_eq_write, Tree.write, h]
  rfl

/-- A report is saved exactly if there is a place for it, whatever it says. -/
theorem saving_eq_ok_iff {blocks : List Block} :
    (saving blocks p t).1 = .ok () ↔ ∃ loc, t.target p = .ok loc := by
  rcases h : t.target p with fault | loc
  · simp [saving_of_no_target h]
  · simp [saving_of_target h]

/-- Whether a report is saved, and why not, does not depend on it. -/
theorem saving_congr (first last : List Block) (p : Path) (t : Tree) :
    (saving first p t).1 = (saving last p t).1 := by
  rcases h : t.target p with fault | loc
  · rw [saving_of_no_target h, saving_of_no_target h]
  · rw [saving_of_target h, saving_of_target h]

/-- Whatever fails leaves the tree as it was. -/
theorem tree_of_saving_error {blocks : List Block} {e : WriteError}
    (h : (saving blocks p t).1 = .error e) : (saving blocks p t).2 = t := by
  rcases htarget : t.target p with fault | loc
  · rw [saving_of_no_target htarget]
  · rw [saving_of_target htarget] at h
    exact absurd h nofun

/-- A report is saved as a file, so the tree stays well formed. -/
theorem Files.Tree.WellFormed.saving (h : t.WellFormed) (blocks : List Block) (p : Path) :
    (saving blocks p t).2.WellFormed := by
  rw [saving_eq_write]
  exact h.write p _

/-! ### The second report -/

/-- After a report was saved, another one is saved in the same file, and the tree is as if
the first one had never been. -/
theorem saving_again {loc : Location} (hp : t.target p = .ok loc) (h : t.SameFile p q)
    (first last : List Block) :
    saving last q (saving first p t).2 = saving last p t := by
  -- the tree has grown, so a file written to `q` goes where it went before
  have hgrows := Tree.grows_put_of_target hp (encode (Markdown.render first))
  have hq := hgrows.target (h.target_eq_ok hp)
  rw [saving_of_target hp, saving_of_target hp]
  show saving last q (t.put loc (.file (encode (Markdown.render first)))) = _
  rw [saving_of_target hq, Tree.put_put]

/-- What was saved by one path is read by the other. -/
theorem read_saving {loc : Location} (hp : t.target p = .ok loc) (h : t.SameFile p q)
    (blocks : List Block) :
    (saving blocks p t).2.read q = .ok (encode (Markdown.render blocks)) := by
  rw [saving_of_target hp]
  exact Tree.read_eq_ok_iff.2 ⟨loc, Tree.namesFile_put_self (h.target_eq_ok hp) _⟩

end

/-! ### The whole of it -/

/-- **The last report wins.**  Whether a report can be saved does not depend on it.  A
report that is saved where another one has just been saved, by the same path or by
another one to the same file, leaves the tree that it would have left alone, with itself
in the file.  Two paths that lead to one file name the same file, if nothing lies below it;
in a well-formed tree that is always so, and the tree is well formed afterwards.  Paths to
other files lead where they led, to what they led to, and no directory comes or goes; a
save that fails leaves everything as it was. -/
theorem saving_saving (t : Tree) (p q : Path) (first last : List Block) :
    (saving first p t).1 = (saving last p t).1 ∧
    (t.SameFile p q → (saving first p t).1 = .ok () →
      saving last q (saving first p t).2 = (.ok (), (saving last p t).2) ∧
      (saving last p t).2.read p = .ok (encode (Markdown.render last)) ∧
      (saving last p t).2.read q = .ok (encode (Markdown.render last))) ∧
    (∀ loc a b, t.NamesFile p loc a → t.NamesFile q loc b →
      (∀ name, t.node? (loc.child name) = none) → t.SameFile p q) ∧
    (t.WellFormed → (saving first p t).2.WellFormed ∧
      ∀ loc a b, t.NamesFile p loc a → t.NamesFile q loc b → t.SameFile p q) ∧
    ((saving first p t).1 = .ok () → ∃ loc, t.NamesEntry p loc ∧
      (∀ other elsewhere held, elsewhere ≠ loc →
        ((saving first p t).2.NamesFile other elsewhere held
          ↔ t.NamesFile other elsewhere held)) ∧
      (∀ elsewhere, elsewhere ≠ loc →
        (saving first p t).2.node? elsewhere = t.node? elsewhere) ∧
      ∀ dir, (saving first p t).2.node? dir = some .directory ↔
        t.node? dir = some .directory) ∧
    ∀ e, (saving first p t).1 = .error e → (saving first p t).2 = t := by
  refine ⟨saving_congr first last p t, fun hsame hok => ?_,
    fun loc a b => Tree.sameFile_of_namesFile,
    fun h => ⟨h.saving first p, fun loc a b => h.sameFile⟩, fun hok => ?_,
    fun e => tree_of_saving_error⟩
  · obtain ⟨loc, htarget⟩ := saving_eq_ok_iff.1 hok
    have hself : t.SameFile p p := by
      obtain ⟨entry, hentry, -⟩ := hsame
      exact ⟨entry, hentry, hentry⟩
    refine ⟨?_, read_saving htarget hself last, read_saving htarget hsame last⟩
    rw [saving_again htarget hsame, saving_of_target htarget]
  · obtain ⟨loc, htarget⟩ := saving_eq_ok_iff.1 hok
    have hgrows := Tree.grows_put_of_target htarget (encode (Markdown.render first))
    rw [saving_of_target htarget]
    refine ⟨loc, (Tree.target_eq_ok_iff_namesEntry.1 htarget).1, ?_, ?_, hgrows.directory⟩
    · intro other elsewhere held hne
      exact Tree.namesFile_put_iff_of_ne hne htarget _
    · intro elsewhere hne
      exact Tree.node?_put_of_ne t _ hne

/-- A file that is not there at first, by two of its paths, and a last report that is
shorter than the first one. -/
theorem saving_saving_new :
    let work := Location.root.child "work"
    let t := Tree.fresh.put (work.child "sub") .directory
    let block : Block := ⟨"'''\nx\n'''", 1, 3⟩
    t.read "./o.md" = .error .missing ∧ t.SameFile "sub/../o.md" "./o.md" ∧ t.WellFormed ∧
    (saving [block] "sub/../o.md" t).1 = .ok () ∧
    saving [] "./o.md" (saving [block] "sub/../o.md" t).2
      = (.ok (), (saving [] "sub/../o.md" t).2) ∧
    (saving [block] "sub/../o.md" t).2.WellFormed := by
  intro work t block
  have hsame : t.SameFile "sub/../o.md" "./o.md" :=
    ⟨work.child "o.md", ⟨_, work, "o.md", rfl, by decide, by decide, by rfl, rfl⟩,
      _, work, "o.md", rfl, by decide, by decide, by rfl, rfl⟩
  have hwell : t.WellFormed := Tree.wellFormed_fresh.put (by rfl) (by decide) .directory
  have hok : (saving [block] "sub/../o.md" t).1 = .ok () := by rfl
  obtain ⟨-, hlast, -, hkeeps, -⟩ :=
    saving_saving t "sub/../o.md" "./o.md" [block] []
  exact ⟨by rfl, hsame, hwell, hok, (hlast hsame hok).1, (hkeeps hwell).1⟩

end Docstrings
