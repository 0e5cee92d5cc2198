/-
Docstrings/Proofs/Extraction/Independence.lean

Two extractions that do not get in each other's way.

An extraction hangs on two things of a tree: what is read at its input path, and where a
file goes that is written to its output path.  Trees that agree on these are *alike* to
it.  It comes to the same on both, tells the same, and makes the same change:

    Alike c t t'  →  either nothing changes, or
                     (outcome c t).2  = t.put out content   and
                     (outcome c t').2 = t'.put out content

Let two extractions each write over a file that the other one does not read.  Then the
tree that either of them leaves is alike, to the other, to the tree before; and files
that are there may be overwritten in either order.  Each of the two may read the file
that it writes itself.

* `extract_congr` — an extraction hangs on nothing else.
* `Alike.tree_cases` — it makes the same change to trees that are alike.
* `alike_outcome` — what an extraction leaves is alike to one that it does not disturb.
* `outcome_comm` — the two extractions, in either order.
-/
import Docstrings.Proofs.Extraction.Events
import Docstrings.Proofs.Files.Overwriting

namespace Docstrings

open Files Text
open Log (Event)

/-! ### Trees that are alike to an extraction -/

/-- The trees are alike to an extraction: its input reads the same, and its report goes to
the same place. -/
structure Alike (c : Config) (t t' : Tree) : Prop where
  read_eq : t'.read c.filePath = t.read c.filePath
  target_eq : t'.target c.outputFile = t.target c.outputFile

section

variable {c : Config} {t t' : Tree}

theorem Alike.refl (c : Config) (t : Tree) : Alike c t t := ⟨rfl, rfl⟩

/-- An extraction comes to the same and tells the same on trees that are alike. -/
theorem extract_congr (h : Alike c t t') :
    ((extract Tree.access c).run t').1 = ((extract Tree.access c).run t).1 := by
  rcases hread : t.read c.filePath with fault | bytes
  · rw [extract_of_isFile_false (Tree.isFile_of_read_error hread),
      extract_of_isFile_false (Tree.isFile_of_read_error (h.read_eq.trans hread))]
  have hread' : t'.read c.filePath = .ok bytes := h.read_eq.trans hread
  rcases htext : decode? bytes with - | content
  · rw [extract_of_decode?_none hread htext, extract_of_decode?_none hread' htext]
  · -- the text is the same, and so is the place for its report, if there is one
    rw [extract_of_decode?_some hread htext, extract_of_decode?_some hread' htext]
    simp only [Tree.write, h.target_eq]
    rcases t.target c.outputFile with fault | out
    · rfl
    · rfl

theorem Alike.result_eq (h : Alike c t t') : (outcome c t').1 = (outcome c t).1 :=
  congrArg Traced.result (extract_congr h)

theorem Alike.eventsOf_eq (h : Alike c t t') : eventsOf c t' = eventsOf c t :=
  congrArg Traced.events (extract_congr h)

/-- An extraction makes the same change to trees that are alike, or changes neither. -/
theorem Alike.tree_cases (h : Alike c t t') :
    ((outcome c t).2 = t ∧ (outcome c t').2 = t') ∨
    ∃ out content, t.target c.outputFile = .ok out ∧
      (outcome c t).2 = t.put out (.file content) ∧
      (outcome c t').2 = t'.put out (.file content) := by
  rcases outcome_failed_or_saved c t with ⟨e, he, -⟩ | ⟨loc, s, out, hnames, hout, hsaved⟩
  · have hfailed : (outcome c t').1 = .error e := by rw [h.result_eq, he]
    exact .inl ⟨by rw [he], tree_of_outcome_error hfailed⟩
  · have hread : t.read c.filePath = .ok (encode s) := Tree.read_eq_ok_iff.2 ⟨loc, hnames⟩
    obtain ⟨loc', hnames'⟩ := Tree.read_eq_ok_iff.1 (h.read_eq.trans hread)
    refine .inr ⟨out, _, hout, by rw [hsaved], ?_⟩
    rw [outcome_of_target hnames' (h.target_eq.trans hout)]

end

/-! ### Extractions that do not disturb each other -/

section

variable {c c' : Config} {t : Tree} {out : Location} {held : ByteArray}

/-- Overwriting a file that an extraction does not read leaves a tree that is alike to
it. -/
theorem alike_put (content : ByteArray) (h : t.node? out = some (.file held))
    (hinput : t.resolve c.filePath ≠ .ok out) : Alike c t (t.put out (.file content)) where
  read_eq := Tree.read_put_of_ne content h hinput
  target_eq := (Tree.sameShape_put content h).target_eq c.outputFile

/-- An extraction that writes over a file leaves a tree that is alike to one that does not
read this file. -/
theorem alike_outcome (h : t.NamesFile c.outputFile out held)
    (hinput : t.resolve c'.filePath ≠ .ok out) : Alike c' t (outcome c t).2 := by
  rcases outcome_failed_or_saved c t with ⟨e, he, -⟩ | ⟨loc, s, target, -, htarget, hsaved⟩
  · rw [he]
    exact .refl c' t
  · obtain rfl : out = target := Tree.eq_of_target_of_resolve htarget h.1
    rw [hsaved]
    exact alike_put _ h.2 hinput

end

/-! ### Either order -/

section

variable {c₁ c₂ : Config} {t : Tree} {out₁ out₂ : Location} {held₁ held₂ : ByteArray}

/-- The changes that two extractions make to two files may be made in either order. -/
theorem tree_outcome_comm (h₁ : t.NamesFile c₁.outputFile out₁ held₁)
    (h₂ : t.NamesFile c₂.outputFile out₂ held₂) (hne : out₁ ≠ out₂)
    (halike₁ : Alike c₁ t (outcome c₂ t).2) (halike₂ : Alike c₂ t (outcome c₁ t).2) :
    (outcome c₂ (outcome c₁ t).2).2 = (outcome c₁ (outcome c₂ t).2).2 := by
  rcases halike₁.tree_cases with ⟨hkeep₁, hkeep₁'⟩ | ⟨to₁, a, hto₁, hput₁, hput₁'⟩
  · -- the first one changes nothing, before or after the second
    rw [hkeep₁, hkeep₁']
  rcases halike₂.tree_cases with ⟨hkeep₂, hkeep₂'⟩ | ⟨to₂, b, hto₂, hput₂, hput₂'⟩
  · rw [hkeep₂, hkeep₂']
  · obtain rfl : out₁ = to₁ := Tree.eq_of_target_of_resolve hto₁ h₁.1
    obtain rfl : out₂ = to₂ := Tree.eq_of_target_of_resolve hto₂ h₂.1
    rw [hput₁', hput₂', hput₁, hput₂]
    exact Tree.put_comm hne _ _ h₁.2

/-- **Independent extractions commute.**  Let two extractions each write over a file that
is there, not the same one, and let neither read the file that the other one writes.
Then both orders leave the same tree, and each of the two comes to the same and tells the
same in either order. -/
theorem outcome_comm (h₁ : t.NamesFile c₁.outputFile out₁ held₁)
    (h₂ : t.NamesFile c₂.outputFile out₂ held₂) (hne : out₁ ≠ out₂)
    (hinput₁ : t.resolve c₁.filePath ≠ .ok out₂) (hinput₂ : t.resolve c₂.filePath ≠ .ok out₁) :
    (outcome c₂ (outcome c₁ t).2).2 = (outcome c₁ (outcome c₂ t).2).2 ∧
    (outcome c₁ (outcome c₂ t).2).1 = (outcome c₁ t).1 ∧
    (outcome c₂ (outcome c₁ t).2).1 = (outcome c₂ t).1 ∧
    eventsOf c₁ (outcome c₂ t).2 = eventsOf c₁ t ∧
    eventsOf c₂ (outcome c₁ t).2 = eventsOf c₂ t := by
  have halike₁ : Alike c₁ t (outcome c₂ t).2 := alike_outcome h₂ hinput₁
  have halike₂ : Alike c₂ t (outcome c₁ t).2 := alike_outcome h₁ hinput₂
  exact ⟨tree_outcome_comm h₁ h₂ hne halike₁ halike₂, halike₁.result_eq, halike₂.result_eq,
    halike₁.eventsOf_eq, halike₂.eventsOf_eq⟩

/-- Two extractions of which the first one writes over its own input, by another path to
it, and the second one over a third file. -/
theorem outcome_comm_own_input :
    let work := Location.root.child "work"
    let t := ((Tree.fresh.put (work.child "a.py") (.file (encode "'''\nx\n'''\n"))).put
      (work.child "b.py") (.file (encode "\"\"\"\ny\n'''"))).put
        (work.child "o.md") (.file (encode "before"))
    let c₁ : Config := ⟨"a.py", "/work/./a.py", false⟩
    let c₂ : Config := ⟨"b.py", "o.md", true⟩
    t.NamesFile "/work/./a.py" (work.child "a.py") (encode "'''\nx\n'''\n") ∧
    t.NamesFile "o.md" (work.child "o.md") (encode "before") ∧
    work.child "a.py" ≠ work.child "o.md" ∧
    t.resolve "a.py" ≠ .ok (work.child "o.md") ∧ t.resolve "b.py" ≠ .ok (work.child "a.py") ∧
    (outcome c₂ (outcome c₁ t).2).2 = (outcome c₁ (outcome c₂ t).2).2 ∧
    (outcome c₁ (outcome c₂ t).2).1 = .ok ⟨1, "/work/./a.py"⟩ := by
  intro work t c₁ c₂
  have h₁ : t.NamesFile "/work/./a.py" (work.child "a.py") (encode "'''\nx\n'''\n") :=
    ⟨by rfl, by rfl⟩
  have h₂ : t.NamesFile "o.md" (work.child "o.md") (encode "before") := ⟨by rfl, by rfl⟩
  have hread₁ : t.NamesFile "a.py" (work.child "a.py") (encode "'''\nx\n'''\n") :=
    ⟨by rfl, by rfl⟩
  have hread₂ : t.resolve "b.py" = .ok (work.child "b.py") := by rfl
  have hne : work.child "a.py" ≠ work.child "o.md" := by decide
  have hinput₁ : t.resolve "a.py" ≠ .ok (work.child "o.md") := by
    rw [hread₁.1]
    exact fun h => hne (Except.ok.inj h)
  have hinput₂ : t.resolve "b.py" ≠ .ok (work.child "a.py") := by
    rw [hread₂]
    exact fun h => absurd (Except.ok.inj h) (by decide)
  obtain ⟨htree, hresult, -⟩ :=
    @outcome_comm c₁ c₂ t _ _ _ _ h₁ h₂ hne hinput₁ hinput₂
  -- the first extraction finds its block, whether it goes first or last
  have htarget : t.target "/work/./a.py" = .ok (work.child "a.py") := by rfl
  have hresult₁ : (outcome c₁ t).1 = .ok ⟨1, "/work/./a.py"⟩ := by
    rw [@outcome_of_target c₁ t _ _ _ hread₁ htarget]
    rfl
  exact ⟨h₁, h₂, hne, hinput₁, hinput₂, htree, hresult.trans hresult₁⟩

end

end Docstrings
