/-
Docstrings/Proofs/Extraction/Provenance.lean

Where the files come from that a series of extractions leaves.

The extractions of a series may read what earlier ones have written, and may write
over what later ones read.  Still, whatever they write is the report of a text that
was there before the first of them:

    an extraction reads  s          a text of the first tree, or
                         report s₀  with `s₀` a text of the first tree,

and in the second case it writes `report (report s₀)`, which is `report s₀` again.
So no chain of reports of reports ever gets longer than one, and the invariant
`DerivesFrom` is carried from each extraction to the next.

* `DerivesFrom.outcome` — one more extraction.
* `outcomes_derive` — a whole series.
* `outcomes_provenance` — what this says of the files of the last tree.
-/
import Docstrings.Proofs.Extraction.Series

namespace Docstrings

open Files Text Markdown

/-! ### Texts of a tree -/

/-- Some file of the tree holds the text. -/
def Files.Tree.HoldsText (t : Tree) (s : String) : Prop :=
  ∃ loc content, t.node? loc = some (.file content) ∧ decode? content = some s

/-- A text that is read through a path is one of the tree's texts. -/
theorem Files.Tree.NamesFile.holdsText {t : Tree} {path : Path} {loc : Location} {s : String}
    (h : t.NamesFile path loc (encode s)) : t.HoldsText s :=
  ⟨loc, encode s, h.2, decode?_encode s⟩

/-! ### Derived trees -/

/-- The tree `t'` has all that is in `t`, and the files that differ hold reports of
texts of `t`. -/
structure DerivesFrom (t t' : Tree) : Prop where
  grows : t.Grows t'
  reported : ∀ loc content, t'.node? loc = some (.file content) →
    t.node? loc = some (.file content) ∨
      ∃ s, t.HoldsText s ∧ content = encode (report s)

section

variable {t t' : Tree}

theorem DerivesFrom.refl (t : Tree) : DerivesFrom t t := ⟨.refl t, fun _ _ => .inl⟩

/-- Whatever text is read in a derived tree, its report is that of a text of the first
tree. -/
theorem DerivesFrom.report_eq (h : DerivesFrom t t') {s : String} (hs : t'.HoldsText s) :
    ∃ s₀, t.HoldsText s₀ ∧ report s = report s₀ := by
  obtain ⟨loc, content, hnode, hdecode⟩ := hs
  rcases h.reported loc content hnode with hsame | ⟨s₀, hs₀, rfl⟩
  · exact ⟨s, ⟨loc, content, hsame, hdecode⟩, rfl⟩
  · -- the text is a report itself, and the report of a report is the same report
    obtain rfl : report s₀ = s := by
      rw [decode?_encode] at hdecode
      exact Option.some.inj hdecode
    exact ⟨s₀, hs₀, report_report s₀⟩

/-- A report of a text of a derived tree may be put where a file can be written. -/
theorem DerivesFrom.put (h : DerivesFrom t t') {s : String} (hs : t'.HoldsText s)
    {path : Path} {out : Location} (hout : t'.target path = .ok out) :
    DerivesFrom t (t'.put out (.file (encode (report s)))) := by
  refine ⟨h.grows.trans (Tree.grows_put_of_target hout _), ?_⟩
  intro loc content hnode
  by_cases hloc : loc = out
  · -- the file that was written
    subst hloc
    rw [(Tree.namesFile_put_self hout (encode (report s))).2] at hnode
    obtain rfl : encode (report s) = content := Node.file.inj (Option.some.inj hnode)
    obtain ⟨s₀, hs₀, heq⟩ := h.report_eq hs
    exact .inr ⟨s₀, hs₀, by rw [heq]⟩
  · rw [Tree.node?_put_of_ne t' _ hloc] at hnode
    exact h.reported loc content hnode

/-- One more extraction, whatever its configuration and however it ends. -/
theorem DerivesFrom.outcome (h : DerivesFrom t t') (c : Config) :
    DerivesFrom t (outcome c t').2 := by
  rcases outcome_failed_or_saved c t' with ⟨e, he, -⟩ | ⟨loc, s, out, hnames, hout, hsaved⟩
  · rw [he]
    exact h
  · rw [hsaved]
    exact h.put hnames.holdsText hout

end

/-! ### Series -/

/-- A series that goes on in a derived tree leaves a derived tree. -/
theorem DerivesFrom.outcomes {t t' : Tree} (h : DerivesFrom t t') (cs : List Config) :
    DerivesFrom t (outcomes cs t').2 := by
  induction cs generalizing t' with
  | nil => exact h
  | cons c cs ih => exact ih (h.outcome c)

theorem outcomes_derive (cs : List Config) (t : Tree) : DerivesFrom t (outcomes cs t).2 :=
  (DerivesFrom.refl t).outcomes cs

/-- **Where the files come from.**  A series of extractions makes and removes no
directory and removes no file; and a file that is new after it, or holds something
else than before, holds the report of a text that some file held at first, which is
its own report. -/
theorem outcomes_provenance (cs : List Config) (t : Tree) :
    (∀ loc, (outcomes cs t).2.node? loc = some .directory ↔ t.node? loc = some .directory) ∧
    (∀ loc content, t.node? loc = some (.file content) →
      ∃ content', (outcomes cs t).2.node? loc = some (.file content')) ∧
    ∀ loc content, (outcomes cs t).2.node? loc = some (.file content) →
      t.node? loc ≠ some (.file content) →
      ∃ src held s, t.node? src = some (.file held) ∧ decode? held = some s ∧
        content = encode (report s) ∧ report (report s) = report s := by
  have h := outcomes_derive cs t
  refine ⟨h.grows.directory, fun loc content => h.grows.file, ?_⟩
  intro loc content hnode hchanged
  rcases h.reported loc content hnode with hsame | ⟨s, ⟨src, held, hsrc, hdecode⟩, hcontent⟩
  · exact absurd hsame hchanged
  · exact ⟨src, held, s, hsrc, hdecode, hcontent, report_report s⟩

end Docstrings
