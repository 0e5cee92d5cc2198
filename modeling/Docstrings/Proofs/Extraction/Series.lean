/-
Docstrings/Proofs/Extraction/Series.lean

Extractions one after the other, on the same tree.

A second extraction with the same configuration changes nothing and ends like the
first one.  If the first one failed, the tree is as it was.  If it succeeded, the
output file now holds the report, and what the input file holds depends on whether
it is the same file:

* if it is another one, it holds the same text, and the same report is written;
* if it is the same one, it holds the report.  Its scan finds as many blocks, and
  their report is that very report.

Either way the second extraction reads a text that has a scan of as many blocks
and the same report: it is a rereading of the first one's input (`Rereads`).

* `rereads_of_put` — what an extraction reads after another one.
* `outcome_outcome` — the second extraction.
* `outcomes_replicate` — any number of them.
-/
import Docstrings.Proofs.Extraction.Outcome

namespace Docstrings

open Files Text

/-! ### The second extraction -/

/-- The two texts are the same to an extraction: they hold as many blocks, and have
the same report. -/
structure Rereads (s s' : String) : Prop where
  length_eq : (scan s').blocks.length = (scan s).blocks.length
  report_eq : Markdown.report s' = Markdown.report s

theorem Rereads.refl (s : String) : Rereads s s := ⟨rfl, rfl⟩

theorem rereads_report (s : String) : Rereads s (Markdown.report s) :=
  ⟨Markdown.length_scan_report s, Markdown.report_report s⟩

/-- After the report was written, the input path still leads to the same place, and
what is there is the same to an extraction. -/
theorem rereads_of_put {t : Tree} {input output : Path} {loc out : Location} {s : String}
    (h : t.NamesFile input loc (encode s)) (hout : t.target output = .ok out) :
    ∃ s', Rereads s s' ∧
      (t.put out (.file (encode (Markdown.report s)))).NamesFile input loc (encode s') := by
  by_cases hsame : loc = out
  · -- the output file is the input file: it now holds the report
    subst hsame
    exact ⟨_, rereads_report s, h.put_self hout _⟩
  · exact ⟨s, .refl s, h.put_of_ne hsame hout _⟩

/-- A second extraction ends like the first one and leaves the tree as that one left
it. -/
theorem outcome_outcome (c : Config) (t : Tree) : outcome c (outcome c t).2 = outcome c t := by
  rcases outcome_failed_or_saved c t with ⟨e, he, -⟩ | ⟨loc, s, out, h, hout, hsaved⟩
  · -- the first one failed, and the second one meets the same tree
    rw [he]
    exact he
  · -- the second one reads `s'`, which has the report of `s`, and writes it again
    obtain ⟨s', hs', hnames⟩ := rereads_of_put h hout
    have hgrows := Tree.grows_put_of_target hout (encode (Markdown.report s))
    have hagain := outcome_of_target hnames (hgrows.target hout)
    rw [hs'.length_eq, hs'.report_eq, Tree.put_put] at hagain
    rw [hsaved]
    exact hagain

/-! ### Any number of extractions -/

/-- What extractions come to that are done one after the other, and the tree that they
leave. -/
def outcomes : List Config → Tree → List (Except ExtractError Summary) × Tree
  | [], t => ([], t)
  | c :: cs, t =>
    let rest := outcomes cs (outcome c t).2
    ((outcome c t).1 :: rest.1, rest.2)

/-- **Doing it again changes nothing.**  A second extraction with the same configuration
ends like the first one, and leaves the tree as that one left it; so do all that
follow. -/
theorem outcomes_replicate (c : Config) (t : Tree) :
    ((outcome c (outcome c t).2).1 = (outcome c t).1 ∧
      (outcome c (outcome c t).2).2 = (outcome c t).2) ∧
    ∀ n, outcomes (List.replicate (n + 1) c) t
      = (List.replicate (n + 1) (outcome c t).1, (outcome c t).2) := by
  constructor
  · rw [outcome_outcome]
    exact ⟨rfl, rfl⟩
  · intro n
    -- the rest of the series starts from the tree that the first extraction left
    induction n generalizing t with
    | zero => rfl
    | succ n ih =>
      have hrest := ih (outcome c t).2
      rw [outcome_outcome] at hrest
      rw [List.replicate_succ, outcomes, hrest]
      rfl

end Docstrings
