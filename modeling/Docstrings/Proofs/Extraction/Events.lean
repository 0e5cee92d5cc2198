/-
Docstrings/Proofs/Extraction/Events.lean

What an extraction tells, apart from what it does.

An extraction first tells what it was asked to do, and then only of its progress.
What it tells after the first event, what it comes to and the tree that it leaves
hang on the two paths and the tree alone:

    events  =  configuration c  ::  progress,      `progress` the same for all `c.verbose`

So a request to tell more changes one event, and nothing else that an extraction does.

* `extract_run_eq` — the events, the result and the tree, for either request.
* `eventsOf_verbose`, `outcome_verbose` — what a request to tell more changes.
* `level_ne_error_of_mem_eventsOf` — an extraction does not tell of its failure itself.
-/
import Docstrings.Proofs.Extraction.Outcome

namespace Docstrings

open Files Text
open Log (Event)

/-! ### Kinds of events -/

namespace Log.Event

/-- Whether an event tells of the progress of an extraction: it tells neither what was
asked for nor that it failed. -/
def IsProgress : Event → Prop
  | configuration _ | failed _ => False
  | _ => True

/-- The event as it would be told if the request were to tell more, or not. -/
def withVerbose (verbose : Bool) : Event → Event
  | configuration c => configuration { c with verbose }
  | e => e

@[simp] theorem level_withVerbose (verbose : Bool) (e : Event) :
    (e.withVerbose verbose).level = e.level := by
  cases e <;> rfl

@[simp] theorem source_withVerbose (verbose : Bool) (e : Event) :
    (e.withVerbose verbose).source = e.source := by
  cases e <;> rfl

/-- The request to tell more is itself told only for debugging. -/
theorem withVerbose_of_level_ne_debug {e : Event} (h : e.level ≠ .debug) (verbose : Bool) :
    e.withVerbose verbose = e := by
  cases e with
  | configuration => exact absurd rfl h
  | _ => rfl

theorem IsProgress.withVerbose {e : Event} (h : e.IsProgress) (verbose : Bool) :
    e.withVerbose verbose = e := by
  cases e with
  | configuration => exact h.elim
  | _ => rfl

/-- What the scanner tells is progress. -/
theorem isProgress_of_source_scanner {e : Event} (h : e.source = .scanner) : e.IsProgress := by
  cases e with
  | configuration => exact absurd h (by simp [source])
  | failed => exact absurd h (by simp [source])
  | _ => exact trivial

theorem IsProgress.level_ne_error {e : Event} (h : e.IsProgress) : e.level ≠ .error := by
  rw [ne_eq, level_eq_error_iff]
  rintro ⟨failure, rfl⟩
  exact h

end Log.Event

/-! ### What is told on the way -/

/-- Only the scanner tells of what is open at the end of a text. -/
theorem source_of_mem_scanEvents {s : Scan} {e : Event} (h : e ∈ s.events) :
    e.source = .scanner := by
  unfold Scan.events at h
  rcases hopen : s.unclosed with - | opening
  · rw [hopen] at h
    exact absurd h List.not_mem_nil
  · rw [hopen] at h
    obtain rfl := List.mem_singleton.1 h
    rfl

/-- Only the scanner tells of the places of blocks. -/
theorem source_of_mem_blockEvents {path : Path} {n : Nat} {blocks : List Block} {e : Event}
    (h : e ∈ blockEvents path n blocks) : e.source = .scanner := by
  induction blocks generalizing n with
  | nil => exact absurd h List.not_mem_nil
  | cons b blocks ih =>
    rcases List.mem_cons.1 h with rfl | hrest
    · rfl
    · exact ih hrest

/-- What is told of the work on a text up to the writing of its report, after the first
event. -/
def progressTo (input output : Path) (content : String) : List Event :=
  .extracting input :: ((scan content).events ++ blockEvents input 1 (scan content).blocks
    ++ [.extracted (scan content).blocks.length, .saving output,
      .writing (byteCount (Markdown.report content)) output])

theorem isProgress_of_mem_progressTo {input output : Path} {content : String} {e : Event}
    (h : e ∈ progressTo input output content) : e.IsProgress := by
  unfold progressTo at h
  rw [List.mem_cons, List.mem_append, List.mem_append] at h
  rcases h with rfl | (hscan | hblock) | hlast
  · exact trivial
  · exact Event.isProgress_of_source_scanner (source_of_mem_scanEvents hscan)
  · exact Event.isProgress_of_source_scanner (source_of_mem_blockEvents hblock)
  · simp only [List.mem_cons, List.not_mem_nil, or_false] at hlast
    rcases hlast with rfl | rfl | rfl
    · exact trivial
    · exact trivial
    · exact trivial

/-- An extraction does the same and comes to the same, whatever it is to tell; only the
first event shows that. -/
theorem extract_run_eq (c : Config) (t : Tree) :
    ∃ (progress : List Event) (result : Except ExtractError Summary) (after : Tree),
      (∀ e ∈ progress, e.IsProgress) ∧
      ∀ verbose, (extract Tree.access { c with verbose }).run t
        = (⟨.configuration { c with verbose } :: progress, result⟩, after) := by
  obtain ⟨input, output, -⟩ := c
  rcases hfile : t.isFile input with - | -
  · refine ⟨[], .error (.inputMissing input), t, fun e => nofun, fun verbose => ?_⟩
    exact extract_of_isFile_false (c := ⟨input, output, verbose⟩) hfile
  obtain ⟨bytes, hread⟩ := Tree.isFile_iff.1 hfile
  rcases htext : decode? bytes with - | content
  · refine ⟨[.extracting input], .error (.scan (.unreadable input .notText)), t, ?_,
      fun verbose => ?_⟩
    · rintro e (- | ⟨-, ⟨⟩⟩)
      exact trivial
    · exact extract_of_decode?_none (c := ⟨input, output, verbose⟩) hread htext
  · -- the text is scanned, and then an attempt is made to write the report
    rcases hwrite : t.write output (encode (Markdown.render (scan content).blocks))
      with ⟨fault | ⟨⟩, after⟩
    · refine ⟨progressTo input output content, .error (.write ⟨output, fault⟩), after,
        fun e => isProgress_of_mem_progressTo, fun verbose => ?_⟩
      rw [extract_of_decode?_some (c := ⟨input, output, verbose⟩) hread htext]
      simp [hwrite, progressTo, Markdown.report]
    · refine ⟨progressTo input output content ++ [.saved output],
        .ok ⟨(scan content).blocks.length, output⟩, after, ?_, fun verbose => ?_⟩
      · intro e he
        rcases List.mem_append.1 he with hbefore | hlast
        · exact isProgress_of_mem_progressTo hbefore
        · obtain rfl := List.mem_singleton.1 hlast
          exact trivial
      · rw [extract_of_decode?_some (c := ⟨input, output, verbose⟩) hread htext]
        simp [hwrite, progressTo, Markdown.report]

/-! ### All that is told -/

/-- The events of an extraction on a tree, oldest first. -/
def eventsOf (c : Config) (t : Tree) : List Event := ((extract Tree.access c).run t).1.events

/-- An extraction first tells what it was asked to do, and then of its progress. -/
theorem eventsOf_eq_cons (c : Config) (t : Tree) :
    ∃ progress, (∀ e ∈ progress, e.IsProgress) ∧
      eventsOf c t = .configuration c :: progress ∧
      ∀ verbose, eventsOf { c with verbose } t = .configuration { c with verbose } :: progress := by
  obtain ⟨progress, result, after, hprogress, hrun⟩ := extract_run_eq c t
  have hevents (verbose : Bool) :
      eventsOf { c with verbose } t = .configuration { c with verbose } :: progress := by
    unfold eventsOf
    rw [hrun verbose]
  exact ⟨progress, hprogress, hevents c.verbose, hevents⟩

/-- An extraction does the same whatever it is to tell. -/
theorem outcome_verbose (c : Config) (t : Tree) (verbose : Bool) :
    outcome { c with verbose } t = outcome c t := by
  obtain ⟨progress, result, after, -, hrun⟩ := extract_run_eq c t
  have houtcome (verbose : Bool) : outcome { c with verbose } t = (result, after) := by
    unfold outcome
    rw [hrun verbose]
  exact (houtcome verbose).trans (houtcome c.verbose).symm

/-- An extraction tells the same whatever it is to tell, but for the request itself. -/
theorem eventsOf_verbose (c : Config) (t : Tree) (verbose : Bool) :
    eventsOf { c with verbose } t = (eventsOf c t).map (Event.withVerbose verbose) := by
  obtain ⟨progress, hprogress, hc, hevents⟩ := eventsOf_eq_cons c t
  have hmap : progress.map (Event.withVerbose verbose) = progress :=
    (List.map_congr_left fun e he => (hprogress e he).withVerbose verbose).trans
      (List.map_id progress)
  calc eventsOf { c with verbose } t
      = .configuration { c with verbose } :: progress := hevents verbose
    _ = .configuration { c with verbose } :: progress.map (Event.withVerbose verbose) := by
      rw [hmap]
    _ = (eventsOf c t).map (Event.withVerbose verbose) := by
      rw [hc]
      rfl

/-- An extraction tells of no failure; that is left to who asked for it. -/
theorem level_ne_error_of_mem_eventsOf {c : Config} {t : Tree} {e : Event}
    (h : e ∈ eventsOf c t) : e.level ≠ .error := by
  obtain ⟨progress, hprogress, hc, -⟩ := eventsOf_eq_cons c t
  rw [hc] at h
  rcases List.mem_cons.1 h with rfl | hrest
  · exact nofun
  · exact (hprogress e hrest).level_ne_error

end Docstrings
