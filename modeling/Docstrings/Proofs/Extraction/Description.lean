/-
Docstrings/Proofs/Extraction/Description.lean

What an extraction is asked to do, as it tells it.

The first event of an extraction is its configuration, on one line: the two paths, quoted,
and whether to tell more, with fixed words around them.

    ExtractConfig { file_path: "…", output_file: "…", verbose: … }

A path may hold any of these words, quotes and braces.  But a quoted path ends at its own
closing quote and nowhere before it, so the line comes apart in one way only, from the
left: the first words, the first path, the words between, the second path, and the end.
No two configurations are told alike.

* `Config.description_injective` — the configuration can be told from its description.
* `isPrintable_of_mem_message` — all of the event can be shown.
* `message_identifies_configuration` — the whole of it.
-/
import Docstrings.Proofs.Extraction.Events
import Docstrings.Proofs.Text.Quoted

namespace Docstrings

open Files Text
open Log (Event)

/-! ### The parts of a description -/

namespace Config

theorem eq_iff {c d : Config} :
    c = d ↔ c.filePath = d.filePath ∧ c.outputFile = d.outputFile ∧ c.verbose = d.verbose := by
  cases c
  cases d
  rw [mk.injEq]

/-- The end of a description, behind the paths. -/
def ending (verbose : Bool) : String :=
  ", verbose: " ++ (if verbose then "true" else "false") ++ " \x7d"

/-- The parts of a description, in the order in which they are told. -/
theorem toList_description (c : Config) :
    c.description.toList = "ExtractConfig \x7b file_path: ".toList ++
      ((quoted c.filePath).toList ++ (", output_file: ".toList ++
        ((quoted c.outputFile).toList ++ (ending c.verbose).toList))) := by
  unfold description ending
  simp only [String.toList_append, List.append_assoc]

theorem ending_injective {b b' : Bool} (h : (ending b).toList = (ending b').toList) : b = b' := by
  cases b with
  | false =>
    cases b' with
    | false => rfl
    | true => exact absurd h (by decide)
  | true =>
    cases b' with
    | false => exact absurd h (by decide)
    | true => rfl

/-- Configurations that are described alike are the same. -/
theorem description_injective {c d : Config} (h : c.description = d.description) : c = d := by
  have hparts := congrArg String.toList h
  rw [toList_description, toList_description] at hparts
  obtain ⟨hfile, hrest⟩ := quoted_append_inj (List.append_cancel_left hparts)
  obtain ⟨houtput, hend⟩ := quoted_append_inj (List.append_cancel_left hrest)
  exact eq_iff.2 ⟨hfile, houtput, ending_injective hend⟩

/-- A path may hold the words between the paths; where the first one ends is told all the
same. -/
example : description ⟨"a\", output_file: \"b", "c", false⟩
    ≠ description ⟨"a", "b\", output_file: \"c", false⟩ := by
  decide +kernel

theorem isPrintable_of_mem_description {c : Config} {ch : Char}
    (h : ch ∈ c.description.toList) : isPrintable ch = true := by
  have hending : ∀ b : Bool, (ending b).toList.all isPlainAscii = true := by decide
  rw [toList_description] at h
  simp only [List.mem_append] at h
  rcases h with hfirst | hfile | hbetween | houtput | hend
  · exact isPrintable_of_mem_plainAscii (by rfl) hfirst
  · exact isPrintable_of_mem_quoted hfile
  · exact isPrintable_of_mem_plainAscii (by rfl) hbetween
  · exact isPrintable_of_mem_quoted houtput
  · exact isPrintable_of_mem_plainAscii (hending c.verbose) hend

end Config

/-! ### The event -/

theorem toList_message_configuration (c : Config) :
    (Event.configuration c).message.toList = "Configuration: ".toList ++ c.description.toList :=
  String.toList_append

theorem message_configuration_eq_iff {c d : Config} :
    (Event.configuration c).message = (Event.configuration d).message ↔ c = d := by
  constructor
  · intro h
    have hchars := congrArg String.toList h
    rw [toList_message_configuration, toList_message_configuration] at hchars
    exact Config.description_injective (String.toList_inj.1 (List.append_cancel_left hchars))
  · rintro rfl
    rfl

/-- All that an extraction tells of its configuration can be shown. -/
theorem isPrintable_of_mem_message {c : Config} {ch : Char}
    (h : ch ∈ (Event.configuration c).message.toList) : isPrintable ch = true := by
  rw [toList_message_configuration, List.mem_append] at h
  rcases h with hfirst | hdescription
  · exact isPrintable_of_mem_plainAscii (by rfl) hfirst
  · exact Config.isPrintable_of_mem_description hdescription

/-- **The configuration can be told from what is told of it.**  The first event of an
extraction is its configuration.  If two configurations are told alike, they are for the
same paths and ask to tell as much.  Whatever the paths hold, what is told holds no control
character, nor any other that cannot be shown, and is one line. -/
theorem message_identifies_configuration (c d : Config) (t : Tree) :
    (eventsOf c t).head? = some (.configuration c) ∧
    ((Event.configuration c).message = (Event.configuration d).message ↔
      c.filePath = d.filePath ∧ c.outputFile = d.outputFile ∧ c.verbose = d.verbose) ∧
    (∀ ch ∈ (Event.configuration c).message.toList,
      isPrintable ch = true ∧ isControl ch = false) ∧
    lines (Event.configuration c).message.toList = [(Event.configuration c).message.toList] := by
  refine ⟨?_, ?_, ?_, ?_⟩
  · obtain ⟨progress, -, hevents, -⟩ := eventsOf_eq_cons c t
    rw [hevents, List.head?_cons]
  · rw [message_configuration_eq_iff, Config.eq_iff]
  · intro ch hch
    have hprintable := isPrintable_of_mem_message hch
    exact ⟨hprintable, isControl_of_isPrintable hprintable⟩
  · apply lines_of_forall_isPrintable
    · rw [toList_message_configuration]
      simp
    · exact fun ch => isPrintable_of_mem_message

end Docstrings
