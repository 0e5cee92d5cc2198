/-
Docstrings/Proofs/Program/Texts.lean

What can be read in the texts that the program prints.

Every text is about something, its *subjects*.  The help is about the options, the version
about the tool and its number, the text of a usage error about the options and the words at
fault, and an event of the log about the paths and the numbers that belong to it.  All of
them can be read in the text.  Of a word that the user gave, what is visible of it is shown.

An error might be about no option at all, if it listed the options that are missing and
none were.  A command line never comes to that one.

* `Mentions`, `Names` — what can be read in a text.
* `UsageError.text_eq` — the parts of the text of an error.
* `Stop.names_printed` — whatever the program stops for, its text names.
* `Event.line_eq`, `Event.names_message` — the line of an event, and what its wording names.
-/
import Docstrings.Log.Event
import Docstrings.Proofs.CommandLine.Requirement

namespace Docstrings

open CommandLine
open Log (Event Level)

/-! ### What can be read in a text -/

/-- The subject can be read in the text. -/
def Mentions (text subject : String) : Prop := subject.toList <:+: text.toList

instance (text subject : String) : Decidable (Mentions text subject) :=
  inferInstanceAs (Decidable (subject.toList <:+: text.toList))

/-- The text is about the subjects: there are some, and each can be read in it. -/
def Names (text : String) (subjects : List String) : Prop :=
  subjects ≠ [] ∧ ∀ subject ∈ subjects, Mentions text subject

section

variable {a b subject : String} {subjects : List String}

theorem Mentions.self (text : String) : Mentions text text := List.infix_refl _

theorem Mentions.left (h : Mentions a subject) : Mentions (a ++ b) subject :=
  isInfix_append_of_isInfix_left h

theorem Mentions.right (h : Mentions b subject) : Mentions (a ++ b) subject :=
  isInfix_append_of_isInfix_right h

theorem Mentions.join {parts : List String} (ha : a ∈ parts) (h : Mentions a subject) :
    Mentions (String.join parts) subject := by
  induction parts with
  | nil => exact absurd ha List.not_mem_nil
  | cons first parts ih =>
    rw [String.join_cons]
    rcases List.mem_cons.1 ha with rfl | hrest
    · exact h.left
    · exact (ih hrest).right

theorem Names.single (h : Mentions a subject) : Names a [subject] :=
  ⟨List.cons_ne_nil _ _, List.forall_mem_singleton.2 h⟩

theorem Names.cons (h : Mentions a subject) (hrest : Names a subjects) :
    Names a (subject :: subjects) :=
  ⟨List.cons_ne_nil _ _, List.forall_mem_cons.2 ⟨h, hrest.2⟩⟩

end

/-! ### Usage errors -/

namespace CommandLine

/-- What an error is about. -/
def UsageError.subjects (i : Text.Interruption) : UsageError → List String
  | valueMissing o => [o.usage]
  | repeated o => [o.usage]
  | valueUnwanted o value _ => [Text.visible i value, o.usage]
  | unknownArgument word _ _ => [Text.visible i word]
  | optionsMissing missing _ => missing.map PathOption.usage

/-- What the user is told about when the program stops. -/
def Stop.subjects (i : Text.Interruption) : Stop → List String
  | help => Opt.all.map fun o => "--" ++ o.name
  | version => [toolName, toolVersion]
  | usage e => e.subjects i

/-- The reason of an error names what it is about. -/
theorem UsageError.mentions_reason {i : Text.Interruption} {e : UsageError} {subject : String}
    (h : subject ∈ e.subjects i) : Mentions (e.reason i) subject := by
  cases e with
  | valueMissing o =>
    obtain rfl := List.mem_singleton.1 h
    exact (Mentions.self _).right.left
  | repeated o =>
    obtain rfl := List.mem_singleton.1 h
    exact (Mentions.self _).right.left
  | valueUnwanted o value given =>
    rcases List.mem_cons.1 h with rfl | hoption
    · -- the value stands before the option
      exact (Mentions.self _).right.left.left.left
    · obtain rfl := List.mem_singleton.1 hoption
      exact (Mentions.self _).right.left
  | unknownArgument word tip? given =>
    obtain rfl := List.mem_singleton.1 h
    exact (Mentions.self _).right.left
  | optionsMissing missing given =>
    obtain ⟨o, ho, rfl⟩ := List.mem_map.1 h
    -- each of the options has a line of its own
    have hline : "\n  " ++ o.usage ∈ missing.map fun o => "\n  " ++ o.usage :=
      List.mem_map_of_mem ho
    exact (Mentions.join hline (Mentions.self _).right).right

/-- The text of an error starts with its reason and ends with a way to get help. -/
theorem UsageError.text_eq (cmd : Command) (i : Text.Interruption) (e : UsageError) :
    ∃ hints, e.text cmd i
      = "error: " ++ e.reason i ++ hints ++ "\n\nFor more information, try '--help'.\n" := by
  unfold UsageError.text
  rw [@String.append_assoc ("error: " ++ e.reason i)]
  exact ⟨_, rfl⟩

/-! ### Help and version -/

/-- The help has a line for each option. -/
theorem mentions_helpText (o : Opt) (cmd : Command) : Mentions (helpText cmd) ("--" ++ o.name) := by
  unfold helpText
  rcases o with (_ | _) | _ | _ | _
  · exact (Mentions.right (by decide +kernel)).left.left.left.left
  · exact (Mentions.right (by decide +kernel)).left.left.left
  · exact (Mentions.right (by decide +kernel)).left.left
  · exact (Mentions.right (by decide +kernel)).left
  · exact Mentions.right (by decide +kernel)

theorem names_versionText : Names versionText [toolName, toolVersion] :=
  .cons (Mentions.self _).left.left.left (.single (Mentions.self _).right.left)

/-! ### The text of a stop -/

/-- Where options are listed as missing, some are. -/
theorem missing_ne_nil_of_parse {cmd : Command} {words : List String}
    {missing : List PathOption} {given : List Opt}
    (h : parse cmd words = .error (.usage (.optionsMissing missing given))) : missing ≠ [] := by
  rw [parse_eq_bind] at h
  rcases bind_eq_error_iff.1 h with hread | ⟨s, -, hrequirement⟩
  · exact absurd hread readAll_ne_missing
  · obtain ⟨-, hmissing, hstop⟩ :=
      State.requirement_eq_error_iff.1 (map_eq_error_iff.1 hrequirement)
    obtain ⟨rfl, -⟩ : missing = s.missing ∧ given = s.seen := by simpa using hstop
    exact hmissing

/-- There is always something that is wrong. -/
theorem UsageError.subjects_ne_nil {cmd : Command} {words : List String} {e : UsageError}
    (h : parse cmd words = .error (.usage e)) (i : Text.Interruption) : e.subjects i ≠ [] := by
  cases e with
  | optionsMissing missing given => exact mt List.map_eq_nil_iff.1 (missing_ne_nil_of_parse h)
  | _ => exact List.cons_ne_nil _ _

/-- **The texts of the command line.**  What is printed when the program stops names what it
stops for. -/
theorem Stop.names_printed {cmd : Command} {words : List String} {stop : Stop}
    (h : parse cmd words = .error stop) : Names (stop.printed cmd) (stop.subjects .pauses) := by
  cases stop with
  | help =>
    refine ⟨List.cons_ne_nil _ _, fun subject hsubject => ?_⟩
    obtain ⟨o, -, rfl⟩ := List.mem_map.1 hsubject
    exact mentions_helpText o cmd
  | version => exact names_versionText
  | usage e =>
    refine ⟨e.subjects_ne_nil h .pauses, fun subject hsubject => ?_⟩
    obtain ⟨hints, htext⟩ := e.text_eq cmd .pauses
    show Mentions (e.text cmd .pauses) subject
    rw [htext]
    exact (UsageError.mentions_reason hsubject).right.left.left

end CommandLine

/-! ### Events -/

namespace Log

/-- The name of a level in its column, flush to the right. -/
def Level.padded : Level → String
  | error => "ERROR"
  | warn => " WARN"
  | info => " INFO"
  | debug => "DEBUG"
  | trace => "TRACE"

/-- An event is told in a line of its own, which shows its level and then its wording. -/
theorem Event.line_eq (e : Event) :
    e.line = e.level.padded ++ " " ++ e.message ++ "\n" := by
  have hpadded (level : Level) :
      String.ofList (List.replicate (levelWidth - level.label.length) ' ') ++ level.label
        = level.padded := by
    cases level <;> rfl
  unfold line
  rw [hpadded]

/-- What an event is about. -/
def Event.subjects : Event → List String
  | configuration config => [config.description]
  | extracting path => [path]
  | blockDropped startLine lineCount => [toString startLine, toString lineCount]
  | docstringFound number startLine endLine path =>
    [toString number, toString startLine, toString endLine, path]
  | extracted count => [toString count]
  | saving path => [path]
  | writing bytes path => [toString bytes, path]
  | saved path => [path]
  | failed e => [e.message, e.path]

/-- The wording of an event names what it is about. -/
theorem Event.names_message (e : Event) : Names e.message e.subjects := by
  cases e with
  | configuration config => exact .single (Mentions.self _).right
  | extracting path => exact .single (Mentions.self _).right
  | blockDropped startLine lineCount =>
    exact .cons (Mentions.self _).right.left.left.left
      (.single (Mentions.self _).right.left)
  | docstringFound number startLine endLine path =>
    exact .cons (Mentions.self _).right.left.left.left.left.left.left
      (.cons (Mentions.self _).right.left.left.left.left
        (.cons (Mentions.self _).right.left.left (.single (Mentions.self _).right)))
  | extracted count => exact .single (Mentions.self _).right.left
  | saving path => exact .single (Mentions.self _).right
  | writing bytes path =>
    exact .cons (Mentions.self _).right.left.left (.single (Mentions.self _).right)
  | saved path => exact .single (Mentions.self _).right
  | failed e => exact .cons (Mentions.self _) (.single e.path_isInfix_message)

end Log

end Docstrings
