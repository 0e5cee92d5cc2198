/-
Docstrings/Proofs/CommandLine/Requirement.lean

The requirement of the path options, in two places.

The command requires both path options, and a configuration cannot be made without them.
The command that users get looks for them itself, so the second look never finds anything
missing.  To see that the two looks agree, it is compared with the command that leaves all
options to choice, for which only the second look is left.

Both commands read the words alike.  They differ only once all words have been read and
nothing was wrong with them, by whether some option is missing then:

    read as a state `s`     standard                     lenient, and the configuration
    s.missing = []          accepts                      accepts, and there is one
    s.missing = o :: _      stops, and lists s.missing   accepts, and there is none for `o`

* `parse_of_readAll_error`, `parse_lenient_of_readAll`, `parse_standard_of_readAll` — the
  two commands, by what has been read.
* `toConfig_ofGiven_eq_error_iff` — a configuration fails at the first option missing.
* `message_optionsMissing` — the text that lists what is missing.
* `readings` — what the two commands come to on the same words.
* `commands_agree` — the two commands compared.
-/
import Docstrings.Proofs.CommandLine.Accepted
import Docstrings.Proofs.CommandLine.Stops

namespace Docstrings

namespace CommandLine

/-! ### The two commands, by what has been read -/

section

variable {words : List String}

/-- Both commands stop where the reading does. -/
theorem parse_of_readAll_error {stop : Stop} (h : readAll words = .error stop) (cmd : Command) :
    parse cmd words = .error stop := by
  rw [parse_eq_bind, h]
  rfl

theorem parse_lenient_of_readAll {s : State} (h : readAll words = .ok s) :
    parse .lenient words = .ok (.ofGiven s.given) := by
  rw [parse_eq_bind, h]
  rfl

theorem parse_standard_of_readAll {s : State} (h : readAll words = .ok s) :
    parse .standard words
      = if s.missing = [] then .ok (.ofGiven s.given)
        else .error (.usage (.optionsMissing s.missing s.seen)) := by
  rw [parse_eq_bind, h]
  show (s.requirement .standard).map _ = _
  by_cases hmissing : s.missing = []
  · rw [if_pos hmissing]
    have hok : s.requirement .standard = .ok s :=
      State.requirement_standard_eq_ok_iff.2 ⟨State.missing_eq_nil_iff.1 hmissing, rfl⟩
    rw [hok]
    rfl
  · rw [if_neg hmissing]
    have hstop := State.requirement_eq_error_iff.2 ⟨rfl, hmissing, rfl⟩
    exact map_eq_error_iff.2 hstop

/-- The words are never at fault for what is missing. -/
theorem readAll_ne_missing {missing : List PathOption} {given : List Opt} :
    readAll words ≠ .error (.usage (.optionsMissing missing given)) := by
  intro h
  rcases readAll_eq_error_cases h with ⟨e, he, hwords⟩ | ⟨r, hr⟩
  · obtain rfl := Stop.usage.inj he
    exact hwords
  · exact r.stop_ne_usage _ hr.symm

end

/-! ### Configurations and missing options -/

theorem Given.option_eq_path_iff {g : Given} {o : PathOption} :
    g.option = .path o ↔ ∃ value, g = .path o value := by
  cases g <;> simp [option]

theorem findSome?_valueFor?_eq_none_iff {given : List Given} {o : PathOption} :
    given.findSome? (Given.valueFor? o) = none ↔ Opt.path o ∉ given.map Given.option := by
  rw [List.findSome?_eq_none_iff]
  constructor
  · intro h hmem
    obtain ⟨g, hg, hoption⟩ := List.mem_map.1 hmem
    obtain ⟨value, rfl⟩ := Given.option_eq_path_iff.1 hoption
    have hnone := h _ hg
    rw [Given.valueFor?_eq_some_iff.2 rfl] at hnone
    exact Option.some_ne_none value hnone
  · intro h g hg
    rw [Option.eq_none_iff_forall_ne_some]
    intro value hvalue
    obtain rfl := Given.valueFor?_eq_some_iff.1 hvalue
    exact h (List.mem_map.2 ⟨_, hg, rfl⟩)

theorem toConfig_eq_error_iff {m : Matches} {o : PathOption} :
    m.toConfig = .error o ↔
      (m.filePath? = none ∧ o = .filePath) ∨
        (m.filePath? ≠ none ∧ m.outputFile? = none ∧ o = .outputFile) := by
  rcases m with ⟨- | f, - | out, v⟩ <;> simp [Matches.toConfig, eq_comm]

/-- A configuration fails at the first of the options that are missing. -/
theorem toConfig_ofGiven_eq_error_iff {s : State} {o : PathOption} :
    (Matches.ofGiven s.given).toConfig = .error o ↔ s.missing.head? = some o := by
  have hfile : (Matches.ofGiven s.given).filePath? = none ↔ Opt.path .filePath ∉ s.seen :=
    findSome?_valueFor?_eq_none_iff
  have hout : (Matches.ofGiven s.given).outputFile? = none ↔ Opt.path .outputFile ∉ s.seen :=
    findSome?_valueFor?_eq_none_iff
  rw [toConfig_eq_error_iff, ne_eq, hfile, hout, eq_comm (a := o), eq_comm (a := o)]
  unfold State.missing PathOption.all
  by_cases hf : Opt.path .filePath ∈ s.seen
  · by_cases ho : Opt.path .outputFile ∈ s.seen
    · simp [hf, ho]
    · simp [hf, ho]
  · simp [hf]

/-- With nothing missing there is a configuration. -/
theorem exists_toConfig_of_missing {s : State} (h : s.missing = []) :
    ∃ c, (Matches.ofGiven s.given).toConfig = .ok c := by
  rcases hconfig : (Matches.ofGiven s.given).toConfig with o | c
  · rw [toConfig_ofGiven_eq_error_iff, h] at hconfig
    exact absurd hconfig nofun
  · exact ⟨c, rfl⟩

/-! ### Items, and what they do not give -/

/-- The path options that none of the items gives, in the order in which they are shown. -/
def absentFrom (items : List Item) : List PathOption :=
  PathOption.all.filter fun o => Opt.path o ∉ items.map Item.option

theorem missing_eq_absentFrom {s : State} {items : List Item}
    (h : s.given = items.map Item.given) : s.missing = absentFrom items := by
  unfold State.missing State.seen absentFrom
  rw [h, ← map_option_eq]

/-- Of the options of items, only the switch is none of the path options. -/
theorem filter_not_isPath {items : List Item} (h : (items.map Item.option).Nodup) :
    (items.map Item.option).filter (!·.isPath)
      = if Opt.verbose ∈ items.map Item.option then [.verbose] else [] := by
  induction items with
  | nil => rfl
  | cons i items ih =>
    rw [List.map_cons] at h ⊢
    obtain ⟨hnew, hrest⟩ := List.nodup_cons.1 h
    -- a path is dropped, and what is left is what the other items leave
    have hpath {o : PathOption} (ho : i.option = .path o) :
        (i.option :: items.map Item.option).filter (!·.isPath)
          = if Opt.verbose ∈ i.option :: items.map Item.option then [.verbose] else [] := by
      rw [ho, List.filter_cons_of_neg (by simp [Opt.isPath]), ih hrest]
      simp
    cases i with
    | attached o value hne => exact hpath rfl
    | separate o value hne hplain => exact hpath rfl
    | verbose =>
      -- the switch comes once only
      have hnone : Opt.verbose ∉ items.map Item.option := hnew
      rw [show Item.verbose.option = Opt.verbose from rfl, List.filter_cons_of_pos (by rfl),
        ih hrest, if_neg hnone, if_pos List.mem_cons_self]

/-- The text for a command line in which path options are absent. -/
def absenceText (items : List Item) : String :=
  "error: the following required arguments were not provided:"
    ++ String.join ((absentFrom items).map fun o => "\n  --" ++ o.name ++ " <" ++ o.valueName ++ ">")
    ++ "\n\nUsage: extract_docstrings --file-path <file_path> --output-file <output_file>"
    ++ (if Opt.verbose ∈ items.map Item.option then " --verbose" else "")
    ++ "\n\nFor more information, try '--help'.\n"

theorem message_optionsMissing {items : List Item} (h : (items.map Item.option).Nodup)
    (i : Text.Interruption) :
    (Stop.usage (.optionsMissing (absentFrom items) (items.map Item.option))).message .standard i
      = absenceText items := by
  have hlines : (fun o : PathOption => "\n  " ++ o.usage)
      = fun o => "\n  --" ++ o.name ++ " <" ++ o.valueName ++ ">" := by
    funext o
    cases o <;> rfl
  have hswitch : String.join (((items.map Item.option).filter (!·.isPath)).map fun o => " " ++ o.usage)
      = if Opt.verbose ∈ items.map Item.option then " --verbose" else "" := by
    rw [filter_not_isPath h]
    by_cases hverbose : Opt.verbose ∈ items.map Item.option
    · rw [if_pos hverbose, if_pos hverbose]
      rfl
    · rw [if_neg hverbose, if_neg hverbose]
      rfl
  have hrequired : "Usage: " ++ programName ++ (" " ++ requiredOptions)
      = "Usage: extract_docstrings --file-path <file_path> --output-file <output_file>" := by
    decide
  show "error: " ++ ("the following required arguments were not provided:"
      ++ String.join ((absentFrom items).map fun o => "\n  " ++ o.usage)) ++ ""
      ++ ("\n\n" ++ ("Usage: " ++ programName ++ (" " ++ requiredOptions)
        ++ String.join (((items.map Item.option).filter (!·.isPath)).map fun o => " " ++ o.usage)))
      ++ "\n\nFor more information, try '--help'.\n" = _
  -- the two texts are cut into their parts at other places
  have hreason : "error: " ++ "the following required arguments were not provided:"
      = "error: the following required arguments were not provided:" := by decide
  have husage : "\n\n" ++ "Usage: extract_docstrings --file-path <file_path> --output-file <output_file>"
      = "\n\nUsage: extract_docstrings --file-path <file_path> --output-file <output_file>" := by
    decide
  unfold absenceText
  rw [hlines, hswitch, hrequired, ← hreason, ← husage]
  simp only [String.append_assoc, String.empty_append]

/-! ### The two commands compared -/

/-- Something is missing, and the command that requires it stops there. -/
def Stop.IsMissing (stop : Stop) : Prop :=
  ∃ missing given, stop = .usage (.optionsMissing missing given)

/-- What the two commands come to on the same words. -/
inductive Readings (words : List String) : Prop
  /-- Both stop alike, for another reason than what is missing. -/
  | stopped (stop : Stop) (hother : ¬ stop.IsMissing) (h : ∀ cmd, parse cmd words = .error stop)
  /-- Both accept the words, which give a configuration. -/
  | accepted (found : Matches) (c : Config) (hstandard : parse .standard words = .ok found)
    (hlenient : parse .lenient words = .ok found) (hconfig : found.toConfig = .ok c)
  /-- One stops because something is missing; the other accepts the words, which give no
  configuration. -/
  | incomplete (stop : Stop) (found : Matches) (o : PathOption) (hmissing : stop.IsMissing)
    (hstandard : parse .standard words = .error stop)
    (hlenient : parse .lenient words = .ok found) (hconfig : found.toConfig = .error o)

section

variable {words : List String}

/-- **Both looks** at what is missing find the same. -/
theorem readings (words : List String) : Readings words := by
  rcases hread : readAll words with stop | s
  · -- the words themselves are at fault, and neither command gets to what is missing
    refine .stopped stop ?_ (parse_of_readAll_error hread)
    rintro ⟨missing, given, rfl⟩
    exact readAll_ne_missing hread
  · have hstandard := parse_standard_of_readAll hread
    by_cases hmissing : s.missing = []
    · rw [if_pos hmissing] at hstandard
      obtain ⟨c, hconfig⟩ := exists_toConfig_of_missing hmissing
      exact .accepted _ c hstandard (parse_lenient_of_readAll hread) hconfig
    · rw [if_neg hmissing] at hstandard
      obtain ⟨o, hfirst⟩ := Option.ne_none_iff_exists'.1 (mt List.head?_eq_none_iff.1 hmissing)
      exact .incomplete _ _ o ⟨_, _, rfl⟩ hstandard (parse_lenient_of_readAll hread)
        (toConfig_ofGiven_eq_error_iff.2 hfirst)

/-- A configuration is given by both commands or by none. -/
theorem givesConfig_iff_lenient {c : Config} :
    GivesConfig words c ↔ ∃ found, parse .lenient words = .ok found ∧ found.toConfig = .ok c := by
  unfold GivesConfig
  cases readings words with
  | stopped stop hother h => rw [h, h]
  | accepted found c' hstandard hlenient hconfig => rw [hstandard, hlenient]
  | incomplete stop found o hmissing hstandard hlenient hconfig =>
    simp [hstandard, hlenient, hconfig]

/-- Something is missing exactly where the words are accepted if nothing is required, and
give no configuration. -/
theorem isMissing_iff_lenient :
    (∃ stop, parse .standard words = .error stop ∧ stop.IsMissing) ↔
      ∃ found o, parse .lenient words = .ok found ∧ found.toConfig = .error o := by
  cases readings words with
  | stopped stop hother h => simp [h, hother]
  | accepted found c hstandard hlenient hconfig => simp [hstandard, hlenient, hconfig]
  | incomplete stop found o hmissing hstandard hlenient hconfig =>
    exact iff_of_true ⟨stop, hstandard, hmissing⟩ ⟨found, o, hlenient, hconfig⟩

/-- The lenient command stops where the other one does, unless something is missing. -/
theorem parse_lenient_eq_error_iff {stop : Stop} :
    parse .lenient words = .error stop ↔
      parse .standard words = .error stop ∧ ¬ stop.IsMissing := by
  cases readings words with
  | stopped stop' hother h =>
    rw [h, h]
    constructor
    · intro hstop
      obtain rfl := Except.error.inj hstop
      exact ⟨rfl, hother⟩
    · exact And.left
  | accepted found c hstandard hlenient hconfig => simp [hstandard, hlenient]
  | incomplete stop' found o hmissing hstandard hlenient hconfig =>
    rw [hstandard, hlenient]
    constructor
    · exact nofun
    · rintro ⟨hstop, hother⟩
      obtain rfl := Except.error.inj hstop
      exact absurd hmissing hother

/-- All words have been read where the lenient command accepts them. -/
theorem readAll_of_parse_lenient {found : Matches} (h : parse .lenient words = .ok found) :
    ∃ s, readAll words = .ok s ∧ found = .ofGiven s.given := by
  rcases hread : readAll words with stop | s
  · rw [parse_of_readAll_error hread] at h
    exact absurd h nofun
  · rw [parse_lenient_of_readAll hread] at h
    exact ⟨s, rfl, (Except.ok.inj h).symm⟩

/-- The option without which a configuration fails is the first of those absent. -/
theorem absence_of_head? {items : List Item} {o : PathOption}
    (h : (absentFrom items).head? = some o) :
    o.absence = if Opt.path .filePath ∉ items.map Item.option then "missing --file-path"
      else "missing --output-file" := by
  unfold absentFrom PathOption.all at h
  by_cases hfile : Opt.path .filePath ∈ items.map Item.option
  · rw [if_neg (not_not.2 hfile)]
    rw [List.filter_cons_of_neg (by simpa using hfile)] at h
    obtain rfl := List.mem_singleton.1 (List.mem_of_mem_filter (List.mem_of_head? h))
    rfl
  · rw [if_pos hfile]
    rw [List.filter_cons_of_pos (by simpa using hfile)] at h
    obtain rfl := Option.some.inj h
    rfl

/-- What both commands tell where a configuration fails. -/
theorem told_of_toConfig_eq_error {found : Matches} {o : PathOption}
    (h : parse .lenient words = .ok found) (hconfig : found.toConfig = .error o) :
    ∃ items terminated, words = wordsOf items ++ endOf terminated ∧
      o.absence = (if Opt.path .filePath ∉ items.map Item.option then "missing --file-path"
        else "missing --output-file") ∧
      ∃ stop, parse .standard words = .error stop ∧
        ∀ i, stop.message .standard i = absenceText items := by
  obtain ⟨s, hread, rfl⟩ := readAll_of_parse_lenient h
  obtain ⟨items, hwords, hdistinct, hgiven, -⟩ := settles_iff.1 hread
  have habsent : s.missing = absentFrom items := missing_eq_absentFrom hgiven
  have hfirst : s.missing.head? = some o := toConfig_ofGiven_eq_error_iff.1 hconfig
  have hsome : s.missing ≠ [] := by
    rintro hnone
    rw [hnone] at hfirst
    exact absurd hfirst nofun
  have hseen : s.seen = items.map Item.option := by
    rw [State.seen, hgiven, ← map_option_eq]
  refine ⟨items, s.terminated, hwords, absence_of_head? (habsent ▸ hfirst), _, ?_,
    message_optionsMissing hdistinct⟩
  rw [parse_standard_of_readAll hread, if_neg hsome, habsent, hseen]

end

/-- **The two looks at what is missing agree.**  Whatever the command accepts gives a
configuration.  Against the command that requires nothing: they give the same
configurations; the one stops because something is missing exactly where the other accepts
and no configuration can be made; then both name what is absent; and apart from this they
stop alike. -/
theorem commands_agree (words : List String) :
    (∀ found, parse .standard words = .ok found → ∃ c, found.toConfig = .ok c) ∧
    (∀ c, GivesConfig words c ↔
      ∃ found, parse .lenient words = .ok found ∧ found.toConfig = .ok c) ∧
    ((∃ stop, parse .standard words = .error stop ∧ stop.IsMissing) ↔
      ∃ found o, parse .lenient words = .ok found ∧ found.toConfig = .error o) ∧
    (∀ found o, parse .lenient words = .ok found → found.toConfig = .error o →
      ∃ items terminated, words = wordsOf items ++ endOf terminated ∧
        o.absence = (if Opt.path .filePath ∉ items.map Item.option then "missing --file-path"
          else "missing --output-file") ∧
        ∃ stop, parse .standard words = .error stop ∧
          ∀ i, stop.message .standard i = absenceText items) ∧
    ∀ stop, parse .lenient words = .error stop ↔
      parse .standard words = .error stop ∧ ¬ stop.IsMissing := by
  refine ⟨?_, fun c => givesConfig_iff_lenient, isMissing_iff_lenient, ?_,
    fun stop => parse_lenient_eq_error_iff⟩
  · intro found h
    obtain ⟨c, found', h', hconfig⟩ := givesConfig_of_parse h
    obtain rfl := Except.ok.inj (h.symm.trans h')
    exact ⟨c, hconfig⟩
  · intro found o h hconfig
    exact told_of_toConfig_eq_error h hconfig

end CommandLine

end Docstrings
