/-
Docstrings/Proofs/Program/Verbosity.lean

What the settings of the log change, and what they do not.

Two runs are compared: one with a command line that does not ask for more to be told,
and one with the switch put between two of its items.  The settings of the log may
differ too.  The extraction is the same in both, so both end alike and leave the same
tree.  What differs is what they tell:

* where the setting decides, both tell the same events, but that the one that shows
  the configuration shows the switch as well;
* where it does not, the run without the switch tells what the other one tells, less
  the events for debugging.

* `givesConfig_insert` — what the switch changes in a configuration.
* `told_eq_filter`, `told_eq_map` — what it changes in the events.
* `verbose_observes` — the two runs.
-/
import Docstrings.Proofs.Program.Endings

namespace Docstrings

open CommandLine Files
open Log (Event Filter Threshold Level Directive)

/-! ### The switch on the command line -/

namespace CommandLine

theorem givenFor_verbose {c : Config} (h : c.verbose = false) :
    (Given.verbose :: givenFor c).Perm (givenFor { c with verbose := true }) := by
  unfold givenFor
  rw [h]
  exact List.perm_append_singleton Given.verbose _ |>.symm

section

variable {before after : List Item} {terminated : Bool} {c : Config}

/-- The items of a command line that gives a configuration give all that it takes. -/
theorem perm_of_givesConfig {items : List Item}
    (h : GivesConfig (wordsOf items ++ endOf terminated) c) :
    (items.map Item.given).Perm (givenFor c) := by
  obtain ⟨items', terminated', hwords, hperm⟩ := givesConfig_iff.1 h
  obtain ⟨rfl, -⟩ := wordsOf_append_inj hwords
  exact hperm

/-- Without the switch among the words, the configuration does not ask for more. -/
theorem verbose_eq_false {items : List Item}
    (h : GivesConfig (wordsOf items ++ endOf terminated) c)
    (hquiet : "--verbose" ∉ wordsOf items ++ endOf terminated) : c.verbose = false := by
  by_contra hverbose
  have hmem : Given.verbose ∈ givenFor c :=
    mem_givenFor_iff.2 (.inr (.inr ⟨rfl, by simpa using hverbose⟩))
  obtain ⟨i, hi, hgiven⟩ := List.mem_map.1 ((perm_of_givesConfig h).mem_iff.2 hmem)
  -- an item that gives the switch is the word of the switch
  obtain rfl : i = .verbose := by
    cases i with
    | verbose => rfl
    | _ => exact absurd hgiven nofun
  have hword : "--verbose" ∈ wordsOf items :=
    List.mem_flatMap.2 ⟨_, hi, List.mem_singleton.2 rfl⟩
  exact hquiet (List.mem_append_left _ hword)

/-- The switch may be put between any two items, and then more is asked for. -/
theorem givesConfig_insert
    (h : GivesConfig (wordsOf (before ++ after) ++ endOf terminated) c)
    (hverbose : c.verbose = false) :
    GivesConfig (wordsOf (before ++ .verbose :: after) ++ endOf terminated)
      { c with verbose := true } := by
  refine givesConfig_iff.2 ⟨_, terminated, rfl, ?_⟩
  have hfront : ((before ++ .verbose :: after).map Item.given).Perm
      (.verbose :: (before ++ after).map Item.given) :=
    List.perm_middle.map Item.given
  exact hfront.trans (((perm_of_givesConfig h).cons _).trans (givenFor_verbose hverbose))

end

end CommandLine

/-! ### The switch in what is told -/

namespace Program

/-- The setting does not decide what is told: there is none, or it is spoiled. -/
def Undecided (setting? : Option String) : Prop := setting?.bind Directive.parse? = none

theorem ofSetting_of_undecided {setting? : Option String} (h : Undecided setting?)
    (verbose : Bool) :
    Filter.ofSetting verbose setting? = .uniform (Filter.defaultLevel verbose) := by
  unfold Undecided at h
  unfold Filter.ofSetting
  rw [h]

/-- Where the setting decides, the switch does not. -/
theorem ofSetting_congr {setting? : Option String} (h : ¬ Undecided setting?) (a b : Bool) :
    Filter.ofSetting a setting? = Filter.ofSetting b setting? := by
  unfold Undecided at h
  unfold Filter.ofSetting
  rcases hparse : setting?.bind Directive.parse? with - | ds
  · exact absurd hparse h
  · rfl

/-- Up to the level of information, all is shown that is shown for debugging, but for what
is only for debugging. -/
theorem shown_uniform_info (events : List Event) :
    (Filter.uniform .info).shown events
      = ((Filter.uniform .debug).shown events).filter fun e => e.level ≠ .debug := by
  unfold Filter.shown
  rw [List.filter_filter]
  refine List.filter_congr fun e _ => ?_
  rw [Filter.threshold_uniform, Filter.threshold_uniform]
  cases e.level <;> decide

/-- What is not only for debugging is told alike. -/
theorem filter_map_withVerbose (events : List Event) (verbose : Bool) :
    (events.map (Event.withVerbose verbose)).filter (fun e => e.level ≠ .debug)
      = events.filter fun e => e.level ≠ .debug := by
  rw [List.filter_map]
  have hlevel : ((fun e : Event => decide (e.level ≠ .debug)) ∘ Event.withVerbose verbose)
      = fun e => decide (e.level ≠ .debug) := by
    funext e
    simp
  rw [hlevel]
  refine (List.map_congr_left fun e he => ?_).trans (List.map_id _)
  exact Event.withVerbose_of_level_ne_debug (by simpa using (List.mem_filter.1 he).2) verbose

theorem shown_map_withVerbose (f : Filter) (events : List Event) (verbose : Bool) :
    f.shown (events.map (Event.withVerbose verbose))
      = (f.shown events).map (Event.withVerbose verbose) := by
  unfold Filter.shown
  rw [List.filter_map]
  congr 1
  refine List.filter_congr fun e _ => ?_
  simp

section

variable (c : Config) (t : Tree)

/-- All that there is to tell, with the switch and without it. -/
theorem eventsOf_append_failureOf_verbose (verbose : Bool) :
    eventsOf { c with verbose } t ++ failureOf (outcome { c with verbose } t).1
      = (eventsOf c t ++ failureOf (outcome c t).1).map (Event.withVerbose verbose) := by
  have hfailure : (failureOf (outcome c t).1).map (Event.withVerbose verbose)
      = failureOf (outcome c t).1 := by
    rcases (outcome c t).1 with e | summary
    · rfl
    · rfl
  rw [List.map_append, hfailure, eventsOf_verbose, outcome_verbose]

/-- Where the setting decides, the switch shows in the configuration only. -/
theorem told_eq_map {setting? : Option String} (h : ¬ Undecided setting?) :
    told { c with verbose := true } setting? t
      = (told c setting? t).map (Event.withVerbose true) := by
  unfold told
  rw [eventsOf_append_failureOf_verbose, shown_map_withVerbose, ofSetting_congr h true c.verbose]

/-- Where it does not, what is told without the switch is told with it, and more is told
for debugging only. -/
theorem told_eq_filter (hverbose : c.verbose = false) {setting? setting'? : Option String}
    (h : Undecided setting?) (h' : Undecided setting'?) :
    told c setting? t
      = (told { c with verbose := true } setting'? t).filter fun e => e.level ≠ .debug := by
  let events := eventsOf c t ++ failureOf (outcome c t).1
  have hquiet : told c setting? t = (Filter.uniform .info).shown events := by
    rw [told, ofSetting_of_undecided h, hverbose]
    rfl
  have hloud : told { c with verbose := true } setting'? t
      = ((Filter.uniform .debug).shown events).map (Event.withVerbose true) := by
    rw [told, ofSetting_of_undecided h', eventsOf_append_failureOf_verbose,
      shown_map_withVerbose]
    rfl
  calc told c setting? t
      = (Filter.uniform .info).shown events := hquiet
    _ = ((Filter.uniform .debug).shown events).filter fun e => e.level ≠ .debug :=
      shown_uniform_info events
    _ = (((Filter.uniform .debug).shown events).map (Event.withVerbose true)).filter
          fun e => e.level ≠ .debug := (filter_map_withVerbose _ true).symm
    _ = (told { c with verbose := true } setting'? t).filter fun e => e.level ≠ .debug := by
      rw [hloud]

end

/-! ### Two runs -/

/-- Two runs that do the same: the one without the switch, for the configuration `c` and
the first setting, and the one with the switch and the second setting. -/
structure SameButTold (c : Config) (setting? setting'? : Option String) (t : Tree)
    (quiet loud : Outcome × Tree) : Prop where
  exitCode_eq : loud.1.exitCode = quiet.1.exitCode
  stdout_eq : loud.1.stdout = quiet.1.stdout
  tree_eq : loud.2 = quiet.2
  /-- What is told without the switch. -/
  stderr_quiet : quiet.1.stderr = Log.linesOf (told c setting? t)
  /-- What is told with it. -/
  stderr_loud : loud.1.stderr = Log.linesOf (told { c with verbose := true } setting'? t)
  /-- Without a good setting, what is told less is what is for debugging. -/
  filter_eq : Undecided setting? → Undecided setting'? →
    told c setting? t
      = (told { c with verbose := true } setting'? t).filter fun e => e.level ≠ .debug
  /-- With the same good setting, the configuration alone is told with a difference. -/
  map_eq : ¬ Undecided setting? → setting'? = setting? →
    told { c with verbose := true } setting'? t
      = (told c setting? t).map (Event.withVerbose true)

/-- **The settings of the log only observe.**  The switch put between two items of a
command line that is accepted without it, and another setting of the log, change
nothing but what is told on the standard error. -/
theorem verbose_observes {before after : List Item} {terminated : Bool} {c : Config}
    (haccepted : GivesConfig (wordsOf before ++ wordsOf after ++ endOf terminated) c)
    (hquiet : "--verbose" ∉ wordsOf before ++ wordsOf after ++ endOf terminated)
    (setting? setting'? : Option String) (t : Tree) :
    SameButTold c setting? setting'? t
      (runOn (wordsOf before ++ wordsOf after ++ endOf terminated) setting? t)
      (runOn (wordsOf before ++ ["--verbose"] ++ wordsOf after ++ endOf terminated)
        setting'? t) := by
  have hwords : wordsOf before ++ wordsOf after ++ endOf terminated
      = wordsOf (before ++ after) ++ endOf terminated := by
    rw [wordsOf_append]
  have hwords' : wordsOf before ++ ["--verbose"] ++ wordsOf after ++ endOf terminated
      = wordsOf (before ++ .verbose :: after) ++ endOf terminated := by
    rw [wordsOf_append, wordsOf_cons, List.append_assoc (wordsOf before)]
    rfl
  rw [hwords] at haccepted hquiet
  have hverbose := verbose_eq_false haccepted hquiet
  have hquietRun := runOn_of_givesConfig setting? t haccepted
  have hloudRun := runOn_of_givesConfig setting'? t (givesConfig_insert haccepted hverbose)
  rw [outcome_verbose] at hloudRun
  rw [hwords, hwords', hquietRun, hloudRun]
  refine ⟨rfl, rfl, rfl, rfl, rfl, told_eq_filter c t hverbose, ?_⟩
  rintro hdecided rfl
  exact told_eq_map c t hdecided

/-- Runs on a file with one docstring, with the switch after the input file or without it:
two by settings that do not decide, since one is missing and the other names no level, and
two by the same setting, which shows the configuration and all of the scan. -/
theorem verbose_observes_scan :
    GivesConfig ["--file-path=a.py", "--output-file", "o.md", "--"] ⟨"a.py", "o.md", false⟩ ∧
    "--verbose" ∉ ["--file-path=a.py", "--output-file", "o.md", "--"] ∧
    let input := (Location.root.child "work").child "a.py"
    let t := Tree.fresh.put input (.file (Text.encode "'''\nx\n'''\n"))
    let quiet := runOn ["--file-path=a.py", "--output-file", "o.md", "--"]
    let loud := runOn ["--file-path=a.py", "--verbose", "--output-file", "o.md", "--"]
    let spoiled? := some "docstring_scanner=loud"
    let good? := some "docstring_scanner=trace,extract_docstrings=debug"
    SameButTold ⟨"a.py", "o.md", false⟩ none spoiled? t (quiet none t) (loud spoiled? t) ∧
    told ⟨"a.py", "o.md", false⟩ none t
      = (told ⟨"a.py", "o.md", true⟩ spoiled? t).filter (fun e => e.level ≠ .debug) ∧
    SameButTold ⟨"a.py", "o.md", false⟩ good? good? t (quiet good? t) (loud good? t) ∧
    told ⟨"a.py", "o.md", true⟩ good? t
      = (told ⟨"a.py", "o.md", false⟩ good? t).map (Event.withVerbose true) := by
  have haccepted : GivesConfig ["--file-path=a.py", "--output-file", "o.md", "--"]
      ⟨"a.py", "o.md", false⟩ := ⟨⟨some "a.py", some "o.md", false⟩, by rfl, by rfl⟩
  have hquiet : "--verbose" ∉ ["--file-path=a.py", "--output-file", "o.md", "--"] := by decide
  let file : Item := .attached .filePath "a.py" (by decide)
  let output : Item := .separate .outputFile "o.md" (by decide) (.inr (by decide))
  refine ⟨haccepted, hquiet, ?_⟩
  intro input t quiet loud spoiled? good?
  have hspoiled : Undecided spoiled? := by rfl
  have hgood : ¬ Undecided good? := nofun
  have hundecided : SameButTold ⟨"a.py", "o.md", false⟩ none spoiled? t
      (quiet none t) (loud spoiled? t) :=
    @verbose_observes [file] [output] true _ haccepted hquiet none spoiled? t
  have hdecided : SameButTold ⟨"a.py", "o.md", false⟩ good? good? t
      (quiet good? t) (loud good? t) :=
    @verbose_observes [file] [output] true _ haccepted hquiet good? good? t
  exact ⟨hundecided, hundecided.filter_eq rfl hspoiled, hdecided, hdecided.map_eq hgood rfl⟩

end Program

end Docstrings
