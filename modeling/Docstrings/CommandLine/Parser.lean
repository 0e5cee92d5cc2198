/-
Docstrings/CommandLine/Parser.lean

Reading a command line.

The words are read from left to right.  A path option without an equals sign
waits for its value, which is the next plain word; the option counts as given only
when the next option, or the end, is reached.  Help and version are answered as
soon as they are met, if nothing before them is wrong.

Design.  `State` is what has been read so far: the options given, in order and
with their values, the option that waits (or has its value and is not yet
given), and whether the options have ended.  `State.step` reads one word, and
`parse` folds it over the command line.  `State.give` and `State.flush` return a
state beside their error, since one kind of error, an unknown option, is worded by
what had been given even if that was wrong.

* `readWords_append` — a command line is read word by word.
* `Matches.toConfig_eq_ok_iff` — what has to be given for a configuration.
-/
import Docstrings.CommandLine.Usage
import Docstrings.CommandLine.Word
import Docstrings.Config
import Docstrings.Text.Similarity

namespace Docstrings

namespace CommandLine

/-! ### What has been read -/

/-- An option as it was given. -/
inductive Given where
  | path (o : PathOption) (value : String)
  | verbose
  deriving DecidableEq

namespace Given

/-- The option that was given. -/
def option : Given → Opt
  | path o _ => .path o
  | verbose => .verbose

/-- The error in the option's value, if it has one. -/
def error? : Given → Option UsageError
  | path o value => if value = "" then some (.valueMissing o) else none
  | verbose => none

/-- The value, if it is one for this path option. -/
def valueFor? (o : PathOption) : Given → Option String
  | path o' value => if o' = o then some value else none
  | verbose => none

end Given

/-- A path option that waits for its value, or has it and is not yet given. -/
structure Pending where
  option : PathOption
  value? : Option String
  deriving DecidableEq

/-- What has been read of a command line. -/
structure State where
  /-- The options given, in order. -/
  given : List Given
  pending? : Option Pending
  /-- Whether the options have ended. -/
  terminated : Bool
  deriving DecidableEq

namespace State

/-- Nothing has been read. -/
def initial : State := ⟨[], none, false⟩

/-- The options given, in order. -/
def seen (s : State) : List Opt := s.given.map Given.option

/-- The options given, and one more if it is not among them. -/
def seenWith (s : State) (o : Opt) : List Opt := if o ∈ s.seen then s.seen else s.seen ++ [o]

/-! ### Giving options -/

/-- Count an option as given.  One that is given already is then no longer
given. -/
def give (s : State) (g : Given) : State × Option UsageError :=
  if g.option ∈ s.seen then
    ({ s with given := s.given.filter fun g' => g'.option ≠ g.option }, some (.repeated g.option))
  else ({ s with given := s.given ++ [g] }, g.error?)

/-- Count the option that waits as given. -/
def flush (s : State) : State × Option UsageError :=
  match s.pending? with
  | none => (s, none)
  | some ⟨o, none⟩ => ({ s with pending? := none }, some (.valueMissing o))
  | some ⟨o, some value⟩ => { s with pending? := none }.give (.path o value)

end State

/-- A state, unless there is an error beside it. -/
def settled (r : State × Option UsageError) : Except Stop State :=
  match r.2 with
  | none => .ok r.1
  | some e => .error (.usage e)

/-! ### Tips -/

/-- How alike a word has to be to an option to be taken for it. -/
def tipThreshold : Float := 0.7

/-- The option that looks most like a word, if one looks like it enough; of two
that look like it equally, the later one. -/
def tip? (name : List Char) : Option Opt :=
  let alike (o : Opt) := Text.similarity name o.name.toList
  (Opt.all.filter fun o => alike o > tipThreshold).foldl
    (fun best? o =>
      match best? with
      | none => some o
      | some best => if alike o < alike best then some best else some o)
    none

namespace State

/-! ### Reading a word -/

/-- Read a long option that is known. -/
def stepKnown (s : State) (o : Opt) (value? : Option String) : Except Stop State :=
  match o, value? with
  | .path o, none => (settled s.flush).map fun s => { s with pending? := some ⟨o, none⟩ }
  | .path o, some value => (settled s.flush).bind fun s => settled (s.give (.path o value))
  | .verbose, none => (settled s.flush).bind fun s => settled (s.give .verbose)
  | .help, none => (settled s.flush).bind fun _ => .error .help
  | .version, none => (settled s.flush).bind fun _ => .error .version
  | o, some value => .error (.usage (.valueUnwanted o value (s.seenWith o)))

/-- The error for a long option that is not known.  An error in the option that
waits is passed over. -/
def unknownLong (s : State) (name : List Char) : UsageError :=
  let s := s.flush.1
  let tip? := tip? name
  .unknownArgument ("--" ++ String.ofList name) tip?
    (match tip? with
      | none => s.seen
      | some o => s.seenWith o)

/-- Read a long option. -/
def stepLong (s : State) (name : List Char) (value? : Option String) : Except Stop State :=
  match Opt.ofName? name with
  | some o => s.stepKnown o value?
  | none => .error (.usage (s.unknownLong name))

/-- Read a short option. -/
def stepShort (s : State) (letter : Char) : Except Stop State :=
  if letter = 'h' then s.stepKnown .help none
  else if letter = 'V' then s.stepKnown .version none
  else .error (.usage (.unknownArgument (String.ofList ['-', letter]) none []))

/-- Read a plain word: the value of the option that waits for one. -/
def stepPlain (s : State) (word : String) : Except Stop State :=
  match s.pending? with
  | some ⟨o, none⟩ => .ok { s with pending? := some ⟨o, some word⟩ }
  | _ => .error (.usage (.unknownArgument word none []))

/-- Read one word. -/
def step (s : State) (word : String) : Except Stop State :=
  if s.terminated then .error (.usage (.unknownArgument word none []))
  else match Word.ofChars word.toList with
    | .terminator => .ok { s with terminated := true }
    | .long name value? => s.stepLong name value?
    | .short letter => s.stepShort letter
    | .plain => s.stepPlain word

/-- The path options that are not given. -/
def missing (s : State) : List PathOption :=
  PathOption.all.filter fun o => Opt.path o ∉ s.seen

/-- What is wrong with a command line that ends here, if required options are
missing. -/
def requirement (cmd : Command) (s : State) : Except Stop State :=
  if cmd.pathsRequired ∧ s.missing ≠ [] then .error (.usage (.optionsMissing s.missing s.seen))
  else .ok s

/-- Come to the end of the command line. -/
def finish (cmd : Command) (s : State) : Except Stop State :=
  (settled s.flush).bind (requirement cmd)

end State

/-! ### The whole command line -/

/-- What a command line gives. -/
structure Matches where
  filePath? : Option Path
  outputFile? : Option Path
  verbose : Bool
  deriving DecidableEq

/-- What the options given come to. -/
def Matches.ofGiven (given : List Given) : Matches where
  filePath? := given.findSome? (Given.valueFor? .filePath)
  outputFile? := given.findSome? (Given.valueFor? .outputFile)
  verbose := .verbose ∈ given

/-- Read words, one after the other. -/
def readWords (s : State) : List String → Except Stop State
  | [] => .ok s
  | word :: words => (s.step word).bind fun s' => readWords s' words

/-- Read a command line. -/
def parse (cmd : Command) (words : List String) : Except Stop Matches :=
  ((readWords .initial words).bind (State.finish cmd)).map fun s => .ofGiven s.given

@[simp] theorem readWords_nil (s : State) : readWords s [] = .ok s := rfl

theorem readWords_cons (s : State) (word : String) (words : List String) :
    readWords s (word :: words) = (s.step word).bind fun s' => readWords s' words := rfl

/-- A command line is read word by word. -/
theorem readWords_append (s : State) (a b : List String) :
    readWords s (a ++ b) = (readWords s a).bind fun s' => readWords s' b := by
  induction a generalizing s with
  | nil => rfl
  | cons word a ih =>
    rw [List.cons_append, readWords_cons, readWords_cons]
    rcases s.step word with stop | s'
    · rfl
    · exact ih s'

/-! ### Configurations -/

/-- The wording for a path option without which there is no configuration. -/
def PathOption.absence (o : PathOption) : String := "missing --" ++ o.name

/-- The configuration that a command line gives, or the path option that is
missing for it. -/
def Matches.toConfig (m : Matches) : Except PathOption Config :=
  match m.filePath?, m.outputFile? with
  | none, _ => .error .filePath
  | some _, none => .error .outputFile
  | some filePath, some outputFile => .ok ⟨filePath, outputFile, m.verbose⟩

theorem Matches.toConfig_eq_ok_iff {m : Matches} {c : Config} :
    m.toConfig = .ok c ↔ m = ⟨some c.filePath, some c.outputFile, c.verbose⟩ := by
  rcases m with ⟨- | f, - | o, v⟩ <;> rcases c with ⟨f', o', v'⟩ <;> simp [toConfig]

end CommandLine

end Docstrings
