/-
Docstrings/Proofs/CommandLine/Items.lean

Command lines as lists of items.

An item is an option with all that belongs to it: a switch, or a path option with
its value, in the same word after an equals sign or as the next word.  The words of
some items, one after the other, are a command line, which may end in two dashes
alone.

An item is its own proof that it can stand in a command line: its value is not empty,
and if it is a word of its own, it does not look like an option.

* `words_append_inj`, `wordsOf_append_inj` — a command line is the words of one list
  of items only.
-/
import Docstrings.Proofs.CommandLine.Steps

namespace Docstrings

namespace CommandLine

/-! ### Items -/

/-- An option of a command line, with its value if it is one that has a value. -/
inductive Item where
  /-- A path option and its value in one word, with an equals sign between them. -/
  | attached (o : PathOption) (value : String) (nonempty : value ≠ "")
  /-- A path option, and its value as the next word. -/
  | separate (o : PathOption) (value : String) (nonempty : value ≠ "") (plain : IsPlain value)
  | verbose

namespace Item

/-- What an item gives. -/
def given : Item → Given
  | attached o value _ => .path o value
  | separate o value .. => .path o value
  | verbose => .verbose

/-- The option of an item. -/
def option (i : Item) : Opt := i.given.option

/-- The words of an item. -/
def words : Item → List String
  | attached o value _ => ["--" ++ o.name ++ "=" ++ value]
  | separate o value .. => ["--" ++ o.name, value]
  | verbose => ["--verbose"]

theorem words_attached (o : PathOption) (value : String) (h : value ≠ "") :
    (attached o value h).words = [(Given.path o value).word] := rfl

theorem words_separate (o : PathOption) (value : String) (h : value ≠ "") (hp : IsPlain value) :
    (separate o value h hp).words = [(Opt.path o).word, value] := rfl

theorem words_verbose : verbose.words = [Given.verbose.word] := rfl

/-- The form of the first word of an item tells which item it is, but for a value that
is a word of its own. -/
def form : Item → Word
  | attached o value _ => .long o.name.toList (some value)
  | separate o .. => .long o.name.toList none
  | verbose => .long Opt.verbose.name.toList none

theorem ofChars_head (i : Item) :
    ∃ word rest, i.words = word :: rest ∧ Word.ofChars word.toList = i.form := by
  cases i with
  | attached o value h => exact ⟨_, _, rfl, (Given.path o value).ofChars_word⟩
  | separate o value h hp => exact ⟨_, _, rfl, (Opt.path o).ofChars_word⟩
  | verbose => exact ⟨_, _, rfl, Opt.verbose.ofChars_word⟩

end Item

/-- The words of some items, one after the other. -/
def wordsOf (items : List Item) : List String := items.flatMap Item.words

@[simp] theorem wordsOf_nil : wordsOf [] = [] := rfl

@[simp] theorem wordsOf_cons (i : Item) (items : List Item) :
    wordsOf (i :: items) = i.words ++ wordsOf items := rfl

@[simp] theorem wordsOf_append (a b : List Item) : wordsOf (a ++ b) = wordsOf a ++ wordsOf b :=
  List.flatMap_append

/-- The words that end the options, if they are ended. -/
def endOf (terminated : Bool) : List String := if terminated then ["--"] else []

@[simp] theorem endOf_false : endOf false = [] := rfl

@[simp] theorem endOf_true : endOf true = ["--"] := rfl

/-! ### One reading of a command line -/

theorem PathOption.name_injective {o o' : PathOption} (h : o.name.toList = o'.name.toList) :
    o = o' := by
  have hsome := (Opt.path o).ofName?_name
  rw [show (Opt.path o).name.toList = (Opt.path o').name.toList from h, Opt.ofName?_name] at hsome
  exact (Opt.path.inj (Option.some.inj hsome)).symm

/-- Two items that lines start with are the same if the lines are. -/
theorem Item.words_append_inj {i j : Item} {a b : List String}
    (h : i.words ++ a = j.words ++ b) : i = j ∧ a = b := by
  obtain ⟨word, rest, hi, hiform⟩ := i.ofChars_head
  obtain ⟨word', rest', hj, hjform⟩ := j.ofChars_head
  have hform : i.form = j.form := by
    rw [hi, hj] at h
    rw [← hiform, ← hjform, (List.cons.inj h).1]
  cases i with
  | attached o value hne =>
    cases j with
    | attached o' value' hne' =>
      obtain ⟨hname, hvalue⟩ := Word.long.inj hform
      obtain rfl := PathOption.name_injective hname
      obtain rfl := Option.some.inj hvalue
      exact ⟨rfl, (List.cons.inj h).2⟩
    | separate => exact absurd (Word.long.inj hform).2 nofun
    | verbose => exact absurd (Word.long.inj hform).2 nofun
  | separate o value hne hplain =>
    cases j with
    | attached => exact absurd (Word.long.inj hform).2 nofun
    | separate o' value' hne' hplain' =>
      obtain rfl := PathOption.name_injective (Word.long.inj hform).1
      -- the values are the words after the options
      obtain ⟨rfl, hrest⟩ := List.cons.inj (List.cons.inj h).2
      exact ⟨rfl, hrest⟩
    | verbose => exact absurd (Word.long.inj hform).1 (by cases o <;> decide)
  | verbose =>
    cases j with
    | attached => exact absurd (Word.long.inj hform).2 nofun
    | separate o' => exact absurd (Word.long.inj hform).1 (by cases o' <;> decide)
    | verbose => exact ⟨rfl, (List.cons.inj h).2⟩

theorem Item.words_append_ne_endOf (i : Item) (a : List String) (terminated : Bool) :
    i.words ++ a ≠ endOf terminated := by
  obtain ⟨word, rest, hi, hform⟩ := i.ofChars_head
  intro h
  rw [hi] at h
  cases terminated with
  | false => exact absurd h nofun
  | true =>
    -- two dashes alone are no option
    obtain ⟨rfl, -⟩ := List.cons.inj h
    cases i <;> exact absurd hform nofun

/-- A command line is the words of one list of items only. -/
theorem wordsOf_append_inj {a b : List Item} {e e' : Bool}
    (h : wordsOf a ++ endOf e = wordsOf b ++ endOf e') : a = b ∧ e = e' := by
  induction a generalizing b with
  | nil =>
    cases b with
    | nil =>
      refine ⟨rfl, ?_⟩
      cases e <;> cases e' <;> simp_all
    | cons j b =>
      rw [wordsOf_cons, List.append_assoc] at h
      exact absurd h.symm (j.words_append_ne_endOf _ e)
  | cons i a ih =>
    rw [wordsOf_cons, List.append_assoc] at h
    cases b with
    | nil => exact absurd h (i.words_append_ne_endOf _ e')
    | cons j b =>
      rw [wordsOf_cons, List.append_assoc] at h
      obtain ⟨rfl, hrest⟩ := Item.words_append_inj h
      obtain ⟨rfl, rfl⟩ := ih hrest
      exact ⟨rfl, rfl⟩

end CommandLine

end Docstrings
