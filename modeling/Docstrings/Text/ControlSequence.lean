/-
Docstrings/Text/ControlSequence.lean

Control sequences, and what is visible of a text that may hold some.

A control sequence tells a terminal what to do and is not shown.  It starts with
the escape character, and the character after that says of which kind it is:

    escape [    parameters, then a final character that ends it
    escape P    the same, but the final character starts a string
    escape ]    a command, up to the bell character
    escape X    a string, as after `^` or `_`
    escape      intermediate characters, then a final one that ends it

A string lasts until a character whose encoding holds the octet 9C.  The escape
character starts a new sequence wherever it stands, and the cancel and
substitute characters end any sequence.

Design.  `Stage` is how far into a sequence a text has come, `Stage.advance` is
where a character that is not shown leads, and `Stage.shows` says which characters
are.  Outside of sequences those are all but the control characters of ASCII; of
these, the ones that lay a text out are shown even inside a sequence, unless it
has come to a string.  What then becomes of the sequence is an `Interruption`: a
text that is read as a whole is outside of it, but in a stream it is only set
aside, and the next control character that is not shown takes it up again, unless
a character beyond ASCII has come first.  `Position` holds both the stage and the
sequence set aside.

* `isShown_of_mem_visible` — nothing is left that a terminal would act on.
* `visible_eq_self` — a text without control characters is visible as it is.
* `visible_visible` — what is visible of a text is visible.
-/

namespace Docstrings

namespace Text

/-! ### Kinds of characters -/

/-- Whether the character lays a text out: tab, line feed, form feed and carriage
return. -/
def isLayout (c : Char) : Bool := c = '\t' || c = '\n' || c = '\x0c' || c = '\r'

/-- Whether the character is shown when it stands outside of control sequences. -/
def isShown (c : Char) : Bool := isLayout c || (0x20 ≤ c.toNat && c.toNat ≠ 0x7F)

/-- The characters that may stand before the final one of a sequence. -/
def isIntermediate (c : Char) : Bool := 0x20 ≤ c.toNat && c.toNat ≤ 0x2F

/-- The characters of which parameters are made. -/
def isParameter (c : Char) : Bool := 0x30 ≤ c.toNat && c.toNat ≤ 0x3B

/-- The characters that mark parameters as private, if they stand first. -/
def isPrivateMark (c : Char) : Bool := 0x3C ≤ c.toNat && c.toNat ≤ 0x3F

/-- The characters that end a sequence with parameters. -/
def isFinal (c : Char) : Bool := 0x40 ≤ c.toNat && c.toNat ≤ 0x7E

/-- The characters that end a sequence without parameters. -/
def isEscapeFinal (c : Char) : Bool := 0x30 ≤ c.toNat && c.toNat ≤ 0x7E

/-- Whether the character ends a string. -/
def endsString (c : Char) : Bool := (String.utf8EncodeChar c).contains 0x9C

theorem isShown_of_isLayout {c : Char} (h : isLayout c = true) : isShown c = true := by
  simp [isShown, h]

/-! ### How far a sequence has come -/

/-- How far into a control sequence a text has come. -/
inductive Stage where
  /-- No sequence has started. -/
  | outside
  /-- The escape character. -/
  | escape
  /-- Intermediate characters after the escape character. -/
  | escapeIntermediate
  /-- A sequence with parameters. -/
  | control
  /-- The start of a sequence that comes to a string. -/
  | device
  /-- Its parameters. -/
  | deviceParameter
  /-- Intermediate characters after its parameters. -/
  | deviceIntermediate
  /-- A command. -/
  | command
  /-- A string. -/
  | string
  deriving DecidableEq

namespace Stage

/-- The kind of sequence that the character after the escape character
starts. -/
def ofKind (c : Char) : Stage :=
  if c = '[' then control
  else if c = ']' then command
  else if c = 'P' then device
  else if c = 'X' || c = '^' || c = '_' then string
  else if isIntermediate c then escapeIntermediate
  else if isEscapeFinal c then outside
  else escape

/-- Where a character that is not shown leads.  Characters that have no place in
a sequence are passed over. -/
def advance : Stage → Char → Stage
  | outside, _ => outside
  | escape, c => ofKind c
  | escapeIntermediate, c => if isEscapeFinal c then outside else escapeIntermediate
  | control, c => if isFinal c then outside else control
  | device, c =>
    if isFinal c then string
    else if isParameter c || isPrivateMark c then deviceParameter
    else if isIntermediate c then deviceIntermediate
    else device
  | deviceParameter, c =>
    if isFinal c || isPrivateMark c then string
    else if isIntermediate c then deviceIntermediate
    else deviceParameter
  | deviceIntermediate, c =>
    if isFinal c || isParameter c || isPrivateMark c then string else deviceIntermediate
  | command, c => if c = '\x07' then outside else command
  | string, c => if endsString c then outside else string

/-- Whether a character is shown. -/
def shows : Stage → Char → Bool
  | outside, c => isShown c
  | escape, c => isLayout c
  | escapeIntermediate, c => isLayout c
  | control, c => isLayout c
  | _, _ => false

theorem isShown_of_shows {s : Stage} {c : Char} (h : s.shows c = true) : isShown c = true := by
  cases s
  case outside => exact h
  case escape | escapeIntermediate | control => exact isShown_of_isLayout h
  all_goals simp [shows] at h

end Stage

/-! ### Sequences set aside -/

/-- What becomes of a sequence when a character that lays the text out is shown
inside it. -/
inductive Interruption where
  /-- The sequence is over. -/
  | ends
  /-- The sequence is set aside. -/
  | pauses
  deriving DecidableEq

/-- How far a text has come. -/
structure Position where
  stage : Stage
  /-- How far the sequence had come that is set aside, if there is one. -/
  aside : Stage
  deriving DecidableEq

namespace Position

/-- No sequence has started. -/
def start : Position := ⟨.outside, .outside⟩

/-- After a character that is shown. -/
def pass (i : Interruption) (p : Position) (c : Char) : Position :=
  if p.stage = .outside then if c.toNat < 0x80 then p else start
  else match i with
    | .ends => start
    | .pauses => ⟨.outside, p.stage⟩

/-- After a character that is not shown.  The cancel and substitute characters
end any sequence, and the escape character starts one. -/
def advance (p : Position) (c : Char) : Position :=
  if c = '\x18' || c = '\x1a' then start
  else if c = '\x1b' then ⟨.escape, .outside⟩
  else if p.stage = .outside then ⟨p.aside, .outside⟩
  else ⟨p.stage.advance c, .outside⟩

/-- What is shown is followed by text, not by a sequence. -/
@[simp] theorem stage_pass (i : Interruption) (p : Position) (c : Char) :
    (p.pass i c).stage = .outside := by
  unfold pass
  split
  · rename_i h
    split
    · exact h
    · rfl
  · cases i <;> rfl

end Position

/-! ### What is visible -/

/-- What is visible of the rest of a text that has come to a position. -/
def visibleFrom (i : Interruption) (p : Position) : List Char → List Char
  | [] => []
  | c :: rest =>
    if p.stage.shows c then c :: visibleFrom i (p.pass i c) rest
    else visibleFrom i (p.advance c) rest

/-- What a terminal shows of a text. -/
def visible (i : Interruption) (text : String) : String :=
  String.ofList (visibleFrom i .start text.toList)

theorem isShown_of_mem_visibleFrom {i : Interruption} {p : Position} {text : List Char} {c : Char}
    (h : c ∈ visibleFrom i p text) : isShown c = true := by
  fun_induction visibleFrom i p text with
  | case1 => simp at h
  | case2 p d rest hshows ih =>
    rcases List.mem_cons.1 h with rfl | hrest
    · exact Stage.isShown_of_shows hshows
    · exact ih hrest
  | case3 p d rest _ ih => exact ih h

theorem visibleFrom_eq_self {i : Interruption} {p : Position} {text : List Char}
    (hp : p.stage = .outside) (h : ∀ c ∈ text, isShown c = true) :
    visibleFrom i p text = text := by
  induction text generalizing p with
  | nil => rfl
  | cons c rest ih =>
    obtain ⟨hc, hrest⟩ := List.forall_mem_cons.1 h
    simp [visibleFrom, hp, Stage.shows, hc, ih (Position.stage_pass i p c) hrest]

/-- Nothing that is visible is a control character, but for those that lay the
text out. -/
theorem isShown_of_mem_visible {i : Interruption} {text : String} {c : Char}
    (h : c ∈ (visible i text).toList) : isShown c = true :=
  isShown_of_mem_visibleFrom (by simpa [visible] using h)

/-- A text without control characters is visible as it is. -/
theorem visible_eq_self {i : Interruption} {text : String}
    (h : ∀ c ∈ text.toList, isShown c = true) : visible i text = text := by
  simp [visible, visibleFrom_eq_self (p := .start) rfl h]

/-- What is visible of a text is visible. -/
@[simp] theorem visible_visible (i j : Interruption) (text : String) :
    visible i (visible j text) = visible j text :=
  visible_eq_self fun _ => isShown_of_mem_visible

end Text

end Docstrings
