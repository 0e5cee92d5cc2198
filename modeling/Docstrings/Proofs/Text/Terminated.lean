/-
Docstrings/Proofs/Text/Terminated.lean

Texts cut line by line, from the front.

`lines` is defined by way of all pieces of a text.  Most arguments want to take
one line off the text instead: up to the first line feed, and then the rest.

    lines (l ++ '\n' :: rest) = dropReturn l :: lines rest

A text is *terminated* if each of its lines is followed by a line feed; such
texts are put one after the other without a change to their lines.

* `lines_append_feed` — one line off the front.
* `text_induction` — a text is its last line, or a line and a line feed in front of a
  text.
* `lines_append` — what comes behind the end of a line starts a line of its own.
* `lines_afterLine` — the lines behind the first so many.
* `lines_terminated` — terminated lines are read back as they were.
* `feed_not_mem_of_mem_lines` — no line holds a line feed.
-/
import Docstrings.Text.Line

namespace Docstrings

namespace Text

/-! ### Pieces hold no line feed -/

theorem pieces_cons_feed (cs : List Char) : pieces ('\n' :: cs) = [] :: pieces cs := by
  simp [pieces, List.splitOn_cons_eq_if_modifyHead]

theorem pieces_cons_of_ne {c : Char} {cs : List Char} {first : Line} {rest : List Line}
    (hc : c ≠ '\n') (hcs : pieces cs = first :: rest) :
    pieces (c :: cs) = (c :: first) :: rest := by
  unfold pieces at hcs ⊢
  simp [List.splitOn_cons_eq_if_modifyHead, hc, hcs]

theorem feed_not_mem_of_mem_pieces {text : List Char} {l : Line} (h : l ∈ pieces text) :
    '\n' ∉ l := by
  induction text generalizing l with
  | nil =>
    obtain rfl : l = [] := by simpa using h
    simp
  | cons c cs ih =>
    obtain ⟨first, rest, hcs⟩ := List.exists_cons_of_ne_nil (pieces_ne_nil cs)
    rw [hcs] at ih
    by_cases hc : c = '\n'
    · -- a line feed ends an empty piece
      rw [hc, pieces_cons_feed, hcs] at h
      rcases List.mem_cons.1 h with rfl | h
      · simp
      · exact ih h
    · rw [pieces_cons_of_ne hc hcs] at h
      rcases List.mem_cons.1 h with rfl | h
      · have hmem : '\n' ∉ first := ih (List.mem_cons_self)
        simp [Ne.symm hc, hmem]
      · exact ih (List.mem_cons_of_mem first h)

theorem mem_of_mem_dropReturn {l : Line} {c : Char} (h : c ∈ dropReturn l) : c ∈ l := by
  unfold dropReturn at h
  split at h
  · exact List.dropLast_subset l h
  · exact h

/-! ### One line off the front -/

theorem pieces_append_feed {l : Line} (rest : List Char) (h : '\n' ∉ l) :
    pieces (l ++ '\n' :: rest) = l :: pieces rest :=
  List.splitOn_append_cons_self_of_not_mem h rest

/-- The first line of a text is what comes before the first line feed. -/
theorem lines_append_feed {l : Line} (rest : List Char) (h : '\n' ∉ l) :
    lines (l ++ '\n' :: rest) = dropReturn l :: lines rest := by
  obtain ⟨first, more, hrest⟩ := List.exists_cons_of_ne_nil (pieces_ne_nil rest)
  rw [lines, pieces_append_feed rest h, lines, hrest]
  rfl

theorem pieces_of_feed_not_mem {l : Line} (h : '\n' ∉ l) : pieces l = [l] := by
  have hpieces : pieces (joined [l]) = [l] := pieces_joined (by simp) (by simpa using h)
  rwa [joined_singleton] at hpieces

theorem lines_of_feed_not_mem {l : Line} (h : '\n' ∉ l) :
    lines l = if l = [] then [] else [l] := by
  rw [lines, pieces_of_feed_not_mem h, linesOfPieces]

theorem eq_of_mem_lines {l m : Line} (h : '\n' ∉ m) (hl : l ∈ lines m) : l = m := by
  rw [lines_of_feed_not_mem h] at hl
  by_cases hnil : m = []
  · simp [hnil] at hl
  · simpa [hnil] using hl

/-- A text is its last line, or a line and a line feed in front of a text. -/
@[elab_as_elim]
theorem text_induction {motive : List Char → Prop} (last : ∀ l, '\n' ∉ l → motive l)
    (feed : ∀ l rest, '\n' ∉ l → motive rest → motive (l ++ '\n' :: rest))
    (text : List Char) : motive text := by
  suffices h : ∀ ps : List Line, ps ≠ [] → (∀ p ∈ ps, '\n' ∉ p) → motive (joined ps) by
    rw [← joined_pieces text]
    exact h (pieces text) (pieces_ne_nil text) fun _ => feed_not_mem_of_mem_pieces
  intro ps hne hps
  induction ps with
  | nil => exact absurd rfl hne
  | cons p ps ih =>
    by_cases hrest : ps = []
    · rw [hrest, joined_singleton]
      exact last p (hps p (by simp))
    · rw [joined_cons p hrest]
      exact feed p (joined ps) (hps p (by simp))
        (ih hrest fun q hq => hps q (List.mem_cons_of_mem p hq))

theorem feed_not_mem_of_mem_lines {text : List Char} {l : Line} (h : l ∈ lines text) :
    '\n' ∉ l := by
  induction text using text_induction with
  | last m hm =>
    obtain rfl := eq_of_mem_lines hm h
    exact hm
  | feed m rest hm ih =>
    rw [lines_append_feed rest hm] at h
    rcases List.mem_cons.1 h with rfl | h
    · -- the line has lost a carriage return at most, and nothing is added
      exact fun hfeed => hm (mem_of_mem_dropReturn hfeed)
    · exact ih h

/-- The lines of a text hold no characters but its own. -/
theorem mem_of_mem_lines {text : List Char} {l : Line} {c : Char} (hl : l ∈ lines text)
    (hc : c ∈ l) : c ∈ text := by
  induction text using text_induction with
  | last m hm =>
    obtain rfl := eq_of_mem_lines hm hl
    exact hc
  | feed m rest hm ih =>
    rw [lines_append_feed rest hm] at hl
    rcases List.mem_cons.1 hl with rfl | hl
    · exact List.mem_append_left _ (mem_of_mem_dropReturn hc)
    · exact List.mem_append_right _ (List.mem_cons_of_mem _ (ih hl))

/-! ### Where a line ends -/

/-- Whether what is added to the text starts a line of its own: the text is empty or
ends in a line feed. -/
def AtLineEnd (text : List Char) : Prop := text = [] ∨ text.getLast? = some '\n'

instance (text : List Char) : Decidable (AtLineEnd text) :=
  inferInstanceAs (Decidable (text = [] ∨ text.getLast? = some '\n'))

theorem eq_nil_of_atLineEnd {l : Line} (hfeed : '\n' ∉ l) (h : AtLineEnd l) : l = [] := by
  rcases h with h | h
  · exact h
  · exact absurd (List.mem_of_getLast? h) hfeed

theorem AtLineEnd.of_append_feed {l : Line} {rest : List Char}
    (h : AtLineEnd (l ++ '\n' :: rest)) : AtLineEnd rest := by
  rcases h with h | h
  · simp at h
  · rw [List.getLast?_append, List.getLast?_cons] at h
    cases hrest : rest.getLast? with
    | none => exact .inl (List.getLast?_eq_none_iff.1 hrest)
    | some c =>
      rw [hrest] at h
      exact .inr (by simpa [hrest] using h)

/-- What comes behind the end of a line starts a line of its own. -/
theorem lines_append {a : List Char} (h : AtLineEnd a) (b : List Char) :
    lines (a ++ b) = lines a ++ lines b := by
  induction a using text_induction with
  | last l hl =>
    obtain rfl := eq_nil_of_atLineEnd hl h
    rfl
  | feed l rest hl ih =>
    rw [List.append_assoc, List.cons_append, lines_append_feed _ hl, lines_append_feed _ hl,
      ih h.of_append_feed, List.cons_append]

/-- What is left of a text behind its first so many lines. -/
def afterLine : Nat → List Char → List Char
  | 0, text => text
  | n + 1, text => afterLine n ((text.dropWhile (· ≠ '\n')).drop 1)

theorem dropWhile_append_of_feed_not_mem {l : Line} (rest : List Char) (h : '\n' ∉ l) :
    (l ++ rest).dropWhile (· ≠ '\n') = rest.dropWhile (· ≠ '\n') :=
  List.dropWhile_append_of_pos fun _ hc => decide_eq_true (ne_of_mem_of_not_mem hc h)

theorem afterLine_nil (n : Nat) : afterLine n [] = [] := by
  induction n with
  | zero => rfl
  | succ n ih => exact ih

/-- Its lines are those that follow the first so many. -/
theorem lines_afterLine (n : Nat) (text : List Char) :
    lines (afterLine n text) = (lines text).drop n := by
  induction n generalizing text with
  | zero => rfl
  | succ n ih =>
    induction text using text_induction with
    | last l hl =>
      -- there is no second line
      have hnone : l.dropWhile (· ≠ '\n') = [] := by
        simpa using dropWhile_append_of_feed_not_mem [] hl
      rw [afterLine, hnone, List.drop_nil, afterLine_nil, lines_of_feed_not_mem hl]
      split <;> simp
    | feed l rest hl _ =>
      have hrest : ('\n' :: rest).dropWhile (· ≠ '\n') = '\n' :: rest := by simp
      rw [afterLine, dropWhile_append_of_feed_not_mem _ hl, hrest, lines_append_feed rest hl,
        List.drop_succ_cons, List.drop_succ_cons, List.drop_zero, ih rest]

/-! ### Terminated lines -/

/-- Lines set one after the other, each with a line feed behind it. -/
def terminated (ls : List Line) : List Char := ls.flatMap fun l => l ++ ['\n']

@[simp] theorem terminated_nil : terminated [] = [] := rfl

@[simp] theorem terminated_cons (l : Line) (ls : List Line) :
    terminated (l :: ls) = l ++ '\n' :: terminated ls := by
  simp [terminated]

@[simp] theorem terminated_append (a b : List Line) :
    terminated (a ++ b) = terminated a ++ terminated b := by
  simp [terminated]

/-- Between joined lines and those that follow stands one more line feed. -/
theorem joined_append {a b : List Line} (ha : a ≠ []) (hb : b ≠ []) :
    joined (a ++ b) = joined a ++ '\n' :: joined b := by
  induction a with
  | nil => exact absurd rfl ha
  | cons l a ih =>
    by_cases hrest : a = []
    · rw [hrest, List.singleton_append, joined_cons l hb, joined_singleton]
    · have hne : a ++ b ≠ [] := List.append_ne_nil_of_left_ne_nil hrest b
      rw [List.cons_append, joined_cons l hne, joined_cons l hrest, ih hrest]
      simp

/-- A line feed behind joined lines ends the last of them. -/
theorem joined_append_feed {ls : List Line} (hne : ls ≠ []) (rest : List Char) :
    joined ls ++ '\n' :: rest = terminated ls ++ rest := by
  induction ls with
  | nil => exact absurd rfl hne
  | cons l ls ih =>
    by_cases hls : ls = []
    · simp [hls]
    · rw [joined_cons l hls, terminated_cons, List.append_assoc, List.cons_append, ih hls]
      simp

/-- Terminated lines are read back as they were. -/
theorem lines_terminated {ls : List Line} (hfeed : ∀ l ∈ ls, '\n' ∉ l)
    (hreturn : ∀ l ∈ ls, l.getLast? ≠ some '\r') : lines (terminated ls) = ls := by
  induction ls with
  | nil => rfl
  | cons l ls ih =>
    have hrest : lines (terminated ls) = ls :=
      ih (fun m hm => hfeed m (by simp [hm])) fun m hm => hreturn m (by simp [hm])
    rw [terminated_cons, lines_append_feed _ (hfeed l (by simp)), hrest,
      dropReturn_of_getLast?_ne (hreturn l (by simp))]

end Text

end Docstrings
