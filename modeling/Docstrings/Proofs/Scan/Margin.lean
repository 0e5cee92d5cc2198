/-
Docstrings/Proofs/Scan/Margin.lean

Markers and what stands around them in a line.

A scan looks for a marker in the line as it is, and keeps the line without its
blank margins.  That comes to the same: a marker is made of quotes, a quote is no
blank, and so trimming never cuts into a marker.

At the end of a line, trimming is `List.rdropWhile isBlank`, and what it leaves is said by
the lemmas of the library.

* `trim_isInfix`, `trim_trim` — what trimming leaves is a part of the line, without margins.
* `hasMarker_trim` — a line holds a marker exactly if it does without its margins.
* `hasMarker_eq_false` — a line without quotes holds no marker.
-/
import Mathlib.Data.List.DropRight
import Mathlib.Data.List.TakeWhile
import Docstrings.Marker
import Docstrings.Text.Blank

namespace Docstrings

open Text

/-! ### Trimmed lines -/

namespace Text

theorem trim_isPrefix (l : Line) : trim l <+: trimStart l :=
  List.rdropWhile_prefix isBlank (trimStart l)

/-- Trimming takes a part out of the middle of the line. -/
theorem trim_isInfix (l : Line) : trim l <:+: l :=
  (trim_isPrefix l).isInfix.trans (List.dropWhile_suffix isBlank).isInfix

/-- A trimmed line does not end in a blank. -/
theorem getLast?_trim {l : Line} {c : Char} (h : (trim l).getLast? = some c) :
    isBlank c = false := by
  obtain ⟨hne, rfl⟩ := List.mem_getLast?_eq_getLast h
  exact Bool.eq_false_iff.2 (List.rdropWhile_last_not isBlank (trimStart l) hne)

/-- A trimmed line is its own trim. -/
@[simp] theorem trim_trim (l : Line) : trim (trim l) = trim l := by
  -- it starts like the line without the blanks at its start
  have hstart : trimStart (trim l) = trim l := by
    refine List.dropWhile_eq_self_iff.2 fun hl => ?_
    rw [(trim_isPrefix l).getElem hl]
    exact List.dropWhile_get_zero_not isBlank l (hl.trans_le (trim_isPrefix l).length_le)
  show trimEnd (trimStart (trim l)) = trimEnd (trimStart l)
  rw [hstart]
  exact List.rdropWhile_idempotent isBlank (trimStart l)

end Text

/-! ### Words and margins -/

theorem isPrefix_nil_of_head {w : List Char} {p : Char → Bool} (hw : ∀ c ∈ w, p c = false)
    {a : Char} {l : List Char} (ha : p a = true) (h : w <+: a :: l) : w = [] := by
  cases w with
  | nil => rfl
  | cons c w =>
    obtain ⟨rfl, -⟩ := List.cons_prefix_cons.1 h
    exact absurd (hw c (by simp)) (by simp [ha])

/-- A word without a dropped character stands in what is left if it stands in the
line. -/
theorem isInfix_dropWhile {w : List Char} {p : Char → Bool} (hw : ∀ c ∈ w, p c = false)
    {l : List Char} (h : w <:+: l) : w <:+: l.dropWhile p := by
  induction l with
  | nil => exact h
  | cons a l ih =>
    by_cases ha : p a = true
    · rw [List.dropWhile_cons_of_pos ha]
      rcases List.infix_cons_iff.1 h with hfront | hrest
      · rw [isPrefix_nil_of_head hw ha hfront]
        exact List.nil_infix
      · exact ih hrest
    · rw [List.dropWhile_cons_of_neg ha]
      exact h

theorem isInfix_trim {w : List Char} (hw : ∀ c ∈ w, isBlank c = false) {l : Line}
    (h : w <:+: l) : w <:+: trim l := by
  have hstart : w.reverse <:+: (trimStart l).reverse :=
    List.reverse_infix.2 (isInfix_dropWhile hw h)
  have hend : w.reverse <:+: (trimStart l).reverse.dropWhile isBlank :=
    isInfix_dropWhile (fun c hc => hw c (List.mem_reverse.1 hc)) hstart
  rw [trim, trimEnd, ← List.reverse_infix, List.reverse_reverse]
  exact hend

/-! ### Markers -/

theorem Marker.isBlank_quote (m : Marker) : isBlank m.quote = false := by
  cases m <;> decide

theorem Marker.isBlank_of_mem_text (m : Marker) : ∀ c ∈ m.text, isBlank c = false := by
  intro c hc
  rw [(List.mem_replicate.1 hc).2]
  exact m.isBlank_quote

/-- A line holds a marker exactly if it does without its margins. -/
@[simp] theorem hasMarker_trim (l : Line) : hasMarker (trim l) = hasMarker l := by
  rw [Bool.eq_iff_iff, hasMarker_iff, hasMarker_iff]
  constructor
  · rintro ⟨m, hm⟩
    exact ⟨m, hm.trans (trim_isInfix l)⟩
  · rintro ⟨m, hm⟩
    exact ⟨m, isInfix_trim m.isBlank_of_mem_text hm⟩

theorem Marker.quote_mem_of_isInfix {m : Marker} {l : Line} (h : m.text <:+: l) :
    m.quote ∈ l :=
  h.subset (by simp [Marker.text])

/-- A line without quotes holds no marker. -/
theorem hasMarker_eq_false {l : Line} (h : ∀ m : Marker, m.quote ∉ l) : hasMarker l = false := by
  rw [Bool.eq_false_iff, ne_eq, hasMarker_iff]
  rintro ⟨m, hm⟩
  exact h m (Marker.quote_mem_of_isInfix hm)

/-! ### Line feeds -/

theorem feed_not_mem_trim {l : Line} (h : '\n' ∉ l) : '\n' ∉ trim l := by
  intro hfeed
  exact h ((trim_isInfix l).subset hfeed)

end Docstrings
