/-
Docstrings/Proofs/Log/Spelling.lean

How directives are spelled.

A piece of a setting is cut at its first equals sign, if it has one.  What stands before it
is the target then, and what stands behind it the level; without one, the piece is a level
if a threshold goes by it, and a target otherwise.

Design.  `Spells` is the syntax of pieces, form by form, and `Malformed` says what is wrong
with the others.  No piece is both, and each is one of the two; so `Directive.ofPiece?` reads
exactly the pieces that spell something, and a setting is read exactly if none of its pieces
is malformed.

* `ofPiece?_eq_some_iff`, `ofPiece?_eq_none_iff` — what a piece is read as.
* `parse?_eq_some_iff` — the settings that are read.
* `parse?_eq_none_iff_malformed` — the settings that are not.
-/
import Mathlib.Data.List.Forall2
import Mathlib.Data.List.TakeWhile
import Docstrings.Proofs.Log.Levels

namespace Docstrings

namespace Log

namespace Directive

/-! ### The syntax of pieces -/

/-- The first character that is no blank can be the start of a piece. -/
def StartsWell (piece : List Char) : Prop :=
  ∃ c rest, Text.trimStart piece = c :: rest ∧ mayStart c = true

/-- A piece of a setting spells a directive. -/
inductive Spells : List Char → Directive → Prop
  /-- A level alone is for all sources. -/
  | level {piece : List Char} {t : Threshold} (hstart : StartsWell piece) (hplain : '=' ∉ piece)
    (hlevel : t.IsNamedBy piece) : Spells piece ⟨[], t⟩
  /-- A target alone lets everything through. -/
  | target {piece : List Char} (hstart : StartsWell piece) (hplain : '=' ∉ piece)
    (hlevel : ∀ t : Threshold, ¬ t.IsNamedBy piece) : Spells piece ⟨piece, everything⟩
  /-- A target with its level. -/
  | both {target level : List Char} {t : Threshold} (hstart : StartsWell (target ++ '=' :: level))
    (hmargin : isIndented (target ++ '=' :: level) = false) (hplain : '=' ∉ target)
    (hlevel : t.IsNamedBy level) : Spells (target ++ '=' :: level) ⟨target, t⟩
  /-- A target whose level is left open lets everything through. -/
  | openEnded {target : List Char} (hstart : StartsWell (target ++ ['=']))
    (hmargin : isIndented (target ++ ['=']) = false) (hplain : '=' ∉ target) :
    Spells (target ++ ['=']) ⟨target, everything⟩

/-- What is wrong with a piece of a setting. -/
inductive Malformed : List Char → Prop
  /-- It starts with a character that no piece starts with, or holds blanks only. -/
  | start {piece : List Char} (h : ¬ StartsWell piece) : Malformed piece
  /-- It has an equals sign, and a blank in front. -/
  | margin {piece : List Char} (hmargin : isIndented piece = true) (hequals : '=' ∈ piece) :
    Malformed piece
  /-- What stands behind the equals sign is no level. -/
  | level {target level : List Char} (hplain : '=' ∉ target) (hne : level ≠ [])
    (hlevel : ∀ t : Threshold, ¬ t.IsNamedBy level) : Malformed (target ++ '=' :: level)

/-! ### Reading a piece -/

theorem startsWell_iff {piece : List Char} :
    StartsWell piece ↔ (Text.trimStart piece).head?.any mayStart = true := by
  unfold StartsWell
  rcases Text.trimStart piece with - | ⟨c, rest⟩
  · simp
  · simp

section

variable {piece target level : List Char}

theorem ofPiece?_of_not_startsWell (h : ¬ StartsWell piece) : ofPiece? piece = none := by
  unfold ofPiece?
  rw [if_neg (mt startsWell_iff.2 h)]

/-- A piece without an equals sign. -/
theorem ofPiece?_of_not_mem (hstart : StartsWell piece) (hplain : '=' ∉ piece) :
    ofPiece? piece = some (ofWord piece) := by
  have hall : ∀ c ∈ piece, decide (c ≠ '=') = true := fun c hc =>
    decide_eq_true (ne_of_mem_of_not_mem hc hplain)
  unfold ofPiece?
  rw [if_pos (startsWell_iff.1 hstart), List.dropWhile_eq_nil_iff.2 hall]

/-- A piece that is cut at its equals sign. -/
theorem ofPiece?_sides (hstart : StartsWell (target ++ '=' :: level)) (hplain : '=' ∉ target) :
    ofPiece? (target ++ '=' :: level)
      = if isIndented (target ++ '=' :: level) then none else ofSides? target level := by
  have hall : ∀ c ∈ target, decide (c ≠ '=') = true := fun c hc =>
    decide_eq_true (ne_of_mem_of_not_mem hc hplain)
  have htake : (target ++ '=' :: level).takeWhile (· ≠ '=') = target := by
    rw [List.takeWhile_append_of_pos hall]
    simp
  have hdrop : (target ++ '=' :: level).dropWhile (· ≠ '=') = '=' :: level := by
    rw [List.dropWhile_append_of_pos hall]
    simp
  unfold ofPiece?
  rw [if_pos (startsWell_iff.1 hstart), htake, hdrop]

end

/-- What a piece spells is read. -/
theorem Spells.ofPiece?_eq {piece : List Char} {d : Directive} (h : Spells piece d) :
    ofPiece? piece = some d := by
  cases h with
  | level hstart hplain hlevel =>
    rw [ofPiece?_of_not_mem hstart hplain, ofWord, Threshold.ofText?_eq_some_iff.2 hlevel]
  | target hstart hplain hlevel =>
    rw [ofPiece?_of_not_mem hstart hplain, ofWord, Threshold.ofText?_eq_none_iff.2 hlevel]
  | both hstart hmargin hplain hlevel =>
    rw [ofPiece?_sides hstart hplain, hmargin, if_neg Bool.false_ne_true, ofSides?,
      if_neg hlevel.ne_nil, Threshold.ofText?_eq_some_iff.2 hlevel]
    rfl
  | openEnded hstart hmargin hplain =>
    rw [ofPiece?_sides hstart hplain, hmargin]
    rfl

/-- What is malformed is not read. -/
theorem Malformed.ofPiece?_eq {piece : List Char} (h : Malformed piece) :
    ofPiece? piece = none := by
  by_cases hstart : StartsWell piece
  · cases h with
    | start hbad => exact absurd hstart hbad
    | margin hmargin hequals =>
      obtain ⟨target, level, rfl, hplain⟩ := List.eq_append_cons_of_mem hequals
      rw [ofPiece?_sides hstart hplain, if_pos hmargin]
    | level hplain hne hlevel =>
      -- whether there is a blank in front as well makes no difference
      rw [ofPiece?_sides hstart hplain, ofSides?, if_neg hne,
        Threshold.ofText?_eq_none_iff.2 hlevel]
      exact ite_self none
  · exact ofPiece?_of_not_startsWell hstart

/-- **Each piece** is malformed or spells a directive. -/
theorem malformed_or_spells (piece : List Char) : Malformed piece ∨ ∃ d, Spells piece d := by
  by_cases hstart : StartsWell piece
  · by_cases hequals : '=' ∈ piece
    · rcases hmargin : isIndented piece with - | -
      · obtain ⟨target, level, rfl, hplain⟩ := List.eq_append_cons_of_mem hequals
        by_cases hne : level = []
        · obtain rfl := hne
          exact .inr ⟨_, .openEnded hstart hmargin hplain⟩
        · by_cases hlevel : ∃ t : Threshold, t.IsNamedBy level
          · obtain ⟨t, ht⟩ := hlevel
            exact .inr ⟨_, .both hstart hmargin hplain ht⟩
          · exact .inl (.level hplain hne (not_exists.1 hlevel))
      · exact .inl (.margin hmargin hequals)
    · by_cases hlevel : ∃ t : Threshold, t.IsNamedBy piece
      · obtain ⟨t, ht⟩ := hlevel
        exact .inr ⟨_, .level hstart hequals ht⟩
      · exact .inr ⟨_, .target hstart hequals (not_exists.1 hlevel)⟩
  · exact .inl (.start hstart)

/-- **What is read** is what is spelled. -/
theorem ofPiece?_eq_some_iff {piece : List Char} {d : Directive} :
    ofPiece? piece = some d ↔ Spells piece d := by
  constructor
  · intro h
    rcases malformed_or_spells piece with hbad | ⟨d', hspells⟩
    · rw [hbad.ofPiece?_eq] at h
      exact absurd h nofun
    · rw [hspells.ofPiece?_eq] at h
      obtain rfl := Option.some.inj h
      exact hspells
  · exact Spells.ofPiece?_eq

theorem ofPiece?_eq_none_iff {piece : List Char} : ofPiece? piece = none ↔ Malformed piece := by
  constructor
  · intro h
    rcases malformed_or_spells piece with hbad | ⟨d, hspells⟩
    · exact hbad
    · rw [hspells.ofPiece?_eq] at h
      exact absurd h nofun
  · exact Malformed.ofPiece?_eq

/-! ### Reading a setting -/

theorem mapM_eq_some_iff {α β : Type} {f : α → Option β} {xs : List α} {ys : List β} :
    xs.mapM f = some ys ↔ List.Forall₂ (fun x y => f x = some y) xs ys := by
  induction xs generalizing ys with
  | nil => simp [eq_comm]
  | cons x xs ih =>
    rw [List.mapM_cons]
    constructor
    · intro h
      obtain ⟨y, hy, h⟩ := Option.bind_eq_some_iff.1 h
      obtain ⟨rest, hrest, h⟩ := Option.bind_eq_some_iff.1 h
      obtain rfl := Option.some.inj h
      exact .cons hy (ih.1 hrest)
    · rintro (_ | ⟨hy, hrest⟩)
      rw [hy, ih.2 hrest]
      rfl

/-- A setting is read if each of its pieces spells a directive. -/
theorem parse?_eq_some_iff {setting : String} {ds : List Directive} :
    parse? setting = some ds ↔ List.Forall₂ Spells (pieces setting.toList) ds := by
  unfold parse?
  simp only [mapM_eq_some_iff, ofPiece?_eq_some_iff]

/-- A setting is not read if one of its pieces is malformed. -/
theorem parse?_eq_none_iff_malformed {setting : String} :
    parse? setting = none ↔ ∃ piece ∈ pieces setting.toList, Malformed piece := by
  rw [parse?_eq_none_iff]
  simp only [ofPiece?_eq_none_iff]

end Directive

end Log

end Docstrings
