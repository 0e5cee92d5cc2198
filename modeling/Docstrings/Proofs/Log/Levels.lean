/-
Docstrings/Proofs/Log/Levels.lean

The levels that can be named in a setting of the log.

A level goes by its name, in capitals or not, and by its number.  A number may have a plus
sign in front, and zeros, however many; so `2`, `+2` and `002` are the same level as `warn`
and `Warn`.  Nothing else is a level: the numbers stop at five, and no name has a digit in
it.

`Threshold.ofText?` adds a numeral up and looks the sum up in a table.  Here the levels are
said without it, form by form.  The two agree because a numeral comes to less than ten only
if all its digits but the last are zeros.

* `numeral?_eq_some_iff` — the texts that are numerals, and their values.
* `eq_zeros_append_digit` — the numerals of the numbers below ten.
* `Threshold.ofText?_eq_some_iff` — the texts that are levels.
-/
import Docstrings.Log.Directive

namespace Docstrings

namespace Log

/-- The threshold goes by the text. -/
inductive Threshold.IsNamedBy : Threshold → List Char → Prop
  /-- Its name, in capitals or not. -/
  | name {t : Threshold} {text : List Char} (h : text.map Char.toLower = t.name.toList) :
    IsNamedBy t text
  /-- Its number, with a sign and zeros in front or without. -/
  | number {t : Threshold} {sign : List Char} (hsign : sign = [] ∨ sign = ['+']) (zeros : Nat) :
    IsNamedBy t (sign ++ (List.replicate zeros '0' ++ [Nat.digitChar t.rank]))

/-- An empty text is no level. -/
theorem Threshold.IsNamedBy.ne_nil {t : Threshold} {text : List Char} (h : t.IsNamedBy text) :
    text ≠ [] := by
  rcases h with hname | ⟨hsign, zeros⟩
  · rintro rfl
    rcases t with - | (_ | _ | _ | _ | _) <;> exact absurd hname (by decide)
  · simp

/-! ### Digits -/

theorem exists_digitChar_of_isDigit {c : Char} (h : c.isDigit = true) :
    ∃ d < 10, c = Nat.digitChar d := by
  have hbounds : 48 ≤ c.toNat ∧ c.toNat ≤ 57 := by
    simpa [Char.isDigit, UInt32.le_iff_toNat_le] using h
  have hsmall : c.toNat - 48 < 10 := by omega
  refine ⟨c.toNat - 48, hsmall, Char.toNat_inj.1 ?_⟩
  rw [Nat.toNat_digitChar_of_lt_ten hsmall]
  omega

/-- More digits never make a numeral smaller. -/
theorem le_ofDigitChars (digits : List Char) (value : Nat) :
    value ≤ Nat.ofDigitChars 10 digits value := by
  induction digits generalizing value with
  | nil => exact Nat.le_refl value
  | cons c rest ih =>
    rw [Nat.ofDigitChars_cons]
    calc value ≤ 10 * value + (c.toNat - '0'.toNat) := by omega
      _ ≤ Nat.ofDigitChars 10 rest (10 * value + (c.toNat - '0'.toNat)) := ih _

/-- A numeral that comes to less than ten is the digit of its value, behind zeros. -/
theorem eq_zeros_append_digit {digits : List Char} (hdigits : ∀ c ∈ digits, c.isDigit = true)
    (hne : digits ≠ []) {n : Nat} (hvalue : Nat.ofDigitChars 10 digits 0 = n) (hn : n < 10) :
    ∃ zeros, digits = List.replicate zeros '0' ++ [Nat.digitChar n] := by
  induction digits with
  | nil => exact absurd rfl hne
  | cons c rest ih =>
    obtain ⟨hc, hrest⟩ := List.forall_mem_cons.1 hdigits
    obtain ⟨d, hd, rfl⟩ := exists_digitChar_of_isDigit hc
    rw [Nat.ofDigitChars_cons_digitChar_of_lt_ten hd, Nat.mul_zero, Nat.zero_add] at hvalue
    cases rest with
    | nil =>
      obtain rfl : d = n := hvalue
      exact ⟨0, rfl⟩
    | cons c' rest =>
      -- a digit in front of another one counts ten times as much, or more
      have hten : 10 * d + (c'.toNat - '0'.toNat) ≤ n := by
        rw [← hvalue, Nat.ofDigitChars_cons]
        exact le_ofDigitChars rest _
      obtain rfl : d = 0 := by omega
      obtain ⟨zeros, hzeros⟩ := ih hrest (List.cons_ne_nil c' rest) hvalue
      exact ⟨zeros + 1, by rw [hzeros]; rfl⟩

/-- Zeros in front of a digit do not count. -/
theorem ofDigitChars_zeros_append_digit (zeros : Nat) {n : Nat} (hn : n < 10) :
    Nat.ofDigitChars 10 (List.replicate zeros '0' ++ [Nat.digitChar n]) 0 = n := by
  rw [Nat.ofDigitChars_append, Nat.ofDigitChars_replicate_zero,
    Nat.ofDigitChars_cons_digitChar_of_lt_ten hn, Nat.ofDigitChars_nil]
  simp

/-! ### Numerals -/

/-- A numeral is made of digits, with a sign in front or without. -/
theorem numeral?_eq_some_iff {text : List Char} {n : Nat} :
    numeral? text = some n ↔
      ∃ sign digits, (sign = [] ∨ sign = ['+']) ∧ text = sign ++ digits ∧ digits ≠ [] ∧
        (∀ c ∈ digits, c.isDigit = true) ∧ Nat.ofDigitChars 10 digits 0 = n := by
  have hread (digits : List Char) :
      (if digits ≠ [] ∧ digits.all Char.isDigit then some (Nat.ofDigitChars 10 digits 0)
        else none) = some n ↔
      digits ≠ [] ∧ (∀ c ∈ digits, c.isDigit = true) ∧ Nat.ofDigitChars 10 digits 0 = n := by
    simp [and_assoc]
  unfold numeral?
  constructor
  · intro h
    by_cases hsign : text.head? = some '+'
    · obtain ⟨rest, rfl⟩ := List.head?_eq_some_iff.1 hsign
      exact ⟨['+'], rest, .inr rfl, rfl, (hread rest).1 h⟩
    · rw [if_neg hsign] at h
      exact ⟨[], text, .inl rfl, rfl, (hread text).1 h⟩
  · rintro ⟨sign, digits, hsign, rfl, hdigits⟩
    rcases hsign with rfl | rfl
    · -- the first character is a digit, and no sign
      have hsign : ([] ++ digits).head? ≠ some '+' := by
        intro hhead
        obtain ⟨rest, rfl⟩ := List.head?_eq_some_iff.1 hhead
        exact absurd (hdigits.2.1 '+' List.mem_cons_self) (by decide)
      rw [if_neg hsign]
      exact (hread digits).2 hdigits
    · exact (hread digits).2 hdigits

/-! ### Names -/

/-- There is no digit in a name. -/
theorem Threshold.digitChar_not_mem_name (t : Threshold) :
    ∀ d < 10, Nat.digitChar d ∉ t.name.toList := by
  rcases t with - | (_ | _ | _ | _ | _) <;> decide

/-- No name is a numeral. -/
theorem numeral?_of_map_toLower {text : List Char} {t : Threshold}
    (h : text.map Char.toLower = t.name.toList) : numeral? text = none := by
  have hlower : ∀ d < 10, (Nat.digitChar d).toLower = Nat.digitChar d := by decide
  rw [Option.eq_none_iff_forall_ne_some]
  intro n hn
  obtain ⟨sign, digits, -, rfl, hne, hdigits, -⟩ := numeral?_eq_some_iff.1 hn
  obtain ⟨c, hc⟩ := List.exists_mem_of_ne_nil digits hne
  obtain ⟨d, hd, rfl⟩ := exists_digitChar_of_isDigit (hdigits c hc)
  refine t.digitChar_not_mem_name d hd ?_
  rw [← h, ← hlower d hd]
  exact List.mem_map_of_mem (List.mem_append_right sign hc)

theorem Threshold.ofName?_eq_some_iff {text : List Char} {t : Threshold} :
    ofName? text = some t ↔ text.map Char.toLower = t.name.toList := by
  constructor
  · intro h
    have hfound := List.find?_some h
    exact (beq_iff_eq.1 hfound).symm
  · intro h
    have hname : t.name.toList.map Char.toLower = t.name.toList := by
      rcases t with - | (_ | _ | _ | _ | _) <;> decide
    rw [← ofName?_name t, ofName?, ofName?, h, hname]

theorem Threshold.ofRank?_eq_some_iff {n : Nat} {t : Threshold} :
    ofRank? n = some t ↔ n = t.rank := by
  constructor
  · intro h
    -- the ranks are counted from zero
    have hranks : all.map rank = List.range 6 := rfl
    have hrank : (List.range 6)[n]? = some t.rank := by
      rw [← hranks, List.getElem?_map, ← ofRank?, h]
      rfl
    obtain ⟨hlt, hget⟩ := List.getElem?_eq_some_iff.1 hrank
    rwa [List.getElem_range] at hget
  · rintro rfl
    exact ofRank?_rank t

theorem Threshold.rank_lt_ten (t : Threshold) : t.rank < 10 := by
  rcases t with - | (_ | _ | _ | _ | _) <;> decide

/-! ### Levels -/

/-- **The levels in a setting.**  A text is read as a threshold if the threshold goes by
it. -/
theorem Threshold.ofText?_eq_some_iff {text : List Char} {t : Threshold} :
    ofText? text = some t ↔ t.IsNamedBy text := by
  unfold ofText?
  constructor
  · intro h
    rcases hnumeral : numeral? text with - | n
    · rw [hnumeral] at h
      exact .name (ofName?_eq_some_iff.1 h)
    · rw [hnumeral] at h
      obtain ⟨sign, digits, hsign, rfl, hne, hdigits, hvalue⟩ := numeral?_eq_some_iff.1 hnumeral
      obtain rfl : n = t.rank := ofRank?_eq_some_iff.1 h
      obtain ⟨zeros, rfl⟩ := eq_zeros_append_digit hdigits hne hvalue t.rank_lt_ten
      exact .number hsign zeros
  · rintro (h | ⟨hsign, zeros⟩)
    · rw [numeral?_of_map_toLower h]
      exact ofName?_eq_some_iff.2 h
    · have hdigits : ∀ c ∈ List.replicate zeros '0' ++ [Nat.digitChar t.rank],
          c.isDigit = true := by
        intro c hc
        rcases List.mem_append.1 hc with hzero | hlast
        · rw [List.eq_of_mem_replicate hzero]
          rfl
        · rw [List.mem_singleton.1 hlast, Nat.isDigit_digitChar]
          exact decide_eq_true t.rank_lt_ten
      rw [numeral?_eq_some_iff.2 ⟨_, _, hsign, rfl, by simp, hdigits,
        ofDigitChars_zeros_append_digit zeros t.rank_lt_ten⟩]
      exact ofRank?_rank t

theorem Threshold.ofText?_eq_none_iff {text : List Char} :
    ofText? text = none ↔ ∀ t : Threshold, ¬ t.IsNamedBy text := by
  simp only [Option.eq_none_iff_forall_ne_some, ne_eq, ofText?_eq_some_iff]

end Log

end Docstrings
