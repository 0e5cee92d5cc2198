/-
Docstrings/Proofs/Text/Quoted.lean

Quoted texts are read back.

What stands for a character between quotes has one of three forms.  The form shows in
the first characters, and each form shows where it ends:

    c                 the character itself, neither a quote nor a backslash
    \ letter          a short escape, of two characters
    \u{ digits }      the code point, up to the closing brace

So one character can be read off the front of an escaped text, whatever comes behind it,
and a quote that is read as no character is the closing one.  A text may well hold what
looks like the end of a quoted text, or like an escape; its quotes and backslashes are
escaped themselves, so that is never taken for one.

Design.  `escapeChar_cases` says what the forms are, and is all that is used of how
characters are escaped.  `readChar?` reads one character; the step over it is carried
through a text by induction, with what follows the closing quote left open.

* `readChar?_escapeChar` — a character is read back, and what is behind it is left.
* `escape_append_inj`, `quoted_append_inj` — texts that begin with quoted texts and are
  equal begin with the same one.
* `isPrintable_of_mem_quoted` — all of a quoted text can be shown.
* `lines_of_forall_isPrintable` — what can be shown is one line.
-/
import Docstrings.Proofs.Text.Terminated
import Docstrings.Text.Quoted
import Mathlib.Tactic.SplitIfs

namespace Docstrings

namespace Text

/-! ### Numerals to base sixteen -/

/-- The value of a digit to base sixteen. -/
def digitValue (c : Char) : Nat :=
  if c.isDigit then c.toNat - '0'.toNat else c.toNat - 'a'.toNat + 10

/-- The number that digits to base sixteen stand for. -/
def ofDigits (ds : List Char) : Nat := ds.foldl (fun n c => 16 * n + digitValue c) 0

theorem digitValue_digitChar : ∀ d < 16, digitValue (Nat.digitChar d) = d := by decide

theorem ofDigits_concat (ds : List Char) (c : Char) :
    ofDigits (ds ++ [c]) = 16 * ofDigits ds + digitValue c := by
  simp [ofDigits]

/-- A number is read back from its digits. -/
theorem ofDigits_toDigits (n : Nat) : ofDigits (Nat.toDigits 16 n) = n := by
  induction n using Nat.base_induction 16 (by decide) with
  | single n hn =>
    rw [Nat.toDigits_of_lt_base hn]
    simp [ofDigits, digitValue_digitChar n hn]
  | digit n d hd hn ih =>
    rw [← Nat.toDigits_append_toDigits (by decide) hn hd, Nat.toDigits_of_lt_base hd,
      ofDigits_concat, ih, digitValue_digitChar d hd]

theorem exists_digitChar_of_mem_toDigits {n : Nat} {c : Char} (h : c ∈ Nat.toDigits 16 n) :
    ∃ d < 16, c = Nat.digitChar d := by
  induction n using Nat.base_induction 16 (by decide) with
  | single n hn =>
    rw [Nat.toDigits_of_lt_base hn] at h
    exact ⟨n, hn, List.mem_singleton.1 h⟩
  | digit n d hd hn ih =>
    rw [← Nat.toDigits_append_toDigits (by decide) hn hd, Nat.toDigits_of_lt_base hd] at h
    rcases List.mem_append.1 h with h | h
    · exact ih h
    · exact ⟨d, hd, List.mem_singleton.1 h⟩

theorem brace_not_mem_toDigits (n : Nat) : '}' ∉ Nat.toDigits 16 n := by
  have hdigits : ∀ d < 16, '}' ≠ Nat.digitChar d := by decide
  intro h
  obtain ⟨d, hd, hbrace⟩ := exists_digitChar_of_mem_toDigits h
  exact hdigits d hd hbrace

/-! ### One character -/

/-- The letters of the short escapes, each with the character that it stands for behind a
backslash. -/
def letters : List (Char × Char) :=
  [('"', '"'), ('\\', '\\'), ('n', '\n'), ('r', '\r'), ('t', '\t'), ('0', '\x00')]

theorem lookup_letters : ∀ p ∈ letters, letters.lookup p.1 = some p.2 := by decide

/-- The letter of a code point is not that of a short escape. -/
theorem ne_of_mem_letters : ∀ p ∈ letters, p.1 ≠ 'u' := by decide

/-- What stands for a character is a short escape, the character itself, or its code
point. -/
theorem escapeChar_cases (c : Char) :
    (∃ letter, (letter, c) ∈ letters ∧ escapeChar c = ['\\', letter]) ∨
    (isPrintable c = true ∧ c ≠ '"' ∧ c ≠ '\\' ∧ escapeChar c = [c]) ∨
    escapeChar c = codePoint c := by
  unfold escapeChar
  split_ifs with hquote hslash hfeed hreturn htab hnul hprintable
  · exact .inl ⟨'"', by rw [hquote]; decide, rfl⟩
  · exact .inl ⟨'\\', by rw [hslash]; decide, rfl⟩
  · exact .inl ⟨'n', by rw [hfeed]; decide, rfl⟩
  · exact .inl ⟨'r', by rw [hreturn]; decide, rfl⟩
  · exact .inl ⟨'t', by rw [htab]; decide, rfl⟩
  · exact .inl ⟨'0', by rw [hnul]; decide, rfl⟩
  · exact .inr (.inl ⟨hprintable, hquote, hslash, rfl⟩)
  · exact .inr (.inr rfl)

/-- The character that is written behind a backslash, and what comes behind it. -/
def readEscape? : List Char → Option (Char × List Char)
  | [] => none
  | 'u' :: '{' :: rest =>
    some (Char.ofNat (ofDigits (rest.takeWhile (· ≠ '}'))), (rest.dropWhile (· ≠ '}')).tail)
  | letter :: rest => (letters.lookup letter).map (·, rest)

/-- The character that is written in front of a text between quotes, and what comes
behind it.  There is none in front of the closing quote. -/
def readChar? : List Char → Option (Char × List Char)
  | [] => none
  | c :: rest =>
    if c = '"' then none else if c = '\\' then readEscape? rest else some (c, rest)

theorem readChar?_quote (rest : List Char) : readChar? ('"' :: rest) = none := rfl

theorem readEscape?_letter {letter c : Char} (h : (letter, c) ∈ letters) (rest : List Char) :
    readEscape? (letter :: rest) = some (c, rest) := by
  have hu : letter ≠ 'u' := ne_of_mem_letters (letter, c) h
  have hlookup : letters.lookup letter = some c := lookup_letters (letter, c) h
  simp [readEscape?, hu, hlookup]

theorem readEscape?_digits (c : Char) (rest : List Char) :
    readEscape? ('u' :: '{' :: (Nat.toDigits 16 c.toNat ++ '}' :: rest)) = some (c, rest) := by
  have hdigits : ∀ d ∈ Nat.toDigits 16 c.toNat, decide (d ≠ '}') = true := by
    intro d hd
    apply decide_eq_true
    rintro rfl
    exact brace_not_mem_toDigits c.toNat hd
  rw [readEscape?, List.takeWhile_append_of_pos hdigits, List.dropWhile_append_of_pos hdigits]
  simp [ofDigits_toDigits]

/-- A character is read back from what stands for it, whatever comes behind it. -/
theorem readChar?_escapeChar (c : Char) (rest : List Char) :
    readChar? (escapeChar c ++ rest) = some (c, rest) := by
  rcases escapeChar_cases c with ⟨letter, hletter, hc⟩ | ⟨-, hquote, hslash, hc⟩ | hc
  · rw [hc]
    show readEscape? (letter :: rest) = some (c, rest)
    exact readEscape?_letter hletter rest
  · rw [hc, List.singleton_append, readChar?, if_neg hquote, if_neg hslash]
  · rw [hc]
    show readEscape? ('u' :: '{' :: (Nat.toDigits 16 c.toNat ++ ['}'] ++ rest)) = some (c, rest)
    rw [List.append_assoc]
    exact readEscape?_digits c rest

/-! ### Texts -/

theorem escapeChar_append_inj {c d : Char} {a b : List Char}
    (h : escapeChar c ++ a = escapeChar d ++ b) : c = d ∧ a = b := by
  have hread := congrArg readChar? h
  rw [readChar?_escapeChar, readChar?_escapeChar] at hread
  exact Prod.mk.inj (Option.some.inj hread)

theorem escapeChar_append_ne_quote (c : Char) (a b : List Char) :
    escapeChar c ++ a ≠ '"' :: b := by
  intro h
  have hread := congrArg readChar? h
  rw [readChar?_escapeChar, readChar?_quote] at hread
  exact absurd hread nofun

/-- Up to the closing quote an escaped text is that of one text only. -/
theorem escape_append_inj {s t a b : List Char}
    (h : escape s ++ '"' :: a = escape t ++ '"' :: b) : s = t ∧ a = b := by
  induction s generalizing t with
  | nil =>
    cases t with
    | nil => exact ⟨rfl, (List.cons.inj h).2⟩
    | cons d t =>
      -- one text is at its closing quote, where the other one has a character to be read
      rw [escape_cons, List.append_assoc] at h
      exact absurd h.symm (escapeChar_append_ne_quote d _ a)
  | cons c s ih =>
    rw [escape_cons, List.append_assoc] at h
    cases t with
    | nil => exact absurd h (escapeChar_append_ne_quote c _ b)
    | cons d t =>
      rw [escape_cons, List.append_assoc] at h
      obtain ⟨rfl, hrest⟩ := escapeChar_append_inj h
      obtain ⟨rfl, rfl⟩ := ih hrest
      exact ⟨rfl, rfl⟩

/-- Texts that begin with quoted texts are the same only if the quoted texts are, and what
comes behind them. -/
theorem quoted_append_inj {s t : String} {a b : List Char}
    (h : (quoted s).toList ++ a = (quoted t).toList ++ b) : s = t ∧ a = b := by
  have hescape : escape s.toList ++ '"' :: a = escape t.toList ++ '"' :: b := by
    simpa [toList_quoted] using h
  obtain ⟨hchars, hrest⟩ := escape_append_inj hescape
  exact ⟨String.toList_inj.1 hchars, hrest⟩

/-- A control character and what it is written as are told apart. -/
example : quoted "\x7f" = "\"\\u\x7b7f\x7d\"" ∧
    quoted "\\u\x7b7f\x7d" = "\"\\\\u\x7b7f\x7d\"" := by
  decide +kernel

/-! ### What can be shown -/

theorem isControl_of_isPrintable {c : Char} (h : isPrintable c = true) : isControl c = false := by
  rw [← Bool.not_eq_true]
  intro hcontrol
  exact absurd ((isPrintable_of_isControl hcontrol).symm.trans h) Bool.false_ne_true

/-- A text that can be shown is one line, if there is anything in it. -/
theorem lines_of_forall_isPrintable {text : List Char} (hne : text ≠ [])
    (h : ∀ c ∈ text, isPrintable c = true) : lines text = [text] := by
  have hfeed : '\n' ∉ text := by
    intro hmem
    exact absurd (isControl_of_isPrintable (h '\n' hmem)) (by decide)
  rw [lines_of_feed_not_mem hfeed, if_neg hne]

/-- Whether the character is one of ASCII, from the space on and before the delete
character. -/
def isPlainAscii (c : Char) : Bool := 0x20 ≤ c.toNat && c.toNat < 0x7F

theorem isPrintable_of_isPlainAscii {c : Char} (h : isPlainAscii c = true) :
    isPrintable c = true := by
  -- the first range of the table ends before the space, the second one begins at the delete
  -- character
  have hclear : ∀ r ∈ unprintables.bounds, r.2 < 0x20 ∨ 0x7F ≤ r.1 := by decide +kernel
  simp only [isPlainAscii, Bool.and_eq_true, decide_eq_true_eq] at h
  rw [← Bool.not_eq_false, isPrintable_eq_false_iff]
  rintro ⟨r, hr, hfirst, hlast⟩
  rcases hclear r hr with hbelow | habove
  · exact absurd (Nat.le_trans h.1 hlast) (Nat.not_le.2 hbelow)
  · exact absurd (Nat.lt_of_le_of_lt hfirst h.2) (Nat.not_lt.2 habove)

theorem isPrintable_of_mem_plainAscii {text : List Char} (htext : text.all isPlainAscii = true)
    {c : Char} (h : c ∈ text) : isPrintable c = true :=
  isPrintable_of_isPlainAscii (List.all_eq_true.1 htext c h)

theorem isPrintable_of_mem_toDigits {n : Nat} {c : Char} (h : c ∈ Nat.toDigits 16 n) :
    isPrintable c = true := by
  have hdigits : ∀ d < 16, isPlainAscii (Nat.digitChar d) = true := by decide
  obtain ⟨d, hd, rfl⟩ := exists_digitChar_of_mem_toDigits h
  exact isPrintable_of_isPlainAscii (hdigits d hd)

theorem isPrintable_of_mem_codePoint {c d : Char} (h : d ∈ codePoint c) :
    isPrintable d = true := by
  have hparts : codePoint c = ['\\', 'u', '{'] ++ (Nat.toDigits 16 c.toNat ++ ['}']) := rfl
  rw [hparts, List.mem_append, List.mem_append] at h
  rcases h with hopen | hdigit | hclose
  · exact isPrintable_of_mem_plainAscii (by rfl) hopen
  · exact isPrintable_of_mem_toDigits hdigit
  · exact isPrintable_of_mem_plainAscii (by rfl) hclose

theorem isPrintable_of_mem_escapeChar {c d : Char} (h : d ∈ escapeChar c) :
    isPrintable d = true := by
  rcases escapeChar_cases c with ⟨letter, hletter, hc⟩ | ⟨hprintable, -, -, hc⟩ | hc
  · have hshort : ∀ p ∈ letters, ['\\', p.1].all isPlainAscii = true := by decide
    rw [hc] at h
    exact isPrintable_of_mem_plainAscii (hshort (letter, c) hletter) h
  · rw [hc] at h
    obtain rfl := List.mem_singleton.1 h
    exact hprintable
  · rw [hc] at h
    exact isPrintable_of_mem_codePoint h

/-- All of a quoted text can be shown, whatever the text holds. -/
theorem isPrintable_of_mem_quoted {text : String} {d : Char} (h : d ∈ (quoted text).toList) :
    isPrintable d = true := by
  have hparts : (quoted text).toList = ['"'] ++ (escape text.toList ++ ['"']) := toList_quoted text
  rw [hparts, List.mem_append, List.mem_append] at h
  rcases h with hopen | hescape | hclose
  · exact isPrintable_of_mem_plainAscii (by rfl) hopen
  · obtain ⟨c, -, hd⟩ := List.mem_flatMap.1 hescape
    exact isPrintable_of_mem_escapeChar hd
  · exact isPrintable_of_mem_plainAscii (by rfl) hclose

end Text

end Docstrings
