/-
Docstrings/Text/Quoted.lean

Quoted text: a text between double quotes, on one line, whatever it holds.

Design.  The quote and the backslash are written with a backslash before them;
line feed, carriage return, tab and NUL have short escapes; any other character
that cannot be shown by itself is written as its code point in lower-case
hexadecimal between braces.  All other characters, the single quote among them,
stand for themselves.  `escapeChar` is the whole rule; `escape` applies it to
each character and `quoted` adds the quotes.

* `escape_append` — escaping goes character by character.
* `escapeChar_of_isPrintable` — all but the quote and the backslash that can be
  shown by itself stands for itself.
-/
import Docstrings.Text.Printable

namespace Docstrings

namespace Text

/-! ### Escaping -/

/-- The code point of a character between braces, in lower-case hexadecimal
without leading zeros. -/
def codePoint (c : Char) : List Char :=
  '\\' :: 'u' :: '{' :: (Nat.toDigits 16 c.toNat ++ ['}'])

/-- How a character is written between quotes. -/
def escapeChar (c : Char) : List Char :=
  if c = '"' then ['\\', '"']
  else if c = '\\' then ['\\', '\\']
  else if c = '\n' then ['\\', 'n']
  else if c = '\r' then ['\\', 'r']
  else if c = '\t' then ['\\', 't']
  else if c = '\x00' then ['\\', '0']
  else if isPrintable c then [c]
  else codePoint c

/-- How a text is written between quotes. -/
def escape (text : List Char) : List Char := text.flatMap escapeChar

/-- The text between double quotes. -/
def quoted (text : String) : String := "\"" ++ String.ofList (escape text.toList) ++ "\""

@[simp] theorem escape_cons (c : Char) (text : List Char) :
    escape (c :: text) = escapeChar c ++ escape text := rfl

@[simp] theorem escape_append (a b : List Char) : escape (a ++ b) = escape a ++ escape b := by
  simp [escape]

theorem escapeChar_of_isPrintable {c : Char} (hp : isPrintable c = true) (hquote : c ≠ '"')
    (hslash : c ≠ '\\') : escapeChar c = [c] := by
  have hne : ∀ d, isControl d = true → c ≠ d := by
    rintro d hd rfl
    simp [isPrintable_of_isControl hd] at hp
  simp [escapeChar, hquote, hslash, hp, hne '\n' (by decide), hne '\r' (by decide),
    hne '\t' (by decide), hne '\x00' (by decide)]

/-- The text of a quoted text, character by character. -/
theorem toList_quoted (text : String) :
    (quoted text).toList = '"' :: (escape text.toList ++ ['"']) := by
  simp [quoted]

end Text

end Docstrings
