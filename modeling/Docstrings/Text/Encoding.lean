/-
Docstrings/Text/Encoding.lean

Texts as bytes, in UTF-8.

Reading is strict: bytes that no text is written as are refused, and a byte order
mark is a character like any other.

* `decode?_eq_some_iff` — bytes are read as a text exactly if the text is written
  as those bytes.
* `encode_injective` — two texts are never written alike.
-/

namespace Docstrings

namespace Text

/-- The bytes of a text. -/
def encode (text : String) : ByteArray := text.toUTF8

/-- The text that the bytes are read as, if there is one. -/
def decode? (bytes : ByteArray) : Option String := String.fromUTF8? bytes

/-- How many bytes a text takes. -/
def byteCount (text : String) : Nat := text.utf8ByteSize

theorem encode_injective {a b : String} (h : encode a = encode b) : a = b :=
  String.toByteArray_inj.1 h

theorem decode?_eq_some_iff {bytes : ByteArray} {text : String} :
    decode? bytes = some text ↔ bytes = encode text := by
  unfold decode? String.fromUTF8?
  constructor
  · intro h
    split at h
    · rename_i hvalid
      obtain rfl := Option.some.inj h
      rfl
    · exact absurd h (by simp)
  · rintro rfl
    have hvalid : (encode text).IsValidUTF8 := text.isValidUTF8
    rw [dif_pos hvalid]
    rfl

theorem decode?_eq_none_iff {bytes : ByteArray} :
    decode? bytes = none ↔ ∀ text, bytes ≠ encode text := by
  rw [Option.eq_none_iff_forall_ne_some]
  simp only [ne_eq, decode?_eq_some_iff]

@[simp] theorem decode?_encode (text : String) : decode? (encode text) = some text :=
  decode?_eq_some_iff.2 rfl

theorem size_encode (text : String) : (encode text).size = byteCount text := rfl

end Text

end Docstrings
