/-
Docstrings/Proofs/Text/Octets.lean

Texts written as octets.

A character takes one to four octets.  The first one is marked with how many they are,
the others with that they go on, and what the marks leave free are the bits of the
number of the character:

    0xxxxxxx
    110xxxxx 10xxxxxx
    1110xxxx 10xxxxxx 10xxxxxx
    11110xxx 10xxxxxx 10xxxxxx 10xxxxxx

Of these only the shortest one counts in which there is room for the number.  That the
number is that of a character, no surrogate and none beyond the last code point, is in
the type `Char`.

Design.  `Octets` and `Spells` say what is written, one constructor for each number of
octets, and nothing of how octets are read.  Reading is then shown to accept just what
they derive, so a cut sequence, a longer one than needed, or one for no character spoils
the octets it stands among.

* `octets_utf8EncodeChar`, `Octets.eq_utf8EncodeChar` — a character is written in one
  way.
* `eq_encode_iff` — the bytes of a text are those that spell it.
-/
import Docstrings.Text.Encoding

namespace Docstrings

namespace Text

/-! ### Marked octets -/

/-- The octet has the mark and carries the number, for which the mark leaves room. -/
structure Carries (b : UInt8) (mark room n : Nat) : Prop where
  toNat_eq : b.toNat = n + mark
  lt_room : n < room

theorem Carries.eq_ofNat {b : UInt8} {mark room n m : Nat} (h : Carries b mark room n)
    (hm : m = n) : b = UInt8.ofNat (m + mark) := by
  rw [hm, ← h.toNat_eq, UInt8.ofNat_toNat]

theorem carries_ofNat {mark room n : Nat} (h : n < room) (hroom : mark + room ≤ 0x100) :
    Carries (UInt8.ofNat (n + mark)) mark room n := by
  refine ⟨UInt8.toNat_ofNat_of_lt' ?_, h⟩
  show n + mark < 0x100
  omega

/-- There is always room for the last digit. -/
theorem carries_mod (n : Nat) {mark room : Nat} (h : 0 < room) (hroom : mark + room ≤ 0x100) :
    Carries (UInt8.ofNat (n % room + mark)) mark room (n % room) :=
  carries_ofNat (Nat.mod_lt n h) hroom

/-! ### The octets of a character -/

/-- The octets that a character is written in.  No number that has room in fewer octets is
written in more. -/
inductive Octets (c : Char) : List UInt8 → Prop
  | one {a : UInt8} {x : Nat} (ha : Carries a 0x00 0x80 x) (hc : c.toNat = x) : Octets c [a]
  | two {a b : UInt8} {x y : Nat} (ha : Carries a 0xC0 0x20 x) (hb : Carries b 0x80 0x40 y)
      (hc : c.toNat = x * 0x40 + y) (hleast : 0x80 ≤ c.toNat) : Octets c [a, b]
  | three {a b d : UInt8} {x y z : Nat} (ha : Carries a 0xE0 0x10 x)
      (hb : Carries b 0x80 0x40 y) (hd : Carries d 0x80 0x40 z)
      (hc : c.toNat = (x * 0x40 + y) * 0x40 + z) (hleast : 0x800 ≤ c.toNat) :
      Octets c [a, b, d]
  | four {a b d e : UInt8} {x y z w : Nat} (ha : Carries a 0xF0 0x08 x)
      (hb : Carries b 0x80 0x40 y) (hd : Carries d 0x80 0x40 z) (he : Carries e 0x80 0x40 w)
      (hc : c.toNat = ((x * 0x40 + y) * 0x40 + z) * 0x40 + w) (hleast : 0x10000 ≤ c.toNat) :
      Octets c [a, b, d, e]

theorem Octets.eq_utf8EncodeChar {c : Char} {os : List UInt8} (h : Octets c os) :
    os = String.utf8EncodeChar c := by
  have hval : c.val.toNat = c.toNat := rfl
  unfold String.utf8EncodeChar
  rw [hval]
  -- the least number for so many octets tells the branch, its digits the octets
  cases h with
  | one ha hc =>
    have hx := ha.lt_room
    rw [if_pos (by omega), ha.eq_ofNat hc, Nat.add_zero]
  | two ha hb hc hleast =>
    have hx := ha.lt_room
    have hy := hb.lt_room
    rw [if_neg (by omega), if_pos (by omega), ← ha.eq_ofNat (by omega), ← hb.eq_ofNat (by omega)]
  | three ha hb hd hc hleast =>
    have hx := ha.lt_room
    have hy := hb.lt_room
    have hz := hd.lt_room
    rw [if_neg (by omega), if_neg (by omega), if_pos (by omega), ← ha.eq_ofNat (by omega),
      ← hb.eq_ofNat (by omega), ← hd.eq_ofNat (by omega)]
  | four ha hb hd he hc hleast =>
    have hx := ha.lt_room
    have hy := hb.lt_room
    have hz := hd.lt_room
    have hw := he.lt_room
    rw [if_neg (by omega), if_neg (by omega), if_neg (by omega), ← ha.eq_ofNat (by omega),
      ← hb.eq_ofNat (by omega), ← hd.eq_ofNat (by omega), ← he.eq_ofNat (by omega)]

theorem octets_utf8EncodeChar (c : Char) : Octets c (String.utf8EncodeChar c) := by
  have hval : c.val.toNat = c.toNat := rfl
  have hlast : c.toNat < 0x110000 := by
    have hvalid := c.valid
    rw [UInt32.isValidChar, Nat.isValidChar] at hvalid
    omega
  have htail (n : Nat) : Carries (UInt8.ofNat (n % 0x40 + 0x80)) 0x80 0x40 (n % 0x40) :=
    carries_mod n (by decide) (by decide)
  unfold String.utf8EncodeChar
  rw [hval]
  by_cases h₁ : c.toNat ≤ 0x7F
  · rw [if_pos h₁]
    have ha : Carries (UInt8.ofNat (c.toNat + 0x00)) 0x00 0x80 c.toNat :=
      carries_ofNat (Nat.lt_succ_of_le h₁) (by decide)
    exact .one ha rfl
  rw [if_neg h₁]
  by_cases h₂ : c.toNat ≤ 0x7FF
  · rw [if_pos h₂]
    exact .two (carries_mod _ (by decide) (by decide)) (htail _) (by omega) (by omega)
  rw [if_neg h₂]
  by_cases h₃ : c.toNat ≤ 0xFFFF
  · rw [if_pos h₃]
    exact .three (carries_mod _ (by decide) (by decide)) (htail _) (htail _) (by omega) (by omega)
  · rw [if_neg h₃]
    exact .four (carries_mod _ (by decide) (by decide)) (htail _) (htail _) (htail _) (by omega)
      (by omega)

/-! ### The octets of a text -/

/-- The octets spell the characters: those of one character come behind those of the one
before. -/
inductive Spells : List Char → List UInt8 → Prop
  | nil : Spells [] []
  | cons {c : Char} {cs : List Char} {os rest : List UInt8} (hc : Octets c os)
      (hrest : Spells cs rest) : Spells (c :: cs) (os ++ rest)

theorem Spells.eq_flatMap {cs : List Char} {os : List UInt8} (h : Spells cs os) :
    os = cs.flatMap String.utf8EncodeChar := by
  induction h with
  | nil => rfl
  | cons hc hrest ih => rw [List.flatMap_cons, ← hc.eq_utf8EncodeChar, ← ih]

theorem spells_flatMap (cs : List Char) : Spells cs (cs.flatMap String.utf8EncodeChar) := by
  induction cs with
  | nil => exact .nil
  | cons c cs ih => exact .cons (octets_utf8EncodeChar c) ih

theorem toList_data_encode (s : String) :
    (encode s).data.toList = s.toList.flatMap String.utf8EncodeChar := by
  have hencode : encode s = s.toList.utf8Encode := String.utf8Encode_toList.symm
  rw [hencode, List.utf8Encode]
  exact congrArg Array.toList List.data_toByteArray

/-- The bytes of a text are those that spell it. -/
theorem eq_encode_iff {bytes : ByteArray} {s : String} :
    bytes = encode s ↔ Spells s.toList bytes.data.toList := by
  constructor
  · rintro rfl
    rw [toList_data_encode]
    exact spells_flatMap s.toList
  · intro h
    have hdata : bytes.data.toList = (encode s).data.toList := by
      rw [toList_data_encode]
      exact h.eq_flatMap
    exact ByteArray.ext (Array.toList_inj.1 hdata)

end Text

end Docstrings
