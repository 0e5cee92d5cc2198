/-
Docstrings/Proofs/Scan/Image.lean

What a scan can find: exactly the lists of whole texts.

The texts that a scan finds are whole, whatever it scans.  Conversely, let any whole
texts be given.  Set one after the other, with a line feed between neighbours, they make
a text of which a scan finds these and nothing else: each text brings its own two marker
lines, so behind each of them no block is open, and the next text starts afresh.

    scan ("\n".intercalate ts) = ⟨blocksFrom 1 ts, none⟩

Wholeness is therefore all that can be said of the texts of a scan.

* `lines_intercalate` — the lines of texts set one after the other are their pieces.
* `scan_intercalate` — the scan finds each of them, where it stands.
* `scan_image` — a list of texts is found in some text if and only if all of them are
  whole.
-/
import Docstrings.Proofs.Scan.Whole

namespace Docstrings

open Text

/-! ### Texts one after the other -/

/-- The pieces of the texts, those of the first one first. -/
def piecesOf (ts : List String) : List Line := ts.flatMap fun t => pieces t.toList

@[simp] theorem piecesOf_nil : piecesOf [] = [] := rfl

@[simp] theorem piecesOf_cons (t : String) (ts : List String) :
    piecesOf (t :: ts) = pieces t.toList ++ piecesOf ts := by
  simp [piecesOf]

theorem piecesOf_ne_nil {ts : List String} (h : ts ≠ []) : piecesOf ts ≠ [] := by
  obtain ⟨t, rest, rfl⟩ := List.exists_cons_of_ne_nil h
  simp [pieces_ne_nil]

theorem mem_piecesOf_iff {ts : List String} {l : Line} :
    l ∈ piecesOf ts ↔ ∃ t ∈ ts, l ∈ pieces t.toList := by
  simp [piecesOf]

theorem toList_intercalate_feed (ts : List String) :
    ("\n".intercalate ts).toList = joined (piecesOf ts) := by
  induction ts with
  | nil => simp
  | cons t ts ih =>
    by_cases hrest : ts = []
    · simp [hrest, joined_pieces]
    · rw [piecesOf_cons, joined_append (pieces_ne_nil _) (piecesOf_ne_nil hrest), joined_pieces,
        ← ih, String.intercalate_cons_of_ne_nil hrest]
      simp

theorem getLast?_piecesOf_ne_empty {ts : List String} (h : ∀ t ∈ ts, IsWhole t) :
    (piecesOf ts).getLast? ≠ some [] := by
  induction ts with
  | nil => simp
  | cons t ts ih =>
    intro hlast
    rw [piecesOf_cons, List.getLast?_append] at hlast
    cases hrest : (piecesOf ts).getLast? with
    | none =>
      rw [hrest, Option.none_or] at hlast
      exact (h t (by simp)).getLast?_ne_empty hlast
    | some l =>
      rw [hrest, Option.some_or] at hlast
      exact ih (fun u hu => h u (List.mem_cons_of_mem t hu)) (hrest.trans hlast)

/-- The lines of whole texts one after the other are their pieces. -/
theorem lines_intercalate {ts : List String} (h : ∀ t ∈ ts, IsWhole t) :
    lines ("\n".intercalate ts).toList = piecesOf ts := by
  rw [toList_intercalate_feed]
  apply lines_joined
  · intro l hl
    obtain ⟨t, ht, hl⟩ := mem_piecesOf_iff.1 hl
    exact (h t ht).unbroken l hl
  · intro l hl
    obtain ⟨t, ht, hl⟩ := mem_piecesOf_iff.1 hl
    exact (h t ht).getLast?_ne_return l hl
  · exact getLast?_piecesOf_ne_empty h

/-! ### The scan of such a text -/

/-- The texts as blocks, each right behind the one before, the first one from line `n`
on. -/
def blocksFrom (n : Nat) : List String → List Block
  | [] => []
  | t :: ts =>
    ⟨t, n, n + (pieces t.toList).length - 1⟩ :: blocksFrom (n + (pieces t.toList).length) ts

theorem scanFrom_piecesOf (n : Nat) {ts : List String} (h : ∀ t ∈ ts, IsWhole t) :
    scanFrom n none (piecesOf ts) = ⟨blocksFrom n ts, none⟩ := by
  induction ts generalizing n with
  | nil => rfl
  | cons t ts ih =>
    have hrest := ih (n + (pieces t.toList).length) fun u hu => h u (List.mem_cons_of_mem t hu)
    have htext : String.ofList (joined (pieces t.toList)) = t := by
      rw [joined_pieces, String.ofList_toList]
    rw [piecesOf_cons, scanFrom_wholeLines_append n (h t (by simp)), hrest, htext]
    rfl

/-- The scan of whole texts one after the other finds each of them, and leaves no block
open. -/
theorem scan_intercalate {ts : List String} (h : ∀ t ∈ ts, IsWhole t) :
    scan ("\n".intercalate ts) = ⟨blocksFrom 1 ts, none⟩ := by
  rw [scan, lines_intercalate h, scanFrom_piecesOf 1 h]

@[simp] theorem map_text_blocksFrom (n : Nat) (ts : List String) :
    (blocksFrom n ts).map Block.text = ts := by
  induction ts generalizing n with
  | nil => rfl
  | cons t ts ih => rw [blocksFrom, List.map_cons, ih]

/-- Before each text stand the pieces of those before it. -/
theorem getElem?_blocksFrom (n : Nat) (ts : List String) (i : Nat) :
    (blocksFrom n ts)[i]? = ts[i]?.map fun t =>
      ⟨t, n + (piecesOf (ts.take i)).length, n + (piecesOf (ts.take (i + 1))).length - 1⟩ := by
  induction ts generalizing n i with
  | nil => simp [blocksFrom]
  | cons t ts ih =>
    cases i with
    | zero => simp [blocksFrom]
    | succ i =>
      -- the text in front moves all that follow by its pieces
      rw [blocksFrom, List.getElem?_cons_succ, List.getElem?_cons_succ, ih]
      simp [List.take_succ_cons, Nat.add_assoc]

/-! ### Exactly the whole texts -/

theorem isWhole_of_map_text_eq {content : String} {ts : List String}
    (h : (scan content).blocks.map Block.text = ts) : ∀ t ∈ ts, IsWhole t := by
  rintro t ht
  rw [← h] at ht
  obtain ⟨b, hb, rfl⟩ := List.mem_map.1 ht
  exact isWhole_of_mem_blocks hb

/-- **What a scan can find.**  A list of texts is what a scan finds in some text if and
only if all of them are whole; and then a scan finds them in the texts set one after the
other, each of them from the first to the last of its own pieces. -/
theorem scan_image (ts : List String) :
    ((∃ content, (scan content).blocks.map Block.text = ts) ↔ ∀ t ∈ ts, IsWhole t) ∧
    ((∀ t ∈ ts, IsWhole t) ↔
      (scan ("\n".intercalate ts)).blocks.map Block.text = ts ∧
      ∀ i : Nat, (scan ("\n".intercalate ts)).blocks[i]? = ts[i]?.map fun t =>
        ⟨t, 1 + (piecesOf (ts.take i)).length, (piecesOf (ts.take (i + 1))).length⟩) := by
  refine ⟨⟨?_, ?_⟩, ⟨?_, ?_⟩⟩
  · rintro ⟨content, hcontent⟩
    exact isWhole_of_map_text_eq hcontent
  · intro h
    exact ⟨"\n".intercalate ts, by rw [scan_intercalate h, map_text_blocksFrom]⟩
  · intro h
    rw [scan_intercalate h]
    refine ⟨map_text_blocksFrom 1 ts, fun i => ?_⟩
    rw [getElem?_blocksFrom]
    simp only [Nat.add_sub_cancel_left]
  · rintro ⟨htexts, -⟩
    exact isWhole_of_map_text_eq htexts

end Docstrings
