/-
Docstrings/Proofs/Extraction/Scanning.lean

What scanning a file comes to.

There are three ways for it to end.  The path leads to a file whose bytes spell a text,
and then the text is scanned; or something on the path is missing; or anything else is in
the way: the path leads to a directory or through a file, a name is too long, the path
holds a NUL character, or the bytes spell no text.  One bad byte is enough for that,
wherever it stands, and then nothing of the file is scanned.

Each way has its own error, which names the path, and leaves the tree alone.

* `scanBytes_of_namesText`, `scanBytes_of_missing`, `scanBytes_of_illegible` — the three
  ways, as equations.
* `readable_cases` — there is no fourth.
* `scanFile_cases` — the whole of it.
-/
import Docstrings.Extraction
import Docstrings.Proofs.Files.Resolution
import Docstrings.Proofs.Text.Octets

namespace Docstrings

open Files Text
open Log (Event)

/-! ### Paths that can be read, and others -/

namespace Files.Tree

/-- The path leads to a file whose bytes spell the text. -/
def NamesText (t : Tree) (path : Path) (s : String) : Prop :=
  ∃ loc bytes, t.NamesFile path loc bytes ∧ Spells s.toList bytes.data.toList

/-- Why a path on which nothing is missing does not lead to a text. -/
inductive Illegible (t : Tree) (path : Path) : Fault → Prop
  /-- It leads nowhere, but not because something is missing. -/
  | nowhere {fault : Fault} (h : t.LeadsNowhere path fault) (hfault : fault ≠ .missing) :
    Illegible t path fault
  | directory {loc : Location} (h : t.resolve path = .ok loc)
    (hdir : t.node? loc = some .directory) : Illegible t path .isDirectory
  /-- The bytes of the file spell no text. -/
  | noText {loc : Location} {bytes : ByteArray} (h : t.NamesFile path loc bytes)
    (htext : ∀ s : String, ¬ Spells s.toList bytes.data.toList) : Illegible t path .notText

section

variable {t : Tree} {path : Path}

theorem namesText_iff {s : String} : t.NamesText path s ↔ t.read path = .ok (encode s) := by
  rw [read_eq_ok_iff]
  constructor
  · rintro ⟨loc, bytes, hnames, hspells⟩
    rw [← eq_encode_iff] at hspells
    exact ⟨loc, hspells ▸ hnames⟩
  · rintro ⟨loc, hnames⟩
    exact ⟨loc, encode s, hnames, eq_encode_iff.1 rfl⟩

/-- A path leads to a text, or something on it is missing, or something else is in the
way. -/
theorem readable_cases (t : Tree) (path : Path) :
    (∃ s, t.NamesText path s) ∨ t.LeadsNowhere path .missing ∨
      ∃ fault, t.Illegible path fault := by
  rcases hread : t.read path with fault | bytes
  · rcases read_eq_error_iff.1 hread with hnowhere | ⟨loc, hresolve, hdir, rfl⟩
    · by_cases hfault : fault = .missing
      · exact .inr (.inl (hfault ▸ hnowhere))
      · exact .inr (.inr ⟨fault, .nowhere hnowhere hfault⟩)
    · exact .inr (.inr ⟨.isDirectory, .directory hresolve hdir⟩)
  · obtain ⟨loc, hnames⟩ := read_eq_ok_iff.1 hread
    by_cases htext : ∃ s : String, Spells s.toList bytes.data.toList
    · obtain ⟨s, hs⟩ := htext
      exact .inl ⟨s, loc, bytes, hnames, hs⟩
    · exact .inr (.inr ⟨.notText, .noText hnames (not_exists.1 htext)⟩)

end

end Files.Tree

/-! ### The three ways to end -/

/-- The places of the docstrings are told in order, and counted from the first number. -/
theorem blockEvents_eq_mapIdx (path : Path) (n : Nat) (blocks : List Block) :
    blockEvents path n blocks
      = blocks.mapIdx fun i b => .docstringFound (i + n) b.startLine b.endLine path := by
  induction blocks generalizing n with
  | nil => rfl
  | cons b blocks ih =>
    rw [blockEvents, ih, List.mapIdx_cons, Nat.zero_add]
    have hnext (i : Nat) : i + (n + 1) = i + 1 + n := by omega
    simp only [hnext]

section

variable {t : Tree} {path : Path}

theorem scanBytes_of_namesText {s : String} (h : t.NamesText path s) :
    scanBytes path (t.read path)
      = ⟨(scan s).events ++ blockEvents path 1 (scan s).blocks, .ok (scan s).blocks⟩ := by
  rw [Tree.namesText_iff.1 h]
  simp only [scanBytes, decode?_encode]

theorem scanBytes_of_missing (h : t.LeadsNowhere path .missing) :
    scanBytes path (t.read path) = ⟨[], .error (.notFound path)⟩ := by
  rw [Tree.read_eq_error_iff.2 (.inl h)]
  rfl

theorem ofFault_of_ne_missing {fault : Fault} (h : fault ≠ .missing) :
    ScanError.ofFault path fault = .unreadable path fault := by
  cases fault with
  | missing => exact absurd rfl h
  | _ => rfl

theorem scanBytes_of_illegible {fault : Fault} (h : t.Illegible path fault) :
    scanBytes path (t.read path) = ⟨[], .error (.unreadable path fault)⟩ := by
  cases h with
  | nowhere hnowhere hfault =>
    rw [Tree.read_eq_error_iff.2 (.inl hnowhere), scanBytes, ofFault_of_ne_missing hfault]
  | directory hresolve hdir =>
    rw [Tree.read_eq_error_iff.2 (.inr ⟨_, hresolve, hdir, rfl⟩)]
    rfl
  | @noText loc bytes hnames htext =>
    have hdecode : decode? bytes = none :=
      decode?_eq_none_iff.2 fun s hs => htext s (eq_encode_iff.1 hs)
    rw [Tree.read_eq_ok_iff.2 ⟨loc, hnames⟩]
    simp only [scanBytes, hdecode, ScanError.ofFault]

/-! ### Results, and what they say of the path -/

theorem result_eq_ok_iff {blocks : List Block} :
    (scanBytes path (t.read path)).result = .ok blocks ↔
      ∃ s, t.NamesText path s ∧ blocks = (scan s).blocks := by
  constructor
  · intro h
    rcases t.readable_cases path with ⟨s, hs⟩ | hmissing | ⟨fault, hfault⟩
    · rw [scanBytes_of_namesText hs] at h
      exact ⟨s, hs, (Except.ok.inj h).symm⟩
    · rw [scanBytes_of_missing hmissing] at h
      exact absurd h nofun
    · rw [scanBytes_of_illegible hfault] at h
      exact absurd h nofun
  · rintro ⟨s, hs, rfl⟩
    rw [scanBytes_of_namesText hs]

theorem result_eq_notFound_iff {p : Path} :
    (scanBytes path (t.read path)).result = .error (.notFound p) ↔
      p = path ∧ t.LeadsNowhere path .missing := by
  constructor
  · intro h
    rcases t.readable_cases path with ⟨s, hs⟩ | hmissing | ⟨fault, hfault⟩
    · rw [scanBytes_of_namesText hs] at h
      exact absurd h nofun
    · rw [scanBytes_of_missing hmissing] at h
      exact ⟨(ScanError.notFound.inj (Except.error.inj h)).symm, hmissing⟩
    · rw [scanBytes_of_illegible hfault] at h
      exact absurd (Except.error.inj h) nofun
  · rintro ⟨rfl, hmissing⟩
    rw [scanBytes_of_missing hmissing]

theorem result_eq_unreadable_iff {p : Path} {fault : Fault} :
    (scanBytes path (t.read path)).result = .error (.unreadable p fault) ↔
      p = path ∧ t.Illegible path fault := by
  constructor
  · intro h
    rcases t.readable_cases path with ⟨s, hs⟩ | hmissing | ⟨fault', hfault⟩
    · rw [scanBytes_of_namesText hs] at h
      exact absurd h nofun
    · rw [scanBytes_of_missing hmissing] at h
      exact absurd (Except.error.inj h) nofun
    · rw [scanBytes_of_illegible hfault] at h
      obtain ⟨rfl, rfl⟩ := ScanError.unreadable.inj (Except.error.inj h)
      exact ⟨rfl, hfault⟩
  · rintro ⟨rfl, hfault⟩
    rw [scanBytes_of_illegible hfault]

/-- Nothing is told of a file that is not scanned. -/
theorem events_of_result_error {e : ScanError}
    (h : (scanBytes path (t.read path)).result = .error e) :
    (scanBytes path (t.read path)).events = [] := by
  rcases t.readable_cases path with ⟨s, hs⟩ | hmissing | ⟨fault, hfault⟩
  · rw [scanBytes_of_namesText hs] at h
    exact absurd h nofun
  · rw [scanBytes_of_missing hmissing]
  · rw [scanBytes_of_illegible hfault]

end

/-! ### The whole of it -/

/-- **What scanning a file comes to.**  The blocks are found exactly if the path leads to a
file whose bytes spell a text, and they are those of the text, each told of in its turn.
The file is not found exactly if the path leads nowhere because something on it is
missing.  In every other case the file cannot be read.  Both errors name the path, nothing
is told of them on the way, and the tree is left as it was. -/
theorem scanFile_cases (t : Tree) (path : Path) :
    ∃ scanned : Traced ScanError (List Block),
      (scanFile Tree.access path).run t = (scanned, t) ∧
      (∀ blocks, scanned.result = .ok blocks ↔
        ∃ s, t.NamesText path s ∧ blocks = (scan s).blocks) ∧
      (∀ s, t.NamesText path s →
        scanned.events = (scan s).events ++ (scan s).blocks.mapIdx fun i b =>
          .docstringFound (i + 1) b.startLine b.endLine path) ∧
      (∀ p, scanned.result = .error (.notFound p) ↔
        p = path ∧ t.LeadsNowhere path .missing) ∧
      (∀ p fault, scanned.result = .error (.unreadable p fault) ↔
        p = path ∧ t.Illegible path fault) ∧
      ((∃ fault, scanned.result = .error (.unreadable path fault)) ↔
        (¬ ∃ s, t.NamesText path s) ∧ ¬ t.LeadsNowhere path .missing) ∧
      ((∃ e, scanned.result = .error e) → scanned.events = []) := by
  refine ⟨scanBytes path (t.read path), rfl, fun _ => result_eq_ok_iff, ?_,
    fun _ => result_eq_notFound_iff, fun _ _ => result_eq_unreadable_iff, ?_, ?_⟩
  · intro s hs
    rw [scanBytes_of_namesText hs, blockEvents_eq_mapIdx]
  · constructor
    · rintro ⟨fault, hresult⟩
      -- a result is only one of the three
      constructor
      · rintro ⟨s, hs⟩
        rw [scanBytes_of_namesText hs] at hresult
        exact absurd hresult nofun
      · intro hmissing
        rw [scanBytes_of_missing hmissing] at hresult
        exact absurd (Except.error.inj hresult) nofun
    · rintro ⟨htext, hmissing⟩
      rcases t.readable_cases path with hs | hm | ⟨fault, hfault⟩
      · exact absurd hs htext
      · exact absurd hm hmissing
      · exact ⟨fault, result_eq_unreadable_iff.2 ⟨rfl, hfault⟩⟩
  · rintro ⟨e, he⟩
    exact events_of_result_error he

end Docstrings
