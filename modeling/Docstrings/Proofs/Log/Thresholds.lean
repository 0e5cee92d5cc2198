/-
Docstrings/Proofs/Log/Thresholds.lean

The thresholds that a setting comes to.

A setting that holds a malformed piece counts as none at all, and then the level depends on
whether the user wants to be told more.  Any other setting decides by itself: for a source,
by the last of its directives with the longest target that the source's name starts with.

Design.  `Decides` says which directive that is, by its place among all of them, while
`Directive.choose?` reads them from left to right and keeps one at a time; `choose?_cases`
compares the two by one directive more at the end.  That directives of different targets
can change places, and that a directive is lost to a later one of the same target, are facts
about the reading from any point on (`prefer_comm`, `foldl_prefer_of_mem`).  So they hold
anywhere in a setting.

* `choose?_eq_some_iff`, `choose?_eq_none_iff` — the directive that decides.
* `Filter.threshold_of_harmless` — changes of a setting that change no threshold.
* `Filter.threshold_cases` — the thresholds for any setting or none.
-/
import Mathlib.Data.List.Induction
import Mathlib.Data.List.Pairwise
import Mathlib.Data.List.Perm.Basic
import Mathlib.Logic.Relation
import Docstrings.Log.Filter
import Docstrings.Proofs.Log.Spelling

namespace Docstrings

namespace Log

namespace Directive

/-! ### Reading one directive more -/

section

variable {name : List Char} {d : Directive}

theorem appliesTo_iff : d.appliesTo name = true ↔ d.target <+: name :=
  List.isPrefixOf_iff_prefix

theorem prefer_of_not_isPrefix (h : ¬ d.target <+: name) (best? : Option Directive) :
    prefer name best? d = best? := by
  unfold prefer
  rw [if_neg (mt appliesTo_iff.1 h)]

theorem prefer_none (h : d.target <+: name) : prefer name none d = some d := by
  unfold prefer
  rw [if_pos (appliesTo_iff.2 h)]

theorem prefer_some (h : d.target <+: name) (best : Directive) :
    prefer name (some best) d
      = some (if best.target.length ≤ d.target.length then d else best) := by
  unfold prefer
  rw [if_pos (appliesTo_iff.2 h)]
  show (if best.target.length ≤ d.target.length then some d else some best) = _
  rw [apply_ite some]

end

/-! ### The directive that decides -/

/-- The directive is the last one of those with the longest target that the name starts
with. -/
def Decides (name : List Char) (ds : List Directive) (d : Directive) : Prop :=
  ∃ before after, ds = before ++ d :: after ∧ d.target <+: name ∧
    (∀ e ∈ ds, e.target <+: name → e.target.length ≤ d.target.length) ∧
    ∀ e ∈ after, e.target ≠ d.target

/-- None of the directives speaks of the name. -/
def NoneApplies (name : List Char) (ds : List Directive) : Prop :=
  ∀ d ∈ ds, ¬ d.target <+: name

section

variable {name : List Char} {ds : List Directive} {d e : Directive}

theorem forall_mem_concat {p : Directive → Prop} (h : ∀ e ∈ ds, p e) (hd : p d) :
    ∀ e ∈ ds ++ [d], p e := by
  intro e he
  rcases List.mem_append.1 he with hmem | hlast
  · exact h e hmem
  · obtain rfl := List.mem_singleton.1 hlast
    exact hd

/-- The one before still decides if one more is not as good. -/
theorem Decides.concat (h : Decides name ds e)
    (hless : d.target <+: name → d.target.length < e.target.length) :
    Decides name (ds ++ [d]) e := by
  obtain ⟨before, after, rfl, happlies, hlongest, hlast⟩ := h
  refine ⟨before, after ++ [d], by simp, happlies, ?_, ?_⟩
  · exact forall_mem_concat hlongest fun hd => (hless hd).le
  · -- a directive of the same target would have been as good
    refine forall_mem_concat hlast fun heq => ?_
    have hlt := hless (heq ▸ happlies)
    rw [heq] at hlt
    exact lt_irrefl _ hlt

/-- One more decides if it is as good as all before. -/
theorem decides_concat (happlies : d.target <+: name)
    (hlongest : ∀ e ∈ ds, e.target <+: name → e.target.length ≤ d.target.length) :
    Decides name (ds ++ [d]) d :=
  ⟨ds, [], rfl, happlies, forall_mem_concat hlongest fun _ => le_rfl, by simp⟩

/-- What has been kept when all directives have been read. -/
theorem choose?_cases (name : List Char) (ds : List Directive) :
    (∃ d, choose? name ds = some d ∧ Decides name ds d) ∨
      (choose? name ds = none ∧ NoneApplies name ds) := by
  induction ds using List.reverseRecOn with
  | nil => exact .inr ⟨rfl, by simp [NoneApplies]⟩
  | append_singleton ds d ih =>
    -- the one more directive decides, or the one before still does
    rw [choose?_concat]
    by_cases happlies : d.target <+: name
    · rcases ih with ⟨best, hbest, hdecides⟩ | ⟨hnone, hno⟩
      · obtain ⟨-, -, -, -, hlongest, -⟩ := id hdecides
        rw [hbest, prefer_some happlies]
        by_cases hle : best.target.length ≤ d.target.length
        · rw [if_pos hle]
          refine .inl ⟨d, rfl, decides_concat happlies ?_⟩
          intro e he hedge
          exact (hlongest e he hedge).trans hle
        · rw [if_neg hle]
          exact .inl ⟨best, rfl, hdecides.concat fun _ => not_le.1 hle⟩
      · rw [hnone, prefer_none happlies]
        refine .inl ⟨d, rfl, decides_concat happlies ?_⟩
        intro e he hedge
        exact absurd hedge (hno e he)
    · rw [prefer_of_not_isPrefix happlies]
      rcases ih with ⟨best, hbest, hdecides⟩ | ⟨hnone, hno⟩
      · exact .inl ⟨best, hbest, hdecides.concat fun hd => absurd hd happlies⟩
      · exact .inr ⟨hnone, forall_mem_concat hno happlies⟩

/-- Targets of one length are the same where both are the start of a name. -/
theorem target_eq_of_length_eq (hd : d.target <+: name) (he : e.target <+: name)
    (hlength : d.target.length = e.target.length) : d.target = e.target :=
  (List.prefix_of_prefix_length_le hd he hlength.le).eq_of_length hlength

/-- One directive decides, if any. -/
theorem Decides.unique (h : Decides name ds d) (h' : Decides name ds e) : d = e := by
  obtain ⟨before, after, hds, happlies, hlongest, hlast⟩ := h
  obtain ⟨before', after', hds', happlies', hlongest', hlast'⟩ := h'
  have hlength : d.target.length = e.target.length :=
    le_antisymm (hlongest' d (by simp [hds]) happlies) (hlongest e (by simp [hds']) happlies')
  have htarget : d.target = e.target := target_eq_of_length_eq happlies happlies' hlength
  -- neither of the two comes behind the other
  rcases List.append_eq_append_iff.1 (hds.symm.trans hds') with
    ⟨more, -, hmore⟩ | ⟨more, -, hmore⟩
  · cases more with
    | nil => exact (List.cons.inj hmore).1
    | cons x more =>
      obtain ⟨-, rfl⟩ := List.cons.inj hmore
      exact absurd htarget.symm (hlast e (by simp))
  · cases more with
    | nil => exact (List.cons.inj hmore).1.symm
    | cons x more =>
      obtain ⟨-, rfl⟩ := List.cons.inj hmore
      exact absurd htarget (hlast' d (by simp))

/-- **The directive that decides** is the one that has been kept. -/
theorem choose?_eq_some_iff : choose? name ds = some d ↔ Decides name ds d := by
  rcases choose?_cases name ds with ⟨best, hbest, hdecides⟩ | ⟨hnone, hno⟩
  · rw [hbest]
    constructor
    · intro h
      obtain rfl := Option.some.inj h
      exact hdecides
    · intro h
      rw [hdecides.unique h]
  · rw [hnone]
    constructor
    · exact nofun
    · rintro ⟨before, after, rfl, happlies, -⟩
      exact absurd happlies (hno d (by simp))

theorem choose?_eq_none_iff : choose? name ds = none ↔ NoneApplies name ds := by
  rcases choose?_cases name ds with ⟨best, hbest, hdecides⟩ | ⟨hnone, hno⟩
  · rw [hbest]
    obtain ⟨before, after, rfl, happlies, -⟩ := hdecides
    constructor
    · exact nofun
    · intro hno
      exact absurd happlies (hno best (by simp))
  · exact iff_of_true hnone hno

end

/-! ### Places of directives -/

section

variable {name : List Char} {d e : Directive}

/-- Directives of different targets can change places. -/
theorem prefer_comm (h : d.target ≠ e.target) (best? : Option Directive) :
    prefer name (prefer name best? d) e = prefer name (prefer name best? e) d := by
  by_cases hd : d.target <+: name
  · by_cases he : e.target <+: name
    · -- where both apply, one of the targets is the longer one
      have hlength : d.target.length ≠ e.target.length := mt (target_eq_of_length_eq hd he) h
      cases best? with
      | none =>
        rw [prefer_none hd, prefer_none he, prefer_some hd, prefer_some he]
        split_ifs <;> first | rfl | omega
      | some best =>
        rw [prefer_some hd, prefer_some he, prefer_some he, prefer_some hd]
        split_ifs <;> first | rfl | omega
    · rw [prefer_of_not_isPrefix he, prefer_of_not_isPrefix he]
  · rw [prefer_of_not_isPrefix hd, prefer_of_not_isPrefix hd]

/-- A directive is lost to a later one of the same target. -/
theorem prefer_of_target_eq (h : d.target = e.target) (best? : Option Directive) :
    prefer name (prefer name best? d) e = prefer name best? e := by
  by_cases he : e.target <+: name
  · have hd : d.target <+: name := h ▸ he
    have hlength : d.target.length = e.target.length := congrArg List.length h
    cases best? with
    | none => rw [prefer_none hd, prefer_none he, prefer_some he, if_pos hlength.le]
    | some best =>
      rw [prefer_some hd, prefer_some he, prefer_some he]
      split_ifs <;> first | rfl | omega
  · have hd : ¬ d.target <+: name := h ▸ he
    rw [prefer_of_not_isPrefix hd]

/-- A directive that has its target again later has no effect. -/
theorem foldl_prefer_of_mem {ds : List Directive} (hmem : e ∈ ds) (h : d.target = e.target)
    (best? : Option Directive) :
    ds.foldl (prefer name) (prefer name best? d) = ds.foldl (prefer name) best? := by
  induction ds generalizing best? with
  | nil => exact absurd hmem List.not_mem_nil
  | cons x ds ih =>
    rw [List.foldl_cons, List.foldl_cons]
    by_cases hx : d.target = x.target
    · rw [prefer_of_target_eq hx]
    · -- the directive passes by others until it comes to one of its target
      rcases List.mem_cons.1 hmem with rfl | hrest
      · exact absurd h hx
      · rw [prefer_comm hx, ih hrest]

/-- The order of directives of different targets does not matter. -/
theorem foldl_prefer_perm {ds es : List Directive} (hperm : ds.Perm es)
    (hdistinct : ds.Pairwise fun d e => d.target ≠ e.target) (best? : Option Directive) :
    ds.foldl (prefer name) best? = es.foldl (prefer name) best? := by
  refine hperm.foldl_eq' (fun x hx y hy z => ?_) best?
  by_cases hxy : x = y
  · rw [hxy]
  · have hsymm : Std.Symm fun d e : Directive => d.target ≠ e.target := ⟨fun _ _ => Ne.symm⟩
    exact prefer_comm (hdistinct.forall hx hy hxy) z

end

/-! ### Settings -/

/-- All that stands between the commas of a setting, the empty pieces among them. -/
def fields (setting : String) : List (List Char) := setting.toList.splitOn ','

/-- A piece that counts is malformed. -/
def IsSpoiled (setting : String) : Prop := ∃ piece ∈ pieces setting.toList, Malformed piece

/-- What the good pieces of a setting spell. -/
def spelled (setting : String) : List Directive := (fields setting).filterMap ofPiece?

theorem isSpoiled_iff {setting : String} :
    IsSpoiled setting ↔ ∃ piece ∈ fields setting, piece ≠ [] ∧ Malformed piece := by
  unfold IsSpoiled pieces fields
  simp only [List.mem_filter, and_assoc]
  simp

theorem filterMap_eq_of_forall₂ {ps : List (List Char)} {ds : List Directive}
    (h : List.Forall₂ Spells ps ds) : ps.filterMap ofPiece? = ds := by
  induction h with
  | nil => rfl
  | cons hspells _ ih => rw [List.filterMap_cons_some hspells.ofPiece?_eq, ih]

/-- Empty pieces spell nothing. -/
theorem filterMap_pieces (setting : String) :
    (pieces setting.toList).filterMap ofPiece? = spelled setting := by
  unfold pieces spelled fields
  rw [List.filterMap_filter]
  congr 1
  funext piece
  cases piece with
  | nil => rfl
  | cons c piece => rfl

/-- A setting without malformed pieces comes to what its pieces spell. -/
theorem forall₂_spelled {setting : String} (h : ¬ IsSpoiled setting) :
    List.Forall₂ Spells (pieces setting.toList) (spelled setting) := by
  rcases hparse : parse? setting with - | ds
  · exact absurd (parse?_eq_none_iff_malformed.1 hparse) h
  · have hspells := parse?_eq_some_iff.1 hparse
    rw [← filterMap_pieces, filterMap_eq_of_forall₂ hspells]
    exact hspells

/-! ### Changes of a setting -/

/-- The two pieces do not spell directives of the same target. -/
def TargetsDiffer (p q : List Char) : Prop :=
  ∀ d e, Spells p d → Spells q e → d.target ≠ e.target

/-- The second setting is the first one with a change that makes no difference. -/
inductive Harmless (s s' : String) : Prop
  /-- Pieces of pairwise different targets are put in another order. -/
  | permuted {front ps qs back : List (List Char)} (h : fields s = front ++ ps ++ back)
    (h' : fields s' = front ++ qs ++ back) (hperm : ps.Perm qs)
    (hdistinct : ps.Pairwise TargetsDiffer)
  /-- An empty piece is added. -/
  | padded {front back : List (List Char)} (h : fields s = front ++ back)
    (h' : fields s' = front ++ [] :: back)
  /-- A piece is added whose target occurs again later. -/
  | overridden {front back : List (List Char)} {p q : List Char} {d e : Directive}
    (h : fields s = front ++ back) (h' : fields s' = front ++ p :: back) (hspells : Spells p d)
    (hmem : q ∈ back) (hagain : Spells q e) (htarget : d.target = e.target)

namespace Harmless

variable {s s' : String}

/-- Neither makes a bad setting good, nor a good one bad. -/
theorem isSpoiled_iff (h : Harmless s s') : IsSpoiled s ↔ IsSpoiled s' := by
  rw [Directive.isSpoiled_iff, Directive.isSpoiled_iff]
  cases h with
  | permuted h h' hperm hdistinct =>
    rw [h, h']
    simp only [List.mem_append, hperm.mem_iff]
  | padded h h' =>
    rw [h, h']
    simp [or_and_right, exists_or]
  | @overridden front back p q d e h h' hspells hmem hagain htarget =>
    -- the piece that is added is a good one
    have hgood : ¬ Malformed p := by
      intro hbad
      rw [← ofPiece?_eq_none_iff, hspells.ofPiece?_eq] at hbad
      exact absurd hbad nofun
    rw [h, h']
    simp [or_and_right, exists_or, hgood]

/-- The same directive decides. -/
theorem choose?_eq (h : Harmless s s') (name : List Char) :
    choose? name (spelled s) = choose? name (spelled s') := by
  unfold choose? spelled
  cases h with
  | permuted h h' hperm hdistinct =>
    rw [h, h']
    simp only [List.filterMap_append, List.foldl_append]
    rw [foldl_prefer_perm (hperm.filterMap ofPiece?)]
    refine hdistinct.filterMap ofPiece? fun p q hdiffer d hd e he => ?_
    exact hdiffer d e (ofPiece?_eq_some_iff.1 hd) (ofPiece?_eq_some_iff.1 he)
  | padded h h' =>
    rw [h, h', List.filterMap_append, List.filterMap_append]
    rfl
  | @overridden front back p q d e h h' hspells hmem hagain htarget =>
    have hlater : e ∈ back.filterMap ofPiece? := List.mem_filterMap.2 ⟨q, hmem, hagain.ofPiece?_eq⟩
    rw [h, h', List.filterMap_append, List.filterMap_append,
      List.filterMap_cons_some hspells.ofPiece?_eq, List.foldl_append, List.foldl_append,
      List.foldl_cons, foldl_prefer_of_mem hlater htarget]

end Harmless

end Directive

/-! ### Thresholds -/

namespace Filter

open Directive

section

variable {verbose : Bool} {setting : String} {source : Source}

theorem ofSetting_of_isSpoiled (h : IsSpoiled setting) :
    ofSetting verbose (some setting) = uniform (defaultLevel verbose) :=
  ofSetting_of_parse?_none (parse?_eq_none_iff_malformed.2 h)

theorem ofSetting_of_not_isSpoiled (h : ¬ IsSpoiled setting) :
    ofSetting verbose (some setting) = ⟨spelled setting⟩ :=
  ofSetting_of_parse? (parse?_eq_some_iff.2 (forall₂_spelled h))

/-- The threshold of a filter is the one of the directive that decides. -/
theorem threshold_eq_iff {ds : List Directive} {t : Threshold} :
    (⟨ds⟩ : Filter).threshold source = t ↔
      (∃ d, Decides source.name.toList ds d ∧ d.threshold = t) ∨
        (NoneApplies source.name.toList ds ∧ t = .off) := by
  unfold threshold thresholdFor
  simp only [← choose?_eq_some_iff, ← choose?_eq_none_iff]
  rcases choose? source.name.toList ds with - | d
  · simp [eq_comm]
  · simp

/-- **A harmless change** of a setting changes no threshold, and neither do several. -/
theorem threshold_of_harmless {setting' : String}
    (h : Relation.EqvGen Harmless setting setting') :
    (ofSetting verbose (some setting)).threshold source
      = (ofSetting verbose (some setting')).threshold source := by
  induction h with
  | rel s s' h =>
    by_cases hspoiled : IsSpoiled s
    · rw [ofSetting_of_isSpoiled hspoiled, ofSetting_of_isSpoiled (h.isSpoiled_iff.1 hspoiled)]
    · rw [ofSetting_of_not_isSpoiled hspoiled,
        ofSetting_of_not_isSpoiled (mt h.isSpoiled_iff.2 hspoiled)]
      unfold threshold thresholdFor
      rw [h.choose?_eq]
  | refl s => rfl
  | symm s s' _ ih => exact ih.symm
  | trans s s' s'' _ _ ih ih' => exact ih.trans ih'

end

/-- **The thresholds** for any setting or none.  Without a setting, or where a piece of it is
malformed, the level that the user's wish stands for holds for all sources.  Otherwise the
wish has no part in it: the last directive with the longest target that the source's name
starts with decides, and where there is none, nothing is let through.  So the order of
pieces of different targets, empty pieces, and pieces whose target occurs again later do not
matter. -/
theorem threshold_cases (source : Source) :
    (∀ verbose, (ofSetting verbose none).threshold source = .upTo (defaultLevel verbose)) ∧
    (∀ setting, (∃ piece ∈ pieces setting.toList, Malformed piece) → ∀ verbose,
      (ofSetting verbose (some setting)).threshold source = .upTo (defaultLevel verbose)) ∧
    (∀ setting, (∀ piece ∈ pieces setting.toList, ¬ Malformed piece) →
      ∃ ds, List.Forall₂ Spells (pieces setting.toList) ds ∧ ∀ verbose t,
        (ofSetting verbose (some setting)).threshold source = t ↔
          (∃ d, Decides source.name.toList ds d ∧ d.threshold = t) ∨
            (NoneApplies source.name.toList ds ∧ t = .off)) ∧
    ∀ setting setting', Relation.EqvGen Harmless setting setting' → ∀ verbose,
      (ofSetting verbose (some setting)).threshold source
        = (ofSetting verbose (some setting')).threshold source := by
  refine ⟨fun verbose => rfl, ?_, ?_, fun setting setting' h verbose => threshold_of_harmless h⟩
  · intro setting hbad verbose
    rw [ofSetting_of_isSpoiled hbad]
    rfl
  · intro setting hgood
    have hnot : ¬ IsSpoiled setting := fun ⟨piece, hmem, hbad⟩ => hgood piece hmem hbad
    refine ⟨spelled setting, forall₂_spelled hnot, fun verbose t => ?_⟩
    rw [ofSetting_of_not_isSpoiled hnot]
    exact threshold_eq_iff

example : (ofSetting false (some "docstring=off,info,docstring=warn")).threshold .scanner
    = .upTo .warn := by decide

example : (ofSetting false (some "docstring=off,scanner=loud")).threshold .scanner
    = .upTo .info := by decide

end Filter

end Log

end Docstrings
