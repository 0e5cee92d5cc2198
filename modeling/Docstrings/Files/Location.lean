/-
Docstrings/Files/Location.lean

Locations in a tree of files and directories.

A location is the names on the way to it from the root.  It also holds how many
they are, so that two locations at different depths are told apart without a look
at the names.

* `ext_names` — the names are all that there is to a location.
* `parent_child` — going to an entry and up again leads back.
* `holds_iff` — which locations lie at or below another one.
-/

namespace Docstrings

namespace Files

/-- The names on the way from the root. -/
structure Location where
  depth : Nat
  names : List String
  depth_eq : depth = names.length
  deriving DecidableEq

namespace Location

theorem ext_names {a b : Location} (h : a.names = b.names) : a = b := by
  obtain ⟨depth, names, rfl⟩ := a
  obtain ⟨depth', names', rfl⟩ := b
  obtain rfl : names = names' := h
  rfl

/-- The root. -/
def root : Location := ⟨0, [], rfl⟩

/-- The entry of a name below a location. -/
def child (loc : Location) (name : String) : Location :=
  ⟨loc.depth + 1, loc.names ++ [name], by simp [loc.depth_eq]⟩

/-- The location above, which for the root is the root itself. -/
def parent (loc : Location) : Location :=
  ⟨loc.depth - 1, loc.names.dropLast, by simp [loc.depth_eq]⟩

/-- Whether the other location is this one or below it. -/
def holds (loc other : Location) : Bool :=
  loc.depth ≤ other.depth && loc.names.isPrefixOf other.names

@[simp] theorem names_root : root.names = [] := rfl

@[simp] theorem names_child (loc : Location) (name : String) :
    (loc.child name).names = loc.names ++ [name] := rfl

@[simp] theorem parent_root : root.parent = root := rfl

@[simp] theorem parent_child (loc : Location) (name : String) : (loc.child name).parent = loc :=
  ext_names (by simp [parent])

@[simp] theorem child_ne_root (loc : Location) (name : String) : loc.child name ≠ root := by
  intro h
  simpa using congrArg names h

theorem child_inj {a b : Location} {name name' : String} :
    a.child name = b.child name' ↔ a = b ∧ name = name' := by
  constructor
  · intro h
    have hnames : a.names ++ [name] = b.names ++ [name'] := congrArg names h
    obtain ⟨hab, hname⟩ := List.append_inj' hnames rfl
    exact ⟨ext_names hab, by simpa using hname⟩
  · rintro ⟨rfl, rfl⟩
    rfl

/-- A location holds another one if the names on its way come first on the other's
way. -/
theorem holds_iff {loc other : Location} : loc.holds other = true ↔ loc.names <+: other.names := by
  simp only [holds, Bool.and_eq_true, decide_eq_true_eq, List.isPrefixOf_iff_prefix]
  refine ⟨fun h => h.2, fun h => ⟨?_, h⟩⟩
  rw [loc.depth_eq, other.depth_eq]
  exact h.length_le

theorem holds_self (loc : Location) : loc.holds loc = true := holds_iff.2 (List.prefix_refl _)

theorem holds_trans {a b c : Location} (hab : a.holds b = true) (hbc : b.holds c = true) :
    a.holds c = true :=
  holds_iff.2 ((holds_iff.1 hab).trans (holds_iff.1 hbc))

theorem parent_holds (loc : Location) : loc.parent.holds loc = true :=
  holds_iff.2 (List.dropLast_prefix loc.names)

/-- Only the root holds what is above it. -/
theorem eq_root_of_holds_parent {loc : Location} (h : loc.holds loc.parent = true) :
    loc = root := by
  have hlength : loc.names.length ≤ loc.names.dropLast.length := (holds_iff.1 h).length_le
  rw [List.length_dropLast] at hlength
  exact ext_names (List.length_eq_zero_iff.1 (by omega))

end Location

end Files

end Docstrings
