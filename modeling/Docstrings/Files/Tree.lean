/-
Docstrings/Files/Tree.lean

A tree of files and directories in memory, with a working directory.

Design.  The tree is a list of entries, each with its location.  The root itself
is always there and has no entry.
`node?` is the view of the tree: what stands at a location.  Putting a node at a
location replaces the one that is there, in its place in the list, or else adds
an entry at the end; so putting twice at one location leaves the last node only,
and putting at two locations that both exist may be done in either order.

Nothing here looks at the list but `node?`, `put`, the removals and `names`.

* `node?_put_self`, `node?_put_of_ne` — the tree after a put, through the view.
* `put_put` — of two nodes put at one location, the last one stays.
* `walk_append` — a route is followed step by step.
* `isSome_node?_of_step` — a step leads to something that is there.
-/
import Docstrings.Files.Location
import Docstrings.Files.Path

namespace Docstrings

namespace Files

/-! ### Nodes -/

/-- What stands at a location. -/
inductive Node where
  | file (content : ByteArray)
  | directory

/-- Two files are equal if their contents are. -/
instance : DecidableEq Node
  | .file a, .file b =>
    -- the test of contents is named, as there may be more than one around
    match ByteArray.instDecidableEq a b with
    | isTrue h => isTrue (congrArg Node.file h)
    | isFalse h => isFalse fun heq => h (Node.file.inj heq)
  | .file _, .directory => isFalse nofun
  | .directory, .file _ => isFalse nofun
  | .directory, .directory => isTrue rfl

/-- A tree of files and directories. -/
structure Tree where
  entries : List (Location × Node)
  /-- Where relative paths start. -/
  workingDirectory : Location
  deriving DecidableEq

namespace Tree

/-- A tree with a working directory below the root and nothing in it. -/
def fresh : Tree :=
  let work := Location.root.child "work"
  ⟨[(work, .directory)], work⟩

/-! ### The view and its update -/

/-- What stands at a location. -/
def node? (t : Tree) (loc : Location) : Option Node :=
  if loc = .root then some .directory else t.entries.lookup loc

/-- The entries with the one at the location replaced or added. -/
def putIn (loc : Location) (node : Node) : List (Location × Node) → List (Location × Node)
  | [] => [(loc, node)]
  | e :: rest => if e.1 = loc then (loc, node) :: rest else e :: putIn loc node rest

/-- The tree with a node put at a location. -/
def put (t : Tree) (loc : Location) (node : Node) : Tree :=
  { t with entries := putIn loc node t.entries }

theorem lookup_putIn_self (loc : Location) (node : Node) (es : List (Location × Node)) :
    (putIn loc node es).lookup loc = some node := by
  induction es with
  | nil => simp [putIn]
  | cons e es ih =>
    obtain ⟨l, v⟩ := e
    by_cases h : l = loc
    · simp [putIn, h]
    · simp [putIn, h, List.lookup_cons, beq_eq_false_iff_ne.2 (Ne.symm h), ih]

theorem lookup_putIn_of_ne {loc other : Location} (node : Node) (es : List (Location × Node))
    (h : other ≠ loc) : (putIn loc node es).lookup other = es.lookup other := by
  induction es with
  | nil => simp [putIn, List.lookup_cons, beq_eq_false_iff_ne.2 h]
  | cons e es ih =>
    obtain ⟨l, v⟩ := e
    by_cases hl : l = loc
    · simp [putIn, hl, List.lookup_cons, beq_eq_false_iff_ne.2 h]
    · simp [putIn, hl, List.lookup_cons, ih]

theorem node?_put_self (t : Tree) {loc : Location} (node : Node) (h : loc ≠ .root) :
    (t.put loc node).node? loc = some node := by
  simp [node?, put, h, lookup_putIn_self]

theorem node?_put_of_ne (t : Tree) {loc other : Location} (node : Node) (h : other ≠ loc) :
    (t.put loc node).node? other = t.node? other := by
  by_cases hroot : other = .root
  · simp [node?, hroot]
  · simp [node?, put, hroot, lookup_putIn_of_ne node t.entries h]

theorem putIn_putIn (loc : Location) (a b : Node) (es : List (Location × Node)) :
    putIn loc b (putIn loc a es) = putIn loc b es := by
  induction es with
  | nil => simp [putIn]
  | cons e es ih =>
    by_cases h : e.1 = loc
    · simp [putIn, h]
    · simp [putIn, h, ih]

@[simp] theorem put_put (t : Tree) (loc : Location) (a b : Node) :
    (t.put loc a).put loc b = t.put loc b := by
  simp [put, putIn_putIn]

/-! ### Following a route -/

/-- The location, if something is there. -/
def enter (t : Tree) (loc : Location) : Except Fault Location :=
  if (t.node? loc).isNone then .error .missing else .ok loc

/-- Where a step from a location leads.  A step can only be taken from a
directory, and only to something that is there. -/
def step (t : Tree) (loc : Location) (s : Step) : Except Fault Location :=
  match t.node? loc with
  | none => .error .missing
  | some (.file _) => .error .notDirectory
  | some .directory =>
    match s with
    | .here => .ok loc
    | .up => t.enter loc.parent
    | .into name => if tooLong name then .error .nameTooLong else t.enter (loc.child name)

/-- Where steps from a location lead, or the fault of the first step that cannot
be taken. -/
def walk (t : Tree) (loc : Location) : List Step → Except Fault Location
  | [] => .ok loc
  | s :: rest =>
    match t.step loc s with
    | .error fault => .error fault
    | .ok next => t.walk next rest

/-- Where a route starts. -/
def origin (t : Tree) (r : Route) : Location := if r.absolute then .root else t.workingDirectory

/-- The location that a path names. -/
def resolve (t : Tree) (path : Path) : Except Fault Location :=
  match Route.ofPath path with
  | .error fault => .error fault
  | .ok r => t.walk (t.origin r) r.stepsToRead

theorem enter_eq_ok_iff {t : Tree} {loc next : Location} :
    t.enter loc = .ok next ↔ next = loc ∧ (t.node? loc).isSome = true := by
  unfold enter
  rcases t.node? loc with - | node <;> simp [eq_comm]

/-- A step leads to something that is there. -/
theorem isSome_node?_of_step {t : Tree} {loc next : Location} {s : Step}
    (h : t.step loc s = .ok next) : (t.node? next).isSome = true := by
  unfold step at h
  rcases hnode : t.node? loc with - | (content | -)
  · simp [hnode] at h
  · simp [hnode] at h
  · rw [hnode] at h
    rcases s with - | - | name
    · obtain rfl : loc = next := by simpa using h
      rw [hnode]
      rfl
    · obtain ⟨rfl, hsome⟩ := enter_eq_ok_iff.1 h
      exact hsome
    · by_cases hlong : tooLong name = true
      · simp [hlong] at h
      · simp only [hlong] at h
        obtain ⟨rfl, hsome⟩ := enter_eq_ok_iff.1 h
        exact hsome

theorem walk_append (t : Tree) (loc : Location) (a b : List Step) :
    t.walk loc (a ++ b)
      = match t.walk loc a with
        | .error fault => .error fault
        | .ok next => t.walk next b := by
  induction a generalizing loc with
  | nil => rfl
  | cons s a ih =>
    rw [List.cons_append, walk, walk]
    rcases t.step loc s with fault | next
    · rfl
    · exact ih next

/-! ### Reading -/

/-- Whether the path names a file. -/
def isFile (t : Tree) (path : Path) : Bool :=
  match t.resolve path with
  | .error _ => false
  | .ok loc => match t.node? loc with
    | some (.file _) => true
    | _ => false

/-- The content of the file that the path names. -/
def read (t : Tree) (path : Path) : Except Fault ByteArray :=
  match t.resolve path with
  | .error fault => .error fault
  | .ok loc => match t.node? loc with
    | none => .error .missing
    | some .directory => .error .isDirectory
    | some (.file content) => .ok content

/-- A path names a file exactly if it can be read. -/
theorem isFile_iff {t : Tree} {path : Path} :
    t.isFile path = true ↔ ∃ content, t.read path = .ok content := by
  unfold isFile read
  rcases t.resolve path with fault | loc
  · simp
  · simp only []
    rcases t.node? loc with - | (content | -) <;> simp

/-! ### Writing -/

/-- Where a file goes that is written to the last step of a route, taken from
the directory `loc`.  A route that ends in a slash, or in a step to no name, leads
to a directory. -/
def targetIn (t : Tree) (loc : Location) (last : Step) (slashAtEnd : Bool) :
    Except Fault Location :=
  match t.step loc .here with
  | .error fault => .error fault
  | .ok _ =>
    match last, slashAtEnd with
    | .into name, false =>
      if tooLong name then .error .nameTooLong
      else if t.node? (loc.child name) = some .directory then .error .isDirectory
      else .ok (loc.child name)
    | _, _ => .error .isDirectory

/-- Where a file goes that is written to a path.  All but the last step has to
lead to a directory; the last one names a file that is there, or a new one. -/
def target (t : Tree) (path : Path) : Except Fault Location :=
  match Route.ofPath path with
  | .error fault => .error fault
  | .ok r =>
    match r.steps.getLast? with
    | none => .error .isDirectory
    | some last =>
      match t.walk (t.origin r) r.steps.dropLast with
      | .error fault => .error fault
      | .ok loc => t.targetIn loc last r.slashAtEnd

/-- Write a file: the content replaces what the file held, or the file is new.
A write that fails changes nothing. -/
def write (t : Tree) (path : Path) (content : ByteArray) : Except Fault Unit × Tree :=
  match t.target path with
  | .error fault => (.error fault, t)
  | .ok loc => (.ok (), t.put loc (.file content))

/-! ### Making and removing -/

/-- Make the directories along the steps from a location.  Those made before a
step fails stay. -/
def makeAlong (t : Tree) (loc : Location) : List Step → Except Fault Unit × Tree
  | [] => (.ok (), t)
  | .here :: rest => t.makeAlong loc rest
  | .up :: rest => t.makeAlong loc.parent rest
  | .into name :: rest =>
    match t.node? (loc.child name) with
    | some .directory => t.makeAlong (loc.child name) rest
    | some (.file _) => (.error .notDirectory, t)
    | none =>
      if tooLong name then (.error .nameTooLong, t)
      else (t.put (loc.child name) .directory).makeAlong (loc.child name) rest

/-- Follow a route to a directory. -/
def reach (t : Tree) (r : Route) : Except Fault Unit :=
  (t.walk (t.origin r) (r.steps ++ [.here])).map fun _ => ()

/-- Make a directory and those above it that are missing.  The empty path names
the working directory, which is there.  A step that stays in a directory makes
none, so if it is the last one only what is above is made, and the path has to
lead to a directory. -/
def makeDirectories (t : Tree) (path : Path) : Except Fault Unit × Tree :=
  if path = "" then (.ok (), t)
  else match Route.ofPath path with
    | .error fault => (.error fault, t)
    | .ok r =>
      if r.steps.getLast? = some .here then
        match t.makeAlong (t.origin r) (r.steps.filter (· ≠ .here)).dropLast with
        | (.error fault, t) => (.error fault, t)
        | (.ok (), t) => (t.reach r, t)
      else t.makeAlong (t.origin r) r.steps

/-- Remove an entry and all below it. -/
def removeAt (t : Tree) (loc : Location) : Tree :=
  { t with entries := t.entries.filter fun e => !loc.holds e.1 }

/-- Remove all that is below a directory, but for the working directory and those
above it. -/
def removeBelow (t : Tree) (loc : Location) : Tree :=
  { t with
    entries := t.entries.filter fun e =>
      !(loc.holds e.1 && loc ≠ e.1) || e.1.holds t.workingDirectory }

/-- Remove the directory that a route leads to, with nothing below it.  Only a
directory that its last step names can be removed.  A route that passed through
what is no longer there leaves nothing to do. -/
def removeEmptied (t : Tree) (loc : Location) (r : Route) : Except Fault Unit × Tree :=
  match t.walk (t.origin r) r.steps.dropLast, r.steps.getLast? with
  | .error .missing, _ => (.ok (), t)
  | .error fault, _ => (.error fault, t)
  | .ok _, some (.into _) =>
    if loc.holds t.workingDirectory then (.error (.other "Device or resource busy"), t)
    else (.ok (), t.removeAt loc)
  | .ok _, some .up => (.error (.other "Directory not empty"), t)
  | .ok _, _ => (.error (.other "Invalid argument"), t)

/-- Remove the file that a path names, or the directory and all below it.  What is
below goes first, and is gone even if the directory itself cannot be removed. -/
def remove (t : Tree) (path : Path) : Except Fault Unit × Tree :=
  match Route.ofPath path with
  | .error fault => (.error fault, t)
  | .ok r =>
    match t.walk (t.origin r) r.stepsToRead with
    | .error fault => (.error fault, t)
    | .ok loc =>
      match t.node? loc with
      | some .directory => (t.removeBelow loc).removeEmptied loc r
      | _ => (.ok (), t.removeAt loc)

/-! ### Listing -/

/-- The name of an entry as seen from the working directory, if it is below it.
The name of a directory ends in a slash. -/
def nameBelow? (t : Tree) (e : Location × Node) : Option String :=
  if t.workingDirectory.holds e.1 && t.workingDirectory.depth < e.1.depth then
    let path := "/".intercalate (e.1.names.drop t.workingDirectory.depth)
    some (if e.2 = .directory then path ++ "/" else path)
  else none

/-- All that is below the working directory, in the order of code points. -/
def names (t : Tree) : List String :=
  (t.entries.filterMap t.nameBelow?).mergeSort fun a b => decide (a ≤ b)

end Tree

end Files

end Docstrings
