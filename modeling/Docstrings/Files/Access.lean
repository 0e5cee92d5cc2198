/-
Docstrings/Files/Access.lean

Access to files: the three things that the extraction asks of its surroundings.

Design.  `Access m` is a record of operations in a monad `m`, so the extraction
is written once and runs both on the files of the machine and on a tree in
memory.  `Tree.access` is the tree's; what it does is what `Tree.isFile`,
`Tree.read` and `Tree.write` say.
-/
import Docstrings.Files.Tree

namespace Docstrings

namespace Files

/-- Ways to look at files and to write them. -/
structure Access (m : Type → Type) where
  /-- Whether the path names a file. -/
  isFile : Path → m Bool
  /-- The content of a file. -/
  read : Path → m (Except Fault ByteArray)
  /-- Write a file whole. -/
  write : Path → ByteArray → m (Except Fault Unit)

/-- Access to the files of a tree. -/
def Tree.access : Access (StateM Tree) where
  isFile path := fun t => (t.isFile path, t)
  read path := fun t => (t.read path, t)
  write path content := fun t => t.write path content

@[simp] theorem Tree.run_isFile (t : Tree) (path : Path) :
    (Tree.access.isFile path).run t = pure (t.isFile path, t) := rfl

@[simp] theorem Tree.run_read (t : Tree) (path : Path) :
    (Tree.access.read path).run t = pure (t.read path, t) := rfl

@[simp] theorem Tree.run_write (t : Tree) (path : Path) (content : ByteArray) :
    (Tree.access.write path content).run t = pure (t.write path content) := rfl

end Files

end Docstrings
