import GrantFs.Operation
import GrantFs.Path

/-! # Grants

A grant permits a set of operations on every path whose text begins with its root. Matching is by
plain text, so a root without a final slash also covers names that merely continue it.
-/
namespace GrantFs

structure Grant where
  root : Path
  ops : List Operation
  ordered : Operation.inOrder ops = ops
deriving DecidableEq, Repr

namespace Grant

def ofOps (root : Path) (ops : List Operation) : Grant :=
  ⟨root, Operation.inOrder ops, Operation.inOrder_inOrder ops⟩

def covers (g : Grant) (path : Text) : Bool := g.root.text.isPrefixOf path

def allows (g : Grant) (op : Operation) : Bool := g.ops.contains op

/-- Whether the grant could make anything that begins with `start` visible: one of the two begins
with the other. -/
def overlaps (g : Grant) (start : Text) : Bool := g.covers start || g.root.startsWith start

end Grant

def effectiveOps (grants : List Grant) (path : Text) : List Operation :=
  Operation.inOrder ((grants.filter (·.covers path)).flatMap (·.ops))

def isVisible (grants : List Grant) (path : Text) : Bool := grants.any (·.covers path)

def permits (grants : List Grant) (path : Text) (op : Operation) : Bool :=
  grants.any fun g => g.covers path && g.allows op

end GrantFs
