import GrantFs.Text

/-! # Operations

The seven operations a grant can permit. Sets of operations are always written in the order of
`Operation.all`.
-/
namespace GrantFs

inductive Operation where
  | list
  | inspect
  | readBytes
  | readText
  | readMatches
  | write
  | delete
deriving DecidableEq, Repr

namespace Operation

def all : List Operation := [list, inspect, readBytes, readText, readMatches, write, delete]

theorem mem_all (op : Operation) : op ∈ all := by cases op <;> decide

def name : Operation → Text
  | list => "list"
  | inspect => "file"
  | readBytes => "read_binary"
  | readText => "read_file"
  | readMatches => "read_re"
  | write => "write"
  | delete => "delete"

def ofName? (t : Text) : Option Operation := all.find? (·.name = t)

/-- The members of `ops` once each, in the order of `all`. -/
def inOrder (ops : List Operation) : List Operation := all.filter (ops.contains ·)

theorem mem_inOrder {op : Operation} {ops : List Operation} : op ∈ inOrder ops ↔ op ∈ ops := by
  rw [inOrder, List.mem_filter, List.contains_iff_mem]
  exact and_iff_right (mem_all op)

/-- What is in order does not depend on the order and the repetitions before. -/
theorem inOrder_congr {ops others : List Operation} (h : ∀ op, op ∈ ops ↔ op ∈ others) :
    inOrder ops = inOrder others := by
  refine List.filter_congr fun op _ => ?_
  rw [Bool.eq_iff_iff, List.contains_iff_mem, List.contains_iff_mem]
  exact h op

theorem inOrder_inOrder (ops : List Operation) : inOrder (inOrder ops) = inOrder ops :=
  inOrder_congr fun _ => mem_inOrder

end Operation
end GrantFs
