import GrantFs.Directory.Listing
import GrantFs.SortedMap

/-! # Directory trees

The nested view of everything below a directory, grown from the segments of one stored path after
the other.
-/
namespace GrantFs

inductive TreeNode where
  | node (name : Text) (kind : EntryKind) (children : Option (List TreeNode))
deriving Repr, Inhabited

namespace TreeNode

def name : TreeNode → Text
  | node name _ _ => name

def kind : TreeNode → EntryKind
  | node _ kind _ => kind

def children : TreeNode → Option (List TreeNode)
  | node _ _ children => children

mutual

def toJson : TreeNode → Json
  | node name kind none => .object [("name", .text name), ("type", kind.toJson)]
  | node name kind (some children) =>
    .object [("name", .text name), ("type", kind.toJson), ("children", .array (listJson children))]

def listJson : List TreeNode → List Json
  | [] => []
  | n :: rest => toJson n :: listJson rest

end

open Json.Decode in
def decoderTo : (depth : Nat) → Json.Decoder TreeNode
  | 0 => fun _ _ => .error (.malformed .nestingLimit)
  | depth + 1 => record {
      name := "TreeNode"
      fields := [
        required "name" string fun n name => node name n.kind n.children,
        required "type" EntryKind.decoder fun n kind => node n.name kind n.children,
        nullable "children" (list (decoderTo depth)) fun n children => node n.name n.kind children]
      blank := default }

/-- Reads nodes as deep as the document goes. -/
def decoder : Json.Decoder TreeNode := fun source d => decoderTo d.height source d

end TreeNode

/-- A tree that grows: whether a file ends here, and what goes on from here by name, in the order of
the names. -/
inductive TreeBuilder where
  | node (isFile : Bool) (children : List (Text × TreeBuilder))

namespace TreeBuilder

def isFile : TreeBuilder → Bool
  | node isFile _ => isFile

def children : TreeBuilder → List (Text × TreeBuilder)
  | node _ children => children

def empty : TreeBuilder := node false []

def asFile : TreeBuilder → TreeBuilder
  | node _ children => node true children

/-- Adds the way along the segments, and a file at its end. -/
def insert : (segments : List Text) → TreeBuilder → TreeBuilder
  | [], t => t
  | first :: rest, node isFile children =>
    let child := (SortedMap.lookupEntry first children).getD empty
    let child := if rest = [] then child.asFile else insert rest child
    node isFile (SortedMap.insertEntry first child children)

def ofRows (rows : List (List Text)) : TreeBuilder := rows.foldl (fun t row => t.insert row) empty

mutual

/-- A name is a file only if nothing goes on from there. -/
def intoNode (name : Text) : TreeBuilder → TreeNode
  | node isFile children =>
    if isFile && children.isEmpty then .node name .file none
    else .node name .dir (some (intoNodes children))

def intoNodes : List (Text × TreeBuilder) → List TreeNode
  | [] => []
  | (name, t) :: rest => intoNode name t :: intoNodes rest

end

end TreeBuilder
end GrantFs
