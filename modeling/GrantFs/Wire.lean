import GrantFs.Fault
import GrantFs.Json.Decode
import GrantFs.Namespace

/-! # JSON forms of the basic types

Operations and namespaces are written as their names, a path as its text.
-/
namespace GrantFs

open Json.Decode

namespace Operation

def toJson (op : Operation) : Json := .text op.name

def decoder : Json.Decoder Operation := variant (all.map fun op => (op.name, op))

end Operation

namespace Namespace

def toJson (ns : Namespace) : Json := .text ns.name

def decoder : Json.Decoder Namespace := variant (all.map fun ns => (ns.name, ns))

end Namespace

namespace Path

/-- The shortest path; it stands in drafts until a path has been read. -/
def top : Path := ⟨"/", by decide⟩

instance : Inhabited Path := ⟨top⟩

def toJson (p : Path) : Json := .text p.text

end Path

namespace Grant

def toJson (g : Grant) : Json :=
  .object [("prefix", g.root.toJson), ("ops", .array (g.ops.map (·.toJson)))]

def record : Json.Decode.Record Grant where
  name := "Grant"
  fields := [
    required "prefix" logicalPath fun g root => { g with root },
    required "ops" (list Operation.decoder) fun g ops => .ofOps g.root ops]
  blank := .ofOps .top []

def decoder : Json.Decoder Grant := Json.Decode.record record

end Grant

end GrantFs
