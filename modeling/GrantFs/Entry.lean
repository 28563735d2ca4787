import GrantFs.Wire

/-! # Entries

What a backend tells about a stored file without its content.
-/
namespace GrantFs

structure Entry where
  path : Path
  size : Option Nat
  updatedAt : Option Instant
deriving DecidableEq, Repr, Inhabited

namespace Entry

def written (path : Path) (size : Nat) (now : Instant) : Entry := ⟨path, some size, some now⟩

def sizeOrZero (e : Entry) : Nat := e.size.getD 0

def instantJson : Option Instant → Json
  | none => .null
  | some i => .text i.zuluText

def toJson (e : Entry) : Json :=
  .object [("path", e.path.toJson), ("size", Json.ofNat? e.size),
    ("updatedAt", instantJson e.updatedAt)]

open Json.Decode in
def decoder : Json.Decoder Entry := record {
  name := "EntryMeta"
  fields := [
    required "path" logicalPath fun e path => { e with path },
    nullable "size" (word "u64") fun e size => { e with size },
    nullable "updatedAt" time fun e updatedAt => { e with updatedAt }]
  blank := default }

end Entry

abbrev Snapshot := SortedMap Path Entry

end GrantFs
