import GrantFs.Access
import GrantFs.Text.Utf8

/-! # Files in memory

Contents and entries are two maps with the same keys; every operation changes both at once.
-/
namespace GrantFs

structure MemoryStore where
  content : SortedMap Path Bytes
  entries : Snapshot
deriving Inhabited

namespace MemoryStore

def empty : MemoryStore := ⟨∅, ∅⟩

def size (s : MemoryStore) : Nat := s.entries.size

def isEmpty (s : MemoryStore) : Bool := s.size = 0

def snapshot (s : MemoryStore) (grants : List Grant) : Snapshot :=
  s.entries.filter fun path _ => isVisible grants path.text

def read (s : MemoryStore) (path : Path) : Except Fault Bytes :=
  match s.content.get? path with
  | some data => .ok data
  | none => .error (.notFound path.text)

def write (s : MemoryStore) (now : Instant) (path : Path) (data : Bytes) (overwrite : Bool) :
    Except Fault Entry × MemoryStore :=
  if !overwrite && s.content.contains path then (.error (.conflict path.text), s)
  else
    let e := Entry.written path data.length now
    (.ok e, ⟨s.content.insert path data, s.entries.insert path e⟩)

def delete (s : MemoryStore) (path : Path) : Except Fault Unit × MemoryStore :=
  if s.content.contains path then (.ok (), ⟨s.content.erase path, s.entries.erase path⟩)
  else (.error (.notFound path.text), s)

def backend (now : Instant) : Backend MemoryStore
  | .snapshot grants, s => (.ok (s.snapshot grants), s)
  | .readBytes path, s => (s.read path, s)
  | .readText path index count, s =>
    ((s.read path).bind fun data => sliceLines (Utf8.decodeLossy data) index count, s)
  | .readMatches path pattern overlap, s =>
    ((s.read path).bind fun data => Regex.scan pattern overlap (Utf8.decodeLossy data), s)
  | .write path data overwrite, s => s.write now path data overwrite
  | .delete path, s => s.delete path

end MemoryStore
end GrantFs
