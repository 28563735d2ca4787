import GrantFs.Directory.Tree
import GrantFs.Entry
import GrantFs.Glob

/-! # Views of a directory

Files are stored flat, so a directory is shown by what the paths below it have behind its own. This
module computes the children, the sized listing, the tree and the search hits of a directory from
its entries.
-/
namespace GrantFs.Directory

/-- What a path has behind a directory: the first segment and whether more follow. -/
def childOf? (dir path : Path) : Option (Text × EntryKind) :=
  match Text.stripStart? dir.text path.text with
  | none => none
  | some rest =>
    match Text.cutAt? "/" rest with
    | some (head, _) => some (head, .dir)
    | none => if rest.isEmpty then none else some (rest, .file)

/-- The kind of a child that is met as several kinds. -/
def joinKinds : EntryKind → EntryKind → EntryKind
  | .file, .file => .file
  | _, _ => .dir

def addKind (dir : Path) (kinds : SortedMap Text EntryKind) (e : Entry) :
    SortedMap Text EntryKind :=
  match childOf? dir e.path with
  | none => kinds
  | some (name, kind) =>
    kinds.alter name fun present =>
      match present with
      | none => kind
      | some kind' => joinKinds kind' kind

/-- The children of a directory by name. -/
def kinds (dir : Path) (entries : List Entry) : SortedMap Text EntryKind :=
  entries.foldl (addKind dir) ∅

def listing (dir : Path) (entries : List Entry) : List DirEntry :=
  (kinds dir entries).entries.map fun (name, kind) => ⟨name, kind⟩

def addChild (dir : Path) (children : SortedMap Text (EntryKind × Nat)) (e : Entry) :
    SortedMap Text (EntryKind × Nat) :=
  match childOf? dir e.path with
  | none => children
  | some (name, kind) =>
    children.alter name fun present =>
      match present with
      | none => (kind, e.sizeOrZero)
      | some (kind', size) => (joinKinds kind' kind, size + e.sizeOrZero)

/-- The children of a directory by name, with the size of everything below each. -/
def children (dir : Path) (entries : List Entry) : SortedMap Text (EntryKind × Nat) :=
  entries.foldl (addChild dir) ∅

/-- Whether `a` may stand before `b`: directories come first, and children of one kind are ordered
by what the listing is sorted by and then by name. -/
def inOrder (by_ : SortBy) (a b : SizedEntry) : Bool :=
  match a.kind, b.kind with
  | .dir, .file => true
  | .file, .dir => false
  | _, _ =>
    match by_ with
    | .name => (compare a.name b.name).isLE
    | .size => if a.size = b.size then (compare a.name b.name).isLE else a.size < b.size

def sizedListing (by_ : SortBy) (dir : Path) (entries : List Entry) : DirectoryListing :=
  let sized := (children dir entries).entries.map fun (name, kind, size) =>
    (⟨name, kind, size⟩ : SizedEntry)
  let files := sized.filter (·.kind = .file)
  { entries := sized.mergeSort (inOrder by_)
    fileCount := files.length
    dirCount := sized.length - files.length
    totalSize := sized.foldr (fun e n => e.size + n) 0 }

def rowsOf (dir : Path) (entries : List Entry) : List (List Text) :=
  entries.filterMap fun e => (Text.stripStart? dir.text e.path.text).map Text.segments

def tree (dir : Path) (entries : List Entry) : List TreeNode :=
  TreeBuilder.intoNodes (TreeBuilder.ofRows (rowsOf dir entries)).children

variable (globs : Glob.Language)

/-- The patterns of the names that are left out; the first text that is no pattern is reported. -/
def excludesOf : List Text → Except Fault (List globs.Pattern)
  | [] => .ok []
  | t :: rest =>
    match globs.parse t with
    | .error why => .error (.invalidArgument "exclude_patterns" (some (t ++ ": " ++ why)))
    | .ok pattern => (excludesOf rest).map (pattern :: ·)

/-- Whether a name holds the text, or matches it as far as it is a pattern. -/
def included (pattern name : Text) : Bool :=
  (match globs.parse pattern with
    | .ok glob => globs.matches glob name
    | .error _ => false) || Text.occurs pattern name

def hits (pattern : Text) (excludes : List globs.Pattern) (entries : List Entry) : List Path :=
  (entries.map (·.path)).filter fun path =>
    included globs pattern path.name && !excludes.any (globs.matches · path.name)

end GrantFs.Directory
