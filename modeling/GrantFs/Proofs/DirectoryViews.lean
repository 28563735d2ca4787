import GrantFs.Proofs.DirectoryRows
import GrantFs.Proofs.EditRun
import GrantFs.Proofs.Listing
import GrantFs.Service

/-! # The views of a directory agree

The listing, the sized listings and the tree of a directory classify every name below it alike.
Main statement: on every store that handles can reach and for every directory that may be listed,
they have the same names with the same kinds, each in its own order, and the node of a child that is
a directory has the tree of that child. -/
namespace GrantFs

namespace Directory

variable {dir sub : Path} {entries : List Entry} {name : Text} {by_ : SortBy}

/-- What a sized listing compares two entries of one kind by. -/
def SizedBelow (by_ : SortBy) (a b : SizedEntry) : Prop :=
  match by_ with
  | .name => compare a.name b.name = .lt
  | .size => a.size < b.size ∨ a.size = b.size ∧ compare a.name b.name = .lt

/-- Directories stand before files, and entries of one kind are ordered among themselves. -/
def Precedes (by_ : SortBy) (a b : SizedEntry) : Prop :=
  a.kind = .dir ∧ b.kind = .file ∨ a.kind = b.kind ∧ SizedBelow by_ a b

/-- What a sized listing is sorted by lets entries of one kind stand in either order if they are
alike. -/
def SizedUpTo (by_ : SortBy) (a b : SizedEntry) : Prop :=
  match by_ with
  | .name => (compare a.name b.name).isLE = true
  | .size => a.size < b.size ∨ a.size = b.size ∧ (compare a.name b.name).isLE = true

theorem inOrder_iff (by_ : SortBy) (a b : SizedEntry) :
    inOrder by_ a b = true ↔
      a.kind = .dir ∧ b.kind = .file ∨ a.kind = b.kind ∧ SizedUpTo by_ a b := by
  obtain ⟨name, kind, size⟩ := a
  obtain ⟨name', kind', size'⟩ := b
  have hsize : (if size = size' then (compare name name').isLE else decide (size < size')) = true ↔
      size < size' ∨ size = size' ∧ (compare name name').isLE = true := by
    by_cases heq : size = size'
    · simp [heq]
    · simp [heq]
  cases kind <;> cases kind' <;> cases by_ <;> simp [inOrder, SizedUpTo, hsize]

theorem SizedUpTo.trans {a b c : SizedEntry} (hab : SizedUpTo by_ a b) (hbc : SizedUpTo by_ b c) :
    SizedUpTo by_ a c := by
  cases by_ with
  | name => exact Std.TransCmp.isLE_trans hab hbc
  | size =>
    rcases hab with hab | ⟨hab, hname⟩
    · rcases hbc with hbc | ⟨hbc, -⟩
      · exact .inl (hab.trans hbc)
      · exact .inl (hbc ▸ hab)
    · rcases hbc with hbc | ⟨hbc, hname'⟩
      · exact .inl (hab ▸ hbc)
      · exact .inr ⟨hab.trans hbc, Std.TransCmp.isLE_trans hname hname'⟩

theorem sizedUpTo_total (by_ : SortBy) (a b : SizedEntry) :
    SizedUpTo by_ a b ∨ SizedUpTo by_ b a := by
  have hnames : (compare a.name b.name).isLE = true ∨ (compare b.name a.name).isLE = true := by
    have hswap : compare b.name a.name = (compare a.name b.name).swap := Std.OrientedCmp.eq_swap
    rw [hswap]
    cases compare a.name b.name <;> simp
  cases by_ with
  | name => exact hnames
  | size =>
    rcases Nat.lt_trichotomy a.size b.size with hlt | heq | hgt
    · exact .inl (.inl hlt)
    · exact hnames.imp (fun h => .inr ⟨heq, h⟩) fun h => .inr ⟨heq.symm, h⟩
    · exact .inr (.inl hgt)

theorem inOrder_trans (a b c : SizedEntry) (hab : inOrder by_ a b = true)
    (hbc : inOrder by_ b c = true) : inOrder by_ a c = true := by
  rw [inOrder_iff] at *
  rcases hab with ⟨ha, hb⟩ | ⟨hab, hup⟩
  · rcases hbc with ⟨hb', -⟩ | ⟨hbc, -⟩
    · rw [hb] at hb'
      cases hb'
    · exact .inl ⟨ha, hbc.symm.trans hb⟩
  · rcases hbc with ⟨hb, hc⟩ | ⟨hbc, hup'⟩
    · exact .inl ⟨hab.trans hb, hc⟩
    · exact .inr ⟨hab.trans hbc, hup.trans hup'⟩

theorem inOrder_total (a b : SizedEntry) : (inOrder by_ a b || inOrder by_ b a) = true := by
  rw [Bool.or_eq_true, inOrder_iff, inOrder_iff]
  have hup := sizedUpTo_total by_ a b
  cases ha : a.kind <;> cases hb : b.kind <;> simp [hup]

theorem precedes_of_inOrder {a b : SizedEntry} (h : inOrder by_ a b = true)
    (hname : a.name ≠ b.name) : Precedes by_ a b := by
  have hstrict : (compare a.name b.name).isLE = true → compare a.name b.name = .lt := by
    intro hle
    rcases Ordering.isLE_iff_eq_lt_or_eq_eq.mp hle with hlt | heq
    · exact hlt
    · exact absurd (Std.LawfulEqCmp.eq_of_compare heq) hname
  rcases (inOrder_iff by_ a b).mp h with hkinds | ⟨hkind, hup⟩
  · exact .inl hkinds
  · right
    refine ⟨hkind, ?_⟩
    cases by_ with
    | name => exact hstrict hup
    | size => exact hup.imp id fun hsame => ⟨hsame.1, hstrict hsame.2⟩

theorem listing_pairs (dir : Path) (entries : List Entry) :
    (listing dir entries).map (fun e => (e.name, e.kind)) =
      (children dir entries).entries.map fun c => (c.1, c.2.1) := by
  have hkinds : ∀ name, ((kinds dir entries).get? name).map id =
      ((children dir entries).get? name).map (·.1) := by
    intro name
    rw [Option.map_id, id, get?_kinds]
  rw [listing, List.map_map]
  exact SortedMap.map_entries_eq _ _ hkinds

theorem listing_ascending (dir : Path) (entries : List Entry) :
    (listing dir entries).Pairwise fun a b => compare a.name b.name = .lt :=
  List.pairwise_map.mpr (kinds dir entries).ascending

theorem tree_pairs (hdir : dir.isDirLike = true)
    (hfiles : ∀ e ∈ entries, e.path.isDirLike = false) :
    (tree dir entries).map (fun n => (n.name, n.kind)) =
      (listing dir entries).map fun e => (e.name, e.kind) := by
  have hgroups : (tree dir entries).map (fun n => (n.name, n.kind)) =
      (byHead (rowsOf dir entries)).entries.map fun group => (group.1, groupKind group.2) := by
    rw [tree_eq, forest_eq, List.map_map]
    apply List.map_congr_left
    intro group _
    rw [Function.comp_apply, nodeOf_name, nodeOf_kind]
  rw [hgroups, listing_pairs]
  exact (SortedMap.map_entries_eq _ groupKind (kind_of_name hdir hfiles)).symm

/-- The children of a directory as entries with sizes, in the order of their names. -/
def sizedChildren (dir : Path) (entries : List Entry) : List SizedEntry :=
  (children dir entries).entries.map fun (name, kind, size) => ⟨name, kind, size⟩

theorem sizedListing_perm (by_ : SortBy) (dir : Path) (entries : List Entry) :
    (sizedListing by_ dir entries).entries.Perm (sizedChildren dir entries) :=
  List.mergeSort_perm _ _

theorem sizedChildren_pairs (dir : Path) (entries : List Entry) :
    (sizedChildren dir entries).map (fun e => (e.name, e.kind)) =
      (listing dir entries).map fun e => (e.name, e.kind) := by
  rw [listing_pairs, sizedChildren, List.map_map]
  rfl

theorem sizedListing_ordered (by_ : SortBy) (dir : Path) (entries : List Entry) :
    (sizedListing by_ dir entries).entries.Pairwise (Precedes by_) := by
  have hnames : (sizedChildren dir entries).Pairwise fun a b => a.name ≠ b.name := by
    apply List.pairwise_map.mpr
    apply (children dir entries).ascending.imp
    rintro a b hlt heq
    have hself : compare a.1 b.1 = .eq := Std.LawfulEqCmp.compare_eq_iff_eq.mpr heq
    rw [hself] at hlt
    cases hlt
  have hdistinct : (sizedListing by_ dir entries).entries.Pairwise fun a b => a.name ≠ b.name :=
    (List.Perm.pairwise_iff Ne.symm (sizedListing_perm by_ dir entries)).mpr hnames
  have hsorted : (sizedListing by_ dir entries).entries.Pairwise (inOrder by_ · · = true) :=
    List.pairwise_mergeSort inOrder_trans inOrder_total _
  exact (List.Pairwise.and hsorted hdistinct).imp fun h => precedes_of_inOrder h.1 h.2

theorem node_of_dir (hdir : dir.isDirLike = true)
    (hfiles : ∀ e ∈ entries, e.path.isDirLike = false) (hname : '/' ∉ name)
    (hsub : sub.text = dir.text ++ (name ++ ['/']))
    (hchild : (⟨name, .dir⟩ : DirEntry) ∈ listing dir entries) :
    TreeNode.node name .dir (some (tree sub entries)) ∈ tree dir entries := by
  have hpair : (name, EntryKind.dir) ∈ (tree dir entries).map fun n => (n.name, n.kind) := by
    rw [tree_pairs hdir hfiles]
    exact List.mem_map_of_mem (f := fun e : DirEntry => (e.name, e.kind)) hchild
  rw [tree_eq, forest_eq] at hpair ⊢
  rw [tree_eq, rowsOf_child hdir hfiles hname hsub]
  obtain ⟨n, hn, heq⟩ := List.mem_map.mp hpair
  obtain ⟨group, hgroup, rfl⟩ := List.mem_map.mp hn
  rw [nodeOf_name, nodeOf_kind, Prod.mk.injEq, groupKind] at heq
  obtain ⟨rfl, hkind⟩ := heq
  refine List.mem_map.mpr ⟨group, hgroup, ?_⟩
  rw [nodeOf, ← (mem_byHead.mp hgroup).1]
  split at hkind
  · cases hkind
  next hdeep => exact if_neg hdeep

theorem exists_below_child (hdir : dir.isDirLike = true)
    (hfiles : ∀ e ∈ entries, e.path.isDirLike = false)
    (hchild : (⟨name, .dir⟩ : DirEntry) ∈ listing dir entries) :
    ∃ e ∈ entries, ∃ after, e.path.text = dir.text ++ (name ++ '/' :: after) ∧ name.IsSegment := by
  have hkind : ((byHead (rowsOf dir entries)).get? name).map groupKind = some .dir := by
    obtain ⟨c, hc, heq⟩ := List.mem_map.mp hchild
    obtain ⟨key, kind⟩ := c
    cases heq
    rw [← kind_of_name hdir hfiles, ← get?_kinds, SortedMap.get?_eq_some.mpr hc]
  rw [get?_byHead] at hkind
  split at hkind
  · cases hkind
  · rw [Option.map_some, Option.some.injEq, groupKind] at hkind
    split at hkind
    · cases hkind
    next hdeep =>
      obtain ⟨rest, hrest⟩ := List.exists_mem_of_ne_nil _ hdeep
      obtain ⟨hmem, hne⟩ := List.mem_filter.mp hrest
      obtain ⟨row, hrow, hbehind⟩ := List.mem_filterMap.mp hmem
      rw [rowsOf_eq] at hrow
      obtain ⟨e, he, hrowOf⟩ := List.mem_filterMap.mp hrow
      cases row with
      | nil => cases hbehind
      | cons head tail =>
        rw [behind] at hbehind
        split at hbehind
        next heq =>
          cases hbehind
          subst heq
          exact ⟨e, he, text_of_rowOf? hdir (hfiles e he) hrowOf (by simpa using hne)⟩
        next => cases hbehind

/-- The views have the same names with the same kinds: the listing and the tree in ascending order,
the sized listings in the order they are asked for. -/
structure Agree (dirs : List DirEntry) (sized : SortBy → DirectoryListing) (tree : List TreeNode) :
    Prop where
  ascending : dirs.Pairwise fun a b => compare a.name b.name = .lt
  sameTree : tree.map (fun n => (n.name, n.kind)) = dirs.map fun e => (e.name, e.kind)
  sameSized : ∀ by_, ((sized by_).entries.map fun e => (e.name, e.kind)).Perm
    (dirs.map fun e => (e.name, e.kind))
  ordered : ∀ by_, (sized by_).entries.Pairwise (Precedes by_)
  fileCount : (sized .name).fileCount = (sized .size).fileCount
  dirCount : (sized .name).dirCount = (sized .size).dirCount
  totalSize : (sized .name).totalSize = (sized .size).totalSize

theorem agree (hdir : dir.isDirLike = true) (hfiles : ∀ e ∈ entries, e.path.isDirLike = false) :
    Agree (listing dir entries) (fun by_ => sizedListing by_ dir entries) (tree dir entries) where
  ascending := listing_ascending dir entries
  sameTree := tree_pairs hdir hfiles
  sameSized := by
    intro by_
    rw [← sizedChildren_pairs]
    exact (sizedListing_perm by_ dir entries).map _
  ordered := fun by_ => sizedListing_ordered by_ dir entries
  fileCount := rfl
  dirCount := rfl
  totalSize := rfl

end Directory

namespace MemoryStore

variable {α β : Type} {s : MemoryStore} {m : Contents} {now : Instant} {index : Snapshot}

theorem reply_bind_pure {x : Action α} {a : α} (h : s.reply now index x = .ok a) (f : α → β) :
    s.reply now index (x >>= fun a => pure (f a)) = .ok (f a) := by
  have hrun : x.runWith (backend now) ⟨s, index⟩ =
      (.ok a, (x.runWith (backend now) ⟨s, index⟩).2) := Prod.ext h rfl
  exact congrArg Prod.fst (Action.runWith_bind_ok hrun)

theorem reply_listUnder (hm : s.Represents m) {v : Service} {path : Path}
    (hlist : v.handle.permits path.asDir.text .list = true) :
    s.reply now index (v.listUnder path.text) =
      .ok (path.asDir,
        s.entries.values.filter fun e => path.asDir.text.isPrefixOf e.path.text) := by
  have hreply : s.reply now index (v.handle.list (some path.asDir.text)) = .ok _ :=
    (Handle.reply_list_some_eq_ok hm).mpr ⟨permits_iff.mp hlist, rfl⟩
  have hparse : v.listUnder path.text = v.handle.list (some path.asDir.text) >>= fun entries =>
      pure (path.asDir, entries) := by
    rw [Service.listUnder, Path.parse_text]
    rfl
  rw [hparse]
  exact reply_bind_pure hreply _

theorem reply_listDirectory (hm : s.Represents m) {v : Service} {path : Path}
    (hlist : v.handle.permits path.asDir.text .list = true) :
    s.reply now index (v.listDirectory path.text) =
      .ok (Directory.listing path.asDir s.entries.values) := by
  rw [Directory.listing, ← Directory.kinds_filter]
  exact reply_bind_pure (reply_listUnder hm hlist) fun under =>
    Directory.listing under.1 under.2

theorem reply_listDirectoryWithSizes (hm : s.Represents m) {v : Service} {path : Path}
    (hlist : v.handle.permits path.asDir.text .list = true) (by_ : SortBy) :
    s.reply now index (v.listDirectoryWithSizes path.text by_) =
      .ok (Directory.sizedListing by_ path.asDir s.entries.values) := by
  rw [Directory.sizedListing, ← Directory.children_filter]
  exact reply_bind_pure (reply_listUnder hm hlist) fun under =>
    Directory.sizedListing by_ under.1 under.2

theorem reply_directoryTree (hm : s.Represents m) {v : Service} {path : Path}
    (hlist : v.handle.permits path.asDir.text .list = true) :
    s.reply now index (v.directoryTree path.text) =
      .ok (Directory.tree path.asDir s.entries.values) := by
  rw [Directory.tree_eq, ← Directory.rowsOf_filter]
  exact reply_bind_pure (reply_listUnder hm hlist) fun under =>
    Directory.tree under.1 under.2

theorem NamesFiles.entries (h : s.NamesFiles) (hm : s.Represents m) :
    ∀ e ∈ s.entries.values, e.path.isDirLike = false := by
  intro e he
  apply h
  rw [← hm.entry_isSome_iff]
  exact ⟨e, hm.mem_values.mp he⟩

end MemoryStore

namespace Path

theorem exists_child {dir p : Path} {name after : Text} (hname : name.IsSegment)
    (hp : p.text = dir.text ++ (name ++ '/' :: after)) :
    ∃ child : Path, child.text = dir.text ++ name ∧
      child.asDir.text = dir.text ++ (name ++ ['/']) := by
  have hsound : flaw? (dir.text ++ name) = none := by
    apply flaw?_of_prefix (p := p)
    · exact ⟨'/' :: after, by rw [hp, List.append_assoc]⟩
    · simp [hname.1]
  refine ⟨⟨dir.text ++ name, hsound⟩, rfl, ?_⟩
  have hlast : (dir.text ++ name).getLast? ≠ some '/' := by
    rw [List.getLast?_append_of_ne_nil _ hname.1]
    intro h
    exact hname.2 (List.mem_of_getLast? h)
  rw [asDir, dif_neg hlast]
  exact List.append_assoc ..

end Path

/-- On every store that handles can reach, for every directory that may be listed: the views of it
agree, and the node of every child that is a directory has the tree that is shown of this child. -/
theorem Service.directory_views_agree {s : MemoryStore} (hs : s.Reachable) (v : Service)
    (path : Path) (hlist : v.handle.permits path.asDir.text .list = true) (now : Instant)
    (index : Snapshot) :
    ∃ dirs sized tree,
      s.reply now index (v.listDirectory path.text) = .ok dirs ∧
      (∀ by_, s.reply now index (v.listDirectoryWithSizes path.text by_) = .ok (sized by_)) ∧
      s.reply now index (v.directoryTree path.text) = .ok tree ∧
      Directory.Agree dirs sized tree ∧
      ∀ name, ⟨name, .dir⟩ ∈ dirs → ∃ below,
        s.reply now index (v.directoryTree (path.asDir.text ++ name)) = .ok below ∧
        TreeNode.node name .dir (some below) ∈ tree := by
  obtain ⟨m, hm⟩ := hs.represents
  have hdir := path.isDirLike_asDir
  have hfiles := hs.namesFiles.entries hm
  refine ⟨_, _, _, MemoryStore.reply_listDirectory hm hlist,
    MemoryStore.reply_listDirectoryWithSizes hm hlist, MemoryStore.reply_directoryTree hm hlist,
    Directory.agree hdir hfiles, ?_⟩
  intro name hchild
  obtain ⟨e, -, after, htext, hname⟩ := Directory.exists_below_child hdir hfiles hchild
  obtain ⟨child, hchildText, hchildDir⟩ := Path.exists_child hname htext
  have hchildList : v.handle.permits child.asDir.text .list = true := by
    obtain ⟨g, hg, hroot, hop⟩ := permits_iff.mp hlist
    apply permits_iff.mpr
    refine ⟨g, hg, ?_, hop⟩
    rw [hchildDir]
    exact hroot.trans (List.prefix_append _ _)
  refine ⟨_, ?_, Directory.node_of_dir hdir hfiles hname.2 hchildDir hchild⟩
  rw [← hchildText]
  exact MemoryStore.reply_directoryTree hm hchildList

/-- With `a` and `a/b` stored, `a` is a directory in the listing of the workspace, and its node has
the tree that is shown below it. -/
theorem directory_views_of_file_above_file :
    let h : Handle := .ofNamespaces [.workspace]
    let put (s : MemoryStore) (path : Text) : MemoryStore :=
      ((h.fulfil (.file path (.write [1] true))).runWith
        (MemoryStore.backend ⟨0, 0⟩) ⟨s, ∅⟩).2.store
    let s := put (put .empty "/workspace/a") "/workspace/a/b"
    s.Reachable ∧ ∃ tree below,
      s.reply ⟨1, 0⟩ ∅ (Service.directoryTree ⟨h, {}⟩ "/workspace") = .ok tree ∧
      s.reply ⟨1, 0⟩ ∅ (Service.directoryTree ⟨h, {}⟩ "/workspace/a") = .ok below ∧
      tree.map (fun n => (n.name, n.kind)) = [("a".toList, .dir)] ∧
      TreeNode.node "a" .dir (some below) ∈ tree := by
  intro h put s
  have hs : s.Reachable := .request h _ ⟨0, 0⟩ ∅ (.request h _ ⟨0, 0⟩ ∅ .empty)
  obtain ⟨dirs, _, tree, hdirs, -, htree, hagree, hbelow⟩ :=
    Service.directory_views_agree hs ⟨h, {}⟩ ⟨"/workspace", by decide⟩ (by decide) ⟨1, 0⟩ ∅
  have hlisting : s.reply ⟨1, 0⟩ ∅ (Service.listDirectory ⟨h, {}⟩ "/workspace") =
      .ok [⟨"a", .dir⟩] := by
    decide +kernel
  have hone : dirs = [⟨"a", .dir⟩] := Except.ok.inj (hdirs.symm.trans hlisting)
  obtain ⟨below, hreply, hnode⟩ := hbelow "a" (hone ▸ List.mem_cons_self)
  have hpairs := hagree.sameTree
  rw [hone] at hpairs
  exact ⟨hs, tree, below, htree, hreply, hpairs, hnode⟩

end GrantFs
