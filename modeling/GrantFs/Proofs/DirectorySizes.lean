import GrantFs.Proofs.DirectoryViews

/-! # The sizes of a directory conserve bytes

A sized listing adds up files by the first segment that they have below the directory. Main
statement: on every store that handles can reach, a child has the bytes of the files below its name,
the whole listing has the bytes of all files below the directory, and what a child that is a
directory has is what its own listing has, with the file of its own path if there is one. -/
namespace GrantFs

namespace SortedMap

variable {κ α : Type} [Ord κ] [Std.TransOrd κ]

theorem sum_insertEntry (w : α → Nat) (k : κ) (a : α) {l : List (κ × α)}
    (h : l.Pairwise fun a b => compare a.1 b.1 = .lt) :
    ((insertEntry k a l).map fun e => w e.2).sum + ((lookupEntry k l).map w).getD 0 =
      (l.map fun e => w e.2).sum + w a := by
  induction l with
  | nil => simp [insertEntry, lookupEntry]
  | cons head rest ih =>
    obtain ⟨k', a'⟩ := head
    obtain ⟨hhead, hrest⟩ := List.pairwise_cons.mp h
    rw [insertEntry, lookupEntry]
    split
    next hlt =>
      have hnone : lookupEntry k rest = none :=
        lookupEntry_of_lt fun e he => Std.TransCmp.lt_trans hlt (hhead e he)
      simp [hlt, hnone]
      omega
    next heq =>
      simp [heq]
      omega
    next hgt =>
      have hsum := ih hrest
      simp only [hgt, List.map_cons, List.sum_cons, reduceCtorEq, if_false]
      omega

theorem sum_alter [Std.LawfulEqOrd κ] (w : α → Nat) (m : SortedMap κ α) (k : κ) (f : Option α → α) :
    ((m.alter k f).values.map w).sum + ((m.get? k).map w).getD 0 =
      (m.values.map w).sum + w (f (m.get? k)) := by
  rw [values, values, List.map_map, List.map_map]
  exact sum_insertEntry w k (f (m.get? k)) m.ascending

end SortedMap

namespace MemoryStore

def bytesOf (s : MemoryStore) (meant : Path → Bool) : Nat :=
  ((s.content.filter fun p _ => meant p).values.map List.length).sum

variable {s : MemoryStore} {m : Contents}

theorem Represents.size_eq (h : s.Represents m) (p : Path) :
    (s.entries.get? p).map Entry.sizeOrZero = (s.content.get? p).map List.length := by
  cases he : s.entries.get? p with
  | none =>
    rw [h.content, (h.listed p).mp he]
    rfl
  | some e =>
    obtain ⟨data, hdata⟩ := Option.ne_none_iff_exists'.mp ((h.entry_isSome_iff p).mp ⟨e, he⟩)
    rw [hdata]
    rw [h.content] at hdata
    simp [Entry.sizeOrZero, (h.described p e data he hdata).2]

theorem Represents.sum_sizes (h : s.Represents m) (meant : Path → Bool) :
    ((s.entries.values.filter fun e => meant e.path).map Entry.sizeOrZero).sum =
      s.bytesOf meant := by
  have hsizes : ∀ p, ((s.entries.filter fun p _ => meant p).get? p).map Entry.sizeOrZero =
      ((s.content.filter fun p _ => meant p).get? p).map List.length := by
    intro p
    have hfilter : ∀ {α : Type} (o : Option α) (f : α → Nat),
        (o.filter fun _ => meant p).map f = (o.map f).filter fun _ => meant p := by
      intro α o f
      cases o with
      | none => rfl
      | some a =>
        rw [Option.map_some, Option.filter_some, Option.filter_some]
        split <;> rfl
    rw [SortedMap.get?_filter, SortedMap.get?_filter, hfilter, hfilter, h.size_eq]
  have hkeyed := SortedMap.map_entries_eq Entry.sizeOrZero List.length hsizes
  have hvalues := congrArg (List.map Prod.snd) hkeyed
  rw [List.map_map, List.map_map] at hvalues
  rw [← h.values_filter, bytesOf, SortedMap.values, SortedMap.values, List.map_map, List.map_map]
  exact congrArg List.sum hvalues

theorem bytesOf_or (s : MemoryStore) {a b : Path → Bool} (h : ∀ p, a p = true → b p = false) :
    s.bytesOf (fun p => a p || b p) = s.bytesOf a + s.bytesOf b := by
  simp only [bytesOf, SortedMap.values, SortedMap.filter]
  induction s.content.entries with
  | nil => rfl
  | cons f rest ih =>
    have hf := h f.1
    cases ha : a f.1 <;> cases hb : b f.1 <;> simp_all <;> omega

theorem bytesOf_eq (s : MemoryStore) (p : Path) :
    s.bytesOf (fun q => q = p) = ((s.content.get? p).map List.length).getD 0 := by
  rw [bytesOf, SortedMap.filter_key]
  cases s.content.get? p <;> simp

theorem bytesOf_mono (s : MemoryStore) {a b : Path → Bool} (h : ∀ p, a p = true → b p = true) :
    s.bytesOf a ≤ s.bytesOf b := by
  have hsplit : s.bytesOf b = s.bytesOf a + s.bytesOf fun p => b p && !a p := by
    rw [← s.bytesOf_or]
    · congr 1
      funext p
      have hp := h p
      cases ha : a p <;> cases hb : b p <;> simp_all
    · intro p hp
      simp [hp]
  omega

end MemoryStore

namespace Directory

variable {dir path : Path} {name : Text} {entries : List Entry} {by_ : SortBy}

def firstIs (dir : Path) (name : Text) (p : Path) : Bool :=
  p.text = dir.text ++ name || (dir.text ++ (name ++ ['/'])).isPrefixOf p.text

theorem childOf?_name_iff (hdir : dir.isDirLike = true) (hfile : path.isDirLike = false)
    (hname : name.IsSegment) :
    (∃ kind, childOf? dir path = some (name, kind)) ↔ firstIs dir name path = true := by
  rw [firstIs, Bool.or_eq_true, decide_eq_true_eq, List.isPrefixOf_iff_prefix]
  by_cases hbelow : dir.text <+: path.text
  · obtain ⟨t, ht⟩ := hbelow
    have hstrip := Text.stripStart?_eq_some.mpr ht.symm
    rw [childOf?, hstrip, ← ht, List.append_cancel_left_eq, List.prefix_append_right_inj]
    rcases rest_cases hdir hfile ht.symm with
      ⟨hcut, hfree, hrow⟩ | ⟨head, after, hcut, hfree, rfl, -⟩
    · have hne : t ≠ [] := (Text.isSegment_of_mem_segments (hrow ▸ List.mem_singleton_self t)).1
      have hlong : ¬ name ++ ['/'] <+: t := fun h => hfree (h.subset (by simp))
      simp only [hcut, List.isEmpty_iff, if_neg hne]
      simp [hlong]
    · have hlong : head ++ '/' :: after ≠ name := by
        rintro rfl
        exact hname.2 (by simp)
      have hprefix : name ++ ['/'] <+: head ++ '/' :: after ↔ head = name := by
        constructor
        · rintro ⟨more, hmore⟩
          rw [List.append_assoc] at hmore
          exact Text.head_eq_of_slash hfree hname.2 hmore.symm
        · rintro rfl
          exact ⟨after, by simp⟩
      simp only [hcut]
      simp [hlong, hprefix]
  · rw [childOf?_eq_none hbelow]
    have hnot : ∀ more, path.text ≠ dir.text ++ more := fun more h => hbelow ⟨more, h.symm⟩
    have hnotBelow : ¬ dir.text ++ (name ++ ['/']) <+: path.text :=
      fun h => hbelow ((List.prefix_append _ _).trans h)
    simp [hnot, hnotBelow]

theorem sum_met (hdir : dir.isDirLike = true) (hfiles : ∀ e ∈ entries, e.path.isDirLike = false)
    (hname : name.IsSegment) :
    ((entries.filterMap (met? dir name)).map (·.2)).sum =
      ((entries.filter fun e => firstIs dir name e.path).map Entry.sizeOrZero).sum := by
  induction entries with
  | nil => rfl
  | cons e rest ih =>
    obtain ⟨hfile, hrest⟩ := List.forall_mem_cons.mp hfiles
    have hfirst := childOf?_name_iff hdir hfile hname
    rw [List.filterMap_cons, List.filter_cons]
    cases hchild : childOf? dir e.path with
    | none =>
      rw [hchild] at hfirst
      have hnot : ¬ firstIs dir name e.path = true := by simp [← hfirst]
      rw [if_neg hnot, met?, hchild]
      exact ih hrest
    | some child =>
      obtain ⟨head, kind⟩ := child
      rw [hchild] at hfirst
      by_cases hhead : head = name
      · have hyes : firstIs dir name e.path = true := by simp [← hfirst, hhead]
        rw [if_pos hyes, met?, hchild]
        simp only [if_pos hhead, List.map_cons, List.sum_cons, ih hrest]
      · have hnot : ¬ firstIs dir name e.path = true := by simp [← hfirst, hhead]
        rw [if_neg hnot, met?, hchild]
        simp only [if_neg hhead, ih hrest]

theorem sum_addChild (dir : Path) (children : SortedMap Text (EntryKind × Nat)) (e : Entry) :
    ((addChild dir children e).values.map (·.2)).sum =
      (children.values.map (·.2)).sum +
        if (childOf? dir e.path).isSome then e.sizeOrZero else 0 := by
  rw [addChild]
  cases childOf? dir e.path with
  | none => rfl
  | some child =>
    have hsum := fun f => SortedMap.sum_alter (·.2) children child.1 f
    simp only [Option.isSome_some, if_true]
    refine Nat.add_right_cancel ((hsum _).trans ?_)
    cases children.get? child.1 with
    | none => rfl
    | some present =>
      simp only [Option.map_some, Option.getD_some]
      omega

/-- All children together have the size of all entries below the directory. -/
theorem sum_children (hdir : dir.isDirLike = true)
    (hfiles : ∀ e ∈ entries, e.path.isDirLike = false) :
    ((children dir entries).values.map (·.2)).sum =
      ((entries.filter fun e => dir.text.isPrefixOf e.path.text).map Entry.sizeOrZero).sum := by
  induction entries using List.reverseRecOn with
  | nil => rfl
  | append_singleton entries e ih =>
    obtain ⟨hentries, hfile⟩ := List.forall_mem_append.mp hfiles
    have hbelow : (childOf? dir e.path).isSome = dir.text.isPrefixOf e.path.text := by
      rw [Bool.eq_iff_iff, List.isPrefixOf_iff_prefix]
      constructor
      · intro hsome
        by_contra hnot
        rw [childOf?_eq_none hnot] at hsome
        cases hsome
      · intro hbelow
        rcases childOf?_eq hdir (hfile e (List.mem_singleton_self e)) with ⟨hrow, -⟩ | ⟨_, _, -, h⟩
        · obtain ⟨t, ht⟩ := hbelow
          rw [rowOf?, Text.stripStart?_eq_some.mpr ht.symm] at hrow
          cases hrow
        · rw [h]
          rfl
    rw [children_concat, sum_addChild, ih hentries, hbelow, List.filter_append, List.map_append,
      List.sum_append]
    cases hp : dir.text.isPrefixOf e.path.text <;> simp [hp]

theorem segment_of_child (hdir : dir.isDirLike = true)
    (hfiles : ∀ e ∈ entries, e.path.isDirLike = false) {child : EntryKind × Nat}
    (h : (children dir entries).get? name = some child) : name.IsSegment := by
  rw [get?_children, summary] at h
  split at h
  · cases h
  next hmet =>
    obtain ⟨met, hmem⟩ := List.exists_mem_of_ne_nil _ hmet
    obtain ⟨e, he, hmeets⟩ := List.mem_filterMap.mp hmem
    rw [met?_eq hdir (hfiles e he), Option.map_eq_some_iff] at hmeets
    obtain ⟨rest, hrest, -⟩ := hmeets
    obtain ⟨row, hrow, hbehind⟩ := Option.bind_eq_some_iff.mp hrest
    obtain ⟨t, -, hsegments⟩ := Option.map_eq_some_iff.mp hrow
    cases row with
    | nil => cases hbehind
    | cons head tail =>
      rw [behind] at hbehind
      split at hbehind
      next heq => exact heq ▸ Text.isSegment_of_mem_segments (hsegments ▸ List.mem_cons_self)
      next => cases hbehind

theorem size_of_child (hdir : dir.isDirLike = true)
    (hfiles : ∀ e ∈ entries, e.path.isDirLike = false) {kind : EntryKind} {size : Nat}
    (h : (children dir entries).get? name = some (kind, size)) :
    size = ((entries.filter fun e => firstIs dir name e.path).map Entry.sizeOrZero).sum := by
  rw [← sum_met hdir hfiles (segment_of_child hdir hfiles h)]
  rw [get?_children, summary] at h
  split at h
  · cases h
  · exact (congrArg Prod.snd (Option.some.inj h)).symm

theorem get?_of_sized {e : SizedEntry} (h : e ∈ (sizedListing by_ dir entries).entries) :
    (children dir entries).get? e.name = some (e.kind, e.size) := by
  obtain ⟨child, hchild, rfl⟩ := List.mem_map.mp ((sizedListing_perm by_ dir entries).mem_iff.mp h)
  exact SortedMap.get?_eq_some.mpr hchild

theorem totalSize_eq (by_ : SortBy) (dir : Path) (entries : List Entry) :
    (sizedListing by_ dir entries).totalSize = ((children dir entries).values.map (·.2)).sum := by
  rw [SortedMap.values, List.map_map, List.sum_eq_foldr, List.foldr_map]
  exact List.foldr_map

theorem length_eq_counts (l : List SizedEntry) :
    l.length = l.countP (·.kind = .file) + l.countP (·.kind = .dir) := by
  induction l with
  | nil => rfl
  | cons e rest ih =>
    rw [List.length_cons, List.countP_cons, List.countP_cons, ih]
    cases e.kind <;> simp <;> omega

theorem fileCount_eq (by_ : SortBy) (dir : Path) (entries : List Entry) :
    (sizedListing by_ dir entries).fileCount =
      (sizedListing by_ dir entries).entries.countP (·.kind = .file) := by
  rw [(sizedListing_perm by_ dir entries).countP_eq]
  exact List.countP_eq_length_filter.symm

theorem counts_eq (by_ : SortBy) (dir : Path) (entries : List Entry) :
    (sizedListing by_ dir entries).fileCount + (sizedListing by_ dir entries).dirCount =
      (sizedListing by_ dir entries).entries.length := by
  rw [(sizedListing_perm by_ dir entries).length_eq]
  exact Nat.add_sub_cancel' (List.length_filter_le _ _)

/-- The listing adds up the bytes of the stored files below the directory, for each child and for
all of them. -/
structure RollsUp (s : MemoryStore) (dir : Path) (l : DirectoryListing) : Prop where
  entry : ∀ e ∈ l.entries, e.size = s.bytesOf (firstIs dir e.name)
  total : l.totalSize = s.bytesOf fun p => dir.text.isPrefixOf p.text
  fileCount : l.fileCount = l.entries.countP (·.kind = .file)
  dirCount : l.dirCount = l.entries.countP (·.kind = .dir)
  counts : l.fileCount + l.dirCount = l.entries.length
  /-- No sum leaves the words that hold the size of the whole store. -/
  fits : s.bytesOf (fun _ => true) < 2 ^ 64 →
    l.totalSize < 2 ^ 64 ∧ ∀ e ∈ l.entries, e.size < 2 ^ 64

theorem sized_mem_listing {e : SizedEntry} (h : e ∈ (sizedListing by_ dir entries).entries) :
    (⟨e.name, e.kind⟩ : DirEntry) ∈ listing dir entries := by
  have hpair : (e.name, e.kind) ∈ (listing dir entries).map fun e => (e.name, e.kind) := by
    rw [← sizedChildren_pairs]
    exact List.mem_map_of_mem (f := fun e : SizedEntry => (e.name, e.kind))
      ((sizedListing_perm by_ dir entries).mem_iff.mp h)
  obtain ⟨⟨name, kind⟩, hmem, heq⟩ := List.mem_map.mp hpair
  cases heq
  exact hmem

section Stored

variable {s : MemoryStore} {m : Contents} (hm : s.Represents m) (hdir : dir.isDirLike = true)
  (hfiles : ∀ e ∈ s.entries.values, e.path.isDirLike = false)
include hm hdir hfiles

theorem stored_size {e : SizedEntry}
    (h : e ∈ (sizedListing by_ dir s.entries.values).entries) :
    e.size = s.bytesOf (firstIs dir e.name) := by
  rw [size_of_child hdir hfiles (get?_of_sized h), hm.sum_sizes]

theorem stored_totalSize (by_ : SortBy) :
    (sizedListing by_ dir s.entries.values).totalSize =
      s.bytesOf fun p => dir.text.isPrefixOf p.text := by
  rw [totalSize_eq, sum_children hdir hfiles, ← hm.sum_sizes]

theorem rollsUp (by_ : SortBy) : RollsUp s dir (sizedListing by_ dir s.entries.values) where
  entry := fun e he => stored_size hm hdir hfiles he
  total := stored_totalSize hm hdir hfiles by_
  fileCount := fileCount_eq by_ dir _
  dirCount := by
    have hcounts := counts_eq by_ dir s.entries.values
    rw [length_eq_counts, fileCount_eq] at hcounts
    exact Nat.add_left_cancel hcounts
  counts := counts_eq by_ dir _
  fits := by
    intro hall
    have hbelow : ∀ meant, s.bytesOf meant < 2 ^ 64 :=
      fun meant => (s.bytesOf_mono fun _ _ => rfl).trans_lt hall
    rw [stored_totalSize hm hdir hfiles]
    refine ⟨hbelow _, ?_⟩
    intro e he
    rw [stored_size hm hdir hfiles he]
    exact hbelow _

/-- What a child directory has is what lies below it, and the file of its own path. -/
theorem stored_size_of_dir {e : SizedEntry} {child : Path}
    (h : e ∈ (sizedListing by_ dir s.entries.values).entries)
    (hchild : child.text = dir.text ++ e.name)
    (hchildDir : child.asDir.text = dir.text ++ (e.name ++ ['/'])) (by' : SortBy) :
    e.size = (sizedListing by' child.asDir s.entries.values).totalSize +
      ((s.content.get? child).map List.length).getD 0 := by
  rw [stored_size hm hdir hfiles h, stored_totalSize hm child.isDirLike_asDir hfiles,
    ← s.bytesOf_eq, ← s.bytesOf_or]
  · congr 1
    funext p
    rw [firstIs, ← hchild, ← hchildDir, Bool.or_comm]
    have hsame : p = child ↔ p.text = child.text := ⟨congrArg Path.text, Path.ext_text⟩
    simp only [hsame]
  · intro p hp
    rw [decide_eq_false_iff_not]
    rintro rfl
    have hlength := (List.isPrefixOf_iff_prefix.mp hp).length_le
    rw [hchildDir, hchild] at hlength
    simp at hlength

end Stored

end Directory

/-- On every store that handles can reach, every sized listing of a directory that may be listed
adds up the bytes of the stored files, and so do the listings of its children that are directories:
what the child has is the total of its own listing and the file of its own path. -/
theorem Service.sizes_roll_up {s : MemoryStore} (hs : s.Reachable) (v : Service) (path : Path)
    (hlist : v.handle.permits path.asDir.text .list = true) (by_ : SortBy) (now : Instant)
    (index : Snapshot) :
    ∃ l, s.reply now index (v.listDirectoryWithSizes path.text by_) = .ok l ∧
      Directory.RollsUp s path.asDir l ∧
      ∀ e ∈ l.entries, e.kind = .dir → ∃ child : Path,
        child.text = path.asDir.text ++ e.name ∧ ∀ by', ∃ below,
          s.reply now index (v.listDirectoryWithSizes child.text by') = .ok below ∧
          e.size = below.totalSize + ((s.content.get? child).map List.length).getD 0 := by
  obtain ⟨m, hm⟩ := hs.represents
  have hdir := path.isDirLike_asDir
  have hfiles := hs.namesFiles.entries hm
  refine ⟨_, MemoryStore.reply_listDirectoryWithSizes hm hlist by_,
    Directory.rollsUp hm hdir hfiles by_, ?_⟩
  intro e he hkind
  have hlisted := Directory.sized_mem_listing he
  rw [hkind] at hlisted
  obtain ⟨_, -, after, htext, hname⟩ := Directory.exists_below_child hdir hfiles hlisted
  obtain ⟨child, hchild, hchildDir⟩ := Path.exists_child hname htext
  have hchildList : v.handle.permits child.asDir.text .list = true := by
    apply permits_of_prefix hlist
    rw [hchildDir]
    exact List.prefix_append _ _
  refine ⟨child, hchild, fun by' => ⟨_, MemoryStore.reply_listDirectoryWithSizes hm hchildList by',
    Directory.stored_size_of_dir hm hdir hfiles he hchild hchildDir by'⟩⟩

/-- `a` is a file of three bytes with a file of two below it, so it is a directory of five bytes,
and its own listing has two. -/
theorem sizes_of_file_above_file :
    let h : Handle := .ofNamespaces [.workspace]
    let put (s : MemoryStore) (path : Text) (data : Bytes) : MemoryStore :=
      ((h.fulfil (.file path (.write data true))).runWith
        (MemoryStore.backend ⟨0, 0⟩) ⟨s, ∅⟩).2.store
    let s := put (put (put .empty "/workspace/a" [1, 2, 3]) "/workspace/a/b" [4, 5])
      "/workspace/c" [6]
    s.Reachable ∧ h.permits "/workspace/" .list = true ∧ ∃ l,
      s.reply ⟨1, 0⟩ ∅ (Service.listDirectoryWithSizes ⟨h, {}⟩ "/workspace" .size) = .ok l ∧
      Directory.RollsUp s ⟨"/workspace/", by decide⟩ l ∧
      l.totalSize = 6 ∧ ⟨"a", .dir, 5⟩ ∈ l.entries ∧
      ∃ child : Path, child.text = "/workspace/a" ∧ ∀ by', ∃ below,
        s.reply ⟨1, 0⟩ ∅ (Service.listDirectoryWithSizes ⟨h, {}⟩ child.text by') = .ok below ∧
        5 = below.totalSize + ((s.content.get? child).map List.length).getD 0 := by
  intro h put s
  have hs : s.Reachable :=
    .request h _ ⟨0, 0⟩ ∅ (.request h _ ⟨0, 0⟩ ∅ (.request h _ ⟨0, 0⟩ ∅ .empty))
  have hlist : h.permits "/workspace/" .list = true := by decide
  obtain ⟨l, hl, hrolls, hdirs⟩ :=
    Service.sizes_roll_up hs ⟨h, {}⟩ ⟨"/workspace", by decide⟩ hlist .size ⟨1, 0⟩ ∅
  obtain ⟨m, hm⟩ := hs.represents
  obtain rfl : l = Directory.sizedListing .size ⟨"/workspace/", by decide⟩ s.entries.values :=
    Except.ok.inj (hl.symm.trans (MemoryStore.reply_listDirectoryWithSizes hm hlist .size))
  have hchild : (⟨"a", .dir, 5⟩ : SizedEntry) ∈
      Directory.sizedChildren ⟨"/workspace/", by decide⟩ s.entries.values := by
    decide +kernel
  have hentry := (Directory.sizedListing_perm .size _ _).mem_iff.mpr hchild
  exact ⟨hs, hlist, _, hl, hrolls, by decide +kernel, hentry, hdirs _ hentry rfl⟩

end GrantFs
