import GrantFs.Proofs.DirectoryViews

/-! # The tree of a directory is exact

A tree is read as the list of its nodes, each with the names that lead to it. Main statement: on
every store that handles can reach, the names that lead to the nodes of a tree are exactly the
beginnings of the names that lead to the stored files below its directory, and the leaves are the
files that have no others below them. -/
namespace GrantFs

namespace TreeNode

mutual

/-- The node and all nodes below it, each with the names that lead to it. -/
def places : TreeNode → List (List Text × TreeNode)
  | node name kind none => [([name], node name kind none)]
  | node name kind (some children) =>
    ([name], node name kind (some children)) ::
      (placesIn children).map fun place => (name :: place.1, place.2)

def placesIn : List TreeNode → List (List Text × TreeNode)
  | [] => []
  | n :: rest => places n ++ placesIn rest

end

theorem placesIn_eq (tree : List TreeNode) : placesIn tree = tree.flatMap places := by
  induction tree with
  | nil => rfl
  | cons n rest ih => rw [placesIn, ih, List.flatMap_cons]

/-- Siblings stand in the order of the bytes of their names, each name once. -/
def Ascending (tree : List TreeNode) : Prop :=
  tree.Pairwise fun a b => compare (Utf8.encode a.name) (Utf8.encode b.name) = .lt

end TreeNode

namespace Directory

open TreeNode

variable {dir path : Path} {rows : List (List Text)} {row : List Text} {n : TreeNode}
  {entries : List Entry} {stored : Path → Prop}

theorem forest_nil : forest [] = [] := rfl

/-- A node is followed by the places of the tree of what is behind its name, also if that is
nothing. -/
theorem places_nodeOf (name : Text) (rests : List (List Text)) :
    places (nodeOf name rests) = ([name], nodeOf name rests) ::
      (placesIn (forest (rests.filter (· ≠ [])))).map fun place => (name :: place.1, place.2) := by
  rw [nodeOf]
  split
  next hnil =>
    rw [hnil, forest_nil]
    rfl
  next => rfl

theorem mem_places_forest {place : List Text × TreeNode} :
    place ∈ placesIn (forest rows) ↔ ∃ name, restsOf name rows ≠ [] ∧
      (place = ([name], nodeOf name (restsOf name rows)) ∨
        ∃ below ∈ placesIn (forest ((restsOf name rows).filter (· ≠ []))),
          place = (name :: below.1, below.2)) := by
  rw [placesIn_eq, forest_eq, List.flatMap_map, List.mem_flatMap]
  constructor
  · rintro ⟨group, hgroup, hplace⟩
    obtain ⟨hrests, hne⟩ := mem_byHead.mp hgroup
    rw [places_nodeOf, List.mem_cons, List.mem_map] at hplace
    rw [hrests] at hne hplace
    refine ⟨group.1, hne, hplace.imp id ?_⟩
    rintro ⟨below, hbelow, rfl⟩
    exact ⟨below, hbelow, rfl⟩
  · rintro ⟨name, hne, hplace⟩
    refine ⟨(name, restsOf name rows), mem_byHead.mpr ⟨rfl, hne⟩, ?_⟩
    rw [places_nodeOf, List.mem_cons, List.mem_map]
    refine hplace.imp id ?_
    rintro ⟨below, hbelow, rfl⟩
    exact ⟨below, hbelow, rfl⟩

/-- The node that names lead to is made of what the rows have behind these names. -/
theorem rests_of_place (h : (row, n) ∈ placesIn (forest rows)) :
    row ≠ [] ∧ ∃ name rests, n = nodeOf name rests ∧ rests ≠ [] ∧
      ∀ rest, rest ∈ rests ↔ row ++ rest ∈ rows := by
  induction row generalizing rows with
  | nil =>
    obtain ⟨name, -, heq | ⟨below, -, heq⟩⟩ := mem_places_forest.mp h <;> cases heq
  | cons head tail ih =>
    refine ⟨List.cons_ne_nil head tail, ?_⟩
    obtain ⟨name, hne, heq | ⟨below, hbelow, heq⟩⟩ := mem_places_forest.mp h
    · cases heq
      exact ⟨head, _, rfl, hne, fun rest => mem_restsOf⟩
    · cases heq
      obtain ⟨htail, name, rests, hn, hrests, hmem⟩ := ih hbelow
      refine ⟨name, rests, hn, hrests, fun rest => ?_⟩
      have hlong : below.1 ++ rest ≠ [] := List.append_ne_nil_of_left_ne_nil htail rest
      rw [hmem, List.mem_filter, mem_restsOf, List.cons_append]
      simp [hlong]

theorem exists_place {rest : List Text} (hne : row ≠ []) (h : row ++ rest ∈ rows) :
    ∃ n, (row, n) ∈ placesIn (forest rows) := by
  induction row generalizing rows with
  | nil => exact absurd rfl hne
  | cons head tail ih =>
    have hbehind : tail ++ rest ∈ restsOf head rows := mem_restsOf.mpr h
    have hrests : restsOf head rows ≠ [] := List.ne_nil_of_mem hbehind
    by_cases htail : tail = []
    · subst htail
      exact ⟨_, mem_places_forest.mpr ⟨head, hrests, .inl rfl⟩⟩
    · have hlong : tail ++ rest ≠ [] := List.append_ne_nil_of_left_ne_nil htail rest
      have hdeeper : tail ++ rest ∈ (restsOf head rows).filter (· ≠ []) :=
        List.mem_filter.mpr ⟨hbehind, decide_eq_true hlong⟩
      obtain ⟨n, hn⟩ := ih htail hdeeper
      exact ⟨n, mem_places_forest.mpr ⟨head, hrests, .inr ⟨_, hn, rfl⟩⟩⟩

/-- What holds of rows if it holds of what they have behind each name holds of all rows. -/
theorem rows_induction {motive : List (List Text) → Prop}
    (step : ∀ rows, (∀ name, restsOf name rows ≠ [] →
      motive ((restsOf name rows).filter (· ≠ []))) → motive rows)
    (rows : List (List Text)) : motive rows := by
  suffices h : ∀ depth rows, (∀ row ∈ rows, row.length ≤ depth) → motive rows from
    h _ rows fun row hrow => List.le_sum_of_mem (List.mem_map_of_mem hrow)
  intro depth
  induction depth with
  | zero =>
    intro rows hrows
    apply step
    intro name hne
    obtain ⟨rest, hrest⟩ := List.exists_mem_of_ne_nil _ hne
    have hlength := hrows _ (mem_restsOf.mp hrest)
    simp at hlength
  | succ depth ih =>
    intro rows hrows
    apply step
    intro name _
    apply ih
    intro rest hrest
    have hlength := hrows _ (mem_restsOf.mp (List.mem_of_mem_filter hrest))
    simpa using hlength

theorem nodup_places (rows : List (List Text)) :
    ((placesIn (forest rows)).map (·.1)).Nodup := by
  induction rows using rows_induction with
  | step rows ih =>
    have hplaces : ∀ group ∈ (byHead rows).entries,
        (places (nodeOf group.1 group.2)).map (·.1) =
          [group.1] :: ((placesIn (forest (group.2.filter (· ≠ [])))).map (·.1)).map
            (group.1 :: ·) := by
      intro group _
      rw [places_nodeOf, List.map_cons, List.map_map, List.map_map]
      rfl
    rw [placesIn_eq, forest_eq, List.flatMap_map, List.map_flatMap, List.nodup_flatMap]
    constructor
    · intro group hgroup
      obtain ⟨hrests, hne⟩ := mem_byHead.mp hgroup
      rw [hplaces group hgroup, List.nodup_cons]
      rw [hrests] at hne ⊢
      refine ⟨?_, (ih group.1 hne).map (List.cons_injective)⟩
      rw [List.mem_map]
      rintro ⟨below, hbelow, heq⟩
      cases heq
      obtain ⟨⟨row, n⟩, hplace, rfl⟩ := List.mem_map.mp hbelow
      exact (rests_of_place hplace).1 rfl
    · -- the rows of different groups differ in their first names
      apply (byHead rows).ascending.imp_of_mem
      rintro a b ha hb hlt
      have hne : a.1 ≠ b.1 := by
        intro heq
        have hself : compare a.1 b.1 = .eq := Std.LawfulEqCmp.compare_eq_iff_eq.mpr heq
        rw [hself] at hlt
        cases hlt
      show List.Disjoint ((places (nodeOf a.1 a.2)).map (·.1)) ((places (nodeOf b.1 b.2)).map (·.1))
      rw [hplaces a ha, hplaces b hb]
      intro row hrow hrow'
      have hhead : ∀ {name : Text} {below : List (List Text)},
          row ∈ [name] :: below.map (name :: ·) → row.head? = some name := by
        intro name below hmem
        rcases List.mem_cons.mp hmem with rfl | hmem
        · rfl
        · obtain ⟨_, _, rfl⟩ := List.mem_map.mp hmem
          rfl
      exact hne (Option.some.inj ((hhead hrow).symm.trans (hhead hrow')))

theorem forest_ascending (rows : List (List Text)) : Ascending (forest rows) := by
  rw [Ascending, forest_eq]
  apply List.pairwise_map.mpr
  apply (byHead rows).ascending.imp
  intro a b hlt
  rw [nodeOf_name, nodeOf_name, Utf8.compare_encode]
  exact hlt

theorem forest_ne_nil (hne : rows ≠ []) (hrows : ∀ row ∈ rows, row ≠ []) : forest rows ≠ [] := by
  rw [forest_eq, Ne, List.map_eq_nil_iff]
  exact byHead_ne_nil hne hrows

structure LeadsTo (dir : Path) (names : List Text) (p : Path) : Prop where
  segments : ∀ name ∈ names, name.IsSegment
  text : p.text = dir.text ++ Text.joinWith "/" names

namespace LeadsTo

variable {names : List Text} {p q : Path}

theorem path_eq (h : LeadsTo dir names p) (h' : LeadsTo dir names q) : p = q :=
  Path.ext_text (h.text.trans h'.text.symm)

theorem ne_nil (h : LeadsTo dir names p) (hdir : dir.isDirLike = true)
    (hfile : p.isDirLike = false) : names ≠ [] := by
  rintro rfl
  have htext : p = dir := Path.ext_text (h.text.trans (List.append_nil dir.text))
  rw [htext, hdir] at hfile
  cases hfile

end LeadsTo

theorem rowOf?_eq_some (hdir : dir.isDirLike = true) (hfile : path.isDirLike = false)
    {names : List Text} : rowOf? dir path = some names ↔ LeadsTo dir names path := by
  rw [rowOf?, Option.map_eq_some_iff]
  constructor
  · rintro ⟨t, ht, rfl⟩
    have htext := Text.stripStart?_eq_some.mp ht
    refine ⟨fun name => Text.isSegment_of_mem_segments, ?_⟩
    rw [Text.joinWith_segments (Path.slashes_apart hdir hfile htext)]
    exact htext
  · intro h
    exact ⟨_, Text.stripStart?_eq_some.mpr h.text, Text.segments_joinWith h.segments⟩

theorem exists_leadsTo (hdir : dir.isDirLike = true) (hfile : path.isDirLike = false)
    (hbelow : dir.text <+: path.text) : ∃ names, LeadsTo dir names path := by
  obtain ⟨t, ht⟩ := hbelow
  refine ⟨Text.segments t, (rowOf?_eq_some hdir hfile).mp ?_⟩
  rw [rowOf?, Text.stripStart?_eq_some.mpr ht.symm]
  rfl

theorem LeadsTo.slash_prefix_iff {names : List Text} {p q : Path} (h : LeadsTo dir names p)
    (hdir : dir.isDirLike = true) (hp : p.isDirLike = false) (hq : q.isDirLike = false) :
    p.text ++ ['/'] <+: q.text ↔ ∃ more, more ≠ [] ∧ LeadsTo dir (names ++ more) q := by
  constructor
  · rintro ⟨after, hafter⟩
    have htext : q.text = dir.text ++ (Text.joinWith "/" names ++ '/' :: after) := by
      rw [← hafter, h.text]
      simp
    have hrow : rowOf? dir q = some (names ++ Text.segments after) := by
      rw [rowOf?, Text.stripStart?_eq_some.mpr htext, Option.map_some,
        Text.segments_append_slash, Text.segments_joinWith h.segments]
    have hleads := (rowOf?_eq_some hdir hq).mp hrow
    refine ⟨Text.segments after, ?_, hleads⟩
    intro hnil
    rw [hnil, List.append_nil] at hleads
    have hsame := congrArg List.length hafter
    rw [hleads.path_eq h] at hsame
    simp at hsame
  · rintro ⟨more, hmore, hleads⟩
    refine ⟨Text.joinWith "/" more, ?_⟩
    rw [hleads.text, Text.joinWith_slash_append (h.ne_nil hdir hp) hmore, h.text]
    simp

theorem mem_rowsOf (hdir : dir.isDirLike = true) (hfiles : ∀ p, stored p → p.isDirLike = false)
    (hstored : ∀ p, stored p ↔ p ∈ entries.map (·.path)) {names : List Text} :
    names ∈ rowsOf dir entries ↔ ∃ p, stored p ∧ LeadsTo dir names p := by
  rw [rowsOf_eq, List.mem_filterMap]
  constructor
  · rintro ⟨e, he, hrow⟩
    have hentry : stored e.path := (hstored e.path).mpr (List.mem_map_of_mem he)
    exact ⟨e.path, hentry, (rowOf?_eq_some hdir (hfiles _ hentry)).mp hrow⟩
  · rintro ⟨p, hp, hleads⟩
    obtain ⟨e, he, rfl⟩ := List.mem_map.mp ((hstored p).mp hp)
    exact ⟨e, he, (rowOf?_eq_some hdir (hfiles _ hp)).mpr hleads⟩

/-- The names lead to a stored file, and no more names lead on to another one. -/
def IsLeaf (dir : Path) (stored : Path → Prop) (names : List Text) : Prop :=
  (∃ p, stored p ∧ LeadsTo dir names p) ∧
    ∀ more p, stored p → LeadsTo dir (names ++ more) p → more = []

theorem LeadsTo.isLeaf_iff {names : List Text} {p : Path} (h : LeadsTo dir names p)
    (hdir : dir.isDirLike = true) (hfiles : ∀ p, stored p → p.isDirLike = false) (hp : stored p) :
    IsLeaf dir stored names ↔ ∀ q, stored q → ¬ p.text ++ ['/'] <+: q.text := by
  constructor
  · rintro ⟨-, hlast⟩ q hq hbelow
    obtain ⟨more, hmore, hleads⟩ :=
      (h.slash_prefix_iff hdir (hfiles p hp) (hfiles q hq)).mp hbelow
    exact hmore (hlast more q hq hleads)
  · intro hlast
    refine ⟨⟨p, hp, h⟩, ?_⟩
    intro more q hq hleads
    by_contra hmore
    exact hlast q hq
      ((h.slash_prefix_iff hdir (hfiles p hp) (hfiles q hq)).mpr ⟨more, hmore, hleads⟩)

/-- The tree shows the files below the directory and nothing else: its nodes are the beginnings of
the ways to them, each once and in order, and its leaves are the files without others below them. -/
structure Charts (dir : Path) (stored : Path → Prop) (tree : List TreeNode) : Prop where
  rows : ∀ names, names ∈ (placesIn tree).map (·.1) ↔
    names ≠ [] ∧ ∃ more p, stored p ∧ LeadsTo dir (names ++ more) p
  once : ((placesIn tree).map (·.1)).Nodup
  top : Ascending tree
  siblings : ∀ names n children, (names, n) ∈ placesIn tree → n.children = some children →
    Ascending children
  files : ∀ names n, (names, n) ∈ placesIn tree → IsLeaf dir stored names →
    n.kind = .file ∧ n.children = none
  dirs : ∀ names n, (names, n) ∈ placesIn tree → ¬ IsLeaf dir stored names →
    n.kind = .dir ∧ ∃ children, n.children = some children ∧ children ≠ []
  leaves : ∀ p, (∃ names n, (names, n) ∈ placesIn tree ∧ n.kind = .file ∧ LeadsTo dir names p) ↔
    stored p ∧ dir.text <+: p.text ∧ ∀ q, stored q → ¬ p.text ++ ['/'] <+: q.text

theorem nodeOf_of_leaf {name : Text} {rests : List (List Text)} (h : ∀ rest ∈ rests, rest = []) :
    nodeOf name rests = .node name .file none := by
  rw [nodeOf, if_pos]
  rw [List.filter_eq_nil_iff]
  intro rest hrest
  simp [h rest hrest]

theorem nodeOf_of_deep (name : Text) {rest : List Text} {rests : List (List Text)}
    (hrest : rest ∈ rests) (hne : rest ≠ []) :
    nodeOf name rests = .node name .dir (some (forest (rests.filter (· ≠ [])))) ∧
      forest (rests.filter (· ≠ [])) ≠ [] := by
  have hdeep : rests.filter (· ≠ []) ≠ [] :=
    List.ne_nil_of_mem (List.mem_filter.mpr ⟨hrest, decide_eq_true hne⟩)
  refine ⟨if_neg hdeep, forest_ne_nil hdeep ?_⟩
  intro row hrow
  exact of_decide_eq_true (List.mem_filter.mp hrow).2

theorem nodeOf_children {name : Text} {rests : List (List Text)} {children : List TreeNode}
    (h : (nodeOf name rests).children = some children) : ∃ rows, children = forest rows := by
  rw [nodeOf] at h
  split at h
  · cases h
  · cases h
    exact ⟨_, rfl⟩

section Rows

variable (hrows : ∀ names, names ∈ rows ↔ ∃ p, stored p ∧ LeadsTo dir names p)
include hrows

theorem mem_places_names {names : List Text} : names ∈ (placesIn (forest rows)).map (·.1) ↔
    names ≠ [] ∧ ∃ more p, stored p ∧ LeadsTo dir (names ++ more) p := by
  rw [List.mem_map]
  constructor
  · rintro ⟨⟨names, n⟩, hn, rfl⟩
    obtain ⟨hne, name, rests, -, hrests, hmem⟩ := rests_of_place hn
    obtain ⟨rest, hrest⟩ := List.exists_mem_of_ne_nil _ hrests
    exact ⟨hne, rest, (hrows _).mp ((hmem rest).mp hrest)⟩
  · rintro ⟨hne, more, hmore⟩
    obtain ⟨n, hn⟩ := exists_place hne ((hrows _).mpr hmore)
    exact ⟨(names, n), hn, rfl⟩

theorem file_of_leaf (hn : (row, n) ∈ placesIn (forest rows)) (hleaf : IsLeaf dir stored row) :
    n.kind = .file ∧ n.children = none := by
  obtain ⟨-, name, rests, rfl, -, hmem⟩ := rests_of_place hn
  rw [nodeOf_of_leaf]
  · exact ⟨rfl, rfl⟩
  · intro rest hrest
    obtain ⟨p, hp, hleads⟩ := (hrows _).mp ((hmem rest).mp hrest)
    exact hleaf.2 rest p hp hleads

theorem dir_of_deep (hn : (row, n) ∈ placesIn (forest rows)) (hdeep : ¬ IsLeaf dir stored row) :
    n.kind = .dir ∧ ∃ children, n.children = some children ∧ children ≠ [] := by
  obtain ⟨-, more, hmore⟩ := (mem_places_names hrows).mp (List.mem_map.mpr ⟨(row, n), hn, rfl⟩)
  have hon : ∃ rest, rest ≠ [] ∧ row ++ rest ∈ rows := by
    by_cases hnil : more = []
    · -- the names lead to a file, so something lies below it
      rw [hnil, List.append_nil] at hmore
      rw [IsLeaf, not_and] at hdeep
      have hlast := hdeep hmore
      push Not at hlast
      obtain ⟨rest, q, hq, hleads, hrest⟩ := hlast
      exact ⟨rest, hrest, (hrows _).mpr ⟨q, hq, hleads⟩⟩
    · exact ⟨more, hnil, (hrows _).mpr hmore⟩
  obtain ⟨rest, hne, hrest⟩ := hon
  obtain ⟨-, name, rests, rfl, -, hmem⟩ := rests_of_place hn
  obtain ⟨hnode, hchildren⟩ := nodeOf_of_deep name ((hmem rest).mpr hrest) hne
  rw [hnode]
  exact ⟨rfl, _, rfl, hchildren⟩

/-- The file nodes are those of the files that no other path goes on below. -/
theorem file_places (hdir : dir.isDirLike = true) (hfiles : ∀ p, stored p → p.isDirLike = false)
    (p : Path) :
    (∃ names n, (names, n) ∈ placesIn (forest rows) ∧ n.kind = .file ∧ LeadsTo dir names p) ↔
      stored p ∧ dir.text <+: p.text ∧ ∀ q, stored q → ¬ p.text ++ ['/'] <+: q.text := by
  constructor
  · rintro ⟨names, n, hn, hkind, hleads⟩
    have hleaf : IsLeaf dir stored names := by
      by_contra hdeep
      rw [(dir_of_deep hrows hn hdeep).1] at hkind
      cases hkind
    obtain ⟨q, hq, hleads'⟩ := hleaf.1
    obtain rfl := hleads.path_eq hleads'
    exact ⟨hq, ⟨_, hleads.text.symm⟩, (hleads.isLeaf_iff hdir hfiles hq).mp hleaf⟩
  · rintro ⟨hp, hbelow, hlast⟩
    obtain ⟨names, hleads⟩ := exists_leadsTo hdir (hfiles p hp) hbelow
    have hrow : names ++ [] ∈ rows := (hrows _).mpr ⟨p, hp, by rwa [List.append_nil]⟩
    obtain ⟨n, hn⟩ := exists_place (hleads.ne_nil hdir (hfiles p hp)) hrow
    have hleaf := (hleads.isLeaf_iff hdir hfiles hp).mpr hlast
    exact ⟨names, n, hn, (file_of_leaf hrows hn hleaf).1, hleads⟩

end Rows

theorem charts_tree (hdir : dir.isDirLike = true) (hfiles : ∀ p, stored p → p.isDirLike = false)
    (hstored : ∀ p, stored p ↔ p ∈ entries.map (·.path)) :
    Charts dir stored (tree dir entries) := by
  have hrows : ∀ names, names ∈ rowsOf dir entries ↔ ∃ p, stored p ∧ LeadsTo dir names p :=
    fun names => mem_rowsOf hdir hfiles hstored
  exact {
    rows := fun names => mem_places_names hrows
    once := nodup_places _
    top := forest_ascending _
    siblings := by
      intro names n children hn hchildren
      obtain ⟨-, name, rests, rfl, -⟩ := rests_of_place hn
      obtain ⟨below, rfl⟩ := nodeOf_children hchildren
      exact forest_ascending below
    files := fun names n => file_of_leaf hrows
    dirs := fun names n => dir_of_deep hrows
    leaves := file_places hrows hdir hfiles }

end Directory

theorem MemoryStore.Represents.mem_paths {s : MemoryStore} {m : Contents} (h : s.Represents m)
    (p : Path) : s.content.get? p ≠ none ↔ p ∈ s.entries.values.map (·.path) := by
  rw [← h.entry_isSome_iff, List.mem_map]
  constructor
  · rintro ⟨e, he⟩
    have hpath := h.path_eq he
    subst hpath
    exact ⟨e, h.mem_values.mpr he, rfl⟩
  · rintro ⟨e, he, rfl⟩
    exact ⟨e, h.mem_values.mp he⟩

/-- On every store that handles can reach, the tree of every directory that may be listed shows
exactly what is stored below the directory. -/
theorem Service.directory_tree_exact {s : MemoryStore} (hs : s.Reachable) (v : Service)
    (path : Path) (hlist : v.handle.permits path.asDir.text .list = true) (now : Instant)
    (index : Snapshot) :
    ∃ tree, s.reply now index (v.directoryTree path.text) = .ok tree ∧
      Directory.Charts path.asDir (fun p => s.content.get? p ≠ none) tree := by
  obtain ⟨m, hm⟩ := hs.represents
  exact ⟨_, MemoryStore.reply_directoryTree hm hlist,
    Directory.charts_tree path.isDirLike_asDir hs.namesFiles hm.mem_paths⟩

/-- With `a`, `a/b/c` and `d` stored, the tree of the workspace has the nodes `a`, `a/b`, `a/b/c`
and `d`, and its leaves are the last two. -/
theorem directory_tree_of_nested_files :
    let h : Handle := .ofNamespaces [.workspace]
    let put (s : MemoryStore) (path : Text) : MemoryStore :=
      ((h.fulfil (.file path (.write [1] true))).runWith
        (MemoryStore.backend ⟨0, 0⟩) ⟨s, ∅⟩).2.store
    let s := put (put (put .empty "/workspace/d") "/workspace/a") "/workspace/a/b/c"
    s.Reachable ∧ h.permits "/workspace/" .list = true ∧ ∃ tree,
      s.reply ⟨1, 0⟩ ∅ (Service.directoryTree ⟨h, {}⟩ "/workspace") = .ok tree ∧
      Directory.Charts ⟨"/workspace/", by decide⟩ (fun p => s.content.get? p ≠ none) tree ∧
      (TreeNode.placesIn tree).map (fun place => (Text.joinWith "/" place.1, place.2.kind)) =
        [("a".toList, .dir), ("a/b".toList, .dir), ("a/b/c".toList, .file),
          ("d".toList, .file)] := by
  intro h put s
  have hs : s.Reachable :=
    .request h _ ⟨0, 0⟩ ∅ (.request h _ ⟨0, 0⟩ ∅ (.request h _ ⟨0, 0⟩ ∅ .empty))
  have hlist : h.permits "/workspace/" .list = true := by decide
  obtain ⟨tree, htree, hcharts⟩ :=
    Service.directory_tree_exact hs ⟨h, {}⟩ ⟨"/workspace", by decide⟩ hlist ⟨1, 0⟩ ∅
  have hplaces : (s.reply ⟨1, 0⟩ ∅ (Service.directoryTree ⟨h, {}⟩ "/workspace")).map (fun tree =>
      (TreeNode.placesIn tree).map fun place => (Text.joinWith "/" place.1, place.2.kind)) =
      .ok [("a".toList, .dir), ("a/b".toList, .dir), ("a/b/c".toList, .file),
        ("d".toList, .file)] := by
    decide +kernel
  have hreply : s.reply ⟨1, 0⟩ ∅ (Service.directoryTree ⟨h, {}⟩ "/workspace") = .ok tree := htree
  rw [hreply] at hplaces
  exact ⟨hs, hlist, tree, htree, hcharts, Except.ok.inj hplaces⟩

end GrantFs
