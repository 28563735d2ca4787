import GrantFs.Directory.View
import GrantFs.Proofs.Location
import GrantFs.Proofs.Path
import GrantFs.Proofs.SortedMap
import GrantFs.Text.Cut
import Mathlib.Data.List.Induction

/-! # Rows below a directory

What a path has behind a directory is a row of segments: its child there and what follows the child.
Main statements: children by name and rows by first segment have the same names with the same kinds,
the rows below a child are those that follow it, and a tree that grows row by row is made of the
trees of its groups. -/
namespace GrantFs

namespace Text

theorem cutAt?_slash (t : Text) :
    (cutAt? "/" t = none ∧ '/' ∉ t) ∨
      ∃ head after, cutAt? "/" t = some (head, after) ∧ '/' ∉ head ∧ t = head ++ '/' :: after := by
  rcases cutAt?_cases "/" t with ⟨hnone, habsent⟩ | ⟨head, after, hcut, hfirst⟩
  · refine .inl ⟨hnone, fun hmem => habsent ?_⟩
    obtain ⟨before, rest, hsplit⟩ := List.append_of_mem hmem
    exact ⟨before, rest, by simp [hsplit]⟩
  · refine .inr ⟨head, after, hcut, fun hmem => ?_, by simpa using hfirst.split⟩
    obtain ⟨shorter, rest, hhead⟩ := List.append_of_mem hmem
    have hsplit : t = shorter ++ "/" ++ (rest ++ '/' :: after) := by
      rw [hfirst.split, hhead]
      simp
    have hlength := (hfirst.first hsplit).length_le
    rw [hhead, List.length_append, List.length_cons] at hlength
    omega

theorem head_eq_of_slash {head head' after after' : Text} (h : '/' ∉ head) (h' : '/' ∉ head')
    (heq : head ++ '/' :: after = head' ++ '/' :: after') : head = head' := by
  have hsplit := congrArg (split '/') heq
  rw [split_append, split_append, split_of_not_mem h, split_of_not_mem h'] at hsplit
  exact (List.cons.inj hsplit).1

theorem segments_cases {t : Text} (hne : t ≠ []) (hlast : t.getLast? ≠ some '/')
    (hmeet : ¬ ['/', '/'] <:+: '/' :: t) :
    (cutAt? "/" t = none ∧ '/' ∉ t ∧ segments t = [t]) ∨
      ∃ head after, cutAt? "/" t = some (head, after) ∧ '/' ∉ head ∧ t = head ++ '/' :: after ∧
        segments t = head :: segments after ∧ segments after ≠ [] := by
  rcases cutAt?_slash t with ⟨hcut, hfree⟩ | ⟨head, after, hcut, hfree, rfl⟩
  · exact .inl ⟨hcut, hfree, IsSegment.segments_eq ⟨hne, hfree⟩⟩
  · right
    have hhead : head ≠ [] := by
      rintro rfl
      exact hmeet ⟨[], after, rfl⟩
    have hafter : segments after ≠ [] := by
      rcases List.eq_nil_or_concat' after with rfl | ⟨before, c, rfl⟩
      · simp at hlast
      · apply segments_concat_ne_nil
        rintro rfl
        apply hlast
        rw [← List.cons_append, ← List.append_assoc, List.getLast?_concat]
    refine ⟨head, after, hcut, hfree, rfl, ?_, hafter⟩
    rw [segments_append_slash, IsSegment.segments_eq ⟨hhead, hfree⟩]
    rfl

end Text

namespace TreeBuilder

theorem ofRows_concat (rows : List (List Text)) (row : List Text) :
    ofRows (rows ++ [row]) = (ofRows rows).insert row := List.foldl_concat ..

theorem children_insert_cons (first : Text) (rest : List Text) (t : TreeBuilder) :
    (t.insert (first :: rest)).children =
      SortedMap.insertEntry first
        (if rest = [] then ((SortedMap.lookupEntry first t.children).getD empty).asFile
        else ((SortedMap.lookupEntry first t.children).getD empty).insert rest) t.children := by
  cases t
  rfl

/-- A row of segments grows below a tree, and leaves open whether a file ends at its root. -/
theorem insert_node (isFile : Bool) (t : TreeBuilder) (row : List Text) :
    (node isFile t.children).insert row = node isFile (t.insert row).children := by
  cases t
  cases row <;> rfl

theorem intoNodes_eq (children : List (Text × TreeBuilder)) :
    intoNodes children = children.map fun child => intoNode child.1 child.2 := by
  induction children with
  | nil => rfl
  | cons child rest ih => rw [intoNodes, ih, List.map_cons]

end TreeBuilder

namespace Directory

def rowOf? (dir path : Path) : Option (List Text) :=
  (Text.stripStart? dir.text path.text).map Text.segments

def kindOf (rest : List Text) : EntryKind := if rest = [] then .file else .dir

def behind (name : Text) : List Text → Option (List Text)
  | [] => none
  | head :: rest => if head = name then some rest else none

theorem behind_cons (name : Text) (rest : List Text) : behind name (name :: rest) = some rest :=
  if_pos rfl

theorem rowsOf_eq (dir : Path) (entries : List Entry) :
    rowsOf dir entries = entries.filterMap fun e => rowOf? dir e.path := rfl

variable {dir path sub : Path} {name : Text} {entries : List Entry}

theorem rest_cases {t : Text} (hdir : dir.isDirLike = true) (hfile : path.isDirLike = false)
    (ht : path.text = dir.text ++ t) :
    (Text.cutAt? "/" t = none ∧ '/' ∉ t ∧ Text.segments t = [t]) ∨
      ∃ head after, Text.cutAt? "/" t = some (head, after) ∧ '/' ∉ head ∧ t = head ++ '/' :: after ∧
        Text.segments t = head :: Text.segments after ∧ Text.segments after ≠ [] := by
  rw [Path.isDirLike, decide_eq_true_eq] at hdir
  rw [Path.isDirLike, decide_eq_false_iff_not, ht] at hfile
  have hne : t ≠ [] := by
    rintro rfl
    rw [List.append_nil] at hfile
    exact hfile hdir
  apply Text.segments_cases hne
  · rw [List.getLast?_append_of_ne_nil _ hne] at hfile
    exact hfile
  · obtain ⟨before, hbefore⟩ := List.getLast?_eq_some_iff.mp hdir
    obtain ⟨-, -, hfree⟩ := Path.flaw?_eq_none_iff.mp path.sound
    intro hmeet
    apply hfree ['/', '/'] (by decide)
    rw [ht, hbefore, List.append_assoc]
    exact hmeet.trans (List.suffix_append before _).isInfix

theorem rowOf?_eq_none (h : ¬ dir.text <+: path.text) : rowOf? dir path = none := by
  rw [rowOf?, Option.map_eq_none_iff, ← Option.not_isSome_iff_eq_none, Option.isSome_iff_exists]
  rintro ⟨t, ht⟩
  exact h ⟨t, (Text.stripStart?_eq_some.mp ht).symm⟩

theorem childOf?_eq_none (h : ¬ dir.text <+: path.text) : childOf? dir path = none := by
  have hrow := rowOf?_eq_none h
  rw [rowOf?, Option.map_eq_none_iff] at hrow
  rw [childOf?, hrow]

theorem childOf?_eq (hdir : dir.isDirLike = true) (hfile : path.isDirLike = false) :
    (rowOf? dir path = none ∧ childOf? dir path = none) ∨
      ∃ head rest, rowOf? dir path = some (head :: rest) ∧
        childOf? dir path = some (head, kindOf rest) := by
  by_cases hbelow : dir.text <+: path.text
  · right
    obtain ⟨t, ht⟩ := hbelow
    have hstrip := Text.stripStart?_eq_some.mpr ht.symm
    simp only [rowOf?, childOf?, hstrip]
    rcases rest_cases hdir hfile ht.symm with
      ⟨hcut, -, hrow⟩ | ⟨head, after, hcut, -, -, hrow, hafter⟩
    · refine ⟨t, [], congrArg some hrow, ?_⟩
      have hne : t ≠ [] := (Text.isSegment_of_mem_segments (hrow ▸ List.mem_singleton_self t)).1
      simp only [hcut, List.isEmpty_iff, if_neg hne]
      rfl
    · refine ⟨head, Text.segments after, congrArg some hrow, ?_⟩
      simp only [hcut, kindOf, if_neg hafter]
  · exact .inl ⟨rowOf?_eq_none hbelow, childOf?_eq_none hbelow⟩

theorem text_of_rowOf? (hdir : dir.isDirLike = true) (hfile : path.isDirLike = false) {head : Text}
    {rest : List Text} (hrow : rowOf? dir path = some (head :: rest)) (hrest : rest ≠ []) :
    ∃ after, path.text = dir.text ++ (head ++ '/' :: after) ∧ head.IsSegment := by
  obtain ⟨t, ht, hsegments⟩ := Option.map_eq_some_iff.mp hrow
  have htext := Text.stripStart?_eq_some.mp ht
  have hhead : head.IsSegment :=
    Text.isSegment_of_mem_segments (hsegments ▸ List.mem_cons_self)
  rcases rest_cases hdir hfile htext with ⟨-, -, hone⟩ | ⟨first, after, -, -, hcut, hmore, -⟩
  · rw [hone] at hsegments
    cases hsegments
    exact absurd rfl hrest
  · rw [hmore] at hsegments
    cases hsegments
    exact ⟨after, by rw [htext, hcut], hhead⟩

theorem rowOf?_child (hdir : dir.isDirLike = true) (hfile : path.isDirLike = false)
    (hname : '/' ∉ name) (hsub : sub.text = dir.text ++ (name ++ ['/'])) :
    rowOf? sub path = ((rowOf? dir path).bind (behind name)).filter (· ≠ []) := by
  by_cases hbelow : dir.text <+: path.text
  · obtain ⟨t, ht⟩ := hbelow
    have hstrip := Text.stripStart?_eq_some.mpr ht.symm
    have hunder : sub.text <+: path.text ↔ ∃ r, t = name ++ '/' :: r := by
      constructor
      · rintro ⟨r, hr⟩
        rw [← ht, hsub, List.append_assoc, List.append_assoc] at hr
        exact ⟨r, (List.append_cancel_left hr).symm⟩
      · rintro ⟨r, rfl⟩
        exact ⟨r, by rw [← ht, hsub]; simp⟩
    rw [show rowOf? dir path = some (Text.segments t) by rw [rowOf?, hstrip]; rfl]
    rcases rest_cases hdir hfile ht.symm with
      ⟨-, hfree, hrow⟩ | ⟨head, after, -, hfree, hcut, hrow, hafter⟩
    · rw [hrow, rowOf?_eq_none]
      · by_cases hhead : t = name
        · rw [hhead, Option.bind_some, behind_cons]
          rfl
        · simp [behind, hhead]
      · rw [hunder]
        rintro ⟨r, rfl⟩
        simp at hfree
    · rw [hrow]
      by_cases hhead : head = name
      · subst hhead
        have hsubstrip : Text.stripStart? sub.text path.text = some after := by
          rw [Text.stripStart?_eq_some, ← ht, hsub, hcut]
          simp
        rw [rowOf?, hsubstrip, Option.bind_some, behind_cons, Option.filter_some,
          if_pos (decide_eq_true hafter)]
        rfl
      · rw [rowOf?_eq_none]
        · simp [behind, hhead]
        · rw [hunder]
          rintro ⟨r, hr⟩
          exact hhead (Text.head_eq_of_slash hfree hname (hcut.symm.trans hr))
  · have hnot : ¬ sub.text <+: path.text := by
      intro hsubbelow
      apply hbelow
      rw [hsub] at hsubbelow
      exact (List.prefix_append _ _).trans hsubbelow
    rw [rowOf?_eq_none hbelow, rowOf?_eq_none hnot]
    rfl

def restsOf (name : Text) (rows : List (List Text)) : List (List Text) :=
  rows.filterMap (behind name)

theorem mem_restsOf {name : Text} {rows : List (List Text)} {rest : List Text} :
    rest ∈ restsOf name rows ↔ name :: rest ∈ rows := by
  rw [restsOf, List.mem_filterMap]
  constructor
  · rintro ⟨row, hrow, hbehind⟩
    cases row with
    | nil => cases hbehind
    | cons head tail =>
      rw [behind] at hbehind
      split at hbehind
      next heq =>
        cases hbehind
        rwa [← heq]
      next => cases hbehind
  · intro hrow
    exact ⟨name :: rest, hrow, behind_cons name rest⟩

theorem rowsOf_child (hdir : dir.isDirLike = true)
    (hfiles : ∀ e ∈ entries, e.path.isDirLike = false) (hname : '/' ∉ name)
    (hsub : sub.text = dir.text ++ (name ++ ['/'])) :
    rowsOf sub entries = (restsOf name (rowsOf dir entries)).filter (· ≠ []) := by
  rw [restsOf, rowsOf_eq, rowsOf_eq, List.filterMap_filterMap, List.filter_filterMap]
  apply List.filterMap_congr
  intro e he
  exact rowOf?_child hdir (hfiles e he) hname hsub

theorem rowsOf_filter (dir : Path) (entries : List Entry) :
    rowsOf dir (entries.filter fun e => dir.text.isPrefixOf e.path.text) = rowsOf dir entries := by
  rw [rowsOf_eq, rowsOf_eq, List.filterMap_filter]
  apply List.filterMap_congr
  intro e _
  split
  next => rfl
  next hnot => exact (rowOf?_eq_none (by rwa [← List.isPrefixOf_iff_prefix])).symm

/-- What the rows have behind each first name. -/
def byHead (rows : List (List Text)) : SortedMap Text (List (List Text)) :=
  rows.foldl (fun groups row =>
    match row with
    | [] => groups
    | head :: rest => groups.alter head fun present => present.getD [] ++ [rest]) ∅

theorem byHead_concat (rows : List (List Text)) (row : List Text) :
    byHead (rows ++ [row]) =
      match row with
      | [] => byHead rows
      | head :: rest => (byHead rows).alter head fun present => present.getD [] ++ [rest] :=
  List.foldl_concat ..

theorem get?_byHead (rows : List (List Text)) (name : Text) :
    (byHead rows).get? name =
      if restsOf name rows = [] then none else some (restsOf name rows) := by
  induction rows using List.reverseRecOn with
  | nil => rfl
  | append_singleton rows row ih =>
    have hconcat : restsOf name (rows ++ [row]) =
        restsOf name rows ++ [row].filterMap (behind name) := List.filterMap_append
    rw [byHead_concat, hconcat]
    cases row with
    | nil =>
      rw [show [[]].filterMap (behind name) = [] from rfl, List.append_nil]
      exact ih
    | cons head rest =>
      simp only [SortedMap.get?_alter]
      by_cases hname : name = head
      · subst hname
        rw [if_pos rfl, ih, List.filterMap_cons_some (behind_cons name rest)]
        by_cases hnil : restsOf name rows = [] <;> simp [hnil]
      · rw [if_neg hname, ih]
        simp [behind, Ne.symm hname]

theorem mem_byHead {rows : List (List Text)} {group : Text × List (List Text)} :
    group ∈ (byHead rows).entries ↔ group.2 = restsOf group.1 rows ∧ group.2 ≠ [] := by
  rw [← SortedMap.get?_eq_some, get?_byHead]
  split
  next hnil => simp [hnil]
  next hne =>
    rw [Option.some.injEq]
    constructor
    · intro heq
      exact ⟨heq.symm, heq ▸ hne⟩
    · rintro ⟨heq, -⟩
      exact heq.symm

theorem byHead_ne_nil {rows : List (List Text)} (hne : rows ≠ []) (hrows : ∀ row ∈ rows, row ≠ []) :
    (byHead rows).entries ≠ [] := by
  obtain ⟨row, hrow⟩ := List.exists_mem_of_ne_nil _ hne
  obtain ⟨head, tail, rfl⟩ := List.exists_cons_of_ne_nil (hrows row hrow)
  have hgroup : (head, restsOf head rows) ∈ (byHead rows).entries :=
    mem_byHead.mpr ⟨rfl, List.ne_nil_of_mem (mem_restsOf.mpr hrow)⟩
  exact List.ne_nil_of_mem hgroup

def met? (dir : Path) (name : Text) (e : Entry) : Option (EntryKind × Nat) :=
  match childOf? dir e.path with
  | none => none
  | some (head, kind) => if head = name then some (kind, e.sizeOrZero) else none

/-- A child is a file if it is only ever met as one, and has the size of all that meets it. -/
def summary (met : List (EntryKind × Nat)) : Option (EntryKind × Nat) :=
  if met = [] then none
  else some (if met.all (·.1 = .file) then .file else .dir, (met.map (·.2)).sum)

theorem summary_concat (met : List (EntryKind × Nat)) (kind : EntryKind) (size : Nat) :
    summary (met ++ [(kind, size)]) =
      some (match summary met with
        | none => (kind, size)
        | some (kind', size') => (joinKinds kind' kind, size' + size)) := by
  have hkinds : (met ++ [(kind, size)]).all (·.1 = .file) =
      (met.all (·.1 = .file) && kind = .file) := by
    rw [List.all_append, List.all_cons, List.all_nil, Bool.and_true]
  have hsum : ((met ++ [(kind, size)]).map (·.2)).sum = (met.map (·.2)).sum + size := by
    rw [List.map_append, List.sum_append, List.map_singleton, List.sum_singleton]
  rw [summary, if_neg (by simp), hkinds, hsum, summary]
  by_cases hnil : met = []
  · subst hnil
    cases kind <;> simp
  · rw [if_neg hnil]
    cases met.all (·.1 = .file) <;> cases kind <;> rfl

theorem children_concat (dir : Path) (entries : List Entry) (e : Entry) :
    children dir (entries ++ [e]) = addChild dir (children dir entries) e := List.foldl_concat ..

theorem get?_children (dir : Path) (entries : List Entry) (name : Text) :
    (children dir entries).get? name = summary (entries.filterMap (met? dir name)) := by
  induction entries using List.reverseRecOn with
  | nil => rfl
  | append_singleton entries e ih =>
    rw [children_concat, addChild, List.filterMap_append]
    cases hchild : childOf? dir e.path with
    | none => simpa [met?, hchild] using ih
    | some child =>
      obtain ⟨head, kind⟩ := child
      simp only [SortedMap.get?_alter]
      by_cases hname : name = head
      · subst hname
        have hmet : met? dir name e = some (kind, e.sizeOrZero) := by simp [met?, hchild]
        rw [if_pos rfl, ih, List.filterMap_cons_some hmet, List.filterMap_nil]
        exact (summary_concat _ kind e.sizeOrZero).symm
      · have hmet : met? dir name e = none := by simp [met?, hchild, Ne.symm hname]
        rw [if_neg hname, ih, List.filterMap_cons_none hmet, List.filterMap_nil, List.append_nil]

theorem children_filter (dir : Path) (entries : List Entry) :
    children dir (entries.filter fun e => dir.text.isPrefixOf e.path.text) =
      children dir entries := by
  apply SortedMap.ext_get?
  intro name
  rw [get?_children, get?_children, List.filterMap_filter]
  congr 1
  apply List.filterMap_congr
  intro e _
  split
  next => rfl
  next hnot =>
    have hchild : childOf? dir e.path = none :=
      childOf?_eq_none (by rwa [← List.isPrefixOf_iff_prefix])
    rw [met?, hchild]

theorem kinds_concat (dir : Path) (entries : List Entry) (e : Entry) :
    kinds dir (entries ++ [e]) = addKind dir (kinds dir entries) e := List.foldl_concat ..

theorem get?_kinds (dir : Path) (entries : List Entry) (name : Text) :
    (kinds dir entries).get? name = ((children dir entries).get? name).map (·.1) := by
  induction entries using List.reverseRecOn with
  | nil => rfl
  | append_singleton entries e ih =>
    rw [kinds_concat, children_concat, addKind, addChild]
    cases childOf? dir e.path with
    | none => exact ih
    | some child =>
      obtain ⟨head, kind⟩ := child
      simp only [SortedMap.get?_alter]
      by_cases hname : name = head
      · subst hname
        rw [if_pos rfl, if_pos rfl, ih]
        cases (children dir entries).get? name <;> rfl
      · rw [if_neg hname, if_neg hname]
        exact ih

theorem kinds_filter (dir : Path) (entries : List Entry) :
    kinds dir (entries.filter fun e => dir.text.isPrefixOf e.path.text) = kinds dir entries := by
  apply SortedMap.ext_get?
  intro name
  rw [get?_kinds, get?_kinds, children_filter]

theorem met?_eq (hdir : dir.isDirLike = true) {e : Entry} (hfile : e.path.isDirLike = false)
    (name : Text) :
    met? dir name e =
      ((rowOf? dir e.path).bind (behind name)).map fun rest => (kindOf rest, e.sizeOrZero) := by
  rcases childOf?_eq hdir hfile with ⟨hrow, hchild⟩ | ⟨head, rest, hrow, hchild⟩
  · rw [met?, hrow, hchild]
    rfl
  · rw [met?, hrow, hchild]
    by_cases hhead : head = name <;> simp [behind, hhead]

theorem kinds_met (hdir : dir.isDirLike = true)
    (hfiles : ∀ e ∈ entries, e.path.isDirLike = false) (name : Text) :
    (entries.filterMap (met? dir name)).map (·.1) =
      (restsOf name (rowsOf dir entries)).map kindOf := by
  rw [restsOf, rowsOf_eq, List.filterMap_filterMap, List.map_filterMap, List.map_filterMap]
  apply List.filterMap_congr
  intro e he
  rw [met?_eq hdir (hfiles e he), Option.map_map]
  rfl

def groupKind (rests : List (List Text)) : EntryKind :=
  if rests.filter (· ≠ []) = [] then .file else .dir

theorem kind_of_name (hdir : dir.isDirLike = true)
    (hfiles : ∀ e ∈ entries, e.path.isDirLike = false) (name : Text) :
    ((children dir entries).get? name).map (·.1) =
      ((byHead (rowsOf dir entries)).get? name).map groupKind := by
  have hkinds := kinds_met hdir hfiles name
  rw [get?_children, get?_byHead, summary]
  generalize entries.filterMap (met? dir name) = met at hkinds
  generalize restsOf name (rowsOf dir entries) = rests at hkinds
  have hnil : met = [] ↔ rests = [] := by
    have hmap : met.map (·.1) = [] ↔ met = [] := List.map_eq_nil_iff
    rw [← hmap, hkinds, List.map_eq_nil_iff]
  have hall : met.all (·.1 = .file) = true ↔ rests.filter (· ≠ []) = [] := by
    have hmap : (∀ k ∈ met.map (·.1), k = .file) ↔ ∀ m ∈ met, m.1 = .file := List.forall_mem_map
    simp only [List.all_eq_true, decide_eq_true_eq]
    rw [← hmap, hkinds, List.forall_mem_map, List.filter_eq_nil_iff]
    simp [kindOf]
  by_cases hmet : met = []
  · rw [if_pos hmet, if_pos (hnil.mp hmet)]
    rfl
  · rw [if_neg hmet, if_neg (mt hnil.mpr hmet)]
    simp only [Option.map_some, groupKind, hall]

/-- The tree of rows, whatever their lengths. -/
def forest (rows : List (List Text)) : List TreeNode :=
  TreeBuilder.intoNodes (TreeBuilder.ofRows rows).children

theorem tree_eq (dir : Path) (entries : List Entry) :
    tree dir entries = forest (rowsOf dir entries) := rfl

def branchOf (rests : List (List Text)) : TreeBuilder :=
  .node (decide ([] ∈ rests)) (TreeBuilder.ofRows (rests.filter (· ≠ []))).children

theorem branchOf_concat (rests : List (List Text)) (rest : List Text) :
    branchOf (rests ++ [rest]) =
      if rest = [] then (branchOf rests).asFile else (branchOf rests).insert rest := by
  cases rest with
  | nil => simp [branchOf, TreeBuilder.asFile]
  | cons first rest =>
    have hfilter : (rests ++ [first :: rest]).filter (· ≠ []) =
        rests.filter (· ≠ []) ++ [first :: rest] := by
      simp
    rw [if_neg (List.cons_ne_nil first rest), branchOf, hfilter, TreeBuilder.ofRows_concat,
      branchOf, TreeBuilder.insert_node]
    simp

/-- The children that grow from rows are the branches of their groups. -/
theorem children_ofRows (rows : List (List Text)) :
    (TreeBuilder.ofRows rows).children =
      (byHead rows).entries.map fun group => (group.1, branchOf group.2) := by
  induction rows using List.reverseRecOn with
  | nil => rfl
  | append_singleton rows row ih =>
    rw [TreeBuilder.ofRows_concat, byHead_concat]
    cases row with
    | nil => exact ih
    | cons first rest =>
      have hchild : (SortedMap.lookupEntry first (TreeBuilder.ofRows rows).children).getD .empty =
          branchOf (((byHead rows).get? first).getD []) := by
        rw [ih, SortedMap.lookupEntry_map, SortedMap.get?]
        cases SortedMap.lookupEntry first (byHead rows).entries <;> rfl
      -- the row alters the group of its first segment and leaves the others
      rw [TreeBuilder.children_insert_cons, hchild, ih, ← branchOf_concat,
        SortedMap.insertEntry_map]
      rfl

/-- The node of a name with these rows behind it: a file if nothing follows, and otherwise the
directory of the tree that follows. -/
def nodeOf (name : Text) (rests : List (List Text)) : TreeNode :=
  if rests.filter (· ≠ []) = [] then .node name .file none
  else .node name .dir (some (forest (rests.filter (· ≠ []))))

theorem intoNode_branchOf (name : Text) {rests : List (List Text)} (h : rests ≠ []) :
    TreeBuilder.intoNode name (branchOf rests) = nodeOf name rests := by
  rw [branchOf, TreeBuilder.intoNode, nodeOf, forest]
  by_cases hdeep : rests.filter (· ≠ []) = []
  · have hend : [] ∈ rests := by
      obtain ⟨rest, hrest⟩ := List.exists_mem_of_ne_nil _ h
      have hnil := List.filter_eq_nil_iff.mp hdeep rest hrest
      rw [decide_eq_true_eq, not_not] at hnil
      rwa [← hnil]
    rw [hdeep, decide_eq_true hend]
    rfl
  · have hgrown : (TreeBuilder.ofRows (rests.filter (· ≠ []))).children ≠ [] := by
      rw [children_ofRows, Ne, List.map_eq_nil_iff]
      apply byHead_ne_nil hdeep
      intro row hrow
      exact of_decide_eq_true (List.mem_filter.mp hrow).2
    rw [List.isEmpty_eq_false_iff.mpr hgrown, Bool.and_false, if_neg Bool.false_ne_true,
      if_neg hdeep]

/-- A tree that has grown row by row has the node of each group, in the order of the names. -/
theorem forest_eq (rows : List (List Text)) :
    forest rows = (byHead rows).entries.map fun group => nodeOf group.1 group.2 := by
  rw [forest, children_ofRows, TreeBuilder.intoNodes_eq, List.map_map]
  apply List.map_congr_left
  intro group hgroup
  exact intoNode_branchOf group.1 (mem_byHead.mp hgroup).2

theorem nodeOf_name (name : Text) (rests : List (List Text)) : (nodeOf name rests).name = name := by
  rw [nodeOf]
  split <;> rfl

theorem nodeOf_kind (name : Text) (rests : List (List Text)) :
    (nodeOf name rests).kind = groupKind rests := by
  rw [nodeOf, groupKind]
  split <;> rfl

end Directory
end GrantFs
