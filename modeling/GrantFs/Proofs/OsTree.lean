import GrantFs.Os.Tree
import GrantFs.Proofs.SortedMap
import GrantFs.Proofs.Utf8
import Mathlib.Data.List.Induction

/-! # Sound trees

In a tree every entry has a proper name and lies in a directory. Main statements: what a put and an
erasure change; what lies below a place is listed by the names from there; and no name in the tree
ends in an unused token. -/
namespace GrantFs.OsTree

variable {t u : OsTree} {dir names place q : Place} {n : Node} {name : Name}

theorem named (h : t.get? (dir ++ [name]) ≠ none) : IsName name := by
  rw [get?_of_ne_nil (by simp)] at h
  exact t.sound.named dir name h

theorem inDir (h : t.get? (dir ++ [name]) ≠ none) : t.get? dir = some .dir := by
  rw [get?_of_ne_nil (by simp)] at h
  by_cases hnil : dir = []
  · rw [hnil, get?_nil]
  · rw [get?_of_ne_nil hnil]
    exact (t.sound.inDir dir name h).resolve_left hnil

theorem ext_get? (h : ∀ q, t.get? q = u.get? q) : t = u := by
  have hnodes : t.nodes = u.nodes := by
    refine SortedMap.ext_get? fun q => ?_
    by_cases hq : q = []
    · subst hq
      rw [t.sound.top, u.sound.top]
    · rw [← get?_of_ne_nil hq, ← get?_of_ne_nil hq, h]
  cases t
  cases u
  cases hnodes
  rfl

theorem dir_above (hne : names ≠ []) (h : t.get? (dir ++ names) ≠ none) :
    t.get? dir = some .dir := by
  induction names using List.reverseRecOn with
  | nil => exact absurd rfl hne
  | append_singleton names name ih =>
    rw [← List.append_assoc] at h
    have hdir := inDir h
    by_cases hnil : names = []
    · subst hnil
      simpa using hdir
    · exact ih hnil (by simp [hdir])

theorem dir_on_way (hq : dir <+: q) (hne : dir ≠ q) (h : t.get? q ≠ none) :
    t.get? dir = some .dir := by
  obtain ⟨names, rfl⟩ := hq
  refine dir_above ?_ h
  rintro rfl
  simp at hne

theorem none_below (h : t.get? place ≠ some .dir) (hq : place <+: q) (hne : q ≠ place) :
    t.get? q = none := by
  by_contra hsome
  exact h (dir_on_way hq (Ne.symm hne) hsome)

theorem isName (h : t.get? (dir ++ names) ≠ none) (hname : name ∈ names) : IsName name := by
  obtain ⟨before, after, rfl⟩ := List.append_of_mem hname
  have hentry : t.get? (dir ++ before ++ [name]) ≠ none := by
    by_cases hafter : after = []
    · subst hafter
      simpa using h
    · have hsome : t.get? (dir ++ before ++ [name] ++ after) ≠ none := by simpa using h
      rw [dir_above hafter hsome]
      simp
  exact named hentry

theorem get?_eq_some_of_ne_nil (h : place ≠ []) :
    t.get? place = some n ↔ (place, n) ∈ t.nodes.entries := by
  rw [get?_of_ne_nil h, SortedMap.get?_eq_some]

theorem get?_put (h : t.Fits place n) (q : Place) :
    (t.put place n).get? q = if q = place then some n else t.get? q := by
  by_cases hq : q = []
  · subst hq
    rw [if_neg (Ne.symm h.ne_nil)]
    rfl
  · rw [get?_of_ne_nil hq, get?_of_ne_nil hq, put, dif_pos h, SortedMap.get?_insert]

theorem fits_of_vacant (hname : IsName name) (hdir : t.get? dir = some .dir)
    (hnone : t.get? (dir ++ [name]) = none) (n : Node) : t.Fits (dir ++ [name]) n :=
  fits_concat.mpr ⟨hname, hdir, .inr (by simp [hnone])⟩

theorem put_of_not_fits (h : ¬ t.Fits place n) : t.put place n = t := dif_neg h

theorem get?_put_cases {m : Node} (h : (t.put place m).get? q = some n) :
    t.get? q = some n ∨ q = place ∧ n = m := by
  by_cases hfits : t.Fits place m
  · rw [get?_put hfits] at h
    split at h
    next heq => exact .inr ⟨heq, (Option.some.inj h).symm⟩
    next => exact .inl h
  · rw [put_of_not_fits hfits] at h
    exact .inl h

theorem get?_erase (h : place ≠ []) (q : Place) :
    (t.erase place).get? q = if place <+: q then none else t.get? q := by
  by_cases hq : q = []
  · subst hq
    rw [if_neg fun hle => h (List.prefix_nil.mp hle)]
    rfl
  · rw [get?_of_ne_nil hq, get?_of_ne_nil hq, erase, get?_erased]

theorem get?_erase_of_bare (h : place ≠ [])
    (hbare : ∀ q, place <+: q → q ≠ place → t.get? q = none) (q : Place) :
    (t.erase place).get? q = if q = place then none else t.get? q := by
  rw [get?_erase h]
  by_cases hq : q = place
  · rw [if_pos hq, if_pos (hq ▸ List.prefix_refl _)]
  · rw [if_neg hq]
    split
    next hle => exact (hbare q hle hq).symm
    next => rfl

theorem mem_below :
    (names, n) ∈ t.below place ↔ names ≠ [] ∧ t.get? (place ++ names) = some n := by
  simp only [below, List.mem_filterMap, Option.ite_none_right_eq_some, Option.some.injEq,
    Prod.mk.injEq, Bool.and_eq_true, List.isPrefixOf_iff_prefix, bne_iff_ne, ne_eq]
  constructor
  · rintro ⟨⟨other, n'⟩, hmem, ⟨⟨names', rfl⟩, hother⟩, hnames, rfl⟩
    rw [List.drop_left] at hnames
    subst hnames
    have hne : names' ≠ [] := fun hnil => hother (by rw [hnil, List.append_nil])
    exact ⟨hne, (get?_eq_some_of_ne_nil (by simp [hne])).mpr hmem⟩
  · rintro ⟨hne, hnode⟩
    have hmem := (get?_eq_some_of_ne_nil (by simp [hne])).mp hnode
    refine ⟨(place ++ names, n), hmem, ⟨List.prefix_append .., ?_⟩, List.drop_left, rfl⟩
    simpa using hne

theorem below_eq_nil :
    t.below place = [] ↔ ∀ names, names ≠ [] → t.get? (place ++ names) = none := by
  constructor
  · intro hnil names hne
    by_contra hsome
    obtain ⟨n, hn⟩ := Option.ne_none_iff_exists'.mp hsome
    have hmem := mem_below.mpr ⟨hne, hn⟩
    rw [hnil] at hmem
    cases hmem
  · intro hnone
    rw [List.eq_nil_iff_forall_not_mem]
    rintro ⟨names, n⟩ hmem
    obtain ⟨hne, hn⟩ := mem_below.mp hmem
    rw [hnone names hne] at hn
    cases hn

theorem mem_filesBelow {f : WalkedFile} :
    f ∈ t.filesBelow place ↔ f.names ≠ [] ∧ ∃ content modified,
      t.get? (place ++ f.names) = some (.file content modified) ∧ f.size = content.length ∧
        f.modified = some modified := by
  simp only [filesBelow, List.mem_filterMap]
  constructor
  · rintro ⟨⟨names, n⟩, hmem, hfile⟩
    obtain ⟨hne, hn⟩ := mem_below.mp hmem
    cases n with
    | dir => cases hfile
    | link target => cases hfile
    | file content modified =>
      cases hfile
      exact ⟨hne, content, modified, hn, rfl, rfl⟩
  · rintro ⟨hne, content, modified, hn, hsize, hmodified⟩
    refine ⟨(f.names, .file content modified), mem_below.mpr ⟨hne, hn⟩, ?_⟩
    cases f
    cases hsize
    cases hmodified
    rfl

theorem isUsed_unusedToken (t : OsTree) : t.isUsed t.unusedToken = false := by
  rw [unusedToken]
  generalize (List.range (t.nodes.size + 1)).map _ = candidates
  cases hfound : candidates.find? (!t.isUsed ·) with
  | some token => simpa using List.find?_some hfound
  | none =>
    -- The text of last resort is longer than every name.
    rw [Option.getD_none, Bool.eq_false_iff]
    intro hused
    obtain ⟨name, hname, hsuffix⟩ := List.any_eq_true.mp hused
    have hlong := (List.isSuffixOf_iff_suffix.mp hsuffix).length_le
    have hshort := (List.sublist_flatten_of_mem hname).length_le
    have hbytes : ∀ k, (Utf8.encode (List.replicate k '0')).length = k := by
      intro k
      induction k with
      | zero => rfl
      | succ k ih =>
        rw [List.replicate_succ, Utf8.encode_cons, List.length_append, ih]
        exact Nat.add_comm 1 k
    rw [hbytes] at hlong
    omega

theorem get?_of_unusedToken (t : OsTree) (dir : Place) (start : Text) :
    t.get? (dir ++ [Utf8.encode (start ++ t.unusedToken)]) = none := by
  by_contra hsome
  obtain ⟨n, hn⟩ := Option.ne_none_iff_exists'.mp hsome
  have hmem := (get?_eq_some_of_ne_nil (by simp)).mp hn
  have hname : Utf8.encode (start ++ t.unusedToken) ∈ t.names := by
    rw [names, List.mem_flatten]
    exact ⟨_, List.mem_map_of_mem hmem, by simp⟩
  have hused : t.isUsed t.unusedToken = true := by
    refine List.any_eq_true.mpr ⟨_, hname, ?_⟩
    rw [List.isSuffixOf_iff_suffix, Utf8.encode_append]
    exact List.suffix_append ..
  rw [isUsed_unusedToken] at hused
  cases hused

theorem slash_not_mem_unusedToken (t : OsTree) : '/' ∉ t.unusedToken := by
  have hdecimal : ∀ n, '/' ∉ Text.decimal n := by
    intro n hmem
    have hdigit := Nat.isDigit_of_mem_toDigits (by decide) le_rfl hmem
    exact absurd hdigit (by decide)
  rw [unusedToken]
  cases hfound : ((List.range (t.nodes.size + 1)).map fun n =>
      List.replicate (36 - (Text.decimal n).length) '0' ++ Text.decimal n).find?
        (!t.isUsed ·) with
  | none =>
    intro hmem
    exact absurd (List.eq_of_mem_replicate hmem) (by decide)
  | some token =>
    obtain ⟨n, -, rfl⟩ := List.mem_map.mp (List.mem_of_find?_eq_some hfound)
    intro hmem
    rcases List.mem_append.mp hmem with hzero | hdigit
    · exact absurd (List.eq_of_mem_replicate hzero) (by decide)
    · exact hdecimal n hdigit

end GrantFs.OsTree
