import GrantFs.Proofs.DirectoryViews

/-! # Searches

A search takes one text both as a pattern and literally, and leaves out what other patterns match. A
text that is no pattern still counts literally, but is refused where it is to leave out something.
Main statement: on every store that handles can reach and for any language of patterns, a search
finds just the stored files below its directory that its texts ask for. -/
namespace GrantFs

def Glob.Language.Fits (globs : Glob.Language) (text name : Text) : Prop :=
  ∃ pattern, globs.parse text = .ok pattern ∧ globs.matches pattern name = true

structure Wanted (globs : Glob.Language) (text : Text) (excludes : List Text) (name : Text) :
    Prop where
  included : text <:+: name ∨ globs.Fits text name
  kept : ∀ x ∈ excludes, ¬ globs.Fits x name

theorem Wanted.of_subset {globs : Glob.Language} {text name : Text} {excludes fewer : List Text}
    (h : Wanted globs text excludes name) (hsubset : fewer ⊆ excludes) :
    Wanted globs text fewer name :=
  ⟨h.included, fun x hx => h.kept x (hsubset hx)⟩

namespace Directory

variable {globs : Glob.Language} {text name : Text} {excludes more : List Text}
  {patterns patterns' : List globs.Pattern} {entries : List Entry}

theorem excludesOf_eq_ok :
    excludesOf globs excludes = .ok patterns ↔ excludes.map globs.parse = patterns.map .ok := by
  induction excludes generalizing patterns with
  | nil =>
    rw [excludesOf, List.map_nil, Except.ok.injEq, eq_comm, eq_comm (a := []), List.map_eq_nil_iff]
  | cons x rest ih =>
    rw [excludesOf, List.map_cons]
    cases hparse : globs.parse x with
    | error why =>
      constructor
      · intro h
        cases h
      · intro h
        cases patterns <;> cases h
    | ok first =>
      cases patterns with
      | nil =>
        constructor
        · intro h
          cases hrest : excludesOf globs rest <;> simp [hrest, Except.map] at h
        · intro h
          cases h
      | cons pattern others =>
        rw [List.map_cons, List.cons.injEq, ← ih, Except.ok.injEq]
        cases hrest : excludesOf globs rest <;> simp [Except.map]

theorem excludesOf_error {why : Fault} (h : excludesOf globs excludes = .error why) :
    ∃ x ∈ excludes, ∃ reason, globs.parse x = .error reason ∧
      why = .invalidArgument "exclude_patterns" (some (x ++ ": " ++ reason)) := by
  induction excludes with
  | nil => cases h
  | cons x rest ih =>
    rw [excludesOf] at h
    cases hparse : globs.parse x with
    | error reason =>
      rw [hparse] at h
      cases h
      exact ⟨x, List.mem_cons_self, reason, hparse, rfl⟩
    | ok pattern =>
      rw [hparse] at h
      cases hrest : excludesOf globs rest with
      | error why' =>
        simp only [hrest, Except.map, Except.error.injEq] at h
        obtain ⟨y, hy, hreason⟩ := ih (hrest.trans (congrArg _ h))
        exact ⟨y, List.mem_cons_of_mem x hy, hreason⟩
      | ok others => simp [hrest, Except.map] at h

theorem exists_excludesOf_iff :
    (∃ patterns, excludesOf globs excludes = .ok patterns) ↔
      ∀ x ∈ excludes, ∃ pattern, globs.parse x = .ok pattern := by
  constructor
  · rintro ⟨patterns, h⟩ x hx
    have hmem : globs.parse x ∈ patterns.map Except.ok := by
      rw [← excludesOf_eq_ok.mp h]
      exact List.mem_map_of_mem hx
    obtain ⟨pattern, -, hparse⟩ := List.mem_map.mp hmem
    exact ⟨pattern, hparse.symm⟩
  · intro hall
    cases h : excludesOf globs excludes with
    | ok patterns => exact ⟨patterns, rfl⟩
    | error why =>
      obtain ⟨x, hx, reason, hreason, -⟩ := excludesOf_error h
      obtain ⟨pattern, hparse⟩ := hall x hx
      cases hparse.symm.trans hreason

/-- Texts that all are patterns match a name with one of their patterns if one of the texts fits. -/
theorem any_matches_iff (h : excludesOf globs excludes = .ok patterns) (name : Text) :
    patterns.any (globs.matches · name) = true ↔ ∃ x ∈ excludes, globs.Fits x name := by
  have hsame := excludesOf_eq_ok.mp h
  rw [List.any_eq_true]
  constructor
  · rintro ⟨pattern, hpattern, hmatches⟩
    have hmem : Except.ok pattern ∈ excludes.map globs.parse := by
      rw [hsame]
      exact List.mem_map_of_mem hpattern
    obtain ⟨x, hx, hparse⟩ := List.mem_map.mp hmem
    exact ⟨x, hx, pattern, hparse, hmatches⟩
  · rintro ⟨x, hx, pattern, hparse, hmatches⟩
    have hmem : globs.parse x ∈ patterns.map Except.ok := by
      rw [← hsame]
      exact List.mem_map_of_mem hx
    obtain ⟨pattern', hpattern, heq⟩ := List.mem_map.mp hmem
    obtain rfl : pattern' = pattern := Except.ok.inj (heq.trans hparse)
    exact ⟨pattern', hpattern, hmatches⟩

theorem included_iff :
    included globs text name = true ↔ text <:+: name ∨ globs.Fits text name := by
  rw [included, Bool.or_eq_true, Text.occurs_iff_infix, or_comm, Glob.Language.Fits]
  apply or_congr_right
  cases globs.parse text <;> simp

theorem keeps_iff (h : excludesOf globs excludes = .ok patterns) (name : Text) :
    (included globs text name && !patterns.any (globs.matches · name)) = true ↔
      Wanted globs text excludes name := by
  rw [Bool.and_eq_true, included_iff, Bool.not_eq_true', Bool.eq_false_iff, ne_eq,
    any_matches_iff h]
  constructor
  · rintro ⟨hincluded, hnone⟩
    exact ⟨hincluded, fun x hx hfits => hnone ⟨x, hx, hfits⟩⟩
  · rintro ⟨hincluded, hkept⟩
    exact ⟨hincluded, fun ⟨x, hx, hfits⟩ => hkept x hx hfits⟩

theorem mem_hits (h : excludesOf globs excludes = .ok patterns) {path : Path} :
    path ∈ hits globs text patterns entries ↔
      path ∈ entries.map (·.path) ∧ Wanted globs text excludes path.name := by
  rw [hits, List.mem_filter, keeps_iff h]

/-- Hits depend on the texts to leave out only by what they are, and fewer of them leave more. -/
theorem hits_sublist (h : excludesOf globs excludes = .ok patterns)
    (h' : excludesOf globs more = .ok patterns') (hsubset : excludes ⊆ more) :
    (hits globs text patterns' entries).Sublist (hits globs text patterns entries) := by
  apply List.monotone_filter_right
  intro path hpath
  exact (keeps_iff h _).mpr (((keeps_iff h' _).mp hpath).of_subset hsubset)

end Directory

variable {s : MemoryStore} {m : Contents} {now : Instant} {index : Snapshot} {v : Service}
  {path : Path}

theorem MemoryStore.reply_searchFiles (hm : s.Represents m)
    (hlist : v.handle.permits path.asDir.text .list = true) (globs : Glob.Language) (text : Text)
    (excludes : List Text) :
    s.reply now index (v.searchFiles path.text text excludes globs) =
      (Directory.excludesOf globs excludes).map fun patterns =>
        Directory.hits globs text patterns
          (s.entries.values.filter fun e => path.asDir.text.isPrefixOf e.path.text) := by
  have hunder : (v.listUnder path.text).runWith (backend now) ⟨s, index⟩ = (.ok _, _) :=
    Prod.ext (reply_listUnder hm hlist) rfl
  rw [reply, Service.searchFiles, Action.runWith_bind_ok hunder, Action.runWith_bind,
    Action.runWith_lift]
  cases Directory.excludesOf globs excludes <;> rfl

/-- What a search has found: in the order of the bytes of their paths those of the files below the
directory whose names it asks for. -/
structure Finds (s : MemoryStore) (dir : Path) (globs : Glob.Language) (text : Text)
    (excludes : List Text) (hits : List Path) : Prop where
  within : ∃ under, s.Lists (dir.text <+: ·) under ∧ hits.Sublist (under.map (·.path))
  ordered : hits.Pairwise fun p q => compare (Utf8.encode p.text) (Utf8.encode q.text) = .lt
  exact : ∀ p, p ∈ hits ↔
    s.content.get? p ≠ none ∧ dir.text <+: p.text ∧ Wanted globs text excludes p.name

theorem MemoryStore.Represents.finds (hm : s.Represents m) (dir : Path) {globs : Glob.Language}
    {excludes : List Text} {patterns : List globs.Pattern}
    (h : Directory.excludesOf globs excludes = .ok patterns) (text : Text) :
    Finds s dir globs text excludes (Directory.hits globs text patterns
      (s.entries.values.filter fun e => dir.text.isPrefixOf e.path.text)) := by
  have hlists := hm.lists_filter fun t => dir.text.isPrefixOf t
  simp only [List.isPrefixOf_iff_prefix] at hlists
  refine ⟨⟨_, hlists, List.filter_sublist⟩, ?_, fun p => ?_⟩
  · exact (List.pairwise_map.mpr hlists.ordered).filter _
  · rw [Directory.mem_hits h, hlists.files, and_assoc]

/-- On every store that handles can reach, below every directory that may be listed and for any
language of patterns: a search is refused just if a text to leave out is no pattern, else it finds
just what it asks for; every part of a file's name finds the file; and neither the order of the
texts to leave out nor repetitions matter, while a further one only takes hits away. -/
theorem Service.search_exact (hs : s.Reachable) (v : Service) (path : Path)
    (hlist : v.handle.permits path.asDir.text .list = true) (globs : Glob.Language) (now : Instant)
    (index : Snapshot) :
    let search text excludes := s.reply now index (v.searchFiles path.text text excludes globs)
    let compiles text := ∃ pattern, globs.parse text = .ok pattern
    (∀ text excludes, (∃ detail,
        search text excludes = .error (.invalidArgument "exclude_patterns" detail)) ↔
          ∃ x ∈ excludes, ¬ compiles x) ∧
      (∀ text excludes, (∀ x ∈ excludes, compiles x) → ∃ hits, search text excludes = .ok hits ∧
        Finds s path.asDir globs text excludes hits) ∧
      (∀ p, s.content.get? p ≠ none → path.asDir.text <+: p.text → ∀ text, text <:+: p.name →
        ∃ hits, search text [] = .ok hits ∧ p ∈ hits) ∧
      (∀ text excludes others, (∀ x, x ∈ excludes ↔ x ∈ others) →
        (∀ x ∈ excludes, compiles x) → search text others = search text excludes) ∧
      ∀ text excludes x hits, compiles x → search text excludes = .ok hits →
        ∃ fewer, search text (x :: excludes) = .ok fewer ∧ fewer.Sublist hits := by
  obtain ⟨m, hm⟩ := hs.represents
  intro search compiles
  have hsearch : ∀ text excludes, search text excludes = _ :=
    MemoryStore.reply_searchFiles hm hlist globs
  have hfound : ∀ text {excludes patterns}, Directory.excludesOf globs excludes = .ok patterns →
      search text excludes = .ok (Directory.hits globs text patterns
        (s.entries.values.filter fun e => path.asDir.text.isPrefixOf e.path.text)) := by
    intro text excludes patterns h
    rw [hsearch, h]
    rfl
  refine ⟨?_, ?_, ?_, ?_, ?_⟩
  · intro text excludes
    rw [hsearch]
    cases h : Directory.excludesOf globs excludes with
    | ok patterns =>
      have hall := Directory.exists_excludesOf_iff.mp ⟨patterns, h⟩
      constructor
      · rintro ⟨detail, herror⟩
        cases herror
      · rintro ⟨x, hx, hnone⟩
        exact absurd (hall x hx) hnone
    | error why =>
      obtain ⟨x, hx, reason, hreason, rfl⟩ := Directory.excludesOf_error h
      refine ⟨fun _ => ⟨x, hx, ?_⟩, fun _ => ⟨_, rfl⟩⟩
      rintro ⟨pattern, hparse⟩
      cases hparse.symm.trans hreason
  · intro text excludes hall
    obtain ⟨patterns, h⟩ := Directory.exists_excludesOf_iff.mpr hall
    exact ⟨_, hfound text h, hm.finds path.asDir h text⟩
  · intro p hstored hbelow text hname
    have h : Directory.excludesOf globs [] = .ok [] := rfl
    refine ⟨_, hfound text h, ((hm.finds path.asDir h text).exact p).mpr ⟨hstored, hbelow, ?_⟩⟩
    exact ⟨.inl hname, fun x hx => absurd hx List.not_mem_nil⟩
  · intro text excludes others hsame hall
    obtain ⟨patterns, h⟩ := Directory.exists_excludesOf_iff.mpr hall
    obtain ⟨patterns', h'⟩ := Directory.exists_excludesOf_iff.mpr
      fun x hx => hall x ((hsame x).mpr hx)
    rw [hfound text h, hfound text h']
    exact congrArg _ ((Directory.hits_sublist h h' fun x hx => (hsame x).mp hx).antisymm
      (Directory.hits_sublist h' h fun x hx => (hsame x).mpr hx))
  · intro text excludes x hits hx hhits
    cases h : Directory.excludesOf globs excludes with
    | error why =>
      rw [hsearch, h] at hhits
      cases hhits
    | ok patterns =>
      have hall := Directory.exists_excludesOf_iff.mp ⟨patterns, h⟩
      obtain ⟨patterns', h'⟩ := Directory.exists_excludesOf_iff.mpr
        (List.forall_mem_cons.mpr ⟨hx, hall⟩)
      rw [hfound text h] at hhits
      obtain rfl := Except.ok.inj hhits
      exact ⟨_, hfound text h', Directory.hits_sublist h h' (List.subset_cons_self x excludes)⟩

/-- A name with brackets is found by the text in them, which as a pattern matches other names, and
an open bracket is refused as a text to leave out. -/
theorem search_of_bracketed_name :
    let h : Handle := .ofNamespaces [.workspace]
    let put (s : MemoryStore) (path : Text) : MemoryStore :=
      ((h.fulfil (.file path (.write [1] true))).runWith
        (MemoryStore.backend ⟨0, 0⟩) ⟨s, ∅⟩).2.store
    let s := put (put .empty "/workspace/a[1].txt") "/workspace/d/b.txt"
    let dir : Path := ⟨"/workspace", by decide⟩
    let search text excludes :=
      s.reply ⟨1, 0⟩ ∅ (Service.searchFiles ⟨h, {}⟩ dir.text text excludes)
    s.Reachable ∧ h.permits dir.asDir.text .list = true ∧
      (∃ hits, search "[1]" [] = .ok hits ∧ ⟨"/workspace/a[1].txt", by decide⟩ ∈ hits) ∧
      Finds s dir.asDir .standard "*.txt" ["a*"] [⟨"/workspace/d/b.txt", by decide⟩] ∧
      ∃ detail, search "a" ["["] = .error (.invalidArgument "exclude_patterns" detail) := by
  intro h put s dir search
  have hs : s.Reachable := .request h _ ⟨0, 0⟩ ∅ (.request h _ ⟨0, 0⟩ ∅ .empty)
  have hlist : h.permits dir.asDir.text .list = true := by decide
  obtain ⟨hrefused, hfinds, hparts, -⟩ :=
    Service.search_exact hs ⟨h, {}⟩ dir hlist .standard ⟨1, 0⟩ ∅
  have hcompiles : ∀ x ∈ [['a', '*']], ∃ pattern, Glob.Language.standard.parse x = .ok pattern :=
    List.forall_mem_singleton.mpr ⟨[.literal 'a', .anySequence], rfl⟩
  obtain ⟨hits, hhits, hfound⟩ := hfinds "*.txt" [['a', '*']] hcompiles
  have hsearch : search "*.txt" [['a', '*']] = .ok [⟨"/workspace/d/b.txt", by decide⟩] := by
    decide +kernel
  have hone := Except.ok.inj (hsearch.symm.trans hhits)
  have hbracketed : s.content.get? ⟨"/workspace/a[1].txt", by decide⟩ ≠ none := by decide +kernel
  refine ⟨hs, hlist, ?_, hone ▸ hfound, ?_⟩
  · exact hparts _ hbracketed (by decide +kernel) "[1]" (by decide +kernel)
  · refine (hrefused "a" ["["]).mpr ⟨"[", List.mem_cons_self, ?_⟩
    rintro ⟨pattern, hparse⟩
    cases hparse

end GrantFs
