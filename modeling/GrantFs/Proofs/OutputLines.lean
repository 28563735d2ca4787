import GrantFs.Proofs.DirectoryRows
import GrantFs.Proofs.Lines
import GrantFs.Proofs.Memory
import GrantFs.Proofs.Path
import GrantFs.Tool

/-! # Output in lines

Two tools answer with one line for each thing found, or in fixed words that there is nothing. No
path holds a line feed, so no name can forge a line. Main statement: whatever store answers, the
text of such a tool is read back as just what the service has found. -/
namespace GrantFs

namespace Text

theorem split_unlines {ls : List Text} (hne : ls ≠ []) (h : ∀ line ∈ ls, '\n' ∉ line) :
    split '\n' (unlines ls) = ls := by
  induction ls with
  | nil => exact absurd rfl hne
  | cons line rest ih =>
    have hline := split_of_not_mem (h line List.mem_cons_self)
    by_cases hrest : rest = []
    · rw [hrest, unlines_singleton, hline]
    · rw [unlines_cons line hrest, split_append, hline,
        ih hrest fun other hother => h other (List.mem_cons_of_mem _ hother)]
      rfl

end Text

section ShowsLines

variable {α : Type} {none_ text : Text} {line : α → Text} {read? : Text → Option α} {items : List α}

/-- The text has one line for each item, or tells in fixed words that there are none; either way the
items are read back from it. -/
structure ShowsLines (none_ : Text) (line : α → Text) (read? : Text → Option α) (items : List α)
    (text : Text) : Prop where
  none_iff : text = none_ ↔ items = []
  lines : items ≠ [] → Text.split '\n' text = items.map line
  read : (Text.split '\n' text).filterMap read? = items

theorem ShowsLines.unique {items' : List α} (h : ShowsLines none_ line read? items text)
    (h' : ShowsLines none_ line read? items' text) : items = items' := h.read.symm.trans h'.read

/-- Items show in lines if each line is read back as its item and holds no line feed, and the fixed
words are no line. -/
theorem showsLines_of_read (hnone : read? none_ = none) (hwords : '\n' ∉ none_)
    (hread : ∀ a ∈ items, read? (line a) = some a) (hlines : ∀ a ∈ items, '\n' ∉ line a) :
    ShowsLines none_ line read? items
      (if items.isEmpty then none_ else Text.unlines (items.map line)) := by
  by_cases hnil : items = []
  · subst hnil
    refine ⟨by simp, fun hne => absurd rfl hne, ?_⟩
    rw [List.isEmpty_nil, if_pos rfl, Text.split_of_not_mem hwords]
    simp [hnone]
  · have hfull : ∀ l ∈ items.map line, '\n' ∉ l := by
      intro l hl
      obtain ⟨a, ha, rfl⟩ := List.mem_map.mp hl
      exact hlines a ha
    have hsplit := Text.split_unlines (by simpa using hnil) hfull
    have hback : (items.map line).filterMap read? = items := by
      rw [List.filterMap_map]
      have hcongr := List.filterMap_congr (f := read? ∘ line) (g := some) hread
      rw [hcongr, List.filterMap_some]
    rw [if_neg (by simpa using hnil)]
    refine ⟨⟨fun htext => ?_, fun h => absurd h hnil⟩, fun _ => hsplit, ?_⟩
    · rw [htext, Text.split_of_not_mem hwords] at hsplit
      rw [← hsplit] at hback
      rw [← hback]
      simp [hnone]
    · rw [hsplit, hback]

end ShowsLines

theorem Path.feed_not_mem (p : Path) : '\n' ∉ p.text := by
  intro hfeed
  have hplain := (flaw?_eq_none_iff.mp p.sound).2.1 '\n' hfeed
  exact absurd hplain (by decide)

def Path.ofLine? (line : Text) : Option Path := (Path.ofText line).toOption

theorem Path.ofLine?_text (p : Path) : Path.ofLine? p.text = some p := by
  rw [ofLine?, ofText_text]
  rfl

def DirEntry.ofLine? (line : Text) : Option DirEntry :=
  match Text.stripStart? "[DIR] " line with
  | some name => some ⟨name, .dir⟩
  | none => (Text.stripStart? "[FILE] " line).map (⟨·, .file⟩)

theorem DirEntry.ofLine?_line (e : DirEntry) : DirEntry.ofLine? e.line = some e := by
  obtain ⟨name, kind⟩ := e
  cases kind <;> rfl

namespace Directory

variable {dir path : Path} {entries : List Entry}

theorem infix_of_childOf? {name : Text} {kind : EntryKind}
    (h : childOf? dir path = some (name, kind)) : name <:+: path.text := by
  rw [childOf?] at h
  split at h
  next => cases h
  next rest hstrip =>
    have hrest : rest <:+: path.text := by
      rw [Text.stripStart?_eq_some.mp hstrip]
      exact (List.suffix_append ..).isInfix
    rcases Text.cutAt?_slash rest with ⟨hcut, -⟩ | ⟨head, after, hcut, -, hsplit⟩
    · simp only [hcut] at h
      split at h
      · cases h
      · cases h
        exact hrest
    · simp only [hcut] at h
      cases h
      have hhead : name <+: rest := ⟨'/' :: after, hsplit.symm⟩
      exact hhead.isInfix.trans hrest

theorem infix_of_mem_listing {e : DirEntry} (h : e ∈ listing dir entries) :
    ∃ e' ∈ entries, e.name <:+: e'.path.text := by
  obtain ⟨⟨name, kind⟩, hmem, rfl⟩ := List.mem_map.mp h
  have hfound : (kinds dir entries).get? name = some kind := SortedMap.get?_eq_some.mpr hmem
  rw [get?_kinds, get?_children] at hfound
  have hmet : entries.filterMap (met? dir name) ≠ [] := by
    intro hnil
    rw [hnil] at hfound
    cases hfound
  obtain ⟨met, hmet⟩ := List.exists_mem_of_ne_nil _ hmet
  obtain ⟨e', he', hmet⟩ := List.mem_filterMap.mp hmet
  refine ⟨e', he', ?_⟩
  rw [met?] at hmet
  split at hmet
  next => cases hmet
  next head kind' hchild =>
    split at hmet
    next hname => exact hname ▸ infix_of_childOf? hchild
    next => cases hmet

theorem feed_not_mem_listing {e : DirEntry} (h : e ∈ listing dir entries) : '\n' ∉ e.line := by
  obtain ⟨e', -, hname⟩ := infix_of_mem_listing h
  rw [DirEntry.line, List.mem_append, not_or, List.mem_append, not_or]
  refine ⟨⟨?_, by decide⟩, fun hfeed => e'.path.feed_not_mem (hname.subset hfeed)⟩
  cases e.kind <;> decide

end Directory

namespace Tool

theorem listingText_shows (dir : Path) (entries : List Entry) :
    ShowsLines "(empty directory)" DirEntry.line DirEntry.ofLine? (Directory.listing dir entries)
      (listingText (Directory.listing dir entries)) :=
  showsLines_of_read (by decide) (by decide) (fun e _ => e.ofLine?_line)
    fun _ he => Directory.feed_not_mem_listing he

theorem hitsText_shows (paths : List Path) :
    ShowsLines "No matches found" Path.text Path.ofLine? paths (hitsText paths) :=
  showsLines_of_read (by decide) (by decide) (fun p _ => p.ofLine?_text)
    fun p _ => p.feed_not_mem

end Tool

/-- Whatever backend answers, whatever its state holds and whatever the grants are: the text of a
listing or a search that succeeds shows in lines just what the service has found. -/
theorem lines_of_tools_unambiguous {σ : Type} (v : Service) (b : Backend σ) (w w' : World σ)
    (args : Json) (text : Text) :
    ((Tool.call v "list_directory" args).runWith b w = (.ok text, w') →
      ∃ path entries, Tool.readArgs Tool.pathArgs args = .ok path ∧
        (v.listDirectory path).runWith b w = (.ok entries, w') ∧
        ShowsLines "(empty directory)" DirEntry.line DirEntry.ofLine? entries text) ∧
      ((Tool.call v "search_files" args).runWith b w = (.ok text, w') →
        ∃ a paths, Tool.readArgs Tool.searchFilesArgs args = .ok a ∧
          (v.searchFiles a.path a.pattern a.excludes).runWith b w = (.ok paths, w') ∧
          ShowsLines "No matches found" Path.text Path.ofLine? paths text) := by
  constructor
  · intro hrun
    have hcall : Tool.call v "list_directory" args = Tool.listDirectory.work v args := rfl
    rw [hcall] at hrun
    obtain ⟨path, w₁, hargs, hwork⟩ := Action.runWith_bind_eq_ok.mp hrun
    obtain ⟨hread, rfl⟩ := Prod.mk.inj hargs
    obtain ⟨entries, w₂, hlist, hpure⟩ := Action.runWith_bind_eq_ok.mp hwork
    obtain ⟨htext, rfl⟩ := Prod.mk.inj hpure
    obtain rfl : Tool.listingText entries = text := Except.ok.inj htext
    refine ⟨path, entries, hread, hlist, ?_⟩
    obtain ⟨⟨dir, under⟩, w₃, -, hlisting⟩ := Action.runWith_bind_eq_ok.mp hlist
    obtain ⟨hentries, -⟩ := Prod.mk.inj hlisting
    obtain rfl : Directory.listing dir under = entries := Except.ok.inj hentries
    exact Tool.listingText_shows dir under
  · intro hrun
    have hcall : Tool.call v "search_files" args = Tool.searchFiles.work v args := rfl
    rw [hcall] at hrun
    obtain ⟨a, w₁, hargs, hwork⟩ := Action.runWith_bind_eq_ok.mp hrun
    obtain ⟨hread, rfl⟩ := Prod.mk.inj hargs
    obtain ⟨paths, w₂, hsearch, hpure⟩ := Action.runWith_bind_eq_ok.mp hwork
    obtain ⟨htext, rfl⟩ := Prod.mk.inj hpure
    obtain rfl : Tool.hitsText paths = text := Except.ok.inj htext
    exact ⟨a, paths, hread, hsearch, Tool.hitsText_shows paths⟩

/-- A file is named like the line of a directory, another one like the words for no hits. -/
theorem lines_of_tools_with_forged_names :
    let h : Handle := .ofNamespaces [.workspace]
    let put (s : MemoryStore) (path : Text) : MemoryStore :=
      ((h.fulfil (.file path (.write [1] true))).runWith
        (MemoryStore.backend ⟨0, 0⟩) ⟨s, ∅⟩).2.store
    let s := put (put .empty "/workspace/[DIR] a") "/workspace/b/No matches found"
    let run (tool : Text) (args : Json) :=
      (Tool.call ⟨h, {}⟩ tool args).runWith (MemoryStore.backend ⟨1, 0⟩) ⟨s, ∅⟩
    let listing := run "list_directory" (.object [("path", .text "/workspace")])
    let search := run "search_files"
      (.object [("path", .text "/workspace"), ("pattern", .text "No")])
    s.Reachable ∧ listing.1 = .ok "[FILE] [DIR] a\n[DIR] b" ∧
      ShowsLines "(empty directory)" DirEntry.line DirEntry.ofLine?
        [⟨"[DIR] a", .file⟩, ⟨"b", .dir⟩] "[FILE] [DIR] a\n[DIR] b" ∧
      search.1 = .ok "/workspace/b/No matches found" ∧
      ShowsLines "No matches found" Path.text Path.ofLine?
        [⟨"/workspace/b/No matches found", by decide⟩] "/workspace/b/No matches found" := by
  intro h put s run listing search
  have hs : s.Reachable := .request h _ ⟨0, 0⟩ ∅ (.request h _ ⟨0, 0⟩ ∅ .empty)
  have hlisting : listing.1 = .ok "[FILE] [DIR] a\n[DIR] b" := by decide +kernel
  have hsearch : search.1 = .ok "/workspace/b/No matches found" := by decide +kernel
  obtain ⟨-, entries, -, -, hentries⟩ :=
    (lines_of_tools_unambiguous _ _ _ _ _ _).1 (Prod.ext hlisting rfl)
  obtain ⟨-, paths, -, -, hpaths⟩ :=
    (lines_of_tools_unambiguous _ _ _ _ _ _).2 (Prod.ext hsearch rfl)
  have hread : entries = [⟨"[DIR] a", .file⟩, ⟨"b", .dir⟩] := by
    rw [← hentries.read]
    decide
  have hfound : paths = [⟨"/workspace/b/No matches found", by decide⟩] := by
    rw [← hpaths.read]
    decide
  exact ⟨hs, hlisting, hread ▸ hentries, hsearch, hfound ▸ hpaths⟩

end GrantFs
