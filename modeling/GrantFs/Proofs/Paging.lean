import GrantFs.Proofs.DiskReading
import GrantFs.Proofs.Memory
import GrantFs.Proofs.ReadLimits
import GrantFs.Service

/-! # Reading a file page by page

A reader that asks for `k` lines at a time gets the lines of the file in pages, whether the file
lies in memory or on disk. Main statement: no limit cuts a page that is within the limit on lines,
and the pages joined with line feeds are the lines of the file joined with line feeds. -/
namespace GrantFs

open Text (lines unlines page)

variable {σ : Type} {b : Backend σ} {s : σ} {h : Handle} {p : Path} {t : Text}

theorem sliceLines_eq_ok {count : Nat} (hcount : 1 ≤ count) (t : Text) (start : Nat) :
    sliceLines t (some start) (some count) = .ok (unlines (((lines t).drop start).take count)) := by
  have hsome : some count ≠ some 0 := by
    rw [Ne, Option.some.injEq]
    omega
  rw [sliceLines, checkCount, if_neg hsome]
  rfl

/-- Two slices of which one begins where the other ends are one slice, with a line feed between
them. -/
theorem sliceLines_add (t : Text) {i m n : Nat} (hm : 1 ≤ m) (hn : 1 ≤ n)
    (hlines : i + m < (lines t).length) :
    ∃ before after, sliceLines t (some i) (some m) = .ok before ∧
      sliceLines t (some (i + m)) (some n) = .ok after ∧
      sliceLines t (some i) (some (m + n)) = .ok (before ++ '\n' :: after) := by
  refine ⟨_, _, sliceLines_eq_ok hm t i, sliceLines_eq_ok hn t (i + m), ?_⟩
  have hbefore := Text.slice_ne_nil (Nat.lt_of_le_of_lt (Nat.le_add_right i m) hlines) hm
  have hafter := Text.slice_ne_nil hlines hn
  rw [sliceLines_eq_ok (Nat.le_add_right_of_le hm), List.take_add, List.drop_drop,
    Text.unlines_append hbefore hafter]

/-- A store in memory or on disk that holds a file which the grants let see, and the text of that
file. -/
inductive HoldsText (grants : List Grant) (p : Path) :
    (t : Text) → {σ : Type} → Backend σ → σ → Prop where
  | memory {s : MemoryStore} {data : Bytes} (now : Instant) : s.Reachable →
      isVisible grants p.text = true → s.content.get? p = some data →
      HoldsText grants p (Utf8.decodeLossy data) (MemoryStore.backend now) s
  | disk {d : DiskStore} {tree : OsTree} {root : Namespace → Place} {ns : Namespace}
      {segments : List Text} {data : Bytes} {modified : Instant} (now : Instant) :
      (∀ ns, d.RootAt tree ns (root ns)) →
      d.Listed tree grants ns (root ns) p segments data modified →
      HoldsText grants p (Utf8.decodeLossy data) (d.backend now) tree

/-- Either way a snapshot shows the file, and the backend reads slices of its text. -/
theorem HoldsText.answers {grants : List Grant} (hstored : HoldsText grants p t b s) :
    ∃ i, b (.snapshot grants) s = (.ok i, s) ∧ (i.get? p).isSome = true ∧
      ∀ start count, b (.readText p start count) s = (sliceLines t start count, s) := by
  cases hstored with
  | @memory s data now hs hvisible hdata =>
    obtain ⟨m, hm⟩ := hs.represents
    refine ⟨s.snapshot grants, rfl, ?_, ?_⟩
    · have hlisted : s.entries.get? p ≠ none := by
        rw [Ne, hm.listed, ← hm.content, hdata]
        simp
      rw [MemoryStore.get?_snapshot, if_pos hvisible]
      exact Option.isSome_iff_ne_none.mpr hlisted
    · intro start count
      simp only [MemoryStore.backend, MemoryStore.read, hdata]
      rfl
  | @disk d tree root ns segments data modified now hroot hlisted =>
    obtain ⟨i, hrun, hi⟩ := DiskStore.exists_snapshot now hroot grants
    have hfound : i.get? p = some ⟨p, some data.length, some modified⟩ :=
      (hi p _).mpr ⟨ns, segments, data, modified, hlisted, rfl⟩
    refine ⟨i, hrun, by rw [hfound, Option.isSome_some], ?_⟩
    intro start count
    have htask : (Request.file p.text (.readText start count)).isRead = true := rfl
    exact DiskStore.finish_of_read htask (hlisted.exec_read hroot now) ⟨p, none, none⟩

theorem Handle.readText_runWith (hstored : HoldsText h.grants p t b s)
    (hpermits : h.permits p.text .readText = true) {start count : Option Nat} {slice : Text}
    (hslice : sliceLines t start count = .ok slice) (index : Snapshot) :
    ∃ index', (h.readText p.text start count).runWith b ⟨s, index⟩ = (.ok slice, ⟨s, index'⟩) := by
  obtain ⟨i, hsnapshot, hfound, hread⟩ := hstored.answers
  have hcount : (FileTask.readText start count).checkArguments = .ok () := by
    by_cases hzero : count = some 0
    · subst hzero
      cases hslice
    · exact if_neg hzero
  have happroved : h.approve p.text (.readText start count) = .ok p :=
    Handle.approve_of_permits (by rintro ⟨⟩) hpermits hcount
  have houtcome : h.outcome b s (.file p.text (.readText start count)) = (.ok slice, s) := by
    rw [Handle.outcome, happroved]
    simp only [hsnapshot, FileTask.finish, hfound, if_true, hread, hslice]
  have hstore : (b (.snapshot h.grants) s).2 = s := by rw [hsnapshot]
  obtain ⟨index', hrun⟩ := Handle.fulfil_runWith hstore (.file p.text (.readText start count)) index
  rw [houtcome] at hrun
  exact ⟨index', hrun⟩

namespace Service

variable {k : Nat}

/-- Whatever is in the index, to read `k` lines from a line on has the reply and leaves the store as
it is. -/
def PageIs (service : Service) (b : Backend σ) (s : σ) (p : Path) (start k : Nat) (reply : Text) :
    Prop :=
  ∀ index, ∃ index',
    (service.readTextFile p.text start (some k)).runWith b ⟨s, index⟩ = (.ok reply, ⟨s, index'⟩)

theorem pageIs_slice (service : Service) (hstored : HoldsText service.handle.grants p t b s)
    (hpermits : service.handle.permits p.text .readText = true)
    (hbytes : service.policy.maxBytes = none) (hk : 1 ≤ k)
    (hlines : ∀ limit, service.policy.maxLines = some limit → k ≤ limit) (start : Nat) :
    service.PageIs b s p (1 + start) k (unlines (((lines t).drop start).take k)) := by
  intro index
  have hsublist : (((lines t).drop start).take k).Sublist (lines t) :=
    (List.take_sublist k _).trans (List.drop_sublist start _)
  have hfits : service.policy.applyLimits (unlines (((lines t).drop start).take k)) =
      unlines (((lines t).drop start).take k) := by
    refine Policy.applyLimits_of_fits ?_ (by simp [hbytes])
    intro limit hlimit
    have hslice := Text.length_lines_of_sublist hsublist
    have hpage := List.length_take_le k ((lines t).drop start)
    have hlimit := hlines limit hlimit
    omega
  obtain ⟨index', hrun⟩ :=
    Handle.readText_runWith hstored hpermits (sliceLines_eq_ok hk t start) index
  refine ⟨index', ?_⟩
  have hstart : ¬ (1 + start = 1 ∧ some k = none) := by simp
  rw [readTextFile, Path.parse_text, Action.runWith_bind_ok (Action.runWith_lift _)]
  rw [if_neg (by omega), if_neg hstart, Nat.add_sub_cancel_left]
  rw [Action.runWith_bind_ok hrun, hfits]
  rfl

/-- The replies to all pages are the lines of the text, page by page and without a marker, and
behind the last line there are only empty ones. Any two slices that meet within a text are one
slice. -/
theorem paging_loses_nothing (service : Service)
    (hstored : HoldsText service.handle.grants p t b s)
    (hpermits : service.handle.permits p.text .readText = true)
    (hbytes : service.policy.maxBytes = none) (hk : 1 ≤ k)
    (hlines : ∀ limit, service.policy.maxLines = some limit → k ≤ limit) :
    (∃ replies : List Text, replies.length = ((lines t).length + k - 1) / k ∧
      unlines replies = unlines (lines t) ∧
      ∀ i reply, replies[i]? = some reply →
        service.PageIs b s p (1 + i * k) k reply ∧ reply = unlines (page k i (lines t))) ∧
    (∀ start, (lines t).length < start → service.PageIs b s p start k []) ∧
    ∀ (u : Text) (i m n : Nat), 1 ≤ m → 1 ≤ n → i + m < (lines u).length →
      ∃ before after, sliceLines u (some i) (some m) = .ok before ∧
        sliceLines u (some (i + m)) (some n) = .ok after ∧
        sliceLines u (some i) (some (m + n)) = .ok (before ++ '\n' :: after) := by
  have hslice := service.pageIs_slice hstored hpermits hbytes hk hlines
  refine ⟨⟨(Text.pages k (lines t)).map unlines, ?_, Text.unlines_pages hk _, ?_⟩, ?_, ?_⟩
  · rw [List.length_map, Text.length_pages]
  · intro i reply hreply
    rw [List.getElem?_map, Option.map_eq_some_iff] at hreply
    obtain ⟨part, hpart, rfl⟩ := hreply
    rw [Text.eq_page_of_getElem? hpart]
    exact ⟨hslice (i * k), rfl⟩
  · intro start hstart
    have hempty := hslice (start - 1)
    rw [List.drop_of_length_le (by omega), List.take_nil, Nat.add_sub_cancel' (by omega)] at hempty
    exact hempty
  · intro u i m n hm hn hmeet
    exact sliceLines_add u hm hn hmeet

end Service

/-- Three pages of two lines, with an empty line at the end of the first two pages, carriage returns
before a line feed and elsewhere, and no line feed at the end. -/
theorem paging_of_five_lines :
    let h : Handle := .ofNamespaces [.workspace]
    let p : Path := ⟨"/workspace/a", by decide⟩
    let t : Text := "a\r\n\n\rb\n\r\nc\r"
    let s := ((h.fulfil (.file p.text (.write (Utf8.encode t) true))).runWith
      (MemoryStore.backend ⟨0, 0⟩) ⟨.empty, ∅⟩).2.store
    let service : Service := ⟨h, { maxLines := some 2 }⟩
    let b := MemoryStore.backend ⟨1, 0⟩
    HoldsText h.grants p t b s ∧ h.permits p.text .readText = true ∧
      service.policy.maxBytes = none ∧ 1 ≤ 2 ∧
      (∀ limit, service.policy.maxLines = some limit → 2 ≤ limit) ∧
      (∃ replies : List Text, replies.length = 3 ∧ unlines replies = "a\n\n\rb\n\nc\r".toList ∧
        ∀ i reply, replies[i]? = some reply →
          service.PageIs b s p (1 + i * 2) 2 reply ∧ reply = unlines (page 2 i (lines t))) ∧
      service.PageIs b s p 6 2 [] ∧
      ∃ before after, sliceLines t (some 1) (some 1) = .ok before ∧
        sliceLines t (some 2) (some 3) = .ok after ∧
        sliceLines t (some 1) (some 4) = .ok (before ++ '\n' :: after) := by
  intro h p t s service b
  have hs : s.Reachable := .request h _ ⟨0, 0⟩ ∅ .empty
  have hcontent : s.content.get? p = some (Utf8.encode t) := by decide +kernel
  have hvisible : isVisible h.grants p.text = true := by decide
  have hstored : HoldsText h.grants p t b s := by
    have hmemory := HoldsText.memory ⟨1, 0⟩ hs hvisible hcontent
    rwa [Utf8.decodeLossy_encode] at hmemory
  have hpermits : h.permits p.text .readText = true := by decide
  have hlimit : ∀ limit, service.policy.maxLines = some limit → 2 ≤ limit := by
    rintro limit ⟨⟩
    exact le_rfl
  have hlines : lines t = ["a".toList, [], "\rb".toList, [], "c\r".toList] := by decide +kernel
  obtain ⟨⟨replies, hlength, hjoined, hall⟩, hbehind, hslices⟩ :=
    service.paging_loses_nothing hstored hpermits rfl (by decide) hlimit
  refine ⟨hstored, hpermits, rfl, by decide, hlimit, ⟨replies, ?_, ?_, hall⟩, ?_, ?_⟩
  · rw [hlength, hlines]
    rfl
  · rw [hjoined, hlines]
    decide +kernel
  · exact hbehind 6 (by rw [hlines]; decide)
  · exact hslices t 1 1 3 (by decide) (by decide) (by rw [hlines]; decide)

end GrantFs
