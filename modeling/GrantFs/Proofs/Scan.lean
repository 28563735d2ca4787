import GrantFs.Regex.Scan
import Mathlib.Algebra.Group.Nat.Defs
import Mathlib.Data.List.Pairwise

/-! # How overlapping scans advance

Of the searcher nothing is used but that it finds matches within the text, at or behind the place
where it starts. Main statement: an overlapping scan searches at boundaries of the text only, once
for each of them at most, and a match starts at least a stride behind the start of each one before
it. -/
namespace GrantFs.Regex

open Text (Cursor isBoundary byteSize dropBytes)

theorem scan_of_check {pattern : Text} {machine : Machine} (h : check pattern = .ok machine)
    (overlap : Option Nat) (t : Text) :
    scan pattern overlap t = .ok (((machine.searcher t).scan overlap).map (·.slice t)) := by
  rw [scan, h]
  rfl

namespace Searcher

variable {t : Text} {f : Searcher t} {overlap : Nat} {c : Cursor t} {m : Match} {s : Search}

theorem isBoundary_of_mem_searches (h : s ∈ f.searchesFrom overlap c) :
    isBoundary t s.position = true := by
  fun_induction searchesFrom f overlap c with
  | case1 c hc hnone =>
    rw [List.mem_singleton.mp h]
    exact c.sound hc
  | case2 c hc m hm _ ih =>
    rcases List.mem_cons.mp h with rfl | h
    · exact c.sound hc
    · exact ih h
  | case3 c hc => cases h

/-- Each search but the last one leaves a character behind it. -/
theorem length_searchesFrom_le (f : Searcher t) (overlap : Nat) (c : Cursor t)
    (hc : c.position ≤ byteSize t) :
    (f.searchesFrom overlap c).length ≤ (dropBytes c.position t).length + 1 := by
  fun_induction searchesFrom f overlap c with
  | case1 c _ hnone => exact Nat.le_add_left ..
  | case2 c _ m hm hlt ih =>
    rw [List.length_cons]
    apply Nat.succ_le_succ
    by_cases hnext : (m.behind t overlap).position ≤ byteSize t
    · have hfewer := Text.length_dropBytes_lt (c.sound hc) ((m.behind t overlap).sound hnext) hlt
      exact Nat.le_trans (ih hnext) hfewer
    · rw [searchesFrom, dif_neg hnext]
      exact Nat.zero_le _
  | case3 c hpast => exact absurd hc hpast

def overlapFrom (f : Searcher t) (overlap : Nat) (c : Cursor t) : List Match :=
  (f.searchesFrom overlap c).filterMap (·.found)

theorem overlapFrom_eq (f : Searcher t) (overlap : Nat) (c : Cursor t) :
    f.overlapFrom overlap c =
      match f.search c with
      | none => []
      | some m => m :: f.overlapFrom overlap (m.behind t overlap) := by
  rw [overlapFrom]
  fun_cases searchesFrom f overlap c with
  | case1 hc hm => simp [search, hc, hm]
  | case2 hc m hm => simp [search, hc, hm, overlapFrom]
  | case3 hc => simp [search, hc]

theorem overlapFrom_of_none (overlap : Nat) (h : f.search c = none) :
    f.overlapFrom overlap c = [] := by
  rw [overlapFrom_eq, h]

theorem overlapFrom_of_some (overlap : Nat) (h : f.search c = some m) :
    f.overlapFrom overlap c = m :: f.overlapFrom overlap (m.behind t overlap) := by
  rw [overlapFrom_eq, h]

/-- What holds where nothing is found, and in front of each match if it holds behind it, holds of
every place. -/
theorem overlap_induction (f : Searcher t) (overlap : Nat) {motive : Cursor t → Prop}
    (ended : ∀ c, f.search c = none → motive c)
    (found : ∀ c m, f.search c = some m → motive (m.behind t overlap) → motive c)
    (c : Cursor t) : motive c := by
  fun_induction searchesFrom f overlap c with
  | case1 c hc hm => exact ended c (by rw [search, if_pos hc, hm])
  | case2 c hc m hm _ ih => exact found c m (by rw [search, if_pos hc, hm]) ih
  | case3 c hc => exact ended c (if_neg hc)

theorem le_behind (t : Text) (overlap : Nat) (m : Match) :
    m.start + stride overlap m.size ≤ (m.behind t overlap).position :=
  Text.le_nextBoundary t _

theorem within_of_mem (h : m ∈ f.overlapFrom overlap c) : m.Within t c.position := by
  induction c using f.overlap_induction overlap with
  | ended c hnone =>
    rw [overlapFrom_of_none overlap hnone] at h
    cases h
  | found c first hfirst ih =>
    rw [overlapFrom_of_some overlap hfirst] at h
    have hwithin := within_of_search hfirst
    rcases List.mem_cons.mp h with rfl | h
    · exact hwithin
    · have hrest := ih h
      have hlt := behind_lt overlap hwithin
      have honward := Nat.le_trans (Nat.le_of_lt hlt) hrest.onward
      exact ⟨honward, hrest.ordered, hrest.start, hrest.stop⟩

/-- Whatever is found later starts at least a stride behind the start of a match. -/
theorem overlapFrom_strides (f : Searcher t) (overlap : Nat) (c : Cursor t) :
    (f.overlapFrom overlap c).Pairwise fun m later =>
      m.start + stride overlap m.size ≤ later.start := by
  induction c using f.overlap_induction overlap with
  | ended c hnone =>
    rw [overlapFrom_of_none overlap hnone]
    exact List.Pairwise.nil
  | found c m hm ih =>
    rw [overlapFrom_of_some overlap hm, List.pairwise_cons]
    refine ⟨fun later hlater => ?_, ih⟩
    exact Nat.le_trans (le_behind t overlap m) (within_of_mem hlater).onward

theorem behind_le (overlap : Nat) (h : m.Within t c.position) :
    (m.behind t overlap).position ≤ byteSize t + 1 := by
  have hstop := Text.le_of_isBoundary h.stop
  have hordered := h.ordered
  show Text.nextBoundary t (m.start + stride overlap m.size) ≤ byteSize t + 1
  by_cases hin : m.start + stride overlap m.size ≤ byteSize t
  · exact Nat.le_succ_of_le (Text.nextBoundary_le (Text.isBoundary_byteSize t) hin)
  · rw [Text.nextBoundary_of_lt (Nat.lt_of_not_le hin), stride, Match.size]
    omega

/-- However far matches may overlap, a scan ends: it searches at boundaries of the text only, once
for each of them at most, and so finds at most one match more than there are characters. In a text
that fits into memory no place is computed that does not fit into a machine word. Each match starts
behind the start of every match before it, by as much as the overlap leaves of that match, so the
two share no more bytes than the overlap allows. -/
theorem overlapping_scan_advances (f : Searcher t) (overlap : Nat) :
    let searches := f.searches overlap
    let found := f.scan (some overlap)
    searches.length ≤ t.length + 1 ∧ found.length ≤ t.length + 1 ∧
      (∀ s ∈ searches, s.position ≤ byteSize t ∧ isBoundary t s.position = true) ∧
      (∀ m ∈ found, m.start ≤ m.stop ∧
        (byteSize t < 2 ^ 63 → m.start + max 1 (m.size - overlap) < 2 ^ 64 ∧
          (m.behind t overlap).position < 2 ^ 64)) ∧
      (found.Pairwise fun m later => m.start < later.start ∧
        m.start + max 1 (m.size - overlap) ≤ later.start ∧ m.stop ≤ later.start + overlap) ∧
      ∀ pattern machine, check pattern = .ok machine → Regex.scan pattern (some overlap) t =
        .ok (((machine.searcher t).scan (some overlap)).map (·.slice t)) := by
  intro searches found
  have hsearches : searches.length ≤ t.length + 1 := by
    have hstart := f.length_searchesFrom_le overlap (.start t) (Nat.zero_le _)
    rwa [Cursor.start, dropBytes] at hstart
  refine ⟨hsearches, Nat.le_trans (List.length_filterMap_le _ _) hsearches, ?_, ?_, ?_, ?_⟩
  · intro s hs
    have hboundary := isBoundary_of_mem_searches hs
    exact ⟨Text.le_of_isBoundary hboundary, hboundary⟩
  · intro m hm
    have hwithin := within_of_mem hm
    have hlast := behind_le overlap hwithin
    have hway := le_behind t overlap m
    rw [stride] at hway
    exact ⟨hwithin.ordered, fun ht => ⟨by omega, by omega⟩⟩
  · refine (f.overlapFrom_strides overlap (.start t)).imp ?_
    intro m later hstride
    rw [stride, Match.size] at hstride
    rw [Match.size]
    exact ⟨by omega, hstride, by omega⟩
  · intro pattern machine hpattern
    exact scan_of_check hpattern (some overlap) t

/-- Four matches in three characters: the second one shares a byte with the first, and the way on
from the third leads from the inside of a character to the end of the text. -/
theorem overlapping_scan_of_three_characters :
    let t : Text := "aaé"
    let machine : Machine := Tree.machine (.repeated (.char (.single 'a')) 0 none true)
    let found := (machine.searcher t).scan (some 1)
    found = [⟨0, 2⟩, ⟨1, 2⟩, ⟨2, 2⟩, ⟨4, 4⟩] ∧ found.length ≤ t.length + 1 ∧
      check "a*" = .ok machine ∧
      Regex.scan "a*" (some 1) t = .ok ["aa".toList, "a".toList, [], []] := by
  intro t machine found
  have hfound : found = [⟨0, 2⟩, ⟨1, 2⟩, ⟨2, 2⟩, ⟨4, 4⟩] := by decide +kernel
  have hcheck : check "a*" = .ok machine := rfl
  obtain ⟨-, hlength, -, -, -, hscan⟩ := overlapping_scan_advances (machine.searcher t) 1
  refine ⟨hfound, hlength, hcheck, ?_⟩
  rw [hscan "a*" machine hcheck]
  show Except.ok (found.map _) = _
  rw [hfound]
  rfl

end Searcher
end GrantFs.Regex
