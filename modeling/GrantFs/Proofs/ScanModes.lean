import GrantFs.Proofs.Scan
import Mathlib.Data.List.Sort

/-! # How the scans are related

Of the searcher it is used here that it finds the first match at or behind a place, where a match
that starts at a place ends at one place only. Main statement: the plain scan is the scan with an
overlap of zero less its adjoining empty matches, and the scan with the largest overlap lists all
matches, of which every scan lists some. -/
namespace GrantFs.Regex

open Text (Cursor isBoundary byteSize)

/-- The matches less the empty ones that start where the match before them ends. The match before
the first one ends at `last`. -/
def withoutAdjoining : (last : Option Nat) → List Match → List Match
  | _, [] => []
  | last, m :: rest =>
    if m.start = m.stop ∧ last = some m.start then withoutAdjoining (some m.stop) rest
    else m :: withoutAdjoining (some m.stop) rest

theorem withoutAdjoining_sublist (last : Option Nat) (found : List Match) :
    (withoutAdjoining last found).Sublist found := by
  induction found generalizing last with
  | nil => exact List.Sublist.slnil
  | cons m rest ih =>
    rw [withoutAdjoining]
    split
    · exact (ih (some m.stop)).cons m
    · exact (ih (some m.stop)).cons_cons m

theorem withoutAdjoining_of_no_empty {found : List Match} (h : ∀ m ∈ found, m.start ≠ m.stop)
    (last : Option Nat) : withoutAdjoining last found = found := by
  induction found generalizing last with
  | nil => rfl
  | cons m rest ih =>
    obtain ⟨hm, hrest⟩ := List.forall_mem_cons.mp h
    rw [withoutAdjoining, if_neg (fun hempty => hm hempty.1), ih hrest]

/-- A row of matches in the order of their starts is part of another one if that has its matches. -/
theorem sublist_of_starts {found all : List Match} (hfound : found.Pairwise (·.start < ·.start))
    (hall : all.Pairwise (·.start < ·.start)) (h : found ⊆ all) : found.Sublist all := by
  have : Std.Antisymm fun m m' : Match => m.start < m'.start :=
    ⟨fun _ _ hlt hgt => absurd hgt (Nat.lt_asymm hlt)⟩
  have hnodup : found.Nodup := hfound.imp fun hlt heq => by
    rw [heq] at hlt
    exact Nat.lt_irrefl _ hlt
  exact List.sublist_of_subperm_of_pairwise (List.subperm_of_subset hnodup h) hfound hall

namespace Searcher

variable {t : Text} {f : Searcher t} {matchAt : (start : Nat) → Option Nat} {overlap : Nat}
  {c c' : Cursor t} {m : Match} {last last' : Option Nat}

theorem Leftmost.search_eq_some (h : f.Leftmost matchAt) :
    f.search c = some m ↔ m.IsFirst t matchAt c.position := by
  rw [search]
  split
  next hc => exact h (c.sound hc)
  next hc =>
    refine iff_of_false (by simp) fun hm => hc ?_
    exact Nat.le_trans hm.onward (Text.le_of_isBoundary hm.start)

theorem exists_isFirst {position : Nat} (hm : position ≤ m.start)
    (hboundary : isBoundary t m.start = true) (hmatch : matchAt m.start = some m.stop) :
    ∃ first : Match, first.IsFirst t matchAt position := by
  have hexists : ∃ n, position ≤ n ∧ isBoundary t n = true ∧ (matchAt n).isSome = true :=
    ⟨m.start, hm, hboundary, by rw [hmatch, Option.isSome_some]⟩
  obtain ⟨hle, hat, hsome⟩ := Nat.find_spec hexists
  obtain ⟨stop, hstop⟩ := Option.isSome_iff_exists.mp hsome
  refine ⟨⟨Nat.find hexists, stop⟩, hle, hat, hstop, fun n hn hlt hboundary => ?_⟩
  by_contra hne
  exact Nat.find_min hexists hlt ⟨hn, hboundary, Option.isSome_iff_ne_none.mpr hne⟩

theorem Leftmost.match_of_mem (h : f.Leftmost matchAt) (hm : m ∈ f.overlapFrom overlap c) :
    isBoundary t m.start = true ∧ matchAt m.start = some m.stop := by
  induction c using f.overlap_induction overlap with
  | ended c hnone =>
    rw [overlapFrom_of_none overlap hnone] at hm
    cases hm
  | found c first hfirst ih =>
    rw [overlapFrom_of_some overlap hfirst] at hm
    rcases List.mem_cons.mp hm with rfl | hm
    · have hisFirst := h.search_eq_some.mp hfirst
      exact ⟨hisFirst.start, hisFirst.stop⟩
    · exact ih hm

/-- With an overlap as long as the text every search starts at the next boundary. -/
theorem behind_of_le (hoverlap : byteSize t ≤ overlap) (hm : m.Within t c.position) :
    m.behind t overlap = .onward t (m.start + 1) := by
  have hstop := Text.le_of_isBoundary hm.stop
  have hstride : stride overlap m.size = 1 := by
    rw [stride, Match.size]
    omega
  rw [Match.behind, hstride]

theorem Leftmost.mem_overlapFrom (h : f.Leftmost matchAt) (hoverlap : byteSize t ≤ overlap)
    (hm : c.position ≤ m.start) (hboundary : isBoundary t m.start = true)
    (hmatch : matchAt m.start = some m.stop) : m ∈ f.overlapFrom overlap c := by
  induction c using f.overlap_induction overlap with
  | ended c hnone =>
    obtain ⟨first, hfirst⟩ := exists_isFirst hm hboundary hmatch
    rw [h.search_eq_some.mpr hfirst] at hnone
    cases hnone
  | found c first hfound ih =>
    have hfirst := h.search_eq_some.mp hfound
    rw [overlapFrom_of_some overlap hfound, List.mem_cons]
    rcases Nat.lt_trichotomy m.start first.start with hlt | heq | hgt
    · rw [hfirst.first m.start hm hlt hboundary] at hmatch
      cases hmatch
    · have hstop := hfirst.stop
      rw [← heq, hmatch, Option.some.injEq] at hstop
      cases m
      cases first
      cases heq
      cases hstop
      exact .inl rfl
    · refine .inr (ih ?_)
      rw [behind_of_le hoverlap (within_of_search hfound)]
      exact Text.nextBoundary_le hboundary hgt

theorem overlapFrom_ascending (f : Searcher t) (overlap : Nat) (c : Cursor t) :
    (f.overlapFrom overlap c).Pairwise (·.start < ·.start) := by
  refine (f.overlapFrom_strides overlap c).imp ?_
  intro m later hstride
  have hpos : 1 ≤ stride overlap m.size := Nat.le_max_left ..
  omega

theorem plainFrom_of_none (h : f.resume last c = none) : f.plainFrom last c = [] := by
  rw [plainFrom]
  split
  next => rfl
  next hm =>
    rw [h] at hm
    cases hm

theorem plainFrom_of_some (h : f.resume last c = some m) :
    f.plainFrom last c = m :: f.plainFrom (some m.stop) (.at_ (within_of_resume h).stop) := by
  rw [plainFrom]
  split
  next hnone =>
    rw [h] at hnone
    cases hnone
  next found hfound =>
    obtain rfl : m = found := Option.some.inj (h.symm.trans hfound)
    rfl

theorem plainFrom_congr (h : f.resume last c = f.resume last' c') :
    f.plainFrom last c = f.plainFrom last' c' := by
  cases hresume : f.resume last' c' with
  | none => rw [plainFrom_of_none (h.trans hresume), plainFrom_of_none hresume]
  | some m => rw [plainFrom_of_some (h.trans hresume), plainFrom_of_some hresume]

/-- Past an adjoining empty match a plain scan goes on as if it had started behind it. -/
theorem resume_past (hm : f.search c = some m) (hempty : m.start = m.stop)
    (hlast : last = some m.stop) :
    f.resume last c = f.resume (some m.stop) (.onward t (m.stop + 1)) := by
  have hskip : f.resume last c = f.search (.onward t (m.stop + 1)) := by
    rw [resume, hm]
    exact if_pos ⟨hempty, hlast⟩
  rw [hskip, resume]
  cases hnext : f.search (.onward t (m.stop + 1)) with
  | none => rfl
  | some next =>
    have hnext := within_of_search hnext
    have hlater : m.stop + 1 ≤ next.start :=
      Nat.le_trans (Text.le_nextBoundary t _) hnext.onward
    have hordered := hnext.ordered
    refine (if_neg ?_).symm
    rintro ⟨-, hstop⟩
    rw [Option.some.injEq] at hstop
    omega

/-- With no overlap a search starts behind a match that is not empty, and one character behind one
that is. -/
theorem behind_zero_of_empty (hempty : m.start = m.stop) :
    m.behind t 0 = .onward t (m.stop + 1) := by
  rw [Match.behind, Match.size, hempty, Nat.sub_self]
  rfl

theorem behind_zero_of_ne {position : Nat} (hm : m.Within t position) (hne : m.start ≠ m.stop) :
    m.behind t 0 = .at_ hm.stop := by
  have hordered := hm.ordered
  have hstride : m.start + stride 0 m.size = m.stop := by
    rw [stride, Match.size]
    omega
  apply Cursor.ext_position
  show Text.nextBoundary t (m.start + stride 0 m.size) = m.stop
  rw [hstride, Text.nextBoundary_of_isBoundary hm.stop]

theorem Leftmost.plainFrom_eq (h : f.Leftmost matchAt) (last : Option Nat) (c : Cursor t) :
    f.plainFrom last c = withoutAdjoining last (f.overlapFrom 0 c) := by
  induction c using f.overlap_induction 0 generalizing last with
  | ended c hnone =>
    have hresume : f.resume last c = none := by rw [resume, hnone]
    rw [plainFrom_of_none hresume, overlapFrom_of_none 0 hnone]
    rfl
  | found c m hm ih =>
    rw [overlapFrom_of_some 0 hm, withoutAdjoining, ← ih (some m.stop)]
    split
    next hadjoining =>
      obtain ⟨hempty, hlast⟩ := hadjoining
      rw [behind_zero_of_empty hempty]
      exact plainFrom_congr (resume_past hm hempty (hempty ▸ hlast))
    next hkept =>
      have hresume : f.resume last c = some m := by
        rw [resume, hm]
        apply if_neg
        rintro ⟨hempty, hlast⟩
        exact hkept ⟨hempty, hempty ▸ hlast⟩
      have hwithin := within_of_search hm
      rw [plainFrom_of_some hresume]
      congr 1
      by_cases hempty : m.start = m.stop
      · -- the search at the end of an empty match finds that match again
        have hagain : f.search (.at_ hwithin.stop) = some m := by
          have hfirst := h.search_eq_some.mp hm
          refine h.search_eq_some.mpr ⟨Nat.le_of_eq hempty.symm, hfirst.start, hfirst.stop, ?_⟩
          intro n hle hlt
          rw [hempty] at hlt
          exact absurd hlt (Nat.not_lt.mpr hle)
        rw [behind_zero_of_empty hempty]
        exact plainFrom_congr (resume_past hagain hempty rfl)
      · rw [behind_zero_of_ne hwithin hempty]

/-- The plain scan lists what the scan with an overlap of zero lists, less exactly the empty matches
that start where the match before them ends, and so all of it if no match is empty. In a text whose
length is a machine word, the scan with the largest overlap lists, in order, the one match that
starts at each boundary at which a match starts, and every scan lists a part of that row. The
searchers of compiled patterns are of this kind. -/
theorem scan_modes_agree (h : f.Leftmost matchAt) (ht : byteSize t < 2 ^ 64) :
    let all := f.scan (some (2 ^ 64 - 1))
    f.scan none = withoutAdjoining none (f.scan (some 0)) ∧
      ((∀ m ∈ f.scan (some 0), m.start ≠ m.stop) → f.scan none = f.scan (some 0)) ∧
      (∀ m, m ∈ all ↔ isBoundary t m.start = true ∧ matchAt m.start = some m.stop) ∧
      all.Pairwise (·.start < ·.start) ∧ (∀ overlap, (f.scan overlap).Sublist all) ∧
      ∀ pattern machine, check pattern = .ok machine →
        (machine.searcher t).Leftmost (machine.matchAt t) ∧
          ∀ overlap, Regex.scan pattern overlap t =
            .ok (((machine.searcher t).scan overlap).map (·.slice t)) := by
  intro all
  have hplain : f.scan none = withoutAdjoining none (f.scan (some 0)) :=
    h.plainFrom_eq none (.start t)
  have hmem : ∀ m, m ∈ all ↔ isBoundary t m.start = true ∧ matchAt m.start = some m.stop := by
    intro m
    refine ⟨fun hm => h.match_of_mem hm, fun ⟨hboundary, hmatch⟩ => ?_⟩
    exact h.mem_overlapFrom (by omega) (Nat.zero_le _) hboundary hmatch
  have hascending : all.Pairwise (·.start < ·.start) := f.overlapFrom_ascending _ _
  have hpart : ∀ overlap, (f.scan (some overlap)).Sublist all := by
    intro overlap
    apply sublist_of_starts (f.overlapFrom_ascending overlap _) hascending
    intro m hm
    exact (hmem m).mpr (h.match_of_mem hm)
  refine ⟨hplain, ?_, hmem, hascending, ?_, ?_⟩
  · intro hne
    rw [hplain, withoutAdjoining_of_no_empty hne]
  · intro overlap
    cases overlap with
    | none =>
      rw [hplain]
      exact (withoutAdjoining_sublist none _).trans (hpart 0)
    | some overlap => exact hpart overlap
  · intro pattern machine hpattern
    exact ⟨machine.searcher_leftmost t, fun overlap => scan_of_check hpattern overlap t⟩

/-- The empty match behind the two letters is left out of the plain scan, and the one at the end of
the text is not, since another empty match lies between. -/
theorem scan_modes_of_three_characters :
    let t : Text := "aaé"
    let machine : Machine := Tree.machine (.repeated (.char (.single 'a')) 0 none true)
    let f := machine.searcher t
    f.Leftmost (machine.matchAt t) ∧ byteSize t < 2 ^ 64 ∧
      f.scan (some 0) = [⟨0, 2⟩, ⟨2, 2⟩, ⟨4, 4⟩] ∧ f.scan none = [⟨0, 2⟩, ⟨4, 4⟩] ∧
      ⟨1, 2⟩ ∈ f.scan (some (2 ^ 64 - 1)) ∧
      (f.scan (some 1)).Sublist (f.scan (some (2 ^ 64 - 1))) := by
  intro t machine f
  have hleftmost : f.Leftmost (machine.matchAt t) := machine.searcher_leftmost t
  have ht : byteSize t < 2 ^ 64 := by decide
  have hzero : f.scan (some 0) = [⟨0, 2⟩, ⟨2, 2⟩, ⟨4, 4⟩] := by decide +kernel
  obtain ⟨hplain, -, hmem, -, hpart, -⟩ := scan_modes_agree hleftmost ht
  refine ⟨hleftmost, ht, hzero, ?_, ?_, hpart (some 1)⟩
  · rw [hplain, hzero]
    decide
  · exact (hmem _).mpr (by decide +kernel)

end Searcher
end GrantFs.Regex
