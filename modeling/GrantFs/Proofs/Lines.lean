import GrantFs.Proofs.Location
import GrantFs.Text.Lines

/-! # Lines of texts

What counting and joining lines do to each other. Main statements: a beginning of a text has no more
lines than the text, lines that are joined are not more when they are counted again, and pages of
lines that are joined, and then joined with each other, are all lines joined. -/
namespace GrantFs.Text

variable {s t line : Text} {ls : List Text}

theorem length_lines (t : Text) : (lines t).length = (feedLines t).length := List.length_map ..

theorem feedLines_feed (rest : Text) : feedLines ('\n' :: rest) = ['\n'] :: feedLines rest :=
  if_pos rfl

theorem length_feedLines_cons {c : Char} (hc : c ≠ '\n') (rest : Text) :
    (feedLines (c :: rest)).length = max 1 (feedLines rest).length := by
  rw [feedLines, if_neg hc]
  cases feedLines rest with
  | nil => rfl
  | cons line lines =>
    simp only [List.length_cons]
    omega

theorem length_feedLines_le (h : s <+: t) : (feedLines s).length ≤ (feedLines t).length := by
  induction s generalizing t with
  | nil => exact Nat.zero_le _
  | cons c s ih =>
    obtain ⟨more, rfl⟩ := h
    have hrest := ih (List.prefix_append s more)
    rw [List.cons_append]
    by_cases hc : c = '\n'
    · rw [hc, feedLines_feed, feedLines_feed]
      exact Nat.succ_le_succ hrest
    · rw [length_feedLines_cons hc, length_feedLines_cons hc]
      omega

theorem length_lines_le (h : s <+: t) : (lines s).length ≤ (lines t).length := by
  rw [length_lines, length_lines]
  exact length_feedLines_le h

theorem feedLines_append_feed (h : '\n' ∉ line) (rest : Text) :
    feedLines (line ++ '\n' :: rest) = (line ++ ['\n']) :: feedLines rest := by
  induction line with
  | nil => exact feedLines_feed rest
  | cons c line ih =>
    rw [List.mem_cons, not_or] at h
    rw [List.cons_append, feedLines, if_neg (Ne.symm h.1), ih h.2]
    rfl

theorem length_feedLines_le_one (h : '\n' ∉ line) : (feedLines line).length ≤ 1 := by
  induction line with
  | nil => exact Nat.zero_le 1
  | cons c line ih =>
    rw [List.mem_cons, not_or] at h
    rw [length_feedLines_cons (Ne.symm h.1)]
    have hline := ih h.2
    omega

theorem unlines_append {more : List Text} (h : ls ≠ []) (hmore : more ≠ []) :
    unlines (ls ++ more) = unlines ls ++ '\n' :: unlines more := by
  rw [unlines, joinWith_append _ h hmore, List.append_assoc]
  rfl

theorem unlines_cons (line : Text) (h : ls ≠ []) :
    unlines (line :: ls) = line ++ '\n' :: unlines ls := by
  rw [unlines, joinWith_cons _ _ h, List.append_assoc]
  rfl

theorem unlines_singleton (line : Text) : unlines [line] = line := by
  simp [unlines, joinWith, List.intercalate]

/-- Only an empty last line is lost when joined lines are counted again. -/
theorem length_lines_unlines_le (h : ∀ line ∈ ls, '\n' ∉ line) :
    (lines (unlines ls)).length ≤ ls.length := by
  induction ls with
  | nil => exact Nat.zero_le 0
  | cons line ls ih =>
    obtain ⟨hline, hls⟩ := List.forall_mem_cons.mp h
    by_cases hnil : ls = []
    · rw [hnil, unlines_singleton, length_lines]
      exact length_feedLines_le_one hline
    · have hrest := ih hls
      rw [length_lines] at hrest
      rw [unlines_cons line hnil, length_lines, feedLines_append_feed hline, List.length_cons,
        List.length_cons]
      omega

theorem not_mem_dropLast_of_feedLines (h : line ∈ feedLines t) : '\n' ∉ line.dropLast := by
  induction t generalizing line with
  | nil => cases h
  | cons c t ih =>
    by_cases hc : c = '\n'
    · rw [hc, feedLines_feed] at h
      rcases List.mem_cons.mp h with rfl | h
      · simp
      · exact ih h
    · rw [feedLines, if_neg hc] at h
      cases hrest : feedLines t with
      | nil =>
        rw [hrest, List.mem_singleton] at h
        subst h
        simp
      | cons first more =>
        rw [hrest] at h ih
        rcases List.mem_cons.mp h with rfl | h
        · have hfirst := ih List.mem_cons_self
          cases first with
          | nil => simp
          | cons d first =>
            rw [List.dropLast_cons_of_ne_nil (by simp), List.mem_cons, not_or]
            exact ⟨Ne.symm hc, hfirst⟩
        · exact ih (List.mem_cons_of_mem _ h)

theorem not_mem_withoutFeed (h : '\n' ∉ line.dropLast) : '\n' ∉ withoutFeed line := by
  fun_induction withoutFeed line with
  | case1 => simp
  | case2 => simp
  | case3 => simp
  | case4 c rest hfeed _ ih =>
    cases rest with
    | nil =>
      have hc : c ≠ '\n' := fun hc => hfeed hc rfl
      simpa [withoutFeed] using Ne.symm hc
    | cons d rest =>
      rw [List.dropLast_cons_of_ne_nil (by simp), List.mem_cons, not_or] at h
      rw [List.mem_cons, not_or]
      exact ⟨h.1, ih h.2⟩

theorem not_mem_of_mem_lines (h : line ∈ lines t) : '\n' ∉ line := by
  obtain ⟨fed, hfed, rfl⟩ := List.mem_map.mp h
  exact not_mem_withoutFeed (not_mem_dropLast_of_feedLines hfed)

theorem length_lines_of_sublist (h : ls.Sublist (lines t)) :
    (lines (unlines ls)).length ≤ ls.length :=
  length_lines_unlines_le fun _ hline => not_mem_of_mem_lines (h.subset hline)

/-- The lines from the `i`-th page of `k` lines on, at most one page of them. -/
def page (k i : Nat) (ls : List Text) : List Text := (ls.drop (i * k)).take k

/-- As many pages as it takes to hold all lines; the last one may be shorter. -/
def pages (k : Nat) (ls : List Text) : List (List Text) :=
  (List.range ((ls.length + k - 1) / k)).map fun i => page k i ls

theorem length_pages (k : Nat) (ls : List Text) :
    (pages k ls).length = (ls.length + k - 1) / k := by
  rw [pages, List.length_map, List.length_range]

theorem eq_page_of_getElem? {k i : Nat} {part : List Text} (h : (pages k ls)[i]? = some part) :
    part = page k i ls := by
  obtain ⟨hi, hpart⟩ := List.getElem?_eq_some_iff.mp h
  simpa [pages] using hpart.symm

theorem flatten_pages_take (k count : Nat) (ls : List Text) :
    ((List.range count).map fun i => page k i ls).flatten = ls.take (count * k) := by
  induction count with
  | zero => simp
  | succ count ih =>
    rw [List.range_succ, List.map_append, List.flatten_append, ih, Nat.succ_mul, List.take_add]
    simp [page]

theorem length_le_pages {k : Nat} (hk : 1 ≤ k) (n : Nat) : n ≤ (n + k - 1) / k * k := by
  have hdiv := Nat.div_add_mod (n + k - 1) k
  have hmod := Nat.mod_lt (n + k - 1) hk
  rw [Nat.mul_comm] at hdiv
  omega

theorem flatten_pages {k : Nat} (hk : 1 ≤ k) (ls : List Text) : (pages k ls).flatten = ls := by
  rw [pages, flatten_pages_take, List.take_of_length_le (length_le_pages hk ls.length)]

theorem slice_ne_nil {start count : Nat} (hstart : start < ls.length) (hcount : 1 ≤ count) :
    (ls.drop start).take count ≠ [] := by
  rw [← List.length_pos_iff, List.length_take, List.length_drop]
  omega

theorem page_ne_nil {k : Nat} (hk : 1 ≤ k) {i : Nat} (hi : i < (ls.length + k - 1) / k) :
    page k i ls ≠ [] := by
  have hstart : i * k < ls.length := by
    have hlast := (Nat.le_div_iff_mul_le hk).mp (Nat.succ_le_of_lt hi)
    rw [Nat.succ_mul] at hlast
    omega
  exact slice_ne_nil hstart hk

theorem unlines_flatten {parts : List (List Text)} (h : ∀ part ∈ parts, part ≠ []) :
    unlines (parts.map unlines) = unlines parts.flatten := by
  induction parts with
  | nil => rfl
  | cons part parts ih =>
    obtain ⟨hpart, hparts⟩ := List.forall_mem_cons.mp h
    rw [List.map_cons, List.flatten_cons]
    by_cases hnil : parts = []
    · subst hnil
      simp [unlines_singleton]
    · have hflatten : parts.flatten ≠ [] := by
        obtain ⟨first, hfirst⟩ := List.exists_mem_of_ne_nil _ hnil
        exact List.flatten_ne_nil_iff.mpr ⟨first, hfirst, hparts first hfirst⟩
      rw [unlines_cons _ (by simpa using hnil), ih hparts, unlines_append hpart hflatten]

theorem unlines_pages {k : Nat} (hk : 1 ≤ k) (ls : List Text) :
    unlines ((pages k ls).map unlines) = unlines ls := by
  rw [unlines_flatten, flatten_pages hk]
  intro part hpart
  obtain ⟨i, hi, rfl⟩ := List.mem_map.mp hpart
  exact page_ne_nil hk (List.mem_range.mp hi)

end GrantFs.Text
