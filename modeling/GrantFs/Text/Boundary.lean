import GrantFs.Text

/-! # Places between characters

A place in a text is counted in bytes. Main statements: a boundary is where a beginning of the text
ends, and the way on from any place within the text meets a boundary and passes none.
-/
namespace GrantFs.Text

variable {t before after : Text} {c : Char} {n m : Nat}

/-- The characters behind those that begin within the first `n` bytes. -/
def dropBytes : (n : Nat) → Text → Text
  | 0, t => t
  | _ + 1, [] => []
  | n + 1, c :: rest => dropBytes (n + 1 - c.utf8Size) rest

/-- The boundary that is met first on the way on from `n`, if one is met within `left` bytes. -/
def boundaryOn (t : Text) : (left n : Nat) → Nat
  | 0, n => n
  | left + 1, n => if isBoundary t n then n else boundaryOn t left (n + 1)

/-- The way on ends at the first boundary, or behind the end of the text. -/
def nextBoundary (t : Text) (n : Nat) : Nat := boundaryOn t (byteSize t - n) n

theorem byteSize_cons (c : Char) (t : Text) : byteSize (c :: t) = c.utf8Size + byteSize t := rfl

theorem byteSize_append (s t : Text) : byteSize (s ++ t) = byteSize s + byteSize t := by
  induction s with
  | nil => exact (Nat.zero_add _).symm
  | cons c s ih => rw [List.cons_append, byteSize_cons, byteSize_cons, ih, Nat.add_assoc]

theorem byteSize_eq_zero : byteSize t = 0 ↔ t = [] := by
  cases t with
  | nil => exact iff_of_true rfl rfl
  | cons c t =>
    have hc := c.utf8Size_pos
    rw [byteSize_cons]
    exact iff_of_false (by omega) (by simp)

theorem byteSize_mono (h : before <+: t) : byteSize before ≤ byteSize t := by
  obtain ⟨after, rfl⟩ := h
  rw [byteSize_append]
  exact Nat.le_add_right ..

theorem isBoundary_zero (t : Text) : isBoundary t 0 = true := by
  cases t <;> rfl

theorem isBoundary_cons (c : Char) (t : Text) (hn : 0 < n) :
    isBoundary (c :: t) n = (c.utf8Size ≤ n && isBoundary t (n - c.utf8Size)) := by
  cases n with
  | zero => cases hn
  | succ n => rfl

/-- A boundary is where a beginning of the text ends. -/
theorem isBoundary_iff : isBoundary t n = true ↔ ∃ before, before <+: t ∧ byteSize before = n := by
  induction t generalizing n with
  | nil =>
    constructor
    · intro h
      cases n with
      | zero => exact ⟨[], List.nil_prefix, rfl⟩
      | succ n => cases h
    · rintro ⟨before, hbefore, rfl⟩
      rw [List.prefix_nil.mp hbefore]
      rfl
  | cons c t ih =>
    by_cases hn : n = 0
    · subst hn
      exact iff_of_true (isBoundary_zero _) ⟨[], List.nil_prefix, rfl⟩
    · rw [isBoundary_cons c t (Nat.pos_of_ne_zero hn), Bool.and_eq_true, decide_eq_true_eq, ih]
      constructor
      · rintro ⟨hc, before, hbefore, hsize⟩
        refine ⟨c :: before, List.cons_prefix_cons.mpr ⟨rfl, hbefore⟩, ?_⟩
        rw [byteSize_cons]
        omega
      · rintro ⟨before, hbefore, rfl⟩
        cases before with
        | nil => exact absurd rfl hn
        | cons d before =>
          obtain ⟨rfl, hrest⟩ := List.cons_prefix_cons.mp hbefore
          rw [byteSize_cons]
          exact ⟨Nat.le_add_right .., before, hrest, (Nat.add_sub_cancel_left ..).symm⟩

theorem isBoundary_of_beginning (h : before <+: t) : isBoundary t (byteSize before) = true :=
  isBoundary_iff.mpr ⟨before, h, rfl⟩

theorem isBoundary_byteSize (t : Text) : isBoundary t (byteSize t) = true :=
  isBoundary_of_beginning (List.prefix_refl t)

theorem le_of_isBoundary (h : isBoundary t n = true) : n ≤ byteSize t := by
  obtain ⟨before, hbefore, rfl⟩ := isBoundary_iff.mp h
  exact byteSize_mono hbefore

theorem exists_split_of_isBoundary (h : isBoundary t n = true) :
    ∃ before after, t = before ++ after ∧ n = byteSize before := by
  obtain ⟨before, ⟨after, hafter⟩, hsize⟩ := isBoundary_iff.mp h
  exact ⟨before, after, hafter.symm, hsize.symm⟩

theorem prefix_of_byteSize_le {s s' : Text} (hs : s <+: t) (hs' : s' <+: t)
    (hle : byteSize s ≤ byteSize s') : s <+: s' := by
  rcases List.prefix_or_prefix_of_prefix hs hs' with h | ⟨more, hmore⟩
  · exact h
  · rw [← hmore, byteSize_append] at hle
    have hnil : more = [] := byteSize_eq_zero.mp (by omega)
    exact ⟨[], by rw [← hmore, hnil, List.append_nil, List.append_nil]⟩

/-- Within a character there is no boundary. -/
theorem isBoundary_le_of_lt (hn : isBoundary (before ++ c :: after) n = true)
    (hlt : byteSize before < n) : byteSize (before ++ [c]) ≤ n := by
  obtain ⟨other, hother, rfl⟩ := isBoundary_iff.mp hn
  have hlonger : before <+: other :=
    prefix_of_byteSize_le (List.prefix_append ..) hother (Nat.le_of_lt hlt)
  obtain ⟨more, rfl⟩ := hlonger
  rw [List.prefix_append_right_inj] at hother
  cases more with
  | nil =>
    rw [List.append_nil] at hlt
    exact absurd hlt (Nat.lt_irrefl _)
  | cons d more =>
    obtain ⟨rfl, -⟩ := List.cons_prefix_cons.mp hother
    apply byteSize_mono
    rw [List.prefix_append_right_inj, List.cons_prefix_cons]
    exact ⟨rfl, List.nil_prefix⟩

theorem truncate_byteSize (before after : Text) :
    truncate (byteSize before) (before ++ after) = before := by
  induction before with
  | nil => rw [byteSize_eq_zero.mpr rfl, truncate]
  | cons c before ih =>
    obtain ⟨n, hn⟩ : ∃ n, byteSize (c :: before) = n + 1 :=
      Nat.exists_eq_add_one_of_ne_zero (by simp [byteSize_eq_zero])
    rw [hn, List.cons_append, truncate, ← hn, byteSize_cons, Nat.add_sub_cancel_left, ih]

theorem dropBytes_byteSize (before after : Text) :
    dropBytes (byteSize before) (before ++ after) = after := by
  induction before with
  | nil => rw [byteSize_eq_zero.mpr rfl, dropBytes, List.nil_append]
  | cons c before ih =>
    obtain ⟨n, hn⟩ : ∃ n, byteSize (c :: before) = n + 1 :=
      Nat.exists_eq_add_one_of_ne_zero (by simp [byteSize_eq_zero])
    rw [hn, List.cons_append, dropBytes, ← hn, byteSize_cons, Nat.add_sub_cancel_left, ih]

theorem length_dropBytes_lt (hn : isBoundary t n = true) (hm : isBoundary t m = true)
    (hlt : n < m) : (dropBytes m t).length < (dropBytes n t).length := by
  obtain ⟨before, after, rfl, rfl⟩ := exists_split_of_isBoundary hn
  obtain ⟨longer, hlonger, rfl⟩ := isBoundary_iff.mp hm
  obtain ⟨more, rfl⟩ :=
    prefix_of_byteSize_le (List.prefix_append before after) hlonger (Nat.le_of_lt hlt)
  obtain ⟨rest, rfl⟩ := (List.prefix_append_right_inj before).mp hlonger
  have hmore : more ≠ [] := by
    rintro rfl
    rw [List.append_nil] at hlt
    exact Nat.lt_irrefl _ hlt
  rw [dropBytes_byteSize, ← List.append_assoc, dropBytes_byteSize, List.length_append]
  exact Nat.lt_add_of_pos_left (List.length_pos_iff.mpr hmore)

theorem boundaryOn_spec {left : Nat} (h : n + left = byteSize t) :
    n ≤ boundaryOn t left n ∧ isBoundary t (boundaryOn t left n) = true ∧
      ∀ k, n ≤ k → k < boundaryOn t left n → isBoundary t k = false := by
  induction left generalizing n with
  | zero =>
    obtain rfl : n = byteSize t := h
    refine ⟨Nat.le_refl _, isBoundary_byteSize t, fun k hle hlt => ?_⟩
    exact absurd (Nat.lt_of_le_of_lt hle hlt) (Nat.lt_irrefl _)
  | succ left ih =>
    rw [boundaryOn]
    by_cases hboundary : isBoundary t n = true
    · rw [if_pos hboundary]
      refine ⟨Nat.le_refl _, hboundary, fun k hle hlt => ?_⟩
      exact absurd (Nat.lt_of_le_of_lt hle hlt) (Nat.lt_irrefl _)
    · rw [if_neg hboundary]
      obtain ⟨hle, hnext, hpassed⟩ := ih (n := n + 1) (by omega)
      refine ⟨Nat.le_of_succ_le hle, hnext, fun k hk hlt => ?_⟩
      rcases Nat.eq_or_lt_of_le hk with rfl | hk
      · exact Bool.eq_false_iff.mpr hboundary
      · exact hpassed k hk hlt

theorem nextBoundary_of_le (h : n ≤ byteSize t) :
    n ≤ nextBoundary t n ∧ isBoundary t (nextBoundary t n) = true ∧
      ∀ k, n ≤ k → k < nextBoundary t n → isBoundary t k = false :=
  boundaryOn_spec (Nat.add_sub_of_le h)

theorem nextBoundary_of_lt (h : byteSize t < n) : nextBoundary t n = n := by
  rw [nextBoundary, Nat.sub_eq_zero_of_le (Nat.le_of_lt h), boundaryOn]

theorem le_nextBoundary (t : Text) (n : Nat) : n ≤ nextBoundary t n := by
  rcases Nat.lt_or_ge (byteSize t) n with h | h
  · exact Nat.le_of_eq (nextBoundary_of_lt h).symm
  · exact (nextBoundary_of_le h).1

theorem nextBoundary_of_isBoundary (h : isBoundary t n = true) : nextBoundary t n = n := by
  obtain ⟨hle, -, hpassed⟩ := nextBoundary_of_le (le_of_isBoundary h)
  rcases Nat.eq_or_lt_of_le hle with heq | hlt
  · exact heq.symm
  · rw [hpassed n (Nat.le_refl n) hlt] at h
    cases h

theorem nextBoundary_le (h : isBoundary t m = true) (hle : n ≤ m) : nextBoundary t n ≤ m := by
  obtain ⟨-, -, hpassed⟩ := nextBoundary_of_le (Nat.le_trans hle (le_of_isBoundary h))
  rcases Nat.lt_or_ge m (nextBoundary t n) with hlt | hge
  · rw [hpassed m hle hlt] at h
    cases h
  · exact hge

theorem nextBoundary_succ (before after : Text) (c : Char) :
    nextBoundary (before ++ c :: after) (byteSize before + 1) = byteSize (before ++ [c]) := by
  have hsize : byteSize (before ++ [c]) = byteSize before + c.utf8Size := byteSize_append before [c]
  have hc := c.utf8Size_pos
  have hnext : before ++ [c] <+: before ++ c :: after :=
    (List.prefix_append_right_inj before).mpr (List.prefix_append [c] after)
  have hle : byteSize before + 1 ≤ byteSize (before ++ [c]) := by omega
  have hboundary := (nextBoundary_of_le (Nat.le_trans hle (byteSize_mono hnext))).2.1
  apply Nat.le_antisymm
  · exact nextBoundary_le (isBoundary_of_beginning hnext) hle
  · exact isBoundary_le_of_lt hboundary (le_nextBoundary _ _)

end GrantFs.Text
