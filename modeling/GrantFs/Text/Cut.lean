import GrantFs.Text

/-! # First occurrences

A text is cut at the first occurrence of a word, if there is one. The cut is described by the two
parts it leaves, of which there is one pair only.
-/
namespace GrantFs

namespace Text

variable {word t before after : Text}

theorem stripStart?_eq_none : stripStart? word t = none ↔ ¬ word <+: t := by
  constructor
  · rintro h ⟨rest, hrest⟩
    rw [stripStart?_eq_some.mpr hrest.symm] at h
    cases h
  · intro h
    cases hstrip : stripStart? word t with
    | none => rfl
    | some rest => exact absurd ⟨rest, (stripStart?_eq_some.mp hstrip).symm⟩ h

structure FirstCut (word t before after : Text) : Prop where
  split : t = before ++ word ++ after
  first : ∀ {other rest : Text}, t = other ++ word ++ rest → before <+: other

theorem FirstCut.unique {before' after' : Text} (h : FirstCut word t before after)
    (h' : FirstCut word t before' after') : before = before' ∧ after = after' := by
  have hbefore : before = before' :=
    List.IsPrefix.eq_of_length_le (h.first h'.split) (h'.first h.split).length_le
  subst hbefore
  have heq := h.split.symm.trans h'.split
  exact ⟨rfl, List.append_cancel_left heq⟩

theorem FirstCut.of_strip {rest : Text} (h : stripStart? word t = some rest) :
    FirstCut word t [] rest :=
  ⟨stripStart?_eq_some.mp h, fun _ => List.nil_prefix⟩

theorem FirstCut.cons {c : Char} (h : FirstCut word t before after) (hstart : ¬ word <+: c :: t) :
    FirstCut word (c :: t) (c :: before) after := by
  refine ⟨by rw [h.split]; rfl, fun {other rest} heq => ?_⟩
  cases other with
  | nil => exact absurd ⟨rest, heq.symm⟩ hstart
  | cons d other =>
    obtain ⟨rfl, htail⟩ := List.cons.inj heq
    exact List.cons_prefix_cons.mpr ⟨rfl, h.first htail⟩

theorem cutAt?_cases (word t : Text) :
    (cutAt? word t = none ∧ ¬ word <:+: t) ∨
      ∃ before after, cutAt? word t = some (before, after) ∧ FirstCut word t before after := by
  induction t with
  | nil =>
    rw [cutAt?]
    cases hstrip : stripStart? word [] with
    | none =>
      refine .inl ⟨rfl, fun hinfix => stripStart?_eq_none.mp hstrip ?_⟩
      exact List.infix_nil.mp hinfix ▸ List.nil_prefix
    | some rest => exact .inr ⟨[], rest, rfl, .of_strip hstrip⟩
  | cons c t ih =>
    rw [cutAt?]
    cases hstrip : stripStart? word (c :: t) with
    | some rest => exact .inr ⟨[], rest, rfl, .of_strip hstrip⟩
    | none =>
      have hstart := stripStart?_eq_none.mp hstrip
      rcases ih with ⟨hnone, habsent⟩ | ⟨before, after, hcut, hfirst⟩
      · rw [hnone]
        exact .inl ⟨rfl, fun hinfix => (List.infix_cons_iff.mp hinfix).elim hstart habsent⟩
      · rw [hcut]
        exact .inr ⟨c :: before, after, rfl, hfirst.cons hstart⟩

theorem FirstCut.infix (h : FirstCut word t before after) : word <:+: t :=
  ⟨before, after, h.split.symm⟩

end Text

end GrantFs
