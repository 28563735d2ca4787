import GrantFs.Edit
import GrantFs.Text.Cut

/-! # Edits one after the other

Main statements: an edit replaces the first occurrence of its old text, edits in a row are applied
each to the text that those before it leave, and the report of a failure names the first edit that
cannot be applied. -/
namespace GrantFs

namespace Edit

variable {e : Edit} {edits more : List Edit} {content next result : Text} {i : Nat} {why : Fault}

def Fits (e : Edit) (content : Text) : Prop := e.oldText ≠ [] ∧ e.oldText <:+: content

/-- The first occurrence of the old text is replaced by the new one. -/
def Replaces (e : Edit) (content result : Text) : Prop :=
  e.oldText ≠ [] ∧ ∃ before after, Text.FirstCut e.oldText content before after ∧
    result = before ++ e.newText ++ after

/-- Why the edit in place `i` cannot be applied. A text that does not occur is quoted. -/
def refusal (i : Nat) (e : Edit) : Fault :=
  .invalidArgument (label i) (if e.oldText = [] then none else some (preview e.oldText))

theorem apply_cases (i : Nat) (e : Edit) (content : Text) :
    (apply i e content = .error (refusal i e) ∧ ¬ e.Fits content) ∨
      ∃ result, apply i e content = .ok result ∧ e.Fits content ∧ e.Replaces content result := by
  rw [apply, refusal]
  by_cases hempty : e.oldText = []
  · rw [if_pos (List.isEmpty_iff.mpr hempty), if_pos hempty]
    exact .inl ⟨rfl, fun hfits => hfits.1 hempty⟩
  · rw [if_neg (fun h => hempty (List.isEmpty_iff.mp h)), if_neg hempty]
    rcases Text.cutAt?_cases e.oldText content with
      ⟨hcut, habsent⟩ | ⟨before, after, hcut, hfirst⟩
    · rw [hcut]
      exact .inl ⟨rfl, fun hfits => habsent hfits.2⟩
    · rw [hcut]
      exact .inr ⟨_, rfl, ⟨hempty, hfirst.infix⟩, hempty, before, after, hfirst, rfl⟩

theorem Replaces.unique {result' : Text} (h : e.Replaces content result)
    (h' : e.Replaces content result') : result = result' := by
  obtain ⟨-, before, after, hfirst, rfl⟩ := h
  obtain ⟨-, before', after', hfirst', rfl⟩ := h'
  obtain ⟨rfl, rfl⟩ := hfirst.unique hfirst'
  rfl

theorem Replaces.fits (h : e.Replaces content result) : e.Fits content := by
  obtain ⟨hne, before, after, hfirst, -⟩ := h
  exact ⟨hne, hfirst.infix⟩

theorem apply_eq_ok : apply i e content = .ok result ↔ e.Replaces content result := by
  rcases apply_cases i e content with ⟨hrefused, hfits⟩ | ⟨result', hdone, -, hreplaces⟩
  · rw [hrefused]
    exact iff_of_false (by simp) fun h => hfits h.fits
  · rw [hdone, Except.ok.injEq]
    constructor
    · rintro rfl
      exact hreplaces
    · exact hreplaces.unique

theorem apply_eq_error :
    apply i e content = .error why ↔ ¬ e.Fits content ∧ why = refusal i e := by
  rcases apply_cases i e content with ⟨hrefused, hfits⟩ | ⟨result, hdone, hfits, -⟩
  · rw [hrefused, Except.error.injEq, and_iff_right hfits, eq_comm]
  · rw [hdone]
    exact iff_of_false (by simp) fun h => h.1 hfits

inductive Applied : List Edit → Text → Text → Prop where
  | nil {content : Text} : Applied [] content content
  | cons {e : Edit} {rest : List Edit} {content next result : Text} :
      e.Replaces content next → Applied rest next result → Applied (e :: rest) content result

theorem applyFrom_cons_of_ok {rest : List Edit} (h : apply i e content = .ok next) :
    applyFrom i (e :: rest) content = applyFrom (i + 1) rest next := by
  rw [applyFrom, h]
  rfl

theorem applyFrom_cons_of_error {rest : List Edit} (h : apply i e content = .error why) :
    applyFrom i (e :: rest) content = .error why := by
  rw [applyFrom, h]
  rfl

theorem applyFrom_append_of_ok (h : applyFrom i edits content = .ok next) (more : List Edit) :
    applyFrom i (edits ++ more) content = applyFrom (i + edits.length) more next := by
  induction edits generalizing i content with
  | nil =>
    cases h
    rfl
  | cons e rest ih =>
    cases happly : apply i e content with
    | error why =>
      rw [applyFrom_cons_of_error happly] at h
      cases h
    | ok after =>
      rw [applyFrom_cons_of_ok happly] at h
      rw [List.cons_append, applyFrom_cons_of_ok happly, ih h, List.length_cons, Nat.add_assoc,
        Nat.add_comm 1]

theorem applyFrom_append_of_error (h : applyFrom i edits content = .error why)
    (more : List Edit) : applyFrom i (edits ++ more) content = .error why := by
  induction edits generalizing i content with
  | nil => cases h
  | cons e rest ih =>
    cases happly : apply i e content with
    | error first =>
      rw [applyFrom_cons_of_error happly] at h
      rw [List.cons_append, applyFrom_cons_of_error happly, h]
    | ok after =>
      rw [applyFrom_cons_of_ok happly] at h
      rw [List.cons_append, applyFrom_cons_of_ok happly, ih h]

theorem applyFrom_eq_ok :
    applyFrom i edits content = .ok result ↔ Applied edits content result := by
  induction edits generalizing i content with
  | nil =>
    rw [applyFrom, Except.ok.injEq]
    constructor
    · rintro rfl
      exact .nil
    · rintro ⟨⟩
      rfl
  | cons e rest ih =>
    constructor
    · intro h
      cases happly : apply i e content with
      | error why =>
        rw [applyFrom_cons_of_error happly] at h
        cases h
      | ok next =>
        rw [applyFrom_cons_of_ok happly] at h
        exact .cons (apply_eq_ok.mp happly) (ih.mp h)
    · rintro (_ | ⟨hreplaces, hrest⟩)
      rw [applyFrom_cons_of_ok (apply_eq_ok.mpr hreplaces)]
      exact ih.mpr hrest

theorem applyFrom_eq_error : applyFrom i edits content = .error why ↔
    ∃ done e rest next, edits = done ++ e :: rest ∧ Applied done content next ∧ ¬ e.Fits next ∧
      why = refusal (i + done.length) e := by
  constructor
  · intro h
    induction edits generalizing i content with
    | nil => cases h
    | cons e rest ih =>
      cases happly : apply i e content with
      | error first =>
        rw [applyFrom_cons_of_error happly] at h
        cases h
        obtain ⟨hfits, rfl⟩ := apply_eq_error.mp happly
        exact ⟨[], e, rest, content, rfl, .nil, hfits, rfl⟩
      | ok after =>
        rw [applyFrom_cons_of_ok happly] at h
        obtain ⟨done, failing, behind, next, rfl, hdone, hfits, rfl⟩ := ih h
        have happlied : Applied (e :: done) content next := .cons (apply_eq_ok.mp happly) hdone
        refine ⟨e :: done, failing, behind, next, rfl, happlied, hfits, ?_⟩
        rw [List.length_cons, Nat.add_assoc, Nat.add_comm 1]
  · rintro ⟨done, e, rest, next, rfl, hdone, hfits, rfl⟩
    rw [applyFrom_append_of_ok (applyFrom_eq_ok.mpr hdone)]
    exact applyFrom_cons_of_error (apply_eq_error.mpr ⟨hfits, rfl⟩)

theorem label_injective : Function.Injective label := by
  intro i j h
  have hdecimal : Text.decimal i = Text.decimal j :=
    List.append_cancel_left (List.append_cancel_right h)
  rw [← Nat.ofDigitChars_ten_toDigits (n := i), ← Nat.ofDigitChars_ten_toDigits (n := j)]
  exact congrArg (Nat.ofDigitChars 10 · 0) hdecimal

/-- Two outcomes that agree, except that the place which is reported is `n` further on. -/
inductive Raised (n : Nat) : Except Fault Text → Except Fault Text → Prop where
  | ok (result : Text) : Raised n (.ok result) (.ok result)
  | error (i : Nat) (value : Option Text) :
      Raised n (.error (.invalidArgument (label i) value))
        (.error (.invalidArgument (label (n + i)) value))

theorem applyFrom_raised (n i : Nat) (edits : List Edit) (content : Text) :
    Raised n (applyFrom i edits content) (applyFrom (n + i) edits content) := by
  cases happly : applyFrom i edits content with
  | ok result =>
    rw [applyFrom_eq_ok.mpr (applyFrom_eq_ok.mp happly)]
    exact .ok result
  | error why =>
    obtain ⟨done, e, rest, next, hedits, hdone, hfits, rfl⟩ := applyFrom_eq_error.mp happly
    rw [applyFrom_eq_error.mpr ⟨done, e, rest, next, hedits, hdone, hfits, rfl⟩, Nat.add_assoc]
    exact .error _ _

theorem applyAll_of_ne_nil (h : edits ≠ []) (content : Text) :
    applyAll edits content = applyFrom 0 edits content :=
  if_neg fun hempty => h (List.isEmpty_iff.mp hempty)

theorem applyAll_singleton (e : Edit) (content : Text) :
    applyAll [e] content = apply 0 e content := by
  rw [applyAll_of_ne_nil (List.cons_ne_nil e []), applyFrom]
  cases apply 0 e content <;> rfl

theorem applyAll_append_of_ok (hedits : edits ≠ []) (hmore : more ≠ [])
    (h : applyAll edits content = .ok next) :
    Raised edits.length (applyAll more next) (applyAll (edits ++ more) content) := by
  rw [applyAll_of_ne_nil hedits] at h
  rw [applyAll_of_ne_nil (List.append_ne_nil_of_left_ne_nil hedits more),
    applyFrom_append_of_ok h, applyAll_of_ne_nil hmore, Nat.zero_add]
  exact applyFrom_raised edits.length 0 more next

theorem applyAll_append_of_error (hedits : edits ≠ []) (h : applyAll edits content = .error why) :
    applyAll (edits ++ more) content = .error why := by
  rw [applyAll_of_ne_nil hedits] at h
  rw [applyAll_of_ne_nil (List.append_ne_nil_of_left_ne_nil hedits more)]
  exact applyFrom_append_of_error h more

theorem applyAll_eq_ok :
    applyAll edits content = .ok result ↔ edits ≠ [] ∧ Applied edits content result := by
  by_cases hedits : edits = []
  · subst hedits
    exact iff_of_false (by simp [applyAll]) fun h => h.1 rfl
  · rw [applyAll_of_ne_nil hedits, applyFrom_eq_ok, and_iff_right hedits]

theorem applyAll_eq_error : applyAll edits content = .error why ↔
    (edits = [] ∧ why = .invalidArgument "edits" none) ∨
      ∃ done e rest next, edits = done ++ e :: rest ∧ Applied done content next ∧ ¬ e.Fits next ∧
        why = refusal done.length e := by
  by_cases hedits : edits = []
  · subst hedits
    simp [applyAll, eq_comm]
  · rw [applyAll_of_ne_nil hedits, applyFrom_eq_error]
    simp only [hedits, false_and, false_or, Nat.zero_add]

theorem Applied.unique {result' : Text} (h : Applied edits content result)
    (h' : Applied edits content result') : result = result' := by
  have hok := (applyFrom_eq_ok (i := 0)).mpr h
  rw [applyFrom_eq_ok.mpr h'] at hok
  exact (Except.ok.inj hok).symm

theorem Applied.split {done rest : List Edit} (h : Applied (done ++ rest) content result) :
    ∃ next, Applied done content next ∧ Applied rest next result := by
  induction done generalizing content with
  | nil => exact ⟨content, .nil, h⟩
  | cons e done ih =>
    cases h with
    | cons hreplaces hrest =>
      obtain ⟨next, hdone, hrest⟩ := ih hrest
      exact ⟨next, .cons hreplaces hdone, hrest⟩

theorem exists_applyAll_eq_ok : (∃ result, applyAll edits content = .ok result) ↔
    edits ≠ [] ∧ ∀ done e rest, edits = done ++ e :: rest →
      ∃ next, Applied done content next ∧ e.Fits next := by
  constructor
  · rintro ⟨result, h⟩
    obtain ⟨hne, happlied⟩ := applyAll_eq_ok.mp h
    refine ⟨hne, ?_⟩
    rintro done e rest rfl
    obtain ⟨next, hdone, hrest⟩ := happlied.split
    cases hrest with
    | cons hreplaces _ => exact ⟨next, hdone, hreplaces.fits⟩
  · rintro ⟨hne, hfit⟩
    cases happly : applyAll edits content with
    | ok result => exact ⟨result, rfl⟩
    | error why =>
      rcases applyAll_eq_error.mp happly with
        ⟨hnil, -⟩ | ⟨done, e, rest, next, hedits, hdone, hno, -⟩
      · exact absurd hnil hne
      · obtain ⟨next', hdone', hfits⟩ := hfit done e rest hedits
        rw [hdone'.unique hdone] at hfits
        exact absurd hfits hno

/-- Two lists of edits in a row are one list: what the second one does to the text that the first
one leaves, with the place of a failure counted from the start of both. One edit replaces the first
occurrence of its old text. A list fails only by an edit that does not fit the text which those
before it leave, and the report names the place of the first such edit. -/
theorem edits_compose (content : Text) :
    (∀ edits more, edits ≠ [] → more ≠ [] →
      (∀ next, applyAll edits content = .ok next →
        Raised edits.length (applyAll more next) (applyAll (edits ++ more) content)) ∧
      ∀ why, applyAll edits content = .error why →
        applyAll (edits ++ more) content = .error why) ∧
    (∀ e : Edit, ((∃ result, applyAll [e] content = .ok result) ↔
        e.oldText ≠ [] ∧ e.oldText <:+: content) ∧
      ∀ result, applyAll [e] content = .ok result → ∃ before after,
        Text.FirstCut e.oldText content before after ∧ result = before ++ e.newText ++ after) ∧
    (∀ edits, (∃ result, applyAll edits content = .ok result) ↔
      edits ≠ [] ∧ ∀ done e rest, edits = done ++ e :: rest →
        ∃ next, Applied done content next ∧ e.oldText ≠ [] ∧ e.oldText <:+: next) ∧
    (∀ edits why, applyAll edits content = .error why ↔
      (edits = [] ∧ why = .invalidArgument "edits" none) ∨
        ∃ done e rest next, edits = done ++ e :: rest ∧ Applied done content next ∧
          ¬ (e.oldText ≠ [] ∧ e.oldText <:+: next) ∧ why = refusal done.length e) ∧
    Function.Injective label := by
  refine ⟨fun edits more hedits hmore => ?_, fun e => ?_, fun edits => exists_applyAll_eq_ok,
    fun edits why => applyAll_eq_error, label_injective⟩
  · exact ⟨fun next => applyAll_append_of_ok hedits hmore,
      fun why => applyAll_append_of_error hedits⟩
  · rw [applyAll_singleton]
    rcases apply_cases 0 e content with ⟨hrefused, hfits⟩ | ⟨result, hdone, hfits, -, hreplaced⟩
    · rw [hrefused]
      exact ⟨iff_of_false (by simp) hfits, fun result h => by cases h⟩
    · rw [hdone]
      refine ⟨iff_of_true ⟨result, rfl⟩ hfits, fun result' h => ?_⟩
      cases h
      exact hreplaced

/-- The second edit finds what the first one made. One that no longer finds its text is reported in
the second place. -/
theorem two_edits_compose :
    let first : Edit := ⟨"a", "b"⟩
    applyAll ([first] ++ [⟨"bb", "c"⟩]) "ab" = .ok "c" ∧
      applyAll ([first] ++ [⟨"a", "c"⟩]) "ab" =
        .error (.invalidArgument "edits[1].oldText" (some "a")) := by
  intro first
  obtain ⟨hcompose, -, -, -, hlabel⟩ := edits_compose "ab"
  have hfirst : applyAll [first] "ab" = .ok "bb" := rfl
  constructor
  · have hraised := (hcompose [first] [⟨"bb", "c"⟩] (by decide) (by decide)).1 "bb" hfirst
    have hdone : applyAll [⟨"bb", "c"⟩] "bb" = .ok "c" := rfl
    rw [hdone] at hraised
    generalize applyAll ([first] ++ [⟨"bb", "c"⟩]) "ab" = reply at hraised
    cases hraised
    rfl
  · have hraised := (hcompose [first] [⟨"a", "c"⟩] (by decide) (by decide)).1 "bb" hfirst
    have hrefused : applyAll [⟨"a", "c"⟩] "bb" =
        .error (.invalidArgument (label 0) (some "a")) := rfl
    rw [hrefused] at hraised
    generalize applyAll ([first] ++ [⟨"a", "c"⟩]) "ab" = reply, hplace : label 0 = place at hraised
    cases hraised with
    | error i value =>
      obtain rfl := hlabel hplace
      have hsecond : label 1 = "edits[1].oldText" := by decide
      rw [← hsecond]
      rfl

end Edit
end GrantFs
