import GrantFs.Fault
import Mathlib.Data.List.TakeWhile

/-! # Reading paths

A text is read as a path if and only if it has no flaw, and then it is the text of the path. A path
taken as a directory ends in a slash, and every path is its name behind such a path. -/
namespace GrantFs.Path

theorem ofText_text (p : Path) : ofText p.text = .ok p := by
  have hsound := p.sound
  unfold ofText
  split
  next => rfl
  next flaw hflaw => simp [hflaw] at hsound

theorem ofText_eq_ok {t : Text} {p : Path} : ofText t = .ok p ↔ p.text = t := by
  constructor
  · intro h
    unfold ofText at h
    split at h
    · cases h
      rfl
    · cases h
  · rintro rfl
    exact ofText_text p

theorem parse_text (p : Path) : parse p.text = .ok p := by
  rw [parse, ofText_text]

theorem parse_of_flaw {t : Text} {why : PathFlaw} (h : flaw? t = some why) :
    parse t = .error (.invalidPath t why) := by
  have hread : ofText t = .error why := by
    unfold ofText
    split <;> simp_all
  rw [parse, hread]

theorem parse_of_sound {t : Text} (h : flaw? t = none) : parse t = .ok ⟨t, h⟩ := parse_text ⟨t, h⟩

theorem text_of_parse {t : Text} {p : Path} (h : parse t = .ok p) : p.text = t := by
  cases hflaw : flaw? t with
  | none =>
    rw [parse_of_sound hflaw] at h
    cases h
    rfl
  | some why => simp [parse_of_flaw hflaw] at h

theorem text_ne_nil (p : Path) : p.text ≠ [] := by
  intro hnil
  have hhead := (flaw?_eq_none_iff.mp p.sound).1
  rw [hnil] at hhead
  cases hhead

theorem flaw?_of_prefix {p : Path} {start : Text} (h : start <+: p.text) (hne : start ≠ []) :
    flaw? start = none := by
  obtain ⟨habsolute, hplain, hfree⟩ := flaw?_eq_none_iff.mp p.sound
  obtain ⟨c, rest, rfl⟩ := List.exists_cons_of_ne_nil hne
  refine flaw?_eq_none_iff.mpr ⟨?_, ?_, ?_⟩
  · obtain ⟨more, hmore⟩ := h
    rw [← hmore] at habsolute
    exact habsolute
  · intro c' hc
    exact hplain c' (h.subset hc)
  · intro word hword hinside
    exact hfree word hword (hinside.trans h.isInfix)

theorem text_asDir (p : Path) :
    p.asDir.text = if p.isDirLike then p.text else p.text ++ ['/'] := by
  simp only [asDir, isDirLike, decide_eq_true_eq]
  split <;> rfl

theorem isDirLike_asDir (p : Path) : p.asDir.isDirLike = true := by
  rw [isDirLike, decide_eq_true_eq, asDir]
  split
  next h => exact h
  next => exact List.getLast?_concat

theorem asDir_of_isDirLike {p : Path} (h : p.isDirLike = true) : p.asDir = p := by
  rw [isDirLike, decide_eq_true_eq] at h
  rw [asDir, dif_pos h]

theorem join_eq_ok {p q : Path} {rest : Text} :
    p.join rest = .ok q ↔ q.text = p.asDir.text ++ rest.dropWhile (· = '/') := by
  constructor
  · exact text_of_parse
  · intro h
    rw [join, ← h, parse_text]

/-- Below a directory no slashes meet in a path that does not end in one, at the ends of what is
below neither. -/
theorem slashes_apart {dir path : Path} {below : Text} (hdir : dir.isDirLike = true)
    (hfile : path.isDirLike = false) (h : path.text = dir.text ++ below) :
    ¬ ['/', '/'] <:+: '/' :: (below ++ ['/']) := by
  rw [isDirLike, decide_eq_true_eq] at hdir
  rw [isDirLike, decide_eq_false_iff_not] at hfile
  obtain ⟨before, hbefore⟩ := List.getLast?_eq_some_iff.mp hdir
  obtain ⟨-, -, hfree⟩ := flaw?_eq_none_iff.mp (flaw?_append_slash path.sound hfile)
  intro hmeet
  apply hfree ['/', '/'] (by decide)
  have htext : path.text ++ ['/'] = before ++ '/' :: (below ++ ['/']) := by
    rw [h, hbefore]
    simp
  rw [htext]
  exact hmeet.trans (List.suffix_append before _).isInfix

theorem exists_parent (p : Path) :
    ∃ dir : Path, dir.text ++ p.name = p.text ∧ dir.isDirLike = true ∧ '/' ∉ p.name := by
  have hname : '/' ∉ p.name := by
    intro hslash
    rw [name, List.mem_reverse] at hslash
    simpa using List.mem_takeWhile_imp hslash
  have hslash : '/' ∈ p.text.reverse := by
    have hhead := (flaw?_eq_none_iff.mp p.sound).1
    exact List.mem_reverse.mpr (List.mem_of_head? hhead)
  obtain ⟨c, above, habove⟩ : ∃ c above, p.text.reverse.dropWhile (· ≠ '/') = c :: above := by
    refine List.exists_cons_of_ne_nil fun hnil => ?_
    simpa using List.dropWhile_eq_nil_iff.mp hnil '/' hslash
  have hc : c = '/' := by
    have hfirst := List.head?_dropWhile_not (· ≠ '/') p.text.reverse
    rw [habove] at hfirst
    simpa using hfirst
  subst hc
  have hsplit : above.reverse ++ ['/'] ++ p.name = p.text := by
    rw [← List.reverse_cons, ← habove, name, ← List.reverse_append, List.takeWhile_append_dropWhile,
      List.reverse_reverse]
  have hsound : flaw? (above.reverse ++ ['/']) = none :=
    flaw?_of_prefix ⟨p.name, hsplit⟩ (by simp)
  exact ⟨⟨above.reverse ++ ['/'], hsound⟩, hsplit, by simp [isDirLike], hname⟩

end GrantFs.Path
