import GrantFs.Proofs.OsRun

/-! # Walks

What a walk finds. Main statements: a walk from a directory finds exactly the files below it whose
locations are not too long, and a walk that does not fail starts where something is shown. -/
namespace GrantFs.OsTree

variable {t : OsTree} {root : Text} {dir place q : Place} {names : List Name}
  {files : List WalkedFile} {f : WalkedFile}

/-- What becomes of names whose last link is left alone: the same as with it, or the link itself. -/
theorem go_last (t : OsTree) (dir : Place) (names : List Name) :
    go t false dir names = go t true dir names ∨
      ∃ place target, go t false dir names = .arrived place ∧
        t.get? place = some (.link target) := by
  induction names generalizing dir with
  | nil => exact .inl rfl
  | cons name rest ih =>
    by_cases hdot : name = dot
    · subst hdot
      rw [go_dot, go_dot]
      exact ih dir
    by_cases hdots : name = dotDot
    · subst hdots
      rw [go_dotDot, go_dotDot]
      exact ih dir.dropLast
    by_cases hlong : nameLimit < name.length
    · rw [go_long hlong, go_long hlong]
      exact .inl rfl
    have hname : Ordinary name := ⟨hdot, hdots, Nat.le_of_not_lt hlong⟩
    rw [hname.go, hname.go]
    cases hnode : t.get? (dir ++ [name]) with
    | none => exact .inl rfl
    | some n =>
      cases n with
      | dir => exact ih (dir ++ [name])
      | file content modified => exact .inl rfl
      | link target =>
        by_cases hrest : rest = []
        · exact .inr ⟨dir ++ [name], target, if_pos ⟨hrest, rfl⟩, hnode⟩
        · refine .inl ((if_neg ?_).trans (if_neg ?_).symm)
          · exact fun h => hrest h.1
          · exact fun h => hrest h.1

theorem resolve_last {links : Nat} (h : resolve t false links dir names = .ok place) :
    resolve t true links dir names = .ok place ∨ ∃ target, t.get? place = some (.link target) := by
  induction links using Nat.strong_induction_on generalizing dir names with
  | h links ih =>
    rcases t.go_last dir names with hgo | ⟨p, target, hgo, hlink⟩
    · rcases resolve_eq_ok.mp h with hend | ⟨fewer, at_, target, left, rfl, hlink, hrest⟩
      · exact .inl (resolve_of_arrived (hgo.symm.trans hend) _)
      · rw [resolve_of_link (hgo.symm.trans hlink)]
        exact ih fewer (Nat.lt_succ_self fewer) hrest
    · rw [resolve_of_arrived hgo] at h
      cases h
      exact .inr ⟨target, hlink⟩

/-- A walk from a directory finds the files below it, also if the last name is that of a link. -/
theorem Leads.walk (h : t.Leads names place) : t.walk names = .ok (t.filesBelow place) := by
  obtain ⟨entry, hentry, hsome⟩ := h.exists_entry
  have hsame : (∀ target, t.get? entry ≠ some (.link target)) → entry = place := by
    intro hlink
    have hlocated := (resolve_last hentry).resolve_right fun ⟨target, ht⟩ => hlink target ht
    have hplace : t.locate true names = .ok entry := hlocated
    rw [h.located] at hplace
    cases hplace
    rfl
  cases hnode : t.get? entry with
  | none => exact absurd hnode hsome
  | some n =>
    cases n with
    | dir =>
      obtain rfl := hsame (by simp [hnode])
      simp only [OsTree.walk, bind, Except.bind, hentry, hnode]
      rfl
    | file content modified =>
      obtain rfl := hsame (by simp [hnode])
      rw [h.dir] at hnode
      cases hnode
    | link target =>
      simp only [OsTree.walk, bind, Except.bind, hentry, hnode, h.located, h.dir]
      rfl

/-- How a walk ends that does not fail: it starts in a directory, or it starts at a file, which is
found if no link stands for it. -/
theorem walk_cases (h : t.walk names = .ok files) :
    (∃ place, t.Leads names place ∧ files = t.filesBelow place) ∨
      ∃ place content modified, t.locate true names = .ok place ∧
        t.get? place = some (.file content modified) ∧
        (files = [] ∨ t.locate false names = .ok place ∧
          files = [⟨[], content.length, some modified⟩]) := by
  simp only [walk, bind, Except.bind] at h
  split at h
  next => cases h
  next entry hentry =>
    cases hnode : t.get? entry with
    | none =>
      rw [hnode] at h
      cases h
    | some n =>
      rw [hnode] at h
      cases n with
      | dir =>
        cases h
        refine .inl ⟨entry, ⟨?_, hnode⟩, rfl⟩
        exact (resolve_last hentry).resolve_right (by simp [hnode])
      | file content modified =>
        cases h
        refine .inr ⟨entry, content, modified, ?_, hnode, .inr ⟨hentry, rfl⟩⟩
        exact (resolve_last hentry).resolve_right (by simp [hnode])
      | link target =>
        simp only at h
        split at h
        next => cases h
        next place hplace =>
          cases hbehind : t.get? place with
          | none =>
            rw [hbehind] at h
            cases h
          | some n =>
            rw [hbehind] at h
            cases n with
            | dir =>
              cases h
              exact .inl ⟨place, ⟨hplace, hbehind⟩, rfl⟩
            | file content modified =>
              cases h
              exact .inr ⟨place, content, modified, hplace, hbehind, .inl rfl⟩
            | link target => exact absurd hbehind (resolve_ne_link t.get?_nil hplace target)

theorem walkFrom_of_leads (hfits : checkLocation root = .ok ()) (h : t.Leads (namesOf root) place) :
    t.walkFrom root =
      .ok ((t.filesBelow place).filter fun f => sizeBelow root f.names < locationLimit) := by
  simp only [walkFrom, bind, Except.bind, hfits, h.walk]
  rfl

theorem mem_walkFrom (h : t.walkFrom root = .ok files) :
    ∃ place n, t.Shows root place n ∧ ∀ f ∈ files,
      sizeBelow root f.names < locationLimit ∧
        (n = .dir ∧ f ∈ t.filesBelow place ∨
          ∃ content modified, n = .file content modified ∧
            t.locate false (namesOf root) = .ok place ∧
            f = ⟨[], content.length, some modified⟩) := by
  simp only [walkFrom, bind, Except.bind] at h
  split at h
  next => cases h
  next hfits =>
    split at h
    next => cases h
    next found hwalk =>
      cases h
      rcases walk_cases hwalk with ⟨place, hleads, rfl⟩ |
        ⟨place, content, modified, hlocated, hnode, hfiles⟩
      · refine ⟨place, .dir, ⟨hfits, hleads.located, hleads.dir⟩, fun f hf => ?_⟩
        obtain ⟨hmem, hsize⟩ := List.mem_filter.mp hf
        exact ⟨by simpa using hsize, .inl ⟨rfl, hmem⟩⟩
      · refine ⟨place, _, ⟨hfits, hlocated, hnode⟩, fun f hf => ?_⟩
        obtain ⟨hmem, hsize⟩ := List.mem_filter.mp hf
        refine ⟨by simpa using hsize, .inr ⟨content, modified, rfl, ?_⟩⟩
        rcases hfiles with rfl | ⟨hentry, rfl⟩
        · cases hmem
        · exact ⟨hentry, List.mem_singleton.mp hmem⟩

end GrantFs.OsTree
