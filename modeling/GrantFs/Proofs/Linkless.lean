import GrantFs.Proofs.OsLinks
import GrantFs.Proofs.OsRun

/-! # Trees without links

Without links, names lead where they say, whatever lies there. Main statements: the place of a
directory is computed from its names alone, and the names still lead there in every tree that has
the same nodes on the way. -/
namespace GrantFs.OsTree

variable {t u : OsTree} {dir place q : Place} {names more left : List Name}

/-- Where names lead, if every one of them is that of a directory. -/
def climb (dir : Place) : List Name → Place
  | [] => dir
  | name :: rest =>
    if name = dot then climb dir rest
    else if name = dotDot then climb dir.dropLast rest
    else climb (dir ++ [name]) rest

@[simp] theorem climb_nil (dir : Place) : climb dir [] = dir := rfl

@[simp] theorem climb_dot (dir : Place) (rest : List Name) :
    climb dir (dot :: rest) = climb dir rest := by
  rw [climb, if_pos rfl]

@[simp] theorem climb_dotDot (dir : Place) (rest : List Name) :
    climb dir (dotDot :: rest) = climb dir.dropLast rest := by
  rw [climb, if_neg (by decide), if_pos rfl]

theorem Ordinary.climb {name : Name} (h : Ordinary name) (dir : Place) (rest : List Name) :
    climb dir (name :: rest) = OsTree.climb (dir ++ [name]) rest := by
  rw [OsTree.climb, if_neg h.ne_dot, if_neg h.ne_dotDot]

theorem climb_of_no_dotDot (h : dotDot ∉ names) (dir : Place) :
    climb dir names = dir ++ undot names := by
  induction names generalizing dir with
  | nil => simp [undot]
  | cons name rest ih =>
    have hname : name ≠ dotDot := by
      rintro rfl
      exact h (List.mem_cons_self ..)
    have hrest : dotDot ∉ rest := fun hmem => h (List.mem_cons_of_mem _ hmem)
    by_cases hdot : name = dot
    · subst hdot
      rw [climb_dot, ih hrest, undot_dot]
    · rw [climb, if_neg hdot, if_neg hname, ih hrest, undot_cons hdot]
      simp

theorem Passes.climb_eq (h : t.Passes dir names place []) : climb dir names = place := by
  generalize hleft : ([] : List Name) = left at h
  induction h with
  | stop dir names =>
    rw [← hleft]
    rfl
  | dot _ ih => rw [climb_dot, ih hleft]
  | up _ ih => rw [climb_dotDot, ih hleft]
  | enter hname _ _ ih => rw [hname.climb, ih hleft]

theorem Passes.of_same (h : t.Passes dir names place left)
    (hsame : ∀ done, done <+: names → u.get? (climb dir done) = t.get? (climb dir done)) :
    u.Passes dir names place left := by
  induction h with
  | stop dir names => exact .stop dir names
  | @dot d _ rest _ _ ih =>
    apply Passes.dot
    apply ih
    intro done hdone
    have hnext := hsame (OsTree.dot :: done) (List.cons_prefix_cons.mpr ⟨rfl, hdone⟩)
    rwa [climb_dot] at hnext
  | @up d _ rest _ _ ih =>
    apply Passes.up
    apply ih
    intro done hdone
    have hnext := hsame (dotDot :: done) (List.cons_prefix_cons.mpr ⟨rfl, hdone⟩)
    rwa [climb_dotDot] at hnext
  | @enter d _ name rest _ hname hdir _ ih =>
    have hfirst := hsame [name] (List.cons_prefix_cons.mpr ⟨rfl, List.nil_prefix⟩)
    rw [hname.climb, climb_nil] at hfirst
    apply Passes.enter hname (hfirst.trans hdir)
    apply ih
    intro done hdone
    have hnext := hsame (name :: done) (List.cons_prefix_cons.mpr ⟨rfl, hdone⟩)
    rwa [hname.climb] at hnext

theorem Leads.passes_of_noLinks (h : t.Leads names place) (hlinks : t.NoLinks) :
    t.Passes [] names place [] := by
  have hdir := h.dir
  cases resolves h.located with
  | dir hpasses => exact hpasses
  | entry _ _ hend => exact absurd hdir (ne_dir_of_end hend)
  | link _ _ hlink _ => exact absurd hlink (hlinks _ _)

theorem Leads.climb_eq (h : t.Leads names place) (hlinks : t.NoLinks) : climb [] names = place :=
  (h.passes_of_noLinks hlinks).climb_eq

theorem Passes.leads (h : t.Passes [] names place []) (hdir : t.get? place = some .dir) :
    t.Leads names place :=
  ⟨resolve_of_arrived (h.go_eq true) _, hdir⟩

theorem Leads.of_same (h : t.Leads names place) (hlinks : t.NoLinks)
    (hsame : ∀ done, done <+: names → u.get? (climb [] done) = t.get? (climb [] done)) :
    u.Leads names place := by
  have hplace := hsame names (List.prefix_refl _)
  rw [h.climb_eq hlinks, h.dir] at hplace
  exact ((h.passes_of_noLinks hlinks).of_same hsame).leads hplace

end GrantFs.OsTree
