import GrantFs.Proofs.OsWay

/-! # Trees with the same links

Files and directories come and go while the links stay as they are. Main statements: names that led
to a directory lead nowhere else afterwards, and what changes on a way without links keeps all
links. -/
namespace GrantFs.OsTree

variable {t u v : OsTree} {place q dir : Place} {names left : List Name}

def SameLinks (t u : OsTree) : Prop :=
  ∀ q target, u.get? q = some (.link target) ↔ t.get? q = some (.link target)

theorem SameLinks.refl (t : OsTree) : t.SameLinks t := fun _ _ => Iff.rfl

theorem SameLinks.trans (h : t.SameLinks u) (h' : u.SameLinks v) : t.SameLinks v :=
  fun q target => (h' q target).trans (h q target)

def NoLinks (t : OsTree) : Prop := ∀ q target, t.get? q ≠ some (.link target)

theorem SameLinks.noLinks (h : t.SameLinks u) (ht : t.NoLinks) : u.NoLinks :=
  fun q target hlink => ht q target ((h q target).mp hlink)

theorem noLinks_of_entries (h : ∀ e ∈ t.nodes.entries, (statusOf e.2).kind ≠ .link) :
    t.NoLinks := by
  intro q target hlink
  have hne : q ≠ [] := by
    rintro rfl
    rw [get?_nil] at hlink
    cases hlink
  exact h _ ((get?_eq_some_of_ne_nil hne).mp hlink) rfl

/-- Names passed in one tree are passed in the other, or end early: at the same place or not at
all. -/
theorem Passes.go_sameLinks (h : t.Passes dir names place left) (hlinks : t.SameLinks u) :
    go u true dir names = go u true place left ∨
      left = [] ∧ go u true dir names = .arrived place ∨
        ∃ why, go u true dir names = .failed why := by
  induction h with
  | stop => exact .inl rfl
  | dot _ ih =>
    rw [go_dot]
    exact ih
  | up _ ih =>
    rw [go_dotDot]
    exact ih
  | @enter d place name rest left hname hdir hrest ih =>
    have hend : ∀ why, rest = [] ∧ left = [] ∧ (if rest = [] then Way.arrived (d ++ [name])
          else .failed why) = .arrived place ∨
        (if rest = [] then Way.arrived (d ++ [name]) else .failed why) = .failed why := by
      intro why
      by_cases hnil : rest = []
      · subst hnil
        cases hrest
        exact .inl ⟨rfl, rfl, if_pos rfl⟩
      · exact .inr (if_neg hnil)
    rw [hname.go]
    cases hnode : u.get? (d ++ [name]) with
    | none => exact .inr ((hend .noEntry).imp (fun h => h.2) fun h => ⟨_, h⟩)
    | some n =>
      cases n with
      | dir => exact ih
      | file content modified =>
        exact .inr ((hend .notDirectory).imp (fun h => h.2) fun h => ⟨_, h⟩)
      | link target =>
        rw [hlinks, hdir] at hnode
        cases hnode

theorem resolve_sameLinks (hlinks : t.SameLinks u) {links : Nat}
    (h : resolve t true links dir names = .ok place) (hdir : t.get? place = some .dir)
    (hu : resolve u true links dir names = .ok q) : q = place := by
  replace h := resolves h
  induction h with
  | dir hpasses =>
    rcases hpasses.go_sameLinks hlinks with hgo | ⟨-, hgo⟩ | ⟨why, hgo⟩
    · rw [resolve_of_arrived hgo] at hu
      exact (Except.ok.inj hu).symm
    · rw [resolve_of_arrived hgo] at hu
      exact (Except.ok.inj hu).symm
    · rw [resolve_of_failed hgo] at hu
      cases hu
  | entry _ _ hend => exact absurd hdir (ne_dir_of_end hend)
  | link hpasses hname hnode _ ih =>
    rcases hpasses.go_sameLinks hlinks with hgo | ⟨hnil, -⟩ | ⟨why, hgo⟩
    · rw [hname.go, (hlinks _ _).mpr hnode] at hgo
      rw [resolve_of_link (hgo.trans (if_neg (by simp)))] at hu
      exact ih hdir hu
    · cases hnil
    · rw [resolve_of_failed hgo] at hu
      cases hu

/-- Names that led to a directory lead nowhere else while the links stay. -/
theorem Leads.place_eq (h : t.Leads names place) (hlinks : t.SameLinks u)
    (hu : u.locate true names = .ok q) : q = place :=
  resolve_sameLinks hlinks h.located h.dir hu

/-- Only what lies on the way from a directory along the names has changed, and on the way to it no
link was met and none has been put there. -/
def Confined (t u : OsTree) (dir : Place) (names : List Name) : Prop :=
  ∀ q, u.get? q ≠ t.get? q → dir <+: q ∧ q <+: dir ++ names ∧
    (∀ target, u.get? q ≠ some (.link target)) ∧
      ∀ q', dir <+: q' → q' <+: q → ∀ target, t.get? q' ≠ some (.link target)

theorem confined_self (t : OsTree) (dir : Place) (names : List Name) : t.Confined t dir names :=
  fun _ h => absurd rfl h

theorem Confined.sameLinks (h : t.Confined u dir names) : t.SameLinks u := by
  intro q target
  by_cases hq : u.get? q = t.get? q
  · rw [hq]
  · obtain ⟨hdir, -, hafter, hbefore⟩ := h q hq
    exact iff_of_false (hafter target) (hbefore q hdir (List.prefix_refl q) target)

theorem Clear.confined (hclear : t.Clear dir names) (hdir : t.get? dir = some .dir)
    (h : ∀ q, u.get? q ≠ t.get? q → dir <+: q ∧ q <+: dir ++ names ∧
      ∀ target, u.get? q ≠ some (.link target)) : t.Confined u dir names := by
  intro q hq
  obtain ⟨hle, hge, hlink⟩ := h q hq
  exact ⟨hle, hge, hlink, fun q' _ hq' => hclear.get?_ne_link hdir (hq'.trans hge)⟩

theorem exists_name_of_file {content : Bytes} {modified : Instant}
    (htrue : t.locate true names = .ok place) (hfalse : t.locate false names = .ok place)
    (hfile : t.get? place = some (.file content modified)) :
    ∃ init mid name, names = init ++ [name] ∧ t.Leads init mid ∧ Ordinary name ∧
      place = mid ++ [name] := by
  have hnodir : t.get? place ≠ some .dir := by simp [hfile]
  rcases List.eq_nil_or_concat' names with rfl | ⟨init, name, rfl⟩
  · cases htrue
    exact absurd t.get?_nil hnodir
  obtain ⟨mid, hleads⟩ := leads_init htrue
  obtain ⟨links, hlinks⟩ := hleads.locate_append
  rw [hlinks false [name] (.inl (by simp))] at hfalse
  refine ⟨init, mid, name, rfl, hleads, ?_⟩
  by_cases hdot : name = dot
  · subst hdot
    rw [resolve_of_arrived (go_dot ..)] at hfalse
    cases hfalse
    exact absurd hleads.dir hnodir
  by_cases hdots : name = dotDot
  · subst hdots
    have hup : t.Passes mid [dotDot] mid.dropLast [] := .up (.stop _ _)
    rw [resolve_of_arrived (hup.go_eq false)] at hfalse
    cases hfalse
    exact absurd (hup.dir_of_dir hleads.dir) hnodir
  by_cases hlong : nameLimit < name.length
  · rw [resolve_of_failed (go_long hlong ..)] at hfalse
    cases hfalse
  have hname : Ordinary name := ⟨hdot, hdots, Nat.le_of_not_lt hlong⟩
  have hgo : go t false mid [name] = .arrived (mid ++ [name]) := by
    rw [hname.go]
    cases t.get? (mid ++ [name]) with
    | none => rfl
    | some n => cases n <;> rfl
  rw [resolve_of_arrived hgo] at hfalse
  cases hfalse
  exact ⟨hname, rfl⟩

end GrantFs.OsTree
