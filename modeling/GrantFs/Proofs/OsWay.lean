import GrantFs.Proofs.OsTree

/-! # Ways through a tree

Following names through directories and links. Main statements: the way to a directory goes on with
any names that follow, does not depend on single dots, and is the same in every tree that keeps the
directories and links it passes. -/
namespace GrantFs.OsTree

variable {t u : OsTree} {place q : Place} {n : Node}

theorem go_dot (t : OsTree) (follow : Bool) (dir : Place) (rest : List Name) :
    go t follow dir (dot :: rest) = go t follow dir rest := by
  rw [go, if_pos rfl]

theorem go_dotDot (t : OsTree) (follow : Bool) (dir : Place) (rest : List Name) :
    go t follow dir (dotDot :: rest) = go t follow dir.dropLast rest := by
  rw [go, if_neg (by decide), if_pos rfl]

theorem go_long {name : Name} (hlong : nameLimit < name.length) (t : OsTree) (follow : Bool)
    (dir : Place) (rest : List Name) :
    go t follow dir (name :: rest) = .failed .nameTooLong := by
  have hdot : name ≠ dot := by
    rintro rfl
    exact absurd hlong (by decide)
  have hdots : name ≠ dotDot := by
    rintro rfl
    exact absurd hlong (by decide)
  rw [go, if_neg hdot, if_neg hdots, if_pos hlong]

theorem Ordinary.go {name : Name} (h : Ordinary name) (t : OsTree) (follow : Bool) (dir : Place)
    (rest : List Name) :
    go t follow dir (name :: rest) =
      match t.get? (dir ++ [name]) with
      | none => if rest = [] then .arrived (dir ++ [name]) else .failed .noEntry
      | some .dir => go t follow (dir ++ [name]) rest
      | some (.file ..) => if rest = [] then .arrived (dir ++ [name]) else .failed .notDirectory
      | some (.link target) =>
        if rest = [] ∧ !follow then .arrived (dir ++ [name]) else .link dir target rest := by
  rw [OsTree.go]
  exact (if_neg h.ne_dot).trans <| (if_neg h.ne_dotDot).trans <| if_neg (Nat.not_lt.mpr h.short)

/-- Names of a list lead through directories from one place to another, and `left` are still to be
followed there. -/
inductive Passes (t : OsTree) : Place → List Name → Place → List Name → Prop where
  | stop (dir : Place) (names : List Name) : Passes t dir names dir names
  | dot {dir place : Place} {rest left : List Name} : Passes t dir rest place left →
      Passes t dir (dot :: rest) place left
  | up {dir place : Place} {rest left : List Name} : Passes t dir.dropLast rest place left →
      Passes t dir (dotDot :: rest) place left
  | enter {dir place : Place} {name : Name} {rest left : List Name} : Ordinary name →
      t.get? (dir ++ [name]) = some .dir → Passes t (dir ++ [name]) rest place left →
      Passes t dir (name :: rest) place left

variable {dir : Place} {names left : List Name} {target : LinkTarget}

theorem Passes.go_eq (h : t.Passes dir names place left) (follow : Bool) :
    go t follow dir names = go t follow place left := by
  induction h with
  | stop => rfl
  | dot _ ih => rw [go_dot, ih]
  | up _ ih => rw [go_dotDot, ih]
  | enter hname hdir _ ih =>
    rw [hname.go, hdir]
    exact ih

theorem Passes.append (h : t.Passes dir names place left) (rest : List Name) :
    t.Passes dir (names ++ rest) place (left ++ rest) := by
  induction h with
  | stop dir names => exact .stop dir _
  | dot _ ih => exact .dot ih
  | up _ ih => exact .up ih
  | enter hname hdir _ ih => exact .enter hname hdir ih

inductive Ends (t : OsTree) (dir : Place) (names : List Name) : Way → Prop where
  | dir {place : Place} : t.Passes dir names place [] → Ends t dir names (.arrived place)
  | entry {at_ : Place} {name : Name} : t.Passes dir names at_ [name] → Ordinary name →
      (t.get? (at_ ++ [name]) = none ∨
        ∃ content modified, t.get? (at_ ++ [name]) = some (.file content modified)) →
      Ends t dir names (.arrived (at_ ++ [name]))
  | link {at_ : Place} {name : Name} {left : List Name} {target : LinkTarget} :
      t.Passes dir names at_ (name :: left) → Ordinary name →
      t.get? (at_ ++ [name]) = some (.link target) → Ends t dir names (.link at_ target left)
  | failed (why : OsError) : Ends t dir names (.failed why)

theorem Ends.before {dir' : Place} {names' : List Name} {way : Way} (h : t.Ends dir names way)
    (hpasses : ∀ place left, t.Passes dir names place left → t.Passes dir' names' place left) :
    t.Ends dir' names' way := by
  cases h with
  | dir hp => exact .dir (hpasses _ _ hp)
  | entry hp hname hnode => exact .entry (hpasses _ _ hp) hname hnode
  | link hp hname hnode => exact .link (hpasses _ _ hp) hname hnode
  | failed why => exact .failed why

theorem go_ends (t : OsTree) (dir : Place) (names : List Name) :
    t.Ends dir names (go t true dir names) := by
  induction names generalizing dir with
  | nil => exact .dir (.stop dir [])
  | cons name rest ih =>
    by_cases hdot : name = dot
    · subst hdot
      rw [go_dot]
      exact (ih dir).before fun _ _ => .dot
    by_cases hdots : name = dotDot
    · subst hdots
      rw [go_dotDot]
      exact (ih dir.dropLast).before fun _ _ => .up
    by_cases hlong : nameLimit < name.length
    · rw [go_long hlong]
      exact .failed _
    have hname : Ordinary name := ⟨hdot, hdots, Nat.le_of_not_lt hlong⟩
    rw [hname.go]
    cases hnode : t.get? (dir ++ [name]) with
    | none =>
      by_cases hrest : rest = []
      · simp only [if_pos hrest]
        exact .entry (hrest ▸ .stop ..) hname (.inl hnode)
      · simp only [if_neg hrest]
        exact .failed _
    | some n =>
      cases n with
      | dir => exact (ih (dir ++ [name])).before fun _ _ => .enter hname hnode
      | file content modified =>
        by_cases hrest : rest = []
        · simp only [if_pos hrest]
          exact .entry (hrest ▸ .stop ..) hname (.inr ⟨content, modified, hnode⟩)
        · simp only [if_neg hrest]
          exact .failed _
      | link target =>
        have hfollowed : ¬ (rest = [] ∧ (!true) = true) := by simp
        simp only [if_neg hfollowed]
        exact .link (.stop ..) hname hnode

theorem Passes.go_link {at_ : Place} {name : Name} (h : t.Passes dir names at_ (name :: left))
    (hname : Ordinary name) (hnode : t.get? (at_ ++ [name]) = some (.link target)) {follow : Bool}
    (hlast : left ≠ [] ∨ follow = true) :
    go t follow dir names = .link at_ target left := by
  have hfollowed : ¬ (left = [] ∧ (!follow) = true) := by
    rintro ⟨hleft, hfollow⟩
    simp_all
  rw [h.go_eq, hname.go, hnode]
  exact if_neg hfollowed

theorem Passes.go_entry {at_ : Place} {name : Name} (h : t.Passes dir names at_ [name])
    (hname : Ordinary name)
    (hfile : ∃ content modified, t.get? (at_ ++ [name]) = some (.file content modified))
    {follow : Bool} : go t follow dir names = .arrived (at_ ++ [name]) := by
  obtain ⟨content, modified, hfile⟩ := hfile
  rw [h.go_eq, hname.go, hfile]
  rfl

/-- The names that count: a single dot stays where it is. -/
def undot (names : List Name) : List Name := names.filter (· ≠ dot)

@[simp] theorem undot_dot (names : List Name) : undot (dot :: names) = undot names := by
  simp [undot]

theorem undot_cons {name : Name} (h : name ≠ dot) (names : List Name) :
    undot (name :: names) = name :: undot names := by
  simp [undot, h]

theorem undot_append (names more : List Name) : undot (names ++ more) = undot names ++ undot more :=
  List.filter_append ..

theorem undot_undot (names : List Name) : undot (undot names) = undot names := by
  simp [undot]

theorem passes_of_undot_eq_cons {name : Name} {names more : List Name}
    (h : undot names = name :: more) :
    ∃ rest, undot rest = more ∧ ∀ t dir place left, Passes t dir (name :: rest) place left →
      Passes t dir names place left := by
  induction names with
  | nil => cases h
  | cons first names ih =>
    by_cases hdot : first = dot
    · subst hdot
      rw [undot_dot] at h
      obtain ⟨rest, hrest, hpass⟩ := ih h
      exact ⟨rest, hrest, fun t dir place left hp => .dot (hpass t dir place left hp)⟩
    · rw [undot_cons hdot] at h
      cases h
      exact ⟨names, rfl, fun _ _ _ _ hp => hp⟩

theorem Passes.of_undot_eq {names' : List Name} (h : t.Passes dir names place left)
    (heq : undot names' = undot names) :
    ∃ left', undot left' = undot left ∧ t.Passes dir names' place left' := by
  induction h generalizing names' with
  | stop dir names => exact ⟨names', heq, .stop dir names'⟩
  | dot _ ih => exact ih (by rw [heq, undot_dot])
  | up _ ih =>
    rw [undot_cons (by decide)] at heq
    obtain ⟨rest, hrest, hpass⟩ := passes_of_undot_eq_cons heq
    obtain ⟨left', hleft, hp⟩ := ih hrest
    exact ⟨left', hleft, hpass _ _ _ _ (.up hp)⟩
  | enter hname hdir _ ih =>
    rw [undot_cons hname.ne_dot] at heq
    obtain ⟨rest, hrest, hpass⟩ := passes_of_undot_eq_cons heq
    obtain ⟨left', hleft, hp⟩ := ih hrest
    exact ⟨left', hleft, hpass _ _ _ _ (.enter hname hdir hp)⟩

theorem Passes.of_undot_nil (h : t.Passes dir names place left) (hleft : undot left = []) :
    t.Passes dir names place [] := by
  have hdots : t.Passes place left place [] := by
    clear h
    induction left with
    | nil => exact .stop place []
    | cons name rest ih =>
      by_cases hdot : name = OsTree.dot
      · subst hdot
        exact .dot (ih (by simpa using hleft))
      · rw [undot_cons hdot] at hleft
        cases hleft
  clear hleft
  induction h with
  | stop => exact hdots
  | dot _ ih => exact .dot (ih hdots)
  | up _ ih => exact .up (ih hdots)
  | enter hname hdir _ ih => exact .enter hname hdir (ih hdots)

theorem Passes.of_undot_cons {name : Name} {rest : List Name}
    (h : t.Passes dir names place left) (hleft : undot left = name :: rest) :
    ∃ left', undot left' = rest ∧ t.Passes dir names place (name :: left') := by
  have hdots : ∃ left', undot left' = rest ∧ t.Passes place left place (name :: left') := by
    obtain ⟨left', hrest, hpass⟩ := passes_of_undot_eq_cons hleft
    exact ⟨left', hrest, hpass _ _ _ _ (.stop place _)⟩
  clear hleft
  induction h with
  | stop => exact hdots
  | dot _ ih => exact (ih hdots).imp fun _ h => ⟨h.1, .dot h.2⟩
  | up _ ih => exact (ih hdots).imp fun _ h => ⟨h.1, .up h.2⟩
  | enter hname hdir _ ih => exact (ih hdots).imp fun _ h => ⟨h.1, .enter hname hdir h.2⟩

theorem resolve_of_arrived {follow : Bool} (h : go t follow dir names = .arrived place)
    (links : Nat) : resolve t follow links dir names = .ok place := by
  rw [resolve, h]

theorem resolve_of_failed {follow : Bool} {why : OsError} (h : go t follow dir names = .failed why)
    (links : Nat) : resolve t follow links dir names = .error why := by
  rw [resolve, h]

theorem resolve_of_link {follow : Bool} {at_ : Place}
    (h : go t follow dir names = .link at_ target left) (links : Nat) :
    resolve t follow (links + 1) dir names =
      resolve t follow links (if target.absolute then [] else at_) (target.names ++ left) := by
  rw [resolve, h]

theorem resolve_of_link_zero {follow : Bool} {at_ : Place}
    (h : go t follow dir names = .link at_ target left) :
    resolve t follow 0 dir names = .error .linkLoop := by
  rw [resolve, h]

theorem resolve_congr {follow : Bool} {links : Nat} {names' : List Name}
    (h : go t follow dir names = go t follow place names') :
    resolve t follow links dir names = resolve t follow links place names' := by
  rw [resolve, resolve, h]

theorem resolve_eq_ok {follow : Bool} {links : Nat} :
    resolve t follow links dir names = .ok place ↔
      go t follow dir names = .arrived place ∨
        ∃ fewer at_ target left, links = fewer + 1 ∧
          go t follow dir names = .link at_ target left ∧
          resolve t follow fewer (if target.absolute then [] else at_) (target.names ++ left) =
            .ok place := by
  cases hgo : go t follow dir names with
  | arrived p =>
    rw [resolve_of_arrived hgo]
    simp
  | failed why =>
    rw [resolve_of_failed hgo]
    simp
  | link at_ target left =>
    cases links with
    | zero =>
      rw [resolve_of_link_zero hgo]
      simp
    | succ fewer =>
      rw [resolve_of_link hgo]
      simp

/-- Names lead to a place: through directories to the last of them, or to an entry of it that is no
directory, or to a link in it and on from where the link leads. -/
inductive Resolves (t : OsTree) : (links : Nat) → Place → List Name → Place → Prop where
  | dir {links : Nat} {dir place : Place} {names : List Name} :
      t.Passes dir names place [] → Resolves t links dir names place
  | entry {links : Nat} {dir at_ : Place} {names : List Name} {name : Name} :
      t.Passes dir names at_ [name] → Ordinary name →
      (t.get? (at_ ++ [name]) = none ∨
        ∃ content modified, t.get? (at_ ++ [name]) = some (.file content modified)) →
      Resolves t links dir names (at_ ++ [name])
  | link {links : Nat} {dir at_ place : Place} {names left : List Name} {name : Name}
      {target : LinkTarget} :
      t.Passes dir names at_ (name :: left) → Ordinary name →
      t.get? (at_ ++ [name]) = some (.link target) →
      Resolves t links (if target.absolute then [] else at_) (target.names ++ left) place →
      Resolves t (links + 1) dir names place

theorem resolves {links : Nat} (h : resolve t true links dir names = .ok place) :
    t.Resolves links dir names place := by
  induction links using Nat.strong_induction_on generalizing dir names with
  | h links ih =>
    have hends := t.go_ends dir names
    rcases resolve_eq_ok.mp h with hgo | ⟨fewer, at_, target, left, rfl, hgo, hrest⟩
    · rw [hgo] at hends
      cases hends with
      | dir hpasses => exact .dir hpasses
      | entry hpasses hname hnode => exact .entry hpasses hname hnode
    · rw [hgo] at hends
      cases hends with
      | link hpasses hname hnode =>
        exact .link hpasses hname hnode (ih fewer (Nat.lt_succ_self fewer) hrest)

theorem ne_dir_of_end
    (h : t.get? place = none ∨ ∃ content modified, t.get? place = some (.file content modified)) :
    t.get? place ≠ some .dir := by
  rcases h with hnone | ⟨content, modified, hfile⟩
  · simp [hnone]
  · simp [hfile]

theorem resolve_append {links : Nat} (h : resolve t true links dir names = .ok place)
    (hdir : t.get? place = some .dir) :
    ∃ links', ∀ follow rest, rest ≠ [] ∨ follow = true →
      resolve t follow links dir (names ++ rest) = resolve t follow links' place rest := by
  replace h := resolves h
  induction h with
  | @dir links _ _ _ hpasses =>
    exact ⟨links, fun follow rest _ => resolve_congr ((hpasses.append rest).go_eq follow)⟩
  | entry _ _ hend => exact absurd hdir (ne_dir_of_end hend)
  | @link _ dir at_ _ names left name _ hpasses hname hnode _ ih =>
    obtain ⟨links', hlinks'⟩ := ih hdir
    refine ⟨links', fun follow rest hmore => ?_⟩
    have hfollowed : left ++ rest ≠ [] ∨ follow = true := by
      refine hmore.imp_left fun hne hnil => hne ?_
      exact (List.append_eq_nil_iff.mp hnil).2
    have hlonger : t.Passes dir (names ++ rest) at_ (name :: (left ++ rest)) :=
      hpasses.append rest
    rw [resolve_of_link (hlonger.go_link hname hnode hfollowed), ← List.append_assoc,
      hlinks' follow rest hmore]

theorem resolve_of_undot_eq {links : Nat} {names' : List Name}
    (h : resolve t true links dir names = .ok place) (hdir : t.get? place = some .dir)
    (heq : undot names' = undot names) : resolve t true links dir names' = .ok place := by
  replace h := resolves h
  induction h generalizing names' with
  | dir hpasses =>
    obtain ⟨left, hleft, hpasses'⟩ := hpasses.of_undot_eq heq
    exact resolve_of_arrived ((hpasses'.of_undot_nil hleft).go_eq true) _
  | entry _ _ hend => exact absurd hdir (ne_dir_of_end hend)
  | link hpasses hname hnode _ ih =>
    obtain ⟨left', hleft', hpasses'⟩ := hpasses.of_undot_eq heq
    rw [undot_cons hname.ne_dot] at hleft'
    obtain ⟨left'', hleft, hpasses''⟩ := hpasses'.of_undot_cons hleft'
    rw [resolve_of_link (hpasses''.go_link hname hnode (.inr rfl))]
    exact ih hdir (by rw [undot_append, undot_append, hleft])

structure Keeps (t u : OsTree) : Prop where
  dirs : ∀ q, t.get? q = some .dir → u.get? q = some .dir
  links : ∀ q target, t.get? q = some (.link target) → u.get? q = some (.link target)

theorem Keeps.trans {v : OsTree} (h : t.Keeps u) (h' : u.Keeps v) : t.Keeps v :=
  ⟨fun q hq => h'.dirs q (h.dirs q hq), fun q target hq => h'.links q target (h.links q target hq)⟩

theorem keeps_put_of_not_dir (hdir : t.get? place ≠ some .dir)
    (hlink : ∀ target, t.get? place ≠ some (.link target)) (n : Node) :
    t.Keeps (t.put place n) := by
  by_cases hfits : t.Fits place n
  · constructor
    · intro q hq
      rw [get?_put hfits, if_neg, hq]
      rintro rfl
      exact hdir hq
    · intro q target hq
      rw [get?_put hfits, if_neg, hq]
      rintro rfl
      exact hlink target hq
  · rw [put_of_not_fits hfits]
    exact ⟨fun _ hq => hq, fun _ _ hq => hq⟩

theorem Passes.keeps (h : t.Passes dir names place left) (hk : t.Keeps u) :
    u.Passes dir names place left := by
  induction h with
  | stop dir names => exact .stop dir names
  | dot _ ih => exact .dot ih
  | up _ ih => exact .up ih
  | enter hname hdir _ ih => exact .enter hname (hk.dirs _ hdir) ih

/-- Names lead to the same place in a tree with the same directories and links, if an entry that is
neither is there a file. -/
theorem resolve_keeps_place (hk : t.Keeps u) {links : Nat}
    (h : resolve t true links dir names = .ok place)
    (hend : (t.get? place = none ∨
      ∃ content modified, t.get? place = some (.file content modified)) →
      ∃ content modified, u.get? place = some (.file content modified)) :
    resolve u true links dir names = .ok place := by
  replace h := resolves h
  induction h with
  | dir hpasses => exact resolve_of_arrived ((hpasses.keeps hk).go_eq true) _
  | entry hpasses hname hentry =>
    exact resolve_of_arrived ((hpasses.keeps hk).go_entry hname (hend hentry)) _
  | link hpasses hname hlink _ ih =>
    rw [resolve_of_link ((hpasses.keeps hk).go_link hname (hk.links _ _ hlink) (.inr rfl))]
    exact ih hend

theorem resolve_keeps (hk : t.Keeps u) {links : Nat}
    (h : resolve t true links dir names = .ok place) (hdir : t.get? place = some .dir) :
    resolve u true links dir names = .ok place :=
  resolve_keeps_place hk h fun hend => absurd hdir (ne_dir_of_end hend)

structure Leads (t : OsTree) (names : List Name) (place : Place) : Prop where
  located : t.locate true names = .ok place
  dir : t.get? place = some .dir

theorem Leads.unique {place' : Place} (h : t.Leads names place) (h' : t.Leads names place') :
    place = place' := by
  have hlocated := h.located
  rw [h'.located] at hlocated
  cases hlocated
  rfl

theorem Leads.of_undot_eq {names' : List Name} (h : t.Leads names place)
    (heq : undot names' = undot names) : t.Leads names' place :=
  ⟨resolve_of_undot_eq h.located h.dir heq, h.dir⟩

theorem Leads.keeps (h : t.Leads names place) (hk : t.Keeps u) : u.Leads names place :=
  ⟨resolve_keeps hk h.located h.dir, hk.dirs _ h.dir⟩

theorem Leads.locate_append (h : t.Leads names place) :
    ∃ links, ∀ follow rest, rest ≠ [] ∨ follow = true →
      t.locate follow (names ++ rest) = resolve t follow links place rest :=
  resolve_append h.located h.dir

theorem Leads.locate_of_arrived (h : t.Leads names place) {follow : Bool} {rest : List Name}
    (hrest : rest ≠ [] ∨ follow = true) (hgo : go t follow place rest = .arrived q) :
    t.locate follow (names ++ rest) = .ok q := by
  obtain ⟨links, hlinks⟩ := h.locate_append
  rw [hlinks follow rest hrest, resolve_of_arrived hgo]

theorem Leads.locate_of_failed (h : t.Leads names place) {follow : Bool} {rest : List Name}
    (hrest : rest ≠ [] ∨ follow = true) {why : OsError}
    (hgo : go t follow place rest = .failed why) :
    t.locate follow (names ++ rest) = .error why := by
  obtain ⟨links, hlinks⟩ := h.locate_append
  rw [hlinks follow rest hrest, resolve_of_failed hgo]

theorem exists_entry_of_resolve {links : Nat} (h : resolve t true links dir names = .ok place)
    (hnode : t.get? place ≠ none) :
    ∃ entry, resolve t false links dir names = .ok entry ∧ t.get? entry ≠ none := by
  replace h := resolves h
  induction h with
  | dir hpasses => exact ⟨_, resolve_of_arrived (hpasses.go_eq false) _, hnode⟩
  | entry hpasses hname hend =>
    exact ⟨_, resolve_of_arrived (hpasses.go_entry hname (hend.resolve_left hnode)) _, hnode⟩
  | @link _ dir at_ _ names left name _ hpasses hname hlink _ ih =>
    by_cases hleft : left = []
    · subst hleft
      have hgo : go t false dir names = .arrived (at_ ++ [name]) := by
        rw [hpasses.go_eq, hname.go, hlink]
        rfl
      exact ⟨at_ ++ [name], resolve_of_arrived hgo _, by simp [hlink]⟩
    · rw [resolve_of_link (hpasses.go_link hname hlink (.inl hleft))]
      exact ih hnode

theorem Leads.exists_entry (h : t.Leads names place) :
    ∃ entry, t.locate false names = .ok entry ∧ t.get? entry ≠ none :=
  exists_entry_of_resolve h.located (by simp [h.dir])

theorem passes_of_dir {below : List Name} (h : t.get? (dir ++ below) = some .dir) :
    t.Passes dir below (dir ++ below) [] := by
  induction below generalizing dir with
  | nil =>
    rw [List.append_nil]
    exact .stop dir []
  | cons name rest ih =>
    have hsome : t.get? (dir ++ name :: rest) ≠ none := by
      rw [h]
      simp
    have hname := isName hsome (List.mem_cons_self ..)
    rw [List.append_cons] at h ⊢
    have hnext : t.get? (dir ++ [name]) = some .dir := by
      by_cases hrest : rest = []
      · subst hrest
        simpa using h
      · exact dir_above hrest (by rw [h]; simp)
    exact .enter hname.toOrdinary hnext (ih h)

theorem Leads.append (h : t.Leads names place) {more : List Name}
    (hdir : t.get? (place ++ undot more) = some .dir) :
    t.Leads (names ++ more) (place ++ undot more) := by
  have heq : undot more = undot (undot more) := (undot_undot more).symm
  obtain ⟨left, hleft, hpasses⟩ := (passes_of_dir hdir).of_undot_eq heq
  exact ⟨h.locate_of_arrived (.inr rfl) ((hpasses.of_undot_nil hleft).go_eq true), hdir⟩

theorem Leads.locate_name (h : t.Leads names place) {name : Name} (hname : Ordinary name)
    {follow : Bool}
    (hlink : follow = true → ∀ target, t.get? (place ++ [name]) ≠ some (.link target)) :
    t.locate follow (names ++ [name]) = .ok (place ++ [name]) := by
  refine h.locate_of_arrived (.inl (by simp)) ?_
  rw [hname.go]
  cases hnode : t.get? (place ++ [name]) with
  | none => rfl
  | some n =>
    cases n with
    | dir => rfl
    | file content modified => rfl
    | link target =>
      cases follow with
      | true => exact absurd hnode (hlink rfl target)
      | false => rfl

theorem Leads.locate_long (h : t.Leads names place) {name : Name}
    (hlong : nameLimit < name.length) (follow : Bool) :
    t.locate follow (names ++ [name]) = .error .nameTooLong :=
  h.locate_of_failed (.inl (by simp)) (go_long hlong ..)

theorem Leads.parentOf (h : t.Leads names.dropLast place) : t.parentOf names = .ok place := by
  simp only [OsTree.parentOf, bind, Except.bind, h.located, h.dir]
  rfl

theorem leads_of_parentOf (h : t.parentOf names = .ok place) : t.Leads names.dropLast place := by
  cases hlocated : t.locate true names.dropLast with
  | error why =>
    simp only [OsTree.parentOf, bind, Except.bind, hlocated] at h
    cases h
  | ok p =>
    simp only [OsTree.parentOf, bind, Except.bind, hlocated] at h
    split at h
    next hdir =>
      cases h
      exact ⟨hlocated, hdir⟩
    next => cases h
    next => cases h

theorem Leads.entryOf (h : t.Leads names place) {name : Name} (hname : Ordinary name)
    (forDot : OsError) : t.entryOf (names ++ [name]) forDot = .ok (place ++ [name]) := by
  have hparent : t.parentOf (names ++ [name]) = .ok place := by
    refine Leads.parentOf ?_
    rwa [List.dropLast_concat]
  have hdots : ¬ (name = OsTree.dot ∨ name = dotDot) := by
    rintro (hdot | hdots)
    · exact hname.ne_dot hdot
    · exact hname.ne_dotDot hdots
  rw [OsTree.entryOf, hparent, List.getLast?_concat]
  show (if _ then _ else _) = _
  rw [if_neg hdots, if_neg (Nat.not_lt.mpr hname.short)]
  rfl

theorem ordinary_of_entryOf {forDot : OsError} {name : Name}
    (h : t.entryOf (names ++ [name]) forDot = .ok q) :
    Ordinary name ∧ ∃ place, t.Leads names place ∧ q = place ++ [name] := by
  rw [OsTree.entryOf] at h
  cases hparent : t.parentOf (names ++ [name]) with
  | error why =>
    rw [hparent] at h
    cases h
  | ok place =>
    have hleads := leads_of_parentOf hparent
    rw [List.dropLast_concat] at hleads
    rw [hparent, List.getLast?_concat] at h
    change (if name = OsTree.dot ∨ name = dotDot then throw forDot
      else if nameLimit < name.length then throw .nameTooLong
      else pure (place ++ [name]) : Except OsError Place) = .ok q at h
    split at h
    next => cases h
    next hdots =>
      split at h
      next => cases h
      next hshort =>
        cases h
        refine ⟨⟨fun hdot => hdots (.inl hdot), fun hdot => hdots (.inr hdot), by omega⟩, ?_⟩
        exact ⟨place, hleads, rfl⟩

theorem Passes.dir_of_dir (h : t.Passes dir names place left)
    (hdir : t.get? dir = some .dir) : t.get? place = some .dir := by
  induction h with
  | stop => exact hdir
  | dot _ ih => exact ih hdir
  | @up d _ _ _ _ ih =>
    refine ih ?_
    rcases List.eq_nil_or_concat' d with rfl | ⟨init, last, rfl⟩
    · exact hdir
    · rw [List.dropLast_concat]
      have hlast : t.get? (init ++ [last]) ≠ none := by
        rw [hdir]
        simp
      exact inDir hlast
  | enter _ hnext _ ih => exact ih hnext

theorem Passes.suffix (h : t.Passes dir names place left) : left <:+ names := by
  induction h with
  | stop => exact List.suffix_refl _
  | dot _ ih => exact ih.trans (List.suffix_cons ..)
  | up _ ih => exact ih.trans (List.suffix_cons ..)
  | enter _ _ _ ih => exact ih.trans (List.suffix_cons ..)

theorem dir_behind_link {at_ : Place} (hat : t.get? at_ = some .dir) (target : LinkTarget) :
    t.get? (if target.absolute then [] else at_) = some .dir := by
  split
  · rfl
  · exact hat

theorem resolve_ne_link (hdir : t.get? dir = some .dir) {links : Nat}
    (h : resolve t true links dir names = .ok place) (target : LinkTarget) :
    t.get? place ≠ some (.link target) := by
  replace h := resolves h
  induction h with
  | dir hpasses => simp [hpasses.dir_of_dir hdir]
  | entry _ _ hend =>
    rcases hend with hnone | ⟨_, _, hfile⟩
    · simp [hnone]
    · simp [hfile]
  | link hpasses _ _ _ ih => exact ih (dir_behind_link (hpasses.dir_of_dir hdir) _)

theorem resolve_entry (hdir : t.get? dir = some .dir) (hpieces : ∀ name ∈ names, IsPiece name)
    {links : Nat} (h : resolve t true links dir names = .ok place)
    (hplace : t.get? place ≠ some .dir) :
    ∃ at_ name, t.get? at_ = some .dir ∧ IsName name ∧ place = at_ ++ [name] := by
  replace h := resolves h
  induction h with
  | dir hpasses => exact absurd (hpasses.dir_of_dir hdir) hplace
  | @entry _ _ at_ _ name hpasses hname _ =>
    have hpiece := hpieces name (hpasses.suffix.subset (List.mem_singleton_self _))
    exact ⟨at_, name, hpasses.dir_of_dir hdir, ⟨hname, hpiece⟩, rfl⟩
  | @link _ _ _ _ _ _ _ target hpasses _ _ _ ih =>
    refine ih (dir_behind_link (hpasses.dir_of_dir hdir) _) (fun name hmem => ?_) hplace
    rcases List.mem_append.mp hmem with htarget | hleft
    · exact target.pieces name htarget
    · exact hpieces name (hpasses.suffix.subset (List.mem_cons_of_mem _ hleft))

/-- A file fits wherever names lead that are made of pieces, unless a directory is there. -/
theorem fits_of_locate (hpieces : ∀ name ∈ names, IsPiece name)
    (h : t.locate true names = .ok place) (hdir : t.get? place ≠ some .dir) (n : Node) :
    t.Fits place n := by
  obtain ⟨at_, name, hat, hname, rfl⟩ := resolve_entry t.get?_nil hpieces h hdir
  exact fits_concat.mpr ⟨hname, hat, .inr hdir⟩

theorem Passes.past_file {at_ : Place} {name : Name} {content : Bytes} {modified : Instant}
    (h : t.Passes dir names at_ [name]) (hname : Ordinary name)
    (hfile : t.get? (at_ ++ [name]) = some (.file content modified)) :
    names.getLast? ≠ some OsTree.dot ∧ ∀ follow rest, rest ≠ [] →
      go t follow dir (names ++ rest) = .failed .notDirectory := by
  refine ⟨?_, fun follow rest hrest => ?_⟩
  · obtain ⟨start, hstart⟩ := h.suffix
    rw [← hstart, List.getLast?_concat]
    simpa using hname.ne_dot
  · have hlonger : t.Passes dir (names ++ rest) at_ (name :: rest) := h.append rest
    rw [hlonger.go_eq, hname.go, hfile]
    exact if_neg hrest

theorem resolve_past_file (hdir : t.get? dir = some .dir) {links : Nat}
    (h : resolve t true links dir names = .ok place) {content : Bytes} {modified : Instant}
    (hfile : t.get? place = some (.file content modified)) :
    names.getLast? ≠ some dot ∧ ∀ follow rest, rest ≠ [] →
      resolve t follow links dir (names ++ rest) = .error .notDirectory := by
  replace h := resolves h
  induction h with
  | dir hpasses =>
    rw [hpasses.dir_of_dir hdir] at hfile
    cases hfile
  | entry hpasses hname _ =>
    obtain ⟨hlast, hpast⟩ := hpasses.past_file hname hfile
    exact ⟨hlast, fun follow rest hrest => resolve_of_failed (hpast follow rest hrest) _⟩
  | @link _ dir at_ _ names left name _ hpasses hname hnode _ ih =>
    obtain ⟨hlast, hpast⟩ := ih (dir_behind_link (hpasses.dir_of_dir hdir) _) hfile
    refine ⟨?_, fun follow rest hmore => ?_⟩
    · obtain ⟨start, hstart⟩ := hpasses.suffix
      rw [← hstart]
      rcases List.eq_nil_or_concat' left with rfl | ⟨init, last, rfl⟩
      · rw [List.getLast?_concat]
        simpa using hname.ne_dot
      · rw [← List.append_assoc, List.getLast?_concat] at hlast
        rwa [← List.cons_append, ← List.append_assoc, List.getLast?_concat]
    · have hlonger : t.Passes dir (names ++ rest) at_ (name :: (left ++ rest)) :=
        hpasses.append rest
      rw [resolve_of_link (hlonger.go_link hname hnode (.inl (by simp [hmore]))),
        ← List.append_assoc]
      exact hpast follow rest hmore

theorem Passes.append_cases {more : List Name} (h : t.Passes dir (names ++ more) place left) :
    (∃ mid, t.Passes dir names mid [] ∧ t.Passes mid more place left) ∨
      ∃ left', left' ≠ [] ∧ left = left' ++ more ∧ t.Passes dir names place left' := by
  induction names generalizing dir with
  | nil => exact .inl ⟨dir, .stop dir [], h⟩
  | cons name rest ih =>
    rw [List.cons_append] at h
    cases h with
    | stop => exact .inr ⟨name :: rest, by simp, rfl, .stop ..⟩
    | dot h =>
      refine (ih h).imp ?_ ?_
      · exact fun ⟨mid, hmid, hmore⟩ => ⟨mid, .dot hmid, hmore⟩
      · exact fun ⟨left', hne, hleft, hrest⟩ => ⟨left', hne, hleft, .dot hrest⟩
    | up h =>
      refine (ih h).imp ?_ ?_
      · exact fun ⟨mid, hmid, hmore⟩ => ⟨mid, .up hmid, hmore⟩
      · exact fun ⟨left', hne, hleft, hrest⟩ => ⟨left', hne, hleft, .up hrest⟩
    | enter hname hdir h =>
      refine (ih h).imp ?_ ?_
      · exact fun ⟨mid, hmid, hmore⟩ => ⟨mid, .enter hname hdir hmid, hmore⟩
      · exact fun ⟨left', hne, hleft, hrest⟩ => ⟨left', hne, hleft, .enter hname hdir hrest⟩

theorem resolve_init (hdir : t.get? dir = some .dir) {links : Nat} {name : Name}
    (h : resolve t true links dir (names ++ [name]) = .ok place) :
    ∃ mid, resolve t true links dir names = .ok mid ∧ t.get? mid = some .dir := by
  have harrived : ∀ {dir names links mid}, t.get? dir = some .dir → t.Passes dir names mid [] →
      ∃ mid, resolve t true links dir names = .ok mid ∧ t.get? mid = some .dir :=
    fun hdir hpasses => ⟨_, resolve_of_arrived (hpasses.go_eq true) _, hpasses.dir_of_dir hdir⟩
  generalize hall : names ++ [name] = all at h
  replace h := resolves h
  induction h generalizing names with
  | dir hpasses =>
    subst hall
    rcases hpasses.append_cases with ⟨mid, hmid, -⟩ | ⟨left', -, hleft, -⟩
    · exact harrived hdir hmid
    · simp at hleft
  | entry hpasses _ _ =>
    subst hall
    rcases hpasses.append_cases with ⟨mid, hmid, -⟩ | ⟨left', hne, hleft, -⟩
    · exact harrived hdir hmid
    · exact absurd (List.append_eq_singleton_iff.mp hleft.symm) (by simp [hne])
  | @link _ _ at_ _ _ left n target hpasses hname hnode _ ih =>
    subst hall
    rcases hpasses.append_cases with ⟨mid, hmid, -⟩ | ⟨left', hne, hleft, hbefore⟩
    · exact harrived hdir hmid
    · obtain ⟨first, left'', rfl⟩ := List.exists_cons_of_ne_nil hne
      obtain ⟨rfl, rfl⟩ : n = first ∧ left = left'' ++ [name] := by simpa using hleft
      rw [resolve_of_link (hbefore.go_link hname hnode (.inr rfl))]
      exact ih (dir_behind_link (hpasses.dir_of_dir hdir) _) (List.append_assoc ..)

theorem leads_init {name : Name}
    (h : t.locate true (names ++ [name]) = .ok place) : ∃ mid, t.Leads names mid := by
  obtain ⟨mid, hmid, hdir⟩ := resolve_init t.get?_nil h
  exact ⟨mid, hmid, hdir⟩

/-- No link is met on the way, which leads into what is missing, to a file, or to a directory. -/
inductive Clear (t : OsTree) : Place → List Name → Prop where
  | here (dir : Place) : Clear t dir []
  | missing {dir : Place} {name : Name} (rest : List Name) : Ordinary name →
      t.get? (dir ++ [name]) = none → Clear t dir (name :: rest)
  | file {dir : Place} {name : Name} {rest : List Name} {content : Bytes} {modified : Instant} :
      Ordinary name → t.get? (dir ++ [name]) = some (.file content modified) → rest = [] →
      Clear t dir (name :: rest)
  | enter {dir : Place} {name : Name} {rest : List Name} : Ordinary name →
      t.get? (dir ++ [name]) = some .dir → Clear t (dir ++ [name]) rest → Clear t dir (name :: rest)

theorem Clear.ordinary {name : Name} {rest : List Name} (h : t.Clear dir (name :: rest)) :
    Ordinary name := by
  cases h with
  | missing _ hname _ => exact hname
  | file hname _ _ => exact hname
  | enter hname _ _ => exact hname

theorem clear_cons {name : Name} {rest : List Name} :
    t.Clear dir (name :: rest) ↔ Ordinary name ∧
      match t.get? (dir ++ [name]) with
      | none => True
      | some .dir => t.Clear (dir ++ [name]) rest
      | some (.file ..) => rest = []
      | some (.link _) => False := by
  constructor
  · intro h
    cases h with
    | missing _ hname hnone => exact ⟨hname, by simp [hnone]⟩
    | file hname hfile hlast => exact ⟨hname, by simp [hfile, hlast]⟩
    | enter hname hdir hrest => exact ⟨hname, by simp [hdir, hrest]⟩
  · rintro ⟨hname, h⟩
    split at h
    next hnone => exact .missing rest hname hnone
    next hdir => exact .enter hname hdir h
    next hfile => exact .file hname hfile h
    next => exact h.elim

theorem Clear.of_append {more : List Name} (h : t.Clear dir (names ++ more)) :
    t.Clear dir names := by
  induction names generalizing dir with
  | nil => exact .here dir
  | cons name rest ih =>
    rw [List.cons_append] at h
    cases h with
    | missing _ hname hnone => exact .missing rest hname hnone
    | file hname hfile hlast => exact .file hname hfile (List.append_eq_nil_iff.mp hlast).1
    | enter hname hdir hrest => exact .enter hname hdir (ih hrest)

/-- A clear way is followed to its end or not at all, whatever dots are put in. -/
theorem Clear.go_cases {names : List Name} (h : t.Clear dir (undot names)) (follow : Bool) :
    go t follow dir names = .arrived (dir ++ undot names) ∨
      ∃ why, go t follow dir names = .failed why := by
  induction names generalizing dir with
  | nil =>
    rw [undot, List.filter_nil, List.append_nil]
    exact .inl rfl
  | cons name rest ih =>
    by_cases hdot : name = OsTree.dot
    · subst hdot
      rw [undot_dot] at h ⊢
      rw [go_dot]
      exact ih h
    · have hend : ∀ why, (if rest = [] then Way.arrived (dir ++ [name]) else .failed why) =
          .arrived (dir ++ name :: undot rest) ∨
            ∃ why', (if rest = [] then Way.arrived (dir ++ [name]) else .failed why) =
              .failed why' := by
        intro why
        by_cases hrest : rest = []
        · rw [if_pos hrest, hrest]
          exact .inl rfl
        · exact .inr ⟨why, if_neg hrest⟩
      rw [undot_cons hdot] at h ⊢
      cases h with
      | missing _ hname hnone =>
        rw [hname.go, hnone]
        exact hend .noEntry
      | file hname hfile =>
        rw [hname.go, hfile]
        exact hend .notDirectory
      | enter hname hdir hrest =>
        rw [hname.go, hdir, List.append_cons dir name (undot rest)]
        exact ih hrest

/-- On a clear way lie directories, then nothing or, at its end, a file. -/
theorem Clear.node_cases (h : t.Clear dir names) (hdir : t.get? dir = some .dir)
    (hq : q <+: dir ++ names) :
    t.get? q = some .dir ∨ t.get? q = none ∨
      q = dir ++ names ∧ ∃ content modified, t.get? q = some (.file content modified) := by
  have hbefore : ∀ {d : Place}, t.get? d = some .dir → q <+: d → t.get? q = some .dir := by
    intro d hd hprefix
    by_cases heq : q = d
    · rw [heq, hd]
    · exact dir_on_way hprefix heq (by simp [hd])
  have hbehind : ∀ {d : Place} {name : Name} {rest : List Name}, q <+: d ++ name :: rest →
      q <+: d ∨ d ++ [name] <+: q := by
    intro d name rest hprefix
    rw [List.append_cons] at hprefix
    rcases List.prefix_or_prefix_of_prefix hprefix (List.prefix_append (d ++ [name]) rest) with
      hle | hge
    · rcases List.prefix_concat_iff.mp hle with heq | hle
      · exact .inr (heq ▸ List.prefix_refl _)
      · exact .inl hle
    · exact .inr hge
  induction h with
  | here d =>
    rw [List.append_nil] at hq
    exact .inl (hbefore hdir hq)
  | missing rest _ hnone =>
    rcases hbehind hq with hle | ⟨more, rfl⟩
    · exact .inl (hbefore hdir hle)
    · refine .inr (.inl ?_)
      by_contra hsome
      by_cases hmore : more = []
      · rw [hmore, List.append_nil] at hsome
        exact hsome hnone
      · have hfirst := dir_above hmore hsome
        rw [hnone] at hfirst
        cases hfirst
  | file _ hfile hlast =>
    rcases hbehind hq with hle | hge
    · exact .inl (hbefore hdir hle)
    · subst hlast
      obtain rfl := hge.eq_of_length_le hq.length_le
      exact .inr (.inr ⟨rfl, _, _, hfile⟩)
  | enter _ hnext _ ih =>
    rw [List.append_cons] at hq ⊢
    exact ih hnext hq

/-- The converse: ordinary names are a clear way if only such nodes lie on it. -/
theorem clear_of_nodes (hnames : ∀ name ∈ names, Ordinary name)
    (hnodes : ∀ q, dir <+: q → q <+: dir ++ names → t.get? q = some .dir ∨ t.get? q = none ∨
      q = dir ++ names ∧ ∃ content modified, t.get? q = some (.file content modified)) :
    t.Clear dir names := by
  induction names generalizing dir with
  | nil => exact .here dir
  | cons name rest ih =>
    have hname := hnames name (List.mem_cons_self ..)
    rw [List.append_cons] at hnodes
    have hfirst := List.prefix_append dir [name]
    rcases hnodes (dir ++ [name]) hfirst (List.prefix_append ..) with
      hdir | hnone | ⟨hlast, content, modified, hfile⟩
    · refine .enter hname hdir (ih (fun n hn => hnames n (List.mem_cons_of_mem _ hn)) ?_)
      exact fun q hq => hnodes q (hfirst.trans hq)
    · exact .missing rest hname hnone
    · exact .file hname hfile (List.self_eq_append_right.mp hlast)

theorem clear_of_file {content : Bytes} {modified : Instant}
    (hfile : t.get? (dir ++ names) = some (.file content modified)) : t.Clear dir names := by
  have hsome : t.get? (dir ++ names) ≠ none := by
    rw [hfile]
    simp
  refine clear_of_nodes (fun name hname => (isName hsome hname).toOrdinary) fun q _ hq => ?_
  by_cases heq : q = dir ++ names
  · exact .inr (.inr ⟨heq, content, modified, heq ▸ hfile⟩)
  · exact .inl (dir_on_way hq heq hsome)

theorem Clear.get?_ne_link (h : t.Clear dir names) (hdir : t.get? dir = some .dir)
    (hq : q <+: dir ++ names) (target : LinkTarget) : t.get? q ≠ some (.link target) := by
  rcases h.node_cases hdir hq with hnode | hnode | ⟨-, content, modified, hnode⟩
  · simp [hnode]
  · simp [hnode]
  · simp [hnode]

/-- The last name of a clear way is looked up in a directory, or a name before it is missing. -/
theorem Clear.concat_cases (h : t.Clear dir (names ++ [name])) (hdir : t.get? dir = some .dir) :
    (t.get? (dir ++ names) = some .dir ∧ Ordinary name ∧
        ∀ target, t.get? (dir ++ names ++ [name]) ≠ some (.link target)) ∨
      (t.get? (dir ++ names) = none ∧
        ∀ follow, go t follow dir (names ++ [name]) = .failed .noEntry) := by
  induction names generalizing dir with
  | nil =>
    rw [List.append_nil]
    refine .inl ⟨hdir, ?_⟩
    cases h with
    | missing _ hname hnone => exact ⟨hname, by simp [hnone]⟩
    | file hname hfile => exact ⟨hname, by simp [hfile]⟩
    | enter hname hnext _ => exact ⟨hname, by simp [hnext]⟩
  | cons first rest ih =>
    rw [List.cons_append] at h ⊢
    cases h with
    | missing _ hname hnone =>
      refine .inr ⟨?_, fun follow => ?_⟩
      · by_contra hsome
        rw [List.append_cons] at hsome
        by_cases hrest : rest = []
        · subst hrest
          exact hsome (by simpa using hnone)
        · have hfirst := dir_above hrest hsome
          rw [hnone] at hfirst
          cases hfirst
      · rw [hname.go, hnone]
        exact if_neg (by simp)
    | file _ _ hlast => simp at hlast
    | enter hname hfirst hrest =>
      rw [List.append_cons]
      refine (ih hrest hfirst).imp_right fun ⟨hnone, hgo⟩ => ⟨hnone, fun follow => ?_⟩
      rw [hname.go, hfirst]
      exact hgo follow

end GrantFs.OsTree
