import GrantFs.Proofs.DiskPlace

/-! # Writing to disk

What a write does to the tree. Main statements: a write that succeeds has put the file in its place,
with directories on the way; a write that fails has at most made some of these directories; and no
write fails that finds the way clear, its place free and all locations short enough. -/
namespace GrantFs

namespace OsTree

variable {now : Instant} {t u w : OsTree} {place old new : Place} {names : List Name} {n : Node}
  {location source target : Text} {why : OsError}

/-- The file lies in its place with directories on the way, and nothing else has changed. -/
def Written (t u : OsTree) (place : Place) (content : Bytes) (now : Instant) : Prop :=
  ∀ q, u.get? q =
    if q = place then some (.file content now) else if q <+: place then some .dir else t.get? q

theorem Paved.written {name : Name} {content : Bytes} (h : t.Paved u place)
    (hfits : u.Fits (place ++ [name]) (.file content now)) :
    t.Written (u.put (place ++ [name]) (.file content now)) (place ++ [name]) content now := by
  intro q
  rw [get?_put hfits, h]
  by_cases heq : q = place ++ [name]
  · rw [if_pos heq, if_pos heq]
  · have hprefix : q <+: place ++ [name] ↔ q <+: place := by
      rw [List.prefix_concat_iff]
      exact or_iff_right heq
    simp only [if_neg heq, hprefix]

theorem Written.get?_of_not_prefix {content : Bytes} {q : Place} (h : t.Written u place content now)
    (hq : ¬ q <+: place) : u.get? q = t.get? q := by
  have hend : q ≠ place := by
    rintro rfl
    exact hq (List.prefix_refl _)
  rw [h, if_neg hend, if_neg hq]

theorem Written.below {content : Bytes} {dir : Place} (h : t.Written u (dir ++ names) content now)
    (hdir : t.get? dir = some .dir) (hne : names ≠ []) (q : Place) :
    u.get? q = t.get? q ∨ ∃ more, more ≠ [] ∧ q = dir ++ more := by
  have habove : q <+: dir → u.get? q = t.get? q := by
    intro hle
    have hend : q ≠ dir ++ names := by
      rintro rfl
      have hlength := hle.length_le
      have hpositive := List.length_pos_iff.mpr hne
      rw [List.length_append] at hlength
      omega
    rw [h, if_neg hend, if_pos (hle.trans (List.prefix_append ..)), paved_self hdir q,
      if_pos hle]
  by_cases hway : q <+: dir ++ names
  · rcases List.prefix_or_prefix_of_prefix hway (List.prefix_append dir names) with
      hle | ⟨more, rfl⟩
    · exact .inl (habove hle)
    · by_cases hmore : more = []
      · subst hmore
        rw [List.append_nil] at habove ⊢
        exact .inl (habove (List.prefix_refl dir))
      · exact .inr ⟨more, hmore, rfl⟩
  · exact .inl (h.get?_of_not_prefix hway)

/-- On a clear way only what is missing is made, and only the beginnings of the way. -/
theorem paved_cases {dir : Place} (hdir : t.get? dir = some .dir) (hclear : t.Clear dir names)
    {k : Nat} (hk : k < names.length) (hpaved : t.Paved u (dir ++ names.take k)) (q : Place) :
    u.get? q = t.get? q ∨ ∃ j, 0 < j ∧ j < names.length ∧ q = dir ++ names.take j ∧
      t.get? q = none ∧ u.get? q = some .dir := by
  rw [hpaved]
  by_cases hq : q <+: dir ++ names.take k
  · rw [if_pos hq]
    cases hnode : t.get? q with
    | none =>
      refine .inr ?_
      rcases List.prefix_or_prefix_of_prefix hq (List.prefix_append dir _) with hle | ⟨more, rfl⟩
      · have hsome : t.get? q = some .dir := (paved_self hdir q).trans (if_pos hle)
        rw [hnode] at hsome
        cases hsome
      · have hmore : more <+: names.take k := (List.prefix_append_right_inj dir).mp hq
        have hlength := hmore.length_le
        rw [List.length_take] at hlength
        have hnames : more = names.take more.length := by
          rw [List.prefix_iff_eq_take.mp (hmore.trans (List.take_prefix k names))]
          simp
        refine ⟨more.length, ?_, by omega, by rw [← hnames], rfl, rfl⟩
        refine Nat.pos_of_ne_zero fun hzero => ?_
        rw [List.length_eq_zero_iff.mp hzero, List.append_nil, hdir] at hnode
        cases hnode
    | some n =>
      refine .inl ?_
      have hway : q <+: dir ++ names :=
        hq.trans ((List.prefix_append_right_inj dir).mpr (List.take_prefix k names))
      rcases hclear.node_cases hdir hway with hfound | hfound | ⟨rfl, -⟩
      · rw [← hfound, hnode]
      · rw [hnode] at hfound
        cases hfound
      · have hlength := hq.length_le
        rw [List.length_append, List.length_append, List.length_take] at hlength
        omega
  · exact .inl (if_neg hq)

theorem erase_put (hne : place ≠ []) (hnone : t.get? place = none) (n : Node) :
    (t.put place n).erase place = t := by
  refine ext_get? fun q => ?_
  rw [get?_erase hne]
  split
  next hle =>
    by_cases hq : q = place
    · rw [hq, hnone]
    · exact (none_below (by simp [hnone]) hle hq).symm
  next hnot =>
    have hq : q ≠ place := fun heq => hnot (heq ▸ List.prefix_refl _)
    by_cases hfits : t.Fits place n
    · rw [get?_put hfits, if_neg hq]
    · rw [put_of_not_fits hfits]

theorem answer_write_new (now : Instant) (hleads : t.Leads names place) {name : Name}
    (hname : Ordinary name)
    (hnames : namesOf location = names ++ [name]) (hfits : checkLocation location = .ok ())
    (hnone : t.get? (place ++ [name]) = none) (data : Bytes) :
    answer now [] (.write location data) t =
      (.ok (), t.put (place ++ [name]) (.file data now)) := by
  have hlocated : t.locate true (namesOf location) = .ok (place ++ [name]) := by
    rw [hnames]
    exact hleads.locate_name hname (by simp [hnone])
  show t.update _ = _
  rw [hfits]
  show t.update (t.write now _ data) = _
  rw [OsTree.write, hlocated]
  change t.update (do
    if t.get? (place ++ [name]) = some .dir then throw OsError.isDirectory
    pure (t.put (place ++ [name]) (.file data now))) = _
  rw [hnone]
  rfl

theorem answer_write_failed (now : Instant) (hleads : t.Leads names place) {name : Name}
    (hnames : namesOf location = names ++ [name]) (hne : location ≠ []) (data : Bytes)
    (h : ¬ (checkLocation location = .ok () ∧ name.length ≤ nameLimit)) :
    answer now [] (.write location data) t = (.error .nameTooLong, t) := by
  show t.update _ = _
  by_cases hfits : checkLocation location = .ok ()
  · have hlong : nameLimit < name.length := Nat.lt_of_not_le fun hshort => h ⟨hfits, hshort⟩
    rw [hfits]
    show t.update (t.write now _ data) = _
    rw [OsTree.write, hnames, hleads.locate_long hlong]
    rfl
  · rw [checkLocation_long hne hfits]
    rfl

theorem answer_removeFile (now : Instant) (hleads : t.Leads names place) {name : Name}
    (hname : Ordinary name)
    (hnames : namesOf location = names ++ [name]) (hfits : checkLocation location = .ok ())
    {content : Bytes} {modified : Instant}
    (hfile : t.get? (place ++ [name]) = some (.file content modified)) :
    answer now [] (.removeFile location) t = (.ok (), t.erase (place ++ [name])) := by
  show t.update _ = _
  rw [hfits]
  show t.update (t.removeFile _) = _
  simp only [removeFile, bind, Except.bind, hnames, hleads.entryOf hname, hfile]
  rfl

theorem answer_move_error (h : (answer now [] (.move source target) t).1 = .error why) :
    answer now [] (.move source target) t = (.error why, t) := by
  change (t.update _).1 = _ at h
  show t.update _ = _
  revert h
  generalize (do
    checkLocation source
    checkLocation target
    t.move (namesOf source) (namesOf target) : Except OsError OsTree) = result
  cases result with
  | ok u =>
    intro h
    cases h
  | error why' =>
    intro h
    cases h
    rfl

theorem answer_move_ok (h : (answer now [] (.move source target) t).1 = .ok ()) :
    checkLocation target = .ok () ∧
      t.move (namesOf source) (namesOf target) = .ok (answer now [] (.move source target) t).2 := by
  change (t.update _).1 = _ at h
  show _ ∧ _ = Except.ok (t.update _).2
  cases hsource : checkLocation source with
  | error why =>
    rw [hsource] at h
    cases h
  | ok _ =>
    cases htarget : checkLocation target with
    | error why =>
      rw [hsource, htarget] at h
      cases h
    | ok _ =>
      rw [hsource, htarget] at h
      refine ⟨rfl, ?_⟩
      change (t.update (t.move (namesOf source) (namesOf target))).1 = _ at h
      show _ = Except.ok (t.update (t.move (namesOf source) (namesOf target))).2
      cases hmove : t.move (namesOf source) (namesOf target) with
      | error why =>
        rw [hmove] at h
        cases h
      | ok u => rfl

theorem move_eq {origin goal : List Name} (hold : t.entryOf origin .busy = .ok old)
    (hnew : t.entryOf goal .busy = .ok new) :
    t.move origin goal =
      match t.get? old, t.get? new with
      | none, _ => .error .noEntry
      | some _, some .dir => .error .isDirectory
      | some .dir, _ => .error .isDirectory
      | some n, _ => .ok (if old = new then t else (t.erase old).put new n) := by
  have hparent : ∀ {names : List Name} {p : Place}, t.entryOf names .busy = .ok p →
      ∃ d, t.parentOf names = .ok d := by
    intro names p h
    rw [entryOf] at h
    cases hp : t.parentOf names with
    | error why =>
      rw [hp] at h
      cases h
    | ok d => exact ⟨d, rfl⟩
  obtain ⟨d₁, h₁⟩ := hparent hold
  obtain ⟨d₂, h₂⟩ := hparent hnew
  rw [move, h₁, h₂, hold, hnew]
  rfl

theorem entryOf_of_move {origin goal : List Name} (hold : t.entryOf origin .busy = .ok old)
    (h : t.move origin goal = .ok u) : ∃ new, t.entryOf goal .busy = .ok new := by
  cases hnew : t.entryOf goal .busy with
  | ok new => exact ⟨new, rfl⟩
  | error why =>
    rw [move, hold, hnew] at h
    cases h₁ : t.parentOf origin with
    | error why =>
      rw [h₁] at h
      cases h
    | ok d₁ =>
      cases h₂ : t.parentOf goal with
      | error why =>
        rw [h₁, h₂] at h
        cases h
      | ok d₂ =>
        rw [h₁, h₂] at h
        cases h

end OsTree

namespace DiskStore

open OsTree Os

variable {d : DiskStore} {now : Instant} {t u : OsTree} {path : Path} {ns : Namespace}
  {location draft : Text} {place : Place} {names : List Name} {dn : Name} {data : Bytes}

structure DraftAt (u : OsTree) (names : List Name) (place : Place) (draft : Text) (dn : Name) :
    Prop where
  leads : u.Leads names place
  isName : IsName dn
  fresh : u.get? (place ++ [dn]) = none
  fits : checkLocation draft = .ok ()
  names_eq : namesOf draft = names ++ [dn]

theorem DraftAt.leads_put (h : DraftAt u names place draft dn) (data : Bytes) (now : Instant) :
    (u.put (place ++ [dn]) (.file data now)).Leads names place :=
  h.leads.keeps (keeps_put h.fresh _)

theorem DraftAt.get?_put (h : DraftAt u names place draft dn) (data : Bytes) (now : Instant)
    (q : Place) :
    (u.put (place ++ [dn]) (.file data now)).get? q =
      if q = place ++ [dn] then some (.file data now) else u.get? q :=
  OsTree.get?_put (fits_of_vacant h.isName h.leads.dir h.fresh _) q

theorem DraftAt.entryOf (h : DraftAt u names place draft dn) (data : Bytes) (now : Instant) :
    (u.put (place ++ [dn]) (.file data now)).entryOf (namesOf draft) .busy =
      .ok (place ++ [dn]) := by
  rw [h.names_eq]
  exact (h.leads_put data now).entryOf h.isName.toOrdinary .busy

theorem moveDraft_failed (h : DraftAt u names place draft dn) (path : Path) {why : OsError}
    (hmove : (answer now [] (.move draft location)
      (u.put (place ++ [dn]) (.file data now))).1 = .error why) :
    (u.put (place ++ [dn]) (.file data now)).exec now (moveDraft path draft location) =
      (.error (.io why), u) := by
  have hfile : (u.put (place ++ [dn]) (.file data now)).get? (place ++ [dn]) =
      some (.file data now) := by
    rw [h.get?_put, if_pos rfl]
  have hremove : answer now [] (.removeFile draft) (u.put (place ++ [dn]) (.file data now)) =
      (.ok (), u) := by
    rw [answer_removeFile now (h.leads_put data now) h.isName.toOrdinary h.names_eq h.fits hfile,
      erase_put (by simp) h.fresh]
  rw [moveDraft, exec_bind_program, run_ask, answer_move_error hmove]
  show (u.put (place ++ [dn]) (.file data now)).exec now (liftM (ask (.removeFile draft)) >>= _) = _
  rw [exec_bind_program, run_ask, hremove]
  rfl

theorem moveDraft_to_dot (h : DraftAt u names place draft dn) (now : Instant) (path : Path)
    (data : Bytes) (hdot : (namesOf location).getLast? = some dot) :
    ∃ why, (u.put (place ++ [dn]) (.file data now)).exec now (moveDraft path draft location) =
      (.error (.io why), u) := by
  cases hmove : (answer now [] (.move draft location)
      (u.put (place ++ [dn]) (.file data now))).1 with
  | error why => exact ⟨why, moveDraft_failed h path hmove⟩
  | ok _ =>
    obtain ⟨new, hnew⟩ := entryOf_of_move (h.entryOf data now) (answer_move_ok hmove).2
    rw [OsTree.entryOf, hdot] at hnew
    cases hparent : (u.put (place ++ [dn]) (.file data now)).parentOf (namesOf location) with
    | error why =>
      rw [hparent] at hnew
      cases hnew
    | ok dir =>
      rw [hparent] at hnew
      cases hnew

theorem DraftAt.get?_ne_dir (h : DraftAt u names place draft dn) (data : Bytes) (now : Instant)
    (q : Place) :
    (u.put (place ++ [dn]) (.file data now)).get? q ≠ some .dir ↔ u.get? q ≠ some .dir := by
  rw [h.get?_put]
  split
  next heq =>
    rw [heq, h.fresh]
    simp
  next => rfl

theorem DraftAt.move_eq (h : DraftAt u names place draft dn) (data : Bytes) (now : Instant)
    {new : Place}
    (hnew : (u.put (place ++ [dn]) (.file data now)).entryOf (namesOf location) .busy = .ok new) :
    (u.put (place ++ [dn]) (.file data now)).move (namesOf draft) (namesOf location) =
      if u.get? new = some .dir then .error .isDirectory
      else .ok (u.put new (.file data now)) := by
  have hold : (u.put (place ++ [dn]) (.file data now)).get? (place ++ [dn]) =
      some (.file data now) := by
    rw [h.get?_put, if_pos rfl]
  have hmoved : (if place ++ [dn] = new then u.put (place ++ [dn]) (.file data now)
      else ((u.put (place ++ [dn]) (.file data now)).erase (place ++ [dn])).put new
        (.file data now)) = u.put new (.file data now) := by
    rw [erase_put (by simp) h.fresh]
    split
    next heq => rw [heq]
    next => rfl
  have hdir := not_iff_not.mp (h.get?_ne_dir data now new)
  rw [OsTree.move_eq (h.entryOf data now) hnew, hold]
  by_cases hnode : u.get? new = some .dir
  · rw [hdir.mpr hnode, if_pos hnode]
  · rw [if_neg hnode]
    have hnode' := mt hdir.mp hnode
    cases hw : (u.put (place ++ [dn]) (.file data now)).get? new with
    | none => exact congrArg Except.ok hmoved
    | some n =>
      cases n with
      | dir => exact absurd hw hnode'
      | file content modified => exact congrArg Except.ok hmoved
      | link target => exact congrArg Except.ok hmoved

theorem moveDraft_moved (hanswer : answer now [] (.move draft location) t = (.ok (), u))
    (hshows : u.Shows location place (.file data now)) (path : Path) :
    t.exec now (moveDraft path draft location) = (.ok (.written path data.length now), u) := by
  rw [moveDraft, exec_bind_program, run_ask, hanswer]
  have hstatus : u.exec now (orFail (ask (.status location true))) =
      (.ok (statusOf (.file data now)), u) := by
    rw [exec_orFail, run_ask, status_of_shows hshows]
    rfl
  exact exec_bind_ok hstatus _

theorem shows_put (hleads : u.Leads names place) {name : Name} {names' : List Name}
    (hname : Ordinary name) (hput : u.Fits (place ++ [name]) (.file data now))
    (hfree : u.get? (place ++ [name]) ≠ some .dir)
    (hlink : ∀ target, u.get? (place ++ [name]) ≠ some (.link target))
    (hfits : checkLocation location = .ok ()) (hnames : namesOf location = names' ++ [name])
    (hundot : undot names' = undot names) :
    (u.put (place ++ [name]) (.file data now)).Shows location (place ++ [name])
      (.file data now) := by
  have hkeeps := keeps_put_of_not_dir hfree hlink (.file data now)
  have hfile : (u.put (place ++ [name]) (.file data now)).get? (place ++ [name]) =
      some (.file data now) := by
    rw [OsTree.get?_put hput, if_pos rfl]
  refine ⟨hfits, ?_, hfile⟩
  rw [hnames]
  exact ((hleads.keeps hkeeps).of_undot_eq hundot).locate_name hname (by simp [hfile])

/-- A draft is moved unless a name or the location is too long or a directory is in the way. -/
theorem moveDraft_to_name (h : DraftAt u names place draft dn) (now : Instant) (path : Path)
    (data : Bytes) {names' : List Name} {s : Text} (hs : s.IsPlain)
    (hnames : namesOf location = names' ++ [Utf8.encode s]) (hundot : undot names' = undot names)
    (hlink : ∀ target, u.get? (place ++ [Utf8.encode s]) ≠ some (.link target)) :
    ((∃ why, (u.put (place ++ [dn]) (.file data now)).exec now (moveDraft path draft location) =
        (.error (.io why), u)) ∧
      ¬ (checkLocation location = .ok () ∧ (Utf8.encode s).length ≤ nameLimit ∧
        u.get? (place ++ [Utf8.encode s]) ≠ some .dir)) ∨
    ((u.put (place ++ [dn]) (.file data now)).exec now (moveDraft path draft location) =
        (.ok (.written path data.length now),
          u.put (place ++ [Utf8.encode s]) (.file data now)) ∧
      u.Fits (place ++ [Utf8.encode s]) (.file data now) ∧
      checkLocation location = .ok () ∧ u.get? (place ++ [Utf8.encode s]) ≠ some .dir) := by
  have hleads := (h.leads_put data now).of_undot_eq hundot
  cases hmove : (answer now [] (.move draft location)
      (u.put (place ++ [dn]) (.file data now))).1 with
  | error why =>
    refine .inl ⟨⟨why, moveDraft_failed h path hmove⟩, ?_⟩
    rintro ⟨hfits, hshort, hdir⟩
    have hentry := hleads.entryOf (isName_encode hs hshort).toOrdinary .busy
    rw [← hnames] at hentry
    have hmoved := h.move_eq data now hentry
    rw [if_neg hdir] at hmoved
    have hanswer : (answer now [] (.move draft location)
        (u.put (place ++ [dn]) (.file data now))).1 = .ok () := by
      show (update _ _).1 = _
      rw [h.fits, hfits]
      show (update _ (OsTree.move _ _ _)).1 = _
      rw [hmoved]
      rfl
    rw [hmove] at hanswer
    cases hanswer
  | ok _ =>
    obtain ⟨hfits, hmoved⟩ := answer_move_ok hmove
    obtain ⟨new, hnew⟩ := entryOf_of_move (h.entryOf data now) hmoved
    obtain ⟨hordinary, dir, hdir, rfl⟩ := ordinary_of_entryOf (hnames ▸ hnew)
    obtain rfl := hdir.unique hleads
    rw [h.move_eq data now hnew] at hmoved
    by_cases hfree : u.get? (dir ++ [Utf8.encode s]) = some .dir
    · rw [if_pos hfree] at hmoved
      cases hmoved
    · rw [if_neg hfree] at hmoved
      have hput : u.Fits (dir ++ [Utf8.encode s]) (.file data now) :=
        fits_concat.mpr ⟨isName_encode hs hordinary.short, h.leads.dir, .inr hfree⟩
      have hanswer : answer now [] (.move draft location) (u.put (dir ++ [dn]) (.file data now)) =
          (.ok (), u.put (dir ++ [Utf8.encode s]) (.file data now)) :=
        Prod.ext hmove (Except.ok.inj hmoved).symm
      have hshows := shows_put h.leads hordinary hput hfree hlink hfits hnames hundot
      exact .inr ⟨moveDraft_moved hanswer hshows path, hput, hfits, hfree⟩

def draftName (now : Instant) (t : OsTree) (location : Text) : Text :=
  draftStart ++ (t.exec now (makeDirs (parent location))).2.unusedToken

def draftOf (now : Instant) (t : OsTree) (location : Text) : Text :=
  join (parent location) (draftName now t location)

structure Draftable (now : Instant) (t : OsTree) (location : Text) (place : Place)
    (below : List Text) : Prop where
  makeable : t.Makeable (parent location) place below
  fits : checkLocation (draftOf now t location) = .ok ()
  short : (Utf8.encode (draftName now t location)).length ≤ nameLimit

theorem isPlain_draft {token : Text} (h : '/' ∉ token) : (draftStart ++ token).IsPlain := by
  have hletters : draftStart ++ token = '.' :: 'a' :: ("gentfs-tmp-" ++ token) := rfl
  refine ⟨⟨by simp [hletters], ?_⟩, ?_, ?_⟩
  · rw [List.mem_append, not_or]
    exact ⟨by decide, h⟩
  · intro hdot
    rw [hletters] at hdot
    cases hdot
  · intro hdots
    rw [hletters] at hdots
    cases hdots

section PutInPlace

variable {absolute : Bool} {base below : List Text}

theorem isPlain_draftName (now : Instant) (t : OsTree) (location : Text) :
    (draftName now t location).IsPlain := isPlain_draft (slash_not_mem_unusedToken _)

theorem namesOf_draftOf (now : Instant) (t : OsTree) (hnames : ∀ x ∈ below, x.IsSegment)
    (hparent : parent location = ofComponents absolute below) :
    namesOf (draftOf now t location) =
      below.map Utf8.encode ++ [Utf8.encode (draftName now t location)] := by
  rw [draftOf, namesOf_join (isPlain_draftName now t location).segment, hparent,
    segments_ofComponents hnames]

theorem exec_putInPlace_of_made (hrun : t.exec now (makeDirs (parent location)) = (.ok (), u))
    (path : Path) (data : Bytes) :
    t.exec now (putInPlace path location data) = u.exec now (do
      orFail (ask (.write (draftOf now t location) data))
      moveDraft path (draftOf now t location) location) := by
  rw [putInPlace, exec_bind_ok hrun, exec_bind_program, run_ask, draftOf, draftName, hrun]
  rfl

theorem putInPlace_drafted (now : Instant) (path : Path) (data : Bytes)
    (hbase : ∀ s ∈ base, s.IsSegment) (hdots : ['.'] ∉ base) (hbelow : ∀ s ∈ below, s.IsPlain)
    (hleads : t.Leads (base.map Utf8.encode) place)
    (hclear : t.Clear place (below.map Utf8.encode))
    (hparent : parent location = ofComponents absolute (base ++ below)) :
    (∃ why u, ∃ k ≤ below.length,
        t.exec now (putInPlace path location data) = (.error (.io why), u) ∧
        t.Paved u (place ++ (below.map Utf8.encode).take k) ∧
        ¬ Draftable now t location place below) ∨
      ∃ u dn,
        DraftAt u ((base ++ below).map Utf8.encode) (place ++ below.map Utf8.encode)
          (draftOf now t location) dn ∧
        t.Paved u (place ++ below.map Utf8.encode) ∧
        t.exec now (putInPlace path location data) =
          (u.put (place ++ below.map Utf8.encode ++ [dn]) (.file data now)).exec now
            (moveDraft path (draftOf now t location) location) := by
  have hmade := made_makeDirs now absolute hbase hdots hbelow hleads hclear
  rw [← hparent] at hmade
  generalize hrun : t.exec now (makeDirs (parent location)) = out at hmade
  cases hmade with
  | @whole u hpaved =>
    have hkeeps : t.Keeps u := hpaved.keeps fun q target hq =>
      hclear.get?_ne_link hleads.dir hq target
    have hinside := (hleads.keeps hkeeps).below hbelow hpaved.get?_self
    have hplain := isPlain_draftName now t location
    have hall : ∀ x ∈ base ++ below, x.IsSegment := by
      intro x hx
      exact (List.mem_append.mp hx).elim (hbase x) fun hx => (hbelow x hx).segment
    have hnames := namesOf_draftOf now t hall hparent
    rw [exec_putInPlace_of_made hrun]
    by_cases hready : checkLocation (draftOf now t location) = .ok () ∧
        (Utf8.encode (draftName now t location)).length ≤ nameLimit
    · have hname := isName_encode hplain hready.2
      have hfresh : u.get? (place ++ below.map Utf8.encode ++
          [Utf8.encode (draftName now t location)]) = none := by
        rw [draftName, hrun]
        exact u.get?_of_unusedToken _ _
      have hwrite := answer_write_new now hinside hname.toOrdinary hnames hready.1 hfresh data
      refine .inr ⟨u, _, ⟨hinside, hname, hfresh, hready.1, hnames⟩, hpaved, ?_⟩
      refine exec_bind_ok (a := ()) ?_ _
      rw [exec_orFail, run_ask, hwrite]
      rfl
    · have hwrite := answer_write_failed now hinside hnames (join_ne_nil hplain.segment _) data
        hready
      refine .inl ⟨.nameTooLong, u, below.length, le_rfl, ?_, ?_,
        fun h => hready ⟨h.fits, h.short⟩⟩
      · refine exec_bind_error ?_ _
        rw [exec_orFail, run_ask, hwrite]
        rfl
      · rwa [List.take_of_length_le (by rw [List.length_map])]
  | @part u why k hk hpaved hbad =>
    refine .inl ⟨why, u, k, hk, ?_, hpaved, fun h => hbad h.makeable⟩
    rw [putInPlace]
    exact exec_bind_error hrun _

theorem putInPlace_to_dot (now : Instant) (path : Path) (data : Bytes)
    (hbase : ∀ s ∈ base, s.IsSegment) (hdots : ['.'] ∉ base) (hbelow : ∀ s ∈ below, s.IsPlain)
    (hleads : t.Leads (base.map Utf8.encode) place)
    (hclear : t.Clear place (below.map Utf8.encode))
    (hparent : parent location = ofComponents absolute (base ++ below))
    (hdot : (namesOf location).getLast? = some dot) :
    ∃ why u, ∃ k ≤ below.length,
      t.exec now (putInPlace path location data) = (.error (.io why), u) ∧
        t.Paved u (place ++ (below.map Utf8.encode).take k) := by
  rcases putInPlace_drafted now path data hbase hdots hbelow hleads hclear hparent with
    ⟨why, u, k, hk, hrun, hpaved, -⟩ | ⟨u, dn, hdraft, hpaved, hrun⟩
  · exact ⟨why, u, k, hk, hrun, hpaved⟩
  · obtain ⟨why, hmove⟩ := moveDraft_to_dot hdraft now path data hdot
    refine ⟨why, u, below.length, le_rfl, hrun.trans hmove, ?_⟩
    rwa [List.take_of_length_le (by rw [List.length_map])]

theorem putInPlace_to_name (now : Instant) (path : Path) (data : Bytes)
    (hbase : ∀ s ∈ base, s.IsSegment) (hdots : ['.'] ∉ base) (hbelow : ∀ s ∈ below, s.IsPlain)
    (hleads : t.Leads (base.map Utf8.encode) place) {s : Text} (hs : s.IsPlain)
    (hclear : t.Clear place (below.map Utf8.encode ++ [Utf8.encode s]))
    (hparent : parent location = ofComponents absolute (base ++ below))
    (hnames : namesOf location = names ++ [Utf8.encode s])
    (hundot : undot names = (base ++ below).map Utf8.encode) :
    ((∃ why u, ∃ k ≤ below.length,
        t.exec now (putInPlace path location data) = (.error (.io why), u) ∧
        t.Paved u (place ++ (below.map Utf8.encode).take k)) ∧
      ¬ (Draftable now t location place below ∧ checkLocation location = .ok () ∧
        (Utf8.encode s).length ≤ nameLimit ∧
        t.get? (place ++ below.map Utf8.encode ++ [Utf8.encode s]) ≠ some .dir)) ∨
    ∃ u, t.exec now (putInPlace path location data) =
        (.ok (.written path data.length now), u) ∧ checkLocation location = .ok () ∧
      t.get? (place ++ below.map Utf8.encode ++ [Utf8.encode s]) ≠ some .dir ∧
      t.Written u (place ++ below.map Utf8.encode ++ [Utf8.encode s]) data now := by
  rcases putInPlace_drafted now path data hbase hdots hbelow hleads hclear.of_append hparent with
    ⟨why, u, k, hk, hrun, hpaved, hbad⟩ | ⟨u, dn, hdraft, hpaved, hrun⟩
  · exact .inl ⟨⟨why, u, k, hk, hrun, hpaved⟩, fun h => hbad h.1⟩
  · have hplain : ∀ x ∈ base ++ below, x ≠ ['.'] := by
      intro x hx
      rcases List.mem_append.mp hx with hx | hx
      · exact ne_of_mem_of_not_mem hx hdots
      · exact (hbelow x hx).ne_dot
    have hfilter : (base ++ below).filter (· ≠ ['.']) = base ++ below := by
      rw [List.filter_eq_self]
      intro x hx
      simpa using hplain x hx
    have hsame : u.get? (place ++ below.map Utf8.encode ++ [Utf8.encode s]) =
        t.get? (place ++ below.map Utf8.encode ++ [Utf8.encode s]) := hpaved.get?_append (by simp)
    have hlink : ∀ target, t.get? (place ++ below.map Utf8.encode ++ [Utf8.encode s]) ≠
        some (.link target) := by
      intro target
      rw [List.append_assoc]
      exact hclear.get?_ne_link hleads.dir (List.prefix_refl _) target
    rw [← hsame] at hlink ⊢
    have hundot' : undot names = undot ((base ++ below).map Utf8.encode) := by
      rw [hundot, undot_map_encode, hfilter]
    rcases moveDraft_to_name hdraft now path data hs hnames hundot' hlink with
      ⟨⟨why, hmove⟩, hbad⟩ | ⟨hmove, hput, hfits, hfree⟩
    · refine .inl ⟨⟨why, u, below.length, le_rfl, hrun.trans hmove, ?_⟩,
        fun h => hbad h.2⟩
      rwa [List.take_of_length_le (by rw [List.length_map])]
    · exact .inr ⟨_, hrun.trans hmove, hfits, hfree, hpaved.written hput⟩

end PutInPlace

theorem exec_locationWithoutLinks {p : Path} {segments : List Text}
    (hplace : placeOf p = .ok (ns, segments)) {r : Except Fault Unit}
    (h : t.exec now (refuseLinks p (d.root ns) (segments.filter (· ≠ ['.']))) = (r, t)) :
    t.exec now (d.locationWithoutLinks p) = (r.map fun _ => (ns, d.locationOf ns segments), t) := by
  rw [locationWithoutLinks, exec_bind_ok (exec_check _ |>.trans (by rw [hplace]))]
  cases r with
  | error why => exact exec_bind_error h _
  | ok _ => exact exec_bind_ok h _

theorem exec_locationWithoutLinks_of_error {p : Path} {why : Fault} (h : placeOf p = .error why) :
    t.exec now (d.locationWithoutLinks p) = (.error why, t) := by
  refine exec_bind_error ?_ _
  rw [exec_check, h]

def Taken (t : OsTree) (location : Text) (overwrite : Bool) : Prop :=
  (∃ place, t.Shows location place .dir) ∨
    overwrite = false ∧ ∃ place n, t.Shows location place n

theorem exec_write_of_links {p : Path} {why : Fault}
    (h : t.exec now (d.locationWithoutLinks p) = (.error why, t)) (data : Bytes)
    (overwrite : Bool) : t.exec now (d.write p data overwrite) = (.error why, t) :=
  exec_bind_error h _

theorem exec_write_of_taken {p : Path} {overwrite : Bool}
    (h : t.exec now (d.locationWithoutLinks p) = (.ok (ns, location), t)) (data : Bytes)
    (htaken : Taken t location overwrite) :
    t.exec now (d.write p data overwrite) = (.error (.conflict p.text), t) := by
  obtain ⟨dirSeen, hdirRun, hdirSeen⟩ := t.run_isDir now location
  rw [write, exec_bind_ok h]
  simp only
  rw [exec_bind_program, hdirRun]
  by_cases hdir : ∃ place, t.Shows location place .dir
  · rw [hdirSeen.mpr hdir]
    rfl
  · rw [Bool.eq_false_iff.mpr (mt hdirSeen.mp hdir)]
    obtain ⟨rfl, hpresent⟩ := htaken.resolve_left hdir
    obtain ⟨seen, hrun, hseen⟩ := t.run_isPresent now location
    show t.exec now (liftM (isPresent location) >>= _) = _
    rw [exec_bind_program, hrun, hseen.mpr hpresent]
    rfl

theorem exec_write_of_free {p : Path} {overwrite : Bool}
    (h : t.exec now (d.locationWithoutLinks p) = (.ok (ns, location), t)) (data : Bytes)
    (hfree : ¬ Taken t location overwrite) :
    t.exec now (d.write p data overwrite) = t.exec now (putInPlace p location data) := by
  obtain ⟨hdir, hpresent⟩ := not_or.mp hfree
  obtain ⟨dirSeen, hdirRun, hdirSeen⟩ := t.run_isDir now location
  rw [write, exec_bind_ok h]
  simp only
  rw [exec_bind_program, hdirRun, Bool.eq_false_iff.mpr (mt hdirSeen.mp hdir)]
  cases overwrite with
  | true => rfl
  | false =>
    obtain ⟨seen, hrun, hseen⟩ := t.run_isPresent now location
    have hnone : seen = false := Bool.eq_false_iff.mpr fun htrue => hpresent ⟨rfl, hseen.mp htrue⟩
    show t.exec now (liftM (isPresent location) >>= _) = _
    rw [exec_bind_program, hrun, hnone]
    rfl

inductive WriteOutcome (now : Instant) (t : OsTree) (root : Place) (names : List Name) (p : Path)
    (data : Bytes) (overwrite : Bool) : Except Fault Entry → OsTree → Prop where
  | refused (why : Fault) : WriteOutcome now t root names p data overwrite (.error why) t
  | failed {u : OsTree} {k : Nat} (why : OsError) : t.Clear root names → k < names.length →
      t.Paved u (root ++ names.take k) →
      WriteOutcome now t root names p data overwrite (.error (.io why)) u
  | written {u : OsTree} : t.Clear root names → names ≠ [] →
      t.get? (root ++ names) ≠ some .dir →
      (overwrite = false → t.get? (root ++ names) = none) →
      t.Written u (root ++ names) data now →
      WriteOutcome now t root names p data overwrite (.ok (.written p data.length now)) u

section Write

variable {p : Path} {segments init : List Text} {s : Text} {overwrite : Bool} {root : Place}

theorem parent_locationOf (d : DiskStore) (ns : Namespace)
    (hsegments : ∀ x ∈ segments, x.IsSegment) :
    parent (d.locationOf ns segments) = ofComponents (isAbsolute (d.root ns))
      (components (d.root ns) ++ segments.filter (· ≠ ['.'])).dropLast :=
  parent_foldl_join hsegments _

theorem getLast?_namesOf_dot (hsegments : ∀ x ∈ init ++ [['.']], x.IsSegment) :
    (namesOf (d.locationOf ns (init ++ [['.']]))).getLast? = some dot := by
  rw [namesOf_locationOf hsegments (by simp), List.map_append, List.map_singleton,
    ← List.append_assoc, List.getLast?_concat]
  rfl

/-- A file that should take the place of the root itself is put nowhere: the directory of the root
is there already. -/
theorem putInPlace_at_root (now : Instant) {dir : Place}
    (hleads : t.Leads ((components (d.root ns)).dropLast.map Utf8.encode) dir)
    (hsegments : ∀ x ∈ init ++ [['.']], x.IsSegment) (hnil : init.filter (· ≠ ['.']) = [])
    (p : Path) (data : Bytes) :
    ∃ why, t.exec now (putInPlace p (d.locationOf ns (init ++ [['.']])) data) =
      (.error (.io why), t) := by
  have hfilter : (init ++ [['.']]).filter (· ≠ ['.']) = init.filter (· ≠ ['.']) := by simp
  have hparent := parent_locationOf d ns hsegments
  rw [hfilter, hnil, List.append_nil,
    ← List.append_nil (components (d.root ns)).dropLast] at hparent
  have hempty : ∀ x ∈ ([] : List Text), x.IsPlain := by simp
  obtain ⟨why, u, k, -, hrun, hpaved⟩ := putInPlace_to_dot now p data
    (fun x hx => isSegment_of_mem_components (List.dropLast_subset _ hx))
    (fun hx => dot_not_mem_components _ (List.dropLast_subset _ hx)) hempty hleads (.here dir)
    hparent (getLast?_namesOf_dot hsegments)
  rw [List.map_nil, List.take_nil, List.append_nil] at hpaved
  obtain rfl := hpaved.eq_of_dir hleads.dir
  exact ⟨why, hrun⟩

theorem putInPlace_outcome_dot (now : Instant) (hroot : d.RootAt t ns root)
    (hplace : placeOf p = .ok (ns, init ++ [['.']])) (hclear : t.Clear root (namesBelow init))
    (data : Bytes) (overwrite : Bool) :
    ∃ r u, t.exec now (putInPlace p (d.locationOf ns (init ++ [['.']])) data) = (r, u) ∧
      WriteOutcome now t root (namesBelow init) p data overwrite r u := by
  have hsegments : ∀ x ∈ init ++ [['.']], x.IsSegment := fun x hx => isSegment_of_placeOf hplace hx
  have hplain : ∀ x ∈ init.filter (· ≠ ['.']), Text.IsPlain x := by
    intro x hx
    refine isPlain_of_placeOf hplace ?_
    rw [List.filter_append, List.mem_append]
    exact .inl hx
  have hbase : ∀ x ∈ components (d.root ns), x.IsSegment :=
    fun x hx => isSegment_of_mem_components hx
  rcases List.eq_nil_or_concat' (init.filter (· ≠ ['.'])) with hnil | ⟨before, last, hconcat⟩
  · obtain ⟨dir, hleads⟩ := hroot.leads_parent
    obtain ⟨why, hrun⟩ := putInPlace_at_root now hleads hsegments hnil p data
    exact ⟨_, t, hrun, .refused _⟩
  · have hfilter : (init ++ [['.']]).filter (· ≠ ['.']) = init.filter (· ≠ ['.']) := by simp
    have hparent := parent_locationOf d ns hsegments
    rw [hfilter, hconcat, ← List.append_assoc, List.dropLast_concat] at hparent
    rw [namesBelow, hconcat, List.map_append, List.map_singleton] at hclear ⊢
    rw [hconcat] at hplain
    obtain ⟨why, u, k, hk, hrun, hpaved⟩ := putInPlace_to_dot now p data hbase
      (dot_not_mem_components _) (fun x hx => hplain x (List.mem_append_left _ hx))
      hroot.leads_components hclear.of_append hparent (getLast?_namesOf_dot hsegments)
    refine ⟨_, u, hrun, .failed (k := k) why hclear ?_ ?_⟩
    · simp
      omega
    · rwa [List.take_append_of_le_length (by rwa [List.length_map])]

theorem putInPlace_below (now : Instant) (hroot : d.RootAt t ns root)
    (hplace : placeOf p = .ok (ns, init ++ [s])) (hs : s ≠ ['.'])
    (hclear : t.Clear root (namesBelow init ++ [Utf8.encode s])) (data : Bytes) :
    ((∃ why u, ∃ k ≤ (namesBelow init).length,
        t.exec now (putInPlace p (d.locationOf ns (init ++ [s])) data) = (.error (.io why), u) ∧
        t.Paved u (root ++ (namesBelow init).take k)) ∧
      ¬ (Draftable now t (d.locationOf ns (init ++ [s])) root (init.filter (· ≠ ['.'])) ∧
        checkLocation (d.locationOf ns (init ++ [s])) = .ok () ∧
        (Utf8.encode s).length ≤ nameLimit ∧
        t.get? (root ++ namesBelow init ++ [Utf8.encode s]) ≠ some .dir)) ∨
    ∃ u, t.exec now (putInPlace p (d.locationOf ns (init ++ [s])) data) =
        (.ok (.written p data.length now), u) ∧
      checkLocation (d.locationOf ns (init ++ [s])) = .ok () ∧
      t.get? (root ++ namesBelow init ++ [Utf8.encode s]) ≠ some .dir ∧
      t.Written u (root ++ namesBelow init ++ [Utf8.encode s]) data now := by
  have hsegments : ∀ x ∈ init ++ [s], x.IsSegment := fun x hx => isSegment_of_placeOf hplace hx
  have hfilter : (init ++ [s]).filter (· ≠ ['.']) = init.filter (· ≠ ['.']) ++ [s] := by simp [hs]
  have hplain : ∀ x ∈ init.filter (· ≠ ['.']) ++ [s], Text.IsPlain x := by
    rw [← hfilter]
    exact fun x hx => isPlain_of_placeOf hplace hx
  have hparent := parent_locationOf d ns hsegments
  rw [hfilter, ← List.append_assoc, List.dropLast_concat] at hparent
  have hnames : namesOf (d.locationOf ns (init ++ [s])) =
      (Text.segments (d.root ns)).map Utf8.encode ++ init.map Utf8.encode ++ [Utf8.encode s] := by
    rw [namesOf_locationOf hsegments (by simp), List.map_append, List.map_singleton,
      List.append_assoc]
  have hundot : undot ((Text.segments (d.root ns)).map Utf8.encode ++ init.map Utf8.encode) =
      (components (d.root ns) ++ init.filter (· ≠ ['.'])).map Utf8.encode := by
    rw [undot_append, undot_map_encode, undot_map_encode, List.map_append, components]
  have hlength : (namesBelow init).length = (init.filter (· ≠ ['.'])).length := List.length_map ..
  rw [hlength]
  exact putInPlace_to_name now p data (fun x hx => isSegment_of_mem_components hx)
    (dot_not_mem_components _) (fun x hx => hplain x (List.mem_append_left _ hx))
    hroot.leads_components (hplain s (by simp)) hclear hparent hnames hundot

/-- A write below a root that is a directory has one of these outcomes, whatever lies there. -/
theorem write_outcome (now : Instant) (hroot : d.RootAt t ns root)
    (hplace : placeOf p = .ok (ns, segments)) (data : Bytes) (overwrite : Bool) :
    ∃ r u, t.exec now (d.write p data overwrite) = (r, u) ∧
      WriteOutcome now t root (namesBelow segments) p data overwrite r u := by
  have hplain : ∀ x ∈ segments.filter (· ≠ ['.']), Text.IsPlain x :=
    fun x hx => isPlain_of_placeOf hplace hx
  have hsegments : ∀ x ∈ segments, x.IsSegment := fun x hx => isSegment_of_placeOf hplace hx
  obtain ⟨r, hrefuse, hok, -⟩ := refuseLinks_outcome now p hplain hroot.leads_segments
  have hlinks := exec_locationWithoutLinks hplace hrefuse
  cases r with
  | error why => exact ⟨_, t, exec_write_of_links hlinks data overwrite, .refused why⟩
  | ok _ =>
    have hclear : t.Clear root (namesBelow segments) := hok rfl
    by_cases htaken : Taken t (d.locationOf ns segments) overwrite
    · exact ⟨_, t, exec_write_of_taken hlinks data htaken, .refused _⟩
    rw [exec_write_of_free hlinks data htaken]
    rcases List.eq_nil_or_concat' segments with rfl | ⟨init, s, rfl⟩
    · exact absurd (.inl ⟨root, hroot.fits, hroot.leads.located, hroot.leads.dir⟩) htaken
    by_cases hs : s = ['.']
    · subst hs
      rw [namesBelow_concat_dot] at hclear ⊢
      exact putInPlace_outcome_dot now hroot hplace hclear data overwrite
    · rw [namesBelow_concat hs] at hclear ⊢
      rcases putInPlace_below now hroot hplace hs hclear data with
        ⟨⟨why, u, k, hk, hrun, hpaved⟩, -⟩ | ⟨u, hrun, hfits, hfree, hwritten⟩
      · refine ⟨_, u, hrun, .failed (k := k) why hclear ?_ ?_⟩
        · rw [List.length_append, List.length_singleton]
          omega
        · rwa [List.take_append_of_le_length hk]
      · rw [List.append_assoc] at hfree hwritten
        refine ⟨_, u, hrun, .written hclear (by simp) hfree (fun hkeep => ?_) hwritten⟩
        by_contra hsome
        obtain ⟨n, hn⟩ := Option.ne_none_iff_exists'.mp hsome
        have hlink : ∀ target, n ≠ .link target := by
          rintro target rfl
          exact hclear.get?_ne_link hroot.leads.dir (List.prefix_refl _) target hn
        rw [← List.append_assoc] at hn
        exact htaken (.inr ⟨hkeep, _, n, hroot.shows_of_node hsegments hfits hn hlink⟩)

/-- Nothing keeps a file from being written: the way is clear, the place is free, and no name and
no location is too long, those of the draft included. -/
structure Writable (now : Instant) (t : OsTree) (root : Place) (location : Text)
    (segments : List Text) (overwrite : Bool) : Prop where
  clear : t.Clear root (namesBelow segments)
  noDir : t.get? (root ++ namesBelow segments) ≠ some .dir
  vacant : overwrite = false → t.get? (root ++ namesBelow segments) = none
  short : ∀ s ∈ segments, (Utf8.encode s).length ≤ nameLimit
  fits : checkLocation location = .ok ()
  draftShort : (Utf8.encode (draftName now t location)).length ≤ nameLimit
  draftFits : checkLocation (draftOf now t location) = .ok ()

theorem write_of_writable (now : Instant) (hroot : d.RootAt t ns root)
    (hplace : placeOf p = .ok (ns, init ++ [s])) (hdots : ['.'] ∉ init ++ [s])
    (h : Writable now t root (d.locationOf ns (init ++ [s])) (init ++ [s]) overwrite)
    (data : Bytes) :
    ∃ u, t.exec now (d.write p data overwrite) = (.ok (.written p data.length now), u) ∧
      t.Written u (root ++ namesBelow (init ++ [s])) data now := by
  have hs : s ≠ ['.'] := fun hs => hdots (by simp [hs])
  have hfilter : (init ++ [s]).filter (· ≠ ['.']) = init ++ [s] := by
    rw [List.filter_eq_self]
    intro x hx
    simpa using ne_of_mem_of_not_mem hx hdots
  have hplain : ∀ x ∈ (init ++ [s]).filter (· ≠ ['.']), Text.IsPlain x :=
    fun x hx => isPlain_of_placeOf hplace hx
  have hsegments : ∀ x ∈ init ++ [s], x.IsSegment := fun x hx => isSegment_of_placeOf hplace hx
  obtain ⟨r, hrefuse, -, hback⟩ := refuseLinks_outcome now p hplain hroot.leads_segments
  obtain rfl : r = .ok () := hback (by rw [hfilter]; exact h.fits) h.clear
  have hlinks := exec_locationWithoutLinks hplace hrefuse
  have hfree : ¬ Taken t (d.locationOf ns (init ++ [s])) overwrite := by
    rintro (⟨q, hshows⟩ | ⟨hkeep, q, n, hshows⟩)
    · obtain rfl := hroot.place_of_shows hsegments h.clear hshows
      exact h.noDir hshows.node
    · obtain rfl := hroot.place_of_shows hsegments h.clear hshows
      have hnode := hshows.node
      rw [h.vacant hkeep] at hnode
      cases hnode
  have hclear := h.clear
  have hnoDir := h.noDir
  rw [namesBelow_concat hs] at hclear hnoDir ⊢
  rw [exec_write_of_free hlinks data hfree]
  rcases putInPlace_below now hroot hplace hs hclear data with
    ⟨-, hbad⟩ | ⟨u, hrun, -, -, hwritten⟩
  · refine absurd ⟨⟨⟨?_, fun x hx => ?_, fun content modified hfile => ?_⟩, h.draftFits,
      h.draftShort⟩, h.fits, h.short s (by simp), by rwa [List.append_assoc]⟩ hbad
    · have hdraft := isPlain_draftName now t (d.locationOf ns (init ++ [s]))
      have hlimit := (checkLocation_eq_ok.mp h.draftFits).2
      have hsize := byteSize_join_le hdraft.segment (parent (d.locationOf ns (init ++ [s])))
      rw [draftOf] at hlimit
      omega
    · exact h.short x (List.mem_append_left _ (List.mem_of_mem_filter hx))
    · rcases hclear.concat_cases hroot.leads.dir with ⟨hdir, -⟩ | ⟨hnone, -⟩
      · rw [← namesBelow, hdir] at hfile
        cases hfile
      · rw [← namesBelow, hnone] at hfile
        cases hfile
  · exact ⟨u, hrun, by rwa [← List.append_assoc]⟩

end Write

end DiskStore
end GrantFs
