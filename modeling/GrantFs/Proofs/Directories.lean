import GrantFs.Proofs.Location
import GrantFs.Proofs.OsRun
import GrantFs.Store.Disk

/-! # Making and removing directories

Directories are made and removed along the chain of locations that a list of names has below a base.
Main statements: making them turns some first part of the list into directories and changes nothing
else, all of it unless a name or the location is too long or a file is in the way; and removing them
takes away some last part of the list, up to a directory that still holds something. -/
namespace GrantFs.OsTree

open Os

variable {now : Instant} {t u : OsTree} {location : Text} {place dir : Place} {names : List Name}
  {why : OsError}

theorem isName_encode {s : Text} (h : s.IsPlain) (hshort : (Utf8.encode s).length ≤ nameLimit) :
    IsName (Utf8.encode s) where
  ne_dot := fun hdot => h.ne_dot (Utf8.encode_injective hdot)
  ne_dotDot := fun hdots => h.ne_dotDot (Utf8.encode_injective hdots)
  short := hshort
  toIsPiece := isPiece_encode h.segment

theorem answer_makeDir_error (hfits : checkLocation location = .ok ())
    (h : t.vacancy ((Text.segments location).map Utf8.encode) = .error why) :
    answer now [] (.makeDir location) t = (.error why, t) := by
  show t.update _ = _
  rw [hfits]
  show t.update (t.makeDir _) = _
  rw [makeDir, h]
  rfl

theorem answer_makeDir_ok (hfits : checkLocation location = .ok ())
    (h : t.vacancy ((Text.segments location).map Utf8.encode) = .ok place) :
    answer now [] (.makeDir location) t = (.ok (), t.put place .dir) := by
  show t.update _ = _
  rw [hfits]
  show t.update (t.makeDir _) = _
  rw [makeDir, h]
  rfl

theorem answer_makeDir_long (hlong : checkLocation location = .error why) :
    answer now [] (.makeDir location) t = (.error why, t) := by
  show t.update _ = _
  rw [hlong]
  rfl

theorem vacancy_of_error (h : t.locate false names = .error why) :
    t.vacancy names = .error why := by
  rw [vacancy, h]
  rfl

theorem vacancy_of_none (h : t.locate false names = .ok place) (hnone : t.get? place = none) :
    t.vacancy names = .ok place := by
  rw [vacancy, h]
  change (do
    if (t.get? place).isSome then throw OsError.exists
    pure place) = Except.ok place
  rw [hnone]
  rfl

theorem vacancy_of_some (h : t.locate false names = .ok place) (hsome : t.get? place ≠ none) :
    t.vacancy names = .error .exists := by
  obtain ⟨n, hn⟩ := Option.ne_none_iff_exists'.mp hsome
  rw [vacancy, h]
  change (do
    if (t.get? place).isSome then throw OsError.exists
    pure place) = Except.error OsError.exists
  rw [hn]
  rfl

theorem answer_makeDir_inside (now : Instant) (hleads : t.Leads names place) {s : Text}
    (hs : s.IsPlain)
    (hsegments : (Text.segments location).map Utf8.encode = names ++ [Utf8.encode s])
    (hne : location ≠ []) :
    (checkLocation location = .ok () ∧ IsName (Utf8.encode s) ∧
        t.get? (place ++ [Utf8.encode s]) = none ∧
        answer now [] (.makeDir location) t = (.ok (), t.put (place ++ [Utf8.encode s]) .dir)) ∨
      ∃ why, why ≠ .noEntry ∧ answer now [] (.makeDir location) t = (.error why, t) ∧
        (checkLocation location = .ok () → (Utf8.encode s).length ≤ nameLimit →
          t.get? (place ++ [Utf8.encode s]) ≠ none) := by
  by_cases hfits : checkLocation location = .ok ()
  · by_cases hlong : nameLimit < (Utf8.encode s).length
    · refine .inr ⟨.nameTooLong, by simp, answer_makeDir_error hfits (vacancy_of_error ?_), ?_⟩
      · rw [hsegments]
        exact hleads.locate_long hlong false
      · intro _ hshort
        omega
    · have hname := isName_encode hs (Nat.le_of_not_lt hlong)
      have hlocated : t.locate false (names ++ [Utf8.encode s]) =
          .ok (place ++ [Utf8.encode s]) := hleads.locate_name hname.toOrdinary (by simp)
      rw [← hsegments] at hlocated
      by_cases hnone : t.get? (place ++ [Utf8.encode s]) = none
      · exact .inl ⟨hfits, hname, hnone,
          answer_makeDir_ok hfits (vacancy_of_none hlocated hnone)⟩
      · exact .inr ⟨.exists, by simp, answer_makeDir_error hfits (vacancy_of_some hlocated hnone),
          fun _ _ => hnone⟩
  · have hlong := checkLocation_long hne hfits
    exact .inr ⟨.nameTooLong, by simp, answer_makeDir_long hlong, fun h => absurd h hfits⟩

theorem exec_settle_of_dir (h : t.Shows location place .dir) (result : Except OsError Unit) :
    t.exec now (settle location result) = (.ok (), t) := by
  cases result with
  | ok _ => rfl
  | error why =>
    obtain ⟨seen, hrun, hseen⟩ := t.run_isDir now location
    rw [settle, exec_bind_program, hrun, hseen.mpr ⟨place, h⟩]
    rfl

theorem exec_settle_of_not_dir (h : ∀ place, ¬ t.Shows location place .dir) (why : OsError) :
    t.exec now (settle location (.error why)) = (.error (.io why), t) := by
  obtain ⟨seen, hrun, hseen⟩ := t.run_isDir now location
  have hfalse : seen = false := by
    rw [Bool.eq_false_iff]
    intro htrue
    obtain ⟨place, hshows⟩ := hseen.mp htrue
    exact h place hshows
  rw [settle, exec_bind_program, hrun, hfalse]
  rfl

theorem exec_makeDirsAmong_settled {result : Except OsError Unit}
    (h : answer now [] (.makeDir location) t = (result, u)) (hne : result ≠ .error .noEntry)
    (above : List Text) :
    t.exec now (makeDirsAmong (location :: above)) = u.exec now (settle location result) := by
  rw [makeDirsAmong, exec_bind_program, run_ask, h]
  cases result with
  | ok _ => rfl
  | error why =>
    cases why with
    | noEntry => exact absurd rfl hne
    | _ => rfl

theorem exec_makeDirsAmong_of_dir
    (hleads : t.Leads ((Text.segments location).map Utf8.encode) place)
    (hshows : t.Shows location place .dir) (above : List Text) :
    t.exec now (makeDirsAmong (location :: above)) = (.ok (), t) := by
  obtain ⟨entry, hentry, hsome⟩ := hleads.exists_entry
  rw [exec_makeDirsAmong_settled
    (answer_makeDir_error hshows.fits (vacancy_of_some hentry hsome)) (by simp)]
  exact exec_settle_of_dir hshows _

theorem exec_makeDirsAmong_above (h : answer now [] (.makeDir location) t = (.error .noEntry, u))
    (above : List Text) :
    t.exec now (makeDirsAmong (location :: above)) = u.exec now (do
      makeDirsAmong above
      let again ← (ask (.makeDir location) : OsProgram (Except OsError Unit))
      settle location again) := by
  rw [makeDirsAmong, exec_bind_program, run_ask, h]

/-- There are directories now at the place and above it, and nothing else has changed. -/
def Paved (t u : OsTree) (place : Place) : Prop :=
  ∀ q, u.get? q = if q <+: place then some .dir else t.get? q

theorem paved_self (hdir : t.get? place = some .dir) : t.Paved t place := by
  intro q
  split
  next hq =>
    by_cases heq : q = place
    · rw [heq, hdir]
    · exact dir_on_way hq heq (by simp [hdir])
  next => rfl

theorem Paved.eq_of_dir (h : t.Paved u place) (hdir : t.get? place = some .dir) : u = t := by
  refine ext_get? fun q => ?_
  rw [h q]
  exact (paved_self hdir q).symm

theorem Paved.get?_self (h : t.Paved u place) : u.get? place = some .dir := by
  rw [h, if_pos (List.prefix_refl place)]

theorem Paved.put (h : t.Paved u place) {name : Name} (hname : IsName name) :
    t.Paved (u.put (place ++ [name]) .dir) (place ++ [name]) := by
  intro q
  rw [get?_put (fits_concat.mpr ⟨hname, h.get?_self, .inl rfl⟩), h]
  by_cases heq : q = place ++ [name]
  · rw [if_pos heq, if_pos (heq ▸ List.prefix_refl _)]
  · have hprefix : q <+: place ++ [name] ↔ q <+: place := by
      rw [List.prefix_concat_iff]
      exact or_iff_right heq
    simp only [if_neg heq, hprefix]

theorem Paved.keeps (h : t.Paved u place)
    (hlinks : ∀ q target, q <+: place → t.get? q ≠ some (.link target)) : t.Keeps u := by
  constructor
  · intro q hq
    rw [h, hq, ite_self]
  · intro q target hq
    rw [h, if_neg fun hprefix => hlinks q target hprefix hq, hq]

theorem Paved.trans {v : OsTree} {place' : Place} (h : t.Paved u place) (h' : u.Paved v place')
    (hplace : place <+: place') : t.Paved v place' := by
  intro q
  rw [h']
  by_cases hq : q <+: place'
  · rw [if_pos hq, if_pos hq]
  · rw [if_neg hq, if_neg hq, h, if_neg fun hle => hq (hle.trans hplace)]

theorem Paved.get?_append {more : Place} (h : t.Paved u place) (hmore : more ≠ []) :
    u.get? (place ++ more) = t.get? (place ++ more) := by
  rw [h, if_neg]
  intro hprefix
  have hlength := hprefix.length_le
  have hpositive := List.length_pos_iff.mpr hmore
  rw [List.length_append] at hlength
  omega

/-- Nothing keeps the names below a place from becoming directories. -/
structure Makeable (t : OsTree) (location : Text) (place : Place) (names : List Text) : Prop where
  fits : Text.byteSize location < locationLimit
  short : ∀ s ∈ names, (Utf8.encode s).length ≤ nameLimit
  noFile : ∀ content modified,
    t.get? (place ++ names.map Utf8.encode) ≠ some (.file content modified)

/-- What comes of making the names below a place: all of them are directories now, or some first
part of them is and there was a reason to stop. -/
inductive Made (t : OsTree) (location : Text) (place : Place) (below : List Text) :
    Except Fault Unit × OsTree → Prop
  | whole {u : OsTree} : t.Paved u (place ++ below.map Utf8.encode) →
      Made t location place below (.ok (), u)
  | part {u : OsTree} (why : OsError) (k : Nat) : k ≤ below.length →
      t.Paved u (place ++ (below.map Utf8.encode).take k) →
      ¬ t.Makeable location place below → Made t location place below (.error (.io why), u)

theorem Made.of_unmakeable (hdir : t.get? place = some .dir) (why : OsError)
    {below : List Text} (hbad : ¬ t.Makeable location place below) :
    t.Made location place below (.error (.io why), t) := by
  refine .part why 0 (Nat.zero_le _) ?_ hbad
  simpa using paved_self hdir

theorem Makeable.last {init : List Text} {s : Text} (h : t.Makeable location place (init ++ [s]))
    (hpaved : t.Paved u (place ++ init.map Utf8.encode)) :
    u.Makeable location (place ++ init.map Utf8.encode) [s] where
  fits := h.fits
  short := fun x hx => h.short x (List.mem_append_right _ hx)
  noFile := fun content modified => by
    rw [hpaved.get?_append (by simp), List.append_assoc, ← List.map_append]
    exact h.noFile content modified

theorem Made.concat {out : Except Fault Unit × OsTree} {init : List Text} {s : Text}
    (hpaved : t.Paved u (place ++ init.map Utf8.encode))
    (h : u.Made location (place ++ init.map Utf8.encode) [s] out) :
    t.Made location place (init ++ [s]) out := by
  cases h with
  | whole hlast =>
    refine .whole ?_
    rw [List.map_append, ← List.append_assoc]
    exact hpaved.trans hlast (List.prefix_append ..)
  | part why k hk hlast hbad =>
    refine .part why (init.length + k) ?_ ?_ fun hmake => hbad (hmake.last hpaved)
    · rw [List.length_append]
      omega
    · have htake : ((init ++ [s]).map Utf8.encode).take (init.length + k) =
          init.map Utf8.encode ++ ([s].map Utf8.encode).take k := by
        rw [List.map_append, ← List.length_map Utf8.encode, List.take_length_add_append]
      rw [htake, ← List.append_assoc]
      exact hpaved.trans hlast (List.prefix_append ..)

/-- Where the chain above stops, nothing is at the place of the last name, and the whole chain
stops. -/
theorem Made.stopped {init : List Text} {s : Text} {above : Text}
    (h : t.Made above place init (.error (.io why), u))
    (hfits : Text.byteSize location < locationLimit → Text.byteSize above < locationLimit)
    (hnone : t.get? (place ++ init.map Utf8.encode) = none) :
    t.Made location place (init ++ [s]) (.error (.io why), u) := by
  cases h with
  | part _ k hk hpaved hbad =>
    refine .part why k (by rw [List.length_append]; omega) ?_ fun hmake => hbad ?_
    · rwa [List.map_append, List.take_append_of_le_length (by rwa [List.length_map])]
    · exact ⟨hfits hmake.fits, fun x hx => hmake.short x (List.mem_append_left _ hx),
        by simp [hnone]⟩

theorem undot_map_encode (segments : List Text) :
    undot (segments.map Utf8.encode) = (segments.filter (· ≠ ['.'])).map Utf8.encode := by
  have hdot : ∀ s : Text, Utf8.encode s = dot ↔ s = ['.'] := by
    intro s
    constructor
    · intro h
      exact Utf8.encode_injective h
    · rintro rfl
      rfl
  rw [undot, List.filter_map]
  congr 1
  refine List.filter_congr fun s _ => ?_
  simp [hdot]

theorem undot_of_plain {segments : List Text} (h : ∀ s ∈ segments, s.IsPlain) :
    undot (segments.map Utf8.encode) = segments.map Utf8.encode := by
  have hfilter : segments.filter (· ≠ ['.']) = segments := by
    rw [List.filter_eq_self]
    intro s hs
    simpa using (h s hs).ne_dot
  rw [undot_map_encode, hfilter]

theorem Leads.below {base below : List Text} (h : t.Leads (base.map Utf8.encode) place)
    (hbelow : ∀ s ∈ below, s.IsPlain) (hdir : t.get? (place ++ below.map Utf8.encode) = some .dir) :
    t.Leads ((base ++ below).map Utf8.encode) (place ++ below.map Utf8.encode) := by
  have hundot := undot_of_plain hbelow
  rw [← hundot] at hdir
  have happend := h.append hdir
  rwa [hundot, ← List.map_append] at happend

section Chain

variable {absolute : Bool} {base below : List Text}

theorem ofComponents_ne_nil {names : List Text} (hnames : ∀ s ∈ names, s.IsSegment)
    (hne : names ≠ []) (absolute : Bool) : ofComponents absolute names ≠ [] := by
  intro hnil
  have hsegments := segments_ofComponents hnames absolute
  rw [hnil] at hsegments
  exact hne hsegments.symm

theorem makeDirsAmong_base (hbase : ∀ s ∈ base, s.IsSegment)
    (hleads : t.Leads (base.map Utf8.encode) place) :
    t.exec now (makeDirsAmong (chain absolute base)) = (.ok (), t) ∨
      (∃ why, t.exec now (makeDirsAmong (chain absolute base)) = (.error (.io why), t)) ∧
        ¬ Text.byteSize (ofComponents absolute base) < locationLimit := by
  rcases List.eq_nil_or_concat' base with rfl | ⟨init, last, rfl⟩
  · exact .inl rfl
  · have hne : init ++ [last] ≠ [] := by simp
    rw [chain_concat]
    by_cases hfits : checkLocation (ofComponents absolute (init ++ [last])) = .ok ()
    · have hshows : t.Shows (ofComponents absolute (init ++ [last])) place .dir := by
        refine ⟨hfits, ?_, hleads.dir⟩
        rw [namesOf_ofComponents hbase hne]
        exact hleads.located
      refine .inl (exec_makeDirsAmong_of_dir ?_ hshows _)
      rwa [segments_ofComponents hbase]
    · have hsome := ofComponents_ne_nil hbase hne absolute
      have hlong := checkLocation_long hsome hfits
      refine .inr ⟨⟨.nameTooLong, ?_⟩, fun hsize => hfits (checkLocation_eq_ok.mpr ⟨hsome, hsize⟩)⟩
      rw [exec_makeDirsAmong_settled (answer_makeDir_long hlong) (by simp)]
      exact exec_settle_of_not_dir (fun place hshows => hfits hshows.fits) _

theorem checkLocation_ofComponents_of_append {names more : List Text}
    (hnames : ∀ s ∈ names, s.IsSegment) (hne : names ≠ [])
    (h : checkLocation (ofComponents absolute (names ++ more)) = .ok ()) :
    checkLocation (ofComponents absolute names) = .ok () := by
  rw [checkLocation_eq_ok] at h ⊢
  have hsize := byteSize_ofComponents_append absolute names more
  exact ⟨ofComponents_ne_nil hnames hne absolute, by omega⟩

theorem checkLocation_ofComponents_components (h : checkLocation location = .ok ())
    (hne : components location ≠ []) :
    checkLocation (ofComponents (isAbsolute location) (components location)) = .ok () := by
  rw [checkLocation_eq_ok] at h ⊢
  have hsize := byteSize_ofComponents_components location
  exact ⟨ofComponents_ne_nil (fun _ hx => isSegment_of_mem_components hx) hne _, by omega⟩

theorem settle_makeDir_inside (now : Instant) (hleads : t.Leads names place) {s : Text}
    (hs : s.IsPlain) (hlink : ∀ target, t.get? (place ++ [Utf8.encode s]) ≠ some (.link target))
    (hsegments : (Text.segments location).map Utf8.encode = names ++ [Utf8.encode s])
    (hnames : namesOf location = names ++ [Utf8.encode s]) (hne : location ≠ []) :
    ∃ result t', answer now [] (.makeDir location) t = (result, t') ∧ result ≠ .error .noEntry ∧
      t.Made location place [s] (t'.exec now (settle location result)) := by
  rcases answer_makeDir_inside now hleads hs hsegments hne with
    ⟨-, hname, -, hanswer⟩ | ⟨why, hwhy, hanswer, hsome⟩
  · exact ⟨.ok (), _, hanswer, by simp,
      .whole ((paved_self hleads.dir).put hname)⟩
  · refine ⟨.error why, t, hanswer, by simpa using hwhy, ?_⟩
    by_cases hdir : ∃ p, t.Shows location p .dir
    · obtain ⟨p, hshows⟩ := hdir
      have hlocated := hshows.located
      rw [hnames] at hlocated
      have hshort : (Utf8.encode s).length ≤ nameLimit := by
        by_contra hlong
        rw [hleads.locate_long (by omega) true] at hlocated
        cases hlocated
      rw [hleads.locate_name (isName_encode hs hshort).toOrdinary fun _ => hlink] at hlocated
      cases hlocated
      rw [exec_settle_of_dir hshows]
      exact .whole (paved_self hshows.node)
    · rw [exec_settle_of_not_dir (fun p hp => hdir ⟨p, hp⟩) why]
      refine .of_unmakeable hleads.dir why fun hmake => ?_
      have hfits := checkLocation_eq_ok.mpr ⟨hne, hmake.fits⟩
      have hshort := hmake.short s (List.mem_singleton_self s)
      obtain ⟨n, hn⟩ := Option.ne_none_iff_exists'.mp (hsome hfits hshort)
      cases n with
      | link target => exact hlink target hn
      | file content modified => exact hmake.noFile content modified hn
      | dir =>
        refine hdir ⟨place ++ [Utf8.encode s], hfits, ?_, hn⟩
        rw [hnames]
        exact hleads.locate_name (isName_encode hs hshort).toOrdinary fun _ => hlink

/-- Induction on the names below the base, the last one first: either it is made inside of its
directory, or its directory is missing and the chain above is made before. -/
theorem made_makeDirsAmong (now : Instant) (absolute : Bool)
    (hbase : ∀ s ∈ base, s.IsSegment) (hbelow : ∀ s ∈ below, s.IsPlain)
    (hleads : t.Leads (base.map Utf8.encode) place)
    (hclear : t.Clear place (below.map Utf8.encode)) :
    t.Made (ofComponents absolute (base ++ below)) place below
      (t.exec now (makeDirsAmong (chain absolute (base ++ below)))) := by
  induction below using List.reverseRecOn with
  | nil =>
    rw [List.append_nil]
    rcases makeDirsAmong_base hbase hleads with hrun | ⟨⟨why, hrun⟩, hfits⟩
    · rw [hrun]
      exact .whole (by simpa using paved_self hleads.dir)
    · rw [hrun]
      exact .of_unmakeable hleads.dir why fun hmake => hfits hmake.fits
  | append_singleton init s ih =>
    have hinit : ∀ x ∈ init, x.IsPlain := fun x hx => hbelow x (by simp [hx])
    have hs : s.IsPlain := hbelow s (by simp)
    have hall : ∀ x ∈ base ++ init ++ [s], x.IsSegment := by
      intro x hx
      rw [List.append_assoc, List.mem_append] at hx
      exact hx.elim (hbase x) fun hx => (hbelow x hx).segment
    have hne : base ++ init ++ [s] ≠ [] := by simp
    have hlocation := ofComponents_ne_nil hall hne absolute
    have hsegments := congrArg (List.map Utf8.encode) (segments_ofComponents hall absolute)
    have hnames := namesOf_ofComponents hall hne absolute
    rw [List.map_append, List.map_singleton] at hsegments hnames hclear
    rw [← List.append_assoc, chain_concat]
    rcases hclear.concat_cases hleads.dir with ⟨hdir, -, hlink⟩ | ⟨hnone, hgo⟩
    · -- The directory is there.
      have hinside := hleads.below hinit hdir
      obtain ⟨result, t', hanswer, hother, hmade⟩ :=
        settle_makeDir_inside now hinside hs hlink hsegments hnames hlocation
      rw [exec_makeDirsAmong_settled hanswer hother]
      exact hmade.concat (paved_self hdir)
    · -- The directory is missing, and the chain above comes first.
      by_cases hfits : checkLocation (ofComponents absolute (base ++ init ++ [s])) = .ok ()
      · have hlocated := hleads.locate_of_failed (.inl (by simp)) (hgo false)
        rw [← List.append_assoc, ← List.map_append, ← hsegments] at hlocated
        rw [exec_makeDirsAmong_above (answer_makeDir_error hfits (vacancy_of_error hlocated))]
        have habove := ih hinit hclear.of_append
        generalize hrun : t.exec now (makeDirsAmong (chain absolute (base ++ init))) = out at habove
        cases habove with
        | @whole u hpaved =>
          have hkeeps := hpaved.keeps fun q target hq =>
            hclear.of_append.get?_ne_link hleads.dir hq target
          have hinside := (hleads.keeps hkeeps).below hinit hpaved.get?_self
          have hvacant : u.get? (place ++ init.map Utf8.encode ++ [Utf8.encode s]) = none := by
            rw [hpaved.get?_append (by simp)]
            by_contra hsome
            rw [inDir hsome] at hnone
            cases hnone
          obtain ⟨result, t', hanswer, -, hmade⟩ :=
            settle_makeDir_inside now hinside hs (by rw [hvacant]; simp) hsegments hnames
              hlocation
          rw [exec_bind_ok hrun, exec_bind_program, run_ask, hanswer]
          exact hmade.concat hpaved
        | part why k hk hpaved hbad =>
          rw [exec_bind_error hrun]
          refine (Made.part why k hk hpaved hbad).stopped (fun hsize => ?_) hnone
          have hlonger := byteSize_ofComponents_append absolute (base ++ init) [s]
          omega
      · have hnodir : ∀ p, ¬ t.Shows (ofComponents absolute (base ++ init ++ [s])) p .dir :=
          fun p hshows => hfits hshows.fits
        rw [exec_makeDirsAmong_settled (answer_makeDir_long (checkLocation_long hlocation hfits))
          (by simp), exec_settle_of_not_dir hnodir]
        refine .of_unmakeable hleads.dir _ fun hmake => hfits ?_
        exact checkLocation_eq_ok.mpr ⟨hlocation, hmake.fits⟩

theorem exec_makeDirs_slash : t.exec now (makeDirs "/") = (.ok (), t) := by
  have hanswer : answer now [] (.makeDir "/") t = (.error .exists, t) :=
    answer_makeDir_error rfl
      (vacancy_of_some (rfl : t.locate false [] = .ok []) (by rw [get?_nil]; simp))
  have hshows : t.Shows "/" [] .dir := ⟨rfl, rfl, rfl⟩
  show t.exec now (makeDirsAmong ["/"]) = _
  rw [exec_makeDirsAmong_settled hanswer (by simp)]
  exact exec_settle_of_dir hshows _

theorem made_makeDirs (now : Instant) (absolute : Bool)
    (hbase : ∀ s ∈ base, s.IsSegment) (hdots : ['.'] ∉ base) (hbelow : ∀ s ∈ below, s.IsPlain)
    (hleads : t.Leads (base.map Utf8.encode) place)
    (hclear : t.Clear place (below.map Utf8.encode)) :
    t.Made (ofComponents absolute (base ++ below)) place below
      (t.exec now (makeDirs (ofComponents absolute (base ++ below)))) := by
  by_cases hne : base ++ below = []
  · obtain ⟨rfl, rfl⟩ := List.append_eq_nil_iff.mp hne
    have hrun : t.exec now (makeDirs (ofComponents absolute ([] ++ []))) = (.ok (), t) := by
      cases absolute with
      | false => rfl
      | true => exact exec_makeDirs_slash
    rw [hrun]
    exact .whole (by simpa using paved_self hleads.dir)
  · have hall : ∀ x ∈ base ++ below, x.IsSegment := by
      intro x hx
      exact (List.mem_append.mp hx).elim (hbase x) fun hx => (hbelow x hx).segment
    have hplain : ['.'] ∉ base ++ below := by
      intro hdot
      exact (List.mem_append.mp hdot).elim hdots fun hdot => (hbelow _ hdot).ne_dot rfl
    have hsome : (ofComponents absolute (base ++ below)).isEmpty = false := by
      simpa using ofComponents_ne_nil hall hne absolute
    rw [makeDirs, hsome, cons_ancestors hall hplain hne]
    exact made_makeDirsAmong now absolute hbase hbelow hleads hclear

end Chain

/-- Everything behind `start` on the way to `stop` is gone, and nothing else has changed. -/
def Cut (t u : OsTree) (start stop : Place) : Prop :=
  ∀ q, u.get? q = if start <+: q ∧ q ≠ start ∧ q <+: stop then none else t.get? q

theorem cut_self (t : OsTree) (place : Place) : t.Cut t place place := by
  intro q
  rw [if_neg]
  rintro ⟨hle, hne, hge⟩
  exact hne (hge.eq_of_length_le hle.length_le)

theorem Cut.concat {start stop : Place} {name : Name}
    (hcut : (t.erase (stop ++ [name])).Cut u start stop) (hstart : start <+: stop)
    (hbare : ∀ q, stop ++ [name] <+: q → q ≠ stop ++ [name] → t.get? q = none) :
    t.Cut u start (stop ++ [name]) := by
  intro q
  have hend : start <+: stop ++ [name] ∧ stop ++ [name] ≠ start := by
    refine ⟨hstart.trans (List.prefix_append ..), ?_⟩
    rintro rfl
    have hlength := hstart.length_le
    simp at hlength
  rw [hcut, get?_erase_of_bare (by simp) hbare]
  by_cases heq : q = stop ++ [name]
  · subst heq
    rw [if_pos rfl, ite_self, if_pos ⟨hend.1, hend.2, List.prefix_refl _⟩]
  · have hprefix : q <+: stop ++ [name] ↔ q <+: stop := by
      rw [List.prefix_concat_iff]
      exact or_iff_right heq
    simp only [if_neg heq, hprefix]

theorem keeps_put (hnone : t.get? place = none) (n : Node) : t.Keeps (t.put place n) :=
  keeps_put_of_not_dir (by simp [hnone]) (by simp [hnone]) n

theorem keeps_erase (hne : place ≠ []) : (t.erase place).Keeps t := by
  constructor
  · intro q hq
    rw [get?_erase hne] at hq
    split at hq
    · cases hq
    · exact hq
  · intro q target hq
    rw [get?_erase hne] at hq
    split at hq
    · cases hq
    · exact hq

theorem answer_removeDir_of_error (h : (do
      checkLocation location
      t.removeDir ((Text.segments location).map Utf8.encode)) = .error why) :
    answer now [] (.removeDir location) t = (.error why, t) := by
  show t.update _ = _
  rw [h]
  rfl

theorem answer_removeDir_of_ok (h : (do
      checkLocation location
      t.removeDir ((Text.segments location).map Utf8.encode)) = .ok u) :
    answer now [] (.removeDir location) t = (.ok (), u) := by
  show t.update _ = _
  rw [h]
  rfl

theorem removeDir_of_dir (hentry : t.entryOf names .invalidArgument = .ok place)
    (hdir : t.get? place = some .dir) :
    t.removeDir names =
      if t.below place = [] then .ok (t.erase place) else .error .notEmpty := by
  simp only [removeDir, bind, Except.bind, hentry, hdir]
  rfl

/-- Removing the directory of the last name below a base. The base need not lead anywhere any more,
but where it leads was in the larger tree `u` already. -/
theorem answer_removeDir_last (now : Instant) (hkeeps : t.Keeps u)
    {base init : List Text} {s : Text} (hleads : u.Leads (base.map Utf8.encode) place)
    (hinit : ∀ x ∈ init, x.IsPlain)
    (hdir : t.get? (place ++ init.map Utf8.encode ++ [Utf8.encode s]) = some .dir)
    (hsegments : (Text.segments location).map Utf8.encode =
      (base ++ init).map Utf8.encode ++ [Utf8.encode s]) :
    (answer now [] (.removeDir location) t =
        (.ok (), t.erase (place ++ init.map Utf8.encode ++ [Utf8.encode s])) ∧
      ∀ more, more ≠ [] →
        t.get? (place ++ init.map Utf8.encode ++ [Utf8.encode s] ++ more) = none) ∨
    (∃ why, answer now [] (.removeDir location) t = (.error why, t)) ∧
      (checkLocation location = .ok () → t.Leads (base.map Utf8.encode) place →
        ∃ more, more ≠ [] ∧
          t.get? (place ++ init.map Utf8.encode ++ [Utf8.encode s] ++ more) ≠ none) := by
  have habove : t.get? (place ++ init.map Utf8.encode) = some .dir :=
    inDir (by rw [hdir]; simp)
  have hname : IsName (Utf8.encode s) := named (by rw [hdir]; simp)
  cases hfits : checkLocation location with
  | error why =>
    refine .inr ⟨⟨why, answer_removeDir_of_error ?_⟩, by simp⟩
    rw [hfits]
    rfl
  | ok _ =>
    cases hentry : t.entryOf ((base ++ init).map Utf8.encode ++ [Utf8.encode s])
        .invalidArgument with
    | error why =>
      refine .inr ⟨⟨why, answer_removeDir_of_error ?_⟩, fun _ hbase => ?_⟩
      · rw [hfits, hsegments]
        show t.removeDir _ = _
        rw [removeDir, hentry]
        rfl
      · have hthere := (hbase.below hinit habove).entryOf hname.toOrdinary .invalidArgument
        rw [hentry] at hthere
        cases hthere
    | ok p =>
      obtain ⟨-, d, hd, rfl⟩ := ordinary_of_entryOf hentry
      obtain rfl := (hd.keeps hkeeps).unique (hleads.below hinit (hkeeps.dirs _ habove))
      by_cases hempty : t.below (place ++ init.map Utf8.encode ++ [Utf8.encode s]) = []
      · refine .inl ⟨answer_removeDir_of_ok ?_, below_eq_nil.mp hempty⟩
        rw [hfits, hsegments]
        exact (removeDir_of_dir hentry hdir).trans (if_pos hempty)
      · refine .inr ⟨⟨.notEmpty, answer_removeDir_of_error ?_⟩, fun _ _ => ?_⟩
        · rw [hfits, hsegments]
          exact (removeDir_of_dir hentry hdir).trans (if_neg hempty)
        · rw [below_eq_nil] at hempty
          push Not at hempty
          exact hempty

/-- Induction on the names below the base, the last one first. -/
theorem prune_outcome (now : Instant) (absolute : Bool) {base below : List Text}
    (hbase : ∀ s ∈ base, s.IsSegment) (hbelow : ∀ s ∈ below, s.IsPlain)
    (hleads : u.Leads (base.map Utf8.encode) place) (hkeeps : t.Keeps u)
    (hdir : t.get? (place ++ below.map Utf8.encode) = some .dir) :
    ∃ j ≤ below.length, ∃ v,
      t.run now (DiskStore.prune ((chain absolute (base ++ below)).take below.length)) = ((), v) ∧
        t.Cut v (place ++ (below.map Utf8.encode).take j) (place ++ below.map Utf8.encode) ∧
        (checkLocation (ofComponents absolute (base ++ below)) = .ok () →
          v.Leads (base.map Utf8.encode) place → j = 0 ∨
            ∃ more, more ≠ [] ∧
              v.get? (place ++ (below.map Utf8.encode).take j ++ more) ≠ none) := by
  induction below using List.reverseRecOn generalizing t with
  | nil =>
    refine ⟨0, le_rfl, t, rfl, ?_, fun _ _ => .inl rfl⟩
    simpa using t.cut_self place
  | append_singleton init s ih =>
    have hinit : ∀ x ∈ init, x.IsPlain := fun x hx => hbelow x (by simp [hx])
    have hall : ∀ x ∈ base ++ init ++ [s], x.IsSegment := by
      intro x hx
      rw [List.append_assoc, List.mem_append] at hx
      exact hx.elim (hbase x) fun hx => (hbelow x hx).segment
    have hsegments := congrArg (List.map Utf8.encode) (segments_ofComponents hall absolute)
    have hlength : (init ++ [s]).length = init.length + 1 := by simp
    rw [List.map_append, List.map_singleton] at hsegments hdir ⊢
    rw [← List.append_assoc] at hdir
    rw [← List.append_assoc, hlength, chain_concat, List.take_succ_cons, DiskStore.prune, run_bind,
      run_ask]
    rcases answer_removeDir_last now hkeeps hleads hinit hdir hsegments with
      ⟨hanswer, hempty⟩ | ⟨⟨why, hanswer⟩, hstop⟩
    · rw [hanswer]
      have hbare : ∀ q, place ++ init.map Utf8.encode ++ [Utf8.encode s] <+: q →
          q ≠ place ++ init.map Utf8.encode ++ [Utf8.encode s] → t.get? q = none := by
        rintro q ⟨more, rfl⟩ hne
        exact hempty more (by rintro rfl; simp at hne)
      have habove : (t.erase (place ++ init.map Utf8.encode ++ [Utf8.encode s])).get?
          (place ++ init.map Utf8.encode) = some .dir := by
        rw [get?_erase_of_bare (by simp) hbare, if_neg (by simp)]
        exact inDir (by rw [hdir]; simp)
      obtain ⟨j, hj, v, hrun, hcut, hstop⟩ :=
        ih hinit ((keeps_erase (by simp)).trans hkeeps) habove
      have htake : (init.map Utf8.encode ++ [Utf8.encode s]).take j =
          (init.map Utf8.encode).take j :=
        List.take_append_of_le_length (by rwa [List.length_map])
      refine ⟨j, by omega, v, hrun, ?_, fun hfits hbase => ?_⟩
      · rw [htake, ← List.append_assoc]
        exact hcut.concat ((List.prefix_append_right_inj place).mpr (List.take_prefix ..)) hbare
      · rw [htake]
        by_cases hne : init = []
        · subst hne
          exact .inl (Nat.le_zero.mp hj)
        · refine hstop (checkLocation_ofComponents_of_append ?_ (by simp [hne]) hfits) hbase
          exact fun x hx => hall x (List.mem_append_left _ hx)
    · rw [hanswer]
      have htake : (init.map Utf8.encode ++ [Utf8.encode s]).take (init.length + 1) =
          init.map Utf8.encode ++ [Utf8.encode s] := List.take_of_length_le (by simp)
      refine ⟨init.length + 1, le_rfl, t, rfl, ?_, fun hfits hbase => .inr ?_⟩
      · rw [htake]
        exact t.cut_self _
      · rw [htake, ← List.append_assoc]
        exact hstop hfits hbase

end GrantFs.OsTree
