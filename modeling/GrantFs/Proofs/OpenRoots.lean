import GrantFs.Proofs.DiskPlace
import GrantFs.Proofs.Linkless
import GrantFs.Proofs.OsWalk

/-! # What opening leaves

Opening a store makes its roots and writes the marker, whatever the tree holds and wherever the
roots lie. Main statements: opening makes only directories on the way to a root, and then the marker
unless something is found there; and in a tree without links it only adds entries, and when it
succeeds every root that has a location is a directory. -/
namespace GrantFs

namespace OsTree

open Os

variable {now : Instant} {t u v : OsTree} {location : Text} {dir place q : Place} {n : Node}
  {names : List Name}

theorem Passes.go_name {at_ : Place} {name : Name} (h : t.Passes dir names at_ [name])
    (hname : Ordinary name) (hn : t.get? (at_ ++ [name]) = some n)
    (hlink : ∀ target, n ≠ .link target) : go t true dir names = .arrived (at_ ++ [name]) := by
  rw [h.go_eq, hname.go, hn]
  cases n with
  | dir => rfl
  | file content modified => rfl
  | link target => exact absurd rfl (hlink target)

theorem resolve_vacant (hdir : t.get? dir = some .dir) {links : Nat}
    (h : resolve t true links dir names = .ok place) (hnone : t.get? place = none) :
    (∃ at_ name, t.get? at_ = some .dir ∧ Ordinary name ∧ place = at_ ++ [name]) ∧
      ∀ u n, t.Keeps u → u.get? place = some n → (∀ target, n ≠ .link target) →
        resolve u true links dir names = .ok place := by
  replace h := resolves h
  induction h with
  | dir hpasses =>
    rw [hpasses.dir_of_dir hdir] at hnone
    cases hnone
  | @entry _ _ at_ _ name hpasses hname _ =>
    refine ⟨⟨at_, name, hpasses.dir_of_dir hdir, hname, rfl⟩, ?_⟩
    intro u n hk hn hlink
    exact resolve_of_arrived ((hpasses.keeps hk).go_name hname hn hlink) _
  | link hpasses hname hlink _ ih =>
    obtain ⟨hentry, hkept⟩ := ih (dir_behind_link (hpasses.dir_of_dir hdir) _) hnone
    refine ⟨hentry, ?_⟩
    intro u n hk hn hnolink
    rw [resolve_of_link ((hpasses.keeps hk).go_link hname (hk.links _ _ hlink) (.inr rfl))]
    exact hkept u n hk hn hnolink

theorem go_link_cases {at_ : Place} {left : List Name} {target : LinkTarget}
    (hdir : t.get? dir = some .dir) (h : go t false dir names = .link at_ target left) :
    left ≠ [] ∧ left <:+ names ∧ t.get? at_ = some .dir := by
  rcases t.go_last dir names with hgo | ⟨p, target', hgo, -⟩
  · have hends := t.go_ends dir names
    rw [← hgo, h] at hends
    cases hends with
    | @link _ name _ _ hpasses hname hlink =>
      refine ⟨?_, (List.suffix_cons ..).trans hpasses.suffix, hpasses.dir_of_dir hdir⟩
      rintro rfl
      have harrived : go t false dir names = .arrived (at_ ++ [name]) := by
        rw [hpasses.go_eq, hname.go, hlink]
        rfl
      rw [h] at harrived
      cases harrived
  · rw [h] at hgo
    cases hgo

theorem go_vacant (hdir : t.get? dir = some .dir)
    (h : go t false dir names = .arrived place) (hnone : t.get? place = none) :
    names.getLast? = place.getLast? := by
  rcases t.go_last dir names with hgo | ⟨p, target, hgo, hlink⟩
  · have hends := t.go_ends dir names
    rw [← hgo, h] at hends
    cases hends with
    | dir hpasses =>
      rw [hpasses.dir_of_dir hdir] at hnone
      cases hnone
    | entry hpasses _ _ =>
      obtain ⟨start, rfl⟩ := hpasses.suffix
      rw [List.getLast?_concat, List.getLast?_concat]
  · rw [h] at hgo
    cases hgo
    rw [hlink] at hnone
    cases hnone

/-- A link in the last position is not followed, so what is missing there has the last name. -/
theorem getLast?_of_vacant (hdir : t.get? dir = some .dir) {links : Nat}
    (h : resolve t false links dir names = .ok place) (hnone : t.get? place = none) :
    names.getLast? = place.getLast? := by
  induction links using Nat.strong_induction_on generalizing dir names with
  | h links ih =>
    rcases resolve_eq_ok.mp h with hgo | ⟨fewer, at_, target, left, rfl, hgo, hrest⟩
    · exact go_vacant hdir hgo hnone
    · obtain ⟨hleft, hsuffix, hat⟩ := go_link_cases hdir hgo
      have hlast := ih fewer (Nat.lt_succ_self fewer) (dir_behind_link hat target) hrest
      obtain ⟨start, rfl⟩ := hsuffix
      rwa [List.getLast?_append_of_ne_nil _ hleft] at hlast ⊢

/-- How many links may be followed makes no difference to where names lead. -/
theorem resolve_unique {follow : Bool} {links links' : Nat}
    (h : resolve t follow links dir names = .ok place)
    (h' : resolve t follow links' dir names = .ok q) : q = place := by
  induction links using Nat.strong_induction_on generalizing dir names links' with
  | h links ih =>
    rcases resolve_eq_ok.mp h with hgo | ⟨fewer, at_, target, left, rfl, hgo, hrest⟩ <;>
      rcases resolve_eq_ok.mp h' with hgo' | ⟨fewer', at', target', left', rfl, hgo', hrest'⟩ <;>
      rw [hgo] at hgo' <;> cases hgo'
    · rfl
    · exact ih fewer (Nat.lt_succ_self fewer) hrest hrest'

theorem get?_put_of_vacant (hnone : t.get? place = none) (hn : t.get? q = some n) (m : Node) :
    (t.put place m).get? q = some n := by
  by_cases hfits : t.Fits place m
  · rw [get?_put hfits, if_neg]
    · exact hn
    · rintro rfl
      rw [hnone] at hn
      cases hn
  · rwa [put_of_not_fits hfits]

/-- Only directories have been added, each of them at a location that is meant to be made. -/
structure Extends (t u : OsTree) (meant : Text → Prop) : Prop where
  nodes : ∀ q n, t.get? q = some n → u.get? q = some n
  dirs : ∀ q n, t.get? q = none → u.get? q = some n →
    n = .dir ∧ ∃ location, meant location ∧ u.Shows location q .dir

variable {meant : Text → Prop}

theorem Extends.keeps (h : t.Extends u meant) : t.Keeps u :=
  ⟨fun q => h.nodes q .dir, fun q target => h.nodes q (.link target)⟩

theorem Extends.refl (meant : Text → Prop) : t.Extends t meant :=
  ⟨fun _ _ h => h, fun q n hnone hn => by rw [hnone] at hn; cases hn⟩

theorem Shows.kept (h : t.Shows location place .dir) (hk : t.Keeps u) :
    u.Shows location place .dir :=
  ⟨h.fits, resolve_keeps hk h.located h.node, hk.dirs _ h.node⟩

theorem Extends.trans (h : t.Extends u meant) (h' : u.Extends v meant) : t.Extends v meant := by
  refine ⟨fun q n hn => h'.nodes q n (h.nodes q n hn), ?_⟩
  intro q n hnone hn
  cases hmid : u.get? q with
  | none => exact h'.dirs q n hmid hn
  | some n' =>
    obtain ⟨rfl, location, hmeant, hshows⟩ := h.dirs q n' hnone hmid
    have hsame : n = .dir := Option.some.inj (hn.symm.trans (h'.nodes q .dir hmid))
    exact ⟨hsame, location, hmeant, hshows.kept h'.keeps⟩

theorem Extends.mono {meant' : Text → Prop} (h : t.Extends u meant)
    (hmeant : ∀ location, meant location → meant' location) : t.Extends u meant' := by
  refine ⟨h.nodes, ?_⟩
  intro q n hnone hn
  obtain ⟨hdir, location, hm, hshows⟩ := h.dirs q n hnone hn
  exact ⟨hdir, location, hmeant location hm, hshows⟩

theorem vacancy_eq_ok (h : t.vacancy names = .ok place) :
    t.locate false names = .ok place ∧ t.get? place = none := by
  cases hlocated : t.locate false names with
  | error why =>
    rw [vacancy_of_error hlocated] at h
    cases h
  | ok q =>
    cases hnode : t.get? q with
    | none =>
      rw [vacancy_of_none hlocated hnode] at h
      cases h
      exact ⟨rfl, hnode⟩
    | some n =>
      rw [vacancy_of_some hlocated (by simp [hnode])] at h
      cases h

theorem leads_namesOf (h : t.Leads ((Text.segments location).map Utf8.encode) place) :
    t.Leads (namesOf location) place := by
  apply h.of_undot_eq
  rw [DiskStore.undot_namesOf, undot_map_encode, components]

theorem makeDir_extends (now : Instant) (location : Text) :
    ∃ result u, answer now [] (.makeDir location) t = (result, u) ∧ t.Extends u (· = location) ∧
      (result = .ok () → ∃ place, u.Shows location place .dir) ∧
        (result ≠ .ok () → u = t) := by
  cases hfits : checkLocation location with
  | error why => exact ⟨_, t, answer_makeDir_long hfits, .refl _, nofun, fun _ => rfl⟩
  | ok _ =>
    cases hvacancy : t.vacancy ((Text.segments location).map Utf8.encode) with
    | error why =>
      exact ⟨_, t, answer_makeDir_error hfits hvacancy, .refl _, nofun, fun _ => rfl⟩
    | ok place =>
      refine ⟨_, _, answer_makeDir_ok hfits hvacancy, ?_⟩
      obtain ⟨hlocated, hnone⟩ := vacancy_eq_ok hvacancy
      have hfollowed := (resolve_last hlocated).resolve_right (by simp [hnone])
      obtain ⟨⟨at_, name, hdir, hname, rfl⟩, hkept⟩ := resolve_vacant t.get?_nil hfollowed hnone
      have hlast := getLast?_of_vacant t.get?_nil hlocated hnone
      rw [List.getLast?_concat] at hlast
      have hmem : name ∈ namesOf location := List.mem_append_left _ (List.mem_of_getLast? hlast)
      have hput := fits_of_vacant ⟨hname, isPiece_of_mem_namesOf hmem⟩ hdir hnone .dir
      have hkeeps : t.Keeps (t.put (at_ ++ [name]) .dir) := keeps_put hnone .dir
      have hmade : (t.put (at_ ++ [name]) .dir).get? (at_ ++ [name]) = some .dir := by
        rw [get?_put hput, if_pos rfl]
      have hleads : (t.put (at_ ++ [name]) .dir).Leads
          ((Text.segments location).map Utf8.encode) (at_ ++ [name]) :=
        ⟨hkept _ .dir hkeeps hmade (by simp), hmade⟩
      have hshows : (t.put (at_ ++ [name]) .dir).Shows location (at_ ++ [name]) .dir :=
        ⟨hfits, (leads_namesOf hleads).located, hmade⟩
      refine ⟨⟨?_, ?_⟩, fun _ => ⟨_, hshows⟩, fun h => absurd rfl h⟩
      · exact fun q n hn => get?_put_of_vacant hnone hn .dir
      · intro q n hq hn
        rcases get?_put_cases hn with hbefore | ⟨rfl, rfl⟩
        · rw [hq] at hbefore
          cases hbefore
        · exact ⟨rfl, location, rfl, hshows⟩

theorem settle_outcome (now : Instant) (t : OsTree) (location : Text)
    (result : Except OsError Unit) :
    ∃ r, t.exec now (settle location result) = (r, t) ∧
      (r = .ok () → result = .ok () ∨ ∃ place, t.Shows location place .dir) := by
  cases result with
  | ok _ => exact ⟨.ok (), rfl, fun _ => .inl rfl⟩
  | error why =>
    by_cases hdir : ∃ place, t.Shows location place .dir
    · obtain ⟨place, hshows⟩ := hdir
      exact ⟨.ok (), exec_settle_of_dir hshows _, fun _ => .inr ⟨place, hshows⟩⟩
    · refine ⟨.error (.io why), exec_settle_of_not_dir ?_ why, nofun⟩
      intro place hshows
      exact hdir ⟨place, hshows⟩

/-- Making directories, each inside of the next one, adds directories; when it succeeds, the first
of them is there. -/
theorem makeDirsAmong_extends (now : Instant) (locations : List Text) :
    ∃ r u, t.exec now (makeDirsAmong locations) = (r, u) ∧ t.Extends u (· ∈ locations) ∧
      (r = .ok () → ∀ location, locations.head? = some location →
        ∃ place, u.Shows location place .dir) := by
  induction locations with
  | nil => exact ⟨.ok (), t, rfl, .refl _, nofun⟩
  | cons location above ih =>
    have hfirst : ∀ l, l = location → l ∈ location :: above := by
      rintro l rfl
      exact List.mem_cons_self
    obtain ⟨result, u, hanswer, hextends, hshows, hsame⟩ := makeDir_extends now location
    by_cases hmissing : result = .error .noEntry
    · subst hmissing
      obtain rfl := hsame nofun
      rw [exec_makeDirsAmong_above hanswer]
      obtain ⟨r, v, hrun, hv, -⟩ := ih
      have habove := hv.mono fun l hl => List.mem_cons_of_mem location hl
      cases r with
      | error why => exact ⟨_, v, exec_bind_error hrun _, habove, nofun⟩
      | ok _ =>
        obtain ⟨again, w, hanswer', hw, hshows', -⟩ := makeDir_extends now location
        obtain ⟨r', hsettle, hsettled⟩ := settle_outcome now w location again
        refine ⟨r', w, ?_, habove.trans (hw.mono hfirst), ?_⟩
        · rw [exec_bind_ok hrun, exec_bind_program, run_ask, hanswer']
          exact hsettle
        · rintro hok first ⟨⟩
          exact (hsettled hok).elim hshows' id
    · obtain ⟨r, hsettle, hsettled⟩ := settle_outcome now u location result
      refine ⟨r, u, (exec_makeDirsAmong_settled hanswer hmissing above).trans hsettle,
        hextends.mono hfirst, ?_⟩
      rintro hok first ⟨⟩
      exact (hsettled hok).elim hshows id

theorem makeDirs_extends (now : Instant) (location : Text) :
    ∃ r u, t.exec now (makeDirs location) = (r, u) ∧
      t.Extends u (· ∈ location :: ancestors location) ∧
      (r = .ok () → location ≠ [] → ∃ place, u.Shows location place .dir) := by
  cases location with
  | nil => exact ⟨.ok (), t, rfl, .refl _, fun _ h => absurd rfl h⟩
  | cons c rest =>
    obtain ⟨r, u, hrun, hextends, hshows⟩ :=
      makeDirsAmong_extends now ((c :: rest) :: ancestors (c :: rest))
    exact ⟨r, u, hrun, hextends, fun hok _ => hshows hok _ rfl⟩

structure Grown (t u : OsTree) : Prop where
  noLinks : u.NoLinks
  keeps : t.Keeps u

theorem Grown.refl (hlinks : t.NoLinks) : Grown t t :=
  ⟨hlinks, fun _ h => h, fun _ _ h => h⟩

theorem Grown.trans (h : Grown t u) (h' : Grown u v) : Grown t v :=
  ⟨h'.noLinks, h.keeps.trans h'.keeps⟩

theorem Extends.grown (h : t.Extends u meant) (hlinks : t.NoLinks) : Grown t u := by
  refine ⟨?_, h.keeps⟩
  intro q target hlink
  cases hbefore : t.get? q with
  | none =>
    obtain ⟨hdir, -⟩ := h.dirs q _ hbefore hlink
    cases hdir
  | some n =>
    have hafter := h.nodes q n hbefore
    rw [hlink] at hafter
    cases hafter
    exact hlinks q target hbefore

theorem grown_put (hlinks : t.NoLinks) (hnone : t.get? place = none)
    (hn : ∀ target, n ≠ .link target) : Grown t (t.put place n) := by
  refine ⟨fun q target hlink => ?_, keeps_put hnone n⟩
  rcases get?_put_cases hlink with hbefore | ⟨-, hnew⟩
  · exact hlinks q target hbefore
  · exact hn target hnew.symm

/-- Where nothing is shown a file is written to where the location leads, if it leads anywhere. -/
theorem answer_write_absent (now : Instant) (data : Bytes)
    (habsent : ∀ place n, ¬ t.Shows location place n) :
    (∃ why, answer now [] (.write location data) t = (.error why, t)) ∨
      ∃ place, checkLocation location = .ok () ∧ t.locate true (namesOf location) = .ok place ∧
        t.get? place = none ∧
        answer now [] (.write location data) t = (.ok (), t.put place (.file data now)) := by
  show (∃ why, t.update (do
    checkLocation location
    t.write now (namesOf location) data) = (.error why, t)) ∨ ∃ place, _ ∧ _ ∧ _ ∧ t.update (do
    checkLocation location
    t.write now (namesOf location) data) = _
  cases hfits : checkLocation location with
  | error why => exact .inl ⟨why, rfl⟩
  | ok _ =>
    show (∃ why, t.update (t.write now (namesOf location) data) = (.error why, t)) ∨
      ∃ place, _ ∧ _ ∧ _ ∧ t.update (t.write now (namesOf location) data) = _
    rw [OsTree.write]
    cases hlocated : t.locate true (namesOf location) with
    | error why => exact .inl ⟨why, rfl⟩
    | ok place =>
      have hnone : t.get? place = none := by
        by_contra hsome
        obtain ⟨n, hn⟩ := Option.ne_none_iff_exists'.mp hsome
        exact habsent place n ⟨hfits, hlocated, hn⟩
      refine .inr ⟨place, rfl, rfl, hnone, ?_⟩
      show t.update (if _ then _ else _) = _
      rw [if_neg (by simp [hnone])]
      rfl

end OsTree

namespace DiskStore

open OsTree Os

variable {c : DiskConfig} {d : DiskStore} {now : Instant} {t u : OsTree} {ns : Namespace}
  {session location : Text}

/-- A root, or a directory on the way to it. -/
def OnRootPath (d : DiskStore) (location : Text) : Prop :=
  ∃ ns, location ∈ d.root ns :: ancestors (d.root ns)

theorem openRoot_extends (h : t.exec now (openRoot c session ns) = (.ok location, u)) :
    location = (c.rootOf? ns).getD (join session ns.name) ∧
      t.Extends u (· ∈ location :: ancestors location) ∧
      (location ≠ [] → ∃ place, u.Shows location place .dir) := by
  obtain ⟨_, mid, hdirs, hpure⟩ := exec_bind_eq_ok h
  rw [exec_pure] at hpure
  cases hpure
  obtain ⟨r, v, hrun, hextends, hshows⟩ :=
    makeDirs_extends now ((c.rootOf? ns).getD (join session ns.name))
  rw [hdirs] at hrun
  cases hrun
  exact ⟨rfl, hextends, hshows rfl⟩

/-- Writing the marker that succeeds finds something at its location, or writes a file to where the
location leads. -/
theorem writeMarker_cases (h : t.exec now d.writeMarker = (.ok (), u)) :
    (u = t ∧ ∃ place n, t.Shows (join d.internal marker) place n) ∨
      ∃ place, checkLocation (join d.internal marker) = .ok () ∧
        t.locate true (namesOf (join d.internal marker)) = .ok place ∧ t.get? place = none ∧
        u = t.put place (.file (Utf8.encode now.offsetText) now) := by
  obtain ⟨seen, hrun, hseen⟩ := t.run_isPresent now (join d.internal marker)
  rw [writeMarker] at h
  change t.exec now (liftM (isPresent (join d.internal marker)) >>= _) = _ at h
  rw [exec_bind_program, hrun] at h
  cases seen with
  | true =>
    change t.exec now (pure ()) = _ at h
    rw [exec_pure] at h
    cases h
    exact .inl ⟨rfl, hseen.mp rfl⟩
  | false =>
    have habsent : ∀ place n, ¬ t.Shows (join d.internal marker) place n := by
      intro place n hshows
      have htrue := hseen.mpr ⟨place, n, hshows⟩
      cases htrue
    change t.exec now (liftM (ask .now) >>= fun now => orFail (ask (.write (join d.internal marker)
      (Utf8.encode now.offsetText)))) = _ at h
    rw [exec_bind_program, run_ask] at h
    change t.exec now
      (orFail (ask (.write (join d.internal marker) (Utf8.encode now.offsetText)))) = _ at h
    rw [exec_orFail, run_ask] at h
    rcases answer_write_absent now (Utf8.encode now.offsetText) habsent with
      ⟨why, hanswer⟩ | ⟨place, hfits, hlocated, hnone, hanswer⟩
    · rw [hanswer] at h
      cases h
    · rw [hanswer] at h
      exact .inr ⟨place, hfits, hlocated, hnone, (congrArg Prod.snd h).symm⟩

theorem writeMarker_grown (hlinks : t.NoLinks)
    (h : t.exec now d.writeMarker = (.ok (), u)) : Grown t u := by
  rcases writeMarker_cases h with ⟨rfl, -⟩ | ⟨place, -, -, hnone, rfl⟩
  · exact .refl hlinks
  · exact grown_put hlinks hnone (by simp)

/-- Opening that succeeds makes the roots, and only directories on the way to them, and then writes
the marker. -/
theorem open_cases (h : t.exec now (DiskStore.open c) = (.ok d, u)) :
    ∃ session v, (c.freshSession = false → session = c.baseDir) ∧
      (∀ ns, d.root ns = (c.rootOf? ns).getD (join session ns.name)) ∧
      t.Extends v d.OnRootPath ∧
      (∀ ns, d.root ns ≠ [] → ∃ place, v.Shows (d.root ns) place .dir) ∧
      v.exec now d.writeMarker = (.ok (), u) := by
  obtain ⟨session, t₀, hsession, h⟩ := exec_bind_eq_ok h
  have hbase : t = t₀ ∧ (c.freshSession = false → session = c.baseDir) := by
    split at hsession
    next hfresh => exact ⟨congrArg Prod.snd hsession, fun hc => by rw [hc] at hfresh; cases hfresh⟩
    next =>
      cases hsession
      exact ⟨rfl, fun _ => rfl⟩
  obtain ⟨rfl, hbase⟩ := hbase
  obtain ⟨internal, t₁, hinternal, h⟩ := exec_bind_eq_ok h
  obtain ⟨userinput, t₂, huserinput, h⟩ := exec_bind_eq_ok h
  obtain ⟨workspace, t₃, hworkspace, h⟩ := exec_bind_eq_ok h
  obtain ⟨_, t₄, hmarker, h⟩ := exec_bind_eq_ok h
  rw [exec_pure] at h
  cases h
  obtain ⟨hroot₁, hextends₁, hshows₁⟩ := openRoot_extends hinternal
  obtain ⟨hroot₂, hextends₂, hshows₂⟩ := openRoot_extends huserinput
  obtain ⟨hroot₃, hextends₃, hshows₃⟩ := openRoot_extends hworkspace
  refine ⟨session, t₃, hbase, ?_, ?_, ?_, hmarker⟩
  · intro ns
    cases ns with
    | internal => exact hroot₁
    | userinput => exact hroot₂
    | workspace => exact hroot₃
  · apply (hextends₁.mono ?_).trans ((hextends₂.mono ?_).trans (hextends₃.mono ?_))
    · exact fun location hmem => ⟨.internal, hmem⟩
    · exact fun location hmem => ⟨.userinput, hmem⟩
    · exact fun location hmem => ⟨.workspace, hmem⟩
  · intro ns hne
    cases ns with
    | internal =>
      obtain ⟨place, hshows⟩ := hshows₁ hne
      exact ⟨place, hshows.kept (hextends₂.keeps.trans hextends₃.keeps)⟩
    | userinput =>
      obtain ⟨place, hshows⟩ := hshows₂ hne
      exact ⟨place, hshows.kept hextends₃.keeps⟩
    | workspace => exact hshows₃ hne

/-- In a tree without links, opening that succeeds only adds entries, and leaves a directory at
every root that has a location. -/
theorem open_grown (hlinks : t.NoLinks) (h : t.exec now (DiskStore.open c) = (.ok d, u)) :
    Grown t u ∧ ∀ ns, d.root ns ≠ [] → ∃ place, u.Shows (d.root ns) place .dir := by
  obtain ⟨_, v, -, -, hextends, hshows, hmarker⟩ := open_cases h
  have hroots := hextends.grown hlinks
  have hwritten := writeMarker_grown hroots.noLinks hmarker
  refine ⟨hroots.trans hwritten, ?_⟩
  intro ns hne
  obtain ⟨place, hplace⟩ := hshows ns hne
  exact ⟨place, hplace.kept hwritten.keeps⟩

end DiskStore
end GrantFs
