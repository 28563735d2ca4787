import GrantFs.Proofs.DiskDelete
import GrantFs.Proofs.DiskSnapshot
import GrantFs.Proofs.Memory

/-! # A disk that mirrors a store in memory

A disk and a store in memory hold the same files: what lies below the roots is the files that are
stored, each at the place of its path, and the directories on the way to them. Main statements: such
a disk reads and lists what is stored, and it stays a mirror when the same file is written to both,
unless one stored file would lie inside another, and when the same file is deleted from both. -/
namespace GrantFs

/-- The path, taken as a directory, is on the way to the other. -/
def Path.IsAbove (p q : Path) : Prop := p.text ++ ['/'] <+: q.text

def Entry.untimed (e : Entry) : Entry := { e with updatedAt := none }

/-- What a snapshot tells of a path, but for the time. -/
def MemoryStore.seen? (s : MemoryStore) (grants : List Grant) (p : Path) : Option Entry :=
  if isVisible grants p.text then (s.content.get? p).map fun data => ⟨p, some data.length, none⟩
  else none

theorem MemoryStore.Represents.untimed_snapshot {s : MemoryStore} (h : s.Represents s.content)
    (grants : List Grant) (p : Path) :
    ((s.snapshot grants).get? p).map Entry.untimed = s.seen? grants p := by
  rw [get?_snapshot, seen?]
  split
  next =>
    cases he : s.entries.get? p with
    | none => rw [(h.listed p).mp he]; rfl
    | some e =>
      cases hdata : s.content.get? p with
      | none => rw [(h.listed p).mpr hdata] at he; cases he
      | some data =>
        obtain ⟨hpath, hsize⟩ := h.described p e data he hdata
        rw [Option.map_some, Option.map_some, Entry.untimed, hpath, hsize]
  next => rfl

namespace DiskStore

open OsTree Os

variable {d : DiskStore} {now : Instant} {t u t₀ : OsTree} {s : MemoryStore} {ns ns' : Namespace}
  {root : Namespace → Place} {p q : Path} {segments segments' : List Text}
  {names names' : List Name} {content data : Bytes} {modified : Instant} {overwrite : Bool}
  {grants : List Grant}

theorem pathText_append {parts more : List Text} (h : parts ≠ []) (hmore : more ≠ []) :
    pathText ns (parts ++ more) = pathText ns parts ++ '/' :: Text.joinWith "/" more := by
  rw [pathText, Text.joinWith_slash_append h hmore, pathText, List.append_assoc]

theorem text_of_placeOf (hplace : placeOf p = .ok (ns, segments)) (hfile : p.isDirLike = false) :
    p.text = pathText ns segments := by
  obtain ⟨⟨rest, hrest⟩, rfl⟩ := placeOf_eq_ok.mp hplace
  have hroot : ns.root.isDirLike = true := by cases ns <;> decide
  have hslashes := Path.slashes_apart hroot hfile hrest.symm
  rw [← hrest, List.drop_left, pathText, Text.joinWith_segments hslashes]

/-- No root lies at or below another one. -/
def Apart (root : Namespace → Place) : Prop := ∀ ns ns', root ns <+: root ns' → ns = ns'

theorem Apart.of_prefix (h : Apart root) (hle : root ns ++ names <+: root ns' ++ names') :
    ns = ns' ∧ names <+: names' := by
  obtain rfl : ns = ns' := by
    rcases List.prefix_or_prefix_of_prefix ((List.prefix_append ..).trans hle)
      (List.prefix_append (root ns') names') with hns | hns
    · exact h ns ns' hns
    · exact (h ns' ns hns).symm
  exact ⟨rfl, (List.prefix_append_right_inj _).mp hle⟩

theorem Apart.of_eq (h : Apart root) (hplace : root ns ++ names = root ns' ++ names') :
    ns = ns' ∧ names = names' := by
  have hle : root ns ++ names <+: root ns' ++ names' := ⟨[], by rw [List.append_nil, hplace]⟩
  obtain ⟨rfl, -⟩ := h.of_prefix hle
  exact ⟨rfl, List.append_cancel_left hplace⟩

theorem Apart.path_eq (h : Apart root) (hp : p.text = pathText ns segments)
    (hq : q.text = pathText ns' segments')
    (hplace : root ns ++ segments.map Utf8.encode = root ns' ++ segments'.map Utf8.encode) :
    p = q := by
  obtain ⟨rfl, hnames⟩ := h.of_eq hplace
  obtain rfl := List.map_injective_iff.mpr Utf8.encode_injective hnames
  exact Path.ext_text (hp.trans hq.symm)

/-- A place on the way to another one is that of the same path or of one above. -/
theorem Apart.eq_or_isAbove (h : Apart root) (hp : p.text = pathText ns segments)
    (hq : q.text = pathText ns' segments') (hne : segments ≠ [])
    (hle : root ns ++ segments.map Utf8.encode <+: root ns' ++ segments'.map Utf8.encode) :
    p = q ∨ p.IsAbove q := by
  obtain ⟨rfl, hnames⟩ := h.of_prefix hle
  obtain ⟨more, rfl⟩ := (List.prefix_map_iff_of_injective Utf8.encode_injective).mp hnames
  by_cases hmore : more = []
  · subst hmore
    rw [List.append_nil] at hq
    exact .inl (Path.ext_text (hp.trans hq.symm))
  · refine .inr ⟨Text.joinWith "/" more, ?_⟩
    rw [hp, hq, pathText_append hne hmore, List.append_assoc]
    rfl

structure Named (d : DiskStore) (t : OsTree) (ns : Namespace) (root : Place) (p : Path)
    (segments : List Text) (content : Bytes) (modified : Instant) : Prop
    extends FileAt d t ns root segments content modified where
  text : p.text = pathText ns segments
  noDraft : ∀ s, segments.getLast? = some s → ¬ draftStart <+: s

theorem Named.listed (h : d.Named t ns (root ns) p segments content modified)
    (hvisible : isVisible grants p.text = true) :
    d.Listed t grants ns (root ns) p segments content modified :=
  ⟨h.toFileAt, h.text, h.noDraft, hvisible⟩

theorem Named.of_get?_eq (h : d.Named t ns (root ns) p segments content modified)
    (hsame : u.get? (root ns ++ segments.map Utf8.encode) =
      t.get? (root ns ++ segments.map Utf8.encode)) :
    d.Named u ns (root ns) p segments content modified :=
  ⟨⟨h.ne_nil, hsame.trans h.node, h.fits⟩, h.text, h.noDraft⟩

theorem Named.unique (h : d.Named t ns (root ns) p segments content modified)
    {modified' : Instant} (h' : d.Named t ns' (root ns') p segments' data modified') :
    ns = ns' ∧ segments = segments' := by
  have hplace := h.placeOf_eq h.text
  rw [h'.placeOf_eq h'.text] at hplace
  cases hplace
  exact ⟨rfl, rfl⟩

/-- A disk that was opened on empty roots: they lie beside one another and hold the marker only. -/
structure Fresh (d : DiskStore) (t : OsTree) (root : Namespace → Place) (data : Bytes) : Prop where
  roots : ∀ ns, d.RootAt t ns (root ns)
  apart : Apart root
  marked : ∃ modified, d.FileAt t .internal (root .internal) [marker] data modified
  bare : ∀ ns names, names ≠ [] → t.get? (root ns ++ names) ≠ none →
    ns = .internal ∧ names = [Utf8.encode marker]

/-- Two trees differ in nothing but what lies below the roots. -/
def SameOutside (root : Namespace → Place) (t u : OsTree) : Prop :=
  ∀ place, u.get? place = t.get? place ∨ ∃ ns names, names ≠ [] ∧ place = root ns ++ names

/-- What lies below the roots is the stored files, each in its place, and the directories on the way
to them; elsewhere all is as it was at the start. -/
structure Mirrors (d : DiskStore) (t₀ : OsTree) (root : Namespace → Place) (t : OsTree)
    (s : MemoryStore) : Prop where
  frame : SameOutside root t₀ t
  represents : s.Represents s.content
  stored : ∀ p data, s.content.get? p = some data →
    ∃ ns segments modified, d.Named t ns (root ns) p segments data modified
  below : ∀ ns names, names ≠ [] → t.get? (root ns ++ names) ≠ none →
    ∃ p segments data modified, s.content.get? p = some data ∧
      d.Named t ns (root ns) p segments data modified ∧ names <+: segments.map Utf8.encode

/-- Opening puts nothing but the marker below the roots. -/
def markerPath : Path := ⟨"/internal/.agentfs_created", by decide⟩

theorem Fresh.mirrors (h : d.Fresh t₀ root data) (now : Instant) :
    d.Mirrors t₀ root t₀ (MemoryStore.empty.put now markerPath data) := by
  obtain ⟨modified, hfile⟩ := h.marked
  have hnamed : d.Named t₀ .internal (root .internal) markerPath [marker] data modified := by
    refine ⟨hfile, rfl, fun x hx => ?_⟩
    cases hx
    decide
  have hcontent : ∀ p, (MemoryStore.empty.put now markerPath data).content.get? p =
      if p = markerPath then some data else none :=
    fun p => SortedMap.get?_insert ..
  refine ⟨fun place => .inl rfl, MemoryStore.represents_empty.put now _ _,
    fun p data' hp => ?_, fun ns names hne hsome => ?_⟩
  · rw [hcontent] at hp
    split at hp
    next heq =>
      cases hp
      exact ⟨_, _, _, heq ▸ hnamed⟩
    next => cases hp
  · obtain ⟨rfl, rfl⟩ := h.bare ns names hne hsome
    exact ⟨markerPath, [marker], data, modified, by rw [hcontent, if_pos rfl], hnamed,
      List.prefix_refl _⟩

theorem Fresh.rootAt (h : d.Fresh t₀ root content) (hframe : SameOutside root t₀ t)
    (ns : Namespace) : d.RootAt t ns (root ns) := by
  obtain ⟨modified, hmarker⟩ := h.marked
  have hkept : ∀ place n, t₀.get? place = some n → n = .dir ∨ (∃ target, n = .link target) →
      t.get? place = some n := by
    intro place n hn hkind
    rcases hframe place with hsame | ⟨ns', names, hne, rfl⟩
    · rw [hsame, hn]
    · obtain ⟨rfl, rfl⟩ := h.bare ns' names hne (by rw [hn]; simp)
      have hnode := hmarker.node
      rw [List.map_singleton, hn] at hnode
      cases hnode
      rcases hkind with hdir | ⟨target, hlink⟩
      · cases hdir
      · cases hlink
  exact (h.roots ns).keeps ⟨fun place hdir => hkept place _ hdir (.inl rfl),
    fun place target hlink => hkept place _ hlink (.inr ⟨target, rfl⟩)⟩

namespace Mirrors

theorem get?_of_named (hm : d.Mirrors t₀ root t s)
    (h : d.Named t ns (root ns) p segments content modified) :
    s.content.get? p = some content := by
  obtain ⟨q, segments', data, modified', hq, hnamed, hle⟩ :=
    hm.below ns (segments.map Utf8.encode) (by simpa using h.ne_nil) (by rw [h.node]; simp)
  have hplace : root ns ++ segments.map Utf8.encode = root ns ++ segments'.map Utf8.encode := by
    by_contra hne
    have hdir := dir_on_way ((List.prefix_append_right_inj _).mpr hle) hne
      (by rw [hnamed.node]; simp)
    rw [h.node] at hdir
    cases hdir
  have hnode := h.node
  rw [hplace, hnamed.node] at hnode
  cases hnode
  have hsegments := List.map_injective_iff.mpr Utf8.encode_injective
    (List.append_cancel_left hplace)
  rw [Path.ext_text (h.text.trans (hsegments ▸ hnamed.text.symm)), hq]

theorem exists_snapshot (hm : d.Mirrors t₀ root t s) (hfresh : d.Fresh t₀ root content)
    (now : Instant) (grants : List Grant) :
    ∃ i, t.exec now (d.snapshot grants) = (.ok i, t) ∧
      ∀ p, (i.get? p).map Entry.untimed = s.seen? grants p := by
  obtain ⟨i, hrun, hkeys⟩ :=
    DiskStore.exists_snapshot now (hfresh.rootAt hm.frame) grants
  refine ⟨i, hrun, fun p => ?_⟩
  have hlisted : ∀ e, i.get? p = some e → ∃ data modified, isVisible grants p.text = true ∧
      s.content.get? p = some data ∧ e = ⟨p, some data.length, some modified⟩ := by
    intro e he
    obtain ⟨ns, segments, data, modified, hlisted, rfl⟩ := (hkeys p e).mp he
    exact ⟨data, modified, hlisted.visible,
      hm.get?_of_named ⟨hlisted.toFileAt, hlisted.text, hlisted.noDraft⟩, rfl⟩
  rw [MemoryStore.seen?]
  cases hfound : i.get? p with
  | some e =>
    obtain ⟨data, modified, hvisible, hdata, rfl⟩ := hlisted e hfound
    rw [if_pos hvisible, hdata]
    rfl
  | none =>
    split
    next hvisible =>
      cases hdata : s.content.get? p with
      | none => rfl
      | some data =>
        obtain ⟨ns, segments, modified, hnamed⟩ := hm.stored p data hdata
        have hsome := (hkeys p _).mpr ⟨ns, segments, data, modified, hnamed.listed hvisible, rfl⟩
        rw [hfound] at hsome
        cases hsome
    next => rfl

theorem exec_read (hm : d.Mirrors t₀ root t s) (hfresh : d.Fresh t₀ root content) (now : Instant)
    (hdata : s.content.get? p = some data) : t.exec now (d.read p) = (.ok data, t) := by
  obtain ⟨ns, segments, modified, hnamed⟩ := hm.stored p data hdata
  exact exec_read_of_shows (hnamed.location_eq hnamed.text)
    (hnamed.shows (hfresh.rootAt hm.frame ns))

end Mirrors

/-- A place for a file: its path has no single dots and is not that of a draft, its names and its
location are not too long, and no stored file is in the way. -/
structure Aim (d : DiskStore) (s : MemoryStore) (p : Path) (ns : Namespace)
    (segments : List Text) : Prop where
  place : placeOf p = .ok (ns, segments)
  noDots : ['.'] ∉ segments
  noDraft : ∀ x, segments.getLast? = some x → ¬ draftStart <+: x
  short : ∀ x ∈ segments, (Utf8.encode x).length ≤ nameLimit
  fits : checkLocation (d.locationOf ns segments) = .ok ()
  noneAbove : ∀ q, s.content.get? q ≠ none → ¬ q.IsAbove p
  noneBelow : ∀ q, s.content.get? q ≠ none → ¬ p.IsAbove q

structure Target (d : DiskStore) (now : Instant) (t : OsTree) (s : MemoryStore) (p : Path)
    (ns : Namespace) (segments : List Text) : Prop extends Aim d s p ns segments where
  draftShort : (Utf8.encode (draftName now t (d.locationOf ns segments))).length ≤ nameLimit
  draftFits : checkLocation (draftOf now t (d.locationOf ns segments)) = .ok ()

theorem Aim.plain (h : d.Aim s p ns segments) {x : Text} (hx : x ∈ segments) :
    x.IsPlain := by
  refine isPlain_of_placeOf h.place (List.mem_filter.mpr ⟨hx, ?_⟩)
  simpa using ne_of_mem_of_not_mem hx h.noDots

theorem Aim.namesBelow_eq (h : d.Aim s p ns segments) :
    namesBelow segments = segments.map Utf8.encode :=
  namesBelow_of_plain fun _ hx => h.plain hx

namespace Mirrors

/-- On the way to a target lie directories, then nothing or, at its end, the file that is stored
there. -/
theorem node_cases (hm : d.Mirrors t₀ root t s) (hapart : Apart root)
    (h : d.Aim s p ns segments) (hp : p.text = pathText ns segments) (hne : segments ≠ [])
    (hnames : names ≠ []) (hle : names <+: segments.map Utf8.encode) :
    t.get? (root ns ++ names) = none ∨
      t.get? (root ns ++ names) = some .dir ∧ names ≠ segments.map Utf8.encode ∨
      names = segments.map Utf8.encode ∧ ∃ data modified, s.content.get? p = some data ∧
        t.get? (root ns ++ names) = some (.file data modified) := by
  by_cases hsome : t.get? (root ns ++ names) = none
  · exact .inl hsome
  obtain ⟨q, segments', data, modified, hq, hnamed, hle'⟩ := hm.below ns names hnames hsome
  have hstored : s.content.get? q ≠ none := by simp [hq]
  by_cases hend' : names = segments'.map Utf8.encode
  · have hway := (List.prefix_append_right_inj (root ns)).mpr (hend' ▸ hle)
    obtain rfl := (hapart.eq_or_isAbove hnamed.text hp hnamed.ne_nil hway).resolve_right
      (h.noneAbove q hstored)
    have hplace := h.place
    rw [hnamed.placeOf_eq hnamed.text] at hplace
    cases hplace
    exact .inr (.inr ⟨hend', data, modified, hq, hend' ▸ hnamed.node⟩)
  · have hdir : t.get? (root ns ++ names) = some .dir := by
      refine dir_on_way ((List.prefix_append_right_inj _).mpr hle') ?_
        (by rw [hnamed.node]; simp)
      exact fun heq => hend' (List.append_cancel_left heq)
    refine .inr (.inl ⟨hdir, fun hend => ?_⟩)
    have hway := (List.prefix_append_right_inj (root ns)).mpr (hend ▸ hle')
    obtain rfl := (hapart.eq_or_isAbove hp hnamed.text hne hway).resolve_right
      (h.noneBelow q hstored)
    have hplace := h.place
    rw [hnamed.placeOf_eq hnamed.text] at hplace
    cases hplace
    exact hend' hend

theorem writable (hm : d.Mirrors t₀ root t s) (hapart : Apart root)
    (h : d.Target now t s p ns segments) (hp : p.text = pathText ns segments) (hne : segments ≠ [])
    (hdir : t.get? (root ns) = some .dir) (hvacant : overwrite = false → s.content.get? p = none) :
    Writable now t (root ns) (d.locationOf ns segments) segments overwrite := by
  have hnames : namesBelow segments ≠ [] := by simpa [h.namesBelow_eq] using hne
  have hend := hm.node_cases hapart h.toAim hp hne hnames (h.namesBelow_eq ▸ List.prefix_refl _)
  refine ⟨clear_of_nodes (fun name hname => ?_) fun place hbelow hway => ?_, fun hnode => ?_,
    fun hkeep => ?_, h.short, h.fits, h.draftShort, h.draftFits⟩
  · rw [h.namesBelow_eq] at hname
    obtain ⟨x, hx, rfl⟩ := List.mem_map.mp hname
    exact (isName_encode (h.plain hx) (h.short x hx)).toOrdinary
  · obtain ⟨more, rfl⟩ := hbelow
    have hmore := (List.prefix_append_right_inj _).mp hway
    by_cases hnil : more = []
    · rw [hnil, List.append_nil]
      exact .inl hdir
    · rcases hm.node_cases hapart h.toAim hp hne hnil (h.namesBelow_eq ▸ hmore) with
        hnone | ⟨hnode, -⟩ | ⟨rfl, data, modified, -, hfile⟩
      · exact .inr (.inl hnone)
      · exact .inl hnode
      · exact .inr (.inr ⟨by rw [h.namesBelow_eq], data, modified, hfile⟩)
  · rcases hend with hnone | ⟨-, hother⟩ | ⟨-, data, modified, -, hfile⟩
    · simp [hnone] at hnode
    · exact hother h.namesBelow_eq
    · simp [hfile] at hnode
  · rcases hend with hnone | ⟨-, hother⟩ | ⟨-, data, modified, hdata, -⟩
    · exact hnone
    · exact absurd h.namesBelow_eq hother
    · simp [hvacant hkeep] at hdata

/-- With a new file in its place on the disk and in the store, the one mirrors the other. -/
theorem put (hm : d.Mirrors t₀ root t s) (hapart : Apart root)
    (h : d.Aim s p ns segments) (hp : p.text = pathText ns segments) (hne : segments ≠ [])
    (hdir : t.get? (root ns) = some .dir)
    (hwritten : t.Written u (root ns ++ segments.map Utf8.encode) data now) (now' : Instant) :
    d.Mirrors t₀ root u (s.put now' p data) := by
  have hnames : segments.map Utf8.encode ≠ [] := by simpa using hne
  have hcontent : ∀ q, (s.put now' p data).content.get? q =
      if q = p then some data else s.content.get? q :=
    fun q => SortedMap.get?_insert ..
  have hnew : d.Named u ns (root ns) p segments data now := by
    refine ⟨⟨hne, ?_, h.fits⟩, hp, h.noDraft⟩
    rw [hwritten, if_pos rfl]
  have hkept : ∀ {q ns' segments' bytes modified}, q ≠ p → s.content.get? q = some bytes →
      d.Named t ns' (root ns') q segments' bytes modified →
      d.Named u ns' (root ns') q segments' bytes modified := by
    intro q ns' segments' bytes modified hother hq hnamed
    refine hnamed.of_get?_eq (hwritten.get?_of_not_prefix fun hle => ?_)
    exact h.noneAbove q (by simp [hq])
      ((hapart.eq_or_isAbove hnamed.text hp hnamed.ne_nil hle).resolve_left hother)
  refine ⟨fun place => ?_, hm.represents.put now' p data, fun q bytes hq => ?_,
    fun ns' names hnames' hsome => ?_⟩
  · rcases hwritten.below hdir hnames place with hsame | ⟨more, hmore, rfl⟩
    · rw [hsame]
      exact hm.frame place
    · exact .inr ⟨ns, more, hmore, rfl⟩
  · rw [hcontent] at hq
    split at hq
    next heq =>
      cases hq
      exact ⟨ns, segments, now, heq ▸ hnew⟩
    next hother =>
      obtain ⟨ns', segments', modified, hnamed⟩ := hm.stored q bytes hq
      exact ⟨ns', segments', modified, hkept hother hq hnamed⟩
  · by_cases hway : root ns' ++ names <+: root ns ++ segments.map Utf8.encode
    · obtain ⟨rfl, hle⟩ := hapart.of_prefix hway
      exact ⟨p, segments, data, now, by rw [hcontent, if_pos rfl], hnew, hle⟩
    · rw [hwritten.get?_of_not_prefix hway] at hsome
      obtain ⟨q, segments', bytes, modified, hq, hnamed, hle⟩ := hm.below ns' names hnames' hsome
      by_cases heq : q = p
      · subst heq
        have hplace := h.place
        rw [hnamed.placeOf_eq hnamed.text] at hplace
        cases hplace
        exact absurd ((List.prefix_append_right_inj _).mpr hle) hway
      · exact ⟨q, segments', bytes, modified, by rw [hcontent, if_neg heq, hq],
          hkept heq hq hnamed, hle⟩

theorem exec_write (hm : d.Mirrors t₀ root t s) (hfresh : d.Fresh t₀ root content)
    (h : d.Target now t s p ns segments) (hfile : p.isDirLike = false)
    (hvacant : overwrite = false → s.content.get? p = none) (data : Bytes) (now' : Instant) :
    ∃ u, t.exec now (d.write p data overwrite) = (.ok (.written p data.length now), u) ∧
      d.Mirrors t₀ root u (s.put now' p data) := by
  have hp := text_of_placeOf h.place hfile
  have hroot := hfresh.rootAt hm.frame ns
  have hne := segments_ne_nil h.place hfile
  have hwritable := hm.writable hfresh.apart h hp hne hroot.leads.dir hvacant
  have hplace := h.place
  have hdots := h.noDots
  obtain ⟨init, x, rfl⟩ := (List.eq_nil_or_concat' segments).resolve_left hne
  obtain ⟨u, hrun, hwritten⟩ := write_of_writable now hroot hplace hdots hwritable data
  rw [h.namesBelow_eq] at hwritten
  exact ⟨u, hrun, hm.put hfresh.apart h.toAim hp hne hroot.leads.dir hwritten now'⟩

theorem sameOutside_cut (hm : d.Mirrors t₀ root t s) {j : Nat}
    (hcut : t.Cut u (root ns ++ names.take j) (root ns ++ names)) : SameOutside root t₀ u := by
  intro place
  by_cases hgone : root ns ++ names.take j <+: place ∧ place ≠ root ns ++ names.take j ∧
      place <+: root ns ++ names
  · obtain ⟨⟨more, rfl⟩, hne, -⟩ := hgone
    refine .inr ⟨ns, names.take j ++ more, ?_, List.append_assoc ..⟩
    refine List.append_ne_nil_of_right_ne_nil _ ?_
    rintro rfl
    exact hne (List.append_nil _)
  · rw [hcut, if_neg hgone]
    exact hm.frame place

/-- Where a file is taken away, every other file keeps its name: none of them is a directory. -/
theorem named_of_cut (hapart : Apart root)
    (hnamed : d.Named t ns (root ns) p segments content modified) {j : Nat}
    (hcut : t.Cut u (root ns ++ (segments.map Utf8.encode).take j)
      (root ns ++ segments.map Utf8.encode))
    {q : Path} {ns' : Namespace} {segments' : List Text} {bytes : Bytes} {modified' : Instant}
    (hother : q ≠ p) (h : d.Named t ns' (root ns') q segments' bytes modified') :
    d.Named u ns' (root ns') q segments' bytes modified' := by
  refine h.of_get?_eq ?_
  rw [hcut, if_neg]
  rintro ⟨-, -, hle⟩
  have hend : root ns' ++ segments'.map Utf8.encode ≠ root ns ++ segments.map Utf8.encode :=
    fun heq => hother (hapart.path_eq h.text hnamed.text heq)
  have hnode := dir_on_way hle hend (by rw [hnamed.node]; simp)
  rw [h.node] at hnode
  cases hnode

/-- What is left below a root after a file has been taken away leads to a stored file, and to the
file taken away only where the pruning has stopped. -/
theorem below_of_cut (hm : d.Mirrors t₀ root t s)
    (hnamed : d.Named t ns (root ns) p segments content modified) {j : Nat}
    (hcut : t.Cut u (root ns ++ (segments.map Utf8.encode).take j)
      (root ns ++ segments.map Utf8.encode))
    (ns' : Namespace) {names : List Name} (hnames : names ≠ [])
    (hsome : u.get? (root ns' ++ names) ≠ none) :
    ∃ q segments' bytes modified', s.content.get? q = some bytes ∧
      d.Named t ns' (root ns') q segments' bytes modified' ∧
      names <+: segments'.map Utf8.encode ∧
      (q = p → names <+: (segments.map Utf8.encode).take j) := by
  have hleft : ¬ (root ns ++ (segments.map Utf8.encode).take j <+: root ns' ++ names ∧
      root ns' ++ names ≠ root ns ++ (segments.map Utf8.encode).take j ∧
      root ns' ++ names <+: root ns ++ segments.map Utf8.encode) := by
    intro hgone
    rw [hcut, if_pos hgone] at hsome
    exact hsome rfl
  rw [hcut, if_neg hleft] at hsome
  obtain ⟨q, segments', bytes, modified', hq, hnamed', hle⟩ := hm.below ns' names hnames hsome
  refine ⟨q, segments', bytes, modified', hq, hnamed', hle, ?_⟩
  rintro rfl
  obtain ⟨rfl, rfl⟩ := hnamed.unique hnamed'
  rcases List.prefix_or_prefix_of_prefix hle (List.take_prefix j _) with hbefore | hbehind
  · exact hbefore
  · by_contra hnot
    refine hleft ⟨(List.prefix_append_right_inj _).mpr hbehind, fun heq => hnot ?_,
      (List.prefix_append_right_inj _).mpr hle⟩
    exact List.append_cancel_left heq ▸ List.prefix_refl names

/-- With a file taken away from the disk and the store, the one mirrors the other. -/
theorem remove (hm : d.Mirrors t₀ root t s) (hapart : Apart root)
    (hnamed : d.Named t ns (root ns) p segments content modified) {j : Nat}
    (hcut : t.Cut u (root ns ++ (segments.map Utf8.encode).take j)
      (root ns ++ segments.map Utf8.encode))
    (hstop : j = 0 ∨ ∃ more, more ≠ [] ∧
      u.get? (root ns ++ (segments.map Utf8.encode).take j ++ more) ≠ none) :
    d.Mirrors t₀ root u (s.remove p) := by
  have hcontent : ∀ q, (s.remove p).content.get? q = if q = p then none else s.content.get? q :=
    fun q => SortedMap.get?_erase ..
  refine ⟨hm.sameOutside_cut hcut, hm.represents.remove p, fun q bytes hq => ?_,
    fun ns' names hnames hsome => ?_⟩
  · rw [hcontent] at hq
    split at hq
    next => cases hq
    next hother =>
      obtain ⟨ns', segments', modified', hnamed'⟩ := hm.stored q bytes hq
      exact ⟨ns', segments', modified', named_of_cut hapart hnamed hcut hother hnamed'⟩
  · obtain ⟨q, segments', bytes, modified', hq, hnamed', hle, hself⟩ :=
      hm.below_of_cut hnamed hcut ns' hnames hsome
    by_cases heq : q = p
    · -- The directory where the pruning has stopped leads to another file as well.
      subst heq
      obtain ⟨rfl, rfl⟩ := hnamed.unique hnamed'
      rcases hstop with rfl | ⟨more, hmore, hthere⟩
      · exact absurd (List.prefix_nil.mp (hself rfl)) hnames
      · rw [List.append_assoc] at hthere
        obtain ⟨q', segments'', bytes', modified'', hq', hnamed'', hle'', hself'⟩ :=
          hm.below_of_cut hnamed hcut ns (List.append_ne_nil_of_right_ne_nil _ hmore) hthere
        have hother : q' ≠ q := by
          intro heq
          have hlength := (hself' heq).length_le
          have hpositive := List.length_pos_iff.mpr hmore
          rw [List.length_append] at hlength
          omega
        exact ⟨q', segments'', bytes', modified'', by rw [hcontent, if_neg hother, hq'],
          named_of_cut hapart hnamed hcut hother hnamed'',
          (hself rfl).trans ((List.prefix_append ..).trans hle'')⟩
    · exact ⟨q, segments', bytes, modified', by rw [hcontent, if_neg heq, hq],
        named_of_cut hapart hnamed hcut heq hnamed', hle⟩

theorem exec_delete (hm : d.Mirrors t₀ root t s) (hfresh : d.Fresh t₀ root content) (now : Instant)
    (hdata : s.content.get? p = some data) :
    ∃ u, t.exec now (d.delete p) = (.ok (), u) ∧ d.Mirrors t₀ root u (s.remove p) := by
  obtain ⟨ns, segments, modified, hnamed⟩ := hm.stored p data hdata
  have hplain : ∀ x ∈ segments, x.IsPlain := fun x hx => hnamed.plain hx
  have hplace := hnamed.placeOf_eq hnamed.text
  have hnames := namesBelow_of_plain hplain
  have hfits := hnamed.fits
  have hnode := hnamed.node
  rw [← hnames] at hnode
  obtain ⟨init, x, hconcat⟩ := (List.eq_nil_or_concat' segments).resolve_left hnamed.ne_nil
  have hdots : ['.'] ∉ segments := fun hdot => (hplain _ hdot).ne_dot rfl
  rw [hconcat] at hplace hdots hfits hnode
  obtain ⟨u, hrun, hout⟩ := delete_of_file now (hfresh.rootAt hm.frame ns) hplace hdots
    hfits hnode
  rw [← hconcat, hnames] at hout
  cases hout with
  | deleted _ _ _ hcut hstop =>
    have hroot := hfresh.rootAt (hm.sameOutside_cut hcut) ns
    exact ⟨u, hrun, hm.remove hfresh.apart hnamed hcut (hstop hroot)⟩

end Mirrors

end DiskStore
end GrantFs
