import GrantFs.Proofs.DiskSnapshot
import GrantFs.Wire

/-! # The grammar of paths

The check of a path looks for forbidden sequences, while what reads a path relies on the names it is
made of. Main statement: the texts without a flaw are exactly those of the grammar, and whatever
makes a path, from text, from a document, from another path or from a walked file, makes one whose
text is in the grammar. -/
namespace GrantFs

namespace Path

variable {t s : Text} {names : List Text}

structure IsName (s : Text) : Prop where
  segment : s.IsSegment
  plain : ∀ c ∈ s, 0x20 ≤ c.toNat ∧ c ≠ '*' ∧ c ≠ '?' ∧ c ≠ '\\'
  noDots : ¬ ['.', '.'] <:+: s

/-- The texts of paths: the top alone, or names with one slash before each of them, with or without
a slash at the end. -/
inductive Grammar : Text → Prop where
  | top : Grammar ['/']
  | file {names : List Text} (hne : names ≠ []) (h : ∀ s ∈ names, IsName s) :
      Grammar ('/' :: Text.joinWith "/" names)
  | dir {names : List Text} (hne : names ≠ []) (h : ∀ s ∈ names, IsName s) :
      Grammar ('/' :: Text.joinWith "/" names ++ ['/'])

theorem IsName.not_infix (h : IsName s) {word : Text} (hword : word ∈ forbidden) :
    ¬ word <:+: s := by
  intro hin
  simp only [forbidden, List.mem_cons, List.not_mem_nil, or_false] at hword
  rcases hword with rfl | rfl | rfl | rfl | rfl
  · exact h.noDots hin
  · exact (h.plain '*' (hin.subset (by decide))).2.1 rfl
  · exact (h.plain '?' (hin.subset (by decide))).2.2.1 rfl
  · exact (h.plain '\\' (hin.subset (by decide))).2.2.2 rfl
  · exact h.segment.2 (hin.subset (by decide))

theorem IsName.flaw?_slash (h : IsName s) : flaw? ('/' :: s) = none := by
  refine flaw?_eq_none_iff.mpr ⟨rfl, fun c hc => ?_, fun word hword hin => ?_⟩
  · rcases List.mem_cons.mp hc with rfl | hc
    · decide
    · have hplain := (h.plain c hc).1
      simpa [isControl] using hplain
  · rw [List.infix_cons_iff] at hin
    refine hin.elim (fun hstart => ?_) (h.not_infix hword)
    -- Only two slashes begin with a slash, and the name does not begin with one.
    simp only [forbidden, List.mem_cons, List.not_mem_nil, or_false] at hword
    rcases hword with rfl | rfl | rfl | rfl | rfl
    case inr.inr.inr.inr =>
      have hsecond : ['/'] <+: s := (List.cons_prefix_cons.mp hstart).2
      exact h.segment.2 (hsecond.subset (List.mem_singleton_self _))
    all_goals exact absurd (List.cons_prefix_cons.mp hstart).1 (by decide)

theorem flaw?_joinWith (hne : names ≠ []) (h : ∀ s ∈ names, IsName s) :
    flaw? ('/' :: Text.joinWith "/" names) = none := by
  induction names with
  | nil => exact absurd rfl hne
  | cons name rest ih =>
    have hname : IsName name := h name List.mem_cons_self
    by_cases hrest : rest = []
    · subst hrest
      simpa [Text.joinWith, List.intercalate] using hname.flaw?_slash
    · have hlast : (['/'] ++ name).getLast? ≠ some '/' := by
        rw [List.getLast?_append_of_ne_nil _ hname.segment.1]
        exact fun hslash => hname.segment.2 (List.mem_of_getLast? hslash)
      rw [Text.joinWith_slash_cons name hrest]
      exact flaw?_append hname.flaw?_slash
        (ih hrest fun s hs => h s (List.mem_cons_of_mem _ hs)) hlast

theorem Grammar.sound (h : Grammar t) : flaw? t = none := by
  cases h with
  | top => decide
  | file hne h => exact flaw?_joinWith hne h
  | dir hne h =>
    have hlast := Os.getLast?_ofComponents (fun s hs => (h s hs).segment) hne true
    exact flaw?_append_slash (flaw?_joinWith hne h) hlast

theorem isName_of_infix (hsound : flaw? t = none) (hsegment : s.IsSegment) (h : s <:+: t) :
    IsName s := by
  obtain ⟨-, hplain, hfree⟩ := flaw?_eq_none_iff.mp hsound
  have hnot : ∀ c, [c] ∈ forbidden → c ∉ s := by
    intro c hc hmem
    obtain ⟨before, after, rfl⟩ := List.append_of_mem hmem
    exact hfree [c] hc (List.IsInfix.trans ⟨before, after, by simp⟩ h)
  refine ⟨hsegment, fun c hc => ⟨?_, ?_, ?_, ?_⟩, fun hdots => hfree _ (by decide) (hdots.trans h)⟩
  · simpa [isControl] using hplain c (h.subset hc)
  all_goals
    rintro rfl
    exact hnot _ (by decide) hc

/-- What stands between the slash before it and the one behind it is made of names. -/
theorem exists_names (h : flaw? ('/' :: (s ++ ['/'])) = none) :
    ∃ names : List Text, names ≠ [] ∧ (∀ n ∈ names, IsName n) ∧ s = Text.joinWith "/" names := by
  have hslashes : ¬ ['/', '/'] <:+: '/' :: (s ++ ['/']) :=
    (flaw?_eq_none_iff.mp h).2.2 ['/', '/'] (by decide)
  have hjoin : Text.joinWith "/" (Text.segments s) = s := Text.joinWith_segments hslashes
  refine ⟨Text.segments s, fun hnil => ?_, fun n hn => ?_, hjoin.symm⟩
  · rw [hnil] at hjoin
    subst hjoin
    exact hslashes (List.infix_refl _)
  · have hin : n <:+: s := Text.infix_of_mem_split (List.mem_filter.mp hn).1
    have hs : s <:+: '/' :: (s ++ ['/']) := ⟨['/'], ['/'], rfl⟩
    exact isName_of_infix h (Text.isSegment_of_mem_segments hn) (hin.trans hs)

theorem grammar_of_sound (h : flaw? t = none) : Grammar t := by
  obtain ⟨rest, rfl⟩ : ∃ rest, t = '/' :: rest :=
    List.head?_eq_some_iff.mp (flaw?_eq_none_iff.mp h).1
  by_cases hlast : ('/' :: rest).getLast? = some '/'
  · rcases List.eq_nil_or_concat' rest with rfl | ⟨s, c, rfl⟩
    · exact .top
    · obtain rfl : c = '/' := by
        rw [← List.cons_append, List.getLast?_concat] at hlast
        exact Option.some.inj hlast
      obtain ⟨names, hne, hnames, rfl⟩ := exists_names h
      exact .dir hne hnames
  · obtain ⟨names, hne, hnames, rfl⟩ := exists_names (flaw?_append_slash h hlast)
    exact .file hne hnames

theorem grammar_iff : Grammar t ↔ flaw? t = none := ⟨Grammar.sound, grammar_of_sound⟩

theorem grammar_text (p : Path) : Grammar p.text := grammar_of_sound p.sound

theorem parse_eq_ok {p : Path} : parse t = .ok p ↔ Grammar t ∧ p.text = t := by
  constructor
  · intro h
    obtain rfl := text_of_parse h
    exact ⟨p.grammar_text, rfl⟩
  · rintro ⟨-, rfl⟩
    exact parse_text p

theorem logicalPath_eq_ok {source : Json.Source} {d : Json.Doc} {p : Path} :
    Json.Decode.logicalPath source d = .ok p ↔ ∃ t, d = .text t ∧ Grammar t ∧ p.text = t := by
  cases d with
  | text given =>
    have hread : Json.Decode.logicalPath source (.text given) = .ok p ↔ ofText given = .ok p := by
      cases hgiven : ofText given <;>
        simp [Json.Decode.logicalPath, Json.Decode.string, hgiven, bind, Except.bind, pure,
          Except.pure]
    rw [hread, ofText_eq_ok]
    constructor
    · intro htext
      exact ⟨given, rfl, htext ▸ p.grammar_text, htext⟩
    · rintro ⟨t, ht, -, htext⟩
      cases ht
      exact htext
  | _ =>
    constructor
    · intro h
      cases h
    · rintro ⟨t, h, -⟩
      cases h

theorem exists_join {p : Path} {rest : Text} :
    (∃ q, p.join rest = .ok q) ↔ flaw? (p.asDir.text ++ rest.dropWhile (· = '/')) = none := by
  simp only [join_eq_ok]
  constructor
  · rintro ⟨q, hq⟩
    rw [← hq]
    exact q.sound
  · intro h
    exact ⟨⟨_, h⟩, rfl⟩

theorem exists_join_name (p : Path) :
    ∃ dir : Path, dir.text ++ p.name = p.text ∧ dir.isDirLike = true ∧ '/' ∉ p.name ∧
      dir.join p.name = .ok p := by
  obtain ⟨dir, htext, hdir, hname⟩ := p.exists_parent
  refine ⟨dir, htext, hdir, hname, join_eq_ok.mpr ?_⟩
  have hbare : p.name.dropWhile (· = '/') = p.name := by
    rw [List.dropWhile_eq_self_iff]
    intro hlength hfirst
    exact hname (of_decide_eq_true hfirst ▸ List.get_mem ..)
  rw [asDir_of_isDirLike hdir, hbare, htext]

end Path

namespace DiskStore

variable {d : DiskStore} {now : Instant} {t u : OsTree} {grants : List Grant} {s : Snapshot}
  {p : Path} {e : Entry} {ns : Namespace} {names : List Name}

theorem pathOf?_eq_some_iff : pathOf? ns names = some p ↔
    ∃ segments, names = segments.map Utf8.encode ∧ Path.Grammar (pathText ns segments) ∧
      p.text = pathText ns segments := by
  rw [pathOf?_eq_some]
  constructor
  · rintro ⟨segments, hnames, htext⟩
    exact ⟨segments, hnames, htext ▸ p.grammar_text, htext⟩
  · rintro ⟨segments, hnames, -, htext⟩
    exact ⟨segments, hnames, htext⟩

theorem walked_of_snapshot (h : d.backend now (.snapshot grants) t = (.ok s, u))
    (hkey : s.get? p = some e) :
    ∃ ns files f, t.walkFrom (d.root ns) = .ok files ∧ f ∈ files ∧
      pathOf? ns f.names = some p := by
  obtain ⟨r, hrun, hgathered, -⟩ := snapshot_outcome now d t grants
  have hsame : (r, t) = (.ok s, u) := hrun.symm.trans h
  cases hsame
  obtain ⟨rfl, ns, -, -, files, hfiles, f, hf, hentry⟩ := (hgathered s rfl).found p e hkey
  exact ⟨ns, files, f, hfiles, hf, (entryOf?_eq_some.mp hentry).2.1⟩

end DiskStore

namespace Path

open DiskStore

/-- A text has no flaw if and only if it is in the grammar, and so are the texts of all paths that
are read from text or from a document, taken as a directory, joined, the root of a namespace, or the
path of a walked file. A path taken as a directory is checked nowhere; it has at most one slash
more. -/
theorem paths_in_grammar :
    (∀ t, flaw? t = none ↔ Grammar t) ∧
      (∀ t p, parse t = .ok p ↔ Grammar t ∧ p.text = t) ∧
      (∀ source d p, Json.Decode.logicalPath source d = .ok p ↔
        ∃ t, d = .text t ∧ Grammar t ∧ p.text = t) ∧
      (∀ p : Path, Grammar p.asDir.text ∧
        p.asDir.text = (if p.isDirLike then p.text else p.text ++ ['/']) ∧
        p.asDir.asDir = p.asDir) ∧
      (∀ (p : Path) (rest : Text),
        ((∃ q, p.join rest = .ok q) ↔
          flaw? (p.asDir.text ++ rest.dropWhile (· = '/')) = none) ∧
        ∀ q, p.join rest = .ok q → q.text = p.asDir.text ++ rest.dropWhile (· = '/') ∧
          p.asDir.text <+: q.text ∧ Grammar q.text) ∧
      (∀ ns : Namespace, Grammar ns.root.text) ∧
      (∀ ns names p, pathOf? ns names = some p ↔
        ∃ segments, names = segments.map Utf8.encode ∧ Grammar (pathText ns segments) ∧
          p.text = pathText ns segments) ∧
      (∀ (d : DiskStore) now grants t s u p e,
        d.backend now (.snapshot grants) t = (.ok s, u) → s.get? p = some e →
          Grammar p.text ∧ ∃ ns files f, t.walkFrom (d.root ns) = .ok files ∧ f ∈ files ∧
            pathOf? ns f.names = some p) ∧
      ∀ p : Path, ∃ dir : Path, dir.text ++ p.name = p.text ∧ dir.isDirLike = true ∧
        '/' ∉ p.name ∧ dir.join p.name = .ok p := by
  refine ⟨fun t => grammar_iff.symm, fun t p => parse_eq_ok, fun source d p => logicalPath_eq_ok,
    fun p => ⟨p.asDir.grammar_text, p.text_asDir, asDir_of_isDirLike p.isDirLike_asDir⟩,
    fun p rest => ⟨exists_join, fun q hq => ?_⟩, fun ns => ns.root.grammar_text,
    fun ns names p => pathOf?_eq_some_iff,
    fun d now grants t s u p e hrun hkey => ⟨p.grammar_text, walked_of_snapshot hrun hkey⟩,
    exists_join_name⟩
  have htext := join_eq_ok.mp hq
  exact ⟨htext, htext ▸ List.prefix_append .., q.grammar_text⟩

/-- A text with slashes before it is joined, and the file of a walk is a key of the snapshot. -/
theorem paths_of_join_and_walk :
    let docs : Path := ⟨"/workspace/docs", by decide⟩
    let file : Path := ⟨"/workspace/docs/a.txt", by decide⟩
    let drawn : Path := ⟨"/workspace/a", by decide⟩
    let tree := plainTree.put [Utf8.encode "workspace", Utf8.encode "a"] (.file [1] ⟨0, 0⟩)
    let s : Snapshot := SortedMap.insert ∅ drawn ⟨drawn, some 1, some ⟨0, 0⟩⟩
    docs.join "//a.txt" = .ok file ∧ docs.asDir.text <+: file.text ∧ Grammar file.text ∧
      plainStore.backend ⟨0, 0⟩ (.snapshot [Namespace.workspace.grant]) tree = (.ok s, tree) ∧
      s.get? drawn = some ⟨drawn, some 1, some ⟨0, 0⟩⟩ ∧ Grammar drawn.text := by
  intro docs file drawn tree s
  have hjoin : docs.join "//a.txt" = .ok file := join_eq_ok.mpr (by decide)
  have hrun : plainStore.backend ⟨0, 0⟩ (.snapshot [Namespace.workspace.grant]) tree =
      (.ok s, tree) := by
    decide +kernel
  have hkey : s.get? drawn = some ⟨drawn, some 1, some ⟨0, 0⟩⟩ := by decide
  obtain ⟨-, -, -, -, hjoined, -, -, hwalked, -⟩ := paths_in_grammar
  obtain ⟨-, hstart, hfile⟩ := (hjoined docs "//a.txt").2 file hjoin
  exact ⟨hjoin, hstart, hfile, hrun, hkey, (hwalked _ _ _ _ _ _ _ _ hrun hkey).1⟩

end Path
end GrantFs
