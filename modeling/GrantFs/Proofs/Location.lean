import GrantFs.Os.Tree
import GrantFs.Proofs.Utf8
import GrantFs.Text.Boundary
import Mathlib.Algebra.Order.BigOperators.Group.List
import Mathlib.Data.List.Basic

/-! # Locations as lists of names

A location is read as the list of names between its slashes. Main statements: joining a name to a
location adds it to the list, the location written from a list of names is read as that list, and
the directories above a location are the beginnings of its list. -/
namespace GrantFs

namespace Text

def IsSegment (s : Text) : Prop := s ≠ [] ∧ '/' ∉ s

theorem split_of_not_mem {separator : Char} {t : Text} (h : separator ∉ t) :
    split separator t = [t] := by
  induction t with
  | nil => rfl
  | cons c rest ih =>
    simp only [List.mem_cons, not_or] at h
    rw [split, if_neg (Ne.symm h.1), ih h.2]

theorem split_ne_nil (separator : Char) (t : Text) : split separator t ≠ [] := by
  cases t with
  | nil => simp [split]
  | cons c rest =>
    rw [split]
    split
    · simp
    · split <;> simp

theorem split_append (separator : Char) (s t : Text) :
    split separator (s ++ separator :: t) = split separator s ++ split separator t := by
  induction s with
  | nil => simp [split]
  | cons c rest ih =>
    rw [List.cons_append, split, split]
    split
    · rw [ih, List.cons_append]
    · rw [ih]
      cases hrest : split separator rest with
      | nil => exact absurd hrest (split_ne_nil separator rest)
      | cons part parts => rfl

theorem not_mem_of_mem_split {s t : Text} (h : s ∈ split '/' t) : '/' ∉ s := by
  induction t generalizing s with
  | nil => simp_all [split]
  | cons c rest ih =>
    rw [split] at h
    split at h
    · rcases List.mem_cons.mp h with rfl | h
      · simp
      · exact ih h
    next hc =>
      split at h
      next =>
        rw [List.mem_singleton] at h
        subst h
        simpa using Ne.symm hc
      next part parts hparts =>
        rcases List.mem_cons.mp h with rfl | h
        · have hpart : '/' ∉ part := ih (by simp [hparts])
          simp [hpart, Ne.symm hc]
        · exact ih (by simp [hparts, h])

theorem isSegment_of_mem_segments {s t : Text} (h : s ∈ segments t) : s.IsSegment := by
  rw [segments, List.mem_filter] at h
  exact ⟨by simpa using h.2, not_mem_of_mem_split h.1⟩

theorem split_cons_cases {c : Char} {rest part : Text} {parts : List Text}
    (h : split '/' (c :: rest) = part :: parts) :
    part = [] ∧ parts = split '/' rest ∨
      ∃ part', part = c :: part' ∧ split '/' rest = part' :: parts := by
  rw [split] at h
  split at h
  · cases h
    exact .inl ⟨rfl, rfl⟩
  · split at h
    next hrest => exact absurd hrest (split_ne_nil '/' rest)
    next part' parts' hrest =>
      cases h
      exact .inr ⟨part', rfl, hrest⟩

theorem prefix_of_split {t part : Text} {parts : List Text} (h : split '/' t = part :: parts) :
    part <+: t := by
  induction t generalizing part parts with
  | nil =>
    cases h
    exact List.prefix_refl []
  | cons c rest ih =>
    rcases split_cons_cases h with ⟨rfl, -⟩ | ⟨part', rfl, hrest⟩
    · exact List.nil_prefix
    · exact List.cons_prefix_cons.mpr ⟨rfl, ih hrest⟩

theorem infix_of_mem_split {s t : Text} (h : s ∈ split '/' t) : s <:+: t := by
  induction t generalizing s with
  | nil =>
    rw [split, List.mem_singleton] at h
    exact h ▸ List.infix_refl []
  | cons c rest ih =>
    obtain ⟨part, parts, hsplit⟩ := List.exists_cons_of_ne_nil (split_ne_nil '/' (c :: rest))
    rw [hsplit] at h
    rcases List.mem_cons.mp h with rfl | hlater
    · exact (prefix_of_split hsplit).isInfix
    · refine (ih ?_).trans (List.suffix_cons c rest).isInfix
      rcases split_cons_cases hsplit with ⟨-, rfl⟩ | ⟨part', -, hrest⟩
      · exact hlater
      · rw [hrest]
        exact List.mem_cons_of_mem part' hlater

theorem IsSegment.segments_eq {s : Text} (h : s.IsSegment) : segments s = [s] := by
  simp [segments, split_of_not_mem h.2, h.1]

theorem segments_append_slash (s t : Text) :
    segments (s ++ '/' :: t) = segments s ++ segments t := by
  rw [segments, split_append, List.filter_append, segments, segments]

theorem segments_slash (t : Text) : segments ('/' :: t) = segments t := segments_append_slash [] t

theorem segments_concat_ne_nil {c : Char} (hc : c ≠ '/') (t : Text) : segments (t ++ [c]) ≠ [] := by
  induction t with
  | nil =>
    rw [List.nil_append, IsSegment.segments_eq ⟨by simp, by simpa using Ne.symm hc⟩]
    simp
  | cons first rest ih =>
    rw [List.cons_append]
    by_cases hfirst : first = '/'
    · rw [hfirst, segments_slash]
      exact ih
    · rw [segments, split, if_neg hfirst]
      split <;> simp

theorem joinWith_cons (separator part : Text) {parts : List Text} (h : parts ≠ []) :
    joinWith separator (part :: parts) = part ++ separator ++ joinWith separator parts := by
  cases parts with
  | nil => exact absurd rfl h
  | cons next rest => simp [joinWith, List.intercalate, List.intersperse]

theorem joinWith_slash_cons (part : Text) {parts : List Text} (h : parts ≠ []) :
    joinWith "/" (part :: parts) = part ++ '/' :: joinWith "/" parts := by
  rw [joinWith_cons _ _ h, List.append_assoc]
  rfl

theorem joinWith_append (separator : Text) {parts more : List Text} (h : parts ≠ [])
    (hmore : more ≠ []) :
    joinWith separator (parts ++ more) =
      joinWith separator parts ++ separator ++ joinWith separator more := by
  induction parts with
  | nil => exact absurd rfl h
  | cons part rest ih =>
    rw [List.cons_append, joinWith_cons _ _ (List.append_ne_nil_of_right_ne_nil _ hmore)]
    by_cases hrest : rest = []
    · subst hrest
      simp [joinWith, List.intercalate]
    · rw [ih hrest, joinWith_cons _ _ hrest]
      simp only [List.append_assoc]

theorem joinWith_slash_append {parts more : List Text} (h : parts ≠ []) (hmore : more ≠ []) :
    joinWith "/" (parts ++ more) = joinWith "/" parts ++ '/' :: joinWith "/" more := by
  rw [joinWith_append _ h hmore, List.append_assoc]
  rfl

theorem joinWith_split (t : Text) : joinWith "/" (split '/' t) = t := by
  induction t with
  | nil => rfl
  | cons c rest ih =>
    rw [split]
    split
    next hc => rw [joinWith_slash_cons _ (split_ne_nil '/' rest), ih, List.nil_append, hc]
    next =>
      cases hrest : split '/' rest with
      | nil => exact absurd hrest (split_ne_nil '/' rest)
      | cons part parts =>
        rw [hrest] at ih
        show joinWith "/" ((c :: part) :: parts) = c :: rest
        by_cases hparts : parts = []
        · subst hparts
          rw [← ih]
          simp [joinWith, List.intercalate]
        · rw [joinWith_slash_cons _ hparts, List.cons_append, ← joinWith_slash_cons _ hparts, ih]

/-- What a text is split into stands between two slashes, if one is put at each end of the text. -/
theorem infix_of_mem_split_slashed {s t : Text} (h : s ∈ split '/' t) :
    '/' :: (s ++ ['/']) <:+: '/' :: (t ++ ['/']) := by
  obtain ⟨before, after, hsplit⟩ := List.append_of_mem h
  have hbehind : ∃ rest, joinWith "/" (s :: after) ++ ['/'] = s ++ '/' :: rest := by
    by_cases hnil : after = []
    · subst hnil
      exact ⟨[], by simp [joinWith, List.intercalate]⟩
    · exact ⟨joinWith "/" after ++ ['/'], by rw [joinWith_slash_cons _ hnil]; simp⟩
  obtain ⟨rest, hrest⟩ := hbehind
  rw [← joinWith_split t, hsplit]
  by_cases hnil : before = []
  · subst hnil
    rw [List.nil_append, hrest]
    exact ⟨[], rest, by simp⟩
  · rw [joinWith_slash_append hnil (by simp), List.append_assoc, List.cons_append, hrest]
    exact ⟨'/' :: joinWith "/" before, rest, by simp⟩

/-- A text is its segments joined again, if no slashes meet in it, at its ends neither. -/
theorem joinWith_segments {t : Text} (h : ¬ ['/', '/'] <:+: '/' :: (t ++ ['/'])) :
    joinWith "/" (segments t) = t := by
  have hsegments : segments t = split '/' t := by
    rw [segments, List.filter_eq_self]
    intro s hs
    rw [decide_eq_true_eq]
    rintro rfl
    exact h (infix_of_mem_split_slashed hs)
  rw [hsegments, joinWith_split]

theorem segments_joinWith {parts : List Text} (h : ∀ s ∈ parts, s.IsSegment) :
    segments (joinWith "/" parts) = parts := by
  induction parts with
  | nil => rfl
  | cons part rest ih =>
    have hpart := (h part (by simp)).segments_eq
    have hrest := ih fun s hs => h s (by simp [hs])
    by_cases hnil : rest = []
    · subst hnil
      simpa [joinWith, List.intercalate] using hpart
    · rw [joinWith_slash_cons _ hnil, segments_append_slash, hpart, hrest]
      rfl

theorem sum_split (t : Text) :
    ((split '/' t).map fun s => byteSize s + 1).sum = byteSize t + 1 := by
  induction t with
  | nil => rfl
  | cons c rest ih =>
    have hcons : byteSize (c :: rest) = c.utf8Size + byteSize rest := rfl
    rw [split, hcons]
    split
    next hc =>
      subst hc
      have hslash : Char.utf8Size '/' = 1 := rfl
      rw [List.map_cons, List.sum_cons, ih, hslash]
      have hnil : byteSize [] = 0 := rfl
      omega
    next =>
      split
      next hnil =>
        rw [hnil] at ih
        simp at ih
      next part parts hparts =>
        have hpart : byteSize (c :: part) = c.utf8Size + byteSize part := rfl
        rw [hparts, List.map_cons, List.sum_cons] at ih
        rw [List.map_cons, List.sum_cons, hpart]
        omega

theorem byteSize_joinWith {parts : List Text} (h : parts ≠ []) :
    byteSize (joinWith "/" parts) + 1 = (parts.map fun s => byteSize s + 1).sum := by
  induction parts with
  | nil => exact absurd rfl h
  | cons part rest ih =>
    by_cases hrest : rest = []
    · subst hrest
      simp [joinWith, List.intercalate]
    · have hslash : ∀ t : Text, byteSize ('/' :: t) = 1 + byteSize t := fun _ => rfl
      rw [joinWith_slash_cons _ hrest, byteSize_append, hslash, List.map_cons, List.sum_cons,
        ← ih hrest]
      omega

theorem byteSize_joinWith_le {parts more : List Text} (h : parts.Sublist more) :
    byteSize (joinWith "/" parts) ≤ byteSize (joinWith "/" more) := by
  by_cases hnil : parts = []
  · subst hnil
    exact Nat.zero_le _
  · have hmore : more ≠ [] := by
      rintro rfl
      exact hnil (List.sublist_nil.mp h)
    have hsum := (h.map fun s => byteSize s + 1).sum_le_sum fun _ _ => Nat.zero_le _
    rw [← byteSize_joinWith hnil, ← byteSize_joinWith hmore] at hsum
    omega

structure IsPlain (s : Text) : Prop where
  segment : s.IsSegment
  ne_dot : s ≠ "."
  ne_dotDot : s ≠ ".."

end Text

namespace Os

open Text

variable {root name : Text} {segments : List Text}

theorem join_eq (hname : name.IsSegment) (hroot : root ≠ []) :
    join root name = if root.getLast? = some '/' then root ++ name else root ++ '/' :: name := by
  have hrelative : isAbsolute name = false := by
    cases name with
    | nil => rfl
    | cons c rest =>
      have hc : c ≠ '/' := fun hc => hname.2 (by simp [hc])
      simp [isAbsolute, hc]
  rw [join, if_neg (by simp [hrelative, hroot])]

theorem join_empty (name : Text) : join [] name = name := by
  simp [join]

theorem segments_join (hname : name.IsSegment) (root : Text) :
    Text.segments (join root name) = Text.segments root ++ [name] := by
  by_cases hroot : root = []
  · subst hroot
    rw [join_empty, hname.segments_eq]
    rfl
  · rw [join_eq hname hroot]
    split
    next hlast =>
      obtain ⟨start, rfl⟩ := List.getLast?_eq_some_iff.mp hlast
      rw [List.append_assoc, List.singleton_append, segments_append_slash,
        segments_append_slash, hname.segments_eq]
      simp [Text.segments, split]
    next => rw [segments_append_slash, hname.segments_eq]

theorem getLast?_join (hname : name.IsSegment) (root : Text) :
    (join root name).getLast? ≠ some '/' := by
  have hlast : ∀ start : Text, (start ++ name).getLast? ≠ some '/' := by
    intro start hslash
    rw [List.getLast?_append_of_ne_nil _ hname.1] at hslash
    exact hname.2 (List.mem_of_getLast? hslash)
  by_cases hroot : root = []
  · subst hroot
    rw [join_empty]
    exact hlast []
  · rw [join_eq hname hroot]
    split
    · exact hlast root
    · simpa using hlast (root ++ ['/'])

theorem segments_foldl_join (hsegments : ∀ s ∈ segments, s.IsSegment) (root : Text) :
    Text.segments (segments.foldl join root) = Text.segments root ++ segments := by
  induction segments generalizing root with
  | nil => simp
  | cons name rest ih =>
    rw [List.foldl_cons, ih (fun s hs => hsegments s (by simp [hs])),
      segments_join (hsegments name (by simp)), List.append_assoc]
    rfl

theorem getLast?_foldl_join (hsegments : ∀ s ∈ segments, s.IsSegment) (hne : segments ≠ [])
    (root : Text) : (segments.foldl join root).getLast? ≠ some '/' := by
  rw [← List.dropLast_concat_getLast hne, List.foldl_append]
  exact getLast?_join (hsegments _ (List.getLast_mem hne)) _

theorem isAbsolute_join (hname : name.IsSegment) (root : Text) :
    isAbsolute (join root name) = isAbsolute root := by
  cases root with
  | nil =>
    rw [join_empty]
    cases name with
    | nil => rfl
    | cons c rest =>
      have hc : c ≠ '/' := fun hc => hname.2 (by simp [hc])
      simp [isAbsolute, hc]
  | cons c rest =>
    rw [join_eq hname (by simp)]
    split <;> rfl

theorem isAbsolute_foldl_join (hsegments : ∀ s ∈ segments, s.IsSegment) (root : Text) :
    isAbsolute (segments.foldl join root) = isAbsolute root := by
  induction segments generalizing root with
  | nil => rfl
  | cons name rest ih =>
    rw [List.foldl_cons, ih (fun s hs => hsegments s (by simp [hs])),
      isAbsolute_join (hsegments name (by simp))]

theorem components_foldl_join (hsegments : ∀ s ∈ segments, s.IsSegment) (root : Text) :
    components (segments.foldl join root) = components root ++ segments.filter (· ≠ ['.']) := by
  rw [components, segments_foldl_join hsegments, List.filter_append, components]

/-- The bytes of a joined location, counted as a walk counts them. -/
theorem byteSize_foldl_join (hsegments : ∀ s ∈ segments, s.IsSegment) (hroot : root ≠ []) :
    byteSize (segments.foldl join root) =
      if segments = [] then byteSize root
      else OsTree.sizeBelow root (segments.map Utf8.encode) := by
  have hslash : byteSize "/" = 1 := rfl
  have hfold : ∀ (rest : List Text) (location : Text), (∀ s ∈ rest, s.IsSegment) →
      location.getLast? ≠ some '/' → location ≠ [] →
      byteSize (rest.foldl join location) =
        (rest.map Utf8.encode).foldl (fun size name => size + 1 + name.length)
          (byteSize location) := by
    intro rest
    induction rest with
    | nil => intros; rfl
    | cons name rest ih =>
      intro location hrest hlast hlocation
      have hname := hrest name (by simp)
      rw [List.foldl_cons, ih _ (fun s hs => hrest s (by simp [hs])) (getLast?_join hname location)
        (by rw [join_eq hname hlocation, if_neg hlast]; simp), List.map_cons, List.foldl_cons,
        join_eq hname hlocation, if_neg hlast, Utf8.length_encode]
      have hcons : ('/' :: name : Text) = "/" ++ name := rfl
      rw [hcons, byteSize_append, byteSize_append, hslash, Nat.add_assoc]
  cases segments with
  | nil => rfl
  | cons name rest =>
    have hname := hsegments name (by simp)
    rw [if_neg (by simp), List.foldl_cons, hfold _ _ (fun s hs => hsegments s (by simp [hs]))
      (getLast?_join hname root) (by rw [join_eq hname hroot]; split <;> simp [hroot]),
      OsTree.sizeBelow, List.map_cons, List.foldl_cons, join_eq hname hroot, Utf8.length_encode]
    congr 1
    by_cases hlast : root.getLast? = some '/'
    · obtain ⟨start, rfl⟩ := List.getLast?_eq_some_iff.mp hlast
      have hstart : byteSize ['/'] = 1 := hslash
      rw [if_pos hlast, if_pos hlast, byteSize_append, byteSize_append, hstart]
      omega
    · have hcons : ('/' :: name : Text) = "/" ++ name := rfl
      rw [if_neg hlast, if_neg hlast, hcons, byteSize_append, byteSize_append, hslash]
      omega

theorem isPiece_encode {s : Text} (h : s.IsSegment) : OsTree.IsPiece (Utf8.encode s) where
  ne_nil := fun hnil => h.1 (Utf8.encode_eq_nil.mp hnil)
  noSlash := fun hslash => h.2 (Utf8.mem_encode_slash.mp hslash)

theorem isPiece_of_mem_namesOf {location : Text} {name : Name}
    (h : name ∈ OsTree.namesOf location) : OsTree.IsPiece name := by
  rw [OsTree.namesOf, List.mem_append] at h
  rcases h with hsegment | hdot
  · obtain ⟨s, hs, rfl⟩ := List.mem_map.mp hsegment
    exact isPiece_encode (isSegment_of_mem_segments hs)
  · split at hdot
    · rw [List.mem_singleton.mp hdot]
      decide
    · cases hdot

theorem namesOf_of_getLast? {location : Text} (h : location.getLast? ≠ some '/') :
    OsTree.namesOf location = (Text.segments location).map Utf8.encode := by
  rw [OsTree.namesOf, if_neg h, List.append_nil]

theorem namesOf_join (hname : name.IsSegment) (root : Text) :
    OsTree.namesOf (join root name) =
      (Text.segments root).map Utf8.encode ++ [Utf8.encode name] := by
  rw [namesOf_of_getLast? (getLast?_join hname root), segments_join hname, List.map_append]
  rfl

theorem namesOf_foldl_join (hsegments : ∀ s ∈ segments, s.IsSegment) (hne : segments ≠ [])
    (root : Text) :
    OsTree.namesOf (segments.foldl join root) =
      (Text.segments root).map Utf8.encode ++ segments.map Utf8.encode := by
  rw [namesOf_of_getLast? (getLast?_foldl_join hsegments hne root),
    segments_foldl_join hsegments, List.map_append]

variable {absolute : Bool} {names : List Text}

theorem isSegment_of_mem_components {location s : Text} (h : s ∈ components location) :
    s.IsSegment :=
  isSegment_of_mem_segments (List.mem_filter.mp h).1

theorem dot_not_mem_components (location : Text) : ['.'] ∉ components location := by
  intro hdot
  simpa using (List.mem_filter.mp hdot).2

theorem segments_ofComponents (hnames : ∀ s ∈ names, s.IsSegment) (absolute : Bool) :
    Text.segments (ofComponents absolute names) = names := by
  have hjoined := segments_joinWith hnames
  cases absolute with
  | false => exact hjoined
  | true => exact (segments_slash _).trans hjoined

theorem getLast?_ofComponents (hnames : ∀ s ∈ names, s.IsSegment) (hne : names ≠ [])
    (absolute : Bool) : (ofComponents absolute names).getLast? ≠ some '/' := by
  have hjoined : joinWith "/" names ≠ [] ∧ (joinWith "/" names).getLast? ≠ some '/' := by
    induction names with
    | nil => exact absurd rfl hne
    | cons part rest ih =>
      have hpart := hnames part (by simp)
      by_cases hnil : rest = []
      · subst hnil
        have hself : joinWith "/" [part] = part := by simp [joinWith, List.intercalate]
        rw [hself]
        exact ⟨hpart.1, fun hlast => hpart.2 (List.mem_of_getLast? hlast)⟩
      · obtain ⟨hsome, hlast⟩ := ih (fun s hs => hnames s (by simp [hs])) hnil
        rw [joinWith_slash_cons _ hnil]
        refine ⟨by simp, ?_⟩
        rw [List.append_cons, List.getLast?_append_of_ne_nil _ hsome]
        exact hlast
  rw [ofComponents, List.getLast?_append_of_ne_nil _ hjoined.1]
  exact hjoined.2

theorem namesOf_ofComponents (hnames : ∀ s ∈ names, s.IsSegment) (hne : names ≠ [])
    (absolute : Bool) :
    OsTree.namesOf (ofComponents absolute names) = names.map Utf8.encode := by
  rw [namesOf_of_getLast? (getLast?_ofComponents hnames hne absolute),
    segments_ofComponents hnames]

theorem components_ofComponents (hnames : ∀ s ∈ names, s.IsSegment) (hdots : ['.'] ∉ names)
    (absolute : Bool) : components (ofComponents absolute names) = names := by
  rw [components, segments_ofComponents hnames, List.filter_eq_self]
  intro s hs
  have hne : s ≠ ['.'] := by
    rintro rfl
    exact hdots hs
  simpa using hne

theorem isAbsolute_ofComponents (hnames : ∀ s ∈ names, s.IsSegment) (absolute : Bool) :
    isAbsolute (ofComponents absolute names) = absolute := by
  cases absolute with
  | true => rfl
  | false =>
    cases names with
    | nil => rfl
    | cons part rest =>
      obtain ⟨hne, hplain⟩ := hnames part (by simp)
      cases part with
      | nil => exact absurd rfl hne
      | cons c tail =>
        have hc : c ≠ '/' := fun hc => hplain (by simp [hc])
        by_cases hnil : rest = []
        · subst hnil
          simp [ofComponents, isAbsolute, joinWith, List.intercalate, hc]
        · rw [ofComponents, joinWith_slash_cons _ hnil]
          simp [isAbsolute, hc]

/-- The locations of all beginnings of a list of names, the longest first. -/
def chain (absolute : Bool) (names : List Text) : List Text :=
  (List.range names.length).reverse.map fun k => ofComponents absolute (names.take (k + 1))

theorem chain_concat (absolute : Bool) (names : List Text) (last : Text) :
    chain absolute (names ++ [last]) =
      ofComponents absolute (names ++ [last]) :: chain absolute names := by
  rw [chain, List.length_append, List.length_singleton, List.range_succ, List.reverse_concat,
    List.map_cons, List.take_of_length_le (by simp), chain]
  congr 1
  refine List.map_congr_left fun k hk => ?_
  simp only [List.mem_reverse, List.mem_range] at hk
  rw [List.take_append_of_le_length (by omega)]

theorem cons_ancestors (hnames : ∀ s ∈ names, s.IsSegment) (hdots : ['.'] ∉ names)
    (hne : names ≠ []) (absolute : Bool) :
    ofComponents absolute names :: ancestors (ofComponents absolute names) =
      chain absolute names := by
  have hsplit : names.dropLast ++ [names.getLast hne] = names := List.dropLast_concat_getLast hne
  have hlength : names.dropLast.length = names.length - 1 := List.length_dropLast
  rw [ancestors, components_ofComponents hnames hdots, isAbsolute_ofComponents hnames]
  conv_rhs => rw [← hsplit, chain_concat, hsplit]
  rw [chain, hlength]
  congr 1
  refine List.map_congr_left fun k hk => ?_
  simp only [List.mem_reverse, List.mem_range] at hk
  conv_lhs => rw [← hsplit]
  rw [List.take_append_of_le_length (by omega)]

theorem parent_foldl_join (hsegments : ∀ s ∈ segments, s.IsSegment) (root : Text) :
    parent (segments.foldl join root) =
      ofComponents (isAbsolute root)
        (components root ++ segments.filter (· ≠ ['.'])).dropLast := by
  rw [parent, isAbsolute_foldl_join hsegments, components_foldl_join hsegments]

theorem byteSize_ofComponents_append (absolute : Bool) (names more : List Text) :
    byteSize (ofComponents absolute names) ≤ byteSize (ofComponents absolute (names ++ more)) := by
  rw [ofComponents, ofComponents, byteSize_append, byteSize_append]
  exact Nat.add_le_add_left (byteSize_joinWith_le (List.sublist_append_left ..)) _

theorem byteSize_ofComponents_components (location : Text) :
    byteSize (ofComponents (isAbsolute location) (components location)) ≤ byteSize location := by
  have hjoin : ∀ t : Text, byteSize (joinWith "/" (components t)) ≤ byteSize t := by
    intro t
    have hne : split '/' t ≠ [] := by
      intro hnil
      have hsum := sum_split t
      rw [hnil] at hsum
      simp at hsum
    have hsize := byteSize_joinWith hne
    rw [sum_split] at hsize
    have hparts : (components t).Sublist (split '/' t) :=
      List.filter_sublist.trans List.filter_sublist
    have hle := byteSize_joinWith_le hparts
    omega
  cases location with
  | nil => exact Nat.zero_le _
  | cons c rest =>
    by_cases hc : c = '/'
    · subst hc
      have hcomponents : components ('/' :: rest) = components rest := by
        rw [components, segments_slash, components]
      have hslash : byteSize ('/' :: rest) = byteSize "/" + byteSize rest := rfl
      rw [hcomponents, ofComponents, byteSize_append, hslash]
      exact Nat.add_le_add_left (hjoin rest) _
    · have hrelative : isAbsolute (c :: rest) = false := by simp [isAbsolute, hc]
      rw [hrelative]
      exact hjoin (c :: rest)

end Os

namespace OsTree

theorem checkLocation_eq_ok {location : Text} :
    checkLocation location = .ok () ↔ location ≠ [] ∧ Text.byteSize location < locationLimit := by
  unfold checkLocation
  split <;> [skip; split] <;> simp_all
theorem checkLocation_long {location : Text} (hne : location ≠ [])
    (h : checkLocation location ≠ .ok ()) : checkLocation location = .error .nameTooLong := by
  unfold checkLocation at h ⊢
  split <;> [skip; split] <;> simp_all

end OsTree
end GrantFs
