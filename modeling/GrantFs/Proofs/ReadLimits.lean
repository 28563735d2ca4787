import GrantFs.Policy
import GrantFs.Proofs.Lines

/-! # What read limits leave of a text

A limit on lines cuts first, and a limit on bytes cuts what that leaves, back to the end of a
character. Main statement: the text within both limits is the longest that they allow, and it is
followed by one marker line for each limit that cut. -/
namespace GrantFs

namespace Text

variable {t before : Text} {n : Nat}

/-- The way back from any byte meets a boundary, the first byte at the latest, and passes none. -/
theorem boundaryBack?_spec (t : Text) (n : Nat) :
    ∃ cut, boundaryBack? t n = some cut ∧ cut ≤ n ∧ isBoundary t cut = true ∧
      ∀ m, cut < m → m ≤ n → isBoundary t m = false := by
  induction n with
  | zero =>
    refine ⟨0, if_pos (isBoundary_zero t), le_rfl, isBoundary_zero t, ?_⟩
    intro m hm hle
    omega
  | succ n ih =>
    rw [boundaryBack?]
    by_cases hboundary : isBoundary t (n + 1) = true
    · rw [if_pos hboundary]
      refine ⟨n + 1, rfl, le_rfl, hboundary, ?_⟩
      intro m hm hle
      omega
    · rw [if_neg hboundary]
      obtain ⟨cut, hback, hle, hcut, hpassed⟩ := ih
      refine ⟨cut, hback, Nat.le_succ_of_le hle, hcut, ?_⟩
      intro m hm hmle
      rcases Nat.le_succ_iff.mp hmle with hmle | rfl
      · exact hpassed m hm hmle
      · exact Bool.eq_false_iff.mpr hboundary

/-- What is taken ends at the boundary that is met on the way back. -/
theorem takeBytes_boundary (limit : Nat) (t : Text) :
    takeBytes limit t <+: t ∧ boundaryBack? t limit = some (byteSize (takeBytes limit t)) := by
  obtain ⟨cut, hback, -, hcut, -⟩ := boundaryBack?_spec t limit
  obtain ⟨before, ⟨after, rfl⟩, rfl⟩ := isBoundary_iff.mp hcut
  have htaken : takeBytes limit (before ++ after) = before := by
    rw [takeBytes, hback]
    exact truncate_byteSize before after
  rw [htaken]
  exact ⟨List.prefix_append .., hback⟩

theorem byteSize_takeBytes_le (limit : Nat) (t : Text) : byteSize (takeBytes limit t) ≤ limit := by
  obtain ⟨cut, hback, hle, -⟩ := boundaryBack?_spec t limit
  rw [(takeBytes_boundary limit t).2, Option.some.injEq] at hback
  rw [hback]
  exact hle

/-- No beginning within the limit is longer than what is taken. -/
theorem prefix_takeBytes {limit : Nat} (h : before <+: t) (hsize : byteSize before ≤ limit) :
    before <+: takeBytes limit t := by
  obtain ⟨htaken, hback⟩ := takeBytes_boundary limit t
  obtain ⟨cut, hback', -, -, hpassed⟩ := boundaryBack?_spec t limit
  rw [hback, Option.some.injEq] at hback'
  have hle : byteSize before ≤ byteSize (takeBytes limit t) := by
    by_contra hlonger
    rw [hback', Nat.not_le] at hlonger
    have hnone := hpassed _ hlonger hsize
    rw [isBoundary_iff.mpr ⟨before, h, rfl⟩] at hnone
    cases hnone
  exact prefix_of_byteSize_le h htaken hle

end Text

namespace Policy

variable {t kept body : Text} {lineMarkers byteMarkers : List Text}

theorem not_mem_decimal (n : Nat) : '\n' ∉ Text.decimal n := by
  intro hmem
  have hdigit := Nat.isDigit_of_mem_toDigits (by decide) le_rfl hmem
  cases hdigit

theorem not_mem_lineMarker (limit : Nat) : '\n' ∉ lineMarker limit := by
  have hstart : '\n' ∉ ("[... truncated: showing first " : Text) := by decide +kernel
  have hend : '\n' ∉ (" lines]" : Text) := by decide +kernel
  exact List.not_mem_append (List.not_mem_append hstart (not_mem_decimal limit)) hend

theorem not_mem_byteMarker (limit : Nat) : '\n' ∉ byteMarker limit := by
  have hstart : '\n' ∉ ("[... truncated: exceeded " : Text) := by decide +kernel
  have hend : '\n' ∉ (" bytes]" : Text) := by decide +kernel
  exact List.not_mem_append (List.not_mem_append hstart (not_mem_decimal limit)) hend

inductive KeepsLines (t : Text) : (limit : Option Nat) → (kept : Text) → (markers : List Text) →
    Prop where
  | unlimited : KeepsLines t none t []
  | within {limit : Nat} : (Text.lines t).length ≤ limit → KeepsLines t (some limit) t []
  | cut {limit : Nat} : limit < (Text.lines t).length →
      KeepsLines t (some limit) (Text.unlines ((Text.lines t).take limit)) [lineMarker limit]

/-- What a limit on bytes leaves of a text, and the marker of a limit that cuts. The cut is where
the way back from the limit first meets the end of a character. -/
inductive KeepsBytes (t : Text) : (limit : Option Nat) → (kept : Text) → (markers : List Text) →
    Prop where
  | unlimited : KeepsBytes t none t []
  | within {limit : Nat} : (Utf8.encode t).length ≤ limit → KeepsBytes t (some limit) t []
  | cut {limit : Nat} {kept : Text} : limit < (Utf8.encode t).length →
      Text.boundaryBack? t limit = some (Utf8.encode kept).length →
      kept <+: t → (Utf8.encode kept).length ≤ limit →
      (∀ other, other <+: t → (Utf8.encode other).length ≤ limit → other <+: kept) →
      KeepsBytes t (some limit) kept [byteMarker limit]

theorem limitLines_keeps (limit : Option Nat) (t : Text) :
    KeepsLines t limit (limitLines limit t).1 (limitLines limit t).2 := by
  cases limit with
  | none => exact .unlimited
  | some limit =>
    rw [limitLines]
    split
    next hcut => exact .cut hcut
    next hfits => exact .within (Nat.le_of_not_lt hfits)

theorem limitBytes_keeps (limit : Option Nat) (t : Text) :
    KeepsBytes t limit (limitBytes limit t).1 (limitBytes limit t).2 := by
  cases limit with
  | none => exact .unlimited
  | some limit =>
    rw [limitBytes]
    split
    next hcut =>
      obtain ⟨hbefore, hback⟩ := Text.takeBytes_boundary limit t
      have hsize := Text.byteSize_takeBytes_le limit t
      rw [← Utf8.length_encode] at hcut hback hsize
      refine .cut hcut hback hbefore hsize ?_
      intro other hother hfits
      rw [Utf8.length_encode] at hfits
      exact Text.prefix_takeBytes hother hfits
    next hfits =>
      rw [← Utf8.length_encode] at hfits
      exact .within (Nat.le_of_not_lt hfits)

theorem limitLines_of_fits {limit? : Option Nat}
    (h : ∀ limit, limit? = some limit → (Text.lines t).length ≤ limit) :
    limitLines limit? t = (t, []) := by
  cases limit? with
  | none => rfl
  | some limit => exact if_neg (Nat.not_lt.mpr (h limit rfl))

theorem limitBytes_of_fits {limit? : Option Nat}
    (h : ∀ limit, limit? = some limit → Text.byteSize t ≤ limit) :
    limitBytes limit? t = (t, []) := by
  cases limit? with
  | none => rfl
  | some limit => exact if_neg (Nat.not_lt.mpr (h limit rfl))

theorem applyLimits_of_fits {p : Policy}
    (hlines : ∀ limit, p.maxLines = some limit → (Text.lines t).length ≤ limit)
    (hbytes : ∀ limit, p.maxBytes = some limit → Text.byteSize t ≤ limit) :
    p.applyLimits t = t := by
  simp only [applyLimits, limitLines_of_fits hlines, limitBytes_of_fits hbytes]
  exact List.append_nil t

theorem KeepsLines.length_le {limit? : Option Nat} (h : KeepsLines t limit? kept lineMarkers)
    {limit : Nat} (hlimit : limit? = some limit) : (Text.lines kept).length ≤ limit := by
  subst hlimit
  cases h with
  | within hfits => exact hfits
  | cut hcut =>
    have hkept := Text.length_lines_of_sublist (List.take_sublist limit (Text.lines t))
    exact hkept.trans (List.length_take_le limit _)

theorem KeepsBytes.isPrefix {limit : Option Nat} (h : KeepsBytes t limit kept byteMarkers) :
    kept <+: t := by
  cases h with
  | unlimited => exact List.prefix_refl t
  | within _ => exact List.prefix_refl t
  | cut _ _ hbefore _ _ => exact hbefore

theorem KeepsBytes.length_le {limit? : Option Nat} (h : KeepsBytes t limit? kept byteMarkers)
    {limit : Nat} (hlimit : limit? = some limit) : (Utf8.encode kept).length ≤ limit := by
  subst hlimit
  cases h with
  | within hfits => exact hfits
  | cut _ _ _ hsize _ => exact hsize

theorem KeepsLines.marker_line {limit : Option Nat} (h : KeepsLines t limit kept lineMarkers) :
    ∀ marker ∈ lineMarkers, '\n' ∉ marker := by
  cases h with
  | unlimited => simp
  | within _ => simp
  | cut _ => simpa using not_mem_lineMarker _

theorem KeepsBytes.marker_line {limit : Option Nat} (h : KeepsBytes t limit kept byteMarkers) :
    ∀ marker ∈ byteMarkers, '\n' ∉ marker := by
  cases h with
  | unlimited => simp
  | within _ => simp
  | cut _ _ _ _ _ => simpa using not_mem_byteMarker _

/-- Whatever the limits are, a text is cut by the one on lines and then by the one on bytes, and
followed by the marker lines of those that cut. The search for the end of a character never leaves
the text, and what is left of the text is within both limits. -/
theorem limits_cut_exactly (p : Policy) (t : Text) :
    ∃ kept body lineMarkers byteMarkers,
      KeepsLines t p.maxLines kept lineMarkers ∧ KeepsBytes kept p.maxBytes body byteMarkers ∧
      p.applyLimits t =
        body ++ (lineMarkers ++ byteMarkers).flatMap (fun marker => '\n' :: marker) ∧
      (∀ marker ∈ lineMarkers ++ byteMarkers, '\n' ∉ marker) ∧
      (∀ n, ∃ cut, Text.boundaryBack? kept n = some cut ∧ cut ≤ n) ∧
      (∀ limit, p.maxLines = some limit → (Text.lines body).length ≤ limit) ∧
      ∀ limit, p.maxBytes = some limit → (Utf8.encode body).length ≤ limit := by
  have hlines := limitLines_keeps p.maxLines t
  have hbytes := limitBytes_keeps p.maxBytes (limitLines p.maxLines t).1
  refine ⟨_, _, _, _, hlines, hbytes, rfl, ?_, ?_, ?_, ?_⟩
  · exact List.forall_mem_append.mpr ⟨hlines.marker_line, hbytes.marker_line⟩
  · intro n
    obtain ⟨cut, hback, hle, -⟩ := Text.boundaryBack?_spec (limitLines p.maxLines t).1 n
    exact ⟨cut, hback, hle⟩
  · intro limit hlimit
    exact (Text.length_lines_le hbytes.isPrefix).trans (hlines.length_le hlimit)
  · intro limit hlimit
    exact hbytes.length_le hlimit

/-- The byte limit cuts in the second of two characters, after the line limit has taken the second
line away. -/
example : applyLimits { maxLines := some 1, maxBytes := some 2 } "aé\nb" =
    ("a\n[... truncated: showing first 1 lines]\n[... truncated: exceeded 2 bytes]" : Text) := by
  decide +kernel

end Policy
end GrantFs
