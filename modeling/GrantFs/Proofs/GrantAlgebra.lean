import GrantFs.Handle
import GrantFs.Proofs.Grant

/-! # The algebra of grants

Grants are asked in four ways: for one permission, for all operations at a text, for visibility, and
for overlap. Main statement: the four agree at every text, a list of grants permits what its members
permit together, and nothing that is permitted or visible at a text is lost below it. -/
namespace GrantFs

variable {grants more : List Grant} {path start : Text} {op : Operation}

theorem mem_effectiveOps : op ∈ effectiveOps grants path ↔ permits grants path op = true := by
  rw [effectiveOps, Operation.mem_inOrder, List.mem_flatMap, permits_iff]
  constructor
  · rintro ⟨g, hg, hop⟩
    obtain ⟨hmem, hcovers⟩ := List.mem_filter.mp hg
    exact ⟨g, hmem, Grant.covers_iff.mp hcovers, hop⟩
  · rintro ⟨g, hmem, hcovers, hop⟩
    exact ⟨g, List.mem_filter.mpr ⟨hmem, Grant.covers_iff.mpr hcovers⟩, hop⟩

theorem permits_append :
    permits (grants ++ more) path op = true ↔
      permits grants path op = true ∨ permits more path op = true := by
  rw [permits, List.any_append, Bool.or_eq_true, ← permits, ← permits]

/-- Grants that are added, reordered or repeated take no permission away. -/
theorem permits_of_subset (hsubset : grants ⊆ more) (h : permits grants path op = true) :
    permits more path op = true := by
  obtain ⟨g, hg, hcovers, hop⟩ := permits_iff.mp h
  exact permits_iff.mpr ⟨g, hsubset hg, hcovers, hop⟩

theorem mem_effectiveOps_append :
    op ∈ effectiveOps (grants ++ more) path ↔
      op ∈ effectiveOps grants path ∨ op ∈ effectiveOps more path := by
  rw [mem_effectiveOps, mem_effectiveOps, mem_effectiveOps, permits_append]

theorem effectiveOps_append (grants more : List Grant) (path : Text) :
    effectiveOps (grants ++ more) path =
      Operation.inOrder (effectiveOps grants path ++ effectiveOps more path) := by
  rw [effectiveOps]
  refine Operation.inOrder_congr fun op => ?_
  rw [← Operation.mem_inOrder, ← effectiveOps, mem_effectiveOps_append, List.mem_append]

theorem visible_of_prefix {below : Text} (h : isVisible grants path = true)
    (hbelow : path <+: below) : isVisible grants below = true := by
  obtain ⟨g, hg, hcovers⟩ := isVisible_iff.mp h
  exact isVisible_iff.mpr ⟨g, hg, hcovers.trans hbelow⟩

/-- A grant shows nothing that begins with a text it does not overlap. -/
theorem Grant.not_covers_of_not_overlaps {g : Grant} (h : g.overlaps start = false)
    (hstart : start <+: path) : g.covers path = false := by
  rw [Bool.eq_false_iff] at h ⊢
  intro hcovers
  exact h (overlaps_iff.mpr ⟨path, covers_iff.mp hcovers, hstart⟩)

/-- For all lists of grants, all texts and operations: single permissions and the set of operations
agree, lists of grants unite, permissions and visibility go down, and overlap is what visibility
below a text needs. -/
theorem grants_agree (grants more : List Grant) (path below : Text) (op : Operation) :
    (Handle.permits ⟨grants⟩ path op = true ↔ op ∈ effectiveOps grants path) ∧
      effectiveOps (grants ++ more) path =
        Operation.inOrder (effectiveOps grants path ++ effectiveOps more path) ∧
      (op ∈ effectiveOps (grants ++ more) path ↔
        op ∈ effectiveOps grants path ∨ op ∈ effectiveOps more path) ∧
      (grants ⊆ more → Handle.permits ⟨grants⟩ path op = true →
        Handle.permits ⟨more⟩ path op = true) ∧
      (Handle.permits ⟨grants⟩ path op = true → Handle.permits ⟨grants⟩ (path ++ below) op = true) ∧
      (isVisible grants path = true → isVisible grants (path ++ below) = true) ∧
      (∀ (g : Grant) (start : Text),
        g.overlaps start = true ↔ ∃ t, g.root.text <+: t ∧ start <+: t) ∧
      ∀ (g : Grant) (start t : Text), g.overlaps start = false → start <+: t →
        isVisible [g] t = false ∧
          isVisible (grants ++ g :: more) t = isVisible (grants ++ more) t := by
  refine ⟨mem_effectiveOps.symm, effectiveOps_append grants more path, mem_effectiveOps_append,
    permits_of_subset, fun h => permits_of_prefix h (List.prefix_append ..),
    fun h => visible_of_prefix h (List.prefix_append ..), fun g start => Grant.overlaps_iff,
    fun g start t hoverlap hstart => ?_⟩
  have hcovers : g.covers t = false := Grant.not_covers_of_not_overlaps hoverlap hstart
  constructor
  · simp [isVisible, hcovers]
  · simp [isVisible, hcovers]

/-- A root that ends inside of a name, and a grant that does not overlap the workspace. -/
theorem grants_agree_of_open_root :
    let g : Grant := .ofOps ⟨"/workspace/d", by decide⟩ [.list]
    let deeper : Grant := .ofOps ⟨"/workspace/docs/", by decide⟩ [.write]
    let aside : Grant := Namespace.internal.grant
    [g] ⊆ [deeper, g, g] ∧ Handle.permits ⟨[g]⟩ "/workspace/docs" .list = true ∧
      isVisible [g] "/workspace/docs" = true ∧ aside.overlaps "/workspace/" = false ∧
      effectiveOps ([g] ++ [deeper, g, g]) "/workspace/docs" = [.list] ∧
      Handle.permits ⟨[deeper, g, g]⟩ "/workspace/docs" .list = true ∧
      Handle.permits ⟨[g]⟩ "/workspace/docs/a" .list = true ∧
      isVisible [g] "/workspace/docs/a" = true ∧
      isVisible [aside] "/workspace/docs/a" = false ∧
      isVisible ([g] ++ aside :: [deeper, g, g]) "/workspace/docs/a" =
        isVisible ([g] ++ [deeper, g, g]) "/workspace/docs/a" := by
  intro g deeper aside
  have hsubset : [g] ⊆ [deeper, g, g] := by simp
  have hpermits : Handle.permits ⟨[g]⟩ "/workspace/docs" .list = true := by decide
  have hvisible : isVisible [g] "/workspace/docs" = true := by decide
  have hapart : aside.overlaps "/workspace/" = false := by decide
  obtain ⟨-, hunion, -, hmore, hbelow, hshown, -, hhidden⟩ :=
    grants_agree [g] [deeper, g, g] "/workspace/docs" "/a" .list
  obtain ⟨hnone, hsame⟩ := hhidden aside "/workspace/" "/workspace/docs/a" hapart (by decide)
  exact ⟨hsubset, hpermits, hvisible, hapart, hunion.trans (by decide), hmore hsubset hpermits,
    hbelow hpermits, hshown hvisible, hnone, hsame⟩

end GrantFs
