import GrantFs.Namespace

/-! # Grants and namespaces

Permission, visibility and overlap as statements about single grants, and the namespace of a path as
the one whose root the path begins with. -/
namespace GrantFs

variable {grants : List Grant} {path : Text} {op : Operation}

theorem Grant.covers_iff {g : Grant} : g.covers path = true ↔ g.root.text <+: path :=
  List.isPrefixOf_iff_prefix

theorem Grant.allows_iff {g : Grant} : g.allows op = true ↔ op ∈ g.ops := List.contains_iff_mem

/-- A grant overlaps a text if and only if some text begins with both. -/
theorem Grant.overlaps_iff {g : Grant} {start : Text} :
    g.overlaps start = true ↔ ∃ t, g.root.text <+: t ∧ start <+: t := by
  rw [Grant.overlaps, Bool.or_eq_true, Grant.covers_iff, Path.startsWith,
    List.isPrefixOf_iff_prefix]
  constructor
  · rintro (hcovers | hroot)
    · exact ⟨start, hcovers, List.prefix_refl start⟩
    · exact ⟨g.root.text, List.prefix_refl _, hroot⟩
  · rintro ⟨t, hroot, hstart⟩
    exact List.prefix_or_prefix_of_prefix hroot hstart

theorem permits_iff :
    permits grants path op = true ↔ ∃ g ∈ grants, g.root.text <+: path ∧ op ∈ g.ops := by
  simp only [permits, List.any_eq_true, Bool.and_eq_true, Grant.covers_iff, Grant.allows_iff]

theorem isVisible_iff : isVisible grants path = true ↔ ∃ g ∈ grants, g.root.text <+: path := by
  simp only [isVisible, List.any_eq_true, Grant.covers_iff]

theorem visible_of_permits (h : permits grants path op = true) : isVisible grants path = true := by
  obtain ⟨g, hg, hcovers, -⟩ := permits_iff.mp h
  exact isVisible_iff.mpr ⟨g, hg, hcovers⟩

theorem permits_of_prefix {below : Text} (h : permits grants path op = true)
    (hbelow : path <+: below) : permits grants below op = true := by
  obtain ⟨g, hg, hcovers, hop⟩ := permits_iff.mp h
  exact permits_iff.mpr ⟨g, hg, hcovers.trans hbelow, hop⟩

namespace Namespace

theorem eq_of_roots {a b : Namespace} (ha : a.root.text <+: path) (hb : b.root.text <+: path) :
    a = b := by
  have hroots : a.root.text <+: b.root.text ∨ b.root.text <+: a.root.text :=
    List.prefix_or_prefix_of_prefix ha hb
  cases a <;> cases b <;> first | rfl | exact absurd hroots (by decide)

theorem begins_with_root {ns : Namespace} (h : of? path = some ns) : ns.root.text <+: path := by
  have hfound : ns.root.text.isPrefixOf path = true :=
    List.find?_some (p := fun ns : Namespace => ns.root.text.isPrefixOf path) h
  exact List.isPrefixOf_iff_prefix.mp hfound

theorem of?_eq_some {ns : Namespace} : of? path = some ns ↔ ns.root.text <+: path := by
  constructor
  · exact begins_with_root
  · intro h
    cases hfound : of? path with
    | none =>
      have hmem : ns ∈ all := by cases ns <;> decide
      exact absurd (List.isPrefixOf_iff_prefix.mpr h) (List.find?_eq_none.mp hfound ns hmem)
    | some found => rw [eq_of_roots (begins_with_root hfound) h]

end Namespace
end GrantFs
