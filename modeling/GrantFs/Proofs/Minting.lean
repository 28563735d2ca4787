import GrantFs.Handle
import GrantFs.Proofs.Grant
import Mathlib.Data.List.Basic
import Mathlib.Data.List.Induction

/-! # Minted handles

Handles are minted for namespaces that are given by name. Main statement: minting fails exactly on
an unknown name and reports the first one; a minted handle has one grant for each name, in the order
in which they are first named, and permits at a path what the path's own namespace grants by
default, if that namespace is named. -/
namespace GrantFs

/-- The members of a list, once each and in the order in which they first occur in it. -/
structure FirstOccurrences {α : Type} [DecidableEq α] (list firsts : List α) : Prop where
  mem : ∀ a, a ∈ firsts ↔ a ∈ list
  ordered : firsts.Pairwise fun a b => list.idxOf a < list.idxOf b

namespace FirstOccurrences

variable {α : Type} [DecidableEq α] {list firsts : List α} {a : α}

theorem nil : FirstOccurrences ([] : List α) [] := ⟨by simp, .nil⟩

theorem ordered_append (h : FirstOccurrences list firsts) (more : List α) :
    firsts.Pairwise fun a b => (list ++ more).idxOf a < (list ++ more).idxOf b := by
  refine h.ordered.imp_of_mem fun {a b} ha hb hlt => ?_
  rw [List.idxOf_append_of_mem ((h.mem a).mp ha), List.idxOf_append_of_mem ((h.mem b).mp hb)]
  exact hlt

theorem repeated (h : FirstOccurrences list firsts) (ha : a ∈ list) :
    FirstOccurrences (list ++ [a]) firsts := by
  refine ⟨fun b => ?_, h.ordered_append [a]⟩
  rw [h.mem, List.mem_append, List.mem_singleton]
  constructor
  · exact .inl
  · rintro (hb | rfl)
    · exact hb
    · exact ha

theorem added (h : FirstOccurrences list firsts) (ha : a ∉ list) :
    FirstOccurrences (list ++ [a]) (firsts ++ [a]) := by
  refine ⟨fun b => ?_, List.pairwise_append.mpr
    ⟨h.ordered_append [a], List.pairwise_singleton .., fun b hb c hc => ?_⟩⟩
  · rw [List.mem_append, List.mem_append, h.mem]
  · obtain rfl := List.mem_singleton.mp hc
    have hmem : b ∈ list := (h.mem b).mp hb
    rw [List.idxOf_append_of_mem hmem, List.idxOf_append_of_notMem ha]
    exact Nat.lt_of_lt_of_le (List.idxOf_lt_length_of_mem hmem) (Nat.le_add_right ..)

end FirstOccurrences

namespace Namespace

variable {given : Text}

theorem name_injective : Function.Injective Namespace.name := by
  intro a b h
  cases a <;> cases b <;> first | rfl | exact absurd h (by decide)

theorem grant_injective : Function.Injective Namespace.grant := by
  intro a b h
  have hroot : a.root = b.root := congrArg Grant.root h
  exact eq_of_roots (List.prefix_refl a.root.text) (hroot ▸ List.prefix_refl _)

theorem ofName?_name (ns : Namespace) : ofName? ns.name = some ns := by
  cases ns <;> decide

theorem ofName?_eq_none : ofName? given = none ↔ ∀ ns : Namespace, ns.name ≠ given := by
  rw [ofName?, List.find?_eq_none]
  constructor
  · intro h ns
    simpa using h ns (by cases ns <;> decide)
  · intro h ns _
    simpa using h ns

end Namespace

namespace Handle

variable {names : List Text} {namespaces : List Namespace} {path given : Text} {op : Operation}

theorem namespacesOf_names (namespaces : List Namespace) :
    namespacesOf (namespaces.map Namespace.name) = .ok namespaces := by
  induction namespaces with
  | nil => rfl
  | cons ns rest ih =>
    rw [List.map_cons, namespacesOf, Namespace.ofName?_name, ih]
    rfl

theorem namespacesOf_unknown (hgiven : ∀ ns : Namespace, ns.name ≠ given)
    (known : List Namespace) (rest : List Text) :
    namespacesOf (known.map Namespace.name ++ given :: rest) =
      .error (.invalidArgument "namespace" (some given)) := by
  induction known with
  | nil => rw [List.map_nil, List.nil_append, namespacesOf, Namespace.ofName?_eq_none.mpr hgiven]
  | cons ns known ih =>
    rw [List.map_cons, List.cons_append, namespacesOf, Namespace.ofName?_name, ih]
    rfl

theorem ofNames_names (namespaces : List Namespace) :
    ofNames (namespaces.map Namespace.name) = .ok (ofNamespaces namespaces) := by
  rw [ofNames, namespacesOf_names]
  rfl

theorem ofNames_unknown (hgiven : ∀ ns : Namespace, ns.name ≠ given) (known : List Namespace)
    (rest : List Text) :
    ofNames (known.map Namespace.name ++ given :: rest) =
      .error (.invalidArgument "namespace" (some given)) := by
  rw [ofNames, namespacesOf_unknown hgiven]
  rfl

theorem names_cases (names : List Text) :
    (∃ namespaces : List Namespace, names = namespaces.map Namespace.name) ∨
      ∃ (known : List Namespace) (given : Text) (rest : List Text),
        names = known.map Namespace.name ++ given :: rest ∧ ∀ ns : Namespace, ns.name ≠ given := by
  induction names with
  | nil => exact .inl ⟨[], rfl⟩
  | cons name rest ih =>
    by_cases hname : ∃ ns : Namespace, ns.name = name
    · obtain ⟨ns, rfl⟩ := hname
      obtain ⟨namespaces, rfl⟩ | ⟨known, given, rest, rfl, hgiven⟩ := ih
      · exact .inl ⟨ns :: namespaces, rfl⟩
      · exact .inr ⟨ns :: known, given, rest, rfl, hgiven⟩
    · exact .inr ⟨[], name, rest, rfl, fun ns hns => hname ⟨ns, hns⟩⟩

theorem exists_namespaces (h : ∀ name ∈ names, ∃ ns : Namespace, ns.name = name) :
    ∃ namespaces : List Namespace, names = namespaces.map Namespace.name := by
  refine (names_cases names).resolve_right ?_
  rintro ⟨known, given, rest, rfl, hgiven⟩
  obtain ⟨ns, hns⟩ := h given (by simp)
  exact hgiven ns hns

theorem ofNames_eq_error {why : Fault} :
    ofNames names = .error why ↔ ∃ known given rest, names = known ++ given :: rest ∧
      (∀ name ∈ known, ∃ ns : Namespace, ns.name = name) ∧
      (∀ ns : Namespace, ns.name ≠ given) ∧ why = .invalidArgument "namespace" (some given) := by
  constructor
  · intro h
    obtain ⟨namespaces, rfl⟩ | ⟨known, given, rest, rfl, hgiven⟩ := names_cases names
    · rw [ofNames_names] at h
      cases h
    · rw [ofNames_unknown hgiven] at h
      cases h
      refine ⟨known.map Namespace.name, given, rest, rfl, fun name hname => ?_, hgiven, rfl⟩
      obtain ⟨ns, -, hns⟩ := List.mem_map.mp hname
      exact ⟨ns, hns⟩
  · rintro ⟨known, given, rest, rfl, hknown, hgiven, rfl⟩
    obtain ⟨known, rfl⟩ := exists_namespaces hknown
    exact ofNames_unknown hgiven known rest

theorem mem_names {ns : Namespace} :
    ns.name ∈ namespaces.map Namespace.name ↔ ns ∈ namespaces :=
  List.mem_map_of_injective Namespace.name_injective

theorem grants_concat (namespaces : List Namespace) (ns : Namespace) :
    (ofNamespaces (namespaces ++ [ns])).grants =
      if ns.grant ∈ (ofNamespaces namespaces).grants then (ofNamespaces namespaces).grants
      else (ofNamespaces namespaces).grants ++ [ns.grant] := by
  simp [ofNamespaces]

theorem exists_first_named (namespaces : List Namespace) :
    ∃ found : List Namespace,
      FirstOccurrences (namespaces.map Namespace.name) (found.map Namespace.name) ∧
        (ofNamespaces namespaces).grants = found.map Namespace.grant := by
  induction namespaces using List.reverseRecOn with
  | nil => exact ⟨[], .nil, rfl⟩
  | append_singleton namespaces ns ih =>
    obtain ⟨found, hfirsts, hgrants⟩ := ih
    have hmem : ns.grant ∈ found.map Namespace.grant ↔ ns.name ∈ namespaces.map Namespace.name := by
      rw [← hfirsts.mem, List.mem_map_of_injective Namespace.grant_injective, mem_names]
    rw [grants_concat, hgrants, List.map_append]
    by_cases hold : ns.name ∈ namespaces.map Namespace.name
    · exact ⟨found, hfirsts.repeated hold, if_pos (hmem.mpr hold)⟩
    · refine ⟨found ++ [ns], ?_, ?_⟩
      · rw [List.map_append]
        exact hfirsts.added hold
      · rw [if_neg (mt hmem.mp hold), List.map_append]
        rfl

theorem mem_ofNamespaces {g : Grant} :
    g ∈ (ofNamespaces namespaces).grants ↔ ∃ ns ∈ namespaces, ns.grant = g := by
  obtain ⟨found, hfirsts, hgrants⟩ := exists_first_named namespaces
  have hfound : ∀ ns, ns ∈ found ↔ ns ∈ namespaces := by
    intro ns
    rw [← mem_names, hfirsts.mem, mem_names]
  simp only [hgrants, List.mem_map, hfound]

theorem permits_ofNamespaces :
    (ofNamespaces namespaces).permits path op = true ↔
      ∃ ns, Namespace.of? path = some ns ∧ ns ∈ namespaces ∧ op ∈ ns.defaultOps := by
  rw [Handle.permits, permits_iff]
  constructor
  · rintro ⟨g, hg, hcovers, hop⟩
    obtain ⟨ns, hns, rfl⟩ := mem_ofNamespaces.mp hg
    exact ⟨ns, Namespace.of?_eq_some.mpr hcovers, hns, Operation.mem_inOrder.mp hop⟩
  · rintro ⟨ns, hpath, hns, hop⟩
    exact ⟨ns.grant, mem_ofNamespaces.mpr ⟨ns, hns, rfl⟩, Namespace.of?_eq_some.mp hpath,
      Operation.mem_inOrder.mpr hop⟩

/-- Permissions depend on which names are given, not on their order or repetition. -/
theorem permits_congr {others : List Namespace}
    (h : ∀ name, name ∈ others.map Namespace.name ↔ name ∈ namespaces.map Namespace.name)
    (path : Text) (op : Operation) :
    (ofNamespaces others).permits path op = (ofNamespaces namespaces).permits path op := by
  have hmem : ∀ ns, ns ∈ others ↔ ns ∈ namespaces := by
    intro ns
    rw [← mem_names, h, mem_names]
  rw [Bool.eq_iff_iff, permits_ofNamespaces, permits_ofNamespaces]
  simp only [hmem]

/-- Minting fails if and only if a name is unknown, and reports the first one. Otherwise the handle
has one grant for each distinct name in the order of first occurrence, and permits at a path the
default operations of the path's own namespace, if it is named. -/
theorem minting_exact (names : List Text) :
    ((∃ why, ofNames names = .error why) ↔ ∃ given ∈ names, ∀ ns : Namespace, ns.name ≠ given) ∧
      (∀ why, ofNames names = .error why ↔ ∃ known given rest, names = known ++ given :: rest ∧
        (∀ name ∈ known, ∃ ns : Namespace, ns.name = name) ∧
        (∀ ns : Namespace, ns.name ≠ given) ∧
        why = .invalidArgument "namespace" (some given)) ∧
      ((∀ given ∈ names, ∃ ns : Namespace, ns.name = given) →
        ∃ (h : Handle) (found : List Namespace), ofNames names = .ok h ∧
          FirstOccurrences names (found.map Namespace.name) ∧
          h.grants = found.map Namespace.grant ∧
          (∀ path op, h.permits path op = true ↔
            ∃ ns, Namespace.of? path = some ns ∧ ns.name ∈ names ∧ op ∈ ns.defaultOps) ∧
          ∀ others, (∀ name, name ∈ others ↔ name ∈ names) →
            ∃ h', ofNames others = .ok h' ∧ ∀ path op, h'.permits path op = h.permits path op) ∧
      ∀ (ns : Namespace) (path : Text) (op : Operation),
        GrantFs.permits [ns.grant] path op = true → Namespace.of? path = some ns := by
  refine ⟨⟨?_, ?_⟩, fun why => ofNames_eq_error, fun hknown => ?_, fun ns path op h => ?_⟩
  · rintro ⟨why, hwhy⟩
    obtain ⟨known, given, rest, rfl, -, hgiven, -⟩ := ofNames_eq_error.mp hwhy
    exact ⟨given, by simp, hgiven⟩
  · rintro ⟨given, hmem, hgiven⟩
    obtain ⟨namespaces, rfl⟩ | ⟨known, first, rest, rfl, hfirst⟩ := names_cases names
    · obtain ⟨ns, -, hns⟩ := List.mem_map.mp hmem
      exact absurd hns (hgiven ns)
    · exact ⟨_, ofNames_unknown hfirst known rest⟩
  · obtain ⟨namespaces, rfl⟩ := exists_namespaces hknown
    obtain ⟨found, hfirsts, hgrants⟩ := exists_first_named namespaces
    refine ⟨ofNamespaces namespaces, found, ofNames_names namespaces, hfirsts, hgrants,
      fun path op => ?_, fun others hothers => ?_⟩
    · simp only [permits_ofNamespaces, mem_names]
    · obtain ⟨more, rfl⟩ : ∃ more : List Namespace, others = more.map Namespace.name :=
        exists_namespaces fun name hname => hknown name ((hothers name).mp hname)
      exact ⟨ofNamespaces more, ofNames_names more, permits_congr hothers⟩
  · have halone : (ofNamespaces [ns]).permits path op = true := h
    obtain ⟨own, hpath, hmem, -⟩ := permits_ofNamespaces.mp halone
    rwa [List.mem_singleton.mp hmem] at hpath

/-- A name given twice, the names in another order, and an unknown name behind a known one. -/
theorem minting_of_repeated_names :
    let names : List Text := ["internal", "workspace", "workspace"]
    let others : List Text := ["workspace", "internal"]
    (∀ given ∈ names, ∃ ns : Namespace, ns.name = given) ∧
      (∀ name, name ∈ others ↔ name ∈ names) ∧
      (∃ h h' : Handle, ofNames names = .ok h ∧ ofNames others = .ok h' ∧
        h.grants = [Namespace.internal.grant, Namespace.workspace.grant] ∧
        h.permits "/workspace/a" .delete = true ∧
        ∀ path op, h'.permits path op = h.permits path op) ∧
      GrantFs.permits [Namespace.internal.grant] "/internal/a" .write = true ∧
      Namespace.of? "/internal/a" = some .internal ∧
      ofNames ["internal", "home", "etc"] =
        .error (.invalidArgument "namespace" (some "home")) := by
  intro names others
  have hknown : ∀ given ∈ names, ∃ ns : Namespace, ns.name = given := by
    intro given hgiven
    obtain ⟨ns, -, hns⟩ := List.mem_map.mp
      (show given ∈ [Namespace.internal, .workspace, .workspace].map Namespace.name from hgiven)
    exact ⟨ns, hns⟩
  have hothers : ∀ name, name ∈ others ↔ name ∈ names := by
    intro name
    simp [names, others, or_comm]
  have hinternal : GrantFs.permits [Namespace.internal.grant] "/internal/a" .write = true := by
    decide
  obtain ⟨-, -, hminted, hown⟩ := minting_exact names
  obtain ⟨h, found, hnames, -, -, hpermits, hsame⟩ := hminted hknown
  obtain ⟨h', hminted', hequal⟩ := hsame others hothers
  refine ⟨hknown, hothers, ⟨h, h', hnames, hminted', ?_, ?_, hequal⟩, hinternal,
    hown .internal "/internal/a" .write hinternal, ?_⟩
  · cases hnames
    decide
  · exact (hpermits _ _).mpr ⟨.workspace, by decide, by decide, by decide⟩
  · refine ((minting_exact _).2.1 _).mpr
      ⟨["internal"], "home", ["etc"], rfl, fun name hname => ?_, fun ns => ?_, rfl⟩
    · exact ⟨.internal, (List.mem_singleton.mp hname).symm⟩
    · cases ns <;> decide

end Handle
end GrantFs
