import GrantFs.Proofs.DiskSnapshot

/-! # Snapshots are exact

A snapshot of a disk is complete and holds nothing else. Main statement: its keys are exactly the
paths of the listed files, each with the size of its file, no two files have the same path, and
reading at the path of a file gives the bytes of that file. -/
namespace GrantFs.DiskStore

open OsTree

variable {d : DiskStore} {t : OsTree} {root : Namespace → Place} {grants : List Grant}

/-- On a tree with all roots in place, whatever names and links it holds, the snapshot succeeds, and
it holds exactly the files that are listed. -/
theorem snapshot_exact (hroot : ∀ ns, d.RootAt t ns (root ns)) (now : Instant)
    (grants : List Grant) :
    ∃ s, d.backend now (.snapshot grants) t = (.ok s, t) ∧
      (∀ p e, s.get? p = some e ↔ ∃ ns segments content modified,
        d.Listed t grants ns (root ns) p segments content modified ∧
          e = ⟨p, some content.length, some modified⟩) ∧
      (∀ ns p segments content modified,
        d.Listed t grants ns (root ns) p segments content modified →
          d.location p = .ok (d.locationOf ns segments) ∧
          t.Shows (d.locationOf ns segments) (root ns ++ segments.map Utf8.encode)
            (.file content modified) ∧
          d.backend now (.readBytes p) t = (.ok content, t)) ∧
      ∀ ns ns' p segments segments' content content' modified modified',
        d.Listed t grants ns (root ns) p segments content modified →
          d.Listed t grants ns' (root ns') p segments' content' modified' →
            ns = ns' ∧ segments = segments' := by
  obtain ⟨s, hrun, hkeys⟩ := exists_snapshot now hroot grants
  refine ⟨s, hrun, hkeys, fun ns p segments content modified h => ?_,
    fun ns ns' p segments segments' content content' modified modified' h h' => ?_⟩
  · have hshows := h.shows (hroot ns)
    have hlocation := h.location_eq h.text
    exact ⟨hlocation, hshows, exec_read_of_shows hlocation hshows⟩
  · obtain ⟨hns, hsegments, -⟩ := h.unique h'
    exact ⟨hns, hsegments⟩

def draftTree : OsTree :=
  (plainTree.put [Utf8.encode "workspace", Utf8.encode "a"] (.file [1, 2] ⟨0, 0⟩)).put
    [Utf8.encode "workspace", Utf8.encode ".agentfs-tmp-b"] (.file [3] ⟨0, 0⟩)

theorem snapshot_exact_of_draftTree :
    let p : Path := ⟨"/workspace/a", by decide⟩
    (∀ ns, plainStore.RootAt draftTree ns [Utf8.encode ns.name]) ∧
      ∃ s, plainStore.backend ⟨0, 0⟩ (.snapshot [Namespace.workspace.grant]) draftTree =
          (.ok s, draftTree) ∧
        s.get? p = some ⟨p, some 2, some ⟨0, 0⟩⟩ := by
  intro p
  have hroot : ∀ ns, plainStore.RootAt draftTree ns [Utf8.encode ns.name] := by
    intro ns
    cases ns <;> exact ⟨by decide, by decide +kernel, by decide +kernel⟩
  obtain ⟨s, hrun, hkeys, -⟩ := snapshot_exact hroot ⟨0, 0⟩ [Namespace.workspace.grant]
  refine ⟨hroot, s, hrun, (hkeys p _).mpr ⟨.workspace, ["a"], [1, 2], ⟨0, 0⟩, ?_, rfl⟩⟩
  refine ⟨⟨by simp, by decide +kernel, by decide⟩, rfl, fun s hs => ?_, by decide⟩
  cases hs
  decide

def deepNames : List Text := List.replicate 16 (List.replicate 255 'a')

def deepTree : OsTree :=
  ((List.range 16).foldl (fun t k => t.put
      (Utf8.encode "workspace" :: (deepNames.take (k + 1)).map Utf8.encode) .dir) plainTree).put
    (Utf8.encode "workspace" :: (deepNames ++ [['f']]).map Utf8.encode) (.file [1] ⟨0, 0⟩)

/-- A regular file that the walk cannot look at, since its location is too long, is left out. -/
theorem snapshot_without_deep_file :
    let p : Path := ⟨pathText .workspace (deepNames ++ [['f']]), by decide +kernel⟩
    (∀ ns, plainStore.RootAt deepTree ns [Utf8.encode ns.name]) ∧
      deepTree.get? ([Utf8.encode "workspace"] ++ (deepNames ++ [['f']]).map Utf8.encode) =
        some (.file [1] ⟨0, 0⟩) ∧
      isVisible [Namespace.workspace.grant] p.text = true ∧
      ∃ s, plainStore.backend ⟨0, 0⟩ (.snapshot [Namespace.workspace.grant]) deepTree =
          (.ok s, deepTree) ∧
        s.get? p = none := by
  intro p
  have hroot : ∀ ns, plainStore.RootAt deepTree ns [Utf8.encode ns.name] := by
    intro ns
    cases ns <;> exact ⟨by decide, by decide +kernel, by decide +kernel⟩
  have hnode : deepTree.get? ([Utf8.encode "workspace"] ++ (deepNames ++ [['f']]).map Utf8.encode) =
      some (.file [1] ⟨0, 0⟩) := by
    decide +kernel
  have hvisible : isVisible [Namespace.workspace.grant] p.text = true := by decide +kernel
  have hrun : plainStore.backend ⟨0, 0⟩ (.snapshot [Namespace.workspace.grant]) deepTree =
      (.ok ∅, deepTree) := by
    decide +kernel
  exact ⟨hroot, hnode, hvisible, ∅, hrun, rfl⟩

end GrantFs.DiskStore
