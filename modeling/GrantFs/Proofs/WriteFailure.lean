import GrantFs.Proofs.DiskWrite

/-! # What a failed write leaves

A write that fails keeps every file, link and directory. Main statement: all that it can leave
behind are directories between the root and the file, and only the operating system's own failures
leave any. -/
namespace GrantFs.DiskStore

open OsTree

variable {d : DiskStore} {now : Instant} {t : OsTree} {root : Namespace → Place} {p : Path}

/-- A directory that a failed write has made: it lies below the root of the path's namespace and
above the path's place, where nothing was before. -/
def LeftBehind (t u : OsTree) (root : Namespace → Place) (p : Path) (q : Place) : Prop :=
  ∃ ns segments k, placeOf p = .ok (ns, segments) ∧ 0 < k ∧ k < (namesBelow segments).length ∧
    q = root ns ++ (namesBelow segments).take k ∧ t.get? q = none ∧ u.get? q = some .dir

/-- A write that fails keeps all that was in the tree. It leaves nothing behind but directories on
the way from the root to the file, and these only if a call to the operating system has failed. -/
theorem failed_write_keeps_entries (hroot : ∀ ns, d.RootAt t ns (root ns))
    (data : Bytes) (overwrite : Bool) {why : Fault} {u : OsTree}
    (h : t.exec now (d.write p data overwrite) = (.error why, u)) :
    (∀ q, u.get? q = t.get? q ∨ LeftBehind t u root p q) ∧
      ((∀ failure, why ≠ .io failure) → u = t) := by
  cases hplace : placeOf p with
  | error refused =>
    have hlinks : t.exec now (d.locationWithoutLinks p) = (.error refused, t) := by
      refine exec_bind_error ?_ _
      rw [exec_check, hplace]
    rw [exec_write_of_links hlinks data overwrite] at h
    cases h
    exact ⟨fun q => .inl rfl, fun _ => rfl⟩
  | ok place =>
    obtain ⟨ns, segments⟩ := place
    obtain ⟨r, v, hrun, hout⟩ := write_outcome now (hroot ns) hplace data overwrite
    rw [hrun] at h
    cases h
    cases hout with
    | refused => exact ⟨fun q => .inl rfl, fun _ => rfl⟩
    | failed failure hclear hk hpaved =>
      refine ⟨fun q => ?_, fun hother => absurd rfl (hother failure)⟩
      refine (paved_cases (hroot ns).leads.dir hclear hk hpaved q).imp_right ?_
      rintro ⟨j, hpositive, hj, hq, hbefore, hafter⟩
      exact ⟨ns, segments, j, hplace, hpositive, hj, hq, hbefore, hafter⟩

/-- Writing to a name that is too long keeps the three roots. -/
theorem failed_write_keeps_roots :
    let p : Path := ⟨"/workspace/d/" ++ List.replicate 256 'n', by decide +kernel⟩
    let failed := plainTree.exec ⟨0, 0⟩ (plainStore.write p [1] true)
    failed.1 = .error (.io .nameTooLong) ∧
      ∀ q, failed.2.get? q = plainTree.get? q ∨
        LeftBehind plainTree failed.2 (fun ns => [Utf8.encode ns.name]) p q := by
  intro p failed
  have hfailed : failed.1 = .error (.io .nameTooLong) := by decide +kernel
  have hrun : failed = (.error (.io .nameTooLong), failed.2) := by
    rw [← hfailed]
  have hkept := failed_write_keeps_entries rootAt_plainTree [1] true hrun
  exact ⟨hfailed, hkept.1⟩

/-- A failed write can leave a directory behind that no listing shows and that keeps a file from
being written that could be written before. -/
theorem failed_write_leaves_directory :
    let p : Path := ⟨"/workspace/d/" ++ List.replicate 256 'n', by decide +kernel⟩
    let q : Path := ⟨"/workspace/d", by decide +kernel⟩
    let failed := plainTree.exec ⟨0, 0⟩ (plainStore.write p [1] true)
    (∀ ns, plainStore.RootAt plainTree ns [Utf8.encode ns.name]) ∧
      failed.1 = .error (.io .nameTooLong) ∧
      plainTree.get? [Utf8.encode "workspace", Utf8.encode "d"] = none ∧
      failed.2.get? [Utf8.encode "workspace", Utf8.encode "d"] = some .dir ∧
      (plainTree.exec ⟨0, 0⟩ (plainStore.write q [1] true)).1 = .ok (.written q 1 ⟨0, 0⟩) ∧
      (failed.2.exec ⟨0, 0⟩ (plainStore.write q [1] true)).1 = .error (.conflict q.text) := by
  intro p q failed
  have hfailed : failed.1 = .error (.io .nameTooLong) := by decide +kernel
  have habsent : plainTree.get? [Utf8.encode "workspace", Utf8.encode "d"] = none := by
    decide +kernel
  have hleft : failed.2.get? [Utf8.encode "workspace", Utf8.encode "d"] = some .dir := by
    decide +kernel
  have hbefore : (plainTree.exec ⟨0, 0⟩ (plainStore.write q [1] true)).1 =
      .ok (.written q 1 ⟨0, 0⟩) := by
    decide +kernel
  have hafter : (failed.2.exec ⟨0, 0⟩ (plainStore.write q [1] true)).1 =
      .error (.conflict q.text) := by
    decide +kernel
  exact ⟨rootAt_plainTree, hfailed, habsent, hleft, hbefore, hafter⟩

end GrantFs.DiskStore
