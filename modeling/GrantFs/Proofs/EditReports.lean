import GrantFs.Proofs.EditRun

/-! # What a run of edits reports

Whether a run changed the text, the difference it shows and the number of lines it counts come by
three ways: the two texts are compared, a script between their lines is rendered, and the steps of
that script are counted. The three agree whatever script is found, as long as it covers both rows of
lines. Main statement: so does the report of every real run, and the dry run of the same edits shows
the same difference. -/
namespace GrantFs

namespace Diff

variable {old new : List Text} {i j : Nat} {s : Step} {script : Script}

theorem covers_cons (h : coversFrom old new i j (s :: script) = true) :
    s.isEmpty = false ∧
      (s.kind = .equal →
        s.oldLen = s.newLen ∧ (old.drop i).take s.oldLen = (new.drop j).take s.newLen) ∧
      coversFrom old new (i + s.oldLen) (j + s.newLen) script = true := by
  simp only [coversFrom, Bool.and_eq_true, Bool.not_eq_true'] at h
  obtain ⟨⟨⟨⟨hempty, -⟩, -⟩, hkind⟩, hrest⟩ := h
  refine ⟨hempty, fun hequal => ?_, hrest⟩
  simpa [hequal] using hkind

theorem touched_cons : touched (s :: script) = s.touched + touched script := rfl

/-- Each row is at most as much longer than the other as lines are touched. -/
theorem touched_bounds (h : coversFrom old new i j script = true) :
    touched script + i + j ≤ old.length + new.length ∧
      old.length + j ≤ new.length + i + touched script ∧
      new.length + i ≤ old.length + j + touched script := by
  induction script generalizing i j with
  | nil =>
    obtain ⟨rfl, rfl⟩ : i = old.length ∧ j = new.length := by simpa [coversFrom] using h
    simp [touched, Nat.add_comm]
  | cons s rest ih =>
    obtain ⟨-, hequal, hrest⟩ := covers_cons h
    have hbounds := ih hrest
    rw [touched_cons]
    by_cases hkind : s.kind = .equal
    · have htouched : s.touched = 0 := if_pos hkind
      have hlen := (hequal hkind).1
      omega
    · have htouched : s.touched = max s.oldLen s.newLen := if_neg hkind
      omega

theorem Step.equal_of_touched_eq_zero (hempty : s.isEmpty = false) (h : s.touched = 0) :
    s.kind = .equal := by
  by_contra hkind
  rw [touched, if_neg hkind] at h
  obtain ⟨hold, hnew⟩ : s.oldLen = 0 ∧ s.newLen = 0 := by omega
  rw [isEmpty, hold, hnew] at hempty
  cases hempty

theorem drop_eq_of_touched_eq_zero (h : coversFrom old new i j script = true)
    (hzero : touched script = 0) : old.drop i = new.drop j := by
  induction script generalizing i j with
  | nil =>
    obtain ⟨rfl, rfl⟩ : i = old.length ∧ j = new.length := by simpa [coversFrom] using h
    rw [List.drop_length, List.drop_length]
  | cons s rest ih =>
    obtain ⟨hempty, hequal, hrest⟩ := covers_cons h
    rw [touched_cons, Nat.add_eq_zero_iff] at hzero
    obtain ⟨-, hlines⟩ := hequal (Step.equal_of_touched_eq_zero hempty hzero.1)
    calc old.drop i
        = (old.drop i).take s.oldLen ++ old.drop (i + s.oldLen) := by
          rw [← List.drop_drop, List.take_append_drop]
      _ = (new.drop j).take s.newLen ++ new.drop (j + s.newLen) := by rw [hlines, ih hrest hzero.2]
      _ = new.drop j := by rw [← List.drop_drop, List.take_append_drop]

theorem unified_ne_noChanges (name : Text) (script : Script) :
    unified name old new script ≠ EditReport.noChanges := by
  intro h
  unfold unified at h
  split at h <;> cases h

end Diff

namespace EditReport

open Diff

variable (differ : Differ) (original modified : Text)

/-- The report on a real run and the one on a dry run fit each other and the change of one text into
another, whose lines are those that the differ sees. -/
structure Consistent (real dry : EditReport) : Prop where
  changed_iff : real.changed = true ↔ modified ≠ original
  diff_iff : real.diff ≠ noChanges ↔ modified ≠ original
  count_iff : 1 ≤ real.linesChanged ↔ modified ≠ original
  count_ge : ((differ.lines modified).length - (differ.lines original).length : Int).natAbs ≤
    real.linesChanged
  count_le : real.linesChanged ≤ (differ.lines original).length + (differ.lines modified).length
  real_mode : real.dryRun = false
  dry_mode : dry.dryRun = true
  dry_diff : dry.diff = real.diff
  dry_unchanged : dry.changed = false
  dry_count : dry.linesChanged = 0

theorem countChanged_bounds :
    ((differ.lines modified).length - (differ.lines original).length : Int).natAbs ≤
        countChanged differ original modified ∧
      countChanged differ original modified ≤
        (differ.lines original).length + (differ.lines modified).length := by
  have hbounds := touched_bounds (differ.covers_script (differ.lines original)
    (differ.lines modified))
  unfold countChanged scriptOf
  omega

variable {differ original modified}

theorem countChanged_pos (hchanged : modified ≠ original) :
    1 ≤ countChanged differ original modified := by
  rw [Nat.one_le_iff_ne_zero]
  intro hzero
  have hlines : differ.lines original = differ.lines modified := by
    simpa using drop_eq_of_touched_eq_zero (differ.covers_script _ _) hzero
  apply hchanged
  rw [← differ.flatten_lines original, ← differ.flatten_lines modified, hlines]

theorem diffText_ne_noChanges_iff {p : Path} :
    diffText differ p original modified ≠ noChanges ↔ modified ≠ original := by
  rw [diffText]
  split
  next heq => simp [heq]
  next hne => simp [unified_ne_noChanges, Ne.symm hne]

theorem consistent_of_runs (p : Path) :
    Consistent differ original modified (ofRun p original modified differ)
      (ofDryRun p original modified differ) := by
  by_cases hchanged : modified = original
  · subst hchanged
    constructor <;> simp [ofRun, ofDryRun, diffText]
  · have hcount : (ofRun p original modified differ).linesChanged =
        countChanged differ original modified := if_neg hchanged
    obtain ⟨hge, hle⟩ := countChanged_bounds differ original modified
    exact {
      changed_iff := decide_eq_true_iff
      diff_iff := diffText_ne_noChanges_iff
      count_iff := iff_of_true (hcount ▸ countChanged_pos hchanged) hchanged
      count_ge := hcount ▸ hge
      count_le := hcount ▸ hle
      real_mode := rfl
      dry_mode := rfl
      dry_diff := rfl
      dry_unchanged := rfl
      dry_count := rfl }

end EditReport

namespace Service

variable {σ : Type} {s : Service} {b : Backend σ} {w w' : World σ} {path : Text}
  {edits : List Edit} {p : Path} {original modified : Text} {differ : Diff.Differ}

/-- The policy lets the service edit the path, the file there reads as the text `original`, which
leaves the world `w'`, and the edits make `modified` of it. -/
structure Prepares (s : Service) (b : Backend σ) (w : World σ) (path : Text) (edits : List Edit)
    (w' : World σ) (p : Path) (original modified : Text) : Prop where
  text : p.text = path
  allowed : s.policy.mayEdit p = true
  read : (s.handle.readBytes path).runWith b w = (.ok (Utf8.encode original), w')
  applied : Edit.applyAll edits original = .ok modified

theorem editableText_encode (p : Path) (t : Text) : editableText p (Utf8.encode t) = .ok t := by
  rw [editableText, Utf8.decode_encode]

theorem preparedEdit_eq_ok :
    (s.preparedEdit path edits).runWith b w = (.ok (p, original, modified), w') ↔
      s.Prepares b w path edits w' p original modified := by
  simp only [preparedEdit, Action.runWith_bind_eq_ok, Action.runWith_lift, Prod.mk.injEq]
  constructor
  · rintro ⟨p, w₁, ⟨hp, rfl⟩, _, w₂, ⟨hallowed, rfl⟩, data, w₃, hread, t, w₄, ⟨ht, rfl⟩, t', w₅,
      ⟨happlied, rfl⟩, hdone⟩
    cases hdone
    obtain rfl := Path.text_of_parse hp
    rw [editableText_eq_ok ht] at hread
    exact ⟨rfl, allowed_of_require hallowed, hread, happlied⟩
  · rintro ⟨rfl, hallowed, hread, happlied⟩
    have hrequire : require (s.policy.mayEdit p) p .write = .ok () := by
      rw [hallowed]
      rfl
    exact ⟨p, w, ⟨Path.parse_text p, rfl⟩, (), w, ⟨hrequire, rfl⟩, _, w', hread, original, w',
      ⟨editableText_encode p original, rfl⟩, modified, w', ⟨happlied, rfl⟩, rfl⟩

theorem editFile_dry_of_prepares (h : s.Prepares b w path edits w' p original modified) :
    (s.editFile path edits true differ).runWith b w =
      (.ok (.ofDryRun p original modified differ), w') := by
  rw [editFile_eq s path edits true differ]
  exact Action.runWith_bind_ok (preparedEdit_eq_ok.mpr h)

/-- A real run that succeeds has prepared its edit: its first steps are those of a dry run. -/
theorem prepares_of_editFile_ok {report : EditReport}
    (h : ((s.editFile path edits false differ).runWith b w).1 = .ok report) :
    ∃ w' p original modified, s.Prepares b w path edits w' p original modified := by
  rcases hrun : (s.editFile path edits false differ).runWith b w with ⟨reply, after⟩
  rw [hrun] at h
  obtain rfl : reply = .ok report := h
  rw [editFile_eq s path edits false differ, Action.runWith_bind_eq_ok] at hrun
  obtain ⟨⟨p, original, modified⟩, w', hprepared, -⟩ := hrun
  exact ⟨w', p, original, modified, preparedEdit_eq_ok.mp hprepared⟩

theorem commitEdit_outcome (s : Service) (b : Backend σ) (w : World σ) (p : Path)
    (original modified : Text) (differ : Diff.Differ) :
    ((s.commitEdit p original modified differ).runWith b w).1 =
        .ok (.ofRun p original modified differ) ∨
      modified ≠ original ∧ ∃ why,
        ((s.commitEdit p original modified differ).runWith b w).1 = .error why ∧
        ((s.handle.write p.text (Utf8.encode modified) true).runWith b w).1 = .error why := by
  by_cases hchanged : modified = original
  · subst hchanged
    exact .inl (congrArg Prod.fst (s.commitEdit_unchanged p modified differ))
  · rw [commitEdit, if_pos hchanged]
    rcases hwrite : (s.handle.write p.text (Utf8.encode modified) true).runWith b w with
      ⟨why | entry, w'⟩
    · exact .inr ⟨hchanged, why, congrArg Prod.fst (Action.runWith_bind_error hwrite), rfl⟩
    · exact .inl (congrArg Prod.fst (Action.runWith_bind_ok hwrite))

/-- After the edits are applied, only the write of a text that changed can fail. -/
theorem editFile_real_of_prepares (h : s.Prepares b w path edits w' p original modified) :
    let real := ((s.editFile path edits false differ).runWith b w).1
    real = .ok (.ofRun p original modified differ) ∨
      modified ≠ original ∧ ∃ why, real = .error why ∧
        ((s.handle.write path (Utf8.encode modified) true).runWith b w').1 = .error why := by
  have hreal : (s.editFile path edits false differ).runWith b w =
      (s.commitEdit p original modified differ).runWith b w' := by
    rw [editFile_eq s path edits false differ]
    exact Action.runWith_bind_ok (preparedEdit_eq_ok.mpr h)
  obtain rfl := h.text
  rw [hreal]
  exact s.commitEdit_outcome b w' p original modified differ

end Service

/-- What a real run reports is consistent with the change that its edits made, with any differ and
on any store, and so is the dry run from the same world. Where the file can be read and its edits
apply, the dry run does report, and so does the real run unless the changed text cannot be
written. -/
theorem edit_report_consistent {σ : Type} (differ : Diff.Differ) (s : Service) (b : Backend σ)
    (w : World σ) (path : Text) (edits : List Edit) :
    let dry := (s.editFile path edits true differ).runWith b w
    let real := (s.editFile path edits false differ).runWith b w
    (∀ report, real.1 = .ok report → ∃ w' p original modified foretold,
      s.Prepares b w path edits w' p original modified ∧ dry = (.ok foretold, w') ∧
        EditReport.Consistent differ original modified report foretold) ∧
      ∀ w' p original modified, s.Prepares b w path edits w' p original modified →
        ∃ report foretold, dry = (.ok foretold, w') ∧
          EditReport.Consistent differ original modified report foretold ∧
            (real.1 = .ok report ∨
              modified ≠ original ∧ ∃ why, real.1 = .error why ∧
                ((s.handle.write path (Utf8.encode modified) true).runWith b w').1 =
                  .error why) := by
  intro dry real
  constructor
  · intro report hreport
    obtain ⟨w', p, original, modified, hprepares⟩ := s.prepares_of_editFile_ok hreport
    have hdry : dry = (.ok (.ofDryRun p original modified differ), w') :=
      s.editFile_dry_of_prepares hprepares
    have hrun : report = .ofRun p original modified differ := by
      rcases s.editFile_real_of_prepares hprepares with hok | ⟨-, why, hfailed, -⟩
      · exact Except.ok.inj (hreport.symm.trans hok)
      · cases hreport.symm.trans hfailed
    subst hrun
    exact ⟨w', p, original, modified, _, hprepares, hdry, EditReport.consistent_of_runs p⟩
  · intro w' p original modified hprepares
    exact ⟨_, _, s.editFile_dry_of_prepares hprepares, EditReport.consistent_of_runs p,
      s.editFile_real_of_prepares hprepares⟩

/-- A workspace client ends the last line of a file, which the script replaces by the ended line.
The dry run of that shows the same difference. -/
theorem edit_reports_of_ended_line :
    let h : Handle := .ofNamespaces [.workspace]
    let p : Path := ⟨"/workspace/a", by decide⟩
    let store := ((h.fulfil (.file p.text (.write (Utf8.encode "a\nb") true))).runWith
      (MemoryStore.backend ⟨0, 0⟩) ⟨.empty, ∅⟩).2.store
    let run (dryRun : Bool) := ((⟨h, {}⟩ : Service).editFile p.text [⟨"b", "b\n"⟩] dryRun
      .myers).runWith (MemoryStore.backend ⟨1, 0⟩) ⟨store, ∅⟩
    ∃ report foretold, (run false).1 = .ok report ∧ (run true).1 = .ok foretold ∧
      EditReport.Consistent .myers "a\nb" "a\nb\n" report foretold ∧ report.linesChanged = 1 := by
  intro h p store run
  let w' := ((h.readBytes p.text).runWith (MemoryStore.backend ⟨1, 0⟩) ⟨store, ∅⟩).2
  have hprepares : (⟨h, {}⟩ : Service).Prepares (MemoryStore.backend ⟨1, 0⟩) ⟨store, ∅⟩ p.text
      [⟨"b", "b\n"⟩] w' p "a\nb" "a\nb\n" :=
    ⟨rfl, by decide, Prod.ext (by decide) rfl, by decide⟩
  obtain ⟨report, foretold, hdry, hconsistent, hreal⟩ :=
    (edit_report_consistent .myers ⟨h, {}⟩ (MemoryStore.backend ⟨1, 0⟩) ⟨store, ∅⟩ p.text
      [⟨"b", "b\n"⟩]).2 w' p "a\nb" "a\nb\n" hprepares
  have hrun : (run false).1 = .ok (.ofRun p "a\nb" "a\nb\n") := by decide
  have hreport : (run false).1 = .ok report := by
    rcases hreal with hok | ⟨-, why, hfailed, -⟩
    · exact hok
    · have hdone : (run false).1 = .error why := hfailed
      rw [hrun] at hdone
      cases hdone
  refine ⟨report, foretold, hreport, congrArg Prod.fst hdry, hconsistent, ?_⟩
  rw [hrun] at hreport
  cases hreport
  decide

end GrantFs
