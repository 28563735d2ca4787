import GrantFs.Proofs.ToolEffect
import GrantFs.Proofs.Utf8

/-! # Runs of edits

Both modes of an edit begin alike: they check the path and the policy, read the file and apply the
edits to its text, and nothing of that touches the store. Main statement: a run of edits puts the
edited text at its path or leaves the store as it was, and the dry run tells which. -/
namespace GrantFs

open MemoryStore

def Call.NamesFile : Call → Prop
  | .write p _ _ => p.isDirLike = false
  | _ => True

theorem Handle.fulfil_names_files (h : Handle) (r : Request) :
    (h.fulfil r).Asks (Access.Within Call.NamesFile) := by
  cases r with
  | list start =>
    apply (h.fulfil_asks (.list start)).within_mono
    intro c hc
    cases hc
    trivial
  | file path task =>
    show (h.perform path task).Asks _
    rw [perform_eq]
    apply Action.asks_check
    intro p hp
    obtain ⟨-, -, hfile, -⟩ := approve_eq_ok hp
    apply h.carryOut_asks p task trivial
    intro c hc
    cases task with
    | inspect => cases hc
    | write data overwrite =>
      cases hc
      exact hfile rfl
    | _ =>
      cases hc
      trivial

theorem Handle.approve_write {h : Handle} {p : Path} (hfile : p.isDirLike = false) {data : Bytes}
    {overwrite : Bool} :
    h.approve p.text (.write data overwrite) =
      if h.permits p.text .write then .ok p else .error (.accessDenied p.text .write) := by
  rw [approve_text, hfile, if_neg (by simp)]
  rfl

namespace MemoryStore

def NamesFiles (s : MemoryStore) : Prop := ∀ p, s.content.get? p ≠ none → p.isDirLike = false

theorem Effect.namesFiles {now : Instant} {s t : MemoryStore} {c : Call} (h : Effect now s c t)
    (hc : c.NamesFile) (hs : s.NamesFiles) : t.NamesFiles := by
  intro q hq
  have hcell : (t.cell q).1 ≠ none := hq
  cases h with
  | unchanged => exact hs q hq
  | @put p data overwrite _ =>
    rw [cell_put] at hcell
    split at hcell
    next heq =>
      rw [heq]
      exact hc
    next => exact hs q hcell
  | remove =>
    rw [cell_remove] at hcell
    split at hcell
    next => exact absurd rfl hcell
    next => exact hs q hcell

theorem Reachable.namesFiles {s : MemoryStore} (hs : Reachable s) : s.NamesFiles := by
  induction hs with
  | empty =>
    intro p hp
    exact absurd (SortedMap.get?_empty p) hp
  | request h r now index _ ih =>
    refine (h.fulfil_names_files r).store_preserved (I := NamesFiles) ?_ ih
    intro c s hc hs
    exact (backend_effect now c s).namesFiles hc hs

end MemoryStore

/-- The action leaves the store as it is, and its result depends on neither the time nor the
index. -/
def Action.Steady {α : Type} (store : MemoryStore) (x : Action α) : Prop :=
  ∃ result, ∀ now index, ∃ index',
    x.runWith (backend now) ⟨store, index⟩ = (result, ⟨store, index'⟩)

namespace Action

variable {α β : Type} {store : MemoryStore}

theorem steady_pure (a : α) : (pure a : Action α).Steady store :=
  ⟨.ok a, fun _ index => ⟨index, rfl⟩⟩

theorem Steady.bind {x : Action α} {f : α → Action β} (hx : x.Steady store)
    (hf : ∀ a, (f a).Steady store) : (x >>= f).Steady store := by
  obtain ⟨result, hx⟩ := hx
  cases result with
  | error why =>
    refine ⟨.error why, fun now index => ?_⟩
    obtain ⟨index', hrun⟩ := hx now index
    exact ⟨index', runWith_bind_error hrun⟩
  | ok a =>
    obtain ⟨result, hf⟩ := hf a
    refine ⟨result, fun now index => ?_⟩
    obtain ⟨index', hrun⟩ := hx now index
    obtain ⟨index'', hrest⟩ := hf now index'
    exact ⟨index'', (runWith_bind_ok hrun).trans hrest⟩

theorem steady_check {e : Except Fault α} {f : α → Action β}
    (hf : ∀ a, e = .ok a → (f a).Steady store) : (liftM e >>= f : Action β).Steady store := by
  cases e with
  | error why => exact ⟨.error why, fun _ index => ⟨index, rfl⟩⟩
  | ok a =>
    obtain ⟨result, hrest⟩ := hf a rfl
    refine ⟨result, fun now index => ?_⟩
    obtain ⟨index', hrun⟩ := hrest now index
    exact ⟨index', (runWith_bind_ok (runWith_lift _)).trans hrun⟩

end Action

theorem Handle.readBytes_steady (h : Handle) (path : Text) (store : MemoryStore) :
    (h.readBytes path).Steady store := by
  show (h.perform path .readBytes).Steady store
  rw [perform_eq]
  apply Action.steady_check
  intro p hp
  obtain ⟨rfl, hpermits, -, -⟩ := approve_eq_ok hp
  have hexists : (h.requireExisting p).Steady store :=
    ⟨_, fun now index => ⟨_, requireExisting_run hpermits store now index⟩⟩
  apply hexists.bind
  intro e
  exact ⟨store.read p, fun now index => ⟨index, rfl⟩⟩

structure EditsTo (store : MemoryStore) (path : Text) (edits : List Edit) (p : Path)
    (original modified : Text) : Prop where
  text : p.text = path
  stored : store.content.get? p = some (Utf8.encode original)
  applied : Edit.applyAll edits original = .ok modified

namespace Service

def preparedEdit (s : Service) (path : Text) (edits : List Edit) : Action (Path × Text × Text) := do
  let path ← (Path.parse path : Except Fault Path)
  (require (s.policy.mayEdit path) path .write : Except Fault Unit)
  let data ← s.handle.readBytes path.text
  let original ← (editableText path data : Except Fault Text)
  let modified ← (Edit.applyAll edits original : Except Fault Text)
  pure (path, original, modified)

def commitEdit (s : Service) (p : Path) (original modified : Text) (differ : Diff.Differ) :
    Action EditReport := do
  if modified ≠ original then
    let _ ← s.handle.write p.text (Utf8.encode modified) true
  pure (.ofRun p original modified differ)

theorem editFile_eq (s : Service) (path : Text) (edits : List Edit) (dryRun : Bool)
    (differ : Diff.Differ) :
    s.editFile path edits dryRun differ = (do
      let (p, original, modified) ← s.preparedEdit path edits
      if dryRun then pure (.ofDryRun p original modified differ)
      else s.commitEdit p original modified differ) := by
  simp only [editFile, preparedEdit, commitEdit, bind_assoc, pure_bind]

theorem editableText_eq_ok {p : Path} {data : Bytes} {t : Text}
    (h : editableText p data = .ok t) : data = Utf8.encode t := by
  rw [← Utf8.decode_eq_ok]
  unfold editableText at h
  split at h
  next hdecoded =>
    cases h
    exact hdecoded
  next => cases h

theorem preparedEdit_steady (s : Service) (path : Text) (edits : List Edit)
    (store : MemoryStore) : (s.preparedEdit path edits).Steady store := by
  refine Action.steady_check fun p _ => ?_
  refine Action.steady_check fun _ _ => ?_
  refine (s.handle.readBytes_steady p.text store).bind fun data => ?_
  refine Action.steady_check fun original _ => ?_
  exact Action.steady_check fun modified _ => Action.steady_pure _

theorem preparedEdit_ends (s : Service) (path : Text) (edits : List Edit) (now : Instant)
    (w : World MemoryStore) :
    (s.preparedEdit path edits).Ends (backend now) w fun reply _ =>
      ∀ p original modified, reply = .ok (p, original, modified) →
        EditsTo w.store path edits p original modified := by
  refine Action.ends_check (fun _ _ => by simp) fun p hp => ?_
  obtain rfl := Path.text_of_parse hp
  refine Action.ends_check (fun _ _ => by simp) fun _ _ => ?_
  refine (s.handle.readBytes_ends p.text now w).bind (fun _ _ _ => by simp) ?_
  rintro data w' ⟨-, hread⟩
  obtain ⟨q, htext, hdata, -⟩ := hread data rfl
  obtain rfl := Path.ext_text htext
  refine Action.ends_check (fun _ _ => by simp) fun original horiginal => ?_
  refine Action.ends_check (fun _ _ => by simp) fun modified hmodified => ?_
  apply Action.ends_pure
  intro p' original' modified' hreply
  cases hreply
  rw [editableText_eq_ok horiginal] at hdata
  exact ⟨rfl, hdata, hmodified⟩

theorem commitEdit_unchanged {σ : Type} (s : Service) (p : Path) (t : Text) {b : Backend σ}
    {w : World σ} (differ : Diff.Differ) :
    (s.commitEdit p t t differ).runWith b w = (.ok (.ofRun p t t differ), w) := by
  rw [commitEdit, if_neg (fun hne => hne rfl)]
  rfl

theorem commitEdit_refused {s : Service} {p : Path} {original modified : Text}
    (hchanged : modified ≠ original) (hfile : p.isDirLike = false)
    (hdenied : s.handle.permits p.text .write = false) (differ : Diff.Differ)
    (b : Backend MemoryStore) (w : World MemoryStore) :
    (s.commitEdit p original modified differ).runWith b w =
      (.error (.accessDenied p.text .write), w) := by
  have hwrite : (s.handle.perform p.text (.write (Utf8.encode modified) true)).runWith b w =
      (.error (.accessDenied p.text .write), w) := by
    rw [Handle.perform_eq, Handle.approve_write hfile, hdenied]
    rfl
  rw [commitEdit, if_pos hchanged]
  exact Action.runWith_bind_error hwrite

theorem commitEdit_written {s : Service} {p : Path} {original modified : Text}
    (hchanged : modified ≠ original) (hfile : p.isDirLike = false)
    (hpermits : s.handle.permits p.text .write = true) (differ : Diff.Differ) (now : Instant)
    (store : MemoryStore) (index : Snapshot) :
    ∃ index', (s.commitEdit p original modified differ).runWith (backend now) ⟨store, index⟩ =
      (.ok (.ofRun p original modified differ),
        ⟨store.put now p (Utf8.encode modified), index'⟩) := by
  have hwrite : ∃ index', (s.handle.perform p.text (.write (Utf8.encode modified) true)).runWith
      (backend now) ⟨store, index⟩ = (.ok (.written p (Utf8.encode modified).length now),
        ⟨store.put now p (Utf8.encode modified), index'⟩) := by
    rw [Handle.perform_eq, Handle.approve_write hfile, hpermits]
    exact ⟨_, Handle.carryOut_write_of_vacant hpermits (by simp) now index⟩
  obtain ⟨index', hwrite⟩ := hwrite
  rw [commitEdit, if_pos hchanged]
  exact ⟨index', Action.runWith_bind_ok hwrite⟩

inductive EditOutcome (s : Service) (differ : Diff.Differ) (store : MemoryStore) (path : Text)
    (edits : List Edit) (now : Instant) :
    Except Fault EditReport → Except Fault EditReport → MemoryStore → Prop where
  | failed {why : Fault} : EditOutcome s differ store path edits now (.error why) (.error why) store
  | idle {p : Path} {t : Text} : EditsTo store path edits p t t →
      EditOutcome s differ store path edits now (.ok (.ofDryRun p t t differ))
        (.ok (.ofRun p t t differ)) store
  | refused {p : Path} {original modified : Text} : EditsTo store path edits p original modified →
      modified ≠ original → s.handle.permits path .write = false →
      EditOutcome s differ store path edits now (.ok (.ofDryRun p original modified differ))
        (.error (.accessDenied path .write)) store
  | written {p : Path} {original modified : Text} : EditsTo store path edits p original modified →
      modified ≠ original → s.handle.permits path .write = true →
      EditOutcome s differ store path edits now (.ok (.ofDryRun p original modified differ))
        (.ok (.ofRun p original modified differ)) (store.put now p (Utf8.encode modified))

theorem editFile_outcome {store : MemoryStore} (hs : store.NamesFiles) (s : Service)
    (differ : Diff.Differ) (path : Text) (edits : List Edit) (now now' : Instant)
    (index index' : Snapshot) :
    let dry := (s.editFile path edits true differ).runWith (backend now) ⟨store, index⟩
    let real := (s.editFile path edits false differ).runWith (backend now') ⟨store, index'⟩
    dry.2.store = store ∧
      s.EditOutcome differ store path edits now' dry.1 real.1 real.2.store := by
  intro dry real
  obtain ⟨plan, hplan⟩ := s.preparedEdit_steady path edits store
  obtain ⟨i, hdry⟩ := hplan now index
  obtain ⟨i', hreal⟩ := hplan now' index'
  cases plan with
  | error why =>
    have hdry' : dry = (.error why, ⟨store, i⟩) := by
      rw [← Action.runWith_bind_error hdry, ← editFile_eq]
    have hreal' : real = (.error why, ⟨store, i'⟩) := by
      rw [← Action.runWith_bind_error hreal, ← editFile_eq]
    rw [hdry', hreal']
    exact ⟨rfl, .failed⟩
  | ok plan =>
    obtain ⟨p, original, modified⟩ := plan
    have hedits : EditsTo store path edits p original modified := by
      have hends := s.preparedEdit_ends path edits now ⟨store, index⟩
      unfold Action.Ends at hends
      rw [hdry] at hends
      exact hends p original modified rfl
    have hfile : p.isDirLike = false := by
      apply hs p
      simp [hedits.stored]
    have hdry' : dry = (.ok (.ofDryRun p original modified differ), ⟨store, i⟩) := by
      apply Eq.trans (congrArg (Action.runWith _ · _) (s.editFile_eq path edits true differ))
      exact Action.runWith_bind_ok hdry
    have hreal' : real =
        (s.commitEdit p original modified differ).runWith (backend now') ⟨store, i'⟩ := by
      apply Eq.trans (congrArg (Action.runWith _ · _) (s.editFile_eq path edits false differ))
      exact Action.runWith_bind_ok hreal
    rw [hdry', hreal']
    refine ⟨rfl, ?_⟩
    obtain rfl := hedits.text
    by_cases hchanged : modified = original
    · subst hchanged
      rw [commitEdit_unchanged]
      exact .idle hedits
    · cases hpermits : s.handle.permits p.text .write with
      | false =>
        rw [commitEdit_refused hchanged hfile hpermits]
        exact .refused hedits hchanged hpermits
      | true =>
        obtain ⟨j, hrun⟩ := commitEdit_written hchanged hfile hpermits differ now' store i'
        rw [hrun]
        exact .written hedits hchanged hpermits

end Service

/-- With any differ, a dry run never touches the store. A real run that fails leaves it as it was,
and one that succeeds leaves at the path exactly what the edits make of the text there, and every
other path alone. Where the dry run fails, the real run fails with the same fault; where it
succeeds, so does the real run, with the same difference, unless there is a change to store that the
handle may not write. -/
theorem edit_all_or_nothing (differ : Diff.Differ) {store : MemoryStore} (hs : store.Reachable)
    (s : Service) (path : Text) (edits : List Edit) (now now' : Instant)
    (index index' : Snapshot) :
    let dry := (s.editFile path edits true differ).runWith (backend now) ⟨store, index⟩
    let real := (s.editFile path edits false differ).runWith (backend now') ⟨store, index'⟩
    dry.2.store = store ∧
      (∀ why, real.1 = .error why → real.2.store = store) ∧
      (∀ report, real.1 = .ok report → ∃ p original modified,
        EditsTo store path edits p original modified ∧
          real.2.store.content.get? p = some (Utf8.encode modified) ∧
          ∀ q, q ≠ p → real.2.store.cell q = store.cell q) ∧
      (∀ why, dry.1 = .error why → real.1 = .error why) ∧
      (∀ report, dry.1 = .ok report → ∃ p original modified,
        EditsTo store path edits p original modified ∧
          if modified ≠ original ∧ s.handle.permits path .write = false then
            real.1 = .error (.accessDenied path .write)
          else ∃ report', real.1 = .ok report' ∧ report'.diff = report.diff) := by
  intro dry real
  obtain ⟨hdry, houtcome⟩ :=
    s.editFile_outcome hs.namesFiles differ path edits now now' index index'
  refine ⟨hdry, ?_⟩
  change s.EditOutcome differ store path edits now' dry.1 real.1 real.2.store at houtcome
  generalize dry.1 = foretold, real.1 = reply, real.2.store = after at houtcome
  cases houtcome with
  | failed => simp
  | @idle p t hedits =>
    refine ⟨by simp, fun report _ => ?_, by simp, fun report hreport => ?_⟩
    · exact ⟨p, t, t, hedits, hedits.stored, fun _ _ => rfl⟩
    · cases hreport
      exact ⟨p, t, t, hedits, by simp [EditReport.ofRun, EditReport.ofDryRun]⟩
  | @refused p original modified hedits hchanged hdenied =>
    refine ⟨by simp, by simp, by simp, fun report _ => ?_⟩
    exact ⟨p, original, modified, hedits, by simp [hchanged, hdenied]⟩
  | @written p original modified hedits hchanged hpermits =>
    refine ⟨by simp, fun report _ => ?_, by simp, fun report hreport => ?_⟩
    · refine ⟨p, original, modified, hedits, ?_, fun q hq => ?_⟩
      · exact (SortedMap.get?_insert ..).trans (if_pos rfl)
      · rw [cell_put, if_neg hq]
    · cases hreport
      exact ⟨p, original, modified, hedits,
        by simp [hpermits, EditReport.ofRun, EditReport.ofDryRun]⟩

/-- A workspace client writes `ab` and then replaces `a` by `b`: the dry run leaves `ab` there, the
real one `bb`, and a client that may only read is told so when it comes to writing. -/
theorem edit_of_written_file :
    let h : Handle := .ofNamespaces [.workspace]
    let p : Path := ⟨"/workspace/a", by decide⟩
    let store := ((h.fulfil (.file p.text (.write [97, 98] true))).runWith
      (MemoryStore.backend ⟨0, 0⟩) ⟨.empty, ∅⟩).2.store
    let edits : List Edit := [⟨"a", "b"⟩]
    let run (s : Service) (dryRun : Bool) :=
      (s.editFile p.text edits dryRun).runWith (MemoryStore.backend ⟨1, 0⟩) ⟨store, ∅⟩
    let reader : Handle := ⟨[.ofOps p [.readBytes]]⟩
    store.Reachable ∧ (run ⟨h, {}⟩ true).2.store = store ∧
      (run ⟨h, {}⟩ false).2.store.content.get? p = some [98, 98] ∧
      (run ⟨reader, {}⟩ false).1 = .error (.accessDenied p.text .write) := by
  intro h p store edits run reader
  have hs : store.Reachable := .request h _ ⟨0, 0⟩ ∅ .empty
  obtain ⟨hdry, -, hdone, -, -⟩ :=
    edit_all_or_nothing .myers hs ⟨h, {}⟩ p.text edits ⟨1, 0⟩ ⟨1, 0⟩ ∅ ∅
  obtain ⟨-, -, -, -, hforetold⟩ :=
    edit_all_or_nothing .myers hs ⟨reader, {}⟩ p.text edits ⟨1, 0⟩ ⟨1, 0⟩ ∅ ∅
  have hstored : store.content.get? p = some (Utf8.encode "ab") := by decide
  have hedited : ∀ q original modified, EditsTo store p.text edits q original modified →
      q = p ∧ original = "ab" ∧ modified = "bb" := by
    intro q original modified hedits
    obtain rfl := Path.ext_text hedits.text
    have horiginal : original = "ab" := by
      apply Utf8.encode_injective
      apply Option.some.inj
      rw [← hedits.stored, hstored]
    have happlied := hedits.applied
    rw [horiginal] at happlied
    have hbb : Edit.applyAll edits "ab" = .ok "bb" := by decide
    rw [hbb] at happlied
    exact ⟨rfl, horiginal, (Except.ok.inj happlied).symm⟩
  refine ⟨hs, hdry, ?_, ?_⟩
  · have hreport : (run ⟨h, {}⟩ false).1 = .ok (.ofRun p "ab" "bb") := by decide
    obtain ⟨q, original, modified, hedits, hcontent, -⟩ := hdone _ hreport
    obtain ⟨rfl, -, rfl⟩ := hedited q original modified hedits
    exact hcontent
  · have hreport : (run ⟨reader, {}⟩ true).1 = .ok (.ofDryRun p "ab" "bb") := by decide
    obtain ⟨q, original, modified, hedits, hreply⟩ := hforetold _ hreport
    obtain ⟨rfl, rfl, rfl⟩ := hedited q original modified hedits
    rwa [if_pos (by decide)] at hreply

end GrantFs
