import GrantFs.Proofs.MemoryRun

/-! # A handle as a finite map

A handle on a reachable store acts on one map from paths to bytes. The checks are stated on that map
in the order in which they apply, and so is what a request that passes them answers and leaves.
Main statement: every request has the outcome these give it. -/
namespace GrantFs

namespace FileTask

/-- The text is no path, or names a directory where a file is to be written. -/
def pathFault? (path : Text) (task : FileTask) : Option Fault :=
  match Path.flaw? path with
  | some why => some (.invalidPath path why)
  | none =>
    if task.isWrite = true ∧ path.getLast? = some '/' then some (.invalidPath path .namesDirectory)
    else none

def permissionFault? (grants : List Grant) (path : Text) (task : FileTask) : Option Fault :=
  if permits grants path task.operation then none else some (.accessDenied path task.operation)

/-- A window of no lines, or a text that does not compile as a pattern. -/
def argumentFault? : FileTask → Option Fault
  | readText _ (some 0) => some (.invalidArgument "line" (some "0"))
  | readMatches pattern _ =>
    match Regex.compile pattern with
    | .ok _ => none
    | .error why => some (.invalidArgument "pattern" (some why.message))
  | _ => none

/-- What has to exist is missing, or what must not be replaced is there. -/
def presenceFault? (m : Contents) (path : Text) : FileTask → Option Fault
  | write _ overwrite =>
    if overwrite = false ∧ path ∈ m.keys.map (·.text) then some (.conflict path) else none
  | _ => if path ∈ m.keys.map (·.text) then none else some (.notFound path)

/-- The fault of the first check that applies. -/
def fault? (grants : List Grant) (m : Contents) (path : Text) (task : FileTask) : Option Fault :=
  task.pathFault? path <|> task.permissionFault? grants path <|> task.argumentFault? <|>
    task.presenceFault? m path

end FileTask

inductive FileTask.Success (now : Instant) (m : Contents) (p : Path) :
    (task : FileTask) → task.Reply → Contents → Prop where
  | inspect {data : Bytes} {e : Entry} : m.get? p = some data → e.path = p →
      e.size = some data.length → Success now m p .inspect e m
  | readBytes {data : Bytes} : m.get? p = some data → Success now m p .readBytes data m
  | readText {data : Bytes} {index count : Option Nat} {t : Text} : m.get? p = some data →
      sliceLines (Utf8.decodeLossy data) index count = .ok t →
      Success now m p (.readText index count) t m
  | readMatches {data : Bytes} {pattern : Text} {overlap : Option Nat} {found : List Text} :
      m.get? p = some data → Regex.scan pattern overlap (Utf8.decodeLossy data) = .ok found →
      Success now m p (.readMatches pattern overlap) found m
  | write {data : Bytes} {overwrite : Bool} :
      Success now m p (.write data overwrite) (.written p data.length now) (m.insert p data)
  | delete {data : Bytes} : m.get? p = some data → Success now m p .delete () (m.erase p)

inductive FileTask.Outcome (grants : List Grant) (now : Instant) (m : Contents) (path : Text)
    (task : FileTask) : Except Fault task.Reply → Contents → Prop where
  | failure {why : Fault} : task.fault? grants m path = some why →
      Outcome grants now m path task (.error why) m
  | success {p : Path} {reply : task.Reply} {m' : Contents} : task.fault? grants m path = none →
      p.text = path → task.Success now m p reply m' → Outcome grants now m path task (.ok reply) m'

namespace Handle

theorem checkArguments_eq (task : FileTask) :
    task.checkArguments = match task.argumentFault? with
      | some why => .error why
      | none => .ok () := by
  cases task with
  | readText index count =>
    cases count with
    | none => rfl
    | some n => cases n <;> rfl
  | readMatches pattern overlap =>
    simp only [FileTask.checkArguments, FileTask.argumentFault?, Regex.check]
    cases Regex.compile pattern <;> rfl
  | _ => rfl

theorem approve_eq (h : Handle) (path : Text) (task : FileTask) :
    (∃ why, h.approve path task = .error why ∧ ∀ m, task.fault? h.grants m path = some why) ∨
      ∃ p : Path, p.text = path ∧ h.approve path task = .ok p ∧
        ∀ m, task.fault? h.grants m path = task.presenceFault? m path := by
  cases hflaw : Path.flaw? path with
  | some why =>
    refine .inl ⟨_, h.approve_of_flaw task hflaw, fun m => ?_⟩
    simp [FileTask.fault?, FileTask.pathFault?, hflaw]
  | none =>
    obtain ⟨p, rfl⟩ : ∃ p : Path, p.text = path := ⟨⟨path, hflaw⟩, rfl⟩
    rw [approve_text, checkArguments_eq]
    by_cases hdir : task.isWrite = true ∧ p.text.getLast? = some '/'
    · have hbool : (task.isWrite && p.isDirLike) = true := by simpa [Path.isDirLike] using hdir
      refine .inl ⟨_, if_pos hbool, fun m => ?_⟩
      simp [FileTask.fault?, FileTask.pathFault?, hflaw, hdir]
    · have hbool : ¬ (task.isWrite && p.isDirLike) = true := by simpa [Path.isDirLike] using hdir
      have hpath : task.pathFault? p.text = none := by
        simp only [FileTask.pathFault?, hflaw, if_neg hdir]
      rw [if_neg hbool]
      by_cases hpermits : h.permits p.text task.operation = true
      · have hgrant : task.permissionFault? h.grants p.text = none := if_pos hpermits
        rw [if_pos hpermits]
        cases hargs : task.argumentFault? with
        | some why =>
          refine .inl ⟨why, rfl, fun m => ?_⟩
          simp [FileTask.fault?, hpath, hgrant, hargs]
        | none =>
          refine .inr ⟨p, rfl, rfl, fun m => ?_⟩
          simp [FileTask.fault?, hpath, hgrant, hargs]
      · have hgrant : task.permissionFault? h.grants p.text =
            some (.accessDenied p.text task.operation) := if_neg hpermits
        rw [if_neg hpermits]
        refine .inl ⟨_, rfl, fun m => ?_⟩
        simp [FileTask.fault?, hpath, hgrant]

open MemoryStore

variable {h : Handle} {s : MemoryStore} {m : Contents} {p : Path} {task : FileTask}

theorem mem_keys_text {m : Contents} {p : Path} :
    p.text ∈ m.keys.map (·.text) ↔ m.get? p ≠ none := by
  have hkey : p ∈ m.keys ↔ m.get? p ≠ none := by
    rw [SortedMap.mem_keys, SortedMap.contains_eq, Option.isSome_iff_ne_none]
  rw [← hkey, List.mem_map]
  constructor
  · rintro ⟨q, hq, htext⟩
    rwa [← Path.ext_text htext]
  · intro hp
    exact ⟨p, hp, rfl⟩

/-- A task that finds missing what it needs, or present what it must not replace, ends so and leaves
the store alone. -/
theorem carryOut_failure (hm : Represents s m) {why : Fault}
    (hp : h.permits p.text task.operation = true)
    (hfault : task.presenceFault? m p.text = some why) (now : Instant) (index : Snapshot) :
    (h.carryOut p task).runWith (backend now) ⟨s, index⟩ =
      (.error why, ⟨s, s.snapshot h.grants⟩) := by
  by_cases hwrite : ∃ data overwrite, task = .write data overwrite
  · obtain ⟨data, overwrite, rfl⟩ := hwrite
    simp only [FileTask.presenceFault?, mem_keys_text, Option.ite_none_right_eq_some,
      Option.some.injEq] at hfault
    obtain ⟨⟨rfl, hstored⟩, rfl⟩ := hfault
    have hlisted : s.entries.get? p ≠ none := mt (hm.listed p).mp hstored
    exact carryOut_write_of_taken hp (.inl hlisted) now index
  · have habsent : m.get? p = none ∧ why = .notFound p.text := by
      cases task with
      | write data overwrite => exact absurd ⟨data, overwrite, rfl⟩ hwrite
      | _ => simpa [FileTask.presenceFault?, mem_keys_text, eq_comm] using hfault
    obtain ⟨habsent, rfl⟩ := habsent
    have hmissing : (h.requireExisting p).runWith (backend now) ⟨s, index⟩ =
        (.error (.notFound p.text), ⟨s, s.snapshot h.grants⟩) := by
      rw [requireExisting_run hp, (hm.listed p).mpr habsent]
    cases task with
    | write data overwrite => exact absurd ⟨data, overwrite, rfl⟩ hwrite
    | inspect => exact hmissing
    | _ => exact Action.runWith_bind_error hmissing

theorem exists_sliceLines (t : Text) (index : Option Nat) {count : Option Nat}
    (h : checkCount count = .ok ()) : ∃ lines, sliceLines t index count = .ok lines :=
  ⟨_, by rw [sliceLines, h]; rfl⟩

theorem exists_scan (t : Text) {pattern : Text} {overlap : Option Nat}
    (h : (FileTask.readMatches pattern overlap).checkArguments = .ok ()) :
    ∃ found, Regex.scan pattern overlap t = .ok found := by
  cases hcheck : Regex.check pattern with
  | ok machine => exact ⟨_, by rw [Regex.scan, hcheck]; rfl⟩
  | error why => simp [FileTask.checkArguments, hcheck, Except.map] at h

theorem carryOut_success (hm : Represents s m) (hp : h.permits p.text task.operation = true)
    (hargs : task.checkArguments = .ok ()) (hfault : task.presenceFault? m p.text = none)
    (now : Instant) (index : Snapshot) :
    ∃ reply w m', (h.carryOut p task).runWith (backend now) ⟨s, index⟩ = (.ok reply, w) ∧
      task.Success now m p reply m' ∧ Represents w.store m' := by
  by_cases hwrite : ∃ data overwrite, task = .write data overwrite
  · obtain ⟨data, overwrite, rfl⟩ := hwrite
    have hvacant : overwrite = false → s.entries.get? p = none ∧ s.content.get? p = none := by
      rw [hm.listed, hm.content, and_self]
      simpa [FileTask.presenceFault?, mem_keys_text] using hfault
    exact ⟨_, _, _, carryOut_write_of_vacant hp hvacant now index, .write, hm.put now p data⟩
  · have hstored : m.get? p ≠ none := by
      cases task with
      | write data overwrite => exact absurd ⟨data, overwrite, rfl⟩ hwrite
      | _ => simpa [FileTask.presenceFault?, mem_keys_text] using hfault
    obtain ⟨data, hdata⟩ := Option.ne_none_iff_exists'.mp hstored
    obtain ⟨e, he⟩ := Option.ne_none_iff_exists'.mp (mt (hm.listed p).mp hstored)
    have hexists : (h.requireExisting p).runWith (backend now) ⟨s, index⟩ =
        (.ok e, ⟨s, s.snapshot h.grants⟩) := by
      rw [requireExisting_run hp, he]
    have hread : s.read p = .ok data := by rw [MemoryStore.read, hm.content, hdata]
    cases task with
    | write data overwrite => exact absurd ⟨data, overwrite, rfl⟩ hwrite
    | inspect =>
      obtain ⟨hpath, hsize⟩ := hm.described p e data he hdata
      exact ⟨e, _, m, hexists, .inspect hdata hpath hsize, hm⟩
    | readBytes =>
      refine ⟨data, ⟨s, s.snapshot h.grants⟩, m, ?_, .readBytes hdata, hm⟩
      rw [carryOut, Action.runWith_bind_ok hexists, Action.runWith_call]
      simp only [backend, hread]
    | readText index count =>
      obtain ⟨t, ht⟩ := exists_sliceLines (Utf8.decodeLossy data) index hargs
      refine ⟨t, ⟨s, s.snapshot h.grants⟩, m, ?_, .readText hdata ht, hm⟩
      rw [carryOut, Action.runWith_bind_ok hexists, Action.runWith_call]
      simp only [backend, hread, Except.bind, ht]
    | readMatches pattern overlap =>
      obtain ⟨found, hfound⟩ := exists_scan (Utf8.decodeLossy data) hargs
      refine ⟨found, ⟨s, s.snapshot h.grants⟩, m, ?_, .readMatches hdata hfound, hm⟩
      rw [carryOut, Action.runWith_bind_ok hexists, Action.runWith_call]
      simp only [backend, hread, Except.bind, hfound]
    | delete =>
      have hcall := call_delete_of_stored (by rw [hm.content, hdata]; simp) now
        (s.snapshot h.grants)
      refine ⟨(), ⟨s.remove p, (s.snapshot h.grants).erase p⟩, m.erase p, ?_, .delete hdata,
        hm.remove p⟩
      rw [carryOut, Action.runWith_bind_ok hexists]
      exact Action.runWith_bind_ok hcall

/-- A task has the outcome that the contents decide, and no failure touches the store. -/
theorem perform_outcome (hm : Represents s m) (h : Handle) (path : Text) (task : FileTask)
    (now : Instant) (index : Snapshot) :
    ∃ result w m', (h.perform path task).runWith (backend now) ⟨s, index⟩ = (result, w) ∧
      task.Outcome h.grants now m path result m' ∧ Represents w.store m' ∧
        ∀ why, result = .error why → w.store = s := by
  rw [perform_eq]
  rcases h.approve_eq path task with ⟨why, hrefused, hfault⟩ | ⟨p, rfl, happroved, hfault⟩
  · refine ⟨_, ⟨s, index⟩, m, ?_, .failure (hfault m), hm, fun _ _ => rfl⟩
    rw [hrefused]
    rfl
  · obtain ⟨-, hpermits, -, hargs⟩ := approve_eq_ok happroved
    rw [happroved]
    cases hpresence : task.presenceFault? m p.text with
    | some why =>
      exact ⟨_, _, m, carryOut_failure hm hpermits hpresence now index,
        .failure ((hfault m).trans hpresence), hm, fun _ _ => rfl⟩
    | none =>
      obtain ⟨reply, w, m', hrun, hsuccess, hm'⟩ :=
        carryOut_success hm hpermits hargs hpresence now index
      exact ⟨_, w, m', hrun, .success ((hfault m).trans hpresence) rfl hsuccess, hm',
        fun why hwhy => by cases hwhy⟩

end Handle

/-- Behind every reachable store stands one map of contents, and on it every request about a file
has the outcome of the first check that applies, or else of its task. -/
theorem handle_refines_contents {s : MemoryStore} (hs : MemoryStore.Reachable s) :
    ∃ m, s.Represents m ∧
      ∀ (h : Handle) (path : Text) (task : FileTask) (now : Instant) (index : Snapshot),
        ∃ result w m',
          (h.perform path task).runWith (MemoryStore.backend now) ⟨s, index⟩ = (result, w) ∧
            task.Outcome h.grants now m path result m' ∧ w.store.Represents m' ∧
              ∀ why, result = .error why → w.store = s := by
  obtain ⟨m, hm⟩ := hs.represents
  exact ⟨m, hm, fun h path task now index => h.perform_outcome hm path task now index⟩

/-- After one write, what stands behind the store is the file that was written, and reading it has
the outcome of that. -/
theorem handle_refines_contents_after_write :
    let h : Handle := .ofNamespaces [.workspace]
    let p : Path := ⟨"/workspace/a", by decide⟩
    let s := ((h.fulfil (.file p.text (.write [104, 105] false))).runWith
      (MemoryStore.backend ⟨0, 0⟩) ⟨.empty, ∅⟩).2.store
    MemoryStore.Reachable s ∧ ∃ m, s.Represents m ∧ m.get? p = some [104, 105] ∧
      ∃ result w m',
        (h.perform p.text .readBytes).runWith (MemoryStore.backend ⟨0, 0⟩) ⟨s, ∅⟩ = (result, w) ∧
          FileTask.Outcome h.grants ⟨0, 0⟩ m p.text .readBytes result m' ∧ w.store.Represents m' ∧
            ∀ why, result = .error why → w.store = s := by
  intro h p s
  have hs : MemoryStore.Reachable s := .request h _ ⟨0, 0⟩ ∅ .empty
  have hwritten : s.content.get? p = some [104, 105] := by decide
  obtain ⟨m, hm, hall⟩ := handle_refines_contents hs
  refine ⟨hs, m, hm, ?_, hall h p.text .readBytes ⟨0, 0⟩ ∅⟩
  rw [← hm.content]
  exact hwritten

end GrantFs
