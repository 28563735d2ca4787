import GrantFs.Proofs.Request

/-! # Requests to any backend

What a request to a handle comes to on a backend whose snapshots change nothing: after the checks a
snapshot, and, if that shows what the task needs, the one call of the task. Main statement: running
a request has exactly this outcome, whatever is in the index. -/
namespace GrantFs

variable {σ : Type}

/-- What a task comes to when the snapshot shows `found` at its path. -/
def FileTask.finish (b : Backend σ) (p : Path) (found : Option Entry) (s : σ) :
    (task : FileTask) → Except Fault task.Reply × σ
  | .inspect =>
    (match found with
      | some e => .ok e
      | none => .error (.notFound p.text), s)
  | .readBytes =>
    if found.isSome then b (.readBytes p) s else (.error (.notFound p.text), s)
  | .readText index count =>
    if found.isSome then b (.readText p index count) s else (.error (.notFound p.text), s)
  | .readMatches pattern overlap =>
    if found.isSome then b (.readMatches p pattern overlap) s else (.error (.notFound p.text), s)
  | .write data overwrite =>
    if overwrite = false ∧ found.isSome then (.error (.conflict p.text), s)
    else b (.write p data overwrite) s
  | .delete =>
    if found.isSome then b (.delete p) s else (.error (.notFound p.text), s)

namespace Handle

def listed (limit : Option Path) (s : Snapshot) : List Entry :=
  match limit with
  | none => s.values
  | some start => s.values.filter (·.path.startsWith start.text)

/-- What a request comes to: its reply and the store behind it. -/
def outcome (h : Handle) (b : Backend σ) (s : σ) : (r : Request) → Except Fault r.Reply × σ
  | .list start =>
    match h.checkedStart start with
    | .error why => (.error why, s)
    | .ok limit => ((b (.snapshot h.grants) s).1.map (listed limit), s)
  | .file path task =>
    match h.approve path task with
    | .error why => (.error why, s)
    | .ok p =>
      match (b (.snapshot h.grants) s).1 with
      | .error why => (.error why, s)
      | .ok i => task.finish b p (i.get? p) s

variable {h : Handle} {b : Backend σ} {s : σ} {i index : Snapshot} {p : Path}

theorem refresh_runWith (hs : b (.snapshot h.grants) s = (.ok i, s)) (index : Snapshot) :
    h.refresh.runWith b ⟨s, index⟩ = (.ok (), ⟨s, i⟩) := by
  have hcall : (Action.call (.snapshot h.grants)).runWith b ⟨s, index⟩ = (.ok i, ⟨s, index⟩) := by
    rw [Action.runWith_call, hs]
  rw [refresh, Action.runWith_bind_ok hcall]
  rfl

theorem refresh_runWith_error {why : Fault} (hs : b (.snapshot h.grants) s = (.error why, s))
    (index : Snapshot) : h.refresh.runWith b ⟨s, index⟩ = (.error why, ⟨s, index⟩) := by
  have hcall : (Action.call (.snapshot h.grants)).runWith b ⟨s, index⟩ =
      (.error why, ⟨s, index⟩) := by
    rw [Action.runWith_call, hs]
  exact Action.runWith_bind_error hcall

theorem requireExisting_runWith (hs : b (.snapshot h.grants) s = (.ok i, s)) (index : Snapshot) :
    (h.requireExisting p).runWith b ⟨s, index⟩ =
      (match i.get? p with
        | some e => .ok e
        | none => .error (.notFound p.text), ⟨s, i⟩) := by
  rw [requireExisting, Action.runWith_bind_ok (refresh_runWith hs index),
    Action.runWith_bind_ok (Action.runWith_lookup p)]
  cases i.get? p <;> rfl

/-- A task that needs its file makes its call if the snapshot shows the file. -/
theorem call_runWith {c : Call} (hs : b (.snapshot h.grants) s = (.ok i, s)) (index : Snapshot) :
    (do
        let _ ← h.requireExisting p
        Action.call c).runWith b ⟨s, index⟩ =
      if (i.get? p).isSome then ((b c s).1, ⟨(b c s).2, i⟩)
      else (.error (.notFound p.text), ⟨s, i⟩) := by
  have hexists := requireExisting_runWith (p := p) hs index
  cases hfound : i.get? p with
  | none =>
    rw [hfound] at hexists
    exact Action.runWith_bind_error hexists
  | some e =>
    rw [hfound] at hexists
    rw [Action.runWith_bind_ok hexists, Action.runWith_call]
    rfl

theorem write_runWith {data : Bytes} {overwrite : Bool}
    (hs : b (.snapshot h.grants) s = (.ok i, s)) (index : Snapshot) :
    ∃ index', (h.carryOut p (.write data overwrite)).runWith b ⟨s, index⟩ =
      (((FileTask.write data overwrite).finish b p (i.get? p) s).1,
        ⟨((FileTask.write data overwrite).finish b p (i.get? p) s).2, index'⟩) := by
  have hstore : ∃ index', (do
        let e ← Action.call (.write p data overwrite)
        Action.insertIndex p e
        pure e : Action Entry).runWith b ⟨s, i⟩ =
      ((b (.write p data overwrite) s).1, ⟨(b (.write p data overwrite) s).2, index'⟩) := by
    rcases hcall : b (.write p data overwrite) s with ⟨why | e, s'⟩
    · refine ⟨i, Action.runWith_bind_error ?_⟩
      rw [Action.runWith_call, hcall]
    · have hrun : (Action.call (.write p data overwrite)).runWith b ⟨s, i⟩ = (.ok e, ⟨s', i⟩) := by
        rw [Action.runWith_call, hcall]
      exact ⟨i.insert p e, (Action.runWith_bind_ok hrun).trans rfl⟩
  rw [carryOut, Action.runWith_bind_ok (refresh_runWith hs index)]
  cases overwrite with
  | true => exact hstore
  | false =>
    show ∃ index', (Action.lookup p >>= _).runWith b ⟨s, i⟩ = _
    rw [Action.runWith_bind_ok (Action.runWith_lookup p)]
    cases i.get? p with
    | none => exact hstore
    | some e => exact ⟨i, rfl⟩

theorem delete_runWith (hs : b (.snapshot h.grants) s = (.ok i, s)) (index : Snapshot) :
    ∃ index', (h.carryOut p .delete).runWith b ⟨s, index⟩ =
      ((FileTask.delete.finish b p (i.get? p) s).1,
        ⟨(FileTask.delete.finish b p (i.get? p) s).2, index'⟩) := by
  have hexists := requireExisting_runWith (p := p) hs index
  cases hfound : i.get? p with
  | none =>
    rw [hfound] at hexists
    exact ⟨i, Action.runWith_bind_error hexists⟩
  | some e =>
    rw [hfound] at hexists
    rw [carryOut, Action.runWith_bind_ok hexists]
    show ∃ index', _ = ((b (.delete p) s).1, World.mk (b (.delete p) s).2 index')
    rcases hcall : b (.delete p) s with ⟨why | u, s'⟩
    · refine ⟨i, Action.runWith_bind_error ?_⟩
      rw [Action.runWith_call, hcall]
    · have hrun : (Action.call (.delete p)).runWith b ⟨s, i⟩ = (.ok (), ⟨s', i⟩) := by
        rw [Action.runWith_call, hcall]
      exact ⟨i.erase p, (Action.runWith_bind_ok hrun).trans rfl⟩

theorem carryOut_runWith (hs : b (.snapshot h.grants) s = (.ok i, s)) (p : Path) (task : FileTask)
    (index : Snapshot) :
    ∃ index', (h.carryOut p task).runWith b ⟨s, index⟩ =
      ((task.finish b p (i.get? p) s).1, ⟨(task.finish b p (i.get? p) s).2, index'⟩) := by
  have hread : ∀ c : Call, ∃ index', (do
        let _ ← h.requireExisting p
        Action.call c).runWith b ⟨s, index⟩ =
      ((if (i.get? p).isSome then b c s else (.error (.notFound p.text), s)).1,
        ⟨(if (i.get? p).isSome then b c s else (.error (.notFound p.text), s)).2, index'⟩) := by
    intro c
    refine ⟨i, (call_runWith hs index).trans ?_⟩
    split <;> rfl
  cases task with
  | inspect => exact ⟨i, requireExisting_runWith hs index⟩
  | readBytes => exact hread _
  | readText start count => exact hread _
  | readMatches pattern overlap => exact hread _
  | write data overwrite => exact write_runWith hs index
  | delete => exact delete_runWith hs index

theorem carryOut_runWith_error {why : Fault} (hs : b (.snapshot h.grants) s = (.error why, s))
    (p : Path) (task : FileTask) (index : Snapshot) :
    (h.carryOut p task).runWith b ⟨s, index⟩ = (.error why, ⟨s, index⟩) := by
  have hrefresh := refresh_runWith_error hs index
  have hexists : (h.requireExisting p).runWith b ⟨s, index⟩ = (.error why, ⟨s, index⟩) :=
    Action.runWith_bind_error hrefresh
  cases task with
  | inspect => exact hexists
  | write data overwrite => exact Action.runWith_bind_error hrefresh
  | _ => exact Action.runWith_bind_error hexists

/-- Running a request has the outcome that the checks, the snapshot and the one call give it. -/
theorem fulfil_runWith (hs : (b (.snapshot h.grants) s).2 = s) (r : Request) (index : Snapshot) :
    ∃ index', (h.fulfil r).runWith b ⟨s, index⟩ =
      ((h.outcome b s r).1, ⟨(h.outcome b s r).2, index'⟩) := by
  have hsnapshot : b (.snapshot h.grants) s = ((b (.snapshot h.grants) s).1, s) :=
    Prod.ext rfl hs
  cases r with
  | list start =>
    show ∃ index', (h.list start).runWith b ⟨s, index⟩ = _
    rw [list, outcome, Action.runWith_bind, Action.runWith_lift]
    cases h.checkedStart start with
    | error why => exact ⟨index, rfl⟩
    | ok limit =>
      cases hi : (b (.snapshot h.grants) s).1 with
      | error why =>
        rw [hi] at hsnapshot
        exact ⟨index, Action.runWith_bind_error (refresh_runWith_error hsnapshot index)⟩
      | ok i =>
        rw [hi] at hsnapshot
        refine ⟨i, (Action.runWith_bind_ok (refresh_runWith hsnapshot index)).trans ?_⟩
        cases limit <;> rfl
  | file path task =>
    show ∃ index', (h.perform path task).runWith b ⟨s, index⟩ = _
    rw [perform_eq, outcome, Action.runWith_bind, Action.runWith_lift]
    cases h.approve path task with
    | error why => exact ⟨index, rfl⟩
    | ok p =>
      cases hi : (b (.snapshot h.grants) s).1 with
      | error why =>
        rw [hi] at hsnapshot
        exact ⟨index, carryOut_runWith_error hsnapshot p task index⟩
      | ok i =>
        rw [hi] at hsnapshot
        exact carryOut_runWith hsnapshot p task index

end Handle
end GrantFs
