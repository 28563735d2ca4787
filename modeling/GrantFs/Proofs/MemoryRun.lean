import GrantFs.Proofs.Memory

/-! # Requests to a store in memory

How the requests about one file run on any store in memory, also on one whose two maps do not agree.
Main statements: a write either fails and leaves the store alone or puts its data at its path, and a
delete either fails and leaves the store alone or removes the file at its path. -/
namespace GrantFs.Handle

open MemoryStore

variable {h : Handle} {s : MemoryStore} {p : Path}

theorem call_write_of_vacant {data : Bytes} {overwrite : Bool}
    (h : overwrite = false → s.content.get? p = none) (now : Instant) (index : Snapshot) :
    (Action.call (.write p data overwrite)).runWith (backend now) ⟨s, index⟩ =
      (.ok (.written p data.length now), ⟨s.put now p data, index⟩) := by
  rw [Action.runWith_call]
  simp only [backend, write_of_vacant h]

theorem call_write_of_taken {data : Bytes} (h : s.content.get? p ≠ none) (now : Instant)
    (index : Snapshot) :
    (Action.call (.write p data false)).runWith (backend now) ⟨s, index⟩ =
      (.error (.conflict p.text), ⟨s, index⟩) := by
  rw [Action.runWith_call]
  simp only [backend, write_of_taken h]

theorem call_delete_of_stored (h : s.content.get? p ≠ none) (now : Instant) (index : Snapshot) :
    (Action.call (.delete p)).runWith (backend now) ⟨s, index⟩ =
      (.ok (), ⟨s.remove p, index⟩) := by
  rw [Action.runWith_call]
  simp only [backend, delete_of_stored h]

theorem call_delete_of_absent (h : s.content.get? p = none) (now : Instant) (index : Snapshot) :
    (Action.call (.delete p)).runWith (backend now) ⟨s, index⟩ =
      (.error (.notFound p.text), ⟨s, index⟩) := by
  rw [Action.runWith_call]
  simp only [backend, delete_of_absent h]

theorem refresh_run (h : Handle) (s : MemoryStore) (now : Instant) (index : Snapshot) :
    h.refresh.runWith (backend now) ⟨s, index⟩ = (.ok (), ⟨s, s.snapshot h.grants⟩) := rfl

theorem requireExisting_run {op : Operation} (hp : h.permits p.text op = true) (s : MemoryStore)
    (now : Instant) (index : Snapshot) :
    (h.requireExisting p).runWith (backend now) ⟨s, index⟩ =
      (match s.entries.get? p with
        | some e => .ok e
        | none => .error (.notFound p.text), ⟨s, s.snapshot h.grants⟩) := by
  rw [requireExisting, Action.runWith_bind_ok (h.refresh_run s now index),
    Action.runWith_bind_ok (Action.runWith_lookup p), get?_snapshot_of_permits s hp]
  cases s.entries.get? p <;> rfl

theorem carryOut_write_of_taken (hp : h.permits p.text .write = true) {data : Bytes}
    (htaken : s.entries.get? p ≠ none ∨ s.content.get? p ≠ none) (now : Instant)
    (index : Snapshot) :
    (h.carryOut p (.write data false)).runWith (backend now) ⟨s, index⟩ =
      (.error (.conflict p.text), ⟨s, s.snapshot h.grants⟩) := by
  rw [carryOut, Action.runWith_bind_ok (h.refresh_run s now index)]
  show (Action.lookup p >>= _).runWith _ _ = _
  rw [Action.runWith_bind_ok (Action.runWith_lookup p), get?_snapshot_of_permits s hp]
  cases he : s.entries.get? p with
  | some e => rfl
  | none =>
    have hstored : s.content.get? p ≠ none := htaken.resolve_left fun hne => hne he
    exact Action.runWith_bind_error (call_write_of_taken hstored now (s.snapshot h.grants))

theorem carryOut_write_of_vacant (hp : h.permits p.text .write = true) {data : Bytes}
    {overwrite : Bool}
    (hvacant : overwrite = false → s.entries.get? p = none ∧ s.content.get? p = none)
    (now : Instant) (index : Snapshot) :
    (h.carryOut p (.write data overwrite)).runWith (backend now) ⟨s, index⟩ =
      (.ok (.written p data.length now), ⟨s.put now p data,
        (s.snapshot h.grants).insert p (.written p data.length now)⟩) := by
  have hcall : (Action.call (.write p data overwrite)).runWith (backend now)
      ⟨s, s.snapshot h.grants⟩ =
        (.ok (.written p data.length now), ⟨s.put now p data, s.snapshot h.grants⟩) :=
    call_write_of_vacant (fun ho => (hvacant ho).2) now _
  rw [carryOut, Action.runWith_bind_ok (h.refresh_run s now index)]
  cases overwrite with
  | true => exact Action.runWith_bind_ok hcall
  | false =>
    show (Action.lookup p >>= _).runWith _ _ = _
    rw [Action.runWith_bind_ok (Action.runWith_lookup p), get?_snapshot_of_permits s hp,
      (hvacant rfl).1]
    exact Action.runWith_bind_ok hcall

theorem MayCall.store_of_read {r : Request} {c : Call} (hc : h.MayCall r c) (hr : r.isRead = true)
    (now : Instant) (s : MemoryStore) : (backend now c s).2 = s := by
  cases hc with
  | snapshot => rfl
  | @file p task c hp hcall =>
    cases task with
    | write data overwrite => cases hr
    | delete => cases hr
    | inspect => cases hcall
    | _ => cases hcall; rfl

theorem requireExisting_ends {op : Operation} (hp : h.permits p.text op = true) (now : Instant)
    (w : World MemoryStore) :
    (h.requireExisting p).Ends (backend now) w fun reply w' => w'.store = w.store ∧
      ∀ e, reply = .ok e → w.store.entries.get? p = some e := by
  unfold Action.Ends
  rw [requireExisting_run hp w.store now w.index]
  refine ⟨rfl, fun e he => ?_⟩
  cases hfound : w.store.entries.get? p with
  | none => simp [hfound] at he
  | some found => simpa [hfound] using he

theorem readBytes_ends (h : Handle) (path : Text) (now : Instant) (w : World MemoryStore) :
    (h.readBytes path).Ends (backend now) w fun reply w' => w'.store = w.store ∧
      ∀ data, reply = .ok data → ∃ p : Path, p.text = path ∧
        w.store.content.get? p = some data ∧ w.store.entries.get? p ≠ none := by
  show (h.perform path .readBytes).Ends _ _ _
  rw [perform_eq]
  refine Action.ends_check (fun why _ => ⟨rfl, by simp⟩) fun p hp => ?_
  obtain ⟨rfl, hpermits, -, -⟩ := approve_eq_ok hp
  refine (requireExisting_ends hpermits now w).bind (fun why w' hw => ⟨hw.1, by simp⟩) ?_
  rintro e w' ⟨hstore, he⟩
  refine ⟨hstore, fun data hdata => ⟨p, rfl, ?_, by simp [he e rfl]⟩⟩
  have hread : w'.store.read p = .ok data := hdata
  rw [← hstore]
  unfold MemoryStore.read at hread
  split at hread
  next found hfound =>
    cases hread
    exact hfound
  next => cases hread

theorem write_ends (h : Handle) (path : Text) (data : Bytes) (overwrite : Bool) (now : Instant)
    (w : World MemoryStore) :
    (h.write path data overwrite).Ends (backend now) w fun reply w' =>
      (∃ why, reply = .error why ∧ w'.store = w.store) ∨
        ∃ p : Path, p.text = path ∧ h.permits path .write = true ∧
          reply = .ok (.written p data.length now) ∧ w'.store = w.store.put now p data := by
  show (h.perform path (.write data overwrite)).Ends _ _ _
  rw [perform_eq]
  refine Action.ends_check (fun why _ => .inl ⟨why, rfl, rfl⟩) fun p hp => ?_
  obtain ⟨rfl, hpermits, -, -⟩ := approve_eq_ok hp
  by_cases hvacant : overwrite = false →
      w.store.entries.get? p = none ∧ w.store.content.get? p = none
  · refine .inr ⟨p, rfl, hpermits, ?_⟩
    rw [carryOut_write_of_vacant hpermits hvacant now w.index]
    exact ⟨rfl, rfl⟩
  · obtain ⟨rfl, htaken⟩ := Classical.not_imp.mp hvacant
    refine .inl ⟨.conflict p.text, ?_⟩
    rw [carryOut_write_of_taken hpermits (by tauto) now w.index]
    exact ⟨rfl, rfl⟩

theorem delete_ends (h : Handle) (path : Text) (now : Instant) (w : World MemoryStore) :
    (h.delete path).Ends (backend now) w fun reply w' =>
      (∃ why, reply = .error why ∧ w'.store = w.store) ∨
        ∃ p : Path, p.text = path ∧ h.permits path .delete = true ∧
          reply = .ok () ∧ w'.store = w.store.remove p := by
  show (h.perform path .delete).Ends _ _ _
  rw [perform_eq]
  refine Action.ends_check (fun why _ => .inl ⟨why, rfl, rfl⟩) fun p hp => ?_
  obtain ⟨rfl, hpermits, -, -⟩ := approve_eq_ok hp
  refine (requireExisting_ends hpermits now w).bind (fun why w' hw => .inl ⟨why, rfl, hw.1⟩) ?_
  rintro e w' ⟨hstore, -⟩
  by_cases hstored : w'.store.content.get? p = none
  · refine .inl ⟨.notFound p.text, ?_⟩
    rw [Action.runWith_bind_error (call_delete_of_absent hstored now w'.index)]
    exact ⟨rfl, hstore⟩
  · refine .inr ⟨p, rfl, hpermits, ?_⟩
    rw [Action.runWith_bind_ok (call_delete_of_stored hstored now w'.index), ← hstore]
    exact ⟨rfl, rfl⟩

end GrantFs.Handle
