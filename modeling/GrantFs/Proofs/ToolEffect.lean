import GrantFs.Proofs.MemoryRun
import GrantFs.Proofs.Tools

/-! # What tools do to a store in memory

Each of the three tools that can change anything puts or removes one file, after the rule of the
policy for it has been passed; an edit puts only over bytes that it has read. Main statement: no
call changes the store in another way. -/
namespace GrantFs

open MemoryStore

namespace Service

inductive Change (s : Service) (now : Instant) (store : MemoryStore) : MemoryStore → Prop where
  | unchanged : Change s now store store
  | write {p : Path} (data : Bytes) : s.policy.mayWrite p = true →
      Change s now store (store.put now p data)
  | edit {p : Path} (data : Bytes) : s.policy.mayEdit p = true → store.content.get? p ≠ none →
      store.entries.get? p ≠ none → Change s now store (store.put now p data)
  | delete {p : Path} : s.policy.mayDelete p = true → Change s now store (store.remove p)

variable {s : Service}

theorem allowed_of_require {allowed : Bool} {p : Path} {op : Operation} {u : Unit}
    (h : require allowed p op = .ok u) : allowed = true := by
  cases allowed with
  | true => rfl
  | false => cases h

theorem writeFile_ends (s : Service) (path content : Text) (now : Instant) (w : World MemoryStore) :
    (s.writeFile path content).Ends (backend now) w fun reply w' =>
      (∃ why, reply = .error why ∧ w'.store = w.store) ∨
        ∃ p : Path, p.text = path ∧ s.policy.mayWrite p = true ∧
          s.handle.permits path .write = true ∧
          reply = .ok (.written p (Utf8.encode content).length now) ∧
          w'.store = w.store.put now p (Utf8.encode content) := by
  refine Action.ends_check (fun why _ => .inl ⟨why, rfl, rfl⟩) fun p hp => ?_
  obtain rfl := Path.text_of_parse hp
  refine Action.ends_check (fun why _ => .inl ⟨why, rfl, rfl⟩) fun _ hallowed => ?_
  have hmay := allowed_of_require hallowed
  refine (s.handle.write_ends p.text (Utf8.encode content) true now w).imp ?_
  rintro reply w' (hfailed | ⟨q, htext, hpermits, hreply, hstore⟩)
  · exact .inl hfailed
  · obtain rfl := Path.ext_text htext
    exact .inr ⟨q, rfl, hmay, hpermits, hreply, hstore⟩

theorem deleteFile_ends (s : Service) (path : Text) (now : Instant) (w : World MemoryStore) :
    (s.deleteFile path).Ends (backend now) w fun reply w' =>
      (∃ why, reply = .error why ∧ w'.store = w.store) ∨
        ∃ p : Path, p.text = path ∧ s.policy.mayDelete p = true ∧
          s.handle.permits path .delete = true ∧ reply = .ok () ∧ w'.store = w.store.remove p := by
  refine Action.ends_check (fun why _ => .inl ⟨why, rfl, rfl⟩) fun p hp => ?_
  obtain rfl := Path.text_of_parse hp
  refine Action.ends_check (fun why _ => .inl ⟨why, rfl, rfl⟩) fun _ hallowed => ?_
  have hmay := allowed_of_require hallowed
  refine (s.handle.delete_ends p.text now w).imp ?_
  rintro reply w' (hfailed | ⟨q, htext, hpermits, hreply, hstore⟩)
  · exact .inl hfailed
  · obtain rfl := Path.ext_text htext
    exact .inr ⟨q, rfl, hmay, hpermits, hreply, hstore⟩

/-- A run of edits leaves the store alone, or puts what the edits make of the text that is there. -/
theorem editFile_ends (s : Service) (path : Text) (edits : List Edit) (dryRun : Bool)
    (now : Instant) (w : World MemoryStore) :
    (s.editFile path edits dryRun).Ends (backend now) w fun reply w' =>
      w'.store = w.store ∨
        ∃ (p : Path) (data : Bytes) (original modified : Text), p.text = path ∧ dryRun = false ∧
          s.policy.mayEdit p = true ∧ s.handle.permits path .write = true ∧
          w.store.content.get? p = some data ∧ w.store.entries.get? p ≠ none ∧
          editableText p data = .ok original ∧ Edit.applyAll edits original = .ok modified ∧
          reply = .ok (.ofRun p original modified) ∧
          w'.store = w.store.put now p (Utf8.encode modified) := by
  refine Action.ends_check (fun _ _ => .inl rfl) fun p hp => ?_
  obtain rfl := Path.text_of_parse hp
  refine Action.ends_check (fun _ _ => .inl rfl) fun _ hallowed => ?_
  have hmay := allowed_of_require hallowed
  refine (s.handle.readBytes_ends p.text now w).bind (fun _ _ hw => .inl hw.1) ?_
  rintro data w₁ ⟨hstore₁, hread⟩
  obtain ⟨q, htext, hdata, hlisted⟩ := hread data rfl
  obtain rfl := Path.ext_text htext
  refine Action.ends_check (fun _ _ => .inl hstore₁) fun original horiginal => ?_
  refine Action.ends_check (fun _ _ => .inl hstore₁) fun modified hmodified => ?_
  by_cases hdry : dryRun = true
  · rw [if_pos hdry]
    exact .inl hstore₁
  · rw [if_neg hdry]
    by_cases hchanged : modified ≠ original
    · rw [if_pos hchanged]
      refine (s.handle.write_ends q.text (Utf8.encode modified) true now w₁).bind ?_ ?_
      · rintro why w₂ (⟨_, _, hstore₂⟩ | ⟨_, _, _, hreply, _⟩)
        · exact .inl (hstore₂.trans hstore₁)
        · cases hreply
      · rintro e w₂ (⟨_, hreply, _⟩ | ⟨q', htext', hpermits, _, hstore₂⟩)
        · cases hreply
        · obtain rfl := Path.ext_text htext'
          rw [hstore₁] at hstore₂
          exact .inr ⟨q', data, original, modified, rfl, by simpa using hdry, hmay, hpermits, hdata,
            hlisted, horiginal, hmodified, rfl, hstore₂⟩
    · rw [if_neg hchanged]
      exact .inl hstore₁

theorem writeFile_change (s : Service) (path content : Text) (now : Instant)
    (w : World MemoryStore) :
    (s.writeFile path content).Ends (backend now) w fun _ w' =>
      s.Change now w.store w'.store := by
  refine (s.writeFile_ends path content now w).imp ?_
  rintro _ w' (⟨_, _, hstore⟩ | ⟨p, _, hmay, _, _, hstore⟩)
  · rw [hstore]
    exact .unchanged
  · rw [hstore]
    exact .write _ hmay

theorem deleteFile_change (s : Service) (path : Text) (now : Instant) (w : World MemoryStore) :
    (s.deleteFile path).Ends (backend now) w fun _ w' => s.Change now w.store w'.store := by
  refine (s.deleteFile_ends path now w).imp ?_
  rintro _ w' (⟨_, _, hstore⟩ | ⟨p, _, hmay, _, _, hstore⟩)
  · rw [hstore]
    exact .unchanged
  · rw [hstore]
    exact .delete hmay

theorem editFile_change (s : Service) (path : Text) (edits : List Edit) (dryRun : Bool)
    (now : Instant) (w : World MemoryStore) :
    (s.editFile path edits dryRun).Ends (backend now) w fun _ w' =>
      s.Change now w.store w'.store := by
  refine (s.editFile_ends path edits dryRun now w).imp ?_
  rintro _ w' (hstore | ⟨p, data, _, _, _, _, hmay, _, hdata, hlisted, _, _, _, hstore⟩)
  · rw [hstore]
    exact .unchanged
  · rw [hstore]
    exact .edit _ hmay (by simp [hdata]) hlisted

end Service

namespace Tool

open Service

variable {s : Service} {now : Instant} {w : World MemoryStore}

theorem ofArgs_change {α β : Type} {spec : ToolSpec} {decoder : Json.Decoder α}
    {work : Service → α → Action β} {word : α → β → Text}
    (h : ∀ a, (work s a).Ends (backend now) w fun _ w' => s.Change now w.store w'.store)
    (args : Json) :
    ((ofArgs spec decoder fun s a => work s a >>= fun b => pure (word a b)).work s args).Ends
      (backend now) w fun _ w' => s.Change now w.store w'.store :=
  Action.ends_check (fun _ _ => .unchanged) fun a _ =>
    (h a).bind (fun _ _ hchange => hchange) fun _ _ hchange => Action.ends_pure hchange

theorem IsReader.change {tool : Tool} (h : tool.IsReader) (args : Json) :
    (tool.work s args).Ends (backend now) w fun _ w' => s.Change now w.store w'.store := by
  refine (h s args).store_preserved (I := fun t => s.Change now w.store t) ?_ .unchanged
  rintro c t ⟨r, hr, hmay⟩ ht
  rwa [hmay.store_of_read hr now t]

theorem call_change (s : Service) (name : Text) (args : Json) (now : Instant)
    (w : World MemoryStore) :
    (call s name args).Ends (backend now) w fun _ w' => s.Change now w.store w'.store := by
  rcases call_cases s name args with ⟨tool, htool, -, hcall⟩ | ⟨why, hcall⟩
  · rw [hcall]
    rcases reader_or_changer htool with hreads | rfl | rfl | rfl
    · exact hreads.change args
    · exact ofArgs_change (fun a => s.writeFile_change a.path a.content now w) args
    · exact ofArgs_change (fun a => s.editFile_change a.path a.edits a.dryRun now w) args
    · exact ofArgs_change (fun a => s.deleteFile_change a now w) args
  · rw [hcall]
    exact .unchanged

end Tool

/-- What every change keeps, every sequence of calls keeps. -/
theorem Service.callAll_preserves {s : Service} {I : MemoryStore → Prop}
    (keep : ∀ now store store', s.Change now store store' → I store → I store')
    (calls : List ToolCall) {w : World MemoryStore} (hw : I w.store) :
    I (s.callAll backend calls w).2.store := by
  induction calls generalizing w with
  | nil => exact hw
  | cons c rest ih => exact ih (keep c.time _ _ (Tool.call_change s c.name c.args c.time w) hw)

end GrantFs
