import GrantFs.Proofs.Arguments
import GrantFs.Proofs.ToolEffect

/-! # What a tool call leaves alone

A call of a tool changes at most the file whose path its arguments give. Main statement: a call that
fails changes nothing, nor does a call of a tool that only reads or makes a dry run; any other call
keeps the bytes and the entry of every other path. -/
namespace GrantFs

open MemoryStore

namespace Tool

/-- The call is of a kind that can change a file: a write, a delete, or an edit that is no dry
run. -/
def CanChange (name : Text) (args : Json) : Prop :=
  name = "write_file" ∨ name = "delete_file" ∨
    name = "edit_file" ∧ (args.argument? "dry_run" 2).getD (.bool false) = .bool false

/-- After a call: the store as it was if the call has failed; otherwise the call has a path, and the
store differs only there, and only if the call is of a kind that can change a file. -/
def Confined (name : Text) (args : Json) (store : MemoryStore) (reply : Except Fault Text)
    (w : World MemoryStore) : Prop :=
  (∃ why, reply = .error why ∧ w.store = store) ∨
    ∃ text path, reply = .ok text ∧ args.argument? "path" 0 = some (.text path) ∧
      (w.store = store ∨
        CanChange name args ∧ ∀ p : Path, p.text ≠ path → w.store.cell p = store.cell p)

variable {s : Service} {name : Text} {args : Json} {now : Instant} {w : World MemoryStore}

theorem ne_of_text {p q : Path} {path : Text} (hp : p.text = path) (hq : q.text ≠ path) :
    q ≠ p := by
  rintro rfl
  exact hq hp

theorem ofArgs_confined {α : Type} {spec : ToolSpec} {decoder : Json.Decoder α}
    {work : Service → α → Action Text}
    (h : ∀ a, readArgs decoder args = .ok a →
      (work s a).Ends (backend now) w (Confined name args w.store)) :
    ((ofArgs spec decoder work).work s args).Ends (backend now) w (Confined name args w.store) :=
  Action.ends_check (fun why _ => .inl ⟨why, rfl, rfl⟩) h

theorem writeFile_confined (s : Service) (args : Json) (now : Instant) (w : World MemoryStore) :
    (writeFile.work s args).Ends (backend now) w (Confined "write_file" args w.store) := by
  refine ofArgs_confined fun a ha => ?_
  refine (s.writeFile_ends a.path a.content now w).bind ?_ ?_
  · rintro why w' (⟨_, _, hstore⟩ | ⟨_, _, _, _, hreply, _⟩)
    · exact .inl ⟨why, rfl, hstore⟩
    · cases hreply
  · rintro e w' (⟨_, hreply, _⟩ | ⟨p, htext, _, _, _, hstore⟩)
    · cases hreply
    · refine Action.ends_pure (.inr ⟨_, a.path, rfl, path_of_writeFileArgs ha,
        .inr ⟨.inl rfl, fun q hq => ?_⟩⟩)
      rw [hstore, cell_put, if_neg (ne_of_text htext hq)]

theorem deleteFile_confined (s : Service) (args : Json) (now : Instant) (w : World MemoryStore) :
    (deleteFile.work s args).Ends (backend now) w (Confined "delete_file" args w.store) := by
  refine ofArgs_confined fun path hpath => ?_
  refine (s.deleteFile_ends path now w).bind ?_ ?_
  · rintro why w' (⟨_, _, hstore⟩ | ⟨_, _, _, _, hreply, _⟩)
    · exact .inl ⟨why, rfl, hstore⟩
    · cases hreply
  · rintro _ w' (⟨_, hreply, _⟩ | ⟨p, htext, _, _, _, hstore⟩)
    · cases hreply
    · refine Action.ends_pure (.inr ⟨_, path, rfl, path_of_pathArgs hpath,
        .inr ⟨.inr (.inl rfl), fun q hq => ?_⟩⟩)
      rw [hstore, cell_remove, if_neg (ne_of_text htext hq)]

/-- An edit that is no dry run has the argument for that as `false`, or not at all. -/
theorem canChange_of_edit {a : EditFileArgs} (ha : readArgs editFileArgs args = .ok a)
    (hdry : a.dryRun = false) : CanChange "edit_file" args := by
  refine .inr (.inr ⟨rfl, ?_⟩)
  rcases dryRun_of_editFileArgs ha with ⟨hnone, -⟩ | hsome
  · rw [hnone]
    rfl
  · rw [hsome, hdry]
    rfl

theorem editFile_confined (s : Service) (args : Json) (now : Instant) (w : World MemoryStore) :
    (editFile.work s args).Ends (backend now) w (Confined "edit_file" args w.store) := by
  refine ofArgs_confined fun a ha => ?_
  refine (s.editFile_ends a.path a.edits a.dryRun now w).bind ?_ ?_
  · rintro why w' (hstore | ⟨_, _, _, _, _, _, _, _, _, _, _, _, hreply, _⟩)
    · exact .inl ⟨why, rfl, hstore⟩
    · cases hreply
  · rintro report w' (hstore | ⟨p, _, _, _, htext, hdry, _, _, _, _, _, _, _, hstore⟩)
    · exact Action.ends_pure (.inr ⟨_, a.path, rfl, path_of_editFileArgs ha, .inl hstore⟩)
    · refine Action.ends_pure (.inr ⟨_, a.path, rfl, path_of_editFileArgs ha,
        .inr ⟨canChange_of_edit ha hdry, fun q hq => ?_⟩⟩)
      rw [hstore, cell_put, if_neg (ne_of_text htext hq)]

theorem IsReader.keeps {tool : Tool} (h : tool.IsReader) (s : Service) (args : Json)
    (now : Instant) (w : World MemoryStore) :
    (tool.work s args).Ends (backend now) w fun _ w' => w'.store = w.store := by
  refine (h s args).store_preserved (I := fun t => t = w.store) ?_ rfl
  rintro c t ⟨r, hr, hmay⟩ rfl
  exact hmay.store_of_read hr now _

theorem eq_of_name {tool tool' : Tool} (h : tool ∈ all) (h' : tool' ∈ all)
    (hname : tool.spec.name = tool'.spec.name) : tool = tool' := by
  have hnodup : names.Nodup := by decide
  exact List.inj_on_of_nodup_map hnodup h h' hname

theorem changer_confined {tool : Tool} (h : tool = writeFile ∨ tool = editFile ∨ tool = deleteFile)
    (s : Service) (args : Json) (now : Instant) (w : World MemoryStore) :
    (tool.work s args).Ends (backend now) w (Confined tool.spec.name args w.store) := by
  rcases h with rfl | rfl | rfl
  · exact writeFile_confined s args now w
  · exact editFile_confined s args now w
  · exact deleteFile_confined s args now w

theorem changer_of_canChange {tool : Tool} (h : tool ∈ all) (hcan : CanChange tool.spec.name args) :
    tool = writeFile ∨ tool = editFile ∨ tool = deleteFile := by
  rcases hcan with hname | hname | ⟨hname, -⟩
  · exact .inl (eq_of_name h (by simp [all]) hname)
  · exact .inr (.inr (eq_of_name h (by simp [all]) hname))
  · exact .inr (.inl (eq_of_name h (by simp [all]) hname))

/-- What a call by name leaves behind: the same store, or what `Confined` allows. -/
theorem call_confined (s : Service) (name : Text) (args : Json) (now : Instant)
    (w : World MemoryStore) :
    (call s name args).Ends (backend now) w fun reply w' =>
      (¬ CanChange name args ∧ w'.store = w.store) ∨ Confined name args w.store reply w' := by
  rcases call_cases s name args with ⟨tool, htool, rfl, hcall⟩ | ⟨why, hcall⟩
  · rw [hcall]
    by_cases hcan : CanChange tool.spec.name args
    · exact (changer_confined (changer_of_canChange htool hcan) s args now w).imp fun _ _ => .inr
    · rcases reader_or_changer htool with hreads | hchanger
      · exact (hreads.keeps s args now w).imp fun _ _ hstore => .inl ⟨hcan, hstore⟩
      · exact (changer_confined hchanger s args now w).imp fun _ _ => .inr
  · rw [hcall]
    exact .inr (.inl ⟨why, rfl, rfl⟩)

end Tool

/-- A call of a tool that fails leaves the store as it is, and so does one that is no write, delete
or real edit. Any other call has a path as its argument, and every other path keeps its bytes and
its entry. -/
theorem tool_call_footprint (s : Service) (name : Text) (args : Json) (now : Instant)
    (w : World MemoryStore) :
    let out := (Tool.call s name args).runWith (backend now) w
    (∀ why, out.1 = .error why → out.2.store = w.store) ∧
    (∀ text, out.1 = .ok text → ¬ Tool.CanChange name args → out.2.store = w.store) ∧
    (∀ text, out.1 = .ok text → Tool.CanChange name args →
      ∃ path, args.argument? "path" 0 = some (.text path) ∧
        ∀ p : Path, p.text ≠ path → out.2.store.cell p = w.store.cell p) := by
  intro out
  rcases Tool.call_confined s name args now w with
    ⟨hcannot, hstore⟩ | ⟨why, hwhy, hstore⟩ | ⟨text, path, htext, hpath, hstore⟩
  · exact ⟨fun _ _ => hstore, fun _ _ _ => hstore, fun _ _ hcan => absurd hcan hcannot⟩
  · refine ⟨fun _ _ => hstore, fun _ _ _ => hstore, fun _ htext => ?_⟩
    cases hwhy.symm.trans htext
  · refine ⟨fun _ hwhy => ?_, fun _ _ hcannot => ?_, fun _ _ _ => ⟨path, hpath, fun p hp => ?_⟩⟩
    · cases htext.symm.trans hwhy
    · exact hstore.resolve_right fun hcan => hcannot hcan.1
    · rcases hstore with hsame | ⟨-, hkept⟩
      · exact congrArg (·.cell p) hsame
      · exact hkept p hp

/-- Writing one file by a tool leaves the one beside it as it is. -/
theorem tool_call_footprint_of_write :
    let s : Service := ⟨.ofNamespaces [.workspace], {}⟩
    let p : Path := ⟨"/workspace/a", by decide⟩
    let q : Path := ⟨"/workspace/b", by decide⟩
    let store := (MemoryStore.empty.put ⟨0, 0⟩ p [1]).put ⟨0, 0⟩ q [2]
    let args : Json := .object [("content", .text "x"), ("path", .text p.text)]
    let out := (Tool.call s "write_file" args).runWith (backend ⟨1, 0⟩) ⟨store, ∅⟩
    out.1 = .ok "Successfully wrote 1 bytes to /workspace/a" ∧
      out.2.store.content.get? p = some [120] ∧ out.2.store.cell q = store.cell q := by
  intro s p q store args out
  have hreply : out.1 = .ok "Successfully wrote 1 bytes to /workspace/a" := by decide
  refine ⟨hreply, by decide, ?_⟩
  obtain ⟨path, hpath, hkept⟩ :=
    (tool_call_footprint s "write_file" args ⟨1, 0⟩ ⟨store, ∅⟩).2.2 _ hreply (.inl rfl)
  refine hkept q ?_
  cases hpath
  decide

end GrantFs
