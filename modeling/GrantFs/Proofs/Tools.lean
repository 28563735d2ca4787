import GrantFs.Proofs.Request
import GrantFs.Tool

/-! # What tools ask

Whatever a tool is given, all that it asks its backend it asks by whole requests to the handle of
its service, and nine of the twelve tools make reading requests alone. Main statement: so a call by
name, and thus every sequence of calls, asks only what requests to that handle may ask. -/
namespace GrantFs

/-- The action comes to requests to the handle, all of the given kind, one after the other. -/
inductive Handle.Makes (h : Handle) (P : Request → Prop) : {α : Type} → Action α → Prop where
  | result {α : Type} (e : Except Fault α) : Makes h P (liftM e : Action α)
  | request {α : Type} (r : Request) (f : Except Fault r.Reply → Action α) : P r →
      (∀ reply, Makes h P (f reply)) → Makes h P (Action.outcome (h.fulfil r) >>= f)

namespace Handle

variable {h : Handle} {P Q : Request → Prop} {α β : Type}

theorem makes_pure (a : α) : h.Makes P (pure a) := .result (.ok a)

theorem makes_throw (why : Fault) : h.Makes P (throw why : Action α) := .result (.error why)

theorem makes_check {e : Except Fault α} {f : α → Action β} (hf : ∀ a, h.Makes P (f a)) :
    h.Makes P (liftM e >>= f : Action β) := by
  cases e with
  | ok a => exact hf a
  | error why => exact .result (.error why)

theorem makes_fulfil {r : Request} (hr : P r) : h.Makes P (h.fulfil r) := by
  have hparts : (Action.outcome (h.fulfil r) >>= fun reply => liftM reply) = h.fulfil r := by
    apply ExceptT.ext
    rw [Action.run_outcome_bind]
    exact Program.bind_done _
  rw [← hparts]
  exact .request r _ hr .result

theorem makes_reading (r : Request) (hr : r.isRead = true) :
    h.Makes (·.isRead = true) (h.fulfil r) := makes_fulfil hr

theorem makes_any (r : Request) : h.Makes (fun _ => True) (h.fulfil r) := makes_fulfil trivial

theorem Makes.mono (hPQ : ∀ r, P r → Q r) {x : Action α} (hx : h.Makes P x) : h.Makes Q x := by
  induction hx with
  | result e => exact .result e
  | request r f hr _ ih => exact .request r f (hPQ r hr) ih

theorem Makes.bind {x : Action α} {f : α → Action β} (hx : h.Makes P x)
    (hf : ∀ a, h.Makes P (f a)) : h.Makes P (x >>= f) := by
  induction hx with
  | result e => exact makes_check hf
  | request r g hr _ ih =>
    rw [bind_assoc]
    exact .request r _ hr ih

theorem Makes.outcome {x : Action α} (hx : h.Makes P x) : h.Makes P (Action.outcome x) := by
  induction hx with
  | result e => exact makes_pure e
  | request r f hr _ ih =>
    have hparts : Action.outcome (Action.outcome (h.fulfil r) >>= f) =
        Action.outcome (h.fulfil r) >>= fun reply => Action.outcome (f reply) := by
      apply ExceptT.ext
      rw [Action.run_outcome_bind]
      show (Action.outcome (h.fulfil r) >>= f).run.bind _ = _
      rw [Action.run_outcome_bind]
      exact Program.bind_assoc ..
    rw [hparts]
    exact .request r _ hr ih

theorem Makes.asks {M : Call → Prop} {x : Action α} (hx : h.Makes P x)
    (hP : ∀ r, P r → ∀ c, h.MayCall r c → M c) : x.Asks (Access.Within M) := by
  induction hx with
  | result e => trivial
  | request r f hr _ ih => exact ((h.fulfil_asks r).within_mono (hP r hr)).outcome.bind ih

end Handle

namespace Service

variable (s : Service)

theorem readTextFile_makes (path : Text) (startLine : Nat) (readLines : Option Nat) :
    s.handle.Makes (·.isRead = true) (s.readTextFile path startLine readLines) := by
  apply Handle.makes_check
  intro p
  have hread : ∀ index, s.handle.Makes (·.isRead = true)
      (s.handle.readText p.text index readLines >>= fun t =>
        pure (s.policy.applyLimits t)) := by
    intro index
    exact (Handle.makes_reading (.file p.text (.readText index readLines)) rfl).bind fun t =>
      Handle.makes_pure _
  by_cases hstart : startLine = 0
  · rw [if_pos hstart]
    exact (Handle.makes_throw _).bind fun _ => hread _
  · rw [if_neg hstart]
    exact hread _

theorem readMultipleFiles_makes (paths : List Text) :
    s.handle.Makes (·.isRead = true) (s.readMultipleFiles paths) := by
  induction paths with
  | nil => exact Handle.makes_pure _
  | cons path rest ih =>
    apply (s.readTextFile_makes path 1 none).outcome.bind
    intro outcome
    exact ih.bind fun items => Handle.makes_pure _

theorem fileInfo_makes (path : Text) :
    s.handle.Makes (·.isRead = true) (s.fileInfo path) :=
  (Handle.makes_reading (.file path .inspect) rfl).bind fun _ => Handle.makes_pure _

theorem readMediaFile_makes (path : Text) :
    s.handle.Makes (·.isRead = true) (s.readMediaFile path) := by
  apply Handle.makes_check
  intro p
  exact (Handle.makes_reading (.file p.text .readBytes) rfl).bind fun _ => Handle.makes_pure _

theorem listUnder_makes (path : Text) :
    s.handle.Makes (·.isRead = true) (s.listUnder path) := by
  apply Handle.makes_check
  intro p
  exact (Handle.makes_reading (.list (some p.asDir.text)) rfl).bind fun _ =>
    Handle.makes_pure _

theorem searchFiles_makes (path pattern : Text) (excludes : List Text) :
    s.handle.Makes (·.isRead = true) (s.searchFiles path pattern excludes) := by
  apply (s.listUnder_makes path).bind
  intro under
  exact Handle.makes_check fun excludes => Handle.makes_pure _

theorem writeFile_makes (path content : Text) :
    s.handle.Makes (fun _ => True) (s.writeFile path content) := by
  apply Handle.makes_check
  intro p
  apply Handle.makes_check
  intro _
  exact Handle.makes_any (.file p.text (.write (Utf8.encode content) true))

theorem deleteFile_makes (path : Text) :
    s.handle.Makes (fun _ => True) (s.deleteFile path) := by
  apply Handle.makes_check
  intro p
  apply Handle.makes_check
  intro _
  exact Handle.makes_any (.file p.text .delete)

theorem editFile_makes (path : Text) (edits : List Edit) (dryRun : Bool) :
    s.handle.Makes (fun _ => True) (s.editFile path edits dryRun) := by
  apply Handle.makes_check
  intro p
  apply Handle.makes_check
  intro _
  apply (Handle.makes_any (.file p.text .readBytes)).bind
  intro data
  apply Handle.makes_check
  intro original
  apply Handle.makes_check
  intro modified
  by_cases hdry : dryRun = true
  · rw [if_pos hdry]
    exact Handle.makes_pure _
  · rw [if_neg hdry]
    by_cases hchanged : modified ≠ original
    · rw [if_pos hchanged]
      exact (Handle.makes_any (.file p.text (.write (Utf8.encode modified) true))).bind fun _ =>
        Handle.makes_pure _
    · rw [if_neg hchanged]
      exact Handle.makes_pure _

end Service

namespace Tool

def IsReader (tool : Tool) : Prop :=
  ∀ s args, (tool.work s args).Asks (Access.Within s.handle.MayRead)

/-- Whatever it is given, the tool makes requests of the given kind to the handle. -/
def Makes (tool : Tool) (P : Request → Prop) : Prop :=
  ∀ (s : Service) args, s.handle.Makes P (tool.work s args)

theorem ofArgs_makes {α : Type} {P : Request → Prop} {spec : ToolSpec} {decoder : Json.Decoder α}
    {work : Service → α → Action Text} (h : ∀ (s : Service) a, s.handle.Makes P (work s a)) :
    (ofArgs spec decoder work).Makes P := fun s _ => Handle.makes_check (h s)

theorem readTextFile_makes : readTextFile.Makes (·.isRead = true) :=
  ofArgs_makes fun s _ => Handle.makes_check fun _ => Handle.makes_check fun _ =>
    s.readTextFile_makes _ _ _

theorem readMultipleFiles_makes : readMultipleFiles.Makes (·.isRead = true) :=
  ofArgs_makes fun s paths => (s.readMultipleFiles_makes paths).bind fun _ => Handle.makes_pure _

theorem listDirectory_makes : listDirectory.Makes (·.isRead = true) :=
  ofArgs_makes fun s path => ((s.listUnder_makes path).bind fun _ => Handle.makes_pure _).bind
    fun _ => Handle.makes_pure _

theorem listDirectoryWithSizes_makes : listDirectoryWithSizes.Makes (·.isRead = true) :=
  ofArgs_makes fun s args => ((s.listUnder_makes args.path).bind fun _ => Handle.makes_pure _).bind
    fun _ => Handle.makes_pure _

theorem directoryTree_makes : directoryTree.Makes (·.isRead = true) :=
  ofArgs_makes fun s path => ((s.listUnder_makes path).bind fun _ => Handle.makes_pure _).bind
    fun _ => Handle.makes_pure _

theorem searchFiles_makes : searchFiles.Makes (·.isRead = true) :=
  ofArgs_makes fun s args => (s.searchFiles_makes args.path args.pattern args.excludes).bind
    fun _ => Handle.makes_pure _

theorem fileInfo_makes : fileInfo.Makes (·.isRead = true) :=
  ofArgs_makes fun s path => (s.fileInfo_makes path).bind fun _ => Handle.makes_pure _

theorem allowedDirectories_makes : allowedDirectories.Makes (·.isRead = true) :=
  ofArgs_makes fun _ _ => Handle.makes_pure _

theorem readMediaFile_makes : readMediaFile.Makes (·.isRead = true) :=
  ofArgs_makes fun s path => (s.readMediaFile_makes path).bind fun _ => Handle.makes_pure _

theorem writeFile_makes : writeFile.Makes fun _ => True :=
  ofArgs_makes fun s args => (s.writeFile_makes args.path args.content).bind
    fun _ => Handle.makes_pure _

theorem editFile_makes : editFile.Makes fun _ => True :=
  ofArgs_makes fun s args => (s.editFile_makes args.path args.edits args.dryRun).bind
    fun _ => Handle.makes_pure _

theorem deleteFile_makes : deleteFile.Makes fun _ => True :=
  ofArgs_makes fun s path => (s.deleteFile_makes path).bind fun _ => Handle.makes_pure _

theorem makes_reads_or_changer {tool : Tool} (h : tool ∈ all) :
    tool.Makes (·.isRead = true) ∨ tool = writeFile ∨ tool = editFile ∨ tool = deleteFile := by
  simp only [all, List.mem_cons, List.not_mem_nil, or_false] at h
  rcases h with rfl | rfl | rfl | rfl | rfl | rfl | rfl | rfl | rfl | rfl | rfl | rfl
  · exact .inr (.inr (.inr rfl))
  · exact .inl directoryTree_makes
  · exact .inr (.inr (.inl rfl))
  · exact .inl fileInfo_makes
  · exact .inl allowedDirectories_makes
  · exact .inl listDirectory_makes
  · exact .inl listDirectoryWithSizes_makes
  · exact .inl readMediaFile_makes
  · exact .inl readMultipleFiles_makes
  · exact .inl readTextFile_makes
  · exact .inl searchFiles_makes
  · exact .inr (.inl rfl)

theorem reader_or_changer {tool : Tool} (h : tool ∈ all) :
    tool.IsReader ∨ tool = writeFile ∨ tool = editFile ∨ tool = deleteFile := by
  apply (makes_reads_or_changer h).imp_left
  intro hmakes s args
  exact (hmakes s args).asks fun r hr c hc => ⟨r, hr, hc⟩

theorem all_make {tool : Tool} (h : tool ∈ all) : tool.Makes fun _ => True := by
  rcases makes_reads_or_changer h with hreads | rfl | rfl | rfl
  · exact fun s args => (hreads s args).mono fun _ _ => trivial
  · exact writeFile_makes
  · exact editFile_makes
  · exact deleteFile_makes

theorem call_cases (s : Service) (name : Text) (args : Json) :
    (∃ tool ∈ all, tool.spec.name = name ∧ call s name args = tool.work s args) ∨
      ∃ why, call s name args = throw why := by
  rw [call]
  cases hfound : find? name with
  | none => exact .inr ⟨_, rfl⟩
  | some tool =>
    exact .inl ⟨tool, List.mem_of_find?_eq_some hfound, by simpa using List.find?_some hfound, rfl⟩

theorem call_makes (s : Service) (name : Text) (args : Json) :
    s.handle.Makes (fun _ => True) (call s name args) := by
  rcases call_cases s name args with ⟨tool, htool, -, hcall⟩ | ⟨why, hcall⟩
  · rw [hcall]
    exact all_make htool s args
  · rw [hcall]
    exact Handle.makes_throw why

theorem call_asks (s : Service) (name : Text) (args : Json) :
    (call s name args).Asks (Access.Within s.handle.MayDo) :=
  (call_makes s name args).asks fun r _ _ hc => ⟨r, hc⟩

end Tool

/-- A call of a tool and the time at which it is made. A call stores at most one file, so it reads
the clock at most once. -/
structure ToolCall where
  name : Text
  args : Json
  time : Instant

def Service.callAll {σ : Type} (s : Service) (b : Instant → Backend σ) :
    List ToolCall → World σ → List (Except Fault Text) × World σ
  | [], w => ([], w)
  | c :: rest, w =>
    let (reply, w) := (Tool.call s c.name c.args).runWith (b c.time) w
    let (replies, w) := s.callAll b rest w
    (reply :: replies, w)

theorem Service.callAll_append {σ : Type} (s : Service) (b : Instant → Backend σ)
    (earlier later : List ToolCall) (w : World σ) :
    (s.callAll b (earlier ++ later) w).2 = (s.callAll b later (s.callAll b earlier w).2).2 := by
  induction earlier generalizing w with
  | nil => rfl
  | cons c rest ih => exact ih _

end GrantFs
