import GrantFs.Cli
import GrantFs.Proofs.OpenedStore
import GrantFs.Proofs.Sessions

/-! # Runs of the command line

Each run reads the settings, opens the store and answers one command. Main statement: runs with the
same settings and the same root, one after the other, print and leave what the calls of one session
do that has opened the store once. -/
namespace GrantFs

def Settings.rootedAt (s : Settings) (base : Text) : Settings :=
  { s with storage := .disk (.persistent base) }

namespace Settings

open OsTree

variable {loaded : Settings} {base config : Text} {now : Instant} {t u : OsTree} {d : DiskStore}

theorem exec_service (hvalid : loaded.validate = .ok ())
    (hopen : t.exec now (DiskStore.open (.persistent base)) = (.ok d, u)) :
    t.exec now (loaded.rootedAt base).service =
      (.ok (⟨loaded.handle, loaded.policy⟩, ⟨.disk d, ∅⟩), u) := by
  have hmount : t.exec now (loaded.rootedAt base).mount = (.ok (.disk d), u) :=
    exec_bind_ok hopen _
  have hchecked : t.exec now (liftM (loaded.rootedAt base).validate) = (.ok (), t) :=
    congrArg (·, t) hvalid
  rw [service, exec_bind_ok hchecked, exec_bind_ok hmount]
  rfl

theorem exec_service_eq_ok {service : Service} {session : Session}
    (h : t.exec now (loaded.rootedAt base).service = (.ok (service, session), u)) :
    loaded.validate = .ok () ∧ service = ⟨loaded.handle, loaded.policy⟩ ∧
      ∃ d, session = ⟨.disk d, ∅⟩ ∧
        t.exec now (DiskStore.open (.persistent base)) = (.ok d, u) := by
  obtain ⟨_, v, hchecked, hrest⟩ := exec_bind_eq_ok h
  rw [exec_check] at hchecked
  obtain ⟨hvalid, rfl⟩ := Prod.mk.inj hchecked
  obtain ⟨mounted, w, hmount, hdone⟩ := exec_bind_eq_ok hrest
  obtain ⟨d, w', hopen, hdisk⟩ := exec_bind_eq_ok hmount
  cases hdisk
  cases hdone
  exact ⟨hvalid, rfl, d, rfl, hopen⟩

theorem exec_load_again {blank : Settings} (hnodes : ∀ q n, t.get? q = some n → u.get? q = some n)
    (h : (t.exec now (Settings.load blank config)).1 = .ok loaded) (later : Instant) :
    u.exec later (Settings.load blank config) = (.ok loaded, u) := by
  rw [load, exec_bind_program, run_ask] at h
  rw [load, exec_bind_program, run_ask]
  cases hread : (answer now [] (.read config) t).1 with
  | error why =>
    rw [hread] at h
    cases h
  | ok data =>
    have hagain : answer later [] (.read config) u = (.ok data, u) := by
      change (do checkLocation config; t.read (namesOf config)) = .ok data at hread
      show (do checkLocation config; u.read (namesOf config), u) = (.ok data, u)
      cases hfits : checkLocation config with
      | error why =>
        rw [hfits] at hread
        cases hread
      | ok _ =>
        rw [hfits] at hread
        exact congrArg (·, u) (read_of_nodes hnodes hread)
    rw [hread, exec_bind, exec_check] at h
    rw [hagain, exec_bind, exec_check]
    cases htext : fileText config (.ok data) with
    | error why =>
      rw [htext] at h
      cases h
    | ok text =>
      rw [htext] at h
      exact congrArg (·, u) h

end Settings

namespace Cli

open OsTree Os

structure Turn where
  args : List Text
  command : Command
  time : Instant
  input : Bytes

/-- The arguments name the settings file, the root and the command. -/
def Turn.Gives (turn : Turn) (config base : Text) : Prop :=
  parse turn.args = .ok ⟨some config, some base, turn.command⟩

def outcomeOf : Except Trouble Text → Outcome
  | .ok t => ⟨0, t ++ "\n", []⟩
  | .error why => ⟨1, [], why.report⟩

/-- The runs, each on the tree that the one before has left. -/
def runAll (s : Surroundings) : List Turn → OsTree → List Outcome × OsTree
  | [], t => ([], t)
  | turn :: rest, t =>
    let (outcome, t) := t.runReading turn.time turn.input (run s turn.args)
    let (outcomes, t) := runAll s rest t
    (outcome :: outcomes, t)

/-- A command in a session: the call of a tool, if it comes to one. -/
def serve (service : Service) (session : Session) (c : Command) :
    OsProgram (Except Trouble Text × Session) :=
  if c = .tools then pure (.ok schemas, session)
  else do
    match ← (toolCall c).run with
    | .error why => pure (.error why, session)
    | .ok (tool, args) => do
      let (reply, session) ← session.run (Tool.call service tool args)
      pure (reply.mapError .ofFault, session)

/-- The commands of the same turns in one session. -/
def serveAll (service : Service) : List Turn → Session → OsTree → List Outcome × OsTree
  | [], _, t => ([], t)
  | turn :: rest, session, t =>
    let ((result, session), t) :=
      t.runReading turn.time turn.input (serve service session turn.command)
    let (outcomes, t) := serveAll service rest session t
    (outcomeOf result :: outcomes, t)

variable {s : Surroundings} {config base : Text} {loaded : Settings} {service : Service}
  {session : Session} {now : Instant} {input : Bytes} {t u v : OsTree} {c : Command}

theorem run_eq {args : List Text} {i : Invocation} (h : parse args = .ok i) :
    run s args = (perform s i).run >>= fun result => pure (outcomeOf result) := by
  rw [run, h]
  refine bind_congr fun result => ?_
  cases result <;> rfl

theorem runReading_plainly {α : Type} {x : OsAction α} {r : Except Fault α}
    (h : t.runReading now input x.run = (r, u)) :
    t.runReading now input (plainly x).run = (r.mapError .ofFault, u) := by
  refine (runReading_bind x.run _).trans ?_
  rw [h]
  cases r <;> rfl

theorem runReading_during {α : Type} {x : OsAction α} {a : α} (context : Text)
    (h : t.runReading now input x.run = (.ok a, u)) :
    t.runReading now input (during context x).run = (.ok a, u) := by
  refine (runReading_bind x.run _).trans ?_
  rw [h]
  rfl

theorem runReading_settings
    (hload : t.exec now (Settings.load (.defaults s) config) = (.ok loaded, t)) :
    t.runReading now input (settings s ⟨some config, some base, c⟩).run =
      (.ok (loaded.rootedAt base), t) := by
  have hread := (Settings.noInput_load (.defaults s) config).run_eq now input t
  exact runReading_bind_ok (runReading_during _ (hread.trans hload)) _

theorem runReading_perform
    (hload : t.exec now (Settings.load (.defaults s) config) = (.ok loaded, t))
    (hservice : t.exec now (loaded.rootedAt base).service = (.ok (service, session), u)) :
    t.runReading now input (perform s ⟨some config, some base, c⟩).run =
      u.runReading now input (output service session c).run := by
  have hopened := (loaded.rootedAt base).noInput_service.run_eq now input t
  rw [perform, runReading_bind_ok (runReading_settings hload),
    runReading_bind_ok (runReading_plainly (hopened.trans hservice))]

theorem runReading_output :
    t.runReading now input (output service session c).run =
      let ((result, _), u) := t.runReading now input (serve service session c)
      (result, u) := by
  rw [output, serve]
  by_cases htools : c = .tools
  · rw [if_pos htools, if_pos htools]
    rfl
  · rw [if_neg htools, if_neg htools, runReading_bind]
    rcases hcall : t.runReading now input (toolCall c).run with ⟨why | ⟨tool, args⟩, u⟩
    · rw [runReading_bind_error hcall]
      rfl
    · rw [runReading_bind_ok hcall]
      simp only
      rcases hrun : u.runReading now input (session.run (Tool.call service tool args)) with
        ⟨⟨reply, session'⟩, v⟩
      rw [runReading_bind, hrun]
      apply runReading_plainly
      refine (runReading_bind _ _).trans ?_
      rw [hrun]
      rfl

theorem runReading_run {args : List Text} (hgives : parse args = .ok ⟨some config, some base, c⟩)
    (hload : t.exec now (Settings.load (.defaults s) config) = (.ok loaded, t))
    (hservice : t.exec now (loaded.rootedAt base).service = (.ok (service, session), u)) :
    t.runReading now input (run s args) =
      let ((result, _), v) := u.runReading now input (serve service session c)
      (outcomeOf result, v) := by
  rw [run_eq hgives, runReading_bind, runReading_perform hload hservice, runReading_output]
  rfl

theorem contentOf_store (now : Instant) (input : Bytes) (t : OsTree) (content : Option Text) :
    ∃ r, t.runReading now input (contentOf content).run = (r, t) := by
  cases content with
  | some content => exact ⟨.ok content, rfl⟩
  | none =>
    have hread : t.runReading now input (liftM (Os.ask .input) : Task Bytes).run =
        (.ok input, t) := rfl
    rw [contentOf, runReading_bind_ok hread]
    cases Utf8.decode input <;> exact ⟨_, rfl⟩

theorem toolCall_store (now : Instant) (input : Bytes) (t : OsTree) (c : Command) :
    (t.runReading now input (toolCall c).run).2 = t := by
  cases c with
  | write path content =>
    obtain ⟨r, hread⟩ := contentOf_store now input t content
    rw [toolCall]
    cases r with
    | ok content =>
      rw [runReading_bind_ok hread]
      rfl
    | error why => rw [runReading_bind_error hread]
  | edit path olds news dryRun =>
    rw [toolCall]
    split <;> rfl
  | call tool args =>
    rw [toolCall]
    split <;> rfl
  | _ => rfl

variable {t₀ : OsTree} {d : DiskStore} {place : Place} {namespaces : List Namespace}

/-- One command in a session on an opened store: what it gives and leaves does not depend on the
index, the session stays on its disk, and the store stays as it was opened. -/
theorem serve_disk (hf : d.Founded base t₀ u place) (hk : DiskStore.Kept t₀ u t)
    (service : Service) (hhandle : service.handle = .ofNamespaces namespaces) (now : Instant)
    (input : Bytes) (c : Command) :
    ∃ result v, DiskStore.Kept t₀ u v ∧ ∀ index, ∃ index',
      t.runReading now input (serve service (Session.mk (.disk d) index) c) =
        ((result, Session.mk (.disk d) index'), v) := by
  by_cases htools : c = .tools
  · refine ⟨.ok schemas, t, hk, fun index => ⟨index, ?_⟩⟩
    rw [serve, if_pos htools]
    rfl
  · have hstore := toolCall_store now input t c
    rcases hcall : t.runReading now input (toolCall c).run with ⟨why | ⟨tool, args⟩, v⟩
    · rw [hcall] at hstore
      obtain rfl : v = t := hstore
      refine ⟨.error why, v, hk, fun index => ⟨index, ?_⟩⟩
      rw [serve, if_neg htools, runReading_bind, hcall]
      rfl
    · rw [hcall] at hstore
      obtain rfl : v = t := hstore
      have hasks := Tool.call_asks service tool args
      rw [hhandle] at hasks
      have hkept := hf.action hk now ∅ hasks
      rcases hrenewed : (Tool.call service tool args).runWith (d.backend now) ⟨v, ∅⟩ with ⟨reply, w⟩
      rw [hrenewed] at hkept
      refine ⟨reply.mapError .ofFault, w.store, hkept, fun index => ?_⟩
      obtain ⟨index', hrun⟩ := Session.run_call service tool args d now input v index
      rw [hrenewed] at hrun
      refine ⟨index', ?_⟩
      rw [serve, if_neg htools, runReading_bind, hcall]
      simp only
      rw [runReading_bind, hrun]
      rfl

/-- One run that opens the store, and its command in a session on that store: they come to the same
reply and the same tree, and the store stays as it was opened. -/
theorem run_serves (hf : d.Founded base t₀ u place) {turn : Turn} (hgives : turn.Gives config base)
    (hload : t.exec turn.time (Settings.load (.defaults s) config) = (.ok loaded, t))
    (hservice : t.exec turn.time (loaded.rootedAt base).service =
      (.ok (⟨loaded.handle, loaded.policy⟩, ⟨.disk d, ∅⟩), v))
    (hk : DiskStore.Kept t₀ u v) (index : Snapshot) :
    ∃ result w index', DiskStore.Kept t₀ u w ∧
      t.runReading turn.time turn.input (run s turn.args) = (outcomeOf result, w) ∧
      v.runReading turn.time turn.input (serve ⟨loaded.handle, loaded.policy⟩
          (Session.mk (.disk d) index) turn.command) =
        ((result, Session.mk (.disk d) index'), w) := by
  obtain ⟨result, w, hw, hserve⟩ := serve_disk hf hk ⟨loaded.handle, loaded.policy⟩ rfl
    turn.time turn.input turn.command
  obtain ⟨_, hnew⟩ := hserve ∅
  obtain ⟨index', hkept⟩ := hserve index
  refine ⟨result, w, index', hw, ?_, hkept⟩
  rw [runReading_run hgives hload hservice, hnew]

/-- Runs on a store that has been opened are the commands of a session on it, whatever its index. -/
theorem runAll_eq (hf : d.Founded base t₀ u place) (hvalid : loaded.validate = .ok ())
    (hload : (t₀.exec now (Settings.load (.defaults s) config)).1 = .ok loaded)
    {turns : List Turn} (hgives : ∀ turn ∈ turns, turn.Gives config base)
    (hk : DiskStore.Kept t₀ u t) (index : Snapshot) :
    runAll s turns t =
      serveAll ⟨loaded.handle, loaded.policy⟩ turns (Session.mk (.disk d) index) t := by
  induction turns generalizing t index with
  | nil => rfl
  | cons turn rest ih =>
    obtain ⟨result, v, index', hv, hrun, hserve⟩ :=
      run_serves hf (hgives turn List.mem_cons_self)
        (Settings.exec_load_again hk.nodes hload turn.time)
        (Settings.exec_service hvalid (hf.exec_open hk turn.time)) hk index
    rw [runAll, serveAll, hrun, hserve]
    simp only
    rw [ih (fun turn hturn => hgives turn (List.mem_cons_of_mem _ hturn)) hv index']

/-- Runs of the command line with a settings file that loads and a root whose directory held nothing
behave as one session: each prints, or fails with, what the call of its command replies in a session
on a store that has been opened once, and the tree is the same in the end. When it is opened, no
directory on the way to the root may come to lie in the workspace. -/
theorem runs_are_one_session {first : Turn} {rest : List Turn}
    (hgives : ∀ turn ∈ first :: rest, turn.Gives config base)
    (hload : (t₀.exec first.time (Settings.load (.defaults s) config)).1 = .ok loaded)
    (hservice : t₀.exec first.time (loaded.rootedAt base).service = (.ok (service, session), u))
    (hplace : u.Leads (namesOf base) place)
    (hbefore : ∀ names, names ≠ [] → t₀.get? (place ++ names) = none)
    (hworkspace : ∀ names, names ≠ [] →
      u.get? (place ++ [Utf8.encode Namespace.workspace.name] ++ names) = none) :
    runAll s (first :: rest) t₀ = serveAll service (first :: rest) session u := by
  obtain ⟨hvalid, rfl, d, rfl, hopen⟩ := Settings.exec_service_eq_ok hservice
  obtain ⟨hf, hk⟩ := DiskStore.founded_of_open hopen hplace hbefore hworkspace
  obtain ⟨result, v, index', hv, hrun, hserve⟩ :=
    run_serves hf (hgives first List.mem_cons_self)
      (Settings.exec_load_again (fun _ _ hn => hn) hload first.time) hservice hk ∅
  rw [runAll, serveAll, hrun, hserve]
  simp only
  rw [runAll_eq hf hvalid hload (fun turn hturn => hgives turn (List.mem_cons_of_mem _ hturn)) hv
    index']

/-- Three runs on a new root: a file is written, deleted, and the workspace is listed. -/
theorem runs_are_one_session_of_write_and_rm :
    let t := OsTree.empty.put [Utf8.encode "settings.json"]
      (.file (Utf8.encode "\x7b\x7d") ⟨0, 0⟩)
    let s : Surroundings := ⟨"/home", none, none⟩
    let options (command : List Text) : List Text :=
      "--config" :: "/settings.json" :: "--root" :: "/data" :: command
    let write : Turn := ⟨options ["write", "/workspace/sub/f", "x"],
      .write "/workspace/sub/f" (some "x"), ⟨0, 0⟩, []⟩
    let rm : Turn := ⟨options ["rm", "/workspace/sub/f"], .rm "/workspace/sub/f", ⟨1, 0⟩, []⟩
    let ls : Turn := ⟨options ["ls", "/workspace/"], .ls "/workspace/", ⟨2, 0⟩, []⟩
    let d : DiskStore := ⟨"/data/internal", "/data/userinput", "/data/workspace"⟩
    let opened := t.exec ⟨0, 0⟩ (DiskStore.open (.persistent "/data"))
    let runs := runAll s [write, rm, ls] t
    opened.1 = .ok d ∧
      runs.1 = [⟨0, "Successfully wrote 1 bytes to /workspace/sub/f\n", []⟩,
        ⟨0, "Deleted /workspace/sub/f\n", []⟩, ⟨0, "(empty directory)\n", []⟩] ∧
      runs = serveAll ⟨(Settings.defaults s).handle, (Settings.defaults s).policy⟩
        [write, rm, ls] ⟨.disk d, ∅⟩ opened.2 := by
  intro t s options write rm ls d opened runs
  have hopened : opened.1 = .ok d := by decide +kernel
  have hopen : t.exec ⟨0, 0⟩ (DiskStore.open (.persistent "/data")) = (.ok d, opened.2) := by
    rw [← hopened]
  have hplace : opened.2.Leads (namesOf "/data") [Utf8.encode "data"] := by
    constructor <;> decide +kernel
  have hprinted : runs.1 = [⟨0, "Successfully wrote 1 bytes to /workspace/sub/f\n", []⟩,
      ⟨0, "Deleted /workspace/sub/f\n", []⟩, ⟨0, "(empty directory)\n", []⟩] := by
    decide +kernel
  have hgives : ∀ turn ∈ [write, rm, ls], turn.Gives "/settings.json" "/data" := by
    unfold Turn.Gives
    decide +kernel
  have hload : (t.exec ⟨0, 0⟩ (Settings.load (.defaults s) "/settings.json")).1 =
      .ok (.defaults s) := by decide +kernel
  have hbefore : ∀ names, names ≠ [] → t.get? ([Utf8.encode "data"] ++ names) = none := by
    exact below_eq_nil.mp (by decide +kernel)
  have hvalid : (Settings.defaults s).validate = .ok () := by decide +kernel
  clear_value opened
  refine ⟨hopened, hprinted, runs_are_one_session hgives hload
    (Settings.exec_service hvalid hopen) hplace hbefore ?_⟩
  intro names hne
  exact DiskStore.workspace_empty_of_no_dotDot hopen hplace hbefore (by decide) hne

/-- A root on the way to which one goes into the workspace and out again: deleting the only file
there takes that directory away, and the session finds its store no more, while the next run makes
the way anew. -/
theorem session_loses_way_through_workspace :
    let t := OsTree.empty.put [Utf8.encode "settings.json"]
      (.file (Utf8.encode "\x7b\x7d") ⟨0, 0⟩)
    let s : Surroundings := ⟨"/home", none, none⟩
    let base : Text := "/a/workspace/sub/../.."
    let options (command : List Text) : List Text :=
      "--config" :: "/settings.json" :: "--root" :: base :: command
    let write : Turn := ⟨options ["write", "/workspace/sub/f", "x"],
      .write "/workspace/sub/f" (some "x"), ⟨0, 0⟩, []⟩
    let rm : Turn := ⟨options ["rm", "/workspace/sub/f"], .rm "/workspace/sub/f", ⟨1, 0⟩, []⟩
    let ls : Turn := ⟨options ["ls", "/workspace/"], .ls "/workspace/", ⟨2, 0⟩, []⟩
    let d : DiskStore := ⟨base ++ "/internal", base ++ "/userinput", base ++ "/workspace"⟩
    let opened := t.exec ⟨0, 0⟩ (DiskStore.open (.persistent base))
    let runs := runAll s [write, rm, ls] t
    let served := serveAll ⟨(Settings.defaults s).handle, (Settings.defaults s).policy⟩
      [write, rm, ls] ⟨.disk d, ∅⟩ opened.2
    (∀ turn ∈ [write, rm, ls], turn.Gives "/settings.json" base) ∧
      (t.exec ⟨0, 0⟩ (Settings.load (.defaults s) "/settings.json")).1 = .ok (.defaults s) ∧
      opened.1 = .ok d ∧ opened.2.Leads (namesOf base) [Utf8.encode "a"] ∧
      t.below [Utf8.encode "a"] = [] ∧
      runs.1 = [⟨0, "Successfully wrote 1 bytes to /workspace/sub/f\n", []⟩,
        ⟨0, "Deleted /workspace/sub/f\n", []⟩, ⟨0, "(empty directory)\n", []⟩] ∧
      served.1 = [⟨0, "Successfully wrote 1 bytes to /workspace/sub/f\n", []⟩,
        ⟨0, "Deleted /workspace/sub/f\n", []⟩,
        ⟨1, [], "Error: IO error: No such file or directory (os error 2)\n\nCaused by:\n" ++
          "    No such file or directory (os error 2)\n"⟩] ∧
      runs ≠ served := by
  intro t s base options write rm ls d opened runs served
  have hgives : ∀ turn ∈ [write, rm, ls], turn.Gives "/settings.json" base := by
    unfold Turn.Gives
    decide +kernel
  have hplace : opened.2.Leads (namesOf base) [Utf8.encode "a"] := by
    constructor <;> decide +kernel
  have hruns : runs.1 = [⟨0, "Successfully wrote 1 bytes to /workspace/sub/f\n", []⟩,
      ⟨0, "Deleted /workspace/sub/f\n", []⟩, ⟨0, "(empty directory)\n", []⟩] := by
    decide +kernel
  have hserved : served.1 = [⟨0, "Successfully wrote 1 bytes to /workspace/sub/f\n", []⟩,
      ⟨0, "Deleted /workspace/sub/f\n", []⟩,
      ⟨1, [], "Error: IO error: No such file or directory (os error 2)\n\nCaused by:\n" ++
        "    No such file or directory (os error 2)\n"⟩] := by
    decide +kernel
  refine ⟨hgives, by decide +kernel, by decide +kernel, hplace,
    by decide +kernel, hruns, hserved, ?_⟩
  clear_value runs served
  rintro rfl
  rw [hruns] at hserved
  exact absurd hserved (by decide)

end Cli
end GrantFs
