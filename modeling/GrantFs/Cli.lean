import GrantFs.Cli.Command
import GrantFs.Mount
import GrantFs.Tool

/-! # The command line

One command is one call of a tool on the service that the settings describe. A failure is reported
with its causes, the outermost first.
-/
namespace GrantFs.Cli

structure Trouble where
  message : Text
  causes : List Text
deriving DecidableEq, Repr

namespace Trouble

def ofFault (why : Fault) : Trouble := ⟨why.message, why.cause?.toList⟩

def within (context : Text) (t : Trouble) : Trouble := ⟨context, t.message :: t.causes⟩

/-- A cause with its further lines indented; of several causes each has its number. -/
def causeText (numbered : Bool) (i : Nat) (cause : Text) : Text :=
  let start := if numbered then Text.padLeft 5 (Text.decimal i) ++ ": " else "    "
  let indent : Text := if numbered then "\n       " else "\n    "
  '\n' :: start ++ Text.joinWith indent (Text.split '\n' cause)

def report (t : Trouble) : Text :=
  let numbered := 1 < t.causes.length
  let heading : Text := if t.causes = [] then [] else "\n\nCaused by:"
  let causes := (t.causes.mapIdx (causeText numbered)).flatten
  "Error: " ++ t.message ++ heading ++ causes ++ "\n"

end Trouble

structure Outcome where
  code : Nat
  stdout : Text
  stderr : Text
deriving DecidableEq, Repr

abbrev Task (α : Type) := ExceptT Trouble (Program OsCall.signature) α

def plainly {α : Type} (x : OsAction α) : Task α :=
  ExceptT.mk do
    match ← x.run with
    | .ok a => pure (.ok a)
    | .error why => pure (.error (.ofFault why))

def during {α : Type} (context : Text) (x : OsAction α) : Task α :=
  ExceptT.mk do
    match ← x.run with
    | .ok a => pure (.ok a)
    | .error why => pure (.error (.within context (.ofFault why)))

def settings (s : Surroundings) (i : Invocation) : Task Settings := do
  let found ← (match i.config with
    | some location =>
      during ("Failed to load settings from " ++ Text.quoted location)
        (Settings.load (.defaults s) location)
    | none => plainly (Settings.loadOrDefault (.defaults s) s.settingsFile) : Task Settings)
  pure (match i.root with
    | some root => { found with storage := .disk (.persistent root) }
    | none => found)

def number? : Option Int → Json
  | none => .null
  | some (.ofNat n) => .number (.natural n)
  | some (.negSucc n) => .number (.negative (n + 1))

def contentOf : Option Text → Task Text
  | some content => pure content
  | none => do
    let data ← (Os.ask .input : OsProgram Bytes)
    match Utf8.decode data with
    | .ok content => pure content
    | .error _ =>
      throw ⟨"Failed to read content from stdin", ["stream did not contain valid UTF-8"]⟩

def textItems (ts : List Text) : Json := .array (ts.map .text)

/-- The tool a command calls and the arguments it gives, in key order. -/
def toolCall : Command → Task (Text × Json)
  | .ls path => pure ("list_directory", .object [("path", .text path)])
  | .du path sortBy =>
    pure ("list_directory_with_sizes", .object [("path", .text path), ("sort_by", sortBy.toJson)])
  | .cat path startLine lines =>
    pure ("read_text_file", .object [("path", .text path), ("read_lines", number? lines),
      ("start_line", number? startLine)])
  | .write path content => do
    let content ← contentOf content
    pure ("write_file", .object [("content", .text content), ("path", .text path)])
  | .edit path olds news dryRun =>
    if olds.length ≠ news.length then
      throw ⟨"expected as many --new values as --old values", []⟩
    else
      let edits := (olds.zip news).map fun (old, new) =>
        Json.object [("newText", .text new), ("oldText", .text old)]
      pure ("edit_file", .object [("dry_run", .bool dryRun), ("edits", .array edits),
        ("path", .text path)])
  | .find path pattern excludes =>
    pure ("search_files", .object [("exclude_patterns", textItems excludes), ("path", .text path),
      ("pattern", .text pattern)])
  | .info path => pure ("get_file_info", .object [("path", .text path)])
  | .tree path => pure ("directory_tree", .object [("path", .text path)])
  | .rm path => pure ("delete_file", .object [("path", .text path)])
  | .dirs => pure ("list_allowed_directories", .object [])
  | .tools => throw ⟨"tools does not map to a tool call", []⟩
  | .call tool args =>
    match Json.decodeText Json.Decode.json args with
    | .ok args => pure (tool, args)
    | .error why => throw ⟨"Invalid JSON arguments for " ++ tool, [why.message]⟩

def schemas : Text := (Json.array (Tool.specs.map (·.toJson))).spread

def output (service : Service) (session : Session) (c : Command) : Task Text :=
  if c = .tools then pure schemas
  else do
    let (tool, args) ← toolCall c
    plainly (ExceptT.mk do
      let (result, _) ← session.run (Tool.call service tool args)
      pure result)

def perform (s : Surroundings) (i : Invocation) : Task Text := do
  let settings ← settings s i
  let (service, session) ← plainly settings.service
  output service session i.command

def version : Text := "agentfs 0.1.0\n"

/-- A summary; what each command takes is told by its rule. -/
def usage : Text :=
  Text.unlines [
    "Capability-checked logical filesystem for agents", "",
    "Usage: agentfs [--config <FILE>] [--root <DIR>] <COMMAND>", "",
    "Commands: ls du cat write edit find info tree rm dirs tools call", ""]

def refused : Refusal → Outcome
  | .usage => ⟨2, [], usage⟩
  | .helpWanted => ⟨0, usage, []⟩
  | .versionWanted => ⟨0, version, []⟩

def run (s : Surroundings) (args : List Text) : OsProgram Outcome :=
  match parse args with
  | .error why => pure (refused why)
  | .ok i => do
    match ← (perform s i).run with
    | .ok t => pure ⟨0, t ++ "\n", []⟩
    | .error why => pure ⟨1, [], why.report⟩

end GrantFs.Cli
