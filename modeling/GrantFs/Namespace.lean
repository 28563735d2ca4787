import GrantFs.Grant

/-! # Namespaces

The three fixed top-level areas: private state of the agent, material supplied to it, and its work
area.
-/
namespace GrantFs

inductive Namespace where
  | internal
  | userinput
  | workspace
deriving DecidableEq, Repr

namespace Namespace

def all : List Namespace := [internal, userinput, workspace]

def name : Namespace → Text
  | internal => "internal"
  | userinput => "userinput"
  | workspace => "workspace"

def root : Namespace → Path
  | internal => ⟨"/internal/", by decide⟩
  | userinput => ⟨"/userinput/", by decide⟩
  | workspace => ⟨"/workspace/", by decide⟩

def ofName? (t : Text) : Option Namespace := all.find? (·.name = t)

def of? (path : Text) : Option Namespace := all.find? fun ns => ns.root.text.isPrefixOf path

def defaultOps : Namespace → List Operation
  | internal => [.list, .inspect, .readBytes, .readText, .readMatches, .write]
  | userinput => [.list, .inspect, .readBytes, .readText, .readMatches]
  | workspace => [.list, .inspect, .readBytes, .readText, .readMatches, .write, .delete]

def grant (ns : Namespace) : Grant := .ofOps ns.root ns.defaultOps

end Namespace
end GrantFs
