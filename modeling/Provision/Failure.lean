import Provision.IoError
import Provision.Path

namespace Provision

inductive Fault
  | unsupportedHost (root : Path) (debian : String := "etc/debian_version")
    (rhel : String := "etc/redhat-release")
  | packageInstall (manager : String) (status : Int)
  | download (url reason : String)
  | escalation (helper reason : String)
  | childFailed (program : String) (status : Int)
  | missingProto (path : Path)
deriving DecidableEq

namespace Fault

def code : Fault → String
  | unsupportedHost _ _ _ => "UNSUPPORTED_HOST"
  | packageInstall _ _ => "PACKAGE_INSTALL"
  | download _ _ => "DOWNLOAD"
  | escalation _ _ => "ESCALATION"
  | childFailed _ _ => "CHILD_FAILED"
  | missingProto _ => "MISSING_PROTO"

/-- A failed command passes its own status on. -/
def exitStatus : Fault → Int
  | packageInstall _ status | childFailed _ status => status
  | _ => 1

def message : Fault → String
  | unsupportedHost root debian rhel =>
    "unsupported host: neither /" ++ debian ++ " nor /" ++ rhel ++ " found under " ++ root.text
  | packageInstall manager status =>
    manager ++ " failed to install packages (exit status " ++ toString status ++ ")"
  | download url reason => "failed to download " ++ url ++ ": " ++ reason
  | escalation helper reason => "privilege escalation via " ++ helper ++ " failed: " ++ reason
  | childFailed program status => program ++ " exited with status " ++ toString status
  | missingProto path => "proto definition not found: " ++ path.text

end Fault

inductive Cause
  | fault (f : Fault)
  | io (e : IoError)
  | other (text : String)
deriving DecidableEq

namespace Cause

def message : Cause → String
  | fault f => f.message
  | io e => e.message
  | other text => text

end Cause

/-- One cause, and the contexts that callers put around it. The cause alone decides the code and the
exit status; the contexts only show in the message. -/
structure Failure where
  cause : Cause
  contexts : List String := []
deriving DecidableEq

/-- One layer of a failure. -/
inductive Layer
  | context (text : String)
  | cause (c : Cause)
deriving DecidableEq

namespace Layer

def text : Layer → String
  | context text => text
  | cause c => c.message

/-- The fault that a layer is. A context is none, whatever it says. -/
def fault? : Layer → Option Fault
  | cause (.fault f) => some f
  | _ => none

end Layer

namespace Failure

def ofFault (f : Fault) : Failure := ⟨.fault f, []⟩

def ofIo (e : IoError) : Failure := ⟨.io e, []⟩

def withContext (e : Failure) (context : String) : Failure :=
  { e with contexts := context :: e.contexts }

def withContexts (e : Failure) (contexts : List String) : Failure :=
  contexts.foldl withContext e

/-- The layers from the outermost context to the cause. -/
def chain (e : Failure) : List Layer := e.contexts.map .context ++ [.cause e.cause]

def fault? (e : Failure) : Option Fault := e.chain.findSome? Layer.fault?

def texts (e : Failure) : List String := e.chain.map Layer.text

def message (e : Failure) : String := String.intercalate ": " e.texts

def headline (e : Failure) : String := e.texts.headD ""

def code (e : Failure) : String :=
  match e.fault? with
  | some f => f.code
  | none => "ERROR"

def exitStatus (e : Failure) : Int :=
  match e.fault? with
  | some f => f.exitStatus
  | none => 1

/-- The status that a process can end with: never zero for a failure, and at most 255. -/
def processStatus (e : Failure) : Nat := (min (max e.exitStatus 1) 255).toNat

end Failure
end Provision
