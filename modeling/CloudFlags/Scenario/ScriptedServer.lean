import CloudFlags.Api.Store

/-! A server that fails as a script says, and otherwise does what it is asked. -/

namespace CloudFlags.Scenario

open Api

/-- Requests that are answered by the script. -/
structure ScriptedFailure where
  /-- The name of the only method concerned. -/
  method? : Option String
  /-- What the target must contain. -/
  path? : Option String
  /-- How often it still happens, if not for ever. -/
  left? : Option Nat
  reply : Reply

/-- The one list stands somewhere in the other. -/
def occursIn (part : List Char) : List Char → Bool
  | [] => part.isEmpty
  | c :: cs => part.isPrefixOf (c :: cs) || occursIn part cs

namespace ScriptedFailure

def concerns (failure : ScriptedFailure) (request : Request) : Bool :=
  failure.method?.all (· == request.method.name) &&
    failure.path?.all (fun path => occursIn path.toList request.target.toList) &&
    failure.left? != some 0

def useUp (failure : ScriptedFailure) : ScriptedFailure :=
  { failure with left? := failure.left?.map (· - 1) }

/-- The reply of the first failure that concerns a request, and the script afterwards. -/
def play? (request : Request) : List ScriptedFailure → Option (Reply × List ScriptedFailure)
  | [] => none
  | failure :: rest =>
    if failure.concerns request then some (failure.reply, failure.useUp :: rest)
    else (play? request rest).map fun (reply, rest) => (reply, failure :: rest)

end ScriptedFailure

structure ScriptedServer where
  store : Store
  failures : List ScriptedFailure

namespace ScriptedServer

def answer (request : Request) (server : ScriptedServer) : Reply × ScriptedServer :=
  match ScriptedFailure.play? request server.failures with
  | some (reply, failures) => (reply, { server with failures })
  | none =>
    let (reply, store) := server.store.answer request
    (reply, { server with store })

def api : Api ScriptedServer := ⟨answer⟩

end ScriptedServer

end CloudFlags.Scenario
