import CloudFlags.Api.Exchange

/-! Installing the flow-control objects: the priority level first, then the schemas that use it, up
to the first failure. -/

namespace CloudFlags.Operator

open Resource Exchange

variable {σ : Type}

def installAll (api : Api σ) : List FlowControlObject → Exchange σ (Except Error Unit)
  | [] => return .ok ()
  | object :: rest => do
    match ← applyFlowControl api object with
    | .error failure => return .error (.api failure)
    | .ok () =>
      log .info ("Applied " ++ object.kind.objectKind.kind ++ " '" ++ object.name ++ "'")
      installAll api rest

def installFlowControl (api : Api σ) : Exchange σ (Except Error Unit) :=
  installAll api (FlowControlObject.priorityLevels ++ FlowControlObject.flowSchemas)

end CloudFlags.Operator
