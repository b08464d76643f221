import CloudFlags.Api.Exchange
import CloudFlags.Json.Printer

/-! The tree observed last, kept as text in a config map of the operand's namespace, where it is
found again after a restart. -/

namespace CloudFlags.Operator

open Api Resource Exchange

/-- Name of the config map. -/
def publishedName : String := "cloud-provider-observed-config"

/-- The key of the text in it. -/
def publishedKey : String := "config.json"

/-- The text in what a config map holds. -/
def publishedText (contents : Contents) : Option String := contents.data.bind (·.find? publishedKey)

/-- The tree that a text stands for; without a text it is empty. -/
def treeOfText : Option String → Except Error Json
  | none => .ok Json.empty
  | some text => (Json.parse text).mapError .malformed

/-- The tree in a config map. -/
def publishedTree (map : ConfigMap) : Except Error Json := treeOfText (publishedText map.contents)

variable {σ : Type}

/-- Reads the tree that was published; without a config map it is empty. -/
def restore (api : Api σ) (space : String) : Exchange σ (Except Error Json) := do
  match ← readMap api ⟨space, publishedName⟩ with
  | .error failure => return .error (.api failure)
  | .ok none =>
    log .debug ("No observed config found in namespace '" ++ space ++ "'")
    return .ok Json.empty
  | .ok (some map) => return publishedTree map

/-- The contents of the config map for a tree. -/
def publishedContents (tree : Json) : Contents :=
  ⟨some (Table.ofList [(publishedKey, tree.text)]), none⟩

/-- Publishes a tree. -/
def publish (api : Api σ) (space : String) (tree : Json) : Exchange σ (Except Error Unit) := do
  match ← applyMap api ⟨space, publishedName⟩ (publishedContents tree) with
  | .ok () => return .ok ()
  | .error failure =>
    count .patchErrors
    return .error (.api failure)

end CloudFlags.Operator
