import CloudFlags.Api.Exchange

/-! A server that keeps config maps and does what it is asked. A config map is kept as it was put,
well formed or not; what an apply makes of it is exactly what was applied. -/

namespace CloudFlags.Api

open Resource Json

/-- A config map as the server keeps it. -/
structure StoredMap where
  data : Option Json
  binaryData : Option Json
  immutable : Option Json
  deriving DecidableEq

namespace StoredMap

/-- The members that are there. -/
def fields (m : StoredMap) : List (String × Option Json) :=
  [("binaryData", m.binaryData), ("data", m.data), ("immutable", m.immutable)]

def ofContents (c : Contents) : StoredMap := ⟨c.data.map ofTable, c.binaryData.map ofTable, none⟩

/-- The content alone. -/
def contentJson (m : StoredMap) : Json := ofFields m.fields

/-- The whole object. -/
def toJson (m : StoredMap) (location : Location) : Json :=
  ofFields
    (m.fields ++
      [("apiVersion", some (.str ConfigMap.objectKind.version)),
        ("kind", some (.str ConfigMap.objectKind.kind)),
        ("metadata", some (Metadata.named location.space location.name).toJson)])

end StoredMap

/-- The config maps on a server. -/
abbrev Store := Table Location StoredMap

/-- The body of a refusal. -/
def refusal (code : Nat) (reason message : String) : Reply :=
  .answered code <| .tree <| ofFields
    [("kind", some (.str "Status")),
      ("status", some (.str "Failure")),
      ("code", some (ofNat code)),
      ("reason", some (.str reason)),
      ("message", some (.str message))]

def missing (location : Location) : Reply :=
  refusal 404 "NotFound" ("configmaps " ++ Text.quote location.name ++ " not found")

def removed : Reply :=
  .answered 200 <| .tree <| ofFields
    [("kind", some (.str "Status")), ("status", some (.str "Success"))]

namespace Store

/-- The config map to which the path for a location leads, and where it stands. -/
def reach? (store : Store) (location : Location) : Option (Location × StoredMap) := do
  let kept ← Request.addressed? location
  return (kept, ← store.find? kept)

/-- Carries out a request. What is applied where the path leads to no config map is kept nowhere. -/
def answer (request : Request) (store : Store) : Reply × Store :=
  match request with
  | .readMap location =>
    match store.reach? location with
    | some (kept, m) => (.answered 200 (.tree (m.toJson kept)), store)
    | none => (missing location, store)
  | .removeMap location =>
    match store.reach? location with
    | some (kept, _) => (removed, store.erase kept)
    | none => (missing location, store)
  | .applyMap location contents =>
    (.answered 200 (.tree (Request.mapBody location contents)),
      match Request.addressed? location with
      | some kept => store.insert kept (StoredMap.ofContents contents)
      | none => store)
  | .applyFlowControl object => (.answered 200 (.tree object.toJson), store)
  | .createEvent event => (.answered 200 (.tree event.toJson), store)

/-- The server that carries out every request. -/
def api : Api Store := ⟨answer⟩

end Store

end CloudFlags.Api
