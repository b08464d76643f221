import CloudFlags.Resource.Metadata

/-! Config maps: texts and bytes under keys. Bytes are kept as their base-64 text, which is the only
one for them. Like any object of a kind they have that kind and its version, if they name them. -/

namespace CloudFlags.Resource

open Json

/-- The name of a kind of object, and its version. -/
structure ObjectKind where
  kind : String
  version : String

structure ConfigMap where
  metadata : Metadata
  data : Option (Table String String)
  binaryData : Option (Table String String)
  immutable : Option Bool
  deriving DecidableEq

namespace ConfigMap

def objectKind : ObjectKind := ⟨"ConfigMap", "v1"⟩

def shape : Shape ConfigMap :=
  .object objectKind.kind ⟨{}, none, none, none⟩
    [.constant "apiVersion" objectKind.version,
      .field "binaryData" Shape.base64.table.optional fun t m => { m with binaryData := t },
      .field "data" Shape.string.table.optional fun t m => { m with data := t },
      .field "immutable" Shape.bool.optional fun b m => { m with immutable := b },
      .constant "kind" objectKind.kind,
      .field "metadata" Metadata.shape.optional fun d m => { m with metadata := d.getD {} }]

def ofJson : Reader ConfigMap := shape.ofTree

def toJson (m : ConfigMap) : Json :=
  ofFields
    [("apiVersion", some (.str objectKind.version)),
      ("binaryData", m.binaryData.map ofTable),
      ("data", m.data.map ofTable),
      ("immutable", m.immutable.map .bool),
      ("kind", some (.str objectKind.kind)),
      ("metadata", some m.metadata.toJson)]

end ConfigMap

end CloudFlags.Resource
