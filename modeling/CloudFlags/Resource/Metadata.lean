import CloudFlags.Json.Shape.Object

/-! The metadata of a resource. Null stands for a field that is not set, unknown fields are skipped,
and only the fields that are set are written. -/

namespace CloudFlags.Resource

open Json Calendar

/-- A resource that another one belongs to. -/
structure OwnerReference where
  version : String := ""
  blockOwnerDeletion : Option Bool := none
  controller : Option Bool := none
  kind : String := ""
  name : String := ""
  uid : String := ""
  deriving DecidableEq, Repr

namespace OwnerReference

def shape : Shape OwnerReference :=
  .object "OwnerReference" {}
    [.field "apiVersion" Shape.string.optional fun s r => { r with version := s.getD "" },
      .field "blockOwnerDeletion" Shape.bool.optional fun b r => { r with blockOwnerDeletion := b },
      .field "controller" Shape.bool.optional fun b r => { r with controller := b },
      .field "kind" Shape.string.optional fun s r => { r with kind := s.getD "" },
      .field "name" Shape.string.optional fun s r => { r with name := s.getD "" },
      .field "uid" Shape.string.optional fun s r => { r with uid := s.getD "" }]

def toJson (r : OwnerReference) : Json :=
  ofFields
    [("apiVersion", some (.str r.version)),
      ("blockOwnerDeletion", r.blockOwnerDeletion.map .bool),
      ("controller", r.controller.map .bool),
      ("kind", some (.str r.kind)),
      ("name", some (.str r.name)),
      ("uid", some (.str r.uid))]

end OwnerReference

/-- Which fields of a resource someone has set, and when. -/
structure ManagedFields where
  version : Option String := none
  fieldsType : Option String := none
  fields : Option Json := none
  manager : Option String := none
  operation : Option String := none
  subresource : Option String := none
  time : Option Timestamp := none
  deriving DecidableEq

namespace ManagedFields

def shape : Shape ManagedFields :=
  .object "ManagedFieldsEntry" {}
    [.field "apiVersion" Shape.string.optional fun s e => { e with version := s },
      .field "fieldsType" Shape.string.optional fun s e => { e with fieldsType := s },
      .field "fieldsV1" Shape.any.optional fun tree e => { e with fields := tree },
      .field "manager" Shape.string.optional fun s e => { e with manager := s },
      .field "operation" Shape.string.optional fun s e => { e with operation := s },
      .field "subresource" Shape.string.optional fun s e => { e with subresource := s },
      .field "time" Shape.timestamp.optional fun t e => { e with time := t }]

def toJson (e : ManagedFields) : Json :=
  ofFields
    [("apiVersion", e.version.map .str),
      ("fieldsType", e.fieldsType.map .str),
      ("fieldsV1", e.fields),
      ("manager", e.manager.map .str),
      ("operation", e.operation.map .str),
      ("subresource", e.subresource.map .str),
      ("time", e.time.map fun t => .str t.text)]

end ManagedFields

structure Metadata where
  annotations : Option (Table String String) := none
  creationTimestamp : Option Timestamp := none
  deletionGracePeriodSeconds : Option Int64 := none
  deletionTimestamp : Option Timestamp := none
  finalizers : Option (List String) := none
  generateName : Option String := none
  generation : Option Int64 := none
  labels : Option (Table String String) := none
  managedFields : Option (List ManagedFields) := none
  name : Option String := none
  space : Option String := none
  ownerReferences : Option (List OwnerReference) := none
  resourceVersion : Option String := none
  selfLink : Option String := none
  uid : Option String := none
  deriving DecidableEq

namespace Metadata

def shape : Shape Metadata :=
  .object "ObjectMeta" {}
    [.field "annotations" Shape.string.table.optional fun t m => { m with annotations := t },
      .field "creationTimestamp" Shape.timestamp.optional
        fun t m => { m with creationTimestamp := t },
      .field "deletionGracePeriodSeconds" Shape.int64.optional
        fun n m => { m with deletionGracePeriodSeconds := n },
      .field "deletionTimestamp" Shape.timestamp.optional
        fun t m => { m with deletionTimestamp := t },
      .field "finalizers" Shape.string.list.optional fun l m => { m with finalizers := l },
      .field "generateName" Shape.string.optional fun s m => { m with generateName := s },
      .field "generation" Shape.int64.optional fun n m => { m with generation := n },
      .field "labels" Shape.string.table.optional fun t m => { m with labels := t },
      .field "managedFields" ManagedFields.shape.list.optional
        fun l m => { m with managedFields := l },
      .field "name" Shape.string.optional fun s m => { m with name := s },
      .field "namespace" Shape.string.optional fun s m => { m with space := s },
      .field "ownerReferences" OwnerReference.shape.list.optional
        fun l m => { m with ownerReferences := l },
      .field "resourceVersion" Shape.string.optional fun s m => { m with resourceVersion := s },
      .field "selfLink" Shape.string.optional fun s m => { m with selfLink := s },
      .field "uid" Shape.string.optional fun s m => { m with uid := s }]

def toJson (m : Metadata) : Json :=
  ofFields
    [("annotations", m.annotations.map ofTable),
      ("creationTimestamp", m.creationTimestamp.map fun t => .str t.text),
      ("deletionGracePeriodSeconds", m.deletionGracePeriodSeconds.map ofInt64),
      ("deletionTimestamp", m.deletionTimestamp.map fun t => .str t.text),
      ("finalizers", m.finalizers.map ofStrings),
      ("generateName", m.generateName.map .str),
      ("generation", m.generation.map ofInt64),
      ("labels", m.labels.map ofTable),
      ("managedFields", m.managedFields.map fun l => .arr (l.map ManagedFields.toJson)),
      ("name", m.name.map .str),
      ("namespace", m.space.map .str),
      ("ownerReferences", m.ownerReferences.map fun l => .arr (l.map OwnerReference.toJson)),
      ("resourceVersion", m.resourceVersion.map .str),
      ("selfLink", m.selfLink.map .str),
      ("uid", m.uid.map .str)]

/-- The metadata of an object with a name in a namespace. -/
def named (space name : String) : Metadata := { name := some name, space := some space }

end Metadata

end CloudFlags.Resource
