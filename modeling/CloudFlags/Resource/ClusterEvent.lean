import CloudFlags.Event
import CloudFlags.Resource.ConfigMap
import CloudFlags.Resource.Infrastructure

/-! Events as the API server keeps them: about the cluster's `Infrastructure`, in the operand's
namespace, with the name of who reports them. Of an event that comes back no more is wanted than
that it is one. -/

namespace CloudFlags.Resource

open Json

structure ClusterEvent where
  event : Event
  space : String
  /-- The host that reports the event. -/
  reporter : String
  /-- What sets the object's name apart from other events'. -/
  stamp : String
  deriving DecidableEq, Repr

namespace ClusterEvent

def objectKind : ObjectKind := ⟨"Event", "v1"⟩

def name (e : ClusterEvent) : String := operatorName ++ "." ++ e.stamp

/-- The object that every event is about. -/
def involvedObject : Json :=
  ofFields
    [("apiVersion", some (.str configVersion)),
      ("kind", some (.str "Infrastructure")),
      ("name", some (.str clusterName))]

def toJson (e : ClusterEvent) : Json :=
  ofFields
    [("action", some (.str "Observe")),
      ("apiVersion", some (.str objectKind.version)),
      ("involvedObject", some involvedObject),
      ("kind", some (.str objectKind.kind)),
      ("message", some (.str e.event.message)),
      ("metadata", some (Metadata.named e.space e.name).toJson),
      ("reason", some (.str e.event.reason)),
      ("reportingComponent", some (.str operatorName)),
      ("reportingInstance", some (.str e.reporter)),
      ("type", some (.str e.event.type.name))]

/-! ### Events that come back -/

/-- Members that are texts. -/
def textMembers (keys : List String) : List (Member Unit) :=
  keys.map (Member.checked · Shape.string)

def referenceShape : Shape Unit :=
  .object "ObjectReference" ()
    (textMembers
      ["apiVersion", "fieldPath", "kind", "name", "namespace", "resourceVersion", "uid"])

def seriesShape : Shape Unit :=
  .object "EventSeries" ()
    [.checked "count" Shape.int32, .checked "lastObservedTime" Shape.timestamp]

def sourceShape : Shape Unit := .object "EventSource" () (textMembers ["component", "host"])

def shape : Shape Unit :=
  .object objectKind.kind ()
    [.checked "action" Shape.string,
      .constant "apiVersion" objectKind.version,
      .checked "count" Shape.int32,
      .checked "eventTime" Shape.timestamp,
      .checked "firstTimestamp" Shape.timestamp,
      .checked "involvedObject" referenceShape,
      .constant "kind" objectKind.kind,
      .checked "lastTimestamp" Shape.timestamp,
      .checked "message" Shape.string,
      .checked "metadata" Metadata.shape,
      .checked "reason" Shape.string,
      .checked "related" referenceShape,
      .checked "reportingComponent" Shape.string,
      .checked "reportingInstance" Shape.string,
      .checked "series" seriesShape,
      .checked "source" sourceShape,
      .checked "type" Shape.string]

end ClusterEvent

end CloudFlags.Resource
