import CloudFlags.Resource.ConfigMap

/-! The flow-control objects that the operator installs: a priority level for the operators of the
control plane, a schema that puts one of them on it, and a schema for the metrics of the API server.
Of an object that comes back no more is wanted than that it is one of its kind. -/

namespace CloudFlags.Resource

open Json

inductive FlowControlKind where
  | priorityLevel
  | flowSchema
  deriving DecidableEq, Repr

namespace FlowControlKind

def group : String := "flowcontrol.apiserver.k8s.io"

def objectKind : FlowControlKind → ObjectKind
  | .priorityLevel => ⟨"PriorityLevelConfiguration", group ++ "/v1"⟩
  | .flowSchema => ⟨"FlowSchema", group ++ "/v1"⟩

/-- The collection in which objects of the kind stand. -/
def collection : FlowControlKind → String
  | .priorityLevel => "prioritylevelconfigurations"
  | .flowSchema => "flowschemas"

/-! ### Objects that come back -/

/-- The conditions of a status, under a name for each kind. -/
def statusShape (kind : String) : Shape Unit :=
  .object (kind ++ "Status") ()
    [.checked "conditions" <| .list <| .object (kind ++ "Condition") ()
      [.checked "lastTransitionTime" Shape.timestamp,
        .checked "message" Shape.string,
        .checked "reason" Shape.string,
        .checked "status" Shape.string,
        .checked "type" Shape.string]]

def queuingShape : Shape Unit :=
  .object "QueuingConfiguration" ()
    [.checked "handSize" Shape.int32,
      .checked "queueLengthLimit" Shape.int32,
      .checked "queues" Shape.int32]

def limitedShape : Shape Unit :=
  .object "LimitedPriorityLevelConfiguration" ()
    [.checked "borrowingLimitPercent" Shape.int32,
      .checked "lendablePercent" Shape.int32,
      .checked "limitResponse" <| .object "LimitResponse" ()
        [.checked "queuing" queuingShape, .checked "type" Shape.string],
      .checked "nominalConcurrencyShares" Shape.int32]

def exemptShape : Shape Unit :=
  .object "ExemptPriorityLevelConfiguration" ()
    [.checked "lendablePercent" Shape.int32, .checked "nominalConcurrencyShares" Shape.int32]

def levelSpecShape : Shape Unit :=
  .object "PriorityLevelConfigurationSpec" ()
    [.checked "exempt" exemptShape,
      .checked "limited" limitedShape,
      .checked "type" Shape.string]

/-- A named object that a schema mentions. -/
def namedShape (name : String) : Shape Unit := .object name () [.checked "name" Shape.string]

def subjectShape : Shape Unit :=
  .object "Subject" ()
    [.checked "group" (namedShape "GroupSubject"),
      .checked "kind" Shape.string,
      .checked "serviceAccount" <| .object "ServiceAccountSubject" ()
        [.checked "name" Shape.string, .checked "namespace" Shape.string],
      .checked "user" (namedShape "UserSubject")]

def nonResourceRuleShape : Shape Unit :=
  .object "NonResourcePolicyRule" ()
    [.checked "nonResourceURLs" Shape.string.list, .checked "verbs" Shape.string.list]

def resourceRuleShape : Shape Unit :=
  .object "ResourcePolicyRule" ()
    [.checked "apiGroups" Shape.string.list,
      .checked "clusterScope" Shape.bool,
      .checked "namespaces" Shape.string.list,
      .checked "resources" Shape.string.list,
      .checked "verbs" Shape.string.list]

def rulesShape : Shape Unit :=
  .object "PolicyRulesWithSubjects" ()
    [.checked "nonResourceRules" nonResourceRuleShape.list,
      .checked "resourceRules" resourceRuleShape.list,
      .checked "subjects" subjectShape.list]

def schemaSpecShape : Shape Unit :=
  .object "FlowSchemaSpec" ()
    [.checked "distinguisherMethod" <| .object "FlowDistinguisherMethod" ()
        [.checked "type" Shape.string],
      .checked "matchingPrecedence" Shape.int32,
      .checked "priorityLevelConfiguration" (namedShape "PriorityLevelConfigurationReference"),
      .checked "rules" rulesShape.list]

def specShape : FlowControlKind → Shape Unit
  | .priorityLevel => levelSpecShape
  | .flowSchema => schemaSpecShape

def shape (k : FlowControlKind) : Shape Unit :=
  .object k.objectKind.kind ()
    [.constant "apiVersion" k.objectKind.version,
      .constant "kind" k.objectKind.kind,
      .checked "metadata" Metadata.shape,
      .checked "spec" k.specShape,
      .checked "status" (statusShape k.objectKind.kind)]

end FlowControlKind

structure FlowControlObject where
  kind : FlowControlKind
  name : String
  spec : Json
  deriving DecidableEq

namespace FlowControlObject

def toJson (o : FlowControlObject) : Json :=
  ofFields
    [("apiVersion", some (.str o.kind.objectKind.version)),
      ("kind", some (.str o.kind.objectKind.kind)),
      ("metadata", some (ofFields [("name", some (.str o.name))])),
      ("spec", some o.spec)]

/-! ### What is installed -/

/-- The object of members that are all present. -/
def object (members : List (String × Json)) : Json :=
  ofFields (members.map fun member => (member.1, some member.2))

def all : Json := single "*"

def controlPlaneLevel : FlowControlObject where
  kind := .priorityLevel
  name := "openshift-control-plane-operators"
  spec := object
    [("type", .str "Limited"),
      ("limited", object
        [("nominalConcurrencyShares", ofNat 10),
          ("limitResponse", object
            [("type", .str "Queue"),
              ("queuing", object
                [("queueLengthLimit", ofNat 50), ("queues", ofNat 128), ("handSize", ofNat 6)])])])]

/-- The specification of a schema that puts requests of a service account on a level. -/
def schemaSpec (level : String) (rules : String × Json) (space account : String) : Json :=
  object
    [("distinguisherMethod", object [("type", .str "ByUser")]),
      ("matchingPrecedence", ofNat 2000),
      ("priorityLevelConfiguration", object [("name", .str level)]),
      ("rules", .arr
        [object
          [(rules.1, .arr [rules.2]),
            ("subjects", .arr
              [object
                [("kind", .str "ServiceAccount"),
                  ("serviceAccount",
                    object [("name", .str account), ("namespace", .str space)])]])]])]

def operatorSchema : FlowControlObject where
  kind := .flowSchema
  name := "openshift-kube-apiserver-operator"
  spec := schemaSpec controlPlaneLevel.name
    ("resourceRules", object
      [("apiGroups", all), ("clusterScope", .bool true), ("namespaces", all), ("resources", all),
        ("verbs", all)])
    "openshift-kube-apiserver-operator" "kube-apiserver-operator"

def metricsSchema : FlowControlObject where
  kind := .flowSchema
  name := "openshift-monitoring-metrics"
  spec := schemaSpec "workload-high"
    ("nonResourceRules", object [("nonResourceURLs", single "/metrics"), ("verbs", all)])
    "openshift-monitoring" "prometheus-k8s"

def priorityLevels : List FlowControlObject := [controlPlaneLevel]

def flowSchemas : List FlowControlObject := [operatorSchema, metricsSchema]

end FlowControlObject

end CloudFlags.Resource
