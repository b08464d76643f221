import CloudFlags.Resource.Infrastructure

/-! The cluster's `FeatureGate`: a named set of features, or features switched one by one. -/

namespace CloudFlags.Resource

open Json

/-- Features switched on and off one by one. -/
structure CustomFeatures where
  enabled : List String
  disabled : List String
  deriving DecidableEq, Repr

def CustomFeatures.record : Record CustomFeatures where
  name := "CustomFeatureGates"
  default := ⟨[], []⟩
  slots :=
    [.field .defaulted "enabled" Shape.string.list fun l c => { c with enabled := l },
      .field .defaulted "disabled" Shape.string.list fun l c => { c with disabled := l }]

def CustomFeatures.toJson (c : CustomFeatures) : Json :=
  ofFields [("enabled", some (ofStrings c.enabled)), ("disabled", some (ofStrings c.disabled))]

/-- What a feature gate asks for. -/
structure FeatureSelection where
  featureSet : String
  custom : Option CustomFeatures
  deriving DecidableEq, Repr

def FeatureSelection.record : Record FeatureSelection where
  name := "FeatureGateSpec"
  default := ⟨"", none⟩
  slots :=
    [.field .defaulted "featureSet" Shape.string fun s f => { f with featureSet := s },
      .field .optional "customNoUpgrade" CustomFeatures.record.shape.optional
        fun c f => { f with custom := c }]

def FeatureSelection.toJson (s : FeatureSelection) : Json :=
  let custom := match s.custom with
    | some custom => custom.toJson
    | none => .null
  ofFields [("featureSet", some (.str s.featureSet)), ("customNoUpgrade", some custom)]

structure FeatureGate where
  metadata : Metadata
  selection : FeatureSelection
  deriving DecidableEq

namespace FeatureGate

def record : Record FeatureGate where
  name := "FeatureGate"
  default := ⟨{}, ⟨"", none⟩⟩
  slots :=
    [.field .required "metadata" Metadata.shape fun m g => { g with metadata := m },
      .field .required "spec" FeatureSelection.record.shape fun s g => { g with selection := s }]

def ofJson : Reader FeatureGate := record.shape.ofTree

def toJson (g : FeatureGate) : Json :=
  ofFields
    [("apiVersion", some (.str configVersion)),
      ("kind", some (.str "FeatureGate")),
      ("metadata", some g.metadata.toJson),
      ("spec", some g.selection.toJson)]

end FeatureGate

end CloudFlags.Resource
