import CloudFlags.OutOfTree

/-! The decision about an external provider, answer by answer. A feature gate takes part in it by
the name of its feature set and, in the custom set, by whether two lists hold one feature; so gates
that agree in this are as good as each other, and disabling more features never asks for an external
provider. It takes part on the platforms that leave a choice alone: the others have their answer
whatever the gate holds, even a set that is unknown (`OutOfTree.isExternal_answers`). -/

namespace CloudFlags

open Resource

namespace Resource.FeatureSelection

/-- The features that are switched on one by one. -/
def enabled (selection : FeatureSelection) : List String :=
  match selection.custom with
  | some custom => custom.enabled
  | none => []

/-- The features that are switched off one by one. -/
def disabled (selection : FeatureSelection) : List String :=
  match selection.custom with
  | some custom => custom.disabled
  | none => []

/-- Two selections name the same set, and in both a feature stands in the same lists. -/
structure AgreeOn (name : String) (s t : FeatureSelection) : Prop where
  featureSet : s.featureSet = t.featureSet
  enabled : name ∈ s.enabled ↔ name ∈ t.enabled
  disabled : name ∈ s.disabled ↔ name ∈ t.disabled

end Resource.FeatureSelection

namespace OutOfTree

variable {selection s t : FeatureSelection} {gate : FeatureGate} {status : Option Platform}
  {name : String} {e : Error}

/-! ### A selection of features -/

/-- The names that a set of features can have. -/
def knownSets : List String :=
  ["", "Default", "LatencySensitive", "TechPreviewNoUpgrade", "CustomNoUpgrade"]

/-- A selection switches the external provider on. -/
def SwitchesOn (selection : FeatureSelection) : Prop :=
  selection.featureSet = "TechPreviewNoUpgrade" ∨
    selection.featureSet = "CustomNoUpgrade" ∧
      "ExternalCloudProvider" ∈ selection.enabled ∧ "ExternalCloudProvider" ∉ selection.disabled

theorem isEnabled_plain (h : selection.featureSet ∈ ["", "Default", "LatencySensitive"]) :
    isEnabled selection name = .ok false := by
  simp only [List.mem_cons, List.not_mem_nil, or_false] at h
  rcases h with h | h | h <;> simp only [isEnabled, h]

theorem isEnabled_preview (h : selection.featureSet = "TechPreviewNoUpgrade") :
    isEnabled selection name = .ok (name == feature) := by
  simp only [isEnabled, h]

theorem isEnabled_custom (h : selection.featureSet = "CustomNoUpgrade") :
    isEnabled selection name =
      .ok (selection.enabled.contains name && !selection.disabled.contains name) := by
  unfold isEnabled
  rw [h, FeatureSelection.enabled, FeatureSelection.disabled]
  cases selection.custom <;> rfl

theorem isEnabled_unknown (h : selection.featureSet ∉ knownSets) :
    isEnabled selection name = .error (.unknownFeatureSet selection.featureSet) := by
  simp only [knownSets, List.mem_cons, List.not_mem_nil, or_false, not_or] at h
  obtain ⟨hnone, hdefault, hlatency, hpreview, hcustom⟩ := h
  unfold isEnabled
  split <;> first | contradiction | rfl

/-- A set is one of the plain ones, the preview set, the custom set, or unknown. -/
theorem featureSet_cases (selection : FeatureSelection) :
    selection.featureSet ∈ ["", "Default", "LatencySensitive"] ∨
      selection.featureSet = "TechPreviewNoUpgrade" ∨ selection.featureSet = "CustomNoUpgrade" ∨
      selection.featureSet ∉ knownSets := by
  simp only [knownSets, List.mem_cons, List.not_mem_nil, or_false]
  grind

theorem isEnabled_eq_true_iff :
    isEnabled selection "ExternalCloudProvider" = .ok true ↔ SwitchesOn selection := by
  unfold SwitchesOn
  rcases featureSet_cases selection with h | h | h | h
  · rw [isEnabled_plain h]
    simp only [List.mem_cons, List.not_mem_nil, or_false] at h
    rcases h with h | h | h <;> simp [h]
  · rw [isEnabled_preview h]
    exact iff_of_true rfl (.inl h)
  · rw [isEnabled_custom h]
    simp [h]
  · rw [isEnabled_unknown h]
    simp only [knownSets, List.mem_cons, List.not_mem_nil, or_false, not_or] at h
    simp [h]

theorem isEnabled_eq_error_iff :
    isEnabled selection name = .error e ↔
      selection.featureSet ∉ knownSets ∧ e = .unknownFeatureSet selection.featureSet := by
  rcases featureSet_cases selection with h | h | h | h
  · rw [isEnabled_plain h]
    simp only [List.mem_cons, List.not_mem_nil, or_false] at h
    rcases h with h | h | h <;> simp [knownSets, h]
  · rw [isEnabled_preview h]
    simp [knownSets, h]
  · rw [isEnabled_custom h]
    simp [knownSets, h]
  · rw [isEnabled_unknown h, Except.error.injEq]
    exact ⟨fun he => ⟨h, he.symm⟩, fun he => he.2.symm⟩

/-- Of the lists, it counts whether they hold the feature. -/
theorem isEnabled_congr (h : s.AgreeOn name t) : isEnabled s name = isEnabled t name := by
  have hset := h.featureSet
  rcases featureSet_cases t with ht | ht | ht | ht
  · rw [isEnabled_plain ht, isEnabled_plain (hset ▸ ht)]
  · rw [isEnabled_preview ht, isEnabled_preview (hset.trans ht)]
  · rw [isEnabled_custom ht, isEnabled_custom (hset.trans ht)]
    simp only [List.contains_eq_mem, h.enabled, h.disabled]
  · rw [isEnabled_unknown ht, isEnabled_unknown (hset ▸ ht), hset]

/-- To disable more switches nothing on. -/
theorem SwitchesOn.of_disabled (h : SwitchesOn t) (featureSet : s.featureSet = t.featureSet)
    (enabled : "ExternalCloudProvider" ∈ s.enabled ↔ "ExternalCloudProvider" ∈ t.enabled)
    (disabled : s.disabled ⊆ t.disabled) : SwitchesOn s := by
  rcases h with hpreview | ⟨hcustom, hin, hout⟩
  · exact .inl (featureSet.trans hpreview)
  · exact .inr ⟨featureSet.trans hcustom, enabled.2 hin, fun hs => hout (disabled hs)⟩

/-! ### Under a gate -/

/-- The platforms that have a provider of either kind. -/
def choices : List (Option Platform) :=
  [some .aws, some .azure, some .gcp, some .openStack, some .vSphere]

/-- Where there is a choice, the feature makes it. -/
theorem isExternalUnder_of_choice (h : status ∈ choices) :
    isExternalUnder gate status = isEnabled gate.selection "ExternalCloudProvider" := by
  simp only [choices, List.mem_cons, List.not_mem_nil, or_false] at h
  rcases h with rfl | rfl | rfl | rfl | rfl <;> rfl

theorem isExternalUnder_eq_true_iff :
    isExternalUnder gate status = .ok true ↔
      status ∈ [some .alibabaCloud, some .ibmCloud] ∨
        status ∈ choices ∧ SwitchesOn gate.selection := by
  cases status with
  | none => simp [isExternalUnder, choices]
  | some platform =>
    cases platform with
    | aws | azure | gcp | openStack | vSphere =>
      rw [isExternalUnder_of_choice (by simp [choices]), isEnabled_eq_true_iff]
      simp [choices]
    | _ => simp [isExternalUnder, choices]

/-- Under a gate the decision fails for want of a platform, or for a set that is unknown. -/
theorem isExternalUnder_eq_error_iff :
    isExternalUnder gate status = .error e ↔
      status = none ∧ e = .missingPlatformStatus ∨
        status ∈ choices ∧ gate.selection.featureSet ∉ knownSets ∧
          e = .unknownFeatureSet gate.selection.featureSet := by
  cases status with
  | none =>
    rw [isExternalUnder, Except.error.injEq, @eq_comm _ _ e]
    simp [choices]
  | some platform =>
    cases platform with
    | aws | azure | gcp | openStack | vSphere =>
      rw [isExternalUnder_of_choice (by simp [choices]), isEnabled_eq_error_iff]
      simp [choices]
    | _ => simp [isExternalUnder, choices]

/-! ### Lookups of a gate -/

theorem isExternal_eq_ok_iff {external : Bool} :
    isExternal (.ok (some gate)) status = .ok external ↔
      isExternalUnder gate status = .ok external := by
  rw [isExternal]
  cases isExternalUnder gate status with
  | ok _ => exact Iff.rfl
  | error _ => constructor <;> (intro h; cases h)

theorem isExternal_eq_error_iff :
    isExternal (.ok (some gate)) status = .error (.externalProviderState e) ↔
      isExternalUnder gate status = .error e := by
  rw [isExternal]
  cases isExternalUnder gate status with
  | ok _ => constructor <;> (intro h; cases h)
  | error _ => constructor <;> (intro h; cases h; rfl)

/-- What is answered under a gate is yes or no, or one of two errors. -/
theorem isExternal_mem (gate : FeatureGate) (status : Option Platform) :
    isExternal (.ok (some gate)) status ∈
      [.ok false, .ok true, .error (.externalProviderState .missingPlatformStatus),
        .error (.externalProviderState (.unknownFeatureSet gate.selection.featureSet))] := by
  cases hunder : isExternalUnder gate status with
  | ok external =>
    rw [isExternal_eq_ok_iff.2 hunder]
    cases external <;> simp
  | error e =>
    rw [isExternal_eq_error_iff.2 hunder]
    rcases isExternalUnder_eq_error_iff.1 hunder with ⟨-, rfl⟩ | ⟨-, -, rfl⟩ <;> simp

/-- Nothing but the lookup counts as a failure of the lookup. -/
theorem isExternal_eq_lookup_error_iff {lookup : Except Error (Option FeatureGate)} :
    isExternal lookup status = .error (.featureGateLookup e) ↔ lookup = .error e := by
  cases lookup with
  | error _ => constructor <;> (intro h; cases h; rfl)
  | ok found =>
    cases found with
    | none => constructor <;> (intro h; cases h)
    | some gate =>
      rw [isExternal]
      cases isExternalUnder gate status <;> constructor <;> (intro h; cases h)

theorem isExternal_congr {gate' : FeatureGate}
    (h : gate.selection.AgreeOn "ExternalCloudProvider" gate'.selection) :
    isExternal (.ok (some gate)) status = isExternal (.ok (some gate')) status := by
  have hunder : isExternalUnder gate status = isExternalUnder gate' status := by
    cases status with
    | none => rfl
    | some platform =>
      cases platform with
      | aws | azure | gcp | openStack | vSphere => exact isEnabled_congr h
      | _ => rfl
  rw [isExternal, isExternal, hunder]

/-- A lookup that fails is an error, and without a gate the answer is no. Under a gate the answer is
an error exactly if the platform is missing, or leaves a choice that is given to an unknown set; it
is yes exactly if the platform leaves no other, or leaves a choice and the selection switches the
feature on. Gates that agree on this one feature have the same answer, whatever else their lists
hold, and to disable more features never makes it yes. -/
theorem isExternal_answers (status : Option Platform) :
    (∀ lookup e, isExternal lookup status = .error (.featureGateLookup e) ↔ lookup = .error e) ∧
    isExternal (.ok none) status = .ok false ∧
    ∀ gate : FeatureGate,
      let answer := isExternal (.ok (some gate)) status
      answer ∈ [.ok false, .ok true, .error (.externalProviderState .missingPlatformStatus),
        .error (.externalProviderState (.unknownFeatureSet gate.selection.featureSet))] ∧
      (answer = .error (.externalProviderState .missingPlatformStatus) ↔ status = none) ∧
      (∀ name, answer = .error (.externalProviderState (.unknownFeatureSet name)) ↔
        status ∈ choices ∧ gate.selection.featureSet ∉ knownSets ∧
          name = gate.selection.featureSet) ∧
      (answer = .ok true ↔
        status ∈ [some .alibabaCloud, some .ibmCloud] ∨
          status ∈ choices ∧ SwitchesOn gate.selection) ∧
      (∀ gate' : FeatureGate,
        gate'.selection.AgreeOn "ExternalCloudProvider" gate.selection →
          isExternal (.ok (some gate')) status = answer) ∧
      ∀ gate' : FeatureGate, gate'.selection.featureSet = gate.selection.featureSet →
        ("ExternalCloudProvider" ∈ gate'.selection.enabled ↔
          "ExternalCloudProvider" ∈ gate.selection.enabled) →
        gate.selection.disabled ⊆ gate'.selection.disabled →
        isExternal (.ok (some gate')) status = .ok true → answer = .ok true := by
  refine ⟨fun lookup e => isExternal_eq_lookup_error_iff, rfl, fun gate => ?_⟩
  intro answer
  refine ⟨isExternal_mem gate status, ?_, fun name => ?_, ?_, fun gate' h => isExternal_congr h, ?_⟩
  · rw [isExternal_eq_error_iff, isExternalUnder_eq_error_iff]
    simp
  · rw [isExternal_eq_error_iff, isExternalUnder_eq_error_iff]
    simp
  · rw [isExternal_eq_ok_iff, isExternalUnder_eq_true_iff]
  · intro gate' featureSet enabled disabled hyes
    rw [isExternal_eq_ok_iff, isExternalUnder_eq_true_iff] at hyes ⊢
    rcases hyes with hforced | ⟨hchoice, hon⟩
    · exact .inl hforced
    · exact .inr ⟨hchoice, hon.of_disabled featureSet.symm enabled.symm disabled⟩

end OutOfTree

end CloudFlags
