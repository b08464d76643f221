import CloudFlags.Proofs.Json.Fields
import CloudFlags.Proofs.Timestamps
import CloudFlags.Resource.FeatureGate

/-! The cluster's resources as trees. A platform is written as a text and is read from it again,
unless its name is one that stands for another platform (`Platform.ofName_name_iff`). An
`Infrastructure` or a `FeatureGate` is read again as it was written, field by field, but for the
fractions of seconds in its metadata, which are not written; and one that was read is of this kind.
-/

namespace CloudFlags

namespace Platform

/-- A platform that is not recognized has a name, and no other platform has it. -/
def IsProper (p : Platform) : Prop :=
  ∀ name, p = .unrecognized name → name ≠ "" ∧ ∀ q ∈ known, q.name ≠ name

theorem isProper_unset : unset.IsProper := fun _ h => nomatch h

/-- Every text is kept as it is. -/
theorem name_ofName (s : String) : (ofName s).name = s := by
  unfold ofName
  split <;> rfl

theorem ofName_name_of_known : ∀ p ∈ known, ofName p.name = p := by decide

theorem unrecognized_not_mem_known (name : String) : .unrecognized name ∉ known := by
  simp only [known, List.mem_cons, List.not_mem_nil, reduceCtorEq, or_self, not_false_eq_true]

theorem ofName_of_isProper {name : String} (h : (Platform.unrecognized name).IsProper) :
    ofName name = .unrecognized name := by
  obtain ⟨hempty, hknown⟩ := h name rfl
  have hname := name_ofName name
  cases hof : ofName name with
  | unrecognized other =>
    rw [hof] at hname
    exact congrArg unrecognized hname
  | unset =>
    rw [hof] at hname
    exact absurd hname.symm hempty
  | _ =>
    rw [hof] at hname
    exact absurd hname (hknown _ (by decide))

theorem isProper_ofName (s : String) : (ofName s).IsProper := by
  intro name h
  have hname : s = name := by
    rw [← name_ofName s, h]
    rfl
  constructor
  · rintro rfl
    rw [hname] at h
    cases h
  · intro q hq heq
    rw [hname, ← heq, ofName_name_of_known q hq] at h
    exact unrecognized_not_mem_known _ (h ▸ hq)

/-- Exactly the proper ones are read again as they were written. -/
theorem ofName_name_iff {p : Platform} : ofName p.name = p ↔ p.IsProper := by
  constructor
  · intro h
    rw [← h]
    exact isProper_ofName p.name
  · intro h
    cases p with
    | unrecognized name => exact ofName_of_isProper h
    | _ => rfl

end Platform

open Json Calendar

/-! ### Values -/

namespace Json.Shape

theorem ofTree_texts_optional (values : List String) :
    Shape.string.list.optional.ofTree (ofStrings values) = .ok (some values) :=
  ofTree_optional nofun (ofTree_list fun _ _ => rfl)

theorem ofTree_int64 (n : Int64) : Shape.int64.optional.ofTree (ofInt64 n) = .ok (some n) := by
  have hrange : Int64.minValue.toInt ≤ n.toInt ∧ n.toInt ≤ Int64.maxValue.toInt := by
    have hlow := n.le_toInt
    have hhigh := n.toInt_lt
    rw [Int64.toInt_minValue, Int64.toInt_maxValue]
    omega
  refine ofTree_optional nofun ?_
  show Except.map Int64.ofInt (if Int64.minValue.toInt ≤ n.toInt ∧ n.toInt ≤ Int64.maxValue.toInt
    then Except.ok n.toInt else Except.error (Mismatch.range n.toInt "i64")) = .ok n
  rw [if_pos hrange, Except.map, Int64.ofInt_toInt]

theorem ofTree_timestamp_str (s : String) :
    Shape.timestamp.ofTree (.str s) = (Timestamp.parse s).mapError .time := rfl

theorem ofTree_timestamp {t : Timestamp} (h : Timestamp.isKept t.date.year) :
    Shape.timestamp.optional.ofTree (.str t.text) = .ok (some t.whole) := by
  refine ofTree_optional nofun ?_
  rw [ofTree_timestamp_str, Timestamp.parse_text h]
  rfl

theorem isKept_of_timestamp {tree : Json} {value : Option Timestamp}
    (h : Shape.timestamp.optional.ofTree tree = .ok value) :
    ∀ t ∈ value, Timestamp.isKept t.date.year := by
  rintro t rfl
  replace h := ofTree_of_optional h
  cases tree with
  | str s =>
    rw [ofTree_timestamp_str] at h
    cases hparse : Timestamp.parse s with
    | error fault =>
      rw [hparse] at h
      cases h
    | ok found =>
      rw [hparse] at h
      cases h
      exact Timestamp.isKept_of_parse hparse
  | _ => cases h

theorem ne_null_of_any {tree : Json} {value : Option Json}
    (h : Shape.any.optional.ofTree tree = .ok value) : value ≠ some .null := by
  cases tree <;> cases h <;> nofun

theorem exists_of_mem_list {α : Type} {shape : Shape α} {tree : Json} {values : List α}
    (h : shape.list.ofTree tree = .ok values) :
    ∀ value ∈ values, ∃ item, shape.ofTree item = .ok value := by
  cases tree with
  | arr items =>
    intro value hvalue
    obtain ⟨item, -, hitem⟩ := exists_of_mem_mapM h value hvalue
    exact ⟨item, hitem⟩
  | _ => cases h

end Json.Shape

namespace Resource

/-! ### Metadata -/

theorem OwnerReference.ofTree_toJson (r : OwnerReference) :
    OwnerReference.shape.ofTree r.toJson = .ok r := by
  have fields := member?_of_eq_ofFields (rfl : r.toJson = ofFields _) (by simp)
  simp only [List.forall_mem_cons] at fields
  obtain ⟨given, hgiven⟩ : ∃ given, r.toJson = .obj given := ⟨_, rfl⟩
  rw [hgiven] at fields ⊢
  obtain ⟨version, block, controller, kind, name, uid, -⟩ := fields
  have flag (b : Option Bool) : ∀ a ∈ b, Shape.bool.optional.ofTree (.bool a) = .ok (some a) :=
    fun _ _ => rfl
  exact foldlM_cons_of_ok (Member.ofTree_present version rfl) <|
    foldlM_cons_of_ok (Member.ofTree_optional block (flag _) rfl) <|
    foldlM_cons_of_ok (Member.ofTree_optional controller (flag _) rfl) <|
    foldlM_cons_of_ok (Member.ofTree_present kind rfl) <|
    foldlM_cons_of_ok (Member.ofTree_present name rfl) <|
    foldlM_cons_of_ok (Member.ofTree_present uid rfl) rfl

/-- The fields are not null, and the time is of a year that is kept. -/
def ManagedFields.IsKept (e : ManagedFields) : Prop :=
  e.fields ≠ some .null ∧ ∀ t ∈ e.time, Timestamp.isKept t.date.year

/-- The time is without a fraction of a second. -/
def ManagedFields.HasWholeTime (e : ManagedFields) : Prop := ∀ t ∈ e.time, t.nano = 0

/-- The entry with the fraction of its time left out. -/
def ManagedFields.whole (e : ManagedFields) : ManagedFields :=
  { e with time := e.time.map Timestamp.whole }

@[simp] theorem ManagedFields.toJson_whole (e : ManagedFields) : e.whole.toJson = e.toJson := by
  simp only [toJson, whole, Option.map_map, Function.comp_def, Timestamp.text_whole]

theorem ManagedFields.IsKept.whole {e : ManagedFields} (h : e.IsKept) : e.whole.IsKept := by
  refine ⟨h.1, fun t ht => ?_⟩
  obtain ⟨t, hmem, rfl⟩ := Option.map_eq_some_iff.1 ht
  exact h.2 t hmem

theorem ManagedFields.hasWholeTime_whole (e : ManagedFields) : e.whole.HasWholeTime := by
  intro t ht
  obtain ⟨t, -, rfl⟩ := Option.map_eq_some_iff.1 ht
  rfl

theorem ManagedFields.ofTree_toJson {e : ManagedFields} (h : e.IsKept) (hwhole : e.HasWholeTime) :
    ManagedFields.shape.ofTree e.toJson = .ok e := by
  obtain ⟨hfields, htime⟩ := h
  have members := member?_of_eq_ofFields (rfl : e.toJson = ofFields _) (by simp)
  simp only [List.forall_mem_cons] at members
  obtain ⟨given, hgiven⟩ : ∃ given, e.toJson = .obj given := ⟨_, rfl⟩
  rw [hgiven] at members ⊢
  obtain ⟨version, type, fields, manager, operation, subresource, time, -⟩ := members
  have text (s : Option String) :
      ∀ a ∈ s, Shape.string.optional.ofTree (.str a) = .ok (some a) := fun _ _ => rfl
  have tree : ∀ a ∈ e.fields, Shape.any.optional.ofTree a = .ok (some a) := by
    intro a ha
    exact Shape.ofTree_optional (fun hnull => hfields (hnull ▸ ha)) rfl
  have moment : ∀ t ∈ e.time, Shape.timestamp.optional.ofTree (.str t.text) = .ok (some t) := by
    intro t ht
    rw [Shape.ofTree_timestamp (htime t ht), Timestamp.whole_of_nano (hwhole t ht)]
  exact foldlM_cons_of_ok (Member.ofTree_optional version (text _) rfl) <|
    foldlM_cons_of_ok (Member.ofTree_optional type (text _) rfl) <|
    foldlM_cons_of_ok (Member.ofTree_optional (fields.trans Option.map_id'.symm) tree rfl) <|
    foldlM_cons_of_ok (Member.ofTree_optional manager (text _) rfl) <|
    foldlM_cons_of_ok (Member.ofTree_optional operation (text _) rfl) <|
    foldlM_cons_of_ok (Member.ofTree_optional subresource (text _) rfl) <|
    foldlM_cons_of_ok (Member.ofTree_optional time moment rfl) rfl

namespace Metadata

/-- The times are of years that are kept, and no managed fields are null. -/
def IsKept (m : Metadata) : Prop :=
  (∀ t ∈ m.creationTimestamp, Timestamp.isKept t.date.year) ∧
    (∀ t ∈ m.deletionTimestamp, Timestamp.isKept t.date.year) ∧
    ∀ entries ∈ m.managedFields, ∀ e ∈ entries, e.IsKept

/-- The times are without fractions of a second. -/
def HasWholeTimes (m : Metadata) : Prop :=
  (∀ t ∈ m.creationTimestamp, t.nano = 0) ∧ (∀ t ∈ m.deletionTimestamp, t.nano = 0) ∧
    ∀ entries ∈ m.managedFields, ∀ e ∈ entries, e.HasWholeTime

/-- The metadata is read again as it was written. -/
def IsRestorable (m : Metadata) : Prop := m.IsKept ∧ m.HasWholeTimes

/-- The metadata with the fractions of its times left out. -/
def whole (m : Metadata) : Metadata :=
  { m with
    creationTimestamp := m.creationTimestamp.map Timestamp.whole
    deletionTimestamp := m.deletionTimestamp.map Timestamp.whole
    managedFields := m.managedFields.map fun l => l.map ManagedFields.whole }

theorem IsRestorable.ofTree_toJson {m : Metadata} (h : m.IsRestorable) :
    shape.ofTree m.toJson = .ok m := by
  obtain ⟨⟨hcreated, hdeleted, hmanaged⟩, hcreated', hdeleted', hmanaged'⟩ := h
  have members := member?_of_eq_ofFields (rfl : m.toJson = ofFields _) (by simp)
  simp only [List.forall_mem_cons] at members
  obtain ⟨given, hgiven⟩ : ∃ given, m.toJson = .obj given := ⟨_, rfl⟩
  rw [hgiven] at members ⊢
  obtain ⟨annotations, created, grace, deleted, finalizers, generateName, generation, labels,
    managed, name, space, owners, version, link, uid, -⟩ := members
  have text (s : Option String) :
      ∀ a ∈ s, Shape.string.optional.ofTree (.str a) = .ok (some a) := fun _ _ => rfl
  have number (n : Option Int64) :
      ∀ a ∈ n, Shape.int64.optional.ofTree (ofInt64 a) = .ok (some a) :=
    fun a _ => Shape.ofTree_int64 a
  have table (t : Option (Table String String)) :
      ∀ a ∈ t, Shape.string.table.optional.ofTree (ofTable a) = .ok (some a) :=
    fun a _ => Shape.ofTree_texts a
  have moment {t : Option Timestamp} (ht : ∀ a ∈ t, Timestamp.isKept a.date.year)
      (hwhole : ∀ a ∈ t, a.nano = 0) :
      ∀ a ∈ t, Shape.timestamp.optional.ofTree (.str a.text) = .ok (some a) := by
    intro a ha
    rw [Shape.ofTree_timestamp (ht a ha), Timestamp.whole_of_nano (hwhole a ha)]
  have texts : ∀ l ∈ m.finalizers,
      Shape.string.list.optional.ofTree (ofStrings l) = .ok (some l) :=
    fun l _ => Shape.ofTree_texts_optional l
  have entries : ∀ l ∈ m.managedFields,
      ManagedFields.shape.list.optional.ofTree (.arr (l.map ManagedFields.toJson)) =
        .ok (some l) := fun l hl =>
    Shape.ofTree_optional nofun (Shape.ofTree_list fun e he =>
      ManagedFields.ofTree_toJson (hmanaged l hl e he) (hmanaged' l hl e he))
  have references : ∀ l ∈ m.ownerReferences,
      OwnerReference.shape.list.optional.ofTree (.arr (l.map OwnerReference.toJson)) =
        .ok (some l) := fun l _ =>
    Shape.ofTree_optional nofun (Shape.ofTree_list fun r _ => r.ofTree_toJson)
  exact foldlM_cons_of_ok (Member.ofTree_optional annotations (table _) rfl) <|
    foldlM_cons_of_ok (Member.ofTree_optional created (moment hcreated hcreated') rfl) <|
    foldlM_cons_of_ok (Member.ofTree_optional grace (number _) rfl) <|
    foldlM_cons_of_ok (Member.ofTree_optional deleted (moment hdeleted hdeleted') rfl) <|
    foldlM_cons_of_ok (Member.ofTree_optional finalizers texts rfl) <|
    foldlM_cons_of_ok (Member.ofTree_optional generateName (text _) rfl) <|
    foldlM_cons_of_ok (Member.ofTree_optional generation (number _) rfl) <|
    foldlM_cons_of_ok (Member.ofTree_optional labels (table _) rfl) <|
    foldlM_cons_of_ok (Member.ofTree_optional managed entries rfl) <|
    foldlM_cons_of_ok (Member.ofTree_optional name (text _) rfl) <|
    foldlM_cons_of_ok (Member.ofTree_optional space (text _) rfl) <|
    foldlM_cons_of_ok (Member.ofTree_optional owners references rfl) <|
    foldlM_cons_of_ok (Member.ofTree_optional version (text _) rfl) <|
    foldlM_cons_of_ok (Member.ofTree_optional link (text _) rfl) <|
    foldlM_cons_of_ok (Member.ofTree_optional uid (text _) rfl) rfl

theorem toJson_whole (m : Metadata) : m.whole.toJson = m.toJson := by
  simp only [toJson, whole, Option.map_map, Function.comp_def, Timestamp.text_whole, List.map_map,
    ManagedFields.toJson_whole]

theorem IsKept.isRestorable_whole {m : Metadata} (h : m.IsKept) : m.whole.IsRestorable := by
  obtain ⟨hcreated, hdeleted, hmanaged⟩ := h
  simp only [IsRestorable, IsKept, HasWholeTimes, whole, Option.mem_def, Option.map_eq_some_iff,
    forall_exists_index, and_imp, forall_apply_eq_imp_iff₂, List.mem_map]
  exact ⟨⟨hcreated, hdeleted, fun l hl e he => (hmanaged l hl e he).whole⟩,
    fun _ _ => rfl, fun _ _ => rfl, fun _ _ e _ => e.hasWholeTime_whole⟩

/-- What cannot be read again as it was written is read to the second. -/
theorem IsKept.ofTree_toJson {m : Metadata} (h : m.IsKept) :
    shape.ofTree m.toJson = .ok m.whole := by
  rw [← toJson_whole]
  exact h.isRestorable_whole.ofTree_toJson

/-- Metadata with no more than a name. -/
theorem isRestorable_name (name : Option String) : IsRestorable { name } :=
  ⟨⟨nofun, nofun, nofun⟩, nofun, nofun, nofun⟩

end Metadata

theorem ManagedFields.isKept_of_ofTree {tree : Json} {e : ManagedFields}
    (h : ManagedFields.shape.ofTree tree = .ok e) : e.IsKept := by
  have hdefault : ManagedFields.IsKept {} := ⟨nofun, nofun⟩
  refine Shape.object_keeps hdefault ?_ h
  simp only [List.forall_mem_cons]
  refine ⟨.field fun _ _ _ _ h => h, .field fun _ _ _ _ h => h, .field fun _ _ _ hread h => ?_,
    .field fun _ _ _ _ h => h, .field fun _ _ _ _ h => h, .field fun _ _ _ _ h => h,
    .field fun _ _ _ hread h => ?_, fun _ h => absurd h List.not_mem_nil⟩
  · exact ⟨Shape.ne_null_of_any hread, h.2⟩
  · exact ⟨h.1, Shape.isKept_of_timestamp hread⟩

theorem Metadata.isKept_of_ofTree {tree : Json} {m : Metadata}
    (h : Metadata.shape.ofTree tree = .ok m) : m.IsKept := by
  refine Shape.object_keeps (isRestorable_name none).1 ?_ h
  simp only [List.forall_mem_cons]
  refine ⟨.field fun _ _ _ _ h => h, .field fun _ _ _ hread h => ?_, .field fun _ _ _ _ h => h,
    .field fun _ _ _ hread h => ?_, .field fun _ _ _ _ h => h, .field fun _ _ _ _ h => h,
    .field fun _ _ _ _ h => h, .field fun _ _ _ _ h => h, .field fun _ _ _ hread h => ?_,
    .field fun _ _ _ _ h => h, .field fun _ _ _ _ h => h, .field fun _ _ _ _ h => h,
    .field fun _ _ _ _ h => h, .field fun _ _ _ _ h => h, .field fun _ _ _ _ h => h,
    fun _ h => absurd h List.not_mem_nil⟩
  · exact ⟨Shape.isKept_of_timestamp hread, h.2⟩
  · exact ⟨h.1, Shape.isKept_of_timestamp hread, h.2.2⟩
  · refine ⟨h.1, h.2.1, ?_⟩
    rintro entries rfl e he
    obtain ⟨tree, hentry⟩ := Shape.exists_of_mem_list (Shape.ofTree_of_optional hread) e he
    exact ManagedFields.isKept_of_ofTree hentry

/-! ### Infrastructure -/

theorem FileReference.ofTree_toJson (r : FileReference) :
    FileReference.record.shape.ofTree r.toJson = .ok r := by
  have hfields : r.toJson = .obj [("key", .str r.key), ("name", .str r.name)] :=
    ofFields_eq (.swap _ _ _) (by decide : ["key", "name"].Pairwise (· < ·))
  rw [hfields]
  rfl

/-- The status as it is read again. -/
def InfrastructureStatus.reread (s : InfrastructureStatus) : InfrastructureStatus :=
  ⟨.ofName s.platform.name, s.platformStatus.map fun p => .ofName p.name⟩

theorem InfrastructureStatus.ofTree_toJson (s : InfrastructureStatus) :
    InfrastructureStatus.record.shape.ofTree s.toJson = .ok s.reread := by
  obtain ⟨platform, _ | platformStatus⟩ := s
  · have hfields : toJson ⟨platform, none⟩ =
        .obj [("platform", .str platform.name), ("platformStatus", .null)] :=
      ofFields_eq (.refl _) (by decide : ["platform", "platformStatus"].Pairwise (· < ·))
    rw [hfields]
    rfl
  · have hfields : toJson ⟨platform, some platformStatus⟩ =
        .obj [("platform", .str platform.name),
          ("platformStatus", .obj [("type", .str platformStatus.name)])] :=
      ofFields_eq (.refl _) (by decide : ["platform", "platformStatus"].Pairwise (· < ·))
    rw [hfields]
    rfl

/-- The resource as it is read again. -/
def Infrastructure.reread (i : Infrastructure) : Infrastructure :=
  { i with status := i.status.map InfrastructureStatus.reread }

theorem Infrastructure.ofJson_toJson {i : Infrastructure} {reread : Metadata}
    (h : Metadata.shape.ofTree i.metadata.toJson = .ok reread) :
    ofJson i.toJson = .ok { i.reread with metadata := reread } := by
  have spec : infrastructureSpecRecord.shape.ofTree (.obj [("cloudConfig", i.cloudConfig.toJson)]) =
      .ok i.cloudConfig :=
    Record.ofTree_of_foldlM
      (foldlM_cons_of_ok (Record.ofMember_of_known rfl i.cloudConfig.ofTree_toJson) rfl) rfl
  have front {rest : List (String × Json)} {result : Infrastructure}
      (hrest : rest.foldlM record.ofMember ⟨reread, i.cloudConfig, none⟩ = .ok result) :
      (("apiVersion", .str configVersion) :: ("kind", .str "Infrastructure") ::
        ("metadata", i.metadata.toJson) :: ("spec", .obj [("cloudConfig", i.cloudConfig.toJson)]) ::
          rest).foldlM record.ofMember record.default = .ok result :=
    foldlM_cons_of_ok (Record.ofMember_of_unknown rfl) <|
      foldlM_cons_of_ok (Record.ofMember_of_unknown rfl) <|
      foldlM_cons_of_ok (Record.ofMember_of_known rfl h) <|
      foldlM_cons_of_ok (Record.ofMember_of_known rfl spec) hrest
  obtain ⟨metadata, cloudConfig, _ | status⟩ := i
  · have hfields : toJson ⟨metadata, cloudConfig, none⟩ =
        .obj [("apiVersion", .str configVersion), ("kind", .str "Infrastructure"),
          ("metadata", metadata.toJson), ("spec", .obj [("cloudConfig", cloudConfig.toJson)])] :=
      ofFields_eq (.refl _)
        (by decide : ["apiVersion", "kind", "metadata", "spec"].Pairwise (· < ·))
    rw [hfields]
    exact Record.ofTree_of_foldlM (front rfl) rfl
  · have hfields : toJson ⟨metadata, cloudConfig, some status⟩ =
        .obj [("apiVersion", .str configVersion), ("kind", .str "Infrastructure"),
          ("metadata", metadata.toJson), ("spec", .obj [("cloudConfig", cloudConfig.toJson)]),
          ("status", status.toJson)] :=
      ofFields_eq (.refl _)
        (by decide : ["apiVersion", "kind", "metadata", "spec", "status"].Pairwise (· < ·))
    have hstatus := Shape.ofTree_optional (ofFields_ne_null _) status.ofTree_toJson
    rw [hfields]
    exact Record.ofTree_of_foldlM
      (front (foldlM_cons_of_ok (Record.ofMember_of_known rfl hstatus) rfl)) rfl

/-- The platforms of the status are proper. -/
def InfrastructureStatus.HasProperPlatforms (s : InfrastructureStatus) : Prop :=
  s.platform.IsProper ∧ ∀ p ∈ s.platformStatus, p.IsProper

/-- The platforms of the status, if there is one, are proper. -/
def Infrastructure.HasProperPlatforms (i : Infrastructure) : Prop :=
  ∀ s ∈ i.status, s.HasProperPlatforms

theorem InfrastructureStatus.reread_eq_iff {s : InfrastructureStatus} :
    s.reread = s ↔ s.HasProperPlatforms := by
  obtain ⟨platform, platformStatus⟩ := s
  rw [reread, mk.injEq, Platform.ofName_name_iff, HasProperPlatforms]
  refine and_congr_right' ?_
  cases platformStatus with
  | none => exact iff_of_true rfl nofun
  | some p =>
    simp only [Option.map_some, Option.some.injEq, Platform.ofName_name_iff, Option.mem_some_iff,
      forall_eq']

theorem Infrastructure.reread_eq_iff {i : Infrastructure} :
    i.reread = i ↔ i.HasProperPlatforms := by
  obtain ⟨metadata, cloudConfig, status⟩ := i
  simp only [reread, mk.injEq, true_and, HasProperPlatforms]
  cases status with
  | none => exact iff_of_true rfl nofun
  | some s =>
    simp only [Option.map_some, Option.some.injEq, InfrastructureStatus.reread_eq_iff,
      Option.mem_some_iff, forall_eq']

theorem isProper_of_platformShape {tree : Json} {p : Platform}
    (h : platformShape.ofTree tree = .ok p) : p.IsProper := by
  obtain ⟨name, -, rfl⟩ := exists_of_map_eq_ok h
  exact Platform.isProper_ofName name

theorem isProper_of_platformStatus {tree : Json} {p : Platform}
    (h : platformStatusRecord.shape.ofTree tree = .ok p) : p.IsProper := by
  refine Record.shape_keeps Platform.isProper_unset ?_ h
  exact List.forall_mem_singleton.2 (.field fun _ _ _ hread _ => isProper_of_platformShape hread)

theorem InfrastructureStatus.hasProperPlatforms_of_ofTree {tree : Json} {s : InfrastructureStatus}
    (h : InfrastructureStatus.record.shape.ofTree tree = .ok s) : s.HasProperPlatforms := by
  have hdefault : HasProperPlatforms ⟨.unset, none⟩ := ⟨Platform.isProper_unset, nofun⟩
  refine Record.shape_keeps hdefault ?_ h
  refine List.forall_mem_cons.2 ⟨.field fun _ _ _ hread h => ?_,
    List.forall_mem_singleton.2 (.field fun _ _ _ hread h => ?_)⟩
  · exact ⟨isProper_of_platformShape hread, h.2⟩
  · refine ⟨h.1, ?_⟩
    rintro p rfl
    exact isProper_of_platformStatus (Shape.ofTree_of_optional hread)

theorem Infrastructure.isKept_of_ofJson {tree : Json} {i : Infrastructure}
    (h : ofJson tree = .ok i) : i.metadata.IsKept := by
  refine Record.shape_keeps (P := fun i : Infrastructure => i.metadata.IsKept)
    (Metadata.isRestorable_name none).1 ?_ h
  refine List.forall_mem_cons.2 ⟨.field fun _ _ _ hread _ => Metadata.isKept_of_ofTree hread,
    List.forall_mem_cons.2 ⟨.field fun _ _ _ _ h => h,
      List.forall_mem_singleton.2 (.field fun _ _ _ _ h => h)⟩⟩

theorem Infrastructure.hasProperPlatforms_of_ofJson {tree : Json} {i : Infrastructure}
    (h : ofJson tree = .ok i) : i.HasProperPlatforms := by
  have hdefault : HasProperPlatforms ⟨{}, .none, none⟩ := nofun
  refine Record.shape_keeps hdefault ?_ h
  refine List.forall_mem_cons.2 ⟨.field fun _ _ _ _ h => h,
    List.forall_mem_cons.2 ⟨.field fun _ _ _ _ h => h,
      List.forall_mem_singleton.2 (.field fun _ _ _ hread _ => ?_)⟩⟩
  rintro s rfl
  exact InfrastructureStatus.hasProperPlatforms_of_ofTree (Shape.ofTree_of_optional hread)

/-! ### Feature gates -/

theorem CustomFeatures.ofTree_toJson (c : CustomFeatures) :
    CustomFeatures.record.shape.ofTree c.toJson = .ok c := by
  have hfields : c.toJson =
      .obj [("disabled", ofStrings c.disabled), ("enabled", ofStrings c.enabled)] :=
    ofFields_eq (.swap _ _ _) (by decide : ["disabled", "enabled"].Pairwise (· < ·))
  rw [hfields]
  exact Record.ofTree_of_foldlM
    (foldlM_cons_of_ok (Record.ofMember_of_known rfl (Shape.ofTree_list fun _ _ => rfl)) <|
      foldlM_cons_of_ok (Record.ofMember_of_known rfl (Shape.ofTree_list fun _ _ => rfl)) rfl) rfl

theorem FeatureSelection.ofTree_toJson (f : FeatureSelection) :
    FeatureSelection.record.shape.ofTree f.toJson = .ok f := by
  obtain ⟨featureSet, _ | custom⟩ := f
  · have hfields : toJson ⟨featureSet, none⟩ =
        .obj [("customNoUpgrade", .null), ("featureSet", .str featureSet)] :=
      ofFields_eq (.swap _ _ _) (by decide : ["customNoUpgrade", "featureSet"].Pairwise (· < ·))
    rw [hfields]
    rfl
  · have hfields : toJson ⟨featureSet, some custom⟩ =
        .obj [("customNoUpgrade", custom.toJson), ("featureSet", .str featureSet)] :=
      ofFields_eq (.swap _ _ _) (by decide : ["customNoUpgrade", "featureSet"].Pairwise (· < ·))
    have hcustom := Shape.ofTree_optional (ofFields_ne_null _) custom.ofTree_toJson
    rw [hfields]
    exact Record.ofTree_of_foldlM
      (foldlM_cons_of_ok (Record.ofMember_of_known rfl hcustom) <|
        foldlM_cons_of_ok (Record.ofMember_of_known rfl rfl) rfl) rfl

theorem FeatureGate.ofJson_toJson {g : FeatureGate} {reread : Metadata}
    (h : Metadata.shape.ofTree g.metadata.toJson = .ok reread) :
    ofJson g.toJson = .ok { g with metadata := reread } := by
  have hfields : g.toJson =
      .obj [("apiVersion", .str configVersion), ("kind", .str "FeatureGate"),
        ("metadata", g.metadata.toJson), ("spec", g.selection.toJson)] :=
    ofFields_eq (.refl _) (by decide : ["apiVersion", "kind", "metadata", "spec"].Pairwise (· < ·))
  rw [hfields]
  exact Record.ofTree_of_foldlM
    (foldlM_cons_of_ok (Record.ofMember_of_unknown rfl) <|
      foldlM_cons_of_ok (Record.ofMember_of_unknown rfl) <|
      foldlM_cons_of_ok (Record.ofMember_of_known rfl h) <|
      foldlM_cons_of_ok (Record.ofMember_of_known rfl g.selection.ofTree_toJson) rfl) rfl

theorem FeatureGate.isKept_of_ofJson {tree : Json} {g : FeatureGate}
    (h : ofJson tree = .ok g) : g.metadata.IsKept := by
  refine Record.shape_keeps (P := fun g : FeatureGate => g.metadata.IsKept)
    (Metadata.isRestorable_name none).1 ?_ h
  exact List.forall_mem_cons.2 ⟨.field fun _ _ _ hread _ => Metadata.isKept_of_ofTree hread,
    List.forall_mem_singleton.2 (.field fun _ _ _ _ h => h)⟩

/-! ### Both -/

/-- Any text read as a platform and written again is that text. An `Infrastructure` is read again as
it was written exactly if no platform in it is an unrecognized one with the empty name or one of the
twelve names, and a `FeatureGate` always is. This is so whatever the metadata, but for moments too
far away to be kept or with a fraction of a second, and for null as managed fields: with any name,
and in all that was read with times of whole seconds. Whatever else was read is read again with
those fractions left out. What was read is such an `Infrastructure`, too. -/
theorem reading_undoes_writing :
    (∀ s, (Platform.ofName s).name = s) ∧
    (∀ i : Infrastructure, i.metadata.IsRestorable →
      (Infrastructure.ofJson i.toJson = .ok i ↔ i.HasProperPlatforms)) ∧
    (∀ g : FeatureGate, g.metadata.IsRestorable → FeatureGate.ofJson g.toJson = .ok g) ∧
    (∀ name : Option String, Metadata.IsRestorable { name }) ∧
    (∀ tree i, Infrastructure.ofJson tree = .ok i →
      (i.metadata.IsRestorable ↔ i.metadata.HasWholeTimes) ∧ i.HasProperPlatforms ∧
        Infrastructure.ofJson i.toJson = .ok { i with metadata := i.metadata.whole }) ∧
    ∀ tree g, FeatureGate.ofJson tree = .ok g →
      (g.metadata.IsRestorable ↔ g.metadata.HasWholeTimes) ∧
        FeatureGate.ofJson g.toJson = .ok { g with metadata := g.metadata.whole } := by
  refine ⟨Platform.name_ofName, fun i h => ?_, fun g h => FeatureGate.ofJson_toJson h.ofTree_toJson,
    Metadata.isRestorable_name, fun tree i h => ?_, fun tree g h => ?_⟩
  · rw [Infrastructure.ofJson_toJson h.ofTree_toJson, Except.ok.injEq]
    exact Infrastructure.reread_eq_iff
  · have hkept := Infrastructure.isKept_of_ofJson h
    have hproper := Infrastructure.hasProperPlatforms_of_ofJson h
    refine ⟨and_iff_right hkept, hproper, ?_⟩
    rw [Infrastructure.ofJson_toJson hkept.ofTree_toJson, Infrastructure.reread_eq_iff.2 hproper]
  · have hkept := FeatureGate.isKept_of_ofJson h
    exact ⟨and_iff_right hkept, FeatureGate.ofJson_toJson hkept.ofTree_toJson⟩

/-- A cluster on a platform that is not recognized, by what is said to be its name. -/
def clusterOn (name : String) : Infrastructure :=
  ⟨{ name := some "cluster" }, ⟨"site", "config"⟩, some ⟨.unset, some (.unrecognized name)⟩⟩

/-- A name of its own is kept, one of the twelve is taken for the platform that has it. -/
theorem platform_reread_unless_renamed :
    Infrastructure.ofJson (clusterOn "Nimbus").toJson = .ok (clusterOn "Nimbus") ∧
      Infrastructure.ofJson (clusterOn "AWS").toJson ≠ .ok (clusterOn "AWS") := by
  obtain ⟨-, reads, -, named, -⟩ := reading_undoes_writing
  constructor
  · refine (reads (clusterOn "Nimbus") (named _)).2 ?_
    rintro s ⟨⟩
    refine ⟨Platform.isProper_unset, ?_⟩
    rintro p ⟨⟩
    exact Platform.ofName_name_iff.1 (by decide)
  · intro h
    have proper := (reads (clusterOn "AWS") (named _)).1 h
    exact ((proper _ rfl).2 _ rfl "AWS" rfl).2 .aws (by decide) rfl

end Resource

end CloudFlags
