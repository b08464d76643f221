import CloudFlags.Proofs.Json.ConfigMaps
import CloudFlags.Proofs.Pass
import CloudFlags.Scenario.Outage

/-! Publishing to a server whose answers can be lost. If the request can be sent at all, publishing
fails exactly when there is something to send and no answer arrives. -/

namespace CloudFlags

open Api Json Resource

theorem Api.Request.fault?_applyMap (location : Location) (contents contents' : Contents) :
    (Request.applyMap location contents).fault? = (Request.applyMap location contents').fault? := by
  simp only [fault?, objectName?, address, target]
  rfl

/-! ### What is sent, and how the answers read -/

/-- A published tree is a text, and no bytes go with it. -/
theorem Operator.encoded_publishedContents (tree : Json) : (publishedContents tree).Encoded :=
  fun _ h => by cases h

/-- The answer with which a published tree is acknowledged can be read. -/
theorem Operator.read_published (location : Location) (tree : Json) :
    Reply.read (ConfigMap.shape.map fun _ => ())
      (.answered 200 (.tree (Request.mapBody location (publishedContents tree)))) = .ok () :=
  (encoded_publishedContents tree).read_mapBody location

namespace Api

/-- A removal that was carried out is told so. -/
theorem read_removed : removed.read Status.removalShape = .ok () := by
  have hremoved : removed =
      .answered 200 (.tree (.obj [("kind", .str "Status"), ("status", .str "Success")])) := by
    simp only [removed, ofFields, Entries.arrange, Entries.insert, List.filterMap_cons_some,
      List.filterMap_nil, List.foldl_cons, List.foldl_nil, Option.map_some, Option.some.injEq,
      String.reduceEq, String.reduceLT, ↓reduceIte]
  rw [hremoved]
  rfl

/-- One of what does not exist is refused with the code for that. -/
theorem read_refusal (reason message : String) :
    (refusal 404 reason message).read Status.removalShape =
      .error (.rejected ⟨"Failure", message, reason, 404⟩) := by
  have hrefusal : refusal 404 reason message =
      .answered 404 (.tree (.obj [("code", ofNat 404), ("kind", .str "Status"),
        ("message", .str message), ("reason", .str reason), ("status", .str "Failure")])) := by
    simp only [refusal, ofFields, Entries.arrange, Entries.insert, List.filterMap_cons_some,
      List.filterMap_nil, List.foldl_cons, List.foldl_nil, Option.map_some, Option.some.injEq,
      String.reduceEq, String.reduceLT, ↓reduceIte]
  rw [hrefusal]
  rfl

end Api

namespace Scenario

open Operator

namespace LossyServer

variable {o : Observer} {x : Occasion LossyServer}

theorem answered_iff : (x.answered o api).1 = .ok () ↔ x.server.isMute = false := by
  have hread := read_published ⟨o.space, publishedName⟩ (x.target o)
  simp only [Occasion.answered, Occasion.request, api, answer, Store.answer]
  cases x.server.isMute with
  | false => exact iff_of_true hread rfl
  | true =>
    constructor
    · intro h
      cases h
    · intro h
      cases h

theorem publishes_iff (sendable : (x.request o).fault? = none) :
    x.Publishes o api ↔ x.target o = x.memory.tree ∨ x.server.isMute = false := by
  by_cases h : x.target o = x.memory.tree
  · exact iff_of_true (Occasion.publishes_of_target_eq h) (.inl h)
  · rw [Occasion.publishes_iff_of_ne h, answered_iff]
    exact ⟨fun h => .inr h.2, fun hor => ⟨sendable, hor.resolve_left h⟩⟩

/-- While answers arrive, removing a copy succeeds, whether there is one or not. -/
theorem removeCopy_of_unmuted {location : Location} {server : LossyServer}
    (sendable : (Request.removeMap location).fault? = none) (h : server.isMute = false) :
    (removeCopy api location server).value.1 = .ok () := by
  simp only [removeCopy, Exchange.bind_apply, Exchange.removeMap, Exchange.ask, sendable,
    Exchange.send, api, answer, h, Store.answer]
  cases server.store.reach? location with
  | none =>
    simp only [missing, Bool.false_eq_true, ↓reduceIte, Exchange.pure_apply, read_refusal]
    rfl
  | some reached =>
    simp only [Bool.false_eq_true, ↓reduceIte, Exchange.pure_apply, read_removed]
    rfl

/-- Carrying out the one rule that a copy is to be removed then succeeds as well. -/
theorem reconcile_of_unmuted {destination : Location} {server : LossyServer}
    (sendable : (Request.removeMap destination).fault? = none) (h : server.isMute = false) :
    (reconcile api (SyncRules.enforce Table.empty ⟨destination, .nowhere⟩) server).value.1 =
      .ok () := by
  have hremoved := removeCopy_of_unmuted sendable h
  show (carryOutAll api [⟨destination, .nowhere⟩] server).value.1 = .ok ()
  have hcarried : (carryOut api ⟨destination, .nowhere⟩ server).value.1 = .ok () := hremoved
  simp only [carryOutAll, Exchange.bind_apply, hcarried]
  rfl

end LossyServer

/-- For an operand with the default settings a tree can be sent. -/
theorem fault?_publishStandard (contents : Contents) :
    (Request.applyMap ⟨standardObserver.space, publishedName⟩ contents).fault? = none := by
  -- whether it can be sent does not depend on what is sent
  rw [Request.fault?_applyMap _ _ ⟨none, none⟩]
  decide +kernel

theorem fault?_standardObserver {σ : Type} (x : Occasion σ) :
    (x.request standardObserver).fault? = none :=
  fault?_publishStandard _

theorem fault?_removeCopy :
    (Request.removeMap standardObserver.copyLocation).fault? = none := by
  decide +kernel

/-- With a known feature set an observation of the cluster on AWS goes through every stage. -/
theorem settles_awsCache_of_space {o : Observer} (space : o.space.isEmpty = false)
    (configName : String) :
    o.Settles (awsCache configName "").cluster SyncRule.check
      (awsInfrastructure configName) false none where
  found := rfl
  decided := rfl
  looked := by
    have hshelf : Cache.standard.configMaps.find? ConfigSource.managed.location.space = some {} :=
      rfl
    simp only [Cache.cluster, Cache.configMap, awsCache, hshelf]
    rfl
  accepted := Observer.check_copyRule space _

theorem settles_awsCache (configName : String) :
    standardObserver.Settles (awsCache configName "").cluster SyncRule.check
      (awsInfrastructure configName) false none :=
  settles_awsCache_of_space (by decide) configName

/-- With one that is unknown it fails at the feature gate. -/
theorem failsAt_awsCache (configName : String) :
    standardObserver.FailsAt (awsCache configName "Unknown").cluster SyncRule.check
      .externalProvider (.externalProviderState (.unknownFeatureSet "Unknown")) :=
  .externalProvider rfl rfl rfl

end Scenario

end CloudFlags
