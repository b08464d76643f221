import CloudFlags.Flags

/-! Two paths of which neither begins the other. Writing at the one leaves what stands at the other.
It gets stuck on something that stands on its way and is no object, and on nothing else
(`Json.stuck?_write_eq_some_iff`), so never on what was written at a path apart. So the trees with
nothing but two given values at the two paths of flags can be described by those values alone
(`FlagPaths.treeOf`): writing flags makes one and cannot fail, `restrict` makes one of any tree, what
stands at either path is read back from it, and restricting it changes nothing. -/

namespace CloudFlags

namespace Json

/-- Neither list of keys begins the other. -/
def LeadApart (p q : List String) : Prop := ¬ p <+: q ∧ ¬ q <+: p

namespace LeadApart

variable {p q : List String}

theorem symm (h : LeadApart p q) : LeadApart q p := ⟨h.2, h.1⟩

theorem ne_nil (h : LeadApart p q) : q ≠ [] := by
  rintro rfl
  exact h.2 List.nil_prefix

theorem of_cons {key : String} (h : LeadApart (key :: p) (key :: q)) : LeadApart p q :=
  ⟨fun hpq => h.1 (List.cons_prefix_cons.2 ⟨rfl, hpq⟩),
    fun hqp => h.2 (List.cons_prefix_cons.2 ⟨rfl, hqp⟩)⟩

end LeadApart

theorem get?_empty {keys : List String} (h : keys ≠ []) : get? keys empty = none := by
  cases keys with
  | nil => exact absurd rfl h
  | cons key rest => rfl

/-! ### Writing at one of two paths -/

/-- What stands at a path apart from the one written stays, even if writing gets stuck. -/
theorem get?_write_of_leadApart {p q : List String} (h : LeadApart p q) (value tree : Json) :
    get? q (write value p tree).tree = get? q tree := by
  induction p generalizing q tree with
  | nil => exact absurd List.nil_prefix h.1
  | cons key p ih =>
    cases q with
    | nil => exact absurd List.nil_prefix h.2
    | cons key' q =>
      cases tree with
      | obj members =>
        simp only [write, get?_cons, member?, members?, Option.bind_some]
        by_cases hk : key' = key
        · subst hk
          have hpq : LeadApart p q := h.of_cons
          rw [Entries.find?_insert_self, Option.bind_some, ih hpq]
          cases Entries.find? key' members with
          | none => exact get?_empty hpq.ne_nil
          | some value => rfl
        · rw [Entries.find?_insert_of_ne hk]
      | _ => rfl

theorem stuck?_write_empty (value : Json) (p : List String) :
    (write value p empty).stuck? = none := by
  induction p with
  | nil => rfl
  | cons key p ih => exact ih

/-- Writing goes on in the member of the first key; in a new one there is room. -/
theorem stuck?_write_obj (value : Json) (key : String) (rest : List String)
    (members : List (String × Json)) :
    (write value (key :: rest) (.obj members)).stuck? =
      (Entries.find? key members).bind fun next => (write value rest next).stuck? := by
  simp only [write]
  cases Entries.find? key members with
  | none => exact stuck?_write_empty value rest
  | some next => rfl

/-- Writing gets stuck where a key is to be looked up in something that is no object. -/
theorem stuck?_write_eq_some_iff {value tree : Json} {keys : List String} {key : String} :
    (write value keys tree).stuck? = some key ↔
      ∃ before rest found, keys = before ++ key :: rest ∧ get? before tree = some found ∧
        ∀ members, found ≠ .obj members := by
  induction keys generalizing tree with
  | nil => simp [write]
  | cons first keys ih =>
    cases tree with
    | obj members =>
      rw [stuck?_write_obj, Option.bind_eq_some_iff]
      constructor
      · rintro ⟨next, hnext, hstuck⟩
        obtain ⟨before, rest, found, rfl, hfound, hother⟩ := ih.1 hstuck
        exact ⟨first :: before, rest, found, rfl, Option.bind_eq_some_iff.2 ⟨next, hnext, hfound⟩,
          hother⟩
      · rintro ⟨before, rest, found, hkeys, hfound, hother⟩
        cases before with
        | nil =>
          cases hfound
          exact absurd rfl (hother members)
        | cons first' before =>
          cases hkeys
          obtain ⟨next, hnext, hfound⟩ := Option.bind_eq_some_iff.1 hfound
          exact ⟨next, hnext, ih.2 ⟨before, rest, found, rfl, hfound, hother⟩⟩
    | _ =>
      constructor
      · intro h
        cases h
        refine ⟨[], keys, _, rfl, rfl, fun members hobj => ?_⟩
        cases hobj
      · rintro ⟨before, rest, found, hkeys, hfound, -⟩
        cases before with
        | nil =>
          cases hkeys
          rfl
        | cons first' before => cases hfound

/-- After a first value was written into the empty tree, there is room for a second one apart. -/
theorem stuck?_write_write_empty {p q : List String} (h : LeadApart p q) (first second : Json) :
    (write second q (write first p empty).tree).stuck? = none := by
  induction p generalizing q with
  | nil => exact absurd List.nil_prefix h.1
  | cons key p ih =>
    cases q with
    | nil => exact absurd List.nil_prefix h.2
    | cons key' q =>
      simp only [write, empty]
      by_cases hk : key' = key
      · subst hk
        rw [Entries.find?_insert_self]
        exact ih h.of_cons
      · rw [Entries.find?_insert_of_ne hk]
        exact stuck?_write_empty second q

/-- Puts a value where the keys lead, if there is one. -/
def place (keys : List String) (value : Option Json) (tree : Json) : Json :=
  match value with
  | some value => (write value keys tree).tree
  | none => tree

theorem get?_place_of_leadApart {p q : List String} (h : LeadApart p q) (value : Option Json)
    (tree : Json) : get? q (place p value tree) = get? q tree := by
  cases value with
  | none => rfl
  | some value => exact get?_write_of_leadApart h value tree

theorem get?_place_empty {p : List String} (h : p ≠ []) (value : Option Json) :
    get? p (place p value empty) = value := by
  cases value with
  | none => exact get?_empty h
  | some value => exact get?_write (stuck?_write_empty value p)

theorem stuck?_write_place_empty {p q : List String} (h : LeadApart p q) (first : Option Json)
    (second : Json) : (write second q (place p first empty)).stuck? = none := by
  cases first with
  | none => exact stuck?_write_empty second q
  | some first => exact stuck?_write_write_empty h first second

end Json

/-! ### Reading and writing at a path -/

namespace KeyPath

theorem set_eq_ok {path : KeyPath} {value tree : Json}
    (h : (Json.write value path.keys tree).stuck? = none) :
    path.set value tree = .ok (Json.write value path.keys tree).tree := by
  simp only [set, Json.set, h]
  rfl

theorem write_ok_iff {path : KeyPath} {value tree : Json} :
    (path.write value tree).2 = .ok () ↔ (Json.write value path.keys tree).stuck? = none := by
  rw [write]
  cases (Json.write value path.keys tree).stuck? <;> simp

theorem readItem_eq_ok_iff {path : KeyPath} {item : Json} {s : String} :
    path.readItem item = .ok s ↔ item = .str s := by
  cases item <;> simp [readItem, Json.str?]

/-- The items are read as texts if they are texts. -/
theorem mapM_readItem_eq_ok_iff {path : KeyPath} {items : List Json} {texts : List String} :
    items.mapM path.readItem = .ok texts ↔ items = texts.map .str := by
  induction items generalizing texts with
  | nil => cases texts <;> simp [pure, Except.pure]
  | cons item rest ih =>
    rw [List.mapM_cons]
    cases texts with
    | nil =>
      cases path.readItem item <;> cases rest.mapM path.readItem <;>
        simp [bind, Except.bind, pure, Except.pure]
    | cons s texts =>
      rw [List.map_cons, List.cons.injEq, ← ih, ← @readItem_eq_ok_iff path]
      cases path.readItem item <;> cases rest.mapM path.readItem <;>
        simp [bind, Except.bind, pure, Except.pure]

/-- A list of texts is read where one stands, and nowhere else. -/
theorem readList_eq_some_iff {path : KeyPath} {tree : Json} {texts : List String} :
    path.readList tree = .ok (some texts) ↔ path.get? tree = some (Json.ofStrings texts) := by
  unfold readList
  cases path.get? tree with
  | none => simp
  | some value =>
    cases value with
    | arr items =>
      simp only [Json.items?, Json.ofStrings, Option.some.injEq, Json.arr.injEq]
      rw [← @mapM_readItem_eq_ok_iff path]
      cases items.mapM path.readItem <;> simp [Except.map]
    | _ => simp [Json.items?, Json.ofStrings]

theorem readItem_eq_error {path : KeyPath} {item : Json} {e : Error}
    (h : path.readItem item = .error e) : ∃ reason, e = path.undecodable reason := by
  unfold readItem at h
  split at h
  · cases h
  · cases h
    exact ⟨_, rfl⟩

theorem mapM_readItem_eq_error {path : KeyPath} {items : List Json} {e : Error}
    (h : items.mapM path.readItem = .error e) : ∃ reason, e = path.undecodable reason := by
  induction items with
  | nil => cases h
  | cons item rest ih =>
    rw [List.mapM_cons] at h
    cases hitem : path.readItem item with
    | error e' =>
      rw [hitem] at h
      cases h
      exact readItem_eq_error hitem
    | ok s =>
      cases hrest : rest.mapM path.readItem with
      | error e' =>
        rw [hitem, hrest] at h
        cases h
        exact ih hrest
      | ok texts =>
        rw [hitem, hrest] at h
        cases h

/-- All that can go wrong in reading a list is that something else stands at its path. -/
theorem readList_eq_error {path : KeyPath} {tree : Json} {e : Error}
    (h : path.readList tree = .error e) : ∃ reason, e = path.undecodable reason := by
  unfold readList at h
  split at h
  · cases h
  · split at h
    · next items _ =>
      cases hitems : items.mapM path.readItem with
      | error e' =>
        rw [hitems] at h
        cases h
        exact mapM_readItem_eq_error hitems
      | ok texts =>
        rw [hitems] at h
        cases h
    · cases h
      exact ⟨_, rfl⟩

theorem readList_single {path : KeyPath} {tree : Json} {s : String}
    (h : path.get? tree = some (Json.single s)) : path.readList tree = .ok (some [s]) :=
  readList_eq_some_iff.2 h

theorem readSingle_single {path : KeyPath} {tree : Json} {s : String}
    (h : path.get? tree = some (Json.single s)) : path.readSingle tree = .ok (some s) := by
  simp only [readSingle, readList_single h]

theorem readSingle_none {path : KeyPath} {tree : Json} (h : path.get? tree = none) :
    path.readSingle tree = .ok none := by
  simp only [readSingle, readList, h]

/-- What is read at a path depends on what stands there alone. -/
theorem readList_congr {path : KeyPath} {t t' : Json} (h : path.get? t = path.get? t') :
    path.readList t = path.readList t' := by
  simp only [readList, h]

theorem readSingle_congr {path : KeyPath} {t t' : Json} (h : path.get? t = path.get? t') :
    path.readSingle t = path.readSingle t' := by
  simp only [readSingle, readList_congr h]

end KeyPath

/-! ### Trees of two values -/

namespace FlagPaths

theorem leadApart (paths : FlagPaths) :
    Json.LeadApart paths.name.keys paths.config.keys := by
  obtain ⟨hn, hc⟩ := paths.apart
  simp only [KeyPath.isPrefixOf] at hn hc
  exact ⟨fun h => by simp [List.isPrefixOf_iff_prefix.2 h] at hn,
    fun h => by simp [List.isPrefixOf_iff_prefix.2 h] at hc⟩

/-- The tree that holds the values given for the two paths, and nothing else. -/
def treeOf (paths : FlagPaths) (atName atConfig : Option Json) : Json :=
  Json.place paths.config.keys atConfig (Json.place paths.name.keys atName Json.empty)

variable (paths : FlagPaths) (u v : Option Json)

@[simp] theorem get?_name_treeOf : paths.name.get? (paths.treeOf u v) = u := by
  rw [KeyPath.get?, treeOf, Json.get?_place_of_leadApart paths.leadApart.symm,
    Json.get?_place_empty paths.name.keys_ne_nil]

@[simp] theorem get?_config_treeOf : paths.config.get? (paths.treeOf u v) = v := by
  rw [KeyPath.get?, treeOf]
  cases v with
  | none =>
    rw [Json.place, Json.get?_place_of_leadApart paths.leadApart]
    exact Json.get?_empty paths.config.keys_ne_nil
  | some value => exact Json.get?_write (Json.stuck?_write_place_empty paths.leadApart u value)

theorem copyAt_eq_place (path : KeyPath) (source target : Json) :
    copyAt path source target = Json.place path.keys (path.get? source) target := by
  rw [copyAt]
  cases path.get? source <;> rfl

theorem restrict_eq_treeOf (tree : Json) :
    paths.restrict tree = paths.treeOf (paths.name.get? tree) (paths.config.get? tree) := by
  rw [restrict, copyAt_eq_place, copyAt_eq_place, treeOf]

@[simp] theorem restrict_treeOf : paths.restrict (paths.treeOf u v) = paths.treeOf u v := by
  rw [restrict_eq_treeOf, get?_name_treeOf, get?_config_treeOf]

@[simp] theorem get?_name_restrict (tree : Json) :
    paths.name.get? (paths.restrict tree) = paths.name.get? tree := by
  rw [restrict_eq_treeOf, get?_name_treeOf]

@[simp] theorem get?_config_restrict (tree : Json) :
    paths.config.get? (paths.restrict tree) = paths.config.get? tree := by
  rw [restrict_eq_treeOf, get?_config_treeOf]

@[simp] theorem restrict_restrict (tree : Json) :
    paths.restrict (paths.restrict tree) = paths.restrict tree := by
  rw [restrict_eq_treeOf paths tree, restrict_treeOf]

/-- Two trees hold the same at both paths. -/
structure Alike (paths : FlagPaths) (t t' : Json) : Prop where
  name : paths.name.get? t = paths.name.get? t'
  config : paths.config.get? t = paths.config.get? t'

theorem alike_restrict (tree : Json) : paths.Alike (paths.restrict tree) tree :=
  ⟨paths.get?_name_restrict tree, paths.get?_config_restrict tree⟩

/-- Flags are read at the two paths alone, errors included. -/
theorem Alike.read_eq {paths : FlagPaths} {t t' : Json} (h : paths.Alike t t') :
    paths.read t = paths.read t' := by
  simp only [read, Flags.read, Flags.readOne, KeyPath.readSingle_congr h.name,
    KeyPath.readSingle_congr h.config]

theorem Alike.restrict_eq {paths : FlagPaths} {t t' : Json} (h : paths.Alike t t') :
    paths.restrict t = paths.restrict t' := by
  rw [restrict_eq_treeOf, restrict_eq_treeOf, h.name, h.config]

/-- Writing flags cannot fail: the paths lead apart. -/
theorem write_eq_ok (flags : Flags) :
    paths.write flags =
      .ok (paths.treeOf (flags.providerName.map Json.single)
        (flags.configFile.map Json.single)) := by
  have hname : Flags.writeOne paths.name flags.providerName Json.empty =
      .ok (Json.place paths.name.keys (flags.providerName.map Json.single) Json.empty) := by
    cases flags.providerName with
    | none => rfl
    | some name => exact KeyPath.set_eq_ok (Json.stuck?_write_empty _ _)
  have hconfig : Flags.writeOne paths.config flags.configFile
      (Json.place paths.name.keys (flags.providerName.map Json.single) Json.empty) =
      .ok (paths.treeOf (flags.providerName.map Json.single)
        (flags.configFile.map Json.single)) := by
    cases flags.configFile with
    | none => rfl
    | some file => exact KeyPath.set_eq_ok (Json.stuck?_write_place_empty paths.leadApart _ _)
  rw [write, Flags.write, hname]
  exact hconfig

end FlagPaths

end CloudFlags
