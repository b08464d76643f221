import CloudFlags.Proofs.Paths

/-! Two paths encode flags if every pair of flags can be written at them and is read back without an
error. Paths of which neither begins the other do, and the order of writing makes no difference; so
flags never fail to be written at the paths that are let through. All others do not: what is
written at the second path either covers the first flag or gets stuck on it. So the check of paths
asks for exactly what the encoding needs (`FlagPaths.ofPaths_iff_encode`). -/

namespace CloudFlags

/-- Of two keys, either may be written first. -/
theorem Entries.insert_insert_nil {κ ν : Type} [DecidableEq κ] [LT κ] [DecidableLT κ] [KeyOrder κ]
    {k l : κ} (h : l ≠ k) (v w : ν) :
    insert l w (insert k v []) = insert k v (insert l w []) := by
  have h' : k ≠ l := h.symm
  by_cases hlt : l < k
  · have hnot : ¬ k < l := fun hgt => KeyOrder.lt_irrefl l (KeyOrder.lt_trans hlt hgt)
    simp only [insert, h, h', hlt, hnot, ↓reduceIte]
  · have hgt : k < l := KeyOrder.lt_of_not hlt h
    simp only [insert, h, h', hlt, hgt, ↓reduceIte]

namespace Json

variable {p q : List String}

/-! ### The order of writing -/

/-- Of two paths apart, either may be written first. -/
theorem tree_write_write_empty (h : LeadApart p q) (u v : Json) :
    (write v q (write u p empty).tree).tree = (write u p (write v q empty).tree).tree := by
  induction p generalizing q with
  | nil => exact absurd List.nil_prefix h.1
  | cons key p ih =>
    cases q with
    | nil => exact absurd List.nil_prefix h.2
    | cons key' q =>
      simp only [write, empty]
      by_cases hk : key' = key
      · subst hk
        -- both paths go through one object, in which they are written as from the start
        have hinner := ih h.of_cons
        simp only [empty] at hinner
        rw [Entries.find?_insert_self, Entries.find?_insert_self, Option.getD_some,
          Option.getD_some, Entries.find?_nil, Option.getD_none, hinner]
        simp only [Entries.insert, ↓reduceIte]
      · rw [Entries.find?_insert_of_ne hk, Entries.find?_insert_of_ne (Ne.symm hk)]
        exact congrArg obj (Entries.insert_insert_nil hk _ _)

theorem place_place_empty (h : LeadApart p q) (u v : Option Json) :
    place q v (place p u empty) = place p u (place q v empty) := by
  cases u with
  | none => rfl
  | some u =>
    cases v with
    | none => rfl
    | some v => exact tree_write_write_empty h u v

/-! ### A path that begins another -/

/-- Past a text in a list no key leads any further. -/
theorem get?_single {keys : List String} (h : keys ≠ []) (s : String) :
    get? keys (single s) = none := by
  cases keys with
  | nil => exact absurd rfl h
  | cons key rest => rfl

/-- Writing past a text in a list gets stuck there. -/
theorem stuck?_write_past_single {s : String} {tree : Json} (key : String) (rest : List String)
    (value : Json) (h : get? p tree = some (single s)) :
    (write value (p ++ key :: rest) tree).stuck? = some key := by
  refine stuck?_write_eq_some_iff.2 ⟨p, rest, single s, rfl, h, fun members hobj => ?_⟩
  cases hobj

end Json

namespace KeyPath

variable {p q : KeyPath}

/-- Where a path has been written, another one that it begins reads the same text or nothing. -/
theorem readSingle_of_begins {tree : Json} {s : String} (h : q.keys <+: p.keys)
    (hq : q.get? tree = some (Json.single s)) :
    p.readSingle tree = .ok (some s) ∨ p.readSingle tree = .ok none := by
  obtain ⟨rest, hrest⟩ := h
  have hp : p.get? tree = Json.get? rest (Json.single s) := by
    rw [get?] at hq ⊢
    rw [← hrest, Json.get?_append, hq, Option.bind_some]
  by_cases hnil : rest = []
  · subst hnil
    exact .inl (readSingle_single hp)
  · exact .inr (readSingle_none (hp.trans (Json.get?_single hnil s)))

theorem set_empty (path : KeyPath) (value : Json) :
    path.set value Json.empty = .ok (Json.write value path.keys Json.empty).tree :=
  set_eq_ok (Json.stuck?_write_empty value path.keys)

theorem get?_of_set {path : KeyPath} {value tree t : Json} (h : path.set value tree = .ok t) :
    path.get? t = some value := by
  cases hset : Json.set value path.keys tree with
  | error key =>
    rw [set, hset] at h
    cases h
  | ok written =>
    rw [set, hset] at h
    cases h
    exact Json.get?_of_set hset

theorem not_set_of_stuck {path : KeyPath} {value tree : Json} {key : String}
    (h : (Json.write value path.keys tree).stuck? = some key) (t : Json) :
    path.set value tree ≠ .ok t := by
  simp only [set, Json.set, h]
  intro h
  cases h

/-- Every pair of flags can be written at the two paths, and is read back. -/
def Encode (name config : KeyPath) : Prop :=
  ∀ flags : Flags, ∃ tree, flags.write name config = .ok tree ∧
    Flags.read name config tree = (flags, [])

/-- A second path that begins the first covers the first flag. -/
theorem not_encode_of_covered (h : q.keys <+: p.keys) : ¬ Encode p q := by
  intro hencode
  obtain ⟨tree, hwrite, hread⟩ := hencode ⟨some "first", some "second"⟩
  have hset : q.set (Json.single "second")
      (Json.write (Json.single "first") p.keys Json.empty).tree = .ok tree := by
    rw [Flags.write, Flags.writeOne, set_empty] at hwrite
    exact hwrite
  have hname : (Flags.readOne p tree).1 = some "first" :=
    congrArg (fun read => read.1.providerName) hread
  rw [Flags.readOne] at hname
  rcases readSingle_of_begins h (get?_of_set hset) with hp | hp
  · rw [hp] at hname
    exact absurd hname (by decide)
  · rw [hp] at hname
    cases hname

/-- A second path that the first begins gets stuck on the first flag. -/
theorem not_encode_of_stuck {key : String} {rest : List String}
    (h : q.keys = p.keys ++ key :: rest) : ¬ Encode p q := by
  intro hencode
  obtain ⟨tree, hwrite, -⟩ := hencode ⟨some "first", some "second"⟩
  have hfirst : Json.get? p.keys (Json.write (Json.single "first") p.keys Json.empty).tree =
      some (Json.single "first") :=
    Json.get?_write (Json.stuck?_write_empty _ _)
  have hstuck := Json.stuck?_write_past_single key rest (Json.single "second") hfirst
  rw [← h] at hstuck
  rw [Flags.write, Flags.writeOne, set_empty] at hwrite
  exact not_set_of_stuck hstuck tree hwrite

theorem not_encode_of_isPrefixOf (h : p.isPrefixOf q = true ∨ q.isPrefixOf p = true) :
    ¬ Encode p q := by
  simp only [isPrefixOf, List.isPrefixOf_iff_prefix] at h
  rcases h with ⟨rest, hrest⟩ | h
  · cases rest with
    | nil =>
      rw [List.append_nil] at hrest
      exact not_encode_of_covered (hrest ▸ List.prefix_rfl)
    | cons key rest => exact not_encode_of_stuck hrest.symm
  · exact not_encode_of_covered h

end KeyPath

namespace FlagPaths

/-- The flags are read back from the tree in which they stand. -/
theorem read_treeOf (paths : FlagPaths) (flags : Flags) :
    paths.read (paths.treeOf (flags.providerName.map Json.single)
      (flags.configFile.map Json.single)) = (flags, []) := by
  have hone (path : KeyPath) (flag : Option String) (tree : Json)
      (h : path.get? tree = flag.map Json.single) : Flags.readOne path tree = (flag, []) := by
    cases flag with
    | none => rw [Flags.readOne, KeyPath.readSingle_none h]
    | some s => rw [Flags.readOne, KeyPath.readSingle_single h]
  rw [read, Flags.read, hone paths.name _ _ (paths.get?_name_treeOf _ _),
    hone paths.config _ _ (paths.get?_config_treeOf _ _)]
  rfl

theorem writeOne_eq_ok {tree : Json} (path : KeyPath) (flag : Option String)
    (h : ∀ value, (Json.write value path.keys tree).stuck? = none) :
    Flags.writeOne path flag tree = .ok (Json.place path.keys (flag.map Json.single) tree) := by
  cases flag with
  | none => rfl
  | some s => exact KeyPath.set_eq_ok (h _)

/-- The other flag first, and the same tree comes of it. -/
theorem write_reversed (paths : FlagPaths) (flags : Flags) :
    (Flags.writeOne paths.config flags.configFile Json.empty).bind
        (Flags.writeOne paths.name flags.providerName) =
      .ok (paths.treeOf (flags.providerName.map Json.single)
        (flags.configFile.map Json.single)) := by
  have hconfig := writeOne_eq_ok paths.config flags.configFile
    fun value => Json.stuck?_write_empty value _
  have hname := writeOne_eq_ok paths.name flags.providerName
    fun value => Json.stuck?_write_place_empty paths.leadApart.symm
      (flags.configFile.map Json.single) value
  rw [hconfig, Except.bind, hname, treeOf, Json.place_place_empty paths.leadApart]

theorem encode (paths : FlagPaths) : paths.name.Encode paths.config :=
  fun flags => ⟨_, paths.write_eq_ok flags, paths.read_treeOf flags⟩

/-- Paths that are not let through: one of them begins the other. -/
theorem ofPaths_cases (p q : KeyPath) :
    (∃ paths : FlagPaths, ofPaths p q = .ok paths ∧ paths.name = p ∧ paths.config = q) ∨
      (∀ paths, ofPaths p q ≠ .ok paths) ∧ (p.isPrefixOf q = true ∨ q.isPrefixOf p = true) := by
  rw [ofPaths]
  split
  · next apart => exact .inl ⟨⟨p, q, apart⟩, rfl, rfl, rfl⟩
  · next overlap =>
    refine .inr ⟨fun paths h => (nomatch h), ?_⟩
    cases hp : p.isPrefixOf q with
    | true => exact .inl rfl
    | false =>
      cases hq : q.isPrefixOf p with
      | true => exact .inr rfl
      | false => exact absurd ⟨hp, hq⟩ overlap

/-- Two paths are let through exactly if they encode flags. At paths that are let through writing
never fails, what is written is read back, and either flag may be written first. -/
theorem ofPaths_iff_encode (p q : KeyPath) :
    ((∃ paths, ofPaths p q = .ok paths) ↔ p.Encode q) ∧
      ∀ (paths : FlagPaths) (flags : Flags), ∃ tree, paths.write flags = .ok tree ∧
        paths.read tree = (flags, []) ∧
        (Flags.writeOne paths.config flags.configFile Json.empty).bind
          (Flags.writeOne paths.name flags.providerName) = .ok tree := by
  refine ⟨?_, fun paths flags =>
    ⟨_, paths.write_eq_ok flags, paths.read_treeOf flags, paths.write_reversed flags⟩⟩
  rcases ofPaths_cases p q with ⟨paths, hok, rfl, rfl⟩ | ⟨hrefused, hbegins⟩
  · exact iff_of_true ⟨paths, hok⟩ paths.encode
  · refine iff_of_false ?_ (KeyPath.not_encode_of_isPrefixOf hbegins)
    rintro ⟨paths, hok⟩
    exact hrefused paths hok

end FlagPaths

end CloudFlags
