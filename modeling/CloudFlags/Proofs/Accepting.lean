import CloudFlags.Proofs.Spelling
import CloudFlags.Proofs.Json.ConfigMaps
import CloudFlags.Settings

/-! Which settings are accepted. Each text is read on its own, and what it may be is said without
its reader: a dotted list of keys (`KeyPath.Spells`), a number of seconds with white space around it
(`Settings.Counts`), one of four words for the switch, a namespace that is not blank. What is left
is that the two paths lead apart, which is looked at last. `Settings.Follow` says of settings that
they follow a source, and `Settings.faults` what can be wrong with a source, in order; settings are
read if they follow, and else the first fault there is is told
(`Settings.read_follows_or_first_fault`). -/

namespace CloudFlags

/-! ### White space at the ends -/

namespace Text

/-- The text is the core with white space at its ends. -/
def Padded (cs core : List Char) : Prop :=
  ∃ before behind, cs = before ++ core ++ behind ∧ (∀ c ∈ before, isBlank c) ∧
    ∀ c ∈ behind, isBlank c

variable {cs core : List Char}

theorem padded_trimList (cs : List Char) : Padded cs (trimList cs) := by
  have front := List.takeWhile_append_dropWhile (p := isBlank) (l := cs)
  have back := List.takeWhile_append_dropWhile (p := isBlank)
    (l := (cs.dropWhile isBlank).reverse)
  have rest : cs.dropWhile isBlank =
      trimList cs ++ ((cs.dropWhile isBlank).reverse.takeWhile isBlank).reverse := by
    rw [trimList, ← List.reverse_append, back, List.reverse_reverse]
  refine ⟨_, _, by rw [List.append_assoc, ← rest, front], ?_, fun c hc => ?_⟩
  · exact List.all_eq_true.1 List.all_takeWhile
  · exact List.all_eq_true.1 List.all_takeWhile c (List.mem_reverse.1 hc)

/-- Only white space is dropped, up to the first character that is none. -/
theorem dropWhile_isBlank_append {blanks : List Char} (h : ∀ c ∈ blanks, isBlank c)
    (first : ∀ c ∈ core.head?, isBlank c = false) :
    (blanks ++ core).dropWhile isBlank = core := by
  rw [List.dropWhile_append_of_pos h]
  cases core with
  | nil => rfl
  | cons c core =>
    exact List.dropWhile_cons_of_neg (Bool.not_eq_true _ ▸ first c rfl)

/-- A core that begins and ends with no white space is what trimming leaves. -/
theorem Padded.trimList_eq (h : Padded cs core) (ne_nil : core ≠ [])
    (first : ∀ c ∈ core.head?, isBlank c = false)
    (last : ∀ c ∈ core.getLast?, isBlank c = false) : trimList cs = core := by
  obtain ⟨before, behind, rfl, hbefore, hbehind⟩ := h
  have hfront : (before ++ core ++ behind).dropWhile isBlank = core ++ behind := by
    rw [List.append_assoc]
    refine dropWhile_isBlank_append hbefore fun c hc => first c ?_
    obtain ⟨d, core, rfl⟩ := List.exists_cons_of_ne_nil ne_nil
    exact hc
  have hback : (core ++ behind).reverse.dropWhile isBlank = core.reverse := by
    rw [List.reverse_append]
    refine dropWhile_isBlank_append (fun c hc => hbehind c (List.mem_reverse.1 hc)) ?_
    rwa [List.head?_reverse]
  rw [trimList, hfront, hback, List.reverse_reverse]

theorem trimList_eq_nil_iff : trimList cs = [] ↔ ∀ c ∈ cs, isBlank c := by
  constructor
  · intro h
    obtain ⟨before, behind, hcs, hbefore, hbehind⟩ := padded_trimList cs
    rw [h, List.append_nil] at hcs
    rw [hcs]
    exact List.forall_mem_append.2 ⟨hbefore, hbehind⟩
  · intro h
    have hnone : ∀ c ∈ ([] : List Char).head?, isBlank c = false := fun _ hc => nomatch hc
    rw [trimList, ← List.append_nil cs, dropWhile_isBlank_append h hnone]
    rfl

end Text

namespace Settings

/-! ### The interval -/

/-- The characters are decimal digits, one or more and perhaps with a plus sign before them, and
stand for a number of 64 bits. -/
structure IsNumber (cs : List Char) (n : Nat) : Prop where
  spelled : ∃ digits, (cs = digits ∨ cs = '+' :: digits) ∧ digits ≠ [] ∧
    (∀ d ∈ digits, d.isDigit) ∧ Text.digitsValue digits = n
  lt_bound : n < UInt64.size

/-- What stands behind a plus sign, or everything. -/
def unsigned (cs : List Char) : List Char :=
  match cs with
  | '+' :: rest => rest
  | _ => cs

theorem unsigned_of_digits {digits : List Char} (h : ∀ d ∈ digits, d.isDigit) :
    unsigned digits = digits := by
  unfold unsigned
  split
  · exact absurd (h '+' List.mem_cons_self) (by decide)
  · rfl

theorem eq_unsigned_or (cs : List Char) : cs = unsigned cs ∨ cs = '+' :: unsigned cs := by
  unfold unsigned
  split
  · exact .inr rfl
  · exact .inl rfl

theorem readCount?_eq (cs : List Char) :
    readCount? cs =
      if unsigned cs ≠ [] ∧ (unsigned cs).all Char.isDigit ∧
          Text.digitsValue (unsigned cs) < UInt64.size then
        some (Text.digitsValue (unsigned cs))
      else none := rfl

theorem readCount?_eq_some_iff {cs : List Char} {n : Nat} :
    readCount? cs = some n ↔ IsNumber cs n := by
  rw [readCount?_eq, Option.ite_none_right_eq_some, Option.some.injEq, List.all_eq_true]
  constructor
  · rintro ⟨⟨ne_nil, hdigits, hlt⟩, rfl⟩
    exact ⟨⟨_, eq_unsigned_or cs, ne_nil, hdigits, rfl⟩, hlt⟩
  · rintro ⟨⟨digits, hcs, ne_nil, hdigits, rfl⟩, hlt⟩
    have hself : unsigned cs = digits := by
      rcases hcs with rfl | rfl
      · exact unsigned_of_digits hdigits
      · rfl
    rw [hself]
    exact ⟨⟨ne_nil, hdigits, hlt⟩, rfl⟩

/-- White space apart, the text is the number. -/
def Counts (s : String) (n : Nat) : Prop := ∃ cs, Text.Padded s.toList cs ∧ IsNumber cs n

theorem IsNumber.isBlank_eq_false {cs : List Char} {n : Nat} (h : IsNumber cs n) :
    ∀ c ∈ cs, Text.isBlank c = false := by
  obtain ⟨digits, hcs, -, hdigits, -⟩ := h.spelled
  have hblank : ∀ d ∈ digits, Text.isBlank d = false :=
    fun d hd => Text.isBlank_of_isDigit (hdigits d hd)
  rcases hcs with rfl | rfl
  · exact hblank
  · exact List.forall_mem_cons.2 ⟨by decide, hblank⟩

theorem IsNumber.ne_nil {cs : List Char} {n : Nat} (h : IsNumber cs n) : cs ≠ [] := by
  obtain ⟨digits, rfl | rfl, ne_nil, -⟩ := h.spelled
  · exact ne_nil
  · exact List.cons_ne_nil _ _

theorem readCount?_trimList_iff {s : String} {n : Nat} :
    readCount? (Text.trimList s.toList) = some n ↔ Counts s n := by
  rw [readCount?_eq_some_iff]
  constructor
  · exact fun h => ⟨_, Text.padded_trimList _, h⟩
  · rintro ⟨cs, hpadded, h⟩
    rw [hpadded.trimList_eq h.ne_nil (fun c hc => h.isBlank_eq_false c (List.mem_of_head? hc))
      fun c hc => h.isBlank_eq_false c (List.mem_of_getLast? hc)]
    exact h

/-- No text counts two numbers. -/
theorem Counts.unique {s : String} {m n : Nat} (hm : Counts s m) (hn : Counts s n) : m = n := by
  rw [← readCount?_trimList_iff] at hm hn
  exact Option.some.inj (hm.symm.trans hn)

/-- The interval that is given, or thirty seconds. -/
theorem readInterval_eq_ok_iff {given : Option String} {n : Nat} (hn : 0 < n) :
    readInterval given = .ok ⟨n, hn⟩ ↔
      given = none ∧ n = 30 ∨ ∃ s, given = some s ∧ Counts s n := by
  cases given with
  | none =>
    simp only [readInterval, Except.ok.injEq, Subtype.mk.injEq, true_and, reduceCtorEq, false_and,
      exists_false, or_false]
    exact eq_comm
  | some s =>
    simp only [readInterval, reduceCtorEq, false_and, Option.some.injEq, exists_eq_left', false_or]
    rw [← readCount?_trimList_iff]
    cases readCount? (Text.trimList s.toList) with
    | none => exact iff_of_false (fun h => nomatch h) fun h => nomatch h
    | some m =>
      rw [Option.some.injEq]
      dsimp only
      split
      · rw [Except.ok.injEq, Subtype.mk.injEq]
      · next hzero => exact iff_of_false (fun h => nomatch h) fun h => hzero (h ▸ hn)

/-- A text is refused that counts nothing, and one that counts zero. -/
theorem readInterval_eq_error_iff {given : Option String} {e : Error} :
    readInterval given = .error e ↔ ∃ s, given = some s ∧
      ((¬ ∃ n, Counts s n) ∧
          e = .invalidSetting ("OBSERVE_INTERVAL_SECS is not a number: " ++ Text.quote s) ∨
        Counts s 0 ∧ e = .invalidSetting "OBSERVE_INTERVAL_SECS must be greater than zero") := by
  cases given with
  | none => exact iff_of_false (fun h => nomatch h) (by rintro ⟨_, h, -⟩; cases h)
  | some s =>
    simp only [readInterval, Option.some.injEq, exists_eq_left', ← readCount?_trimList_iff]
    cases readCount? (Text.trimList s.toList) with
    | none =>
      simp only [Except.error.injEq, reduceCtorEq, exists_false, not_false_eq_true, true_and,
        false_and, or_false]
      exact eq_comm
    | some m =>
      dsimp only
      split
      · next hpos =>
        refine iff_of_false (fun h => nomatch h) ?_
        rintro (⟨h, -⟩ | ⟨h, -⟩)
        · exact h ⟨m, rfl⟩
        · cases h
          exact Nat.lt_irrefl 0 hpos
      · next hzero =>
        obtain rfl : m = 0 := by omega
        rw [Except.error.injEq]
        exact ⟨fun h => .inr ⟨rfl, h.symm⟩, fun h => h.elim (absurd ⟨0, rfl⟩ ·.1) (·.2.symm)⟩

/-! ### The switch and the namespace -/

theorem readSwitch_eq_ok_iff {given : Option String} {b : Bool} :
    readSwitch given = .ok b ↔
      b = true ∧ given ∈ [none, some "true", some "1"] ∨
        b = false ∧ given ∈ [some "false", some "0"] := by
  unfold readSwitch
  split <;> simp_all [eq_comm]

theorem readSwitch_eq_error_iff {given : Option String} {e : Error} :
    readSwitch given = .error e ↔ ∃ s, given = some s ∧ s ∉ ["true", "1", "false", "0"] ∧
      e = .invalidSetting
        ("APPLY_FLOWCONTROL_MANIFESTS must be true or false, got " ++ Text.quote s) := by
  unfold readSwitch
  split <;> simp_all [eq_comm, flowControlKey]

/-- There is nothing but white space in the text. -/
def IsBlank (s : String) : Prop := ∀ c ∈ s.toList, Text.isBlank c

theorem isEmpty_trim_iff {s : String} : (Text.trim s).isEmpty ↔ IsBlank s := by
  rw [Text.trim, String.isEmpty_iff, String.ofList_eq_empty_iff, Text.trimList_eq_nil_iff, IsBlank]

theorem readSpace_of_isBlank {s : String} (h : IsBlank s) : readSpace (some s) = defaultSpace :=
  if_pos (isEmpty_trim_iff.2 h)

theorem readSpace_of_not_isBlank {s : String} (h : ¬ IsBlank s) : readSpace (some s) = s :=
  if_neg fun hempty => h (isEmpty_trim_iff.1 hempty)

theorem not_isBlank_readSpace (given : Option String) : ¬ IsBlank (readSpace given) := by
  have hdefault : ¬ IsBlank defaultSpace := fun h => absurd (h 'o' (by decide)) (by decide)
  cases given with
  | none => exact hdefault
  | some s =>
    by_cases h : IsBlank s
    · rwa [readSpace_of_isBlank h]
    · rwa [readSpace_of_not_isBlank h]

/-- The namespace is the one given, if it is not blank, and else the default. -/
theorem readSpace_eq_iff {given : Option String} {space : String} :
    space = readSpace given ↔ (∃ s, given = some s ∧ ¬ IsBlank s ∧ space = s) ∨
      (∀ s, given = some s → IsBlank s) ∧ space = "openshift-kube-controller-manager" := by
  cases given with
  | none =>
    refine ⟨fun heq => .inr ⟨nofun, heq⟩, ?_⟩
    rintro (⟨s, hs, -⟩ | ⟨-, heq⟩)
    · exact nomatch hs
    · exact heq
  | some s =>
    by_cases h : IsBlank s
    · rw [readSpace_of_isBlank h]
      refine ⟨fun heq => .inr ⟨fun t ht => Option.some.inj ht ▸ h, heq⟩, ?_⟩
      rintro (⟨t, ht, hblank, -⟩ | ⟨-, heq⟩)
      · exact absurd (Option.some.inj ht ▸ h) hblank
      · exact heq
    · rw [readSpace_of_not_isBlank h]
      refine ⟨fun heq => .inl ⟨s, rfl, h, heq⟩, ?_⟩
      rintro (⟨t, ht, -, heq⟩ | ⟨hblank, -⟩)
      · exact heq.trans (Option.some.inj ht).symm
      · exact absurd (hblank s rfl) h

/-! ### Settings and their source -/

variable {source : String → Option String} {settings : Settings} {e : Error}

/-- The text for the path of the provider's name. -/
def nameText (source : String → Option String) : String :=
  (source "CLOUD_PROVIDER_NAME_PATH").getD "extendedArguments.cloud-provider"

/-- The text for the path of the configuration file. -/
def configText (source : String → Option String) : String :=
  (source "CLOUD_PROVIDER_CONFIG_PATH").getD "extendedArguments.cloud-config"

/-- Settings are what their source says. -/
structure Follow (source : String → Option String) (settings : Settings) : Prop where
  name : KeyPath.Spells (nameText source) settings.paths.name.keys
  config : KeyPath.Spells (configText source) settings.paths.config.keys
  interval : source "OBSERVE_INTERVAL_SECS" = none ∧ settings.interval = 30 ∨
    ∃ s, source "OBSERVE_INTERVAL_SECS" = some s ∧ Counts s settings.interval
  switch : settings.appliesFlowControl = true ∧
      source "APPLY_FLOWCONTROL_MANIFESTS" ∈ [none, some "true", some "1"] ∨
    settings.appliesFlowControl = false ∧
      source "APPLY_FLOWCONTROL_MANIFESTS" ∈ [some "false", some "0"]
  space : (∃ s, source "TARGET_NAMESPACE" = some s ∧ ¬ IsBlank s ∧ settings.space = s) ∨
    (∀ s, source "TARGET_NAMESPACE" = some s → IsBlank s) ∧
      settings.space = "openshift-kube-controller-manager"

theorem follow_of_read (h : read source = .ok settings) : Follow source settings := by
  unfold read at h
  obtain ⟨name, hname, h⟩ := Json.exists_of_bind_eq_ok h
  obtain ⟨config, hconfig, h⟩ := Json.exists_of_bind_eq_ok h
  obtain ⟨⟨interval, hpos⟩, hinterval, h⟩ := Json.exists_of_bind_eq_ok h
  obtain ⟨appliesFlowControl, hswitch, h⟩ := Json.exists_of_bind_eq_ok h
  obtain ⟨paths, hpaths, h⟩ := Json.exists_of_bind_eq_ok h
  cases h
  obtain ⟨rfl, rfl⟩ : paths.name = name ∧ paths.config = config := by
    rw [FlagPaths.ofPaths] at hpaths
    split at hpaths
    · cases hpaths
      exact ⟨rfl, rfl⟩
    · cases hpaths
  exact ⟨KeyPath.ofText_eq_ok_iff.1 hname, KeyPath.ofText_eq_ok_iff.1 hconfig,
    (readInterval_eq_ok_iff hpos).1 hinterval, readSwitch_eq_ok_iff.1 hswitch,
    readSpace_eq_iff.1 rfl⟩

theorem Follow.read_eq (h : Follow source settings) : read source = .ok settings := by
  obtain ⟨space, ⟨name, config, apart⟩, interval, hpos, appliesFlowControl⟩ := settings
  have hname : KeyPath.ofText ((source namePathKey).getD defaultNamePath) = .ok name :=
    KeyPath.ofText_eq_ok_iff.2 h.name
  have hconfig : KeyPath.ofText ((source configPathKey).getD defaultConfigPath) = .ok config :=
    KeyPath.ofText_eq_ok_iff.2 h.config
  have hinterval : readInterval (source intervalKey) = .ok ⟨interval, hpos⟩ :=
    (readInterval_eq_ok_iff hpos).2 h.interval
  have hswitch : readSwitch (source flowControlKey) = .ok appliesFlowControl :=
    readSwitch_eq_ok_iff.2 h.switch
  have hpaths : FlagPaths.ofPaths name config = .ok ⟨name, config, apart⟩ := dif_pos apart
  have hspace : space = readSpace (source spaceKey) := readSpace_eq_iff.2 h.space
  subst hspace
  rw [read, hname, hconfig, hinterval, hswitch]
  show (FlagPaths.ofPaths name config >>= _) = _
  rw [hpaths]
  rfl

theorem read_eq_ok_iff : read source = .ok settings ↔ Follow source settings :=
  ⟨follow_of_read, Follow.read_eq⟩

/-! ### What can be wrong -/

/-- What can be wrong with a source, in the order in which it is looked for: each is a condition on
the source with the error that tells of it. -/
def faults (source : String → Option String) : List (Error → Prop) :=
  [fun e => (¬ ∃ keys, KeyPath.Spells (nameText source) keys) ∧
      e = .invalidKeyPath (nameText source),
    fun e => (¬ ∃ keys, KeyPath.Spells (configText source) keys) ∧
      e = .invalidKeyPath (configText source),
    fun e => ∃ s, source "OBSERVE_INTERVAL_SECS" = some s ∧
      ((¬ ∃ n, Counts s n) ∧
          e = .invalidSetting ("OBSERVE_INTERVAL_SECS is not a number: " ++ Text.quote s) ∨
        Counts s 0 ∧ e = .invalidSetting "OBSERVE_INTERVAL_SECS must be greater than zero"),
    fun e => ∃ s, source "APPLY_FLOWCONTROL_MANIFESTS" = some s ∧
      s ∉ ["true", "1", "false", "0"] ∧
      e = .invalidSetting
        ("APPLY_FLOWCONTROL_MANIFESTS must be true or false, got " ++ Text.quote s),
    fun e => ∃ name config, KeyPath.Spells (nameText source) name ∧
      KeyPath.Spells (configText source) config ∧ (name <+: config ∨ config <+: name) ∧
      e = .invalidKeyPath (nameText source ++ " overlaps " ++ configText source)]

/-- The error tells of the first fault that there is. -/
def IsFirst : List (Error → Prop) → Error → Prop
  | [], _ => False
  | fault :: later, e => fault e ∨ (∀ e', ¬ fault e') ∧ IsFirst later e

/-- Work in steps fails with the first fault, if each step fails with its own. -/
theorem bind_eq_error_iff {α β : Type} {x : Except Error α} {f : α → Except Error β}
    {fault : Error → Prop} {later : List (Error → Prop)} (own : ∀ e, x = .error e ↔ fault e)
    (rest : ∀ a, x = .ok a → (f a = .error e ↔ IsFirst later e)) :
    x >>= f = .error e ↔ IsFirst (fault :: later) e := by
  simp only [IsFirst, ← own]
  cases x with
  | error e' =>
    have hbind : (Except.error e' >>= f) = .error e' := rfl
    simp only [hbind, Except.error.injEq]
    exact ⟨.inl, fun h => h.elim id fun h => absurd rfl (h.1 e')⟩
  | ok a =>
    refine (rest a rfl).trans ⟨fun h => .inr ⟨fun _ h => (nomatch h), h⟩, ?_⟩
    rintro (h | h)
    · cases h
    · exact h.2

theorem ofPaths_eq_error_iff {name config : KeyPath} :
    FlagPaths.ofPaths name config = .error e ↔
      (name.keys <+: config.keys ∨ config.keys <+: name.keys) ∧
        e = .invalidKeyPath (name.text ++ " overlaps " ++ config.text) := by
  have hiff : (name.isPrefixOf config = false ∧ config.isPrefixOf name = false) ↔
      ¬ (name.keys <+: config.keys ∨ config.keys <+: name.keys) := by
    rw [not_or, KeyPath.isPrefixOf, KeyPath.isPrefixOf, ← Bool.not_eq_true, ← Bool.not_eq_true,
      List.isPrefixOf_iff_prefix, List.isPrefixOf_iff_prefix]
  rw [FlagPaths.ofPaths]
  split
  · next apart =>
    simp only [reduceCtorEq, false_iff]
    exact fun h => hiff.1 apart h.1
  · next overlap =>
    rw [Except.error.injEq, eq_comm]
    exact (and_iff_right (Decidable.of_not_not fun h => overlap (hiff.2 h))).symm

/-- The paths are compared by their keys, and told by their texts. -/
theorem overlap_iff {name config : KeyPath} (hname : KeyPath.Spells (nameText source) name.keys)
    (hconfig : KeyPath.Spells (configText source) config.keys) :
    FlagPaths.ofPaths name config = .error e ↔
      ∃ n c, KeyPath.Spells (nameText source) n ∧ KeyPath.Spells (configText source) c ∧
        (n <+: c ∨ c <+: n) ∧
        e = .invalidKeyPath (nameText source ++ " overlaps " ++ configText source) := by
  rw [ofPaths_eq_error_iff, KeyPath.text_of_spells hname, KeyPath.text_of_spells hconfig]
  constructor
  · exact fun ⟨overlap, he⟩ => ⟨_, _, hname, hconfig, overlap, he⟩
  · rintro ⟨n, c, hn, hc, overlap, he⟩
    rw [hn.unique hname, hc.unique hconfig] at overlap
    exact ⟨overlap, he⟩

theorem read_eq_error_iff : read source = .error e ↔ IsFirst (faults source) e := by
  refine bind_eq_error_iff (fun _ => KeyPath.ofText_eq_error_iff) fun name hname =>
    bind_eq_error_iff (fun _ => KeyPath.ofText_eq_error_iff) fun config hconfig =>
    bind_eq_error_iff (fun _ => readInterval_eq_error_iff) fun interval _ =>
    bind_eq_error_iff (fun _ => readSwitch_eq_error_iff) fun appliesFlowControl _ =>
    bind_eq_error_iff (fun _ => overlap_iff ?_ ?_) fun paths _ =>
      iff_of_false (fun h => nomatch h) id
  · exact KeyPath.ofText_eq_ok_iff.1 hname
  · exact KeyPath.ofText_eq_ok_iff.1 hconfig

/-! ### Which sources are accepted -/

/-- Each text can be read, and the two paths lead apart. -/
structure Acceptable (source : String → Option String) : Prop where
  paths : ∃ name config, KeyPath.Spells (nameText source) name ∧
    KeyPath.Spells (configText source) config ∧ ¬ name <+: config ∧ ¬ config <+: name
  interval : ∀ s, source "OBSERVE_INTERVAL_SECS" = some s → ∃ n, Counts s n ∧ 1 ≤ n
  switch : ∀ s, source "APPLY_FLOWCONTROL_MANIFESTS" = some s → s ∈ ["true", "1", "false", "0"]

theorem Follow.acceptable (h : Follow source settings) : Acceptable source where
  paths := by
    have apart := settings.paths.apart
    simp only [KeyPath.isPrefixOf, ← Bool.not_eq_true, List.isPrefixOf_iff_prefix] at apart
    exact ⟨_, _, h.name, h.config, apart⟩
  interval s hs := by
    rcases h.interval with ⟨hnone, -⟩ | ⟨s', hs', hcounts⟩
    · cases hnone.symm.trans hs
    · cases hs'.symm.trans hs
      exact ⟨_, hcounts, settings.interval_pos⟩
  switch s hs := by
    have hswitch := h.switch
    rw [hs] at hswitch
    simp only [List.mem_cons, List.not_mem_nil, or_false, reduceCtorEq, Option.some.injEq,
      false_or] at hswitch ⊢
    rcases hswitch with ⟨-, rfl | rfl⟩ | ⟨-, rfl | rfl⟩ <;> simp only [true_or, or_true]

theorem Acceptable.not_isFirst (h : Acceptable source) : ¬ IsFirst (faults source) e := by
  obtain ⟨name, config, hname, hconfig, apart⟩ := h.paths
  rintro (⟨hno, -⟩ | ⟨-, ⟨hno, -⟩ | ⟨-, hinterval | ⟨-, hswitch | ⟨-, hoverlap | ⟨-, hnone⟩⟩⟩⟩⟩)
  · exact hno ⟨name, hname⟩
  · exact hno ⟨config, hconfig⟩
  · obtain ⟨s, hs, hfault⟩ := hinterval
    obtain ⟨n, hcounts, hpos⟩ := h.interval s hs
    rcases hfault with ⟨hno, -⟩ | ⟨hzero, -⟩
    · exact hno ⟨n, hcounts⟩
    · rw [hcounts.unique hzero] at hpos
      exact absurd hpos (by decide)
  · obtain ⟨s, hs, hword, -⟩ := hswitch
    exact hword (h.switch s hs)
  · obtain ⟨n, c, hn, hc, hoverlap, -⟩ := hoverlap
    rw [hn.unique hname, hc.unique hconfig] at hoverlap
    exact hoverlap.elim apart.1 apart.2
  · exact hnone

/-- Settings are read from a source if and only if both paths are spelled by their texts and lead
apart, the interval is not set or a number from one to what 64 bits hold, and the switch is not set
or one of four words. They are then what the source says, and in particular the interval is not
zero, the namespace is not blank and the paths are written as they were given. A source that is not
accepted is told the first of its faults. -/
theorem read_follows_or_first_fault (source : String → Option String) :
    ((∃ settings, read source = .ok settings) ↔ Acceptable source) ∧
    (∀ settings, read source = .ok settings ↔ Follow source settings) ∧
    (∀ settings, read source = .ok settings → 1 ≤ settings.interval ∧
      ¬ IsBlank settings.space ∧ settings.paths.name.text = nameText source ∧
      settings.paths.config.text = configText source) ∧
    ∀ e, read source = .error e ↔ IsFirst (faults source) e := by
  refine ⟨⟨fun ⟨_, h⟩ => (follow_of_read h).acceptable, fun h => ?_⟩, fun _ => read_eq_ok_iff,
    fun settings h => ?_, fun _ => read_eq_error_iff⟩
  · cases hread : read source with
    | ok settings => exact ⟨settings, rfl⟩
    | error e => exact absurd (read_eq_error_iff.1 hread) h.not_isFirst
  · have follow := follow_of_read h
    refine ⟨settings.interval_pos, ?_, KeyPath.text_of_spells follow.name,
      KeyPath.text_of_spells follow.config⟩
    rw [readSpace_eq_iff.2 follow.space]
    exact not_isBlank_readSpace _

end Settings

end CloudFlags
