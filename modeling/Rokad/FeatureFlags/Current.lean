import Rokad.FeatureFlags.Service

/-!
# Answers of the current configuration

Whoever asks for a flag should be answered as the tables have it, whenever one asks. But the answer
is kept for minutes, and only the change of one override drops what is kept: neither a new default
nor a subscription does (`not_flags_current`).

The answers stay current exactly if every flag that is registered and every plan that is assigned
leaves alone what is kept at that moment (`current_iff`).
-/

namespace Rokad.FeatureFlags

open Rokad.Base Rokad.Common
open Rokad.Access (FeatureFlag TenantFeatureFlag FeatureTables)
open Rokad.Saas (Tenant SubscriptionPlan AssignSubscriptionDto Assignment activeOf)

/-! ### What is to be answered -/

/-- What `getTenantFlags` shows for the key; a flag that is not registered is off. -/
def shown (flagKey : String) (tenantId : Id) (s : State) : Bool :=
  (((getTenantFlags tenantId s).find? (·.key = flagKey)).map (·.isEnabled)).getD false

/-- Now and after any time, whoever asks is answered as the tables have it. -/
def Current (s : State) : Prop :=
  ∀ elapsed flagKey tenantId, (isEnabled flagKey (some tenantId) (s.wait elapsed)).2 =
    shown flagKey tenantId (s.wait elapsed)

/-! ### When it is -/

def State.kept (s : State) (tenantId : Id) (flagKey : String) : Option (Entry String) :=
  s.redis.get s.now (cacheKeyOf (some tenantId) flagKey)

/-- The state is that at the time of the call. -/
def Op.Fits (s : State) : Op → Prop
  | .registerFlag key defaultEnabled =>
    (flagOf s.features key).any (·.defaultEnabled) = defaultEnabled.getD false ∨
      ∀ tenantId, s.kept tenantId key ≠ none →
        ∃ flag ∈ flagOf s.features key, overrideOf s.features tenantId flag.id ≠ none
  | .assignSubscription dto takes =>
    takes = true → s.tenants.find? dto.tenantId ≠ none →
      ∀ plan ∈ s.getPlan dto.planIdOrCode, ∀ flagKey ∈ plan.bundledFeatureFlags,
        ∀ flag ∈ flagOf s.features flagKey, s.kept dto.tenantId flagKey ≠ none →
          s.features.value flag dto.tenantId = true
  | _ => True

def Fits (s : State) (c : Call) : Prop := c.op.Fits (s.wait c.elapsed)

/-! ### Flags and overrides -/

def TenantFeatureFlag.slot (o : TenantFeatureFlag) : Id × Id := (o.tenantId, o.featureFlagId)

section

variable {features features' : FeatureTables} {tenants : Table Tenant} {tenantId : Id}
  {flag : FeatureFlag} {flagKey : String}

theorem oneEach_flags (t : Table FeatureFlag) : t.OneEach (·.key) := by
  intro a ha b hb same
  by_contra differ
  have apart := t.no_clash a ha b hb fun keys => differ (t.eq_of_key_eq ha hb keys)
  simp [Record.clash, same] at apart

theorem oneEach_overrides (t : Table TenantFeatureFlag) : t.OneEach TenantFeatureFlag.slot := by
  intro a ha b hb same
  by_contra differ
  have apart := t.no_clash a ha b hb fun keys => differ (t.eq_of_key_eq ha hb keys)
  simp only [TenantFeatureFlag.slot, Prod.mk.injEq] at same
  simp [Record.clash, same] at apart

theorem overrideOf_eq (featureFlagId : Id) : overrideOf features tenantId featureFlagId =
    features.overrides.inSlot TenantFeatureFlag.slot (tenantId, featureFlagId) := by
  simp only [overrideOf, Table.inSlot, TenantFeatureFlag.slot, Prod.mk.injEq]

theorem flagOf_eq_some :
    flagOf features flagKey = some flag ↔ flag ∈ features.flags.rows ∧ flag.key = flagKey :=
  Table.inSlot_eq_some (oneEach_flags _)

theorem enabled_of_some (found : flagOf features flagKey = some flag) :
    features.enabled flagKey tenantId = features.value flag tenantId := by
  unfold flagOf at found
  unfold FeatureTables.enabled
  rw [found]

theorem enabled_of_none (absent : flagOf features flagKey = none) :
    features.enabled flagKey tenantId = false := by
  unfold flagOf at absent
  unfold FeatureTables.enabled
  rw [absent]

theorem value_eq : features.value flag tenantId =
    ((overrideOf features tenantId flag.id).map (·.isEnabled)).getD flag.defaultEnabled := rfl

/-- The override of a flag by its key. -/
def overrideAt (features : FeatureTables) (tenantId : Id) (flagKey : String) :
    Option TenantFeatureFlag :=
  (flagOf features flagKey).bind fun flag => overrideOf features tenantId flag.id

theorem enabled_eq (features : FeatureTables) (tenantId : Id) (flagKey : String) :
    features.enabled flagKey tenantId =
      ((overrideAt features tenantId flagKey).map (·.isEnabled)).getD
        ((flagOf features flagKey).any (·.defaultEnabled)) := by
  unfold overrideAt
  cases found : flagOf features flagKey with
  | none => exact enabled_of_none found
  | some flag => exact enabled_of_some found

abbrev Linked (features : FeatureTables) : Prop :=
  Table.References (fun o : TenantFeatureFlag => some o.featureFlagId) features.overrides
    features.flags

theorem overrideAt_ne_none : overrideAt features tenantId flagKey ≠ none ↔
    ∃ flag ∈ flagOf features flagKey, overrideOf features tenantId flag.id ≠ none := by
  unfold overrideAt
  cases flagOf features flagKey <;> simp

theorem enabled_congr (flags : flagOf features' flagKey = flagOf features flagKey)
    (overrides : features'.overrides = features.overrides) :
    features'.enabled flagKey tenantId = features.enabled flagKey tenantId := by
  rw [enabled_eq, enabled_eq, overrideAt, overrideAt, flags]
  unfold overrideOf
  rw [overrides]

/-- A flag that is registered again gets the default. -/
theorem registerFlag_of_some {key : String} (defaultEnabled : Option Bool)
    (linked : Linked features) (found : flagOf features key = some flag) :
    ∃ features', registerFlag key defaultEnabled features = .ok features' ∧ Linked features' ∧
      features'.overrides = features.overrides ∧
      flagOf features' key = some (setDefault (defaultEnabled.getD false) flag) ∧
      ∀ flagKey, flagKey ≠ key → flagOf features' flagKey = flagOf features flagKey := by
  obtain ⟨mem, own⟩ := flagOf_eq_some.mp found
  obtain ⟨flags, updated⟩ : ∃ flags, features.flags.update flag.id
      (setDefault (defaultEnabled.getD false)) (key_setDefault _) = some flags :=
    update_isSome (features.flags.find?_key mem) fun _ _ => rfl
  have after (k : String) : flagOf { features with flags } k = (flagOf features k).map fun x =>
      if x.id = flag.id then setDefault (defaultEnabled.getD false) x else x :=
    Table.inSlot_update updated (fun _ => rfl) k
  refine ⟨{ features with flags }, ?_, linked.update_parent updated, rfl, ?_, fun k other => ?_⟩
  · unfold registerFlag
    rw [found]
    simp only [do_eq_ok, updateRow_eq_ok]
    exact ⟨flags, updated, rfl⟩
  · rw [after, found, Option.map_some, if_pos rfl]
  · rw [after]
    cases there : flagOf features k with
    | none => rfl
    | some g =>
      obtain ⟨mem', own'⟩ := flagOf_eq_some.mp there
      have apart : g.id ≠ flag.id := fun same => by
        cases features.flags.eq_of_key_eq mem' mem same
        exact other (own'.symm.trans own)
      rw [Option.map_some, if_neg apart]

theorem registerFlag_of_none {key : String} (defaultEnabled : Option Bool)
    (linked : Linked features) (absent : flagOf features key = none) :
    ∃ features' flag, registerFlag key defaultEnabled features = .ok features' ∧
      Linked features' ∧ features'.overrides = features.overrides ∧
      flagOf features' key = some flag ∧ flag.defaultEnabled = defaultEnabled.getD false ∧
      (∀ tenantId, overrideOf features tenantId flag.id = none) ∧
      ∀ flagKey, flagKey ≠ key → flagOf features' flagKey = flagOf features flagKey := by
  have free := Table.inSlot_eq_none.mp absent
  let flag : FeatureFlag :=
    { id := features.flags.fresh, key, defaultEnabled := defaultEnabled.getD false }
  obtain ⟨flags, inserted⟩ := features.flags.insert_of_fresh flag rfl fun x mem => by
    simpa [Record.clash] using free x mem
  have after (k : String) : flagOf { features with flags } k =
      if k = key then some flag else flagOf features k :=
    Table.inSlot_insert inserted free k
  refine ⟨{ features with flags }, flag, ?_, linked.insert_parent inserted, rfl, ?_, rfl,
    fun tenantId => ?_, fun k other => ?_⟩
  · unfold registerFlag
    rw [absent]
    simp only [do_eq_ok, insertRow_eq_ok]
    exact ⟨flags, inserted, rfl⟩
  · rw [after, if_pos rfl]
  · rw [overrideOf_eq, Table.inSlot_eq_none]
    rintro o mem same
    -- no override is of a flag that is not there yet
    have present : features.flags.has (some o.featureFlagId) = true := linked o mem
    rw [show o.featureFlagId = features.flags.fresh from (Prod.mk.inj same).2] at present
    rw [Table.has, features.flags.find?_fresh] at present
    cases present
  · rw [after, if_neg other]

theorem registerFlag_spec (key : String) (defaultEnabled : Option Bool)
    (linked : Linked features) :
    ∃ features', registerFlag key defaultEnabled features = .ok features' ∧ Linked features' ∧
      ∀ flagKey tenantId, features'.enabled flagKey tenantId =
        if flagKey = key then
          ((overrideAt features tenantId key).map (·.isEnabled)).getD (defaultEnabled.getD false)
        else features.enabled flagKey tenantId := by
  cases found : flagOf features key with
  | some flag =>
    obtain ⟨features', done, linked', overrides, own, others⟩ :=
      registerFlag_of_some defaultEnabled linked found
    refine ⟨features', done, linked', fun flagKey tenantId => ?_⟩
    split
    · rename_i same
      rw [same, enabled_of_some own, value_eq, overrideAt, found]
      unfold overrideOf
      rw [overrides]
      rfl
    · rename_i other
      exact enabled_congr (others flagKey other) overrides
  | none =>
    obtain ⟨features', flag, done, linked', overrides, own, default, none, others⟩ :=
      registerFlag_of_none defaultEnabled linked found
    refine ⟨features', done, linked', fun flagKey tenantId => ?_⟩
    split
    · rename_i same
      have none' : overrideOf features' tenantId flag.id = Option.none := by
        unfold overrideOf
        rw [overrides]
        exact none tenantId
      rw [same, enabled_of_some own, value_eq, none', overrideAt, found, default]
      rfl
    · rename_i other
      exact enabled_congr (others flagKey other) overrides

/-- An upsert goes through for a flag and a school that there are. -/
theorem exists_upsertOverride (isEnabled : Bool) (mem : flag ∈ features.flags.rows)
    (tenant : tenants.has (some tenantId) = true) :
    ∃ features', upsertOverride tenants tenantId flag isEnabled features = .ok features' := by
  unfold upsertOverride
  cases found : overrideOf features tenantId flag.id with
  | some o =>
    have among := List.mem_of_find?_eq_some found
    obtain ⟨overrides, updated⟩ : ∃ overrides, features.overrides.update o.id
        (setEnabled isEnabled) (key_setEnabled isEnabled) = some overrides :=
      update_isSome (features.overrides.find?_key among) fun _ _ => rfl
    refine ⟨{ features with overrides }, ?_⟩
    simp only [do_eq_ok, updateRow_eq_ok]
    exact ⟨overrides, updated, rfl⟩
  | none =>
    rw [overrideOf_eq] at found
    have free := Table.inSlot_eq_none.mp found
    obtain ⟨overrides, inserted⟩ := features.overrides.insert_of_fresh
      { id := features.overrides.fresh, tenantId, featureFlagId := flag.id, isEnabled } rfl
      fun x among => by
        have apart := free x among
        simp only [TenantFeatureFlag.slot, ne_eq, Prod.mk.injEq] at apart
        simpa [Record.clash] using apart
    have present : features.flags.has (some flag.id) = true :=
      has_some_iff.mpr ⟨flag, features.flags.find?_key mem⟩
    refine ⟨{ features with overrides }, ?_⟩
    simp only [do_eq_ok, insertRow_eq_ok, referred_eq_ok]
    exact ⟨(), tenant, (), present, overrides, inserted, rfl⟩

/-- It leaves the override that it names. -/
theorem upsertOverride_ok {isEnabled : Bool} (linked : Linked features)
    (done : upsertOverride tenants tenantId flag isEnabled features = .ok features') :
    Linked features' ∧ features'.flags = features.flags ∧
      ∀ tenantId' featureFlagId, (overrideOf features' tenantId' featureFlagId).map (·.isEnabled) =
        if tenantId' = tenantId ∧ featureFlagId = flag.id then some isEnabled
        else (overrideOf features tenantId' featureFlagId).map (·.isEnabled) := by
  unfold upsertOverride at done
  cases found : overrideOf features tenantId flag.id with
  | some o =>
    rw [found] at done
    simp only [do_eq_ok, updateRow_eq_ok] at done
    obtain ⟨overrides, updated, rfl⟩ := done
    rw [overrideOf_eq] at found
    obtain ⟨among, slot⟩ := (Table.inSlot_eq_some (oneEach_overrides _)).mp found
    refine ⟨linked.update_child updated fun _ present => present, rfl,
      fun tenantId' featureFlagId => ?_⟩
    rw [overrideOf_eq, overrideOf_eq, Table.inSlot_update updated fun _ => rfl]
    split
    · rename_i same
      rw [same.1, same.2, found, Option.map_some]
      have here : (if Record.key o = o.id then setEnabled isEnabled o else o) =
          setEnabled isEnabled o := if_pos rfl
      rw [here]
      rfl
    · rename_i other
      cases there : features.overrides.inSlot TenantFeatureFlag.slot
        (tenantId', featureFlagId) with
      | none => rfl
      | some o' =>
        obtain ⟨among', slot'⟩ := (Table.inSlot_eq_some (oneEach_overrides _)).mp there
        have apart : Record.key o' ≠ o.id := fun same => by
          cases features.overrides.eq_of_key_eq among' among same
          exact other (Prod.mk.inj (slot'.symm.trans slot))
        rw [Option.map_some, if_neg apart]
  | none =>
    rw [found] at done
    simp only [do_eq_ok, insertRow_eq_ok, referred_eq_ok] at done
    obtain ⟨-, tenant, -, present, overrides, inserted, rfl⟩ := done
    rw [overrideOf_eq] at found
    refine ⟨linked.insert_child inserted present, rfl, fun tenantId' featureFlagId => ?_⟩
    rw [overrideOf_eq, overrideOf_eq, Table.inSlot_insert inserted (Table.inSlot_eq_none.mp found)]
    simp only [TenantFeatureFlag.slot, Prod.mk.injEq]
    split <;> rfl

theorem upsertOverride_spec {isEnabled : Bool} (linked : Linked features)
    (mem : flag ∈ features.flags.rows)
    (done : upsertOverride tenants tenantId flag isEnabled features = .ok features') :
    Linked features' ∧ features'.flags = features.flags ∧
      ∀ flagKey tenantId', features'.enabled flagKey tenantId' =
        if tenantId' = tenantId ∧ flagKey = flag.key then isEnabled
        else features.enabled flagKey tenantId' := by
  obtain ⟨linked', flags, overrides⟩ := upsertOverride_ok linked done
  refine ⟨linked', flags, fun flagKey tenantId' => ?_⟩
  have flagOf_same : flagOf features' flagKey = flagOf features flagKey := by
    unfold flagOf
    rw [flags]
  cases found : flagOf features flagKey with
  | none =>
    have other : ¬ (tenantId' = tenantId ∧ flagKey = flag.key) := fun same => by
      rw [same.2, flagOf_eq_some.mpr ⟨mem, rfl⟩] at found
      cases found
    rw [enabled_of_none found, enabled_of_none (flagOf_same.trans found), if_neg other]
  | some g =>
    obtain ⟨mem', own⟩ := flagOf_eq_some.mp found
    have ids : g.id = flag.id ↔ flagKey = flag.key := by
      constructor
      · intro same
        rw [← own, features.flags.eq_of_key_eq mem' mem same]
      · intro same
        rw [oneEach_flags _ g mem' flag mem (own.trans same)]
    rw [enabled_of_some found, enabled_of_some (flagOf_same.trans found), value_eq, value_eq,
      overrides]
    simp only [ids]
    split <;> rfl

/-- The flags of a plan, one after the other. -/
theorem enableBundled_spec (flagKeys : List String) (linked : Linked features)
    (tenant : tenants.has (some tenantId) = true) :
    ∃ features', inTurn (enableBundled tenants tenantId) features flagKeys = .ok features' ∧
      Linked features' ∧ features'.flags = features.flags ∧
      ∀ flagKey tenantId', features'.enabled flagKey tenantId' =
        if tenantId' = tenantId ∧ flagKey ∈ flagKeys ∧ flagOf features flagKey ≠ none then true
        else features.enabled flagKey tenantId' := by
  induction flagKeys generalizing features with
  | nil => exact ⟨features, rfl, linked, rfl, fun _ _ => by simp⟩
  | cons key keys ih =>
    obtain ⟨next, done, linked', flags, enabled⟩ : ∃ next,
        enableBundled tenants tenantId features key = .ok next ∧ Linked next ∧
          next.flags = features.flags ∧ ∀ flagKey tenantId', next.enabled flagKey tenantId' =
            if tenantId' = tenantId ∧ flagKey = key ∧ flagOf features flagKey ≠ none then true
            else features.enabled flagKey tenantId' := by
      unfold enableBundled
      cases found : flagOf features key with
      | none =>
        refine ⟨features, rfl, linked, rfl, fun flagKey tenantId' => ?_⟩
        rw [if_neg]
        rintro ⟨-, rfl, registered⟩
        exact registered found
      | some flag =>
        obtain ⟨mem, own⟩ := flagOf_eq_some.mp found
        obtain ⟨next, done⟩ := exists_upsertOverride true mem tenant
        obtain ⟨linked', flags, enabled⟩ := upsertOverride_spec linked mem done
        refine ⟨next, done, linked', flags, fun flagKey tenantId' => ?_⟩
        rw [enabled, own]
        refine if_congr (and_congr_right fun _ => ?_) rfl rfl
        refine ⟨fun same => ⟨same, ?_⟩, And.left⟩
        rw [same, found]
        exact Option.some_ne_none flag
    obtain ⟨features', rest, linked'', flags', enabled'⟩ := ih linked'
    refine ⟨features', ?_, linked'', flags'.trans flags, fun flagKey tenantId' => ?_⟩
    · rw [inTurn_cons, done]
      exact rest
    · have same : flagOf next flagKey = flagOf features flagKey := by
        unfold flagOf
        rw [flags]
      rw [enabled', enabled, same]
      by_cases own : tenantId' = tenantId
      · by_cases registered : flagOf features flagKey = none
        · simp [registered]
        · rcases eq_or_ne flagKey key with rfl | here
          · simp [own, registered]
          · simp [own, registered, here]
      · simp [own]

end

/-! ### What is kept -/

/-- What is kept of a flag reads as the tables have it. -/
def Unstale (s : State) : Prop :=
  ∀ tenantId flagKey cached, s.kept tenantId flagKey = some cached →
    decide (cached.value = "true") = s.features.enabled flagKey tenantId

section

theorem toList_cacheKeyOf (tenantId : Id) (flagKey : String) :
    (cacheKeyOf (some tenantId) flagKey).toList =
      "ff:".toList ++ ((toString tenantId).toList ++ ':' :: flagKey.toList) := by
  have colon : ":".toList = [':'] := by decide
  unfold cacheKeyOf
  simp only [Option.map_some, Option.getD_some, String.toList_append, List.append_assoc, colon,
    List.singleton_append]

/-- The texts of two schools and two flags are the same only if these are. -/
theorem cacheKeyOf_inj {tenantId tenantId' : Id} {flagKey flagKey' : String}
    (same : cacheKeyOf (some tenantId) flagKey = cacheKeyOf (some tenantId') flagKey') :
    tenantId = tenantId' ∧ flagKey = flagKey' := by
  have letters := congrArg String.toList same
  rw [toList_cacheKeyOf, toList_cacheKeyOf, List.append_cancel_left_eq] at letters
  have ids := congrArg (List.takeWhile Char.isDigit) letters
  rw [takeWhile_isDigit_toString, takeWhile_isDigit_toString] at ids
  rw [ids] at letters
  have keys := (List.cons.inj (List.append_cancel_left letters)).2
  exact ⟨eq_of_toString_eq (String.ext ids), String.ext keys⟩

theorem cacheKeyOf_ne_global {tenantId : Id} {flagKey flagKey' : String} :
    cacheKeyOf (some tenantId) flagKey ≠ cacheKeyOf none flagKey' := by
  intro same
  have letters := congrArg String.toList same
  have here : (cacheKeyOf none flagKey').toList =
      "ff:".toList ++ 'g' :: ("lobal:".toList ++ flagKey'.toList) := by
    have start : "ff:" ++ "global" ++ ":" = "ff:" ++ "g" ++ "lobal:" := by decide
    change ("ff:" ++ "global" ++ ":" ++ flagKey').toList = _
    rw [start]
    simp only [String.toList_append, List.append_assoc]
    rfl
  rw [toList_cacheKeyOf, here, List.append_cancel_left_eq] at letters
  have ids := congrArg (List.takeWhile Char.isDigit) letters
  rw [takeWhile_isDigit_toString, List.takeWhile_cons_of_neg (by decide)] at ids
  rw [ids] at letters
  cases letters

end

section

variable {s : State} {tenantId : Id} {flagKey : String}

/-- There is one override of a flag, so that it is the last as well. -/
theorem find?_reverse_eq (features : FeatureTables) (tenantId featureFlagId : Id) :
    (features.overrides.rows.filter (·.tenantId = tenantId)).reverse.find?
      (·.featureFlagId = featureFlagId) = overrideOf features tenantId featureFlagId := by
  rw [overrideOf_eq]
  cases found : (features.overrides.rows.filter (·.tenantId = tenantId)).reverse.find?
      (·.featureFlagId = featureFlagId) with
  | none =>
    symm
    rw [Table.inSlot_eq_none]
    intro o mem same
    have missed := List.find?_eq_none.mp found o (List.mem_reverse.mpr
      (List.mem_filter.mpr ⟨mem, decide_eq_true (congrArg Prod.fst same)⟩))
    exact missed (decide_eq_true (congrArg Prod.snd same))
  | some o =>
    symm
    have mem := List.mem_filter.mp (List.mem_reverse.mp (List.mem_of_find?_eq_some found))
    have own : o.featureFlagId = featureFlagId := by simpa using List.find?_some found
    refine (Table.inSlot_eq_some (oneEach_overrides _)).mpr ⟨mem.1, ?_⟩
    exact Prod.ext (of_decide_eq_true mem.2) own

theorem shown_eq : shown flagKey tenantId s = s.features.enabled flagKey tenantId := by
  unfold shown getTenantFlags
  simp only [find?_reverse_eq, List.find?_map, Option.map_map]
  change ((flagOf s.features flagKey).map _).getD false = _
  cases found : flagOf s.features flagKey with
  | none => exact (enabled_of_none found).symm
  | some flag => exact (enabled_of_some found).symm

theorem isEnabled_eq : (isEnabled flagKey (some tenantId) s).2 =
    match s.kept tenantId flagKey with
    | some cached => decide (cached.value = "true")
    | none => s.features.enabled flagKey tenantId := by
  unfold isEnabled State.kept
  dsimp only
  cases s.redis.get s.now (cacheKeyOf (some tenantId) flagKey) with
  | some cached => rfl
  | none =>
    cases found : flagOf s.features flagKey with
    | none => exact (enabled_of_none found).symm
    | some flag => exact (enabled_of_some found).symm

theorem Unstale.wait (unstale : Unstale s) (elapsed : ℕ) : Unstale (s.wait elapsed) := by
  intro tenantId flagKey cached kept
  obtain ⟨there, live⟩ := Expiring.get_eq_some_iff.mp kept
  refine unstale tenantId flagKey cached (Expiring.get_eq_some_iff.mpr ⟨there, ?_⟩)
  by_contra ended
  have later : cached.live (s.wait elapsed).now = false :=
    Entry.live_eq_false (Bool.eq_false_iff.mpr ended) (Nat.le_add_right _ elapsed)
  rw [later] at live
  cases live

theorem current_iff_unstale : Current s ↔ Unstale s := by
  constructor
  · intro current tenantId flagKey cached kept
    have asked := current 0 flagKey tenantId
    rw [isEnabled_eq, shown_eq] at asked
    change (match s.kept tenantId flagKey with
      | some cached => decide (cached.value = "true")
      | none => s.features.enabled flagKey tenantId) = _ at asked
    rw [kept] at asked
    exact asked
  · intro unstale elapsed flagKey tenantId
    rw [isEnabled_eq, shown_eq]
    cases kept : (s.wait elapsed).kept tenantId flagKey with
    | some cached => exact unstale.wait elapsed tenantId flagKey cached kept
    | none => rfl

end

/-! ### Calls -/

section

variable {s : State}

/-- With other tables, what is kept must be of flags that are as they were. -/
theorem unstale_iff_of_redis (s' : State) (unstale : Unstale s) (redis : s'.redis = s.redis)
    (now : s'.now = s.now) :
    Unstale s' ↔ ∀ tenantId flagKey, s.kept tenantId flagKey ≠ none →
      s'.features.enabled flagKey tenantId = s.features.enabled flagKey tenantId := by
  have kept (tenantId : Id) (flagKey : String) :
      s'.kept tenantId flagKey = s.kept tenantId flagKey := by
    unfold State.kept
    rw [redis, now]
  constructor
  · intro after tenantId flagKey some
    obtain ⟨cached, some⟩ := Option.ne_none_iff_exists'.mp some
    exact (after tenantId flagKey cached ((kept _ _).trans some)).symm.trans
      (unstale tenantId flagKey cached some)
  · intro same tenantId flagKey cached some
    rw [kept] at some
    exact (unstale tenantId flagKey cached some).trans
      (same tenantId flagKey (some ▸ Option.some_ne_none _)).symm

theorem registerFlag_exact (unstale : Unstale s) (linked : Linked s.features) (key : String)
    (defaultEnabled : Option Bool) :
    Linked ((Op.registerFlag key defaultEnabled).exec s).features ∧
      (Unstale ((Op.registerFlag key defaultEnabled).exec s) ↔
        (Op.registerFlag key defaultEnabled).Fits s) := by
  obtain ⟨features, done, linked', enabled⟩ := registerFlag_spec key defaultEnabled linked
  dsimp only [Op.exec]
  rw [done]
  refine ⟨linked', (unstale_iff_of_redis { s with features } unstale rfl rfl).trans
    ⟨fun same => ?_, fun fits => ?_⟩⟩
  · refine or_iff_not_imp_left.mpr fun other tenantId kept => overrideAt_ne_none.mp fun none => ?_
    have default := same tenantId key kept
    rw [enabled, if_pos rfl, enabled_eq, none] at default
    exact other default.symm
  · intro tenantId flagKey kept
    rw [enabled]
    split
    · rename_i own
      subst own
      rw [enabled_eq s.features]
      rcases fits with default | overridden
      · rw [default]
      · obtain ⟨o, at_o⟩ := Option.ne_none_iff_exists'.mp
          (overrideAt_ne_none.mpr (overridden tenantId kept))
        rw [at_o]
        rfl
    · rfl

theorem setTenantFlag_spec (unstale : Unstale s) (linked : Linked s.features) (tenantId : Id)
    (flagKey : String) (enabled : Bool) :
    Linked ((Op.setTenantFlag tenantId flagKey enabled).exec s).features ∧
      Unstale ((Op.setTenantFlag tenantId flagKey enabled).exec s) := by
  dsimp only [Op.exec]
  cases done : setTenantFlag tenantId flagKey enabled s with
  | error e => exact ⟨linked, unstale⟩
  | ok s' =>
    simp only [setTenantFlag, do_eq_ok] at done
    obtain ⟨flag, found, features, upserted, rfl⟩ := done
    obtain ⟨mem, rfl⟩ := flagOf_eq_some.mp found
    obtain ⟨linked', -, values⟩ := upsertOverride_spec linked mem upserted
    refine ⟨linked', fun tenantId' flagKey' cached kept => ?_⟩
    have there := (Expiring.get_eq_some_iff.mp kept).1
    by_cases same : cacheKeyOf (some tenantId') flagKey' = cacheKeyOf (some tenantId) flag.key
    · change Expiring.del _ _ _ = _ at there
      rw [same, Expiring.del_self] at there
      cases there
    · have kept' : s.kept tenantId' flagKey' = some cached :=
        (Expiring.get_congr (Expiring.del_of_ne same)).symm.trans kept
      change _ = features.enabled flagKey' tenantId'
      rw [values, if_neg, unstale tenantId' flagKey' cached kept']
      rintro ⟨rfl, rfl⟩
      exact same rfl

/-- A plan is assigned to a school that there is. -/
theorem assignSubscription_ok {dto : AssignSubscriptionDto} {tenant : Tenant}
    {plan : SubscriptionPlan} (linked : Linked s.features)
    (found : s.tenants.find? dto.tenantId = some tenant)
    (planned : s.getPlan dto.planIdOrCode = some plan) :
    ∃ subscriptions features, assignSubscription dto true s =
        .ok { s with subscriptions, features } ∧ Linked features ∧
      ∀ flagKey tenantId, features.enabled flagKey tenantId =
        if tenantId = dto.tenantId ∧ flagKey ∈ plan.bundledFeatureFlags ∧
          flagOf s.features flagKey ≠ none then true
        else s.features.enabled flagKey tenantId := by
  have own : tenant.id = dto.tenantId := key_of_find? found
  have present : s.tenants.has (some tenant.id) = true := has_some_iff.mpr ⟨tenant, own ▸ found⟩
  obtain ⟨features, bundled, linked', -, enabled⟩ :=
    enableBundled_spec plan.bundledFeatureFlags linked present
  rw [own] at enabled
  let active := (activeOf s.subscriptions dto.tenantId).map (·.id)
  refine ⟨Assignment.store ⟨dto.tenantId, plan.id, addMonths s.now dto.months⟩ s.now active
    s.subscriptions, features, ?_, linked', enabled⟩
  unfold assignSubscription
  simp only [do_eq_ok]
  exact ⟨tenant, found, plan, planned, (), trivial, features, bundled, rfl⟩

theorem assignSubscription_exact (unstale : Unstale s) (linked : Linked s.features)
    (dto : AssignSubscriptionDto) (takes : Bool) :
    Linked ((Op.assignSubscription dto takes).exec s).features ∧
      (Unstale ((Op.assignSubscription dto takes).exec s) ↔
        (Op.assignSubscription dto takes).Fits s) := by
  dsimp only [Op.exec]
  have fails (failed : (assignSubscription dto takes s).toOption = none)
      (vacuous : (Op.assignSubscription dto takes).Fits s) :
      Linked (((assignSubscription dto takes s).toOption.getD s).features) ∧
        (Unstale ((assignSubscription dto takes s).toOption.getD s) ↔
          (Op.assignSubscription dto takes).Fits s) := by
    rw [failed]
    exact ⟨linked, iff_of_true unstale vacuous⟩
  cases found : s.tenants.find? dto.tenantId with
  | none =>
    refine fails ?_ fun _ absent => absurd found absent
    simp only [assignSubscription, found, orFail]
    rfl
  | some tenant =>
    cases planned : s.getPlan dto.planIdOrCode with
    | none =>
      refine fails ?_ fun _ _ plan none => ?_
      · simp only [assignSubscription, found, orFail, planned]
        rfl
      · rw [planned] at none
        cases none
    | some plan =>
      cases takes with
      | false =>
        refine fails ?_ (absurd · Bool.false_ne_true)
        simp only [assignSubscription, found, orFail, planned]
        rfl
      | true =>
        obtain ⟨subscriptions, features, done, linked', enabled⟩ :=
          assignSubscription_ok linked found planned
        rw [done]
        refine ⟨linked', (unstale_iff_of_redis { s with subscriptions, features } unstale rfl
          rfl).trans ⟨?_, ?_⟩⟩
        · intro same _ _ plan' planned' flagKey among flag registered kept
          rw [planned] at planned'
          cases planned'
          have still := same dto.tenantId flagKey kept
          rw [enabled, if_pos ⟨rfl, among, by simp [Option.mem_def.mp registered]⟩,
            enabled_of_some registered] at still
          exact still.symm
        · intro fits tenantId flagKey kept
          rw [enabled]
          split
          · rename_i here
            obtain ⟨rfl, among, registered⟩ := here
            obtain ⟨flag, registered⟩ := Option.ne_none_iff_exists'.mp registered
            rw [enabled_of_some registered]
            exact (fits rfl (found ▸ Option.some_ne_none _) plan
              planned flagKey among flag registered kept).symm
          · rfl

/-- What the tables say is kept. -/
theorem Unstale.cache (unstale : Unstale s) {flagKey : String} {tenantId : Option Id} {value : Bool}
    (right : ∀ i ∈ tenantId, value = s.features.enabled flagKey i) (ttlSeconds : ℕ) :
    Unstale (s.cache (cacheKeyOf tenantId flagKey) value ttlSeconds) := by
  intro i k cached kept
  have there := (Expiring.get_eq_some_iff.mp kept).1
  by_cases same : cacheKeyOf (some i) k = cacheKeyOf tenantId flagKey
  · cases tenantId with
    | none => exact absurd same cacheKeyOf_ne_global
    | some i' =>
      obtain ⟨rfl, rfl⟩ := cacheKeyOf_inj same
      cases Expiring.set_self.symm.trans there
      rw [right i rfl]
      change decide ((if s.features.enabled k i then "true" else "false") = "true") =
        s.features.enabled k i
      cases s.features.enabled k i <;> decide
  · exact unstale i k cached ((Expiring.get_congr (Expiring.set_of_ne same)).symm.trans kept)

theorem isEnabled_spec (unstale : Unstale s) (flagKey : String) (tenantId : Option Id) :
    (isEnabled flagKey tenantId s).1.features = s.features ∧
      Unstale (isEnabled flagKey tenantId s).1 := by
  unfold isEnabled
  dsimp only
  cases s.redis.get s.now (cacheKeyOf tenantId flagKey) with
  | some cached => exact ⟨rfl, unstale⟩
  | none =>
    cases found : flagOf s.features flagKey with
    | none => exact ⟨rfl, unstale.cache (fun i _ => (enabled_of_none found).symm) 300⟩
    | some flag =>
      refine ⟨rfl, unstale.cache (fun i named => ?_) 600⟩
      cases named
      exact (enabled_of_some found).symm

theorem exec_exact (unstale : Unstale s) (linked : Linked s.features) (op : Op) :
    Linked (op.exec s).features ∧ (Unstale (op.exec s) ↔ op.Fits s) := by
  cases op with
  | registerFlag key defaultEnabled => exact registerFlag_exact unstale linked key defaultEnabled
  | setTenantFlag tenantId flagKey enabled =>
    obtain ⟨linked', unstale'⟩ := setTenantFlag_spec unstale linked tenantId flagKey enabled
    exact ⟨linked', iff_of_true unstale' trivial⟩
  | assignSubscription dto takes => exact assignSubscription_exact unstale linked dto takes
  | isEnabled flagKey tenantId =>
    obtain ⟨same, unstale'⟩ := isEnabled_spec unstale flagKey tenantId
    exact ⟨same ▸ linked, iff_of_true unstale' trivial⟩

end

/-! ### Runs -/

/-- **The answers stay current exactly where what is kept is left alone.** -/
theorem current_iff {s : State} {calls : List Call} (linked : Linked s.features)
    (current : Current s) :
    Along serve (fun s c => Current (serve s c)) s calls ↔ Along serve Fits s calls := by
  refine along_iff (I := fun s => Linked s.features ∧ Unstale s) (D := fun _ _ => True) ?_ ?_
    ⟨linked, current_iff_unstale.mp current⟩ (along_of_forall fun _ _ => trivial)
  · rintro s c - ⟨linked, unstale⟩
    rw [current_iff_unstale]
    exact (exec_exact (unstale.wait c.elapsed) linked c.op).2
  · rintro s c - current ⟨linked, unstale⟩
    exact ⟨(exec_exact (unstale.wait c.elapsed) linked c.op).1, current_iff_unstale.mp current⟩

/-! ### A school with a plan -/

namespace Academy

/-- Two flags, of which the second is in the plan. -/
def state : State where
  tenants := .of [⟨1⟩]
  plans := .of [{ id := 1, code := "PRO_CAMPUS", bundledFeatureFlags := ["LIVE_CHAT"] }]
  features := {
    flags := ⟨[{ id := 1, key := "LMS_EXAMS" }, { id := 2, key := "LIVE_CHAT" }], by decide,
      by decide⟩ }

theorem linked : Linked state.features := List.forall_mem_nil _

theorem current : Current state :=
  current_iff_unstale.mpr fun _ _ _ kept => nomatch (Expiring.get_eq_some_iff.mp kept).1

def ask (flagKey : String) : Call := ⟨.isEnabled flagKey (some 1), 1000⟩

def pro : AssignSubscriptionDto := ⟨1, .code "PRO_CAMPUS", none⟩

def assign : Call := ⟨.assignSubscription pro true, 1000⟩

end Academy

open Academy

instance (s : State) (dto : AssignSubscriptionDto) (takes : Bool) :
    Decidable ((Op.assignSubscription dto takes).Fits s) := by
  unfold Op.Fits
  infer_instance

/-- A plan that is assigned before anyone asks, or after ten minutes. -/
theorem current_academy : Along serve (fun s c => Current (serve s c)) state
    [assign, ask "LIVE_CHAT", ask "LMS_EXAMS", ⟨.setTenantFlag 1 "LIVE_CHAT" false, 0⟩,
      ask "LIVE_CHAT", { assign with elapsed := 600001 }] := by
  have assigned : (Op.assignSubscription pro true).Fits (state.wait 1000) := by
    decide +kernel
  have again : (Op.assignSubscription pro true).Fits
      ((run serve state [assign, ask "LIVE_CHAT", ask "LMS_EXAMS",
        ⟨.setTenantFlag 1 "LIVE_CHAT" false, 0⟩, ask "LIVE_CHAT"]).wait 600001) := by
    decide +kernel
  exact (current_iff linked current).mpr
    ⟨assigned, trivial, trivial, trivial, trivial, again, trivial⟩

/-- Who has asked before the plan is assigned, or before a flag is on by default, is answered as
before. -/
theorem not_flags_current :
    (¬ Along serve (fun s c => Current (serve s c)) state [ask "LIVE_CHAT", assign]) ∧
      ¬ Along serve (fun s c => Current (serve s c)) state
        [ask "LMS_EXAMS", ⟨.registerFlag "LMS_EXAMS" (some true), 1000⟩] := by
  constructor
  · intro along
    exact absurd (along.2.1 0 "LIVE_CHAT" 1) (by decide +kernel)
  · intro along
    exact absurd (along.2.1 0 "LMS_EXAMS" 1) (by decide +kernel)

end Rokad.FeatureFlags
