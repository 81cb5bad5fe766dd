import Rokad.Base.Run
import Rokad.Common.Http
import Rokad.Common.Jalali

/-!
# Subscriptions of schools

`assignSubscription` reads the school and the plan, and then in one transaction cancels the
subscriptions that are active and creates a new one. The database isolates by read committed: the
update finds the rows that are committed and active when it starts, and goes through them one by
one; it waits while another transaction holds a row, and then skips the row if it is no longer
active. What a transaction writes is seen by others when it commits.
-/

namespace Rokad.Saas

open Rokad.Base Rokad.Common

/-! ### Tables -/

inductive SubscriptionStatus where
  | active | expired | gracePeriod | cancelled
deriving DecidableEq

inductive QuotaType where
  | students | teachers | storageMb
deriving DecidableEq

structure Tenant where
  id : Id

structure SubscriptionPlan where
  id : Id
  code : String
  maxStudents : ℕ := 100
  maxTeachers : ℕ := 20
  maxStorageMb : ℕ := 5120
  bundledFeatureFlags : List String := []

def SubscriptionPlan.limit (p : SubscriptionPlan) : QuotaType → ℕ
  | .students => p.maxStudents
  | .teachers => p.maxTeachers
  | .storageMb => p.maxStorageMb

structure TenantSubscription where
  (id tenantId planId : Id)
  status : SubscriptionStatus := .active
  (endDate createdAt : Instant)

instance : Record Tenant := { key := (·.id) }

instance : Record SubscriptionPlan where
  key p := p.id
  clash a b := a.code == b.code

instance : Record TenantSubscription := { key := (·.id) }

/-- What the calls only read. -/
structure Platform where
  tenants : Table Tenant := .empty
  plans : Table SubscriptionPlan := .empty

/-! ### Quotas -/

/-- The limit without a subscription. -/
def QuotaType.fallback : QuotaType → ℕ
  | students => 100
  | teachers => 20
  | storageMb => 5120

def activeOf (subscriptions : Table TenantSubscription) (tenantId : Id) :
    List TenantSubscription :=
  subscriptions.rows.filter fun s => s.tenantId = tenantId ∧ s.status = .active

/-- `orderBy: { createdAt: 'desc' }`, the first. -/
def newest : List TenantSubscription → Option TenantSubscription
  | [] => none
  | s :: rest =>
    match newest rest with
    | none => some s
    | some t => if s.createdAt < t.createdAt then some t else some s

structure Quota where
  quotaType : QuotaType
  currentUsage : ℚ
  maxAllowed : ℕ
  isExceeded : Bool
  remaining : ℚ

section

variable (x : Platform)

/-- `plan?.max… || …` -/
def maxAllowed (sub : Option TenantSubscription) (quotaType : QuotaType) : ℕ :=
  match sub.bind fun s => x.plans.find? s.planId with
  | some plan => if plan.limit quotaType = 0 then quotaType.fallback else plan.limit quotaType
  | none => quotaType.fallback

/-- `usage` is what the school uses of each quota. -/
def checkQuota (usage : Id → QuotaType → ℚ) (subscriptions : Table TenantSubscription)
    (tenantId : Id) (quotaType : QuotaType) : Quota :=
  let maxAllowed := maxAllowed x (newest (activeOf subscriptions tenantId)) quotaType
  let currentUsage := usage tenantId quotaType
  { quotaType, currentUsage, maxAllowed, isExceeded := maxAllowed ≤ currentUsage
    remaining := max 0 (maxAllowed - currentUsage) }

end

/-! ### Assigning a subscription -/

/-- A plan is named by its id or by its code. -/
inductive IdOrCode where
  | id (id : Id)
  | code (code : String)

def Platform.getPlan (x : Platform) : IdOrCode → Option SubscriptionPlan
  | .id id => x.plans.find? id
  | .code code => x.plans.rows.find? fun p => p.code = code

structure AssignSubscriptionDto where
  tenantId : Id
  planIdOrCode : IdOrCode
  durationMonths : Option ℕ := none

/-- `dto.durationMonths || 12` -/
def AssignSubscriptionDto.months (dto : AssignSubscriptionDto) : ℕ :=
  match dto.durationMonths with
  | some n => if n = 0 then 12 else n
  | none => 12

/-- The subscription a transaction is to create. -/
structure Assignment where
  (tenantId planId : Id)
  endDate : Instant

/-- Where a call is. -/
inductive Phase where
  | waiting
  | found
  | ready (a : Assignment)
  /-- The update found `todo` and has not come to them yet; `locked` are the rows it changes. -/
  | cancelling (a : Assignment) (todo locked : List Id)
  | created (a : Assignment) (createdAt : Instant) (locked : List Id)
  | committed
  | failed (error : Failure)

/-- What is committed, who holds which row, and the clock. -/
structure Host (ι : Type) where
  subscriptions : Table TenantSubscription := .empty
  locks : List (Id × ι) := []
  now : Instant

/-- A transaction goes on, or is rolled back: a flag can not be written, or the connection is
lost. -/
inductive Input where
  | go | abort

def TenantSubscription.cancel (s : TenantSubscription) : TenantSubscription :=
  { s with status := .cancelled }

theorem TenantSubscription.key_cancel (s : TenantSubscription) :
    Record.key s.cancel = Record.key s := rfl

/-- The rows that the update changes, when the transaction commits. -/
def cancels (tenantId : Id) (locked : List Id) (s : TenantSubscription) : Bool :=
  s.tenantId = tenantId && s.status = .active && locked.contains s.id

def cancelled (t : Table TenantSubscription) (tenantId : Id) (locked : List Id) :
    Table TenantSubscription :=
  t.updateMany (cancels tenantId locked) (·.cancel) TenantSubscription.key_cancel fun _ _ => rfl

def Assignment.row (a : Assignment) (createdAt : Instant) (id : Id) : TenantSubscription where
  id
  tenantId := a.tenantId
  planId := a.planId
  endDate := a.endDate
  createdAt

/-- What a transaction that changes the rows `locked` makes of the subscriptions. The id of the new
row is fresh, so the insertion goes through. -/
def Assignment.store (a : Assignment) (createdAt : Instant) (locked : List Id)
    (t : Table TenantSubscription) : Table TenantSubscription :=
  let rest := cancelled t a.tenantId locked
  (rest.insert (a.row createdAt rest.fresh)).getD rest

section

variable {ι : Type} [DecidableEq ι]

def Host.release (h : Host ι) (i : ι) : Host ι :=
  { h with locks := h.locks.filter fun l => l.2 ≠ i }

def Host.commit (h : Host ι) (i : ι) (a : Assignment) (createdAt : Instant) (locked : List Id) :
    Host ι :=
  { h.release i with subscriptions := a.store createdAt locked h.subscriptions }

/-- One statement of a call. -/
def act (x : Platform) (calls : ι → AssignSubscriptionDto) (i : ι) (h : Host ι) (phase : Phase)
    (input : Input) : Host ι × Phase :=
  let dto := calls i
  match phase, input with
  | .waiting, _ =>
    match x.tenants.find? dto.tenantId with
    | some _ => (h, .found)
    | none => (h, .failed (.notFound "مدرسه مورد نظر یافت نشد"))
  | .found, _ =>
    match x.getPlan dto.planIdOrCode with
    | some plan => (h, .ready ⟨dto.tenantId, plan.id, addMonths h.now dto.months⟩)
    | none => (h, .failed (.notFound "پلن اشتراک مورد نظر یافت نشد"))
  | .ready a, _ => (h, .cancelling a ((activeOf h.subscriptions a.tenantId).map (·.id)) [])
  | .cancelling a (id :: todo) locked, .go =>
    if h.locks.any fun l => l.1 = id ∧ l.2 ≠ i then
      -- another transaction holds the row
      (h, .cancelling a (id :: todo) locked)
    else if (activeOf h.subscriptions a.tenantId).any (·.id = id) then
      ({ h with locks := h.locks ++ [(id, i)] }, .cancelling a todo (locked ++ [id]))
    else
      (h, .cancelling a todo locked)
  | .cancelling a [] locked, .go => (h, .created a h.now locked)
  | .created a createdAt locked, .go => (h.commit i a createdAt locked, .committed)
  | .cancelling _ _ _, .abort | .created _ _ _, .abort =>
    (h.release i, .failed (.thrown "transaction rolled back"))
  | .committed, _ => (h, .committed)
  | .failed e, _ => (h, .failed e)

/-- A statement of a call, or the clock moves. -/
abbrev moveStep (x : Platform) (calls : ι → AssignSubscriptionDto) :
    Threads (Host ι) Phase ι → Move ι Input Instant → Threads (Host ι) Phase ι :=
  Threads.step (act x calls) fun h now => { h with now }

def start (subscriptions : Table TenantSubscription) (now : Instant) :
    Threads (Host ι) Phase ι :=
  ⟨{ subscriptions, now }, fun _ => .waiting⟩

/-! ### A call alone -/

variable {x : Platform} {calls : ι → AssignSubscriptionDto} {i : ι}

/-- The update goes through what it found, when nobody else holds a row. -/
theorem cancelling_alone {a : Assignment} {todo : List Id} {h : Host ι} {own : ι → Phase}
    {locked : List Id} (open' : ∀ id ∈ todo, (activeOf h.subscriptions a.tenantId).any (·.id = id))
    (free : ∀ l ∈ h.locks, l.2 = i) : ∃ locks,
    run (moveStep x calls) ⟨h, Function.update own i (.cancelling a todo locked)⟩
        (List.replicate todo.length (.thread i .go)) =
      ⟨{ h with locks }, Function.update own i (.cancelling a [] (locked ++ todo))⟩ := by
  induction todo generalizing h locked with
  | nil => exact ⟨h.locks, by simp⟩
  | cons id todo ih =>
    obtain ⟨first, rest⟩ := List.forall_mem_cons.mp open'
    have notHeld : ¬(h.locks.any fun l => l.1 = id ∧ l.2 ≠ i) = true := by
      simp only [List.any_eq_true, decide_eq_true_eq, not_exists, not_and, not_not]
      exact fun l mem _ => free l mem
    have goes : act x calls i h (.cancelling a (id :: todo) locked) .go =
        ({ h with locks := h.locks ++ [(id, i)] }, .cancelling a todo (locked ++ [id])) := by
      dsimp only [act]
      rw [if_neg notHeld, if_pos first]
    obtain ⟨locks, moved⟩ := @ih { h with locks := h.locks ++ [(id, i)] } (locked ++ [id]) rest
      (by simpa [or_imp, forall_and] using free)
    refine ⟨locks, ?_⟩
    rw [List.length_cons, List.replicate_succ, run_cons, List.append_cons, ← moved]
    simp [Threads.step, goes]

/-- Without interference, the subscription replaces all that are active. -/
theorem stored_alone {p : Threads (Host ι) Phase ι} (waits : p.own i = .waiting)
    (free : p.shared.locks = []) {tenant : Tenant} {plan : SubscriptionPlan}
    (found : x.tenants.find? (calls i).tenantId = some tenant)
    (planned : x.getPlan (calls i).planIdOrCode = some plan) :
    let active := (activeOf p.shared.subscriptions (calls i).tenantId).map (·.id)
    let final := run (moveStep x calls) p (List.replicate (3 + active.length + 2) (.thread i .go))
    final.own i = .committed ∧ final.shared.subscriptions =
      (⟨(calls i).tenantId, plan.id, addMonths p.shared.now (calls i).months⟩ : Assignment).store
        p.shared.now active p.shared.subscriptions := by
  intro active final
  obtain ⟨h, own⟩ := p
  dsimp only at waits free active final ⊢
  obtain ⟨locks, moved⟩ := @cancelling_alone ι _ x calls i
    ⟨(calls i).tenantId, plan.id, addMonths h.now (calls i).months⟩ active h own []
    (by simp [active]) (by simp [free])
  have isFinal : final = run (moveStep x calls) (run (moveStep x calls)
      (run (moveStep x calls) ⟨h, own⟩ (List.replicate 3 (.thread i .go)))
        (List.replicate active.length (.thread i .go))) (List.replicate 2 (.thread i .go)) := by
    rw [← run_append, ← run_append, List.replicate_append_replicate,
      List.replicate_append_replicate, ← Nat.add_assoc]
  have begun : run (moveStep x calls) ⟨h, own⟩ (List.replicate 3 (.thread i .go)) =
      ⟨h, Function.update own i (.cancelling ⟨(calls i).tenantId, plan.id,
        addMonths h.now (calls i).months⟩ active [])⟩ := by
    simp [List.replicate, Threads.step, act, waits, found, planned, active]
  rw [isFinal, begun, moved]
  simp [List.replicate, Threads.step, act, Host.commit]

end

/-!
## One subscription in force

A school should have one active subscription at most, and its quotas should be those of the plan of
the active subscription while it has not ended, and else those without a subscription.

The update of a transaction does not find what another one creates meanwhile, so two subscriptions
can be active; and no quota asks when a subscription ends (`not_in_force`). Both hold at every
moment exactly when a transaction that commits has found every active subscription of its school,
and the plan's limits are those in force at that moment of the clock (`in_force_iff`).
-/

/-! ### The law -/

section

variable {ι : Type} (x : Platform) (usage : Id → QuotaType → ℚ)

/-- The active subscription whose end has not passed. -/
def inForce (h : Host ι) (tenantId : Id) : Option TenantSubscription :=
  (activeOf h.subscriptions tenantId).find? fun s => h.now ≤ s.endDate

def limitOf (sub : Option TenantSubscription) (quotaType : QuotaType) : ℕ :=
  match sub.bind fun s => x.plans.find? s.planId with
  | some plan => plan.limit quotaType
  | none => quotaType.fallback

/-- No school has two active subscriptions, and quotas follow the one in force. -/
structure Kept (h : Host ι) : Prop where
  one : ∀ tenantId, (activeOf h.subscriptions tenantId).length ≤ 1
  quota : ∀ tenantId quotaType, (checkQuota x usage h.subscriptions tenantId quotaType).maxAllowed =
      limitOf x (inForce h tenantId) quotaType

/-! ### The condition -/

/-- While the subscription lasts, the plan has no limit of zero; afterwards, its limits are those
without a subscription, or zero. -/
def Right (now : Instant) (planId : Id) (endDate : Instant) : Prop :=
  ∀ plan ∈ x.plans.find? planId,
    if now ≤ endDate then ∀ quotaType, plan.limit quotaType ≠ 0
    else ∀ quotaType, plan.limit quotaType = 0 ∨ plan.limit quotaType = quotaType.fallback

def Fits (p : Threads (Host ι) Phase ι) : Move ι Input Instant → Prop
  | .thread i input =>
    match p.own i, input with
    | .created a _ locked, .go =>
      (∀ s ∈ activeOf p.shared.subscriptions a.tenantId, s.id ∈ locked) ∧
        Right x p.shared.now a.planId a.endDate
    | _, _ => True
  | .world now => ∀ s ∈ p.shared.subscriptions.rows, s.status = .active →
      Right x now s.planId s.endDate

end

/-! ### Limits -/

section

variable {ι : Type} {x : Platform} {usage : Id → QuotaType → ℚ} {h : Host ι}

theorem maxAllowed_eq_iff {now : Instant} {s : TenantSubscription} :
    (∀ quotaType, maxAllowed x (some s) quotaType =
      limitOf x (([s].find? fun s => now ≤ s.endDate)) quotaType) ↔
        Right x now s.planId s.endDate := by
  unfold Right
  cases plan : x.plans.find? s.planId with
  | none =>
    refine iff_of_true (fun quotaType => ?_) nofun
    by_cases lasts : now ≤ s.endDate <;> simp [maxAllowed, limitOf, plan, lasts]
  | some plan' =>
    simp only [Option.mem_def, Option.some.injEq, forall_eq']
    split
    · rename_i lasts
      refine forall_congr' fun quotaType => ?_
      simp only [maxAllowed, limitOf, Option.bind_some, plan, List.find?_cons_of_pos,
        decide_eq_true_eq, lasts]
      split
      · rename_i zero
        rw [zero]
        refine iff_of_false (fun same => ?_) (fun differs => differs rfl)
        cases quotaType <;> cases same
      · rename_i positive
        exact iff_of_true rfl positive
    · rename_i ended
      refine forall_congr' fun quotaType => ?_
      simp only [maxAllowed, limitOf, Option.bind_some, plan, List.find?_singleton, ended,
        decide_false, Bool.false_eq_true, if_false, Option.bind_none]
      split
      · rename_i zero
        exact iff_of_true rfl (.inl zero)
      · rename_i positive
        exact (or_iff_right positive).symm

/-- With one active subscription at most, the quotas are right exactly if those of that one are. -/
theorem quota_iff {tenantId : Id} (one : (activeOf h.subscriptions tenantId).length ≤ 1) :
    (∀ quotaType, (checkQuota x usage h.subscriptions tenantId quotaType).maxAllowed =
      limitOf x (inForce h tenantId) quotaType) ↔
        ∀ s ∈ activeOf h.subscriptions tenantId, Right x h.now s.planId s.endDate := by
  unfold checkQuota inForce
  dsimp only
  match active : activeOf h.subscriptions tenantId with
  | [] => exact iff_of_true (fun _ => rfl) (List.forall_mem_nil _)
  | [s] => exact maxAllowed_eq_iff.trans (by simp)
  | s :: t :: rest => rw [active] at one; simp at one

/-- The quotas of every school, through the one active subscription of each. -/
theorem kept_iff : Kept x usage h ↔ (∀ tenantId, (activeOf h.subscriptions tenantId).length ≤ 1) ∧
      ∀ s ∈ h.subscriptions.rows, s.status = .active → Right x h.now s.planId s.endDate := by
  constructor
  · rintro ⟨one, quota⟩
    refine ⟨one, fun s mem active => ?_⟩
    exact (quota_iff (one s.tenantId)).mp (quota s.tenantId) s
      (List.mem_filter.mpr ⟨mem, by simp [active]⟩)
  · rintro ⟨one, right⟩
    refine ⟨one, fun tenantId => (quota_iff (one tenantId)).mpr fun s mem => ?_⟩
    obtain ⟨mem, own⟩ := List.mem_filter.mp mem
    simp only [decide_eq_true_eq] at own
    exact right s mem own.2

theorem Kept.congr {h' : Host ι} (kept : Kept x usage h)
    (subscriptions : h'.subscriptions = h.subscriptions) (now : h'.now = h.now) :
    Kept x usage h' := by
  rw [kept_iff] at kept ⊢
  rw [subscriptions, now]
  exact kept

end

/-! ### A commit -/

section

variable {ι : Type} [DecidableEq ι] {h : Host ι} {i : ι} {a : Assignment} {createdAt : Instant}
  {locked : List Id}

theorem commit_rows : ∃ id, (h.commit i a createdAt locked).subscriptions.rows =
    (cancelled h.subscriptions a.tenantId locked).rows ++ [a.row createdAt id] := by
  let rest := cancelled h.subscriptions a.tenantId locked
  obtain ⟨t, inserted⟩ := rest.insert_of_fresh (a.row createdAt rest.fresh) rfl fun _ _ => rfl
  refine ⟨rest.fresh, ?_⟩
  change ((rest.insert (a.row createdAt rest.fresh)).getD rest).rows = _
  rw [inserted]
  exact (insert_spec.mp inserted).1

theorem cancels_eq {tenantId other : Id} {s : TenantSubscription}
    (open' : s.tenantId = other ∧ s.status = .active) :
    cancels tenantId locked s = (decide (other = tenantId) && locked.contains s.id) := by
  simp [cancels, open'.1, open'.2]

/-- What the update leaves active: all of other schools, and what it did not find. -/
theorem activeOf_cancelled (t : Table TenantSubscription) (tenantId other : Id) :
    activeOf (cancelled t tenantId locked) other =
      (activeOf t other).filter fun s => !(decide (other = tenantId) && locked.contains s.id) := by
  unfold activeOf cancelled Table.updateMany
  dsimp only
  induction t.rows with
  | nil => rfl
  | cons s rows ih =>
    rw [List.map_cons]
    by_cases open' : s.tenantId = other ∧ s.status = .active
    · rw [List.filter_cons_of_pos (l := rows) (by simpa using open'),
        List.filter_cons (x := s), ← cancels_eq open', ← ih]
      cases cancels tenantId locked s <;>
        simp [TenantSubscription.cancel, open'.1, open'.2]
    · rw [List.filter_cons_of_neg (l := rows) (by simpa using open'), ← ih]
      refine List.filter_cons_of_neg ?_
      split
      · simp [TenantSubscription.cancel]
      · simpa using open'

theorem activeOf_commit (other : Id) : ∃ id,
    activeOf (h.commit i a createdAt locked).subscriptions other =
      (activeOf h.subscriptions other).filter
        (fun s => !(decide (other = a.tenantId) && locked.contains s.id)) ++
          if a.tenantId = other then [a.row createdAt id] else [] := by
  obtain ⟨id, rows⟩ := @commit_rows ι _ h i a createdAt locked
  refine ⟨id, ?_⟩
  rw [← activeOf_cancelled]
  unfold activeOf
  rw [rows, List.filter_append]
  by_cases own : a.tenantId = other <;> simp [Assignment.row, own]

theorem now_commit : (h.commit i a createdAt locked).now = h.now := rfl

theorem commit_iff {x : Platform} {usage : Id → QuotaType → ℚ} (kept : Kept x usage h) :
    Kept x usage (h.commit i a createdAt locked) ↔
      (∀ s ∈ activeOf h.subscriptions a.tenantId, s.id ∈ locked) ∧
        Right x h.now a.planId a.endDate := by
  rw [kept_iff] at kept ⊢
  obtain ⟨id, rows⟩ := @commit_rows ι _ h i a createdAt locked
  rw [now_commit]
  refine and_congr ⟨fun one s mem => ?_, fun all tenantId => ?_⟩
    ⟨fun right => ?_, fun right s mem active => ?_⟩
  · -- what the update has not found is active beside the new row
    obtain ⟨id', active⟩ := @activeOf_commit ι _ h i a createdAt locked a.tenantId
    have atMost := one a.tenantId
    rw [active, if_pos rfl, List.length_append, List.length_singleton] at atMost
    have nothing := List.eq_nil_of_length_eq_zero (Nat.le_zero.mp (by omega :
      ((activeOf h.subscriptions a.tenantId).filter fun s =>
        !(decide (a.tenantId = a.tenantId) && locked.contains s.id)).length ≤ 0))
    have found := List.filter_eq_nil_iff.mp nothing s mem
    simpa using found
  · obtain ⟨id', active⟩ := @activeOf_commit ι _ h i a createdAt locked tenantId
    rw [active]
    split
    · rename_i own
      subst own
      rw [List.filter_eq_nil_iff.mpr fun s mem => by simpa using all s mem]
      exact Nat.le_refl 1
    · rw [List.append_nil]
      exact (List.length_filter_le ..).trans (kept.1 tenantId)
  · have mem : a.row createdAt id ∈ (h.commit i a createdAt locked).subscriptions.rows := by
      simp [rows]
    exact right _ mem rfl
  · rw [rows, List.mem_append, List.mem_singleton] at mem
    rcases mem with before | rfl
    · -- the update creates no active row
      obtain ⟨s', mem', rfl⟩ := List.mem_map.mp before
      dsimp only at active ⊢
      split at active
      · cases active
      · rename_i stays
        rw [if_neg stays]
        exact kept.2 s' mem' active
    · exact right

end

/-! ### Steps -/

section

variable {ι : Type} [DecidableEq ι] {x : Platform} {usage : Id → QuotaType → ℚ}
  {calls : ι → AssignSubscriptionDto} {h : Host ι} {i : ι}

/-- A statement commits, or what is committed stays as it is. -/
theorem act_cases (phase : Phase) (input : Input) :
    (∃ a createdAt locked, phase = .created a createdAt locked ∧ input = .go ∧
      (act x calls i h phase input).1 = h.commit i a createdAt locked) ∨
    ((∀ a createdAt locked, phase = .created a createdAt locked → input = .abort) ∧
      (act x calls i h phase input).1.subscriptions = h.subscriptions ∧
      (act x calls i h phase input).1.now = h.now) := by
  cases phase with
  | created a createdAt locked =>
    cases input with
    | go => exact .inl ⟨a, createdAt, locked, rfl, rfl, rfl⟩
    | abort => exact .inr ⟨fun _ _ _ _ => rfl, rfl, rfl⟩
  | cancelling a todo locked =>
    refine .inr ⟨nofun, ?_⟩
    cases input with
    | abort => cases todo <;> exact ⟨rfl, rfl⟩
    | go =>
      cases todo with
      | nil => exact ⟨rfl, rfl⟩
      | cons id todo =>
        dsimp only [act]
        split
        · exact ⟨rfl, rfl⟩
        · split <;> exact ⟨rfl, rfl⟩
  | waiting =>
    refine .inr ⟨nofun, ?_⟩
    dsimp only [act]
    split <;> exact ⟨rfl, rfl⟩
  | found =>
    refine .inr ⟨nofun, ?_⟩
    dsimp only [act]
    split <;> exact ⟨rfl, rfl⟩
  | ready a => exact .inr ⟨nofun, rfl, rfl⟩
  | committed => exact .inr ⟨nofun, rfl, rfl⟩
  | failed e => exact .inr ⟨nofun, rfl, rfl⟩

theorem kept_step_iff {p : Threads (Host ι) Phase ι} (kept : Kept x usage p.shared)
    (move : Move ι Input Instant) :
    Kept x usage (moveStep x calls p move).shared ↔ Fits x p move := by
  cases move with
  | world now =>
    rw [kept_iff] at kept ⊢
    exact and_iff_right kept.1
  | thread i input =>
    change Kept x usage (act x calls i p.shared (p.own i) input).1 ↔ _
    rcases @act_cases ι _ x calls p.shared i (p.own i) input with
      ⟨a, createdAt, locked, own, rfl, commits⟩ | ⟨quiet, subscriptions, now⟩
    · rw [commits, commit_iff kept]
      simp only [Fits, own]
    · refine iff_of_true (kept.congr subscriptions now) ?_
      dsimp only [Fits]
      split
      · rename_i own
        cases quiet _ _ _ own
      · trivial

end

/-! ### Runs -/

/-- **One subscription in force.** After every step of a run each school has one active subscription
at most, and its quotas are those in force, exactly if every step of the run fits. -/
theorem in_force_iff {ι : Type} [DecidableEq ι] {x : Platform} {usage : Id → QuotaType → ℚ}
    {calls : ι → AssignSubscriptionDto} {p : Threads (Host ι) Phase ι}
    (kept : Kept x usage p.shared) (moves : List (Move ι Input Instant)) :
    Along (moveStep x calls) (fun p move => Kept x usage (moveStep x calls p move).shared) p moves ↔
      Along (moveStep x calls) (Fits x) p moves :=
  along_iff (I := fun p => Kept x usage p.shared) (D := fun _ _ => True)
    (fun _ move _ kept => kept_step_iff kept move) (fun _ _ _ after _ => after) kept
    (along_of_forall fun _ _ => trivial)

instance : Fintype QuotaType :=
  ⟨{.students, .teachers, .storageMb}, fun quotaType => by cases quotaType <;> decide⟩

instance (x : Platform) (now : Instant) (planId : Id) (endDate : Instant) :
    Decidable (Right x now planId endDate) :=
  inferInstanceAs (Decidable (∀ _ ∈ _, _))

instance {ι : Type} (x : Platform) (p : Threads (Host ι) Phase ι) (move : Move ι Input Instant) :
    Decidable (Fits x p move) := by
  unfold Fits
  rcases move with ⟨i, input⟩ | now
  · dsimp only
    cases p.own i <;> cases input <;> dsimp only <;> infer_instance
  · dsimp only
    infer_instance

/-! ### A school that renews -/

namespace Renewal

def platform : Platform where
  tenants := ⟨[⟨1⟩], by decide, by decide⟩
  plans := ⟨[{ id := 1, code := "basic", maxStudents := 300, maxTeachers := 30 }], by decide,
    by decide⟩

/-- Two months of the plan, by either of two administrators. -/
def calls (_ : Fin 2) : AssignSubscriptionDto := ⟨1, .code "basic", some 2⟩

def school : Threads (Host (Fin 2)) Phase (Fin 2) := start .empty 0

def go (i : Fin 2) : Move (Fin 2) Input Instant := .thread i .go

end Renewal

open Renewal

/-- The second call comes after the first. -/
theorem in_force_renewed : Along (moveStep platform Renewal.calls)
      (fun p move => Kept platform (fun _ _ => 0) (moveStep platform Renewal.calls p move).shared)
      school
      [go 0, go 0, go 0, go 0, go 0, .world 86400000, go 1, go 1, go 1, go 1, go 1, go 1] :=
  (in_force_iff (p := school)
    (kept_iff.mpr ⟨fun _ => Nat.zero_le 1, List.forall_mem_nil _⟩) _).mpr
    (by decide +kernel)

/-- Both transactions look for active subscriptions before either of them commits; and after one
call, the clock moves past the end of the subscription. -/
theorem not_in_force : (¬ Along (moveStep platform Renewal.calls)
      (fun p move => Kept platform (fun _ _ => 0) (moveStep platform Renewal.calls p move).shared)
      school
      ([go 0, go 0, go 0, go 0, go 1, go 1, go 1, go 1, go 0] ++ [go 1])) ∧
    ¬ Along (moveStep platform Renewal.calls)
      (fun p move => Kept platform (fun _ _ => 0) (moveStep platform Renewal.calls p move).shared)
      school
      ([go 0, go 0, go 0, go 0, go 0] ++ [.world 6048000000]) := by
  constructor
  · intro along
    have kept := (along_append.mp along).2.1
    exact absurd (kept.one 1) (by decide +kernel)
  · intro along
    have kept := (along_append.mp along).2.1
    exact absurd (kept.quota 1 .students) (by decide +kernel)

end Rokad.Saas
