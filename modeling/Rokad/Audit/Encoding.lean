import Rokad.Audit.Chain

/-!
# What a digest is of

The fields of a record are joined by bars, nothing is escaped, and an absent field is printed as its
default. So the printed text of a record is that of another one as soon as a field holds a bar where
it can be cut otherwise, or is what a default stands for (`content_unique_iff`). The payload is always
told: it is a printed value.
-/

namespace Rokad.Audit

open Rokad.Base Rokad.Common

/-! ### What is to be told apart -/

/-- What is given; `null` is not. -/
def given (payload : Option Json) : Option Json := payload.filter fun value => !value.isNull

/-- All fields are equal, those that are absent or null too. -/
structure AuditHashData.Same (a b : AuditHashData) : Prop where
  id : a.id = b.id
  tenantId : a.tenantId = b.tenantId
  userId : a.userId = b.userId
  action : a.action = b.action
  entity : a.entity = b.entity
  entityId : a.entityId = b.entityId
  timestamp : a.timestamp = b.timestamp
  previousHash : a.previousHash = b.previousHash
  payload : given a.payload = given b.payload

/-- No field holds a bar where the text can be cut otherwise, and none is what stands for an absent
one. A bar that is a whole user, or the end of a hash, leaves an empty field behind if the text is
cut there, and an empty user or hash is never printed. -/
structure AuditHashData.Unambiguous (a : AuditHashData) : Prop where
  plain : ∀ s ∈ [a.id, a.tenantId, a.action, a.entity, a.timestamp], '|' ∉ s.toList
  userId : ∃ u, a.userId = some u ∧ u ≠ "" ∧ u ≠ "SYSTEM" ∧ ('|' ∉ u.toList ∨ u = "|")
  entityId : ∃ e, a.entityId = some e ∧ e ≠ "" ∧ '|' ∉ e.toList
  previousHash : ∃ p, a.previousHash = some p ∧ p ≠ "" ∧ p ≠ genesis ∧ '|' ∉ p.toList.dropLast
  payload : a.payload.any Json.truthy = true

/-! ### Cutting at bars -/

section

variable {x y r s : List Char}

theorem cut (plain : '|' ∉ x) (same : x ++ '|' :: r = y ++ '|' :: s) :
    y = x ∧ s = r ∨ ∃ z, y = x ++ '|' :: z ∧ r = z ++ '|' :: s := by
  rcases List.append_eq_append_iff.mp same with ⟨zs, rfl, tail⟩ | ⟨zs, rfl, tail⟩
  · cases zs with
    | nil => exact .inl ⟨List.append_nil x, (List.cons.inj tail).2.symm⟩
    | cons c zs =>
      obtain ⟨bar, after⟩ := List.cons.inj tail
      exact .inr ⟨zs, by rw [bar], after⟩
  · cases zs with
    | nil => exact .inl ⟨(List.append_nil y).symm, (List.cons.inj tail).2⟩
    | cons c zs =>
      obtain ⟨rfl, -⟩ := List.cons.inj tail
      exact absurd (by simp) plain

/-- A field without a bar, where no fewer bars follow the other one. -/
theorem field (plain : '|' ∉ x) (few : r.count '|' ≤ s.count '|')
    (same : x ++ '|' :: r = y ++ '|' :: s) : y = x ∧ s = r := by
  rcases cut plain same with equal | ⟨z, -, rfl⟩
  · exact equal
  · rw [List.count_append, List.count_cons_self] at few
    omega

/-- Four fields without bars, and as many that something may follow. -/
theorem four_fields {a b c d a' b' c' d' : List Char} (plainA : '|' ∉ a) (plainB : '|' ∉ b)
    (plainC : '|' ∉ c) (plainD : '|' ∉ d)
    (same : a ++ '|' :: (b ++ '|' :: (c ++ '|' :: d)) =
      a' ++ '|' :: (b' ++ '|' :: (c' ++ '|' :: d'))) : a' = a ∧ b' = b ∧ c' = c ∧ d' = d := by
  have none := List.count_eq_zero.mpr plainB
  have none' := List.count_eq_zero.mpr plainC
  have none'' := List.count_eq_zero.mpr plainD
  obtain ⟨first, afterA⟩ := field plainA (by simp; omega) same
  obtain ⟨second, afterB⟩ := field plainB (by simp; omega) afterA.symm
  obtain ⟨third, last⟩ := field plainC (by omega) afterB.symm
  exact ⟨first, second, third, last⟩

/-- A tenant's and a user's field before others: the user is not empty. -/
theorem three_fields {i t u i' t' u' : List Char} (plainI : '|' ∉ i) (plainT : '|' ∉ t)
    (user : '|' ∉ u ∨ u = ['|']) (user' : u' ≠ []) (few : r.count '|' ≤ s.count '|')
    (same : i ++ '|' :: (t ++ '|' :: (u ++ '|' :: r)) =
      i' ++ '|' :: (t' ++ '|' :: (u' ++ '|' :: s))) : i' = i ∧ t' = t ∧ u' = u ∧ s = r := by
  have none := List.count_eq_zero.mpr plainT
  rcases user with plainU | rfl
  · have none' := List.count_eq_zero.mpr plainU
    obtain ⟨first, afterI⟩ := field plainI (by simp; omega) same
    obtain ⟨second, afterT⟩ := field plainT (by simp; omega) afterI.symm
    obtain ⟨third, last⟩ := field plainU few afterT.symm
    exact ⟨first, second, third, last⟩
  · -- if the bar that is the user ended a field before, the user would be empty
    rcases cut plainI same with ⟨first, afterI⟩ | ⟨z, -, within⟩
    · rcases cut plainT afterI.symm with ⟨second, afterT⟩ | ⟨z, -, within⟩
      · cases u' with
        | nil => exact absurd rfl user'
        | cons c cs =>
          obtain ⟨bar, after⟩ := List.cons.inj afterT.symm
          obtain ⟨rfl, last⟩ := field (x := []) (by simp) few after
          exact ⟨first, second, by rw [bar], last⟩
      · have counts := congrArg (List.count '|') within
        obtain ⟨-, after⟩ := field (x := []) (r := '|' :: r) (by simp) (by simp; omega) within
        exact absurd (field (x := []) (by simp) few after.symm).1 user'
    · have counts := congrArg (List.count '|') within
      simp only [List.count_append, List.count_cons_self] at counts
      obtain ⟨-, after⟩ := field plainT (by simp; omega) within
      obtain ⟨-, after'⟩ := field (x := []) (r := '|' :: r) (by simp) (by simp; omega) after.symm
      exact absurd (field (x := []) (by simp) few after'.symm).1 user'

end

/-! ### The fields of a record -/

section

variable {host : Host} {a b : AuditHashData}

/-- The fields before the payload, as they are printed. -/
def AuditHashData.joined (a : AuditHashData) : List Char :=
  a.id.toList ++ '|' :: (a.tenantId.toList ++ '|' :: (((truthy a.userId).getD "SYSTEM").toList ++
    '|' :: (a.action.toList ++ '|' :: (a.entity.toList ++ '|' ::
      (((truthy a.entityId).getD "").toList ++ '|' :: (a.timestamp.toList ++ '|' ::
        ((truthy a.previousHash).getD genesis).toList))))))

theorem chainContent_eq_iff : chainContent host a = chainContent host b ↔
    a.joined = b.joined ∧ rawPayload a.payload = rawPayload b.payload := by
  have bar : "|".toList = ['|'] := rfl
  have shown : ∀ d : AuditHashData, (chainContent host d).toList =
      d.joined ++ '|' :: (rawPayload d.payload).toList ++ '|' :: host.auditPepper.toList := by
    intro d
    simp only [chainContent, AuditHashData.joined, String.intercalate_cons_cons,
      String.intercalate_singleton, String.toList_append, bar, List.append_assoc,
      List.cons_append, List.nil_append]
  rw [← String.toList_inj, shown, shown, List.append_cancel_right_eq]
  refine ⟨fun same => ?_, fun same => by rw [same.1, same.2]⟩
  obtain ⟨fields, payload⟩ := last_field_of_balanced (balanced_rawPayload _)
    (balanced_rawPayload _) same
  exact ⟨fields, String.toList_injective payload⟩

theorem truthy_getD_ne_empty {o : Option String} {default : String} (nonempty : default ≠ "") :
    ((truthy o).getD default).toList ≠ [] := by
  intro empty
  have empty : (truthy o).getD default = "" := String.toList_injective empty
  cases is : truthy o with
  | none => exact nonempty (by rwa [is] at empty)
  | some s => exact (truthy_eq_some_iff.mp is).2 (by rwa [is] at empty)

/-- What is printed of an optional field is the text itself, or the default. -/
theorem eq_some_of_getD {o : Option String} {default s : String}
    (printed : (truthy o).getD default = s) (other : s ≠ default) : o = some s := by
  cases is : truthy o with
  | none => exact absurd (by rw [← printed, is]; rfl) other
  | some t =>
    rw [is] at printed
    obtain rfl : t = s := printed
    exact (truthy_eq_some_iff.mp is).1

theorem payload_eq (truthyA : a.payload.any Json.truthy = true)
    (same : rawPayload a.payload = rawPayload b.payload) : a.payload = b.payload := by
  obtain ⟨v, isV, truthyV⟩ := (Option.any_eq_true ..).mp truthyA
  unfold rawPayload at same
  rw [isV, Option.filter_some, if_pos truthyV] at same
  rw [isV]
  cases is : b.payload.filter Json.truthy with
  | none =>
    rw [is] at same
    obtain ⟨c, cs, printed, -⟩ := v.text_eq_cons
    have empty : v.text = [] := String.ofList_injective (same.trans String.ofList_nil.symm)
    rw [printed] at empty
    cases empty
  | some w =>
    rw [is] at same
    rw [(Option.filter_eq_some_iff.mp is).1, Json.stringify_injective same]

/-- What comes before the hash, up to bars that would be left of the other text. -/
theorem front_of_hash {front front' p p' : List Char} (plain : '|' ∉ p.dropLast)
    (some' : p' ≠ []) (same : front ++ '|' :: p = front' ++ '|' :: p') :
    ∃ rest, front = front' ++ rest ∧ (rest = [] ∧ p = p' ∨ '|' ∈ rest) := by
  rcases List.append_eq_append_iff.mp same with ⟨zs, rfl, tail⟩ | ⟨zs, rfl, tail⟩
  · cases zs with
    | nil => exact ⟨[], by simp, .inl ⟨rfl, (List.cons.inj tail).2⟩⟩
    | cons c zs =>
      have whole : p = zs ++ '|' :: p' := (List.cons.inj tail).2
      rw [whole, List.dropLast_append_of_ne_nil (by simp),
        List.dropLast_cons_of_ne_nil some'] at plain
      exact absurd (by simp) plain
  · cases zs with
    | nil => exact ⟨[], rfl, .inl ⟨rfl, (List.cons.inj tail).2.symm⟩⟩
    | cons c zs =>
      obtain ⟨rfl, -⟩ := List.cons.inj tail
      exact ⟨_, rfl, .inr List.mem_cons_self⟩

/-- Fields that can be cut in one way are told apart. -/
theorem same_of_unambiguous (unambiguous : a.Unambiguous)
    (same : chainContent host a = chainContent host b) : a.Same b := by
  obtain ⟨plain, ⟨u, isU, someU, otherU, userId⟩, ⟨e, isE, someE, plainE⟩,
    ⟨p, isP, someP, otherP, plainP⟩, payload⟩ := unambiguous
  simp only [List.forall_mem_cons, List.not_mem_nil, false_implies, implies_true, and_true] at plain
  obtain ⟨plainId, plainTenant, plainAction, plainEntity, plainTime⟩ := plain
  obtain ⟨joined, printed⟩ := chainContent_eq_iff.mp same
  have user : (truthy a.userId).getD "SYSTEM" = u := by
    rw [isU, truthy_eq_some_iff.mpr ⟨rfl, someU⟩]; rfl
  have entityId : (truthy a.entityId).getD "" = e := by
    rw [isE, truthy_eq_some_iff.mpr ⟨rfl, someE⟩]; rfl
  have hash : (truthy a.previousHash).getD genesis = p := by
    rw [isP, truthy_eq_some_iff.mpr ⟨rfl, someP⟩]; rfl
  unfold AuditHashData.joined at joined
  rw [user, entityId, hash] at joined
  have fields : ∀ d : AuditHashData, ∀ u e p : List Char, d.id.toList ++ '|' ::
      (d.tenantId.toList ++ '|' :: (u ++ '|' :: (d.action.toList ++ '|' :: (d.entity.toList ++
        '|' :: (e ++ '|' :: (d.timestamp.toList ++ '|' :: p)))))) = (d.id.toList ++ '|' ::
      (d.tenantId.toList ++ '|' :: (u ++ '|' :: (d.action.toList ++ '|' :: (d.entity.toList ++
        '|' :: (e ++ '|' :: d.timestamp.toList)))))) ++ '|' :: p := by
    intro d u e p
    simp only [List.append_assoc, List.cons_append]
  rw [fields, fields] at joined
  obtain ⟨rest, front, last⟩ := front_of_hash plainP (truthy_getD_ne_empty (by decide)) joined
  simp only [List.append_assoc, List.cons_append] at front
  have userId : '|' ∉ u.toList ∨ u.toList = ['|'] := userId.imp_right fun is => by rw [is]; rfl
  have few : (a.action.toList ++ '|' :: (a.entity.toList ++ '|' :: (e.toList ++ '|' ::
      a.timestamp.toList))).count '|' ≤ (b.action.toList ++ '|' :: (b.entity.toList ++ '|' ::
        (((truthy b.entityId).getD "").toList ++ '|' :: (b.timestamp.toList ++ rest)))).count
          '|' := by
    have noAction := List.count_eq_zero.mpr plainAction
    have noEntity := List.count_eq_zero.mpr plainEntity
    have noId := List.count_eq_zero.mpr plainE
    have noTime := List.count_eq_zero.mpr plainTime
    simp only [List.count_append, List.count_cons_self]
    omega
  obtain ⟨id, tenantId, sameUser, after⟩ := three_fields plainId plainTenant userId
    (truthy_getD_ne_empty (by decide)) few front
  obtain ⟨action, entity, sameEntityId, time⟩ := four_fields plainAction plainEntity plainE
    plainTime after.symm
  obtain ⟨rfl, sameHash⟩ := last.resolve_right fun mem =>
    plainTime (time ▸ List.mem_append_right _ mem)
  rw [List.append_nil] at time
  have text := @String.toList_injective
  exact
    { id := (text id).symm
      tenantId := (text tenantId).symm
      userId := isU.trans (eq_some_of_getD (text sameUser) otherU).symm
      action := (text action).symm
      entity := (text entity).symm
      entityId := isE.trans (eq_some_of_getD (text sameEntityId) someE).symm
      timestamp := (text time).symm
      previousHash := isP.trans (eq_some_of_getD (text sameHash).symm otherP).symm
      payload := by rw [given, given, payload_eq payload printed] }

theorem exists_bar {s : String} (mem : '|' ∈ s.toList) : ∃ x y, s = x ++ "|" ++ y := by
  obtain ⟨xs, ys, split⟩ := List.append_of_mem mem
  refine ⟨String.ofList xs, String.ofList ys, String.toList_injective ?_⟩
  rw [split]
  simp

theorem bar_ne_left (x y : String) : x ++ "|" ++ y ≠ x := by
  intro same
  have lengths := congrArg String.length same
  simp only [String.length_append] at lengths
  have one : "|".length = 1 := rfl
  omega

theorem truthy_bar (x y : String) : truthy (some (x ++ "|" ++ y)) = some (x ++ "|" ++ y) := by
  refine truthy_eq_some_iff.mpr ⟨rfl, fun empty => ?_⟩
  have lengths := congrArg String.length empty
  simp at lengths

/-- Fields that can be cut in another way are those of another record. -/
theorem unambiguous_of_same
    (told : ∀ b, chainContent host a = chainContent host b → a.Same b) : a.Unambiguous := by
  have bar : "|".toList = ['|'] := rfl
  have told' : ∀ b : AuditHashData, a.joined = b.joined → a.payload = b.payload → a.Same b :=
    fun b fields payload => told b (chainContent_eq_iff.mpr ⟨fields, by rw [payload]⟩)
  have noId : '|' ∉ a.id.toList := fun mem => by
    obtain ⟨x, y, is⟩ := exists_bar mem
    refine bar_ne_left x y (is.symm.trans (told' { a with
      id := x, tenantId := y ++ "|" ++ a.tenantId } ?_ rfl).id)
    simp [AuditHashData.joined, is, bar]
  have noTenant : '|' ∉ a.tenantId.toList := fun mem => by
    obtain ⟨x, y, is⟩ := exists_bar mem
    refine bar_ne_left x y (is.symm.trans (told' { a with
      tenantId := x, userId := some (y ++ "|" ++ (truthy a.userId).getD "SYSTEM") } ?_
      rfl).tenantId)
    simp [AuditHashData.joined, is, bar, truthy_bar]
  have noAction : '|' ∉ a.action.toList := fun mem => by
    obtain ⟨x, y, is⟩ := exists_bar mem
    refine bar_ne_left x y (is.symm.trans (told' { a with
      action := x, entity := y ++ "|" ++ a.entity } ?_ rfl).action)
    simp [AuditHashData.joined, is, bar]
  have noEntity : '|' ∉ a.entity.toList := fun mem => by
    obtain ⟨x, y, is⟩ := exists_bar mem
    refine bar_ne_left x y (is.symm.trans (told' { a with
      entity := x, entityId := some (y ++ "|" ++ (truthy a.entityId).getD "") } ?_ rfl).entity)
    simp [AuditHashData.joined, is, bar, truthy_bar]
  have noTime : '|' ∉ a.timestamp.toList := fun mem => by
    obtain ⟨x, y, is⟩ := exists_bar mem
    refine bar_ne_left x y (is.symm.trans (told' { a with
      timestamp := x, previousHash := some (y ++ "|" ++ (truthy a.previousHash).getD genesis) } ?_
      rfl).timestamp)
    simp [AuditHashData.joined, is, bar, truthy_bar]
  -- an absent field and its default
  have user : ∀ o, (truthy a.userId).getD "SYSTEM" = (truthy o).getD "SYSTEM" → a.userId = o :=
    fun o printed => (told' { a with userId := o } (by simp [AuditHashData.joined, printed])
      rfl).userId
  have entityId : ∀ o, (truthy a.entityId).getD "" = (truthy o).getD "" → a.entityId = o :=
    fun o printed => (told' { a with entityId := o } (by simp [AuditHashData.joined, printed])
      rfl).entityId
  have hash : ∀ o, (truthy a.previousHash).getD genesis = (truthy o).getD genesis →
      a.previousHash = o :=
    fun o printed => (told' { a with previousHash := o } (by simp [AuditHashData.joined, printed])
      rfl).previousHash
  refine ⟨by simp [noId, noTenant, noAction, noEntity, noTime], ?_, ?_, ?_, ?_⟩
  · cases is : a.userId with
    | none =>
      rw [is] at user
      cases user (some "SYSTEM") (by decide)
    | some u =>
      rw [is] at user
      refine ⟨u, rfl, ?_, ?_, ?_⟩
      · rintro rfl
        cases user none (by decide)
      · rintro rfl
        cases user none (by decide)
      · refine or_iff_not_imp_right.mpr fun notBar mem => ?_
        obtain ⟨x, y, rfl⟩ := exists_bar mem
        by_cases empty : x = ""
        · have someY : y ≠ "" := by
            rintro rfl
            exact notBar (by rw [empty]; rfl)
          refine bar_ne_left a.tenantId "" (told' { a with
            tenantId := a.tenantId ++ "|" ++ "", userId := some y } ?_ rfl).tenantId.symm
          rw [AuditHashData.joined, AuditHashData.joined, is, truthy_bar,
            truthy_eq_some_iff.mpr ⟨rfl, someY⟩]
          simp [bar, empty]
        · have sameUser := (told' { a with
            userId := some x, action := y ++ "|" ++ a.action } (by
              rw [AuditHashData.joined, AuditHashData.joined, is, truthy_bar,
                truthy_eq_some_iff.mpr ⟨rfl, empty⟩]
              simp [bar]) rfl).userId
          rw [is] at sameUser
          exact bar_ne_left x y (Option.some.inj sameUser)
  · cases is : a.entityId with
    | none =>
      rw [is] at entityId
      cases entityId (some "") (by decide)
    | some e =>
      rw [is] at entityId
      refine ⟨e, rfl, ?_, fun mem => ?_⟩
      · rintro rfl
        cases entityId none (by decide)
      · obtain ⟨x, y, rfl⟩ := exists_bar mem
        have printed : (truthy (some x)).getD "" = x := by
          by_cases empty : x = ""
          · rw [empty]; rfl
          · rw [truthy_eq_some_iff.mpr ⟨rfl, empty⟩]; rfl
        have sameEntity := (told' { a with
          entityId := some x, timestamp := y ++ "|" ++ a.timestamp } (by
            rw [AuditHashData.joined, AuditHashData.joined, is, truthy_bar, printed]
            simp [bar]) rfl).entityId
        rw [is] at sameEntity
        exact bar_ne_left x y (Option.some.inj sameEntity)
  · cases is : a.previousHash with
    | none =>
      rw [is] at hash
      cases hash (some genesis) (by decide)
    | some p =>
      rw [is] at hash
      refine ⟨p, rfl, ?_, ?_, fun mem => ?_⟩
      · rintro rfl
        cases hash none (by decide)
      · rintro rfl
        cases hash none (by decide)
      · obtain ⟨xs, ys, split⟩ := List.append_of_mem mem
        have nonempty : p.toList ≠ [] := by
          intro empty
          simp [empty] at mem
        obtain ⟨c, whole⟩ : ∃ c, p.toList = p.toList.dropLast ++ [c] :=
          ⟨_, (List.dropLast_append_getLast nonempty).symm⟩
        rw [split] at whole
        obtain ⟨x, y, rfl, someY⟩ : ∃ x y, p = x ++ "|" ++ y ∧ y ≠ "" := by
          refine ⟨String.ofList xs, String.ofList (ys ++ [c]), String.toList_injective ?_,
            fun empty => ?_⟩
          · rw [whole]
            simp
          · simpa using congrArg String.toList empty
        refine bar_ne_left a.timestamp x (told' { a with
          timestamp := a.timestamp ++ "|" ++ x, previousHash := some y } ?_ rfl).timestamp.symm
        rw [AuditHashData.joined, AuditHashData.joined, is, truthy_bar,
          truthy_eq_some_iff.mpr ⟨rfl, someY⟩]
        simp [bar]
  · by_contra falsy
    have nothing : a.payload.filter Json.truthy = none := by
      rw [Option.filter_eq_none_iff]
      exact fun v is truthyV => falsy (by rw [is]; exact truthyV)
    have unprinted : rawPayload a.payload = "" := by rw [rawPayload, nothing]
    have payload : ∀ o, rawPayload o = "" → given a.payload = given o := fun o printed =>
      (told { a with payload := o } (chainContent_eq_iff.mpr ⟨rfl, unprinted.trans printed.symm⟩)
        ).payload
    cases is : given a.payload with
    | none => cases is.symm.trans (payload (some (.bool false)) rfl)
    | some v => cases is.symm.trans (payload none rfl)

end

/-- **What the digest of a record is of.** No other record is printed as this one exactly if it can
be cut in one way only, and none of its fields is what is printed of an absent one. -/
theorem content_unique_iff (host : Host) (a : AuditHashData) :
    (∀ b, chainContent host a = chainContent host b → a.Same b) ↔ a.Unambiguous :=
  ⟨unambiguous_of_same, fun unambiguous _ => same_of_unambiguous unambiguous⟩

namespace Search

/-- A request for an address. -/
def request (action entity : String) : AuditHashData where
  id := "log-1"
  tenantId := "school"
  userId := some "user-1"
  action
  entity
  entityId := none
  timestamp := "2026-03-21T08:00:00.000Z"
  previousHash := none
  payload := none

end Search

/-- Where the address ends and the entity begins is not told. -/
theorem not_unambiguous : ¬ ∀ (host : Host) (a b : AuditHashData),
    chainContent host a = chainContent host b → a.Same b := by
  intro told
  have printed : chainContent .ideal (Search.request "GET /a" "b|users") =
      chainContent .ideal (Search.request "GET /a|b" "users") := by
    rw [chainContent_eq_iff]
    decide +kernel
  have same := told _ _ _ printed
  exact absurd same.entity (by decide)

end Rokad.Audit
