import Rokad.Base.Sql
import Rokad.Common.Http

/-!
# Visits of parents

Parents book a slot of a teacher's time. `bookVisit` reads the parent, the slot with the number of
its confirmed bookings, and the parent's own booking, and then inserts; a booking that is cancelled
stays in the table.
-/

namespace Rokad.ParentVisits

open Rokad.Base Rokad.Common

/-! ### Tables -/

inductive BookingStatus where
  | confirmed | completed | cancelled | noShow
deriving DecidableEq

structure ParentProfile where
  (id tenantId userId : Id)

structure StudentProfile where
  id : Id

structure ParentVisitSlot where
  (id tenantId : Id)
  capacityPerSlot : ℕ := 1
  isCancelled : Bool := false

structure ParentVisitBooking where
  (id tenantId slotId parentId studentId : Id)
  subject : String
  status : BookingStatus := .confirmed

instance : Record ParentProfile where
  key p := p.id
  clash a b := a.userId == b.userId

instance : Record StudentProfile := { key := (·.id) }

instance : Record ParentVisitSlot := { key := (·.id) }

instance : Record ParentVisitBooking where
  key b := b.id
  clash a b := a.slotId == b.slotId && a.parentId == b.parentId

structure Db where
  parents : Table ParentProfile := .empty
  students : Table StudentProfile := .empty
  slots : Table ParentVisitSlot := .empty
  bookings : Table ParentVisitBooking := .empty

/-! ### Statements -/

def ParentVisitBooking.cancel (b : ParentVisitBooking) : ParentVisitBooking :=
  { b with status := .cancelled }

def ParentVisitSlot.cancel (s : ParentVisitSlot) : ParentVisitSlot := { s with isCancelled := true }

theorem ParentVisitBooking.key_cancel (b : ParentVisitBooking) :
    Record.key b.cancel = Record.key b := rfl

theorem ParentVisitSlot.key_cancel (s : ParentVisitSlot) : Record.key s.cancel = Record.key s := rfl

structure BookVisitDto where
  (slotId studentId : Id)
  subject : String

inductive Statement where
  | book (tenantId parentId : Id) (dto : BookVisitDto)
  | cancelBooking (id : Id)
  | cancelSlot (id : Id)

def booking (tenantId parentId : Id) (dto : BookVisitDto) (id : Id) : ParentVisitBooking where
  id
  tenantId
  slotId := dto.slotId
  parentId
  studentId := dto.studentId
  subject := dto.subject

def write : Statement → Db → Result (Db × Id)
  | .book tenantId parentId dto, db => do
      referred db.slots (some dto.slotId)
      referred db.parents (some parentId)
      referred db.students (some dto.studentId)
      let id := db.bookings.fresh
      let bookings ← insertRow db.bookings (booking tenantId parentId dto id)
      return ({ db with bookings }, id)
  | .cancelBooking id, db => do
      let bookings ← updateRow db.bookings id ParentVisitBooking.cancel
        ParentVisitBooking.key_cancel
      return ({ db with bookings }, id)
  | .cancelSlot id, db => do
      let slots ← updateRow db.slots id ParentVisitSlot.cancel ParentVisitSlot.key_cancel
      return ({ db with slots }, id)

/-! ### Calls -/

abbrev VisitCall := Sql Db Statement Id Failure

def confirmedAt (slotId : Id) (b : ParentVisitBooking) : Bool :=
  b.slotId = slotId && b.status = .confirmed

/-- `_count.bookings` of a slot -/
def Db.confirmed (db : Db) (slotId : Id) : ℕ := db.bookings.count (confirmedAt slotId)

def bookVisit (tenantId parentUserId : Id) (dto : BookVisitDto) : VisitCall Id := do
  let db ← Sql.snapshot
  let parent ← Prog.ret (orFail
    (db.parents.rows.find? fun p => p.userId = parentUserId ∧ p.tenantId = tenantId)
    (.notFound "پروفایل والد برای کاربر لاگین‌شده یافت نشد"))
  let db ← Sql.snapshot
  let slot ← Prog.ret (orFail
    ((db.slots.find? dto.slotId).filter fun s => s.tenantId = tenantId ∧ s.isCancelled = false)
    (.notFound "اسلات زمانی ملاقات یافت نشد یا لغو شده است"))
  Prog.ret (require (db.confirmed slot.id < slot.capacityPerSlot)
    (.badRequest "ظرفیت این تایم ملاقات تکمیل شده است"))
  let db ← Sql.snapshot
  Prog.ret (require
    (∀ b ∈ db.bookings.rows, ¬ (confirmedAt dto.slotId b = true ∧ b.parentId = parent.id))
    (.conflict "شما قبلاً این نوبت ملاقات را رزرو کرده‌اید"))
  Sql.perform (.book tenantId parent.id dto)

def cancelBooking (tenantId bookingId : Id) : VisitCall Id := do
  let db ← Sql.snapshot
  let _ ← Prog.ret (orFail ((db.bookings.find? bookingId).filter (·.tenantId = tenantId))
    (.notFound "رزرو ملاقات یافت نشد"))
  Sql.perform (.cancelBooking bookingId)

def deleteSlot (tenantId slotId : Id) : VisitCall Id := do
  let db ← Sql.snapshot
  let _ ← Prog.ret (orFail ((db.slots.find? slotId).filter (·.tenantId = tenantId))
    (.notFound "اسلات ملاقات یافت نشد"))
  Sql.perform (.cancelSlot slotId)

inductive Call where
  | bookVisit (tenantId parentUserId : Id) (dto : BookVisitDto)
  | cancelBooking (tenantId bookingId : Id)
  | deleteSlot (tenantId slotId : Id)

def Call.program : Call → VisitCall Id
  | .bookVisit tenantId parentUserId dto => ParentVisits.bookVisit tenantId parentUserId dto
  | .cancelBooking tenantId bookingId => ParentVisits.cancelBooking tenantId bookingId
  | .deleteSlot tenantId slotId => ParentVisits.deleteSlot tenantId slotId

def start {ι : Type} (db : Db) (calls : ι → Call) : Threads Db (VisitCall Id) ι :=
  ⟨db, fun i => (calls i).program⟩

/-- A call from its begin to its end, with no other in between. -/
def alone (db : Db) (call : Call) : Db := (call.program.run (Sql.exec write) db).1

/-!
## Slots that are booked

A slot should have no more confirmed bookings than its capacity, and no new one once it is
cancelled; and a place that is given back should be free again. `bookVisit` looks before it writes,
so calls in progress can pass the same count; and the row of a cancelled booking keeps its parent
from the slot (`not_visits_kept`).

In any interleaving the first two hold exactly if every booking that is stored finds the slot open
and with room when it is, and alone a call succeeds as it should exactly where the parent has never
booked the slot and the student exists (`visits_kept_iff`).
-/

/-! ### The law -/

def Within (db : Db) : Prop :=
  ∀ slot ∈ db.slots.rows, db.confirmed slot.id ≤ slot.capacityPerSlot
deriving Decidable

/-- The slots that are cancelled have no more bookings than before. -/
def Closed (db db' : Db) : Prop :=
  ∀ slot ∈ db.slots.rows, slot.isCancelled = true →
    db'.bookings.count (·.slotId = slot.id) = db.bookings.count (·.slotId = slot.id)
deriving Decidable

/-- The slot is open, has room, and is not booked by the parent. -/
def Available (db : Db) (tenantId parentId slotId : Id) : Prop :=
  ∃ slot ∈ db.slots.find? slotId, slot.tenantId = tenantId ∧ slot.isCancelled = false ∧
    db.confirmed slotId < slot.capacityPerSlot ∧
    ∀ b ∈ db.bookings.rows, ¬ (confirmedAt slotId b = true ∧ b.parentId = parentId)
deriving Decidable

def Db.parentOf (db : Db) (tenantId parentUserId : Id) : Option ParentProfile :=
  db.parents.rows.find? fun p => p.userId = parentUserId ∧ p.tenantId = tenantId

def Succeeds (db : Db) (call : Call) : Prop :=
  ∃ id, (call.program.run (Sql.exec write) db).2 = .ok id

/-- A parent's booking succeeds exactly when the slot is available. -/
def Answers (db : Db) : Call → Prop
  | .bookVisit tenantId parentUserId dto =>
    ∀ parent ∈ db.parentOf tenantId parentUserId,
      (Succeeds db (.bookVisit tenantId parentUserId dto) ↔
        Available db tenantId parent.id dto.slotId)
  | _ => True

section

variable {ι : Type} [DecidableEq ι]

/-- What calls in progress keep, at every step, and what calls one after the other answer. -/
def Kept (db : Db) (calls : ι → Call) (moves : List (Move ι Unit Empty)) (history : List Call) :
    Prop :=
  Along (Sql.moveStep write) (fun p move =>
      Within (Sql.moveStep write p move).shared ∧
        Closed p.shared (Sql.moveStep write p move).shared) (start db calls) moves ∧
    Along alone Answers db history

/-! ### Where it is kept -/

/-- A booking finds its slot open and with room. -/
def FindsRoom : Statement → Db → Prop
  | .book _ _ dto, db => ∀ slot ∈ db.slots.find? dto.slotId,
      slot.isCancelled = false ∧ db.confirmed dto.slotId < slot.capacityPerSlot
  | _, _ => True

def FindsRoomAt (p : Threads Db (VisitCall Id) ι) (move : Move ι Unit Empty) : Prop :=
  ∀ s ∈ Sql.committed write p move, FindsRoom s p.shared

/-- The slot, if it is available, has no row of the parent, and the student exists. -/
def Fresh (db : Db) : Call → Prop
  | .bookVisit tenantId parentUserId dto =>
    ∀ parent ∈ db.parentOf tenantId parentUserId, Available db tenantId parent.id dto.slotId →
        (∀ b ∈ db.bookings.rows, ¬ (b.slotId = dto.slotId ∧ b.parentId = parent.id)) ∧
          db.students.has (some dto.studentId) = true
  | _ => True

end

/-! ### A call alone -/

section

variable {db : Db} {tenantId parentUserId : Id} {dto : BookVisitDto} {parent : ParentProfile}

/-- The database takes the booking. -/
theorem write_book_isOk (mem : parent ∈ db.parents.rows)
    (slot : db.slots.has (some dto.slotId) = true) :
    (∃ made, write (.book tenantId parent.id dto) db = .ok made) ↔
      (∀ b ∈ db.bookings.rows, ¬ (b.slotId = dto.slotId ∧ b.parentId = parent.id)) ∧
        db.students.has (some dto.studentId) = true := by
  have parentIn : db.parents.has (some parent.id) = true :=
    has_some_iff.mpr ⟨parent, db.parents.find?_key mem⟩
  constructor
  · rintro ⟨made, done⟩
    simp only [write, do_eq_ok, insertRow_eq_ok, referred_eq_ok] at done
    obtain ⟨_, -, _, -, _, student, bookings, inserted, -⟩ := done
    refine ⟨fun b among own => ?_, student⟩
    have apart := (insert_spec.mp inserted).2.2 b among
    have same : Record.clash b (booking tenantId parent.id dto db.bookings.fresh) = true := by
      change (b.slotId == dto.slotId && b.parentId == parent.id) = true
      simpa using own
    rw [same] at apart
    cases apart
  · rintro ⟨unbooked, student⟩
    obtain ⟨bookings, inserted⟩ := db.bookings.insert_of_fresh
      (booking tenantId parent.id dto db.bookings.fresh) rfl fun b among => by
        change (b.slotId == dto.slotId && b.parentId == parent.id) = false
        simpa using unbooked b among
    refine ⟨({ db with bookings }, db.bookings.fresh), ?_⟩
    simp only [write, do_eq_ok, insertRow_eq_ok, referred_eq_ok]
    exact ⟨(), slot, (), parentIn, (), student, bookings, inserted, rfl⟩

/-- What the slot is read as. -/
theorem available_iff : Available db tenantId parent.id dto.slotId ↔
    ∃ slot, (db.slots.find? dto.slotId).filter
        (fun s => s.tenantId = tenantId ∧ s.isCancelled = false) = some slot ∧
      db.confirmed slot.id < slot.capacityPerSlot ∧
      ∀ b ∈ db.bookings.rows, ¬ (confirmedAt dto.slotId b = true ∧ b.parentId = parent.id) := by
  unfold Available
  constructor
  · rintro ⟨slot, found, tenant, isOpen, room, unbooked⟩
    have own : slot.id = dto.slotId := key_of_find? found
    exact ⟨slot, Option.filter_eq_some_iff.mpr ⟨found, by simp [tenant, isOpen]⟩, own ▸ room,
      unbooked⟩
  · rintro ⟨slot, found, room, unbooked⟩
    obtain ⟨found, meets⟩ := Option.filter_eq_some_iff.mp found
    simp only [decide_eq_true_eq] at meets
    have own : slot.id = dto.slotId := key_of_find? found
    exact ⟨slot, found, meets.1, meets.2, own ▸ room, unbooked⟩

theorem succeeds_iff (found : db.parentOf tenantId parentUserId = some parent) :
    Succeeds db (.bookVisit tenantId parentUserId dto) ↔
      Available db tenantId parent.id dto.slotId ∧
        (∀ b ∈ db.bookings.rows, ¬ (b.slotId = dto.slotId ∧ b.parentId = parent.id)) ∧
          db.students.has (some dto.studentId) = true := by
  have mem : parent ∈ db.parents.rows := List.mem_of_find?_eq_some found
  unfold Db.parentOf at found
  rw [available_iff]
  unfold Succeeds Call.program bookVisit
  simp only [Sql.run_snapshot, Sql.run_ret_bind, found, orFail]
  cases read : (db.slots.find? dto.slotId).filter
      (fun s => s.tenantId = tenantId ∧ s.isCancelled = false) with
  | none => simp
  | some slot =>
    have exists_slot : db.slots.has (some dto.slotId) = true :=
      has_some_iff.mpr ⟨slot, (Option.filter_eq_some_iff.mp read).1⟩
    simp only [Option.some.injEq, exists_eq_left', require]
    by_cases room : db.confirmed slot.id < slot.capacityPerSlot
    · by_cases unbooked : ∀ b ∈ db.bookings.rows,
          ¬ (confirmedAt dto.slotId b = true ∧ b.parentId = parent.id)
      · rw [← write_book_isOk mem exists_slot]
        simp only [if_pos room, if_pos unbooked, Sql.run_perform]
        cases write (.book tenantId parent.id dto) db with
        | ok made => exact iff_of_true ⟨made.2, rfl⟩ ⟨⟨room, unbooked⟩, made, rfl⟩
        | error e => simp
      · simp only [if_pos room, if_neg unbooked]
        exact iff_of_false (by simp) fun both => unbooked both.1.2
    · simp [room]

theorem answers_iff (db : Db) (call : Call) : Answers db call ↔ Fresh db call := by
  cases call with
  | bookVisit tenantId parentUserId dto =>
    unfold Answers Fresh
    refine forall₂_congr fun parent found => ?_
    rw [succeeds_iff found]
    exact ⟨fun same => fun available => (same.mpr available).2,
      fun fresh => ⟨And.left, fun available => ⟨available, fresh available⟩⟩⟩
  | cancelBooking tenantId bookingId => exact Iff.rfl
  | deleteSlot tenantId slotId => exact Iff.rfl

end

/-! ### Writes -/

section

variable {db db' : Db} {made : Id}

theorem Closed.refl (db : Db) : Closed db db := fun _ _ _ => rfl

/-- A booking that is stored. -/
theorem book_exact {tenantId parentId : Id} {dto : BookVisitDto} (within : Within db)
    (done : write (.book tenantId parentId dto) db = .ok (db', made)) :
    Within db' ∧ Closed db db' ↔ FindsRoom (.book tenantId parentId dto) db := by
  simp only [write, do_eq_ok, insertRow_eq_ok, referred_eq_ok] at done
  obtain ⟨_, present, _, -, _, -, bookings, inserted, ⟨⟩⟩ := done
  obtain ⟨slot, found⟩ := has_some_iff.mp present
  have own : slot.id = dto.slotId := key_of_find? found
  have confirmed (k : Id) : ({ db with bookings } : Db).confirmed k =
      db.confirmed k + if dto.slotId = k then 1 else 0 := by
    unfold Db.confirmed
    rw [Table.count_insert inserted]
    by_cases same : dto.slotId = k <;> simp [confirmedAt, booking, same]
  have all (k : Id) : bookings.count (·.slotId = k) =
      db.bookings.count (·.slotId = k) + if dto.slotId = k then 1 else 0 := by
    rw [Table.count_insert inserted]
    by_cases same : dto.slotId = k <;> simp [booking, same]
  constructor
  · rintro ⟨after, closed⟩ slot' found'
    cases found.symm.trans found'
    have mem := mem_of_find? found
    constructor
    · by_contra cancelled
      have same := closed slot mem (eq_true_of_ne_false cancelled)
      rw [all, own, if_pos rfl] at same
      omega
    · have atMost := after slot mem
      rw [confirmed, own, if_pos rfl] at atMost
      omega
  · intro room
    obtain ⟨isOpen, below⟩ := room slot found
    constructor
    · intro slot' mem
      rw [confirmed]
      split
      · rename_i same
        cases db.slots.eq_of_key_eq mem (mem_of_find? found) (same.symm.trans own.symm)
        rw [own]
        omega
      · exact within slot' mem
    · intro slot' mem cancelled
      rw [all]
      split
      · rename_i same
        cases db.slots.eq_of_key_eq mem (mem_of_find? found) (same.symm.trans own.symm)
        rw [isOpen] at cancelled
        cases cancelled
      · rfl

theorem findsRoom_exact (s : Statement) (within : Within db)
    (done : write s db = .ok (db', made)) : Within db' ∧ Closed db db' ↔ FindsRoom s db := by
  cases s with
  | book tenantId parentId dto => exact book_exact within done
  | cancelBooking id =>
    simp only [write, do_eq_ok, updateRow_eq_ok] at done
    obtain ⟨bookings, updated, ⟨⟩⟩ := done
    have fewer (k : Id) : bookings.count (confirmedAt k) ≤ db.bookings.count (confirmedAt k) :=
      Table.count_update_le updated fun b _ meets => by
        simp [confirmedAt, ParentVisitBooking.cancel] at meets
    obtain ⟨b, found⟩ := Table.find?_of_update updated
    refine iff_of_true ⟨fun slot mem => (fewer slot.id).trans (within slot mem),
      fun slot _ _ => ?_⟩ trivial
    exact Nat.add_right_cancel (Table.count_update updated found (·.slotId = slot.id))
  | cancelSlot id =>
    simp only [write, do_eq_ok, updateRow_eq_ok] at done
    obtain ⟨slots, updated, ⟨⟩⟩ := done
    refine iff_of_true ⟨fun slot mem => ?_, fun _ _ _ => rfl⟩ trivial
    rcases (mem_update updated).mp mem with ⟨mem, -⟩ | ⟨slot', found, rfl⟩
    · exact within slot mem
    · exact within slot' (mem_of_find? found)

end

/-! ### Runs -/

section

variable {ι : Type} [DecidableEq ι] {calls : ι → Call} {db : Db} {moves : List (Move ι Unit Empty)}
  {history : List Call}

theorem visits_kept_iff (within : Within db) : Kept db calls moves history ↔
    Along (Sql.moveStep write) FindsRoomAt (start db calls) moves ∧
      Along alone Fresh db history := by
  refine and_congr (along_iff (I := fun p => Within p.shared) (D := fun _ _ => True) ?_
    (fun _ _ _ kept _ => kept.1) within (along_of_forall fun _ _ => trivial)) ?_
  · rintro p (⟨i, ⟨⟩⟩ | e) - within
    · rcases Sql.moveStep_cases write p i with ⟨s, next, db', made, -, done, commits, moved⟩ |
        ⟨quiet, same⟩
      · simpa [moved, FindsRoomAt, commits] using findsRoom_exact s within done
      · simpa [same, FindsRoomAt, quiet] using ⟨within, Closed.refl _⟩
    · exact e.elim
  · exact along_iff (I := fun _ => True) (D := fun _ _ => True)
      (fun db call _ _ => answers_iff db call) (fun _ _ _ _ _ => trivial) trivial
      (along_of_forall fun _ _ => trivial)

end

instance (s : Statement) (db : Db) : Decidable (FindsRoom s db) := by
  cases s <;> unfold FindsRoom <;> infer_instance

instance {ι : Type} (p : Threads Db (VisitCall Id) ι) (move : Move ι Unit Empty) :
    Decidable (FindsRoomAt p move) :=
  inferInstanceAs (Decidable (∀ s ∈ Sql.committed write p move, FindsRoom s p.shared))

instance (db : Db) (call : Call) : Decidable (Fresh db call) := by
  cases call <;> unfold Fresh <;> infer_instance

/-! ### An afternoon of a teacher -/

namespace Afternoon

/-- Two parents, a student, and one slot for one visit. -/
def db : Db where
  parents := ⟨[⟨1, 1, 11⟩, ⟨2, 1, 12⟩], by decide, by decide⟩
  students := ⟨[⟨1⟩], by decide, by decide⟩
  slots := ⟨[{ id := 1, tenantId := 1 }], by decide, by decide⟩

def book (parentUserId : Id) : Call := .bookVisit 1 parentUserId ⟨1, 1, "درس"⟩

end Afternoon

open Afternoon

/-- A parent books, gives the place back, and another books it. -/
theorem kept_afternoon : Kept Afternoon.db ![book 11, .cancelBooking 1 1, book 12]
    (moves [0, 0, 0, 0, 1, 1, 2, 2, 2, 2]) [book 11, .cancelBooking 1 1, book 12] :=
  (visits_kept_iff (by decide)).mpr (by decide +kernel)

/-- Two bookings in step take one place, or one is stored after the slot is cancelled; and the
parent who gave the place back can not have it again. -/
theorem not_visits_kept :
    (¬ Kept Afternoon.db ![book 11, book 12] (moves [0, 1, 0, 1, 0, 1, 0, 1]) []) ∧
      (¬ Kept Afternoon.db ![book 11, .deleteSlot 1 1] (moves [0, 0, 0, 1, 1, 0]) []) ∧
      ¬ Kept Afternoon.db (fun i : Fin 0 => i.elim0) []
        [book 11, .cancelBooking 1 1, book 11] := by
  refine ⟨fun kept => ?_, fun kept => ?_, fun kept => ?_⟩
  · exact absurd kept.1 (by decide +kernel)
  · exact absurd kept.1 (by decide +kernel)
  · obtain ⟨id, succeeds⟩ := (kept.2.2.2.1 ⟨1, 1, 11⟩ rfl).mpr (by decide +kernel)
    have failed : ((book 11).program.run (Sql.exec write)
        (run alone Afternoon.db [book 11, .cancelBooking 1 1])).2 =
          .error (.database .uniqueConstraint) := by decide +kernel
    cases failed.symm.trans succeeds

end Rokad.ParentVisits
