import Rokad.Coaching.Coached

/-!
# Sessions on the agreed slot

The four sessions of an assignment start on the first day from today on that is the agreed weekday.
A zero in the agreed time is taken for a missing number, and a slot of today may be over. So the
sessions fall on the slot exactly if neither number of its time is zero and a slot of today is still
to come (`on_slot_iff`).
-/

namespace Rokad.Coaching

open Rokad.Base Rokad.Common

/-! ### Times and days -/

/-- `Number(part)`, of one or two digits. -/
def readPart (part : List Char) : Option ℤ :=
  if (part.length = 1 ∨ part.length = 2) ∧ part.all Char.isDigit then some (digitsValue part)
  else none

/-- `slotStartTime.split(':').map(Number)` with `sh || 10` and `sm || 20`, where the parts are short
numbers; other texts are read by `other`. -/
def readSlot (other : String → Option (ℤ × ℤ)) (slotStartTime : String) : Option (ℤ × ℤ) :=
  match (slotStartTime.toList.splitOn ':').map readPart with
  | some sh :: some sm :: _ => some (if sh = 0 then 10 else sh, if sm = 0 then 20 else sm)
  | _ => other slotStartTime

/-- A host in a zone of a fixed offset. -/
def clock (offset : ℤ) (date : String → Option Instant) (other : String → Option (ℤ × ℤ)) : Host :=
  ⟨offset, date, readSlot other⟩

/-- The walk ends within a week, on the day the slots start with. -/
theorem walk_eq {target day : ℤ} (weekday : 0 ≤ target ∧ target < 7) {steps : ℕ}
    (week : (target - getDay day) % 7 < steps) :
    walk target steps day = day + (target - getDay day) % 7 := by
  induction steps generalizing day with
  | zero => omega
  | succ steps ih =>
    rw [walk]
    unfold getDay at *
    split
    · omega
    · rw [ih (by omega)]
      omega

theorem firstSlot_eq (x : Host) (now : Instant) (d : ℤ) (time : ℤ × ℤ) :
    x.firstSlot now d time =
      (x.localDay now + ((d + 6) % 7 - getDay (x.localDay now)) % 7) * millisOfDay - x.offset +
        time.1 * 3600000 + time.2 * 60000 := by
  unfold Host.firstSlot
  dsimp only
  rw [walk_eq (by omega) (by omega)]

/-- `HH:MM` -/
def timeText (h m : ℤ) : String := pad2 h ++ ":" ++ pad2 m

/-- The weekday, Saturday is 0, and the time of a local moment. -/
def FallsOn (x : Host) (slotDayOfWeek h m t : ℤ) : Prop :=
  (getDay (x.localDay t) + 1) % 7 = slotDayOfWeek ∧
    (t + x.offset) % millisOfDay = h * 3600000 + m * 60000
deriving Decidable

/-- Four moments, two weeks apart. -/
def fortnights (t : ℤ) : List Instant := (List.range 4).map fun i : ℕ => t + i * 14 * millisOfDay

/-- Of what is written, all are regular sessions on the slot, four of them, two weeks apart, the
first in the future and at most a week away. -/
def OnSlot (x : Host) (tenantId : Id) (dto : AssignCoachDto) (slotDayOfWeek h m : ℤ) (now : Instant)
    (before after : Db) : Prop :=
  ∃ t added, after.sessions.rows = before.sessions.rows ++ added ∧
    added.map (·.scheduledDate) = fortnights t ∧
    (∀ s ∈ added, ∃ date id, s = regularSession tenantId dto date id) ∧
    (∀ s ∈ added, FallsOn x slotDayOfWeek h m s.scheduledDate) ∧
    now < t ∧ t ≤ now + 7 * millisOfDay

/-- The student can be linked: both exist, and there is no active link beside an inactive one. -/
def MayLink (tenantId : Id) (dto : AssignCoachDto) (db : Db) : Prop :=
  (db.link tenantId dto.studentId .active ≠ none →
    db.link tenantId dto.studentId .inactive = none) ∧
  db.users.has (some dto.studentId) = true ∧ db.users.has (some dto.coachId) = true
deriving Decidable

/-- A slot of today is still to come. -/
def ToCome (x : Host) (slotDayOfWeek h m now : ℤ) : Prop :=
  (getDay (x.localDay now) + 1) % 7 = slotDayOfWeek →
    (now + x.offset) % millisOfDay < h * 3600000 + m * 60000
deriving Decidable

/-! ### What is read -/

section

variable {h m : ℤ}

theorem pad2_spec {n : ℤ} (range : 0 ≤ n ∧ n < 60) :
    readPart (pad2 n).toList = some n ∧ ':' ∉ (pad2 n).toList := by
  obtain ⟨low, high⟩ := range
  interval_cases n <;> decide

theorem readSlot_timeText (other : String → Option (ℤ × ℤ)) (hour : 0 ≤ h ∧ h < 24)
    (minute : 0 ≤ m ∧ m < 60) : readSlot other (timeText h m) =
      some (if h = 0 then 10 else h, if m = 0 then 20 else m) := by
  obtain ⟨readH, plainH⟩ := pad2_spec (n := h) (by omega)
  obtain ⟨readM, plainM⟩ := pad2_spec minute
  have parts : (timeText h m).toList.splitOn ':' = [(pad2 h).toList, (pad2 m).toList] := by
    have text : (timeText h m).toList = (pad2 h).toList ++ ':' :: (pad2 m).toList := by
      simp [timeText]
    have single : ∀ {cs : List Char}, ':' ∉ cs → ∀ c ∈ cs, (c == ':') = false :=
      fun plain c mem => beq_eq_false_iff_ne.mpr fun is => plain (is ▸ mem)
    rw [text, List.splitOn, List.splitOnP_append_cons_of_forall_mem (single plainH) _ (by decide),
      List.splitOnP_eq_singleton (single plainM)]
  rw [readSlot, parts, List.map_cons, List.map_singleton, readH, readM]

end

/-! ### What is written -/

section

variable {x : Host} {tenantId : Id} {dto : AssignCoachDto} (now : Instant) {db : Db}

/-- Where the student has no session at the dates, each gets one. -/
theorem generate_dates {dates : List Instant} (differ : dates.Nodup) {db : Db}
    (free : ∀ s ∈ db.sessions.rows, s.studentId = dto.studentId → s.scheduledDate ∉ dates) :
    ∃ added, (generateUpcomingBiweeklySessions tenantId dto dates db).sessions.rows =
        db.sessions.rows ++ added ∧ added.map (·.scheduledDate) = dates ∧
      ∀ s ∈ added, ∃ date id, s = regularSession tenantId dto date id := by
  induction dates generalizing db with
  | nil => exact ⟨[], (List.append_nil _).symm, rfl, List.forall_mem_nil _⟩
  | cons date dates ih =>
    obtain ⟨other, differ⟩ := List.nodup_cons.mp differ
    have none : (db.sessions.rows.any fun s => s.tenantId = tenantId ∧
        s.studentId = dto.studentId ∧ s.coachId = dto.coachId ∧
          s.scheduledDate = date) = false := by
      rw [List.any_eq_false]
      intro s mem is
      obtain ⟨-, student, -, on⟩ := of_decide_eq_true is
      exact free s mem student (on ▸ List.mem_cons_self)
    obtain ⟨t, inserted⟩ := db.sessions.insert_of_fresh
      (regularSession tenantId dto date db.sessions.fresh) rfl fun _ _ => rfl
    have rows := (insert_spec.mp inserted).1
    have added : db.addRegular tenantId dto date = { db with sessions := t } := by
      unfold Db.addRegular
      rw [none, insertRow, inserted]
      rfl
    have free' : ∀ s ∈ ({ db with sessions := t } : Db).sessions.rows,
        s.studentId = dto.studentId → s.scheduledDate ∉ dates := by
      intro s mem student
      rw [rows] at mem
      rcases List.mem_append.mp mem with mem | mem
      · exact fun later => free s mem student (List.mem_cons_of_mem _ later)
      · rw [List.mem_singleton.mp mem]
        exact other
    obtain ⟨more, written, dated, are⟩ := ih differ free'
    refine ⟨regularSession tenantId dto date db.sessions.fresh :: more, ?_, ?_, ?_⟩
    · rw [generateUpcomingBiweeklySessions, List.foldl_cons, added]
      rw [generateUpcomingBiweeklySessions] at written
      rw [written, rows, List.append_assoc, List.singleton_append]
    · rw [List.map_cons, dated]
      rfl
    · rintro s (_ | ⟨_, mem⟩)
      · exact ⟨date, _, rfl⟩
      · exact are s mem

/-- A student who cannot be linked gets no session. -/
theorem assignCoach_unlinked (no : ¬MayLink tenantId dto db) :
    (assignCoach x tenantId dto now db).1.sessions = db.sessions := by
  unfold assignCoach
  cases first : db.deactivate tenantId dto.studentId with
  | error e => rfl
  | ok mid =>
    obtain ⟨gone, blocked, -⟩ := deactivate_ok first
    dsimp only
    cases second : mid.createLink tenantId dto now with
    | error e => exact gone.sessions
    | ok linked =>
      obtain ⟨known, -⟩ := createLink_ok second
      rw [gone.users] at known
      exact absurd ⟨blocked, known⟩ no

/-- A student who can be linked and has no session gets one at each of the dates. -/
theorem assignCoach_linked (may : MayLink tenantId dto db)
    (none : ∀ s ∈ db.sessions.rows, s.studentId ≠ dto.studentId) {dates : List Instant}
    (differ : dates.Nodup) (slots : x.slots now dto = some dates) :
    ∃ added, (assignCoach x tenantId dto now db).1.sessions.rows = db.sessions.rows ++ added ∧
      added.map (·.scheduledDate) = dates ∧
      ∀ s ∈ added, ∃ date id, s = regularSession tenantId dto date id := by
  unfold assignCoach
  cases first : db.deactivate tenantId dto.studentId with
  | error e =>
    obtain ⟨active, inactive⟩ := deactivate_error first
    exact absurd (may.1 active) inactive
  | ok mid =>
    obtain ⟨gone, -, -⟩ := deactivate_ok first
    dsimp only
    cases second : mid.createLink tenantId dto now with
    | error e =>
      have missing := createLink_error second fun l is => ((gone.active l).mp is).2
      rw [gone.users] at missing
      exact absurd may.2 missing
    | ok linked =>
      obtain ⟨-, same, -⟩ := createLink_ok second
      have sessions : linked.sessions = db.sessions := same.trans gone.sessions
      simp only [slots]
      rw [← sessions]
      exact generate_dates differ fun s mem own => absurd own (none s (sessions ▸ mem))

end

/-! ### The first slot and the others -/

section

variable {x : Host} {d h m now t : ℤ}

/-- The day and the time of a moment that is given by them. -/
theorem localDay_at (D : ℤ) (hour : 0 ≤ h ∧ h < 24) (minute : 0 ≤ m ∧ m < 60) :
    x.localDay (D * millisOfDay - x.offset + h * 3600000 + m * 60000) = D ∧
      (D * millisOfDay - x.offset + h * 3600000 + m * 60000 + x.offset) % millisOfDay =
        h * 3600000 + m * 60000 := by
  have sum : D * millisOfDay - x.offset + h * 3600000 + m * 60000 + x.offset =
      h * 3600000 + m * 60000 + D * millisOfDay := by
    ring
  rw [Host.localDay, sum, Int.add_mul_ediv_right _ _ (by decide), Int.add_mul_emod_self_right]
  unfold millisOfDay
  omega

/-- The first day from today on with the weekday of the slot has it. -/
theorem walk_weekday (day : 0 ≤ d ∧ d < 7) (today : ℤ) :
    (getDay (today + ((d + 6) % 7 - getDay today) % 7) + 1) % 7 = d := by
  unfold getDay
  omega

/-- Two weeks on, it is the same weekday and the same time. -/
theorem fallsOn_later (i : ℤ) : FallsOn x d h m (t + i * 14 * millisOfDay) ↔ FallsOn x d h m t := by
  have sum : t + i * 14 * millisOfDay + x.offset = t + x.offset + i * 14 * millisOfDay := by
    ring
  rw [FallsOn, FallsOn, Host.localDay, Host.localDay, sum,
    Int.add_mul_ediv_right _ _ (by decide), Int.add_mul_emod_self_right]
  unfold getDay
  refine and_congr_left fun _ => ?_
  rw [show (t + x.offset) / millisOfDay + i * 14 + 4 =
    (t + x.offset) / millisOfDay + 4 + i * 2 * 7 by ring, Int.add_mul_emod_self_right]

variable (x now) in
/-- What is read for the numbers of a time is that time, unless one of them is zero. -/
theorem fallsOn_first_iff (day : 0 ≤ d ∧ d < 7) (hour : 0 ≤ h ∧ h < 24) (minute : 0 ≤ m ∧ m < 60) :
    FallsOn x d h m
        (x.firstSlot now d (if h = 0 then 10 else h, if m = 0 then 20 else m)) ↔
      h ≠ 0 ∧ m ≠ 0 := by
  have hour' : 0 ≤ (if h = 0 then 10 else h) ∧ (if h = 0 then 10 else h) < 24 := by
    split <;> omega
  have minute' : 0 ≤ (if m = 0 then 20 else m) ∧ (if m = 0 then 20 else m) < 60 := by
    split <;> omega
  obtain ⟨on, at_⟩ := localDay_at (x := x)
    (x.localDay now + ((d + 6) % 7 - getDay (x.localDay now)) % 7) hour' minute'
  rw [FallsOn, firstSlot_eq]
  dsimp only
  rw [on, at_, walk_weekday day]
  simp only [true_and]
  clear on at_ hour' minute'
  split <;> split <;> omega

variable (x now) in
/-- The first slot is at most a week away, and to come unless it is one of today that is over. -/
theorem first_spec (day : 0 ≤ d ∧ d < 7) (hour : 0 ≤ h ∧ h < 24) (minute : 0 ≤ m ∧ m < 60) :
    (now < x.firstSlot now d (h, m) ↔ ToCome x d h m now) ∧
      x.firstSlot now d (h, m) ≤ now + 7 * millisOfDay := by
  have today := Int.mul_ediv_add_emod (now + x.offset) millisOfDay
  have time : 0 ≤ (now + x.offset) % millisOfDay ∧ (now + x.offset) % millisOfDay < millisOfDay :=
    ⟨Int.emod_nonneg _ (by decide), Int.emod_lt_of_pos _ (by decide)⟩
  rw [firstSlot_eq]
  unfold ToCome Host.localDay getDay
  dsimp only
  generalize (now + x.offset) / millisOfDay = q at *
  generalize (now + x.offset) % millisOfDay = r at *
  generalize ahead : ((d + 6) % 7 - (q + 4) % 7) % 7 = k
  unfold millisOfDay at *
  have same : k = 0 ↔ ((q + 4) % 7 + 1) % 7 = d := by omega
  have week : 0 ≤ k ∧ k < 7 := by omega
  rw [← same]
  clear same ahead
  have moment : now = 86400000 * q + r - x.offset := by omega
  rw [moment]
  generalize first : (q + k) * 86400000 - x.offset + h * 3600000 + m * 60000 = f
  have future : 86400000 * q + r - x.offset < f ↔ (k = 0 → r < h * 3600000 + m * 60000) := by
    omega
  have near : f ≤ 86400000 * q + r - x.offset + 7 * 86400000 := by omega
  exact ⟨future, near⟩

theorem nodup_fortnights (t : ℤ) : (fortnights t).Nodup := by
  refine List.Nodup.map (fun i j same => ?_) List.nodup_range
  have same' : (i : ℤ) * 14 * millisOfDay = j * 14 * millisOfDay := Int.add_left_cancel same
  unfold millisOfDay at same'
  omega

theorem fortnights_head {t t' : ℤ} (same : fortnights t = fortnights t') : t = t' := by
  have head := congrArg List.head? same
  simpa [fortnights, List.range_succ] using head

theorem slots_eq {offset : ℤ} {date : String → Option Instant} (other : String → Option (ℤ × ℤ))
    (hour : 0 ≤ h ∧ h < 24) (minute : 0 ≤ m ∧ m < 60) (isHost : x = clock offset date other)
    {studentId coachId : Id} {dto : AssignCoachDto}
    (isDto : dto = ⟨studentId, coachId, some d, some (timeText h m)⟩) {first : ℤ}
    (isFirst : first = x.firstSlot now d (if h = 0 then 10 else h, if m = 0 then 20 else m)) :
    x.slots now dto = some (fortnights first) := by
  have given : timeText h m ≠ "" := fun empty => by
    have letters := congrArg String.toList empty
    simp [timeText] at letters
  have read : x.hoursMinutes (timeText h m) =
      some (if h = 0 then 10 else h, if m = 0 then 20 else m) := by
    have reads : x.hoursMinutes = readSlot other := by rw [isHost]; rfl
    rw [reads, readSlot_timeText other hour minute]
  have start : (truthy dto.slotStartTime).getD "10:20" = timeText h m := by
    have text : truthy (some (timeText h m)) = some (timeText h m) :=
      truthy_eq_some_iff.mpr ⟨rfl, given⟩
    subst isDto
    exact congrArg (·.getD "10:20") text
  have onDay : dto.slotDayOfWeek.getD 0 = d := by rw [isDto]; rfl
  rw [Host.slots, start, onDay, read, Option.map_some, ← isFirst]
  rfl

end

/-- Of a student without sessions, the ones written are on the agreed slot exactly if the student
can be linked, neither number of the time is zero and a slot of today is to come. -/
theorem on_slot_iff (offset : ℤ) (date : String → Option Instant)
    (other : String → Option (ℤ × ℤ)) (tenantId studentId coachId : Id) (now : Instant) (db : Db)
    {d h m : ℤ} (day : 0 ≤ d ∧ d < 7) (hour : 0 ≤ h ∧ h < 24) (minute : 0 ≤ m ∧ m < 60)
    (none : ∀ s ∈ db.sessions.rows, s.studentId ≠ studentId) :
    OnSlot (clock offset date other) tenantId ⟨studentId, coachId, some d, some (timeText h m)⟩
        d h m now db
        (assignCoach (clock offset date other) tenantId
          ⟨studentId, coachId, some d, some (timeText h m)⟩ now db).1 ↔
      (h ≠ 0 ∧ m ≠ 0) ∧ ToCome (clock offset date other) d h m now ∧
        MayLink tenantId ⟨studentId, coachId, some d, some (timeText h m)⟩ db := by
  obtain ⟨x, isHost⟩ : ∃ x, x = clock offset date other := ⟨_, rfl⟩
  obtain ⟨dto, isDto⟩ : ∃ dto : AssignCoachDto,
      dto = ⟨studentId, coachId, some d, some (timeText h m)⟩ := ⟨_, rfl⟩
  rw [← isHost, ← isDto]
  by_cases may : MayLink tenantId dto db
  · obtain ⟨first, isFirst⟩ : ∃ first : ℤ, first = x.firstSlot now d
        (if h = 0 then 10 else h, if m = 0 then 20 else m) := ⟨_, rfl⟩
    obtain ⟨added, rows, dated, regular⟩ := assignCoach_linked now may
      (by rw [isDto]; exact none) (nodup_fortnights first)
      (slots_eq other hour minute isHost isDto isFirst)
    have falls (s) (mem : s ∈ added) : FallsOn x d h m s.scheduledDate ↔ FallsOn x d h m first := by
      have one := List.mem_map_of_mem (f := (·.scheduledDate)) mem
      rw [dated] at one
      obtain ⟨i, -, is⟩ := List.mem_map.mp one
      rw [← is]
      exact fallsOn_later i
    have onTime := fallsOn_first_iff x now day hour minute
    rw [← isFirst] at onTime
    constructor
    · rintro ⟨t, added', rows', dated', -, falls', future, -⟩
      cases List.append_cancel_left (rows.symm.trans rows')
      have same : first = t := fortnights_head (dated.symm.trans dated')
      obtain ⟨s, mem⟩ : ∃ s, s ∈ added := by
        cases added with
        | nil => exact absurd dated (by simp [fortnights, List.range_succ])
        | cons s rest => exact ⟨s, List.mem_cons_self⟩
      obtain ⟨hour', minute'⟩ := onTime.mp ((falls s mem).mp (falls' s mem))
      rw [← same, isFirst, if_neg hour', if_neg minute'] at future
      exact ⟨⟨hour', minute'⟩, (first_spec x now day hour minute).1.mp future, may⟩
    · rintro ⟨⟨hour', minute'⟩, toCome, -⟩
      obtain ⟨future, near⟩ := first_spec x now day hour minute
      refine ⟨first, added, rows, dated, regular,
        fun s mem => (falls s mem).mpr (onTime.mpr ⟨hour', minute'⟩), ?_⟩
      rw [isFirst, if_neg hour', if_neg minute']
      exact ⟨future.mpr toCome, near⟩
  · refine iff_of_false ?_ fun all => may all.2.2
    rintro ⟨t, added, rows, dated, -⟩
    rw [assignCoach_unlinked now may] at rows
    rw [List.self_eq_append_right.mp rows] at dated
    exact absurd dated (by simp [fortnights, List.range_succ])

/-- So all are on the slot and to come. -/
theorem OnSlot.to_come {x : Host} {tenantId : Id} {dto : AssignCoachDto} {d h m : ℤ} {now : Instant}
    {before after : Db} (on : OnSlot x tenantId dto d h m now before after)
    (none : before.sessions.rows = []) :
    ∀ s ∈ after.sessions.rows, FallsOn x d h m s.scheduledDate ∧ now < s.scheduledDate := by
  obtain ⟨t, added, rows, dated, -, falls, future, -⟩ := on
  rw [rows, none, List.nil_append]
  intro s mem
  have one := List.mem_map_of_mem (f := (·.scheduledDate)) mem
  rw [dated] at one
  obtain ⟨i, -, is⟩ := List.mem_map.mp one
  have later : (0 : ℤ) ≤ i * 14 * millisOfDay := by unfold millisOfDay; omega
  exact ⟨falls s mem, is ▸ lt_of_lt_of_le future (le_add_of_nonneg_right later)⟩

/-! ### Slots on Friday and today -/

namespace Term

/-- A Thursday, the first of January 1970, at noon. -/
def noon : Instant := 43200000

def host : Host := clock 0 (fun _ => none) fun _ => none

end Term

open Guidance Term

/-- A slot on Fridays. -/
theorem on_slot_friday : OnSlot Term.host 1 ⟨1, 2, some 6, some (timeText 16 8)⟩ 6 16 8 noon
    Guidance.db (assignCoach Term.host 1 ⟨1, 2, some 6, some (timeText 16 8)⟩ noon Guidance.db).1 :=
  (on_slot_iff 0 _ _ 1 1 2 noon Guidance.db (by decide) (by decide) (by decide)
    (List.forall_mem_nil _)).mpr
    ⟨by decide, by decide, by decide⟩

/-- At four o'clock the sessions are at twenty past four; and of a slot of this morning the first
session is over. -/
theorem not_on_slot : ¬ OnSlot Term.host 1 ⟨1, 2, some 6, some "16:00"⟩ 6 16 0 noon Guidance.db
        (assignCoach Term.host 1 ⟨1, 2, some 6, some "16:00"⟩ noon Guidance.db).1 ∧
      ¬ OnSlot Term.host 1 ⟨1, 2, some 5, some "09:20"⟩ 5 9 20 noon Guidance.db
        (assignCoach Term.host 1 ⟨1, 2, some 5, some "09:20"⟩ noon Guidance.db).1 := by
  constructor
  · exact fun on => absurd (on.to_come rfl) (by decide +kernel)
  · exact fun on => absurd (on.to_come rfl) (by decide +kernel)

end Rokad.Coaching
