import Rokad.Coaching.Service

/-!
# Coaches, sessions and requests

A student has one coach at a time, the regular sessions to come are with that coach, and a request
that was approved has the one session that was created for it.

Assigning another coach leaves the sessions with the former one in the calendar, and answering a
request again creates another session or keeps the one of a request that is now rejected
(`not_coached`). The records stay consistent along a run exactly when no session with another coach
is to come, and no approved request is answered again (`coached_iff`).
-/

namespace Rokad.Coaching

open Rokad.Base Rokad.Common

/-! ### The law -/

/-- When a coach was last assigned to the student. -/
def Db.lastAssigned (db : Db) (studentId : Id) : Option Instant :=
  (db.links.rows.filter fun l => l.studentId = studentId).getLast?.map (·.startDate)

def Db.sessionsFor (db : Db) (requestId : Id) : List CoachingSession :=
  db.sessions.rows.filter fun s => s.createdFor = some requestId

def Active (db : Db) (l : StudentCoachLink) : Prop := l ∈ db.links.rows ∧ l.status = .active

/-- An approved request has one session, an extra one at its date; no other has one. -/
def Answered (db : Db) (r : CoachingExtraRequest) : Prop :=
  match r.status with
  | .approved => ∃ s ∈ (db.sessionsFor r.id).head?, db.sessionsFor r.id = [s] ∧
      s.sessionType = .extra ∧ r.scheduledDate = some s.scheduledDate
  | .pending | .rejected => db.sessionsFor r.id = []

structure Consistent (db : Db) : Prop where
  oneActive : ∀ l ∈ db.links.rows, ∀ l' ∈ db.links.rows, l.status = .active →
    l'.status = .active → l.studentId = l'.studentId → l = l'
  coached : ∀ s ∈ db.sessions.rows, s.sessionType = .regular →
    ∀ t ∈ db.lastAssigned s.studentId, t < s.scheduledDate →
      ∃ l ∈ db.links.rows, l.status = .active ∧ l.studentId = s.studentId ∧ l.coachId = s.coachId
  answered : ∀ r ∈ db.requests.rows, Answered db r

/-- The call leaves links, sessions and requests consistent. -/
def Kept (x : Host) (db : Db) (call : Call) : Prop := Consistent (step x db call)

/-- What is remembered of a session is a request. -/
def Filed (db : Db) : Prop := Table.References (·.createdFor) db.sessions db.requests
deriving Decidable

/-! ### The condition -/

/-- If the student's link can be replaced: no other school has the student's coach, and every
regular session to come is with the new coach; where student or coach do not exist, the student
had no coach in this school, or there is no session to come. -/
def MayAssign (tenantId : Id) (dto : AssignCoachDto) (now : Instant) (db : Db) : Prop :=
  (db.link tenantId dto.studentId .active ≠ none →
    db.link tenantId dto.studentId .inactive = none) →
  if db.users.has (some dto.studentId) = true ∧ db.users.has (some dto.coachId) = true then
    (∀ l ∈ db.links.rows, l.status = .active → l.studentId = dto.studentId →
      l.tenantId = tenantId) ∧
    ∀ s ∈ db.sessions.rows, s.sessionType = .regular → s.studentId = dto.studentId →
      now < s.scheduledDate → s.coachId = dto.coachId
  else
    db.link tenantId dto.studentId .active ≠ none →
      ∀ s ∈ db.sessions.rows, s.sessionType = .regular → s.studentId = dto.studentId →
        ∀ t ∈ db.lastAssigned dto.studentId, s.scheduledDate ≤ t
deriving Decidable

/-- An approval names a date, and the coach exists; nothing is in the way of a rejection. -/
def Admissible (x : Host) (coachId : Id) (dto : RespondExtraRequestDto) (db : Db) : Prop :=
  match dto.status with
  | .approved => (∃ text ∈ truthy dto.scheduledDate, (x.date text).isSome = true) ∧
      db.users.has (some coachId) = true
  | .rejected => True

def Fits (x : Host) (db : Db) : Call → Prop
  | .assignCoach tenantId dto now => MayAssign tenantId dto now db
  | .requestExtraSession _ _ => True
  | .respondToExtraRequest tenantId coachId requestId dto =>
    Admissible x coachId dto db → ∀ r ∈ db.request tenantId requestId, r.status ≠ .approved

/-! ### Links -/

section

variable {db db' : Db} {tenantId studentId : Id}

theorem Db.link_eq_none {status : CoachLinkStatus} :
    db.link tenantId studentId status = none ↔
      ∀ l ∈ db.links.rows, l.tenantId = tenantId → l.studentId = studentId → l.status ≠ status := by
  simp [Db.link]

theorem Db.link_spec {status : CoachLinkStatus} {l : StudentCoachLink}
    (found : db.link tenantId studentId status = some l) :
    l ∈ db.links.rows ∧ l.tenantId = tenantId ∧ l.studentId = studentId ∧ l.status = status := by
  have own := List.find?_some found
  simp only [decide_eq_true_eq] at own
  exact ⟨List.mem_of_find?_eq_some found, own⟩

theorem lastAssigned_update {t : Table StudentCoachLink} {k : Id}
    {f : StudentCoachLink → StudentCoachLink} {keep : ∀ a, Record.key (f a) = Record.key a}
    (updated : db.links.update k f keep = some t) (student : ∀ l, (f l).studentId = l.studentId)
    (date : ∀ l, (f l).startDate = l.startDate) (j : Id) :
    Db.lastAssigned { db with links := t } j = db.lastAssigned j := by
  obtain ⟨_, -, -, rows⟩ := Table.update_spec.mp updated
  unfold Db.lastAssigned
  have same : ((fun l : StudentCoachLink => decide (l.studentId = j)) ∘
      fun l => if Record.key l = k then f l else l) = fun l => decide (l.studentId = j) := by
    funext l
    simp only [Function.comp]
    split <;> simp [student]
  rw [rows, List.filter_map, same, List.getLast?_map, Option.map_map]
  congr 1
  funext l
  simp only [Function.comp]
  split <;> simp [date]

theorem lastAssigned_insert {t : Table StudentCoachLink} {l : StudentCoachLink}
    (inserted : db.links.insert l = some t) (j : Id) :
    Db.lastAssigned { db with links := t } j =
      if l.studentId = j then some l.startDate else db.lastAssigned j := by
  unfold Db.lastAssigned
  rw [(insert_spec.mp inserted).1, List.filter_append]
  by_cases same : l.studentId = j <;> simp [same]

/-- The active link is gone, and nothing else is. -/
structure Deactivated (tenantId studentId : Id) (db db' : Db) : Prop where
  users : db'.users = db.users
  sessions : db'.sessions = db.sessions
  requests : db'.requests = db.requests
  lastAssigned : ∀ k, db'.lastAssigned k = db.lastAssigned k
  active : ∀ l, Active db' l ↔ Active db l ∧ ¬(l.tenantId = tenantId ∧ l.studentId = studentId)

theorem deactivate_error {e : Failure} (failed : db.deactivate tenantId studentId = .error e) :
    db.link tenantId studentId .active ≠ none ∧ db.link tenantId studentId .inactive ≠ none := by
  unfold Db.deactivate at failed
  cases active : db.link tenantId studentId .active with
  | none => rw [active] at failed; cases failed
  | some l =>
    obtain ⟨mem, ofTenant, ofStudent, -⟩ := Db.link_spec active
    rw [active] at failed
    refine ⟨nofun, fun none => ?_⟩
    obtain ⟨t, updated⟩ : ∃ t, db.links.update l.id (·.deactivate)
        StudentCoachLink.key_deactivate = some t :=
      Table.update_of_clear (db.links.find?_key mem) fun other memOther _ => by
        by_contra clash
        simp only [Record.clash, StudentCoachLink.deactivate, ofTenant, ofStudent,
          Bool.not_eq_false, Bool.and_eq_true, beq_iff_eq] at clash
        exact Db.link_eq_none.mp none other memOther clash.1.1.symm clash.1.2.symm clash.2.symm
    simp only [updateRow, show db.links.update l.id _ _ = some t from updated, orFail, bind,
      Except.bind, pure, Except.pure] at failed
    cases failed

theorem deactivate_ok (done : db.deactivate tenantId studentId = .ok db') :
    Deactivated tenantId studentId db db' ∧ (db.link tenantId studentId .active ≠ none →
        db.link tenantId studentId .inactive = none) ∧
      (db.link tenantId studentId .active = none → db' = db) := by
  unfold Db.deactivate at done
  cases active : db.link tenantId studentId .active with
  | none =>
    rw [active] at done
    cases done
    refine ⟨⟨rfl, rfl, rfl, fun _ => rfl, fun l => ⟨fun is => ⟨is, ?_⟩, And.left⟩⟩,
      fun is => absurd rfl is, fun _ => rfl⟩
    rintro ⟨ofTenant, ofStudent⟩
    exact Db.link_eq_none.mp active l is.1 ofTenant ofStudent is.2
  | some l =>
    obtain ⟨mem, ofTenant, ofStudent, isActive⟩ := Db.link_spec active
    rw [active] at done
    simp only [do_eq_ok, updateRow_eq_ok] at done
    obtain ⟨t, updated, rfl⟩ := done
    obtain ⟨_, found, clear, -⟩ := Table.update_spec.mp updated
    cases (db.links.find?_key mem).symm.trans found
    refine ⟨⟨rfl, rfl, rfl, lastAssigned_update updated (fun _ => rfl) (fun _ => rfl), ?_⟩,
      fun _ => ?_, by simp⟩
    · intro other
      unfold Active
      dsimp only
      rw [mem_update updated]
      constructor
      · rintro ⟨⟨memOther, differ⟩ | ⟨_, _, rfl⟩, is⟩
        · refine ⟨⟨memOther, is⟩, ?_⟩
          rintro ⟨sameTenant, sameStudent⟩
          have clash := db.links.no_clash other memOther l mem differ
          simp [Record.clash, sameTenant, sameStudent, ofTenant, ofStudent, is, isActive] at clash
        · cases is
      · rintro ⟨⟨memOther, is⟩, other'⟩
        refine ⟨.inl ⟨memOther, fun same => other' ?_⟩, is⟩
        rw [db.links.eq_of_key_eq memOther mem same]
        exact ⟨ofTenant, ofStudent⟩
    · refine Db.link_eq_none.mpr fun other memOther sameTenant sameStudent is => ?_
      have differ : Record.key other ≠ l.id := fun same => by
        rw [db.links.eq_of_key_eq memOther mem same, isActive] at is
        cases is
      have clash := clear other memOther differ
      simp [Record.clash, StudentCoachLink.deactivate, sameTenant, sameStudent, ofTenant,
        ofStudent, is] at clash

end

/-! ### Assigning -/

section

variable {db db' : Db} {tenantId : Id} {dto : AssignCoachDto} {now : Instant}

/-- The student has a new active link, and regular sessions with the new coach. -/
structure Assigned (tenantId : Id) (dto : AssignCoachDto) (now : Instant) (db db' : Db) : Prop where
  requests : db'.requests = db.requests
  lastAssigned : ∀ k, db'.lastAssigned k = if dto.studentId = k then some now else db.lastAssigned k
  active : ∃ id, ∀ l, Active db' l ↔
    (Active db l ∧ ¬(l.tenantId = tenantId ∧ l.studentId = dto.studentId)) ∨
      l = newLink tenantId dto now id
  sessions : ∃ added, db'.sessions.rows = db.sessions.rows ++ added ∧
    ∀ s ∈ added, ∃ date id, s = regularSession tenantId dto date id

theorem generate_spec (dates : List Instant) (db : Db) :
    ∃ added, (∀ s ∈ added, ∃ date id, s = regularSession tenantId dto date id) ∧
      (generateUpcomingBiweeklySessions tenantId dto dates db).sessions.rows =
        db.sessions.rows ++ added ∧
      (generateUpcomingBiweeklySessions tenantId dto dates db).links = db.links ∧
      (generateUpcomingBiweeklySessions tenantId dto dates db).requests = db.requests := by
  induction dates generalizing db with
  | nil =>
    exact ⟨[], List.forall_mem_nil _, (List.append_nil _).symm, rfl, rfl⟩
  | cons date dates ih =>
    obtain ⟨added, are, rows, links, requests⟩ := ih (db.addRegular tenantId dto date)
    have one : ∃ first, (∀ s ∈ first, ∃ date id, s = regularSession tenantId dto date id) ∧
        (db.addRegular tenantId dto date).sessions.rows = db.sessions.rows ++ first ∧
        (db.addRegular tenantId dto date).links = db.links ∧
        (db.addRegular tenantId dto date).requests = db.requests := by
      unfold Db.addRegular
      split
      · exact ⟨[], List.forall_mem_nil _, by simp, rfl, rfl⟩
      · obtain ⟨t, inserted⟩ := db.sessions.insert_of_fresh
          (regularSession tenantId dto date db.sessions.fresh) rfl fun _ _ => rfl
        rw [insertRow, inserted]
        refine ⟨[_], fun s mem => ?_, (insert_spec.mp inserted).1, rfl, rfl⟩
        exact ⟨date, _, List.mem_singleton.mp mem⟩
    obtain ⟨first, areFirst, rowsFirst, linksFirst, requestsFirst⟩ := one
    refine ⟨first ++ added, ?_, ?_, links.trans linksFirst, requests.trans requestsFirst⟩
    · intro s mem
      rcases List.mem_append.mp mem with mem | mem
      · exact areFirst s mem
      · exact are s mem
    · rw [← List.append_assoc, ← rowsFirst]
      exact rows

theorem createLink_ok (done : db.createLink tenantId dto now = .ok db') :
    (db.users.has (some dto.studentId) = true ∧ db.users.has (some dto.coachId) = true) ∧
      db'.sessions = db.sessions ∧ db'.requests = db.requests ∧
      (∀ k, db'.lastAssigned k = if dto.studentId = k then some now else db.lastAssigned k) ∧
      ∀ l, Active db' l ↔ Active db l ∨ l = newLink tenantId dto now db.links.fresh := by
  simp only [Db.createLink, do_eq_ok, referred_eq_ok, insertRow_eq_ok] at done
  obtain ⟨⟨⟩, student, ⟨⟩, coach, t, inserted, rfl⟩ := done
  refine ⟨⟨student, coach⟩, rfl, rfl, lastAssigned_insert inserted, fun l => ?_⟩
  unfold Active
  dsimp only
  rw [mem_insert inserted]
  constructor
  · rintro ⟨mem | rfl, is⟩
    · exact .inl ⟨mem, is⟩
    · exact .inr rfl
  · rintro (⟨mem, is⟩ | rfl)
    · exact ⟨.inl mem, is⟩
    · exact ⟨.inr rfl, rfl⟩

/-- Where the active link is out of the way, the new one is created unless someone is missing. -/
theorem createLink_error {e : Failure} (failed : db.createLink tenantId dto now = .error e)
    (clear : ∀ l, Active db l → ¬(l.tenantId = tenantId ∧ l.studentId = dto.studentId)) :
    ¬(db.users.has (some dto.studentId) = true ∧ db.users.has (some dto.coachId) = true) := by
  rintro ⟨student, coach⟩
  obtain ⟨t, inserted⟩ := db.links.insert_of_fresh (newLink tenantId dto now db.links.fresh) rfl
    fun l mem => by
      by_contra clash
      simp only [Record.clash, newLink, Bool.not_eq_false, Bool.and_eq_true, beq_iff_eq] at clash
      exact clear l ⟨mem, clash.2⟩ ⟨clash.1.1, clash.1.2⟩
  simp only [Db.createLink, referred, require, student, coach, if_true, insertRow, inserted, orFail,
    bind, Except.bind, pure, Except.pure] at failed
  cases failed

/-- The call is stopped by an inactive link, or it takes the coach away and finds someone missing,
or it assigns the new coach. -/
theorem assignCoach_cases (x : Host) (tenantId : Id) (dto : AssignCoachDto) (now : Instant)
    (db : Db) :
    (db.link tenantId dto.studentId .active ≠ none ∧
      db.link tenantId dto.studentId .inactive ≠ none ∧
      (assignCoach x tenantId dto now db).1 = db) ∨
    (db.link tenantId dto.studentId .active ≠ none →
      db.link tenantId dto.studentId .inactive = none) ∧
    (¬(db.users.has (some dto.studentId) = true ∧ db.users.has (some dto.coachId) = true) ∧
        Deactivated tenantId dto.studentId db (assignCoach x tenantId dto now db).1 ∧
        (db.link tenantId dto.studentId .active = none →
          (assignCoach x tenantId dto now db).1 = db) ∨
      (db.users.has (some dto.studentId) = true ∧ db.users.has (some dto.coachId) = true) ∧
        Assigned tenantId dto now db (assignCoach x tenantId dto now db).1) := by
  unfold assignCoach
  cases first : db.deactivate tenantId dto.studentId with
  | error e =>
    obtain ⟨active, inactive⟩ := deactivate_error first
    exact .inl ⟨active, inactive, rfl⟩
  | ok mid =>
    obtain ⟨gone, blocked, same⟩ := deactivate_ok first
    refine .inr ⟨blocked, ?_⟩
    dsimp only
    cases second : mid.createLink tenantId dto now with
    | error e =>
      have missing := createLink_error second fun l is => ((gone.active l).mp is).2
      rw [gone.users] at missing
      exact .inl ⟨missing, gone, same⟩
    | ok linked =>
      obtain ⟨known, sessions, requests, lastAssigned, active⟩ := createLink_ok second
      rw [gone.users] at known
      have last (k : Id) : linked.lastAssigned k =
          if dto.studentId = k then some now else db.lastAssigned k := by
        rw [lastAssigned, gone.lastAssigned]
      have links (l : StudentCoachLink) : Active linked l ↔
          (Active db l ∧ ¬(l.tenantId = tenantId ∧ l.studentId = dto.studentId)) ∨
            l = newLink tenantId dto now mid.links.fresh := by
        rw [active, gone.active]
      refine .inr ⟨known, ?_⟩
      dsimp only
      cases x.slots now dto with
      | none =>
        refine ⟨requests.trans gone.requests, last, ⟨_, links⟩, [], ?_, List.forall_mem_nil _⟩
        rw [sessions, gone.sessions, List.append_nil]
      | some dates =>
        obtain ⟨added, are, rows, sameLinks, sameRequests⟩ := generate_spec dates linked
        dsimp only
        refine ⟨sameRequests.trans (requests.trans gone.requests), fun k => ?_,
          ⟨mid.links.fresh, fun l => ?_⟩, added, ?_, are⟩
        · unfold Db.lastAssigned at last ⊢
          rw [sameLinks]
          exact last k
        · unfold Active at links ⊢
          rw [sameLinks]
          exact links l
        · rw [rows, sessions, gone.sessions]

theorem sessionsFor_append {added : List CoachingSession}
    (rows : db'.sessions.rows = db.sessions.rows ++ added)
    (others : ∀ s ∈ added, s.createdFor = none) (k : Id) :
    db'.sessionsFor k = db.sessionsFor k := by
  unfold Db.sessionsFor
  rw [rows, List.filter_append]
  have none : added.filter (fun s => s.createdFor = some k) = [] := by
    refine List.filter_eq_nil_iff.mpr fun s mem => ?_
    simp [others s mem]
  rw [none, List.append_nil]

theorem Answered.congr {r : CoachingExtraRequest}
    (same : db'.sessionsFor r.id = db.sessionsFor r.id) :
    Answered db' r ↔ Answered db r := by
  unfold Answered
  rw [same]

/-- The coach is taken away: consistent exactly if there was none, or no session is to come. -/
theorem Deactivated.consistent_iff {studentId : Id} (gone : Deactivated tenantId studentId db db')
    (same : db.link tenantId studentId .active = none → db' = db) (before : Consistent db) :
    Consistent db' ↔ (db.link tenantId studentId .active ≠ none →
      ∀ s ∈ db.sessions.rows, s.sessionType = .regular → s.studentId = studentId →
        ∀ t ∈ db.lastAssigned studentId, s.scheduledDate ≤ t) := by
  constructor
  · rintro after hasCoach s mem regular rfl t last
    by_contra later
    rw [← gone.sessions] at mem
    rw [← gone.lastAssigned] at last
    obtain ⟨l, memL, active, ofStudent, -⟩ := after.coached s mem regular t last (not_le.mp later)
    obtain ⟨⟨memL, active⟩, other⟩ := (gone.active l).mp ⟨memL, active⟩
    obtain ⟨old, found⟩ := Option.ne_none_iff_exists'.mp hasCoach
    obtain ⟨memOld, ofTenant, ofStudent', activeOld⟩ := Db.link_spec found
    refine other ⟨?_, ofStudent⟩
    rw [before.oneActive l memL old memOld active activeOld (ofStudent.trans ofStudent'.symm)]
    exact ofTenant
  · intro none
    by_cases hasCoach : db.link tenantId studentId .active = .none
    · rw [same hasCoach]
      exact before
    refine ⟨fun l mem l' mem' is is' => ?_, fun s mem regular t last later => ?_, fun r mem => ?_⟩
    · have ofL := ((gone.active l).mp ⟨mem, is⟩).1
      have ofL' := ((gone.active l').mp ⟨mem', is'⟩).1
      exact before.oneActive l ofL.1 l' ofL'.1 is is'
    · rw [gone.sessions] at mem
      rw [gone.lastAssigned] at last
      by_cases ofStudent : s.studentId = studentId
      · rw [ofStudent] at last
        exact absurd later (not_lt.mpr (none hasCoach s mem regular ofStudent t last))
      · obtain ⟨l, memL, active, sameStudent, coach⟩ := before.coached s mem regular t last later
        have stays := (gone.active l).mpr ⟨⟨memL, active⟩, fun is =>
          ofStudent (sameStudent.symm.trans is.2)⟩
        exact ⟨l, stays.1, active, sameStudent, coach⟩
    · rw [gone.requests] at mem
      refine (Answered.congr ?_).mpr (before.answered r mem)
      unfold Db.sessionsFor
      rw [gone.sessions]

/-- A new coach: consistent exactly if no other school has one, and the sessions to come are with
the new one. -/
theorem Assigned.consistent_iff (assigned : Assigned tenantId dto now db db')
    (before : Consistent db) : Consistent db' ↔
      (∀ l ∈ db.links.rows, l.status = .active → l.studentId = dto.studentId →
        l.tenantId = tenantId) ∧
      ∀ s ∈ db.sessions.rows, s.sessionType = .regular → s.studentId = dto.studentId →
        now < s.scheduledDate → s.coachId = dto.coachId := by
  obtain ⟨id, links⟩ := assigned.active
  obtain ⟨added, rows, are⟩ := assigned.sessions
  have new : Active db' (newLink tenantId dto now id) := (links _).mpr (.inr rfl)
  constructor
  · intro after
    constructor
    · intro l mem active ofStudent
      by_contra other
      have stays := (links l).mpr (.inl ⟨⟨mem, active⟩, fun is => other is.1⟩)
      exact other (congrArg StudentCoachLink.tenantId
        (after.oneActive l stays.1 _ new.1 active rfl ofStudent))
    · intro s mem regular ofStudent later
      have last : now ∈ db'.lastAssigned s.studentId := by
        rw [assigned.lastAssigned, if_pos ofStudent.symm]
        rfl
      obtain ⟨l, memL, active, sameStudent, coach⟩ :=
        after.coached s (rows ▸ List.mem_append_left _ mem) regular now last later
      have isNew := after.oneActive l memL _ new.1 active rfl (sameStudent.trans ofStudent)
      rw [← coach, isNew]
      rfl
  · rintro ⟨here, withNew⟩
    refine ⟨?_, fun s mem regular t last later => ?_, fun r mem => ?_⟩
    · have apart (l : StudentCoachLink) (old : Active db l)
          (other : ¬(l.tenantId = tenantId ∧ l.studentId = dto.studentId)) :
          l.studentId ≠ dto.studentId := fun same => other ⟨here l old.1 old.2 same, same⟩
      intro l mem l' mem' is is' same
      rcases (links l).mp ⟨mem, is⟩ with ⟨old, other⟩ | rfl <;>
        rcases (links l').mp ⟨mem', is'⟩ with ⟨old', other'⟩ | rfl
      · exact before.oneActive l old.1 l' old'.1 is is' same
      · exact absurd same (apart l old other)
      · exact absurd same.symm (apart l' old' other')
      · rfl
    · rw [assigned.lastAssigned] at last
      rw [rows] at mem
      by_cases ofStudent : dto.studentId = s.studentId
      · rw [if_pos ofStudent] at last
        cases last
        refine ⟨_, new.1, rfl, ofStudent, ?_⟩
        rcases List.mem_append.mp mem with mem | mem
        · exact (withNew s mem regular ofStudent.symm later).symm
        · obtain ⟨date, _, rfl⟩ := are s mem
          rfl
      · rw [if_neg ofStudent] at last
        rcases List.mem_append.mp mem with mem | mem
        · obtain ⟨l, memL, active, sameStudent, coach⟩ :=
            before.coached s mem regular t last later
          have stays := (links l).mpr (.inl ⟨⟨memL, active⟩, fun is =>
            ofStudent (is.2.symm.trans sameStudent)⟩)
          exact ⟨l, stays.1, active, sameStudent, coach⟩
        · obtain ⟨date, _, rfl⟩ := are s mem
          exact absurd rfl ofStudent
    · rw [assigned.requests] at mem
      refine (Answered.congr (sessionsFor_append rows (fun s mem => ?_) r.id)).mpr
        (before.answered r mem)
      obtain ⟨date, _, rfl⟩ := are s mem
      rfl

theorem assignCoach_iff (x : Host) (before : Consistent db) :
    Kept x db (.assignCoach tenantId dto now) ↔ MayAssign tenantId dto now db := by
  unfold Kept MayAssign
  dsimp only [step]
  rcases assignCoach_cases x tenantId dto now db with ⟨active, inactive, same⟩ |
    ⟨open', ⟨missing, gone, same⟩ | ⟨known, assigned⟩⟩
  · rw [same]
    exact iff_of_true before fun open' => absurd (open' active) inactive
  · rw [if_neg missing, gone.consistent_iff same before]
    exact ⟨fun fits _ => fits, fun fits => fits open'⟩
  · rw [if_pos known, assigned.consistent_iff before]
    exact ⟨fun fits _ => fits, fun fits => fits open'⟩

end

/-! ### Requests -/

section

variable {x : Host} {db db' : Db} {tenantId : Id}

theorem requestExtraSession_keeps {studentId : Id} (before : Consistent db) (filed : Filed db)
    (done : requestExtraSession tenantId studentId db = .ok db') : Consistent db' := by
  simp only [requestExtraSession, do_eq_ok, insertRow_eq_ok] at done
  obtain ⟨_, -, requests, inserted, rfl⟩ := done
  refine ⟨before.oneActive, before.coached, fun r mem => ?_⟩
  rcases (mem_insert inserted).mp mem with mem | rfl
  · exact before.answered r mem
  · -- nothing was created for a request that is new
    refine List.filter_eq_nil_iff.mpr fun s memS => ?_
    simp only [decide_eq_true_eq]
    intro for'
    have known : db.requests.has s.createdFor = true := filed s memS
    rw [for'] at known
    obtain ⟨r, found⟩ := has_some_iff.mp known
    rw [find?_fresh] at found
    cases found

theorem requestExtraSession_filed {studentId : Id} (filed : Filed db)
    (done : requestExtraSession tenantId studentId db = .ok db') : Filed db' := by
  simp only [requestExtraSession, do_eq_ok, insertRow_eq_ok] at done
  obtain ⟨_, -, requests, inserted, rfl⟩ := done
  exact filed.insert_parent inserted

/-- The sessions of a request answered again are not those of any request that is not approved. -/
theorem Consistent.sessionsFor_eq_nil (before : Consistent db) {r : CoachingExtraRequest}
    (mem : r ∈ db.requests.rows) : db.sessionsFor r.id = [] ↔ r.status ≠ .approved := by
  have answered := before.answered r mem
  unfold Answered at answered
  cases is : r.status with
  | pending => rw [is] at answered; simpa using answered
  | rejected => rw [is] at answered; simpa using answered
  | approved =>
    rw [is] at answered
    obtain ⟨s, -, only, -⟩ := answered
    simp [only]

theorem answered_others {t : Table CoachingExtraRequest} {k : Id}
    {f : CoachingExtraRequest → CoachingExtraRequest}
    {keep : ∀ a, Record.key (f a) = Record.key a} (updated : db.requests.update k f keep = some t)
    (before : Consistent db) {r : CoachingExtraRequest} (found : db.requests.find? k = some r)
    (same : ∀ j, j ≠ k → db'.sessionsFor j = db.sessionsFor j) :
    (∀ r ∈ t.rows, Answered db' r) ↔ Answered db' (f r) := by
  constructor
  · exact fun all => all _ ((mem_update updated).mpr (.inr ⟨r, found, rfl⟩))
  · intro answered r' mem
    rcases (mem_update updated).mp mem with ⟨mem, other⟩ | ⟨_, found', rfl⟩
    · exact (Answered.congr (same r'.id other)).mpr (before.answered r' mem)
    · cases found.symm.trans found'
      exact answered

theorem approve_iff {t : Table CoachingSession} {u : Table CoachingExtraRequest}
    {coachId requestId : Id} {date : Instant} {r : CoachingExtraRequest} {id : Id}
    (before : Consistent db) (found : db.requests.find? requestId = some r)
    (inserted : db.sessions.insert (extraSession tenantId coachId r date id) = some t)
    (updated : db.requests.update requestId (·.approve date)
      (CoachingExtraRequest.key_approve date) = some u) :
    Consistent { db with sessions := t, requests := u } ↔ r.status ≠ .approved := by
  have mem := mem_of_find? found
  have isR : r.id = requestId := key_of_find? found
  have rows := (insert_spec.mp inserted).1
  have own : Db.sessionsFor { db with sessions := t, requests := u } r.id =
      db.sessionsFor r.id ++ [extraSession tenantId coachId r date id] := by
    unfold Db.sessionsFor
    rw [rows, List.filter_append]
    simp [extraSession]
  have others (j : Id) (other : j ≠ requestId) :
      Db.sessionsFor { db with sessions := t, requests := u } j = db.sessionsFor j := by
    unfold Db.sessionsFor
    rw [rows, List.filter_append]
    simp [extraSession, isR, other.symm]
  have answers := answered_others updated before found others
  rw [← before.sessionsFor_eq_nil mem]
  constructor
  · intro after
    obtain ⟨s, -, only, -⟩ := answers.mp after.answered
    rw [show (r.approve date).id = r.id from rfl, own] at only
    cases first : db.sessionsFor r.id with
    | nil => rfl
    | cons s' rest => simp [first] at only
  · intro none
    refine ⟨before.oneActive, fun s memS regular => ?_, answers.mpr ?_⟩
    · rcases (mem_insert inserted).mp memS with memS | rfl
      · exact before.coached s memS regular
      · cases regular
    · rw [none, List.nil_append] at own
      refine ⟨extraSession tenantId coachId r date id, ?_, own, rfl, rfl⟩
      rw [show (r.approve date).id = r.id from rfl, own]
      rfl

theorem reject_iff {u : Table CoachingExtraRequest} {requestId : Id} {r : CoachingExtraRequest}
    (before : Consistent db) (found : db.requests.find? requestId = some r)
    (updated : db.requests.update requestId (·.reject) CoachingExtraRequest.key_reject = some u) :
    Consistent { db with requests := u } ↔ r.status ≠ .approved := by
  have answers := @answered_others db { db with requests := u } u requestId _ _ updated before r
    found fun _ _ => rfl
  rw [← before.sessionsFor_eq_nil (mem_of_find? found)]
  exact ⟨fun after => answers.mp after.answered,
    fun none => ⟨before.oneActive, before.coached, answers.mpr none⟩⟩

theorem Db.request_spec {requestId : Id} {r : CoachingExtraRequest}
    (found : db.request tenantId requestId = some r) : db.requests.find? requestId = some r :=
  (Option.filter_eq_some_iff.mp found).1

theorem respond_iff {coachId requestId : Id} {dto : RespondExtraRequestDto}
    (before : Consistent db) :
    Kept x db (.respondToExtraRequest tenantId coachId requestId dto) ↔
      (Admissible x coachId dto db → ∀ r ∈ db.request tenantId requestId,
        r.status ≠ .approved) := by
  unfold Kept Admissible
  dsimp only [step]
  unfold respondToExtraRequest
  cases found : db.request tenantId requestId with
  | none => simp [orFail, bind, Except.bind, before]
  | some r =>
    have here := Db.request_spec found
    cases status : dto.status with
    | rejected =>
      obtain ⟨u, updated⟩ : ∃ u, db.requests.update requestId (·.reject)
          CoachingExtraRequest.key_reject = some u :=
        update_isSome here fun _ _ => rfl
      simp only [orFail, updateRow, updated, bind, Except.bind, pure, Except.pure, settled_ok]
      rw [reject_iff before here updated]
      simp
    | approved =>
      cases given : truthy dto.scheduledDate with
      | none => simp [orFail, bind, Except.bind, before]
      | some text =>
        cases date : x.date text with
        | none => simp [orFail, date, bind, Except.bind, before]
        | some date' =>
          by_cases known : db.users.has (some coachId) = true
          swap
          · simp [orFail, date, referred, require, known, bind, Except.bind, before]
          obtain ⟨t, inserted⟩ := db.sessions.insert_of_fresh
            (extraSession tenantId coachId r date' db.sessions.fresh) rfl fun _ _ => rfl
          obtain ⟨u, updated⟩ : ∃ u, db.requests.update requestId (·.approve date')
              (CoachingExtraRequest.key_approve date') = some u :=
            update_isSome here fun _ _ => rfl
          simp only [orFail, date, referred, require, known, if_true, insertRow, inserted,
            updateRow, updated, bind, Except.bind, pure, Except.pure, settled_ok]
          rw [approve_iff before here inserted updated]
          simp [date]

theorem respond_filed {coachId requestId : Id} {dto : RespondExtraRequestDto} (filed : Filed db)
    (done : respondToExtraRequest x tenantId coachId requestId dto db = .ok db') : Filed db' := by
  unfold respondToExtraRequest at done
  obtain ⟨r, found, done⟩ := bind_eq_ok.mp done
  have here := Db.request_spec (orFail_eq_ok.mp found)
  cases status : dto.status with
  | rejected =>
    simp only [status, do_eq_ok, updateRow_eq_ok] at done
    obtain ⟨u, updated, rfl⟩ := done
    exact filed.update_parent updated
  | approved =>
    simp only [status, do_eq_ok, insertRow_eq_ok, updateRow_eq_ok] at done
    obtain ⟨_, -, _, -, _, -, t, inserted, u, updated, rfl⟩ := done
    refine Table.References.update_parent (filed.insert_child inserted ?_) updated
    have isR : r.id = requestId := key_of_find? here
    exact has_some_iff.mpr ⟨r, isR ▸ here⟩

end

/-! ### Runs -/

section

variable {x : Host} {db : Db}

theorem assignCoach_filed {tenantId : Id} {dto : AssignCoachDto} {now : Instant}
    (filed : Filed db) : Filed (assignCoach x tenantId dto now db).1 := by
  rcases assignCoach_cases x tenantId dto now db with ⟨-, -, same⟩ |
    ⟨-, ⟨-, gone, -⟩ | ⟨-, assigned⟩⟩
  · rwa [same]
  · unfold Filed
    rwa [gone.sessions, gone.requests]
  · obtain ⟨added, rows, are⟩ := assigned.sessions
    intro s mem
    rw [rows] at mem
    rw [assigned.requests]
    rcases List.mem_append.mp mem with mem | mem
    · exact filed s mem
    · obtain ⟨date, _, rfl⟩ := are s mem
      rfl

theorem kept_iff_fits (before : Consistent db) (filed : Filed db) (call : Call) :
    Kept x db call ↔ Fits x db call := by
  cases call with
  | assignCoach tenantId dto now => exact assignCoach_iff x before
  | requestExtraSession tenantId studentId =>
    exact iff_of_true
      (settled_keeps before fun _ done => requestExtraSession_keeps before filed done) trivial
  | respondToExtraRequest tenantId coachId requestId dto => exact respond_iff before

theorem step_filed (filed : Filed db) (call : Call) : Filed (step x db call) := by
  cases call with
  | assignCoach tenantId dto now => exact assignCoach_filed filed
  | requestExtraSession tenantId studentId =>
    exact settled_keeps filed fun _ done => requestExtraSession_filed filed done
  | respondToExtraRequest tenantId coachId requestId dto =>
    exact settled_keeps filed fun _ done => respond_filed filed done

/-- **Coached.** Along a run the records stay consistent exactly if every call fits. -/
theorem coached_iff (start : Consistent db) (filed : Filed db) (calls : List Call) :
    Along (step x) (Kept x) db calls ↔ Along (step x) (Fits x) db calls :=
  along_iff (I := fun db => Consistent db ∧ Filed db) (D := fun _ _ => True)
    (fun _ call _ ⟨before, filed⟩ => kept_iff_fits before filed call)
    (fun _ call _ kept ⟨_, filed⟩ => ⟨kept, step_filed filed call⟩) ⟨start, filed⟩
    (along_of_forall fun _ _ => trivial)

end

instance (db : Db) (r : CoachingExtraRequest) : Decidable (Answered db r) := by
  unfold Answered
  split <;> infer_instance

instance (db : Db) : Decidable (Consistent db) :=
  decidable_of_iff
    ((∀ l ∈ db.links.rows, ∀ l' ∈ db.links.rows, l.status = .active → l'.status = .active →
        l.studentId = l'.studentId → l = l') ∧
      (∀ s ∈ db.sessions.rows, s.sessionType = .regular → ∀ t ∈ db.lastAssigned s.studentId,
        t < s.scheduledDate → ∃ l ∈ db.links.rows, l.status = .active ∧
          l.studentId = s.studentId ∧ l.coachId = s.coachId) ∧
      ∀ r ∈ db.requests.rows, Answered db r)
    ⟨fun ⟨a, b, c⟩ => ⟨a, b, c⟩, fun ⟨a, b, c⟩ => ⟨a, b, c⟩⟩

instance (x : Host) (db : Db) (call : Call) : Decidable (Kept x db call) :=
  inferInstanceAs (Decidable (Consistent _))

instance (x : Host) (coachId : Id) (dto : RespondExtraRequestDto) (db : Db) :
    Decidable (Admissible x coachId dto db) := by
  unfold Admissible
  split <;> infer_instance

instance (x : Host) (db : Db) (call : Call) : Decidable (Fits x db call) := by
  cases call <;> unfold Fits <;> infer_instance

/-! ### A student and two coaches -/

namespace Guidance

def host : Host where
  offset := 0
  date text := if text = "2026-09-10T10:00" then some 5000000000 else none
  hoursMinutes text := if text = "10:20" then some (10, 20) else none

/-- Student 1, and coaches 2 and 3. -/
def db : Db where
  users := ⟨[⟨1⟩, ⟨2⟩, ⟨3⟩], by decide, by decide⟩

def assign (coachId : Id) (now : Instant) : Call := .assignCoach 1 ⟨1, coachId, some 3, none⟩ now

def respond (status : RespondStatus) : Call :=
  .respondToExtraRequest 1 2 1 ⟨status, some "2026-09-10T10:00"⟩

end Guidance

open Guidance

/-- A coach, an extra session, and long after the four sessions another coach. -/
theorem coached_guidance : Along (step Guidance.host) (Kept Guidance.host) Guidance.db
    [assign 2 0, .requestExtraSession 1 1, respond .rejected, respond .approved,
      assign 3 10000000000] :=
  (coached_iff (by decide) (by decide) _).mpr (by decide +kernel)

/-- Another coach while sessions are to come; and a request approved twice, or rejected after it
was approved. -/
theorem not_coached :
    (¬ Along (step Guidance.host) (Kept Guidance.host) Guidance.db [assign 2 0, assign 3 1]) ∧
      (¬ Along (step Guidance.host) (Kept Guidance.host) Guidance.db
        [assign 2 0, .requestExtraSession 1 1, respond .approved, respond .approved]) ∧
      ¬ Along (step Guidance.host) (Kept Guidance.host) Guidance.db
        [assign 2 0, .requestExtraSession 1 1, respond .approved, respond .rejected] := by
  refine ⟨?_, ?_, ?_⟩ <;> decide +kernel

end Rokad.Coaching
