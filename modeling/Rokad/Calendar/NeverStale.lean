import Rokad.Base.Run
import Rokad.Calendar.SchoolCalendar

/-!
# Working days that are current

Whether a day is a working day should follow from the tables as they are, however the day is
written. But the answer is kept for 24 hours, official holidays do not drop what is kept, and
neither does a school's holiday while Redis is out of reach (`not_current`).

As long as each change of a holiday drops what is kept of its day, or finds nothing that it could
change, every answer is that of the tables (`current_of_fits`). The day is told by its number, and
its text tells it back from the year 100 on (`getCacheKey_inj`).
-/

namespace Rokad.Calendar

open Rokad.Base Rokad.Common

/-! ### What is to be answered -/

/-- The day in Tehran, since 1970. -/
def tehranDay (t : Instant) : ℤ := (t + ((3 * 60 + 30) * 60) * 1000) / 86400000

def friday (day : ℤ) : Bool := (day + 4) % 7 = 5

def State.officialHoliday (s : State) (day : ℤ) : Option OfficialHoliday :=
  s.officialHolidays.rows.find? (·.date = day)

def State.tenantHoliday (s : State) (tenantId : Id) (day : ℤ) : Option TenantHoliday :=
  s.tenantHolidays.rows.find? fun h => h.tenantId = tenantId ∧ h.date = day

/-- Why the day is none to work on: the first that applies. -/
def reason (s : State) (tenantId : Id) (day : ℤ) : Option String :=
  (if friday day then some "تعطیلی هفتگی (جمعه)" else none) <|>
    (s.officialHoliday day).map (fun h => "تعطیل رسمی: " ++ h.titleFa) <|>
      (s.tenantHoliday tenantId day).map fun h => "تعطیل مدرسه: " ++ h.titleFa

def answer (s : State) (tenantId : Id) (day : ℤ) : WorkingDayResult where
  isWorkingDay := (reason s tenantId day).isNone
  date := dateText (civilFromDays day)
  reason := reason s tenantId day

section

variable (jalaali : Jalaali) (legacy : String → Option Instant)

/-- The day that is meant: of an instant in Tehran, of a text the Jalali day, if it has one, or else
the Gregorian. -/
inductive Denotes : DateInput → ℤ → Prop
  | date (t : Instant) : Denotes (.date (some t)) (tehranDay t)
  | jalali (s : String) (jy jm jd : ℕ) (gy gm gd : ℤ) (valid : isValidJalaliDate jalaali s = true)
      (parts : matchDate (normalizePersianDigits s) = some (jy, jm, jd))
      (same : jalaali.toGregorian jy jm jd = (gy, gm, gd)) :
      Denotes (.text s) (daysFromCivil gy gm gd)
  | gregorian (s : String) (y m d : ℤ) (other : isValidJalaliDate jalaali s = false)
      (parts : isoDay s = some (y, m, d)) : Denotes (.text s) (daysFromCivil y m d)

/-- A question is answered from the tables, and alike however the day is written. -/
def Current (s : State) (c : Call) : Prop :=
  match c.op with
  | .isWorkingDay tenantId x => ∀ day, Denotes jalaali x day →
      (isWorkingDay jalaali legacy c.up tenantId x (s.wait c.elapsed)).2 =
          .ok (answer s tenantId day) ∧
        ∀ x', Denotes jalaali x' day →
          isWorkingDay jalaali legacy c.up tenantId x' (s.wait c.elapsed) =
            isWorkingDay jalaali legacy c.up tenantId x (s.wait c.elapsed)
  | _ => True

/-! ### When nothing stale is kept -/

/-- The years from which on a date is told by its text and read as it is written. -/
def Modern (day : ℤ) : Prop := 100 ≤ (civilFromDays day).1
deriving Decidable

/-- What is kept of a day. -/
def State.kept (s : State) (tenantId : Id) (day : ℤ) : Option (Entry WorkingDayResult) :=
  s.redis.get s.now (getCacheKey tenantId (dateText (civilFromDays day)))

/-- A change of a school's holiday drops what is kept of the day, or nothing is kept, or it would be
the same. -/
def DropsOf (s : State) (tenantId : Id) (day : ℤ) (dropped : Prop) : Prop :=
  dropped ∨ s.kept tenantId day = none ∨ friday day = true ∨ s.officialHoliday day ≠ none

instance (s : State) (tenantId : Id) (day : ℤ) (dropped : Prop) [Decidable dropped] :
    Decidable (DropsOf s tenantId day dropped) :=
  inferInstanceAs (Decidable (_ ∨ _ ∨ _ ∨ _))

/-- Where an official holiday is changed nothing is kept of the day, or it would be the same. -/
def NothingKept (s : State) (day : ℤ) : Prop :=
  (∀ tenantId, s.kept tenantId day = none) ∨ friday day = true

/-- The state is that at the time of the call. -/
def Op.Fits (up : Bool) (s : State) : Op → Prop
  | .isWorkingDay _ x => ∀ t ∈ (parseDate jalaali legacy x).toOption, Modern (tehranDay t)
  | .addTenantHoliday tenantId x _ => ∀ t ∈ (parseDate jalaali legacy x).toOption,
      Modern (tehranDay t) ∧ (s.tenantHoliday tenantId (tehranDay t) = none →
        DropsOf s tenantId (tehranDay t) (up = true ∧
          normalizeDateOnly jalaali legacy (.text (dateOnly t).dateStr) = .ok (dateOnly t)))
  | .removeTenantHoliday tenantId id =>
    ∀ h ∈ (s.tenantHolidays.find? id).filter (·.tenantId = tenantId),
      DropsOf s tenantId h.date (up = true)
  | .addOfficialHoliday x _ => ∀ t ∈ (parseDate jalaali legacy x).toOption,
      Modern (tehranDay t) ∧ (s.officialHoliday (tehranDay t) = none → NothingKept s (tehranDay t))
  | .removeOfficialHoliday id => ∀ h ∈ s.officialHolidays.find? id, NothingKept s h.date

def Fits (s : State) (c : Call) : Prop := c.op.Fits jalaali legacy c.up (s.wait c.elapsed)

end

/-! ### Days and their texts -/

section

variable {t : Instant} {day : ℤ}

theorem tehranDate_eq (t : Instant) : tehranDate t =
    (eraYear (civilFromDays (tehranDay t)).1, (civilFromDays (tehranDay t)).2) := by
  unfold tehranDate tehranDay
  generalize civilFromDays _ = date
  rfl

theorem tehranDate_of_modern (modern : Modern (tehranDay t)) :
    tehranDate t = civilFromDays (tehranDay t) := by
  unfold Modern at modern
  rw [tehranDate_eq]
  generalize civilFromDays (tehranDay t) = date at modern
  have positive : ¬ date.1 ≤ 0 := by omega
  rw [eraYear, if_neg positive]

theorem fullYear_of_modern (modern : Modern day) :
    fullYear (civilFromDays day).1 = (civilFromDays day).1 := by
  unfold Modern at modern
  exact if_neg (by omega)

@[simp] theorem tehranDay_ofDbDate (date : ℤ) : tehranDay (ofDbDate date) = date := by
  unfold tehranDay ofDbDate
  omega

@[simp] theorem dbDate_ofDbDate (date : ℤ) : dbDate (ofDbDate date) = date := by
  unfold dbDate ofDbDate
  omega

/-- The date of an instant is its day in Tehran. -/
theorem dateOnly_of_modern (modern : Modern (tehranDay t)) :
    dateOnly t = ⟨ofDbDate (tehranDay t), dateText (civilFromDays (tehranDay t))⟩ := by
  unfold dateOnly
  rw [tehranDate_of_modern modern]
  simp only [fullYear_of_modern modern, dateUTC_eq, (civilFromDays_spec _).2.2, ofDbDate, add_zero]

theorem dbDate_of_modern (modern : Modern (tehranDay t)) :
    dbDate (dateOnly t).dateObj = tehranDay t := by
  rw [dateOnly_of_modern modern, dbDate_ofDbDate]

theorem isFriday_of_modern (modern : Modern day) : isFriday (ofDbDate day) = friday day := by
  have here : Modern (tehranDay (ofDbDate day)) := by rwa [tehranDay_ofDbDate]
  have date : daysFromCivil (civilFromDays day).1 (civilFromDays day).2.1 1 +
      ((civilFromDays day).2.2 - 1) = day :=
    (daysFromCivil_first _ _ _).trans (civilFromDays_spec day).2.2
  unfold isFriday friday
  rw [tehranDate_of_modern here, tehranDay_ofDbDate]
  simp only [fullYear_of_modern modern, date]
  exact decide_eq_decide.mpr (by omega)

/-- The tables are asked for the day. -/
theorem lookUp_of_modern (s : State) (tenantId : Id) (modern : Modern (tehranDay t)) :
    lookUp s tenantId (dateOnly t) = answer s tenantId (tehranDay t) := by
  unfold lookUp answer reason State.officialHoliday State.tenantHoliday
  rw [dateOnly_of_modern modern]
  simp only [isFriday_of_modern modern, dbDate_ofDbDate]
  split
  · rfl
  · cases s.officialHolidays.rows.find? (·.date = tehranDay t) with
    | some h => rfl
    | none =>
      cases s.tenantHolidays.rows.find? fun h =>
        h.tenantId = tenantId ∧ h.date = tehranDay t with
      | some h => rfl
      | none => rfl

/-- The text of a date tells the day, and the key of an answer the school and the day. -/
theorem day_of_dateText {day day' : ℤ} (modern : Modern day) (modern' : Modern day')
    (same : dateText (civilFromDays day) = dateText (civilFromDays day')) : day = day' := by
  have ranged {day : ℤ} (modern : Modern day) : Ranged (civilFromDays day) :=
    ⟨le_trans (by decide) modern, (civilFromDays_spec day).1, (civilFromDays_spec day).2.1⟩
  have date := dateText_inj (ranged modern) (ranged modern') same
  rw [← (civilFromDays_spec day).2.2, date, (civilFromDays_spec day').2.2]

theorem getCacheKey_inj {tenantId tenantId' : Id} {day day' : ℤ} (modern : Modern day)
    (modern' : Modern day') (same : getCacheKey tenantId (dateText (civilFromDays day)) =
      getCacheKey tenantId' (dateText (civilFromDays day'))) :
    tenantId = tenantId' ∧ day = day' := by
  unfold getCacheKey at same
  generalize "rokad:calendar:working-day:" = start at same
  have letters := congrArg String.toList same
  have colon : ":".toList = [':'] := by decide
  simp only [String.toList_append, List.append_assoc, List.append_cancel_left_eq, colon,
    List.singleton_append] at letters
  have ids := congrArg (List.takeWhile Char.isDigit) letters
  rw [takeWhile_isDigit_toString, takeWhile_isDigit_toString] at ids
  rw [ids] at letters
  have dates := (List.cons.inj (List.append_cancel_left letters)).2
  exact ⟨eq_of_toString_eq (String.ext ids), day_of_dateText modern modern' (String.ext dates)⟩

end

section

variable {jalaali : Jalaali} {legacy : String → Option Instant} {s s' : State} {tenantId : Id}
  {day : ℤ} {x : DateInput} {t : Instant} {up : Bool}

theorem isValidJalaliDate_normalize (jalaali : Jalaali) (text : String) :
    isValidJalaliDate jalaali (normalizePersianDigits text) = isValidJalaliDate jalaali text := by
  simp only [isValidJalaliDate, normalizePersianDigits_idem]

variable (legacy) in
/-- What a date denotes is the day of the instant that it is read as. -/
theorem parseDate_of_denotes (denotes : Denotes jalaali x day) :
    ∃ t, parseDate jalaali legacy x = .ok t ∧ tehranDay t = day := by
  cases denotes with
  | date t => exact ⟨t, rfl, rfl⟩
  | jalali text jy jm jd gy gm gd valid parts same =>
    have nonempty : DateInput.text text ≠ .text "" := fun empty => by
      cases empty
      have nothing : matchDate (normalizePersianDigits "") = none := by decide +kernel
      rw [nothing] at parts
      cases parts
    have noon : tehranDay (dateUTC gy gm gd (((8 * 60 + 30) * 60) * 1000)) =
        daysFromCivil gy gm gd := by
      rw [dateUTC_eq]
      unfold tehranDay
      omega
    refine ⟨_, ?_, noon⟩
    have again : isValidJalaliDate jalaali (normalizePersianDigits text) = true :=
      (isValidJalaliDate_normalize jalaali text).trans valid
    simp only [parseDate, jalaliToGregorianDate, require, if_pos nonempty, again, if_true, bind,
      Except.bind, normalizePersianDigits_idem, parts, same, pure, Except.pure, orFail]
  | gregorian text y m d other parts =>
    have nonempty : DateInput.text text ≠ .text "" := fun empty => by
      cases empty
      have nothing : isoDay "" = none := by decide +kernel
      rw [nothing] at parts
      cases parts
    have midnight : tehranDay (dateUTC y m d 0) = daysFromCivil y m d := by
      rw [dateUTC_eq]
      unfold tehranDay
      omega
    refine ⟨_, ?_, midnight⟩
    have again : isValidJalaliDate jalaali (normalizePersianDigits text) = false :=
      (isValidJalaliDate_normalize jalaali text).trans other
    simp only [parseDate, require, if_pos nonempty, again, bind, Except.bind, newDate, parts,
      pure, Except.pure, orFail, Bool.false_eq_true, if_false]

/-- No answer that is kept differs from that of the tables. -/
def Fresh (s : State) : Prop :=
  ∀ tenantId day, Modern day → ∀ e, s.kept tenantId day = some e → e.value = answer s tenantId day

theorem fresh_of_empty (empty : s.redis = .empty) : Fresh s := by
  intro tenantId day _ e here
  rw [State.kept, empty] at here
  cases here

theorem kept_wait {e : Entry WorkingDayResult} {elapsed : ℕ}
    (here : (s.wait elapsed).kept tenantId day = some e) : s.kept tenantId day = some e := by
  obtain ⟨stored, live⟩ := Expiring.get_eq_some_iff.mp here
  refine Expiring.get_eq_some_iff.mpr ⟨stored, ?_⟩
  by_contra ended
  have later := Entry.live_eq_false (Bool.eq_false_iff.mpr ended) (Nat.le_add_right s.now elapsed)
  exact Bool.eq_false_iff.mp later live

theorem Fresh.wait (fresh : Fresh s) (elapsed : ℕ) : Fresh (s.wait elapsed) :=
  fun tenantId day modern e here => fresh tenantId day modern e (kept_wait here)

/-- Where less is kept, and of what is kept the answer is the same. -/
theorem Fresh.change (fresh : Fresh s)
    (less : ∀ tenantId day e, s'.kept tenantId day = some e → s.kept tenantId day = some e)
    (same : ∀ tenantId day, Modern day → s'.kept tenantId day ≠ none →
      answer s' tenantId day = answer s tenantId day) : Fresh s' := by
  intro tenantId day modern e here
  rw [same tenantId day modern (by simp [here])]
  exact fresh tenantId day modern e (less tenantId day e here)

theorem answer_congr (official : s'.officialHoliday day = s.officialHoliday day)
    (tenant : s'.tenantHoliday tenantId day = s.tenantHoliday tenantId day) :
    answer s' tenantId day = answer s tenantId day := by
  simp only [answer, reason, official, tenant]

theorem answer_of_friday (ends : friday day = true) :
    answer s' tenantId day = answer s tenantId day := by
  simp only [answer, reason, ends, if_true]
  rfl

theorem answer_of_official (official : s'.officialHoliday day = s.officialHoliday day)
    (holiday : s.officialHoliday day ≠ none) :
    answer s' tenantId day = answer s tenantId day := by
  obtain ⟨h, here⟩ := Option.ne_none_iff_exists'.mp holiday
  cases ends : friday day
  · simp only [answer, reason, official, here, ends, Bool.false_eq_true, if_false, Option.map_some]
    rfl
  · exact answer_of_friday ends

/-- The keys of a table that is invalidated only get fewer. -/
theorem kept_invalidate {e : Entry WorkingDayResult} {x : DateInput} {of : Id}
    (here : (invalidateWorkingDayCache jalaali legacy up of x s).kept tenantId day = some e) :
    s.kept tenantId day = some e := by
  unfold invalidateWorkingDayCache State.uncache at here
  split at here
  · split at here
    · simp only [State.kept, Expiring.get] at here ⊢
      rename_i date _ _
      by_cases same : getCacheKey tenantId (dateText (civilFromDays day)) =
          getCacheKey of date.dateStr
      · rw [same, Expiring.del_self] at here
        cases here
      · rwa [Expiring.del_of_ne same] at here
    · exact here
  · exact here

theorem invalidate_tables (x : DateInput) (of : Id) :
    (invalidateWorkingDayCache jalaali legacy up of x s).officialHolidays = s.officialHolidays ∧
      (invalidateWorkingDayCache jalaali legacy up of x s).tenantHolidays = s.tenantHolidays := by
  unfold invalidateWorkingDayCache State.uncache
  split
  · split <;> exact ⟨rfl, rfl⟩
  · exact ⟨rfl, rfl⟩

theorem kept_invalidated (modern : Modern (tehranDay t))
    (day : normalizeDateOnly jalaali legacy x = .ok (dateOnly t)) :
    (invalidateWorkingDayCache jalaali legacy true tenantId x s).kept tenantId (tehranDay t) =
      none := by
  simp only [invalidateWorkingDayCache, day, State.uncache, if_true, State.kept, Expiring.get,
    dateOnly_of_modern modern, Expiring.del_self, Option.filter_none]

/-- A change of one school's holiday on one day. -/
theorem Fresh.tenantChange (fresh : Fresh s) {dropped : Prop}
    (less : ∀ tenantId day e, s'.kept tenantId day = some e → s.kept tenantId day = some e)
    (official : s'.officialHolidays = s.officialHolidays)
    (others : ∀ of on, ¬ (of = tenantId ∧ on = day) → s'.tenantHoliday of on = s.tenantHoliday of on)
    (drops : DropsOf s tenantId day dropped)
    (gone : dropped → Modern day → s'.kept tenantId day = none) : Fresh s' := by
  refine fresh.change less fun of on modern kept => ?_
  have sameOfficial : s'.officialHoliday on = s.officialHoliday on := by
    simp only [State.officialHoliday, official]
  by_cases own : of = tenantId ∧ on = day
  · obtain ⟨rfl, rfl⟩ := own
    rcases drops with dropped | none | ends | holiday
    · exact absurd (gone dropped modern) kept
    · obtain ⟨e, here⟩ := Option.ne_none_iff_exists'.mp kept
      rw [less of on e here] at none
      cases none
    · exact answer_of_friday ends
    · exact answer_of_official sameOfficial holiday
  · exact answer_congr sameOfficial (others of on own)

/-- A change of an official holiday. -/
theorem Fresh.officialChange (fresh : Fresh s) (redis : s'.redis = s.redis) (now : s'.now = s.now)
    (tenant : s'.tenantHolidays = s.tenantHolidays)
    (others : ∀ on, on ≠ day → s'.officialHoliday on = s.officialHoliday on)
    (nothing : NothingKept s day) : Fresh s' := by
  have same : ∀ of on, s'.kept of on = s.kept of on := fun of on => by
    simp only [State.kept, redis, now]
  refine fresh.change (fun of on e here => (same of on).symm.trans here) fun of on modern kept => ?_
  by_cases own : on = day
  · subst own
    rcases nothing with none | ends
    · exact absurd ((same of on).trans (none of)) kept
    · exact answer_of_friday ends
  · refine answer_congr (others on own) ?_
    simp only [State.tenantHoliday, tenant]

theorem find?_filter_eq {α : Type} {l : List α} {p q : α → Bool}
    (stays : ∀ a ∈ l, p a = true → q a = true) : (l.filter q).find? p = l.find? p := by
  induction l with
  | nil => rfl
  | cons a l ih =>
    have rest := ih fun b mem => stays b (List.mem_cons_of_mem a mem)
    by_cases meets : p a = true
    · rw [List.filter_cons_of_pos (stays a List.mem_cons_self meets), List.find?_cons_of_pos meets,
        List.find?_cons_of_pos meets]
    · rw [List.find?_cons_of_neg meets, List.filter_cons]
      split
      · rw [List.find?_cons_of_neg meets, rest]
      · exact rest

theorem normalizeDateOnly_eq_ok {date : DateOnly} :
    normalizeDateOnly jalaali legacy x = .ok date ↔
      ∃ t, parseDate jalaali legacy x = .ok t ∧ dateOnly t = date := by
  simp only [normalizeDateOnly, do_eq_ok]

/-- The answer is kept under a key of its own. -/
theorem Fresh.cache (fresh : Fresh s) (modern : Modern day) :
    Fresh (s.cache true (getCacheKey tenantId (dateText (civilFromDays day)))
      (answer s tenantId day)) := by
  intro of on modern' e there
  by_cases same : getCacheKey of (dateText (civilFromDays on)) =
      getCacheKey tenantId (dateText (civilFromDays day))
  · obtain ⟨rfl, rfl⟩ := getCacheKey_inj modern' modern same
    have stored := (Expiring.get_eq_some_iff.mp there).1
    simp only [State.cache, if_true, Expiring.set_self] at stored
    cases stored
    rfl
  · refine fresh of on modern' e ((Expiring.get_congr ?_).symm.trans there)
    exact Expiring.set_of_ne same

/-- A question is answered from the tables, and what is kept of it is the answer. -/
theorem isWorkingDay_spec (fresh : Fresh s) (parsed : parseDate jalaali legacy x = .ok t)
    (modern : Modern (tehranDay t)) :
    (isWorkingDay jalaali legacy up tenantId x s).2 = .ok (answer s tenantId (tehranDay t)) ∧
      Fresh (isWorkingDay jalaali legacy up tenantId x s).1 := by
  have date := normalizeDateOnly_eq_ok.mpr ⟨t, parsed, rfl⟩
  have key : (dateOnly t).dateStr = dateText (civilFromDays (tehranDay t)) := by
    rw [dateOnly_of_modern modern]
  unfold isWorkingDay
  rw [date]
  dsimp only
  rw [key, lookUp_of_modern s tenantId modern]
  unfold State.cached
  cases up with
  | false => exact ⟨rfl, fresh⟩
  | true =>
    simp only [if_true]
    cases here : s.redis.get s.now
      (getCacheKey tenantId (dateText (civilFromDays (tehranDay t)))) with
    | some e => exact ⟨congrArg _ (fresh tenantId (tehranDay t) modern e here), fresh⟩
    | none => exact ⟨rfl, fresh.cache modern⟩

/-- How a date is written makes no difference. -/
theorem isWorkingDay_congr {x' : DateInput} (denotes : Denotes jalaali x day)
    (denotes' : Denotes jalaali x' day) :
    isWorkingDay jalaali legacy up tenantId x' s = isWorkingDay jalaali legacy up tenantId x s := by
  obtain ⟨t, parsed, ofDay⟩ := parseDate_of_denotes legacy denotes
  obtain ⟨t', parsed', ofDay'⟩ := parseDate_of_denotes legacy denotes'
  have dates : dateOnly t' = dateOnly t := by
    simp only [dateOnly, tehranDate_eq, ofDay, ofDay']
  unfold isWorkingDay
  rw [normalizeDateOnly_eq_ok.mpr ⟨t, parsed, rfl⟩,
    normalizeDateOnly_eq_ok.mpr ⟨t', parsed', dates⟩]

section

variable (fresh : Fresh s)
include fresh

theorem Fresh.keep {changed : Result State}
    (after : ∀ s', changed = .ok s' → Fresh s') : Fresh (keep s changed) := by
  cases changed with
  | ok s' => exact after s' rfl
  | error e => exact fresh

theorem addTenantHoliday_fresh {titleFa : String}
    (fits : (Op.addTenantHoliday tenantId x titleFa).Fits jalaali legacy up s)
    (done : addTenantHoliday jalaali legacy up tenantId x titleFa s = .ok s') : Fresh s' := by
  simp only [addTenantHoliday, bind_eq_ok, normalizeDateOnly_eq_ok] at done
  obtain ⟨_, ⟨t, parsed, rfl⟩, done⟩ := done
  obtain ⟨modern, drops⟩ := fits t (by rw [parsed]; rfl)
  rw [dbDate_of_modern modern] at done
  split at done
  · cases done
  · rename_i free
    simp only [do_eq_ok, insertRow_eq_ok] at done
    obtain ⟨tenantHolidays, inserted, rfl⟩ := done
    have rows := (insert_spec.mp inserted).1
    refine fresh.tenantChange (fun of on e here => ?_) (invalidate_tables _ _).1
      (fun of on other => ?_) (drops free) fun dropped modern => ?_
    · have there := kept_invalidate here
      exact there
    · rw [State.tenantHoliday, (invalidate_tables _ _).2, rows, List.find?_append,
        List.find?_singleton, if_neg, Option.or_none]
      · rfl
      · intro same
        obtain ⟨ofSchool, onDay⟩ := of_decide_eq_true same
        exact other ⟨ofSchool.symm, onDay.symm⟩
    · obtain ⟨rfl, day⟩ := dropped
      exact kept_invalidated modern day

theorem removeTenantHoliday_fresh {id : Id}
    (fits : (Op.removeTenantHoliday tenantId id).Fits jalaali legacy up s)
    (done : removeTenantHoliday jalaali legacy up tenantId id s = .ok s') : Fresh s' := by
  simp only [removeTenantHoliday, do_eq_ok] at done
  obtain ⟨h, found, rfl⟩ := done
  have drops := fits h found
  obtain ⟨stored, own⟩ := Option.filter_eq_some_iff.mp found
  have ofSchool : h.tenantId = tenantId := of_decide_eq_true own
  refine fresh.tenantChange (fun of on e here => ?_) (invalidate_tables _ _).1
    (fun of on other => ?_) drops fun dropped modern => ?_
  · have there := kept_invalidate here
    exact there
  · rw [State.tenantHoliday, (invalidate_tables _ _).2]
    refine find?_filter_eq fun row mem meets => ?_
    obtain ⟨rowSchool, rowDay⟩ := of_decide_eq_true meets
    simp only [Bool.not_eq_true', decide_eq_false_iff_not]
    intro same
    have row' : s.tenantHolidays.find? row.id = some row := find?_key _ mem
    rw [same, stored] at row'
    cases row'
    exact other ⟨rowSchool.symm.trans ofSchool, rowDay.symm⟩
  · subst dropped
    have here : Modern (tehranDay (ofDbDate h.date)) := by rwa [tehranDay_ofDbDate]
    have date : normalizeDateOnly jalaali legacy (.date (some (ofDbDate h.date))) =
      .ok (dateOnly (ofDbDate h.date)) := rfl
    have gone (s : State) : (invalidateWorkingDayCache jalaali legacy true tenantId
        (.date (some (ofDbDate h.date))) s).kept tenantId (tehranDay (ofDbDate h.date)) = none :=
      kept_invalidated here date
    rw [tehranDay_ofDbDate] at gone
    exact gone _

theorem addOfficialHoliday_fresh {titleFa : String}
    (fits : (Op.addOfficialHoliday x titleFa).Fits jalaali legacy up s)
    (done : addOfficialHoliday jalaali legacy x titleFa s = .ok s') : Fresh s' := by
  simp only [addOfficialHoliday, bind_eq_ok, normalizeDateOnly_eq_ok] at done
  obtain ⟨_, ⟨t, parsed, rfl⟩, done⟩ := done
  obtain ⟨modern, nothing⟩ := fits t (by rw [parsed]; rfl)
  rw [dbDate_of_modern modern] at done
  split at done
  · cases done
  · rename_i free
    simp only [do_eq_ok, insertRow_eq_ok] at done
    obtain ⟨officialHolidays, inserted, rfl⟩ := done
    have rows := (insert_spec.mp inserted).1
    refine fresh.officialChange rfl rfl rfl (fun on other => ?_) (nothing free)
    rw [State.officialHoliday, rows, List.find?_append, List.find?_singleton, if_neg,
      Option.or_none]
    · rfl
    · exact fun same => other (of_decide_eq_true same).symm

theorem removeOfficialHoliday_fresh {id : Id}
    (fits : (Op.removeOfficialHoliday id).Fits jalaali legacy up s)
    (done : removeOfficialHoliday id s = .ok s') : Fresh s' := by
  simp only [removeOfficialHoliday, do_eq_ok] at done
  obtain ⟨h, stored, rfl⟩ := done
  refine fresh.officialChange rfl rfl rfl (fun on other => ?_) (fits h stored)
  refine find?_filter_eq fun row mem meets => ?_
  have rowDay : row.date = on := of_decide_eq_true meets
  simp only [Bool.not_eq_true', decide_eq_false_iff_not]
  intro same
  have row' : s.officialHolidays.find? row.id = some row := find?_key _ mem
  rw [same, stored] at row'
  cases row'
  exact other rowDay.symm

theorem step_spec {c : Call} (fits : Fits jalaali legacy s c) :
    Current jalaali legacy s c ∧ Fresh (step jalaali legacy s c) := by
  have later := fresh.wait c.elapsed
  obtain ⟨op, up, elapsed⟩ := c
  cases op with
  | isWorkingDay tenantId x =>
    constructor
    · intro day denotes
      obtain ⟨t, parsed, rfl⟩ := parseDate_of_denotes legacy denotes
      have modern := fits t (by rw [parsed]; rfl)
      exact ⟨(isWorkingDay_spec later parsed modern).1,
        fun x' denotes' => isWorkingDay_congr denotes denotes'⟩
    · show Fresh (isWorkingDay jalaali legacy up tenantId x (s.wait elapsed)).1
      cases parsed : parseDate jalaali legacy x with
      | ok t => exact (isWorkingDay_spec later parsed (fits t (by rw [parsed]; rfl))).2
      | error e =>
        have failed : normalizeDateOnly jalaali legacy x = .error e := by
          rw [normalizeDateOnly, parsed]
          rfl
        rw [isWorkingDay, failed]
        exact later
  | addTenantHoliday tenantId x titleFa =>
    exact ⟨trivial, later.keep fun s' done => addTenantHoliday_fresh later fits done⟩
  | removeTenantHoliday tenantId id =>
    exact ⟨trivial, later.keep fun s' done => removeTenantHoliday_fresh later fits done⟩
  | addOfficialHoliday x titleFa =>
    exact ⟨trivial, later.keep fun s' done => addOfficialHoliday_fresh later fits done⟩
  | removeOfficialHoliday id =>
    exact ⟨trivial, later.keep fun s' done => removeOfficialHoliday_fresh later fits done⟩

end

/-- **Every answer is current.** Where no call leaves an answer behind that it changes, each
question is answered from the tables as they are, however the day is written. -/
theorem current_of_fits (fresh : Fresh s) {calls : List Call}
    (fits : Along (step jalaali legacy) (Fits jalaali legacy) s calls) :
    Along (step jalaali legacy) (Current jalaali legacy) s calls := by
  refine along_of_step (fun s c (fits : Fits jalaali legacy s c) (fresh : Fresh s) => ?_) fresh fits
  exact step_spec fresh fits

end

/-! ### A school year

The calendar of 1404, which begins on 2025-03-21 and is no leap year, and a host that reads no other
texts. -/

namespace Year

def jalaali : Jalaali where
  jalaaliMonthLength _ jm := CommonYear.monthLength jm
  isValidJalaaliDate _ jm jd := jd ≤ CommonYear.monthLength jm
  toGregorian _ jm jd := civilFromDays (daysFromCivil 2025 3 21 + CommonYear.dayOfYear jm jd - 1)

def host (_ : String) : Option Instant := none

/-- A call a minute after the last one. -/
def call (op : Op) (up : Bool := true) : Call := ⟨op, up, 60000⟩

def ask (x : DateInput) : Call := call (.isWorkingDay 1 x)

/-- A Saturday in Ordibehesht, late in its first hour. -/
def saturday : Instant := dateUTC 2025 5 9 ((21 * 60 + 20) * 60000)

example : (isWorkingDay jalaali host true 1 (.date (some saturday)) {}).2 =
    (isWorkingDay jalaali host true 1 (.text "1404-02-20") {}).2 := by
  decide +kernel

end Year

open Year

/-- A day is asked for, made a holiday of the school, and asked for again. -/
theorem current_year : Along (step jalaali host) (Current jalaali host) {}
      [call (.addOfficialHoliday (.text "1404-03-14") "رحلت"), ask (.text "1404-02-20"),
        call (.addTenantHoliday 1 (.text "2025-05-10") "اردو"), ask (.date (some saturday))] := by
  refine current_of_fits (fresh_of_empty rfl) ⟨fun t parsed => ?_, ?_, ?_, ?_, trivial⟩
  · have day : (parseDate jalaali host (.text "1404-03-14")).toOption =
        some (dateUTC 2025 6 4 30600000) := by decide +kernel
    rw [day] at parsed
    cases parsed
    exact ⟨by decide +kernel, fun _ => Or.inl fun tenantId => rfl⟩
  · dsimp only [Fits, Op.Fits, ask, call]
    decide +kernel
  · dsimp only [Fits, Op.Fits, call]
    decide +kernel
  · dsimp only [Fits, Op.Fits, ask, call]
    decide +kernel

/-- An official holiday leaves the answers that are kept, and a school's holiday, too, while Redis
is out of reach. -/
theorem not_current : (¬ Along (step jalaali host) (Current jalaali host) {}
      [ask (.text "2025-05-10"), call (.addOfficialHoliday (.text "1404-02-20") "رسمی"),
        ask (.text "2025-05-10")]) ∧
    ¬ Along (step jalaali host) (Current jalaali host) {}
      [ask (.text "2025-05-10"), call (.addTenantHoliday 1 (.text "1404-02-20") "اردو") false,
        ask (.text "2025-05-10")] := by
  have denotes : Denotes jalaali (.text "2025-05-10") (daysFromCivil 2025 5 10) :=
    .gregorian _ _ _ _ (by decide +kernel) (by decide +kernel)
  constructor
  · intro law
    exact absurd (law.2.2.1 _ denotes).1 (by decide +kernel)
  · intro law
    exact absurd (law.2.2.1 _ denotes).1 (by decide +kernel)

end Rokad.Calendar
