import Rokad.Base.Secrets
import Rokad.Audit.Service

/-!
# What the audit log keeps of a request

`AuditLogInterceptor` and its `sanitizeBody`, which blanks five names among the entries of the body.
The secrets of a body are the strings under these names and under those that the requests for a
password give to theirs. They stay out of the log exactly if each stands within an entry of the body
that has one of the five (`newValues_alike_iff`).

The handler does not change the body.
-/

namespace Rokad.Base

/-- What stands between the slashes of a text. -/
def Files.segments (s : String) : List String := (s.toList.splitOn '/').map String.ofList

end Rokad.Base

namespace Rokad.Audit

open Rokad.Base Rokad.Base.Json

/-! ### The interceptor -/

/-- What the interceptor reads of a request: `tenant` and `user` are the ids. -/
structure HttpRequest where
  (method url : String)
  (user tenant tenantId : Option String := none)
  body : Option Json := none
  (ip forwardedFor userAgent : Option String := none)

def extractEntity (url : String) : String :=
  let parts := (Files.segments url).filter (· ≠ "")
  ((truthy parts[2]?).or (truthy parts[1]?)).getD "GENERAL"

def sensitiveFields : List String := ["password", "passwordHash", "token", "refreshToken", "secret"]

def redactField (sanitized : List (String × Json)) (field : String) : List (String × Json) :=
  if sanitized.any (·.1 = field) then setEntry sanitized field (.str "***REDACTED***")
  else sanitized

def sanitizeBody (body : Json) : Json :=
  match body with
  | .obj _ | .arr _ => .obj (sensitiveFields.foldl redactField body.spread)
  | value => value

/-- `body ? this.sanitizeBody(body) : undefined` -/
def keptOfBody (body : Option Json) : Option Json := (body.filter Json.truthy).map sanitizeBody

/-- `tenant?.id || request.tenantId` -/
def HttpRequest.tenantOf (request : HttpRequest) : Option String :=
  (Base.truthy request.tenant).or request.tenantId

def intercept (request : HttpRequest) (answered : Bool) : Option CreateAuditLogDto :=
  if request.method ∈ ["GET", "HEAD", "OPTIONS"] then none
  else if answered then
    (Base.truthy request.tenantOf).map fun tenantId =>
      { tenantId, userId := request.user, action := request.method ++ " " ++ request.url,
        entity := extractEntity request.url, newValues := keptOfBody request.body,
        ipAddress := (Base.truthy request.ip).or request.forwardedFor,
        userAgent := request.userAgent }
  else none

/-! ### What is redacted -/

def redactEntry (fields : List String) (entry : String × Json) : String × Json :=
  if entry.1 ∈ fields then (entry.1, .str "***REDACTED***") else entry

theorem redactField_eq (entries : List (String × Json)) (field : String) :
    redactField entries field = entries.map (redactEntry [field]) := by
  unfold redactField setEntry
  split_ifs with present
  · refine List.map_congr_left fun entry _ => ?_
    by_cases named : entry.1 = field <;> simp [redactEntry, named]
  · refine (List.map_id entries).symm.trans (List.map_congr_left fun entry mem => ?_)
    have other : entry.1 ∉ [field] := fun named =>
      present (List.any_eq_true.mpr ⟨entry, mem, by simpa using named⟩)
    exact (if_neg other).symm

theorem foldl_redactField (fields : List String) (entries : List (String × Json)) :
    fields.foldl redactField entries = entries.map (redactEntry fields) := by
  induction fields generalizing entries with
  | nil => exact (List.map_id entries).symm.trans (List.map_congr_left fun _ _ => rfl)
  | cons field fields ih =>
    rw [List.foldl_cons, ih, redactField_eq, List.map_map]
    refine List.map_congr_left fun entry _ => ?_
    by_cases named : entry.1 = field
    · by_cases again : entry.1 ∈ fields <;> simp [redactEntry, named]
    · simp [redactEntry, named]

/-- The names of the items of a list are numbers. -/
theorem redactEntry_index (i : ℕ) (item : Json) :
    redactEntry sensitiveFields (toString i, item) = (toString i, item) := by
  refine if_neg fun (mem : toString i ∈ sensitiveFields) => ?_
  have letters : ∀ field ∈ sensitiveFields, field.toList.all Char.isDigit = false := by decide
  have digits : (toString i).toList.all Char.isDigit = true := List.all_eq_true.mpr fun c mem => by
    rw [show toString i = Nat.repr i from rfl, Nat.toList_repr] at mem
    exact Nat.isDigit_of_mem_toDigits (by decide) (by decide) mem
  rw [letters _ mem] at digits
  cases digits

theorem sanitizeBody_obj (entries : List (String × Json)) :
    sanitizeBody (.obj entries) = .obj (entries.map (redactEntry sensitiveFields)) :=
  congrArg Json.obj (foldl_redactField _ _)

theorem sanitizeBody_arr (items : List Json) :
    sanitizeBody (.arr items) = .obj (items.mapIdx fun i item => (toString i, item)) := by
  refine congrArg Json.obj ?_
  rw [foldl_redactField, Json.spread]
  refine (List.map_congr_left fun entry mem => ?_).trans (List.map_id _)
  obtain ⟨i, inside, rfl⟩ := List.mem_mapIdx.mp mem
  exact redactEntry_index i _

/-! ### Secrets -/

/-- The names that hold credentials: the five, and those of `ChangePasswordDto`, `RegisterSchoolDto`
and `VerifyTwoFactorDto`. -/
def isSecret (name : String) : Bool :=
  name ∈ sensitiveFields ++ ["oldPassword", "newPassword", "adminPassword", "tempToken"]

/-- Each secret stands within an entry that is redacted. -/
def Covered : Json → Prop
  | .obj entries => ∀ entry ∈ entries,
      entry.1 ∈ sensitiveFields ∨ holdsSecret isSecret (isSecret entry.1) entry.2 = false
  | body => holdsSecret isSecret false body = false

theorem redactEntry_alike_iff {entry : String × Json} :
    (∀ value, Alike isSecret (isSecret entry.1) entry.2 value →
      redactEntry sensitiveFields (entry.1, value) = redactEntry sensitiveFields entry) ↔
    entry.1 ∈ sensitiveFields ∨ holdsSecret isSecret (isSecret entry.1) entry.2 = false := by
  by_cases sensitive : entry.1 ∈ sensitiveFields
  · simp [redactEntry, sensitive]
  · simp only [redactEntry, sensitive, if_false, false_or, ← alike_only_iff]
    refine forall₂_congr fun value _ => ?_
    exact Prod.ext_iff.trans (and_iff_right rfl)

/-- What is kept of the body tells nothing of its secrets exactly if each is covered. -/
theorem keptOfBody_alike_iff {body : Json} :
    (∀ body', Alike isSecret false body body' → keptOfBody (some body') = keptOfBody (some body)) ↔
      Covered body := by
  cases body with
  | obj entries =>
    have kept : ∀ entries, keptOfBody (some (.obj entries)) =
        some (.obj (entries.map (redactEntry sensitiveFields))) := fun entries =>
      congrArg some (sanitizeBody_obj entries)
    simp only [forall_alike_obj_iff, kept, Option.some.injEq, Json.obj.injEq,
      map_alikeEntries_iff, redactEntry_alike_iff, Covered]
  | arr items =>
    have kept : ∀ items, keptOfBody (some (.arr items)) =
        some (.obj (items.mapIdx fun i item => (toString i, item))) := fun items =>
      congrArg some (sanitizeBody_arr items)
    change _ ↔ holdsSecret isSecret false (.arr items) = false
    rw [← alike_only_iff, forall_alike_arr_iff, forall_alike_arr_iff]
    refine forall₂_congr fun items' _ => ?_
    rw [kept, kept, Option.some.injEq, Json.obj.injEq, Json.arr.injEq]
    refine ⟨fun same => ?_, fun same => congrArg _ same⟩
    refine List.ext_getElem? fun i => ?_
    have item := congrArg (·[i]?) same
    simp only [List.getElem?_mapIdx] at item
    exact Option.map_injective (Prod.mk_right_injective _) item
  | str s | null | bool b | num n =>
    refine iff_of_true (fun body' alike => ?_) rfl
    rw [(eq_of_alike rfl alike : _ = body')]

/-! ### What reaches the log -/

/-- The request leaves a row in the log. -/
def Audited (request : HttpRequest) (answered : Bool) : Prop :=
  request.method ∉ ["GET", "HEAD", "OPTIONS"] ∧ answered = true ∧
    (Base.truthy request.tenantOf).isSome = true
deriving Decidable

/-- The `newValues` of the event, if one is emitted. -/
def newValues (request : HttpRequest) (answered : Bool) : Option (Option Json) :=
  (intercept request answered).map (·.newValues)

theorem newValues_eq (request : HttpRequest) (answered : Bool) :
    newValues request answered =
      if Audited request answered then some (keptOfBody request.body) else none := by
  unfold newValues intercept Audited
  by_cases reads : request.method ∈ ["GET", "HEAD", "OPTIONS"]
  · simp [reads]
  · cases answered with
    | false => simp
    | true =>
      obtain tenant | ⟨tenantId, tenant⟩ := (Base.truthy request.tenantOf).eq_none_or_eq_some <;>
        simp [reads, tenant]

/-- Requests that differ in the secrets of their bodies leave the same in the log exactly if none is
left or each secret of the body is covered. -/
theorem newValues_alike_iff {request : HttpRequest} {answered : Bool} {body : Json} :
    (∀ body', Alike isSecret false body body' →
      newValues { request with body := some body' } answered =
        newValues { request with body := some body } answered) ↔
    ¬ Audited request answered ∨ Covered body := by
  have audited : ∀ body, newValues { request with body } answered =
      if Audited request answered then some (keptOfBody body) else none := fun body =>
    newValues_eq { request with body } answered
  by_cases logged : Audited request answered
  · simp only [audited, logged, if_true, Option.some.injEq, not_true, false_or]
    exact keptOfBody_alike_iff
  · simp [audited, logged]

namespace Password

def changePassword (newPassword : String) : HttpRequest where
  method := "POST"
  url := "/api/v1/auth/change-password"
  user := some "sara"
  tenant := some "school"
  body := some (.obj [("oldPassword", .str "Spring1404"), ("newPassword", .str newPassword)])

end Password

/-- The new password stands in the log as it was sent. -/
theorem not_newValues_alike : ¬ ∀ {request : HttpRequest} {answered : Bool} {body body' : Json},
    Alike isSecret false body body' → newValues { request with body := some body' } answered =
        newValues { request with body := some body } answered := by
  intro claim
  have same : newValues (Password.changePassword "Summer1404") true =
      newValues (Password.changePassword "Autumn1404") true :=
    @claim (Password.changePassword "") true
      (.obj [("oldPassword", .str "Spring1404"), ("newPassword", .str "Autumn1404")])
      (.obj [("oldPassword", .str "Spring1404"), ("newPassword", .str "Summer1404")])
      ⟨rfl, .inr rfl, rfl, .inl rfl, trivial⟩
  exact absurd same (by decide)

end Rokad.Audit
