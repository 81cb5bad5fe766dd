import Rokad.Tenancy.Query

/-!
# The tenant extension

The hook on every operation of every model. It hides deleted rows from some reads, and confines
the operations it knows, on the models it knows, to the tenant of the request. What it does not
know it passes on.

`isolated_iff` says for which queries a tenant is isolated: those the hook confines and that do
not write another tenant into a row, and those that were confined as they came.
-/

namespace Rokad.Tenancy

open Rokad.Base Rokad.Common

/-! ### Models -/

/-- The models of the schema that have a `tenantId`. -/
def TENANT_MODELS : List Model :=
  ["User", "RefreshTokenFamily", "TenantFeatureFlag", "AuditLog", "UserSession", "AcademicYear",
    "Term", "EducationalLevel", "StudyField", "Lesson", "Classroom", "ClassEnrollment",
    "ClassSchedule", "SchoolRole", "UserSchoolRole", "UserPermissionOverride", "StudentProfile",
    "TeacherProfile", "TeacherLesson", "CoachProfile", "StaffProfile", "ParentProfile",
    "ParentStudentLink", "ProfileBlog", "ProfileBlogLike", "ProfileBlogComment", "SchoolProfile",
    "StudentAttendance", "TeacherAttendance", "Homework", "HomeworkSubmission", "SchoolEvent",
    "TenantHoliday", "Poll", "PollVote", "ParentVisitSlot", "ParentVisitBooking",
    "DisciplinaryMatter", "LessonPlan", "QuestionCategory", "Question", "Exam", "ExamClassroom",
    "ExamParticipation", "GradeEntry", "Podman", "PodmanGrade", "CourseMaterial",
    "MaterialClassroom", "ChatChannel", "ChatChannelMember", "ChatMessage", "FeePlan",
    "StudentFeeContract", "FeeInstallment", "PaymentTransaction", "FeePayment", "FeeReceipt",
    "StaffPayrollProfile", "TeacherContract", "PayrollAdjustment", "PayrollSlip", "PayrollItem",
    "TenantSubscription", "StudentCoachLink", "CoachingSession", "CoachingExtraRequest",
    "AcademicMessage", "AcademicMessageRecipient", "KaActivity", "KaStudentActivity", "KaReward",
    "KaStudentReward", "SmsLog", "SmsTemplate", "SmsGatewayConfig", "SmsQuickTemplate",
    "ClubMembership", "ClubRoadmapMilestone", "ClubStudentMilestoneProgress", "ClubChallenge",
    "ClubChallengeSubmission", "ClubSubmissionReport"]

def TENANT_BOUND_MODELS : List Model :=
  ["User", "RefreshTokenFamily", "TenantFeatureFlag", "AuditLog", "AcademicYear", "Term",
    "EducationalLevel", "StudyField", "Lesson", "Classroom", "ClassEnrollment", "ClassSchedule",
    "SchoolRole", "UserSchoolRole", "StudentProfile", "TeacherProfile", "CoachProfile",
    "StaffProfile", "ParentProfile", "ParentStudentLink", "ProfileBlog", "SchoolProfile",
    "StudentAttendance", "TeacherAttendance", "Homework", "HomeworkSubmission", "SchoolEvent",
    "Poll", "PollVote", "ParentVisitSlot", "ParentVisitBooking", "DisciplinaryMatter",
    "LessonPlan", "QuestionCategory", "Question", "Exam", "ExamClassroom", "ExamParticipation",
    "GradeEntry", "Podman", "PodmanGrade", "CourseMaterial", "MaterialClassroom", "ChatChannel",
    "ChatChannelMember", "ChatMessage", "StudentFeeContract", "FeeInstallment",
    "PaymentTransaction", "FeeReceipt", "StaffPayrollProfile", "PayrollSlip", "PayrollItem",
    "TeacherContract", "PayrollAdjustment", "TenantSubscription", "ClubMembership",
    "ClubRoadmapMilestone", "ClubStudentMilestoneProgress", "ClubChallenge",
    "ClubChallengeSubmission"]

def SOFT_DELETE_MODELS : List Model :=
  ["SchoolRole", "UserPermissionOverride", "SchoolEvent", "ProfileBlog", "ProfileBlogComment"]

/-! ### The hook -/

/-- What the store of a request holds, as far as the hook reads it. -/
structure TenantContext where
  tenantId : TenantId
  tenantType : String
  isPlatformAdmin : Option Bool := none

/-- The reads that are filtered. -/
def filteredReads : List Operation :=
  [.findFirst, .findFirstOrThrow, .findMany, .count, .aggregate, .groupBy]

/-- Deleted rows are hidden unless the filter asks for `deletedAt`. -/
def hideDeleted (model : Model) (operation : Operation) (args : Args) : Args :=
  if model ∈ SOFT_DELETE_MODELS ∧ operation ∈ filteredReads ∧ args.filter.deletedAt.isNone then
    { args with filter := { args.filter with deletedAt := some (· = none) } }
  else args

/-- The filter with the tenant in the place of whatever it had for it. -/
def Where.within (t : TenantId) (f : Where) : Where := { f with tenantId := some (· = t) }

def Data.within (t : TenantId) (d : Data) : Data := { d with tenantId := some t }

/-- The arguments for one tenant. -/
def scope (t : TenantId) (operation : Operation) (args : Args) : Args :=
  match operation with
  | .findFirst | .findFirstOrThrow | .findMany | .count | .aggregate | .groupBy =>
    { args with filter := args.filter.within t }
  | .create => { args with data := [(args.data.head?.getD {}).within t] }
  | .createMany => { args with data := args.data.map (Data.within t) }
  | .update | .updateMany => { args with filter := args.filter.within t }
  | .upsert =>
    { args with filter := args.filter.within t, create := args.create.map (Data.within t) }
  | .delete | .deleteMany => { args with filter := args.filter.within t }
  | .findUnique | .findUniqueOrThrow | .createManyAndReturn => args

def TenantContext.isPlatform (store : TenantContext) : Bool :=
  store.tenantType = "PLATFORM" ∨ store.isPlatformAdmin = some true

/-- The arguments the hook passes on. -/
def allOperations (store : Option TenantContext) (model : Model) (operation : Operation)
    (args : Args) : Args :=
  let extendedArgs := hideDeleted model operation args
  if model ∉ TENANT_BOUND_MODELS then extendedArgs
  else if store.elim false TenantContext.isPlatform then extendedArgs
  else
    match truthy (store.map (·.tenantId)) with
    | none => extendedArgs
    | some tenantId => scope tenantId operation extendedArgs

/-- A query through the extended client. -/
def extendedQuery (store : Option TenantContext) (model : Model) (operation : Operation)
    (args : Args) (db : Db) : Db × Reply :=
  query model operation (allOperations store model operation args) db

/-! ### Which queries it confines -/

/-- The hook knows the model and the operation. -/
def Scoped (model : Model) (operation : Operation) : Prop :=
  model ∈ TENANT_BOUND_MODELS ∧
    operation ∉ [Operation.findUnique, .findUniqueOrThrow, .createManyAndReturn]
deriving Decidable

/-- The query writes no other tenant into a row of the tenant that it finds. -/
def KeepsOwn (t : TenantId) (operation : Operation) (args : Args) : Prop :=
  match operation.kind with
  | .update => ∀ d ∈ args.data.head?, ∀ other ∈ d.tenantId, other ≠ t →
      ∀ row, (args.filter.within t).selects row = false
  | .upsert => args.create.isSome → ∀ d ∈ args.update, ∀ other ∈ d.tenantId, other ≠ t →
      ∀ row, (args.filter.within t).selects row = false
  | _ => True

/-- The condition: a query the hook confines keeps the tenant's rows with it; any other is
confined as it comes. -/
def Safe (t : TenantId) (model : Model) (operation : Operation) (args : Args) : Prop :=
  if Scoped model operation then KeepsOwn t operation args
  else Confined t operation (hideDeleted model operation args)

section

variable {t : TenantId} {model : Model} {operation : Operation} {args : Args} {f : Where}

theorem Where.own_within (t : TenantId) (f : Where) : (f.within t).Own t := by
  intro row selected
  simp only [Where.selects, Where.within, Option.elim_some, Bool.and_eq_true,
    decide_eq_true_eq] at selected
  exact selected.1.1

theorem Data.tenantId_apply (d : Data) (row : Row) :
    (d.apply row).tenantId = d.tenantId.getD row.tenantId := rfl

/-- Data keep a tenant's rows if they name no other tenant, or find nothing. -/
theorem Data.keeps_iff {d : Data} (own : f.Own t) :
    d.Keeps t f ↔ ∀ other ∈ d.tenantId, other ≠ t → ∀ row, f.selects row = false := by
  constructor
  · intro keeps other named differ row
    cases selected : f.selects row with
    | false => rfl
    | true =>
      have kept := keeps row selected
      rw [Data.tenantId_apply, Option.mem_def.mp named] at kept
      exact absurd kept differ
  · intro spare row selected
    rw [Data.tenantId_apply]
    cases named : d.tenantId with
    | none => exact own row selected
    | some other =>
      by_contra differ
      have none := spare other named differ row
      rw [selected] at none
      cases none

theorem Data.new_within (d : Data) : ∃ row, (d.within t).new = some row ∧ row.tenantId = t :=
  ⟨_, rfl, rfl⟩

/-- Data that name the tenant create rows of the tenant. -/
theorem mapM_new_within {data : List Data} {rows : List Row}
    (created : (data.map (Data.within t)).mapM Data.new = some rows) :
    ∀ row ∈ rows, row.tenantId = t := by
  induction data generalizing rows with
  | nil =>
    rw [List.map_nil, List.mapM_nil] at created
    cases created
    exact nofun
  | cons d rest ih =>
    obtain ⟨row, new, own⟩ := d.new_within (t := t)
    rw [List.map_cons, List.mapM_cons, new] at created
    obtain ⟨others, made, same⟩ := Option.bind_eq_some_iff.mp
      (show (((rest.map (Data.within t)).mapM Data.new).bind fun others => some (row :: others)) =
        some rows from created)
    cases same
    intro x mem
    rcases List.mem_cons.mp mem with rfl | mem
    · exact own
    · exact ih made x mem

/-- What the hook confines is confined, as far as it keeps the tenant's rows. -/
theorem confined_scope_iff (known : operation ∉ [Operation.findUnique, .findUniqueOrThrow,
    .createManyAndReturn]) :
    Confined t operation (scope t operation args) ↔ KeepsOwn t operation args := by
  have own := Where.own_within t args.filter
  cases operation with
  | findUnique | findUniqueOrThrow | createManyAndReturn => simp at known
  | findFirst | findFirstOrThrow | findMany | count | aggregate | groupBy | delete | deleteMany =>
    exact ⟨fun _ => trivial, fun _ => own⟩
  | create =>
    have own : ∀ rows, ([args.data.head?.getD {}].map (Data.within t)).mapM Data.new = some rows →
        ∀ row ∈ rows, row.tenantId = t := fun rows => mapM_new_within
    exact ⟨fun _ => trivial, fun _ => own⟩
  | createMany => exact ⟨fun _ => trivial, fun _ rows created => mapM_new_within created⟩
  | update | updateMany =>
    exact forall₂_congr fun d _ => (and_iff_right own).trans (Data.keeps_iff own)
  | upsert =>
    cases create : args.create with
    | none => simp [Confined, KeepsOwn, scope, Operation.kind, create]
    | some c =>
      obtain ⟨row, new, mine⟩ := c.new_within (t := t)
      simp only [Confined, KeepsOwn, scope, Operation.kind, create, Option.map_some,
        Option.bind_some, new, Option.mem_def, Option.some.injEq, forall_eq', mine, true_and,
        own, Data.keeps_iff own, Option.isSome_some, forall_const]

theorem hideDeleted_plain (plain : args.Plain) : (hideDeleted model operation args).Plain := by
  unfold hideDeleted
  split
  · exact ⟨plain.filter, plain.data, plain.beside⟩
  · exact plain

theorem scope_plain (plain : args.Plain) : (scope t operation args).Plain := by
  have data := plain.data
  simp only [List.mem_append, Option.mem_toList] at data
  cases operation with
  | create =>
    refine ⟨plain.filter, fun d mem => ?_, plain.beside⟩
    simp only [scope, List.mem_append, List.mem_singleton, Option.mem_toList] at mem
    rcases mem with (rfl | mem) | mem
    · cases first : args.data.head? with
      | none => rfl
      | some d => exact data d (Or.inl (Or.inl (List.mem_of_head? first)))
    · exact data d (Or.inl (Or.inr mem))
    · exact data d (Or.inr mem)
  | createMany =>
    refine ⟨plain.filter, fun d mem => ?_, plain.beside⟩
    simp only [scope, List.mem_append, List.mem_map, Option.mem_toList] at mem
    rcases mem with (⟨d, mem, rfl⟩ | mem) | mem
    · exact data d (Or.inl (Or.inl mem))
    · exact data d (Or.inl (Or.inr mem))
    · exact data d (Or.inr mem)
  | upsert =>
    refine ⟨plain.filter, fun d mem => ?_, plain.beside⟩
    simp only [scope, List.mem_append, Option.mem_toList, Option.map_eq_some_iff] at mem
    rcases mem with (mem | ⟨d, create, rfl⟩) | mem
    · exact data d (Or.inl (Or.inl mem))
    · exact data d (Or.inl (Or.inr create))
    · exact data d (Or.inr mem)
  | _ => exact ⟨plain.filter, plain.data, plain.beside⟩

theorem hideDeleted_of_not_read (written : operation ∉ filteredReads) :
    hideDeleted model operation args = args := if_neg fun hides => written hides.2.1

/-- Hiding deleted rows matters to no condition on what is written. -/
theorem keepsOwn_hideDeleted :
    KeepsOwn t operation (hideDeleted model operation args) ↔ KeepsOwn t operation args := by
  cases operation with
  | update | updateMany | upsert => rw [hideDeleted_of_not_read (by decide)]
  | _ => exact Iff.rfl

/-- **Tenant noninterference.** In a request of a tenant, a query that goes through no relation is
isolated exactly if it is safe. -/
theorem isolated_iff (store : TenantContext) (t : TenantId) (inTenant : store.tenantId = t)
    (nonempty : t ≠ "") (school : store.tenantType ≠ "PLATFORM")
    (ordinary : store.isPlatformAdmin ≠ some true) (model : Model) (operation : Operation)
    (args : Args) (plain : args.Plain) :
    Isolated t (extendedQuery (some store) model operation args) ↔ Safe t model operation args := by
  have platform : store.isPlatform = false := by simp [TenantContext.isPlatform, school, ordinary]
  have tenant : truthy ((some store).map (·.tenantId)) = some t := by
    simp [truthy, inTenant, nonempty]
  have hidden : (hideDeleted model operation args).Plain := hideDeleted_plain plain
  unfold extendedQuery allOperations Safe
  by_cases bound : model ∈ TENANT_BOUND_MODELS
  · simp only [bound, not_true_eq_false, if_false, Option.elim_some, platform, Bool.false_eq_true,
      tenant]
    by_cases known : operation ∉ [Operation.findUnique, .findUniqueOrThrow, .createManyAndReturn]
    · have both : Scoped model operation := ⟨bound, known⟩
      rw [if_pos both]
      exact (isolated_iff_confined (scope_plain hidden)).trans
        ((confined_scope_iff known).trans keepsOwn_hideDeleted)
    · have unscoped : ¬ Scoped model operation := fun both => known both.2
      rw [if_neg unscoped]
      have passed : scope t operation (hideDeleted model operation args) =
          hideDeleted model operation args := by
        cases operation with
        | findUnique | findUniqueOrThrow | createManyAndReturn => rfl
        | _ => exact absurd (by decide) known
      rw [passed]
      exact isolated_iff_confined hidden
  · have unscoped : ¬ Scoped model operation := fun both => bound both.1
    simp only [unscoped, bound, not_false_eq_true, if_true, if_false]
    exact isolated_iff_confined hidden

end

namespace School

/-- A request of one of two schools. -/
def store : TenantContext := { tenantId := "boys", tenantType := "SCHOOL" }

def foreign : Row := { id := "1", tenantId := "girls" }

def own : Row := { id := "2", tenantId := "boys" }

/-- The tenants of the students with the ids of these contracts. -/
def students (db : Db) (contracts : List Row) : String :=
  String.join (((db "StudentProfile").filter fun student =>
    contracts.any (·.id = student.id)).map (·.tenantId))

/-- A contract of the school and a student of this tenant, with the same id. -/
def enrolled (tenantId : TenantId) : Db := fun model =>
  if model = "StudentFeeContract" then [own]
  else if model = "StudentProfile" then [{ id := "2", tenantId }]
  else []

theorem agree_enrolled : Agree "boys" (enrolled "girls") (enrolled "club") := by
  intro model
  unfold enrolled
  split
  · rfl
  · split <;> rfl

end School

/-- A model the hook does not know; an operation it does not know; an update that names another
tenant; and an included relation. -/
theorem not_isolated :
    "UserPermissionOverride" ∈ TENANT_MODELS ∧
    ¬ Isolated "boys" (extendedQuery (some School.store) "UserPermissionOverride" .findMany {}) ∧
    ¬ Isolated "boys" (extendedQuery (some School.store) "StudentFeeContract" .findUnique
      { filter := { others := fun row => row.id = "1" } }) ∧
    ¬ Isolated "boys" (extendedQuery (some School.store) "User" .update
      { filter := { others := fun row => row.id = "2" },
        data := [{ tenantId := some "girls" }] }) ∧
    ¬ Isolated "boys" (extendedQuery (some School.store) "StudentFeeContract" .findMany
      { beside := some School.students }) := by
  refine ⟨by decide, fun isolated => ?_, fun isolated => ?_, fun isolated => ?_, fun isolated => ?_⟩
  · have same := isolated.result _ _
      (agree_only "UserPermissionOverride" School.foreign (by decide))
    revert same
    decide
  · have same := isolated.result _ _
      (agree_only "StudentFeeContract" School.foreign (by decide))
    revert same
    decide
  · have same := isolated.others (Db.only "User" [School.own]) "User"
    revert same
    decide
  · have same := isolated.result _ _ School.agree_enrolled
    revert same
    decide +kernel

/-- Moving the contracts of the other school to this one. -/
theorem isolated_contracts :
    Isolated "boys" (extendedQuery (some School.store) "StudentFeeContract" .updateMany
      { filter := { tenantId := some (· = "girls") }, data := [{ tenantId := some "boys" }] }) := by
  refine (isolated_iff School.store "boys" rfl (by decide) (by decide) (by decide)
    "StudentFeeContract" .updateMany _ ⟨rfl, by simp, rfl⟩).mpr ?_
  rw [Safe, if_pos (by decide)]
  rintro d ⟨⟩ other ⟨⟩ foreign
  exact absurd rfl foreign

end Rokad.Tenancy
