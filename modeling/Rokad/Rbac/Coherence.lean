import Rokad.Rbac.InProgress

/-!
# Coherence of the permission cache

A reader writes to the cache what it read from the database some time before; a call that
changes access deletes entries after its transaction. The invariant is that each entry of the
cache lists what the database gives, or some call in progress is going to delete it. Three
operations can break it and must be `Careful`: a write to the cache, and the two transactions
that replace the permissions of a role.
-/

namespace Rokad.Rbac

open Rokad.Base Rokad.Common

/-! ### The condition -/

section

variable {ι : Type}

/-- Every entry of the cache whose user's permissions the operation changes is deleted by this
call, or going to be deleted by one in progress. -/
def System.Covers (p : System ι) (op : Op) (own : Id → Id → Prop) : Prop :=
  ∀ t u, (p.shared.cache t u).isSome →
    SameCodes ((exec op p.shared).1.db.permissionsOf t u) (p.shared.db.permissionsOf t u) ∨
      own t u ∨ p.Owed t u

def System.CarefulOp (p : System ι) : Op → Prop
  | .cacheSet t u codes => SameCodes codes (p.shared.db.permissionsOf t u) ∨ p.Owed t u
  | .reactivateRole roleId description codes =>
    p.Covers (.reactivateRole roleId description codes) fun _ _ => False
  | .updateRole tenantId roleId name description codes userRoles =>
    p.Covers (.updateRole tenantId roleId name description codes userRoles) fun t u =>
      t = tenantId ∧ u ∈ userRoles
  | _ => True

def System.Careful (p : System ι) : Move ι Unit Entry → Prop
  | .thread i _ =>
    match p.own i with
    | .step op _ => p.CarefulOp op
    | .ret _ => True
  | .world _ => True

end

/-! ### The invariant -/

section

variable {ι : Type} [DecidableEq ι]

/-- Every entry of the cache is what the database gives, or is going to be deleted. -/
structure System.Inv (users : List User) (p : System ι) : Prop where
  users_eq : p.shared.db.users = users
  cached : ∀ t u codes, p.shared.cache t u = some codes →
    SameCodes codes (p.shared.db.permissionsOf t u) ∨ p.Owed t u
  settled : ∀ i, Settled users (p.own i)

variable {users : List User} {p : System ι} {i : ι} {op : Op}
  {next : Res op → RbacProg (Option (List Code))}

theorem answers_exec {s : State} (same : s.db.users = users) (op : Op) :
    Answers users op (exec op s).2 := by
  have known : ∀ {t u user}, s.db.findUser t u = some user → Known users t u := by
    intro t u user found
    exact ⟨user, same ▸ List.mem_of_find?_eq_some found, by simpa using List.find?_some found⟩
  cases op with
  | findUser t u =>
    unfold Answers
    cases found : (exec (.findUser t u) s).2 with
    | none => trivial
    | some user => exact known found
  | findAccess t u =>
    unfold Answers
    cases found : (exec (.findAccess t u) s).2 with
    | none => trivial
    | some access =>
      obtain ⟨user, found, -⟩ := Option.map_eq_some_iff.mp found
      exact known found
  | _ => trivial

theorem System.step_thread (turn : p.own i = .step op next) :
    p.step (.thread i ()) = ⟨(exec op p.shared).1,
      Function.update p.own i (next (exec op p.shared).2)⟩ := by
  simp only [System.step, Threads.step, turn, Prog.advance]

/-- A call in progress keeps what it is going to do, until it does it. -/
theorem System.Owed.step {t u : Id} (owed : p.Owed t u) (turn : p.own i = .step op next)
    (other : ¬ deletes t u op) : (p.step (.thread i ())).Owed t u := by
  obtain ⟨j, will⟩ := owed
  rw [System.step_thread turn]
  refine ⟨j, ?_⟩
  by_cases same : j = i
  · subst same
    rw [turn] at will
    simpa using will.resolve_left other _
  · simpa [same] using will

/-- An entry that stays, of a user whose permissions stay. -/
theorem System.Inv.kept (inv : p.Inv users) (turn : p.own i = .step op next) {t u : Id}
    {codes : List Code} (cached : p.shared.cache t u = some codes) (other : ¬ deletes t u op)
    (same : SameCodes ((exec op p.shared).1.db.permissionsOf t u)
      (p.shared.db.permissionsOf t u)) :
    SameCodes codes ((exec op p.shared).1.db.permissionsOf t u) ∨
      (p.step (.thread i ())).Owed t u :=
  (inv.cached t u codes cached).imp (fun lists => lists.trans same.symm) fun owed =>
    owed.step turn other

/-- A call that is going to delete the entry owes it. -/
theorem System.owed_of_will {t u : Id} (turn : p.own i = .step op next)
    (will : (next (exec op p.shared).2).Will (deletes t u)) : (p.step (.thread i ())).Owed t u := by
  rw [System.step_thread turn]
  exact ⟨i, by simpa using will⟩

theorem System.Inv.cached_step (inv : p.Inv users) (turn : p.own i = .step op next)
    (careful : p.CarefulOp op) {t u : Id} {codes : List Code}
    (entry : (exec op p.shared).1.cache t u = some codes) :
    SameCodes codes ((exec op p.shared).1.db.permissionsOf t u) ∨
      (p.step (.thread i ())).Owed t u := by
  have settles : Settles users op (exec op p.shared).2 (next (exec op p.shared).2) := by
    have own := inv.settled i
    rw [turn] at own
    exact (own _ (answers_exec inv.users_eq op)).1
  have before : ¬ op.OnCache → p.shared.cache t u = some codes := fun database => by
    rwa [cache_exec database] at entry
  have unchanged : ¬ op.Replaces → op.target = none →
      SameCodes ((exec op p.shared).1.db.permissionsOf t u) (p.shared.db.permissionsOf t u) :=
    fun replaces target => sameCodes_exec replaces target t u
  cases op with
  | cacheSet t' u' codes' =>
    by_cases this : t = t' ∧ u = u'
    · obtain ⟨rfl, rfl⟩ := this
      obtain rfl : codes' = codes := by simpa [exec, State.setCache] using entry
      exact careful.imp_right fun owed => owed.step turn (by rintro ⟨⟩)
    · have before : p.shared.cache t u = some codes := by
        simpa [exec, State.setCache, this] using entry
      exact inv.kept turn before (by rintro ⟨⟩) (.refl _)
  | cacheDel t' u' =>
    by_cases this : t = t' ∧ u = u'
    · obtain ⟨rfl, rfl⟩ := this
      simp [exec, State.setCache] at entry
    · have before : p.shared.cache t u = some codes := by
        simpa [exec, State.setCache, this] using entry
      refine inv.kept turn before (fun is => this ?_) (.refl _)
      cases is
      exact ⟨rfl, rfl⟩
  | setUserRoles t' u' ids =>
    cases done : p.shared.db.setUserRoles t' u' ids with
    | error e =>
      refine inv.kept turn (before not_false) (by rintro ⟨⟩) ?_
      simp only [exec, done, State.write]
      exact .refl _
    | ok db' =>
      simp only [exec, done, State.write] at settles
      by_cases this : t = t' ∧ u = u'
      · obtain ⟨rfl, rfl⟩ := this
        refine Or.inr (System.owed_of_will turn ?_)
        simp only [exec, done, State.write]
        exact settles.2
      · refine inv.kept turn (before not_false) (by rintro ⟨⟩) ?_
        simp only [exec, done, State.write]
        exact sameCodes_setUserRoles (inv.users_eq ▸ settles.1) done this
  | upsertOverride t' u' code effect reason grantedById =>
    cases done : p.shared.db.upsertOverride t' u' code effect reason grantedById with
    | error e =>
      refine inv.kept turn (before not_false) (by rintro ⟨⟩) ?_
      simp only [exec, done, State.write]
      exact .refl _
    | ok db' =>
      simp only [exec, done, State.write] at settles
      by_cases this : t = t' ∧ u = u'
      · obtain ⟨rfl, rfl⟩ := this
        refine Or.inr (System.owed_of_will turn ?_)
        simp only [exec, done, State.write]
        exact settles.2
      · refine inv.kept turn (before not_false) (by rintro ⟨⟩) ?_
        simp only [exec, done, State.write]
        exact sameCodes_upsertOverride (inv.users_eq ▸ settles.1) done this
  | reactivateRole roleId description newCodes =>
    rcases careful t u (by simp [before not_false]) with same | mine | owed
    · exact inv.kept turn (before not_false) (by rintro ⟨⟩) same
    · exact mine.elim
    · exact Or.inr (owed.step turn (by rintro ⟨⟩))
  | updateRole t' roleId name description newCodes userRoles =>
    rcases careful t u (by simp [before not_false]) with same | ⟨rfl, mem⟩ | owed
    · exact inv.kept turn (before not_false) (by rintro ⟨⟩) same
    · cases done : p.shared.db.updateRole roleId (renamed name description) (fun _ => rfl)
          (newCodes.map p.shared.db.findPermissions) with
      | error e =>
        refine inv.kept turn (before not_false) (by rintro ⟨⟩) ?_
        simp only [exec, done, State.write]
        exact .refl _
      | ok db' =>
        refine Or.inr (System.owed_of_will turn ?_)
        simp only [exec, done, State.write] at settles ⊢
        exact settles u mem
    · exact Or.inr (owed.step turn (by rintro ⟨⟩))
  | _ => exact inv.kept turn (before not_false) (by rintro ⟨⟩) (unchanged not_false rfl)

theorem System.Inv.thread (inv : p.Inv users) (careful : p.Careful (.thread i ())) :
    (p.step (.thread i ())).Inv users := by
  cases turn : p.own i with
  | ret result =>
    have idle : p.step (.thread i ()) = p := by
      simp only [System.step, Threads.step, turn, Prog.advance]
      rw [← turn, Function.update_eq_self]
    rw [idle]
    exact inv
  | step op next =>
    simp only [System.Careful, turn] at careful
    have shared : (p.step (.thread i ())).shared = (exec op p.shared).1 := by
      rw [System.step_thread turn]
    refine ⟨?_, fun t u codes entry => ?_, fun j => ?_⟩
    · rw [shared, users_exec, inv.users_eq]
    · rw [shared] at entry ⊢
      exact inv.cached_step turn careful entry
    · rw [System.step_thread turn]
      by_cases same : j = i
      · subst same
        have own := inv.settled j
        rw [turn] at own
        simpa using (own _ (answers_exec inv.users_eq op)).2
      · simpa [same] using inv.settled j

/-- An entry that expires is gone. -/
theorem System.Inv.world (inv : p.Inv users) (entry : Entry) :
    (p.step (.world entry)).Inv users := by
  refine ⟨inv.users_eq, fun t u codes cached => inv.cached t u codes ?_, inv.settled⟩
  have cached : (if t = entry.1 ∧ u = entry.2 then none else p.shared.cache t u) = some codes :=
    cached
  split at cached
  · cases cached
  · exact cached

theorem System.Inv.run (inv : p.Inv users) {moves : List (Move ι Unit Entry)}
    (along : Along System.step System.Careful p moves) :
    (Base.run System.step p moves).Inv users := by
  refine run_invariant (fun p move careful inv => ?_) inv along
  cases move with
  | thread i => exact inv.thread careful
  | world entry => exact inv.world entry

omit [DecidableEq ι] in
theorem System.inv_start {calls : ι → Call} {s : State} (coherent : s.Coherent) :
    (System.start calls s).Inv s.db.users :=
  ⟨rfl, fun t u codes cached => Or.inl (coherent t u codes cached), fun i => (calls i).settled⟩

end

/-! ### Readers alone -/

section

variable {α : Type}

/-- What readers do: look, and write to the cache. -/
def Op.Reads : Op → Prop
  | .cacheGet .. | .cacheSet .. | .findAccess .. => True
  | _ => False

abbrev OnlyReads (p : RbacProg α) : Prop := p.Avoids fun op => ¬ op.Reads

theorem onlyReads_read (t u : Id) : OnlyReads (Call.read t u).prog := by
  refine ⟨not_not_intro trivial, fun cached => ?_⟩
  cases cached with
  | some codes => exact trivial
  | none =>
    refine ⟨not_not_intro trivial, fun found => ?_⟩
    cases found with
    | none => exact trivial
    | some access => exact ⟨not_not_intro trivial, fun _ => trivial⟩

theorem OnlyReads.not_will {p : RbacProg α} (reads : OnlyReads p) (t u : Id) :
    ¬ p.Will (deletes t u) := by
  refine Prog.not_will_of_avoids (reads.mono ?_)
  rintro _ rfl
  exact not_false

theorem db_exec {op : Op} (reads : op.Reads) (s : State) : (exec op s).1.db = s.db := by
  cases op with
  | cacheGet | cacheSet | findAccess => rfl
  | _ => exact reads.elim

variable {ι : Type} [DecidableEq ι] {users : List User}

/-- Only readers are left, and the cache is what the database gives. -/
structure System.Quiet (users : List User) (db : Db) (p : System ι) : Prop where
  inv : p.Inv users
  db_eq : p.shared.db = db
  reads : ∀ i, OnlyReads (p.own i)

omit [DecidableEq ι] in
theorem System.Quiet.coherent {db : Db} {p : System ι} (quiet : p.Quiet users db) :
    p.shared.Coherent := by
  intro t u codes cached
  rcases quiet.inv.cached t u codes cached with lists | ⟨i, will⟩
  · exact lists
  · exact absurd will ((quiet.reads i).not_will t u)

theorem System.Quiet.step {db : Db} {p : System ι} (quiet : p.Quiet users db)
    {move : Move ι Unit Entry} (careful : p.Careful move) : (p.step move).Quiet users db := by
  cases move with
  | world entry => exact ⟨quiet.inv.world entry, quiet.db_eq, quiet.reads⟩
  | thread i =>
    refine ⟨quiet.inv.thread careful, ?_, fun j => ?_⟩
    · cases turn : p.own i with
      | ret result =>
        simp only [System.step, Threads.step, turn, Prog.advance]
        exact quiet.db_eq
      | step op next =>
        have reads := quiet.reads i
        rw [turn] at reads
        rw [System.step_thread turn, ← quiet.db_eq]
        exact db_exec (not_not.mp reads.1) _
    · by_cases same : j = i
      · subst same
        simpa [System.step, Threads.step] using (quiet.reads j).advance
      · simpa [System.step, Threads.step, same] using quiet.reads j

/-! ### What a reader returns -/

/-- The answers of a cache that is what the database gives. -/
def Current (db : Db) (op : Op) (r : Res op) : Prop :=
  match op, r with
  | .cacheGet t u, some codes => SameCodes codes (db.permissionsOf t u)
  | .findAccess t u, found => found = db.findAccess t u
  | _, _ => True

/-- The reader returns what the database gives. -/
def Reports (db : Db) (t u : Id) (result : Result (Option (List Code))) : Prop :=
  ∃ codes, result = .ok (some codes) ∧ SameCodes codes (db.permissionsOf t u)

theorem current_exec {s : State} (coherent : s.Coherent) (op : Op) :
    Current s.db op (exec op s).2 := by
  cases op with
  | cacheGet t u =>
    unfold Current
    cases cached : (exec (.cacheGet t u) s).2 with
    | none => trivial
    | some codes => exact coherent t u codes cached
  | findAccess t u => rfl
  | _ => trivial

theorem reports_read (db : Db) (t u : Id) :
    (Call.read t u).prog.All (Current db) (Reports db t u) := by
  intro cached current
  cases cached with
  | some codes => exact ⟨codes, rfl, current⟩
  | none =>
    intro found is
    cases found with
    | none =>
      have missing : db.findAccess t u = none := is.symm
      exact ⟨[], rfl, by rw [Db.permissionsOf, missing]; exact .refl _⟩
    | some access =>
      have there : db.findAccess t u = some access := is.symm
      intro _ _
      exact ⟨computePermissions access, rfl, by
        rw [Db.permissionsOf, there]
        exact .refl _⟩

theorem System.onlyReads_run {calls : ι → Call} {p : System ι}
    (start : ∀ i t u, calls i = .read t u → OnlyReads (p.own i))
    (moves : List (Move ι Unit Entry)) :
    ∀ i t u, calls i = .read t u → OnlyReads ((run System.step p moves).own i) := by
  refine run_keeps (I := fun p : System ι => ∀ i t u, calls i = .read t u → OnlyReads (p.own i))
    (fun p move reads j t u reader => ?_) start moves
  cases move with
  | world entry => exact reads j t u reader
  | thread i =>
    by_cases same : j = i
    · subst same
      simpa [System.step, Threads.step] using (reads j t u reader).advance
    · simpa [System.step, Threads.step, same] using reads j t u reader

/-- **No stale permissions.** In a careful run, a reader that starts once every call that changes
access has returned reports what the database gives. -/
theorem no_stale_permissions (calls : ι → Call) (s : State) (coherent : s.Coherent)
    (before after : List (Move ι Unit Entry))
    (careful : Along System.step System.Careful (System.start calls s) (before ++ after))
    (written : ∀ i request, calls i = .change request →
      ((run System.step (System.start calls s) before).own i).returned.isSome)
    (i : ι) (t u : Id) (reader : calls i = .read t u)
    (fresh : (run System.step (System.start calls s) before).own i = (calls i).prog)
    (result : Result (Option (List Code)))
    (done : ((run System.step (System.start calls s) (before ++ after)).own i).returned =
      some result) :
    Reports (run System.step (System.start calls s) (before ++ after)).shared.db t u result := by
  obtain ⟨carefulBefore, carefulAfter⟩ := along_append.mp careful
  rw [run_append] at done ⊢
  have reads : ∀ j, OnlyReads ((run System.step (System.start calls s) before).own j) := by
    intro j
    cases call : calls j with
    | read t u =>
      refine System.onlyReads_run (p := System.start calls s) (fun j t u reader => ?_) before
        j t u call
      simp only [System.start, reader]
      exact onlyReads_read t u
    | change request =>
      obtain ⟨r, returned⟩ := Option.isSome_iff_exists.mp (written j request call)
      rw [Prog.returned_eq_some.mp returned]
      exact trivial
  have quiet : (run System.step (System.start calls s) before).Quiet s.db.users
      (run System.step (System.start calls s) before).shared.db :=
    ⟨(System.inv_start coherent).run carefulBefore, rfl, reads⟩
  generalize run System.step (System.start calls s) before = mid at *
  have kept : (run System.step mid after).Quiet s.db.users mid.shared.db ∧
      ((run System.step mid after).own i).All (Current mid.shared.db)
        (Reports mid.shared.db t u) := by
    refine run_invariant (I := fun p : System ι => p.Quiet s.db.users mid.shared.db ∧
      (p.own i).All (Current mid.shared.db) (Reports mid.shared.db t u))
      (fun p move careful kept => ⟨kept.1.step careful, ?_⟩) ⟨quiet, ?_⟩ carefulAfter
    · cases move with
      | world entry => exact kept.2
      | thread j =>
        by_cases same : i = j
        · subst same
          have answers := current_exec kept.1.coherent
          rw [kept.1.db_eq] at answers
          simpa [System.step, Threads.step] using kept.2.advance answers
        · simpa [System.step, Threads.step, same] using kept.2
    · rw [fresh, reader]
      exact reports_read _ t u
  rw [kept.1.db_eq]
  have all := kept.2
  rw [Prog.returned_eq_some.mp done] at all
  exact all

end

namespace Desk

/-- The principal takes the reading of attendance from the teacher. -/
def revokeAttendance : RbacRequest where
  tenantId := 7
  adminId := 2
  call := .setUserOverride 3 { permissionCode := "attendance.read", effect := .revoke }

/-- Two readers of the teacher's permissions around the revocation. -/
def calls : Fin 3 → Call
  | 0 => .read 7 3
  | 1 => .change revokeAttendance
  | 2 => .read 7 3

/-- The first reader has read the database before the revocation and writes the cache after. -/
def late : List (Move (Fin 3) Unit Entry) := moves [0, 0, 1, 1, 1, 1, 1, 0]

/-- The first reader has filled the cache before the revocation is written. -/
def early : List (Move (Fin 3) Unit Entry) := moves [0, 1, 0, 0, 1, 1, 1, 1]

theorem coherent_uncached : uncached.Coherent := nofun

end Desk

/-- A reader that starts after the revocation has returned still reports the permission. -/
theorem stale_permissions :
    Desk.uncached.Coherent ∧
    ((run System.step (System.start Desk.calls Desk.uncached) Desk.late).own 1).returned.isSome ∧
    (run System.step (System.start Desk.calls Desk.uncached) Desk.late).own 2 =
      (Desk.calls 2).prog ∧
    ∃ codes, ((run System.step (System.start Desk.calls Desk.uncached)
        (Desk.late ++ moves [2])).own 2).returned = some (.ok (some codes)) ∧
      ¬ SameCodes codes ((run System.step (System.start Desk.calls Desk.uncached)
        (Desk.late ++ moves [2])).shared.db.permissionsOf 7 3) := by
  refine ⟨Desk.coherent_uncached, by decide +kernel, rfl, ?_⟩
  exact ⟨_, rfl, by decide +kernel⟩

/-- A reader that starts after the revocation, which another one has overlapped. -/
theorem no_stale_permissions_early :
    ∃ result, ((run System.step (System.start Desk.calls Desk.uncached)
        (Desk.early ++ moves [2, 2, 2])).own 2).returned = some result ∧
      Reports (run System.step (System.start Desk.calls Desk.uncached)
        (Desk.early ++ moves [2, 2, 2])).shared.db 7 3 result := by
  refine ⟨_, rfl, no_stale_permissions Desk.calls Desk.uncached Desk.coherent_uncached Desk.early
    (moves [2, 2, 2]) ?_ ?_ 2 7 3 rfl rfl _ rfl⟩
  · refine ⟨trivial, trivial, trivial, Or.inl ?_, trivial, trivial, trivial, trivial, trivial, trivial,
      Or.inl ?_, trivial⟩
    · decide +kernel
    · decide +kernel
  · intro i request call
    match i with
    | 0 => cases call
    | 1 => decide +kernel
    | 2 => cases call

end Rokad.Rbac
