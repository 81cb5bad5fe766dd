import Rokad.Audit.Handlers

/-!
# Tampering with the table

Someone who cannot make a new digest changes the table as they like. The verifier skips rows without
a hash, leaves some columns out of it and reports the anchor apart from its verdict.

* `copies_of_valid`: where every row carries its hash and its predecessor, a valid table is a copy of
  a chain of the rows that the handlers wrote; the intact anchor, if it is that of the newest row,
  confirms only the whole of it.
* `not_detected`: without the newest row the table is still valid.
-/

namespace Rokad.Audit

open Rokad.Base Rokad.Common

/-! ### Copies -/

/-- Every row of the tenant carries a hash and names a predecessor. -/
def Carried (t : String) (db : Db) : Prop :=
  ∀ log ∈ db.rowsOf t, (truthy log.hash).isSome ∧ (truthy log.previousHash).isSome

/-- Every digest in the hash column is one that the original has there. -/
def NoNewHashes (host : Host) (t : String) (original tampered : Db) : Prop :=
  ∀ log ∈ tampered.rowsOf t, ∀ s, log.hash = some (host.sha.digest s) →
    ∃ o ∈ original.rowsOf t, o.hash = log.hash

/-- The row has the hash and the predecessor of the original, and is the text of that hash. -/
structure Copy (host : Host) (log original : AuditLog) : Prop where
  hash : log.hash = original.hash
  previousHash : log.previousHash = original.previousHash
  text : log.hash = some (computeAuditHash host log.hashData)

section

variable {host : Host} {t expected : String} {original tampered : Db}

theorem copies_of_checkChain (collisionless : host.sha.Collisionless)
    (written : ∀ o ∈ original.rowsOf t, Written host o) {logs : List AuditLog}
    (carried : ∀ log ∈ logs, (truthy log.hash).isSome ∧ (truthy log.previousHash).isSome)
    (known : ∀ log ∈ logs, ∀ s, log.hash = some (host.sha.digest s) →
      ∃ o ∈ original.rowsOf t, o.hash = log.hash)
    (link : IsLink host expected) (checked : checkChain host expected logs = none) :
    ∃ os, List.Forall₂ (Copy host) logs os ∧ os ⊆ original.rowsOf t ∧ Linked expected os := by
  induction logs generalizing expected with
  | nil => exact ⟨[], .nil, by simp, trivial⟩
  | cons log logs ih =>
    obtain ⟨names, hashes, rest⟩ := checkChain_cons_eq_none.mp checked
    obtain ⟨hasHash, hasName⟩ := carried log List.mem_cons_self
    obtain ⟨h, isHash⟩ := Option.isSome_iff_exists.mp hasHash
    obtain ⟨name, isName⟩ := Option.isSome_iff_exists.mp hasName
    obtain rfl := names name isName
    obtain rfl := hashes h isHash
    have hash := (truthy_eq_some_iff.mp isHash).1
    have previousHash := (truthy_eq_some_iff.mp isName).1
    have writtenLog : Written host log := ⟨_, _, previousHash, previousHash, link, hash⟩
    obtain ⟨o, mem, sameHash⟩ := known log List.mem_cons_self _ hash
    rw [isHash, Option.getD_some] at rest
    obtain ⟨os, copies, subset, linked⟩ := ih
      (fun x mem => carried x (List.mem_cons_of_mem _ mem))
      (fun x mem => known x (List.mem_cons_of_mem _ mem)) (.inr ⟨_, rfl⟩) rest
    have sameName := writtenLog.previousHash_eq collisionless (written o mem) sameHash.symm
    exact ⟨o :: os, .cons ⟨sameHash.symm, sameName, hash⟩ copies,
      List.cons_subset.mpr ⟨mem, subset⟩,
      sameName ▸ previousHash, _, sameHash.trans hash, linked⟩

/-- A part of an unforked table that ends in the row inserted last is all of it. -/
theorem Honest.eq_of_prefix (collisionless : host.sha.Collisionless) (honest : Honest host original)
    (linked : Linked genesis (original.logsOf t)) {part : List AuditLog}
    (isPrefix : part <+: original.logsOf t) {last newest : AuditLog}
    (isLast : part.getLast? = some last) (isNewest : (original.rowsOf t).getLast? = some newest)
    (same : last.hash = newest.hash) : part = original.logsOf t := by
  obtain ⟨rest, split⟩ := isPrefix
  cases rest with
  | nil => rw [← split, List.append_nil]
  | cons next rest =>
    exfalso
    have written : ∀ log ∈ original.logsOf t, Written host log := fun log mem =>
      honest.written log (List.mem_of_mem_filter (Db.mem_logsOf.mp mem))
    have nodup := (List.nodup_cons.mp (linked.keys_nodup collisionless written)).2
    have one : ∀ a ∈ original.rowsOf t, ∀ b ∈ original.rowsOf t, a.hash = b.hash → a = b :=
      fun a memA b memB => List.inj_on_of_nodup_map nodup (Db.mem_logsOf.mpr memA)
        (Db.mem_logsOf.mpr memB)
    have memNewest := List.mem_of_getLast? isNewest
    -- The next row names the newest one, and a row before itself.
    have names : next.previousHash = newest.hash := by
      rw [← split, Linked.append] at linked
      obtain ⟨-, name, isName, named, -⟩ := linked
      rw [keys_getLast?, isLast, Option.elim_some, Option.some.injEq] at isName
      rw [named, ← isName, same]
    have memNext : next ∈ original.rowsOf t := by
      rw [← Db.mem_logsOf, ← split]
      simp
    obtain ⟨front, later, rows⟩ := List.append_of_mem memNext
    rcases honest.grounded t front next later rows with first | ⟨o, memO, namesO⟩
    · obtain ⟨_, data, -, -, -, hash⟩ :=
        (honest.written newest (List.mem_of_mem_filter memNewest)).names
      rw [names, hash, Option.some.injEq] at first
      exact digest_ne_genesis _ first
    · have isO : o = newest := one o (by rw [rows]; exact List.mem_append_left _ memO) newest
        memNewest (namesO.symm.trans names)
      have different : (original.rowsOf t).Nodup := (honest.ids.of_map).filter _
      rw [rows] at different isNewest
      have inLater : newest ∈ next :: later := by
        rw [List.getLast?_append_of_ne_nil _ (List.cons_ne_nil _ _)] at isNewest
        exact List.mem_of_getLast? isNewest
      exact List.disjoint_of_nodup_append different (isO ▸ memO) inLater

end

theorem getLast?_of_forall₂ {α β : Type} {R : α → β → Prop} {xs : List α} {ys : List β}
    (related : List.Forall₂ R xs ys) {x : α} (last : xs.getLast? = some x) :
    ∃ y, ys.getLast? = some y ∧ R x y := by
  induction related with
  | nil => cases last
  | @cons a b as bs first rest ih =>
    cases rest with
    | nil =>
      cases last
      exact ⟨b, rfl, first⟩
    | cons second rest =>
      rw [List.getLast?_cons_cons] at last ⊢
      exact ih last

section

variable {ι : Type} [DecidableEq ι] {host : Host} {events : ι → CreateAuditLogDto} {t : String}

/-- **Detection.** Of a table that the handlers wrote, a valid table whose rows all carry hash and
predecessor is a copy of a chain: a prefix if the original does not fork, and all of it if moreover
the anchor, set for the newest row after all others, is intact and confirmed. -/
theorem copies_of_valid (collisionless : host.sha.Collisionless) (tenants users : List String)
    (moves : List (Move ι Clock Empty)) (tampered : Db) (carried : Carried t tampered)
    (known : NoNewHashes host t
      (run (handlerStep host events) (.begin tenants users) moves).shared tampered)
    (valid : (verifyAuditLogIntegrity host t tampered).isValid = true) :
    let original := (run (handlerStep host events) (.begin tenants users) moves).shared
    ∃ os, List.Forall₂ (Copy host) (tampered.logsOf t) os ∧ os ⊆ original.rowsOf t ∧
      Linked genesis os ∧
      (Linked genesis (original.logsOf t) → os <+: original.logsOf t ∧
        (Along (handlerStep host events) (InsertOrder t) (.begin tenants users) moves →
          (∀ i row, (run (handlerStep host events) (.begin tenants users) moves).own i =
            .anchoring row → row.tenantId ≠ t) →
          tampered.anchors.lookup t = original.anchors.lookup t →
          (verifyAuditLogIntegrity host t tampered).externalAnchorVerified = true →
          os = original.logsOf t)) := by
  intro original
  have honest : Honest host original := (honest_run tenants users moves).shared
  have writtenRow : ∀ o ∈ original.rowsOf t, Written host o := fun o mem =>
    honest.written o (List.mem_of_mem_filter mem)
  have writtenLog : ∀ o ∈ original.logsOf t, Written host o := fun o mem =>
    writtenRow o (Db.mem_logsOf.mp mem)
  have checked := (isValid_iff tampered).mp valid
  obtain ⟨os, copies, subset, linked⟩ := copies_of_checkChain collisionless writtenRow
    (fun log mem => carried log (Db.mem_logsOf.mp mem))
    (fun log mem => known log (Db.mem_logsOf.mp mem)) (.inl rfl) checked
  refine ⟨os, copies, subset, linked, fun unforked => ?_⟩
  have isPrefix := unforked.prefix_of collisionless writtenLog linked fun o mem =>
    Db.mem_logsOf.mpr (subset mem)
  refine ⟨isPrefix, fun inOrder settled intact confirmed => ?_⟩
  unfold verifyAuditLogIntegrity at confirmed
  cases lastLog : (tampered.logsOf t).getLast? with
  | none =>
    rw [lastLog] at confirmed
    cases confirmed
  | some log =>
    simp only [lastLog, checked, Verdict.externalAnchorVerified] at confirmed
    obtain ⟨last, isLast, copy⟩ := getLast?_of_forall₂ copies lastLog
    have memLast := subset (List.mem_of_getLast? isLast)
    -- The anchor is the hash of the row inserted last.
    obtain ⟨newest, isNewest⟩ : ∃ newest, (original.rowsOf t).getLast? = some newest := by
      cases found : (original.rowsOf t).getLast? with
      | none =>
        rw [List.getLast?_eq_none_iff.mp found] at memLast
        cases memLast
      | some newest => exact ⟨newest, rfl⟩
    obtain ⟨_, data, -, -, -, hash⟩ := (writtenRow newest (List.mem_of_getLast? isNewest)).names
    have link : IsLink host (computeAuditHash host data) := .inr ⟨_, rfl⟩
    rw [intact, anchored_of_inOrder tenants users inOrder settled, isNewest, Option.bind_some, hash, link.truthy_eq] at confirmed
    exact honest.eq_of_prefix collisionless unforked isPrefix isLast isNewest
      (copy.hash.symm.trans ((of_decide_eq_true confirmed).trans hash.symm))

end

namespace School

def original : Db := (run (handlerStep .ideal login) (.begin ["school"] []) overlapping).shared

/-- The newest row deleted. -/
def truncated : Db := { original with logs := original.logs.take 1 }

theorem noNewHashes_truncated : NoNewHashes .ideal "school" original truncated := by
  intro log mem s _
  have kept : log ∈ original.logs := List.mem_of_mem_take (List.mem_of_mem_filter mem)
  exact ⟨log, List.mem_filter.mpr ⟨kept, (List.mem_filter.mp mem).2⟩, rfl⟩

/-- Each handler has read the row of the one before it. -/
theorem logsOf_original : ∃ first second : Clock, ∃ row,
    row = handleAuditLogEvent.row .ideal none first.logId first.now (login false) ∧
    original.logsOf "school" =
      [row, handleAuditLogEvent.row .ideal (some row) second.logId second.now (login true)] ∧
    truncated.logsOf "school" = [row] := ⟨⟨"a", 1⟩, ⟨"b", 2⟩, _, rfl, rfl, rfl⟩

theorem linked_original : Linked genesis (original.logsOf "school") := by
  obtain ⟨first, second, row, rfl, rows, -⟩ := logsOf_original
  rw [rows]
  refine ⟨rfl, _, rfl, ?_, _, rfl, trivial⟩
  have written := (@row_previousHash .ideal none first.logId first.now (login false) (by simp)).2
  exact (row_previousHash fun o mem => Option.some.inj mem ▸ written).1

theorem isValid_truncated : (verifyAuditLogIntegrity .ideal "school" truncated).isValid = true := by
  obtain ⟨first, second, row, rfl, -, rows⟩ := logsOf_original
  rw [isValid_iff, rows, checkChain_cons_eq_none]
  refine ⟨fun name isName => ?_, fun h isHash => ?_, rfl⟩
  · exact (Option.some.inj (truthy_eq_some_iff.mp isName).1).symm
  · have hashed : (handleAuditLogEvent.row .ideal none first.logId first.now (login false)).hashData =
        handleAuditLogEvent.hashData none first.logId first.now (login false) := rfl
    rw [hashed]
    exact (Option.some.inj (truthy_eq_some_iff.mp isHash).1).symm

theorem carried_truncated : Carried "school" truncated := by
  unfold Carried
  decide +kernel

/-- The first handler sets its anchor late, but before the second. -/
theorem insertOrder_overlapping :
    Along (handlerStep .ideal login) (InsertOrder "school") (.begin ["school"] []) overlapping := by
  refine ⟨?_, ?_, ?_, ?_, ?_, ?_, trivial⟩ <;> intro row newest stands _ isNewest
  iterate 4 cases stands
  · exact ⟨true, congrArg Handler.anchoring (Option.some.inj isNewest)⟩
  · exact ⟨true, congrArg Handler.anchoring (Option.some.inj isNewest)⟩

theorem settled_overlapping : ∀ i row, (run (handlerStep .ideal login) (.begin ["school"] [])
    overlapping).own i = .anchoring row → row.tenantId ≠ "school" := by
  rintro (_ | _) row stands <;> cases stands

end School

theorem copies_of_valid_truncated : ∃ os,
    List.Forall₂ (Copy .ideal) (School.truncated.logsOf "school") os ∧
      Linked genesis os ∧ os <+: School.original.logsOf "school" ∧
      (verifyAuditLogIntegrity .ideal "school" School.truncated).externalAnchorVerified = false := by
  obtain ⟨os, copies, -, linked, unforked⟩ := copies_of_valid Sha256.ideal_collisionless ["school"] []
    School.overlapping School.truncated School.carried_truncated School.noNewHashes_truncated
    School.isValid_truncated
  obtain ⟨isPrefix, whole⟩ := unforked School.linked_original
  refine ⟨os, copies, linked, isPrefix, Bool.eq_false_iff.mpr fun confirmed => ?_⟩
  have all := whole School.insertOrder_overlapping School.settled_overlapping rfl confirmed
  obtain ⟨_, _, _, -, original, truncated⟩ := School.logsOf_original
  have lengths := copies.length_eq
  rw [all, truncated] at lengths
  cases lengths.trans (congrArg List.length original)

/-- The newest row is deleted: the verdict is valid, and only the report of the anchor tells. -/
theorem not_detected : ¬ ∀ {ι : Type} [DecidableEq ι] {host : Host}
    {events : ι → CreateAuditLogDto} {t : String}, host.sha.Collisionless →
    ∀ (tenants users : List String) (moves : List (Move ι Clock Empty)) (tampered : Db),
    let original := (run (handlerStep host events) (.begin tenants users) moves).shared
    tampered.anchors = original.anchors → NoNewHashes host t original tampered →
    tampered.logsOf t ≠ original.logsOf t →
    (verifyAuditLogIntegrity host t tampered).isValid = false := by
  intro claim
  have detected := @claim Bool _ .ideal School.login "school" Sha256.ideal_collisionless ["school"] []
    School.overlapping School.truncated rfl School.noNewHashes_truncated fun same => by
      obtain ⟨_, _, _, -, original, truncated⟩ := School.logsOf_original
      have lengths := congrArg List.length (truncated.symm.trans (same.trans original))
      cases lengths
  exact absurd detected (by simp [School.isValid_truncated])

end Rokad.Audit
