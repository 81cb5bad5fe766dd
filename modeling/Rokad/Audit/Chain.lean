import Rokad.Audit.Service

/-!
# Chains of hashed rows

A row is `Written` if it carries the digest of a text that names its predecessor, and rows are
`Linked` if each names the one before it. The joined text of a digest determines the predecessor it
names (`Written.previousHash_eq`), so without collisions the hashes of a chain are different
(`Linked.keys_nodup`), and a chain made of rows of another is a prefix of it (`Linked.prefix_of`).
-/

namespace Rokad.Audit

open Rokad.Base Rokad.Common

/-! ### Digests and what they name -/

/-- No two texts share a digest. -/
def Sha256.Collisionless (sha : Sha256) : Prop := Function.Injective sha.digest

/-- What a predecessor is named by. -/
def IsLink (host : Host) (name : String) : Prop :=
  name = genesis ∨ ∃ s, host.sha.digest s = name

section

variable {host : Host}

theorem digest_ne_genesis (s : String) : host.sha.digest s ≠ genesis := by
  intro same
  have hex := host.sha.hex s
  rw [same] at hex
  exact absurd hex (by decide)

theorem IsLink.no_bar {name : String} (link : IsLink host name) : '|' ∉ name.toList := by
  rcases link with rfl | ⟨s, rfl⟩
  · decide
  · intro mem
    exact absurd (List.all_eq_true.mp (host.sha.hex s) '|' mem) (by decide)

theorem IsLink.truthy_eq {name : String} (link : IsLink host name) :
    truthy (some name) = some name := by
  refine truthy_eq_some_iff.mpr ⟨rfl, ?_⟩
  rcases link with rfl | ⟨s, rfl⟩
  · decide
  · exact host.sha.nonempty s

theorem balanced_rawPayload (payload : Option Json) : Json.Balanced (rawPayload payload).toList := by
  unfold rawPayload
  split
  · rw [Json.stringify, String.toList_ofList]
    exact Json.balanced_text _
  · exact Json.Balanced.nil

/-- The hashed text ends in the name of the predecessor, the payload and the pepper. -/
theorem chainContent_toList (data : AuditHashData) : ∃ front, (chainContent host data).toList =
      (front ++ '|' :: ((truthy data.previousHash).getD genesis).toList) ++
        '|' :: (rawPayload data.payload).toList ++ '|' :: host.auditPepper.toList := by
  refine ⟨("|".intercalate [data.id, data.tenantId, (truthy data.userId).getD "SYSTEM", data.action,
    data.entity, (truthy data.entityId).getD "", data.timestamp]).toList, ?_⟩
  have bar : "|".toList = ['|'] := rfl
  simp only [chainContent, String.intercalate_cons_cons, String.intercalate_singleton,
    String.toList_append, bar, List.append_assoc, List.cons_append, List.nil_append]

/-- Texts that name their predecessors and have one digest name one predecessor. -/
theorem computeAuditHash_previous (collisionless : host.sha.Collisionless) {a b : AuditHashData}
    {x y : String} (namesA : a.previousHash = some x) (namesB : b.previousHash = some y)
    (linkA : IsLink host x) (linkB : IsLink host y)
    (same : computeAuditHash host a = computeAuditHash host b) : x = y := by
  obtain ⟨front, textA⟩ := @chainContent_toList host a
  obtain ⟨front', textB⟩ := @chainContent_toList host b
  have texts : (chainContent host a).toList = (chainContent host b).toList :=
    congrArg String.toList (collisionless same)
  rw [textA, textB] at texts
  obtain ⟨named, -⟩ := last_field_of_balanced (balanced_rawPayload _) (balanced_rawPayload _)
    (List.append_cancel_right texts)
  rw [namesA, namesB, linkA.truthy_eq, linkB.truthy_eq] at named
  obtain ⟨-, names⟩ := last_field_of_no_bar linkA.no_bar linkB.no_bar named
  exact String.toList_injective names

end

/-! ### Rows -/

/-- The row carries the digest of a text that names its predecessor. -/
structure Written (host : Host) (log : AuditLog) : Prop where
  names : ∃ name data, log.previousHash = some name ∧ data.previousHash = some name ∧
    IsLink host name ∧ log.hash = some (computeAuditHash host data)

/-- Each row names the one before it, the first one `expected`. -/
def Linked (expected : String) : List AuditLog → Prop
  | [] => True
  | log :: logs => log.previousHash = some expected ∧ ∃ h, log.hash = some h ∧ Linked h logs

/-- The names of the rows of a chain and of its end. -/
def keys (expected : String) (logs : List AuditLog) : List (Option String) :=
  some expected :: logs.map (·.hash)

section

variable {host : Host} {logs : List AuditLog} {expected : String}

/-- Written rows of one hash name one predecessor. -/
theorem Written.previousHash_eq (collisionless : host.sha.Collisionless) {a b : AuditLog}
    (writtenA : Written host a) (writtenB : Written host b) (same : a.hash = b.hash) :
    a.previousHash = b.previousHash := by
  obtain ⟨x, dataA, namesA, ofA, linkA, hashA⟩ := writtenA.names
  obtain ⟨y, dataB, namesB, ofB, linkB, hashB⟩ := writtenB.names
  rw [hashA, hashB, Option.some.injEq] at same
  rw [namesA, namesB, computeAuditHash_previous collisionless ofA ofB linkA linkB same]

theorem Linked.previousHash_getElem (linked : Linked expected logs) (i : ℕ) (lt : i < logs.length) :
    (keys expected logs)[i]? = some (logs[i].previousHash) := by
  induction logs generalizing expected i with
  | nil => simp at lt
  | cons log logs ih =>
    obtain ⟨names, h, hash, rest⟩ := linked
    cases i with
    | zero => simp [keys, names]
    | succ i =>
      have later := ih rest i (by simpa using lt)
      simpa [keys, hash] using later

theorem keys_getLast? : (keys expected logs).getLast? =
    some (logs.getLast?.elim (some expected) (·.hash)) := by
  rcases List.eq_nil_or_concat logs with rfl | ⟨front, last, rfl⟩
  · rfl
  · rw [List.concat_eq_append, List.getLast?_concat]
    have split : keys expected (front ++ [last]) = keys expected front ++ [last.hash] := by
      simp [keys]
    rw [split, List.getLast?_concat]
    rfl

theorem Linked.append {logs' : List AuditLog} :
    Linked expected (logs ++ logs') ↔
      Linked expected logs ∧ ∃ last, (keys expected logs).getLast? = some (some last) ∧
        Linked last logs' := by
  induction logs generalizing expected with
  | nil => simp [Linked, keys]
  | cons log logs ih =>
    simp only [List.cons_append, Linked, ih]
    constructor
    · rintro ⟨names, h, hash, first, last, isLast, second⟩
      exact ⟨⟨names, h, hash, first⟩, last, by simpa [keys, hash] using isLast, second⟩
    · rintro ⟨⟨names, h, hash, first⟩, last, isLast, second⟩
      exact ⟨names, h, hash, first, last, by simpa [keys, hash] using isLast, second⟩

/-- **No two names.** Without collisions the names along a chain from the genesis differ. -/
theorem Linked.keys_nodup (collisionless : host.sha.Collisionless) (linked : Linked genesis logs)
    (written : ∀ log ∈ logs, Written host log) : (keys genesis logs).Nodup := by
  -- Equal names have equal predecessors, down to the genesis, which is no digest.
  have apart : ∀ i j, i < j → j < (keys genesis logs).length →
      (keys genesis logs)[i]? ≠ (keys genesis logs)[j]? := by
    intro i
    induction i with
    | zero =>
      intro j positive lt same
      obtain ⟨j, rfl⟩ := Nat.exists_eq_succ_of_ne_zero positive.ne'
      have ltLogs : j < logs.length := by simpa [keys] using lt
      obtain ⟨_, data, -, -, -, hash⟩ := (written _ (List.getElem_mem ltLogs)).names
      simp only [keys, List.getElem?_cons_zero, List.getElem?_cons_succ, List.getElem?_map,
        List.getElem?_eq_getElem ltLogs, Option.map_some, hash, Option.some.injEq] at same
      exact digest_ne_genesis _ same.symm
    | succ i ih =>
      intro j less lt same
      obtain ⟨j, rfl⟩ := Nat.exists_eq_succ_of_ne_zero (by omega : j ≠ 0)
      have ltJ : j < logs.length := by simpa [keys] using lt
      have ltI : i < logs.length := by omega
      simp only [keys, List.getElem?_cons_succ, List.getElem?_map,
        List.getElem?_eq_getElem ltI, List.getElem?_eq_getElem ltJ, Option.map_some,
        Option.some.injEq] at same
      refine ih j (by omega) (by simp [keys]; omega) ?_
      rw [linked.previousHash_getElem i ltI, linked.previousHash_getElem j ltJ,
        (written _ (List.getElem_mem ltI)).previousHash_eq collisionless
          (written _ (List.getElem_mem ltJ)) same]
  rw [List.nodup_iff_getElem?_ne_getElem?]
  exact apart

/-- **Prefixes.** A chain from the genesis whose rows are all of another one is a prefix of it. -/
theorem Linked.prefix_of (collisionless : host.sha.Collisionless) (linked : Linked genesis logs)
    (written : ∀ log ∈ logs, Written host log) {part : List AuditLog} (chain : Linked genesis part)
    (subset : part ⊆ logs) : part <+: logs := by
  induction part using List.reverseRecOn with
  | nil => exact List.nil_prefix
  | append_singleton part log ih =>
    obtain ⟨first, last, isLast, names, -⟩ := Linked.append.mp chain
    have before := ih first fun x mem => subset (List.mem_append_left _ mem)
    obtain ⟨i, lt, rfl⟩ := List.mem_iff_getElem.mp (subset (List.mem_append_right _
      List.mem_cons_self))
    obtain ⟨rest, rfl⟩ := before
    have nodup := linked.keys_nodup collisionless written
    -- The row stands where its predecessor's name does: right after the part.
    have here := linked.previousHash_getElem i lt
    have there : (keys genesis (part ++ rest))[part.length]? = some (some last) := by
      rw [List.getLast?_eq_getElem?] at isLast
      have short : (keys genesis part).length - 1 = part.length := by simp [keys]
      rw [short] at isLast
      rw [← isLast]
      have split : keys genesis (part ++ rest) = keys genesis part ++ rest.map (·.hash) := by
        simp [keys]
      rw [split, List.getElem?_append_left (by simp [keys])]
    have same : i = part.length := by
      rw [names] at here
      have ltKeys : i < (keys genesis (part ++ rest)).length := by
        simp only [keys, List.length_cons, List.length_map]
        omega
      exact (List.getElem?_inj ltKeys nodup).mp (here.trans there.symm)
    subst same
    rw [List.getElem_append_right (le_refl _)]
    have ltRest : 0 < rest.length := by simpa using lt
    cases rest with
    | nil => simp at ltRest
    | cons log rest => exact ⟨rest, by simp⟩

end

/-! ### Tables that verify -/

section

variable {host : Host} {t expected : String} {logs : List AuditLog}

theorem filter_ne_eq_none {value : Option String} {x : String} :
    value.filter (· ≠ x) = none ↔ ∀ y, value = some y → y = x := by
  cases value with
  | none => simp
  | some y => by_cases same : y = x <;> simp [same]

theorem checkChain_cons_eq_none {log : AuditLog} :
    checkChain host expected (log :: logs) = none ↔
      (∀ name, truthy log.previousHash = some name → name = expected) ∧
      (∀ h, truthy log.hash = some h → h = computeAuditHash host log.hashData) ∧
      checkChain host ((truthy log.hash).getD (computeAuditHash host log.hashData)) logs = none := by
  rw [← filter_ne_eq_none, ← filter_ne_eq_none, checkChain]
  split
  · rename_i actual broken
    refine iff_of_false (by simp) fun fits => ?_
    rw [broken] at fits
    cases fits.1
  · rename_i linked
    dsimp only
    split
    · rename_i recorded mismatch
      refine iff_of_false (by simp) fun fits => ?_
      rw [mismatch] at fits
      cases fits.2.1
    · rename_i fits
      simp only [linked, fits, true_and]

theorem isValid_iff (db : Db) : (verifyAuditLogIntegrity host t db).isValid = true ↔
    checkChain host genesis (db.logsOf t) = none := by
  unfold verifyAuditLogIntegrity
  cases last : (db.logsOf t).getLast? with
  | none =>
    rw [List.getLast?_eq_none_iff.mp last]
    exact iff_of_true rfl rfl
  | some log =>
    cases checked : checkChain host genesis (db.logsOf t) with
    | none => simp [Verdict.isValid]
    | some broken =>
      simp only [reduceCtorEq, iff_false]
      have invalid : ∀ (logs : List AuditLog) (expected : String),
          checkChain host expected logs = some broken → broken.isValid = false := by
        intro logs
        induction logs with
        | nil => intro expected found; cases found
        | cons log logs ih =>
          intro expected found
          unfold checkChain at found
          split at found
          · cases found
            rfl
          · dsimp only at found
            split at found
            · cases found
              rfl
            · exact ih _ found
      simp [invalid _ _ checked]

end

/-! ### A digest without collisions -/

/-- Six hexadecimal digits. -/
def block (n : ℕ) : List Char :=
  [Json.hexDigit (n / 1048576 % 16), Json.hexDigit (n / 65536 % 16), Json.hexDigit (n / 4096 % 16),
    Json.hexDigit (n / 256 % 16), Json.hexDigit (n / 16 % 16), Json.hexDigit (n % 16)]

theorem hexDigit_spec : ∀ a < 16, isHexDigit (Json.hexDigit a) = true ∧
    ∀ b < 16, Json.hexDigit a = Json.hexDigit b → a = b := by decide

theorem block_injective {m n : ℕ} (ltM : m < 16777216) (ltN : n < 16777216)
    (same : block m = block n) : m = n := by
  have digit : ∀ {a b : ℕ}, Json.hexDigit (a % 16) = Json.hexDigit (b % 16) → a % 16 = b % 16 :=
    fun {a b} same => (hexDigit_spec (a % 16) (Nat.mod_lt _ (by decide))).2 (b % 16)
      (Nat.mod_lt _ (by decide)) same
  simp only [block, List.cons.injEq, and_true] at same
  obtain ⟨d5, d4, d3, d2, d1, d0⟩ := same
  have e5 := digit d5
  have e4 := digit d4
  have e3 := digit d3
  have e2 := digit d2
  have e1 := digit d1
  have e0 := digit d0
  omega

theorem charCode_lt (c : Char) : c.toNat < 16777216 := by
  have code : c.toNat = c.val.toNat := rfl
  rcases c.valid with low | ⟨-, high⟩
  · change c.val.toNat < 55296 at low
    omega
  · change c.val.toNat < 1114112 at high
    omega

theorem blocks_injective : ∀ {xs ys : List Char},
    xs.flatMap (fun c => block c.toNat) = ys.flatMap (fun c => block c.toNat) → xs = ys
  | [], [], _ => rfl
  | [], y :: ys, same => by simp [block] at same
  | x :: xs, [], same => by simp [block] at same
  | x :: xs, y :: ys, same => by
      rw [List.flatMap_cons, List.flatMap_cons] at same
      obtain ⟨head, tail⟩ := List.append_inj same rfl
      have code : x.toNat = y.toNat := by
        exact block_injective (charCode_lt x) (charCode_lt y) head
      rw [Char.toNat_inj.mp code, blocks_injective tail]

/-- The text itself, spelled in digits, stands in for the digest. -/
def Sha256.ideal : Sha256 where
  digest s := String.ofList ('0' :: s.toList.flatMap fun c => block c.toNat)
  hex s := by
    rw [String.toList_ofList, List.all_eq_true]
    intro c mem
    rcases List.mem_cons.mp mem with rfl | mem
    · decide
    · obtain ⟨d, -, inBlock⟩ := List.mem_flatMap.mp mem
      have digit : ∀ n, isHexDigit (Json.hexDigit (n % 16)) = true := fun n =>
        (hexDigit_spec (n % 16) (Nat.mod_lt _ (by decide))).1
      simp only [block, List.mem_cons, List.not_mem_nil, or_false] at inBlock
      rcases inBlock with rfl | rfl | rfl | rfl | rfl | rfl <;> exact digit _
  nonempty s := by
    intro empty
    have chars := congrArg String.toList empty
    simp at chars

theorem Sha256.ideal_collisionless : Sha256.ideal.Collisionless := by
  intro x y same
  have chars := String.ofList_injective same
  rw [List.cons.injEq] at chars
  exact String.toList_injective (blocks_injective chars.2)

/-- A column that keeps the order of keys. -/
def JsonColumn.plain : JsonColumn := ⟨id, fun _ => rfl⟩

def Host.ideal : Host := ⟨.ideal, "pepper", .plain⟩

end Rokad.Audit
