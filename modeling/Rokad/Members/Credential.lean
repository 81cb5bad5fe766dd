import Rokad.Auth.Schema

/-!
# Generated credentials

`credential.util`: the user name and the password a new account gets, from a national code or, if
there is none, from a phone. `lower` is the host's `toLowerCase`; the time and the random number are
those of the call.
-/

namespace Rokad.Members

open Rokad.Base Rokad.Common
open Rokad.Auth (Tenant)

/-- What a transaction draws: what an account is called when there is neither a code nor a phone, and
the random bytes with which passwords are hashed and encrypted. -/
structure Draws where
  /-- `Date.now()` -/
  now : ℕ
  /-- `Math.floor(10000000 + Math.random() * 90000000)` -/
  studentCode : ℕ
  /-- the salt and the padding for the account of the member -/
  memberSeed : ℕ := 0
  /-- the same for the account of the parents -/
  parentSeed : ℕ := 0

variable (lower : String → String)

/-- `b`, `g` or `c`: the school for boys, the one for girls, the college. -/
def getTenantPasswordPrefix : Option Tenant → String
  | none => "b"
  | some tenant =>
    let slug := lower tenant.slug
    let name := lower tenant.name
    if includes slug "girl" || includes slug "dokhtar" || tenant.theme = .female ||
        includes name "دختر" then "g"
    else if includes slug "college" || tenant.theme = .college || tenant.type = .college ||
        includes name "کالج" then "c"
    else "b"

def normalizeNationalCode (code : Option String) : String :=
  code.elim "" fun code => onlyDigits (normalizePersianDigits code)

def stripLeadingZero (code : Option String) : String :=
  let digitsOnly := normalizeNationalCode code
  (truthy (some (dropZeros digitsOnly))).getD digitsOnly

/-- Latin digits stay as they are. -/
theorem normalizePersianDigits_onlyDigits (s : String) :
    normalizePersianDigits (onlyDigits s) = onlyDigits s := by
  have digit : ∀ c ∈ (onlyDigits s).toList, 48 ≤ c.toNat ∧ c.toNat ≤ 57 := by
    intro c mem
    rw [onlyDigits, String.toList_ofList] at mem
    exact Char.isDigit_iff_toNat.mp (List.mem_filter.mp mem).2
  refine normalizePersianDigits_eq_self fun c mem => ?_
  obtain ⟨low, high⟩ := digit c mem
  refine ⟨by omega, ?_⟩
  unfold isSpace
  interval_cases c.toNat <;> decide

theorem normalizeNationalCode_idem (code : Option String) :
    normalizeNationalCode (some (normalizeNationalCode code)) = normalizeNationalCode code := by
  cases code with
  | none => decide +kernel
  | some code =>
    change onlyDigits (normalizePersianDigits (onlyDigits (normalizePersianDigits code))) =
      onlyDigits (normalizePersianDigits code)
    rw [normalizePersianDigits_onlyDigits]
    simp [onlyDigits]

theorem normalizeNationalCode_truthy (code : Option String) :
    normalizeNationalCode (truthy code) = normalizeNationalCode code := by
  cases code with
  | none => rfl
  | some code =>
    by_cases empty : code = ""
    · subst empty
      decide +kernel
    · rw [truthy, if_neg empty]

theorem stripLeadingZero_eq_empty_iff {code : Option String} :
    stripLeadingZero code = "" ↔ normalizeNationalCode code = "" := by
  unfold stripLeadingZero
  dsimp only
  by_cases empty : dropZeros (normalizeNationalCode code) = ""
  · simp [truthy, empty]
  · have nonempty : normalizeNationalCode code ≠ "" := by
      intro nothing
      rw [nothing] at empty
      exact empty (by decide +kernel)
    simp [truthy, empty, nonempty]

theorem normalizeNationalCode_or_self (code : Option String) :
    normalizeNationalCode (truthy code <|> code) = normalizeNationalCode code := by
  cases text : truthy code with
  | none => rfl
  | some s =>
    rw [(truthy_eq_some_iff.mp text).1]
    rfl

theorem isDigit_of_mem_stripLeadingZero {code : Option String} {c : Char}
    (mem : c ∈ (stripLeadingZero code).toList) : c.isDigit = true := by
  have digits : ∀ c ∈ (normalizeNationalCode code).toList, c.isDigit = true := by
    intro c mem
    cases code with
    | none => exact absurd mem List.not_mem_nil
    | some code =>
      simp only [normalizeNationalCode, Option.elim_some, onlyDigits, String.toList_ofList] at mem
      exact (List.mem_filter.mp mem).2
  unfold stripLeadingZero at mem
  dsimp only at mem
  by_cases empty : dropZeros (normalizeNationalCode code) = ""
  · rw [truthy, if_pos empty] at mem
    exact digits c mem
  · rw [truthy, if_neg empty, Option.getD_some, dropZeros, String.toList_ofList] at mem
    exact digits c ((List.dropWhile_suffix _).subset mem)

/-- Codes with one normal form are one code. -/
theorem stripLeadingZero_congr {code other : Option String}
    (same : normalizeNationalCode code = normalizeNationalCode other) :
    stripLeadingZero code = stripLeadingZero other := by
  unfold stripLeadingZero
  rw [same]

/-- `normalizePersianDigits(phone).replace(/\D/g, '').trim()` -/
def cleanPhone (phone : Option String) : String := normalizeNationalCode phone

structure UnifiedCredentials where
  username : String
  nationalId : Option String
  finalPassword : String

/-- `customPassword?.trim() ? customPassword.trim() : defaultPassword` -/
def finalPassword (customPassword : Option String) (defaultPassword : String) : String :=
  (truthy (customPassword.map trim)).getD defaultPassword

def generateUnifiedCredentials (tenant : Option Tenant) (nationalCode fallbackPhone : Option String)
    (customPassword : Option String) (draws : Draws) : UnifiedCredentials :=
  let code := getTenantPasswordPrefix lower tenant
  let strippedCode := truthy (some (stripLeadingZero nationalCode))
  let phone := truthy (some (cleanPhone fallbackPhone))
  { username := (strippedCode <|> phone).getD ("user_" ++ toString draws.now)
    nationalId := truthy (some (normalizeNationalCode nationalCode))
    finalPassword := finalPassword customPassword
      (((strippedCode <|> phone).map (code ++ ·)).getD "RokadPass2026!") }

def deriveStudentCode (nationalCode fallbackPhone : Option String) (draws : Draws) : String :=
  (truthy (some (stripLeadingZero nationalCode)) <|>
    truthy (some (dropZeros (cleanPhone fallbackPhone)))).getD (toString draws.studentCode)

structure ParentCredentials where
  (username finalPassword : String)

def generateParentCredentials (studentNationalCode fallbackPhone : Option String) (draws : Draws) :
    ParentCredentials :=
  let strippedCode := truthy (some (stripLeadingZero studentNationalCode))
  let phone := truthy (some (cleanPhone fallbackPhone))
  { username := ((strippedCode <|> phone).map ("p" ++ ·)).getD ("parent_" ++ toString draws.now)
    finalPassword := ((strippedCode <|> phone).map ("p" ++ ·)).getD "RokadParent2026!" }

theorem nationalId_eq (tenant : Option Tenant) (nationalCode phone password : Option String)
    (draws : Draws) :
    (generateUnifiedCredentials lower tenant nationalCode phone password draws).nationalId =
      truthy (some (normalizeNationalCode nationalCode)) := rfl

/-- The user carries the code that is given. -/
theorem normalizeNationalCode_nationalId (tenant : Option Tenant)
    (nationalCode phone password : Option String) (draws : Draws) :
    normalizeNationalCode
        (generateUnifiedCredentials lower tenant nationalCode phone password draws).nationalId =
      normalizeNationalCode nationalCode := by
  rw [nationalId_eq, normalizeNationalCode_truthy, normalizeNationalCode_idem]

theorem nationalId_spec {tenant : Option Tenant} {nationalCode phone password : Option String}
    {draws : Draws} {code : String}
    (national : (generateUnifiedCredentials lower tenant nationalCode phone password
      draws).nationalId = some code) : code ≠ "" ∧ normalizeNationalCode (some code) ≠ "" := by
  obtain ⟨same, digits⟩ := truthy_eq_some_iff.mp ((nationalId_eq lower ..).symm.trans national)
  cases same
  rw [normalizeNationalCode_idem]
  exact ⟨digits, digits⟩

/-- With a code, the phone is not looked at. -/
theorem generateParentCredentials_of_code {code : Option String}
    (digits : normalizeNationalCode code ≠ "") (phone : Option String) (draws : Draws) :
    generateParentCredentials code phone draws =
      ⟨"p" ++ stripLeadingZero code, "p" ++ stripLeadingZero code⟩ := by
  have nonempty : stripLeadingZero code ≠ "" := mt stripLeadingZero_eq_empty_iff.mp digits
  simp [generateParentCredentials, truthy, nonempty]

/-- A name that is made of a code is the password as well. -/
theorem finalPassword_of_username {code other phone : Option String} {draws : Draws}
    (username : (generateParentCredentials code phone draws).username =
      "p" ++ stripLeadingZero other) :
    (generateParentCredentials code phone draws).finalPassword = "p" ++ stripLeadingZero other := by
  unfold generateParentCredentials at username ⊢
  dsimp only at username ⊢
  cases known : truthy (some (stripLeadingZero code)) <|> truthy (some (cleanPhone phone)) with
  | some text =>
    rw [known] at username
    exact username
  | none =>
    -- The name of an account without a code goes on with a letter.
    rw [known] at username
    have texts := congrArg String.toList username
    simp only [Option.map_none, Option.getD_none, String.toList_append] at texts
    have letters : "parent_".toList = 'p' :: 'a' :: "rent_".toList := by decide
    have first : "p".toList = ['p'] := by decide
    rw [letters, first] at texts
    have rest := (List.cons.inj texts).2
    have mem : 'a' ∈ (stripLeadingZero other).toList := by
      change _ = (stripLeadingZero other).toList at rest
      rw [← rest]
      exact List.mem_cons_self
    exact absurd (isDigit_of_mem_stripLeadingZero mem) (by decide)

end Rokad.Members
