import Rokad.Auth.Operations
import Rokad.Common.RoundTrip

/-!
# Digits of three scripts

A text is looked up by its normal form, in which every digit is Latin and no space is around it. So
texts that differ in the script of their digits and in the spaces around them are found alike; only
the empty text has no blind index, and a blank one has (`digits_canonical`).
-/

namespace Rokad.Auth

open Rokad.Base Rokad.Common

/-- The Latin, Persian and Arabic digit. -/
def scripts (n : ℕ) : List Char :=
  [Char.ofNat (0x30 + n), Char.ofNat (0x06F0 + n), Char.ofNat (0x0660 + n)]

/-- The same character, or the same digit. -/
def SameDigit (c d : Char) : Prop := c = d ∨ ∃ n < 10, c ∈ scripts n ∧ d ∈ scripts n

/-- But for the spaces around them, the texts differ in the script of their digits only. -/
def DifferInScript (s t : String) : Prop :=
  List.Forall₂ SameDigit (trim s).toList (trim t).toList

theorem normalizePersianDigits_eq (s : String) : normalizePersianDigits s = trim (s.map latin) :=
  rfl

theorem isSpace_latin (c : Char) : isSpace (latin c) = isSpace c := by
  unfold latin
  split
  · rename_i persian
    obtain ⟨low, high⟩ := persian
    have char : c = Char.ofNat c.toNat := (Char.ofNat_toNat c).symm
    rw [char]
    interval_cases c.toNat <;> decide
  · split
    · rename_i arabic
      obtain ⟨low, high⟩ := arabic
      have char : c = Char.ofNat c.toNat := (Char.ofNat_toNat c).symm
      rw [char]
      interval_cases c.toNat <;> decide
    · rfl

/-- Digits are no spaces, so a text can be trimmed first. -/
theorem normalizePersianDigits_trim (s : String) :
    normalizePersianDigits s = (trim s).map latin := by
  have drop : ∀ cs : List Char, (cs.map latin).dropWhile isSpace =
      (cs.dropWhile isSpace).map latin := by
    intro cs
    rw [List.dropWhile_map]
    congr 2
    exact funext isSpace_latin
  apply String.ext
  rw [normalizePersianDigits_eq, trim, String.toList_ofList, String.toList_map, drop,
    ← List.map_reverse, drop, ← List.map_reverse, String.toList_map, trim, String.toList_ofList]

theorem latin_eq {c d : Char} (same : SameDigit c d) : latin c = latin d := by
  rcases same with rfl | ⟨n, few, memC, memD⟩
  · rfl
  · have all : ∀ n < 10, (scripts n).all (latin · == Char.ofNat (0x30 + n)) = true := by decide
    have each (c : Char) (mem : c ∈ scripts n) : latin c = Char.ofNat (0x30 + n) :=
      eq_of_beq (List.all_eq_true.mp (all n few) c mem)
    rw [each c memC, each d memD]

theorem normalizePersianDigits_congr {s t : String} (differ : DifferInScript s t) :
    normalizePersianDigits s = normalizePersianDigits t := by
  have maps : ∀ {xs ys : List Char}, List.Forall₂ SameDigit xs ys →
      xs.map latin = ys.map latin := by
    intro xs ys alike
    induction alike with
    | nil => rfl
    | cons same _ ih => rw [List.map_cons, List.map_cons, latin_eq same, ih]
  apply String.ext
  rw [normalizePersianDigits_trim, normalizePersianDigits_trim, String.toList_map,
    String.toList_map, maps differ]

theorem normalizePersianDigits_toPersianDigits (s : String) :
    normalizePersianDigits (toPersianDigits s) = normalizePersianDigits s := by
  have each : ∀ c, latin (if c.isDigit then Char.ofNat (0x06F0 + (c.toNat - '0'.toNat)) else c) =
      latin c := by
    intro c
    split
    · rename_i digit
      obtain ⟨low, high⟩ : 48 ≤ c.toNat ∧ c.toNat ≤ 57 := by
        simpa [Char.isDigit, Char.le_def, UInt32.le_iff_toNat_le] using digit
      have char : c = Char.ofNat c.toNat := (Char.ofNat_toNat c).symm
      rw [char]
      interval_cases c.toNat <;> decide
    · rfl
  rw [normalizePersianDigits_eq, normalizePersianDigits_eq, toPersianDigits, persianDigits]
  congr 1
  apply String.ext
  rw [String.toList_map, String.toList_map, String.toList_map, List.map_map]
  exact List.map_congr_left fun c _ => each c

theorem blindIndex_congr (hmac : String → String) {s t : String} (differ : DifferInScript s t)
    (empty : s = "" ↔ t = "") : blindIndex hmac s = blindIndex hmac t := by
  unfold blindIndex
  by_cases none : s = ""
  · rw [none, empty.mp none]
  · have some' : t ≠ "" := fun is => none (empty.mpr is)
    have normal := normalizePersianDigits_congr differ
    rw [truthy_eq_some_iff.mpr ⟨rfl, none⟩, truthy_eq_some_iff.mpr ⟨rfl, some'⟩, Option.map_some,
      Option.map_some, normalizePersianDigits_trim, normalizePersianDigits_trim, trim_trim,
      trim_trim, ← normalizePersianDigits_trim, ← normalizePersianDigits_trim, normal]

/-- A date that is not valid is what is thrown for. -/
theorem jalaliToGregorianDate_error_iff (jalaali : Jalaali) (s : String) (timeOfDay : TimeOfDay) :
    (∃ e, jalaliToGregorianDate jalaali s timeOfDay = .error e) ↔
      isValidJalaliDate jalaali s = false := by
  have again : isValidJalaliDate jalaali (normalizePersianDigits s) =
      isValidJalaliDate jalaali s := by
    simp only [isValidJalaliDate, normalizePersianDigits_idem]
  unfold jalaliToGregorianDate
  dsimp only
  cases parts : matchDate (normalizePersianDigits s) with
  | none => simp [isValidJalaliDate, parts]
  | some date =>
    cases valid : isValidJalaliDate jalaali s with
    | false => simp [again, valid]
    | true => cases timeOfDay <;> simp [again, valid]

/-- **Digits have one normal form.** -/
theorem digits_canonical (jalaali : Jalaali) (hmac : String → String) :
    (∀ s, normalizePersianDigits (normalizePersianDigits s) = normalizePersianDigits s) ∧
    (∀ s, normalizePersianDigits (toPersianDigits s) = normalizePersianDigits s) ∧
    (∀ s t, DifferInScript s t → normalizePersianDigits s = normalizePersianDigits t ∧
      ((s = "" ↔ t = "") → blindIndex hmac s = blindIndex hmac t)) ∧
    ∀ s timeOfDay, (∃ e, jalaliToGregorianDate jalaali s timeOfDay = .error e) ↔
      isValidJalaliDate jalaali s = false :=
  ⟨normalizePersianDigits_idem, normalizePersianDigits_toPersianDigits,
    fun _ _ differ => ⟨normalizePersianDigits_congr differ, blindIndex_congr hmac differ⟩,
    jalaliToGregorianDate_error_iff jalaali⟩

/-- A blank text has the normal form of the empty one, and a blind index. -/
theorem not_digits_canonical : ¬ ∀ (hmac : String → String) (s t : String), DifferInScript s t →
    normalizePersianDigits s = normalizePersianDigits t ∧
      blindIndex hmac s = blindIndex hmac t := by
  intro canonical
  have index := (canonical id "" " " .nil).2
  exact absurd index (by decide)

end Rokad.Auth
