import Rokad.Base.Sql
import Rokad.Common.Http
import Rokad.Common.Jalali

/-!
# Academic years and terms

A school marks one of its academic years as current, and one term of a year. The four calls that do
so end alike (`replacing`): a first statement takes the mark from the others, then the dates are
read, and a last statement writes the row. No transaction holds the statements together.
-/

namespace Rokad.Academic

open Rokad.Base Rokad.Common

/-! ### Tables -/

structure AcademicYear where
  (id tenantId : Id)
  name : String
  (startDate endDate : Instant)
  isCurrent : Bool := false
deriving DecidableEq

structure Term where
  (id tenantId academicYearId : Id)
  name : String
  (startDate endDate : Instant)
  isCurrent : Bool := false
deriving DecidableEq

instance : Record AcademicYear where
  key y := y.id
  clash a b := a.tenantId == b.tenantId && a.name == b.name

instance : Record Term where
  key t := t.id
  clash a b := a.academicYearId == b.academicYearId && a.name == b.name

structure Db where
  years : Table AcademicYear := .empty
  terms : Table Term := .empty

/-! ### Requests -/

/-- `new Date(text)`, with no value where it is invalid. -/
abbrev DateParser := String → Option Instant

structure CreateAcademicYearDto where
  (name startDate endDate : String)
  isCurrent : Option Bool := none

structure CreateTermDto where
  academicYearId : Id
  (name startDate endDate : String)
  isCurrent : Option Bool := none

/-- What an update is given, of a year or of a term. `isCurrent` can be `null`. -/
structure UpdateDto where
  (name startDate endDate : Option String := none)
  isCurrent : Option (Option Bool) := none

abbrev UpdateAcademicYearDto := UpdateDto

abbrev UpdateTermDto := UpdateDto

structure CreateData where
  name : String
  (startDate endDate : Instant)
  isCurrent : Bool

structure UpdateData where
  name : Option String
  (startDate endDate : Option Instant)
  isCurrent : Option Bool

section

variable (date : DateParser)

def createData (name startDate endDate : String) (isCurrent : Option Bool) :
    Result CreateData := do
  let startDate ← orFail (date startDate) (.thrown "Invalid Date")
  let endDate ← orFail (date endDate) (.thrown "Invalid Date")
  return { name, startDate, endDate, isCurrent := isCurrent.getD false }

def CreateAcademicYearDto.data (dto : CreateAcademicYearDto) : Result CreateData :=
  createData date dto.name dto.startDate dto.endDate dto.isCurrent

def CreateTermDto.data (dto : CreateTermDto) : Result CreateData :=
  createData date dto.name dto.startDate dto.endDate dto.isCurrent

/-- A value that is not given stays out of the update. -/
def given {α β : Type} (read : α → Option β) (message : String) :
    Option α → Result (Option β)
  | some a => (orFail (read a) (.thrown message)).map some
  | none => .ok none

def UpdateDto.data (dto : UpdateDto) : Result UpdateData := do
  let startDate ← given date "Invalid Date" (truthy dto.startDate)
  let endDate ← given date "Invalid Date" (truthy dto.endDate)
  let isCurrent ← given id "isCurrent must not be null" dto.isCurrent
  return { name := truthy dto.name, startDate, endDate, isCurrent }

end

/-! ### Statements -/

def CreateData.year (data : CreateData) (tenantId id : Id) : AcademicYear where
  id
  tenantId
  name := data.name
  startDate := data.startDate
  endDate := data.endDate
  isCurrent := data.isCurrent

def CreateData.term (data : CreateData) (tenantId academicYearId id : Id) : Term where
  id
  tenantId
  academicYearId
  name := data.name
  startDate := data.startDate
  endDate := data.endDate
  isCurrent := data.isCurrent

def UpdateData.year (data : UpdateData) (y : AcademicYear) : AcademicYear :=
  { y with
    name := data.name.getD y.name
    startDate := data.startDate.getD y.startDate
    endDate := data.endDate.getD y.endDate
    isCurrent := data.isCurrent.getD y.isCurrent }

def UpdateData.term (data : UpdateData) (t : Term) : Term :=
  { t with
    name := data.name.getD t.name
    startDate := data.startDate.getD t.startDate
    endDate := data.endDate.getD t.endDate
    isCurrent := data.isCurrent.getD t.isCurrent }

theorem UpdateData.key_year (data : UpdateData) (y : AcademicYear) :
    Record.key (data.year y) = Record.key y := rfl

theorem UpdateData.key_term (data : UpdateData) (t : Term) :
    Record.key (data.term t) = Record.key t := rfl

def AcademicYear.unmark (y : AcademicYear) : AcademicYear := { y with isCurrent := false }

def Term.unmark (t : Term) : Term := { t with isCurrent := false }

theorem AcademicYear.key_unmark (y : AcademicYear) : Record.key y.unmark = Record.key y := rfl

theorem Term.key_unmark (t : Term) : Record.key t.unmark = Record.key t := rfl

theorem AcademicYear.clash_unmark (a b : AcademicYear) :
    Record.clash a.unmark b = Record.clash a b := rfl

theorem Term.clash_unmark (a b : Term) : Record.clash a.unmark b = Record.clash a b := rfl

inductive Statement where
  /-- `updateMany`, of the years of a school, or of the others than one. -/
  | clearYears (tenantId : Id) (other : Option Id)
  | createYear (tenantId : Id) (data : CreateData)
  | updateYear (id : Id) (data : UpdateData)
  | clearTerms (tenantId academicYearId : Id) (other : Option Id)
  | createTerm (tenantId academicYearId : Id) (data : CreateData)
  | updateTerm (id : Id) (data : UpdateData)

def clearsYear (tenantId : Id) (other : Option Id) (y : AcademicYear) : Bool :=
  y.tenantId = tenantId && other ≠ some y.id

def clearsTerm (tenantId academicYearId : Id) (other : Option Id) (t : Term) : Bool :=
  t.tenantId = tenantId && t.academicYearId = academicYearId && other ≠ some t.id

def clearedYears (years : Table AcademicYear) (tenantId : Id) (other : Option Id) :
    Table AcademicYear :=
  years.updateMany (clearsYear tenantId other) AcademicYear.unmark AcademicYear.key_unmark
    AcademicYear.clash_unmark

def clearedTerms (terms : Table Term) (tenantId academicYearId : Id) (other : Option Id) :
    Table Term :=
  terms.updateMany (clearsTerm tenantId academicYearId other) Term.unmark Term.key_unmark
    Term.clash_unmark

/-- What a statement returns. -/
inductive Made where
  | count (n : ℕ)
  | year (year : AcademicYear)
  | yearWithTerms (year : AcademicYear) (terms : List Term)
  | term (term : Term)
deriving DecidableEq

def write : Statement → Db → Result (Db × Made)
  | .clearYears tenantId other, db =>
    .ok ({ db with years := clearedYears db.years tenantId other },
      .count (db.years.count (clearsYear tenantId other)))
  | .createYear tenantId data, db => do
      let year := data.year tenantId db.years.fresh
      let years ← insertRow db.years year
      return ({ db with years }, .year year)
  | .updateYear id data, db => do
      let year ← orFail (db.years.find? id) (.database .recordNotFound)
      let years ← updateRow db.years id data.year data.key_year
      return ({ db with years },
        .yearWithTerms (data.year year) (db.terms.rows.filter (·.academicYearId = id)))
  | .clearTerms tenantId academicYearId other, db =>
    .ok ({ db with terms := clearedTerms db.terms tenantId academicYearId other },
      .count (db.terms.count (clearsTerm tenantId academicYearId other)))
  | .createTerm tenantId academicYearId data, db => do
      referred db.years (some academicYearId)
      let term := data.term tenantId academicYearId db.terms.fresh
      let terms ← insertRow db.terms term
      return ({ db with terms }, .term term)
  | .updateTerm id data, db => do
      let term ← orFail (db.terms.find? id) (.database .recordNotFound)
      let terms ← updateRow db.terms id data.term data.key_term
      return ({ db with terms }, .term (data.term term))

/-! ### Calls -/

abbrev AcademicCall := Sql Db Statement Made Failure

/-- The end of each call: with `isCurrent`, the others are cleared first. -/
def replacing {δ : Type} (isCurrent : Bool) (clear : Statement) (data : Result δ)
    (store : δ → Statement) : AcademicCall Made := do
  let _ ← if isCurrent then Sql.perform clear else pure (.count 0)
  let data ← Prog.ret data
  Sql.perform (store data)

def Db.yearOf (db : Db) (tenantId id : Id) : Option AcademicYear :=
  (db.years.find? id).filter (·.tenantId = tenantId)

def Db.termOf (db : Db) (tenantId id : Id) : Option Term :=
  (db.terms.find? id).filter (·.tenantId = tenantId)

/-- No other year of the school has the name. -/
def Db.nameFree (db : Db) (tenantId : Id) (name : String) (other : Option Id) : Bool :=
  db.years.rows.all fun y => !(y.tenantId = tenantId && y.name = name && other ≠ some y.id)

def alreadyRegistered (name : String) : Failure :=
  .conflict ("سال تحصیلی '" ++ name ++ "' قبلاً ثبت شده است")

def yearNotFound : Failure := .notFound "سال تحصیلی مورد نظر یافت نشد"

/-- A new name is looked for among the other years. -/
def checkName (tenantId : Id) (year : AcademicYear) (dto : UpdateAcademicYearDto) :
    AcademicCall Unit :=
  match truthy dto.name with
  | some name =>
    if name = year.name then pure ()
    else do
      let db ← Sql.snapshot
      Prog.ret (require (db.nameFree tenantId name (some year.id) = true)
        (alreadyRegistered name))
  | none => pure ()

variable (date : DateParser)

def createAcademicYear (tenantId : Id) (dto : CreateAcademicYearDto) : AcademicCall Made := do
  let db ← Sql.snapshot
  Prog.ret (require (db.nameFree tenantId dto.name none = true) (alreadyRegistered dto.name))
  replacing (dto.isCurrent.getD false) (.clearYears tenantId none) (dto.data date)
    (.createYear tenantId)

def updateAcademicYear (tenantId id : Id) (dto : UpdateAcademicYearDto) : AcademicCall Made := do
  let db ← Sql.snapshot
  let year ← Prog.ret (orFail (db.yearOf tenantId id) yearNotFound)
  checkName tenantId year dto
  replacing (dto.isCurrent = some (some true)) (.clearYears tenantId (some id)) (dto.data date)
    (.updateYear id)

def createTerm (tenantId : Id) (dto : CreateTermDto) : AcademicCall Made := do
  let db ← Sql.snapshot
  let _ ← Prog.ret (orFail (db.yearOf tenantId dto.academicYearId) yearNotFound)
  replacing (dto.isCurrent.getD false) (.clearTerms tenantId dto.academicYearId none)
    (dto.data date) (.createTerm tenantId dto.academicYearId)

def updateTerm (tenantId id : Id) (dto : UpdateTermDto) : AcademicCall Made := do
  let db ← Sql.snapshot
  let term ← Prog.ret (orFail (db.termOf tenantId id)
    (.notFound "نیم‌سال تحصیلی مورد نظر یافت نشد"))
  replacing (dto.isCurrent = some (some true)) (.clearTerms tenantId term.academicYearId (some id))
    (dto.data date) (.updateTerm id)

inductive Call where
  | createAcademicYear (tenantId : Id) (dto : CreateAcademicYearDto)
  | updateAcademicYear (tenantId id : Id) (dto : UpdateAcademicYearDto)
  | createTerm (tenantId : Id) (dto : CreateTermDto)
  | updateTerm (tenantId id : Id) (dto : UpdateTermDto)

def Call.program : Call → AcademicCall Made
  | .createAcademicYear tenantId dto => Academic.createAcademicYear date tenantId dto
  | .updateAcademicYear tenantId id dto => Academic.updateAcademicYear date tenantId id dto
  | .createTerm tenantId dto => Academic.createTerm date tenantId dto
  | .updateTerm tenantId id dto => Academic.updateTerm date tenantId id dto

def start {ι : Type} (db : Db) (calls : ι → Call) : Threads Db (AcademicCall Made) ι :=
  ⟨db, fun i => (calls i).program date⟩

end Rokad.Academic
