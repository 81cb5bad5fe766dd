import Rokad.Base.Json
import Rokad.Base.Sql
import Rokad.Base.Text
import Rokad.Common.Http

/-!
# Settings of a school

The settings of a school are one JSON column with a section for each of four features. Every call
reads the column and later writes all of it back with its own section replaced. The calls on
categories first list them, which can itself write, and read the column again before they save.
-/

namespace Rokad.Tenants

open Rokad.Base Rokad.Common

/-- The column, which is an object or `null`. -/
structure Settings where
  (eventTypes eventCategories homeBanners branding : Option Json := none)
  others : List (String × Json) := []
deriving DecidableEq

/-! ### Values -/

mutual

/-- `String(value)` -/
def asString : Json → String
  | .null => "null"
  | .bool b => toString b
  | .num n => n.text
  | .str s => s
  | .arr items => ",".intercalate (asStrings items)
  | .obj _ => "[object Object]"

def asStrings : List Json → List String
  | [] => []
  | .null :: rest => "" :: asStrings rest
  | item :: rest => asString item :: asStrings rest

end

/-- `String(value || fallback).trim()` -/
def textOr (fallback : String) (value : Option Json) : String :=
  match value with
  | some v => trim (if v.truthy then asString v else fallback)
  | none => trim fallback

/-- `{ ...value, ...(given ? { [name]: given } : {}) }` -/
def withGiven (name : String) (given : Option Json) (value : Json) : Json :=
  match given with
  | some v => value.withProperty name v
  | none => value

/-! ### Sections -/

def sanitizeEventType (t : Json) : Json :=
  .obj
    [("code", .str (textOr "" (t.property "code"))),
      ("titleFa", .str (textOr "" (t.property "titleFa"))),
      ("color", .str (textOr "emerald" (t.property "color"))),
      ("baseType", .str (textOr "ACADEMIC" (t.property "baseType"))),
      ("isDefault", .bool ((t.property "isDefault").any Json.truthy))]

/-- What has no code or no title is left out. -/
def sanitizeEventTypes (eventTypes : List Json) : Result (List Json) := do
  require (∀ t ∈ eventTypes, t.isNull = false)
    (.thrown "Cannot read properties of null (reading 'code')")
  return (eventTypes.map sanitizeEventType).filter fun t =>
    (t.property "code").any Json.truthy && (t.property "titleFa").any Json.truthy

structure BannersDto where
  (slides bannerTypes : Option (List Json) := none)

def BannersDto.merge (data : BannersDto) (homeBanners : Option Json) : Json :=
  withGiven "bannerTypes" (data.bannerTypes.map .arr)
    (withGiven "slides" (data.slides.map .arr) (.obj (homeBanners.getD .null).spread))

structure UpdateTenantBrandingDto where
  (primaryColor secondaryColor faviconUrl backgroundImageUrl mottoText : Option String := none)
  customConfig : Option Json := none

/-- A value that is not given stays as it is. -/
def UpdateTenantBrandingDto.merge (dto : UpdateTenantBrandingDto) (branding : Option Json) : Json :=
  withGiven "customConfig" (dto.customConfig.filter Json.truthy)
    (withGiven "mottoText" ((truthy dto.mottoText).map .str)
      (withGiven "backgroundImageUrl" ((truthy dto.backgroundImageUrl).map .str)
        (withGiven "faviconUrl" ((truthy dto.faviconUrl).map .str)
          (withGiven "secondaryColor" ((truthy dto.secondaryColor).map .str)
            (withGiven "primaryColor" ((truthy dto.primaryColor).map .str)
              (.obj (branding.getD .null).spread))))))

/-! ### Categories -/

/-- `c.key === key` -/
def hasKey (key : Option Json) (c : Json) : Bool := Json.strictEq (c.property "key") key

def defaultCategory (key label icon : String) : Json :=
  .obj [("key", .str key), ("label", .str label), ("icon", .str icon), ("color", .str ""),
    ("removable", .bool true)]

def startupDefault : Json := defaultCategory "STARTUP_WEEKEND" "استارت‌آپ ویکند" "Rocket"

def defaultEventCategories : List Json :=
  [startupDefault, defaultCategory "ACADEMIC" "آموزشی و مهارت" "BookOpen",
    defaultCategory "CULTURAL" "فرهنگی و جشن‌ها" "PartyPopper",
    defaultCategory "SPORTS" "مسابقات و ورزش" "Trophy",
    defaultCategory "EXAM" "آزمون‌ها و سنجش" "Flame",
    defaultCategory "EXCURSION" "اردو و بازدید علمی" "Compass",
    defaultCategory "MEETING" "جلسات و شورا" "Users",
    defaultCategory "HOLIDAY" "تعطیلی و مناسبت" "CalendarDays"]

def getEventCategoriesFromSettings (settings : Settings) : Option (List Json) :=
  match settings.eventCategories with
  | some (.arr categories) => some categories
  | _ => none

def hasStartup (categories : List Json) : Bool :=
  categories.any (hasKey (some (.str "STARTUP_WEEKEND")))

/-- `{ removable: true, ...category }` -/
def newCategory (category : Json) : Json :=
  .obj (if (category.property "removable").isSome then category.spread
    else ("removable", .bool true) :: category.spread)

def addCategory (category : Json) (existing : List Json) : Result (List Json) := do
  require (existing.any (hasKey (category.property "key")) = false)
    (.conflict "کلید این دسته‌بندی قبلاً ثبت شده است")
  return existing ++ [newCategory category]

structure CategoryDto where
  (label icon color : Option Json := none)

def CategoryDto.apply (dto : CategoryDto) (c : Json) : Json :=
  withGiven "color" dto.color
    (withGiven "icon" dto.icon (withGiven "label" (dto.label.filter Json.truthy) (.obj c.spread)))

def categoryNotFound : Failure := .notFound "دسته‌بندی مورد نظر یافت نشد"

/-- The first with the key is changed. -/
def editCategory (key : String) (dto : CategoryDto) (existing : List Json) :
    Result (List Json) := do
  let idx ← orFail (existing.findIdx? (hasKey (some (.str key)))) categoryNotFound
  return existing.modify idx dto.apply

def removeCategory (key : String) (existing : List Json) : Result (List Json) := do
  require (existing.any (hasKey (some (.str key))) = true) categoryNotFound
  return existing.filter fun c => !hasKey (some (.str key)) c

/-! ### Calls -/

abbrev SettingsCall := Sql Settings Settings Unit Failure

/-- The whole column is written. -/
def write (settings : Settings) (_ : Settings) : Result (Settings × Unit) :=
  .ok (settings, ())

def updateEventTypes (eventTypes : List Json) : SettingsCall Json := do
  let settings ← Sql.snapshot
  let sanitized ← Prog.ret (sanitizeEventTypes eventTypes)
  Sql.perform { settings with eventTypes := some (.arr sanitized) }
  return .obj [("success", .bool true), ("eventTypes", .arr sanitized)]

def saveEventCategories (categories : List Json) : SettingsCall (List Json) := do
  let settings ← Sql.snapshot
  Sql.perform { settings with eventCategories := some (.arr categories) }
  return categories

def listEventCategories : SettingsCall (List Json) := do
  let settings ← Sql.snapshot
  match getEventCategoriesFromSettings settings with
  | some existing =>
    if hasStartup existing then pure existing
    else saveEventCategories (startupDefault :: existing)
  | none => saveEventCategories defaultEventCategories

/-- The categories are listed, and saved as they are then changed. -/
def changeEventCategories (change : List Json → Result (List Json)) :
    SettingsCall (List Json) := do
  let existing ← listEventCategories
  let next ← Prog.ret (change existing)
  saveEventCategories next

def createEventCategory (category : Json) : SettingsCall Json := do
  let next ← changeEventCategories (addCategory category)
  return .obj [("message", .str "دسته‌بندی با موفقیت ایجاد شد"), ("data", next.getLast?.getD .null)]

def updateEventCategory (key : String) (dto : CategoryDto) : SettingsCall Json := do
  let next ← changeEventCategories (editCategory key dto)
  return .obj [("message", .str "دسته‌بندی با موفقیت ویرایش شد"),
    ("data", (next.find? (hasKey (some (.str key)))).getD .null)]

def deleteEventCategory (key : String) : SettingsCall Json := do
  let _ ← changeEventCategories (removeCategory key)
  return .obj [("message", .str "دسته‌بندی با موفقیت حذف شد")]

/-- `value || []` -/
def orEmpty (value : Option Json) : Json := (value.filter Json.truthy).getD (.arr [])

def updateBanners (data : BannersDto) : SettingsCall Json := do
  let settings ← Sql.snapshot
  let homeBanners := data.merge settings.homeBanners
  Sql.perform { settings with homeBanners := some homeBanners }
  return .obj [("slides", orEmpty (homeBanners.property "slides")),
    ("bannerTypes", orEmpty (homeBanners.property "bannerTypes"))]

/-- Of the row that is returned, its branding. -/
def updateTenantBranding (dto : UpdateTenantBrandingDto) : SettingsCall Json := do
  let settings ← Sql.snapshot
  let branding := dto.merge settings.branding
  Sql.perform { settings with branding := some branding }
  return branding

inductive Call where
  | updateEventTypes (eventTypes : List Json)
  | listEventCategories
  | createEventCategory (category : Json)
  | updateEventCategory (key : String) (dto : CategoryDto)
  | deleteEventCategory (key : String)
  | updateBanners (data : BannersDto)
  | updateTenantBranding (dto : UpdateTenantBrandingDto)

def Call.program : Call → SettingsCall Json
  | .updateEventTypes eventTypes => Tenants.updateEventTypes eventTypes
  | .listEventCategories => Tenants.listEventCategories >>= fun categories => pure (.arr categories)
  | .createEventCategory category => Tenants.createEventCategory category
  | .updateEventCategory key dto => Tenants.updateEventCategory key dto
  | .deleteEventCategory key => Tenants.deleteEventCategory key
  | .updateBanners data => Tenants.updateBanners data
  | .updateTenantBranding dto => Tenants.updateTenantBranding dto

def start {ι : Type} (settings : Settings) (calls : ι → Call) :
    Threads Settings (SettingsCall Json) ι :=
  ⟨settings, fun i => (calls i).program⟩

/-- A call from its begin to its end, with no other in between. -/
def alone (settings : Settings) (call : Call) : Settings :=
  (call.program.run (Sql.exec write) settings).1

end Rokad.Tenants
