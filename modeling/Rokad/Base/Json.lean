import Mathlib.Tactic

/-!
# JSON as text

Values, what `JSON.stringify` prints of them, and when two texts joined by bars can be told apart.
In a printed value a bar stands only within a string, so what follows it cannot itself be a printed
value (`Balanced.apart`): joined fields of which the last is a printed value, or has no bar, are
determined by the joined text (`last_field`). A printed value determines the value
(`stringify_injective`).
-/

namespace Rokad.Base

/-- What `String(n)` prints of a finite number. -/
structure Numeral where
  text : String
  plain : text ≠ "" ∧
    text.toList.all (fun c => c.isDigit || c = '-' || c = '+' || c = '.' || c = 'e') = true
deriving DecidableEq

/-- A JSON value; the entries of an object in the order of its keys. -/
inductive Json where
  | null
  | bool (b : Bool)
  | num (n : Numeral)
  | str (s : String)
  | arr (items : List Json)
  | obj (entries : List (String × Json))

namespace Json

/-- What JavaScript takes for true: not `null`, `false`, `0` or the empty string. -/
def truthy : Json → Bool
  | .null => false
  | .bool b => b
  | .num n => n.text ≠ "0"
  | .str s => s ≠ ""
  | .arr _ | .obj _ => true

/-! ### Equality -/

mutual

def beq : Json → Json → Bool
  | .null, .null => true
  | .bool a, .bool b => a == b
  | .num a, .num b => decide (a = b)
  | .str a, .str b => a == b
  | .arr a, .arr b => beqItems a b
  | .obj a, .obj b => beqEntries a b
  | _, _ => false

def beqItems : List Json → List Json → Bool
  | [], [] => true
  | a :: as, b :: bs => beq a b && beqItems as bs
  | _, _ => false

def beqEntries : List (String × Json) → List (String × Json) → Bool
  | [], [] => true
  | (key, a) :: as, (key', b) :: bs => key == key' && beq a b && beqEntries as bs
  | _, _ => false

end

mutual

theorem beq_iff : ∀ a b : Json, beq a b = true ↔ a = b
  | .null, b => by cases b <;> simp [beq]
  | .bool a, b => by cases b <;> simp [beq]
  | .num a, b => by cases b <;> simp [beq]
  | .str a, b => by cases b <;> simp [beq]
  | .arr a, b => by
      cases b with
      | arr b => simp [beq, beqItems_iff a b]
      | _ => simp [beq]
  | .obj a, b => by
      cases b with
      | obj b => simp [beq, beqEntries_iff a b]
      | _ => simp [beq]

theorem beqItems_iff : ∀ a b : List Json, beqItems a b = true ↔ a = b
  | [], b => by cases b <;> simp [beqItems]
  | x :: xs, b => by
      cases b with
      | nil => simp [beqItems]
      | cons y ys => simp [beqItems, beq_iff x y, beqItems_iff xs ys]

theorem beqEntries_iff : ∀ a b : List (String × Json), beqEntries a b = true ↔ a = b
  | [], b => by cases b <;> simp [beqEntries]
  | (key, x) :: xs, b => by
      cases b with
      | nil => simp [beqEntries]
      | cons y ys =>
        obtain ⟨key', y⟩ := y
        simp [beqEntries, beq_iff x y, beqEntries_iff xs ys]

end

instance : DecidableEq Json := fun a b => decidable_of_iff _ (beq_iff a b)

/-! ### Properties -/

def isNull : Json → Bool
  | .null => true
  | _ => false

/-- `value[name]`, for a name that is no index; `undefined` if there is none. -/
def property (value : Json) (name : String) : Option Json :=
  match value with
  | .obj entries => entries.lookup name
  | _ => none

/-- `{ ...value }` -/
def spread : Json → List (String × Json)
  | .obj entries => entries
  | .arr items => items.mapIdx fun i item => (toString i, item)
  | .str s => s.toList.mapIdx fun i c => (toString i, .str c.toString)
  | _ => []

/-- `{ ...value, [name]: given }`, up to the order of the keys. -/
def withProperty (value : Json) (name : String) (given : Json) : Json :=
  .obj ((name, given) :: value.spread.filter (·.1 ≠ name))

@[simp] theorem property_withProperty (value : Json) (name : String) (given : Json) :
    (value.withProperty name given).property name = some given := by
  simp [property, withProperty]

/-- `a === b`, of values from two places: two arrays or objects are never the same. -/
def strictEq : Option Json → Option Json → Bool
  | none, none => true
  | some .null, some .null => true
  | some (.bool a), some (.bool b) => a == b
  | some (.num a), some (.num b) => a == b
  | some (.str a), some (.str b) => a == b
  | _, _ => false

@[simp] theorem strictEq_str {value : Option Json} {s : String} :
    strictEq value (some (.str s)) = true ↔ value = some (.str s) := by
  unfold strictEq
  split <;> simp_all

/-! ### As text -/

mutual

/-- `String(value)`. An object that has a `toString` of its own is not taken to a text: the call
throws. -/
def asText : Json → Option String
  | .null => some "null"
  | .bool b => some (if b then "true" else "false")
  | .num n => some n.text
  | .str s => some s
  | .arr items => (itemTexts items).map (String.intercalate ",")
  | .obj entries => if (entries.lookup "toString").isSome then none else some "[object Object]"

/-- The texts that `join` puts together; `null` leaves its place empty. -/
def itemTexts : List Json → Option (List String)
  | [] => some []
  | item :: items => do
      let text ← if item.isNull then some "" else asText item
      let texts ← itemTexts items
      pure (text :: texts)

end

/-! ### Printing -/

def hexDigit (n : ℕ) : Char := "0123456789abcdef".toList.getD n '0'

def escapeChar (c : Char) : List Char :=
  if c = '"' then ['\\', '"']
  else if c = '\\' then ['\\', '\\']
  else if c.toNat = 8 then ['\\', 'b']
  else if c.toNat = 9 then ['\\', 't']
  else if c.toNat = 10 then ['\\', 'n']
  else if c.toNat = 12 then ['\\', 'f']
  else if c.toNat = 13 then ['\\', 'r']
  else if c.toNat < 32 then
    ['\\', 'u', '0', '0', hexDigit (c.toNat / 16), hexDigit (c.toNat % 16)]
  else [c]

def quote (s : String) : List Char := '"' :: s.toList.flatMap escapeChar ++ ['"']

mutual

def text : Json → List Char
  | .null => ['n', 'u', 'l', 'l']
  | .bool true => ['t', 'r', 'u', 'e']
  | .bool false => ['f', 'a', 'l', 's', 'e']
  | .num n => n.text.toList
  | .str s => quote s
  | .arr items => '[' :: (itemsText items).drop 1 ++ [']']
  | .obj entries => '\x7b' :: (entriesText entries).drop 1 ++ ['\x7d']

/-- Each item after a comma. -/
def itemsText : List Json → List Char
  | [] => []
  | item :: items => ',' :: text item ++ itemsText items

def entriesText : List (String × Json) → List Char
  | [] => []
  | (key, value) :: entries => ',' :: quote key ++ ':' :: text value ++ entriesText entries

end

/-- `JSON.stringify(value)` -/
def stringify (value : Json) : String := String.ofList value.text

mutual

/-- The value with the keys of every object in order: what is left when their order is not told. -/
def sorted : Json → Json
  | .arr items => .arr (sortedItems items)
  | .obj entries => .obj ((sortedEntries entries).insertionSort fun a b => a.1 ≤ b.1)
  | value => value

def sortedItems : List Json → List Json
  | [] => []
  | item :: items => sorted item :: sortedItems items

def sortedEntries : List (String × Json) → List (String × Json)
  | [] => []
  | (key, value) :: entries => (key, sorted value) :: sortedEntries entries

end

/-! ### Strings and what is around them -/

/-- Where in a printed value a character stands. -/
inductive Place where
  | outside | inside | escaped
deriving DecidableEq

def Place.next : Place → Char → Option Place
  | .outside, c => if c = '"' then some .inside else if c = '\\' ∨ c = '|' then none
      else some .outside
  | .inside, c => if c = '"' then some .outside else if c = '\\' then some .escaped
      else some .inside
  | .escaped, _ => some .inside

def scan : Place → List Char → Option Place
  | p, [] => some p
  | p, c :: cs => (p.next c).bind fun q => scan q cs

theorem scan_append (p : Place) (xs ys : List Char) :
    scan p (xs ++ ys) = (scan p xs).bind fun q => scan q ys := by
  induction xs generalizing p with
  | nil => rfl
  | cons c cs ih =>
    simp only [List.cons_append, scan]
    cases p.next c with
    | none => rfl
    | some q => exact ih q

/-- The text opens no string that it does not close, and has no bar outside its strings. -/
def Balanced (cs : List Char) : Prop := scan .outside cs = some .outside
deriving Decidable

namespace Balanced

theorem nil : Balanced [] := rfl

theorem append {xs ys : List Char} (first : Balanced xs) (second : Balanced ys) :
    Balanced (xs ++ ys) := by
  unfold Balanced at *
  rw [scan_append, first]
  exact second

theorem cons {c : Char} {cs : List Char} (plain : Place.outside.next c = some .outside)
    (rest : Balanced cs) : Balanced (c :: cs) := by
  unfold Balanced at *
  rw [scan, plain]
  exact rest

theorem of_plain {cs : List Char} (plain : ∀ c ∈ cs, Place.outside.next c = some .outside) :
    Balanced cs := by
  induction cs with
  | nil => exact nil
  | cons c cs ih =>
    exact cons (plain c List.mem_cons_self) (ih fun d mem => plain d (List.mem_cons_of_mem _ mem))

/-- Seen from outside and from inside a string, a text leads to opposite places. -/
theorem opposite {cs : List Char} {p q : Place} (fromOutside : scan .outside cs = some p)
    (fromInside : scan .inside cs = some q) :
    p = .outside ∧ q = .inside ∨ p = .inside ∧ q = .outside := by
  have swap : ∀ cs : List Char, ∀ {p q : Place},
      (scan .outside cs = some p → scan .inside cs = some q →
        p = .outside ∧ q = .inside ∨ p = .inside ∧ q = .outside) := by
    intro cs
    induction cs with
    | nil =>
      intro p q first second
      cases first
      cases second
      exact .inl ⟨rfl, rfl⟩
    | cons c cs ih =>
      intro p q first second
      by_cases isQuote : c = '"'
      · have first : scan .inside cs = some p := by simpa [scan, Place.next, isQuote] using first
        have second : scan .outside cs = some q := by
          simpa [scan, Place.next, isQuote] using second
        rcases ih second first with ⟨rfl, rfl⟩ | ⟨rfl, rfl⟩
        · exact .inr ⟨rfl, rfl⟩
        · exact .inl ⟨rfl, rfl⟩
      · by_cases isBackslash : c = '\\'
        · simp [scan, Place.next, isBackslash] at first
        · by_cases isBar : c = '|'
          · simp [scan, Place.next, isBar] at first
          · refine ih ?_ ?_
            · simpa [scan, Place.next, isQuote, isBackslash, isBar] using first
            · simpa [scan, Place.next, isQuote, isBackslash] using second
  exact swap cs fromOutside fromInside

/-- After a bar of a balanced text comes no balanced text. -/
theorem apart {xs ys : List Char} (whole : Balanced (xs ++ '|' :: ys)) : ¬ Balanced ys := by
  intro rest
  unfold Balanced at whole rest
  rw [scan_append] at whole
  cases before : scan .outside xs with
  | none => simp [before] at whole
  | some place =>
    have inside : scan .inside ys = some .outside := by
      cases place with
      | outside => simp [before, scan, Place.next] at whole
      | inside | escaped => simpa [before, scan, Place.next] using whole
    rcases opposite rest inside with ⟨-, ⟨⟩⟩ | ⟨⟨⟩, -⟩

end Balanced

/-! ### Printed values are balanced -/

theorem scan_hexDigit (n : ℕ) (cs : List Char) :
    scan .inside (hexDigit n :: cs) = scan .inside cs := by
  have digit : hexDigit n ∈ "0123456789abcdef".toList := by
    unfold hexDigit
    rw [List.getD_eq_getElem?_getD]
    cases found : "0123456789abcdef".toList[n]? with
    | none => decide
    | some c => exact List.mem_of_getElem? found
  have plain : ∀ c ∈ "0123456789abcdef".toList, (Place.inside.next c == some .inside) = true :=
    List.all_eq_true.mp (by decide)
  rw [scan, eq_of_beq (plain _ digit)]
  rfl

theorem scan_escapeChar (c : Char) (cs : List Char) :
    scan .inside (escapeChar c ++ cs) = scan .inside cs := by
  unfold escapeChar
  split_ifs with isQuote isBackslash
  case pos | pos | pos | pos | pos | pos | pos => simp [scan, Place.next]
  case pos =>
      have start : scan .inside (['\\', 'u', '0', '0', hexDigit (c.toNat / 16),
          hexDigit (c.toNat % 16)] ++ cs) =
          scan .inside (hexDigit (c.toNat / 16) :: hexDigit (c.toNat % 16) :: cs) := rfl
      rw [start, scan_hexDigit, scan_hexDigit]
  case neg => simp [scan, Place.next, isQuote, isBackslash]

theorem balanced_quote (s : String) : Balanced (quote s) := by
  have inner : ∀ cs : List Char, scan .inside (cs.flatMap escapeChar ++ ['"']) = some .outside := by
    intro cs
    induction cs with
    | nil => rfl
    | cons c cs ih => rw [List.flatMap_cons, List.append_assoc, scan_escapeChar, ih]
  exact inner s.toList

mutual

theorem balanced_text : ∀ value : Json, Balanced value.text
  | .null | .bool true | .bool false => by decide
  | .num n => Balanced.of_plain fun c mem => by
      have plain := List.all_eq_true.mp n.plain.2 c mem
      have other : c ≠ '"' ∧ c ≠ '\\' ∧ c ≠ '|' := by
        refine ⟨?_, ?_, ?_⟩ <;> (rintro rfl; exact absurd plain (by decide))
      simp [Place.next, other]
  | .str s => balanced_quote s
  | .arr items => by
      rw [text]
      exact ((balanced_itemsText items).append (by decide : Balanced [']'])).cons (by decide)
  | .obj entries => by
      rw [text]
      exact ((balanced_entriesText entries).append (by decide : Balanced ['\x7d'])).cons (by decide)

theorem balanced_itemsText : ∀ items : List Json, Balanced ((itemsText items).drop 1)
  | [] => by decide
  | item :: items => by
      have rest : Balanced (itemsText items) := by
        cases items with
        | nil => exact .nil
        | cons next items => exact .cons (by decide) (balanced_itemsText (next :: items))
      rw [itemsText]
      exact (balanced_text item).append rest

theorem balanced_entriesText :
    ∀ entries : List (String × Json), Balanced ((entriesText entries).drop 1)
  | [] => by decide
  | (key, value) :: entries => by
      have rest : Balanced (entriesText entries) := by
        cases entries with
        | nil => exact .nil
        | cons next entries => exact .cons (by decide) (balanced_entriesText (next :: entries))
      rw [entriesText, List.append_assoc]
      exact (balanced_quote key).append
        (Balanced.cons (c := ':') (by decide) ((balanced_text value).append rest))

end

/-! ### Printed values are told apart -/

def isNumeralChar (c : Char) : Bool := c.isDigit || c = '-' || c = '+' || c = '.' || c = 'e'

/-- No numeral goes on here. -/
def Ends (cs : List Char) : Prop := ∀ c ∈ cs.head?, isNumeralChar c = false

theorem Ends.cons {c : Char} {cs : List Char} (other : isNumeralChar c = false) :
    Ends (c :: cs) := by
  simpa [Ends] using other

theorem numeral_front {xs ys r s : List Char} (plain : xs.all isNumeralChar = true)
    (plain' : ys.all isNumeralChar = true) (ends : Ends r) (ends' : Ends s)
    (same : xs ++ r = ys ++ s) : xs = ys ∧ r = s := by
  have cut : ∀ {xs r : List Char}, xs.all isNumeralChar = true → Ends r →
      (xs ++ r).takeWhile isNumeralChar = xs := by
    intro xs r plain ends
    rw [List.takeWhile_append_of_pos (List.all_eq_true.mp plain)]
    cases r with
    | nil => simp
    | cons c cs => simp [ends c rfl]
  have first := cut plain ends
  rw [same, cut plain' ends'] at first
  subst first
  exact ⟨rfl, List.append_cancel_left same⟩

/-- The characters that are not printed as they are. -/
def escaped : List Char := '"' :: '\\' :: (List.range 32).map Char.ofNat

theorem escapeChar_of_plain {c : Char} (plain : c ∉ escaped) : escapeChar c = [c] := by
  have printed : ¬ c.toNat < 32 := by
    intro low
    refine plain (List.mem_cons_of_mem _ (List.mem_cons_of_mem _ ?_))
    exact List.mem_map.mpr ⟨c.toNat, List.mem_range.mpr low, Char.ofNat_toNat c⟩
  have isQuote : c ≠ '"' := by
    rintro rfl
    exact plain (by decide)
  have isBackslash : c ≠ '\\' := by
    rintro rfl
    exact plain (by decide)
  unfold escapeChar
  simp only [isQuote, isBackslash, printed, if_false]
  simp only [show c.toNat ≠ 8 by omega, show c.toNat ≠ 9 by omega, show c.toNat ≠ 10 by omega,
    show c.toNat ≠ 12 by omega, show c.toNat ≠ 13 by omega, if_false]

theorem escapeChar_head {c : Char} (mem : c ∈ escaped) : (escapeChar c).head? = some '\\' := by
  have all : escaped.all (fun c => (escapeChar c).head? == some '\\') = true := by decide +kernel
  exact eq_of_beq (List.all_eq_true.mp all c mem)

theorem escapeChar_front {c d : Char} {r s : List Char}
    (same : escapeChar c ++ r = escapeChar d ++ s) : c = d ∧ r = s := by
  have apart : ∀ c ∈ escaped, ∀ d ∈ escaped, escapeChar c <+: escapeChar d → c = d := by
    have all : escaped.all (fun c => escaped.all fun d =>
        decide (escapeChar c <+: escapeChar d → c = d)) = true := by
      decide +kernel
    intro c mem d memD
    exact of_decide_eq_true (List.all_eq_true.mp (List.all_eq_true.mp all c mem) d memD)
  have first : (escapeChar c ++ r).head? = (escapeChar d ++ s).head? := congrArg _ same
  have both : c = d := by
    by_cases inList : c ∈ escaped <;> by_cases inList' : d ∈ escaped
    · rcases List.prefix_or_prefix_of_prefix (List.prefix_append (escapeChar c) r)
        (same ▸ List.prefix_append (escapeChar d) s) with shorter | shorter
      · exact apart c inList d inList' shorter
      · exact (apart d inList' c inList shorter).symm
    · rw [List.head?_append, escapeChar_head inList, escapeChar_of_plain inList'] at first
      cases first
      exact absurd (by decide) inList'
    · rw [List.head?_append, List.head?_append, escapeChar_head inList', escapeChar_of_plain inList]
        at first
      cases first
      exact absurd (by decide) inList
    · rw [escapeChar_of_plain inList, escapeChar_of_plain inList'] at first
      exact Option.some.inj first
  subst both
  exact ⟨rfl, List.append_cancel_left same⟩

theorem escapeChar_ne_quote (c : Char) (xs ys : List Char) : escapeChar c ++ xs ≠ '"' :: ys := by
  intro same
  have first : (escapeChar c ++ xs).head? = some '"' := by rw [same]; rfl
  by_cases inList : c ∈ escaped
  · rw [List.head?_append, escapeChar_head inList] at first
    cases first
  · rw [escapeChar_of_plain inList] at first
    cases first
    exact inList (by decide)

theorem quote_front {x y : String} {r s : List Char} (same : quote x ++ r = quote y ++ s) :
    x = y ∧ r = s := by
  have inner : ∀ xs ys : List Char, xs.flatMap escapeChar ++ '"' :: r =
      ys.flatMap escapeChar ++ '"' :: s → xs = ys ∧ r = s := by
    intro xs
    induction xs with
    | nil =>
      intro ys same
      cases ys with
      | nil => exact ⟨rfl, (List.cons.inj same).2⟩
      | cons d ys =>
        rw [List.flatMap_cons, List.append_assoc] at same
        exact absurd same.symm (escapeChar_ne_quote d _ _)
    | cons c xs ih =>
      intro ys same
      rw [List.flatMap_cons, List.append_assoc] at same
      cases ys with
      | nil => exact absurd same (escapeChar_ne_quote c _ _)
      | cons d ys =>
        rw [List.flatMap_cons, List.append_assoc] at same
        obtain ⟨rfl, rest⟩ := escapeChar_front same
        obtain ⟨rfl, tail⟩ := ih ys rest
        exact ⟨rfl, tail⟩
  have same : (x.toList.flatMap escapeChar ++ ['"']) ++ r =
      (y.toList.flatMap escapeChar ++ ['"']) ++ s := (List.cons.inj same).2
  rw [List.append_assoc, List.append_assoc] at same
  obtain ⟨chars, rest⟩ := inner _ _ same
  exact ⟨String.toList_injective chars, rest⟩

/-- The kind of a value, by the first character of its text. -/
def kindOf (c : Char) : Option Char := if isNumeralChar c then none else some c

def kind : Json → Option Char
  | .null => some 'n'
  | .bool b => some (if b then 't' else 'f')
  | .num _ => none
  | .str _ => some '"'
  | .arr _ => some '['
  | .obj _ => some '\x7b'

theorem text_eq_cons (value : Json) : ∃ c cs, value.text = c :: cs ∧ kindOf c = value.kind := by
  cases value with
  | num n =>
    obtain ⟨nonempty, plain⟩ := n.plain
    cases chars : n.text.toList with
    | nil => exact absurd (String.toList_injective chars) nonempty
    | cons c cs =>
      rw [chars] at plain
      exact ⟨c, cs, by rw [text, chars], if_pos (List.all_eq_true.mp plain c List.mem_cons_self)⟩
  | bool b => cases b <;> exact ⟨_, _, by rw [text], by decide⟩
  | null => exact ⟨_, _, by rw [text], by decide⟩
  | str s => exact ⟨_, _, rfl, rfl⟩
  | arr items => exact ⟨_, _, by rw [text]; rfl, rfl⟩
  | obj entries => exact ⟨_, _, by rw [text]; rfl, rfl⟩

theorem kind_eq {v w : Json} {r s : List Char} (same : v.text ++ r = w.text ++ s) :
    v.kind = w.kind := by
  obtain ⟨c, cs, textV, kindV⟩ := v.text_eq_cons
  obtain ⟨d, ds, textW, kindW⟩ := w.text_eq_cons
  rw [textV, textW] at same
  rw [← kindV, ← kindW, (List.cons.inj same).1]

theorem text_ne_cons {v : Json} {c : Char} {r s : List Char} (other : kindOf c ≠ v.kind) :
    v.text ++ r ≠ c :: s := by
  obtain ⟨d, ds, printed, kind⟩ := v.text_eq_cons
  rw [printed]
  rintro ⟨⟩
  exact other kind

theorem ends_items (items : List Json) (r : List Char) : Ends (itemsText items ++ ']' :: r) := by
  cases items with
  | nil => exact .cons (by decide)
  | cons item items => exact .cons (by decide)

theorem ends_entries (entries : List (String × Json)) (r : List Char) :
    Ends (entriesText entries ++ '\x7d' :: r) := by
  cases entries with
  | nil => exact .cons (by decide)
  | cons entry entries => exact .cons (by decide)

theorem kind_bool_ne {b : Bool} {c : Char} (other : c ≠ 't' ∧ c ≠ 'f') :
    some c ≠ (bool b).kind := by
  cases b
  · exact fun same => other.2 (Option.some.inj same)
  · exact fun same => other.1 (Option.some.inj same)

theorem eq_arr {w : Json} (is : some '[' = w.kind) : ∃ items, w = .arr items := by
  cases w with
  | arr items => exact ⟨items, rfl⟩
  | bool b => exact absurd is (kind_bool_ne (by decide))
  | _ => exact absurd is (by simp [kind])

theorem eq_obj {w : Json} (is : some '\x7b' = w.kind) : ∃ entries, w = .obj entries := by
  cases w with
  | obj entries => exact ⟨entries, rfl⟩
  | bool b => exact absurd is (kind_bool_ne (by decide))
  | _ => exact absurd is (by simp [kind])

theorem eq_str {w : Json} (is : some '"' = w.kind) : ∃ s, w = .str s := by
  cases w with
  | str s => exact ⟨s, rfl⟩
  | bool b => exact absurd is (kind_bool_ne (by decide))
  | _ => exact absurd is (by simp [kind])

theorem eq_num {w : Json} (is : none = w.kind) : ∃ n, w = .num n := by
  cases w with
  | num n => exact ⟨n, rfl⟩
  | _ => cases is

theorem eq_null {w : Json} (is : some 'n' = w.kind) : w = .null := by
  cases w with
  | null => rfl
  | bool b => exact absurd is (kind_bool_ne (by decide))
  | _ => exact absurd is (by simp [kind])

theorem eq_bool {w : Json} {b : Bool} (is : (bool b).kind = w.kind) : w = .bool b := by
  cases w with
  | bool b' => cases b <;> cases b' <;> first | rfl | exact absurd is (by decide)
  | null | str | arr | obj => exact absurd is.symm (kind_bool_ne (by decide))
  | num n => cases is

theorem not_kind_close (v : Json) : kindOf ']' ≠ v.kind ∧ kindOf '\x7d' ≠ v.kind := by
  cases v with
  | bool b => cases b <;> decide
  | num n => exact ⟨nofun, nofun⟩
  | _ => constructor <;> simp [kind, kindOf, isNumeralChar]

mutual

/-- A printed value determines the value, and what comes after it. -/
theorem text_front : ∀ (v w : Json) {r s : List Char}, Ends r → Ends s →
    v.text ++ r = w.text ++ s → v = w ∧ r = s
  | .null, w, r, s, _, _, same => by
      obtain rfl := eq_null (kind_eq same)
      exact ⟨rfl, List.append_cancel_left same⟩
  | .bool b, w, r, s, _, _, same => by
      obtain rfl := eq_bool (kind_eq same)
      exact ⟨rfl, List.append_cancel_left same⟩
  | .num n, w, r, s, ends, ends', same => by
      obtain ⟨m, rfl⟩ := eq_num (kind_eq same)
      rw [text, text] at same
      obtain ⟨chars, rest⟩ := numeral_front n.plain.2 m.plain.2 ends ends' same
      have texts : n.text = m.text := String.toList_injective chars
      cases n
      cases m
      cases texts
      exact ⟨rfl, rest⟩
  | .str x, w, r, s, _, _, same => by
      obtain ⟨y, rfl⟩ := eq_str (kind_eq same)
      rw [text, text] at same
      obtain ⟨rfl, rest⟩ := quote_front same
      exact ⟨rfl, rest⟩
  | .arr xs, w, r, s, _, _, same => by
      obtain ⟨ys, rfl⟩ := eq_arr (kind_eq same)
      rw [text, text] at same
      simp only [List.cons_append, List.append_assoc, List.cons.injEq, true_and,
        List.nil_append] at same
      have whole : itemsText xs ++ ']' :: r = itemsText ys ++ ']' :: s := by
        cases xs with
        | nil =>
          cases ys with
          | nil => exact same
          | cons y ys =>
            simp only [itemsText, List.drop_nil, List.cons_append, List.drop_succ_cons,
              List.drop_zero, List.append_assoc, List.nil_append] at same
            exact absurd same.symm (text_ne_cons y.not_kind_close.1)
        | cons x xs =>
          cases ys with
          | nil =>
            simp only [itemsText, List.drop_nil, List.cons_append, List.drop_succ_cons,
              List.drop_zero, List.append_assoc, List.nil_append] at same
            exact absurd same (text_ne_cons x.not_kind_close.1)
          | cons y ys => exact congrArg (',' :: ·) same
      obtain ⟨rfl, rest⟩ := items_front xs ys whole
      exact ⟨rfl, rest⟩
  | .obj xs, w, r, s, _, _, same => by
      obtain ⟨ys, rfl⟩ := eq_obj (kind_eq same)
      rw [text, text] at same
      simp only [List.cons_append, List.append_assoc, List.cons.injEq, true_and,
        List.nil_append] at same
      have whole : entriesText xs ++ '\x7d' :: r = entriesText ys ++ '\x7d' :: s := by
        cases xs with
        | nil =>
          cases ys with
          | nil => exact same
          | cons y ys => exact absurd (List.cons.inj same).1 (by decide)
        | cons x xs =>
          cases ys with
          | nil => exact absurd (List.cons.inj same).1 (by decide)
          | cons y ys => exact congrArg (',' :: ·) same
      obtain ⟨rfl, rest⟩ := entries_front xs ys whole
      exact ⟨rfl, rest⟩

theorem items_front : ∀ (xs ys : List Json) {r s : List Char},
    itemsText xs ++ ']' :: r = itemsText ys ++ ']' :: s → xs = ys ∧ r = s
  | [], [], r, s, same => ⟨rfl, (List.cons.inj same).2⟩
  | [], y :: ys, r, s, same => absurd same (by simp [itemsText])
  | x :: xs, [], r, s, same => absurd same (by simp [itemsText])
  | x :: xs, y :: ys, r, s, same => by
      rw [itemsText, itemsText, List.cons_append, List.cons_append, List.append_assoc,
        List.append_assoc] at same
      obtain ⟨rfl, rest⟩ := text_front x y (ends_items xs r) (ends_items ys s)
        (List.cons.inj same).2
      obtain ⟨rfl, tail⟩ := items_front xs ys rest
      exact ⟨rfl, tail⟩

theorem entries_front : ∀ (xs ys : List (String × Json)) {r s : List Char},
    entriesText xs ++ '\x7d' :: r = entriesText ys ++ '\x7d' :: s → xs = ys ∧ r = s
  | [], [], r, s, same => ⟨rfl, (List.cons.inj same).2⟩
  | [], (l, w) :: ys, r, s, same => absurd same (by simp [entriesText])
  | (k, v) :: xs, [], r, s, same => absurd same (by simp [entriesText])
  | (k, v) :: xs, (l, w) :: ys, r, s, same => by
      simp only [entriesText, List.cons_append, List.append_assoc, List.cons.injEq, true_and]
        at same
      obtain ⟨rfl, printed⟩ := quote_front same
      obtain ⟨rfl, rest⟩ := text_front v w (ends_entries xs r) (ends_entries ys s)
        (List.cons.inj printed).2
      obtain ⟨rfl, tail⟩ := entries_front xs ys rest
      exact ⟨rfl, tail⟩

end

theorem stringify_injective : Function.Injective stringify := fun v w same =>
  (text_front v w (r := []) (s := []) nofun nofun
    (by simpa using String.ofList_injective same)).1

end Json

/-! ### Joined fields -/

/-- Where no last field can follow a bar within another, the joined text determines it. -/
theorem last_field {P : List Char → Prop}
    (apart : ∀ xs ys, P (xs ++ '|' :: ys) → ¬ P ys) {xs xs' ys ys' : List Char} (last : P ys)
    (last' : P ys') (same : xs ++ '|' :: ys = xs' ++ '|' :: ys') : xs = xs' ∧ ys = ys' := by
  rcases List.append_eq_append_iff.mp same with ⟨zs, rfl, tail⟩ | ⟨zs, rfl, tail⟩
  · cases zs with
    | nil =>
      cases tail
      exact ⟨(List.append_nil xs).symm, rfl⟩
    | cons c zs =>
      cases tail
      exact absurd last' (apart zs ys' last)
  · cases zs with
    | nil =>
      cases tail
      exact ⟨List.append_nil xs', rfl⟩
    | cons c zs =>
      cases tail
      exact absurd last (apart zs ys last')

theorem last_field_of_no_bar {xs xs' ys ys' : List Char} (last : '|' ∉ ys) (last' : '|' ∉ ys')
    (same : xs ++ '|' :: ys = xs' ++ '|' :: ys') : xs = xs' ∧ ys = ys' :=
  last_field (P := fun ys => '|' ∉ ys) (fun xs ys whole => absurd (by simp) whole) last last' same

theorem last_field_of_balanced {xs xs' ys ys' : List Char} (last : Json.Balanced ys)
    (last' : Json.Balanced ys') (same : xs ++ '|' :: ys = xs' ++ '|' :: ys') :
    xs = xs' ∧ ys = ys' :=
  last_field (fun _ _ whole => whole.apart) last last' same

end Rokad.Base
