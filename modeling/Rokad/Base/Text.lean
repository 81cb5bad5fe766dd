import Rokad.Base.Rounding

/-!
# Strings and numbers of the host language

What the ECMAScript standard library does where a program reads or writes text:
`trim`, `parseFloat`, the decimal a number prints as, and the Persian number format.

A number is the exact rational value of a double, an infinity or not-a-number.
`toDouble` rounds to the nearest double; `shortestDecimal` is the value `String(x)`
spells, the shortest decimal that reads back as the same double.
-/

namespace Rokad.Base

/-! ### Strings -/

/-- White space and line terminators. -/
def isSpace (c : Char) : Bool :=
  c.toNat ∈ [0x09, 0x0A, 0x0B, 0x0C, 0x0D, 0x20, 0xA0, 0x1680, 0x2028, 0x2029, 0x202F, 0x205F,
    0x3000, 0xFEFF] || (0x2000 ≤ c.toNat && c.toNat ≤ 0x200A)

def trim (s : String) : String :=
  String.ofList (((s.toList.dropWhile isSpace).reverse.dropWhile isSpace).reverse)

/-- What begins with no such element is left as it is. -/
theorem dropWhile_eq_self {α : Type} {p : α → Bool} {l : List α}
    (head : ∀ a ∈ l.head?, p a = false) : l.dropWhile p = l := by
  cases l with
  | nil => rfl
  | cons a l => rw [List.dropWhile_cons_of_neg (by simp [head a rfl])]

theorem head?_dropWhile {α : Type} (p : α → Bool) (l : List α) :
    ∀ a ∈ (l.dropWhile p).head?, p a = false := by
  intro a first
  have spec := List.head?_dropWhile_not p l
  rw [Option.mem_def.mp first] at spec
  exact spec

theorem trim_trim (s : String) : trim (trim s) = trim s := by
  have start : ∀ a ∈ (((s.toList.dropWhile isSpace).reverse.dropWhile isSpace).reverse).head?,
      isSpace a = false := by
    intro a first
    refine head?_dropWhile isSpace s.toList a ?_
    have suffix : (s.toList.dropWhile isSpace).reverse.dropWhile isSpace <:+
        (s.toList.dropWhile isSpace).reverse := List.dropWhile_suffix _
    obtain ⟨rest, whole⟩ := suffix
    have parts := congrArg List.reverse whole
    rw [List.reverse_append, List.reverse_reverse] at parts
    rw [← parts, List.head?_append, Option.mem_def.mp first]
    rfl
  unfold trim
  rw [String.toList_ofList, dropWhile_eq_self start, List.reverse_reverse,
    dropWhile_eq_self (head?_dropWhile isSpace _)]

/-- Lower case as far as a comparison with an ASCII word can see it: the ASCII
letters, and the Kelvin sign, the one other character whose lower case is ASCII alone. -/
def toLowerCase (s : String) : String :=
  s.map fun c => if c = '\u212A' then 'k' else c.toLower

def includes (s part : String) : Bool := s.toList.tails.any (part.toList.isPrefixOf ·)

def onlyDigits (s : String) : String := String.ofList (s.toList.filter Char.isDigit)

def withoutCommas (s : String) : String := String.ofList (s.toList.filter (· ≠ ','))

/-- `s.replace(/\s+/g, '')` -/
def withoutSpaces (s : String) : String := String.ofList (s.toList.filter fun c => !isSpace c)

/-- A number is told by its decimals. -/
theorem eq_of_toString_eq {m n : ℕ} (same : toString m = toString n) : m = n := by
  have digits : Nat.toDigits 10 m = Nat.toDigits 10 n := by
    rw [← Nat.toList_repr, ← Nat.toList_repr]
    exact congrArg String.toList same
  have values := congrArg (Nat.ofDigitChars 10 · 0) digits
  simpa [Nat.ofDigitChars_toDigits] using values

/-- The digits of a number end before a colon. -/
theorem takeWhile_isDigit_toString (n : ℕ) (rest : List Char) :
    ((toString n).toList ++ ':' :: rest).takeWhile Char.isDigit = (toString n).toList := by
  have digits : ∀ c ∈ (toString n).toList, c.isDigit = true := fun c mem => by
    rw [show toString n = Nat.repr n from rfl, Nat.toList_repr] at mem
    exact Nat.isDigit_of_mem_toDigits (by decide) (by decide) mem
  rw [List.takeWhile_append_of_pos digits, List.takeWhile_cons_of_neg (by decide), List.append_nil]

/-- `/^\d{n}$/` -/
def isDigits (n : ℕ) (s : String) : Bool := s.toList.length = n && s.toList.all Char.isDigit

/-- The last `n` characters, as `slice(-n)` takes them. -/
def lastChars (n : ℕ) (s : String) : String :=
  String.ofList (s.toList.drop (s.toList.length - n))

/-- `s.replace(/^0+/, '')` -/
def dropZeros (s : String) : String := String.ofList (s.toList.dropWhile (· = '0'))

/-- `/^\d+$/` -/
def isNumeric (s : String) : Bool := s ≠ "" && s.toList.all Char.isDigit

/-- A string that is present and not empty: what is truthy. -/
def truthy : Option String → Option String
  | some s => if s = "" then none else some s
  | none => none

theorem truthy_eq_some_iff {text : Option String} {s : String} :
    truthy text = some s ↔ text = some s ∧ s ≠ "" := by
  cases text with
  | none => simp [truthy]
  | some x =>
    simp only [truthy, Option.ite_none_left_eq_some, Option.some.injEq]
    exact ⟨fun ⟨nonempty, same⟩ => ⟨same, same ▸ nonempty⟩,
      fun ⟨same, nonempty⟩ => ⟨same ▸ nonempty, same⟩⟩

/-- Strings with prefixes of which neither begins the other differ. -/
theorem append_ne_append {p q : String} (apart : ¬ p.toList <+: q.toList ∧ ¬ q.toList <+: p.toList)
    (s t : String) : p ++ s ≠ q ++ t := by
  intro same
  have lists : p.toList ++ s.toList = q.toList ++ t.toList := by
    simpa using congrArg String.toList same
  have first : p.toList <+: q.toList ++ t.toList := ⟨_, lists⟩
  rcases List.prefix_or_prefix_of_prefix first (List.prefix_append _ _) with begins | begins
  · exact apart.1 begins
  · exact apart.2 begins

/-- What follows the last `sep`, as `s.split(sep).pop()`. -/
def afterLast (sep : Char) (s : String) : String :=
  String.ofList (s.toList.reverse.takeWhile (· ≠ sep)).reverse

/-- What stands before the first `sep`, as `s.split(sep)[0]`. -/
def beforeFirst (sep : Char) (s : String) : String := String.ofList (s.toList.takeWhile (· ≠ sep))

/-- `/\.(e₁|e₂|…)$/i` -/
def hasExtension (extensions : List String) (s : String) : Bool :=
  extensions.any fun e => ('.' :: e.toList).isSuffixOf (s.toList.map Char.toLower)

def hexValue (c : Char) : Option ℕ :=
  if c.isDigit then some (c.toNat - '0'.toNat)
  else if 'a' ≤ c.toLower ∧ c.toLower ≤ 'f' then some (c.toLower.toNat - 'a'.toNat + 10)
  else none

/-- The text that the bytes spell, before the rest. -/
def spell (bytes : List ℕ) (rest : List Char) : Option (List Char) :=
  (String.fromUTF8? ⟨(bytes.map UInt8.ofNat).toArray⟩).map (·.toList ++ rest)

/-- The characters, with the bytes of the escapes just read. -/
def decodeEscapes : List Char → List ℕ → Option (List Char)
  | [], bytes => spell bytes []
  | '%' :: high :: low :: cs, bytes => do
      let high ← hexValue high
      let low ← hexValue low
      decodeEscapes cs (bytes ++ [16 * high + low])
  | c :: cs, bytes => do
      if c = '%' then none
      let rest ← decodeEscapes cs []
      spell bytes (c :: rest)

/-- Throws for escapes that are cut short or spell no text. -/
def decodeURIComponent (s : String) : Option String :=
  (decodeEscapes s.toList []).map String.ofList

example : decodeURIComponent "%D8%B3-1.mp4" = some "س-1.mp4" := by decide +kernel

theorem spell_ne_nil {bytes : List ℕ} {rest cs : List Char} (found : spell bytes rest = some cs)
    (given : bytes ≠ [] ∨ rest ≠ []) : cs ≠ [] := by
  simp only [spell, String.fromUTF8?, Option.map_eq_some_iff] at found
  obtain ⟨s, decoded, rfl⟩ := found
  split at decoded
  · cases decoded
    intro none
    obtain ⟨text, nothing⟩ := List.append_eq_nil_iff.mp none
    rcases given with bytes' | rest'
    · have empty := congrArg String.toByteArray (String.toList_eq_nil_iff.mp text)
      have size : (bytes.map UInt8.ofNat).toArray.size = 0 := congrArg ByteArray.size empty
      exact bytes' (by simpa using size)
    · exact rest' nothing
  · cases decoded

theorem decodeEscapes_ne_nil {cs : List Char} {bytes : List ℕ} {text : List Char}
    (found : decodeEscapes cs bytes = some text) (given : cs ≠ [] ∨ bytes ≠ []) : text ≠ [] := by
  induction cs, bytes using decodeEscapes.induct generalizing text with
  | case1 bytes => exact spell_ne_nil found (Or.inl (given.resolve_left fun none => none rfl))
  | case2 high low cs bytes ih =>
    simp only [decodeEscapes, bind, Option.bind_eq_some_iff] at found
    obtain ⟨_, -, _, -, rest⟩ := found
    exact ih _ _ rest (Or.inr (by simp))
  | case3 cs bytes short ih =>
    simp [decodeEscapes] at found
  | case4 c cs bytes short other ih =>
    simp only [decodeEscapes, if_neg other, bind, Option.bind_eq_some_iff] at found
    obtain ⟨_, -, spelt⟩ := found
    exact spell_ne_nil spelt (Or.inr (by simp))

/-- What is decoded is not empty if the text is not. -/
theorem decodeURIComponent_ne_empty {s text : String} (found : decodeURIComponent s = some text)
    (given : s ≠ "") : text ≠ "" := by
  simp only [decodeURIComponent, Option.map_eq_some_iff] at found
  obtain ⟨cs, decoded, rfl⟩ := found
  have some' := decodeEscapes_ne_nil decoded
    (Or.inl fun none => given (String.toList_eq_nil_iff.mp none))
  intro none
  exact some' (by simpa using congrArg String.toList none)

/-! ### Doubles -/

inductive Number where
  | nan
  | infinity (negative : Bool)
  | finite (value : ℚ)
deriving DecidableEq

/-- The spacing of doubles around `x`. -/
def ulp (x : ℚ) : ℚ := 2 ^ max (Int.log 2 |x| - 52) (-1074)

/-- The nearest integer, a tie going to the even neighbour. -/
def halfEven (x : ℚ) : ℤ :=
  let below := ⌊x⌋
  if x - below < 1 / 2 then below
  else if 1 / 2 < x - below then below + 1
  else if below % 2 = 0 then below else below + 1

/-- The double a real number denotes. -/
def toDouble (x : ℚ) : Number :=
  let rounded := halfEven (x / ulp x) * ulp x
  if 2 ^ 1024 ≤ |rounded| then .infinity (x < 0) else .finite rounded

/-- The fewest significant digits that denote the double `x`. -/
def shortestDigits (x : ℚ) : ℕ :=
  ((List.range' 1 16).find? fun n => toDouble (toPrecision n x) = .finite x).getD 17

/-- The decimal the double `x` prints as. -/
def shortestDecimal (x : ℚ) : ℚ := toPrecision (shortestDigits x) x

def zeros (n : ℕ) : String := String.ofList (List.replicate n '0')

/-- `s.padStart(n, '0')` -/
def padZeros (n : ℕ) (s : String) : String := zeros (n - s.length) ++ s

/-- `String(x)` for a positive double. -/
def positiveToString (x : ℚ) : String :=
  let k := shortestDigits x
  let d := toPrecision k x
  let n := Int.log 10 d + 1
  let digits := toString (halfAway (d * 10 ^ ((k : ℤ) - n))).toNat
  if k ≤ n ∧ n ≤ 21 then digits ++ zeros (n - k).toNat
  else if 0 < n ∧ n ≤ 21 then
    String.ofList (digits.toList.take n.toNat) ++ "." ++ String.ofList (digits.toList.drop n.toNat)
  else if -6 < n ∧ n ≤ 0 then "0." ++ zeros (-n).toNat ++ digits
  else
    let exponent := (if 0 < n - 1 then "e+" else "e-") ++ toString (n - 1).natAbs
    if k = 1 then digits ++ exponent
    else String.ofList (digits.toList.take 1) ++ "." ++ String.ofList (digits.toList.drop 1) ++
      exponent

def Number.toString : Number → String
  | .nan => "NaN"
  | .infinity negative => if negative then "-Infinity" else "Infinity"
  | .finite x =>
    if x = 0 then "0"
    else if x < 0 then "-" ++ positiveToString (-x) else positiveToString x

/-- The value `new Decimal(x)` takes; there is none for a non-finite number. -/
def Number.toDecimal : Number → Option ℚ
  | .finite x => some (if x = 0 then 0 else shortestDecimal x)
  | _ => none

/-- `x <= 0` on numbers. -/
def Number.isNonPositive : Number → Bool
  | .nan => false
  | .infinity negative => negative
  | .finite x => x ≤ 0

def Number.add : Number → Number → Number
  | .finite a, .finite b => toDouble (a + b)
  | .finite _, y => y
  | x, .finite _ => x
  | .infinity s, .infinity t => if s = t then .infinity s else .nan
  | _, _ => .nan

def Number.neg : Number → Number
  | .finite a => .finite (-a)
  | .infinity negative => .infinity !negative
  | .nan => .nan

def Number.sub (x y : Number) : Number := x.add y.neg

def Number.mul : Number → Number → Number
  | .finite a, .finite b => toDouble (a * b)
  | .infinity s, .infinity t => .infinity (s != t)
  | .finite a, .infinity s | .infinity s, .finite a =>
    if a = 0 then .nan else .infinity (s != decide (a < 0))
  | _, _ => .nan

/-- There is one zero. -/
def Number.div : Number → Number → Number
  | .finite a, .finite b =>
    if b ≠ 0 then toDouble (a / b) else if a = 0 then .nan else .infinity (a < 0)
  | .finite _, .infinity _ => .finite 0
  | .infinity s, .finite b => .infinity (s != decide (b < 0))
  | _, _ => .nan

/-- `x < y` on numbers. -/
def Number.lt : Number → Number → Bool
  | .finite a, .finite b => a < b
  | .finite _, .infinity negative => !negative
  | .infinity negative, .finite _ => negative
  | .infinity s, .infinity t => s && !t
  | _, _ => false

/-- `Math.max(x, y)` -/
def Number.max (x y : Number) : Number :=
  if x = .nan ∨ y = .nan then .nan else if x.lt y then y else x

/-- `Math.min(x, y)` -/
def Number.min (x y : Number) : Number :=
  if x = .nan ∨ y = .nan then .nan else if y.lt x then y else x

def Number.abs : Number → Number
  | .finite x => .finite |x|
  | .infinity _ => .infinity false
  | .nan => .nan

/-- `Math.round(x)`: a half goes up. -/
def Number.round : Number → Number
  | .finite x => .finite ⌊x + 1 / 2⌋
  | x => x

/-- `Number(x.toFixed(2))`, below the numbers it prints with an exponent. -/
def Number.toFixed2 : Number → Number
  | .finite x => toDouble (halfAway (x * 100) / 100)
  | x => x

/-- `Math.abs(x) > bound` -/
def Number.absExceeds (x : Number) (bound : ℚ) : Bool :=
  match x with
  | .finite a => bound < |a|
  | .infinity _ => true
  | .nan => false

/-! ### Reading a number -/

def digitsValue (digits : List Char) : ℕ :=
  digits.foldl (fun n c => 10 * n + (c.toNat - '0'.toNat)) 0

/-- `e12`, `E-3`: an exponent, when the digits are there. -/
def readExponent : List Char → ℤ
  | e :: rest =>
    if e = 'e' ∨ e = 'E' then
      match rest with
      | '-' :: ds => -(digitsValue (ds.takeWhile Char.isDigit) : ℤ)
      | '+' :: ds => digitsValue (ds.takeWhile Char.isDigit)
      | ds => digitsValue (ds.takeWhile Char.isDigit)
    else 0
  | [] => 0

/-- An unsigned decimal literal at the front of the text. -/
def readUnsigned (cs : List Char) : Option ℚ :=
  let whole := cs.takeWhile Char.isDigit
  let rest := cs.dropWhile Char.isDigit
  let (fraction, rest) :=
    match rest with
    | '.' :: more => (more.takeWhile Char.isDigit, more.dropWhile Char.isDigit)
    | _ => ([], rest)
  if whole = [] ∧ fraction = [] then none
  else some (digitsValue (whole ++ fraction) * 10 ^ (readExponent rest - fraction.length))

/-- `parseFloat`: the longest numeric prefix after leading white space. -/
def parseFloat (s : String) : Number :=
  let cs := s.toList.dropWhile isSpace
  let (negative, cs) :=
    match cs with
    | '-' :: rest => (true, rest)
    | '+' :: rest => (false, rest)
    | _ => (false, cs)
  if "Infinity".toList.isPrefixOf cs then .infinity negative
  else
    match readUnsigned cs with
    | none => .nan
    | some x => toDouble (if negative then -x else x)

/-! ### Persian number format -/

def persianDigits (s : String) : String :=
  s.map fun c => if c.isDigit then Char.ofNat (0x06F0 + (c.toNat - '0'.toNat)) else c

/-- Digits in groups of three from the right. -/
def grouped (digits : List Char) : List Char :=
  let lead := digits.length % 3
  let groups := (digits.drop lead).toChunks 3
  ((if lead = 0 then [] else [digits.take lead]) ++ groups).intersperse ['\u066C'] |>.flatten

/-- `toLocaleString('fa-IR')`: Persian digits, grouped, at most three decimals. -/
def toLocaleStringFa (x : ℚ) : String :=
  let thousandths := (halfAway (|x| * 1000)).toNat
  let whole := String.ofList (grouped (toString (thousandths / 1000)).toList)
  let decimals := (toString (1000 + thousandths % 1000)).toList.drop 1
  let kept := (decimals.reverse.dropWhile (· = '0')).reverse
  let fraction := if kept = [] then "" else "\u066B" ++ String.ofList kept
  persianDigits ((if x < 0 then "\u200E\u2212" else "") ++ whole ++ fraction)

def Number.toLocaleStringFa : Number → String
  | .finite x => Base.toLocaleStringFa (if x = 0 then 0 else shortestDecimal x)
  | .infinity negative => if negative then "\u200E\u2212∞" else "∞"
  | .nan => "ناعدد"

end Rokad.Base
