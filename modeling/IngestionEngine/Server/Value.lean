import Mathlib.Data.Rat.Floor

/-!
# Values of the server's language

Numbers are exact: a finite number is a rational, a literal is rounded only to infinity or
zero, and a zero has no sign. The conversions are those of `Number`, of `Math.min` and
`Math.max`, and of a condition, for the values that `JSON.parse` returns and `undefined`.
-/

namespace IngestionEngine.Server

/-- A number. -/
inductive JsNum where
  /-- A finite number. -/
  | fin (value : ℚ)
  /-- `Infinity` -/
  | posInf
  /-- `-Infinity` -/
  | negInf
  /-- `NaN` -/
  | nan
  deriving DecidableEq, Repr

/-- An exception. -/
inductive JsError where
  /-- `TypeError` -/
  | typeError
  /-- `RangeError` -/
  | rangeError
  deriving DecidableEq, Repr

namespace JsNum

instance (n : Nat) : OfNat JsNum n := ⟨fin n⟩

/-- A count. -/
def ofNat (n : Nat) : JsNum := fin n

/-- `a < b` -/
def lt : JsNum → JsNum → Bool
  | fin a, fin b => a < b
  | nan, _ | _, nan | _, negInf | posInf, _ => false
  | negInf, _ | _, posInf => true

/-- `a <= b` -/
def le : JsNum → JsNum → Bool
  | fin a, fin b => a ≤ b
  | nan, _ | _, nan => false
  | negInf, _ | _, posInf => true
  | _, negInf | posInf, _ => false

/-- `Math.min(a, b)` -/
def min (a b : JsNum) : JsNum :=
  if a = nan ∨ b = nan then nan else if a.le b then a else b

/-- `Math.max(a, b)` -/
def max (a b : JsNum) : JsNum :=
  if a = nan ∨ b = nan then nan else if a.le b then b else a

/-- `-a` -/
def neg : JsNum → JsNum
  | fin a => fin (-a)
  | posInf => negInf
  | negInf => posInf
  | nan => nan

/-- `a + b` -/
def add : JsNum → JsNum → JsNum
  | fin a, fin b => fin (a + b)
  | nan, _ | _, nan | posInf, negInf | negInf, posInf => nan
  | posInf, _ | _, posInf => posInf
  | negInf, _ | _, negInf => negInf

/-- `a - b` -/
def sub (a b : JsNum) : JsNum := a.add b.neg

/-- An infinity times a finite number. -/
def infinite (positive : Bool) (factor : ℚ) : JsNum :=
  if factor = 0 then nan else if decide (0 < factor) = positive then posInf else negInf

/-- `a * b` -/
def mul : JsNum → JsNum → JsNum
  | fin a, fin b => fin (a * b)
  | nan, _ | _, nan => nan
  | posInf, fin b | fin b, posInf => infinite true b
  | negInf, fin b | fin b, negInf => infinite false b
  | posInf, posInf | negInf, negInf => posInf
  | posInf, negInf | negInf, posInf => negInf

/-- `a / b` -/
def div : JsNum → JsNum → JsNum
  | fin a, fin b => if b = 0 then infinite true a else fin (a / b)
  | nan, _ | _, nan => nan
  | fin _, posInf | fin _, negInf => 0
  | posInf, fin b => if b < 0 then negInf else posInf
  | negInf, fin b => if b < 0 then posInf else negInf
  | posInf, posInf | posInf, negInf | negInf, posInf | negInf, negInf => nan

/-- `Math.ceil(a)` -/
def ceil : JsNum → JsNum
  | fin a => fin ⌈a⌉
  | a => a

/-- `Math.floor(a)` -/
def floor : JsNum → JsNum
  | fin a => fin ⌊a⌋
  | a => a

/-- `Math.round(a)` -/
def round : JsNum → JsNum
  | fin a => fin ⌊a + 1 / 2⌋
  | a => a

/-- A rational rounded to some decimals, a half away from zero. -/
def roundTo (digits : Nat) (value : ℚ) : ℚ :=
  if value < 0 then -(⌊-value * 10 ^ digits + 1 / 2⌋ / 10 ^ digits)
  else ⌊value * 10 ^ digits + 1 / 2⌋ / 10 ^ digits

/-- `parseFloat(a.toFixed(digits))` -/
def fixed (digits : Nat) : JsNum → JsNum
  | fin a => fin (roundTo digits a)
  | a => a

/-- The number that a literal stands for: infinite above the largest finite one, and zero
below the least positive one. -/
def literal (value : ℚ) : JsNum :=
  if 2 ^ 1024 - 2 ^ 970 ≤ value then posInf
  else if value ≤ -(2 ^ 1024 - 2 ^ 970) then negInf
  else if |value| ≤ 1 / 2 ^ 1075 then 0
  else fin value

/-- How many elements `splice(0, a)` removes. -/
def spliceCount (a : JsNum) (length : Nat) : Nat :=
  match a with
  | fin value => Nat.min ⌊value⌋.toNat length
  | posInf => length
  | negInf | nan => 0

/-- How often the body of `for (let i = 0; i < a; i++)` runs, if the loop ends. The counter
stops growing at `2 ^ 53`, where the next number is two above. -/
def loopCount : JsNum → Option Nat
  | fin value => if value ≤ 2 ^ 53 then some ⌈value⌉.toNat else none
  | posInf => none
  | negInf | nan => some 0

/-! ### Finite numbers -/

/-- A numeral is finite. -/
theorem literal_fin (n : Nat) [n.AtLeastTwo] : (OfNat.ofNat n : JsNum) = fin (OfNat.ofNat n) :=
  rfl

/-- Zero is finite. -/
theorem zero_fin : (0 : JsNum) = fin 0 := congrArg fin Nat.cast_zero

/-- One is finite. -/
theorem one_fin : (1 : JsNum) = fin 1 := congrArg fin Nat.cast_one

/-- A count is finite. -/
theorem ofNat_fin (n : Nat) : ofNat n = fin n := rfl

/-- Differences of finite numbers. -/
theorem sub_fin (a b : ℚ) : (fin a).sub (fin b) = fin (a - b) := by
  rw [sub_eq_add_neg]
  rfl

/-- Products of finite numbers. -/
theorem mul_fin (a b : ℚ) : (fin a).mul (fin b) = fin (a * b) := rfl

/-- Sums of finite numbers. -/
theorem add_fin (a b : ℚ) : (fin a).add (fin b) = fin (a + b) := rfl

/-- Quotients by finite numbers other than zero. -/
theorem div_fin {a b : ℚ} (divisor : b ≠ 0) : (fin a).div (fin b) = fin (a / b) := by
  simp only [div, if_neg divisor]

/-- The order of finite numbers. -/
theorem le_fin (a b : ℚ) : (fin a).le (fin b) = true ↔ a ≤ b := decide_eq_true_iff

/-- The strict order of finite numbers. -/
theorem lt_fin (a b : ℚ) : (fin a).lt (fin b) = true ↔ a < b := decide_eq_true_iff

/-- The smaller of two finite numbers. -/
theorem min_fin (a b : ℚ) : (fin a).min (fin b) = fin (Min.min a b) := by
  by_cases ordered : a ≤ b
  · simp [min, le, ordered]
  · simp [min, le, ordered, min_eq_right (not_le.mp ordered).le]

/-- The larger of two finite numbers. -/
theorem max_fin (a b : ℚ) : (fin a).max (fin b) = fin (Max.max a b) := by
  by_cases ordered : a ≤ b
  · simp [max, le, ordered]
  · simp [max, le, ordered, max_eq_left (not_le.mp ordered).le]

/-- A number other than `NaN` between two finite bounds is finite and between them. -/
theorem clamp_fin {value : JsNum} (number : value ≠ nan) {low high : ℚ} (ordered : low ≤ high) :
    ∃ q, (fin low).max ((fin high).min value) = fin q ∧ low ≤ q ∧ q ≤ high := by
  cases value with
  | fin q =>
    rw [min_fin, max_fin]
    exact ⟨_, rfl, le_max_left _ _, max_le ordered (min_le_left _ _)⟩
  | posInf =>
    have least : (fin high).min posInf = fin high := rfl
    rw [least, max_fin]
    exact ⟨_, rfl, le_max_left _ _, max_le ordered le_rfl⟩
  | negInf => exact ⟨low, rfl, le_rfl, ordered⟩
  | nan => exact absurd rfl number

end JsNum

/-! ### Strings as numbers -/

/-- White space and line terminators. -/
def isBlank (c : Char) : Bool :=
  c.val ∈ [0x9, 0xA, 0xB, 0xC, 0xD, 0x20, 0xA0, 0x1680, 0x2028, 0x2029, 0x202F, 0x205F, 0x3000,
    0xFEFF] || (0x2000 ≤ c.val && c.val ≤ 0x200A)

/-- The value of a digit. -/
def digitValue (c : Char) : Nat :=
  if c.isDigit then c.toNat - '0'.toNat else c.toLower.toNat - 'a'.toNat + 10

/-- The value of some digits. -/
def digitsValue (base : Nat) (digits : List Char) : Nat :=
  digits.foldl (fun value c => value * base + digitValue c) 0

/-- Digits of a base and nothing else. -/
def wholeDigits (base : Nat) (digits : List Char) : Option Nat :=
  if digits ≠ [] ∧ digits.all (fun c => c.isAlphanum && digitValue c < base) then
    some (digitsValue base digits)
  else none

/-- The sign in front of a text; true is a minus. -/
def splitSign : List Char → Bool × List Char
  | '-' :: rest => (true, rest)
  | '+' :: rest => (false, rest)
  | text => (false, text)

/-- The power of ten that an exponent part stands for. -/
def exponentPart : List Char → Option ℚ
  | [] => some 1
  | mark :: rest =>
    if mark = 'e' ∨ mark = 'E' then
      let (negative, digits) := splitSign rest
      (wholeDigits 10 digits).map fun power => if negative then 1 / 10 ^ power else 10 ^ power
    else none

/-- The digits after a decimal point, and the rest. -/
def fractionPart : List Char → List Char × List Char
  | '.' :: rest => rest.span Char.isDigit
  | rest => ([], rest)

/-- A decimal literal without a sign. -/
def unsignedDecimal (text : List Char) : Option ℚ :=
  let (whole, rest) := text.span Char.isDigit
  let (fraction, rest) := fractionPart rest
  if whole = [] ∧ fraction = [] then none
  else (exponentPart rest).map fun power =>
    (digitsValue 10 whole + digitsValue 10 fraction / 10 ^ fraction.length) * power

/-- A text without blanks around it, as a number. -/
def numericText (text : List Char) : JsNum :=
  match text with
  | [] => 0
  | '0' :: mark :: digits =>
    if mark.toLower = 'x' then (wholeDigits 16 digits).elim .nan (.literal ·)
    else if mark.toLower = 'o' then (wholeDigits 8 digits).elim .nan (.literal ·)
    else if mark.toLower = 'b' then (wholeDigits 2 digits).elim .nan (.literal ·)
    else (unsignedDecimal text).elim .nan .literal
  | _ =>
    let (negative, text) := splitSign text
    let value := if text = "Infinity".toList then .posInf
      else (unsignedDecimal text).elim .nan .literal
    if negative then value.neg else value

/-- `Number` of a string. -/
def stringToNumber (text : String) : JsNum :=
  numericText ((text.toList.dropWhile isBlank).reverse.dropWhile isBlank).reverse

/-! ### Dates -/

/-- Decimal digits, filled up with zeros. -/
def padded (width value : Nat) : String := String.ofList ((toString value).toList.leftpad width '0')

/-- The year, month and day of a day counted from 1970-01-01; years begin in March here. -/
def civilDate (day : Int) : Int × Nat × Nat :=
  let shifted := day + 719468
  let era := shifted.fdiv 146097
  let dayOfEra := (shifted - era * 146097).toNat
  let yearOfEra := (dayOfEra - dayOfEra / 1460 + dayOfEra / 36524 - dayOfEra / 146096) / 365
  let dayOfYear := dayOfEra - (365 * yearOfEra + yearOfEra / 4 - yearOfEra / 100)
  let march := (5 * dayOfYear + 2) / 153
  let month := if march < 10 then march + 3 else march - 9
  let year := era * 400 + yearOfEra
  (if month ≤ 2 then year + 1 else year, month, dayOfYear - (153 * march + 2) / 5 + 1)

/-- A year, with a sign and six digits outside four digits. -/
def yearText (year : Int) : String :=
  if 0 ≤ year ∧ year ≤ 9999 then padded 4 year.toNat
  else (if year < 0 then "-" else "+") ++ padded 6 year.natAbs

/-- `new Date(clock).toISOString()`, with the milliseconds from 1970 on. -/
def toISOString (clock : Int) : String :=
  let (year, month, day) := civilDate (clock.fdiv 86400000)
  let ms := (clock.fmod 86400000).toNat
  yearText year ++ "-" ++ padded 2 month ++ "-" ++ padded 2 day ++ "T" ++
    padded 2 (ms / 3600000) ++ ":" ++ padded 2 (ms / 60000 % 60) ++ ":" ++
    padded 2 (ms / 1000 % 60) ++ "." ++ padded 3 (ms % 1000) ++ "Z"

/-! ### Values -/

/-- A value. -/
inductive JsValue where
  /-- `undefined` -/
  | undefined
  /-- `null` -/
  | null
  /-- `true` or `false` -/
  | bool (value : Bool)
  /-- A number. -/
  | num (value : JsNum)
  /-- A string. -/
  | str (value : String)
  /-- An array. -/
  | arr (items : List JsValue)
  /-- An object with its own properties. -/
  | obj (members : List (String × JsValue))

/-- An object, or an array with its elements as properties. -/
structure JsObject where
  /-- Its own properties. -/
  members : List (String × JsValue)

namespace JsObject

/-- A property; the prototypes have none of those that are read. -/
def get (object : JsObject) (name : String) : JsValue :=
  (object.members.lookup name).getD .undefined

/-- Assign a property. -/
def set (object : JsObject) (name : String) (value : JsValue) : JsObject :=
  if object.members.any (·.1 = name) then
    ⟨object.members.map fun entry => if entry.1 = name then (name, value) else entry⟩
  else ⟨object.members ++ [(name, value)]⟩

end JsObject

namespace JsValue

/-- A count. -/
def nat (n : Nat) : JsValue := .num (.ofNat n)

/-- Whether a condition on the value holds. -/
def truthy : JsValue → Bool
  | .undefined | .null => false
  | .bool value => value
  | .num value => value ≠ .nan ∧ value ≠ 0
  | .str value => value ≠ ""
  | .arr _ | .obj _ => true

/-- The value as something whose properties can be assigned. -/
def asObject : JsValue → Except JsError JsObject
  | .obj members => .ok ⟨members⟩
  | .arr items => .ok ⟨items.zipIdx.map fun (item, index) => (toString index, item)⟩
  | .undefined | .null | .bool _ | .num _ | .str _ => .error .typeError

/-- Read a property. -/
def get (value : JsValue) (name : String) : Except JsError JsValue :=
  match value with
  | .undefined | .null => .error .typeError
  | .bool _ | .num _ | .str _ => .ok .undefined
  | .arr _ | .obj _ => value.asObject.map (·.get name)

/-- An own property hides `toString`, and no value from JSON can be called. -/
def hidesToString (members : List (String × JsValue)) : Bool := members.any (·.1 = "toString")

mutual

/-- Whether `String(value)` throws. -/
def textThrows : JsValue → Bool
  | .arr items => anyTextThrows items
  | .obj members => hidesToString members
  | .undefined | .null | .bool _ | .num _ | .str _ => false

/-- Whether joining the items throws. -/
def anyTextThrows : List JsValue → Bool
  | [] => false
  | item :: rest => textThrows item || anyTextThrows rest

end

/-- `Number` of the text that an element of an array becomes. The text of two elements has a
comma in it. -/
def textNumber : JsValue → Except JsError JsNum
  | .undefined | .null => .ok 0
  | .bool _ => .ok .nan
  | .num value => .ok value
  | .str value => .ok (stringToNumber value)
  | .arr [] => .ok 0
  | .arr [item] => textNumber item
  | .arr (first :: second :: rest) =>
    if anyTextThrows (first :: second :: rest) then .error .typeError else .ok .nan
  | .obj members => if hidesToString members then .error .typeError else .ok .nan

/-- `Number(value)` -/
def toNumber : JsValue → Except JsError JsNum
  | .undefined => .ok .nan
  | .null => .ok 0
  | .bool value => .ok (if value then 1 else 0)
  | .num value => .ok value
  | .str value => .ok (stringToNumber value)
  | .arr items => textNumber (.arr items)
  | .obj members => textNumber (.obj members)

end JsValue

end IngestionEngine.Server
