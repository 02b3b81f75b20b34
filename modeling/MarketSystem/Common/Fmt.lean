import MarketSystem.Models
import Mathlib.Data.Rat.Floor

/-!
# The formatting and scanning the adapters rely on

The venue adapters read prices with `fmt.Sscanf(val, "%f", &f)` and trade ids with
`fmt.Sprintf("%v", v)`.  A `float64` is represented by its exact value, so scanning returns the
decimal the token denotes, without the rounding `ParseFloat` and `math.Ldexp` apply (a value
below the smallest `float64` included); a decimal that rounds beyond the largest `float64` is
the range error `ParseFloat` reports.  A token `Sscanf` would read as a NaN, an infinity or a
hexadecimal float is outside the model and scans as `0`, the value the adapters keep when
scanning fails.  A binary exponent that takes `math.Ldexp` beyond the largest `float64`, where Go
reads an infinity, keeps the exact value.
`%v` prints a `float64` as `strconv.FormatFloat(f, 'g', -1, 64)` does: the shortest decimal that
reads back as the same `float64`, in exponent form when its exponent is below `-4` or at least
`6`.
-/

namespace MarketSystem

namespace Fmt

/-! ## `Sscanf` with `%f` -/

/-- `s.accept(chars)`: take one character from `chars`, if the input starts with one. -/
def accept (chars : List Char) : List Char → Option (List Char)
  | c :: rest => if c ∈ chars then some rest else none
  | [] => none

/-- The characters of a run of digits and underscores, as the scanner takes them. -/
def takeDigits (cs : List Char) : List Char × List Char :=
  (cs.takeWhile fun c => c.isDigit ∨ c = '_', cs.dropWhile fun c => c.isDigit ∨ c = '_')

/-- The token `floatToken` reads from a decimal input: sign, digits, fraction, exponent. -/
def floatToken (cs : List Char) : List Char :=
  let (sign, cs) := match cs with
    | c :: rest => if c = '+' ∨ c = '-' then ([c], rest) else ([], cs)
    | [] => ([], cs)
  let (whole, cs) := takeDigits cs
  let (fraction, cs) := match cs with
    | '.' :: rest => let (digits, rest) := takeDigits rest; ('.' :: digits, rest)
    | _ => ([], cs)
  let exponent := match cs with
    | c :: rest =>
        if c ∈ ['e', 'E', 'p', 'P'] then
          let (expSign, rest) := match rest with
            | d :: more => if d = '+' ∨ d = '-' then ([d], more) else ([], rest)
            | [] => ([], rest)
          c :: expSign ++ (rest.takeWhile fun d => d.isDigit ∨ d = '_')
        else []
    | [] => []
  sign ++ whole ++ fraction ++ exponent

/-- The value of a run of decimal digits. -/
def digitsValue (digits : List Char) : Nat :=
  digits.foldl (fun n d => 10 * n + (d.toNat - '0'.toNat)) 0

/-- An optional leading sign: whether it is a minus, and the characters after it. -/
def splitSign : List Char → Bool × List Char
  | '-' :: rest => (true, rest)
  | '+' :: rest => (false, rest)
  | cs => (false, cs)

/-- `isSpace` of the scanner: the blanks of the table `space`. -/
def isSpace (c : Char) : Bool :=
  let r := c.toNat
  0x0009 ≤ r ∧ r ≤ 0x000d ∨ r = 0x0020 ∨ r = 0x0085 ∨ r = 0x00a0 ∨ r = 0x1680 ∨
    0x2000 ≤ r ∧ r ≤ 0x200a ∨ r = 0x2028 ∨ r = 0x2029 ∨ r = 0x202f ∨ r = 0x205f ∨ r = 0x3000

/-- `SkipSpace` as `Sscanf` runs it, where a newline is not a blank: the blanks before the operand
are passed over, and a newline among them is the error `unexpected newline`. -/
def skipSpace : List Char → Option (List Char)
  | [] => some []
  | c :: rest => if c = '\n' then none else if isSpace c then skipSpace rest else some (c :: rest)

/-- `underscoreOK` on a decimal token, which has no base prefix: after an optional sign, every
underscore stands between two digits.  The state is the class of the last character, as in the
source: `'^'` the start, `'0'` a digit, `'_'` an underscore, `'!'` anything else. -/
def underscoreOK (cs : List Char) : Bool :=
  go '^' (splitSign cs).2
where
  go (saw : Char) : List Char → Bool
    | [] => saw ≠ '_'
    | c :: rest =>
        if c.isDigit then go '0' rest
        else if c = '_' then saw = '0' && go '_' rest
        else saw ≠ '_' && go '!' rest

/-- `strconv.Atoi` on a 64-bit platform: an optionally signed run of decimal digits whose value
fits an `int`. -/
def parseInt (cs : List Char) : Option Int :=
  let (negative, digits) := splitSign cs
  if digits ≠ [] ∧ digits.all Char.isDigit then
    let n : Int := if negative then -(digitsValue digits : Int) else digitsValue digits
    if -2 ^ 63 ≤ n ∧ n < 2 ^ 63 then some n else none
  else none

/-- The exponent `readFloat` accumulates from its digits, each taken only while the value is
below `10000`. -/
def exponentValue (digits : List Char) : Nat :=
  digits.foldl (fun e d => if e < 10000 then 10 * e + (d.toNat - '0'.toNat) else e) 0

/-- The exponent after `e` or `E`: an optional sign, then at least one digit. -/
def parseExponent (cs : List Char) : Option Int :=
  let (negative, digits) := splitSign cs
  if digits ≠ [] ∧ digits.all Char.isDigit then
    some (if negative then -(exponentValue digits : Int) else exponentValue digits)
  else none

/-- Whether `digits × 10^shift` rounds beyond the largest `float64`: whether it is at least
`2^1024 - 2^970`, the midpoint between the largest `float64` and `2^1024`, which rounds up. -/
def overflowsFloat64 (digits : Nat) (shift : Int) : Bool :=
  let limit := (2 ^ 54 - 1) <<< 970
  if 0 ≤ shift then limit ≤ digits * 10 ^ shift.toNat else limit * 10 ^ (-shift).toNat ≤ digits

/-- `strconv.ParseFloat(token, 64)` on a decimal token: an optional sign, digits with an optional
fraction (at least one digit in all) and an optional exponent, with underscores only between
digits (`underscoreOK`), which are then skipped.  A value that rounds beyond the largest
`float64` is the error `ErrRange`. -/
def parseDecimal (token : List Char) : Option ℚ :=
  if underscoreOK token then
    let (negative, cs) := splitSign (token.filter (· ≠ '_'))
    let whole := cs.takeWhile Char.isDigit
    let cs := cs.dropWhile Char.isDigit
    let (fraction, cs) := match cs with
      | '.' :: rest => (rest.takeWhile Char.isDigit, rest.dropWhile Char.isDigit)
      | _ => ([], cs)
    let exponent : Option Int := match cs with
      | [] => some 0
      | c :: rest => if c = 'e' ∨ c = 'E' then parseExponent rest else none
    if whole = [] ∧ fraction = [] then none
    else
      exponent.bind fun e : Int =>
        let digits := digitsValue (whole ++ fraction)
        let shift := e - (fraction.length : Int)
        if overflowsFloat64 digits shift then none
        else
          let magnitude : ℚ := (digits : ℚ) * 10 ^ shift
          some (if negative then -magnitude else magnitude)
  else none

/-- `fmt.Sscanf(val, "%f", &f)` followed by reading `f`, which stays `0` when scanning fails:
`SkipSpace`, `floatToken`, then `convertFloat`, which scales a mantissa with a lowercase `p`
exponent by a power of two (`math.Ldexp`). -/
def scanFloat (s : String) : ℚ :=
  let value := (skipSpace s.data).bind fun cs =>
    let token := floatToken cs
    match token.span (· ≠ 'p') with
    | (mantissa, 'p' :: exponent) =>
        (parseDecimal mantissa).bind fun m => (parseInt exponent).map fun e => m * 2 ^ e
    | _ => parseDecimal token
  value.getD 0

/-! ## `Sprintf` with `%v` -/

/-- The number of decimal digits of a natural number. -/
def decimalLength (n : Nat) : Nat :=
  (Nat.toDigits 10 n).length

/-- The number of binary digits of a natural number. -/
def binaryLength (n : Nat) : Nat :=
  (Nat.toDigits 2 n).length

/-- `⌊log_base a⌋` for a positive rational, from the lengths of its numerator and
denominator. -/
def floorLog (length : Nat → Nat) (base : ℚ) (a : ℚ) : Int :=
  let guess : Int := (length a.num.natAbs : Int) - length a.den
  if base ^ guess ≤ a then guess else guess - 1

/-- The `float64` values that round to the positive `float64` value `a`: the interval between
the midpoints to its neighbours, closed exactly when its mantissa is even. -/
def roundingInterval (a : ℚ) : ℚ × ℚ × Bool :=
  let exponent := max (floorLog binaryLength 2 a) (-1022)
  let ulp : ℚ := 2 ^ (exponent - 52)
  let lowGap := if a = 2 ^ exponent ∧ -1022 < exponent then ulp / 2 else ulp
  (a - lowGap / 2, a + ulp / 2, (⌊a / ulp⌋ % 2 == 0))

/-- The `p`-digit decimal nearest `a` among those that round to it, as digits `n` standing for
`n × 10^(e + 1 - p)`, when there is one. -/
def candidate (a : ℚ) (p : Nat) : Option Nat :=
  let (low, high, closed) := roundingInterval a
  let inside (c : ℚ) : Bool := if closed then low ≤ c ∧ c ≤ high else low < c ∧ c < high
  let scale : ℚ := 10 ^ ((p : Int) - 1 - floorLog decimalLength 10 a)
  let down := ⌊a * scale⌋.toNat
  let up := ⌈a * scale⌉.toNat
  match inside (down / scale), inside (up / scale) with
  | true, true =>
      if a * scale - down < up - a * scale ∨ (a * scale - down = up - a * scale ∧ down % 2 = 0)
      then some down else some up
  | true, false => some down
  | false, true => some up
  | false, false => none

/-- The shortest decimal digits of a positive `float64` value, without trailing zeros, and the
position `dp` of the decimal point: the value is `0.d₁d₂… × 10^dp`. -/
def shortestDigits (a : ℚ) : List Char × Int :=
  let found := (List.range 17).findSome? fun i => (candidate a (i + 1)).map fun n => (n, i + 1)
  let (n, p) := found.getD (⌊a * 10 ^ (16 - floorLog decimalLength 10 a)⌋.toNat, 17)
  let digits := Nat.toDigits 10 n
  ((digits.reverse.dropWhile (· = '0')).reverse,
    (digits.length : Int) + floorLog decimalLength 10 a + 1 - p)

/-- `%e` with the given digits: one digit before the point, the others after it, then the
exponent with its sign and at least two digits. -/
def formatExponent (digits : List Char) (dp : Int) : String :=
  let exponent := dp - 1
  let mantissa := match digits with
    | first :: [] => [first]
    | first :: rest => first :: '.' :: rest
    | [] => ['0']
  let expDigits := Nat.toDigits 10 exponent.natAbs
  String.mk (mantissa ++ 'e' :: (if exponent < 0 then '-' else '+') ::
    (if exponent.natAbs < 10 then '0' :: expDigits else expDigits))

/-- `%f` with the given digits and as many places as the digits need. -/
def formatFixed (digits : List Char) (dp : Int) : String :=
  let places := (digits.length - dp).toNat
  let digitAt (i : Int) : Char :=
    if 0 ≤ i ∧ i < digits.length then digits.getD i.toNat '0' else '0'
  let whole := if 0 < dp then (List.range dp.toNat).map fun i : Nat => digitAt i else ['0']
  let fraction := (List.range places).map fun i : Nat => digitAt (dp + i)
  String.mk (whole ++ if places = 0 then [] else '.' :: fraction)

/-- `strconv.FormatFloat(f, 'g', -1, 64)`. -/
def formatFloat (x : ℚ) : String :=
  if x = 0 then "0"
  else
    let (digits, dp) := shortestDigits |x|
    let body :=
      if dp - 1 < -4 ∨ 6 ≤ dp - 1 then formatExponent digits dp else formatFixed digits dp
    if x < 0 then "-" ++ body else body

/-- Byte order on the characters of map keys, which for UTF-8 is the order of code points. -/
def keyLess : List Char → List Char → Bool
  | a :: as, b :: bs => a.toNat < b.toNat || (a.toNat = b.toNat && keyLess as bs)
  | [], _ :: _ => true
  | _, [] => false

/-- The order `fmt` prints a map's keys in. -/
def keyLE (a b : String) : Bool :=
  !keyLess b.data a.data

mutual

/-- `fmt.Sprintf("%v", v)` for a decoded JSON value: `<nil>` for a missing or null value, maps
with their keys in order. -/
def formatValue : Json → String
  | .null => "<nil>"
  | .bool b => if b then "true" else "false"
  | .number x => formatFloat x
  | .string s => s
  | .array items => "[" ++ " ".intercalate (formatItems items) ++ "]"
  | .object fields =>
      let sorted := (formatEntries fields).mergeSort fun a b => keyLE a.1 b.1
      "map[" ++ " ".intercalate (sorted.map fun entry => entry.1 ++ ":" ++ entry.2) ++ "]"

/-- The items of an array, each formatted. -/
def formatItems : List Json → List String
  | [] => []
  | item :: items => formatValue item :: formatItems items

/-- The entries of a map, each value formatted. -/
def formatEntries : List (String × Json) → List (String × String)
  | [] => []
  | (key, value) :: entries => (key, formatValue value) :: formatEntries entries

end

/-- `%v` of a map entry as the adapters read it: a missing key is a nil interface. -/
def formatField (v : Option Json) : String :=
  (v.map formatValue).getD "<nil>"

end Fmt

end MarketSystem
