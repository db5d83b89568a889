/-
# SchemaDiagram.Data.Binary64 -- the numbers that have a point or an exponent

A finite value is kept as `mantissa * 2 ^ exponent`.  Reading rounds an exact
decimal to the nearest such value, ties to the even mantissa; writing takes the
fewest digits that read back, and of two such texts the nearer one.  Both work
in exact integer arithmetic.
-/

namespace SchemaDiagram

set_option autoImplicit false

inductive Binary64 where
  | finite (negative : Bool) (mantissa : Nat) (exponent : Int)
  | infinite (negative : Bool)
  | nan
deriving DecidableEq, Repr

namespace Binary64

/-! ## Powers -/

/-- `2 ^ e`, one for a negative `e`. -/
def twoTo (e : Int) : Nat :=
  Nat.pow 2 e.toNat

/-- `10 ^ e`, one for a negative `e`. -/
def tenTo (e : Int) : Nat :=
  Nat.pow 10 e.toNat

/-! ## Reading -/

/-- `num / den` rounded to the nearest natural number, ties to even. -/
def roundQuotient (num den : Nat) : Nat :=
  let low := num / den
  let twice := 2 * (num % den)
  if twice < den then low
  else if den < twice then low + 1
  else low + low % 2

/-- `num / den / 2 ^ e` as a quotient of natural numbers. -/
def scaled (num den : Nat) (e : Int) : Nat × Nat :=
  (num * twoTo (-e), den * twoTo e)

/-- The mantissa and exponent nearest to the positive quotient `num / den`,
before the check for overflow. -/
def nearest (num den : Nat) : Nat × Int :=
  let guess := max (-1074) ((num.log2 : Int) - (den.log2 : Int) - 53)
  let (n, d) := scaled num den guess
  let e := if twoTo 53 ≤ n / d then guess + 1 else guess
  let (n, d) := scaled num den e
  let m := roundQuotient n d
  if m = twoTo 53 then (twoTo 52, e + 1) else (m, e)

/-- The value nearest to `digits * 10 ^ exponent`.  Magnitudes far outside the
range are settled by their number of digits. -/
def ofDecimal (negative : Bool) (digits : Nat) (exponent : Int) : Binary64 :=
  let magnitude := ((Nat.toDigits 10 digits).length : Int) + exponent
  if digits = 0 || magnitude < -330 then .finite negative 0 0
  else if 310 < magnitude then .infinite negative
  else
    let (m, e) := nearest (digits * tenTo exponent) (tenTo (-exponent))
    if 971 < e then .infinite negative else .finite negative m e

/-! ## Whole values -/

/-- The integer that the value is, if it is one. -/
def toInt? : Binary64 → Option Int
  | .finite negative m e =>
      let whole :=
        if 0 ≤ e then some (m * twoTo e)
        else if m % twoTo (-e) = 0 then some (m / twoTo (-e))
        else none
      whole.map fun n => if negative then -(n : Int) else n
  | _ => none

/-! ## Writing -/

/-- Compare `a / b` with `c / d` for positive `b` and `d`. -/
def compareQuotients (a b c d : Nat) : Ordering :=
  compare (a * d) (c * b)

/-- Whether `digits * 10 ^ grid` rounds to `m * 2 ^ e`. -/
def readsBack (m : Nat) (e : Int) (digits : Nat) (grid : Int) : Bool :=
  let narrow := m = twoTo 52 && -1074 < e
  let low := if narrow then 4 * m - 1 else 4 * m - 2
  let high := 4 * m + 2
  let num := digits * tenTo grid * twoTo (2 - e)
  let den := tenTo (-grid) * twoTo (e - 2)
  let closed := m % 2 == 0
  let below := compareQuotients num den low 1
  let above := compareQuotients num den high 1
  (below == .gt || (closed && below == .eq)) && (above == .lt || (closed && above == .eq))

/-- The value as a quotient, divided by `10 ^ grid`. -/
def onGrid (m : Nat) (e : Int) (grid : Int) : Nat × Nat :=
  (m * twoTo e * tenTo (-grid), twoTo (-e) * tenTo grid)

/-- The least `k ≥ start` with value below `10 ^ k`, within `steps`. -/
def leadingPlace (m : Nat) (e : Int) (start : Int) : Nat → Int
  | 0 => start
  | steps + 1 =>
      let (n, d) := onGrid m e start
      if n < d then start else leadingPlace m e (start + 1) steps

/-- The nearer of the value's neighbours on the grid, among those that read
back. -/
def onGrid? (m : Nat) (e : Int) (grid : Int) : Option Nat :=
  let (n, d) := onGrid m e grid
  let low := n / d
  let lowFits := 0 < low && readsBack m e low grid
  let highFits := readsBack m e (low + 1) grid
  let twice := 2 * (n % d)
  match lowFits, highFits with
  | true, true =>
      some (if twice < d then low else if d < twice then low + 1 else low + low % 2)
  | true, false => some low
  | false, true => some (low + 1)
  | false, false => none

/-- Digits and the exponent of the last one; `count` digits are tried next and
`left` more after them. -/
def shortestFrom (m : Nat) (e : Int) (place : Int) (count : Nat) : Nat → Nat × Int
  | 0 => (((onGrid m e (place - count)).1 / (onGrid m e (place - count)).2), place - count)
  | left + 1 =>
      match onGrid? m e (place - count) with
      | some digits => (digits, place - count)
      | none => shortestFrom m e place (count + 1) left

/-- The exponents of ten are estimated from those of two: `log 2 > 0.30102`. -/
def shortest (m : Nat) (e : Int) : Nat × Int :=
  let start := ((m.log2 : Int) + e) * 30102 / 100000 - 1
  shortestFrom m e (leadingPlace m e start 8) 1 17

def dropTrailingZeros (ds : List Char) : List Char :=
  (ds.reverse.dropWhile (· == '0')).reverse

/-- The digits laid out: positional for exponents from -4 to 15, else with a
signed exponent of at least two digits. -/
def layOut (digits : List Char) (point : Int) : List Char :=
  let exponent := point - 1
  if -4 ≤ exponent && exponent < 16 then
    if point ≤ 0 then '0' :: '.' :: (List.replicate (-point).toNat '0' ++ digits)
    else
      let whole := digits.take point.toNat
      let zeros := List.replicate (point.toNat - digits.length) '0'
      let rest := digits.drop point.toNat
      whole ++ zeros ++ '.' :: (if rest.isEmpty then ['0'] else rest)
  else
    let head := digits.take 1
    let rest := digits.drop 1
    let size := Nat.toDigits 10 exponent.natAbs
    head ++ (if rest.isEmpty then [] else '.' :: rest) ++
      ['e', if exponent < 0 then '-' else '+'] ++ (if size.length < 2 then '0' :: size else size)

def render : Binary64 → String
  | .nan => "nan"
  | .infinite negative => if negative then "-inf" else "inf"
  | .finite negative m e =>
      let body :=
        if m = 0 then ['0', '.', '0']
        else
          let (digits, last) := shortest m e
          let text := Nat.toDigits 10 digits
          layOut (dropTrailingZeros text) (last + text.length)
      String.ofList (if negative then '-' :: body else body)

end Binary64

end SchemaDiagram
