import TimeServer.Text.Decimal
import TimeServer.Text.Digit

/-! # TOML numbers

Integers and floating-point numbers, each a run of characters that is read as a whole.

* `ofGrouped?` — digits, among which single underscores may stand;
* `integer?` — an integer of 64 bits, decimal or with a base;
* `isFloat` — a floating-point number, which must not be too great.
-/

namespace TimeServer.Toml

open TimeServer.Text

/-- The digits of a run in which single underscores may stand between digits. -/
def ofGrouped? (isDigit : Char → Bool) : List Char → Option (List Char)
  | [] => none
  | [c] => if isDigit c then some [c] else none
  | c :: '_' :: cs => if isDigit c then (ofGrouped? isDigit cs).map (c :: ·) else none
  | c :: cs => if isDigit c then (ofGrouped? isDigit cs).map (c :: ·) else none

/-- The digits of a decimal integer, which begins with a zero only if it is one. -/
def wholeDigits? (cs : List Char) : Option (List Char) :=
  match ofGrouped? Char.isDigit cs with
  | some ['0'] => some ['0']
  | some ('0' :: _) => none
  | ds => ds

def splitSign : List Char → Bool × List Char
  | '-' :: cs => (true, cs)
  | '+' :: cs => (false, cs)
  | cs => (false, cs)

/-! ## Integers -/

def fitting? (n : Int) : Option Int :=
  if Int64.minValue.toInt ≤ n ∧ n ≤ Int64.maxValue.toInt then some n else none

def ofBase? (base : Nat) (cs : List Char) : Option Int := do
  fitting? (Digit.number base (← ofGrouped? (Digit.isDigit base) cs))

def integer? : List Char → Option Int
  | '0' :: 'x' :: cs => ofBase? 16 cs
  | '0' :: 'o' :: cs => ofBase? 8 cs
  | '0' :: 'b' :: cs => ofBase? 2 cs
  | cs => do
    let (negative, cs) := splitSign cs
    let n : Int := Decimal.value (← wholeDigits? cs)
    fitting? (if negative then -n else n)

/-! ## Floating-point numbers -/

/-- Whether the number `m * 10 ^ exponent`, rounded to a word of 64 bits, is finite.  The greatest
    such word is `2 ^ 1024 - 2 ^ 971`, and half a step above it rounding gives infinity. -/
def isFinite (m : Nat) (exponent : Int) : Bool :=
  let width : Int := (Decimal.digits m).length
  let limit := Nat.pow 2 1024 - Nat.pow 2 970
  if m = 0 ∨ width + exponent ≤ 300 then true
  else if 310 < width + exponent then false
  else if 0 ≤ exponent then m * Nat.pow 10 exponent.toNat < limit
  else m < limit * Nat.pow 10 (-exponent).toNat

def exponent? : List Char → Option Int
  | [] => some 0
  | c :: cs =>
    if c = 'e' ∨ c = 'E' then do
      let (negative, cs) := splitSign cs
      let n : Int := Decimal.value (← ofGrouped? Char.isDigit cs)
      return if negative then -n else n
    else none

def fraction? : List Char → Option (List Char × Int)
  | '.' :: cs => do
    let isPart (c : Char) : Bool := c.isDigit || c = '_'
    let digits ← ofGrouped? Char.isDigit (cs.takeWhile isPart)
    return (digits, ← exponent? (cs.dropWhile isPart))
  | cs => do return ([], ← exponent? cs)

/-- Whether a run of characters is a floating-point number: it has a point or an exponent or names
    a special value.  A positive number must not be too great to be finite. -/
def isFloat (cs : List Char) : Bool :=
  let (negative, cs) := splitSign cs
  let isPart (c : Char) : Bool := c.isDigit || c = '_'
  let whole := cs.takeWhile isPart
  let rest := cs.dropWhile isPart
  if cs = ['i', 'n', 'f'] ∨ cs = ['n', 'a', 'n'] then true
  else if rest = [] then false
  else
    match wholeDigits? whole, fraction? rest with
    | some whole, some (decimals, exponent) =>
      negative || isFinite (Decimal.value (whole ++ decimals)) (exponent - decimals.length)
    | _, _ => false

end TimeServer.Toml
