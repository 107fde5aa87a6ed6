/-!
Fractional numbers, as they are kept in 64 bits, and their written form: the shortest decimal that
is read back as the same number. Infinite values and those that are no numbers are left out.
-/
namespace Provisioning

/-- The least significand with all 53 binary digits. -/
def Double.leastNormal : Nat := 1 <<< 52

/-- The number `significand * 2 ^ (shift - 1074)` or its negative. There are two zeros. -/
structure Double where
  negative : Bool
  significand : Nat
  shift : Nat
  fits : significand < 2 * Double.leastNormal ∧ shift ≤ 2045
  /-- Only the least numbers have fewer digits. -/
  normal : Double.leastNormal ≤ significand ∨ shift = 0
  deriving Repr

namespace Double

def magnitude (x : Double) : Rat := x.significand * 2 ^ ((x.shift : Int) - 1074)

def value (x : Double) : Rat := if x.negative then -x.magnitude else x.magnitude

def slack (x : Double) : Rat := 2 ^ ((x.shift : Int) - 1075)

/-- Half the distance to the next number below, which is less where numbers begin to lie closer. -/
def slackBelow (x : Double) : Rat :=
  if x.significand = leastNormal && x.shift != 0 then x.slack / 2 else x.slack

/-- Whether a decimal is nearer to the number than to all others. The even one of two numbers is
taken where it is halfway between them. -/
def isReadFrom (x : Double) (q : Rat) : Bool :=
  let low := x.magnitude - x.slackBelow
  let high := x.magnitude + x.slack
  if x.significand % 2 = 0 then low ≤ q && q ≤ high else low < q && q < high

def point (q : Rat) : Int :=
  (((List.range 633).map fun (i : Nat) => (i : Int) - 323).find? fun k => q < 10 ^ k).getD 0

/-- The nearest decimal with a number of digits that is read as the number, without the point. -/
def nearest? (x : Double) (digits : Nat) : Option Nat :=
  let scaled := x.magnitude * 10 ^ ((digits : Int) - point x.magnitude)
  let below := scaled.floor.toNat
  let fits (n : Nat) : Bool := x.isReadFrom (n * 10 ^ (point x.magnitude - digits))
  let gap := scaled - below
  let up := gap > 1 / 2 || (gap = 1 / 2 && below % 2 = 1)
  match fits below, fits (below + 1) with
  | true, true => some (if up then below + 1 else below)
  | true, false => some below
  | false, true => some (below + 1)
  | false, false => none

theorem isReadFrom_of_nearest {x : Double} {digits n : Nat} (h : x.nearest? digits = some n) :
    x.isReadFrom (n * 10 ^ (point x.magnitude - digits)) = true := by
  unfold nearest? at h
  dsimp only at h
  split at h
  · rename_i below above
    obtain rfl := Option.some.inj h
    split
    · exact above
    · exact below
  · rename_i below _
    obtain rfl := Option.some.inj h
    exact below
  · rename_i _ above
    obtain rfl := Option.some.inj h
    exact above
  · cases h

def shortest (x : Double) : List Char × Int :=
  let found := (List.range 18).findSome? fun digits => (x.nearest? digits).map (digits, ·)
  let (digits, n) := found.getD (0, 0)
  let written := Nat.toDigits 10 n
  ((written.reverse.dropWhile (· = '0')).reverse,
    point x.magnitude - digits + written.length)

def placed (digits : List Char) (point : Int) : List Char :=
  if point ≤ 0 then '0' :: '.' :: List.replicate (-point).toNat '0' ++ digits
  else
    let before := digits.take point.toNat
    let behind := digits.drop point.toNat
    before ++ List.replicate (point.toNat - before.length) '0' ++
      '.' :: (if behind.isEmpty then ['0'] else behind)

def scientific (digits : List Char) (point : Int) : List Char :=
  let exponent := Nat.toDigits 10 (point - 1).natAbs
  digits.take 1 ++ (if digits.length ≤ 1 then [] else '.' :: digits.drop 1) ++
    'e' :: (if point - 1 < 0 then '-' else '+') ::
    List.replicate (2 - exponent.length) '0' ++ exponent

def written (x : Double) : String :=
  let (digits, point) := x.shortest
  String.ofList ((if x.negative then ['-'] else []) ++
    if x.significand = 0 then ['0', '.', '0']
    else if -4 < point && point ≤ 16 then placed digits point
    else scientific digits point)

/-- A tenth is not kept exactly, and is written with one digit nevertheless. -/
example : (mk false 7205759403792794 1018 (by decide) (by decide)).written = "0.1" := by
  decide +kernel

end Double
end Provisioning
