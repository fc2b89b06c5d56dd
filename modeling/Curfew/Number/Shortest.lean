import Curfew.Number.Binary64

/-!
Decimal text of double-precision numbers.

A number is written with the fewest digits that read back as it, and the nearest of those; the
decimal point stands among the digits while the number is at least a ten-thousandth and has at most
sixteen digits before the point.
-/

namespace Curfew.Binary64

/-! ### Writing -/

/-- How many digits a fraction has before the decimal point; for a fraction below a tenth, minus the
zeros right behind it. -/
def pointOf (numerator denominator : Nat) : Int :=
  if denominator ≤ numerator then (Text.digits 10 (numerator / denominator)).length
  else
    let needed := (denominator + numerator - 1) / numerator
    1 - ((Text.digits 10 (needed - 1)).length : Int)

/-- The digits that read back as the number among the two nearest with so many digits. -/
def candidate? (target : Binary64) (numerator denominator : Nat) (point : Int) (count : Nat) :
    Option (Nat × Int) :=
  let scale := point - count
  let (n, d) :=
    if scale < 0 then (numerator * Nat.pow 10 scale.natAbs, denominator)
    else (numerator, denominator * Nat.pow 10 scale.natAbs)
  let below := n / d
  let reads (digits : Nat) : Bool := ofDecimal false digits scale == target
  let upIsNearer := roundDiv n d == below + 1
  match reads below, reads (below + 1) with
  | true, true => some (if upIsNearer then below + 1 else below, scale)
  | true, false => some (below, scale)
  | false, true => some (below + 1, scale)
  | false, false => none

/-- The fewest digits that read back as a positive number, and the power of ten of the last one. -/
def shortest (significand : Nat) (exponent : Int) : Nat × Int :=
  let (numerator, denominator) :=
    if exponent < 0 then (significand, Nat.pow 2 exponent.natAbs)
    else (significand * Nat.pow 2 exponent.natAbs, 1)
  let point := pointOf numerator denominator
  ((List.range 17).findSome? fun k =>
    candidate? (.finite false significand exponent) numerator denominator point (k + 1)).getD (0, 0)

/-- Digits with their decimal point, counted from before the first of them. -/
def positional (digits : List Char) (point : Int) : List Char :=
  if point ≤ 0 then '0' :: '.' :: List.replicate point.natAbs '0' ++ digits
  else
    let whole := point.toNat
    if digits.length ≤ whole then
      digits ++ List.replicate (whole - digits.length) '0' ++ ['.', '0']
    else digits.take whole ++ '.' :: digits.drop whole

/-- Digits as one digit, a fraction, and an exponent with a sign and at least two digits. -/
def scientific (digits : List Char) (point : Int) : List Char :=
  let exponent := point - 1
  let fraction := match digits.drop 1 with
    | [] => []
    | rest => '.' :: rest
  digits.take 1 ++ fraction ++ 'e' :: (if exponent < 0 then '-' else '+') ::
    Text.paddedDigits 10 2 exponent.natAbs

/-- The text of a number. -/
def chars : Binary64 → List Char
  | .nan => "nan".toList
  | .infinite negative => if negative then "-inf".toList else "inf".toList
  | .finite negative significand exponent =>
    let sign := if negative then ['-'] else []
    if significand = 0 then sign ++ "0.0".toList
    else
      let (value, scale) := shortest significand exponent
      let written := Text.digits 10 value
      let point := (written.length : Int) + scale
      let kept := (written.reverse.dropWhile (· == '0')).reverse
      sign ++ if -4 < point && point ≤ 16 then positional kept point else scientific kept point

/-! ### Reading -/

/-- The digits at the start of a text, with single underscores between them, and what follows. -/
def takeDigits : List Char → List Nat × List Char
  | [] => ([], [])
  | '_' :: c :: cs =>
    match Text.decimalDigit? c with
    | some n => let (ns, rest) := takeDigits cs; (n :: ns, rest)
    | none => ([], '_' :: c :: cs)
  | c :: cs =>
    match Text.decimalDigit? c with
    | some n => let (ns, rest) := takeDigits cs; (n :: ns, rest)
    | none => ([], c :: cs)

/-- The digits at the start of a text, which may not begin with an underscore. -/
def takeNumeral (cs : List Char) : List Nat × List Char :=
  match cs with
  | '_' :: _ => ([], cs)
  | _ => takeDigits cs

def ofDigits (ns : List Nat) : Nat := ns.foldl (fun value n => value * 10 + n) 0

/-- The exponent behind the digits of a number, zero when there is none; `none` if text is left. -/
def exponent? (cs : List Char) : Option Int :=
  match cs with
  | [] => some 0
  | e :: rest =>
    if e.toLower ≠ 'e' then none
    else
      let (sign, rest) : Int × List Char := match rest with
        | '-' :: rest => (-1, rest)
        | '+' :: rest => (1, rest)
        | _ => (1, rest)
      match takeNumeral rest with
      | (n :: ns, []) => some (sign * ofDigits (n :: ns))
      | _ => none

/-- The number that an unsigned text stands for. -/
def unsigned? (negative : Bool) (cs : List Char) : Option Binary64 :=
  let lower := cs.map Char.toLower
  if lower = "inf".toList || lower = "infinity".toList then some (.infinite negative)
  else if lower = "nan".toList then some .nan
  else
    let (whole, rest) := takeNumeral cs
    let (fraction, rest) := match rest with
      | '.' :: rest => takeNumeral rest
      | _ => ([], rest)
    if whole.isEmpty && fraction.isEmpty then none
    else (exponent? rest).map fun exponent =>
      ofDecimal negative (ofDigits (whole ++ fraction)) (exponent - fraction.length)

/-- The number that a text stands for: a sign, digits with an optional point and exponent, or the
name of what no digits stand for; padding around it does not count. -/
def ofChars? (cs : List Char) : Option Binary64 :=
  match Text.trimWith Text.isPadding cs with
  | '-' :: cs => unsigned? true cs
  | '+' :: cs => unsigned? false cs
  | cs => unsigned? false cs

end Curfew.Binary64
