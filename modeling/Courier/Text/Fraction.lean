/-!
# Decimal fractions

A quantity counted in small units is shown in a larger unit as a decimal fraction: the whole part,
and behind a point the digits of the rest, without zeros at the end.
-/

namespace Courier.Text

/-- `n` with zeros in front, so that it has `width` digits. -/
def padded (width n : Nat) : List Char :=
  let digits := Nat.toDigits 10 n
  List.replicate (width - digits.length) '0' ++ digits

/-- `n` units of which `10 ^ places` make one, as a decimal fraction. -/
def fraction (places n : Nat) : String :=
  let one := Nat.pow 10 places
  let rest := ((padded places (n % one)).reverse.dropWhile (· = '0')).reverse
  (n / one).repr ++ if rest.isEmpty then "" else String.ofList ('.' :: rest)

end Courier.Text
