/-!
# Numbers in log lines

Counts, statuses and core positions are written in decimal, addresses and
function identifiers in lower-case hexadecimal behind `0x`. A number has no
leading zeros unless a least width is asked for.
-/
namespace RealmDispatch.Numeral

def decimal (n : Nat) : String := String.ofList (Nat.toDigits 10 n)

/-- A negative number carries a minus sign; no plus sign is ever written. -/
def signed : Int → String
  | .ofNat n => decimal n
  | .negSucc n => "-" ++ decimal (n + 1)

/-- Digits of `n` to base sixteen, filled with zeros on the left up to `width`. -/
def hexDigits (width n : Nat) : List Char :=
  let digits := Nat.toDigits 16 n
  List.replicate (width - digits.length) '0' ++ digits

def hex (n : Nat) : String := "0x" ++ String.ofList (hexDigits 0 n)

def paddedHex (width n : Nat) : String := "0x" ++ String.ofList (hexDigits width n)

end RealmDispatch.Numeral
