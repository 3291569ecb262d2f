import PackageSignature.Der.Value
/-! Moments in certificates, in either of their two forms. -/

namespace PackageSignature.Certificate

structure Time where
  year : Nat
  month : Nat
  day : Nat
  hour : Nat
  minute : Nat
  second : Nat
deriving DecidableEq, Repr

namespace Time

def isLeapYear (year : Nat) : Bool :=
  year % 4 == 0 && (year % 100 != 0 || year % 400 == 0)

def daysIn (year month : Nat) : Nat :=
  match month with
  | 2 => if isLeapYear year then 29 else 28
  | 4 | 6 | 9 | 11 => 30
  | 1 | 3 | 5 | 7 | 8 | 10 | 12 => 31
  | _ => 0

def isValid (time : Time) : Bool :=
  1970 ≤ time.year && 1 ≤ time.day && time.day ≤ daysIn time.year time.month &&
    time.hour ≤ 23 && time.minute ≤ 59 && time.second ≤ 59

def pairs? : Bytes → Option (List Nat)
  | [] => some []
  | tens :: ones :: rest =>
      if 0x30 ≤ tens ∧ tens ≤ 0x39 ∧ 0x30 ≤ ones ∧ ones ≤ 0x39 then
        (pairs? rest).map (((tens.toNat - 0x30) * 10 + (ones.toNat - 0x30)) :: ·)
      else
        none
  | [_] => none

/-- The moment in the content of an element. The short form has a year of two digits,
which is one of the twentieth century from 50 on; both end in the letter of the zero
meridian. -/
def ofElement? (element : Der.Element) : Option Time := do
  guard (element.content.getLast? == some 0x5a)
  let numbers ← pairs? element.content.dropLast
  let time : Time ←
    if element.tag = Der.Tag.utcTime then
      match numbers with
      | [year, month, day, hour, minute, second] =>
          let full := if 50 ≤ year then 1900 + year else 2000 + year
          some { year := full, month, day, hour, minute, second }
      | _ => none
    else if element.tag = Der.Tag.generalizedTime then
      match numbers with
      | [century, year, month, day, hour, minute, second] =>
          some { year := 100 * century + year, month, day, hour, minute, second }
      | _ => none
    else
      none
  guard time.isValid
  return time

def read : Der.Reader Time := do
  ofElement? (← Der.Reader.element)

end Time

end PackageSignature.Certificate
