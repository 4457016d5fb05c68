/-! Moments in universal time, and their spelling as date and time of day. -/
namespace MoquiLint

/-- A moment, in whole seconds since the beginning of 1970. -/
structure Instant where
  seconds : Nat
  deriving DecidableEq, Repr, Inhabited

namespace Instant

def digits (width n : Nat) : String :=
  let ds := Nat.toDigits 10 n
  String.ofList (List.replicate (width - ds.length) '0' ++ ds)

/-- Year, month and day of a day, counted from the beginning of 1970. Years are taken to begin in March,
so that a leap day is the last of its year, and are counted in spans of 400 years. -/
def date (day : Nat) : Nat × Nat × Nat :=
  let day := day + 719468
  let inSpan := day % 146097
  let year := (inSpan - inSpan / 1460 + inSpan / 36524 - inSpan / 146096) / 365
  let inYear := inSpan - (365 * year + year / 4 - year / 100)
  let march := (5 * inYear + 2) / 153
  let month := if march < 10 then march + 3 else march - 9
  (day / 146097 * 400 + year + (if month ≤ 2 then 1 else 0), month,
    inYear - (153 * march + 2) / 5 + 1)

def text (t : Instant) : String :=
  let (year, month, day) := date (t.seconds / 86400)
  let s := t.seconds % 86400
  digits 4 year ++ "-" ++ digits 2 month ++ "-" ++ digits 2 day ++ "T" ++ digits 2 (s / 3600) ++ ":" ++
    digits 2 (s / 60 % 60) ++ ":" ++ digits 2 (s % 60) ++ "Z"

end Instant

end MoquiLint
