/-! Points in time as they are written in a log: date and time of day in UTC, with microseconds. -/

namespace CredentialGateway.Log.Time

def padded (width n : Nat) : String :=
  let digits := Nat.toDigits 10 n
  String.ofList (List.replicate (width - digits.length) '0' ++ digits)

/-- Year, month and day, counted in days from the first of March of the year zero; years begin in March there. -/
def civil (days : Nat) : Nat × Nat × Nat :=
  let era := days / 146097
  let day := days % 146097
  let year := (day - day / 1460 + day / 36524 - day / 146096) / 365
  let dayOfYear := day - (365 * year + year / 4 - year / 100)
  let month := (5 * dayOfYear + 2) / 153
  let year := 400 * era + year
  if month < 10 then (year, month + 3, dayOfYear - (153 * month + 2) / 5 + 1)
  else (year + 1, month - 9, dayOfYear - (153 * month + 2) / 5 + 1)

def epoch : Nat := 719468

def text (micros : Nat) : String :=
  let seconds := micros / 1000000
  let (year, month, day) := civil (seconds / 86400 + epoch)
  padded 4 year ++ "-" ++ padded 2 month ++ "-" ++ padded 2 day ++ "T" ++ padded 2 (seconds / 3600 % 24) ++ ":" ++
    padded 2 (seconds / 60 % 60) ++ ":" ++ padded 2 (seconds % 60) ++ "." ++ padded 6 (micros % 1000000) ++ "Z"

end CredentialGateway.Log.Time
