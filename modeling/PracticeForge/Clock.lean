/-!
# Clock — the service's readings of time

Times are kept as the text a database stores: an ISO 8601 instant in UTC, with microseconds
when they are not zero.  The service's clock starts at midnight of 2026-01-01 and advances one
millisecond per reading, so every reading is later than the one before; only that order is ever
compared.
-/

namespace PracticeForge

namespace Clock

/-- A number in at least `width` digits, zeros in front. -/
def padded (width n : Nat) : String :=
  let s := toString n
  String.ofList (List.replicate (width - s.length) '0') ++ s

/-- The reading `ms` milliseconds after the clock's start, within its first month. -/
def reading (ms : Nat) : String :=
  let day := 1 + ms / 86400000
  let r := ms % 86400000
  let frac := r % 1000
  "2026-01-" ++ padded 2 day ++ "T" ++ padded 2 (r / 3600000) ++ ":" ++ padded 2 (r / 60000 % 60) ++
    ":" ++ padded 2 (r / 1000 % 60) ++ (if frac == 0 then "" else "." ++ padded 3 frac ++ "000") ++ "Z"

end Clock

end PracticeForge
