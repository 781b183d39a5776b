import Fcmr.DotNet.Text

/-! Instants of `System.DateTimeOffset`, compared and printed in UTC. -/
namespace Fcmr.DotNet

/-- Ticks of 100 ns since 0001-01-01T00:00:00Z. The offset from UTC is left out where it
is not read. -/
abbrev DateTimeOffset := Nat

structure OffsetDateTime where
  utc : DateTimeOffset
  offset : Int
  offset_le : offset.natAbs ≤ 840
  local_nonneg : 0 ≤ utc + offset * 600000000

def OffsetDateTime.ofUtc (utc : DateTimeOffset) : OffsetDateTime := ⟨utc, 0, by decide, by simp⟩

structure Date where
  year : Nat
  month : Nat
  day : Nat
  deriving DecidableEq

def monthLengths (leap : Bool) : List Nat :=
  [31, if leap then 29 else 28, 31, 30, 31, 30, 31, 31, 30, 31, 30, 31]

def monthAndDay : (lengths : List Nat) → (month dayOfYear : Nat) → Nat × Nat
  | [], month, n => (month, n + 1)
  | length :: lengths, month, n =>
    if n < length then (month, n + 1) else monthAndDay lengths (month + 1) (n - length)

/-- The Gregorian date of a day counted from 0001-01-01, by periods of 400, 100, 4 and
1 years as in `DateTime.GetDate`. -/
def dateOfDays (days : Nat) : Date :=
  let y400 := days / 146097
  let n := days % 146097
  let y100 := min (n / 36524) 3
  let n := n - y100 * 36524
  let y4 := n / 1461
  let n := n % 1461
  let y1 := min (n / 365) 3
  let n := n - y1 * 365
  let leap := y1 == 3 && (y4 != 24 || y100 == 3)
  let (month, day) := monthAndDay (monthLengths leap) 1 n
  ⟨y400 * 400 + y100 * 100 + y4 * 4 + y1 + 1, month, day⟩

/-- `UtcDateTime.ToString("yyyy-MM-ddTHH:mm:ssZ", CultureInfo.InvariantCulture)`. -/
def utcText (instant : DateTimeOffset) : Text :=
  let seconds := instant / 10000000
  let date := dateOfDays (seconds / 86400)
  fixedText 4 date.year ++ lit "-" ++ fixedText 2 date.month ++ lit "-" ++ fixedText 2 date.day ++
    lit "T" ++ fixedText 2 (seconds / 3600 % 24) ++ lit ":" ++ fixedText 2 (seconds / 60 % 60) ++
    lit ":" ++ fixedText 2 (seconds % 60) ++ lit "Z"

example : utcText 638448479980000000 = lit "2024-02-29T23:59:58Z" := by decide

end Fcmr.DotNet
