import WorkflowEngine.Decimal.Layout

/-!
# Time

Instants are points in time as they are written down.  The clock counts the seconds that pass between them.
-/

/-!
## Instants

An instant is counted in whole microseconds from the start of the year 2024.  It is written as a date
and a time of day, with a fraction of the second only where there is one.
-/

namespace WorkflowEngine

/-- A point in time. -/
structure Instant where
  micros : Int
deriving Repr, DecidableEq, Inhabited

namespace Instant

/-- The microseconds in a second. -/
def perSecond : Nat := 1000000

/-- Seconds as whole microseconds, the even number of two that are as near. -/
def microsOfSeconds (seconds : Float) : Int :=
  match Decimal.truncate? seconds with
  | none => 0
  | some whole =>
    let rest := (seconds - Decimal.floatOfInt whole) * 1000000.0
    whole * perSecond + (Decimal.roundToInt? rest).getD 0

/-- The instant a number of seconds after the start. -/
def ofSeconds (seconds : Float) : Instant :=
  ⟨microsOfSeconds seconds⟩

/-- The milliseconds from one instant to another. -/
def millisecondsUntil (start finish : Instant) : Float :=
  let span := finish.micros - start.micros
  Decimal.nearestFloat (decide (span < 0)) span.natAbs perSecond * 1000.0

/-- A day of the calendar. -/
structure Day where
  year : Int
  month : Nat
  day : Nat
deriving Repr, DecidableEq, Inhabited

/-- The days from the first of March of the year 0 to the start of the year 2024. -/
def daysBefore : Int := 739191

/-- The day that lies some days after the start; years are taken to begin in March. -/
def dayAfter (days : Int) : Day :=
  let count := days + daysBefore
  let era := count / 146097
  let inEra := (count % 146097).toNat
  let yearOfEra := (inEra - inEra / 1460 + inEra / 36524 - inEra / 146096) / 365
  let inYear := inEra - (365 * yearOfEra + yearOfEra / 4 - yearOfEra / 100)
  let month := (5 * inYear + 2) / 153
  let day := inYear - (153 * month + 2) / 5 + 1
  let year := era * 400 + Int.ofNat yearOfEra
  if month < 10 then ⟨year, month + 3, day⟩ else ⟨year + 1, month - 9, day⟩

/-- A number with zeros in front. -/
def padded (width value : Nat) : String :=
  String.ofList (Decimal.padZeros width (Decimal.digitChars value))

/-- The instant as a date and a time of day, with what stands for its zone. -/
def textIn (zone : String) (i : Instant) : String :=
  let seconds := i.micros / perSecond
  let fraction := (i.micros % perSecond).toNat
  let day := dayAfter (seconds / 86400)
  let inDay := (seconds % 86400).toNat
  padded 4 day.year.toNat ++ "-" ++ padded 2 day.month ++ "-" ++ padded 2 day.day ++ "T" ++
    padded 2 (inDay / 3600) ++ ":" ++ padded 2 (inDay / 60 % 60) ++ ":" ++ padded 2 (inDay % 60) ++
    (if fraction == 0 then "" else "." ++ padded 6 fraction) ++ zone

/-- Universal time, written as a distance to it. -/
def universalZone : String := "+00:00"

/-- Universal time, written as a letter. -/
def universalLetter : String := "Z"

/-- The instant with its distance to universal time. -/
def text (i : Instant) : String :=
  i.textIn universalZone

end Instant

/-- A span of milliseconds without a fraction, the even number of two that are as near. -/
def wholeMilliseconds (span : Float) : String :=
  match Decimal.Dyadic.ofFloat? span with
  | none => String.ofList (Decimal.specialChars span)
  | some d => String.ofList (Decimal.withSign d.negative (Decimal.fixedChars d 0))

end WorkflowEngine

/-!
## The clock

The clock counts seconds.  It moves when somebody sleeps, for as long as sleeping is not held and the
span is not out of all proportion, and it keeps every span for which somebody asked to sleep.
-/

namespace WorkflowEngine

/-- The seconds that have passed, and the spans that were slept, the latest first. -/
structure Clock where
  elapsed : Float
  isHeld : Bool
  slept : List Float
deriving Repr, Inhabited

namespace Clock

/-- The clock at the start. -/
def start : Clock := ⟨0.0, false, []⟩

/-- The present instant. -/
def now (c : Clock) : Instant :=
  Instant.ofSeconds c.elapsed

/-- The steady count of seconds against which deadlines are held. -/
def reading (c : Clock) : Float :=
  1000.0 + c.elapsed

/-- The clock some seconds later. -/
def advance (c : Clock) (seconds : Float) : Clock :=
  { c with elapsed := c.elapsed + seconds }

/-- The longest sleep that moves the clock. -/
def longest : Float := 1000000000.0

/-- Sleeps for some seconds. -/
def sleep (c : Clock) (seconds : Float) : Clock :=
  let later := if !c.isHeld && seconds ≤ longest then c.advance seconds else c
  { later with slept := seconds :: c.slept }

/-- From now on sleeping does not move the clock. -/
def hold (c : Clock) : Clock :=
  { c with isHeld := true }

end Clock

end WorkflowEngine
