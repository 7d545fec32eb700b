/-
  SerialNumbers.Time.Zone

  Time zones: fixed offsets, and regions whose clocks are put forward and back
  by a yearly rule.  A zone gives the offset of its clock from universal time
  at an instant, and at a reading of the clock itself.

  A reading that the clock shows twice belongs to the earlier pass unless it is
  marked as the later one; a reading that is skipped counts as before the gap,
  or after it when so marked.
-/
import SerialNumbers.Failure
import SerialNumbers.Time.Calendar

namespace SerialNumbers.Time

/-! ## Rules for changing the clocks -/

/-- A region that changes its clocks. -/
inductive Region where
  | newYork
  | berlin
  | auckland
  | saoPaulo
deriving Repr, DecidableEq

/-- A change of offset: the instant, in seconds of universal time since the start of
    year 1, and the offsets before and after it. -/
structure Shift where
  instant : Int
  before : Int
  after : Int
deriving Repr, DecidableEq

def hours (n : Int) : Int := 3600 * n

/-- Seconds from the start of year 1 to a time of day. -/
def daySeconds (dayNumber : Nat) (seconds : Int) : Int :=
  86400 * ((dayNumber : Int) - 1) + seconds

/-- The day number of the `n`-th Sunday of a month, counted from 1. -/
def nthSunday (year month n : Nat) : Nat :=
  let first : Date := ⟨year, month, 1⟩
  first.dayNumber + (7 - first.weekday) % 7 + 7 * (n - 1)

/-- The day number of the last Sunday of a month. -/
def lastSunday (year month : Nat) : Nat :=
  let last : Date := ⟨year, month, monthLength year month⟩
  last.dayNumber - last.weekday % 7

namespace Region

/-- The name that the region is known by. -/
def name : Region → String
  | newYork => "America/New_York"
  | berlin => "Europe/Berlin"
  | auckland => "Pacific/Auckland"
  | saoPaulo => "America/Sao_Paulo"

/-- The offset in winter. -/
def standard : Region → Int
  | newYork => hours (-5)
  | berlin => hours 1
  | auckland => hours 12
  | saoPaulo => hours (-3)

/-- A change at a reading of the clock that is being changed. -/
def shiftAt (day : Nat) (reading before after : Int) : Shift :=
  ⟨daySeconds day reading - before, before, after⟩

/-- The changes of a year, in order. -/
def shifts (region : Region) (year : Nat) : List Shift :=
  let winter := region.standard
  let summer := winter + hours 1
  match region with
  | newYork =>
    [shiftAt (nthSunday year 3 2) (hours 2) winter summer,
     shiftAt (nthSunday year 11 1) (hours 2) summer winter]
  | berlin =>
    [⟨daySeconds (lastSunday year 3) (hours 1), winter, summer⟩,
     ⟨daySeconds (lastSunday year 10) (hours 1), summer, winter⟩]
  | auckland =>
    [shiftAt (nthSunday year 4 1) (hours 3) summer winter,
     shiftAt (lastSunday year 9) (hours 2) winter summer]
  | saoPaulo =>
    let forward (month day : Nat) : Shift :=
      ⟨daySeconds (Date.mk year month day).dayNumber (hours 3), winter, summer⟩
    let back (month day : Nat) : Shift :=
      ⟨daySeconds (Date.mk year month day).dayNumber (hours 2), summer, winter⟩
    match year with
    | 2017 => [forward 10 15]
    | 2018 => [back 2 18, forward 11 4]
    | 2019 => [back 2 17]
    | _ => []

/-- The changes that can matter to a second of universal time or of the clock. -/
def shiftsNear (region : Region) (seconds : Int) : List Shift :=
  let year := Date.yearOf ((seconds / 86400).toNat + 1)
  region.shifts (year - 1) ++ region.shifts year

end Region

/-! ## Zones -/

inductive Zone where
  | fixed (offset : Int)
  | seasonal (region : Region)
deriving Repr, DecidableEq

namespace Zone

def utc : Zone := .fixed 0

/-- The last of the changes that have passed gives the offset. -/
def offsetAfter (region : Region) (passed : List Shift) : Int :=
  (passed.getLast?.map (·.after)).getD region.standard

/-- The offset at an instant, in seconds of universal time since the start of year 1. -/
def offsetAt (zone : Zone) (instant : Int) : Int :=
  match zone with
  | .fixed offset => offset
  | .seasonal region =>
    offsetAfter region ((region.shiftsNear instant).filter (·.instant ≤ instant))

/-- The offset at a reading of the clock; `late` marks the later of two passes. -/
def offsetOf (zone : Zone) (late : Bool) (reading : Int) : Int :=
  match zone with
  | .fixed offset => offset
  | .seasonal region =>
    offsetAfter region ((region.shiftsNear reading).filter fun shift =>
      shift.instant + (if late then min shift.before shift.after else max shift.before shift.after)
        ≤ reading)

/-- At this instant the clock is in its later pass over readings that it shows twice. -/
def isLatePass (zone : Zone) (instant : Int) : Bool :=
  match zone with
  | .fixed _ => false
  | .seasonal region => (region.shiftsNear instant).any fun shift =>
      shift.instant ≤ instant && instant < shift.instant + (shift.before - shift.after)

/-! ## Names -/

def named? : String → Option Zone
  | "UTC" => some utc
  | "Asia/Tokyo" => some (.fixed (hours 9))
  | "Asia/Kolkata" => some (.fixed (hours 5 + 1800))
  | "America/New_York" => some (.seasonal .newYork)
  | "Europe/Berlin" => some (.seasonal .berlin)
  | "Pacific/Auckland" => some (.seasonal .auckland)
  | "America/Sao_Paulo" => some (.seasonal .saoPaulo)
  | _ => none

/-- The parts of a relative path after taking out empty and single-dot parts and
    resolving double-dot parts. -/
def normalParts (path : List Char) : List (List Char) :=
  let step (kept : List (List Char)) (part : List Char) : List (List Char) :=
    if part.isEmpty || part == ['.'] then kept
    else if part != ['.', '.'] then part :: kept
    else
      match kept with
      | [] => [part]
      | last :: rest => if last == ['.', '.'] then part :: kept else rest
  ((path.splitOn '/').foldl step []).reverse

/-- The normal form of a relative path. -/
def normalPath (path : List Char) : List Char :=
  match normalParts path with
  | [] => ['.']
  | parts => ['/'].intercalate parts

/-- The zone of a name.  Names are relative paths in normal form that stay below their
    root; others are refused before the zone is looked up. -/
def named (name : String) : Except Failure Zone :=
  let path := name.toList
  let normal := normalPath path
  if path.head? == some '/' then .error (.value (.zoneAbsolute name))
  else if normal.length != path.length then .error (.value (.zoneNotNormal name))
  else if normal == ['.'] || (normalParts path).head? == some ['.', '.'] then
    .error (.value (.zoneOutside name))
  else
    match named? name with
    | some zone => .ok zone
    | none => .error .unknownZone

end Zone

end SerialNumbers.Time
