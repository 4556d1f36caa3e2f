import Playground.Yaml.Kind

/-! Dates and times by the pattern that the resolver of the library is assumed to go by. -/

namespace Playground.Yaml

/-- How far a clock is from the common time, in minutes. -/
inductive Zone
  | none
  | offset (minutes : Int)
  deriving DecidableEq, Repr

/-- A time of day with millionths of a second. -/
structure Clock where
  hour : Nat
  minute : Nat
  second : Nat
  micro : Nat
  zone : Zone
  deriving DecidableEq, Repr

structure Timestamp where
  year : Nat
  month : Nat
  day : Nat
  clock : Option Clock := .none
  deriving DecidableEq, Repr

namespace Timestamp

def natOf (digits : List Char) : Nat := digits.foldl (fun n d => n * 10 + (d.toNat - 48)) 0

/-- A number of at least `least` and at most `most` digits, and what follows it. -/
def field? (least most : Nat) (s : List Char) : Option (Nat × List Char) :=
  let digits := (s.take most).takeWhile isDigit
  if digits.length < least then none else some (natOf digits, s.drop digits.length)

def after? (c : Char) : List Char → Option (List Char)
  | a :: r => if a = c then some r else none
  | [] => none

def micro (digits : List Char) : Nat :=
  let shown := digits.take 6
  natOf shown * Nat.pow 10 (6 - shown.length)

def zone? (s : List Char) : Option Zone :=
  match s.dropWhile isSpaceTab with
  | [] => if s.isEmpty then some .none else none
  | ['Z'] => some (.offset 0)
  | sign :: r =>
    if sign = '-' ∨ sign = '+' then do
      let (hours, r) ← field? 1 2 r
      let minutes ← match r with
        | [] => some 0
        | ':' :: r => do
          let (minutes, r) ← field? 2 2 r
          if r.isEmpty then some minutes else none
        | _ => none
      let total : Int := hours * 60 + minutes
      return .offset (if sign = '-' then -total else total)
    else none

def clock? (s : List Char) : Option Clock := do
  let (hour, s) ← field? 1 2 s
  let (minute, s) ← field? 2 2 (← after? ':' s)
  let (second, s) ← field? 2 2 (← after? ':' s)
  let (fraction, s) := match s with
    | '.' :: r => (r.takeWhile isDigit, r.dropWhile isDigit)
    | s => ([], s)
  return ⟨hour, minute, second, micro fraction, ← zone? s⟩

/-- The clock of a timestamp stands after a letter or blanks. -/
def pastDate? : List Char → Option (List Char)
  | 'T' :: r => some r
  | 't' :: r => some r
  | c :: r => if isSpaceTab c then some (r.dropWhile isSpaceTab) else none
  | [] => none

/-- Reads a date, or a date and a time. Months and days have two digits in a date alone when it is
not marked as one. -/
def read? (least : Nat) (s : List Char) : Option Timestamp := do
  let (year, s) ← field? 4 4 s
  let r ← after? '-' s
  let (month, s) ← field? 1 2 r
  let t ← after? '-' s
  let (day, s) ← field? 1 2 t
  match s with
  | [] =>
    if (r.takeWhile isDigit).length < least ∨ t.length < least then none
    else some { year, month, day }
  | s => do return { year, month, day, clock := some (← clock? (← pastDate? s)) }

def isLeap (year : Nat) : Bool := (year % 4 == 0 && year % 100 != 0) || year % 400 == 0

def daysOf (year month : Nat) : Nat :=
  if month = 2 then (if isLeap year then 29 else 28)
  else if month = 4 ∨ month = 6 ∨ month = 9 ∨ month = 11 then 30
  else 31

/-- A length of time as days and the seconds that are left. -/
def shownSpan (minutes : Int) : String :=
  let days := minutes.fdiv 1440
  let seconds := (minutes.fmod 1440) * 60
  let parts := (if days = 0 then [] else ["days=" ++ toString days]) ++
    (if seconds = 0 then [] else ["seconds=" ++ toString seconds])
  "datetime.timedelta(" ++ (if parts.isEmpty then "0" else ", ".intercalate parts) ++ ")"

def zoneFault : Zone → Option String
  | .none => Option.none
  | .offset minutes =>
    if minutes.natAbs < 1440 then Option.none
    else some ("offset must be a timedelta strictly between -timedelta(hours=24) and " ++
      "timedelta(hours=24), not " ++ shownSpan minutes ++ ".")

def dateFault (t : Timestamp) : Option String :=
  if t.year = 0 then some "year 0 is out of range"
  else if t.month = 0 ∨ 12 < t.month then some "month must be in 1..12"
  else if t.day = 0 ∨ daysOf t.year t.month < t.day then some "day is out of range for month"
  else none

def clockFault (c : Clock) : Option String :=
  if 23 < c.hour then some "hour must be in 0..23"
  else if 59 < c.minute then some "minute must be in 0..59"
  else if 59 < c.second then some "second must be in 0..59"
  else none

/-- Why there is no such time. The zone is looked at first. -/
def fault (t : Timestamp) : Option String :=
  match t.clock with
  | some c => (zoneFault c.zone).or (t.dateFault.or (clockFault c))
  | none => t.dateFault

def kindName (t : Timestamp) : String :=
  if t.clock.isSome then "datetime.datetime" else "datetime.date"

def shownZone : Zone → List String
  | .none => []
  | .offset minutes =>
    if minutes = 0 then ["tzinfo=datetime.timezone.utc"]
    else ["tzinfo=datetime.timezone(" ++ shownSpan minutes ++ ")"]

def shown (t : Timestamp) : String :=
  let numbers := match t.clock with
    | none => []
    | some c =>
      [c.hour, c.minute] ++ (if c.micro = 0 then (if c.second = 0 then [] else [c.second])
        else [c.second, c.micro])
  let zone := (t.clock.map fun c => shownZone c.zone).getD []
  t.kindName ++ "(" ++
    ", ".intercalate (([t.year, t.month, t.day] ++ numbers).map toString ++ zone) ++ ")"

end Timestamp

namespace Kind

def isTimestamp (s : List Char) : Bool := (Timestamp.read? 2 s).isSome

/-- The kind that a word without quotes stands for. -/
def ofWord (s : List Char) : Kind :=
  let word := String.ofList s
  if nullWords.contains word then .null
  else if truthWords.contains word then .truth
  else if isReal s then .real
  else if isWhole s then .whole
  else if word = "<<" then .merge
  else if isTimestamp s then .timestamp
  else if word = "=" then .default
  else .text

/-- The kind of a text that nothing but its form tells. A line end after it says nothing. -/
def ofPlain (s : List Char) : Kind :=
  if s = ['\n'] then .text else ofWord (Text.withoutLineEnd s)

end Kind

end Playground.Yaml
