import DocGraft.Text.Basic

/-!
# Dates and times

A moment is a day, a time of day, or both. One that has both may tell how far its clock is ahead of
universal time. Moments of one kind are in an order; those whose clocks are known are compared in
universal time.
-/

namespace DocGraft

/-- A number with zeros before it, up to a width. -/
def padded (width n : Nat) : String :=
  let digits := toString n
  String.ofList (List.replicate (width - digits.length) '0') ++ digits

def isLeapYear (year : Nat) : Bool := year % 4 = 0 && (year % 100 ≠ 0 || year % 400 = 0)

def daysOfMonth (year : Nat) : Nat → Nat
  | 2 => if isLeapYear year then 29 else 28
  | 4 | 6 | 9 | 11 => 30
  | _ => 31

/-- The calendar has the day. -/
def IsDay (year month day : Nat) : Prop :=
  (1 ≤ year ∧ year ≤ 9999) ∧ (1 ≤ month ∧ month ≤ 12) ∧ 1 ≤ day ∧ day ≤ daysOfMonth year month

instance (year month day : Nat) : Decidable (IsDay year month day) :=
  inferInstanceAs (Decidable (_ ∧ _))

structure Date where
  year : Nat
  month : Nat
  day : Nat
  isDay : IsDay year month day
  deriving DecidableEq, Repr

structure Clock where
  hour : Fin 24
  minute : Fin 60
  second : Fin 60
  micro : Fin 1000000
  deriving DecidableEq, Repr

inductive Moment
  | date (d : Date)
  | clock (c : Clock)
  /-- The clock is so many minutes ahead of universal time, if that is known. -/
  | dated (d : Date) (c : Clock) (ahead : Option Int)
  deriving DecidableEq, Repr

def Date.ofNumbers? (year month day : Nat) : Option Date :=
  if h : IsDay year month day then some ⟨year, month, day, h⟩ else none

def Clock.ofNumbers? (hour minute second micro : Nat) : Option Clock :=
  if h : hour < 24 ∧ minute < 60 ∧ second < 60 ∧ micro < 1000000 then
    some ⟨⟨hour, h.1⟩, ⟨minute, h.2.1⟩, ⟨second, h.2.2.1⟩, ⟨micro, h.2.2.2⟩⟩
  else none

/-! ### Texts -/

def Date.text (d : Date) : String :=
  padded 4 d.year ++ "-" ++ padded 2 d.month ++ "-" ++ padded 2 d.day

def Clock.text (c : Clock) : String :=
  padded 2 c.hour ++ ":" ++ padded 2 c.minute ++ ":" ++ padded 2 c.second ++
    if c.micro = 0 then "" else "." ++ padded 6 c.micro

def aheadText (minutes : Int) : String :=
  (if minutes < 0 then "-" else "+") ++ padded 2 (minutes.natAbs / 60) ++ ":" ++
    padded 2 (minutes.natAbs % 60)

/-- The numbers of a clock in a message, without zeros at the end from the seconds on. -/
def Clock.numbers (c : Clock) : List Nat :=
  [c.hour.val, c.minute.val] ++
    if c.micro ≠ 0 then [c.second.val, c.micro.val]
    else if c.second ≠ 0 then [c.second.val]
    else []

/-- A clock's distance from universal time in a message; whole days are taken off one that is
behind. -/
def aheadShown (minutes : Int) : String :=
  if minutes = 0 then "datetime.timezone.utc"
  else
    "datetime.timezone(datetime.timedelta(" ++
      (if minutes < 0 then "days=-1, " else "") ++
      "seconds=" ++ toString (minutes * 60 % 86400) ++ "))"

namespace Moment

def text : Moment → String
  | .date d => d.text
  | .clock c => c.text
  | .dated d c ahead => d.text ++ " " ++ c.text ++ (ahead.map aheadText).getD ""

def className : Moment → String
  | .date _ => "date"
  | .clock _ => "time"
  | .dated _ _ _ => "datetime"

def kindName (m : Moment) : String := "datetime." ++ m.className

/-- A moment as it is shown in messages: a call with its numbers. -/
def shown (m : Moment) : String :=
  let day (d : Date) := [d.year, d.month, d.day]
  let parts : List String := match m with
    | .date d => (day d).map toString
    | .clock c => c.numbers.map toString
    | .dated d c ahead =>
      (day d ++ c.numbers).map toString ++ (ahead.map fun n => "tzinfo=" ++ aheadShown n).toList
  m.kindName ++ "(" ++ ", ".intercalate parts ++ ")"

end Moment

/-! ### Order -/

/-- The days in the first months of a year. -/
def daysOfMonths (year : Nat) : Nat → Nat
  | 0 => 0
  | months + 1 => daysOfMonths year months + daysOfMonth year (months + 1)

/-- The number of days up to a day, from the first one of the calendar on. -/
def Date.number (d : Date) : Nat :=
  let years := d.year - 1
  years * 365 + years / 4 - years / 100 + years / 400 + daysOfMonths d.year (d.month - 1) + d.day

/-- The time of day in microseconds. -/
def Clock.micros (c : Clock) : Nat :=
  ((c.hour * 60 + c.minute) * 60 + c.second) * 1000000 + c.micro

namespace Moment

/-- The kind of a moment, and its place among those of its kind. -/
def place : Moment → Nat × Int
  | .date d => (0, d.number)
  | .clock c => (1, c.micros)
  | .dated d c none => (2, d.number * 86400000000 + c.micros)
  | .dated d c (some ahead) => (3, d.number * 86400000000 + c.micros - ahead * 60000000)

def isSame (a b : Moment) : Bool := a.place == b.place

/-- Whether the first moment is the later one, if there is an order between them. -/
def exceeds? (a b : Moment) : Option Bool :=
  if a.place.1 = b.place.1 then some (b.place.2 < a.place.2) else none

end Moment

end DocGraft
