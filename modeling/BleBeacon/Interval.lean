import BleBeacon.Text.Basic

/-!
Texts for spans of time: a number and a unit, `ms`, `h`, `m` or `s`, with blanks around and between
them. Without a unit the number counts seconds.
-/

namespace BleBeacon.Interval

inductive TimeUnit where
  | milliseconds
  | hours
  | minutes
  | seconds
deriving DecidableEq, Repr

namespace TimeUnit

/-- The units in the order in which a text is tried; `ms` stands before `m` and `s`. -/
def all : List TimeUnit := [.milliseconds, .hours, .minutes, .seconds]

def name : TimeUnit → String
  | milliseconds => "milliseconds"
  | hours => "hours"
  | minutes => "minutes"
  | seconds => "seconds"

def ending : TimeUnit → List Char
  | milliseconds => ['m', 's']
  | hours => ['h']
  | minutes => ['m']
  | seconds => ['s']

def length : TimeUnit → Nat
  | milliseconds => 1
  | hours => 3600000
  | minutes => 60000
  | seconds => 1000

end TimeUnit

inductive IntervalError where
  | empty
  | badNumber (unit : TimeUnit) (number : String)
  | tooLong (text : String)
deriving DecidableEq, Repr

def IntervalError.message : IntervalError → String
  | empty => "empty duration string"
  | badNumber unit number => "invalid " ++ unit.name ++ ": " ++ number
  | tooLong text => "duration too long: " ++ text

def before? (ending cs : List Char) : Option (List Char) :=
  if ending.isSuffixOf cs then some (cs.take (cs.length - ending.length)) else none

/-- The first of some units that the text ends with, and what stands before it. -/
def firstUnit? (cs : List Char) : List TimeUnit → Option (TimeUnit × List Char)
  | [] => none
  | unit :: more =>
    match before? unit.ending cs with
    | some number => some (unit, number)
    | none => firstUnit? cs more

-- The unit of a text and the text of its number.
def splitUnit (cs : List Char) : TimeUnit × List Char :=
  (firstUnit? cs TimeUnit.all).getD (.seconds, cs)

def limit : Nat := UInt64.size

-- The span of time that a text tells, in milliseconds.
def parse (text : String) : Except IntervalError Nat :=
  let cs := trim text.toList
  if cs = [] then .error .empty
  else
    let (unit, number) := splitUnit cs
    match Numeral.unsigned? limit (trim number) with
    | none => .error (.badNumber unit (String.ofList number))
    | some n =>
      if n * unit.length < limit then .ok (n * unit.length)
      else .error (.tooLong (String.ofList cs))

end BleBeacon.Interval
