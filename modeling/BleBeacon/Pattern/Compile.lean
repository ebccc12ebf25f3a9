import BleBeacon.Pattern.Meaning

/-!
Patterns from the text of regular expressions, and all that can be said against such a text, how much
memory a machine for the pattern takes included. A machine has a state for each byte of a character,
for each fork and for each place that is remembered; what is repeated a given number of times is laid
out that many times.
-/

namespace BleBeacon.Pattern

def stateSize : Nat := 32

-- The bytes that a way from a fork to one of its branches takes.
def wayOutSize : Nat := 4

-- The bytes that a way out for a range of bytes takes.
def byteRangeSize : Nat := 8

/-- The bytes that the states for one character of a set take. The characters that are not ASCII
share a tree of byte ranges. -/
def setFootprint (set : CharSet) : Nat :=
  match set.ranges with
  | [(low, high)] =>
    if low = high then (Char.ofNat low).utf8Size * stateSize
    else if high < 128 then 2 * stateSize + byteRangeSize
    else 9 * stateSize + 17 * byteRangeSize
  | ranges =>
    if set.isAscii then 2 * stateSize + ranges.length * byteRangeSize
    else 9 * stateSize + (15 + ranges.length) * byteRangeSize

def footprint : Pattern → Nat
  | empty | look .. => stateSize
  | one set => setFootprint set
  | sequence p q => p.footprint + q.footprint
  | choice (choice p q) r => (choice p q).footprint + wayOutSize + r.footprint
  | choice p q => 2 * stateSize + 2 * wayOutSize + p.footprint + q.footprint
  | repeated least most p =>
    let fork := stateSize + 2 * wayOutSize
    match most with
    | none =>
      if least = 0 then fork + p.footprint else least * p.footprint + fork
    | some most =>
      let always := if least = 0 then stateSize else least * p.footprint
      if most = least then always
      else always + stateSize + (most - least) * (p.footprint + fork)
  | group p => p.footprint + 2 * stateSize

def footprintLimit : Nat := 10485760

/-- The bytes that every machine takes: a loop over the text in front of an occurrence, and the
states for the start and the end of the occurrence. -/
def baseFootprint : Nat := 6 * stateSize + 2 * wayOutSize + byteRangeSize

def isTooLarge (p : Pattern) : Bool := footprintLimit < baseFootprint + p.footprint

inductive CompileError where
  | fault (text : String) (f : Fault)
  | tooLarge
  -- The word characters of all scripts would have to be known.
  | scriptsUnknown
deriving DecidableEq, Repr

def CompileError.message : CompileError → String
  | fault text f => f.render text
  | tooLarge => s!"Compiled regex exceeds size limit of {footprintLimit} bytes."
  | scriptsUnknown => "error building NFA"

def compile (text : String) : Except CompileError Pattern :=
  match Expression.read text >>= Expression.meaning .standard with
  | .error f => .error (.fault text f)
  | .ok (p, _) =>
    if p.isTooLarge then .error .tooLarge
    else if p.asksForScripts then .error .scriptsUnknown
    else .ok p

end BleBeacon.Pattern
