import BleBeacon.Pattern.Reader

/-!
What regular expressions mean: the pattern of an expression under the flags that hold where it
starts. Texts are Unicode throughout, so an expression that asks for single bytes may only ask for
ASCII ones. There is no data on the scripts of Unicode here; what would need it is refused.
-/

namespace BleBeacon.Pattern

structure Flags where
  ignoreCase : Bool
  multiLine : Bool
  dotAll : Bool
  unicode : Bool
  crlf : Bool
deriving DecidableEq, Repr

namespace Flags

def standard : Flags := ⟨false, false, false, true, false⟩

def set (f : Flags) : Flag × Bool → Flags
  | (.ignoreCase, on) => { f with ignoreCase := on }
  | (.multiLine, on) => { f with multiLine := on }
  | (.dotAll, on) => { f with dotAll := on }
  | (.unicode, on) => { f with unicode := on }
  | (.crlf, on) => { f with crlf := on }
  | (.swapGreed, _) | (.verbose, _) => f

def change (f : Flags) (changes : FlagChanges) : Flags := changes.foldl set f

end Flags

def maxByte : Nat := 0xFF

/-- The character that a literal stands for. A byte that is not ASCII is none. -/
def Literal.meaning (flags : Flags) (l : Literal) : Reading Char :=
  if !flags.unicode && l.isByte && 128 ≤ l.char.toNat then fail .invalidUtf8 l.span else .ok l.char

/-- A literal as a character of a set. Without Unicode sets hold bytes only. -/
def Literal.setMeaning (flags : Flags) (l : Literal) : Reading Char := do
  let c ← l.meaning flags
  if !flags.unicode && 128 ≤ c.toNat then fail .notByteSized l.span else return c

/-- A set in both cases, if case is ignored. Only ASCII letters are known in both cases. -/
def bothCases (flags : Flags) (span : Span) (s : CharSet) : Reading CharSet :=
  if !flags.ignoreCase then .ok s
  else if !flags.unicode then .ok s.withBothCases
  else if s = .empty ∨ s = CharSet.empty.complement CharSet.maxCode then .ok s
  else fail .caseUnavailable span

/-- A set, or what is not in it. Without Unicode nothing but ASCII may come out. -/
def orComplement (flags : Flags) (span : Span) (negated : Bool) (s : CharSet) : Reading CharSet :=
  let s := if negated then
    s.complement (if flags.unicode then CharSet.maxCode else maxByte) else s
  if !flags.unicode && !s.isAscii then fail .invalidUtf8 span else .ok s

/-- The letters of a name, in lower case, without what is between them and without a leading "is". -/
def Property.letters (p : Property) : List Char :=
  let cs := p.name.toList
  let start := if (cs.take 2).map Char.toLower = ['i', 's'] then cs.drop 2 else cs
  (start.filter fun c => c.toNat < 128 && c != ' ' && c != '_' && c != '-').map Char.toLower

/-- What is wrong with a property: all are unknown. Three names are those of categories, which would
be values of a property. -/
def Property.fault (p : Property) : FaultKind :=
  if !p.hasValue && ["cf", "sc", "lc"].contains (String.ofList p.letters) then .propertyValueUnknown
  else .propertyUnknown

def SetOperation.apply : SetOperation → CharSet → CharSet → CharSet
  | intersection => CharSet.inter
  | difference => CharSet.diff
  | symmetricDifference => CharSet.symmDiff

mutual

def SetExpression.meaning (flags : Flags) : SetExpression → Reading CharSet
  | .empty _ => .ok .empty
  | .literal l => do return .single (← l.setMeaning flags)
  | .range _ low high => do
    return ⟨[((← low.setMeaning flags).toNat, (← high.setMeaning flags).toNat)]⟩
  | .named span negated set => do orComplement flags span negated (← bothCases flags span set)
  | .lettered span negated kind =>
    if flags.unicode then fail .letterClassUnavailable span
    else orComplement flags span negated kind.asciiSet
  | .property span _ p => fail (if flags.unicode then p.fault else .notByteSized) span
  | .bracketed span negated inner => do
    orComplement flags span negated (← bothCases flags span (← inner.meaning flags))
  | .union _ parts => SetExpression.unionMeaning flags parts
  | .operation _ op left right => do
    let first ← left.meaning flags
    let second ← right.meaning flags
    let second ← bothCases flags right.span second
    let first ← bothCases flags left.span first
    return op.apply first second

def SetExpression.unionMeaning (flags : Flags) : List SetExpression → Reading CharSet
  | [] => .ok .empty
  | part :: rest => do
    return (← part.meaning flags).union (← SetExpression.unionMeaning flags rest)

end

def Assertion.meaning (flags : Flags) : Assertion → Look
  | caret => if flags.multiLine then .lineStart flags.crlf else .textStart
  | dollar => if flags.multiLine then .lineEnd flags.crlf else .textEnd
  | plain l => l

def dotSet (flags : Flags) : CharSet :=
  let breaks : CharSet :=
    if flags.dotAll then .empty
    else if flags.crlf then ⟨[(0x0A, 0x0A), (0x0D, 0x0D)]⟩
    else .single '\n'
  breaks.complement CharSet.maxCode

mutual

-- The pattern of an expression, and the flags that hold behind it.
def Expression.meaning (flags : Flags) : Expression → Reading (Pattern × Flags)
  | .empty _ => .ok (.empty, flags)
  | .flags _ changes => .ok (.empty, flags.change changes)
  | .literal l => do
    return (.one (← bothCases flags l.span (.single (← l.meaning flags))), flags)
  | .dot span =>
    if flags.unicode then .ok (.one (dotSet flags), flags) else fail .invalidUtf8 span
  | .assertion _ kind => .ok (.look (kind.meaning flags) flags.unicode, flags)
  | .set s => do return (.one (← s.meaning flags), flags)
  | .repetition _ least most inner => do
    let (p, flags) ← inner.meaning flags
    return (.repetition least most p, flags)
  | .group _ remembered changes inner => do
    let (p, _) ← inner.meaning (flags.change changes)
    return (if remembered then .group p else p, flags)
  | .concatenation _ parts => do
    let (ps, flags) ← Expression.partMeanings flags parts
    return (ps.foldr .append .empty, flags)
  | .alternation _ parts => do
    let (ps, flags) ← Expression.partMeanings flags parts
    return (match ps with
      | [] => .empty
      | p :: rest => rest.foldl .choice p, flags)

/-- The patterns of some expressions, each under the flags that hold behind the one before. -/
def Expression.partMeanings (flags : Flags) : List Expression → Reading (List Pattern × Flags)
  | [] => .ok ([], flags)
  | part :: rest => do
    let (p, flags) ← part.meaning flags
    let (ps, flags) ← Expression.partMeanings flags rest
    return (p :: ps, flags)

end

end BleBeacon.Pattern
