import BleBeacon.Text.Basic
import BleBeacon.Bytes

/-!
Compressed URLs of Eddystone frames. The scheme in front becomes one code. In the rest, fourteen
common endings of a host name become the codes 0 to 13, and all other bytes stand for themselves.
-/

namespace BleBeacon

inductive UrlScheme where
  | httpWww
  | httpsWww
  | http
  | https
  -- A code without a meaning, which stands for no text.
  | unknown (code : UInt8)
deriving DecidableEq, Repr

namespace UrlScheme

-- The schemes that have a code, in the order of their codes.
def known : List UrlScheme := [.httpWww, .httpsWww, .http, .https]

def text : UrlScheme → String
  | httpWww => "http://www."
  | httpsWww => "https://www."
  | http => "http://"
  | https => "https://"
  | unknown _ => ""

def code : UrlScheme → UInt8
  | httpWww => 0
  | httpsWww => 1
  | http => 2
  | https => 3
  | unknown code => code

def ofCode (code : UInt8) : UrlScheme :=
  (known.find? (·.code == code)).getD (.unknown code)

-- The first scheme whose text a URL starts with.
def detect? (url : String) : Option UrlScheme :=
  known.find? fun scheme => scheme.text.toList.isPrefixOf url.toList

end UrlScheme

namespace Url

-- The endings that have a code, in the order of their codes.
def endings : List String :=
  [".com/", ".org/", ".edu/", ".net/", ".info/", ".biz/", ".gov/",
    ".com", ".org", ".edu", ".net", ".info", ".biz", ".gov"]

-- The most bytes of a compressed URL, its scheme aside, that a frame holds.
def maxLength : Nat := 17

/-- The first ending, with a code from `code` on, that the bytes start with, and what follows it. -/
def endingFrom? (code : Nat) (bytes : Bytes) : List String → Option (UInt8 × Bytes)
  | [] => none
  | ending :: more =>
    match Bytes.after? (utf8Bytes ending.toList) bytes with
    | some rest => some (UInt8.ofNat code, rest)
    | none => endingFrom? (code + 1) bytes more

/-- The ending with the lowest code that the bytes start with, and what follows it. -/
def ending? (bytes : Bytes) : Option (UInt8 × Bytes) := endingFrom? 0 bytes endings

theorem length_lt_of_endingFrom? {code : Nat} {bytes rest : Bytes} {list : List String} {b : UInt8}
    (nonempty : ∀ e ∈ list, 0 < (utf8Bytes e.toList).length)
    (h : endingFrom? code bytes list = some (b, rest)) : rest.length < bytes.length := by
  induction list generalizing code with
  | nil => cases h
  | cons e more ih =>
    unfold endingFrom? at h
    split at h
    · rename_i hp
      cases h
      have := nonempty e (by simp)
      rw [Bytes.eq_append_of_after? hp, List.length_append]
      omega
    · exact ih (fun e he => nonempty e (by simp [he])) h

theorem endings_nonempty : ∀ e ∈ endings, 0 < (utf8Bytes e.toList).length := by
  decide

theorem length_lt_of_ending? {bytes rest : Bytes} {b : UInt8}
    (h : ending? bytes = some (b, rest)) : rest.length < bytes.length :=
  length_lt_of_endingFrom? endings_nonempty h

/-- From left to right, the code of the ending that starts here, else the byte itself. -/
def compress (bytes : Bytes) : Bytes :=
  match bytes with
  | [] => []
  | b :: rest =>
    match _h : ending? (b :: rest) with
    | some (code, rest') => code :: compress rest'
    | none => b :: compress rest
termination_by bytes.length
decreasing_by
  · exact length_lt_of_ending? _h
  · simp

def encode (body : String) : Bytes := compress (utf8Bytes body.toList)

-- The characters that one byte of a compressed URL stands for.
def expandByte (b : UInt8) : List Char :=
  match endings[b.toNat]? with
  | some ending => ending.toList
  | none => [Char.ofNat b.toNat]

def expand (bytes : Bytes) : List Char := bytes.flatMap expandByte

def decode (bytes : Bytes) : String := String.ofList (expand bytes)

end Url

end BleBeacon
