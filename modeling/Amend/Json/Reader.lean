/-
# Amend.Json.Reader — reading a JSON document

`read?` accepts one document with blanks around it.

A number with a point or an exponent, or too long for 64 bits, is read in two
steps: as many of its digits as fit into 64 bits give a natural number, the rest
only count, and that number is scaled by a power of ten.  Both steps round to
the nearest floating-point number.
-/
import Amend.Json
import Amend.Text.Bytes
import Amend.Text.Numeral

set_option autoImplicit false

namespace Amend.Json

open Text (hexValue? digitsValue? top64 half64)

/-- Take digits into `n` while it fits into 64 bits; the others are left. -/
def absorb (n : Nat) : List Char → Nat × List Char
  | [] => (n, [])
  | c :: rest =>
    match digitsValue? [c] with
    | some d => if n * 10 + d ≤ top64 then absorb (n * 10 + d) rest else (n, c :: rest)
    | none => (n, c :: rest)

/-- The product `x · 10 ^ k`, or `none` when that is out of range. -/
def raise? (x : Binary64) (k : Nat) : Option Binary64 :=
  if k ≤ 308 then
    let y := x.times (Binary64.ofNat (Nat.pow 10 k))
    if y.isFinite then some y else none
  else if x.magnitude = 0 then some x
  else none

/-- The quotient `x / 10 ^ k`, in steps of at most 308 places. -/
def lower (x : Binary64) (k : Nat) : Binary64 :=
  if k ≤ 308 then x.dividedBy (Binary64.ofNat (Nat.pow 10 k))
  else if x.magnitude = 0 then x
  else lower (x.dividedBy (Binary64.ofNat (Nat.pow 10 308))) (k - 308)
termination_by k

/-- The number `n · 10 ^ exponent` with a sign. -/
def real? (negative : Bool) (n : Nat) (exponent : Int) : Option Number :=
  let x := Binary64.ofNat n
  let y := if 0 ≤ exponent then raise? x exponent.toNat else some (lower x (-exponent).toNat)
  y.map fun y => .real (if negative then y.negated else y)

def number? (negative : Bool) (whole : List Char) (fraction : Option (List Char))
    (exponent : Option Int) : Option Number :=
  let (n, tooMany) := absorb 0 whole
  match fraction, exponent with
  | none, none =>
    if tooMany ≠ [] then real? negative n tooMany.length
    else if !negative then some (.whole n)
    else if n = 0 ∨ half64 < n then real? negative n 0
    else some (.whole (-n))
  | fraction, exponent =>
    let digits := fraction.getD []
    let (n, unread) := absorb n digits
    real? negative n (tooMany.length - (digits.length - unread.length : Nat) + exponent.getD 0)

def digits (s : List Char) : List Char × List Char :=
  (s.takeWhile Char.isDigit, s.dropWhile Char.isDigit)

/-- A point with digits behind it, if there is one. -/
def readFraction (s : List Char) : Option (Option (List Char) × List Char) :=
  match s with
  | '.' :: rest =>
    match digits rest with
    | ([], _) => none
    | (ds, rest) => some (some ds, rest)
  | _ => some (none, s)

def readSign : List Char → Bool × List Char
  | '-' :: rest => (true, rest)
  | '+' :: rest => (false, rest)
  | rest => (false, rest)

def readExponent (s : List Char) : Option (Option Int × List Char) :=
  let signed (rest : List Char) :=
    let (negative, rest) := readSign rest
    let (ds, rest) := digits rest
    (digitsValue? ds).map fun n => (some (if negative then -(n : Int) else n), rest)
  match s with
  | 'e' :: rest => signed rest
  | 'E' :: rest => signed rest
  | _ => some (none, s)

/-- A number at the front of `s`; a zero is not followed by further digits. -/
def readNumber (s : List Char) : Option (Json × List Char) := do
  let (negative, s) := match s with
    | '-' :: rest => (true, rest)
    | _ => (false, s)
  let (whole, s) := digits s
  if whole = [] ∨ (whole.head? = some '0' ∧ 1 < whole.length) then none
  let (fraction, s) ← readFraction s
  let (exponent, s) ← readExponent s
  let n ← number? negative whole fraction exponent
  some (.number n, s)

/-- Four hexadecimal digits at the front. -/
def readUnit : List Char → Option (Nat × List Char)
  | a :: b :: c :: d :: rest => do
    let a ← hexValue? a
    let b ← hexValue? b
    let c ← hexValue? c
    let d ← hexValue? d
    some (((a * 16 + b) * 16 + c) * 16 + d, rest)
  | _ => none

/-- The character after a backslash, which may be written as two UTF-16 units. -/
def readEscape : List Char → Option (Char × List Char)
  | '"' :: rest => some ('"', rest)
  | '\\' :: rest => some ('\\', rest)
  | '/' :: rest => some ('/', rest)
  | 'b' :: rest => some ('\x08', rest)
  | 'f' :: rest => some ('\x0c', rest)
  | 'n' :: rest => some ('\n', rest)
  | 'r' :: rest => some ('\r', rest)
  | 't' :: rest => some ('\t', rest)
  | 'u' :: rest => do
    let (high, rest) ← readUnit rest
    if 0xD800 ≤ high ∧ high < 0xDC00 then
      match rest with
      | '\\' :: 'u' :: rest => do
        let (low, rest) ← readUnit rest
        if 0xDC00 ≤ low ∧ low < 0xE000 then
          some (Char.ofNat (0x10000 + (high - 0xD800) * 0x400 + (low - 0xDC00)), rest)
        else none
      | _ => none
    else if 0xDC00 ≤ high ∧ high < 0xE000 then none
    else some (Char.ofNat high, rest)
  | _ => none

/-- The rest of a text after its opening quote; `read` holds what was read, last first. -/
def readText : Nat → List Char → List Char → Option (String × List Char)
  | 0, _, _ => none
  | _ + 1, _, [] => none
  | _ + 1, read, '"' :: rest => some (String.ofList read.reverse, rest)
  | fuel + 1, read, '\\' :: rest =>
    match readEscape rest with
    | some (c, rest) => readText fuel (c :: read) rest
    | none => none
  | fuel + 1, read, c :: rest => if c.toNat < 0x20 then none else readText fuel (c :: read) rest

def skipBlanks (s : List Char) : List Char :=
  s.dropWhile fun c => c == ' ' || c == '\t' || c == '\n' || c == '\r'

mutual

def readValue : Nat → List Char → Option (Json × List Char)
  | 0, _ => none
  | fuel + 1, s =>
    match skipBlanks s with
    | 'n' :: 'u' :: 'l' :: 'l' :: rest => some (.null, rest)
    | 't' :: 'r' :: 'u' :: 'e' :: rest => some (.bool true, rest)
    | 'f' :: 'a' :: 'l' :: 's' :: 'e' :: rest => some (.bool false, rest)
    | '"' :: rest => (readText (rest.length + 1) [] rest).map fun (s, rest) => (.text s, rest)
    | '[' :: rest =>
      match skipBlanks rest with
      | ']' :: rest => some (.array [], rest)
      | rest => (readItems fuel [] rest).map fun (items, rest) => (.array items, rest)
    | '\x7b' :: rest =>
      match skipBlanks rest with
      | '\x7d' :: rest => some (.object [], rest)
      | rest => (readMembers fuel [] rest).map fun (members, rest) => (ofMembers members, rest)
    | rest => readNumber rest

/-- The items of an array up to its closing bracket; `read` holds those read, last first. -/
def readItems : Nat → List Json → List Char → Option (List Json × List Char)
  | 0, _, _ => none
  | fuel + 1, read, s =>
    match readValue fuel s with
    | none => none
    | some (item, rest) =>
      match skipBlanks rest with
      | ',' :: rest => readItems fuel (item :: read) rest
      | ']' :: rest => some ((item :: read).reverse, rest)
      | _ => none

/-- The members of an object up to its closing brace; `read` holds those read, last first. -/
def readMembers : Nat → List (String × Json) → List Char →
    Option (List (String × Json) × List Char)
  | 0, _, _ => none
  | fuel + 1, read, s =>
    match skipBlanks s with
    | '"' :: rest =>
      match readText (rest.length + 1) [] rest with
      | none => none
      | some (key, rest) =>
        match skipBlanks rest with
        | ':' :: rest =>
          match readValue fuel rest with
          | none => none
          | some (value, rest) =>
            match skipBlanks rest with
            | ',' :: rest => readMembers fuel ((key, value) :: read) rest
            | '\x7d' :: rest => some (((key, value) :: read).reverse, rest)
            | _ => none
        | _ => none
    | _ => none

end

def read? (s : String) : Option Json :=
  match readValue (s.length + 1) s.toList with
  | some (value, rest) => if skipBlanks rest = [] then some value else none
  | none => none

end Amend.Json
