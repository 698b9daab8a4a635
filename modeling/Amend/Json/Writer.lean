/-
# Amend.Json.Writer — the compact text of a JSON document

No blanks are written.  Inside a text the quote, the backslash and the controls
are escaped, the usual five by a letter and the others by four lower-case
hexadecimal digits; every other character stands for itself.

A real number is written with its shortest digits: positionally, with at least
one digit on each side of the point, when it is at least `1e-5` and below
`1e16`, and otherwise with one digit in front of the point and a signed exponent.
-/
import Amend.Json
import Amend.Number.Shortest
import Amend.Text.Bytes

set_option autoImplicit false

namespace Amend.Json

open Text (hexChar)

def escapedChar (c : Char) : List Char :=
  match c with
  | '"' => ['\\', '"']
  | '\\' => ['\\', '\\']
  | '\x08' => ['\\', 'b']
  | '\x0c' => ['\\', 'f']
  | '\n' => ['\\', 'n']
  | '\r' => ['\\', 'r']
  | '\t' => ['\\', 't']
  | c =>
    if c.toNat < 0x20 then ['\\', 'u', '0', '0', hexChar (c.toNat / 16), hexChar (c.toNat % 16)]
    else [c]

def quotedText (s : String) : String :=
  String.ofList (['"'] ++ s.toList.flatMap escapedChar ++ ['"'])

/-- The digits of a decimal and the place of its point, counted from the front. -/
def positional (digits : List Char) (point : Int) : List Char :=
  if point ≤ 0 then ['0', '.'] ++ List.replicate (-point).toNat '0' ++ digits
  else if digits.length ≤ point.toNat then
    digits ++ List.replicate (point.toNat - digits.length) '0' ++ ['.', '0']
  else digits.take point.toNat ++ ['.'] ++ digits.drop point.toNat

/-- One digit, the others behind a point, and the exponent. -/
def scientific (digits : List Char) (exponent : Int) : List Char :=
  let fraction := if digits.length ≤ 1 then [] else '.' :: digits.drop 1
  let sign := if exponent < 0 then '-' else '+'
  digits.take 1 ++ fraction ++ ['e', sign] ++ Nat.toDigits 10 exponent.natAbs

def realText (x : Binary64) : String :=
  let sign := if x.isNegative then ['-'] else []
  if x.magnitude = 0 then String.ofList (sign ++ ['0', '.', '0'])
  else
    let (n, exponent) := x.shortest
    let digits := Nat.toDigits 10 n
    let point := exponent + digits.length
    let body := if -5 < point && point ≤ 16 then positional digits point
      else scientific digits (point - 1)
    String.ofList (sign ++ body)

/-- A number; one that is not finite has no JSON form and is written `null`. -/
def numberText : Number → String
  | .whole n => toString n
  | .real x => if x.isFinite then realText x else "null"

mutual

def compact : Json → String
  | .null => "null"
  | .bool b => if b then "true" else "false"
  | .number n => numberText n
  | .text s => quotedText s
  | .array items => "[" ++ compactItems items ++ "]"
  | .object members => "\x7b" ++ compactMembers members ++ "\x7d"

def compactItems : List Json → String
  | [] => ""
  | [x] => compact x
  | x :: y :: rest => compact x ++ "," ++ compactItems (y :: rest)

def compactMembers : List (String × Json) → String
  | [] => ""
  | [(k, x)] => quotedText k ++ ":" ++ compact x
  | (k, x) :: y :: rest => quotedText k ++ ":" ++ compact x ++ "," ++ compactMembers (y :: rest)

end

end Amend.Json
