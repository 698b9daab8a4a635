/-
# Amend.Text.Bytes — bytes, and text written with them

`hex` writes bytes as pairs of lower-case hexadecimal digits and `ofHex?` reads
them back.  `decodeUtf8` is strict: it says where the first malformed sequence
begins and how many bytes it takes, or that the bytes end inside a sequence.
`percentDecoded` replaces a percent sign and two hexadecimal digits by a byte.
-/
set_option autoImplicit false

namespace Amend.Text

abbrev Bytes := List UInt8

def utf8 (s : String) : Bytes :=
  s.toUTF8.data.toList

/-- The `count` low bytes of `n`, the highest first. -/
def bigEndian : Nat → Nat → Bytes
  | 0, _ => []
  | count + 1, n => UInt8.ofNat (n / Nat.pow 256 count) :: bigEndian count n

/-! ## Hexadecimal -/

/-- The digit of value `n < 16`. -/
def hexChar (n : Nat) : Char :=
  Char.ofNat (if n < 10 then 0x30 + n else 0x57 + n)

/-- The value of a hexadecimal digit, in either case. -/
def hexValue? (c : Char) : Option Nat :=
  if c.isDigit then some (c.toNat - 0x30)
  else if 'a' ≤ c && c ≤ 'f' then some (c.toNat - 0x57)
  else if 'A' ≤ c && c ≤ 'F' then some (c.toNat - 0x37)
  else none

def hexByte (b : UInt8) : List Char :=
  [hexChar (b.toNat / 16), hexChar (b.toNat % 16)]

def hex (bytes : Bytes) : String :=
  String.ofList (bytes.flatMap hexByte)

/-- The bytes that pairs of digits write. -/
def ofHexChars? : List Char → Option Bytes
  | [] => some []
  | [_] => none
  | a :: b :: rest =>
    match hexValue? a, hexValue? b, ofHexChars? rest with
    | some high, some low, some bytes => some (UInt8.ofNat (high * 16 + low) :: bytes)
    | _, _, _ => none

def ofHex? (s : String) : Option Bytes :=
  ofHexChars? s.toList

/-- The natural number that hexadecimal digits write. -/
def hexNat? (s : List Char) : Option Nat :=
  s.foldlM (fun n c => (hexValue? c).map (n * 16 + ·)) 0

/-! ## UTF-8 -/

/-- Why bytes are no text. -/
inductive Utf8Fault where
  /-- A malformed sequence of this many bytes. -/
  | malformed (index length : Nat)
  /-- The bytes end inside a sequence. -/
  | incomplete (index : Nat)
  deriving DecidableEq, Repr

def Utf8Fault.message : Utf8Fault → String
  | .malformed index length =>
    s!"invalid utf-8 sequence of {length} bytes from index {index}"
  | .incomplete index => s!"incomplete utf-8 byte sequence from index {index}"

def isContinuation (b : UInt8) : Bool := 0x80 ≤ b && b < 0xC0

/-- Whether `second` may follow `lead`, the first byte of a sequence of three or four. -/
def admits (lead second : UInt8) : Bool :=
  isContinuation second &&
    (if lead = 0xE0 then 0xA0 ≤ second
      else if lead = 0xED then second < 0xA0
      else if lead = 0xF0 then 0x90 ≤ second
      else if lead = 0xF4 then second < 0x90
      else true)

/-- The payload of a continuation byte. -/
def payload (b : UInt8) : Nat := b.toNat % 64

/-- Decode from the byte at `index` on. -/
def decodeFrom (index : Nat) : Bytes → Except Utf8Fault (List Char)
  | [] => .ok []
  | a :: rest =>
    if a < 0x80 then (decodeFrom (index + 1) rest).map (Char.ofNat a.toNat :: ·)
    else if a < 0xC2 ∨ 0xF5 ≤ a then .error (.malformed index 1)
    else if a < 0xE0 then
      match rest with
      | [] => .error (.incomplete index)
      | b :: rest =>
        if !isContinuation b then .error (.malformed index 1)
        else
          (decodeFrom (index + 2) rest).map
            (Char.ofNat ((a.toNat - 0xC0) * 64 + payload b) :: ·)
    else if a < 0xF0 then
      match rest with
      | [] => .error (.incomplete index)
      | b :: rest =>
        if !admits a b then .error (.malformed index 1)
        else
          match rest with
          | [] => .error (.incomplete index)
          | c :: rest =>
            if !isContinuation c then .error (.malformed index 2)
            else
              (decodeFrom (index + 3) rest).map
                (Char.ofNat ((a.toNat - 0xE0) * 4096 + payload b * 64 + payload c) :: ·)
    else
      match rest with
      | [] => .error (.incomplete index)
      | b :: rest =>
        if !admits a b then .error (.malformed index 1)
        else
          match rest with
          | [] => .error (.incomplete index)
          | c :: rest =>
            if !isContinuation c then .error (.malformed index 2)
            else
              match rest with
              | [] => .error (.incomplete index)
              | d :: rest =>
                if !isContinuation d then .error (.malformed index 3)
                else
                  (decodeFrom (index + 4) rest).map
                    (Char.ofNat ((a.toNat - 0xF0) * 262144 + payload b * 4096 + payload c * 64
                      + payload d) :: ·)

def decodeUtf8 (bytes : Bytes) : Except Utf8Fault String :=
  (decodeFrom 0 bytes).map String.ofList

/-! ## Percent signs -/

/-- Replace each percent sign and two hexadecimal digits by a byte; any other percent sign stays. -/
def percentDecoded : Bytes → Bytes
  | a :: b :: c :: rest =>
    match a == 0x25, hexValue? (Char.ofNat b.toNat), hexValue? (Char.ofNat c.toNat) with
    | true, some high, some low => UInt8.ofNat (high * 16 + low) :: percentDecoded rest
    | _, _, _ => a :: percentDecoded (b :: c :: rest)
  | short => short

end Amend.Text
