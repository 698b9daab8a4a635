/-
# Amend.Wire — values as a server receives them

Each value is sent in the server's binary format for the type that the statement
gives its parameter: numbers with the highest byte first, days and microseconds
since 2000, text in UTF-8.  A value has a few types that it can be sent as;
`NULL` can be sent as any.
-/
import Amend.Json.Writer
import Amend.Value

set_option autoImplicit false

namespace Amend

open Text (Bytes)

/-- The type of a statement's parameter. -/
inductive WireType where
  | bool | int2 | int4 | int8 | float4 | float8
  | text | varchar | bpchar | name | unknown | bytea
  | date | timestamp | timestamptz | uuid | json | jsonb
  | numeric | oid | time | int4Array | xml | char
  /-- A type that is not built into the server. -/
  | extension (name : String)
  deriving DecidableEq, Repr

namespace WireType

/-- The built-in types by their names. -/
def builtin : List (String × WireType) :=
  [ ("bool", .bool), ("int2", .int2), ("int4", .int4), ("int8", .int8), ("float4", .float4),
    ("float8", .float8), ("text", .text), ("varchar", .varchar), ("bpchar", .bpchar),
    ("name", .name), ("unknown", .unknown), ("bytea", .bytea), ("date", .date),
    ("timestamp", .timestamp), ("timestamptz", .timestamptz), ("uuid", .uuid), ("json", .json),
    ("jsonb", .jsonb), ("numeric", .numeric), ("oid", .oid), ("time", .time),
    ("_int4", .int4Array), ("xml", .xml), ("char", .char) ]

/-- The type of a name; a name that is not built in is an extension's. -/
def ofName (name : String) : WireType :=
  (builtin.lookup name).getD (.extension name)

/-- Whether a type is built into the server. -/
def isBuiltin : WireType → Bool
  | .extension _ => false
  | _ => true

/-- The name of a type; an extension's is qualified by its schema. -/
def label : WireType → String
  | .extension own => "app." ++ own
  | type => ((builtin.find? fun entry => entry.2 == type).map (·.1)).getD ""

/-- How text is sent as a type, if it can be: three kinds of paths start with a version byte. -/
def textLead? : WireType → Option Bytes
  | .text | .varchar | .bpchar | .name | .unknown => some []
  | .extension "citext" => some []
  | .extension "ltree" | .extension "lquery" | .extension "ltxtquery" => some [1]
  | _ => none

/-- How a document is sent as a type, if it can be. -/
def jsonLead? : WireType → Option Bytes
  | .json => some []
  | .jsonb => some [1]
  | _ => none

end WireType

/-- A value that cannot be sent as a type. -/
structure WireMismatch where
  /-- The sender's name for the kind of value. -/
  kind : String
  type : WireType
  deriving DecidableEq, Repr

def WireMismatch.message (m : WireMismatch) : String :=
  "cannot convert between the Rust type `" ++ m.kind ++ "` and the Postgres type `"
    ++ m.type.label ++ "`"

namespace Value

/-- The sender's name for the kind of a value, which only a mismatch shows. -/
def kind : Value → String
  | .null => "NULL"
  | .bool _ => "bool"
  | .int16 _ => "i16"
  | .int32 _ => "i32"
  | .int64 _ => "i64"
  | .float32 _ => "f32"
  | .float64 _ => "f64"
  | .text _ => "alloc::string::String"
  | .bytes _ => "alloc::vec::Vec<u8>"
  | .date _ => "chrono::naive::date::NaiveDate"
  | .timestamp _ => "chrono::naive::datetime::NaiveDateTime"
  | .instant _ => "chrono::datetime::DateTime<chrono::offset::utc::Utc>"
  | .uuid _ => "uuid::Uuid"
  | .json _ => "serde_json::value::Value"

/-- A whole number in two's complement. -/
def signedBytes (count : Nat) (n : Int) : Bytes :=
  Text.bigEndian count (n % (Nat.pow 256 count : Nat)).toNat

/-- The bytes of a value sent as a type, or `none` when it cannot be. -/
def bytesAs? : Value → WireType → Option Bytes
  | .bool b, .bool => some [if b then 1 else 0]
  | .int16 n, .int2 => some (signedBytes 2 n.toInt)
  | .int32 n, .int4 => some (signedBytes 4 n.toInt)
  | .int64 n, .int8 => some (signedBytes 8 n.toInt)
  | .float32 x, .float4 => some (Text.bigEndian 4 x.bits.toNat)
  | .float64 x, .float8 => some (Text.bigEndian 8 x.bits.toNat)
  | .text s, type => type.textLead?.map (· ++ Text.utf8 s)
  | .bytes b, .bytea => some b
  | .date d, .date => some (signedBytes 4 d.daysSinceEpoch)
  | .timestamp t, .timestamp => some (signedBytes 8 t.microsSinceEpoch)
  | .instant t, .timestamptz => some (signedBytes 8 t.microsSinceEpoch)
  | .uuid u, .uuid => some u.bytes
  | .json j, type => type.jsonLead?.map (· ++ Text.utf8 j.compact)
  | _, _ => none

/-- A value as a parameter of a type: bytes, nothing for `NULL`, or a mismatch. -/
def bind (v : Value) (type : WireType) : Except WireMismatch (Option Bytes) :=
  if v.isNull then .ok none
  else
    match v.bytesAs? type with
    | some sent => .ok (some sent)
    | none => .error ⟨v.kind, type⟩

end Value

end Amend
