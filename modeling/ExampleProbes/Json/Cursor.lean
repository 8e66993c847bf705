/-
Reading JSON byte by byte. A fault names a place: the line, from 1, and the number of bytes
before it on that line. Readers look one byte ahead. A text is addressed by what has been
read of it; a stream by what has been taken from it, the byte looked at included.
-/
namespace ExampleProbes.Json

structure Place where
  line : Nat := 1
  column : Nat := 0
  deriving DecidableEq, Repr

def Place.past (place : Place) (b : UInt8) : Place :=
  if b = 10 then ⟨place.line + 1, 0⟩ else ⟨place.line, place.column + 1⟩

def Place.back (place : Place) (n : Nat) : Place := { place with column := place.column - n }

inductive Source where
  | text
  | stream
  deriving DecidableEq, Repr

/-- `rest` is unread; `read` is the end of what was read, `seen` of what was looked at. -/
structure Cursor where
  rest : List UInt8
  read : Place
  seen : Place
  deriving DecidableEq, Repr

namespace Cursor

def start (bytes : List UInt8) : Cursor := ⟨bytes, {}, {}⟩

def place (source : Source) (c : Cursor) : Place :=
  match source with
  | .text => c.read
  | .stream => c.seen

def of (rest : List UInt8) (place : Place) : Cursor := ⟨rest, place, place⟩

def peek (c : Cursor) : Cursor :=
  match c.rest with
  | [] => { c with seen := c.read }
  | b :: _ => { c with seen := c.read.past b }

def skip (c : Cursor) : Cursor :=
  match c.rest with
  | [] => c
  | b :: rest => of rest (c.read.past b)

end Cursor

/-- What the reader found in place of what it wanted. -/
inductive Found where
  | null
  | bool (b : Bool)
  | int (n : Int)
  | float (text : String)
  | string (quoted : String)
  | array
  | object
  deriving DecidableEq, Repr

inductive Cause where
  | endOfValue
  | endOfString
  | endOfArray
  | endOfObject
  | value
  | word
  | colon
  | commaOrBracket
  | commaOrBrace
  | keyNotString
  | trailingComma
  | trailingText
  | number
  | numberRange
  | escape
  | hexEnd
  | loneSurrogate
  | controlCharacter
  | codePoint
  | depth
  | wrongType (found : Found) (expected : String)
  | wrongValue (found : Found) (expected : String)
  | duplicateField (name : String)
  deriving DecidableEq, Repr

structure ReadError where
  cause : Cause
  place : Place
  deriving DecidableEq, Repr

def Found.text : Found → String
  | .null => "null"
  | .bool b => "boolean `" ++ (if b then "true" else "false") ++ "`"
  | .int n => "integer `" ++ toString n ++ "`"
  | .float text => "floating point `" ++ text ++ "`"
  | .string quoted => "string " ++ quoted
  | .array => "sequence"
  | .object => "map"

def Cause.text : Cause → String
  | .endOfValue => "EOF while parsing a value"
  | .endOfString => "EOF while parsing a string"
  | .endOfArray => "EOF while parsing a list"
  | .endOfObject => "EOF while parsing an object"
  | .value => "expected value"
  | .word => "expected ident"
  | .colon => "expected `:`"
  | .commaOrBracket => "expected `,` or `]`"
  | .commaOrBrace => "expected `,` or `\x7d`"
  | .keyNotString => "key must be a string"
  | .trailingComma => "trailing comma"
  | .trailingText => "trailing characters"
  | .number => "invalid number"
  | .numberRange => "number out of range"
  | .escape => "invalid escape"
  | .hexEnd => "unexpected end of hex escape"
  | .loneSurrogate => "lone leading surrogate in hex escape"
  | .controlCharacter => "control character (\\u0000-\\u001F) found while parsing a string"
  | .codePoint => "invalid unicode code point"
  | .depth => "recursion limit exceeded"
  | .wrongType found expected => "invalid type: " ++ found.text ++ ", expected " ++ expected
  | .wrongValue found expected => "invalid value: " ++ found.text ++ ", expected " ++ expected
  | .duplicateField name => "duplicate field `" ++ name ++ "`"

def ReadError.message (e : ReadError) : String :=
  e.cause.text ++ " at line " ++ toString e.place.line ++ " column " ++ toString e.place.column

def isGap (b : UInt8) : Bool := b = 0x20 || b = 0x0A || b = 0x09 || b = 0x0D

def isDigit (b : UInt8) : Bool := 0x30 ≤ b && b ≤ 0x39

def digitValue (b : UInt8) : Nat := b.toNat - 0x30

def gapFrom : List UInt8 → Place → Cursor
  | [], place => .of [] place
  | b :: rest, place =>
    if isGap b then gapFrom rest (place.past b) else ⟨b :: rest, place, place.past b⟩

def Cursor.gap (c : Cursor) : Cursor := gapFrom c.rest c.read

/-- Reads the rest of a word whose first letter is read. -/
def wordFrom : (word : List UInt8) → List UInt8 → Place → Except ReadError Cursor
  | [], rest, place => .ok (.of rest place)
  | _ :: _, [], place => .error ⟨.endOfValue, place⟩
  | w :: word, b :: rest, place =>
    if b = w then wordFrom word rest (place.past b) else .error ⟨.word, place.past b⟩

def Cursor.word (c : Cursor) (word : String) : Except ReadError Cursor :=
  wordFrom word.toUTF8.data.toList c.rest c.read

end ExampleProbes.Json
