/-
Percent encoding of one path segment for a `file` address: every byte outside printable
ASCII, and those ASCII characters that would end or reshape a segment, become `%XX`.
-/
namespace ExampleProbes.Text

def hexDigits : List Char := "0123456789ABCDEF".toList

def hexDigit (n : Nat) : Char := hexDigits.getD n '0'

/-- The characters that may not stand in a segment as they are. -/
def reservedInSegment : List Char :=
  [' ', '\x22', '#', '<', '>', '?', '\x60', '\x7b', '\x7d', '/', '%', '\\']

def staysInSegment (b : UInt8) : Bool :=
  0x20 ≤ b && b < 0x7F && !reservedInSegment.contains (Char.ofNat b.toNat)

def encodeByte (b : UInt8) : List Char :=
  if staysInSegment b then [Char.ofNat b.toNat]
  else ['%', hexDigit (b.toNat / 16), hexDigit (b.toNat % 16)]

def encodeSegment (segment : String) : String :=
  String.ofList (segment.toUTF8.data.toList.flatMap encodeByte)

end ExampleProbes.Text
