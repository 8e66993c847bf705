/-
White space as the Unicode property White_Space has it: twenty-five characters.
A line is blank when it holds nothing else.
-/
namespace ExampleProbes.Text

def isSpace (c : Char) : Bool :=
  let n := c.toNat
  (0x9 ≤ n && n ≤ 0xD) || n == 0x20 || n == 0x85 || n == 0xA0 || n == 0x1680 ||
    (0x2000 ≤ n && n ≤ 0x200A) || n == 0x2028 || n == 0x2029 || n == 0x202F ||
    n == 0x205F || n == 0x3000

def isBlank (line : List Char) : Bool := line.all isSpace

end ExampleProbes.Text
