/-
The attribute-only element of an annotation: an angle bracket, a name, attributes with
white space before each, and a closing bracket that a slash may precede. White space is
space, tab, carriage return and line feed here. Attribute values stand in either kind of
quote and hold neither that quote nor an opening angle bracket; references in them are
left as written.
-/
namespace ExampleProbes

structure Element where
  name : List Char
  attributes : List (List Char × List Char)
  deriving DecidableEq, Repr

namespace Element

def isGap (c : Char) : Bool := c == ' ' || c == '\t' || c == '\r' || c == '\n'

def isWordChar (c : Char) : Bool := c.isAlphanum || c == '_'

def startsName (c : Char) : Bool := c.isAlpha || c == ':' || c == '_' || c == '$'

def continuesName (c : Char) : Bool :=
  c.isAlphanum || c == '_' || c == '$' || c == ':' || c == '.' || c == '-'

def inValue (quote c : Char) : Bool := c != quote && c != '<'

def skipGap (text : List Char) : List Char := text.dropWhile isGap

/-- A quoted value and what follows its closing quote. -/
def value? : List Char → Option (List Char × List Char)
  | [] => none
  | quote :: rest =>
    if quote = '\x22' ∨ quote = '\x27' then
      match rest.dropWhile (inValue quote) with
      | c :: after => if c = quote then some (rest.takeWhile (inValue quote), after) else none
      | [] => none
    else none

def attribute? : List Char → Option ((List Char × List Char) × List Char)
  | [] => none
  | c :: rest =>
    if startsName c then
      match skipGap (rest.dropWhile continuesName) with
      | '=' :: afterSign =>
        (value? (skipGap afterSign)).map fun (value, after) =>
          ((c :: rest.takeWhile continuesName, value), after)
      | _ => none
    else none

/-- As many attributes as stand in a row, each after white space, and what follows them. -/
def attributesWithin : Nat → List Char → List (List Char × List Char) × List Char
  | 0, text => ([], text)
  | fuel + 1, text =>
    match text with
    | [] => ([], [])
    | c :: rest =>
      if isGap c then
        match attribute? (skipGap rest) with
        | none => ([], text)
        | some (found, after) =>
          let (more, last) := attributesWithin fuel after
          (found :: more, last)
      else ([], text)

def attributeRun (text : List Char) : List (List Char × List Char) × List Char :=
  attributesWithin text.length text

def close? (text : List Char) : Option (List Char) :=
  match skipGap text with
  | '/' :: '>' :: after => some after
  | '>' :: after => some after
  | _ => none

/-- The element that `text` starts with, and what follows it. -/
def read? : List Char → Option (Element × List Char)
  | '<' :: rest =>
    if (rest.takeWhile isWordChar).isEmpty then none
    else
      let (found, last) := attributeRun (rest.dropWhile isWordChar)
      (close? last).map fun after => (⟨rest.takeWhile isWordChar, found⟩, after)
  | _ => none

end Element
end ExampleProbes
