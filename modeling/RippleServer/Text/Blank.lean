/-
This file holds white space and letter case as the server sees them. White
space is the standard's property of that name, which has more members than the
ASCII blanks and does not contain the zero-width characters. Letter case only
ever concerns the ASCII letters.
-/

namespace RippleServer.Text

/-! ### White space -/

/-- The characters with the White_Space property. -/
def isBlank (char : Char) : Bool :=
  let code := char.toNat
  (0x9 ≤ code && code ≤ 0xD) || code = 0x20 || code = 0x85 || code = 0xA0 || code = 0x1680 ||
    (0x2000 ≤ code && code ≤ 0x200A) || code = 0x2028 || code = 0x2029 || code = 0x202F ||
    code = 0x205F || code = 0x3000

/-- The characters between the first and the last one that is not blank. -/
def trimChars (chars : List Char) : List Char :=
  ((chars.dropWhile isBlank).reverse.dropWhile isBlank).reverse

/-- The text without the white space at its two ends. -/
def trim (text : String) : String :=
  String.ofList (trimChars text.toList)

/-! ### Letter case -/

/-- The text with its ASCII capitals replaced by small letters. -/
def lower (text : String) : String :=
  String.ofList (text.toList.map Char.toLower)

/-- Whether two texts differ at most in the case of ASCII letters. -/
def sameIgnoringCase (left right : String) : Bool :=
  lower left == lower right

/-! ### Pieces of a text -/

/-- The parts of a list between the places where the separator stands. There is always one part
more than there are separators. -/
def splitChars (separator : Char) : List Char → List (List Char)
  | [] => [[]]
  | char :: rest =>
    if char = separator then [] :: splitChars separator rest
    else
      match splitChars separator rest with
      | [] => [[char]]
      | part :: parts => (char :: part) :: parts

/-- The parts of a text between the places where the separator stands. -/
def split (separator : Char) (text : String) : List String :=
  (splitChars separator text.toList).map String.ofList

/-- The parts of a text, with the separator between them. -/
def join (separator : String) (parts : List String) : String :=
  String.ofList (separator.toList.intercalate (parts.map String.toList))

/-- The text before the first separator and the text behind it. -/
def cut? (separator : Char) (text : String) : Option (String × String) :=
  match text.toList.span (· ≠ separator) with
  | (_, []) => none
  | (front, _ :: back) => some (String.ofList front, String.ofList back)

/-- The first line of a text, without what ends it: a line feed, and a carriage return in front of
that. -/
def firstLine (text : String) : String :=
  match text.toList.span (· ≠ '\n') with
  | (line, []) => String.ofList line
  | (line, _ :: _) =>
    String.ofList (if line.getLast? = some '\r' then line.dropLast else line)

end RippleServer.Text
