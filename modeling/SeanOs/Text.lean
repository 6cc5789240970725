import SeanOs.Lib.JsonText
import SeanOs.Platform

/-! Text operations of the language on texts of any characters. -/

namespace SeanOs

/-- Whether a character is whitespace to the language. -/
def isSpace (character : Char) : Bool :=
  character.val ∈ [0x09, 0x0A, 0x0B, 0x0C, 0x0D, 0x1C, 0x1D, 0x1E, 0x1F, 0x20, 0x85, 0xA0, 0x1680,
    0x2000, 0x2001, 0x2002, 0x2003, 0x2004, 0x2005, 0x2006, 0x2007, 0x2008, 0x2009, 0x200A, 0x2028,
    0x2029, 0x202F, 0x205F, 0x3000]

/-- Whether a character is part of a word in a pattern. -/
def isWord [Platform] (character : Char) : Bool :=
  character.isAlphanum || character == '_' || (128 ≤ character.val && Platform.alnum character)

/-- A text without the whitespace at its ends. -/
def strip (text : String) : String :=
  String.ofList ((text.toList.dropWhile isSpace).reverse.dropWhile isSpace).reverse

-- Proofs about programs never evaluate it, only what is done with its text.
attribute [irreducible] strip

/-- A text in lower case. -/
def lower [Platform] (text : String) : String :=
  String.ofList (text.toList.flatMap fun character =>
    if character.val < 128 then [character.toLower] else (Platform.lower character).toList)

/-- A text in upper case. -/
def upper [Platform] (text : String) : String :=
  String.ofList (text.toList.flatMap fun character =>
    if character.val < 128 then [character.toUpper] else (Platform.upper character).toList)

/-- A text with every occurrence of one character replaced. -/
def replace (old new : Char) (text : String) : String :=
  String.ofList (text.toList.map fun character => if character == old then new else character)

/-- A text with its decimal digits of all scripts as ASCII digits. -/
def asciiDigits [Platform] (text : String) : String :=
  String.ofList (text.toList.map fun character =>
    if character.val < 128 then character
    else ((Platform.decimal character).map Nat.digitChar).getD character)

/-- The words of a text, cut at its whitespace. -/
def words : List Char → List (List Char)
  | [] => []
  | first :: rest =>
    if isSpace first then words rest
    else match rest, words rest with
      -- A word goes on where the next character belongs to one.
      | next :: _, word :: more =>
        if isSpace next then [first] :: word :: more else (first :: word) :: more
      | _, more => [first] :: more

/-- A text with its words one blank apart. -/
def joined (text : String) : String :=
  String.ofList ((words text.toList).intersperse [' ']).flatten

/-- A character of a displayed text between two marks, escaped unless it is printable. -/
def displayedChar [Platform] (mark character : Char) : List Char :=
  let code := character.toNat
  let escaped (letter : Char) (digits : ℕ) : List Char :=
    '\\' :: letter :: (List.range digits).reverse.map fun place =>
      Nat.digitChar (code / 16 ^ place % 16)
  if character = mark ∨ character = '\\' then ['\\', character]
  else if code = 0x09 then ['\\', 't']
  else if code = 0x0A then ['\\', 'n']
  else if code = 0x0D then ['\\', 'r']
  else if code < 0x20 ∨ code = 0x7F then escaped 'x' 2
  else if code < 0x7F ∨ Platform.printable character then [character]
  else if code < 0x100 then escaped 'x' 2
  else if code < 0x10000 then escaped 'u' 4
  else escaped 'U' 8

/-- A list of texts as the language displays it. -/
def displayed [Platform] (texts : List String) : String :=
  let one (text : String) : List Char :=
    let single := Char.ofNat 0x27
    -- Double quotes are taken where only single ones are inside.
    let mark := if single ∈ text.toList ∧ Json.quote ∉ text.toList then Json.quote else single
    mark :: (text.toList.flatMap (displayedChar mark) ++ [mark])
  String.ofList ('[' :: ((texts.map one).intersperse [',', ' ']).flatten ++ [']'])

end SeanOs
