import Mathlib

/-! Regular expressions over character tests, and where in a text they match. -/

namespace Pattern

/-- A regular expression. -/
inductive Regex where
  /-- A run of characters that pass a test, with its least and its greatest length. -/
  | run (test : Char → Bool) (least : ℕ) (most : Option ℕ)
  /-- A place between a word character and one that is none. -/
  | edge (word : Char → Bool)
  /-- One expression behind another. -/
  | seq (first second : Regex)
  /-- One expression or another. -/
  | alt (first second : Regex)

/-- A place in a text: the character before it, and all characters behind it. -/
abbrev Place : Type := Option Char × List Char

/-- One character that passes a test. -/
def one (test : Char → Bool) : Regex := .run test 1 (some 1)

/-- A fixed text. -/
def literal : List Char → Regex
  | [] => .run (fun _ => false) 0 none
  | first :: rest => .seq (one (· == first)) (literal rest)

/-- The places a run of characters can end at, each with the length of the run. -/
def runEnds (test : Char → Bool) : Option Char → List Char → List (ℕ × Place)
  | before, [] => [(0, before, [])]
  | before, first :: rest => (0, before, first :: rest) ::
    if test first then (runEnds test (some first) rest).map fun stop => (stop.1 + 1, stop.2) else []

/-- The places a match that starts at one place can end at. -/
def ends : Regex → Place → List Place
  | .run test least most, place =>
    ((runEnds test place.1 place.2).filter fun stop =>
      least ≤ stop.1 && most.all (stop.1 ≤ ·)).map (·.2)
  | .edge word, place =>
    -- Nothing before a text and nothing behind it is no word character.
    if (place.1.map word).getD false ≠ (place.2.head?.map word).getD false then [place] else []
  | .seq first second, place => (ends first place).flatMap (ends second)
  | .alt first second, place => ends first place ++ ends second place

/-- Whether an expression matches anywhere from one place on. -/
def searchFrom (pattern : Regex) : Option Char → List Char → Bool
  | before, [] => !(ends pattern (before, [])).isEmpty
  | before, first :: rest =>
    !(ends pattern (before, first :: rest)).isEmpty || searchFrom pattern (some first) rest

/-- Whether an expression matches anywhere in a text. -/
def search (pattern : Regex) (text : String) : Bool := searchFrom pattern none text.toList

/-- Whether an expression matches a whole text. -/
def fullmatch (pattern : Regex) (text : String) : Bool :=
  (ends pattern (none, text.toList)).any (·.2.isEmpty)

end Pattern
