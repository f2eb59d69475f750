import EventSieve.Text.Age
import EventSieve.Text.Break
import EventSieve.Text.CaseFold
import EventSieve.Text.Category
import EventSieve.Text.Property
import EventSieve.Text.Script

/-!
# Classes of characters

The classes that a pattern can name: digits, blanks and words, the classes of ASCII, and the
properties of the character standard.

## Main definitions

* `Class.digits`, `Class.blanks`, `Class.words` — the classes with an escape of one letter
* `Class.ascii?` — the classes named between `[:` and `:]`
* `Class.property?`, `Class.propertyValue?` — the classes named by properties
-/
namespace EventSieve.Pattern.Class

open Text (CodeSet)

/-- Every character. Surrogates are no characters. -/
def everything : CodeSet :=
  [(0, 0xD7FF), (0xE000, 0x10FFFF)]

/-- The characters outside a set. -/
def others (codes : CodeSet) : CodeSet :=
  codes.compl.inter everything

/-- The decimal digits. -/
def digits : CodeSet :=
  Text.Category.codes ["Nd"]

/-- The white space. -/
def blanks : CodeSet :=
  (Text.Property.codes? "whitespace").getD []

/-- The characters of words: letters, marks, digits, connectors and joiners. -/
def words : CodeSet :=
  CodeSet.ofRanges <|
    (Text.Property.codes? "alphabetic").getD [] ++
    Text.Category.codes ["Mn", "Mc", "Me", "Nd", "Pc"] ++
    (Text.Property.codes? "joincontrol").getD []

/-! ## ASCII -/

/-- The classes of ASCII by name. -/
def asciiClasses : List (String × CodeSet) :=
  [("alnum", [(48, 57), (65, 90), (97, 122)]), ("alpha", [(65, 90), (97, 122)]),
   ("ascii", [(0, 127)]), ("blank", [(9, 9), (32, 32)]), ("cntrl", [(0, 31), (127, 127)]),
   ("digit", [(48, 57)]), ("graph", [(33, 126)]), ("lower", [(97, 122)]),
   ("print", [(32, 126)]), ("punct", [(33, 47), (58, 64), (91, 96), (123, 126)]),
   ("space", [(9, 13), (32, 32)]), ("upper", [(65, 90)]),
   ("word", [(48, 57), (65, 90), (95, 95), (97, 122)]),
   ("xdigit", [(48, 57), (65, 70), (97, 102)])]

/-- The class of ASCII with a name. -/
def ascii? (name : String) : Option CodeSet :=
  asciiClasses.lookup name

/-! ## Properties -/

/-- A name without case, blanks, hyphens, underscores and what is not ASCII, and without an
`is` at its start. -/
def foldName (name : String) : String :=
  let cs := name.toList
  let isMarked := (cs.take 2).map Char.toLower == ['i', 's']
  let kept := (if isMarked then cs.drop 2 else cs).filter fun c =>
    c != ' ' && c != '_' && c != '-' && c.toNat < 128
  let folded := String.ofList (kept.map Char.toLower)
  if isMarked && folded == "c" then "isc" else folded

/-- The categories with a folded name, and the sets that stand beside them. The category of
surrogates has no characters and no name. -/
def category? (name : String) : Option CodeSet :=
  if name = "any" then some everything
  else if name = "assigned" then some (others (Text.Category.codes ["Cn"]))
  else if name = "ascii" then some [(0, 127)]
  else if name = "cs" ∨ name = "surrogate" then none
  else (Text.Category.named? name).map Text.Category.codes

/-- The script with a folded name. -/
def script? (name : String) : Option CodeSet :=
  (Text.Script.named? name).map Text.Script.codes

/-- The class that a name alone stands for: a property, a category or a script. -/
def property? (name : String) : Option CodeSet :=
  let folded := foldName name
  Text.Property.codes? folded <|> category? folded <|> script? folded

/-- The class of a property and one of its values. -/
def propertyValue? (name value : String) : Option CodeSet :=
  let property := foldName name
  let folded := foldName value
  if property = "gc" ∨ property = "generalcategory" then category? folded
  else if property = "sc" ∨ property = "script" then script? folded
  else if property = "scx" ∨ property = "scriptextensions" then
    (Text.Script.named? folded).map Text.Script.extendedCodes
  else if property = "age" then Text.Age.codes? folded
  else if property = "gcb" ∨ property = "graphemeclusterbreak" then
    Text.Break.graphemes.codes? folded
  else if property = "wb" ∨ property = "wordbreak" then Text.Break.words.codes? folded
  else if property = "sb" ∨ property = "sentencebreak" then Text.Break.sentences.codes? folded
  else none

end EventSieve.Pattern.Class
