import EventSieve.Pattern.Class
import EventSieve.Pattern.Reader

/-!
# Escapes in patterns

A backslash and what follows it stand for a character, a class of characters, or a condition on
the place where they are.

## Main definitions

* `Reader.Atom` — what an escape stands for
* `Reader.escape` — the escape at the start of a pattern
-/
namespace EventSieve.Pattern

open Text (CodeSet)

namespace Reader

/-- What an escape stands for. -/
inductive Atom where
  /-- A character; `byte` if it is written with two hexadecimal digits. -/
  | char (c : Char) (byte : Bool)
  | set (codes : CodeSet)
  | look (look : Look)

/-- Whether a character has a meaning of its own somewhere in a pattern. -/
def isSpecial (c : Char) : Bool :=
  ['\\', '.', '+', '*', '?', '(', ')', '|', '[', ']', '\x7b', '\x7d', '^', '$', '#', '&', '-',
    '~'].contains c

/-- Whether a character stands for itself after a backslash. -/
def isEscapable (c : Char) : Bool :=
  isSpecial c || (c.toNat < 128 && !c.isAlphanum && c != '<' && c != '>')

/-- The character with a hexadecimal code. -/
def hexChar? (digits : List Char) : Option Char := do
  let code ← Number.readRadix? 16 digits
  if h : code.isValidChar then some (Char.ofNatAux code h) else none

/-- Exactly `count` hexadecimal digits, with nothing of meaning between them. -/
def hexDigits : Nat → Reader (List Char)
  | 0 => return []
  | count + 1 => do
    let c ← next
    require (Number.digitValue? c).isSome
    advance
    return c :: (← hexDigits count)

/-- The character after `\x`, `\u` or `\U`: so many hexadecimal digits, or any number of them
in braces. -/
def hexEscape (count : Nat) : Reader Atom := do
  advance
  if (← next) = '\x7b' then
    advance
    let digits ← takeAll (· ≠ '\x7d')
    discard next
    advance
    return .char (← (hexChar? digits : Option Char)) false
  else
    let digits ← hexDigits count
    return .char (← (hexChar? digits : Option Char)) (count == 2)

/-- A set closed under case and complemented, as the flags and `negated` say. -/
def foldAndNegate (flags : Flags) (negated : Bool) (codes : CodeSet) : CodeSet :=
  let folded :=
    if !flags.ignoreCase then codes
    else if flags.unicode then Text.CaseFold.close codes
    else Text.CaseFold.closeAscii codes
  if negated then Class.others folded else folded

/-- A set is refused where characters count as bytes and it holds more than ASCII. -/
def checked (flags : Flags) (codes : CodeSet) : Reader CodeSet := do
  require (flags.unicode || codes.isAscii)
  return codes

/-- The place where the first of some texts stands in a text, and its length. -/
def splitAt? (mark : List Char) : List Char → Option (List Char × List Char)
  | [] => none
  | c :: rest =>
    if mark.isPrefixOf (c :: rest) then some ([], (c :: rest).drop mark.length)
    else (splitAt? mark rest).map fun (before, after) => (c :: before, after)

/-- The class that the text between the braces of `\p` names, and whether a mark of inequality
between a property and its value negates it. -/
def namedProperty? (text : List Char) : Option (CodeSet × Bool) :=
  let valueOf (name value : List Char) : Option CodeSet :=
    Class.propertyValue? (String.ofList name) (String.ofList value)
  match splitAt? ['!', '='] text with
  | some (name, value) => (valueOf name value).map (·, true)
  | none =>
    match splitAt? [':'] text <|> splitAt? ['='] text with
    | some (name, value) => (valueOf name value).map (·, false)
    | none => (Class.property? (String.ofList text)).map (·, false)

/-- The class after `\p` or `\P`, which negates what the braces name. -/
def propertyEscape (negated : Bool) : Reader Atom := do
  advance
  let flags := (← get).flags
  let c ← next
  let text ←
    if c = '\x7b' then do
      advance
      let text ← takeAll (· ≠ '\x7d')
      discard next
      drop 1
      pure text
    else do
      require (c ≠ '\\')
      advance
      pure [c]
  require flags.unicode
  let (codes, differs) ← (namedProperty? text : Option (CodeSet × Bool))
  return .set (foldAndNegate flags (negated != differs) codes)

/-- The class of an escape of one letter. -/
def letterClass (flags : Flags) (letter : Char) : CodeSet :=
  let name (inUnicode : CodeSet) (inAscii : String) : CodeSet :=
    if flags.unicode then inUnicode else (Class.ascii? inAscii).getD []
  match letter.toLower with
  | 'd' => name Class.digits "digit"
  | 's' => name Class.blanks "space"
  | _ => name Class.words "word"

/-- The members of words. -/
def wordSet (flags : Flags) : CodeSet :=
  letterClass flags 'w'

/-- The look of a name in braces after `\b`. If there is no name the braces count, and stay. -/
def boundaryName : Reader (Option Look) := do
  let before ← get
  let word := wordSet before.flags
  let isNameChar (c : Char) : Bool := c.isAlpha || c == '-'
  advance
  if isNameChar (← next) then
    let name ← takeAll isNameChar
    expect '\x7d'
    match String.ofList name with
    | "start" => return some (.wordStart word)
    | "end" => return some (.wordEnd word)
    | "start-half" => return some (.noWordBefore word)
    | "end-half" => return some (.noWordAfter word)
    | _ => failure
  else
    set before
    return none

/-- What the characters after a backslash stand for. -/
def escape : Reader Atom := do
  drop 1
  let flags := (← get).flags
  let c ← next
  if c.isDigit then failure
  else if c = 'x' then hexEscape 2
  else if c = 'u' then hexEscape 4
  else if c = 'U' then hexEscape 8
  else if c = 'p' ∨ c = 'P' then propertyEscape (c == 'P')
  else
    drop 1
    if ['d', 's', 'w', 'D', 'S', 'W'].contains c then
      let codes := letterClass flags c
      return .set (← checked flags (if c.isUpper then Class.others codes else codes))
    else if isEscapable c then return .char c false
    else match c with
      | 'a' => return .char '\x07' false
      | 'f' => return .char '\x0c' false
      | 't' => return .char '\t' false
      | 'n' => return .char '\n' false
      | 'r' => return .char '\r' false
      | 'v' => return .char '\x0b' false
      | 'A' => return .look .textStart
      | 'z' => return .look .textEnd
      | 'b' =>
        if (← peek) = some '\x7b' then
          return .look ((← boundaryName).getD (.wordBoundary (wordSet flags)))
        else return .look (.wordBoundary (wordSet flags))
      | 'B' => return .look (.noWordBoundary (wordSet flags))
      | '<' => return .look (.wordStart (wordSet flags))
      | '>' => return .look (.wordEnd (wordSet flags))
      | _ => failure

end Reader
end EventSieve.Pattern
