import EventSieve.Json.Lenient
import EventSieve.Text.Blank

/-!
# Record files

A record file has a JSON object on each line. Blank lines and comments are skipped; a line that
holds no object is left out, and says nothing about the others.

## Main definitions

* `RecordLine.parse` — the object of a line
* `RecordFile.ofText`, `RecordFile.ofBytes` — the records of a file, and why lines were left out
-/
namespace EventSieve

/-- Why a line holds no record. Lines count from 1. -/
inductive LineError where
  | invalidJson (line : Nat)
  | notAnObject (line : Nat)
deriving DecidableEq, Repr

/-- The wording of an error. -/
def LineError.message : LineError → String
  | invalidJson line => "Line " ++ Number.intText line ++ " is not valid JSON"
  | notAnObject line => "Line " ++ Number.intText line ++ " is not a JSON object"

/-- An object read from a line of a file. -/
structure RecordLine where
  line : Nat
  /-- The whole line. -/
  text : String
  value : Json
deriving Repr

/-- The object of a line: of strict JSON, or else of lenient JSON. -/
def RecordLine.parse (text : String) (line : Nat) : Except LineError Json :=
  match Json.parseStrict? text <|> Json.parseLenient? text with
  | none => .error (.invalidJson line)
  | some value => if value.isObject then .ok value else .error (.notAnObject line)

namespace RecordFile

/-- The lines of a text. A line ends with a line feed, or with a return and a line feed; the
last one may have no end. -/
def splitLines : List Char → List (List Char)
  | [] => []
  | '\n' :: rest => [] :: splitLines rest
  | '\r' :: '\n' :: rest => [] :: splitLines rest
  | c :: rest =>
    match rest with
    | [] => [[c]]
    | _ =>
      match splitLines rest with
      | [] => [[c]]
      | line :: lines => (c :: line) :: lines

/-- Whether a line without blanks at its ends holds no record on purpose. -/
def isNoise (cs : List Char) : Bool :=
  cs.isEmpty || ['#'].isPrefixOf cs || ['/', '/'].isPrefixOf cs

/-- The record of a line with a number, or why there is none; nothing for noise. -/
def readLine? (line : Nat) (cs : List Char) : Option (Except LineError RecordLine) :=
  let trimmed := Text.trimChars cs
  if isNoise trimmed then none
  else some <|
    (RecordLine.parse (String.ofList trimmed) line).map fun value =>
      ⟨line, String.ofList cs, value⟩

/-- The outcome of every line that is no noise; `line` is the number of the first. -/
def readLines (line : Nat) : List (List Char) → List (Except LineError RecordLine)
  | [] => []
  | cs :: rest => (readLine? line cs).toList ++ readLines (line + 1) rest

/-- The outcome of every line of a text that is no noise. -/
def ofText (text : String) : List (Except LineError RecordLine) :=
  readLines 1 (splitLines text.toList)

/-- The records among outcomes. -/
def records (outcomes : List (Except LineError RecordLine)) : List RecordLine :=
  outcomes.filterMap fun
    | .ok record => some record
    | .error _ => none

/-- The errors among outcomes. -/
def errors (outcomes : List (Except LineError RecordLine)) : List LineError :=
  outcomes.filterMap fun
    | .ok _ => none
    | .error fault => some fault

end RecordFile

/-- Why a file cannot be read. -/
inductive FileError where
  | missing
  | directory
  | notADirectory
  | notText
deriving DecidableEq, Repr

/-- The wording of an error. -/
def FileError.message : FileError → String
  | missing => "No such file or directory (os error 2)"
  | directory => "Is a directory (os error 21)"
  | notADirectory => "Not a directory (os error 20)"
  | notText => "stream did not contain valid UTF-8"

/-- The text that some bytes encode. -/
def textOfBytes (bytes : ByteArray) : Except FileError String :=
  match String.fromUTF8? bytes with
  | some text => .ok text
  | none => .error .notText

namespace RecordFile

/-- Bytes line by line, each line with the line feed that ends it. -/
def byteLines : List UInt8 → List (List UInt8)
  | [] => []
  | byte :: rest =>
    if byte = 10 then [byte] :: byteLines rest
    else
      match byteLines rest with
      | [] => [[byte]]
      | line :: later => (byte :: line) :: later

/-- The text of the lines before the first one that is no text. -/
def leadingText (bytes : ByteArray) : String :=
  let lines := (byteLines bytes.toList).map fun line => String.fromUTF8? ⟨line.toArray⟩
  String.join ((lines.takeWhile Option.isSome).filterMap id)

/-- The outcome of every line of a file that is no noise. Reading stops with an error at the first
line that is no text. -/
def ofBytes (bytes : ByteArray) : List (Except LineError RecordLine) × Option FileError :=
  match textOfBytes bytes with
  | .ok text => (ofText text, none)
  | .error fault => (ofText (leadingText bytes), some fault)

end RecordFile

/-- The wording of a failure to read a record file. -/
def readFailure (path : String) (fault : FileError) : String :=
  "Failed to read '" ++ path ++ "': " ++ fault.message

end EventSieve
