import EventSieve.Text.CharWidth

/-!
# Widths of texts

The columns that a text takes on a terminal. It is measured from its last character back, since
the columns of a character may depend on what follows it: a selector shows it as a picture or as
text, a joiner makes one picture of several, a colour belongs to the person before it, the letters
of a region make a flag, and in some scripts two letters are written as one.

## Main definitions

* `Sequel` — what a text begins with, as far as the character before it depends on it
* `Ahead` — a sequel with the selectors and the joiner between it and the character before it
* `Ahead.measure` — the columns of a character before a text, and what the text begins with then
* `width` — the columns of a text
-/
namespace EventSieve.Text

/-- What a text begins with, as far as the columns of the character before it depend on it. -/
inductive Sequel where
  | other
  | lineFeed
  /-- The colour of a person. -/
  | tint
  | picture
  /-- One letter of a region, and several of them. -/
  | regionLetter | regionLetters
  /-- A joiner before a picture. -/
  | joiner
  /-- The frame of a key, joined to a picture. -/
  | joinedKey
  /-- Letters of regions joined to a picture: one, then an even and an odd number of them. -/
  | joinedLetter | joinedEven | joinedOdd
  /-- Tags at the end of a flag that is joined to a picture: so many letters, or so many digits. -/
  | tagLetters (count : Nat)
  | tagDigits (count : Nat)
  /-- Vowels of Kirat Rai that are written in parts. -/
  | raiE | raiAi
  /-- Letters and signs that may be written as one with what is before them. -/
  | alef | lamed | ya | vowelYa | consonant | joinedConsonant | toneLetter | orkhonI | khmerLetter
deriving DecidableEq, Repr

namespace Sequel

/-- Whether a sequel may be written as one with the letter before it. -/
def isLigature : Sequel → Bool
  | alef | lamed | ya | vowelYa | consonant | joinedConsonant | toneLetter | orkhonI
  | khmerLetter => true
  | _ => false

/-- Whether a sequel joins a picture to what is before it. -/
def isJoining : Sequel → Bool
  | joiner | joinedKey => true
  | _ => false

end Sequel

/-- A sequel with what stands between it and the character before it. -/
structure Ahead where
  sequel : Sequel := .other
  /-- A joiner before a ligature. -/
  joined : Bool := false
  /-- A selector of the form as a picture. -/
  asPicture : Bool := false
  /-- A selector of the form as text. -/
  asText : Bool := false
  /-- A selector of the wide form. -/
  asWide : Bool := false
deriving DecidableEq, Repr

/-! ## Characters -/

/-- Whether a character has a code from `low` to `high`. -/
def isBetween (low high : Nat) (c : Char) : Bool :=
  low ≤ c.toNat && c.toNat ≤ high

/-- The joiner of pictures and of letters. -/
def zeroWidthJoiner : Char := '\u200d'

/-- Whether a character is a letter of a region. -/
def isRegionLetter (c : Char) : Bool :=
  isBetween 0x1F1E6 0x1F1FF c

/-- Whether a character is the colour of a person. -/
def isTint (c : Char) : Bool :=
  isBetween 0x1F3FB 0x1F3FF c

/-- Whether a character is a picture that a selector shows as text in one column. -/
def isTextable (c : Char) : Bool :=
  hasVariants c && isPicture c && !isBetween 0x1F200 0x1F2FF c

/-- Whether a character is a quotation mark with a wide form. -/
def isQuote (c : Char) : Bool :=
  ['‘', '’', '“', '”'].contains c

/-- Whether a character may stand between the letters of a ligature. -/
def isTransparent (c : Char) : Bool :=
  c == '\u034f' || isBetween 0x17B4 0x17B5 c || isBetween 0x180B 0x180D c || c == '\u180f' ||
    isBetween 0xFE00 0xFE0F c || isBetween 0xE0100 0xE01EF c

/-- Whether a character is the letter lam, in one of its forms. -/
def isLam (c : Char) : Bool :=
  c == '\u0644' || isBetween 0x6B5 0x6B8 c || c == '\u076a' || c == '\u08a6' || c == '\u08c7'

/-- Whether a character is the letter alef, in one of its forms. -/
def isAlef (c : Char) : Bool :=
  isBetween 0x622 0x623 c || c == '\u0625' || c == '\u0627' || isBetween 0x671 0x673 c ||
    c == '\u0675' || isBetween 0x773 0x774 c || isBetween 0x870 0x882 c

/-- Whether a character is a consonant of Tifinagh. -/
def isConsonant (c : Char) : Bool :=
  isBetween 0x2D31 0x2D65 c || c == '\u2d6f'

/-- The letters of Khmer that can be written below another. -/
def khmerLetters : CodeSet :=
  [(0x1780, 0x1782), (0x1784, 0x1787), (0x1789, 0x178C), (0x178E, 0x1793), (0x1795, 0x1798),
   (0x179B, 0x179D), (0x17A0, 0x17A0), (0x17A2, 0x17A2), (0x17A7, 0x17A7), (0x17AB, 0x17AC),
   (0x17AF, 0x17AF)]

/-- What a text begins with when a character begins it. -/
def Sequel.ofChar (c : Char) : Sequel :=
  if isTint c then tint
  else if isRegionLetter c then regionLetter
  else if isPicture c then picture
  else if isAlef c then alef
  else if c = 'ל' then lamed
  else if c = '\u1a10' then ya
  else if isConsonant c then consonant
  else if isBetween 0xA4FC 0xA4FD c then toneLetter
  else if c.toNat = 0x10C03 then orkhonI
  else if khmerLetters.memChar c then khmerLetter
  else if c.toNat = 0x16D67 then raiE
  else if c.toNat = 0x16D68 then raiAi
  else other

/-! ## Measuring -/

namespace Ahead

/-- A sequel with nothing before it. -/
def of (sequel : Sequel) : Ahead :=
  { sequel }

/-- The columns of a character by itself, and the sequel that it is. -/
def alone (c : Char) : Int × Ahead :=
  (charWidth c, of (.ofChar c))

/-- The columns of a character that belongs together with a sequel, and the sequel of both. -/
def join? (sequel : Sequel) (joined : Bool) (c : Char) : Option (Int × Ahead) :=
  let found (columns : Int) (next : Sequel) : Option (Int × Ahead) := some (columns, of next)
  let isTagDigit := isBetween 0xE0030 0xE0039 c
  let isTagLetter := isBetween 0xE0061 0xE007A c
  match sequel with
  | .other | .lineFeed | .joinedKey => none
  | .tint =>
    if isTintable c then found 0 .picture
    else if c = zeroWidthJoiner then found 0 .joiner
    else none
  | .picture => if c = zeroWidthJoiner then found 0 .joiner else none
  | .regionLetter => if isRegionLetter c then found 1 .regionLetters else none
  | .regionLetters =>
    if isRegionLetter c then found 1 .regionLetters
    else if c = zeroWidthJoiner then found 0 .joiner
    else none
  | .joiner =>
    if c = '\u20e3' then found 0 .joinedKey
    else if isRegionLetter c then found 1 .joinedLetter
    else if isTint c then found 0 .tint
    else if c.toNat = 0xE007F then found 0 (.tagLetters 0)
    else if isPicture c then found 0 .picture
    else none
  | .joinedLetter | .joinedOdd => if isRegionLetter c then found (-1) .joinedEven else none
  | .joinedEven =>
    if isRegionLetter c then found 3 .joinedOdd
    else if c = zeroWidthJoiner then found 0 .joiner
    else none
  | .tagLetters count =>
    if isTagLetter && count < 6 then found 0 (.tagLetters (count + 1))
    else if isTagDigit && count < 5 then found 0 (.tagDigits 1)
    else if c = '🏴' && 3 ≤ count then found 0 .picture
    else none
  | .tagDigits count =>
    if isTagDigit && count < 3 then found 0 (.tagDigits (count + 1))
    else if c = '🏴' && count = 3 then found 0 .picture
    else none
  | .raiE =>
    if c.toNat = 0x16D63 || c.toNat = 0x16D69 then found 0 .other
    else if c.toNat = 0x16D67 then found 0 .raiAi
    else if c.toNat = 0x16D68 then found 1 .raiE
    else none
  | .raiAi => if c.toNat = 0x16D63 then found 0 .other else none
  | .alef => if isLam c then found 0 .other else if isCombining c then found 0 .alef else none
  | .lamed => if joined && c = 'א' then found 0 .other else none
  | .ya => if joined && c = '\u1a17' then found 0 .vowelYa else none
  | .vowelYa => if c = '\u1a15' then found 0 .other else none
  | .consonant =>
    if c = '\u2d7f' then found 1 .joinedConsonant
    else if joined && isConsonant c then found 0 .other
    else none
  | .joinedConsonant => if isConsonant c then found (-1) .other else none
  | .toneLetter => if isBetween 0xA4F8 0xA4FB c then found 0 .other else none
  | .orkhonI => if joined && c.toNat = 0x10C32 then found 0 .other else none
  | .khmerLetter => if c = '\u17d2' then found (-1) .other else none

/-- The columns of a character that no selector asks another form of. -/
def measurePlain (ahead : Ahead) (c : Char) : Int × Ahead :=
  let letsThrough := ahead.sequel.isLigature && ahead.sequel != .alef
  if letsThrough && c = zeroWidthJoiner then (0, { ahead with joined := true })
  else if letsThrough && isTransparent c then (0, ahead)
  else if ahead.asWide then alone c
  else (join? ahead.sequel ahead.joined c).getD (alone c)

/-- The columns of a character that no selector asks the form as a picture of. A selector hides
what follows it, but for ligatures and joined pictures. -/
def measureSelected (ahead : Ahead) (c : Char) : Int × Ahead :=
  let kept := if ahead.sequel.isLigature then ahead else {}
  if c = '\ufe0f' then
    (0, { (if ahead.sequel.isJoining then ahead else kept) with asPicture := true })
  else if c = '\ufe0e' then (0, { kept with asText := true })
  else if c = '\ufe01' then (0, { kept with asWide := true })
  else if ahead.asText then
    if isTextable c then (1, {}) else measurePlain { ahead with asText := false } c
  else if ahead.asWide && isQuote c then (2, {})
  else measurePlain { ahead with asWide := false } c

/-- The columns of a character before a text, and what the text begins with then. -/
def measure (ahead : Ahead) (c : Char) : Int × Ahead :=
  if ahead.asPicture && hasVariants c then
    (if ahead.sequel.isJoining then 0 else 2, of .picture)
  else
    let ahead :=
      if !ahead.asPicture then ahead
      else if ahead.sequel.isLigature then { ahead with asPicture := false }
      else {}
    if c.toNat ≤ 0xA0 then
      if c = '\n' then (1, of .lineFeed)
      else if c = '\r' && ahead == of .lineFeed then (0, {})
      else (1, {})
    else measureSelected ahead c

end Ahead

/-- The columns of a text. -/
def width (text : String) : Nat :=
  let total := text.toList.foldr (fun c (columns, ahead) =>
    let (more, ahead) := Ahead.measure ahead c
    (columns + more, ahead)) ((0 : Int), ({} : Ahead))
  total.1.toNat

end EventSieve.Text
