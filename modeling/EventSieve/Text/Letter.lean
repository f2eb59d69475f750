import EventSieve.Text.Category
import EventSieve.Text.Property

/-!
# Letters and digits

Which characters are letters or numbers, and which take part in case distinctions. The tables of
categories and of properties are those of version 16.0 of the character standard; the tests here
are those of version 17.0, so each adds what that version assigned.

## Main definitions

* `isAlphabetic`, `isNumeric` — the letters, and the digits and other numbers
* `isCased`, `isCaseIgnorable` — the characters that have case, and those that words skip when
  the case of their neighbours is asked for
-/
namespace EventSieve.Text

/-- The code points that have a property of version 16.0, with those that version 17.0 adds. -/
def withAdded (name : String) (added : CodeSet) : CodeSet :=
  CodeSet.union ((Property.codes? name).getD []) added

/-- The alphabetic code points. -/
def alphabetic : CodeSet :=
  withAdded "alphabetic"
    [(0x88F, 0x88F), (0xC5C, 0xC5C), (0xCDC, 0xCDC), (0xA7CE, 0xA7CF), (0xA7D2, 0xA7D2),
     (0xA7D4, 0xA7D4), (0xA7F1, 0xA7F1), (0x10940, 0x10959), (0x10EC5, 0x10EC7),
     (0x10EFA, 0x10EFB), (0x11B60, 0x11B67), (0x11DB0, 0x11DDB), (0x16EA0, 0x16EB8),
     (0x16EBB, 0x16ED3), (0x16FF2, 0x16FF6), (0x187F8, 0x187FF), (0x18D09, 0x18D1E),
     (0x18D80, 0x18DF2), (0x1E6C0, 0x1E6DE), (0x1E6E0, 0x1E6F5), (0x1E6FE, 0x1E6FF),
     (0x2B73A, 0x2B73F), (0x2CEA2, 0x2CEAD), (0x323B0, 0x33479)]

/-- The code points of numbers. -/
def numeric : CodeSet :=
  CodeSet.union (Category.codes ["Nd", "Nl", "No"]) [(0x11DE0, 0x11DE9), (0x16FF4, 0x16FF6)]

/-- The code points that have case. One of version 16.0 has it no longer. -/
def cased : CodeSet :=
  CodeSet.diff
    (withAdded "cased"
      [(0xA7CE, 0xA7CF), (0xA7D2, 0xA7D2), (0xA7D4, 0xA7D4), (0xA7F1, 0xA7F1), (0x16EA0, 0x16EB8),
       (0x16EBB, 0x16ED3)])
    [(0x295, 0x295)]

/-- The code points that a search for a cased neighbour skips. -/
def caseIgnorable : CodeSet :=
  withAdded "caseignorable"
    [(0x1ACF, 0x1ADD), (0x1AE0, 0x1AEB), (0xA7F1, 0xA7F1), (0x10EC5, 0x10EC5), (0x10EFA, 0x10EFB),
     (0x11B60, 0x11B60), (0x11B62, 0x11B64), (0x11B66, 0x11B66), (0x11DD9, 0x11DD9),
     (0x16FF2, 0x16FF3), (0x1E6E3, 0x1E6E3), (0x1E6E6, 0x1E6E6), (0x1E6EE, 0x1E6EF),
     (0x1E6F5, 0x1E6F5), (0x1E6FF, 0x1E6FF)]

/-- Whether a character is alphabetic. -/
def isAlphabetic (c : Char) : Bool :=
  alphabetic.memChar c

/-- Whether a character is a digit or another number. -/
def isNumeric (c : Char) : Bool :=
  numeric.memChar c

/-- Whether a character has case. -/
def isCased (c : Char) : Bool :=
  cased.memChar c

/-- Whether a search for a cased neighbour skips a character. -/
def isCaseIgnorable (c : Char) : Bool :=
  caseIgnorable.memChar c

end EventSieve.Text
