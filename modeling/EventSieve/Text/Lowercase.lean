import EventSieve.Text.Letter

/-!
# Lower case

The full lower-case form of a text. All characters but two have a form that does not depend on
their neighbours: a dotted capital I becomes two characters, and a capital sigma at the end of
a word becomes a final sigma.

## Main definitions

* `lowercase` — the lower-case form of a text
-/
namespace EventSieve.Text.Lowercase

/-- The capitals with a single lower-case character, as runs. -/
def table : String :=
  String.join [
    "B2p1A2G3m1A2261A2C1n22422237223m22201R71222401Ed1122201yc1012211wc1012301-4101Uc101Wc1012201",
    "wc101-c201Gd101Cd1012401Gd101Kd201Md1222201Ud1012201Ud3012201Ud1012211Sd1122201Wd10124012801",
    "410122014101220141822382230141122201B6101P31j22201D82822801WCl1012201Fa101QCl3012201Fc101K41",
    "01O41422C91224012901I7701M2221K2201A4211-32g1A2281A2E101g9b22601X33012201d1012321D81f1A51v1A",
    "2R1g22aq22201u16223P1223F11A3Kw2F11AGe201AGe601AGeTmP21AzL2151gUE20127K11_x5321_x5BaK222a01z",
    "xe2P122a71f951fb71f971f951fc32f971fp71f971f971f911f111T4101hc31L5101hc11f111H6d11f111_6101dc",
    "11_7111x7101hK901ZVe401zLg101LEg701Y1O1f1A1k012Tpp1U1RZ1P11A3R1012201N_k101LO7101N-k3222201X",
    "Bl101Z_k101zBl101xBl20123012911zDl1R12291225012OKum22kd22I46224u22b122201HAF214225012201PSS2",
    "31224922201HUS2101zUS2101VUS2101BUS2101HUS2201DRS2101TSS2101JRS2101Aw11722201_2101FUS2101PDF",
    "21122201NWS21722201BET2p012MZlp1A2GG1H11Q2J4D11Q2z4a1O22e1O2261O2211O2LX1S11A4-4l1A2xZ2v1A2B",
    "Mlv1A2B2o1W1ISuB11E2"]

/-- The capitals with a single lower-case character, with that character. -/
def pairs : List (Nat × Nat) :=
  CodeSet.pairsFrom 0 (CodeSet.unpack table)

/-- Whether the first character that is not skipped takes part in a case distinction. -/
def meetsCased (cs : List Char) : Bool :=
  match cs.dropWhile isCaseIgnorable with
  | c :: _ => isCased c
  | [] => false

/-- The lower-case form of one character on its own. -/
def ofChar (c : Char) : List Char :=
  if c.toNat < 0x80 then [c.toLower]
  else if c = 'İ' then ['i', '\u0307']
  else match pairs.lookup c.toNat with
    | some small => [Char.ofNat small]
    | none => [c]

/-- The lower-case form of characters that follow others, which come in reverse order. A sigma
is final where a cased character comes before it and none comes after it. -/
def charsAfter (before : List Char) : List Char → List Char
  | [] => []
  | c :: rest =>
    let small :=
      if c = 'Σ' then
        if meetsCased before && !meetsCased rest then ['ς'] else ['σ']
      else ofChar c
    small ++ charsAfter (c :: before) rest

end EventSieve.Text.Lowercase

namespace EventSieve.Text

/-- The lower-case form of a text. -/
def lowercase (s : String) : String :=
  String.ofList (Lowercase.charsAfter [] s.toList)

end EventSieve.Text
