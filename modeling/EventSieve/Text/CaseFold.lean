import EventSieve.Text.CodeSet

/-!
# Simple case folding

Two code points are the same up to case when they fold to the same code point.

## Main definitions

* `CaseFold.close` — a set with everything that is the same up to case as one of its members
* `CaseFold.closeAscii` — the same for the letters of ASCII alone
-/
namespace EventSieve.Text.CaseFold

/-- The code points that do not fold to themselves, as runs. -/
def table : String :=
  String.join [
    "B2p1A2G3m1A2261A2C1n22422237223m22201R71222201Xg201Ed1122201yc1012211wc1012301-4101Uc101Wc10",
    "12201wc101-c201Gd101Cd1012401Gd101Kd201Md1222201Ud1012201Ud3012201Ud1012211Sd1122201Wd101240",
    "12801410122014101220141822382230141122201B6101P31j22201D82822801WCl1012201Fa101QCl3012201Fc1",
    "01K4101O41422C91224012901I7701M2221K2201A4211-3271A2101H5111A2101NO1141A2281A2e01H7301NQ1601",
    "2d01g101x1101R1401t101L12b22201L3101_2301X3101_32012201d1012321D81f1A51v1A2R1g22aq22201u1622",
    "3P1223F11A3Kw2F11AGe201AGe601AGeTmP21AzL2151gLE201xEc101ZEc101HEc111DEc101FEc101XDc101HCc301",
    "16K11_x5321_x5BaK222701T3301zxe2P122a71f951fb71f971f951fc32f971fp71f971f971f911f111T4101h201",
    "RHea31L5101h701FEe511f111H6801FDe511f111_6101dc11_7111x7101hK901ZVe401zLg101LEg701Y1O1f1A1k0",
    "12Tpp1U1RZ1P11A3R1012201N_k101LO7101N-k3222201XBl101Z_k101zBl101xBl20123012911zDl1R122912250",
    "12OKu422201DyE2101FyE21g22kd22I46224u22b122201HAF214225012201PSS231224922201HUS2101zUS2101VU",
    "S2101BUS2101HUS2201DRS2101TSS2101JRS2101Aw11722201_2101FUS2101PDF21122201NWS2201130126122301",
    "1101BET2p012RYk011xA1p1A2GG1H11Q2J4D11Q2z4a1O22e1O2261O2211O2LX1S11A4-5l1_1xY2v1A2BMlv1A2BVu",
    "B11E2"]

/-- The code points that do not fold to themselves, with what they fold to. -/
def pairs : List (Nat × Nat) :=
  CodeSet.pairsFrom 0 (CodeSet.unpack table)

/-- The set with everything that is the same up to case as one of its members. -/
def close (set : CodeSet) : CodeSet :=
  let folded := (pairs.filter fun pair => set.mem pair.1).map Prod.snd
  let same := (pairs.filter fun pair => set.mem pair.2 || folded.contains pair.2).map Prod.fst
  CodeSet.ofRanges (set ++ (folded ++ same).map fun code => (code, code))

/-- The set with the other case of every letter of ASCII that it holds. -/
def closeAscii (set : CodeSet) : CodeSet :=
  let shift (low high : Nat) (change : Nat → Nat) : List (Nat × Nat) :=
    set.filterMap fun range =>
      let from' := max range.1 low
      let upto := min range.2 high
      if from' ≤ upto then some (change from', change upto) else none
  CodeSet.ofRanges (set ++ shift 65 90 (· + 32) ++ shift 97 122 (· - 32))

end EventSieve.Text.CaseFold
