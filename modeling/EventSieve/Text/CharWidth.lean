import EventSieve.Text.Property

/-!
# Widths of characters

The columns that a character takes on a terminal by itself, and the properties of characters that
decide how it stands together with its neighbours.

## Main definitions

* `charWidth` — the columns of a character
* `isPicture`, `hasVariants`, `isTintable` — pictures, the characters that can be shown both as a
  picture and as text, and the pictures that can have a colour
* `isCombining` — the characters that combine with the one before them
-/
namespace EventSieve.Text

/-- The ranges of characters that take no column. -/
def zeroWidthTable : String :=
  String.join [
    "N50SiP3T86H8M110111110z10aa10O1kg0F36252113B1010uqx2aw1890o3181214L12U1158K1Y1X1010474036a1t",
    "0w1010238090a1q021Z1041412230u130b1Z10441140k1m510w1011138072a1u0x1010c090I1030X1012521371b1",
    "t0w102110321371b1s1Z1110238180a1t0I2040221080R2026c7C3028b6J21r01010X1d14115a1D190G33151121p",
    "142g3d02160f0C6_4za2St3s2t1u1A2116802a90N14V31C10W32419062x6120w10161010276920Q1N12bk3Q1942G",
    "18c1A1325Y10113014Y1721Y421c16406031G6_1Lg4q4R1fA3A1-_22O7vKh5J31J60KIt319A11Q21Q803040p150X",
    "41qh8040G17pa10M12Q10232120E10D252121c080P10T1012215110K1180O702040C-am4Q1CZ80BnfgfP60-42P28",
    "Eg0C70V44GU121153I1240F51zh3B24z91N25G2aR13x30W1eJ1021a2R132170z12E1417-10c1U1810115320_2223",
    "6020z4037l1Z111010c090e634D202510201244e1V272210n0R202510201111L70236111r1V272011K301027F301",
    "02314D8811V70a41010Q432140A19I1523809522I1i11G601210J661510S2l261111w35301118I213010xa1b2T14",
    "52n0FH506eIGbb32AO24x16YA10_13R20b1LFj113yS4N12m-g43l26u3U42xz1W14R180e0m41eQK161g261114E30A",
    "56Xb0z13yf3-71T70207150we6N36VVFo__3"]

/-- The ranges of characters that take two columns. -/
def wideTable : String :=
  String.join [
    "AI4_2ES10Vx21d1-533020Jg1l1q7gbL10a530d081h1518050l0711040207041s0D10104210z12o0e0xq1T1040Kp",
    "p1Y2cV6qZ16e2V24E35K11S11J11V29P11H18yRs3W1ZE1sDkDzayK8_fQo9mC11i13V4_2_36Z_r3e49VG7J1vB3S3z",
    "P8316111C9f0t220e38LcEA8W29mNE70K60-5029F32dL14871e5w4A1c81F21lcK144cg303G2101w52-1d31ni0q1d",
    "0W2U2Q1F260322333b178D7b40x8O1191Y5Q3c3a3Y1104f2b49HI1z__12z__1"]

/-- The ranges of characters that can be shown as a picture or as text. -/
def variantsTable : String :=
  String.join [
    "D106059P3040Ny70c0Y60m0w25f1Pb1c0G50pa42H60H71a090w1314902021204020112030318250105bb1201110i",
    "021i5101131502141b15120511011k155132040202510201010603060a1f02040104210b1Q1290e0e0Ub1Pe2j1T1",
    "040wG10c0Zi010KLP30Lb1c1C40n0k070V625060402890B2040l02112217042j01010345cc0501010g0c09060o01",
    "1333140m0i0F10c0207030b0e0404233901210a04041V115n7126d02320k020819052c282201040603060l0W3050",
    "302030k0406110e012g5306020"]

/-- The characters that take no column. -/
def zeroWidth : CodeSet :=
  CodeSet.ofGaps (CodeSet.unpack zeroWidthTable)

/-- The characters that take two columns. -/
def wide : CodeSet :=
  CodeSet.ofGaps (CodeSet.unpack wideTable)

/-- The characters that can be shown as a picture or as text. -/
def variants : CodeSet :=
  CodeSet.ofGaps (CodeSet.unpack variantsTable)

/-- The characters that are shown as pictures unless a selector says otherwise: those of version
16.0 of the character standard with those that version 17.0 adds. Colours and the letters of
regions stand apart. -/
def pictures : CodeSet :=
  CodeSet.diff
    (CodeSet.union ((Property.codes? "emojipresentation").getD [])
      [(0x1F6D8, 0x1F6D8), (0x1FA8A, 0x1FA8A), (0x1FA8E, 0x1FA8E), (0x1FAC8, 0x1FAC8),
       (0x1FACD, 0x1FACD), (0x1FAEA, 0x1FAEA), (0x1FAEF, 0x1FAEF)])
    [(0x1F1E6, 0x1F1FF), (0x1F3FB, 0x1F3FF)]

/-- The pictures that can have a colour. -/
def tintable : CodeSet :=
  (Property.codes? "emojimodifierbase").getD []

/-- The characters without a column that combine with the one before them. -/
def combining : CodeSet :=
  CodeSet.diff zeroWidth
    [(0x605, 0x605), (0x890, 0x891), (0x8E2, 0x8E2), (0x9BE, 0x9BE), (0x9D7, 0x9D7),
     (0xB3E, 0xB3E), (0xB57, 0xB57), (0xBBE, 0xBBE), (0xBD7, 0xBD7), (0xCC0, 0xCC0),
     (0xCC2, 0xCC2), (0xCC7, 0xCC8), (0xCCA, 0xCCB), (0xCD5, 0xCD6), (0xD3E, 0xD3E),
     (0xD4E, 0xD4E), (0xD57, 0xD57), (0xDCF, 0xDCF), (0xDDF, 0xDDF), (0x1160, 0x11FF),
     (0x1715, 0x1715), (0x1734, 0x1734), (0x180E, 0x180E), (0x1B35, 0x1B35), (0x1B3B, 0x1B3B),
     (0x1B3D, 0x1B3D), (0x1B43, 0x1B44), (0x1BAA, 0x1BAA), (0x1BF2, 0x1BF3), (0x200C, 0x200D),
     (0x2065, 0x2069), (0x302E, 0x302F), (0x3164, 0x3164), (0xA8FA, 0xA8FA), (0xA953, 0xA953),
     (0xA9C0, 0xA9C0), (0xD7B0, 0xD7C6), (0xD7CB, 0xD7FB), (0xFF9E, 0xFFA0), (0xFFF0, 0xFFF8),
     (0x111C0, 0x111C0), (0x111C2, 0x111C3), (0x11235, 0x11235), (0x1133E, 0x1133E),
     (0x1134D, 0x1134D), (0x11357, 0x11357), (0x113B8, 0x113B8), (0x113C2, 0x113C2),
     (0x113C5, 0x113C5), (0x113C7, 0x113C9), (0x113CF, 0x113CF), (0x113D1, 0x113D1),
     (0x114B0, 0x114B0), (0x114BD, 0x114BD), (0x115AF, 0x115AF), (0x116B6, 0x116B6),
     (0x11930, 0x11930), (0x1193D, 0x1193D), (0x1193F, 0x1193F), (0x11941, 0x11941),
     (0x11A84, 0x11A89), (0x11D46, 0x11D46), (0x11F02, 0x11F02), (0x11F41, 0x11F41),
     (0x16FF0, 0x16FF1), (0x1D165, 0x1D166), (0x1D16D, 0x1D172), (0xE0000, 0xE0000),
     (0xE0002, 0xE001F), (0xE0080, 0xE00FF), (0xE01F0, 0xE0FFF)]

/-- The columns of a character. -/
def charWidth (c : Char) : Nat :=
  if c.toNat ≤ 0xA0 then 1
  else if c.toNat = 0x17D8 then 3
  else if zeroWidth.memChar c then 0
  else if wide.memChar c then 2
  else 1

/-- Whether a character is shown as a picture unless a selector says otherwise. -/
def isPicture (c : Char) : Bool :=
  pictures.memChar c

/-- Whether a character can be shown as a picture or as text. -/
def hasVariants (c : Char) : Bool :=
  variants.memChar c

/-- Whether a character is a picture that can have a colour. -/
def isTintable (c : Char) : Bool :=
  tintable.memChar c

/-- Whether a character combines with the one before it. -/
def isCombining (c : Char) : Bool :=
  combining.memChar c

end EventSieve.Text
