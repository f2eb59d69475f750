import EventSieve.Text.CodeSet

/-!
# General categories

Every code point has one of thirty general categories. The table lists the code points in
order as runs of one category.

## Main definitions

* `Category.codes` — the code points of some categories
* `Category.named?` — the categories that a name or an abbreviation stands for
-/
namespace EventSieve.Text.Category

/-- The abbreviations of the categories, in the order in which the table counts them. -/
def abbreviations : List String :=
  ["Cn", "Cc", "Cf", "Co", "Cs", "Ll", "Lm", "Lo", "Lt", "Lu", "Mc", "Me", "Mn", "Nd", "Nl",
   "No", "Pc", "Pd", "Pe", "Pf", "Pi", "Po", "Ps", "Sc", "Sk", "Sm", "So", "Zl", "Zp", "Zs"]

/-- The runs of the code space, each as its length and the place of its category in
`abbreviations`. -/
def table : String :=
  String.join [
    "A111t3l1n3l1m1i1l1p1l1h2lad2l3p2lq91m1l1i1o1g1oq51m1p1i1pB111t1l4n1q1l1o1q171k1p121q1o1q1p2f",
    "1o152l1o1f171j3f1ln91p79o51p8519151915191519151915191519151915191519151915191519151915191519",
    "15191519151915191519151915191519151915191519151925191519151915191519151915191519251915191519",
    "15191519151915191519151915191519151915191519151915191519151915191519151915191519152915191519",
    "35291519152915392549152915393529152915191519152915192519152915391519152925171935471918151918",
    "15191815191519151915191519151915191519251915191519151915191519151915191519251918151915391519",
    "15191519151915191519151915191519151915191519151915191519151915191519151915191519151915191519",
    "1519151915191519151975291529251915491519151915191519F2517r5i64oc6eo567o161o16hoQ3c1915191516",
    "1o19152016351l19402o191l391019102915h91099D1519253935191519151915191519151915191519151915191",
    "51915195519151p19152925T19Q15191519151915191519151915191519151915191519151915191519151915191",
    "519151q5c2b191519151915191519151915191519151915191519151915191519151915191519151915191519151",
    "91519151915191519151915191529151915191519151915191519251915191519151915191519151915191519151",
    "91519151915191519151915191519151915191519151915191519151915191519151915191519151915191519151",
    "91519151915191519151915191519151915191519151915191519151915191510G1920166lJ151l1h202q1n10N1c",
    "1h1c1l2c1l2c1l1c80r740472lb0623p2l1n2l2qbc1l123lA1716a7lcad4l271cD371l177c121q6c262c1q4c27ad",
    "372q17el1012171cu7rc20Z27bc17e0adB179c261q3l16201c2nm74c169c163c165c20fl10p73c201l10b750o71o",
    "671022509cJ1716oc12A1c1aW171c1a1c173a8c4a1c2a177ca72c2lad1l16f71c2a1087202720m71077101730472",
    "01c173a4c202a202a1c17801a402710372c20ad272n6f1q1n171l1c202c1a1067402720m71077102710271027201",
    "c103a2c402c203c301c7047101770ad2c371c1la02c1a1097103710m7107710271057201c173a5c102c1a102a1c2",
    "017f0272c20ad1l1n70176c101c2a1087202720m7107710271057201c171a1c1a4c202a202a1c702c1a402710372",
    "c20ad1q176fa01c171067303710473027101710273027303730c7402a1c2a303a103a1c2017601ae0ad3f6q1n1q5",
    "01c3a1c87103710n710g7201c173c4a103c104c702c1037201720272c20ad701l7f1q171c2a1l87103710n710a71",
    "057201c171a1c5a101c2a102a2c702a602710272c20ad10271ac02c2a97103710J172c173a4c103a103a1c171q40",
    "371a7f372c20ad9f1q67101c2a10i730o7109710172077301c403a3c101c108a60ad202a1lc0Q171c277c401n671",
    "68c1lad2lF10271017105710o7101710a71c279c1720571016107c10ad2047A10173qfl1q1l3q2c6qadaf1q1c1q1",
    "c1q1c1m1i1m1i2a8710E1740ec1a5c1l2c57bc10E1c108q1c6q102q5l4q2lF10L172a4c1a6c1a2c2a2c17ad6l672",
    "a2c473c173a277a374cd71c2a2c6a1c171aad3a1c2qG191019501920L151l1635Ja7104720771017104720J17104",
    "720B17104720771017104720f710Z17104720D27203c9lkf30g7aq60W292065201hMj71q1lh71tq71m1i30L273l3",
    "e8770i73c1a90j72c1a2l90i72cc0d71037102cc0U172c1a7c8a1c2abc3l163l1n171c20ad60af606l1h4l3c121c",
    "ad60D1716V1770572cC171c1750G27a0v7103c4a2c3a402a1c6a3c401q302ladu72057b0M1740q760ad1f30C1qn7",
    "2c2a1c202lV171a1c1a7c101c1a1c2a8c6aac201cad60ad607l166l20ec1bgcR104c1aP171c1a5c1a1c5a1c2a871",
    "02lad7laq9c9q3l2c1au71a4c2a2c1a3c27adM171c1a2c3a1c1a3c2a804lE178a8c2a2c305lad3037adu7662l951",
    "91550L1920398l803c1ldc1a7c471c671c271a2c1750M15_16d516C15F16A2c19151915191519151915191519151",
    "91519151915191519151915191519151915191519151915191519151915191519151915191519151915191519151",
    "91519151915191519151915191519151915191519151915191519151915191519151915191519151915191519151",
    "91519151915191519151915191519151915191519151915191519151915191519151915191519151915199519151",
    "91519151915191519151915191519151915191519151915191519151915191519151915191519151915191519151",
    "91519151915191519151915191519151915191519151915191519151915191519151915191519151915191519151",
    "9151995896520692085898589652069208510191019101910198589e52085888588858855102549181o153o35102",
    "549183o45202549103o85593o2035102549182o10bt526h2l1k1j1m2k1j1m1k8l1r1s521t9l1k1j4l2g3l1p1m1ib",
    "l1p1l1gal1t5210a21f16206f3p1m1i16af3p1m1i10d630B1nf0dc4b1c3bccf02q194q192q15392539151q192q1p",
    "596q191q191q191q491q15491547152q25295p19451q1p2q151qgfD1e19154e1f2q405p5q2p4q1p2q1p2q1p7q1pv",
    "q2p2q1p1q1pvqM8p8q1m1i1m1ikq2p7q1m1iR2q1puqppI1q6pI2qm0bql0y1fO2qmfX5q1p9q1pW1q8pP3q1pY7q1m1",
    "i1m1i1m1i1m1i1m1i1m1i1m1iufM1q5p1m1ivp1m1i1m1i1m1i1m1i1m1igpA8qD4p1m1i1m1i1m1i1m1i1m1i1m1i1m",
    "1i1m1i1m1i1m1i1m1i_1p1m1i1m1iA1p1m1iC8pQ1qlp2q6pH1q20A1q10J3qQ19Q151915392519151915191549151",
    "92519652639151915191519151915191519151915191519151915191519151915191519151915191519151915191",
    "51915191519151915191519151915191519151915191519151915191519151915191519151915191519151915191",
    "51915191519151915191519256q191519153c1915504l1f2lG151015501520Y1770161le01cn7907710771077107",
    "7107710771077107710A1c2l1k1j1k1j3l1k1j1l1k1j9l1h2l1h1l1k1j2l1k1j1m1i1m1i1m1i1m1i5l16al2h4l1h",
    "1l1mdl2q3l1m1i1m1i1m1i1m1i1hC10qq10Z2qc0W6qq0gq1t3l1q16171e1m1i1m1i1m1i1m1i1m1i2q1m1i1m1i1m1",
    "i1m1i1h1m2i1q9e4c2a1h562q3e16171l2q10W27202c2o26171hw271l361750L1710-27102q4faqA17G1q901qg7v",
    "q10afuq8f1qffA1qafH1qffAaqAO67A2qVQk716XD1730X1q90I17662lM87163lg7ad27k019151915191519151915",
    "191519151915191519151915191519151915191519151915191519151915191519151915171c3b1lac1l16191519",
    "15191519151915191519151915191519151915191519151915262cG27ae2c6l80no962o191519151915191519151",
    "91519351915191519151915191519151915191519151915191519151915191519151915191519151915191519151",
    "91519151915191519151915191519151915191516851915191529151915191519151915162o19151915171915193",
    "51915191519151915191519151915191519151915591559151915191519151915191519151915491519152915201",
    "9151015101519151915191519l0361915172615771c371c471cn72a2c1a4q1c306f2q1n1q60U174l802aS17ga2c8",
    "02lad60ic673l171l271cads78c2ln7bc2ab01lt7303c1aP171c2a4c2a2c3adl1016ad402l571c1697ad5710J176",
    "c2a2c2a2c90371c871c1a20ad204lg716673q171a1c1aS171c173c272c572c171c17o027162lb71a2c2a2l17261a",
    "1ca067206720679077107710L151o4695162o40Q25D172a1c2a1c2a1l1a1c20ad60Eza7c0n740R1740AA24AI63Ob",
    "720K37G1075c05550171ca71pd7105710171027102710M37hog0Lb71i1mgqA2720W17701qA10c71n3qgc7l1m1i1l",
    "60gc1l2h2g1m1i1m1i1m1i1m1i1m1i1m1i1m1i1m1i2l1m1i4l3g3l104l1h1m1i1m1i1m1i3l1p1h3p101l1n2l4057",
    "10H472012103l1n3l1m1i1l1p1l1h2lad2l3p2lq91m1l1i1o1g1oq51m1p1i1p1m1i1l1m1i2la716N1726v7306720",
    "6720672037302n1p1o1q2n101q4p2qa0322q20c710q710j7102710f720e7C10x37503l40N1f309qV1e4fhq2f3q10",
    "dq301qP10N1q1cC40t730R17f01crf40A174f90k71e871e50G175c50u7101lE1740871l5eK10I19I15O2720ad60E",
    "1940E1540I1780U17b01lb910f91079102910b510f51075102530U17c0X9790m7a087o06610K161096F206720171",
    "0M171027301720n7101l8fn72q7fv7809fQ10j71027505fm76f301lq7501lA20Y17402f27gf20O1f173c102c504c",
    "47103710t7203c401c9f709l70t72f1lt73fA10871qs72c405f7l90W17307lm7208fj7508fi7704lc07fQ20J27X1",
    "0T19d0T15706fE174c80ad60ad471617m9305c1h16m5802pQ60vf10K17102c1h2027g037X104ct7af1780m7bc4f5",
    "lm0i74c4lG10l77fk0n7901a1c1aV17fc7l40kfad1c272c17903c1aN173a4c2a2c2l124l1ca01220p770ad603cE1",
    "75c1a8c10ad4l172a1780D171c2l17902c1aQ173a9c2a474l4c1l1a1cad171l173l10kfb0i710p73a3c2a1c1a2c6",
    "l1c271c-10771017104710f710a71l60P171c3a8c50ad602c2a1087202720m7107710271057102c172a1c4a202a2",
    "03a2017601a50572a207c305cb0a71017201710G1710173a6c101a201a104a102a1c1a1c171c172l102l802ct0V1",
    "73a8c2a3c1a1c475lad2l101l1c37u0Q173a6c1a1c4a2c1a2c271l1780adG50P173a4c204a2c1a2cnl472cC10Q17",
    "3a8c2a1c1a2c3l17b0ad60dlj0L171c1a1c2a6c1a1c171l60ad60kds0r7201c1a1c2a4c1a5c40ad2f3l1q77Z50M1",
    "73a9c1a2c1lE30A19A15ad9fc08720172087102710o76a102a202c1a1c171a171a1c3l90adG208720H173a4c202c",
    "4a1c171l171ar017acI176c1a174c8l1c80176c2a3cO17dc1a2c3l175ld0J2770alW50B171le0ad609710F171a7c",
    "106c1a1c175la0adjf302lu720mc101a7c1a2c1a2cJ2077102710G176c301c102c107c171c80ad6067102710A175",
    "a102c102a1c1a1c1770adW90j72c2a2l702c171ad710C172a5c302a1c1a1cdlad1cV2017f0lf8q4nhqd01lws7G30",
    "P3e105lb0E67MS20B372ld0QB17g21c67fca0xy3750Hi7ZV60u7cc3a3cadGW10Zh770v710ad402lP2710ad60u720",
    "5c1la0Q177c5l4q461l1qa0ad107f10l750j7Qd036I17263ladG60A19A15nf4lF30L27401c17X1a704cd6A20261l",
    "161cb02ae0Y_5780WG17J10a7HX80461076102610D97f017t0372017e04780Mc7EI20L3750d7309770a7201q2c1l",
    "42yw30Q7qad60UdqM20O1c20nc90U3qy10W7qa0H1q20y1q2a3c3q6a828c2q7cuq4cz1ql0C2q3c1qw30kfc0kfc0X2",
    "q90pfH40q9q5q97510i5q9q51910292019202920491089451015107510b5q9q52910492089107910q52910491059",
    "1019307910q5q9q5q9q5q9q5q9q5q9q5q9s520p91pp51p65p91pp51p65p91pp51p65p91pp51p65p91pp51p651915",
    "20S1dAgqX1c4qS1c8q1ceq1c2q5lf05c10fcQC10a517k56065V607c10hc207c102c105c50-16B101cQ30N17307c7",
    "620ad40171qAa0u71ch0M174cad501nQe0r7164cadW60u72c17ad401lAf0771047102710f710F67209f7cJ10C19C",
    "157c1640ad402lRo0x1f1q3f1n4fM20N1f1qffC604710r710271017201710a710471017101760174017101710171",
    "0371027101720171017101710171017102710172047107710471047101710a710h75037105710h7U102pO80M1q40",
    "E3qc0fq20fq10fq10F1qa0dfB5qY10tqd0M1q409q702qe06qw40x7q5oYmq40hq30dq30X3q40_2q60cq401qf0cq40",
    "Y1q80aq60I1q80uq20cq402q-10Uaqc0eq20dq30aq50Y1q70fq20bq609q70T4q10y2qadGA10AXJ17A10wB4760-67",
    "20CU57e0RJ77f0Oj7CN20-g7CP10Lw4750AD47RCXl012u0A32A40Q7cQQ_10-__1320-__1320"]

/-- The code points of the categories that have one of the given abbreviations. -/
def codes (names : List String) : CodeSet :=
  CodeSet.ofRuns (CodeSet.unpack table) fun place =>
    match abbreviations[place]? with
    | some name => names.contains name
    | none => false

/-- The long names, written without case, blanks and underscores, and what they abbreviate. -/
def longNames : List (String × List String) :=
  [("c", ["Cc", "Cf", "Cn", "Co", "Cs"]),
   ("casedletter", ["Ll", "Lt", "Lu"]),
   ("cc", ["Cc"]),
   ("cf", ["Cf"]),
   ("closepunctuation", ["Pe"]),
   ("cn", ["Cn"]),
   ("cntrl", ["Cc"]),
   ("co", ["Co"]),
   ("combiningmark", ["Mc", "Me", "Mn"]),
   ("connectorpunctuation", ["Pc"]),
   ("control", ["Cc"]),
   ("cs", ["Cs"]),
   ("currencysymbol", ["Sc"]),
   ("dashpunctuation", ["Pd"]),
   ("decimalnumber", ["Nd"]),
   ("digit", ["Nd"]),
   ("enclosingmark", ["Me"]),
   ("finalpunctuation", ["Pf"]),
   ("format", ["Cf"]),
   ("initialpunctuation", ["Pi"]),
   ("l", ["Ll", "Lm", "Lo", "Lt", "Lu"]),
   ("lc", ["Ll", "Lt", "Lu"]),
   ("letter", ["Ll", "Lm", "Lo", "Lt", "Lu"]),
   ("letternumber", ["Nl"]),
   ("lineseparator", ["Zl"]),
   ("ll", ["Ll"]),
   ("lm", ["Lm"]),
   ("lo", ["Lo"]),
   ("lowercaseletter", ["Ll"]),
   ("lt", ["Lt"]),
   ("lu", ["Lu"]),
   ("m", ["Mc", "Me", "Mn"]),
   ("mark", ["Mc", "Me", "Mn"]),
   ("mathsymbol", ["Sm"]),
   ("mc", ["Mc"]),
   ("me", ["Me"]),
   ("mn", ["Mn"]),
   ("modifierletter", ["Lm"]),
   ("modifiersymbol", ["Sk"]),
   ("n", ["Nd", "Nl", "No"]),
   ("nd", ["Nd"]),
   ("nl", ["Nl"]),
   ("no", ["No"]),
   ("nonspacingmark", ["Mn"]),
   ("number", ["Nd", "Nl", "No"]),
   ("openpunctuation", ["Ps"]),
   ("other", ["Cc", "Cf", "Cn", "Co", "Cs"]),
   ("otherletter", ["Lo"]),
   ("othernumber", ["No"]),
   ("otherpunctuation", ["Po"]),
   ("othersymbol", ["So"]),
   ("p", ["Pc", "Pd", "Pe", "Pf", "Pi", "Po", "Ps"]),
   ("paragraphseparator", ["Zp"]),
   ("pc", ["Pc"]),
   ("pd", ["Pd"]),
   ("pe", ["Pe"]),
   ("pf", ["Pf"]),
   ("pi", ["Pi"]),
   ("po", ["Po"]),
   ("privateuse", ["Co"]),
   ("ps", ["Ps"]),
   ("punct", ["Pc", "Pd", "Pe", "Pf", "Pi", "Po", "Ps"]),
   ("punctuation", ["Pc", "Pd", "Pe", "Pf", "Pi", "Po", "Ps"]),
   ("s", ["Sc", "Sk", "Sm", "So"]),
   ("sc", ["Sc"]),
   ("separator", ["Zl", "Zp", "Zs"]),
   ("sk", ["Sk"]),
   ("sm", ["Sm"]),
   ("so", ["So"]),
   ("spaceseparator", ["Zs"]),
   ("spacingmark", ["Mc"]),
   ("surrogate", ["Cs"]),
   ("symbol", ["Sc", "Sk", "Sm", "So"]),
   ("titlecaseletter", ["Lt"]),
   ("unassigned", ["Cn"]),
   ("uppercaseletter", ["Lu"]),
   ("z", ["Zl", "Zp", "Zs"]),
   ("zl", ["Zl"]),
   ("zp", ["Zp"]),
   ("zs", ["Zs"])]

/-- The categories that a folded name stands for. -/
def named? (name : String) : Option (List String) :=
  longNames.lookup name

end EventSieve.Text.Category
