import EventSieve.Text.CodeSet

/-!
# Breaks in texts

How the character standard finds the breaks between the graphemes, the words and the sentences
of a text: every code point has one role for each of the three. The code points without a role
of their own have no name.

## Main definitions

* `Break.Roles` — the roles of code points for one kind of break
* `Break.graphemes`, `Break.words`, `Break.sentences` — the three kinds
* `Break.Roles.codes?` — the code points with the role of a name
-/
namespace EventSieve.Text.Break

/-- The roles of code points for one kind of break. -/
structure Roles where
  /-- The names and abbreviations of the roles, written without case and underscores, each with
  the place of its role; places count from one. -/
  names : List (String × Nat)
  /-- The runs of the code space, each as its length and the place of its role; runs without a
  role have the place zero. -/
  table : String

/-- The code points with the role of a folded name. -/
def Roles.codes? (roles : Roles) (name : String) : Option CodeSet :=
  (roles.names.lookup name).map fun place =>
    CodeSet.ofRuns (CodeSet.unpack roles.table) (· == place)

/-- The runs of `Grapheme_Cluster_Break`. -/
def graphemesTable : String :=
  String.join [
    "a2152211i2_20B12d012Si0Q33T8073H80N131013102310231013Y1068a0b31012O10l3g013F3073181063202310",
    "43B10181013u0r3x20b3w10939013o043109310331053L1033U10285093K10o318A131aW10131a13103a834a132a",
    "1073a023t0132aY101310132a43202a202a139013a023q01320231aY1013103a23402320333013u0233013b0231a",
    "Y1013103a5310231a102a13k023m06310132aY101310231a43202a202a137033a023u013x10131a132a303a103a1",
    "39013I10133a13X101310334a103310437023b023t0132aY1013101a231a132a103310437023b023f01ac0232aX1",
    "02310132a43103a103a13188013a023t0132aG201340132a331013107a13i02az1013101a73c083C3013101a93b0",
    "73J2023r01310131013402aR10e31a53102350b310E139013G30431a6310232a23n02a234033g043d013101a2360",
    "13f013C30A34I2cY2bza033St043s033t023u023A20231a738a132ab39013N10331213V3023C1013W30334a233a4",
    "02a136a33x60232a13Z101a131a731013101320836aa32013Q10v3R10431aP10a34a33G1093c0231au01a432a63Y",
    "10131a233a131a53Q108a832a23Y403310d31a7340136013201a23G60A23Lg012131d22o072R10g2A30B13-_2033",
    "N4013A30A13Kh063J3023UOt04310a3A1023Q2023Q801330134013n02a231a4013T202aS10ga23q0i3d013G1083p",
    "0b31a13c0t430331aP10132a432a232a13E1013D20632a232a23c01380131aO1013T10131033202350231013J101",
    "a232a501a13M702a132a132a101a13i016r716r716r716r716r716r716r716r716r716r716r716r716r716r716r7",
    "16r716r716r716r716r716r716r716r716r716r716r716r716r716r716r716r716r716r716r716r716r716r716r7",
    "16r716r716r716r716r716r716r716r716r716r716r716r716r716r716r716r716r716r716r716r716r716r716r7",
    "16r716r716r716r716r716r716r716r716r716r716r716r716r716r716r716r716r716r716r716r716r716r716r7",
    "16r716r716r716r716r716r716r716r716r716r716r716r716r716r716r716r716r716r716r716r716r716r716r7",
    "16r716r716r716r716r716r716r716r716r716r716r716r716r716r716r716r716r716r716r716r716r716r716r7",
    "16r716r716r716r716r716r716r716r716r716r716r716r716r716r716r716r716r716r716r716r716r716r716r7",
    "16r716r716r716r716r716r716r716r716r716r716r716r716r716r716r716r716r716r716r716r716r716r716r7",
    "16r716r716r716r716r716r716r716r716r716r716r716r716r716r716r716r716r716r716r716r716r716r716r7",
    "16r716r716r716r716r716r716r716r716r716r716r716r716r716r716r716r716r716r716r716r716r716r716r7",
    "16r716r716r716r716r716r716r716r716r716r716r716r716r716r716r716r716r716r716r716r716r716r716r7",
    "16r716r716r716r716r716r716r716r716r716r716r716r716r716r716r716r716r716r716r716r716r716r716r7",
    "16r716r716r716r716r716r716r716r716r716r716r716r716r716r716r716r716r716r716r716r716r716r716r7",
    "16r716r716r716r716r716r716r716r716r716r716r716r716r716r716r716r716r716r716r716r716r716r716r7",
    "16r716r716r716r716r716r716r716r716r716r716r716r716r716r716r716r716r716r716r716r716r716r716r7",
    "16r716r716r716r716r716r716r716r716r716r716r716r716r716r716r716r716r716r716r716r716r716r716r7",
    "16r716r716r716r716r716r716r716r716r716r716r716r716r716r716r716r716r716r716r716r716r716r716r7",
    "16r716r716r716r716r716r716r716r716r716r716r716r716r716r716r716r7c0nc40R1bCZ8013Bn0g3g0g3P601",
    "2-4023Q20c2Bg013C7013V4053GU103310235043I10334013F5023zh043B2053z9023P2043G20b3R1043w301a131",
    "aV10f3J10132023a0331aN103a432a2320184013a018S1033E10531a83g02aM1013c0231aQ103a931a1310285043",
    "101a13y203a332a4360132013z40133a83l0232aX102310131a134a202a202a139013a02a20733053D20132a6310",
    "13201310331a102a331813e023S203a832a331a13n013R20132a631a132a131a231a23L70132a43204a231a23r02",
    "3S203a832a131a23K30131a132a83F30131a1320431a53A803a931a23V70135a102a2043181a181a13N403a43202",
    "34a13301as0a3I10631a1843801390632a33I1068d31a23Vc01a7310631a13S20m3101a731a231a23w3063301310",
    "2310731813C205a1023102a131a13xa0232a9023181aQ102a53302a33n013VG50g21360f3IGb0c33a33AO2053x10",
    "73Mh01c304cEf01310X1a7043R2013b023LFj0231042yS40O1320n3-g053306382832073u043U4033xz10X1340S1",
    "38013e013m05310f3QK107310h3207310231053E3013A5073Xb013z1043yf043-7023An073N3073xE20q9xf053AA",
    "Do0A12A33A42Q73QQ32AAy50"]

/-- The roles for the breaks between graphemes. -/
def graphemes : Roles where
  names :=
    [("cn", 2), ("control", 2), ("cr", 1), ("ex", 3), ("extend", 3), ("l", 4), ("lf", 5),
     ("lv", 6), ("lvt", 7), ("pp", 8), ("prepend", 8), ("regionalindicator", 9), ("ri", 9),
     ("sm", 10), ("spacingmark", 10), ("t", 11), ("v", 12), ("zwj", 13)]
  table := graphemesTable

/-- The runs of `Word_Break`. -/
def wordsTable : String :=
  String.join [
    "a0192d12i01h1013401g401b101c10ae1a1b50q1401510q1a01dE101120167011101a201150n110v110Af160C11Q",
    "3451102120411b1160111a31101110k110T2110L411074G5110G11204110111aJ111b1160N141014102410241014",
    "80r74047111ab06e602b20b4101630L11l4ae101e1b102114D311011741e10642124104421ae312011f02114u1r4",
    "20Z21b411e0aeB119421201b1011201420m144119411341154i0p13440b150o11061102e5094K11o41eB14W11341",
    "1i41174a12420ae10g1341081202120m11071101130412014117420242034118014402110312420ae21a01110142",
    "0341061402120m11071102110211021201410544024203430147041101170ae243114b0341091103110m11071102",
    "1105120141184103410342011f0212420ae90116410341081202120m110711021105120141174202420347034402",
    "110312420ae1011g014111061303110413021101110213021303130c140543034104420116014e0aeg0548110311",
    "0n110g1201411741034104470241031201120212420aeg011341081103110n110a11051201411741034104470246",
    "02110212420ae102114c04491103110J11241174103410441150311470312420aea061103410i130o11091101120",
    "71301440641014108460ae2024z10142074c08410aeX20142094b07410aeG1011n02460aeb014101410144024811",
    "0E1140k4102451b410E149014E30k410aec0444034103420743044d0c41014ae4420G111011501120L1110Na1104",
    "120711011104120J11104120B11104120711011104120f110Z11104120D212034A10g1g0W21206130Mj120h11hq1",
    "50L2130b170i14490j134b0i124c0d110311024A20A14901420aeB10341614ae60Z21705124C11141150G21a0v11",
    "0c440c4a0aeA40beF10n154Z10a410t42014ae60aem0v4R1054P11h48130aeh094c034u1d421aeM11e4c0E11k480",
    "ae3031aeE1120b150L112031g03410l44114611421341150A61A24W81206120G112061208110111011101110v120",
    "V1110711011303110713041206140d150311071307h103h10141i26802ca01c201a2d5615f025301bf015a01h561",
    "0a61011d011g0d1T10B14h011401120a110113051601110111011104110b1204150514011h0J11Np0U11WY10F716",
    "0413421c0G111011501120Y117011f014n19071107110711071107110711071107110A14P1011Qe01h4011E10641",
    "0585021y20242830x28104850L1110-21h0A11Q10g8Q60P1810Y28IFr0NE11D20O1120N8130g1ae21k0P114410a4",
    "10v124Q2124m0G61202110111081l0g11431144114n1544014j0U11c024S11i4a0ae60i4613011102114aes18420",
    "n1d4c0t13044P11e4e011aeb014a0ae60J11e4903114812420aeB1034S10141034202450241014u0b154203124a0",
    "61206120619071107110w1160T3184102420ae60Eza1c0n140R11EY8071c051501714a710d710571017102710271",
    "0a7C31B10Lb1i0A2120W11I10c140g4301ac0g43025o0351b101c101b1aq05110H412016701c401b101c10ae1a1b",
    "50q1401510q1b0Y1824v13061206120612031s03640c110q110j1102110f120e1C10x31F20V11I4014C40t130R11",
    "f014v0A11d0u150G115450u120E1140811051K10-4120ae60E1140E1140I1180U11c0b110f11071102110b110f11",
    "071102130U11c0X9190m1a081o06110K111091F2061201110M111021301120n1a0n190v1B20j11021a0m1a0q1G20",
    "Y116021A2011341024504441103110t120344014A10t130t1D108110s124p0W11a0m1a0j1d0i1O30J21X10T11d0T",
    "11d0E114480ae60aes1305410n1w70K1110243021g031X1044t1a01180m1b4v0i144K10l1r0n19034V11f4v0ae14",
    "2124119044N11b4201e4014a01e20p170ae6034E11e410ae4011241180D111420119034Q11e44140441024ae1110",
    "11D10i110p1c460142114-10711011104110f110a170P11c450ae60441081202120m110711021105110241174202",
    "420342011601450512420743054b0a11011201110G111011941014201410441054111411d024t0V11i44150ae401",
    "431u0Q11k421101180aeG50P11742094n04124C10Q11h43011b0aeG10L11d41170ae60keZ10f440aeG60M11f4F30",
    "A21ael08120112081102110o1641024204411141124c0aeG208120H1174207411101114r011a4I11741144801480",
    "11b4O11g43011i0J21H60B11f0ae609110F1184108411f0aeo0u120m410e4J2071102110G1164301410241074111",
    "480ae6061102110A1154102410541170aeW90j14490241114d110C11743054d0ae14V2011P20ws1G30P31h0E61MS",
    "20B31f0QB11g61461f4a0xy3150Hi1ZV60u1i4aeGW10Zh170v110ae60P2110ae60u12054b0Q11749041c0ae90l15",
    "0j1Qd0N1130aeG60A21A40L21401411X147044d1A2021101114b024-_f048107810281018_8038S1018e048YU20L",
    "3150d1309170a130241046MC40aeGg0O1420n4-g054306486842074u044U4034xd0V2110H2110212011202120411",
    "0c11011107110B2110412081107110s1104110511011307110Ua120p110p110v110p110v110p110v110p110v110p",
    "1108120S1eAg0X1440S148014e014m05410f4QC10v16061V607410h420741024105450-11B1014Q30N1130747120",
    "ae4011Ba0u114h0M1144aeWe0s144aeW60u12411aeFf0711041102110f110F61b074J10E21741140aeGF104110r1",
    "10211011201110a11041101110116011401110111011103110211011201110111011101110111021101120411071",
    "10411041101110a110h15031105110h1Uj0q160q160q1y20qfxf054Q_10aeHABo016u0A34A40Q74QQ_50"]

/-- The roles for the breaks between words. -/
def words : Roles where
  names :=
    [("aletter", 1), ("cr", 2), ("doublequote", 3), ("dq", 3), ("ex", 5), ("extend", 4),
     ("extendnumlet", 5), ("fo", 6), ("format", 6), ("hebrewletter", 7), ("hl", 7), ("ka", 8),
     ("katakana", 8), ("le", 1), ("lf", 9), ("mb", 12), ("midletter", 10), ("midnum", 11),
     ("midnumlet", 12), ("ml", 10), ("mn", 11), ("newline", 13), ("nl", 13), ("nu", 14),
     ("numeric", 14), ("regionalindicator", 15), ("ri", 15), ("singlequote", 16), ("sq", 16),
     ("wsegspace", 17), ("zwj", 18)]
  table := wordsTable

/-- The runs of `Sentence_Break`. -/
def sentencesTable : String :=
  String.join [
    "901d162d12i01d1b134033202a1110a82a301b10qe13101330q7131013701cq01d9017131015701740171340ne10",
    "7eo710871e171e171e171e171e171e171e171e171e171e171e171e171e171e171e171e171e171e171e171e171e17",
    "1e171e171e171e171e171e171e271e171e171e171e171e171e171e171e271e171e171e171e171e171e171e171e17",
    "1e171e171e171e171e171e171e171e171e171e171e171e171e171e171e172e171e171e372e171e172e173e274e17",
    "2e173e372e172e171e171e172e171e271e172e173e171e172e27191e37492e172e172e171e171e171e171e171e17",
    "1e171e171e271e171e171e171e171e171e171e171e171e272e171e173e171e171e171e171e171e171e171e171e17",
    "1e171e171e171e171e171e171e171e171e171e171e171e171e171e171e171e171e171e171e171e171e772e172e27",
    "1e174e171e171e171e171eF2719E17792740c9e05770191019h0Q341e171e1719101e1720471a1e601e103e101e1",
    "02e17he109eD171e273e371e171e171e171e171e171e171e171e171e171e171e171e571e17101e172e27T1eQ171e",
    "171e171e171e171e171e171e171e171e171e171e171e171e171e171e171e171e1710741e171e171e171e171e171e",
    "171e171e171e171e171e171e171e171e171e171e171e171e171e171e171e171e171e171e171e171e171e172e171e",
    "171e171e171e171e171e271e171e171e171e171e171e171e171e171e171e171e171e171e171e171e171e171e171e",
    "171e171e171e171e171e171e171e171e171e171e171e171e171e171e171e171e171e171e171e171e171e171e171e",
    "171e171e171e171e171e171e171e1710G1e2019301a20J171b70N14101410241024101480r94059c068602a20b41",
    "0153bL19l4a81028102914D391b19741810642924104429a83920193bc0151914u9r420Z29b419e0a8B199429201",
    "a1b19201420m944199419341954901b101b302b10p93440b950o9106910285094K19o418B14W193419i41974a924",
    "2ba810g9341089202920m91079101930492014197420242034198014402910392420a829a0191014203410694029",
    "20m91079102910291029201410544024203430147049101970a8243914b0341099103910m9107910291059201419",
    "84103410342019f0292420a890196410341089202920m910791029105920141974202420347034402910392420a8",
    "1019g014191069303910493029101910293029303930c940543034104420196014e0a8g05489103910n910g92014",
    "19741034104470241039201920292420a8g019341089103910n910a9105920141974103410447024602910292420",
    "a8102914c04499103910J19241974103410441950391470392420a8a069103410i930o9109910192079301440641",
    "014108460a82024d0Q1914297450798410a8H10291019105910o9101910a91429941920591019107410a82049A10",
    "19n02460a8b0141014101443248910E1940k4102459b410E149014Z10L19k419a82b4069444934193429743944d9",
    "c41914a84420G1e101e501e20L191017Ma9104920791019104920J19104920B19104920791019104920f910Z1910",
    "4920D292034201b402bn0g9g0W2e206730Mj9101bh91dq92330L2930b970i94490j9342b90i924c0d910391024c0",
    "U19A142b101940191420a8o01a1b401a1b10341514a860Z29705924C19141950G29a0v910c440c4802ba8u92059b",
    "0M1940q960b8F10n95440V19a410t42014a860a8d0194b40v4R1054P19h489102ba82b202bb094903b34u9d429a8",
    "M19e4c0E19k4302b30a83039a8E192b971e1750L192039g03410l44914691429341950A67A241e171e171e171e17",
    "1e171e171e171e171e171e171e171e171e171e171e171e171e171e171e171e171e171e171e171e171e171e171e17",
    "1e171e171e171e171e171e171e171e171e171e171e171e171e171e171e171e171e171e171e171e171e171e171e17",
    "1e171e171e171e171e171e171e171e171e171e171e171e171e171e171e171e171e171e171e171e171e171e171e17",
    "1e171e971e171e171e171e171e171e171e171e171e171e171e171e171e171e171e171e171e171e171e171e171e17",
    "1e171e171e171e171e171e171e171e171e171e171e171e171e171e171e171e171e171e171e171e171e171e171e17",
    "1e171e171e171e171e978e67206e20878e878e67206e2087101e101e101e101e878ee720878e878e878e5710275e",
    "1017303710275e304720274e40875e503710275e30bd152425302a30834011302c551d9023102b70233bl01d5510",
    "a51017b02317d02310d7T10B14h01e401e20173e273e17101e305e601e101e101e104e10174e17491720272e501e",
    "474017h0geg7391e1749_b043t023Lc0qeq7Rj06370e3P2023v0a3Tc0m3_1043A1023Cg0Q1eQ171e173e271e171e",
    "171e174e171e271e873e171e171e171e171e171e171e171e171e171e171e171e171e171e171e171e171e171e171e",
    "171e171e171e171e171e171e171e171e171e171e171e171e171e171e171e171e171e171e171e171e171e171e171e",
    "171e171e171e171e171e171e171e171e27601e171e17341e17503b40G171017501720Y197019f014n99079107910",
    "791079107910791079107910A14e3e02320a3401b19c01b5013g02b83Dd01d1a1b2039a320831033109964105920",
    "5940W292024203910w29104950L1910-29h0A19Q10g9Ag0AO69A20NUl9D20O19101bN89102bg9a829k01e171e171",
    "e171e171e171e171e171e171e171e171e171e171e171e171e171e171e171e171e171e171e171e171e17194410a41",
    "0191e171e171e171e171e171e171e171e171e171e171e171e171e171e3724Q2924101b301bv099201e171e171e17",
    "1e171e171e171e371e171e171e171e171e171e171e171e171e171e171e171e171e171e171e171e171e171e171e17",
    "1e171e171e171e171e171e171e171e171e171e171e171ea71e171e172e171e171e171e171e1719201e171e17191e",
    "171e371e171e171e171e171e171e171e171e171e171e175e175e171e171e171e171e171e171e171e174e171e172e",
    "17201e17101710171e171e171e171el0371e171937791439144914n9544014j0U19202b8024S19i4802ba860i469",
    "3019102914a8s984101bn9d4c0t93044P19e4702b5019a8605914a9a85910J19e4903914892420a8303bn9301934",
    "S1914193429245924191419o03920b9542b3924a069206920699079107910L1710e760Q27D19841b2420a860Eza9",
    "c0n940R19EI80Ob920K39G1077c057501914a910d9105910191029102910M39B10Lb923g0A2920W19I10c940g42a",
    "1b2a2b2370g4102a20g32023702a11102a2b1a63401ac05910H492015101b6023202a1110a82a301b10qe1310133",
    "0q713101310231b231a10Y1924v93069206920692039s03540c910q910j9102910f920e9C10x39F20V19I4014C40",
    "t930R19f014v0A19d0u950G195450u920E1940891059K10I1eI17O2920a860E1e40E1740I1980U19c0be10fe107e",
    "102e10b710f71077102730U19c0X9990m9a089o017293710K171097F2069201910M191029301920n9a0n990v9B20",
    "j91029a0m9a0q9G20Y196029A2019341024504449103910t920344014m02b80t930t9D108910s924p0W19a0m9a0j",
    "9d0i9O30J29X10T1ed0T17d0E194480a860a869me30541019m7w70K1910243029g039X1044t9a01980m9b4405bm0",
    "i9444bG10l9r0n99034V19f42bt0a8142924199044N19b420184b14a01820p970a86034E19e410a8103b19241980",
    "D191420199034Q19e4492b20441b24a8191019102bA10i910p9c42b102b10142914-10791019104910f910a91b60",
    "P19c450a860441089202920m910791029105910241974202420342019601450592420743054b0a91019201910G19",
    "10199410142014104410541914192bb024t0V19i4492b30a8401439u0Q19k429101980a8G50P19742094102b50fb",
    "4924C10Q19h42b1019b0a8G10L19d41970a860k8s0r920f440a8203b1079Z50M19f4F30A1eA17a8l089201920891",
    "02910o96410242044191419241b101b90a8G208920H1974207419101914r019a4I19741944302b30148019b4O19g",
    "4102b19i0J29H60B19f0a8609910F19841084192bd0a8o0u920m410e4J2079102910G1964301410241074191480a",
    "86069102910A1954102410541970a8W90j9442b70241914d910C197430542bb0a814V2019P20ws9G30P39h0E69MS",
    "20B39f0QB19g51469f4a0xy3950Hi9ZV60u9i4a8GW10Zh970v910a8402bP2910a860u920541ba0Q19742b70491bb",
    "0a890l950j9Qd0N19102ba8G60A1eA17o01bH30L29401419X147044d9A2029101914b024e0Y_5980WG19J10a9HX8",
    "0491079102910D99f019t0392019e04980Mc9EI20L3950d9309970a930241b45MC40a8Gg0O1420n4-g0543064858",
    "42074u044U4034xd0qeq7qe7710i7qeq71e102e201e202e204e108e471017107710b7qeq72e104e208e107e10q72",
    "e104e105e101e307e10q7qeq7qeq7qeq7qeq7qeq7qes720pe10p71067pe10p71067pe10p71067pe10p71067pe10p",
    "710671e1720S18Ag0X1440S148014e014301bi05410f4QC10a719k76067V607410h420741024105450-17B1014Q3",
    "0N1930747920a84019Ba0u914h0M1944a8We0s944a8W60u92419a8Ff0791049102910f910F69b074J10C1eC17741",
    "940a8GF104910r910291019201910a91049101910196019401910191019103910291019201910191019101910191",
    "02910192049107910491049101910a910h95039105910h9Uj0qe60qe60qeMH1033XL10a8GA10AXJ19A10wB4960-6",
    "920CU59e0RJ79f0Oj9CN20-g9CP10Lw4950AD49RCXl015u0A34A40Q74QQ_50"]

/-- The roles for the breaks between sentences. -/
def sentences : Roles where
  names :=
    [("at", 1), ("aterm", 1), ("cl", 3), ("close", 3), ("cr", 2), ("ex", 4), ("extend", 4),
     ("fo", 5), ("format", 5), ("le", 9), ("lf", 6), ("lo", 7), ("lower", 7), ("nu", 8),
     ("numeric", 8), ("oletter", 9), ("sc", 10), ("scontinue", 10), ("se", 12), ("sep", 12),
     ("sp", 13), ("st", 11), ("sterm", 11), ("up", 14), ("upper", 14)]
  table := sentencesTable

end EventSieve.Text.Break
