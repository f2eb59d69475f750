import EventSieve.Text.CodeSet

/-!
# Scripts

Every code point has one script; some are shared, and then their script extensions name the
scripts that use them.

## Main definitions

* `Script.codes` — the code points of a script
* `Script.extendedCodes` — the code points that a script uses
* `Script.named?` — the place of the script that a name or a four-letter code stands for
-/
namespace EventSieve.Text.Script

/-- The scripts, in the order in which the tables count them. -/
def scripts : List String :=
  ["Unknown", "Adlam", "Ahom", "Anatolian_Hieroglyphs", "Arabic", "Armenian", "Avestan", "Balinese",
   "Bamum", "Bassa_Vah", "Batak", "Bengali", "Bhaiksuki", "Bopomofo", "Brahmi", "Braille",
   "Buginese", "Buhid", "Canadian_Aboriginal", "Carian", "Caucasian_Albanian", "Chakma", "Cham",
   "Cherokee", "Chorasmian", "Common", "Coptic", "Cuneiform", "Cypriot", "Cypro_Minoan", "Cyrillic",
   "Deseret", "Devanagari", "Dives_Akuru", "Dogra", "Duployan", "Egyptian_Hieroglyphs", "Elbasan",
   "Elymaic", "Ethiopic", "Garay", "Georgian", "Glagolitic", "Gothic", "Grantha", "Greek",
   "Gujarati", "Gunjala_Gondi", "Gurmukhi", "Gurung_Khema", "Han", "Hangul", "Hanifi_Rohingya",
   "Hanunoo", "Hatran", "Hebrew", "Hiragana", "Imperial_Aramaic", "Inherited",
   "Inscriptional_Pahlavi", "Inscriptional_Parthian", "Javanese", "Kaithi", "Kannada", "Katakana",
   "Kawi", "Kayah_Li", "Kharoshthi", "Khitan_Small_Script", "Khmer", "Khojki", "Khudawadi",
   "Kirat_Rai", "Lao", "Latin", "Lepcha", "Limbu", "Linear_A", "Linear_B", "Lisu", "Lycian",
   "Lydian", "Mahajani", "Makasar", "Malayalam", "Mandaic", "Manichaean", "Marchen",
   "Masaram_Gondi", "Medefaidrin", "Meetei_Mayek", "Mende_Kikakui", "Meroitic_Cursive",
   "Meroitic_Hieroglyphs", "Miao", "Modi", "Mongolian", "Mro", "Multani", "Myanmar", "Nabataean",
   "Nag_Mundari", "Nandinagari", "New_Tai_Lue", "Newa", "Nko", "Nushu", "Nyiakeng_Puachue_Hmong",
   "Ogham", "Ol_Chiki", "Ol_Onal", "Old_Hungarian", "Old_Italic", "Old_North_Arabian", "Old_Permic",
   "Old_Persian", "Old_Sogdian", "Old_South_Arabian", "Old_Turkic", "Old_Uyghur", "Oriya", "Osage",
   "Osmanya", "Pahawh_Hmong", "Palmyrene", "Pau_Cin_Hau", "Phags_Pa", "Phoenician",
   "Psalter_Pahlavi", "Rejang", "Runic", "Samaritan", "Saurashtra", "Sharada", "Shavian", "Siddham",
   "SignWriting", "Sinhala", "Sogdian", "Sora_Sompeng", "Soyombo", "Sundanese", "Sunuwar",
   "Syloti_Nagri", "Syriac", "Tagalog", "Tagbanwa", "Tai_Le", "Tai_Tham", "Tai_Viet", "Takri",
   "Tamil", "Tangsa", "Tangut", "Telugu", "Thaana", "Thai", "Tibetan", "Tifinagh", "Tirhuta",
   "Todhri", "Toto", "Tulu_Tigalari", "Ugaritic", "Vai", "Vithkuqi", "Wancho", "Warang_Citi",
   "Yezidi", "Yi", "Zanabazar_Square"]

/-- The runs of the code space, each as its length and the place of its script in `scripts`. -/
def table : String :=
  String.join [
    "B2pqK26pqK2P1p1K2fp1K25pnK21pvK21pBeK2H1p5K25p2dkpQ3w14N11p3N1204N11p1N1401N11p1N11p3N1101N1",
    "10kN110_1N1eqgN1F4u2w1J5u10G1520S15203510X1X180rX1406X1b0541p641pe41p341pA141pa4bw1q41w1M341",
    "pC14eQ410y1Q4203Q4Q14S1x4e0x1J3203J3O1D420fD410sV2201V210bQ450v4102450L241pt4R2A14w1fA12pqA1",
    "4b108b202b20mb107b101b304b209b202b204b801b402b105b20pb203Q1106Q1402Q120mQ1107Q1102Q1102Q1102",
    "Q1201Q1105Q1402Q1203Q1301Q1704Q1101Q170hQ1a03O1109O1103O110mO1107O1102O1105O120aO1103O1103O1",
    "201O1f04O120cO1707O1103Y3108Y3202Y320mY3107Y3102Y3105Y3209Y3202Y3203Y3703Y3402Y3105Y320iY3a0",
    "2X4106X4303X4104X4302X4101X4102X4302X4303X430cX4405X4303X4104X4201X4601X4e0lX450dw4103w410nw",
    "410gw4209w4103w4104w4702w4103w4201w4204w420aw4709w4d_1103_110n_110a_1105_1209_1103_1104_1702",
    "_1602_1104_120a_1103_1c0dU2103U210T1U2103U2106U240gU220qU2103J410iJ430oJ4109J4101J4207J4301J",
    "4406J4101J4108J460aJ4203J4c0w1y4401psy4F102J2101J2105J210oJ2101J210nJ2205J2101J2107J210aJ220",
    "4J2A10I2z410E1z440H1z410E1z410fz4107z44p2z4F10A5D3G1J1101J1501J120L1J11p4J1A8T1J2H1104H1207H",
    "1101H1104H120J1H1104H120B1H1104H1207H1101H1104H120fH110Z1H1104H120D2H120A1H130qH160W2n206n20",
    "AkitM330L2C43pbC470mR4901R4lV12p90khc0dS4103S4102S4c0-2F220aF260aF2602A32p1A31pkA360Z2A370L1",
    "A350G2ia0vM210cM240cM2401M230cM2uT4205T4b0M1H340qH360bH3302H3A1F2sg202g_1U410tU420bU460aU460",
    "eU420vw1R10N2710S17A2N4U1a804aY1L230fL2303L2Q1N3bu50L1J1203J18N4803w11pdw11p7w14p1w16p1w13p2",
    "w11p50G1K25N11uR1K25N14K25N1dK21uG2K21N1A2w1A8K2mN1206N120G1N1206N1208N1101N1101N1101N110vN1",
    "20V1N110fN110eN1206N110jN1203N1109N110cp2w1X2p10bp1K220bp1K2fp10dK230B1pf0B1w1f0G1p1N13p2K26",
    "p1K2rp1K2hpJ1K23p40wkpm0bpl0AtpA8fUjp20A1p10J3pA3K1A1K2U3q507qG1J1101J1501J120Y1-4702-4e01-4",
    "nH1907H1107H1107H1107H1107H1107H1107H1107H110A1u-2pC10qS110Z2S1c0W6S1q0lp1S11p1S1pp9S14w12T1",
    "8p4S14p10W2Y1202w12p3Y11pw2A22p3A250L1d10-2T110gpA1dG1p901pgA2vT110A2pvT1R2pP1A21pY2A2I5pAO6",
    "S1A2pAQkS1NE1J530X1J590Q1P2M9E5k0A3uY2880C1pG3K23pD2K2202K2101K2108K2l0eK2N1P430ap60Y1-380G2",
    "E480cE460A1A1O1C21p1C2E1B4b01B4tT130O2z1101paz1402z1vD310X1m90em20am204mA1D3D2V4o05V4nw2a06H",
    "1206H1206H1907H1107H110L1K21p9K21N14K22p40Q2nO1w220aw260EzaT1c0nT140R1T1EI80ObS120K3S1G107K2",
    "c05550qX1105X1101X1102X1102X110aX1T34g0Lb42pQ2420W147014A10g4gw1ap60ew12uD1p10jp104p405410H4",
    "4201p10A1pqK26pqK2bpaA21pN1A22pvT1306T1206T1206T1203T1307p107pa05p20cO210qO210jO2102O210fO22",
    "0eO2C10x3O2503p40N1p309pP2N110dp301N1P10N1p1w1C40tQ230R1jf01w1rp40E1Q3903Q3rL150L1S350uD5101",
    "D5E1T340eT3K10Q2vQ1G4uw320aw360E1Z340E1Z340I1F180U1kb01kbF510fF5107F5102F510bF510fF5107F5102",
    "F530U1A5c0X9N290mN2a08N2o06K210K1K2109K2F206s201s10M1s102s301s201smZ1109Z1A1y3vE3809E3Q10jW1",
    "102W1505W1s_3301_3qR2501R2A20A1z2oy240ky220O1y24D2102D2508D2103D210tD2203D240aD2709D270A1V3A",
    "1R3A10H1W240cW290W163076my1208y1jx1508x1iA4704A4c07A4Q20J2W3X10T1P3d0T1P3706P3I1U180aU160G1I",
    "130tI1802I1Q60v410K1I5103I5202I5g034X1044I1U380K1K4m0qX3G10sok0nG190O2e40E1e901eD2-1a01-120p",
    "L470aL460V1l10il80H1S290A3F410kJ4b0iG210P1G2-107C3101C3104C310fC310bC360x1H250aH2604M1108M12",
    "02M120mM1107M1102M1105M1101w19M1202M1203M1201M1601M1507M1207M1305M1b0aC5101C5201C510G1C510aC",
    "5101C5201C5104C510aC5102C5802C5t0y2I3105I3u0I2_480a_4G50W1H420G1H4C10F2_2b0a_260dA3j0w1W460a",
    "W460kD3s0r220f240n2Z50y1C1E30T2H5c01H57B1201B1208B1102B110uB1102B120cB190aB1G208G320O1G320bG",
    "3r0I2K580T2M4d0giZ1z370aA1W50C1O4e0aO4609c10N1c10eca0tc30A1X220mX210eX2J207Y2102Y210M1Y2301Y",
    "2102Y2109Y280aY2606P1102P110F1P1102P1106P170aP1W90pT270hB210J1B230tB2V201P2f0S1X4d01X4wsrG30",
    "P3r105rb0E6rMS20D3td0WC1E1a0xy3E150Hi3ZV60w1R1GW10Zh870vB310aB3402B3P2Y410aY460u92069a0G2x3a",
    "0ax3107x310lx350jx3Qd0w1I2G60x2Z2F30L2-240Z1-270h-2A201Z41K32S11E2b02S1e0Y_5Z480AoZ4WeE2J101",
    "E29Z4HX804A2107A2102A2101A2_8Y13A2f01Y1t03Y1201A2e04A280McK3EI20L3D150dD1309D170aD1204D14pyw",
    "30w7p60UdpM20O1w120nw190U3py10W7pa0H1p20-1p3w1hp8w12p7w1up4w1z1pl0G2N1w30kpc0kpc0X2p90ppH40V",
    "2p10H2p102p201p202p204p10cp101p107p10B2p104p208p107p10sp104p105p101p307p10Uap20E9p20S1pMkI4f",
    "05I410fI4QC10vK2606K2V607K110hK1207K1102K1105K150-1uB101uQ30N1L330eL320aL3402L3Aa0vB5h0w1G55",
    "01G5Qe0K1F3W60L1O3401O3Af07H1104H1102H110fH110F6x220gx2J10M2140a14021Ro0E2pM20z1pC604410r410",
    "241014201410a4104410141014601440141014101410341024101420141014101410141014102410142044107410",
    "441044101410a410h45034105410h4U1024O80M1p40E3pc0fp20fp10fp10F1pa0O5pY10qp1Y12pd0M1p409p702pe",
    "06pw40Yup40hp30dp30X3p40_2p60cp401pf0cp40Y1p80ap60I1p80up20cp402p-10Uapc0ep20dp30ap50Y1p70fp",
    "20bp609p70T4p10G3pGA10AXJ1S1A10wB4S160-6S120CU5S1e0RJ7S1f0OjS1CN20-gS1CP10Lw4S150AD4S1RCXl01",
    "pu0A3pA40Q7w1QQ_50"]

/-- The ranges whose script extensions are not just their script: the gap before the range, the
number of code points after its first, the number of scripts, and their places in `scripts`. -/
def extensionTable : String :=
  String.join [
    "X50g6jqD1F1J1K1L1N1P1S1K2R2S2S3G4Eg07buA1K2P2y4B5a02dK2122dK2102K2P2902K2y4102dK2G108nquN1K2",
    "S3O4T4008nuN1K2Z3O4T4A5004nuK2-4005K1K2O4Q4y400bknquL1N1K2Z3Q4-4A5006qF1K1L1A2K2004uN1K2S300",
    "9qD1X1K2S3Q4T4-4A500a5uD1L1N1X1K2S3Q4T4002K2-4003D1K2Q4004nuK2Z3003nK2T4002K2O4002H1K2102K2O",
    "4003uK2A5104N1K2S3A5c02K2Q4205nD1A2K2Q4004nD1K2Q4002K2Q4703K2O4Q4002K2Q4103nK2Q4006knL1K2O4y",
    "4g01N1201N1i02K2Z3503kK2A54c1K2412qN1N802uS3002uK1012uK2002uK1B8035J1K1C4074I1U1J3Q4x4I5e074",
    "I1U1J3Q4x4I50034Q4x420814I1U1J3Q4x4I5A10914U1V2W2X3A4K4Q4aa24Q4a934x4I56024Q4D3024U1yj0dbA1M",
    "1O1Q1_1K2U2Y3F4X4w4_400cbA1M1O1Q1_1K2U2Y3X4w4_4h0lbA1C1M1O1P1Q1_1H2S2U2Y2G3O3Y3J4P4W4X4w4_40",
    "0nbA1C1M1O1P1Q1R1_1H2M2S2U2Y2G3O3Y3J4P4W4X4w4_4094A1C1-1S2W393blP4W392Q1C3W392O1G2W7d2M1X4S7",
    "93_1G3C5Qq93lD3T4R503J1K1K2PP121C4H214hV1R4S4L612A3-3102A3-3KG104bA1M1_1001A1004bA1M1_1003A1",
    "M1_1001A1012bA1002A1F4002bA1002A1F4006A1_1U2Y3X4w4001A1012A1F4011A1002A1F4002bA1061A1002A1G3",
    "002bA1011A1002bA1031A100bbA1M1_1U2G3Y3J4w4_4C5002A1M1004A1M1_1C5012bA1001b012A1M1001G3F611N1",
    "W103uK2Q4101Q4Uh03K2A3-3v0214a06jJ1K1Q2P3W3204jN1z2P3S403A1M1K2GJ302qK2o026W30076jJ1-1R2P3D4",
    "a01D140314P3102uK1Mdf2S1Z4107dS1T1Y1A2A3J5008dS1T1Y1A2A3-3J5005dS1T1Y1A2201S1118dS1T1Y1A2A3z",
    "4J5019dS1T1Y1A2P2A3z4J5056dS1T1Y1A2J5105dS1T1Y1A2076dS1T1Y1A2J5035dS1T1Y1A2a32dS1205dS1T1Y1A",
    "2042Y1A2105dS1T1Y1A2413S1Y1A2011S1Z232Y1A2302Y1A2w206dS1T1Y1A2J5002Y1A2T4f1S1A1F11S1902S1Z4Q",
    "1H11S1Y1Q11S1fb1S1T101S1Y2o1S1a41S1A3u1S1QTs02uK1Q472S1K2I92gA1C1O1Q1-1_1G2H2S2U2_2G3F4W4_4C",
    "502fA1C1O1Q1-1_1G2H2S2_2G3F4W4_4C501bA1C1O1Q1-1G2H2S2_2W4_400cA1C1O1Q1-1G2H2S2_2F4W4_400bA1C",
    "1O1Q1-1G2H2S2_2W4_4X503bA1C5102A1X4w103C2K2D3A502gz1Oxk124J3S5024x4a024x4H215dS1T1Y1A2w846dS",
    "1T1Y1A2J5a02Y1A2N112Y1A2Ab13stO2002sO24M13sN2O2382sO2Adr24qW_102W2X3OA202M1X4102M1X4X112M1X4",
    "TE312M1X4102M1X4MGH131D1yV5h1S1-W711S1"]

/-- The code points of the script at a place of `scripts`. -/
def codes (place : Nat) : CodeSet :=
  CodeSet.ofRuns (CodeSet.unpack table) (· == place)

/-- The entries of `extensionTable` as ranges with their scripts; `start` is the first code
point after the range before. -/
def extensionsFrom (start : Nat) : Nat → List Nat → List ((Nat × Nat) × List Nat)
  | 0, _ => []
  | fuel + 1, gap :: more :: count :: rest =>
    let low := start + gap
    ((low, low + more), rest.take count) ::
      extensionsFrom (low + more + 1) fuel (rest.drop count)
  | _ + 1, _ => []

/-- The ranges whose script extensions are not just their script. -/
def extensions : List ((Nat × Nat) × List Nat) :=
  let numbers := CodeSet.unpack extensionTable
  extensionsFrom 0 numbers.length numbers

/-- The code points that the script at a place of `scripts` uses. -/
def extendedCodes (place : Nat) : CodeSet :=
  CodeSet.union
    (CodeSet.diff (codes place) (extensions.map Prod.fst))
    ((extensions.filter (·.2.contains place)).map Prod.fst)

/-- The names and codes of the scripts, written without case, blanks and underscores. -/
def names : List (String × String) :=
  [("adlam", "Adlam"), ("adlm", "Adlam"), ("aghb", "Caucasian_Albanian"), ("ahom", "Ahom"),
   ("anatolianhieroglyphs", "Anatolian_Hieroglyphs"), ("arab", "Arabic"), ("arabic", "Arabic"),
   ("armenian", "Armenian"), ("armi", "Imperial_Aramaic"), ("armn", "Armenian"),
   ("avestan", "Avestan"), ("avst", "Avestan"), ("bali", "Balinese"), ("balinese", "Balinese"),
   ("bamu", "Bamum"), ("bamum", "Bamum"), ("bass", "Bassa_Vah"), ("bassavah", "Bassa_Vah"),
   ("batak", "Batak"), ("batk", "Batak"), ("beng", "Bengali"), ("bengali", "Bengali"),
   ("bhaiksuki", "Bhaiksuki"), ("bhks", "Bhaiksuki"), ("bopo", "Bopomofo"),
   ("bopomofo", "Bopomofo"), ("brah", "Brahmi"), ("brahmi", "Brahmi"), ("brai", "Braille"),
   ("braille", "Braille"), ("bugi", "Buginese"), ("buginese", "Buginese"), ("buhd", "Buhid"),
   ("buhid", "Buhid"), ("cakm", "Chakma"), ("canadianaboriginal", "Canadian_Aboriginal"),
   ("cans", "Canadian_Aboriginal"), ("cari", "Carian"), ("carian", "Carian"),
   ("caucasianalbanian", "Caucasian_Albanian"), ("chakma", "Chakma"), ("cham", "Cham"),
   ("cher", "Cherokee"), ("cherokee", "Cherokee"), ("chorasmian", "Chorasmian"),
   ("chrs", "Chorasmian"), ("common", "Common"), ("copt", "Coptic"), ("coptic", "Coptic"),
   ("cpmn", "Cypro_Minoan"), ("cprt", "Cypriot"), ("cuneiform", "Cuneiform"),
   ("cypriot", "Cypriot"), ("cyprominoan", "Cypro_Minoan"), ("cyrillic", "Cyrillic"),
   ("cyrl", "Cyrillic"), ("deseret", "Deseret"), ("deva", "Devanagari"),
   ("devanagari", "Devanagari"), ("diak", "Dives_Akuru"), ("divesakuru", "Dives_Akuru"),
   ("dogr", "Dogra"), ("dogra", "Dogra"), ("dsrt", "Deseret"), ("dupl", "Duployan"),
   ("duployan", "Duployan"), ("egyp", "Egyptian_Hieroglyphs"),
   ("egyptianhieroglyphs", "Egyptian_Hieroglyphs"), ("elba", "Elbasan"), ("elbasan", "Elbasan"),
   ("elym", "Elymaic"), ("elymaic", "Elymaic"), ("ethi", "Ethiopic"), ("ethiopic", "Ethiopic"),
   ("gara", "Garay"), ("garay", "Garay"), ("geor", "Georgian"), ("georgian", "Georgian"),
   ("glag", "Glagolitic"), ("glagolitic", "Glagolitic"), ("gong", "Gunjala_Gondi"),
   ("gonm", "Masaram_Gondi"), ("goth", "Gothic"), ("gothic", "Gothic"), ("gran", "Grantha"),
   ("grantha", "Grantha"), ("greek", "Greek"), ("grek", "Greek"), ("gujarati", "Gujarati"),
   ("gujr", "Gujarati"), ("gukh", "Gurung_Khema"), ("gunjalagondi", "Gunjala_Gondi"),
   ("gurmukhi", "Gurmukhi"), ("guru", "Gurmukhi"), ("gurungkhema", "Gurung_Khema"), ("han", "Han"),
   ("hang", "Hangul"), ("hangul", "Hangul"), ("hani", "Han"), ("hanifirohingya", "Hanifi_Rohingya"),
   ("hano", "Hanunoo"), ("hanunoo", "Hanunoo"), ("hatr", "Hatran"), ("hatran", "Hatran"),
   ("hebr", "Hebrew"), ("hebrew", "Hebrew"), ("hira", "Hiragana"), ("hiragana", "Hiragana"),
   ("hluw", "Anatolian_Hieroglyphs"), ("hmng", "Pahawh_Hmong"), ("hmnp", "Nyiakeng_Puachue_Hmong"),
   ("hung", "Old_Hungarian"), ("imperialaramaic", "Imperial_Aramaic"), ("inherited", "Inherited"),
   ("inscriptionalpahlavi", "Inscriptional_Pahlavi"),
   ("inscriptionalparthian", "Inscriptional_Parthian"), ("ital", "Old_Italic"),
   ("java", "Javanese"), ("javanese", "Javanese"), ("kaithi", "Kaithi"), ("kali", "Kayah_Li"),
   ("kana", "Katakana"), ("kannada", "Kannada"), ("katakana", "Katakana"), ("kawi", "Kawi"),
   ("kayahli", "Kayah_Li"), ("khar", "Kharoshthi"), ("kharoshthi", "Kharoshthi"),
   ("khitansmallscript", "Khitan_Small_Script"), ("khmer", "Khmer"), ("khmr", "Khmer"),
   ("khoj", "Khojki"), ("khojki", "Khojki"), ("khudawadi", "Khudawadi"), ("kiratrai", "Kirat_Rai"),
   ("kits", "Khitan_Small_Script"), ("knda", "Kannada"), ("krai", "Kirat_Rai"), ("kthi", "Kaithi"),
   ("lana", "Tai_Tham"), ("lao", "Lao"), ("laoo", "Lao"), ("latin", "Latin"), ("latn", "Latin"),
   ("lepc", "Lepcha"), ("lepcha", "Lepcha"), ("limb", "Limbu"), ("limbu", "Limbu"),
   ("lina", "Linear_A"), ("linb", "Linear_B"), ("lineara", "Linear_A"), ("linearb", "Linear_B"),
   ("lisu", "Lisu"), ("lyci", "Lycian"), ("lycian", "Lycian"), ("lydi", "Lydian"),
   ("lydian", "Lydian"), ("mahajani", "Mahajani"), ("mahj", "Mahajani"), ("maka", "Makasar"),
   ("makasar", "Makasar"), ("malayalam", "Malayalam"), ("mand", "Mandaic"), ("mandaic", "Mandaic"),
   ("mani", "Manichaean"), ("manichaean", "Manichaean"), ("marc", "Marchen"),
   ("marchen", "Marchen"), ("masaramgondi", "Masaram_Gondi"), ("medefaidrin", "Medefaidrin"),
   ("medf", "Medefaidrin"), ("meeteimayek", "Meetei_Mayek"), ("mend", "Mende_Kikakui"),
   ("mendekikakui", "Mende_Kikakui"), ("merc", "Meroitic_Cursive"),
   ("mero", "Meroitic_Hieroglyphs"), ("meroiticcursive", "Meroitic_Cursive"),
   ("meroitichieroglyphs", "Meroitic_Hieroglyphs"), ("miao", "Miao"), ("mlym", "Malayalam"),
   ("modi", "Modi"), ("mong", "Mongolian"), ("mongolian", "Mongolian"), ("mro", "Mro"),
   ("mroo", "Mro"), ("mtei", "Meetei_Mayek"), ("mult", "Multani"), ("multani", "Multani"),
   ("myanmar", "Myanmar"), ("mymr", "Myanmar"), ("nabataean", "Nabataean"), ("nagm", "Nag_Mundari"),
   ("nagmundari", "Nag_Mundari"), ("nand", "Nandinagari"), ("nandinagari", "Nandinagari"),
   ("narb", "Old_North_Arabian"), ("nbat", "Nabataean"), ("newa", "Newa"),
   ("newtailue", "New_Tai_Lue"), ("nko", "Nko"), ("nkoo", "Nko"), ("nshu", "Nushu"),
   ("nushu", "Nushu"), ("nyiakengpuachuehmong", "Nyiakeng_Puachue_Hmong"), ("ogam", "Ogham"),
   ("ogham", "Ogham"), ("olchiki", "Ol_Chiki"), ("olck", "Ol_Chiki"),
   ("oldhungarian", "Old_Hungarian"), ("olditalic", "Old_Italic"),
   ("oldnortharabian", "Old_North_Arabian"), ("oldpermic", "Old_Permic"),
   ("oldpersian", "Old_Persian"), ("oldsogdian", "Old_Sogdian"),
   ("oldsoutharabian", "Old_South_Arabian"), ("oldturkic", "Old_Turkic"),
   ("olduyghur", "Old_Uyghur"), ("olonal", "Ol_Onal"), ("onao", "Ol_Onal"), ("oriya", "Oriya"),
   ("orkh", "Old_Turkic"), ("orya", "Oriya"), ("osage", "Osage"), ("osge", "Osage"),
   ("osma", "Osmanya"), ("osmanya", "Osmanya"), ("ougr", "Old_Uyghur"),
   ("pahawhhmong", "Pahawh_Hmong"), ("palm", "Palmyrene"), ("palmyrene", "Palmyrene"),
   ("pauc", "Pau_Cin_Hau"), ("paucinhau", "Pau_Cin_Hau"), ("perm", "Old_Permic"),
   ("phag", "Phags_Pa"), ("phagspa", "Phags_Pa"), ("phli", "Inscriptional_Pahlavi"),
   ("phlp", "Psalter_Pahlavi"), ("phnx", "Phoenician"), ("phoenician", "Phoenician"),
   ("plrd", "Miao"), ("prti", "Inscriptional_Parthian"), ("psalterpahlavi", "Psalter_Pahlavi"),
   ("qaac", "Coptic"), ("qaai", "Inherited"), ("rejang", "Rejang"), ("rjng", "Rejang"),
   ("rohg", "Hanifi_Rohingya"), ("runic", "Runic"), ("runr", "Runic"), ("samaritan", "Samaritan"),
   ("samr", "Samaritan"), ("sarb", "Old_South_Arabian"), ("saur", "Saurashtra"),
   ("saurashtra", "Saurashtra"), ("sgnw", "SignWriting"), ("sharada", "Sharada"),
   ("shavian", "Shavian"), ("shaw", "Shavian"), ("shrd", "Sharada"), ("sidd", "Siddham"),
   ("siddham", "Siddham"), ("signwriting", "SignWriting"), ("sind", "Khudawadi"),
   ("sinh", "Sinhala"), ("sinhala", "Sinhala"), ("sogd", "Sogdian"), ("sogdian", "Sogdian"),
   ("sogo", "Old_Sogdian"), ("sora", "Sora_Sompeng"), ("sorasompeng", "Sora_Sompeng"),
   ("soyo", "Soyombo"), ("soyombo", "Soyombo"), ("sund", "Sundanese"), ("sundanese", "Sundanese"),
   ("sunu", "Sunuwar"), ("sunuwar", "Sunuwar"), ("sylo", "Syloti_Nagri"),
   ("sylotinagri", "Syloti_Nagri"), ("syrc", "Syriac"), ("syriac", "Syriac"),
   ("tagalog", "Tagalog"), ("tagb", "Tagbanwa"), ("tagbanwa", "Tagbanwa"), ("taile", "Tai_Le"),
   ("taitham", "Tai_Tham"), ("taiviet", "Tai_Viet"), ("takr", "Takri"), ("takri", "Takri"),
   ("tale", "Tai_Le"), ("talu", "New_Tai_Lue"), ("tamil", "Tamil"), ("taml", "Tamil"),
   ("tang", "Tangut"), ("tangsa", "Tangsa"), ("tangut", "Tangut"), ("tavt", "Tai_Viet"),
   ("telu", "Telugu"), ("telugu", "Telugu"), ("tfng", "Tifinagh"), ("tglg", "Tagalog"),
   ("thaa", "Thaana"), ("thaana", "Thaana"), ("thai", "Thai"), ("tibetan", "Tibetan"),
   ("tibt", "Tibetan"), ("tifinagh", "Tifinagh"), ("tirh", "Tirhuta"), ("tirhuta", "Tirhuta"),
   ("tnsa", "Tangsa"), ("todhri", "Todhri"), ("todr", "Todhri"), ("toto", "Toto"),
   ("tulutigalari", "Tulu_Tigalari"), ("tutg", "Tulu_Tigalari"), ("ugar", "Ugaritic"),
   ("ugaritic", "Ugaritic"), ("vai", "Vai"), ("vaii", "Vai"), ("vith", "Vithkuqi"),
   ("vithkuqi", "Vithkuqi"), ("wancho", "Wancho"), ("wara", "Warang_Citi"),
   ("warangciti", "Warang_Citi"), ("wcho", "Wancho"), ("xpeo", "Old_Persian"),
   ("xsux", "Cuneiform"), ("yezi", "Yezidi"), ("yezidi", "Yezidi"), ("yi", "Yi"), ("yiii", "Yi"),
   ("zanabazarsquare", "Zanabazar_Square"), ("zanb", "Zanabazar_Square"), ("zinh", "Inherited"),
   ("zyyy", "Common")]

/-- The place of the script that a folded name stands for. -/
def named? (name : String) : Option Nat := do
  let script ← names.lookup name
  scripts.findIdx? (· == script)

end EventSieve.Text.Script
