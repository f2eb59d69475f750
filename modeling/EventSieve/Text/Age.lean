import EventSieve.Text.CodeSet

/-!
# Ages of code points

The version of the character standard that first assigned a code point.

## Main definitions

* `Age.codes?` — the code points assigned in a version or before it
-/
namespace EventSieve.Text.Age

/-- The versions, the oldest first. -/
def versions : List String :=
  ["1.1", "2.0", "2.1", "3.0", "3.1", "3.2", "4.0", "4.1", "5.0", "5.1", "5.2", "6.0", "6.1", "6.2",
   "6.3", "7.0", "8.0", "9.0", "10.0", "11.0", "12.0", "12.1", "13.0", "14.0", "15.0", "15.1",
   "16.0"]

/-- The runs of the code space, each as its length and the place of its version in `versions`;
an unassigned run has the place after the last. -/
def table : String :=
  String.join [
    "Wf043u0831516i336b7e8Z205326P1013a053h6G2093158657362013d54920292r1038101f4r701r101rk01rM101",
    "97013251013101310131013i02415564713c013C2013c013J1019232543V10252025202518s02380272068g548g9",
    "2a2b8f1rG102r701jH101j10132r2f1c1rh117d1a0189011378rr04r1j50br461c1f5917109659101e1n17101bq0",
    "59j03336671be025I20235013f013u026a05316e31ru336r32r36u7i9R1315erx182r3jO1a2rfa1rsb2r1b1rbi5r",
    "vn1r2n5r1q8n1c1fbc6f2g1n8hambn1jfh1grc1f1a3016V102bi01a1b501a2bp0295b1f2a2817281f301r802r202",
    "rm01r701r103r402r1016702r202r30178r104r201r502rl01a2i1j2r1610161r604r202rm01r701r201r201r202",
    "r101r504r202r303r197r401r107rf0191jar301r7016101r301rm01r701r201r502ra01r301r302r10fr10362ra",
    "01c167r1g6i1r301r802r202rm01r701r201r16402r80192r202r307r1m204r201r30292rb0166bar201r603r301",
    "r403r201r101r203r203r303r8017304r503r301r402r196r10er17c0865r1f301j801r301rn01ra01f502r1n197",
    "01r301r407r201r291g2r1n2r20292ra07r1k891h1f201j801r301rn01ra01r502r26701r301r407r206r1n101r2",
    "0282ra01r281ocr1i1f201m801r301rn01bg01b2i1960191r301r401b1h4r3h107h1g20292ra0693h791r1m231ri",
    "33ro31r931r132r733r134r631r131r836raf2r33crw104rt0F1r201r101r1k201k101r1k106k401k701k301r101",
    "r102k201kd01k302r501r101r601o1ra02r202cA1rI211rB1113294rr14b6113111rl133711311331rf31r191327",
    "394a2bF1rC13195319231973394369q3A294a29G101r1c5r1c2rH10252710173cw205aE205aS206a7317_1317131",
    "r432r731r131r432rH1317131r432rv317131r432r731r131r432r7317731rn317v317131r432r7317H1317j32r2",
    "b27s33rq76rV231g2r6g2r1aWj39at33rR238f7rd51n751n9r1nn59rk5crd51r351r25crz23162ra36ra66rf31na",
    "36rY231j7rK13195rG2aart62f1rc64rc64r163rK162r56brK172a4rq76ra71a3r27A16s72r27_1a1rta2rba6raa",
    "6rea2rff2menR1rM281n1r2qN182n1qL193cc96cU1b8r4bY193rf93rT199h2q5rL1j2r3j8c8rD1a4c1i2f1k5rM36",
    "Y2778s9ff4i1n1h1b1a28x401149w2069m02r602rG102r602r801r101r101r101rv02rV101rf01re02r601rj02r3",
    "01r901rP1013n01563552627157755191r4e70152rr01r578b3rb011123325473a1b1d3f1g1i1nfri02375174819",
    "frZ10231617f51728193aQ101318491a2g4rx2093c5S70e51013Z301315u3U1526b7c81abb7f4h1iF10233qmrb0l",
    "rL40k516W40a5Q208385k026251713W2023c527a586b7192a26g718a93a49aa1bja1b1a4boa1f401b402bs01bD10",
    "1b101b403b101a702b70e5v03bo01be01b77481c191c2bs549g5A83Ag5e667785948J193f595aqf2rA1f1r1mC1f3",
    "jcf1k8f1ipj4gfj1kP171nP171nd8391a3948692aL377a2c5rN171r1c5r1c2rW172c7r171ber1bn79r771r771r77",
    "1r771r771r771r771r771rA19o74927j91aac7f2h5i5j1k3mbnC1rq31rZ23crW63qrc34pY10333513101rU20252r",
    "6025-20155rI10191i1j1r-201rg0o33b5mg7k92q9r1pg5t0261rE10ca16f5s02617S10f5c046P101lX3046D3026",
    "v016WN63amA26GNk0m7898a1c9gli5jdm3nNE133ri325g315c3153315139rQ1aM99krA192bi98cs96f1g1cY2a8rn",
    "7485928L392b1g2b2ccfab1c3f1h1j2f6g2j6k2n5k4m3q2r2n1r1n1r5n3qlr3n2m1f2c1b59M171m3raa6rY188rF2",
    "91h8rc96rsa2g2jU29br19ta3rO2a1rba4r2avf1rX199re92ra92r49sa4fD2aor5ancar6b2r6b2r6b9r7b1r7b1rQ",
    "1f4g2f2k4m4rQ2gO1a2raa6rEza1crna4rR1aEA2rOR602cx153a2rK37G1r70cr505r13p01r501r101r201r201rM3",
    "0gb1ngrNb0gnA202rW107r1nA14c015162ng5a76r40397f2gl02526a01rj01r404r3015101rH402r101r-2025-20",
    "3r602r602r602r303r701r70ar331230c61rq61rj61r261rf62re6C1rx365r364rN163r96L272f2h1rc91m3r1fP1",
    "rO19C4rt93rR19frsf4rv41f449r3ir45rL1f5ru61r16E174re7K1rG1426G14Q262ra66rE1h4rE1h4rI1f8rU1fbr",
    "1fbn1rfn1r7n1r2n1rbn1rfn1r7n1r2n3rU1qcrX9f9rmfar8for6n1rK1n1r9nF2r662r161rM161r263r162r16ma1",
    "r9a_1f8r9fQ1rjg1r2g5r5gq82a3r18q95r19A2rY1c4r2g2cgg2rO1g471r275r871r371rr72j2r374r971j7r977r",
    "A1aA1fA1rH1f4rcf9rW1a3rta2rra5r8aif7r4fcr7fQ2rJ2aX1rT1gdrT1g7r6gI1j8raj6rG1q3rtq8r2qQ6rva1rK",
    "1m1r3m2r2mgr3qX1r1q3oI1j8rK1jmrqnG1rsmkrnk9rO2b4rub6n9r1fC2a1nar1j2rpc7rac6rV1c1rec3j1m8rH1f",
    "9rJ2c4g1f2mac1f5g1rkfbrif1rL1f1h3o-1r7g1r1g1r4g1rfg1rbg6rx1f5raf6r1g3f1r8f2r2f2rmf1r7f1r2f1r",
    "5f1r1j9f2r2f2r3f2r1g6r1f5r7f2r7f3r5fbraq1r1q2r1q1rG1q1raq1r1q2r1q1r4q1raq1r2q8r2qtrw2h1m1h1r",
    "1h1j1k2murI2f8rafG5rW1f2rifkgC1rF2fbraf6rdhjrY1c1k1n6rac6rkqsrqg1j2rfg4rgg7nZ5ry1jE3rT2fcr1f",
    "7m2r1m2r8m1r2m1rum1r2m2rcm9ramG2r8k2rO1k2rbkrrI2i8rU1i2kni1j5idrgnZ1f7raoW5rC1qeraq6r9h1rN1h",
    "1reharth3rA1h2rmh1rehJ2r7i1r2i1rM1i3r1i1r2i1r9i8rai6r6j1r2j1rF1j1r2j1r6j7rajW9rpj7rho1rJ1o3r",
    "so1qV2r1mfrS1kdr1kPr8K1f1gG3rD38cf1r481fbrE6gMS2rD3ndrPB1a1o9ktoarxy3q5rHigZV6rw1qGW1rZhb7rv",
    "f1raf4r2fP2n1ran6ruf2r6farG2faraf1r7f1rlf5rjfQdrw1qG6rx2jF3rF2c6k4r1kP1c9k7rhcA2r1h1i2k1mbr2",
    "merN_5h5j6k8rTnhDfmJ1r1q9mHX8r4n1r7n1r2n1r2bz8i4nfr1otr3k2r1oer4k8rMciEI2rL3f5rdf3r9f7raf2r8",
    "fyw3rw7q6rUdqM2rO1n2rnn9rU3ny1rW74arH142r19U54bg2nlrG27w3rkocrkjcrX269ri87jH4rV241rH241r242r",
    "142r242r441rc41r141r4416241rB241r442r841r741rs41r441r541r143r741rSa4272rC94282rS14Mkgfr5g1rf",
    "gQC1rvn6r6oV6r7h1rhh2r7h1r2h1r5h5r-1oB1r1oQ3rN1k3rek2rak4r2kAarvnhrw1k5r1kQerK1oW6rL1q4r1qAf",
    "r7n1r4n1r2n1rfn1rF6f2rgfJ1rL2h1k4rah4r2hRorE2jM2rz1kC6r4c1rrc1r2c1r1c2r1c1rac1r4c1r1c1r1c6r1",
    "c4r1c1r1c1r1c1r3c1r2c1r1c2r1c1r1c1r1c1r1c1r1c1r2c1r1c2r4c1r7c1r4c1r4c1r1c1rac1rhc5r3c1r5c1rh",
    "cU1r2cO8rM194rE39crfb2reb1f1rfb1rfbmfarba2f3mva1j1b1abb1a1b1a2b1a3b1a3b5a8b1a7b1aab2c1k3m9b1",
    "a1b2a2b1aab4a2b1aabih1mY1rqb1a2bdrC1a9b1h4r9a7r2ber6iw4rB1bcf3g6b1fG2b1f2gkbcfF1b1f5b4f5gcfh",
    "b7f8g_1b1f1b1fW5b1f4b2f1g-1b2f4c7f5gobif1hJ1f1hW2f5b1cgb1c3b1c1b1c1b1c1b1c3b1c6b2c4b1c1b2c4b",
    "1ccb2f2gbbQ1fG2baf1g2h2i1k2m4r1o3ndf3r4f3h2i1j1k2m3rU3b3o4r5oV2f4j1o6rck4r1nfrcf4rY1f8raf6rI",
    "1f8ruf2r2maq4r2q-1rci1m3k9g6h1i8h8i1h2ich1kch1i3jfhdi5j1k1m4j2m1n1j1k4j5gdh6ibj2m6k3m2kaj6k1",
    "g2j8k1m1n3knipjU2kcrej2r4k1m3o3k2n3r3k4m2o1q5r1q6kjm4n3o7m4n3o1q1o3m3n1q7r2o7m3n2o1q2r1q8n1o",
    "1q6r7n2o7rT4m1rX1mF1qamEA1r21XWJ147m2nA1rVB4a4n1o6r-6b2rCU5gerRJ7ifrOjpCN2r-g4AP1r21Lw4m5rAD",
    "4oOCX1r21-__1r21-__1r21-__1r21-__1r21-__1r21-__1r21-__1r21-__1r21-__1r21-__1r211r14urA34A4rQ",
    "76OQ_1rCAA41"]

/-- The code points assigned in a version or before it. A version is written `6.0` or `v60`. -/
def codes? (version : String) : Option CodeSet :=
  let spelled (name : String) : Bool :=
    version == name || version == "v" ++ String.ofList (name.toList.filter (· ≠ '.'))
  (versions.findIdx? spelled).map fun place =>
    CodeSet.ofRuns (CodeSet.unpack table) (· ≤ place)

end EventSieve.Text.Age
