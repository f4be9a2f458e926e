import TestScenario.Unicode.Compact

/-!
The properties that a character has or does not have.
-/

namespace TestScenario.Unicode.Property

/-- The characters with the property Alphabetic. -/
def alphabetic : ScalarSet := Compact.set "
CnBagBaBvbkbebfxbBfbRqemofhbbbDibBdsbccebbgbbdbbbubDfbFjiGkbBmcbgBpBnobbbcbcbbiBbeeBdlfCebhoDybieiedkdcbqBwnDxy
BhjcebfycttzhlfybhhbiBqkmdhgCybqbdepntbicccwbhbbdediccccbbibecbfmckbedbgeccwbhbcbcbcefecccebhebbrgldbjbdbwbhbcbf
djbdbcdbpeveedbicccwbhbcbfdiccccjcecbfnbqcbgddbedcbbbcdcdddmefddbddbgbBonbdbxbqdibdbdicbdbcceBcebibdbxbkbfdibdbd
icfdbendmnbdbBpcibdbdbbfehfwgbdbsdybjbbchigbbbiscnCgfhgbBzcbbbfbybbbtbdcfbbgboeBgbClibBketeqbBkCpCdbbcfqCmkecBmb
bfbcBrbMvbechbbbecBpbecBhbechbbbecpbCfbecCpBlqqDicgdXwcrbBafCxdlhulvmumnbdbcmCactobebCpDlhBrfCskBfbmejxBecflBse
BaCcBceClcuBybxcldBxCabpbiBzBqcekBsbloCdwdkBkclfBrcdBpebgbcdbfHktBilKscgcBmcgcibbbbbbbBfcCbbhbbddbhdecgenfdbhEmb
nbqnDxbebckbbdfgbbbbbbeblceffebrBpBFhCaCRuIvgedcmBmbbfbcCehbqxjhbhbhbhbhbhbhbhbBgBvbSbdzjhfcfeDigdbDmbefBrbDqrBg
BwqTsJToCmBGUfCpBucKjdqkcuBvfidEjBnjcDzcDeuvbBhyCamCqbbBsgdbbdkBhfBjnBddBzbmpbqqkfbCdjosxdCrbbbbydcqcelgcgcgjhbh
bBrbogEtvQNsmxeBxJMiOccEcBmhmffmbnbfbbbcbcbEeBhNzsCmcCcBomEmfbFfBkBagBalDldgcgcgcdBjmbBabtbcbpcoBiEtCrCbKhBddBx
BvBgnBefBrfBecBkeibfBqGcsBkeBkeBoiCamlbpbhbcblbpbhbcdCamLzjwkiygbBqbjCrgcbbBsbcdbcxkxjBfCntbckwkBagBaBmCegcCmebc
fibdbBdBqBddBdBjibBcBbCckwktnsEgCvCdBznBznBoBiBcdbfxJqBqbcdcqgByddBdkbiwBqsBuvBbxjCsBrfkCfjbnzxBzreiBjdbjCmbejck
bbbBjsbBicbgeCkhbbbebpbkhCfxebicccwbhbcbfdiccccdbgbfhBckbbcbbBmbkbbcbbebcdbbbBsCobdbeudBeCoccbbHcCcchzgBiClbbdb
ChCccbCtBbcovhHdCfDzCmBficbcibcbBebcccceDpicBucgbbbcBbBzckrCufbsCvDziDkBhBfjbBtbhbbBxBecwboCvhbcbBsdbbcbdbbccygb
cbBlbcbebbxBsKaxjrbBpddEhbDbBJmDyEhrHoDXkDtpBPgrgzFXrfWlKDdBvCPdVxhBfrDbrBesBwqeBfvftQqBtIdCmBgzczBsCxeCfhrCmcbb
mhjKXyBpBgDtElMWrebhbcbLfpbBddcboeiPgDKuEdfndjhkebIWfDhbCtbccbcccebmbbbhbCnbecibhbBcbebfbbdhbNcczbzbBfbzbBfbzbBf
bzbBfbzbiCSyBfggIfhbrchbcbffCkBhbEiBtkhqbMjBesBsSqBcIuBecbHzBfbwicIqhbebcbpbHpChCqdbdbBUiebBbbcbbcbbkbebbbbgbebb
bbbbdbcbbcbbbbbbbbbbcbbcebhbebebbbkbrfdbfbrYeBagBagBaFMkCLFcBgGMocIOccLBlpXyDQwUwCFyHHzfMOo
"

/-- The characters with the property ASCII_Hex_Digit. -/
def asciiHexDigit : ScalarSet := Compact.set "
BwkhgBag
"

/-- The characters with the property Bidi_Control. -/
def bidiControl : ScalarSet := Compact.set "
CIebJVlcBafCde
"

/-- The characters with the property Dash. -/
def dash : ScalarSet := Compact.set "
BtbCAubBzbFKjbBNpbDBdgCjbBnbpbPabEOibcbBfcebBcbRebtbEhbCWVgcBlbkbGnbFLobMgb
"

/-- The characters with the property Default_Ignorable_Code_Point. -/
def defaultIgnorableCodePoint : ScalarSet := Compact.set "
GrbZxbBBobEGwcCKhcDhfDApfBafBxqGKybCWLvqJfbGebDbjCTLneHWxiBTKZlGBo
"

/-- The characters with the property Deprecated. -/
def deprecated : ScalarSet := Compact.set "
MrbBYvbDKtbbbDCjcDIjgBAvcBZOXqb
"

/-- The characters with the property Diacritic. -/
def diacritic : ScalarSet := Compact.set "
DqbbbCtbgbebccTjGdbifgrcebjcJtfIbbCdBtbbbcbcbbFbiecFececddCpBbDnlCglBicEwiBpkqBcCjbqbdeBcbCwbqbEgbqbEgbqbBvdCibq
bhbEpbEgbqbEgbqbEfcqbEubEhbmgbbEdbnfCxcBbbbbbbecCodbcCkbEibbcBocefzhbbkcBBddBKmcBebFsljbNjdLgbuicbBwpcldpcmCubpb
BmjCccCgblcCocCmgDezebgbcdByClBwBkfmBllRdbbdldndndncEXkdMfbTmgEbeDrbBSMkbmcbbBccDecoBiDydDybgcmbBlbFvbBbsCfeBkb
DrbmbBkbFtdCneBzbDwfjdEycBAYybBDpqKkbbbBvbBtcCpbBDkbBTngbBqbjYndebGjcVzgBmbBafPgbcdCslBxeHkbBpbCucEqcCkbCybjdEac
GwcDccqbyhdfDldbcncDrbdbEtcJrcEwbEocElbKjcJycebGabDfbsbDdbQfbJybbcDdbCnbNvcxbHYapQZpbDSafChhVscVarDccYGcebhbcLTh
BucxUyddgiichBeeFMwCkHmhOlbCjeBDmcBCihEfdbd
"

/-- The characters with the property Extender. -/
def extender : ScalarSet := Compact.set "
HbbUqcBHubQzbYgbFhbDlbBCybExbDNfbCebXnbPibCqbHKjbBrfDzcDpdBQBubCGsbBLabwbFhbEebvcBCZbbDBkcCFbbBbbebBVbbLhbEmcTed
BVjbBGabBDIecBTkcbbocBQXkcBUfbBGud
"

/-- The characters with the property Grapheme_Base. -/
def graphemeBase : ScalarSet := Compact.set "
BgDrBhnbWwEiicgehbbbubIqhGkbBmcBycdBubbbcbcbjBbegrklbbBuvqbDxibgccbeBgcbbBeBdDllboBrjhdyebjbdbhpbzfbblfBgqBqCfCd
bbbeiebdhkcBdbcbicccwbhbbdedbbcgcccbbncbdeyfbbgeccwbhbcbcbcedyebbhkcdbbmbbjbdbwbhbcbfdeibbcdbpcemhbicbicccwbhbcb
fdbcbgcccpcbdeslbbgddbedcbbbcdcdddmfbbcddbddbvvgdbibdbxbqdbdetdbcccekhkblbdbxbkbfdccbbcxdbcekbdolbdbBpcbbcfdbdbc
edbkeBaccbsdybjbbchjcghhkcdmBwbcliinBlcbbbfbybbbkbcjbcfbbjkceBgycBbbbbbbobBksbfbcfBxibgbnBlBtebgbccczcedqenbccgb
pbBobbfbcOnbechbbbecBpbecBhbechbbbecpbCfbecCpfBddBagDicgcZtdDlhsntdcjsonbdpCacbhibcljdkgkglfkgDlhfcBibbfCskBfeec
decbghbdBqcflBseBagldCfccdCebbjbbcignkgkgoDiBwkedibBdjmcBgecgCebbcdbbnBwicfpdCkfBrcllbnbhebgbdcbfHkCmKscgcBmcgci
bbbbbbbBfcCbbpbocgbtcdbjblfyhBxqccBbbndBiCkFkeZqwlvCRscOndcfBtbbfbcCehcpxjhbhbhbhbhbhbhbhBhDqBiBabDlmIgBaCggqbDi
eDxfBrbDqbDijBwbBRIrdCdjNkuBvebkBgcDccgiInurbdbebzcfekgCeiCqkmynbBmizlbmBegBwbcecccbnblehbzbBpgcccldbibbckcBgbBz
bbdccfcbbbyrcilgcgcgjhbhbCieEnbcbedkgQNsmxeBxJMiOccEcBmhmffbbybfbbbcbcbZaBgqqkwBjbtbeefbFfeGbcBfdgcgcgcddhbhnccm
bBabtbcbpcoBiEtfdeBtdDkbndbBvBtFbBddBxqBbeBkjBefBmkBebBleoBqGcckgBkeBkeBoiCalmbpbhbcblbpbhbcdCamLzjwkiygbBqbjCrg
cbbBsbcdbcxbCuijBwtbcfBhdBbfBbBmCeeucBvpebdbBdkjhjhCmBgBlgmjCcdBdcBbfBahemhDcCvCdBznBzhBqmkgBmiyicIaBfbBqdbccqgi
jBnBoiwljwseeBmBcuxjbbCcpheBebccbmBxecccbeozhkjBkfbjsiBjbdlCajbbiecbqbulsbBcdcegbcClhbbbebpblgBvbdnkicbicccwbhbc
bfdbbbbeccccdbmhBckbbcbbBmbbbcpbbcdbbdbcBnCeicdbbvbbbdBeBwbcgbbcbbcbceikGkBvbcgecbcBbBkBzicbbcelkgntBrbbbcicgkgu
BcBbdbbcebjxHdBvjbcbDwDfmicbcibcbybfbcgebdjkCsicBqiebeBbbkBogceijbgcdBunbcjnCvhkDjbdbbbDkBiokgjbBmobbgkBddBgzbhb
cbCxhbcbBmvbjkggbcbBlecbbbbhkgBsekJmtcejpbBkicdxDibpBynBJnDyEhbflHoDXkDvnBPgrgzFXrfWlKDdBemddkCOsVxhBfbkeDdbkgBe
hbkBwhpkkbhbvftQqCgHqDnfzczBsCxfCelnCmeofjKXyBpBgDtElMWrebhbcbLfpbBddcboeiPgDKuEdfndjhkcbcbFVkJtdQugxprDrEmCiJmk
BncCifdwchBeeCjvCodbEsumumDjjzFfDhbCtbccbcccebmbbbhbCnbecibhbBcbebfbbdhbNccLgcVqCdeByibobhBRwBfggKbCkFqBtkhckec
MiBesBsekfbRwBcekIgBeclebHkBfbdbcbhcfjcIqhbebcbpbHpcjBwCqhbekecBEfCqCyCjHmebBbbcbbcbbkbebbbbgbebbbbbbdbcbbcbbbbb
bbbbbcbbcebhbebebbbkbrfdbfbrCacKkBseDwmpcpbpbBlkGsCeBdnBsejhcogFyBLxdrdndIkgmebpmeCeikgBoiBecmecojBnNgiocndldCfb
beqcmekhFrbDzBNpCLFcBgGMocIOccLBlpXyDQwUwCFyHHzfMOo
"

/-- The characters with the property Grapheme_Extend. -/
def graphemeExtend : ScalarSet := Compact.set "
BDoEiKphKdBtbbbcbcbbCulBwvqbDxhcgccbeBjbBeBbDnlCgjjbyebjbdbfBrdChjBqybBgCdbbbeiebdhkcBdbCgbbbceibjbkcBabccCfbece
ccddbBecdblcCfbefbcebucwgbbCgbbcbeibhdkcBebChbbbmbjbBobdbCdbbdfdbehclcBdbCgbccbbddbehclcBccCfcbbceibjbkcBdbCubeb
cdbbibDdbchmiDubcjlhCvcBbbbbbbCdobfbcflbBkjbDyebgbccczcedqenbccgbpbBBbdBKkeBcdBdcBecCmcbhibcljbBtdbbEncBibEodecj
bgdIlccbCgbbhbbbbcigkcbBwBucmueBwkedBmjmcBgecgCebbcdbbfCeiccFwdbnbhebgbdcHqCmUebHnBhEOcdFlbDsBgVigEbcBSQeebkBgc
DccKmbdbebzcfbFvcBasnbBmizlbbBsdBwbcecccbBkbCpgccccmbibBvbBzbbdccfcbbBqcibJebcbebBAYybBCjqqqOccXhbIsbFtfCMgdbcfe
BodebGjcWbeCnfMfcCzgCslBxeEtbCcpBpbcckdBxecchbCjdBkfbiCkbmcCajbbiecbDrdcegbcbGbbdivcCfcbbbbmbjbohdfCpbcgbbcbbded
bbocDhicdbbxbDdbcgbbcbbcbcJbbcegcbcBbcDhicbbcEcbbbciDxbbbcebfJzjbcJlbkeebFoeccebBgkBogceibjgcdBunbcHqbbdbbHthbgb
bDewchbcbcEsgdbbcbhbbCucdbbbNjclcCaffdxbHXtbgpQYymddDSafChhBOibCleDdblcBDAxcGYzBucxUwfdgiichBeeFsdCYdCdeByibobwf
bpCAihbrchbcbfDwbGehOlbCjeToeJucJjbcbhcfbSghEfhBTCAfDsEyJg
"

/-- The characters with the property Grapheme_Link. -/
def graphemeLink : ScalarSet := Compact.set "
DNpbExbExbExbExbExbExbExbEfcqbEubEhbExbHtbGycCPlcBebGbbZdbItbDxcCscGQtbBUKkbBlbFvbFmbEebLxbJmbBGRxbCHibBpbobCfb
ErcFjbEmbGybDubEydEjbExbJsbExbEobEmbKjbJzcGfbDfbsbDdbQfbKacDdbQjcYZcb
"

/-- The characters with the property Hex_Digit. -/
def hexDigit : ScalarSet := Compact.set "
BwkhgBagDPKrkhgBag
"

/-- The characters with the property Hyphen. -/
def hyphen : ScalarSet := Compact.set "
BtbExbBVwbGZzbDBdcFIbbBClbCWTrbGnbDjb
"

/-- The characters with the property ID_Continue. -/
def idContinue : ScalarSet := Compact.set "
BwkhBaebbBaBvbkbbbcbfxbBfbRqemofhbbbrEnbccebbgfbbbubDfbFjbfcGkbBmcbgBpiBtbbbcbcbbiBbeeBdlfCweDybickbtcbqChcDxoCc
ebcbcBusBcelfybhhCxbEzckbtbicccwbhbbdecjccceibecbfcmkbbbcdbgeccwbhbcbcbccbbfeccddbhebbhqldbjbdbwbhbcbfckbdbdcbpe
ckjhbdbicccwbhbcbfcjcccdhdecbfckbbqcbgddbedcbbbcdcdddmefddbecbgbokqnbdbxbqcjbdbehcbdbcceckqebibdbxbkbfcjbdbehcfd
beckbdmnbdbBzbdbffehfckkgbdbsdybjbbchdbegbbbigkccnCgfpbkBncbbbfbybbbxcfbbbhbkceBgbxcgklbbbbbekbBkeubsbBkjbCfCwg
DacBmbbfbcBrbMvbechbbbecBpbecBhbechbbbecpbCfbecCpcdjjoqqDicgdXwcrbBafCxdlhwjwlumnbdbcmDgdbecckBhdblgDlhBrfCskBfb
memkBocflBseBaglBlBceClbBdclgknbiobBfcmuCzdkrjmEmmCeikdBxclfBrcdqdbBnfUocgcBmcgcibbbbbbbBfcCbbhbbddbhdecgenfdbhp
cBxctbBcbnbqnBznebdmrbebckbbcggbbbbbbqceffebrBpDZbIvgjmBmbbfbcCehbpyjhbhbhbhbhbhbhbhbBgTxdzpbfcfeDichbDrfBrbDqr
BgBwqTsJToCmBGUfCpBucKjdBcuBwekbElBljcDzcDeuCdebtCamCskkgydbbBxcBkmBddCnolgBfbCdjockgxdCvydcqcfkgcgcgjhbhbBrbog
EtbcckgQNsmxeBxJMiOccEcBmhmffmbnbfbbbcbcbEeBhNzsCmcCcBomeqqqdcydBgfbFftkhBaebbBakDmdgcgcgcdBjmbBabtbcbpcoBiEtCr
CbFgbFaBddBxpbBfBgnBefBrfBecBkeibfBqGcckgBkeBkeBoiCamlbpbhbcblbpbhbcdCamLzjwkiygbBqbjCrgcbbBsbcdbcxkxjBfCntbckwk
BagBaBmCegcCmebcfibdbBdcdebBgBddBdBjibBezCckwktnsEgCvCdBznBznBoikgBmdfbxJqBqbcdcqgByBjkbiBhBfwBqvBbxjCtBfqjCihbn
zhkgCbbkeeiBkcbjCreebnbbBjsbBlgeCkhbbbebpbkhChfkgebicccwbhbcbfbkcccdcbgbfhchdflkbbcbbBmbkbbcbbebincBdCxfkeeBeCsb
bikGkCccjxgBiCndblkBmCfhkguBcBbcpekghHdChDxCwvicbcibcbBebccjmkCsicBucibcBbClibiCwdbsCvDziDkBhpkgjbBtbjpkyBecwbo
CvhbcbBsdbbcbjikggbcbBlbcbghkgBsekJmxjrbBpdfnlDhbDbBJmDyEhrHoDXkDtpBPgqwkFXrfWlKDdCgCOsVxhBfbkgDbbkgBecflCdjemkj
vftQqBtdkHqCmBgzczBsCxeCfhrCmcbclhjKXyBpBgDtElMWrebhbcbLfpbBddcboeiPgDKuEdfndjhkdcGErkTyBucxUwfdgiichBeeFsdRbDhb
CtbccbcccebmbbbhbCnbecibhbBcbebfbbdhbNcczbzbBfbzbBfbzbBfbzbBfbzbicByTsCdeByibobwfbpBQmBfggIfhbrchbcbffCkBhbEiBtd
ockebMjBfrCgScBqIgBrHpBfbwicIqhbebcbpbHplhBpCyekBTuebBbbcbbcbbkbebbbbgbebbbbbbdbcbbcbbbbbbbbbbcbbcebhbebebbbkbrf
dbfbrFAakBNqCLFcBgGMocIOccLBlpXyDQwUwCFyHHzfMOoBOGXyJg
"

/-- The characters with the property ID_Start. -/
def idStart : ScalarSet := Compact.set "
CnBagBaBvbkbebfxbBfbRqemofhbbbEzfbccebbgbbdbbbubDfbFjiGkbBmcbgBpCtBbeeBtBrBjcbDvbbpchckdcbqbbBeBdDllbyBhjcebfweb
jbdbxzhlfybhqBqCgCcdbsbhkpqeicccwbhbbdedbqbncbdockbigeccwbhbcbcbcBfebbtdqjbdbwbhbcbfdbsbpcxblicccwbhbcbfdbBecbdp
brbbgddbedcbbbcdcdddmwbCaibdbxbqdbBadbcccBebeibdbxbkbfdbBedbcpcrjbdbBpcbqbfdidygfsdybjbbchCgBwbcmhCgcbbbfbybbbkb
cjbcfbbveBgbClibBkBbfElBrubqgeedbdchdenmbrBmbbfbcBrbMvbechbbbecBpbecBhbechbbbecpbCfbecCpBlqqDicgdXwcrbBafCxdlhsn
tosonbdpCaBjbebCpDlhBpbbfCskBfBxBecflBseBaCcxjCbDebDpBvriCcBenckBsBaBkBpdkBkclfBrcdBpebgbcdbfHkCmKscgcBmcgcibbbb
bbbBfcCbbhbbddbhdecgenfdbhEmbnbqnDxbebckbbcggbbbbbbqceffebrBpDZbIvgedcmBmbbfbcCehbqxjhbhbhbhbhbhbhbhVedzjhfcfeDi
efbDmbefBrbDqrBgBwqTsJToCmBGUfCpBucKjdqkcuBvqBfcDcBnjcDzcDeurbdbebxBdCaoByCkgdbbclBckxzBdhBvBcbqfbkkfbBpxdbiuxdb
dBybbdccfcbbbydclhdmgcgcgjhbhbBrbogElBdQNsmxeBxJMiOccEcBmhmffbbkbnbfbbbcbcbEeBhNzsCmcCcBomEmfbFfBkBagBalDldgcgcg
cdBjmbBabtbcbpcoBiEtCrCbKhBddBxBvBgnBefBmkBecBkeibfBqGcsBkeBkeBoiCamlbpbhbcblbpbhbcdCamLzjwkiygbBqbjCrgcbbBsbcdb
cxkxjBfCntbckwkBagBaBmCegcCmbpebdbBdBqBddBdBjibBcBbCckwktnsEgCvCdBznBznBkBmBcjxJqBqgcqgCeBdkbiwBqsBuvBbxmCbCfccb
nBtBgzBaBkBdbcbiBjdbmBwoevbbbBjsbztcClhbbbebpbkhBvBmicccwbhbcbfdbsbmfBekbbcbbBmbbzbbbBsCbseudBeBwucbbHcBvBpeBkBw
ubChBrnbCtBbBlhHdBsEmCmBficbcibcbypbbbDqicBnqbbbBcbkBohbvblButbsCvHrBhBfjbBlrbBxBeEihbcbBmvbzgbcbBgobxBsKatpbbnb
BiEubDbBJmDyEhrHoDXkDtpBPgrgzFXrfWlKDdBeCPuVxhBfrDbrBesBwqeBfvftQqBtIdCmBgzczBsCxfbConCmcbbofjKXyBpBgDtElMWrebhb
cbLfpbBddcboeiPgDKuEdfndjhkIWkDhbCtbccbcccebmbbbhbCnbecibhbBcbebfbbdhbNcczbzbBfbzbBfbzbBfbzbBfbzbiCSyBfggKbCkFq
BtkhqbMjBesBsSqBcIuBecbHzBfbdbcbhcfjcIqhbebcbpbHpChCqhbBUiebBbbcbbcbbkbebbbbgbebbbbbbdbcbbcbbbbbbbbbbcbbcebhbebe
bbbkbrfdbfbrGOaCLFcBgGMocIOccLBlpXyDQwUwCFyHHzfMOo
"

/-- The characters with the property Ideographic. -/
def ideographic : ScalarSet := Compact.set "
SEwczjodBLdJToCmBFBkBERoOccEcBSIkbnfjKXyBpBgDtElNLlPgBDEiCLFcBgGMocIOccLBlpXyDQwUwCFyHHzfMOo
"

/-- The characters with the property IDS_Binary_Operator. -/
def idsBinaryOperator : ScalarSet := Compact.set "
SEacckTdb
"

/-- The characters with the property IDS_Trinary_Operator. -/
def idsTrinaryOperator : ScalarSet := Compact.set "
SEcc
"

/-- The characters with the property Join_Control. -/
def joinControl : ScalarSet := Compact.set "
MDoc
"

/-- The characters with the property Logical_Order_Exception. -/
def logicalOrderException : ScalarSet := Compact.set "
FKifEtfEDsdcbCCXmccbbc
"

/-- The characters with the property Lowercase. -/
def lowercase : ScalarSet := Compact.set "
DtBaBvbkbebBkybibbbbbbbbbbbbbbbbbbbbbbbbbbbbbbbbbbbbbbbbbbbbbbbbbbbbbbbcbbbbbbbbbbbbbbbcbbbbbbbbbbbbbbbbbbbbbbbb
bbbbbbbbbbbbbbbbbbbbbbcbbbbdcbbbcbdcebcbddcbcbbbbbcbbcbbcbdbbbcccdgbcbcbbbbbbbbbbbbbbbbcbbbbbbbbbbbbbbbbbccbbbdb
bbbbbbbbbbbbbbbbbbbbbbbbbbbbbbbbbbbbbbbbbbbbbbbbbbbbbbbbbhcbccbbebbbbbbbbCrbBkhcBefDsbBrbbbdbcesbBbBjbcddbbbbbbb
bbbbbbbbbbbbbbbbfbbcbccBzBwbbbbbbbbbbbbbbbbbbbbbbbbbbbbbbbbbbjbbbbbbbbbbbbbbbbbbbbbbbbbbbbbbbbbbbbbbbbbbbbbbbbbb
bbbcbbbbbbbbbbbbcbbbbbbbbbbbbbbbbbbbbbbbbbbbbbbbbbbbbbbbbbbbbbbbbbbbbbbbbbbbbbbbbbbbbbbbbbbbbbbbbbbbbbbbbbbbbbbb
bBwBpEHbBrbeBDggDFujbbEnHkCnbbbbbbbbbbbbbbbbbbbbbbbbbbbbbbbbbbbbbbbbbbbbbbbbbbbbbbbbbbbbbbbbbbbbbbbbbbbbbbbbbbbb
bbbbbbbbbbbbbbbbbbbbbbbbbbbbbbbbbbbbbbbbbbbbbbbbbbbbbbbbbbbbbbbbjbbbbbbbbbbbbbbbbbbbbbbbbbbbbbbbbbbbbbbbbbbbbbbb
bbbbbbbbbbbbbbbbbbbbbbbbbbbbbbbbbbbbbbbbbbbbbbbbbbjigkiiiigkiiiiociiiiiifbcgbddbciecciikdbcErbnbqnEfbdcdbBbbebeb
ccieebBhqebBGlBaCTqBwbbdcbbbbbbebbcbidbbbbbbbbbbbbbbbbbbbbbbbbbbbbbbbbbbbbbbbbbbbbbbbbbbbbbbbbbbbbbbbbbbbbbbbbbb
bbbbbbbbbbbbbbbbbbbbbbbbchbbbebmBmbbfbBTWdbbbbbbbbbbbbbbbbbbbbbbbbbbbbbbbbbbbbbbbbbbbbbtbbbbbbbbbbbbbbbbbbbbbbbb
bbdFdbbbbbbbbbbbbdbbbbbbbbbbbbbbbbbbbbbbbbbbbbbbbbbbbbbbbbbbbbbbbbbbbbbbbbbbbbbkbbbbcbbbbbbbbbebbbcbbdbbbbbbbbbb
bbbbbbbbbbfbfbbbbbbbbbbbbbbbebbbcbbbbbbbbbbbbbbbvebbbdBFpBrbogDcBAZohmfBOzBaBVhBoFgBkFzlbpbhbcRjbcdbBqbjBXlBzEvw
EGoBgBGJwBgChzBMJeBaBahbsBaBaBaebbbhblBaBaBaBaBaBaBaBaBaBaBaBaBaBaBaBaBaBcBczbgBazbgBazbgBazbgBazbgbbCSykbuggKb
CkDHsBi
"

/-- The characters with the property Math. -/
def math : ScalarSet := Compact.set "
BrbqdBfbBdbbbBtbebBlbBfbBCadcbBaccdUhdJWnbBbdlbdbnboevflfCnnebdcefsbebckbbcggbdcccbdbgdobbCqybgbceceBgbbgcoKiieu
cDmbBeBbbbyblhRdcmkegecccdfobbbcglifcCfbbbBdejdMyCmJwTsBwvcgCXRwbBFrgbbGgbqdBdbbbBdbbbFbbgeFEfcCVGabBXvDhbCtbccb
cccebmbbbhbCnbecibhbBcbebfbbdhbNccLgcByIIqebBbbcbbcbbkbebbbbgbebbbbbbdbcbbcbbbbbbbbbbcbbcebhbebebbbkbrfdbfbrCac
DTej
"

/-- The characters with the property Noncharacter_Code_Point. -/
def noncharacterCodePoint : ScalarSet := Compact.set "
DPCiBgUgcDSYocDSYocDSYocDSYocDSYocDSYocDSYocDSYocDSYocDSYocDSYocDSYocDSYocDSYocDSYocDSYoc
"

/-- The characters with the property Quotation_Mark. -/
def quotationMark : ScalarSet := Compact.set "
BibebFbbpbLWuizcFIdbRpendCXAveHhbebDmc
"

/-- The characters with the property Radical. -/
def radical : ScalarSet := Compact.set "
RPwBabDlmIg
"

/-- The characters with the property Soft_Dotted. -/
def softDotted : ScalarSet := Compact.set "
EbcHobKvbBebCabubMibDubbbJMnbBzbnbdbFcbGbbQfbIgcEGgbGBKncBycBycBycBycBycBycBycBycBycBycBycBycDFybLtcBab
"

/-- The characters with the property Terminal_Punctuation. -/
def terminalPunctuation : ScalarSet := Compact.set "
BhbkbbblcdbBFybibTtbCfbCubobbdGybBrlbbJbcCcgbiBfbKbcBWucGqbegLzcBEjiBDtbEudCtcGbddbBneccMccNqeGgckcbdBddHffCkc
BJwbxcjdEUxdLubnbebkbbcdcQmcBSHvcKjdItfOscDicDrbFvdFrdExbqcJpbBCCcbccCfdbeGnbkbbblcdbCnbcbBPqbBwbBSobHrbLycFwgCq
gDleBKqfBseHhhEieExdEzcgbqcDkfEebLmcEndmcNuedpEbcJpdTxbbbJrcDjcecPydBtbYvcCwcBYxfBAMzcFdbCndkbVhcLjcBDOgbLIle
"

/-- The characters with the property Unified_Ideograph. -/
def unifiedIdeograph : ScalarSet := Compact.set "
TSaJToCmBFBkBFBycbbbckbbbbccdDVEcCLFcBgGMocIOccLBlpXyGRqHHzfMOo
"

/-- The characters with the property Uppercase. -/
def uppercase : ScalarSet := Compact.set "
CnBaDxxbhBhbbbbbbbbbbbbbbbbbbbbbbbbbbbbbbbbbbbbbbbbbbbbbbbbbbbbbbbcbbbbbbbbbbbbbbbcbbbbbbbbbbbbbbbbbbbbbbbbbbbbb
bbbbbbbbbbbbbbbbbcbbbbdcbbbcbdcebcbddcbcbbbbbcbbcbbcbdbbbcdbhbcbcbcbbbbbbbbbbbbbbbcbbbbbbbbbbbbbbbbbcbcbbdbbbbbb
bbbbbbbbbbbbbbbbbbbbbbbbbbbbbbbbbbbbbbbbbbbbbbbbbbbbhcbccbbebbbbbbbbLdbbbdbibgbbdbbbcbrbjBjbcddbbbbbbbbbbbbbbbbb
bbbbbbfbcbbccBzBwbbbbbbbbbbbbbbbbbbbbbbbbbbbbbbbbbjbbbbbbbbbbbbbbbbbbbbbbbbbbbbbbbbbbbbbbbbbbbbbbbbbbbbbbcbbbbbb
bbbbbbcbbbbbbbbbbbbbbbbbbbbbbbbbbbbbbbbbbbbbbbbbbbbbbbbbbbbbbbbbbbbbbbbbbbbbbbbbbbbbbbbbbbbbbbbbbbbbbbcBmEHdBmbb
fbBBuDiDGlbgBrcdMibbbbbbbbbbbbbbbbbbbbbbbbbbbbbbbbbbbbbbbbbbbbbbbbbbbbbbbbbbbbbbbbbbbbbbbbbbbbbbbbbbbbbbbbbbbbbb
bbbbbbbbbbbbbbbbbbbbbbbbbbbbbbbbbbbbbbbbbbbbbbbbbbbbbbbjbbbbbbbbbbbbbbbbbbbbbbbbbbbbbbbbbbbbbbbbbbbbbbbbbbbbbbbb
bbbbbbbbbbbbbbbbbbbbbbbbbbbbbbbbbbbbbbbbbjiigkiiiiglbbbbbbbiiCuemememfleKcbebddcdcbdfgbbbbbbecekcfbBaqtbBFmBaCSu
BwBwbbdcbbbbbbebbcbidbbbbbbbbbbbbbbbbbbbbbbbbbbbbbbbbbbbbbbbbbbbbbbbbbbbbbbbbbbbbbbbbbbbbbbbbbbbbbbbbbbbbbbbbbbb
bbbbbbbibbbebBTYjbbbbbbbbbbbbbbbbbbbbbbbbbbbbbbbbbbbbbbbbbbbbbtbbbbbbbbbbbbbbbbbbbbbbbbbbbFfbbbbbbbbbbbbbdbbbbbb
bbbbbbbbbbbbbbbbbbbbbbbbbbbbbbbbbbbbbbbbbbbbbbbbbbbbbbbkbbbbcbbbbbbbbebbbcbbbdbbbbbbbbbbbbbbbbbbbbfbfbbbbbbbbbbb
bbbbebbbcbbbbbbbbbbbbbbbbybBDZnBaBUzBoFgBkGalbpbhbcCQcBzGbwEGoBgBGJwBgCmzBMJfBaBaBaBaBaBabbccbcccebiBaBaBacbecib
hBbcbebfbbdhBbBaBaBaBaBaBaBaBaBaBaBaBezBhzBhzBhzBhzBhbGNlBiDBiBagBagBa
"

/-- The characters with the property White_Space. -/
def whiteSpace : ScalarSet := Compact.set "
jfsbDwbBabIHjbDPnlBdcfbBvbFXwb
"

/-- The characters with the property XID_Continue. -/
def xidContinue : ScalarSet := Compact.set "
BwkhBaebbBaBvbkbbbcbfxbBfbRqemofhbbbrEnbcddbbgfbbbubDfbFjbfcGkbBmcbgBpiBtbbbcbcbbiBbeeBdlfCweDybickbtcbqChcDxoCc
ebcbcBusBcelfybhhCxbEzckbtbicccwbhbbdecjccceibecbfcmkbbbcdbgeccwbhbcbcbccbbfeccddbhebbhqldbjbdbwbhbcbfckbdbdcbpe
ckjhbdbicccwbhbcbfcjcccdhdecbfckbbqcbgddbedcbbbcdcdddmefddbecbgbokqnbdbxbqcjbdbehcbdbcceckqebibdbxbkbfcjbdbehcfd
beckbdmnbdbBzbdbffehfckkgbdbsdybjbbchdbegbbbigkccnCgfpbkBncbbbfbybbbxcfbbbhbkceBgbxcgklbbbbbekbBkeubsbBkjbCfCwg
DacBmbbfbcBrbMvbechbbbecBpbecBhbechbbbecpbCfbecCpcdjjoqqDicgdXwcrbBafCxdlhwjwlumnbdbcmDgdbecckBhdblgDlhBrfCskBfb
memkBocflBseBaglBlBceClbBdclgknbiobBfcmuCzdkrjmEmmCeikdBxclfBrcdqdbBnfUocgcBmcgcibbbbbbbBfcCbbhbbddbhdecgenfdbhp
cBxctbBcbnbqnBznebdmrbebckbbcggbbbbbbqceffebrBpDZbIvgjmBmbbfbcCehbpyjhbhbhbhbhbhbhbhbBgTxdzpbfcfeDicccdbDrfBrbDq
rBgBwqTsJToCmBGUfCpBucKjdBcuBwekbElBljcDzcDeuCdebtCamCskkgydbbBxcBkmBddCnolgBfbCdjockgxdCvydcqcfkgcgcgjhbhbBrbog
EtbcckgQNsmxeBxJMiOccEcBmhmffmbnbfbbbcbcbEeBhFjgIksCmcCcBokgqqqdcydBhbbbdbbbbbbbbEwtkhBaebbBakDmdgcgcgcdBjmbBabt
bcbpcoBiEtCrCbFgbFaBddBxpbBfBgnBefBrfBecBkeibfBqGcckgBkeBkeBoiCamlbpbhbcblbpbhbcdCamLzjwkiygbBqbjCrgcbbBsbcdbcxk
xjBfCntbckwkBagBaBmCegcCmebcfibdbBdcdebBgBddBdBjibBezCckwktnsEgCvCdBznBznBoikgBmdfbxJqBqbcdcqgByBjkbiBhBfwBqvBbx
jCtBfqjCihbnzhkgCbbkeeiBkcbjCreebnbbBjsbBlgeCkhbbbebpbkhChfkgebicccwbhbcbfbkcccdcbgbfhchdflkbbcbbBmbkbbcbbebinc
BdCxfkeeBeCsbbikGkCccjxgBiCndblkBmCfhkguBcBbcpekghHdChDxCwvicbcibcbBebccjmkCsicBucibcBbClibiCwdbsCvDziDkBhpkgjb
BtbjpkyBecwboCvhbcbBsdbbcbjikggbcbBlbcbghkgBsekJmxjrbBpdfnlDhbDbBJmDyEhrHoDXkDtpBPgqwkFXrfWlKDdCgCOsVxhBfbkgDbbk
gBecflCdjemkjvftQqBtdkHqCmBgzczBsCxeCfhrCmcbclhjKXyBpBgDtElMWrebhbcbLfpbBddcboeiPgDKuEdfndjhkdcGErkTyBucxUwfdgii
chBeeFsdRbDhbCtbccbcccebmbbbhbCnbecibhbBcbebfbbdhbNcczbzbBfbzbBfbzbBfbzbBfbzbicByTsCdeByibobwfbpBQmBfggIfhbrchbc
bffCkBhbEiBtdockebMjBfrCgScBqIgBrHpBfbwicIqhbebcbpbHplhBpCyekBTuebBbbcbbcbbkbebbbbgbebbbbbbdbcbbcbbbbbbbbbbcbbce
bhbebebbbkbrfdbfbrFAakBNqCLFcBgGMocIOccLBlpXyDQwUwCFyHHzfMOoBOGXyJg
"

/-- The characters with the property XID_Start. -/
def xidStart : ScalarSet := Compact.set "
CnBagBaBvbkbebfxbBfbRqemofhbbbEzfbcddbbgbbdbbbubDfbFjiGkbBmcbgBpCtBbeeBtBrBjcbDvbbpchckdcbqbbBeBdDllbyBhjcebfweb
jbdbxzhlfybhqBqCgCcdbsbhkpqeicccwbhbbdedbqbncbdockbigeccwbhbcbcbcBfebbtdqjbdbwbhbcbfdbsbpcxblicccwbhbcbfdbBecbdp
brbbgddbedcbbbcdcdddmwbCaibdbxbqdbBadbcccBebeibdbxbkbfdbBedbcpcrjbdbBpcbqbfdidygfsdybjbbchCgBwbbnhCgcbbbfbybbbkb
bkbcfbbveBgbClibBkBbfElBrubqgeedbdchdenmbrBmbbfbcBrbMvbechbbbecBpbecBhbechbbbecpbCfbecCpBlqqDicgdXwcrbBafCxdlhsn
tosonbdpCaBjbebCpDlhBpbbfCskBfBxBecflBseBaCcxjCbDebDpBvriCcBenckBsBaBkBpdkBkclfBrcdBpebgbcdbfHkCmKscgcBmcgcibbbb
bbbBfcCbbhbbddbhdecgenfdbhEmbnbqnDxbebckbbcggbbbbbbqceffebrBpDZbIvgedcmBmbbfbcCehbqxjhbhbhbhbhbhbhbhVedzjhfcfeDi
gdbDmbefBrbDqrBgBwqTsJToCmBGUfCpBucKjdqkcuBvqBfcDcBnjcDzcDeurbdbebxBdCaoByCkgdbbclBckxzBdhBvBcbqfbkkfbBpxdbiuxdb
dBybbdccfcbbbydclhdmgcgcgjhbhbBrbogElBdQNsmxeBxJMiOccEcBmhmffbbkbnbfbbbcbcbEeBhFjgIksCmcCcBokEpbbbdbbbbbbbbEwBk
BagBalCecBfdgcgcgcdBjmbBabtbcbpcoBiEtCrCbKhBddBxBvBgnBefBmkBecBkeibfBqGcsBkeBkeBoiCamlbpbhbcblbpbhbcdCamLzjwkiyg
bBqbjCrgcbbBsbcdbcxkxjBfCntbckwkBagBaBmCegcCmbpebdbBdBqBddBdBjibBcBbCckwktnsEgCvCdBznBznBkBmBcjxJqBqgcqgCeBdkbiw
BqsBuvBbxmCbCfccbnBtBgzBaBkBdbcbiBjdbmBwoevbbbBjsbztcClhbbbebpbkhBvBmicccwbhbcbfdbsbmfBekbbcbbBmbbzbbbBsCbseudBe
BwucbbHcBvBpeBkBwubChBrnbCtBbBlhHdBsEmCmBficbcibcbypbbbDqicBnqbbbBcbkBohbvblButbsCvHrBhBfjbBlrbBxBeEihbcbBmvbzgb
cbBgobxBsKatpbbnbBiEubDbBJmDyEhrHoDXkDtpBPgrgzFXrfWlKDdBeCPuVxhBfrDbrBesBwqeBfvftQqBtIdCmBgzczBsCxfbConCmcbbofj
KXyBpBgDtElMWrebhbcbLfpbBddcboeiPgDKuEdfndjhkIWkDhbCtbccbcccebmbbbhbCnbecibhbBcbebfbbdhbNcczbzbBfbzbBfbzbBfbzbBf
bzbiCSyBfggKbCkFqBtkhqbMjBesBsSqBcIuBecbHzBfbdbcbhcfjcIqhbebcbpbHpChCqhbBUiebBbbcbbcbbkbebbbbgbebbbbbbdbcbbcbbbb
bbbbbbcbbcebhbebebbbkbrfdbfbrGOaCLFcBgGMocIOccLBlpXyDQwUwCFyHHzfMOo
"

/-- The characters with the property Sentence_Terminal. -/
def sentenceTerminal : ScalarSet := Compact.set "
BhbmbqbCAbbFrdGybBrdJmbCjbbbdcLhcCPwcBEkbecBDtbHqcGbcBtbfbMccNqeGgckcccBddHfcCncBJwbxcjdEUxdLubnbwcQnbBSHwbKkcIt
bdbOscDicDrbFwcFrdFocJpbBCCcbccChbdcGnbmbqbCnbEDwcBXdfBseHhcEneExdEzcgbqcDkcbcEebLmcEncOjcfpEbcJpdTxbbbJrcDjcQec
BAqcCwcBCMbcFdbCnclbVhcLkbBDOgbLImb
"

/-- The characters with the property Variation_Selector. -/
def variationSelector : ScalarSet := Compact.set "
JCtdbbDGBgqBWNKyJg
"

/-- The characters with the property Pattern_Syntax. -/
def patternSyntax : ScalarSet := Compact.set "
BhpkhBaebbBaeBihbbbcbbbcebebdbxbBfbLUeyipctbkLtBBsGeYgBeBRoTsEyOvdezpbCWQfcKbc
"

/-- The characters with the property Pattern_White_Space. -/
def patternWhiteSpace : ScalarSet := Compact.set "
jfsbDwbLYmcyc
"

/-- The characters with the property Cased. -/
def cased : ScalarSet := Compact.set "
CnBagBaBvbkbebfxbBfbHnbeeIabBkhcBefDsbBqecccebbgbbdbbbubDfbFjiGkbBmjBpEFfBmbbfbcBrbeZwDicgDFulfBrcdCmHkCmKscgcBm
cgcibbbbbbbBfcCbbhbbddbhdecgenfdbhEmbnbqnDxbebckbbdfgbbbbbbebgebceffebrBgdcBFlCaCRuIvgedcmBmbbfbBTWcBusBeFcDydeb
CzugbdBFpBrbogDcBAZohmfBNtBagBaBTtDcDsBkeBkEmlbpbhbcblbpbhbcRjbcdbBqbjBUzBznBzDpwkwEFiCmBGIqCmBgzczBMIeDhbCtbccb
cccebmbbbhbCnbecibhbBcbebfbbdhbNcczbzbBfbzbBfbzbBfbzbBfbzbiCSykbuggKbCkDGkCqDAaBagBagBa
"

/-- The characters with the property Case_Ignorable. -/
def caseIgnorable : ScalarSet := Compact.set "
BnbgblbBjbbbCtbebbbebccTjHkecebjcbbJrhHzbfbBxBtbbbcbcbbBsblgklbbBjbkvqbDxibkbeBhbbbBeBbDnlCglebcbyyBrdBsbhcfjBp
CgCdbbbeiebdhkcnbpbCgbeeibucBabccCfbececcddbBecdblcCfbefbcebucwgbbCgbcbbeibhclcBebCjbmbBybdbCdbbdfdbehclcBdbCgbc
bgbfcucBccCfceeibucBdbCubhdbbDmbchljDubcjjbbhCvcBbbbbbbCdobfbcflbBkjbDyebgbccczcedqenbccgbpbDqbXkdBKkdBdcBecBec
CmcbhibcldbfbBtfBzbCncBibEodecjbgdIlccbCgbbhbbbbcigkcbBnbiBucmueBwbbfbbfbBojmcBgeccbdCebbcdbbdCgiccCmgDedbnbhebg
bdcByClnbBiDxRdbbdldndndncmfickbcbcfBxfbkbbnbqnBzBhEJrcEjdEvbpbDsBgBvbSbbBkedffbDpgDpdBQBubBWcgKkbDuebkbbBceDcco
BiDabxdDyedcibdbebzcfbFvcBasnbBmizlBudBwbceccrbvcCogccccmbibBjblbBzbbdccfcbbBbbocfcbbDwfjdErbcbebBAYybFrrWbqdbmq
BibcbGnbhbgblbBjbbbBvbBtcCpbvdTtbIsbFtfBNpgbBqbjWkdbcfeBodebGjcWbeBmbBafbbMdcybCagCslBxeEtbCcpBpbcckdBxecccbebkb
BydBkfbiCkbmcCajkecbDrdcbbcgbcbGbbdivcCfcdbBlhdfCsgnbbbbbocDhicdbbxbDggbbecbcJeegcbcBbcDhicbbcEcbbbcgbbDxbbbcebf
JzjbcJwcbbebFoeccebBgkBogceibjgcdBunbcHqbbdbbHthbgbbDewchbcbcEsgdbbcbhbbCucdbbbCnbKvclcCaffbbbxbHXdrgpQYymddDSaf
ChhjeTodBocSobClrCmcbcncYGaebhbcEUgcbeGYuBucxUydjqchBeeFsdCYdCdeByibobwfbpCAihbrchbcbffCkBhbGeoOebCjeTnfJucJjbcb
hcfbjbRwhEfiEBffBSXXpbBeDsEyJg
"

/-- The characters with the property Changes_When_Lowercased. -/
def changesWhenLowercased : ScalarSet := Compact.set "
CnBaDxxbhBhbbbbbbbbbbbbbbbbbbbbbbbbbbbbbbbbbbbbbbbbbbbbbbbbbbbbbbbcbbbbbbbbbbbbbbbcbbbbbbbbbbbbbbbbbbbbbbbbbbbbb
bbbbbbbbbbbbbbbbbcbbbbdcbbbcbdcebcbddcbcbbbbbcbbcbbcbdbbbcdbhcbcbcbbbbbbbbbbbbbbbbcbbbbbbbbbbbbbbbbbccbbbdbbbbbb
bbbbbbbbbbbbbbbbbbbbbbbbbbbbbbbbbbbbbbbbbbbbbbbbbbbbhcbccbbebbbbbbbbLdbbbdbibgbbdbbbcbrbjBjbibbbbbbbbbbbbbbbbbbb
bbbbfbcbbccBzBwbbbbbbbbbbbbbbbbbbbbbbbbbbbbbbbbbjbbbbbbbbbbbbbbbbbbbbbbbbbbbbbbbbbbbbbbbbbbbbbbbbbbbbbbcbbbbbbbb
bbbbcbbbbbbbbbbbbbbbbbbbbbbbbbbbbbbbbbbbbbbbbbbbbbbbbbbbbbbbbbbbbbbbbbbbbbbbbbbbbbbbbbbbbbbbbbbbbbbbcBmEHdBmbbfb
BBuDiDGlbgBrcdMibbbbbbbbbbbbbbbbbbbbbbbbbbbbbbbbbbbbbbbbbbbbbbbbbbbbbbbbbbbbbbbbbbbbbbbbbbbbbbbbbbbbbbbbbbbbbbbb
bbbbbbbbbbbbbbbbbbbbbbbbbbbbbbbbbbbbbbbbbbbbbbbbbbbbbjbbbbbbbbbbbbbbbbbbbbbbbbbbbbbbbbbbbbbbbbbbbbbbbbbbbbbbbbbb
bbbbbbbbbbbbbbbbbbbbbbbbbbbbbbbbbbbbbbbjiigkiiiiglbbbbbbbiiyiiiiiiflflemflfLlbdcgbBtqtbBFmBaCSuBwBwbbdcbbbbbbebb
cbidbbbbbbbbbbbbbbbbbbbbbbbbbbbbbbbbbbbbbbbbbbbbbbbbbbbbbbbbbbbbbbbbbbbbbbbbbbbbbbbbbbbbbbbbbbbbbbbbbbibbbebBTYj
bbbbbbbbbbbbbbbbbbbbbbbbbbbbbbbbbbbbbbbbbbbbbtbbbbbbbbbbbbbbbbbbbbbbbbbbbFfbbbbbbbbbbbbbdbbbbbbbbbbbbbbbbbbbbbbb
bbbbbbbbbbbbbbbbbbbbbbbbbbbbbbbbbbbbbbkbbbbcbbbbbbbbebbbcbbbdbbbbbbbbbbbbbbbbbbbbfbfbbbbbbbbbbbbbbbebbbcbbbbbbbb
bbbbbbbbybBDZnBaBUzBoFgBkGalbpbhbcCQcBzGbwEGoBgBGJwBgCmzBUHzBi
"

/-- The characters with the property Changes_When_Uppercased. -/
def changesWhenUppercased : ScalarSet := Compact.set "
DtBaCgbBpybibbbbbbbbbbbbbbbbbbbbbbbbbbbbbbbbbbbbbbbbbbbbbbbbbbbbbbbbcbbbbbbbbbbbbbbcbbbbbbbbbbbbbbbbbbbbbbbbbbbb
bbbbbbbbbbbbbbbbbbcbbbbdcbbbcbdbfbcbddcbcbbbbbcbebcbdbbbcbdbbbfcbcbcbbbbbbbbbbbbbbbcbbbbbbbbbbbbbbbbbcbcbbdbbbbb
bbbbbbbbbbbbbbbbbbbbbbbbbbbbbbbbbbdbbbbbbbbbbbbbbbbbibccbbebbbbbbbbgbcbbbcdcbebfcbbccbhbcbbcdgfbkcGkbBrbbbdbddsb
BbBjbcddbbbbbbbbbbbbbbbbbbbbbbbfbbcbcbCaBwbbbbbbbbbbbbbbbbbbbbbbbbbbbbbbbbbbjbbbbbbbbbbbbbbbbbbbbbbbbbbbbbbbbbbb
bbbbbbbbbbbbbbbbbbcbbbbbbbbbbbbcbbbbbbbbbbbbbbbbbbbbbbbbbbbbbbbbbbbbbbbbbbbbbbbbbbbbbbbbbbbbbbbbbbbbbbbbbbbbbbbb
bbbbbbbbbbbbbbbbBxBnEHcBrcdBDggDFujbbJebdbqbEkbbbbbbbbbbbbbbbbbbbbbbbbbbbbbbbbbbbbbbbbbbbbbbbbbbbbbbbbbbbbbbbbbb
bbbbbbbbbbbbbbbbbbbbbbbbbbbbbbbbbbbbbbbbbbbbbbbbbbbbbbbbbbbbbbbbbbbbbbbbbbbbbbbbbbhfbbbbbbbbbbbbbbbbbbbbbbbbbbbb
bbbbbbbbbbbbbbbbbbbbbbbbbbbbbbbbbbbbbbbbbbbbbbbbbbbbbbbbbbbbbbbbbbjigkiiiigkiiiiocCbbcebbbddbcebdecciikdbcebMzb
BhqebBGlBaCTqBwbbdcbbbbbbgbcbkbbbbbbbbbbbbbbbbbbbbbbbbbbbbbbbbbbbbbbbbbbbbbbbbbbbbbbbbbbbbbbbbbbbbbbbbbbbbbbbbbb
bbbbbbbbbbbbbbbbbibbbebmBmbbfbBTWdbbbbbbbbbbbbbbbbbbbbbbbbbbbbbbbbbbbbbbbbbbbbbtbbbbbbbbbbbbbbbbbbbbbbbbbbbFfbbb
bbbbbbbbbbdbbbbbbbbbbbbbbbbbbbbbbbbbbbbbbbbbbbbbbbbbbbbbbbbbbbbbbbbbbbbbkbbbcbbbbbbbbbebebbccbbbbbbbbbbbbbbbbbbb
lbbbbbbbbbbbbbbbebbbcbbbbbfbbbbbBabBHcbBcDcBAZohmfBOzBaBVhBoFgBkFzlbpbhbcCRbBzEvwEGoBgBGJwBgChzBUIgBi
"

/-- The characters with the property Changes_When_Titlecased. -/
def changesWhenTitlecased : ScalarSet := Compact.set "
DtBaCgbBpybibbbbbbbbbbbbbbbbbbbbbbbbbbbbbbbbbbbbbbbbbbbbbbbbbbbbbbbbcbbbbbbbbbbbbbbcbbbbbbbbbbbbbbbbbbbbbbbbbbbb
bbbbbbbbbbbbbbbbbbcbbbbdcbbbcbdbfbcbddcbcbbbbbcbebcbdbbbcbdbbbebbcbcbbbbbbbbbbbbbbbbbcbbbbbbbbbbbbbbbbbdbbbbdbbb
bbbbbbbbbbbbbbbbbbbbbbbbbbbbbbbbbbbbdbbbbbbbbbbbbbbbbbibccbbebbbbbbbbgbcbbbcdcbebfcbbccbhbcbbcdgfbkcGkbBrbbbdbdd
sbBbBjbcddbbbbbbbbbbbbbbbbbbbbbbbfbbcbcbCaBwbbbbbbbbbbbbbbbbbbbbbbbbbbbbbbbbbbjbbbbbbbbbbbbbbbbbbbbbbbbbbbbbbbbb
bbbbbbbbbbbbbbbbbbbbcbbbbbbbbbbbbcbbbbbbbbbbbbbbbbbbbbbbbbbbbbbbbbbbbbbbbbbbbbbbbbbbbbbbbbbbbbbbbbbbbbbbbbbbbbbb
bbbbbbbbbbbbbbbbbbBxBnFMegDFujbbJebdbqbEkbbbbbbbbbbbbbbbbbbbbbbbbbbbbbbbbbbbbbbbbbbbbbbbbbbbbbbbbbbbbbbbbbbbbbbb
bbbbbbbbbbbbbbbbbbbbbbbbbbbbbbbbbbbbbbbbbbbbbbbbbbbbbbbbbbbbbbbbbbbbbbbbbbbbbhfbbbbbbbbbbbbbbbbbbbbbbbbbbbbbbbbb
bbbbbbbbbbbbbbbbbbbbbbbbbbbbbbbbbbbbbbbbbbbbbbbbbbbbbbbbbbbbbjigkiiiigkiiiiociiiiiifbcgbddbciecciikdbcNebBhqeb
BGlBaCTqBwbbdcbbbbbbgbcbkbbbbbbbbbbbbbbbbbbbbbbbbbbbbbbbbbbbbbbbbbbbbbbbbbbbbbbbbbbbbbbbbbbbbbbbbbbbbbbbbbbbbbbb
bbbbbbbbbbbbibbbebmBmbbfbBTWdbbbbbbbbbbbbbbbbbbbbbbbbbbbbbbbbbbbbbbbbbbbbbtbbbbbbbbbbbbbbbbbbbbbbbbbbbFfbbbbbbbb
bbbbbdbbbbbbbbbbbbbbbbbbbbbbbbbbbbbbbbbbbbbbbbbbbbbbbbbbbbbbbbbbbbbkbbbcbbbbbbbbbebebbccbbbbbbbbbbbbbbbbbbblbbbb
bbbbbbbbbbbebbbcbbbbbfbbbbbBabBHcbBcDcBAZohmfBOzBaBVhBoFgBkFzlbpbhbcCRbBzEvwEGoBgBGJwBgChzBUIgBi
"

/-- The characters with the property Changes_When_Casefolded. -/
def changesWhenCasefolded : ScalarSet := Compact.set "
CnBaDmbkxbiBgbbbbbbbbbbbbbbbbbbbbbbbbbbbbbbbbbbbbbbbbbbbbbbbbbbbbbbbcbbbbbbbbbbbbbbbbcbbbbbbbbbbbbbbbbbbbbbbbbbb
bbbbbbbbbbbbbbbbbbbcbbbbbbbcbbbcbdcebcbddcbcbbbbbcbbcbbcbdbbbcdbhcbcbcbbbbbbbbbbbbbbbbcbbbbbbbbbbbbbbbbbccbbbdbb
bbbbbbbbbbbbbbbbbbbbbbbbbbbbbbbbbbbbbbbbbbbbbbbbbbbbbbbbhcbccbbebbbbbbbbJmbBqbbbdbibgbbdbbbcbrbjwbmddcbbbbbbbbbb
bbbbbbbbbbbbbbbcccbbbccBzBwbbbbbbbbbbbbbbbbbbbbbbbbbbbbbbbbbjbbbbbbbbbbbbbbbbbbbbbbbbbbbbbbbbbbbbbbbbbbbbbbbbbbb
bbbcbbbbbbbbbbbbcbbbbbbbbbbbbbbbbbbbbbbbbbbbbbbbbbbbbbbbbbbbbbbbbbbbbbbbbbbbbbbbbbbbbbbbbbbbbbbbbbbbbbbbbbbbbbbb
cBmBwbEFgBmbbfbBFegDFukgBrcdMibbbbbbbbbbbbbbbbbbbbbbbbbbbbbbbbbbbbbbbbbbbbbbbbbbbbbbbbbbbbbbbbbbbbbbbbbbbbbbbbbb
bbbbbbbbbbbbbbbbbbbbbbbbbbbbbbbbbbbbbbbbbbbbbbbbbbbbbbbbbbbbbbbbbbbfccbbbbbbbbbbbbbbbbbbbbbbbbbbbbbbbbbbbbbbbbbb
bbbbbbbbbbbbbbbbbbbbbbbbbbbbbbbbbbbbbbbbbbbbbbbbbbbbbbbjiigkiiiiglbbbbbbbiiqBwcdcgfdcglemffdcgLlbdcgbBtqtbBFmBa
CSuBwBwbbdcbbbbbbebbcbidbbbbbbbbbbbbbbbbbbbbbbbbbbbbbbbbbbbbbbbbbbbbbbbbbbbbbbbbbbbbbbbbbbbbbbbbbbbbbbbbbbbbbbbb
bbbbbbbbbbibbbebBTYjbbbbbbbbbbbbbbbbbbbbbbbbbbbbbbbbbbbbbbbbbbbbbtbbbbbbbbbbbbbbbbbbbbbbbbbbbFfbbbbbbbbbbbbbdbbb
bbbbbbbbbbbbbbbbbbbbbbbbbbbbbbbbbbbbbbbbbbbbbbbbbbbbbbbbbbkbbbbcbbbbbbbbebbbcbbbdbbbbbbbbbbbbbbbbbbbbfbfbbbbbbbb
bbbbbbbebbbcbbbbbbbbbbbbbbbbybBIgDcBAZohmfBNtBaBUzBoFgBkGalbpbhbcCQcBzGbwEGoBgBGJwBgCmzBUHzBi
"

/-- The characters with the property Changes_When_Casemapped. -/
def changesWhenCasemapped : ScalarSet := Compact.set "
CnBagBaCgbkxbBfbCmbDgbBccoccbbeDpbsgBbbcbbbcdcbebfcbbccbhbcbbcdgfbkcGkbBqeccddbbgbbdbbbubBvdBhbfbFdiGkbBmkBnEFg
BmbbfbcBrcdZwDicgDFulfBrcdHdbdbqbEjGacbbEocgcBmcgcibbbbbbbBfcCbbhbbddbhdecgenfdbhLlbdcgbBbbrBgdcBFlCaCRuEjbcbch
DyhedcmBmbbfbBTWcBusBcFeocCkjpddcfbzbBjbbbhycBHcbBcDcBAZohmfBNtBagBaBTtDcDsBkeBkEmlbpbhbcblbpbhbcCOpBznBzDpwkw
EFiCmBGIqCmBgzczBUGyCq
"

/-- The characters with the property Emoji. -/
def emoji : ScalarSet := Compact.set "
BjbgbfkEhbebLYrbmbIibwbDmgpcOdcmbGkbzledHrbIxckbjbCgebfjbcbcccbebcbbccbdbdcidfbbbfmlccbbcbbsbccsgbbbcdcfbcceclcf
ccbfcbbbcucfgbecbebcbcgbbcbbbbbgbdbgbkcpbcbebbbedbblcBwdjbobobOicRvdtcBzbebBVubmbXdbbbGJQwbHubGecmcobckCxBabcxbu
bcjvcGsBicEiccbdcDfcdbKdbCllgbyhccimbcecbecnccbicjbfdmdidcbbbebgbdbgDiBwCsficedkdbbcdbckItmebKxBvbkbHdEindldCfbb
eqcmek
"

/-- The characters with the property Emoji_Presentation. -/
def emojiPresentation : ScalarSet := Compact.set "
NHqcHxedbcbUbcvcBymBrbtbnbicrcfcibfbvbhcbbebcbhbecBcbBjbbbedbbCjdybobBHbcBzbebGMKkbHubHibckCxBabbybubcfbdvcGsBhm
jbCsbwmBrefmrdbdCtbbbHfcClnebysbBacnbDiDhBwCsgbddcedelchjItmebKxBvbkbHdEindldCfbbeqcmek
"

/-- The characters with the property Emoji_Modifier. -/
def emojiModifier : ScalarSet := Compact.set "
HEIdf
"

/-- The characters with the property Emoji_Modifier_Base. -/
def emojiModifierBase : ScalarSet := Compact.set "
OLhbIlbqeGPJbbCidcbcdEncclvtdbedbdhbbbybHtcebvbecGsddfDfbqdjblbWdbcbiigbjkcdCebCjcbcbbrdbnIvdBqj
"

/-- The characters with the property Emoji_Component. -/
def emojiComponent : ScalarSet := Compact.set "
BjbgbfkMBjbIfbDCSxbDOIwBaTnfCEaeBSVUqDs
"

/-- The characters with the property Regional_Indicator. -/
def regionalIndicator : ScalarSet := Compact.set "
HDNqBa
"

/-- The characters with the property Prepended_Concatenation_Mark. -/
def prependedConcatenationMark : ScalarSet := Compact.set "
CHcgIhbBxbOucDcbDSXebpb
"

/-- The characters with the property Extended_Pictographic. -/
def extendedPictographic : ScalarSet := Compact.set "
GnbebLYrbmbIibwbDmgpcOdcmbDrbCsbzledHrbIxckbjbCgebgbmbEkkEoclbbbbgbdbgbkcpbcbebbbedbblfBtdjbobobOicRvdtcBzbebBVu
bmbXdbbbGJQsJwndBfbCigmcobcksCfBbpkbubcjbejQsfMgiKgBwEyEmmDhBrmeCeikgBoiBeDemBvbkbQzJwBNi
"

/-- The characters with the property IDS_Unary_Operator. -/
def idsUnaryOperator : ScalarSet := Compact.set "
SEoc
"

/-- The characters with the property ID_Compat_Math_Start. -/
def idCompatMathStart : ScalarSet := Compact.set "
MWwbebwbGGIkbzbBfbzbBfbzbBfbzbBfbzb
"

/-- The characters with the property ID_Compat_Math_Continue. -/
def idCompatMathContinue : ScalarSet := Compact.set "
GwcfbMAgbdlbpOhbebwbGGIkbzbBfbzbBfbzbBfbzbBfbzb
"

/-- The characters with the property Modifier_Combining_Mark. -/
def modifierCombiningMark : ScalarSet := Compact.set "
CKiccbFbbgbdcSncbddbBfb
"

/-- All properties by their names. -/
def all : List (List String × ScalarSet) :=
  [(["Alpha", "Alphabetic"], alphabetic), (["AHex", "ASCII_Hex_Digit"], asciiHexDigit),
   (["Bidi_C", "Bidi_Control"], bidiControl), (["Dash"], dash),
   (["DI", "Default_Ignorable_Code_Point"], defaultIgnorableCodePoint), (["Dep", "Deprecated"], deprecated),
   (["Dia", "Diacritic"], diacritic), (["Ext", "Extender"], extender), (["Gr_Base", "Grapheme_Base"], graphemeBase),
   (["Gr_Ext", "Grapheme_Extend"], graphemeExtend), (["Gr_Link", "Grapheme_Link"], graphemeLink),
   (["Hex", "Hex_Digit"], hexDigit), (["Hyphen"], hyphen), (["IDC", "ID_Continue"], idContinue),
   (["IDS", "ID_Start"], idStart), (["Ideo", "Ideographic"], ideographic),
   (["IDSB", "IDS_Binary_Operator"], idsBinaryOperator), (["IDST", "IDS_Trinary_Operator"], idsTrinaryOperator),
   (["Join_C", "Join_Control"], joinControl), (["LOE", "Logical_Order_Exception"], logicalOrderException),
   (["Lower", "Lowercase"], lowercase), (["Math"], math),
   (["NChar", "Noncharacter_Code_Point"], noncharacterCodePoint), (["QMark", "Quotation_Mark"], quotationMark),
   (["Radical"], radical), (["SD", "Soft_Dotted"], softDotted),
   (["Term", "Terminal_Punctuation"], terminalPunctuation), (["UIdeo", "Unified_Ideograph"], unifiedIdeograph),
   (["Upper", "Uppercase"], uppercase), (["WSpace", "White_Space", "space"], whiteSpace),
   (["XIDC", "XID_Continue"], xidContinue), (["XIDS", "XID_Start"], xidStart),
   (["STerm", "Sentence_Terminal"], sentenceTerminal), (["VS", "Variation_Selector"], variationSelector),
   (["Pat_Syn", "Pattern_Syntax"], patternSyntax), (["Pat_WS", "Pattern_White_Space"], patternWhiteSpace),
   (["Cased"], cased), (["CI", "Case_Ignorable"], caseIgnorable),
   (["CWL", "Changes_When_Lowercased"], changesWhenLowercased),
   (["CWU", "Changes_When_Uppercased"], changesWhenUppercased),
   (["CWT", "Changes_When_Titlecased"], changesWhenTitlecased),
   (["CWCF", "Changes_When_Casefolded"], changesWhenCasefolded),
   (["CWCM", "Changes_When_Casemapped"], changesWhenCasemapped), (["Emoji"], emoji),
   (["EPres", "Emoji_Presentation"], emojiPresentation), (["EMod", "Emoji_Modifier"], emojiModifier),
   (["EBase", "Emoji_Modifier_Base"], emojiModifierBase), (["EComp", "Emoji_Component"], emojiComponent),
   (["RI", "Regional_Indicator"], regionalIndicator),
   (["PCM", "Prepended_Concatenation_Mark"], prependedConcatenationMark),
   (["ExtPict", "Extended_Pictographic"], extendedPictographic), (["IDSU", "IDS_Unary_Operator"], idsUnaryOperator),
   (["ID_Compat_Math_Start"], idCompatMathStart), (["ID_Compat_Math_Continue"], idCompatMathContinue),
   (["MCM", "Modifier_Combining_Mark"], modifierCombiningMark)]

end TestScenario.Unicode.Property
