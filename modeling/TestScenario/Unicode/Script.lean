import TestScenario.Unicode.Compact

/-!
The script of each character, and the scripts of characters that several scripts use.
-/

namespace TestScenario.Unicode.Script

/-- The names of the scripts, the abbreviation first. The number of a script is its place in this list, counted from
    1; 0 means that the script is unknown. -/
def names : List (List String) :=
  [["Zyyy", "Common"], ["Zinh", "Inherited", "Qaai"], ["Arab", "Arabic"], ["Armn", "Armenian"], ["Beng", "Bengali"],
   ["Bopo", "Bopomofo"], ["Cher", "Cherokee"], ["Copt", "Coptic", "Qaac"], ["Cyrl", "Cyrillic"],
   ["Dsrt", "Deseret"], ["Deva", "Devanagari"], ["Ethi", "Ethiopic"], ["Geor", "Georgian"], ["Goth", "Gothic"],
   ["Grek", "Greek"], ["Gujr", "Gujarati"], ["Guru", "Gurmukhi"], ["Hani", "Han"], ["Hang", "Hangul"],
   ["Hebr", "Hebrew"], ["Hira", "Hiragana"], ["Knda", "Kannada"], ["Kana", "Katakana"], ["Khmr", "Khmer"],
   ["Laoo", "Lao"], ["Latn", "Latin"], ["Mlym", "Malayalam"], ["Mong", "Mongolian"], ["Mymr", "Myanmar"],
   ["Ogam", "Ogham"], ["Ital", "Old_Italic"], ["Orya", "Oriya"], ["Runr", "Runic"], ["Sinh", "Sinhala"],
   ["Syrc", "Syriac"], ["Taml", "Tamil"], ["Telu", "Telugu"], ["Thaa", "Thaana"], ["Thai"], ["Tibt", "Tibetan"],
   ["Cans", "Canadian_Aboriginal"], ["Yiii", "Yi"], ["Tglg", "Tagalog"], ["Hano", "Hanunoo"], ["Buhd", "Buhid"],
   ["Tagb", "Tagbanwa"], ["Brai", "Braille"], ["Cprt", "Cypriot"], ["Limb", "Limbu"], ["Linb", "Linear_B"],
   ["Osma", "Osmanya"], ["Shaw", "Shavian"], ["Tale", "Tai_Le"], ["Ugar", "Ugaritic"], ["Bugi", "Buginese"],
   ["Glag", "Glagolitic"], ["Khar", "Kharoshthi"], ["Sylo", "Syloti_Nagri"], ["Talu", "New_Tai_Lue"],
   ["Tfng", "Tifinagh"], ["Xpeo", "Old_Persian"], ["Bali", "Balinese"], ["Batk", "Batak"], ["Brah", "Brahmi"],
   ["Cham"], ["Egyp", "Egyptian_Hieroglyphs"], ["Hmng", "Pahawh_Hmong"], ["Hung", "Old_Hungarian"],
   ["Java", "Javanese"], ["Kali", "Kayah_Li"], ["Lepc", "Lepcha"], ["Lina", "Linear_A"], ["Mand", "Mandaic"],
   ["Mero", "Meroitic_Hieroglyphs"], ["Nkoo", "Nko"], ["Orkh", "Old_Turkic"], ["Perm", "Old_Permic"],
   ["Phag", "Phags_Pa"], ["Phnx", "Phoenician"], ["Plrd", "Miao"], ["Vaii", "Vai"], ["Xsux", "Cuneiform"],
   ["Cari", "Carian"], ["Lana", "Tai_Tham"], ["Lyci", "Lycian"], ["Lydi", "Lydian"], ["Olck", "Ol_Chiki"],
   ["Rjng", "Rejang"], ["Saur", "Saurashtra"], ["Sgnw", "SignWriting"], ["Sund", "Sundanese"],
   ["Mtei", "Meetei_Mayek"], ["Armi", "Imperial_Aramaic"], ["Avst", "Avestan"], ["Cakm", "Chakma"],
   ["Kthi", "Kaithi"], ["Mani", "Manichaean"], ["Phli", "Inscriptional_Pahlavi"], ["Phlp", "Psalter_Pahlavi"],
   ["Prti", "Inscriptional_Parthian"], ["Samr", "Samaritan"], ["Tavt", "Tai_Viet"], ["Bamu", "Bamum"], ["Lisu"],
   ["Sarb", "Old_South_Arabian"], ["Bass", "Bassa_Vah"], ["Dupl", "Duployan"], ["Elba", "Elbasan"],
   ["Gran", "Grantha"], ["Mend", "Mende_Kikakui"], ["Merc", "Meroitic_Cursive"], ["Narb", "Old_North_Arabian"],
   ["Nbat", "Nabataean"], ["Palm", "Palmyrene"], ["Sind", "Khudawadi"], ["Wara", "Warang_Citi"], ["Mroo", "Mro"],
   ["Nshu", "Nushu"], ["Shrd", "Sharada"], ["Sora", "Sora_Sompeng"], ["Takr", "Takri"], ["Tang", "Tangut"],
   ["Hluw", "Anatolian_Hieroglyphs"], ["Khoj", "Khojki"], ["Tirh", "Tirhuta"], ["Aghb", "Caucasian_Albanian"],
   ["Mahj", "Mahajani"], ["Ahom"], ["Hatr", "Hatran"], ["Modi"], ["Mult", "Multani"], ["Pauc", "Pau_Cin_Hau"],
   ["Sidd", "Siddham"], ["Adlm", "Adlam"], ["Bhks", "Bhaiksuki"], ["Marc", "Marchen"], ["Newa"], ["Osge", "Osage"],
   ["Gonm", "Masaram_Gondi"], ["Soyo", "Soyombo"], ["Zanb", "Zanabazar_Square"], ["Dogr", "Dogra"],
   ["Gong", "Gunjala_Gondi"], ["Maka", "Makasar"], ["Medf", "Medefaidrin"], ["Rohg", "Hanifi_Rohingya"],
   ["Sogd", "Sogdian"], ["Sogo", "Old_Sogdian"], ["Elym", "Elymaic"], ["Hmnp", "Nyiakeng_Puachue_Hmong"],
   ["Nand", "Nandinagari"], ["Wcho", "Wancho"], ["Chrs", "Chorasmian"], ["Diak", "Dives_Akuru"],
   ["Kits", "Khitan_Small_Script"], ["Yezi", "Yezidi"], ["Cpmn", "Cypro_Minoan"], ["Ougr", "Old_Uyghur"],
   ["Tnsa", "Tangsa"], ["Toto"], ["Vith", "Vithkuqi"], ["Kawi"], ["Nagm", "Nag_Mundari"], ["Gara", "Garay"],
   ["Gukh", "Gurung_Khema"], ["Krai", "Kirat_Rai"], ["Onao", "Ol_Onal"], ["Sunu", "Sunuwar"], ["Todr", "Todhri"],
   ["Tutg", "Tulu_Tigalari"], ["Berf", "Beria_Erfe"], ["Sidt", "Sidetic"], ["Tayo", "Tai_Yo"],
   ["Tols", "Tolong_Siki"]]

/-- All characters by the number of their script. -/
def stretches : List Compact.Stretch := Compact.partition "
CnbBaBagbBaBaBvbbBapbbBafbxBabbBfBabbRhBaBnbfBafbcgubEicepbbdpcaepbbbpeabpbbbpbbdpbabpbaupbaClpoiqpFdjccGnjbaBme
caByecadebaCduiaBbueagulafdbbgdbbodbbddbbBgdbbkdlcBadbcEedbbBidoBjbaCiBjcadBjBwdByBmoaChCxcadCxBuDxcapDxbaBcCvca
bCvbalBjfaBidfaCxdbbBddDdlecplcbBalefbaifcacfcawfbahfbabfdaefcajfcacfcaefiabfeacfbaffcazfcadrbagreacrcawrbahrba
crbacrbacrcabrbafreacrcadrdabrhaerbabrharrkadqbajqbadqbawqbahqbacqbafqcakqbadqbadqcabqpaeqcamqhahqbadBgbaiBgca
cBgcawBgbahBgbacBgbafBgcajBgcacBgcadBghadBgeacBgbafBgcasBgkacBkbagBkdadBkbaeBkdacBkbabBkbacBkdacBkdadBkdamBkea
fBkdadBkbaeBkcabBkgabBkoavBkfanBlbadBlbaxBlbaqBlcajBlbadBlbaeBlhacBlbadBlbacBlcaeBlcakBlhajBlnwbadwbaxwbakwbafw
cajwbadwbaewhacwfadwbaewcakwbadwmanBbbadBbbaBzBbbadBbbagBbeaqBbcaBaBbbadBibasBidayBibajBibabBicahBidabBieagBiba
bBibaiBigakBicadBimaCgBneabbBcBnBlaczbabzbafzbayzbabzbaxzcafzbabzbahzbakzcaezBgaCuBobaBkBoeaBnBobaBkBobapBobahBo
ebcBoBlaGeBdBmnbabnfabncaBrnbbenJwtCvmbaemcahmbabmbaemcaBpmbaemcaBhmbaemcahmbabmbaemcapmbaCfmbaemcaCpmcaBgmdaBam
gaDihcaghcaYqBpBdBedaCxBhdblBhhawBrjabBrvBscbjauBtmanBubadBubacBumaDqycakygakygacBccbbBcbbuBcgaDlBchaBrBcfaCsBp
kaBfBxbamBxeamBxeabBxdamBxBeCbcafCblaBsCheaBaChgalChdacChBgyBcCdcacCdClDgbaBdDgcalDggakDggaoDgcaBuccamcuaCzCkba
ByCkCmDnCaCliaeClCeCtdapCtdadCtBwDjljfaBrncadniDniadcbbncbbhcebbcgbbcdbccbbfaBmBafpbjBxBafpeBafpnBabjCsBabpCmc
JwBawpcagpcaBmpcagpcaipbabpbabpbabpbaBfpcaCbpbappbaopcagpbatpcadpbajpbambccDjbbalbbBacalbbBapbbanBadaBiboaBhcpa
BmbbpdbcBagbbBaBbbbBarbBpBadbeaZqbwalbvaBJsbJwBvYebcaFibDsCeBgBaEmifahiBmnbabnfabncaCeCihacCioabCixmjahmbahmbahm
bahmbahmbahmbahmbahmbaBgjDqbBiaBasbaDlsmaIgsBaavbbsbbbszbjsecctibesebbaDivcacccbdvbbDmxcbdxfaBrgbaDqtbaqbBggBmb
jabbqxBftbaCmbBftDdbBvxbbDkxGmbJTosCmbBFBksBSvBqdaCdBqjaBwEaLoDduaDsjDkDziaBibDyBadbDeBauapBaBtCgdakbgaCeDaia
CsDliamDlgaBglBuCsbbbCsBkDklabDkBdtdaDaCrbabbkCreacCrBfBdbaCdCnjaoCncakCncaeCnBgBdCpDyyafDyxDokagmcagmcagmjahmba
hmbaBrBabbjBabpeBacbeaDchBuDocakDogaQNstmaxteaBxtJMiaOcscaEcsBmahBamafefaBaubafubabubacubacubakuTadcbFodBgaqdqc
kbgaoccjBjbbatbbaebeafdbaFfdcabbbaBgbBaBagbBaBalbkxbbBtxcbBftdagtcagtcagtcadtdahbbahbkafbcamBybaBaBybatBybacByba
pBycaoByBiaEtByfadbeaBtbdajbDbpbanbdabpBvaBtbbcFaaBdDhdaBxDfpabcBbbeaBkBfjadBfBbofaBrCzfaBeCcbabCcBkCjeaoCjBqa
DckBwCaBeBzcakBzgaBkFieaBkFieaBoEeiaCaEwlabEwlGfbapGfbahGfbacGfbalGfbapGfbahGfbacGfdaCaGnmaLzCujawCukaiCuyagBaba
BqBabajBaCragBwcabBwbaBsBwbacBwdabBwcabBwwDpbajDpBgEkBfEjiajEjBwatEzbacEzfafEzBcDbdabDbBaDifabDiBaGqBmaBgCwyEhea
uEhcaBuEheCfbacCffaiCfbadCfbaBdCfcadCfeakCfhajCfhaBgEbBgEiBgaBnDteamDtjaCcDqdahDqwDwcaiDwtDufaiDusDvhaeDvmahDv
DcaCvCyCdaBzCqnaBzCqhagCqBoFqiakFqgaBmGidaBdGiiacGiIaaBfdbaBqGabadGacacGaqagdiajdBhagdBoFsiaBqFrwaBaGcBmaBcFxua
xFtjaDaCmeaBkCmjabCmCpDskabDscazEqhakEqgaCbDrbasDriaBnExjaDsEpbauBilasEubaBvEuCkahFbbabFbbaeFbbapFbbalFbgaChElfa
kElgaeEfbaiEfcacEfcawEfbahEfbacEfbafEfbabcjEfcacEfcadEfcabEfgabEffahEfcahEfdafEflakGobabGocabGobaBmGobakGobabGo
cabGobaeGobakGobacGoiacGoBdaDoFhbafFhBeaCuEviakEvGkaCcFdcaBmFdBiaCrFalakFaganBctaCgErgakErgauBdBcaBbEycapEyeaxEy
HdaCiFmDwaDfEmmabEmhFycabFycaiFybacFybaBeFybacFycamFyjakFyCsaiFvcaBuFvcalFvBbaCuFliaDfFknaqBpCfFchaklDiaiEpDka
BiGmoakGmgajFfbaBtFfbaoFfkaBdFfdaBgFgcawFgbaoFgCvahFjbacFjbaBsFjdabFjbacFjbajFjiakFjgagFnbacFnbaBlFnbacFnbagFnha
kFngaBsGseakGsJmazFoharGgbaBpGgdaBdGgDhabEapaByBknabBkBJmDeDyaEhDebafDelaHoDeDXkaDvGbnaBQsCokaFXrCofaWlEtKDda
CgGjCOsaVxDzhaBfEnbakEneacEnDbGdbakGdgaBeEccagEckaCsCpkakCpbahCpbavCpfatCpQqaCgGkHqaDnFpfazGpcazGpBsaCxDceaCfDc
harDcCmabEsbEocsbFzlahsjaKFwEsScFzBpabFzBfEsDtaElEsMWraexbahxbacxbabxLbvdxpabvBdadvcabxoaexiaPgEoDKuaEdEdfanEdda
jEdhakEdcaeEdebFVgaJtbdaQubgaxbparbpaBuccaxcjaEmbCiaJmbkaBnbcaCkbdcrbiccbhcBebecCjbvaCspEsaubmaubmaDjbjazbFfaDhb
baCtbbacbcabbcacbcaebbambbabbbahbbaCnbbaebcaibbahbbaBcbbaebbafbbabbdahbbaNcbcaLgbcaBybZcDmpafDmbapDmBQmaBfBaga
gBaIfahCebarCecahCebacCebafCefaCkjBhabjEiaBtFudaoFucakFueacFuMiaBfGeraCgFwfabFwRwaBqGhIgaBrGleabGlHkaBfGrbawGria
cGrIqahmbaembacmbapmbaHpEgcaqEgBpaCyFeeakFeeacFeBEfaCqbCyaCjbHmaedbaBbdbacdbabdcabdbakdbaedbabdbabdgabdeabdbabd
babdbaddbacdbabdcabdbabdbabdbabdbabdbacdbabdcaedbahdbaedbaedbabdbakdbardfaddbafdbardCaacdKkaBsbeaDwbmapbcapbbapb
baBlbkaGsbCeaBabbvcbnaBsbeajbhacboagbFyaBLxbdarbdanbdaIkbgambeabbpambeaCebiakbgaBobiaBebcambeacboajbBnaNgbiaobca
nbdalbdaCfbbabbeaqbcambeakbhaFrbbaDzbBNpaCLFcsBgaGMoscaIOcscaLBlspaXysDQwaUwsCFyaHHzsfaMOosBOGOdabbBeaDsbEyaJgc
LECua
"

/-- Sets of scripts that share characters, by their abbreviations. -/
def sharing : List String :=
  ["Copt Geor Goth Grek Hani Latn Shaw Glag Perm Cari Lydi Avst Dupl Elba Mahj Gong",
   "Beng Cyrl Deva Latn Thai Lisu Toto", "Bopo Latn", "Latn Lisu", "Latn Thai",
   "Cher Copt Cyrl Grek Latn Tale Perm Sunu", "Cher Cyrl Grek Latn Tale Osge Sunu Todr", "Cher Cyrl Latn Tfng",
   "Latn Syrc Thai Glag Sunu", "Cher Copt Cyrl Goth Grek Latn Syrc Tfng Aghb Osge Todr",
   "Copt Goth Kana Latn Glag Elba", "Cyrl Grek Latn Tfng Perm", "Copt Hebr Latn Syrc Tale Tfng Perm Dupl Todr",
   "Armn Cyrl Goth Grek Hebr Latn Syrc Tale Tfng Perm Dupl", "Latn Tfng", "Latn Syrc Dupl", "Cher Cyrl Latn Osge",
   "Cher Latn Tale", "Latn Sunu", "Ethi Latn", "Cyrl Latn Todr", "Grek Latn Perm Todr",
   "Cher Kana Latn Syrc Tfng Dupl", "Cher Latn Syrc Dupl", "Latn Syrc", "Latn Syrc Sunu", "Cher Latn Syrc",
   "Cher Goth Latn Syrc Thai Aghb Sunu", "Grek", "Latn Osge", "Latn Aghb Todr", "Latn", "Copt Grek", "Cyrl Perm",
   "Cyrl Glag", "Cyrl Latn", "Armn Geor Glag", "Arab Syrc Thaa Nkoo Rohg Yezi Gara", "Arab Syrc Thaa",
   "Arab Syrc Thaa Nkoo Adlm Rohg Yezi Gara", "Arab Syrc Mand Mani Phlp Adlm Rohg Sogd Ougr", "Arab Syrc",
   "Arab Thaa Yezi", "Arab Rohg", "Beng Deva Gujr Guru Knda Latn Mlym Orya Taml Telu Gran Shrd Tirh Newa Nand",
   "Beng Deva Gujr Guru Knda Latn Mlym Orya Taml Telu Gran Tirh Newa",
   "Beng Deva Gujr Guru Knda Mlym Orya Sinh Taml Telu Sylo Gran Sind Takr Tirh Mahj Gonm Dogr Gong Nand Onao",
   "Beng Deva Gujr Guru Knda Mlym Orya Sinh Taml Telu Limb Sylo Gran Sind Takr Tirh Mahj Gonm Dogr Gong Nand Gukh Onao",
   "Deva Kthi Mahj Dogr", "Beng Sylo Cakm", "Guru Mult", "Gujr Khoj", "Taml Gran", "Knda Nand Tutg",
   "Mymr Tale Cakm", "Geor Latn Glag", "Runr", "Tglg Hano Buhd Tagb", "Mong Phag", "Beng Deva Knda Gran", "Deva",
   "Deva Knda Gran", "Beng Deva Telu Tirh Newa", "Beng Deva Telu", "Deva Shrd Newa", "Beng Deva Telu Newa",
   "Deva Shrd", "Deva Knda Mlym Orya Taml Telu", "Beng Deva", "Deva Tirh Newa", "Deva Newa Nand", "Beng Deva Shrd",
   "Deva Newa", "Beng Deva Shrd Newa", "Beng Deva Knda Mlym Orya Sinh Telu Gran Tirh Nand Tutg", "Deva Gran",
   "Deva Knda Gran Tutg", "Beng", "Nand", "Cyrl Latn Syrc", "Syrc", "Latn Mong Phag", "Arab Adlm",
   "Geor Glag Hung Orkh Cari Lyci", "Grek Hung Mero Cari", "Deva Latn Gran", "Copt Latn", "Orkh Avst",
   "Geor Hung Cari Lydi Avst Kthi Samr", "Dupl", "Arab Hung Adlm", "Hani Tang",
   "Bopo Hani Hang Hira Kana Mong Yiii", "Bopo Hani Hang Hira Kana Mong Yiii Phag", "Bopo Hani Hang Hira Kana",
   "Hani", "Bopo Hani Hang Hira Kana Mong Tibt Yiii", "Bopo Hani Hang Hira Kana Mong Tibt Yiii Lisu",
   "Bopo Hani Hang Hira Kana Yiii", "Bopo Hani", "Hira Kana", "Hani Hira Kana", "Hani Latn",
   "Deva Gujr Guru Knda Mlym Kthi Sind Shrd Takr Khoj Tirh Mahj Modi Dogr Nand Tutg",
   "Deva Gujr Guru Knda Kthi Sind Shrd Takr Khoj Tirh Mahj Modi Dogr Nand Tutg",
   "Deva Gujr Guru Kthi Sind Takr Khoj Tirh Mahj Modi Dogr",
   "Deva Gujr Guru Kthi Sind Shrd Takr Khoj Tirh Mahj Modi Dogr", "Beng Deva Tutg", "Deva Taml", "Latn Mymr Kali",
   "Bugi Java", "Arab Nkoo", "Arab Thaa", "Cprt Linb Cpmn", "Cprt Linb", "Cprt Linb Lina", "Arab Copt", "Mani Ougr"]

/-- All characters by the place of their set of scripts in `sharing`, counted from 1; a character with the number 0
    belongs to its own script alone. -/
def sharedStretches : List Compact.Stretch := Compact.partition "
HbabbTwabckabdbaddbabejabfbabdBmabgbhbibjbkblbmbnbobpbqbrbsbtbubabtbvbabwpabxbybzhabBabzbabBbbBcqabBdcabBdsabBe
fabBfeanBgeacBhKjabBibBjcBkbBjJxabBlFaabBmoabBmbBncabBoBgabBpkalBqkakBrgabBqDvabBsYmabBtbBurabBvbBwkBxEoakByEoa
kBzEoakCaJmaoCbJiakCcBGqakCdGvabCeCGladCfCtacCgHvacChbabChBVeabCibCjbCibCkbCjbClbCmbCnbCobCpbCqbCjcCpcCjbCpbCr
bCsgCjbCtbCubCvbCjbCweCjbCxbCybCzcCrbDacCybDbHpacBdCcabDcbabDdVsabDeBfabDfkabDgcabDhFqabDiEZmabDjyabDkbDlkabDmea
bDnbabBjQmaqDobabDpbDqbDrcabDsbacDtcDugDvbabDriDveDrkaeDwcabDrfDxbabDreacDycDsDlaeDxdabDxDmabDvbDxFraqDsBgaBmDs
jabDoBwaBoDsCeaBxDspamDsBzabDsDkazDskafDsDsaBfDsBRIuabBjFoaiDzLkadEadEbcEcbEdbEcHbabEebabEfCgabEgGeabEhBCOsacEi
GwabEjkabEjCtacDrKwafDvkabDxBtacDxNoacEkbEleaBtEmdajElQaaBcEnDAkabEoDBiabCbbabCbCdacCbETvacCbbabCbCHJwaeDmIPwa
sDsLRyacDsCEDJya
"

/-- The characters of the script with a number. -/
def set (number : Nat) : ScalarSet := Compact.labelled stretches (· == number)

/-- The abbreviation of the script with a number. -/
def abbreviation (number : Nat) : String := ((names[number - 1]?.bind List.head?)).getD ""

/-- The characters that the script with a number uses. -/
def users (number : Nat) : ScalarSet :=
  let short := abbreviation number
  let numbers := (sharing.zipIdx 1).filterMap fun (scripts, i) => if (scripts.splitOn " ").contains short then some i else none
  let own := (set number).diff (Compact.labelled sharedStretches (· != 0))
  own.union (Compact.labelled sharedStretches numbers.contains)

end TestScenario.Unicode.Script
