import TestScenario.Unicode.Compact

/-!
The classes of characters that decide where graphemes, words and sentences end.
-/

namespace TestScenario.Unicode.Border

/-- The names of the classes of characters at the borders of graphemes. The number of a class is its place in this
    list, counted from 1. -/
def graphemeNames : List (List String) :=
  [["CN", "Control"], ["CR"], ["EX", "Extend"], ["L"], ["LF"], ["LV"], ["LVT"], ["T"], ["V"], ["SM", "SpacingMark"],
   ["PP", "Prepend"], ["RI", "Regional_Indicator"], ["ZWJ"]]

/-- All characters by the number of their class at the borders of graphemes. -/
def graphemeStretches : List Compact.Stretch := Compact.partition "
kbbfcbbcsbDraBhbnabbWwaEidKpahdKdaBtdbabdbacdbacdbabdCeaglkaldbabbBuavdqabdDxahdblbagdcacdbaedBhablbabdBeaBbdDna
ldCgajdjabdyaedbajdbaddbafdBraddCaaclfajdBqaydblBgdbkCcabdbkbdbadkidekbdckbahdkacdBdabdckCeabdbabdckedcackcackbd
jabdkacdBaabdcacdbkCeabdbadkcdeacdcadddabdBeacddabdlacdbkCeabdbadkfdbacdbkbackbduacdwagdbabdckCeabdbacdbkedcack
cackbdhaddkacdBeabdChabdbkbdckdadkbadkbdjabdBoabddkbdCdabdbaddekbaddbaedhacdlacdBdabdckCeabdbabkcdbkbdckbaddbaed
hacdlacdpabkmacdckCdacdbabdckedbadkbadkbdbliabdkacdBdabdckCsabdeabdckddbabdbahkbdsackCjabdbabkhdmaidDuabdbabkjd
lahdCvacdBbabdbabdbabdeackBxaodbkfdbacdfaldbaBkdjabdDyaedbkgdbacdckcdxackcdeaddqaednabdbabkcdgabdpabdDuaDseCuj
DkiNladdBKkaedBcaddBdacdBeacdCmacdbkhdikbdckldjabdBtaddbbbdEnacdBiabdEoaddekcddkeackbdgkddIlacdckbdCfabkbdbkhdba
bdbabdcaidgkkdcabdBwaBudcamduaedbkBvakdekddBmajdmacdbkBeabkedckgdCeabdbkcddkbdbkfdBwaikidckcdFwaddbandbkhdeabdga
bdcabkcdHqaCmdUdabbbdbncbyahbBxaqbDsaBhdEOcaddFlabdDsaBgdViagdEbacdBSQeaedbakdBgacdDcacdKmabddabdeabdxackcdbkea
bdDfackByaqkcdBaasdnabdBmaidzaldbkbdmaBdedaddbkBvabdckedckcdckbdBkabdCpagdckcdckcdmabdiabdbkBuabdBzabdbaddcacdfa
cdbabdBpabkcdckfabkbdJcackbdckbdckbabkbdsabgBbhbgBbhbgBbhbgBbhbgBbhbgBbhbgBbhbgBbhbgBbhbgBbhbgBbhbgBbhbgBbhbgBbh
bgBbhbgBbhbgBbhbgBbhbgBbhbgBbhbgBbhbgBbhbgBbhbgBbhbgBbhbgBbhbgBbhbgBbhbgBbhbgBbhbgBbhbgBbhbgBbhbgBbhbgBbhbgBbhbg
BbhbgBbhbgBbhbgBbhbgBbhbgBbhbgBbhbgBbhbgBbhbgBbhbgBbhbgBbhbgBbhbgBbhbgBbhbgBbhbgBbhbgBbhbgBbhbgBbhbgBbhbgBbhbg
BbhbgBbhbgBbhbgBbhbgBbhbgBbhbgBbhbgBbhbgBbhbgBbhbgBbhbgBbhbgBbhbgBbhbgBbhbgBbhbgBbhbgBbhbgBbhbgBbhbgBbhbgBbhbg
BbhbgBbhbgBbhbgBbhbgBbhbgBbhbgBbhbgBbhbgBbhbgBbhbgBbhbgBbhbgBbhbgBbhbgBbhbgBbhbgBbhbgBbhbgBbhbgBbhbgBbhbgBbhbg
BbhbgBbhbgBbhbgBbhbgBbhbgBbhbgBbhbgBbhbgBbhbgBbhbgBbhbgBbhbgBbhbgBbhbgBbhbgBbhbgBbhbgBbhbgBbhbgBbhbgBbhbgBbhbg
BbhbgBbhbgBbhbgBbhbgBbhbgBbhbgBbhbgBbhbgBbhbgBbhbgBbhbgBbhbgBbhbgBbhbgBbhbgBbhbgBbhbgBbhbgBbhbgBbhbgBbhbgBbhbg
BbhbgBbhbgBbhbgBbhbgBbhbgBbhbgBbhbgBbhbgBbhbgBbhbgBbhbgBbhbgBbhbgBbhbgBbhbgBbhbgBbhbgBbhbgBbhbgBbhbgBbhbgBbhbg
BbhbgBbhbgBbhbgBbhbgBbhbgBbhbgBbhbgBbhbgBbhbgBbhbgBbhbgBbhbgBbhbgBbhbgBbhbgBbhbgBbhbgBbhbgBbhbgBbhbgBbhbgBbhbg
BbhbgBbhbgBbhbgBbhbgBbhbgBbhbgBbhbgBbhbgBbhbgBbhbgBbhbgBbhbgBbhbgBbhbgBbhbgBbhbgBbhbgBbhbgBbhbgBbhbgBbhbgBbhbg
BbhbgBbhbgBbhbgBbhbgBbhbgBbhbgBbhbgBbhbgBbhbgBbhbgBbhbgBbhbgBbhbgBbhbgBbhbgBbhbgBbhbgBbhbgBbhbgBbhbgBbhbgBbhbg
BbhbgBbhbgBbhbgBbhbgBbhbgBbhbgBbhbgBbhbgBbhbgBbhbgBbhbgBbhbgBbhbgBbhbgBbhbgBbhbgBbhbgBbhbgBbhbgBbhbgBbhbgBbhbg
BbhbgBbhbgBbhbgBbhbgBbhbgBbhbgBbhbgBbhbgBbhbgBbhbgBbhbgBbhbgBbhbgBbhbgBbhbgBbhbgBbhbgBbhbgBbhbgBbhbgBbhbgBbhbg
BbhbgBbhbgBbhbgBbhbgBbhbgBbhbgBbhbgBbhbgBbhbgBbhbgBbhbgBbhbgBbhbgBbhbgBbhbgBbhbgBbhbgBbhbgBbhbgBbhbgBbhbgBbhbg
BbhbgBbhbgBbhbgBbhbgBbhbgBbhbgBbhbgBbhbgBbhbgBbhbgBbhbgBbhbgBbhbgBbhbgBbhbgBbhbgBbhbgBbhbgBbhbgBbhbgBbhbgBbhbg
BbhbgBbhbgBbhbgBbhbgBbhbgBbhbgBbhbgBbhbgBbhbgBbhbgBbhbgBbhbgBbhbgBbhbgBbhbgBbhbgBbhbgBbhbgBbhbgBbhbgBbhbgBbhbg
BbhbgBbhbgBbhbgBbhbgBbhbgBbhbgBbhbgBbhbgBbhbgBbhbgBbhbgBbhbgBbhbgBbhbgBbhbgBbhbgBbhbgBbhbgBbhbgBbhbgBbhbgBbhbg
BbhbgBbhbgBbhbgBbhbgBbhbgBbhbgBbhbgBbhbgBbhbgBbhbgBbhbgBbhbgBbhbgBbhbgBbhbgBbhbgBbhbgBbhbgBbhbgBbhbgBbhbgBbhbg
BbhbgBbhbgBbhbgBbhbgBbhbgBbhbgBbhbgBbhbgBbhbgBbhbgBbhmaxjeaBxiKHeabdBCjaqdqaqdHzabbGcacdDcambTtabdIsabdFtafdCMga
ddbacdfaedBoaddeabdGjacdWbaedCnafdMfacdCzagdCsaldBxaedEsabkbdbkCbapdBpabdcacdkaddbkBtadkedckcdcableabdkablByadd
BkafdbkidqackBsabdmacdbkBwadkjdbkbdbaclfaedbabkbdDoadkddckedgabdcabdGbabddkidvacdckCdacdbabdbkbdekcackcackbdjabd
kackcahddafdCpabdckgdbabdcabdbaddbkbackddblbdoacdDeadkidckddbkbdxabdDdabdckgdbkbdckbdbkcdbkcdJbabdckedcaekcdbkcd
BbacdDeadkidckbdbkcdEcabdbkbdckidDxabdbkbdcaedbkfdJwadkjdbkcdJlabdfkbackcaedblbkblbkbdFladkedcacdekbddabkBcakd
BoagdbkbaediabdjagdckddBoaglndbkcdHqabdbkddbkbdbkHrabkhdbagdbkbdDeawdbabkhdbkcdbkcdEsagddabdbacdbahdblbdCoafkba
cdbackbdbkbdNjacdckjacdblbkBwackfddackddxabdHXdaqbbdgapdQYyamddkddDSaafdChahdVkabjdaejSqabdbaCdkhaedDdabdlacd
BDAxacdbaebGYuaBudcaxdUwafddagdibidcahdBeaedFsaddCYdaCddeaBydiabdoabdwafdbapdCAiahdbardcahdbacdbafdDwabdGeahdOla
bdCjaedToaedJuacdJjabdcabdhacdfabdSgahdEfahdDGtaBamTnafdBSXXoaBgbDsdEybJgdFImbKYUia
"

/-- The names of the classes of characters at the borders of words. The number of a class is its place in this list,
    counted from 1. -/
def wordNames : List (List String) :=
  [["LE", "ALetter"], ["FO", "Format"], ["KA", "Katakana"], ["ML", "MidLetter"], ["MN", "MidNum"],
   ["NU", "Numeric"], ["EX", "ExtendNumLet"], ["CR"], ["Extend"], ["LF"], ["MB", "MidNumLet"], ["NL", "Newline"],
   ["RI", "Regional_Indicator"], ["HL", "Hebrew_Letter"], ["SQ", "Single_Quote"], ["DQ", "Double_Quote"], ["ZWJ"],
   ["WSegSpace"]]

/-- All characters by the number of their class at the borders of words. -/
def wordStretches : List Compact.Stretch := Compact.partition "
kabkcmbisabsbabqeabpeabfbablbakgbebffaBabeabhbaBabkabmBkabbcabchabbbabebbbabbfaxbbaBfbbaSmbgaBibEijfbbacbcaebbf
bbgabbbedbbabbbaubbaDfbbaFjbbahjGkbbaBmbcaebbabbbeBpbbfbbgaBtjbabjbacjbacjbabjiaBboeaeobbbelagggacfcaljbabcdaBrb
vjkgbabgbfbacbbjDvbbabbhjbgbagjcbcjbaejcbkgdbcabbpacbbjBebBbjcaDlbljbboakgBhbjjcbcabfbabbcabjcawbejbbjjbbdjbbfj
sazbdjealbfaybbahbcgfajjBqbyjbgBhjCcbdjbbsjbbhjkbcjcakgbaqbdjbaibcacbcawbbahbbabbdaebcabjbbhjcacjcadjbbiabjeacb
badbcjcakgcbkabbbabjcadjbagbeacbcawbbahbbacbbacbbacbcabjbafjeacjcadjdabjhaebbabbhakgcjdbbjladjbajbbadbbawbbahbba
cbbafbcabjbbijbadjbadjcabbpacbcjcakgjabbgjbadjbaibcacbcawbbahbbacbbafbcabjbbhjcacjcadjhadjeacbbadbcjcakgbabbqabj
bbbagbdadbbaebdacbbabbbacbdacbdadbdambeafjdadjbaejcabbgabjoakgqafjibbadbbaxbbaqbcabjbbhjbadjbaejhacjbadbbacbcacb
cjcakgqabbdjbaibbadbbaxbbakbbafbcabjbbhjbadjbaejhacjfadbbacbcjcakgbacbbjmaejjbbadbbaBpbcjbbhjbadjbaejbbfadbbjha
dbcjcakgkagbbadjbasbdaybbajbbabbcahbdabjeagjbabjbaijgakgcacjCjabjcahjmaijbakgDjabjcajjlahjbakgBmabbxacjgakglabj
babjbabjeacjibbaBkbeaujbacjfbljbaBkjjabjDwaujbakgmaejeadjbadjcahjdaejnamjbabjkgejcaBmbbabbfabbcaBrbbaMvbbaebcahb
babbbaebcaBpbbaebcaBhbbaebcahbbabbbaebcapbbaCfbbaebcaCpbcadjBgaqbqaDibcagbdaXwbcarbbsBabfaCxbdalbhasbejjatbdjla
sbcjmanbbadbbacjCmaBgjjabjcakgBhadjbcbjkggaDlbhafbcjBibbjbbfaCsbkaBfbbamjeamjkakgEyalgBlaxbfjCfakjbaBdjcabjkgga
kgwaBujcamjuafjBvbrjibdakgrajjmadjBebnjcbkgBsbojmaBkbujiakgdadbkgBkbcalbfaBrbcadbqadjbavjebbjgbbjcbdjbbfaHkbCmj
KsbcagbcaBmbcagbcaibbabbbabbbabbbaBfbcaCbbbahbbabbdadbbahbdaebcagbeanbfadbbahbdahsbadsbabjbrcciaclkablcabecmfcbh
pachdabfpabhkabsfcbakcbabbnabbqanbBzaBhjrabbeabbcakbbabbdafbgabbbabbbabbbaebbalbcaebfafbeabbraBpbBFhaCabCRuaIvb
gaebdjcbmaBmbbabbfabbcaCebhabbpabjxbjahbbahbbahbbahbbahbbahbbahbbahbbaBgjBvabbRwabseabbBkagjbafdfacbDoacjcddaDnd
baedfaBrbbaDqbraBgbBwaqdIaaBvdbaDkdBPDwaBSvbCpaBubcaKjbdaqbkgcbuaBvbejbakjbaBfbcjDcbcjwaIfbuarbbjdbbjebbjxbfjea
bjtaCabmacjBybsjkakggasjgbdabbbacbbjkgBcbijcaxbnjmaBdbdaejBvbojoabbkglabjkakggaBpbojjadbbjibcjcakgBhadjByabjbadj
cacjfacjbabjBealbfjcadbcjkagbcagbcagbjahbbahbbaCgbgaElbijbacjcakggaQNsbmaxbeaBxbKGaahbmafbfabobjkobanobafobaboba
cobacobakoDubBhaNzbsaCmbcaCcbBoambeaqjdabemaqjdachyadhbfbablbabfbeBaafbbaFfbcabchableabfbablbakgbebffaBabeabhba
BablaCedcjBfbdagbcagbcagbcadbBcadceambbaBabbatbbacbbapbcaobBiaEtbCraCbbFgabjFaaBdbdaBxbpabjBfaBgbnaBebfaBmbfjfa
BebcaBkbeaibbafbBqaGcbcakggaBkbeaBkbeaBobiaCabmalbbapbbahbbacbbalbbapbbahbbacbdaCabmaLzbjawbkaibyagbbaBqbbajbCra
gbcabbbaBsbbacbdabbcaxbkaxbjaBfbCnatbbacbkawbkaBabgaBabBmaCebgacbCmabbdjbacjfaejebbadbbaBdbcadjeabjBgaBdbdaBdb
BjaibbaBcbcjzaCcbkawbkatbnasbEgaCvbCdaBzbnaBzbnaBkbejiakggakgBcbdafjbaxbJqaBqbbacjdacbqagbByagjBdbkabbiawbljBfa
sbejBqavbBbaxbjadjCbbpjBfakgbjcbcjbbjaejBtbljcabgeabjkabgcazbhakggadjBkbojbakgeabbcjbbiaBjbbjcabbjadjBwbojebeaej
bacjkgbbbabbBjasbbazbmjgabjcbbjCkahbbabbbaebbapbbakbhaBvbmjfakggaejbaibcacbcawbbahbbacbbafbbacjbbhjcacjcadjcabb
gabjfafbcjcahjdafjlakbbabbcabbbaBmbbabbjjbabjcabjbaejbafjbbbjbbnacjBdaCbbsjebfakgeabjdbBeaBwbujcbbabbiakgGkaBvb
hjcajjxaebcjBiaBwbrjdabblakgBmaBrbnjbbhakggaugCfapjeakgHqaBsbpjDxaCmbkgvaibcabbcaibbacbbaybgjbacjcaejbbbjbbcjma
kgCsaibcaBnbhjcahjbbbabbbjBbabbkjBobhjbbejiabjiabbljBubqjdabbsaCvbDzaijDkaBhbpakggajbbaBlbijbaijbbpakgyaBebcawj
baojCvahbbacbbaBmbgjdabjbacjbahjbbbjiakggagbbacbbaBgbfjbacjbafjbbhakggaBsbeakgJmatbejjacjbbbjnbbaBibhjdafjnakgbj
DhabbDbaBJmbDyaEhbraHobDXkaDtbpaBPgbqcbjgbpjkaFXrbfaWlbKDdaBebsjkgCOsaVxbhaBfbbakggaDbbbakggaBebcafjlaBwbhjjaeb
makgjavbfatbQqaBtbdakgHqaCmbBgazbcazbBsaCxbeabjbbCdjhaejnbCmacbbabbbjlacjYGcaedbahdbacdbabdLbaddByabdoaedEAiaEdb
fanbdajbhakbdacjbaecGEmakgTyaBujcaxjUwafjdagjicijcahjBeaejFsadjRbaDhbbaCtbbacbcabbcacbcaebbambbabbbahbbaCnbbaeb
caibbahbbaBcbbaebbafbbabbdahbbaNcbcazbbazbbaBfbbazbbaBfbbazbbaBfbbazbbaBfbbazbbaibcaBygTsaCdjeaByjiabjoabjwafjba
pjBQmaBfbgagbIfahjbarjcahjbacjbafjfaCkbBhabjEiaBtbdahjhbcakgeabbMjaBebbjraBsbejkgScaBcbejkgIgaBebcjbbkgHpaBfbba
dbbjcbbjhbcjfbbjiacbIqahbbaebbacbbapbbaHpblahjBpaCqbhjbbeakgBTuaebbaBbbbacbbabbcabbbakbbaebbabbbabbgabbeabbbabb
babbbadbbacbbabbcabbbabbbabbbabbbabbbacbbabbcaebbahbbaebbaebbabbbakbbarbfadbbafbbarbYeaBabgaBabgaBabDoaBanTnafj
DAeakgBSUXbabcBeaDsjEyaJgjLECua
"

/-- The names of the classes of characters at the borders of sentences. The number of a class is its place in this
    list, counted from 1. -/
def sentenceNames : List (List String) :=
  [["AT", "ATerm"], ["CL", "Close"], ["FO", "Format"], ["LO", "Lower"], ["NU", "Numeric"], ["LE", "OLetter"],
   ["SE", "Sep"], ["SP", "Sp"], ["ST", "STerm"], ["UP", "Upper"], ["CR"], ["EX", "Extend"], ["LF"],
   ["SC", "SContinue"]]

/-- All characters by the number of their class at the borders of sentences. -/
def sentenceStretches : List Compact.Stretch := Compact.partition "
jabibnciblsabibjbceadccacobbbakfcodabjbaBakbcbabcdaBaebcbabchabhBaabijabebcbabdhabeeabebceaxkbahkyebaiebkbebkbe
bkbebkbebkbebkbebkbebkbebkbebkbebkbebkbebkbebkbebkbebkbebkbebkbebkbebkbebkbebkbebkbebkbebkbebkbebkbebkcebkbebkbe
bkbebkbebkbebkbebkbebkcebkbebkbebkbebkbebkbebkbebkbebkbebkbebkbebkbebkbebkbebkbebkbebkbebkbebkbebkbebkbebkbebkbe
bkbeckbebkbebkdeckbebkbeckbedkceekbeckbedkdeckbeckbebkbebkbeckbebkcebkbeckbedkbebkbeckcebgbkdeegckbeckbeckbebkbe
bkbebkbebkbebkbebkbebkbebkcebkbebkbebkbebkbebkbebkbebkbebkbebkceckbebkbedkbebkbebkbebkbebkbebkbebkbebkbebkbebkbe
bkbebkbebkbebkbebkbebkbebkbebkbebkbebkbebkbebkbebkbebkbebkbebkbebkbebkbebkbebkheckbeckcebkbeekbebkbebkbebkbebk
CrebgBkehgceeamgoafehabgbabgraEimbkbebkbebgbabkbecaeebobkgabkbadkbabkbackberkbajkBjebkcedkdebkbebkbebkbebkbebkbe
bkbebkbebkbebkbebkbebkbebkfebkbebabkbeckceBzkBwebkbebkbebkbebkbebkbebkbebkbebkbebkbebkbebkbebkbebkbebkbebkbebkbe
bkbebahmbkbebkbebkbebkbebkbebkbebkbebkbebkbebkbebkbebkbebkbebkbebkbebkbebkbebkbebkbebkbebkbebkbebkbebkbebkbebkbe
bkbeckbebkbebkbebkbebkbebkbebkcebkbebkbebkbebkbebkbebkbebkbebkbebkbebkbebkbebkbebkbebkbebkbebkbebkbebkbebkbebkbe
bkbebkbebkbebkbebkbebkbebkbebkbebkbebkbebkbebkbebkbebkbebkbebkbebkbebkbebkbebkbebkbebkbebkbebkbebkbebkbebkbebkbe
baBmkcabgdabocaBpebjhaBtmbabmbacmbacmbabmiaBbgeafgmagfgacocalmbabddjBrgvmkfbacfbacgbmDvgbjbghmbfbagmcgcmbaemcgkf
dgcabgdjmabdbgbmBegBbmcaDlglmbgoakfBhgjmcgcabobjbgcabmcawgembgjmbgdmbgfmjabjbabjdacjbazgdmealgfaygbahgcffajmBqg
ymbfBhmCcgdmbgsmbghmkgcmcjkfbaqgdmbaigcacgcawgbahgbabgdaegcabmbghmcacmcadmbgiabmeacgbadgcmcakfcgkabgbabmcadmbagg
eacgcawgbahgbacgbacgbacgcabmbafmeacmcadmdabmhaegbabghakfcmdgbmladmbajgbadgbawgbahgbacgbafgcabmbgimbadmbadmcabgpa
cgcmcakfjabggmbadmbaigcacgcawgbahgbacgbafgcabmbghmcacmcadmhadmeacgbadgcmcakfbabgqabmbgbaggdadgbaegdacgbabgbacgda
cgdadgdamgeafmdadmbaemcabggabmoakfqafmigbadgbaxgbaqgcabmbghmbadmbaemhacmbadgbacgcacgcmcakfqabgdmbaigbadgbaxgbakg
bafgcabmbghmbadmbaemhacmfadgbacgcmcakfbacgbmmaemjgbadgbaBpgcmbghmbadmbaembgfadgbmhadgcmcakfkaggbadmbasgdaygbajg
babgcahgdabmeagmbabmbaimgakfcacmnaBwgbmcghmfahgimbakfBnacgbabgbafgbaygbabgbakgbmcgjmbgcafgbabgbahmbakfcaegBgabg
xacmgakflabmbabmbabmeccmigbaBkgeaumbacmfglmbaBkmjabmCfaBrgumbgkfcjeaggemegdmbgdmcghmdgemngmmbgbmkfemcaBmkbabkfa
bkcaBrgbabeMugbaegcahgbabgbaegcaBpgbaegcaBhgbaegcahgbabgbaegcapgbaCfgbaegcaCpgcadmcabjeacjxaqgqaDikcagedaXwgbabj
rgbiBagccdaCxgdalghasgemjatgdmcjjasgcmmangbadgbacmmaCagBgmcjbabgeabgbmcakfyabobjeabobjbadmbdbmkfgaDlghafgcmBigbm
bgfaCsgkaBfgbammeammiacjkfBegcafglaBsgeaBaggalfBlaxgfmeaCbgkmbaBdmcabmkfgakfnabgejeaBumcammuafmBvgrmigbacjkfcjca
cjlajmjadjdmBegnmcgkfBsgommaBkgumdacjdakfdadgkfBkgcjjebkbefaBrgcadgqadmbavmegbmggbmcgdmbgfaHkeCmmbkbebkbebkbebk
bebkbebkbebkbebkbebkbebkbebkbebkbebkbebkbebkbebkbebkbebkbebkbebkbebkbebkbebkbebkbebkbebkbebkbebkbebkbebkbebkbebk
bebkbebkbebkbebkbebkbebkbebkbebkbebkbebkbebkbebkbebkbebkbebkbebkbebkbebkbebkbebkbebkbebkbebkbebkbebkbebkbebkbebk
bebkbebkbebkbebkbebkbebkbebkbebkbebkbebkbebkbebkbebkbebkbebkjebkbebkbebkbebkbebkbebkbebkbebkbebkbebkbebkbebkbebk
bebkbebkbebkbebkbebkbebkbebkbebkbebkbebkbebkbebkbebkbebkbebkbebkbebkbebkbebkbebkbebkbebkbebkbebkbebkbebkbebkbebk
bebkbebkbebkbebkbebkbebkbebkbebkjeikgecagkcaieikieikgecagkcaiebabkbabkbabkbabkieikoecaieikieikieikfebacefkbabeda
debacefkdaeecaceekeaiefkfadebacefkdalibdcmcddacodaiceabbdachfdbijaccbacjhaccdjvabifdbakdbabelaccbenaccbaneBzaBhm
rabkeabkcabedkcedkbebabkdafkgabkbabkbabkbaekbabeekbeegbecaceckfabkeeeaberaqkqedgbkbeegOtaecBdaccPfaBakBaeYbagcha
ocDbaccBfakcPnawcClaecBgaccTuaBwkBwebkbedkcebkbebkbebkbeekbebkcebkiedkbebkbebkbebkbebkbebkbebkbebkbebkbebkbebkbe
bkbebkbebkbebkbebkbebkbebkbebkbebkbebkbebkbebkbebkbebkbebkbebkbebkbebkbebkbebkbebkbebkbebkbebkbebkbebkbebkbebkbe
bkbebkbebkbebkbebkbebkbebkbebkbebkbebkbebkcegabkbebkbedmbkbefadjeaBmebabefabecaCeghabgpabmxgjahgbahgbahgbahgbahg
bahgbahgbahgbaBgmocoacccakceabjbgmabjfabcqacjicQdabibobjcadgkccaicbadcbajggmbafgcafgeaDigcacmcadgbaDmgbaegfaBrg
baDqgraBggBwaqgTsaJTogCmaBGUfgCpaBugbabjKjgbacjqgkfcguabkbebkbebkbebkbebkbebkbebkbebkbebkbebkbebkbebkbebkbebkbe
bkbebkbebkbebkbebkbebkbebkbebkbebkbebgembakmbabgbkbebkbebkbebkbebkbebkbebkbebkbebkbebkbebkbebkbebkbebkdecmDcgcm
babjdabjBfajgcabkbebkbebkbebkbebkbebkbebkdebkbebkbebkbebkbebkbebkbebkbebkbebkbebkbebkbebkbebkbebkbebkbebkbebkbe
bkbebkbebkbebkbebkbebkbebkbebkbebkbebkbebkbebkbebkbebkkebkbebkbeckbebkbebkbebkbebkbebgcabkbebkbebgbkbebkdebkbebk
bebkbebkbebkbebkbebkbebkbebkbebkbefkbefkbebkbebkbebkbebkbebkbebkbebkbeekbebkbeckbebkbebkbebkbebkbebkbebkbebkbebk
uaeebkbebgdehgbmdgbmegbmxgfmeabmtaCagcacjiacmBygsmiacjkfgasmggdabgbacgbmkfBcgimbabjxgnmmaBdgdaemBvgomhacjfabgkf
gafgbmkgkffgbaBpgomjadgbmigcmcakfdadjxgdabgdmBygbmbgdmcgcmfgcmbgbmbgyadgcalgfmcjdgcmkaggcaggcaggjahgbahgbaBreba
oegaDceBjgimbjcmcakfgaQNsgmaxgeaBxgJMiaOcgcaEcgBmahemafefabgbmkgbangbafgbabgbacgbacgbaEegBhaNzgccqaCmgcaCcgBoamg
eaqmcobjcocjcchaqmbacocaqccacchacobbbacocjbogceabomafgbaFfgcabdbabjgacccacobbbakfcodabjbaBakbcbabcdaBaebcbabcba
ccbjccbobaCegcmBfgdaggcaggcaggcadgBcaddeamgbaBagbatgbacgbapgcaogBiaEtgCraCbgFgabmFaaBdgdaBxgpabmBfaBggnaBegfaBmg
fmfaBegcaBkgeaigbafgBqaBokBoeDagcakfgaBkkeaBkeeaBogiaCagmalkbapkbahkbackbalebapebahebacedaCagmaLzgjawgkaigyabecg
debaBqebajeCraggcabgbaBsgbacgdabgcaxgkaxgjaBfgCnatgbacgkawgkaBaggaBagBmaCeggacgCmabgdmbacmfaemegbadgbaBdgcadmea
bmwacjiaBdgdaBdgBjaigbaBcgcmzaCcgkawgkatgnasgEgaCvgCdaBzknaBzenaBkgemiakfgakfggwkdafmbabgweJqaBqgbacmdacgqaggBya
gmBdgkabgiawglmeafjwasgemejBmavgBbaxgjadmCbgpmcjBdakfbmcgcmbgjaemBtglmcabfejbmkabfcazghakfgadmBkgombakfbadjbgcm
bgiaBjgbmcabgjadmBwgomegcjcaembjcmkfbgbabgbacjBgasgbazgmmcjbacjbabmcgbmCkahgbabgbaegbapgbakgbjgaBvgmmfakfgaemba
igcacgcawgbahgbacgbafgbacmbghmcacmcadmcabggabmfafgcmcahmdafmlakgbabgcabgbaBmgbabgjmbabmcabmbaembafmbgbmbgcjlacm
BdaCbgsmegcjdakfeabmdgBeaBwgumcgbabgiakfGkaBvghmcajmbacjfapjegcmBiaBwgrmcjbabglakfBmaBrgnmbghakfgaufBcaBbgcapmea
kfcadjbahgHdaBsgpmDxaBgkBgekfvaigcabgcaigbacgbayggmbacmcaembgbmbgcmbjbabjjakfCsaigcaBnghmcahmbgbabgbmBbabgkmBog
hmbgemdacjdabmiabglmBugqmbacjbgsaCvgDzaimDkaBhgpakfgajgbaBlgimbaimbgcjnakfyaBegcawmbaomCvahgbacgbaBmggmdabmbacm
bahmbgbmiakfgaggbacgbaBggfmbacmbafmbghakfgaBsgeakfJmatgemcjhacmbgbmngbaBighmdafmcjlakfbmDhabgDbaBJmgDyaEhgraHog
DXkaDtgpaBPggqdbmggpmkaFXrgfaWlgKDdaBegsmkfCOsaVxghaBfgbakfeacjDbgbakfgaBegcafmbjkaBwghmcjhaegbjlakfjavgfatgQqa
BtgbacjkfHqaBgkBgeyabjhazkcazeBsaCxgeabmbgCdmhaemngCmacgbabgbmlacmfgjaKXygBpaBggDtaElgMWraegbahgbacgbaLfgpabgBda
dgcabgoaegiaPggDKuaEdgfangdajghakgdacmbjedGEmakfTyaBumcaxmUwafmdagmidimcahmBeaemFsadmRbaBakBaeBakhebaseBakBaebk
backcabkcackcaekbaikeebabebahebaleBakBaeckbaekcaikbahkbaBaeckbaekbafkbabkdahkbaBaeBakBaeBakBaeBakBaeBakBaeBakBae
BakBcecazkbazebagezkbazebagezkbazebagezkbazebagezkbazebagebkbecaByfTsaCdmeaBymiabmoabmdabjsafmbapmBQmakebguegage
IfahmbarmcahmbacmbafmfaCkeBhabmEiaBtgdahmhgcakfeabgMjaBegbmraBsgemkfScaBcgemkfIgaBegcmbgkfHpaBfgbadgbmcgbmhgcmfg
bmiacgIqahgbaegbacgbapgbaHpglahmBpaBikBiehmbgeakfBTuaegbaBbgbacgbabgcabgbakgbaegbabgbabggabgeabgbabgbabgbadgbacg
babgcabgbabgbabgbabgbabgbacgbabgcaegbahgbaegbaegbabgbakgbargfadgbafgbargYeaBakgaBakgaBakBWmadcCBvakfBNqaCLFcgBga
GMogcaIOcgcaLBlgpaXygDQwaUwgCFyaHHzgfaMOogBOGOdabdBeaDsmEyaJgmLECua
"

end TestScenario.Unicode.Border
