import TestScenario.Unicode.Compact

/-!
The version of the character set in which each character was assigned.
-/

namespace TestScenario.Unicode.Age

/-- The versions. The number of a version is its place in this list, counted from 1; 0 means that a character is not
    assigned. -/
def versions : List (Nat × Nat) :=
  [(1, 1), (2, 0), (2, 1), (3, 0), (3, 1), (3, 2), (4, 0), (4, 1), (5, 0), (5, 1), (5, 2), (6, 0), (6, 1), (6, 2),
   (6, 3), (7, 0), (8, 0), (9, 0), (10, 0), (11, 0), (12, 0), (12, 1), (13, 0), (14, 0), (15, 0), (15, 1), (16, 0),
   (17, 0)]

/-- All characters by the number of the version that assigned them. -/
def stretches : List Compact.Stretch := Compact.partition "
TibeeBebiebgbhsedhliojDlbfechBvbbekbferhCsbjebgihfidhcbbengekcbckcabbdjbbbqeahbbabbbaubbaBsbbkhbbecgbbbebbbebbbe
bbbesbcfbgfheibembbeCobbembbeBpbbkcecgeeCbbcgcbcgcbcgbjBcbceibcicbgjqgejqkclcmiqbaBmbcahbbuBnbbubbbecacqbnbarcbi
nckbbjjbbcdiiaBbbeabufblaehbnbqfkbibbjhfkbbbpbybibbbmBabfktbdedhgibmobcgCubcefbbepbbeBebchkbfebhoebaBeedhBbecadh
BeiskBxebgoaChjcaduBulcaplbaBcmcabmbaltfaBfybBccyfabBbiybnbqlngqcrbyiskxlybupsbrBbnbqbldbbhCbbcmsbblbmfbblcmzbck
fmbqclcjbicjbqdbbaibcacbcawbbahbbabbdaebcabbbhhbcacbcadbbiiabbeacbbafbcavbblctbucabhbbbhbagbeacbcawbbahbbacbbacb
bacbcabbbafbeacbcadbdabkhaebbabbhapbbkbukadbbahbbhbbbadbbawbbahbbacbbafbcakbbadbbadbcabbpabbdhcakbbnbhhabrgtbadb
baibcacbcawbbahbbacbbabhebcaibbkcacbcadbhabxcbeacbbadbckcalbbhgmkacbbagbdadbbaebdacbbabbbacbdacbdadbdaibbidbeafb
dadbbaebcabkgabboabimbihfabqdbbuibbadbbaxbbakbbqfbcabybkhbbadbbaebhacbbackbrbabBcbycacbckcakbhabvikbsbqcbbuibba
dbbaxbbakbbafbcachhbbadbbaebhacbfabBcbybbbacbcjcakbbacjbzmabtbqcbbxibbadbbaxbbmqbbmctbkgbbkbadbbaebbmbseadsbbhs
brcbckcakbgkdshkbabxcebasedayebajebabecahedabeeagebabebaiegakqcademaCgbeaBdbBlacbbabbbabvcbbvbbbabvbbgvebbvhbbv
dbbabbbabbcvcbbvnbbvdbcafbbabbbagbbzbakbcacbcnBgaCucbaBhcbeckeaBbcemgcbebcbavcdehcbebcdebapebabkbecidkelcmBlaBie
bkfebkcebkhedkeegkBaeCmkelckBmbbabnfabncaBnbcgcibbbidnDmbflCqbflDebglhebiClebibebaeecahebabebaeecaBnebibebaeeca
BfebibebaeecahebabebaeecahebihebaxebiBfebibebaeecahebiBnebitecacmciBcedaBaigaDhebrcagrcablYgejlBdedaDdeiqhangby
hgbyjabyxgjaugmangbadgbacgmaDpebhcakegakhgapebykegaDkebuhaBqebkfaCslkaBdhcqbamheamheabhdaBqhcafhlaBqicleaBaigaki
bldaciBghBcicaciCllbaBdlcallgaklgaolcapqcxoypBccamBcuaCyjbybacBbBtjcybBbBrkdnmkgnCamiaemCekdapkdaBzkjscBbfaBruca
duiniaBjlenbtcqbvfaEehDkihjBckpqetbybsbmblcjFzbbcekDmbgkwbcagbcaBmbcagbcaibbabbbabbbabbbaBfbcaCbbbapbbaobcagbba
tbcadbbajbbaBvbbexbbggefgchcibghifgbkbaephbbgcaBbbbafiimdalbbcbddecgeidlbmbodqbrbtbybBcoasbcehgbiejbkpaCfbcebhbi
pgbicjbkdlBwbbebjekblcreaDnbjemgJibogbbbeErbbebgBeeCagchlimjbllmhqesbtBlbcedBbwalbvaFjbugbhFubkgDcbieigubchcgbi
beDibcemgcikgihlibkclchqibjkkdlekklbmtlbmblemylbqebbmebcmBcbbmBjbbmbbbmebdmbbblhbcmhbogBfbdmybbmobbmhiejbnbkbncm
BcgekqgJweTsgohgihjfkejBpkdqfkflBaqcaBgqbBcbxBiqdumqbviqbtzuerpubvBvibyBvibynjdkbldkejgkclEdihlcnfaBtibabnfabnca
CcicnhabibmoabmxijahibahibahibahibahibahibahibahibaBgkyiekcitkblknhqcsftfubvdxlyBiaBaebaDlemaIgeBaameeBaCebdedg
bebbbaDgbcgcagbcgDqbbgfaBobbkbtbubaDqbbaqbyedmfxqiukcBbjabBaqgBdbchbaBkbmlbhpgBcbchbiBybpgmbehBvbbwEpbehDvbchBfb
bhJTeekxCmhBEXybwiikilbnjrvtfunxdyBSvedasecgqebgmebgdebgbejaBwlLokuaBgkcmskinBckgqbrbnDkliaxiejfkcjEdkcmbrcmcnmq
kmbndqbsbucqgrcugvcyfvexdBbcBccybBcbybBcfydBbuabBcdycxbqcnbmfkBsibxdaklgaCejiaCrkbsiamkgaBclcrcuDgklabkBdldaDal
balleaclBfqbaCdkjaokcakkcaekBcleqCplyaflxnkagmcagmcagmjahmbahmbaBwqercqcvexeaDcrBulcaklgaQNscmaxleaBxleaJXubcn
ChgdlcaEciBmahbmafbfabezbbafbbabbbacbbacbbaEebqmbyqBcObbqyCmbcBcCcbhBcbyBgfmbbgbhcyqgkigaebdkhqcrvbcgchkbbatbba
ebeadbbgbbbaFfbcabbbaDqbcgDqbdagbcagbcagbcadbdahbbahbkadebddbmhbaBahbathbachbaphcaohBiaEthfadheaBthdajhCxicqcsba
mkbxdabqBvaBukFaaBdkdaBxkpaBcqeaBffbqefjadtBbffaBrqfaBehbabhBkieaoiBqaBmfchBmfDchcakhgaBkseaBkseaBoqiaCaqlabqly
bapybahybacybalybapybahybacydaCaBbmaLzqjawqkaiqyagybaBqybajyCraghcabhbaBshbachdabhcabhwlbajlClqiajqBwatrbacrfafr
BajcldabjBakfabkBaBcBmaCeneacrcnqrcaBureibacifaiibadibaBbicucadieajibuhajihaBglBgqBgaBnqeamqjaCcldaBdlcaBblfail
sqhaeqmahqDcaCvlCdaBzrnaBzrhagrBouiakugaBmBbdaBdBbiacBbIaaBflbaBqxbadxcacxqadBbdBciajBcBhacBcbBbdzBouiaBquwaBay
BmaBcxuaxvjaDameaBemgyjabqColbykabucaznhakngaCbnbaondubxiaBnqjaCvnerbqcxknbqfrbauqlasqbaBrqbsdzCkahrbabrbaerbapr
balrgaChqfakqgabrdqbaiqcacqcawqbahqbacqbafqbabujqcacqcadqcabrgabqfahqcahqdafqlakBbbabBbcabBbbaBmBbbakBbbabBbca
bBbbaeBbbakBbbacBbiacBbBdaDmsbxbsbabsbubvcxBeaCuqiakqGkaCcqcasqurBiaCrqlakqganstaCenbvbygakngauBbBcaBarbucaprea
qrhyHdaCiuDwaDfqmabqhxcabxcaixbacxbaBexbacxcamxjakxCsaivcaBuvcalvBbaCutiaCatcvxtbuftnaqyCfqhakzDiaiBcDkaBiBboa
kBbgajsbaBtsbaoskaBdsdaBgscawsbaosCvahtbactbaBstdabtbactbajtiaktgagubacubaBlubacubaguhakugaBsBceakBcJmazuharzba
BpzdaBczbBbDhabxpaByvnabvBHvjBqqbrDyaDvjmqbaejbqlaHorDXkaDvynaBPflbzjvBdzkaFXrBbfaWlrKDdaCgBbCOsaVxmhaBfqbakqea
cqDbybakygaBeqcagqkaCsqkakqbahqbavqfatqQqaCgBbHqaDnufazBccazBcBsaCrngveabvBvnjvharnCmabsbtcvbxlacxfBcjaJBpsfugv
iBcBDbsSpxBpabBbjxwBcDtaElBcMWraeybahybacybacmKzteypabzBdadvcabzoaeviaPgtDKuaEdqfanqdajqhakqcaiqFVgaJqBbdBcda
QuBbgaxBcparBcpaBuycaxyjaEmyCiaJmfkaBnfcabkGyflrcyvaCsiEsauzmauumaDjhjasjhuFfaDhfbaCtfbacfcabfcacfcaefbamfbabfba
efbhcfbaCnfbaefcaifbahfbaBcfbaefbaffbabfdahfbaNafcicaLefcjcaByfZcrpafrbaprBQmaBfygagzIfahsbarscahsbacsbafsfaCkz
BhabzEiaBtvdaovcakveacvMiaBfyraCgvfabvRwaBqzIgaBrBbeabBbHkaBfBcbawBciacBcIqahybaeybacybapybaHpqcaqqBpaCxsbveaks
eacsBEfaCquCyaCjvHmaenbaBbnbacnbabncabnbaknbaenbabnbabngabneabnbabnbabnbadnbacnbabncabnbabnbabnbabnbabnbacnbabn
caenbahnbaenbaenbabnbaknbarnfadnbafnbarnCaacnKkaBskeaDwkmapmcaombqbapmbapmwqkallcqdxBflbubmbllmblbmblcmbldmbldm
flimblhmblkmcnbvdxjmblbmclcmblkmelcmblkmssbxCeaBamblcmnaBiljmbseajlhacmoagtFyaBhmmqdrgmbqCsmbqcrummqBlmbqfmeqfr
mqrmhqirClmbqbmbqHambqemcqbrCkmcqenhqfrymsqbsBpqbsDiqfmbnqmbndmbnbmbnbmbnbmbndmbngmcnembnbmcnembnmmcqcrlmBwqCsm
kqbrcsctbvcxbBcdabzdynqdaeqdsctbubvcxdaEmmdzeBcfzDhqeubzgamveabypamqeaCeqiakqgaBoqiaBeqcacxkBbeacBboajBcBnamtbx
dvjrgsbtisitbsctmsbvmsbtdupsntfubvbxeucxbybubveufrnsgtlucxgvdxcvkugvbrcuivbxbydvxtzuDgveBciaoucaevbxdzdvcydadvex
czbBbbBcdabBcbBbgvtxeydzhxeydzbBbbzdxdybBbbabBceabBcczhxdyczbBbcabBbiybzbBbbBceabBchyczhaFrxbaCdxBlBbkxbBcBNnacc
CLEtfhxcyBgaGDpleybzgBcIomcaINqrmBccaLBltpaXyBaDQwaUwfCFwaccHHzxfaGFgzGJiBcCZBwaccDSYoaccDSYoaccDSYoaccDSYoacc
DSYoaccDSYoaccDSYoaccDSYoaccDSYoaccDSYoaccbabfBeaDsfEyaJghDSFmaHLXic
"

/-- The number of a version. -/
def number? (version : Nat × Nat) : Option Nat := (versions.zipIdx 1).lookup version

/-- The characters that a version or an earlier one assigned. -/
def assignedBy (number : Nat) : ScalarSet := Compact.labelled stretches fun label => 0 < label && label ≤ number

end TestScenario.Unicode.Age
