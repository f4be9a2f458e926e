import TestScenario.Unicode.Compact

/-!
How letters of cursive scripts join their neighbours.
-/

namespace TestScenario.Unicode.Joining

/-- On which sides a letter joins another one. -/
inductive Kind where
  | none
  | both
  | left
  | right
  /-- Marks that joining passes over. -/
  | transparent
deriving DecidableEq, Repr

/-- All kinds. The number of a kind is its place in this list. -/
def kinds : List Kind := [.none, .both, .left, .right, .transparent]

/-- All characters by the number of their kind. -/
def stretches : List Compact.Stretch := Compact.partition "
GrabeWwaEieKpaheKdaBtebabebacebacebabeCualebabedabbbaedbbbdbbbdfbednbbahbbdcbveoacbbeddbaddqbsdBmbbdcbjdbbbdbbbd
cbcdbabdhecagecacebaeecdkadbcabbpabebdbedbfdebbdjbbdbbbdbbbdcbbdBbecabdlbddpbcdebbdbbcddbcdgbBmalezaBhbjejabeya
eebajebadebafesabdfbcdbbbdkbbdbbdddeeabbbaebbabdbbcdfatddabbcafbbdbbhajekbddbabdcbcdgbbdpbbayebaBgeCdabebabeeaie
eabedahekaceBdabeCgabeeaeeiabeuaceBaabecaceCfabeeaceeacecadedabeBeacedabelaceCfabeeafebaceeabeuacewagebabeCgabe
cabebaeeiabehacelaceBeabeCjabemabeByabedabeCdabebadefadebaeehacelaceBdabeCgabecabegabefaceuaceBcaceCfaceeaeeiabe
uaceBdabeCuabehadebabeDmabecahemaieDuabecajelaheCvaceBbabebabebabeCdaoebafebacefalebaBkejabeDyaeebagebacecaceza
ceeadeqaeenabecacegabepabeBBbadeBKkadeBdaceBeaceBeaceCmacebaheiabecalejabeBpabbdadebabeqaDlbmaceBibbebbEnadeeace
jabegadeIlacecabeCgabebahebabebabecaiegakecabeBwaBuecameuaeeBwabebafebabefabeBoajemaceBgaeecacebadeCeabebacedabe
badeCgaiecaceFwadebanebaheeabegabedaceHqaCmeUdabecaceBaafeBxafefageDsaBheEOcadeFlabeDsaBgeViaeeEdaceBSQeaeebake
BgaceDcaceKmabedabeeabezacefabetaBybbcDdaceBaasenabeBmaiezaleBuadeBwabecaeecaceBnabeCpagecacecacemabeiabeBvabe
BzabebadecacefacebabeBqaceiabeJeabecabeeabeBAYyabeBCjaqeqaqeHzabeJpadeTtabeIsabeFtafeCMgadebacefaeeBoadeeabeEya
fbbdbabdbacdcabcfdebbcfbbddbbdcabdceeaebbdFoabbbdbbdddbbdcbbdbbcdbbbdxaedcbMzabcBhbbdbbeeCnafeMfacevabdcbbacbBya
geBwadbbdrbbaledbbdBbaebcdmbeeBqabbbacbddbabbcdcbbdcbbabbcdbbeabdbbbcCbabeCcapeBpabecacekadeBxaeecacehabeCjade
BkafebaieCkabemaceCaajekaeecabeDradecabebacegabecabeGbabedaievaceCfacedabeBlahedafeCsagenabebabebabeoaceDhaieca
debabexabeDgagebabeeacebaceJeaeegacebaceBbaceDhaiecabebaceEcabebabecagebabeDxabebabecaeebafeJzajebaceJwacebabeea
beFoaeecaceeabeBgakeBoagecaeeiabejagecadeBuanebaceHqabebadebabeHtahebagebabeDeawecahebacebaceEsagedabebacebaheba
beCuacedabebabeNjacelaceCaafefabebabexabeHXdaregapeQYyamedadeDSaafeChaheBOiabeClaeeDdabeBDBkacebaeeGYuaBuecaxe
UyadejaqecaheBeaeeFsadeCYdaCdeeaByeiabeoabewafebapeCAiahebarecahebacebafeDwabeGeaheOlabeCjaeeToaeeJuaceJjabecabe
hacefabeSgaheBpaCqbieBTBYzabeBeaDseEyaJgeLECua
"

/-- The kind of a character. -/
def kind (c : Char) : Kind := kinds.getD (Compact.labelAt stretches (place c)) .none

/-- Whether the first character that joining does not pass over is of one of two kinds. -/
def reaches (a b : Kind) (cs : List Char) : Bool :=
  match cs.find? (kind · != .transparent) with
  | some c => kind c == a || kind c == b
  | Option.none => false

end TestScenario.Unicode.Joining
