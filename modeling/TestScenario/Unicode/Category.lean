import TestScenario.Unicode.Compact

/-!
The general category of each character.
-/

namespace TestScenario.Unicode.Category

/-- The names of the categories, the abbreviation first. The number of a category is its place in this list. -/
def names : List (List String) :=
  [["Cn", "Unassigned"], ["Lu", "Uppercase_Letter"], ["Ll", "Lowercase_Letter"], ["Lt", "Titlecase_Letter"],
   ["Lm", "Modifier_Letter"], ["Lo", "Other_Letter"], ["Mn", "Nonspacing_Mark"], ["Me", "Enclosing_Mark"],
   ["Mc", "Spacing_Mark"], ["Nd", "Decimal_Number", "digit"], ["Nl", "Letter_Number"], ["No", "Other_Number"],
   ["Zs", "Space_Separator"], ["Zl", "Line_Separator"], ["Zp", "Paragraph_Separator"], ["Cc", "Control", "cntrl"],
   ["Cf", "Format"], ["Co", "Private_Use"], ["Cs", "Surrogate"], ["Pd", "Dash_Punctuation"],
   ["Ps", "Open_Punctuation"], ["Pe", "Close_Punctuation"], ["Pc", "Connector_Punctuation"],
   ["Po", "Other_Punctuation"], ["Sm", "Math_Symbol"], ["Sc", "Currency_Symbol"], ["Sk", "Modifier_Symbol"],
   ["So", "Other_Symbol"], ["Pi", "Initial_Punctuation"], ["Pf", "Final_Punctuation"]]

/-- The names of groups of categories, and the abbreviations of the categories in them. -/
def groups : List (List String × List String) :=
  [(["LC", "Cased_Letter"], ["Lu", "Ll", "Lt"]),
   (["L", "Letter"], ["Lu", "Ll", "Lt", "Lm", "Lo"]),
   (["M", "Mark", "Combining_Mark"], ["Mn", "Me", "Mc"]),
   (["N", "Number"], ["Nd", "Nl", "No"]),
   (["Z", "Separator"], ["Zs", "Zl", "Zp"]),
   (["C", "Other"], ["Cn", "Cc", "Cf", "Co", "Cs"]),
   (["P", "Punctuation", "punct"], ["Pd", "Ps", "Pe", "Pc", "Po", "Pi", "Pf"]),
   (["S", "Symbol"], ["Sm", "Sc", "Sk", "So"])]

/-- All characters by the number of their category. -/
def stretches : List Compact.Stretch := Compact.partition "
BgpbmdxbzdxbubvbxbybxbtcxkjcxdycxBabbubxbvbBabwbBaBacbubybvbyBhpbmbxezbBbbxbBabBbbfbBcbybqbBbbBabBbbyclbBabccx
bBablbfbBddlbxxbbyhbycbyicbbbcbbbcbbbcbbbcbbbcbbbcbbbcbbbcbbbcbbbcbbbcbbbcbbbcbbbcbbbcbbbcbbbcbbbcbbbcbbbcbbbcbb
bcbbbcbbbcbbbcbbbcbbbcbbccbbbcbbbcbbbcbbbcbbbcbbbcbbbcbbccbbbcbbbcbbbcbbbcbbbcbbbcbbbcbbbcbbbcbbbcbbbcbbbcbbbcbb
bcbbbcbbbcbbbcbbbcbbbcbbbcbbbcbbbcbbbccbbcbbbcbbdccbbcbbbccbbcdbccebbccbbcdbdccbbccbbcbbbcbbbccbbcbbccbbbccbbcdb
bcbbbccbccbfbbdcefbbbdbcbbbdbcbbbdbcbbbcbbbcbbbcbbbcbbbcbbbcbbbcbbccbbbcbbbcbbbcbbbcbbbcbbbcbbbcbbbcbbccbbbdbcbb
bcdbbcbbbcbbbcbbbcbbbcbbbcbbbcbbbcbbbcbbbcbbbcbbbcbbbcbbbcbbbcbbbcbbbcbbbcbbbcbbbcbbbcbbbcbbbcbbbcbbbcbbbcbbbcbb
bcbbbcbbhccbbccbccbbbcebbcbbbcbbbcbbbcbbCrcbfBbcseeBameoBafehBabebBaberBaEigbbbcbbbcbebBabbbccabedcbxbbeacBabbbx
dbbabbbacbbcrbbajbBjcbbccdbdcbbbcbbbcbbbcbbbcbbbcbbbcbbbcbbbcbbbcbbbcbbbcbbfcbbbcbybbbccbccBzbBwcbbbcbbbcbbbcbb
bcbbbcbbbcbbbcbbbcbbbcbbbcbbbcbbbcbbbcbbbcbbbcbbbcbbbcbBbfgchbbbcbbbcbbbcbbbcbbbcbbbcbbbcbbbcbbbcbbbcbbbcbbbcbb
bcbbbcbbbcbbbcbbbcbbbcbbbcbbbcbbbcbbbcbbbcbbbcbbbcbbbcbbbccbbcbbbcbbbcbbbcbbbcbbbcbbccbbbcbbbcbbbcbbbcbbbcbbbcbb
bcbbbcbbbcbbbcbbbcbbbcbbbcbbbcbbbcbbbcbbbcbbbcbbbcbbbcbbbcbbbcbbbcbbbcbbbcbbbcbbbcbbbcbbbcbbbcbbbcbbbcbbbcbbbcbb
bcbbbcbbbcbbbcbbbcbbbcbbbcbbbcbbbcbbbcbbbcbbbcbbbcbbbcbaBmbcabegxBpcbxbtcacBbbzbaBtgbtbgbxcgbxcgbxbgiaBbfeaefcx
lagqdycxbzcxcBblgbxbqdxBgfbekfvgkjexcfbgDvfbxbfhgbqbBbggcecgbBbegcfkjdfcBbbfoxbabqbfbgBefBbgcaDlflgbfoakjBhfjgce
bBbdxbecabgczwfegbejgbedgbefgcapxbazfdgcabxbalffayfbBahfcqfajgBpfbeygbqBggbiCcfbgbibgbfdiigeibgcibfhgkfcgcxkjbx
bepfbgcibaifcacfcawfbahfbabfdaefcabgbfdiegcacicacibgbfiabieacfbadfcgcakjcfczglbBbbzbfbxbgcacgbibagfeacfcawfbahf
bacfbacfbacfcabgbadicgeacgcadgdabghaefbabfhakjcgdfbgbxkacgbibajfbadfbawfbahfbacfbaffcabgbfdifgbacgbibacibgcabfpa
cfcgcakjbxbzhabfggbabgcibaifcacfcawfbahfbacfbaffcabgbfbibgbiegcacicacibghacgbieacfbadfcgcakjbBbbfglkabgbfbagfda
dfbaefdacfbabfbacfdacfdadfdamfeacibgcidadibadibgcabfgabioakjdlgBbbzbBbfabgdibgifbadfbaxfbaqfcabgbfdgeibadgbaegha
cgbadfbacfcacfcgcakjhabxhlbBbbfbgcibxifbadfbaxfbakfbaffcabgbfbibgfibabgcibacicghacifadfbacfcgcakjbacfbimacgcijf
badfbaBpfcgbfdiegbadibadibgbfbBbeadfbihldfcgcakjjlbBbgfbabgcibasfdayfbajfbabfcahfdabgeadidgbabgbaiigakjcacibxma
BwfbgcfhgeabzgfbeigbxkjcxBlacfbabfbaffbayfbabfbakfbgcfjgbfcaffbabebahgbakjcaefBgabfdBbpxbBbbxdBbcggBbkjklbBbbg
bBbbgbBbbgbubvbubvciifbaBkfeaogbifgbxcgfflgbaBkgbaiBbbggBbbacBbfxeBbcxBlaBrfciegbiggbicgcicgbfkjgxgfcicgefdgbfdi
cfhidfegnfbgcicggibgbfbikjdibgcBbBmbbabbfabbcaBrcbxbedcMrfbaefcahfbabfbaefcaBpfbaefcaBhfbaefcahfbabfbaefcapfba
CffbaefcaCpfcadgjxuldaqfkBbgaDibcagccabtXwfbBbbxrfbmBafbubvdaCxfdxdkifhasfdgbijatfcgbicxjasfcgmanfbadfbacgmaCaf
cgbihgiibgcilgdxbedxbzbfbgcakjgaklgagxbtexdgbqbgkjgaBjfbeCbfhaffcgBifbgbffaCsfkaBffbadgeicgdieacibggidgeabBbdacx
kjBefcafflaBsfeaBafgakjbldaBiBbxfcgcibgcacxCbfbibgbihgbabgbibgciiggikgcabgkjgakjgahxbegxcaogbhBfgcamguaegbiBvfbg
bifgbibgfibgciifbacxkjhxkBbjgjBbdxcgbiBefbiegcicgbidgcfkjBsfbgbicgdibgbidgciiaexBkfiiigcicgdafxkjdadfkjBefgecxjc
bbbcfaBrbcadbixiadgbxngbihgefbggfbgcfbicgbffaBscClencbeBicBleCmgbbbcbbbcbbbcbbbcbbbcbbbcbbbcbbbcbbbcbbbcbbbcbbbc
bbbcbbbcbbbcbbbcbbbcbbbcbbbcbbbcbbbcbbbcbbbcbbbcbbbcbbbcbbbcbbbcbbbcbbbcbbbcbbbcbbbcbbbcbbbcbbbcbbbcbbbcbbbcbbbc
bbbcbbbcbbbcbbbcbbbcbbbcbbbcbbbcbbbcbbbcbbbcbbbcbbbcbbbcbbbcbbbcbbbcbbbcbbbcbbbcbbbcbbbcbbbcbbbcbbbcbbbcbbbcbbbc
bbbcbbbcbbbcbbbcbbbcbbbcbbjcbbbcbbbcbbbcbbbcbbbcbbbcbbbcbbbcbbbcbbbcbbbcbbbcbbbcbbbcbbbcbbbcbbbcbbbcbbbcbbbcbbbc
bbbcbbbcbbbcbbbcbbbcbbbcbbbcbbbcbbbcbbbcbbbcbbbcbbbcbbbcbbbcbbbcbbbcbbbcbbbcbbbcbbbcbbbcbbbcbbbcbbbcbbbcbbbcbbjc
ibgccagbcaicibicibgccagbcaicbabbbabbbabbbabbiciboccaicidicidicidfcbaccebbdbBabcdBadcbaccebbddBaeccaccebbadBaicfb
dBacadcbaccebbdcBabalmfqgtcxbBcbBdbucBcbBdbubBcixbnbofqbmjxbBcbBdexcwdxbybubvlxbybxbwkxbmfqbakqblbecagldybubvbe
kldybubvbanedaBizoangehbgdhmgpacBbbbeBbbbcBbbcdbccdbbcbBbbbcBbbyfbgBbbbbBbbbbBbbbbBbebbBbbcebbcefbccBbcccbfybbec
bBbbycBbbcbBbqlBjkbbbcekblcBbeafyfBbcyeBbbycBbbycBbbyhBbbyBfBbcycBbbybBbbyBfBbKiyiBbbubvbubvuBbcyhBbbubvDdBbby
BeBbzyBoBbgyCuBbwalBbvaCilDaBbwlHbBbbyjBbbyCcBbiyEhBbbyJoBbbubvbubvbubvbubvbubvbubvbubvBelBsBbfybubvBfybubvbubv
bubvbubvbubvqyJwBbFbybubvbubvbubvbubvbubvbubvbubvbubvbubvbubvbubvClybubvbubvBgybubvJyyBwBbvycBbgyBnBbcaFiBbBwb
Bwcbbbcdbccbbbcbbbcbbbcebbcbbccbbgccedbbcbbbcbbbcbbbcbbbcbbbcbbbcbbbcbbbcbbbcbbbcbbbcbbbcbbbcbbbcbbbcbbbcbbbcbb
bcbbbcbbbcbbbcbbbcbbbcbbbcbbbcbbbcbbbcbbbcbbbcbbbcbbbcbbbcbbbcbbbcbbbcbbbcbbbcbbbcbbbcbbbcbbbcbbbcbbbcbbbcbbbcbb
bcbbbcbbbcbbccgBbbbbcbbbcdgbbbcfaexblcxBmcbabcfabccaCefhabebxoabgxfjahfbahfbahfbahfbahfbahfbahfbahfbaBggcxbBcbBd
bBcbBddxbBcbBdbxbBcbBdjxbtcxbtbxbBcbBdcxbBcbBdbubvbubvbubvbubvfxbekxctexbtbxbunxcBbdxbubvbubvbubvbubvbtBiaBaBbba
DlBbmaIgBbBaaqBbbmdxbBbbebfbkbubvbubvbubvbubvbubvcBbbubvbubvbubvbubvbtbucvbBbjkegcibtfecBbdkbebfbxcBbbaDifcacg
cBacebfbtDmfbxdebffaBrfbaDqfbacBbelkBbBgfBmBbjabBbqfBfBbbaklBeBbilbBbplBgBbklBnBbplMiBbJTofCmBbBFCffbeBRzfdaCdBb
jaBofgecxKifbedxqfkjcfuabbbcbbbcbbbcbbbcbbbcbbbcbbbcbbbcbbbcbbbcbbbcbbbcbbbcbbbcbbbcbbbcbbbcbbbcbbbcbbbcbbbcbbbc
bbbcbfbgdhbxkgbxbebbbcbbbcbbbcbbbcbbbcbbbcbbbcbbbcbbbcbbbcbbbcbbbcbbbcbbbccecgCsfkkcggxiaxBajecBabbbcbbbcbbbcbb
bcbbbcbbbcbbdcbbbcbbbcbbbcbbbcbbbcbbbcbbbcbbbcbbbcbbbcbbbcbbbcbbbcbbbcbbbcbbbcbbbcbbbcbbbcbbbcbbbcbbbcbbbcbbbcbb
bcbbbcbbbcbbbcbbbcbbbcbbbcbeicbbbcbbbccbbcbbbcbbbcbbbcbbbcbecBabbbcbbbcbfbbbcbbdcbbbcbbbcbbbcbbbcbbbcbbbcbbbcbb
bcbbbcbbbcfbbcfbbcbbbcbbbcbbbcbbbcbbbcbbbcbbbcebbcbbbccbbcbbbcbbbcbbbcbbbcbbbcbbbcbbbcbbuaeebbbcbfcebchfbgdfbgef
bgxfcicgbieBbbgdaglcBbbzbBbgaCafexiaciByfqicgiacxkjgasggfdxbfbxcfbgkjBcfigcxxflgcilabxBdfdadgbiBvfbgciegcicgdinx
babekjeacxffbgbejfkjffbaBpfggcicgcicgjadfbgifbgbicakjcaexqfbegfdBbbfbibgbiByfbgbfdgcfcgffcgbfbgbfyacfbecxlfbicg
cicxbfcebibgkagfcagfcagfjahfbahfbaBrcbBaeejcbecBaeaDccBjfcibgcibgcibxbibgcakjgaQNsfmaxfeaBxfeaJMerOcfcaEcfBmahc
mafcfabfbgkfbynfbaffbabfbacfbacfbaEefrBaqBbNzfbvbuqBbCmfcBbCcfiBbBgamfbzdBbqghxbubvbxgaqgbxctcwbubvbubvbubvbubv
bubvbubvbubvbubvcxbubvexdwdxbaexbtbubvbubvbubvdxbybtdybabxbzcxeaffbaFffcabqbadxbzdxbubvbxbybxbtcxkjcxdycxBabbubx
bvbBabwbBaBacbubybvbybubvbxbubvcxkfbeBtfceBffdagfcagfcagfcadfdaczbybBabBbczbabBbeycBbkadqcBbcamfbaBafbatfbacfba
pfcaofBiaEtffadxeaBtldajBbCbkelrBbcldBbbanBbdabBbBvaBtBbbgFaaBdfdaBxfpabgBbleaBgfeljaufbkifbkfaBmffgfaBefbabxBkf
eaifbxfkBqaBobBocDafcakjgaBkbeaBkceaBofiaCaflabxlbbapbbahbbacbbalcbapcbahcbaccdaCafmaLzfjawfkaifyagebaBqebajeCra
gfcabfbaBsfbacfdabfcaxfbabxilxfcBbhlBffiajlBwatfbacffaflwfgldabxBaffabxBafBmaCefeaclcfqlcaBulbfdgbacgfaegefbadf
baBdfcadgeabgjlhajxhaBdfclbxBdfdlBgaifbBbBcfcgeaflhxjaCcfdahxwfcailtffailsfhaexmahlDcaCvfCdaBzbnaBzchaglBkfegia
kjgakjefbebfwbdafgbtbewciacyIaaBflbaBqfbacgbtcacfqadfbecfiabxiBbBhaggBdfklbfiawflgelfxwasfegexBmavfhluaxfjabibg
biCbfpghxeaulkjbgcfcgbfjadgbiBtfdiegcicgcxbqexbgkabqcazfhakjgadgBkffgbiigbakjexbfcibfiaBjfbgcxbfjacgbiBwfdijgci
efexegbxbibgkjbfbxbfdxbaullasfbazfdidgcibgbicggxbgcfbgCkahfbabfbaefbapfbakfbxgaBvfbgdiigfakjgacgcibaifcacfcawfba
hfbacfbaffbacgbfcibgeicacicadicabfgabifaffcicahgdafglakfbabfcabfbaBmfbabfdiggbabicabibaeibacibgbibgbfbgbfcxbacx
iacgBdaCbfdiigcidgbibgeffxkjcxbabxbgdfBeaBwfdiggbibgeicgbicgcfbxbfiakjGkaBvfdiegcaeicgbicgxxefcgBiaBwfdiigcibgbi
cgdxbflakjganxtaBrfbgbibgciggbibgbfbxgakjgaujBcaBbfcabgbibgciegbifgeakjcldxbBbhfHdaBsfdijgbicgbxDwaBgbBgckjjlma
ifcabfcaifbacfbayfgibacicacgbibgbfbibfbibgdxjakjCsaifcaBnfdiegcacgeibgbfbxbfbiBbabfkgBofggbibfegixbgiabfggcidg
BufngbicgdxbffxnaCvfhakxDiabgbidgbibgbiDkaBhfbxoakjgajfbaBlfbihgbaggbibgbffxkakjtldacxBefcawgbabihgbicgbicgCvahf
bacfbaBmfggdabgbacgbahgbfbgiakjgagfbacfbaBgffibacgbacibgbibgbfhakjgaBpfbecfeakjJmatfcgcicxhacgbfbinfbaBifcifgda
cibgbibgnxkjbgDhabfpavliBbezrBbnabxBJmfDyaEhkbafxlaHofDXkaDtfcxnaBPgfqqbggfpgkaFXrffaWlfKDdaBefmgdidgkjCOsaVxfha
BffbakjeacxDbfbakjgaBefcafgbxkaBwfhgfxeBbeebxbBbkakjbahlbavffatfQqadeBofcedxkjHqaBgbBgcxlexfazbcazcBsaCxfeabgbf
CdihaegneCmacebxbebglacicedkjaKXyfBpaBgfDtaElfMWraeebahebacebaLffpabfBdadfcabfoaefiaPgfDKuaEdffanfdajfhakfcabBb
cgbxeqFVgaJgBbkjdBbdaQuBbgaxBbpaqBbbypaBugcaxgjaEmBbCiaJmBbkaBnBbcaCiBbcidgdBbgiiqigcBbhgBeBbegCjBbvaCoBbdgbBb
EsaulmaulmaDjBbjazlFfaBabBacBabhcbascBabBacbbbacbcabbcacbcaebbaibecbabcbahcbalcBabBaccbbaebcaibbahbbaBaccbbaebba
fbbabbdahbbaBacBabBacBabBacBabBacBabBacBabBacBabBcccazbbyzcbygczbbyzcbygczbbyzcbygczbbyzcbygczbbyzcbygcbbbccaByj
TsBbCdgeBbBygiBbbgoBbbgcBbfxpafgbapgBQmakcbfucgagcIfahgbargcahgbacgbafgfaCkeBhabgEiaBtfdahghecakjeabfbBbMiaBefbg
raBsfegkjfabzRwaBbfbeegkjIgaBefcgbfkjeabxHkaBffbadfbgcfbghfcgffbgiabfbeIqahfbaefbacfbapfbaHpfcajlhgBpaBibBichgbe
eakjeacxBEfaChlbBbdlbzelCyaBtlbBbplHmaefbaBbfbacfbabfcabfbakfbaefbabfbabfgabfeabfbabfbabfbadfbacfbabfcabfbabfba
bfbabfbabfbacfbabfcaefbahfbaefbaefbabfbakfbarffadfbaffbarfCaacyKkaBsBbeaDwBbmapBbcapBbbapBbbaBlBbkanlGfBbCeaBdBb
naBsBbeajBbhacBboagBbFyaJrBbfBaBCbBbdarBbdanBbdaIkBbgamBbeabBbpamBbeaCeBbiakBbgaBoBbiaBeBbcamBbeacBboajyBnaNgBb
iaoBbcanBbdalBbdaCfBbbabBbeaqBbcamBbeakBbhaFrBbbaDoBbkjbBbBNpaCLFcfBgaGMofcaIOcfcaLBlfpaXyfDQwaUwfCFyaHHzffaMOof
BOGOdabqBeaDsqEyaJggDSFoaDSYorcaDSYorca
"

/-- The number of the category with an abbreviation. -/
def number (abbreviation : String) : Nat := names.findIdx (·.head? == some abbreviation)

/-- The characters of some categories, given by their abbreviations. -/
def set (abbreviations : List String) : ScalarSet :=
  let numbers := abbreviations.map number
  Compact.labelled stretches numbers.contains

end TestScenario.Unicode.Category
