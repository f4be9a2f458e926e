import TestScenario.Unicode.Compact

/-!
The direction in which characters are written.
-/

namespace TestScenario.Unicode.Direction

/-- The part that a character plays where left-to-right and right-to-left text meet. -/
inductive Kind where
  /-- Separators and controls. -/
  | other
  | leftToRight
  | rightToLeft
  | arabicLetter
  | arabicNumber
  | europeanNumber
  | numberSeparator
  | commonSeparator
  | numberTerminator
  | neutral
  | boundary
  /-- Marks without a width of their own. -/
  | mark
deriving DecidableEq, Repr

/-- All kinds. The number of a kind is its place in this list. -/
def kinds : List Kind :=
  [.other, .leftToRight, .rightToLeft, .arabicLetter, .arabicNumber, .europeanNumber, .numberSeparator,
   .commonSeparator, .numberTerminator, .neutral, .boundary, .mark]

/-- All characters by the number of their kind. -/
def stretches : List Compact.Stretch := Compact.partition "
jkfaokfacjdifjbgbhbgchkfbhgjBabgjBabejgkbaBakbhbjeiejbbcjbkcjcicfbjbbdjbfbbfjxbbjBfbbjRhbcjhbojcbojfbjjbbrjEileb
cjibbjfbcjbbbjEgbbjFkbhlJwbbjcbcjbibcBtlbcblbcclbcclbcblCecgecjbdcibdbhbdcjllBwdvlkebiceddblDxdhlbebjglcdclbjel
cdkfxdblBedBblDndllpdBrcjlccejdcblycelbcjlbcdlbcflBrcdlecBwdcefdjlBqdylbeBglCdbblbbblebilebbldbhlkbclBdbblCgbbl
ebelibblubclobcihbbicbblcbclCfbblebclebclcbdldbblBebcldbbllbclCfbblebflbbclebblubclnbbiibglbbblCgbblcbblbbelibbl
hbcllbclBebblCjbblmbblBlbgjbibjfbbldbblCdbblbbdlfbdlbbelhbcllbclubhjcbblCgbblpbclubclBcbclCfbclebelibblubclBdbbl
CubblhbdlbbblDmbblcbhlebbihbilDubblcbjllbhlCvbclBbbblbbblbbblejBzbolbbflbbclfbllbbBkljbblDybelbbglbbclcbclzbcleb
dlqbelnbblcbclgbblpbblBBbbdlBwbkjDybbjYpbbaBabcjEnbdlBdbclBebclBebclCmbclbbhlibblcbllhbbibbblsbkjgbljdlbkblEnbcl
BibblEobdlebcljbblgbdlebbjdbcjFwbBijxbclcbblCgbblbbhlbbblbbblcbilgbklcbblBwbBulcbmlubelBwbblbbflbbblfbblBobjlmb
clBgbelcbclbbdlCebblbbcldbblbbdlCgbilcbclFwbdlbbnlbbhlebblgbbldbclHqbCmlRdbbjbbdjlbdjnbdjnbdjnbcjbbladkbbbcyjha
bhfipjbhBajbagkeagkbfdbgfcgdjbbkfcgdjrbBwiBhlpbcjbbejbbcjkbbjbbdjfbgjbbbjbbbjbbbjebbilbcjebfjfbejcbqjBpbdjebFaj
bgbiLejCrbBajbbFsjwbljvbBojufDabRijbbNbjJwbYejcbFijIvbgjebdlhbhjExbblDsbBglDqjBibBajbbDljmbIgjBabqjbaejdbzjjbel
cbbjfbcjfbdjDlbclcjdbbjDmbbjHobBmjjbbjBtbcjBxbqjBcbdjBybpjmbejGlbejDvbcjBfbbjJTobCmjBGUibCdjMobdjDrbelbjklcjBeb
clDcbclobBijDybbjErbbldbblebblzbclbbejbllbciCgbejCybclBabslnbblBmbilzbllBubdlBwbblcbelcbclBnbblCpbglcbclcbclmbbl
ibblBvbblBzbblbbdlcbclfbclbbblBqbclibblElbcjErbblcbblebblBAYxbbcblkcbgBmcEldqjNzdsjCmdcjCcdijBgknddjqlkjgbqlBgj
bhbjbhbbbjbhjjbicjcgdjbbbjcibjebFndbkbbcjdifjbgbhbgchkfbhgjBabgjBabljEsbcidjcibbhjbbjkfjckJxbbjCkbCzjdbnjdbbjDob
blIsbblBbfEsbflBSnbLbcbjIrcdlbcclfcelBocdlecblGjcclDechjRgcBkdelidkegdkeBfcflbjJhcBfeBsccltcqdjjBhdglBwcwdllBfd
scelEscbbblCcbpllbujkbblcbclkbdlBxbelcbclhbblCjbdlBkbflbbilCkbblmbclCabjlkbelcbblDrbdlcbblbbclgbblcbblGbbbldbil
vbclCfbcldbblBlbhldbflCsbglnbblbbblbbblobclDhbilcbdlbbblxbblDgbglbbblebclbbclJebelgbclbbclBbbclDhbilcbblbbclBfb
njCkbblbbblcbglbbblDxbblbbblcbelbbflJzbjlbbclJwbclbbblebblFobelcbclebblBgbglcbclBobglcbelibbljbglcbdlBubnlbbcl
HqbblbbdlbbblHtbhlbbglDgbwlcbhlbbclbbclEsbgldbblbbclbbhlbbblCubcldbblbbblNjbcllbclCabflfbblbbblxbblEsbijeirjHRyb
blgbplQYybmldbdlDSabflChbhlBOibblClbelDbbbjbbblBDBkbclbbekFVgbIgjBabkfdjdbQujgbxjpbrjpbBulcbxlUybdljbikilcbhlBeb
elChbcjvbCojdlbjHebDjjBHqbbjzbbjBfbbjzbbjBfbbjzbbjBfbbjzbbjBfbbjzbbjkbByfTsbCdlebBylibblobblwbflbbplCAibhlbbrlcb
hlbbclbbflDwbblGebhlOlbblCjbelpbbiSybelJubclJjbblcbblhbclfbblKgbIachlEfchlBEzcDcdCmcDcdGucJgdcjodJwcBsjebDwjmbpj
cbpjbbpjbbBljkblffjBfbbjCgbgjCjbbjGwbgjFybBLxjdbrjdbnjdbIkjgbmjebbjpbmjebCejibkjgbBojibBejcbmjebcjobjjBnbNgjiboj
cbnjdbljdbCfjbbbjebqjcbmjebkjhbFrjbbDojkfbjBNnbckDSYobckDSYobckDSYobckDSYobckDSYobckDSYobckDSYobckDSYobckDSYobck
DSYobckDSYobckDSYobJykJglFImkDMXabckDSYobckDSYobck
"

/-- The kind of a character. -/
def kind (c : Char) : Kind := kinds.getD (Compact.labelAt stretches (place c)) .other

end TestScenario.Unicode.Direction
