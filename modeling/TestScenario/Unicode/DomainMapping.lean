import TestScenario.Unicode.Compact

/-!
The forms that characters take in domain names.

Some characters may not stand in a domain name, some leave no trace in it, and some are replaced by others: capital
letters by small ones, and characters that only look different by their usual form.
-/

namespace TestScenario.Unicode.DomainMapping

/-- The characters that may not stand in a domain name. -/
def refused : ScalarSet := Compact.set "
EyBgBCacgehbbbubPhbBmcBycdbCdiBbegrwbHkbBwcChcDxoChcBxcpbBccbblfBghCxbGfbicccwbhbbdecjccceibecbfczcdbgeccwbhbcbc
bccbbfeccddbhebbhrkdbjbdbwbhbcbfckbdbdcbpecmhhbdbicccwbhbcbfcjcccdhdecbfcskcbgddbedcbbbcdcdddmefddbecbgbovfnbdbx
bqcjbdbehcbdbcceckhwbdbxbkbfcjbdbehcfdbeckbdmnbdbBzbdbgeqcBabdbsdybjbbchdbegbbbigkcdmCgeBdBlcbbbfbybbbxcfbbbhbkc
eBgCubBkeBnbBkbpbnBlHqbbfbcOnbechbbbecBpbecBhbechbbbecpbCfbecCpcBgdBagDicgcYqbBcdDlhwjyjumnbdbcmDqckgkgBagDlhBrf
CskBfbmemebdBqcflBseBagldCkcCnbBdclgkgocBucmuCzbGkiCidpdCkfBrcliBrfUocgcBmcgcibbbbbbbBfcCbbpbocgbtcdbjbocudbhCcf
icBbbndBioBhpFkeZqwlvBouCPkcOsfBtbbfbcCehcoyjhbhbhbhbhbhbhbhbEwBiBabDlmIgBqCmbDicDzfBrbDqbDikBvbQcbebqbBQRsdCdj
NkuHciInuCidkgCeiCsimgEmlBedDableBhbCdjockcDzyBckgcgcgjhbhbCieEwckgQNsmxeBxJMiOccEcBmhmffBabfbbbcbcbZaBgBibghqb
BhctbeefbFfcbbHidgcgcgcddhbhrmbBabtbcbpcoBiEtfdeBtdDkbndbBvBuFaBddBxpBceBkjBefBrfBebBleoBqGcckgBkeBkeBoiCalmbpbh
bcblbpbhbcdCamLzjwkiygbBqbjCrgcbbBsbcdbcxbCuijBwtbcfBhdBbfBbBmCeeucBybcfibdbBdcdekhjhCmBgBnemjCcdBdcBbfBahemhDc
CvCdBznBzhBuikgBmdBdicIaBfbBqbdccqgijBhBuiBqwBaBmBcuxjDaeBkjCkbfnzhkgCbbsiBnjDsbulsbBvCkhbbbebpblgChfkgebicccwbh
bcbfbkcccdcbgbfhchdflkbbcbbBmbkbbcbbebkbcicBdDobfBeCuikGkCccBmBiCrlkgntCggkguBcBbcpexHdCiDwDfmicbcibcbBebccmjkCs
icBuclBbCuiDfnCvhkDiiDkBiokgjbBtbokBddBgcwboCvhbcbBsdbbcbjikggbcbBlbcbghkgBsekJmzhrbBpdBdDhbpBynBJnDyEhbflHoDXk
DvnBPgqwkFXrfWlKDdCgCOsVxhBfbkeDdbkgBecgkCskkbhbvftQqCgHqDnfzczBsCxeCfhrCmflhjKXyBpBgDtElMWrebhbcbLfpbBddcboeiPg
DKuEdfndjhkciFVgJtdQugxprpBucxjEmCiJmkBncHmvCsEsumumDjjzFfDhbCtbccbcccebmbbbhbCnbecibhbBcbebfbbdhbNccLgcBBapfbp
BQmBfggIfhbrchbcbffCkBhbEiBtdockecMiBfrCgfbRwBqIgBrebHkBfbwicIqhbebcbpbHpcqBpCyekecBEfCqCyCjHmebBbbcbbcbbkbebbbb
gbebbbbbbdbcbbcbbbbbbbbbbcbbcebhbebebbbkbrfdbfbrCacKkBseDwmpcpbpbBllGrCeBdnBsejhcogFyBLxdrdndIkgmebpmeCeikgBoiBe
cmecojBnNgiocndldCfbbeqcmekhFrbDzBNpCLFcBgGMocIOccLBlpXyDQwUwCFyHHzfMOoBOGXyJgLECu
"

/-- The characters that leave no trace in a domain name. -/
def ignored : ScalarSet := Compact.set "
GrbZxbFIlcCKhcDhfDApbDgffgGKybCWLvqJfbGebCTOxeHWxiBTLJhJg
"

/-- The characters that are replaced, with what replaces them. What composing characters replaces anyway is left out. -/
def replacements : List Compact.Entry := Compact.entries "
CnaBabbDtDrbBgicBgBDwcbDtfcBgBDsdacbbByccBgBDpbbBKudcBgBFbbbBxbbEhcdBxMFsCabdBxMFsBybdBzMFsCacaxbbIqyahbbJo
BoayccJxBwcEbBDvccEbEcbcEbEcbacccLxfadccMcgcEeHbbcEeHbbaeccMkicBAyEgbaxccMtBubJvbadccOogbElcbWxbacccOxebWybbPc
cacbbXacbPgdbSjbacbcXdcbPmcbXkbbXncbXtbbXsbbPtebXzbbYccbYfbadccQbgbYqbbQicbYtdbQncbYybbQqcacbbZacacccQuebZibbQz
ebRdicDwOsbcDwOsbcDwOsbcEeEcbcEeEcbcEeEcbcEgEcbcEgEcbcEgEcbaiccRurajccSltcDwEsbcDwEsbcDwEsbbThcbPpbbRfbauccTl
BobPycajccVbybQVdbbWacbPubbQVedbWgcbOubbYzbbZcbafccWlEcbEabbXqbbEcbbEkbacbcYjcbYrbacbcEpBhcBgBDubcBgBDvbcBgBDy
bcBgBFcbcBgBDrbcBgBDzdbXnbbEebbElbbEqbbZlDtbBKrBracccBHxgbBIdecBgBKrfbBMxfcBgBDpbdBgBDwBDpbaccbBKedacbbBKg
daccbBLkdbBLmcarbbBKjsajbbBLbBsbBLvbbBKkbbBKqbbBLdbbBLlbbBLjbbBLebbBKycamccBLxybBKsbacbcBKzdbBKqbbBKncbBNccbBLb
bbBNfdadbbBIhdaqbbBQmqaBgbbBPgDcarccBRdBqaBbccBStCcbBVjbahccBUwpaBwccBVlDtaBmbbCAzDicCBdCCgJecCIpCLobcCJwCLo
bcCOtCLobcCJyCLoCYdcFKvFJuEycFPtFOsBpcFOlFNtbcFOlFObBvbFSdEddFYoFWbFWqcdFYpFWbFWqLjaBmbbRBcBnbRCpgbRCvBvbGKa
BDkagbbHOiDGaacbcBPicbBPubacbbBPxcbBPybbBQgbbBRfbbCKZjbbKVahaBrbbGJoBtadbbGLhEhbDtbbIwbacccDudbDxbbSjbaibbDzjbEh
bbVbbadbcEidacbcEncbDtbacbbWucbKZqbacbcDucbDxbacbcXdcbXgbbDzcacbcEdcbMtbbEhbbWybacbbLAkcbEibacbbEmcbLArbbXzbbEo
bbLAzbadbbBKkdacbbBLecbEbbbEkbacbbEncacbbBKkcbBKzbacbbBLepbBPtBjbWwbbDvbbWzbbJgbbXgbbDybacbcXjcbXpbadbbXsdbLEh
bbZtbbXxbbLErbbZvbbYbbacbcYacadbbYddbYibacbbYscbQlbacbbYzcbLAqbacbbZbcbEsbadbbZgdbBKqCnaCxccLJlFycDtBBabbLNddbIp
caBwccLPpEaaibbLTgqagbbLTwqaibbLUmqaibbLVcqagbbLVsraeccLWjpaibbLWyycLTgBKrbcLThBKrbcLTiBKrbcLTjBKrbcLTkBKr
bcLTlBKrbcLTmBKrbcLTnBKrbcLTgBKrbcLThBKrbcLTiBKrbcLTjBKrbcLTkBKrbcLTlBKrbcLTmBKrbcLTnBKrbcLUmBKrbcLUnBKrbcLUoBKr
bcLUpBKrbcLUqBKrbcLUrBKrbcLUsBKrbcLUtBKrbcLUmBKrbcLUnBKrbcLUoBKrbcLUpBKrbcLUqBKrbcLUrBKrbcLUsBKrbcLUtBKrbcLWyBKr
bcLWzBKrbcLXaBKrbcLXbBKrbcLXcBKrbcLXdBKrbcLXeBKrbcLXfBKrbcLWyBKrbcLWzBKrbcLXaBKrbcLXbBKrbcLXcBKrbcLXdBKrbcLXeBKr
bcLXfBKrdcLXoBKrbcBKjBKrbcBKeBKrdcMAgBKrbacbbMAacbLXobbBKebcBKjBKrbcBgBEhccBgBEhbcBgBGcbdBgBDwBGcbcLXsBKr
bcBKpBKrbcBKgBKrdcMAwBKrbbLXqbbBKfbbLXsbbBKgbcBKpBKrbdBgBEhBDobdBgBEhBDpbdBgBEhBGcjacbbMBgcbLXubbBKhcdBgBEiBDo
bdBgBEiBDpbdBgBEiBGcjacbbMBwcbLXybbBLlbbMCbbdBgBDwBDobdBgBDwBDpecLYaBKrbcBLhBKrbcBLmBKrdcMCsBKrbbLXwbbBLkbbLYa
bbBLmbcBLhBKrbcBgBDpbcBgBEicalbaBgrbMDsgcBgBFnybBgecMFaMFabdMFaMFaMFaccMFdMFdbdMFdMFdMFdfcBhBhccBgBDtjcClCl
bcClBhbcBhCloeMFaMFaMFaMFaibBgrbBwbbEbdagbbCagbBrbbMXmbbCjbacbbBocbEgbakbbBwkbBrbbMXmbbCjbacbbBodbDtbbDxbbEhbbEq
bbXdbbEabaebbEdebEibacbbElncEkElDkdDtBvDvbdDtBvElbbDvbcGuDvcdDvBvEhbdDvBvEnbbXfccGuDybacbbDzcadbaEadbLjbacbaEb
cacbaEedbEgbcEgEhdadbbEidacbaEkecElEfbdEmDxEebcEmEfcbEscbBLhcbEscbEdbbIvbacbbDudacbaDxcbDybbMPybacbcEfcaebbCFg
ebEbcdDyDtEqbbBKybacbaBKlcbBKybbMXlfacbaDwcbDxbacbbEbidBxMFsCdbdBxMFsCfbeBxMFsBxBwbdBxMFsBzbdByMFsBzbdBxMFsCb
bdByMFsCbbdBzMFsCbbdCaMFsCbbdBxMFsCcbdCbMFsCcbdBxMFsCebdBzMFsCebdCbMFsCebdCdMFsCebcBxMFsbbEbbcEbEbbdEbEbEbbcEbEo
bbEobcEoEbbdEoEbEbbeEoEbEbEbbcEbEqbbEqbcEqEbbdEqEbEbbbEebacbbDvcbEfbbEbbcEbEbbdEbEbEbbcEbEobbEobcEoEbbdEoEbEb
beEoEbEbEbbcEbEqbbEqbcEqEbbdEqEbEbbbEebacbbDvcbEfebMSagdBwMFsBzGhcMYlMYlbdMYlMYlMYlccMYoMYobdMYoMYoMYoVoajbbBx
jcBxBwbcBxBxbcBxBybcBxBzbcBxCabcBxCbbcBxCcbcBxCdbcBxCebcBxCfbcByBwbdBoBxBpbdBoByBpbdBoBzBpbdBoCaBpbdBoCbBp
bdBoCcBpbdBoCdBpbdBoCeBpbdBoCfBpbeBoBxBwBpbeBoBxBxBpbeBoBxByBpbeBoBxBzBpbeBoBxCaBpbeBoBxCbBpbeBoBxCcBpbeBoBxCdBp
beBoBxCeBpbeBoBxCfBpbeBoByBwBpvdBoDtBpbdBoDuBpbdBoDvBpbdBoDwBpbdBoDxBpbdBoDyBpbdBoDzBpbdBoEaBpbdBoEbBpbdBoEcBp
bdBoEdBpbdBoEeBpbdBoEfBpbdBoEgBpbdBoEhBpbdBoEiBpbdBoEjBpbdBoEkBpbdBoElBpbdBoEmBpbdBoEnBpbdBoEoBpbdBoEpBpbdBoEqBp
bdBoErBpbdBoEsBpbaBabbDtBaaBabbDtBabBwBYoeMYlMYlMYlMYlEadCgCgCjbcCjCjbdCjCjCjPeaBwbbQTcDsbQUzcbXvbbLEjbbYn
dadccQVggbWvbbYbbacbcWudbQVrdbQVuhbEcbbEobacbbWdcaByccQWfEdacccRAihbRApEvbREvLsbBOVlDgbCILrnbBDOabbBDPobbBDQc
bbBDQlbbBDRlbbBDTdbbBDTkbbBDUebbBDVebbBETzbbBEVlbbBEVrbbBEWobbBEXibbBEYdbbBFAebbBFAzbbBFBkbbBFHjbbBFKzbbBFMb
bbBFMgbbBFNkbbBFNtbbBFOubbBFPhbbBFQgbbBFSgbbBFSybbBFTzbbBGXbbbBGZvbbBHRnbbBHSkbbBHSsbbBHTdbbBHTvbbBHWtbbBIPc
bbBIQybbBIVobbBIWlbbBIXebbBIYabbBJAcbbBJAfbbBJOdbbBJOnbbBJOzbbBJPmbbBJTybbBJUgbbBJUlbbBJYybbBJZibbBJZvbbBKAd
bbBKCmbbBKDdbbBKDvbbBKGxbbBLDgbbBLFabbBLFvbbBMIhbbBMImbbBMLrbbBMMhbbBMMubbBMNpbbBMPcbbBMPhbbBMZobbBNAmbbBNBs
bbBOOubbBORibbBOSfbbBOUlbbBOVjbbBOVsbbBOVzbbBOXzbbBOYebbBOZkbbBQOxbbBRGcbbBRGobbBRGtbbBRGxbbBRHfbacbcBRHxcbBRLc
bbBRTkbbBRTpbbBSGqbbBSHabbBSIybbBSJfbbBSJobbBSJwbbBSNjbbBSNqbbBSWkbbBSWrbbBSYobbBSZfbbBTBabbBTKdbbBTKkbbBTLb
bbBTXqbbBUCmbbBUCsbbBUJsbbBUNbbbBUOvbbBVDjbbBVImbbBWEobbBWFpbbBWHubbBWJtbbBWMjbbBWMubbBWNabbBWOhbbBWRfbbBWRp
bbBXExbbBXFebbBXFnbbBXFwbbBXGmbbBXHbbbBXHfbbBXKgbbBXKkbbBXKqbbBYWjbbBYXnbbBZPobbBZQabbBZQxbbCABubbCAChbbCAFa
bbCAGubbCBCpbbCBDebbCBDtbbCBFcbbCBGnbbCBOebbCBOqbbCBRfbbCCAtbbCCBybbCCJzbbCCKubbCCKzbbCCTlbbCDAnbbCDFibbCDFo
bbCDFtbbCEPrbbCEQabbCEWabbCFBybbCFCbbbCFDwbbCFHxbbCFIkbbCFIobbCFIvbbCFMpbbCFNxbbCFOdbbCFOrbbCFVcbbCFXbbbCFXf
bbCGEgbbCGEjbbCGFcbbCGOubbCGQqbbCGQxbbCGTpbbCGTzbbCGUcbbCGUmbbCGVqbbCHKvbbCIAfbbCIApbbCICbbbCICxbbCIDfbbCIDp
bbCIDtbbCIFhbbCIFlbbCIGcbbCIGhbbCIGubbCIHvbbCIIkbbCIIsbbCIKzbbCILobbCILsBrbBgcbBuCabSFicbBFNtbacbbBFNwDucBgSKn
bcBgSKodcSJwSJyDscSLnSMiByacbbGLkcbGRybbGLmbacbbGSacadbbGLndagbbGSegbGMkbadbbGLqdbGMrbakbbGLtkavbbGPdwacbbGMe
cacbbGTbcacbcGTgcbGTnbacbcGTrcbGMmbacbcGTxcacbbGMncacbcGMqcbGMtbadbcGMxdaebbGNcebGNibbGNmbbGNwbbGOdbbGOibacbbGUr
cadbbGOtdacbbGQmcbGQqbacbbGQzcbGRcbbGRmbbGRpebBDOabbBDTkbbBDOjbbBGXfbbBDOkbbBDPtbbBDOlbbBSJybbBDRlbbBDOzbbBDOb
bbBHTxbbBHAmbbBDVeDtdBoGLkBpbdBoGLmBpbdBoGLnBpbdBoGLpBpbdBoGLqBpbdBoGLrBpbdBoGLtBpbdBoGLvBpbdBoGLwBpbdBoGLyBp
bdBoGLzBpbdBoGMaBpbdBoGMbBpbdBoGMcBpbdBoCNDoBpbdBoCOWuBpbdBoCPTkBpbdBoCRMqBpbdBoCSJgBpbdBoCTFwBpbdBoCUZcBp
bdBoCWSiBpbdBoCXOyBpbdBoCZIeBpbdBoDAEuBpbdBoDBBkBpbdBoDBYaBpbdBoDCUqBpbdBoCYCyBpbeBoCXAyCXTkBpbeBoCXAyDDIqBp
cdBoBDOaBpbdBoBDTkBpbdBoBDOjBpbdBoBGXfBpbdBoBDTsBpbdBoBEVtBpbdBoBDOdBpbdBoBEVrBpbdBoBDRpBpbdBoBFNtBpbdBoBNAmBp
bdBoBQOxBpbdBoBOZkBpbdBoBNBsBpbdBoCDFtBpbdBoBGZvBpbdBoBMPhBpbdBoBNLqBpbdBoBNAnBpbdBoBTXuBpbdBoBFVpBpbdBoBRJdBp
bdBoCBGrBpbdBoBTYzBpbdBoBFIiBpbdBoBDWtBpbdBoBFZwBpbdBoBIPyBpbdBoBTApBpbdBoBDXxBpbdBoCBIdBpbdBoBFOmBpbdBoBTZpBp
bdBoBDYnBpbdBoBXFeBpbdBoBXFnBpbbBGHzbbBJUibbBMLrbbBUUpjdEiEmDxbcByBxbcByBybcByBzbcByCabcByCbbcByCcbcByCdbcByCe
bcByCfbcBzBwbcBzBxbcBzBybcBzBzbcBzCabcBzCbbacbcGLkcacbcGLncacbbGLqcacbcGLtcacbcGLwcaebbGLzebCNDobbCOWubbCPTk
bbCRMqbbCSJgbbCTFwbbCUZcbbCWSibbCXOybbCZIebbDAEubbDBBkbbDBYabbDCUqbcCZIuCNMebcCYCyCXMubbCXGicbBDOabbBDTkbbBDOj
bbBGXfbbBDTsbbBEVtbbBDOdbbBEVrbbBDRpbbBFNtbbBNAmbbBQOxbbBOZkbbBNBsbbCDFtbbBGZvbbBMPhbbBNLqbbBNAnbbBTXubbBFVp
bbBRJdbbCBGrbbBTYzbbBFIibbBUDsbbBSKdbbBHWtbbCCRxbbBETebbBFPobbBPGibbCFOvbbBDYnbbBEXlbbBORjbbBDOkbbBDPtbbBDOl
bbBJOobbBFUpbbBFNnbbBIRvbbBIPybbBTApbbBDXxbbCBIdbbBFOmbbBHTkbcBzCcbcBzCdbcBzCebcBzCfbcCaBwbcCaBxbcCaBybcCaBz
bcCaCabcCaCbbcCaCcbcCaCdbcCaCebcCaCfbcCbBwbcBxBNAmbcByBNAmbcBzBNAmbcCaBNAmbcCbBNAmbcCcBNAmbcCdBNAmbcCeBNAm
bcCfBNAmbdBxBwBNAmbdBxBxBNAmbdBxByBNAmbcEaDzbdDxEkDzbcDxEobdEeEmDwbafbcSKwfambcSLfmaebcSMeeafbbSMlfbSMsbbSMv
bbSMybbSNbbafbbSNefadbcSNkdafbbSNpfaebbSNvecBDWuBGAmbeSKwSMrSOiSMibeSKwSNrSMvSKvbeSKwSNzSNaSKwbdSKwSOiSNr
beSKySMlSNzSLkbdSKySNzSMbbdSLaSLdSNzbfSLcSLtSLjSOiSMjbeSLcSOiSLfSOibdSLeSNzSLtbdSLeSOiSNgbdSLfSKySNq
beSLfSNpSMdSMibeSLfSNtSNqSOibdSLgSNtSNzbdSLgSNzSNebcSLiSLgbdSLiSMlSOibeSLhSNlSNqSOibeSLiSNrSMaSOibcSLhSNt
bfSLhSNtSLkSNpSNgbgSLhSNtSNhSOiSMiSNrbfSLhSNtSNvSMdSMibdSLkSNpSNgbfSLkSNpSNgSMiSNzbfSLjSNrSLwSKySNt
beSLjSNtSOiSMnbdSLlSOiSLtbdSLnSNrSMkbdSLnSOiSNdbeSLpSKySLjSNrbfSLpSNzSMbSOiSNgbeSLrSNqSNzSLkbdSLvSNzSMb
bdSLvSNzSMibdSMaSOiSLtbcSMhSLrbcSMjSNrbcSMiSNzbcSMkSMobdSMoSMdSMibdSMpSKySMebfSMrSOiSLvSNzSMibdSMrSOiSMe
beSMqSOiSNsSNrbfSMuSKwSLtSMiSNrbdSMuSLjSNrbcSMuSLnbcSMtSNrbfSMvSKvSNpSMdSMjbeSMvSKxSOiSMibfSMwSMdSLrSLbSNr
bdSMvSNpSNzbfSMySLjSLzSOiSNrbcSNaSLxbdSNaSMlSMsbdSMySNrSMebdSNaSNzSLtbdSNaSOiSLsbdSMzSOiSLzbeSNdSKySNzSMi
bdSNcSNrSMibcSNbSNzbdSNdSNzSMjbdSNbSOiSNrbdSNbSOiSNzbeSNeSKySLjSNtbdSNeSKySNrbdSNeSMdSMpbdSNeSNrSLj
bfSNeSNzSLrSNnSNzbeSNfSLjSNtSNzbcSNfSNqbfSNfSNqSMqSOiSNrbcSNhSLgbeSNhSLgSMiSNzbeSNhSOiSMiSNrbdSNkSOiSMj
bdSNkSOiSNrbdSNmSKwSNzbeSNqSMdSMiSNrbcSNqSNpbdSNrSMuSOibeSNrSOiSMwSNrbcSNsSNgbfSNsSNzSMiSLmSNzbdSNvSMdSMi
bcBwBQRxbcBxBQRxbcByBQRxbcBzBQRxbcCaBQRxbcCbBQRxbcCcBQRxbcCdBQRxbcCeBQRxbcCfBQRxbdBxBwBQRxbdBxBxBQRxbdBxByBQRx
bdBxBzBQRxbdBxCaBQRxbdBxCbBQRxbdBxCcBQRxbdBxCdBQRxbdBxCeBQRxbdBxCfBQRxbdByBwBQRxbdByBxBQRxbdByByBQRxbdByBzBQRx
bdByCaBQRxbdEaEiDtbcDwDtbcDtEnbdDuDtEkbcEhEobcEiDvbcDwEfbdDwEfBybdDwEfBzbcEbEnbcBJTzBLDobcBMSbBGAmbcBHTvBORj
bcBMQwBPEpbeBNLqBJZzBDYwBTXubcEiDtbcEgDtbcBKuDtbcEfDtbcEdDtbcEdDubcEfDubcDzDubdDvDtEebeEdDvDtEebcEiDybcEgDy
bcBKuDybcBKuDzbcEfDzbcEdDzbcEaEsbdEdEaEsbdEfEaEsbdDzEaEsbdEmEaEsbcBKuEebcEfEebcDwEebcEdEebcDyEfbcEgEfbcBKuEf
bcEfEfbcDvEfbcEdEfbdEfEfBybdDvEfBybcEfBybdEdEfBybdEfEfBzbdDvEfBzbcEfBzbdEdEfBzbdEfMXpElbeEfMXpElBybcEiDtbdEdEiDt
bdEfEiDtbdDzEiDtbdEkDtDwbfEkDtDwMXpElbgEkDtDwMXpElBybcEiElbcEgElbcBKuElbcEfElbcEiEobcEgEobcBKuEobcEfEobcEdEo
bcEfEobcEiEpbcEgEpbcBKuEpbcEfEpbcEdEpbcEfEpbcEdBLhbcEfBLhccDuEjbcDvDvbcDvDwbeDvMXpEdDzccDwDubcDzErbcEaDtbcEaEi
bcEbEgbcEdEdbcEdEfbcEdEmbcEeEfbcEeEgbdEeEhDzbcEeEqbcEfDubdEfEbEebdEfEhEebcEiEacdEiEiEfbcEiEkbcElEkbcElEobcEpDu
bdEoMXpEfbdDtMXpEfbcBxBMPhbcByBMPhbcBzBMPhbcCaBMPhbcCbBMPhbcCcBMPhbcCdBMPhbcCeBMPhbcCfBMPhbdBxBwBMPhbdBxBxBMPh
bdBxByBMPhbdBxBzBMPhbdBxCaBMPhbdBxCbBMPhbdBxCcBMPhbdBxCdBMPhbdBxCeBMPhbdBxCfBMPhbdByBwBMPhbdByBxBMPhbdByByBMPh
bdByBzBMPhbdByCaBMPhbdByCbBMPhbdByCcBMPhbdByCdBMPhbdByCeBMPhbdByCfBMPhbdBzBwBMPhbdBzBxBMPhbdDzDtEeBRGzaxccCKYz
CmaoccCLBlBcacbcBQgFeahccCLHrqaBfccCLIhCkbCLKpjacccCLLaebLEfbafccCLLfnbCLLscbXpdacccCLLxgakccCLMdubXqbbXgbbXl
bbXwbbXucbZubbYxbbZtbbCMWxbaiccCLNhqbCLMabbYsbbLFabacccCLOaebXobaiccCLOfqbPvvbElbbDvbbDybbEjbbCLPudbLjbbNb
BHjbCLHvbbCMVvbbXvbbCMWwkbZdhaDcbbHLgBEDkcDyDybcDyEbbcDyEebdDyDyEbbdDyDyEebcElEmbcElEmncCBsCBubcCBsCBdbcCBsCBj
bcCCcCBubcCBsCBljbCFybbCFgbacbbCFjcadbbCFrdacbcCGecbBrBmcCFgCFsbacbaCLlcaebaCLveaebaCLyeaebaCMaeaebaCLueaebaCLz
eaebaCLteaebaCNkeaebaCNmeaebaCMeeaebaCMdeaebaCMgeaebaCMheacbaCMncacbaCMmcacbaCMocacbaCMicacbaCMycacbaCMrcaebaCNp
eaebaCNveaebaCNzeaebaCNxeacbaCOgcaebaCOheacbaCOmcaebaCOneaebaCOkeacbaCPecacbaCPfBjaebaCNteacbaCOtcacbaCOs
cacbaCOuccCOtCLobacbaCOxcacbaCOrcacbaCOvcaebaCPceacbaCJxccCIoCIpbcCIoCIpbcCIoCPhbcCIoCPhbcCIoCJwbcCIoCJwbcCIoCOt
bcCIoCOtbcCIoCOsbcCIoCOsbcCIoCOubcCIoCOubcCIoCPcbcCIoCPcbcCIoCPcbcCIoCJxbcCIoCJxbcCIoCJxbaebaCOyecCIoCIubcCIoCIv
bcCIoCJtbcCIoCJxbcCIoCJybcCIqCIubcCIqCIvbcCIqCIwbcCIqCJtbcCIqCJxbcCIqCJybcCIsCIubcCIsCIvbcCIsCIwbcCIsCJtbcCIsCJx
bcCIsCJybcCItCIubcCItCJtbcCItCJxbcCItCJybcCIuCIvbcCIuCJtbcCIvCIubcCIvCJtbcCIwCIubcCIwCIvbcCIwCJtbcCJbCIubcCJbCIv
bcCJbCIwbcCJbCJtbcCJdCIvbcCJdCJtbcCJeCIubcCJeCIvbcCJeCIwbcCJeCJtbcCJfCIvbcCJfCJtbcCJgCJtbcCJhCIubcCJhCJtbcCJiCIu
bcCJiCJtbcCJpCIubcCJpCIvbcCJpCIwbcCJpCJtbcCJpCJxbcCJpCJybcCJqCIvbcCJqCJtbcCJqCJxbcCJqCJybcCJrCIpbcCJrCIubcCJrCIv
bcCJrCIwbcCJrCJsbcCJrCJtbcCJrCJxbcCJrCJybcCJsCIubcCJsCIvbcCJsCIwbcCJsCJtbcCJsCJxbcCJsCJybcCJtCIubcCJtCIvbcCJtCIw
bcCJtCJtbcCJtCJxbcCJtCJybcCJuCIubcCJuCIvbcCJuCIwbcCJuCJtbcCJuCJxbcCJuCJybcCJvCIubcCJvCJtbcCJvCJxbcCJvCJybcCJyCIu
bcCJyCIvbcCJyCIwbcCJyCJtbcCJyCJxbcCJyCJybcCIyCLkbcCIzCLkbcCJxCLkbdBgCKaCKfbdBgCKbCKfbdBgCKcCKfbdBgCKdCKf
bdBgCKeCKfbdBgCKfCLkbcCIoCIzbcCIoCJabcCIoCJtbcCIoCJubcCIoCJxbcCIoCJybcCIqCIzbcCIqCJabcCIqCJtbcCIqCJubcCIqCJx
bcCIqCJybcCIsCIzbcCIsCJabcCIsCJtbcCIsCJubcCIsCJxbcCIsCJybcCItCIzbcCItCJabcCItCJtbcCItCJubcCItCJxbcCItCJybcCJpCJx
bcCJpCJybcCJqCJxbcCJqCJybcCJrCIpbcCJrCJsbcCJrCJtbcCJrCJxbcCJrCJybcCJsCJtbcCJsCJxbcCJsCJybcCJtCIpbcCJtCJtbcCJuCIz
bcCJuCJabcCJuCJtbcCJuCJubcCJuCJxbcCJuCJybcCJxCLkbcCJyCIzbcCJyCJabcCJyCJtbcCJyCJubcCJyCJxbcCJyCJybcCIoCIubcCIoCIv
bcCIoCIwbcCIoCJtbcCIoCJvbcCIqCIubcCIqCIvbcCIqCIwbcCIqCJtbcCIqCJvbcCIsCIubcCIsCIvbcCIsCIwbcCIsCJtbcCIsCJvbcCItCJt
bcCIuCIvbcCIuCJtbcCIvCIubcCIvCJtbcCIwCIubcCIwCJtbcCJbCIubcCJbCIvbcCJbCIwbcCJbCJtbcCJdCIvbcCJdCIwbcCJdCJtbcCJeCIu
bcCJeCIvbcCJeCIwbcCJeCJtbcCJfCIvbcCJgCJtbcCJhCIubcCJhCJtbcCJiCIubcCJiCJtbcCJpCIubcCJpCIvbcCJpCIwbcCJpCJtbcCJqCIv
bcCJqCJtbcCJrCIubcCJrCIvbcCJrCIwbcCJrCJsbcCJrCJtbcCJsCIubcCJsCIvbcCJsCIwbcCJsCJtbcCJsCJvbcCJtCIubcCJtCIvbcCJtCIw
bcCJtCJtbcCJuCIubcCJuCIvbcCJuCIwbcCJuCJtbcCJuCJvbcCJvCIubcCJvCJtbcCJvCLkbcCJyCIubcCJyCIvbcCJyCIwbcCJyCJtbcCJyCJv
bcCIoCJtbcCIoCJvbcCIqCJtbcCIqCJvbcCIsCJtbcCIsCJvbcCItCJtbcCItCJvbcCJbCJtbcCJbCJvbcCJcCJtbcCJcCJvbcCJrCJsbcCJrCJt
bcCJsCJtbcCJuCJtbcCJuCJvbcCJyCJtbcCJyCJvbdCJoCKcCKfbdCJoCKdCKfbdCJoCKeCKfbcCJfCJxbcCJfCJybcCJhCJxbcCJhCJy
bcCJiCJxbcCJiCJybcCJbCJxbcCJbCJybcCJcCJxbcCJcCJybcCIvCJxbcCIvCJybcCIuCJxbcCIuCJybcCIwCJxbcCIwCJybcCJdCJxbcCJdCJy
bcCJeCJxbcCJeCJybcCJcCIubcCJcCIvbcCJcCIwbcCJcCJtbcCJcCIzbcCJbCIzbcCJdCIzbcCJeCIzbcCJfCJxbcCJfCJybcCJhCJxbcCJhCJy
bcCJiCJxbcCJiCJybcCJbCJxbcCJbCJybcCJcCJxbcCJcCJybcCIvCJxbcCIvCJybcCIuCJxbcCIuCJybcCIwCJxbcCIwCJybcCJdCJxbcCJdCJy
bcCJeCJxbcCJeCJybcCJcCIubcCJcCIvbcCJcCIwbcCJcCJtbcCJcCIzbcCJbCIzbcCJdCIzbcCJeCIzbcCJcCIubcCJcCIvbcCJcCIwbcCJcCJt
bcCJbCJvbcCJcCJvbcCJfCJtbcCJbCIubcCJbCIvbcCJbCIwbcCJcCIubcCJcCIvbcCJcCIwbcCJfCJtbcCJgCJtbcCIpCJzbcCIpCJz
tdCIsCIuCJtbdCIsCIvCIubdCIsCIvCIubdCIsCIvCJtbdCIsCIwCJtbdCIsCJtCIubdCIsCJtCIvbdCIsCJtCIwbdCIuCJtCIvbdCIuCJtCIv
bdCIvCJtCJybdCIvCJtCJxbdCJbCIvCIubdCJbCIuCIvbdCJbCIuCJxbdCJbCJtCIvbdCJbCJtCIvbdCJbCJtCIubdCJbCJtCJtbdCJbCJtCJt
bdCJdCIvCIvbdCJdCIvCIvbdCJdCJtCJtbdCJcCIvCJtbdCJcCIvCJtbdCJcCIuCJybdCJcCJtCIwbdCJcCJtCIwbdCJcCJtCJtbdCJcCJtCJt
bdCJeCIvCJxbdCJeCIwCJtbdCJeCIwCJtbdCJfCJtCIvbdCJfCJtCIvbdCJfCJtCJtbdCJfCJtCJybdCJhCIuCJtbdCJhCJtCJtbdCJhCJtCJt
bdCJhCJtCJxbdCJiCJtCJtbdCJiCJtCJybdCJiCJtCJxbdCJpCIwCJtbdCJpCIwCJtbdCJqCJtCIvbdCJqCJtCJtbdCJsCIvCJtbdCJsCIvCJy
bdCJsCIvCJxbdCJsCIuCIubdCJsCIuCIubdCJsCIwCJtbdCJsCIwCJtbdCJsCJtCIvbdCJsCJtCIvbdCJtCIvCIubdCJtCIvCJtbdCJtCIvCJy
bdCJtCIuCIvbdCJtCIuCJtbdCJtCIwCIubdCJtCIwCJtddCJtCIuCIwbdCJvCJtCIubdCJvCJtCJtbdCJuCIvCJtbdCJuCIvCJxbdCJuCIuCJt
bdCJuCIuCJtbdCJuCIuCJxbdCJuCJtCJybdCJuCJtCJxbdCJyCJtCJtbdCJyCJtCJtbdCIqCIwCJybdCIsCIuCJybdCIsCIuCJxbdCIsCIwCJy
bdCIsCIwCJxbdCIsCJtCJybdCIsCJtCJxbdCIuCJtCJybdCIuCIvCJxbdCIuCJtCJxbdCJbCIwCJxbdCJdCIvCJybdCJcCIvCJybdCJeCIvCJy
bdCJsCIuCJybdCJsCJtCJybdCJyCIvCJybdCJyCIuCJybdCJyCJtCJybdCJtCJtCJybdCJqCJtCJybdCJuCIvCJybdCJqCJtCIvbdCJsCIvCJt
bdCJhCJtCJybdCJrCJtCJybdCJuCIuCIvbdCJtCIwCJybdCJsCIuCJtbdCJrCJtCJtbdCJsCIuCJtbdCJuCIuCIvbdCIuCIvCJybdCIvCIuCJy
bdCJtCIuCJybdCJpCJtCJybdCIqCIvCJybdCJrCJtCJtbdCJhCIuCJtbdCJdCJtCJtbdCJbCIwCJybdCJuCIuCJyBpdCJdCJsCPebdCJqCJsCPe
beCIpCJsCJsCJvbeCIpCJrCIqCIzbeCJtCIvCJtCIxbeCJdCJsCJhCJtbeCIzCJbCJwCJsbeCJhCJsCJyCJvbeCJwCJbCJsCJtbdCJdCJsCJx
bsCJdCJsCJxBgCIpCJsCJsCJvBgCJhCJsCJyCJvBgCJwCJbCJsCJtbiCIuCJsBgCIuCJsCIpCJsCJvbeCIzCOyCIpCJsubBsbbSErcacbbCgcbBh
bbClbacbbSFmBabMDwbbMDvbacbaDrcacbbBocacbcEtcacbbSFkcacbbSFgcacbbSFacacbbSEycaebbSFcgacbcDnccBgBDtbcBgBDtbcBgBDt
bcBgBDtbadbaDrdbBsbbSErdbChbbCgbbClbbBhbbMDwbacbbBocacbcEtcacbbSFkcbBjbbBmbacbbBqcbBtbacbcCicbCjcbDobacbbBkcbCm
fcBgCJzbcCJoCJzbcBgCKaccBgCKbccBgCKcbcCJoCKcbcBgCKdbcCJoCKdbcBgCKebcCJoCKebcBgCKfbcCJoCKfbcBgCKgbcCJoCKgbacbbCIj
cacbbCIkcacbbCIlcacbbCImcacbbCIncadbaCIodacbaCIpcaebaCIqeacbaCIrcaebaCIseaebaCIteaebaCIueaebaCIveaebaCIweacbaCIx
cacbaCIycacbaCIzcacbaCJacaebaCJbeaebaCJceaebaCJdeaebaCJeeaebaCJfeaebaCJgeaebaCJheaebaCJieaebaCJpeaebaCJqeaebaCJr
eaebaCJseaebaCJteaebaCJueaebaCJveacbaCJwcacbaCJxcaebaCJyecCJsCIkbcCJsCIkbcCJsCIlbcCJsCIlbcCJsCInbcCJsCInbcCJsCIp
bcCJsCIpfaBgbbBhBgaBabbDtBaaBkbbDnBkacbbPSvcbBubacbbSFccbSErbbSOhbbSNybafbcSKvfadbcSNjdbSMdbbSOibafbcSKwfambcSLf
maebcSMeeafbbSMlfbSMsbbSMvbbSMybbSNbbafbbSNefadbcSNkdafbbSNpfbSNvbbSNzbacbbSKndacbbGLkcbGRybbGLmbacbbGSacadbbGLn
dagbbGSegbGMkbadbbGLqdbGMrbakbbGLtnagbbGPdiagbbGPjiagbbGPpiadbbGPvgacbbGgcbGqbcBgBDsbbGkbbGjbbMJpcbOAkbaebbMSm
ebOGmbbOIdBOcaBobbDUNoGuaBkbbDUUiHkalbbDVBrmapbbDVCdqahbbDVCtiacbbDVDbSzacbbBBscbIwbbZpbbWxcbZzbbCMXqbbBAbbbBAa
bacbbXacbLFdbbXcbbXibbBAfbbXobbXmbbXkbbZrbbLjbbZsbbXrbbYubacbbBAgcbXwbbGZKmbbCLLubbXybbGZKnbbZebbGZKobbJobacbbYg
cbEjbbYkbbGZKqbacbbYncbYqbbBAebbBAcbbCMXrbbBAdbbYybbQVpcbZfbacbbZxcbZobadbbRgdbGZKsbbGZLmBVaaBzbbDXUeIaawbbDYAy
EHkaBgbbECIiBGLcaBgbbFITkDsazbbFIWxBJRqaBabbDtBaakbbBwCRoaBabbDtBaaBabbDtBaaBabbDtBaahbbDtiasbbEbsaBabbDt
BaaBabbDtBaacccDtdbDwdbDzdacbbEceaebbEgfaibbEliaebbDtfacccDydagbbEbhalbbEilaBabbDtBaaBabbDtBaacbbDtdaebbDw
gaibbEcjahbbEliaBabbDtBaacbbDtdaebbDwfafbbEbgbEheahbbEliaBabbDtBaaBabbDtBaaBabbDtBaaBabbDtBaaBabbDtBaaBabbDt
BaaBabbDtBaaBabbDtBaaBabbDtBaaBabbDtBaaBabbDtBaaBabbDtBaaBabbDtBabLtbbVvdarbbBKjrbBKqbahbbBLbhbMXbbarbbBKj
racbaBLbcagbbBLcgbMWwbbBKnbacbcBKqcbBLebbBKzbbBKybarbbBKjrbBKqbahbbBLbhbMXbbarbbBKjracbaBLbcagbbBLcgbMWwbbBKn
bacbcBKqcbBLebbBKzbbBKybarbbBKjrbBKqbahbbBLbhbMXbbarbbBKjracbaBLbcagbbBLcgbMWwbbBKnbacbcBKqcbBLebbBKzbbBKy
barbbBKjrbBKqbahbbBLbhbMXbbarbbBKjracbaBLbcagbbBLcgbMWwbbBKnbacbcBKqcbBLebbBKzbbBKybarbbBKjrbBKqbahbbBLbhbMXb
barbbBKjracbaBLbcagbbBLcgbMWwbbBKnbacbcBKqcbBLebbBKzbbBKybacbaBMbeakbbBwkakbbBwkakbbBwkakbbBwkakbbBwDDaajbbBPg
jadbbBPqdalbbBPulacbcBQhcbBQkbbCLBtbbBVtbacbcBQscbBWjbbBUdbbBVjbajbbBPgjacbbBPqcacbbBPucacbcBPxcafbbBQafacbbBQg
cbBSzbbBQsbbBQrbbBRbbbBTzbbCKZpbbBUfDGlaBibbHDGcBXgacbbCIpcbCIubbCIxcbCJwbbCJabbCIvbbCJfbbCJybaebbCJrebCJbbbCJh
bbCJpbbCJdbbCJqbbCIzbbCJcbacbbCIscacbcCIwcadbcCJedbCLibbCOgbbCNhbbCLjcbCIqbbCIucbCJvdbCIvcbCJybaebbCJrebCJbbbCJh
bbCJpbbCJdbbCJqcbCJcbacbbCIscbCIwcbCJecbCJihbCIufbCIvcbCJycacccCJsdbCJbbbCJhcbCJdbbCJqcbCJcdbCIwcbCJecbCJicbCOg
cbCLjcbCIqbbCIucbCJvdbCIvbbCJfbbCJybacccCJrdbCJubbCJbbbCJhbbCJpbbCJdbbCJqcbCJcbacbbCIscbCIwcadbcCJedbCLicbCNh
cacbbCIpcbCIubbCIxbacbbCJvcbCJabbCIvbbCJfbbCJycadbbCJsdbCJbbbCJhbbCJpbbCJdbbCJqbbCIzbbCJcbacbbCIscacbcCIw
cadbcCJeibCIqbbCIubbCIxcbCJwbbCJabbCIvbbCJfbbCJycadbbCJsdbCJbbbCJhbbCJpbbCJdbbCJqbbCIzbbCJcbacbbCIscacbcCIw
cadbcCJeWmcBwBsbcBxBsbcByBsbcBzBsbcCaBsbcCbBsbcCcBsbcCdBsbcCeBsbcCfBsgdBoDtBpbdBoDuBpbdBoDvBpbdBoDwBpbdBoDxBp
bdBoDyBpbdBoDzBpbdBoEaBpbdBoEbBpbdBoEcBpbdBoEdBpbdBoEeBpbdBoEfBpbdBoEgBpbdBoEhBpbdBoEiBpbdBoEjBpbdBoEkBpbdBoElBp
bdBoEmBpbdBoEnBpbdBoEoBpbdBoEpBpbdBoEqBpbdBoErBpbdBoEsBpbdSFkElSFlbbDvbbEkbcDvDwbcEpEscaBabbDtBacEaEobcEfEo
bcElDwbcElElbdEiEiEobcEpDvBbcEfDvbcEfDwbcEfEkBkcDwEcEicSJjSHnbcSLnSLnbbSLpobBLFvbbBIPjbbBFTcbbSMhbbBDTkbbBHTi
bbCAFrbbBHTxbbBDUibbBMRobbBQVxbbBMMjbbBFEjbbBKEubbBEWzbbBMNgbbBFCnbbBVLibbBSJfbbCBGzbbBHRsbbBFXhbbBQBsbbBLIr
bbBLQbbbBDOabbBDOjbbCCQsbbBJOobbBDPtbbBFUpbbBLNbbbCBOqbbBLGdbbBUAjbbBUJybbBFVkbbBPWabbBNAnbbBNAmbbBSJzbbBFFu
bbBGLybbCDArfdSFkBNBwSFlbdSFkBDOjSFlbdSFkBDTkSFlbdSFkBIRhSFlbdSFkBQRxSFlbdSFkBLGdSFlbdSFkBTAdSFlbdSFkBFJxSFl
bdSFkBMJvSFlibBKFfbbBFUlDQtakbbBw
"

/-- What a character becomes in a domain name, if it may stand there. -/
def formOf? (c : Char) : Option (List Char) :=
  if refused.contains c then none
  else if ignored.contains c then some []
  else match Compact.lookup replacements c.toNat with
    | some codes => some (codes.map Char.ofNat)
    | none => some [c]

/-- What a text becomes in a domain name, before characters are composed. -/
def formsOf? (cs : List Char) : Option (List Char) := (cs.mapM formOf?).map List.flatten

end TestScenario.Unicode.DomainMapping
