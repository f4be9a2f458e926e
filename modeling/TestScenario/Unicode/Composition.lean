import TestScenario.Unicode.Compact

/-!
Characters composed of others: a letter and its marks can be one character, and a character can be another spelling of
one. A text is normal if all that can be composed is composed, and marks on one letter stand in their usual order.
-/

namespace TestScenario.Unicode.Composition

/-- What some characters are composed of, those of Korean syllables apart: one other character or two. -/
def parts : List Compact.Entry := Compact.entries "
HkcCnBDobcCnBDpbcCnBDqbcCnBDrbcCnBDwbcCnBDyccCpBFbbcCrBDobcCrBDpbcCrBDqbcCrBDwbcCvBDobcCvBDpbcCvBDqbcCvBDw
ccDaBDrbcDbBDobcDbBDpbcDbBDqbcDbBDrbcDbBDwdcDhBDobcDhBDpbcDhBDqbcDhBDwbcDlBDpdcDtBDobcDtBDpbcDtBDqbcDtBDrbcDtBDw
bcDtBDyccDvBFbbcDxBDobcDxBDpbcDxBDqbcDxBDwbcEbBDobcEbBDpbcEbBDqbcEbBDwccEgBDrbcEhBDobcEhBDpbcEhBDqbcEhBDrbcEhBDw
dcEnBDobcEnBDpbcEnBDqbcEnBDwbcErBDpccErBDwbcCnBDsbcDtBDsbcCnBDubcDtBDubcCnBFcbcDtBFcbcCpBDpbcDvBDpbcCpBDqbcDvBDq
bcCpBDvbcDvBDvbcCpBEabcDvBEabcCqBEabcDwBEadcCrBDsbcDxBDsbcCrBDubcDxBDubcCrBDvbcDxBDvbcCrBFcbcDxBFcbcCrBEabcDxBEa
bcCtBDqbcDzBDqbcCtBDubcDzBDubcCtBDvbcDzBDvbcCtBFbbcDzBFbbcCuBDqbcEaBDqdcCvBDrbcEbBDrbcCvBDsbcEbBDsbcCvBDubcEbBDu
bcCvBFcbcEbBFcbcCvBDvecCwBDqbcEcBDqbcCxBFbbcEdBFbccCyBDpbcEeBDpbcCyBFbbcEeBFbbcCyBEabcEeBEafcDaBDpbcEgBDpbcDaBFb
bcEgBFbbcDaBEabcEgBEaecDbBDsbcEhBDsbcDbBDubcEhBDubcDbBDzbcEhBDzdcDeBDpbcEkBDpbcDeBFbbcEkBFbbcDeBEabcEkBEabcDfBDp
bcElBDpbcDfBDqbcElBDqbcDfBFbbcElBFbbcDfBEabcElBEabcDgBFbbcEmBFbbcDgBEabcEmBEadcDhBDrbcEnBDrbcDhBDsbcEnBDsbcDhBDu
bcEnBDubcDhBDybcEnBDybcDhBDzbcEnBDzbcDhBFcbcEnBFcbcDjBDqbcEpBDqbcDlBDqbcErBDqbcDlBDwbcDmBDpbcEsBDpbcDmBDvbcEsBDv
bcDmBEabcEsBEaBicDbBEpbcEhBEpocDhBEpbcEnBEpBdcCnBEabcDtBEabcCvBEabcEbBEabcDbBEabcEhBEabcDhBEabcEnBEabcImBDs
bcJsBDsbcImBDpbcJsBDpbcImBEabcJsBEabcImBDobcJsBDoccHoBDsbcIuBDsbcVeBDsbcVfBDsbcHqBDsbcIwBDsdcCtBEabcDzBEabcCxBEa
bcEdBEabcDbBFcbcEhBFcbcSwBDsbcSxBDsbcQxBEabcZiBEabcEcBEaecCtBDpbcDzBDpdcDaBDobcEgBDobcHpBDpbcIvBDpbcHqBDpbcIwBDp
bcIiBDpbcJoBDpbcCnBEdbcDtBEdbcCnBEfbcDtBEfbcCrBEdbcDxBEdbcCrBEfbcDxBEfbcCvBEdbcEbBEdbcCvBEfbcEbBEfbcDbBEdbcEhBEd
bcDbBEfbcEhBEfbcDeBEdbcEkBEdbcDeBEfbcEkBEfbcDhBEdbcEnBEdbcDhBEfbcEnBEfbcDfBFabcElBFabcDgBFabcEmBFadcCuBEabcEaBEa
hcCnBDvbcDtBDvbcCrBFbbcDxBFbbcIgBDsbcJmBDsbcIfBDsbcJlBDsbcDbBDvbcEhBDvbcVmBDsbcVnBDsbcDlBDsbcErBDsKjacbbBDodbBEh
bcBDwBDpBwbBAvkbChhcGmBDpbcBJdBDpbbHbbcBJhBDpbcBJjBDpbcBJlBDpccBJrBDpccBJxBDpbcBKbBDpbcBLiBDpBacBJlBDwbcBJxBDw
bcBKjBDpbcBKnBDpbcBKpBDpbcBKrBDpbcBLjBDpBacBKrBDwbcBLdBDwbcBKxBDpbcBLdBDpbcBLhBDpfcBLqBDpbcBLqBDwBscBOfBDo
bcBOfBDwccBOdBDpecBNqBDwfcBOkBDpbcBOiBDobcBOtBDulcBOiBDuBgcBPoBDuxcBPlBDobcBPlBDwccBPjBDpecBQsBDwfcBPqBDp
bcBPoBDobcBPzBDuycBRwBEdbcBRxBEdCwcBOgBDubcBPmBDuocBOaBDubcBPgBDubcBOaBDwbcBPgBDwdcBOfBDubcBPlBDudcBVsBDw
bcBVtBDwbcBOgBDwbcBPmBDwbcBOhBDwbcBPnBDwdcBOiBDsbcBPoBDsbcBOiBDwbcBPoBDwbcBOoBDwbcBPuBDwdcBWiBDwbcBWjBDwbcBPdBDw
bcBQjBDwbcBOtBDsbcBPzBDsbcBOtBDwbcBPzBDwbcBOtBDzbcBPzBDzbcBOxBDwbcBQdBDwdcBPbBDwbcBQhBDwLlcCIpCKhbcCIpCKi
bcCJwCKibcCIpCKjbcCJyCKiFycCPhCKiccCOnCKircCPeCKiXacDMeDMyicDMmDMydcDMpDMyBkcDLlDMybcDLmDMybcDLnDMybcDLsDMy
bcDLxDMybcDLyDMybcDMhDMybcDMlDMyEecDShDRybcDShDSxqcDQvDRwbcDQwDRwccDRjDRwDgcDWkDWudcDWqDWuBjcDViDWubcDVjDWu
bcDVoDWudcDWdDWuJacEHbEHqdcEHbEGsbcEHbEHrqcEFpEGqbcEFqEGqCdcEJyEMpCccELyELqbcELzELqbcELyEMpEucEQwERmEqcEVnEWj
hcEVuEWjbcEVuEWkccEVuEVqbcEVyEWjExcFAsFAkbcFAtFAkbcFAsFBjFmcFGjFFuccFGjFFzbcFGmFFubcFGjFGpNtcFUgFYtkcFUqFYt
fcFUvFYtfcFVaFYtfcFVfFYtncFUeFYrkcFWbFWcccFWbFWebcFYoFWqccFYpFWqjcFWbFWqscFXiFYtkcFXsFYtfcFXxFYtfcFYcFYtfcFYhFYt
ncFXgFYrEfcGCzGDiEDccKGbKHxccKGdKHxccKGfKHxccKGhKHxccKGjKHxecKGnKHxBpcKIcKHxccKIeKHxdcKIgKHxbcKIhKHxccKIkKHx
BAzcCnBEzbcDtBEzbcCoBDvbcDuBDvbcCoBExbcDuBExbcCoBFlbcDuBFlbcHrBDpbcIxBDpbcCqBDvbcDwBDvbcCqBExbcDwBExbcCqBFl
bcDwBFlbcCqBFbbcDwBFbbcCqBFhbcDwBFhbcKoBDobcKpBDobcKoBDpbcKpBDpbcCrBFhbcDxBFhbcCrBFkbcDxBFkbcVgBDubcVhBDubcCsBDv
bcDyBDvbcCtBDsbcDzBDsbcCuBDvbcEaBDvbcCuBExbcEaBExbcCuBDwbcEaBDwbcCuBFbbcEaBFbbcCuBFibcEaBFibcCvBFkbcEbBFkbcHzBDp
bcJfBDpbcCxBDpbcEdBDpbcCxBExbcEdBExbcCxBFlbcEdBFlbcCyBExbcEeBExbcLLmBDsbcLLnBDsbcCyBFlbcEeBFlbcCyBFhbcEeBFh
bcCzBDpbcEfBDpbcCzBDvbcEfBDvbcCzBExbcEfBExbcDaBDvbcEgBDvbcDaBExbcEgBExbcDaBFlbcEgBFlbcDaBFhbcEgBFhbcIfBDpbcJlBDp
bcIfBDwbcJlBDwbcMuBDobcMvBDobcMuBDpbcMvBDpbcDcBDpbcEiBDpbcDcBDvbcEiBDvbcDeBDvbcEkBDvbcDeBExbcEkBExbcLMwBDs
bcLMxBDsbcDeBFlbcEkBFlbcDfBDvbcElBDvbcDfBExbcElBExbcNiBDvbcNjBDvbcNoBDvbcNpBDvbcLNeBDvbcLNfBDvbcDgBDvbcEmBDv
bcDgBExbcEmBExbcDgBFlbcEmBFlbcDgBFhbcEmBFhbcDhBEybcEnBEybcDhBFkbcEnBFkbcDhBFhbcEnBFhbcNwBDpbcNxBDpbcNyBDwbcNzBDw
bcDiBDrbcEoBDrbcDiBExbcEoBExbcDjBDobcEpBDobcDjBDpbcEpBDpbcDjBDwbcEpBDwbcDjBDvbcEpBDvbcDjBExbcEpBExbcDkBDvbcEqBDv
bcDkBDwbcEqBDwbcDlBDvbcErBDvbcDmBDqbcEsBDqbcDmBExbcEsBExbcDmBFlbcEsBFlbcEaBFlbcEmBDwbcEpBDybcErBDyccOtBDvfcCnBEx
bcDtBExbcCnBDxbcDtBDxbcHmBDpbcIsBDpbcHmBDobcIsBDobcHmBDxbcIsBDxbcHmBDrbcIsBDrbcLPoBDqbcLPpBDqbcJyBDpbcJzBDp
bcJyBDobcJzBDobcJyBDxbcJzBDxbcJyBDrbcJzBDrbcLPoBDubcLPpBDubcCrBExbcDxBExbcCrBDxbcDxBDxbcCrBDrbcDxBDrbcHuBDp
bcJaBDpbcHuBDobcJaBDobcHuBDxbcJaBDxbcHuBDrbcJaBDrbcLQmBDqbcLQnBDqbcCvBDxbcEbBDxbcCvBExbcEbBExbcDbBExbcEhBEx
bcDbBDxbcEhBDxbcIeBDpbcJkBDpbcIeBDobcJkBDobcIeBDxbcJkBDxbcIeBDrbcJkBDrbcLRgBDqbcLRhBDqbcQaBDpbcQbBDpbcQaBDo
bcQbBDobcQaBDxbcQbBDxbcQaBDrbcQbBDrbcQaBExbcQbBExbcDhBExbcEnBExbcDhBDxbcEnBDxbcQpBDpbcQqBDpbcQpBDobcQqBDobcQpBDx
bcQqBDxbcQpBDrbcQqBDrbcQpBExbcQqBExbcDlBDobcErBDobcDlBExbcErBExbcDlBDxbcErBDxbcDlBDrbcErBDrhcBKjBEhbcBKjBEi
bcLTgBDobcLThBDobcLTgBDpbcLThBDpbcLTgBGcbcLThBGcbcBJdBEhbcBJdBEibcLToBDobcLTpBDobcLToBDpbcLTpBDpbcLToBGcbcLTpBGc
bcBKnBEhbcBKnBEibcLTwBDobcLTxBDobcLTwBDpbcLTxBDpdcBJhBEhbcBJhBEibcLUeBDobcLUfBDobcLUeBDpbcLUfBDpdcBKpBEhbcBKpBEi
bcLUmBDobcLUnBDobcLUmBDpbcLUnBDpbcLUmBGcbcLUnBGcbcBJjBEhbcBJjBEibcLUuBDobcLUvBDobcLUuBDpbcLUvBDpbcLUuBGcbcLUvBGc
bcBKrBEhbcBKrBEibcLVcBDobcLVdBDobcLVcBDpbcLVdBDpbcLVcBGcbcLVdBGcbcBJlBEhbcBJlBEibcLVkBDobcLVlBDobcLVkBDpbcLVlBDp
bcLVkBGcbcLVlBGcbcBKxBEhbcBKxBEibcLVsBDobcLVtBDobcLVsBDpbcLVtBDpdcBJrBEhbcBJrBEibcLWaBDobcLWbBDobcLWaBDpbcLWbBDp
dcBLdBEhbcBLdBEibcLWiBDobcLWjBDobcLWiBDpbcLWjBDpbcLWiBGcbcLWjBGcccBJxBEiccLWrBDoccLWrBDpccLWrBGcbcBLhBEhbcBLhBEi
bcLWyBDobcLWzBDobcLWyBDpbcLWzBDpbcLWyBGcbcLWzBGcbcBKbBEhbcBKbBEibcLXgBDobcLXhBDobcLXgBDpbcLXhBDpbcLXgBGcbcLXhBGc
bcBKjBDobbBKebcBKnBDobbBKfbcBKpBDobbBKgbcBKrBDobbBKhbcBKxBDobbBLkbcBLdBDobbBLlbcBLhBDobbBLmdcLTgBGfbcLThBGf
bcLTiBGfbcLTjBGfbcLTkBGfbcLTlBGfbcLTmBGfbcLTnBGfbcLToBGfbcLTpBGfbcLTqBGfbcLTrBGfbcLTsBGfbcLTtBGfbcLTuBGfbcLTvBGf
bcLUmBGfbcLUnBGfbcLUoBGfbcLUpBGfbcLUqBGfbcLUrBGfbcLUsBGfbcLUtBGfbcLUuBGfbcLUvBGfbcLUwBGfbcLUxBGfbcLUyBGfbcLUzBGf
bcLVaBGfbcLVbBGfbcLWyBGfbcLWzBGfbcLXaBGfbcLXbBGfbcLXcBGfbcLXdBGfbcLXeBGfbcLXfBGfbcLXgBGfbcLXhBGfbcLXiBGfbcLXjBGf
bcLXkBGfbcLXlBGfbcLXmBGfbcLXnBGfbcBKjBDubcBKjBDsbcLXoBGfbcBKjBGfbcBKeBGfccBKjBGcbcMAgBGfbcBJdBDubcBJdBDsbcBJdBDo
bbBIsbcBJdBGfcbBKrdcGmBGcbcLXsBGfbcBKpBGfbcBKgBGfccBKpBGcbcMAwBGfbcBJhBDobbBIubcBJjBDobbBIvbcBJjBGfbcMApBDo
bcMApBDpbcMApBGcbcBKrBDubcBKrBDsbcBLiBDobbBJcdcBKrBGcbcBLiBGcbcBJlBDubcBJlBDsbcBJlBDobbBIwccMDaBDobcMDaBDp
bcMDaBGcbcBLdBDubcBLdBDsbcBLjBDobbBKibcBKzBEhbcBKzBEibcBLdBGcbcBLjBGcbcBJxBDubcBJxBDsbcBJxBDobbBJabcBJtBEi
bcGmBDobbBIrbbDsdcLYaBGfbcBLhBGfbcBLmBGfccBLhBGcbcMCsBGfbcBJrBDobbBIybcBKbBDobbBJbbcBKbBGfbbGydacbbMDeLibBKbebCx
bbHpEhcMSmBFsbcMSoBFstcMSqBFsBfcMUyBFsbcMVcBFsbcMVaBFsCbcMWxBFsfcMXcBFsdcMXfBFsycMYdBFsccMYfBFsBbcMZcBFsdcMZjBFs
dcMZlBFsccMZoBFsxcCjBFsccNAnBFslcMZtBFsbcCiBFsbcCkBFsbcNAqBFsbcNArBFsdcNBeBFsbcNBfBFsdcNBiBFsbcNBjBFshcNBmBFs
bcNBnBFsdcNBuBFsbcNBvBFsdcNByBFsbcNBzBFsBjcNDaBFsbcNDgBFsbcNDhBFsbcNDjBFsBxcNBoBFsbcNBpBFsbcNCjBFsbcNCkBFs
hcNDqBFsbcNDrBFsbcNDsBFsbcNDtBFsCiacbbSEyCXvcQGbBFsCBocSHnSKnccSHpSKnccSHrSKnccSHtSKnccSHvSKnccSHxSKnccSHzSKn
ccSIbSKnccSIdSKnccSIfSKnccSIhSKnccSIjSKndcSImSKnccSIoSKnccSIqSKnhcSIxSKnbcSIxSKoccSJaSKnbcSJaSKoccSJdSKnbcSJdSKo
ccSJgSKnbcSJgSKoccSJjSKnbcSJjSKoxcSHiSKnkcSKrSKnocSLfSKnccSLhSKnccSLjSKnccSLlSKnccSLnSKnccSLpSKnccSLrSKnccSLtSKn
ccSLvSKnccSLxSKnccSLzSKnccSMbSKndcSMeSKnccSMgSKnccSMiSKnhcSMpSKnbcSMpSKoccSMsSKnbcSMsSKoccSMvSKnbcSMvSKoccSMySKn
bcSMySKoccSNbSKnbcSNbSKoxcSLaSKndcSNvSKnbcSNwSKnbcSNxSKnbcSNySKnecSOjSKnCXTibCBDgbbBMZsbbCCBybbCBIebbBPZdbbBDPy
bbBFUbbacbaCILocbBHVlbbCDFtbbBGKdbbBHVcbbBLCobbBSVxbbBWHpbbBYVvbbBZKkbbBZWqbbCCTjbbBODubbBPIhbbBQTdbbBRWwbbBYCb
bbCDBubbCGHtbbBDTabbBFPtbbBONsbbBRFnbbBYVdbbCHWwbbBJIubbBQJzbbBYRlbbCAAubbBLKrbbBXEmbbBZOhbbBJXibbBNBbbbBPLi
bbBROebbCCVubbBEDabbBEYpbbBFJybbBMEebbBOLvbbBRFcbbBTAtbbBWMjbbBYTqbbBYWybbCBTnbbCFGsbbCGWlbbCHVmbbBTQybbBUAh
bbBVOybbBXXpbbCDRobbCIApbbCAPabbBHRbbbBJZobbBVCqbbBWRebbBRIgbbBTTibbCBHybbCFElbbBHQubbBIZqbbBOElbbBPPqbbBQBn
bbBVKpbbBVUtbbCEXvbbBFJmbbBWRrbbBFAabbBEZkbbBUGibbBVQcbbBXZdbbCEZlbbCAVobbBLKxbbBODubbCAQobbBDQfbbBIUxbbBKJy
bbBRTnbbBSMibbBFMdbbBTVfbbBEFfbbBKFxbbBDOnbbBPFgbbBMLcbbBVKcbbBFStbbBHMcbbBTBtbbBYCnbbCANibbBOUsbbCCKubbBPCq
bbBLMsbbBXOvbbBLSybbBSLxbbBDUsbbBEVpbbBEZhbbBNOzbbBVHvbbBXKhbbCAOwbbCDFrbbBFKvbbBFXqbbBHWtbbBJYqbbBMObbbBQKs
bbBTXabbCERtbbCGMkbbCIBnbbCIDqbbBFHjbbBMXybbBOSdbbCCHubbBJUabbBKYqbbBLCybbBMCobbBQChbbBQXlbbBSDlbbBUDebbBVSe
bbBWQpbbCCFmbbBYIwbbCCPfbbCDUgbbBFChbbBFHrbbBGCjbbBQSmbbBZUobbCANibbBJXhbbBKIvbbBLRnbbBOUgbbBVBibbBRSvbbBDWu
bbBGYjbbBIUxbbBJMwbbBKKibbBRVebbBSCfbbBWIkbbBWPabbCDJobbCFEkbbCFHobbCFPobbBEDfbbBUCcbbCDEqbbCFCabbBKRxbbBDTe
bbBEQcbbBIVebbBIYhbbBMMjbbBODubbBRCobbBSUkbbBYJkbbCCSqbbCIKzbbBMVobbCEWsbbBFGrbbBNExbbBNJnbbBPJtbbBPXcbbBRYn
bbBSLlbbBTPrbbBVJkbbCFSgbbBEVtbbBLEsbbCEZobbBEJjbbBJGrbbBPQgbbCCFqbbBKEtbbBKVsbbBNKxbbBRTnbbCFAcbbBFCzbbBFVr
bbBIZtbbBMRbbbBNDebbBNQmbbBPGfbbBRYkbbBSQsbbBWHdbbBZVbbbBZVtbbCDFobbCFDqbbBFNrbbBPYgbbBFWfbbBRCqbbBSEabbBYTe
bbCFBfbbCHFjbbCIBvbbBNFzbbBPPbbbBXFcbbBUNbbbBUQibbBVEobbBRLwbbBQQrbbCAUabbBDVkbbBXRybbBFDqbbBFBrbbBJVybbBLLb
bbBVHebbBIRdbbBPIkbbBMXgbbCCGhbbBZQabbCEXxbbCAChbbBJXrbbBEUabbBGMidbBHLycbBMUudbBFAcbbBRPybbBSZqbbBTXsbbBTZa
bbBTZhbbBUAxbbCFIcbbBVGgbbBWJtcbBYUccbCAQidbCCQabbCCXpebCFXvbbCFYibbCGAabbCHSubbCCWkbbCFBzbbBEEobbBEQpbbBEUn
bbBFJdbbBFKebbBFOjbbBGKzbbBGPabbBGSubbBHKybbBHOybbBIZsbbBJAcbbBKOybbBKXcbbBKYobbBLCkbbBMJnbbBMPebbBMVxbbBNPd
bbBPLvbbBPScbbBQCgbbBQYwbbBRGdbbBRZmbbBTRdbbBTXubbBTYfbbBTYebbBTYmbbBTYsbbBTYzbacbbBUAvcbBUHsbbBUKfbbBUWmbbBVSe
bbBVSzbbBVVdbbBWGwbbBWMnbbBXFhbacbaBXKrcbBYDbbbBZXobbCACsbbCAQrbbCASvbbCBIpbbCBKqbbCCLabbCCQabbCFDrbbCFOpbbCFQx
bbBKNtbbILGgbbBXGydbBDPmbbBEYnbbBEVobbBECubbBEUfbbBEWmbbBFJbbbBFLabbBGKzbbBGIfbbBGKvbbBGNqbbBHLybbBHPjbbBHUy
bbBHVobbBIFybbBINobbBJXqbbBJXxbbBKDlbbBKGbbbBKRobbBKWcbbBKTkbbBKYobbBKWubbBLCkbbBLEybbBLUibbBLXsbbBLZubbBMJu
bbBMUubbBNBbbbBNBfbbBNDmbbBOSfbbBOUsbbBPJtbbBPZnbbBPYxbbBQCgbbBQLybbBQYwbbBTIdbbBRGnbbBRLfbbBRPybbBSCnbbBSIg
bbBSKhbacbcBSSzcbBSZqbbBTAhbbBTBgbbBTEobbBTEebbBTTkbbBUMbbbBUWmbbBVDrbbBVMhbbBVSebbBWEwbbBWMnbbBXTabbBXZbbbBZHx
bbBZZlbbCACcbbCACsbbCAOdbbCAQibbCAOpbbCAQrbbCAQobbCAPxbbCASvbbCAVybbCBKqbbCCGebbCCSgbbCDDpbbCDMcbbCEZsbbCFDr
bbCFIcbbCFNfbbCFOpbbCFPbbbCFQxbbCGSwbbCILobbIBDybbIBDsbbIFNpbbWOzbbYHcbbYIjbbIRBlbbIVBcbbJHXzbbCIIdbbCILa
CqcCFpCEeccCGoCEhlcCGfCErbcCGfCEsbcDREfCErbcDREfCEsbcCFgCEhbcCFgCEibcCFgCEmbcCFhCEmbcCFiCEmbcCFjCEmbcCFkCEm
bcCFlCEmbcCFmCEmccCFoCEmbcCFpCEmbcCFqCEmbcCFrCEmbcCFsCEmccCFuCEmccCFwCEmbcCFxCEmccCFzCEmbcCGaCEmccCGcCEmbcCGdCEm
bcCGeCEmbcCGfCEmbcCGgCEmbcCFlCEjbcCFhCEpbcCFrCEpbcCGaCEpDZfcDVDyBDvBbcDVEgBDvEBmcDZGbDZHiccDZGdDZHipcDZGnDZHi
FbcDZLxDZLnbcDZLyDZLnUucEAGlEAGcbcEAGlEAHbCdcEAIsEALlccEAIuEAKxjcEAJbEALedcEAJgEALlCacEALeEALeccEALeEAKu
bcEALeEALlJjcEAUrEAUsbcEAUrEAUiccEAUrEAUvJscEBEmEBEdbcEBEnEBEdBIjcECMvECMqBBGbcFDSwFDSwbcFDSwFDThbcFDSwFDSx
bcFDThFDSxbcFDSwFDSybcFDSzFDSxbcFDTaFDSxbcFDSzFDSyEQqcFIJvFIJvbcFIJrFIJvbcFIJxFIJvBLWecGUFvGUGjbcGUFwGUGj
bcGUGdGUGsbcGUGdGUGtbcGUGdGUGubcGUGdGUGvbcGUGdGUGwDjcGUJpGUGjbcGUJqGUGjbcGUJrGUGsbcGUJsGUGsbcGUJrGUGtbcGUJsGUGt
EHLgbBDQjbbBDQebbBDQnbbHMIkbbBEBobbBEEobbBEFbbbBEHubbBEMkbbBENpbbBEQpbbBEPrbbTYcbbHOGobbBEUnbbBEUubbBEVkbbBEWd
bbHNVobbTZdbbBEVnbbBEWzbbHNXjbbBEXjbbBEXwbbBDVwbbBEYebbBEYnbbJPDnbbBFAzbbBFBnbbUApbbBFDrbbBFEcbbBFFubbBFFzbbUCr
bacbcBFJbcbBFKebbBFLabacbbBFLlcbBFMdbbBFObbbBFOjbbBFOsbbBFPrbacbcBFQbcacbaBFQdcbHPTkbbBQPcbbBFTabbBFTvbbHQFj
bbBFUhbbBFUnbbBFVibbBGBebbBFXgbbBFXwbbBFZcbbBGBibbBGEobbBGFobbBGIdbbBGItbacbaBGKacbBGKvbbBGLnbbBGLvbbBGMkbbBGZm
bbBGPabbBGZnbbBGRxbbBGTgbbBFBrbbBHRqbbBHGobbBHIabbBHIzbbBHDzbbBHKkbbBHKjbbBHPcbbHTUybbBHRubbBHRzbbBHSobbBHTi
bbBHTqbbBHWcbbHUMibbHUOwbbBIBkbbBIDfbbBIDrbbBIAqbbBIGcbbUUwbbUVkbbBIMibacbaBIOkcbHVRcbbBITnbbBIUibbBIUxbbBIVj
bbHWEabbBIVvbbBIWcbbBKCpbbBIXebbVAnbbBIZobbBJAcbbBJDgbbBJBhbbHXFobbBJIhbbHXFqbbBJJybbBJJvbbBJKmbacbbBJOjcbVHf
bbBJPlbbBJRcbbBJRxbbBJTpbbVJebbHYPfbbVKebbBJWibbBJWlbbBJWobbBJXibbJVVubbBJZibacbaHZFtcbBXGbbacbaBKAscbVNbbbIFCq
bbIWYsbbBKDebbBKDnbbVOdbbBKFibbBKHhbbBKHrbbBKIzbbBKOfbbVRmbbVQibbBKOybbIAPobbBKQxbbBKVwbacbcBKWacbBKWabbBKXu
bbBKYobbBKZybbBKZkbbBKZvbbBLBqbbBLCkbbBLCobbBLDobbBLDzbbBLGnbbBLJtbbBLLcbbBLPwbbICFcbbBLPdbbBLMqbbBLQubbBLRv
bbBLVobbICNxbbBLXybbBLUjbbBLThbbWAwbbBMArbbBMBmbbBMCrbbBMBfbbWDgbbBMJnbbBMKqbbIECgbbBMPfbbBMZwbbBMTdbbWJxbbBMVx
bbWJgbbWHwbbBEXebbBEXhbbBNAebbBMWibbBWSzbbZSbbbBNBbbbBNBfbbBNBlbbBNDubbBNDjbbIFMxbbWLtbbBNJubbBNFhbbBNNebbBNPd
bbIFTlbbBNPmbbBNLfbbBNUqbbWOzbbBNWkbbBOAdbbBOCwbbBOKebbIGPfbbBOMdbbWTsbbBOOvbbIHJbbbBOQubbWVubbBORybbBOTr
bacbbBOUscbIIBtbbHWXfbbIIFybbBPAkbbIIXgbbBPEtbbBPFhbbBPBjbbBPIcbbBPJqbbBPLvbbBPJtbbBPLhbbBPLwbbBPMjbbIJBabbBPJg
bbBPSxbbBPVibbXEpbbBPYxbbBPYtbbIJRtbbBPQvbbBQFebbIJXebbIJZabbBQIobbBQMzbbBQLybbBQLvbbXIkbbBQNqbbBQPpbbBQPjbbBQRl
bbHNVxbbBQXhbbILAxbbBRAqbbILNnbbBRGabbBRGnbbBRHobbIMKubbBRJkbbBRKfbbIMWjbbINEybbBRTabbBRTrbbXTcbbBRUrbacbaXTo
cbBSAxbbBSBsbbBSCnbbBSDhbbBSFybbXXjbbBSJkbbIOTqbbBSKkbbIOXebbBSMibbHYQhbbBSSmbbIQBhbbIQCebbIQHobbYGabbYGmbbBTBg
bbIQOhbbIQOgbbIQPtbbIQQtbacbbBTCwcbBTCxbbBTEobbYIjbbBTHbbbYIwbbYLybbIRTlbbBTOobbBTQybbBTTkbbYOxbbISNmbbBTYs
bbISRybbISTpbbBUAxbbBUElbbYRvbbBUHsbbBUIcbbBUIhbbITUibacbaIUFvcbBUOkbbYZybbIUPvbbBUWsbbBUWvbbZBjbbIUYabbBVHa
bbZGabbBVHwbbBVHrbbBVIubbIWBubbBVMpbbZJtbbBVQlbbBVSsbbBVVhbbZLsbbIXBsbbIXCxbbZNdbbIXInbbBWHebbIXMkbbBWIfbbBWMc
bbBWMnbbIYCgbbIYFbbbBWQabbIYKebbBWQqbbIFJbbbZRxbbBWTebbBWWhbbZTzbbBWYobbBIJdbbIZDvbbIZEjbbIFLbbbIFLkbbBXGbbbBXGe
bbCCKcbbZXrbbBXLpbbBXLjbbBXMbbbBFIhbacbcBXMvcbBXNhbbBXOwbbJANcbbBXOvbbBXQzbbBXTrbbBXWnbbBXRfbbBXXdbbBXYtbbBYDb
bbBXTbbacbcBXXqcbBXYibbJAWsbbJBIpbbJBCvbbBAFbbacbcBYIzcbBYKkbbJDTibbBYNkbbJBZwbbBAGzbbBAHdbbJCEzbbJCQcbbBAHn
bbBYWmbbBYWybacbcBYXjcbBYZxbbBYYqbbBZDubbBZCcbbBZHxbbBZEubbBZHjbbBZIkbbBALrbbBZLxbbBZNdbbBAMzbbBZQubbBZQxbbJETb
bbBZVjbbBZVqbbBAPhbbBZWsbbTZfbbJFPmbbJFWobbBAUobbBAUxbbCAMybbCAPxbbCAVybbCBDtbbJHCqbbCBHbbbCBHxbbCBLjbbCBOx
bbJIBnbbHOYebbCBSdbbCBRobbCBTobbHPGobbCCCibbCCGebbJKOwbbJKPxbbCCTobbCCXdbbCCYjbbJLCgbbCCYtbbCDJsbacbbCDPvcbCDMi
bbCEAzbbCECbbbJMXmbbCEQlbbBBWnbbCESdbbJNMdbbBBZqbbCFClbbBJMobbCFGdbbJOXpbbJPFubbBCEwbbBCFebbCFNkbbJPYwbbBCHm
bbJQEgbacbaCFPbcbCFQfbbJQPibbCFXibbBCMlbbCGAbbbCGExbbCGFybbCGIgbbBCSkbbJSRgbbCGSwbbCHEmbbCHLtbbBDCgbbBDDlbbCHPv
bbJUUobbBDDwbbJUWrbbJVGwbbJVLxbbCICxbbBDHmbbCIFhbbCIFmbbCIFtbbCIGdbbCIGkbbCIHvbbJWTs
"

/-- The characters of two parts that are not composed again. -/
def leftApart : ScalarSet := Compact.set "
BGebCHviEucbbDfbcbBidcbJtcBMjbjbebebebmbjbbcbbibrbjbebebebmbKHebCXVsbbbknbfbbbcbcbjDDBrhDig
"

/-- All characters by their combining class: zero for letters, and for marks a number that tells where they stand. -/
def classes : List Compact.Stretch := Compact.partition "
BDoavIwbIyeImbIybIifImcHueImcHulImfbeImiIwbJgbIwdImdIwcImbadIweImbIwbIycImbIwbIzcJabIzcJabIznIwKpafIwKfabImeIw
bImdIwbIobImgIwgImcIwbImcIwbIobIubIwbkblbmbnbobpbqbrbsctbubvbwbabxbabybzbabIwbImbabsCuaiIwbBebBfbBgBwabBbbBcbBd
bBebBfbBgbBhbBicIwcImfIwbImcIwbImqabBjDxahIwcaeIwbImbIwcacIwbabImcIwbImBjabBkBeabIwbImcIwbImcIwdImbIwcImbIwbIm
dIwbImbIwbImbIwbImbIwbImcIwGeahIwbImbIwjabImyaeIwbajIwbadIwbafIwBradImChacIwdImeIwBqafIwfImoIwbabImcIwbImcIwbIm
dIwdImbBbbBcbBddIwbImcIwcImfIwCiabhqabjdabIwbImcIwDzabhqabjBwabIwCjabhqabjEgabhqabjEgabhqabjExabjEgabhqabjhabDg
bDnDxabhqabjEfacjqabjEuabjEfacDzbjnaeEdEeacEobjnaeEsCyacImBbabImbabImbabIiCdabEzbFababFcfaeFacabFabacIwbjbacIw
CkabImEiabhbacjDeabImBBradIwBKmacjBeabjGbabjkabIwHvabIuFnabIobIwbImIlabIwbImCtabjuaiIwcabImBwafIwgImcIwbImbacIm
cIwcImfIwbImsIwbImcagIwbImeIwbJaCuabhpabjBmabIwbImhIwCcacjCgabhlacjCpabhFwadIwbabbfImcIweImbIwbahbeabImgabIwda
cIwHqacIwbImhIwbImcIwbJabIgbImbHuBlIwbIycIubImbIkbIwbIzbImbIwbImBBsacIwcbeIwdbcIweabIwdacbbIwbImbIwcbeImbIwEOca
dIwFlabjDsaBgIwViabIkbIubIybIocIqEbaciBSQeabIweakIwBgacIwDcacIwKqabjBlabjFvabjBbasIwCfadImBlabjDrabhmabjJfabIwba
cIwbImcacIwfacIwbabIwCaabjJmabjBAYyabBaBDpahIwhImcIwBLlabImIsabImFtafIwCMsabImbabIwBoabIwbbbImeabjGjabIwbImWba
eIwCnafIwMfacIwCzacImbadImCsacImdIwbImbIweImBxabIwbImbIwbImHkabjBpabjoabjCfabjbhCradIwBwacjCkabhCyabjjabhEcabjbh
GwabhbjDcachqabjyahIwdafIwDladjEjabjdabhxabIwDvabjbhJrabjbhEwabjEoabjbhEla
bjKjabjbhJyacjeabhGaabjDfabjsabjDdabjQfabjJyabhbacjDdabjQjacjYZcabjDSaafbChahIwBUnacgBDAyabbHWoacIidbdabIsfIiia
iImcafIwcImBeaeIwFsadIwFFfahIwbarIwcahIwbacIwbafIwDwabIwGeahIwOlabIwCjaeIwToacIybImbIwJuabIwbImJjabIwcabIwhacIw
fabIwSgahImEfagIwbhCEGUva
"

/-- The combining class of a code point. -/
def combiningClass (n : Nat) : Nat := if n < 0x300 then 0 else Compact.labelAt classes (placeOf n)

/-- The combining class of the sign that a vowel is missing. -/
def missingVowel : Nat := 9

/-! ### Korean syllables

A syllable is a first consonant, a vowel, and possibly a last consonant. The syllables stand in the order of these. -/

/-- The first of the syllables. -/
def firstSyllable : Nat := 0xAC00

/-- The first of the first consonants. -/
def firstConsonant : Nat := 0x1100

/-- The first of the vowels. -/
def firstVowel : Nat := 0x1161

/-- One before the first of the last consonants. -/
def noConsonant : Nat := 0x11A7

/-- How many first consonants there are. -/
def consonants : Nat := 19

/-- How many vowels there are. -/
def vowels : Nat := 21

/-- How many last consonants there are, none being one of them. -/
def endings : Nat := 28

/-- The place of a code point among the syllables. -/
def syllable? (n : Nat) : Option Nat :=
  if firstSyllable ≤ n && n < firstSyllable + consonants * vowels * endings then some (n - firstSyllable) else none

/-- The letters of a syllable by its place. -/
def lettersOf (place : Nat) : List Nat :=
  let start := [firstConsonant + place / (vowels * endings), firstVowel + place / endings % vowels]
  if place % endings == 0 then start else start ++ [noConsonant + place % endings]

/-- The syllable that two code points make: a first consonant and a vowel, or a syllable and a last consonant. -/
def syllableOf? (a b : Nat) : Option Nat :=
  if firstConsonant ≤ a && a < firstConsonant + consonants && firstVowel ≤ b && b < firstVowel + vowels then
    some (firstSyllable + ((a - firstConsonant) * vowels + (b - firstVowel)) * endings)
  else match syllable? a with
    | some place =>
      if place % endings == 0 && noConsonant < b && b < noConsonant + endings then some (a + (b - noConsonant)) else none
    | none => none

/-! ### Taking apart and composing -/

/-- How often what a character is composed of can be taken apart again. -/
def depth : Nat := 8

/-- A code point taken apart as far as possible. -/
def takeApart : (fuel : Nat) → Nat → List Nat
  | 0, n => [n]
  | fuel + 1, n =>
    match syllable? n with
    | some place => lettersOf place
    | none =>
      match Compact.lookup parts n with
      | some ns => ns.flatMap (takeApart fuel)
      | none => [n]

/-- A code point entered in front of others: behind the marks of lower classes. -/
def enter (n : Nat) : List Nat → List Nat
  | [] => [n]
  | m :: rest =>
    if combiningClass m != 0 && combiningClass m < combiningClass n then m :: enter n rest else n :: m :: rest

/-- Code points with the marks of each letter in the order of their classes. -/
def order (ns : List Nat) : List Nat := ns.foldr enter []

/-- The code point that two code points make. -/
def compose? (a b : Nat) : Option Nat :=
  match syllableOf? a b with
  | some n => some n
  | none =>
    (parts.find? fun e => e.targets == [a, b] && !ScalarSet.holds false (placeOf e.first) leftApart.bounds).map (·.first)

/-- Code points composed from a letter on. `passed` are the marks behind it that it does not take up, latest first.
    Such a mark stands in the way of others of its class. -/
def composeFrom (letter : Nat) (passed : List Nat) : List Nat → List Nat
  | [] => letter :: passed.reverse
  | n :: rest =>
    let isFree := match passed with
      | [] => true
      | m :: _ => combiningClass m < combiningClass n
    match if isFree then compose? letter n else none with
    | some composed => composeFrom composed passed rest
    | none =>
      if combiningClass n == 0 then (letter :: passed.reverse) ++ composeFrom n [] rest
      else composeFrom letter (n :: passed) rest

/-- Code points composed; marks in front of the first letter stay alone. -/
def composeAll : List Nat → List Nat
  | [] => []
  | n :: rest => if combiningClass n == 0 then composeFrom n [] rest else n :: composeAll rest

/-- A text in its normal form. -/
def normalize (cs : List Char) : List Char :=
  (composeAll (order (cs.flatMap fun c => takeApart depth c.toNat))).map Char.ofNat

end TestScenario.Unicode.Composition
