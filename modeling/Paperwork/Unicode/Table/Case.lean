/-!
# Letter case

Full case mappings that do not depend on the neighbours of a character, and the orbits of simple
case folding. Numbers are packed; an entry of a mapping is the distance from the entry before it,
the count of its images and the images; an orbit is its size, the distance of its first member
from the first member of the orbit before it, and the distances between its members.
-/

namespace Paperwork.Unicode.Table

/-- Packed mapping to upper case. -/
def upper : List String :=
  ["DtbCnbbCobbCpbbCqbbCrbbCsbbCtbbCubbCvbbCwbbCxbbCybbCzbbDabbDbbbDcbbDdbbDebbDfbbDgbbDhbbDibbD",
   "jbbDkbbDlbbDmChbBJoBqcDfDfbbHkbbHlbbHmbbHnbbHobbHpbbHqbbHrbbHsbbHtbbHubbHvbbHwbbHxbbHybbHzbb",
   "IabbIbbbIcbbIdbbIebbIfbbIgcbIibbIjbbIkbbIlbbImbbInbbIobbOmcbJwcbJycbKacbKccbKecbKgcbKicbKkcb",
   "KmcbKocbKqcbKscbKucbKwcbKycbLacbLccbLecbLgcbLicbLkcbLmcbLocbLqcbCvcbLucbLwcbLydbMbcbMdcbMfcb",
   "MhcbMjcbMlcbMncbMpbcBAyDacbMscbMucbMwcbMycbNacbNccbNecbNgcbNicbNkcbNmcbNocbNqcbNscbNucbNwcbN",
   "ycbOacbOccbOecbOgcbOicbOkdbOncbOpcbOrbbDfbbWhdbOwcbOydbPbebPfgbPldbTiebPsbbWbbbCLOudbUydbQac",
   "bQccbQedbQhfbQmdbQpebQtcbQvdbQyebRccbTjgbRkbbRkcbRnbbRncbRqbbRqcbRtcbRvcbRxcbRzcbSbcbSdcbSfc",
   "bShbbPicbSkcbSmcbSocbSqcbSscbSucbSwcbSycbTabcCwBEacbTdbbTdcbTgebTkcbTmcbTocbTqcbTscbTucbTwcb",
   "TycbUacbUccbUecbUgcbUicbUkcbUmcbUocbUqcbUscbUucbUwebVacbVccbVecbVgcbVicbVkcbVmcbVocbVqjbVzdb",
   "QWcbbQWdcbWffbWkcbWmcbWocbWqcbWsbbQVnbbQVlbbQVobbOvbbPacbPdbbPecbPjcbPkbbCLMxebPnbbCLMycbPob",
   "bCLOdbbCLLtbbCLMwcbPrbbPqbbCLNabbQVabbCLMzdbPwcbQVmbbPxdbPzibQVcdbQgcbCLNxbbQjebCLNdbbQobbWi",
   "bbQrbbQsbbWjgbQxlbCLNebbCLNcGlbBJlBsbBHwcbBHyebBIcebBNhbbBNibbBNjtdBJlBDwBDpBcbBIsbbBIubbBIv",
   "bbBIwbdBJxBDwBDpbbBJdbbBJebbBJfbbBJgbbBJhbbBJibbBJjbbBJkbbBJlbbBJmbbBJnbbBJobbBJpbbBJqbbBJrb",
   "bBJsbbBJtbbBJvbbBJvbbBJwbbBJxbbBJybbBJzbbBKabbBKbbbBKcbbBKdbbBIybbBJabbBJbcbBJebbBJkebBJybbB",
   "JsbbBLncbBLwcbBLycbBMacbBMccbBMecbBMgcbBMicbBMkcbBMmcbBMocbBMqcbBMsbbBJmbbBJtbbBNdbbBIlcbBJh",
   "dbBNbdbBNeCbbBOabbBObbbBOcbbBOdbbBOebbBOfbbBOgbbBOhbbBOibbBOjbbBOkbbBOlbbBOmbbBOnbbBOobbBOpb",
   "bBOqbbBOrbbBOsbbBOtbbBOubbBOvbbBOwbbBOxbbBOybbBOzbbBPabbBPbbbBPcbbBPdbbBPebbBPfbbBNkbbBNlbbB",
   "NmbbBNnbbBNobbBNpbbBNqbbBNrbbBNsbbBNtbbBNubbBNvbbBNwbbBNxbbBNybbBNzcbBRccbBRecbBRgcbBRicbBRk",
   "cbBRmcbBRocbBRqcbBRscbBRucbBRwcbBRycbBSacbBSccbBSecbBSgcbBSikbBSscbBSucbBSwcbBSycbBTacbBTccb",
   "BTecbBTgcbBTicbBTkcbBTmcbBTocbBTqcbBTscbBTucbBTwcbBTycbBUacbBUccbBUecbBUgcbBUicbBUkcbBUmcbBU",
   "ocbBUqcbBUsdbBUvcbBUxcbBUzcbBVbcbBVdcbBVfcbBVhbbBUucbBVkcbBVmcbBVocbBVqcbBVscbBVucbBVwcbBVyc",
   "bBWacbBWccbBWecbBWgcbBWicbBWkcbBWmcbBWocbBWqcbBWscbBWucbBWwcbBWycbBXacbBXccbBXecbBXgcbBXicbB",
   "XkcbBXmcbBXocbBXqcbBXscbBXucbBXwcbBXycbBYacbBYccbBYecbBYgcbBYicbBYkcbBYmcbBYocbBYqcbBYscbBYu",
   "cbBYwcbBYycbBZaBybBZdbbBZebbBZfbbBZgbbBZhbbBZibbBZjbbBZkbbBZlbbBZmbbBZnbbBZobbBZpbbBZqbbBZrb",
   "bBZsbbBZtbbBZubbBZvbbBZwbbBZxbbBZybbBZzbbCAabbCAbbbCAcbbCAdbbCAebbCAfbbCAgbbCAhbbCAibbCAjbbC",
   "AkbbCAlbbCAmbbCAnbbCAobcBZhCAkEHdbKVgbbKVhbbKVibbKVjbbKVkbbKVlbbKVmbbKVnbbKVobbKVpbbKVqbbKVr",
   "bbKVsbbKVtbbKVubbKVvbbKVwbbKVxbbKVybbKVzbbKWabbKWbbbKWcbbKWdbbKWebbKWfbbKWgbbKWhbbKWibbKWjbb",
   "KWkbbKWlbbKWmbbKWnbbKWobbKWpbbKWqbbKWrbbKWsbbKWtbbKWubbKWvbbKWwdbKWzbbKXabbKXbBDhbHOibbHOjbb",
   "HOkbbHOlbbHOmbbHOnDFvbBOcbbBOebbBOobbBOrbbBOsbbBOsbbBPabbBRebbCKZicbKUzJfbCLLdebQVbrbCLNyElb",
   "LJkcbLJmcbLJocbLJqcbLJscbLJucbLJwcbLJycbLKacbLKccbLKecbLKgcbLKicbLKkcbLKmcbLKocbLKqcbLKscbLK",
   "ucbLKwcbLKycbLLacbLLccbLLecbLLgcbLLicbLLkcbLLmcbLLocbLLqcbLLscbLLucbLLwcbLLycbLMacbLMccbLMec",
   "bLMgcbLMicbLMkcbLMmcbLMocbLMqcbLMscbLMucbLMwcbLMycbLNacbLNccbLNecbLNgcbLNicbLNkcbLNmcbLNocbL",
   "NqcbLNscbLNucbLNwcbLNycbLOacbLOccbLOecbLOgcbLOicbLOkcbLOmcbLOocbLOqcbLOscbLOucbLOwcbLOycbLPa",
   "cbLPcbcCuBFlbcDgBDwbcDjBDybcDlBDybcCnBBabbLNcgbLPocbLPqcbLPscbLPucbLPwcbLPycbLQacbLQccbLQecb",
   "LQgcbLQicbLQkcbLQmcbLQocbLQqcbLQscbLQucbLQwcbLQycbLRacbLRccbLRecbLRgcbLRicbLRkcbLRmcbLRocbLR",
   "qcbLRscbLRucbLRwcbLRycbLSacbLSccbLSecbLSgcbLSicbLSkcbLSmcbLSocbLSqcbLSscbLSucbLSwcbLSycbLTac",
   "bLTccbLTebbLTobbLTpbbLTqbbLTrbbLTsbbLTtbbLTubbLTvjbLUebbLUfbbLUgbbLUhbbLUibbLUjlbLUubbLUvbbL",
   "UwbbLUxbbLUybbLUzbbLVabbLVbjbLVkbbLVlbbLVmbbLVnbbLVobbLVpbbLVqbbLVrjbLWabbLWbbbLWcbbLWdbbLWe",
   "bbLWflcBJxBEhbbLWrbdBJxBEhBDobbLWtbdBJxBEhBDpbbLWvbdBJxBEhBGcbbLWxjbLXgbbLXhbbLXibbLXjbbLXkb",
   "bLXlbbLXmbbLXnjbMAkbbMAlbbMAybbMAzbbMBabbMBbbbMBqbbMBrbbMCubbMCvbbMCgbbMChbbMCwbbMCxdcLToBJl",
   "bcLTpBJlbcLTqBJlbcLTrBJlbcLTsBJlbcLTtBJlbcLTuBJlbcLTvBJlbcLToBJlbcLTpBJlbcLTqBJlbcLTrBJlbcLT",
   "sBJlbcLTtBJlbcLTuBJlbcLTvBJlbcLUuBJlbcLUvBJlbcLUwBJlbcLUxBJlbcLUyBJlbcLUzBJlbcLVaBJlbcLVbBJl",
   "bcLUuBJlbcLUvBJlbcLUwBJlbcLUxBJlbcLUyBJlbcLUzBJlbcLVaBJlbcLVbBJlbcLXgBJlbcLXhBJlbcLXiBJlbcLX",
   "jBJlbcLXkBJlbcLXlBJlbcLXmBJlbcLXnBJlbcLXgBJlbcLXhBJlbcLXiBJlbcLXjBJlbcLXkBJlbcLXlBJlbcLXmBJl",
   "bcLXnBJlbbMAibbMAjbcMAkBJlbcBJdBJlbcBIsBJlccBJdBGcbdBJdBGcBJlfcBJdBJlcbBJlecMBaBJlbcBJjBJlbc",
   "BIvBJlccBJjBGcbdBJjBGcBJlfcBJjBJlebMBobbMBpbdBJlBDwBDobdBJlBDwBDpdcBJlBGcbdBJlBDwBGcjbMCebbM",
   "CfbdBJxBDwBDobdBJxBDwBDpbcBJtBEhbbMCibcBJxBGcbdBJxBDwBGclcMCwBJlbcBKbBJlbcBJbBJlccBKbBGcbdBK",
   "bBGcBJlfcBKbBJlNabMOwBibMQqbbMQrbbMQsbbMQtbbMQubbMQvbbMQwbbMQxbbMQybbMQzbbMRabbMRbbbMRcbbMRd",
   "bbMRebbMRffbMRzBGmbNXmbbNXnbbNXobbNXpbbNXqbbNXrbbNXsbbNXtbbNXubbNXvbbNXwbbNXxbbNXybbNXzbbNYa",
   "bbNYbbbNYcbbNYdbbNYebbNYfbbNYgbbNYhbbNYibbNYjbbNYkbbNYlCTrbQRgbbQRhbbQRibbQRjbbQRkbbQRlbbQRm",
   "bbQRnbbQRobbQRpbbQRqbbQRrbbQRsbbQRtbbQRubbQRvbbQRwbbQRxbbQRybbQRzbbQSabbQSbbbQScbbQSdbbQSebb",
   "QSfbbQSgbbQShbbQSibbQSjbbQSkbbQSlbbQSmbbQSnbbQSobbQSpbbQSqbbQSrbbQSsbbQStbbQSubbQSvbbQSwbbQS",
   "xbbQSybbQSzbbQTabbQTbcbQUyebVybbWccbQVfcbQVhcbQVjhbQVqdbQVtlbQWecbQWgcbQWicbQWkcbQWmcbQWocbQ",
   "WqcbQWscbQWucbQWwcbQWycbQXacbQXccbQXecbQXgcbQXicbQXkcbQXmcbQXocbQXqcbQXscbQXucbQXwcbQXycbQYa",
   "cbQYccbQYecbQYgcbQYicbQYkcbQYmcbQYocbQYqcbQYscbQYucbQYwcbQYycbQZacbQZccbQZecbQZgcbQZicbQZkcb",
   "QZmcbQZocbQZqcbQZscbQZucbQZwcbQZyjbRAhcbRAjfbRAonbGHsbbGHtbbGHubbGHvbbGHwbbGHxbbGHybbGHzbbGI",
   "abbGIbbbGIcbbGIdbbGIebbGIfbbGIgbbGIhbbGIibbGIjbbGIkbbGIlbbGImbbGInbbGIobbGIpbbGIqbbGIrbbGIsb",
   "bGItbbGIubbGIvbbGIwbbGIxbbGIybbGIzbbGJabbGJbbbGJcbbGJdcbGJfgbGJlBTWebCKYycbCKZacbCKZccbCKZec",
   "bCKZgcbCKZicbCKZkcbCKZmcbCKZocbCKZqcbCKZscbCKZucbCKZwcbCKZycbCLAacbCLAccbCLAecbCLAgcbCLAicbC",
   "LAkcbCLAmcbCLAocbCLAqubCLBkcbCLBmcbCLBocbCLBqcbCLBscbCLBucbCLBwcbCLBycbCLCacbCLCccbCLCecbCLC",
   "gcbCLCicbCLCkFgbCLHqcbCLHscbCLHucbCLHwcbCLHycbCLIacbCLIcebCLIgcbCLIicbCLIkcbCLImcbCLIocbCLIq",
   "cbCLIscbCLIucbCLIwcbCLIycbCLJacbCLJccbCLJecbCLJgcbCLJicbCLJkcbCLJmcbCLJocbCLJqcbCLJscbCLJucb",
   "CLJwcbCLJycbCLKacbCLKccbCLKecbCLKgcbCLKicbCLKkcbCLKmcbCLKolbCLKzcbCLLbdbCLLecbCLLgcbCLLicbCL",
   "LkcbCLLmfbCLLrfbCLLwcbCLLybbCLNwdbCLMccbCLMecbCLMgcbCLMicbCLMkcbCLMmcbCLMocbCLMqcbCLMscbCLMu",
   "mbCLNgcbCLNicbCLNkcbCLNmcbCLNocbCLNqcbCLNscbCLNufbCLNzcbCLObdbCLOecbCLOgcbCLOicbCLOkcbCLOmcb",
   "CLOocbCLOqcbCLOsBbbCLPtBHdbCLNfBdbHLgbbHLhbbHLibbHLjbbHLkbbHLlbbHLmbbHLnbbHLobbHLpbbHLqbbHLr",
   "bbHLsbbHLtbbHLubbHLvbbHLwbbHLxbbHLybbHLzbbHMabbHMbbbHMcbbHMdbbHMebbHMfbbHMgbbHMhbbHMibbHMjbb",
   "HMkbbHMlbbHMmbbHMnbbHMobbHMpbbHMqbbHMrbbHMsbbHMtbbHMubbHMvbbHMwbbHMxbbHMybbHMzbbHNabbHNbbbHN",
   "cbbHNdbbHNebbHNfbbHNgbbHNhbbHNibbHNjbbHNkbbHNlbbHNmbbHNnbbHNobbHNpbbHNqbbHNrbbHNsbbHNtbbHNub",
   "bHNvbbHNwbbHNxbbHNybbHNzbbHOabbHObbbHOcbbHOdbbHOebbHOfbbHOgbbHOhBEAjcCsCsbcCsCvbcCsCybdCsCsC",
   "vbdCsCsCybcDfDgbcDfDgncBZwBZybcBZwBZhbcBZwBZnbcCAgBZybcBZwBZpBPabDSQbbbDSQcbbDSQdbbDSQebbDSQ",
   "fbbDSQgbbDSQhbbDSQibbDSQjbbDSQkbbDSQlbbDSQmbbDSQnbbDSQobbDSQpbbDSQqbbDSQrbbDSQsbbDSQtbbDSQub",
   "bDSQvbbDSQwbbDSQxbbDSQybbDSQzbbDSRaBVibDUMabbDUMbbbDUMcbbDUMdbbDUMebbDUMfbbDUMgbbDUMhbbDUMib",
   "bDUMjbbDUMkbbDUMlbbDUMmbbDUMnbbDUMobbDUMpbbDUMqbbDUMrbbDUMsbbDUMtbbDUMubbDUMvbbDUMwbbDUMxbbD",
   "UMybbDUMzbbDUNabbDUNbbbDUNcbbDUNdbbDUNebbDUNfbbDUNgbbDUNhbbDUNibbDUNjbbDUNkbbDUNlbbDUNmbbDUN",
   "nFhbDUSubbDUSvbbDUSwbbDUSxbbDUSybbDUSzbbDUTabbDUTbbbDUTcbbDUTdbbDUTebbDUTfbbDUTgbbDUThbbDUTi",
   "bbDUTjbbDUTkbbDUTlbbDUTmbbDUTnbbDUTobbDUTpbbDUTqbbDUTrbbDUTsbbDUTtbbDUTubbDUTvbbDUTwbbDUTxbb",
   "DUTybbDUTzbbDUUabbDUUbbbDUUcbbDUUdGabDVAebbDVAfbbDVAgbbDVAhbbDVAibbDVAjbbDVAkbbDVAlbbDVAmbbD",
   "VAnbbDVAocbDVAqbbDVArbbDVAsbbDVAtbbDVAubbDVAvbbDVAwbbDVAxbbDVAybbDVAzbbDVBabbDVBbbbDVBcbbDVB",
   "dbbDVBecbDVBgbbDVBhbbDVBibbDVBjbbDVBkbbDVBlbbDVBmcbDVBobbDVBpCRcbDXRsbbDXRtbbDXRubbDXRvbbDXR",
   "wbbDXRxbbDXRybbDXRzbbDXSabbDXSbbbDXScbbDXSdbbDXSebbDXSfbbDXSgbbDXShbbDXSibbDXSjbbDXSkbbDXSlb",
   "bDXSmbbDXSnbbDXSobbDXSpbbDXSqbbDXSrbbDXSsbbDXStbbDXSubbDXSvbbDXSwbbDXSxbbDXSybbDXSzbbDXTabbD",
   "XTbbbDXTcbbDXTdbbDXTebbDXTfbbDXTgbbDXThbbDXTibbDXTjbbDXTkbbDXTlbbDXTmbbDXTnbbDXTobbDXTpbbDXT",
   "qEwbDXZsbbDXZtbbDXZubbDXZvbbDXZwbbDXZxbbDXZybbDXZzbbDYAabbDYAbbbDYAcbbDYAdbbDYAebbDYAfbbDYAg",
   "bbDYAhbbDYAibbDYAjbbDYAkbbDYAlbbDYAmbbDYAnEGpbECHcbbECHdbbECHebbECHfbbECHgbbECHhbbECHibbECHj",
   "bbECHkbbECHlbbECHmbbECHnbbECHobbECHpbbECHqbbECHrbbECHsbbECHtbbECHubbECHvbbECHwbbECHxbbECHybb",
   "ECHzbbECIabbECIbbbECIcbbECIdbbECIebbECIfbbECIgbbECIhBGJxbFISebbFISfbbFISgbbFIShbbFISibbFISjb",
   "bFISkbbFISlbbFISmbbFISnbbFISobbFISpbbFISqbbFISrbbFISsbbFIStbbFISubbFISvbbFISwbbFISxbbFISybbF",
   "ISzbbFITabbFITbbbFITcbbFITdbbFITebbFITfbbFITgbbFIThbbFITibbFITjCibFIVwbbFIVxbbFIVybbFIVzbbFI",
   "WabbFIWbbbFIWcbbFIWdbbFIWebbFIWfbbFIWgbbFIWhbbFIWibbFIWjbbFIWkbbFIWlbbFIWmbbFIWnbbFIWobbFIWp",
   "bbFIWqbbFIWrbbFIWsbbFIWtbbFIWuBUIhbHDEubbHDEvbbHDEwbbHDExbbHDEybbHDEzbbHDFabbHDFbbbHDFcbbHDF",
   "dbbHDFebbHDFfbbHDFgbbHDFhbbHDFibbHDFjbbHDFkbbHDFlbbHDFmbbHDFnbbHDFobbHDFpbbHDFqbbHDFrbbHDFsb",
   "bHDFtbbHDFubbHDFvbbHDFwbbHDFxbbHDFybbHDFzbbHDGabbHDGb"]

/-- Packed mapping to lower case. -/
def lower : List String :=
  ["CnbDtbbDubbDvbbDwbbDxbbDybbDzbbEabbEbbbEcbbEdbbEebbEfbbEgbbEhbbEibbEjbbEkbbElbbEmbbEnbbEobbE",
   "pbbEqbbErbbEsDybIqbbIrbbIsbbItbbIubbIvbbIwbbIxbbIybbIzbbJabbJbbbJcbbJdbbJebbJfbbJgbbJhbbJibb",
   "JjbbJkbbJlbbJmcbJobbJpbbJqbbJrbbJsbbJtbbJuBibJxcbJzcbKbcbKdcbKfcbKhcbKjcbKlcbKncbKpcbKrcbKtc",
   "bKvcbKxcbKzcbLbcbLdcbLfcbLhcbLjcbLlcbLncbLpcbLrccEbBDvcbLvcbLxcbLzdbMccbMecbMgcbMicbMkcbMmcb",
   "MocbMqdbMtcbMvcbMxcbMzcbNbcbNdcbNfcbNhcbNjcbNlcbNncbNpcbNrcbNtcbNvcbNxcbNzcbObcbOdcbOfcbOhcb",
   "OjcbOlcbJvbbOocbOqcbOsebWxbbOxcbOzcbWybbPccbXabbXbbbPgdbSjbbXdbbXfbbPmcbXkbbXncbXtbbXsbbPteb",
   "XzbbYccbYfbbQbcbQdcbQfcbYqbbQicbYtdbQncbYybbQqcbZabbZbbbQucbQwcbZibbQzebRdibRmbbRmcbRpbbRpcb",
   "RsbbRscbRucbRwcbRycbSacbSccbSecbSgcbSidbSlcbSncbSpcbSrcbStcbSvcbSxcbSzcbTbdbTfbbTfcbThcbPpbb",
   "RfbbTlcbTncbTpcbTrcbTtcbTvcbTxcbTzcbUbcbUdcbUfcbUhcbUjcbUlcbUncbUpcbUrcbUtcbUvcbUxcbPycbVbcb",
   "VdcbVfcbVhcbVjcbVlcbVncbVpcbVribQVdbbWacbPubbQVedbWgcbOubbYzbbZcbbWlcbWncbWpcbWrcbWtLebBHxcb",
   "BHzebBIdjbBMxhbBKecbBKfbbBKgbbBKhcbBLkcbBLlbbBLmcbBKjbbBKkbbBKlbbBKmbbBKnbbBKobbBKpbbBKqbbBK",
   "rbbBKsbbBKtbbBKubbBKvbbBKwbbBKxbbBKybbBKzcbBLbbbBLcbbBLdbbBLebbBLfbbBLgbbBLhbbBLibbBLjBkbBLv",
   "jbBLxcbBLzcbBMbcbBMdcbBMfcbBMhcbBMjcbBMlcbBMncbBMpcbBMrcbBMtgbBKqdbBNccbBMwbbBNfdbBIhbbBIibb",
   "BIjbbBQmbbBQnbbBQobbBQpbbBQqbbBQrbbBQsbbBQtbbBQubbBQvbbBQwbbBQxbbBQybbBQzbbBRabbBRbbbBPgbbBP",
   "hbbBPibbBPjbbBPkbbBPlbbBPmbbBPnbbBPobbBPpbbBPqbbBPrbbBPsbbBPtbbBPubbBPvbbBPwbbBPxbbBPybbBPzb",
   "bBQabbBQbbbBQcbbBQdbbBQebbBQfbbBQgbbBQhbbBQibbBQjbbBQkbbBQlBxbBRdcbBRfcbBRhcbBRjcbBRlcbBRncb",
   "BRpcbBRrcbBRtcbBRvcbBRxcbBRzcbBSbcbBSdcbBSfcbBShcbBSjkbBStcbBSvcbBSxcbBSzcbBTbcbBTdcbBTfcbBT",
   "hcbBTjcbBTlcbBTncbBTpcbBTrcbBTtcbBTvcbBTxcbBTzcbBUbcbBUdcbBUfcbBUhcbBUjcbBUlcbBUncbBUpcbBUrc",
   "bBUtcbBVjbbBUwcbBUycbBVacbBVccbBVecbBVgcbBVidbBVlcbBVncbBVpcbBVrcbBVtcbBVvcbBVxcbBVzcbBWbcbB",
   "WdcbBWfcbBWhcbBWjcbBWlcbBWncbBWpcbBWrcbBWtcbBWvcbBWxcbBWzcbBXbcbBXdcbBXfcbBXhcbBXjcbBXlcbBXn",
   "cbBXpcbBXrcbBXtcbBXvcbBXxcbBXzcbBYbcbBYdcbBYfcbBYhcbBYjcbBYlcbBYncbBYpcbBYrcbBYtcbBYvcbBYxcb",
   "BYzcbBZbdbCAzbbCBabbCBbbbCBcbbCBdbbCBebbCBfbbCBgbbCBhbbCBibbCBjbbCBkbbCBlbbCBmbbCBnbbCBobbCB",
   "pbbCBqbbCBrbbCBsbbCBtbbCBubbCBvbbCBwbbCBxbbCBybbCBzbbCCabbCCbbbCCcbbCCdbbCCebbCCfbbCCgbbCChb",
   "bCCibbCCjbbCCkEHebRBcbbRBdbbRBebbRBfbbRBgbbRBhbbRBibbRBjbbRBkbbRBlbbRBmbbRBnbbRBobbRBpbbRBqb",
   "bRBrbbRBsbbRBtbbRBubbRBvbbRBwbbRBxbbRBybbRBzbbRCabbRCbbbRCcbbRCdbbRCebbRCfbbRCgbbRChbbRCibbR",
   "CjbbRCkbbRClbbRCmbbRCncbRCpgbRCvBBvbCMYabbCMYbbbCMYcbbCMYdbbCMYebbCMYfbbCMYgbbCMYhbbCMYibbCM",
   "YjbbCMYkbbCMYlbbCMYmbbCMYnbbCMYobbCMYpbbCMYqbbCMYrbbCMYsbbCMYtbbCMYubbCMYvbbCMYwbbCMYxbbCMYy",
   "bbCMYzbbCMZabbCMZbbbCMZcbbCMZdbbCMZebbCMZfbbCMZgbbCMZhbbCMZibbCMZjbbCMZkbbCMZlbbCMZmbbCMZnbb",
   "CMZobbCMZpbbCMZqbbCMZrbbCMZsbbCMZtbbCMZubbCMZvbbCMZwbbCMZxbbCMZybbCMZzbbCNAabbCNAbbbCNAcbbCN",
   "AdbbCNAebbCNAfbbCNAgbbCNAhbbCNAibbCNAjbbCNAkbbCNAlbbCNAmbbCNAnbbCNAobbCNApbbCNAqbbCNArbbCNAs",
   "bbCNAtbbCNAubbCNAvbbCNAwbbCNAxbbCNAybbCNAzbbCNBabbCNBbbbHOqbbHOrbbHOsbbHOtbbHOubbHOvDGmbKVah",
   "bGJobbGJpbbGJqbbGJrbbGJsbbGJtbbGJubbGJvbbGJwbbGJxbbGJybbGJzbbGKabbGKbbbGKcbbGKdbbGKebbGKfbbG",
   "KgbbGKhbbGKibbGKjbbGKkbbGKlbbGKmbbGKnbbGKobbGKpbbGKqbbGKrbbGKsbbGKtbbGKubbGKvbbGKwbbGKxbbGKy",
   "bbGKzbbGLabbGLbbbGLcbbGLdbbGLedbGLhbbGLibbGLjMjbLJlcbLJncbLJpcbLJrcbLJtcbLJvcbLJxcbLJzcbLKbc",
   "bLKdcbLKfcbLKhcbLKjcbLKlcbLKncbLKpcbLKrcbLKtcbLKvcbLKxcbLKzcbLLbcbLLdcbLLfcbLLhcbLLjcbLLlcbL",
   "LncbLLpcbLLrcbLLtcbLLvcbLLxcbLLzcbLMbcbLMdcbLMfcbLMhcbLMjcbLMlcbLMncbLMpcbLMrcbLMtcbLMvcbLMx",
   "cbLMzcbLNbcbLNdcbLNfcbLNhcbLNjcbLNlcbLNncbLNpcbLNrcbLNtcbLNvcbLNxcbLNzcbLObcbLOdcbLOfcbLOhcb",
   "LOjcbLOlcbLOncbLOpcbLOrcbLOtcbLOvcbLOxcbLOzcbLPbcbLPdkbIpcbLPpcbLPrcbLPtcbLPvcbLPxcbLPzcbLQb",
   "cbLQdcbLQfcbLQhcbLQjcbLQlcbLQncbLQpcbLQrcbLQtcbLQvcbLQxcbLQzcbLRbcbLRdcbLRfcbLRhcbLRjcbLRlcb",
   "LRncbLRpcbLRrcbLRtcbLRvcbLRxcbLRzcbLSbcbLSdcbLSfcbLShcbLSjcbLSlcbLSncbLSpcbLSrcbLStcbLSvcbLS",
   "xcbLSzcbLTbcbLTdcbLTfkbLTgbbLThbbLTibbLTjbbLTkbbLTlbbLTmbbLTnjbLTwbbLTxbbLTybbLTzbbLUabbLUbl",
   "bLUmbbLUnbbLUobbLUpbbLUqbbLUrbbLUsbbLUtjbLVcbbLVdbbLVebbLVfbbLVgbbLVhbbLVibbLVjjbLVsbbLVtbbL",
   "VubbLVvbbLVwbbLVxmbLWjcbLWlcbLWncbLWpjbLWybbLWzbbLXabbLXbbbLXcbbLXdbbLXebbLXfzbLYebbLYfbbLYg",
   "bbLYhbbLYibbLYjbbLYkbbLYljbLYubbLYvbbLYwbbLYxbbLYybbLYzbbLZabbLZbjbLZkbbLZlbbLZmbbLZnbbLZobb",
   "LZpbbLZqbbLZrjbMAabbMAbbbLXobbLXpbbMAdmbLXqbbLXrbbLXsbbLXtbbMAtmbMBgbbMBhbbLXubbLXvnbMBwbbMB",
   "xbbLXybbLXzbbMCbmbLXwbbLXxbbLYabbLYbbbMCpLmbBLhebEdbbIvhbMPyBubMRgbbMRhbbMRibbMRjbbMRkbbMRlb",
   "bMRmbbMRnbbMRobbMRpbbMRqbbMRrbbMRsbbMRtbbMRubbMRvubMSaBFnbNYmbbNYnbbNYobbNYpbbNYqbbNYrbbNYsb",
   "bNYtbbNYubbNYvbbNYwbbNYxbbNYybbNYzbbNZabbNZbbbNZcbbNZdbbNZebbNZfbbNZgbbNZhbbNZibbNZjbbNZkbbN",
   "ZlCSvbQTcbbQTdbbQTebbQTfbbQTgbbQThbbQTibbQTjbbQTkbbQTlbbQTmbbQTnbbQTobbQTpbbQTqbbQTrbbQTsbbQ",
   "TtbbQTubbQTvbbQTwbbQTxbbQTybbQTzbbQUabbQUbbbQUcbbQUdbbQUebbQUfbbQUgbbQUhbbQUibbQUjbbQUkbbQUl",
   "bbQUmbbQUnbbQUobbQUpbbQUqbbQUrbbQUsbbQUtbbQUubbQUvbbQUwbbQUxBxbQUzcbXvbbLEjbbYndbQVgcbQVicbQ",
   "VkcbWvbbYbbbWubbWwcbQVrdbQVujbWdbbWebbQWfcbQWhcbQWjcbQWlcbQWncbQWpcbQWrcbQWtcbQWvcbQWxcbQWzc",
   "bQXbcbQXdcbQXfcbQXhcbQXjcbQXlcbQXncbQXpcbQXrcbQXtcbQXvcbQXxcbQXzcbQYbcbQYdcbQYfcbQYhcbQYjcbQ",
   "YlcbQYncbQYpcbQYrcbQYtcbQYvcbQYxcbQYzcbQZbcbQZdcbQZfcbQZhcbQZjcbQZlcbQZncbQZpcbQZrcbQZtcbQZv",
   "cbQZxcbQZzjbRAicbRAkfbRApBTYkbCKYzcbCKZbcbCKZdcbCKZfcbCKZhcbCKZjcbCKZlcbCKZncbCKZpcbCKZrcbCK",
   "ZtcbCKZvcbCKZxcbCKZzcbCLAbcbCLAdcbCLAfcbCLAhcbCLAjcbCLAlcbCLAncbCLApcbCLArubCLBlcbCLBncbCLBp",
   "cbCLBrcbCLBtcbCLBvcbCLBxcbCLBzcbCLCbcbCLCdcbCLCfcbCLChcbCLCjcbCLClFgbCLHrcbCLHtcbCLHvcbCLHxc",
   "bCLHzcbCLIbcbCLIdebCLIhcbCLIjcbCLIlcbCLIncbCLIpcbCLIrcbCLItcbCLIvcbCLIxcbCLIzcbCLJbcbCLJdcbC",
   "LJfcbCLJhcbCLJjcbCLJlcbCLJncbCLJpcbCLJrcbCLJtcbCLJvcbCLJxcbCLJzcbCLKbcbCLKdcbCLKfcbCLKhcbCLK",
   "jcbCLKlcbCLKncbCLKplbCLLacbCLLccbLEfbbCLLfcbCLLhcbCLLjcbCLLlcbCLLnfbCLLscbXpdbCLLxcbCLLzebCL",
   "MdcbCLMfcbCLMhcbCLMjcbCLMlcbCLMncbCLMpcbCLMrcbCLMtcbCLMvcbXqbbXgbbXlbbXwbbXucbZubbYxbbZtbbCM",
   "WxbbCLNhcbCLNjcbCLNlcbCLNncbCLNpcbCLNrcbCLNtcbCLNvcbCLMabbYsbbLFabbCLOacbCLOccbXobbCLOfcbCLO",
   "hcbCLOjcbCLOlcbCLOncbCLOpcbCLOrcbCLOtcbPvzbCLPuBHAibDSRhbbDSRibbDSRjbbDSRkbbDSRlbbDSRmbbDSRn",
   "bbDSRobbDSRpbbDSRqbbDSRrbbDSRsbbDSRtbbDSRubbDSRvbbDSRwbbDSRxbbDSRybbDSRzbbDSSabbDSSbbbDSScbb",
   "DSSdbbDSSebbDSSfbbDSSgBVabDUNobbDUNpbbDUNqbbDUNrbbDUNsbbDUNtbbDUNubbDUNvbbDUNwbbDUNxbbDUNybb",
   "DUNzbbDUOabbDUObbbDUOcbbDUOdbbDUOebbDUOfbbDUOgbbDUOhbbDUOibbDUOjbbDUOkbbDUOlbbDUOmbbDUOnbbDU",
   "OobbDUOpbbDUOqbbDUOrbbDUOsbbDUOtbbDUOubbDUOvbbDUOwbbDUOxbbDUOybbDUOzbbDUPabbDUPbFhbDUUibbDUU",
   "jbbDUUkbbDUUlbbDUUmbbDUUnbbDUUobbDUUpbbDUUqbbDUUrbbDUUsbbDUUtbbDUUubbDUUvbbDUUwbbDUUxbbDUUyb",
   "bDUUzbbDUVabbDUVbbbDUVcbbDUVdbbDUVebbDUVfbbDUVgbbDUVhbbDUVibbDUVjbbDUVkbbDUVlbbDUVmbbDUVnbbD",
   "UVobbDUVpbbDUVqbbDUVrGbbDVBrbbDVBsbbDVBtbbDVBubbDVBvbbDVBwbbDVBxbbDVBybbDVBzbbDVCabbDVCbcbDV",
   "CdbbDVCebbDVCfbbDVCgbbDVChbbDVCibbDVCjbbDVCkbbDVClbbDVCmbbDVCnbbDVCobbDVCpbbDVCqbbDVCrcbDVCt",
   "bbDVCubbDVCvbbDVCwbbDVCxbbDVCybbDVCzcbDVDbbbDVDcCQdbDXUebbDXUfbbDXUgbbDXUhbbDXUibbDXUjbbDXUk",
   "bbDXUlbbDXUmbbDXUnbbDXUobbDXUpbbDXUqbbDXUrbbDXUsbbDXUtbbDXUubbDXUvbbDXUwbbDXUxbbDXUybbDXUzbb",
   "DXVabbDXVbbbDXVcbbDXVdbbDXVebbDXVfbbDXVgbbDXVhbbDXVibbDXVjbbDXVkbbDXVlbbDXVmbbDXVnbbDXVobbDX",
   "VpbbDXVqbbDXVrbbDXVsbbDXVtbbDXVubbDXVvbbDXVwbbDXVxbbDXVybbDXVzbbDXWabbDXWbbbDXWcGcbDYAybbDYA",
   "zbbDYBabbDYBbbbDYBcbbDYBdbbDYBebbDYBfbbDYBgbbDYBhbbDYBibbDYBjbbDYBkbbDYBlbbDYBmbbDYBnbbDYBob",
   "bDYBpbbDYBqbbDYBrbbDYBsbbDYBtEGpbECIibbECIjbbECIkbbECIlbbECImbbECInbbECIobbECIpbbECIqbbECIrb",
   "bECIsbbECItbbECIubbECIvbbECIwbbECIxbbECIybbECIzbbECJabbECJbbbECJcbbECJdbbECJebbECJfbbECJgbbE",
   "CJhbbECJibbECJjbbECJkbbECJlbbECJmbbECJnBGJxbFITkbbFITlbbFITmbbFITnbbFITobbFITpbbFITqbbFITrbb",
   "FITsbbFITtbbFITubbFITvbbFITwbbFITxbbFITybbFITzbbFIUabbFIUbbbFIUcbbFIUdbbFIUebbFIUfbbFIUgbbFI",
   "UhbbFIUibbFIUjbbFIUkbbFIUlbbFIUmbbFIUnbbFIUobbFIUpCnbFIWxbbFIWybbFIWzbbFIXabbFIXbbbFIXcbbFIX",
   "dbbFIXebbFIXfbbFIXgbbFIXhbbFIXibbFIXjbbFIXkbbFIXlbbFIXmbbFIXnbbFIXobbFIXpbbFIXqbbFIXrbbFIXsb",
   "bFIXtbbFIXubbFIXvBUIabHDGcbbHDGdbbHDGebbHDGfbbHDGgbbHDGhbbHDGibbHDGjbbHDGkbbHDGlbbHDGmbbHDGn",
   "bbHDGobbHDGpbbHDGqbbHDGrbbHDGsbbHDGtbbHDGubbHDGvbbHDGwbbHDGxbbHDGybbHDGzbbHDHabbHDHbbbHDHcbb",
   "HDHdbbHDHebbHDHfbbHDHgbbHDHhbbHDHibbHDHj"]

/-- Packed orbits of simple case folding. -/
def orbits : List String :=
  ["cCnBgcbBgcbBgcbBgcbBgcbBgcbBgcbBgcbBgcbBgdbBgMKlcbBgcbBgcbBgcbBgcbBgcbBgcbBgdbBgKicbBgcbBgcb",
   "BgcbBgcbBgcbBgcbBgdDnBCpBgclBgcbBgcbBgcbBgcbBgdbBgMFucbBgcbBgcbBgcbBgcbBgcbBgcbBgcbBgcbBgcbB",
   "gcbBgcbBgcbBgcbBgcbBgcbBgcbBgccBgcbBgcbBgcbBgcbBgcbBgcbBgcbLGxcBgErcbbccbccbccbccbccbccbccbc",
   "cbccbccbccbccbccbccbccbccbccbccbccbccbccbccbccbcebccbccbcdbccbccbccbccbccbccbccbcdbccbccbccb",
   "ccbccbccbccbccbccbccbccbccbccbccbccbccbccbccbccbccbccbccbcdbccbccbcdHncbIccbbccbccHycbbccHxc",
   "bHxcbbcdDbcbHucbHvcbbccHxcbHzcbDtcbIdcbIbcbbccGhcbCKYzcbIdcbIfcbFacbIgcbbccbccbccIkcbbccIkcd",
   "bccIkcbbccIjcbIjcbbccbccIlcbbcebcdCedfbbddbbddbbcdbccbccbccbccbccbccbccbcdbccbccbccbccbccbcc",
   "bccbccbddbbcdbcebccbccbccbccbccbccbccbccbccbccbccbccbccbccbccbccbccbccbccbcebccbccbccbccbccb",
   "ccbccbccbciPZfcbbcdPZccbPZzcbPZzcbbcdCrcbCtcbbccbccbccbccbccPYtcbPYqcbPYsckCKPrcfCKPncdCKQpc",
   "bCKOecbCKPgceCKPgcbPXfcbCKPdcfPXlcmPWpcfCKPfcfCKOgcwCKNlcbCKNieGlDgBgKPxcBrbccbcebcfFacbFacb",
   "FaccEmchBmccBlcbBlcbBlccCmccClcbClcbKShcbBgdbBgBecbBgcbBgdbBgCmcbBgcbBgebBgzBjdcBgCccbBgccBg",
   "cbBgcbBgdbBgwdbBgBwdcBfbcbBgcbBgdbBgpcbBgcbBgdbBgLDdcbBgcbBgcfKRrcBficjbccbccbccbccbccbccbcc",
   "bccbccbccbccbcehcfbcdbcgDccbDccbDccbDccbDccbDccbDccbDccbDccbDccbDccbDccbDccbDccbDccbDccbBgcb",
   "BgdbBgJFicbBgdbBgJFhcbBgcbBgcbBgcbBgcbBgcbBgcbBgcbBgcbBgdbBgJEycbBgcbBgdbBgJEwebBgJEwbcbBgcb",
   "BgcbBgcbBgcbBgcbBgcbBgdbBgJEqcbBgcbBgcbBgcbBgcbBgcBxbdcbJDsccbccbccbccbccbccbccbccbccbccbccb",
   "ccbccbccbccbckbccbccbccbccbccbccbccbccbccbccbccbccbccbccbccbccbccbccbccbccbccbccbccbccbccbcc",
   "bccpcbbccbccbccbccbccbccbcdbccbccbccbccbccbccbccbccbccbccbccbccbccbccbccbccbccbccbccbccbccbc",
   "cbccbccbccbccbccbccbccbccbccbccbccbccbccbccbccbccbccbccbccbccbccbccbccbccbccbcdBwcbBwcbBwcbB",
   "wcbBwcbBwcbBwcbBwcbBwcbBwcbBwcbBwcbBwcbBwcbBwcbBwcbBwcbBwcbBwcbBwcbBwcbBwcbBwcbBwcbBwcbBwcbB",
   "wcbBwcbBwcbBwcbBwcbBwcbBwcbBwcbBwcbBwcbBwcbBwcEHeKTkcbKTkcbKTkcbKTkcbKTkcbKTkcbKTkcbKTkcbKTk",
   "cbKTkcbKTkcbKTkcbKTkcbKTkcbKTkcbKTkcbKTkcbKTkcbKTkcbKTkcbKTkcbKTkcbKTkcbKTkcbKTkcbKTkcbKTkcb",
   "KTkcbKTkcbKTkcbKTkcbKTkcbKTkcbKTkcbKTkcbKTkcbKTkcbKTkccKTkcgKTkcdELscbELscbELscbELscbELscbEL",
   "scbELscbELscbELscbELscbELscbELscbELscbELscbELscbELscbELscbELscbELscbELscbELscbELscbELscbELsc",
   "bELscbELscbELscbELscbELscbELscbELscbELscbELscbELscbELscbELscbELscbELscbELscbELscbELscbELscbE",
   "LscdELscbELscbELscZxCFMucbCFMucbCFMucbCFMucbCFMucbCFMucbCFMucbCFMucbCFMucbCFMucbCFMucbCFMucb",
   "CFMucbCFMucbCFMucbCFMucbCFMucbCFMucbCFMucbCFMucbCFMucbCFMucbCFMucbCFMucbCFMucbCFMucbCFMucbCF",
   "MucbCFMucbCFMucbCFMucbCFMucbCFMucbCFMucbCFMucbCFMucbCFMucbCFMucbCFMucbCFMucbCFMucbCFMucbCFMu",
   "cbCFMucbCFMucbCFMucbCFMucbCFMucbCFMucbCFMucbCFMucbCFMucbCFMucbCFMucbCFMucbCFMucbCFMucbCFMucb",
   "CFMucbCFMucbCFMucbCFMucbCFMucbCFMucbCFMucbCFMucbCFMucbCFMucbCFMucbCFMucbCFMucbCFMucbCFMucbCF",
   "MucbCFMucbCFMucbCFMucbCFMucbCFMucbCFMucbicbicbicbicbicbidDGlCAEkbcbbcJgCAGyceFQscrCAIycEkbcc",
   "bccbccbccbccbccbccbccbccbccbccbccbccbccbccbccbccbccbccbccbccbccbccbccbccbccbccbccbccbccbccbc",
   "cbccbccbccbccbccbccbccbccbccbccbccbccbccbccbccbdcbCgccbccbccbccbccbccbccbccbccbccbccbccbccbc",
   "cbccbccbccbccbccbccbccbccbccbccbccbccbcmbccbccbccbccbccbccbccbccbccbccbccbccbccbccbccbccbccb",
   "ccbccbccbccbccbccbccbccbccbccbccbccbccbccbccbccbccbccbccbccbccbccbccbccbccbccbccbccbccbccbcc",
   "icbicbicbicbicbicbicbicjicbicbicbicbicbiclicbicbicbicbicbicbicbicjicbicbicbicbicbicbicbicjic",
   "bicbicbicbicbicmiccicciccicjicbicbicbicbicbicbicbicjCwcbCwcbDicbDicbDicbDicbDwcbDwcbEycbEycb",
   "EicbEicbEwcbEwcdicbicbicbicbicbicbicbicjicbicbicbicbicbicbicbicjicbicbicbicbicbicbicbicjicbi",
   "ccjcqjcnicbicpicbicehcojcMhBccBuqcbqcbqcbqcbqcbqcbqcbqcbqcbqcbqcbqcbqcbqcbqcbqcubcBFnBacbBac",
   "bBacbBacbBacbBacbBacbBacbBacbBacbBacbBacbBacbBacbBacbBacbBacbBacbBacbBacbBacbBacbBacbBacbBac",
   "bBacCSvBwcbBwcbBwcbBwcbBwcbBwcbBwcbBwcbBwcbBwcbBwcbBwcbBwcbBwcbBwcbBwcbBwcbBwcbBwcbBwcbBwcbB",
   "wcbBwcbBwcbBwcbBwcbBwcbBwcbBwcbBwcbBwcbBwcbBwcbBwcbBwcbBwcbBwcbBwcbBwcbBwcbBwcbBwcbBwcbBwcbB",
   "wcbBwcbBwcbBwcBxbchbccbccbchbcdbclbccbccbccbccbccbccbccbccbccbccbccbccbccbccbccbccbccbccbccb",
   "ccbccbccbccbccbccbccbccbccbccbccbccbccbccbccbccbccbccbccbccbccbccbccbccbccbccbccbccbccbccbcj",
   "bccbcfbcBTYkbccbccbccbccbcebccbccbccbccbccbccbccbccbccbccbccbccbccbccbccbccbcubccbccbccbccbc",
   "cbccbccbccbccbccbccbccbccbcFgbccbccbccbccbccbccbcebccbccbccbccbccbccbccbccbccbccbccbccbccbcc",
   "bccbccbccbccbccbccbccbccbccbccbccbccbccbccbccbccbclbccbcdbccbccbccbccbcfbcfbccbccBwccbccbccb",
   "ccbccbccbccbccbccbccbclBJscbbccbccbccbccbccbccbccbcfbccbcdbcebcgbccbccbcBbbcBFLwbcBOmBgcbBgc",
   "bBgcbBgcbBgcbBgcbBgcbBgcbBgcbBgcbBgcbBgcbBgcbBgcbBgcbBgcbBgcbBgcbBgcbBgcbBgcbBgcbBgcbBgcbBgc",
   "bBgcBVaBocbBocbBocbBocbBocbBocbBocbBocbBocbBocbBocbBocbBocbBocbBocbBocbBocbBocbBocbBocbBocbB",
   "ocbBocbBocbBocbBocbBocbBocbBocbBocbBocbBocbBocbBocbBocbBocbBocbBocbBocbBocFhBocbBocbBocbBocb",
   "BocbBocbBocbBocbBocbBocbBocbBocbBocbBocbBocbBocbBocbBocbBocbBocbBocbBocbBocbBocbBocbBocbBocb",
   "BocbBocbBocbBocbBocbBocbBocbBocbBocGbBncbBncbBncbBncbBncbBncbBncbBncbBncbBncbBnccBncbBncbBnc",
   "bBncbBncbBncbBncbBncbBncbBncbBncbBncbBncbBncbBnccBncbBncbBncbBncbBncbBncbBnccBncbBncCQdCmcbC",
   "mcbCmcbCmcbCmcbCmcbCmcbCmcbCmcbCmcbCmcbCmcbCmcbCmcbCmcbCmcbCmcbCmcbCmcbCmcbCmcbCmcbCmcbCmcbC",
   "mcbCmcbCmcbCmcbCmcbCmcbCmcbCmcbCmcbCmcbCmcbCmcbCmcbCmcbCmcbCmcbCmcbCmcbCmcbCmcbCmcbCmcbCmcbC",
   "mcbCmcbCmcbCmcGcBgcbBgcbBgcbBgcbBgcbBgcbBgcbBgcbBgcbBgcbBgcbBgcbBgcbBgcbBgcbBgcbBgcbBgcbBgcb",
   "BgcbBgcbBgcEGpBgcbBgcbBgcbBgcbBgcbBgcbBgcbBgcbBgcbBgcbBgcbBgcbBgcbBgcbBgcbBgcbBgcbBgcbBgcbBg",
   "cbBgcbBgcbBgcbBgcbBgcbBgcbBgcbBgcbBgcbBgcbBgcbBgcBGJxBgcbBgcbBgcbBgcbBgcbBgcbBgcbBgcbBgcbBgc",
   "bBgcbBgcbBgcbBgcbBgcbBgcbBgcbBgcbBgcbBgcbBgcbBgcbBgcbBgcbBgcbBgcbBgcbBgcbBgcbBgcbBgcbBgcBULl",
   "BicbBicbBicbBicbBicbBicbBicbBicbBicbBicbBicbBicbBicbBicbBicbBicbBicbBicbBicbBicbBicbBicbBicb",
   "BicbBicbBicbBicbBicbBicbBicbBicbBicbBicbBi"]

end Paperwork.Unicode.Table
