/-!
# Ages

Each row holds what one version of the standard added. Ranges are packed as gaps and lengths.
-/

namespace Paperwork.Unicode.Table

/-- The version that assigned a code point, and the packed ranges it assigned. -/
def ages (_ : Unit) : List (List String × List String) := [
  (["v11", "1.1"],
    ["aTheBdCeDkhBubjwCrBabsbeadafgbabtbBrbgdababababrnlbCnblbBojCacbcbdBbchcbCdBlcgbBmbaBmjbimB",
     "afexaoadabzfsnncCtcebobBdcjTzcbCacrcedyqcbhcbcvbgbaddcabgcbccjaebbecuhacfebcvbgbbbbbbcabee",
     "bccldbahomcbgbabcbvbgbbbecjbcbccapafjrcbhcbcvbgbbcdchdbccibebbcekrbbfdcbddbbabbdbdcdhbceed",
     "cbdjaplocbhbcbwbjbeegbcbdhbjbejsbbhbcbwbjbeegbcbdhbhabbejsbbhbcbwbpefccbdjaibejFpCfeBcBlbb",
     "acbbacagdbgbcbabacbbmbccebabfcjcbRiBlkBmeaeDlfCpfDdEOkFyfDlgvcfcBlcfchbabababBecCabobncfbs",
     "ccbibBubwBjgdBarkBlrBeCeBaBvnDmvJhoabEqFdBkBbkvFivFtkDbqtgDhFpdbdcBbbBibabddabgcgoBedxbnDD",
     "hCdhabDfefcDpgBneDpbpDsBcdBjBcBbdBxpleBubEoeDucBeJWbBEXxYJqJXtIcgmegybebabbbbbEdBhOaqClcCb",
     "BolBkdmuejbsbdecbabFecabDpcDpdfcfcfccdgbgoc"]),
  (["v20", "2.0"],
    ["CCvqbmuaDMxCtbBghBaefbabudgbaFQnaUhaCATwQNrEIFybDSYobDSYobDSYobDSYobDSYobDSYobDSYobDSYobDS",
     "YobDSYobDSYobDSYobDSYoHLXh"]),
  (["v21", "2.1"],
    ["MJsaDGOta"]),
  (["v30", "3.0"],
    ["TidBehcrEneBxakeDjitaEmadabababaBeamaCoamaBqbcdDobGaaHscDubfapaBqebnbBddBaCbBwCFhbbrdxbiba",
     "cgdaefbabhscOjaBraxchabcbocaBwBhbebbbgddgzQggbCkbabdcgbabdcBmbabdcBebabdcgbabdcgbgbwbBebab",
     "dcgbBmbsgBbBjDgmYfjBcdDcFnDodjwobjgDjiBpCWbayfDrcBybDhbCuaDziKjaErabBdFibRphBhaDibPiJvCCez",
     "bDkmIfBalCicdaNpxWmJTdBFEgBSudrcpblbcbaBGScaBVvc"]),
  (["v31", "3.1"],
    ["BMybDQQcBfBXwBebdmBaGzBlcBlCZDqJlkBmdGxVaDgbCsbbcacbcdblbabdbbbCmbdchbgbBbbdbebadgbMzeLdeB",
     "xPDwCLEsBETdUvBPCQtaBeDr"]),
  (["v32", "3.2"],
    ["UyaLqatmEabBcaFrbCfbcbcbBxpNmbMjaDNhbCHjmbglwjtmmbcbbDIxageeahenaCkbBygDeoGmlJinEuaBeBzKyt",
     "FvjDkhwbDmlcjIonDmBbepJwTrBZncDjbibDqaJgpDdoDdoBRDibqamadaBGJaCgBJdadpCbbBsaJbb"]),
  (["v40", "4.0"],
    ["UzascEpbClqDchfcFveTwdjiCmcFtbpaBtcBdcQuaHcaCpabaFgaDgcnaCpaChaEzhHlbEFnasjKcBcdleleadBpce",
     "EdBfBDoEdBCpbIwaZjbLqaKqbEmhobBRanCRnbBxaBrbDadGldDvbBfaJToClCOQvaCvbQxlbzbsbbbocnBiEsfceB",
     "sdiWeBdbaFebBmDbcjBGwfcabBrbbdacaCYUiDiNyaBTKDaJf"]),
  (["v41", "4.1"],
    ["VvkKseGddJmbGoaBicCpasaCgfJhBdUhaDcaStaBvaBMnbLjbbaKgaClaClaBnaBfaBfaBfapaBnaxbBfzCGcBpgzg",
     "jebBgBbcbBGmDjZhbbgBxeBddCbaDcapaYukWaaDxbskfpKkgBGhfJcBubBuBhEcoBskCbjaqwjgbgbgbgbgbgbgbg",
     "BhxebBJupGsaBPItvCTowIzBrBFEaEbBFqjBFaCwUnBjenCIsdbbfhbcbBaeceiiiCXPvCrBRab"]),
  (["v50", "5.0"],
    ["WgnLncMzaBqfqdGkaTxCgOubbbBHibnbFIjCxeBsWlgBzbBCudDpbCbaXblBBmaKqdBGjgfdMemhdBULjdfbLaCdBK",
     "OmzfaIRgBHuFpDundCOGirBQub"]),
  (["v51", "5.1"],
    ["BHwdcbDjaHbaFkpIseleBgeLqrTdbIoaBjaHyaBdbEeaEeaBabibuhHhagaBdbmfdgSxbDtadcCzafacahcefBaCle",
     "bDBeaBBxBqdlCsCddodByMtBbGzdDmfNsaFjaDqaCbdBYaavjddKeaBfdBFfeeBodeKucbcefNqBfydcsBDkaGgtBP",
     "PohBZoLnuBfcriBbFbecEcEgeEyCqjlBmDflaGeCcjncjcdBFSucBHplCaBtFaBcdBwCKdzfaCXSjaLRqBreDv"]),
  (["v52", "5.2"],
    ["BYqbBCcBtcoHlaCzagaBjbEyaCFpdHldHgeCqeDefTsaYgiVoCrGybBuaCrCkbBcckgjgnVaBiKgaBAucFvcCcaXia",
     "BArbBdcejbsbaexDjaBNheKsanbEdgMhaBOclBPLshBXkBvQaDjMajGkBbDwBcdCzbkebEyBbeCoyeIqBtcjQOkweB",
     "wNBbcFGcvbiHebMmBfEyCbdBccBafhEyCuUpBeTtCnLVqBPeCTNdkfBecalabacadadeiahazabbcakdcaEhapBhoi",
     "CQLjGDo"]),
  (["v60", "6.0"],
    ["BYsbJoaCkaSmBbcaIlbtagbBbeTmfQraqataWbdCvbBIobDEnBzidToaZohBcaBFjkBCcatabdBdaebBcaBjabaecj",
     "bCacyaoaobCDkaoaBPocBSEnbLnbbbojDcaBDufcfcfjgbgBEMtpHRiCzeBdBHEeVwBALbbYMgocncoboDcabkbabb",
     "bcbcfhbgbjgibacbbjebbjCxzbbBvivbGsBgpfbCrdtmBkbevqpCkbabGzbddCjsxFrebpbcbabababcbfcdbacdbl",
     "ekBwCrCgElCUQmIn"]),
  (["v61", "6.1"],
    ["CCtaEmaZrabkCdBaTdaBMrbStafaBvcEBbcmfJwhBrdECqabaBYqbBzafaCebHujBRAeaCNnhBjaJibwaCzbBCowBD",
     "ZzbFUuCdgbCRoyhjgCabnCiCuhjBTuCdijBHKoCqlBuqqBVWidbBabbbacabjbdbabagaeabababcbbbacabababab",
     "abbbacdbgbdbdbabjbqfcbebqCabYibBLsdHgaqadabababadagbeabbea"]),
  (["v62", "6.2"],
    ["MKga"]),
  (["v63", "6.3"],
    ["CIeaJYvd"]),
  (["v70", "7.0"],
    ["BIlaQihDpbEoaZralfCyaEqahaYpaBzaCyaExaIujDKrhVcbPloVxbJdoBBhcBFqgBDtaBQickzcBfcBhdlbhXugBT",
     "OvfJmllccbCraSuBeEvdGuBvebBFIvgBHdbtaMhBbBjaBwBqOzBniBzlaFoLyjvkhJoCkiiRwBfBgBmelFhrhdmgBV",
     "jaIaBmDiamagtlrbBqEkCgfjhcbhcbcvbgbbbecicbccjafgcgdeKhCtijGkCbcrCcCqljWkDemaRgCeDFiBpHulfa",
     "BALfBebjebDsBdcfkCrkjbgbufsBEMaEcfmdihjchQKyHocpCZwaBgvvbUmljaCsawlBlafdflrgCtabaHaaebClbe",
     "gBdrbBobDhCsbnBvCsjqmddFkDgBrleCdijgBniBd"]),
  (["v80", "8.0"],
    ["DHrbBuaUnaNoaKaaCMvacfEVoaHvbDYedBRWviCOuaJgaBifMmbXmdmDbBFFqbEBgsbbfeHgbcpcBtYqBynByhfBVd",
     "doeGegbabdbobkDiaDbaYjtLezdoepERpaIwHnLQqWkCAWlkCHzZbpeboJHdcDabDbeBkhJvaCxeJjbFjaWdiDzeCh",
     "aCUClINp"]),
  (["v90", "9.0"],
    ["DHuhwoBJpaHyaecbgxcFRziOgaCHbdDXcbBTZlaKsaBHQdbBEvBjeBjFAoaRhDlbabaTumCCxibBsbnkBcdBfcvbnB",
     "FMvaBfJBotBDaBGFlgbqcgbbbeDIzCwfjebDDbrFmaBFyaBpaLobBhcVafbhiaclbleoBmm"]),
  (["v100", "10.0"],
    ["DEmkPlbJsfTsaCgbFYwaJudBBhaBFzaCZaaYceBCmaBPXnuBLPicIQqCtiBzcwbeXhgbbbBrdabbbiijBFGpaYHkKy",
     "DdPfYAefBRpbBibTzltaihbbzasmBmfCewDCPdLBk"]),
  (["v110", "11.0"],
    ["CAyaBnaDyaUfcIdaLmaEpaPhaExaENraBOhBqccFRmcwyeoWpeBCiaBPYheCYhaibMmbBKVcbsaBAtBnijRmBniBpO",
     "haEocTgaLeaBAxaIvChXlaBBefbbbBkbbbfhjLyyBEApDmJPieBCJutEwgJLwCpBScaCEzaIldOicBcecddabdyknj",
     "hbBkyDsn"]),
  (["v120", "12.0"],
    ["EStaUgacacabfeahahbcanaFKhaFPuaCbaWtaBTZmfceBJrbBMBgwBRkaXcaBCphcBtckGdbBZmBxnaHQuiWJkfeaB",
     "viDmbJCwfPRccrdSAqBsdncjebOeCffaCJzaBKnCiBPeaCBgaBkaIvlLdcBvaBxajaBpfdbkfdhccBwDfBcdecfcnf"]),
  (["v121", "12.1"],
    ["TIda"]),
  (["v130", "13.0"],
    ["DIcjZdaQoaEuaFAjbGJuaBAucBHoeKPijBFDgmCYsdBqbCbaBFvdBGQqaEWxBpbccbJuBbOpaFebZaafbBTmgcachb",
     "bbBdbbcljjCKkaBEJralbKFxSoBqiBLWucDpcCjaBYubBjbQtbDmaDxaebBqbgcBdaGmaodpshgjcngBpFqbCcBljC",
     "MSjgBHTqHHy"]),
  (["v140", "14.0"],
    ["CIfaWwBebbghvaskBHpaBgaExaDWhahajaJfaBAnnEvaBwbYlaBBhaEIoaBvaTfkBRAtcCYibobbabeycBFTdaOrpE",
     "xaBubCVgkbobgbbbkbobgbbRjfbBpbiCXxzIwfCyaCGsaFegBHppHWyDuWDxDabjBAEwdbgbbLcdLIbBtcwjElVdbE",
     "YvBeBHxBeBZdgbdbbboFQkcKmaPcaDeaGsbBsdkdicrcghigCNCpbGEvd"]),
  (["v150", "15.0"],
    ["EXnaSgaDTAkcBFzcDIcjBNaqbBodBbHXdajBcBVHkaBiaMRatERhfKbCjBhaBPwBpGUcaFvceeDlaZrcpbBkclcbao",
     "bkbmaobCTHoaBIWsGFf"]),
  (["v151", "15.1"],
    ["SEmdTbaKEIqXx"]),
  (["v160", "16.0"],
    ["DGpaHCgbBvaKfbCWycFFebBSQvcmcBJOlBzCTwBldBcibLucCdaBSljbacabBlbjbacabdbjbbibBCvtBVwBhojBHg",
     "aHYzFXqKZtCfEOkCfLYjaXWiJpgQtIToBqeaHCcjebRnafaBuahavacajaIrBk"])
]

end Paperwork.Unicode.Table
