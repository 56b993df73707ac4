/-!
# Places where texts break

How a character takes part in the boundaries of graphemes, words and sentences. Ranges are packed
as gaps and lengths.
-/

namespace Paperwork.Unicode.Table

/-- Names and packed ranges of each kind of character at grapheme boundaries. -/
def graphemeBreaks (_ : Unit) : List (List String × List String) := [
  (["cr"],
    ["na"]),
  (["control", "cn"],
    ["ajbbbrDrBgnaCBmaGUraDAqacbygBxpDGHjaJglTUapBZQudHWxhBTKZlBfDsExJgFIl"]),
  (["extend", "ex"],
    ["BDoEhKpgKdBsbabbbbbaCukBwuqaDxgcfcbbdBjaBeBaDnkCgijaydbibcbeBrcChiBqxbBfCdabaeheadgkbBdaCg",
     "abacdiajakbBaacbCfaebebccdaBebdalbCfaeebbeaubwfbaCgabbbdiahckbBeaChabamajaBoadaCdabcfcbdhb",
     "lbBdaCgacbbadcbdhblbBcbCfbbacdiajakbBdaCuaeaccbaiaDdacgmhDuacilgCvbBbababaCdnbebbfkbBjjaDy",
     "dbfbbcbzbecqdnacbgapaBBbcBKkdBccBdbBebCmbbgiackjaBtcbaEnbBiaEocebjagcIlbcaCgabgbabachgjcaB",
     "wBeBxdBwjecBmimbBgdcfCeabbdabeCehcbFwcbmbgeagadbHqClUeaHnBgEOccFlaDsBfVifEbbBSQedbjBgbDcbK",
     "madaeazbfaFvbBarnaBmhzkbaBscBwacdcbcaBkaCpfcbcbmaiaBvaBzabccbfbbaBqbiaJeacaeaBDZsaBCjpqpOc",
     "bXhaIsaFteCMgcbbfdBoceaGjbWbdCneMfbDbdCskBxdEtaCcoBpacbkcBxdcbhaCjcBkebhCkambCaibaidcaDrcc",
     "dgacaGbadhvbCfbbabamajaogdeCpacfbacabcecbaobDhhccbaxaDdacfbacabbbbJbacdgbbbBbbDhhcabbEcaba",
     "chDxabacdbeJzibbJlakdeaFodcbeaBgjBofcdiajfccBumbbPqgbfbaDevcgbbbbEsfdabbbgbaCubdabaNjblbCa",
     "efcxaHXtagoQYyldcDSaeChgBOiaCldDdalbBDAxbGYzBtcwUwedfihcgBedFscCYdCceBxiaoaweboCAigbqcgbbb",
     "eDwaGegOlaCjdTodJubBCigEfgEBgeBSXYuDrEyJf"]),
  (["l"],
    ["GLkDrCFOqBc"]),
  (["lf"],
    ["ka"]),
  (["lv"],
    ["CNDoaBbaBbaBbaBbaBbaBbaBbaBbaBbaBbaBbaBbaBbaBbaBbaBbaBbaBbaBbaBbaBbaBbaBbaBbaBbaBbaBbaBbaB",
     "baBbaBbaBbaBbaBbaBbaBbaBbaBbaBbaBbaBbaBbaBbaBbaBbaBbaBbaBbaBbaBbaBbaBbaBbaBbaBbaBbaBbaBbaB",
     "baBbaBbaBbaBbaBbaBbaBbaBbaBbaBbaBbaBbaBbaBbaBbaBbaBbaBbaBbaBbaBbaBbaBbaBbaBbaBbaBbaBbaBbaB",
     "baBbaBbaBbaBbaBbaBbaBbaBbaBbaBbaBbaBbaBbaBbaBbaBbaBbaBbaBbaBbaBbaBbaBbaBbaBbaBbaBbaBbaBbaB",
     "baBbaBbaBbaBbaBbaBbaBbaBbaBbaBbaBbaBbaBbaBbaBbaBbaBbaBbaBbaBbaBbaBbaBbaBbaBbaBbaBbaBbaBbaB",
     "baBbaBbaBbaBbaBbaBbaBbaBbaBbaBbaBbaBbaBbaBbaBbaBbaBbaBbaBbaBbaBbaBbaBbaBbaBbaBbaBbaBbaBbaB",
     "baBbaBbaBbaBbaBbaBbaBbaBbaBbaBbaBbaBbaBbaBbaBbaBbaBbaBbaBbaBbaBbaBbaBbaBbaBbaBbaBbaBbaBbaB",
     "baBbaBbaBbaBbaBbaBbaBbaBbaBbaBbaBbaBbaBbaBbaBbaBbaBbaBbaBbaBbaBbaBbaBbaBbaBbaBbaBbaBbaBbaB",
     "baBbaBbaBbaBbaBbaBbaBbaBbaBbaBbaBbaBbaBbaBbaBbaBbaBbaBbaBbaBbaBbaBbaBbaBbaBbaBbaBbaBbaBbaB",
     "baBbaBbaBbaBbaBbaBbaBbaBbaBbaBbaBbaBbaBbaBbaBbaBbaBbaBbaBbaBbaBbaBbaBbaBbaBbaBbaBbaBbaBbaB",
     "baBbaBbaBbaBbaBbaBbaBbaBbaBbaBbaBbaBbaBbaBbaBbaBbaBbaBbaBbaBbaBbaBbaBbaBbaBbaBbaBbaBbaBbaB",
     "baBbaBbaBbaBbaBbaBbaBbaBbaBbaBbaBbaBbaBbaBbaBbaBbaBbaBbaBbaBbaBbaBbaBbaBbaBbaBbaBbaBbaBbaB",
     "baBbaBbaBbaBbaBbaBbaBbaBbaBbaBbaBbaBbaBbaBbaBbaBbaBbaBbaBbaBbaBbaBbaBbaBbaBbaBbaBbaBbaBbaB",
     "baBbaBbaBbaBbaBbaBbaBbaBbaBba"]),
  (["lvt"],
    ["CNDpBabBabBabBabBabBabBabBabBabBabBabBabBabBabBabBabBabBabBabBabBabBabBabBabBabBabBabBabBa",
     "bBabBabBabBabBabBabBabBabBabBabBabBabBabBabBabBabBabBabBabBabBabBabBabBabBabBabBabBabBabBa",
     "bBabBabBabBabBabBabBabBabBabBabBabBabBabBabBabBabBabBabBabBabBabBabBabBabBabBabBabBabBabBa",
     "bBabBabBabBabBabBabBabBabBabBabBabBabBabBabBabBabBabBabBabBabBabBabBabBabBabBabBabBabBabBa",
     "bBabBabBabBabBabBabBabBabBabBabBabBabBabBabBabBabBabBabBabBabBabBabBabBabBabBabBabBabBabBa",
     "bBabBabBabBabBabBabBabBabBabBabBabBabBabBabBabBabBabBabBabBabBabBabBabBabBabBabBabBabBabBa",
     "bBabBabBabBabBabBabBabBabBabBabBabBabBabBabBabBabBabBabBabBabBabBabBabBabBabBabBabBabBabBa",
     "bBabBabBabBabBabBabBabBabBabBabBabBabBabBabBabBabBabBabBabBabBabBabBabBabBabBabBabBabBabBa",
     "bBabBabBabBabBabBabBabBabBabBabBabBabBabBabBabBabBabBabBabBabBabBabBabBabBabBabBabBabBabBa",
     "bBabBabBabBabBabBabBabBabBabBabBabBabBabBabBabBabBabBabBabBabBabBabBabBabBabBabBabBabBabBa",
     "bBabBabBabBabBabBabBabBabBabBabBabBabBabBabBabBabBabBabBabBabBabBabBabBabBabBabBabBabBabBa",
     "bBabBabBabBabBabBabBabBabBabBabBabBabBabBabBabBabBabBabBabBabBabBabBabBabBabBabBabBabBabBa",
     "bBabBabBabBabBabBabBabBabBabBabBabBabBabBabBabBabBabBabBabBabBabBabBabBabBabBabBabBabBabBa",
     "bBabBabBabBabBabBabBabBabBabBa"]),
  (["prepend", "pp"],
    ["CHcfIhaBxaOubDcaBRnaDUGkapaJkbUfaCBlabaJoaCvfBAyaRba"]),
  (["regionalindicator", "ri"],
    ["HGOkz"]),
  (["spacingmark", "sm"],
    ["DKtaCdaccidbbBybChbgbcbCcaCgcCoaCgciabbCbbCiagbcbEkabbdcbcCacCjdCjbCgacabbBuaobChbfcbcCbbC",
     "ybggtbClaExaFibClaGvajbzbBsaCSvahhbbNidccebbfIqbCgabavfFpaCfdCmaBeaebClaccbaCbhibGpavaCASh",
     "bcaDkbBypFmaBwaBwbebcbEhbcbyaGbacbfaJdbbbbbbaBLXjabaExaBtcebElaybChaBwcjaoaDpcdbGqcBfbChab",
     "dcbcbvbDhbpabbDzcibdaEdbgabbbacaJebgdcaEjcibbaEfabbEgahaKbcjaJoebbhabaFmcideaDgaBdbCkaPrao",
     "aEcahacaIfeebbaNmbmaBwbibYZacFJgCc"]),
  (["t"],
    ["GRwDjCWXnBw"]),
  (["v"],
    ["GPcCtCWZwwCERcadd"]),
  (["zwj"],
    ["MDpa"])
]

/-- Names and packed ranges of each kind of character at word boundaries. -/
def wordBreaks (_ : Unit) : List (List String × List String) := [
  (["aletter", "le"],
    ["CnzgzBvakaeafwbBebSlgBhEiebbcdbagabcbabtbDebFiiGjbBlcdbabBobaEaaBsBqBjbbDubapbhbkccapbbBdB",
     "dDklayBgjbeafveajadaxyhkfxbfrBpCgCbdasahjppehcbcvbgbadddaqanbbcobkaifebcvbgbbbbbbBfdbatcqi",
     "bcbvbgbbbedasapbxalhcbcvbgbbbedaBebbcparabfdcbddbbabbdbdcdlwaCahbcbwbpdaBaccacbBeaehbcbwbj",
     "bedaBfbbbpbribcbBocaqafcicyffrdxbibacgMbaClhbBjBbeKpBlbafacBqbMubdcgbabdcBobdcBgbdcgbabdco",
     "bCebdcCoBlpqDhcfdXvcqbzfCwdkhrnsorombcGtDkhecBhbafCrkBeIrwJeBurhCcBdnbkBrBaBjBpckBjckfBqcc",
     "BpdbfbbdafHjCmKrcfcBlcfchbabababBecCabgbadcbgddcfemfcbgEmanaqmDxaeacjbadegabababdbkcdfeear",
     "BoBFhBzCRuIugddbmBlbafacCdhaqwjgbgbgbgbgbgbgbgDcaSbaCbbHsBqbDprBfBPToBSuCpBtcKidpkbuBuqBec",
     "DbyHpcbbabhvpbcbdbwBdBzoBxCkfdabblBbkwzBchBuBcaBwBoxcbhFskhcmfcfcfjgbgbCfgEkBdQNrmweBwNGug",
     "meCeDtBhNysClcCbBolEmebFeBkzgzCrBedfcfcfccBjlbzbsbbbocnBiEsCrCaKhBcdBwBvBfnBdfBlkBdcBjehbe",
     "BqGbsBjeBjeBniBzmkbobgbbbkbobgbbdBzmLyjvkhyfbBpbiCrfcabBrbbdacwkwjBeCnsbbkvkzCsCdgbCmapdbc",
     "bBcBqBcdBcBjhbBbBbCbkvksnrEgCuCdBynBynBjBmBbjwJqBpgbqcChBckaivBqrBuuBbwmCaCfbcanBsBgyBaBjB",
     "dacaiBidamBvodvabaBjrbytbClgbabdbobjhBuBmhcbcvbgbbbedasameBejbacabBlbazabaBsCasducBeBvubba",
     "HcBuBpdBkBvuaChBqnaMpBrEmClBfhcachbbbxpabaDqhcBmqabaBcakBnhavalBttasCuHrBgBfibBkraBxBdEigb",
     "bbBlvazfbbbBfoaMpspabmbBhEuaDbBJlDyEgrHnDXkDspBPfrfzFXqfWkKDdBdCPuVwhBerDarBdsBvqdBfufsQqB",
     "sIdClEyCwfaComCmbbaBCVkEcfmdihjIWkDgbCsbbcacbcdblbabgbCmbdchbgbBbbdbebadgbNbcybybBebybBeby",
     "bBebybBebybhCSyBegfKbCjFqBskgqaMjBdsBrSqBbIuBdcaTbgbdbbbobHoChCphaBUidbBabbbacabjbdbabagae",
     "abababcbbbacabababababbbacdbgbdbdbabjbqfcbebqYezgzgz"]),
  (["cr"],
    ["na"]),
  (["doublequote", "dq"],
    ["Bia"]),
  (["extend"],
    ["BDoEhKpgKdBsbabbbbbaCukBwuqaDxgcfcbbdBjaBeBaDnkCgijaydbibcbeBrcChiBqxbBgCccbrbgkbBdcCeabgc",
     "bccjakbBaaccCeabeebccdaBebdalcCeabhbcbcubwfbcCeabgcbcchckbBeaChedcbdjaBoeCdabgbcbdhblbBdcC",
     "eabgbcbdhblbpamdCdbbgbcbdjakbBdcCsaefbabhsbCjacgmhDuacilgCvbBbababaebBxtbbfkbBjjaDwtxdecbc",
     "cgddnlbakdBBbcBKkdBccBdbBebCmBfjaBtcbaEnbBiaEolelIleCfjbBccaBwBeBxeBvqBmimcBemCenBwtFwcbue",
     "agaccHqClUeaHnBgEOccFlaDsBfVifEbbBSQedbjBgbDcbKmadaeaxeeaDfbByrBarnaBmhzmBsdBvnBkaCpnmaibB",
     "tcByabccbfbbaBpefbJchbbBDZsaBCjpqpOcbXhaIsaFteCMgcbbfdBoceaGjbWbdCneMfbDbdCskBxdEscCboBpac",
     "bkdBtkhaCjcBknqbBsamcBwnidbbDolgacaGblvdCdbbgcbccjakbcgdeCpibacabdbebaobDerxaDdtJbgciBbbDe",
     "qEcmDxoJwoJlfbbcdbabbFlgcgdaBcjBogbdiajkBupPphbhDevbnEsfdabbbgbaCoebbbeNjdjbbaBwgdexaHXtag",
     "oQYyrDSaeChgBOiabCchdDdalbBDAxbGYzBtcwUwedfihcgBedFscCYdCceBxiaoaweboCAigbqcgbbbeDwaGegOla",
     "CjdTodJubBCigEfgEBgeBSXYuDrEyJf"]),
  (["extendnumlet", "ex"],
    ["DraMBfapbtaDGAobycJfa"]),
  (["format", "fo"],
    ["GraCBmaGUraDAtbBaeBxebjDGHjaJpcTUapBZQudHWxhBTKZma"]),
  (["hebrewletter", "hl"],
    ["CFgBaedDOVyabjbmbebabbbbbj"]),
  (["katakana", "ka"],
    ["SGneDxbdDmbdJgpIaBubDjCZHeCdCOUcdbgbbbaLbcByaod"]),
  (["lf"],
    ["ka"]),
  (["midletter", "ml"],
    ["CgaEuaBBraSdaFsaJXyaDGBbaCnaHoa"]),
  (["midnum", "mn"],
    ["BsaoaBGcaUcaFabDqaPfaJFfaDGChadaHbaoa"]),
  (["midnumlet", "mb"],
    ["BuaMCfbkaDGDpaGyaga"]),
  (["newline", "nl"],
    ["lbEqaLZmb"]),
  (["numeric", "nu"],
    ["BwjCEwfDmjbaEjasjHqjHqbDcaFbjEojEojEojEojEojEojEojEojEojDsjEojCsjKsjCsjCTqjBmjLojEykGjjgjH",
     "ajDijFejgjCAEojBAcjBmjHqjwjDijPqjBFMcjCCkjDFyjgjBEqjCzapaBijCijFojKsjNejEojOkjDyjgtCyjQgjD",
     "yjZmjDijJmjCsjQgjYYgjDMcjDijFejUojBKDyjECqBxDNcjQgjTijJnjBGvjHBaj"]),
  (["regionalindicator", "ri"],
    ["HGOkz"]),
  (["singlequote", "sq"],
    ["Bna"]),
  (["wsegspace"],
    ["BgaIMhaDPngbcDgaFXwa"]),
  (["zwj"],
    ["MDpa"])
]

/-- Names and packed ranges of each kind of character at sentence boundaries. -/
def sentenceBreaks (_ : Unit) : List (List String × List String) := [
  (["aterm", "at"],
    ["BuaMCraDGDpaHfa"]),
  (["cr"],
    ["na"]),
  (["close", "cl"],
    ["BiaecBxabaBdabaBtapaFMsdCUnbDPjhzbkbCcbobYjdBdbBPgfhnDbbBfjPnvCldBgbBNmnobcjyashQljchbcCZR",
     "qbIhbBcpcbqfGnbBxabaBdababbbbDPOsc"]),
  (["extend", "ex"],
    ["BDoEhKpgKdBsbabbbbbaCukBwuqaDxgcfcbbdBjaBeBaDnkCgijaydbibcbeBrcChiBqxbBgCccbrbgkbBdcCeabgc",
     "bccjakbBaaccCeabeebccdaBebdalcCeabhbcbcubwfbcCeabgcbcchckbBeaChedcbdjaBoeCdabgbcbdhblbBdcC",
     "eabgbcbdhblbpamdCdbbgbcbdjakbBdcCsaefbabhsbCjacgmhDuacilgCvbBbababaebBxtbbfkbBjjaDwtxdecbc",
     "cgddnlbakdBBbcBKkdBccBdbBebCmBfjaBtcbaEnbBiaEolelIleCfjbBccaBwBeBxeBvqBmimcBemCenBwtFwcbue",
     "agaccHqClUebHmBgEOccFlaDsBfVifEbbBSQedbjBgbDcbKmadaeaxeeaDfbByrBarnaBmhzmBsdBvnBkaCpnmaibB",
     "tcByabccbfbbaBpefbJchbbBDZsaBCjpqpOcbXhaIsaFteCMgcbbfdBoceaGjbWbdCneMfbDbdCskBxdEscCboBpac",
     "bkdBtkhaCjcBknqbBsamcBwnidbbDolgacaGblvdCdbbgcbccjakbcgdeCpibacabdbebaobDerxaDdtJbgciBbbDe",
     "qEcmDxoJwoJlfbbcdbabbFlgcgdaBcjBogbdiajkBupPphbhDevbnEsfdabbbgbaCoebbbeNjdjbbaBwgdexaHXtag",
     "oQYyrDSaeChgBOiabCchdDdalbBDAxbGYzBtcwUwedfihcgBedFscCYdCceBxiaoaweboCAigbqcgbbbeDwaGegOla",
     "CjdTodJubBCigEfgBTCAfDrEyJf"]),
  (["format", "fo"],
    ["GraCBmaJiaGLiaDAqacbBaeBxebjDGHjaJpcTUapBZQudHWxhBTKZma"]),
  (["lf"],
    ["ka"]),
  (["lower", "lo"],
    ["DtzBvakaeaBkxbhbabababababababababababababababababababababababababababbbabababababababbbab",
     "abababababababababababababababababababababacababccabacadbeacadccacababacabbbacadabacbccgac",
     "acababababababababbbababababababababbcabadabababababababababababababababababababababababab",
     "abababababgcacbbaeababababCqbBjhbBeeFkabadacdsaBbBibbdcbabababababababababababebacacbBzBvb",
     "ababababababababababababababababajababababababababababababababababababababababababababacab",
     "abababababbbababababababababababababababababababababababababababababababababababababababab",
     "ababababababababaBwBoEItaBDjfDFuibaEnHjCnababababababababababababababababababababababababa",
     "bababababababababababababababababababababababababababababababababababababababababababababa",
     "bababababibabababababababababababababababababababababababababababababababababababababababa",
     "bababababababababiifkhihifkhihinchihihiebbgadcbbidcbihkcbbEranaqmEfadbdaBbaeaeacbideaBhpea",
     "BGlzCTqBvbadbbababaeabbbhdabababababababababababababababababababababababababababababababab",
     "abababababababababababababababababbhabaeamBlbafaBTWdababababababababababababababababababab",
     "abababatabababababababababababababcFdababababababcbabababababababababababababababababababa",
     "bababababababababababjbabacababababaeabacabcbabababababababababafafabababababababaeabacada",
     "bababababawcbabcBFpBqbngDbBEAigmeBOzzBVhBnFgBjFzkbobgbbRjaccbBpbiBXlByEvvEGoBfBGJwBfBMMkzB",
     "agbrBazBadbabgbkBazBazBazBazBazBazBazBazBaBbBcybfBaybfBaybfBaybfBaybfbaCSyjbtgfKbCjDHsBh"]),
  (["numeric", "nu"],
    ["BwjCEwfDmjbbEiasjHqjHqbDcaFbjEojEojEojEojEojEojEojEojEojDsjEojCsjKsjCsjCTqjBmjLojEykGjjgjH",
     "ajDijFejgjCAEojBAcjBmjHqjwjDijPqjBFMcjCCkjDFyjgjBEqjCzapaBijCijFojKsjNejEojOkjDyjgtCyjQgjD",
     "yjZmjDijJmjCsjQgjYYgjDMcjDijFejUojBKDyjECqBxDNcjQgjTijJnjBGvjHBaj"]),
  (["oletter", "le"],
    ["RbaedIaaBkgglBaabaFdaSqaEoBaeeBsBqBjbbDubapbhbkccaqabBdBdDklayBgjbeafveajadaxyhkfxbfrBpCgC",
     "bdasahjppehcbcvbgbadddaqanbbcobkaifebcvbgbbbbbbBfdbatcqibcbvbgbbbedasapbxalhcbcvbgbbbedaBe",
     "bbcparabfdcbddbbabbdbdcdlwaCahbcbwbpdaBaccacbBeaehbcbwbjbedaBfbbbpbribcbBocaqafcicyffrdxbi",
     "bacgCgBvbbmgCgbbabebxbabjbbjacebavdBgaClhbBjBbeElBquaqfeddadbhcemmaCnBqcMtbdcgbabdcBobdcBg",
     "bdcgbabdcobCebdcCoBlpEjXvcqbzfCwdkhrnsorombcpBzBjaeaCpDkhecBhbafCrkBeBxBdcelBrezCcwjCaDeaD",
     "pBurhCcBdnbkBrBaBjBpckBjsBqccBpdbfbbdaBPqdCtccdEKtCdhaqwjgbgbgbgbgbgbgbgDcaSbcziheceeDhgcb",
     "DlbdfBqbDprBfBwpTsJTnCmBGUeCpBtcKidpkbCoaqaBgDbBniEaagaDzadgbcbdbwBdBzoBxCkfdabblBbkwzBchB",
     "uBcaqebjkebBoxcbhuwdadBxbadbcecabaycckhcmfcfcfjgbgFpBiBdQNrmweBwMNcObcEbCpabjbmbebabbbbbEd",
     "BhNysClcCbBolEmebFeEbCdcBedfcfcfccBjlbzbsbbbocnBiEsCrCaKhBcdBwBvBfnBdfBlkBdcBjehbeEsCzDuBn",
     "iBzDoBzmLyjvkhzbEvfcabBrbbdacwkwjBeCnsbbkvkzCsCdgbCmapdbcbBcBqBcdBcBjhbBbBbCbkvksnrEgCuHbB",
     "jBmfBfaKmBpgbqcChBckaivBqrBuuBbwmCaCfbcanBsBgyBaBjBdacaiBidamBvodvabaBjrbytbClgbabdbobjhBu",
     "BmhcbcvbgbbbedasameBejbacabBlbazabaBsCasducBeBvubbaHcBuBpdBkBvuaChBqnaCtBaBlgHdBrIdhcachbb",
     "bxpabaDqhcBmqabaBcakBnhavalBttasCuHrBgBfibBkraBxBdEigbbbBlvazfbbbBfoaMpspabmbBhEuaDbBJlDyE",
     "grHnDXkDspBPfrfzFXqfWkKDdBdCPuVwhBerDarBdsBvqdBfufsQqBsPnCwfaComCmbbaBcJBziBVpBpjNFrdbgbbb",
     "LepaBdccaodiPfDKuEcfmdihjNBcaThBskgqaMjBdsBrSqBbIuBdcaTbgbdbbbobHoFeaBUidbBabbbacabjbdbaba",
     "gaeabababcbbbacabababababbbacdbgbdbdbabjbqfcbebqGOaCLFbBgGDtgIncINpoLBkpXxDQwUvCFyHHyfGFf"]),
  (["scontinue", "sc"],
    ["BsbmbBGcaSkaGsbSwaGBxafaDBebGAuaDAAwbbbBcbBdbcbcakaGmbmbCua"]),
  (["sterm", "st"],
    ["BhaBdaCAbaFrcGyaBrcJmaCjabadbLhbCPwbBEkaebBDtaHqbGbbBtafaMcbNqdGgbkbcbBdcHfbCnbBKubjcEUxcL",
     "uanawbQnaBSHwaKkbItadaOsbDibDraFwbFrcFobJpaBFCwacbClbGnaBdaCnaEDwbBXdeBsdHhbEndExcEzbgaqbD",
     "kbbbEeaLmbEnbOjbfoEbbJpcTxabaJrbDjbQebBAqbCwbBCMbbFdaCnblaVhbLkaBDOgaLIma"]),
  (["sep", "se"],
    ["FdaLZmb"]),
  (["sp"],
    ["jabbtaExaIHjaDPnkBkaBvaFXwa"]),
  (["upper", "up"],
    ["CnzDxwbgBhabababababababababababababababababababababababababababacabababababababacabababab",
     "abababababababababababababababababababbbabadbbabbbccdbbbcdbbbbababbbacabbbcbabbdahbbbbbbab",
     "ababababababacababababababababacbbabcbabababababababababababababababababababababababababab",
     "ababahbbbcabdbabababaLdabadaiagabcbabbbqbiBjaccdabababababababababababafacabbcByBwabababab",
     "ababababababababababababajabababababababababababababababababababababababababababbbabababab",
     "abacababababababababababababababababababababababababababababababababababababababababababab",
     "ababababacBlEHdBlbafaBBuDhDGlaOkababababababababababababababababababababababababababababab",
     "ababababababababababababababababababababababababababababababababababababababababababababab",
     "ajabababababababababababababababababababababababababababababababababababababababababababab",
     "ababababajhifkhihiflabababaihyhihihieleldmeleKbaeadccccadegabababdcdkbfaBaptaBFmzCSuBvBwab",
     "ccabababdbacaicbababababababababababababababababababababababababababababababababababababab",
     "abababababababababababaiabaeaBTYjababababababababababababababababababababababatabababababa",
     "babababababababaFfababababababadababababababababababababababababababababababababababababab",
     "abakababbbabababaeabacabadababababababababababebebabababababababdbabbdafabababayaBHAhzBUzB",
     "nFgBjGakbobgbbCQcByGbvEGoBfBGJwBfBMMqzBazBazBaabbcacbcdbhBazBabbdchbgBbbbdbebadgBbzBazBazB",
     "azBazBazBeyBhyBhyBhyBhyBhaGNlBhDBizgzgz"])
]

end Paperwork.Unicode.Table
