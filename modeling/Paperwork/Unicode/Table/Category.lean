/-!
# General categories

Every character is in exactly one of these classes. Ranges are packed as gaps and lengths.
-/

namespace Paperwork.Unicode.Table

/-- Names and packed ranges of each general category. -/
def categories (_ : Unit) : List (List String × List String) := [
  (["closepunctuation", "pe"],
    ["BpaBzaBfaFPdabaCUoaDRdaCdapaYkabaBeaBPuababababababaDcaBgababababaPoababababababababababaC",
     "mabaBhaBOvabababaBsabababaQmababababadabababacbCZRqaIjaBdabababababababadarababaGoaBzaBfac",
     "aca"]),
  (["connectorpunctuation", "pc"],
    ["DraMBvbtaDGAobycJfa"]),
  (["control", "cc", "cntrl"],
    ["aBfDrBg"]),
  (["currencysymbol", "sc"],
    ["BkaEvdBWjaEtaTebTebhaJlaKdaWjaDQpaDIiBgBZHvaBGMlaEeaFyaIlbdbMCsdCVXeaDRka"]),
  (["dashpunctuation", "pd"],
    ["BtaCAuaBzaFKjaBNpaDBdfFHxacaBfbeaBcaReataEhaCZWabBlakaGnaFLoaMga"]),
  (["decimalnumber", "digit", "nd"],
    ["BwjCIojFejHqjPwjEojEojEojEojEojEojEojEojEojDsjEojCsjKsjCsjCTqjBmjLojEyjGkjgjHajDijFejgjCAE",
     "ojBAcjBmjHqjwjDijPqjBFMcjCCkjDFyjgjBEqjEyjCijFojKsjNejEojOkjDyjgtCyjQgjDyjZmjDijJmjCsjQgjY",
     "YgjDMcjDijFejUojBKDyjECqBxDNcjQgjTijJnjBGvjHBaj"]),
  (["enclosingmark", "me"],
    ["BSqbIKqaCIgdbcBYOxc"]),
  (["finalpunctuation", "pf"],
    ["HfaLWvadaBcaFFsabaeacapada"]),
  (["format", "cf"],
    ["GraCAkfwaHkaBxaOubDcaFTjaDAqeBaeBxebjDGHjaJpcGIzapaNKkpBZQudHWxhBTKZmaBeDr"]),
  (["initialpunctuation", "pi"],
    ["GpaLXkacbcazaFFsabaeacapada"]),
  (["letternumber", "nl"],
    ["IRucDYtBicdFMsaziocBSYljBIFgCaRsaiaFeeMEsEg"]),
  (["lineseparator", "zl"],
    ["MEqa"]),
  (["lowercaseletter", "ll"],
    ["DtzCgaBpxbhbabababababababababababababababababababababababababababbbabababababababbbababab",
     "abababababababababababababababababababacababccabacadbeacadccacababacabbbacadabacbccgacacab",
     "abababababababbbababababababababbcabadabababababababababababababababababababababababababab",
     "abababgcacbbaeababababCqbBaHlabadadcsaBbBibbdcbabababababababababababebacacbBzBvbababababa",
     "babababababababababababajababababababababababababababababababababababababababacabababababa",
     "bbbabababababababababababababababababababababababababababababababababababababababababababa",
     "babababaBwBoEHbBqccBDgfDFuibaEnBrClmbBhDyababababababababababababababababababababababababa",
     "bababababababababababababababababababababababababababababababababababababababababababababa",
     "bababababibabababababababababababababababababababababababababababababababababababababababa",
     "bababababababababiifkhihifkhihinchihihiebbgadcbbidcbihkcbbKoadbdaBbaeaeacbideaCbaEBbBvbadb",
     "bababaeabbbffababababababababababababababababababababababababababababababababababababababa",
     "bababababababababababbhabaeamBlbafaBTWdababababababababababababababababababababababatababa",
     "bababababababababababaFfababababababcbabababababababababababababababababababababababababab",
     "abababababhbabacababababaeabacabcbabababababababababafafabababababababaeabacadabababababaB",
     "aadaBFpBqfihDbBEAigmeBOzzBVhBnFgBjFzkbobgbbCRbByEvvEGoBfBGJwBfBMMkzBagbrBazBadbabgbkBazBaz",
     "BazBazBazBazBazBazBaBbBcybfBaybfBaybfBaybfBaybfbaCSyjbtgfDUdBh"]),
  (["mathsymbol", "sm"],
    ["BraqcCjabaBtaeaBlaBfaBDmaUhcJYhanaBncncFjaBnegaCqefbeacacahaBfbcabaBfKhBgbDmaBeyBofSbajaCc",
     "hEhaMyecBekpJwFawCkeBfcJxBwucfDASqaBFsabcGiaqcCjabaFbagdFEfbCYEzazaBfazaBfazaBfazaBfazaIUe",
     "b"]),
  (["modifierletter", "lm"],
    ["BAmreloehabaFdafaSkaIwaGibKjbeaBfajadaGeaGlaBVoaExaVtaCPmaEdaXnaRwfGsCknaBiBkBAnanaqmEMxbJ",
     "haHjaSbaBrefaDtbDpcBQBuaBWcfKkaEkaBcbEriDcaxaEbcdbSbawaFhaEeavbDzdjaBFViaBtbCZofbBpbiCCxaB",
     "gaBJNsdTocBobVemCmbbaYGqdbgbbSGnCjHtgBKfaBRba"]),
  (["modifiersymbol", "sk"],
    ["DqabaCtagaeadaUbdmnfgbabqEnaobBXiaIUmabclcncncnbGHobBSVrwjbDzbBLoaobBEKkqBIhabaGgaDOLje"]),
  (["nonspacingmark", "mn"],
    ["BDoEhKpeKfBsbabbbbbaCukBwuqaDxgcfcbbdBjaBeBaDnkCgijaydbibcbeBrcChiBqxbBfCdabaeheadgkbBdaCg",
     "aediaubBaacbCfaebebccdaBebdalbCfaeebbeaubwfbaCgacabdiahblbBeaCjamaByadaCdabcfcbdhblbBdaCga",
     "cagafbubBcbCfbediaubBdaCuahcbaDmacgmhDuacilgCvbBbababaCdnbebbfkbBjjaDydbfbbcbzbecqdnacbgap",
     "aBBbcBKkcBdbBebBebCmbbgiackjaBtcbaEnbBiaEocebjagcIlbcaCgabgbabachgjcaBwnbpBxdBwabebafaBoim",
     "bBgdcbbcCeabbdabcCghcbFwcbmbgeagadbHqClBBsmeadlEOccFlaDsBfVidEdbBSQeaejBgbDcbKmadaeazbfaFv",
     "bBarnaBmhzkBucBwacdcbBnaCpfcbcbmaiaBvaBzabccbfbbaBqbiaJeacaeaBDZsaBCjpqpBLlaIsaFteCMgcbbfd",
     "BoceaGjbWbdCneMfbDbdCskBxdEtaCcoBpacbkcBxdcbhaCjcBkebhCkambCaikdcaDrccabbgacaGbadhvbCfbdaB",
     "lgdeCsfnababaobDhhccbaxaDgfbaebbbJedgbbbBbbDhhcabbEcabacfbaDxabacdbeJzibbJwbbaeaFodcbeaBgj",
     "BofcdiajfccBumbbPqgbfbaDevcgbbbbEsfdabbbgbaCubdabaNjblbCaefabaxaHXtagoQYyldcDSaeChgBOiaCld",
     "DdaBDBkbGYzBtcwUycrhcgBedFscCYdCceBxiaoaweboCAigbqcgbbbeDwaGegOlaCjdTodJubBCigEfgBTCIvJf"]),
  (["openpunctuation", "ps"],
    ["BoaByaBfaFPeabaCUoaDPmadaBmaCdapaYkabaBeaBPuababababababaDcaBgababababaPoababababababababa",
     "babaCmabaBhaBOvabababazasabababaQmababababadabababacaCZRtaIhaBdabababababababadarababaGoaB",
     "yaBfadaca"]),
  (["otherletter", "lo"],
    ["GoapaJwaedIaaBFvBaedBtBfbjBjbbDubaybkccaqabBdBdDklayBgvvBqyhkfxbfrBoChCbdasahjqoehcbcvbgba",
     "dddaqanbbcobkaifebcvbgbbbbbbBfdbatcqibcbvbgbbbedasapbxalhcbcvbgbbbedaBebbcparabfdcbddbbabb",
     "dbdcdlwaCahbcbwbpdaBaccacbBeaehbcbwbjbedaBfbbbpbribcbBocaqafcicyffrdxbibacgCgBvbbmfChbbabe",
     "bxbabjbbjacexdBgaClhbBjBbeElBquaqfeddadbhcemmaEjMqbdcgbabdcBobdcBgbdcgbabdcobCebdcCoBlpEjX",
     "vcqbzfCwghhrnsorombcpBzBoaCpBibCahecBhbafCrkBeBxBdcelBrezCcwjCaGuBurhCcBdnbkBrBaBjBpckBdEj",
     "dbfbbdaBPqdENvCdywjgbgbgbgbgbgbgbgVfaCbaeDhiabDleafBqbDprBfBwpTsJTnCmBFCebBRyCpBniKhepkbCo",
     "aBxCrGnaDzadgbcbdbwBdBzoBxCkfdabblBbkwzBchBuBtecikebBoxcbhupbfdadBxbadbcecabaybdkhaofcfcfj",
     "gbgFpBiBdQNrmweBwMNcObcEbCpabjbmbebabbbbbEdBhNysClcCbBolEmebFeEbjbBscBedfcfcfccBjlbzbsbbbo",
     "cnBiEsOzBcdBwBvBfntbhgBlkBdcBjehEyCzDuBniBzDoBzmLyjvkhFwfcabBrbbdacwkwjBeCnsbbkvkzCsCdgbCm",
     "apdbcbBcBqBcdBcBjhbBbBbCbkvksnrEgCuHbBjBmdbaLsBpgbqcChBckaivBqrBuuBbwmCaCfbcanBsBgyBaBjBda",
     "caiBidamBvodvabaBjrbytbClgbabdbobjhBuBmhcbcvbgbbbedasameBejbacabBlbazabaBsCasducBeBvubbaHc",
     "BuBpdBkBvuaChBqnaCtBaBlgHdBrIdhcachbbbxpabaDqhcBmqabaBcakBnhavalBttasCuHrBgBfibBkraBxBdEig",
     "bbbBlvazfbbbBfoaMpspabmbBhEuaDbBJlIwHnDXkDspBPfrfzFXqfWkKDdBdCPuVwhBerDarBdsBvBzufsQtBnPpC",
     "wfaGtJBziBVpBpjNGhLepaBdccaodiPfDKuEcfmdihjNBcaThBsBhaMjBdsBrSqBaIvBdcaTbgbdbbbobHoBZndbBa",
     "bbbacabjbdbabagaeabababcbbbacabababababbbacdbgbdbdbabjbqfcbebqGOaCLFbBgGDtgIncINpoLBkpXxDQ",
     "wUvCFyHHyfGFf"]),
  (["othernumber", "no"],
    ["GwbfaccDMrfOmfEqcFdgIjgriQrjBPltBRvjSmaCMvadfgjHqpBpaBByChDavYgBdCBhaBTcdFijBehboBgjBnoBSM",
     "ifBHQnBsCndrbNdBaBkdBZghzgBniCxewfGebcpcBtCmiCabBecCxeEahyhBpgMsfNoBeGcjBqdEigFetOptBZxbQo",
     "iBHnsBGtuBCPqgBEswBLYftmtEeyIBuiBJtCgbcbdCyBsboBLam"]),
  (["otherpunctuation", "po"],
    ["BhcbccababbkbdbBbaCqafaobhaBBaaiaRyfBpaCcacacaBsbubbbnabcCwdDyaBrnIzcCcoBfaKbbkaFkaEqaEraP",
     "aamaOdaDmakbGmobaEiaCweebEhfGpaXoiBDtaEucCtbGbcbcBlfbdMbbIibEygbfGebkgBccEudCheCkbCmhlaBGc",
     "bihiicdccdkbabjEUcdbbEiaFnbeccacibbbacbkebjcdbabmccQmcCfaHhaBRYgbKjcDvakaElfOqdDibBocbaBxb",
     "BvaDtmqbEudEwbqbJpaBFCugcawaubcddcbdhcgabbFtcbccababbkbdbBbaBkacbPucZsaBwaPyaBCpaHraBfaKmi",
     "BmaEigCogDldBKqeBsdHhgEfbbdEwdBwbDbdeanabcDkfEdaLmbbbEkekbbaEaaJqwEbcBcmCyaFacJsaKecFzaDoh",
     "DfcbeDpjIhaDreBqbYvbCwmGtaBRseEJcbWDvbFdaCneiaVgcLjdMpaBDBoaLIleEItaBHeb"]),
  (["othersymbol", "so"],
    ["GkacaeabaBLpaKgbExbHyakatbJnaTvaOjaFafbaFcaHzaBpaPbcpabccfuababaFdhbfbbfdHpbBCyjBBvaBBuaGb",
     "BhNpjjiCChbbdbbkabbgfbababaealboabbbaCgbjecdbbbbbgbBecbbabBeKihetcgcDcbBdzBngCtwkDdCzwHabi",
     "bCbiEgbJnBsBrCmJvTsBvvbgBmcBfbEaIvfNtbBuzbDkmIfBapeanbmavbgbMybejBgBljaqBelBdiapBfkBmpMhJT",
     "oClBGUiCcBHhdkbbaWbcBFJapExaBtcSqadaebnbMbiCfqccbmdaBvBsCLubWtaESsaDGnheqBCNidfaBEUwaFVnJf",
     "qQtGaElCiJlkBmcChfcwbhBdeCivCndaHeDiBTxTrCddByhbnbbCOuaEHwaEzaBBtBreDvmocobobBkxGeCeBcnBre",
     "ihbofFyJqfBBzeqdmdEoeDqgleapleCdijgBniBdclebCkNbmncmdjfCdhockgihFqbDn"]),
  (["paragraphseparator", "zp"],
    ["MEra"]),
  (["privateuse", "co"],
    ["DGVoJMdCAHXoDSYncDSYn"]),
  (["spaceseparator", "zs"],
    ["BgaExaIHjaDPnkBkaBvaFXwa"]),
  (["spacingmark", "mc"],
    ["DKtaCdaccidbbBybCgcgbcbkaBraCgcCoaCgciabbCbbCgabagbcbkaDybbbdcbckaBpcCjdCjbCgabecbbbjbBcao",
     "bCgcfcbckaBqbCxcghsbMsbClaGpbeagacbzbkccgvbcfcakcCLsaBeaEzahhbbNidccebbfIqbCgabajabbifFpaB",
     "wafabebbCjaBeaebcaCiaccbadbBwhibGpavaHHebBTLbbcaDkbBypFmbBvaBwbebccEgbcbyaBtabaEfacbfaJdbb",
     "bbbbaBLXjabaExaBtcebElaybChaBwcjbnaDpcdbbaGocBfbCgbbdcbccjakbDgchacabdbbbaDxcibdaEccgabdca",
     "JdcgdcaEjcibbaEfabbgaDzabbeaKbcjaJnfbbeacabaFmcideaDgaBdbCkaPraoaEcahacaIfeebbaNmbmaBwbibb",
     "aYYycFJgCcEabBKXnbgf"]),
  (["titlecaseletter", "lt"],
    ["RlacacaBmaLFhhihihmapaBva"]),
  (["unassigned", "cn"],
    ["BIebgdhabauaPhaBmbBybdaCdhBbdgkKkaCibDxnChbBxbpaBcbbaleBfaceJdaibcbwahabcebjbcbehbdcafbzbd",
     "agdcbwahacacacbbafdcbdcbgeabgrjdajadawahacafbkadadbboebmghadaibcbwahacafbjbcbdgddcafbsjcag",
     "cdaeccabaccccdcmdfcdaebbfbnvenadaxaqbjadaegcadbbbebkgwadaxakafbjadaegcfcaebkadlnadaBzadagd",
     "qbBaadascyajabbhcbdgabaifkbdlCgdBdBkcabafayabaxbfabahakbeBfCuaBkdBnaBkapanBkHqabebbOnaebha",
     "baebBpaebBhaebhabaebpaCfaebCpbBgcBafDibgbZtcDlgwiyiulnadaclDqbkfkfBafDlgBreCsjBfamdmdbcBqb",
     "fkBsdBaflcCkbCnaBdblfkfobBfBwCzaGkhCicpcCkeBrblhBreUobgbBmbgbiabababaBfbCbapaobgatbdajaDxa",
     "mbBbancBhoBhoFkdZqvluCRsbBgaNleBtabebbCegcnyihahahahahahahahaEwBhBaaDllIgzDcaDibDzeBraDqaD",
     "iiBwaBRIrcCdiNktHchHybcabaiuChckfCehCshmfEmkBecDaaldBhaCdiobkbDzxBcjgbgbgihahaCidEwbkfQNsl",
     "xdBxdNBabEcBlhlfeBaafabacacaEvpRdbCcgbBfBqfBzataedfaFfbbaHicgbgbgbdchahjfbmaBaatacapboBhEt",
     "eddBtcDkancbBuBuEzBdcBxoBcdBkiBeeBreBeaBldoBpGcbkfBkdBkdBohCakmapahacalapahaccCalLziwjixga",
     "BqajCqgbbaBsaccbbxaCuhjBvtaceBhcBbebClCedubByaceiadaBdbddkgjgCmBfBndmiCccBdbBbeBagelhDbCvC",
     "cBzmBzgBuhkfBmcBdhcHzBfaBqadbcpdCcBshBqvBaBlBctxiDadBkiCqjbbzgkfCbashBniDsauksaBvCjhabaeap",
     "alfChekfeaibcbwahacafakbcbdbbfbehbhcfkkabbbaBmakabbbaeakachcBcDoafBdCuhkGjCcbBmBhCrkkfnsCg",
     "fkfuBbBbbpdxHcCiDvDflibbbiacaBeacbmikCribBublBaCuhDfmCvgkGzBinkfjaBtaojBdcBgbwaoCuhacaBscb",
     "acajhkfgacaBlacaggkLxzgraBpcBdDgboBymBJnDxEhafkHoDXjDvmBQsjFXreWlKDcCgCOrVxgBfakdDdakfBebg",
     "jCsjkahavetQpCgHpDnDwCxdCfgrClfkcnJCahBVqBokNFqeahacaLfobBcdbbnehPgDKtEdencjgkbiFVfJqfQuCx",
     "BubxiEmChJmjBnbHmuCsErululDjizFeDhaCtacbbbcbeamabahaCnaebiahaBcaeafabchaNcbLgbBBaofapBQlBf",
     "fgIeharbhacafeCkBgbEhBtcobkdcMhBfqCgebRvBqIfBrdbSlhaeacapaHpbqBoCydkdcBEeCqCxCjHleaBbacabb",
     "bakaeababfbdbababadacabbbababababacabbeahaeaeabakaredafarBzcKjBsdDwlpbpapaBljGsCdBdmBsdjgc",
     "ngFxBLwdrcncEpdDrfmdbomdCehkfBohBebmdcCjNclobnckeCegpblfjgFraDyBNpCLFcBfGDufIobINqnLBloXyD",
     "QvUwCFxHHzeGFgBOMXkbBdDsExJgDSFnDSYobDSYob"]),
  (["uppercaseletter", "lu"],
    ["CnzDxwbgBhabababababababababababababababababababababababababababacabababababababacabababab",
     "abababababababababababababababababababbbabadbbabbbccdbbbcdbbbbababbbacabbbcbabbdahacacacab",
     "ababababababacababababababababacacabcbabababababababababababababababababababababababababab",
     "ababahbbbcabdbabababaLdabadaiagabcbabbbqbiBjaccdabababababababababababafacabbcByBwabababab",
     "ababababababababababababajabababababababababababababababababababababababababababbbabababab",
     "abacababababababababababababababababababababababababababababababababababababababababababab",
     "ababababacBlEHdBlbafaBBuDhDGlagBqccMiababababababababababababababababababababababababababa",
     "bababababababababababababababababababababababababababababababababababababababababababababa",
     "bababajabababababababababababababababababababababababababababababababababababababababababa",
     "bababababababajhifkhihiflabababaihCudmdmdmeldKcaeadccccadegabababdcdkbfaCjaDZgBvBwabccabab",
     "abdbacaicbabababababababababababababababababababababababababababababababababababababababab",
     "ababababababababaiabaeaBTYjababababababababababababababababababababababatababababababababa",
     "bababababaFfababababababadababababababababababababababababababababababababababababababakab",
     "abbbabababaeabacabadababababababababababebebabababababababdbabbdafabababayaBHAhzBUzBnFgBjG",
     "akbobgbbCQcByGbvEGoBfBGJwBfBMMqzBazBazBaabbcacbcdbhBazBabbdchbgBbbbdbebadgBbzBazBazBazBazB",
     "azBeyBhyBhyBhyBhyBhaGNlBh"])
]

end Paperwork.Unicode.Table
