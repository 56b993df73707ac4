/-!
# Yes-or-no properties

Ranges are packed as gaps and lengths.
-/

namespace Paperwork.Unicode.Table

/-- Names and packed ranges of each yes-or-no property. -/
def binaries (_ : Unit) : List (List String × List String) := [
  (["asciihexdigit", "ahex"],
    ["BwjhfBaf"]),
  (["alphabetic", "alpha"],
    ["CnzgzBvakaeafwbBebRpeloehabaDiaBdrbbcdbagabcbabtbDebFiiGjbBlcagBoBnnbabbbbbaiBaedBdkfCdbgo",
     "DxbheheckccaqBvnDwyBgjbeafxcstyhkfxbfiaiBpkldggCxbpbceonsbhcbcvbgbadddhcbcbbaiaebbembkaecb",
     "febcvbgbbbbbbeeebcbeahdbarflcbibcbvbgbbbedibcbbdapdvdecbhcbcvbgbbbedhcbcbjbebbenaqbbfdcbdd",
     "bbabbdbdcdleedcbcdagaBombcbwbpdhbcbcibbccacdBcdbhbcbwbjbedhbcbcibgbbdncmmbcbBochbcbcbafdhe",
     "wfbcbrdxbibacgifbabhsbnCffggaBzbbabebxbabsbccebagaodBgaClhbBjesepbBjCpCcbaceqClkdcBlbafacB",
     "qbMubdcgbabdcBobdcBgbdcgbabdcobCebdcCoBlpqDhcfdXvcqbzfCwdkhtlumtmmbcbbmBzcsoaeaCpDkhBqfCrk",
     "BebleixBdcelBrezCcBbeCkctByaxblcBxBzbobhBzBpcdkBrbkoCcwckBjckfBqccBpdbfbbdafHjtBhlKrcfcBlc",
     "fchbabababBecCabgbadcbgddcfemfcbgEmanaqmDxaeacjbadegabababdbkcdfeearBoBFhBzCRuIugddbmBlbaf",
     "acCdhaqwjgbgbgbgbgbgbgbgbBfBvaSbcziheceeDhgcbDlbdfBqbDprBfBwpTsJTnCmBGUeCpBtcKidpkbuBufhdE",
     "iBnicDycCocbbabhvtbBgyBzmCpbaBsfdabckBgfBinBcdByblpaqpkebCcjnswdCqbabayccpcdlfcfcfjgbgbBqb",
     "ngEsvQNrmweBwMNcObcEbBmgmeflbmbebabbbbbEdBhNysClcCbBolEmebFeBkzgzlDkdfcfcfccBjlbzbsbbbocnB",
     "iEsCrCaKhBcdBwBvBfnBdfBqfBdcBjehbeBqGbsBjeBjeBniBzmkbobgbbbkbobgbbdBzmLyjvkhyfbBpbiCrfcabB",
     "rbbdacwkwjBeCnsbbkvkzCsCdgbCmdbbfhbcbBcBqBcdBcBjhbBbBbCbkvksnrEgCuCdBynBynBnBiBbdafwJqBpbb",
     "dbqcCdadBckaivBqrBuuBbwjCrBrekCejanyxByrdiBidajClbdjbkabaBjrbBhcagdCkgbabdbobjhCexdbhcbcvb",
     "gbbbedhcbcbdagafgBcjbacabBlbjbacabdbbdabaBsCnbcbducBeCncbbaHcCbcgzfBiCkbadaChCbcaCtBacnvgH",
     "dCeDzClBfhcachbbbBdbbcbcdDphcBtcfbabbBbBycjrCtfasCuHrBgBfibBsbgbaBxBdcvbnCvgbbbBrdabbbcbac",
     "byfbbbBkbbbdbaMpwjqbBodcEhaDbBJlDyEgrHnDXkDspBPfrfzFXqfWkKDdBuCPdVwhBerDarBdsBvqdBfufsQqBs",
     "IdClEyCweCehqCmbbamboJBziBVpBpjNFrdbgbbbLepaBdccaodiPfDKuEcfmdihjeaIWfDgbCsbbcacbcdblbabgb",
     "CmbdchbgbBbbdbebadgbNbcybybBebybBebybBebybBebybhCSyBegfIfgbqcgbbbefCjBhaEiBskgqaMjBdsBrSqB",
     "bIuBdcaTbgbdbbbobHoChCpdadaBUidbBabbbacabjbdbabagaeabababcbbbacabababababbbacdbgbdbdbabjbq",
     "fcbebqYezgzgzFMkCLFbBgGDtgIncINpoLBkpXxDQwUvCFyHHyfGFf"]),
  (["bidicontrol", "bidic"],
    ["CIeaJVlbBaeCdd"]),
  (["bidimirrored", "bidim"],
    ["BobsabaBcabaBdabaBtapaFMsdCUnbDQqbkbCcbobGvaHkddfdadbddbdbabaeifabrfdjbbabhbBfcdfajbcsfbje",
     "cbexcpidubhbBPtnCwacdbbbcfdfcdnPnvcfbniahfdaeebbceeabccbkfcbmsbdcabacabdfbgcyblbedbbcbeBqc",
     "hbBnfabadefceadebaJwaTvddbbbobcjBrhQljchDACrffbGgbsabaBcabaBdababbbbDDPnaCfaCfaCfaCfa"]),
  (["caseignorable", "ci"],
    ["BnagalaBjabaCtaeabaeacbTjHjebeajbbaJrgHzafaBxBsbabbbbbaBsalfkkbaBjakuqaDxhbjbdBhabaBeBaDnk",
     "CgkeacayxBrcBsahbfiBpCfCdabaeheadgkbnapaCgaediaubBaacbCfaebebccdaBebdalbCfaeebbeaubwfbaCga",
     "cabdiahblbBeaCjamaByadaCdabcfcbdhblbBdaCgacagafbubBcbCfbediaubBdaCuahcbaDmacgliDuacijabgCv",
     "bBbababaCdnbebbfkbBjjaDydbfbbcbzbecqdnacbgapaDqaXkcBKkcBdbBebBebCmbbgiackdafaBteBzaCnbBiaE",
     "ocebjagcIlbcaCgabgbabachgjcaBnaiBeBxdBwabebafaBoimbBgdcbbcCeabbdabcCghcbCmfDecbmbgeagadbBy",
     "CknaBiDwRdabclcncncnbmeibkacaceBxebjbanaqmBzBgEJrbEjcEvapaDsBfBvaSbaBkddefaDpfDpcBQBuaBWcf",
     "KkaDudbjbaBcdDcboBhDaaxcDzcdbiadaeazbfaFvbBarnaBmhzkBucBwacdcbravbCofcbcbmaiaBjalaBzabccbf",
     "bbaBbaobfbbaDwejcEracaeaBDZsaFrqWbpdampBiacaGnahagalaBjabaBvaBtbCpavcTtaIsaFteBNpfbBpbiWkc",
     "bbfdBoceaGjbWbdBmaBaebaMdbDbdCskBxdEtaCcoBpacbkcBxdcbcaeakaBycBkebhCkambCaikdcaDrccabbgaca",
     "GbadhvbCfbdaBlgdeCsfnababaobDhhccbaxaDgfbaebbbJedgbbbBbbDhhcabbEcabacfbaDxabacdbeJzibbJwbb",
     "aeaFodcbeaBgjBofcdiajfccBumbbPqgbfbaDevcgbbbbEsfdabbbgbaCubdabaNjblbCaefabaxaHXdqgoQYyldcD",
     "SaeChgjdTocBobSoaClqCmbbbYGpdbgbbEUgbbdGYuBtcwUycjpcgBedFscCYdCceBxiaoaweboCAigbqcgbbbefCj",
     "BhaGenOeaCjdTneJubBCigEfhEBfeBSXXpaBeDrEyJf"]),
  (["cased"],
    ["CnzgzBvakaeafwbBebHmbdeHzbBjhbBeeDsaBqdcbcdbagabcbabtbDebFiiGjbBljBoEFfBlbafacBqbdZwDhcfDF",
     "ukfBqccCmHjCmKrcfcBlcfchbabababBecCabgbadcbgddcfemfcbgEmanaqmDxaeacjbadegabababdbfeacdfeea",
     "rBfdbBFlBzCRuIugddbmBlbafaBTWcBtsBdFcDxddbCjcbbabhvebcBFpBqbngDbBEAigmeBNtzgzBTtDbDsBjeBjE",
     "mkbobgbbbkbobgbbRjaccbBpbiBUzBynByDpvkvEFiClBGIqClBMLkDgbCsbbcacbcdblbabgbCmbdchbgbBbbdbeb",
     "adgbNbcybybBebybBebybBebybBebybhCSyjbtgfKbCjDGkCpDAazgzgz"]),
  (["changeswhencasefolded", "cwcf"],
    ["CnzDmakwbhBgabababababababababababababababababababababababababababacababababababababbbabab",
     "ababababababababababababababababababababbbabababbbabbbccdbbbcdbbbbababbbacabbbcbabbdahbbbb",
     "bbabababababababacababababababababacbbabcbabababababababababababababababababababababababab",
     "ababababahbbbcabdbabababaJmaBqabadaiagabcbabbbqbiwamcdbbababababababababababababbcbbabbcBy",
     "Bwababababababababababababababababajababababababababababababababababababababababababababab",
     "bbabababababacabababababababababababababababababababababababababababababababababababababab",
     "abababababababababacBlBwaEFgBlbafaBFefDFujgBqccMiababababababababababababababababababababa",
     "bababababababababababababababababababababababababababababababababababababababababababababa",
     "bababababababababafbcababababababababababababababababababababababababababababababababababa",
     "babababababababababababababajhifkhihiflabababaihqBvcccffccfldmefccfLladbgaBtptaBFmzCSuBvBw",
     "abccabababdbacaicbabababababababababababababababababababababababababababababababababababab",
     "ababababababababababababaiabaeaBTYjababababababababababababababababababababababatababababa",
     "bababababababababaFfababababababadabababababababababababababababababababababababababababab",
     "ababakababbbabababaeabacabadababababababababababebebabababababababdbabbdafabababayaBIgDbBE",
     "AigmeBNtzBUzBnFgBjGakbobgbbCQcByGbvEGoBfBGJwBfBULkBh"]),
  (["changeswhencasemapped", "cwcm"],
    ["CnzgzCgakwbBebClbDfbBbcncbbaeDobrgBabbbabbdbbdbecabbcahacabbdffakbGkaBqdcbdcbagabcbabtbBud",
     "BgbebFciGjbBlkBmEFgBlbafacBqccZwDhcfDFukfBqccHdadaqaEjFzcabEncfcBlcfchbabababBecCabgbadcbg",
     "ddcfemfcbgLladbgaBbarBfdbBFlBzCRuEibbbbhDxhddbmBlbafaBTWcBtsBbFencCjjodccebybBdcbegybBHcaB",
     "cDbBEAigmeBNtzgzBTtDbDsBjeBjEmkbobgbbbkbobgbbCOpBynByDpvkvEFiClBGIqClBUKeCp"]),
  (["changeswhenlowercased", "cwl"],
    ["CnzDxwbgBhabababababababababababababababababababababababababababacabababababababacabababab",
     "abababababababababababababababababababbbabadbbabbbccdbbbcdbbbbababbbacabbbcbabbdahbbbbbbab",
     "ababababababacababababababababacbbabcbabababababababababababababababababababababababababab",
     "ababahbbbcabdbabababaLdabadaiagabcbabbbqbiBjaiabababababababababababafacabbcByBwababababab",
     "abababababababababababajabababababababababababababababababababababababababababbbababababab",
     "acabababababababababababababababababababababababababababababababababababababababababababab",
     "abababacBlEHdBlbafaBBuDhDGlagBqccMiabababababababababababababababababababababababababababa",
     "bababababababababababababababababababababababababababababababababababababababababababababa",
     "babajababababababababababababababababababababababababababababababababababababababababababa",
     "babababababajhifkhihiflabababaihyhihihieleldmeleLladbgaBtptaBFmzCSuBvBwabccabababdbacaicba",
     "bababababababababababababababababababababababababababababababababababababababababababababa",
     "bababaiabaeaBTYjababababababababababababababababababababababatabababababababababababababaF",
     "fababababababadababababababababababababababababababababababababababababababakababbbabababa",
     "eabacabadababababababababababebebabababababababdbabbdafabababayaBHAhzBUzBnFgBjGakbobgbbCQc",
     "ByGbvEGoBfBGJwBfBULkBh"]),
  (["changeswhentitlecased", "cwt"],
    ["DtzCgaBpxbhbabababababababababababababababababababababababababababacabababababababbbababab",
     "abababababababababababababababababababacababccabacadafacadccacababacaeacadabacadabaeabbbbb",
     "ababababababababbbababababababababcbabadabababababababababababababababababababadababababab",
     "abababaiacbbaeababababfbbbabbdbbdbecabbcahacabbdffakbGkaBrabadadcsaBbBibbdcbababababababab",
     "ababababebacacaCaBvbababababababababababababababababajabababababababababababababababababab",
     "ababababababababacababababababbbababababababababababababababababababababababababababababab",
     "ababababababababababababababababababaBxBmFMefDFuibaJeadaqaEkababababababababababababababab",
     "ababababababababababababababababababababababababababababababababababababababababababababab",
     "ababababababababababababababgfabababababababababababababababababababababababababababababab",
     "abababababababababababababababababiifkhihifkhihinchihihiebbgadcbbidcbihkcbbNeaBhpeaBGlzCTq",
     "Bvbadbbababagacakababababababababababababababababababababababababababababababababababababa",
     "bababababababababababababaiabaeamBlbafaBTWdababababababababababababababababababababababata",
     "bababababababababababababaFfababababababadabababababababababababababababababababababababab",
     "ababababababakabacababababaeaeabbcabababababababababalabababababababaeabacadafababaBaaBHca",
     "BcDbBEAigmeBOzzBVhBnFgBjFzkbobgbbCRbByEvvEGoBfBGJwBfBULmBh"]),
  (["changeswhenuppercased", "cwu"],
    ["DtzCgaBpxbhbabababababababababababababababababababababababababababacabababababababbbababab",
     "abababababababababababababababababababacababccabacadafacadccacababacaeacadabacadabafbbbbbb",
     "abababababababbbababababababababbbbbadabababababababababababababababababababadabababababab",
     "ababaiacbbaeababababfbbbabbdbbdbecabbcahacabbdffakbGkaBrabadadcsaBbBibbdcbabababababababab",
     "abababebacacaCaBvbababababababababababababababababajababababababababababababababababababab",
     "abababababababacababababababbbabababababababababababababababababababababababababababababab",
     "abababababababababababababababababaBxBmEHcBqccBDgfDFuibaJeadaqaEkababababababababababababa",
     "bababababababababababababababababababababababababababababababababababababababababababababa",
     "bababababababababababababababababgfabababababababababababababababababababababababababababa",
     "babababababababababababababababababababiifkhihifkhihincCabbeabadcbbeaddcbihkcbbeaMzaBhpeaB",
     "GlzCTqBvbadbbababagacakabababababababababababababababababababababababababababababababababa",
     "babababababababababababababababaiabaeamBlbafaBTWdababababababababababababababababababababa",
     "babatabababababababababababababaFfababababababadababababababababababababababababababababab",
     "abababababababababakabacababababaeaeabbcabababababababababalabababababababaeabacadafababaB",
     "aaBHcaBcDbBEAigmeBOzzBVhBnFgBjFzkbobgbbCRbByEvvEGoBfBGJwBfBULmBh"]),
  (["dash"],
    ["BtaCAuaBzaFKjaBNpaDBdfCjaBnapaPaaEOiacaBfbeaBcaReataEhaCZWabBlakaGnaFLoaMga"]),
  (["defaultignorablecodepoint", "di"],
    ["GraZxaBBoaEGwbCKhbDheDApeBaeBxpGKyaCZMppJfaGeaDbiCTLndHWxhBTKZlGBn"]),
  (["deprecated", "dep"],
    ["MraBYvaDKtabaDCjbDIjfBAvbBZRYka"]),
  (["diacritic", "dia"],
    ["DqabaCtagaeacbTjGcbhffrbeajbJteIbaCdqbBababbbaFehebFebebdcCpBaDnkCgkBibEwhBpjqBbCjaqaddBca",
     "CwaqaEgaqaEgaqaBvcCiaqahaEpaEgaqaEgaqaEfbqaEuaEhamfbaEdaneCxbBbababaebCocbbCkaEiabbBobeezg",
     "bakbBBdcBKmbBeaFskjaNjcLgauhcaBwockEaapaBmiCcbCgalbCobCmfDeyeagaccByCkDllBlkRdabclcncncnbE",
     "XkcMfaTmfEbdDraBSMkambbaBcbDeboBhDycEfbmaBlaFvaBbrCfdBkaDramaBkaFtcCndBzaDwejcEybBDZsaBDpp",
     "KkabaBvaBtbCpaBDkaBTnfbBpbiYnceaGjbVzfBmaBaePjcCskBxdHkaBpaCubEqbCkaCyajcEabGwbDcbqaygdeDl",
     "cbbnbDradaEtbJrbEwaEobElaKjbJybeaGaaDfasaDdaQfaJyabbDdaQjbxaHYaoQZpaDSaeChgVsbVaqDcbYGcdbg",
     "bbLThBtcwUycdfihcgBedFMwCjHmgOlaCjdBDmbBCigEfcbc"]),
  (["emoji"],
    ["BjagafjEhaeaLYramaIiawaDmfpbOdbmaGkazkecHraIxbkajaCgdbejacacbcaeacabbcadadbicfabafllbcabbb",
     "asacbsfbabbdbfacbeblbfbcafbbabbubffbdcaeacacfbacababagadagakbpacaeabaecbalbBwcjaoaoaOibRvc",
     "tbBzaeaBVuamaXdabaGMRqaHuaGebmboacjCxzbbxauacivbGsBhcEhcbbccDeccbKcbCklfbxhbchmacdcaebnbca",
     "ibjafcmciccabaeagadagDhBwCrfhccejdabbdacjItleaKxBubjbHcEimdjfCdhockgi"]),
  (["emojicomponent", "ecomp"],
    ["BjagafjMBjaIfaDFTraDOIwzTneCEadBSVUqDr"]),
  (["emojimodifier", "emod"],
    ["HHIxe"]),
  (["emojimodifierbase", "ebase"],
    ["OLhaIlaqdGSJvaCiccaccEnbckvsdaecbchabayaHtbeavaebGscdeDfaqcjalaWdacaihgajjccCeaCjbbbbarcbm",
     "IvcBqi"]),
  (["emojipresentation", "epres"],
    ["NHqbHxddacaUbbvbBylBratanaibrbfbiafavahbbaeacahaebBcaBjabaecbaCjcyaoaBHbbBzaeaGPLeaHuaHiac",
     "jCxzbayauacebcvbGsBgmibCrbvmBqeemqdadCsbabHecCkndbxsaBabnaDiDgBwCrgadcccedlbhiItleaKxBubjb",
     "HcEimdjfCdhockgi"]),
  (["extendedpictographic", "extpict"],
    ["GnaeaLYramaIiawaDmfpbOdbmaDraCsazkecHraIxbkajaCgdbfblbEjkEnckbabagadagakbpacaeabaecbaleBtc",
     "jaoaoaOibRvctbBzaeaBVuamaXdabaGMRmJvncBfaCifmboacjsCeBbokauacibdjQrfMfiKfBwExEmlDhBqmdCehk",
     "fBohBeDdmBubjbQyJwBNh"]),
  (["extender", "ext"],
    ["HbaUqbBHuaQzaYgaFhaDlaBCyaExaDNfaCeaXnaPiaCqaHKjaBreDzbDpcBQBuaCGsaBLaawaFhaEeavbBFZvaDBkb",
     "CFbaBbaeaBVbaLhaEmbTecBVjaBEOfbBTkbbaBQYabBUfaBGuc"]),
  (["graphemebase", "grbase"],
    ["BgDqBhmbWvEihcfegbabtbIphGjbBlcBxccBuabacacajBaefrjlabBtvpbDwiagbcaeBfcabBdBdDklaoBqjgdxea",
     "jadahobyfabkfBerBpCfCcbabdidbchjcBcbbbhcbcvbgbadddabbgbcbbanbbcexfabfebcvbgbbbbbbecydbahjc",
     "cbamabibcbvbgbbbeddiabbdapbelhaibbhcbcvbgbbbedacagbcbpbbcerlabfdcbddbbabbdbdcdlfabbdcbcdav",
     "ugcbhbcbwbpdaddtccacbejhjbkbcbwbjbedbcabbybbbejbcokbcbBocabbfcbcbbecbjezcbbrdxbibacgjbgghj",
     "ccmBvbblhimBlbbabebxbabjbbjacebajjcdBgxcBabababnbBjsafaceBxhbfbmBlBseagacbcycddpembbcfbobB",
     "nbafacOmbdcgbabdcBobdcBgbdcgbabdcobCebdcCofBcdzgDhcfcZsdDkhrnsdbjrombcpBzcahhbblidjgjgkfjg",
     "DkhecBhbafCrkBeedccebbfhadBpcelBrezgkdCecbdCdbajabbifnjgjgnDiBvkddhbBcjlcBfebgCdbaccbanBvi",
     "bfodCjfBqcklanahdbfbccafHjCmKrcfcBlcfchbabababBecCabobncfbsccbibkfxhBwqbcBabmdBgClFjeZpwkv",
     "CRrcBfbNfdbfBsbafacCdhbpwjgbgbgbgbgbgbgbgBhDpBizbDkmIfBaCfgpbDheDwfBqbDpbDhjBvbBRIqdCcjNju",
     "BueakBfcDbcfiHxcbbabhvpbcbdbyceejgCdiCpklymbBliylamBdgBvbbebcbbmbkegbybBogbcblcbhbacjcBfbB",
     "ybadbcecabayqchlfcfcfjgbgbCheEmbbbddjgQNrmweBwMNcObcEbBmgmefabxbebabbbbbEuqRccCbhaBgpqjwBi",
     "bsbdeebFeeGacBedfcfcfccdgbgnbclbzbsbbbocnBiEsfceBsdDjbmdaBvBsFbBcdBwqBaeBjjBdfBlkBdbBkenBq",
     "GbcjgBjeBjeBniBzllbobgbbbkbobgbbdBzmLyjvkhyfbBpbiCrfcabBrbbdacwbCtiiBwsbbfBgdBafaCmCdetcBu",
     "pdbcbBckihihClBgBkgljCbdBccBafzhdmgDcCuCdBynByhBpmjgBlixibIaBebBpdacbqcChBnivliwredBmBbuwj",
     "abCbpgeBdbbcamBwebcbbdoyhjjBjfajriBibclBzjabhebbpbtlrbBbdbefbbClgbabdbobkgBubcnjibbhcbcvbg",
     "bbbedababdcbcbdamgBcjbacabBlbabbpabbdabcbbBnCdibdabubabcBeBvbbgabbbacacdijGkBubbgdcacBaBkB",
     "yibbacdljgmtBqbabbibgjgtBcBadabbeajwHdBujacaDwDemhcachbbbxbebbgdbcjjCshcBpidbdBbakBngbehja",
     "gbdBtnacinCuhjHaBhojgibBloabfkBcdBfzahacaCxgbbbBlvajjgfbbbBkebbabahjLyscdjobBjibdwDiapBxnB",
     "JmDyEgbelHnDXkDunBPfrfzFXqfWkKDdBdmcdjCOsVwhBebjeDcbjgBdhakBvhokjbgbufsQqCfHqDmDxCwfCdlmCm",
     "dBcJBziBVpBpjNFrdbgbbbLepaBdccaodiPfDKuEcfmdihjcacaFVkJpgQtGaElCiJlkBmcChfcwbhBdeCivCndaEs",
     "tmtmDijyFfDgbCsbbcacbcdblbabgbCmbdchbgbBbbdbebadgbNbcLfcVpCddByhbnbgBRwBegfKbCjFqBskgcjebM",
     "iBdsBrejfaRwBbejIgBdckeaSmgbdbbbobHociBwCphaejebBEfCpCyCiHmdbBabbbacabjbdbabagaeabababcbbb",
     "acabababababbbacdbgbdbdbabjbqfcbebqCabKkBreDvmocobobBkkGrCeBcnBreihbofFyBLveqdmdEoeDqgleap",
     "leCdijgBniBdclebCkNbmncmdjfCdhockgihFqbDxBNqCLFbBgGDtgIncINpoLBkpXxDQwUvCFyHHyfGFf"]),
  (["graphemeextend", "grext"],
    ["BDoEhKpgKdBsbabbbbbaCukBwuqaDxgcfcbbdBjaBeBaDnkCgijaydbibcbeBrcChiBqxbBfCdabaeheadgkbBdaCg",
     "abacdiajakbBaacbCfaebebccdaBebdalbCfaeebbeaubwfbaCgabbbdiahckbBeaChabamajaBoadaCdabcfcbdhb",
     "lbBdaCgacbbadcbdhblbBcbCfbbacdiajakbBdaCuaeaccbaiaDdacgmhDuacilgCvbBbababaCdnbebbfkbBjjaDy",
     "dbfbbcbzbecqdnacbgapaBBbcBKkdBccBdbBebCmbbgiackjaBtcbaEnbBiaEocebjagcIlbcaCgabgbabachgjcaB",
     "wBeBxdBwjecBmimbBgdcfCeabbdabeCehcbFwcbmbgeagadbHqClUeaHnBgEOccFlaDsBfVifEbbBSQedbjBgbDcbK",
     "madaeazbfaFvbBarnaBmhzkbaBscBwacdcbcaBkaCpfcbcbmaiaBvaBzabccbfbbaBqbiaJeacaeaBDZsaBCjpqpOc",
     "bXhaIsaFteCMgcbbfdBoceaGjbWbdCneMfbDbdCskBxdEtaCcoBpacbkcBxdcbhaCjcBkebhCkambCaibaidcaDrcc",
     "dgacaGbadhvbCfbbabamajaogdeCpacfbacabcecbaobDhhccbaxaDdacfbacabbbbJbacdgbbbBbbDhhcabbEcaba",
     "chDxabacdbeJzibbJlakdeaFodcbeaBgjBofcdiajfccBumbbPqgbfbaDevcgbbbbEsfdabbbgbaCubdabaNjblbCa",
     "efcxaHXtagoQYyldcDSaeChgBOiaCldDdalbBDAxbGYzBtcwUwedfihcgBedFscCYdCceBxiaoaweboCAigbqcgbbb",
     "eDwaGegOlaCjdTodJubBCigEfgBTCAfDrEyJf"]),
  (["graphemelink", "grlink"],
    ["DNpaExaExaExaExaExaExaExaEfbqaEuaEhaExaHtaGybCPlbBeaGbaZdaItaDxbCsbGQtaBUKkaBlaFvaFmaEeaLx",
     "aJmaBJSraCHiaBpaoaCfaErbFjaEmaGyaDuaEycEjaExaJsaExaEoaEmaKjaJzbGfaDfasaDdaQfaKabDdaQjbYZca"]),
  (["hexdigit", "hex"],
    ["BwjhfBafDSLljhfBaf"]),
  (["hyphen"],
    ["BtaExaBVwaGZzaDBdbFIbaBClaCZUlaGnaDja"]),
  (["idsbinaryoperator", "idsb"],
    ["SEabcjTda"]),
  (["idstrinaryoperator", "idst"],
    ["SEcb"]),
  (["idsunaryoperator", "idsu"],
    ["SEob"]),
  (["idcompatmathcontinue"],
    ["GwbfaMAgadkboOhaeawaGJJeazaBfazaBfazaBfazaBfaza"]),
  (["idcompatmathstart"],
    ["MWwaeawaGJJeazaBfazaBfazaBfazaBfaza"]),
  (["idcontinue", "idc"],
    ["BwjhzeabzBvakabacafwbBebRpeloehabarEmbbcdbagebabtbDebFibecGjbBlcagBoiBsbabbbbbaiBaedBdkfCv",
     "eDxbhcjbscaqCgcDwoCbeacacBtsBbekfxbfiCwbEycjbsbhcbcvbgbaddcicbcdiaebbeclkabaccbfebcvbgbbbb",
     "bbcabeebccdahdbahplcbibcbvbgbbbecjbcbccapdcjjgbcbhcbcvbgbbbecicbcchcebbecjbaqbbfdcbddbbabb",
     "dbdcdleedcbdcagaojqmbcbwbpcibcbdhbbccacdcjqdbhbcbwbjbecibcbdhbgbbdcjbcmmbcbBybcbefdhecjkfb",
     "cbrdxbibacgdaefbabhgjcbnCffobjBnbbabebxbabwcebabgbjcdBgaxbgjlababaejbBjetbrbBjjaCfCvgCzcBl",
     "bafacBqbMubdcgbabdcBobdcBgbdcgbabdcobCebdcCoccjiopqDhcfdXvcqbzfCwdkhvjvltmmbcbbmDfdaebcjBh",
     "cbkgDkhBqfCrkBeblelkBncelBrezgkBlBbeCkbBcckgjnainbpBxCydjrimElmCdijdBwckfBqccqcbBmfUncfcBl",
     "cfchbabababBecCabgbadcbgddcfemfcbgpbBxbtaBcanaqmBzmeadlraeacjbacfgabababpcdfeearBoDZbIugim",
     "BlbafacCdhapxjgbgbgbgbgbgbgbgbBfTxczobeceeDhcgbDqfBqbDprBfBwpTsJTnCmBGUeCpBtcKidBbuBvejbEk",
     "BlicDycCocbbabhvCbeatBzmCrkjgxdabBwcBjmBcdCmokgBebCcjncjgwdCuyccpcekfcfcfjgbgbBqbngEsbbcjg",
     "QNrmweBwMNcObcEbBmgmeflbmbebabbbbbEdBhNysClcCbBolepqpdbycBgebFetjhzeabzkDldfcfcfccBjlbzbsb",
     "bbocnBiEsCrCaFgaFaBcdBwpaBfBfnBdfBqfBdcBjehbeBqGbcjgBjeBjeBniBzmkbobgbbbkbobgbbdBzmLyjvkhy",
     "fbBpbiCrfcabBrbbdacwkwjBeCnsbbkvkzCsCdgbCmdbbfhbcbBccceaBgBcdBcBjhbBdzCbkvksnrEgCuCdBynByn",
     "BnijgBldebwJqBpbbdbqcCdBgkaiBgBfvBquBbwjCsBfpjChhanyhjgCabjediBjcajCqedbmbaBjrbBkgdCkgbabd",
     "bobjhCgfjgdbhcbcvbgbbbebjcbcccagafgcgdeljbacabBlbjbacabdbhnbBdCwfjedBeCrbaijGkCbcixfBiCmda",
     "ljBmCehjgtBcBacoejggHdCgDxCvvhcachbbbBdbbcimjCshcBtchbbBbCkiaiCvdasCuHrBgpjgibBsbipjyBdcvb",
     "nCvgbbbBrdabbbiijgfbbbBkbbbfhjLywjqbBodenkDhaDbBJlDyEgrHnDXkDspBPfqvkFXqfWkKDdCfCOsVwhBebj",
     "gDabjgBdcelCcjdmjjufsQqBsdjHqClEyCweCehqCmbbblboJBziBVpBpjNFrdbgbbbLepaBdccaodiPfDKuEcfmdi",
     "hjdbGErjTyBtcwUwedfihcgBedFscRbDgbCsbbcacbcdblbabgbCmbdchbgbBbbdbebadgbNbcybybBebybBebybBe",
     "bybBebybhcBxTsCceBxiaoaweboBQmBegfIfgbqcgbbbefCjBhaEiBsdncjeaMjBerCfScBpIgBqSrgbdbbbobHolg",
     "BpCxejBTudbBabbbacabjbdbabagaeabababcbbbacabababababbbacdbgbdbdbabjbqfcbebqFAajBNqCLFbBgGD",
     "tgIncINpoLBkpXxDQwUvCFyHHyfGFfBONHgJf"]),
  (["idstart", "ids"],
    ["CnzgzBvakaeafwbBebRpeloehabaEzebbcdbagabcbabtbDebFiiGjbBlcagBoCtBaedBtBqBjbbDubapbhbkccaqa",
     "bBdBdDklayBgjbeafveajadaxyhkfxbfrBpCgCbdasahjppehcbcvbgbadddaqanbbcobkaifebcvbgbbbbbbBfdba",
     "tcqibcbvbgbbbedasapbxalhcbcvbgbbbedaBebbcparabfdcbddbbabbdbdcdlwaCahbcbwbpdaBaccacbBeaehbc",
     "bwbjbedaBfbbbpbribcbBocaqafcicyffrdxbibacgCgBvbbmgCgbbabebxbabjbbjacebavdBgaClhbBjBbeElBqu",
     "aqfeddadbhcemmarBlbafacBqbMubdcgbabdcBobdcBgbdcgbabdcobCebdcCoBlpqDhcfdXvcqbzfCwdkhrnsorom",
     "bcpBzBjaeaCpDkhBobafCrkBeBxBdcelBrezCcwjCaDeaDpBurhCcBdnbkBrBaBjBpckBjckfBqccBpdbfbbdafHjC",
     "mKrcfcBlcfchbabababBecCabgbadcbgddcfemfcbgEmanaqmDxaeacjbacfgabababpcdfeearBoDZbIugddbmBlb",
     "afacCdhaqwjgbgbgbgbgbgbgbgVecziheceeDheebDlbdfBqbDprBfBwpTsJTnCmBGUeCpBtcKidpkbuBuqBecDbBn",
     "icDycCocbbabhvpbcbdbwBdBzoBxCkfdabblBbkwzBchBuBcaqebjkebBoxcbhuwdadBxbadbcecabaycckhcmfcfc",
     "fjgbgbBqbngEkBdQNrmweBwMNcObcEbBmgmefabjbmbebabbbbbEdBhNysClcCbBolEmebFeBkzgzlDkdfcfcfccBj",
     "lbzbsbbbocnBiEsCrCaKhBcdBwBvBfnBdfBlkBdcBjehbeBqGbsBjeBjeBniBzmkbobgbbbkbobgbbdBzmLyjvkhyf",
     "bBpbiCrfcabBrbbdacwkwjBeCnsbbkvkzCsCdgbCmapdbcbBcBqBcdBcBjhbBbBbCbkvksnrEgCuCdBynBynBjBmBb",
     "jwJqBpgbqcChBckaivBqrBuuBbwmCaCfbcanBsBgyBaBjBdacaiBidamBvodvabaBjrbytbClgbabdbobjhBuBmhcb",
     "cvbgbbbedasameBejbacabBlbazabaBsCasducBeBvubbaHcBuBpdBkBvuaChBqnaCtBaBlgHdBrEmClBfhcachbbb",
     "xpabaDqhcBmqabaBcakBnhavalBttasCuHrBgBfibBkraBxBdEigbbbBlvazfbbbBfoaMpspabmbBhEuaDbBJlDyEg",
     "rHnDXkDspBPfrfzFXqfWkKDdBdCPuVwhBerDarBdsBvqdBfufsQqBsIdClEyCwfaComCmbbaBcJBziBVpBpjNFrdbg",
     "bbbLepaBdccaodiPfDKuEcfmdihjIWkDgbCsbbcacbcdblbabgbCmbdchbgbBbbdbebadgbNbcybybBebybBebybBe",
     "bybBebybhCSyBegfKbCjFqBskgqaMjBdsBrSqBbIuBdcaTbgbdbbbobHoChCphaBUidbBabbbacabjbdbabagaeaba",
     "babcbbbacabababababbbacdbgbdbdbabjbqfcbebqGOaCLFbBgGDtgIncINpoLBkpXxDQwUvCFyHHyfGFf"]),
  (["ideographic", "ideo"],
    ["SEwbziocBLdJTnCmBFBjBHSiObcEbBSIkaBbJBziBVpBpjNUlPfBDEiCLFbBgGDtgIncINpoLBkpXxDQwUvCFyHHyf",
     "GFf"]),
  (["joincontrol", "joinc"],
    ["MDob"]),
  (["logicalorderexception", "loe"],
    ["FKieEteEDsccaCCXmbcabb"]),
  (["lowercase", "lower"],
    ["DtzBvakaeaBkxbhbabababababababababababababababababababababababababababbbabababababababbbab",
     "abababababababababababababababababababababacababccabacadbeacadccacababacabbbacadabacbccgac",
     "acababababababababbbababababababababbcabadabababababababababababababababababababababababab",
     "abababababgcacbbaeababababCqbBjhbBeeDsaBrabadacdsaBbBibbdcbabababababababababababebacacbBz",
     "Bvbababababababababababababababababajababababababababababababababababababababababababababa",
     "cababababababbbabababababababababababababababababababababababababababababababababababababa",
     "babababababababababaBwBoEHbBqbdBDgfDFuibaEnHjCnabababababababababababababababababababababa",
     "bababababababababababababababababababababababababababababababababababababababababababababa",
     "babababababababibababababababababababababababababababababababababababababababababababababa",
     "babababababababababababiifkhihifkhihinchihihiebbgadcbbidcbihkcbbEranaqmEfadbdaBbaeaeacbide",
     "aBhpeaBGlzCTqBvbadbbababaeabbbhdababababababababababababababababababababababababababababab",
     "ababababababababababababababababababababbhabaeamBlbafaBTWdabababababababababababababababab",
     "ababababababatabababababababababababababcFdababababababcbababababababababababababababababa",
     "babababababababababababababjbabacababababaeabacabcbabababababababababafafabababababababaea",
     "bacadabababababawcbabcBFpBqbngDbBEAigmeBOzzBVhBnFgBjFzkbobgbbRjaccbBpbiBXlByEvvEGoBfBGJwBf",
     "BMMkzBagbrBazBadbabgbkBazBazBazBazBazBazBazBazBaBbBcybfBaybfBaybfBaybfBaybfbaCSyjbtgfKbCjD",
     "HsBh"]),
  (["math"],
    ["BraqcBfaBdabaBtaeaBlaBfaBCaccaBabccUhcJWnaBbcladanaodveleCnmeadbeesaeacjbacfgadbcbbcbfdnba",
     "CqxbfbbebeBfbagboKhidubDmaBeBabayalgRdbmjefebcbdeoabacflhfbCfabaBddjcMyClJwTrBwucfDASqaBFr",
     "fbaGgaqcBdabaBdabaFbagdFEfbCXDwDgbCsbbcacbcdblbabgbCmbdchbgbBbbdbebadgbNbcLfcBxIIqdbBabbba",
     "cabjbdbabagaeabababcbbbacabababababbbacdbgbdbdbabjbqfcbebqCab"]),
  (["modifiercombiningmark", "mcm"],
    ["CKibcaFbagadbSnbbcdaBfa"]),
  (["noncharactercodepoint", "nchar"],
    ["DSDcBfUgbDSYobDSYobDSYobDSYobDSYobDSYobDSYobDSYobDSYobDSYobDSYobDSYobDSYobDSYobDSYobDSYob"]),
  (["otheralphabetic", "oalpha"],
    ["BGfaBdmWenbabbbbbaCukBwmbgqaDxgedcbeaBjaBepDykDxbdibcbdEcaCildggtCcbcobbfckbBdcCggcbcbkakb",
     "BdcCgeebcbeaBebdalcCghbcbbvbwcecCggcbcbjbkbBeaChedcbckaBoeCfgbcbciblbBdcCggbcbciblbpamdCgg",
     "bcbckakbBdcCxfbabhsbCjacgsaDvacfbbqaGhsjkbBjEglbacdxdecbccgddnlbakdCLobBebBebBebCosHgbBiaE",
     "oleiIoeCfjctCwblcBxeBwoCicBeicbCfkBysPwBhCOnBzDKgBfBTQahBibNqaiaxeDkbBypbaCfaBmeBclBtdBwlB",
     "laCpnmaibBtcByabccbfaBsefaJdhBDZvaDEdeCMgcbbfdBEidCnaMjbDbaJzcCbnBtblcBtijaCjcBklsbCfcBwmo",
     "bDoicagacaGbjxdCggcbcbkakbDgibacabdbbDzmbcEcrJdgcgBdbDeobaEckDznJxmJnfbbcbdabaFmgcfeaBcjBq",
     "ebdskBunPrhbgDfvbnEsfdabbbcbadaCoebbbdNkdjbbaBwgdcYYnqFJcabCchdDpbBDAyaNKjgbqcgbbbeDwaDHva",
     "CZwzgzgz"]),
  (["otherdefaultignorablecodepoint", "odi"],
    ["BGpaFIlbCKhbDHnaGLiaDACpaDbiBWMIhabBdDsExJgFIl"]),
  (["othergraphemeextend", "ogrext"],
    ["DRyayaNuayaDyayaIyabaebbbjbDzayaEpapaDMraBeaBNkafabafbDxaCtbBOiaGCvbBTWtaEeaBGNlbGWmaEmaKe",
     "aoajaDsajacabcfaIqamaJhaKcaYjamaCHfaBEOkbBKXnbgfBTLAzDr"]),
  (["otheridcontinue", "oidc"],
    ["HbaBBraGAjiCLcaCIzbGKraDAEja"]),
  (["otheridstart", "oids"],
    ["JHlbDGjavaFVwb"]),
  (["otherlowercase", "olower"],
    ["GoapaThihbBeeDsaCaaFCzaEPzCknaBiBkBAnanaqmIdpBGqzCWobBUGkbIcaEzcdbBHidjaBIWsaccbBpbiDDZhCj"]),
  (["othermath", "omath"],
    ["DqaBHxccaBabcbKQyaBbclaBgdybobCnmeadbeesaeacjbadegadbcbbcbfddfeCxecdbbbbbabecbebercbbabgba",
     "gbLedGmbbayaraRdbmifefbcbdeoabacfybCfabaBddjbNebBfjPnvCldBgbDCLfabaeaIdabaDCOvDgbCsbbcacbc",
     "dblbabgbCmbdchbgbBbbdbebadgbNbcybybBebybBebybBebybBebybhcBxIIqdbBabbbacabjbdbabagaeabababc",
     "bbbacabababababbbacdbgbdbdbabjbqfcbebq"]),
  (["otheruppercase", "oupper"],
    ["MQqpBGgzGSIyzgzgz"]),
  (["patternsyntax", "patsyn"],
    ["BhokgBadbaBadBigbabbbabbeaeadaxaBfaLUexiocsbjLtBBrGeYfBeBRnTsExOvceypaCZQzbKbb"]),
  (["patternwhitespace", "patws"],
    ["jesaDwaLYmbyb"]),
  (["prependedconcatenationmark", "pcm"],
    ["CHcfIhaBxaOubDcaDVXyapa"]),
  (["quotationmark", "qmark"],
    ["BiaeaFbapaLWuhzbFIdaRpdncDABpdHhaeaDmb"]),
  (["radical"],
    ["RPwzbDkmIf"]),
  (["regionalindicator", "ri"],
    ["HGOkz"]),
  (["sentenceterminal", "sterm"],
    ["BhamaqaCAbaFrcGyaBrcJmaCjabadbLhbCPwbBEkaebBDtaHqbGbbBtafaMcbNqdGgbkbcbBdcHfbCnbBJwaxbjcEU",
     "xcLuanawbQnaBSHwaKkbItadaOsbDibDraFwbFrcFobJpaBFCwacbChadbGnamaqaCnaEDwbBXdeBsdHhbEndExcEz",
     "bgaqbDkbbbEeaLmbEnbOjbfoEbbJpcTxabaJrbDjbQebBAqbCwbBCMbbFdaCnblaVhbLkaBDOgaLIma"]),
  (["softdotted", "sd"],
    ["EbbHoaKvaBeaCaauaMiaDuabaJMnaBzanadaFcaGbaQfaIgbEGgaGELhbBybBybBybBybBybBybBybBybBybBybByb",
     "BybDFyaLtbBaa"]),
  (["terminalpunctuation", "term"],
    ["BhakabalbdaBFyaiaTtaCfaCuaoabcGyaBrkbaJbbCcfbhBfaKbbBWubGqaefLzbBEjhBDtaEucCtbGbcdaBndcbMc",
     "bNqdGgbkbbcBdcHfeCkbBJwaxbjcEUxcLuanaeakabbdbQmbBSHvbKjcIteOsbDibDraFvcFrcExaqbJpaBFCwacbC",
     "fcbdGnakabalbdaCnacaBPqaBwaBSoaHraLybFwfCqfDldBKqeBsdHhgEidExcEzbgaqbDkeEeaLmbEncmbNuddoEb",
     "bJpcTxabaJrbDjbebPycBtaYvbCwbBYxeBAMzbFdaCnckaVhbLjbBDOgaLIld"]),
  (["unifiedideograph", "uideo"],
    ["TSaJTnCmBFBjBICsbbabbkababbccDVEcCLFbBgGDtgIncINpoLBkpXxGRqHHyfGFf"]),
  (["uppercase", "upper"],
    ["CnzDxwbgBhabababababababababababababababababababababababababababacabababababababacabababab",
     "abababababababababababababababababababbbabadbbabbbccdbbbcdbbbbababbbacabbbcbabbdahacacacab",
     "ababababababacababababababababacacabcbabababababababababababababababababababababababababab",
     "ababahbbbcabdbabababaLdabadaiagabcbabbbqbiBjaccdabababababababababababafacabbcByBwabababab",
     "ababababababababababababajabababababababababababababababababababababababababababbbabababab",
     "abacababababababababababababababababababababababababababababababababababababababababababab",
     "ababababacBlEHdBlbafaBBuDhDGlagBqccMiababababababababababababababababababababababababababa",
     "bababababababababababababababababababababababababababababababababababababababababababababa",
     "bababajabababababababababababababababababababababababababababababababababababababababababa",
     "bababababababajhifkhihiflabababaihCudmdmdmeldKcaeadccccadegabababdcdkbfaBaptaBFmzCSuBvBwab",
     "ccabababdbacaicbababababababababababababababababababababababababababababababababababababab",
     "abababababababababababaiabaeaBTYjababababababababababababababababababababababatabababababa",
     "babababababababaFfababababababadababababababababababababababababababababababababababababab",
     "abakababbbabababaeabacabadababababababababababebebabababababababdbabbdafabababayaBHAhzBUzB",
     "nFgBjGakbobgbbCQcByGbvEGoBfBGJwBfBMMqzBazBazBaabbcacbcdbhBazBabbdchbgBbbbdbebadgBbzBazBazB",
     "azBazBazBeyBhyBhyBhyBhyBhaGNlBhDBizgzgz"]),
  (["variationselector", "vs"],
    ["JCtcbaDJCapBWNKyJf"]),
  (["whitespace", "space", "wspace"],
    ["jesaDwaBaaIHjaDPnkBdbfaBvaFXwa"]),
  (["xidcontinue", "xidc"],
    ["BwjhzeabzBvakabacafwbBebRpeloehabarEmbbdcbagebabtbDebFibecGjbBlcagBoiBsbabbbbbaiBaedBdkfCv",
     "eDxbhcjbscaqCgcDwoCbeacacBtsBbekfxbfiCwbEycjbsbhcbcvbgbaddcicbcdiaebbeclkabaccbfebcvbgbbbb",
     "bbcabeebccdahdbahplcbibcbvbgbbbecjbcbccapdcjjgbcbhcbcvbgbbbecicbcchcebbecjbaqbbfdcbddbbabb",
     "dbdcdleedcbdcagaojqmbcbwbpcibcbdhbbccacdcjqdbhbcbwbjbecibcbdhbgbbdcjbcmmbcbBybcbefdhecjkfb",
     "cbrdxbibacgdaefbabhgjcbnCffobjBnbbabebxbabwcebabgbjcdBgaxbgjlababaejbBjetbrbBjjaCfCvgCzcBl",
     "bafacBqbMubdcgbabdcBobdcBgbdcgbabdcobCebdcCoccjiopqDhcfdXvcqbzfCwdkhvjvltmmbcbbmDfdaebcjBh",
     "cbkgDkhBqfCrkBeblelkBncelBrezgkBlBbeCkbBcckgjnainbpBxCydjrimElmCdijdBwckfBqccqcbBmfUncfcBl",
     "cfchbabababBecCabgbadcbgddcfemfcbgpbBxbtaBcanaqmBzmeadlraeacjbacfgabababpcdfeearBoDZbIugim",
     "BlbafacCdhapxjgbgbgbgbgbgbgbgbBfTxczobeceeDhcbccbDqfBqbDprBfBwpTsJTnCmBGUeCpBtcKidBbuBvejb",
     "EkBlicDycCocbbabhvCbeatBzmCrkjgxdabBwcBjmBcdCmokgBebCcjncjgwdCuyccpcekfcfcfjgbgbBqbngEsbbc",
     "jgQNrmweBwMNcObcEbBmgmeflbmbebabbbbbEdBhFigIjsClcCbBojgpqpdbycBhabadababababEvtjhzeabzkDld",
     "fcfcfccBjlbzbsbbbocnBiEsCrCaFgaFaBcdBwpaBfBfnBdfBqfBdcBjehbeBqGbcjgBjeBjeBniBzmkbobgbbbkbo",
     "bgbbdBzmLyjvkhyfbBpbiCrfcabBrbbdacwkwjBeCnsbbkvkzCsCdgbCmdbbfhbcbBccceaBgBcdBcBjhbBdzCbkvk",
     "snrEgCuCdBynBynBnijgBldebwJqBpbbdbqcCdBgkaiBgBfvBquBbwjCsBfpjChhanyhjgCabjediBjcajCqedbmba",
     "BjrbBkgdCkgbabdbobjhCgfjgdbhcbcvbgbbbebjcbcccagafgcgdeljbacabBlbjbacabdbhnbBdCwfjedBeCrbai",
     "jGkCbcixfBiCmdaljBmCehjgtBcBacoejggHdCgDxCvvhcachbbbBdbbcimjCshcBtchbbBbCkiaiCvdasCuHrBgpj",
     "gibBsbipjyBdcvbnCvgbbbBrdabbbiijgfbbbBkbbbfhjLywjqbBodenkDhaDbBJlDyEgrHnDXkDspBPfqvkFXqfWk",
     "KDdCfCOsVwhBebjgDabjgBdcelCcjdmjjufsQqBsdjHqClEyCweCehqCmbbblboJBziBVpBpjNFrdbgbbbLepaBdcc",
     "aodiPfDKuEcfmdihjdbGErjTyBtcwUwedfihcgBedFscRbDgbCsbbcacbcdblbabgbCmbdchbgbBbbdbebadgbNbcy",
     "bybBebybBebybBebybBebybhcBxTsCceBxiaoaweboBQmBegfIfgbqcgbbbefCjBhaEiBsdncjeaMjBerCfScBpIgB",
     "qSrgbdbbbobHolgBpCxejBTudbBabbbacabjbdbabagaeabababcbbbacabababababbbacdbgbdbdbabjbqfcbebq",
     "FAajBNqCLFbBgGDtgIncINpoLBkpXxDQwUvCFyHHyfGFfBONHgJf"]),
  (["xidstart", "xids"],
    ["CnzgzBvakaeafwbBebRpeloehabaEzebbdcbagabcbabtbDebFiiGjbBlcagBoCtBaedBtBqBjbbDubapbhbkccaqa",
     "bBdBdDklayBgjbeafveajadaxyhkfxbfrBpCgCbdasahjppehcbcvbgbadddaqanbbcobkaifebcvbgbbbbbbBfdba",
     "tcqibcbvbgbbbedasapbxalhcbcvbgbbbedaBebbcparabfdcbddbbabbdbdcdlwaCahbcbwbpdaBaccacbBeaehbc",
     "bwbjbedaBfbbbpbribcbBocaqafcicyffrdxbibacgCgBvbangCgbbabebxbabjbakacebavdBgaClhbBjBbeElBqu",
     "aqfeddadbhcemmarBlbafacBqbMubdcgbabdcBobdcBgbdcgbabdcobCebdcCoBlpqDhcfdXvcqbzfCwdkhrnsorom",
     "bcpBzBjaeaCpDkhBobafCrkBeBxBdcelBrezCcwjCaDeaDpBurhCcBdnbkBrBaBjBpckBjckfBqccBpdbfbbdafHjC",
     "mKrcfcBlcfchbabababBecCabgbadcbgddcfemfcbgEmanaqmDxaeacjbacfgabababpcdfeearBoDZbIugddbmBlb",
     "afacCdhaqwjgbgbgbgbgbgbgbgVecziheceeDhgcbDlbdfBqbDprBfBwpTsJTnCmBGUeCpBtcKidpkbuBuqBecDbBn",
     "icDycCocbbabhvpbcbdbwBdBzoBxCkfdabblBbkwzBchBuBcaqebjkebBoxcbhuwdadBxbadbcecabaycckhcmfcfc",
     "fjgbgbBqbngEkBdQNrmweBwMNcObcEbBmgmefabjbmbebabbbbbEdBhFigIjsClcCbBojEpabadababababEvBkzgz",
     "lCdcBedfcfcfccBjlbzbsbbbocnBiEsCrCaKhBcdBwBvBfnBdfBlkBdcBjehbeBqGbsBjeBjeBniBzmkbobgbbbkbo",
     "bgbbdBzmLyjvkhyfbBpbiCrfcabBrbbdacwkwjBeCnsbbkvkzCsCdgbCmapdbcbBcBqBcdBcBjhbBbBbCbkvksnrEg",
     "CuCdBynBynBjBmBbjwJqBpgbqcChBckaivBqrBuuBbwmCaCfbcanBsBgyBaBjBdacaiBidamBvodvabaBjrbytbClg",
     "babdbobjhBuBmhcbcvbgbbbedasameBejbacabBlbazabaBsCasducBeBvubbaHcBuBpdBkBvuaChBqnaCtBaBlgHd",
     "BrEmClBfhcachbbbxpabaDqhcBmqabaBcakBnhavalBttasCuHrBgBfibBkraBxBdEigbbbBlvazfbbbBfoaMpspab",
     "mbBhEuaDbBJlDyEgrHnDXkDspBPfrfzFXqfWkKDdBdCPuVwhBerDarBdsBvqdBfufsQqBsIdClEyCwfaComCmbbaBc",
     "JBziBVpBpjNFrdbgbbbLepaBdccaodiPfDKuEcfmdihjIWkDgbCsbbcacbcdblbabgbCmbdchbgbBbbdbebadgbNbc",
     "ybybBebybBebybBebybBebybhCSyBegfKbCjFqBskgqaMjBdsBrSqBbIuBdcaTbgbdbbbobHoChCphaBUidbBabbba",
     "cabjbdbabagaeabababcbbbacabababababbbacdbgbdbdbabjbqfcbebqGOaCLFbBgGDtgIncINpoLBkpXxDQwUvC",
     "FyHHyfGFf"])
]

end Paperwork.Unicode.Table
