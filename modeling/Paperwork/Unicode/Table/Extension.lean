/-!
# Script extensions

A character may be used with several scripts. Ranges are packed as gaps and lengths.
-/

namespace Paperwork.Unicode.Table

/-- Names and packed ranges of the characters used with each script. -/
def extensions (_ : Unit) : List (List String × List String) := [
  (["adlam", "adlm"],
    ["CIhaBgaJWoaFHhaGLRiCxejeb"]),
  (["ahom"],
    ["EBRcBacoew"]),
  (["anatolianhieroglyphs", "hluw"],
    ["ESSeWk"]),
  (["arabic", "arab"],
    ["CHcebIgbBhDcBvJgBebbfCwbBcIVnaFHhaCZRaEkqRccCbhaBgpEiebFeBMhBbEIeBeCpcCddDGLsdbBabbbacabjb",
     "dbabagaeabababcbbbacabababababbbacdbgbdbdbabjbqfcbebqCab"]),
  (["armenian", "armn"],
    ["BDwaVgBlcBxccDOZje"]),
  (["avestan", "avst"],
    ["HbaRFsbDFQcCbdg"]),
  (["balinese", "bali"],
    ["KFwCybBx"]),
  (["bamum", "bamu"],
    ["CLCqDjCVCqVw"]),
  (["bassavah", "bass"],
    ["FHKiBdcf"]),
  (["batak", "batk"],
    ["KNgBzid"]),
  (["bengali", "beng"],
    ["BAyaCMubrbBadbhcbcvbgbaddcicbcdiaebbecyHDhabacbbaiaiacaeaccCBAfa"]),
  (["bhaiksuki", "bhks"],
    ["EDOiibBsbnkBc"]),
  (["bopomofo", "bopo"],
    ["BBjabcnaqbRBxcejbmkdcagaHnajBqEiBfCZLtbKwe"]),
  (["brahmi", "brah"],
    ["DZAeCzeBjja"]),
  (["braille", "brai"],
    ["PDwJv"]),
  (["buginese", "bugi"],
    ["JWaBbcbCCKta"]),
  (["buhid", "buhd"],
    ["IUnbjt"]),
  (["canadianaboriginal", "cans"],
    ["HOyYpVoCrDTPqp"]),
  (["carian", "cari"],
    ["HbaLZmacaFGdaDCLqBw"]),
  (["caucasianalbanian", "aghb"],
    ["BDsaBsaBsaDTQnBzla"]),
  (["chakma", "cakm"],
    ["DTmjCKejDTFqCabr"]),
  (["cham"],
    ["CMJwCcjncjcd"]),
  (["cherokee", "cher"],
    ["BDocbagbwblbGFuDhcfCFJeDb"]),
  (["chorasmian", "chrs"],
    ["DYXcBb"]),
  (["common", "zyyy"],
    ["aCmBafBaBublbbbexaBfaRhcbjbadabibabffectEwagabaYnaIhaTwaCAuaPpdGDblcBgbBebjbbbgbkdkborBgCl",
     "BlbccfbBabqBpceZpwkvBJrJwYdcBfbEaTswbxcjbdbabzQcadananavaUjxBfaBxomdGfjfDrBfaJToClBHSqzDyc",
     "BLoaobBFHsjwuclbsbdFrabBfBafBafExgbgkePmmBzBsCYNbJpgQtGaElCiJlkBmcCjdqibhBdeCiIftmtmDiBbgF",
     "fDgbCsbbcacbcdblbabgbCmbdchbgbBbbdbebadgbNbcLfcBxHThCpCyCiBBeBreDvmocobobBkkGrCezbbnBreixf",
     "FyBLveqdmdEoeDqgleapleCdijgBniBdclebCkNbmncmdjfCdhockgihFqbDxBSUXbaBeDr"]),
  (["coptic", "copt", "qaac"],
    ["HbaWmadbbaEebEenPJkElfgKtaDCPcBb"]),
  (["cuneiform", "xsux"],
    ["EFBsBJlDyEgbelHn"]),
  (["cypriot", "cprt"],
    ["DTImceBsdiCOmfcabBrbbdaca"]),
  (["cyprominoan", "cpmn"],
    ["DTImbRQkDu"]),
  (["cyrillic", "cyrl"],
    ["BAyaCpcbababacafaJeLrIVokGeaCyaExaGApBfCpaBTLkDrBHEcbDHPgCjBha"]),
  (["deseret", "dsrt"],
    ["DUMaDb"]),
  (["devanagari", "deva"],
    ["BAyaCJrDecBqHIeBmbbBNaaBZFrjGkBfBREmj"]),
  (["divesakuru", "diak"],
    ["ECKugcachbbbBdbbcljj"]),
  (["dogra", "dogr"],
    ["DOmlCIDcjBQIoCh"]),
  (["duployan", "dupl"],
    ["HbaWtbbaybQIhaFUQlEcfmdihjch"]),
  (["egyptianhieroglyphs", "egyp"],
    ["ELDgBQrkFXq"]),
  (["elbasan", "elba"],
    ["HbaWraDTScBn"]),
  (["elymaic", "elym"],
    ["DYYyw"]),
  (["ethiopic", "ethi"],
    ["BEcaFRdCubdcgbabdcBobdcBgbdcgbabdcobCebdcCocBfdzJVawjgbgbgbgbgbgbgbgBVKcfcfcfjgbgEPYfgbdbb",
     "bo"]),
  (["garay", "gara"],
    ["CHoaoadaDVQuBldBcib"]),
  (["georgian", "geor"],
    ["HbaBVlaEFeBlbafacBvEJwBqccBJmaEUnBlbafaJza"]),
  (["glagolitic", "glag"],
    ["HbaWpabaOsacaJxaEIraFViaEKrDrSpaBTNfaEOTkgbqcgbbbe"]),
  (["gothic", "goth"],
    ["HbaWqbcaBoaDSYoBa"]),
  (["grantha", "gran"],
    ["DNtbrbYqnGKaabbBecdbBNaaDNRjdbhcbcvbgbbbebjcbcccagafgcgdeERrbba"]),
  (["greek", "grek"],
    ["HbaWmbcababakaBuacaBqhcdbaeababcbabtbCkopJNqeByeeeDgcMgvcfcBlcfchbabababBecCabobncfbsccbiD",
     "qaHsaCAJeaBGNiDaraDAXrCr"]),
  (["gujarati", "gujr"],
    ["DNtbrbKxcbibcbvbgbbbecjbcbccapdclhgCHNsj"]),
  (["gunjalagondi", "gong"],
    ["HbaDHkbEANifbbbBkbbbfhj"]),
  (["gurmukhi", "guru"],
    ["DNtbrbFzcbfebcvbgbbbbbbcabeebccdahdbahqCHSzj"]),
  (["gurungkhema", "gukh"],
    ["DOnaFADeCf"]),
  (["han", "hani"],
    ["HbaRIuzbDkmIfBapbcbmbmbmcagiHfaFspBgBljaBwBnCeBwplBzaDkykeDsBebJTnCmBFBjCQyhBFBcObcEbBHrbK",
     "weBQPobmbBLRarLRybFEsCLFbBgGDtgIncINpoLBkpXxDQwUvCFyHHyfGFf"]),
  (["hangul", "hang"],
    ["GLkJvLJlcejbmocgaHnaCbDpEjBeCnBeBTAnBcYtQNrmweBwOMzbKweCgBedfcfcfcc"]),
  (["hanifirohingya", "rohg"],
    ["CHoaoadaBgaFraDVHjBnij"]),
  (["hanunoo", "hano"],
    ["ITsw"]),
  (["hatran", "hatr"],
    ["DWIasbbfe"]),
  (["hebrew", "hebr"],
    ["BDvbYyCciBaefDOVwzbebabbbbbj"]),
  (["hiragana", "hira"],
    ["SErcejbmqfbaebdDhchDmbCZTgbKwekaBtbCOUrLasaBdcYMva"]),
  (["imperialaramaic", "armi"],
    ["DWBwvbi"]),
  (["inherited", "qaai", "zinh"],
    ["BEdacablbbdgcacpbbbrbebdCGmbGOxBeBDbCbbabeUebHmBfDFSqpqnBLnaCZQoBtcwUycrhcgBedBTLHiJf"]),
  (["inscriptionalpahlavi", "phli"],
    ["DXGqsfh"]),
  (["inscriptionalparthian", "prti"],
    ["DXFkvch"]),
  (["javanese", "java"],
    ["CMEyCzbkeb"]),
  (["kaithi", "kthi"],
    ["DOojNXxaBUFejBNMsCoka"]),
  (["kannada", "knda"],
    ["DNtbrbBEombcbwbjbecibcbdhbgbbdcjbcGAeabbgaxabaCASxf"]),
  (["katakana", "kana"],
    ["BDtaBdaQZtcejbmqfbaebDnddDrJgpIaBubDjCYWbbKwCkCOUadbgbbbaLbcByaod"]),
  (["kawi"],
    ["EERwqbBodBc"]),
  (["kayahli", "kali"],
    ["CMAaBv"]),
  (["kharoshthi", "khar"],
    ["DWTcdbbfhbcbBcccejhi"]),
  (["khitansmallscript", "kits"],
    ["FJIiaKGxSbBpa"]),
  (["khmer", "khmr"],
    ["IXkDpcjgjSsBf"]),
  (["khojki", "khoj"],
    ["EDijCHOijBOBmrbBu"]),
  (["khudawadi", "sind"],
    ["DOmbCIDmjBOIgCgfj"]),
  (["kiratrai", "krai"],
    ["FIIiCf"]),
  (["lao", "laoo"],
    ["FMvbbabebxbabwcebabgbjcd"]),
  (["latin", "latn"],
    ["CnzgzBvamacafwbBebRgdakabcbajabageBbobbbamacchbbbBmafaemKrbBVebCXkaEOiBlgBwfdfmbCrCfahJvLr",
     "aCnanaqmDfaCfbgaBbarBoECtBfPraBTUmhBaDxdCocbbabhvnLqaTtBqbibdBEDqgBOkzgzDCffbBpbiDDNpBegf"]),
  (["lepcha", "lepc"],
    ["KPsCddodc"]),
  (["limbu", "limb"],
    ["DOnaFXqBebleleadl"]),
  (["lineara", "lina"],
    ["DTItBsBVgLyjvkh"]),
  (["linearb", "linb"],
    ["DSYqlbzbsbbbocnBiEsfceBsdi"]),
  (["lisu"],
    ["BAyaqaRDkbBSFsBvBUMaa"]),
  (["lycian", "lyci"],
    ["MGoaDHQrBc"]),
  (["lydian", "lydi"],
    ["HbaRFtaDEXqzfa"]),
  (["mahajani", "mahj"],
    ["HbaDHklCIDcjBNUsBm"]),
  (["makasar", "maka"],
    ["EEQqy"]),
  (["malayalam", "mlym"],
    ["DNtbrbBJmmbcbBybcbfepczFVeaxaCASzc"]),
  (["mandaic", "mand"],
    ["CJoaTrBbca"]),
  (["manichaean", "mani"],
    ["CJoaDUQxBmel"]),
  (["marchen", "marc"],
    ["EDSqBfcvbn"]),
  (["masaramgondi", "gonm"],
    ["DOmbEAJqgbbbBrdabbbiij"]),
  (["medefaidrin", "medf"],
    ["FISeDm"]),
  (["meeteimayek", "mtei"],
    ["CMSmwHtBtcj"]),
  (["mendekikakui", "mend"],
    ["HCUyHocp"]),
  (["meroiticcursive", "merc"],
    ["DWPkxetcBt"]),
  (["meroitichieroglyphs", "mero"],
    ["MGraDKHmBf"]),
  (["miao", "plrd"],
    ["FIZoCweCehq"]),
  (["modi"],
    ["CLSajBPOwCqlj"]),
  (["mongolian", "mong"],
    ["JCizgDkhBqCWaaFZtbfdDJFwm"]),
  (["mro", "mroo"],
    ["FHEuBebjeb"]),
  (["multani", "mult"],
    ["DYkjDWAagbabdbobk"]),
  (["myanmar", "mymr"],
    ["GBoGdCFUcaGvBeDtBfBPAmt"]),
  (["nabataean", "nbat"],
    ["DWEiBeii"]),
  (["nagmundari", "nagm"],
    ["HBPoBp"]),
  (["nandinagari", "nand"],
    ["DOmbBImjGBhaiahaCASrfBQYshcBtck"]),
  (["newtailue", "talu"],
    ["JRcBrezgkdb"]),
  (["newa"],
    ["EANoDnbe"]),
  (["nko", "nkoo"],
    ["CHoaoadaQaCgccDOWsb"]),
  (["nushu", "nshu"],
    ["FJIfaYVmPf"]),
  (["nyiakengpuachuehmong", "hmnp"],
    ["HAEaBsdncjeb"]),
  (["ogham", "ogam"],
    ["INoBc"]),
  (["olchiki", "olck"],
    ["KSuBv"]),
  (["olonal", "onao"],
    ["DOmbGYKwBqea"]),
  (["oldhungarian", "hung"],
    ["MGoacaFGdapaDGEgBynByhf"]),
  (["olditalic", "ital"],
    ["DUCeBjjc"]),
  (["oldnortharabian", "narb"],
    ["DWYaBf"]),
  (["oldpermic", "perm"],
    ["HbaWmafckaOdaDSMuBq"]),
  (["oldpersian", "xpeo"],
    ["DUIiBjen"]),
  (["oldsogdian", "sogo"],
    ["DYQiBn"]),
  (["oldsoutharabian", "sarb"],
    ["DWWuBf"]),
  (["oldturkic", "orkh"],
    ["MGoaFGfaDFZzCu"]),
  (["olduyghur", "ougr"],
    ["CJoaDUSvaBSfz"]),
  (["oriya", "orya"],
    ["DNtbrbPvcbhcbcvbgbbbecicbcchcebbecrGPeaxa"]),
  (["osage", "osge"],
    ["BDpacagaCyaDTLvBjeBj"]),
  (["osmanya", "osma"],
    ["DUQyBdcj"]),
  (["pahawhhmong", "hmng"],
    ["FHMeCrkjbgbufs"]),
  (["palmyrene", "palm"],
    ["DWDcBf"]),
  (["paucinhau", "pauc"],
    ["EDCaCe"]),
  (["phagspa", "phag"],
    ["JCkbbaDCjaFZuaBTNxCd"]),
  (["phoenician", "phnx"],
    ["DWJgBbda"]),
  (["psalterpahlavi", "phlp"],
    ["CJoaDUYhrhdmg"]),
  (["rejang", "rjng"],
    ["CMBwBjla"]),
  (["runic", "runr"],
    ["IOuDk"]),
  (["samaritan", "samr"],
    ["DAuBtcoOJqa"]),
  (["saurashtra", "saur"],
    ["CLVcCril"]),
  (["sharada", "shrd"],
    ["DNtaHKfabacbcaCATrfcaBNWpDr"]),
  (["shavian", "shaw"],
    ["HbaDUIaBv"]),
  (["siddham", "sidd"],
    ["EBCiCbcBl"]),
  (["signwriting", "sgnw"],
    ["GWTkZbpebo"]),
  (["sinhala", "sinh"],
    ["DOmbBOlcbrdxbibacgdaefbabhgjccFRpaDOTqt"]),
  (["sogdian", "sogd"],
    ["CJoaDWIpBp"]),
  (["sorasompeng", "sora"],
    ["DZIeyhj"]),
  (["soyombo", "soyo"],
    ["ECXsDe"]),
  (["sundanese", "sund"],
    ["KKuClJwh"]),
  (["sunuwar", "sunu"],
    ["BDobbajacaBcadaECGkBhoj"]),
  (["sylotinagri", "sylo"],
    ["DOmbEyjCHWiBs"]),
  (["syriac", "syrc"],
    ["BDrbcbbavacchbbaBCdaobcaBgakkBaaFnnbChccKmkIEfaba"]),
  (["tagalog", "tglg"],
    ["ISmvjavb"]),
  (["tagbanwa", "tagb"],
    ["IUnbBpmbcbb"]),
  (["taile", "tale"],
    ["BDobfbdaEZzjDKwBdce"]),
  (["taitham", "lana"],
    ["JXgCkbBcckgjgn"]),
  (["taiviet", "tavt"],
    ["CMOuCoye"]),
  (["takri", "takr"],
    ["DOmbCIDmjBPTuCfgj"]),
  (["tamil", "taml"],
    ["DNtbrbUubbfdcbddbbabbdbdcdleedcbdcagaouGKdaCBBkaBOEfabaCdbETfBxna"]),
  (["tangsa", "tnsa"],
    ["FHGqDabj"]),
  (["tangut", "tang"],
    ["SEapTbaEQKmaBfJBziBDnTsi"]),
  (["telugu", "telu"],
    ["DNtbrbZqmbcbwbpcibcbdhbbccacdcjhiGFaaxa"]),
  (["thaana", "thaa"],
    ["CHoaobcaCmjKsBxDPGqaka"]),
  (["thai"],
    ["BAyaBaaBraBtaEClCffBb"]),
  (["tibetan", "tibt"],
    ["FRsCtbBjeBmbBjbobgebMEvd"]),
  (["tifinagh", "tfng"],
    ["BDqabacabaPZaCdhboa"]),
  (["tirhuta", "tirh"],
    ["DNtbrbHKmaCASzjBPAcCtij"]),
  (["todhri", "todr"],
    ["BDpacacajabaCwaDTWbBz"]),
  (["toto"],
    ["BAyaGZSlBe"]),
  (["tulutigalari", "tutg"],
    ["EXajGBqabaCASxfHfaBOJejbacabBlbjbacabdbjbbib"]),
  (["ugaritic", "ugar"],
    ["DUHcBdba"]),
  (["vai", "vaii"],
    ["CKMqLn"]),
  (["vithkuqi", "vith"],
    ["DVAekbobgbbbkbobgbb"]),
  (["wancho", "wcho"],
    ["HAVgCffa"]),
  (["warangciti", "wara"],
    ["ECHcDema"]),
  (["yezidi", "yezi"],
    ["CHoaoadaCmjDWAgBpbccb"]),
  (["yi", "yiii"],
    ["SErbfjchIpaBQBcBSudCcBIIce"]),
  (["zanabazarsquare", "zanb"],
    ["ECUqCt"])
]

end Paperwork.Unicode.Table
