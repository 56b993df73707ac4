/-!
# Characters of texts

Classes that texts follow outside of patterns, by a later version of the standard than the classes
of patterns. Ranges are packed as gaps and lengths.
-/

namespace Paperwork.Unicode.Table

/-- Letters and what counts as letters. -/
def alphabetic : List String :=
  ["CnzgzBvakaeafwbBebRpeloehabaDiaBdrbbcdbagabcbabtbDebFiiGjbBlcagBoBnnbabbbbbaiBaedBdkfCdbgoDx",
   "bheheckccaqBvnDwyBgjbeafxcstyhkfxbghaiBpkldggCxbpbceonsbhcbcvbgbadddhcbcbbaiaebbembkaecbfebc",
   "vbgbbbbbbeeebcbeahdbarflcbibcbvbgbbbedibcbbdapdvdecbhcbcvbgbbbedhcbcbjbebbenaqbbfdcbddbbabbd",
   "bdcdleedcbcdagaBombcbwbpdhbcbcibbcbbcdBcdbhbcbwbjbedhbcbcibfcbdncmmbcbBochbcbcbafdhewfbcbrdx",
   "bibacgifbabhsbnCffggaBzbbabebxbabsbccebagaodBgaClhbBjesepbBjCpCcbaceqClkdcBlbafacBqbMubdcgba",
   "bdcBobdcBgbdcgbabdcobCebdcCoBlpqDhcfdXvcqbzfCwdkhtlumtmmbcbbmBzcsoaeaCpDkhBqfCrkBebleixBdcel",
   "BrezCcBbeCkctByaxblcBxBzbobhBzBpcdkBrbkoCcwckBjckfBqccBpdbfbbdafHjtBhlKrcfcBlcfchbabababBecC",
   "abgbadcbgddcfemfcbgEmanaqmDxaeacjbadegabababdbkcdfeearBoBFhBzCRuIugddbmBlbafacCdhaqwjgbgbgbg",
   "bgbgbgbgbBfBvaSbcziheceeDhgcbDlbdfBqbDprBfBwpTsJTnCmBGUeCpBtcKidpkbuBufhdEiBnicDycDduubBgyBz",
   "mCpbaBsfdabckBgfBinBcdByblpaqpkebCcjnswdCqbabayccpcdlfcfcfjgbgbBqbngEsvQNrmweBwMNcObcEbBmgme",
   "flbmbebabbbbbEdBhNysClcCbBolEmebFeBkzgzlDkdfcfcfccBjlbzbsbbbocnBiEsCrCaKhBcdBwBvBfnBdfBqfBdc",
   "BjehbeBqGbsBjeBjeBniBzmkbobgbbbkbobgbbdBzmLyjvkhyfbBpbiCrfcabBrbbdacwkwjBeCnsbbkvkzgzBmCdgbC",
   "mdbbfhbcbBcBqBcdBcBjhbBbBbCbkvksnrEgCuCdBynBynBnBiBbdafwJqBpbbdbqfBycdBckaivBqrBuuBbwjCrBrek",
   "CejanyxByrdiBidajClbdjbkabaBjrbBhcagdCkgbabdbobjhCexdbhcbcvbgbbbedhcbcbdagafgBcjbacabBlbjbac",
   "abdbbdabaBsCnbcbducBeCncbbaHcCbcgzfBiCkbadaChCbcaCtBacnvgHdCeDzClBfhcachbbbBdbbcbcdDphcBtcfb",
   "abbBbBycjrCtfasCuDzhDkBgBfibBsbgbaBxBdcvbnCvgbbbBrdabbbcbacbyfbbbBkbbbdbaxBrKawjqbBodcEhaDbB",
   "JlDyEgrHnDXkDspBPfrfzFXqfWkKDdBuCPdVwhBerDarBdsBvqdBfufsQqBsIdClBgycyBsCweCehqCmbbamgjKXxBpB",
   "fDtEkMWrdbgbbbLepaBdccaodiPfDKuEcfmdihjeaIWfDgbCsbbcacbcdblbabgbCmbdchbgbBbbdbebadgbNbcybybB",
   "ebybBebybBebybBebybhCSyBegfIfgbqcgbbbefCjBhaEiBskgqaMjBdsBrSqBbIuBdcaHzBebvibIqgbdbbbobHoChC",
   "pdadaBUidbBabbbacabjbdbabagaeabababcbbbacabababababbbacdbgbdbdbabjbqfcbebqYezgzgzFMkCLFbBgGM",
   "ncIObcLBkpXxDQwUvCFyHHyfMOn"]

/-- Numbers of any kind. -/
def numeric : List String :=
  ["BwjEqbfaccCDljFejHqjPwjEojefEejEojEojcfEgmEljigDzjEaghsEfjDsjEojCstKijCsjBBrtBHxcJfjgjwjLojE",
   "ykGjjgjHajDijFejgjBOgadfgjHqByceBByChDavYgBdCBhaBDxaziocNfdFijBehboBgjBnoBRSajHgjMifFyjBmjHq",
   "jwjDijPqjBFMcjSzBsmCerbNdBaBkdBdaiaFeeHujBKghzgBniCxewfGebcpcBtCmiCabBecCxeEahyhBpgMsfBwjgjK",
   "sBeGcjBqdEigFeBdEyjCijFojhtJrjNejEojOkjDyjgtCylQesDpjZmjDiBcItjCsjCcjNujDyuBPbEgXAfjDMcjDijF",
   "ejbgUgjKcwNlcBJFljCEwtmtEeyBQrBxDNcjQgjTijJnjBBoiEyjBElCgbcbdCyBsboBLamEDfj"]

/-- Characters that have case. -/
def cased : List String :=
  ["CnzgzBvakaeafwbBebHmbdeHzcBihbBeeDsaBqdcbcdbagabcbabtbDebFiiGjbBljBoEFfBlbafacBqbdZwDhcfDFuk",
   "fBqccCmHjCmKrcfcBlcfchbabababBecCabgbadcbgddcfemfcbgEmanaqmDxaeacjbadegabababdbfeacdfeearBfd",
   "bBFlBzCRuIugddbmBlbafaBTWcBtsBdFcDxddbCyufbcBFpBqbngDbBEAigmeBNtzgzBTtDbDsBjeBjEmkbobgbbbkbo",
   "bgbbRjaccbBpbiBUzBynByDpvkvEFiClBGIqClBgycyBMIeDgbCsbbcacbcdblbabgbCmbdchbgbBbbdbebadgbNbcyb",
   "ybBebybBebybBebybBebybhCSyjbtgfKbCjDGkCpDAazgzgz"]

/-- Characters that are passed over when neighbours with case are looked for. -/
def caseIgnorable : List String :=
  ["BnagalaBjabaCtaeabaeacbTjHjebeajbbaJrgHzafaBxBsbabbbbbaBsalfkkbaBjakuqaDxhbjbdBhabaBeBaDnkCg",
   "keacayxBrcBsahbfiBpCfCdabaeheadgkbnapaCgaediaubBaacbCfaebebccdaBebdalbCfaeebbeaubwfbaCgacabd",
   "iahblbBeaCjamaByadaCdabcfcbdhblbBdaCgacagafbubBcbCfbediaubBdaCuahcbaDmacgliDuacijabgCvbBbaba",
   "baCdnbebbfkbBjjaDydbfbbcbzbecqdnacbgapaDqaXkcBKkcBdbBebBebCmbbgiackdafaBteBzaCnbBiaEocebjagc",
   "IlbcaCgabgbabachgjcaBnaiBtcludBwabebafaBoimbBgdcbbcCeabbdabcCghcbCmfDecbmbgeagadbByCknaBiDwR",
   "dabclcncncnbmeibkacaceBxebjbanaqmBzBgEJrbEjcEvapaDsBfBvaSbaBkddefaDpfDpcBQBuaBWcfKkaDudbjbaB",
   "cdDcboBhDaaxcDyddbiadaeazbfaFvbBarnaBmhzkBucBwacdcbravbCofcbcbmaiaBjalaBzabccbfbbaBbaobfbbaD",
   "wejcEracaeaBDZsaFrqWbpdampBiacaGnahagalaBjabaBvaBtbCpavcTtaIsaFteBNpfbBpbiWkcbbfdBoceaGjbWbd",
   "BmaBaebaMdbyaCafCskBxdEtaCcoBpacbkcBxdcbcaeakaBycBkebhCkambCaikdcaDrccabbgacaGbadhvbCfbdaBlg",
   "deCsfnababaobDhhccbaxaDgfbaebbbJedgbbbBbbDhhcabbEcabacfbaDxabacdbeJzibbJwbbaeaFodcbeaBgjBofc",
   "diajfccBumbbHqabcbaHtgbfbaDevcgbbbbEsfdabbbgbaCubdabaCnaKvblbCaefabaxaHXdqgoQYyldcDSaeChgjdT",
   "ocBobSoaClqCmbbbnbYGadbgbbEUgbbdGYuBtcwUycjpcgBedFscCYdCceBxiaoaweboCAigbqcgbbbefCjBhaGenOea",
   "CjdTneJubJjacahbfajaRwgEfhEBfeBSXXpaBeDrEyJf"]

/-- From 128 on: controls, format characters, blanks, what is not assigned, what can be ignored, and
what joins with the character before it, the two halfwidth voicing marks apart. -/
def unprinted : List String :=
  ["EyBgmaWwEhibgdhabauaIqgGkaBmbBybdBtbabbbbbiBbdgqkkbaBuuqaDxhbfcbbdBgbbaBeBcDlkbnBrihcydbibcb",
   "gpazebaleBgpBqCeCdabaeheadgkbBdacaibcbwahabcecbacfcbcabmcaddyebagdcbwahacacacddxeabgkbdablba",
   "jadawahacafcehbaccbocdmgbhcaibcbwahacafcbbbfcbcocaddskbagcdaeccabaccccdcmebaccdadcbuvfdaiada",
   "xaqcbcesdacbcdkgkaladaxakafccbbacwdacdkadnladaBpbbacedadacddakdBabcascyajabbhicfhgkbdlBwacki",
   "hnBkcabafayabakacibbfabikbeBfybBbababaoaBkrbebbfBwiaganBkBtdbfbbcbzbecqdnacbgapaBoabebbFnbIy",
   "aebhabaebBpaebBhaebhabaebpaCfaebCpeBdcBafDibgbYqaBccDlgsmtccisnnadoCabbgiackjckfkflekfDlgfbB",
   "iabeCsjBfdebddcaggbcBqbfkBsdBaflcCfbccCeabibachgmkfkfoDhBwjeciaBdimbBgdcfCeabbdabmBwhcepcCke",
   "BrblkbmbgeagadbbeHkClKsbgbBmbgbiabababaBfbCbapaobgatbdajqyhBvqcbBbancBiCjFkdZqvluCRsbOncceBt",
   "abebbCegcoxihahahahahahahahBgDqBhBaaDllIgzqaBpfqaDidDxeBraBzaBqaDiiBwaBRIrcCdiNktBvdbjBgbDcb",
   "ghIntradaeazbfdkfCehCqjmxnaBmhzkblBefBwacdcbcanaldhazaBpfcbckdaiabbkbBgaBzabccbfbbabxrbikgbg",
   "bgihahaCidEnacaeckfQNslxdBxMNbOcbEcBlhlfebayafabacacaZaBfqpkvBjataedfaFfdGdaBecgbgbgbdchahmc",
   "bmaBaatacapboBhEteddBtcDkancbBuBtFaBdcBxpBbdBkiBeeBmjBeaBldoBpGcbkfBkdBkdBohCakmapahacalapah",
   "accCalLziwjixgaBqajCqgbbaBsaccbbxaCuhjBvtaceBhcBbeBbBlCedubBvoeadaBdjjgjgCmBfBlfmiCccBdbBbeB",
   "agelhDbCvCcBzmBzgBqlkfBmhyhcHzBfaBqcbbcpghjBmBohwkjvsdeBlBctxibaCcohdBeacbblBxdcbcaenzgkiBke",
   "bishBjadkCaibaidcaqauksaBcccdgacCkhabaeapalfBvadmkhcaibcbwahacafcbabaebcbccblhBbkabbbaBmabac",
   "obaccbadacBmCehccbavabadBdBwacfbacabbbbehkGjBvacfebbbBbBjBzhcabbekkfnsBrabachcfkfuBbBbcbacdb",
   "ixHcBvibbbDvDflibbbiacayafacfeadikCribBqheaeBabjBofcdiibfccBumbbjmCvgkDibcbabDjBinkfjaBmnbag",
   "jBdcBgybgbbbCwhacaBmubikfgacaBldcababgkfBsdkJltbeipaBkhccxDhboBymBJnDxEhafkHoDXjDvmBPgqgyFXr",
   "eWlKDcBeldckCOrVxgBfakdDdakfBegbjBwgpjkahavetQpCgHpDnezbzBrCxeCeknClenfiKXyBoBgDsElMWqeahaca",
   "LfobBcdbbnehPgDKtEdencjgkbbbbFVjJtcQufxorDqEmChJmjBnbCiedvcgBedCjuCocbErululDjizFeDhaCtacbbb",
   "cbeamabahaCnaebiahaBcaeafabchaNcbLgbVqCceBxiaoahBRvBffgKaCkFpBtjhbkdcMhBerBsdkebRvBcdkIfBebl",
   "dbHjBfadacahbficIphaeacapaHpbjBvCqgbdkdcBEeCqCxCjHleaBbacabbbakaeababfbdbababadacabbbabababa",
   "bacabbeahaeaeabakaredafarBzcKjBsdDwlpbpapaBljGsCdBdmBsdjgcngFxBLxcrcncIkfmdbomdCehkfBohBebmd",
   "cnjBmNghobnclcCfabdqbmdkgFraDzBNoCLFcBfGMobIOcbLBloXyDQvUwCFxHHzeMOoBZLJx"]

end Paperwork.Unicode.Table
