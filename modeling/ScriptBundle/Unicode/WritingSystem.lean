import ScriptBundle.Unicode.CodeSet

/-!
# Writing systems

The property `Script` of the Unicode character database: which writing system
a code point is used with.
-/

namespace ScriptBundle.Unicode

/-- The writing system of all code points as labelled runs. -/
def writingSystemRuns : List String :=
  ["Zyyy41 Latn1a Zyyy6 Latn1a Zyyy2f Latn1 Zyyyf Latn1 Zyyy5 Latn17 Zyyy1 Latn1f Zyyy1",
    "Latn1c1 Zyyy27 Latn5 Zyyy5 Bopo2 Zyyy14 Zinh70 Grek4 Zyyy1 Grek3 Zzzz2 Grek4 Zyyy1",
    "Grek1 Zzzz4 Grek1 Zyyy1 Grek1 Zyyy1 Grek3 Zzzz1 Grek1 Zzzz1 Grek14 Zzzz1 Grek3f",
    "Copte Grek10 Cyrl85 Zinh2 Cyrla9 Zzzz1 Armn26 Zzzz2 Armn32 Zzzz2 Armn3 Zzzz1 Hebr37",
    "Zzzz8 Hebr1b Zzzz4 Hebr6 Zzzzb Arab5 Zyyy1 Arab6 Zyyy1 Arabe Zyyy1 Arab3 Zyyy1",
    "Arab20 Zyyy1 Araba Zinhb Arab1a Zinh1 Arab6c Zyyy1 Arab22 Syrce Zzzz1 Syrc3c Zzzz2",
    "Syrc3 Arab30 Thaa32 Zzzze Nkoo3b Zzzz2 Nkoo3 Samr2e Zzzz2 Samrf Zzzz1 Mand1c Zzzz2",
    "Mand1 Zzzz1 Syrcb Zzzz5 Arab1f Zzzz1 Arab2 Zzzz6 Arab4a Zyyy1 Arab1d Deva51 Zinh4",
    "Devaf Zyyy2 Deva1a Beng4 Zzzz1 Beng8 Zzzz2 Beng2 Zzzz2 Beng16 Zzzz1 Beng7 Zzzz1",
    "Beng1 Zzzz3 Beng4 Zzzz2 Beng9 Zzzz2 Beng2 Zzzz2 Beng4 Zzzz8 Beng1 Zzzz4 Beng2 Zzzz1",
    "Beng5 Zzzz2 Beng19 Zzzz2 Guru3 Zzzz1 Guru6 Zzzz4 Guru2 Zzzz2 Guru16 Zzzz1 Guru7",
    "Zzzz1 Guru2 Zzzz1 Guru2 Zzzz1 Guru2 Zzzz2 Guru1 Zzzz1 Guru5 Zzzz4 Guru2 Zzzz2 Guru3",
    "Zzzz3 Guru1 Zzzz7 Guru4 Zzzz1 Guru1 Zzzz7 Guru11 Zzzza Gujr3 Zzzz1 Gujr9 Zzzz1",
    "Gujr3 Zzzz1 Gujr16 Zzzz1 Gujr7 Zzzz1 Gujr2 Zzzz1 Gujr5 Zzzz2 Gujra Zzzz1 Gujr3",
    "Zzzz1 Gujr3 Zzzz2 Gujr1 Zzzzf Gujr4 Zzzz2 Gujrc Zzzz7 Gujr7 Zzzz1 Orya3 Zzzz1 Orya8",
    "Zzzz2 Orya2 Zzzz2 Orya16 Zzzz1 Orya7 Zzzz1 Orya2 Zzzz1 Orya5 Zzzz2 Orya9 Zzzz2",
    "Orya2 Zzzz2 Orya3 Zzzz7 Orya3 Zzzz4 Orya2 Zzzz1 Orya5 Zzzz2 Orya12 Zzzza Taml2",
    "Zzzz1 Taml6 Zzzz3 Taml3 Zzzz1 Taml4 Zzzz3 Taml2 Zzzz1 Taml1 Zzzz1 Taml2 Zzzz3 Taml2",
    "Zzzz3 Taml3 Zzzz3 Tamlc Zzzz4 Taml5 Zzzz3 Taml3 Zzzz1 Taml4 Zzzz2 Taml1 Zzzz6 Taml1",
    "Zzzze Taml15 Zzzz5 Telud Zzzz1 Telu3 Zzzz1 Telu17 Zzzz1 Telu10 Zzzz2 Telu9 Zzzz1",
    "Telu3 Zzzz1 Telu4 Zzzz7 Telu2 Zzzz1 Telu3 Zzzz2 Telu1 Zzzz2 Telu4 Zzzz2 Telua Zzzz7",
    "Telu9 Kndad Zzzz1 Knda3 Zzzz1 Knda17 Zzzz1 Kndaa Zzzz1 Knda5 Zzzz2 Knda9 Zzzz1",
    "Knda3 Zzzz1 Knda4 Zzzz7 Knda2 Zzzz6 Knda2 Zzzz1 Knda4 Zzzz2 Kndaa Zzzz1 Knda3 Zzzzc",
    "Mlymd Zzzz1 Mlym3 Zzzz1 Mlym33 Zzzz1 Mlym3 Zzzz1 Mlym6 Zzzz4 Mlym10 Zzzz2 Mlym1a",
    "Zzzz1 Sinh3 Zzzz1 Sinh12 Zzzz3 Sinh18 Zzzz1 Sinh9 Zzzz1 Sinh1 Zzzz2 Sinh7 Zzzz3",
    "Sinh1 Zzzz4 Sinh6 Zzzz1 Sinh1 Zzzz1 Sinh8 Zzzz6 Sinha Zzzz2 Sinh3 Zzzzc Thai3a",
    "Zzzz4 Zyyy1 Thai1c Zzzz25 Laoo2 Zzzz1 Laoo1 Zzzz1 Laoo5 Zzzz1 Laoo18 Zzzz1 Laoo1",
    "Zzzz1 Laoo17 Zzzz2 Laoo5 Zzzz1 Laoo1 Zzzz1 Laoo7 Zzzz1 Laooa Zzzz2 Laoo4 Zzzz20",
    "Tibt48 Zzzz1 Tibt24 Zzzz4 Tibt27 Zzzz1 Tibt24 Zzzz1 Tibtf Zzzz1 Tibt7 Zyyy4 Tibt2",
    "Zzzz25 Mymra0 Geor26 Zzzz1 Geor1 Zzzz5 Geor1 Zzzz2 Geor2b Zyyy1 Geor4 Hang100",
    "Ethi49 Zzzz1 Ethi4 Zzzz2 Ethi7 Zzzz1 Ethi1 Zzzz1 Ethi4 Zzzz2 Ethi29 Zzzz1 Ethi4",
    "Zzzz2 Ethi21 Zzzz1 Ethi4 Zzzz2 Ethi7 Zzzz1 Ethi1 Zzzz1 Ethi4 Zzzz2 Ethif Zzzz1",
    "Ethi39 Zzzz1 Ethi4 Zzzz2 Ethi43 Zzzz2 Ethi20 Zzzz3 Ethi1a Zzzz6 Cher56 Zzzz2 Cher6",
    "Zzzz2 Cans280 Ogam1d Zzzz3 Runr4b Zyyy3 Runrb Zzzz7 Tglg16 Zzzz9 Tglg1 Hano15 Zyyy2",
    "Zzzz9 Buhd14 Zzzzc Tagbd Zzzz1 Tagb3 Zzzz1 Tagb2 Zzzzc Khmr5e Zzzz2 Khmra Zzzz6",
    "Khmra Zzzz6 Mong2 Zyyy2 Mong1 Zyyy1 Mong14 Zzzz6 Mong59 Zzzz7 Mong2b Zzzz5 Cans46",
    "Zzzza Limb1f Zzzz1 Limbc Zzzz4 Limbc Zzzz4 Limb1 Zzzz3 Limbc Tale1e Zzzz2 Tale5",
    "Zzzzb Talu2c Zzzz4 Talu1a Zzzz6 Talub Zzzz3 Talu2 Khmr20 Bugi1c Zzzz2 Bugi2 Lana3f",
    "Zzzz1 Lana1d Zzzz2 Lanab Zzzz6 Lanaa Zzzz6 Lanae Zzzz2 Zinh1f Zzzz31 Bali4d Zzzz3",
    "Bali2f Zzzz1 Sund40 Batk34 Zzzz8 Batk4 Lepc38 Zzzz3 Lepcf Zzzz3 Lepc3 Olck30 Cyrl9",
    "Zzzz7 Geor2b Zzzz2 Geor3 Sund8 Zzzz8 Zinh3 Zyyy1 Zinhd Zyyy1 Zinh7 Zyyy4 Zinh1",
    "Zyyy6 Zinh1 Zyyy3 Zinh2 Zyyy1 Zzzz5 Latn26 Grek5 Cyrl1 Latn31 Grek5 Latn4 Grek5",
    "Latnd Cyrl1 Latn46 Grek1 Zinh40 Latn100 Grek16 Zzzz2 Grek6 Zzzz2 Grek26 Zzzz2 Grek6",
    "Zzzz2 Grek8 Zzzz1 Grek1 Zzzz1 Grek1 Zzzz1 Grek1 Zzzz1 Grek1f Zzzz2 Grek35 Zzzz1",
    "Grekf Zzzz1 Greke Zzzz2 Grek6 Zzzz1 Grek13 Zzzz2 Grek3 Zzzz1 Grek9 Zzzz1 Zyyyc",
    "Zinh2 Zyyy57 Zzzz1 Zyyyb Latn1 Zzzz2 Zyyyb Latn1 Zyyyf Zzzz1 Latnd Zzzz3 Zyyy21",
    "Zzzzf Zinh21 Zzzzf Zyyy26 Grek1 Zyyy3 Latn2 Zyyy6 Latn1 Zyyy1b Latn1 Zyyy11 Latn29",
    "Zyyy3 Zzzz4 Zyyy297 Zzzz19 Zyyyb Zzzz15 Zyyy3a0 Brai100 Zyyy274 Zzzz2 Zyyy20 Zzzz1",
    "Zyyy69 Glag60 Latn20 Copt74 Zzzz5 Copt7 Geor26 Zzzz1 Geor1 Zzzz5 Geor1 Zzzz2 Tfng38",
    "Zzzz7 Tfng2 Zzzze Tfng1 Ethi17 Zzzz9 Ethi7 Zzzz1 Ethi7 Zzzz1 Ethi7 Zzzz1 Ethi7",
    "Zzzz1 Ethi7 Zzzz1 Ethi7 Zzzz1 Ethi7 Zzzz1 Ethi7 Zzzz1 Cyrl20 Zyyy5e Zzzz22 Hani1a",
    "Zzzz1 Hani59 Zzzzc Hanid6 Zzzz1a Zyyyc Zzzz4 Zyyy5 Hani1 Zyyy1 Hani1 Zyyy19 Hani9",
    "Zinh4 Hang2 Zyyy8 Hani4 Zyyy4 Zzzz1 Hira56 Zzzz2 Zinh2 Zyyy2 Hira3 Zyyy1 Kana5a",
    "Zyyy2 Kana3 Zzzz5 Bopo2b Zzzz1 Hang5e Zzzz1 Zyyy10 Bopo20 Zyyy24 Zzzzc Kana10",
    "Hang1f Zzzz1 Zyyy40 Hang1f Zyyy51 Kana2f Zyyy1 Kana58 Zyyya8 Hani19c0 Zyyy40",
    "Hani5200 Yiii48d Zzzz3 Yiii37 Zzzz9 Lisu30 Vaii12c Zzzz14 Cyrl60 Bamu58 Zzzz8",
    "Zyyy22 Latn66 Zyyy3 Latn40 Zzzz5 Latn2 Zzzz1 Latn1 Zzzz1 Latn5 Zzzz18 Latne Sylo2d",
    "Zzzz3 Zyyya Zzzz6 Phag38 Zzzz8 Saur46 Zzzz8 Saurc Zzzz6 Deva20 Kali2e Zyyy1 Kali1",
    "Rjng24 Zzzzb Rjng1 Hang1d Zzzz3 Java4e Zzzz1 Zyyy1 Javaa Zzzz4 Java2 Mymr1f Zzzz1",
    "Cham37 Zzzz9 Chame Zzzz2 Chama Zzzz2 Cham4 Mymr20 Tavt43 Zzzz18 Tavt5 Mtei17 Zzzza",
    "Ethi6 Zzzz2 Ethi6 Zzzz2 Ethi6 Zzzz9 Ethi7 Zzzz1 Ethi7 Zzzz1 Latn2b Zyyy1 Latn9",
    "Grek1 Latn4 Zyyy2 Zzzz4 Cher50 Mtei2e Zzzz2 Mteia Zzzz6 Hang2ba4 Zzzzc Hang17 Zzzz4",
    "Hang31 Zzzz2104 Hani16e Zzzz2 Hani6a Zzzz26 Latn7 Zzzzc Armn5 Zzzz5 Hebr1a Zzzz1",
    "Hebr5 Zzzz1 Hebr1 Zzzz1 Hebr2 Zzzz1 Hebr2 Zzzz1 Hebra Arab73 Zzzz10 Arab16b Zyyy2",
    "Arab50 Zzzz2 Arab36 Zzzz7 Arab1 Zzzz20 Arab10 Zinh10 Zyyya Zzzz6 Zinhe Cyrl2 Zyyy23",
    "Zzzz1 Zyyy13 Zzzz1 Zyyy4 Zzzz4 Arab5 Zzzz1 Arab87 Zzzz2 Zyyy1 Zzzz1 Zyyy20 Latn1a",
    "Zyyy6 Latn1a Zyyyb Kanaa Zyyy1 Kana2d Zyyy2 Hang1f Zzzz3 Hang6 Zzzz2 Hang6 Zzzz2",
    "Hang6 Zzzz2 Hang3 Zzzz3 Zyyy7 Zzzz1 Zyyy7 Zzzza Zyyy5 Zzzz2 Linbc Zzzz1 Linb1a",
    "Zzzz1 Linb13 Zzzz1 Linb2 Zzzz1 Linbf Zzzz2 Linbe Zzzz22 Linb7b Zzzz5 Zyyy3 Zzzz4",
    "Zyyy2d Zzzz3 Zyyy9 Grek4f Zzzz1 Zyyyd Zzzz3 Grek1 Zzzz2f Zyyy2d Zinh1 Zzzz82 Lyci1d",
    "Zzzz3 Cari31 Zzzzf Zinh1 Zyyy1b Zzzz4 Ital24 Zzzz9 Ital3 Goth1b Zzzz5 Perm2b Zzzz5",
    "Ugar1e Zzzz1 Ugar1 Xpeo24 Zzzz4 Xpeoe Zzzz2a Dsrt50 Shaw30 Osma1e Zzzz2 Osmaa Zzzz6",
    "Osge24 Zzzz4 Osge24 Zzzz4 Elba28 Zzzz8 Aghb34 Zzzzb Aghb1 Vithb Zzzz1 Vithf Zzzz1",
    "Vith7 Zzzz1 Vith2 Zzzz1 Vithb Zzzz1 Vithf Zzzz1 Vith7 Zzzz1 Vith2 Zzzz43 Lina137",
    "Zzzz9 Lina16 Zzzza Lina8 Zzzz18 Latn6 Zzzz1 Latn2a Zzzz1 Latn9 Zzzz45 Cprt6 Zzzz2",
    "Cprt1 Zzzz1 Cprt2c Zzzz1 Cprt2 Zzzz3 Cprt1 Zzzz2 Cprt1 Armi16 Zzzz1 Armi9 Palm20",
    "Nbat1f Zzzz8 Nbat9 Zzzz30 Hatr13 Zzzz1 Hatr2 Zzzz5 Hatr5 Phnx1c Zzzz3 Phnx1 Lydi1a",
    "Zzzz5 Lydi1 Zzzz40 Mero20 Merc18 Zzzz4 Merc14 Zzzz2 Merc2e Khar4 Zzzz1 Khar2 Zzzz5",
    "Khar8 Zzzz1 Khar3 Zzzz1 Khar1d Zzzz2 Khar3 Zzzz4 Khara Zzzz7 Khar9 Zzzz7 Sarb20",
    "Narb20 Zzzz20 Mani27 Zzzz4 Manic Zzzz9 Avst36 Zzzz3 Avst7 Prti16 Zzzz2 Prti8 Phli13",
    "Zzzz5 Phli8 Phlp12 Zzzz7 Phlp4 Zzzzc Phlp7 Zzzz50 Orkh49 Zzzz37 Hung33 Zzzzd Hung33",
    "Zzzz7 Hung6 Rohg28 Zzzz8 Rohga Zzzz126 Arab1f Zzzz1 Yezi2a Zzzz1 Yezi3 Zzzz2 Yezi2",
    "Zzzz4b Arab3 Sogo28 Zzzz8 Sogd2a Zzzz16 Ougr1a Zzzz26 Chrs1c Zzzz14 Elym17 Zzzz9",
    "Brah4e Zzzz4 Brah24 Zzzz9 Brah1 Kthi43 Zzzza Kthi1 Zzzz2 Sora19 Zzzz7 Soraa Zzzz6",
    "Cakm35 Zzzz1 Cakm12 Zzzz8 Mahj27 Zzzz9 Shrd60 Zzzz1 Sinh14 Zzzzb Khoj12 Zzzz1",
    "Khoj2f Zzzz3e Mult7 Zzzz1 Mult1 Zzzz1 Mult4 Zzzz1 Multf Zzzz1 Multb Zzzz6 Sind3b",
    "Zzzz5 Sinda Zzzz6 Gran4 Zzzz1 Gran8 Zzzz2 Gran2 Zzzz2 Gran16 Zzzz1 Gran7 Zzzz1",
    "Gran2 Zzzz1 Gran5 Zzzz1 Zinh1 Gran9 Zzzz2 Gran2 Zzzz2 Gran3 Zzzz2 Gran1 Zzzz6 Gran1",
    "Zzzz5 Gran7 Zzzz2 Gran7 Zzzz3 Gran5 Zzzz8b Newa5c Zzzz1 Newa5 Zzzz1e Tirh48 Zzzz8",
    "Tirha Zzzza6 Sidd36 Zzzz2 Sidd26 Zzzz22 Modi45 Zzzzb Modia Zzzz6 Mongd Zzzz13",
    "Takr3a Zzzz6 Takra Zzzz36 Ahom1b Zzzz2 Ahomf Zzzz4 Ahom17 Zzzzb9 Dogr3c Zzzz64",
    "Wara53 Zzzzc Wara1 Diak7 Zzzz2 Diak1 Zzzz2 Diak8 Zzzz1 Diak2 Zzzz1 Diak1e Zzzz1",
    "Diak2 Zzzz2 Diakc Zzzz9 Diaka Zzzz46 Nand8 Zzzz2 Nand2e Zzzz2 Nandb Zzzz1b Zanb48",
    "Zzzz8 Soyo53 Zzzzd Cans10 Pauc39 Zzzz7 Devaa Zzzzf6 Bhks9 Zzzz1 Bhks2d Zzzz1 Bhkse",
    "Zzzza Bhks1d Zzzz3 Marc20 Zzzz2 Marc16 Zzzz1 Marce Zzzz49 Gonm7 Zzzz1 Gonm2 Zzzz1",
    "Gonm2c Zzzz3 Gonm1 Zzzz1 Gonm2 Zzzz1 Gonm9 Zzzz8 Gonma Zzzz6 Gong6 Zzzz1 Gong2",
    "Zzzz1 Gong25 Zzzz1 Gong2 Zzzz1 Gong6 Zzzz7 Gonga Zzzz136 Maka19 Zzzz7 Kawi11 Zzzz1",
    "Kawi29 Zzzz3 Kawi1c Zzzz56 Lisu1 Zzzzf Taml32 Zzzzd Taml1 Xsux39a Zzzz66 Xsux6f",
    "Zzzz1 Xsux5 Zzzzb Xsuxc4 Zzzza4c Cpmn63 Zzzzd Egyp456 Zzzzfaa Hluw247 Zzzz21b9",
    "Bamu239 Zzzz7 Mroo1f Zzzz1 Mrooa Zzzz4 Mroo2 Tnsa4f Zzzz1 Tnsaa Zzzz6 Bass1e Zzzz2",
    "Bass6 Zzzza Hmng46 Zzzza Hmnga Zzzz1 Hmng7 Zzzz1 Hmng15 Zzzz5 Hmng13 Zzzz2b0 Medf5b",
    "Zzzz65 Plrd4b Zzzz4 Plrd39 Zzzz7 Plrd11 Zzzz40 Tang1 Nshu1 Hani2 Kits1 Zzzzb Hani2",
    "Zzzze Tang17f8 Zzzz8 Tang300 Kits1d6 Zzzz2a Tang9 Zzzz22e7 Kana4 Zzzz1 Kana7 Zzzz1",
    "Kana2 Zzzz1 Kana1 Hira11f Kana3 Zzzzf Hira1 Zzzz1d Hira3 Zzzz2 Kana1 Zzzze Kana4",
    "Zzzz8 Nshu18c Zzzz904 Dupl6b Zzzz5 Dupld Zzzz3 Dupl9 Zzzz7 Dupla Zzzz2 Dupl4 Zyyy4",
    "Zzzz125c Zinh2e Zzzz2 Zinh17 Zzzz9 Zyyy74 Zzzz3c Zyyyf6 Zzzza Zyyy27 Zzzz2 Zyyy3e",
    "Zinh3 Zyyy11 Zinh8 Zyyy2 Zinh7 Zyyy1e Zinh4 Zyyy3d Zzzz15 Grek46 Zzzz7a Zyyy14",
    "Zzzzc Zyyy14 Zzzzc Zyyy57 Zzzz9 Zyyy19 Zzzz87 Zyyy55 Zzzz1 Zyyy47 Zzzz1 Zyyy2 Zzzz2",
    "Zyyy1 Zzzz2 Zyyy2 Zzzz2 Zyyy4 Zzzz1 Zyyyc Zzzz1 Zyyy1 Zzzz1 Zyyy7 Zzzz1 Zyyy41",
    "Zzzz1 Zyyy4 Zzzz2 Zyyy8 Zzzz1 Zyyy7 Zzzz1 Zyyy1c Zzzz1 Zyyy4 Zzzz1 Zyyy5 Zzzz1",
    "Zyyy1 Zzzz3 Zyyy7 Zzzz1 Zyyy154 Zzzz2 Zyyy124 Zzzz2 Zyyy32 Sgnw28c Zzzzf Sgnw5",
    "Zzzz1 Sgnwf Zzzz450 Latn1f Zzzz6 Latn6 Zzzzd5 Glag7 Zzzz1 Glag11 Zzzz2 Glag7 Zzzz1",
    "Glag2 Zzzz1 Glag5 Zzzz5 Cyrl3e Zzzz21 Cyrl1 Zzzz70 Hmnp2d Zzzz3 Hmnpe Zzzz2 Hmnpa",
    "Zzzz4 Hmnp2 Zzzz140 Toto1f Zzzz11 Wcho3a Zzzz5 Wcho1 Zzzz1d0 Nagm2a Zzzz2e6 Ethi7",
    "Zzzz1 Ethi4 Zzzz1 Ethi2 Zzzz1 Ethif Zzzz1 Mendc5 Zzzz2 Mend10 Zzzz29 Adlm4c Zzzz4",
    "Adlma Zzzz4 Adlm2 Zzzz311 Zyyy44 Zzzz4c Zyyy3d Zzzzc2 Arab4 Zzzz1 Arab1b Zzzz1",
    "Arab2 Zzzz1 Arab1 Zzzz2 Arab1 Zzzz1 Araba Zzzz1 Arab4 Zzzz1 Arab1 Zzzz1 Arab1 Zzzz6",
    "Arab1 Zzzz4 Arab1 Zzzz1 Arab1 Zzzz1 Arab1 Zzzz1 Arab3 Zzzz1 Arab2 Zzzz1 Arab1 Zzzz2",
    "Arab1 Zzzz1 Arab1 Zzzz1 Arab1 Zzzz1 Arab1 Zzzz1 Arab1 Zzzz1 Arab2 Zzzz1 Arab1 Zzzz2",
    "Arab4 Zzzz1 Arab7 Zzzz1 Arab4 Zzzz1 Arab4 Zzzz1 Arab1 Zzzz1 Araba Zzzz1 Arab11",
    "Zzzz5 Arab3 Zzzz1 Arab5 Zzzz1 Arab11 Zzzz34 Arab2 Zzzz10e Zyyy2c Zzzz4 Zyyy64 Zzzzc",
    "Zyyyf Zzzz2 Zyyyf Zzzz1 Zyyyf Zzzz1 Zyyy25 Zzzza Zyyyae Zzzz38 Zyyy1a Hira1 Zyyy2",
    "Zzzzd Zyyy2c Zzzz4 Zyyy9 Zzzz7 Zyyy2 Zzzze Zyyy6 Zzzz9a Zyyy3d8 Zzzz4 Zyyy11 Zzzz3",
    "Zyyyd Zzzz3 Zyyy77 Zzzz4 Zyyy5f Zzzz6 Zyyyc Zzzz4 Zyyy1 Zzzzf Zyyyc Zzzz4 Zyyy38",
    "Zzzz8 Zyyya Zzzz6 Zyyy28 Zzzz8 Zyyy1e Zzzz2 Zyyy2 Zzzz4e Zyyy154 Zzzzc Zyyye Zzzz2",
    "Zyyyd Zzzz3 Zyyy9 Zzzz7 Zyyy2e Zzzz1 Zyyy7 Zzzz8 Zyyye Zzzz4 Zyyy9 Zzzz7 Zyyy9",
    "Zzzz7 Zyyy93 Zzzz1 Zyyy37 Zzzz25 Zyyya Zzzz406 Hania6e0 Zzzz20 Hani103a Zzzz6",
    "Hanide Zzzz2 Hani1682 Zzzze Hani1d31 Zzzzc1f Hani21e Zzzz5e2 Hani134b Zzzz5",
    "Hani1060 Zzzzadc51 Zyyy1 Zzzz1e Zyyy60 Zzzz80 Zinhf0 Zzzz2fe10"]

def writingSystemRanges : List (List Char × Nat × Nat) :=
  CodeSet.labelledRanges 4 0 (CodeSet.wordsOf writingSystemRuns)

/-- The four-letter label and the name of every writing system, each pair
separated by a colon. -/
def writingSystemNameList : List String :=
  ["Adlm:Adlam Aghb:Caucasian_Albanian Ahom:Ahom Arab:Arabic Armi:Imperial_Aramaic",
    "Armn:Armenian Avst:Avestan Bali:Balinese Bamu:Bamum Bass:Bassa_Vah Batk:Batak",
    "Beng:Bengali Bhks:Bhaiksuki Bopo:Bopomofo Brah:Brahmi Brai:Braille Bugi:Buginese",
    "Buhd:Buhid Cakm:Chakma Cans:Canadian_Aboriginal Cari:Carian Cham:Cham Cher:Cherokee",
    "Chrs:Chorasmian Copt:Coptic Cpmn:Cypro_Minoan Cprt:Cypriot Cyrl:Cyrillic",
    "Deva:Devanagari Diak:Dives_Akuru Dogr:Dogra Dsrt:Deseret Dupl:Duployan",
    "Egyp:Egyptian_Hieroglyphs Elba:Elbasan Elym:Elymaic Ethi:Ethiopic Geor:Georgian",
    "Glag:Glagolitic Gong:Gunjala_Gondi Gonm:Masaram_Gondi Goth:Gothic Gran:Grantha",
    "Grek:Greek Gujr:Gujarati Guru:Gurmukhi Hang:Hangul Hani:Han Hano:Hanunoo",
    "Hatr:Hatran Hebr:Hebrew Hira:Hiragana Hluw:Anatolian_Hieroglyphs Hmng:Pahawh_Hmong",
    "Hmnp:Nyiakeng_Puachue_Hmong Hung:Old_Hungarian Ital:Old_Italic Java:Javanese",
    "Kali:Kayah_Li Kana:Katakana Kawi:Kawi Khar:Kharoshthi Khmr:Khmer Khoj:Khojki",
    "Kits:Khitan_Small_Script Knda:Kannada Kthi:Kaithi Lana:Tai_Tham Laoo:Lao Latn:Latin",
    "Lepc:Lepcha Limb:Limbu Lina:Linear_A Linb:Linear_B Lisu:Lisu Lyci:Lycian",
    "Lydi:Lydian Mahj:Mahajani Maka:Makasar Mand:Mandaic Mani:Manichaean Marc:Marchen",
    "Medf:Medefaidrin Mend:Mende_Kikakui Merc:Meroitic_Cursive Mero:Meroitic_Hieroglyphs",
    "Mlym:Malayalam Modi:Modi Mong:Mongolian Mroo:Mro Mtei:Meetei_Mayek Mult:Multani",
    "Mymr:Myanmar Nagm:Nag_Mundari Nand:Nandinagari Narb:Old_North_Arabian",
    "Nbat:Nabataean Newa:Newa Nkoo:Nko Nshu:Nushu Ogam:Ogham Olck:Ol_Chiki",
    "Orkh:Old_Turkic Orya:Oriya Osge:Osage Osma:Osmanya Ougr:Old_Uyghur Palm:Palmyrene",
    "Pauc:Pau_Cin_Hau Perm:Old_Permic Phag:Phags_Pa Phli:Inscriptional_Pahlavi",
    "Phlp:Psalter_Pahlavi Phnx:Phoenician Plrd:Miao Prti:Inscriptional_Parthian",
    "Rjng:Rejang Rohg:Hanifi_Rohingya Runr:Runic Samr:Samaritan Sarb:Old_South_Arabian",
    "Saur:Saurashtra Sgnw:SignWriting Shaw:Shavian Shrd:Sharada Sidd:Siddham",
    "Sind:Khudawadi Sinh:Sinhala Sogd:Sogdian Sogo:Old_Sogdian Sora:Sora_Sompeng",
    "Soyo:Soyombo Sund:Sundanese Sylo:Syloti_Nagri Syrc:Syriac Tagb:Tagbanwa Takr:Takri",
    "Tale:Tai_Le Talu:New_Tai_Lue Taml:Tamil Tang:Tangut Tavt:Tai_Viet Telu:Telugu",
    "Tfng:Tifinagh Tglg:Tagalog Thaa:Thaana Thai:Thai Tibt:Tibetan Tirh:Tirhuta",
    "Tnsa:Tangsa Toto:Toto Ugar:Ugaritic Vaii:Vai Vith:Vithkuqi Wara:Warang_Citi",
    "Wcho:Wancho Xpeo:Old_Persian Xsux:Cuneiform Yezi:Yezidi Yiii:Yi",
    "Zanb:Zanabazar_Square Zinh:Inherited Zyyy:Common Zzzz:Unknown"]

/-- The four-letter label and the name of every writing system. -/
def writingSystemNames : List (String × String) :=
  (CodeSet.wordsOf writingSystemNameList).map fun entry =>
    (String.ofList (entry.takeWhile (· ≠ ':')),
      String.ofList ((entry.dropWhile (· ≠ ':')).drop 1))

def writingSystem (label : String) : CodeSet :=
  CodeSet.ordered ⟨writingSystemRanges.filterMap fun (name, low, high) =>
    if name = label.toList then some (low, high) else none⟩

end ScriptBundle.Unicode
