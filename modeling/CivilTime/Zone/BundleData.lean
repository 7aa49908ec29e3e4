/-!
# Data of the bundled zones

Compiled zone data as lines of hexadecimal text, from release 2026e of the zone database.
-/

set_option autoImplicit false

namespace CivilTime.Bundle

/-- The compiled data of Africa/Monrovia. -/
def monroviaData : List String :=
  ["545a6966320000000000000000000000000000000000000000000000000000000000000000000001000000010000",
    "0000000000545a696632000000000000000000000000000000000000000000000000000000000000030000000400",
    "00000cffffffff5a7aa69cffffffffa05f6c9c0000000003ca5a6e010203fffff5e40000fffff5e40004fffff592",
    "00040000000000084c4d54004d4d5400474d54000a474d54300a"]

/-- The compiled data of America/New_York. -/
def newYorkData : List String :=
  ["545a6966320000000000000000000000000000000000000000000000000000000000000000000001000000010000",
    "0000000000545a696632000000000000000000000000000000000000000000000000000000000000af0000000500",
    "000014ffffffff5e03f090ffffffff9ea61e70ffffffff9fbaeb60ffffffffa0860070ffffffffa19acd60ffffff",
    "ffa265e270ffffffffa383e9e0ffffffffa46aae70ffffffffa535a760ffffffffa653caf0ffffffffa7158960ff",
    "ffffffa833acf0ffffffffa8fea5e0ffffffffaa138ef0ffffffffaade87e0ffffffffabf370f0ffffffffacbe69",
    "e0ffffffffadd352f0ffffffffae9e4be0ffffffffafb334f0ffffffffb07e2de0ffffffffb19c5170ffffffffb2",
    "674a60ffffffffb37c3370ffffffffb4472c60ffffffffb55c1570ffffffffb6270e60ffffffffb73bf770ffffff",
    "ffb806f060ffffffffb91bd970ffffffffb9e6d260ffffffffbb04f5f0ffffffffbbc6b460ffffffffbce4d7f0ff",
    "ffffffbdafd0e0ffffffffbec4b9f0ffffffffbf8fb2e0ffffffffc0a49bf0ffffffffc16f94e0ffffffffc2847d",
    "f0ffffffffc34f76e0ffffffffc4645ff0ffffffffc52f58e0ffffffffc64d7c70ffffffffc70f3ae0ffffffffc8",
    "2d5e70ffffffffc8f85760ffffffffca0d4070ffffffffcad83960ffffffffcb88f070ffffffffd223f470ffffff",
    "ffd260fbe0ffffffffd375e4f0ffffffffd440dde0ffffffffd555c6f0ffffffffd620bfe0ffffffffd735a8f0ff",
    "ffffffd800a1e0ffffffffd9158af0ffffffffd9e083e0ffffffffdafea770ffffffffdbc065e0ffffffffdcde89",
    "70ffffffffdda98260ffffffffdebe6b70ffffffffdf896460ffffffffe09e4d70ffffffffe1694660ffffffffe2",
    "7e2f70ffffffffe3492860ffffffffe45e1170ffffffffe5572ee0ffffffffe6472df0ffffffffe73710e0ffffff",
    "ffe8270ff0ffffffffe916f2e0ffffffffea06f1f0ffffffffeaf6d4e0ffffffffebe6d3f0ffffffffecd6b6e0ff",
    "ffffffedc6b5f0ffffffffeebfd360ffffffffefafd270fffffffff09fb560fffffffff18fb470fffffffff27f97",
    "60fffffffff36f9670fffffffff45f7960fffffffff54f7870fffffffff63f5b60fffffffff72f5a70fffffffff8",
    "2877e0fffffffff90f3c70fffffffffa0859e0fffffffffaf858f0fffffffffbe83be0fffffffffcd83af0ffffff",
    "fffdc81de0fffffffffeb81cf0ffffffffffa7ffe0000000000097fef0000000000187e1e0000000000277e0f000",
    "0000000370fe60000000000460fd70000000000550e060000000000640df70000000000730c26000000000078d19",
    "70000000000910a4600000000009ad94f0000000000af08660000000000be08570000000000cd9a2e0000000000d",
    "c06770000000000eb984e0000000000fa983f000000000109966e000000000118965f000000000127948e0000000",
    "00136947f00000000014592ae000000000154929f00000000016390ce00000000017290bf0000000001822296000",
    "0000001908edf0000000001a020b60000000001af20a70000000001be1ed60000000001cd1ec70000000001dc1cf",
    "60000000001eb1ce70000000001fa1b16000000000207600f00000000021819360000000002255e2f00000000023",
    "6aafe0000000002435c4f000000000254a91e0000000002615a6f000000000272a73e00000000027fec370000000",
    "00290a55e00000000029dea570000000002aea37e0000000002bbe8770000000002cd35460000000002d9e697000",
    "0000002eb33660000000002f7e4b70000000003093186000000000316767f0000000003272fa6000000000334749",
    "f0000000003452dc600000000035272bf0000000003632be600000000037070df000000000381bdae00000000038",
    "e6eff00000000039fbbce0000000003ac6d1f0000000003bdb9ee0000000003cafee70000000003dbb80e0000000",
    "003e8fd070000000003f9b62e000000000406fb2700000000041847f6000000000424f9470000000004364616000",
    "000000442f767000000000454443600000000045f3a8f00201020102010201020102010201020102010201020102",
    "01020102010201020102010201020102010201020102010201020304020102010201020102010201020102010201",
    "02010201020102010201020102010201020102010201020102010201020102010201020102010201020102010201",
    "02010201020102010201020102010201020102010201020102010201020102010201020102010201020102010201",
    "0201020102010201020102010201ffffba9e0000ffffc7c00104ffffb9b00008ffffc7c0010cffffc7c001104c4d",
    "5400454454004553540045575400455054000a455354354544542c4d332e322e302c4d31312e312e300a"]

/-- The compiled data of America/Port-au-Prince. -/
def portAuPrinceData : List String :=
  ["545a6966320000000000000000000000000000000000000000000000000000000000000000000001000000010000",
    "0000000000545a6966320000000000000000000000000000000000000000000000000000000000002d0000000400",
    "000011ffffffff69871f50ffffffff9c6e71fc00000000191b46d0000000001a01ef40000000001af1ee50000000",
    "001be1d140000000001cd1d050000000001dc1b340000000001eb1b250000000001fa19540000000002091945000",
    "00000021817740000000002255d4e000000000236aafe0000000002435b6e000000000254a91e000000000261598",
    "e000000000272a73e00000000027feb56000000000290a55e00000000029de9760000000002aea37e0000000002b",
    "be7960000000002cd35460000000002d9e5b60000000002eb33660000000002f7e3d600000000030931860000000",
    "00316759e0000000003272fa600000000033473be0000000003452dc6000000000424f7850000000004364454000",
    "000000442f5a500000000045442740000000004f5c4d70000000005096046000000000513c2f70000000005275e6",
    "6000000000531c1170000000005455c8600000000054fbf370000000005635aa600000000058c4f1f00103020302",
    "03020302030203020302030203020302030203020302030203020302030203020302030203020302ffffbc300000",
    "ffffbc440004ffffc7c00109ffffb9b0000d4c4d540050504d540045445400455354000a455354354544542c4d33",
    "2e322e302c4d31312e312e300a"]

/-- The compiled data of Antarctica/Troll. -/
def trollData : List String :=
  ["545a6966320000000000000000000000000000000000000000000000000000000000000000000001000000010000",
    "0000000000545a696632000000000000000000000000000000000000000000000000000000000000010000000200",
    "00000800000000420d4700010000000000000000000000042d3030002b3030000a3c2b30303e303c2b30323e2d32",
    "2c4d332e352e302f312c4d31302e352e302f330a"]

/-- The compiled data of Asia/Kolkata. -/
def kolkataData : List String :=
  ["545a6966320000000000000000000000000000000000000000000000000000000000000000000001000000010000",
    "0000000000545a696632000000000000000000000000000000000000000000000000000000000000070000000500",
    "000016ffffffff26ba1828ffffffff43e7eb30ffffffff879dbcbaffffffffcadb8c28ffffffffcc057118ffffff",
    "ffcc9532a8ffffffffd274129801020304030403000052d80000000052d0000400004b46000800004d58000c0000",
    "5b6801104c4d5400484d54004d4d5400495354002b30363330000a4953542d353a33300a"]

/-- The compiled data of Australia/Lord_Howe. -/
def lordHoweData : List String :=
  ["545a6966320000000000000000000000000000000000000000000000000000000000000000000001000000010000",
    "0000000000545a696632000000000000000000000000000000000000000000000000000000000000380000000500",
    "000019ffffffff731677dc0000000014fe66e000000000163840f80000000016e78a680000000018215d78000000",
    "0018c76c68000000001a013f78000000001aa74e68000000001be12178000000001c873068000000001dc1037800",
    "0000001e798e70000000001f97aaf80000000020597070000000002180c7780000000022428cf0000000002369e3",
    "f80000000024226ef0000000002549c5f80000000025efdbf0000000002729a7f80000000027cfbdf00000000029",
    "0989f80000000029af9ff0000000002ae96bf8000000002b98bc70000000002cd28878000000002d789e70000000",
    "002eb26a78000000002f5880700000000030924c7800000000315d4c700000000032722e7800000000333d2e7000",
    "0000003452107800000000351d1070000000003631f2780000000036fcf27000000000381b0ef80000000038dcd4",
    "700000000039a7e278000000003abcb670000000003bdad2f8000000003ca5d2f0000000003dbab4f8000000003e",
    "85b4f0000000003f9a96f800000000406596f0000000004183b37800000000424578f00000000043639578000000",
    "00442e957000000000454377780000000046053cf000000000472359780000000047f793f0010302030203020302",
    "03040304030403040304030403040304030403040304030403040304030403040304030403040304030403040304",
    "0300009524000000008ca000040000a1b80109000093a8000f00009ab001154c4d540041455354002b3131333000",
    "2b31303330002b3131000a3c2b313033303e2d31303a33303c2b31313e2d31312c4d31302e312e302c4d342e312e",
    "300a"]

/-- The compiled data of Australia/Sydney. -/
def sydneyData : List String :=
  ["545a6966320000000000000000000000000000000000000000000000000000000000000000000001000000010000",
    "0000000000545a696632000000000000000000000000000000000000000000000000000000000000530000000300",
    "00000effffffff73167f3cffffffff9c4ec280ffffffff9cbc2f00ffffffffcb54b300ffffffffcbc76580ffffff",
    "ffccb75680ffffffffcda74780ffffffffcea07300ffffffffcf872980000000000370398000000000040d1c0000",
    "00000005501b800000000005f6388000000000072ffd800000000007d61a8000000000090fdf800000000009b5fc",
    "80000000000aefc180000000000b9f1900000000000cd8de00000000000d7efb00000000000eb8c000000000000f",
    "5edd00000000001098a20000000000113ebf00000000001278840000000000131ea1000000000014586600000000",
    "0014fe8300000000001638480000000000170c898000000000182164800000000018c78180000000001a01468000",
    "0000001aa76380000000001be12880000000001c874580000000001dc10a80000000001e799c80000000001f97b2",
    "000000000020597e80000000002180ce800000000022429b00000000002369eb000000000024227d000000000025",
    "49cd000000000025efea00000000002729af000000000027cfcc0000000000290991000000000029afae00000000",
    "002ae97300000000002b98ca80000000002cd28f80000000002d78ac80000000002eb27180000000002f588e8000",
    "0000003092538000000000315d5a80000000003272358000000000333d3c80000000003452178000000000351d1e",
    "80000000003631f9800000000036fd008000000000381b16000000000038dce2800000000039a7e980000000003a",
    "bcc480000000003bdada00000000003ca5e100000000003dbabc00000000003e85c300000000003f9a9e00000000",
    "004065a500000000004183ba8000000000424587000000000043639c8000000000442ea3800000000045437e8000",
    "00000046054b0000000000472360800000000047f7a2000201020102010201020102010201020102010201020102",
    "01020102010201020102010201020102010201020102010201020102010201020102010201020102010201020102",
    "010201020102010201020102010200008dc4000000009ab0010400008ca000094c4d540041454454004145535400",
    "0a414553542d3130414544542c4d31302e312e302c4d342e312e302f330a"]

/-- The compiled data of Europe/Berlin. -/
def berlinData : List String :=
  ["545a6966320000000000000000000000000000000000000000000000000000000000000000000001000000010000",
    "0000000000545a6966320000000000000000000000000000000000000000000000000000000000003c0000000400",
    "000012ffffffff6fa261f8ffffffff9b0c1760ffffffff9bd5daf0ffffffff9cd9ae90ffffffff9da4b590ffffff",
    "ff9eb99090ffffffff9f849790ffffffffc8097190ffffffffcce74b10ffffffffcda91790ffffffffcea24310ff",
    "ffffffcf923410ffffffffd0822510ffffffffd1721610ffffffffd1b69600ffffffffd258be80ffffffffd2a14f",
    "10ffffffffd3631b90ffffffffd44b2390ffffffffd539d120ffffffffd567e790ffffffffd5a87300ffffffffd6",
    "29b410ffffffffd72c1a10ffffffffd8099610ffffffffd902c190ffffffffd9e9781000000000134d4410000000",
    "001433fa90000000001523eb90000000001613dc90000000001703cd900000000017f3be900000000018e3af9000",
    "00000019d3a090000000001ac39190000000001bbcbd10000000001cacae10000000001d9c9f10000000001e8c90",
    "10000000001f7c811000000000206c721000000000215c631000000000224c541000000000233c45100000000024",
    "2c361000000000251c271000000000260c181000000000270543900000000027f534900000000028e52590000000",
    "0029d51690000000002ac50790000000002bb4f890000000002ca4e990000000002d94da90000000002e84cb9000",
    "0000002f74bc90000000003064ad9000000000315dd9100201020102010201020102010201030102010201030102",
    "0102010201020102010201020102010201020102010201020102010201020102010201020100000c88000000001c",
    "20010400000e10000900002a30010d4c4d540043455354004345540043454d54000a4345542d31434553542c4d33",
    "2e352e302c4d31302e352e302f330a"]

/-- The compiled data of Pacific/Apia. -/
def apiaData : List String :=
  ["545a6966320000000000000000000000000000000000000000000000000000000000000000000001000000010000",
    "0000000000545a6966320000000000000000000000000000000000000000000000000000000000001a0000000700",
    "00001affffffff6e3dc900ffffffff9105fc00ffffffffda620438000000004c9f27b0000000004d972be0000000",
    "004e7de260000000004efd8ba0000000004f770de0000000005066fee00000000051602a60000000005246e0e000",
    "00000053400c60000000005426c2e000000000551fee60000000005606a4e00000000056ffd0600000000057e686",
    "e00000000058dfb2600000000059c668e0000000005abf9460000000005baf8560000000005ca8b0e0000000005d",
    "8f6760000000005e8892e0000000005f6f496000000000606874e001020403040306050605060506050605060506",
    "050605060506050000b0800000ffff5f000000ffff5e480004ffff7360010affff6550000e0000b6d000120000c4",
    "e001164c4d54002d31313330002d3130002d3131002b3133002b3134000a3c2b31333e2d31330a"]

/-- The compiled data of UTC. -/
def utcData : List String :=
  ["545a6966320000000000000000000000000000000000000000000000000000000000000000000001000000010000",
    "0000000000545a696632000000000000000000000000000000000000000000000000000000000000000000000100",
    "000004000000000000555443000a555443300a"]

/-- The zones of the bundle with their compiled data. -/
def files : List (String × List String) :=
  [("Africa/Monrovia", monroviaData),
    ("America/New_York", newYorkData),
    ("America/Port-au-Prince", portAuPrinceData),
    ("Antarctica/Troll", trollData),
    ("Asia/Kolkata", kolkataData),
    ("Australia/Lord_Howe", lordHoweData),
    ("Australia/Sydney", sydneyData),
    ("Europe/Berlin", berlinData),
    ("Pacific/Apia", apiaData),
    ("UTC", utcData)]

end CivilTime.Bundle
