import CatalogQuery.Text.Mark

/-!
# Composed characters

Many characters with marks can be written as one composed character, or as a
character followed by marks.  A text is composed if every character and mark
that can be one character are, and marks of different classes are in the order
of their classes.  The table is for the characters of labels, by version 14 of
the Unicode character database.
-/

namespace CatalogQuery
namespace Text

/-- A composed character with what it is composed of. -/
structure Composition where
  base : Nat
  mark : Nat
  composed : Nat

/-- The composed characters. -/
def compositions : Array Composition := #[
  ⟨97, 768, 224⟩, ⟨101, 768, 232⟩, ⟨105, 768, 236⟩, ⟨110, 768, 505⟩, ⟨111, 768, 242⟩,
  ⟨117, 768, 249⟩, ⟨119, 768, 7809⟩, ⟨121, 768, 7923⟩, ⟨226, 768, 7847⟩, ⟨234, 768, 7873⟩,
  ⟨244, 768, 7891⟩, ⟨252, 768, 476⟩, ⟨259, 768, 7857⟩, ⟨275, 768, 7701⟩, ⟨333, 768, 7761⟩,
  ⟨417, 768, 7901⟩, ⟨432, 768, 7915⟩, ⟨945, 768, 8048⟩, ⟨949, 768, 8050⟩, ⟨951, 768, 8052⟩,
  ⟨953, 768, 8054⟩, ⟨959, 768, 8056⟩, ⟨965, 768, 8058⟩, ⟨969, 768, 8060⟩, ⟨970, 768, 8146⟩,
  ⟨971, 768, 8162⟩, ⟨1077, 768, 1104⟩, ⟨1080, 768, 1117⟩, ⟨7936, 768, 7938⟩, ⟨7937, 768, 7939⟩,
  ⟨7952, 768, 7954⟩, ⟨7953, 768, 7955⟩, ⟨7968, 768, 7970⟩, ⟨7969, 768, 7971⟩, ⟨7984, 768, 7986⟩,
  ⟨7985, 768, 7987⟩, ⟨8000, 768, 8002⟩, ⟨8001, 768, 8003⟩, ⟨8016, 768, 8018⟩, ⟨8017, 768, 8019⟩,
  ⟨8032, 768, 8034⟩, ⟨8033, 768, 8035⟩, ⟨97, 769, 225⟩, ⟨99, 769, 263⟩, ⟨101, 769, 233⟩,
  ⟨103, 769, 501⟩, ⟨105, 769, 237⟩, ⟨107, 769, 7729⟩, ⟨108, 769, 314⟩, ⟨109, 769, 7743⟩,
  ⟨110, 769, 324⟩, ⟨111, 769, 243⟩, ⟨112, 769, 7765⟩, ⟨114, 769, 341⟩, ⟨115, 769, 347⟩,
  ⟨117, 769, 250⟩, ⟨119, 769, 7811⟩, ⟨121, 769, 253⟩, ⟨122, 769, 378⟩, ⟨226, 769, 7845⟩,
  ⟨229, 769, 507⟩, ⟨230, 769, 509⟩, ⟨231, 769, 7689⟩, ⟨234, 769, 7871⟩, ⟨239, 769, 7727⟩,
  ⟨244, 769, 7889⟩, ⟨245, 769, 7757⟩, ⟨248, 769, 511⟩, ⟨252, 769, 472⟩, ⟨259, 769, 7855⟩,
  ⟨275, 769, 7703⟩, ⟨333, 769, 7763⟩, ⟨361, 769, 7801⟩, ⟨417, 769, 7899⟩, ⟨432, 769, 7913⟩,
  ⟨945, 769, 940⟩, ⟨949, 769, 941⟩, ⟨951, 769, 942⟩, ⟨953, 769, 943⟩, ⟨959, 769, 972⟩,
  ⟨965, 769, 973⟩, ⟨969, 769, 974⟩, ⟨970, 769, 912⟩, ⟨971, 769, 944⟩, ⟨1075, 769, 1107⟩,
  ⟨1082, 769, 1116⟩, ⟨7936, 769, 7940⟩, ⟨7937, 769, 7941⟩, ⟨7952, 769, 7956⟩, ⟨7953, 769, 7957⟩,
  ⟨7968, 769, 7972⟩, ⟨7969, 769, 7973⟩, ⟨7984, 769, 7988⟩, ⟨7985, 769, 7989⟩, ⟨8000, 769, 8004⟩,
  ⟨8001, 769, 8005⟩, ⟨8016, 769, 8020⟩, ⟨8017, 769, 8021⟩, ⟨8032, 769, 8036⟩, ⟨8033, 769, 8037⟩,
  ⟨97, 770, 226⟩, ⟨99, 770, 265⟩, ⟨101, 770, 234⟩, ⟨103, 770, 285⟩, ⟨104, 770, 293⟩,
  ⟨105, 770, 238⟩, ⟨106, 770, 309⟩, ⟨111, 770, 244⟩, ⟨115, 770, 349⟩, ⟨117, 770, 251⟩,
  ⟨119, 770, 373⟩, ⟨121, 770, 375⟩, ⟨122, 770, 7825⟩, ⟨7841, 770, 7853⟩, ⟨7865, 770, 7879⟩,
  ⟨7885, 770, 7897⟩, ⟨97, 771, 227⟩, ⟨101, 771, 7869⟩, ⟨105, 771, 297⟩, ⟨110, 771, 241⟩,
  ⟨111, 771, 245⟩, ⟨117, 771, 361⟩, ⟨118, 771, 7805⟩, ⟨121, 771, 7929⟩, ⟨226, 771, 7851⟩,
  ⟨234, 771, 7877⟩, ⟨244, 771, 7895⟩, ⟨259, 771, 7861⟩, ⟨417, 771, 7905⟩, ⟨432, 771, 7919⟩,
  ⟨97, 772, 257⟩, ⟨101, 772, 275⟩, ⟨103, 772, 7713⟩, ⟨105, 772, 299⟩, ⟨111, 772, 333⟩,
  ⟨117, 772, 363⟩, ⟨121, 772, 563⟩, ⟨228, 772, 479⟩, ⟨230, 772, 483⟩, ⟨245, 772, 557⟩,
  ⟨246, 772, 555⟩, ⟨252, 772, 470⟩, ⟨491, 772, 493⟩, ⟨551, 772, 481⟩, ⟨559, 772, 561⟩,
  ⟨945, 772, 8113⟩, ⟨953, 772, 8145⟩, ⟨965, 772, 8161⟩, ⟨1080, 772, 1251⟩, ⟨1091, 772, 1263⟩,
  ⟨7735, 772, 7737⟩, ⟨7771, 772, 7773⟩, ⟨97, 774, 259⟩, ⟨101, 774, 277⟩, ⟨103, 774, 287⟩,
  ⟨105, 774, 301⟩, ⟨111, 774, 335⟩, ⟨117, 774, 365⟩, ⟨553, 774, 7709⟩, ⟨945, 774, 8112⟩,
  ⟨953, 774, 8144⟩, ⟨965, 774, 8160⟩, ⟨1072, 774, 1233⟩, ⟨1077, 774, 1239⟩, ⟨1078, 774, 1218⟩,
  ⟨1080, 774, 1081⟩, ⟨1091, 774, 1118⟩, ⟨7841, 774, 7863⟩, ⟨97, 775, 551⟩, ⟨98, 775, 7683⟩,
  ⟨99, 775, 267⟩, ⟨100, 775, 7691⟩, ⟨101, 775, 279⟩, ⟨102, 775, 7711⟩, ⟨103, 775, 289⟩,
  ⟨104, 775, 7715⟩, ⟨109, 775, 7745⟩, ⟨110, 775, 7749⟩, ⟨111, 775, 559⟩, ⟨112, 775, 7767⟩,
  ⟨114, 775, 7769⟩, ⟨115, 775, 7777⟩, ⟨116, 775, 7787⟩, ⟨119, 775, 7815⟩, ⟨120, 775, 7819⟩,
  ⟨121, 775, 7823⟩, ⟨122, 775, 380⟩, ⟨347, 775, 7781⟩, ⟨353, 775, 7783⟩, ⟨7779, 775, 7785⟩,
  ⟨97, 776, 228⟩, ⟨101, 776, 235⟩, ⟨104, 776, 7719⟩, ⟨105, 776, 239⟩, ⟨111, 776, 246⟩,
  ⟨116, 776, 7831⟩, ⟨117, 776, 252⟩, ⟨119, 776, 7813⟩, ⟨120, 776, 7821⟩, ⟨121, 776, 255⟩,
  ⟨245, 776, 7759⟩, ⟨363, 776, 7803⟩, ⟨953, 776, 970⟩, ⟨965, 776, 971⟩, ⟨1072, 776, 1235⟩,
  ⟨1077, 776, 1105⟩, ⟨1078, 776, 1245⟩, ⟨1079, 776, 1247⟩, ⟨1080, 776, 1253⟩, ⟨1086, 776, 1255⟩,
  ⟨1091, 776, 1265⟩, ⟨1095, 776, 1269⟩, ⟨1099, 776, 1273⟩, ⟨1101, 776, 1261⟩, ⟨1110, 776, 1111⟩,
  ⟨1241, 776, 1243⟩, ⟨1257, 776, 1259⟩, ⟨97, 777, 7843⟩, ⟨101, 777, 7867⟩, ⟨105, 777, 7881⟩,
  ⟨111, 777, 7887⟩, ⟨117, 777, 7911⟩, ⟨121, 777, 7927⟩, ⟨226, 777, 7849⟩, ⟨234, 777, 7875⟩,
  ⟨244, 777, 7893⟩, ⟨259, 777, 7859⟩, ⟨417, 777, 7903⟩, ⟨432, 777, 7917⟩, ⟨97, 778, 229⟩,
  ⟨117, 778, 367⟩, ⟨119, 778, 7832⟩, ⟨121, 778, 7833⟩, ⟨111, 779, 337⟩, ⟨117, 779, 369⟩,
  ⟨1091, 779, 1267⟩, ⟨97, 780, 462⟩, ⟨99, 780, 269⟩, ⟨100, 780, 271⟩, ⟨101, 780, 283⟩,
  ⟨103, 780, 487⟩, ⟨104, 780, 543⟩, ⟨105, 780, 464⟩, ⟨106, 780, 496⟩, ⟨107, 780, 489⟩,
  ⟨108, 780, 318⟩, ⟨110, 780, 328⟩, ⟨111, 780, 466⟩, ⟨114, 780, 345⟩, ⟨115, 780, 353⟩,
  ⟨116, 780, 357⟩, ⟨117, 780, 468⟩, ⟨122, 780, 382⟩, ⟨252, 780, 474⟩, ⟨658, 780, 495⟩,
  ⟨97, 783, 513⟩, ⟨101, 783, 517⟩, ⟨105, 783, 521⟩, ⟨111, 783, 525⟩, ⟨114, 783, 529⟩,
  ⟨117, 783, 533⟩, ⟨1141, 783, 1143⟩, ⟨97, 785, 515⟩, ⟨101, 785, 519⟩, ⟨105, 785, 523⟩,
  ⟨111, 785, 527⟩, ⟨114, 785, 531⟩, ⟨117, 785, 535⟩, ⟨945, 787, 7936⟩, ⟨949, 787, 7952⟩,
  ⟨951, 787, 7968⟩, ⟨953, 787, 7984⟩, ⟨959, 787, 8000⟩, ⟨961, 787, 8164⟩, ⟨965, 787, 8016⟩,
  ⟨969, 787, 8032⟩, ⟨945, 788, 7937⟩, ⟨949, 788, 7953⟩, ⟨951, 788, 7969⟩, ⟨953, 788, 7985⟩,
  ⟨959, 788, 8001⟩, ⟨961, 788, 8165⟩, ⟨965, 788, 8017⟩, ⟨969, 788, 8033⟩, ⟨111, 795, 417⟩,
  ⟨117, 795, 432⟩, ⟨97, 803, 7841⟩, ⟨98, 803, 7685⟩, ⟨100, 803, 7693⟩, ⟨101, 803, 7865⟩,
  ⟨104, 803, 7717⟩, ⟨105, 803, 7883⟩, ⟨107, 803, 7731⟩, ⟨108, 803, 7735⟩, ⟨109, 803, 7747⟩,
  ⟨110, 803, 7751⟩, ⟨111, 803, 7885⟩, ⟨114, 803, 7771⟩, ⟨115, 803, 7779⟩, ⟨116, 803, 7789⟩,
  ⟨117, 803, 7909⟩, ⟨118, 803, 7807⟩, ⟨119, 803, 7817⟩, ⟨121, 803, 7925⟩, ⟨122, 803, 7827⟩,
  ⟨417, 803, 7907⟩, ⟨432, 803, 7921⟩, ⟨117, 804, 7795⟩, ⟨97, 805, 7681⟩, ⟨115, 806, 537⟩,
  ⟨116, 806, 539⟩, ⟨99, 807, 231⟩, ⟨100, 807, 7697⟩, ⟨101, 807, 553⟩, ⟨103, 807, 291⟩,
  ⟨104, 807, 7721⟩, ⟨107, 807, 311⟩, ⟨108, 807, 316⟩, ⟨110, 807, 326⟩, ⟨114, 807, 343⟩,
  ⟨115, 807, 351⟩, ⟨116, 807, 355⟩, ⟨97, 808, 261⟩, ⟨101, 808, 281⟩, ⟨105, 808, 303⟩,
  ⟨111, 808, 491⟩, ⟨117, 808, 371⟩, ⟨100, 813, 7699⟩, ⟨101, 813, 7705⟩, ⟨108, 813, 7741⟩,
  ⟨110, 813, 7755⟩, ⟨116, 813, 7793⟩, ⟨117, 813, 7799⟩, ⟨104, 814, 7723⟩, ⟨101, 816, 7707⟩,
  ⟨105, 816, 7725⟩, ⟨117, 816, 7797⟩, ⟨98, 817, 7687⟩, ⟨100, 817, 7695⟩, ⟨104, 817, 7830⟩,
  ⟨107, 817, 7733⟩, ⟨108, 817, 7739⟩, ⟨110, 817, 7753⟩, ⟨114, 817, 7775⟩, ⟨116, 817, 7791⟩,
  ⟨122, 817, 7829⟩, ⟨945, 834, 8118⟩, ⟨951, 834, 8134⟩, ⟨953, 834, 8150⟩, ⟨965, 834, 8166⟩,
  ⟨969, 834, 8182⟩, ⟨970, 834, 8151⟩, ⟨971, 834, 8167⟩, ⟨7936, 834, 7942⟩, ⟨7937, 834, 7943⟩,
  ⟨7968, 834, 7974⟩, ⟨7969, 834, 7975⟩, ⟨7984, 834, 7990⟩, ⟨7985, 834, 7991⟩, ⟨8016, 834, 8022⟩,
  ⟨8017, 834, 8023⟩, ⟨8032, 834, 8038⟩, ⟨8033, 834, 8039⟩, ⟨1575, 1619, 1570⟩, ⟨1575, 1620, 1571⟩,
  ⟨1608, 1620, 1572⟩, ⟨1610, 1620, 1574⟩, ⟨1729, 1620, 1730⟩, ⟨1746, 1620, 1747⟩,
  ⟨1749, 1620, 1728⟩, ⟨1575, 1621, 1573⟩, ⟨2344, 2364, 2345⟩, ⟨2352, 2364, 2353⟩,
  ⟨2355, 2364, 2356⟩, ⟨2503, 2494, 2507⟩, ⟨2503, 2519, 2508⟩, ⟨2887, 2878, 2891⟩,
  ⟨2887, 2902, 2888⟩, ⟨2887, 2903, 2892⟩, ⟨3014, 3006, 3018⟩, ⟨3015, 3006, 3019⟩,
  ⟨2962, 3031, 2964⟩, ⟨3014, 3031, 3020⟩, ⟨3142, 3158, 3144⟩, ⟨3270, 3266, 3274⟩,
  ⟨3263, 3285, 3264⟩, ⟨3270, 3285, 3271⟩, ⟨3274, 3285, 3275⟩, ⟨3270, 3286, 3272⟩,
  ⟨3398, 3390, 3402⟩, ⟨3399, 3390, 3403⟩, ⟨3398, 3415, 3404⟩, ⟨3545, 3530, 3546⟩,
  ⟨3548, 3530, 3549⟩, ⟨3545, 3535, 3548⟩, ⟨3545, 3551, 3550⟩, ⟨4133, 4142, 4134⟩,
  ⟨6917, 6965, 6918⟩, ⟨6919, 6965, 6920⟩, ⟨6921, 6965, 6922⟩, ⟨6923, 6965, 6924⟩,
  ⟨6925, 6965, 6926⟩, ⟨6929, 6965, 6930⟩, ⟨6970, 6965, 6971⟩, ⟨6972, 6965, 6973⟩,
  ⟨6974, 6965, 6976⟩, ⟨6975, 6965, 6977⟩, ⟨6978, 6965, 6979⟩, ⟨12358, 12441, 12436⟩,
  ⟨12363, 12441, 12364⟩, ⟨12365, 12441, 12366⟩, ⟨12367, 12441, 12368⟩, ⟨12369, 12441, 12370⟩,
  ⟨12371, 12441, 12372⟩, ⟨12373, 12441, 12374⟩, ⟨12375, 12441, 12376⟩, ⟨12377, 12441, 12378⟩,
  ⟨12379, 12441, 12380⟩, ⟨12381, 12441, 12382⟩, ⟨12383, 12441, 12384⟩, ⟨12385, 12441, 12386⟩,
  ⟨12388, 12441, 12389⟩, ⟨12390, 12441, 12391⟩, ⟨12392, 12441, 12393⟩, ⟨12399, 12441, 12400⟩,
  ⟨12402, 12441, 12403⟩, ⟨12405, 12441, 12406⟩, ⟨12408, 12441, 12409⟩, ⟨12411, 12441, 12412⟩,
  ⟨12445, 12441, 12446⟩, ⟨12454, 12441, 12532⟩, ⟨12459, 12441, 12460⟩, ⟨12461, 12441, 12462⟩,
  ⟨12463, 12441, 12464⟩, ⟨12465, 12441, 12466⟩, ⟨12467, 12441, 12468⟩, ⟨12469, 12441, 12470⟩,
  ⟨12471, 12441, 12472⟩, ⟨12473, 12441, 12474⟩, ⟨12475, 12441, 12476⟩, ⟨12477, 12441, 12478⟩,
  ⟨12479, 12441, 12480⟩, ⟨12481, 12441, 12482⟩, ⟨12484, 12441, 12485⟩, ⟨12486, 12441, 12487⟩,
  ⟨12488, 12441, 12489⟩, ⟨12495, 12441, 12496⟩, ⟨12498, 12441, 12499⟩, ⟨12501, 12441, 12502⟩,
  ⟨12504, 12441, 12505⟩, ⟨12507, 12441, 12508⟩, ⟨12527, 12441, 12535⟩, ⟨12528, 12441, 12536⟩,
  ⟨12529, 12441, 12537⟩, ⟨12530, 12441, 12538⟩, ⟨12541, 12441, 12542⟩, ⟨12399, 12442, 12401⟩,
  ⟨12402, 12442, 12404⟩, ⟨12405, 12442, 12407⟩, ⟨12408, 12442, 12410⟩, ⟨12411, 12442, 12413⟩,
  ⟨12495, 12442, 12497⟩, ⟨12498, 12442, 12500⟩, ⟨12501, 12442, 12503⟩, ⟨12504, 12442, 12506⟩,
  ⟨12507, 12442, 12509⟩, ⟨69785, 69818, 69786⟩, ⟨69787, 69818, 69788⟩, ⟨69797, 69818, 69803⟩,
  ⟨69937, 69927, 69934⟩, ⟨69938, 69927, 69935⟩, ⟨70471, 70462, 70475⟩, ⟨70471, 70487, 70476⟩,
  ⟨70841, 70832, 70844⟩, ⟨70841, 70842, 70843⟩, ⟨70841, 70845, 70846⟩, ⟨71096, 71087, 71098⟩,
  ⟨71097, 71087, 71099⟩, ⟨71989, 71984, 71992⟩]

/-- The character that a character and a mark compose. -/
def composed? (base mark : Char) : Option Char :=
  (compositions.find? fun entry =>
    entry.base == base.toNat && entry.mark == mark.toNat).map (Char.ofNat ·.composed)

/-- The characters that a character is composed of, those that it is made of in
turn being taken apart as often as `depth` says. -/
def partsWithin : Nat → Char → List Char
  | 0, c => [c]
  | depth + 1, c =>
      match compositions.find? (·.composed == c.toNat) with
      | some entry => partsWithin depth (Char.ofNat entry.base) ++ [Char.ofNat entry.mark]
      | none => [c]

/-- The characters that a character is composed of; no character is composed
more than three times over. -/
def parts (c : Char) : List Char := partsWithin 3 c

/-- A character in front of characters in order: a mark goes behind all marks
of lower classes. -/
def insertMark (c : Char) : List Char → List Char
  | [] => [c]
  | next :: rest =>
      if combiningClass next ≠ 0 ∧ combiningClass next < combiningClass c then
        next :: insertMark c rest
      else c :: next :: rest

/-- Characters with the marks between each two others in the order of their
classes. -/
def inMarkOrder (chars : List Char) : List Char := chars.foldr insertMark []

/-- The composed form of characters that follow a base, which they are composed
with where they can be.  `marks` holds in reverse the marks after the base that
could not be. -/
def composeAfter (base : Char) (marks : List Char) : List Char → List Char
  | [] => base :: marks.reverse
  | c :: rest =>
      let free := marks.head?.all fun mark => combiningClass mark < combiningClass c
      match if free then composed? base c else none with
      | some composed => composeAfter composed marks rest
      | none =>
          if combiningClass c = 0 then base :: marks.reverse ++ composeAfter c [] rest
          else composeAfter base (c :: marks) rest

/-- The composed form of characters. -/
def compose : List Char → List Char
  | [] => []
  | c :: rest => if combiningClass c = 0 then composeAfter c [] rest else c :: compose rest

/-- Whether characters are in composed form. -/
def isComposed (chars : List Char) : Bool := compose (inMarkOrder (chars.flatMap parts)) == chars

end Text
end CatalogQuery
