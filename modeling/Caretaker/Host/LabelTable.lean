/-!
# Tables of characters in labels

Properties on which the well-formedness of a label depends.  Only characters that
can stand in a host name matter here, so an interval may run across others.
-/

namespace Caretaker.Host.LabelTable

/-- Marks that stand on the character before them. -/
def marks : String :=
  "768 879; 1155 1161; 1425 1469; 1471; 1473 1474; 1476 1477; 1479; 1552 1562; 1611 1631; 1648;
   1750 1756; 1759 1764; 1767 1768; 1770 1773; 1809; 1840 1866; 1958 1968; 2027 2035; 2045;
   2070 2073; 2075 2083; 2085 2087; 2089 2093; 2137 2139; 2199 2207; 2250 2307; 2362 2364;
   2366 2383; 2385 2391; 2402 2403; 2433 2435; 2492; 2494 2509; 2519; 2530 2531; 2558 2563;
   2620 2641; 2672 2673; 2677; 2689 2691; 2748; 2750 2765; 2786 2787; 2810 2819; 2876; 2878 2903;
   2914 2915; 2946; 3006 3021; 3031; 3072 3076; 3132; 3134 3158; 3170 3171; 3201 3203; 3260;
   3262 3286; 3298 3299; 3315 3331; 3387 3388; 3390 3405; 3415; 3426 3427; 3457 3459; 3530 3551;
   3570 3571; 3633; 3636 3642; 3655 3662; 3761; 3764 3772; 3784 3790; 3864 3865; 3893; 3895;
   3897; 3902 3903; 3953 3972; 3974 3975; 3981 4028; 4038; 4139 4158; 4182 4185; 4190 4192;
   4194 4196; 4199 4205; 4209 4212; 4226 4237; 4239; 4250 4253; 4957 4959; 5906 5909; 5938 5940;
   5970 5971; 6002 6003; 6070 6099; 6109; 6277 6278; 6313; 6432 6459; 6679 6683; 6741 6783;
   6832 6916; 6964 6980; 7019 7027; 7040 7042; 7073 7085; 7142 7155; 7204 7223; 7376 7378;
   7380 7400; 7405; 7412; 7415 7417; 7616 7679; 8400 8432; 11503 11505; 11647; 11744 11775;
   12330 12335; 12441 12442; 42607 42610; 42612 42621; 42654 42655; 42736 42737; 43010; 43014;
   43019; 43043 43047; 43052; 43136 43137; 43188 43205; 43232 43249; 43263; 43302 43309;
   43335 43347; 43392 43395; 43443 43456; 43493; 43561 43574; 43587; 43596 43597; 43643 43645;
   43696; 43698 43700; 43703 43704; 43710 43711; 43713; 43755 43759; 43765 43766; 44003 44010;
   44012 44013; 64286; 65056 65071; 66045; 66272; 66422 66426; 68097 68111; 68152 68159;
   68325 68326; 68900 68903; 68969 68973; 69291 69292; 69370 69375; 69446 69456; 69506 69509;
   69632 69634; 69688 69702; 69744; 69747 69748; 69759 69762; 69808 69818; 69826; 69888 69890;
   69927 69940; 69957 69958; 70003; 70016 70018; 70067 70080; 70089 70092; 70094 70095;
   70188 70199; 70206; 70209; 70367 70378; 70400 70403; 70459 70460; 70462 70477; 70487;
   70498 70516; 70584 70608; 70610; 70625 70626; 70709 70726; 70750; 70832 70851; 71087 71104;
   71132 71133; 71216 71232; 71339 71351; 71453 71467; 71724 71738; 71984 71998; 72000;
   72002 72003; 72145 72160; 72164; 72193 72202; 72243 72249; 72251 72254; 72263; 72273 72283;
   72330 72345; 72544 72551; 72751 72767; 72850 72886; 73009 73029; 73031; 73098 73111;
   73459 73462; 73472 73473; 73475; 73524 73538; 73562; 78912; 78919 78933; 90398 90415;
   92912 92916; 92976 92982; 94031; 94033 94098; 94180 94193; 113821 113822; 118528 118598;
   119141 119145; 119149 119170; 119173 119179; 119210 119213; 119362 119364; 121344 121398;
   121403 121452; 121461; 121476; 121499 121519; 122880 123023; 123184 123190; 123566;
   123628 123631; 124140 124143; 124398 124399; 124643; 124646; 124654 124655; 124661;
   125136 125142; 125252 125258;"

/-- Letters of scripts that are written from right to left. -/
def rightToLeft : String :=
  "1470; 1472; 1475; 1478; 1488 1524; 1544; 1547; 1549; 1563 1610; 1645 1647; 1649 1749;
   1765 1766; 1774 1775; 1786 1808; 1810 1839; 1869 1957; 1969 2026; 2036 2037; 2042; 2046 2069;
   2074; 2084; 2088; 2096 2136; 2142 2191; 2208 2249; 64434 64450; 65139; 67584 67867;
   67872 68096; 68112 68149; 68160 68324; 68331 68405; 68416 68899; 68928 68943; 68975 69007;
   69248 69289; 69293 69319; 69376 69445; 69457 69505; 69510 69622; 124928 125135; 125218 125251;
   125259 126269;"

/-- Digits that keep the direction of Arabic text. -/
def arabicNumbers : String :=
  "1632 1641; 1643 1644; 68912 68921; 69216 69246;"

/-- Digits that keep the direction of European text. -/
def europeanNumbers : String :=
  "48 57; 1776 1785; 66273 66299;"

/-- Characters that take their direction from those around them. -/
def neutral : String :=
  "0 47; 58 96; 123 215; 247; 697 698; 706 719; 722 749; 751 767; 885; 1014; 1418 1423;
   1542 1543; 1545 1546; 1548; 1550 1551; 1642; 1758; 1769; 2038 2041; 2546 2547; 2555; 2801;
   3059 3066; 3192 3198; 3647; 3898 3901; 5008 5017; 5120; 5787 5788; 6107; 6128 6154; 6464 6469;
   6622 6655; 8204 8385; 8452 8525; 8586 9013; 9083 9108; 9110 9899; 9901 10239; 10496 11263;
   11493 11498; 11513 11519; 11776 12292; 12296 12320; 12336; 12343; 12349 12351; 12448; 12539;
   12736 12773; 19904 19967; 42128 42182; 42509 42511; 42611; 42622 42623; 42752 42785; 42888;
   43048 43051; 43064 43065; 43124 43127; 43882 43883; 64451 65023; 65093 65094; 65793;
   65856 65932; 65936 65952; 67871; 68409 68415; 68974; 69328 69336; 69714 69733; 71264 71276;
   73685 73713; 94178; 117760 118512; 119273 119361; 119365; 119552 119638; 123647;
   126704 127279; 127341 127343; 127405; 127584 130042;"

/-- Marks that take their direction from the character before them. -/
def inheriting : String :=
  "768 879; 1155 1161; 1425 1469; 1471; 1473 1474; 1476 1477; 1479; 1552 1562; 1611 1631; 1648;
   1750 1756; 1759 1764; 1767 1768; 1770 1773; 1809; 1840 1866; 1958 1968; 2027 2035; 2045;
   2070 2073; 2075 2083; 2085 2087; 2089 2093; 2137 2139; 2199 2207; 2250 2306; 2362; 2364;
   2369 2376; 2381; 2385 2391; 2402 2403; 2433; 2492; 2497 2500; 2509; 2530 2531; 2558 2562;
   2620; 2625 2641; 2672 2673; 2677; 2689 2690; 2748; 2753 2760; 2765; 2786 2787; 2810 2817;
   2876; 2879; 2881 2884; 2893 2902; 2914 2915; 2946; 3008; 3021; 3072; 3076; 3132; 3134 3136;
   3142 3158; 3170 3171; 3201; 3260; 3276 3277; 3298 3299; 3328 3329; 3387 3388; 3393 3396; 3405;
   3426 3427; 3457; 3530; 3538 3542; 3633; 3636 3642; 3655 3662; 3761; 3764 3772; 3784 3790;
   3864 3865; 3893; 3895; 3897; 3953 3966; 3968 3972; 3974 3975; 3981 4028; 4038; 4141 4144;
   4146 4151; 4153 4154; 4157 4158; 4184 4185; 4190 4192; 4209 4212; 4226; 4229 4230; 4237; 4253;
   4957 4959; 5906 5908; 5938 5939; 5970 5971; 6002 6003; 6071 6077; 6086; 6089 6099; 6109;
   6277 6278; 6313; 6432 6434; 6439 6440; 6450; 6457 6459; 6679 6680; 6683; 6742; 6744 6752;
   6754; 6757 6764; 6771 6783; 6832 6915; 6964; 6966 6970; 6972; 6978; 7019 7027; 7040 7041;
   7074 7077; 7080 7081; 7083 7085; 7142; 7144 7145; 7149; 7151 7153; 7212 7219; 7222 7223;
   7376 7378; 7380 7392; 7394 7400; 7405; 7412; 7416 7417; 7616 7679; 8400 8432; 11503 11505;
   11647; 11744 11775; 12330 12333; 12441 12442; 42607 42610; 42612 42621; 42654 42655;
   42736 42737; 43010; 43014; 43019; 43045 43046; 43052; 43204 43205; 43232 43249; 43263;
   43302 43309; 43335 43345; 43392 43394; 43443; 43446 43449; 43452 43453; 43493; 43561 43566;
   43569 43570; 43573 43574; 43587; 43596; 43644; 43696; 43698 43700; 43703 43704; 43710 43711;
   43713; 43756 43757; 43766; 44005; 44008; 44013; 64286; 65056 65071; 66045; 66272; 66422 66426;
   68097 68111; 68152 68159; 68325 68326; 68900 68903; 68969 68973; 69291 69292; 69370 69375;
   69446 69456; 69506 69509; 69633; 69688 69702; 69744; 69747 69748; 69759 69761; 69811 69814;
   69817 69818; 69826; 69888 69890; 69927 69931; 69933 69940; 70003; 70016 70017; 70070 70078;
   70089 70092; 70095; 70191 70193; 70196; 70198 70199; 70206; 70209; 70367; 70371 70378;
   70400 70401; 70459 70460; 70464; 70502 70516; 70587 70592; 70606; 70608; 70610; 70625 70626;
   70712 70719; 70722 70724; 70726; 70750; 70835 70840; 70842; 70847 70848; 70850 70851;
   71090 71093; 71100 71101; 71103 71104; 71132 71133; 71219 71226; 71229; 71231 71232; 71339;
   71341; 71344 71349; 71351; 71453 71455; 71458 71461; 71463 71467; 71727 71735; 71737 71738;
   71995 71996; 71998; 72003; 72148 72155; 72160; 72193 72198; 72201 72202; 72243 72248;
   72251 72254; 72263; 72273 72278; 72281 72283; 72330 72342; 72344 72345; 72544; 72546 72548;
   72550; 72752 72765; 72850 72871; 72874 72880; 72882 72883; 72885 72886; 73009 73029; 73031;
   73104 73105; 73109; 73111; 73459 73460; 73472 73473; 73526 73530; 73536; 73538; 73562; 78912;
   78919 78933; 90398 90409; 90413 90415; 92912 92916; 92976 92982; 94031; 94095 94098; 94180;
   113821 113822; 118528 118598; 119143 119145; 119163 119170; 119173 119179; 119210 119213;
   119362 119364; 121344 121398; 121403 121452; 121461; 121476; 121499 121519; 122880 123023;
   123184 123190; 123566; 123628 123631; 124140 124143; 124398 124399; 124643; 124646;
   124654 124655; 124661; 125136 125142; 125252 125258;"

/-- Letters that join with both neighbours. -/
def joiningBoth : String :=
  "1568; 1574; 1576; 1578 1582; 1587 1599; 1601 1607; 1609 1610; 1646 1647; 1657 1671; 1690 1727;
   1729 1730; 1740; 1742; 1744 1745; 1786 1788; 1791; 1810 1812; 1818 1821; 1823 1831; 1833;
   1835; 1837 1838; 1870 1880; 1884 1898; 1901 1904; 1906; 1909 1911; 1914 1919; 1994 2026;
   2113 2117; 2120; 2122 2131; 2133; 2144; 2146 2149; 2152; 2182; 2185 2189; 2191; 2208 2217;
   2223 2224; 2227 2232; 2234 2248; 6151; 6176 6264; 6279 6312; 6314; 43072 43121; 68288 68292;
   68307 68310; 68312 68316; 68318 68320; 68331 68334; 68480; 68482; 68486 68488; 68490 68491;
   68493; 68496; 68525 68526; 68865 68897; 68899; 69315 69316; 69318 69319; 69424 69426;
   69428 69444; 69457 69459; 69488 69491; 69494 69505; 69552; 69554 69555; 69560; 69563 69564;
   69566 69567; 69569; 69572; 69578; 125218 125251;"

/-- Letters that join with the next one only. -/
def joiningNext : String :=
  "43122; 68301; 68311; 68864; 69579;"

/-- Letters that join with the previous one only. -/
def joiningPrevious : String :=
  "1570 1573; 1575; 1577; 1583 1586; 1608; 1649 1651; 1672 1689; 1728; 1731 1739; 1741; 1743;
   1746 1747; 1749; 1774 1775; 1808; 1813 1817; 1822; 1832; 1834; 1836; 1839; 1869; 1881 1883;
   1899 1900; 1905; 1907 1908; 1912 1913; 2112; 2118 2119; 2121; 2132; 2134 2136; 2151;
   2153 2178; 2190; 2218 2220; 2222; 2225 2226; 2233; 68293; 68295; 68297 68298; 68302 68306;
   68317; 68321; 68324; 68335; 68481; 68483 68485; 68489; 68492; 68494 68495; 68497; 68521 68524;
   68898; 69314; 69427; 69460; 69492 69493; 69556 69558; 69561 69562; 69565; 69570 69571; 69577;"

/-- Characters across which letters join. -/
def transparent : String :=
  "768 879; 1155 1161; 1425 1469; 1471; 1473 1474; 1476 1477; 1479; 1552 1562; 1611 1631; 1648;
   1750 1756; 1759 1764; 1767 1768; 1770 1773; 1809; 1840 1866; 1958 1968; 2027 2035; 2045;
   2070 2073; 2075 2083; 2085 2087; 2089 2093; 2137 2139; 2199 2207; 2250 2306; 2362; 2364;
   2369 2376; 2381; 2385 2391; 2402 2403; 2433; 2492; 2497 2500; 2509; 2530 2531; 2558 2562;
   2620; 2625 2641; 2672 2673; 2677; 2689 2690; 2748; 2753 2760; 2765; 2786 2787; 2810 2817;
   2876; 2879; 2881 2884; 2893 2902; 2914 2915; 2946; 3008; 3021; 3072; 3076; 3132; 3134 3136;
   3142 3158; 3170 3171; 3201; 3260; 3263; 3270; 3276 3277; 3298 3299; 3328 3329; 3387 3388;
   3393 3396; 3405; 3426 3427; 3457; 3530; 3538 3542; 3633; 3636 3642; 3655 3662; 3761;
   3764 3772; 3784 3790; 3864 3865; 3893; 3895; 3897; 3953 3966; 3968 3972; 3974 3975; 3981 4028;
   4038; 4141 4144; 4146 4151; 4153 4154; 4157 4158; 4184 4185; 4190 4192; 4209 4212; 4226;
   4229 4230; 4237; 4253; 4957 4959; 5906 5908; 5938 5939; 5970 5971; 6002 6003; 6071 6077; 6086;
   6089 6099; 6109; 6277 6278; 6313; 6432 6434; 6439 6440; 6450; 6457 6459; 6679 6680; 6683;
   6742; 6744 6752; 6754; 6757 6764; 6771 6783; 6832 6915; 6964; 6966 6970; 6972; 6978;
   7019 7027; 7040 7041; 7074 7077; 7080 7081; 7083 7085; 7142; 7144 7145; 7149; 7151 7153;
   7212 7219; 7222 7223; 7376 7378; 7380 7392; 7394 7400; 7405; 7412; 7416 7417; 7616 7679;
   8400 8432; 11503 11505; 11647; 11744 11775; 12330 12333; 12441 12442; 42607 42610;
   42612 42621; 42654 42655; 42736 42737; 43010; 43014; 43019; 43045 43046; 43052; 43204 43205;
   43232 43249; 43263; 43302 43309; 43335 43345; 43392 43394; 43443; 43446 43449; 43452 43453;
   43493; 43561 43566; 43569 43570; 43573 43574; 43587; 43596; 43644; 43696; 43698 43700;
   43703 43704; 43710 43711; 43713; 43756 43757; 43766; 44005; 44008; 44013; 64286; 65056 65071;
   66045; 66272; 66422 66426; 68097 68111; 68152 68159; 68325 68326; 68900 68903; 68969 68973;
   69291 69292; 69370 69375; 69446 69456; 69506 69509; 69633; 69688 69702; 69744; 69747 69748;
   69759 69761; 69811 69814; 69817 69818; 69826; 69888 69890; 69927 69931; 69933 69940; 70003;
   70016 70017; 70070 70078; 70089 70092; 70095; 70191 70193; 70196; 70198 70199; 70206; 70209;
   70367; 70371 70378; 70400 70401; 70459 70460; 70464; 70502 70516; 70587 70592; 70606; 70608;
   70610; 70625 70626; 70712 70719; 70722 70724; 70726; 70750; 70835 70840; 70842; 70847 70848;
   70850 70851; 71090 71093; 71100 71101; 71103 71104; 71132 71133; 71219 71226; 71229;
   71231 71232; 71339; 71341; 71344 71349; 71351; 71453; 71455; 71458 71461; 71463 71467;
   71727 71735; 71737 71738; 71995 71996; 71998; 72003; 72148 72155; 72160; 72193 72202;
   72243 72248; 72251 72254; 72263; 72273 72278; 72281 72283; 72330 72342; 72344 72345; 72544;
   72546 72548; 72550; 72752 72765; 72767; 72850 72871; 72874 72880; 72882 72883; 72885 72886;
   73009 73029; 73031; 73104 73105; 73109; 73111; 73459 73460; 73472 73473; 73526 73530; 73536;
   73538; 73562; 78912; 78919 78933; 90398 90409; 90413 90415; 92912 92916; 92976 92982; 94031;
   94095 94098; 94180; 113821 113822; 118528 118598; 119143 119145; 119163 119170; 119173 119179;
   119210 119213; 119362 119364; 121344 121398; 121403 121452; 121461; 121476; 121499 121519;
   122880 123023; 123184 123190; 123566; 123628 123631; 124140 124143; 124398 124399; 124643;
   124646; 124654 124655; 124661; 125136 125142; 125252 125259;"

end Caretaker.Host.LabelTable
