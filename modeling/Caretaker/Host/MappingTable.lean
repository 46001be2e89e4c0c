/-!
# Table of characters in host names

What a host name does with a character before the name is looked up: some characters
are refused, some vanish, and some stand for others.  All other characters stay as
they are.

Regular replacements are kept as runs of four numbers: the first and the last code
point of the run, the distance between its members, and the replacement of the
first; the others follow at the same distance.  A row of the table of irregular
replacements is a code point and what stands for it.
-/

namespace Caretaker.Host.MappingTable

/-- Code points that no name may hold. -/
def refused : String :=
  "128 159; 888 889; 896 899; 907; 909; 930; 1328; 1367 1368; 1419 1420; 1424; 1480 1487;
   1515 1518; 1525 1541; 1564; 1757; 1806 1807; 1867 1868; 1970 1983; 2043 2044; 2094 2095; 2111;
   2140 2141; 2143; 2155 2159; 2192 2198; 2274; 2436; 2445 2446; 2449 2450; 2473; 2481;
   2483 2485; 2490 2491; 2501 2502; 2505 2506; 2511 2518; 2520 2523; 2526; 2532 2533; 2559 2560;
   2564; 2571 2574; 2577 2578; 2601; 2609; 2612; 2615; 2618 2619; 2621; 2627 2630; 2633 2634;
   2638 2640; 2642 2648; 2653; 2655 2661; 2679 2688; 2692; 2702; 2706; 2729; 2737; 2740;
   2746 2747; 2758; 2762; 2766 2767; 2769 2783; 2788 2789; 2802 2808; 2816; 2820; 2829 2830;
   2833 2834; 2857; 2865; 2868; 2874 2875; 2885 2886; 2889 2890; 2894 2900; 2904 2907; 2910;
   2916 2917; 2936 2945; 2948; 2955 2957; 2961; 2966 2968; 2971; 2973; 2976 2978; 2981 2983;
   2987 2989; 3002 3005; 3011 3013; 3017; 3022 3023; 3025 3030; 3032 3045; 3067 3071; 3085; 3089;
   3113; 3130 3131; 3141; 3145; 3150 3156; 3159; 3163; 3166 3167; 3172 3173; 3184 3190; 3213;
   3217; 3241; 3252; 3258 3259; 3269; 3273; 3278 3284; 3287 3291; 3295; 3300 3301; 3312;
   3316 3327; 3341; 3345; 3397; 3401; 3408 3411; 3428 3429; 3456; 3460; 3479 3481; 3506; 3516;
   3518 3519; 3527 3529; 3531 3534; 3541; 3543; 3552 3557; 3568 3569; 3573 3584; 3643 3646;
   3676 3712; 3715; 3717; 3723; 3748; 3750; 3774 3775; 3781; 3783; 3791; 3802 3803; 3808 3839;
   3912; 3949 3952; 3992; 4029; 4045; 4059 4095; 4294; 4296 4300; 4302 4303; 4681; 4686 4687;
   4695; 4697; 4702 4703; 4745; 4750 4751; 4785; 4790 4791; 4799; 4801; 4806 4807; 4823; 4881;
   4886 4887; 4955 4956; 4989 4991; 5018 5023; 5110 5111; 5118 5119; 5760; 5789 5791; 5881 5887;
   5910 5918; 5943 5951; 5972 5983; 5997; 6001; 6004 6015; 6110 6111; 6122 6127; 6138 6143;
   6170 6175; 6265 6271; 6315 6319; 6390 6399; 6431; 6444 6447; 6460 6463; 6465 6467; 6510 6511;
   6517 6527; 6572 6575; 6602 6607; 6619 6621; 6684 6685; 6751; 6781 6782; 6794 6799; 6810 6815;
   6830 6831; 6878 6879; 6892 6911; 6989; 7156 7163; 7224 7226; 7242 7244; 7307 7311; 7355 7356;
   7368 7375; 7419 7423; 7958 7959; 7966 7967; 8006 8007; 8014 8015; 8024; 8026; 8028; 8030;
   8062 8063; 8117; 8133; 8148 8149; 8156; 8176 8177; 8181; 8191; 8206 8207; 8228 8230;
   8232 8238; 8293 8297; 8306 8307; 8335; 8349 8351; 8386 8399; 8433 8447; 8588 8591; 9258 9279;
   9291 9311; 9352 9371; 11124 11125; 11508 11512; 11558; 11560 11564; 11566 11567; 11624 11630;
   11633 11646; 11671 11679; 11687; 11695; 11703; 11711; 11719; 11727; 11735; 11743; 11870 11903;
   11930; 12020 12031; 12246 12287; 12352; 12439 12440; 12544 12548; 12592; 12687; 12774 12783;
   12831; 13250; 13255; 13272; 42125 42127; 42183 42191; 42540 42559; 42744 42751; 42973 42992;
   43053 43055; 43066 43071; 43128 43135; 43206 43213; 43226 43231; 43348 43358; 43389 43391;
   43470; 43482 43485; 43519; 43575 43583; 43598 43599; 43610 43611; 43715 43738; 43767 43776;
   43783 43784; 43791 43792; 43799 43807; 43815; 43823; 43884 43887; 44014 44015; 44026 44031;
   55204 55215; 55239 55242; 55292 63743; 64110 64111; 64218 64255; 64263 64274; 64280 64284;
   64311; 64317; 64319; 64322; 64325; 64976 65007; 65042; 65049 65055; 65072; 65106 65107; 65127;
   65132 65135; 65141; 65277 65278; 65280; 65471 65473; 65480 65481; 65488 65489; 65496 65497;
   65501 65503; 65511; 65519 65535; 65548; 65575; 65595; 65598; 65614 65615; 65630 65663;
   65787 65791; 65795 65798; 65844 65846; 65935; 65949 65951; 65953 65999; 66046 66175;
   66205 66207; 66257 66271; 66300 66303; 66340 66348; 66379 66383; 66427 66431; 66462;
   66500 66503; 66518 66559; 66718 66719; 66730 66735; 66772 66775; 66812 66815; 66856 66863;
   66916 66926; 66939; 66955; 66963; 66966; 66978; 66994; 67002; 67005 67007; 67060 67071;
   67383 67391; 67414 67423; 67432 67455; 67462; 67505; 67515 67583; 67590 67591; 67593; 67638;
   67641 67643; 67645 67646; 67670; 67743 67750; 67760 67807; 67827; 67830 67834; 67868 67870;
   67898 67902; 67930 67967; 68024 68027; 68048 68049; 68100; 68103 68107; 68116; 68120;
   68150 68151; 68155 68158; 68169 68175; 68185 68191; 68256 68287; 68327 68330; 68343 68351;
   68406 68408; 68438 68439; 68467 68471; 68498 68504; 68509 68520; 68528 68607; 68681 68735;
   68787 68799; 68851 68857; 68904 68911; 68922 68927; 68966 68968; 68998 69005; 69008 69215;
   69247; 69290; 69294 69295; 69298 69313; 69320 69327; 69337 69369; 69416 69423; 69466 69487;
   69514 69551; 69580 69599; 69623 69631; 69710 69713; 69750 69758; 69821; 69827 69839;
   69865 69871; 69882 69887; 69941; 69960 69967; 70007 70015; 70112; 70133 70143; 70162;
   70210 70271; 70279; 70281; 70286; 70302; 70314 70319; 70379 70383; 70394 70399; 70404;
   70413 70414; 70417 70418; 70441; 70449; 70452; 70458; 70469 70470; 70473 70474; 70478 70479;
   70481 70486; 70488 70492; 70500 70501; 70509 70511; 70517 70527; 70538; 70540 70541; 70543;
   70582; 70593; 70595 70596; 70598; 70603; 70614; 70617 70624; 70627 70655; 70748; 70754 70783;
   70856 70863; 70874 71039; 71094 71095; 71134 71167; 71237 71247; 71258 71263; 71277 71295;
   71354 71359; 71370 71375; 71396 71423; 71451 71452; 71468 71471; 71495 71679; 71740 71839;
   71923 71934; 71943 71944; 71946 71947; 71956; 71959; 71990; 71993 71994; 72007 72015;
   72026 72095; 72104 72105; 72152 72153; 72165 72191; 72264 72271; 72355 72367; 72441 72447;
   72458 72543; 72552 72639; 72674 72687; 72698 72703; 72713; 72759; 72774 72783; 72813 72815;
   72848 72849; 72872; 72887 72959; 72967; 72970; 73015 73017; 73019; 73022; 73032 73039;
   73050 73055; 73062; 73065; 73103; 73106; 73113 73119; 73130 73135; 73180 73183; 73194 73439;
   73465 73471; 73489; 73531 73533; 73563 73647; 73649 73663; 73714 73726; 74650 74751; 74863;
   74869 74879; 75076 77711; 77811 77823; 78896 78911; 78934 78943; 82939 82943; 83527 90367;
   90426 92159; 92729 92735; 92767; 92778 92781; 92863; 92874 92879; 92910 92911; 92918 92927;
   92998 93007; 93018; 93026; 93048 93052; 93072 93503; 93562 93759; 93851 93855; 93881 93882;
   93908 93951; 94027 94030; 94088 94094; 94112 94175; 94181 94191; 94199 94207; 101590 101630;
   101663 101759; 101875 110575; 110580; 110588; 110591; 110883 110897; 110899 110927;
   110931 110932; 110934 110947; 110952 110959; 111356 113663; 113771 113775; 113789 113791;
   113801 113807; 113818 113819; 113828 117759; 118013 118015; 118452 118457; 118481 118495;
   118513 118527; 118574 118575; 118599 118607; 118724 118783; 119030 119039; 119079 119080;
   119275 119295; 119366 119487; 119508 119519; 119540 119551; 119639 119647; 119673 119807;
   119893; 119965; 119968 119969; 119971 119972; 119975 119976; 119981; 119994; 119996; 120004;
   120070; 120075 120076; 120085; 120093; 120122; 120127; 120133; 120135 120137; 120145;
   120486 120487; 120780 120781; 121484 121498; 121504; 121520 122623; 122655 122660;
   122667 122879; 122887; 122905 122906; 122914; 122917; 122923 122927; 122990 123022;
   123024 123135; 123181 123183; 123198 123199; 123210 123213; 123216 123535; 123567 123583;
   123642 123646; 123648 124111; 124154 124367; 124411 124414; 124416 124607; 124639;
   124662 124669; 124672 124895; 124903; 124908; 124911; 124927; 125125 125126; 125143 125183;
   125260 125263; 125274 125277; 125280 126064; 126133 126208; 126270 126463; 126468; 126496;
   126499; 126501 126502; 126504; 126515; 126520; 126522; 126524 126529; 126531 126534; 126536;
   126538; 126540; 126544; 126547; 126549 126550; 126552; 126554; 126556; 126558; 126560; 126563;
   126565 126566; 126571; 126579; 126584; 126589; 126591; 126602; 126620 126624; 126628; 126634;
   126652 126703; 126706 126975; 127020 127023; 127124 127135; 127151 127152; 127168; 127184;
   127222 127232; 127406 127461; 127491 127503; 127548 127551; 127561 127567; 127570 127583;
   127590 127743; 128729 128731; 128749 128751; 128765 128767; 128986 128991; 129004 129007;
   129009 129023; 129036 129039; 129096 129103; 129114 129119; 129160 129167; 129198 129199;
   129212 129215; 129218 129231; 129241 129279; 129624 129631; 129646 129647; 129661 129663;
   129675 129677; 129735; 129737 129740; 129757 129758; 129771 129774; 129785 129791; 129939;
   130043 131071; 173792 173823; 178206 178207; 183982 183983; 191457 191471; 192094 194559;
   195102 196607; 201547 201551; 210042 917759; 918000 1114111;"

/-- Code points that leave no trace. -/
def vanishing : String :=
  "173; 847; 4447 4448; 6068 6069; 6155 6159; 8203; 8288 8292; 8298 8303; 12644; 65024 65039;
   65279; 65440; 113824 113827; 119155 119162; 917760 917999;"

/-- Runs of characters that stand for the characters of another run. -/
def moved : String :=
  "65 90 1 97; 192 214 1 224; 216 222 1 248; 256 302 2 257; 313 317 2 314; 321 327 2 322;
   330 374 2 331; 377 381 2 378; 416 420 2 417; 461 475 2 462; 478 494 2 479; 504 542 2 505;
   546 562 2 547; 582 590 2 583; 904 906 1 941; 913 929 1 945; 931 939 1 963; 984 1006 2 985;
   1021 1023 1 891; 1024 1039 1 1104; 1040 1071 1 1072; 1120 1152 2 1121; 1162 1214 2 1163;
   1217 1229 2 1218; 1232 1326 2 1233; 1329 1366 1 1377; 4256 4293 1 11520; 5112 5117 1 5104;
   7312 7354 1 4304; 7357 7359 1 4349; 7475 7482 1 103; 7517 7519 1 946; 7588 7590 1 616;
   7598 7601 1 626; 7612 7614 1 656; 7680 7828 2 7681; 7840 7934 2 7841; 7944 7951 1 7936;
   7960 7965 1 7952; 7976 7983 1 7968; 7992 7999 1 7984; 8008 8013 1 8000; 8025 8031 2 8017;
   8040 8047 1 8032; 8308 8313 1 52; 8320 8329 1 48; 8342 8345 1 107; 8473 8475 1 112;
   8501 8504 1 1488; 9312 9320 1 49; 9398 9423 1 97; 9424 9449 1 97; 11264 11311 1 11312;
   11367 11371 2 11368; 11392 11490 2 11393; 12599 12601 1 4355; 12602 12607 1 4528;
   12609 12611 1 4358; 12613 12622 1 4361; 12623 12643 1 4449; 12664 12668 1 4395;
   12676 12678 1 4439; 12899 12901 1 4357; 12905 12909 1 4366; 13028 13033 1 12490;
   13038 13042 1 12510; 13045 13050 1 12520; 13051 13054 1 12527; 42560 42604 2 42561;
   42624 42650 2 42625; 42786 42798 2 42787; 42802 42862 2 42803; 42878 42886 2 42879;
   42902 42920 2 42903; 42932 42946 2 42933; 42956 42970 2 42957; 43888 43967 1 5024;
   64292 64294 1 1499; 65089 65092 1 12300; 65281 65312 1 33; 65313 65338 1 97; 65339 65374 1 91;
   65413 65418 1 12490; 65423 65427 1 12510; 65430 65435 1 12520; 65447 65449 1 4355;
   65450 65455 1 4528; 65457 65459 1 4358; 65461 65470 1 4361; 65474 65479 1 4449;
   65482 65487 1 4455; 65490 65495 1 4461; 65498 65500 1 4467; 65513 65516 1 8592;
   66560 66599 1 66600; 66736 66771 1 66776; 66928 66938 1 66967; 66940 66954 1 66979;
   66956 66962 1 66995; 67510 67512 1 448; 68736 68786 1 68800; 68944 68965 1 68976;
   71840 71871 1 71872; 93760 93791 1 93792; 93856 93880 1 93883; 117974 117999 1 97;
   118000 118009 1 48; 119808 119833 1 97; 119834 119859 1 97; 119860 119885 1 97;
   119886 119892 1 97; 119894 119911 1 105; 119912 119937 1 97; 119938 119963 1 97;
   119967 119973 3 100; 119978 119980 1 111; 119982 119989 1 115; 119990 119993 1 97;
   119998 120003 1 105; 120005 120015 1 112; 120016 120041 1 97; 120042 120067 1 97;
   120071 120074 1 100; 120077 120084 1 106; 120086 120092 1 115; 120094 120119 1 97;
   120123 120126 1 100; 120128 120132 1 105; 120139 120144 1 116; 120146 120171 1 97;
   120172 120197 1 97; 120198 120223 1 97; 120224 120249 1 97; 120250 120275 1 97;
   120276 120301 1 97; 120302 120327 1 97; 120328 120353 1 97; 120354 120379 1 97;
   120380 120405 1 97; 120406 120431 1 97; 120432 120457 1 97; 120458 120483 1 97;
   120488 120504 1 945; 120506 120512 1 963; 120514 120530 1 945; 120532 120538 1 963;
   120546 120562 1 945; 120564 120570 1 963; 120572 120588 1 945; 120590 120596 1 963;
   120604 120620 1 945; 120622 120628 1 963; 120630 120646 1 945; 120648 120654 1 963;
   120662 120678 1 945; 120680 120686 1 963; 120688 120704 1 945; 120706 120712 1 963;
   120720 120736 1 945; 120738 120744 1 963; 120746 120762 1 945; 120764 120770 1 963;
   120782 120791 1 48; 120792 120801 1 48; 120802 120811 1 48; 120812 120821 1 48;
   120822 120831 1 48; 122928 122936 1 1072; 122937 122939 1 1082; 122940 122950 1 1086;
   122961 122969 1 1072; 122975 122980 1 1091; 125184 125217 1 125218; 126474 126477 1 1603;
   126506 126509 1 1603; 126603 126605 1 1604; 126635 126637 1 1604; 127280 127305 1 97;
   130032 130041 1 48;"

/-- Characters with replacements of their own. -/
def replaced : String :=
  "160 32; 168 32 776; 170 97; 175 32 772; 178 50; 179 51; 180 32 769; 181 956; 184 32 807;
   185 49; 186 111; 188 49 8260 52; 189 49 8260 50; 190 51 8260 52; 304 105 775; 306 105 106;
   307 105 106; 308 309; 310 311; 319 108 183; 320 108 183; 329 700 110; 376 255; 383 115;
   385 595; 386 387; 388 389; 390 596; 391 392; 393 598; 394 599; 395 396; 398 477; 399 601;
   400 603; 401 402; 403 608; 404 611; 406 617; 407 616; 408 409; 412 623; 413 626; 415 629;
   422 640; 423 424; 425 643; 428 429; 430 648; 431 432; 433 650; 434 651; 435 436; 437 438;
   439 658; 440 441; 444 445; 452 100 382; 453 100 382; 454 100 382; 455 108 106; 456 108 106;
   457 108 106; 458 110 106; 459 110 106; 460 110 106; 497 100 122; 498 100 122; 499 100 122;
   500 501; 502 405; 503 447; 544 414; 570 11365; 571 572; 573 410; 574 11366; 577 578; 579 384;
   580 649; 581 652; 688 104; 689 614; 690 106; 691 114; 692 633; 693 635; 694 641; 695 119;
   696 121; 728 32 774; 729 32 775; 730 32 778; 731 32 808; 732 32 771; 733 32 779; 736 611;
   737 108; 738 115; 739 120; 740 661; 832 768; 833 769; 835 787; 836 776 769; 837 953; 880 881;
   882 883; 884 697; 886 887; 890 32 953; 894 59; 895 1011; 900 32 769; 901 32 776 769; 902 940;
   903 183; 908 972; 910 973; 911 974; 975 983; 976 946; 977 952; 978 965; 979 973; 980 971;
   981 966; 982 960; 1008 954; 1009 961; 1010 963; 1012 952; 1013 949; 1015 1016; 1017 963;
   1018 1019; 1216 1231; 1415 1381 1410; 1653 1575 1652; 1654 1608 1652; 1655 1735 1652;
   1656 1610 1652; 2392 2325 2364; 2393 2326 2364; 2394 2327 2364; 2395 2332 2364;
   2396 2337 2364; 2397 2338 2364; 2398 2347 2364; 2399 2351 2364; 2524 2465 2492;
   2525 2466 2492; 2527 2479 2492; 2611 2610 2620; 2614 2616 2620; 2649 2582 2620;
   2650 2583 2620; 2651 2588 2620; 2654 2603 2620; 2908 2849 2876; 2909 2850 2876;
   3635 3661 3634; 3763 3789 3762; 3804 3755 3737; 3805 3755 3745; 3852 3851; 3907 3906 4023;
   3917 3916 4023; 3922 3921 4023; 3927 3926 4023; 3932 3931 4023; 3945 3904 4021;
   3955 3953 3954; 3957 3953 3956; 3958 4018 3968; 3959 4018 3953 3968; 3960 4019 3968;
   3961 4019 3953 3968; 3969 3953 3968; 3987 3986 4023; 3997 3996 4023; 4002 4001 4023;
   4007 4006 4023; 4012 4011 4023; 4025 3984 4021; 4295 11559; 4301 11565; 4348 4316; 7296 1074;
   7297 1076; 7298 1086; 7299 1089; 7300 1090; 7301 1090; 7302 1098; 7303 1123; 7304 42571;
   7305 7306; 7468 97; 7469 230; 7470 98; 7472 100; 7473 101; 7474 477; 7484 111; 7485 547;
   7486 112; 7487 114; 7488 116; 7489 117; 7490 119; 7491 97; 7492 592; 7493 593; 7494 7426;
   7495 98; 7496 100; 7497 101; 7498 601; 7499 603; 7500 604; 7501 103; 7503 107; 7504 109;
   7505 331; 7506 111; 7507 596; 7508 7446; 7509 7447; 7510 112; 7511 116; 7512 117; 7513 7453;
   7514 623; 7515 118; 7516 7461; 7520 966; 7521 967; 7522 105; 7523 114; 7524 117; 7525 118;
   7526 946; 7527 947; 7528 961; 7529 966; 7530 967; 7544 1085; 7579 594; 7580 99; 7581 597;
   7582 240; 7583 604; 7584 102; 7585 607; 7586 609; 7587 613; 7591 7547; 7592 669; 7593 621;
   7594 7557; 7595 671; 7596 625; 7597 624; 7602 632; 7603 642; 7604 643; 7605 427; 7606 649;
   7607 650; 7608 7452; 7609 651; 7610 652; 7611 122; 7615 952; 7834 97 702; 7835 7777; 7838 223;
   8049 940; 8051 941; 8053 942; 8055 943; 8057 972; 8059 973; 8061 974; 8064 7936 953;
   8065 7937 953; 8066 7938 953; 8067 7939 953; 8068 7940 953; 8069 7941 953; 8070 7942 953;
   8071 7943 953; 8072 7936 953; 8073 7937 953; 8074 7938 953; 8075 7939 953; 8076 7940 953;
   8077 7941 953; 8078 7942 953; 8079 7943 953; 8080 7968 953; 8081 7969 953; 8082 7970 953;
   8083 7971 953; 8084 7972 953; 8085 7973 953; 8086 7974 953; 8087 7975 953; 8088 7968 953;
   8089 7969 953; 8090 7970 953; 8091 7971 953; 8092 7972 953; 8093 7973 953; 8094 7974 953;
   8095 7975 953; 8096 8032 953; 8097 8033 953; 8098 8034 953; 8099 8035 953; 8100 8036 953;
   8101 8037 953; 8102 8038 953; 8103 8039 953; 8104 8032 953; 8105 8033 953; 8106 8034 953;
   8107 8035 953; 8108 8036 953; 8109 8037 953; 8110 8038 953; 8111 8039 953; 8114 8048 953;
   8115 945 953; 8116 940 953; 8119 8118 953; 8120 8112; 8121 8113; 8122 8048; 8123 940;
   8124 945 953; 8125 32 787; 8126 953; 8127 32 787; 8128 32 834; 8129 32 776 834; 8130 8052 953;
   8131 951 953; 8132 942 953; 8135 8134 953; 8136 8050; 8137 941; 8138 8052; 8139 942;
   8140 951 953; 8141 32 787 768; 8142 32 787 769; 8143 32 787 834; 8147 912; 8152 8144;
   8153 8145; 8154 8054; 8155 943; 8157 32 788 768; 8158 32 788 769; 8159 32 788 834; 8163 944;
   8168 8160; 8169 8161; 8170 8058; 8171 973; 8172 8165; 8173 32 776 768; 8174 32 776 769;
   8175 96; 8178 8060 953; 8179 969 953; 8180 974 953; 8183 8182 953; 8184 8056; 8185 972;
   8186 8060; 8187 974; 8188 969 953; 8189 32 769; 8190 32 788; 8192 32; 8193 32; 8194 32;
   8195 32; 8196 32; 8197 32; 8198 32; 8199 32; 8200 32; 8201 32; 8202 32; 8209 8208;
   8215 32 819; 8239 32; 8243 8242 8242; 8244 8242 8242 8242; 8246 8245 8245;
   8247 8245 8245 8245; 8252 33 33; 8254 32 773; 8263 63 63; 8264 63 33; 8265 33 63;
   8279 8242 8242 8242 8242; 8287 32; 8304 48; 8305 105; 8314 43; 8315 8722; 8316 61; 8317 40;
   8318 41; 8319 110; 8330 43; 8331 8722; 8332 61; 8333 40; 8334 41; 8336 97; 8337 101; 8338 111;
   8339 120; 8340 601; 8341 104; 8346 112; 8347 115; 8348 116; 8360 114 115; 8448 97 47 99;
   8449 97 47 115; 8450 99; 8451 176 99; 8453 99 47 111; 8454 99 47 117; 8455 603; 8457 176 102;
   8458 103; 8459 104; 8460 104; 8461 104; 8462 104; 8463 295; 8464 105; 8465 105; 8466 108;
   8467 108; 8469 110; 8470 110 111; 8476 114; 8477 114; 8480 115 109; 8481 116 101 108;
   8482 116 109; 8484 122; 8486 969; 8488 122; 8490 107; 8491 229; 8492 98; 8493 99; 8495 101;
   8496 101; 8497 102; 8498 8526; 8499 109; 8500 111; 8505 105; 8507 102 97 120; 8508 960;
   8509 947; 8510 947; 8511 960; 8512 8721; 8517 100; 8518 100; 8519 101; 8520 105; 8521 106;
   8528 49 8260 55; 8529 49 8260 57; 8530 49 8260 49 48; 8531 49 8260 51; 8532 50 8260 51;
   8533 49 8260 53; 8534 50 8260 53; 8535 51 8260 53; 8536 52 8260 53; 8537 49 8260 54;
   8538 53 8260 54; 8539 49 8260 56; 8540 51 8260 56; 8541 53 8260 56; 8542 55 8260 56;
   8543 49 8260; 8544 105; 8545 105 105; 8546 105 105 105; 8547 105 118; 8548 118; 8549 118 105;
   8550 118 105 105; 8551 118 105 105 105; 8552 105 120; 8553 120; 8554 120 105;
   8555 120 105 105; 8556 108; 8557 99; 8558 100; 8559 109; 8560 105; 8561 105 105;
   8562 105 105 105; 8563 105 118; 8564 118; 8565 118 105; 8566 118 105 105;
   8567 118 105 105 105; 8568 105 120; 8569 120; 8570 120 105; 8571 120 105 105; 8572 108;
   8573 99; 8574 100; 8575 109; 8579 8580; 8585 48 8260 51; 8748 8747 8747; 8749 8747 8747 8747;
   8751 8750 8750; 8752 8750 8750 8750; 9001 12296; 9002 12297; 9321 49 48; 9322 49 49;
   9323 49 50; 9324 49 51; 9325 49 52; 9326 49 53; 9327 49 54; 9328 49 55; 9329 49 56;
   9330 49 57; 9331 50 48; 9332 40 49 41; 9333 40 50 41; 9334 40 51 41; 9335 40 52 41;
   9336 40 53 41; 9337 40 54 41; 9338 40 55 41; 9339 40 56 41; 9340 40 57 41; 9341 40 49 48 41;
   9342 40 49 49 41; 9343 40 49 50 41; 9344 40 49 51 41; 9345 40 49 52 41; 9346 40 49 53 41;
   9347 40 49 54 41; 9348 40 49 55 41; 9349 40 49 56 41; 9350 40 49 57 41; 9351 40 50 48 41;
   9372 40 97 41; 9373 40 98 41; 9374 40 99 41; 9375 40 100 41; 9376 40 101 41; 9377 40 102 41;
   9378 40 103 41; 9379 40 104 41; 9380 40 105 41; 9381 40 106 41; 9382 40 107 41;
   9383 40 108 41; 9384 40 109 41; 9385 40 110 41; 9386 40 111 41; 9387 40 112 41;
   9388 40 113 41; 9389 40 114 41; 9390 40 115 41; 9391 40 116 41; 9392 40 117 41;
   9393 40 118 41; 9394 40 119 41; 9395 40 120 41; 9396 40 121 41; 9397 40 122 41; 9450 48;
   10764 8747 8747 8747 8747; 10868 58 58 61; 10869 61 61; 10870 61 61 61; 10972 10973 824;
   11360 11361; 11362 619; 11363 7549; 11364 637; 11373 593; 11374 625; 11375 592; 11376 594;
   11378 11379; 11381 11382; 11388 106; 11389 118; 11390 575; 11391 576; 11499 11500;
   11501 11502; 11506 11507; 11631 11617; 11935 27597; 12019 40863; 12032 19968; 12033 20008;
   12034 20022; 12035 20031; 12036 20057; 12037 20101; 12038 20108; 12039 20128; 12040 20154;
   12041 20799; 12042 20837; 12043 20843; 12044 20866; 12045 20886; 12046 20907; 12047 20960;
   12048 20981; 12049 20992; 12050 21147; 12051 21241; 12052 21269; 12053 21274; 12054 21304;
   12055 21313; 12056 21340; 12057 21353; 12058 21378; 12059 21430; 12060 21448; 12061 21475;
   12062 22231; 12063 22303; 12064 22763; 12065 22786; 12066 22794; 12067 22805; 12068 22823;
   12069 22899; 12070 23376; 12071 23424; 12072 23544; 12073 23567; 12074 23586; 12075 23608;
   12076 23662; 12077 23665; 12078 24027; 12079 24037; 12080 24049; 12081 24062; 12082 24178;
   12083 24186; 12084 24191; 12085 24308; 12086 24318; 12087 24331; 12088 24339; 12089 24400;
   12090 24417; 12091 24435; 12092 24515; 12093 25096; 12094 25142; 12095 25163; 12096 25903;
   12097 25908; 12098 25991; 12099 26007; 12100 26020; 12101 26041; 12102 26080; 12103 26085;
   12104 26352; 12105 26376; 12106 26408; 12107 27424; 12108 27490; 12109 27513; 12110 27571;
   12111 27595; 12112 27604; 12113 27611; 12114 27663; 12115 27668; 12116 27700; 12117 28779;
   12118 29226; 12119 29238; 12120 29243; 12121 29247; 12122 29255; 12123 29273; 12124 29275;
   12125 29356; 12126 29572; 12127 29577; 12128 29916; 12129 29926; 12130 29976; 12131 29983;
   12132 29992; 12133 30000; 12134 30091; 12135 30098; 12136 30326; 12137 30333; 12138 30382;
   12139 30399; 12140 30446; 12141 30683; 12142 30690; 12143 30707; 12144 31034; 12145 31160;
   12146 31166; 12147 31348; 12148 31435; 12149 31481; 12150 31859; 12151 31992; 12152 32566;
   12153 32593; 12154 32650; 12155 32701; 12156 32769; 12157 32780; 12158 32786; 12159 32819;
   12160 32895; 12161 32905; 12162 33251; 12163 33258; 12164 33267; 12165 33276; 12166 33292;
   12167 33307; 12168 33311; 12169 33390; 12170 33394; 12171 33400; 12172 34381; 12173 34411;
   12174 34880; 12175 34892; 12176 34915; 12177 35198; 12178 35211; 12179 35282; 12180 35328;
   12181 35895; 12182 35910; 12183 35925; 12184 35960; 12185 35997; 12186 36196; 12187 36208;
   12188 36275; 12189 36523; 12190 36554; 12191 36763; 12192 36784; 12193 36789; 12194 37009;
   12195 37193; 12196 37318; 12197 37324; 12198 37329; 12199 38263; 12200 38272; 12201 38428;
   12202 38582; 12203 38585; 12204 38632; 12205 38737; 12206 38750; 12207 38754; 12208 38761;
   12209 38859; 12210 38893; 12211 38899; 12212 38913; 12213 39080; 12214 39131; 12215 39135;
   12216 39318; 12217 39321; 12218 39340; 12219 39592; 12220 39640; 12221 39647; 12222 39717;
   12223 39727; 12224 39730; 12225 39740; 12226 39770; 12227 40165; 12228 40565; 12229 40575;
   12230 40613; 12231 40635; 12232 40643; 12233 40653; 12234 40657; 12235 40697; 12236 40701;
   12237 40718; 12238 40723; 12239 40736; 12240 40763; 12241 40778; 12242 40786; 12243 40845;
   12244 40860; 12245 40864; 12288 32; 12290 46; 12342 12306; 12344 21313; 12345 21316;
   12346 21317; 12443 32 12441; 12444 32 12442; 12447 12424 12426; 12543 12467 12488; 12593 4352;
   12594 4353; 12595 4522; 12596 4354; 12597 4524; 12598 4525; 12608 4378; 12612 4385;
   12645 4372; 12646 4373; 12647 4551; 12648 4552; 12649 4556; 12650 4558; 12651 4563;
   12652 4567; 12653 4569; 12654 4380; 12655 4573; 12656 4575; 12657 4381; 12658 4382;
   12659 4384; 12660 4386; 12661 4387; 12662 4391; 12663 4393; 12669 4402; 12670 4406;
   12671 4416; 12672 4423; 12673 4428; 12674 4593; 12675 4594; 12679 4484; 12680 4485;
   12681 4488; 12682 4497; 12683 4498; 12684 4500; 12685 4510; 12686 4513; 12690 19968;
   12691 20108; 12692 19977; 12693 22235; 12694 19978; 12695 20013; 12696 19979; 12697 30002;
   12698 20057; 12699 19993; 12700 19969; 12701 22825; 12702 22320; 12703 20154;
   12800 40 4352 41; 12801 40 4354 41; 12802 40 4355 41; 12803 40 4357 41; 12804 40 4358 41;
   12805 40 4359 41; 12806 40 4361 41; 12807 40 4363 41; 12808 40 4364 41; 12809 40 4366 41;
   12810 40 4367 41; 12811 40 4368 41; 12812 40 4369 41; 12813 40 4370 41; 12814 40 44032 41;
   12815 40 45208 41; 12816 40 45796 41; 12817 40 46972 41; 12818 40 47560 41; 12819 40 48148 41;
   12820 40 49324 41; 12821 40 50500 41; 12822 40 51088 41; 12823 40 52264 41; 12824 40 52852 41;
   12825 40 53440 41; 12826 40 54028 41; 12827 40 54616 41; 12828 40 51452 41;
   12829 40 50724 51204 41; 12830 40 50724 54980 41; 12832 40 19968 41; 12833 40 20108 41;
   12834 40 19977 41; 12835 40 22235 41; 12836 40 20116 41; 12837 40 20845 41; 12838 40 19971 41;
   12839 40 20843 41; 12840 40 20061 41; 12841 40 21313 41; 12842 40 26376 41; 12843 40 28779 41;
   12844 40 27700 41; 12845 40 26408 41; 12846 40 37329 41; 12847 40 22303 41; 12848 40 26085 41;
   12849 40 26666 41; 12850 40 26377 41; 12851 40 31038 41; 12852 40 21517 41; 12853 40 29305 41;
   12854 40 36001 41; 12855 40 31069 41; 12856 40 21172 41; 12857 40 20195 41; 12858 40 21628 41;
   12859 40 23398 41; 12860 40 30435 41; 12861 40 20225 41; 12862 40 36039 41; 12863 40 21332 41;
   12864 40 31085 41; 12865 40 20241 41; 12866 40 33258 41; 12867 40 33267 41; 12868 21839;
   12869 24188; 12870 25991; 12871 31631; 12880 112 116 101; 12881 50 49; 12882 50 50;
   12883 50 51; 12884 50 52; 12885 50 53; 12886 50 54; 12887 50 55; 12888 50 56; 12889 50 57;
   12890 51 48; 12891 51 49; 12892 51 50; 12893 51 51; 12894 51 52; 12895 51 53; 12896 4352;
   12897 4354; 12898 4355; 12902 4361; 12903 4363; 12904 4364; 12910 44032; 12911 45208;
   12912 45796; 12913 46972; 12914 47560; 12915 48148; 12916 49324; 12917 50500; 12918 51088;
   12919 52264; 12920 52852; 12921 53440; 12922 54028; 12923 54616; 12924 52280 44256;
   12925 51452 51032; 12926 50864; 12928 19968; 12929 20108; 12930 19977; 12931 22235;
   12932 20116; 12933 20845; 12934 19971; 12935 20843; 12936 20061; 12937 21313; 12938 26376;
   12939 28779; 12940 27700; 12941 26408; 12942 37329; 12943 22303; 12944 26085; 12945 26666;
   12946 26377; 12947 31038; 12948 21517; 12949 29305; 12950 36001; 12951 31069; 12952 21172;
   12953 31192; 12954 30007; 12955 22899; 12956 36969; 12957 20778; 12958 21360; 12959 27880;
   12960 38917; 12961 20241; 12962 20889; 12963 27491; 12964 19978; 12965 20013; 12966 19979;
   12967 24038; 12968 21491; 12969 21307; 12970 23447; 12971 23398; 12972 30435; 12973 20225;
   12974 36039; 12975 21332; 12976 22812; 12977 51 54; 12978 51 55; 12979 51 56; 12980 51 57;
   12981 52 48; 12982 52 49; 12983 52 50; 12984 52 51; 12985 52 52; 12986 52 53; 12987 52 54;
   12988 52 55; 12989 52 56; 12990 52 57; 12991 53 48; 12992 49 26376; 12993 50 26376;
   12994 51 26376; 12995 52 26376; 12996 53 26376; 12997 54 26376; 12998 55 26376;
   12999 56 26376; 13000 57 26376; 13001 49 48 26376; 13002 49 49 26376; 13003 49 50 26376;
   13004 104 103; 13005 101 114 103; 13006 101 118; 13007 108 116 100; 13008 12450; 13009 12452;
   13010 12454; 13011 12456; 13012 12458; 13013 12459; 13014 12461; 13015 12463; 13016 12465;
   13017 12467; 13018 12469; 13019 12471; 13020 12473; 13021 12475; 13022 12477; 13023 12479;
   13024 12481; 13025 12484; 13026 12486; 13027 12488; 13034 12498; 13035 12501; 13036 12504;
   13037 12507; 13043 12516; 13044 12518; 13055 20196 21644; 13056 12450 12497 12540 12488;
   13057 12450 12523 12501 12449; 13058 12450 12531 12506 12450; 13059 12450 12540 12523;
   13060 12452 12491 12531 12464; 13061 12452 12531 12481; 13062 12454 12457 12531;
   13063 12456 12473 12463 12540 12489; 13064 12456 12540 12459 12540; 13065 12458 12531 12473;
   13066 12458 12540 12512; 13067 12459 12452 12522; 13068 12459 12521 12483 12488;
   13069 12459 12525 12522 12540; 13070 12460 12525 12531; 13071 12460 12531 12510;
   13072 12462 12460; 13073 12462 12491 12540; 13074 12461 12517 12522 12540;
   13075 12462 12523 12480 12540; 13076 12461 12525; 13077 12461 12525 12464 12521 12512;
   13078 12461 12525 12513 12540 12488 12523; 13079 12461 12525 12527 12483 12488;
   13080 12464 12521 12512; 13081 12464 12521 12512 12488 12531;
   13082 12463 12523 12476 12452 12525; 13083 12463 12525 12540 12493; 13084 12465 12540 12473;
   13085 12467 12523 12490; 13086 12467 12540 12509; 13087 12469 12452 12463 12523;
   13088 12469 12531 12481 12540 12512; 13089 12471 12522 12531 12464; 13090 12475 12531 12481;
   13091 12475 12531 12488; 13092 12480 12540 12473; 13093 12487 12471; 13094 12489 12523;
   13095 12488 12531; 13096 12490 12494; 13097 12494 12483 12488; 13098 12495 12452 12484;
   13099 12497 12540 12475 12531 12488; 13100 12497 12540 12484; 13101 12496 12540 12524 12523;
   13102 12500 12450 12473 12488 12523; 13103 12500 12463 12523; 13104 12500 12467;
   13105 12499 12523; 13106 12501 12449 12521 12483 12489; 13107 12501 12451 12540 12488;
   13108 12502 12483 12471 12455 12523; 13109 12501 12521 12531;
   13110 12504 12463 12479 12540 12523; 13111 12506 12477; 13112 12506 12491 12498;
   13113 12504 12523 12484; 13114 12506 12531 12473; 13115 12506 12540 12472;
   13116 12505 12540 12479; 13117 12509 12452 12531 12488; 13118 12508 12523 12488;
   13119 12507 12531; 13120 12509 12531 12489; 13121 12507 12540 12523; 13122 12507 12540 12531;
   13123 12510 12452 12463 12525; 13124 12510 12452 12523; 13125 12510 12483 12495;
   13126 12510 12523 12463; 13127 12510 12531 12471 12519 12531; 13128 12511 12463 12525 12531;
   13129 12511 12522; 13130 12511 12522 12496 12540 12523; 13131 12513 12460;
   13132 12513 12460 12488 12531; 13133 12513 12540 12488 12523; 13134 12516 12540 12489;
   13135 12516 12540 12523; 13136 12518 12450 12531; 13137 12522 12483 12488 12523;
   13138 12522 12521; 13139 12523 12500 12540; 13140 12523 12540 12502 12523; 13141 12524 12512;
   13142 12524 12531 12488 12466 12531; 13143 12527 12483 12488; 13144 48 28857; 13145 49 28857;
   13146 50 28857; 13147 51 28857; 13148 52 28857; 13149 53 28857; 13150 54 28857;
   13151 55 28857; 13152 56 28857; 13153 57 28857; 13154 49 48 28857; 13155 49 49 28857;
   13156 49 50 28857; 13157 49 51 28857; 13158 49 52 28857; 13159 49 53 28857; 13160 49 54 28857;
   13161 49 55 28857; 13162 49 56 28857; 13163 49 57 28857; 13164 50 48 28857; 13165 50 49 28857;
   13166 50 50 28857; 13167 50 51 28857; 13168 50 52 28857; 13169 104 112 97; 13170 100 97;
   13171 97 117; 13172 98 97 114; 13173 111 118; 13174 112 99; 13175 100 109; 13176 100 109 50;
   13177 100 109 51; 13178 105 117; 13179 24179 25104; 13180 26157 21644; 13181 22823 27491;
   13182 26126 27835; 13183 26666 24335 20250 31038; 13184 112 97; 13185 110 97; 13186 956 97;
   13187 109 97; 13188 107 97; 13189 107 98; 13190 109 98; 13191 103 98; 13192 99 97 108;
   13193 107 99 97 108; 13194 112 102; 13195 110 102; 13196 956 102; 13197 956 103;
   13198 109 103; 13199 107 103; 13200 104 122; 13201 107 104 122; 13202 109 104 122;
   13203 103 104 122; 13204 116 104 122; 13205 956 108; 13206 109 108; 13207 100 108;
   13208 107 108; 13209 102 109; 13210 110 109; 13211 956 109; 13212 109 109; 13213 99 109;
   13214 107 109; 13215 109 109 50; 13216 99 109 50; 13217 109 50; 13218 107 109 50;
   13219 109 109 51; 13220 99 109 51; 13221 109 51; 13222 107 109 51; 13223 109 8725 115;
   13224 109 8725 115 50; 13225 112 97; 13226 107 112 97; 13227 109 112 97; 13228 103 112 97;
   13229 114 97 100; 13230 114 97 100 8725 115; 13231 114 97 100 8725 115 50; 13232 112 115;
   13233 110 115; 13234 956 115; 13235 109 115; 13236 112 118; 13237 110 118; 13238 956 118;
   13239 109 118; 13240 107 118; 13241 109 118; 13242 112 119; 13243 110 119; 13244 956 119;
   13245 109 119; 13246 107 119; 13247 109 119; 13248 107 969; 13249 109 969; 13251 98 113;
   13252 99 99; 13253 99 100; 13254 99 8725 107 103; 13256 100 98; 13257 103 121; 13258 104 97;
   13259 104 112; 13260 105 110; 13261 107 107; 13262 107 109; 13263 107 116; 13264 108 109;
   13265 108 110; 13266 108 111 103; 13267 108 120; 13268 109 98; 13269 109 105 108;
   13270 109 111 108; 13271 112 104; 13273 112 112 109; 13274 112 114; 13275 115 114;
   13276 115 118; 13277 119 98; 13278 118 8725 109; 13279 97 8725 109; 13280 49 26085;
   13281 50 26085; 13282 51 26085; 13283 52 26085; 13284 53 26085; 13285 54 26085;
   13286 55 26085; 13287 56 26085; 13288 57 26085; 13289 49 48 26085; 13290 49 49 26085;
   13291 49 50 26085; 13292 49 51 26085; 13293 49 52 26085; 13294 49 53 26085; 13295 49 54 26085;
   13296 49 55 26085; 13297 49 56 26085; 13298 49 57 26085; 13299 50 48 26085; 13300 50 49 26085;
   13301 50 50 26085; 13302 50 51 26085; 13303 50 52 26085; 13304 50 53 26085; 13305 50 54 26085;
   13306 50 55 26085; 13307 50 56 26085; 13308 50 57 26085; 13309 51 48 26085; 13310 51 49 26085;
   13311 103 97 108; 42652 1098; 42653 1100; 42864 42863; 42873 42874; 42875 42876; 42877 7545;
   42891 42892; 42893 613; 42896 42897; 42898 42899; 42922 614; 42923 604; 42924 609; 42925 620;
   42926 618; 42928 670; 42929 647; 42930 669; 42931 43859; 42948 42900; 42949 642; 42950 7566;
   42951 42952; 42953 42954; 42955 612; 42972 411; 42993 115; 42994 99; 42995 102; 42996 113;
   42997 42998; 43000 295; 43001 339; 43868 42791; 43869 43831; 43870 619; 43871 43858;
   43881 653; 63744 35912; 63745 26356; 63746 36554; 63747 36040; 63748 28369; 63749 20018;
   63750 21477; 63751 40860; 63752 40860; 63753 22865; 63754 37329; 63755 21895; 63756 22856;
   63757 25078; 63758 30313; 63759 32645; 63760 34367; 63761 34746; 63762 35064; 63763 37007;
   63764 27138; 63765 27931; 63766 28889; 63767 29662; 63768 33853; 63769 37226; 63770 39409;
   63771 20098; 63772 21365; 63773 27396; 63774 29211; 63775 34349; 63776 40478; 63777 23888;
   63778 28651; 63779 34253; 63780 35172; 63781 25289; 63782 33240; 63783 34847; 63784 24266;
   63785 26391; 63786 28010; 63787 29436; 63788 37070; 63789 20358; 63790 20919; 63791 21214;
   63792 25796; 63793 27347; 63794 29200; 63795 30439; 63796 32769; 63797 34310; 63798 34396;
   63799 36335; 63800 38706; 63801 39791; 63802 40442; 63803 30860; 63804 31103; 63805 32160;
   63806 33737; 63807 37636; 63808 40575; 63809 35542; 63810 22751; 63811 24324; 63812 31840;
   63813 32894; 63814 29282; 63815 30922; 63816 36034; 63817 38647; 63818 22744; 63819 23650;
   63820 27155; 63821 28122; 63822 28431; 63823 32047; 63824 32311; 63825 38475; 63826 21202;
   63827 32907; 63828 20956; 63829 20940; 63830 31260; 63831 32190; 63832 33777; 63833 38517;
   63834 35712; 63835 25295; 63836 27138; 63837 35582; 63838 20025; 63839 23527; 63840 24594;
   63841 29575; 63842 30064; 63843 21271; 63844 30971; 63845 20415; 63846 24489; 63847 19981;
   63848 27852; 63849 25976; 63850 32034; 63851 21443; 63852 22622; 63853 30465; 63854 33865;
   63855 35498; 63856 27578; 63857 36784; 63858 27784; 63859 25342; 63860 33509; 63861 25504;
   63862 30053; 63863 20142; 63864 20841; 63865 20937; 63866 26753; 63867 31975; 63868 33391;
   63869 35538; 63870 37327; 63871 21237; 63872 21570; 63873 22899; 63874 24300; 63875 26053;
   63876 28670; 63877 31018; 63878 38317; 63879 39530; 63880 40599; 63881 40654; 63882 21147;
   63883 26310; 63884 27511; 63885 36706; 63886 24180; 63887 24976; 63888 25088; 63889 25754;
   63890 28451; 63891 29001; 63892 29833; 63893 31178; 63894 32244; 63895 32879; 63896 36646;
   63897 34030; 63898 36899; 63899 37706; 63900 21015; 63901 21155; 63902 21693; 63903 28872;
   63904 35010; 63905 35498; 63906 24265; 63907 24565; 63908 25467; 63909 27566; 63910 31806;
   63911 29557; 63912 20196; 63913 22265; 63914 23527; 63915 23994; 63916 24604; 63917 29618;
   63918 29801; 63919 32666; 63920 32838; 63921 37428; 63922 38646; 63923 38728; 63924 38936;
   63925 20363; 63926 31150; 63927 37300; 63928 38584; 63929 24801; 63930 20102; 63931 20698;
   63932 23534; 63933 23615; 63934 26009; 63935 27138; 63936 29134; 63937 30274; 63938 34044;
   63939 36988; 63940 40845; 63941 26248; 63942 38446; 63943 21129; 63944 26491; 63945 26611;
   63946 27969; 63947 28316; 63948 29705; 63949 30041; 63950 30827; 63951 32016; 63952 39006;
   63953 20845; 63954 25134; 63955 38520; 63956 20523; 63957 23833; 63958 28138; 63959 36650;
   63960 24459; 63961 24900; 63962 26647; 63963 29575; 63964 38534; 63965 21033; 63966 21519;
   63967 23653; 63968 26131; 63969 26446; 63970 26792; 63971 27877; 63972 29702; 63973 30178;
   63974 32633; 63975 35023; 63976 35041; 63977 37324; 63978 38626; 63979 21311; 63980 28346;
   63981 21533; 63982 29136; 63983 29848; 63984 34298; 63985 38563; 63986 40023; 63987 40607;
   63988 26519; 63989 28107; 63990 33256; 63991 31435; 63992 31520; 63993 31890; 63994 29376;
   63995 28825; 63996 35672; 63997 20160; 63998 33590; 63999 21050; 64000 20999; 64001 24230;
   64002 25299; 64003 31958; 64004 23429; 64005 27934; 64006 26292; 64007 36667; 64008 34892;
   64009 38477; 64010 35211; 64011 24275; 64012 20800; 64013 21952; 64016 22618; 64018 26228;
   64021 20958; 64022 29482; 64023 30410; 64024 31036; 64025 31070; 64026 31077; 64027 31119;
   64028 38742; 64029 31934; 64030 32701; 64032 34322; 64034 35576; 64037 36920; 64038 37117;
   64042 39151; 64043 39164; 64044 39208; 64045 40372; 64046 37086; 64047 38583; 64048 20398;
   64049 20711; 64050 20813; 64051 21193; 64052 21220; 64053 21329; 64054 21917; 64055 22022;
   64056 22120; 64057 22592; 64058 22696; 64059 23652; 64060 23662; 64061 24724; 64062 24936;
   64063 24974; 64064 25074; 64065 25935; 64066 26082; 64067 26257; 64068 26757; 64069 28023;
   64070 28186; 64071 28450; 64072 29038; 64073 29227; 64074 29730; 64075 30865; 64076 31038;
   64077 31049; 64078 31048; 64079 31056; 64080 31062; 64081 31069; 64082 31117; 64083 31118;
   64084 31296; 64085 31361; 64086 31680; 64087 32244; 64088 32265; 64089 32321; 64090 32626;
   64091 32773; 64092 33261; 64093 33401; 64094 33401; 64095 33879; 64096 35088; 64097 35222;
   64098 35585; 64099 35641; 64100 36051; 64101 36104; 64102 36790; 64103 36920; 64104 38627;
   64105 38911; 64106 38971; 64107 24693; 64108 148206; 64109 33304; 64112 20006; 64113 20917;
   64114 20840; 64115 20352; 64116 20805; 64117 20864; 64118 21191; 64119 21242; 64120 21917;
   64121 21845; 64122 21913; 64123 21986; 64124 22618; 64125 22707; 64126 22852; 64127 22868;
   64128 23138; 64129 23336; 64130 24274; 64131 24281; 64132 24425; 64133 24493; 64134 24792;
   64135 24910; 64136 24840; 64137 24974; 64138 24928; 64139 25074; 64140 25140; 64141 25540;
   64142 25628; 64143 25682; 64144 25942; 64145 26228; 64146 26391; 64147 26395; 64148 26454;
   64149 27513; 64150 27578; 64151 27969; 64152 28379; 64153 28363; 64154 28450; 64155 28702;
   64156 29038; 64157 30631; 64158 29237; 64159 29359; 64160 29482; 64161 29809; 64162 29958;
   64163 30011; 64164 30237; 64165 30239; 64166 30410; 64167 30427; 64168 30452; 64169 30538;
   64170 30528; 64171 30924; 64172 31409; 64173 31680; 64174 31867; 64175 32091; 64176 32244;
   64177 32574; 64178 32773; 64179 33618; 64180 33775; 64181 34681; 64182 35137; 64183 35206;
   64184 35222; 64185 35519; 64186 35576; 64187 35531; 64188 35585; 64189 35582; 64190 35565;
   64191 35641; 64192 35722; 64193 36104; 64194 36664; 64195 36978; 64196 37273; 64197 37494;
   64198 38524; 64199 38627; 64200 38742; 64201 38875; 64202 38911; 64203 38923; 64204 38971;
   64205 39698; 64206 40860; 64207 141386; 64208 141380; 64209 144341; 64210 15261; 64211 16408;
   64212 16441; 64213 152137; 64214 154832; 64215 163539; 64216 40771; 64217 40846;
   64256 102 102; 64257 102 105; 64258 102 108; 64259 102 102 105; 64260 102 102 108;
   64261 115 116; 64262 115 116; 64275 1396 1398; 64276 1396 1381; 64277 1396 1387;
   64278 1406 1398; 64279 1396 1389; 64285 1497 1460; 64287 1522 1463; 64288 1506; 64289 1488;
   64290 1491; 64291 1492; 64295 1512; 64296 1514; 64297 43; 64298 1513 1473; 64299 1513 1474;
   64300 1513 1468 1473; 64301 1513 1468 1474; 64302 1488 1463; 64303 1488 1464; 64304 1488 1468;
   64305 1489 1468; 64306 1490 1468; 64307 1491 1468; 64308 1492 1468; 64309 1493 1468;
   64310 1494 1468; 64312 1496 1468; 64313 1497 1468; 64314 1498 1468; 64315 1499 1468;
   64316 1500 1468; 64318 1502 1468; 64320 1504 1468; 64321 1505 1468; 64323 1507 1468;
   64324 1508 1468; 64326 1510 1468; 64327 1511 1468; 64328 1512 1468; 64329 1513 1468;
   64330 1514 1468; 64331 1493 1465; 64332 1489 1471; 64333 1499 1471; 64334 1508 1471;
   64335 1488 1500; 64336 1649; 64337 1649; 64338 1659; 64339 1659; 64340 1659; 64341 1659;
   64342 1662; 64343 1662; 64344 1662; 64345 1662; 64346 1664; 64347 1664; 64348 1664;
   64349 1664; 64350 1658; 64351 1658; 64352 1658; 64353 1658; 64354 1663; 64355 1663;
   64356 1663; 64357 1663; 64358 1657; 64359 1657; 64360 1657; 64361 1657; 64362 1700;
   64363 1700; 64364 1700; 64365 1700; 64366 1702; 64367 1702; 64368 1702; 64369 1702;
   64370 1668; 64371 1668; 64372 1668; 64373 1668; 64374 1667; 64375 1667; 64376 1667;
   64377 1667; 64378 1670; 64379 1670; 64380 1670; 64381 1670; 64382 1671; 64383 1671;
   64384 1671; 64385 1671; 64386 1677; 64387 1677; 64388 1676; 64389 1676; 64390 1678;
   64391 1678; 64392 1672; 64393 1672; 64394 1688; 64395 1688; 64396 1681; 64397 1681;
   64398 1705; 64399 1705; 64400 1705; 64401 1705; 64402 1711; 64403 1711; 64404 1711;
   64405 1711; 64406 1715; 64407 1715; 64408 1715; 64409 1715; 64410 1713; 64411 1713;
   64412 1713; 64413 1713; 64414 1722; 64415 1722; 64416 1723; 64417 1723; 64418 1723;
   64419 1723; 64420 1728; 64421 1728; 64422 1729; 64423 1729; 64424 1729; 64425 1729;
   64426 1726; 64427 1726; 64428 1726; 64429 1726; 64430 1746; 64431 1746; 64432 1747;
   64433 1747; 64467 1709; 64468 1709; 64469 1709; 64470 1709; 64471 1735; 64472 1735;
   64473 1734; 64474 1734; 64475 1736; 64476 1736; 64477 1735 1652; 64478 1739; 64479 1739;
   64480 1733; 64481 1733; 64482 1737; 64483 1737; 64484 1744; 64485 1744; 64486 1744;
   64487 1744; 64488 1609; 64489 1609; 64490 1574 1575; 64491 1574 1575; 64492 1574 1749;
   64493 1574 1749; 64494 1574 1608; 64495 1574 1608; 64496 1574 1735; 64497 1574 1735;
   64498 1574 1734; 64499 1574 1734; 64500 1574 1736; 64501 1574 1736; 64502 1574 1744;
   64503 1574 1744; 64504 1574 1744; 64505 1574 1609; 64506 1574 1609; 64507 1574 1609;
   64508 1740; 64509 1740; 64510 1740; 64511 1740; 64512 1574 1580; 64513 1574 1581;
   64514 1574 1605; 64515 1574 1609; 64516 1574 1610; 64517 1576 1580; 64518 1576 1581;
   64519 1576 1582; 64520 1576 1605; 64521 1576 1609; 64522 1576 1610; 64523 1578 1580;
   64524 1578 1581; 64525 1578 1582; 64526 1578 1605; 64527 1578 1609; 64528 1578 1610;
   64529 1579 1580; 64530 1579 1605; 64531 1579 1609; 64532 1579 1610; 64533 1580 1581;
   64534 1580 1605; 64535 1581 1580; 64536 1581 1605; 64537 1582 1580; 64538 1582 1581;
   64539 1582 1605; 64540 1587 1580; 64541 1587 1581; 64542 1587 1582; 64543 1587 1605;
   64544 1589 1581; 64545 1589 1605; 64546 1590 1580; 64547 1590 1581; 64548 1590 1582;
   64549 1590 1605; 64550 1591 1581; 64551 1591 1605; 64552 1592 1605; 64553 1593 1580;
   64554 1593 1605; 64555 1594 1580; 64556 1594 1605; 64557 1601 1580; 64558 1601 1581;
   64559 1601 1582; 64560 1601 1605; 64561 1601 1609; 64562 1601 1610; 64563 1602 1581;
   64564 1602 1605; 64565 1602 1609; 64566 1602 1610; 64567 1603 1575; 64568 1603 1580;
   64569 1603 1581; 64570 1603 1582; 64571 1603 1604; 64572 1603 1605; 64573 1603 1609;
   64574 1603 1610; 64575 1604 1580; 64576 1604 1581; 64577 1604 1582; 64578 1604 1605;
   64579 1604 1609; 64580 1604 1610; 64581 1605 1580; 64582 1605 1581; 64583 1605 1582;
   64584 1605 1605; 64585 1605 1609; 64586 1605 1610; 64587 1606 1580; 64588 1606 1581;
   64589 1606 1582; 64590 1606 1605; 64591 1606 1609; 64592 1606 1610; 64593 1607 1580;
   64594 1607 1605; 64595 1607 1609; 64596 1607 1610; 64597 1610 1580; 64598 1610 1581;
   64599 1610 1582; 64600 1610 1605; 64601 1610 1609; 64602 1610 1610; 64603 1584 1648;
   64604 1585 1648; 64605 1609 1648; 64606 32 1612 1617; 64607 32 1613 1617; 64608 32 1614 1617;
   64609 32 1615 1617; 64610 32 1616 1617; 64611 32 1617 1648; 64612 1574 1585; 64613 1574 1586;
   64614 1574 1605; 64615 1574 1606; 64616 1574 1609; 64617 1574 1610; 64618 1576 1585;
   64619 1576 1586; 64620 1576 1605; 64621 1576 1606; 64622 1576 1609; 64623 1576 1610;
   64624 1578 1585; 64625 1578 1586; 64626 1578 1605; 64627 1578 1606; 64628 1578 1609;
   64629 1578 1610; 64630 1579 1585; 64631 1579 1586; 64632 1579 1605; 64633 1579 1606;
   64634 1579 1609; 64635 1579 1610; 64636 1601 1609; 64637 1601 1610; 64638 1602 1609;
   64639 1602 1610; 64640 1603 1575; 64641 1603 1604; 64642 1603 1605; 64643 1603 1609;
   64644 1603 1610; 64645 1604 1605; 64646 1604 1609; 64647 1604 1610; 64648 1605 1575;
   64649 1605 1605; 64650 1606 1585; 64651 1606 1586; 64652 1606 1605; 64653 1606 1606;
   64654 1606 1609; 64655 1606 1610; 64656 1609 1648; 64657 1610 1585; 64658 1610 1586;
   64659 1610 1605; 64660 1610 1606; 64661 1610 1609; 64662 1610 1610; 64663 1574 1580;
   64664 1574 1581; 64665 1574 1582; 64666 1574 1605; 64667 1574 1607; 64668 1576 1580;
   64669 1576 1581; 64670 1576 1582; 64671 1576 1605; 64672 1576 1607; 64673 1578 1580;
   64674 1578 1581; 64675 1578 1582; 64676 1578 1605; 64677 1578 1607; 64678 1579 1605;
   64679 1580 1581; 64680 1580 1605; 64681 1581 1580; 64682 1581 1605; 64683 1582 1580;
   64684 1582 1605; 64685 1587 1580; 64686 1587 1581; 64687 1587 1582; 64688 1587 1605;
   64689 1589 1581; 64690 1589 1582; 64691 1589 1605; 64692 1590 1580; 64693 1590 1581;
   64694 1590 1582; 64695 1590 1605; 64696 1591 1581; 64697 1592 1605; 64698 1593 1580;
   64699 1593 1605; 64700 1594 1580; 64701 1594 1605; 64702 1601 1580; 64703 1601 1581;
   64704 1601 1582; 64705 1601 1605; 64706 1602 1581; 64707 1602 1605; 64708 1603 1580;
   64709 1603 1581; 64710 1603 1582; 64711 1603 1604; 64712 1603 1605; 64713 1604 1580;
   64714 1604 1581; 64715 1604 1582; 64716 1604 1605; 64717 1604 1607; 64718 1605 1580;
   64719 1605 1581; 64720 1605 1582; 64721 1605 1605; 64722 1606 1580; 64723 1606 1581;
   64724 1606 1582; 64725 1606 1605; 64726 1606 1607; 64727 1607 1580; 64728 1607 1605;
   64729 1607 1648; 64730 1610 1580; 64731 1610 1581; 64732 1610 1582; 64733 1610 1605;
   64734 1610 1607; 64735 1574 1605; 64736 1574 1607; 64737 1576 1605; 64738 1576 1607;
   64739 1578 1605; 64740 1578 1607; 64741 1579 1605; 64742 1579 1607; 64743 1587 1605;
   64744 1587 1607; 64745 1588 1605; 64746 1588 1607; 64747 1603 1604; 64748 1603 1605;
   64749 1604 1605; 64750 1606 1605; 64751 1606 1607; 64752 1610 1605; 64753 1610 1607;
   64754 1600 1614 1617; 64755 1600 1615 1617; 64756 1600 1616 1617; 64757 1591 1609;
   64758 1591 1610; 64759 1593 1609; 64760 1593 1610; 64761 1594 1609; 64762 1594 1610;
   64763 1587 1609; 64764 1587 1610; 64765 1588 1609; 64766 1588 1610; 64767 1581 1609;
   64768 1581 1610; 64769 1580 1609; 64770 1580 1610; 64771 1582 1609; 64772 1582 1610;
   64773 1589 1609; 64774 1589 1610; 64775 1590 1609; 64776 1590 1610; 64777 1588 1580;
   64778 1588 1581; 64779 1588 1582; 64780 1588 1605; 64781 1588 1585; 64782 1587 1585;
   64783 1589 1585; 64784 1590 1585; 64785 1591 1609; 64786 1591 1610; 64787 1593 1609;
   64788 1593 1610; 64789 1594 1609; 64790 1594 1610; 64791 1587 1609; 64792 1587 1610;
   64793 1588 1609; 64794 1588 1610; 64795 1581 1609; 64796 1581 1610; 64797 1580 1609;
   64798 1580 1610; 64799 1582 1609; 64800 1582 1610; 64801 1589 1609; 64802 1589 1610;
   64803 1590 1609; 64804 1590 1610; 64805 1588 1580; 64806 1588 1581; 64807 1588 1582;
   64808 1588 1605; 64809 1588 1585; 64810 1587 1585; 64811 1589 1585; 64812 1590 1585;
   64813 1588 1580; 64814 1588 1581; 64815 1588 1582; 64816 1588 1605; 64817 1587 1607;
   64818 1588 1607; 64819 1591 1605; 64820 1587 1580; 64821 1587 1581; 64822 1587 1582;
   64823 1588 1580; 64824 1588 1581; 64825 1588 1582; 64826 1591 1605; 64827 1592 1605;
   64828 1575 1611; 64829 1575 1611; 64848 1578 1580 1605; 64849 1578 1581 1580;
   64850 1578 1581 1580; 64851 1578 1581 1605; 64852 1578 1582 1605; 64853 1578 1605 1580;
   64854 1578 1605 1581; 64855 1578 1605 1582; 64856 1580 1605 1581; 64857 1580 1605 1581;
   64858 1581 1605 1610; 64859 1581 1605 1609; 64860 1587 1581 1580; 64861 1587 1580 1581;
   64862 1587 1580 1609; 64863 1587 1605 1581; 64864 1587 1605 1581; 64865 1587 1605 1580;
   64866 1587 1605 1605; 64867 1587 1605 1605; 64868 1589 1581 1581; 64869 1589 1581 1581;
   64870 1589 1605 1605; 64871 1588 1581 1605; 64872 1588 1581 1605; 64873 1588 1580 1610;
   64874 1588 1605 1582; 64875 1588 1605 1582; 64876 1588 1605 1605; 64877 1588 1605 1605;
   64878 1590 1581 1609; 64879 1590 1582 1605; 64880 1590 1582 1605; 64881 1591 1605 1581;
   64882 1591 1605 1581; 64883 1591 1605 1605; 64884 1591 1605 1610; 64885 1593 1580 1605;
   64886 1593 1605 1605; 64887 1593 1605 1605; 64888 1593 1605 1609; 64889 1594 1605 1605;
   64890 1594 1605 1610; 64891 1594 1605 1609; 64892 1601 1582 1605; 64893 1601 1582 1605;
   64894 1602 1605 1581; 64895 1602 1605 1605; 64896 1604 1581 1605; 64897 1604 1581 1610;
   64898 1604 1581 1609; 64899 1604 1580 1580; 64900 1604 1580 1580; 64901 1604 1582 1605;
   64902 1604 1582 1605; 64903 1604 1605 1581; 64904 1604 1605 1581; 64905 1605 1581 1580;
   64906 1605 1581 1605; 64907 1605 1581 1610; 64908 1605 1580 1581; 64909 1605 1580 1605;
   64910 1605 1582 1580; 64911 1605 1582 1605; 64914 1605 1580 1582; 64915 1607 1605 1580;
   64916 1607 1605 1605; 64917 1606 1581 1605; 64918 1606 1581 1609; 64919 1606 1580 1605;
   64920 1606 1580 1605; 64921 1606 1580 1609; 64922 1606 1605 1610; 64923 1606 1605 1609;
   64924 1610 1605 1605; 64925 1610 1605 1605; 64926 1576 1582 1610; 64927 1578 1580 1610;
   64928 1578 1580 1609; 64929 1578 1582 1610; 64930 1578 1582 1609; 64931 1578 1605 1610;
   64932 1578 1605 1609; 64933 1580 1605 1610; 64934 1580 1581 1609; 64935 1580 1605 1609;
   64936 1587 1582 1609; 64937 1589 1581 1610; 64938 1588 1581 1610; 64939 1590 1581 1610;
   64940 1604 1580 1610; 64941 1604 1605 1610; 64942 1610 1581 1610; 64943 1610 1580 1610;
   64944 1610 1605 1610; 64945 1605 1605 1610; 64946 1602 1605 1610; 64947 1606 1581 1610;
   64948 1602 1605 1581; 64949 1604 1581 1605; 64950 1593 1605 1610; 64951 1603 1605 1610;
   64952 1606 1580 1581; 64953 1605 1582 1610; 64954 1604 1580 1605; 64955 1603 1605 1605;
   64956 1604 1580 1605; 64957 1606 1580 1581; 64958 1580 1581 1610; 64959 1581 1580 1610;
   64960 1605 1580 1610; 64961 1601 1605 1610; 64962 1576 1581 1610; 64963 1603 1605 1605;
   64964 1593 1580 1605; 64965 1589 1605 1605; 64966 1587 1582 1610; 64967 1606 1580 1610;
   65008 1589 1604 1746; 65009 1602 1604 1746; 65010 1575 1604 1604 1607;
   65011 1575 1603 1576 1585; 65012 1605 1581 1605 1583; 65013 1589 1604 1593 1605;
   65014 1585 1587 1608 1604; 65015 1593 1604 1610 1607; 65016 1608 1587 1604 1605;
   65017 1589 1604 1609;
   65018 1589 1604 1609 32 1575 1604 1604 1607 32 1593 1604 1610 1607 32 1608 1587 1604 1605;
   65019 1580 1604 32 1580 1604 1575 1604 1607; 65020 1585 1740 1575 1604; 65040 44; 65041 12289;
   65043 58; 65044 59; 65045 33; 65046 63; 65047 12310; 65048 12311; 65073 8212; 65074 8211;
   65075 95; 65076 95; 65077 40; 65078 41; 65079 123; 65080 125; 65081 12308; 65082 12309;
   65083 12304; 65084 12305; 65085 12298; 65086 12299; 65087 12296; 65088 12297; 65095 91;
   65096 93; 65097 32 773; 65098 32 773; 65099 32 773; 65100 32 773; 65101 95; 65102 95;
   65103 95; 65104 44; 65105 12289; 65108 59; 65109 58; 65110 63; 65111 33; 65112 8212; 65113 40;
   65114 41; 65115 123; 65116 125; 65117 12308; 65118 12309; 65119 35; 65120 38; 65121 42;
   65122 43; 65123 45; 65124 60; 65125 62; 65126 61; 65128 92; 65129 36; 65130 37; 65131 64;
   65136 32 1611; 65137 1600 1611; 65138 32 1612; 65140 32 1613; 65142 32 1614; 65143 1600 1614;
   65144 32 1615; 65145 1600 1615; 65146 32 1616; 65147 1600 1616; 65148 32 1617;
   65149 1600 1617; 65150 32 1618; 65151 1600 1618; 65152 1569; 65153 1570; 65154 1570;
   65155 1571; 65156 1571; 65157 1572; 65158 1572; 65159 1573; 65160 1573; 65161 1574;
   65162 1574; 65163 1574; 65164 1574; 65165 1575; 65166 1575; 65167 1576; 65168 1576;
   65169 1576; 65170 1576; 65171 1577; 65172 1577; 65173 1578; 65174 1578; 65175 1578;
   65176 1578; 65177 1579; 65178 1579; 65179 1579; 65180 1579; 65181 1580; 65182 1580;
   65183 1580; 65184 1580; 65185 1581; 65186 1581; 65187 1581; 65188 1581; 65189 1582;
   65190 1582; 65191 1582; 65192 1582; 65193 1583; 65194 1583; 65195 1584; 65196 1584;
   65197 1585; 65198 1585; 65199 1586; 65200 1586; 65201 1587; 65202 1587; 65203 1587;
   65204 1587; 65205 1588; 65206 1588; 65207 1588; 65208 1588; 65209 1589; 65210 1589;
   65211 1589; 65212 1589; 65213 1590; 65214 1590; 65215 1590; 65216 1590; 65217 1591;
   65218 1591; 65219 1591; 65220 1591; 65221 1592; 65222 1592; 65223 1592; 65224 1592;
   65225 1593; 65226 1593; 65227 1593; 65228 1593; 65229 1594; 65230 1594; 65231 1594;
   65232 1594; 65233 1601; 65234 1601; 65235 1601; 65236 1601; 65237 1602; 65238 1602;
   65239 1602; 65240 1602; 65241 1603; 65242 1603; 65243 1603; 65244 1603; 65245 1604;
   65246 1604; 65247 1604; 65248 1604; 65249 1605; 65250 1605; 65251 1605; 65252 1605;
   65253 1606; 65254 1606; 65255 1606; 65256 1606; 65257 1607; 65258 1607; 65259 1607;
   65260 1607; 65261 1608; 65262 1608; 65263 1609; 65264 1609; 65265 1610; 65266 1610;
   65267 1610; 65268 1610; 65269 1604 1570; 65270 1604 1570; 65271 1604 1571; 65272 1604 1571;
   65273 1604 1573; 65274 1604 1573; 65275 1604 1575; 65276 1604 1575; 65375 10629; 65376 10630;
   65377 46; 65378 12300; 65379 12301; 65380 12289; 65381 12539; 65382 12530; 65383 12449;
   65384 12451; 65385 12453; 65386 12455; 65387 12457; 65388 12515; 65389 12517; 65390 12519;
   65391 12483; 65392 12540; 65393 12450; 65394 12452; 65395 12454; 65396 12456; 65397 12458;
   65398 12459; 65399 12461; 65400 12463; 65401 12465; 65402 12467; 65403 12469; 65404 12471;
   65405 12473; 65406 12475; 65407 12477; 65408 12479; 65409 12481; 65410 12484; 65411 12486;
   65412 12488; 65419 12498; 65420 12501; 65421 12504; 65422 12507; 65428 12516; 65429 12518;
   65436 12527; 65437 12531; 65438 12441; 65439 12442; 65441 4352; 65442 4353; 65443 4522;
   65444 4354; 65445 4524; 65446 4525; 65456 4378; 65460 4385; 65504 162; 65505 163; 65506 172;
   65507 32 772; 65508 166; 65509 165; 65510 8361; 65512 9474; 65517 9632; 65518 9675;
   66964 67003; 66965 67004; 67457 720; 67458 721; 67459 230; 67460 665; 67461 595; 67463 675;
   67464 43878; 67465 677; 67466 676; 67467 598; 67468 599; 67469 7569; 67470 600; 67471 606;
   67472 681; 67473 612; 67474 610; 67475 608; 67476 667; 67477 295; 67478 668; 67479 615;
   67480 644; 67481 682; 67482 683; 67483 620; 67484 122628; 67485 42894; 67486 622;
   67487 122629; 67488 654; 67489 122630; 67490 248; 67491 630; 67492 631; 67493 113; 67494 634;
   67495 122632; 67496 637; 67497 638; 67498 640; 67499 680; 67500 678; 67501 43879; 67502 679;
   67503 648; 67504 11377; 67506 655; 67507 673; 67508 674; 67509 664; 67513 122634;
   67514 122654; 119134 119127 119141; 119135 119128 119141; 119136 119128 119141 119150;
   119137 119128 119141 119151; 119138 119128 119141 119152; 119139 119128 119141 119153;
   119140 119128 119141 119154; 119227 119225 119141; 119228 119226 119141;
   119229 119225 119141 119150; 119230 119226 119141 119150; 119231 119225 119141 119151;
   119232 119226 119141 119151; 119964 97; 119966 99; 119974 107; 119977 110; 119995 102;
   119997 104; 120068 97; 120069 98; 120120 97; 120121 98; 120134 111; 120138 115; 120484 305;
   120485 567; 120505 952; 120513 8711; 120531 963; 120539 8706; 120540 949; 120541 952;
   120542 954; 120543 966; 120544 961; 120545 960; 120563 952; 120571 8711; 120589 963;
   120597 8706; 120598 949; 120599 952; 120600 954; 120601 966; 120602 961; 120603 960;
   120621 952; 120629 8711; 120647 963; 120655 8706; 120656 949; 120657 952; 120658 954;
   120659 966; 120660 961; 120661 960; 120679 952; 120687 8711; 120705 963; 120713 8706;
   120714 949; 120715 952; 120716 954; 120717 966; 120718 961; 120719 960; 120737 952;
   120745 8711; 120763 963; 120771 8706; 120772 949; 120773 952; 120774 954; 120775 966;
   120776 961; 120777 960; 120778 989; 120779 989; 122951 1099; 122952 1101; 122953 1102;
   122954 42633; 122955 1241; 122956 1110; 122957 1112; 122958 1257; 122959 1199; 122960 1231;
   122970 1082; 122971 1083; 122972 1086; 122973 1087; 122974 1089; 122981 1098; 122982 1099;
   122983 1169; 122984 1110; 122985 1109; 122986 1119; 122987 1195; 122988 42577; 122989 1201;
   126464 1575; 126465 1576; 126466 1580; 126467 1583; 126469 1608; 126470 1586; 126471 1581;
   126472 1591; 126473 1610; 126478 1587; 126479 1593; 126480 1601; 126481 1589; 126482 1602;
   126483 1585; 126484 1588; 126485 1578; 126486 1579; 126487 1582; 126488 1584; 126489 1590;
   126490 1592; 126491 1594; 126492 1646; 126493 1722; 126494 1697; 126495 1647; 126497 1576;
   126498 1580; 126500 1607; 126503 1581; 126505 1610; 126510 1587; 126511 1593; 126512 1601;
   126513 1589; 126514 1602; 126516 1588; 126517 1578; 126518 1579; 126519 1582; 126521 1590;
   126523 1594; 126530 1580; 126535 1581; 126537 1610; 126539 1604; 126541 1606; 126542 1587;
   126543 1593; 126545 1589; 126546 1602; 126548 1588; 126551 1582; 126553 1590; 126555 1594;
   126557 1722; 126559 1647; 126561 1576; 126562 1580; 126564 1607; 126567 1581; 126568 1591;
   126569 1610; 126570 1603; 126572 1605; 126573 1606; 126574 1587; 126575 1593; 126576 1601;
   126577 1589; 126578 1602; 126580 1588; 126581 1578; 126582 1579; 126583 1582; 126585 1590;
   126586 1592; 126587 1594; 126588 1646; 126590 1697; 126592 1575; 126593 1576; 126594 1580;
   126595 1583; 126596 1607; 126597 1608; 126598 1586; 126599 1581; 126600 1591; 126601 1610;
   126606 1587; 126607 1593; 126608 1601; 126609 1589; 126610 1602; 126611 1585; 126612 1588;
   126613 1578; 126614 1579; 126615 1582; 126616 1584; 126617 1590; 126618 1592; 126619 1594;
   126625 1576; 126626 1580; 126627 1583; 126629 1608; 126630 1586; 126631 1581; 126632 1591;
   126633 1610; 126638 1587; 126639 1593; 126640 1601; 126641 1589; 126642 1602; 126643 1585;
   126644 1588; 126645 1578; 126646 1579; 126647 1582; 126648 1584; 126649 1590; 126650 1592;
   126651 1594; 127233 48 44; 127234 49 44; 127235 50 44; 127236 51 44; 127237 52 44;
   127238 53 44; 127239 54 44; 127240 55 44; 127241 56 44; 127242 57 44; 127248 40 97 41;
   127249 40 98 41; 127250 40 99 41; 127251 40 100 41; 127252 40 101 41; 127253 40 102 41;
   127254 40 103 41; 127255 40 104 41; 127256 40 105 41; 127257 40 106 41; 127258 40 107 41;
   127259 40 108 41; 127260 40 109 41; 127261 40 110 41; 127262 40 111 41; 127263 40 112 41;
   127264 40 113 41; 127265 40 114 41; 127266 40 115 41; 127267 40 116 41; 127268 40 117 41;
   127269 40 118 41; 127270 40 119 41; 127271 40 120 41; 127272 40 121 41; 127273 40 122 41;
   127274 12308 115 12309; 127275 99; 127276 114; 127277 99 100; 127278 119 122; 127306 104 118;
   127307 109 118; 127308 115 100; 127309 115 115; 127310 112 112 118; 127311 119 99;
   127338 109 99; 127339 109 100; 127340 109 114; 127376 100 106; 127488 12411 12363;
   127489 12467 12467; 127490 12469; 127504 25163; 127505 23383; 127506 21452; 127507 12487;
   127508 20108; 127509 22810; 127510 35299; 127511 22825; 127512 20132; 127513 26144;
   127514 28961; 127515 26009; 127516 21069; 127517 24460; 127518 20877; 127519 26032;
   127520 21021; 127521 32066; 127522 29983; 127523 36009; 127524 22768; 127525 21561;
   127526 28436; 127527 25237; 127528 25429; 127529 19968; 127530 19977; 127531 36938;
   127532 24038; 127533 20013; 127534 21491; 127535 25351; 127536 36208; 127537 25171;
   127538 31105; 127539 31354; 127540 21512; 127541 28288; 127542 26377; 127543 26376;
   127544 30003; 127545 21106; 127546 21942; 127547 37197; 127552 12308 26412 12309;
   127553 12308 19977 12309; 127554 12308 20108 12309; 127555 12308 23433 12309;
   127556 12308 28857 12309; 127557 12308 25171 12309; 127558 12308 30423 12309;
   127559 12308 21213 12309; 127560 12308 25943 12309; 127568 24471; 127569 21487; 194560 20029;
   194561 20024; 194562 20033; 194563 131362; 194564 20320; 194565 20398; 194566 20411;
   194567 20482; 194568 20602; 194569 20633; 194570 20711; 194571 20687; 194572 13470;
   194573 132666; 194574 20813; 194575 20820; 194576 20836; 194577 20855; 194578 132380;
   194579 13497; 194580 20839; 194581 20877; 194582 132427; 194583 20887; 194584 20900;
   194585 20172; 194586 20908; 194587 20917; 194588 168415; 194589 20981; 194590 20995;
   194591 13535; 194592 21051; 194593 21062; 194594 21106; 194595 21111; 194596 13589;
   194597 21191; 194598 21193; 194599 21220; 194600 21242; 194601 21253; 194602 21254;
   194603 21271; 194604 21321; 194605 21329; 194606 21338; 194607 21363; 194608 21373;
   194609 21375; 194610 21375; 194611 21375; 194612 133676; 194613 28784; 194614 21450;
   194615 21471; 194616 133987; 194617 21483; 194618 21489; 194619 21510; 194620 21662;
   194621 21560; 194622 21576; 194623 21608; 194624 21666; 194625 21750; 194626 21776;
   194627 21843; 194628 21859; 194629 21892; 194630 21892; 194631 21913; 194632 21931;
   194633 21939; 194634 21954; 194635 22294; 194636 22022; 194637 22295; 194638 22097;
   194639 22132; 194640 20999; 194641 22766; 194642 22478; 194643 22516; 194644 22541;
   194645 22411; 194646 22578; 194647 22577; 194648 22700; 194649 136420; 194650 22770;
   194651 22775; 194652 22790; 194653 22810; 194654 22818; 194655 22882; 194656 136872;
   194657 136938; 194658 23020; 194659 23067; 194660 23079; 194661 23000; 194662 23142;
   194663 14062; 194664 14076; 194665 23304; 194666 23358; 194667 23358; 194668 137672;
   194669 23491; 194670 23512; 194671 23527; 194672 23539; 194673 138008; 194674 23551;
   194675 23558; 194676 24403; 194677 23586; 194678 14209; 194679 23648; 194680 23662;
   194681 23744; 194682 23693; 194683 138724; 194684 23875; 194685 138726; 194686 23918;
   194687 23915; 194688 23932; 194689 24033; 194690 24034; 194691 14383; 194692 24061;
   194693 24104; 194694 24125; 194695 24169; 194696 14434; 194697 139651; 194698 14460;
   194699 24240; 194700 24243; 194701 24246; 194702 24266; 194703 172946; 194704 24318;
   194705 140081; 194706 140081; 194707 33281; 194708 24354; 194709 24354; 194710 14535;
   194711 144056; 194712 156122; 194713 24418; 194714 24427; 194715 14563; 194716 24474;
   194717 24525; 194718 24535; 194719 24569; 194720 24705; 194721 14650; 194722 14620;
   194723 24724; 194724 141012; 194725 24775; 194726 24904; 194727 24908; 194728 24910;
   194729 24908; 194730 24954; 194731 24974; 194732 25010; 194733 24996; 194734 25007;
   194735 25054; 194736 25074; 194737 25078; 194738 25104; 194739 25115; 194740 25181;
   194741 25265; 194742 25300; 194743 25424; 194744 142092; 194745 25405; 194746 25340;
   194747 25448; 194748 25475; 194749 25572; 194750 142321; 194751 25634; 194752 25541;
   194753 25513; 194754 14894; 194755 25705; 194756 25726; 194757 25757; 194758 25719;
   194759 14956; 194760 25935; 194761 25964; 194762 143370; 194763 26083; 194764 26360;
   194765 26185; 194766 15129; 194767 26257; 194768 15112; 194769 15076; 194770 20882;
   194771 20885; 194772 26368; 194773 26268; 194774 32941; 194775 17369; 194776 26391;
   194777 26395; 194778 26401; 194779 26462; 194780 26451; 194781 144323; 194782 15177;
   194783 26618; 194784 26501; 194785 26706; 194786 26757; 194787 144493; 194788 26766;
   194789 26655; 194790 26900; 194791 15261; 194792 26946; 194793 27043; 194794 27114;
   194795 27304; 194796 145059; 194797 27355; 194798 15384; 194799 27425; 194800 145575;
   194801 27476; 194802 15438; 194803 27506; 194804 27551; 194805 27578; 194806 27579;
   194807 146061; 194808 138507; 194809 146170; 194810 27726; 194811 146620; 194812 27839;
   194813 27853; 194814 27751; 194815 27926; 194816 27966; 194817 28023; 194818 27969;
   194819 28009; 194820 28024; 194821 28037; 194822 146718; 194823 27956; 194824 28207;
   194825 28270; 194826 15667; 194827 28363; 194828 28359; 194829 147153; 194830 28153;
   194831 28526; 194832 147294; 194833 147342; 194834 28614; 194835 28729; 194836 28702;
   194837 28699; 194838 15766; 194839 28746; 194840 28797; 194841 28791; 194842 28845;
   194843 132389; 194844 28997; 194845 148067; 194846 29084; 194847 148395; 194848 29224;
   194849 29237; 194850 29264; 194851 149000; 194852 29312; 194853 29333; 194854 149301;
   194855 149524; 194856 29562; 194857 29579; 194858 16044; 194859 29605; 194860 16056;
   194861 16056; 194862 29767; 194863 29788; 194864 29809; 194865 29829; 194866 29898;
   194867 16155; 194868 29988; 194869 150582; 194870 30014; 194871 150674; 194872 30064;
   194873 139679; 194874 30224; 194875 151457; 194876 151480; 194877 151620; 194878 16380;
   194879 16392; 194880 30452; 194881 151795; 194882 151794; 194883 151833; 194884 151859;
   194885 30494; 194886 30495; 194887 30495; 194888 30538; 194889 16441; 194890 30603;
   194891 16454; 194892 16534; 194893 152605; 194894 30798; 194895 30860; 194896 30924;
   194897 16611; 194898 153126; 194899 31062; 194900 153242; 194901 153285; 194902 31119;
   194903 31211; 194904 16687; 194905 31296; 194906 31306; 194907 31311; 194908 153980;
   194909 154279; 194910 154279; 194911 31470; 194912 16898; 194913 154539; 194914 31686;
   194915 31689; 194916 16935; 194917 154752; 194918 31954; 194919 17056; 194920 31976;
   194921 31971; 194922 32000; 194923 155526; 194924 32099; 194925 17153; 194926 32199;
   194927 32258; 194928 32325; 194929 17204; 194930 156200; 194931 156231; 194932 17241;
   194933 156377; 194934 32634; 194935 156478; 194936 32661; 194937 32762; 194938 32773;
   194939 156890; 194940 156963; 194941 32864; 194942 157096; 194943 32880; 194944 144223;
   194945 17365; 194946 32946; 194947 33027; 194948 17419; 194949 33086; 194950 23221;
   194951 157607; 194952 157621; 194953 144275; 194954 144284; 194955 33281; 194956 33284;
   194957 36766; 194958 17515; 194959 33425; 194960 33419; 194961 33437; 194962 21171;
   194963 33457; 194964 33459; 194965 33469; 194966 33510; 194967 158524; 194968 33509;
   194969 33565; 194970 33635; 194971 33709; 194972 33571; 194973 33725; 194974 33767;
   194975 33879; 194976 33619; 194977 33738; 194978 33740; 194979 33756; 194980 158774;
   194981 159083; 194982 158933; 194983 17707; 194984 34033; 194985 34035; 194986 34070;
   194987 160714; 194988 34148; 194989 159532; 194990 17757; 194991 17761; 194992 159665;
   194993 159954; 194994 17771; 194995 34384; 194996 34396; 194997 34407; 194998 34409;
   194999 34473; 195000 34440; 195001 34574; 195002 34530; 195003 34681; 195004 34600;
   195005 34667; 195006 34694; 195007 17879; 195008 34785; 195009 34817; 195010 17913;
   195011 34912; 195012 34915; 195013 161383; 195014 35031; 195015 35038; 195016 17973;
   195017 35066; 195018 13499; 195019 161966; 195020 162150; 195021 18110; 195022 18119;
   195023 35488; 195024 35565; 195025 35722; 195026 35925; 195027 162984; 195028 36011;
   195029 36033; 195030 36123; 195031 36215; 195032 163631; 195033 133124; 195034 36299;
   195035 36284; 195036 36336; 195037 133342; 195038 36564; 195039 36664; 195040 165330;
   195041 165357; 195042 37012; 195043 37105; 195044 37137; 195045 165678; 195046 37147;
   195047 37432; 195048 37591; 195049 37592; 195050 37500; 195051 37881; 195052 37909;
   195053 166906; 195054 38283; 195055 18837; 195056 38327; 195057 167287; 195058 18918;
   195059 38595; 195060 23986; 195061 38691; 195062 168261; 195063 168474; 195064 19054;
   195065 19062; 195066 38880; 195067 168970; 195068 19122; 195069 169110; 195070 38923;
   195071 38923; 195072 38953; 195073 169398; 195074 39138; 195075 19251; 195076 39209;
   195077 39335; 195078 39362; 195079 39422; 195080 19406; 195081 170800; 195082 39698;
   195083 40000; 195084 40189; 195085 19662; 195086 19693; 195087 40295; 195088 172238;
   195089 19704; 195090 172293; 195091 172558; 195092 172689; 195093 40635; 195094 19798;
   195095 40697; 195096 40702; 195097 40709; 195098 40719; 195099 40726; 195100 40763;
   195101 173568;"

end Caretaker.Host.MappingTable
