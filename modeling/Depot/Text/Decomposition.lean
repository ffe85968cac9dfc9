import Depot.Text.Packed

namespace Depot.Text

def decompositionTable : String := "
c0C41,300;1C41,301;1C41,302;1C41,303;1C41,308;1C41,30a;2C43,327;1C45,300;1C45,301;1C45,302;
1C45,308;1C49,300;1C49,301;1C49,302;1C49,308;2C4e,303;1C4f,300;1C4f,301;1C4f,302;1C4f,303;
1C4f,308;3C55,300;1C55,301;1C55,302;1C55,308;1C59,301;3C61,300;1C61,301;1C61,302;1C61,303;
1C61,308;1C61,30a;2C63,327;1C65,300;1C65,301;1C65,302;1C65,308;1C69,300;1C69,301;1C69,302;
1C69,308;2C6e,303;1C6f,300;1C6f,301;1C6f,302;1C6f,303;1C6f,308;3C75,300;1C75,301;1C75,302;
1C75,308;1C79,301;2C79,308;1C41,304;1C61,304;1C41,306;1C61,306;1C41,328;1C61,328;1C43,301;
1C63,301;1C43,302;1C63,302;1C43,307;1C63,307;1C43,30c;1C63,30c;1C44,30c;1C64,30c;3C45,304;
1C65,304;1C45,306;1C65,306;1C45,307;1C65,307;1C45,328;1C65,328;1C45,30c;1C65,30c;1C47,302;
1C67,302;1C47,306;1C67,306;1C47,307;1C67,307;1C47,327;1C67,327;1C48,302;1C68,302;3C49,303;
1C69,303;1C49,304;1C69,304;1C49,306;1C69,306;1C49,328;1C69,328;1C49,307;4C4a,302;1C6a,302;
1C4b,327;1C6b,327;2C4c,301;1C6c,301;1C4c,327;1C6c,327;1C4c,30c;1C6c,30c;5C4e,301;1C6e,301;
1C4e,327;1C6e,327;1C4e,30c;1C6e,30c;4C4f,304;1C6f,304;1C4f,306;1C6f,306;1C4f,30b;1C6f,30b;
3C52,301;1C72,301;1C52,327;1C72,327;1C52,30c;1C72,30c;1C53,301;1C73,301;1C53,302;1C73,302;
1C53,327;1C73,327;1C53,30c;1C73,30c;1C54,327;1C74,327;1C54,30c;1C74,30c;3C55,303;1C75,303;
1C55,304;1C75,304;1C55,306;1C75,306;1C55,30a;1C75,30a;1C55,30b;1C75,30b;1C55,328;1C75,328;
1C57,302;1C77,302;1C59,302;1C79,302;1C59,308;1C5a,301;1C7a,301;1C5a,307;1C7a,307;1C5a,30c;
1C7a,30c;22C4f,31b;1C6f,31b;eC55,31b;1C75,31b;1dC41,30c;1C61,30c;1C49,30c;1C69,30c;1C4f,30c;
1C6f,30c;1C55,30c;1C75,30c;1Cdc,304;1Cfc,304;1Cdc,301;1Cfc,301;1Cdc,30c;1Cfc,30c;1Cdc,300;
1Cfc,300;2Cc4,304;1Ce4,304;1C226,304;1C227,304;1Cc6,304;1Ce6,304;3C47,30c;1C67,30c;1C4b,30c;
1C6b,30c;1C4f,328;1C6f,328;1C1ea,304;1C1eb,304;1C1b7,30c;1C292,30c;1C6a,30c;4C47,301;1C67,301;
3C4e,300;1C6e,300;1Cc5,301;1Ce5,301;1Cc6,301;1Ce6,301;1Cd8,301;1Cf8,301;1C41,30f;1C61,30f;
1C41,311;1C61,311;1C45,30f;1C65,30f;1C45,311;1C65,311;1C49,30f;1C69,30f;1C49,311;1C69,311;
1C4f,30f;1C6f,30f;1C4f,311;1C6f,311;1C52,30f;1C72,30f;1C52,311;1C72,311;1C55,30f;1C75,30f;
1C55,311;1C75,311;1C53,326;1C73,326;1C54,326;1C74,326;3C48,30c;1C68,30c;7C41,307;1C61,307;
1C45,327;1C65,327;1Cd6,304;1Cf6,304;1Cd5,304;1Cf5,304;1C4f,307;1C6f,307;1C22e,304;1C22f,304;
1C59,304;1C79,304;10dN300;1N301;2N313;1N308,301;30N2b9;aN3b;7Ca8,301;1C391,301;1Nb7;1C395,301;
1C397,301;1C399,301;2C39f,301;2C3a5,301;1C3a9,301;1C3ca,301;1aC399,308;1C3a5,308;1C3b1,301;
1C3b5,301;1C3b7,301;1C3b9,301;1C3cb,301;1aC3b9,308;1C3c5,308;1C3bf,301;1C3c5,301;1C3c9,301;
5C3d2,301;1C3d2,308;2cC415,300;1C415,308;2C413,301;4C406,308;5C41a,301;1C418,300;1C423,306;
bC418,306;20C438,306;17C435,300;1C435,308;2C433,301;4C456,308;5C43a,301;1C438,300;1C443,306;
18C474,30f;1C475,30f;4aC416,306;1C436,306;eC410,306;1C430,306;1C410,308;1C430,308;3C415,306;
1C435,306;3C4d8,308;1C4d9,308;1C416,308;1C436,308;1C417,308;1C437,308;3C418,304;1C438,304;
1C418,308;1C438,308;1C41e,308;1C43e,308;3C4e8,308;1C4e9,308;1C42d,308;1C44d,308;1C423,304;
1C443,304;1C423,308;1C443,308;1C423,30b;1C443,30b;1C427,308;1C447,308;3C42b,308;1C44b,308;
129C627,653;1C627,654;1C648,654;1C627,655;1C64a,654;9aC6d5,654;2C6c1,654;11C6d2,654;256C928,93c;
8C930,93c;3C933,93c;24N915,93c;1N916,93c;1N917,93c;1N91c,93c;1N921,93c;1N922,93c;1N92b,93c;
1N92f,93c;6cC9c7,9be;1C9c7,9d7;10N9a1,9bc;1N9a2,9bc;2N9af,9bc;54Na32,a3c;3Na38,a3c;23Na16,a3c;
1Na17,a3c;1Na1c,a3c;3Na2b,a3c;eaCb47,b56;3Cb47,b3e;1Cb47,b57;10Nb21,b3c;1Nb22,b3c;37Cb92,bd7;
36Cbc6,bbe;1Cbc7,bbe;1Cbc6,bd7;7cCc46,c56;78Ccbf,cd5;7Ccc6,cd5;1Ccc6,cd6;2Ccc6,cc2;1Ccca,cd5;
7fCd46,d3e;1Cd47,d3e;1Cd46,d57;8eCdd9,dca;2Cdd9,dcf;1Cddc,dca;1Cdd9,ddf;165Nf42,fb7;aNf4c,fb7;
5Nf51,fb7;5Nf56,fb7;5Nf5b,fb7;dNf40,fb5;aNf71,f72;2Nf71,f74;1Nfb2,f80;2Nfb3,f80;9Nf71,f80;
12Nf92,fb7;aNf9c,fb7;5Nfa1,fb7;5Nfa6,fb7;5Nfab,fb7;dNf90,fb5;6dC1025,102e;ae0C1b05,1b35;
2C1b07,1b35;2C1b09,1b35;2C1b0b,1b35;2C1b0d,1b35;4C1b11,1b35;29C1b3a,1b35;2C1b3c,1b35;
3C1b3e,1b35;1C1b3f,1b35;2C1b42,1b35;2bdC41,325;1C61,325;1C42,307;1C62,307;1C42,323;1C62,323;
1C42,331;1C62,331;1Cc7,301;1Ce7,301;1C44,307;1C64,307;1C44,323;1C64,323;1C44,331;1C64,331;
1C44,327;1C64,327;1C44,32d;1C64,32d;1C112,300;1C113,300;1C112,301;1C113,301;1C45,32d;1C65,32d;
1C45,330;1C65,330;1C228,306;1C229,306;1C46,307;1C66,307;1C47,304;1C67,304;1C48,307;1C68,307;
1C48,323;1C68,323;1C48,308;1C68,308;1C48,327;1C68,327;1C48,32e;1C68,32e;1C49,330;1C69,330;
1Ccf,301;1Cef,301;1C4b,301;1C6b,301;1C4b,323;1C6b,323;1C4b,331;1C6b,331;1C4c,323;1C6c,323;
1C1e36,304;1C1e37,304;1C4c,331;1C6c,331;1C4c,32d;1C6c,32d;1C4d,301;1C6d,301;1C4d,307;1C6d,307;
1C4d,323;1C6d,323;1C4e,307;1C6e,307;1C4e,323;1C6e,323;1C4e,331;1C6e,331;1C4e,32d;1C6e,32d;
1Cd5,301;1Cf5,301;1Cd5,308;1Cf5,308;1C14c,300;1C14d,300;1C14c,301;1C14d,301;1C50,301;1C70,301;
1C50,307;1C70,307;1C52,307;1C72,307;1C52,323;1C72,323;1C1e5a,304;1C1e5b,304;1C52,331;1C72,331;
1C53,307;1C73,307;1C53,323;1C73,323;1C15a,307;1C15b,307;1C160,307;1C161,307;1C1e62,307;
1C1e63,307;1C54,307;1C74,307;1C54,323;1C74,323;1C54,331;1C74,331;1C54,32d;1C74,32d;1C55,324;
1C75,324;1C55,330;1C75,330;1C55,32d;1C75,32d;1C168,301;1C169,301;1C16a,308;1C16b,308;1C56,303;
1C76,303;1C56,323;1C76,323;1C57,300;1C77,300;1C57,301;1C77,301;1C57,308;1C77,308;1C57,307;
1C77,307;1C57,323;1C77,323;1C58,307;1C78,307;1C58,308;1C78,308;1C59,307;1C79,307;1C5a,302;
1C7a,302;1C5a,323;1C7a,323;1C5a,331;1C7a,331;1C68,331;1C74,308;1C77,30a;1C79,30a;2C17f,307;
5C41,323;1C61,323;1C41,309;1C61,309;1Cc2,301;1Ce2,301;1Cc2,300;1Ce2,300;1Cc2,309;1Ce2,309;
1Cc2,303;1Ce2,303;1C1ea0,302;1C1ea1,302;1C102,301;1C103,301;1C102,300;1C103,300;1C102,309;
1C103,309;1C102,303;1C103,303;1C1ea0,306;1C1ea1,306;1C45,323;1C65,323;1C45,309;1C65,309;
1C45,303;1C65,303;1Cca,301;1Cea,301;1Cca,300;1Cea,300;1Cca,309;1Cea,309;1Cca,303;1Cea,303;
1C1eb8,302;1C1eb9,302;1C49,309;1C69,309;1C49,323;1C69,323;1C4f,323;1C6f,323;1C4f,309;1C6f,309;
1Cd4,301;1Cf4,301;1Cd4,300;1Cf4,300;1Cd4,309;1Cf4,309;1Cd4,303;1Cf4,303;1C1ecc,302;1C1ecd,302;
1C1a0,301;1C1a1,301;1C1a0,300;1C1a1,300;1C1a0,309;1C1a1,309;1C1a0,303;1C1a1,303;1C1a0,323;
1C1a1,323;1C55,323;1C75,323;1C55,309;1C75,309;1C1af,301;1C1b0,301;1C1af,300;1C1b0,300;1C1af,309;
1C1b0,309;1C1af,303;1C1b0,303;1C1af,323;1C1b0,323;1C59,300;1C79,300;1C59,323;1C79,323;1C59,309;
1C79,309;1C59,303;1C79,303;7C3b1,313;1C3b1,314;1C1f00,300;1C1f01,300;1C1f00,301;1C1f01,301;
1C1f00,342;1C1f01,342;1C391,313;1C391,314;1C1f08,300;1C1f09,300;1C1f08,301;1C1f09,301;
1C1f08,342;1C1f09,342;1C3b5,313;1C3b5,314;1C1f10,300;1C1f11,300;1C1f10,301;1C1f11,301;3C395,313;
1C395,314;1C1f18,300;1C1f19,300;1C1f18,301;1C1f19,301;3C3b7,313;1C3b7,314;1C1f20,300;1C1f21,300;
1C1f20,301;1C1f21,301;1C1f20,342;1C1f21,342;1C397,313;1C397,314;1C1f28,300;1C1f29,300;
1C1f28,301;1C1f29,301;1C1f28,342;1C1f29,342;1C3b9,313;1C3b9,314;1C1f30,300;1C1f31,300;
1C1f30,301;1C1f31,301;1C1f30,342;1C1f31,342;1C399,313;1C399,314;1C1f38,300;1C1f39,300;
1C1f38,301;1C1f39,301;1C1f38,342;1C1f39,342;1C3bf,313;1C3bf,314;1C1f40,300;1C1f41,300;
1C1f40,301;1C1f41,301;3C39f,313;1C39f,314;1C1f48,300;1C1f49,300;1C1f48,301;1C1f49,301;3C3c5,313;
1C3c5,314;1C1f50,300;1C1f51,300;1C1f50,301;1C1f51,301;1C1f50,342;1C1f51,342;2C3a5,314;
2C1f59,300;2C1f59,301;2C1f59,342;1C3c9,313;1C3c9,314;1C1f60,300;1C1f61,300;1C1f60,301;
1C1f61,301;1C1f60,342;1C1f61,342;1C3a9,313;1C3a9,314;1C1f68,300;1C1f69,300;1C1f68,301;
1C1f69,301;1C1f68,342;1C1f69,342;1C3b1,300;1N3ac;1C3b5,300;1N3ad;1C3b7,300;1N3ae;1C3b9,300;
1N3af;1C3bf,300;1N3cc;1C3c5,300;1N3cd;1C3c9,300;1N3ce;3C1f00,345;1C1f01,345;1C1f02,345;
1C1f03,345;1C1f04,345;1C1f05,345;1C1f06,345;1C1f07,345;1C1f08,345;1C1f09,345;1C1f0a,345;
1C1f0b,345;1C1f0c,345;1C1f0d,345;1C1f0e,345;1C1f0f,345;1C1f20,345;1C1f21,345;1C1f22,345;
1C1f23,345;1C1f24,345;1C1f25,345;1C1f26,345;1C1f27,345;1C1f28,345;1C1f29,345;1C1f2a,345;
1C1f2b,345;1C1f2c,345;1C1f2d,345;1C1f2e,345;1C1f2f,345;1C1f60,345;1C1f61,345;1C1f62,345;
1C1f63,345;1C1f64,345;1C1f65,345;1C1f66,345;1C1f67,345;1C1f68,345;1C1f69,345;1C1f6a,345;
1C1f6b,345;1C1f6c,345;1C1f6d,345;1C1f6e,345;1C1f6f,345;1C3b1,306;1C3b1,304;1C1f70,345;1C3b1,345;
1C3ac,345;2C3b1,342;1C1fb6,345;1C391,306;1C391,304;1C391,300;1N386;1C391,345;2N3b9;3Ca8,342;
1C1f74,345;1C3b7,345;1C3ae,345;2C3b7,342;1C1fc6,345;1C395,300;1N388;1C397,300;1N389;1C397,345;
1C1fbf,300;1C1fbf,301;1C1fbf,342;1C3b9,306;1C3b9,304;1C3ca,300;1N390;3C3b9,342;1C3ca,342;
1C399,306;1C399,304;1C399,300;1N38a;2C1ffe,300;1C1ffe,301;1C1ffe,342;1C3c5,306;1C3c5,304;
1C3cb,300;1N3b0;1C3c1,313;1C3c1,314;1C3c5,342;1C3cb,342;1C3a5,306;1C3a5,304;1C3a5,300;1N38e;
1C3a1,314;1Ca8,300;1N385;1N60;3C1f7c,345;1C3c9,345;1C3ce,345;2C3c9,342;1C1ff6,345;1C39f,300;
1N38c;1C3a9,300;1N38f;1C3a9,345;1Nb4;3N2002;1N2003;125N3a9;4N4b;1Nc5;6fC2190,338;1C2192,338;
13C2194,338;1fC21d0,338;1C21d4,338;1C21d2,338;35C2203,338;5C2208,338;3C220b,338;18C2223,338;
2C2225,338;1bC223c,338;3C2243,338;3C2245,338;2C2248,338;17C3d,338;2C2261,338;bC224d,338;
1C3c,338;1C3e,338;1C2264,338;1C2265,338;3C2272,338;1C2273,338;3C2276,338;1C2277,338;7C227a,338;
1C227b,338;3C2282,338;1C2283,338;3C2286,338;1C2287,338;23C22a2,338;1C22a8,338;1C22a9,338;
1C22ab,338;31C227c,338;1C227d,338;1C2291,338;1C2292,338;7C22b2,338;1C22b3,338;1C22b4,338;
1C22b5,338;3cN3008;1N3009;7b2N2add,338;570C304b,3099;2C304d,3099;2C304f,3099;2C3051,3099;
2C3053,3099;2C3055,3099;2C3057,3099;2C3059,3099;2C305b,3099;2C305d,3099;2C305f,3099;2C3061,3099;
3C3064,3099;2C3066,3099;2C3068,3099;7C306f,3099;1C306f,309a;2C3072,3099;1C3072,309a;2C3075,3099;
1C3075,309a;2C3078,3099;1C3078,309a;2C307b,3099;1C307b,309a;17C3046,3099;aC309d,3099;
eC30ab,3099;2C30ad,3099;2C30af,3099;2C30b1,3099;2C30b3,3099;2C30b5,3099;2C30b7,3099;2C30b9,3099;
2C30bb,3099;2C30bd,3099;2C30bf,3099;2C30c1,3099;3C30c4,3099;2C30c6,3099;2C30c8,3099;7C30cf,3099;
1C30cf,309a;2C30d2,3099;1C30d2,309a;2C30d5,3099;1C30d5,309a;2C30d8,3099;1C30d8,309a;2C30db,3099;
1C30db,309a;17C30a6,3099;3C30ef,3099;1C30f0,3099;1C30f1,3099;1C30f2,3099;4C30fd,3099;c802N8c48;
1N66f4;1N8eca;1N8cc8;1N6ed1;1N4e32;1N53e5;1N9f9c;1N9f9c;1N5951;1N91d1;1N5587;1N5948;1N61f6;
1N7669;1N7f85;1N863f;1N87ba;1N88f8;1N908f;1N6a02;1N6d1b;1N70d9;1N73de;1N843d;1N916a;1N99f1;
1N4e82;1N5375;1N6b04;1N721b;1N862d;1N9e1e;1N5d50;1N6feb;1N85cd;1N8964;1N62c9;1N81d8;1N881f;
1N5eca;1N6717;1N6d6a;1N72fc;1N90ce;1N4f86;1N51b7;1N52de;1N64c4;1N6ad3;1N7210;1N76e7;1N8001;
1N8606;1N865c;1N8def;1N9732;1N9b6f;1N9dfa;1N788c;1N797f;1N7da0;1N83c9;1N9304;1N9e7f;1N8ad6;
1N58df;1N5f04;1N7c60;1N807e;1N7262;1N78ca;1N8cc2;1N96f7;1N58d8;1N5c62;1N6a13;1N6dda;1N6f0f;
1N7d2f;1N7e37;1N964b;1N52d2;1N808b;1N51dc;1N51cc;1N7a1c;1N7dbe;1N83f1;1N9675;1N8b80;1N62cf;
1N6a02;1N8afe;1N4e39;1N5be7;1N6012;1N7387;1N7570;1N5317;1N78fb;1N4fbf;1N5fa9;1N4e0d;1N6ccc;
1N6578;1N7d22;1N53c3;1N585e;1N7701;1N8449;1N8aaa;1N6bba;1N8fb0;1N6c88;1N62fe;1N82e5;1N63a0;
1N7565;1N4eae;1N5169;1N51c9;1N6881;1N7ce7;1N826f;1N8ad2;1N91cf;1N52f5;1N5442;1N5973;1N5eec;
1N65c5;1N6ffe;1N792a;1N95ad;1N9a6a;1N9e97;1N9ece;1N529b;1N66c6;1N6b77;1N8f62;1N5e74;1N6190;
1N6200;1N649a;1N6f23;1N7149;1N7489;1N79ca;1N7df4;1N806f;1N8f26;1N84ee;1N9023;1N934a;1N5217;
1N52a3;1N54bd;1N70c8;1N88c2;1N8aaa;1N5ec9;1N5ff5;1N637b;1N6bae;1N7c3e;1N7375;1N4ee4;1N56f9;
1N5be7;1N5dba;1N601c;1N73b2;1N7469;1N7f9a;1N8046;1N9234;1N96f6;1N9748;1N9818;1N4f8b;1N79ae;
1N91b4;1N96b8;1N60e1;1N4e86;1N50da;1N5bee;1N5c3f;1N6599;1N6a02;1N71ce;1N7642;1N84fc;1N907c;
1N9f8d;1N6688;1N962e;1N5289;1N677b;1N67f3;1N6d41;1N6e9c;1N7409;1N7559;1N786b;1N7d10;1N985e;
1N516d;1N622e;1N9678;1N502b;1N5d19;1N6dea;1N8f2a;1N5f8b;1N6144;1N6817;1N7387;1N9686;1N5229;
1N540f;1N5c65;1N6613;1N674e;1N68a8;1N6ce5;1N7406;1N75e2;1N7f79;1N88cf;1N88e1;1N91cc;1N96e2;
1N533f;1N6eba;1N541d;1N71d0;1N7498;1N85fa;1N96a3;1N9c57;1N9e9f;1N6797;1N6dcb;1N81e8;1N7acb;
1N7b20;1N7c92;1N72c0;1N7099;1N8b58;1N4ec0;1N8336;1N523a;1N5207;1N5ea6;1N62d3;1N7cd6;1N5b85;
1N6d1e;1N66b4;1N8f3b;1N884c;1N964d;1N898b;1N5ed3;1N5140;1N55c0;3N585a;2N6674;3N51de;1N732a;
1N76ca;1N793c;1N795e;1N7965;1N798f;1N9756;1N7cbe;1N7fbd;2N8612;2N8af8;3N9038;1N90fd;4N98ef;
1N98fc;1N9928;1N9db4;1N90de;1N96b7;1N4fae;1N50e7;1N514d;1N52c9;1N52e4;1N5351;1N559d;1N5606;
1N5668;1N5840;1N58a8;1N5c64;1N5c6e;1N6094;1N6168;1N618e;1N61f2;1N654f;1N65e2;1N6691;1N6885;
1N6d77;1N6e1a;1N6f22;1N716e;1N722b;1N7422;1N7891;1N793e;1N7949;1N7948;1N7950;1N7956;1N795d;
1N798d;1N798e;1N7a40;1N7a81;1N7bc0;1N7df4;1N7e09;1N7e41;1N7f72;1N8005;1N81ed;1N8279;1N8279;
1N8457;1N8910;1N8996;1N8b01;1N8b39;1N8cd3;1N8d08;1N8fb6;1N9038;1N96e3;1N97ff;1N983b;1N6075;
1N242ee;1N8218;3N4e26;1N51b5;1N5168;1N4f80;1N5145;1N5180;1N52c7;1N52fa;1N559d;1N5555;1N5599;
1N55e2;1N585a;1N58b3;1N5944;1N5954;1N5a62;1N5b28;1N5ed2;1N5ed9;1N5f69;1N5fad;1N60d8;1N614e;
1N6108;1N618e;1N6160;1N61f2;1N6234;1N63c4;1N641c;1N6452;1N6556;1N6674;1N6717;1N671b;1N6756;
1N6b79;1N6bba;1N6d41;1N6edb;1N6ecb;1N6f22;1N701e;1N716e;1N77a7;1N7235;1N72af;1N732a;1N7471;
1N7506;1N753b;1N761d;1N761f;1N76ca;1N76db;1N76f4;1N774a;1N7740;1N78cc;1N7ab1;1N7bc0;1N7c7b;
1N7d5b;1N7df4;1N7f3e;1N8005;1N8352;1N83ef;1N8779;1N8941;1N8986;1N8996;1N8abf;1N8af8;1N8acb;
1N8b01;1N8afe;1N8aed;1N8b39;1N8b8a;1N8d08;1N8f38;1N9072;1N9199;1N9276;1N967c;1N96e3;1N9756;
1N97db;1N97ff;1N980b;1N983b;1N9b12;1N9f9c;1N2284a;1N22844;1N233d5;1N3b9d;1N4018;1N4039;1N25249;
1N25cd0;1N27ed3;1N9f43;1N9f8e;44N5d9,5b4;2N5f2,5b7;bN5e9,5c1;1N5e9,5c2;1Nfb49,5c1;1Nfb49,5c2;
1N5d0,5b7;1N5d0,5b8;1N5d0,5bc;1N5d1,5bc;1N5d2,5bc;1N5d3,5bc;1N5d4,5bc;1N5d5,5bc;1N5d6,5bc;
2N5d8,5bc;1N5d9,5bc;1N5da,5bc;1N5db,5bc;1N5dc,5bc;2N5de,5bc;2N5e0,5bc;1N5e1,5bc;2N5e3,5bc;
1N5e4,5bc;2N5e6,5bc;1N5e7,5bc;1N5e8,5bc;1N5e9,5bc;1N5ea,5bc;1N5d5,5b9;1N5d1,5bf;1N5db,5bf;
1N5e4,5bf;154cC11099,110ba;2C1109b,110ba;fC110a5,110ba;83C11131,11127;1C11132,11127;
21cC11347,1133e;1C11347,11357;16fC114b9,114ba;1C114b9,114b0;2C114b9,114bd;fcC115b8,115af;
1C115b9,115af;37dC11935,11930;b826N1d157,1d165;1N1d158,1d165;1N1d15f,1d16e;1N1d15f,1d16f;
1N1d15f,1d170;1N1d15f,1d171;1N1d15f,1d172;57N1d1b9,1d165;1N1d1ba,1d165;1N1d1bb,1d16e;
1N1d1bc,1d16e;1N1d1bb,1d16f;1N1d1bc,1d16f;12640N4e3d;1N4e38;1N4e41;1N20122;1N4f60;1N4fae;1N4fbb;
1N5002;1N507a;1N5099;1N50e7;1N50cf;1N349e;1N2063a;1N514d;1N5154;1N5164;1N5177;1N2051c;1N34b9;
1N5167;1N518d;1N2054b;1N5197;1N51a4;1N4ecc;1N51ac;1N51b5;1N291df;1N51f5;1N5203;1N34df;1N523b;
1N5246;1N5272;1N5277;1N3515;1N52c7;1N52c9;1N52e4;1N52fa;1N5305;1N5306;1N5317;1N5349;1N5351;
1N535a;1N5373;1N537d;1N537f;1N537f;1N537f;1N20a2c;1N7070;1N53ca;1N53df;1N20b63;1N53eb;1N53f1;
1N5406;1N549e;1N5438;1N5448;1N5468;1N54a2;1N54f6;1N5510;1N5553;1N5563;1N5584;1N5584;1N5599;
1N55ab;1N55b3;1N55c2;1N5716;1N5606;1N5717;1N5651;1N5674;1N5207;1N58ee;1N57ce;1N57f4;1N580d;
1N578b;1N5832;1N5831;1N58ac;1N214e4;1N58f2;1N58f7;1N5906;1N591a;1N5922;1N5962;1N216a8;1N216ea;
1N59ec;1N5a1b;1N5a27;1N59d8;1N5a66;1N36ee;1N36fc;1N5b08;1N5b3e;1N5b3e;1N219c8;1N5bc3;1N5bd8;
1N5be7;1N5bf3;1N21b18;1N5bff;1N5c06;1N5f53;1N5c22;1N3781;1N5c60;1N5c6e;1N5cc0;1N5c8d;1N21de4;
1N5d43;1N21de6;1N5d6e;1N5d6b;1N5d7c;1N5de1;1N5de2;1N382f;1N5dfd;1N5e28;1N5e3d;1N5e69;1N3862;
1N22183;1N387c;1N5eb0;1N5eb3;1N5eb6;1N5eca;1N2a392;1N5efe;1N22331;1N22331;1N8201;1N5f22;1N5f22;
1N38c7;1N232b8;1N261da;1N5f62;1N5f6b;1N38e3;1N5f9a;1N5fcd;1N5fd7;1N5ff9;1N6081;1N393a;1N391c;
1N6094;1N226d4;1N60c7;1N6148;1N614c;1N614e;1N614c;1N617a;1N618e;1N61b2;1N61a4;1N61af;1N61de;
1N61f2;1N61f6;1N6210;1N621b;1N625d;1N62b1;1N62d4;1N6350;1N22b0c;1N633d;1N62fc;1N6368;1N6383;
1N63e4;1N22bf1;1N6422;1N63c5;1N63a9;1N3a2e;1N6469;1N647e;1N649d;1N6477;1N3a6c;1N654f;1N656c;
1N2300a;1N65e3;1N66f8;1N6649;1N3b19;1N6691;1N3b08;1N3ae4;1N5192;1N5195;1N6700;1N669c;1N80ad;
1N43d9;1N6717;1N671b;1N6721;1N675e;1N6753;1N233c3;1N3b49;1N67fa;1N6785;1N6852;1N6885;1N2346d;
1N688e;1N681f;1N6914;1N3b9d;1N6942;1N69a3;1N69ea;1N6aa8;1N236a3;1N6adb;1N3c18;1N6b21;1N238a7;
1N6b54;1N3c4e;1N6b72;1N6b9f;1N6bba;1N6bbb;1N23a8d;1N21d0b;1N23afa;1N6c4e;1N23cbc;1N6cbf;1N6ccd;
1N6c67;1N6d16;1N6d3e;1N6d77;1N6d41;1N6d69;1N6d78;1N6d85;1N23d1e;1N6d34;1N6e2f;1N6e6e;1N3d33;
1N6ecb;1N6ec7;1N23ed1;1N6df9;1N6f6e;1N23f5e;1N23f8e;1N6fc6;1N7039;1N701e;1N701b;1N3d96;1N704a;
1N707d;1N7077;1N70ad;1N20525;1N7145;1N24263;1N719c;1N243ab;1N7228;1N7235;1N7250;1N24608;1N7280;
1N7295;1N24735;1N24814;1N737a;1N738b;1N3eac;1N73a5;1N3eb8;1N3eb8;1N7447;1N745c;1N7471;1N7485;
1N74ca;1N3f1b;1N7524;1N24c36;1N753e;1N24c92;1N7570;1N2219f;1N7610;1N24fa1;1N24fb8;1N25044;
1N3ffc;1N4008;1N76f4;1N250f3;1N250f2;1N25119;1N25133;1N771e;1N771f;1N771f;1N774a;1N4039;1N778b;
1N4046;1N4096;1N2541d;1N784e;1N788c;1N78cc;1N40e3;1N25626;1N7956;1N2569a;1N256c5;1N798f;1N79eb;
1N412f;1N7a40;1N7a4a;1N7a4f;1N2597c;1N25aa7;1N25aa7;1N7aee;1N4202;1N25bab;1N7bc6;1N7bc9;1N4227;
1N25c80;1N7cd2;1N42a0;1N7ce8;1N7ce3;1N7d00;1N25f86;1N7d63;1N4301;1N7dc7;1N7e02;1N7e45;1N4334;
1N26228;1N26247;1N4359;1N262d9;1N7f7a;1N2633e;1N7f95;1N7ffa;1N8005;1N264da;1N26523;1N8060;
1N265a8;1N8070;1N2335f;1N43d5;1N80b2;1N8103;1N440b;1N813e;1N5ab5;1N267a7;1N267b5;1N23393;
1N2339c;1N8201;1N8204;1N8f9e;1N446b;1N8291;1N828b;1N829d;1N52b3;1N82b1;1N82b3;1N82bd;1N82e6;
1N26b3c;1N82e5;1N831d;1N8363;1N83ad;1N8323;1N83bd;1N83e7;1N8457;1N8353;1N83ca;1N83cc;1N83dc;
1N26c36;1N26d6b;1N26cd5;1N452b;1N84f1;1N84f3;1N8516;1N273ca;1N8564;1N26f2c;1N455d;1N4561;
1N26fb1;1N270d2;1N456b;1N8650;1N865c;1N8667;1N8669;1N86a9;1N8688;1N870e;1N86e2;1N8779;1N8728;
1N876b;1N8786;1N45d7;1N87e1;1N8801;1N45f9;1N8860;1N8863;1N27667;1N88d7;1N88de;1N4635;1N88fa;
1N34bb;1N278ae;1N27966;1N46be;1N46c7;1N8aa0;1N8aed;1N8b8a;1N8c55;1N27ca8;1N8cab;1N8cc1;1N8d1b;
1N8d77;1N27f2f;1N20804;1N8dcb;1N8dbc;1N8df0;1N208de;1N8ed4;1N8f38;1N285d2;1N285ed;1N9094;1N90f1;
1N9111;1N2872e;1N911b;1N9238;1N92d7;1N92d8;1N927c;1N93f9;1N9415;1N28bfa;1N958b;1N4995;1N95b7;
1N28d77;1N49e6;1N96c3;1N5db2;1N9723;1N29145;1N2921a;1N4a6e;1N4a76;1N97e0;1N2940a;1N4ab2;1N29496;
1N980b;1N980b;1N9829;1N295b6;1N98e2;1N4b33;1N9929;1N99a7;1N99c2;1N99fe;1N4bce;1N29b30;1N9b12;
1N9c40;1N9cfd;1N4cce;1N4ced;1N9d67;1N2a0ce;1N4cf8;1N2a105;1N2a20e;1N2a291;1N9ebb;1N4d56;1N9ef9;
1N9efe;1N9f05;1N9f0f;1N9f16;1N9f3b;1N2a600;"

def decompositionRows : Array Row := Row.unpack decompositionTable

def decomposition? (c : Char) : Option (List Char) :=
  match Row.find? decompositionRows c.toNat with
  | some r => if r.start == c.toNat then some (r.values.map Char.ofNat) else none
  | none => none

def pairComposite? (a b : Char) : Option Char :=
  (decompositionRows.find? fun r => r.tag == 'C' && r.values == [a.toNat, b.toNat]).map
    fun r => Char.ofNat r.start

end Depot.Text
