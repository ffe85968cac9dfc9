import Depot.Text.Packed

namespace Depot.Text.Idna

inductive Status where
  | valid
  | mapped (chars : List Char)
  | ignored
  | deviation
  | disallowed
  deriving DecidableEq, Repr, Inhabited

def mappingTable : String := "
0V;41M61;1M62;1M63;1M64;1M65;1M66;1M67;1M68;1M69;1M6a;1M6b;1M6c;1M6d;1M6e;1M6f;1M70;1M71;1M72;
1M73;1M74;1M75;1M76;1M77;1M78;1M79;1M7a;1V;25X;20M20;1V;7M20,308;1V;1M61;1V;2I;1V;1M20,304;1V;
2M32;1M33;1M20,301;1M3bc;1V;2M20,327;1M31;1M6f;1V;1M31,2044,34;1M31,2044,32;1M33,2044,34;1V;
1Me0;1Me1;1Me2;1Me3;1Me4;1Me5;1Me6;1Me7;1Me8;1Me9;1Mea;1Meb;1Mec;1Med;1Mee;1Mef;1Mf0;1Mf1;1Mf2;
1Mf3;1Mf4;1Mf5;1Mf6;1V;1Mf8;1Mf9;1Mfa;1Mfb;1Mfc;1Mfd;1Mfe;1D;1V;20M101;1V;1M103;1V;1M105;1V;
1M107;1V;1M109;1V;1M10b;1V;1M10d;1V;1M10f;1V;1M111;1V;1M113;1V;1M115;1V;1M117;1V;1M119;1V;1M11b;
1V;1M11d;1V;1M11f;1V;1M121;1V;1M123;1V;1M125;1V;1M127;1V;1M129;1V;1M12b;1V;1M12d;1V;1M12f;1V;
1M69,307;1V;1M69,6a;2M135;1V;1M137;1V;2M13a;1V;1M13c;1V;1M13e;1V;1M6c,b7;2M142;1V;1M144;1V;
1M146;1V;1M148;1V;1M2bc,6e;1M14b;1V;1M14d;1V;1M14f;1V;1M151;1V;1M153;1V;1M155;1V;1M157;1V;1M159;
1V;1M15b;1V;1M15d;1V;1M15f;1V;1M161;1V;1M163;1V;1M165;1V;1M167;1V;1M169;1V;1M16b;1V;1M16d;1V;
1M16f;1V;1M171;1V;1M173;1V;1M175;1V;1M177;1V;1Mff;1M17a;1V;1M17c;1V;1M17e;1V;1M73;1V;1M253;
1M183;1V;1M185;1V;1M254;1M188;1V;1M256;1M257;1M18c;1V;2M1dd;1M259;1M25b;1M192;1V;1M260;1M263;1V;
1M269;1M268;1M199;1V;3M26f;1M272;1V;1M275;1M1a1;1V;1M1a3;1V;1M1a5;1V;1M280;1M1a8;1V;1M283;1V;
2M1ad;1V;1M288;1M1b0;1V;1M28a;1M28b;1M1b4;1V;1M1b6;1V;1M292;1M1b9;1V;3M1bd;1V;7M64,17e;3M6c,6a;
3M6e,6a;3M1ce;1V;1M1d0;1V;1M1d2;1V;1M1d4;1V;1M1d6;1V;1M1d8;1V;1M1da;1V;1M1dc;1V;2M1df;1V;1M1e1;
1V;1M1e3;1V;1M1e5;1V;1M1e7;1V;1M1e9;1V;1M1eb;1V;1M1ed;1V;1M1ef;1V;2M64,7a;3M1f5;1V;1M195;1M1bf;
1M1f9;1V;1M1fb;1V;1M1fd;1V;1M1ff;1V;1M201;1V;1M203;1V;1M205;1V;1M207;1V;1M209;1V;1M20b;1V;1M20d;
1V;1M20f;1V;1M211;1V;1M213;1V;1M215;1V;1M217;1V;1M219;1V;1M21b;1V;1M21d;1V;1M21f;1V;1M19e;1V;
1M223;1V;1M225;1V;1M227;1V;1M229;1V;1M22b;1V;1M22d;1V;1M22f;1V;1M231;1V;1M233;1V;7M2c65;1M23c;
1V;1M19a;1M2c66;1V;2M242;1V;1M180;1M289;1M28c;1M247;1V;1M249;1V;1M24b;1V;1M24d;1V;1M24f;1V;
61M68;1M266;1M6a;1M72;1M279;1M27b;1M281;1M77;1M79;1V;1fM20,306;1M20,307;1M20,30a;1M20,328;
1M20,303;1M20,30b;1V;2M263;1M6c;1M73;1M78;1M295;1V;5bM300;1M301;1V;1M313;1M308,301;1M3b9;1V;9I;
1V;20M371;1V;1M373;1V;1M2b9;1V;1M377;1V;1X;2M20,3b9;1V;3M3b;1M3f3;1X;4M20,301;1M20,308,301;
1M3ac;1Mb7;1M3ad;1M3ae;1M3af;1X;1M3cc;1X;1M3cd;1M3ce;1V;1M3b1;1M3b2;1M3b3;1M3b4;1M3b5;1M3b6;
1M3b7;1M3b8;1M3b9;1M3ba;1M3bb;1M3bc;1M3bd;1M3be;1M3bf;1M3c0;1M3c1;1X;1M3c3;1M3c4;1M3c5;1M3c6;
1M3c7;1M3c8;1M3c9;1M3ca;1M3cb;1V;16D;1V;cM3d7;1M3b2;1M3b8;1M3c5;1M3cd;1M3cb;1M3c6;1M3c0;1V;
1M3d9;1V;1M3db;1V;1M3dd;1V;1M3df;1V;1M3e1;1V;1M3e3;1V;1M3e5;1V;1M3e7;1V;1M3e9;1V;1M3eb;1V;1M3ed;
1V;1M3ef;1V;1M3ba;1M3c1;1M3c3;1V;1M3b8;1M3b5;1V;1M3f8;1V;1M3c3;1M3fb;1V;2M37b;1M37c;1M37d;1M450;
1M451;1M452;1M453;1M454;1M455;1M456;1M457;1M458;1M459;1M45a;1M45b;1M45c;1M45d;1M45e;1M45f;1M430;
1M431;1M432;1M433;1M434;1M435;1M436;1M437;1M438;1M439;1M43a;1M43b;1M43c;1M43d;1M43e;1M43f;1M440;
1M441;1M442;1M443;1M444;1M445;1M446;1M447;1M448;1M449;1M44a;1M44b;1M44c;1M44d;1M44e;1M44f;1V;
30M461;1V;1M463;1V;1M465;1V;1M467;1V;1M469;1V;1M46b;1V;1M46d;1V;1M46f;1V;1M471;1V;1M473;1V;
1M475;1V;1M477;1V;1M479;1V;1M47b;1V;1M47d;1V;1M47f;1V;1M481;1V;9M48b;1V;1M48d;1V;1M48f;1V;1M491;
1V;1M493;1V;1M495;1V;1M497;1V;1M499;1V;1M49b;1V;1M49d;1V;1M49f;1V;1M4a1;1V;1M4a3;1V;1M4a5;1V;
1M4a7;1V;1M4a9;1V;1M4ab;1V;1M4ad;1V;1M4af;1V;1M4b1;1V;1M4b3;1V;1M4b5;1V;1M4b7;1V;1M4b9;1V;1M4bb;
1V;1M4bd;1V;1M4bf;1V;1M4cf;1M4c2;1V;1M4c4;1V;1M4c6;1V;1M4c8;1V;1M4ca;1V;1M4cc;1V;1M4ce;1V;2M4d1;
1V;1M4d3;1V;1M4d5;1V;1M4d7;1V;1M4d9;1V;1M4db;1V;1M4dd;1V;1M4df;1V;1M4e1;1V;1M4e3;1V;1M4e5;1V;
1M4e7;1V;1M4e9;1V;1M4eb;1V;1M4ed;1V;1M4ef;1V;1M4f1;1V;1M4f3;1V;1M4f5;1V;1M4f7;1V;1M4f9;1V;1M4fb;
1V;1M4fd;1V;1M4ff;1V;1M501;1V;1M503;1V;1M505;1V;1M507;1V;1M509;1V;1M50b;1V;1M50d;1V;1M50f;1V;
1M511;1V;1M513;1V;1M515;1V;1M517;1V;1M519;1V;1M51b;1V;1M51d;1V;1M51f;1V;1M521;1V;1M523;1V;1M525;
1V;1M527;1V;1M529;1V;1M52b;1V;1M52d;1V;1M52f;1V;1X;1M561;1M562;1M563;1M564;1M565;1M566;1M567;
1M568;1M569;1M56a;1M56b;1M56c;1M56d;1M56e;1M56f;1M570;1M571;1M572;1M573;1M574;1M575;1M576;1M577;
1M578;1M579;1M57a;1M57b;1M57c;1M57d;1M57e;1M57f;1M580;1M581;1M582;1M583;1M584;1M585;1M586;1X;2V;
2eM565,582;1V;3X;2V;3X;1V;37X;8V;1bX;4V;6X;11V;16X;1V;58M627,674;1M648,674;1M6c7,674;1M64a,674;
1V;64X;1V;30X;2V;3bX;2V;65X;eV;3bX;2V;31X;2V;fX;1V;1cX;2V;1X;1V;bX;5V;20X;7V;4bX;1V;75M915,93c;
1M916,93c;1M917,93c;1M91c,93c;1M921,93c;1M922,93c;1M92b,93c;1M92f,93c;1V;24X;1V;8X;2V;2X;2V;16X;
1V;7X;1V;1X;3V;4X;2V;9X;2V;2X;2V;4X;8V;1X;4M9a1,9bc;1M9a2,9bc;1X;1M9af,9bc;1V;4X;2V;19X;2V;3X;
1V;6X;4V;2X;2V;16X;1V;7X;1V;1Ma32,a3c;1X;1V;1Ma38,a3c;1X;1V;2X;2V;1X;1V;5X;4V;2X;2V;3X;3V;1X;
7Ma16,a3c;1Ma17,a3c;1Ma1c,a3c;1V;1X;1Ma2b,a3c;1X;7V;11X;aV;3X;1V;9X;1V;3X;1V;16X;1V;7X;1V;2X;1V;
5X;2V;aX;1V;3X;1V;3X;2V;1X;fV;4X;2V;cX;7V;7X;1V;3X;1V;8X;2V;2X;2V;16X;1V;7X;1V;2X;1V;5X;2V;9X;
2V;2X;2V;3X;7V;3X;4Mb21,b3c;1Mb22,b3c;1X;1V;5X;2V;12X;aV;2X;1V;6X;3V;3X;1V;4X;3V;2X;1V;1X;1V;2X;
3V;2X;3V;3X;3V;cX;4V;5X;3V;3X;1V;4X;2V;1X;6V;1X;eV;15X;5V;dX;1V;3X;1V;17X;1V;10X;2V;9X;1V;3X;1V;
4X;7V;2X;1V;3X;1V;2X;2V;4X;2V;aX;7V;16X;1V;3X;1V;17X;1V;aX;1V;5X;2V;9X;1V;3X;1V;4X;7V;2X;5V;3X;
1V;4X;2V;aX;1V;3X;cV;dX;1V;3X;1V;33X;1V;3X;1V;6X;4V;10X;2V;1aX;1V;3X;1V;12X;3V;18X;1V;9X;1V;1X;
2V;7X;3V;1X;4V;6X;1V;1X;1V;8X;6V;aX;2V;3X;cV;32Me4d,e32;1V;7X;4V;1dX;25V;2X;1V;1X;1V;5X;1V;18X;
1V;1X;1V;cMecd,eb2;1V;aX;2V;5X;1V;1X;1V;7X;1V;aX;2Meab,e99;1Meab,ea1;1V;2X;20V;cMf0b;1V;
36Mf42,fb7;1V;4X;1V;4Mf4c,fb7;1V;4Mf51,fb7;1V;4Mf56,fb7;1V;4Mf5b,fb7;1V;cMf40,fb5;1V;3X;4V;
2Mf71,f72;1V;1Mf71,f74;1Mfb2,f80;1Mfb2,f71,f80;1Mfb3,f80;1Mfb3,f71,f80;1V;7Mf71,f80;1V;
11Mf92,fb7;1V;4X;1V;4Mf9c,fb7;1V;4Mfa1,fb7;1V;4Mfa6,fb7;1V;4Mfab,fb7;1V;cMf90,fb5;1V;3X;1V;fX;
1V;dX;25V;a0M2d00;1M2d01;1M2d02;1M2d03;1M2d04;1M2d05;1M2d06;1M2d07;1M2d08;1M2d09;1M2d0a;1M2d0b;
1M2d0c;1M2d0d;1M2d0e;1M2d0f;1M2d10;1M2d11;1M2d12;1M2d13;1M2d14;1M2d15;1M2d16;1M2d17;1M2d18;
1M2d19;1M2d1a;1M2d1b;1M2d1c;1M2d1d;1M2d1e;1M2d1f;1M2d20;1M2d21;1M2d22;1M2d23;1M2d24;1M2d25;1X;
1M2d27;1X;5M2d2d;1X;2V;2cM10dc;1V;62I;2V;e8X;1V;4X;2V;7X;1V;1X;1V;4X;2V;29X;1V;4X;2V;21X;1V;4X;
2V;7X;1V;1X;1V;4X;2V;fX;1V;39X;1V;4X;2V;43X;2V;20X;3V;1aX;6V;56X;2M13f0;1M13f1;1M13f2;1M13f3;
1M13f4;1M13f5;1X;2V;280X;1V;1cX;3V;59X;7V;16X;9V;18X;9V;14X;cV;dX;1V;3X;1V;2X;cV;34I;2V;28X;2V;
aX;6V;aX;6V;bI;5V;aX;6V;59X;7V;2bX;5V;46X;aV;1fX;1V;cX;4V;cX;4V;1X;3V;2aX;2V;5X;bV;2cX;4V;1aX;
6V;bX;3V;3eX;2V;41X;1V;1dX;2V;bX;6V;aX;6V;eX;2V;2eX;2V;cX;14V;4dX;1V;a6X;8V;3cX;3V;fX;3V;33M432;
1M434;1M43e;1M441;1M442;2M44a;1M463;1Ma64b;1M1c8a;1V;1X;5M10d0;1M10d1;1M10d2;1M10d3;1M10d4;
1M10d5;1M10d6;1M10d7;1M10d8;1M10d9;1M10da;1M10db;1M10dc;1M10dd;1M10de;1M10df;1M10e0;1M10e1;
1M10e2;1M10e3;1M10e4;1M10e5;1M10e6;1M10e7;1M10e8;1M10e9;1M10ea;1M10eb;1M10ec;1M10ed;1M10ee;
1M10ef;1M10f0;1M10f1;1M10f2;1M10f3;1M10f4;1M10f5;1M10f6;1M10f7;1M10f8;1M10f9;1M10fa;1X;2M10fd;
1M10fe;1M10ff;1V;8X;8V;2bX;5V;2cM61;1Me6;1M62;1V;1M64;1M65;1M1dd;1M67;1M68;1M69;1M6a;1M6b;1M6c;
1M6d;1M6e;1V;1M6f;1M223;1M70;1M72;1M74;1M75;1M77;1M61;1M250;1M251;1M1d02;1M62;1M64;1M65;1M259;
1M25b;1M25c;1M67;1V;1M6b;1M6d;1M14b;1M6f;1M254;1M1d16;1M1d17;1M70;1M74;1M75;1M1d1d;1M26f;1M76;
1M1d25;1M3b2;1M3b3;1M3b4;1M3c6;1M3c7;1M69;1M72;1M75;1M76;1M3b2;1M3b3;1M3c1;1M3c6;1M3c7;1V;dM43d;
1V;22M252;1M63;1M255;1Mf0;1M25c;1M66;1M25f;1M261;1M265;1M268;1M269;1M26a;1M1d7b;1M29d;1M26d;
1M1d85;1M29f;1M271;1M270;1M272;1M273;1M274;1M275;1M278;1M282;1M283;1M1ab;1M289;1M28a;1M1d1c;
1M28b;1M28c;1M7a;1M290;1M291;1M292;1M3b8;1V;40M1e01;1V;1M1e03;1V;1M1e05;1V;1M1e07;1V;1M1e09;1V;
1M1e0b;1V;1M1e0d;1V;1M1e0f;1V;1M1e11;1V;1M1e13;1V;1M1e15;1V;1M1e17;1V;1M1e19;1V;1M1e1b;1V;
1M1e1d;1V;1M1e1f;1V;1M1e21;1V;1M1e23;1V;1M1e25;1V;1M1e27;1V;1M1e29;1V;1M1e2b;1V;1M1e2d;1V;
1M1e2f;1V;1M1e31;1V;1M1e33;1V;1M1e35;1V;1M1e37;1V;1M1e39;1V;1M1e3b;1V;1M1e3d;1V;1M1e3f;1V;
1M1e41;1V;1M1e43;1V;1M1e45;1V;1M1e47;1V;1M1e49;1V;1M1e4b;1V;1M1e4d;1V;1M1e4f;1V;1M1e51;1V;
1M1e53;1V;1M1e55;1V;1M1e57;1V;1M1e59;1V;1M1e5b;1V;1M1e5d;1V;1M1e5f;1V;1M1e61;1V;1M1e63;1V;
1M1e65;1V;1M1e67;1V;1M1e69;1V;1M1e6b;1V;1M1e6d;1V;1M1e6f;1V;1M1e71;1V;1M1e73;1V;1M1e75;1V;
1M1e77;1V;1M1e79;1V;1M1e7b;1V;1M1e7d;1V;1M1e7f;1V;1M1e81;1V;1M1e83;1V;1M1e85;1V;1M1e87;1V;
1M1e89;1V;1M1e8b;1V;1M1e8d;1V;1M1e8f;1V;1M1e91;1V;1M1e93;1V;1M1e95;1V;5M61,2be;1M1e61;1V;2Mdf;
1V;1M1ea1;1V;1M1ea3;1V;1M1ea5;1V;1M1ea7;1V;1M1ea9;1V;1M1eab;1V;1M1ead;1V;1M1eaf;1V;1M1eb1;1V;
1M1eb3;1V;1M1eb5;1V;1M1eb7;1V;1M1eb9;1V;1M1ebb;1V;1M1ebd;1V;1M1ebf;1V;1M1ec1;1V;1M1ec3;1V;
1M1ec5;1V;1M1ec7;1V;1M1ec9;1V;1M1ecb;1V;1M1ecd;1V;1M1ecf;1V;1M1ed1;1V;1M1ed3;1V;1M1ed5;1V;
1M1ed7;1V;1M1ed9;1V;1M1edb;1V;1M1edd;1V;1M1edf;1V;1M1ee1;1V;1M1ee3;1V;1M1ee5;1V;1M1ee7;1V;
1M1ee9;1V;1M1eeb;1V;1M1eed;1V;1M1eef;1V;1M1ef1;1V;1M1ef3;1V;1M1ef5;1V;1M1ef7;1V;1M1ef9;1V;
1M1efb;1V;1M1efd;1V;1M1eff;1V;9M1f00;1M1f01;1M1f02;1M1f03;1M1f04;1M1f05;1M1f06;1M1f07;1V;6X;
2M1f10;1M1f11;1M1f12;1M1f13;1M1f14;1M1f15;1X;2V;8M1f20;1M1f21;1M1f22;1M1f23;1M1f24;1M1f25;
1M1f26;1M1f27;1V;8M1f30;1M1f31;1M1f32;1M1f33;1M1f34;1M1f35;1M1f36;1M1f37;1V;6X;2M1f40;1M1f41;
1M1f42;1M1f43;1M1f44;1M1f45;1X;2V;8X;1M1f51;1X;1M1f53;1X;1M1f55;1X;1M1f57;1V;8M1f60;1M1f61;
1M1f62;1M1f63;1M1f64;1M1f65;1M1f66;1M1f67;1V;1M3ac;1V;1M3ad;1V;1M3ae;1V;1M3af;1V;1M3cc;1V;1M3cd;
1V;1M3ce;1X;2M1f00,3b9;1M1f01,3b9;1M1f02,3b9;1M1f03,3b9;1M1f04,3b9;1M1f05,3b9;1M1f06,3b9;
1M1f07,3b9;1M1f00,3b9;1M1f01,3b9;1M1f02,3b9;1M1f03,3b9;1M1f04,3b9;1M1f05,3b9;1M1f06,3b9;
1M1f07,3b9;1M1f20,3b9;1M1f21,3b9;1M1f22,3b9;1M1f23,3b9;1M1f24,3b9;1M1f25,3b9;1M1f26,3b9;
1M1f27,3b9;1M1f20,3b9;1M1f21,3b9;1M1f22,3b9;1M1f23,3b9;1M1f24,3b9;1M1f25,3b9;1M1f26,3b9;
1M1f27,3b9;1M1f60,3b9;1M1f61,3b9;1M1f62,3b9;1M1f63,3b9;1M1f64,3b9;1M1f65,3b9;1M1f66,3b9;
1M1f67,3b9;1M1f60,3b9;1M1f61,3b9;1M1f62,3b9;1M1f63,3b9;1M1f64,3b9;1M1f65,3b9;1M1f66,3b9;
1M1f67,3b9;1V;2M1f70,3b9;1M3b1,3b9;1M3ac,3b9;1X;1V;1M1fb6,3b9;1M1fb0;1M1fb1;1M1f70;1M3ac;
1M3b1,3b9;1M20,313;1M3b9;1M20,313;1M20,342;1M20,308,342;1M1f74,3b9;1M3b7,3b9;1M3ae,3b9;1X;1V;
1M1fc6,3b9;1M1f72;1M3ad;1M1f74;1M3ae;1M3b7,3b9;1M20,313,300;1M20,313,301;1M20,313,342;1V;3M390;
1X;2V;2M1fd0;1M1fd1;1M1f76;1M3af;1X;1M20,314,300;1M20,314,301;1M20,314,342;1V;3M3b0;1V;4M1fe0;
1M1fe1;1M1f7a;1M3cd;1M1fe5;1M20,308,300;1M20,308,301;1M60;1X;2M1f7c,3b9;1M3c9,3b9;1M3ce,3b9;1X;
1V;1M1ff6,3b9;1M1f78;1M3cc;1M1f7c;1M3ce;1M3c9,3b9;1M20,301;1M20,314;1X;1M20;bI;1D;2X;2V;1M2010;
1V;5M20,333;1V;cX;3V;1X;7M20;1V;3M2032,2032;1M2032,2032,2032;1V;1M2035,2035;1M2035,2035,2035;1V;
4M21,21;1V;1M20,305;1V;8M3f,3f;1M3f,21;1M21,3f;1V;dM2032,2032,2032,2032;1V;7M20;1I;5X;5I;6M30;
1M69;1X;2M34;1M35;1M36;1M37;1M38;1M39;1M2b;1M2212;1M3d;1M28;1M29;1M6e;1M30;1M31;1M32;1M33;1M34;
1M35;1M36;1M37;1M38;1M39;1M2b;1M2212;1M3d;1M28;1M29;1X;1M61;1M65;1M6f;1M78;1M259;1M68;1M6b;1M6c;
1M6d;1M6e;1M70;1M73;1M74;1X;3V;8M72,73;1V;19X;eV;21X;fM61,2f,63;1M61,2f,73;1M63;1Mb0,63;1V;
1M63,2f,6f;1M63,2f,75;1M25b;1V;1Mb0,66;1M67;1M68;4M127;1M69;2M6c;2V;1M6e;1M6e,6f;1V;2M70;1M71;
1M72;3V;2M73,6d;1M74,65,6c;1M74,6d;1V;1M7a;1V;1M3c9;1V;1M7a;1V;1M6b;1Me5;1M62;1M63;1V;1M65;2M66;
1M214e;1M6d;1M6f;1M5d0;1M5d1;1M5d2;1M5d3;1M69;1V;1M66,61,78;1M3c0;1M3b3;2M3c0;1M2211;1V;4M64;
2M65;1M69;1M6a;1V;6M31,2044,37;1M31,2044,39;1M31,2044,31,30;1M31,2044,33;1M32,2044,33;
1M31,2044,35;1M32,2044,35;1M33,2044,35;1M34,2044,35;1M31,2044,36;1M35,2044,36;1M31,2044,38;
1M33,2044,38;1M35,2044,38;1M37,2044,38;1M31,2044;1M69;1M69,69;1M69,69,69;1M69,76;1M76;1M76,69;
1M76,69,69;1M76,69,69,69;1M69,78;1M78;1M78,69;1M78,69,69;1M6c;1M63;1M64;1M6d;1M69;1M69,69;
1M69,69,69;1M69,76;1M76;1M76,69;1M76,69,69;1M76,69,69,69;1M69,78;1M78;1M78,69;1M78,69,69;1M6c;
1M63;1M64;1M6d;1V;3M2184;1V;5M30,2044,33;1V;2X;4V;9cM222b,222b;1M222b,222b,222b;1V;1M222e,222e;
1M222e,222e,222e;1V;f8M3008;1M3009;1V;ffX;16V;bX;15M31;1M32;1M33;1M34;1M35;1M36;1M37;1M38;1M39;
1M31,30;1M31,31;1M31,32;1M31,33;1M31,34;1M31,35;1M31,36;1M31,37;1M31,38;1M31,39;1M32,30;
1M28,31,29;1M28,32,29;1M28,33,29;1M28,34,29;1M28,35,29;1M28,36,29;1M28,37,29;1M28,38,29;
1M28,39,29;1M28,31,30,29;1M28,31,31,29;1M28,31,32,29;1M28,31,33,29;1M28,31,34,29;1M28,31,35,29;
1M28,31,36,29;1M28,31,37,29;1M28,31,38,29;1M28,31,39,29;1M28,32,30,29;1X;14M28,61,29;1M28,62,29;
1M28,63,29;1M28,64,29;1M28,65,29;1M28,66,29;1M28,67,29;1M28,68,29;1M28,69,29;1M28,6a,29;
1M28,6b,29;1M28,6c,29;1M28,6d,29;1M28,6e,29;1M28,6f,29;1M28,70,29;1M28,71,29;1M28,72,29;
1M28,73,29;1M28,74,29;1M28,75,29;1M28,76,29;1M28,77,29;1M28,78,29;1M28,79,29;1M28,7a,29;1M61;
1M62;1M63;1M64;1M65;1M66;1M67;1M68;1M69;1M6a;1M6b;1M6c;1M6d;1M6e;1M6f;1M70;1M71;1M72;1M73;1M74;
1M75;1M76;1M77;1M78;1M79;1M7a;1M61;1M62;1M63;1M64;1M65;1M66;1M67;1M68;1M69;1M6a;1M6b;1M6c;1M6d;
1M6e;1M6f;1M70;1M71;1M72;1M73;1M74;1M75;1M76;1M77;1M78;1M79;1M7a;1M30;1V;
521M222b,222b,222b,222b;1V;67M3a,3a,3d;1M3d,3d;1M3d,3d,3d;1V;65M2add,338;1V;97X;2V;8aM2c30;
1M2c31;1M2c32;1M2c33;1M2c34;1M2c35;1M2c36;1M2c37;1M2c38;1M2c39;1M2c3a;1M2c3b;1M2c3c;1M2c3d;
1M2c3e;1M2c3f;1M2c40;1M2c41;1M2c42;1M2c43;1M2c44;1M2c45;1M2c46;1M2c47;1M2c48;1M2c49;1M2c4a;
1M2c4b;1M2c4c;1M2c4d;1M2c4e;1M2c4f;1M2c50;1M2c51;1M2c52;1M2c53;1M2c54;1M2c55;1M2c56;1M2c57;
1M2c58;1M2c59;1M2c5a;1M2c5b;1M2c5c;1M2c5d;1M2c5e;1M2c5f;1V;30M2c61;1V;1M26b;1M1d7d;1M27d;1V;
2M2c68;1V;1M2c6a;1V;1M2c6c;1V;1M251;1M271;1M250;1M252;1V;1M2c73;1V;2M2c76;1V;6M6a;1M76;1M23f;
1M240;1M2c81;1V;1M2c83;1V;1M2c85;1V;1M2c87;1V;1M2c89;1V;1M2c8b;1V;1M2c8d;1V;1M2c8f;1V;1M2c91;1V;
1M2c93;1V;1M2c95;1V;1M2c97;1V;1M2c99;1V;1M2c9b;1V;1M2c9d;1V;1M2c9f;1V;1M2ca1;1V;1M2ca3;1V;
1M2ca5;1V;1M2ca7;1V;1M2ca9;1V;1M2cab;1V;1M2cad;1V;1M2caf;1V;1M2cb1;1V;1M2cb3;1V;1M2cb5;1V;
1M2cb7;1V;1M2cb9;1V;1M2cbb;1V;1M2cbd;1V;1M2cbf;1V;1M2cc1;1V;1M2cc3;1V;1M2cc5;1V;1M2cc7;1V;
1M2cc9;1V;1M2ccb;1V;1M2ccd;1V;1M2ccf;1V;1M2cd1;1V;1M2cd3;1V;1M2cd5;1V;1M2cd7;1V;1M2cd9;1V;
1M2cdb;1V;1M2cdd;1V;1M2cdf;1V;1M2ce1;1V;1M2ce3;1V;8M2cec;1V;1M2cee;1V;4M2cf3;1V;1X;5V;2dX;1V;1X;
5V;1X;2V;38X;7M2d61;1V;1X;eV;18X;9V;7X;1V;7X;1V;7X;1V;7X;1V;7X;1V;7X;1V;7X;1V;7X;1V;7eX;22V;1aX;
1V;4M6bcd;1V;53M9f9f;1X;cM4e00;1M4e28;1M4e36;1M4e3f;1M4e59;1M4e85;1M4e8c;1M4ea0;1M4eba;1M513f;
1M5165;1M516b;1M5182;1M5196;1M51ab;1M51e0;1M51f5;1M5200;1M529b;1M52f9;1M5315;1M531a;1M5338;
1M5341;1M535c;1M5369;1M5382;1M53b6;1M53c8;1M53e3;1M56d7;1M571f;1M58eb;1M5902;1M590a;1M5915;
1M5927;1M5973;1M5b50;1M5b80;1M5bf8;1M5c0f;1M5c22;1M5c38;1M5c6e;1M5c71;1M5ddb;1M5de5;1M5df1;
1M5dfe;1M5e72;1M5e7a;1M5e7f;1M5ef4;1M5efe;1M5f0b;1M5f13;1M5f50;1M5f61;1M5f73;1M5fc3;1M6208;
1M6236;1M624b;1M652f;1M6534;1M6587;1M6597;1M65a4;1M65b9;1M65e0;1M65e5;1M66f0;1M6708;1M6728;
1M6b20;1M6b62;1M6b79;1M6bb3;1M6bcb;1M6bd4;1M6bdb;1M6c0f;1M6c14;1M6c34;1M706b;1M722a;1M7236;
1M723b;1M723f;1M7247;1M7259;1M725b;1M72ac;1M7384;1M7389;1M74dc;1M74e6;1M7518;1M751f;1M7528;
1M7530;1M758b;1M7592;1M7676;1M767d;1M76ae;1M76bf;1M76ee;1M77db;1M77e2;1M77f3;1M793a;1M79b8;
1M79be;1M7a74;1M7acb;1M7af9;1M7c73;1M7cf8;1M7f36;1M7f51;1M7f8a;1M7fbd;1M8001;1M800c;1M8012;
1M8033;1M807f;1M8089;1M81e3;1M81ea;1M81f3;1M81fc;1M820c;1M821b;1M821f;1M826e;1M8272;1M8278;
1M864d;1M866b;1M8840;1M884c;1M8863;1M897e;1M898b;1M89d2;1M8a00;1M8c37;1M8c46;1M8c55;1M8c78;
1M8c9d;1M8d64;1M8d70;1M8db3;1M8eab;1M8eca;1M8f9b;1M8fb0;1M8fb5;1M9091;1M9149;1M91c6;1M91cc;
1M91d1;1M9577;1M9580;1M961c;1M96b6;1M96b9;1M96e8;1M9751;1M975e;1M9762;1M9769;1M97cb;1M97ed;
1M97f3;1M9801;1M98a8;1M98db;1M98df;1M9996;1M9999;1M99ac;1M9aa8;1M9ad8;1M9adf;1M9b25;1M9b2f;
1M9b32;1M9b3c;1M9b5a;1M9ce5;1M9e75;1M9e7f;1M9ea5;1M9ebb;1M9ec3;1M9ecd;1M9ed1;1M9ef9;1M9efd;
1M9f0e;1M9f13;1M9f20;1M9f3b;1M9f4a;1M9f52;1M9f8d;1M9f9c;1M9fa0;1X;2aM20;1V;1M2e;1V;33M3012;1V;
1M5341;1M5344;1M5345;1V;5X;1V;56X;2V;2M20,3099;1M20,309a;1V;2M3088,308a;1V;5fM30b3,30c8;1X;5V;
2bX;1M1100;1M1101;1M11aa;1M1102;1M11ac;1M11ad;1M1103;1M1104;1M1105;1M11b0;1M11b1;1M11b2;1M11b3;
1M11b4;1M11b5;1M111a;1M1106;1M1107;1M1108;1M1121;1M1109;1M110a;1M110b;1M110c;1M110d;1M110e;
1M110f;1M1110;1M1111;1M1112;1M1161;1M1162;1M1163;1M1164;1M1165;1M1166;1M1167;1M1168;1M1169;
1M116a;1M116b;1M116c;1M116d;1M116e;1M116f;1M1170;1M1171;1M1172;1M1173;1M1174;1M1175;1I;1M1114;
1M1115;1M11c7;1M11c8;1M11cc;1M11ce;1M11d3;1M11d7;1M11d9;1M111c;1M11dd;1M11df;1M111d;1M111e;
1M1120;1M1122;1M1123;1M1127;1M1129;1M112b;1M112c;1M112d;1M112e;1M112f;1M1132;1M1136;1M1140;
1M1147;1M114c;1M11f1;1M11f2;1M1157;1M1158;1M1159;1M1184;1M1185;1M1188;1M1191;1M1192;1M1194;
1M119e;1M11a1;1X;1V;2M4e00;1M4e8c;1M4e09;1M56db;1M4e0a;1M4e2d;1M4e0b;1M7532;1M4e59;1M4e19;
1M4e01;1M5929;1M5730;1M4eba;1V;46X;aV;10M28,1100,29;1M28,1102,29;1M28,1103,29;1M28,1105,29;
1M28,1106,29;1M28,1107,29;1M28,1109,29;1M28,110b,29;1M28,110c,29;1M28,110e,29;1M28,110f,29;
1M28,1110,29;1M28,1111,29;1M28,1112,29;1M28,ac00,29;1M28,b098,29;1M28,b2e4,29;1M28,b77c,29;
1M28,b9c8,29;1M28,bc14,29;1M28,c0ac,29;1M28,c544,29;1M28,c790,29;1M28,cc28,29;1M28,ce74,29;
1M28,d0c0,29;1M28,d30c,29;1M28,d558,29;1M28,c8fc,29;1M28,c624,c804,29;1M28,c624,d6c4,29;1X;
1M28,4e00,29;1M28,4e8c,29;1M28,4e09,29;1M28,56db,29;1M28,4e94,29;1M28,516d,29;1M28,4e03,29;
1M28,516b,29;1M28,4e5d,29;1M28,5341,29;1M28,6708,29;1M28,706b,29;1M28,6c34,29;1M28,6728,29;
1M28,91d1,29;1M28,571f,29;1M28,65e5,29;1M28,682a,29;1M28,6709,29;1M28,793e,29;1M28,540d,29;
1M28,7279,29;1M28,8ca1,29;1M28,795d,29;1M28,52b4,29;1M28,4ee3,29;1M28,547c,29;1M28,5b66,29;
1M28,76e3,29;1M28,4f01,29;1M28,8cc7,29;1M28,5354,29;1M28,796d,29;1M28,4f11,29;1M28,81ea,29;
1M28,81f3,29;1M554f;1M5e7c;1M6587;1M7b8f;1V;8M70,74,65;1M32,31;1M32,32;1M32,33;1M32,34;1M32,35;
1M32,36;1M32,37;1M32,38;1M32,39;1M33,30;1M33,31;1M33,32;1M33,33;1M33,34;1M33,35;1M1100;1M1102;
1M1103;1M1105;1M1106;1M1107;1M1109;1M110b;1M110c;1M110e;1M110f;1M1110;1M1111;1M1112;1Mac00;
1Mb098;1Mb2e4;1Mb77c;1Mb9c8;1Mbc14;1Mc0ac;1Mc544;1Mc790;1Mcc28;1Mce74;1Md0c0;1Md30c;1Md558;
1Mcc38,ace0;1Mc8fc,c758;1Mc6b0;1V;1M4e00;1M4e8c;1M4e09;1M56db;1M4e94;1M516d;1M4e03;1M516b;
1M4e5d;1M5341;1M6708;1M706b;1M6c34;1M6728;1M91d1;1M571f;1M65e5;1M682a;1M6709;1M793e;1M540d;
1M7279;1M8ca1;1M795d;1M52b4;1M79d8;1M7537;1M5973;1M9069;1M512a;1M5370;1M6ce8;1M9805;1M4f11;
1M5199;1M6b63;1M4e0a;1M4e2d;1M4e0b;1M5de6;1M53f3;1M533b;1M5b97;1M5b66;1M76e3;1M4f01;1M8cc7;
1M5354;1M591c;1M33,36;1M33,37;1M33,38;1M33,39;1M34,30;1M34,31;1M34,32;1M34,33;1M34,34;1M34,35;
1M34,36;1M34,37;1M34,38;1M34,39;1M35,30;1M31,6708;1M32,6708;1M33,6708;1M34,6708;1M35,6708;
1M36,6708;1M37,6708;1M38,6708;1M39,6708;1M31,30,6708;1M31,31,6708;1M31,32,6708;1M68,67;
1M65,72,67;1M65,76;1M6c,74,64;1M30a2;1M30a4;1M30a6;1M30a8;1M30aa;1M30ab;1M30ad;1M30af;1M30b1;
1M30b3;1M30b5;1M30b7;1M30b9;1M30bb;1M30bd;1M30bf;1M30c1;1M30c4;1M30c6;1M30c8;1M30ca;1M30cb;
1M30cc;1M30cd;1M30ce;1M30cf;1M30d2;1M30d5;1M30d8;1M30db;1M30de;1M30df;1M30e0;1M30e1;1M30e2;
1M30e4;1M30e6;1M30e8;1M30e9;1M30ea;1M30eb;1M30ec;1M30ed;1M30ef;1M30f0;1M30f1;1M30f2;1M4ee4,548c;
1M30a2,30d1,30fc,30c8;1M30a2,30eb,30d5,30a1;1M30a2,30f3,30da,30a2;1M30a2,30fc,30eb;
1M30a4,30cb,30f3,30b0;1M30a4,30f3,30c1;1M30a6,30a9,30f3;1M30a8,30b9,30af,30fc,30c9;
1M30a8,30fc,30ab,30fc;1M30aa,30f3,30b9;1M30aa,30fc,30e0;1M30ab,30a4,30ea;1M30ab,30e9,30c3,30c8;
1M30ab,30ed,30ea,30fc;1M30ac,30ed,30f3;1M30ac,30f3,30de;1M30ae,30ac;1M30ae,30cb,30fc;
1M30ad,30e5,30ea,30fc;1M30ae,30eb,30c0,30fc;1M30ad,30ed;1M30ad,30ed,30b0,30e9,30e0;
1M30ad,30ed,30e1,30fc,30c8,30eb;1M30ad,30ed,30ef,30c3,30c8;1M30b0,30e9,30e0;
1M30b0,30e9,30e0,30c8,30f3;1M30af,30eb,30bc,30a4,30ed;1M30af,30ed,30fc,30cd;1M30b1,30fc,30b9;
1M30b3,30eb,30ca;1M30b3,30fc,30dd;1M30b5,30a4,30af,30eb;1M30b5,30f3,30c1,30fc,30e0;
1M30b7,30ea,30f3,30b0;1M30bb,30f3,30c1;1M30bb,30f3,30c8;1M30c0,30fc,30b9;1M30c7,30b7;
1M30c9,30eb;1M30c8,30f3;1M30ca,30ce;1M30ce,30c3,30c8;1M30cf,30a4,30c4;
1M30d1,30fc,30bb,30f3,30c8;1M30d1,30fc,30c4;1M30d0,30fc,30ec,30eb;1M30d4,30a2,30b9,30c8,30eb;
1M30d4,30af,30eb;1M30d4,30b3;1M30d3,30eb;1M30d5,30a1,30e9,30c3,30c9;1M30d5,30a3,30fc,30c8;
1M30d6,30c3,30b7,30a7,30eb;1M30d5,30e9,30f3;1M30d8,30af,30bf,30fc,30eb;1M30da,30bd;
1M30da,30cb,30d2;1M30d8,30eb,30c4;1M30da,30f3,30b9;1M30da,30fc,30b8;1M30d9,30fc,30bf;
1M30dd,30a4,30f3,30c8;1M30dc,30eb,30c8;1M30db,30f3;1M30dd,30f3,30c9;1M30db,30fc,30eb;
1M30db,30fc,30f3;1M30de,30a4,30af,30ed;1M30de,30a4,30eb;1M30de,30c3,30cf;1M30de,30eb,30af;
1M30de,30f3,30b7,30e7,30f3;1M30df,30af,30ed,30f3;1M30df,30ea;1M30df,30ea,30d0,30fc,30eb;
1M30e1,30ac;1M30e1,30ac,30c8,30f3;1M30e1,30fc,30c8,30eb;1M30e4,30fc,30c9;1M30e4,30fc,30eb;
1M30e6,30a2,30f3;1M30ea,30c3,30c8,30eb;1M30ea,30e9;1M30eb,30d4,30fc;1M30eb,30fc,30d6,30eb;
1M30ec,30e0;1M30ec,30f3,30c8,30b2,30f3;1M30ef,30c3,30c8;1M30,70b9;1M31,70b9;1M32,70b9;1M33,70b9;
1M34,70b9;1M35,70b9;1M36,70b9;1M37,70b9;1M38,70b9;1M39,70b9;1M31,30,70b9;1M31,31,70b9;
1M31,32,70b9;1M31,33,70b9;1M31,34,70b9;1M31,35,70b9;1M31,36,70b9;1M31,37,70b9;1M31,38,70b9;
1M31,39,70b9;1M32,30,70b9;1M32,31,70b9;1M32,32,70b9;1M32,33,70b9;1M32,34,70b9;1M68,70,61;
1M64,61;1M61,75;1M62,61,72;1M6f,76;1M70,63;1M64,6d;1M64,6d,32;1M64,6d,33;1M69,75;1M5e73,6210;
1M662d,548c;1M5927,6b63;1M660e,6cbb;1M682a,5f0f,4f1a,793e;1M70,61;1M6e,61;1M3bc,61;1M6d,61;
1M6b,61;1M6b,62;1M6d,62;1M67,62;1M63,61,6c;1M6b,63,61,6c;1M70,66;1M6e,66;1M3bc,66;1M3bc,67;
1M6d,67;1M6b,67;1M68,7a;1M6b,68,7a;1M6d,68,7a;1M67,68,7a;1M74,68,7a;1M3bc,6c;1M6d,6c;1M64,6c;
1M6b,6c;1M66,6d;1M6e,6d;1M3bc,6d;1M6d,6d;1M63,6d;1M6b,6d;1M6d,6d,32;1M63,6d,32;1M6d,32;
1M6b,6d,32;1M6d,6d,33;1M63,6d,33;1M6d,33;1M6b,6d,33;1M6d,2215,73;1M6d,2215,73,32;1M70,61;
1M6b,70,61;1M6d,70,61;1M67,70,61;1M72,61,64;1M72,61,64,2215,73;1M72,61,64,2215,73,32;1M70,73;
1M6e,73;1M3bc,73;1M6d,73;1M70,76;1M6e,76;1M3bc,76;1M6d,76;1M6b,76;1M6d,76;1M70,77;1M6e,77;
1M3bc,77;1M6d,77;1M6b,77;1M6d,77;1M6b,3c9;1M6d,3c9;1X;1M62,71;1M63,63;1M63,64;1M63,2215,6b,67;
1X;1M64,62;1M67,79;1M68,61;1M68,70;1M69,6e;1M6b,6b;1M6b,6d;1M6b,74;1M6c,6d;1M6c,6e;1M6c,6f,67;
1M6c,78;1M6d,62;1M6d,69,6c;1M6d,6f,6c;1M70,68;1X;1M70,70,6d;1M70,72;1M73,72;1M73,76;1M77,62;
1M76,2215,6d;1M61,2215,6d;1M31,65e5;1M32,65e5;1M33,65e5;1M34,65e5;1M35,65e5;1M36,65e5;1M37,65e5;
1M38,65e5;1M39,65e5;1M31,30,65e5;1M31,31,65e5;1M31,32,65e5;1M31,33,65e5;1M31,34,65e5;
1M31,35,65e5;1M31,36,65e5;1M31,37,65e5;1M31,38,65e5;1M31,39,65e5;1M32,30,65e5;1M32,31,65e5;
1M32,32,65e5;1M32,33,65e5;1M32,34,65e5;1M32,35,65e5;1M32,36,65e5;1M32,37,65e5;1M32,38,65e5;
1M32,39,65e5;1M33,30,65e5;1M33,31,65e5;1M67,61,6c;1V;708dX;3V;37X;9V;15cX;14Ma641;1V;1Ma643;1V;
1Ma645;1V;1Ma647;1V;1Ma649;1V;1Ma64b;1V;1Ma64d;1V;1Ma64f;1V;1Ma651;1V;1Ma653;1V;1Ma655;1V;
1Ma657;1V;1Ma659;1V;1Ma65b;1V;1Ma65d;1V;1Ma65f;1V;1Ma661;1V;1Ma663;1V;1Ma665;1V;1Ma667;1V;
1Ma669;1V;1Ma66b;1V;1Ma66d;1V;13Ma681;1V;1Ma683;1V;1Ma685;1V;1Ma687;1V;1Ma689;1V;1Ma68b;1V;
1Ma68d;1V;1Ma68f;1V;1Ma691;1V;1Ma693;1V;1Ma695;1V;1Ma697;1V;1Ma699;1V;1Ma69b;1V;1M44a;1M44c;1V;
5aX;8V;22Ma723;1V;1Ma725;1V;1Ma727;1V;1Ma729;1V;1Ma72b;1V;1Ma72d;1V;1Ma72f;1V;3Ma733;1V;1Ma735;
1V;1Ma737;1V;1Ma739;1V;1Ma73b;1V;1Ma73d;1V;1Ma73f;1V;1Ma741;1V;1Ma743;1V;1Ma745;1V;1Ma747;1V;
1Ma749;1V;1Ma74b;1V;1Ma74d;1V;1Ma74f;1V;1Ma751;1V;1Ma753;1V;1Ma755;1V;1Ma757;1V;1Ma759;1V;
1Ma75b;1V;1Ma75d;1V;1Ma75f;1V;1Ma761;1V;1Ma763;1V;1Ma765;1V;1Ma767;1V;1Ma769;1V;1Ma76b;1V;
1Ma76d;1V;1Ma76f;1V;1Ma76f;1V;8Ma77a;1V;1Ma77c;1V;1M1d79;1Ma77f;1V;1Ma781;1V;1Ma783;1V;1Ma785;
1V;1Ma787;1V;4Ma78c;1V;1M265;1V;2Ma791;1V;1Ma793;1V;3Ma797;1V;1Ma799;1V;1Ma79b;1V;1Ma79d;1V;
1Ma79f;1V;1Ma7a1;1V;1Ma7a3;1V;1Ma7a5;1V;1Ma7a7;1V;1Ma7a9;1V;1M266;1M25c;1M261;1M26c;1M26a;1V;
1M29e;1M287;1M29d;1Mab53;1Ma7b5;1V;1Ma7b7;1V;1Ma7b9;1V;1Ma7bb;1V;1Ma7bd;1V;1Ma7bf;1V;1Ma7c1;1V;
1Ma7c3;1V;1Ma794;1M282;1M1d8e;1Ma7c8;1V;1Ma7ca;1V;1M264;1Ma7cd;1V;1Ma7cf;1V;1Ma7d1;1V;1Ma7d3;1V;
1Ma7d5;1V;1Ma7d7;1V;1Ma7d9;1V;1Ma7db;1V;1M19b;1X;14M73;1M63;1M66;1M71;1Ma7f6;1V;2M127;1M153;1V;
33X;3V;aX;6V;38X;8V;46X;8V;cX;6V;74X;bV;1eX;3V;4eX;1V;bX;4V;21X;1V;37X;9V;eX;2V;aX;2V;67X;18V;
1cX;aV;6X;2V;6X;2V;6X;9V;7X;1V;7X;1V;2cMa727;1Mab37;1M26b;1Mab52;1V;9M28d;1V;2X;4M13a0;1M13a1;
1M13a2;1M13a3;1M13a4;1M13a5;1M13a6;1M13a7;1M13a8;1M13a9;1M13aa;1M13ab;1M13ac;1M13ad;1M13ae;
1M13af;1M13b0;1M13b1;1M13b2;1M13b3;1M13b4;1M13b5;1M13b6;1M13b7;1M13b8;1M13b9;1M13ba;1M13bb;
1M13bc;1M13bd;1M13be;1M13bf;1M13c0;1M13c1;1M13c2;1M13c3;1M13c4;1M13c5;1M13c6;1M13c7;1M13c8;
1M13c9;1M13ca;1M13cb;1M13cc;1M13cd;1M13ce;1M13cf;1M13d0;1M13d1;1M13d2;1M13d3;1M13d4;1M13d5;
1M13d6;1M13d7;1M13d8;1M13d9;1M13da;1M13db;1M13dc;1M13dd;1M13de;1M13df;1M13e0;1M13e1;1M13e2;
1M13e3;1M13e4;1M13e5;1M13e6;1M13e7;1M13e8;1M13e9;1M13ea;1M13eb;1M13ec;1M13ed;1M13ee;1M13ef;1V;
2eX;2V;aX;6V;2ba4X;cV;17X;4V;31X;2104M8c48;1M66f4;1M8eca;1M8cc8;1M6ed1;1M4e32;1M53e5;1M9f9c;
2M5951;1M91d1;1M5587;1M5948;1M61f6;1M7669;1M7f85;1M863f;1M87ba;1M88f8;1M908f;1M6a02;1M6d1b;
1M70d9;1M73de;1M843d;1M916a;1M99f1;1M4e82;1M5375;1M6b04;1M721b;1M862d;1M9e1e;1M5d50;1M6feb;
1M85cd;1M8964;1M62c9;1M81d8;1M881f;1M5eca;1M6717;1M6d6a;1M72fc;1M90ce;1M4f86;1M51b7;1M52de;
1M64c4;1M6ad3;1M7210;1M76e7;1M8001;1M8606;1M865c;1M8def;1M9732;1M9b6f;1M9dfa;1M788c;1M797f;
1M7da0;1M83c9;1M9304;1M9e7f;1M8ad6;1M58df;1M5f04;1M7c60;1M807e;1M7262;1M78ca;1M8cc2;1M96f7;
1M58d8;1M5c62;1M6a13;1M6dda;1M6f0f;1M7d2f;1M7e37;1M964b;1M52d2;1M808b;1M51dc;1M51cc;1M7a1c;
1M7dbe;1M83f1;1M9675;1M8b80;1M62cf;1M6a02;1M8afe;1M4e39;1M5be7;1M6012;1M7387;1M7570;1M5317;
1M78fb;1M4fbf;1M5fa9;1M4e0d;1M6ccc;1M6578;1M7d22;1M53c3;1M585e;1M7701;1M8449;1M8aaa;1M6bba;
1M8fb0;1M6c88;1M62fe;1M82e5;1M63a0;1M7565;1M4eae;1M5169;1M51c9;1M6881;1M7ce7;1M826f;1M8ad2;
1M91cf;1M52f5;1M5442;1M5973;1M5eec;1M65c5;1M6ffe;1M792a;1M95ad;1M9a6a;1M9e97;1M9ece;1M529b;
1M66c6;1M6b77;1M8f62;1M5e74;1M6190;1M6200;1M649a;1M6f23;1M7149;1M7489;1M79ca;1M7df4;1M806f;
1M8f26;1M84ee;1M9023;1M934a;1M5217;1M52a3;1M54bd;1M70c8;1M88c2;1M8aaa;1M5ec9;1M5ff5;1M637b;
1M6bae;1M7c3e;1M7375;1M4ee4;1M56f9;1M5be7;1M5dba;1M601c;1M73b2;1M7469;1M7f9a;1M8046;1M9234;
1M96f6;1M9748;1M9818;1M4f8b;1M79ae;1M91b4;1M96b8;1M60e1;1M4e86;1M50da;1M5bee;1M5c3f;1M6599;
1M6a02;1M71ce;1M7642;1M84fc;1M907c;1M9f8d;1M6688;1M962e;1M5289;1M677b;1M67f3;1M6d41;1M6e9c;
1M7409;1M7559;1M786b;1M7d10;1M985e;1M516d;1M622e;1M9678;1M502b;1M5d19;1M6dea;1M8f2a;1M5f8b;
1M6144;1M6817;1M7387;1M9686;1M5229;1M540f;1M5c65;1M6613;1M674e;1M68a8;1M6ce5;1M7406;1M75e2;
1M7f79;1M88cf;1M88e1;1M91cc;1M96e2;1M533f;1M6eba;1M541d;1M71d0;1M7498;1M85fa;1M96a3;1M9c57;
1M9e9f;1M6797;1M6dcb;1M81e8;1M7acb;1M7b20;1M7c92;1M72c0;1M7099;1M8b58;1M4ec0;1M8336;1M523a;
1M5207;1M5ea6;1M62d3;1M7cd6;1M5b85;1M6d1e;1M66b4;1M8f3b;1M884c;1M964d;1M898b;1M5ed3;1M5140;
1M55c0;1V;2M585a;1V;1M6674;1V;2M51de;1M732a;1M76ca;1M793c;1M795e;1M7965;1M798f;1M9756;1M7cbe;
1M7fbd;1V;1M8612;1V;1M8af8;1V;2M9038;1M90fd;1V;3M98ef;1M98fc;1M9928;1M9db4;1M90de;1M96b7;1M4fae;
1M50e7;1M514d;1M52c9;1M52e4;1M5351;1M559d;1M5606;1M5668;1M5840;1M58a8;1M5c64;1M5c6e;1M6094;
1M6168;1M618e;1M61f2;1M654f;1M65e2;1M6691;1M6885;1M6d77;1M6e1a;1M6f22;1M716e;1M722b;1M7422;
1M7891;1M793e;1M7949;1M7948;1M7950;1M7956;1M795d;1M798d;1M798e;1M7a40;1M7a81;1M7bc0;1M7df4;
1M7e09;1M7e41;1M7f72;1M8005;1M81ed;1M8279;2M8457;1M8910;1M8996;1M8b01;1M8b39;1M8cd3;1M8d08;
1M8fb6;1M9038;1M96e3;1M97ff;1M983b;1M6075;1M242ee;1M8218;1X;2M4e26;1M51b5;1M5168;1M4f80;1M5145;
1M5180;1M52c7;1M52fa;1M559d;1M5555;1M5599;1M55e2;1M585a;1M58b3;1M5944;1M5954;1M5a62;1M5b28;
1M5ed2;1M5ed9;1M5f69;1M5fad;1M60d8;1M614e;1M6108;1M618e;1M6160;1M61f2;1M6234;1M63c4;1M641c;
1M6452;1M6556;1M6674;1M6717;1M671b;1M6756;1M6b79;1M6bba;1M6d41;1M6edb;1M6ecb;1M6f22;1M701e;
1M716e;1M77a7;1M7235;1M72af;1M732a;1M7471;1M7506;1M753b;1M761d;1M761f;1M76ca;1M76db;1M76f4;
1M774a;1M7740;1M78cc;1M7ab1;1M7bc0;1M7c7b;1M7d5b;1M7df4;1M7f3e;1M8005;1M8352;1M83ef;1M8779;
1M8941;1M8986;1M8996;1M8abf;1M8af8;1M8acb;1M8b01;1M8afe;1M8aed;1M8b39;1M8b8a;1M8d08;1M8f38;
1M9072;1M9199;1M9276;1M967c;1M96e3;1M9756;1M97db;1M97ff;1M980b;1M983b;1M9b12;1M9f9c;1M2284a;
1M22844;1M233d5;1M3b9d;1M4018;1M4039;1M25249;1M25cd0;1M27ed3;1M9f43;1M9f8e;1X;26M66,66;1M66,69;
1M66,6c;1M66,66,69;1M66,66,6c;1M73,74;2X;cM574,576;1M574,565;1M574,56b;1M57e,576;1M574,56d;1X;
5M5d9,5b4;1V;1M5f2,5b7;1M5e2;1M5d0;1M5d3;1M5d4;1M5db;1M5dc;1M5dd;1M5e8;1M5ea;1M2b;1M5e9,5c1;
1M5e9,5c2;1M5e9,5bc,5c1;1M5e9,5bc,5c2;1M5d0,5b7;1M5d0,5b8;1M5d0,5bc;1M5d1,5bc;1M5d2,5bc;
1M5d3,5bc;1M5d4,5bc;1M5d5,5bc;1M5d6,5bc;1X;1M5d8,5bc;1M5d9,5bc;1M5da,5bc;1M5db,5bc;1M5dc,5bc;1X;
1M5de,5bc;1X;1M5e0,5bc;1M5e1,5bc;1X;1M5e3,5bc;1M5e4,5bc;1X;1M5e6,5bc;1M5e7,5bc;1M5e8,5bc;
1M5e9,5bc;1M5ea,5bc;1M5d5,5b9;1M5d1,5bf;1M5db,5bf;1M5e4,5bf;1M5d0,5dc;1M671;2M67b;4M67e;4M680;
4M67a;4M67f;4M679;4M6a4;4M6a6;4M684;4M683;4M686;4M687;4M68d;2M68c;2M68e;2M688;2M698;2M691;2M6a9;
4M6af;4M6b3;4M6b1;4M6ba;2M6bb;4M6c0;2M6c1;4M6be;4M6d2;2M6d3;2V;21M6ad;4M6c7;2M6c6;2M6c8;
2M6c7,674;1M6cb;2M6c5;2M6c9;2M6d0;4M649;2M626,627;2M626,6d5;2M626,648;2M626,6c7;2M626,6c6;
2M626,6c8;2M626,6d0;3M626,649;3M6cc;4M626,62c;1M626,62d;1M626,645;1M626,649;1M626,64a;1M628,62c;
1M628,62d;1M628,62e;1M628,645;1M628,649;1M628,64a;1M62a,62c;1M62a,62d;1M62a,62e;1M62a,645;
1M62a,649;1M62a,64a;1M62b,62c;1M62b,645;1M62b,649;1M62b,64a;1M62c,62d;1M62c,645;1M62d,62c;
1M62d,645;1M62e,62c;1M62e,62d;1M62e,645;1M633,62c;1M633,62d;1M633,62e;1M633,645;1M635,62d;
1M635,645;1M636,62c;1M636,62d;1M636,62e;1M636,645;1M637,62d;1M637,645;1M638,645;1M639,62c;
1M639,645;1M63a,62c;1M63a,645;1M641,62c;1M641,62d;1M641,62e;1M641,645;1M641,649;1M641,64a;
1M642,62d;1M642,645;1M642,649;1M642,64a;1M643,627;1M643,62c;1M643,62d;1M643,62e;1M643,644;
1M643,645;1M643,649;1M643,64a;1M644,62c;1M644,62d;1M644,62e;1M644,645;1M644,649;1M644,64a;
1M645,62c;1M645,62d;1M645,62e;1M645,645;1M645,649;1M645,64a;1M646,62c;1M646,62d;1M646,62e;
1M646,645;1M646,649;1M646,64a;1M647,62c;1M647,645;1M647,649;1M647,64a;1M64a,62c;1M64a,62d;
1M64a,62e;1M64a,645;1M64a,649;1M64a,64a;1M630,670;1M631,670;1M649,670;1M20,64c,651;1M20,64d,651;
1M20,64e,651;1M20,64f,651;1M20,650,651;1M20,651,670;1M626,631;1M626,632;1M626,645;1M626,646;
1M626,649;1M626,64a;1M628,631;1M628,632;1M628,645;1M628,646;1M628,649;1M628,64a;1M62a,631;
1M62a,632;1M62a,645;1M62a,646;1M62a,649;1M62a,64a;1M62b,631;1M62b,632;1M62b,645;1M62b,646;
1M62b,649;1M62b,64a;1M641,649;1M641,64a;1M642,649;1M642,64a;1M643,627;1M643,644;1M643,645;
1M643,649;1M643,64a;1M644,645;1M644,649;1M644,64a;1M645,627;1M645,645;1M646,631;1M646,632;
1M646,645;1M646,646;1M646,649;1M646,64a;1M649,670;1M64a,631;1M64a,632;1M64a,645;1M64a,646;
1M64a,649;1M64a,64a;1M626,62c;1M626,62d;1M626,62e;1M626,645;1M626,647;1M628,62c;1M628,62d;
1M628,62e;1M628,645;1M628,647;1M62a,62c;1M62a,62d;1M62a,62e;1M62a,645;1M62a,647;1M62b,645;
1M62c,62d;1M62c,645;1M62d,62c;1M62d,645;1M62e,62c;1M62e,645;1M633,62c;1M633,62d;1M633,62e;
1M633,645;1M635,62d;1M635,62e;1M635,645;1M636,62c;1M636,62d;1M636,62e;1M636,645;1M637,62d;
1M638,645;1M639,62c;1M639,645;1M63a,62c;1M63a,645;1M641,62c;1M641,62d;1M641,62e;1M641,645;
1M642,62d;1M642,645;1M643,62c;1M643,62d;1M643,62e;1M643,644;1M643,645;1M644,62c;1M644,62d;
1M644,62e;1M644,645;1M644,647;1M645,62c;1M645,62d;1M645,62e;1M645,645;1M646,62c;1M646,62d;
1M646,62e;1M646,645;1M646,647;1M647,62c;1M647,645;1M647,670;1M64a,62c;1M64a,62d;1M64a,62e;
1M64a,645;1M64a,647;1M626,645;1M626,647;1M628,645;1M628,647;1M62a,645;1M62a,647;1M62b,645;
1M62b,647;1M633,645;1M633,647;1M634,645;1M634,647;1M643,644;1M643,645;1M644,645;1M646,645;
1M646,647;1M64a,645;1M64a,647;1M640,64e,651;1M640,64f,651;1M640,650,651;1M637,649;1M637,64a;
1M639,649;1M639,64a;1M63a,649;1M63a,64a;1M633,649;1M633,64a;1M634,649;1M634,64a;1M62d,649;
1M62d,64a;1M62c,649;1M62c,64a;1M62e,649;1M62e,64a;1M635,649;1M635,64a;1M636,649;1M636,64a;
1M634,62c;1M634,62d;1M634,62e;1M634,645;1M634,631;1M633,631;1M635,631;1M636,631;1M637,649;
1M637,64a;1M639,649;1M639,64a;1M63a,649;1M63a,64a;1M633,649;1M633,64a;1M634,649;1M634,64a;
1M62d,649;1M62d,64a;1M62c,649;1M62c,64a;1M62e,649;1M62e,64a;1M635,649;1M635,64a;1M636,649;
1M636,64a;1M634,62c;1M634,62d;1M634,62e;1M634,645;1M634,631;1M633,631;1M635,631;1M636,631;
1M634,62c;1M634,62d;1M634,62e;1M634,645;1M633,647;1M634,647;1M637,645;1M633,62c;1M633,62d;
1M633,62e;1M634,62c;1M634,62d;1M634,62e;1M637,645;1M638,645;1M627,64b;2V;12M62a,62c,645;
1M62a,62d,62c;2M62a,62d,645;1M62a,62e,645;1M62a,645,62c;1M62a,645,62d;1M62a,645,62e;
1M62c,645,62d;2M62d,645,64a;1M62d,645,649;1M633,62d,62c;1M633,62c,62d;1M633,62c,649;
1M633,645,62d;2M633,645,62c;1M633,645,645;2M635,62d,62d;2M635,645,645;1M634,62d,645;
2M634,62c,64a;1M634,645,62e;2M634,645,645;2M636,62d,649;1M636,62e,645;2M637,645,62d;
2M637,645,645;1M637,645,64a;1M639,62c,645;1M639,645,645;2M639,645,649;1M63a,645,645;
1M63a,645,64a;1M63a,645,649;1M641,62e,645;2M642,645,62d;1M642,645,645;1M644,62d,645;
1M644,62d,64a;1M644,62d,649;1M644,62c,62c;2M644,62e,645;2M644,645,62d;2M645,62d,62c;
1M645,62d,645;1M645,62d,64a;1M645,62c,62d;1M645,62c,645;1M645,62e,62c;1M645,62e,645;1V;
2M645,62c,62e;1M647,645,62c;1M647,645,645;1M646,62d,645;1M646,62d,649;1M646,62c,645;
2M646,62c,649;1M646,645,64a;1M646,645,649;1M64a,645,645;2M628,62e,64a;1M62a,62c,64a;
1M62a,62c,649;1M62a,62e,64a;1M62a,62e,649;1M62a,645,64a;1M62a,645,649;1M62c,645,64a;
1M62c,62d,649;1M62c,645,649;1M633,62e,649;1M635,62d,64a;1M634,62d,64a;1M636,62d,64a;
1M644,62c,64a;1M644,645,64a;1M64a,62d,64a;1M64a,62c,64a;1M64a,645,64a;1M645,645,64a;
1M642,645,64a;1M646,62d,64a;1M642,645,62d;1M644,62d,645;1M639,645,64a;1M643,645,64a;
1M646,62c,62d;1M645,62e,64a;1M644,62c,645;1M643,645,645;1M644,62c,645;1M646,62c,62d;
1M62c,62d,64a;1M62d,62c,64a;1M645,62c,64a;1M641,645,64a;1M628,62d,64a;1M643,645,645;
1M639,62c,645;1M635,645,645;1M633,62e,64a;1M646,62c,64a;1V;8X;20M635,644,6d2;1M642,644,6d2;
1M627,644,644,647;1M627,643,628,631;1M645,62d,645,62f;1M635,644,639,645;1M631,633,648,644;
1M639,644,64a,647;1M648,633,644,645;1M635,644,649;
1M635,644,649,20,627,644,644,647,20,639,644,64a,647,20,648,633,644,645;
1M62c,644,20,62c,644,627,644,647;1M631,6cc,627,644;1V;3I;10M2c;1M3001;1X;1M3a;1M3b;1M21;1M3f;
1M3016;1M3017;1X;7V;10X;1M2014;1M2013;1M5f;2M28;1M29;1M7b;1M7d;1M3014;1M3015;1M3010;1M3011;
1M300a;1M300b;1M3008;1M3009;1M300c;1M300d;1M300e;1M300f;1V;2M5b;1M5d;1M20,305;4M5f;3M2c;1M3001;
1X;2M3b;1M3a;1M3f;1M21;1M2014;1M28;1M29;1M7b;1M7d;1M3014;1M3015;1M23;1M26;1M2a;1M2b;1M2d;1M3c;
1M3e;1M3d;1X;1M5c;1M24;1M25;1M40;1X;4M20,64b;1M640,64b;1M20,64c;1V;1M20,64d;1X;1M20,64e;
1M640,64e;1M20,64f;1M640,64f;1M20,650;1M640,650;1M20,651;1M640,651;1M20,652;1M640,652;1M621;
1M622;2M623;2M624;2M625;2M626;4M627;2M628;4M629;2M62a;4M62b;4M62c;4M62d;4M62e;4M62f;2M630;2M631;
2M632;2M633;4M634;4M635;4M636;4M637;4M638;4M639;4M63a;4M641;4M642;4M643;4M644;4M645;4M646;4M647;
4M648;2M649;2M64a;4M644,622;2M644,623;2M644,625;2M644,627;2X;2I;1X;1M21;1M22;1M23;1M24;1M25;
1M26;1M27;1M28;1M29;1M2a;1M2b;1M2c;1M2d;1M2e;1M2f;1M30;1M31;1M32;1M33;1M34;1M35;1M36;1M37;1M38;
1M39;1M3a;1M3b;1M3c;1M3d;1M3e;1M3f;1M40;1M61;1M62;1M63;1M64;1M65;1M66;1M67;1M68;1M69;1M6a;1M6b;
1M6c;1M6d;1M6e;1M6f;1M70;1M71;1M72;1M73;1M74;1M75;1M76;1M77;1M78;1M79;1M7a;1M5b;1M5c;1M5d;1M5e;
1M5f;1M60;1M61;1M62;1M63;1M64;1M65;1M66;1M67;1M68;1M69;1M6a;1M6b;1M6c;1M6d;1M6e;1M6f;1M70;1M71;
1M72;1M73;1M74;1M75;1M76;1M77;1M78;1M79;1M7a;1M7b;1M7c;1M7d;1M7e;1M2985;1M2986;1M2e;1M300c;
1M300d;1M3001;1M30fb;1M30f2;1M30a1;1M30a3;1M30a5;1M30a7;1M30a9;1M30e3;1M30e5;1M30e7;1M30c3;
1M30fc;1M30a2;1M30a4;1M30a6;1M30a8;1M30aa;1M30ab;1M30ad;1M30af;1M30b1;1M30b3;1M30b5;1M30b7;
1M30b9;1M30bb;1M30bd;1M30bf;1M30c1;1M30c4;1M30c6;1M30c8;1M30ca;1M30cb;1M30cc;1M30cd;1M30ce;
1M30cf;1M30d2;1M30d5;1M30d8;1M30db;1M30de;1M30df;1M30e0;1M30e1;1M30e2;1M30e4;1M30e6;1M30e8;
1M30e9;1M30ea;1M30eb;1M30ec;1M30ed;1M30ef;1M30f3;1M3099;1M309a;1I;1M1100;1M1101;1M11aa;1M1102;
1M11ac;1M11ad;1M1103;1M1104;1M1105;1M11b0;1M11b1;1M11b2;1M11b3;1M11b4;1M11b5;1M111a;1M1106;
1M1107;1M1108;1M1121;1M1109;1M110a;1M110b;1M110c;1M110d;1M110e;1M110f;1M1110;1M1111;1M1112;1X;
3M1161;1M1162;1M1163;1M1164;1M1165;1M1166;1X;2M1167;1M1168;1M1169;1M116a;1M116b;1M116c;1X;
2M116d;1M116e;1M116f;1M1170;1M1171;1M1172;1X;2M1173;1M1174;1M1175;1X;3Ma2;1Ma3;1Mac;1M20,304;
1Ma6;1Ma5;1M20a9;1X;1M2502;1M2190;1M2191;1M2192;1M2193;1M25a0;1M25cb;1X;11V;cX;1V;1aX;1V;13X;1V;
2X;1V;fX;2V;eX;22V;7bX;5V;3X;4V;2dX;3V;58X;1V;dX;3V;1X;2fV;2eX;82V;1dX;3V;31X;fV;1cX;4V;24X;9V;
1eX;5V;2bX;5V;1eX;1V;25X;4V;eX;2aM10428;1M10429;1M1042a;1M1042b;1M1042c;1M1042d;1M1042e;1M1042f;
1M10430;1M10431;1M10432;1M10433;1M10434;1M10435;1M10436;1M10437;1M10438;1M10439;1M1043a;1M1043b;
1M1043c;1M1043d;1M1043e;1M1043f;1M10440;1M10441;1M10442;1M10443;1M10444;1M10445;1M10446;1M10447;
1M10448;1M10449;1M1044a;1M1044b;1M1044c;1M1044d;1M1044e;1M1044f;1V;76X;2V;aX;6M104d8;1M104d9;
1M104da;1M104db;1M104dc;1M104dd;1M104de;1M104df;1M104e0;1M104e1;1M104e2;1M104e3;1M104e4;1M104e5;
1M104e6;1M104e7;1M104e8;1M104e9;1M104ea;1M104eb;1M104ec;1M104ed;1M104ee;1M104ef;1M104f0;1M104f1;
1M104f2;1M104f3;1M104f4;1M104f5;1M104f6;1M104f7;1M104f8;1M104f9;1M104fa;1M104fb;1X;4V;24X;4V;
28X;8V;34X;bV;1M10597;1M10598;1M10599;1M1059a;1M1059b;1M1059c;1M1059d;1M1059e;1M1059f;1M105a0;
1M105a1;1X;1M105a3;1M105a4;1M105a5;1M105a6;1M105a7;1M105a8;1M105a9;1M105aa;1M105ab;1M105ac;
1M105ad;1M105ae;1M105af;1M105b0;1M105b1;1X;1M105b3;1M105b4;1M105b5;1M105b6;1M105b7;1M105b8;
1M105b9;1X;1M105bb;1M105bc;1X;1V;bX;1V;fX;1V;7X;1V;2X;3V;34X;cV;137X;9V;16X;aV;8X;18V;1M2d0;
1M2d1;1Me6;1M299;1M253;1X;1M2a3;1Mab66;1M2a5;1M2a4;1M256;1M257;1M1d91;1M258;1M25e;1M2a9;1M264;
1M262;1M260;1M29b;1M127;1M29c;1M267;1M284;1M2aa;1M2ab;1M26c;1M1df04;1Ma78e;1M26e;1M1df05;1M28e;
1M1df06;1Mf8;1M276;1M277;1M71;1M27a;1M1df08;1M27d;1M27e;1M280;1M2a8;1M2a6;1Mab67;1M2a7;1M288;
1M2c71;1X;1M28f;1M2a1;1M2a2;1M298;1M1c0;1M1c1;1M1c2;1M1df0a;1M1df1e;1X;45V;6X;2V;1X;1V;2cX;1V;
2X;3V;1X;2V;17X;1V;48X;8V;9X;30V;13X;1V;2X;5V;21X;3V;1bX;5V;1bX;26V;38X;4V;14X;2V;32X;1V;2X;5V;
8X;1V;3X;1V;1dX;2V;3X;4V;aX;7V;9X;7V;40X;20V;27X;4V;cX;9V;36X;3V;1dX;2V;1bX;5V;1aX;7V;4X;cV;7X;
50V;49X;37M10cc0;1M10cc1;1M10cc2;1M10cc3;1M10cc4;1M10cc5;1M10cc6;1M10cc7;1M10cc8;1M10cc9;
1M10cca;1M10ccb;1M10ccc;1M10ccd;1M10cce;1M10ccf;1M10cd0;1M10cd1;1M10cd2;1M10cd3;1M10cd4;1M10cd5;
1M10cd6;1M10cd7;1M10cd8;1M10cd9;1M10cda;1M10cdb;1M10cdc;1M10cdd;1M10cde;1M10cdf;1M10ce0;1M10ce1;
1M10ce2;1M10ce3;1M10ce4;1M10ce5;1M10ce6;1M10ce7;1M10ce8;1M10ce9;1M10cea;1M10ceb;1M10cec;1M10ced;
1M10cee;1M10cef;1M10cf0;1M10cf1;1M10cf2;1X;dV;33X;7V;2eX;8V;aX;6V;10M10d70;1M10d71;1M10d72;
1M10d73;1M10d74;1M10d75;1M10d76;1M10d77;1M10d78;1M10d79;1M10d7a;1M10d7b;1M10d7c;1M10d7d;1M10d7e;
1M10d7f;1M10d80;1M10d81;1M10d82;1M10d83;1M10d84;1M10d85;1X;3V;1dX;8V;2X;d0V;1fX;1V;2aX;1V;3X;2V;
2X;10V;6X;8V;9X;21V;2eX;8V;2aX;16V;1aX;26V;1cX;14V;17X;9V;4eX;4V;24X;9V;3eX;1V;5X;dV;19X;7V;aX;
6V;35X;1V;12X;8V;27X;9V;60X;1V;14X;bV;12X;1V;2fX;3eV;7X;1V;1X;1V;4X;1V;fX;1V;bX;6V;3bX;5V;aX;6V;
4X;1V;8X;2V;2X;2V;16X;1V;7X;1V;2X;1V;5X;1V;aX;2V;2X;2V;3X;2V;1X;6V;1X;5V;7X;2V;7X;3V;5X;bV;aX;
1V;1X;2V;1X;1V;26X;1V;aX;1V;1X;2V;1X;1V;4X;1V;aX;1V;2X;8V;2X;1dV;5cX;1V;5X;1eV;48X;8V;aX;a6V;
36X;2V;26X;22V;45X;bV;aX;6V;dX;13V;3aX;6V;aX;6V;14X;1cV;1bX;2V;fX;4V;17X;b9V;3cX;64M118c0;
1M118c1;1M118c2;1M118c3;1M118c4;1M118c5;1M118c6;1M118c7;1M118c8;1M118c9;1M118ca;1M118cb;1M118cc;
1M118cd;1M118ce;1M118cf;1M118d0;1M118d1;1M118d2;1M118d3;1M118d4;1M118d5;1M118d6;1M118d7;1M118d8;
1M118d9;1M118da;1M118db;1M118dc;1M118dd;1M118de;1M118df;1V;33X;cV;8X;2V;1X;2V;8X;1V;2X;1V;1eX;
1V;2X;2V;cX;9V;aX;46V;8X;2V;2eX;2V;bX;1bV;48X;8V;53X;dV;49X;7V;aX;56V;8X;58V;22X;eV;aX;6V;9X;1V;
2dX;1V;eX;aV;1dX;3V;20X;2V;16X;1V;eX;49V;7X;1V;2X;1V;2cX;3V;1X;1V;2X;1V;9X;8V;aX;6V;6X;1V;2X;1V;
25X;1V;2X;1V;6X;7V;aX;6V;2cX;4V;aX;f6V;19X;7V;11X;1V;29X;3V;1dX;55V;1X;fV;32X;dV;39bX;66V;6fX;
1V;5X;bV;c4X;a4cV;63X;dV;430X;10V;16X;aV;f9bX;5V;247X;1ab9V;3aX;6c6V;239X;7V;1fX;1V;aX;4V;51X;
1V;aX;6V;1eX;2V;6X;aV;46X;aV;aX;1V;7X;1V;15X;5V;13X;1b0V;3aX;c6M16e60;1M16e61;1M16e62;1M16e63;
1M16e64;1M16e65;1M16e66;1M16e67;1M16e68;1M16e69;1M16e6a;1M16e6b;1M16e6c;1M16e6d;1M16e6e;1M16e6f;
1M16e70;1M16e71;1M16e72;1M16e73;1M16e74;1M16e75;1M16e76;1M16e77;1M16e78;1M16e79;1M16e7a;1M16e7b;
1M16e7c;1M16e7d;1M16e7e;1M16e7f;1V;3bX;5M16ebb;1M16ebc;1M16ebd;1M16ebe;1M16ebf;1M16ec0;1M16ec1;
1M16ec2;1M16ec3;1M16ec4;1M16ec5;1M16ec6;1M16ec7;1M16ec8;1M16ec9;1M16eca;1M16ecb;1M16ecc;1M16ecd;
1M16ece;1M16ecf;1M16ed0;1M16ed1;1M16ed2;1M16ed3;1X;2V;19X;2cV;4bX;4V;39X;7V;11X;40V;5X;bV;7X;9V;
1cd6X;29V;20X;61V;73X;21fdV;4X;1V;7X;1V;2X;1V;123X;fV;1X;1dV;3X;2V;1X;eV;4X;8V;18cX;904V;6bX;5V;
dX;3V;9X;7V;aX;2V;4I;4X;f5cV;d6M61;1M62;1M63;1M64;1M65;1M66;1M67;1M68;1M69;1M6a;1M6b;1M6c;1M6d;
1M6e;1M6f;1M70;1M71;1M72;1M73;1M74;1M75;1M76;1M77;1M78;1M79;1M7a;1M30;1M31;1M32;1M33;1M34;1M35;
1M36;1M37;1M38;1M39;1V;3X;3V;1b4X;6V;17X;fV;11X;fV;2eX;2V;17X;9V;74X;3cV;f6X;aV;27X;2V;
35M1d157,1d165;1M1d158,1d165;1M1d158,1d165,1d16e;1M1d158,1d165,1d16f;1M1d158,1d165,1d170;
1M1d158,1d165,1d171;1M1d158,1d165,1d172;1V;eI;8V;40M1d1b9,1d165;1M1d1ba,1d165;
1M1d1b9,1d165,1d16e;1M1d1ba,1d165,1d16e;1M1d1b9,1d165,1d16f;1M1d1ba,1d165,1d16f;1V;2aX;15V;46X;
7aV;14X;cV;14X;cV;57X;9V;19X;87M61;1M62;1M63;1M64;1M65;1M66;1M67;1M68;1M69;1M6a;1M6b;1M6c;1M6d;
1M6e;1M6f;1M70;1M71;1M72;1M73;1M74;1M75;1M76;1M77;1M78;1M79;1M7a;1M61;1M62;1M63;1M64;1M65;1M66;
1M67;1M68;1M69;1M6a;1M6b;1M6c;1M6d;1M6e;1M6f;1M70;1M71;1M72;1M73;1M74;1M75;1M76;1M77;1M78;1M79;
1M7a;1M61;1M62;1M63;1M64;1M65;1M66;1M67;1M68;1M69;1M6a;1M6b;1M6c;1M6d;1M6e;1M6f;1M70;1M71;1M72;
1M73;1M74;1M75;1M76;1M77;1M78;1M79;1M7a;1M61;1M62;1M63;1M64;1M65;1M66;1M67;1X;1M69;1M6a;1M6b;
1M6c;1M6d;1M6e;1M6f;1M70;1M71;1M72;1M73;1M74;1M75;1M76;1M77;1M78;1M79;1M7a;1M61;1M62;1M63;1M64;
1M65;1M66;1M67;1M68;1M69;1M6a;1M6b;1M6c;1M6d;1M6e;1M6f;1M70;1M71;1M72;1M73;1M74;1M75;1M76;1M77;
1M78;1M79;1M7a;1M61;1M62;1M63;1M64;1M65;1M66;1M67;1M68;1M69;1M6a;1M6b;1M6c;1M6d;1M6e;1M6f;1M70;
1M71;1M72;1M73;1M74;1M75;1M76;1M77;1M78;1M79;1M7a;1M61;1X;1M63;1M64;1X;2M67;1X;2M6a;1M6b;1X;
2M6e;1M6f;1M70;1M71;1X;1M73;1M74;1M75;1M76;1M77;1M78;1M79;1M7a;1M61;1M62;1M63;1M64;1X;1M66;1X;
1M68;1M69;1M6a;1M6b;1M6c;1M6d;1M6e;1X;1M70;1M71;1M72;1M73;1M74;1M75;1M76;1M77;1M78;1M79;1M7a;
1M61;1M62;1M63;1M64;1M65;1M66;1M67;1M68;1M69;1M6a;1M6b;1M6c;1M6d;1M6e;1M6f;1M70;1M71;1M72;1M73;
1M74;1M75;1M76;1M77;1M78;1M79;1M7a;1M61;1M62;1M63;1M64;1M65;1M66;1M67;1M68;1M69;1M6a;1M6b;1M6c;
1M6d;1M6e;1M6f;1M70;1M71;1M72;1M73;1M74;1M75;1M76;1M77;1M78;1M79;1M7a;1M61;1M62;1X;1M64;1M65;
1M66;1M67;1X;2M6a;1M6b;1M6c;1M6d;1M6e;1M6f;1M70;1M71;1X;1M73;1M74;1M75;1M76;1M77;1M78;1M79;1X;
1M61;1M62;1M63;1M64;1M65;1M66;1M67;1M68;1M69;1M6a;1M6b;1M6c;1M6d;1M6e;1M6f;1M70;1M71;1M72;1M73;
1M74;1M75;1M76;1M77;1M78;1M79;1M7a;1M61;1M62;1X;1M64;1M65;1M66;1M67;1X;1M69;1M6a;1M6b;1M6c;1M6d;
1X;1M6f;1X;3M73;1M74;1M75;1M76;1M77;1M78;1M79;1X;1M61;1M62;1M63;1M64;1M65;1M66;1M67;1M68;1M69;
1M6a;1M6b;1M6c;1M6d;1M6e;1M6f;1M70;1M71;1M72;1M73;1M74;1M75;1M76;1M77;1M78;1M79;1M7a;1M61;1M62;
1M63;1M64;1M65;1M66;1M67;1M68;1M69;1M6a;1M6b;1M6c;1M6d;1M6e;1M6f;1M70;1M71;1M72;1M73;1M74;1M75;
1M76;1M77;1M78;1M79;1M7a;1M61;1M62;1M63;1M64;1M65;1M66;1M67;1M68;1M69;1M6a;1M6b;1M6c;1M6d;1M6e;
1M6f;1M70;1M71;1M72;1M73;1M74;1M75;1M76;1M77;1M78;1M79;1M7a;1M61;1M62;1M63;1M64;1M65;1M66;1M67;
1M68;1M69;1M6a;1M6b;1M6c;1M6d;1M6e;1M6f;1M70;1M71;1M72;1M73;1M74;1M75;1M76;1M77;1M78;1M79;1M7a;
1M61;1M62;1M63;1M64;1M65;1M66;1M67;1M68;1M69;1M6a;1M6b;1M6c;1M6d;1M6e;1M6f;1M70;1M71;1M72;1M73;
1M74;1M75;1M76;1M77;1M78;1M79;1M7a;1M61;1M62;1M63;1M64;1M65;1M66;1M67;1M68;1M69;1M6a;1M6b;1M6c;
1M6d;1M6e;1M6f;1M70;1M71;1M72;1M73;1M74;1M75;1M76;1M77;1M78;1M79;1M7a;1M61;1M62;1M63;1M64;1M65;
1M66;1M67;1M68;1M69;1M6a;1M6b;1M6c;1M6d;1M6e;1M6f;1M70;1M71;1M72;1M73;1M74;1M75;1M76;1M77;1M78;
1M79;1M7a;1M61;1M62;1M63;1M64;1M65;1M66;1M67;1M68;1M69;1M6a;1M6b;1M6c;1M6d;1M6e;1M6f;1M70;1M71;
1M72;1M73;1M74;1M75;1M76;1M77;1M78;1M79;1M7a;1M61;1M62;1M63;1M64;1M65;1M66;1M67;1M68;1M69;1M6a;
1M6b;1M6c;1M6d;1M6e;1M6f;1M70;1M71;1M72;1M73;1M74;1M75;1M76;1M77;1M78;1M79;1M7a;1M61;1M62;1M63;
1M64;1M65;1M66;1M67;1M68;1M69;1M6a;1M6b;1M6c;1M6d;1M6e;1M6f;1M70;1M71;1M72;1M73;1M74;1M75;1M76;
1M77;1M78;1M79;1M7a;1M61;1M62;1M63;1M64;1M65;1M66;1M67;1M68;1M69;1M6a;1M6b;1M6c;1M6d;1M6e;1M6f;
1M70;1M71;1M72;1M73;1M74;1M75;1M76;1M77;1M78;1M79;1M7a;1M61;1M62;1M63;1M64;1M65;1M66;1M67;1M68;
1M69;1M6a;1M6b;1M6c;1M6d;1M6e;1M6f;1M70;1M71;1M72;1M73;1M74;1M75;1M76;1M77;1M78;1M79;1M7a;1M61;
1M62;1M63;1M64;1M65;1M66;1M67;1M68;1M69;1M6a;1M6b;1M6c;1M6d;1M6e;1M6f;1M70;1M71;1M72;1M73;1M74;
1M75;1M76;1M77;1M78;1M79;1M7a;1M131;1M237;1X;2M3b1;1M3b2;1M3b3;1M3b4;1M3b5;1M3b6;1M3b7;1M3b8;
1M3b9;1M3ba;1M3bb;1M3bc;1M3bd;1M3be;1M3bf;1M3c0;1M3c1;1M3b8;1M3c3;1M3c4;1M3c5;1M3c6;1M3c7;1M3c8;
1M3c9;1M2207;1M3b1;1M3b2;1M3b3;1M3b4;1M3b5;1M3b6;1M3b7;1M3b8;1M3b9;1M3ba;1M3bb;1M3bc;1M3bd;
1M3be;1M3bf;1M3c0;1M3c1;1M3c3;2M3c4;1M3c5;1M3c6;1M3c7;1M3c8;1M3c9;1M2202;1M3b5;1M3b8;1M3ba;
1M3c6;1M3c1;1M3c0;1M3b1;1M3b2;1M3b3;1M3b4;1M3b5;1M3b6;1M3b7;1M3b8;1M3b9;1M3ba;1M3bb;1M3bc;1M3bd;
1M3be;1M3bf;1M3c0;1M3c1;1M3b8;1M3c3;1M3c4;1M3c5;1M3c6;1M3c7;1M3c8;1M3c9;1M2207;1M3b1;1M3b2;
1M3b3;1M3b4;1M3b5;1M3b6;1M3b7;1M3b8;1M3b9;1M3ba;1M3bb;1M3bc;1M3bd;1M3be;1M3bf;1M3c0;1M3c1;1M3c3;
2M3c4;1M3c5;1M3c6;1M3c7;1M3c8;1M3c9;1M2202;1M3b5;1M3b8;1M3ba;1M3c6;1M3c1;1M3c0;1M3b1;1M3b2;
1M3b3;1M3b4;1M3b5;1M3b6;1M3b7;1M3b8;1M3b9;1M3ba;1M3bb;1M3bc;1M3bd;1M3be;1M3bf;1M3c0;1M3c1;1M3b8;
1M3c3;1M3c4;1M3c5;1M3c6;1M3c7;1M3c8;1M3c9;1M2207;1M3b1;1M3b2;1M3b3;1M3b4;1M3b5;1M3b6;1M3b7;
1M3b8;1M3b9;1M3ba;1M3bb;1M3bc;1M3bd;1M3be;1M3bf;1M3c0;1M3c1;1M3c3;2M3c4;1M3c5;1M3c6;1M3c7;1M3c8;
1M3c9;1M2202;1M3b5;1M3b8;1M3ba;1M3c6;1M3c1;1M3c0;1M3b1;1M3b2;1M3b3;1M3b4;1M3b5;1M3b6;1M3b7;
1M3b8;1M3b9;1M3ba;1M3bb;1M3bc;1M3bd;1M3be;1M3bf;1M3c0;1M3c1;1M3b8;1M3c3;1M3c4;1M3c5;1M3c6;1M3c7;
1M3c8;1M3c9;1M2207;1M3b1;1M3b2;1M3b3;1M3b4;1M3b5;1M3b6;1M3b7;1M3b8;1M3b9;1M3ba;1M3bb;1M3bc;
1M3bd;1M3be;1M3bf;1M3c0;1M3c1;1M3c3;2M3c4;1M3c5;1M3c6;1M3c7;1M3c8;1M3c9;1M2202;1M3b5;1M3b8;
1M3ba;1M3c6;1M3c1;1M3c0;1M3b1;1M3b2;1M3b3;1M3b4;1M3b5;1M3b6;1M3b7;1M3b8;1M3b9;1M3ba;1M3bb;1M3bc;
1M3bd;1M3be;1M3bf;1M3c0;1M3c1;1M3b8;1M3c3;1M3c4;1M3c5;1M3c6;1M3c7;1M3c8;1M3c9;1M2207;1M3b1;
1M3b2;1M3b3;1M3b4;1M3b5;1M3b6;1M3b7;1M3b8;1M3b9;1M3ba;1M3bb;1M3bc;1M3bd;1M3be;1M3bf;1M3c0;1M3c1;
1M3c3;2M3c4;1M3c5;1M3c6;1M3c7;1M3c8;1M3c9;1M2202;1M3b5;1M3b8;1M3ba;1M3c6;1M3c1;1M3c0;1M3dd;2X;
2M30;1M31;1M32;1M33;1M34;1M35;1M36;1M37;1M38;1M39;1M30;1M31;1M32;1M33;1M34;1M35;1M36;1M37;1M38;
1M39;1M30;1M31;1M32;1M33;1M34;1M35;1M36;1M37;1M38;1M39;1M30;1M31;1M32;1M33;1M34;1M35;1M36;1M37;
1M38;1M39;1M30;1M31;1M32;1M33;1M34;1M35;1M36;1M37;1M38;1M39;1V;28cX;fV;5X;1V;fX;450V;1fX;6V;6X;
d5V;7X;1V;11X;2V;7X;1V;2X;1V;5X;5M430;1M431;1M432;1M433;1M434;1M435;1M436;1M437;1M438;1M43a;
1M43b;1M43c;1M43e;1M43f;1M440;1M441;1M442;1M443;1M444;1M445;1M446;1M447;1M448;1M44b;1M44d;1M44e;
1Ma689;1M4d9;1M456;1M458;1M4e9;1M4af;1M4cf;1M430;1M431;1M432;1M433;1M434;1M435;1M436;1M437;
1M438;1M43a;1M43b;1M43e;1M43f;1M441;1M443;1M444;1M445;1M446;1M447;1M448;1M44a;1M44b;1M491;1M456;
1M455;1M45f;1M4ab;1Ma651;1M4b1;1X;21V;1X;70V;2dX;3V;eX;2V;aX;4V;2X;140V;1fX;11V;3aX;5V;1X;1d0V;
2aX;d6V;2bX;4V;1X;c0V;1fX;1V;16X;8V;2X;e0V;7X;1V;4X;1V;2X;1V;fX;1V;c5X;2V;10X;29M1e922;1M1e923;
1M1e924;1M1e925;1M1e926;1M1e927;1M1e928;1M1e929;1M1e92a;1M1e92b;1M1e92c;1M1e92d;1M1e92e;1M1e92f;
1M1e930;1M1e931;1M1e932;1M1e933;1M1e934;1M1e935;1M1e936;1M1e937;1M1e938;1M1e939;1M1e93a;1M1e93b;
1M1e93c;1M1e93d;1M1e93e;1M1e93f;1M1e940;1M1e941;1M1e942;1M1e943;1V;2aX;4V;aX;4V;2X;311V;44X;4cV;
3dX;c2M627;1M628;1M62c;1M62f;1X;1M648;1M632;1M62d;1M637;1M64a;1M643;1M644;1M645;1M646;1M633;
1M639;1M641;1M635;1M642;1M631;1M634;1M62a;1M62b;1M62e;1M630;1M636;1M638;1M63a;1M66e;1M6ba;1M6a1;
1M66f;1X;1M628;1M62c;1X;1M647;1X;2M62d;1X;1M64a;1M643;1M644;1M645;1M646;1M633;1M639;1M641;1M635;
1M642;1X;1M634;1M62a;1M62b;1M62e;1X;1M636;1X;1M63a;1X;6M62c;1X;4M62d;1X;1M64a;1X;1M644;1X;1M646;
1M633;1M639;1X;1M635;1M642;1X;1M634;1X;2M62e;1X;1M636;1X;1M63a;1X;1M6ba;1X;1M66f;1X;1M628;1M62c;
1X;1M647;1X;2M62d;1M637;1M64a;1M643;1X;1M645;1M646;1M633;1M639;1M641;1M635;1M642;1X;1M634;1M62a;
1M62b;1M62e;1X;1M636;1M638;1M63a;1M66e;1X;1M6a1;1X;1M627;1M628;1M62c;1M62f;1M647;1M648;1M632;
1M62d;1M637;1M64a;1X;1M644;1M645;1M646;1M633;1M639;1M641;1M635;1M642;1M631;1M634;1M62a;1M62b;
1M62e;1M630;1M636;1M638;1M63a;1X;5M628;1M62c;1M62f;1X;1M648;1M632;1M62d;1M637;1M64a;1X;1M644;
1M645;1M646;1M633;1M639;1M641;1M635;1M642;1M631;1M634;1M62a;1M62b;1M62e;1M630;1M636;1M638;1M63a;
1X;34V;2X;10eV;2cX;4V;64X;cV;fX;2V;fX;1V;fX;1V;25X;bM30,2c;1M31,2c;1M32,2c;1M33,2c;1M34,2c;
1M35,2c;1M36,2c;1M37,2c;1M38,2c;1M39,2c;1V;5M28,61,29;1M28,62,29;1M28,63,29;1M28,64,29;
1M28,65,29;1M28,66,29;1M28,67,29;1M28,68,29;1M28,69,29;1M28,6a,29;1M28,6b,29;1M28,6c,29;
1M28,6d,29;1M28,6e,29;1M28,6f,29;1M28,70,29;1M28,71,29;1M28,72,29;1M28,73,29;1M28,74,29;
1M28,75,29;1M28,76,29;1M28,77,29;1M28,78,29;1M28,79,29;1M28,7a,29;1M3014,73,3015;1M63;1M72;
1M63,64;1M77,7a;1V;1M61;1M62;1M63;1M64;1M65;1M66;1M67;1M68;1M69;1M6a;1M6b;1M6c;1M6d;1M6e;1M6f;
1M70;1M71;1M72;1M73;1M74;1M75;1M76;1M77;1M78;1M79;1M7a;1M68,76;1M6d,76;1M73,64;1M73,73;
1M70,70,76;1M77,63;1V;1aM6d,63;1M6d,64;1M6d,72;1V;23M64,6a;1V;1dX;38V;1aM307b,304b;1M30b3,30b3;
1M30b5;1X;dM624b;1M5b57;1M53cc;1M30c7;1M4e8c;1M591a;1M89e3;1M5929;1M4ea4;1M6620;1M7121;1M6599;
1M524d;1M5f8c;1M518d;1M65b0;1M521d;1M7d42;1M751f;1M8ca9;1M58f0;1M5439;1M6f14;1M6295;1M6355;
1M4e00;1M4e09;1M904a;1M5de6;1M4e2d;1M53f3;1M6307;1M8d70;1M6253;1M7981;1M7a7a;1M5408;1M6e80;
1M6709;1M6708;1M7533;1M5272;1M55b6;1M914d;1X;4M3014,672c,3015;1M3014,4e09,3015;1M3014,4e8c,3015;
1M3014,5b89,3015;1M3014,70b9,3015;1M3014,6253,3015;1M3014,76d7,3015;1M3014,52dd,3015;
1M3014,6557,3015;1X;7M5f97;1M53ef;1X;eV;6X;9aV;3d9X;3V;11X;3V;dX;3V;daX;6V;cX;4V;1X;fV;cX;4V;
38X;8V;aX;6V;28X;8V;1eX;2V;cX;4V;2X;eV;9X;27V;158X;8V;eX;2V;dX;3V;bX;3V;39X;1V;1X;4V;10X;2V;cX;
4V;aX;7V;93X;1V;5cM30;1M31;1M32;1M33;1M34;1M35;1M36;1M37;1M38;1M39;1V;1X;405V;a6e0X;20V;111eX;
2V;168eX;2V;1d31X;fV;26eX;9a2M4e3d;1M4e38;1M4e41;1M20122;1M4f60;1M4fae;1M4fbb;1M5002;1M507a;
1M5099;1M50e7;1M50cf;1M349e;1M2063a;1M514d;1M5154;1M5164;1M5177;1M2051c;1M34b9;1M5167;1M518d;
1M2054b;1M5197;1M51a4;1M4ecc;1M51ac;1M51b5;1M291df;1M51f5;1M5203;1M34df;1M523b;1M5246;1M5272;
1M5277;1M3515;1M52c7;1M52c9;1M52e4;1M52fa;1M5305;1M5306;1M5317;1M5349;1M5351;1M535a;1M5373;
1M537d;1M537f;3M20a2c;1M7070;1M53ca;1M53df;1M20b63;1M53eb;1M53f1;1M5406;1M549e;1M5438;1M5448;
1M5468;1M54a2;1M54f6;1M5510;1M5553;1M5563;1M5584;2M5599;1M55ab;1M55b3;1M55c2;1M5716;1M5606;
1M5717;1M5651;1M5674;1M5207;1M58ee;1M57ce;1M57f4;1M580d;1M578b;1M5832;1M5831;1M58ac;1M214e4;
1M58f2;1M58f7;1M5906;1M591a;1M5922;1M5962;1M216a8;1M216ea;1M59ec;1M5a1b;1M5a27;1M59d8;1M5a66;
1M36ee;1M36fc;1M5b08;1M5b3e;2M219c8;1M5bc3;1M5bd8;1M5be7;1M5bf3;1M21b18;1M5bff;1M5c06;1M5f53;
1M5c22;1M3781;1M5c60;1M5c6e;1M5cc0;1M5c8d;1M21de4;1M5d43;1M21de6;1M5d6e;1M5d6b;1M5d7c;1M5de1;
1M5de2;1M382f;1M5dfd;1M5e28;1M5e3d;1M5e69;1M3862;1M22183;1M387c;1M5eb0;1M5eb3;1M5eb6;1M5eca;
1M2a392;1M5efe;1M22331;2M8201;1M5f22;2M38c7;1M232b8;1M261da;1M5f62;1M5f6b;1M38e3;1M5f9a;1M5fcd;
1M5fd7;1M5ff9;1M6081;1M393a;1M391c;1M6094;1M226d4;1M60c7;1M6148;1M614c;1M614e;1M614c;1M617a;
1M618e;1M61b2;1M61a4;1M61af;1M61de;1M61f2;1M61f6;1M6210;1M621b;1M625d;1M62b1;1M62d4;1M6350;
1M22b0c;1M633d;1M62fc;1M6368;1M6383;1M63e4;1M22bf1;1M6422;1M63c5;1M63a9;1M3a2e;1M6469;1M647e;
1M649d;1M6477;1M3a6c;1M654f;1M656c;1M2300a;1M65e3;1M66f8;1M6649;1M3b19;1M6691;1M3b08;1M3ae4;
1M5192;1M5195;1M6700;1M669c;1M80ad;1M43d9;1M6717;1M671b;1M6721;1M675e;1M6753;1M233c3;1M3b49;
1M67fa;1M6785;1M6852;1M6885;1M2346d;1M688e;1M681f;1M6914;1M3b9d;1M6942;1M69a3;1M69ea;1M6aa8;
1M236a3;1M6adb;1M3c18;1M6b21;1M238a7;1M6b54;1M3c4e;1M6b72;1M6b9f;1M6bba;1M6bbb;1M23a8d;1M21d0b;
1M23afa;1M6c4e;1M23cbc;1M6cbf;1M6ccd;1M6c67;1M6d16;1M6d3e;1M6d77;1M6d41;1M6d69;1M6d78;1M6d85;
1M23d1e;1M6d34;1M6e2f;1M6e6e;1M3d33;1M6ecb;1M6ec7;1M23ed1;1M6df9;1M6f6e;1M23f5e;1M23f8e;1M6fc6;
1M7039;1M701e;1M701b;1M3d96;1M704a;1M707d;1M7077;1M70ad;1M20525;1M7145;1M24263;1M719c;1M243ab;
1M7228;1M7235;1M7250;1M24608;1M7280;1M7295;1M24735;1M24814;1M737a;1M738b;1M3eac;1M73a5;1M3eb8;
2M7447;1M745c;1M7471;1M7485;1M74ca;1M3f1b;1M7524;1M24c36;1M753e;1M24c92;1M7570;1M2219f;1M7610;
1M24fa1;1M24fb8;1M25044;1M3ffc;1M4008;1M76f4;1M250f3;1M250f2;1M25119;1M25133;1M771e;1M771f;
2M774a;1M4039;1M778b;1M4046;1M4096;1M2541d;1M784e;1M788c;1M78cc;1M40e3;1M25626;1M7956;1M2569a;
1M256c5;1M798f;1M79eb;1M412f;1M7a40;1M7a4a;1M7a4f;1M2597c;1M25aa7;2M7aee;1M4202;1M25bab;1M7bc6;
1M7bc9;1M4227;1M25c80;1M7cd2;1M42a0;1M7ce8;1M7ce3;1M7d00;1M25f86;1M7d63;1M4301;1M7dc7;1M7e02;
1M7e45;1M4334;1M26228;1M26247;1M4359;1M262d9;1M7f7a;1M2633e;1M7f95;1M7ffa;1M8005;1M264da;
1M26523;1M8060;1M265a8;1M8070;1M2335f;1M43d5;1M80b2;1M8103;1M440b;1M813e;1M5ab5;1M267a7;1M267b5;
1M23393;1M2339c;1M8201;1M8204;1M8f9e;1M446b;1M8291;1M828b;1M829d;1M52b3;1M82b1;1M82b3;1M82bd;
1M82e6;1M26b3c;1M82e5;1M831d;1M8363;1M83ad;1M8323;1M83bd;1M83e7;1M8457;1M8353;1M83ca;1M83cc;
1M83dc;1M26c36;1M26d6b;1M26cd5;1M452b;1M84f1;1M84f3;1M8516;1M273ca;1M8564;1M26f2c;1M455d;1M4561;
1M26fb1;1M270d2;1M456b;1M8650;1M865c;1M8667;1M8669;1M86a9;1M8688;1M870e;1M86e2;1M8779;1M8728;
1M876b;1M8786;1M45d7;1M87e1;1M8801;1M45f9;1M8860;1M8863;1M27667;1M88d7;1M88de;1M4635;1M88fa;
1M34bb;1M278ae;1M27966;1M46be;1M46c7;1M8aa0;1M8aed;1M8b8a;1M8c55;1M27ca8;1M8cab;1M8cc1;1M8d1b;
1M8d77;1M27f2f;1M20804;1M8dcb;1M8dbc;1M8df0;1M208de;1M8ed4;1M8f38;1M285d2;1M285ed;1M9094;1M90f1;
1M9111;1M2872e;1M911b;1M9238;1M92d7;1M92d8;1M927c;1M93f9;1M9415;1M28bfa;1M958b;1M4995;1M95b7;
1M28d77;1M49e6;1M96c3;1M5db2;1M9723;1M29145;1M2921a;1M4a6e;1M4a76;1M97e0;1M2940a;1M4ab2;1M29496;
1M980b;2M9829;1M295b6;1M98e2;1M4b33;1M9929;1M99a7;1M99c2;1M99fe;1M4bce;1M29b30;1M9b12;1M9c40;
1M9cfd;1M4cce;1M4ced;1M9d67;1M2a0ce;1M4cf8;1M2a105;1M2a20e;1M2a291;1M9ebb;1M4d56;1M9ef9;1M9efe;
1M9f05;1M9f0f;1M9f16;1M9f3b;1M2a600;1X;5e2V;134bX;5V;212aX;acc86I;f0X;"

def mappingRows : Array Row := Row.unpack mappingTable

def status (c : Char) : Status :=
  match Row.find? mappingRows c.toNat with
  | some r =>
    match r.tag with
    | 'V' => .valid
    | 'M' => .mapped (r.values.map Char.ofNat)
    | 'I' => .ignored
    | 'D' => .deviation
    | _ => .disallowed
  | none => .disallowed

end Depot.Text.Idna
