/-!
# Compatibility decompositions, characters from U+20000 on

Each number is one row: five hexadecimal digits a code point, the character first and then the
code points of its full compatibility decomposition (Unicode 17).
-/
namespace PriceSurvey.Text

set_option maxRecDepth 4000 in
/-- Packed decompositions of characters from U+20000 on, in ascending order. -/
def packedIdeograph : List Nat := [
  0x2F800_04E3D, 0x2F801_04E38, 0x2F802_04E41, 0x2F803_20122, 0x2F804_04F60, 0x2F805_04FAE,
  0x2F806_04FBB, 0x2F807_05002, 0x2F808_0507A, 0x2F809_05099, 0x2F80A_050E7, 0x2F80B_050CF,
  0x2F80C_0349E, 0x2F80D_2063A, 0x2F80E_0514D, 0x2F80F_05154, 0x2F810_05164, 0x2F811_05177,
  0x2F812_2051C, 0x2F813_034B9, 0x2F814_05167, 0x2F815_0518D, 0x2F816_2054B, 0x2F817_05197,
  0x2F818_051A4, 0x2F819_04ECC, 0x2F81A_051AC, 0x2F81B_051B5, 0x2F81C_291DF, 0x2F81D_051F5,
  0x2F81E_05203, 0x2F81F_034DF, 0x2F820_0523B, 0x2F821_05246, 0x2F822_05272, 0x2F823_05277,
  0x2F824_03515, 0x2F825_052C7, 0x2F826_052C9, 0x2F827_052E4, 0x2F828_052FA, 0x2F829_05305,
  0x2F82A_05306, 0x2F82B_05317, 0x2F82C_05349, 0x2F82D_05351, 0x2F82E_0535A, 0x2F82F_05373,
  0x2F830_0537D, 0x2F831_0537F, 0x2F832_0537F, 0x2F833_0537F, 0x2F834_20A2C, 0x2F835_07070,
  0x2F836_053CA, 0x2F837_053DF, 0x2F838_20B63, 0x2F839_053EB, 0x2F83A_053F1, 0x2F83B_05406,
  0x2F83C_0549E, 0x2F83D_05438, 0x2F83E_05448, 0x2F83F_05468, 0x2F840_054A2, 0x2F841_054F6,
  0x2F842_05510, 0x2F843_05553, 0x2F844_05563, 0x2F845_05584, 0x2F846_05584, 0x2F847_05599,
  0x2F848_055AB, 0x2F849_055B3, 0x2F84A_055C2, 0x2F84B_05716, 0x2F84C_05606, 0x2F84D_05717,
  0x2F84E_05651, 0x2F84F_05674, 0x2F850_05207, 0x2F851_058EE, 0x2F852_057CE, 0x2F853_057F4,
  0x2F854_0580D, 0x2F855_0578B, 0x2F856_05832, 0x2F857_05831, 0x2F858_058AC, 0x2F859_214E4,
  0x2F85A_058F2, 0x2F85B_058F7, 0x2F85C_05906, 0x2F85D_0591A, 0x2F85E_05922, 0x2F85F_05962,
  0x2F860_216A8, 0x2F861_216EA, 0x2F862_059EC, 0x2F863_05A1B, 0x2F864_05A27, 0x2F865_059D8,
  0x2F866_05A66, 0x2F867_036EE, 0x2F868_036FC, 0x2F869_05B08, 0x2F86A_05B3E, 0x2F86B_05B3E,
  0x2F86C_219C8, 0x2F86D_05BC3, 0x2F86E_05BD8, 0x2F86F_05BE7, 0x2F870_05BF3, 0x2F871_21B18,
  0x2F872_05BFF, 0x2F873_05C06, 0x2F874_05F53, 0x2F875_05C22, 0x2F876_03781, 0x2F877_05C60,
  0x2F878_05C6E, 0x2F879_05CC0, 0x2F87A_05C8D, 0x2F87B_21DE4, 0x2F87C_05D43, 0x2F87D_21DE6,
  0x2F87E_05D6E, 0x2F87F_05D6B, 0x2F880_05D7C, 0x2F881_05DE1, 0x2F882_05DE2, 0x2F883_0382F,
  0x2F884_05DFD, 0x2F885_05E28, 0x2F886_05E3D, 0x2F887_05E69, 0x2F888_03862, 0x2F889_22183,
  0x2F88A_0387C, 0x2F88B_05EB0, 0x2F88C_05EB3, 0x2F88D_05EB6, 0x2F88E_05ECA, 0x2F88F_2A392,
  0x2F890_05EFE, 0x2F891_22331, 0x2F892_22331, 0x2F893_08201, 0x2F894_05F22, 0x2F895_05F22,
  0x2F896_038C7, 0x2F897_232B8, 0x2F898_261DA, 0x2F899_05F62, 0x2F89A_05F6B, 0x2F89B_038E3,
  0x2F89C_05F9A, 0x2F89D_05FCD, 0x2F89E_05FD7, 0x2F89F_05FF9, 0x2F8A0_06081, 0x2F8A1_0393A,
  0x2F8A2_0391C, 0x2F8A3_06094, 0x2F8A4_226D4, 0x2F8A5_060C7, 0x2F8A6_06148, 0x2F8A7_0614C,
  0x2F8A8_0614E, 0x2F8A9_0614C, 0x2F8AA_0617A, 0x2F8AB_0618E, 0x2F8AC_061B2, 0x2F8AD_061A4,
  0x2F8AE_061AF, 0x2F8AF_061DE, 0x2F8B0_061F2, 0x2F8B1_061F6, 0x2F8B2_06210, 0x2F8B3_0621B,
  0x2F8B4_0625D, 0x2F8B5_062B1, 0x2F8B6_062D4, 0x2F8B7_06350, 0x2F8B8_22B0C, 0x2F8B9_0633D,
  0x2F8BA_062FC, 0x2F8BB_06368, 0x2F8BC_06383, 0x2F8BD_063E4, 0x2F8BE_22BF1, 0x2F8BF_06422,
  0x2F8C0_063C5, 0x2F8C1_063A9, 0x2F8C2_03A2E, 0x2F8C3_06469, 0x2F8C4_0647E, 0x2F8C5_0649D,
  0x2F8C6_06477, 0x2F8C7_03A6C, 0x2F8C8_0654F, 0x2F8C9_0656C, 0x2F8CA_2300A, 0x2F8CB_065E3,
  0x2F8CC_066F8, 0x2F8CD_06649, 0x2F8CE_03B19, 0x2F8CF_06691, 0x2F8D0_03B08, 0x2F8D1_03AE4,
  0x2F8D2_05192, 0x2F8D3_05195, 0x2F8D4_06700, 0x2F8D5_0669C, 0x2F8D6_080AD, 0x2F8D7_043D9,
  0x2F8D8_06717, 0x2F8D9_0671B, 0x2F8DA_06721, 0x2F8DB_0675E, 0x2F8DC_06753, 0x2F8DD_233C3,
  0x2F8DE_03B49, 0x2F8DF_067FA, 0x2F8E0_06785, 0x2F8E1_06852, 0x2F8E2_06885, 0x2F8E3_2346D,
  0x2F8E4_0688E, 0x2F8E5_0681F, 0x2F8E6_06914, 0x2F8E7_03B9D, 0x2F8E8_06942, 0x2F8E9_069A3,
  0x2F8EA_069EA, 0x2F8EB_06AA8, 0x2F8EC_236A3, 0x2F8ED_06ADB, 0x2F8EE_03C18, 0x2F8EF_06B21,
  0x2F8F0_238A7, 0x2F8F1_06B54, 0x2F8F2_03C4E, 0x2F8F3_06B72, 0x2F8F4_06B9F, 0x2F8F5_06BBA,
  0x2F8F6_06BBB, 0x2F8F7_23A8D, 0x2F8F8_21D0B, 0x2F8F9_23AFA, 0x2F8FA_06C4E, 0x2F8FB_23CBC,
  0x2F8FC_06CBF, 0x2F8FD_06CCD, 0x2F8FE_06C67, 0x2F8FF_06D16, 0x2F900_06D3E, 0x2F901_06D77,
  0x2F902_06D41, 0x2F903_06D69, 0x2F904_06D78, 0x2F905_06D85, 0x2F906_23D1E, 0x2F907_06D34,
  0x2F908_06E2F, 0x2F909_06E6E, 0x2F90A_03D33, 0x2F90B_06ECB, 0x2F90C_06EC7, 0x2F90D_23ED1,
  0x2F90E_06DF9, 0x2F90F_06F6E, 0x2F910_23F5E, 0x2F911_23F8E, 0x2F912_06FC6, 0x2F913_07039,
  0x2F914_0701E, 0x2F915_0701B, 0x2F916_03D96, 0x2F917_0704A, 0x2F918_0707D, 0x2F919_07077,
  0x2F91A_070AD, 0x2F91B_20525, 0x2F91C_07145, 0x2F91D_24263, 0x2F91E_0719C, 0x2F91F_243AB,
  0x2F920_07228, 0x2F921_07235, 0x2F922_07250, 0x2F923_24608, 0x2F924_07280, 0x2F925_07295,
  0x2F926_24735, 0x2F927_24814, 0x2F928_0737A, 0x2F929_0738B, 0x2F92A_03EAC, 0x2F92B_073A5,
  0x2F92C_03EB8, 0x2F92D_03EB8, 0x2F92E_07447, 0x2F92F_0745C, 0x2F930_07471, 0x2F931_07485,
  0x2F932_074CA, 0x2F933_03F1B, 0x2F934_07524, 0x2F935_24C36, 0x2F936_0753E, 0x2F937_24C92,
  0x2F938_07570, 0x2F939_2219F, 0x2F93A_07610, 0x2F93B_24FA1, 0x2F93C_24FB8, 0x2F93D_25044,
  0x2F93E_03FFC, 0x2F93F_04008, 0x2F940_076F4, 0x2F941_250F3, 0x2F942_250F2, 0x2F943_25119,
  0x2F944_25133, 0x2F945_0771E, 0x2F946_0771F, 0x2F947_0771F, 0x2F948_0774A, 0x2F949_04039,
  0x2F94A_0778B, 0x2F94B_04046, 0x2F94C_04096, 0x2F94D_2541D, 0x2F94E_0784E, 0x2F94F_0788C,
  0x2F950_078CC, 0x2F951_040E3, 0x2F952_25626, 0x2F953_07956, 0x2F954_2569A, 0x2F955_256C5,
  0x2F956_0798F, 0x2F957_079EB, 0x2F958_0412F, 0x2F959_07A40, 0x2F95A_07A4A, 0x2F95B_07A4F,
  0x2F95C_2597C, 0x2F95D_25AA7, 0x2F95E_25AA7, 0x2F95F_07AEE, 0x2F960_04202, 0x2F961_25BAB,
  0x2F962_07BC6, 0x2F963_07BC9, 0x2F964_04227, 0x2F965_25C80, 0x2F966_07CD2, 0x2F967_042A0,
  0x2F968_07CE8, 0x2F969_07CE3, 0x2F96A_07D00, 0x2F96B_25F86, 0x2F96C_07D63, 0x2F96D_04301,
  0x2F96E_07DC7, 0x2F96F_07E02, 0x2F970_07E45, 0x2F971_04334, 0x2F972_26228, 0x2F973_26247,
  0x2F974_04359, 0x2F975_262D9, 0x2F976_07F7A, 0x2F977_2633E, 0x2F978_07F95, 0x2F979_07FFA,
  0x2F97A_08005, 0x2F97B_264DA, 0x2F97C_26523, 0x2F97D_08060, 0x2F97E_265A8, 0x2F97F_08070,
  0x2F980_2335F, 0x2F981_043D5, 0x2F982_080B2, 0x2F983_08103, 0x2F984_0440B, 0x2F985_0813E,
  0x2F986_05AB5, 0x2F987_267A7, 0x2F988_267B5, 0x2F989_23393, 0x2F98A_2339C, 0x2F98B_08201,
  0x2F98C_08204, 0x2F98D_08F9E, 0x2F98E_0446B, 0x2F98F_08291, 0x2F990_0828B, 0x2F991_0829D,
  0x2F992_052B3, 0x2F993_082B1, 0x2F994_082B3, 0x2F995_082BD, 0x2F996_082E6, 0x2F997_26B3C,
  0x2F998_082E5, 0x2F999_0831D, 0x2F99A_08363, 0x2F99B_083AD, 0x2F99C_08323, 0x2F99D_083BD,
  0x2F99E_083E7, 0x2F99F_08457, 0x2F9A0_08353, 0x2F9A1_083CA, 0x2F9A2_083CC, 0x2F9A3_083DC,
  0x2F9A4_26C36, 0x2F9A5_26D6B, 0x2F9A6_26CD5, 0x2F9A7_0452B, 0x2F9A8_084F1, 0x2F9A9_084F3,
  0x2F9AA_08516, 0x2F9AB_273CA, 0x2F9AC_08564, 0x2F9AD_26F2C, 0x2F9AE_0455D, 0x2F9AF_04561,
  0x2F9B0_26FB1, 0x2F9B1_270D2, 0x2F9B2_0456B, 0x2F9B3_08650, 0x2F9B4_0865C, 0x2F9B5_08667,
  0x2F9B6_08669, 0x2F9B7_086A9, 0x2F9B8_08688, 0x2F9B9_0870E, 0x2F9BA_086E2, 0x2F9BB_08779,
  0x2F9BC_08728, 0x2F9BD_0876B, 0x2F9BE_08786, 0x2F9BF_045D7, 0x2F9C0_087E1, 0x2F9C1_08801,
  0x2F9C2_045F9, 0x2F9C3_08860, 0x2F9C4_08863, 0x2F9C5_27667, 0x2F9C6_088D7, 0x2F9C7_088DE,
  0x2F9C8_04635, 0x2F9C9_088FA, 0x2F9CA_034BB, 0x2F9CB_278AE, 0x2F9CC_27966, 0x2F9CD_046BE,
  0x2F9CE_046C7, 0x2F9CF_08AA0, 0x2F9D0_08AED, 0x2F9D1_08B8A, 0x2F9D2_08C55, 0x2F9D3_27CA8,
  0x2F9D4_08CAB, 0x2F9D5_08CC1, 0x2F9D6_08D1B, 0x2F9D7_08D77, 0x2F9D8_27F2F, 0x2F9D9_20804,
  0x2F9DA_08DCB, 0x2F9DB_08DBC, 0x2F9DC_08DF0, 0x2F9DD_208DE, 0x2F9DE_08ED4, 0x2F9DF_08F38,
  0x2F9E0_285D2, 0x2F9E1_285ED, 0x2F9E2_09094, 0x2F9E3_090F1, 0x2F9E4_09111, 0x2F9E5_2872E,
  0x2F9E6_0911B, 0x2F9E7_09238, 0x2F9E8_092D7, 0x2F9E9_092D8, 0x2F9EA_0927C, 0x2F9EB_093F9,
  0x2F9EC_09415, 0x2F9ED_28BFA, 0x2F9EE_0958B, 0x2F9EF_04995, 0x2F9F0_095B7, 0x2F9F1_28D77,
  0x2F9F2_049E6, 0x2F9F3_096C3, 0x2F9F4_05DB2, 0x2F9F5_09723, 0x2F9F6_29145, 0x2F9F7_2921A,
  0x2F9F8_04A6E, 0x2F9F9_04A76, 0x2F9FA_097E0, 0x2F9FB_2940A, 0x2F9FC_04AB2, 0x2F9FD_29496,
  0x2F9FE_0980B, 0x2F9FF_0980B, 0x2FA00_09829, 0x2FA01_295B6, 0x2FA02_098E2, 0x2FA03_04B33,
  0x2FA04_09929, 0x2FA05_099A7, 0x2FA06_099C2, 0x2FA07_099FE, 0x2FA08_04BCE, 0x2FA09_29B30,
  0x2FA0A_09B12, 0x2FA0B_09C40, 0x2FA0C_09CFD, 0x2FA0D_04CCE, 0x2FA0E_04CED, 0x2FA0F_09D67,
  0x2FA10_2A0CE, 0x2FA11_04CF8, 0x2FA12_2A105, 0x2FA13_2A20E, 0x2FA14_2A291, 0x2FA15_09EBB,
  0x2FA16_04D56, 0x2FA17_09EF9, 0x2FA18_09EFE, 0x2FA19_09F05, 0x2FA1A_09F0F, 0x2FA1B_09F16,
  0x2FA1C_09F3B, 0x2FA1D_2A600]

end PriceSurvey.Text
