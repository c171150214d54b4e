/-!
# Compatibility decompositions, characters below U+1E00

Each number is one row: five hexadecimal digits a code point, the character first and then the
code points of its full compatibility decomposition (Unicode 17).
-/
namespace PriceSurvey.Text

set_option maxRecDepth 4000 in
/-- Packed decompositions of characters below U+1E00, in ascending order. -/
def packedLatin : List Nat := [
  0x000A0_00020, 0x000A8_00020_00308, 0x000AA_00061, 0x000AF_00020_00304, 0x000B2_00032,
  0x000B3_00033, 0x000B4_00020_00301, 0x000B5_003BC, 0x000B8_00020_00327, 0x000B9_00031,
  0x000BA_0006F, 0x000BC_00031_02044_00034, 0x000BD_00031_02044_00032,
  0x000BE_00033_02044_00034, 0x000C0_00041_00300, 0x000C1_00041_00301, 0x000C2_00041_00302,
  0x000C3_00041_00303, 0x000C4_00041_00308, 0x000C5_00041_0030A, 0x000C7_00043_00327,
  0x000C8_00045_00300, 0x000C9_00045_00301, 0x000CA_00045_00302, 0x000CB_00045_00308,
  0x000CC_00049_00300, 0x000CD_00049_00301, 0x000CE_00049_00302, 0x000CF_00049_00308,
  0x000D1_0004E_00303, 0x000D2_0004F_00300, 0x000D3_0004F_00301, 0x000D4_0004F_00302,
  0x000D5_0004F_00303, 0x000D6_0004F_00308, 0x000D9_00055_00300, 0x000DA_00055_00301,
  0x000DB_00055_00302, 0x000DC_00055_00308, 0x000DD_00059_00301, 0x000E0_00061_00300,
  0x000E1_00061_00301, 0x000E2_00061_00302, 0x000E3_00061_00303, 0x000E4_00061_00308,
  0x000E5_00061_0030A, 0x000E7_00063_00327, 0x000E8_00065_00300, 0x000E9_00065_00301,
  0x000EA_00065_00302, 0x000EB_00065_00308, 0x000EC_00069_00300, 0x000ED_00069_00301,
  0x000EE_00069_00302, 0x000EF_00069_00308, 0x000F1_0006E_00303, 0x000F2_0006F_00300,
  0x000F3_0006F_00301, 0x000F4_0006F_00302, 0x000F5_0006F_00303, 0x000F6_0006F_00308,
  0x000F9_00075_00300, 0x000FA_00075_00301, 0x000FB_00075_00302, 0x000FC_00075_00308,
  0x000FD_00079_00301, 0x000FF_00079_00308, 0x00100_00041_00304, 0x00101_00061_00304,
  0x00102_00041_00306, 0x00103_00061_00306, 0x00104_00041_00328, 0x00105_00061_00328,
  0x00106_00043_00301, 0x00107_00063_00301, 0x00108_00043_00302, 0x00109_00063_00302,
  0x0010A_00043_00307, 0x0010B_00063_00307, 0x0010C_00043_0030C, 0x0010D_00063_0030C,
  0x0010E_00044_0030C, 0x0010F_00064_0030C, 0x00112_00045_00304, 0x00113_00065_00304,
  0x00114_00045_00306, 0x00115_00065_00306, 0x00116_00045_00307, 0x00117_00065_00307,
  0x00118_00045_00328, 0x00119_00065_00328, 0x0011A_00045_0030C, 0x0011B_00065_0030C,
  0x0011C_00047_00302, 0x0011D_00067_00302, 0x0011E_00047_00306, 0x0011F_00067_00306,
  0x00120_00047_00307, 0x00121_00067_00307, 0x00122_00047_00327, 0x00123_00067_00327,
  0x00124_00048_00302, 0x00125_00068_00302, 0x00128_00049_00303, 0x00129_00069_00303,
  0x0012A_00049_00304, 0x0012B_00069_00304, 0x0012C_00049_00306, 0x0012D_00069_00306,
  0x0012E_00049_00328, 0x0012F_00069_00328, 0x00130_00049_00307, 0x00132_00049_0004A,
  0x00133_00069_0006A, 0x00134_0004A_00302, 0x00135_0006A_00302, 0x00136_0004B_00327,
  0x00137_0006B_00327, 0x00139_0004C_00301, 0x0013A_0006C_00301, 0x0013B_0004C_00327,
  0x0013C_0006C_00327, 0x0013D_0004C_0030C, 0x0013E_0006C_0030C, 0x0013F_0004C_000B7,
  0x00140_0006C_000B7, 0x00143_0004E_00301, 0x00144_0006E_00301, 0x00145_0004E_00327,
  0x00146_0006E_00327, 0x00147_0004E_0030C, 0x00148_0006E_0030C, 0x00149_002BC_0006E,
  0x0014C_0004F_00304, 0x0014D_0006F_00304, 0x0014E_0004F_00306, 0x0014F_0006F_00306,
  0x00150_0004F_0030B, 0x00151_0006F_0030B, 0x00154_00052_00301, 0x00155_00072_00301,
  0x00156_00052_00327, 0x00157_00072_00327, 0x00158_00052_0030C, 0x00159_00072_0030C,
  0x0015A_00053_00301, 0x0015B_00073_00301, 0x0015C_00053_00302, 0x0015D_00073_00302,
  0x0015E_00053_00327, 0x0015F_00073_00327, 0x00160_00053_0030C, 0x00161_00073_0030C,
  0x00162_00054_00327, 0x00163_00074_00327, 0x00164_00054_0030C, 0x00165_00074_0030C,
  0x00168_00055_00303, 0x00169_00075_00303, 0x0016A_00055_00304, 0x0016B_00075_00304,
  0x0016C_00055_00306, 0x0016D_00075_00306, 0x0016E_00055_0030A, 0x0016F_00075_0030A,
  0x00170_00055_0030B, 0x00171_00075_0030B, 0x00172_00055_00328, 0x00173_00075_00328,
  0x00174_00057_00302, 0x00175_00077_00302, 0x00176_00059_00302, 0x00177_00079_00302,
  0x00178_00059_00308, 0x00179_0005A_00301, 0x0017A_0007A_00301, 0x0017B_0005A_00307,
  0x0017C_0007A_00307, 0x0017D_0005A_0030C, 0x0017E_0007A_0030C, 0x0017F_00073,
  0x001A0_0004F_0031B, 0x001A1_0006F_0031B, 0x001AF_00055_0031B, 0x001B0_00075_0031B,
  0x001C4_00044_0005A_0030C, 0x001C5_00044_0007A_0030C, 0x001C6_00064_0007A_0030C,
  0x001C7_0004C_0004A, 0x001C8_0004C_0006A, 0x001C9_0006C_0006A, 0x001CA_0004E_0004A,
  0x001CB_0004E_0006A, 0x001CC_0006E_0006A, 0x001CD_00041_0030C, 0x001CE_00061_0030C,
  0x001CF_00049_0030C, 0x001D0_00069_0030C, 0x001D1_0004F_0030C, 0x001D2_0006F_0030C,
  0x001D3_00055_0030C, 0x001D4_00075_0030C, 0x001D5_00055_00308_00304,
  0x001D6_00075_00308_00304, 0x001D7_00055_00308_00301, 0x001D8_00075_00308_00301,
  0x001D9_00055_00308_0030C, 0x001DA_00075_00308_0030C, 0x001DB_00055_00308_00300,
  0x001DC_00075_00308_00300, 0x001DE_00041_00308_00304, 0x001DF_00061_00308_00304,
  0x001E0_00041_00307_00304, 0x001E1_00061_00307_00304, 0x001E2_000C6_00304,
  0x001E3_000E6_00304, 0x001E6_00047_0030C, 0x001E7_00067_0030C, 0x001E8_0004B_0030C,
  0x001E9_0006B_0030C, 0x001EA_0004F_00328, 0x001EB_0006F_00328, 0x001EC_0004F_00328_00304,
  0x001ED_0006F_00328_00304, 0x001EE_001B7_0030C, 0x001EF_00292_0030C, 0x001F0_0006A_0030C,
  0x001F1_00044_0005A, 0x001F2_00044_0007A, 0x001F3_00064_0007A, 0x001F4_00047_00301,
  0x001F5_00067_00301, 0x001F8_0004E_00300, 0x001F9_0006E_00300, 0x001FA_00041_0030A_00301,
  0x001FB_00061_0030A_00301, 0x001FC_000C6_00301, 0x001FD_000E6_00301, 0x001FE_000D8_00301,
  0x001FF_000F8_00301, 0x00200_00041_0030F, 0x00201_00061_0030F, 0x00202_00041_00311,
  0x00203_00061_00311, 0x00204_00045_0030F, 0x00205_00065_0030F, 0x00206_00045_00311,
  0x00207_00065_00311, 0x00208_00049_0030F, 0x00209_00069_0030F, 0x0020A_00049_00311,
  0x0020B_00069_00311, 0x0020C_0004F_0030F, 0x0020D_0006F_0030F, 0x0020E_0004F_00311,
  0x0020F_0006F_00311, 0x00210_00052_0030F, 0x00211_00072_0030F, 0x00212_00052_00311,
  0x00213_00072_00311, 0x00214_00055_0030F, 0x00215_00075_0030F, 0x00216_00055_00311,
  0x00217_00075_00311, 0x00218_00053_00326, 0x00219_00073_00326, 0x0021A_00054_00326,
  0x0021B_00074_00326, 0x0021E_00048_0030C, 0x0021F_00068_0030C, 0x00226_00041_00307,
  0x00227_00061_00307, 0x00228_00045_00327, 0x00229_00065_00327, 0x0022A_0004F_00308_00304,
  0x0022B_0006F_00308_00304, 0x0022C_0004F_00303_00304, 0x0022D_0006F_00303_00304,
  0x0022E_0004F_00307, 0x0022F_0006F_00307, 0x00230_0004F_00307_00304,
  0x00231_0006F_00307_00304, 0x00232_00059_00304, 0x00233_00079_00304, 0x002B0_00068,
  0x002B1_00266, 0x002B2_0006A, 0x002B3_00072, 0x002B4_00279, 0x002B5_0027B, 0x002B6_00281,
  0x002B7_00077, 0x002B8_00079, 0x002D8_00020_00306, 0x002D9_00020_00307, 0x002DA_00020_0030A,
  0x002DB_00020_00328, 0x002DC_00020_00303, 0x002DD_00020_0030B, 0x002E0_00263, 0x002E1_0006C,
  0x002E2_00073, 0x002E3_00078, 0x002E4_00295, 0x00340_00300, 0x00341_00301, 0x00343_00313,
  0x00344_00308_00301, 0x00374_002B9, 0x0037A_00020_00345, 0x0037E_0003B, 0x00384_00020_00301,
  0x00385_00020_00308_00301, 0x00386_00391_00301, 0x00387_000B7, 0x00388_00395_00301,
  0x00389_00397_00301, 0x0038A_00399_00301, 0x0038C_0039F_00301, 0x0038E_003A5_00301,
  0x0038F_003A9_00301, 0x00390_003B9_00308_00301, 0x003AA_00399_00308, 0x003AB_003A5_00308,
  0x003AC_003B1_00301, 0x003AD_003B5_00301, 0x003AE_003B7_00301, 0x003AF_003B9_00301,
  0x003B0_003C5_00308_00301, 0x003CA_003B9_00308, 0x003CB_003C5_00308, 0x003CC_003BF_00301,
  0x003CD_003C5_00301, 0x003CE_003C9_00301, 0x003D0_003B2, 0x003D1_003B8, 0x003D2_003A5,
  0x003D3_003A5_00301, 0x003D4_003A5_00308, 0x003D5_003C6, 0x003D6_003C0, 0x003F0_003BA,
  0x003F1_003C1, 0x003F2_003C2, 0x003F4_00398, 0x003F5_003B5, 0x003F9_003A3,
  0x00400_00415_00300, 0x00401_00415_00308, 0x00403_00413_00301, 0x00407_00406_00308,
  0x0040C_0041A_00301, 0x0040D_00418_00300, 0x0040E_00423_00306, 0x00419_00418_00306,
  0x00439_00438_00306, 0x00450_00435_00300, 0x00451_00435_00308, 0x00453_00433_00301,
  0x00457_00456_00308, 0x0045C_0043A_00301, 0x0045D_00438_00300, 0x0045E_00443_00306,
  0x00476_00474_0030F, 0x00477_00475_0030F, 0x004C1_00416_00306, 0x004C2_00436_00306,
  0x004D0_00410_00306, 0x004D1_00430_00306, 0x004D2_00410_00308, 0x004D3_00430_00308,
  0x004D6_00415_00306, 0x004D7_00435_00306, 0x004DA_004D8_00308, 0x004DB_004D9_00308,
  0x004DC_00416_00308, 0x004DD_00436_00308, 0x004DE_00417_00308, 0x004DF_00437_00308,
  0x004E2_00418_00304, 0x004E3_00438_00304, 0x004E4_00418_00308, 0x004E5_00438_00308,
  0x004E6_0041E_00308, 0x004E7_0043E_00308, 0x004EA_004E8_00308, 0x004EB_004E9_00308,
  0x004EC_0042D_00308, 0x004ED_0044D_00308, 0x004EE_00423_00304, 0x004EF_00443_00304,
  0x004F0_00423_00308, 0x004F1_00443_00308, 0x004F2_00423_0030B, 0x004F3_00443_0030B,
  0x004F4_00427_00308, 0x004F5_00447_00308, 0x004F8_0042B_00308, 0x004F9_0044B_00308,
  0x00587_00565_00582, 0x00622_00627_00653, 0x00623_00627_00654, 0x00624_00648_00654,
  0x00625_00627_00655, 0x00626_0064A_00654, 0x00675_00627_00674, 0x00676_00648_00674,
  0x00677_006C7_00674, 0x00678_0064A_00674, 0x006C0_006D5_00654, 0x006C2_006C1_00654,
  0x006D3_006D2_00654, 0x00929_00928_0093C, 0x00931_00930_0093C, 0x00934_00933_0093C,
  0x00958_00915_0093C, 0x00959_00916_0093C, 0x0095A_00917_0093C, 0x0095B_0091C_0093C,
  0x0095C_00921_0093C, 0x0095D_00922_0093C, 0x0095E_0092B_0093C, 0x0095F_0092F_0093C,
  0x009CB_009C7_009BE, 0x009CC_009C7_009D7, 0x009DC_009A1_009BC, 0x009DD_009A2_009BC,
  0x009DF_009AF_009BC, 0x00A33_00A32_00A3C, 0x00A36_00A38_00A3C, 0x00A59_00A16_00A3C,
  0x00A5A_00A17_00A3C, 0x00A5B_00A1C_00A3C, 0x00A5E_00A2B_00A3C, 0x00B48_00B47_00B56,
  0x00B4B_00B47_00B3E, 0x00B4C_00B47_00B57, 0x00B5C_00B21_00B3C, 0x00B5D_00B22_00B3C,
  0x00B94_00B92_00BD7, 0x00BCA_00BC6_00BBE, 0x00BCB_00BC7_00BBE, 0x00BCC_00BC6_00BD7,
  0x00C48_00C46_00C56, 0x00CC0_00CBF_00CD5, 0x00CC7_00CC6_00CD5, 0x00CC8_00CC6_00CD6,
  0x00CCA_00CC6_00CC2, 0x00CCB_00CC6_00CC2_00CD5, 0x00D4A_00D46_00D3E, 0x00D4B_00D47_00D3E,
  0x00D4C_00D46_00D57, 0x00DDA_00DD9_00DCA, 0x00DDC_00DD9_00DCF, 0x00DDD_00DD9_00DCF_00DCA,
  0x00DDE_00DD9_00DDF, 0x00E33_00E4D_00E32, 0x00EB3_00ECD_00EB2, 0x00EDC_00EAB_00E99,
  0x00EDD_00EAB_00EA1, 0x00F0C_00F0B, 0x00F43_00F42_00FB7, 0x00F4D_00F4C_00FB7,
  0x00F52_00F51_00FB7, 0x00F57_00F56_00FB7, 0x00F5C_00F5B_00FB7, 0x00F69_00F40_00FB5,
  0x00F73_00F71_00F72, 0x00F75_00F71_00F74, 0x00F76_00FB2_00F80, 0x00F77_00FB2_00F71_00F80,
  0x00F78_00FB3_00F80, 0x00F79_00FB3_00F71_00F80, 0x00F81_00F71_00F80, 0x00F93_00F92_00FB7,
  0x00F9D_00F9C_00FB7, 0x00FA2_00FA1_00FB7, 0x00FA7_00FA6_00FB7, 0x00FAC_00FAB_00FB7,
  0x00FB9_00F90_00FB5, 0x01026_01025_0102E, 0x010FC_010DC, 0x01B06_01B05_01B35,
  0x01B08_01B07_01B35, 0x01B0A_01B09_01B35, 0x01B0C_01B0B_01B35, 0x01B0E_01B0D_01B35,
  0x01B12_01B11_01B35, 0x01B3B_01B3A_01B35, 0x01B3D_01B3C_01B35, 0x01B40_01B3E_01B35,
  0x01B41_01B3F_01B35, 0x01B43_01B42_01B35, 0x01D2C_00041, 0x01D2D_000C6, 0x01D2E_00042,
  0x01D30_00044, 0x01D31_00045, 0x01D32_0018E, 0x01D3C_0004F, 0x01D3D_00222, 0x01D3E_00050,
  0x01D3F_00052, 0x01D40_00054, 0x01D41_00055, 0x01D42_00057, 0x01D43_00061, 0x01D44_00250,
  0x01D45_00251, 0x01D46_01D02, 0x01D47_00062, 0x01D48_00064, 0x01D49_00065, 0x01D4A_00259,
  0x01D4B_0025B, 0x01D4C_0025C, 0x01D4D_00067, 0x01D4F_0006B, 0x01D50_0006D, 0x01D51_0014B,
  0x01D52_0006F, 0x01D53_00254, 0x01D54_01D16, 0x01D55_01D17, 0x01D56_00070, 0x01D57_00074,
  0x01D58_00075, 0x01D59_01D1D, 0x01D5A_0026F, 0x01D5B_00076, 0x01D5C_01D25, 0x01D60_003C6,
  0x01D61_003C7, 0x01D62_00069, 0x01D63_00072, 0x01D64_00075, 0x01D65_00076, 0x01D66_003B2,
  0x01D67_003B3, 0x01D68_003C1, 0x01D69_003C6, 0x01D6A_003C7, 0x01D78_0043D, 0x01D9B_00252,
  0x01D9C_00063, 0x01D9D_00255, 0x01D9E_000F0, 0x01D9F_0025C, 0x01DA0_00066, 0x01DA1_0025F,
  0x01DA2_00261, 0x01DA3_00265, 0x01DA7_01D7B, 0x01DA8_0029D, 0x01DA9_0026D, 0x01DAA_01D85,
  0x01DAB_0029F, 0x01DAC_00271, 0x01DAD_00270, 0x01DB2_00278, 0x01DB3_00282, 0x01DB4_00283,
  0x01DB5_001AB, 0x01DB6_00289, 0x01DB7_0028A, 0x01DB8_01D1C, 0x01DB9_0028B, 0x01DBA_0028C,
  0x01DBB_0007A, 0x01DBF_003B8]

end PriceSurvey.Text
