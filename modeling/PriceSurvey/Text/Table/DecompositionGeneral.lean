/-!
# Compatibility decompositions, characters from U+1E00 to U+2FFF

Each number is one row: five hexadecimal digits a code point, the character first and then the
code points of its full compatibility decomposition (Unicode 17).
-/
namespace PriceSurvey.Text

set_option maxRecDepth 4000 in
/-- Packed decompositions of characters from U+1E00 to U+2FFF, in ascending order. -/
def packedGeneral : List Nat := [
  0x01E00_00041_00325, 0x01E01_00061_00325, 0x01E02_00042_00307, 0x01E03_00062_00307,
  0x01E04_00042_00323, 0x01E05_00062_00323, 0x01E06_00042_00331, 0x01E07_00062_00331,
  0x01E08_00043_00327_00301, 0x01E09_00063_00327_00301, 0x01E0A_00044_00307,
  0x01E0B_00064_00307, 0x01E0C_00044_00323, 0x01E0D_00064_00323, 0x01E0E_00044_00331,
  0x01E0F_00064_00331, 0x01E10_00044_00327, 0x01E11_00064_00327, 0x01E12_00044_0032D,
  0x01E13_00064_0032D, 0x01E14_00045_00304_00300, 0x01E15_00065_00304_00300,
  0x01E16_00045_00304_00301, 0x01E17_00065_00304_00301, 0x01E18_00045_0032D,
  0x01E19_00065_0032D, 0x01E1A_00045_00330, 0x01E1B_00065_00330, 0x01E1C_00045_00327_00306,
  0x01E1D_00065_00327_00306, 0x01E1E_00046_00307, 0x01E1F_00066_00307, 0x01E20_00047_00304,
  0x01E21_00067_00304, 0x01E22_00048_00307, 0x01E23_00068_00307, 0x01E24_00048_00323,
  0x01E25_00068_00323, 0x01E26_00048_00308, 0x01E27_00068_00308, 0x01E28_00048_00327,
  0x01E29_00068_00327, 0x01E2A_00048_0032E, 0x01E2B_00068_0032E, 0x01E2C_00049_00330,
  0x01E2D_00069_00330, 0x01E2E_00049_00308_00301, 0x01E2F_00069_00308_00301,
  0x01E30_0004B_00301, 0x01E31_0006B_00301, 0x01E32_0004B_00323, 0x01E33_0006B_00323,
  0x01E34_0004B_00331, 0x01E35_0006B_00331, 0x01E36_0004C_00323, 0x01E37_0006C_00323,
  0x01E38_0004C_00323_00304, 0x01E39_0006C_00323_00304, 0x01E3A_0004C_00331,
  0x01E3B_0006C_00331, 0x01E3C_0004C_0032D, 0x01E3D_0006C_0032D, 0x01E3E_0004D_00301,
  0x01E3F_0006D_00301, 0x01E40_0004D_00307, 0x01E41_0006D_00307, 0x01E42_0004D_00323,
  0x01E43_0006D_00323, 0x01E44_0004E_00307, 0x01E45_0006E_00307, 0x01E46_0004E_00323,
  0x01E47_0006E_00323, 0x01E48_0004E_00331, 0x01E49_0006E_00331, 0x01E4A_0004E_0032D,
  0x01E4B_0006E_0032D, 0x01E4C_0004F_00303_00301, 0x01E4D_0006F_00303_00301,
  0x01E4E_0004F_00303_00308, 0x01E4F_0006F_00303_00308, 0x01E50_0004F_00304_00300,
  0x01E51_0006F_00304_00300, 0x01E52_0004F_00304_00301, 0x01E53_0006F_00304_00301,
  0x01E54_00050_00301, 0x01E55_00070_00301, 0x01E56_00050_00307, 0x01E57_00070_00307,
  0x01E58_00052_00307, 0x01E59_00072_00307, 0x01E5A_00052_00323, 0x01E5B_00072_00323,
  0x01E5C_00052_00323_00304, 0x01E5D_00072_00323_00304, 0x01E5E_00052_00331,
  0x01E5F_00072_00331, 0x01E60_00053_00307, 0x01E61_00073_00307, 0x01E62_00053_00323,
  0x01E63_00073_00323, 0x01E64_00053_00301_00307, 0x01E65_00073_00301_00307,
  0x01E66_00053_0030C_00307, 0x01E67_00073_0030C_00307, 0x01E68_00053_00323_00307,
  0x01E69_00073_00323_00307, 0x01E6A_00054_00307, 0x01E6B_00074_00307, 0x01E6C_00054_00323,
  0x01E6D_00074_00323, 0x01E6E_00054_00331, 0x01E6F_00074_00331, 0x01E70_00054_0032D,
  0x01E71_00074_0032D, 0x01E72_00055_00324, 0x01E73_00075_00324, 0x01E74_00055_00330,
  0x01E75_00075_00330, 0x01E76_00055_0032D, 0x01E77_00075_0032D, 0x01E78_00055_00303_00301,
  0x01E79_00075_00303_00301, 0x01E7A_00055_00304_00308, 0x01E7B_00075_00304_00308,
  0x01E7C_00056_00303, 0x01E7D_00076_00303, 0x01E7E_00056_00323, 0x01E7F_00076_00323,
  0x01E80_00057_00300, 0x01E81_00077_00300, 0x01E82_00057_00301, 0x01E83_00077_00301,
  0x01E84_00057_00308, 0x01E85_00077_00308, 0x01E86_00057_00307, 0x01E87_00077_00307,
  0x01E88_00057_00323, 0x01E89_00077_00323, 0x01E8A_00058_00307, 0x01E8B_00078_00307,
  0x01E8C_00058_00308, 0x01E8D_00078_00308, 0x01E8E_00059_00307, 0x01E8F_00079_00307,
  0x01E90_0005A_00302, 0x01E91_0007A_00302, 0x01E92_0005A_00323, 0x01E93_0007A_00323,
  0x01E94_0005A_00331, 0x01E95_0007A_00331, 0x01E96_00068_00331, 0x01E97_00074_00308,
  0x01E98_00077_0030A, 0x01E99_00079_0030A, 0x01E9A_00061_002BE, 0x01E9B_00073_00307,
  0x01EA0_00041_00323, 0x01EA1_00061_00323, 0x01EA2_00041_00309, 0x01EA3_00061_00309,
  0x01EA4_00041_00302_00301, 0x01EA5_00061_00302_00301, 0x01EA6_00041_00302_00300,
  0x01EA7_00061_00302_00300, 0x01EA8_00041_00302_00309, 0x01EA9_00061_00302_00309,
  0x01EAA_00041_00302_00303, 0x01EAB_00061_00302_00303, 0x01EAC_00041_00323_00302,
  0x01EAD_00061_00323_00302, 0x01EAE_00041_00306_00301, 0x01EAF_00061_00306_00301,
  0x01EB0_00041_00306_00300, 0x01EB1_00061_00306_00300, 0x01EB2_00041_00306_00309,
  0x01EB3_00061_00306_00309, 0x01EB4_00041_00306_00303, 0x01EB5_00061_00306_00303,
  0x01EB6_00041_00323_00306, 0x01EB7_00061_00323_00306, 0x01EB8_00045_00323,
  0x01EB9_00065_00323, 0x01EBA_00045_00309, 0x01EBB_00065_00309, 0x01EBC_00045_00303,
  0x01EBD_00065_00303, 0x01EBE_00045_00302_00301, 0x01EBF_00065_00302_00301,
  0x01EC0_00045_00302_00300, 0x01EC1_00065_00302_00300, 0x01EC2_00045_00302_00309,
  0x01EC3_00065_00302_00309, 0x01EC4_00045_00302_00303, 0x01EC5_00065_00302_00303,
  0x01EC6_00045_00323_00302, 0x01EC7_00065_00323_00302, 0x01EC8_00049_00309,
  0x01EC9_00069_00309, 0x01ECA_00049_00323, 0x01ECB_00069_00323, 0x01ECC_0004F_00323,
  0x01ECD_0006F_00323, 0x01ECE_0004F_00309, 0x01ECF_0006F_00309, 0x01ED0_0004F_00302_00301,
  0x01ED1_0006F_00302_00301, 0x01ED2_0004F_00302_00300, 0x01ED3_0006F_00302_00300,
  0x01ED4_0004F_00302_00309, 0x01ED5_0006F_00302_00309, 0x01ED6_0004F_00302_00303,
  0x01ED7_0006F_00302_00303, 0x01ED8_0004F_00323_00302, 0x01ED9_0006F_00323_00302,
  0x01EDA_0004F_0031B_00301, 0x01EDB_0006F_0031B_00301, 0x01EDC_0004F_0031B_00300,
  0x01EDD_0006F_0031B_00300, 0x01EDE_0004F_0031B_00309, 0x01EDF_0006F_0031B_00309,
  0x01EE0_0004F_0031B_00303, 0x01EE1_0006F_0031B_00303, 0x01EE2_0004F_0031B_00323,
  0x01EE3_0006F_0031B_00323, 0x01EE4_00055_00323, 0x01EE5_00075_00323, 0x01EE6_00055_00309,
  0x01EE7_00075_00309, 0x01EE8_00055_0031B_00301, 0x01EE9_00075_0031B_00301,
  0x01EEA_00055_0031B_00300, 0x01EEB_00075_0031B_00300, 0x01EEC_00055_0031B_00309,
  0x01EED_00075_0031B_00309, 0x01EEE_00055_0031B_00303, 0x01EEF_00075_0031B_00303,
  0x01EF0_00055_0031B_00323, 0x01EF1_00075_0031B_00323, 0x01EF2_00059_00300,
  0x01EF3_00079_00300, 0x01EF4_00059_00323, 0x01EF5_00079_00323, 0x01EF6_00059_00309,
  0x01EF7_00079_00309, 0x01EF8_00059_00303, 0x01EF9_00079_00303, 0x01F00_003B1_00313,
  0x01F01_003B1_00314, 0x01F02_003B1_00313_00300, 0x01F03_003B1_00314_00300,
  0x01F04_003B1_00313_00301, 0x01F05_003B1_00314_00301, 0x01F06_003B1_00313_00342,
  0x01F07_003B1_00314_00342, 0x01F08_00391_00313, 0x01F09_00391_00314,
  0x01F0A_00391_00313_00300, 0x01F0B_00391_00314_00300, 0x01F0C_00391_00313_00301,
  0x01F0D_00391_00314_00301, 0x01F0E_00391_00313_00342, 0x01F0F_00391_00314_00342,
  0x01F10_003B5_00313, 0x01F11_003B5_00314, 0x01F12_003B5_00313_00300,
  0x01F13_003B5_00314_00300, 0x01F14_003B5_00313_00301, 0x01F15_003B5_00314_00301,
  0x01F18_00395_00313, 0x01F19_00395_00314, 0x01F1A_00395_00313_00300,
  0x01F1B_00395_00314_00300, 0x01F1C_00395_00313_00301, 0x01F1D_00395_00314_00301,
  0x01F20_003B7_00313, 0x01F21_003B7_00314, 0x01F22_003B7_00313_00300,
  0x01F23_003B7_00314_00300, 0x01F24_003B7_00313_00301, 0x01F25_003B7_00314_00301,
  0x01F26_003B7_00313_00342, 0x01F27_003B7_00314_00342, 0x01F28_00397_00313,
  0x01F29_00397_00314, 0x01F2A_00397_00313_00300, 0x01F2B_00397_00314_00300,
  0x01F2C_00397_00313_00301, 0x01F2D_00397_00314_00301, 0x01F2E_00397_00313_00342,
  0x01F2F_00397_00314_00342, 0x01F30_003B9_00313, 0x01F31_003B9_00314,
  0x01F32_003B9_00313_00300, 0x01F33_003B9_00314_00300, 0x01F34_003B9_00313_00301,
  0x01F35_003B9_00314_00301, 0x01F36_003B9_00313_00342, 0x01F37_003B9_00314_00342,
  0x01F38_00399_00313, 0x01F39_00399_00314, 0x01F3A_00399_00313_00300,
  0x01F3B_00399_00314_00300, 0x01F3C_00399_00313_00301, 0x01F3D_00399_00314_00301,
  0x01F3E_00399_00313_00342, 0x01F3F_00399_00314_00342, 0x01F40_003BF_00313,
  0x01F41_003BF_00314, 0x01F42_003BF_00313_00300, 0x01F43_003BF_00314_00300,
  0x01F44_003BF_00313_00301, 0x01F45_003BF_00314_00301, 0x01F48_0039F_00313,
  0x01F49_0039F_00314, 0x01F4A_0039F_00313_00300, 0x01F4B_0039F_00314_00300,
  0x01F4C_0039F_00313_00301, 0x01F4D_0039F_00314_00301, 0x01F50_003C5_00313,
  0x01F51_003C5_00314, 0x01F52_003C5_00313_00300, 0x01F53_003C5_00314_00300,
  0x01F54_003C5_00313_00301, 0x01F55_003C5_00314_00301, 0x01F56_003C5_00313_00342,
  0x01F57_003C5_00314_00342, 0x01F59_003A5_00314, 0x01F5B_003A5_00314_00300,
  0x01F5D_003A5_00314_00301, 0x01F5F_003A5_00314_00342, 0x01F60_003C9_00313,
  0x01F61_003C9_00314, 0x01F62_003C9_00313_00300, 0x01F63_003C9_00314_00300,
  0x01F64_003C9_00313_00301, 0x01F65_003C9_00314_00301, 0x01F66_003C9_00313_00342,
  0x01F67_003C9_00314_00342, 0x01F68_003A9_00313, 0x01F69_003A9_00314,
  0x01F6A_003A9_00313_00300, 0x01F6B_003A9_00314_00300, 0x01F6C_003A9_00313_00301,
  0x01F6D_003A9_00314_00301, 0x01F6E_003A9_00313_00342, 0x01F6F_003A9_00314_00342,
  0x01F70_003B1_00300, 0x01F71_003B1_00301, 0x01F72_003B5_00300, 0x01F73_003B5_00301,
  0x01F74_003B7_00300, 0x01F75_003B7_00301, 0x01F76_003B9_00300, 0x01F77_003B9_00301,
  0x01F78_003BF_00300, 0x01F79_003BF_00301, 0x01F7A_003C5_00300, 0x01F7B_003C5_00301,
  0x01F7C_003C9_00300, 0x01F7D_003C9_00301, 0x01F80_003B1_00313_00345,
  0x01F81_003B1_00314_00345, 0x01F82_003B1_00313_00300_00345, 0x01F83_003B1_00314_00300_00345,
  0x01F84_003B1_00313_00301_00345, 0x01F85_003B1_00314_00301_00345,
  0x01F86_003B1_00313_00342_00345, 0x01F87_003B1_00314_00342_00345, 0x01F88_00391_00313_00345,
  0x01F89_00391_00314_00345, 0x01F8A_00391_00313_00300_00345, 0x01F8B_00391_00314_00300_00345,
  0x01F8C_00391_00313_00301_00345, 0x01F8D_00391_00314_00301_00345,
  0x01F8E_00391_00313_00342_00345, 0x01F8F_00391_00314_00342_00345, 0x01F90_003B7_00313_00345,
  0x01F91_003B7_00314_00345, 0x01F92_003B7_00313_00300_00345, 0x01F93_003B7_00314_00300_00345,
  0x01F94_003B7_00313_00301_00345, 0x01F95_003B7_00314_00301_00345,
  0x01F96_003B7_00313_00342_00345, 0x01F97_003B7_00314_00342_00345, 0x01F98_00397_00313_00345,
  0x01F99_00397_00314_00345, 0x01F9A_00397_00313_00300_00345, 0x01F9B_00397_00314_00300_00345,
  0x01F9C_00397_00313_00301_00345, 0x01F9D_00397_00314_00301_00345,
  0x01F9E_00397_00313_00342_00345, 0x01F9F_00397_00314_00342_00345, 0x01FA0_003C9_00313_00345,
  0x01FA1_003C9_00314_00345, 0x01FA2_003C9_00313_00300_00345, 0x01FA3_003C9_00314_00300_00345,
  0x01FA4_003C9_00313_00301_00345, 0x01FA5_003C9_00314_00301_00345,
  0x01FA6_003C9_00313_00342_00345, 0x01FA7_003C9_00314_00342_00345, 0x01FA8_003A9_00313_00345,
  0x01FA9_003A9_00314_00345, 0x01FAA_003A9_00313_00300_00345, 0x01FAB_003A9_00314_00300_00345,
  0x01FAC_003A9_00313_00301_00345, 0x01FAD_003A9_00314_00301_00345,
  0x01FAE_003A9_00313_00342_00345, 0x01FAF_003A9_00314_00342_00345, 0x01FB0_003B1_00306,
  0x01FB1_003B1_00304, 0x01FB2_003B1_00300_00345, 0x01FB3_003B1_00345,
  0x01FB4_003B1_00301_00345, 0x01FB6_003B1_00342, 0x01FB7_003B1_00342_00345,
  0x01FB8_00391_00306, 0x01FB9_00391_00304, 0x01FBA_00391_00300, 0x01FBB_00391_00301,
  0x01FBC_00391_00345, 0x01FBD_00020_00313, 0x01FBE_003B9, 0x01FBF_00020_00313,
  0x01FC0_00020_00342, 0x01FC1_00020_00308_00342, 0x01FC2_003B7_00300_00345,
  0x01FC3_003B7_00345, 0x01FC4_003B7_00301_00345, 0x01FC6_003B7_00342,
  0x01FC7_003B7_00342_00345, 0x01FC8_00395_00300, 0x01FC9_00395_00301, 0x01FCA_00397_00300,
  0x01FCB_00397_00301, 0x01FCC_00397_00345, 0x01FCD_00020_00313_00300,
  0x01FCE_00020_00313_00301, 0x01FCF_00020_00313_00342, 0x01FD0_003B9_00306,
  0x01FD1_003B9_00304, 0x01FD2_003B9_00308_00300, 0x01FD3_003B9_00308_00301,
  0x01FD6_003B9_00342, 0x01FD7_003B9_00308_00342, 0x01FD8_00399_00306, 0x01FD9_00399_00304,
  0x01FDA_00399_00300, 0x01FDB_00399_00301, 0x01FDD_00020_00314_00300,
  0x01FDE_00020_00314_00301, 0x01FDF_00020_00314_00342, 0x01FE0_003C5_00306,
  0x01FE1_003C5_00304, 0x01FE2_003C5_00308_00300, 0x01FE3_003C5_00308_00301,
  0x01FE4_003C1_00313, 0x01FE5_003C1_00314, 0x01FE6_003C5_00342, 0x01FE7_003C5_00308_00342,
  0x01FE8_003A5_00306, 0x01FE9_003A5_00304, 0x01FEA_003A5_00300, 0x01FEB_003A5_00301,
  0x01FEC_003A1_00314, 0x01FED_00020_00308_00300, 0x01FEE_00020_00308_00301, 0x01FEF_00060,
  0x01FF2_003C9_00300_00345, 0x01FF3_003C9_00345, 0x01FF4_003C9_00301_00345,
  0x01FF6_003C9_00342, 0x01FF7_003C9_00342_00345, 0x01FF8_0039F_00300, 0x01FF9_0039F_00301,
  0x01FFA_003A9_00300, 0x01FFB_003A9_00301, 0x01FFC_003A9_00345, 0x01FFD_00020_00301,
  0x01FFE_00020_00314, 0x02000_00020, 0x02001_00020, 0x02002_00020, 0x02003_00020,
  0x02004_00020, 0x02005_00020, 0x02006_00020, 0x02007_00020, 0x02008_00020, 0x02009_00020,
  0x0200A_00020, 0x02011_02010, 0x02017_00020_00333, 0x02024_0002E, 0x02025_0002E_0002E,
  0x02026_0002E_0002E_0002E, 0x0202F_00020, 0x02033_02032_02032, 0x02034_02032_02032_02032,
  0x02036_02035_02035, 0x02037_02035_02035_02035, 0x0203C_00021_00021, 0x0203E_00020_00305,
  0x02047_0003F_0003F, 0x02048_0003F_00021, 0x02049_00021_0003F,
  0x02057_02032_02032_02032_02032, 0x0205F_00020, 0x02070_00030, 0x02071_00069, 0x0207A_0002B,
  0x0207B_02212, 0x0207C_0003D, 0x0207D_00028, 0x0207E_00029, 0x0207F_0006E, 0x0208A_0002B,
  0x0208B_02212, 0x0208C_0003D, 0x0208D_00028, 0x0208E_00029, 0x02090_00061, 0x02091_00065,
  0x02092_0006F, 0x02093_00078, 0x02094_00259, 0x02095_00068, 0x0209A_00070, 0x0209B_00073,
  0x0209C_00074, 0x020A8_00052_00073, 0x02100_00061_0002F_00063, 0x02101_00061_0002F_00073,
  0x02102_00043, 0x02103_000B0_00043, 0x02105_00063_0002F_0006F, 0x02106_00063_0002F_00075,
  0x02107_00190, 0x02109_000B0_00046, 0x0210A_00067, 0x0210B_00048, 0x0210C_00048,
  0x0210D_00048, 0x0210E_00068, 0x0210F_00127, 0x02110_00049, 0x02111_00049, 0x02112_0004C,
  0x02113_0006C, 0x02115_0004E, 0x02116_0004E_0006F, 0x0211C_00052, 0x0211D_00052,
  0x02120_00053_0004D, 0x02121_00054_00045_0004C, 0x02122_00054_0004D, 0x02124_0005A,
  0x02126_003A9, 0x02128_0005A, 0x0212A_0004B, 0x0212B_00041_0030A, 0x0212C_00042,
  0x0212D_00043, 0x0212F_00065, 0x02130_00045, 0x02131_00046, 0x02133_0004D, 0x02134_0006F,
  0x02139_00069, 0x0213B_00046_00041_00058, 0x0213C_003C0, 0x0213D_003B3, 0x0213E_00393,
  0x0213F_003A0, 0x02140_02211, 0x02145_00044, 0x02146_00064, 0x02147_00065, 0x02148_00069,
  0x02149_0006A, 0x02150_00031_02044_00037, 0x02151_00031_02044_00039,
  0x02152_00031_02044_00031_00030, 0x02153_00031_02044_00033, 0x02154_00032_02044_00033,
  0x02155_00031_02044_00035, 0x02156_00032_02044_00035, 0x02157_00033_02044_00035,
  0x02158_00034_02044_00035, 0x02159_00031_02044_00036, 0x0215A_00035_02044_00036,
  0x0215B_00031_02044_00038, 0x0215C_00033_02044_00038, 0x0215D_00035_02044_00038,
  0x0215E_00037_02044_00038, 0x0215F_00031_02044, 0x02160_00049, 0x02161_00049_00049,
  0x02162_00049_00049_00049, 0x02163_00049_00056, 0x02164_00056, 0x02165_00056_00049,
  0x02166_00056_00049_00049, 0x02167_00056_00049_00049_00049, 0x02168_00049_00058,
  0x02169_00058, 0x0216A_00058_00049, 0x0216B_00058_00049_00049, 0x0216C_0004C, 0x0216D_00043,
  0x0216E_00044, 0x0216F_0004D, 0x02170_00069, 0x02171_00069_00069, 0x02172_00069_00069_00069,
  0x02173_00069_00076, 0x02174_00076, 0x02175_00076_00069, 0x02176_00076_00069_00069,
  0x02177_00076_00069_00069_00069, 0x02178_00069_00078, 0x02179_00078, 0x0217A_00078_00069,
  0x0217B_00078_00069_00069, 0x0217C_0006C, 0x0217D_00063, 0x0217E_00064, 0x0217F_0006D,
  0x02189_00030_02044_00033, 0x0219A_02190_00338, 0x0219B_02192_00338, 0x021AE_02194_00338,
  0x021CD_021D0_00338, 0x021CE_021D4_00338, 0x021CF_021D2_00338, 0x02204_02203_00338,
  0x02209_02208_00338, 0x0220C_0220B_00338, 0x02224_02223_00338, 0x02226_02225_00338,
  0x0222C_0222B_0222B, 0x0222D_0222B_0222B_0222B, 0x0222F_0222E_0222E,
  0x02230_0222E_0222E_0222E, 0x02241_0223C_00338, 0x02244_02243_00338, 0x02247_02245_00338,
  0x02249_02248_00338, 0x02260_0003D_00338, 0x02262_02261_00338, 0x0226D_0224D_00338,
  0x0226E_0003C_00338, 0x0226F_0003E_00338, 0x02270_02264_00338, 0x02271_02265_00338,
  0x02274_02272_00338, 0x02275_02273_00338, 0x02278_02276_00338, 0x02279_02277_00338,
  0x02280_0227A_00338, 0x02281_0227B_00338, 0x02284_02282_00338, 0x02285_02283_00338,
  0x02288_02286_00338, 0x02289_02287_00338, 0x022AC_022A2_00338, 0x022AD_022A8_00338,
  0x022AE_022A9_00338, 0x022AF_022AB_00338, 0x022E0_0227C_00338, 0x022E1_0227D_00338,
  0x022E2_02291_00338, 0x022E3_02292_00338, 0x022EA_022B2_00338, 0x022EB_022B3_00338,
  0x022EC_022B4_00338, 0x022ED_022B5_00338, 0x02329_03008, 0x0232A_03009, 0x02469_00031_00030,
  0x0246A_00031_00031, 0x0246B_00031_00032, 0x0246C_00031_00033, 0x0246D_00031_00034,
  0x0246E_00031_00035, 0x0246F_00031_00036, 0x02470_00031_00037, 0x02471_00031_00038,
  0x02472_00031_00039, 0x02473_00032_00030, 0x02474_00028_00031_00029,
  0x02475_00028_00032_00029, 0x02476_00028_00033_00029, 0x02477_00028_00034_00029,
  0x02478_00028_00035_00029, 0x02479_00028_00036_00029, 0x0247A_00028_00037_00029,
  0x0247B_00028_00038_00029, 0x0247C_00028_00039_00029, 0x0247D_00028_00031_00030_00029,
  0x0247E_00028_00031_00031_00029, 0x0247F_00028_00031_00032_00029,
  0x02480_00028_00031_00033_00029, 0x02481_00028_00031_00034_00029,
  0x02482_00028_00031_00035_00029, 0x02483_00028_00031_00036_00029,
  0x02484_00028_00031_00037_00029, 0x02485_00028_00031_00038_00029,
  0x02486_00028_00031_00039_00029, 0x02487_00028_00032_00030_00029, 0x02488_00031_0002E,
  0x02489_00032_0002E, 0x0248A_00033_0002E, 0x0248B_00034_0002E, 0x0248C_00035_0002E,
  0x0248D_00036_0002E, 0x0248E_00037_0002E, 0x0248F_00038_0002E, 0x02490_00039_0002E,
  0x02491_00031_00030_0002E, 0x02492_00031_00031_0002E, 0x02493_00031_00032_0002E,
  0x02494_00031_00033_0002E, 0x02495_00031_00034_0002E, 0x02496_00031_00035_0002E,
  0x02497_00031_00036_0002E, 0x02498_00031_00037_0002E, 0x02499_00031_00038_0002E,
  0x0249A_00031_00039_0002E, 0x0249B_00032_00030_0002E, 0x0249C_00028_00061_00029,
  0x0249D_00028_00062_00029, 0x0249E_00028_00063_00029, 0x0249F_00028_00064_00029,
  0x024A0_00028_00065_00029, 0x024A1_00028_00066_00029, 0x024A2_00028_00067_00029,
  0x024A3_00028_00068_00029, 0x024A4_00028_00069_00029, 0x024A5_00028_0006A_00029,
  0x024A6_00028_0006B_00029, 0x024A7_00028_0006C_00029, 0x024A8_00028_0006D_00029,
  0x024A9_00028_0006E_00029, 0x024AA_00028_0006F_00029, 0x024AB_00028_00070_00029,
  0x024AC_00028_00071_00029, 0x024AD_00028_00072_00029, 0x024AE_00028_00073_00029,
  0x024AF_00028_00074_00029, 0x024B0_00028_00075_00029, 0x024B1_00028_00076_00029,
  0x024B2_00028_00077_00029, 0x024B3_00028_00078_00029, 0x024B4_00028_00079_00029,
  0x024B5_00028_0007A_00029, 0x024EA_00030, 0x02A0C_0222B_0222B_0222B_0222B,
  0x02A74_0003A_0003A_0003D, 0x02A75_0003D_0003D, 0x02A76_0003D_0003D_0003D,
  0x02ADC_02ADD_00338, 0x02C7C_0006A, 0x02C7D_00056, 0x02D6F_02D61, 0x02E9F_06BCD,
  0x02EF3_09F9F, 0x02F00_04E00, 0x02F01_04E28, 0x02F02_04E36, 0x02F03_04E3F, 0x02F04_04E59,
  0x02F05_04E85, 0x02F06_04E8C, 0x02F07_04EA0, 0x02F08_04EBA, 0x02F09_0513F, 0x02F0A_05165,
  0x02F0B_0516B, 0x02F0C_05182, 0x02F0D_05196, 0x02F0E_051AB, 0x02F0F_051E0, 0x02F10_051F5,
  0x02F11_05200, 0x02F12_0529B, 0x02F13_052F9, 0x02F14_05315, 0x02F15_0531A, 0x02F16_05338,
  0x02F17_05341, 0x02F18_0535C, 0x02F19_05369, 0x02F1A_05382, 0x02F1B_053B6, 0x02F1C_053C8,
  0x02F1D_053E3, 0x02F1E_056D7, 0x02F1F_0571F, 0x02F20_058EB, 0x02F21_05902, 0x02F22_0590A,
  0x02F23_05915, 0x02F24_05927, 0x02F25_05973, 0x02F26_05B50, 0x02F27_05B80, 0x02F28_05BF8,
  0x02F29_05C0F, 0x02F2A_05C22, 0x02F2B_05C38, 0x02F2C_05C6E, 0x02F2D_05C71, 0x02F2E_05DDB,
  0x02F2F_05DE5, 0x02F30_05DF1, 0x02F31_05DFE, 0x02F32_05E72, 0x02F33_05E7A, 0x02F34_05E7F,
  0x02F35_05EF4, 0x02F36_05EFE, 0x02F37_05F0B, 0x02F38_05F13, 0x02F39_05F50, 0x02F3A_05F61,
  0x02F3B_05F73, 0x02F3C_05FC3, 0x02F3D_06208, 0x02F3E_06236, 0x02F3F_0624B, 0x02F40_0652F,
  0x02F41_06534, 0x02F42_06587, 0x02F43_06597, 0x02F44_065A4, 0x02F45_065B9, 0x02F46_065E0,
  0x02F47_065E5, 0x02F48_066F0, 0x02F49_06708, 0x02F4A_06728, 0x02F4B_06B20, 0x02F4C_06B62,
  0x02F4D_06B79, 0x02F4E_06BB3, 0x02F4F_06BCB, 0x02F50_06BD4, 0x02F51_06BDB, 0x02F52_06C0F,
  0x02F53_06C14, 0x02F54_06C34, 0x02F55_0706B, 0x02F56_0722A, 0x02F57_07236, 0x02F58_0723B,
  0x02F59_0723F, 0x02F5A_07247, 0x02F5B_07259, 0x02F5C_0725B, 0x02F5D_072AC, 0x02F5E_07384,
  0x02F5F_07389, 0x02F60_074DC, 0x02F61_074E6, 0x02F62_07518, 0x02F63_0751F, 0x02F64_07528,
  0x02F65_07530, 0x02F66_0758B, 0x02F67_07592, 0x02F68_07676, 0x02F69_0767D, 0x02F6A_076AE,
  0x02F6B_076BF, 0x02F6C_076EE, 0x02F6D_077DB, 0x02F6E_077E2, 0x02F6F_077F3, 0x02F70_0793A,
  0x02F71_079B8, 0x02F72_079BE, 0x02F73_07A74, 0x02F74_07ACB, 0x02F75_07AF9, 0x02F76_07C73,
  0x02F77_07CF8, 0x02F78_07F36, 0x02F79_07F51, 0x02F7A_07F8A, 0x02F7B_07FBD, 0x02F7C_08001,
  0x02F7D_0800C, 0x02F7E_08012, 0x02F7F_08033, 0x02F80_0807F, 0x02F81_08089, 0x02F82_081E3,
  0x02F83_081EA, 0x02F84_081F3, 0x02F85_081FC, 0x02F86_0820C, 0x02F87_0821B, 0x02F88_0821F,
  0x02F89_0826E, 0x02F8A_08272, 0x02F8B_08278, 0x02F8C_0864D, 0x02F8D_0866B, 0x02F8E_08840,
  0x02F8F_0884C, 0x02F90_08863, 0x02F91_0897E, 0x02F92_0898B, 0x02F93_089D2, 0x02F94_08A00,
  0x02F95_08C37, 0x02F96_08C46, 0x02F97_08C55, 0x02F98_08C78, 0x02F99_08C9D, 0x02F9A_08D64,
  0x02F9B_08D70, 0x02F9C_08DB3, 0x02F9D_08EAB, 0x02F9E_08ECA, 0x02F9F_08F9B, 0x02FA0_08FB0,
  0x02FA1_08FB5, 0x02FA2_09091, 0x02FA3_09149, 0x02FA4_091C6, 0x02FA5_091CC, 0x02FA6_091D1,
  0x02FA7_09577, 0x02FA8_09580, 0x02FA9_0961C, 0x02FAA_096B6, 0x02FAB_096B9, 0x02FAC_096E8,
  0x02FAD_09751, 0x02FAE_0975E, 0x02FAF_09762, 0x02FB0_09769, 0x02FB1_097CB, 0x02FB2_097ED,
  0x02FB3_097F3, 0x02FB4_09801, 0x02FB5_098A8, 0x02FB6_098DB, 0x02FB7_098DF, 0x02FB8_09996,
  0x02FB9_09999, 0x02FBA_099AC, 0x02FBB_09AA8, 0x02FBC_09AD8, 0x02FBD_09ADF, 0x02FBE_09B25,
  0x02FBF_09B2F, 0x02FC0_09B32, 0x02FC1_09B3C, 0x02FC2_09B5A, 0x02FC3_09CE5, 0x02FC4_09E75,
  0x02FC5_09E7F, 0x02FC6_09EA5, 0x02FC7_09EBB, 0x02FC8_09EC3, 0x02FC9_09ECD, 0x02FCA_09ED1,
  0x02FCB_09EF9, 0x02FCC_09EFD, 0x02FCD_09F0E, 0x02FCE_09F13, 0x02FCF_09F20, 0x02FD0_09F3B,
  0x02FD1_09F4A, 0x02FD2_09F52, 0x02FD3_09F8D, 0x02FD4_09F9C, 0x02FD5_09FA0]

end PriceSurvey.Text
