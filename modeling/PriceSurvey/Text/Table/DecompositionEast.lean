/-!
# Compatibility decompositions, characters from U+3000 to U+FAFF

Each number is one row: five hexadecimal digits a code point, the character first and then the
code points of its full compatibility decomposition (Unicode 17).
-/
namespace PriceSurvey.Text

set_option maxRecDepth 4000 in
/-- Packed decompositions of characters from U+3000 to U+FAFF, in ascending order. -/
def packedEast : List Nat := [
  0x03000_00020, 0x03036_03012, 0x03038_05341, 0x03039_05344, 0x0303A_05345,
  0x0304C_0304B_03099, 0x0304E_0304D_03099, 0x03050_0304F_03099, 0x03052_03051_03099,
  0x03054_03053_03099, 0x03056_03055_03099, 0x03058_03057_03099, 0x0305A_03059_03099,
  0x0305C_0305B_03099, 0x0305E_0305D_03099, 0x03060_0305F_03099, 0x03062_03061_03099,
  0x03065_03064_03099, 0x03067_03066_03099, 0x03069_03068_03099, 0x03070_0306F_03099,
  0x03071_0306F_0309A, 0x03073_03072_03099, 0x03074_03072_0309A, 0x03076_03075_03099,
  0x03077_03075_0309A, 0x03079_03078_03099, 0x0307A_03078_0309A, 0x0307C_0307B_03099,
  0x0307D_0307B_0309A, 0x03094_03046_03099, 0x0309B_00020_03099, 0x0309C_00020_0309A,
  0x0309E_0309D_03099, 0x0309F_03088_0308A, 0x030AC_030AB_03099, 0x030AE_030AD_03099,
  0x030B0_030AF_03099, 0x030B2_030B1_03099, 0x030B4_030B3_03099, 0x030B6_030B5_03099,
  0x030B8_030B7_03099, 0x030BA_030B9_03099, 0x030BC_030BB_03099, 0x030BE_030BD_03099,
  0x030C0_030BF_03099, 0x030C2_030C1_03099, 0x030C5_030C4_03099, 0x030C7_030C6_03099,
  0x030C9_030C8_03099, 0x030D0_030CF_03099, 0x030D1_030CF_0309A, 0x030D3_030D2_03099,
  0x030D4_030D2_0309A, 0x030D6_030D5_03099, 0x030D7_030D5_0309A, 0x030D9_030D8_03099,
  0x030DA_030D8_0309A, 0x030DC_030DB_03099, 0x030DD_030DB_0309A, 0x030F4_030A6_03099,
  0x030F7_030EF_03099, 0x030F8_030F0_03099, 0x030F9_030F1_03099, 0x030FA_030F2_03099,
  0x030FE_030FD_03099, 0x030FF_030B3_030C8, 0x03131_01100, 0x03132_01101, 0x03133_011AA,
  0x03134_01102, 0x03135_011AC, 0x03136_011AD, 0x03140_0111A, 0x03144_01121, 0x03164_01160,
  0x03165_01114, 0x03166_01115, 0x03167_011C7, 0x03168_011C8, 0x03169_011CC, 0x0316A_011CE,
  0x0316B_011D3, 0x0316C_011D7, 0x0316D_011D9, 0x0316E_0111C, 0x0316F_011DD, 0x03170_011DF,
  0x03171_0111D, 0x03172_0111E, 0x03173_01120, 0x03174_01122, 0x03175_01123, 0x03176_01127,
  0x03177_01129, 0x0317D_01132, 0x0317E_01136, 0x0317F_01140, 0x03180_01147, 0x03181_0114C,
  0x03182_011F1, 0x03183_011F2, 0x03187_01184, 0x03188_01185, 0x03189_01188, 0x0318A_01191,
  0x0318B_01192, 0x0318C_01194, 0x0318D_0119E, 0x0318E_011A1, 0x03192_04E00, 0x03193_04E8C,
  0x03194_04E09, 0x03195_056DB, 0x03196_04E0A, 0x03197_04E2D, 0x03198_04E0B, 0x03199_07532,
  0x0319A_04E59, 0x0319B_04E19, 0x0319C_04E01, 0x0319D_05929, 0x0319E_05730, 0x0319F_04EBA,
  0x03200_00028_01100_00029, 0x03201_00028_01102_00029, 0x03202_00028_01103_00029,
  0x03203_00028_01105_00029, 0x03204_00028_01106_00029, 0x03205_00028_01107_00029,
  0x03206_00028_01109_00029, 0x03207_00028_0110B_00029, 0x03208_00028_0110C_00029,
  0x03209_00028_0110E_00029, 0x0320A_00028_0110F_00029, 0x0320B_00028_01110_00029,
  0x0320C_00028_01111_00029, 0x0320D_00028_01112_00029, 0x0320E_00028_01100_01161_00029,
  0x0320F_00028_01102_01161_00029, 0x03210_00028_01103_01161_00029,
  0x03211_00028_01105_01161_00029, 0x03212_00028_01106_01161_00029,
  0x03213_00028_01107_01161_00029, 0x03214_00028_01109_01161_00029,
  0x03215_00028_0110B_01161_00029, 0x03216_00028_0110C_01161_00029,
  0x03217_00028_0110E_01161_00029, 0x03218_00028_0110F_01161_00029,
  0x03219_00028_01110_01161_00029, 0x0321A_00028_01111_01161_00029,
  0x0321B_00028_01112_01161_00029, 0x0321C_00028_0110C_0116E_00029,
  0x0321D_00028_0110B_01169_0110C_01165_011AB_00029,
  0x0321E_00028_0110B_01169_01112_0116E_00029, 0x03220_00028_04E00_00029,
  0x03221_00028_04E8C_00029, 0x03222_00028_04E09_00029, 0x03223_00028_056DB_00029,
  0x03224_00028_04E94_00029, 0x03225_00028_0516D_00029, 0x03226_00028_04E03_00029,
  0x03227_00028_0516B_00029, 0x03228_00028_04E5D_00029, 0x03229_00028_05341_00029,
  0x0322A_00028_06708_00029, 0x0322B_00028_0706B_00029, 0x0322C_00028_06C34_00029,
  0x0322D_00028_06728_00029, 0x0322E_00028_091D1_00029, 0x0322F_00028_0571F_00029,
  0x03230_00028_065E5_00029, 0x03231_00028_0682A_00029, 0x03232_00028_06709_00029,
  0x03233_00028_0793E_00029, 0x03234_00028_0540D_00029, 0x03235_00028_07279_00029,
  0x03236_00028_08CA1_00029, 0x03237_00028_0795D_00029, 0x03238_00028_052B4_00029,
  0x03239_00028_04EE3_00029, 0x0323A_00028_0547C_00029, 0x0323B_00028_05B66_00029,
  0x0323C_00028_076E3_00029, 0x0323D_00028_04F01_00029, 0x0323E_00028_08CC7_00029,
  0x0323F_00028_05354_00029, 0x03240_00028_0796D_00029, 0x03241_00028_04F11_00029,
  0x03242_00028_081EA_00029, 0x03243_00028_081F3_00029, 0x03244_0554F, 0x03245_05E7C,
  0x03246_06587, 0x03247_07B8F, 0x03250_00050_00054_00045, 0x03251_00032_00031,
  0x03252_00032_00032, 0x03253_00032_00033, 0x03254_00032_00034, 0x03255_00032_00035,
  0x03256_00032_00036, 0x03257_00032_00037, 0x03258_00032_00038, 0x03259_00032_00039,
  0x0325A_00033_00030, 0x0325B_00033_00031, 0x0325C_00033_00032, 0x0325D_00033_00033,
  0x0325E_00033_00034, 0x0325F_00033_00035, 0x03260_01100, 0x03261_01102, 0x03262_01103,
  0x03266_01109, 0x03267_0110B, 0x03268_0110C, 0x0326E_01100_01161, 0x0326F_01102_01161,
  0x03270_01103_01161, 0x03271_01105_01161, 0x03272_01106_01161, 0x03273_01107_01161,
  0x03274_01109_01161, 0x03275_0110B_01161, 0x03276_0110C_01161, 0x03277_0110E_01161,
  0x03278_0110F_01161, 0x03279_01110_01161, 0x0327A_01111_01161, 0x0327B_01112_01161,
  0x0327C_0110E_01161_011B7_01100_01169, 0x0327D_0110C_0116E_0110B_01174, 0x0327E_0110B_0116E,
  0x03280_04E00, 0x03281_04E8C, 0x03282_04E09, 0x03283_056DB, 0x03284_04E94, 0x03285_0516D,
  0x03286_04E03, 0x03287_0516B, 0x03288_04E5D, 0x03289_05341, 0x0328A_06708, 0x0328B_0706B,
  0x0328C_06C34, 0x0328D_06728, 0x0328E_091D1, 0x0328F_0571F, 0x03290_065E5, 0x03291_0682A,
  0x03292_06709, 0x03293_0793E, 0x03294_0540D, 0x03295_07279, 0x03296_08CA1, 0x03297_0795D,
  0x03298_052B4, 0x03299_079D8, 0x0329A_07537, 0x0329B_05973, 0x0329C_09069, 0x0329D_0512A,
  0x0329E_05370, 0x0329F_06CE8, 0x032A0_09805, 0x032A1_04F11, 0x032A2_05199, 0x032A3_06B63,
  0x032A4_04E0A, 0x032A5_04E2D, 0x032A6_04E0B, 0x032A7_05DE6, 0x032A8_053F3, 0x032A9_0533B,
  0x032AA_05B97, 0x032AB_05B66, 0x032AC_076E3, 0x032AD_04F01, 0x032AE_08CC7, 0x032AF_05354,
  0x032B0_0591C, 0x032B1_00033_00036, 0x032B2_00033_00037, 0x032B3_00033_00038,
  0x032B4_00033_00039, 0x032B5_00034_00030, 0x032B6_00034_00031, 0x032B7_00034_00032,
  0x032B8_00034_00033, 0x032B9_00034_00034, 0x032BA_00034_00035, 0x032BB_00034_00036,
  0x032BC_00034_00037, 0x032BD_00034_00038, 0x032BE_00034_00039, 0x032BF_00035_00030,
  0x032C0_00031_06708, 0x032C1_00032_06708, 0x032C2_00033_06708, 0x032C3_00034_06708,
  0x032C4_00035_06708, 0x032C5_00036_06708, 0x032C6_00037_06708, 0x032C7_00038_06708,
  0x032C8_00039_06708, 0x032C9_00031_00030_06708, 0x032CA_00031_00031_06708,
  0x032CB_00031_00032_06708, 0x032CC_00048_00067, 0x032CD_00065_00072_00067,
  0x032CE_00065_00056, 0x032CF_0004C_00054_00044, 0x032D0_030A2, 0x032D1_030A4, 0x032D2_030A6,
  0x032D3_030A8, 0x032D4_030AA, 0x032D5_030AB, 0x032D6_030AD, 0x032D7_030AF, 0x032D8_030B1,
  0x032D9_030B3, 0x032DA_030B5, 0x032DB_030B7, 0x032DC_030B9, 0x032DD_030BB, 0x032DE_030BD,
  0x032DF_030BF, 0x032E0_030C1, 0x032E1_030C4, 0x032E2_030C6, 0x032E3_030C8, 0x032EA_030D2,
  0x032EB_030D5, 0x032EC_030D8, 0x032ED_030DB, 0x032F3_030E4, 0x032F4_030E6,
  0x032FF_04EE4_0548C, 0x03300_030A2_030CF_0309A_030FC_030C8, 0x03301_030A2_030EB_030D5_030A1,
  0x03302_030A2_030F3_030D8_0309A_030A2, 0x03303_030A2_030FC_030EB,
  0x03304_030A4_030CB_030F3_030AF_03099, 0x03305_030A4_030F3_030C1, 0x03306_030A6_030A9_030F3,
  0x03307_030A8_030B9_030AF_030FC_030C8_03099, 0x03308_030A8_030FC_030AB_030FC,
  0x03309_030AA_030F3_030B9, 0x0330A_030AA_030FC_030E0, 0x0330B_030AB_030A4_030EA,
  0x0330C_030AB_030E9_030C3_030C8, 0x0330D_030AB_030ED_030EA_030FC,
  0x0330E_030AB_03099_030ED_030F3, 0x0330F_030AB_03099_030F3_030DE,
  0x03310_030AD_03099_030AB_03099, 0x03311_030AD_03099_030CB_030FC,
  0x03312_030AD_030E5_030EA_030FC, 0x03313_030AD_03099_030EB_030BF_03099_030FC,
  0x03314_030AD_030ED, 0x03315_030AD_030ED_030AF_03099_030E9_030E0,
  0x03316_030AD_030ED_030E1_030FC_030C8_030EB, 0x03317_030AD_030ED_030EF_030C3_030C8,
  0x03318_030AF_03099_030E9_030E0, 0x03319_030AF_03099_030E9_030E0_030C8_030F3,
  0x0331A_030AF_030EB_030BB_03099_030A4_030ED, 0x0331B_030AF_030ED_030FC_030CD,
  0x0331C_030B1_030FC_030B9, 0x0331D_030B3_030EB_030CA, 0x0331E_030B3_030FC_030DB_0309A,
  0x0331F_030B5_030A4_030AF_030EB, 0x03320_030B5_030F3_030C1_030FC_030E0,
  0x03321_030B7_030EA_030F3_030AF_03099, 0x03322_030BB_030F3_030C1, 0x03323_030BB_030F3_030C8,
  0x03324_030BF_03099_030FC_030B9, 0x03325_030C6_03099_030B7, 0x03326_030C8_03099_030EB,
  0x03327_030C8_030F3, 0x03328_030CA_030CE, 0x03329_030CE_030C3_030C8,
  0x0332A_030CF_030A4_030C4, 0x0332B_030CF_0309A_030FC_030BB_030F3_030C8,
  0x0332C_030CF_0309A_030FC_030C4, 0x0332D_030CF_03099_030FC_030EC_030EB,
  0x0332E_030D2_0309A_030A2_030B9_030C8_030EB, 0x0332F_030D2_0309A_030AF_030EB,
  0x03330_030D2_0309A_030B3, 0x03331_030D2_03099_030EB,
  0x03332_030D5_030A1_030E9_030C3_030C8_03099, 0x03333_030D5_030A3_030FC_030C8,
  0x03334_030D5_03099_030C3_030B7_030A7_030EB, 0x03335_030D5_030E9_030F3,
  0x03336_030D8_030AF_030BF_030FC_030EB, 0x03337_030D8_0309A_030BD,
  0x03338_030D8_0309A_030CB_030D2, 0x03339_030D8_030EB_030C4, 0x0333A_030D8_0309A_030F3_030B9,
  0x0333B_030D8_0309A_030FC_030B7_03099, 0x0333C_030D8_03099_030FC_030BF,
  0x0333D_030DB_0309A_030A4_030F3_030C8, 0x0333E_030DB_03099_030EB_030C8, 0x0333F_030DB_030F3,
  0x03340_030DB_0309A_030F3_030C8_03099, 0x03341_030DB_030FC_030EB, 0x03342_030DB_030FC_030F3,
  0x03343_030DE_030A4_030AF_030ED, 0x03344_030DE_030A4_030EB, 0x03345_030DE_030C3_030CF,
  0x03346_030DE_030EB_030AF, 0x03347_030DE_030F3_030B7_030E7_030F3,
  0x03348_030DF_030AF_030ED_030F3, 0x03349_030DF_030EA,
  0x0334A_030DF_030EA_030CF_03099_030FC_030EB, 0x0334B_030E1_030AB_03099,
  0x0334C_030E1_030AB_03099_030C8_030F3, 0x0334D_030E1_030FC_030C8_030EB,
  0x0334E_030E4_030FC_030C8_03099, 0x0334F_030E4_030FC_030EB, 0x03350_030E6_030A2_030F3,
  0x03351_030EA_030C3_030C8_030EB, 0x03352_030EA_030E9, 0x03353_030EB_030D2_0309A_030FC,
  0x03354_030EB_030FC_030D5_03099_030EB, 0x03355_030EC_030E0,
  0x03356_030EC_030F3_030C8_030B1_03099_030F3, 0x03357_030EF_030C3_030C8, 0x03358_00030_070B9,
  0x03359_00031_070B9, 0x0335A_00032_070B9, 0x0335B_00033_070B9, 0x0335C_00034_070B9,
  0x0335D_00035_070B9, 0x0335E_00036_070B9, 0x0335F_00037_070B9, 0x03360_00038_070B9,
  0x03361_00039_070B9, 0x03362_00031_00030_070B9, 0x03363_00031_00031_070B9,
  0x03364_00031_00032_070B9, 0x03365_00031_00033_070B9, 0x03366_00031_00034_070B9,
  0x03367_00031_00035_070B9, 0x03368_00031_00036_070B9, 0x03369_00031_00037_070B9,
  0x0336A_00031_00038_070B9, 0x0336B_00031_00039_070B9, 0x0336C_00032_00030_070B9,
  0x0336D_00032_00031_070B9, 0x0336E_00032_00032_070B9, 0x0336F_00032_00033_070B9,
  0x03370_00032_00034_070B9, 0x03371_00068_00050_00061, 0x03372_00064_00061,
  0x03373_00041_00055, 0x03374_00062_00061_00072, 0x03375_0006F_00056, 0x03376_00070_00063,
  0x03377_00064_0006D, 0x03378_00064_0006D_00032, 0x03379_00064_0006D_00033,
  0x0337A_00049_00055, 0x0337B_05E73_06210, 0x0337C_0662D_0548C, 0x0337D_05927_06B63,
  0x0337E_0660E_06CBB, 0x0337F_0682A_05F0F_04F1A_0793E, 0x03380_00070_00041,
  0x03381_0006E_00041, 0x03382_003BC_00041, 0x03383_0006D_00041, 0x03384_0006B_00041,
  0x03385_0004B_00042, 0x03386_0004D_00042, 0x03387_00047_00042, 0x03388_00063_00061_0006C,
  0x03389_0006B_00063_00061_0006C, 0x0338A_00070_00046, 0x0338B_0006E_00046,
  0x0338C_003BC_00046, 0x0338D_003BC_00067, 0x0338E_0006D_00067, 0x0338F_0006B_00067,
  0x03390_00048_0007A, 0x03391_0006B_00048_0007A, 0x03392_0004D_00048_0007A,
  0x03393_00047_00048_0007A, 0x03394_00054_00048_0007A, 0x03395_003BC_0006C,
  0x03396_0006D_0006C, 0x03397_00064_0006C, 0x03398_0006B_0006C, 0x03399_00066_0006D,
  0x0339A_0006E_0006D, 0x0339B_003BC_0006D, 0x0339C_0006D_0006D, 0x0339D_00063_0006D,
  0x0339E_0006B_0006D, 0x0339F_0006D_0006D_00032, 0x033A0_00063_0006D_00032,
  0x033A1_0006D_00032, 0x033A2_0006B_0006D_00032, 0x033A3_0006D_0006D_00033,
  0x033A4_00063_0006D_00033, 0x033A5_0006D_00033, 0x033A6_0006B_0006D_00033,
  0x033A7_0006D_02215_00073, 0x033A8_0006D_02215_00073_00032, 0x033A9_00050_00061,
  0x033AA_0006B_00050_00061, 0x033AB_0004D_00050_00061, 0x033AC_00047_00050_00061,
  0x033AD_00072_00061_00064, 0x033AE_00072_00061_00064_02215_00073,
  0x033AF_00072_00061_00064_02215_00073_00032, 0x033B0_00070_00073, 0x033B1_0006E_00073,
  0x033B2_003BC_00073, 0x033B3_0006D_00073, 0x033B4_00070_00056, 0x033B5_0006E_00056,
  0x033B6_003BC_00056, 0x033B7_0006D_00056, 0x033B8_0006B_00056, 0x033B9_0004D_00056,
  0x033BA_00070_00057, 0x033BB_0006E_00057, 0x033BC_003BC_00057, 0x033BD_0006D_00057,
  0x033BE_0006B_00057, 0x033BF_0004D_00057, 0x033C0_0006B_003A9, 0x033C1_0004D_003A9,
  0x033C2_00061_0002E_0006D_0002E, 0x033C3_00042_00071, 0x033C4_00063_00063,
  0x033C5_00063_00064, 0x033C6_00043_02215_0006B_00067, 0x033C7_00043_0006F_0002E,
  0x033C8_00064_00042, 0x033C9_00047_00079, 0x033CA_00068_00061, 0x033CB_00048_00050,
  0x033CC_00069_0006E, 0x033CD_0004B_0004B, 0x033CE_0004B_0004D, 0x033CF_0006B_00074,
  0x033D0_0006C_0006D, 0x033D1_0006C_0006E, 0x033D2_0006C_0006F_00067, 0x033D3_0006C_00078,
  0x033D4_0006D_00062, 0x033D5_0006D_00069_0006C, 0x033D6_0006D_0006F_0006C,
  0x033D7_00050_00048, 0x033D8_00070_0002E_0006D_0002E, 0x033D9_00050_00050_0004D,
  0x033DA_00050_00052, 0x033DB_00073_00072, 0x033DC_00053_00076, 0x033DD_00057_00062,
  0x033DE_00056_02215_0006D, 0x033DF_00041_02215_0006D, 0x033E0_00031_065E5,
  0x033E1_00032_065E5, 0x033E2_00033_065E5, 0x033E3_00034_065E5, 0x033E4_00035_065E5,
  0x033E5_00036_065E5, 0x033E6_00037_065E5, 0x033E7_00038_065E5, 0x033E8_00039_065E5,
  0x033E9_00031_00030_065E5, 0x033EA_00031_00031_065E5, 0x033EB_00031_00032_065E5,
  0x033EC_00031_00033_065E5, 0x033ED_00031_00034_065E5, 0x033EE_00031_00035_065E5,
  0x033EF_00031_00036_065E5, 0x033F0_00031_00037_065E5, 0x033F1_00031_00038_065E5,
  0x033F2_00031_00039_065E5, 0x033F3_00032_00030_065E5, 0x033F4_00032_00031_065E5,
  0x033F5_00032_00032_065E5, 0x033F6_00032_00033_065E5, 0x033F7_00032_00034_065E5,
  0x033F8_00032_00035_065E5, 0x033F9_00032_00036_065E5, 0x033FA_00032_00037_065E5,
  0x033FB_00032_00038_065E5, 0x033FC_00032_00039_065E5, 0x033FD_00033_00030_065E5,
  0x033FE_00033_00031_065E5, 0x033FF_00067_00061_0006C, 0x0A69C_0044A, 0x0A69D_0044C,
  0x0A770_0A76F, 0x0A7F1_00053, 0x0A7F2_00043, 0x0A7F3_00046, 0x0A7F4_00051, 0x0A7F8_00126,
  0x0A7F9_00153, 0x0AB5C_0A727, 0x0AB5D_0AB37, 0x0AB5E_0026B, 0x0AB5F_0AB52, 0x0AB69_0028D,
  0x0F900_08C48, 0x0F901_066F4, 0x0F902_08ECA, 0x0F903_08CC8, 0x0F904_06ED1, 0x0F905_04E32,
  0x0F906_053E5, 0x0F907_09F9C, 0x0F908_09F9C, 0x0F909_05951, 0x0F90A_091D1, 0x0F90B_05587,
  0x0F90C_05948, 0x0F90D_061F6, 0x0F90E_07669, 0x0F90F_07F85, 0x0F910_0863F, 0x0F911_087BA,
  0x0F912_088F8, 0x0F913_0908F, 0x0F914_06A02, 0x0F915_06D1B, 0x0F916_070D9, 0x0F917_073DE,
  0x0F918_0843D, 0x0F919_0916A, 0x0F91A_099F1, 0x0F91B_04E82, 0x0F91C_05375, 0x0F91D_06B04,
  0x0F91E_0721B, 0x0F91F_0862D, 0x0F920_09E1E, 0x0F921_05D50, 0x0F922_06FEB, 0x0F923_085CD,
  0x0F924_08964, 0x0F925_062C9, 0x0F926_081D8, 0x0F927_0881F, 0x0F928_05ECA, 0x0F929_06717,
  0x0F92A_06D6A, 0x0F92B_072FC, 0x0F92C_090CE, 0x0F92D_04F86, 0x0F92E_051B7, 0x0F92F_052DE,
  0x0F930_064C4, 0x0F931_06AD3, 0x0F932_07210, 0x0F933_076E7, 0x0F934_08001, 0x0F935_08606,
  0x0F936_0865C, 0x0F937_08DEF, 0x0F938_09732, 0x0F939_09B6F, 0x0F93A_09DFA, 0x0F93B_0788C,
  0x0F93C_0797F, 0x0F93D_07DA0, 0x0F93E_083C9, 0x0F93F_09304, 0x0F940_09E7F, 0x0F941_08AD6,
  0x0F942_058DF, 0x0F943_05F04, 0x0F944_07C60, 0x0F945_0807E, 0x0F946_07262, 0x0F947_078CA,
  0x0F948_08CC2, 0x0F949_096F7, 0x0F94A_058D8, 0x0F94B_05C62, 0x0F94C_06A13, 0x0F94D_06DDA,
  0x0F94E_06F0F, 0x0F94F_07D2F, 0x0F950_07E37, 0x0F951_0964B, 0x0F952_052D2, 0x0F953_0808B,
  0x0F954_051DC, 0x0F955_051CC, 0x0F956_07A1C, 0x0F957_07DBE, 0x0F958_083F1, 0x0F959_09675,
  0x0F95A_08B80, 0x0F95B_062CF, 0x0F95C_06A02, 0x0F95D_08AFE, 0x0F95E_04E39, 0x0F95F_05BE7,
  0x0F960_06012, 0x0F961_07387, 0x0F962_07570, 0x0F963_05317, 0x0F964_078FB, 0x0F965_04FBF,
  0x0F966_05FA9, 0x0F967_04E0D, 0x0F968_06CCC, 0x0F969_06578, 0x0F96A_07D22, 0x0F96B_053C3,
  0x0F96C_0585E, 0x0F96D_07701, 0x0F96E_08449, 0x0F96F_08AAA, 0x0F970_06BBA, 0x0F971_08FB0,
  0x0F972_06C88, 0x0F973_062FE, 0x0F974_082E5, 0x0F975_063A0, 0x0F976_07565, 0x0F977_04EAE,
  0x0F978_05169, 0x0F979_051C9, 0x0F97A_06881, 0x0F97B_07CE7, 0x0F97C_0826F, 0x0F97D_08AD2,
  0x0F97E_091CF, 0x0F97F_052F5, 0x0F980_05442, 0x0F981_05973, 0x0F982_05EEC, 0x0F983_065C5,
  0x0F984_06FFE, 0x0F985_0792A, 0x0F986_095AD, 0x0F987_09A6A, 0x0F988_09E97, 0x0F989_09ECE,
  0x0F98A_0529B, 0x0F98B_066C6, 0x0F98C_06B77, 0x0F98D_08F62, 0x0F98E_05E74, 0x0F98F_06190,
  0x0F990_06200, 0x0F991_0649A, 0x0F992_06F23, 0x0F993_07149, 0x0F994_07489, 0x0F995_079CA,
  0x0F996_07DF4, 0x0F997_0806F, 0x0F998_08F26, 0x0F999_084EE, 0x0F99A_09023, 0x0F99B_0934A,
  0x0F99C_05217, 0x0F99D_052A3, 0x0F99E_054BD, 0x0F99F_070C8, 0x0F9A0_088C2, 0x0F9A1_08AAA,
  0x0F9A2_05EC9, 0x0F9A3_05FF5, 0x0F9A4_0637B, 0x0F9A5_06BAE, 0x0F9A6_07C3E, 0x0F9A7_07375,
  0x0F9A8_04EE4, 0x0F9A9_056F9, 0x0F9AA_05BE7, 0x0F9AB_05DBA, 0x0F9AC_0601C, 0x0F9AD_073B2,
  0x0F9AE_07469, 0x0F9AF_07F9A, 0x0F9B0_08046, 0x0F9B1_09234, 0x0F9B2_096F6, 0x0F9B3_09748,
  0x0F9B4_09818, 0x0F9B5_04F8B, 0x0F9B6_079AE, 0x0F9B7_091B4, 0x0F9B8_096B8, 0x0F9B9_060E1,
  0x0F9BA_04E86, 0x0F9BB_050DA, 0x0F9BC_05BEE, 0x0F9BD_05C3F, 0x0F9BE_06599, 0x0F9BF_06A02,
  0x0F9C0_071CE, 0x0F9C1_07642, 0x0F9C2_084FC, 0x0F9C3_0907C, 0x0F9C4_09F8D, 0x0F9C5_06688,
  0x0F9C6_0962E, 0x0F9C7_05289, 0x0F9C8_0677B, 0x0F9C9_067F3, 0x0F9CA_06D41, 0x0F9CB_06E9C,
  0x0F9CC_07409, 0x0F9CD_07559, 0x0F9CE_0786B, 0x0F9CF_07D10, 0x0F9D0_0985E, 0x0F9D1_0516D,
  0x0F9D2_0622E, 0x0F9D3_09678, 0x0F9D4_0502B, 0x0F9D5_05D19, 0x0F9D6_06DEA, 0x0F9D7_08F2A,
  0x0F9D8_05F8B, 0x0F9D9_06144, 0x0F9DA_06817, 0x0F9DB_07387, 0x0F9DC_09686, 0x0F9DD_05229,
  0x0F9DE_0540F, 0x0F9DF_05C65, 0x0F9E0_06613, 0x0F9E1_0674E, 0x0F9E2_068A8, 0x0F9E3_06CE5,
  0x0F9E4_07406, 0x0F9E5_075E2, 0x0F9E6_07F79, 0x0F9E7_088CF, 0x0F9E8_088E1, 0x0F9E9_091CC,
  0x0F9EA_096E2, 0x0F9EB_0533F, 0x0F9EC_06EBA, 0x0F9ED_0541D, 0x0F9EE_071D0, 0x0F9EF_07498,
  0x0F9F0_085FA, 0x0F9F1_096A3, 0x0F9F2_09C57, 0x0F9F3_09E9F, 0x0F9F4_06797, 0x0F9F5_06DCB,
  0x0F9F6_081E8, 0x0F9F7_07ACB, 0x0F9F8_07B20, 0x0F9F9_07C92, 0x0F9FA_072C0, 0x0F9FB_07099,
  0x0F9FC_08B58, 0x0F9FD_04EC0, 0x0F9FE_08336, 0x0F9FF_0523A, 0x0FA00_05207, 0x0FA01_05EA6,
  0x0FA02_062D3, 0x0FA03_07CD6, 0x0FA04_05B85, 0x0FA05_06D1E, 0x0FA06_066B4, 0x0FA07_08F3B,
  0x0FA08_0884C, 0x0FA09_0964D, 0x0FA0A_0898B, 0x0FA0B_05ED3, 0x0FA0C_05140, 0x0FA0D_055C0,
  0x0FA10_0585A, 0x0FA12_06674, 0x0FA15_051DE, 0x0FA16_0732A, 0x0FA17_076CA, 0x0FA18_0793C,
  0x0FA19_0795E, 0x0FA1A_07965, 0x0FA1B_0798F, 0x0FA1C_09756, 0x0FA1D_07CBE, 0x0FA1E_07FBD,
  0x0FA20_08612, 0x0FA22_08AF8, 0x0FA25_09038, 0x0FA26_090FD, 0x0FA2A_098EF, 0x0FA2B_098FC,
  0x0FA2C_09928, 0x0FA2D_09DB4, 0x0FA2E_090DE, 0x0FA2F_096B7, 0x0FA30_04FAE, 0x0FA31_050E7,
  0x0FA32_0514D, 0x0FA33_052C9, 0x0FA34_052E4, 0x0FA35_05351, 0x0FA36_0559D, 0x0FA37_05606,
  0x0FA38_05668, 0x0FA39_05840, 0x0FA3A_058A8, 0x0FA3B_05C64, 0x0FA3C_05C6E, 0x0FA3D_06094,
  0x0FA3E_06168, 0x0FA3F_0618E, 0x0FA40_061F2, 0x0FA41_0654F, 0x0FA42_065E2, 0x0FA43_06691,
  0x0FA44_06885, 0x0FA45_06D77, 0x0FA46_06E1A, 0x0FA47_06F22, 0x0FA48_0716E, 0x0FA49_0722B,
  0x0FA4A_07422, 0x0FA4B_07891, 0x0FA4C_0793E, 0x0FA4D_07949, 0x0FA4E_07948, 0x0FA4F_07950,
  0x0FA50_07956, 0x0FA51_0795D, 0x0FA52_0798D, 0x0FA53_0798E, 0x0FA54_07A40, 0x0FA55_07A81,
  0x0FA56_07BC0, 0x0FA57_07DF4, 0x0FA58_07E09, 0x0FA59_07E41, 0x0FA5A_07F72, 0x0FA5B_08005,
  0x0FA5C_081ED, 0x0FA5D_08279, 0x0FA5E_08279, 0x0FA5F_08457, 0x0FA60_08910, 0x0FA61_08996,
  0x0FA62_08B01, 0x0FA63_08B39, 0x0FA64_08CD3, 0x0FA65_08D08, 0x0FA66_08FB6, 0x0FA67_09038,
  0x0FA68_096E3, 0x0FA69_097FF, 0x0FA6A_0983B, 0x0FA6B_06075, 0x0FA6C_242EE, 0x0FA6D_08218,
  0x0FA70_04E26, 0x0FA71_051B5, 0x0FA72_05168, 0x0FA73_04F80, 0x0FA74_05145, 0x0FA75_05180,
  0x0FA76_052C7, 0x0FA77_052FA, 0x0FA78_0559D, 0x0FA79_05555, 0x0FA7A_05599, 0x0FA7B_055E2,
  0x0FA7C_0585A, 0x0FA7D_058B3, 0x0FA7E_05944, 0x0FA7F_05954, 0x0FA80_05A62, 0x0FA81_05B28,
  0x0FA82_05ED2, 0x0FA83_05ED9, 0x0FA84_05F69, 0x0FA85_05FAD, 0x0FA86_060D8, 0x0FA87_0614E,
  0x0FA88_06108, 0x0FA89_0618E, 0x0FA8A_06160, 0x0FA8B_061F2, 0x0FA8C_06234, 0x0FA8D_063C4,
  0x0FA8E_0641C, 0x0FA8F_06452, 0x0FA90_06556, 0x0FA91_06674, 0x0FA92_06717, 0x0FA93_0671B,
  0x0FA94_06756, 0x0FA95_06B79, 0x0FA96_06BBA, 0x0FA97_06D41, 0x0FA98_06EDB, 0x0FA99_06ECB,
  0x0FA9A_06F22, 0x0FA9B_0701E, 0x0FA9C_0716E, 0x0FA9D_077A7, 0x0FA9E_07235, 0x0FA9F_072AF,
  0x0FAA0_0732A, 0x0FAA1_07471, 0x0FAA2_07506, 0x0FAA3_0753B, 0x0FAA4_0761D, 0x0FAA5_0761F,
  0x0FAA6_076CA, 0x0FAA7_076DB, 0x0FAA8_076F4, 0x0FAA9_0774A, 0x0FAAA_07740, 0x0FAAB_078CC,
  0x0FAAC_07AB1, 0x0FAAD_07BC0, 0x0FAAE_07C7B, 0x0FAAF_07D5B, 0x0FAB0_07DF4, 0x0FAB1_07F3E,
  0x0FAB2_08005, 0x0FAB3_08352, 0x0FAB4_083EF, 0x0FAB5_08779, 0x0FAB6_08941, 0x0FAB7_08986,
  0x0FAB8_08996, 0x0FAB9_08ABF, 0x0FABA_08AF8, 0x0FABB_08ACB, 0x0FABC_08B01, 0x0FABD_08AFE,
  0x0FABE_08AED, 0x0FABF_08B39, 0x0FAC0_08B8A, 0x0FAC1_08D08, 0x0FAC2_08F38, 0x0FAC3_09072,
  0x0FAC4_09199, 0x0FAC5_09276, 0x0FAC6_0967C, 0x0FAC7_096E3, 0x0FAC8_09756, 0x0FAC9_097DB,
  0x0FACA_097FF, 0x0FACB_0980B, 0x0FACC_0983B, 0x0FACD_09B12, 0x0FACE_09F9C, 0x0FACF_2284A,
  0x0FAD0_22844, 0x0FAD1_233D5, 0x0FAD2_03B9D, 0x0FAD3_04018, 0x0FAD4_04039, 0x0FAD5_25249,
  0x0FAD6_25CD0, 0x0FAD7_27ED3, 0x0FAD8_09F43, 0x0FAD9_09F8E]

end PriceSurvey.Text
