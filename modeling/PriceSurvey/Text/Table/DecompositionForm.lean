/-!
# Compatibility decompositions, characters from U+FB00 to U+1FFFF

Each number is one row: five hexadecimal digits a code point, the character first and then the
code points of its full compatibility decomposition (Unicode 17).
-/
namespace PriceSurvey.Text

set_option maxRecDepth 4000 in
/-- Packed decompositions of characters from U+FB00 to U+1FFFF, in ascending order. -/
def packedForm : List Nat := [
  0x0FB00_00066_00066, 0x0FB01_00066_00069, 0x0FB02_00066_0006C, 0x0FB03_00066_00066_00069,
  0x0FB04_00066_00066_0006C, 0x0FB05_00073_00074, 0x0FB06_00073_00074, 0x0FB13_00574_00576,
  0x0FB14_00574_00565, 0x0FB15_00574_0056B, 0x0FB16_0057E_00576, 0x0FB17_00574_0056D,
  0x0FB1D_005D9_005B4, 0x0FB1F_005F2_005B7, 0x0FB20_005E2, 0x0FB21_005D0, 0x0FB22_005D3,
  0x0FB23_005D4, 0x0FB27_005E8, 0x0FB28_005EA, 0x0FB29_0002B, 0x0FB2A_005E9_005C1,
  0x0FB2B_005E9_005C2, 0x0FB2C_005E9_005BC_005C1, 0x0FB2D_005E9_005BC_005C2,
  0x0FB2E_005D0_005B7, 0x0FB2F_005D0_005B8, 0x0FB30_005D0_005BC, 0x0FB31_005D1_005BC,
  0x0FB32_005D2_005BC, 0x0FB33_005D3_005BC, 0x0FB34_005D4_005BC, 0x0FB35_005D5_005BC,
  0x0FB36_005D6_005BC, 0x0FB38_005D8_005BC, 0x0FB39_005D9_005BC, 0x0FB3A_005DA_005BC,
  0x0FB3B_005DB_005BC, 0x0FB3C_005DC_005BC, 0x0FB3E_005DE_005BC, 0x0FB40_005E0_005BC,
  0x0FB41_005E1_005BC, 0x0FB43_005E3_005BC, 0x0FB44_005E4_005BC, 0x0FB46_005E6_005BC,
  0x0FB47_005E7_005BC, 0x0FB48_005E8_005BC, 0x0FB49_005E9_005BC, 0x0FB4A_005EA_005BC,
  0x0FB4B_005D5_005B9, 0x0FB4C_005D1_005BF, 0x0FB4D_005DB_005BF, 0x0FB4E_005E4_005BF,
  0x0FB4F_005D0_005DC, 0x0FB50_00671, 0x0FB51_00671, 0x0FB52_0067B, 0x0FB53_0067B,
  0x0FB54_0067B, 0x0FB55_0067B, 0x0FB56_0067E, 0x0FB57_0067E, 0x0FB58_0067E, 0x0FB59_0067E,
  0x0FB5A_00680, 0x0FB5B_00680, 0x0FB5C_00680, 0x0FB5D_00680, 0x0FB5E_0067A, 0x0FB5F_0067A,
  0x0FB60_0067A, 0x0FB61_0067A, 0x0FB62_0067F, 0x0FB63_0067F, 0x0FB64_0067F, 0x0FB65_0067F,
  0x0FB66_00679, 0x0FB67_00679, 0x0FB68_00679, 0x0FB69_00679, 0x0FB6A_006A4, 0x0FB6B_006A4,
  0x0FB6C_006A4, 0x0FB6D_006A4, 0x0FB6E_006A6, 0x0FB6F_006A6, 0x0FB70_006A6, 0x0FB71_006A6,
  0x0FB72_00684, 0x0FB73_00684, 0x0FB74_00684, 0x0FB75_00684, 0x0FB76_00683, 0x0FB77_00683,
  0x0FB78_00683, 0x0FB79_00683, 0x0FB7A_00686, 0x0FB7B_00686, 0x0FB7C_00686, 0x0FB7D_00686,
  0x0FB7E_00687, 0x0FB7F_00687, 0x0FB80_00687, 0x0FB81_00687, 0x0FB82_0068D, 0x0FB83_0068D,
  0x0FB84_0068C, 0x0FB85_0068C, 0x0FB86_0068E, 0x0FB87_0068E, 0x0FB88_00688, 0x0FB89_00688,
  0x0FB8A_00698, 0x0FB8B_00698, 0x0FB8C_00691, 0x0FB8D_00691, 0x0FB8E_006A9, 0x0FB8F_006A9,
  0x0FB90_006A9, 0x0FB91_006A9, 0x0FB92_006AF, 0x0FB93_006AF, 0x0FB94_006AF, 0x0FB95_006AF,
  0x0FB96_006B3, 0x0FB97_006B3, 0x0FB98_006B3, 0x0FB99_006B3, 0x0FB9A_006B1, 0x0FB9B_006B1,
  0x0FB9C_006B1, 0x0FB9D_006B1, 0x0FB9E_006BA, 0x0FB9F_006BA, 0x0FBA0_006BB, 0x0FBA1_006BB,
  0x0FBA2_006BB, 0x0FBA3_006BB, 0x0FBA4_006D5_00654, 0x0FBA5_006D5_00654, 0x0FBA6_006C1,
  0x0FBA7_006C1, 0x0FBA8_006C1, 0x0FBA9_006C1, 0x0FBAA_006BE, 0x0FBAB_006BE, 0x0FBAC_006BE,
  0x0FBAD_006BE, 0x0FBAE_006D2, 0x0FBAF_006D2, 0x0FBB0_006D2_00654, 0x0FBB1_006D2_00654,
  0x0FBD3_006AD, 0x0FBD4_006AD, 0x0FBD5_006AD, 0x0FBD6_006AD, 0x0FBD7_006C7, 0x0FBD8_006C7,
  0x0FBD9_006C6, 0x0FBDA_006C6, 0x0FBDB_006C8, 0x0FBDC_006C8, 0x0FBDD_006C7_00674,
  0x0FBDE_006CB, 0x0FBDF_006CB, 0x0FBE0_006C5, 0x0FBE1_006C5, 0x0FBE2_006C9, 0x0FBE3_006C9,
  0x0FBE4_006D0, 0x0FBE5_006D0, 0x0FBE6_006D0, 0x0FBE7_006D0, 0x0FBE8_00649, 0x0FBE9_00649,
  0x0FBEA_0064A_00654_00627, 0x0FBEB_0064A_00654_00627, 0x0FBEC_0064A_00654_006D5,
  0x0FBED_0064A_00654_006D5, 0x0FBEE_0064A_00654_00648, 0x0FBEF_0064A_00654_00648,
  0x0FBF0_0064A_00654_006C7, 0x0FBF1_0064A_00654_006C7, 0x0FBF2_0064A_00654_006C6,
  0x0FBF3_0064A_00654_006C6, 0x0FBF4_0064A_00654_006C8, 0x0FBF5_0064A_00654_006C8,
  0x0FBF6_0064A_00654_006D0, 0x0FBF7_0064A_00654_006D0, 0x0FBF8_0064A_00654_006D0,
  0x0FBF9_0064A_00654_00649, 0x0FBFA_0064A_00654_00649, 0x0FBFB_0064A_00654_00649,
  0x0FBFC_006CC, 0x0FBFD_006CC, 0x0FBFE_006CC, 0x0FBFF_006CC, 0x0FC00_0064A_00654_0062C,
  0x0FC01_0064A_00654_0062D, 0x0FC02_0064A_00654_00645, 0x0FC03_0064A_00654_00649,
  0x0FC04_0064A_00654_0064A, 0x0FC05_00628_0062C, 0x0FC06_00628_0062D, 0x0FC07_00628_0062E,
  0x0FC08_00628_00645, 0x0FC09_00628_00649, 0x0FC0A_00628_0064A, 0x0FC0B_0062A_0062C,
  0x0FC0C_0062A_0062D, 0x0FC0D_0062A_0062E, 0x0FC0E_0062A_00645, 0x0FC0F_0062A_00649,
  0x0FC10_0062A_0064A, 0x0FC11_0062B_0062C, 0x0FC12_0062B_00645, 0x0FC13_0062B_00649,
  0x0FC14_0062B_0064A, 0x0FC15_0062C_0062D, 0x0FC16_0062C_00645, 0x0FC17_0062D_0062C,
  0x0FC18_0062D_00645, 0x0FC19_0062E_0062C, 0x0FC1A_0062E_0062D, 0x0FC1B_0062E_00645,
  0x0FC1C_00633_0062C, 0x0FC1D_00633_0062D, 0x0FC1E_00633_0062E, 0x0FC1F_00633_00645,
  0x0FC20_00635_0062D, 0x0FC21_00635_00645, 0x0FC22_00636_0062C, 0x0FC23_00636_0062D,
  0x0FC24_00636_0062E, 0x0FC25_00636_00645, 0x0FC26_00637_0062D, 0x0FC27_00637_00645,
  0x0FC28_00638_00645, 0x0FC29_00639_0062C, 0x0FC2A_00639_00645, 0x0FC2B_0063A_0062C,
  0x0FC2C_0063A_00645, 0x0FC2D_00641_0062C, 0x0FC2E_00641_0062D, 0x0FC2F_00641_0062E,
  0x0FC30_00641_00645, 0x0FC31_00641_00649, 0x0FC32_00641_0064A, 0x0FC33_00642_0062D,
  0x0FC34_00642_00645, 0x0FC35_00642_00649, 0x0FC36_00642_0064A, 0x0FC37_00643_00627,
  0x0FC38_00643_0062C, 0x0FC39_00643_0062D, 0x0FC3A_00643_0062E, 0x0FC3B_00643_00644,
  0x0FC3C_00643_00645, 0x0FC3D_00643_00649, 0x0FC3E_00643_0064A, 0x0FC3F_00644_0062C,
  0x0FC40_00644_0062D, 0x0FC41_00644_0062E, 0x0FC42_00644_00645, 0x0FC43_00644_00649,
  0x0FC44_00644_0064A, 0x0FC45_00645_0062C, 0x0FC46_00645_0062D, 0x0FC47_00645_0062E,
  0x0FC48_00645_00645, 0x0FC49_00645_00649, 0x0FC4A_00645_0064A, 0x0FC4B_00646_0062C,
  0x0FC4C_00646_0062D, 0x0FC4D_00646_0062E, 0x0FC4E_00646_00645, 0x0FC4F_00646_00649,
  0x0FC50_00646_0064A, 0x0FC51_00647_0062C, 0x0FC52_00647_00645, 0x0FC53_00647_00649,
  0x0FC54_00647_0064A, 0x0FC55_0064A_0062C, 0x0FC56_0064A_0062D, 0x0FC57_0064A_0062E,
  0x0FC58_0064A_00645, 0x0FC59_0064A_00649, 0x0FC5A_0064A_0064A, 0x0FC5B_00630_00670,
  0x0FC5C_00631_00670, 0x0FC5D_00649_00670, 0x0FC5E_00020_0064C_00651,
  0x0FC5F_00020_0064D_00651, 0x0FC60_00020_0064E_00651, 0x0FC61_00020_0064F_00651,
  0x0FC62_00020_00650_00651, 0x0FC63_00020_00651_00670, 0x0FC64_0064A_00654_00631,
  0x0FC65_0064A_00654_00632, 0x0FC66_0064A_00654_00645, 0x0FC67_0064A_00654_00646,
  0x0FC68_0064A_00654_00649, 0x0FC69_0064A_00654_0064A, 0x0FC6A_00628_00631,
  0x0FC6B_00628_00632, 0x0FC6C_00628_00645, 0x0FC6D_00628_00646, 0x0FC6E_00628_00649,
  0x0FC6F_00628_0064A, 0x0FC70_0062A_00631, 0x0FC71_0062A_00632, 0x0FC72_0062A_00645,
  0x0FC73_0062A_00646, 0x0FC74_0062A_00649, 0x0FC75_0062A_0064A, 0x0FC76_0062B_00631,
  0x0FC77_0062B_00632, 0x0FC78_0062B_00645, 0x0FC79_0062B_00646, 0x0FC7A_0062B_00649,
  0x0FC7B_0062B_0064A, 0x0FC7C_00641_00649, 0x0FC7D_00641_0064A, 0x0FC7E_00642_00649,
  0x0FC7F_00642_0064A, 0x0FC80_00643_00627, 0x0FC81_00643_00644, 0x0FC82_00643_00645,
  0x0FC83_00643_00649, 0x0FC84_00643_0064A, 0x0FC85_00644_00645, 0x0FC86_00644_00649,
  0x0FC87_00644_0064A, 0x0FC88_00645_00627, 0x0FC89_00645_00645, 0x0FC8A_00646_00631,
  0x0FC8B_00646_00632, 0x0FC8C_00646_00645, 0x0FC8D_00646_00646, 0x0FC8E_00646_00649,
  0x0FC8F_00646_0064A, 0x0FC90_00649_00670, 0x0FC91_0064A_00631, 0x0FC92_0064A_00632,
  0x0FC93_0064A_00645, 0x0FC94_0064A_00646, 0x0FC95_0064A_00649, 0x0FC96_0064A_0064A,
  0x0FC97_0064A_00654_0062C, 0x0FC98_0064A_00654_0062D, 0x0FC99_0064A_00654_0062E,
  0x0FC9A_0064A_00654_00645, 0x0FC9B_0064A_00654_00647, 0x0FC9C_00628_0062C,
  0x0FC9D_00628_0062D, 0x0FC9E_00628_0062E, 0x0FC9F_00628_00645, 0x0FCA0_00628_00647,
  0x0FCA1_0062A_0062C, 0x0FCA2_0062A_0062D, 0x0FCA3_0062A_0062E, 0x0FCA4_0062A_00645,
  0x0FCA5_0062A_00647, 0x0FCA6_0062B_00645, 0x0FCA7_0062C_0062D, 0x0FCA8_0062C_00645,
  0x0FCA9_0062D_0062C, 0x0FCAA_0062D_00645, 0x0FCAB_0062E_0062C, 0x0FCAC_0062E_00645,
  0x0FCAD_00633_0062C, 0x0FCAE_00633_0062D, 0x0FCAF_00633_0062E, 0x0FCB0_00633_00645,
  0x0FCB1_00635_0062D, 0x0FCB2_00635_0062E, 0x0FCB3_00635_00645, 0x0FCB4_00636_0062C,
  0x0FCB5_00636_0062D, 0x0FCB6_00636_0062E, 0x0FCB7_00636_00645, 0x0FCB8_00637_0062D,
  0x0FCB9_00638_00645, 0x0FCBA_00639_0062C, 0x0FCBB_00639_00645, 0x0FCBC_0063A_0062C,
  0x0FCBD_0063A_00645, 0x0FCBE_00641_0062C, 0x0FCBF_00641_0062D, 0x0FCC0_00641_0062E,
  0x0FCC1_00641_00645, 0x0FCC2_00642_0062D, 0x0FCC3_00642_00645, 0x0FCC4_00643_0062C,
  0x0FCC5_00643_0062D, 0x0FCC6_00643_0062E, 0x0FCC7_00643_00644, 0x0FCC8_00643_00645,
  0x0FCC9_00644_0062C, 0x0FCCA_00644_0062D, 0x0FCCB_00644_0062E, 0x0FCCC_00644_00645,
  0x0FCCD_00644_00647, 0x0FCCE_00645_0062C, 0x0FCCF_00645_0062D, 0x0FCD0_00645_0062E,
  0x0FCD1_00645_00645, 0x0FCD2_00646_0062C, 0x0FCD3_00646_0062D, 0x0FCD4_00646_0062E,
  0x0FCD5_00646_00645, 0x0FCD6_00646_00647, 0x0FCD7_00647_0062C, 0x0FCD8_00647_00645,
  0x0FCD9_00647_00670, 0x0FCDA_0064A_0062C, 0x0FCDB_0064A_0062D, 0x0FCDC_0064A_0062E,
  0x0FCDD_0064A_00645, 0x0FCDE_0064A_00647, 0x0FCDF_0064A_00654_00645,
  0x0FCE0_0064A_00654_00647, 0x0FCE1_00628_00645, 0x0FCE2_00628_00647, 0x0FCE3_0062A_00645,
  0x0FCE4_0062A_00647, 0x0FCE5_0062B_00645, 0x0FCE6_0062B_00647, 0x0FCE7_00633_00645,
  0x0FCE8_00633_00647, 0x0FCE9_00634_00645, 0x0FCEA_00634_00647, 0x0FCEB_00643_00644,
  0x0FCEC_00643_00645, 0x0FCED_00644_00645, 0x0FCEE_00646_00645, 0x0FCEF_00646_00647,
  0x0FCF0_0064A_00645, 0x0FCF1_0064A_00647, 0x0FCF2_00640_0064E_00651,
  0x0FCF3_00640_0064F_00651, 0x0FCF4_00640_00650_00651, 0x0FCF5_00637_00649,
  0x0FCF6_00637_0064A, 0x0FCF7_00639_00649, 0x0FCF8_00639_0064A, 0x0FCF9_0063A_00649,
  0x0FCFA_0063A_0064A, 0x0FCFB_00633_00649, 0x0FCFC_00633_0064A, 0x0FCFD_00634_00649,
  0x0FCFE_00634_0064A, 0x0FCFF_0062D_00649, 0x0FD00_0062D_0064A, 0x0FD01_0062C_00649,
  0x0FD02_0062C_0064A, 0x0FD03_0062E_00649, 0x0FD04_0062E_0064A, 0x0FD05_00635_00649,
  0x0FD06_00635_0064A, 0x0FD07_00636_00649, 0x0FD08_00636_0064A, 0x0FD09_00634_0062C,
  0x0FD0A_00634_0062D, 0x0FD0B_00634_0062E, 0x0FD0C_00634_00645, 0x0FD0D_00634_00631,
  0x0FD0E_00633_00631, 0x0FD0F_00635_00631, 0x0FD10_00636_00631, 0x0FD11_00637_00649,
  0x0FD12_00637_0064A, 0x0FD13_00639_00649, 0x0FD14_00639_0064A, 0x0FD15_0063A_00649,
  0x0FD16_0063A_0064A, 0x0FD17_00633_00649, 0x0FD18_00633_0064A, 0x0FD19_00634_00649,
  0x0FD1A_00634_0064A, 0x0FD1B_0062D_00649, 0x0FD1C_0062D_0064A, 0x0FD1D_0062C_00649,
  0x0FD1E_0062C_0064A, 0x0FD1F_0062E_00649, 0x0FD20_0062E_0064A, 0x0FD21_00635_00649,
  0x0FD22_00635_0064A, 0x0FD23_00636_00649, 0x0FD24_00636_0064A, 0x0FD25_00634_0062C,
  0x0FD26_00634_0062D, 0x0FD27_00634_0062E, 0x0FD28_00634_00645, 0x0FD29_00634_00631,
  0x0FD2A_00633_00631, 0x0FD2B_00635_00631, 0x0FD2C_00636_00631, 0x0FD2D_00634_0062C,
  0x0FD2E_00634_0062D, 0x0FD2F_00634_0062E, 0x0FD30_00634_00645, 0x0FD31_00633_00647,
  0x0FD32_00634_00647, 0x0FD33_00637_00645, 0x0FD34_00633_0062C, 0x0FD35_00633_0062D,
  0x0FD36_00633_0062E, 0x0FD37_00634_0062C, 0x0FD38_00634_0062D, 0x0FD39_00634_0062E,
  0x0FD3A_00637_00645, 0x0FD3B_00638_00645, 0x0FD3C_00627_0064B, 0x0FD3D_00627_0064B,
  0x0FD50_0062A_0062C_00645, 0x0FD51_0062A_0062D_0062C, 0x0FD52_0062A_0062D_0062C,
  0x0FD53_0062A_0062D_00645, 0x0FD54_0062A_0062E_00645, 0x0FD55_0062A_00645_0062C,
  0x0FD56_0062A_00645_0062D, 0x0FD57_0062A_00645_0062E, 0x0FD58_0062C_00645_0062D,
  0x0FD59_0062C_00645_0062D, 0x0FD5A_0062D_00645_0064A, 0x0FD5B_0062D_00645_00649,
  0x0FD5C_00633_0062D_0062C, 0x0FD5D_00633_0062C_0062D, 0x0FD5E_00633_0062C_00649,
  0x0FD5F_00633_00645_0062D, 0x0FD60_00633_00645_0062D, 0x0FD61_00633_00645_0062C,
  0x0FD62_00633_00645_00645, 0x0FD63_00633_00645_00645, 0x0FD64_00635_0062D_0062D,
  0x0FD65_00635_0062D_0062D, 0x0FD66_00635_00645_00645, 0x0FD67_00634_0062D_00645,
  0x0FD68_00634_0062D_00645, 0x0FD69_00634_0062C_0064A, 0x0FD6A_00634_00645_0062E,
  0x0FD6B_00634_00645_0062E, 0x0FD6C_00634_00645_00645, 0x0FD6D_00634_00645_00645,
  0x0FD6E_00636_0062D_00649, 0x0FD6F_00636_0062E_00645, 0x0FD70_00636_0062E_00645,
  0x0FD71_00637_00645_0062D, 0x0FD72_00637_00645_0062D, 0x0FD73_00637_00645_00645,
  0x0FD74_00637_00645_0064A, 0x0FD75_00639_0062C_00645, 0x0FD76_00639_00645_00645,
  0x0FD77_00639_00645_00645, 0x0FD78_00639_00645_00649, 0x0FD79_0063A_00645_00645,
  0x0FD7A_0063A_00645_0064A, 0x0FD7B_0063A_00645_00649, 0x0FD7C_00641_0062E_00645,
  0x0FD7D_00641_0062E_00645, 0x0FD7E_00642_00645_0062D, 0x0FD7F_00642_00645_00645,
  0x0FD80_00644_0062D_00645, 0x0FD81_00644_0062D_0064A, 0x0FD82_00644_0062D_00649,
  0x0FD83_00644_0062C_0062C, 0x0FD84_00644_0062C_0062C, 0x0FD85_00644_0062E_00645,
  0x0FD86_00644_0062E_00645, 0x0FD87_00644_00645_0062D, 0x0FD88_00644_00645_0062D,
  0x0FD89_00645_0062D_0062C, 0x0FD8A_00645_0062D_00645, 0x0FD8B_00645_0062D_0064A,
  0x0FD8C_00645_0062C_0062D, 0x0FD8D_00645_0062C_00645, 0x0FD8E_00645_0062E_0062C,
  0x0FD8F_00645_0062E_00645, 0x0FD92_00645_0062C_0062E, 0x0FD93_00647_00645_0062C,
  0x0FD94_00647_00645_00645, 0x0FD95_00646_0062D_00645, 0x0FD96_00646_0062D_00649,
  0x0FD97_00646_0062C_00645, 0x0FD98_00646_0062C_00645, 0x0FD99_00646_0062C_00649,
  0x0FD9A_00646_00645_0064A, 0x0FD9B_00646_00645_00649, 0x0FD9C_0064A_00645_00645,
  0x0FD9D_0064A_00645_00645, 0x0FD9E_00628_0062E_0064A, 0x0FD9F_0062A_0062C_0064A,
  0x0FDA0_0062A_0062C_00649, 0x0FDA1_0062A_0062E_0064A, 0x0FDA2_0062A_0062E_00649,
  0x0FDA3_0062A_00645_0064A, 0x0FDA4_0062A_00645_00649, 0x0FDA5_0062C_00645_0064A,
  0x0FDA6_0062C_0062D_00649, 0x0FDA7_0062C_00645_00649, 0x0FDA8_00633_0062E_00649,
  0x0FDA9_00635_0062D_0064A, 0x0FDAA_00634_0062D_0064A, 0x0FDAB_00636_0062D_0064A,
  0x0FDAC_00644_0062C_0064A, 0x0FDAD_00644_00645_0064A, 0x0FDAE_0064A_0062D_0064A,
  0x0FDAF_0064A_0062C_0064A, 0x0FDB0_0064A_00645_0064A, 0x0FDB1_00645_00645_0064A,
  0x0FDB2_00642_00645_0064A, 0x0FDB3_00646_0062D_0064A, 0x0FDB4_00642_00645_0062D,
  0x0FDB5_00644_0062D_00645, 0x0FDB6_00639_00645_0064A, 0x0FDB7_00643_00645_0064A,
  0x0FDB8_00646_0062C_0062D, 0x0FDB9_00645_0062E_0064A, 0x0FDBA_00644_0062C_00645,
  0x0FDBB_00643_00645_00645, 0x0FDBC_00644_0062C_00645, 0x0FDBD_00646_0062C_0062D,
  0x0FDBE_0062C_0062D_0064A, 0x0FDBF_0062D_0062C_0064A, 0x0FDC0_00645_0062C_0064A,
  0x0FDC1_00641_00645_0064A, 0x0FDC2_00628_0062D_0064A, 0x0FDC3_00643_00645_00645,
  0x0FDC4_00639_0062C_00645, 0x0FDC5_00635_00645_00645, 0x0FDC6_00633_0062E_0064A,
  0x0FDC7_00646_0062C_0064A, 0x0FDF0_00635_00644_006D2, 0x0FDF1_00642_00644_006D2,
  0x0FDF2_00627_00644_00644_00647, 0x0FDF3_00627_00643_00628_00631,
  0x0FDF4_00645_0062D_00645_0062F, 0x0FDF5_00635_00644_00639_00645,
  0x0FDF6_00631_00633_00648_00644, 0x0FDF7_00639_00644_0064A_00647,
  0x0FDF8_00648_00633_00644_00645, 0x0FDF9_00635_00644_00649,
  0x0FDFA_00635_00644_00649_00020_00627_00644_00644_00647_00020_00639_00644_0064A_00647_00020_00648_00633_00644_00645,
  0x0FDFB_0062C_00644_00020_0062C_00644_00627_00644_00647, 0x0FDFC_00631_006CC_00627_00644,
  0x0FE10_0002C, 0x0FE11_03001, 0x0FE12_03002, 0x0FE13_0003A, 0x0FE14_0003B, 0x0FE15_00021,
  0x0FE16_0003F, 0x0FE17_03016, 0x0FE18_03017, 0x0FE19_0002E_0002E_0002E, 0x0FE30_0002E_0002E,
  0x0FE31_02014, 0x0FE32_02013, 0x0FE33_0005F, 0x0FE34_0005F, 0x0FE35_00028, 0x0FE36_00029,
  0x0FE37_0007B, 0x0FE38_0007D, 0x0FE39_03014, 0x0FE3A_03015, 0x0FE3B_03010, 0x0FE3C_03011,
  0x0FE3D_0300A, 0x0FE3E_0300B, 0x0FE3F_03008, 0x0FE40_03009, 0x0FE47_0005B, 0x0FE48_0005D,
  0x0FE49_00020_00305, 0x0FE4A_00020_00305, 0x0FE4B_00020_00305, 0x0FE4C_00020_00305,
  0x0FE4D_0005F, 0x0FE4E_0005F, 0x0FE4F_0005F, 0x0FE50_0002C, 0x0FE51_03001, 0x0FE52_0002E,
  0x0FE54_0003B, 0x0FE55_0003A, 0x0FE56_0003F, 0x0FE57_00021, 0x0FE58_02014, 0x0FE59_00028,
  0x0FE5A_00029, 0x0FE5B_0007B, 0x0FE5C_0007D, 0x0FE5D_03014, 0x0FE5E_03015, 0x0FE5F_00023,
  0x0FE60_00026, 0x0FE61_0002A, 0x0FE62_0002B, 0x0FE63_0002D, 0x0FE64_0003C, 0x0FE65_0003E,
  0x0FE66_0003D, 0x0FE68_0005C, 0x0FE69_00024, 0x0FE6A_00025, 0x0FE6B_00040,
  0x0FE70_00020_0064B, 0x0FE71_00640_0064B, 0x0FE72_00020_0064C, 0x0FE74_00020_0064D,
  0x0FE76_00020_0064E, 0x0FE77_00640_0064E, 0x0FE78_00020_0064F, 0x0FE79_00640_0064F,
  0x0FE7A_00020_00650, 0x0FE7B_00640_00650, 0x0FE7C_00020_00651, 0x0FE7D_00640_00651,
  0x0FE7E_00020_00652, 0x0FE7F_00640_00652, 0x0FE80_00621, 0x0FE81_00627_00653,
  0x0FE82_00627_00653, 0x0FE83_00627_00654, 0x0FE84_00627_00654, 0x0FE85_00648_00654,
  0x0FE86_00648_00654, 0x0FE87_00627_00655, 0x0FE88_00627_00655, 0x0FE89_0064A_00654,
  0x0FE8A_0064A_00654, 0x0FE8B_0064A_00654, 0x0FE8C_0064A_00654, 0x0FE8D_00627, 0x0FE8E_00627,
  0x0FE8F_00628, 0x0FE90_00628, 0x0FE91_00628, 0x0FE92_00628, 0x0FE93_00629, 0x0FE94_00629,
  0x0FE95_0062A, 0x0FE96_0062A, 0x0FE97_0062A, 0x0FE98_0062A, 0x0FE99_0062B, 0x0FE9A_0062B,
  0x0FE9B_0062B, 0x0FE9C_0062B, 0x0FE9D_0062C, 0x0FE9E_0062C, 0x0FE9F_0062C, 0x0FEA0_0062C,
  0x0FEA1_0062D, 0x0FEA2_0062D, 0x0FEA3_0062D, 0x0FEA4_0062D, 0x0FEA5_0062E, 0x0FEA6_0062E,
  0x0FEA7_0062E, 0x0FEA8_0062E, 0x0FEA9_0062F, 0x0FEAA_0062F, 0x0FEAB_00630, 0x0FEAC_00630,
  0x0FEAD_00631, 0x0FEAE_00631, 0x0FEAF_00632, 0x0FEB0_00632, 0x0FEB1_00633, 0x0FEB2_00633,
  0x0FEB3_00633, 0x0FEB4_00633, 0x0FEB5_00634, 0x0FEB6_00634, 0x0FEB7_00634, 0x0FEB8_00634,
  0x0FEB9_00635, 0x0FEBA_00635, 0x0FEBB_00635, 0x0FEBC_00635, 0x0FEBD_00636, 0x0FEBE_00636,
  0x0FEBF_00636, 0x0FEC0_00636, 0x0FEC1_00637, 0x0FEC2_00637, 0x0FEC3_00637, 0x0FEC4_00637,
  0x0FEC5_00638, 0x0FEC6_00638, 0x0FEC7_00638, 0x0FEC8_00638, 0x0FEC9_00639, 0x0FECA_00639,
  0x0FECB_00639, 0x0FECC_00639, 0x0FECD_0063A, 0x0FECE_0063A, 0x0FECF_0063A, 0x0FED0_0063A,
  0x0FED1_00641, 0x0FED2_00641, 0x0FED3_00641, 0x0FED4_00641, 0x0FED5_00642, 0x0FED6_00642,
  0x0FED7_00642, 0x0FED8_00642, 0x0FED9_00643, 0x0FEDA_00643, 0x0FEDB_00643, 0x0FEDC_00643,
  0x0FEDD_00644, 0x0FEDE_00644, 0x0FEDF_00644, 0x0FEE0_00644, 0x0FEE1_00645, 0x0FEE2_00645,
  0x0FEE3_00645, 0x0FEE4_00645, 0x0FEE5_00646, 0x0FEE6_00646, 0x0FEE7_00646, 0x0FEE8_00646,
  0x0FEE9_00647, 0x0FEEA_00647, 0x0FEEB_00647, 0x0FEEC_00647, 0x0FEED_00648, 0x0FEEE_00648,
  0x0FEEF_00649, 0x0FEF0_00649, 0x0FEF1_0064A, 0x0FEF2_0064A, 0x0FEF3_0064A, 0x0FEF4_0064A,
  0x0FEF5_00644_00627_00653, 0x0FEF6_00644_00627_00653, 0x0FEF7_00644_00627_00654,
  0x0FEF8_00644_00627_00654, 0x0FEF9_00644_00627_00655, 0x0FEFA_00644_00627_00655,
  0x0FEFB_00644_00627, 0x0FEFC_00644_00627, 0x0FF5F_02985, 0x0FF60_02986, 0x0FF61_03002,
  0x0FF62_0300C, 0x0FF63_0300D, 0x0FF64_03001, 0x0FF65_030FB, 0x0FF66_030F2, 0x0FF67_030A1,
  0x0FF68_030A3, 0x0FF69_030A5, 0x0FF6A_030A7, 0x0FF6B_030A9, 0x0FF6C_030E3, 0x0FF6D_030E5,
  0x0FF6E_030E7, 0x0FF6F_030C3, 0x0FF70_030FC, 0x0FF71_030A2, 0x0FF72_030A4, 0x0FF73_030A6,
  0x0FF74_030A8, 0x0FF75_030AA, 0x0FF76_030AB, 0x0FF77_030AD, 0x0FF78_030AF, 0x0FF79_030B1,
  0x0FF7A_030B3, 0x0FF7B_030B5, 0x0FF7C_030B7, 0x0FF7D_030B9, 0x0FF7E_030BB, 0x0FF7F_030BD,
  0x0FF80_030BF, 0x0FF81_030C1, 0x0FF82_030C4, 0x0FF83_030C6, 0x0FF84_030C8, 0x0FF8B_030D2,
  0x0FF8C_030D5, 0x0FF8D_030D8, 0x0FF8E_030DB, 0x0FF94_030E4, 0x0FF95_030E6, 0x0FF9C_030EF,
  0x0FF9D_030F3, 0x0FF9E_03099, 0x0FF9F_0309A, 0x0FFA0_01160, 0x0FFA1_01100, 0x0FFA2_01101,
  0x0FFA3_011AA, 0x0FFA4_01102, 0x0FFA5_011AC, 0x0FFA6_011AD, 0x0FFB0_0111A, 0x0FFB4_01121,
  0x0FFE0_000A2, 0x0FFE1_000A3, 0x0FFE2_000AC, 0x0FFE3_00020_00304, 0x0FFE4_000A6,
  0x0FFE5_000A5, 0x0FFE6_020A9, 0x0FFE8_02502, 0x0FFED_025A0, 0x0FFEE_025CB,
  0x105C9_105D2_00307, 0x105E4_105DA_00307, 0x10781_002D0, 0x10782_002D1, 0x10783_000E6,
  0x10784_00299, 0x10785_00253, 0x10787_002A3, 0x10788_0AB66, 0x10789_002A5, 0x1078A_002A4,
  0x1078B_00256, 0x1078C_00257, 0x1078D_01D91, 0x1078E_00258, 0x1078F_0025E, 0x10790_002A9,
  0x10791_00264, 0x10792_00262, 0x10793_00260, 0x10794_0029B, 0x10795_00127, 0x10796_0029C,
  0x10797_00267, 0x10798_00284, 0x10799_002AA, 0x1079A_002AB, 0x1079B_0026C, 0x1079C_1DF04,
  0x1079D_0A78E, 0x1079E_0026E, 0x1079F_1DF05, 0x107A0_0028E, 0x107A1_1DF06, 0x107A2_000F8,
  0x107A3_00276, 0x107A4_00277, 0x107A5_00071, 0x107A6_0027A, 0x107A7_1DF08, 0x107A8_0027D,
  0x107A9_0027E, 0x107AA_00280, 0x107AB_002A8, 0x107AC_002A6, 0x107AD_0AB67, 0x107AE_002A7,
  0x107AF_00288, 0x107B0_02C71, 0x107B2_0028F, 0x107B3_002A1, 0x107B4_002A2, 0x107B5_00298,
  0x107B9_1DF0A, 0x107BA_1DF1E, 0x1109A_11099_110BA, 0x1109C_1109B_110BA, 0x110AB_110A5_110BA,
  0x1112E_11131_11127, 0x1112F_11132_11127, 0x1134B_11347_1133E, 0x1134C_11347_11357,
  0x11383_11382_113C9, 0x11385_11384_113BB, 0x1138E_1138B_113C2, 0x11391_11390_113C9,
  0x113C5_113C2_113C2, 0x113C7_113C2_113B8, 0x113C8_113C2_113C9, 0x114BB_114B9_114BA,
  0x114BC_114B9_114B0, 0x114BE_114B9_114BD, 0x115BA_115B8_115AF, 0x115BB_115B9_115AF,
  0x11938_11935_11930, 0x16121_1611E_1611E, 0x16122_1611E_16129, 0x16123_1611E_1611F,
  0x16124_16129_1611F, 0x16125_1611E_16120, 0x16126_1611E_1611E_1611F,
  0x16127_1611E_16129_1611F, 0x16128_1611E_1611E_16120, 0x16D68_16D67_16D67,
  0x16D69_16D63_16D67, 0x16D6A_16D63_16D67_16D67, 0x1D15E_1D157_1D165, 0x1D15F_1D158_1D165,
  0x1D160_1D158_1D165_1D16E, 0x1D161_1D158_1D165_1D16F, 0x1D162_1D158_1D165_1D170,
  0x1D163_1D158_1D165_1D171, 0x1D164_1D158_1D165_1D172, 0x1D1BB_1D1B9_1D165,
  0x1D1BC_1D1BA_1D165, 0x1D1BD_1D1B9_1D165_1D16E, 0x1D1BE_1D1BA_1D165_1D16E,
  0x1D1BF_1D1B9_1D165_1D16F, 0x1D1C0_1D1BA_1D165_1D16F, 0x1D49C_00041, 0x1D49E_00043,
  0x1D49F_00044, 0x1D4A2_00047, 0x1D4A5_0004A, 0x1D4A6_0004B, 0x1D4BB_00066, 0x1D504_00041,
  0x1D505_00042, 0x1D538_00041, 0x1D539_00042, 0x1D546_0004F, 0x1D6A4_00131, 0x1D6A5_00237,
  0x1D6B9_00398, 0x1D6C1_02207, 0x1D6DB_02202, 0x1D6DC_003B5, 0x1D6DD_003B8, 0x1D6DE_003BA,
  0x1D6DF_003C6, 0x1D6E0_003C1, 0x1D6E1_003C0, 0x1D6F3_00398, 0x1D6FB_02207, 0x1D715_02202,
  0x1D716_003B5, 0x1D717_003B8, 0x1D718_003BA, 0x1D719_003C6, 0x1D71A_003C1, 0x1D71B_003C0,
  0x1D72D_00398, 0x1D735_02207, 0x1D74F_02202, 0x1D750_003B5, 0x1D751_003B8, 0x1D752_003BA,
  0x1D753_003C6, 0x1D754_003C1, 0x1D755_003C0, 0x1D767_00398, 0x1D76F_02207, 0x1D789_02202,
  0x1D78A_003B5, 0x1D78B_003B8, 0x1D78C_003BA, 0x1D78D_003C6, 0x1D78E_003C1, 0x1D78F_003C0,
  0x1D7A1_00398, 0x1D7A9_02207, 0x1D7C3_02202, 0x1D7C4_003B5, 0x1D7C5_003B8, 0x1D7C6_003BA,
  0x1D7C7_003C6, 0x1D7C8_003C1, 0x1D7C9_003C0, 0x1D7CA_003DC, 0x1D7CB_003DD, 0x1E047_0044B,
  0x1E048_0044D, 0x1E049_0044E, 0x1E04A_0A689, 0x1E04B_004D9, 0x1E04C_00456, 0x1E04D_00458,
  0x1E04E_004E9, 0x1E04F_004AF, 0x1E050_004CF, 0x1E05A_0043A, 0x1E05B_0043B, 0x1E05C_0043E,
  0x1E05D_0043F, 0x1E05E_00441, 0x1E065_0044A, 0x1E066_0044B, 0x1E067_00491, 0x1E068_00456,
  0x1E069_00455, 0x1E06A_0045F, 0x1E06B_004AB, 0x1E06C_0A651, 0x1E06D_004B1, 0x1EE00_00627,
  0x1EE01_00628, 0x1EE02_0062C, 0x1EE03_0062F, 0x1EE05_00648, 0x1EE06_00632, 0x1EE07_0062D,
  0x1EE08_00637, 0x1EE09_0064A, 0x1EE0E_00633, 0x1EE0F_00639, 0x1EE10_00641, 0x1EE11_00635,
  0x1EE12_00642, 0x1EE13_00631, 0x1EE14_00634, 0x1EE15_0062A, 0x1EE16_0062B, 0x1EE17_0062E,
  0x1EE18_00630, 0x1EE19_00636, 0x1EE1A_00638, 0x1EE1B_0063A, 0x1EE1C_0066E, 0x1EE1D_006BA,
  0x1EE1E_006A1, 0x1EE1F_0066F, 0x1EE21_00628, 0x1EE22_0062C, 0x1EE24_00647, 0x1EE27_0062D,
  0x1EE29_0064A, 0x1EE2E_00633, 0x1EE2F_00639, 0x1EE30_00641, 0x1EE31_00635, 0x1EE32_00642,
  0x1EE34_00634, 0x1EE35_0062A, 0x1EE36_0062B, 0x1EE37_0062E, 0x1EE39_00636, 0x1EE3B_0063A,
  0x1EE42_0062C, 0x1EE47_0062D, 0x1EE49_0064A, 0x1EE4B_00644, 0x1EE4D_00646, 0x1EE4E_00633,
  0x1EE4F_00639, 0x1EE51_00635, 0x1EE52_00642, 0x1EE54_00634, 0x1EE57_0062E, 0x1EE59_00636,
  0x1EE5B_0063A, 0x1EE5D_006BA, 0x1EE5F_0066F, 0x1EE61_00628, 0x1EE62_0062C, 0x1EE64_00647,
  0x1EE67_0062D, 0x1EE68_00637, 0x1EE69_0064A, 0x1EE6A_00643, 0x1EE6C_00645, 0x1EE6D_00646,
  0x1EE6E_00633, 0x1EE6F_00639, 0x1EE70_00641, 0x1EE71_00635, 0x1EE72_00642, 0x1EE74_00634,
  0x1EE75_0062A, 0x1EE76_0062B, 0x1EE77_0062E, 0x1EE79_00636, 0x1EE7A_00638, 0x1EE7B_0063A,
  0x1EE7C_0066E, 0x1EE7E_006A1, 0x1EE80_00627, 0x1EE81_00628, 0x1EE82_0062C, 0x1EE83_0062F,
  0x1EE84_00647, 0x1EE85_00648, 0x1EE86_00632, 0x1EE87_0062D, 0x1EE88_00637, 0x1EE89_0064A,
  0x1EE8E_00633, 0x1EE8F_00639, 0x1EE90_00641, 0x1EE91_00635, 0x1EE92_00642, 0x1EE93_00631,
  0x1EE94_00634, 0x1EE95_0062A, 0x1EE96_0062B, 0x1EE97_0062E, 0x1EE98_00630, 0x1EE99_00636,
  0x1EE9A_00638, 0x1EE9B_0063A, 0x1EEA1_00628, 0x1EEA2_0062C, 0x1EEA3_0062F, 0x1EEA5_00648,
  0x1EEA6_00632, 0x1EEA7_0062D, 0x1EEA8_00637, 0x1EEA9_0064A, 0x1EEAE_00633, 0x1EEAF_00639,
  0x1EEB0_00641, 0x1EEB1_00635, 0x1EEB2_00642, 0x1EEB3_00631, 0x1EEB4_00634, 0x1EEB5_0062A,
  0x1EEB6_0062B, 0x1EEB7_0062E, 0x1EEB8_00630, 0x1EEB9_00636, 0x1EEBA_00638, 0x1EEBB_0063A,
  0x1F100_00030_0002E, 0x1F101_00030_0002C, 0x1F102_00031_0002C, 0x1F103_00032_0002C,
  0x1F104_00033_0002C, 0x1F105_00034_0002C, 0x1F106_00035_0002C, 0x1F107_00036_0002C,
  0x1F108_00037_0002C, 0x1F109_00038_0002C, 0x1F10A_00039_0002C, 0x1F110_00028_00041_00029,
  0x1F111_00028_00042_00029, 0x1F112_00028_00043_00029, 0x1F113_00028_00044_00029,
  0x1F114_00028_00045_00029, 0x1F115_00028_00046_00029, 0x1F116_00028_00047_00029,
  0x1F117_00028_00048_00029, 0x1F118_00028_00049_00029, 0x1F119_00028_0004A_00029,
  0x1F11A_00028_0004B_00029, 0x1F11B_00028_0004C_00029, 0x1F11C_00028_0004D_00029,
  0x1F11D_00028_0004E_00029, 0x1F11E_00028_0004F_00029, 0x1F11F_00028_00050_00029,
  0x1F120_00028_00051_00029, 0x1F121_00028_00052_00029, 0x1F122_00028_00053_00029,
  0x1F123_00028_00054_00029, 0x1F124_00028_00055_00029, 0x1F125_00028_00056_00029,
  0x1F126_00028_00057_00029, 0x1F127_00028_00058_00029, 0x1F128_00028_00059_00029,
  0x1F129_00028_0005A_00029, 0x1F12A_03014_00053_03015, 0x1F12B_00043, 0x1F12C_00052,
  0x1F12D_00043_00044, 0x1F12E_00057_0005A, 0x1F14A_00048_00056, 0x1F14B_0004D_00056,
  0x1F14C_00053_00044, 0x1F14D_00053_00053, 0x1F14E_00050_00050_00056, 0x1F14F_00057_00043,
  0x1F16A_0004D_00043, 0x1F16B_0004D_00044, 0x1F16C_0004D_00052, 0x1F190_00044_0004A,
  0x1F200_0307B_0304B, 0x1F201_030B3_030B3, 0x1F202_030B5, 0x1F210_0624B, 0x1F211_05B57,
  0x1F212_053CC, 0x1F213_030C6_03099, 0x1F214_04E8C, 0x1F215_0591A, 0x1F216_089E3,
  0x1F217_05929, 0x1F218_04EA4, 0x1F219_06620, 0x1F21A_07121, 0x1F21B_06599, 0x1F21C_0524D,
  0x1F21D_05F8C, 0x1F21E_0518D, 0x1F21F_065B0, 0x1F220_0521D, 0x1F221_07D42, 0x1F222_0751F,
  0x1F223_08CA9, 0x1F224_058F0, 0x1F225_05439, 0x1F226_06F14, 0x1F227_06295, 0x1F228_06355,
  0x1F229_04E00, 0x1F22A_04E09, 0x1F22B_0904A, 0x1F22C_05DE6, 0x1F22D_04E2D, 0x1F22E_053F3,
  0x1F22F_06307, 0x1F230_08D70, 0x1F231_06253, 0x1F232_07981, 0x1F233_07A7A, 0x1F234_05408,
  0x1F235_06E80, 0x1F236_06709, 0x1F237_06708, 0x1F238_07533, 0x1F239_05272, 0x1F23A_055B6,
  0x1F23B_0914D, 0x1F240_03014_0672C_03015, 0x1F241_03014_04E09_03015,
  0x1F242_03014_04E8C_03015, 0x1F243_03014_05B89_03015, 0x1F244_03014_070B9_03015,
  0x1F245_03014_06253_03015, 0x1F246_03014_076D7_03015, 0x1F247_03014_052DD_03015,
  0x1F248_03014_06557_03015, 0x1F250_05F97, 0x1F251_053EF]

end PriceSurvey.Text
