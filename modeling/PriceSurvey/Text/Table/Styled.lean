/-!
# Runs of characters with parallel decompositions

Alphabets that Unicode 17 encodes a second time in another style: the characters of a run
decompose, one for one, into the characters of another run.
-/
namespace PriceSurvey.Text

/-- Consecutive characters that decompose into consecutive single characters. -/
structure StyledRun where
  first : Nat
  last : Nat
  plain : Nat
  deriving DecidableEq, Repr

/-- The styled runs, in ascending order. -/
def styledRuns : List StyledRun := [
  ⟨0x1D33, 0x1D3A, 0x47⟩, ⟨0x1D5D, 0x1D5F, 0x3B2⟩, ⟨0x1DA4, 0x1DA6, 0x268⟩,
  ⟨0x1DAE, 0x1DB1, 0x272⟩, ⟨0x1DBC, 0x1DBE, 0x290⟩, ⟨0x2074, 0x2079, 0x34⟩,
  ⟨0x2080, 0x2089, 0x30⟩, ⟨0x2096, 0x2099, 0x6B⟩, ⟨0x2119, 0x211B, 0x50⟩,
  ⟨0x2135, 0x2138, 0x5D0⟩, ⟨0x2460, 0x2468, 0x31⟩, ⟨0x24B6, 0x24CF, 0x41⟩,
  ⟨0x24D0, 0x24E9, 0x61⟩, ⟨0x3137, 0x3139, 0x1103⟩, ⟨0x313A, 0x313F, 0x11B0⟩,
  ⟨0x3141, 0x3143, 0x1106⟩, ⟨0x3145, 0x314E, 0x1109⟩, ⟨0x314F, 0x3163, 0x1161⟩,
  ⟨0x3178, 0x317C, 0x112B⟩, ⟨0x3184, 0x3186, 0x1157⟩, ⟨0x3263, 0x3265, 0x1105⟩,
  ⟨0x3269, 0x326D, 0x110E⟩, ⟨0x32E4, 0x32E9, 0x30CA⟩, ⟨0x32EE, 0x32F2, 0x30DE⟩,
  ⟨0x32F5, 0x32FA, 0x30E8⟩, ⟨0x32FB, 0x32FE, 0x30EF⟩, ⟨0xFB24, 0xFB26, 0x5DB⟩,
  ⟨0xFE41, 0xFE44, 0x300C⟩, ⟨0xFF01, 0xFF5E, 0x21⟩, ⟨0xFF85, 0xFF8A, 0x30CA⟩,
  ⟨0xFF8F, 0xFF93, 0x30DE⟩, ⟨0xFF96, 0xFF9B, 0x30E8⟩, ⟨0xFFA7, 0xFFA9, 0x1103⟩,
  ⟨0xFFAA, 0xFFAF, 0x11B0⟩, ⟨0xFFB1, 0xFFB3, 0x1106⟩, ⟨0xFFB5, 0xFFBE, 0x1109⟩,
  ⟨0xFFC2, 0xFFC7, 0x1161⟩, ⟨0xFFCA, 0xFFCF, 0x1167⟩, ⟨0xFFD2, 0xFFD7, 0x116D⟩,
  ⟨0xFFDA, 0xFFDC, 0x1173⟩, ⟨0xFFE9, 0xFFEC, 0x2190⟩, ⟨0x107B6, 0x107B8, 0x1C0⟩,
  ⟨0x1CCD6, 0x1CCEF, 0x41⟩, ⟨0x1CCF0, 0x1CCF9, 0x30⟩, ⟨0x1D400, 0x1D419, 0x41⟩,
  ⟨0x1D41A, 0x1D433, 0x61⟩, ⟨0x1D434, 0x1D44D, 0x41⟩, ⟨0x1D44E, 0x1D454, 0x61⟩,
  ⟨0x1D456, 0x1D467, 0x69⟩, ⟨0x1D468, 0x1D481, 0x41⟩, ⟨0x1D482, 0x1D49B, 0x61⟩,
  ⟨0x1D4A9, 0x1D4AC, 0x4E⟩, ⟨0x1D4AE, 0x1D4B5, 0x53⟩, ⟨0x1D4B6, 0x1D4B9, 0x61⟩,
  ⟨0x1D4BD, 0x1D4C3, 0x68⟩, ⟨0x1D4C5, 0x1D4CF, 0x70⟩, ⟨0x1D4D0, 0x1D4E9, 0x41⟩,
  ⟨0x1D4EA, 0x1D503, 0x61⟩, ⟨0x1D507, 0x1D50A, 0x44⟩, ⟨0x1D50D, 0x1D514, 0x4A⟩,
  ⟨0x1D516, 0x1D51C, 0x53⟩, ⟨0x1D51E, 0x1D537, 0x61⟩, ⟨0x1D53B, 0x1D53E, 0x44⟩,
  ⟨0x1D540, 0x1D544, 0x49⟩, ⟨0x1D54A, 0x1D550, 0x53⟩, ⟨0x1D552, 0x1D56B, 0x61⟩,
  ⟨0x1D56C, 0x1D585, 0x41⟩, ⟨0x1D586, 0x1D59F, 0x61⟩, ⟨0x1D5A0, 0x1D5B9, 0x41⟩,
  ⟨0x1D5BA, 0x1D5D3, 0x61⟩, ⟨0x1D5D4, 0x1D5ED, 0x41⟩, ⟨0x1D5EE, 0x1D607, 0x61⟩,
  ⟨0x1D608, 0x1D621, 0x41⟩, ⟨0x1D622, 0x1D63B, 0x61⟩, ⟨0x1D63C, 0x1D655, 0x41⟩,
  ⟨0x1D656, 0x1D66F, 0x61⟩, ⟨0x1D670, 0x1D689, 0x41⟩, ⟨0x1D68A, 0x1D6A3, 0x61⟩,
  ⟨0x1D6A8, 0x1D6B8, 0x391⟩, ⟨0x1D6BA, 0x1D6C0, 0x3A3⟩, ⟨0x1D6C2, 0x1D6DA, 0x3B1⟩,
  ⟨0x1D6E2, 0x1D6F2, 0x391⟩, ⟨0x1D6F4, 0x1D6FA, 0x3A3⟩, ⟨0x1D6FC, 0x1D714, 0x3B1⟩,
  ⟨0x1D71C, 0x1D72C, 0x391⟩, ⟨0x1D72E, 0x1D734, 0x3A3⟩, ⟨0x1D736, 0x1D74E, 0x3B1⟩,
  ⟨0x1D756, 0x1D766, 0x391⟩, ⟨0x1D768, 0x1D76E, 0x3A3⟩, ⟨0x1D770, 0x1D788, 0x3B1⟩,
  ⟨0x1D790, 0x1D7A0, 0x391⟩, ⟨0x1D7A2, 0x1D7A8, 0x3A3⟩, ⟨0x1D7AA, 0x1D7C2, 0x3B1⟩,
  ⟨0x1D7CE, 0x1D7D7, 0x30⟩, ⟨0x1D7D8, 0x1D7E1, 0x30⟩, ⟨0x1D7E2, 0x1D7EB, 0x30⟩,
  ⟨0x1D7EC, 0x1D7F5, 0x30⟩, ⟨0x1D7F6, 0x1D7FF, 0x30⟩, ⟨0x1E030, 0x1E038, 0x430⟩,
  ⟨0x1E039, 0x1E03B, 0x43A⟩, ⟨0x1E03C, 0x1E046, 0x43E⟩, ⟨0x1E051, 0x1E059, 0x430⟩,
  ⟨0x1E05F, 0x1E064, 0x443⟩, ⟨0x1EE0A, 0x1EE0D, 0x643⟩, ⟨0x1EE2A, 0x1EE2D, 0x643⟩,
  ⟨0x1EE8B, 0x1EE8D, 0x644⟩, ⟨0x1EEAB, 0x1EEAD, 0x644⟩, ⟨0x1F130, 0x1F149, 0x41⟩,
  ⟨0x1FBF0, 0x1FBF9, 0x30⟩]

end PriceSurvey.Text
