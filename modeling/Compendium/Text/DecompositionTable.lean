import Compendium.Text.Ranges

/-!
# Compatibility decompositions of Unicode 14.0

What each character decomposes to, all the way, and the characters that combine with the one
before. The syllables of Hangul follow a rule and are not listed. `Compendium.Text.Decomposition`
reads the tables.
-/

namespace Compendium.Text

set_option maxRecDepth 20000

/-- Characters that stand for one other character, in runs. -/
def decompositionRuns : List Run :=
  [⟨0x1D33, 0x1D3A, 1, 0x47⟩, ⟨0x2074, 0x2079, 1, 0x34⟩, ⟨0x2080, 0x2089, 1, 0x30⟩,
  ⟨0x2460, 0x2468, 1, 0x31⟩, ⟨0x24B6, 0x24CF, 1, 0x41⟩, ⟨0x24D0, 0x24E9, 1, 0x61⟩,
  ⟨0x313A, 0x313F, 1, 0x11B0⟩, ⟨0x3145, 0x314E, 1, 0x1109⟩, ⟨0x314F, 0x3163, 1, 0x1161⟩,
  ⟨0x32E4, 0x32E9, 1, 0x30CA⟩, ⟨0x32F5, 0x32FA, 1, 0x30E8⟩, ⟨0xFF01, 0xFF5E, 1, 0x21⟩,
  ⟨0xFF85, 0xFF8A, 1, 0x30CA⟩, ⟨0xFF96, 0xFF9B, 1, 0x30E8⟩, ⟨0xFFAA, 0xFFAF, 1, 0x11B0⟩,
  ⟨0xFFB5, 0xFFBE, 1, 0x1109⟩, ⟨0xFFC2, 0xFFC7, 1, 0x1161⟩, ⟨0xFFCA, 0xFFCF, 1, 0x1167⟩,
  ⟨0xFFD2, 0xFFD7, 1, 0x116D⟩, ⟨0x1D400, 0x1D419, 1, 0x41⟩, ⟨0x1D41A, 0x1D433, 1, 0x61⟩,
  ⟨0x1D434, 0x1D44D, 1, 0x41⟩, ⟨0x1D44E, 0x1D454, 1, 0x61⟩, ⟨0x1D456, 0x1D467, 1, 0x69⟩,
  ⟨0x1D468, 0x1D481, 1, 0x41⟩, ⟨0x1D482, 0x1D49B, 1, 0x61⟩, ⟨0x1D4AE, 0x1D4B5, 1, 0x53⟩,
  ⟨0x1D4BE, 0x1D4C3, 1, 0x69⟩, ⟨0x1D4C5, 0x1D4CF, 1, 0x70⟩, ⟨0x1D4D0, 0x1D4E9, 1, 0x41⟩,
  ⟨0x1D4EA, 0x1D503, 1, 0x61⟩, ⟨0x1D50D, 0x1D514, 1, 0x4A⟩, ⟨0x1D516, 0x1D51C, 1, 0x53⟩,
  ⟨0x1D51E, 0x1D537, 1, 0x61⟩, ⟨0x1D54A, 0x1D550, 1, 0x53⟩, ⟨0x1D552, 0x1D56B, 1, 0x61⟩,
  ⟨0x1D56C, 0x1D585, 1, 0x41⟩, ⟨0x1D586, 0x1D59F, 1, 0x61⟩, ⟨0x1D5A0, 0x1D5B9, 1, 0x41⟩,
  ⟨0x1D5BA, 0x1D5D3, 1, 0x61⟩, ⟨0x1D5D4, 0x1D5ED, 1, 0x41⟩, ⟨0x1D5EE, 0x1D607, 1, 0x61⟩,
  ⟨0x1D608, 0x1D621, 1, 0x41⟩, ⟨0x1D622, 0x1D63B, 1, 0x61⟩, ⟨0x1D63C, 0x1D655, 1, 0x41⟩,
  ⟨0x1D656, 0x1D66F, 1, 0x61⟩, ⟨0x1D670, 0x1D689, 1, 0x41⟩, ⟨0x1D68A, 0x1D6A3, 1, 0x61⟩,
  ⟨0x1D6A8, 0x1D6B8, 1, 0x391⟩, ⟨0x1D6BA, 0x1D6C0, 1, 0x3A3⟩, ⟨0x1D6C2, 0x1D6DA, 1, 0x3B1⟩,
  ⟨0x1D6E2, 0x1D6F2, 1, 0x391⟩, ⟨0x1D6F4, 0x1D6FA, 1, 0x3A3⟩, ⟨0x1D6FC, 0x1D714, 1, 0x3B1⟩,
  ⟨0x1D71C, 0x1D72C, 1, 0x391⟩, ⟨0x1D72E, 0x1D734, 1, 0x3A3⟩, ⟨0x1D736, 0x1D74E, 1, 0x3B1⟩,
  ⟨0x1D756, 0x1D766, 1, 0x391⟩, ⟨0x1D768, 0x1D76E, 1, 0x3A3⟩, ⟨0x1D770, 0x1D788, 1, 0x3B1⟩,
  ⟨0x1D790, 0x1D7A0, 1, 0x391⟩, ⟨0x1D7A2, 0x1D7A8, 1, 0x3A3⟩, ⟨0x1D7AA, 0x1D7C2, 1, 0x3B1⟩,
  ⟨0x1D7CE, 0x1D7D7, 1, 0x30⟩, ⟨0x1D7D8, 0x1D7E1, 1, 0x30⟩, ⟨0x1D7E2, 0x1D7EB, 1, 0x30⟩,
  ⟨0x1D7EC, 0x1D7F5, 1, 0x30⟩, ⟨0x1D7F6, 0x1D7FF, 1, 0x30⟩, ⟨0x1F130, 0x1F149, 1, 0x41⟩,
  ⟨0x1FBF0, 0x1FBF9, 1, 0x30⟩]

/-- Letters with marks and compatibility forms below U+2000. -/
def latinBlocks : List Block :=
  [⟨0xA0, 0xA0, [[0x20]]⟩,
   ⟨0xA8, 0xAA, [[0x20, 0x308], [0xA9], [0x61]]⟩,
   ⟨0xAF, 0x17F, [[0x20, 0x304], [0xB0], [0xB1], [0x32], [0x33], [0x20, 0x301], [0x3BC], [0xB6],
    [0xB7], [0x20, 0x327], [0x31], [0x6F], [0xBB], [0x31, 0x2044, 0x34], [0x31, 0x2044, 0x32],
    [0x33, 0x2044, 0x34], [0xBF], [0x41, 0x300], [0x41, 0x301], [0x41, 0x302], [0x41, 0x303],
    [0x41, 0x308], [0x41, 0x30A], [0xC6], [0x43, 0x327], [0x45, 0x300], [0x45, 0x301],
    [0x45, 0x302], [0x45, 0x308], [0x49, 0x300], [0x49, 0x301], [0x49, 0x302], [0x49, 0x308],
    [0xD0], [0x4E, 0x303], [0x4F, 0x300], [0x4F, 0x301], [0x4F, 0x302], [0x4F, 0x303],
    [0x4F, 0x308], [0xD7], [0xD8], [0x55, 0x300], [0x55, 0x301], [0x55, 0x302], [0x55, 0x308],
    [0x59, 0x301], [0xDE], [0xDF], [0x61, 0x300], [0x61, 0x301], [0x61, 0x302], [0x61, 0x303],
    [0x61, 0x308], [0x61, 0x30A], [0xE6], [0x63, 0x327], [0x65, 0x300], [0x65, 0x301],
    [0x65, 0x302], [0x65, 0x308], [0x69, 0x300], [0x69, 0x301], [0x69, 0x302], [0x69, 0x308],
    [0xF0], [0x6E, 0x303], [0x6F, 0x300], [0x6F, 0x301], [0x6F, 0x302], [0x6F, 0x303],
    [0x6F, 0x308], [0xF7], [0xF8], [0x75, 0x300], [0x75, 0x301], [0x75, 0x302], [0x75, 0x308],
    [0x79, 0x301], [0xFE], [0x79, 0x308], [0x41, 0x304], [0x61, 0x304], [0x41, 0x306],
    [0x61, 0x306], [0x41, 0x328], [0x61, 0x328], [0x43, 0x301], [0x63, 0x301], [0x43, 0x302],
    [0x63, 0x302], [0x43, 0x307], [0x63, 0x307], [0x43, 0x30C], [0x63, 0x30C], [0x44, 0x30C],
    [0x64, 0x30C], [0x110], [0x111], [0x45, 0x304], [0x65, 0x304], [0x45, 0x306], [0x65, 0x306],
    [0x45, 0x307], [0x65, 0x307], [0x45, 0x328], [0x65, 0x328], [0x45, 0x30C], [0x65, 0x30C],
    [0x47, 0x302], [0x67, 0x302], [0x47, 0x306], [0x67, 0x306], [0x47, 0x307], [0x67, 0x307],
    [0x47, 0x327], [0x67, 0x327], [0x48, 0x302], [0x68, 0x302], [0x126], [0x127], [0x49, 0x303],
    [0x69, 0x303], [0x49, 0x304], [0x69, 0x304], [0x49, 0x306], [0x69, 0x306], [0x49, 0x328],
    [0x69, 0x328], [0x49, 0x307], [0x131], [0x49, 0x4A], [0x69, 0x6A], [0x4A, 0x302],
    [0x6A, 0x302], [0x4B, 0x327], [0x6B, 0x327], [0x138], [0x4C, 0x301], [0x6C, 0x301],
    [0x4C, 0x327], [0x6C, 0x327], [0x4C, 0x30C], [0x6C, 0x30C], [0x4C, 0xB7], [0x6C, 0xB7],
    [0x141], [0x142], [0x4E, 0x301], [0x6E, 0x301], [0x4E, 0x327], [0x6E, 0x327], [0x4E, 0x30C],
    [0x6E, 0x30C], [0x2BC, 0x6E], [0x14A], [0x14B], [0x4F, 0x304], [0x6F, 0x304], [0x4F, 0x306],
    [0x6F, 0x306], [0x4F, 0x30B], [0x6F, 0x30B], [0x152], [0x153], [0x52, 0x301], [0x72, 0x301],
    [0x52, 0x327], [0x72, 0x327], [0x52, 0x30C], [0x72, 0x30C], [0x53, 0x301], [0x73, 0x301],
    [0x53, 0x302], [0x73, 0x302], [0x53, 0x327], [0x73, 0x327], [0x53, 0x30C], [0x73, 0x30C],
    [0x54, 0x327], [0x74, 0x327], [0x54, 0x30C], [0x74, 0x30C], [0x166], [0x167], [0x55, 0x303],
    [0x75, 0x303], [0x55, 0x304], [0x75, 0x304], [0x55, 0x306], [0x75, 0x306], [0x55, 0x30A],
    [0x75, 0x30A], [0x55, 0x30B], [0x75, 0x30B], [0x55, 0x328], [0x75, 0x328], [0x57, 0x302],
    [0x77, 0x302], [0x59, 0x302], [0x79, 0x302], [0x59, 0x308], [0x5A, 0x301], [0x7A, 0x301],
    [0x5A, 0x307], [0x7A, 0x307], [0x5A, 0x30C], [0x7A, 0x30C], [0x73]]⟩,
   ⟨0x1A0, 0x1A1, [[0x4F, 0x31B], [0x6F, 0x31B]]⟩,
   ⟨0x1AF, 0x1B0, [[0x55, 0x31B], [0x75, 0x31B]]⟩,
   ⟨0x1C4, 0x21F, [[0x44, 0x5A, 0x30C], [0x44, 0x7A, 0x30C], [0x64, 0x7A, 0x30C], [0x4C, 0x4A],
    [0x4C, 0x6A], [0x6C, 0x6A], [0x4E, 0x4A], [0x4E, 0x6A], [0x6E, 0x6A], [0x41, 0x30C],
    [0x61, 0x30C], [0x49, 0x30C], [0x69, 0x30C], [0x4F, 0x30C], [0x6F, 0x30C], [0x55, 0x30C],
    [0x75, 0x30C], [0x55, 0x308, 0x304], [0x75, 0x308, 0x304], [0x55, 0x308, 0x301],
    [0x75, 0x308, 0x301], [0x55, 0x308, 0x30C], [0x75, 0x308, 0x30C], [0x55, 0x308, 0x300],
    [0x75, 0x308, 0x300], [0x1DD], [0x41, 0x308, 0x304], [0x61, 0x308, 0x304],
    [0x41, 0x307, 0x304], [0x61, 0x307, 0x304], [0xC6, 0x304], [0xE6, 0x304], [0x1E4], [0x1E5],
    [0x47, 0x30C], [0x67, 0x30C], [0x4B, 0x30C], [0x6B, 0x30C], [0x4F, 0x328], [0x6F, 0x328],
    [0x4F, 0x328, 0x304], [0x6F, 0x328, 0x304], [0x1B7, 0x30C], [0x292, 0x30C], [0x6A, 0x30C],
    [0x44, 0x5A], [0x44, 0x7A], [0x64, 0x7A], [0x47, 0x301], [0x67, 0x301], [0x1F6], [0x1F7],
    [0x4E, 0x300], [0x6E, 0x300], [0x41, 0x30A, 0x301], [0x61, 0x30A, 0x301], [0xC6, 0x301],
    [0xE6, 0x301], [0xD8, 0x301], [0xF8, 0x301], [0x41, 0x30F], [0x61, 0x30F], [0x41, 0x311],
    [0x61, 0x311], [0x45, 0x30F], [0x65, 0x30F], [0x45, 0x311], [0x65, 0x311], [0x49, 0x30F],
    [0x69, 0x30F], [0x49, 0x311], [0x69, 0x311], [0x4F, 0x30F], [0x6F, 0x30F], [0x4F, 0x311],
    [0x6F, 0x311], [0x52, 0x30F], [0x72, 0x30F], [0x52, 0x311], [0x72, 0x311], [0x55, 0x30F],
    [0x75, 0x30F], [0x55, 0x311], [0x75, 0x311], [0x53, 0x326], [0x73, 0x326], [0x54, 0x326],
    [0x74, 0x326], [0x21C], [0x21D], [0x48, 0x30C], [0x68, 0x30C]]⟩,
   ⟨0x226, 0x233, [[0x41, 0x307], [0x61, 0x307], [0x45, 0x327], [0x65, 0x327],
    [0x4F, 0x308, 0x304], [0x6F, 0x308, 0x304], [0x4F, 0x303, 0x304], [0x6F, 0x303, 0x304],
    [0x4F, 0x307], [0x6F, 0x307], [0x4F, 0x307, 0x304], [0x6F, 0x307, 0x304], [0x59, 0x304],
    [0x79, 0x304]]⟩,
   ⟨0x2B0, 0x2B8, [[0x68], [0x266], [0x6A], [0x72], [0x279], [0x27B], [0x281], [0x77], [0x79]]⟩,
   ⟨0x2D8, 0x2E4, [[0x20, 0x306], [0x20, 0x307], [0x20, 0x30A], [0x20, 0x328], [0x20, 0x303],
    [0x20, 0x30B], [0x2DE], [0x2DF], [0x263], [0x6C], [0x73], [0x78], [0x295]]⟩,
   ⟨0x340, 0x344, [[0x300], [0x301], [0x342], [0x313], [0x308, 0x301]]⟩,
   ⟨0x374, 0x374, [[0x2B9]]⟩,
   ⟨0x37A, 0x37E, [[0x20, 0x345], [0x37B], [0x37C], [0x37D], [0x3B]]⟩,
   ⟨0x384, 0x390, [[0x20, 0x301], [0x20, 0x308, 0x301], [0x391, 0x301], [0xB7], [0x395, 0x301],
    [0x397, 0x301], [0x399, 0x301], [0x38B], [0x39F, 0x301], [0x38D], [0x3A5, 0x301],
    [0x3A9, 0x301], [0x3B9, 0x308, 0x301]]⟩,
   ⟨0x3AA, 0x3B0, [[0x399, 0x308], [0x3A5, 0x308], [0x3B1, 0x301], [0x3B5, 0x301],
    [0x3B7, 0x301], [0x3B9, 0x301], [0x3C5, 0x308, 0x301]]⟩,
   ⟨0x3CA, 0x3D6, [[0x3B9, 0x308], [0x3C5, 0x308], [0x3BF, 0x301], [0x3C5, 0x301],
    [0x3C9, 0x301], [0x3CF], [0x3B2], [0x3B8], [0x3A5], [0x3A5, 0x301], [0x3A5, 0x308], [0x3C6],
    [0x3C0]]⟩,
   ⟨0x3F0, 0x3F9, [[0x3BA], [0x3C1], [0x3C2], [0x3F3], [0x398], [0x3B5], [0x3F6], [0x3F7],
    [0x3F8], [0x3A3]]⟩,
   ⟨0x400, 0x407, [[0x415, 0x300], [0x415, 0x308], [0x402], [0x413, 0x301], [0x404], [0x405],
    [0x406], [0x406, 0x308]]⟩,
   ⟨0x40C, 0x40E, [[0x41A, 0x301], [0x418, 0x300], [0x423, 0x306]]⟩,
   ⟨0x419, 0x419, [[0x418, 0x306]]⟩,
   ⟨0x439, 0x439, [[0x438, 0x306]]⟩,
   ⟨0x450, 0x457, [[0x435, 0x300], [0x435, 0x308], [0x452], [0x433, 0x301], [0x454], [0x455],
    [0x456], [0x456, 0x308]]⟩,
   ⟨0x45C, 0x45E, [[0x43A, 0x301], [0x438, 0x300], [0x443, 0x306]]⟩,
   ⟨0x476, 0x477, [[0x474, 0x30F], [0x475, 0x30F]]⟩,
   ⟨0x4C1, 0x4C2, [[0x416, 0x306], [0x436, 0x306]]⟩,
   ⟨0x4D0, 0x4F9, [[0x410, 0x306], [0x430, 0x306], [0x410, 0x308], [0x430, 0x308], [0x4D4],
    [0x4D5], [0x415, 0x306], [0x435, 0x306], [0x4D8], [0x4D9], [0x4D8, 0x308], [0x4D9, 0x308],
    [0x416, 0x308], [0x436, 0x308], [0x417, 0x308], [0x437, 0x308], [0x4E0], [0x4E1],
    [0x418, 0x304], [0x438, 0x304], [0x418, 0x308], [0x438, 0x308], [0x41E, 0x308],
    [0x43E, 0x308], [0x4E8], [0x4E9], [0x4E8, 0x308], [0x4E9, 0x308], [0x42D, 0x308],
    [0x44D, 0x308], [0x423, 0x304], [0x443, 0x304], [0x423, 0x308], [0x443, 0x308],
    [0x423, 0x30B], [0x443, 0x30B], [0x427, 0x308], [0x447, 0x308], [0x4F6], [0x4F7],
    [0x42B, 0x308], [0x44B, 0x308]]⟩,
   ⟨0x587, 0x587, [[0x565, 0x582]]⟩,
   ⟨0x622, 0x626, [[0x627, 0x653], [0x627, 0x654], [0x648, 0x654], [0x627, 0x655],
    [0x64A, 0x654]]⟩,
   ⟨0x675, 0x678, [[0x627, 0x674], [0x648, 0x674], [0x6C7, 0x674], [0x64A, 0x674]]⟩,
   ⟨0x6C0, 0x6C2, [[0x6D5, 0x654], [0x6C1], [0x6C1, 0x654]]⟩,
   ⟨0x6D3, 0x6D3, [[0x6D2, 0x654]]⟩,
   ⟨0x929, 0x929, [[0x928, 0x93C]]⟩,
   ⟨0x931, 0x934, [[0x930, 0x93C], [0x932], [0x933], [0x933, 0x93C]]⟩,
   ⟨0x958, 0x95F, [[0x915, 0x93C], [0x916, 0x93C], [0x917, 0x93C], [0x91C, 0x93C],
    [0x921, 0x93C], [0x922, 0x93C], [0x92B, 0x93C], [0x92F, 0x93C]]⟩,
   ⟨0x9CB, 0x9CC, [[0x9C7, 0x9BE], [0x9C7, 0x9D7]]⟩,
   ⟨0x9DC, 0x9DF, [[0x9A1, 0x9BC], [0x9A2, 0x9BC], [0x9DE], [0x9AF, 0x9BC]]⟩,
   ⟨0xA33, 0xA36, [[0xA32, 0xA3C], [0xA34], [0xA35], [0xA38, 0xA3C]]⟩,
   ⟨0xA59, 0xA5E, [[0xA16, 0xA3C], [0xA17, 0xA3C], [0xA1C, 0xA3C], [0xA5C], [0xA5D],
    [0xA2B, 0xA3C]]⟩,
   ⟨0xB48, 0xB4C, [[0xB47, 0xB56], [0xB49], [0xB4A], [0xB47, 0xB3E], [0xB47, 0xB57]]⟩,
   ⟨0xB5C, 0xB5D, [[0xB21, 0xB3C], [0xB22, 0xB3C]]⟩,
   ⟨0xB94, 0xB94, [[0xB92, 0xBD7]]⟩,
   ⟨0xBCA, 0xBCC, [[0xBC6, 0xBBE], [0xBC7, 0xBBE], [0xBC6, 0xBD7]]⟩,
   ⟨0xC48, 0xC48, [[0xC46, 0xC56]]⟩,
   ⟨0xCC0, 0xCC0, [[0xCBF, 0xCD5]]⟩,
   ⟨0xCC7, 0xCCB, [[0xCC6, 0xCD5], [0xCC6, 0xCD6], [0xCC9], [0xCC6, 0xCC2],
    [0xCC6, 0xCC2, 0xCD5]]⟩,
   ⟨0xD4A, 0xD4C, [[0xD46, 0xD3E], [0xD47, 0xD3E], [0xD46, 0xD57]]⟩,
   ⟨0xDDA, 0xDDE, [[0xDD9, 0xDCA], [0xDDB], [0xDD9, 0xDCF], [0xDD9, 0xDCF, 0xDCA],
    [0xDD9, 0xDDF]]⟩,
   ⟨0xE33, 0xE33, [[0xE4D, 0xE32]]⟩,
   ⟨0xEB3, 0xEB3, [[0xECD, 0xEB2]]⟩,
   ⟨0xEDC, 0xEDD, [[0xEAB, 0xE99], [0xEAB, 0xEA1]]⟩,
   ⟨0xF0C, 0xF0C, [[0xF0B]]⟩,
   ⟨0xF43, 0xF43, [[0xF42, 0xFB7]]⟩,
   ⟨0xF4D, 0xF4D, [[0xF4C, 0xFB7]]⟩,
   ⟨0xF52, 0xF52, [[0xF51, 0xFB7]]⟩,
   ⟨0xF57, 0xF57, [[0xF56, 0xFB7]]⟩,
   ⟨0xF5C, 0xF5C, [[0xF5B, 0xFB7]]⟩,
   ⟨0xF69, 0xF69, [[0xF40, 0xFB5]]⟩,
   ⟨0xF73, 0xF79, [[0xF71, 0xF72], [0xF74], [0xF71, 0xF74], [0xFB2, 0xF80],
    [0xFB2, 0xF71, 0xF80], [0xFB3, 0xF80], [0xFB3, 0xF71, 0xF80]]⟩,
   ⟨0xF81, 0xF81, [[0xF71, 0xF80]]⟩,
   ⟨0xF93, 0xF93, [[0xF92, 0xFB7]]⟩,
   ⟨0xF9D, 0xF9D, [[0xF9C, 0xFB7]]⟩,
   ⟨0xFA2, 0xFA2, [[0xFA1, 0xFB7]]⟩,
   ⟨0xFA7, 0xFA7, [[0xFA6, 0xFB7]]⟩,
   ⟨0xFAC, 0xFAC, [[0xFAB, 0xFB7]]⟩,
   ⟨0xFB9, 0xFB9, [[0xF90, 0xFB5]]⟩,
   ⟨0x1026, 0x1026, [[0x1025, 0x102E]]⟩,
   ⟨0x10FC, 0x10FC, [[0x10DC]]⟩,
   ⟨0x1B06, 0x1B12, [[0x1B05, 0x1B35], [0x1B07], [0x1B07, 0x1B35], [0x1B09], [0x1B09, 0x1B35],
    [0x1B0B], [0x1B0B, 0x1B35], [0x1B0D], [0x1B0D, 0x1B35], [0x1B0F], [0x1B10], [0x1B11],
    [0x1B11, 0x1B35]]⟩,
   ⟨0x1B3B, 0x1B43, [[0x1B3A, 0x1B35], [0x1B3C], [0x1B3C, 0x1B35], [0x1B3E], [0x1B3F],
    [0x1B3E, 0x1B35], [0x1B3F, 0x1B35], [0x1B42], [0x1B42, 0x1B35]]⟩,
   ⟨0x1D2C, 0x1D32, [[0x41], [0xC6], [0x42], [0x1D2F], [0x44], [0x45], [0x18E]]⟩,
   ⟨0x1D3C, 0x1D6A, [[0x4F], [0x222], [0x50], [0x52], [0x54], [0x55], [0x57], [0x61], [0x250],
    [0x251], [0x1D02], [0x62], [0x64], [0x65], [0x259], [0x25B], [0x25C], [0x67], [0x1D4E],
    [0x6B], [0x6D], [0x14B], [0x6F], [0x254], [0x1D16], [0x1D17], [0x70], [0x74], [0x75],
    [0x1D1D], [0x26F], [0x76], [0x1D25], [0x3B2], [0x3B3], [0x3B4], [0x3C6], [0x3C7], [0x69],
    [0x72], [0x75], [0x76], [0x3B2], [0x3B3], [0x3C1], [0x3C6], [0x3C7]]⟩,
   ⟨0x1D78, 0x1D78, [[0x43D]]⟩,
   ⟨0x1D9B, 0x1DBF, [[0x252], [0x63], [0x255], [0xF0], [0x25C], [0x66], [0x25F], [0x261],
    [0x265], [0x268], [0x269], [0x26A], [0x1D7B], [0x29D], [0x26D], [0x1D85], [0x29F], [0x271],
    [0x270], [0x272], [0x273], [0x274], [0x275], [0x278], [0x282], [0x283], [0x1AB], [0x289],
    [0x28A], [0x1D1C], [0x28B], [0x28C], [0x7A], [0x290], [0x291], [0x292], [0x3B8]]⟩,
   ⟨0x1E00, 0x1E9B, [[0x41, 0x325], [0x61, 0x325], [0x42, 0x307], [0x62, 0x307], [0x42, 0x323],
    [0x62, 0x323], [0x42, 0x331], [0x62, 0x331], [0x43, 0x327, 0x301], [0x63, 0x327, 0x301],
    [0x44, 0x307], [0x64, 0x307], [0x44, 0x323], [0x64, 0x323], [0x44, 0x331], [0x64, 0x331],
    [0x44, 0x327], [0x64, 0x327], [0x44, 0x32D], [0x64, 0x32D], [0x45, 0x304, 0x300],
    [0x65, 0x304, 0x300], [0x45, 0x304, 0x301], [0x65, 0x304, 0x301], [0x45, 0x32D],
    [0x65, 0x32D], [0x45, 0x330], [0x65, 0x330], [0x45, 0x327, 0x306], [0x65, 0x327, 0x306],
    [0x46, 0x307], [0x66, 0x307], [0x47, 0x304], [0x67, 0x304], [0x48, 0x307], [0x68, 0x307],
    [0x48, 0x323], [0x68, 0x323], [0x48, 0x308], [0x68, 0x308], [0x48, 0x327], [0x68, 0x327],
    [0x48, 0x32E], [0x68, 0x32E], [0x49, 0x330], [0x69, 0x330], [0x49, 0x308, 0x301],
    [0x69, 0x308, 0x301], [0x4B, 0x301], [0x6B, 0x301], [0x4B, 0x323], [0x6B, 0x323],
    [0x4B, 0x331], [0x6B, 0x331], [0x4C, 0x323], [0x6C, 0x323], [0x4C, 0x323, 0x304],
    [0x6C, 0x323, 0x304], [0x4C, 0x331], [0x6C, 0x331], [0x4C, 0x32D], [0x6C, 0x32D],
    [0x4D, 0x301], [0x6D, 0x301], [0x4D, 0x307], [0x6D, 0x307], [0x4D, 0x323], [0x6D, 0x323],
    [0x4E, 0x307], [0x6E, 0x307], [0x4E, 0x323], [0x6E, 0x323], [0x4E, 0x331], [0x6E, 0x331],
    [0x4E, 0x32D], [0x6E, 0x32D], [0x4F, 0x303, 0x301], [0x6F, 0x303, 0x301],
    [0x4F, 0x303, 0x308], [0x6F, 0x303, 0x308], [0x4F, 0x304, 0x300], [0x6F, 0x304, 0x300],
    [0x4F, 0x304, 0x301], [0x6F, 0x304, 0x301], [0x50, 0x301], [0x70, 0x301], [0x50, 0x307],
    [0x70, 0x307], [0x52, 0x307], [0x72, 0x307], [0x52, 0x323], [0x72, 0x323],
    [0x52, 0x323, 0x304], [0x72, 0x323, 0x304], [0x52, 0x331], [0x72, 0x331], [0x53, 0x307],
    [0x73, 0x307], [0x53, 0x323], [0x73, 0x323], [0x53, 0x301, 0x307], [0x73, 0x301, 0x307],
    [0x53, 0x30C, 0x307], [0x73, 0x30C, 0x307], [0x53, 0x323, 0x307], [0x73, 0x323, 0x307],
    [0x54, 0x307], [0x74, 0x307], [0x54, 0x323], [0x74, 0x323], [0x54, 0x331], [0x74, 0x331],
    [0x54, 0x32D], [0x74, 0x32D], [0x55, 0x324], [0x75, 0x324], [0x55, 0x330], [0x75, 0x330],
    [0x55, 0x32D], [0x75, 0x32D], [0x55, 0x303, 0x301], [0x75, 0x303, 0x301],
    [0x55, 0x304, 0x308], [0x75, 0x304, 0x308], [0x56, 0x303], [0x76, 0x303], [0x56, 0x323],
    [0x76, 0x323], [0x57, 0x300], [0x77, 0x300], [0x57, 0x301], [0x77, 0x301], [0x57, 0x308],
    [0x77, 0x308], [0x57, 0x307], [0x77, 0x307], [0x57, 0x323], [0x77, 0x323], [0x58, 0x307],
    [0x78, 0x307], [0x58, 0x308], [0x78, 0x308], [0x59, 0x307], [0x79, 0x307], [0x5A, 0x302],
    [0x7A, 0x302], [0x5A, 0x323], [0x7A, 0x323], [0x5A, 0x331], [0x7A, 0x331], [0x68, 0x331],
    [0x74, 0x308], [0x77, 0x30A], [0x79, 0x30A], [0x61, 0x2BE], [0x73, 0x307]]⟩,
   ⟨0x1EA0, 0x1EF9, [[0x41, 0x323], [0x61, 0x323], [0x41, 0x309], [0x61, 0x309],
    [0x41, 0x302, 0x301], [0x61, 0x302, 0x301], [0x41, 0x302, 0x300], [0x61, 0x302, 0x300],
    [0x41, 0x302, 0x309], [0x61, 0x302, 0x309], [0x41, 0x302, 0x303], [0x61, 0x302, 0x303],
    [0x41, 0x323, 0x302], [0x61, 0x323, 0x302], [0x41, 0x306, 0x301], [0x61, 0x306, 0x301],
    [0x41, 0x306, 0x300], [0x61, 0x306, 0x300], [0x41, 0x306, 0x309], [0x61, 0x306, 0x309],
    [0x41, 0x306, 0x303], [0x61, 0x306, 0x303], [0x41, 0x323, 0x306], [0x61, 0x323, 0x306],
    [0x45, 0x323], [0x65, 0x323], [0x45, 0x309], [0x65, 0x309], [0x45, 0x303], [0x65, 0x303],
    [0x45, 0x302, 0x301], [0x65, 0x302, 0x301], [0x45, 0x302, 0x300], [0x65, 0x302, 0x300],
    [0x45, 0x302, 0x309], [0x65, 0x302, 0x309], [0x45, 0x302, 0x303], [0x65, 0x302, 0x303],
    [0x45, 0x323, 0x302], [0x65, 0x323, 0x302], [0x49, 0x309], [0x69, 0x309], [0x49, 0x323],
    [0x69, 0x323], [0x4F, 0x323], [0x6F, 0x323], [0x4F, 0x309], [0x6F, 0x309],
    [0x4F, 0x302, 0x301], [0x6F, 0x302, 0x301], [0x4F, 0x302, 0x300], [0x6F, 0x302, 0x300],
    [0x4F, 0x302, 0x309], [0x6F, 0x302, 0x309], [0x4F, 0x302, 0x303], [0x6F, 0x302, 0x303],
    [0x4F, 0x323, 0x302], [0x6F, 0x323, 0x302], [0x4F, 0x31B, 0x301], [0x6F, 0x31B, 0x301],
    [0x4F, 0x31B, 0x300], [0x6F, 0x31B, 0x300], [0x4F, 0x31B, 0x309], [0x6F, 0x31B, 0x309],
    [0x4F, 0x31B, 0x303], [0x6F, 0x31B, 0x303], [0x4F, 0x31B, 0x323], [0x6F, 0x31B, 0x323],
    [0x55, 0x323], [0x75, 0x323], [0x55, 0x309], [0x75, 0x309], [0x55, 0x31B, 0x301],
    [0x75, 0x31B, 0x301], [0x55, 0x31B, 0x300], [0x75, 0x31B, 0x300], [0x55, 0x31B, 0x309],
    [0x75, 0x31B, 0x309], [0x55, 0x31B, 0x303], [0x75, 0x31B, 0x303], [0x55, 0x31B, 0x323],
    [0x75, 0x31B, 0x323], [0x59, 0x300], [0x79, 0x300], [0x59, 0x323], [0x79, 0x323],
    [0x59, 0x309], [0x79, 0x309], [0x59, 0x303], [0x79, 0x303]]⟩,
   ⟨0x1F00, 0x1FFE, [[0x3B1, 0x313], [0x3B1, 0x314], [0x3B1, 0x313, 0x300],
    [0x3B1, 0x314, 0x300], [0x3B1, 0x313, 0x301], [0x3B1, 0x314, 0x301], [0x3B1, 0x313, 0x342],
    [0x3B1, 0x314, 0x342], [0x391, 0x313], [0x391, 0x314], [0x391, 0x313, 0x300],
    [0x391, 0x314, 0x300], [0x391, 0x313, 0x301], [0x391, 0x314, 0x301], [0x391, 0x313, 0x342],
    [0x391, 0x314, 0x342], [0x3B5, 0x313], [0x3B5, 0x314], [0x3B5, 0x313, 0x300],
    [0x3B5, 0x314, 0x300], [0x3B5, 0x313, 0x301], [0x3B5, 0x314, 0x301], [0x1F16], [0x1F17],
    [0x395, 0x313], [0x395, 0x314], [0x395, 0x313, 0x300], [0x395, 0x314, 0x300],
    [0x395, 0x313, 0x301], [0x395, 0x314, 0x301], [0x1F1E], [0x1F1F], [0x3B7, 0x313],
    [0x3B7, 0x314], [0x3B7, 0x313, 0x300], [0x3B7, 0x314, 0x300], [0x3B7, 0x313, 0x301],
    [0x3B7, 0x314, 0x301], [0x3B7, 0x313, 0x342], [0x3B7, 0x314, 0x342], [0x397, 0x313],
    [0x397, 0x314], [0x397, 0x313, 0x300], [0x397, 0x314, 0x300], [0x397, 0x313, 0x301],
    [0x397, 0x314, 0x301], [0x397, 0x313, 0x342], [0x397, 0x314, 0x342], [0x3B9, 0x313],
    [0x3B9, 0x314], [0x3B9, 0x313, 0x300], [0x3B9, 0x314, 0x300], [0x3B9, 0x313, 0x301],
    [0x3B9, 0x314, 0x301], [0x3B9, 0x313, 0x342], [0x3B9, 0x314, 0x342], [0x399, 0x313],
    [0x399, 0x314], [0x399, 0x313, 0x300], [0x399, 0x314, 0x300], [0x399, 0x313, 0x301],
    [0x399, 0x314, 0x301], [0x399, 0x313, 0x342], [0x399, 0x314, 0x342], [0x3BF, 0x313],
    [0x3BF, 0x314], [0x3BF, 0x313, 0x300], [0x3BF, 0x314, 0x300], [0x3BF, 0x313, 0x301],
    [0x3BF, 0x314, 0x301], [0x1F46], [0x1F47], [0x39F, 0x313], [0x39F, 0x314],
    [0x39F, 0x313, 0x300], [0x39F, 0x314, 0x300], [0x39F, 0x313, 0x301], [0x39F, 0x314, 0x301],
    [0x1F4E], [0x1F4F], [0x3C5, 0x313], [0x3C5, 0x314], [0x3C5, 0x313, 0x300],
    [0x3C5, 0x314, 0x300], [0x3C5, 0x313, 0x301], [0x3C5, 0x314, 0x301], [0x3C5, 0x313, 0x342],
    [0x3C5, 0x314, 0x342], [0x1F58], [0x3A5, 0x314], [0x1F5A], [0x3A5, 0x314, 0x300], [0x1F5C],
    [0x3A5, 0x314, 0x301], [0x1F5E], [0x3A5, 0x314, 0x342], [0x3C9, 0x313], [0x3C9, 0x314],
    [0x3C9, 0x313, 0x300], [0x3C9, 0x314, 0x300], [0x3C9, 0x313, 0x301], [0x3C9, 0x314, 0x301],
    [0x3C9, 0x313, 0x342], [0x3C9, 0x314, 0x342], [0x3A9, 0x313], [0x3A9, 0x314],
    [0x3A9, 0x313, 0x300], [0x3A9, 0x314, 0x300], [0x3A9, 0x313, 0x301], [0x3A9, 0x314, 0x301],
    [0x3A9, 0x313, 0x342], [0x3A9, 0x314, 0x342], [0x3B1, 0x300], [0x3B1, 0x301], [0x3B5, 0x300],
    [0x3B5, 0x301], [0x3B7, 0x300], [0x3B7, 0x301], [0x3B9, 0x300], [0x3B9, 0x301],
    [0x3BF, 0x300], [0x3BF, 0x301], [0x3C5, 0x300], [0x3C5, 0x301], [0x3C9, 0x300],
    [0x3C9, 0x301], [0x1F7E], [0x1F7F], [0x3B1, 0x313, 0x345], [0x3B1, 0x314, 0x345],
    [0x3B1, 0x313, 0x300, 0x345], [0x3B1, 0x314, 0x300, 0x345], [0x3B1, 0x313, 0x301, 0x345],
    [0x3B1, 0x314, 0x301, 0x345], [0x3B1, 0x313, 0x342, 0x345], [0x3B1, 0x314, 0x342, 0x345],
    [0x391, 0x313, 0x345], [0x391, 0x314, 0x345], [0x391, 0x313, 0x300, 0x345],
    [0x391, 0x314, 0x300, 0x345], [0x391, 0x313, 0x301, 0x345], [0x391, 0x314, 0x301, 0x345],
    [0x391, 0x313, 0x342, 0x345], [0x391, 0x314, 0x342, 0x345], [0x3B7, 0x313, 0x345],
    [0x3B7, 0x314, 0x345], [0x3B7, 0x313, 0x300, 0x345], [0x3B7, 0x314, 0x300, 0x345],
    [0x3B7, 0x313, 0x301, 0x345], [0x3B7, 0x314, 0x301, 0x345], [0x3B7, 0x313, 0x342, 0x345],
    [0x3B7, 0x314, 0x342, 0x345], [0x397, 0x313, 0x345], [0x397, 0x314, 0x345],
    [0x397, 0x313, 0x300, 0x345], [0x397, 0x314, 0x300, 0x345], [0x397, 0x313, 0x301, 0x345],
    [0x397, 0x314, 0x301, 0x345], [0x397, 0x313, 0x342, 0x345], [0x397, 0x314, 0x342, 0x345],
    [0x3C9, 0x313, 0x345], [0x3C9, 0x314, 0x345], [0x3C9, 0x313, 0x300, 0x345],
    [0x3C9, 0x314, 0x300, 0x345], [0x3C9, 0x313, 0x301, 0x345], [0x3C9, 0x314, 0x301, 0x345],
    [0x3C9, 0x313, 0x342, 0x345], [0x3C9, 0x314, 0x342, 0x345], [0x3A9, 0x313, 0x345],
    [0x3A9, 0x314, 0x345], [0x3A9, 0x313, 0x300, 0x345], [0x3A9, 0x314, 0x300, 0x345],
    [0x3A9, 0x313, 0x301, 0x345], [0x3A9, 0x314, 0x301, 0x345], [0x3A9, 0x313, 0x342, 0x345],
    [0x3A9, 0x314, 0x342, 0x345], [0x3B1, 0x306], [0x3B1, 0x304], [0x3B1, 0x300, 0x345],
    [0x3B1, 0x345], [0x3B1, 0x301, 0x345], [0x1FB5], [0x3B1, 0x342], [0x3B1, 0x342, 0x345],
    [0x391, 0x306], [0x391, 0x304], [0x391, 0x300], [0x391, 0x301], [0x391, 0x345],
    [0x20, 0x313], [0x3B9], [0x20, 0x313], [0x20, 0x342], [0x20, 0x308, 0x342],
    [0x3B7, 0x300, 0x345], [0x3B7, 0x345], [0x3B7, 0x301, 0x345], [0x1FC5], [0x3B7, 0x342],
    [0x3B7, 0x342, 0x345], [0x395, 0x300], [0x395, 0x301], [0x397, 0x300], [0x397, 0x301],
    [0x397, 0x345], [0x20, 0x313, 0x300], [0x20, 0x313, 0x301], [0x20, 0x313, 0x342],
    [0x3B9, 0x306], [0x3B9, 0x304], [0x3B9, 0x308, 0x300], [0x3B9, 0x308, 0x301], [0x1FD4],
    [0x1FD5], [0x3B9, 0x342], [0x3B9, 0x308, 0x342], [0x399, 0x306], [0x399, 0x304],
    [0x399, 0x300], [0x399, 0x301], [0x1FDC], [0x20, 0x314, 0x300], [0x20, 0x314, 0x301],
    [0x20, 0x314, 0x342], [0x3C5, 0x306], [0x3C5, 0x304], [0x3C5, 0x308, 0x300],
    [0x3C5, 0x308, 0x301], [0x3C1, 0x313], [0x3C1, 0x314], [0x3C5, 0x342], [0x3C5, 0x308, 0x342],
    [0x3A5, 0x306], [0x3A5, 0x304], [0x3A5, 0x300], [0x3A5, 0x301], [0x3A1, 0x314],
    [0x20, 0x308, 0x300], [0x20, 0x308, 0x301], [0x60], [0x1FF0], [0x1FF1],
    [0x3C9, 0x300, 0x345], [0x3C9, 0x345], [0x3C9, 0x301, 0x345], [0x1FF5], [0x3C9, 0x342],
    [0x3C9, 0x342, 0x345], [0x39F, 0x300], [0x39F, 0x301], [0x3A9, 0x300], [0x3A9, 0x301],
    [0x3A9, 0x345], [0x20, 0x301], [0x20, 0x314]]⟩]

/-- Symbols, numerals, enclosed and squared forms. -/
def symbolBlocks : List Block :=
  [⟨0x2000, 0x200A, [[0x20], [0x20], [0x20], [0x20], [0x20], [0x20], [0x20], [0x20], [0x20],
    [0x20], [0x20]]⟩,
   ⟨0x2011, 0x2011, [[0x2010]]⟩,
   ⟨0x2017, 0x2017, [[0x20, 0x333]]⟩,
   ⟨0x2024, 0x2026, [[0x2E], [0x2E, 0x2E], [0x2E, 0x2E, 0x2E]]⟩,
   ⟨0x202F, 0x2037, [[0x20], [0x2030], [0x2031], [0x2032], [0x2032, 0x2032],
    [0x2032, 0x2032, 0x2032], [0x2035], [0x2035, 0x2035], [0x2035, 0x2035, 0x2035]]⟩,
   ⟨0x203C, 0x203E, [[0x21, 0x21], [0x203D], [0x20, 0x305]]⟩,
   ⟨0x2047, 0x2049, [[0x3F, 0x3F], [0x3F, 0x21], [0x21, 0x3F]]⟩,
   ⟨0x2057, 0x2057, [[0x2032, 0x2032, 0x2032, 0x2032]]⟩,
   ⟨0x205F, 0x205F, [[0x20]]⟩,
   ⟨0x2070, 0x2071, [[0x30], [0x69]]⟩,
   ⟨0x207A, 0x207F, [[0x2B], [0x2212], [0x3D], [0x28], [0x29], [0x6E]]⟩,
   ⟨0x208A, 0x209C, [[0x2B], [0x2212], [0x3D], [0x28], [0x29], [0x208F], [0x61], [0x65], [0x6F],
    [0x78], [0x259], [0x68], [0x6B], [0x6C], [0x6D], [0x6E], [0x70], [0x73], [0x74]]⟩,
   ⟨0x20A8, 0x20A8, [[0x52, 0x73]]⟩,
   ⟨0x2100, 0x2140, [[0x61, 0x2F, 0x63], [0x61, 0x2F, 0x73], [0x43], [0xB0, 0x43], [0x2104],
    [0x63, 0x2F, 0x6F], [0x63, 0x2F, 0x75], [0x190], [0x2108], [0xB0, 0x46], [0x67], [0x48],
    [0x48], [0x48], [0x68], [0x127], [0x49], [0x49], [0x4C], [0x6C], [0x2114], [0x4E],
    [0x4E, 0x6F], [0x2117], [0x2118], [0x50], [0x51], [0x52], [0x52], [0x52], [0x211E], [0x211F],
    [0x53, 0x4D], [0x54, 0x45, 0x4C], [0x54, 0x4D], [0x2123], [0x5A], [0x2125], [0x3A9],
    [0x2127], [0x5A], [0x2129], [0x4B], [0x41, 0x30A], [0x42], [0x43], [0x212E], [0x65], [0x45],
    [0x46], [0x2132], [0x4D], [0x6F], [0x5D0], [0x5D1], [0x5D2], [0x5D3], [0x69], [0x213A],
    [0x46, 0x41, 0x58], [0x3C0], [0x3B3], [0x393], [0x3A0], [0x2211]]⟩,
   ⟨0x2145, 0x2149, [[0x44], [0x64], [0x65], [0x69], [0x6A]]⟩,
   ⟨0x2150, 0x217F, [[0x31, 0x2044, 0x37], [0x31, 0x2044, 0x39], [0x31, 0x2044, 0x31, 0x30],
    [0x31, 0x2044, 0x33], [0x32, 0x2044, 0x33], [0x31, 0x2044, 0x35], [0x32, 0x2044, 0x35],
    [0x33, 0x2044, 0x35], [0x34, 0x2044, 0x35], [0x31, 0x2044, 0x36], [0x35, 0x2044, 0x36],
    [0x31, 0x2044, 0x38], [0x33, 0x2044, 0x38], [0x35, 0x2044, 0x38], [0x37, 0x2044, 0x38],
    [0x31, 0x2044], [0x49], [0x49, 0x49], [0x49, 0x49, 0x49], [0x49, 0x56], [0x56], [0x56, 0x49],
    [0x56, 0x49, 0x49], [0x56, 0x49, 0x49, 0x49], [0x49, 0x58], [0x58], [0x58, 0x49],
    [0x58, 0x49, 0x49], [0x4C], [0x43], [0x44], [0x4D], [0x69], [0x69, 0x69], [0x69, 0x69, 0x69],
    [0x69, 0x76], [0x76], [0x76, 0x69], [0x76, 0x69, 0x69], [0x76, 0x69, 0x69, 0x69],
    [0x69, 0x78], [0x78], [0x78, 0x69], [0x78, 0x69, 0x69], [0x6C], [0x63], [0x64], [0x6D]]⟩,
   ⟨0x2189, 0x2189, [[0x30, 0x2044, 0x33]]⟩,
   ⟨0x219A, 0x219B, [[0x2190, 0x338], [0x2192, 0x338]]⟩,
   ⟨0x21AE, 0x21AE, [[0x2194, 0x338]]⟩,
   ⟨0x21CD, 0x21CF, [[0x21D0, 0x338], [0x21D4, 0x338], [0x21D2, 0x338]]⟩,
   ⟨0x2204, 0x2204, [[0x2203, 0x338]]⟩,
   ⟨0x2209, 0x220C, [[0x2208, 0x338], [0x220A], [0x220B], [0x220B, 0x338]]⟩,
   ⟨0x2224, 0x2226, [[0x2223, 0x338], [0x2225], [0x2225, 0x338]]⟩,
   ⟨0x222C, 0x2230, [[0x222B, 0x222B], [0x222B, 0x222B, 0x222B], [0x222E], [0x222E, 0x222E],
    [0x222E, 0x222E, 0x222E]]⟩,
   ⟨0x2241, 0x2249, [[0x223C, 0x338], [0x2242], [0x2243], [0x2243, 0x338], [0x2245], [0x2246],
    [0x2245, 0x338], [0x2248], [0x2248, 0x338]]⟩,
   ⟨0x2260, 0x2262, [[0x3D, 0x338], [0x2261], [0x2261, 0x338]]⟩,
   ⟨0x226D, 0x2279, [[0x224D, 0x338], [0x3C, 0x338], [0x3E, 0x338], [0x2264, 0x338],
    [0x2265, 0x338], [0x2272], [0x2273], [0x2272, 0x338], [0x2273, 0x338], [0x2276], [0x2277],
    [0x2276, 0x338], [0x2277, 0x338]]⟩,
   ⟨0x2280, 0x2289, [[0x227A, 0x338], [0x227B, 0x338], [0x2282], [0x2283], [0x2282, 0x338],
    [0x2283, 0x338], [0x2286], [0x2287], [0x2286, 0x338], [0x2287, 0x338]]⟩,
   ⟨0x22AC, 0x22AF, [[0x22A2, 0x338], [0x22A8, 0x338], [0x22A9, 0x338], [0x22AB, 0x338]]⟩,
   ⟨0x22E0, 0x22E3, [[0x227C, 0x338], [0x227D, 0x338], [0x2291, 0x338], [0x2292, 0x338]]⟩,
   ⟨0x22EA, 0x22ED, [[0x22B2, 0x338], [0x22B3, 0x338], [0x22B4, 0x338], [0x22B5, 0x338]]⟩,
   ⟨0x2329, 0x232A, [[0x3008], [0x3009]]⟩,
   ⟨0x2469, 0x24B5, [[0x31, 0x30], [0x31, 0x31], [0x31, 0x32], [0x31, 0x33], [0x31, 0x34],
    [0x31, 0x35], [0x31, 0x36], [0x31, 0x37], [0x31, 0x38], [0x31, 0x39], [0x32, 0x30],
    [0x28, 0x31, 0x29], [0x28, 0x32, 0x29], [0x28, 0x33, 0x29], [0x28, 0x34, 0x29],
    [0x28, 0x35, 0x29], [0x28, 0x36, 0x29], [0x28, 0x37, 0x29], [0x28, 0x38, 0x29],
    [0x28, 0x39, 0x29], [0x28, 0x31, 0x30, 0x29], [0x28, 0x31, 0x31, 0x29],
    [0x28, 0x31, 0x32, 0x29], [0x28, 0x31, 0x33, 0x29], [0x28, 0x31, 0x34, 0x29],
    [0x28, 0x31, 0x35, 0x29], [0x28, 0x31, 0x36, 0x29], [0x28, 0x31, 0x37, 0x29],
    [0x28, 0x31, 0x38, 0x29], [0x28, 0x31, 0x39, 0x29], [0x28, 0x32, 0x30, 0x29], [0x31, 0x2E],
    [0x32, 0x2E], [0x33, 0x2E], [0x34, 0x2E], [0x35, 0x2E], [0x36, 0x2E], [0x37, 0x2E],
    [0x38, 0x2E], [0x39, 0x2E], [0x31, 0x30, 0x2E], [0x31, 0x31, 0x2E], [0x31, 0x32, 0x2E],
    [0x31, 0x33, 0x2E], [0x31, 0x34, 0x2E], [0x31, 0x35, 0x2E], [0x31, 0x36, 0x2E],
    [0x31, 0x37, 0x2E], [0x31, 0x38, 0x2E], [0x31, 0x39, 0x2E], [0x32, 0x30, 0x2E],
    [0x28, 0x61, 0x29], [0x28, 0x62, 0x29], [0x28, 0x63, 0x29], [0x28, 0x64, 0x29],
    [0x28, 0x65, 0x29], [0x28, 0x66, 0x29], [0x28, 0x67, 0x29], [0x28, 0x68, 0x29],
    [0x28, 0x69, 0x29], [0x28, 0x6A, 0x29], [0x28, 0x6B, 0x29], [0x28, 0x6C, 0x29],
    [0x28, 0x6D, 0x29], [0x28, 0x6E, 0x29], [0x28, 0x6F, 0x29], [0x28, 0x70, 0x29],
    [0x28, 0x71, 0x29], [0x28, 0x72, 0x29], [0x28, 0x73, 0x29], [0x28, 0x74, 0x29],
    [0x28, 0x75, 0x29], [0x28, 0x76, 0x29], [0x28, 0x77, 0x29], [0x28, 0x78, 0x29],
    [0x28, 0x79, 0x29], [0x28, 0x7A, 0x29]]⟩,
   ⟨0x24EA, 0x24EA, [[0x30]]⟩,
   ⟨0x2A0C, 0x2A0C, [[0x222B, 0x222B, 0x222B, 0x222B]]⟩,
   ⟨0x2A74, 0x2A76, [[0x3A, 0x3A, 0x3D], [0x3D, 0x3D], [0x3D, 0x3D, 0x3D]]⟩,
   ⟨0x2ADC, 0x2ADC, [[0x2ADD, 0x338]]⟩,
   ⟨0x2C7C, 0x2C7D, [[0x6A], [0x56]]⟩,
   ⟨0x2D6F, 0x2D6F, [[0x2D61]]⟩,
   ⟨0x2E9F, 0x2E9F, [[0x6BCD]]⟩,
   ⟨0x2EF3, 0x2EF3, [[0x9F9F]]⟩,
   ⟨0x2F00, 0x2FD5, [[0x4E00], [0x4E28], [0x4E36], [0x4E3F], [0x4E59], [0x4E85], [0x4E8C],
    [0x4EA0], [0x4EBA], [0x513F], [0x5165], [0x516B], [0x5182], [0x5196], [0x51AB], [0x51E0],
    [0x51F5], [0x5200], [0x529B], [0x52F9], [0x5315], [0x531A], [0x5338], [0x5341], [0x535C],
    [0x5369], [0x5382], [0x53B6], [0x53C8], [0x53E3], [0x56D7], [0x571F], [0x58EB], [0x5902],
    [0x590A], [0x5915], [0x5927], [0x5973], [0x5B50], [0x5B80], [0x5BF8], [0x5C0F], [0x5C22],
    [0x5C38], [0x5C6E], [0x5C71], [0x5DDB], [0x5DE5], [0x5DF1], [0x5DFE], [0x5E72], [0x5E7A],
    [0x5E7F], [0x5EF4], [0x5EFE], [0x5F0B], [0x5F13], [0x5F50], [0x5F61], [0x5F73], [0x5FC3],
    [0x6208], [0x6236], [0x624B], [0x652F], [0x6534], [0x6587], [0x6597], [0x65A4], [0x65B9],
    [0x65E0], [0x65E5], [0x66F0], [0x6708], [0x6728], [0x6B20], [0x6B62], [0x6B79], [0x6BB3],
    [0x6BCB], [0x6BD4], [0x6BDB], [0x6C0F], [0x6C14], [0x6C34], [0x706B], [0x722A], [0x7236],
    [0x723B], [0x723F], [0x7247], [0x7259], [0x725B], [0x72AC], [0x7384], [0x7389], [0x74DC],
    [0x74E6], [0x7518], [0x751F], [0x7528], [0x7530], [0x758B], [0x7592], [0x7676], [0x767D],
    [0x76AE], [0x76BF], [0x76EE], [0x77DB], [0x77E2], [0x77F3], [0x793A], [0x79B8], [0x79BE],
    [0x7A74], [0x7ACB], [0x7AF9], [0x7C73], [0x7CF8], [0x7F36], [0x7F51], [0x7F8A], [0x7FBD],
    [0x8001], [0x800C], [0x8012], [0x8033], [0x807F], [0x8089], [0x81E3], [0x81EA], [0x81F3],
    [0x81FC], [0x820C], [0x821B], [0x821F], [0x826E], [0x8272], [0x8278], [0x864D], [0x866B],
    [0x8840], [0x884C], [0x8863], [0x897E], [0x898B], [0x89D2], [0x8A00], [0x8C37], [0x8C46],
    [0x8C55], [0x8C78], [0x8C9D], [0x8D64], [0x8D70], [0x8DB3], [0x8EAB], [0x8ECA], [0x8F9B],
    [0x8FB0], [0x8FB5], [0x9091], [0x9149], [0x91C6], [0x91CC], [0x91D1], [0x9577], [0x9580],
    [0x961C], [0x96B6], [0x96B9], [0x96E8], [0x9751], [0x975E], [0x9762], [0x9769], [0x97CB],
    [0x97ED], [0x97F3], [0x9801], [0x98A8], [0x98DB], [0x98DF], [0x9996], [0x9999], [0x99AC],
    [0x9AA8], [0x9AD8], [0x9ADF], [0x9B25], [0x9B2F], [0x9B32], [0x9B3C], [0x9B5A], [0x9CE5],
    [0x9E75], [0x9E7F], [0x9EA5], [0x9EBB], [0x9EC3], [0x9ECD], [0x9ED1], [0x9EF9], [0x9EFD],
    [0x9F0E], [0x9F13], [0x9F20], [0x9F3B], [0x9F4A], [0x9F52], [0x9F8D], [0x9F9C], [0x9FA0]]⟩,
   ⟨0x3000, 0x3000, [[0x20]]⟩,
   ⟨0x3036, 0x303A, [[0x3012], [0x3037], [0x5341], [0x5344], [0x5345]]⟩,
   ⟨0x304C, 0x3069, [[0x304B, 0x3099], [0x304D], [0x304D, 0x3099], [0x304F], [0x304F, 0x3099],
    [0x3051], [0x3051, 0x3099], [0x3053], [0x3053, 0x3099], [0x3055], [0x3055, 0x3099], [0x3057],
    [0x3057, 0x3099], [0x3059], [0x3059, 0x3099], [0x305B], [0x305B, 0x3099], [0x305D],
    [0x305D, 0x3099], [0x305F], [0x305F, 0x3099], [0x3061], [0x3061, 0x3099], [0x3063], [0x3064],
    [0x3064, 0x3099], [0x3066], [0x3066, 0x3099], [0x3068], [0x3068, 0x3099]]⟩,
   ⟨0x3070, 0x307D, [[0x306F, 0x3099], [0x306F, 0x309A], [0x3072], [0x3072, 0x3099],
    [0x3072, 0x309A], [0x3075], [0x3075, 0x3099], [0x3075, 0x309A], [0x3078], [0x3078, 0x3099],
    [0x3078, 0x309A], [0x307B], [0x307B, 0x3099], [0x307B, 0x309A]]⟩,
   ⟨0x3094, 0x3094, [[0x3046, 0x3099]]⟩,
   ⟨0x309B, 0x309F, [[0x20, 0x3099], [0x20, 0x309A], [0x309D], [0x309D, 0x3099],
    [0x3088, 0x308A]]⟩,
   ⟨0x30AC, 0x30C9, [[0x30AB, 0x3099], [0x30AD], [0x30AD, 0x3099], [0x30AF], [0x30AF, 0x3099],
    [0x30B1], [0x30B1, 0x3099], [0x30B3], [0x30B3, 0x3099], [0x30B5], [0x30B5, 0x3099], [0x30B7],
    [0x30B7, 0x3099], [0x30B9], [0x30B9, 0x3099], [0x30BB], [0x30BB, 0x3099], [0x30BD],
    [0x30BD, 0x3099], [0x30BF], [0x30BF, 0x3099], [0x30C1], [0x30C1, 0x3099], [0x30C3], [0x30C4],
    [0x30C4, 0x3099], [0x30C6], [0x30C6, 0x3099], [0x30C8], [0x30C8, 0x3099]]⟩,
   ⟨0x30D0, 0x30DD, [[0x30CF, 0x3099], [0x30CF, 0x309A], [0x30D2], [0x30D2, 0x3099],
    [0x30D2, 0x309A], [0x30D5], [0x30D5, 0x3099], [0x30D5, 0x309A], [0x30D8], [0x30D8, 0x3099],
    [0x30D8, 0x309A], [0x30DB], [0x30DB, 0x3099], [0x30DB, 0x309A]]⟩,
   ⟨0x30F4, 0x30FF, [[0x30A6, 0x3099], [0x30F5], [0x30F6], [0x30EF, 0x3099], [0x30F0, 0x3099],
    [0x30F1, 0x3099], [0x30F2, 0x3099], [0x30FB], [0x30FC], [0x30FD], [0x30FD, 0x3099],
    [0x30B3, 0x30C8]]⟩,
   ⟨0x3131, 0x3139, [[0x1100], [0x1101], [0x11AA], [0x1102], [0x11AC], [0x11AD], [0x1103],
    [0x1104], [0x1105]]⟩,
   ⟨0x3140, 0x3144, [[0x111A], [0x1106], [0x1107], [0x1108], [0x1121]]⟩,
   ⟨0x3164, 0x319F, [[0x1160], [0x1114], [0x1115], [0x11C7], [0x11C8], [0x11CC], [0x11CE],
    [0x11D3], [0x11D7], [0x11D9], [0x111C], [0x11DD], [0x11DF], [0x111D], [0x111E], [0x1120],
    [0x1122], [0x1123], [0x1127], [0x1129], [0x112B], [0x112C], [0x112D], [0x112E], [0x112F],
    [0x1132], [0x1136], [0x1140], [0x1147], [0x114C], [0x11F1], [0x11F2], [0x1157], [0x1158],
    [0x1159], [0x1184], [0x1185], [0x1188], [0x1191], [0x1192], [0x1194], [0x119E], [0x11A1],
    [0x318F], [0x3190], [0x3191], [0x4E00], [0x4E8C], [0x4E09], [0x56DB], [0x4E0A], [0x4E2D],
    [0x4E0B], [0x7532], [0x4E59], [0x4E19], [0x4E01], [0x5929], [0x5730], [0x4EBA]]⟩,
   ⟨0x3200, 0x3247, [[0x28, 0x1100, 0x29], [0x28, 0x1102, 0x29], [0x28, 0x1103, 0x29],
    [0x28, 0x1105, 0x29], [0x28, 0x1106, 0x29], [0x28, 0x1107, 0x29], [0x28, 0x1109, 0x29],
    [0x28, 0x110B, 0x29], [0x28, 0x110C, 0x29], [0x28, 0x110E, 0x29], [0x28, 0x110F, 0x29],
    [0x28, 0x1110, 0x29], [0x28, 0x1111, 0x29], [0x28, 0x1112, 0x29],
    [0x28, 0x1100, 0x1161, 0x29], [0x28, 0x1102, 0x1161, 0x29], [0x28, 0x1103, 0x1161, 0x29],
    [0x28, 0x1105, 0x1161, 0x29], [0x28, 0x1106, 0x1161, 0x29], [0x28, 0x1107, 0x1161, 0x29],
    [0x28, 0x1109, 0x1161, 0x29], [0x28, 0x110B, 0x1161, 0x29], [0x28, 0x110C, 0x1161, 0x29],
    [0x28, 0x110E, 0x1161, 0x29], [0x28, 0x110F, 0x1161, 0x29], [0x28, 0x1110, 0x1161, 0x29],
    [0x28, 0x1111, 0x1161, 0x29], [0x28, 0x1112, 0x1161, 0x29], [0x28, 0x110C, 0x116E, 0x29],
    [0x28, 0x110B, 0x1169, 0x110C, 0x1165, 0x11AB, 0x29],
    [0x28, 0x110B, 0x1169, 0x1112, 0x116E, 0x29], [0x321F], [0x28, 0x4E00, 0x29],
    [0x28, 0x4E8C, 0x29], [0x28, 0x4E09, 0x29], [0x28, 0x56DB, 0x29], [0x28, 0x4E94, 0x29],
    [0x28, 0x516D, 0x29], [0x28, 0x4E03, 0x29], [0x28, 0x516B, 0x29], [0x28, 0x4E5D, 0x29],
    [0x28, 0x5341, 0x29], [0x28, 0x6708, 0x29], [0x28, 0x706B, 0x29], [0x28, 0x6C34, 0x29],
    [0x28, 0x6728, 0x29], [0x28, 0x91D1, 0x29], [0x28, 0x571F, 0x29], [0x28, 0x65E5, 0x29],
    [0x28, 0x682A, 0x29], [0x28, 0x6709, 0x29], [0x28, 0x793E, 0x29], [0x28, 0x540D, 0x29],
    [0x28, 0x7279, 0x29], [0x28, 0x8CA1, 0x29], [0x28, 0x795D, 0x29], [0x28, 0x52B4, 0x29],
    [0x28, 0x4EE3, 0x29], [0x28, 0x547C, 0x29], [0x28, 0x5B66, 0x29], [0x28, 0x76E3, 0x29],
    [0x28, 0x4F01, 0x29], [0x28, 0x8CC7, 0x29], [0x28, 0x5354, 0x29], [0x28, 0x796D, 0x29],
    [0x28, 0x4F11, 0x29], [0x28, 0x81EA, 0x29], [0x28, 0x81F3, 0x29], [0x554F], [0x5E7C],
    [0x6587], [0x7B8F]]⟩,
   ⟨0x3250, 0x32E3, [[0x50, 0x54, 0x45], [0x32, 0x31], [0x32, 0x32], [0x32, 0x33], [0x32, 0x34],
    [0x32, 0x35], [0x32, 0x36], [0x32, 0x37], [0x32, 0x38], [0x32, 0x39], [0x33, 0x30],
    [0x33, 0x31], [0x33, 0x32], [0x33, 0x33], [0x33, 0x34], [0x33, 0x35], [0x1100], [0x1102],
    [0x1103], [0x1105], [0x1106], [0x1107], [0x1109], [0x110B], [0x110C], [0x110E], [0x110F],
    [0x1110], [0x1111], [0x1112], [0x1100, 0x1161], [0x1102, 0x1161], [0x1103, 0x1161],
    [0x1105, 0x1161], [0x1106, 0x1161], [0x1107, 0x1161], [0x1109, 0x1161], [0x110B, 0x1161],
    [0x110C, 0x1161], [0x110E, 0x1161], [0x110F, 0x1161], [0x1110, 0x1161], [0x1111, 0x1161],
    [0x1112, 0x1161], [0x110E, 0x1161, 0x11B7, 0x1100, 0x1169], [0x110C, 0x116E, 0x110B, 0x1174],
    [0x110B, 0x116E], [0x327F], [0x4E00], [0x4E8C], [0x4E09], [0x56DB], [0x4E94], [0x516D],
    [0x4E03], [0x516B], [0x4E5D], [0x5341], [0x6708], [0x706B], [0x6C34], [0x6728], [0x91D1],
    [0x571F], [0x65E5], [0x682A], [0x6709], [0x793E], [0x540D], [0x7279], [0x8CA1], [0x795D],
    [0x52B4], [0x79D8], [0x7537], [0x5973], [0x9069], [0x512A], [0x5370], [0x6CE8], [0x9805],
    [0x4F11], [0x5199], [0x6B63], [0x4E0A], [0x4E2D], [0x4E0B], [0x5DE6], [0x53F3], [0x533B],
    [0x5B97], [0x5B66], [0x76E3], [0x4F01], [0x8CC7], [0x5354], [0x591C], [0x33, 0x36],
    [0x33, 0x37], [0x33, 0x38], [0x33, 0x39], [0x34, 0x30], [0x34, 0x31], [0x34, 0x32],
    [0x34, 0x33], [0x34, 0x34], [0x34, 0x35], [0x34, 0x36], [0x34, 0x37], [0x34, 0x38],
    [0x34, 0x39], [0x35, 0x30], [0x31, 0x6708], [0x32, 0x6708], [0x33, 0x6708], [0x34, 0x6708],
    [0x35, 0x6708], [0x36, 0x6708], [0x37, 0x6708], [0x38, 0x6708], [0x39, 0x6708],
    [0x31, 0x30, 0x6708], [0x31, 0x31, 0x6708], [0x31, 0x32, 0x6708], [0x48, 0x67],
    [0x65, 0x72, 0x67], [0x65, 0x56], [0x4C, 0x54, 0x44], [0x30A2], [0x30A4], [0x30A6], [0x30A8],
    [0x30AA], [0x30AB], [0x30AD], [0x30AF], [0x30B1], [0x30B3], [0x30B5], [0x30B7], [0x30B9],
    [0x30BB], [0x30BD], [0x30BF], [0x30C1], [0x30C4], [0x30C6], [0x30C8]]⟩,
   ⟨0x32EA, 0x32F4, [[0x30D2], [0x30D5], [0x30D8], [0x30DB], [0x30DE], [0x30DF], [0x30E0],
    [0x30E1], [0x30E2], [0x30E4], [0x30E6]]⟩,
   ⟨0x32FB, 0x33FA, [[0x30EF], [0x30F0], [0x30F1], [0x30F2], [0x4EE4, 0x548C],
    [0x30A2, 0x30CF, 0x309A, 0x30FC, 0x30C8], [0x30A2, 0x30EB, 0x30D5, 0x30A1],
    [0x30A2, 0x30F3, 0x30D8, 0x309A, 0x30A2], [0x30A2, 0x30FC, 0x30EB],
    [0x30A4, 0x30CB, 0x30F3, 0x30AF, 0x3099], [0x30A4, 0x30F3, 0x30C1], [0x30A6, 0x30A9, 0x30F3],
    [0x30A8, 0x30B9, 0x30AF, 0x30FC, 0x30C8, 0x3099], [0x30A8, 0x30FC, 0x30AB, 0x30FC],
    [0x30AA, 0x30F3, 0x30B9], [0x30AA, 0x30FC, 0x30E0], [0x30AB, 0x30A4, 0x30EA],
    [0x30AB, 0x30E9, 0x30C3, 0x30C8], [0x30AB, 0x30ED, 0x30EA, 0x30FC],
    [0x30AB, 0x3099, 0x30ED, 0x30F3], [0x30AB, 0x3099, 0x30F3, 0x30DE],
    [0x30AD, 0x3099, 0x30AB, 0x3099], [0x30AD, 0x3099, 0x30CB, 0x30FC],
    [0x30AD, 0x30E5, 0x30EA, 0x30FC], [0x30AD, 0x3099, 0x30EB, 0x30BF, 0x3099, 0x30FC],
    [0x30AD, 0x30ED], [0x30AD, 0x30ED, 0x30AF, 0x3099, 0x30E9, 0x30E0],
    [0x30AD, 0x30ED, 0x30E1, 0x30FC, 0x30C8, 0x30EB], [0x30AD, 0x30ED, 0x30EF, 0x30C3, 0x30C8],
    [0x30AF, 0x3099, 0x30E9, 0x30E0], [0x30AF, 0x3099, 0x30E9, 0x30E0, 0x30C8, 0x30F3],
    [0x30AF, 0x30EB, 0x30BB, 0x3099, 0x30A4, 0x30ED], [0x30AF, 0x30ED, 0x30FC, 0x30CD],
    [0x30B1, 0x30FC, 0x30B9], [0x30B3, 0x30EB, 0x30CA], [0x30B3, 0x30FC, 0x30DB, 0x309A],
    [0x30B5, 0x30A4, 0x30AF, 0x30EB], [0x30B5, 0x30F3, 0x30C1, 0x30FC, 0x30E0],
    [0x30B7, 0x30EA, 0x30F3, 0x30AF, 0x3099], [0x30BB, 0x30F3, 0x30C1], [0x30BB, 0x30F3, 0x30C8],
    [0x30BF, 0x3099, 0x30FC, 0x30B9], [0x30C6, 0x3099, 0x30B7], [0x30C8, 0x3099, 0x30EB],
    [0x30C8, 0x30F3], [0x30CA, 0x30CE], [0x30CE, 0x30C3, 0x30C8], [0x30CF, 0x30A4, 0x30C4],
    [0x30CF, 0x309A, 0x30FC, 0x30BB, 0x30F3, 0x30C8], [0x30CF, 0x309A, 0x30FC, 0x30C4],
    [0x30CF, 0x3099, 0x30FC, 0x30EC, 0x30EB], [0x30D2, 0x309A, 0x30A2, 0x30B9, 0x30C8, 0x30EB],
    [0x30D2, 0x309A, 0x30AF, 0x30EB], [0x30D2, 0x309A, 0x30B3], [0x30D2, 0x3099, 0x30EB],
    [0x30D5, 0x30A1, 0x30E9, 0x30C3, 0x30C8, 0x3099], [0x30D5, 0x30A3, 0x30FC, 0x30C8],
    [0x30D5, 0x3099, 0x30C3, 0x30B7, 0x30A7, 0x30EB], [0x30D5, 0x30E9, 0x30F3],
    [0x30D8, 0x30AF, 0x30BF, 0x30FC, 0x30EB], [0x30D8, 0x309A, 0x30BD],
    [0x30D8, 0x309A, 0x30CB, 0x30D2], [0x30D8, 0x30EB, 0x30C4], [0x30D8, 0x309A, 0x30F3, 0x30B9],
    [0x30D8, 0x309A, 0x30FC, 0x30B7, 0x3099], [0x30D8, 0x3099, 0x30FC, 0x30BF],
    [0x30DB, 0x309A, 0x30A4, 0x30F3, 0x30C8], [0x30DB, 0x3099, 0x30EB, 0x30C8], [0x30DB, 0x30F3],
    [0x30DB, 0x309A, 0x30F3, 0x30C8, 0x3099], [0x30DB, 0x30FC, 0x30EB], [0x30DB, 0x30FC, 0x30F3],
    [0x30DE, 0x30A4, 0x30AF, 0x30ED], [0x30DE, 0x30A4, 0x30EB], [0x30DE, 0x30C3, 0x30CF],
    [0x30DE, 0x30EB, 0x30AF], [0x30DE, 0x30F3, 0x30B7, 0x30E7, 0x30F3],
    [0x30DF, 0x30AF, 0x30ED, 0x30F3], [0x30DF, 0x30EA],
    [0x30DF, 0x30EA, 0x30CF, 0x3099, 0x30FC, 0x30EB], [0x30E1, 0x30AB, 0x3099],
    [0x30E1, 0x30AB, 0x3099, 0x30C8, 0x30F3], [0x30E1, 0x30FC, 0x30C8, 0x30EB],
    [0x30E4, 0x30FC, 0x30C8, 0x3099], [0x30E4, 0x30FC, 0x30EB], [0x30E6, 0x30A2, 0x30F3],
    [0x30EA, 0x30C3, 0x30C8, 0x30EB], [0x30EA, 0x30E9], [0x30EB, 0x30D2, 0x309A, 0x30FC],
    [0x30EB, 0x30FC, 0x30D5, 0x3099, 0x30EB], [0x30EC, 0x30E0],
    [0x30EC, 0x30F3, 0x30C8, 0x30B1, 0x3099, 0x30F3], [0x30EF, 0x30C3, 0x30C8], [0x30, 0x70B9],
    [0x31, 0x70B9], [0x32, 0x70B9], [0x33, 0x70B9], [0x34, 0x70B9], [0x35, 0x70B9],
    [0x36, 0x70B9], [0x37, 0x70B9], [0x38, 0x70B9], [0x39, 0x70B9], [0x31, 0x30, 0x70B9],
    [0x31, 0x31, 0x70B9], [0x31, 0x32, 0x70B9], [0x31, 0x33, 0x70B9], [0x31, 0x34, 0x70B9],
    [0x31, 0x35, 0x70B9], [0x31, 0x36, 0x70B9], [0x31, 0x37, 0x70B9], [0x31, 0x38, 0x70B9],
    [0x31, 0x39, 0x70B9], [0x32, 0x30, 0x70B9], [0x32, 0x31, 0x70B9], [0x32, 0x32, 0x70B9],
    [0x32, 0x33, 0x70B9], [0x32, 0x34, 0x70B9], [0x68, 0x50, 0x61], [0x64, 0x61], [0x41, 0x55],
    [0x62, 0x61, 0x72], [0x6F, 0x56], [0x70, 0x63], [0x64, 0x6D], [0x64, 0x6D, 0x32],
    [0x64, 0x6D, 0x33], [0x49, 0x55], [0x5E73, 0x6210], [0x662D, 0x548C], [0x5927, 0x6B63],
    [0x660E, 0x6CBB], [0x682A, 0x5F0F, 0x4F1A, 0x793E], [0x70, 0x41], [0x6E, 0x41],
    [0x3BC, 0x41], [0x6D, 0x41], [0x6B, 0x41], [0x4B, 0x42], [0x4D, 0x42], [0x47, 0x42],
    [0x63, 0x61, 0x6C], [0x6B, 0x63, 0x61, 0x6C], [0x70, 0x46], [0x6E, 0x46], [0x3BC, 0x46],
    [0x3BC, 0x67], [0x6D, 0x67], [0x6B, 0x67], [0x48, 0x7A], [0x6B, 0x48, 0x7A],
    [0x4D, 0x48, 0x7A], [0x47, 0x48, 0x7A], [0x54, 0x48, 0x7A], [0x3BC, 0x6C], [0x6D, 0x6C],
    [0x64, 0x6C], [0x6B, 0x6C], [0x66, 0x6D], [0x6E, 0x6D], [0x3BC, 0x6D], [0x6D, 0x6D],
    [0x63, 0x6D], [0x6B, 0x6D], [0x6D, 0x6D, 0x32], [0x63, 0x6D, 0x32], [0x6D, 0x32],
    [0x6B, 0x6D, 0x32], [0x6D, 0x6D, 0x33], [0x63, 0x6D, 0x33], [0x6D, 0x33], [0x6B, 0x6D, 0x33],
    [0x6D, 0x2215, 0x73], [0x6D, 0x2215, 0x73, 0x32], [0x50, 0x61], [0x6B, 0x50, 0x61],
    [0x4D, 0x50, 0x61], [0x47, 0x50, 0x61], [0x72, 0x61, 0x64], [0x72, 0x61, 0x64, 0x2215, 0x73],
    [0x72, 0x61, 0x64, 0x2215, 0x73, 0x32], [0x70, 0x73], [0x6E, 0x73], [0x3BC, 0x73],
    [0x6D, 0x73], [0x70, 0x56], [0x6E, 0x56], [0x3BC, 0x56], [0x6D, 0x56], [0x6B, 0x56],
    [0x4D, 0x56], [0x70, 0x57], [0x6E, 0x57], [0x3BC, 0x57], [0x6D, 0x57], [0x6B, 0x57],
    [0x4D, 0x57], [0x6B, 0x3A9], [0x4D, 0x3A9], [0x61, 0x2E, 0x6D, 0x2E], [0x42, 0x71],
    [0x63, 0x63], [0x63, 0x64], [0x43, 0x2215, 0x6B, 0x67], [0x43, 0x6F, 0x2E], [0x64, 0x42],
    [0x47, 0x79], [0x68, 0x61], [0x48, 0x50], [0x69, 0x6E], [0x4B, 0x4B], [0x4B, 0x4D],
    [0x6B, 0x74], [0x6C, 0x6D], [0x6C, 0x6E], [0x6C, 0x6F, 0x67], [0x6C, 0x78], [0x6D, 0x62],
    [0x6D, 0x69, 0x6C], [0x6D, 0x6F, 0x6C], [0x50, 0x48], [0x70, 0x2E, 0x6D, 0x2E],
    [0x50, 0x50, 0x4D], [0x50, 0x52], [0x73, 0x72], [0x53, 0x76], [0x57, 0x62],
    [0x56, 0x2215, 0x6D], [0x41, 0x2215, 0x6D], [0x31, 0x65E5], [0x32, 0x65E5], [0x33, 0x65E5],
    [0x34, 0x65E5], [0x35, 0x65E5], [0x36, 0x65E5], [0x37, 0x65E5], [0x38, 0x65E5],
    [0x39, 0x65E5], [0x31, 0x30, 0x65E5], [0x31, 0x31, 0x65E5], [0x31, 0x32, 0x65E5],
    [0x31, 0x33, 0x65E5], [0x31, 0x34, 0x65E5], [0x31, 0x35, 0x65E5], [0x31, 0x36, 0x65E5],
    [0x31, 0x37, 0x65E5], [0x31, 0x38, 0x65E5], [0x31, 0x39, 0x65E5], [0x32, 0x30, 0x65E5],
    [0x32, 0x31, 0x65E5], [0x32, 0x32, 0x65E5], [0x32, 0x33, 0x65E5], [0x32, 0x34, 0x65E5],
    [0x32, 0x35, 0x65E5], [0x32, 0x36, 0x65E5], [0x32, 0x37, 0x65E5]]⟩,
   ⟨0x33FB, 0x33FF, [[0x32, 0x38, 0x65E5], [0x32, 0x39, 0x65E5], [0x33, 0x30, 0x65E5],
    [0x33, 0x31, 0x65E5], [0x67, 0x61, 0x6C]]⟩,
   ⟨0xA69C, 0xA69D, [[0x44A], [0x44C]]⟩,
   ⟨0xA770, 0xA770, [[0xA76F]]⟩,
   ⟨0xA7F2, 0xA7F9, [[0x43], [0x46], [0x51], [0xA7F5], [0xA7F6], [0xA7F7], [0x126], [0x153]]⟩,
   ⟨0xAB5C, 0xAB5F, [[0xA727], [0xAB37], [0x26B], [0xAB52]]⟩,
   ⟨0xAB69, 0xAB69, [[0x28D]]⟩]

/-- Compatibility ideographs of the basic plane. -/
def ideographBlocks : List Block :=
  [⟨0xF900, 0xF9FF, [[0x8C48], [0x66F4], [0x8ECA], [0x8CC8], [0x6ED1], [0x4E32], [0x53E5],
    [0x9F9C], [0x9F9C], [0x5951], [0x91D1], [0x5587], [0x5948], [0x61F6], [0x7669], [0x7F85],
    [0x863F], [0x87BA], [0x88F8], [0x908F], [0x6A02], [0x6D1B], [0x70D9], [0x73DE], [0x843D],
    [0x916A], [0x99F1], [0x4E82], [0x5375], [0x6B04], [0x721B], [0x862D], [0x9E1E], [0x5D50],
    [0x6FEB], [0x85CD], [0x8964], [0x62C9], [0x81D8], [0x881F], [0x5ECA], [0x6717], [0x6D6A],
    [0x72FC], [0x90CE], [0x4F86], [0x51B7], [0x52DE], [0x64C4], [0x6AD3], [0x7210], [0x76E7],
    [0x8001], [0x8606], [0x865C], [0x8DEF], [0x9732], [0x9B6F], [0x9DFA], [0x788C], [0x797F],
    [0x7DA0], [0x83C9], [0x9304], [0x9E7F], [0x8AD6], [0x58DF], [0x5F04], [0x7C60], [0x807E],
    [0x7262], [0x78CA], [0x8CC2], [0x96F7], [0x58D8], [0x5C62], [0x6A13], [0x6DDA], [0x6F0F],
    [0x7D2F], [0x7E37], [0x964B], [0x52D2], [0x808B], [0x51DC], [0x51CC], [0x7A1C], [0x7DBE],
    [0x83F1], [0x9675], [0x8B80], [0x62CF], [0x6A02], [0x8AFE], [0x4E39], [0x5BE7], [0x6012],
    [0x7387], [0x7570], [0x5317], [0x78FB], [0x4FBF], [0x5FA9], [0x4E0D], [0x6CCC], [0x6578],
    [0x7D22], [0x53C3], [0x585E], [0x7701], [0x8449], [0x8AAA], [0x6BBA], [0x8FB0], [0x6C88],
    [0x62FE], [0x82E5], [0x63A0], [0x7565], [0x4EAE], [0x5169], [0x51C9], [0x6881], [0x7CE7],
    [0x826F], [0x8AD2], [0x91CF], [0x52F5], [0x5442], [0x5973], [0x5EEC], [0x65C5], [0x6FFE],
    [0x792A], [0x95AD], [0x9A6A], [0x9E97], [0x9ECE], [0x529B], [0x66C6], [0x6B77], [0x8F62],
    [0x5E74], [0x6190], [0x6200], [0x649A], [0x6F23], [0x7149], [0x7489], [0x79CA], [0x7DF4],
    [0x806F], [0x8F26], [0x84EE], [0x9023], [0x934A], [0x5217], [0x52A3], [0x54BD], [0x70C8],
    [0x88C2], [0x8AAA], [0x5EC9], [0x5FF5], [0x637B], [0x6BAE], [0x7C3E], [0x7375], [0x4EE4],
    [0x56F9], [0x5BE7], [0x5DBA], [0x601C], [0x73B2], [0x7469], [0x7F9A], [0x8046], [0x9234],
    [0x96F6], [0x9748], [0x9818], [0x4F8B], [0x79AE], [0x91B4], [0x96B8], [0x60E1], [0x4E86],
    [0x50DA], [0x5BEE], [0x5C3F], [0x6599], [0x6A02], [0x71CE], [0x7642], [0x84FC], [0x907C],
    [0x9F8D], [0x6688], [0x962E], [0x5289], [0x677B], [0x67F3], [0x6D41], [0x6E9C], [0x7409],
    [0x7559], [0x786B], [0x7D10], [0x985E], [0x516D], [0x622E], [0x9678], [0x502B], [0x5D19],
    [0x6DEA], [0x8F2A], [0x5F8B], [0x6144], [0x6817], [0x7387], [0x9686], [0x5229], [0x540F],
    [0x5C65], [0x6613], [0x674E], [0x68A8], [0x6CE5], [0x7406], [0x75E2], [0x7F79], [0x88CF],
    [0x88E1], [0x91CC], [0x96E2], [0x533F], [0x6EBA], [0x541D], [0x71D0], [0x7498], [0x85FA],
    [0x96A3], [0x9C57], [0x9E9F], [0x6797], [0x6DCB], [0x81E8], [0x7ACB], [0x7B20], [0x7C92],
    [0x72C0], [0x7099], [0x8B58], [0x4EC0], [0x8336], [0x523A]]⟩,
   ⟨0xFA00, 0xFAD9, [[0x5207], [0x5EA6], [0x62D3], [0x7CD6], [0x5B85], [0x6D1E], [0x66B4],
    [0x8F3B], [0x884C], [0x964D], [0x898B], [0x5ED3], [0x5140], [0x55C0], [0xFA0E], [0xFA0F],
    [0x585A], [0xFA11], [0x6674], [0xFA13], [0xFA14], [0x51DE], [0x732A], [0x76CA], [0x793C],
    [0x795E], [0x7965], [0x798F], [0x9756], [0x7CBE], [0x7FBD], [0xFA1F], [0x8612], [0xFA21],
    [0x8AF8], [0xFA23], [0xFA24], [0x9038], [0x90FD], [0xFA27], [0xFA28], [0xFA29], [0x98EF],
    [0x98FC], [0x9928], [0x9DB4], [0x90DE], [0x96B7], [0x4FAE], [0x50E7], [0x514D], [0x52C9],
    [0x52E4], [0x5351], [0x559D], [0x5606], [0x5668], [0x5840], [0x58A8], [0x5C64], [0x5C6E],
    [0x6094], [0x6168], [0x618E], [0x61F2], [0x654F], [0x65E2], [0x6691], [0x6885], [0x6D77],
    [0x6E1A], [0x6F22], [0x716E], [0x722B], [0x7422], [0x7891], [0x793E], [0x7949], [0x7948],
    [0x7950], [0x7956], [0x795D], [0x798D], [0x798E], [0x7A40], [0x7A81], [0x7BC0], [0x7DF4],
    [0x7E09], [0x7E41], [0x7F72], [0x8005], [0x81ED], [0x8279], [0x8279], [0x8457], [0x8910],
    [0x8996], [0x8B01], [0x8B39], [0x8CD3], [0x8D08], [0x8FB6], [0x9038], [0x96E3], [0x97FF],
    [0x983B], [0x6075], [0x242EE], [0x8218], [0xFA6E], [0xFA6F], [0x4E26], [0x51B5], [0x5168],
    [0x4F80], [0x5145], [0x5180], [0x52C7], [0x52FA], [0x559D], [0x5555], [0x5599], [0x55E2],
    [0x585A], [0x58B3], [0x5944], [0x5954], [0x5A62], [0x5B28], [0x5ED2], [0x5ED9], [0x5F69],
    [0x5FAD], [0x60D8], [0x614E], [0x6108], [0x618E], [0x6160], [0x61F2], [0x6234], [0x63C4],
    [0x641C], [0x6452], [0x6556], [0x6674], [0x6717], [0x671B], [0x6756], [0x6B79], [0x6BBA],
    [0x6D41], [0x6EDB], [0x6ECB], [0x6F22], [0x701E], [0x716E], [0x77A7], [0x7235], [0x72AF],
    [0x732A], [0x7471], [0x7506], [0x753B], [0x761D], [0x761F], [0x76CA], [0x76DB], [0x76F4],
    [0x774A], [0x7740], [0x78CC], [0x7AB1], [0x7BC0], [0x7C7B], [0x7D5B], [0x7DF4], [0x7F3E],
    [0x8005], [0x8352], [0x83EF], [0x8779], [0x8941], [0x8986], [0x8996], [0x8ABF], [0x8AF8],
    [0x8ACB], [0x8B01], [0x8AFE], [0x8AED], [0x8B39], [0x8B8A], [0x8D08], [0x8F38], [0x9072],
    [0x9199], [0x9276], [0x967C], [0x96E3], [0x9756], [0x97DB], [0x97FF], [0x980B], [0x983B],
    [0x9B12], [0x9F9C], [0x2284A], [0x22844], [0x233D5], [0x3B9D], [0x4018], [0x4039], [0x25249],
    [0x25CD0], [0x27ED3], [0x9F43], [0x9F8E]]⟩]

/-- Presentation forms. -/
def presentationBlocks : List Block :=
  [⟨0xFB00, 0xFB06, [[0x66, 0x66], [0x66, 0x69], [0x66, 0x6C], [0x66, 0x66, 0x69],
    [0x66, 0x66, 0x6C], [0x73, 0x74], [0x73, 0x74]]⟩,
   ⟨0xFB13, 0xFB17, [[0x574, 0x576], [0x574, 0x565], [0x574, 0x56B], [0x57E, 0x576],
    [0x574, 0x56D]]⟩,
   ⟨0xFB1D, 0xFBB1, [[0x5D9, 0x5B4], [0xFB1E], [0x5F2, 0x5B7], [0x5E2], [0x5D0], [0x5D3],
    [0x5D4], [0x5DB], [0x5DC], [0x5DD], [0x5E8], [0x5EA], [0x2B], [0x5E9, 0x5C1], [0x5E9, 0x5C2],
    [0x5E9, 0x5BC, 0x5C1], [0x5E9, 0x5BC, 0x5C2], [0x5D0, 0x5B7], [0x5D0, 0x5B8], [0x5D0, 0x5BC],
    [0x5D1, 0x5BC], [0x5D2, 0x5BC], [0x5D3, 0x5BC], [0x5D4, 0x5BC], [0x5D5, 0x5BC],
    [0x5D6, 0x5BC], [0xFB37], [0x5D8, 0x5BC], [0x5D9, 0x5BC], [0x5DA, 0x5BC], [0x5DB, 0x5BC],
    [0x5DC, 0x5BC], [0xFB3D], [0x5DE, 0x5BC], [0xFB3F], [0x5E0, 0x5BC], [0x5E1, 0x5BC], [0xFB42],
    [0x5E3, 0x5BC], [0x5E4, 0x5BC], [0xFB45], [0x5E6, 0x5BC], [0x5E7, 0x5BC], [0x5E8, 0x5BC],
    [0x5E9, 0x5BC], [0x5EA, 0x5BC], [0x5D5, 0x5B9], [0x5D1, 0x5BF], [0x5DB, 0x5BF],
    [0x5E4, 0x5BF], [0x5D0, 0x5DC], [0x671], [0x671], [0x67B], [0x67B], [0x67B], [0x67B],
    [0x67E], [0x67E], [0x67E], [0x67E], [0x680], [0x680], [0x680], [0x680], [0x67A], [0x67A],
    [0x67A], [0x67A], [0x67F], [0x67F], [0x67F], [0x67F], [0x679], [0x679], [0x679], [0x679],
    [0x6A4], [0x6A4], [0x6A4], [0x6A4], [0x6A6], [0x6A6], [0x6A6], [0x6A6], [0x684], [0x684],
    [0x684], [0x684], [0x683], [0x683], [0x683], [0x683], [0x686], [0x686], [0x686], [0x686],
    [0x687], [0x687], [0x687], [0x687], [0x68D], [0x68D], [0x68C], [0x68C], [0x68E], [0x68E],
    [0x688], [0x688], [0x698], [0x698], [0x691], [0x691], [0x6A9], [0x6A9], [0x6A9], [0x6A9],
    [0x6AF], [0x6AF], [0x6AF], [0x6AF], [0x6B3], [0x6B3], [0x6B3], [0x6B3], [0x6B1], [0x6B1],
    [0x6B1], [0x6B1], [0x6BA], [0x6BA], [0x6BB], [0x6BB], [0x6BB], [0x6BB], [0x6D5, 0x654],
    [0x6D5, 0x654], [0x6C1], [0x6C1], [0x6C1], [0x6C1], [0x6BE], [0x6BE], [0x6BE], [0x6BE],
    [0x6D2], [0x6D2], [0x6D2, 0x654], [0x6D2, 0x654]]⟩,
   ⟨0xFBD3, 0xFCD2, [[0x6AD], [0x6AD], [0x6AD], [0x6AD], [0x6C7], [0x6C7], [0x6C6], [0x6C6],
    [0x6C8], [0x6C8], [0x6C7, 0x674], [0x6CB], [0x6CB], [0x6C5], [0x6C5], [0x6C9], [0x6C9],
    [0x6D0], [0x6D0], [0x6D0], [0x6D0], [0x649], [0x649], [0x64A, 0x654, 0x627],
    [0x64A, 0x654, 0x627], [0x64A, 0x654, 0x6D5], [0x64A, 0x654, 0x6D5], [0x64A, 0x654, 0x648],
    [0x64A, 0x654, 0x648], [0x64A, 0x654, 0x6C7], [0x64A, 0x654, 0x6C7], [0x64A, 0x654, 0x6C6],
    [0x64A, 0x654, 0x6C6], [0x64A, 0x654, 0x6C8], [0x64A, 0x654, 0x6C8], [0x64A, 0x654, 0x6D0],
    [0x64A, 0x654, 0x6D0], [0x64A, 0x654, 0x6D0], [0x64A, 0x654, 0x649], [0x64A, 0x654, 0x649],
    [0x64A, 0x654, 0x649], [0x6CC], [0x6CC], [0x6CC], [0x6CC], [0x64A, 0x654, 0x62C],
    [0x64A, 0x654, 0x62D], [0x64A, 0x654, 0x645], [0x64A, 0x654, 0x649], [0x64A, 0x654, 0x64A],
    [0x628, 0x62C], [0x628, 0x62D], [0x628, 0x62E], [0x628, 0x645], [0x628, 0x649],
    [0x628, 0x64A], [0x62A, 0x62C], [0x62A, 0x62D], [0x62A, 0x62E], [0x62A, 0x645],
    [0x62A, 0x649], [0x62A, 0x64A], [0x62B, 0x62C], [0x62B, 0x645], [0x62B, 0x649],
    [0x62B, 0x64A], [0x62C, 0x62D], [0x62C, 0x645], [0x62D, 0x62C], [0x62D, 0x645],
    [0x62E, 0x62C], [0x62E, 0x62D], [0x62E, 0x645], [0x633, 0x62C], [0x633, 0x62D],
    [0x633, 0x62E], [0x633, 0x645], [0x635, 0x62D], [0x635, 0x645], [0x636, 0x62C],
    [0x636, 0x62D], [0x636, 0x62E], [0x636, 0x645], [0x637, 0x62D], [0x637, 0x645],
    [0x638, 0x645], [0x639, 0x62C], [0x639, 0x645], [0x63A, 0x62C], [0x63A, 0x645],
    [0x641, 0x62C], [0x641, 0x62D], [0x641, 0x62E], [0x641, 0x645], [0x641, 0x649],
    [0x641, 0x64A], [0x642, 0x62D], [0x642, 0x645], [0x642, 0x649], [0x642, 0x64A],
    [0x643, 0x627], [0x643, 0x62C], [0x643, 0x62D], [0x643, 0x62E], [0x643, 0x644],
    [0x643, 0x645], [0x643, 0x649], [0x643, 0x64A], [0x644, 0x62C], [0x644, 0x62D],
    [0x644, 0x62E], [0x644, 0x645], [0x644, 0x649], [0x644, 0x64A], [0x645, 0x62C],
    [0x645, 0x62D], [0x645, 0x62E], [0x645, 0x645], [0x645, 0x649], [0x645, 0x64A],
    [0x646, 0x62C], [0x646, 0x62D], [0x646, 0x62E], [0x646, 0x645], [0x646, 0x649],
    [0x646, 0x64A], [0x647, 0x62C], [0x647, 0x645], [0x647, 0x649], [0x647, 0x64A],
    [0x64A, 0x62C], [0x64A, 0x62D], [0x64A, 0x62E], [0x64A, 0x645], [0x64A, 0x649],
    [0x64A, 0x64A], [0x630, 0x670], [0x631, 0x670], [0x649, 0x670], [0x20, 0x64C, 0x651],
    [0x20, 0x64D, 0x651], [0x20, 0x64E, 0x651], [0x20, 0x64F, 0x651], [0x20, 0x650, 0x651],
    [0x20, 0x651, 0x670], [0x64A, 0x654, 0x631], [0x64A, 0x654, 0x632], [0x64A, 0x654, 0x645],
    [0x64A, 0x654, 0x646], [0x64A, 0x654, 0x649], [0x64A, 0x654, 0x64A], [0x628, 0x631],
    [0x628, 0x632], [0x628, 0x645], [0x628, 0x646], [0x628, 0x649], [0x628, 0x64A],
    [0x62A, 0x631], [0x62A, 0x632], [0x62A, 0x645], [0x62A, 0x646], [0x62A, 0x649],
    [0x62A, 0x64A], [0x62B, 0x631], [0x62B, 0x632], [0x62B, 0x645], [0x62B, 0x646],
    [0x62B, 0x649], [0x62B, 0x64A], [0x641, 0x649], [0x641, 0x64A], [0x642, 0x649],
    [0x642, 0x64A], [0x643, 0x627], [0x643, 0x644], [0x643, 0x645], [0x643, 0x649],
    [0x643, 0x64A], [0x644, 0x645], [0x644, 0x649], [0x644, 0x64A], [0x645, 0x627],
    [0x645, 0x645], [0x646, 0x631], [0x646, 0x632], [0x646, 0x645], [0x646, 0x646],
    [0x646, 0x649], [0x646, 0x64A], [0x649, 0x670], [0x64A, 0x631], [0x64A, 0x632],
    [0x64A, 0x645], [0x64A, 0x646], [0x64A, 0x649], [0x64A, 0x64A], [0x64A, 0x654, 0x62C],
    [0x64A, 0x654, 0x62D], [0x64A, 0x654, 0x62E], [0x64A, 0x654, 0x645], [0x64A, 0x654, 0x647],
    [0x628, 0x62C], [0x628, 0x62D], [0x628, 0x62E], [0x628, 0x645], [0x628, 0x647],
    [0x62A, 0x62C], [0x62A, 0x62D], [0x62A, 0x62E], [0x62A, 0x645], [0x62A, 0x647],
    [0x62B, 0x645], [0x62C, 0x62D], [0x62C, 0x645], [0x62D, 0x62C], [0x62D, 0x645],
    [0x62E, 0x62C], [0x62E, 0x645], [0x633, 0x62C], [0x633, 0x62D], [0x633, 0x62E],
    [0x633, 0x645], [0x635, 0x62D], [0x635, 0x62E], [0x635, 0x645], [0x636, 0x62C],
    [0x636, 0x62D], [0x636, 0x62E], [0x636, 0x645], [0x637, 0x62D], [0x638, 0x645],
    [0x639, 0x62C], [0x639, 0x645], [0x63A, 0x62C], [0x63A, 0x645], [0x641, 0x62C],
    [0x641, 0x62D], [0x641, 0x62E], [0x641, 0x645], [0x642, 0x62D], [0x642, 0x645],
    [0x643, 0x62C], [0x643, 0x62D], [0x643, 0x62E], [0x643, 0x644], [0x643, 0x645],
    [0x644, 0x62C], [0x644, 0x62D], [0x644, 0x62E], [0x644, 0x645], [0x644, 0x647],
    [0x645, 0x62C], [0x645, 0x62D], [0x645, 0x62E], [0x645, 0x645], [0x646, 0x62C]]⟩,
   ⟨0xFCD3, 0xFD3D, [[0x646, 0x62D], [0x646, 0x62E], [0x646, 0x645], [0x646, 0x647],
    [0x647, 0x62C], [0x647, 0x645], [0x647, 0x670], [0x64A, 0x62C], [0x64A, 0x62D],
    [0x64A, 0x62E], [0x64A, 0x645], [0x64A, 0x647], [0x64A, 0x654, 0x645], [0x64A, 0x654, 0x647],
    [0x628, 0x645], [0x628, 0x647], [0x62A, 0x645], [0x62A, 0x647], [0x62B, 0x645],
    [0x62B, 0x647], [0x633, 0x645], [0x633, 0x647], [0x634, 0x645], [0x634, 0x647],
    [0x643, 0x644], [0x643, 0x645], [0x644, 0x645], [0x646, 0x645], [0x646, 0x647],
    [0x64A, 0x645], [0x64A, 0x647], [0x640, 0x64E, 0x651], [0x640, 0x64F, 0x651],
    [0x640, 0x650, 0x651], [0x637, 0x649], [0x637, 0x64A], [0x639, 0x649], [0x639, 0x64A],
    [0x63A, 0x649], [0x63A, 0x64A], [0x633, 0x649], [0x633, 0x64A], [0x634, 0x649],
    [0x634, 0x64A], [0x62D, 0x649], [0x62D, 0x64A], [0x62C, 0x649], [0x62C, 0x64A],
    [0x62E, 0x649], [0x62E, 0x64A], [0x635, 0x649], [0x635, 0x64A], [0x636, 0x649],
    [0x636, 0x64A], [0x634, 0x62C], [0x634, 0x62D], [0x634, 0x62E], [0x634, 0x645],
    [0x634, 0x631], [0x633, 0x631], [0x635, 0x631], [0x636, 0x631], [0x637, 0x649],
    [0x637, 0x64A], [0x639, 0x649], [0x639, 0x64A], [0x63A, 0x649], [0x63A, 0x64A],
    [0x633, 0x649], [0x633, 0x64A], [0x634, 0x649], [0x634, 0x64A], [0x62D, 0x649],
    [0x62D, 0x64A], [0x62C, 0x649], [0x62C, 0x64A], [0x62E, 0x649], [0x62E, 0x64A],
    [0x635, 0x649], [0x635, 0x64A], [0x636, 0x649], [0x636, 0x64A], [0x634, 0x62C],
    [0x634, 0x62D], [0x634, 0x62E], [0x634, 0x645], [0x634, 0x631], [0x633, 0x631],
    [0x635, 0x631], [0x636, 0x631], [0x634, 0x62C], [0x634, 0x62D], [0x634, 0x62E],
    [0x634, 0x645], [0x633, 0x647], [0x634, 0x647], [0x637, 0x645], [0x633, 0x62C],
    [0x633, 0x62D], [0x633, 0x62E], [0x634, 0x62C], [0x634, 0x62D], [0x634, 0x62E],
    [0x637, 0x645], [0x638, 0x645], [0x627, 0x64B], [0x627, 0x64B]]⟩,
   ⟨0xFD50, 0xFDC7, [[0x62A, 0x62C, 0x645], [0x62A, 0x62D, 0x62C], [0x62A, 0x62D, 0x62C],
    [0x62A, 0x62D, 0x645], [0x62A, 0x62E, 0x645], [0x62A, 0x645, 0x62C], [0x62A, 0x645, 0x62D],
    [0x62A, 0x645, 0x62E], [0x62C, 0x645, 0x62D], [0x62C, 0x645, 0x62D], [0x62D, 0x645, 0x64A],
    [0x62D, 0x645, 0x649], [0x633, 0x62D, 0x62C], [0x633, 0x62C, 0x62D], [0x633, 0x62C, 0x649],
    [0x633, 0x645, 0x62D], [0x633, 0x645, 0x62D], [0x633, 0x645, 0x62C], [0x633, 0x645, 0x645],
    [0x633, 0x645, 0x645], [0x635, 0x62D, 0x62D], [0x635, 0x62D, 0x62D], [0x635, 0x645, 0x645],
    [0x634, 0x62D, 0x645], [0x634, 0x62D, 0x645], [0x634, 0x62C, 0x64A], [0x634, 0x645, 0x62E],
    [0x634, 0x645, 0x62E], [0x634, 0x645, 0x645], [0x634, 0x645, 0x645], [0x636, 0x62D, 0x649],
    [0x636, 0x62E, 0x645], [0x636, 0x62E, 0x645], [0x637, 0x645, 0x62D], [0x637, 0x645, 0x62D],
    [0x637, 0x645, 0x645], [0x637, 0x645, 0x64A], [0x639, 0x62C, 0x645], [0x639, 0x645, 0x645],
    [0x639, 0x645, 0x645], [0x639, 0x645, 0x649], [0x63A, 0x645, 0x645], [0x63A, 0x645, 0x64A],
    [0x63A, 0x645, 0x649], [0x641, 0x62E, 0x645], [0x641, 0x62E, 0x645], [0x642, 0x645, 0x62D],
    [0x642, 0x645, 0x645], [0x644, 0x62D, 0x645], [0x644, 0x62D, 0x64A], [0x644, 0x62D, 0x649],
    [0x644, 0x62C, 0x62C], [0x644, 0x62C, 0x62C], [0x644, 0x62E, 0x645], [0x644, 0x62E, 0x645],
    [0x644, 0x645, 0x62D], [0x644, 0x645, 0x62D], [0x645, 0x62D, 0x62C], [0x645, 0x62D, 0x645],
    [0x645, 0x62D, 0x64A], [0x645, 0x62C, 0x62D], [0x645, 0x62C, 0x645], [0x645, 0x62E, 0x62C],
    [0x645, 0x62E, 0x645], [0xFD90], [0xFD91], [0x645, 0x62C, 0x62E], [0x647, 0x645, 0x62C],
    [0x647, 0x645, 0x645], [0x646, 0x62D, 0x645], [0x646, 0x62D, 0x649], [0x646, 0x62C, 0x645],
    [0x646, 0x62C, 0x645], [0x646, 0x62C, 0x649], [0x646, 0x645, 0x64A], [0x646, 0x645, 0x649],
    [0x64A, 0x645, 0x645], [0x64A, 0x645, 0x645], [0x628, 0x62E, 0x64A], [0x62A, 0x62C, 0x64A],
    [0x62A, 0x62C, 0x649], [0x62A, 0x62E, 0x64A], [0x62A, 0x62E, 0x649], [0x62A, 0x645, 0x64A],
    [0x62A, 0x645, 0x649], [0x62C, 0x645, 0x64A], [0x62C, 0x62D, 0x649], [0x62C, 0x645, 0x649],
    [0x633, 0x62E, 0x649], [0x635, 0x62D, 0x64A], [0x634, 0x62D, 0x64A], [0x636, 0x62D, 0x64A],
    [0x644, 0x62C, 0x64A], [0x644, 0x645, 0x64A], [0x64A, 0x62D, 0x64A], [0x64A, 0x62C, 0x64A],
    [0x64A, 0x645, 0x64A], [0x645, 0x645, 0x64A], [0x642, 0x645, 0x64A], [0x646, 0x62D, 0x64A],
    [0x642, 0x645, 0x62D], [0x644, 0x62D, 0x645], [0x639, 0x645, 0x64A], [0x643, 0x645, 0x64A],
    [0x646, 0x62C, 0x62D], [0x645, 0x62E, 0x64A], [0x644, 0x62C, 0x645], [0x643, 0x645, 0x645],
    [0x644, 0x62C, 0x645], [0x646, 0x62C, 0x62D], [0x62C, 0x62D, 0x64A], [0x62D, 0x62C, 0x64A],
    [0x645, 0x62C, 0x64A], [0x641, 0x645, 0x64A], [0x628, 0x62D, 0x64A], [0x643, 0x645, 0x645],
    [0x639, 0x62C, 0x645], [0x635, 0x645, 0x645], [0x633, 0x62E, 0x64A], [0x646, 0x62C, 0x64A]]⟩,
   ⟨0xFDF0, 0xFDFC, [[0x635, 0x644, 0x6D2], [0x642, 0x644, 0x6D2], [0x627, 0x644, 0x644, 0x647],
    [0x627, 0x643, 0x628, 0x631], [0x645, 0x62D, 0x645, 0x62F], [0x635, 0x644, 0x639, 0x645],
    [0x631, 0x633, 0x648, 0x644], [0x639, 0x644, 0x64A, 0x647], [0x648, 0x633, 0x644, 0x645],
    [0x635, 0x644, 0x649],
    [0x635, 0x644, 0x649, 0x20, 0x627, 0x644, 0x644, 0x647, 0x20, 0x639, 0x644, 0x64A, 0x647, 0x20, 0x648, 0x633, 0x644, 0x645],
    [0x62C, 0x644, 0x20, 0x62C, 0x644, 0x627, 0x644, 0x647], [0x631, 0x6CC, 0x627, 0x644]]⟩,
   ⟨0xFE10, 0xFE19, [[0x2C], [0x3001], [0x3002], [0x3A], [0x3B], [0x21], [0x3F], [0x3016],
    [0x3017], [0x2E, 0x2E, 0x2E]]⟩,
   ⟨0xFE30, 0xFE6B, [[0x2E, 0x2E], [0x2014], [0x2013], [0x5F], [0x5F], [0x28], [0x29], [0x7B],
    [0x7D], [0x3014], [0x3015], [0x3010], [0x3011], [0x300A], [0x300B], [0x3008], [0x3009],
    [0x300C], [0x300D], [0x300E], [0x300F], [0xFE45], [0xFE46], [0x5B], [0x5D], [0x20, 0x305],
    [0x20, 0x305], [0x20, 0x305], [0x20, 0x305], [0x5F], [0x5F], [0x5F], [0x2C], [0x3001],
    [0x2E], [0xFE53], [0x3B], [0x3A], [0x3F], [0x21], [0x2014], [0x28], [0x29], [0x7B], [0x7D],
    [0x3014], [0x3015], [0x23], [0x26], [0x2A], [0x2B], [0x2D], [0x3C], [0x3E], [0x3D], [0xFE67],
    [0x5C], [0x24], [0x25], [0x40]]⟩,
   ⟨0xFE70, 0xFEFC, [[0x20, 0x64B], [0x640, 0x64B], [0x20, 0x64C], [0xFE73], [0x20, 0x64D],
    [0xFE75], [0x20, 0x64E], [0x640, 0x64E], [0x20, 0x64F], [0x640, 0x64F], [0x20, 0x650],
    [0x640, 0x650], [0x20, 0x651], [0x640, 0x651], [0x20, 0x652], [0x640, 0x652], [0x621],
    [0x627, 0x653], [0x627, 0x653], [0x627, 0x654], [0x627, 0x654], [0x648, 0x654],
    [0x648, 0x654], [0x627, 0x655], [0x627, 0x655], [0x64A, 0x654], [0x64A, 0x654],
    [0x64A, 0x654], [0x64A, 0x654], [0x627], [0x627], [0x628], [0x628], [0x628], [0x628],
    [0x629], [0x629], [0x62A], [0x62A], [0x62A], [0x62A], [0x62B], [0x62B], [0x62B], [0x62B],
    [0x62C], [0x62C], [0x62C], [0x62C], [0x62D], [0x62D], [0x62D], [0x62D], [0x62E], [0x62E],
    [0x62E], [0x62E], [0x62F], [0x62F], [0x630], [0x630], [0x631], [0x631], [0x632], [0x632],
    [0x633], [0x633], [0x633], [0x633], [0x634], [0x634], [0x634], [0x634], [0x635], [0x635],
    [0x635], [0x635], [0x636], [0x636], [0x636], [0x636], [0x637], [0x637], [0x637], [0x637],
    [0x638], [0x638], [0x638], [0x638], [0x639], [0x639], [0x639], [0x639], [0x63A], [0x63A],
    [0x63A], [0x63A], [0x641], [0x641], [0x641], [0x641], [0x642], [0x642], [0x642], [0x642],
    [0x643], [0x643], [0x643], [0x643], [0x644], [0x644], [0x644], [0x644], [0x645], [0x645],
    [0x645], [0x645], [0x646], [0x646], [0x646], [0x646], [0x647], [0x647], [0x647], [0x647],
    [0x648], [0x648], [0x649], [0x649], [0x64A], [0x64A], [0x64A], [0x64A],
    [0x644, 0x627, 0x653], [0x644, 0x627, 0x653], [0x644, 0x627, 0x654], [0x644, 0x627, 0x654],
    [0x644, 0x627, 0x655], [0x644, 0x627, 0x655], [0x644, 0x627], [0x644, 0x627]]⟩,
   ⟨0xFF5F, 0xFF84, [[0x2985], [0x2986], [0x3002], [0x300C], [0x300D], [0x3001], [0x30FB],
    [0x30F2], [0x30A1], [0x30A3], [0x30A5], [0x30A7], [0x30A9], [0x30E3], [0x30E5], [0x30E7],
    [0x30C3], [0x30FC], [0x30A2], [0x30A4], [0x30A6], [0x30A8], [0x30AA], [0x30AB], [0x30AD],
    [0x30AF], [0x30B1], [0x30B3], [0x30B5], [0x30B7], [0x30B9], [0x30BB], [0x30BD], [0x30BF],
    [0x30C1], [0x30C4], [0x30C6], [0x30C8]]⟩,
   ⟨0xFF8B, 0xFF95, [[0x30D2], [0x30D5], [0x30D8], [0x30DB], [0x30DE], [0x30DF], [0x30E0],
    [0x30E1], [0x30E2], [0x30E4], [0x30E6]]⟩,
   ⟨0xFF9C, 0xFFA9, [[0x30EF], [0x30F3], [0x3099], [0x309A], [0x1160], [0x1100], [0x1101],
    [0x11AA], [0x1102], [0x11AC], [0x11AD], [0x1103], [0x1104], [0x1105]]⟩,
   ⟨0xFFB0, 0xFFB4, [[0x111A], [0x1106], [0x1107], [0x1108], [0x1121]]⟩,
   ⟨0xFFDA, 0xFFEE, [[0x1173], [0x1174], [0x1175], [0xFFDD], [0xFFDE], [0xFFDF], [0xA2], [0xA3],
    [0xAC], [0x20, 0x304], [0xA6], [0xA5], [0x20A9], [0xFFE7], [0x2502], [0x2190], [0x2191],
    [0x2192], [0x2193], [0x25A0], [0x25CB]]⟩]

/-- Compatibility forms beyond the basic plane. -/
def supplementaryBlocks : List Block :=
  [⟨0x10781, 0x107BA, [[0x2D0], [0x2D1], [0xE6], [0x299], [0x253], [0x10786], [0x2A3], [0xAB66],
    [0x2A5], [0x2A4], [0x256], [0x257], [0x1D91], [0x258], [0x25E], [0x2A9], [0x264], [0x262],
    [0x260], [0x29B], [0x127], [0x29C], [0x267], [0x284], [0x2AA], [0x2AB], [0x26C], [0x1DF04],
    [0xA78E], [0x26E], [0x1DF05], [0x28E], [0x1DF06], [0xF8], [0x276], [0x277], [0x71], [0x27A],
    [0x1DF08], [0x27D], [0x27E], [0x280], [0x2A8], [0x2A6], [0xAB67], [0x2A7], [0x288], [0x2C71],
    [0x107B1], [0x28F], [0x2A1], [0x2A2], [0x298], [0x1C0], [0x1C1], [0x1C2], [0x1DF0A],
    [0x1DF1E]]⟩,
   ⟨0x1109A, 0x1109C, [[0x11099, 0x110BA], [0x1109B], [0x1109B, 0x110BA]]⟩,
   ⟨0x110AB, 0x110AB, [[0x110A5, 0x110BA]]⟩,
   ⟨0x1112E, 0x1112F, [[0x11131, 0x11127], [0x11132, 0x11127]]⟩,
   ⟨0x1134B, 0x1134C, [[0x11347, 0x1133E], [0x11347, 0x11357]]⟩,
   ⟨0x114BB, 0x114BE, [[0x114B9, 0x114BA], [0x114B9, 0x114B0], [0x114BD], [0x114B9, 0x114BD]]⟩,
   ⟨0x115BA, 0x115BB, [[0x115B8, 0x115AF], [0x115B9, 0x115AF]]⟩,
   ⟨0x11938, 0x11938, [[0x11935, 0x11930]]⟩,
   ⟨0x1D15E, 0x1D164, [[0x1D157, 0x1D165], [0x1D158, 0x1D165], [0x1D158, 0x1D165, 0x1D16E],
    [0x1D158, 0x1D165, 0x1D16F], [0x1D158, 0x1D165, 0x1D170], [0x1D158, 0x1D165, 0x1D171],
    [0x1D158, 0x1D165, 0x1D172]]⟩,
   ⟨0x1D1BB, 0x1D1C0, [[0x1D1B9, 0x1D165], [0x1D1BA, 0x1D165], [0x1D1B9, 0x1D165, 0x1D16E],
    [0x1D1BA, 0x1D165, 0x1D16E], [0x1D1B9, 0x1D165, 0x1D16F], [0x1D1BA, 0x1D165, 0x1D16F]]⟩,
   ⟨0x1D49C, 0x1D4AC, [[0x41], [0x1D49D], [0x43], [0x44], [0x1D4A0], [0x1D4A1], [0x47],
    [0x1D4A3], [0x1D4A4], [0x4A], [0x4B], [0x1D4A7], [0x1D4A8], [0x4E], [0x4F], [0x50], [0x51]]⟩,
   ⟨0x1D4B6, 0x1D4BD, [[0x61], [0x62], [0x63], [0x64], [0x1D4BA], [0x66], [0x1D4BC], [0x68]]⟩,
   ⟨0x1D504, 0x1D50A, [[0x41], [0x42], [0x1D506], [0x44], [0x45], [0x46], [0x47]]⟩,
   ⟨0x1D538, 0x1D546, [[0x41], [0x42], [0x1D53A], [0x44], [0x45], [0x46], [0x47], [0x1D53F],
    [0x49], [0x4A], [0x4B], [0x4C], [0x4D], [0x1D545], [0x4F]]⟩,
   ⟨0x1D6A4, 0x1D6A5, [[0x131], [0x237]]⟩,
   ⟨0x1D6B9, 0x1D6B9, [[0x398]]⟩,
   ⟨0x1D6C1, 0x1D6C1, [[0x2207]]⟩,
   ⟨0x1D6DB, 0x1D6E1, [[0x2202], [0x3B5], [0x3B8], [0x3BA], [0x3C6], [0x3C1], [0x3C0]]⟩,
   ⟨0x1D6F3, 0x1D6F3, [[0x398]]⟩,
   ⟨0x1D6FB, 0x1D6FB, [[0x2207]]⟩,
   ⟨0x1D715, 0x1D71B, [[0x2202], [0x3B5], [0x3B8], [0x3BA], [0x3C6], [0x3C1], [0x3C0]]⟩,
   ⟨0x1D72D, 0x1D72D, [[0x398]]⟩,
   ⟨0x1D735, 0x1D735, [[0x2207]]⟩,
   ⟨0x1D74F, 0x1D755, [[0x2202], [0x3B5], [0x3B8], [0x3BA], [0x3C6], [0x3C1], [0x3C0]]⟩,
   ⟨0x1D767, 0x1D767, [[0x398]]⟩,
   ⟨0x1D76F, 0x1D76F, [[0x2207]]⟩,
   ⟨0x1D789, 0x1D78F, [[0x2202], [0x3B5], [0x3B8], [0x3BA], [0x3C6], [0x3C1], [0x3C0]]⟩,
   ⟨0x1D7A1, 0x1D7A1, [[0x398]]⟩,
   ⟨0x1D7A9, 0x1D7A9, [[0x2207]]⟩,
   ⟨0x1D7C3, 0x1D7CB, [[0x2202], [0x3B5], [0x3B8], [0x3BA], [0x3C6], [0x3C1], [0x3C0], [0x3DC],
    [0x3DD]]⟩,
   ⟨0x1EE00, 0x1EE3B, [[0x627], [0x628], [0x62C], [0x62F], [0x1EE04], [0x648], [0x632], [0x62D],
    [0x637], [0x64A], [0x643], [0x644], [0x645], [0x646], [0x633], [0x639], [0x641], [0x635],
    [0x642], [0x631], [0x634], [0x62A], [0x62B], [0x62E], [0x630], [0x636], [0x638], [0x63A],
    [0x66E], [0x6BA], [0x6A1], [0x66F], [0x1EE20], [0x628], [0x62C], [0x1EE23], [0x647],
    [0x1EE25], [0x1EE26], [0x62D], [0x1EE28], [0x64A], [0x643], [0x644], [0x645], [0x646],
    [0x633], [0x639], [0x641], [0x635], [0x642], [0x1EE33], [0x634], [0x62A], [0x62B], [0x62E],
    [0x1EE38], [0x636], [0x1EE3A], [0x63A]]⟩,
   ⟨0x1EE42, 0x1EE42, [[0x62C]]⟩,
   ⟨0x1EE47, 0x1EE9B, [[0x62D], [0x1EE48], [0x64A], [0x1EE4A], [0x644], [0x1EE4C], [0x646],
    [0x633], [0x639], [0x1EE50], [0x635], [0x642], [0x1EE53], [0x634], [0x1EE55], [0x1EE56],
    [0x62E], [0x1EE58], [0x636], [0x1EE5A], [0x63A], [0x1EE5C], [0x6BA], [0x1EE5E], [0x66F],
    [0x1EE60], [0x628], [0x62C], [0x1EE63], [0x647], [0x1EE65], [0x1EE66], [0x62D], [0x637],
    [0x64A], [0x643], [0x1EE6B], [0x645], [0x646], [0x633], [0x639], [0x641], [0x635], [0x642],
    [0x1EE73], [0x634], [0x62A], [0x62B], [0x62E], [0x1EE78], [0x636], [0x638], [0x63A], [0x66E],
    [0x1EE7D], [0x6A1], [0x1EE7F], [0x627], [0x628], [0x62C], [0x62F], [0x647], [0x648], [0x632],
    [0x62D], [0x637], [0x64A], [0x1EE8A], [0x644], [0x645], [0x646], [0x633], [0x639], [0x641],
    [0x635], [0x642], [0x631], [0x634], [0x62A], [0x62B], [0x62E], [0x630], [0x636], [0x638],
    [0x63A]]⟩,
   ⟨0x1EEA1, 0x1EEBB, [[0x628], [0x62C], [0x62F], [0x1EEA4], [0x648], [0x632], [0x62D], [0x637],
    [0x64A], [0x1EEAA], [0x644], [0x645], [0x646], [0x633], [0x639], [0x641], [0x635], [0x642],
    [0x631], [0x634], [0x62A], [0x62B], [0x62E], [0x630], [0x636], [0x638], [0x63A]]⟩,
   ⟨0x1F100, 0x1F10A, [[0x30, 0x2E], [0x30, 0x2C], [0x31, 0x2C], [0x32, 0x2C], [0x33, 0x2C],
    [0x34, 0x2C], [0x35, 0x2C], [0x36, 0x2C], [0x37, 0x2C], [0x38, 0x2C], [0x39, 0x2C]]⟩,
   ⟨0x1F110, 0x1F12E, [[0x28, 0x41, 0x29], [0x28, 0x42, 0x29], [0x28, 0x43, 0x29],
    [0x28, 0x44, 0x29], [0x28, 0x45, 0x29], [0x28, 0x46, 0x29], [0x28, 0x47, 0x29],
    [0x28, 0x48, 0x29], [0x28, 0x49, 0x29], [0x28, 0x4A, 0x29], [0x28, 0x4B, 0x29],
    [0x28, 0x4C, 0x29], [0x28, 0x4D, 0x29], [0x28, 0x4E, 0x29], [0x28, 0x4F, 0x29],
    [0x28, 0x50, 0x29], [0x28, 0x51, 0x29], [0x28, 0x52, 0x29], [0x28, 0x53, 0x29],
    [0x28, 0x54, 0x29], [0x28, 0x55, 0x29], [0x28, 0x56, 0x29], [0x28, 0x57, 0x29],
    [0x28, 0x58, 0x29], [0x28, 0x59, 0x29], [0x28, 0x5A, 0x29], [0x3014, 0x53, 0x3015], [0x43],
    [0x52], [0x43, 0x44], [0x57, 0x5A]]⟩,
   ⟨0x1F14A, 0x1F14F, [[0x48, 0x56], [0x4D, 0x56], [0x53, 0x44], [0x53, 0x53],
    [0x50, 0x50, 0x56], [0x57, 0x43]]⟩,
   ⟨0x1F16A, 0x1F16C, [[0x4D, 0x43], [0x4D, 0x44], [0x4D, 0x52]]⟩,
   ⟨0x1F190, 0x1F190, [[0x44, 0x4A]]⟩,
   ⟨0x1F200, 0x1F202, [[0x307B, 0x304B], [0x30B3, 0x30B3], [0x30B5]]⟩,
   ⟨0x1F210, 0x1F23B, [[0x624B], [0x5B57], [0x53CC], [0x30C6, 0x3099], [0x4E8C], [0x591A],
    [0x89E3], [0x5929], [0x4EA4], [0x6620], [0x7121], [0x6599], [0x524D], [0x5F8C], [0x518D],
    [0x65B0], [0x521D], [0x7D42], [0x751F], [0x8CA9], [0x58F0], [0x5439], [0x6F14], [0x6295],
    [0x6355], [0x4E00], [0x4E09], [0x904A], [0x5DE6], [0x4E2D], [0x53F3], [0x6307], [0x8D70],
    [0x6253], [0x7981], [0x7A7A], [0x5408], [0x6E80], [0x6709], [0x6708], [0x7533], [0x5272],
    [0x55B6], [0x914D]]⟩,
   ⟨0x1F240, 0x1F248, [[0x3014, 0x672C, 0x3015], [0x3014, 0x4E09, 0x3015],
    [0x3014, 0x4E8C, 0x3015], [0x3014, 0x5B89, 0x3015], [0x3014, 0x70B9, 0x3015],
    [0x3014, 0x6253, 0x3015], [0x3014, 0x76D7, 0x3015], [0x3014, 0x52DD, 0x3015],
    [0x3014, 0x6557, 0x3015]]⟩,
   ⟨0x1F250, 0x1F251, [[0x5F97], [0x53EF]]⟩,
   ⟨0x2F800, 0x2F8FF, [[0x4E3D], [0x4E38], [0x4E41], [0x20122], [0x4F60], [0x4FAE], [0x4FBB],
    [0x5002], [0x507A], [0x5099], [0x50E7], [0x50CF], [0x349E], [0x2063A], [0x514D], [0x5154],
    [0x5164], [0x5177], [0x2051C], [0x34B9], [0x5167], [0x518D], [0x2054B], [0x5197], [0x51A4],
    [0x4ECC], [0x51AC], [0x51B5], [0x291DF], [0x51F5], [0x5203], [0x34DF], [0x523B], [0x5246],
    [0x5272], [0x5277], [0x3515], [0x52C7], [0x52C9], [0x52E4], [0x52FA], [0x5305], [0x5306],
    [0x5317], [0x5349], [0x5351], [0x535A], [0x5373], [0x537D], [0x537F], [0x537F], [0x537F],
    [0x20A2C], [0x7070], [0x53CA], [0x53DF], [0x20B63], [0x53EB], [0x53F1], [0x5406], [0x549E],
    [0x5438], [0x5448], [0x5468], [0x54A2], [0x54F6], [0x5510], [0x5553], [0x5563], [0x5584],
    [0x5584], [0x5599], [0x55AB], [0x55B3], [0x55C2], [0x5716], [0x5606], [0x5717], [0x5651],
    [0x5674], [0x5207], [0x58EE], [0x57CE], [0x57F4], [0x580D], [0x578B], [0x5832], [0x5831],
    [0x58AC], [0x214E4], [0x58F2], [0x58F7], [0x5906], [0x591A], [0x5922], [0x5962], [0x216A8],
    [0x216EA], [0x59EC], [0x5A1B], [0x5A27], [0x59D8], [0x5A66], [0x36EE], [0x36FC], [0x5B08],
    [0x5B3E], [0x5B3E], [0x219C8], [0x5BC3], [0x5BD8], [0x5BE7], [0x5BF3], [0x21B18], [0x5BFF],
    [0x5C06], [0x5F53], [0x5C22], [0x3781], [0x5C60], [0x5C6E], [0x5CC0], [0x5C8D], [0x21DE4],
    [0x5D43], [0x21DE6], [0x5D6E], [0x5D6B], [0x5D7C], [0x5DE1], [0x5DE2], [0x382F], [0x5DFD],
    [0x5E28], [0x5E3D], [0x5E69], [0x3862], [0x22183], [0x387C], [0x5EB0], [0x5EB3], [0x5EB6],
    [0x5ECA], [0x2A392], [0x5EFE], [0x22331], [0x22331], [0x8201], [0x5F22], [0x5F22], [0x38C7],
    [0x232B8], [0x261DA], [0x5F62], [0x5F6B], [0x38E3], [0x5F9A], [0x5FCD], [0x5FD7], [0x5FF9],
    [0x6081], [0x393A], [0x391C], [0x6094], [0x226D4], [0x60C7], [0x6148], [0x614C], [0x614E],
    [0x614C], [0x617A], [0x618E], [0x61B2], [0x61A4], [0x61AF], [0x61DE], [0x61F2], [0x61F6],
    [0x6210], [0x621B], [0x625D], [0x62B1], [0x62D4], [0x6350], [0x22B0C], [0x633D], [0x62FC],
    [0x6368], [0x6383], [0x63E4], [0x22BF1], [0x6422], [0x63C5], [0x63A9], [0x3A2E], [0x6469],
    [0x647E], [0x649D], [0x6477], [0x3A6C], [0x654F], [0x656C], [0x2300A], [0x65E3], [0x66F8],
    [0x6649], [0x3B19], [0x6691], [0x3B08], [0x3AE4], [0x5192], [0x5195], [0x6700], [0x669C],
    [0x80AD], [0x43D9], [0x6717], [0x671B], [0x6721], [0x675E], [0x6753], [0x233C3], [0x3B49],
    [0x67FA], [0x6785], [0x6852], [0x6885], [0x2346D], [0x688E], [0x681F], [0x6914], [0x3B9D],
    [0x6942], [0x69A3], [0x69EA], [0x6AA8], [0x236A3], [0x6ADB], [0x3C18], [0x6B21], [0x238A7],
    [0x6B54], [0x3C4E], [0x6B72], [0x6B9F], [0x6BBA], [0x6BBB], [0x23A8D], [0x21D0B], [0x23AFA],
    [0x6C4E], [0x23CBC], [0x6CBF], [0x6CCD], [0x6C67], [0x6D16]]⟩,
   ⟨0x2F900, 0x2F9FF, [[0x6D3E], [0x6D77], [0x6D41], [0x6D69], [0x6D78], [0x6D85], [0x23D1E],
    [0x6D34], [0x6E2F], [0x6E6E], [0x3D33], [0x6ECB], [0x6EC7], [0x23ED1], [0x6DF9], [0x6F6E],
    [0x23F5E], [0x23F8E], [0x6FC6], [0x7039], [0x701E], [0x701B], [0x3D96], [0x704A], [0x707D],
    [0x7077], [0x70AD], [0x20525], [0x7145], [0x24263], [0x719C], [0x243AB], [0x7228], [0x7235],
    [0x7250], [0x24608], [0x7280], [0x7295], [0x24735], [0x24814], [0x737A], [0x738B], [0x3EAC],
    [0x73A5], [0x3EB8], [0x3EB8], [0x7447], [0x745C], [0x7471], [0x7485], [0x74CA], [0x3F1B],
    [0x7524], [0x24C36], [0x753E], [0x24C92], [0x7570], [0x2219F], [0x7610], [0x24FA1],
    [0x24FB8], [0x25044], [0x3FFC], [0x4008], [0x76F4], [0x250F3], [0x250F2], [0x25119],
    [0x25133], [0x771E], [0x771F], [0x771F], [0x774A], [0x4039], [0x778B], [0x4046], [0x4096],
    [0x2541D], [0x784E], [0x788C], [0x78CC], [0x40E3], [0x25626], [0x7956], [0x2569A], [0x256C5],
    [0x798F], [0x79EB], [0x412F], [0x7A40], [0x7A4A], [0x7A4F], [0x2597C], [0x25AA7], [0x25AA7],
    [0x7AEE], [0x4202], [0x25BAB], [0x7BC6], [0x7BC9], [0x4227], [0x25C80], [0x7CD2], [0x42A0],
    [0x7CE8], [0x7CE3], [0x7D00], [0x25F86], [0x7D63], [0x4301], [0x7DC7], [0x7E02], [0x7E45],
    [0x4334], [0x26228], [0x26247], [0x4359], [0x262D9], [0x7F7A], [0x2633E], [0x7F95], [0x7FFA],
    [0x8005], [0x264DA], [0x26523], [0x8060], [0x265A8], [0x8070], [0x2335F], [0x43D5], [0x80B2],
    [0x8103], [0x440B], [0x813E], [0x5AB5], [0x267A7], [0x267B5], [0x23393], [0x2339C], [0x8201],
    [0x8204], [0x8F9E], [0x446B], [0x8291], [0x828B], [0x829D], [0x52B3], [0x82B1], [0x82B3],
    [0x82BD], [0x82E6], [0x26B3C], [0x82E5], [0x831D], [0x8363], [0x83AD], [0x8323], [0x83BD],
    [0x83E7], [0x8457], [0x8353], [0x83CA], [0x83CC], [0x83DC], [0x26C36], [0x26D6B], [0x26CD5],
    [0x452B], [0x84F1], [0x84F3], [0x8516], [0x273CA], [0x8564], [0x26F2C], [0x455D], [0x4561],
    [0x26FB1], [0x270D2], [0x456B], [0x8650], [0x865C], [0x8667], [0x8669], [0x86A9], [0x8688],
    [0x870E], [0x86E2], [0x8779], [0x8728], [0x876B], [0x8786], [0x45D7], [0x87E1], [0x8801],
    [0x45F9], [0x8860], [0x8863], [0x27667], [0x88D7], [0x88DE], [0x4635], [0x88FA], [0x34BB],
    [0x278AE], [0x27966], [0x46BE], [0x46C7], [0x8AA0], [0x8AED], [0x8B8A], [0x8C55], [0x27CA8],
    [0x8CAB], [0x8CC1], [0x8D1B], [0x8D77], [0x27F2F], [0x20804], [0x8DCB], [0x8DBC], [0x8DF0],
    [0x208DE], [0x8ED4], [0x8F38], [0x285D2], [0x285ED], [0x9094], [0x90F1], [0x9111], [0x2872E],
    [0x911B], [0x9238], [0x92D7], [0x92D8], [0x927C], [0x93F9], [0x9415], [0x28BFA], [0x958B],
    [0x4995], [0x95B7], [0x28D77], [0x49E6], [0x96C3], [0x5DB2], [0x9723], [0x29145], [0x2921A],
    [0x4A6E], [0x4A76], [0x97E0], [0x2940A], [0x4AB2], [0x29496], [0x980B], [0x980B]]⟩,
   ⟨0x2FA00, 0x2FA1D, [[0x9829], [0x295B6], [0x98E2], [0x4B33], [0x9929], [0x99A7], [0x99C2],
    [0x99FE], [0x4BCE], [0x29B30], [0x9B12], [0x9C40], [0x9CFD], [0x4CCE], [0x4CED], [0x9D67],
    [0x2A0CE], [0x4CF8], [0x2A105], [0x2A20E], [0x2A291], [0x9EBB], [0x4D56], [0x9EF9], [0x9EFE],
    [0x9F05], [0x9F0F], [0x9F16], [0x9F3B], [0x2A600]]⟩]

/-- The blocks of all planes. -/
def decompositionBlocks : List Block :=
  latinBlocks ++ symbolBlocks ++ ideographBlocks ++ presentationBlocks ++ supplementaryBlocks

/-- The combining marks: characters of a combining class other than zero. -/
def markRanges : List (Nat × Nat) :=
  [(0x300, 0x34E), (0x350, 0x36F), (0x483, 0x487), (0x591, 0x5BD), (0x5BF, 0x5BF), (0x5C1, 0x5C2),
  (0x5C4, 0x5C5), (0x5C7, 0x5C7), (0x610, 0x61A), (0x64B, 0x65F), (0x670, 0x670), (0x6D6, 0x6DC),
  (0x6DF, 0x6E4), (0x6E7, 0x6E8), (0x6EA, 0x6ED), (0x711, 0x711), (0x730, 0x74A), (0x7EB, 0x7F3),
  (0x7FD, 0x7FD), (0x816, 0x819), (0x81B, 0x823), (0x825, 0x827), (0x829, 0x82D), (0x859, 0x85B),
  (0x898, 0x89F), (0x8CA, 0x8E1), (0x8E3, 0x8FF), (0x93C, 0x93C), (0x94D, 0x94D), (0x951, 0x954),
  (0x9BC, 0x9BC), (0x9CD, 0x9CD), (0x9FE, 0x9FE), (0xA3C, 0xA3C), (0xA4D, 0xA4D), (0xABC, 0xABC),
  (0xACD, 0xACD), (0xB3C, 0xB3C), (0xB4D, 0xB4D), (0xBCD, 0xBCD), (0xC3C, 0xC3C), (0xC4D, 0xC4D),
  (0xC55, 0xC56), (0xCBC, 0xCBC), (0xCCD, 0xCCD), (0xD3B, 0xD3C), (0xD4D, 0xD4D), (0xDCA, 0xDCA),
  (0xE38, 0xE3A), (0xE48, 0xE4B), (0xEB8, 0xEBA), (0xEC8, 0xECB), (0xF18, 0xF19), (0xF35, 0xF35),
  (0xF37, 0xF37), (0xF39, 0xF39), (0xF71, 0xF72), (0xF74, 0xF74), (0xF7A, 0xF7D), (0xF80, 0xF80),
  (0xF82, 0xF84), (0xF86, 0xF87), (0xFC6, 0xFC6), (0x1037, 0x1037), (0x1039, 0x103A),
  (0x108D, 0x108D), (0x135D, 0x135F), (0x1714, 0x1715), (0x1734, 0x1734), (0x17D2, 0x17D2),
  (0x17DD, 0x17DD), (0x18A9, 0x18A9), (0x1939, 0x193B), (0x1A17, 0x1A18), (0x1A60, 0x1A60),
  (0x1A75, 0x1A7C), (0x1A7F, 0x1A7F), (0x1AB0, 0x1ABD), (0x1ABF, 0x1ACE), (0x1B34, 0x1B34),
  (0x1B44, 0x1B44), (0x1B6B, 0x1B73), (0x1BAA, 0x1BAB), (0x1BE6, 0x1BE6), (0x1BF2, 0x1BF3),
  (0x1C37, 0x1C37), (0x1CD0, 0x1CD2), (0x1CD4, 0x1CE0), (0x1CE2, 0x1CE8), (0x1CED, 0x1CED),
  (0x1CF4, 0x1CF4), (0x1CF8, 0x1CF9), (0x1DC0, 0x1DFF), (0x20D0, 0x20DC), (0x20E1, 0x20E1),
  (0x20E5, 0x20F0), (0x2CEF, 0x2CF1), (0x2D7F, 0x2D7F), (0x2DE0, 0x2DFF), (0x302A, 0x302F),
  (0x3099, 0x309A), (0xA66F, 0xA66F), (0xA674, 0xA67D), (0xA69E, 0xA69F), (0xA6F0, 0xA6F1),
  (0xA806, 0xA806), (0xA82C, 0xA82C), (0xA8C4, 0xA8C4), (0xA8E0, 0xA8F1), (0xA92B, 0xA92D),
  (0xA953, 0xA953), (0xA9B3, 0xA9B3), (0xA9C0, 0xA9C0), (0xAAB0, 0xAAB0), (0xAAB2, 0xAAB4),
  (0xAAB7, 0xAAB8), (0xAABE, 0xAABF), (0xAAC1, 0xAAC1), (0xAAF6, 0xAAF6), (0xABED, 0xABED),
  (0xFB1E, 0xFB1E), (0xFE20, 0xFE2F), (0x101FD, 0x101FD), (0x102E0, 0x102E0), (0x10376, 0x1037A),
  (0x10A0D, 0x10A0D), (0x10A0F, 0x10A0F), (0x10A38, 0x10A3A), (0x10A3F, 0x10A3F),
  (0x10AE5, 0x10AE6), (0x10D24, 0x10D27), (0x10EAB, 0x10EAC), (0x10F46, 0x10F50),
  (0x10F82, 0x10F85), (0x11046, 0x11046), (0x11070, 0x11070), (0x1107F, 0x1107F),
  (0x110B9, 0x110BA), (0x11100, 0x11102), (0x11133, 0x11134), (0x11173, 0x11173),
  (0x111C0, 0x111C0), (0x111CA, 0x111CA), (0x11235, 0x11236), (0x112E9, 0x112EA),
  (0x1133B, 0x1133C), (0x1134D, 0x1134D), (0x11366, 0x1136C), (0x11370, 0x11374),
  (0x11442, 0x11442), (0x11446, 0x11446), (0x1145E, 0x1145E), (0x114C2, 0x114C3),
  (0x115BF, 0x115C0), (0x1163F, 0x1163F), (0x116B6, 0x116B7), (0x1172B, 0x1172B),
  (0x11839, 0x1183A), (0x1193D, 0x1193E), (0x11943, 0x11943), (0x119E0, 0x119E0),
  (0x11A34, 0x11A34), (0x11A47, 0x11A47), (0x11A99, 0x11A99), (0x11C3F, 0x11C3F),
  (0x11D42, 0x11D42), (0x11D44, 0x11D45), (0x11D97, 0x11D97), (0x16AF0, 0x16AF4),
  (0x16B30, 0x16B36), (0x16FF0, 0x16FF1), (0x1BC9E, 0x1BC9E), (0x1D165, 0x1D169),
  (0x1D16D, 0x1D172), (0x1D17B, 0x1D182), (0x1D185, 0x1D18B), (0x1D1AA, 0x1D1AD),
  (0x1D242, 0x1D244), (0x1E000, 0x1E006), (0x1E008, 0x1E018), (0x1E01B, 0x1E021),
  (0x1E023, 0x1E024), (0x1E026, 0x1E02A), (0x1E130, 0x1E136), (0x1E2AE, 0x1E2AE),
  (0x1E2EC, 0x1E2EF), (0x1E8D0, 0x1E8D6), (0x1E944, 0x1E94A)]

end Compendium.Text
