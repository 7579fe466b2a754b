import Wikidown.Charset.Reading

/-!
# Four-byte codes of GB 18030

The runs of characters that four bytes stand for. The bytes count in mixed radix: the second and the
fourth have ten values, the first and the third 126.
-/

namespace Wikidown.Gb18030

/-- A run of consecutive codes that stand for consecutive characters: the number of the first code,
how many there are, and the first character. -/
def runs : List (Nat × Nat × Nat) := [
  (0, 36, 0x80), (36, 2, 0xA5), (38, 7, 0xA9), (45, 5, 0xB2), (50, 31, 0xB8), (81, 8, 0xD8),
  (89, 6, 0xE2), (95, 1, 0xEB), (96, 4, 0xEE), (100, 3, 0xF4), (103, 1, 0xF8), (104, 1, 0xFB),
  (105, 4, 0xFD), (109, 17, 0x102), (126, 7, 0x114), (133, 15, 0x11C), (148, 24, 0x12C),
  (172, 3, 0x145), (175, 4, 0x149), (179, 29, 0x14E), (208, 98, 0x16C), (306, 1, 0x1CF),
  (307, 1, 0x1D1), (308, 1, 0x1D3), (309, 1, 0x1D5), (310, 1, 0x1D7), (311, 1, 0x1D9),
  (312, 1, 0x1DB), (313, 28, 0x1DD), (341, 87, 0x1FA), (428, 15, 0x252), (443, 101, 0x262),
  (544, 1, 0x2C8), (545, 13, 0x2CC), (558, 183, 0x2DA), (741, 1, 0x3A2), (742, 7, 0x3AA),
  (749, 1, 0x3C2), (750, 55, 0x3CA), (805, 14, 0x402), (819, 1, 0x450), (820, 7102, 0x452),
  (7922, 2, 0x2011), (7924, 1, 0x2017), (7925, 2, 0x201A), (7927, 7, 0x201E), (7934, 9, 0x2027),
  (7943, 1, 0x2031), (7944, 1, 0x2034), (7945, 5, 0x2036), (7950, 112, 0x203C),
  (8062, 86, 0x20AD), (8148, 1, 0x2104), (8149, 3, 0x2106), (8152, 12, 0x210A),
  (8164, 10, 0x2117), (8174, 62, 0x2122), (8236, 4, 0x216C), (8240, 22, 0x217A),
  (8262, 2, 0x2194), (8264, 110, 0x219A), (8374, 6, 0x2209), (8380, 1, 0x2210), (8381, 3, 0x2212),
  (8384, 4, 0x2216), (8388, 2, 0x221B), (8390, 2, 0x2221), (8392, 1, 0x2224), (8393, 1, 0x2226),
  (8394, 2, 0x222C), (8396, 5, 0x222F), (8401, 5, 0x2238), (8406, 10, 0x223E), (8416, 3, 0x2249),
  (8419, 5, 0x224D), (8424, 13, 0x2253), (8437, 2, 0x2262), (8439, 6, 0x2268), (8445, 37, 0x2270),
  (8482, 3, 0x2296), (8485, 11, 0x229A), (8496, 25, 0x22A6), (8521, 82, 0x22C0),
  (8603, 333, 0x2313), (8936, 10, 0x246A), (8946, 100, 0x249C), (9046, 4, 0x254C),
  (9050, 13, 0x2574), (9063, 3, 0x2590), (9066, 10, 0x2596), (9076, 16, 0x25A2),
  (9092, 8, 0x25B4), (9100, 8, 0x25BE), (9108, 3, 0x25C8), (9111, 2, 0x25CC), (9113, 18, 0x25D0),
  (9131, 31, 0x25E6), (9162, 2, 0x2607), (9164, 54, 0x260A), (9218, 1, 0x2641),
  (9219, 2110, 0x2643), (11329, 2, 0x2E82), (11331, 3, 0x2E85), (11334, 2, 0x2E89),
  (11336, 10, 0x2E8D), (11346, 15, 0x2E98), (11361, 2, 0x2EA8), (11363, 3, 0x2EAB),
  (11366, 4, 0x2EAF), (11370, 2, 0x2EB4), (11372, 3, 0x2EB8), (11375, 14, 0x2EBC),
  (11389, 293, 0x2ECB), (11682, 4, 0x2FFC), (11686, 1, 0x3004), (11687, 5, 0x3018),
  (11692, 2, 0x301F), (11694, 20, 0x302A), (11714, 2, 0x303F), (11716, 7, 0x3094),
  (11723, 2, 0x309F), (11725, 5, 0x30F7), (11730, 6, 0x30FF), (11736, 246, 0x312A),
  (11982, 7, 0x322A), (11989, 113, 0x3232), (12102, 234, 0x32A4), (12336, 12, 0x3390),
  (12348, 2, 0x339F), (12350, 34, 0x33A2), (12384, 9, 0x33C5), (12393, 2, 0x33CF),
  (12395, 2, 0x33D3), (12397, 113, 0x33D6), (12510, 43, 0x3448), (12553, 298, 0x3474),
  (12851, 111, 0x359F), (12962, 11, 0x360F), (12973, 765, 0x361B), (13738, 85, 0x3919),
  (13823, 96, 0x396F), (13919, 14, 0x39D1), (13933, 147, 0x39E0), (14080, 218, 0x3A74),
  (14298, 287, 0x3B4F), (14585, 113, 0x3C6F), (14698, 885, 0x3CE1), (15583, 264, 0x4057),
  (15847, 471, 0x4160), (16318, 116, 0x4338), (16434, 4, 0x43AD), (16438, 43, 0x43B2),
  (16481, 248, 0x43DE), (16729, 373, 0x44D7), (17102, 20, 0x464D), (17122, 193, 0x4662),
  (17315, 5, 0x4724), (17320, 82, 0x472A), (17402, 16, 0x477D), (17418, 441, 0x478E),
  (17859, 50, 0x4948), (17909, 2, 0x497B), (17911, 4, 0x497E), (17915, 1, 0x4984),
  (17916, 20, 0x4987), (17936, 3, 0x499C), (17939, 22, 0x49A0), (17961, 703, 0x49B8),
  (18664, 39, 0x4C78), (18703, 111, 0x4CA4), (18814, 148, 0x4D1A), (18962, 81, 0x4DAF),
  (19043, 14426, 0x9FA6), (33469, 1, 0xE76C), (33470, 1, 0xE7C8), (33471, 13, 0xE7E7),
  (33484, 1, 0xE815), (33485, 5, 0xE819), (33490, 7, 0xE81F), (33497, 4, 0xE827),
  (33501, 4, 0xE82D), (33505, 8, 0xE833), (33513, 7, 0xE83C), (33520, 16, 0xE844),
  (33536, 14, 0xE856), (33550, 4295, 0xE865), (37845, 76, 0xF92D), (37921, 27, 0xF97A),
  (37948, 81, 0xF996), (38029, 9, 0xF9E8), (38038, 26, 0xF9F2), (38064, 1, 0xFA10),
  (38065, 1, 0xFA12), (38066, 3, 0xFA15), (38069, 6, 0xFA19), (38075, 1, 0xFA22),
  (38076, 2, 0xFA25), (38078, 1030, 0xFA2A), (39108, 1, 0xFE32), (39109, 4, 0xFE45),
  (39113, 1, 0xFE53), (39114, 1, 0xFE58), (39115, 1, 0xFE67), (39116, 149, 0xFE6C),
  (39265, 129, 0xFF5F), (39394, 26, 0xFFE6), (189000, 1048576, 0x10000)]

/-- The number of a four-byte code. -/
def number (a b c d : UInt8) : Nat :=
  (((a.toNat - 0x81) * 10 + (b.toNat - 0x30)) * 126 + (c.toNat - 0x81)) * 10 + (d.toNat - 0x30)

/-- The character of a four-byte code. -/
def char? (a b c d : UInt8) : Option Char :=
  if a < 0x81 || a == 0xFF || c < 0x81 || c == 0xFF || d < 0x30 || d > 0x39 then none else
  let n := number a b c d
  (runs.find? fun (start, length, _) => start ≤ n && n < start + length).map fun (start, _, first) =>
    Char.ofNat (first + (n - start))

end Wikidown.Gb18030
