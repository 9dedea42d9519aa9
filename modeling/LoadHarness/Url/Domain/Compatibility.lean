/-!
# Characters that stand for ASCII characters

Some characters beyond ASCII are another form of an ASCII character, or of a row of characters
with ASCII ones among them: wide and circled letters, units, digits with a full stop.
`standIns` lists those of one ASCII character, in runs whose characters follow each other on
both sides, and `spelledOut` the others.
-/

namespace LoadHarness.Url

/-- Runs of characters: the first, what it stands for, and how many they are. -/
def standIns : List (Nat × Nat × Nat) :=
  [
    (0xA0, 0x20, 1), (0xAA, 0x61, 1), (0xB2, 0x32, 2), (0xB9, 0x31, 1), (0xBA, 0x6F, 1),
    (0x17F, 0x73, 1), (0x2B0, 0x68, 1), (0x2B2, 0x6A, 1), (0x2B3, 0x72, 1), (0x2B7, 0x77, 1),
    (0x2B8, 0x79, 1), (0x2E1, 0x6C, 1), (0x2E2, 0x73, 1), (0x2E3, 0x78, 1), (0x37E, 0x3B, 1),
    (0x1D2C, 0x61, 1), (0x1D2E, 0x62, 1), (0x1D30, 0x64, 2), (0x1D33, 0x67, 8),
    (0x1D3C, 0x6F, 1), (0x1D3E, 0x70, 1), (0x1D3F, 0x72, 1), (0x1D40, 0x74, 2),
    (0x1D42, 0x77, 1), (0x1D43, 0x61, 1), (0x1D47, 0x62, 1), (0x1D48, 0x64, 2),
    (0x1D4D, 0x67, 1), (0x1D4F, 0x6B, 1), (0x1D50, 0x6D, 1), (0x1D52, 0x6F, 1),
    (0x1D56, 0x70, 1), (0x1D57, 0x74, 2), (0x1D5B, 0x76, 1), (0x1D62, 0x69, 1),
    (0x1D63, 0x72, 1), (0x1D64, 0x75, 2), (0x1D9C, 0x63, 1), (0x1DA0, 0x66, 1),
    (0x1DBB, 0x7A, 1), (0x1FEF, 0x60, 1), (0x2000, 0x20, 1), (0x2001, 0x20, 1),
    (0x2002, 0x20, 1), (0x2003, 0x20, 1), (0x2004, 0x20, 1), (0x2005, 0x20, 1),
    (0x2006, 0x20, 1), (0x2007, 0x20, 1), (0x2008, 0x20, 1), (0x2009, 0x20, 1),
    (0x200A, 0x20, 1), (0x202F, 0x20, 1), (0x205F, 0x20, 1), (0x2070, 0x30, 1),
    (0x2071, 0x69, 1), (0x2074, 0x34, 6), (0x207A, 0x2B, 1), (0x207C, 0x3D, 1),
    (0x207D, 0x28, 2), (0x207F, 0x6E, 1), (0x2080, 0x30, 10), (0x208A, 0x2B, 1),
    (0x208C, 0x3D, 1), (0x208D, 0x28, 2), (0x2090, 0x61, 1), (0x2091, 0x65, 1),
    (0x2092, 0x6F, 1), (0x2093, 0x78, 1), (0x2095, 0x68, 1), (0x2096, 0x6B, 4),
    (0x209A, 0x70, 1), (0x209B, 0x73, 2), (0x2102, 0x63, 1), (0x210A, 0x67, 2),
    (0x210C, 0x68, 1), (0x210D, 0x68, 1), (0x210E, 0x68, 1), (0x2110, 0x69, 1),
    (0x2111, 0x69, 1), (0x2112, 0x6C, 1), (0x2113, 0x6C, 1), (0x2115, 0x6E, 1),
    (0x2119, 0x70, 3), (0x211C, 0x72, 1), (0x211D, 0x72, 1), (0x2124, 0x7A, 1),
    (0x2128, 0x7A, 1), (0x212A, 0x6B, 1), (0x212C, 0x62, 2), (0x212F, 0x65, 1),
    (0x2130, 0x65, 2), (0x2133, 0x6D, 1), (0x2134, 0x6F, 1), (0x2139, 0x69, 1),
    (0x2145, 0x64, 1), (0x2146, 0x64, 2), (0x2148, 0x69, 2), (0x2160, 0x69, 1),
    (0x2164, 0x76, 1), (0x2169, 0x78, 1), (0x216C, 0x6C, 1), (0x216D, 0x63, 2),
    (0x216F, 0x6D, 1), (0x2170, 0x69, 1), (0x2174, 0x76, 1), (0x2179, 0x78, 1),
    (0x217C, 0x6C, 1), (0x217D, 0x63, 2), (0x217F, 0x6D, 1), (0x2460, 0x31, 9),
    (0x24B6, 0x61, 26), (0x24D0, 0x61, 26), (0x24EA, 0x30, 1), (0x2C7C, 0x6A, 1),
    (0x2C7D, 0x76, 1), (0x3000, 0x20, 1), (0x3002, 0x2E, 1), (0xA7F1, 0x73, 1),
    (0xA7F2, 0x63, 1), (0xA7F3, 0x66, 1), (0xA7F4, 0x71, 1), (0xFB29, 0x2B, 1),
    (0xFE10, 0x2C, 1), (0xFE13, 0x3A, 2), (0xFE15, 0x21, 1), (0xFE16, 0x3F, 1),
    (0xFE33, 0x5F, 1), (0xFE34, 0x5F, 1), (0xFE35, 0x28, 2), (0xFE37, 0x7B, 1),
    (0xFE38, 0x7D, 1), (0xFE47, 0x5B, 1), (0xFE48, 0x5D, 1), (0xFE4D, 0x5F, 1),
    (0xFE4E, 0x5F, 1), (0xFE4F, 0x5F, 1), (0xFE50, 0x2C, 1), (0xFE54, 0x3B, 1),
    (0xFE55, 0x3A, 1), (0xFE56, 0x3F, 1), (0xFE57, 0x21, 1), (0xFE59, 0x28, 2),
    (0xFE5B, 0x7B, 1), (0xFE5C, 0x7D, 1), (0xFE5F, 0x23, 1), (0xFE60, 0x26, 1),
    (0xFE61, 0x2A, 2), (0xFE63, 0x2D, 1), (0xFE64, 0x3C, 1), (0xFE65, 0x3E, 1),
    (0xFE66, 0x3D, 1), (0xFE68, 0x5C, 1), (0xFE69, 0x24, 2), (0xFE6B, 0x40, 1),
    (0xFF01, 0x21, 32), (0xFF21, 0x61, 26), (0xFF3B, 0x5B, 36), (0xFF61, 0x2E, 1),
    (0x107A5, 0x71, 1), (0x1CCD6, 0x61, 26), (0x1CCF0, 0x30, 10), (0x1D400, 0x61, 26),
    (0x1D41A, 0x61, 26), (0x1D434, 0x61, 26), (0x1D44E, 0x61, 7), (0x1D456, 0x69, 18),
    (0x1D468, 0x61, 26), (0x1D482, 0x61, 26), (0x1D49C, 0x61, 1), (0x1D49E, 0x63, 2),
    (0x1D4A2, 0x67, 1), (0x1D4A5, 0x6A, 2), (0x1D4A9, 0x6E, 4), (0x1D4AE, 0x73, 8),
    (0x1D4B6, 0x61, 4), (0x1D4BB, 0x66, 1), (0x1D4BD, 0x68, 7), (0x1D4C5, 0x70, 11),
    (0x1D4D0, 0x61, 26), (0x1D4EA, 0x61, 26), (0x1D504, 0x61, 2), (0x1D507, 0x64, 4),
    (0x1D50D, 0x6A, 8), (0x1D516, 0x73, 7), (0x1D51E, 0x61, 26), (0x1D538, 0x61, 2),
    (0x1D53B, 0x64, 4), (0x1D540, 0x69, 5), (0x1D546, 0x6F, 1), (0x1D54A, 0x73, 7),
    (0x1D552, 0x61, 26), (0x1D56C, 0x61, 26), (0x1D586, 0x61, 26), (0x1D5A0, 0x61, 26),
    (0x1D5BA, 0x61, 26), (0x1D5D4, 0x61, 26), (0x1D5EE, 0x61, 26), (0x1D608, 0x61, 26),
    (0x1D622, 0x61, 26), (0x1D63C, 0x61, 26), (0x1D656, 0x61, 26), (0x1D670, 0x61, 26),
    (0x1D68A, 0x61, 26), (0x1D7CE, 0x30, 10), (0x1D7D8, 0x30, 10), (0x1D7E2, 0x30, 10),
    (0x1D7EC, 0x30, 10), (0x1D7F6, 0x30, 10), (0x1F12B, 0x63, 1), (0x1F12C, 0x72, 1),
    (0x1F130, 0x61, 26), (0x1FBF0, 0x30, 10) ]

def spelledOut1 : List (Nat × String) :=
  [
    (0xA8, " \u0308"), (0xAF, " \u0304"), (0xB4, " \u0301"), (0xB8, " \u0327"),
    (0xBC, "1\u20444"), (0xBD, "1\u20442"), (0xBE, "3\u20444"), (0x130, "i\u0307"),
    (0x132, "ij"), (0x133, "ij"), (0x13F, "l\u00b7"), (0x140, "l\u00b7"), (0x149, "\u02bcn"),
    (0x1C4, "d\u017e"), (0x1C5, "d\u017e"), (0x1C6, "d\u017e"), (0x1C7, "lj"), (0x1C8, "lj"),
    (0x1C9, "lj"), (0x1CA, "nj"), (0x1CB, "nj"), (0x1CC, "nj"), (0x1F1, "dz"), (0x1F2, "dz"),
    (0x1F3, "dz"), (0x2D8, " \u0306"), (0x2D9, " \u0307"), (0x2DA, " \u030a"),
    (0x2DB, " \u0328"), (0x2DC, " \u0303"), (0x2DD, " \u030b"), (0x37A, " \u03b9"),
    (0x384, " \u0301"), (0x385, " \u0308\u0301"), (0x1E9A, "a\u02be"), (0x1FBD, " \u0313"),
    (0x1FBF, " \u0313"), (0x1FC0, " \u0342"), (0x1FC1, " \u0308\u0342"),
    (0x1FCD, " \u0313\u0300"), (0x1FCE, " \u0313\u0301"), (0x1FCF, " \u0313\u0342"),
    (0x1FDD, " \u0314\u0300"), (0x1FDE, " \u0314\u0301"), (0x1FDF, " \u0314\u0342"),
    (0x1FED, " \u0308\u0300"), (0x1FEE, " \u0308\u0301"), (0x1FFD, " \u0301"),
    (0x1FFE, " \u0314"), (0x2017, " \u0333"), (0x203C, "!!"), (0x203E, " \u0305"),
    (0x2047, "??"), (0x2048, "?!"), (0x2049, "!?"), (0x20A8, "rs"), (0x2100, "a/c"),
    (0x2101, "a/s"), (0x2103, "\u00b0c"), (0x2105, "c/o"), (0x2106, "c/u"), (0x2109, "\u00b0f"),
    (0x2116, "no"), (0x2120, "sm"), (0x2121, "tel"), (0x2122, "tm"), (0x213B, "fax"),
    (0x2150, "1\u20447"), (0x2151, "1\u20449"), (0x2152, "1\u204410"), (0x2153, "1\u20443"),
    (0x2154, "2\u20443"), (0x2155, "1\u20445"), (0x2156, "2\u20445"), (0x2157, "3\u20445"),
    (0x2158, "4\u20445"), (0x2159, "1\u20446"), (0x215A, "5\u20446"), (0x215B, "1\u20448"),
    (0x215C, "3\u20448"), (0x215D, "5\u20448"), (0x215E, "7\u20448"), (0x215F, "1\u2044"),
    (0x2161, "ii"), (0x2162, "iii"), (0x2163, "iv"), (0x2165, "vi"), (0x2166, "vii"),
    (0x2167, "viii"), (0x2168, "ix"), (0x216A, "xi"), (0x216B, "xii"), (0x2171, "ii"),
    (0x2172, "iii"), (0x2173, "iv"), (0x2175, "vi"), (0x2176, "vii"), (0x2177, "viii"),
    (0x2178, "ix"), (0x217A, "xi"), (0x217B, "xii"), (0x2189, "0\u20443"), (0x2469, "10"),
    (0x246A, "11"), (0x246B, "12"), (0x246C, "13"), (0x246D, "14"), (0x246E, "15"),
    (0x246F, "16"), (0x2470, "17"), (0x2471, "18"), (0x2472, "19"), (0x2473, "20"),
    (0x2474, "(1)"), (0x2475, "(2)"), (0x2476, "(3)"), (0x2477, "(4)"), (0x2478, "(5)"),
    (0x2479, "(6)"), (0x247A, "(7)"), (0x247B, "(8)"), (0x247C, "(9)"), (0x247D, "(10)"),
    (0x247E, "(11)"), (0x247F, "(12)"), (0x2480, "(13)"), (0x2481, "(14)"), (0x2482, "(15)"),
    (0x2483, "(16)"), (0x2484, "(17)"), (0x2485, "(18)"), (0x2486, "(19)"), (0x2487, "(20)"),
    (0x249C, "(a)"), (0x249D, "(b)"), (0x249E, "(c)"), (0x249F, "(d)"), (0x24A0, "(e)"),
    (0x24A1, "(f)"), (0x24A2, "(g)"), (0x24A3, "(h)"), (0x24A4, "(i)"), (0x24A5, "(j)"),
    (0x24A6, "(k)"), (0x24A7, "(l)"), (0x24A8, "(m)"), (0x24A9, "(n)"), (0x24AA, "(o)"),
    (0x24AB, "(p)"), (0x24AC, "(q)"), (0x24AD, "(r)"), (0x24AE, "(s)"), (0x24AF, "(t)"),
    (0x24B0, "(u)"), (0x24B1, "(v)"), (0x24B2, "(w)"), (0x24B3, "(x)"), (0x24B4, "(y)"),
    (0x24B5, "(z)"), (0x2A74, "::="), (0x2A75, "=="), (0x2A76, "==="), (0x309B, " \u3099"),
    (0x309C, " \u309a"), (0x3200, "(\u1100)"), (0x3201, "(\u1102)"), (0x3202, "(\u1103)"),
    (0x3203, "(\u1105)"), (0x3204, "(\u1106)"), (0x3205, "(\u1107)"), (0x3206, "(\u1109)"),
    (0x3207, "(\u110b)"), (0x3208, "(\u110c)"), (0x3209, "(\u110e)"), (0x320A, "(\u110f)"),
    (0x320B, "(\u1110)"), (0x320C, "(\u1111)"), (0x320D, "(\u1112)"), (0x320E, "(\uac00)"),
    (0x320F, "(\ub098)"), (0x3210, "(\ub2e4)"), (0x3211, "(\ub77c)"), (0x3212, "(\ub9c8)"),
    (0x3213, "(\ubc14)"), (0x3214, "(\uc0ac)"), (0x3215, "(\uc544)"), (0x3216, "(\uc790)"),
    (0x3217, "(\ucc28)"), (0x3218, "(\uce74)"), (0x3219, "(\ud0c0)"), (0x321A, "(\ud30c)"),
    (0x321B, "(\ud558)"), (0x321C, "(\uc8fc)"), (0x321D, "(\uc624\uc804)"),
    (0x321E, "(\uc624\ud6c4)"), (0x3220, "(\u4e00)"), (0x3221, "(\u4e8c)"), (0x3222, "(\u4e09)"),
    (0x3223, "(\u56db)"), (0x3224, "(\u4e94)"), (0x3225, "(\u516d)"), (0x3226, "(\u4e03)"),
    (0x3227, "(\u516b)"), (0x3228, "(\u4e5d)"), (0x3229, "(\u5341)"), (0x322A, "(\u6708)"),
    (0x322B, "(\u706b)"), (0x322C, "(\u6c34)"), (0x322D, "(\u6728)"), (0x322E, "(\u91d1)"),
    (0x322F, "(\u571f)"), (0x3230, "(\u65e5)"), (0x3231, "(\u682a)"), (0x3232, "(\u6709)"),
    (0x3233, "(\u793e)"), (0x3234, "(\u540d)"), (0x3235, "(\u7279)"), (0x3236, "(\u8ca1)"),
    (0x3237, "(\u795d)"), (0x3238, "(\u52b4)"), (0x3239, "(\u4ee3)"), (0x323A, "(\u547c)"),
    (0x323B, "(\u5b66)"), (0x323C, "(\u76e3)"), (0x323D, "(\u4f01)"), (0x323E, "(\u8cc7)"),
    (0x323F, "(\u5354)"), (0x3240, "(\u796d)"), (0x3241, "(\u4f11)"), (0x3242, "(\u81ea)"),
    (0x3243, "(\u81f3)"), (0x3250, "pte"), (0x3251, "21"), (0x3252, "22"), (0x3253, "23"),
    (0x3254, "24"), (0x3255, "25"), (0x3256, "26"), (0x3257, "27"), (0x3258, "28"),
    (0x3259, "29"), (0x325A, "30"), (0x325B, "31"), (0x325C, "32"), (0x325D, "33"),
    (0x325E, "34"), (0x325F, "35"), (0x32B1, "36"), (0x32B2, "37"), (0x32B3, "38"),
    (0x32B4, "39"), (0x32B5, "40"), (0x32B6, "41"), (0x32B7, "42"), (0x32B8, "43"),
    (0x32B9, "44"), (0x32BA, "45"), (0x32BB, "46"), (0x32BC, "47"), (0x32BD, "48"),
    (0x32BE, "49"), (0x32BF, "50"), (0x32C0, "1\u6708"), (0x32C1, "2\u6708"),
    (0x32C2, "3\u6708"), (0x32C3, "4\u6708"), (0x32C4, "5\u6708"), (0x32C5, "6\u6708"),
    (0x32C6, "7\u6708"), (0x32C7, "8\u6708"), (0x32C8, "9\u6708"), (0x32C9, "10\u6708"),
    (0x32CA, "11\u6708"), (0x32CB, "12\u6708"), (0x32CC, "hg"), (0x32CD, "erg"), (0x32CE, "ev"),
    (0x32CF, "ltd"), (0x3358, "0\u70b9"), (0x3359, "1\u70b9"), (0x335A, "2\u70b9"),
    (0x335B, "3\u70b9"), (0x335C, "4\u70b9"), (0x335D, "5\u70b9"), (0x335E, "6\u70b9"),
    (0x335F, "7\u70b9"), (0x3360, "8\u70b9"), (0x3361, "9\u70b9"), (0x3362, "10\u70b9"),
    (0x3363, "11\u70b9"), (0x3364, "12\u70b9"), (0x3365, "13\u70b9"), (0x3366, "14\u70b9"),
    (0x3367, "15\u70b9"), (0x3368, "16\u70b9"), (0x3369, "17\u70b9"), (0x336A, "18\u70b9"),
    (0x336B, "19\u70b9"), (0x336C, "20\u70b9"), (0x336D, "21\u70b9") ]

def spelledOut2 : List (Nat × String) :=
  [
    (0x336E, "22\u70b9"), (0x336F, "23\u70b9"), (0x3370, "24\u70b9"), (0x3371, "hpa"),
    (0x3372, "da"), (0x3373, "au"), (0x3374, "bar"), (0x3375, "ov"), (0x3376, "pc"),
    (0x3377, "dm"), (0x3378, "dm2"), (0x3379, "dm3"), (0x337A, "iu"), (0x3380, "pa"),
    (0x3381, "na"), (0x3382, "\u03bca"), (0x3383, "ma"), (0x3384, "ka"), (0x3385, "kb"),
    (0x3386, "mb"), (0x3387, "gb"), (0x3388, "cal"), (0x3389, "kcal"), (0x338A, "pf"),
    (0x338B, "nf"), (0x338C, "\u03bcf"), (0x338D, "\u03bcg"), (0x338E, "mg"), (0x338F, "kg"),
    (0x3390, "hz"), (0x3391, "khz"), (0x3392, "mhz"), (0x3393, "ghz"), (0x3394, "thz"),
    (0x3395, "\u03bcl"), (0x3396, "ml"), (0x3397, "dl"), (0x3398, "kl"), (0x3399, "fm"),
    (0x339A, "nm"), (0x339B, "\u03bcm"), (0x339C, "mm"), (0x339D, "cm"), (0x339E, "km"),
    (0x339F, "mm2"), (0x33A0, "cm2"), (0x33A1, "m2"), (0x33A2, "km2"), (0x33A3, "mm3"),
    (0x33A4, "cm3"), (0x33A5, "m3"), (0x33A6, "km3"), (0x33A7, "m\u2215s"),
    (0x33A8, "m\u2215s2"), (0x33A9, "pa"), (0x33AA, "kpa"), (0x33AB, "mpa"), (0x33AC, "gpa"),
    (0x33AD, "rad"), (0x33AE, "rad\u2215s"), (0x33AF, "rad\u2215s2"), (0x33B0, "ps"),
    (0x33B1, "ns"), (0x33B2, "\u03bcs"), (0x33B3, "ms"), (0x33B4, "pv"), (0x33B5, "nv"),
    (0x33B6, "\u03bcv"), (0x33B7, "mv"), (0x33B8, "kv"), (0x33B9, "mv"), (0x33BA, "pw"),
    (0x33BB, "nw"), (0x33BC, "\u03bcw"), (0x33BD, "mw"), (0x33BE, "kw"), (0x33BF, "mw"),
    (0x33C0, "k\u03c9"), (0x33C1, "m\u03c9"), (0x33C3, "bq"), (0x33C4, "cc"), (0x33C5, "cd"),
    (0x33C6, "c\u2215kg"), (0x33C8, "db"), (0x33C9, "gy"), (0x33CA, "ha"), (0x33CB, "hp"),
    (0x33CC, "in"), (0x33CD, "kk"), (0x33CE, "km"), (0x33CF, "kt"), (0x33D0, "lm"),
    (0x33D1, "ln"), (0x33D2, "log"), (0x33D3, "lx"), (0x33D4, "mb"), (0x33D5, "mil"),
    (0x33D6, "mol"), (0x33D7, "ph"), (0x33D9, "ppm"), (0x33DA, "pr"), (0x33DB, "sr"),
    (0x33DC, "sv"), (0x33DD, "wb"), (0x33DE, "v\u2215m"), (0x33DF, "a\u2215m"),
    (0x33E0, "1\u65e5"), (0x33E1, "2\u65e5"), (0x33E2, "3\u65e5"), (0x33E3, "4\u65e5"),
    (0x33E4, "5\u65e5"), (0x33E5, "6\u65e5"), (0x33E6, "7\u65e5"), (0x33E7, "8\u65e5"),
    (0x33E8, "9\u65e5"), (0x33E9, "10\u65e5"), (0x33EA, "11\u65e5"), (0x33EB, "12\u65e5"),
    (0x33EC, "13\u65e5"), (0x33ED, "14\u65e5"), (0x33EE, "15\u65e5"), (0x33EF, "16\u65e5"),
    (0x33F0, "17\u65e5"), (0x33F1, "18\u65e5"), (0x33F2, "19\u65e5"), (0x33F3, "20\u65e5"),
    (0x33F4, "21\u65e5"), (0x33F5, "22\u65e5"), (0x33F6, "23\u65e5"), (0x33F7, "24\u65e5"),
    (0x33F8, "25\u65e5"), (0x33F9, "26\u65e5"), (0x33FA, "27\u65e5"), (0x33FB, "28\u65e5"),
    (0x33FC, "29\u65e5"), (0x33FD, "30\u65e5"), (0x33FE, "31\u65e5"), (0x33FF, "gal"),
    (0xFB00, "ff"), (0xFB01, "fi"), (0xFB02, "fl"), (0xFB03, "ffi"), (0xFB04, "ffl"),
    (0xFB05, "st"), (0xFB06, "st"), (0xFC5E, " \u064c\u0651"), (0xFC5F, " \u064d\u0651"),
    (0xFC60, " \u064e\u0651"), (0xFC61, " \u064f\u0651"), (0xFC62, " \u0650\u0651"),
    (0xFC63, " \u0651\u0670"),
    (0xFDFA, "\u0635\u0644\u0649 \u0627\u0644\u0644\u0647 \u0639\u0644\u064a\u0647 \u0648\u0633\u0644\u0645"),
    (0xFDFB, "\u062c\u0644 \u062c\u0644\u0627\u0644\u0647"), (0xFE49, " \u0305"),
    (0xFE4A, " \u0305"), (0xFE4B, " \u0305"), (0xFE4C, " \u0305"), (0xFE70, " \u064b"),
    (0xFE72, " \u064c"), (0xFE74, " \u064d"), (0xFE76, " \u064e"), (0xFE78, " \u064f"),
    (0xFE7A, " \u0650"), (0xFE7C, " \u0651"), (0xFE7E, " \u0652"), (0xFFE3, " \u0304"),
    (0x1F101, "0,"), (0x1F102, "1,"), (0x1F103, "2,"), (0x1F104, "3,"), (0x1F105, "4,"),
    (0x1F106, "5,"), (0x1F107, "6,"), (0x1F108, "7,"), (0x1F109, "8,"), (0x1F10A, "9,"),
    (0x1F110, "(a)"), (0x1F111, "(b)"), (0x1F112, "(c)"), (0x1F113, "(d)"), (0x1F114, "(e)"),
    (0x1F115, "(f)"), (0x1F116, "(g)"), (0x1F117, "(h)"), (0x1F118, "(i)"), (0x1F119, "(j)"),
    (0x1F11A, "(k)"), (0x1F11B, "(l)"), (0x1F11C, "(m)"), (0x1F11D, "(n)"), (0x1F11E, "(o)"),
    (0x1F11F, "(p)"), (0x1F120, "(q)"), (0x1F121, "(r)"), (0x1F122, "(s)"), (0x1F123, "(t)"),
    (0x1F124, "(u)"), (0x1F125, "(v)"), (0x1F126, "(w)"), (0x1F127, "(x)"), (0x1F128, "(y)"),
    (0x1F129, "(z)"), (0x1F12A, "\u3014s\u3015"), (0x1F12D, "cd"), (0x1F12E, "wz"),
    (0x1F14A, "hv"), (0x1F14B, "mv"), (0x1F14C, "sd"), (0x1F14D, "ss"), (0x1F14E, "ppv"),
    (0x1F14F, "wc"), (0x1F16A, "mc"), (0x1F16B, "md"), (0x1F16C, "mr"), (0x1F190, "dj") ]

/-- Characters that stand for a row of characters. -/
def spelledOut : List (Nat × String) := spelledOut1 ++ spelledOut2

/-- The ASCII character that a character stands for. -/
def standIn? (c : Char) : Option Char :=
  (standIns.find? fun r => r.1 ≤ c.toNat && c.toNat < r.1 + r.2.2).map fun r =>
    Char.ofNat (r.2.1 + (c.toNat - r.1))

/-- The characters that a character stands for, itself if it stands for no ASCII character. -/
def spelling (c : Char) : List Char :=
  match standIn? c with
  | some d => [d]
  | none => ((spelledOut.find? (·.1 == c.toNat)).map (·.2.toList)).getD [c]

end LoadHarness.Url
