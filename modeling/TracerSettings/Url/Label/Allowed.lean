import TracerSettings.Text.Character

namespace TracerSettings.Url.Label

/-- Runs of the allowed code points, each with its first and last one and its step. -/
def allowedRuns : List (Nat × Nat × Nat) := [
    (0xA1, 0xA7, 1), (0xA9, 0xA9, 1), (0xAB, 0xAC, 1), (0xAE, 0xAE, 1), (0xB0, 0xB1, 1),
    (0xB6, 0xB7, 1), (0xBB, 0xBB, 1), (0xBF, 0xBF, 1), (0xD7, 0xD7, 1), (0xDF, 0xFF, 1),
    (0x101, 0x131, 2), (0x135, 0x135, 1), (0x137, 0x138, 1), (0x13A, 0x13E, 2), (0x142, 0x148, 2),
    (0x14B, 0x177, 2), (0x17A, 0x180, 2), (0x183, 0x185, 2), (0x188, 0x188, 1), (0x18C, 0x18D, 1),
    (0x192, 0x192, 1), (0x195, 0x195, 1), (0x199, 0x19B, 1), (0x19E, 0x19E, 1), (0x1A1, 0x1A5, 2),
    (0x1A8, 0x1A8, 1), (0x1AA, 0x1AB, 1), (0x1AD, 0x1AD, 1), (0x1B0, 0x1B0, 1), (0x1B4, 0x1B6, 2),
    (0x1B9, 0x1BB, 1), (0x1BD, 0x1C3, 1), (0x1CE, 0x1DA, 2), (0x1DC, 0x1DD, 1), (0x1DF, 0x1ED, 2),
    (0x1EF, 0x1F0, 1), (0x1F5, 0x1F5, 1), (0x1F9, 0x231, 2), (0x233, 0x239, 1), (0x23C, 0x23C, 1),
    (0x23F, 0x240, 1), (0x242, 0x242, 1), (0x247, 0x24D, 2), (0x24F, 0x2AF, 1), (0x2B9, 0x2D7, 1),
    (0x2DE, 0x2DF, 1), (0x2E5, 0x33F, 1), (0x342, 0x342, 1), (0x346, 0x34E, 1), (0x350, 0x36F, 1),
    (0x371, 0x377, 2), (0x37B, 0x37D, 1), (0x390, 0x390, 1), (0x3AC, 0x3CE, 1), (0x3D7, 0x3EF, 2),
    (0x3F3, 0x3F3, 1), (0x3F6, 0x3F8, 2), (0x3FB, 0x3FC, 1), (0x430, 0x45F, 1), (0x461, 0x47F, 2),
    (0x481, 0x489, 1), (0x48B, 0x4BF, 2), (0x4C2, 0x4CC, 2), (0x4CE, 0x4CF, 1), (0x4D1, 0x52F, 2),
    (0x559, 0x586, 1), (0x588, 0x58A, 1), (0x58D, 0x58F, 1), (0x591, 0x5C7, 1), (0x5D0, 0x5EA, 1),
    (0x5EF, 0x5F4, 1), (0x606, 0x61B, 1), (0x61D, 0x674, 1), (0x679, 0x6DC, 1), (0x6DE, 0x70D, 1),
    (0x710, 0x74A, 1), (0x74D, 0x7B1, 1), (0x7C0, 0x7FA, 1), (0x7FD, 0x82D, 1), (0x830, 0x83E, 1),
    (0x840, 0x85B, 1), (0x85E, 0x85E, 1), (0x860, 0x86A, 1), (0x870, 0x88F, 1), (0x897, 0x8E1, 1),
    (0x8E3, 0x957, 1), (0x960, 0x983, 1), (0x985, 0x98C, 1), (0x98F, 0x990, 1), (0x993, 0x9A8, 1),
    (0x9AA, 0x9B0, 1), (0x9B2, 0x9B2, 1), (0x9B6, 0x9B9, 1), (0x9BC, 0x9C4, 1), (0x9C7, 0x9C8, 1),
    (0x9CB, 0x9CE, 1), (0x9D7, 0x9D7, 1), (0x9E0, 0x9E3, 1), (0x9E6, 0x9FE, 1), (0xA01, 0xA03, 1),
    (0xA05, 0xA0A, 1), (0xA0F, 0xA10, 1), (0xA13, 0xA28, 1), (0xA2A, 0xA30, 1), (0xA32, 0xA32, 1),
    (0xA35, 0xA35, 1), (0xA38, 0xA39, 1), (0xA3C, 0xA3C, 1), (0xA3E, 0xA42, 1), (0xA47, 0xA48, 1),
    (0xA4B, 0xA4D, 1), (0xA51, 0xA51, 1), (0xA5C, 0xA5C, 1), (0xA66, 0xA76, 1), (0xA81, 0xA83, 1),
    (0xA85, 0xA8D, 1), (0xA8F, 0xA91, 1), (0xA93, 0xAA8, 1), (0xAAA, 0xAB0, 1), (0xAB2, 0xAB3, 1),
    (0xAB5, 0xAB9, 1), (0xABC, 0xAC5, 1), (0xAC7, 0xAC9, 1), (0xACB, 0xACD, 1), (0xAD0, 0xAD0, 1),
    (0xAE0, 0xAE3, 1), (0xAE6, 0xAF1, 1), (0xAF9, 0xAFF, 1), (0xB01, 0xB03, 1), (0xB05, 0xB0C, 1),
    (0xB0F, 0xB10, 1), (0xB13, 0xB28, 1), (0xB2A, 0xB30, 1), (0xB32, 0xB33, 1), (0xB35, 0xB39, 1),
    (0xB3C, 0xB44, 1), (0xB47, 0xB48, 1), (0xB4B, 0xB4D, 1), (0xB55, 0xB57, 1), (0xB5F, 0xB63, 1),
    (0xB66, 0xB77, 1), (0xB82, 0xB83, 1), (0xB85, 0xB8A, 1), (0xB8E, 0xB90, 1), (0xB92, 0xB95, 1),
    (0xB99, 0xB9A, 1), (0xB9C, 0xB9C, 1), (0xB9E, 0xB9F, 1), (0xBA3, 0xBA4, 1), (0xBA8, 0xBAA, 1),
    (0xBAE, 0xBB9, 1), (0xBBE, 0xBC2, 1), (0xBC6, 0xBC8, 1), (0xBCA, 0xBCD, 1), (0xBD0, 0xBD0, 1),
    (0xBD7, 0xBD7, 1), (0xBE6, 0xBFA, 1), (0xC00, 0xC0C, 1), (0xC0E, 0xC10, 1), (0xC12, 0xC28, 1),
    (0xC2A, 0xC39, 1), (0xC3C, 0xC44, 1), (0xC46, 0xC48, 1), (0xC4A, 0xC4D, 1), (0xC55, 0xC56, 1),
    (0xC58, 0xC5A, 1), (0xC5C, 0xC5D, 1), (0xC60, 0xC63, 1), (0xC66, 0xC6F, 1), (0xC77, 0xC8C, 1),
    (0xC8E, 0xC90, 1), (0xC92, 0xCA8, 1), (0xCAA, 0xCB3, 1), (0xCB5, 0xCB9, 1), (0xCBC, 0xCC4, 1),
    (0xCC6, 0xCC8, 1), (0xCCA, 0xCCD, 1), (0xCD5, 0xCD6, 1), (0xCDC, 0xCDE, 1), (0xCE0, 0xCE3, 1),
    (0xCE6, 0xCEF, 1), (0xCF1, 0xCF3, 1), (0xD00, 0xD0C, 1), (0xD0E, 0xD10, 1), (0xD12, 0xD44, 1),
    (0xD46, 0xD48, 1), (0xD4A, 0xD4F, 1), (0xD54, 0xD63, 1), (0xD66, 0xD7F, 1), (0xD81, 0xD83, 1),
    (0xD85, 0xD96, 1), (0xD9A, 0xDB1, 1), (0xDB3, 0xDBB, 1), (0xDBD, 0xDBD, 1), (0xDC0, 0xDC6, 1),
    (0xDCA, 0xDCA, 1), (0xDCF, 0xDD4, 1), (0xDD6, 0xDD6, 1), (0xDD8, 0xDDF, 1), (0xDE6, 0xDEF, 1),
    (0xDF2, 0xDF4, 1), (0xE01, 0xE32, 1), (0xE34, 0xE3A, 1), (0xE3F, 0xE5B, 1), (0xE81, 0xE82, 1),
    (0xE84, 0xE84, 1), (0xE86, 0xE8A, 1), (0xE8C, 0xEA3, 1), (0xEA5, 0xEA5, 1), (0xEA7, 0xEB2, 1),
    (0xEB4, 0xEBD, 1), (0xEC0, 0xEC4, 1), (0xEC6, 0xEC6, 1), (0xEC8, 0xECE, 1), (0xED0, 0xED9, 1),
    (0xEDE, 0xEDF, 1), (0xF00, 0xF0B, 1), (0xF0D, 0xF42, 1), (0xF44, 0xF47, 1), (0xF49, 0xF4C, 1),
    (0xF4E, 0xF51, 1), (0xF53, 0xF56, 1), (0xF58, 0xF5B, 1), (0xF5D, 0xF68, 1), (0xF6A, 0xF6C, 1),
    (0xF71, 0xF72, 1), (0xF74, 0xF74, 1), (0xF7A, 0xF80, 1), (0xF82, 0xF92, 1), (0xF94, 0xF97, 1),
    (0xF99, 0xF9C, 1), (0xF9E, 0xFA1, 1), (0xFA3, 0xFA6, 1), (0xFA8, 0xFAB, 1), (0xFAD, 0xFB8, 1),
    (0xFBA, 0xFBC, 1), (0xFBE, 0xFCC, 1), (0xFCE, 0xFDA, 1), (0x1000, 0x109F, 1),
    (0x10D0, 0x10FB, 1), (0x10FD, 0x115E, 1), (0x1161, 0x1248, 1), (0x124A, 0x124D, 1),
    (0x1250, 0x1256, 1), (0x1258, 0x1258, 1), (0x125A, 0x125D, 1), (0x1260, 0x1288, 1),
    (0x128A, 0x128D, 1), (0x1290, 0x12B0, 1), (0x12B2, 0x12B5, 1), (0x12B8, 0x12BE, 1),
    (0x12C0, 0x12C0, 1), (0x12C2, 0x12C5, 1), (0x12C8, 0x12D6, 1), (0x12D8, 0x1310, 1),
    (0x1312, 0x1315, 1), (0x1318, 0x135A, 1), (0x135D, 0x137C, 1), (0x1380, 0x1399, 1),
    (0x13A0, 0x13F5, 1), (0x1400, 0x167F, 1), (0x1681, 0x169C, 1), (0x16A0, 0x16F8, 1),
    (0x1700, 0x1715, 1), (0x171F, 0x1736, 1), (0x1740, 0x1753, 1), (0x1760, 0x176C, 1),
    (0x176E, 0x1770, 1), (0x1772, 0x1773, 1), (0x1780, 0x17B3, 1), (0x17B6, 0x17DD, 1),
    (0x17E0, 0x17E9, 1), (0x17F0, 0x17F9, 1), (0x1800, 0x180A, 1), (0x1810, 0x1819, 1),
    (0x1820, 0x1878, 1), (0x1880, 0x18AA, 1), (0x18B0, 0x18F5, 1), (0x1900, 0x191E, 1),
    (0x1920, 0x192B, 1), (0x1930, 0x193B, 1), (0x1940, 0x1940, 1), (0x1944, 0x196D, 1),
    (0x1970, 0x1974, 1), (0x1980, 0x19AB, 1), (0x19B0, 0x19C9, 1), (0x19D0, 0x19DA, 1),
    (0x19DE, 0x1A1B, 1), (0x1A1E, 0x1A5E, 1), (0x1A60, 0x1A7C, 1), (0x1A7F, 0x1A89, 1),
    (0x1A90, 0x1A99, 1), (0x1AA0, 0x1AAD, 1), (0x1AB0, 0x1ADD, 1), (0x1AE0, 0x1AEB, 1),
    (0x1B00, 0x1B4C, 1), (0x1B4E, 0x1BF3, 1), (0x1BFC, 0x1C37, 1), (0x1C3B, 0x1C49, 1),
    (0x1C4D, 0x1C7F, 1), (0x1C8A, 0x1C8A, 1), (0x1CC0, 0x1CC7, 1), (0x1CD0, 0x1CFA, 1),
    (0x1D00, 0x1D2B, 1), (0x1D2F, 0x1D2F, 1), (0x1D3B, 0x1D3B, 1), (0x1D4E, 0x1D4E, 1),
    (0x1D6B, 0x1D77, 1), (0x1D79, 0x1D9A, 1), (0x1DC0, 0x1DFF, 1), (0x1E01, 0x1E93, 2),
    (0x1E95, 0x1E99, 1), (0x1E9C, 0x1E9D, 1), (0x1E9F, 0x1EFD, 2), (0x1EFF, 0x1F07, 1),
    (0x1F10, 0x1F15, 1), (0x1F20, 0x1F27, 1), (0x1F30, 0x1F37, 1), (0x1F40, 0x1F45, 1),
    (0x1F50, 0x1F57, 1), (0x1F60, 0x1F67, 1), (0x1F70, 0x1F7C, 2), (0x1FB0, 0x1FB1, 1),
    (0x1FB6, 0x1FB6, 1), (0x1FC6, 0x1FC6, 1), (0x1FD0, 0x1FD2, 1), (0x1FD6, 0x1FD7, 1),
    (0x1FE0, 0x1FE2, 1), (0x1FE4, 0x1FE7, 1), (0x1FF6, 0x1FF6, 1), (0x200C, 0x200D, 1),
    (0x2010, 0x2010, 1), (0x2012, 0x2016, 1), (0x2018, 0x2023, 1), (0x2027, 0x2027, 1),
    (0x2030, 0x2032, 1), (0x2035, 0x2035, 1), (0x2038, 0x203B, 1), (0x203D, 0x203D, 1),
    (0x203F, 0x2046, 1), (0x204A, 0x2056, 1), (0x2058, 0x205E, 1), (0x20A0, 0x20A7, 1),
    (0x20A9, 0x20C1, 1), (0x20D0, 0x20F0, 1), (0x2104, 0x2104, 1), (0x2108, 0x2108, 1),
    (0x2114, 0x2114, 1), (0x2117, 0x2118, 1), (0x211E, 0x211F, 1), (0x2123, 0x2129, 2),
    (0x212E, 0x212E, 1), (0x213A, 0x213A, 1), (0x2141, 0x2144, 1), (0x214A, 0x214F, 1),
    (0x2180, 0x2182, 1), (0x2184, 0x2188, 1), (0x218A, 0x218B, 1), (0x2190, 0x222B, 1),
    (0x222E, 0x222E, 1), (0x2231, 0x2328, 1), (0x232B, 0x2429, 1), (0x2440, 0x244A, 1),
    (0x24EB, 0x2A0B, 1), (0x2A0D, 0x2A73, 1), (0x2A77, 0x2ADB, 1), (0x2ADD, 0x2B73, 1),
    (0x2B76, 0x2BFF, 1), (0x2C30, 0x2C5F, 1), (0x2C61, 0x2C61, 1), (0x2C65, 0x2C66, 1),
    (0x2C68, 0x2C6C, 2), (0x2C71, 0x2C71, 1), (0x2C73, 0x2C74, 1), (0x2C76, 0x2C7B, 1),
    (0x2C81, 0x2CE1, 2), (0x2CE3, 0x2CEA, 1), (0x2CEC, 0x2CEC, 1), (0x2CEE, 0x2CF1, 1),
    (0x2CF3, 0x2CF3, 1), (0x2CF9, 0x2D25, 1), (0x2D27, 0x2D27, 1), (0x2D2D, 0x2D2D, 1),
    (0x2D30, 0x2D67, 1), (0x2D70, 0x2D70, 1), (0x2D7F, 0x2D96, 1), (0x2DA0, 0x2DA6, 1),
    (0x2DA8, 0x2DAE, 1), (0x2DB0, 0x2DB6, 1), (0x2DB8, 0x2DBE, 1), (0x2DC0, 0x2DC6, 1),
    (0x2DC8, 0x2DCE, 1), (0x2DD0, 0x2DD6, 1), (0x2DD8, 0x2DDE, 1), (0x2DE0, 0x2E5D, 1),
    (0x2E80, 0x2E99, 1), (0x2E9B, 0x2E9E, 1), (0x2EA0, 0x2EF2, 1), (0x3001, 0x3001, 1),
    (0x3003, 0x3035, 1), (0x3037, 0x3037, 1), (0x303B, 0x303F, 1), (0x3041, 0x3096, 1),
    (0x3099, 0x309A, 1), (0x309D, 0x309E, 1), (0x30A0, 0x30FE, 1), (0x3105, 0x312F, 1),
    (0x3190, 0x3191, 1), (0x31A0, 0x31E5, 1), (0x31F0, 0x31FF, 1), (0x3248, 0x324F, 1),
    (0x327F, 0x327F, 1), (0x3400, 0xA48C, 1), (0xA490, 0xA4C6, 1), (0xA4D0, 0xA62B, 1),
    (0xA641, 0xA66B, 2), (0xA66D, 0xA67F, 1), (0xA681, 0xA69B, 2), (0xA69E, 0xA6F7, 1),
    (0xA700, 0xA721, 1), (0xA723, 0xA72D, 2), (0xA72F, 0xA731, 1), (0xA733, 0xA76F, 2),
    (0xA771, 0xA778, 1), (0xA77A, 0xA77C, 2), (0xA77F, 0xA785, 2), (0xA787, 0xA78A, 1),
    (0xA78C, 0xA78C, 1), (0xA78E, 0xA78F, 1), (0xA791, 0xA791, 1), (0xA793, 0xA795, 1),
    (0xA797, 0xA7A9, 2), (0xA7AF, 0xA7AF, 1), (0xA7B5, 0xA7C3, 2), (0xA7C8, 0xA7CA, 2),
    (0xA7CD, 0xA7DB, 2), (0xA7F6, 0xA7F7, 1), (0xA7FA, 0xA82C, 1), (0xA830, 0xA839, 1),
    (0xA840, 0xA877, 1), (0xA880, 0xA8C5, 1), (0xA8CE, 0xA8D9, 1), (0xA8E0, 0xA953, 1),
    (0xA95F, 0xA97C, 1), (0xA980, 0xA9CD, 1), (0xA9CF, 0xA9D9, 1), (0xA9DE, 0xA9FE, 1),
    (0xAA00, 0xAA36, 1), (0xAA40, 0xAA4D, 1), (0xAA50, 0xAA59, 1), (0xAA5C, 0xAAC2, 1),
    (0xAADB, 0xAAF6, 1), (0xAB01, 0xAB06, 1), (0xAB09, 0xAB0E, 1), (0xAB11, 0xAB16, 1),
    (0xAB20, 0xAB26, 1), (0xAB28, 0xAB2E, 1), (0xAB30, 0xAB5B, 1), (0xAB60, 0xAB68, 1),
    (0xAB6A, 0xAB6B, 1), (0xABC0, 0xABED, 1), (0xABF0, 0xABF9, 1), (0xAC00, 0xD7A3, 1),
    (0xD7B0, 0xD7C6, 1), (0xD7CB, 0xD7FB, 1), (0xFA0E, 0xFA0F, 1), (0xFA11, 0xFA11, 1),
    (0xFA13, 0xFA14, 1), (0xFA1F, 0xFA21, 2), (0xFA23, 0xFA24, 1), (0xFA27, 0xFA29, 1),
    (0xFB1E, 0xFB1E, 1), (0xFBB2, 0xFBD2, 1), (0xFD3E, 0xFD4F, 1), (0xFD90, 0xFD91, 1),
    (0xFDC8, 0xFDCF, 1), (0xFDFD, 0xFDFF, 1), (0xFE20, 0xFE2F, 1), (0xFE45, 0xFE46, 1),
    (0xFE73, 0xFE73, 1), (0x10000, 0x1000B, 1), (0x1000D, 0x10026, 1), (0x10028, 0x1003A, 1),
    (0x1003C, 0x1003D, 1), (0x1003F, 0x1004D, 1), (0x10050, 0x1005D, 1), (0x10080, 0x100FA, 1),
    (0x10100, 0x10102, 1), (0x10107, 0x10133, 1), (0x10137, 0x1018E, 1), (0x10190, 0x1019C, 1),
    (0x101A0, 0x101A0, 1), (0x101D0, 0x101FD, 1), (0x10280, 0x1029C, 1), (0x102A0, 0x102D0, 1),
    (0x102E0, 0x102FB, 1), (0x10300, 0x10323, 1), (0x1032D, 0x1034A, 1), (0x10350, 0x1037A, 1),
    (0x10380, 0x1039D, 1), (0x1039F, 0x103C3, 1), (0x103C8, 0x103D5, 1), (0x10428, 0x1049D, 1),
    (0x104A0, 0x104A9, 1), (0x104D8, 0x104FB, 1), (0x10500, 0x10527, 1), (0x10530, 0x10563, 1),
    (0x1056F, 0x1056F, 1), (0x10597, 0x105A1, 1), (0x105A3, 0x105B1, 1), (0x105B3, 0x105B9, 1),
    (0x105BB, 0x105BC, 1), (0x105C0, 0x105F3, 1), (0x10600, 0x10736, 1), (0x10740, 0x10755, 1),
    (0x10760, 0x10767, 1), (0x10780, 0x10780, 1), (0x10800, 0x10805, 1), (0x10808, 0x10808, 1),
    (0x1080A, 0x10835, 1), (0x10837, 0x10838, 1), (0x1083C, 0x1083C, 1), (0x1083F, 0x10855, 1),
    (0x10857, 0x1089E, 1), (0x108A7, 0x108AF, 1), (0x108E0, 0x108F2, 1), (0x108F4, 0x108F5, 1),
    (0x108FB, 0x1091B, 1), (0x1091F, 0x10939, 1), (0x1093F, 0x10959, 1), (0x10980, 0x109B7, 1),
    (0x109BC, 0x109CF, 1), (0x109D2, 0x10A03, 1), (0x10A05, 0x10A06, 1), (0x10A0C, 0x10A13, 1),
    (0x10A15, 0x10A17, 1), (0x10A19, 0x10A35, 1), (0x10A38, 0x10A3A, 1), (0x10A3F, 0x10A48, 1),
    (0x10A50, 0x10A58, 1), (0x10A60, 0x10A9F, 1), (0x10AC0, 0x10AE6, 1), (0x10AEB, 0x10AF6, 1),
    (0x10B00, 0x10B35, 1), (0x10B39, 0x10B55, 1), (0x10B58, 0x10B72, 1), (0x10B78, 0x10B91, 1),
    (0x10B99, 0x10B9C, 1), (0x10BA9, 0x10BAF, 1), (0x10C00, 0x10C48, 1), (0x10CC0, 0x10CF2, 1),
    (0x10CFA, 0x10D27, 1), (0x10D30, 0x10D39, 1), (0x10D40, 0x10D4F, 1), (0x10D69, 0x10D85, 1),
    (0x10D8E, 0x10D8F, 1), (0x10E60, 0x10E7E, 1), (0x10E80, 0x10EA9, 1), (0x10EAB, 0x10EAD, 1),
    (0x10EB0, 0x10EB1, 1), (0x10EC2, 0x10EC7, 1), (0x10ED0, 0x10ED8, 1), (0x10EFA, 0x10F27, 1),
    (0x10F30, 0x10F59, 1), (0x10F70, 0x10F89, 1), (0x10FB0, 0x10FCB, 1), (0x10FE0, 0x10FF6, 1),
    (0x11000, 0x1104D, 1), (0x11052, 0x11075, 1), (0x1107F, 0x110BC, 1), (0x110BE, 0x110C2, 1),
    (0x110D0, 0x110E8, 1), (0x110F0, 0x110F9, 1), (0x11100, 0x11134, 1), (0x11136, 0x11147, 1),
    (0x11150, 0x11176, 1), (0x11180, 0x111DF, 1), (0x111E1, 0x111F4, 1), (0x11200, 0x11211, 1),
    (0x11213, 0x11241, 1), (0x11280, 0x11286, 1), (0x11288, 0x11288, 1), (0x1128A, 0x1128D, 1),
    (0x1128F, 0x1129D, 1), (0x1129F, 0x112A9, 1), (0x112B0, 0x112EA, 1), (0x112F0, 0x112F9, 1),
    (0x11300, 0x11303, 1), (0x11305, 0x1130C, 1), (0x1130F, 0x11310, 1), (0x11313, 0x11328, 1),
    (0x1132A, 0x11330, 1), (0x11332, 0x11333, 1), (0x11335, 0x11339, 1), (0x1133B, 0x11344, 1),
    (0x11347, 0x11348, 1), (0x1134B, 0x1134D, 1), (0x11350, 0x11350, 1), (0x11357, 0x11357, 1),
    (0x1135D, 0x11363, 1), (0x11366, 0x1136C, 1), (0x11370, 0x11374, 1), (0x11380, 0x11389, 1),
    (0x1138B, 0x1138B, 1), (0x1138E, 0x1138E, 1), (0x11390, 0x113B5, 1), (0x113B7, 0x113C0, 1),
    (0x113C2, 0x113C2, 1), (0x113C5, 0x113C5, 1), (0x113C7, 0x113CA, 1), (0x113CC, 0x113D5, 1),
    (0x113D7, 0x113D8, 1), (0x113E1, 0x113E2, 1), (0x11400, 0x1145B, 1), (0x1145D, 0x11461, 1),
    (0x11480, 0x114C7, 1), (0x114D0, 0x114D9, 1), (0x11580, 0x115B5, 1), (0x115B8, 0x115DD, 1),
    (0x11600, 0x11644, 1), (0x11650, 0x11659, 1), (0x11660, 0x1166C, 1), (0x11680, 0x116B9, 1),
    (0x116C0, 0x116C9, 1), (0x116D0, 0x116E3, 1), (0x11700, 0x1171A, 1), (0x1171D, 0x1172B, 1),
    (0x11730, 0x11746, 1), (0x11800, 0x1183B, 1), (0x118C0, 0x118F2, 1), (0x118FF, 0x11906, 1),
    (0x11909, 0x11909, 1), (0x1190C, 0x11913, 1), (0x11915, 0x11916, 1), (0x11918, 0x11935, 1),
    (0x11937, 0x11938, 1), (0x1193B, 0x11946, 1), (0x11950, 0x11959, 1), (0x119A0, 0x119A7, 1),
    (0x119AA, 0x119D7, 1), (0x119DA, 0x119E4, 1), (0x11A00, 0x11A47, 1), (0x11A50, 0x11AA2, 1),
    (0x11AB0, 0x11AF8, 1), (0x11B00, 0x11B09, 1), (0x11B60, 0x11B67, 1), (0x11BC0, 0x11BE1, 1),
    (0x11BF0, 0x11BF9, 1), (0x11C00, 0x11C08, 1), (0x11C0A, 0x11C36, 1), (0x11C38, 0x11C45, 1),
    (0x11C50, 0x11C6C, 1), (0x11C70, 0x11C8F, 1), (0x11C92, 0x11CA7, 1), (0x11CA9, 0x11CB6, 1),
    (0x11D00, 0x11D06, 1), (0x11D08, 0x11D09, 1), (0x11D0B, 0x11D36, 1), (0x11D3A, 0x11D3A, 1),
    (0x11D3C, 0x11D3D, 1), (0x11D3F, 0x11D47, 1), (0x11D50, 0x11D59, 1), (0x11D60, 0x11D65, 1),
    (0x11D67, 0x11D68, 1), (0x11D6A, 0x11D8E, 1), (0x11D90, 0x11D91, 1), (0x11D93, 0x11D98, 1),
    (0x11DA0, 0x11DA9, 1), (0x11DB0, 0x11DDB, 1), (0x11DE0, 0x11DE9, 1), (0x11EE0, 0x11EF8, 1),
    (0x11F00, 0x11F10, 1), (0x11F12, 0x11F3A, 1), (0x11F3E, 0x11F5A, 1), (0x11FB0, 0x11FB0, 1),
    (0x11FC0, 0x11FF1, 1), (0x11FFF, 0x12399, 1), (0x12400, 0x1246E, 1), (0x12470, 0x12474, 1),
    (0x12480, 0x12543, 1), (0x12F90, 0x12FF2, 1), (0x13000, 0x1342F, 1), (0x13440, 0x13455, 1),
    (0x13460, 0x143FA, 1), (0x14400, 0x14646, 1), (0x16100, 0x16139, 1), (0x16800, 0x16A38, 1),
    (0x16A40, 0x16A5E, 1), (0x16A60, 0x16A69, 1), (0x16A6E, 0x16ABE, 1), (0x16AC0, 0x16AC9, 1),
    (0x16AD0, 0x16AED, 1), (0x16AF0, 0x16AF5, 1), (0x16B00, 0x16B45, 1), (0x16B50, 0x16B59, 1),
    (0x16B5B, 0x16B61, 1), (0x16B63, 0x16B77, 1), (0x16B7D, 0x16B8F, 1), (0x16D40, 0x16D79, 1),
    (0x16E60, 0x16E9A, 1), (0x16EBB, 0x16ED3, 1), (0x16F00, 0x16F4A, 1), (0x16F4F, 0x16F87, 1),
    (0x16F8F, 0x16F9F, 1), (0x16FE0, 0x16FE4, 1), (0x16FF0, 0x16FF6, 1), (0x17000, 0x18CD5, 1),
    (0x18CFF, 0x18D1E, 1), (0x18D80, 0x18DF2, 1), (0x1AFF0, 0x1AFF3, 1), (0x1AFF5, 0x1AFFB, 1),
    (0x1AFFD, 0x1AFFE, 1), (0x1B000, 0x1B122, 1), (0x1B132, 0x1B132, 1), (0x1B150, 0x1B152, 1),
    (0x1B155, 0x1B155, 1), (0x1B164, 0x1B167, 1), (0x1B170, 0x1B2FB, 1), (0x1BC00, 0x1BC6A, 1),
    (0x1BC70, 0x1BC7C, 1), (0x1BC80, 0x1BC88, 1), (0x1BC90, 0x1BC99, 1), (0x1BC9C, 0x1BC9F, 1),
    (0x1CC00, 0x1CCD5, 1), (0x1CCFA, 0x1CCFC, 1), (0x1CD00, 0x1CEB3, 1), (0x1CEBA, 0x1CED0, 1),
    (0x1CEE0, 0x1CEF0, 1), (0x1CF00, 0x1CF2D, 1), (0x1CF30, 0x1CF46, 1), (0x1CF50, 0x1CFC3, 1),
    (0x1D000, 0x1D0F5, 1), (0x1D100, 0x1D126, 1), (0x1D129, 0x1D15D, 1), (0x1D165, 0x1D172, 1),
    (0x1D17B, 0x1D1BA, 1), (0x1D1C1, 0x1D1EA, 1), (0x1D200, 0x1D245, 1), (0x1D2C0, 0x1D2D3, 1),
    (0x1D2E0, 0x1D2F3, 1), (0x1D300, 0x1D356, 1), (0x1D360, 0x1D378, 1), (0x1D800, 0x1DA8B, 1),
    (0x1DA9B, 0x1DA9F, 1), (0x1DAA1, 0x1DAAF, 1), (0x1DF00, 0x1DF1E, 1), (0x1DF25, 0x1DF2A, 1),
    (0x1E000, 0x1E006, 1), (0x1E008, 0x1E018, 1), (0x1E01B, 0x1E021, 1), (0x1E023, 0x1E024, 1),
    (0x1E026, 0x1E02A, 1), (0x1E08F, 0x1E08F, 1), (0x1E100, 0x1E12C, 1), (0x1E130, 0x1E13D, 1),
    (0x1E140, 0x1E149, 1), (0x1E14E, 0x1E14F, 1), (0x1E290, 0x1E2AE, 1), (0x1E2C0, 0x1E2F9, 1),
    (0x1E2FF, 0x1E2FF, 1), (0x1E4D0, 0x1E4F9, 1), (0x1E5D0, 0x1E5FA, 1), (0x1E5FF, 0x1E5FF, 1),
    (0x1E6C0, 0x1E6DE, 1), (0x1E6E0, 0x1E6F5, 1), (0x1E6FE, 0x1E6FF, 1), (0x1E7E0, 0x1E7E6, 1),
    (0x1E7E8, 0x1E7EB, 1), (0x1E7ED, 0x1E7EE, 1), (0x1E7F0, 0x1E7FE, 1), (0x1E800, 0x1E8C4, 1),
    (0x1E8C7, 0x1E8D6, 1), (0x1E922, 0x1E94B, 1), (0x1E950, 0x1E959, 1), (0x1E95E, 0x1E95F, 1),
    (0x1EC71, 0x1ECB4, 1), (0x1ED01, 0x1ED3D, 1), (0x1EEF0, 0x1EEF1, 1), (0x1F000, 0x1F02B, 1),
    (0x1F030, 0x1F093, 1), (0x1F0A0, 0x1F0AE, 1), (0x1F0B1, 0x1F0BF, 1), (0x1F0C1, 0x1F0CF, 1),
    (0x1F0D1, 0x1F0F5, 1), (0x1F10B, 0x1F10F, 1), (0x1F12F, 0x1F12F, 1), (0x1F150, 0x1F169, 1),
    (0x1F16D, 0x1F18F, 1), (0x1F191, 0x1F1AD, 1), (0x1F1E6, 0x1F1FF, 1), (0x1F260, 0x1F265, 1),
    (0x1F300, 0x1F6D8, 1), (0x1F6DC, 0x1F6EC, 1), (0x1F6F0, 0x1F6FC, 1), (0x1F700, 0x1F7D9, 1),
    (0x1F7E0, 0x1F7EB, 1), (0x1F7F0, 0x1F7F0, 1), (0x1F800, 0x1F80B, 1), (0x1F810, 0x1F847, 1),
    (0x1F850, 0x1F859, 1), (0x1F860, 0x1F887, 1), (0x1F890, 0x1F8AD, 1), (0x1F8B0, 0x1F8BB, 1),
    (0x1F8C0, 0x1F8C1, 1), (0x1F8D0, 0x1F8D8, 1), (0x1F900, 0x1FA57, 1), (0x1FA60, 0x1FA6D, 1),
    (0x1FA70, 0x1FA7C, 1), (0x1FA80, 0x1FA8A, 1), (0x1FA8E, 0x1FAC6, 1), (0x1FAC8, 0x1FAC8, 1),
    (0x1FACD, 0x1FADC, 1), (0x1FADF, 0x1FAEA, 1), (0x1FAEF, 0x1FAF8, 1), (0x1FB00, 0x1FB92, 1),
    (0x1FB94, 0x1FBEF, 1), (0x1FBFA, 0x1FBFA, 1), (0x20000, 0x2A6DF, 1), (0x2A700, 0x2B81D, 1),
    (0x2B820, 0x2CEAD, 1), (0x2CEB0, 0x2EBE0, 1), (0x2EBF0, 0x2EE5D, 1), (0x30000, 0x3134A, 1),
    (0x31350, 0x33479, 1)]

/-- The characters of ASCII are a matter of the host, not of the label. -/
def isAllowed (c : Char) : Bool := c.toNat < 0x80 || Text.inRuns allowedRuns c

end TracerSettings.Url.Label
