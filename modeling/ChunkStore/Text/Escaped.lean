import ChunkStore.Text.Spans
/-!
# Characters escaped in quoted text

Quoted text writes a character as `\u{…}` when it does not print by itself: a control,
a format character, a surrogate, a private-use or unassigned code point, a separator other
than the space, or a default-ignorable code point (which adds the Hangul fillers); or when it
extends the character before it (a combining mark or another grapheme extender, from U+0300
on). The table is taken from the general categories and the Grapheme_Extend and
Default_Ignorable_Code_Point properties of Unicode 17.0.
-/

namespace ChunkStore.Text

/-- An escape tag: `E` for escaped, `P` for printed as itself. -/
def escapeTag : Char → List Char → Option Bool
  | 'E', _ => some true
  | 'P', _ => some false
  | _, _ => none

/-- The characters escaped in quoted text: a start in hex, then `E` or `P`. -/
def escapedText : String :=
  " ".intercalate [
    "0E 20P 7fE a1P adE aeP 300E 370P 378E 37aP 380E 384P 38bE 38cP 38dE 38eP 3a2E 3a3P 483E 48aP",
    "530E 531P 557E 559P 58bE 58dP 590E 5beP 5bfE 5c0P 5c1E 5c3P 5c4E 5c6P 5c7E 5d0P 5ebE 5efP 5f5E",
    "606P 610E 61bP 61cE 61dP 64bE 660P 670E 671P 6d6E 6deP 6dfE 6e5P 6e7E 6e9P 6eaE 6eeP 70eE 710P",
    "711E 712P 730E 74dP 7a6E 7b1P 7b2E 7c0P 7ebE 7f4P 7fbE 7feP 816E 81aP 81bE 824P 825E 828P 829E",
    "830P 83fE 840P 859E 85eP 85fE 860P 86bE 870P 890E 8a0P 8caE 903P 93aE 93bP 93cE 93dP 941E 949P",
    "94dE 94eP 951E 958P 962E 964P 981E 982P 984E 985P 98dE 98fP 991E 993P 9a9E 9aaP 9b1E 9b2P 9b3E",
    "9b6P 9baE 9bdP 9beE 9bfP 9c1E 9c7P 9c9E 9cbP 9cdE 9ceP 9cfE 9dcP 9deE 9dfP 9e2E 9e6P 9feE a03P",
    "a04E a05P a0bE a0fP a11E a13P a29E a2aP a31E a32P a34E a35P a37E a38P a3aE a3eP a41E a59P a5dE",
    "a5eP a5fE a66P a70E a72P a75E a76P a77E a83P a84E a85P a8eE a8fP a92E a93P aa9E aaaP ab1E ab2P",
    "ab4E ab5P abaE abdP ac1E ac9P acaE acbP acdE ad0P ad1E ae0P ae2E ae6P af2E af9P afaE b02P b04E",
    "b05P b0dE b0fP b11E b13P b29E b2aP b31E b32P b34E b35P b3aE b3dP b3eE b40P b41E b47P b49E b4bP",
    "b4dE b5cP b5eE b5fP b62E b66P b78E b83P b84E b85P b8bE b8eP b91E b92P b96E b99P b9bE b9cP b9dE",
    "b9eP ba0E ba3P ba5E ba8P babE baeP bbaE bbfP bc0E bc1P bc3E bc6P bc9E bcaP bcdE bd0P bd1E be6P",
    "bfbE c01P c04E c05P c0dE c0eP c11E c12P c29E c2aP c3aE c3dP c3eE c41P c45E c58P c5bE c5cP c5eE",
    "c60P c62E c66P c70E c77P c81E c82P c8dE c8eP c91E c92P ca9E caaP cb4E cb5P cbaE cbdP cbfE cc1P",
    "cc2E cc3P cc5E cdcP cdfE ce0P ce2E ce6P cf0E cf1P cf4E d02P d0dE d0eP d11E d12P d3bE d3dP d3eE",
    "d3fP d41E d46P d49E d4aP d4dE d4eP d50E d54P d57E d58P d62E d66P d80E d82P d84E d85P d97E d9aP",
    "db2E db3P dbcE dbdP dbeE dc0P dc7E dd0P dd2E dd8P ddfE de6P df0E df2P df5E e01P e31E e32P e34E",
    "e3fP e47E e4fP e5cE e81P e83E e84P e85E e86P e8bE e8cP ea4E ea5P ea6E ea7P eb1E eb2P eb4E ebdP",
    "ebeE ec0P ec5E ec6P ec7E ed0P edaE edcP ee0E f00P f18E f1aP f35E f36P f37E f38P f39E f3aP f48E",
    "f49P f6dE f7fP f80E f85P f86E f88P f8dE fbeP fc6E fc7P fcdE fceP fdbE 1000P 102dE 1031P 1032E",
    "1038P 1039E 103bP 103dE 103fP 1058E 105aP 105eE 1061P 1071E 1075P 1082E 1083P 1085E 1087P",
    "108dE 108eP 109dE 109eP 10c6E 10c7P 10c8E 10cdP 10ceE 10d0P 115fE 1161P 1249E 124aP 124eE",
    "1250P 1257E 1258P 1259E 125aP 125eE 1260P 1289E 128aP 128eE 1290P 12b1E 12b2P 12b6E 12b8P",
    "12bfE 12c0P 12c1E 12c2P 12c6E 12c8P 12d7E 12d8P 1311E 1312P 1316E 1318P 135bE 1360P 137dE",
    "1380P 139aE 13a0P 13f6E 13f8P 13feE 1400P 1680E 1681P 169dE 16a0P 16f9E 1700P 1712E 171fP",
    "1732E 1735P 1737E 1740P 1752E 1760P 176dE 176eP 1771E 1780P 17b4E 17b6P 17b7E 17beP 17c6E",
    "17c7P 17c9E 17d4P 17ddE 17e0P 17eaE 17f0P 17faE 1800P 180bE 1810P 181aE 1820P 1879E 1880P",
    "1885E 1887P 18a9E 18aaP 18abE 18b0P 18f6E 1900P 191fE 1923P 1927E 1929P 192cE 1930P 1932E",
    "1933P 1939E 1940P 1941E 1944P 196eE 1970P 1975E 1980P 19acE 19b0P 19caE 19d0P 19dbE 19deP",
    "1a17E 1a19P 1a1bE 1a1eP 1a56E 1a57P 1a58E 1a61P 1a62E 1a63P 1a65E 1a6dP 1a73E 1a80P 1a8aE",
    "1a90P 1a9aE 1aa0P 1aaeE 1b04P 1b34E 1b3eP 1b42E 1b45P 1b4dE 1b4eP 1b6bE 1b74P 1b80E 1b82P",
    "1ba2E 1ba6P 1ba8E 1baeP 1be6E 1be7P 1be8E 1beaP 1bedE 1beeP 1befE 1bfcP 1c2cE 1c34P 1c36E",
    "1c3bP 1c4aE 1c4dP 1c8bE 1c90P 1cbbE 1cbdP 1cc8E 1cd3P 1cd4E 1ce1P 1ce2E 1ce9P 1cedE 1ceeP",
    "1cf4E 1cf5P 1cf8E 1cfaP 1cfbE 1d00P 1dc0E 1e00P 1f16E 1f18P 1f1eE 1f20P 1f46E 1f48P 1f4eE",
    "1f50P 1f58E 1f59P 1f5aE 1f5bP 1f5cE 1f5dP 1f5eE 1f5fP 1f7eE 1f80P 1fb5E 1fb6P 1fc5E 1fc6P",
    "1fd4E 1fd6P 1fdcE 1fddP 1ff0E 1ff2P 1ff5E 1ff6P 1fffE 2010P 2028E 2030P 205fE 2070P 2072E",
    "2074P 208fE 2090P 209dE 20a0P 20c2E 2100P 218cE 2190P 242aE 2440P 244bE 2460P 2b74E 2b76P",
    "2cefE 2cf2P 2cf4E 2cf9P 2d26E 2d27P 2d28E 2d2dP 2d2eE 2d30P 2d68E 2d6fP 2d71E 2d80P 2d97E",
    "2da0P 2da7E 2da8P 2dafE 2db0P 2db7E 2db8P 2dbfE 2dc0P 2dc7E 2dc8P 2dcfE 2dd0P 2dd7E 2dd8P",
    "2ddfE 2e00P 2e5eE 2e80P 2e9aE 2e9bP 2ef4E 2f00P 2fd6E 2ff0P 3000E 3001P 302aE 3030P 3040E",
    "3041P 3097E 309bP 3100E 3105P 3130E 3131P 3164E 3165P 318fE 3190P 31e6E 31efP 321fE 3220P",
    "a48dE a490P a4c7E a4d0P a62cE a640P a66fE a673P a674E a67eP a69eE a6a0P a6f0E a6f2P a6f8E",
    "a700P a7ddE a7f1P a802E a803P a806E a807P a80bE a80cP a825E a827P a82cE a830P a83aE a840P",
    "a878E a880P a8c4E a8ceP a8daE a8f2P a8ffE a900P a926E a92eP a947E a952P a953E a95fP a97dE",
    "a983P a9b3E a9b4P a9b6E a9baP a9bcE a9beP a9c0E a9c1P a9ceE a9cfP a9daE a9deP a9e5E a9e6P",
    "a9ffE aa00P aa29E aa2fP aa31E aa33P aa35E aa40P aa43E aa44P aa4cE aa4dP aa4eE aa50P aa5aE",
    "aa5cP aa7cE aa7dP aab0E aab1P aab2E aab5P aab7E aab9P aabeE aac0P aac1E aac2P aac3E aadbP",
    "aaecE aaeeP aaf6E ab01P ab07E ab09P ab0fE ab11P ab17E ab20P ab27E ab28P ab2fE ab30P ab6cE",
    "ab70P abe5E abe6P abe8E abe9P abedE abf0P abfaE ac00P d7a4E d7b0P d7c7E d7cbP d7fcE f900P",
    "fa6eE fa70P fadaE fb00P fb07E fb13P fb18E fb1dP fb1eE fb1fP fb37E fb38P fb3dE fb3eP fb3fE",
    "fb40P fb42E fb43P fb45E fb46P fdd0E fdf0P fe00E fe10P fe1aE fe30P fe53E fe54P fe67E fe68P",
    "fe6cE fe70P fe75E fe76P fefdE ff01P ff9eE ffa1P ffbfE ffc2P ffc8E ffcaP ffd0E ffd2P ffd8E",
    "ffdaP ffddE ffe0P ffe7E ffe8P ffefE fffcP fffeE 10000P 1000cE 1000dP 10027E 10028P 1003bE",
    "1003cP 1003eE 1003fP 1004eE 10050P 1005eE 10080P 100fbE 10100P 10103E 10107P 10134E 10137P",
    "1018fE 10190P 1019dE 101a0P 101a1E 101d0P 101fdE 10280P 1029dE 102a0P 102d1E 102e1P 102fcE",
    "10300P 10324E 1032dP 1034bE 10350P 10376E 10380P 1039eE 1039fP 103c4E 103c8P 103d6E 10400P",
    "1049eE 104a0P 104aaE 104b0P 104d4E 104d8P 104fcE 10500P 10528E 10530P 10564E 1056fP 1057bE",
    "1057cP 1058bE 1058cP 10593E 10594P 10596E 10597P 105a2E 105a3P 105b2E 105b3P 105baE 105bbP",
    "105bdE 105c0P 105f4E 10600P 10737E 10740P 10756E 10760P 10768E 10780P 10786E 10787P 107b1E",
    "107b2P 107bbE 10800P 10806E 10808P 10809E 1080aP 10836E 10837P 10839E 1083cP 1083dE 1083fP",
    "10856E 10857P 1089fE 108a7P 108b0E 108e0P 108f3E 108f4P 108f6E 108fbP 1091cE 1091fP 1093aE",
    "1093fP 1095aE 10980P 109b8E 109bcP 109d0E 109d2P 10a01E 10a10P 10a14E 10a15P 10a18E 10a19P",
    "10a36E 10a40P 10a49E 10a50P 10a59E 10a60P 10aa0E 10ac0P 10ae5E 10aebP 10af7E 10b00P 10b36E",
    "10b39P 10b56E 10b58P 10b73E 10b78P 10b92E 10b99P 10b9dE 10ba9P 10bb0E 10c00P 10c49E 10c80P",
    "10cb3E 10cc0P 10cf3E 10cfaP 10d24E 10d30P 10d3aE 10d40P 10d66E 10d6eP 10d86E 10d8eP 10d90E",
    "10e60P 10e7fE 10e80P 10eaaE 10eadP 10eaeE 10eb0P 10eb2E 10ec2P 10ec8E 10ed0P 10ed9E 10f00P",
    "10f28E 10f30P 10f46E 10f51P 10f5aE 10f70P 10f82E 10f86P 10f8aE 10fb0P 10fccE 10fe0P 10ff7E",
    "11000P 11001E 11002P 11038E 11047P 1104eE 11052P 11070E 11071P 11073E 11075P 11076E 11082P",
    "110b3E 110b7P 110b9E 110bbP 110bdE 110beP 110c2E 110d0P 110e9E 110f0P 110faE 11103P 11127E",
    "1112cP 1112dE 11136P 11148E 11150P 11173E 11174P 11177E 11182P 111b6E 111bfP 111c0E 111c1P",
    "111c9E 111cdP 111cfE 111d0P 111e0E 111e1P 111f5E 11200P 11212E 11213P 1122fE 11232P 11234E",
    "11238P 1123eE 1123fP 11241E 11280P 11287E 11288P 11289E 1128aP 1128eE 1128fP 1129eE 1129fP",
    "112aaE 112b0P 112dfE 112e0P 112e3E 112f0P 112faE 11302P 11304E 11305P 1130dE 1130fP 11311E",
    "11313P 11329E 1132aP 11331E 11332P 11334E 11335P 1133aE 1133dP 1133eE 1133fP 11340E 11341P",
    "11345E 11347P 11349E 1134bP 1134dE 11350P 11351E 1135dP 11364E 11380P 1138aE 1138bP 1138cE",
    "1138eP 1138fE 11390P 113b6E 113b7P 113b8E 113b9P 113bbE 113caP 113cbE 113ccP 113ceE 113d1P",
    "113d2E 113d3P 113d6E 113d7P 113d9E 11400P 11438E 11440P 11442E 11445P 11446E 11447P 1145cE",
    "1145dP 1145eE 1145fP 11462E 11480P 114b0E 114b1P 114b3E 114b9P 114baE 114bbP 114bdE 114beP",
    "114bfE 114c1P 114c2E 114c4P 114c8E 114d0P 114daE 11580P 115afE 115b0P 115b2E 115b8P 115bcE",
    "115beP 115bfE 115c1P 115dcE 11600P 11633E 1163bP 1163dE 1163eP 1163fE 11641P 11645E 11650P",
    "1165aE 11660P 1166dE 11680P 116abE 116acP 116adE 116aeP 116b0E 116b8P 116baE 116c0P 116caE",
    "116d0P 116e4E 11700P 1171bE 1171eP 1171fE 11720P 11722E 11726P 11727E 11730P 11747E 11800P",
    "1182fE 11838P 11839E 1183bP 1183cE 118a0P 118f3E 118ffP 11907E 11909P 1190aE 1190cP 11914E",
    "11915P 11917E 11918P 11930E 11931P 11936E 11937P 11939E 1193fP 11943E 11944P 11947E 11950P",
    "1195aE 119a0P 119a8E 119aaP 119d4E 119dcP 119e0E 119e1P 119e5E 11a00P 11a01E 11a0bP 11a33E",
    "11a39P 11a3bE 11a3fP 11a47E 11a50P 11a51E 11a57P 11a59E 11a5cP 11a8aE 11a97P 11a98E 11a9aP",
    "11aa3E 11ab0P 11af9E 11b00P 11b0aE 11b61P 11b62E 11b65P 11b66E 11b67P 11b68E 11bc0P 11be2E",
    "11bf0P 11bfaE 11c00P 11c09E 11c0aP 11c30E 11c3eP 11c3fE 11c40P 11c46E 11c50P 11c6dE 11c70P",
    "11c90E 11ca9P 11caaE 11cb1P 11cb2E 11cb4P 11cb5E 11d00P 11d07E 11d08P 11d0aE 11d0bP 11d31E",
    "11d46P 11d47E 11d50P 11d5aE 11d60P 11d66E 11d67P 11d69E 11d6aP 11d8fE 11d93P 11d95E 11d96P",
    "11d97E 11d98P 11d99E 11da0P 11daaE 11db0P 11ddcE 11de0P 11deaE 11ee0P 11ef3E 11ef5P 11ef9E",
    "11f02P 11f11E 11f12P 11f36E 11f3eP 11f40E 11f43P 11f5aE 11fb0P 11fb1E 11fc0P 11ff2E 11fffP",
    "1239aE 12400P 1246fE 12470P 12475E 12480P 12544E 12f90P 12ff3E 13000P 13430E 13441P 13447E",
    "13460P 143fbE 14400P 14647E 16100P 1611eE 1612aP 1612dE 16130P 1613aE 16800P 16a39E 16a40P",
    "16a5fE 16a60P 16a6aE 16a6eP 16abfE 16ac0P 16acaE 16ad0P 16aeeE 16af5P 16af6E 16b00P 16b30E",
    "16b37P 16b46E 16b50P 16b5aE 16b5bP 16b62E 16b63P 16b78E 16b7dP 16b90E 16d40P 16d7aE 16e40P",
    "16e9bE 16ea0P 16eb9E 16ebbP 16ed4E 16f00P 16f4bE 16f50P 16f88E 16f93P 16fa0E 16fe0P 16fe4E",
    "16ff2P 16ff7E 17000P 18cd6E 18cffP 18d1fE 18d80P 18df3E 1aff0P 1aff4E 1aff5P 1affcE 1affdP",
    "1afffE 1b000P 1b123E 1b132P 1b133E 1b150P 1b153E 1b155P 1b156E 1b164P 1b168E 1b170P 1b2fcE",
    "1bc00P 1bc6bE 1bc70P 1bc7dE 1bc80P 1bc89E 1bc90P 1bc9aE 1bc9cP 1bc9dE 1bc9fP 1bca0E 1cc00P",
    "1ccfdE 1cd00P 1ceb4E 1cebaP 1ced1E 1cee0P 1cef1E 1cf50P 1cfc4E 1d000P 1d0f6E 1d100P 1d127E",
    "1d129P 1d165E 1d16aP 1d16dE 1d183P 1d185E 1d18cP 1d1aaE 1d1aeP 1d1ebE 1d200P 1d242E 1d245P",
    "1d246E 1d2c0P 1d2d4E 1d2e0P 1d2f4E 1d300P 1d357E 1d360P 1d379E 1d400P 1d455E 1d456P 1d49dE",
    "1d49eP 1d4a0E 1d4a2P 1d4a3E 1d4a5P 1d4a7E 1d4a9P 1d4adE 1d4aeP 1d4baE 1d4bbP 1d4bcE 1d4bdP",
    "1d4c4E 1d4c5P 1d506E 1d507P 1d50bE 1d50dP 1d515E 1d516P 1d51dE 1d51eP 1d53aE 1d53bP 1d53fE",
    "1d540P 1d545E 1d546P 1d547E 1d54aP 1d551E 1d552P 1d6a6E 1d6a8P 1d7ccE 1d7ceP 1da00E 1da37P",
    "1da3bE 1da6dP 1da75E 1da76P 1da84E 1da85P 1da8cE 1df00P 1df1fE 1df25P 1df2bE 1e030P 1e06eE",
    "1e100P 1e12dE 1e137P 1e13eE 1e140P 1e14aE 1e14eP 1e150E 1e290P 1e2aeE 1e2c0P 1e2ecE 1e2f0P",
    "1e2faE 1e2ffP 1e300E 1e4d0P 1e4ecE 1e4f0P 1e4faE 1e5d0P 1e5eeE 1e5f0P 1e5fbE 1e5ffP 1e600E",
    "1e6c0P 1e6dfE 1e6e0P 1e6e3E 1e6e4P 1e6e6E 1e6e7P 1e6eeE 1e6f0P 1e6f5E 1e6feP 1e700E 1e7e0P",
    "1e7e7E 1e7e8P 1e7ecE 1e7edP 1e7efE 1e7f0P 1e7ffE 1e800P 1e8c5E 1e8c7P 1e8d0E 1e900P 1e944E",
    "1e94bP 1e94cE 1e950P 1e95aE 1e95eP 1e960E 1ec71P 1ecb5E 1ed01P 1ed3eE 1ee00P 1ee04E 1ee05P",
    "1ee20E 1ee21P 1ee23E 1ee24P 1ee25E 1ee27P 1ee28E 1ee29P 1ee33E 1ee34P 1ee38E 1ee39P 1ee3aE",
    "1ee3bP 1ee3cE 1ee42P 1ee43E 1ee47P 1ee48E 1ee49P 1ee4aE 1ee4bP 1ee4cE 1ee4dP 1ee50E 1ee51P",
    "1ee53E 1ee54P 1ee55E 1ee57P 1ee58E 1ee59P 1ee5aE 1ee5bP 1ee5cE 1ee5dP 1ee5eE 1ee5fP 1ee60E",
    "1ee61P 1ee63E 1ee64P 1ee65E 1ee67P 1ee6bE 1ee6cP 1ee73E 1ee74P 1ee78E 1ee79P 1ee7dE 1ee7eP",
    "1ee7fE 1ee80P 1ee8aE 1ee8bP 1ee9cE 1eea1P 1eea4E 1eea5P 1eeaaE 1eeabP 1eebcE 1eef0P 1eef2E",
    "1f000P 1f02cE 1f030P 1f094E 1f0a0P 1f0afE 1f0b1P 1f0c0E 1f0c1P 1f0d0E 1f0d1P 1f0f6E 1f100P",
    "1f1aeE 1f1e6P 1f203E 1f210P 1f23cE 1f240P 1f249E 1f250P 1f252E 1f260P 1f266E 1f300P 1f6d9E",
    "1f6dcP 1f6edE 1f6f0P 1f6fdE 1f700P 1f7daE 1f7e0P 1f7ecE 1f7f0P 1f7f1E 1f800P 1f80cE 1f810P",
    "1f848E 1f850P 1f85aE 1f860P 1f888E 1f890P 1f8aeE 1f8b0P 1f8bcE 1f8c0P 1f8c2E 1f8d0P 1f8d9E",
    "1f900P 1fa58E 1fa60P 1fa6eE 1fa70P 1fa7dE 1fa80P 1fa8bE 1fa8eP 1fac7E 1fac8P 1fac9E 1facdP",
    "1faddE 1fadfP 1faebE 1faefP 1faf9E 1fb00P 1fb93E 1fb94P 1fbfbE 20000P 2a6e0E 2a700P 2b81eE",
    "2b820P 2ceaeE 2ceb0P 2ebe1E 2ebf0P 2ee5eE 2f800P 2fa1eE 30000P 3134bE 31350P 3347aE"]

/-- The table of escaped characters. -/
def escapedTable : Array (Span Bool) := readSpans escapeTag escapedText

/-- Whether a code point is written as an escape in quoted text. -/
def escapedInQuotes (cp : Nat) : Bool := valueAt escapedTable true cp

end ChunkStore.Text
