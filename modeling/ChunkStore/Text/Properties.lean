import ChunkStore.Text.Spans
/-!
# Character properties for domain names

The Unicode properties that decide whether a label of a domain name is well formed: the bidi
class (for the bidi rule of RFC 5893), the joining type (for the zero-width joiner rules of
RFC 5892), the canonical combining class (for the virama rule and for normalization), and
whether a character is a combining mark (no label may start with one). The tables are those of
Unicode 17.0; code points past a table's last span take that span's value, which for each
table here is the property's default.
-/

namespace ChunkStore.Text

/-- The bidi classes that the bidi rule tells apart; every other class is `other`. -/
inductive BidiClass where
  /-- Left-to-right. -/
  | l
  /-- Right-to-left. -/
  | r
  /-- Right-to-left Arabic. -/
  | al
  /-- Arabic number. -/
  | an
  /-- European number. -/
  | en
  /-- European number separator. -/
  | es
  /-- Common number separator. -/
  | cs
  /-- European number terminator. -/
  | et
  /-- Other neutral. -/
  | on
  /-- Boundary neutral. -/
  | bn
  /-- Nonspacing mark. -/
  | nsm
  /-- Separators, whitespace and explicit embeddings. -/
  | other
  deriving Repr, DecidableEq, BEq

/-- The class a table tag stands for. -/
def bidiTag : Char → List Char → Option BidiClass
  | 'L', _ => some .l
  | 'R', _ => some .r
  | 'A', _ => some .al
  | 'N', _ => some .an
  | 'E', _ => some .en
  | 'S', _ => some .es
  | 'C', _ => some .cs
  | 'T', _ => some .et
  | 'O', _ => some .on
  | 'B', _ => some .bn
  | 'M', _ => some .nsm
  | 'X', _ => some .other
  | _, _ => none

/-- Bidi classes: a start in hex, then `L`, `R`, `A` (AL), `N` (AN), `E` (EN), `S` (ES),
`C` (CS), `T` (ET), `O` (ON), `B` (BN), `M` (NSM) or `X` (other). -/
def bidiText : String :=
  " ".intercalate [
    "0B 9X eB 1cX 21O 23T 26O 2bS 2cC 2dS 2eC 30E 3aC 3bO 41L 5bO 61L 7bO 7fB 85X 86B a0C a1O a2T",
    "a6O aaL abO adB aeO b0T b2E b4O b5L b6O b9E baL bbO c0L d7O d8L f7O f8L 2b9O 2bbL 2c2O 2d0L",
    "2d2O 2e0L 2e5O 2eeL 2efO 300M 370L 374O 376L 37eO 37fL 384O 386L 387O 388L 3f6O 3f7L 483M 48aL",
    "58aO 58bL 58dO 58fT 590R 591M 5beR 5bfM 5c0R 5c1M 5c3R 5c4M 5c6R 5c7M 5c8R 600N 606O 608A 609T",
    "60bA 60cC 60dA 60eO 610M 61bA 64bM 660N 66aT 66bN 66dA 670M 671A 6d6M 6ddN 6deO 6dfM 6e5A 6e7M",
    "6e9O 6eaM 6eeA 6f0E 6faA 711M 712A 730M 74bA 7a6M 7b1A 7c0R 7ebM 7f4R 7f6O 7faR 7fdM 7feR 816M",
    "81aR 81bM 824R 825M 828R 829M 82eR 859M 85cR 860A 890N 892A 897M 8a0A 8caM 8e2N 8e3M 903L 93aM",
    "93bL 93cM 93dL 941M 949L 94dM 94eL 951M 958L 962M 964L 981M 982L 9bcM 9bdL 9c1M 9c5L 9cdM 9ceL",
    "9e2M 9e4L 9f2T 9f4L 9fbT 9fcL 9feM 9ffL a01M a03L a3cM a3dL a41M a43L a47M a49L a4bM a4eL a51M",
    "a52L a70M a72L a75M a76L a81M a83L abcM abdL ac1M ac6L ac7M ac9L acdM aceL ae2M ae4L af1T af2L",
    "afaM b00L b01M b02L b3cM b3dL b3fM b40L b41M b45L b4dM b4eL b55M b57L b62M b64L b82M b83L bc0M",
    "bc1L bcdM bceL bf3O bf9T bfaO bfbL c00M c01L c04M c05L c3cM c3dL c3eM c41L c46M c49L c4aM c4eL",
    "c55M c57L c62M c64L c78O c7fL c81M c82L cbcM cbdL cccM cceL ce2M ce4L d00M d02L d3bM d3dL d41M",
    "d45L d4dM d4eL d62M d64L d81M d82L dcaM dcbL dd2M dd5L dd6M dd7L e31M e32L e34M e3bL e3fT e40L",
    "e47M e4fL eb1M eb2L eb4M ebdL ec8M ecfL f18M f1aL f35M f36L f37M f38L f39M f3aO f3eL f71M f7fL",
    "f80M f85L f86M f88L f8dM f98L f99M fbdL fc6M fc7L 102dM 1031L 1032M 1038L 1039M 103bL 103dM",
    "103fL 1058M 105aL 105eM 1061L 1071M 1075L 1082M 1083L 1085M 1087L 108dM 108eL 109dM 109eL",
    "135dM 1360L 1390O 139aL 1400O 1401L 1680X 1681L 169bO 169dL 1712M 1715L 1732M 1734L 1752M",
    "1754L 1772M 1774L 17b4M 17b6L 17b7M 17beL 17c6M 17c7L 17c9M 17d4L 17dbT 17dcL 17ddM 17deL",
    "17f0O 17faL 1800O 180bM 180eB 180fM 1810L 1885M 1887L 18a9M 18aaL 1920M 1923L 1927M 1929L",
    "1932M 1933L 1939M 193cL 1940O 1941L 1944O 1946L 19deO 1a00L 1a17M 1a19L 1a1bM 1a1cL 1a56M",
    "1a57L 1a58M 1a5fL 1a60M 1a61L 1a62M 1a63L 1a65M 1a6dL 1a73M 1a7dL 1a7fM 1a80L 1ab0M 1adeL",
    "1ae0M 1aecL 1b00M 1b04L 1b34M 1b35L 1b36M 1b3bL 1b3cM 1b3dL 1b42M 1b43L 1b6bM 1b74L 1b80M",
    "1b82L 1ba2M 1ba6L 1ba8M 1baaL 1babM 1baeL 1be6M 1be7L 1be8M 1beaL 1bedM 1beeL 1befM 1bf2L",
    "1c2cM 1c34L 1c36M 1c38L 1cd0M 1cd3L 1cd4M 1ce1L 1ce2M 1ce9L 1cedM 1ceeL 1cf4M 1cf5L 1cf8M",
    "1cfaL 1dc0M 1e00L 1fbdO 1fbeL 1fbfO 1fc2L 1fcdO 1fd0L 1fddO 1fe0L 1fedO 1ff0L 1ffdO 1fffL",
    "2000X 200bB 200eL 200fR 2010O 2028X 202fC 2030T 2035O 2044C 2045O 205fX 2060B 2066X 206aB",
    "2070E 2071L 2074E 207aS 207cO 207fL 2080E 208aS 208cO 208fL 20a0T 20d0M 20f1L 2100O 2102L",
    "2103O 2107L 2108O 210aL 2114O 2115L 2116O 2119L 211eO 2124L 2125O 2126L 2127O 2128L 2129O",
    "212aL 212eT 212fL 213aO 213cL 2140O 2145L 214aO 214eL 2150O 2160L 2189O 218cL 2190O 2212S",
    "2213T 2214O 2336L 237bO 2395L 2396O 242aL 2440O 244bL 2460O 2488E 249cL 24eaO 26acL 26adO",
    "2800L 2900O 2b74L 2b76O 2c00L 2ce5O 2cebL 2cefM 2cf2L 2cf9O 2d00L 2d7fM 2d80L 2de0M 2e00O",
    "2e5eL 2e80O 2e9aL 2e9bO 2ef4L 2f00O 2fd6L 2ff0O 3000X 3001O 3005L 3008O 3021L 302aM 302eL",
    "3030O 3031L 3036O 3038L 303dO 3040L 3099M 309bO 309dL 30a0O 30a1L 30fbO 30fcL 31c0O 31e6L",
    "31efO 31f0L 321dO 321fL 3250O 3260L 327cO 327fL 32b1O 32c0L 32ccO 32d0L 3377O 337bL 33deO",
    "33e0L 33ffO 3400L 4dc0O 4e00L a490O a4c7L a60dO a610L a66fM a673O a674M a67eO a680L a69eM",
    "a6a0L a6f0M a6f2L a700O a722L a788O a789L a802M a803L a806M a807L a80bM a80cL a825M a827L",
    "a828O a82cM a82dL a838T a83aL a874O a878L a8c4M a8c6L a8e0M a8f2L a8ffM a900L a926M a92eL",
    "a947M a952L a980M a983L a9b3M a9b4L a9b6M a9baL a9bcM a9beL a9e5M a9e6L aa29M aa2fL aa31M",
    "aa33L aa35M aa37L aa43M aa44L aa4cM aa4dL aa7cM aa7dL aab0M aab1L aab2M aab5L aab7M aab9L",
    "aabeM aac0L aac1M aac2L aaecM aaeeL aaf6M aaf7L ab6aO ab6cL abe5M abe6L abe8M abe9L abedM",
    "abeeL fb1dR fb1eM fb1fR fb29S fb2aR fb50A fd3eO fd50A fdcfO fdd0B fdf0A fdfdO fe00M fe10O",
    "fe1aL fe20M fe30O fe50C fe51O fe52C fe53L fe54O fe55C fe56O fe5fT fe60O fe62S fe64O fe67L",
    "fe68O fe69T fe6bO fe6cL fe70A feffB ff00L ff01O ff03T ff06O ff0bS ff0cC ff0dS ff0eC ff10E",
    "ff1aC ff1bO ff21L ff3bO ff41L ff5bO ff66L ffe0T ffe2O ffe5T ffe7L ffe8O ffefL fff0B fff9O",
    "fffeB 10000L 10101O 10102L 10140O 1018dL 10190O 1019dL 101a0O 101a1L 101fdM 101feL 102e0M",
    "102e1E 102fcL 10376M 1037bL 10800R 1091fO 10920R 10a01M 10a04R 10a05M 10a07R 10a0cM 10a10R",
    "10a38M 10a3bR 10a3fM 10a40R 10ae5M 10ae7R 10b39O 10b40R 10d00A 10d24M 10d28A 10d30N 10d3aA",
    "10d40R 10d69M 10d6eR 10e60N 10e7fR 10eabM 10eadR 10ec0A 10efaM 10f00R 10f30A 10f46M 10f51A",
    "10f70R 10f82M 10f86R 11000L 11001M 11002L 11038M 11047L 11052O 11066L 11070M 11071L 11073M",
    "11075L 1107fM 11082L 110b3M 110b7L 110b9M 110bbL 110c2M 110c3L 11100M 11103L 11127M 1112cL",
    "1112dM 11135L 11173M 11174L 11180M 11182L 111b6M 111bfL 111c9M 111cdL 111cfM 111d0L 1122fM",
    "11232L 11234M 11235L 11236M 11238L 1123eM 1123fL 11241M 11242L 112dfM 112e0L 112e3M 112ebL",
    "11300M 11302L 1133bM 1133dL 11340M 11341L 11366M 1136dL 11370M 11375L 113bbM 113c1L 113ceM",
    "113cfL 113d0M 113d1L 113d2M 113d3L 113e1M 113e3L 11438M 11440L 11442M 11445L 11446M 11447L",
    "1145eM 1145fL 114b3M 114b9L 114baM 114bbL 114bfM 114c1L 114c2M 114c4L 115b2M 115b6L 115bcM",
    "115beL 115bfM 115c1L 115dcM 115deL 11633M 1163bL 1163dM 1163eL 1163fM 11641L 11660O 1166dL",
    "116abM 116acL 116adM 116aeL 116b0M 116b6L 116b7M 116b8L 1171dM 11720L 11722M 11726L 11727M",
    "1172cL 1182fM 11838L 11839M 1183bL 1193bM 1193dL 1193eM 1193fL 11943M 11944L 119d4M 119d8L",
    "119daM 119dcL 119e0M 119e1L 11a01M 11a07L 11a09M 11a0bL 11a33M 11a39L 11a3bM 11a3fL 11a47M",
    "11a48L 11a51M 11a57L 11a59M 11a5cL 11a8aM 11a97L 11a98M 11a9aL 11b60M 11b61L 11b62M 11b65L",
    "11b66M 11b67L 11c30M 11c37L 11c38M 11c3eL 11c92M 11ca8L 11caaM 11cb1L 11cb2M 11cb4L 11cb5M",
    "11cb7L 11d31M 11d37L 11d3aM 11d3bL 11d3cM 11d3eL 11d3fM 11d46L 11d47M 11d48L 11d90M 11d92L",
    "11d95M 11d96L 11d97M 11d98L 11ef3M 11ef5L 11f00M 11f02L 11f36M 11f3bL 11f40M 11f41L 11f42M",
    "11f43L 11f5aM 11f5bL 11fd5O 11fddT 11fe1O 11ff2L 13440M 13441L 13447M 13456L 1611eM 1612aL",
    "1612dM 16130L 16af0M 16af5L 16b30M 16b37L 16f4fM 16f50L 16f8fM 16f93L 16fe2O 16fe3L 16fe4M",
    "16fe5L 1bc9dM 1bc9fL 1bca0B 1bca4L 1cc00O 1ccf0L 1ccfaO 1ccfdL 1cd00O 1ceb4L 1cebaO 1ced1L",
    "1cee0O 1cef1L 1cf00M 1cf2eL 1cf30M 1cf47L 1d167M 1d16aL 1d173B 1d17bM 1d183L 1d185M 1d18cL",
    "1d1aaM 1d1aeL 1d1e9O 1d1ebL 1d200O 1d242M 1d245O 1d246L 1d300O 1d357L 1d6dbO 1d6dcL 1d715O",
    "1d716L 1d74fO 1d750L 1d789O 1d78aL 1d7c3O 1d7c4L 1d7ceE 1d800L 1da00M 1da37L 1da3bM 1da6dL",
    "1da75M 1da76L 1da84M 1da85L 1da9bM 1daa0L 1daa1M 1dab0L 1e000M 1e007L 1e008M 1e019L 1e01bM",
    "1e022L 1e023M 1e025L 1e026M 1e02bL 1e08fM 1e090L 1e130M 1e137L 1e2aeM 1e2afL 1e2ecM 1e2f0L",
    "1e2ffT 1e300L 1e4ecM 1e4f0L 1e5eeM 1e5f0L 1e6e3M 1e6e4L 1e6e6M 1e6e7L 1e6eeM 1e6f0L 1e6f5M",
    "1e6f6L 1e800R 1e8d0M 1e8d7R 1e944M 1e94bR 1ec70A 1ecc0R 1ed00A 1ed50R 1ee00A 1eef0O 1eef2A",
    "1ef00R 1f000O 1f02cL 1f030O 1f094L 1f0a0O 1f0afL 1f0b1O 1f0c0L 1f0c1O 1f0d0L 1f0d1O 1f0f6L",
    "1f100E 1f10bO 1f110L 1f12fO 1f130L 1f16aO 1f170L 1f1adO 1f1aeL 1f260O 1f266L 1f300O 1f6d9L",
    "1f6dcO 1f6edL 1f6f0O 1f6fdL 1f700O 1f7daL 1f7e0O 1f7ecL 1f7f0O 1f7f1L 1f800O 1f80cL 1f810O",
    "1f848L 1f850O 1f85aL 1f860O 1f888L 1f890O 1f8aeL 1f8b0O 1f8bcL 1f8c0O 1f8c2L 1f8d0O 1f8d9L",
    "1f900O 1fa58L 1fa60O 1fa6eL 1fa70O 1fa7dL 1fa80O 1fa8bL 1fa8eO 1fac7L 1fac8O 1fac9L 1facdO",
    "1faddL 1fadfO 1faebL 1faefO 1faf9L 1fb00O 1fb93L 1fb94O 1fbf0E 1fbfaO 1fbfbL 1fffeB 20000L",
    "2fffeB 30000L 3fffeB 40000L 4fffeB 50000L 5fffeB 60000L 6fffeB 70000L 7fffeB 80000L 8fffeB",
    "90000L 9fffeB a0000L afffeB b0000L bfffeB c0000L cfffeB d0000L dfffeB e0100M e01f0B e1000L",
    "efffeB f0000L ffffeB 100000L 10fffeB"]

/-- The bidi class table. -/
def bidiTable : Array (Span BidiClass) := readSpans bidiTag bidiText

/-- The bidi class of a code point. -/
def bidiClass (cp : Nat) : BidiClass := valueAt bidiTable .l cp

/-- How a character joins its neighbours in cursive scripts. -/
inductive JoiningType where
  /-- Joins on both sides. -/
  | dual
  /-- Joins on its right side only. -/
  | right
  /-- Joins on its left side only. -/
  | left
  /-- Invisible to joining: its neighbours join past it. -/
  | transparent
  /-- Causes joining without joining itself. -/
  | causing
  /-- Does not join. -/
  | nonJoining
  deriving Repr, DecidableEq, BEq

/-- The joining type a table tag stands for. -/
def joiningTag : Char → List Char → Option JoiningType
  | 'D', _ => some .dual
  | 'R', _ => some .right
  | 'L', _ => some .left
  | 'T', _ => some .transparent
  | 'C', _ => some .causing
  | 'U', _ => some .nonJoining
  | _, _ => none

/-- Joining types: a start in hex, then `D`, `R`, `L`, `T`, `C` or `U` (non-joining). -/
def joiningText : String :=
  " ".intercalate [
    "0U adT aeU 300T 370U 483T 48aU 591T 5beU 5bfT 5c0U 5c1T 5c3U 5c4T 5c6U 5c7T 5c8U 610T 61bU",
    "61cT 61dU 620D 621U 622R 626D 627R 628D 629R 62aD 62fR 633D 640C 641D 648R 649D 64bT 660U 66eD",
    "670T 671R 674U 675R 678D 688R 69aD 6c0R 6c1D 6c3R 6ccD 6cdR 6ceD 6cfR 6d0D 6d2R 6d4U 6d5R 6d6T",
    "6ddU 6dfT 6e5U 6e7T 6e9U 6eaT 6eeR 6f0U 6faD 6fdU 6ffD 700U 70fT 710R 711T 712D 715R 71aD 71eR",
    "71fD 728R 729D 72aR 72bD 72cR 72dD 72fR 730T 74bU 74dR 74eD 759R 75cD 76bR 76dD 771R 772D 773R",
    "775D 778R 77aD 780U 7a6T 7b1U 7caD 7ebT 7f4U 7faC 7fbU 7fdT 7feU 816T 81aU 81bT 824U 825T 828U",
    "829T 82eU 840R 841D 846R 848D 849R 84aD 854R 855D 856R 859T 85cU 860D 861U 862D 866U 867R 868D",
    "869R 86bU 870R 883C 886D 887U 889D 88eR 88fD 890U 897T 8a0D 8aaR 8adU 8aeR 8afD 8b1R 8b3D 8b9R",
    "8baD 8c9U 8caT 8e2U 8e3T 903U 93aT 93bU 93cT 93dU 941T 949U 94dT 94eU 951T 958U 962T 964U 981T",
    "982U 9bcT 9bdU 9c1T 9c5U 9cdT 9ceU 9e2T 9e4U 9feT 9ffU a01T a03U a3cT a3dU a41T a43U a47T a49U",
    "a4bT a4eU a51T a52U a70T a72U a75T a76U a81T a83U abcT abdU ac1T ac6U ac7T ac9U acdT aceU ae2T",
    "ae4U afaT b00U b01T b02U b3cT b3dU b3fT b40U b41T b45U b4dT b4eU b55T b57U b62T b64U b82T b83U",
    "bc0T bc1U bcdT bceU c00T c01U c04T c05U c3cT c3dU c3eT c41U c46T c49U c4aT c4eU c55T c57U c62T",
    "c64U c81T c82U cbcT cbdU cbfT cc0U cc6T cc7U cccT cceU ce2T ce4U d00T d02U d3bT d3dU d41T d45U",
    "d4dT d4eU d62T d64U d81T d82U dcaT dcbU dd2T dd5U dd6T dd7U e31T e32U e34T e3bU e47T e4fU eb1T",
    "eb2U eb4T ebdU ec8T ecfU f18T f1aU f35T f36U f37T f38U f39T f3aU f71T f7fU f80T f85U f86T f88U",
    "f8dT f98U f99T fbdU fc6T fc7U 102dT 1031U 1032T 1038U 1039T 103bU 103dT 103fU 1058T 105aU",
    "105eT 1061U 1071T 1075U 1082T 1083U 1085T 1087U 108dT 108eU 109dT 109eU 135dT 1360U 1712T",
    "1715U 1732T 1734U 1752T 1754U 1772T 1774U 17b4T 17b6U 17b7T 17beU 17c6T 17c7U 17c9T 17d4U",
    "17ddT 17deU 1807D 1808U 180aC 180bT 180eU 180fT 1810U 1820D 1879U 1885T 1887D 18a9T 18aaD",
    "18abU 1920T 1923U 1927T 1929U 1932T 1933U 1939T 193cU 1a17T 1a19U 1a1bT 1a1cU 1a56T 1a57U",
    "1a58T 1a5fU 1a60T 1a61U 1a62T 1a63U 1a65T 1a6dU 1a73T 1a7dU 1a7fT 1a80U 1ab0T 1adeU 1ae0T",
    "1aecU 1b00T 1b04U 1b34T 1b35U 1b36T 1b3bU 1b3cT 1b3dU 1b42T 1b43U 1b6bT 1b74U 1b80T 1b82U",
    "1ba2T 1ba6U 1ba8T 1baaU 1babT 1baeU 1be6T 1be7U 1be8T 1beaU 1bedT 1beeU 1befT 1bf2U 1c2cT",
    "1c34U 1c36T 1c38U 1cd0T 1cd3U 1cd4T 1ce1U 1ce2T 1ce9U 1cedT 1ceeU 1cf4T 1cf5U 1cf8T 1cfaU",
    "1dc0T 1e00U 200bT 200cU 200dC 200eT 2010U 202aT 202fU 2060T 2065U 206aT 2070U 20d0T 20f1U",
    "2cefT 2cf2U 2d7fT 2d80U 2de0T 2e00U 302aT 302eU 3099T 309bU a66fT a673U a674T a67eU a69eT",
    "a6a0U a6f0T a6f2U a802T a803U a806T a807U a80bT a80cU a825T a827U a82cT a82dU a840D a872L",
    "a873U a8c4T a8c6U a8e0T a8f2U a8ffT a900U a926T a92eU a947T a952U a980T a983U a9b3T a9b4U",
    "a9b6T a9baU a9bcT a9beU a9e5T a9e6U aa29T aa2fU aa31T aa33U aa35T aa37U aa43T aa44U aa4cT",
    "aa4dU aa7cT aa7dU aab0T aab1U aab2T aab5U aab7T aab9U aabeT aac0U aac1T aac2U aaecT aaeeU",
    "aaf6T aaf7U abe5T abe6U abe8T abe9U abedT abeeU fb1eT fb1fU fe00T fe10U fe20T fe30U feffT",
    "ff00U fff9T fffcU 101fdT 101feU 102e0T 102e1U 10376T 1037bU 10a01T 10a04U 10a05T 10a07U 10a0cT",
    "10a10U 10a38T 10a3bU 10a3fT 10a40U 10ac0D 10ac5R 10ac6U 10ac7R 10ac8U 10ac9R 10acbU 10acdL",
    "10aceR 10ad3D 10ad7L 10ad8D 10addR 10adeD 10ae1R 10ae2U 10ae4R 10ae5T 10ae7U 10aebD 10aefR",
    "10af0U 10b80D 10b81R 10b82D 10b83R 10b86D 10b89R 10b8aD 10b8cR 10b8dD 10b8eR 10b90D 10b91R",
    "10b92U 10ba9R 10badD 10bafU 10d00L 10d01D 10d22R 10d23D 10d24T 10d28U 10d69T 10d6eU 10eabT",
    "10eadU 10ec2R 10ec3D 10ec5U 10ec6D 10ec8U 10efaT 10f00U 10f30D 10f33R 10f34D 10f45U 10f46T",
    "10f51D 10f54R 10f55U 10f70D 10f74R 10f76D 10f82T 10f86U 10fb0D 10fb1U 10fb2D 10fb4R 10fb7U",
    "10fb8D 10fb9R 10fbbD 10fbdR 10fbeD 10fc0U 10fc1D 10fc2R 10fc4D 10fc5U 10fc9R 10fcaD 10fcbL",
    "10fccU 11001T 11002U 11038T 11047U 11070T 11071U 11073T 11075U 1107fT 11082U 110b3T 110b7U",
    "110b9T 110bbU 110c2T 110c3U 11100T 11103U 11127T 1112cU 1112dT 11135U 11173T 11174U 11180T",
    "11182U 111b6T 111bfU 111c9T 111cdU 111cfT 111d0U 1122fT 11232U 11234T 11235U 11236T 11238U",
    "1123eT 1123fU 11241T 11242U 112dfT 112e0U 112e3T 112ebU 11300T 11302U 1133bT 1133dU 11340T",
    "11341U 11366T 1136dU 11370T 11375U 113bbT 113c1U 113ceT 113cfU 113d0T 113d1U 113d2T 113d3U",
    "113e1T 113e3U 11438T 11440U 11442T 11445U 11446T 11447U 1145eT 1145fU 114b3T 114b9U 114baT",
    "114bbU 114bfT 114c1U 114c2T 114c4U 115b2T 115b6U 115bcT 115beU 115bfT 115c1U 115dcT 115deU",
    "11633T 1163bU 1163dT 1163eU 1163fT 11641U 116abT 116acU 116adT 116aeU 116b0T 116b6U 116b7T",
    "116b8U 1171dT 1171eU 1171fT 11720U 11722T 11726U 11727T 1172cU 1182fT 11838U 11839T 1183bU",
    "1193bT 1193dU 1193eT 1193fU 11943T 11944U 119d4T 119d8U 119daT 119dcU 119e0T 119e1U 11a01T",
    "11a0bU 11a33T 11a39U 11a3bT 11a3fU 11a47T 11a48U 11a51T 11a57U 11a59T 11a5cU 11a8aT 11a97U",
    "11a98T 11a9aU 11b60T 11b61U 11b62T 11b65U 11b66T 11b67U 11c30T 11c37U 11c38T 11c3eU 11c3fT",
    "11c40U 11c92T 11ca8U 11caaT 11cb1U 11cb2T 11cb4U 11cb5T 11cb7U 11d31T 11d37U 11d3aT 11d3bU",
    "11d3cT 11d3eU 11d3fT 11d46U 11d47T 11d48U 11d90T 11d92U 11d95T 11d96U 11d97T 11d98U 11ef3T",
    "11ef5U 11f00T 11f02U 11f36T 11f3bU 11f40T 11f41U 11f42T 11f43U 11f5aT 11f5bU 13430T 13441U",
    "13447T 13456U 1611eT 1612aU 1612dT 16130U 16af0T 16af5U 16b30T 16b37U 16f4fT 16f50U 16f8fT",
    "16f93U 16fe4T 16fe5U 1bc9dT 1bc9fU 1bca0T 1bca4U 1cf00T 1cf2eU 1cf30T 1cf47U 1d167T 1d16aU",
    "1d173T 1d183U 1d185T 1d18cU 1d1aaT 1d1aeU 1d242T 1d245U 1da00T 1da37U 1da3bT 1da6dU 1da75T",
    "1da76U 1da84T 1da85U 1da9bT 1daa0U 1daa1T 1dab0U 1e000T 1e007U 1e008T 1e019U 1e01bT 1e022U",
    "1e023T 1e025U 1e026T 1e02bU 1e08fT 1e090U 1e130T 1e137U 1e2aeT 1e2afU 1e2ecT 1e2f0U 1e4ecT",
    "1e4f0U 1e5eeT 1e5f0U 1e6e3T 1e6e4U 1e6e6T 1e6e7U 1e6eeT 1e6f0U 1e6f5T 1e6f6U 1e8d0T 1e8d7U",
    "1e900D 1e944T 1e94cU e0001T e0002U e0020T e0080U e0100T e01f0U"]

/-- The joining type table. -/
def joiningTable : Array (Span JoiningType) := readSpans joiningTag joiningText

/-- The joining type of a code point. -/
def joiningType (cp : Nat) : JoiningType := valueAt joiningTable .nonJoining cp

/-- A combining class tag: `C` and the class in decimal. -/
def classTag : Char → List Char → Option Nat
  | 'C', ds => some (ds.foldl (fun acc d => acc * 10 + (d.toNat - '0'.toNat)) 0)
  | _, _ => none

/-- Canonical combining classes: a start in hex, then `C` and the class in decimal. -/
def combiningText : String :=
  " ".intercalate [
    "0C0 300C230 315C232 316C220 31aC232 31bC216 31cC220 321C202 323C220 327C202 329C220 334C1",
    "339C220 33dC230 345C240 346C230 347C220 34aC230 34dC220 34fC0 350C230 353C220 357C230 358C232",
    "359C220 35bC230 35cC233 35dC234 35fC233 360C234 362C233 363C230 370C0 483C230 488C0 591C220",
    "592C230 596C220 597C230 59aC222 59bC220 59cC230 5a2C220 5a8C230 5aaC220 5abC230 5adC222",
    "5aeC228 5afC230 5b0C10 5b1C11 5b2C12 5b3C13 5b4C14 5b5C15 5b6C16 5b7C17 5b8C18 5b9C19 5bbC20",
    "5bcC21 5bdC22 5beC0 5bfC23 5c0C0 5c1C24 5c2C25 5c3C0 5c4C230 5c5C220 5c6C0 5c7C18 5c8C0",
    "610C230 618C30 619C31 61aC32 61bC0 64bC27 64cC28 64dC29 64eC30 64fC31 650C32 651C33 652C34",
    "653C230 655C220 657C230 65cC220 65dC230 65fC220 660C0 670C35 671C0 6d6C230 6ddC0 6dfC230",
    "6e3C220 6e4C230 6e5C0 6e7C230 6e9C0 6eaC220 6ebC230 6edC220 6eeC0 711C36 712C0 730C230 731C220",
    "732C230 734C220 735C230 737C220 73aC230 73bC220 73dC230 73eC220 73fC230 742C220 743C230",
    "744C220 745C230 746C220 747C230 748C220 749C230 74bC0 7ebC230 7f2C220 7f3C230 7f4C0 7fdC220",
    "7feC0 816C230 81aC0 81bC230 824C0 825C230 828C0 829C230 82eC0 859C220 85cC0 897C230 899C220",
    "89cC230 8a0C0 8caC230 8cfC220 8d4C230 8e2C0 8e3C220 8e4C230 8e6C220 8e7C230 8e9C220 8eaC230",
    "8edC220 8f0C27 8f1C28 8f2C29 8f3C230 8f6C220 8f7C230 8f9C220 8fbC230 900C0 93cC7 93dC0 94dC9",
    "94eC0 951C230 952C220 953C230 955C0 9bcC7 9bdC0 9cdC9 9ceC0 9feC230 9ffC0 a3cC7 a3dC0 a4dC9",
    "a4eC0 abcC7 abdC0 acdC9 aceC0 b3cC7 b3dC0 b4dC9 b4eC0 bcdC9 bceC0 c3cC7 c3dC0 c4dC9 c4eC0",
    "c55C84 c56C91 c57C0 cbcC7 cbdC0 ccdC9 cceC0 d3bC9 d3dC0 d4dC9 d4eC0 dcaC9 dcbC0 e38C103 e3aC9",
    "e3bC0 e48C107 e4cC0 eb8C118 ebaC9 ebbC0 ec8C122 eccC0 f18C220 f1aC0 f35C220 f36C0 f37C220",
    "f38C0 f39C216 f3aC0 f71C129 f72C130 f73C0 f74C132 f75C0 f7aC130 f7eC0 f80C130 f81C0 f82C230",
    "f84C9 f85C0 f86C230 f88C0 fc6C220 fc7C0 1037C7 1038C0 1039C9 103bC0 108dC220 108eC0 135dC230",
    "1360C0 1714C9 1716C0 1734C9 1735C0 17d2C9 17d3C0 17ddC230 17deC0 18a9C228 18aaC0 1939C222",
    "193aC230 193bC220 193cC0 1a17C230 1a18C220 1a19C0 1a60C9 1a61C0 1a75C230 1a7dC0 1a7fC220",
    "1a80C0 1ab0C230 1ab5C220 1abbC230 1abdC220 1abeC0 1abfC220 1ac1C230 1ac3C220 1ac5C230 1acaC220",
    "1acbC230 1addC220 1adeC0 1ae0C230 1ae6C220 1ae7C230 1aebC234 1aecC0 1b34C7 1b35C0 1b44C9",
    "1b45C0 1b6bC230 1b6cC220 1b6dC230 1b74C0 1baaC9 1bacC0 1be6C7 1be7C0 1bf2C9 1bf4C0 1c37C7",
    "1c38C0 1cd0C230 1cd3C0 1cd4C1 1cd5C220 1cdaC230 1cdcC220 1ce0C230 1ce1C0 1ce2C1 1ce9C0",
    "1cedC220 1ceeC0 1cf4C230 1cf5C0 1cf8C230 1cfaC0 1dc0C230 1dc2C220 1dc3C230 1dcaC220 1dcbC230",
    "1dcdC234 1dceC214 1dcfC220 1dd0C202 1dd1C230 1df6C232 1df7C228 1df9C220 1dfaC218 1dfbC230",
    "1dfcC233 1dfdC220 1dfeC230 1dffC220 1e00C0 20d0C230 20d2C1 20d4C230 20d8C1 20dbC230 20ddC0",
    "20e1C230 20e2C0 20e5C1 20e7C230 20e8C220 20e9C230 20eaC1 20ecC220 20f0C230 20f1C0 2cefC230",
    "2cf2C0 2d7fC9 2d80C0 2de0C230 2e00C0 302aC218 302bC228 302cC232 302dC222 302eC224 3030C0",
    "3099C8 309bC0 a66fC230 a670C0 a674C230 a67eC0 a69eC230 a6a0C0 a6f0C230 a6f2C0 a806C9 a807C0",
    "a82cC9 a82dC0 a8c4C9 a8c5C0 a8e0C230 a8f2C0 a92bC220 a92eC0 a953C9 a954C0 a9b3C7 a9b4C0 a9c0C9",
    "a9c1C0 aab0C230 aab1C0 aab2C230 aab4C220 aab5C0 aab7C230 aab9C0 aabeC230 aac0C0 aac1C230",
    "aac2C0 aaf6C9 aaf7C0 abedC9 abeeC0 fb1eC26 fb1fC0 fe20C230 fe27C220 fe2eC230 fe30C0 101fdC220",
    "101feC0 102e0C220 102e1C0 10376C230 1037bC0 10a0dC220 10a0eC0 10a0fC230 10a10C0 10a38C230",
    "10a39C1 10a3aC220 10a3bC0 10a3fC9 10a40C0 10ae5C230 10ae6C220 10ae7C0 10d24C230 10d28C0",
    "10d69C230 10d6eC0 10eabC230 10eadC0 10efaC220 10efcC0 10efdC220 10f00C0 10f46C220 10f48C230",
    "10f4bC220 10f4cC230 10f4dC220 10f51C0 10f82C230 10f83C220 10f84C230 10f85C220 10f86C0 11046C9",
    "11047C0 11070C9 11071C0 1107fC9 11080C0 110b9C9 110baC7 110bbC0 11100C230 11103C0 11133C9",
    "11135C0 11173C7 11174C0 111c0C9 111c1C0 111caC7 111cbC0 11235C9 11236C7 11237C0 112e9C7",
    "112eaC9 112ebC0 1133bC7 1133dC0 1134dC9 1134eC0 11366C230 1136dC0 11370C230 11375C0 113ceC9",
    "113d1C0 11442C9 11443C0 11446C7 11447C0 1145eC230 1145fC0 114c2C9 114c3C7 114c4C0 115bfC9",
    "115c0C7 115c1C0 1163fC9 11640C0 116b6C9 116b7C7 116b8C0 1172bC9 1172cC0 11839C9 1183aC7",
    "1183bC0 1193dC9 1193fC0 11943C7 11944C0 119e0C9 119e1C0 11a34C9 11a35C0 11a47C9 11a48C0",
    "11a99C9 11a9aC0 11c3fC9 11c40C0 11d42C7 11d43C0 11d44C9 11d46C0 11d97C9 11d98C0 11f41C9",
    "11f43C0 1612fC9 16130C0 16af0C1 16af5C0 16b30C230 16b37C0 16ff0C6 16ff2C0 1bc9eC1 1bc9fC0",
    "1d165C216 1d167C1 1d16aC0 1d16dC226 1d16eC216 1d173C0 1d17bC220 1d183C0 1d185C230 1d18aC220",
    "1d18cC0 1d1aaC230 1d1aeC0 1d242C230 1d245C0 1e000C230 1e007C0 1e008C230 1e019C0 1e01bC230",
    "1e022C0 1e023C230 1e025C0 1e026C230 1e02bC0 1e08fC230 1e090C0 1e130C230 1e137C0 1e2aeC230",
    "1e2afC0 1e2ecC230 1e2f0C0 1e4ecC232 1e4eeC220 1e4efC230 1e4f0C0 1e5eeC230 1e5efC220 1e5f0C0",
    "1e6e3C230 1e6e4C0 1e6e6C230 1e6e7C0 1e6eeC230 1e6f0C0 1e6f5C230 1e6f6C0 1e8d0C220 1e8d7C0",
    "1e944C230 1e94aC7 1e94bC0"]

/-- The combining class table. -/
def combiningTable : Array (Span Nat) := readSpans classTag combiningText

/-- The canonical combining class of a code point; zero for a starter. -/
def combiningClass (cp : Nat) : Nat := valueAt combiningTable 0 cp

/-- The combining class of a virama, which lets a zero-width joiner follow it. -/
def viramaClass : Nat := 9

/-- A mark tag: `M` for a combining mark, `N` for anything else. -/
def markTag : Char → List Char → Option Bool
  | 'M', _ => some true
  | 'N', _ => some false
  | _, _ => none

/-- Combining marks (general category M): a start in hex, then `M` or `N`. -/
def markText : String :=
  " ".intercalate [
    "0N 300M 370N 483M 48aN 591M 5beN 5bfM 5c0N 5c1M 5c3N 5c4M 5c6N 5c7M 5c8N 610M 61bN 64bM 660N",
    "670M 671N 6d6M 6ddN 6dfM 6e5N 6e7M 6e9N 6eaM 6eeN 711M 712N 730M 74bN 7a6M 7b1N 7ebM 7f4N 7fdM",
    "7feN 816M 81aN 81bM 824N 825M 828N 829M 82eN 859M 85cN 897M 8a0N 8caM 8e2N 8e3M 904N 93aM 93dN",
    "93eM 950N 951M 958N 962M 964N 981M 984N 9bcM 9bdN 9beM 9c5N 9c7M 9c9N 9cbM 9ceN 9d7M 9d8N 9e2M",
    "9e4N 9feM 9ffN a01M a04N a3cM a3dN a3eM a43N a47M a49N a4bM a4eN a51M a52N a70M a72N a75M a76N",
    "a81M a84N abcM abdN abeM ac6N ac7M acaN acbM aceN ae2M ae4N afaM b00N b01M b04N b3cM b3dN b3eM",
    "b45N b47M b49N b4bM b4eN b55M b58N b62M b64N b82M b83N bbeM bc3N bc6M bc9N bcaM bceN bd7M bd8N",
    "c00M c05N c3cM c3dN c3eM c45N c46M c49N c4aM c4eN c55M c57N c62M c64N c81M c84N cbcM cbdN cbeM",
    "cc5N cc6M cc9N ccaM cceN cd5M cd7N ce2M ce4N cf3M cf4N d00M d04N d3bM d3dN d3eM d45N d46M d49N",
    "d4aM d4eN d57M d58N d62M d64N d81M d84N dcaM dcbN dcfM dd5N dd6M dd7N dd8M de0N df2M df4N e31M",
    "e32N e34M e3bN e47M e4fN eb1M eb2N eb4M ebdN ec8M ecfN f18M f1aN f35M f36N f37M f38N f39M f3aN",
    "f3eM f40N f71M f85N f86M f88N f8dM f98N f99M fbdN fc6M fc7N 102bM 103fN 1056M 105aN 105eM",
    "1061N 1062M 1065N 1067M 106eN 1071M 1075N 1082M 108eN 108fM 1090N 109aM 109eN 135dM 1360N",
    "1712M 1716N 1732M 1735N 1752M 1754N 1772M 1774N 17b4M 17d4N 17ddM 17deN 180bM 180eN 180fM",
    "1810N 1885M 1887N 18a9M 18aaN 1920M 192cN 1930M 193cN 1a17M 1a1cN 1a55M 1a5fN 1a60M 1a7dN",
    "1a7fM 1a80N 1ab0M 1adeN 1ae0M 1aecN 1b00M 1b05N 1b34M 1b45N 1b6bM 1b74N 1b80M 1b83N 1ba1M",
    "1baeN 1be6M 1bf4N 1c24M 1c38N 1cd0M 1cd3N 1cd4M 1ce9N 1cedM 1ceeN 1cf4M 1cf5N 1cf7M 1cfaN",
    "1dc0M 1e00N 20d0M 20f1N 2cefM 2cf2N 2d7fM 2d80N 2de0M 2e00N 302aM 3030N 3099M 309bN a66fM",
    "a673N a674M a67eN a69eM a6a0N a6f0M a6f2N a802M a803N a806M a807N a80bM a80cN a823M a828N",
    "a82cM a82dN a880M a882N a8b4M a8c6N a8e0M a8f2N a8ffM a900N a926M a92eN a947M a954N a980M",
    "a984N a9b3M a9c1N a9e5M a9e6N aa29M aa37N aa43M aa44N aa4cM aa4eN aa7bM aa7eN aab0M aab1N",
    "aab2M aab5N aab7M aab9N aabeM aac0N aac1M aac2N aaebM aaf0N aaf5M aaf7N abe3M abebN abecM",
    "abeeN fb1eM fb1fN fe00M fe10N fe20M fe30N 101fdM 101feN 102e0M 102e1N 10376M 1037bN 10a01M",
    "10a04N 10a05M 10a07N 10a0cM 10a10N 10a38M 10a3bN 10a3fM 10a40N 10ae5M 10ae7N 10d24M 10d28N",
    "10d69M 10d6eN 10eabM 10eadN 10efaM 10f00N 10f46M 10f51N 10f82M 10f86N 11000M 11003N 11038M",
    "11047N 11070M 11071N 11073M 11075N 1107fM 11083N 110b0M 110bbN 110c2M 110c3N 11100M 11103N",
    "11127M 11135N 11145M 11147N 11173M 11174N 11180M 11183N 111b3M 111c1N 111c9M 111cdN 111ceM",
    "111d0N 1122cM 11238N 1123eM 1123fN 11241M 11242N 112dfM 112ebN 11300M 11304N 1133bM 1133dN",
    "1133eM 11345N 11347M 11349N 1134bM 1134eN 11357M 11358N 11362M 11364N 11366M 1136dN 11370M",
    "11375N 113b8M 113c1N 113c2M 113c3N 113c5M 113c6N 113c7M 113cbN 113ccM 113d1N 113d2M 113d3N",
    "113e1M 113e3N 11435M 11447N 1145eM 1145fN 114b0M 114c4N 115afM 115b6N 115b8M 115c1N 115dcM",
    "115deN 11630M 11641N 116abM 116b8N 1171dM 1172cN 1182cM 1183bN 11930M 11936N 11937M 11939N",
    "1193bM 1193fN 11940M 11941N 11942M 11944N 119d1M 119d8N 119daM 119e1N 119e4M 119e5N 11a01M",
    "11a0bN 11a33M 11a3aN 11a3bM 11a3fN 11a47M 11a48N 11a51M 11a5cN 11a8aM 11a9aN 11b60M 11b68N",
    "11c2fM 11c37N 11c38M 11c40N 11c92M 11ca8N 11ca9M 11cb7N 11d31M 11d37N 11d3aM 11d3bN 11d3cM",
    "11d3eN 11d3fM 11d46N 11d47M 11d48N 11d8aM 11d8fN 11d90M 11d92N 11d93M 11d98N 11ef3M 11ef7N",
    "11f00M 11f02N 11f03M 11f04N 11f34M 11f3bN 11f3eM 11f43N 11f5aM 11f5bN 13440M 13441N 13447M",
    "13456N 1611eM 16130N 16af0M 16af5N 16b30M 16b37N 16f4fM 16f50N 16f51M 16f88N 16f8fM 16f93N",
    "16fe4M 16fe5N 16ff0M 16ff2N 1bc9dM 1bc9fN 1cf00M 1cf2eN 1cf30M 1cf47N 1d165M 1d16aN 1d16dM",
    "1d173N 1d17bM 1d183N 1d185M 1d18cN 1d1aaM 1d1aeN 1d242M 1d245N 1da00M 1da37N 1da3bM 1da6dN",
    "1da75M 1da76N 1da84M 1da85N 1da9bM 1daa0N 1daa1M 1dab0N 1e000M 1e007N 1e008M 1e019N 1e01bM",
    "1e022N 1e023M 1e025N 1e026M 1e02bN 1e08fM 1e090N 1e130M 1e137N 1e2aeM 1e2afN 1e2ecM 1e2f0N",
    "1e4ecM 1e4f0N 1e5eeM 1e5f0N 1e6e3M 1e6e4N 1e6e6M 1e6e7N 1e6eeM 1e6f0N 1e6f5M 1e6f6N 1e8d0M",
    "1e8d7N 1e944M 1e94bN e0100M e01f0N"]

/-- The combining mark table. -/
def markTable : Array (Span Bool) := readSpans markTag markText

/-- Whether a code point is a combining mark. -/
def isMark (cp : Nat) : Bool := valueAt markTable false cp

end ChunkStore.Text
