import ChunkStore.Text.Spans
/-!
# The IDNA mapping table

Before a domain name is checked, every code point is looked up in the UTS 46 mapping table
(Unicode 17.0, non-transitional processing, without the STD3 rules): it is kept, dropped,
replaced by a sequence, or it makes the name invalid. ASCII is kept except that capitals become
lowercase; which ASCII characters a host may hold is decided separately.

The zero-width joiner and non-joiner are kept here and judged later by the joiner rules.
-/

namespace ChunkStore.Url

/-- What the mapping table does with one code point. -/
inductive IdnaStatus where
  | valid
  | ignored
  | disallowed
  | mapped (image : List Nat)
  deriving Repr, DecidableEq

/-- One span of the mapping table. Shifted and alternating spans keep long runs of case pairs
short: a shift maps every code point of the span by the same offset, an alternation maps the
code points at even distance from the start by the offset and keeps the others. -/
inductive MappingSpan where
  | valid
  | ignored
  | disallowed
  | shift (offset : Int)
  | alternate (offset : Int)
  | sequence (image : List Nat)
  deriving Repr, DecidableEq

/-- The span kind a table tag stands for. -/
def mappingTag : Char → List Char → Option MappingSpan
  | 'V', _ => some .valid
  | 'I', _ => some .ignored
  | 'D', _ => some .disallowed
  | 'S', payload => some (.shift (Text.signedHex payload))
  | 'A', payload => some (.alternate (Text.signedHex payload))
  | 'T', payload => some (.sequence (Text.hexSequence payload))
  | _, _ => none

/-- The mapping table from U+0080 on: a start in hex, then `V` (valid), `I` (ignored),
`D` (disallowed), `S` and an offset (shifted), `A` and an offset (alternating), or `T` and the
code points it maps to. Surrogates are disallowed. -/
def mappingText : String :=
  " ".intercalate [
    "80D a0S-80 a1V a8T20.308 a9V aaS-49 abV adI aeV afT20.304 b0V b2S-80 b4T20.301 b5S307 b6V",
    "b8T20.327 b9S-88 baS-4b bbV bcT31.2044.34 bdT31.2044.32 beT33.2044.34 bfV c0S20 d7V d8S20 dfV",
    "100A1 130T69.307 131V 132T69.6a 133T69.6a 134A1 138V 139A1 13fT6c.b7 140T6c.b7 141A1",
    "149T2bc.6e 14aA1 178S-79 179A1 17fS-10c 180V 181Sd2 182A1 186Sce 187S1 188V 189Scd 18bS1 18cV",
    "18eS4f 18fSca 190Scb 191S1 192V 193Scd 194Scf 195V 196Sd3 197Sd1 198S1 199V 19cSd3 19dSd5 19eV",
    "19fSd6 1a0A1 1a6Sda 1a7S1 1a8V 1a9Sda 1aaV 1acS1 1adV 1aeSda 1afS1 1b0V 1b1Sd9 1b3A1 1b7Sdb",
    "1b8S1 1b9V 1bcS1 1bdV 1c4T64.17e 1c5T64.17e 1c6T64.17e 1c7T6c.6a 1c8T6c.6a 1c9T6c.6a 1caT6e.6a",
    "1cbT6e.6a 1ccT6e.6a 1cdA1 1ddV 1deA1 1f0V 1f1T64.7a 1f2T64.7a 1f3T64.7a 1f4S1 1f5V 1f6S-61",
    "1f7S-38 1f8A1 220S-82 221V 222A1 234V 23aS2a2b 23bS1 23cV 23dS-a3 23eS2a28 23fV 241S1 242V",
    "243S-c3 244S45 245S47 246A1 250V 2b0S-248 2b1S-4b 2b2S-248 2b3S-241 2b4S-3b 2b5S-3a 2b6S-35",
    "2b7S-240 2b8S-23f 2b9V 2d8T20.306 2d9T20.307 2daT20.30a 2dbT20.328 2dcT20.303 2ddT20.30b 2deV",
    "2e0S-7d 2e1S-275 2e2S-26f 2e3S-26b 2e4S-4f 2e5V 340S-40 342V 343S-30 344T308.301 345S74 346V",
    "34fI 350V 370A1 374S-bb 375V 376S1 377V 378D 37aT20.3b9 37bV 37eS-343 37fS74 380D 384T20.301",
    "385T20.308.301 386S26 387S-2d0 388S25 38bD 38cS40 38dD 38eS3f 390V 391S20 3a2D 3a3S20 3acV",
    "3cfS8 3d0S-1e 3d1S-19 3d2S-d 3d3S-6 3d4S-9 3d5S-f 3d6S-16 3d7V 3d8A1 3f0S-36 3f1S-30 3f2S-2f",
    "3f3V 3f4S-3c 3f5S-40 3f6V 3f7S1 3f8V 3f9S-36 3faS1 3fbV 3fdS-82 400S50 410S20 430V 460A1 482V",
    "48aA1 4c0Sf 4c1A1 4cfV 4d0A1 530D 531S30 557D 559V 587T565.582 588V 58bD 58dV 590D 591V 5c8D",
    "5d0V 5ebD 5efV 5f5D 606V 61cD 61dV 675T627.674 676T648.674 677T6c7.674 678T64a.674 679V 6ddD",
    "6deV 70eD 710V 74bD 74dV 7b2D 7c0V 7fbD 7fdV 82eD 830V 83fD 840V 85cD 85eV 85fD 860V 86bD 870V",
    "890D 897V 8e2D 8e3V 958T915.93c 959T916.93c 95aT917.93c 95bT91c.93c 95cT921.93c 95dT922.93c",
    "95eT92b.93c 95fT92f.93c 960V 984D 985V 98dD 98fV 991D 993V 9a9D 9aaV 9b1D 9b2V 9b3D 9b6V 9baD",
    "9bcV 9c5D 9c7V 9c9D 9cbV 9cfD 9d7V 9d8D 9dcT9a1.9bc 9ddT9a2.9bc 9deD 9dfT9af.9bc 9e0V 9e4D",
    "9e6V 9ffD a01V a04D a05V a0bD a0fV a11D a13V a29D a2aV a31D a32V a33Ta32.a3c a34D a35V",
    "a36Ta38.a3c a37D a38V a3aD a3cV a3dD a3eV a43D a47V a49D a4bV a4eD a51V a52D a59Ta16.a3c",
    "a5aTa17.a3c a5bTa1c.a3c a5cV a5dD a5eTa2b.a3c a5fD a66V a77D a81V a84D a85V a8eD a8fV a92D",
    "a93V aa9D aaaV ab1D ab2V ab4D ab5V abaD abcV ac6D ac7V acaD acbV aceD ad0V ad1D ae0V ae4D ae6V",
    "af2D af9V b00D b01V b04D b05V b0dD b0fV b11D b13V b29D b2aV b31D b32V b34D b35V b3aD b3cV b45D",
    "b47V b49D b4bV b4eD b55V b58D b5cTb21.b3c b5dTb22.b3c b5eD b5fV b64D b66V b78D b82V b84D b85V",
    "b8bD b8eV b91D b92V b96D b99V b9bD b9cV b9dD b9eV ba0D ba3V ba5D ba8V babD baeV bbaD bbeV bc3D",
    "bc6V bc9D bcaV bceD bd0V bd1D bd7V bd8D be6V bfbD c00V c0dD c0eV c11D c12V c29D c2aV c3aD c3cV",
    "c45D c46V c49D c4aV c4eD c55V c57D c58V c5bD c5cV c5eD c60V c64D c66V c70D c77V c8dD c8eV c91D",
    "c92V ca9D caaV cb4D cb5V cbaD cbcV cc5D cc6V cc9D ccaV cceD cd5V cd7D cdcV cdfD ce0V ce4D ce6V",
    "cf0D cf1V cf4D d00V d0dD d0eV d11D d12V d45D d46V d49D d4aV d50D d54V d64D d66V d80D d81V d84D",
    "d85V d97D d9aV db2D db3V dbcD dbdV dbeD dc0V dc7D dcaV dcbD dcfV dd5D dd6V dd7D dd8V de0D de6V",
    "df0D df2V df5D e01V e33Te4d.e32 e34V e3bD e3fV e5cD e81V e83D e84V e85D e86V e8bD e8cV ea4D",
    "ea5V ea6D ea7V eb3Tecd.eb2 eb4V ebeD ec0V ec5D ec6V ec7D ec8V ecfD ed0V edaD edcTeab.e99",
    "eddTeab.ea1 edeV ee0D f00V f0cS-1 f0dV f43Tf42.fb7 f44V f48D f49V f4dTf4c.fb7 f4eV f52Tf51.fb7",
    "f53V f57Tf56.fb7 f58V f5cTf5b.fb7 f5dV f69Tf40.fb5 f6aV f6dD f71V f73Tf71.f72 f74V f75Tf71.f74",
    "f76Tfb2.f80 f77Tfb2.f71.f80 f78Tfb3.f80 f79Tfb3.f71.f80 f7aV f81Tf71.f80 f82V f93Tf92.fb7 f94V",
    "f98D f99V f9dTf9c.fb7 f9eV fa2Tfa1.fb7 fa3V fa7Tfa6.fb7 fa8V facTfab.fb7 fadV fb9Tf90.fb5 fbaV",
    "fbdD fbeV fcdD fceV fdbD 1000V 10a0S1c60 10c6D 10c7S1c60 10c8D 10cdS1c60 10ceD 10d0V 10fcS-20",
    "10fdV 115fI 1161V 1249D 124aV 124eD 1250V 1257D 1258V 1259D 125aV 125eD 1260V 1289D 128aV",
    "128eD 1290V 12b1D 12b2V 12b6D 12b8V 12bfD 12c0V 12c1D 12c2V 12c6D 12c8V 12d7D 12d8V 1311D",
    "1312V 1316D 1318V 135bD 135dV 137dD 1380V 139aD 13a0V 13f6D 13f8S-8 13feD 1400V 1680D 1681V",
    "169dD 16a0V 16f9D 1700V 1716D 171fV 1737D 1740V 1754D 1760V 176dD 176eV 1771D 1772V 1774D",
    "1780V 17b4I 17b6V 17deD 17e0V 17eaD 17f0V 17faD 1800V 180bI 1810V 181aD 1820V 1879D 1880V",
    "18abD 18b0V 18f6D 1900V 191fD 1920V 192cD 1930V 193cD 1940V 1941D 1944V 196eD 1970V 1975D",
    "1980V 19acD 19b0V 19caD 19d0V 19dbD 19deV 1a1cD 1a1eV 1a5fD 1a60V 1a7dD 1a7fV 1a8aD 1a90V",
    "1a9aD 1aa0V 1aaeD 1ab0V 1adeD 1ae0V 1aecD 1b00V 1b4dD 1b4eV 1bf4D 1bfcV 1c38D 1c3bV 1c4aD",
    "1c4dV 1c80S-184e 1c81S-184d 1c82S-1844 1c83S-1842 1c85S-1843 1c86S-183c 1c87S-1824 1c88S89c3",
    "1c89S1 1c8aV 1c8bD 1c90S-bc0 1cbbD 1cbdS-bc0 1cc0V 1cc8D 1cd0V 1cfbD 1d00V 1d2cS-1ccb",
    "1d2dS-1c47 1d2eS-1ccc 1d2fV 1d30S-1ccc 1d32S-1b55 1d33S-1ccc 1d3bV 1d3cS-1ccd 1d3dS-1b1a",
    "1d3eS-1cce 1d3fS-1ccd 1d40S-1ccc 1d42S-1ccb 1d43S-1ce2 1d44S-1af4 1d46S-44 1d47S-1ce5",
    "1d48S-1ce4 1d4aS-1af1 1d4bS-1af0 1d4dS-1ce6 1d4eV 1d4fS-1ce4 1d50S-1ce3 1d51S-1c06 1d52S-1ce3",
    "1d53S-1aff 1d54S-3e 1d56S-1ce6 1d57S-1ce3 1d59S-3c 1d5aS-1aeb 1d5bS-1ce5 1d5cS-37 1d5dS-19ab",
    "1d60S-199a 1d62S-1cf9 1d63S-1cf1 1d64S-1cef 1d66S-19b4 1d68S-19a7 1d69S-19a3 1d6bV 1d78S-193b",
    "1d79V 1d9bS-1b49 1d9cS-1d39 1d9dS-1b48 1d9eS-1cae 1d9fS-1b43 1da0S-1d3a 1da1S-1b42 1da2S-1b41",
    "1da3S-1b3e 1da4S-1b3c 1da7S-2c 1da8S-1b0b 1da9S-1b3c 1daaS-25 1dabS-1b0c 1dacS-1b3b 1dadS-1b3d",
    "1daeS-1b3c 1db2S-1b3a 1db3S-1b31 1db5S-1c0a 1db6S-1b2d 1db8S-9c 1db9S-1b2e 1dbbS-1d41",
    "1dbcS-1b2c 1dbfS-1a07 1dc0V 1e00A1 1e96V 1e9aT61.2be 1e9bS-3a 1e9cV 1e9eS-1dbf 1e9fV 1ea0A1",
    "1f00V 1f08S-8 1f10V 1f16D 1f18S-8 1f1eD 1f20V 1f28S-8 1f30V 1f38S-8 1f40V 1f46D 1f48S-8 1f4eD",
    "1f50V 1f58D 1f59S-8 1f5aD 1f5bS-8 1f5cD 1f5dS-8 1f5eD 1f5fS-8 1f60V 1f68S-8 1f70V 1f71S-1bc5",
    "1f72V 1f73S-1bc6 1f74V 1f75S-1bc7 1f76V 1f77S-1bc8 1f78V 1f79S-1bad 1f7aV 1f7bS-1bae 1f7cV",
    "1f7dS-1baf 1f7eD 1f80T1f00.3b9 1f81T1f01.3b9 1f82T1f02.3b9 1f83T1f03.3b9 1f84T1f04.3b9",
    "1f85T1f05.3b9 1f86T1f06.3b9 1f87T1f07.3b9 1f88T1f00.3b9 1f89T1f01.3b9 1f8aT1f02.3b9",
    "1f8bT1f03.3b9 1f8cT1f04.3b9 1f8dT1f05.3b9 1f8eT1f06.3b9 1f8fT1f07.3b9 1f90T1f20.3b9",
    "1f91T1f21.3b9 1f92T1f22.3b9 1f93T1f23.3b9 1f94T1f24.3b9 1f95T1f25.3b9 1f96T1f26.3b9",
    "1f97T1f27.3b9 1f98T1f20.3b9 1f99T1f21.3b9 1f9aT1f22.3b9 1f9bT1f23.3b9 1f9cT1f24.3b9",
    "1f9dT1f25.3b9 1f9eT1f26.3b9 1f9fT1f27.3b9 1fa0T1f60.3b9 1fa1T1f61.3b9 1fa2T1f62.3b9",
    "1fa3T1f63.3b9 1fa4T1f64.3b9 1fa5T1f65.3b9 1fa6T1f66.3b9 1fa7T1f67.3b9 1fa8T1f60.3b9",
    "1fa9T1f61.3b9 1faaT1f62.3b9 1fabT1f63.3b9 1facT1f64.3b9 1fadT1f65.3b9 1faeT1f66.3b9",
    "1fafT1f67.3b9 1fb0V 1fb2T1f70.3b9 1fb3T3b1.3b9 1fb4T3ac.3b9 1fb5D 1fb6V 1fb7T1fb6.3b9 1fb8S-8",
    "1fbaS-4a 1fbbS-1c0f 1fbcT3b1.3b9 1fbdT20.313 1fbeS-1c05 1fbfT20.313 1fc0T20.342",
    "1fc1T20.308.342 1fc2T1f74.3b9 1fc3T3b7.3b9 1fc4T3ae.3b9 1fc5D 1fc6V 1fc7T1fc6.3b9 1fc8S-56",
    "1fc9S-1c1c 1fcaS-56 1fcbS-1c1d 1fccT3b7.3b9 1fcdT20.313.300 1fceT20.313.301 1fcfT20.313.342",
    "1fd0V 1fd3S-1c43 1fd4D 1fd6V 1fd8S-8 1fdaS-64 1fdbS-1c2c 1fdcD 1fddT20.314.300 1fdeT20.314.301",
    "1fdfT20.314.342 1fe0V 1fe3S-1c33 1fe4V 1fe8S-8 1feaS-70 1febS-1c1e 1fecS-7 1fedT20.308.300",
    "1feeT20.308.301 1fefS-1f8f 1ff0D 1ff2T1f7c.3b9 1ff3T3c9.3b9 1ff4T3ce.3b9 1ff5D 1ff6V",
    "1ff7T1ff6.3b9 1ff8S-80 1ff9S-1c2d 1ffaS-7e 1ffbS-1c2d 1ffcT3c9.3b9 1ffdT20.301 1ffeT20.314",
    "1fffD 2000S-1fe0 2001S-1fe1 2002S-1fe2 2003S-1fe3 2004S-1fe4 2005S-1fe5 2006S-1fe6 2007S-1fe7",
    "2008S-1fe8 2009S-1fe9 200aS-1fea 200bI 200cV 200eD 2010V 2011S-1 2012V 2017T20.333 2018V 2024D",
    "2027V 2028D 202fS-200f 2030V 2033T2032.2032 2034T2032.2032.2032 2035V 2036T2035.2035",
    "2037T2035.2035.2035 2038V 203cT21.21 203dV 203eT20.305 203fV 2047T3f.3f 2048T3f.21 2049T21.3f",
    "204aV 2057T2032.2032.2032.2032 2058V 205fS-203f 2060I 2065D 206aI 2070S-2040 2071S-2008 2072D",
    "2074S-2040 207aS-204f 207bS197 207cS-203f 207dS-2055 207fS-2011 2080S-2050 208aS-205f 208bS187",
    "208cS-204f 208dS-2065 208fD 2090S-202f 2091S-202c 2092S-2023 2093S-201b 2094S-1e3b 2095S-202d",
    "2096S-202b 209aS-202a 209bS-2028 209dD 20a0V 20a8T72.73 20a9V 20c2D 20d0V 20f1D 2100T61.2f.63",
    "2101T61.2f.73 2102S-209f 2103Tb0.63 2104V 2105T63.2f.6f 2106T63.2f.75 2107S-1eac 2108V",
    "2109Tb0.66 210aS-20a3 210cS-20a4 210dS-20a5 210eS-20a6 210fS-1fe8 2110S-20a7 2111S-20a8",
    "2112S-20a6 2113S-20a7 2114V 2115S-20a7 2116T6e.6f 2117V 2119S-20a9 211cS-20aa 211dS-20ab 211eV",
    "2120T73.6d 2121T74.65.6c 2122T74.6d 2123V 2124S-20aa 2125V 2126S-1d5d 2127V 2128S-20ae 2129V",
    "212aS-20bf 212bS-2046 212cS-20ca 212eV 212fS-20ca 2130S-20cb 2132S1c 2133S-20c6 2134S-20c5",
    "2135S-1b65 2139S-20d0 213aV 213bT66.61.78 213cS-1d7c 213dS-1d8a 213eS-1d8b 213fS-1d7f 2140Sd1",
    "2141V 2145S-20e1 2146S-20e2 2148S-20df 214aV 2150T31.2044.37 2151T31.2044.39",
    "2152T31.2044.31.30 2153T31.2044.33 2154T32.2044.33 2155T31.2044.35 2156T32.2044.35",
    "2157T33.2044.35 2158T34.2044.35 2159T31.2044.36 215aT35.2044.36 215bT31.2044.38",
    "215cT33.2044.38 215dT35.2044.38 215eT37.2044.38 215fT31.2044 2160S-20f7 2161T69.69",
    "2162T69.69.69 2163T69.76 2164S-20ee 2165T76.69 2166T76.69.69 2167T76.69.69.69 2168T69.78",
    "2169S-20f1 216aT78.69 216bT78.69.69 216cS-2100 216dS-210a 216fS-2102 2170S-2107 2171T69.69",
    "2172T69.69.69 2173T69.76 2174S-20fe 2175T76.69 2176T76.69.69 2177T76.69.69.69 2178T69.78",
    "2179S-2101 217aT78.69 217bT78.69.69 217cS-2110 217dS-211a 217fS-2112 2180V 2183S1 2184V",
    "2189T30.2044.33 218aV 218cD 2190V 222cT222b.222b 222dT222b.222b.222b 222eV 222fT222e.222e",
    "2230T222e.222e.222e 2231V 2329Scdf 232bV 242aD 2440V 244bD 2460S-242f 2469T31.30 246aT31.31",
    "246bT31.32 246cT31.33 246dT31.34 246eT31.35 246fT31.36 2470T31.37 2471T31.38 2472T31.39",
    "2473T32.30 2474T28.31.29 2475T28.32.29 2476T28.33.29 2477T28.34.29 2478T28.35.29 2479T28.36.29",
    "247aT28.37.29 247bT28.38.29 247cT28.39.29 247dT28.31.30.29 247eT28.31.31.29 247fT28.31.32.29",
    "2480T28.31.33.29 2481T28.31.34.29 2482T28.31.35.29 2483T28.31.36.29 2484T28.31.37.29",
    "2485T28.31.38.29 2486T28.31.39.29 2487T28.32.30.29 2488D 249cT28.61.29 249dT28.62.29",
    "249eT28.63.29 249fT28.64.29 24a0T28.65.29 24a1T28.66.29 24a2T28.67.29 24a3T28.68.29",
    "24a4T28.69.29 24a5T28.6a.29 24a6T28.6b.29 24a7T28.6c.29 24a8T28.6d.29 24a9T28.6e.29",
    "24aaT28.6f.29 24abT28.70.29 24acT28.71.29 24adT28.72.29 24aeT28.73.29 24afT28.74.29",
    "24b0T28.75.29 24b1T28.76.29 24b2T28.77.29 24b3T28.78.29 24b4T28.79.29 24b5T28.7a.29 24b6S-2455",
    "24d0S-246f 24eaS-24ba 24ebV 2a0cT222b.222b.222b.222b 2a0dV 2a74T3a.3a.3d 2a75T3d.3d",
    "2a76T3d.3d.3d 2a77V 2adcT2add.338 2addV 2b74D 2b76V 2c00S30 2c30V 2c60S1 2c61V 2c62S-29f7",
    "2c63S-ee6 2c64S-29e7 2c65V 2c67A1 2c6dS-2a1c 2c6eS-29fd 2c6fS-2a1f 2c70S-2a1e 2c71V 2c72S1",
    "2c73V 2c75S1 2c76V 2c7cS-2c12 2c7dS-2c07 2c7eS-2a3f 2c80A1 2ce4V 2cebA1 2cefV 2cf2S1 2cf3V",
    "2cf4D 2cf9V 2d26D 2d27V 2d28D 2d2dV 2d2eD 2d30V 2d68D 2d6fS-e 2d70V 2d71D 2d7fV 2d97D 2da0V",
    "2da7D 2da8V 2dafD 2db0V 2db7D 2db8V 2dbfD 2dc0V 2dc7D 2dc8V 2dcfD 2dd0V 2dd7D 2dd8V 2ddfD",
    "2de0V 2e5eD 2e80V 2e9aD 2e9bV 2e9fS3d2e 2ea0V 2ef3S70ac 2ef4D 2f00S1f00 2f01S1f27 2f02S1f34",
    "2f03S1f3c 2f04S1f55 2f05S1f80 2f06S1f86 2f07S1f99 2f08S1fb2 2f09S2236 2f0aS225b 2f0bS2260",
    "2f0cS2276 2f0dS2289 2f0eS229d 2f0fS22d1 2f10S22e5 2f11S22ef 2f12S2389 2f13S23e6 2f14S2401",
    "2f15S2405 2f16S2422 2f17S242a 2f18S2444 2f19S2450 2f1aS2468 2f1bS249b 2f1cS24ac 2f1dS24c6",
    "2f1eS27b9 2f1fS2800 2f20S29cb 2f21S29e1 2f22S29e8 2f23S29f2 2f24S2a03 2f25S2a4e 2f26S2c2a",
    "2f27S2c59 2f28S2cd0 2f29S2ce6 2f2aS2cf8 2f2bS2d0d 2f2cS2d42 2f2dS2d44 2f2eS2ead 2f2fS2eb6",
    "2f30S2ec1 2f31S2ecd 2f32S2f40 2f33S2f47 2f34S2f4b 2f35S2fbf 2f36S2fc8 2f37S2fd4 2f38S2fdb",
    "2f39S3017 2f3aS3027 2f3bS3038 2f3cS3087 2f3dS32cb 2f3eS32f8 2f3fS330c 2f40S35ef 2f41S35f3",
    "2f42S3645 2f43S3654 2f44S3660 2f45S3674 2f46S369a 2f47S369e 2f48S37a8 2f49S37bf 2f4aS37de",
    "2f4bS3bd5 2f4cS3c16 2f4dS3c2c 2f4eS3c65 2f4fS3c7c 2f50S3c84 2f51S3c8a 2f52S3cbd 2f53S3cc1",
    "2f54S3ce0 2f55S4116 2f56S42d4 2f57S42df 2f58S42e3 2f59S42e6 2f5aS42ed 2f5bS42fe 2f5cS42ff",
    "2f5dS434f 2f5eS4426 2f5fS442a 2f60S457c 2f61S4585 2f62S45b6 2f63S45bc 2f64S45c4 2f65S45cb",
    "2f66S4625 2f67S462b 2f68S470e 2f69S4714 2f6aS4744 2f6bS4754 2f6cS4782 2f6dS486e 2f6eS4874",
    "2f6fS4884 2f70S49ca 2f71S4a47 2f72S4a4c 2f73S4b01 2f74S4b57 2f75S4b84 2f76S4cfd 2f77S4d81",
    "2f78S4fbe 2f79S4fd8 2f7aS5010 2f7bS5042 2f7cS5085 2f7dS508f 2f7eS5094 2f7fS50b4 2f80S50ff",
    "2f81S5108 2f82S5261 2f83S5267 2f84S526f 2f85S5277 2f86S5286 2f87S5294 2f88S5297 2f89S52e5",
    "2f8aS52e8 2f8bS52ed 2f8cS56c1 2f8dS56de 2f8eS58b2 2f8fS58bd 2f90S58d3 2f91S59ed 2f92S59f9",
    "2f93S5a3f 2f94S5a6c 2f95S5ca2 2f96S5cb0 2f97S5cbe 2f98S5ce0 2f99S5d04 2f9aS5dca 2f9bS5dd5",
    "2f9cS5e17 2f9dS5f0e 2f9eS5f2c 2f9fS5ffc 2fa0S6010 2fa1S6014 2fa2S60ef 2fa3S61a6 2fa4S6222",
    "2fa5S6227 2fa6S622b 2fa7S65d0 2fa8S65d8 2fa9S6673 2faaS670c 2fabS670e 2facS673c 2fadS67a4",
    "2faeS67b0 2fafS67b3 2fb0S67b9 2fb1S681a 2fb2S683b 2fb3S6840 2fb4S684d 2fb5S68f3 2fb6S6925",
    "2fb7S6928 2fb8S69de 2fb9S69e0 2fbaS69f2 2fbbS6aed 2fbcS6b1c 2fbdS6b22 2fbeS6b67 2fbfS6b70",
    "2fc0S6b72 2fc1S6b7b 2fc2S6b98 2fc3S6d22 2fc4S6eb1 2fc5S6eba 2fc6S6edf 2fc7S6ef4 2fc8S6efb",
    "2fc9S6f04 2fcaS6f07 2fcbS6f2e 2fccS6f31 2fcdS6f41 2fceS6f45 2fcfS6f51 2fd0S6f6b 2fd1S6f79",
    "2fd2S6f80 2fd3S6fba 2fd4S6fc8 2fd5S6fcb 2fd6D 3000S-2fe0 3001V 3002S-2fd4 3003V 3036S-24 3037V",
    "3038S2309 3039S230b 303bV 3040D 3041V 3097D 3099V 309bT20.3099 309cT20.309a 309dV",
    "309fT3088.308a 30a0V 30ffT30b3.30c8 3100D 3105V 3130D 3131S-2031 3133S-1f89 3134S-2032",
    "3135S-1f89 3137S-2034 313aS-1f8a 3140S-2026 3141S-203b 3144S-2023 3145S-203c 314fS-1fee 3164I",
    "3165S-2051 3167S-1fa0 3169S-1f9d 316aS-1f9c 316bS-1f98 316cS-1f95 316dS-1f94 316eS-2052",
    "316fS-1f92 3170S-1f91 3171S-2054 3173S-2053 3174S-2052 3176S-204f 3177S-204e 3178S-204d",
    "317dS-204b 317eS-2048 317fS-203f 3180S-2039 3181S-2035 3182S-1f91 3184S-202d 3187S-2003",
    "3189S-2001 318aS-1ff9 318cS-1ff8 318dS-1fef 318eS-1fed 318fD 3190V 3192S1c6e 3193S1cf9",
    "3194S1c75 3195S2546 3196S1c74 3197S1c96 3198S1c73 3199S4399 319aS1cbf 319bS1c7e 319cS1c65",
    "319dS278c 319eS2592 319fS1d1b 31a0V 31e6D 31f0V 3200T28.1100.29 3201T28.1102.29",
    "3202T28.1103.29 3203T28.1105.29 3204T28.1106.29 3205T28.1107.29 3206T28.1109.29",
    "3207T28.110b.29 3208T28.110c.29 3209T28.110e.29 320aT28.110f.29 320bT28.1110.29",
    "320cT28.1111.29 320dT28.1112.29 320eT28.ac00.29 320fT28.b098.29 3210T28.b2e4.29",
    "3211T28.b77c.29 3212T28.b9c8.29 3213T28.bc14.29 3214T28.c0ac.29 3215T28.c544.29",
    "3216T28.c790.29 3217T28.cc28.29 3218T28.ce74.29 3219T28.d0c0.29 321aT28.d30c.29",
    "321bT28.d558.29 321cT28.c8fc.29 321dT28.c624.c804.29 321eT28.c624.d6c4.29 321fD",
    "3220T28.4e00.29 3221T28.4e8c.29 3222T28.4e09.29 3223T28.56db.29 3224T28.4e94.29",
    "3225T28.516d.29 3226T28.4e03.29 3227T28.516b.29 3228T28.4e5d.29 3229T28.5341.29",
    "322aT28.6708.29 322bT28.706b.29 322cT28.6c34.29 322dT28.6728.29 322eT28.91d1.29",
    "322fT28.571f.29 3230T28.65e5.29 3231T28.682a.29 3232T28.6709.29 3233T28.793e.29",
    "3234T28.540d.29 3235T28.7279.29 3236T28.8ca1.29 3237T28.795d.29 3238T28.52b4.29",
    "3239T28.4ee3.29 323aT28.547c.29 323bT28.5b66.29 323cT28.76e3.29 323dT28.4f01.29",
    "323eT28.8cc7.29 323fT28.5354.29 3240T28.796d.29 3241T28.4f11.29 3242T28.81ea.29",
    "3243T28.81f3.29 3244S230b 3245S2c37 3246S3341 3247S4948 3248V 3250T70.74.65 3251T32.31",
    "3252T32.32 3253T32.33 3254T32.34 3255T32.35 3256T32.36 3257T32.37 3258T32.38 3259T32.39",
    "325aT33.30 325bT33.31 325cT33.32 325dT33.33 325eT33.34 325fT33.35 3260S-2160 3261S-215f",
    "3263S-215e 3266S-215d 3267S-215c 3269S-215b 326eS7992 326fS7e29 3270S8074 3271S850b 3272S8756",
    "3273S89a1 3274S8e38 3275S92cf 3276S951a 3277S99b1 3278S9bfc 3279S9e47 327aSa092 327bSa2dd",
    "327cTcc38.ace0 327dTc8fc.c758 327eS9432 327fV 3280S1b80 3281S1c0b 3282S1b87 3283S2458",
    "3284S1c10 3285S1ee8 3286S1b7d 3287S1ee4 3288S1bd5 3289S20b8 328aS347e 328bS3de0 328cS39a8",
    "328dS349b 328eS5f43 328fS2490 3290S3355 3291S3599 3292S3477 3293S46ab 3294S2179 3295S3fe4",
    "3296S5a0b 3297S46c6 3298S201c 3299S473f 329aS429d 329bS26d8 329cS5dcd 329dS1e8d 329eS20d2",
    "329fS3a49 32a0S6565 32a1S1c70 32a2S1ef7 32a3S38c0 32a4S1b66 32a5S1b88 32a6S1b65 32a7S2b3f",
    "32a8S214b 32a9S2092 32aaS28ed 32abS28bb 32acS4437 32adS1c54 32aeS5a19 32afS20a5 32b0S266c",
    "32b1T33.36 32b2T33.37 32b3T33.38 32b4T33.39 32b5T34.30 32b6T34.31 32b7T34.32 32b8T34.33",
    "32b9T34.34 32baT34.35 32bbT34.36 32bcT34.37 32bdT34.38 32beT34.39 32bfT35.30 32c0T31.6708",
    "32c1T32.6708 32c2T33.6708 32c3T34.6708 32c4T35.6708 32c5T36.6708 32c6T37.6708 32c7T38.6708",
    "32c8T39.6708 32c9T31.30.6708 32caT31.31.6708 32cbT31.32.6708 32ccT68.67 32cdT65.72.67",
    "32ceT65.76 32cfT6c.74.64 32d0S-22e 32d1S-22d 32d2S-22c 32d3S-22b 32d4S-22a 32d6S-229 32d7S-228",
    "32d8S-227 32d9S-226 32daS-225 32dbS-224 32dcS-223 32ddS-222 32deS-221 32dfS-220 32e0S-21f",
    "32e1S-21d 32e2S-21c 32e3S-21b 32e4S-21a 32eaS-218 32ebS-216 32ecS-214 32edS-212 32eeS-210",
    "32f3S-20f 32f4S-20e 32f5S-20d 32fbS-20c 32ffT4ee4.548c 3300T30a2.30d1.30fc.30c8",
    "3301T30a2.30eb.30d5.30a1 3302T30a2.30f3.30da.30a2 3303T30a2.30fc.30eb 3304T30a4.30cb.30f3.30b0",
    "3305T30a4.30f3.30c1 3306T30a6.30a9.30f3 3307T30a8.30b9.30af.30fc.30c9 3308T30a8.30fc.30ab.30fc",
    "3309T30aa.30f3.30b9 330aT30aa.30fc.30e0 330bT30ab.30a4.30ea 330cT30ab.30e9.30c3.30c8",
    "330dT30ab.30ed.30ea.30fc 330eT30ac.30ed.30f3 330fT30ac.30f3.30de 3310T30ae.30ac",
    "3311T30ae.30cb.30fc 3312T30ad.30e5.30ea.30fc 3313T30ae.30eb.30c0.30fc 3314T30ad.30ed",
    "3315T30ad.30ed.30b0.30e9.30e0 3316T30ad.30ed.30e1.30fc.30c8.30eb 3317T30ad.30ed.30ef.30c3.30c8",
    "3318T30b0.30e9.30e0 3319T30b0.30e9.30e0.30c8.30f3 331aT30af.30eb.30bc.30a4.30ed",
    "331bT30af.30ed.30fc.30cd 331cT30b1.30fc.30b9 331dT30b3.30eb.30ca 331eT30b3.30fc.30dd",
    "331fT30b5.30a4.30af.30eb 3320T30b5.30f3.30c1.30fc.30e0 3321T30b7.30ea.30f3.30b0",
    "3322T30bb.30f3.30c1 3323T30bb.30f3.30c8 3324T30c0.30fc.30b9 3325T30c7.30b7 3326T30c9.30eb",
    "3327T30c8.30f3 3328T30ca.30ce 3329T30ce.30c3.30c8 332aT30cf.30a4.30c4",
    "332bT30d1.30fc.30bb.30f3.30c8 332cT30d1.30fc.30c4 332dT30d0.30fc.30ec.30eb",
    "332eT30d4.30a2.30b9.30c8.30eb 332fT30d4.30af.30eb 3330T30d4.30b3 3331T30d3.30eb",
    "3332T30d5.30a1.30e9.30c3.30c9 3333T30d5.30a3.30fc.30c8 3334T30d6.30c3.30b7.30a7.30eb",
    "3335T30d5.30e9.30f3 3336T30d8.30af.30bf.30fc.30eb 3337T30da.30bd 3338T30da.30cb.30d2",
    "3339T30d8.30eb.30c4 333aT30da.30f3.30b9 333bT30da.30fc.30b8 333cT30d9.30fc.30bf",
    "333dT30dd.30a4.30f3.30c8 333eT30dc.30eb.30c8 333fT30db.30f3 3340T30dd.30f3.30c9",
    "3341T30db.30fc.30eb 3342T30db.30fc.30f3 3343T30de.30a4.30af.30ed 3344T30de.30a4.30eb",
    "3345T30de.30c3.30cf 3346T30de.30eb.30af 3347T30de.30f3.30b7.30e7.30f3 3348T30df.30af.30ed.30f3",
    "3349T30df.30ea 334aT30df.30ea.30d0.30fc.30eb 334bT30e1.30ac 334cT30e1.30ac.30c8.30f3",
    "334dT30e1.30fc.30c8.30eb 334eT30e4.30fc.30c9 334fT30e4.30fc.30eb 3350T30e6.30a2.30f3",
    "3351T30ea.30c3.30c8.30eb 3352T30ea.30e9 3353T30eb.30d4.30fc 3354T30eb.30fc.30d6.30eb",
    "3355T30ec.30e0 3356T30ec.30f3.30c8.30b2.30f3 3357T30ef.30c3.30c8 3358T30.70b9 3359T31.70b9",
    "335aT32.70b9 335bT33.70b9 335cT34.70b9 335dT35.70b9 335eT36.70b9 335fT37.70b9 3360T38.70b9",
    "3361T39.70b9 3362T31.30.70b9 3363T31.31.70b9 3364T31.32.70b9 3365T31.33.70b9 3366T31.34.70b9",
    "3367T31.35.70b9 3368T31.36.70b9 3369T31.37.70b9 336aT31.38.70b9 336bT31.39.70b9",
    "336cT32.30.70b9 336dT32.31.70b9 336eT32.32.70b9 336fT32.33.70b9 3370T32.34.70b9 3371T68.70.61",
    "3372T64.61 3373T61.75 3374T62.61.72 3375T6f.76 3376T70.63 3377T64.6d 3378T64.6d.32",
    "3379T64.6d.33 337aT69.75 337bT5e73.6210 337cT662d.548c 337dT5927.6b63 337eT660e.6cbb",
    "337fT682a.5f0f.4f1a.793e 3380T70.61 3381T6e.61 3382T3bc.61 3383T6d.61 3384T6b.61 3385T6b.62",
    "3386T6d.62 3387T67.62 3388T63.61.6c 3389T6b.63.61.6c 338aT70.66 338bT6e.66 338cT3bc.66",
    "338dT3bc.67 338eT6d.67 338fT6b.67 3390T68.7a 3391T6b.68.7a 3392T6d.68.7a 3393T67.68.7a",
    "3394T74.68.7a 3395T3bc.6c 3396T6d.6c 3397T64.6c 3398T6b.6c 3399T66.6d 339aT6e.6d 339bT3bc.6d",
    "339cT6d.6d 339dT63.6d 339eT6b.6d 339fT6d.6d.32 33a0T63.6d.32 33a1T6d.32 33a2T6b.6d.32",
    "33a3T6d.6d.33 33a4T63.6d.33 33a5T6d.33 33a6T6b.6d.33 33a7T6d.2215.73 33a8T6d.2215.73.32",
    "33a9T70.61 33aaT6b.70.61 33abT6d.70.61 33acT67.70.61 33adT72.61.64 33aeT72.61.64.2215.73",
    "33afT72.61.64.2215.73.32 33b0T70.73 33b1T6e.73 33b2T3bc.73 33b3T6d.73 33b4T70.76 33b5T6e.76",
    "33b6T3bc.76 33b7T6d.76 33b8T6b.76 33b9T6d.76 33baT70.77 33bbT6e.77 33bcT3bc.77 33bdT6d.77",
    "33beT6b.77 33bfT6d.77 33c0T6b.3c9 33c1T6d.3c9 33c2D 33c3T62.71 33c4T63.63 33c5T63.64",
    "33c6T63.2215.6b.67 33c7D 33c8T64.62 33c9T67.79 33caT68.61 33cbT68.70 33ccT69.6e 33cdT6b.6b",
    "33ceT6b.6d 33cfT6b.74 33d0T6c.6d 33d1T6c.6e 33d2T6c.6f.67 33d3T6c.78 33d4T6d.62 33d5T6d.69.6c",
    "33d6T6d.6f.6c 33d7T70.68 33d8D 33d9T70.70.6d 33daT70.72 33dbT73.72 33dcT73.76 33ddT77.62",
    "33deT76.2215.6d 33dfT61.2215.6d 33e0T31.65e5 33e1T32.65e5 33e2T33.65e5 33e3T34.65e5",
    "33e4T35.65e5 33e5T36.65e5 33e6T37.65e5 33e7T38.65e5 33e8T39.65e5 33e9T31.30.65e5",
    "33eaT31.31.65e5 33ebT31.32.65e5 33ecT31.33.65e5 33edT31.34.65e5 33eeT31.35.65e5",
    "33efT31.36.65e5 33f0T31.37.65e5 33f1T31.38.65e5 33f2T31.39.65e5 33f3T32.30.65e5",
    "33f4T32.31.65e5 33f5T32.32.65e5 33f6T32.33.65e5 33f7T32.34.65e5 33f8T32.35.65e5",
    "33f9T32.36.65e5 33faT32.37.65e5 33fbT32.38.65e5 33fcT32.39.65e5 33fdT33.30.65e5",
    "33feT33.31.65e5 33ffT67.61.6c 3400V a48dD a490V a4c7D a4d0V a62cD a640A1 a66eV a680A1",
    "a69cS-a252 a69dS-a251 a69eV a6f8D a700V a722A1 a730V a732A1 a770S-1 a771V a779A1 a77dS-8a04",
    "a77eA1 a788V a78bS1 a78cV a78dS-a528 a78eV a790A1 a794V a796A1 a7aaS-a544 a7abS-a54f",
    "a7acS-a54b a7adS-a541 a7aeS-a544 a7afV a7b0S-a512 a7b1S-a52a a7b2S-a515 a7b3S3a0 a7b4A1",
    "a7c4S-30 a7c5S-a543 a7c6S-8a38 a7c7A1 a7cbS-a567 a7ccA1 a7dcS-a641 a7ddD a7f1S-a77e a7f2S-a78f",
    "a7f3S-a78d a7f4S-a783 a7f5S1 a7f6V a7f8S-a6d1 a7f9S-a6a6 a7faV a82dD a830V a83aD a840V a878D",
    "a880V a8c6D a8ceV a8daD a8e0V a954D a95fV a97dD a980V a9ceD a9cfV a9daD a9deV a9ffD aa00V",
    "aa37D aa40V aa4eD aa50V aa5aD aa5cV aac3D aadbV aaf7D ab01V ab07D ab09V ab0fD ab11V ab17D",
    "ab20V ab27D ab28V ab2fD ab30V ab5cS-435 ab5dS-26 ab5eS-a8f3 ab5fS-d ab60V ab69S-a8dc ab6aV",
    "ab6cD ab70S-97d0 abc0V abeeD abf0V abfaD ac00V d7a4D d7b0V d7c7D d7cbV d7fcD f900S-6cb8",
    "f901S-920d f902S-6a38 f903S-6c3b f904S-8a33 f905S-aad3 f906S-a521 f907S-596b f908S-596c",
    "f909S-9fb8 f90aS-6739 f90bS-a384 f90cS-9fc4 f90dS-9717 f90eS-82a5 f90fS-798a f910S-72d1",
    "f911S-7157 f912S-701a f913S-6884 f914S-8f12 f915S-8bfa f916S-883d f917S-8539 f918S-74db",
    "f919S-67af f91aS-5f29 f91bS-aa99 f91cS-a5a7 f91dS-8e19 f91eS-8703 f91fS-72f2 f920S-5b02",
    "f921S-9bd1 f922S-8937 f923S-7356 f924S-6fc0 f925S-965c f926S-774e f927S-7108 f928S-9a5e",
    "f929S-9212 f92aS-8bc0 f92bS-862f f92cS-685e f92dS-a9a7 f92eS-a777 f92fS-a651 f930S-946c",
    "f931S-8e5e f932S-8722 f933S-824c f934S-7933 f935S-732f f936S-72da f937S-6b48 f938S-6206",
    "f939S-5dca f93aS-5b40 f93bS-80af f93cS-7fbd f93dS-7b9d f93eS-7575 f93fS-663b f940S-5ac1",
    "f941S-6e6b f942S-a063 f943S-9a3f f944S-7ce4 f945S-78c7 f946S-86e4 f947S-807d f948S-6c86",
    "f949S-6252 f94aS-a072 f94bS-9ce9 f94cS-8f39 f94dS-8b73 f94eS-8a3f f94fS-7c20 f950S-7b19",
    "f951S-6306 f952S-a680 f953S-78c8 f954S-a778 f955S-a789 f956S-7f3a f957S-7b99 f958S-7567",
    "f959S-62e4 f95aS-6dda f95bS-968c f95cS-8f5a f95dS-6e5f f95eS-ab25 f95fS-9d78 f960S-994e",
    "f961S-85da f962S-83f2 f963S-a64c f964S-8069 f965S-a9a6 f966S-99bd f967S-ab5a f968S-8c9c",
    "f969S-93f1 f96aS-7c48 f96bS-a5a8 f96cS-a10e f96dS-826c f96eS-7525 f96fS-6ec5 f970S-8db6",
    "f971S-69c1 f972S-8cea f973S-9675 f974S-768f f975S-95d5 f976S-8411 f977S-aac9 f978S-a80f",
    "f979S-a7b0 f97aS-90f9 f97bS-7c94 f97cS-770d f97dS-6eab f97eS-67af f97fS-a68a f980S-a53e",
    "f981S-a00e f982S-9a96 f983S-93be f984S-8986 f985S-805b f986S-63d9 f987S-5f1d f988S-5af1",
    "f989S-5abb f98aS-a6ef f98bS-92c5 f98cS-8e15 f98dS-6a2b f98eS-9b1a f98fS-97ff f990S-9790",
    "f991S-94f7 f992S-8a6f f993S-884a f994S-850b f995S-7fcb f996S-7ba2 f997S-7928 f998S-6a72",
    "f999S-74ab f99aS-6977 f99bS-6651 f99cS-a785 f99dS-a6fa f99eS-a4e1 f99fS-88d7 f9a0S-70de",
    "f9a1S-6ef7 f9a2S-9ad9 f9a3S-99ae f9a4S-9629 f9a5S-8df7 f9a6S-7d68 f9a7S-8632 f9a8S-aac4",
    "f9a9S-a2b0 f9aaS-9dc3 f9abS-9bf1 f9acS-9990 f9adS-85fb f9aeS-8545 f9afS-7a15 f9b0S-796a",
    "f9b1S-677d f9b2S-62bc f9b3S-626b f9b4S-619c f9b5S-aa2a f9b6S-8008 f9b7S-6803 f9b8S-6300",
    "f9b9S-98d8 f9baS-ab34 f9bbS-a8e1 f9bcS-9dce f9bdS-9d7e f9beS-9425 f9bfS-8fbd f9c0S-87f2",
    "f9c1S-837f f9c2S-74c6 f9c3S-6947 f9c4S-5a37 f9c5S-933d f9c6S-6398 f9c7S-a73e f9c8S-924d",
    "f9c9S-91d6 f9caS-8c89 f9cbS-8b2f f9ccS-85c3 f9cdS-8474 f9ceS-8163 f9cfS-7cbf f9d0S-6172",
    "f9d1S-a864 f9d2S-97a4 f9d3S-635b f9d4S-a9a9 f9d5S-9cbc f9d6S-8bec f9d7S-6aad f9d8S-9a4d",
    "f9d9S-9895 f9daS-91c3 f9dbS-8654 f9dcS-6356 f9ddS-a7b4 f9deS-a5cf f9dfS-9d7a f9e0S-93cd",
    "f9e1S-9293 f9e2S-913a f9e3S-8cfe f9e4S-85de f9e5S-8403 f9e6S-7a6d f9e7S-7118 f9e8S-7107",
    "f9e9S-681d f9eaS-6308 f9ebS-a6ac f9ecS-8b32 f9edS-a5d0 f9eeS-881e f9efS-8557 f9f0S-73f6",
    "f9f1S-634e f9f2S-5d9b f9f3S-5b54 f9f4S-925d f9f5S-8c2a f9f6S-780e f9f7S-7f2c f9f8S-7ed8",
    "f9f9S-7d67 f9faS-873a f9fbS-8962 f9fcS-6ea4 f9fdS-ab3d f9feS-76c8 f9ffS-a7c5 fa00S-a7f9",
    "fa01S-9b5b fa02S-972f fa03S-7d2d fa04S-9e7f fa05S-8ce7 fa06S-9352 fa07S-6acc fa08S-71bc",
    "fa09S-63bc fa0aS-707f fa0bS-9b38 fa0cS-a8cc fa0dS-a44d fa0eV fa10S-a1b6 fa11V fa12S-939e fa13V",
    "fa15S-a837 fa16S-86ec fa17S-834d fa18S-80dc fa19S-80bb fa1aS-80b5 fa1bS-808c fa1cS-62c6",
    "fa1dS-7d5f fa1eS-7a61 fa1fV fa20S-740e fa21V fa22S-6f2a fa23V fa25S-69ed fa26S-6929 fa27V",
    "fa2aS-613b fa2bS-612f fa2cS-6104 fa2dS-5c79 fa2eS-6950 fa2fS-6378 fa30S-aa82 fa31S-a94a",
    "fa32S-a8e5 fa33S-a76a fa34S-a750 fa35S-a6e4 fa36S-a499 fa37S-a431 fa38S-a3d0 fa39S-a1f9",
    "fa3aS-a192 fa3bS-9dd7 fa3cS-9dce fa3dS-99a9 fa3eS-98d6 fa3fS-98b1 fa40S-984e fa41S-94f2",
    "fa42S-9460 fa43S-93b2 fa44S-91bf fa45S-8cce fa46S-8c2c fa47S-8b25 fa48S-88da fa49S-881e",
    "fa4aS-8628 fa4bS-81ba fa4cS-810e fa4dS-8104 fa4eS-8106 fa4fS-80ff fa50S-80fa fa51S-80f4",
    "fa52S-80c5 fa54S-8014 fa55S-7fd4 fa56S-7e96 fa57S-7c63 fa58S-7c4f fa59S-7c18 fa5aS-7ae8",
    "fa5bS-7a56 fa5cS-786f fa5dS-77e4 fa5eS-77e5 fa5fS-7608 fa60S-7150 fa61S-70cb fa62S-6f61",
    "fa63S-6f2a fa64S-6d91 fa65S-6d5d fa66S-6ab0 fa67S-6a2f fa68S-6385 fa69S-626a fa6aS-622f",
    "fa6bS-99f6 fa6cS14882 fa6dS-7855 fa6eD fa70S-ac4a fa71S-a8bc fa72S-a90a fa73S-aaf3 fa74S-a92f",
    "fa75S-a8f5 fa76S-a7af fa77S-a77d fa78S-a4db fa79S-a524 fa7aS-a4e1 fa7bS-a499 fa7cS-a222",
    "fa7dS-a1ca fa7eS-a13a fa7fS-a12b fa80S-a01e fa81S-9f59 fa82S-9bb0 fa83S-9baa fa84S-9b1b",
    "fa85S-9ad8 fa86S-99ae fa87S-9939 fa88S-9980 fa89S-98fb fa8aS-992a fa8bS-9899 fa8cS-9858",
    "fa8dS-96c9 fa8eS-9672 fa8fS-963d fa90S-953a fa91S-941d fa92S-937b fa93S-9378 fa94S-933e",
    "fa95S-8f1c fa96S-8edc fa97S-8d56 fa98S-8bbd fa99S-8bce fa9aS-8b78 fa9bS-8a7d fa9cS-892e",
    "fa9dS-82f6 fa9eS-8869 fa9fS-87f0 faa0S-8776 faa1S-8630 faa2S-859c faa3S-8568 faa4S-8487",
    "faa5S-8486 faa6S-83dc faa7S-83cc faa8S-83b4 faa9S-835f faaaS-836a faabS-81df faacS-7ffb",
    "faadS-7eed faaeS-7e33 faafS-7d54 fab0S-7cbc fab1S-7b73 fab2S-7aad fab3S-7761 fab4S-76c5",
    "fab5S-733c fab6S-7175 fab7S-7131 fab8S-7122 fab9S-6ffa fabaS-6fc2 fabbS-6ff0 fabcS-6fbb",
    "fabdS-6fbf fabeS-6fd1 fabfS-6f86 fac0S-6f36 fac1S-6db9 fac2S-6b8a fac3S-6a51 fac4S-692b",
    "fac5S-684f fac6S-644a fac7S-63e4 fac8S-6372 fac9S-62ee facaS-62cb facbS-62c0 faccS-6291",
    "facdS-5fbb faceS-5b32 facfS12d7b fad0S12d74 fad1S13904 fad2S-bf35 fad3S-babb fad4S-ba9b",
    "fad5S15774 fad6S161fa fad7S183fc fad8S-5b95 fad9S-5b4b fadaD fb00T66.66 fb01T66.69 fb02T66.6c",
    "fb03T66.66.69 fb04T66.66.6c fb05T73.74 fb06T73.74 fb07D fb13T574.576 fb14T574.565 fb15T574.56b",
    "fb16T57e.576 fb17T574.56d fb18D fb1dT5d9.5b4 fb1eV fb1fT5f2.5b7 fb20S-f53e fb21S-f551",
    "fb22S-f54f fb24S-f549 fb27S-f53f fb28S-f53e fb29S-fafe fb2aT5e9.5c1 fb2bT5e9.5c2",
    "fb2cT5e9.5bc.5c1 fb2dT5e9.5bc.5c2 fb2eT5d0.5b7 fb2fT5d0.5b8 fb30T5d0.5bc fb31T5d1.5bc",
    "fb32T5d2.5bc fb33T5d3.5bc fb34T5d4.5bc fb35T5d5.5bc fb36T5d6.5bc fb37D fb38T5d8.5bc",
    "fb39T5d9.5bc fb3aT5da.5bc fb3bT5db.5bc fb3cT5dc.5bc fb3dD fb3eT5de.5bc fb3fD fb40T5e0.5bc",
    "fb41T5e1.5bc fb42D fb43T5e3.5bc fb44T5e4.5bc fb45D fb46T5e6.5bc fb47T5e7.5bc fb48T5e8.5bc",
    "fb49T5e9.5bc fb4aT5ea.5bc fb4bT5d5.5b9 fb4cT5d1.5bf fb4dT5db.5bf fb4eT5e4.5bf fb4fT5d0.5dc",
    "fb50S-f4df fb51S-f4e0 fb52S-f4d7 fb53S-f4d8 fb54S-f4d9 fb55S-f4da fb56S-f4d8 fb57S-f4d9",
    "fb58S-f4da fb59S-f4db fb5aS-f4da fb5bS-f4db fb5cS-f4dc fb5dS-f4dd fb5eS-f4e4 fb5fS-f4e5",
    "fb60S-f4e6 fb61S-f4e7 fb62S-f4e3 fb63S-f4e4 fb64S-f4e5 fb65S-f4e6 fb66S-f4ed fb67S-f4ee",
    "fb68S-f4ef fb69S-f4f0 fb6aS-f4c6 fb6bS-f4c7 fb6cS-f4c8 fb6dS-f4c9 fb6eS-f4c8 fb6fS-f4c9",
    "fb70S-f4ca fb71S-f4cb fb72S-f4ee fb73S-f4ef fb74S-f4f0 fb75S-f4f1 fb76S-f4f3 fb77S-f4f4",
    "fb78S-f4f5 fb79S-f4f6 fb7aS-f4f4 fb7bS-f4f5 fb7cS-f4f6 fb7dS-f4f7 fb7fS-f4f8 fb80S-f4f9",
    "fb81S-f4fa fb82S-f4f5 fb83S-f4f6 fb84S-f4f8 fb85S-f4f9 fb86S-f4f8 fb87S-f4f9 fb88S-f500",
    "fb89S-f501 fb8aS-f4f2 fb8bS-f4f3 fb8cS-f4fb fb8dS-f4fc fb8eS-f4e5 fb8fS-f4e6 fb90S-f4e7",
    "fb91S-f4e8 fb92S-f4e3 fb93S-f4e4 fb94S-f4e5 fb95S-f4e6 fb96S-f4e3 fb97S-f4e4 fb98S-f4e5",
    "fb99S-f4e6 fb9aS-f4e9 fb9bS-f4ea fb9cS-f4eb fb9dS-f4ec fb9eS-f4e4 fb9fS-f4e5 fba1S-f4e6",
    "fba2S-f4e7 fba3S-f4e8 fba4S-f4e4 fba5S-f4e5 fba7S-f4e6 fba8S-f4e7 fba9S-f4e8 fbaaS-f4ec",
    "fbabS-f4ed fbacS-f4ee fbadS-f4ef fbaeS-f4dc fbafS-f4dd fbb1S-f4de fbb2V fbd3S-f526 fbd4S-f527",
    "fbd5S-f528 fbd6S-f529 fbd7S-f510 fbd8S-f511 fbd9S-f513 fbdaS-f514 fbdbS-f513 fbdcS-f514",
    "fbddT6c7.674 fbdeS-f513 fbdfS-f514 fbe0S-f51b fbe1S-f51c fbe2S-f519 fbe3S-f51a fbe4S-f514",
    "fbe5S-f515 fbe6S-f516 fbe7S-f517 fbe8S-f59f fbe9S-f5a0 fbeaT626.627 fbebT626.627 fbecT626.6d5",
    "fbedT626.6d5 fbeeT626.648 fbefT626.648 fbf0T626.6c7 fbf1T626.6c7 fbf2T626.6c6 fbf3T626.6c6",
    "fbf4T626.6c8 fbf5T626.6c8 fbf6T626.6d0 fbf7T626.6d0 fbf8T626.6d0 fbf9T626.649 fbfaT626.649",
    "fbfbT626.649 fbfcS-f530 fbfdS-f531 fbfeS-f532 fbffS-f533 fc00T626.62c fc01T626.62d",
    "fc02T626.645 fc03T626.649 fc04T626.64a fc05T628.62c fc06T628.62d fc07T628.62e fc08T628.645",
    "fc09T628.649 fc0aT628.64a fc0bT62a.62c fc0cT62a.62d fc0dT62a.62e fc0eT62a.645 fc0fT62a.649",
    "fc10T62a.64a fc11T62b.62c fc12T62b.645 fc13T62b.649 fc14T62b.64a fc15T62c.62d fc16T62c.645",
    "fc17T62d.62c fc18T62d.645 fc19T62e.62c fc1aT62e.62d fc1bT62e.645 fc1cT633.62c fc1dT633.62d",
    "fc1eT633.62e fc1fT633.645 fc20T635.62d fc21T635.645 fc22T636.62c fc23T636.62d fc24T636.62e",
    "fc25T636.645 fc26T637.62d fc27T637.645 fc28T638.645 fc29T639.62c fc2aT639.645 fc2bT63a.62c",
    "fc2cT63a.645 fc2dT641.62c fc2eT641.62d fc2fT641.62e fc30T641.645 fc31T641.649 fc32T641.64a",
    "fc33T642.62d fc34T642.645 fc35T642.649 fc36T642.64a fc37T643.627 fc38T643.62c fc39T643.62d",
    "fc3aT643.62e fc3bT643.644 fc3cT643.645 fc3dT643.649 fc3eT643.64a fc3fT644.62c fc40T644.62d",
    "fc41T644.62e fc42T644.645 fc43T644.649 fc44T644.64a fc45T645.62c fc46T645.62d fc47T645.62e",
    "fc48T645.645 fc49T645.649 fc4aT645.64a fc4bT646.62c fc4cT646.62d fc4dT646.62e fc4eT646.645",
    "fc4fT646.649 fc50T646.64a fc51T647.62c fc52T647.645 fc53T647.649 fc54T647.64a fc55T64a.62c",
    "fc56T64a.62d fc57T64a.62e fc58T64a.645 fc59T64a.649 fc5aT64a.64a fc5bT630.670 fc5cT631.670",
    "fc5dT649.670 fc5eT20.64c.651 fc5fT20.64d.651 fc60T20.64e.651 fc61T20.64f.651 fc62T20.650.651",
    "fc63T20.651.670 fc64T626.631 fc65T626.632 fc66T626.645 fc67T626.646 fc68T626.649 fc69T626.64a",
    "fc6aT628.631 fc6bT628.632 fc6cT628.645 fc6dT628.646 fc6eT628.649 fc6fT628.64a fc70T62a.631",
    "fc71T62a.632 fc72T62a.645 fc73T62a.646 fc74T62a.649 fc75T62a.64a fc76T62b.631 fc77T62b.632",
    "fc78T62b.645 fc79T62b.646 fc7aT62b.649 fc7bT62b.64a fc7cT641.649 fc7dT641.64a fc7eT642.649",
    "fc7fT642.64a fc80T643.627 fc81T643.644 fc82T643.645 fc83T643.649 fc84T643.64a fc85T644.645",
    "fc86T644.649 fc87T644.64a fc88T645.627 fc89T645.645 fc8aT646.631 fc8bT646.632 fc8cT646.645",
    "fc8dT646.646 fc8eT646.649 fc8fT646.64a fc90T649.670 fc91T64a.631 fc92T64a.632 fc93T64a.645",
    "fc94T64a.646 fc95T64a.649 fc96T64a.64a fc97T626.62c fc98T626.62d fc99T626.62e fc9aT626.645",
    "fc9bT626.647 fc9cT628.62c fc9dT628.62d fc9eT628.62e fc9fT628.645 fca0T628.647 fca1T62a.62c",
    "fca2T62a.62d fca3T62a.62e fca4T62a.645 fca5T62a.647 fca6T62b.645 fca7T62c.62d fca8T62c.645",
    "fca9T62d.62c fcaaT62d.645 fcabT62e.62c fcacT62e.645 fcadT633.62c fcaeT633.62d fcafT633.62e",
    "fcb0T633.645 fcb1T635.62d fcb2T635.62e fcb3T635.645 fcb4T636.62c fcb5T636.62d fcb6T636.62e",
    "fcb7T636.645 fcb8T637.62d fcb9T638.645 fcbaT639.62c fcbbT639.645 fcbcT63a.62c fcbdT63a.645",
    "fcbeT641.62c fcbfT641.62d fcc0T641.62e fcc1T641.645 fcc2T642.62d fcc3T642.645 fcc4T643.62c",
    "fcc5T643.62d fcc6T643.62e fcc7T643.644 fcc8T643.645 fcc9T644.62c fccaT644.62d fccbT644.62e",
    "fcccT644.645 fccdT644.647 fcceT645.62c fccfT645.62d fcd0T645.62e fcd1T645.645 fcd2T646.62c",
    "fcd3T646.62d fcd4T646.62e fcd5T646.645 fcd6T646.647 fcd7T647.62c fcd8T647.645 fcd9T647.670",
    "fcdaT64a.62c fcdbT64a.62d fcdcT64a.62e fcddT64a.645 fcdeT64a.647 fcdfT626.645 fce0T626.647",
    "fce1T628.645 fce2T628.647 fce3T62a.645 fce4T62a.647 fce5T62b.645 fce6T62b.647 fce7T633.645",
    "fce8T633.647 fce9T634.645 fceaT634.647 fcebT643.644 fcecT643.645 fcedT644.645 fceeT646.645",
    "fcefT646.647 fcf0T64a.645 fcf1T64a.647 fcf2T640.64e.651 fcf3T640.64f.651 fcf4T640.650.651",
    "fcf5T637.649 fcf6T637.64a fcf7T639.649 fcf8T639.64a fcf9T63a.649 fcfaT63a.64a fcfbT633.649",
    "fcfcT633.64a fcfdT634.649 fcfeT634.64a fcffT62d.649 fd00T62d.64a fd01T62c.649 fd02T62c.64a",
    "fd03T62e.649 fd04T62e.64a fd05T635.649 fd06T635.64a fd07T636.649 fd08T636.64a fd09T634.62c",
    "fd0aT634.62d fd0bT634.62e fd0cT634.645 fd0dT634.631 fd0eT633.631 fd0fT635.631 fd10T636.631",
    "fd11T637.649 fd12T637.64a fd13T639.649 fd14T639.64a fd15T63a.649 fd16T63a.64a fd17T633.649",
    "fd18T633.64a fd19T634.649 fd1aT634.64a fd1bT62d.649 fd1cT62d.64a fd1dT62c.649 fd1eT62c.64a",
    "fd1fT62e.649 fd20T62e.64a fd21T635.649 fd22T635.64a fd23T636.649 fd24T636.64a fd25T634.62c",
    "fd26T634.62d fd27T634.62e fd28T634.645 fd29T634.631 fd2aT633.631 fd2bT635.631 fd2cT636.631",
    "fd2dT634.62c fd2eT634.62d fd2fT634.62e fd30T634.645 fd31T633.647 fd32T634.647 fd33T637.645",
    "fd34T633.62c fd35T633.62d fd36T633.62e fd37T634.62c fd38T634.62d fd39T634.62e fd3aT637.645",
    "fd3bT638.645 fd3cT627.64b fd3dT627.64b fd3eV fd50T62a.62c.645 fd51T62a.62d.62c",
    "fd52T62a.62d.62c fd53T62a.62d.645 fd54T62a.62e.645 fd55T62a.645.62c fd56T62a.645.62d",
    "fd57T62a.645.62e fd58T62c.645.62d fd59T62c.645.62d fd5aT62d.645.64a fd5bT62d.645.649",
    "fd5cT633.62d.62c fd5dT633.62c.62d fd5eT633.62c.649 fd5fT633.645.62d fd60T633.645.62d",
    "fd61T633.645.62c fd62T633.645.645 fd63T633.645.645 fd64T635.62d.62d fd65T635.62d.62d",
    "fd66T635.645.645 fd67T634.62d.645 fd68T634.62d.645 fd69T634.62c.64a fd6aT634.645.62e",
    "fd6bT634.645.62e fd6cT634.645.645 fd6dT634.645.645 fd6eT636.62d.649 fd6fT636.62e.645",
    "fd70T636.62e.645 fd71T637.645.62d fd72T637.645.62d fd73T637.645.645 fd74T637.645.64a",
    "fd75T639.62c.645 fd76T639.645.645 fd77T639.645.645 fd78T639.645.649 fd79T63a.645.645",
    "fd7aT63a.645.64a fd7bT63a.645.649 fd7cT641.62e.645 fd7dT641.62e.645 fd7eT642.645.62d",
    "fd7fT642.645.645 fd80T644.62d.645 fd81T644.62d.64a fd82T644.62d.649 fd83T644.62c.62c",
    "fd84T644.62c.62c fd85T644.62e.645 fd86T644.62e.645 fd87T644.645.62d fd88T644.645.62d",
    "fd89T645.62d.62c fd8aT645.62d.645 fd8bT645.62d.64a fd8cT645.62c.62d fd8dT645.62c.645",
    "fd8eT645.62e.62c fd8fT645.62e.645 fd90V fd92T645.62c.62e fd93T647.645.62c fd94T647.645.645",
    "fd95T646.62d.645 fd96T646.62d.649 fd97T646.62c.645 fd98T646.62c.645 fd99T646.62c.649",
    "fd9aT646.645.64a fd9bT646.645.649 fd9cT64a.645.645 fd9dT64a.645.645 fd9eT628.62e.64a",
    "fd9fT62a.62c.64a fda0T62a.62c.649 fda1T62a.62e.64a fda2T62a.62e.649 fda3T62a.645.64a",
    "fda4T62a.645.649 fda5T62c.645.64a fda6T62c.62d.649 fda7T62c.645.649 fda8T633.62e.649",
    "fda9T635.62d.64a fdaaT634.62d.64a fdabT636.62d.64a fdacT644.62c.64a fdadT644.645.64a",
    "fdaeT64a.62d.64a fdafT64a.62c.64a fdb0T64a.645.64a fdb1T645.645.64a fdb2T642.645.64a",
    "fdb3T646.62d.64a fdb4T642.645.62d fdb5T644.62d.645 fdb6T639.645.64a fdb7T643.645.64a",
    "fdb8T646.62c.62d fdb9T645.62e.64a fdbaT644.62c.645 fdbbT643.645.645 fdbcT644.62c.645",
    "fdbdT646.62c.62d fdbeT62c.62d.64a fdbfT62d.62c.64a fdc0T645.62c.64a fdc1T641.645.64a",
    "fdc2T628.62d.64a fdc3T643.645.645 fdc4T639.62c.645 fdc5T635.645.645 fdc6T633.62e.64a",
    "fdc7T646.62c.64a fdc8V fdd0D fdf0T635.644.6d2 fdf1T642.644.6d2 fdf2T627.644.644.647",
    "fdf3T627.643.628.631 fdf4T645.62d.645.62f fdf5T635.644.639.645 fdf6T631.633.648.644",
    "fdf7T639.644.64a.647 fdf8T648.633.644.645 fdf9T635.644.649",
    "fdfaT635.644.649.20.627.644.644.647.20.639.644.64a.647.20.648.633.644.645",
    "fdfbT62c.644.20.62c.644.627.644.647 fdfcT631.6cc.627.644 fdfdV fe00I fe10S-fde4 fe11S-ce10",
    "fe12D fe13S-fdd9 fe15S-fdf4 fe16S-fdd7 fe17S-ce01 fe19D fe20V fe30D fe31S-de1d fe32S-de1f",
    "fe33S-fdd4 fe34S-fdd5 fe35S-fe0d fe37S-fdbc fe38S-fdbb fe39S-ce25 fe3bS-ce2b fe3dS-ce33",
    "fe3fS-ce37 fe41S-ce35 fe45V fe47S-fdec fe48S-fdeb fe49T20.305 fe4aT20.305 fe4bT20.305",
    "fe4cT20.305 fe4dS-fdee fe4eS-fdef fe4fS-fdf0 fe50S-fe24 fe51S-ce50 fe52D fe54S-fe19 fe55S-fe1b",
    "fe56S-fe17 fe57S-fe36 fe58S-de44 fe59S-fe31 fe5bS-fde0 fe5cS-fddf fe5dS-ce49 fe5fS-fe3c",
    "fe60S-fe3a fe61S-fe37 fe63S-fe36 fe64S-fe28 fe65S-fe27 fe66S-fe29 fe67D fe68S-fe0c fe69S-fe45",
    "fe6bS-fe2b fe6cD fe70T20.64b fe71T640.64b fe72T20.64c fe73V fe74T20.64d fe75D fe76T20.64e",
    "fe77T640.64e fe78T20.64f fe79T640.64f fe7aT20.650 fe7bT640.650 fe7cT20.651 fe7dT640.651",
    "fe7eT20.652 fe7fT640.652 fe80S-f85f fe82S-f860 fe84S-f861 fe86S-f862 fe88S-f863 fe8aS-f864",
    "fe8bS-f865 fe8cS-f866 fe8eS-f867 fe90S-f868 fe91S-f869 fe92S-f86a fe94S-f86b fe96S-f86c",
    "fe97S-f86d fe98S-f86e fe9aS-f86f fe9bS-f870 fe9cS-f871 fe9eS-f872 fe9fS-f873 fea0S-f874",
    "fea2S-f875 fea3S-f876 fea4S-f877 fea6S-f878 fea7S-f879 fea8S-f87a feaaS-f87b feacS-f87c",
    "feaeS-f87d feb0S-f87e feb2S-f87f feb3S-f880 feb4S-f881 feb6S-f882 feb7S-f883 feb8S-f884",
    "febaS-f885 febbS-f886 febcS-f887 febeS-f888 febfS-f889 fec0S-f88a fec2S-f88b fec3S-f88c",
    "fec4S-f88d fec6S-f88e fec7S-f88f fec8S-f890 fecaS-f891 fecbS-f892 feccS-f893 feceS-f894",
    "fecfS-f895 fed0S-f896 fed1S-f890 fed2S-f891 fed3S-f892 fed4S-f893 fed6S-f894 fed7S-f895",
    "fed8S-f896 fedaS-f897 fedbS-f898 fedcS-f899 fedeS-f89a fedfS-f89b fee0S-f89c fee2S-f89d",
    "fee3S-f89e fee4S-f89f fee6S-f8a0 fee7S-f8a1 fee8S-f8a2 feeaS-f8a3 feebS-f8a4 feecS-f8a5",
    "feeeS-f8a6 fef0S-f8a7 fef2S-f8a8 fef3S-f8a9 fef4S-f8aa fef5T644.622 fef6T644.622 fef7T644.623",
    "fef8T644.623 fef9T644.625 fefaT644.625 fefbT644.627 fefcT644.627 fefdD feffI ff00D ff01S-fee0",
    "ff21S-fec0 ff3bS-fee0 ff5fS-d5da ff61S-ff33 ff62S-cf56 ff64S-cf63 ff65S-ce6a ff66S-ce74",
    "ff67S-cec6 ff68S-cec5 ff69S-cec4 ff6aS-cec3 ff6bS-cec2 ff6cS-ce89 ff6dS-ce88 ff6eS-ce87",
    "ff6fS-ceac ff70S-ce74 ff71S-cecf ff72S-cece ff73S-cecd ff74S-cecc ff75S-cecb ff77S-ceca",
    "ff78S-cec9 ff79S-cec8 ff7aS-cec7 ff7bS-cec6 ff7cS-cec5 ff7dS-cec4 ff7eS-cec3 ff7fS-cec2",
    "ff80S-cec1 ff81S-cec0 ff82S-cebe ff83S-cebd ff84S-cebc ff85S-cebb ff8bS-ceb9 ff8cS-ceb7",
    "ff8dS-ceb5 ff8eS-ceb3 ff8fS-ceb1 ff94S-ceb0 ff95S-ceaf ff96S-ceae ff9cS-cead ff9dS-ceaa",
    "ff9eS-cf05 ffa0I ffa1S-eea1 ffa3S-edf9 ffa4S-eea2 ffa5S-edf9 ffa7S-eea4 ffaaS-edfa ffb0S-ee96",
    "ffb1S-eeab ffb4S-ee93 ffb5S-eeac ffbfD ffc2S-ee61 ffc8D ffcaS-ee63 ffd0D ffd2S-ee65 ffd8D",
    "ffdaS-ee67 ffddD ffe0S-ff3e ffe2S-ff36 ffe3T20.304 ffe4S-ff3e ffe5S-ff40 ffe6S-df3d ffe7D",
    "ffe8S-dae6 ffe9S-de59 ffedS-da4d ffeeS-da23 ffefD 10000V 1000cD 1000dV 10027D 10028V 1003bD",
    "1003cV 1003eD 1003fV 1004eD 10050V 1005eD 10080V 100fbD 10100V 10103D 10107V 10134D 10137V",
    "1018fD 10190V 1019dD 101a0V 101a1D 101d0V 101feD 10280V 1029dD 102a0V 102d1D 102e0V 102fcD",
    "10300V 10324D 1032dV 1034bD 10350V 1037bD 10380V 1039eD 1039fV 103c4D 103c8V 103d6D 10400S28",
    "10428V 1049eD 104a0V 104aaD 104b0S28 104d4D 104d8V 104fcD 10500V 10528D 10530V 10564D 1056fV",
    "10570S27 1057bD 1057cS27 1058bD 1058cS27 10593D 10594S27 10596D 10597V 105a2D 105a3V 105b2D",
    "105b3V 105baD 105bbV 105bdD 105c0V 105f4D 10600V 10737D 10740V 10756D 10760V 10768D 10780V",
    "10781S-104b1 10783S-1069d 10784S-104eb 10785S-10532 10786D 10787S-104e4 10788S-5c22",
    "10789S-104e4 1078aS-104e6 1078bS-10535 1078dS-e9fc 1078eS-10536 1078fS-10531 10790S-104e7",
    "10791S-1052d 10792S-10530 10793S-10533 10794S-104f9 10795S-1066e 10796S-104fa 10797S-10530",
    "10798S-10514 10799S-104ef 1079bS-1052f 1079cSd768 1079dS-600f 1079eS-10530 1079fSd766",
    "107a0S-10512 107a1Sd765 107a2S-106aa 107a3S-1052d 107a5S-10734 107a6S-1052c 107a7Sd761",
    "107a8S-1052b 107aaS-1052a 107abS-10503 107acS-10506 107adS-5c46 107aeS-10507 107afS-10527",
    "107b0S-db3f 107b1D 107b2S-10523 107b3S-10512 107b5S-1051d 107b6S-105f6 107b9Sd751 107baSd764",
    "107bbD 10800V 10806D 10808V 10809D 1080aV 10836D 10837V 10839D 1083cV 1083dD 1083fV 10856D",
    "10857V 1089fD 108a7V 108b0D 108e0V 108f3D 108f4V 108f6D 108fbV 1091cD 1091fV 1093aD 1093fV",
    "1095aD 10980V 109b8D 109bcV 109d0D 109d2V 10a04D 10a05V 10a07D 10a0cV 10a14D 10a15V 10a18D",
    "10a19V 10a36D 10a38V 10a3bD 10a3fV 10a49D 10a50V 10a59D 10a60V 10aa0D 10ac0V 10ae7D 10aebV",
    "10af7D 10b00V 10b36D 10b39V 10b56D 10b58V 10b73D 10b78V 10b92D 10b99V 10b9dD 10ba9V 10bb0D",
    "10c00V 10c49D 10c80S40 10cb3D 10cc0V 10cf3D 10cfaV 10d28D 10d30V 10d3aD 10d40V 10d50S20 10d66D",
    "10d69V 10d86D 10d8eV 10d90D 10e60V 10e7fD 10e80V 10eaaD 10eabV 10eaeD 10eb0V 10eb2D 10ec2V",
    "10ec8D 10ed0V 10ed9D 10efaV 10f28D 10f30V 10f5aD 10f70V 10f8aD 10fb0V 10fccD 10fe0V 10ff7D",
    "11000V 1104eD 11052V 11076D 1107fV 110bdD 110beV 110c3D 110d0V 110e9D 110f0V 110faD 11100V",
    "11135D 11136V 11148D 11150V 11177D 11180V 111e0D 111e1V 111f5D 11200V 11212D 11213V 11242D",
    "11280V 11287D 11288V 11289D 1128aV 1128eD 1128fV 1129eD 1129fV 112aaD 112b0V 112ebD 112f0V",
    "112faD 11300V 11304D 11305V 1130dD 1130fV 11311D 11313V 11329D 1132aV 11331D 11332V 11334D",
    "11335V 1133aD 1133bV 11345D 11347V 11349D 1134bV 1134eD 11350V 11351D 11357V 11358D 1135dV",
    "11364D 11366V 1136dD 11370V 11375D 11380V 1138aD 1138bV 1138cD 1138eV 1138fD 11390V 113b6D",
    "113b7V 113c1D 113c2V 113c3D 113c5V 113c6D 113c7V 113cbD 113ccV 113d6D 113d7V 113d9D 113e1V",
    "113e3D 11400V 1145cD 1145dV 11462D 11480V 114c8D 114d0V 114daD 11580V 115b6D 115b8V 115deD",
    "11600V 11645D 11650V 1165aD 11660V 1166dD 11680V 116baD 116c0V 116caD 116d0V 116e4D 11700V",
    "1171bD 1171dV 1172cD 11730V 11747D 11800V 1183cD 118a0S20 118c0V 118f3D 118ffV 11907D 11909V",
    "1190aD 1190cV 11914D 11915V 11917D 11918V 11936D 11937V 11939D 1193bV 11947D 11950V 1195aD",
    "119a0V 119a8D 119aaV 119d8D 119daV 119e5D 11a00V 11a48D 11a50V 11aa3D 11ab0V 11af9D 11b00V",
    "11b0aD 11b60V 11b68D 11bc0V 11be2D 11bf0V 11bfaD 11c00V 11c09D 11c0aV 11c37D 11c38V 11c46D",
    "11c50V 11c6dD 11c70V 11c90D 11c92V 11ca8D 11ca9V 11cb7D 11d00V 11d07D 11d08V 11d0aD 11d0bV",
    "11d37D 11d3aV 11d3bD 11d3cV 11d3eD 11d3fV 11d48D 11d50V 11d5aD 11d60V 11d66D 11d67V 11d69D",
    "11d6aV 11d8fD 11d90V 11d92D 11d93V 11d99D 11da0V 11daaD 11db0V 11ddcD 11de0V 11deaD 11ee0V",
    "11ef9D 11f00V 11f11D 11f12V 11f3bD 11f3eV 11f5bD 11fb0V 11fb1D 11fc0V 11ff2D 11fffV 1239aD",
    "12400V 1246fD 12470V 12475D 12480V 12544D 12f90V 12ff3D 13000V 13430D 13440V 13456D 13460V",
    "143fbD 14400V 14647D 16100V 1613aD 16800V 16a39D 16a40V 16a5fD 16a60V 16a6aD 16a6eV 16abfD",
    "16ac0V 16acaD 16ad0V 16aeeD 16af0V 16af6D 16b00V 16b46D 16b50V 16b5aD 16b5bV 16b62D 16b63V",
    "16b78D 16b7dV 16b90D 16d40V 16d7aD 16e40S20 16e60V 16e9bD 16ea0S1b 16eb9D 16ebbV 16ed4D 16f00V",
    "16f4bD 16f4fV 16f88D 16f8fV 16fa0D 16fe0V 16fe5D 16ff0V 16ff7D 17000V 18cd6D 18cffV 18d1fD",
    "18d80V 18df3D 1aff0V 1aff4D 1aff5V 1affcD 1affdV 1afffD 1b000V 1b123D 1b132V 1b133D 1b150V",
    "1b153D 1b155V 1b156D 1b164V 1b168D 1b170V 1b2fcD 1bc00V 1bc6bD 1bc70V 1bc7dD 1bc80V 1bc89D",
    "1bc90V 1bc9aD 1bc9cV 1bca0I 1bca4D 1cc00V 1ccd6S-1cc75 1ccf0S-1ccc0 1ccfaV 1ccfdD 1cd00V",
    "1ceb4D 1cebaV 1ced1D 1cee0V 1cef1D 1cf00V 1cf2eD 1cf30V 1cf47D 1cf50V 1cfc4D 1d000V 1d0f6D",
    "1d100V 1d127D 1d129V 1d15eT1d157.1d165 1d15fT1d158.1d165 1d160T1d158.1d165.1d16e",
    "1d161T1d158.1d165.1d16f 1d162T1d158.1d165.1d170 1d163T1d158.1d165.1d171",
    "1d164T1d158.1d165.1d172 1d165V 1d173I 1d17bV 1d1bbT1d1b9.1d165 1d1bcT1d1ba.1d165",
    "1d1bdT1d1b9.1d165.1d16e 1d1beT1d1ba.1d165.1d16e 1d1bfT1d1b9.1d165.1d16f",
    "1d1c0T1d1ba.1d165.1d16f 1d1c1V 1d1ebD 1d200V 1d246D 1d2c0V 1d2d4D 1d2e0V 1d2f4D 1d300V 1d357D",
    "1d360V 1d379D 1d400S-1d39f 1d41aS-1d3b9 1d434S-1d3d3 1d44eS-1d3ed 1d455D 1d456S-1d3ed",
    "1d468S-1d407 1d482S-1d421 1d49cS-1d43b 1d49dD 1d49eS-1d43b 1d4a0D 1d4a2S-1d43b 1d4a3D",
    "1d4a5S-1d43b 1d4a7D 1d4a9S-1d43b 1d4adD 1d4aeS-1d43b 1d4b6S-1d455 1d4baD 1d4bbS-1d455 1d4bcD",
    "1d4bdS-1d455 1d4c4D 1d4c5S-1d455 1d4d0S-1d46f 1d4eaS-1d489 1d504S-1d4a3 1d506D 1d507S-1d4a3",
    "1d50bD 1d50dS-1d4a3 1d515D 1d516S-1d4a3 1d51dD 1d51eS-1d4bd 1d538S-1d4d7 1d53aD 1d53bS-1d4d7",
    "1d53fD 1d540S-1d4d7 1d545D 1d546S-1d4d7 1d547D 1d54aS-1d4d7 1d551D 1d552S-1d4f1 1d56cS-1d50b",
    "1d586S-1d525 1d5a0S-1d53f 1d5baS-1d559 1d5d4S-1d573 1d5eeS-1d58d 1d608S-1d5a7 1d622S-1d5c1",
    "1d63cS-1d5db 1d656S-1d5f5 1d670S-1d60f 1d68aS-1d629 1d6a4S-1d573 1d6a5S-1d46e 1d6a6D",
    "1d6a8S-1d2f7 1d6b9S-1d301 1d6baS-1d2f7 1d6c1S-1b4ba 1d6c2S-1d311 1d6d3S-1d310 1d6d4S-1d311",
    "1d6dbS-1b4d9 1d6dcS-1d327 1d6ddS-1d325 1d6deS-1d324 1d6dfS-1d319 1d6e0S-1d31f 1d6e1S-1d321",
    "1d6e2S-1d331 1d6f3S-1d33b 1d6f4S-1d331 1d6fbS-1b4f4 1d6fcS-1d34b 1d70dS-1d34a 1d70eS-1d34b",
    "1d715S-1b513 1d716S-1d361 1d717S-1d35f 1d718S-1d35e 1d719S-1d353 1d71aS-1d359 1d71bS-1d35b",
    "1d71cS-1d36b 1d72dS-1d375 1d72eS-1d36b 1d735S-1b52e 1d736S-1d385 1d747S-1d384 1d748S-1d385",
    "1d74fS-1b54d 1d750S-1d39b 1d751S-1d399 1d752S-1d398 1d753S-1d38d 1d754S-1d393 1d755S-1d395",
    "1d756S-1d3a5 1d767S-1d3af 1d768S-1d3a5 1d76fS-1b568 1d770S-1d3bf 1d781S-1d3be 1d782S-1d3bf",
    "1d789S-1b587 1d78aS-1d3d5 1d78bS-1d3d3 1d78cS-1d3d2 1d78dS-1d3c7 1d78eS-1d3cd 1d78fS-1d3cf",
    "1d790S-1d3df 1d7a1S-1d3e9 1d7a2S-1d3df 1d7a9S-1b5a2 1d7aaS-1d3f9 1d7bbS-1d3f8 1d7bcS-1d3f9",
    "1d7c3S-1b5c1 1d7c4S-1d40f 1d7c5S-1d40d 1d7c6S-1d40c 1d7c7S-1d401 1d7c8S-1d407 1d7c9S-1d409",
    "1d7caS-1d3ed 1d7cbS-1d3ee 1d7ccD 1d7ceS-1d79e 1d7d8S-1d7a8 1d7e2S-1d7b2 1d7ecS-1d7bc",
    "1d7f6S-1d7c6 1d800V 1da8cD 1da9bV 1daa0D 1daa1V 1dab0D 1df00V 1df1fD 1df25V 1df2bD 1e000V",
    "1e007D 1e008V 1e019D 1e01bV 1e022D 1e023V 1e025D 1e026V 1e02bD 1e030S-1dc00 1e039S-1dbff",
    "1e03cS-1dbfe 1e047S-1dbfc 1e048S-1dbfb 1e04aS-139c1 1e04bS-1db72 1e04cS-1dbf6 1e04dS-1dbf5",
    "1e04eS-1db65 1e04fS-1dba0 1e050S-1db81 1e051S-1dc21 1e05aS-1dc20 1e05cS-1dc1e 1e05eS-1dc1d",
    "1e05fS-1dc1c 1e065S-1dc1b 1e067S-1dbd6 1e068S-1dc12 1e069S-1dc14 1e06aS-1dc0b 1e06bS-1dbc0",
    "1e06cS-13a1b 1e06dS-1dbbc 1e06eD 1e08fV 1e090D 1e100V 1e12dD 1e130V 1e13eD 1e140V 1e14aD",
    "1e14eV 1e150D 1e290V 1e2afD 1e2c0V 1e2faD 1e2ffV 1e300D 1e4d0V 1e4faD 1e5d0V 1e5fbD 1e5ffV",
    "1e600D 1e6c0V 1e6dfD 1e6e0V 1e6f6D 1e6feV 1e700D 1e7e0V 1e7e7D 1e7e8V 1e7ecD 1e7edV 1e7efD",
    "1e7f0V 1e7ffD 1e800V 1e8c5D 1e8c7V 1e8d7D 1e900S22 1e922V 1e94cD 1e950V 1e95aD 1e95eV 1e960D",
    "1ec71V 1ecb5D 1ed01V 1ed3eD 1ee00S-1e7d9 1ee02S-1e7d6 1ee03S-1e7d4 1ee04D 1ee05S-1e7bd",
    "1ee06S-1e7d4 1ee07S-1e7da 1ee08S-1e7d1 1ee09S-1e7bf 1ee0aS-1e7c7 1ee0eS-1e7db 1ee0fS-1e7d6",
    "1ee10S-1e7cf 1ee11S-1e7dc 1ee12S-1e7d0 1ee13S-1e7e2 1ee14S-1e7e0 1ee15S-1e7eb 1ee17S-1e7e9",
    "1ee18S-1e7e8 1ee19S-1e7e3 1ee1aS-1e7e2 1ee1bS-1e7e1 1ee1cS-1e7ae 1ee1dS-1e763 1ee1eS-1e77d",
    "1ee1fS-1e7b0 1ee20D 1ee21S-1e7f9 1ee22S-1e7f6 1ee23D 1ee24S-1e7dd 1ee25D 1ee27S-1e7fa 1ee28D",
    "1ee29S-1e7df 1ee2aS-1e7e7 1ee2eS-1e7fb 1ee2fS-1e7f6 1ee30S-1e7ef 1ee31S-1e7fc 1ee32S-1e7f0",
    "1ee33D 1ee34S-1e800 1ee35S-1e80b 1ee37S-1e809 1ee38D 1ee39S-1e803 1ee3aD 1ee3bS-1e801 1ee3cD",
    "1ee42S-1e816 1ee43D 1ee47S-1e81a 1ee48D 1ee49S-1e7ff 1ee4aD 1ee4bS-1e807 1ee4cD 1ee4dS-1e807",
    "1ee4eS-1e81b 1ee4fS-1e816 1ee50D 1ee51S-1e81c 1ee52S-1e810 1ee53D 1ee54S-1e820 1ee55D",
    "1ee57S-1e829 1ee58D 1ee59S-1e823 1ee5aD 1ee5bS-1e821 1ee5cD 1ee5dS-1e7a3 1ee5eD 1ee5fS-1e7f0",
    "1ee60D 1ee61S-1e839 1ee62S-1e836 1ee63D 1ee64S-1e81d 1ee65D 1ee67S-1e83a 1ee68S-1e831",
    "1ee69S-1e81f 1ee6aS-1e827 1ee6bD 1ee6cS-1e827 1ee6eS-1e83b 1ee6fS-1e836 1ee70S-1e82f",
    "1ee71S-1e83c 1ee72S-1e830 1ee73D 1ee74S-1e840 1ee75S-1e84b 1ee77S-1e849 1ee78D 1ee79S-1e843",
    "1ee7aS-1e842 1ee7bS-1e841 1ee7cS-1e80e 1ee7dD 1ee7eS-1e7dd 1ee7fD 1ee80S-1e859 1ee82S-1e856",
    "1ee83S-1e854 1ee84S-1e83d 1ee86S-1e854 1ee87S-1e85a 1ee88S-1e851 1ee89S-1e83f 1ee8aD",
    "1ee8bS-1e847 1ee8eS-1e85b 1ee8fS-1e856 1ee90S-1e84f 1ee91S-1e85c 1ee92S-1e850 1ee93S-1e862",
    "1ee94S-1e860 1ee95S-1e86b 1ee97S-1e869 1ee98S-1e868 1ee99S-1e863 1ee9aS-1e862 1ee9bS-1e861",
    "1ee9cD 1eea1S-1e879 1eea2S-1e876 1eea3S-1e874 1eea4D 1eea5S-1e85d 1eea6S-1e874 1eea7S-1e87a",
    "1eea8S-1e871 1eea9S-1e85f 1eeaaD 1eeabS-1e867 1eeaeS-1e87b 1eeafS-1e876 1eeb0S-1e86f",
    "1eeb1S-1e87c 1eeb2S-1e870 1eeb3S-1e882 1eeb4S-1e880 1eeb5S-1e88b 1eeb7S-1e889 1eeb8S-1e888",
    "1eeb9S-1e883 1eebaS-1e882 1eebbS-1e881 1eebcD 1eef0V 1eef2D 1f000V 1f02cD 1f030V 1f094D 1f0a0V",
    "1f0afD 1f0b1V 1f0c0D 1f0c1V 1f0d0D 1f0d1V 1f0f6D 1f101T30.2c 1f102T31.2c 1f103T32.2c",
    "1f104T33.2c 1f105T34.2c 1f106T35.2c 1f107T36.2c 1f108T37.2c 1f109T38.2c 1f10aT39.2c 1f10bV",
    "1f110T28.61.29 1f111T28.62.29 1f112T28.63.29 1f113T28.64.29 1f114T28.65.29 1f115T28.66.29",
    "1f116T28.67.29 1f117T28.68.29 1f118T28.69.29 1f119T28.6a.29 1f11aT28.6b.29 1f11bT28.6c.29",
    "1f11cT28.6d.29 1f11dT28.6e.29 1f11eT28.6f.29 1f11fT28.70.29 1f120T28.71.29 1f121T28.72.29",
    "1f122T28.73.29 1f123T28.74.29 1f124T28.75.29 1f125T28.76.29 1f126T28.77.29 1f127T28.78.29",
    "1f128T28.79.29 1f129T28.7a.29 1f12aT3014.73.3015 1f12bS-1f0c8 1f12cS-1f0ba 1f12dT63.64",
    "1f12eT77.7a 1f12fV 1f130S-1f0cf 1f14aT68.76 1f14bT6d.76 1f14cT73.64 1f14dT73.73 1f14eT70.70.76",
    "1f14fT77.63 1f150V 1f16aT6d.63 1f16bT6d.64 1f16cT6d.72 1f16dV 1f190T64.6a 1f191V 1f1aeD 1f1e6V",
    "1f200T307b.304b 1f201T30b3.30b3 1f202S-1c14d 1f203D 1f210S-18fc5 1f211S-196ba 1f212S-19e46",
    "1f213S-1c14c 1f214S-1a388 1f215S-198fb 1f216S-16833 1f217S-198ee 1f218S-1a374 1f219S-18bf9",
    "1f21aS-180f9 1f21bS-18c82 1f21cS-19fcf 1f21dS-19291 1f21eS-1a091 1f21fS-18c6f 1f220S-1a003",
    "1f221S-174df 1f222S-17d03 1f223S-1657a 1f224S-19934 1f225S-19dec 1f226S-18312 1f227S-18f92",
    "1f228S-18ed3 1f229S-1a429 1f22aS-1a421 1f22bS-161e1 1f22cS-19446 1f22dS-1a400 1f22eS-19e3b",
    "1f22fS-18f28 1f230S-164c0 1f231S-18fde 1f232S-178b1 1f233S-177b9 1f234S-19e2c 1f235S-183b5",
    "1f236S-18b2d 1f237S-18b2f 1f238S-17d05 1f239S-19fc7 1f23aS-19c84 1f23bS-160ee 1f23cD",
    "1f240T3014.672c.3015 1f241T3014.4e09.3015 1f242T3014.4e8c.3015 1f243T3014.5b89.3015",
    "1f244T3014.70b9.3015 1f245T3014.6253.3015 1f246T3014.76d7.3015 1f247T3014.52dd.3015",
    "1f248T3014.6557.3015 1f249D 1f250S-192b9 1f251S-19e62 1f252D 1f260V 1f266D 1f300V 1f6d9D",
    "1f6dcV 1f6edD 1f6f0V 1f6fdD 1f700V 1f7daD 1f7e0V 1f7ecD 1f7f0V 1f7f1D 1f800V 1f80cD 1f810V",
    "1f848D 1f850V 1f85aD 1f860V 1f888D 1f890V 1f8aeD 1f8b0V 1f8bcD 1f8c0V 1f8c2D 1f8d0V 1f8d9D",
    "1f900V 1fa58D 1fa60V 1fa6eD 1fa70V 1fa7dD 1fa80V 1fa8bD 1fa8eV 1fac7D 1fac8V 1fac9D 1facdV",
    "1faddD 1fadfV 1faebD 1faefV 1faf9D 1fb00V 1fb93D 1fb94V 1fbf0S-1fbc0 1fbfaV 1fbfbD 20000V",
    "2a6e0D 2a700V 2b81eD 2b820V 2ceaeD 2ceb0V 2ebe1D 2ebf0V 2ee5eD 2f800S-2a9c3 2f801S-2a9c9",
    "2f802S-2a9c1 2f803S-f6e1 2f804S-2a8a4 2f805S-2a857 2f806S-2a84b 2f807S-2a805 2f808S-2a78e",
    "2f809S-2a770 2f80aS-2a723 2f80bS-2a73c 2f80cS-2c36e 2f80dS-f1d3 2f80eS-2a6c1 2f80fS-2a6bb",
    "2f810S-2a6ac 2f811S-2a69a 2f812S-f2f6 2f813S-2c35a 2f814S-2a6ad 2f815S-2a688 2f816S-f2cb",
    "2f817S-2a680 2f818S-2a674 2f819S-2a94d 2f81aS-2a66e 2f81bS-2a666 2f81cS-663d 2f81dS-2a628",
    "2f81eS-2a61b 2f81fS-2c340 2f820S-2a5e5 2f821S-2a5db 2f822S-2a5b0 2f823S-2a5ac 2f824S-2c30f",
    "2f825S-2a55e 2f826S-2a55d 2f827S-2a543 2f828S-2a52e 2f829S-2a524 2f82bS-2a514 2f82cS-2a4e3",
    "2f82dS-2a4dc 2f82eS-2a4d4 2f82fS-2a4bc 2f830S-2a4b3 2f831S-2a4b2 2f832S-2a4b3 2f833S-2a4b4",
    "2f834S-ee08 2f835S-287c5 2f836S-2a46c 2f837S-2a458 2f838S-ecd5 2f839S-2a44e 2f83aS-2a449",
    "2f83bS-2a435 2f83cS-2a39e 2f83dS-2a405 2f83eS-2a3f6 2f83fS-2a3d7 2f840S-2a39e 2f841S-2a34b",
    "2f842S-2a332 2f843S-2a2f0 2f844S-2a2e1 2f845S-2a2c1 2f846S-2a2c2 2f847S-2a2ae 2f848S-2a29d",
    "2f849S-2a296 2f84aS-2a288 2f84bS-2a135 2f84cS-2a246 2f84dS-2a136 2f84eS-2a1fd 2f84fS-2a1db",
    "2f850S-2a649 2f851S-29f63 2f852S-2a084 2f853S-2a05f 2f854S-2a047 2f855S-2a0ca 2f856S-2a024",
    "2f857S-2a026 2f858S-29fac 2f859S-e375 2f85aS-29f68 2f85bS-29f64 2f85cS-29f56 2f85dS-29f43",
    "2f85eS-29f3c 2f85fS-29efd 2f860S-e1b8 2f861S-e177 2f862S-29e76 2f863S-29e48 2f864S-29e3d",
    "2f865S-29e8d 2f866S-29e00 2f867S-2c179 2f868S-2c16c 2f869S-29d61 2f86aS-29d2c 2f86bS-29d2d",
    "2f86cS-dea4 2f86dS-29caa 2f86eS-29c96 2f86fS-29c88 2f870S-29c7d 2f871S-dd59 2f872S-29c73",
    "2f873S-29c6d 2f874S-29921 2f875S-29c53 2f876S-2c0f5 2f877S-29c17 2f878S-29c0a 2f879S-29bb9",
    "2f87aS-29bed 2f87bS-da97 2f87cS-29b39 2f87dS-da97 2f87eS-29b10 2f87fS-29b14 2f880S-29b04",
    "2f881S-29aa0 2f883S-2c054 2f884S-29a87 2f885S-29a5d 2f886S-29a49 2f887S-29a1e 2f888S-2c026",
    "2f889S-d706 2f88aS-2c00e 2f88bS-299db 2f88cS-299d9 2f88dS-299d7 2f88eS-299c4 2f88fS-54fd",
    "2f890S-29992 2f891S-d560 2f892S-d561 2f893S-27692 2f894S-29972 2f895S-29973 2f896S-2bfcf",
    "2f897S-c5df 2f898S-96be 2f899S-29937 2f89aS-2992f 2f89bS-2bfb8 2f89cS-29902 2f89dS-298d0",
    "2f89eS-298c7 2f89fS-298a6 2f8a0S-2981f 2f8a1S-2bf67 2f8a2S-2bf86 2f8a3S-2980f 2f8a4S-d1d0",
    "2f8a5S-297de 2f8a6S-2975e 2f8a7S-2975b 2f8a8S-2975a 2f8a9S-2975d 2f8aaS-29730 2f8abS-2971d",
    "2f8acS-296fa 2f8adS-29709 2f8aeS-296ff 2f8afS-296d1 2f8b0S-296be 2f8b1S-296bb 2f8b2S-296a2",
    "2f8b3S-29698 2f8b4S-29657 2f8b5S-29604 2f8b6S-295e2 2f8b7S-29567 2f8b8S-cdac 2f8b9S-2957c",
    "2f8baS-295be 2f8bbS-29553 2f8bcS-29539 2f8bdS-294d9 2f8beS-cccd 2f8bfS-2949d 2f8c0S-294fb",
    "2f8c1S-29518 2f8c2S-2be94 2f8c3S-2945a 2f8c4S-29446 2f8c5S-29428 2f8c6S-2944f 2f8c7S-2be5b",
    "2f8c8S-29379 2f8c9S-2935d 2f8caS-c8c0 2f8cbS-292e8 2f8ccS-291d4 2f8cdS-29284 2f8ceS-2bdb5",
    "2f8cfS-2923e 2f8d0S-2bdc8 2f8d1S-2bded 2f8d2S-2a740 2f8d3S-2a73e 2f8d4S-291d4 2f8d5S-29239",
    "2f8d6S-27829 2f8d7S-2b4fe 2f8d8S-291c1 2f8d9S-291be 2f8daS-291b9 2f8dbS-2917d 2f8dcS-29189",
    "2f8ddS-c51a 2f8deS-2bd95 2f8dfS-290e5 2f8e0S-2915b 2f8e1S-2908f 2f8e2S-2905d 2f8e3S-c476",
    "2f8e4S-29056 2f8e5S-290c6 2f8e6S-28fd2 2f8e7S-2bd4a 2f8e8S-28fa6 2f8e9S-28f46 2f8eaS-28f00",
    "2f8ebS-28e43 2f8ecS-c249 2f8edS-28e12 2f8eeS-2bcd6 2f8efS-28dce 2f8f0S-c049 2f8f1S-28d9d",
    "2f8f2S-2bca4 2f8f3S-28d81 2f8f4S-28d55 2f8f5S-28d3b 2f8f7S-be6a 2f8f8S-dbed 2f8f9S-bdff",
    "2f8faS-28cac 2f8fbS-bc3f 2f8fcS-28c3d 2f8fdS-28c30 2f8feS-28c97 2f8ffS-28be9 2f900S-28bc2",
    "2f901S-28b8a 2f902S-28bc1 2f903S-28b9a 2f904S-28b8c 2f905S-28b80 2f906S-bbe8 2f907S-28bd3",
    "2f908S-28ad9 2f909S-28a9b 2f90aS-2bbd7 2f90bS-28a40 2f90cS-28a45 2f90dS-ba3c 2f90eS-28b15",
    "2f90fS-289a1 2f910S-b9b2 2f911S-b983 2f912S-2894c 2f913S-288da 2f914S-288f6 2f915S-288fa",
    "2f916S-2bb80 2f917S-288cd 2f918S-2889b 2f919S-288a2 2f91aS-2886d 2f91bS-f3f6 2f91cS-287d7",
    "2f91dS-b6ba 2f91eS-28782 2f91fS-b574 2f920S-286f8 2f921S-286ec 2f922S-286d2 2f923S-b31b",
    "2f924S-286a4 2f925S-28690 2f926S-b1f1 2f927S-b113 2f928S-285ae 2f929S-2859e 2f92aS-2ba7e",
    "2f92bS-28586 2f92cS-2ba74 2f92dS-2ba75 2f92eS-284e7 2f92fS-284d3 2f930S-284bf 2f931S-284ac",
    "2f932S-28468 2f933S-2ba18 2f934S-28410 2f935S-acff 2f936S-283f8 2f937S-aca5 2f938S-283c8",
    "2f939S-d79a 2f93aS-2832a 2f93bS-a99a 2f93cS-a984 2f93dS-a8f9 2f93eS-2b942 2f93fS-2b937",
    "2f940S-2824c 2f941S-a84e 2f942S-a850 2f943S-a82a 2f944S-a811 2f945S-28227 2f947S-28228",
    "2f948S-281fe 2f949S-2b910 2f94aS-281bf 2f94bS-2b905 2f94cS-2b8b6 2f94dS-a530 2f94eS-28100",
    "2f94fS-280c3 2f950S-28084 2f951S-2b86e 2f952S-a32c 2f953S-27ffd 2f954S-a2ba 2f955S-a290",
    "2f956S-27fc7 2f957S-27f6c 2f958S-2b829 2f959S-27f19 2f95aS-27f10 2f95bS-27f0c 2f95cS-9fe0",
    "2f95dS-9eb6 2f95eS-9eb7 2f95fS-27e71 2f960S-2b75e 2f961S-9db6 2f962S-27d9c 2f963S-27d9a",
    "2f964S-2b73d 2f965S-9ce5 2f966S-27c94 2f967S-2b6c7 2f968S-27c80 2f969S-27c86 2f96aS-27c6a",
    "2f96bS-99e5 2f96cS-27c09 2f96dS-2b66c 2f96eS-27ba7 2f96fS-27b6d 2f970S-27b2b 2f971S-2b63d",
    "2f972S-974a 2f973S-972c 2f974S-2b61b 2f975S-969c 2f976S-279fc 2f977S-9639 2f978S-279e3",
    "2f979S-2797f 2f97aS-27975 2f97bS-94a1 2f97cS-9459 2f97dS-2791d 2f97eS-93d6 2f97fS-2790f",
    "2f980S-c621 2f981S-2b5ac 2f982S-278d0 2f983S-27880 2f984S-2b579 2f985S-27847 2f986S-29ed1",
    "2f987S-91e0 2f988S-91d3 2f989S-c5f6 2f98aS-c5ee 2f98bS-2778a 2f98cS-27788 2f98dS-269ef",
    "2f98eS-2b523 2f98fS-276fe 2f990S-27705 2f991S-276f4 2f992S-2a6df 2f993S-276e2 2f994S-276e1",
    "2f995S-276d8 2f996S-276b0 2f997S-8e5b 2f998S-276b3 2f999S-2767c 2f99aS-27637 2f99bS-275ee",
    "2f99cS-27679 2f99dS-275e0 2f99eS-275b7 2f99fS-27548 2f9a0S-2764d 2f9a1S-275d7 2f9a2S-275d6",
    "2f9a3S-275c7 2f9a4S-8d6e 2f9a5S-8c3a 2f9a6S-8cd1 2f9a7S-2b47c 2f9a8S-274b7 2f9a9S-274b6",
    "2f9aaS-27494 2f9abS-85e1 2f9acS-27448 2f9adS-8a81 2f9aeS-2b451 2f9afS-2b44e 2f9b0S-89ff",
    "2f9b1S-88df 2f9b2S-2b447 2f9b3S-27363 2f9b4S-27358 2f9b5S-2734e 2f9b6S-2734d 2f9b7S-2730e",
    "2f9b8S-27330 2f9b9S-272ab 2f9baS-272d8 2f9bbS-27242 2f9bcS-27294 2f9bdS-27252 2f9beS-27238",
    "2f9bfS-2b3e8 2f9c0S-271df 2f9c1S-271c0 2f9c2S-2b3c9 2f9c3S-27163 2f9c4S-27161 2f9c5S-835e",
    "2f9c6S-270ef 2f9c7S-270e9 2f9c8S-2b393 2f9c9S-270cf 2f9caS-2c50f 2f9cbS-811d 2f9ccS-8066",
    "2f9cdS-2b30f 2f9ceS-2b307 2f9cfS-26f2f 2f9d0S-26ee3 2f9d1S-26e47 2f9d2S-26d7d 2f9d3S-7d2b",
    "2f9d4S-26d29 2f9d5S-26d14 2f9d6S-26cbb 2f9d7S-26c60 2f9d8S-7aa9 2f9d9S-f1d5 2f9daS-26c0f",
    "2f9dbS-26c1f 2f9dcS-26bec 2f9ddS-f0ff 2f9deS-26b0a 2f9dfS-26aa7 2f9e0S-740e 2f9e1S-73f4",
    "2f9e2S-2694e 2f9e3S-268f2 2f9e4S-268d3 2f9e5S-72b7 2f9e6S-268cb 2f9e7S-267af 2f9e8S-26711",
    "2f9eaS-2676e 2f9ebS-265f2 2f9ecS-265d7 2f9edS-6df3 2f9eeS-26463 2f9efS-2b05a 2f9f0S-26439",
    "2f9f1S-6c7a 2f9f2S-2b00c 2f9f3S-26330 2f9f4S-29c42 2f9f5S-262d2 2f9f6S-68b1 2f9f7S-67dd",
    "2f9f8S-2af8a 2f9f9S-2af83 2f9faS-2621a 2f9fbS-65f1 2f9fcS-2af4a 2f9fdS-6567 2f9feS-261f3",
    "2f9ffS-261f4 2fa00S-261d7 2fa01S-644b 2fa02S-26120 2fa03S-2aed0 2fa04S-260db 2fa05S-2605e",
    "2fa06S-26044 2fa07S-26009 2fa08S-2ae3a 2fa09S-5ed9 2fa0aS-25ef8 2fa0bS-25dcb 2fa0cS-25d0f",
    "2fa0dS-2ad3f 2fa0eS-2ad21 2fa0fS-25ca8 2fa10S-5942 2fa11S-2ad19 2fa12S-590d 2fa13S-5805",
    "2fa14S-5783 2fa15S-25b5a 2fa16S-2acc0 2fa17S-25b1e 2fa18S-25b1a 2fa19S-25b14 2fa1aS-25b0b",
    "2fa1bS-25b05 2fa1cS-25ae1 2fa1dS-541d 2fa1eD 30000V 3134bD 31350V 3347aD e0100I e01f0D"]

/-- The mapping table. -/
def mappingTable : Array (Text.Span MappingSpan) := Text.readSpans mappingTag mappingText

/-- The code point `offset` away from `cp`. -/
def offsetBy (cp : Nat) (offset : Int) : Nat := ((cp : Int) + offset).toNat

/-- What the mapping table does with a code point. -/
def idnaStatus (cp : Nat) : IdnaStatus :=
  if cp < 0x80 then
    if 0x41 ≤ cp ∧ cp ≤ 0x5A then .mapped [cp + 0x20] else .valid
  else
    match Text.spanAt? mappingTable cp with
    | some ⟨start, span⟩ =>
      match span with
      | .valid => .valid
      | .ignored => .ignored
      | .disallowed => .disallowed
      | .shift offset => .mapped [offsetBy cp offset]
      | .alternate offset =>
        if (cp - start) % 2 = 0 then .mapped [offsetBy cp offset] else .valid
      | .sequence image => .mapped image
    | none => .disallowed

end ChunkStore.Url
