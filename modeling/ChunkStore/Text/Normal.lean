import ChunkStore.Text.Properties
/-!
# Canonical composition (NFC)

A sequence of code points is put in normalization form C in three steps: every code point is
replaced by its full canonical decomposition, each run of non-starters is sorted stably by
combining class, and then each character is composed with the last starter before it when
nothing between them blocks it and the pair has a primary composite.

Hangul syllables decompose and compose by arithmetic; every other decomposition and
composition comes from the Unicode 17.0 tables below.
-/

namespace ChunkStore.Text

/-- A decomposition tag: `D` and the code points, in hex, separated by dots. -/
def decompositionTag : Char → List Char → Option (List Nat)
  | 'D', payload => some (hexSequence payload)
  | _, _ => none

/-- Full canonical decompositions, keyed by the decomposed code point. -/
def decompositionText : String :=
  " ".intercalate [
    "c0D41.300 c1D41.301 c2D41.302 c3D41.303 c4D41.308 c5D41.30a c7D43.327 c8D45.300 c9D45.301",
    "caD45.302 cbD45.308 ccD49.300 cdD49.301 ceD49.302 cfD49.308 d1D4e.303 d2D4f.300 d3D4f.301",
    "d4D4f.302 d5D4f.303 d6D4f.308 d9D55.300 daD55.301 dbD55.302 dcD55.308 ddD59.301 e0D61.300",
    "e1D61.301 e2D61.302 e3D61.303 e4D61.308 e5D61.30a e7D63.327 e8D65.300 e9D65.301 eaD65.302",
    "ebD65.308 ecD69.300 edD69.301 eeD69.302 efD69.308 f1D6e.303 f2D6f.300 f3D6f.301 f4D6f.302",
    "f5D6f.303 f6D6f.308 f9D75.300 faD75.301 fbD75.302 fcD75.308 fdD79.301 ffD79.308 100D41.304",
    "101D61.304 102D41.306 103D61.306 104D41.328 105D61.328 106D43.301 107D63.301 108D43.302",
    "109D63.302 10aD43.307 10bD63.307 10cD43.30c 10dD63.30c 10eD44.30c 10fD64.30c 112D45.304",
    "113D65.304 114D45.306 115D65.306 116D45.307 117D65.307 118D45.328 119D65.328 11aD45.30c",
    "11bD65.30c 11cD47.302 11dD67.302 11eD47.306 11fD67.306 120D47.307 121D67.307 122D47.327",
    "123D67.327 124D48.302 125D68.302 128D49.303 129D69.303 12aD49.304 12bD69.304 12cD49.306",
    "12dD69.306 12eD49.328 12fD69.328 130D49.307 134D4a.302 135D6a.302 136D4b.327 137D6b.327",
    "139D4c.301 13aD6c.301 13bD4c.327 13cD6c.327 13dD4c.30c 13eD6c.30c 143D4e.301 144D6e.301",
    "145D4e.327 146D6e.327 147D4e.30c 148D6e.30c 14cD4f.304 14dD6f.304 14eD4f.306 14fD6f.306",
    "150D4f.30b 151D6f.30b 154D52.301 155D72.301 156D52.327 157D72.327 158D52.30c 159D72.30c",
    "15aD53.301 15bD73.301 15cD53.302 15dD73.302 15eD53.327 15fD73.327 160D53.30c 161D73.30c",
    "162D54.327 163D74.327 164D54.30c 165D74.30c 168D55.303 169D75.303 16aD55.304 16bD75.304",
    "16cD55.306 16dD75.306 16eD55.30a 16fD75.30a 170D55.30b 171D75.30b 172D55.328 173D75.328",
    "174D57.302 175D77.302 176D59.302 177D79.302 178D59.308 179D5a.301 17aD7a.301 17bD5a.307",
    "17cD7a.307 17dD5a.30c 17eD7a.30c 1a0D4f.31b 1a1D6f.31b 1afD55.31b 1b0D75.31b 1cdD41.30c",
    "1ceD61.30c 1cfD49.30c 1d0D69.30c 1d1D4f.30c 1d2D6f.30c 1d3D55.30c 1d4D75.30c 1d5D55.308.304",
    "1d6D75.308.304 1d7D55.308.301 1d8D75.308.301 1d9D55.308.30c 1daD75.308.30c 1dbD55.308.300",
    "1dcD75.308.300 1deD41.308.304 1dfD61.308.304 1e0D41.307.304 1e1D61.307.304 1e2Dc6.304",
    "1e3De6.304 1e6D47.30c 1e7D67.30c 1e8D4b.30c 1e9D6b.30c 1eaD4f.328 1ebD6f.328 1ecD4f.328.304",
    "1edD6f.328.304 1eeD1b7.30c 1efD292.30c 1f0D6a.30c 1f4D47.301 1f5D67.301 1f8D4e.300 1f9D6e.300",
    "1faD41.30a.301 1fbD61.30a.301 1fcDc6.301 1fdDe6.301 1feDd8.301 1ffDf8.301 200D41.30f",
    "201D61.30f 202D41.311 203D61.311 204D45.30f 205D65.30f 206D45.311 207D65.311 208D49.30f",
    "209D69.30f 20aD49.311 20bD69.311 20cD4f.30f 20dD6f.30f 20eD4f.311 20fD6f.311 210D52.30f",
    "211D72.30f 212D52.311 213D72.311 214D55.30f 215D75.30f 216D55.311 217D75.311 218D53.326",
    "219D73.326 21aD54.326 21bD74.326 21eD48.30c 21fD68.30c 226D41.307 227D61.307 228D45.327",
    "229D65.327 22aD4f.308.304 22bD6f.308.304 22cD4f.303.304 22dD6f.303.304 22eD4f.307 22fD6f.307",
    "230D4f.307.304 231D6f.307.304 232D59.304 233D79.304 340D300 341D301 343D313 344D308.301",
    "374D2b9 37eD3b 385Da8.301 386D391.301 387Db7 388D395.301 389D397.301 38aD399.301 38cD39f.301",
    "38eD3a5.301 38fD3a9.301 390D3b9.308.301 3aaD399.308 3abD3a5.308 3acD3b1.301 3adD3b5.301",
    "3aeD3b7.301 3afD3b9.301 3b0D3c5.308.301 3caD3b9.308 3cbD3c5.308 3ccD3bf.301 3cdD3c5.301",
    "3ceD3c9.301 3d3D3d2.301 3d4D3d2.308 400D415.300 401D415.308 403D413.301 407D406.308",
    "40cD41a.301 40dD418.300 40eD423.306 419D418.306 439D438.306 450D435.300 451D435.308",
    "453D433.301 457D456.308 45cD43a.301 45dD438.300 45eD443.306 476D474.30f 477D475.30f",
    "4c1D416.306 4c2D436.306 4d0D410.306 4d1D430.306 4d2D410.308 4d3D430.308 4d6D415.306",
    "4d7D435.306 4daD4d8.308 4dbD4d9.308 4dcD416.308 4ddD436.308 4deD417.308 4dfD437.308",
    "4e2D418.304 4e3D438.304 4e4D418.308 4e5D438.308 4e6D41e.308 4e7D43e.308 4eaD4e8.308",
    "4ebD4e9.308 4ecD42d.308 4edD44d.308 4eeD423.304 4efD443.304 4f0D423.308 4f1D443.308",
    "4f2D423.30b 4f3D443.30b 4f4D427.308 4f5D447.308 4f8D42b.308 4f9D44b.308 622D627.653",
    "623D627.654 624D648.654 625D627.655 626D64a.654 6c0D6d5.654 6c2D6c1.654 6d3D6d2.654",
    "929D928.93c 931D930.93c 934D933.93c 958D915.93c 959D916.93c 95aD917.93c 95bD91c.93c",
    "95cD921.93c 95dD922.93c 95eD92b.93c 95fD92f.93c 9cbD9c7.9be 9ccD9c7.9d7 9dcD9a1.9bc",
    "9ddD9a2.9bc 9dfD9af.9bc a33Da32.a3c a36Da38.a3c a59Da16.a3c a5aDa17.a3c a5bDa1c.a3c",
    "a5eDa2b.a3c b48Db47.b56 b4bDb47.b3e b4cDb47.b57 b5cDb21.b3c b5dDb22.b3c b94Db92.bd7",
    "bcaDbc6.bbe bcbDbc7.bbe bccDbc6.bd7 c48Dc46.c56 cc0Dcbf.cd5 cc7Dcc6.cd5 cc8Dcc6.cd6",
    "ccaDcc6.cc2 ccbDcc6.cc2.cd5 d4aDd46.d3e d4bDd47.d3e d4cDd46.d57 ddaDdd9.dca ddcDdd9.dcf",
    "dddDdd9.dcf.dca ddeDdd9.ddf f43Df42.fb7 f4dDf4c.fb7 f52Df51.fb7 f57Df56.fb7 f5cDf5b.fb7",
    "f69Df40.fb5 f73Df71.f72 f75Df71.f74 f76Dfb2.f80 f78Dfb3.f80 f81Df71.f80 f93Df92.fb7",
    "f9dDf9c.fb7 fa2Dfa1.fb7 fa7Dfa6.fb7 facDfab.fb7 fb9Df90.fb5 1026D1025.102e 1b06D1b05.1b35",
    "1b08D1b07.1b35 1b0aD1b09.1b35 1b0cD1b0b.1b35 1b0eD1b0d.1b35 1b12D1b11.1b35 1b3bD1b3a.1b35",
    "1b3dD1b3c.1b35 1b40D1b3e.1b35 1b41D1b3f.1b35 1b43D1b42.1b35 1e00D41.325 1e01D61.325",
    "1e02D42.307 1e03D62.307 1e04D42.323 1e05D62.323 1e06D42.331 1e07D62.331 1e08D43.327.301",
    "1e09D63.327.301 1e0aD44.307 1e0bD64.307 1e0cD44.323 1e0dD64.323 1e0eD44.331 1e0fD64.331",
    "1e10D44.327 1e11D64.327 1e12D44.32d 1e13D64.32d 1e14D45.304.300 1e15D65.304.300",
    "1e16D45.304.301 1e17D65.304.301 1e18D45.32d 1e19D65.32d 1e1aD45.330 1e1bD65.330",
    "1e1cD45.327.306 1e1dD65.327.306 1e1eD46.307 1e1fD66.307 1e20D47.304 1e21D67.304 1e22D48.307",
    "1e23D68.307 1e24D48.323 1e25D68.323 1e26D48.308 1e27D68.308 1e28D48.327 1e29D68.327",
    "1e2aD48.32e 1e2bD68.32e 1e2cD49.330 1e2dD69.330 1e2eD49.308.301 1e2fD69.308.301 1e30D4b.301",
    "1e31D6b.301 1e32D4b.323 1e33D6b.323 1e34D4b.331 1e35D6b.331 1e36D4c.323 1e37D6c.323",
    "1e38D4c.323.304 1e39D6c.323.304 1e3aD4c.331 1e3bD6c.331 1e3cD4c.32d 1e3dD6c.32d 1e3eD4d.301",
    "1e3fD6d.301 1e40D4d.307 1e41D6d.307 1e42D4d.323 1e43D6d.323 1e44D4e.307 1e45D6e.307",
    "1e46D4e.323 1e47D6e.323 1e48D4e.331 1e49D6e.331 1e4aD4e.32d 1e4bD6e.32d 1e4cD4f.303.301",
    "1e4dD6f.303.301 1e4eD4f.303.308 1e4fD6f.303.308 1e50D4f.304.300 1e51D6f.304.300",
    "1e52D4f.304.301 1e53D6f.304.301 1e54D50.301 1e55D70.301 1e56D50.307 1e57D70.307 1e58D52.307",
    "1e59D72.307 1e5aD52.323 1e5bD72.323 1e5cD52.323.304 1e5dD72.323.304 1e5eD52.331 1e5fD72.331",
    "1e60D53.307 1e61D73.307 1e62D53.323 1e63D73.323 1e64D53.301.307 1e65D73.301.307",
    "1e66D53.30c.307 1e67D73.30c.307 1e68D53.323.307 1e69D73.323.307 1e6aD54.307 1e6bD74.307",
    "1e6cD54.323 1e6dD74.323 1e6eD54.331 1e6fD74.331 1e70D54.32d 1e71D74.32d 1e72D55.324",
    "1e73D75.324 1e74D55.330 1e75D75.330 1e76D55.32d 1e77D75.32d 1e78D55.303.301 1e79D75.303.301",
    "1e7aD55.304.308 1e7bD75.304.308 1e7cD56.303 1e7dD76.303 1e7eD56.323 1e7fD76.323 1e80D57.300",
    "1e81D77.300 1e82D57.301 1e83D77.301 1e84D57.308 1e85D77.308 1e86D57.307 1e87D77.307",
    "1e88D57.323 1e89D77.323 1e8aD58.307 1e8bD78.307 1e8cD58.308 1e8dD78.308 1e8eD59.307",
    "1e8fD79.307 1e90D5a.302 1e91D7a.302 1e92D5a.323 1e93D7a.323 1e94D5a.331 1e95D7a.331",
    "1e96D68.331 1e97D74.308 1e98D77.30a 1e99D79.30a 1e9bD17f.307 1ea0D41.323 1ea1D61.323",
    "1ea2D41.309 1ea3D61.309 1ea4D41.302.301 1ea5D61.302.301 1ea6D41.302.300 1ea7D61.302.300",
    "1ea8D41.302.309 1ea9D61.302.309 1eaaD41.302.303 1eabD61.302.303 1eacD41.323.302",
    "1eadD61.323.302 1eaeD41.306.301 1eafD61.306.301 1eb0D41.306.300 1eb1D61.306.300",
    "1eb2D41.306.309 1eb3D61.306.309 1eb4D41.306.303 1eb5D61.306.303 1eb6D41.323.306",
    "1eb7D61.323.306 1eb8D45.323 1eb9D65.323 1ebaD45.309 1ebbD65.309 1ebcD45.303 1ebdD65.303",
    "1ebeD45.302.301 1ebfD65.302.301 1ec0D45.302.300 1ec1D65.302.300 1ec2D45.302.309",
    "1ec3D65.302.309 1ec4D45.302.303 1ec5D65.302.303 1ec6D45.323.302 1ec7D65.323.302 1ec8D49.309",
    "1ec9D69.309 1ecaD49.323 1ecbD69.323 1eccD4f.323 1ecdD6f.323 1eceD4f.309 1ecfD6f.309",
    "1ed0D4f.302.301 1ed1D6f.302.301 1ed2D4f.302.300 1ed3D6f.302.300 1ed4D4f.302.309",
    "1ed5D6f.302.309 1ed6D4f.302.303 1ed7D6f.302.303 1ed8D4f.323.302 1ed9D6f.323.302",
    "1edaD4f.31b.301 1edbD6f.31b.301 1edcD4f.31b.300 1eddD6f.31b.300 1edeD4f.31b.309",
    "1edfD6f.31b.309 1ee0D4f.31b.303 1ee1D6f.31b.303 1ee2D4f.31b.323 1ee3D6f.31b.323 1ee4D55.323",
    "1ee5D75.323 1ee6D55.309 1ee7D75.309 1ee8D55.31b.301 1ee9D75.31b.301 1eeaD55.31b.300",
    "1eebD75.31b.300 1eecD55.31b.309 1eedD75.31b.309 1eeeD55.31b.303 1eefD75.31b.303",
    "1ef0D55.31b.323 1ef1D75.31b.323 1ef2D59.300 1ef3D79.300 1ef4D59.323 1ef5D79.323 1ef6D59.309",
    "1ef7D79.309 1ef8D59.303 1ef9D79.303 1f00D3b1.313 1f01D3b1.314 1f02D3b1.313.300",
    "1f03D3b1.314.300 1f04D3b1.313.301 1f05D3b1.314.301 1f06D3b1.313.342 1f07D3b1.314.342",
    "1f08D391.313 1f09D391.314 1f0aD391.313.300 1f0bD391.314.300 1f0cD391.313.301 1f0dD391.314.301",
    "1f0eD391.313.342 1f0fD391.314.342 1f10D3b5.313 1f11D3b5.314 1f12D3b5.313.300 1f13D3b5.314.300",
    "1f14D3b5.313.301 1f15D3b5.314.301 1f18D395.313 1f19D395.314 1f1aD395.313.300 1f1bD395.314.300",
    "1f1cD395.313.301 1f1dD395.314.301 1f20D3b7.313 1f21D3b7.314 1f22D3b7.313.300 1f23D3b7.314.300",
    "1f24D3b7.313.301 1f25D3b7.314.301 1f26D3b7.313.342 1f27D3b7.314.342 1f28D397.313 1f29D397.314",
    "1f2aD397.313.300 1f2bD397.314.300 1f2cD397.313.301 1f2dD397.314.301 1f2eD397.313.342",
    "1f2fD397.314.342 1f30D3b9.313 1f31D3b9.314 1f32D3b9.313.300 1f33D3b9.314.300 1f34D3b9.313.301",
    "1f35D3b9.314.301 1f36D3b9.313.342 1f37D3b9.314.342 1f38D399.313 1f39D399.314 1f3aD399.313.300",
    "1f3bD399.314.300 1f3cD399.313.301 1f3dD399.314.301 1f3eD399.313.342 1f3fD399.314.342",
    "1f40D3bf.313 1f41D3bf.314 1f42D3bf.313.300 1f43D3bf.314.300 1f44D3bf.313.301 1f45D3bf.314.301",
    "1f48D39f.313 1f49D39f.314 1f4aD39f.313.300 1f4bD39f.314.300 1f4cD39f.313.301 1f4dD39f.314.301",
    "1f50D3c5.313 1f51D3c5.314 1f52D3c5.313.300 1f53D3c5.314.300 1f54D3c5.313.301 1f55D3c5.314.301",
    "1f56D3c5.313.342 1f57D3c5.314.342 1f59D3a5.314 1f5bD3a5.314.300 1f5dD3a5.314.301",
    "1f5fD3a5.314.342 1f60D3c9.313 1f61D3c9.314 1f62D3c9.313.300 1f63D3c9.314.300 1f64D3c9.313.301",
    "1f65D3c9.314.301 1f66D3c9.313.342 1f67D3c9.314.342 1f68D3a9.313 1f69D3a9.314 1f6aD3a9.313.300",
    "1f6bD3a9.314.300 1f6cD3a9.313.301 1f6dD3a9.314.301 1f6eD3a9.313.342 1f6fD3a9.314.342",
    "1f70D3b1.300 1f71D3b1.301 1f72D3b5.300 1f73D3b5.301 1f74D3b7.300 1f75D3b7.301 1f76D3b9.300",
    "1f77D3b9.301 1f78D3bf.300 1f79D3bf.301 1f7aD3c5.300 1f7bD3c5.301 1f7cD3c9.300 1f7dD3c9.301",
    "1f80D3b1.313.345 1f81D3b1.314.345 1f82D3b1.313.300.345 1f83D3b1.314.300.345",
    "1f84D3b1.313.301.345 1f85D3b1.314.301.345 1f86D3b1.313.342.345 1f87D3b1.314.342.345",
    "1f88D391.313.345 1f89D391.314.345 1f8aD391.313.300.345 1f8bD391.314.300.345",
    "1f8cD391.313.301.345 1f8dD391.314.301.345 1f8eD391.313.342.345 1f8fD391.314.342.345",
    "1f90D3b7.313.345 1f91D3b7.314.345 1f92D3b7.313.300.345 1f93D3b7.314.300.345",
    "1f94D3b7.313.301.345 1f95D3b7.314.301.345 1f96D3b7.313.342.345 1f97D3b7.314.342.345",
    "1f98D397.313.345 1f99D397.314.345 1f9aD397.313.300.345 1f9bD397.314.300.345",
    "1f9cD397.313.301.345 1f9dD397.314.301.345 1f9eD397.313.342.345 1f9fD397.314.342.345",
    "1fa0D3c9.313.345 1fa1D3c9.314.345 1fa2D3c9.313.300.345 1fa3D3c9.314.300.345",
    "1fa4D3c9.313.301.345 1fa5D3c9.314.301.345 1fa6D3c9.313.342.345 1fa7D3c9.314.342.345",
    "1fa8D3a9.313.345 1fa9D3a9.314.345 1faaD3a9.313.300.345 1fabD3a9.314.300.345",
    "1facD3a9.313.301.345 1fadD3a9.314.301.345 1faeD3a9.313.342.345 1fafD3a9.314.342.345",
    "1fb0D3b1.306 1fb1D3b1.304 1fb2D3b1.300.345 1fb3D3b1.345 1fb4D3b1.301.345 1fb6D3b1.342",
    "1fb7D3b1.342.345 1fb8D391.306 1fb9D391.304 1fbaD391.300 1fbbD391.301 1fbcD391.345 1fbeD3b9",
    "1fc1Da8.342 1fc2D3b7.300.345 1fc3D3b7.345 1fc4D3b7.301.345 1fc6D3b7.342 1fc7D3b7.342.345",
    "1fc8D395.300 1fc9D395.301 1fcaD397.300 1fcbD397.301 1fccD397.345 1fcdD1fbf.300 1fceD1fbf.301",
    "1fcfD1fbf.342 1fd0D3b9.306 1fd1D3b9.304 1fd2D3b9.308.300 1fd3D3b9.308.301 1fd6D3b9.342",
    "1fd7D3b9.308.342 1fd8D399.306 1fd9D399.304 1fdaD399.300 1fdbD399.301 1fddD1ffe.300",
    "1fdeD1ffe.301 1fdfD1ffe.342 1fe0D3c5.306 1fe1D3c5.304 1fe2D3c5.308.300 1fe3D3c5.308.301",
    "1fe4D3c1.313 1fe5D3c1.314 1fe6D3c5.342 1fe7D3c5.308.342 1fe8D3a5.306 1fe9D3a5.304 1feaD3a5.300",
    "1febD3a5.301 1fecD3a1.314 1fedDa8.300 1feeDa8.301 1fefD60 1ff2D3c9.300.345 1ff3D3c9.345",
    "1ff4D3c9.301.345 1ff6D3c9.342 1ff7D3c9.342.345 1ff8D39f.300 1ff9D39f.301 1ffaD3a9.300",
    "1ffbD3a9.301 1ffcD3a9.345 1ffdDb4 2000D2002 2001D2003 2126D3a9 212aD4b 212bD41.30a",
    "219aD2190.338 219bD2192.338 21aeD2194.338 21cdD21d0.338 21ceD21d4.338 21cfD21d2.338",
    "2204D2203.338 2209D2208.338 220cD220b.338 2224D2223.338 2226D2225.338 2241D223c.338",
    "2244D2243.338 2247D2245.338 2249D2248.338 2260D3d.338 2262D2261.338 226dD224d.338 226eD3c.338",
    "226fD3e.338 2270D2264.338 2271D2265.338 2274D2272.338 2275D2273.338 2278D2276.338",
    "2279D2277.338 2280D227a.338 2281D227b.338 2284D2282.338 2285D2283.338 2288D2286.338",
    "2289D2287.338 22acD22a2.338 22adD22a8.338 22aeD22a9.338 22afD22ab.338 22e0D227c.338",
    "22e1D227d.338 22e2D2291.338 22e3D2292.338 22eaD22b2.338 22ebD22b3.338 22ecD22b4.338",
    "22edD22b5.338 2329D3008 232aD3009 2adcD2add.338 304cD304b.3099 304eD304d.3099 3050D304f.3099",
    "3052D3051.3099 3054D3053.3099 3056D3055.3099 3058D3057.3099 305aD3059.3099 305cD305b.3099",
    "305eD305d.3099 3060D305f.3099 3062D3061.3099 3065D3064.3099 3067D3066.3099 3069D3068.3099",
    "3070D306f.3099 3071D306f.309a 3073D3072.3099 3074D3072.309a 3076D3075.3099 3077D3075.309a",
    "3079D3078.3099 307aD3078.309a 307cD307b.3099 307dD307b.309a 3094D3046.3099 309eD309d.3099",
    "30acD30ab.3099 30aeD30ad.3099 30b0D30af.3099 30b2D30b1.3099 30b4D30b3.3099 30b6D30b5.3099",
    "30b8D30b7.3099 30baD30b9.3099 30bcD30bb.3099 30beD30bd.3099 30c0D30bf.3099 30c2D30c1.3099",
    "30c5D30c4.3099 30c7D30c6.3099 30c9D30c8.3099 30d0D30cf.3099 30d1D30cf.309a 30d3D30d2.3099",
    "30d4D30d2.309a 30d6D30d5.3099 30d7D30d5.309a 30d9D30d8.3099 30daD30d8.309a 30dcD30db.3099",
    "30ddD30db.309a 30f4D30a6.3099 30f7D30ef.3099 30f8D30f0.3099 30f9D30f1.3099 30faD30f2.3099",
    "30feD30fd.3099 f900D8c48 f901D66f4 f902D8eca f903D8cc8 f904D6ed1 f905D4e32 f906D53e5 f907D9f9c",
    "f908D9f9c f909D5951 f90aD91d1 f90bD5587 f90cD5948 f90dD61f6 f90eD7669 f90fD7f85 f910D863f",
    "f911D87ba f912D88f8 f913D908f f914D6a02 f915D6d1b f916D70d9 f917D73de f918D843d f919D916a",
    "f91aD99f1 f91bD4e82 f91cD5375 f91dD6b04 f91eD721b f91fD862d f920D9e1e f921D5d50 f922D6feb",
    "f923D85cd f924D8964 f925D62c9 f926D81d8 f927D881f f928D5eca f929D6717 f92aD6d6a f92bD72fc",
    "f92cD90ce f92dD4f86 f92eD51b7 f92fD52de f930D64c4 f931D6ad3 f932D7210 f933D76e7 f934D8001",
    "f935D8606 f936D865c f937D8def f938D9732 f939D9b6f f93aD9dfa f93bD788c f93cD797f f93dD7da0",
    "f93eD83c9 f93fD9304 f940D9e7f f941D8ad6 f942D58df f943D5f04 f944D7c60 f945D807e f946D7262",
    "f947D78ca f948D8cc2 f949D96f7 f94aD58d8 f94bD5c62 f94cD6a13 f94dD6dda f94eD6f0f f94fD7d2f",
    "f950D7e37 f951D964b f952D52d2 f953D808b f954D51dc f955D51cc f956D7a1c f957D7dbe f958D83f1",
    "f959D9675 f95aD8b80 f95bD62cf f95cD6a02 f95dD8afe f95eD4e39 f95fD5be7 f960D6012 f961D7387",
    "f962D7570 f963D5317 f964D78fb f965D4fbf f966D5fa9 f967D4e0d f968D6ccc f969D6578 f96aD7d22",
    "f96bD53c3 f96cD585e f96dD7701 f96eD8449 f96fD8aaa f970D6bba f971D8fb0 f972D6c88 f973D62fe",
    "f974D82e5 f975D63a0 f976D7565 f977D4eae f978D5169 f979D51c9 f97aD6881 f97bD7ce7 f97cD826f",
    "f97dD8ad2 f97eD91cf f97fD52f5 f980D5442 f981D5973 f982D5eec f983D65c5 f984D6ffe f985D792a",
    "f986D95ad f987D9a6a f988D9e97 f989D9ece f98aD529b f98bD66c6 f98cD6b77 f98dD8f62 f98eD5e74",
    "f98fD6190 f990D6200 f991D649a f992D6f23 f993D7149 f994D7489 f995D79ca f996D7df4 f997D806f",
    "f998D8f26 f999D84ee f99aD9023 f99bD934a f99cD5217 f99dD52a3 f99eD54bd f99fD70c8 f9a0D88c2",
    "f9a1D8aaa f9a2D5ec9 f9a3D5ff5 f9a4D637b f9a5D6bae f9a6D7c3e f9a7D7375 f9a8D4ee4 f9a9D56f9",
    "f9aaD5be7 f9abD5dba f9acD601c f9adD73b2 f9aeD7469 f9afD7f9a f9b0D8046 f9b1D9234 f9b2D96f6",
    "f9b3D9748 f9b4D9818 f9b5D4f8b f9b6D79ae f9b7D91b4 f9b8D96b8 f9b9D60e1 f9baD4e86 f9bbD50da",
    "f9bcD5bee f9bdD5c3f f9beD6599 f9bfD6a02 f9c0D71ce f9c1D7642 f9c2D84fc f9c3D907c f9c4D9f8d",
    "f9c5D6688 f9c6D962e f9c7D5289 f9c8D677b f9c9D67f3 f9caD6d41 f9cbD6e9c f9ccD7409 f9cdD7559",
    "f9ceD786b f9cfD7d10 f9d0D985e f9d1D516d f9d2D622e f9d3D9678 f9d4D502b f9d5D5d19 f9d6D6dea",
    "f9d7D8f2a f9d8D5f8b f9d9D6144 f9daD6817 f9dbD7387 f9dcD9686 f9ddD5229 f9deD540f f9dfD5c65",
    "f9e0D6613 f9e1D674e f9e2D68a8 f9e3D6ce5 f9e4D7406 f9e5D75e2 f9e6D7f79 f9e7D88cf f9e8D88e1",
    "f9e9D91cc f9eaD96e2 f9ebD533f f9ecD6eba f9edD541d f9eeD71d0 f9efD7498 f9f0D85fa f9f1D96a3",
    "f9f2D9c57 f9f3D9e9f f9f4D6797 f9f5D6dcb f9f6D81e8 f9f7D7acb f9f8D7b20 f9f9D7c92 f9faD72c0",
    "f9fbD7099 f9fcD8b58 f9fdD4ec0 f9feD8336 f9ffD523a fa00D5207 fa01D5ea6 fa02D62d3 fa03D7cd6",
    "fa04D5b85 fa05D6d1e fa06D66b4 fa07D8f3b fa08D884c fa09D964d fa0aD898b fa0bD5ed3 fa0cD5140",
    "fa0dD55c0 fa10D585a fa12D6674 fa15D51de fa16D732a fa17D76ca fa18D793c fa19D795e fa1aD7965",
    "fa1bD798f fa1cD9756 fa1dD7cbe fa1eD7fbd fa20D8612 fa22D8af8 fa25D9038 fa26D90fd fa2aD98ef",
    "fa2bD98fc fa2cD9928 fa2dD9db4 fa2eD90de fa2fD96b7 fa30D4fae fa31D50e7 fa32D514d fa33D52c9",
    "fa34D52e4 fa35D5351 fa36D559d fa37D5606 fa38D5668 fa39D5840 fa3aD58a8 fa3bD5c64 fa3cD5c6e",
    "fa3dD6094 fa3eD6168 fa3fD618e fa40D61f2 fa41D654f fa42D65e2 fa43D6691 fa44D6885 fa45D6d77",
    "fa46D6e1a fa47D6f22 fa48D716e fa49D722b fa4aD7422 fa4bD7891 fa4cD793e fa4dD7949 fa4eD7948",
    "fa4fD7950 fa50D7956 fa51D795d fa52D798d fa53D798e fa54D7a40 fa55D7a81 fa56D7bc0 fa57D7df4",
    "fa58D7e09 fa59D7e41 fa5aD7f72 fa5bD8005 fa5cD81ed fa5dD8279 fa5eD8279 fa5fD8457 fa60D8910",
    "fa61D8996 fa62D8b01 fa63D8b39 fa64D8cd3 fa65D8d08 fa66D8fb6 fa67D9038 fa68D96e3 fa69D97ff",
    "fa6aD983b fa6bD6075 fa6cD242ee fa6dD8218 fa70D4e26 fa71D51b5 fa72D5168 fa73D4f80 fa74D5145",
    "fa75D5180 fa76D52c7 fa77D52fa fa78D559d fa79D5555 fa7aD5599 fa7bD55e2 fa7cD585a fa7dD58b3",
    "fa7eD5944 fa7fD5954 fa80D5a62 fa81D5b28 fa82D5ed2 fa83D5ed9 fa84D5f69 fa85D5fad fa86D60d8",
    "fa87D614e fa88D6108 fa89D618e fa8aD6160 fa8bD61f2 fa8cD6234 fa8dD63c4 fa8eD641c fa8fD6452",
    "fa90D6556 fa91D6674 fa92D6717 fa93D671b fa94D6756 fa95D6b79 fa96D6bba fa97D6d41 fa98D6edb",
    "fa99D6ecb fa9aD6f22 fa9bD701e fa9cD716e fa9dD77a7 fa9eD7235 fa9fD72af faa0D732a faa1D7471",
    "faa2D7506 faa3D753b faa4D761d faa5D761f faa6D76ca faa7D76db faa8D76f4 faa9D774a faaaD7740",
    "faabD78cc faacD7ab1 faadD7bc0 faaeD7c7b faafD7d5b fab0D7df4 fab1D7f3e fab2D8005 fab3D8352",
    "fab4D83ef fab5D8779 fab6D8941 fab7D8986 fab8D8996 fab9D8abf fabaD8af8 fabbD8acb fabcD8b01",
    "fabdD8afe fabeD8aed fabfD8b39 fac0D8b8a fac1D8d08 fac2D8f38 fac3D9072 fac4D9199 fac5D9276",
    "fac6D967c fac7D96e3 fac8D9756 fac9D97db facaD97ff facbD980b faccD983b facdD9b12 faceD9f9c",
    "facfD2284a fad0D22844 fad1D233d5 fad2D3b9d fad3D4018 fad4D4039 fad5D25249 fad6D25cd0",
    "fad7D27ed3 fad8D9f43 fad9D9f8e fb1dD5d9.5b4 fb1fD5f2.5b7 fb2aD5e9.5c1 fb2bD5e9.5c2",
    "fb2cD5e9.5bc.5c1 fb2dD5e9.5bc.5c2 fb2eD5d0.5b7 fb2fD5d0.5b8 fb30D5d0.5bc fb31D5d1.5bc",
    "fb32D5d2.5bc fb33D5d3.5bc fb34D5d4.5bc fb35D5d5.5bc fb36D5d6.5bc fb38D5d8.5bc fb39D5d9.5bc",
    "fb3aD5da.5bc fb3bD5db.5bc fb3cD5dc.5bc fb3eD5de.5bc fb40D5e0.5bc fb41D5e1.5bc fb43D5e3.5bc",
    "fb44D5e4.5bc fb46D5e6.5bc fb47D5e7.5bc fb48D5e8.5bc fb49D5e9.5bc fb4aD5ea.5bc fb4bD5d5.5b9",
    "fb4cD5d1.5bf fb4dD5db.5bf fb4eD5e4.5bf 105c9D105d2.307 105e4D105da.307 1109aD11099.110ba",
    "1109cD1109b.110ba 110abD110a5.110ba 1112eD11131.11127 1112fD11132.11127 1134bD11347.1133e",
    "1134cD11347.11357 11383D11382.113c9 11385D11384.113bb 1138eD1138b.113c2 11391D11390.113c9",
    "113c5D113c2.113c2 113c7D113c2.113b8 113c8D113c2.113c9 114bbD114b9.114ba 114bcD114b9.114b0",
    "114beD114b9.114bd 115baD115b8.115af 115bbD115b9.115af 11938D11935.11930 16121D1611e.1611e",
    "16122D1611e.16129 16123D1611e.1611f 16124D16129.1611f 16125D1611e.16120",
    "16126D1611e.1611e.1611f 16127D1611e.16129.1611f 16128D1611e.1611e.16120 16d68D16d67.16d67",
    "16d69D16d63.16d67 16d6aD16d63.16d67.16d67 1d15eD1d157.1d165 1d15fD1d158.1d165",
    "1d160D1d158.1d165.1d16e 1d161D1d158.1d165.1d16f 1d162D1d158.1d165.1d170",
    "1d163D1d158.1d165.1d171 1d164D1d158.1d165.1d172 1d1bbD1d1b9.1d165 1d1bcD1d1ba.1d165",
    "1d1bdD1d1b9.1d165.1d16e 1d1beD1d1ba.1d165.1d16e 1d1bfD1d1b9.1d165.1d16f",
    "1d1c0D1d1ba.1d165.1d16f 2f800D4e3d 2f801D4e38 2f802D4e41 2f803D20122 2f804D4f60 2f805D4fae",
    "2f806D4fbb 2f807D5002 2f808D507a 2f809D5099 2f80aD50e7 2f80bD50cf 2f80cD349e 2f80dD2063a",
    "2f80eD514d 2f80fD5154 2f810D5164 2f811D5177 2f812D2051c 2f813D34b9 2f814D5167 2f815D518d",
    "2f816D2054b 2f817D5197 2f818D51a4 2f819D4ecc 2f81aD51ac 2f81bD51b5 2f81cD291df 2f81dD51f5",
    "2f81eD5203 2f81fD34df 2f820D523b 2f821D5246 2f822D5272 2f823D5277 2f824D3515 2f825D52c7",
    "2f826D52c9 2f827D52e4 2f828D52fa 2f829D5305 2f82aD5306 2f82bD5317 2f82cD5349 2f82dD5351",
    "2f82eD535a 2f82fD5373 2f830D537d 2f831D537f 2f832D537f 2f833D537f 2f834D20a2c 2f835D7070",
    "2f836D53ca 2f837D53df 2f838D20b63 2f839D53eb 2f83aD53f1 2f83bD5406 2f83cD549e 2f83dD5438",
    "2f83eD5448 2f83fD5468 2f840D54a2 2f841D54f6 2f842D5510 2f843D5553 2f844D5563 2f845D5584",
    "2f846D5584 2f847D5599 2f848D55ab 2f849D55b3 2f84aD55c2 2f84bD5716 2f84cD5606 2f84dD5717",
    "2f84eD5651 2f84fD5674 2f850D5207 2f851D58ee 2f852D57ce 2f853D57f4 2f854D580d 2f855D578b",
    "2f856D5832 2f857D5831 2f858D58ac 2f859D214e4 2f85aD58f2 2f85bD58f7 2f85cD5906 2f85dD591a",
    "2f85eD5922 2f85fD5962 2f860D216a8 2f861D216ea 2f862D59ec 2f863D5a1b 2f864D5a27 2f865D59d8",
    "2f866D5a66 2f867D36ee 2f868D36fc 2f869D5b08 2f86aD5b3e 2f86bD5b3e 2f86cD219c8 2f86dD5bc3",
    "2f86eD5bd8 2f86fD5be7 2f870D5bf3 2f871D21b18 2f872D5bff 2f873D5c06 2f874D5f53 2f875D5c22",
    "2f876D3781 2f877D5c60 2f878D5c6e 2f879D5cc0 2f87aD5c8d 2f87bD21de4 2f87cD5d43 2f87dD21de6",
    "2f87eD5d6e 2f87fD5d6b 2f880D5d7c 2f881D5de1 2f882D5de2 2f883D382f 2f884D5dfd 2f885D5e28",
    "2f886D5e3d 2f887D5e69 2f888D3862 2f889D22183 2f88aD387c 2f88bD5eb0 2f88cD5eb3 2f88dD5eb6",
    "2f88eD5eca 2f88fD2a392 2f890D5efe 2f891D22331 2f892D22331 2f893D8201 2f894D5f22 2f895D5f22",
    "2f896D38c7 2f897D232b8 2f898D261da 2f899D5f62 2f89aD5f6b 2f89bD38e3 2f89cD5f9a 2f89dD5fcd",
    "2f89eD5fd7 2f89fD5ff9 2f8a0D6081 2f8a1D393a 2f8a2D391c 2f8a3D6094 2f8a4D226d4 2f8a5D60c7",
    "2f8a6D6148 2f8a7D614c 2f8a8D614e 2f8a9D614c 2f8aaD617a 2f8abD618e 2f8acD61b2 2f8adD61a4",
    "2f8aeD61af 2f8afD61de 2f8b0D61f2 2f8b1D61f6 2f8b2D6210 2f8b3D621b 2f8b4D625d 2f8b5D62b1",
    "2f8b6D62d4 2f8b7D6350 2f8b8D22b0c 2f8b9D633d 2f8baD62fc 2f8bbD6368 2f8bcD6383 2f8bdD63e4",
    "2f8beD22bf1 2f8bfD6422 2f8c0D63c5 2f8c1D63a9 2f8c2D3a2e 2f8c3D6469 2f8c4D647e 2f8c5D649d",
    "2f8c6D6477 2f8c7D3a6c 2f8c8D654f 2f8c9D656c 2f8caD2300a 2f8cbD65e3 2f8ccD66f8 2f8cdD6649",
    "2f8ceD3b19 2f8cfD6691 2f8d0D3b08 2f8d1D3ae4 2f8d2D5192 2f8d3D5195 2f8d4D6700 2f8d5D669c",
    "2f8d6D80ad 2f8d7D43d9 2f8d8D6717 2f8d9D671b 2f8daD6721 2f8dbD675e 2f8dcD6753 2f8ddD233c3",
    "2f8deD3b49 2f8dfD67fa 2f8e0D6785 2f8e1D6852 2f8e2D6885 2f8e3D2346d 2f8e4D688e 2f8e5D681f",
    "2f8e6D6914 2f8e7D3b9d 2f8e8D6942 2f8e9D69a3 2f8eaD69ea 2f8ebD6aa8 2f8ecD236a3 2f8edD6adb",
    "2f8eeD3c18 2f8efD6b21 2f8f0D238a7 2f8f1D6b54 2f8f2D3c4e 2f8f3D6b72 2f8f4D6b9f 2f8f5D6bba",
    "2f8f6D6bbb 2f8f7D23a8d 2f8f8D21d0b 2f8f9D23afa 2f8faD6c4e 2f8fbD23cbc 2f8fcD6cbf 2f8fdD6ccd",
    "2f8feD6c67 2f8ffD6d16 2f900D6d3e 2f901D6d77 2f902D6d41 2f903D6d69 2f904D6d78 2f905D6d85",
    "2f906D23d1e 2f907D6d34 2f908D6e2f 2f909D6e6e 2f90aD3d33 2f90bD6ecb 2f90cD6ec7 2f90dD23ed1",
    "2f90eD6df9 2f90fD6f6e 2f910D23f5e 2f911D23f8e 2f912D6fc6 2f913D7039 2f914D701e 2f915D701b",
    "2f916D3d96 2f917D704a 2f918D707d 2f919D7077 2f91aD70ad 2f91bD20525 2f91cD7145 2f91dD24263",
    "2f91eD719c 2f91fD243ab 2f920D7228 2f921D7235 2f922D7250 2f923D24608 2f924D7280 2f925D7295",
    "2f926D24735 2f927D24814 2f928D737a 2f929D738b 2f92aD3eac 2f92bD73a5 2f92cD3eb8 2f92dD3eb8",
    "2f92eD7447 2f92fD745c 2f930D7471 2f931D7485 2f932D74ca 2f933D3f1b 2f934D7524 2f935D24c36",
    "2f936D753e 2f937D24c92 2f938D7570 2f939D2219f 2f93aD7610 2f93bD24fa1 2f93cD24fb8 2f93dD25044",
    "2f93eD3ffc 2f93fD4008 2f940D76f4 2f941D250f3 2f942D250f2 2f943D25119 2f944D25133 2f945D771e",
    "2f946D771f 2f947D771f 2f948D774a 2f949D4039 2f94aD778b 2f94bD4046 2f94cD4096 2f94dD2541d",
    "2f94eD784e 2f94fD788c 2f950D78cc 2f951D40e3 2f952D25626 2f953D7956 2f954D2569a 2f955D256c5",
    "2f956D798f 2f957D79eb 2f958D412f 2f959D7a40 2f95aD7a4a 2f95bD7a4f 2f95cD2597c 2f95dD25aa7",
    "2f95eD25aa7 2f95fD7aee 2f960D4202 2f961D25bab 2f962D7bc6 2f963D7bc9 2f964D4227 2f965D25c80",
    "2f966D7cd2 2f967D42a0 2f968D7ce8 2f969D7ce3 2f96aD7d00 2f96bD25f86 2f96cD7d63 2f96dD4301",
    "2f96eD7dc7 2f96fD7e02 2f970D7e45 2f971D4334 2f972D26228 2f973D26247 2f974D4359 2f975D262d9",
    "2f976D7f7a 2f977D2633e 2f978D7f95 2f979D7ffa 2f97aD8005 2f97bD264da 2f97cD26523 2f97dD8060",
    "2f97eD265a8 2f97fD8070 2f980D2335f 2f981D43d5 2f982D80b2 2f983D8103 2f984D440b 2f985D813e",
    "2f986D5ab5 2f987D267a7 2f988D267b5 2f989D23393 2f98aD2339c 2f98bD8201 2f98cD8204 2f98dD8f9e",
    "2f98eD446b 2f98fD8291 2f990D828b 2f991D829d 2f992D52b3 2f993D82b1 2f994D82b3 2f995D82bd",
    "2f996D82e6 2f997D26b3c 2f998D82e5 2f999D831d 2f99aD8363 2f99bD83ad 2f99cD8323 2f99dD83bd",
    "2f99eD83e7 2f99fD8457 2f9a0D8353 2f9a1D83ca 2f9a2D83cc 2f9a3D83dc 2f9a4D26c36 2f9a5D26d6b",
    "2f9a6D26cd5 2f9a7D452b 2f9a8D84f1 2f9a9D84f3 2f9aaD8516 2f9abD273ca 2f9acD8564 2f9adD26f2c",
    "2f9aeD455d 2f9afD4561 2f9b0D26fb1 2f9b1D270d2 2f9b2D456b 2f9b3D8650 2f9b4D865c 2f9b5D8667",
    "2f9b6D8669 2f9b7D86a9 2f9b8D8688 2f9b9D870e 2f9baD86e2 2f9bbD8779 2f9bcD8728 2f9bdD876b",
    "2f9beD8786 2f9bfD45d7 2f9c0D87e1 2f9c1D8801 2f9c2D45f9 2f9c3D8860 2f9c4D8863 2f9c5D27667",
    "2f9c6D88d7 2f9c7D88de 2f9c8D4635 2f9c9D88fa 2f9caD34bb 2f9cbD278ae 2f9ccD27966 2f9cdD46be",
    "2f9ceD46c7 2f9cfD8aa0 2f9d0D8aed 2f9d1D8b8a 2f9d2D8c55 2f9d3D27ca8 2f9d4D8cab 2f9d5D8cc1",
    "2f9d6D8d1b 2f9d7D8d77 2f9d8D27f2f 2f9d9D20804 2f9daD8dcb 2f9dbD8dbc 2f9dcD8df0 2f9ddD208de",
    "2f9deD8ed4 2f9dfD8f38 2f9e0D285d2 2f9e1D285ed 2f9e2D9094 2f9e3D90f1 2f9e4D9111 2f9e5D2872e",
    "2f9e6D911b 2f9e7D9238 2f9e8D92d7 2f9e9D92d8 2f9eaD927c 2f9ebD93f9 2f9ecD9415 2f9edD28bfa",
    "2f9eeD958b 2f9efD4995 2f9f0D95b7 2f9f1D28d77 2f9f2D49e6 2f9f3D96c3 2f9f4D5db2 2f9f5D9723",
    "2f9f6D29145 2f9f7D2921a 2f9f8D4a6e 2f9f9D4a76 2f9faD97e0 2f9fbD2940a 2f9fcD4ab2 2f9fdD29496",
    "2f9feD980b 2f9ffD980b 2fa00D9829 2fa01D295b6 2fa02D98e2 2fa03D4b33 2fa04D9929 2fa05D99a7",
    "2fa06D99c2 2fa07D99fe 2fa08D4bce 2fa09D29b30 2fa0aD9b12 2fa0bD9c40 2fa0cD9cfd 2fa0dD4cce",
    "2fa0eD4ced 2fa0fD9d67 2fa10D2a0ce 2fa11D4cf8 2fa12D2a105 2fa13D2a20e 2fa14D2a291 2fa15D9ebb",
    "2fa16D4d56 2fa17D9ef9 2fa18D9efe 2fa19D9f05 2fa1aD9f0f 2fa1bD9f16 2fa1cD9f3b 2fa1dD2a600"]

/-- The decomposition table. -/
def decompositionTable : Array (Span (List Nat)) := readSpans decompositionTag decompositionText

/-- A composition tag: `P` and the composite in hex. -/
def compositeTag : Char → List Char → Option Nat
  | 'P', payload => some (hexNumber payload)
  | _, _ => none

/-- Primary composites, keyed by `first * 0x110000 + second` for the pair they compose. -/
def compositionText : String :=
  " ".intercalate [
    "3fc0338P226e 40d0338P2260 41e0338P226f 4510300Pc0 4510301Pc1 4510302Pc2 4510303Pc3 4510304P100",
    "4510306P102 4510307P226 4510308Pc4 4510309P1ea2 451030aPc5 451030cP1cd 451030fP200 4510311P202",
    "4510323P1ea0 4510325P1e00 4510328P104 4620307P1e02 4620323P1e04 4620331P1e06 4730301P106",
    "4730302P108 4730307P10a 473030cP10c 4730327Pc7 4840307P1e0a 484030cP10e 4840323P1e0c",
    "4840327P1e10 484032dP1e12 4840331P1e0e 4950300Pc8 4950301Pc9 4950302Pca 4950303P1ebc",
    "4950304P112 4950306P114 4950307P116 4950308Pcb 4950309P1eba 495030cP11a 495030fP204",
    "4950311P206 4950323P1eb8 4950327P228 4950328P118 495032dP1e18 4950330P1e1a 4a60307P1e1e",
    "4b70301P1f4 4b70302P11c 4b70304P1e20 4b70306P11e 4b70307P120 4b7030cP1e6 4b70327P122",
    "4c80302P124 4c80307P1e22 4c80308P1e26 4c8030cP21e 4c80323P1e24 4c80327P1e28 4c8032eP1e2a",
    "4d90300Pcc 4d90301Pcd 4d90302Pce 4d90303P128 4d90304P12a 4d90306P12c 4d90307P130 4d90308Pcf",
    "4d90309P1ec8 4d9030cP1cf 4d9030fP208 4d90311P20a 4d90323P1eca 4d90328P12e 4d90330P1e2c",
    "4ea0302P134 4fb0301P1e30 4fb030cP1e8 4fb0323P1e32 4fb0327P136 4fb0331P1e34 50c0301P139",
    "50c030cP13d 50c0323P1e36 50c0327P13b 50c032dP1e3c 50c0331P1e3a 51d0301P1e3e 51d0307P1e40",
    "51d0323P1e42 52e0300P1f8 52e0301P143 52e0303Pd1 52e0307P1e44 52e030cP147 52e0323P1e46",
    "52e0327P145 52e032dP1e4a 52e0331P1e48 53f0300Pd2 53f0301Pd3 53f0302Pd4 53f0303Pd5 53f0304P14c",
    "53f0306P14e 53f0307P22e 53f0308Pd6 53f0309P1ece 53f030bP150 53f030cP1d1 53f030fP20c",
    "53f0311P20e 53f031bP1a0 53f0323P1ecc 53f0328P1ea 5500301P1e54 5500307P1e56 5720301P154",
    "5720307P1e58 572030cP158 572030fP210 5720311P212 5720323P1e5a 5720327P156 5720331P1e5e",
    "5830301P15a 5830302P15c 5830307P1e60 583030cP160 5830323P1e62 5830326P218 5830327P15e",
    "5940307P1e6a 594030cP164 5940323P1e6c 5940326P21a 5940327P162 594032dP1e70 5940331P1e6e",
    "5a50300Pd9 5a50301Pda 5a50302Pdb 5a50303P168 5a50304P16a 5a50306P16c 5a50308Pdc 5a50309P1ee6",
    "5a5030aP16e 5a5030bP170 5a5030cP1d3 5a5030fP214 5a50311P216 5a5031bP1af 5a50323P1ee4",
    "5a50324P1e72 5a50328P172 5a5032dP1e76 5a50330P1e74 5b60303P1e7c 5b60323P1e7e 5c70300P1e80",
    "5c70301P1e82 5c70302P174 5c70307P1e86 5c70308P1e84 5c70323P1e88 5d80307P1e8a 5d80308P1e8c",
    "5e90300P1ef2 5e90301Pdd 5e90302P176 5e90303P1ef8 5e90304P232 5e90307P1e8e 5e90308P178",
    "5e90309P1ef6 5e90323P1ef4 5fa0301P179 5fa0302P1e90 5fa0307P17b 5fa030cP17d 5fa0323P1e92",
    "5fa0331P1e94 6710300Pe0 6710301Pe1 6710302Pe2 6710303Pe3 6710304P101 6710306P103 6710307P227",
    "6710308Pe4 6710309P1ea3 671030aPe5 671030cP1ce 671030fP201 6710311P203 6710323P1ea1",
    "6710325P1e01 6710328P105 6820307P1e03 6820323P1e05 6820331P1e07 6930301P107 6930302P109",
    "6930307P10b 693030cP10d 6930327Pe7 6a40307P1e0b 6a4030cP10f 6a40323P1e0d 6a40327P1e11",
    "6a4032dP1e13 6a40331P1e0f 6b50300Pe8 6b50301Pe9 6b50302Pea 6b50303P1ebd 6b50304P113",
    "6b50306P115 6b50307P117 6b50308Peb 6b50309P1ebb 6b5030cP11b 6b5030fP205 6b50311P207",
    "6b50323P1eb9 6b50327P229 6b50328P119 6b5032dP1e19 6b50330P1e1b 6c60307P1e1f 6d70301P1f5",
    "6d70302P11d 6d70304P1e21 6d70306P11f 6d70307P121 6d7030cP1e7 6d70327P123 6e80302P125",
    "6e80307P1e23 6e80308P1e27 6e8030cP21f 6e80323P1e25 6e80327P1e29 6e8032eP1e2b 6e80331P1e96",
    "6f90300Pec 6f90301Ped 6f90302Pee 6f90303P129 6f90304P12b 6f90306P12d 6f90308Pef 6f90309P1ec9",
    "6f9030cP1d0 6f9030fP209 6f90311P20b 6f90323P1ecb 6f90328P12f 6f90330P1e2d 70a0302P135",
    "70a030cP1f0 71b0301P1e31 71b030cP1e9 71b0323P1e33 71b0327P137 71b0331P1e35 72c0301P13a",
    "72c030cP13e 72c0323P1e37 72c0327P13c 72c032dP1e3d 72c0331P1e3b 73d0301P1e3f 73d0307P1e41",
    "73d0323P1e43 74e0300P1f9 74e0301P144 74e0303Pf1 74e0307P1e45 74e030cP148 74e0323P1e47",
    "74e0327P146 74e032dP1e4b 74e0331P1e49 75f0300Pf2 75f0301Pf3 75f0302Pf4 75f0303Pf5 75f0304P14d",
    "75f0306P14f 75f0307P22f 75f0308Pf6 75f0309P1ecf 75f030bP151 75f030cP1d2 75f030fP20d",
    "75f0311P20f 75f031bP1a1 75f0323P1ecd 75f0328P1eb 7700301P1e55 7700307P1e57 7920301P155",
    "7920307P1e59 792030cP159 792030fP211 7920311P213 7920323P1e5b 7920327P157 7920331P1e5f",
    "7a30301P15b 7a30302P15d 7a30307P1e61 7a3030cP161 7a30323P1e63 7a30326P219 7a30327P15f",
    "7b40307P1e6b 7b40308P1e97 7b4030cP165 7b40323P1e6d 7b40326P21b 7b40327P163 7b4032dP1e71",
    "7b40331P1e6f 7c50300Pf9 7c50301Pfa 7c50302Pfb 7c50303P169 7c50304P16b 7c50306P16d 7c50308Pfc",
    "7c50309P1ee7 7c5030aP16f 7c5030bP171 7c5030cP1d4 7c5030fP215 7c50311P217 7c5031bP1b0",
    "7c50323P1ee5 7c50324P1e73 7c50328P173 7c5032dP1e77 7c50330P1e75 7d60303P1e7d 7d60323P1e7f",
    "7e70300P1e81 7e70301P1e83 7e70302P175 7e70307P1e87 7e70308P1e85 7e7030aP1e98 7e70323P1e89",
    "7f80307P1e8b 7f80308P1e8d 8090300P1ef3 8090301Pfd 8090302P177 8090303P1ef9 8090304P233",
    "8090307P1e8f 8090308Pff 8090309P1ef7 809030aP1e99 8090323P1ef5 81a0301P17a 81a0302P1e91",
    "81a0307P17c 81a030cP17e 81a0323P1e93 81a0331P1e95 b280300P1fed b280301P385 b280342P1fc1",
    "ce20300P1ea6 ce20301P1ea4 ce20303P1eaa ce20309P1ea8 d040304P1de d150301P1fa d260301P1fc",
    "d260304P1e2 d370301P1e08 d6a0300P1ec0 d6a0301P1ebe d6a0303P1ec4 d6a0309P1ec2 dbf0301P1e2e",
    "e140300P1ed2 e140301P1ed0 e140303P1ed6 e140309P1ed4 e250301P1e4c e250304P22c e250308P1e4e",
    "e360304P22a e580301P1fe e9c0300P1db e9c0301P1d7 e9c0304P1d5 e9c030cP1d9 f020300P1ea7",
    "f020301P1ea5 f020303P1eab f020309P1ea9 f240304P1df f350301P1fb f460301P1fd f460304P1e3",
    "f570301P1e09 f8a0300P1ec1 f8a0301P1ebf f8a0303P1ec5 f8a0309P1ec3 fdf0301P1e2f 10340300P1ed3",
    "10340301P1ed1 10340303P1ed7 10340309P1ed5 10450301P1e4d 10450304P22d 10450308P1e4f",
    "10560304P22b 10780301P1ff 10bc0300P1dc 10bc0301P1d8 10bc0304P1d6 10bc030cP1da 11220300P1eb0",
    "11220301P1eae 11220303P1eb4 11220309P1eb2 11330300P1eb1 11330301P1eaf 11330303P1eb5",
    "11330309P1eb3 12320300P1e14 12320301P1e16 12430300P1e15 12430301P1e17 160c0300P1e50",
    "160c0301P1e52 161d0300P1e51 161d0301P1e53 16fa0307P1e64 170b0307P1e65 17600307P1e66",
    "17710307P1e67 17e80301P1e78 17f90301P1e79 180a0308P1e7a 181b0308P1e7b 196f0307P1e9b",
    "1ba00300P1edc 1ba00301P1eda 1ba00303P1ee0 1ba00309P1ede 1ba00323P1ee2 1bb10300P1edd",
    "1bb10301P1edb 1bb10303P1ee1 1bb10309P1edf 1bb10323P1ee3 1c9f0300P1eea 1c9f0301P1ee8",
    "1c9f0303P1eee 1c9f0309P1eec 1c9f0323P1ef0 1cb00300P1eeb 1cb00301P1ee9 1cb00303P1eef",
    "1cb00309P1eed 1cb00323P1ef1 1d27030cP1ee 208a0304P1ec 209b0304P1ed 24860304P1e0 24970304P1e1",
    "24a80306P1e1c 24b90306P1e1d 250e0304P230 251f0304P231 2bb2030cP1ef 3ca10300P1fba 3ca10301P386",
    "3ca10304P1fb9 3ca10306P1fb8 3ca10313P1f08 3ca10314P1f09 3ca10345P1fbc 3ce50300P1fc8",
    "3ce50301P388 3ce50313P1f18 3ce50314P1f19 3d070300P1fca 3d070301P389 3d070313P1f28",
    "3d070314P1f29 3d070345P1fcc 3d290300P1fda 3d290301P38a 3d290304P1fd9 3d290306P1fd8",
    "3d290308P3aa 3d290313P1f38 3d290314P1f39 3d8f0300P1ff8 3d8f0301P38c 3d8f0313P1f48",
    "3d8f0314P1f49 3db10314P1fec 3df50300P1fea 3df50301P38e 3df50304P1fe9 3df50306P1fe8",
    "3df50308P3ab 3df50314P1f59 3e390300P1ffa 3e390301P38f 3e390313P1f68 3e390314P1f69",
    "3e390345P1ffc 3e6c0345P1fb4 3e8e0345P1fc4 3ec10300P1f70 3ec10301P3ac 3ec10304P1fb1",
    "3ec10306P1fb0 3ec10313P1f00 3ec10314P1f01 3ec10342P1fb6 3ec10345P1fb3 3f050300P1f72",
    "3f050301P3ad 3f050313P1f10 3f050314P1f11 3f270300P1f74 3f270301P3ae 3f270313P1f20",
    "3f270314P1f21 3f270342P1fc6 3f270345P1fc3 3f490300P1f76 3f490301P3af 3f490304P1fd1",
    "3f490306P1fd0 3f490308P3ca 3f490313P1f30 3f490314P1f31 3f490342P1fd6 3faf0300P1f78",
    "3faf0301P3cc 3faf0313P1f40 3faf0314P1f41 3fd10313P1fe4 3fd10314P1fe5 40150300P1f7a",
    "40150301P3cd 40150304P1fe1 40150306P1fe0 40150308P3cb 40150313P1f50 40150314P1f51",
    "40150342P1fe6 40590300P1f7c 40590301P3ce 40590313P1f60 40590314P1f61 40590342P1ff6",
    "40590345P1ff3 406a0300P1fd2 406a0301P390 406a0342P1fd7 407b0300P1fe2 407b0301P3b0",
    "407b0342P1fe7 40ae0345P1ff4 40f20301P3d3 40f20308P3d4 44660308P407 45100306P4d0 45100308P4d2",
    "45430301P403 45650300P400 45650306P4d6 45650308P401 45760306P4c1 45760308P4dc 45870308P4de",
    "45980300P40d 45980304P4e2 45980306P419 45980308P4e4 45ba0301P40c 45fe0308P4e6 46530304P4ee",
    "46530306P40e 46530308P4f0 4653030bP4f2 46970308P4f4 46db0308P4f8 46fd0308P4ec 47300306P4d1",
    "47300308P4d3 47630301P453 47850300P450 47850306P4d7 47850308P451 47960306P4c2 47960308P4dd",
    "47a70308P4df 47b80300P45d 47b80304P4e3 47b80306P439 47b80308P4e5 47da0301P45c 481e0308P4e7",
    "48730304P4ef 48730306P45e 48730308P4f1 4873030bP4f3 48b70308P4f5 48fb0308P4f9 491d0308P4ed",
    "49b60308P457 4bb4030fP476 4bc5030fP477 52580308P4da 52690308P4db 53680308P4ea 53790308P4eb",
    "68970653P622 68970654P623 68970655P625 6ac80654P624 6aea0654P626 72d10654P6c2 73f20654P6d3",
    "74250654P6c0 9ba8093cP929 9c30093cP931 9c63093cP934 a63709beP9cb a63709d7P9cc bfb70b3ePb4b",
    "bfb70b56Pb48 bfb70b57Pb4c c4b20bd7Pb94 c8260bbePbca c8260bd7Pbcc c8370bbePbcb d0a60c56Pc48",
    "d8af0cd5Pcc0 d9260cc2Pcca d9260cd5Pcc7 d9260cd6Pcc8 d96a0cd5Pccb e1a60d3ePd4a e1a60d57Pd4c",
    "e1b70d3ePd4b eb690dcaPdda eb690dcfPddc eb690ddfPdde eb9c0dcaPddd 11275102eP1026 1cb551b35P1b06",
    "1cb771b35P1b08 1cb991b35P1b0a 1cbbb1b35P1b0c 1cbdd1b35P1b0e 1cc211b35P1b12 1ceda1b35P1b3b",
    "1cefc1b35P1b3d 1cf1e1b35P1b40 1cf2f1b35P1b41 1cf621b35P1b43 201960304P1e38 201a70304P1e39",
    "203fa0304P1e5c 2040b0304P1e5d 204820307P1e68 204930307P1e69 208a00302P1eac 208a00306P1eb6",
    "208b10302P1ead 208b10306P1eb7 20a380302P1ec6 20a490302P1ec7 20b8c0302P1ed8 20b9d0302P1ed9",
    "20f000300P1f02 20f000301P1f04 20f000342P1f06 20f000345P1f80 20f110300P1f03 20f110301P1f05",
    "20f110342P1f07 20f110345P1f81 20f220345P1f82 20f330345P1f83 20f440345P1f84 20f550345P1f85",
    "20f660345P1f86 20f770345P1f87 20f880300P1f0a 20f880301P1f0c 20f880342P1f0e 20f880345P1f88",
    "20f990300P1f0b 20f990301P1f0d 20f990342P1f0f 20f990345P1f89 20faa0345P1f8a 20fbb0345P1f8b",
    "20fcc0345P1f8c 20fdd0345P1f8d 20fee0345P1f8e 20fff0345P1f8f 210100300P1f12 210100301P1f14",
    "210210300P1f13 210210301P1f15 210980300P1f1a 210980301P1f1c 210a90300P1f1b 210a90301P1f1d",
    "211200300P1f22 211200301P1f24 211200342P1f26 211200345P1f90 211310300P1f23 211310301P1f25",
    "211310342P1f27 211310345P1f91 211420345P1f92 211530345P1f93 211640345P1f94 211750345P1f95",
    "211860345P1f96 211970345P1f97 211a80300P1f2a 211a80301P1f2c 211a80342P1f2e 211a80345P1f98",
    "211b90300P1f2b 211b90301P1f2d 211b90342P1f2f 211b90345P1f99 211ca0345P1f9a 211db0345P1f9b",
    "211ec0345P1f9c 211fd0345P1f9d 2120e0345P1f9e 2121f0345P1f9f 212300300P1f32 212300301P1f34",
    "212300342P1f36 212410300P1f33 212410301P1f35 212410342P1f37 212b80300P1f3a 212b80301P1f3c",
    "212b80342P1f3e 212c90300P1f3b 212c90301P1f3d 212c90342P1f3f 213400300P1f42 213400301P1f44",
    "213510300P1f43 213510301P1f45 213c80300P1f4a 213c80301P1f4c 213d90300P1f4b 213d90301P1f4d",
    "214500300P1f52 214500301P1f54 214500342P1f56 214610300P1f53 214610301P1f55 214610342P1f57",
    "214e90300P1f5b 214e90301P1f5d 214e90342P1f5f 215600300P1f62 215600301P1f64 215600342P1f66",
    "215600345P1fa0 215710300P1f63 215710301P1f65 215710342P1f67 215710345P1fa1 215820345P1fa2",
    "215930345P1fa3 215a40345P1fa4 215b50345P1fa5 215c60345P1fa6 215d70345P1fa7 215e80300P1f6a",
    "215e80301P1f6c 215e80342P1f6e 215e80345P1fa8 215f90300P1f6b 215f90301P1f6d 215f90342P1f6f",
    "215f90345P1fa9 2160a0345P1faa 2161b0345P1fab 2162c0345P1fac 2163d0345P1fad 2164e0345P1fae",
    "2165f0345P1faf 216700345P1fb2 216b40345P1fc2 2173c0345P1ff2 21b160345P1fb7 21baf0300P1fcd",
    "21baf0301P1fce 21baf0342P1fcf 21c260345P1fc7 21f560345P1ff7 21fde0300P1fdd 21fde0301P1fde",
    "21fde0342P1fdf 23a900338P219a 23ab20338P219b 23ad40338P21ae 23ed00338P21cd 23ef20338P21cf",
    "23f140338P21ce 242330338P2204 242880338P2209 242bb0338P220c 244530338P2224 244750338P2226",
    "245fc0338P2241 246730338P2244 246950338P2247 246c80338P2249 2471d0338P226d 248710338P2262",
    "248a40338P2270 248b50338P2271 249920338P2274 249a30338P2275 249d60338P2278 249e70338P2279",
    "24a1a0338P2280 24a2b0338P2281 24a3c0338P22e0 24a4d0338P22e1 24aa20338P2284 24ab30338P2285",
    "24ae60338P2288 24af70338P2289 24ba10338P22e2 24bb20338P22e3 24cc20338P22ac 24d280338P22ad",
    "24d390338P22ae 24d5b0338P22af 24dd20338P22ea 24de30338P22eb 24df40338P22ec 24e050338P22ed",
    "334a63099P3094 334fb3099P304c 3351d3099P304e 3353f3099P3050 335613099P3052 335833099P3054",
    "335a53099P3056 335c73099P3058 335e93099P305a 3360b3099P305c 3362d3099P305e 3364f3099P3060",
    "336713099P3062 336a43099P3065 336c63099P3067 336e83099P3069 3375f3099P3070 3375f309aP3071",
    "337923099P3073 33792309aP3074 337c53099P3076 337c5309aP3077 337f83099P3079 337f8309aP307a",
    "3382b3099P307c 3382b309aP307d 33a6d3099P309e 33b063099P30f4 33b5b3099P30ac 33b7d3099P30ae",
    "33b9f3099P30b0 33bc13099P30b2 33be33099P30b4 33c053099P30b6 33c273099P30b8 33c493099P30ba",
    "33c6b3099P30bc 33c8d3099P30be 33caf3099P30c0 33cd13099P30c2 33d043099P30c5 33d263099P30c7",
    "33d483099P30c9 33dbf3099P30d0 33dbf309aP30d1 33df23099P30d3 33df2309aP30d4 33e253099P30d6",
    "33e25309aP30d7 33e583099P30d9 33e58309aP30da 33e8b3099P30dc 33e8b309aP30dd 33fdf3099P30f7",
    "33ff03099P30f8 340013099P30f9 340123099P30fa 340cd3099P30fe 1162f20307P105c9 11637a0307P105e4",
    "121a2a10baP1109a 121a4c10baP1109c 121af610baP110ab 1224421127P1112e 1224531127P1112f",
    "1247b8133eP1134b 1247b81357P1134c 124ba313c9P11383 124bc513bbP11385 124c3c13c2P1138e",
    "124c9113c9P11391 124fe313b8P113c7 124fe313c2P113c5 124fe313c9P113c8 12604a14b0P114bc",
    "12604a14baP114bb 12604a14bdP114be 12713915afP115ba 12714a15afP115bb 12ac861930P11938",
    "1772ff611eP16121 1772ff611fP16123 1772ff6120P16125 1772ff6129P16122 177332611fP16126",
    "1773326120P16128 177343611fP16127 1773ba611fP16124 1843946d67P16d69 1843d86d67P16d68",
    "1843fa6d67P16d6a"]

/-- The composition table. -/
def compositionTable : Array (Span Nat) := readSpans compositeTag compositionText

/-- The first Hangul syllable. -/
def hangulBase : Nat := 0xAC00
/-- The first leading consonant jamo. -/
def leadBase : Nat := 0x1100
/-- The first vowel jamo. -/
def vowelBase : Nat := 0x1161
/-- The code point before the first trailing consonant jamo. -/
def trailBase : Nat := 0x11A7
/-- The numbers of leading consonants, vowels and trailing consonants (with none). -/
def leadCount : Nat := 19
/-- The number of vowel jamo. -/
def vowelCount : Nat := 21
/-- The number of trailing consonants, counting the absence of one. -/
def trailCount : Nat := 28
/-- The number of Hangul syllables. -/
def syllableCount : Nat := leadCount * vowelCount * trailCount

/-- Whether a code point is a precomposed Hangul syllable. -/
def isSyllable (cp : Nat) : Bool := hangulBase ≤ cp && cp < hangulBase + syllableCount

/-- The full canonical decomposition of a code point (itself if it has none). -/
def decompose (cp : Nat) : List Nat :=
  if isSyllable cp then
    let s := cp - hangulBase
    let lead := leadBase + s / (vowelCount * trailCount)
    let vowel := vowelBase + s % (vowelCount * trailCount) / trailCount
    let trail := trailBase + s % trailCount
    if trail = trailBase then [lead, vowel] else [lead, vowel, trail]
  else (entryAt? decompositionTable cp).getD [cp]

/-- The primary composite of a pair, if there is one. -/
def composePair (first second : Nat) : Option Nat :=
  if leadBase ≤ first ∧ first < leadBase + leadCount ∧
      vowelBase ≤ second ∧ second < vowelBase + vowelCount then
    some (hangulBase + ((first - leadBase) * vowelCount + (second - vowelBase)) * trailCount)
  else if isSyllable first ∧ (first - hangulBase) % trailCount = 0 ∧
      trailBase < second ∧ second < trailBase + trailCount then
    some (first + (second - trailBase))
  else entryAt? compositionTable (first * 0x110000 + second)

/-- Sort a run of non-starters stably by combining class. -/
def sortMarks (run : List Nat) : List Nat :=
  run.mergeSort fun a b => combiningClass a ≤ combiningClass b

/-- Canonical ordering: each maximal run of non-starters sorted stably by combining class.
`run` holds the pending non-starters, latest first. -/
def canonicalOrder (run : List Nat) : List Nat → List Nat
  | [] => sortMarks run.reverse
  | cp :: rest =>
    if combiningClass cp = 0 then sortMarks run.reverse ++ cp :: canonicalOrder [] rest
    else canonicalOrder (cp :: run) rest

/-- Where canonical composition stands: the output before the current starter (latest first),
the current starter if there is one, the non-starters kept after it (latest first), and the
combining class of the last character kept (256 before any starter, so nothing composes). -/
structure Composing where
  done : List Nat
  starter : Option Nat
  kept : List Nat
  lastClass : Nat

/-- Take the next character: compose it into the starter when it is not blocked, else keep it
(a starter becomes the new current starter). -/
def Composing.step (s : Composing) (cp : Nat) : Composing :=
  let cls := combiningClass cp
  let composite := match s.starter with
    | some st => if s.lastClass < cls ∨ s.lastClass = 0 then composePair st cp else none
    | none => none
  match composite with
  | some c => { s with starter := some c }
  | none =>
    if cls = 0 then
      { done := s.kept ++ (s.starter.toList ++ s.done), starter := some cp, kept := [],
        lastClass := 0 }
    else { s with kept := cp :: s.kept, lastClass := cls }

/-- The composed output. -/
def Composing.finish (s : Composing) : List Nat :=
  (s.kept ++ (s.starter.toList ++ s.done)).reverse

/-- Canonical composition of a canonically ordered, fully decomposed sequence. -/
def compose (cps : List Nat) : List Nat :=
  (cps.foldl Composing.step ⟨[], none, [], 256⟩).finish

/-- The normalization form C of a sequence of code points. -/
def nfc (cps : List Nat) : List Nat :=
  compose (canonicalOrder [] (cps.flatMap decompose))

end ChunkStore.Text
