/-! Canonical decompositions and combining classes. Rows are parted by semicolons, their numbers by blanks; all
numbers are hexadecimal. -/

namespace CredentialGateway.Unicode

/-- Rows `character composes part …`: `composes` is 1 if the parts are put together again on composition. -/
def decompositionText : String :=
  "c0 1 41 300;c1 1 41 301;c2 1 41 302;c3 1 41 303;c4 1 41 308;c5 1 41 30a;c7 1 43 327;
   c8 1 45 300;c9 1 45 301;ca 1 45 302;cb 1 45 308;cc 1 49 300;cd 1 49 301;ce 1 49 302;
   cf 1 49 308;d1 1 4e 303;d2 1 4f 300;d3 1 4f 301;d4 1 4f 302;d5 1 4f 303;d6 1 4f 308;
   d9 1 55 300;da 1 55 301;db 1 55 302;dc 1 55 308;dd 1 59 301;e0 1 61 300;e1 1 61 301;
   e2 1 61 302;e3 1 61 303;e4 1 61 308;e5 1 61 30a;e7 1 63 327;e8 1 65 300;e9 1 65 301;
   ea 1 65 302;eb 1 65 308;ec 1 69 300;ed 1 69 301;ee 1 69 302;ef 1 69 308;f1 1 6e 303;
   f2 1 6f 300;f3 1 6f 301;f4 1 6f 302;f5 1 6f 303;f6 1 6f 308;f9 1 75 300;fa 1 75 301;
   fb 1 75 302;fc 1 75 308;fd 1 79 301;ff 1 79 308;100 1 41 304;101 1 61 304;102 1 41 306;
   103 1 61 306;104 1 41 328;105 1 61 328;106 1 43 301;107 1 63 301;108 1 43 302;109 1 63 302;
   10a 1 43 307;10b 1 63 307;10c 1 43 30c;10d 1 63 30c;10e 1 44 30c;10f 1 64 30c;112 1 45 304;
   113 1 65 304;114 1 45 306;115 1 65 306;116 1 45 307;117 1 65 307;118 1 45 328;119 1 65 328;
   11a 1 45 30c;11b 1 65 30c;11c 1 47 302;11d 1 67 302;11e 1 47 306;11f 1 67 306;120 1 47 307;
   121 1 67 307;122 1 47 327;123 1 67 327;124 1 48 302;125 1 68 302;128 1 49 303;129 1 69 303;
   12a 1 49 304;12b 1 69 304;12c 1 49 306;12d 1 69 306;12e 1 49 328;12f 1 69 328;130 1 49 307;
   134 1 4a 302;135 1 6a 302;136 1 4b 327;137 1 6b 327;139 1 4c 301;13a 1 6c 301;13b 1 4c 327;
   13c 1 6c 327;13d 1 4c 30c;13e 1 6c 30c;143 1 4e 301;144 1 6e 301;145 1 4e 327;146 1 6e 327;
   147 1 4e 30c;148 1 6e 30c;14c 1 4f 304;14d 1 6f 304;14e 1 4f 306;14f 1 6f 306;150 1 4f 30b;
   151 1 6f 30b;154 1 52 301;155 1 72 301;156 1 52 327;157 1 72 327;158 1 52 30c;159 1 72 30c;
   15a 1 53 301;15b 1 73 301;15c 1 53 302;15d 1 73 302;15e 1 53 327;15f 1 73 327;160 1 53 30c;
   161 1 73 30c;162 1 54 327;163 1 74 327;164 1 54 30c;165 1 74 30c;168 1 55 303;169 1 75 303;
   16a 1 55 304;16b 1 75 304;16c 1 55 306;16d 1 75 306;16e 1 55 30a;16f 1 75 30a;170 1 55 30b;
   171 1 75 30b;172 1 55 328;173 1 75 328;174 1 57 302;175 1 77 302;176 1 59 302;177 1 79 302;
   178 1 59 308;179 1 5a 301;17a 1 7a 301;17b 1 5a 307;17c 1 7a 307;17d 1 5a 30c;17e 1 7a 30c;
   1a0 1 4f 31b;1a1 1 6f 31b;1af 1 55 31b;1b0 1 75 31b;1cd 1 41 30c;1ce 1 61 30c;1cf 1 49 30c;
   1d0 1 69 30c;1d1 1 4f 30c;1d2 1 6f 30c;1d3 1 55 30c;1d4 1 75 30c;1d5 1 dc 304;1d6 1 fc 304;
   1d7 1 dc 301;1d8 1 fc 301;1d9 1 dc 30c;1da 1 fc 30c;1db 1 dc 300;1dc 1 fc 300;1de 1 c4 304;
   1df 1 e4 304;1e0 1 226 304;1e1 1 227 304;1e2 1 c6 304;1e3 1 e6 304;1e6 1 47 30c;
   1e7 1 67 30c;1e8 1 4b 30c;1e9 1 6b 30c;1ea 1 4f 328;1eb 1 6f 328;1ec 1 1ea 304;
   1ed 1 1eb 304;1ee 1 1b7 30c;1ef 1 292 30c;1f0 1 6a 30c;1f4 1 47 301;1f5 1 67 301;
   1f8 1 4e 300;1f9 1 6e 300;1fa 1 c5 301;1fb 1 e5 301;1fc 1 c6 301;1fd 1 e6 301;1fe 1 d8 301;
   1ff 1 f8 301;200 1 41 30f;201 1 61 30f;202 1 41 311;203 1 61 311;204 1 45 30f;205 1 65 30f;
   206 1 45 311;207 1 65 311;208 1 49 30f;209 1 69 30f;20a 1 49 311;20b 1 69 311;20c 1 4f 30f;
   20d 1 6f 30f;20e 1 4f 311;20f 1 6f 311;210 1 52 30f;211 1 72 30f;212 1 52 311;213 1 72 311;
   214 1 55 30f;215 1 75 30f;216 1 55 311;217 1 75 311;218 1 53 326;219 1 73 326;21a 1 54 326;
   21b 1 74 326;21e 1 48 30c;21f 1 68 30c;226 1 41 307;227 1 61 307;228 1 45 327;229 1 65 327;
   22a 1 d6 304;22b 1 f6 304;22c 1 d5 304;22d 1 f5 304;22e 1 4f 307;22f 1 6f 307;230 1 22e 304;
   231 1 22f 304;232 1 59 304;233 1 79 304;340 0 300;341 0 301;343 0 313;344 0 308 301;
   374 0 2b9;37e 0 3b;385 1 a8 301;386 1 391 301;387 0 b7;388 1 395 301;389 1 397 301;
   38a 1 399 301;38c 1 39f 301;38e 1 3a5 301;38f 1 3a9 301;390 1 3ca 301;3aa 1 399 308;
   3ab 1 3a5 308;3ac 1 3b1 301;3ad 1 3b5 301;3ae 1 3b7 301;3af 1 3b9 301;3b0 1 3cb 301;
   3ca 1 3b9 308;3cb 1 3c5 308;3cc 1 3bf 301;3cd 1 3c5 301;3ce 1 3c9 301;3d3 1 3d2 301;
   3d4 1 3d2 308;400 1 415 300;401 1 415 308;403 1 413 301;407 1 406 308;40c 1 41a 301;
   40d 1 418 300;40e 1 423 306;419 1 418 306;439 1 438 306;450 1 435 300;451 1 435 308;
   453 1 433 301;457 1 456 308;45c 1 43a 301;45d 1 438 300;45e 1 443 306;476 1 474 30f;
   477 1 475 30f;4c1 1 416 306;4c2 1 436 306;4d0 1 410 306;4d1 1 430 306;4d2 1 410 308;
   4d3 1 430 308;4d6 1 415 306;4d7 1 435 306;4da 1 4d8 308;4db 1 4d9 308;4dc 1 416 308;
   4dd 1 436 308;4de 1 417 308;4df 1 437 308;4e2 1 418 304;4e3 1 438 304;4e4 1 418 308;
   4e5 1 438 308;4e6 1 41e 308;4e7 1 43e 308;4ea 1 4e8 308;4eb 1 4e9 308;4ec 1 42d 308;
   4ed 1 44d 308;4ee 1 423 304;4ef 1 443 304;4f0 1 423 308;4f1 1 443 308;4f2 1 423 30b;
   4f3 1 443 30b;4f4 1 427 308;4f5 1 447 308;4f8 1 42b 308;4f9 1 44b 308;622 1 627 653;
   623 1 627 654;624 1 648 654;625 1 627 655;626 1 64a 654;6c0 1 6d5 654;6c2 1 6c1 654;
   6d3 1 6d2 654;929 1 928 93c;931 1 930 93c;934 1 933 93c;958 0 915 93c;959 0 916 93c;
   95a 0 917 93c;95b 0 91c 93c;95c 0 921 93c;95d 0 922 93c;95e 0 92b 93c;95f 0 92f 93c;
   9cb 1 9c7 9be;9cc 1 9c7 9d7;9dc 0 9a1 9bc;9dd 0 9a2 9bc;9df 0 9af 9bc;a33 0 a32 a3c;
   a36 0 a38 a3c;a59 0 a16 a3c;a5a 0 a17 a3c;a5b 0 a1c a3c;a5e 0 a2b a3c;b48 1 b47 b56;
   b4b 1 b47 b3e;b4c 1 b47 b57;b5c 0 b21 b3c;b5d 0 b22 b3c;b94 1 b92 bd7;bca 1 bc6 bbe;
   bcb 1 bc7 bbe;bcc 1 bc6 bd7;c48 1 c46 c56;cc0 1 cbf cd5;cc7 1 cc6 cd5;cc8 1 cc6 cd6;
   cca 1 cc6 cc2;ccb 1 cca cd5;d4a 1 d46 d3e;d4b 1 d47 d3e;d4c 1 d46 d57;dda 1 dd9 dca;
   ddc 1 dd9 dcf;ddd 1 ddc dca;dde 1 dd9 ddf;f43 0 f42 fb7;f4d 0 f4c fb7;f52 0 f51 fb7;
   f57 0 f56 fb7;f5c 0 f5b fb7;f69 0 f40 fb5;f73 0 f71 f72;f75 0 f71 f74;f76 0 fb2 f80;
   f78 0 fb3 f80;f81 0 f71 f80;f93 0 f92 fb7;f9d 0 f9c fb7;fa2 0 fa1 fb7;fa7 0 fa6 fb7;
   fac 0 fab fb7;fb9 0 f90 fb5;1026 1 1025 102e;1b06 1 1b05 1b35;1b08 1 1b07 1b35;
   1b0a 1 1b09 1b35;1b0c 1 1b0b 1b35;1b0e 1 1b0d 1b35;1b12 1 1b11 1b35;1b3b 1 1b3a 1b35;
   1b3d 1 1b3c 1b35;1b40 1 1b3e 1b35;1b41 1 1b3f 1b35;1b43 1 1b42 1b35;1e00 1 41 325;
   1e01 1 61 325;1e02 1 42 307;1e03 1 62 307;1e04 1 42 323;1e05 1 62 323;1e06 1 42 331;
   1e07 1 62 331;1e08 1 c7 301;1e09 1 e7 301;1e0a 1 44 307;1e0b 1 64 307;1e0c 1 44 323;
   1e0d 1 64 323;1e0e 1 44 331;1e0f 1 64 331;1e10 1 44 327;1e11 1 64 327;1e12 1 44 32d;
   1e13 1 64 32d;1e14 1 112 300;1e15 1 113 300;1e16 1 112 301;1e17 1 113 301;1e18 1 45 32d;
   1e19 1 65 32d;1e1a 1 45 330;1e1b 1 65 330;1e1c 1 228 306;1e1d 1 229 306;1e1e 1 46 307;
   1e1f 1 66 307;1e20 1 47 304;1e21 1 67 304;1e22 1 48 307;1e23 1 68 307;1e24 1 48 323;
   1e25 1 68 323;1e26 1 48 308;1e27 1 68 308;1e28 1 48 327;1e29 1 68 327;1e2a 1 48 32e;
   1e2b 1 68 32e;1e2c 1 49 330;1e2d 1 69 330;1e2e 1 cf 301;1e2f 1 ef 301;1e30 1 4b 301;
   1e31 1 6b 301;1e32 1 4b 323;1e33 1 6b 323;1e34 1 4b 331;1e35 1 6b 331;1e36 1 4c 323;
   1e37 1 6c 323;1e38 1 1e36 304;1e39 1 1e37 304;1e3a 1 4c 331;1e3b 1 6c 331;1e3c 1 4c 32d;
   1e3d 1 6c 32d;1e3e 1 4d 301;1e3f 1 6d 301;1e40 1 4d 307;1e41 1 6d 307;1e42 1 4d 323;
   1e43 1 6d 323;1e44 1 4e 307;1e45 1 6e 307;1e46 1 4e 323;1e47 1 6e 323;1e48 1 4e 331;
   1e49 1 6e 331;1e4a 1 4e 32d;1e4b 1 6e 32d;1e4c 1 d5 301;1e4d 1 f5 301;1e4e 1 d5 308;
   1e4f 1 f5 308;1e50 1 14c 300;1e51 1 14d 300;1e52 1 14c 301;1e53 1 14d 301;1e54 1 50 301;
   1e55 1 70 301;1e56 1 50 307;1e57 1 70 307;1e58 1 52 307;1e59 1 72 307;1e5a 1 52 323;
   1e5b 1 72 323;1e5c 1 1e5a 304;1e5d 1 1e5b 304;1e5e 1 52 331;1e5f 1 72 331;1e60 1 53 307;
   1e61 1 73 307;1e62 1 53 323;1e63 1 73 323;1e64 1 15a 307;1e65 1 15b 307;1e66 1 160 307;
   1e67 1 161 307;1e68 1 1e62 307;1e69 1 1e63 307;1e6a 1 54 307;1e6b 1 74 307;1e6c 1 54 323;
   1e6d 1 74 323;1e6e 1 54 331;1e6f 1 74 331;1e70 1 54 32d;1e71 1 74 32d;1e72 1 55 324;
   1e73 1 75 324;1e74 1 55 330;1e75 1 75 330;1e76 1 55 32d;1e77 1 75 32d;1e78 1 168 301;
   1e79 1 169 301;1e7a 1 16a 308;1e7b 1 16b 308;1e7c 1 56 303;1e7d 1 76 303;1e7e 1 56 323;
   1e7f 1 76 323;1e80 1 57 300;1e81 1 77 300;1e82 1 57 301;1e83 1 77 301;1e84 1 57 308;
   1e85 1 77 308;1e86 1 57 307;1e87 1 77 307;1e88 1 57 323;1e89 1 77 323;1e8a 1 58 307;
   1e8b 1 78 307;1e8c 1 58 308;1e8d 1 78 308;1e8e 1 59 307;1e8f 1 79 307;1e90 1 5a 302;
   1e91 1 7a 302;1e92 1 5a 323;1e93 1 7a 323;1e94 1 5a 331;1e95 1 7a 331;1e96 1 68 331;
   1e97 1 74 308;1e98 1 77 30a;1e99 1 79 30a;1e9b 1 17f 307;1ea0 1 41 323;1ea1 1 61 323;
   1ea2 1 41 309;1ea3 1 61 309;1ea4 1 c2 301;1ea5 1 e2 301;1ea6 1 c2 300;1ea7 1 e2 300;
   1ea8 1 c2 309;1ea9 1 e2 309;1eaa 1 c2 303;1eab 1 e2 303;1eac 1 1ea0 302;1ead 1 1ea1 302;
   1eae 1 102 301;1eaf 1 103 301;1eb0 1 102 300;1eb1 1 103 300;1eb2 1 102 309;1eb3 1 103 309;
   1eb4 1 102 303;1eb5 1 103 303;1eb6 1 1ea0 306;1eb7 1 1ea1 306;1eb8 1 45 323;1eb9 1 65 323;
   1eba 1 45 309;1ebb 1 65 309;1ebc 1 45 303;1ebd 1 65 303;1ebe 1 ca 301;1ebf 1 ea 301;
   1ec0 1 ca 300;1ec1 1 ea 300;1ec2 1 ca 309;1ec3 1 ea 309;1ec4 1 ca 303;1ec5 1 ea 303;
   1ec6 1 1eb8 302;1ec7 1 1eb9 302;1ec8 1 49 309;1ec9 1 69 309;1eca 1 49 323;1ecb 1 69 323;
   1ecc 1 4f 323;1ecd 1 6f 323;1ece 1 4f 309;1ecf 1 6f 309;1ed0 1 d4 301;1ed1 1 f4 301;
   1ed2 1 d4 300;1ed3 1 f4 300;1ed4 1 d4 309;1ed5 1 f4 309;1ed6 1 d4 303;1ed7 1 f4 303;
   1ed8 1 1ecc 302;1ed9 1 1ecd 302;1eda 1 1a0 301;1edb 1 1a1 301;1edc 1 1a0 300;1edd 1 1a1 300;
   1ede 1 1a0 309;1edf 1 1a1 309;1ee0 1 1a0 303;1ee1 1 1a1 303;1ee2 1 1a0 323;1ee3 1 1a1 323;
   1ee4 1 55 323;1ee5 1 75 323;1ee6 1 55 309;1ee7 1 75 309;1ee8 1 1af 301;1ee9 1 1b0 301;
   1eea 1 1af 300;1eeb 1 1b0 300;1eec 1 1af 309;1eed 1 1b0 309;1eee 1 1af 303;1eef 1 1b0 303;
   1ef0 1 1af 323;1ef1 1 1b0 323;1ef2 1 59 300;1ef3 1 79 300;1ef4 1 59 323;1ef5 1 79 323;
   1ef6 1 59 309;1ef7 1 79 309;1ef8 1 59 303;1ef9 1 79 303;1f00 1 3b1 313;1f01 1 3b1 314;
   1f02 1 1f00 300;1f03 1 1f01 300;1f04 1 1f00 301;1f05 1 1f01 301;1f06 1 1f00 342;
   1f07 1 1f01 342;1f08 1 391 313;1f09 1 391 314;1f0a 1 1f08 300;1f0b 1 1f09 300;
   1f0c 1 1f08 301;1f0d 1 1f09 301;1f0e 1 1f08 342;1f0f 1 1f09 342;1f10 1 3b5 313;
   1f11 1 3b5 314;1f12 1 1f10 300;1f13 1 1f11 300;1f14 1 1f10 301;1f15 1 1f11 301;
   1f18 1 395 313;1f19 1 395 314;1f1a 1 1f18 300;1f1b 1 1f19 300;1f1c 1 1f18 301;
   1f1d 1 1f19 301;1f20 1 3b7 313;1f21 1 3b7 314;1f22 1 1f20 300;1f23 1 1f21 300;
   1f24 1 1f20 301;1f25 1 1f21 301;1f26 1 1f20 342;1f27 1 1f21 342;1f28 1 397 313;
   1f29 1 397 314;1f2a 1 1f28 300;1f2b 1 1f29 300;1f2c 1 1f28 301;1f2d 1 1f29 301;
   1f2e 1 1f28 342;1f2f 1 1f29 342;1f30 1 3b9 313;1f31 1 3b9 314;1f32 1 1f30 300;
   1f33 1 1f31 300;1f34 1 1f30 301;1f35 1 1f31 301;1f36 1 1f30 342;1f37 1 1f31 342;
   1f38 1 399 313;1f39 1 399 314;1f3a 1 1f38 300;1f3b 1 1f39 300;1f3c 1 1f38 301;
   1f3d 1 1f39 301;1f3e 1 1f38 342;1f3f 1 1f39 342;1f40 1 3bf 313;1f41 1 3bf 314;
   1f42 1 1f40 300;1f43 1 1f41 300;1f44 1 1f40 301;1f45 1 1f41 301;1f48 1 39f 313;
   1f49 1 39f 314;1f4a 1 1f48 300;1f4b 1 1f49 300;1f4c 1 1f48 301;1f4d 1 1f49 301;
   1f50 1 3c5 313;1f51 1 3c5 314;1f52 1 1f50 300;1f53 1 1f51 300;1f54 1 1f50 301;
   1f55 1 1f51 301;1f56 1 1f50 342;1f57 1 1f51 342;1f59 1 3a5 314;1f5b 1 1f59 300;
   1f5d 1 1f59 301;1f5f 1 1f59 342;1f60 1 3c9 313;1f61 1 3c9 314;1f62 1 1f60 300;
   1f63 1 1f61 300;1f64 1 1f60 301;1f65 1 1f61 301;1f66 1 1f60 342;1f67 1 1f61 342;
   1f68 1 3a9 313;1f69 1 3a9 314;1f6a 1 1f68 300;1f6b 1 1f69 300;1f6c 1 1f68 301;
   1f6d 1 1f69 301;1f6e 1 1f68 342;1f6f 1 1f69 342;1f70 1 3b1 300;1f71 0 3ac;1f72 1 3b5 300;
   1f73 0 3ad;1f74 1 3b7 300;1f75 0 3ae;1f76 1 3b9 300;1f77 0 3af;1f78 1 3bf 300;1f79 0 3cc;
   1f7a 1 3c5 300;1f7b 0 3cd;1f7c 1 3c9 300;1f7d 0 3ce;1f80 1 1f00 345;1f81 1 1f01 345;
   1f82 1 1f02 345;1f83 1 1f03 345;1f84 1 1f04 345;1f85 1 1f05 345;1f86 1 1f06 345;
   1f87 1 1f07 345;1f88 1 1f08 345;1f89 1 1f09 345;1f8a 1 1f0a 345;1f8b 1 1f0b 345;
   1f8c 1 1f0c 345;1f8d 1 1f0d 345;1f8e 1 1f0e 345;1f8f 1 1f0f 345;1f90 1 1f20 345;
   1f91 1 1f21 345;1f92 1 1f22 345;1f93 1 1f23 345;1f94 1 1f24 345;1f95 1 1f25 345;
   1f96 1 1f26 345;1f97 1 1f27 345;1f98 1 1f28 345;1f99 1 1f29 345;1f9a 1 1f2a 345;
   1f9b 1 1f2b 345;1f9c 1 1f2c 345;1f9d 1 1f2d 345;1f9e 1 1f2e 345;1f9f 1 1f2f 345;
   1fa0 1 1f60 345;1fa1 1 1f61 345;1fa2 1 1f62 345;1fa3 1 1f63 345;1fa4 1 1f64 345;
   1fa5 1 1f65 345;1fa6 1 1f66 345;1fa7 1 1f67 345;1fa8 1 1f68 345;1fa9 1 1f69 345;
   1faa 1 1f6a 345;1fab 1 1f6b 345;1fac 1 1f6c 345;1fad 1 1f6d 345;1fae 1 1f6e 345;
   1faf 1 1f6f 345;1fb0 1 3b1 306;1fb1 1 3b1 304;1fb2 1 1f70 345;1fb3 1 3b1 345;1fb4 1 3ac 345;
   1fb6 1 3b1 342;1fb7 1 1fb6 345;1fb8 1 391 306;1fb9 1 391 304;1fba 1 391 300;1fbb 0 386;
   1fbc 1 391 345;1fbe 0 3b9;1fc1 1 a8 342;1fc2 1 1f74 345;1fc3 1 3b7 345;1fc4 1 3ae 345;
   1fc6 1 3b7 342;1fc7 1 1fc6 345;1fc8 1 395 300;1fc9 0 388;1fca 1 397 300;1fcb 0 389;
   1fcc 1 397 345;1fcd 1 1fbf 300;1fce 1 1fbf 301;1fcf 1 1fbf 342;1fd0 1 3b9 306;
   1fd1 1 3b9 304;1fd2 1 3ca 300;1fd3 0 390;1fd6 1 3b9 342;1fd7 1 3ca 342;1fd8 1 399 306;
   1fd9 1 399 304;1fda 1 399 300;1fdb 0 38a;1fdd 1 1ffe 300;1fde 1 1ffe 301;1fdf 1 1ffe 342;
   1fe0 1 3c5 306;1fe1 1 3c5 304;1fe2 1 3cb 300;1fe3 0 3b0;1fe4 1 3c1 313;1fe5 1 3c1 314;
   1fe6 1 3c5 342;1fe7 1 3cb 342;1fe8 1 3a5 306;1fe9 1 3a5 304;1fea 1 3a5 300;1feb 0 38e;
   1fec 1 3a1 314;1fed 1 a8 300;1fee 0 385;1fef 0 60;1ff2 1 1f7c 345;1ff3 1 3c9 345;
   1ff4 1 3ce 345;1ff6 1 3c9 342;1ff7 1 1ff6 345;1ff8 1 39f 300;1ff9 0 38c;1ffa 1 3a9 300;
   1ffb 0 38f;1ffc 1 3a9 345;1ffd 0 b4;2000 0 2002;2001 0 2003;2126 0 3a9;212a 0 4b;212b 0 c5;
   219a 1 2190 338;219b 1 2192 338;21ae 1 2194 338;21cd 1 21d0 338;21ce 1 21d4 338;
   21cf 1 21d2 338;2204 1 2203 338;2209 1 2208 338;220c 1 220b 338;2224 1 2223 338;
   2226 1 2225 338;2241 1 223c 338;2244 1 2243 338;2247 1 2245 338;2249 1 2248 338;
   2260 1 3d 338;2262 1 2261 338;226d 1 224d 338;226e 1 3c 338;226f 1 3e 338;2270 1 2264 338;
   2271 1 2265 338;2274 1 2272 338;2275 1 2273 338;2278 1 2276 338;2279 1 2277 338;
   2280 1 227a 338;2281 1 227b 338;2284 1 2282 338;2285 1 2283 338;2288 1 2286 338;
   2289 1 2287 338;22ac 1 22a2 338;22ad 1 22a8 338;22ae 1 22a9 338;22af 1 22ab 338;
   22e0 1 227c 338;22e1 1 227d 338;22e2 1 2291 338;22e3 1 2292 338;22ea 1 22b2 338;
   22eb 1 22b3 338;22ec 1 22b4 338;22ed 1 22b5 338;2329 0 3008;232a 0 3009;2adc 0 2add 338;
   304c 1 304b 3099;304e 1 304d 3099;3050 1 304f 3099;3052 1 3051 3099;3054 1 3053 3099;
   3056 1 3055 3099;3058 1 3057 3099;305a 1 3059 3099;305c 1 305b 3099;305e 1 305d 3099;
   3060 1 305f 3099;3062 1 3061 3099;3065 1 3064 3099;3067 1 3066 3099;3069 1 3068 3099;
   3070 1 306f 3099;3071 1 306f 309a;3073 1 3072 3099;3074 1 3072 309a;3076 1 3075 3099;
   3077 1 3075 309a;3079 1 3078 3099;307a 1 3078 309a;307c 1 307b 3099;307d 1 307b 309a;
   3094 1 3046 3099;309e 1 309d 3099;30ac 1 30ab 3099;30ae 1 30ad 3099;30b0 1 30af 3099;
   30b2 1 30b1 3099;30b4 1 30b3 3099;30b6 1 30b5 3099;30b8 1 30b7 3099;30ba 1 30b9 3099;
   30bc 1 30bb 3099;30be 1 30bd 3099;30c0 1 30bf 3099;30c2 1 30c1 3099;30c5 1 30c4 3099;
   30c7 1 30c6 3099;30c9 1 30c8 3099;30d0 1 30cf 3099;30d1 1 30cf 309a;30d3 1 30d2 3099;
   30d4 1 30d2 309a;30d6 1 30d5 3099;30d7 1 30d5 309a;30d9 1 30d8 3099;30da 1 30d8 309a;
   30dc 1 30db 3099;30dd 1 30db 309a;30f4 1 30a6 3099;30f7 1 30ef 3099;30f8 1 30f0 3099;
   30f9 1 30f1 3099;30fa 1 30f2 3099;30fe 1 30fd 3099;f900 0 8c48;f901 0 66f4;f902 0 8eca;
   f903 0 8cc8;f904 0 6ed1;f905 0 4e32;f906 0 53e5;f907 0 9f9c;f908 0 9f9c;f909 0 5951;
   f90a 0 91d1;f90b 0 5587;f90c 0 5948;f90d 0 61f6;f90e 0 7669;f90f 0 7f85;f910 0 863f;
   f911 0 87ba;f912 0 88f8;f913 0 908f;f914 0 6a02;f915 0 6d1b;f916 0 70d9;f917 0 73de;
   f918 0 843d;f919 0 916a;f91a 0 99f1;f91b 0 4e82;f91c 0 5375;f91d 0 6b04;f91e 0 721b;
   f91f 0 862d;f920 0 9e1e;f921 0 5d50;f922 0 6feb;f923 0 85cd;f924 0 8964;f925 0 62c9;
   f926 0 81d8;f927 0 881f;f928 0 5eca;f929 0 6717;f92a 0 6d6a;f92b 0 72fc;f92c 0 90ce;
   f92d 0 4f86;f92e 0 51b7;f92f 0 52de;f930 0 64c4;f931 0 6ad3;f932 0 7210;f933 0 76e7;
   f934 0 8001;f935 0 8606;f936 0 865c;f937 0 8def;f938 0 9732;f939 0 9b6f;f93a 0 9dfa;
   f93b 0 788c;f93c 0 797f;f93d 0 7da0;f93e 0 83c9;f93f 0 9304;f940 0 9e7f;f941 0 8ad6;
   f942 0 58df;f943 0 5f04;f944 0 7c60;f945 0 807e;f946 0 7262;f947 0 78ca;f948 0 8cc2;
   f949 0 96f7;f94a 0 58d8;f94b 0 5c62;f94c 0 6a13;f94d 0 6dda;f94e 0 6f0f;f94f 0 7d2f;
   f950 0 7e37;f951 0 964b;f952 0 52d2;f953 0 808b;f954 0 51dc;f955 0 51cc;f956 0 7a1c;
   f957 0 7dbe;f958 0 83f1;f959 0 9675;f95a 0 8b80;f95b 0 62cf;f95c 0 6a02;f95d 0 8afe;
   f95e 0 4e39;f95f 0 5be7;f960 0 6012;f961 0 7387;f962 0 7570;f963 0 5317;f964 0 78fb;
   f965 0 4fbf;f966 0 5fa9;f967 0 4e0d;f968 0 6ccc;f969 0 6578;f96a 0 7d22;f96b 0 53c3;
   f96c 0 585e;f96d 0 7701;f96e 0 8449;f96f 0 8aaa;f970 0 6bba;f971 0 8fb0;f972 0 6c88;
   f973 0 62fe;f974 0 82e5;f975 0 63a0;f976 0 7565;f977 0 4eae;f978 0 5169;f979 0 51c9;
   f97a 0 6881;f97b 0 7ce7;f97c 0 826f;f97d 0 8ad2;f97e 0 91cf;f97f 0 52f5;f980 0 5442;
   f981 0 5973;f982 0 5eec;f983 0 65c5;f984 0 6ffe;f985 0 792a;f986 0 95ad;f987 0 9a6a;
   f988 0 9e97;f989 0 9ece;f98a 0 529b;f98b 0 66c6;f98c 0 6b77;f98d 0 8f62;f98e 0 5e74;
   f98f 0 6190;f990 0 6200;f991 0 649a;f992 0 6f23;f993 0 7149;f994 0 7489;f995 0 79ca;
   f996 0 7df4;f997 0 806f;f998 0 8f26;f999 0 84ee;f99a 0 9023;f99b 0 934a;f99c 0 5217;
   f99d 0 52a3;f99e 0 54bd;f99f 0 70c8;f9a0 0 88c2;f9a1 0 8aaa;f9a2 0 5ec9;f9a3 0 5ff5;
   f9a4 0 637b;f9a5 0 6bae;f9a6 0 7c3e;f9a7 0 7375;f9a8 0 4ee4;f9a9 0 56f9;f9aa 0 5be7;
   f9ab 0 5dba;f9ac 0 601c;f9ad 0 73b2;f9ae 0 7469;f9af 0 7f9a;f9b0 0 8046;f9b1 0 9234;
   f9b2 0 96f6;f9b3 0 9748;f9b4 0 9818;f9b5 0 4f8b;f9b6 0 79ae;f9b7 0 91b4;f9b8 0 96b8;
   f9b9 0 60e1;f9ba 0 4e86;f9bb 0 50da;f9bc 0 5bee;f9bd 0 5c3f;f9be 0 6599;f9bf 0 6a02;
   f9c0 0 71ce;f9c1 0 7642;f9c2 0 84fc;f9c3 0 907c;f9c4 0 9f8d;f9c5 0 6688;f9c6 0 962e;
   f9c7 0 5289;f9c8 0 677b;f9c9 0 67f3;f9ca 0 6d41;f9cb 0 6e9c;f9cc 0 7409;f9cd 0 7559;
   f9ce 0 786b;f9cf 0 7d10;f9d0 0 985e;f9d1 0 516d;f9d2 0 622e;f9d3 0 9678;f9d4 0 502b;
   f9d5 0 5d19;f9d6 0 6dea;f9d7 0 8f2a;f9d8 0 5f8b;f9d9 0 6144;f9da 0 6817;f9db 0 7387;
   f9dc 0 9686;f9dd 0 5229;f9de 0 540f;f9df 0 5c65;f9e0 0 6613;f9e1 0 674e;f9e2 0 68a8;
   f9e3 0 6ce5;f9e4 0 7406;f9e5 0 75e2;f9e6 0 7f79;f9e7 0 88cf;f9e8 0 88e1;f9e9 0 91cc;
   f9ea 0 96e2;f9eb 0 533f;f9ec 0 6eba;f9ed 0 541d;f9ee 0 71d0;f9ef 0 7498;f9f0 0 85fa;
   f9f1 0 96a3;f9f2 0 9c57;f9f3 0 9e9f;f9f4 0 6797;f9f5 0 6dcb;f9f6 0 81e8;f9f7 0 7acb;
   f9f8 0 7b20;f9f9 0 7c92;f9fa 0 72c0;f9fb 0 7099;f9fc 0 8b58;f9fd 0 4ec0;f9fe 0 8336;
   f9ff 0 523a;fa00 0 5207;fa01 0 5ea6;fa02 0 62d3;fa03 0 7cd6;fa04 0 5b85;fa05 0 6d1e;
   fa06 0 66b4;fa07 0 8f3b;fa08 0 884c;fa09 0 964d;fa0a 0 898b;fa0b 0 5ed3;fa0c 0 5140;
   fa0d 0 55c0;fa10 0 585a;fa12 0 6674;fa15 0 51de;fa16 0 732a;fa17 0 76ca;fa18 0 793c;
   fa19 0 795e;fa1a 0 7965;fa1b 0 798f;fa1c 0 9756;fa1d 0 7cbe;fa1e 0 7fbd;fa20 0 8612;
   fa22 0 8af8;fa25 0 9038;fa26 0 90fd;fa2a 0 98ef;fa2b 0 98fc;fa2c 0 9928;fa2d 0 9db4;
   fa2e 0 90de;fa2f 0 96b7;fa30 0 4fae;fa31 0 50e7;fa32 0 514d;fa33 0 52c9;fa34 0 52e4;
   fa35 0 5351;fa36 0 559d;fa37 0 5606;fa38 0 5668;fa39 0 5840;fa3a 0 58a8;fa3b 0 5c64;
   fa3c 0 5c6e;fa3d 0 6094;fa3e 0 6168;fa3f 0 618e;fa40 0 61f2;fa41 0 654f;fa42 0 65e2;
   fa43 0 6691;fa44 0 6885;fa45 0 6d77;fa46 0 6e1a;fa47 0 6f22;fa48 0 716e;fa49 0 722b;
   fa4a 0 7422;fa4b 0 7891;fa4c 0 793e;fa4d 0 7949;fa4e 0 7948;fa4f 0 7950;fa50 0 7956;
   fa51 0 795d;fa52 0 798d;fa53 0 798e;fa54 0 7a40;fa55 0 7a81;fa56 0 7bc0;fa57 0 7df4;
   fa58 0 7e09;fa59 0 7e41;fa5a 0 7f72;fa5b 0 8005;fa5c 0 81ed;fa5d 0 8279;fa5e 0 8279;
   fa5f 0 8457;fa60 0 8910;fa61 0 8996;fa62 0 8b01;fa63 0 8b39;fa64 0 8cd3;fa65 0 8d08;
   fa66 0 8fb6;fa67 0 9038;fa68 0 96e3;fa69 0 97ff;fa6a 0 983b;fa6b 0 6075;fa6c 0 242ee;
   fa6d 0 8218;fa70 0 4e26;fa71 0 51b5;fa72 0 5168;fa73 0 4f80;fa74 0 5145;fa75 0 5180;
   fa76 0 52c7;fa77 0 52fa;fa78 0 559d;fa79 0 5555;fa7a 0 5599;fa7b 0 55e2;fa7c 0 585a;
   fa7d 0 58b3;fa7e 0 5944;fa7f 0 5954;fa80 0 5a62;fa81 0 5b28;fa82 0 5ed2;fa83 0 5ed9;
   fa84 0 5f69;fa85 0 5fad;fa86 0 60d8;fa87 0 614e;fa88 0 6108;fa89 0 618e;fa8a 0 6160;
   fa8b 0 61f2;fa8c 0 6234;fa8d 0 63c4;fa8e 0 641c;fa8f 0 6452;fa90 0 6556;fa91 0 6674;
   fa92 0 6717;fa93 0 671b;fa94 0 6756;fa95 0 6b79;fa96 0 6bba;fa97 0 6d41;fa98 0 6edb;
   fa99 0 6ecb;fa9a 0 6f22;fa9b 0 701e;fa9c 0 716e;fa9d 0 77a7;fa9e 0 7235;fa9f 0 72af;
   faa0 0 732a;faa1 0 7471;faa2 0 7506;faa3 0 753b;faa4 0 761d;faa5 0 761f;faa6 0 76ca;
   faa7 0 76db;faa8 0 76f4;faa9 0 774a;faaa 0 7740;faab 0 78cc;faac 0 7ab1;faad 0 7bc0;
   faae 0 7c7b;faaf 0 7d5b;fab0 0 7df4;fab1 0 7f3e;fab2 0 8005;fab3 0 8352;fab4 0 83ef;
   fab5 0 8779;fab6 0 8941;fab7 0 8986;fab8 0 8996;fab9 0 8abf;faba 0 8af8;fabb 0 8acb;
   fabc 0 8b01;fabd 0 8afe;fabe 0 8aed;fabf 0 8b39;fac0 0 8b8a;fac1 0 8d08;fac2 0 8f38;
   fac3 0 9072;fac4 0 9199;fac5 0 9276;fac6 0 967c;fac7 0 96e3;fac8 0 9756;fac9 0 97db;
   faca 0 97ff;facb 0 980b;facc 0 983b;facd 0 9b12;face 0 9f9c;facf 0 2284a;fad0 0 22844;
   fad1 0 233d5;fad2 0 3b9d;fad3 0 4018;fad4 0 4039;fad5 0 25249;fad6 0 25cd0;fad7 0 27ed3;
   fad8 0 9f43;fad9 0 9f8e;fb1d 0 5d9 5b4;fb1f 0 5f2 5b7;fb2a 0 5e9 5c1;fb2b 0 5e9 5c2;
   fb2c 0 fb49 5c1;fb2d 0 fb49 5c2;fb2e 0 5d0 5b7;fb2f 0 5d0 5b8;fb30 0 5d0 5bc;fb31 0 5d1 5bc;
   fb32 0 5d2 5bc;fb33 0 5d3 5bc;fb34 0 5d4 5bc;fb35 0 5d5 5bc;fb36 0 5d6 5bc;fb38 0 5d8 5bc;
   fb39 0 5d9 5bc;fb3a 0 5da 5bc;fb3b 0 5db 5bc;fb3c 0 5dc 5bc;fb3e 0 5de 5bc;fb40 0 5e0 5bc;
   fb41 0 5e1 5bc;fb43 0 5e3 5bc;fb44 0 5e4 5bc;fb46 0 5e6 5bc;fb47 0 5e7 5bc;fb48 0 5e8 5bc;
   fb49 0 5e9 5bc;fb4a 0 5ea 5bc;fb4b 0 5d5 5b9;fb4c 0 5d1 5bf;fb4d 0 5db 5bf;fb4e 0 5e4 5bf;
   1109a 1 11099 110ba;1109c 1 1109b 110ba;110ab 1 110a5 110ba;1112e 1 11131 11127;
   1112f 1 11132 11127;1134b 1 11347 1133e;1134c 1 11347 11357;114bb 1 114b9 114ba;
   114bc 1 114b9 114b0;114be 1 114b9 114bd;115ba 1 115b8 115af;115bb 1 115b9 115af;
   11938 1 11935 11930;1d15e 0 1d157 1d165;1d15f 0 1d158 1d165;1d160 0 1d15f 1d16e;
   1d161 0 1d15f 1d16f;1d162 0 1d15f 1d170;1d163 0 1d15f 1d171;1d164 0 1d15f 1d172;
   1d1bb 0 1d1b9 1d165;1d1bc 0 1d1ba 1d165;1d1bd 0 1d1bb 1d16e;1d1be 0 1d1bc 1d16e;
   1d1bf 0 1d1bb 1d16f;1d1c0 0 1d1bc 1d16f;2f800 0 4e3d;2f801 0 4e38;2f802 0 4e41;
   2f803 0 20122;2f804 0 4f60;2f805 0 4fae;2f806 0 4fbb;2f807 0 5002;2f808 0 507a;2f809 0 5099;
   2f80a 0 50e7;2f80b 0 50cf;2f80c 0 349e;2f80d 0 2063a;2f80e 0 514d;2f80f 0 5154;2f810 0 5164;
   2f811 0 5177;2f812 0 2051c;2f813 0 34b9;2f814 0 5167;2f815 0 518d;2f816 0 2054b;
   2f817 0 5197;2f818 0 51a4;2f819 0 4ecc;2f81a 0 51ac;2f81b 0 51b5;2f81c 0 291df;2f81d 0 51f5;
   2f81e 0 5203;2f81f 0 34df;2f820 0 523b;2f821 0 5246;2f822 0 5272;2f823 0 5277;2f824 0 3515;
   2f825 0 52c7;2f826 0 52c9;2f827 0 52e4;2f828 0 52fa;2f829 0 5305;2f82a 0 5306;2f82b 0 5317;
   2f82c 0 5349;2f82d 0 5351;2f82e 0 535a;2f82f 0 5373;2f830 0 537d;2f831 0 537f;2f832 0 537f;
   2f833 0 537f;2f834 0 20a2c;2f835 0 7070;2f836 0 53ca;2f837 0 53df;2f838 0 20b63;
   2f839 0 53eb;2f83a 0 53f1;2f83b 0 5406;2f83c 0 549e;2f83d 0 5438;2f83e 0 5448;2f83f 0 5468;
   2f840 0 54a2;2f841 0 54f6;2f842 0 5510;2f843 0 5553;2f844 0 5563;2f845 0 5584;2f846 0 5584;
   2f847 0 5599;2f848 0 55ab;2f849 0 55b3;2f84a 0 55c2;2f84b 0 5716;2f84c 0 5606;2f84d 0 5717;
   2f84e 0 5651;2f84f 0 5674;2f850 0 5207;2f851 0 58ee;2f852 0 57ce;2f853 0 57f4;2f854 0 580d;
   2f855 0 578b;2f856 0 5832;2f857 0 5831;2f858 0 58ac;2f859 0 214e4;2f85a 0 58f2;2f85b 0 58f7;
   2f85c 0 5906;2f85d 0 591a;2f85e 0 5922;2f85f 0 5962;2f860 0 216a8;2f861 0 216ea;
   2f862 0 59ec;2f863 0 5a1b;2f864 0 5a27;2f865 0 59d8;2f866 0 5a66;2f867 0 36ee;2f868 0 36fc;
   2f869 0 5b08;2f86a 0 5b3e;2f86b 0 5b3e;2f86c 0 219c8;2f86d 0 5bc3;2f86e 0 5bd8;2f86f 0 5be7;
   2f870 0 5bf3;2f871 0 21b18;2f872 0 5bff;2f873 0 5c06;2f874 0 5f53;2f875 0 5c22;2f876 0 3781;
   2f877 0 5c60;2f878 0 5c6e;2f879 0 5cc0;2f87a 0 5c8d;2f87b 0 21de4;2f87c 0 5d43;
   2f87d 0 21de6;2f87e 0 5d6e;2f87f 0 5d6b;2f880 0 5d7c;2f881 0 5de1;2f882 0 5de2;2f883 0 382f;
   2f884 0 5dfd;2f885 0 5e28;2f886 0 5e3d;2f887 0 5e69;2f888 0 3862;2f889 0 22183;2f88a 0 387c;
   2f88b 0 5eb0;2f88c 0 5eb3;2f88d 0 5eb6;2f88e 0 5eca;2f88f 0 2a392;2f890 0 5efe;
   2f891 0 22331;2f892 0 22331;2f893 0 8201;2f894 0 5f22;2f895 0 5f22;2f896 0 38c7;
   2f897 0 232b8;2f898 0 261da;2f899 0 5f62;2f89a 0 5f6b;2f89b 0 38e3;2f89c 0 5f9a;
   2f89d 0 5fcd;2f89e 0 5fd7;2f89f 0 5ff9;2f8a0 0 6081;2f8a1 0 393a;2f8a2 0 391c;2f8a3 0 6094;
   2f8a4 0 226d4;2f8a5 0 60c7;2f8a6 0 6148;2f8a7 0 614c;2f8a8 0 614e;2f8a9 0 614c;2f8aa 0 617a;
   2f8ab 0 618e;2f8ac 0 61b2;2f8ad 0 61a4;2f8ae 0 61af;2f8af 0 61de;2f8b0 0 61f2;2f8b1 0 61f6;
   2f8b2 0 6210;2f8b3 0 621b;2f8b4 0 625d;2f8b5 0 62b1;2f8b6 0 62d4;2f8b7 0 6350;2f8b8 0 22b0c;
   2f8b9 0 633d;2f8ba 0 62fc;2f8bb 0 6368;2f8bc 0 6383;2f8bd 0 63e4;2f8be 0 22bf1;2f8bf 0 6422;
   2f8c0 0 63c5;2f8c1 0 63a9;2f8c2 0 3a2e;2f8c3 0 6469;2f8c4 0 647e;2f8c5 0 649d;2f8c6 0 6477;
   2f8c7 0 3a6c;2f8c8 0 654f;2f8c9 0 656c;2f8ca 0 2300a;2f8cb 0 65e3;2f8cc 0 66f8;2f8cd 0 6649;
   2f8ce 0 3b19;2f8cf 0 6691;2f8d0 0 3b08;2f8d1 0 3ae4;2f8d2 0 5192;2f8d3 0 5195;2f8d4 0 6700;
   2f8d5 0 669c;2f8d6 0 80ad;2f8d7 0 43d9;2f8d8 0 6717;2f8d9 0 671b;2f8da 0 6721;2f8db 0 675e;
   2f8dc 0 6753;2f8dd 0 233c3;2f8de 0 3b49;2f8df 0 67fa;2f8e0 0 6785;2f8e1 0 6852;2f8e2 0 6885;
   2f8e3 0 2346d;2f8e4 0 688e;2f8e5 0 681f;2f8e6 0 6914;2f8e7 0 3b9d;2f8e8 0 6942;2f8e9 0 69a3;
   2f8ea 0 69ea;2f8eb 0 6aa8;2f8ec 0 236a3;2f8ed 0 6adb;2f8ee 0 3c18;2f8ef 0 6b21;
   2f8f0 0 238a7;2f8f1 0 6b54;2f8f2 0 3c4e;2f8f3 0 6b72;2f8f4 0 6b9f;2f8f5 0 6bba;2f8f6 0 6bbb;
   2f8f7 0 23a8d;2f8f8 0 21d0b;2f8f9 0 23afa;2f8fa 0 6c4e;2f8fb 0 23cbc;2f8fc 0 6cbf;
   2f8fd 0 6ccd;2f8fe 0 6c67;2f8ff 0 6d16;2f900 0 6d3e;2f901 0 6d77;2f902 0 6d41;2f903 0 6d69;
   2f904 0 6d78;2f905 0 6d85;2f906 0 23d1e;2f907 0 6d34;2f908 0 6e2f;2f909 0 6e6e;2f90a 0 3d33;
   2f90b 0 6ecb;2f90c 0 6ec7;2f90d 0 23ed1;2f90e 0 6df9;2f90f 0 6f6e;2f910 0 23f5e;
   2f911 0 23f8e;2f912 0 6fc6;2f913 0 7039;2f914 0 701e;2f915 0 701b;2f916 0 3d96;2f917 0 704a;
   2f918 0 707d;2f919 0 7077;2f91a 0 70ad;2f91b 0 20525;2f91c 0 7145;2f91d 0 24263;
   2f91e 0 719c;2f91f 0 243ab;2f920 0 7228;2f921 0 7235;2f922 0 7250;2f923 0 24608;
   2f924 0 7280;2f925 0 7295;2f926 0 24735;2f927 0 24814;2f928 0 737a;2f929 0 738b;
   2f92a 0 3eac;2f92b 0 73a5;2f92c 0 3eb8;2f92d 0 3eb8;2f92e 0 7447;2f92f 0 745c;2f930 0 7471;
   2f931 0 7485;2f932 0 74ca;2f933 0 3f1b;2f934 0 7524;2f935 0 24c36;2f936 0 753e;
   2f937 0 24c92;2f938 0 7570;2f939 0 2219f;2f93a 0 7610;2f93b 0 24fa1;2f93c 0 24fb8;
   2f93d 0 25044;2f93e 0 3ffc;2f93f 0 4008;2f940 0 76f4;2f941 0 250f3;2f942 0 250f2;
   2f943 0 25119;2f944 0 25133;2f945 0 771e;2f946 0 771f;2f947 0 771f;2f948 0 774a;
   2f949 0 4039;2f94a 0 778b;2f94b 0 4046;2f94c 0 4096;2f94d 0 2541d;2f94e 0 784e;2f94f 0 788c;
   2f950 0 78cc;2f951 0 40e3;2f952 0 25626;2f953 0 7956;2f954 0 2569a;2f955 0 256c5;
   2f956 0 798f;2f957 0 79eb;2f958 0 412f;2f959 0 7a40;2f95a 0 7a4a;2f95b 0 7a4f;2f95c 0 2597c;
   2f95d 0 25aa7;2f95e 0 25aa7;2f95f 0 7aee;2f960 0 4202;2f961 0 25bab;2f962 0 7bc6;
   2f963 0 7bc9;2f964 0 4227;2f965 0 25c80;2f966 0 7cd2;2f967 0 42a0;2f968 0 7ce8;2f969 0 7ce3;
   2f96a 0 7d00;2f96b 0 25f86;2f96c 0 7d63;2f96d 0 4301;2f96e 0 7dc7;2f96f 0 7e02;2f970 0 7e45;
   2f971 0 4334;2f972 0 26228;2f973 0 26247;2f974 0 4359;2f975 0 262d9;2f976 0 7f7a;
   2f977 0 2633e;2f978 0 7f95;2f979 0 7ffa;2f97a 0 8005;2f97b 0 264da;2f97c 0 26523;
   2f97d 0 8060;2f97e 0 265a8;2f97f 0 8070;2f980 0 2335f;2f981 0 43d5;2f982 0 80b2;
   2f983 0 8103;2f984 0 440b;2f985 0 813e;2f986 0 5ab5;2f987 0 267a7;2f988 0 267b5;
   2f989 0 23393;2f98a 0 2339c;2f98b 0 8201;2f98c 0 8204;2f98d 0 8f9e;2f98e 0 446b;
   2f98f 0 8291;2f990 0 828b;2f991 0 829d;2f992 0 52b3;2f993 0 82b1;2f994 0 82b3;2f995 0 82bd;
   2f996 0 82e6;2f997 0 26b3c;2f998 0 82e5;2f999 0 831d;2f99a 0 8363;2f99b 0 83ad;2f99c 0 8323;
   2f99d 0 83bd;2f99e 0 83e7;2f99f 0 8457;2f9a0 0 8353;2f9a1 0 83ca;2f9a2 0 83cc;2f9a3 0 83dc;
   2f9a4 0 26c36;2f9a5 0 26d6b;2f9a6 0 26cd5;2f9a7 0 452b;2f9a8 0 84f1;2f9a9 0 84f3;
   2f9aa 0 8516;2f9ab 0 273ca;2f9ac 0 8564;2f9ad 0 26f2c;2f9ae 0 455d;2f9af 0 4561;
   2f9b0 0 26fb1;2f9b1 0 270d2;2f9b2 0 456b;2f9b3 0 8650;2f9b4 0 865c;2f9b5 0 8667;
   2f9b6 0 8669;2f9b7 0 86a9;2f9b8 0 8688;2f9b9 0 870e;2f9ba 0 86e2;2f9bb 0 8779;2f9bc 0 8728;
   2f9bd 0 876b;2f9be 0 8786;2f9bf 0 45d7;2f9c0 0 87e1;2f9c1 0 8801;2f9c2 0 45f9;2f9c3 0 8860;
   2f9c4 0 8863;2f9c5 0 27667;2f9c6 0 88d7;2f9c7 0 88de;2f9c8 0 4635;2f9c9 0 88fa;2f9ca 0 34bb;
   2f9cb 0 278ae;2f9cc 0 27966;2f9cd 0 46be;2f9ce 0 46c7;2f9cf 0 8aa0;2f9d0 0 8aed;
   2f9d1 0 8b8a;2f9d2 0 8c55;2f9d3 0 27ca8;2f9d4 0 8cab;2f9d5 0 8cc1;2f9d6 0 8d1b;2f9d7 0 8d77;
   2f9d8 0 27f2f;2f9d9 0 20804;2f9da 0 8dcb;2f9db 0 8dbc;2f9dc 0 8df0;2f9dd 0 208de;
   2f9de 0 8ed4;2f9df 0 8f38;2f9e0 0 285d2;2f9e1 0 285ed;2f9e2 0 9094;2f9e3 0 90f1;
   2f9e4 0 9111;2f9e5 0 2872e;2f9e6 0 911b;2f9e7 0 9238;2f9e8 0 92d7;2f9e9 0 92d8;2f9ea 0 927c;
   2f9eb 0 93f9;2f9ec 0 9415;2f9ed 0 28bfa;2f9ee 0 958b;2f9ef 0 4995;2f9f0 0 95b7;
   2f9f1 0 28d77;2f9f2 0 49e6;2f9f3 0 96c3;2f9f4 0 5db2;2f9f5 0 9723;2f9f6 0 29145;
   2f9f7 0 2921a;2f9f8 0 4a6e;2f9f9 0 4a76;2f9fa 0 97e0;2f9fb 0 2940a;2f9fc 0 4ab2;
   2f9fd 0 29496;2f9fe 0 980b;2f9ff 0 980b;2fa00 0 9829;2fa01 0 295b6;2fa02 0 98e2;
   2fa03 0 4b33;2fa04 0 9929;2fa05 0 99a7;2fa06 0 99c2;2fa07 0 99fe;2fa08 0 4bce;2fa09 0 29b30;
   2fa0a 0 9b12;2fa0b 0 9c40;2fa0c 0 9cfd;2fa0d 0 4cce;2fa0e 0 4ced;2fa0f 0 9d67;2fa10 0 2a0ce;
   2fa11 0 4cf8;2fa12 0 2a105;2fa13 0 2a20e;2fa14 0 2a291;2fa15 0 9ebb;2fa16 0 4d56;
   2fa17 0 9ef9;2fa18 0 9efe;2fa19 0 9f05;2fa1a 0 9f0f;2fa1b 0 9f16;2fa1c 0 9f3b;2fa1d 0 2a600"

/-- Rows `first last class` of the characters whose combining class is not 0. -/
def combiningClassText : String :=
  "300 314 e6;315 315 e8;316 319 dc;31a 31a e8;31b 31b d8;31c 320 dc;321 322 ca;323 326 dc;
   327 328 ca;329 333 dc;334 338 1;339 33c dc;33d 344 e6;345 345 f0;346 346 e6;347 349 dc;
   34a 34c e6;34d 34e dc;350 352 e6;353 356 dc;357 357 e6;358 358 e8;359 35a dc;35b 35b e6;
   35c 35c e9;35d 35e ea;35f 35f e9;360 361 ea;362 362 e9;363 36f e6;483 487 e6;591 591 dc;
   592 595 e6;596 596 dc;597 599 e6;59a 59a de;59b 59b dc;59c 5a1 e6;5a2 5a7 dc;5a8 5a9 e6;
   5aa 5aa dc;5ab 5ac e6;5ad 5ad de;5ae 5ae e4;5af 5af e6;5b0 5b0 a;5b1 5b1 b;5b2 5b2 c;
   5b3 5b3 d;5b4 5b4 e;5b5 5b5 f;5b6 5b6 10;5b7 5b7 11;5b8 5b8 12;5b9 5ba 13;5bb 5bb 14;
   5bc 5bc 15;5bd 5bd 16;5bf 5bf 17;5c1 5c1 18;5c2 5c2 19;5c4 5c4 e6;5c5 5c5 dc;5c7 5c7 12;
   610 617 e6;618 618 1e;619 619 1f;61a 61a 20;64b 64b 1b;64c 64c 1c;64d 64d 1d;64e 64e 1e;
   64f 64f 1f;650 650 20;651 651 21;652 652 22;653 654 e6;655 656 dc;657 65b e6;65c 65c dc;
   65d 65e e6;65f 65f dc;670 670 23;6d6 6dc e6;6df 6e2 e6;6e3 6e3 dc;6e4 6e4 e6;6e7 6e8 e6;
   6ea 6ea dc;6eb 6ec e6;6ed 6ed dc;711 711 24;730 730 e6;731 731 dc;732 733 e6;734 734 dc;
   735 736 e6;737 739 dc;73a 73a e6;73b 73c dc;73d 73d e6;73e 73e dc;73f 741 e6;742 742 dc;
   743 743 e6;744 744 dc;745 745 e6;746 746 dc;747 747 e6;748 748 dc;749 74a e6;7eb 7f1 e6;
   7f2 7f2 dc;7f3 7f3 e6;7fd 7fd dc;816 819 e6;81b 823 e6;825 827 e6;829 82d e6;859 85b dc;
   898 898 e6;899 89b dc;89c 89f e6;8ca 8ce e6;8cf 8d3 dc;8d4 8e1 e6;8e3 8e3 dc;8e4 8e5 e6;
   8e6 8e6 dc;8e7 8e8 e6;8e9 8e9 dc;8ea 8ec e6;8ed 8ef dc;8f0 8f0 1b;8f1 8f1 1c;8f2 8f2 1d;
   8f3 8f5 e6;8f6 8f6 dc;8f7 8f8 e6;8f9 8fa dc;8fb 8ff e6;93c 93c 7;94d 94d 9;951 951 e6;
   952 952 dc;953 954 e6;9bc 9bc 7;9cd 9cd 9;9fe 9fe e6;a3c a3c 7;a4d a4d 9;abc abc 7;
   acd acd 9;b3c b3c 7;b4d b4d 9;bcd bcd 9;c3c c3c 7;c4d c4d 9;c55 c55 54;c56 c56 5b;cbc cbc 7;
   ccd ccd 9;d3b d3c 9;d4d d4d 9;dca dca 9;e38 e39 67;e3a e3a 9;e48 e4b 6b;eb8 eb9 76;
   eba eba 9;ec8 ecb 7a;f18 f19 dc;f35 f35 dc;f37 f37 dc;f39 f39 d8;f71 f71 81;f72 f72 82;
   f74 f74 84;f7a f7d 82;f80 f80 82;f82 f83 e6;f84 f84 9;f86 f87 e6;fc6 fc6 dc;1037 1037 7;
   1039 103a 9;108d 108d dc;135d 135f e6;1714 1715 9;1734 1734 9;17d2 17d2 9;17dd 17dd e6;
   18a9 18a9 e4;1939 1939 de;193a 193a e6;193b 193b dc;1a17 1a17 e6;1a18 1a18 dc;1a60 1a60 9;
   1a75 1a7c e6;1a7f 1a7f dc;1ab0 1ab4 e6;1ab5 1aba dc;1abb 1abc e6;1abd 1abd dc;1abf 1ac0 dc;
   1ac1 1ac2 e6;1ac3 1ac4 dc;1ac5 1ac9 e6;1aca 1aca dc;1acb 1ace e6;1b34 1b34 7;1b44 1b44 9;
   1b6b 1b6b e6;1b6c 1b6c dc;1b6d 1b73 e6;1baa 1bab 9;1be6 1be6 7;1bf2 1bf3 9;1c37 1c37 7;
   1cd0 1cd2 e6;1cd4 1cd4 1;1cd5 1cd9 dc;1cda 1cdb e6;1cdc 1cdf dc;1ce0 1ce0 e6;1ce2 1ce8 1;
   1ced 1ced dc;1cf4 1cf4 e6;1cf8 1cf9 e6;1dc0 1dc1 e6;1dc2 1dc2 dc;1dc3 1dc9 e6;1dca 1dca dc;
   1dcb 1dcc e6;1dcd 1dcd ea;1dce 1dce d6;1dcf 1dcf dc;1dd0 1dd0 ca;1dd1 1df5 e6;1df6 1df6 e8;
   1df7 1df8 e4;1df9 1df9 dc;1dfa 1dfa da;1dfb 1dfb e6;1dfc 1dfc e9;1dfd 1dfd dc;1dfe 1dfe e6;
   1dff 1dff dc;20d0 20d1 e6;20d2 20d3 1;20d4 20d7 e6;20d8 20da 1;20db 20dc e6;20e1 20e1 e6;
   20e5 20e6 1;20e7 20e7 e6;20e8 20e8 dc;20e9 20e9 e6;20ea 20eb 1;20ec 20ef dc;20f0 20f0 e6;
   2cef 2cf1 e6;2d7f 2d7f 9;2de0 2dff e6;302a 302a da;302b 302b e4;302c 302c e8;302d 302d de;
   302e 302f e0;3099 309a 8;a66f a66f e6;a674 a67d e6;a69e a69f e6;a6f0 a6f1 e6;a806 a806 9;
   a82c a82c 9;a8c4 a8c4 9;a8e0 a8f1 e6;a92b a92d dc;a953 a953 9;a9b3 a9b3 7;a9c0 a9c0 9;
   aab0 aab0 e6;aab2 aab3 e6;aab4 aab4 dc;aab7 aab8 e6;aabe aabf e6;aac1 aac1 e6;aaf6 aaf6 9;
   abed abed 9;fb1e fb1e 1a;fe20 fe26 e6;fe27 fe2d dc;fe2e fe2f e6;101fd 101fd dc;
   102e0 102e0 dc;10376 1037a e6;10a0d 10a0d dc;10a0f 10a0f e6;10a38 10a38 e6;10a39 10a39 1;
   10a3a 10a3a dc;10a3f 10a3f 9;10ae5 10ae5 e6;10ae6 10ae6 dc;10d24 10d27 e6;10eab 10eac e6;
   10efd 10eff dc;10f46 10f47 dc;10f48 10f4a e6;10f4b 10f4b dc;10f4c 10f4c e6;10f4d 10f50 dc;
   10f82 10f82 e6;10f83 10f83 dc;10f84 10f84 e6;10f85 10f85 dc;11046 11046 9;11070 11070 9;
   1107f 1107f 9;110b9 110b9 9;110ba 110ba 7;11100 11102 e6;11133 11134 9;11173 11173 7;
   111c0 111c0 9;111ca 111ca 7;11235 11235 9;11236 11236 7;112e9 112e9 7;112ea 112ea 9;
   1133b 1133c 7;1134d 1134d 9;11366 1136c e6;11370 11374 e6;11442 11442 9;11446 11446 7;
   1145e 1145e e6;114c2 114c2 9;114c3 114c3 7;115bf 115bf 9;115c0 115c0 7;1163f 1163f 9;
   116b6 116b6 9;116b7 116b7 7;1172b 1172b 9;11839 11839 9;1183a 1183a 7;1193d 1193e 9;
   11943 11943 7;119e0 119e0 9;11a34 11a34 9;11a47 11a47 9;11a99 11a99 9;11c3f 11c3f 9;
   11d42 11d42 7;11d44 11d45 9;11d97 11d97 9;11f41 11f42 9;16af0 16af4 1;16b30 16b36 e6;
   16ff0 16ff1 6;1bc9e 1bc9e 1;1d165 1d166 d8;1d167 1d169 1;1d16d 1d16d e2;1d16e 1d172 d8;
   1d17b 1d182 dc;1d185 1d189 e6;1d18a 1d18b dc;1d1aa 1d1ad e6;1d242 1d244 e6;1e000 1e006 e6;
   1e008 1e018 e6;1e01b 1e021 e6;1e023 1e024 e6;1e026 1e02a e6;1e08f 1e08f e6;1e130 1e136 e6;
   1e2ae 1e2ae e6;1e2ec 1e2ef e6;1e4ec 1e4ed e8;1e4ee 1e4ee dc;1e4ef 1e4ef e6;1e8d0 1e8d6 dc;
   1e944 1e949 e6;1e94a 1e94a 7"

end CredentialGateway.Unicode
