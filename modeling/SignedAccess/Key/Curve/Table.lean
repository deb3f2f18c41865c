import SignedAccess.Key.Curve
import SignedAccess.Key.ObjectId

/-!
# Named curves

Main definitions:

* `Curve.overPrimes`, `Curve.overPolynomials` — the curves over prime and over binary fields;
* `Curve.named?` — the curve of an object identifier.
-/

namespace SignedAccess.Curve

/-- A number in words of 256 bits, the greatest first. -/
def words (ws : List Nat) : Nat := ws.foldl (fun n w => n.shiftLeft 256 + w) 0

/-- The field of polynomials modulo the one with these exponents, the greatest first. -/
def binary (exponents : List Nat) : Field :=
  .binary ⟨exponents.headD 0, exponents.foldl (fun n e => n + Nat.shiftLeft 1 e) 0⟩

/-- The named curves over prime fields. -/
def overPrimes : List Curve :=
  [⟨[1, 3, 132, 0, 6], .prime 0xdb7c2abf62e35e668076bead208b, 0xdb7c2abf62e35e668076bead2088,
    0x659ef8ba043916eede8911702b22, 0xdb7c2abf62e35e7628dfac6561c5, false⟩,
   ⟨[1, 3, 132, 0, 7], .prime 0xdb7c2abf62e35e668076bead208b, 0x6127c24c05f38a0aaaf65c0ef02c,
    0x51def1815db5ed74fcc34c85d709, 0x36df0aafd8b8d7597ca10520d04b, false⟩,
   ⟨[1, 3, 132, 0, 28], .prime 0xfffffffdffffffffffffffffffffffff,
    0xfffffffdfffffffffffffffffffffffc, 0xe87579c11079f43dd824993c2cee5ed3,
    0xfffffffe0000000075a30d1b9038a115, false⟩,
   ⟨[1, 3, 132, 0, 29], .prime 0xfffffffdffffffffffffffffffffffff,
    0xd6031998d1b3bbfebf59cc9bbff9aee1, 0x5eeefca380d02919dc2c6558bb6d8a5d,
    0x3fffffff7fffffffbe0024720613b5a3, false⟩,
   ⟨[1, 3, 132, 0, 9], .prime 0xfffffffffffffffffffffffffffffffeffffac73, 0, 7,
    0x100000000000000000001b8fa16dfab9aca16b6b3, false⟩,
   ⟨[1, 3, 132, 0, 8], .prime 0xffffffffffffffffffffffffffffffff7fffffff,
    0xffffffffffffffffffffffffffffffff7ffffffc, 0x1c97befc54bd7a8b65acf89f81d4d4adc565fa45,
    0x100000000000000000001f4c8f927aed3ca752257, false⟩,
   ⟨[1, 3, 132, 0, 30], .prime 0xfffffffffffffffffffffffffffffffeffffac73,
    0xfffffffffffffffffffffffffffffffeffffac70, 0xb4e134d3fb59eb8bab57274904664d5af50388ba,
    0x100000000000000000000351ee786a818f3a1a16b, false⟩,
   ⟨[1, 3, 132, 0, 31], .prime 0xfffffffffffffffffffffffffffffffffffffffeffffee37, 0, 3,
    0xfffffffffffffffffffffffe26f2fc170f69466a74defd8d, false⟩,
   ⟨[1, 3, 132, 0, 32], .prime 0xfffffffffffffffffffffffffffffffffffffffffffffffeffffe56d, 0, 5,
    0x10000000000000000000000000001dce8d2ec6184caf0a971769fb1f7, false⟩,
   ⟨[1, 3, 132, 0, 33], .prime 0xffffffffffffffffffffffffffffffff000000000000000000000001,
    0xfffffffffffffffffffffffffffffffefffffffffffffffffffffffe,
    0xb4050a850c04b3abf54132565044b0b7d7bfd8ba270b39432355ffb4,
    0xffffffffffffffffffffffffffff16a2e0b8f03e13dd29455c5c2a3d, true⟩,
   ⟨[1, 3, 132, 0, 10],
    .prime 0xfffffffffffffffffffffffffffffffffffffffffffffffffffffffefffffc2f, 0, 7,
    0xfffffffffffffffffffffffffffffffebaaedce6af48a03bbfd25e8cd0364141, true⟩,
   ⟨[1, 3, 132, 0, 34], .prime (words [0xffffffffffffffffffffffffffffffff,
    0xfffffffffffffffffffffffffffffffeffffffff0000000000000000ffffffff]),
    words [0xffffffffffffffffffffffffffffffff,
    0xfffffffffffffffffffffffffffffffeffffffff0000000000000000fffffffc],
    words [0xb3312fa7e23ee7e4988e056be3f82d19,
    0x181d9c6efe8141120314088f5013875ac656398d8a2ed19d2a85c8edd3ec2aef],
    words [0xffffffffffffffffffffffffffffffff,
    0xffffffffffffffffc7634d81f4372ddf581a0db248b0a77aecec196accc52973], true⟩,
   ⟨[1, 3, 132, 0, 35], .prime (words [0x1ff,
    0xffffffffffffffffffffffffffffffffffffffffffffffffffffffffffffffff,
    0xffffffffffffffffffffffffffffffffffffffffffffffffffffffffffffffff]), words [0x1ff,
    0xffffffffffffffffffffffffffffffffffffffffffffffffffffffffffffffff,
    0xfffffffffffffffffffffffffffffffffffffffffffffffffffffffffffffffc], words [0x51,
    0x953eb9618e1c9a1f929a21a0b68540eea2da725b99b315f3b8b489918ef109e1,
    0x56193951ec7e937b1652c0bd3bb1bf073573df883d2c34f1ef451fd46b503f00], words [0x1ff,
    0xfffffffffffffffffffffffffffffffffffffffffffffffffffffffffffffffa,
    0x51868783bf2f966b7fcc0148f709a5d03bb5c9b8899c47aebb6fb71e91386409], true⟩,
   ⟨[1, 2, 840, 10045, 3, 1, 1], .prime 0xfffffffffffffffffffffffffffffffeffffffffffffffff,
    0xfffffffffffffffffffffffffffffffefffffffffffffffc,
    0x64210519e59c80e70fa7e9ab72243049feb8deecc146b9b1,
    0xffffffffffffffffffffffff99def836146bc9b1b4d22831, true⟩,
   ⟨[1, 2, 840, 10045, 3, 1, 2], .prime 0xfffffffffffffffffffffffffffffffeffffffffffffffff,
    0xfffffffffffffffffffffffffffffffefffffffffffffffc,
    0xcc22d6dfb95c6b25e49c0d6364a4e5980c393aa21668d953,
    0xfffffffffffffffffffffffe5fb1a724dc80418648d8dd31, false⟩,
   ⟨[1, 2, 840, 10045, 3, 1, 3], .prime 0xfffffffffffffffffffffffffffffffeffffffffffffffff,
    0xfffffffffffffffffffffffffffffffefffffffffffffffc,
    0x22123dc2395a05caa7423daeccc94760a7d462256bd56916,
    0xffffffffffffffffffffffff7a62d031c83f4294f640ec13, false⟩,
   ⟨[1, 2, 840, 10045, 3, 1, 4],
    .prime 0x7fffffffffffffffffffffff7fffffffffff8000000000007fffffffffff,
    0x7fffffffffffffffffffffff7fffffffffff8000000000007ffffffffffc,
    0x6b016c3bdcf18941d0d654921475ca71a9db2fb27d1d37796185c2942c0a,
    0x7fffffffffffffffffffffff7fffff9e5e9a9f5d9071fbd1522688909d0b, false⟩,
   ⟨[1, 2, 840, 10045, 3, 1, 5],
    .prime 0x7fffffffffffffffffffffff7fffffffffff8000000000007fffffffffff,
    0x7fffffffffffffffffffffff7fffffffffff8000000000007ffffffffffc,
    0x617fab6832576cbbfed50d99f0249c3fee58b94ba0038c7ae84c8c832f2c,
    0x7fffffffffffffffffffffff800000cfa7e8594377d414c03821bc582063, false⟩,
   ⟨[1, 2, 840, 10045, 3, 1, 6],
    .prime 0x7fffffffffffffffffffffff7fffffffffff8000000000007fffffffffff,
    0x7fffffffffffffffffffffff7fffffffffff8000000000007ffffffffffc,
    0x255705fa2a306654b1f4cb03d6a750a30c250102d4988717d9ba15ab6d3e,
    0x7fffffffffffffffffffffff7fffff975deb41b3a6057c3c432146526551, false⟩,
   ⟨[1, 2, 840, 10045, 3, 1, 7],
    .prime 0xffffffff00000001000000000000000000000000ffffffffffffffffffffffff,
    0xffffffff00000001000000000000000000000000fffffffffffffffffffffffc,
    0x5ac635d8aa3a93e7b3ebbd55769886bc651d06b0cc53b0f63bce3c3e27d2604b,
    0xffffffff00000000ffffffffffffffffbce6faada7179e84f3b9cac2fc632551, true⟩,
   ⟨[2, 23, 43, 1, 4, 6], .prime 0xdb7c2abf62e35e668076bead208b, 0xdb7c2abf62e35e668076bead2088,
    0x659ef8ba043916eede8911702b22, 0xdb7c2abf62e35e7628dfac6561c5, false⟩,
   ⟨[2, 23, 43, 1, 4, 7], .prime 0xfffffffffffffffffffffffffffffffeffffac73,
    0xfffffffffffffffffffffffffffffffeffffac70, 0xb4e134d3fb59eb8bab57274904664d5af50388ba,
    0x100000000000000000000351ee786a818f3a1a16b, false⟩,
   ⟨[2, 23, 43, 1, 4, 8], .prime 0xfffffffffffffffffffffffffde7, 0, 3,
    0x100000000000001ecea551ad837e9, false⟩,
   ⟨[2, 23, 43, 1, 4, 9], .prime 0xfffffffffffffffffffffffffffffffffffc808f, 0, 3,
    0x100000000000000000001cdc98ae0e2de574abf33, false⟩,
   ⟨[2, 23, 43, 1, 4, 12], .prime 0xffffffffffffffffffffffffffffffff000000000000000000000001,
    0xfffffffffffffffffffffffffffffffefffffffffffffffffffffffe,
    0xb4050a850c04b3abf54132565044b0b7d7bfd8ba270b39432355ffb4,
    0xffffffffffffffffffffffffffff16a2e0b8f03e13dd29455c5c2a3d, false⟩,
   ⟨[1, 3, 36, 3, 3, 2, 8, 1, 1, 1], .prime 0xe95e4a5f737059dc60dfc7ad95b3d8139515620f,
    0x340e7be2a280eb74e2be61bada745d97e8f7c300, 0x1e589a8595423412134faa2dbdec95c8d8675e58,
    0xe95e4a5f737059dc60df5991d45029409e60fc09, false⟩,
   ⟨[1, 3, 36, 3, 3, 2, 8, 1, 1, 2], .prime 0xe95e4a5f737059dc60dfc7ad95b3d8139515620f,
    0xe95e4a5f737059dc60dfc7ad95b3d8139515620c, 0x7a556b6dae535b7b51ed2c4d7daa7a0b5c55f380,
    0xe95e4a5f737059dc60df5991d45029409e60fc09, false⟩,
   ⟨[1, 3, 36, 3, 3, 2, 8, 1, 1, 3], .prime 0xc302f41d932a36cda7a3463093d18db78fce476de1a86297,
    0x6a91174076b1e0e19c39c031fe8685c1cae040e5c69a28ef,
    0x469a28ef7c28cca3dc721d044f4496bcca7ef4146fbf25c9,
    0xc302f41d932a36cda7a3462f9e9e916b5be8f1029ac4acc1, false⟩,
   ⟨[1, 3, 36, 3, 3, 2, 8, 1, 1, 4], .prime 0xc302f41d932a36cda7a3463093d18db78fce476de1a86297,
    0xc302f41d932a36cda7a3463093d18db78fce476de1a86294,
    0x13d56ffaec78681e68f9deb43b35bec2fb68542e27897b79,
    0xc302f41d932a36cda7a3462f9e9e916b5be8f1029ac4acc1, false⟩,
   ⟨[1, 3, 36, 3, 3, 2, 8, 1, 1, 5],
    .prime 0xd7c134aa264366862a18302575d1d787b09f075797da89f57ec8c0ff,
    0x68a5e62ca9ce6c1c299803a6c1530b514e182ad8b0042a59cad29f43,
    0x2580f63ccfe44138870713b1a92369e33e2135d266dbb372386c400b,
    0xd7c134aa264366862a18302575d0fb98d116bc4b6ddebca3a5a7939f, false⟩,
   ⟨[1, 3, 36, 3, 3, 2, 8, 1, 1, 6],
    .prime 0xd7c134aa264366862a18302575d1d787b09f075797da89f57ec8c0ff,
    0xd7c134aa264366862a18302575d1d787b09f075797da89f57ec8c0fc,
    0x4b337d934104cd7bef271bf60ced1ed20da14c08b3bb64f18a60888d,
    0xd7c134aa264366862a18302575d0fb98d116bc4b6ddebca3a5a7939f, false⟩,
   ⟨[1, 3, 36, 3, 3, 2, 8, 1, 1, 7],
    .prime 0xa9fb57dba1eea9bc3e660a909d838d726e3bf623d52620282013481d1f6e5377,
    0x7d5a0975fc2c3057eef67530417affe7fb8055c126dc5c6ce94a4b44f330b5d9,
    0x26dc5c6ce94a4b44f330b5d9bbd77cbf958416295cf7e1ce6bccdc18ff8c07b6,
    0xa9fb57dba1eea9bc3e660a909d838d718c397aa3b561a6f7901e0e82974856a7, true⟩,
   ⟨[1, 3, 36, 3, 3, 2, 8, 1, 1, 8],
    .prime 0xa9fb57dba1eea9bc3e660a909d838d726e3bf623d52620282013481d1f6e5377,
    0xa9fb57dba1eea9bc3e660a909d838d726e3bf623d52620282013481d1f6e5374,
    0x662c61c430d84ea4fe66a7733d0b76b7bf93ebc4af2f49256ae58101fee92b04,
    0xa9fb57dba1eea9bc3e660a909d838d718c397aa3b561a6f7901e0e82974856a7, false⟩,
   ⟨[1, 3, 36, 3, 3, 2, 8, 1, 1, 9],
    .prime 0xd35e472036bc4fb7e13c785ed201e065f98fcfa6f6f40def4f92b9ec7893ec28fcd412b1f1b32e27,
    0x3ee30b568fbab0f883ccebd46d3f3bb8a2a73513f5eb79da66190eb085ffa9f492f375a97d860eb4,
    0x520883949dfdbc42d3ad198640688a6fe13f41349554b49acc31dccd884539816f5eb4ac8fb1f1a6,
    0xd35e472036bc4fb7e13c785ed201e065f98fcfa5b68f12a32d482ec7ee8658e98691555b44c59311, false⟩,
   ⟨[1, 3, 36, 3, 3, 2, 8, 1, 1, 10],
    .prime 0xd35e472036bc4fb7e13c785ed201e065f98fcfa6f6f40def4f92b9ec7893ec28fcd412b1f1b32e27,
    0xd35e472036bc4fb7e13c785ed201e065f98fcfa6f6f40def4f92b9ec7893ec28fcd412b1f1b32e24,
    0xa7f561e038eb1ed560b3d147db782013064c19f27ed27c6780aaf77fb8a547ceb5b4fef422340353,
    0xd35e472036bc4fb7e13c785ed201e065f98fcfa5b68f12a32d482ec7ee8658e98691555b44c59311, false⟩,
   ⟨[1, 3, 36, 3, 3, 2, 8, 1, 1, 11], .prime (words [0x8cb91e82a3386d280f5d6f7e50e641df,
    0x152f7109ed5456b412b1da197fb71123acd3a729901d1a71874700133107ec53]),
    words [0x7bc382c63d8c150c3c72080ace05afa0,
    0xc2bea28e4fb22787139165efba91f90f8aa5814a503ad4eb04a8c7dd22ce2826],
    words [0x4a8c7dd22ce28268b39b55416f0447c,
    0x2fb77de107dcd2a62e880ea53eeb62d57cb4390295dbc9943ab78696fa504c11],
    words [0x8cb91e82a3386d280f5d6f7e50e641df,
    0x152f7109ed5456b31f166e6cac0425a7cf3ab6af6b7fc3103b883202e9046565], true⟩,
   ⟨[1, 3, 36, 3, 3, 2, 8, 1, 1, 12], .prime (words [0x8cb91e82a3386d280f5d6f7e50e641df,
    0x152f7109ed5456b412b1da197fb71123acd3a729901d1a71874700133107ec53]),
    words [0x8cb91e82a3386d280f5d6f7e50e641df,
    0x152f7109ed5456b412b1da197fb71123acd3a729901d1a71874700133107ec50],
    words [0x7f519eada7bda81bd826dba647910f8c,
    0x4b9346ed8ccdc64e4b1abd11756dce1d2074aa263b88805ced70355a33b471ee],
    words [0x8cb91e82a3386d280f5d6f7e50e641df,
    0x152f7109ed5456b31f166e6cac0425a7cf3ab6af6b7fc3103b883202e9046565], false⟩,
   ⟨[1, 3, 36, 3, 3, 2, 8, 1, 1, 13],
    .prime (words [0xaadd9db8dbe9c48b3fd4e6ae33c9fc07cb308db3b3c9d20ed6639cca70330871,
    0x7d4d9b009bc66842aecda12ae6a380e62881ff2f2d82c68528aa6056583a48f3]),
    words [0x7830a3318b603b89e2327145ac234cc594cbdd8d3df91610a83441caea9863bc,
    0x2ded5d5aa8253aa10a2ef1c98b9ac8b57f1117a72bf2c7b9e7c1ac4d77fc94ca],
    words [0x3df91610a83441caea9863bc2ded5d5aa8253aa10a2ef1c98b9ac8b57f1117a7,
    0x2bf2c7b9e7c1ac4d77fc94cadc083e67984050b75ebae5dd2809bd638016f723],
    words [0xaadd9db8dbe9c48b3fd4e6ae33c9fc07cb308db3b3c9d20ed6639cca70330870,
    0x553e5c414ca92619418661197fac10471db1d381085ddaddb58796829ca90069], true⟩,
   ⟨[1, 3, 36, 3, 3, 2, 8, 1, 1, 14],
    .prime (words [0xaadd9db8dbe9c48b3fd4e6ae33c9fc07cb308db3b3c9d20ed6639cca70330871,
    0x7d4d9b009bc66842aecda12ae6a380e62881ff2f2d82c68528aa6056583a48f3]),
    words [0xaadd9db8dbe9c48b3fd4e6ae33c9fc07cb308db3b3c9d20ed6639cca70330871,
    0x7d4d9b009bc66842aecda12ae6a380e62881ff2f2d82c68528aa6056583a48f0],
    words [0x7cbbbcf9441cfab76e1890e46884eae321f70c0bcb4981527897504bec3e36a6,
    0x2bcdfa2304976540f6450085f2dae145c22553b465763689180ea2571867423e],
    words [0xaadd9db8dbe9c48b3fd4e6ae33c9fc07cb308db3b3c9d20ed6639cca70330870,
    0x553e5c414ca92619418661197fac10471db1d381085ddaddb58796829ca90069], false⟩,
   ⟨[1, 2, 156, 10197, 1, 301],
    .prime 0xfffffffeffffffffffffffffffffffffffffffff00000000ffffffffffffffff,
    0xfffffffeffffffffffffffffffffffffffffffff00000000fffffffffffffffc,
    0x28e9fa9e9d9f5e344d5a9e4bcf6509a7f39789f515ab8f92ddbcbd414d940e93,
    0xfffffffeffffffffffffffffffffffff7203df6b21c6052b53bbf40939d54123, false⟩]

/-- The named curves over binary fields. -/
def overPolynomials : List Curve :=
  [⟨[1, 3, 132, 0, 4], binary [113, 9, 0], 0x3088250ca6e7c7fe649ce85820f7,
    0xe8bee4d3e2260744188be0e9c723, 0x100000000000000d9ccec8a39e56f, false⟩,
   ⟨[1, 3, 132, 0, 5], binary [113, 9, 0], 0x689918dbec7e5a0dd6dfc0aa55c7,
    0x95e9a9ec9b297bd4bf36e059184f, 0x10000000000000108789b2496af93, false⟩,
   ⟨[1, 3, 132, 0, 22], binary [131, 8, 3, 2, 0], 0x7a11b09a76b562144418ff3ff8c2570b8,
    0x217c05610884b63b9c6c7291678f9d341, 0x400000000000000023123953a9464b54d, false⟩,
   ⟨[1, 3, 132, 0, 23], binary [131, 8, 3, 2, 0], 0x3e5a88919d7cafcbf415f07c2176573b2,
    0x4b8266a46c55657ac734ce38f018f2192, 0x400000000000000016954a233049ba98f, false⟩,
   ⟨[1, 3, 132, 0, 1], binary [163, 7, 6, 3, 0], 1, 1,
    0x4000000000000000000020108a2e0cc0d99f8a5ef, true⟩,
   ⟨[1, 3, 132, 0, 2], binary [163, 7, 6, 3, 0], 0x7b6882caaefa84f9554ff8428bd88e246d2782ae2,
    0x713612dcddcb40aab946bda29ca91f73af958afd9, 0x3ffffffffffffffffffff48aab689c29ca710279b,
    false⟩,
   ⟨[1, 3, 132, 0, 15], binary [163, 7, 6, 3, 0], 1, 0x20a601907b8c953ca1481eb10512f78744a3205fd,
    0x40000000000000000000292fe77e70c12a4234c33, true⟩,
   ⟨[1, 3, 132, 0, 24], binary [193, 15, 0], 0x17858feb7a98975169e171f77b4087de098ac8a911df7b01,
    0xfdfb49bfe6c3a89facadaa7a1e5bbc7cc1c2e5d831478814,
    0x1000000000000000000000000c7f34a778f443acc920eba49, false⟩,
   ⟨[1, 3, 132, 0, 25], binary [193, 15, 0], 0x163f35a5137c2ce3ea6ed8667190b0bc43ecd69977702709b,
    0xc9bb9e8927d4d64c377e2ab2856a5b16e3efb7f61d4316ae,
    0x10000000000000000000000015aab561b005413ccd4ee99d5, false⟩,
   ⟨[1, 3, 132, 0, 26], binary [233, 74, 0], 0, 1,
    0x8000000000000000000000000000069d5bb915bcd46efb1ad5f173abdf, true⟩,
   ⟨[1, 3, 132, 0, 27], binary [233, 74, 0], 1,
    0x66647ede6c332c7f8c0923bb58213b333b20e9ce4281fe115f7d8f90ad,
    0x1000000000000000000000000000013e974e72f8a6922031d2603cfe0d7, true⟩,
   ⟨[1, 3, 132, 0, 3], binary [239, 158, 0], 0, 1,
    0x2000000000000000000000000000005a79fec67cb6e91f1c1da800e478a5, false⟩,
   ⟨[1, 3, 132, 0, 16], binary [283, 12, 7, 5, 0], 0, 1,
    0x1ffffffffffffffffffffffffffffffffffe9ae2ed07577265dff7f94451e061e163c61, true⟩,
   ⟨[1, 3, 132, 0, 17], binary [283, 12, 7, 5, 0], 1,
    0x27b680ac8b8596da5a4af8a19a0303fca97fd7645309fa2a581485af6263e313b79a2f5,
    0x3ffffffffffffffffffffffffffffffffffef90399660fc938a90165b042a7cefadb307, true⟩,
   ⟨[1, 3, 132, 0, 36], binary [409, 87, 0], 0, 1,
    words [0x7fffffffffffffffffffffffffffffffffffff,
    0xfffffffffffffe5f83b2d4ea20400ec4557d5ed3e3e7ca5b4b5c83b8e01e5fcf], true⟩,
   ⟨[1, 3, 132, 0, 37], binary [409, 87, 0], 1, words [0x21a5c2c8ee9feb5c4b9a753b7b476b7fd6422e,
    0xf1f3dd674761fa99d6ac27c8a9a197b272822f6cd57a55aa4f50ae317b13545f],
    words [0x100000000000000000000000000000000000000,
    0x1e2aad6a612f33307be5fa47c3c9e052f838164cd37d9a21173], true⟩,
   ⟨[1, 3, 132, 0, 38], binary [571, 10, 5, 2, 0], 0, 1, words [0x200000000000000, 0x131850e1,
    0xf19a63e4b391a8db917f4138b630d84be5d639381e91deb45cfe778f637c1001], true⟩,
   ⟨[1, 3, 132, 0, 39], binary [571, 10, 5, 2, 0], 1, words [0x2f40e7e2221f295,
    0xde297117b7f3d62f5c6a97ffcb8ceff1cd6ba8ce4a9a18ad84ffabbd8efa5933,
    0x2be7ad6756a66e294afd185a78ff12aa520e4de739baca0c7ffeff7f2955727a], words [0x3ffffffffffffff,
    0xffffffffffffffffffffffffffffffffffffffffffffffffffffffffe661ce18,
    0xff55987308059b186823851ec7dd9ca1161de93d5174d66e8382e9bb2fe84e47], true⟩,
   ⟨[1, 2, 840, 10045, 3, 0, 1], binary [163, 8, 2, 1, 0],
    0x72546b5435234a422e0789675f432c89435de5242, 0xc9517d06d5240d3cff38c74b20b6cd4d6f9dd4d9,
    0x400000000000000000001e60fc8821cc74daeafc1, false⟩,
   ⟨[1, 2, 840, 10045, 3, 0, 2], binary [163, 8, 2, 1, 0],
    0x108b39e77c4b108bed981ed0e890e117c511cf072, 0x667aceb38af4e488c407433ffae4f1c811638df20,
    0x3fffffffffffffffffffdf64de1151adbb78f10a7, false⟩,
   ⟨[1, 2, 840, 10045, 3, 0, 3], binary [163, 8, 2, 1, 0],
    0x7a526c63d3e25a256a007699f5447e32ae456b50e, 0x3f7061798eb99e238fd6f1bf95b48feeb4854252b,
    0x3fffffffffffffffffffe1aee140f110aff961309, false⟩,
   ⟨[1, 2, 840, 10045, 3, 0, 4], binary [176, 43, 2, 1, 0],
    0xe4e6db2995065c407d9d39b8d0967b96704ba8e9c90b, 0x5dda470abe6414de8ec133ae28e9bbd7fcec0ae0fff2,
    0x10092537397eca4f6145799d62b0a19ce06fe26ad, false⟩,
   ⟨[1, 2, 840, 10045, 3, 0, 5], binary [191, 9, 0],
    0x2866537b676752636a68f56554e12640276b649ef7526267,
    0x2e45ef571f00786f67b0081b9495a3d95462f5de0aa185ec,
    0x40000000000000000000000004a20e90c39067c893bbb9a5, false⟩,
   ⟨[1, 2, 840, 10045, 3, 0, 6], binary [191, 9, 0],
    0x401028774d7777c7b7666d1366ea432071274f89ff01e718,
    0x620048d28bcbd03b6249c99182b7c8cd19700c362c46a01,
    0x20000000000000000000000050508cb89f652824e06b8173, false⟩,
   ⟨[1, 2, 840, 10045, 3, 0, 7], binary [191, 9, 0],
    0x6c01074756099122221056911c77d77e77a777e7e7e77fcb,
    0x71fe1af926cf847989efef8db459f66394d90f32ad3f15e8,
    0x155555555555555555555555610c0b196812bfb6288a3ea3, false⟩,
   ⟨[1, 2, 840, 10045, 3, 0, 10], binary [208, 83, 2, 1, 0], 0,
    0xc8619ed45a62e6212e1160349e2bfa844439fafc2a3fd1638f9e,
    0x101baf95c9723c57b6c21da2eff2d5ed588bdd5717e212f9d, false⟩,
   ⟨[1, 2, 840, 10045, 3, 0, 11], binary [239, 36, 0],
    0x32010857077c5431123a46b808906756f543423e8d27877578125778ac76,
    0x790408f2eedaf392b012edefb3392f30f4327c0ca3f31fc383c422aa8c16,
    0x2000000000000000000000000000000f4d42ffe1492a4993f1cad666e447, false⟩,
   ⟨[1, 2, 840, 10045, 3, 0, 12], binary [239, 36, 0],
    0x4230017757a767fae42398569b746325d45313af0766266479b75654e65f,
    0x5037ea654196cff0cd82b2c14a2fcf2e3ff8775285b545722f03eacdb74b,
    0x1555555555555555555555555555553c6f2885259c31e3fcdf154624522d, false⟩,
   ⟨[1, 2, 840, 10045, 3, 0, 13], binary [239, 36, 0],
    0x1238774666a67766d6676f778e676b66999176666e687666d8766c66a9f,
    0x6a941977ba9f6a435199acfc51067ed587f519c5ecb541b8e44111de1d40,
    0xcccccccccccccccccccccccccccccac4912d2d9df903ef9888b8a0e4cff, false⟩,
   ⟨[1, 2, 840, 10045, 3, 0, 16], binary [272, 56, 3, 1, 0],
    0x91a091f03b5fba4ab2ccf49c4edd220fb028712d42be752b2c40094dbacdb586fb20,
    0x7167efc92bb2e3ce7c8aaaff34e12a9c557003d7c73a6faf003f99f6cc8482e540f7,
    0x100faf51354e0e39e4892df6e319c72c8161603fa45aa7b998a167b8f1e629521, false⟩,
   ⟨[1, 2, 840, 10045, 3, 0, 17], binary [304, 11, 2, 1, 0],
    0xfd0d693149a118f651e6dce6802085377e5f882d1b510b44160074c1288078365a0396c8e681,
    0xbddb97e555a50a908e43b01c798ea5daa6788f1ea2794efcf57166b8c14039601e55827340be,
    0x101d556572aabac800101d556572aabac8001022d5c91dd173f8fb561da6899164443051d, false⟩,
   ⟨[1, 2, 840, 10045, 3, 0, 18], binary [359, 68, 0], words [0x5667676a654b20754f356ea920,
    0x17d946567c46675556f19556a04616b567d223a5e05656fb549016a96656a557],
    words [0x2472e2d0197c49363f1fe7f5b6,
    0xdb075d52b6947d135d8ca445805d39bc345626089687742b6329e70680231988],
    words [0x1af286bca1af286bca1af286b,
    0xca1af286bca1af286bc9fb8f6b85c556892c20a7eb964fe7719e74f490758d3b], false⟩,
   ⟨[1, 2, 840, 10045, 3, 0, 19], binary [368, 85, 2, 1, 0],
    words [0xe0d2ee25095206f5e2a4f9ed229f,
    0x1f256e79a0e2b455970d8d0d865bd94778c576d62f0ab7519ccd2a1a906ae30d],
    words [0xfc1217d4320a90452c760a58edcd,
    0x30c8dd069b3c34453837a34ed50cb54917e1c2112d84d164f444f8f74786046a],
    words [0x10090512da9af72b08349d98a,
    0x5dd4c7b0532eca51ce03e2d10f3b7ac579bd87e909ae40a6f131e9cfce5bd967], false⟩,
   ⟨[1, 2, 840, 10045, 3, 0, 20], binary [431, 120, 0],
    words [0x1a827ef00dd6fc0e234caf046c6a5d8a85395b236cc4,
    0xad2cf32a0cadbdc9ddf620b0eb9906d0957f6c6feacd615468df104de296cd8f],
    words [0x10d9b4a3d9047d8b154359abfb1b7f5485b04ceb8682,
    0x37ddc9deda982a679a5a919b626d4e50a8dd731b107a9962381fb5d807bf2618],
    words [0x34034034034034034034034034034034034034034,
    0x340340340340323c313fab50589703b5ec68d3587fec60d161cc149c1ad4a91], false⟩,
   ⟨[2, 23, 43, 1, 4, 1], binary [113, 9, 0], 1, 1, 0xfffffffffffffffdbf91af6dea73, false⟩,
   ⟨[2, 23, 43, 1, 4, 3], binary [163, 7, 6, 3, 0], 1, 1,
    0x4000000000000000000020108a2e0cc0d99f8a5ef, false⟩,
   ⟨[2, 23, 43, 1, 4, 4], binary [113, 9, 0], 0x3088250ca6e7c7fe649ce85820f7,
    0xe8bee4d3e2260744188be0e9c723, 0x100000000000000d9ccec8a39e56f, false⟩,
   ⟨[2, 23, 43, 1, 4, 5], binary [163, 8, 2, 1, 0], 0x72546b5435234a422e0789675f432c89435de5242,
    0xc9517d06d5240d3cff38c74b20b6cd4d6f9dd4d9, 0x400000000000000000001e60fc8821cc74daeafc1,
    false⟩,
   ⟨[2, 23, 43, 1, 4, 10], binary [233, 74, 0], 0, 1,
    0x8000000000000000000000000000069d5bb915bcd46efb1ad5f173abdf, false⟩,
   ⟨[2, 23, 43, 1, 4, 11], binary [233, 74, 0], 1,
    0x66647ede6c332c7f8c0923bb58213b333b20e9ce4281fe115f7d8f90ad,
    0x1000000000000000000000000000013e974e72f8a6922031d2603cfe0d7, false⟩]

/-- The curve of an object identifier. -/
def named? (id : Bytes) : Option Curve :=
  (overPrimes ++ overPolynomials).find? fun c => ObjectId.encode c.name = id

end SignedAccess.Curve
