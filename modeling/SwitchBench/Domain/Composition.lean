import SwitchBench.Domain.Mark

/-! Composed characters.

Many a letter with a mark is a character of its own. A text is composed when no further
letter and mark, or syllable and letter of Hangul, come together, and when its marks
stand in the order of their classes. Only characters that stay in the name of a domain
are spoken of. -/
namespace SwitchBench.Domain
open Text

/-- For a first character the second ones that come together with it, each before what
they come to. -/
def compositionRows : String :=
  "3c:338.226e 3d:338.2260 3e:338.226f
    61:300.e0.301.e1.302.e2.303.e3.304.101.306.103.307.227.308.e4.309.1ea3.30a.e5.30c.1ce.30f.201.311.203.323.1ea1.325.1e01.328.105
    62:307.1e03.323.1e05.331.1e07 63:301.107.302.109.307.10b.30c.10d.327.e7
    64:307.1e0b.30c.10f.323.1e0d.327.1e11.32d.1e13.331.1e0f
    65:300.e8.301.e9.302.ea.303.1ebd.304.113.306.115.307.117.308.eb.309.1ebb.30c.11b.30f.205.311.207.323.1eb9.327.229.328.119.32d.1e19.330.1e1b
    66:307.1e1f 67:301.1f5.302.11d.304.1e21.306.11f.307.121.30c.1e7.327.123
    68:302.125.307.1e23.308.1e27.30c.21f.323.1e25.327.1e29.32e.1e2b.331.1e96
    69:300.ec.301.ed.302.ee.303.129.304.12b.306.12d.308.ef.309.1ec9.30c.1d0.30f.209.311.20b.323.1ecb.328.12f.330.1e2d
    6a:302.135.30c.1f0 6b:301.1e31.30c.1e9.323.1e33.327.137.331.1e35
    6c:301.13a.30c.13e.323.1e37.327.13c.32d.1e3d.331.1e3b 6d:301.1e3f.307.1e41.323.1e43
    6e:300.1f9.301.144.303.f1.307.1e45.30c.148.323.1e47.327.146.32d.1e4b.331.1e49
    6f:300.f2.301.f3.302.f4.303.f5.304.14d.306.14f.307.22f.308.f6.309.1ecf.30b.151.30c.1d2.30f.20d.311.20f.31b.1a1.323.1ecd.328.1eb
    70:301.1e55.307.1e57 72:301.155.307.1e59.30c.159.30f.211.311.213.323.1e5b.327.157.331.1e5f
    73:301.15b.302.15d.307.1e61.30c.161.323.1e63.326.219.327.15f
    74:307.1e6b.308.1e97.30c.165.323.1e6d.326.21b.327.163.32d.1e71.331.1e6f
    75:300.f9.301.fa.302.fb.303.169.304.16b.306.16d.308.fc.309.1ee7.30a.16f.30b.171.30c.1d4.30f.215.311.217.31b.1b0.323.1ee5.324.1e73.328.173.32d.1e77.330.1e75
    76:303.1e7d.323.1e7f 77:300.1e81.301.1e83.302.175.307.1e87.308.1e85.30a.1e98.323.1e89
    78:307.1e8b.308.1e8d
    79:300.1ef3.301.fd.302.177.303.1ef9.304.233.307.1e8f.308.ff.309.1ef7.30a.1e99.323.1ef5
    7a:301.17a.302.1e91.307.17c.30c.17e.323.1e93.331.1e95 e2:300.1ea7.301.1ea5.303.1eab.309.1ea9
    e4:304.1df e5:301.1fb e6:301.1fd.304.1e3 e7:301.1e09 ea:300.1ec1.301.1ebf.303.1ec5.309.1ec3
    ef:301.1e2f f4:300.1ed3.301.1ed1.303.1ed7.309.1ed5 f5:301.1e4d.304.22d.308.1e4f f6:304.22b
    f8:301.1ff fc:300.1dc.301.1d8.304.1d6.30c.1da 103:300.1eb1.301.1eaf.303.1eb5.309.1eb3
    113:300.1e15.301.1e17 14d:300.1e51.301.1e53 15b:307.1e65 161:307.1e67 169:301.1e79
    16b:308.1e7b 1a1:300.1edd.301.1edb.303.1ee1.309.1edf.323.1ee3
    1b0:300.1eeb.301.1ee9.303.1eef.309.1eed.323.1ef1 1eb:304.1ed 227:304.1e1 229:306.1e1d
    22f:304.231 292:30c.1ef 3b1:300.1f70.301.3ac.304.1fb1.306.1fb0.313.1f00.314.1f01.342.1fb6
    3b5:300.1f72.301.3ad.313.1f10.314.1f11 3b7:300.1f74.301.3ae.313.1f20.314.1f21.342.1fc6
    3b9:300.1f76.301.3af.304.1fd1.306.1fd0.308.3ca.313.1f30.314.1f31.342.1fd6
    3bf:300.1f78.301.3cc.313.1f40.314.1f41 3c1:313.1fe4.314.1fe5
    3c5:300.1f7a.301.3cd.304.1fe1.306.1fe0.308.3cb.313.1f50.314.1f51.342.1fe6
    3c9:300.1f7c.301.3ce.313.1f60.314.1f61.342.1ff6 3ca:300.1fd2.301.390.342.1fd7
    3cb:300.1fe2.301.3b0.342.1fe7 430:306.4d1.308.4d3 433:301.453 435:300.450.306.4d7.308.451
    436:306.4c2.308.4dd 437:308.4df 438:300.45d.304.4e3.306.439.308.4e5 43a:301.45c 43e:308.4e7
    443:304.4ef.306.45e.308.4f1.30b.4f3 447:308.4f5 44b:308.4f9 44d:308.4ed 456:308.457
    475:30f.477 4d9:308.4db 4e9:308.4eb 627:653.622.654.623.655.625 648:654.624 64a:654.626
    6c1:654.6c2 6d2:654.6d3 6d5:654.6c0 928:93c.929 930:93c.931 933:93c.934 9c7:9be.9cb.9d7.9cc
    b47:b3e.b4b.b56.b48.b57.b4c b92:bd7.b94 bc6:bbe.bca.bd7.bcc bc7:bbe.bcb c46:c56.c48
    cbf:cd5.cc0 cc6:cc2.cca.cd5.cc7.cd6.cc8 cca:cd5.ccb d46:d3e.d4a.d57.d4c d47:d3e.d4b
    dd9:dca.dda.dcf.ddc.ddf.dde ddc:dca.ddd 1025:102e.1026 1b05:1b35.1b06 1b07:1b35.1b08
    1b09:1b35.1b0a 1b0b:1b35.1b0c 1b0d:1b35.1b0e 1b11:1b35.1b12 1b3a:1b35.1b3b 1b3c:1b35.1b3d
    1b3e:1b35.1b40 1b3f:1b35.1b41 1b42:1b35.1b43 1e37:304.1e39 1e5b:304.1e5d 1e63:307.1e69
    1ea1:302.1ead.306.1eb7 1eb9:302.1ec7 1ecd:302.1ed9 1f00:300.1f02.301.1f04.342.1f06
    1f01:300.1f03.301.1f05.342.1f07 1f10:300.1f12.301.1f14 1f11:300.1f13.301.1f15
    1f20:300.1f22.301.1f24.342.1f26 1f21:300.1f23.301.1f25.342.1f27
    1f30:300.1f32.301.1f34.342.1f36 1f31:300.1f33.301.1f35.342.1f37 1f40:300.1f42.301.1f44
    1f41:300.1f43.301.1f45 1f50:300.1f52.301.1f54.342.1f56 1f51:300.1f53.301.1f55.342.1f57
    1f60:300.1f62.301.1f64.342.1f66 1f61:300.1f63.301.1f65.342.1f67 2190:338.219a 2192:338.219b
    2194:338.21ae 21d0:338.21cd 21d2:338.21cf 21d4:338.21ce 2203:338.2204 2208:338.2209
    220b:338.220c 2223:338.2224 2225:338.2226 223c:338.2241 2243:338.2244 2245:338.2247
    2248:338.2249 224d:338.226d 2261:338.2262 2264:338.2270 2265:338.2271 2272:338.2274
    2273:338.2275 2276:338.2278 2277:338.2279 227a:338.2280 227b:338.2281 227c:338.22e0
    227d:338.22e1 2282:338.2284 2283:338.2285 2286:338.2288 2287:338.2289 2291:338.22e2
    2292:338.22e3 22a2:338.22ac 22a8:338.22ad 22a9:338.22ae 22ab:338.22af 22b2:338.22ea
    22b3:338.22eb 22b4:338.22ec 22b5:338.22ed 3046:3099.3094 304b:3099.304c 304d:3099.304e
    304f:3099.3050 3051:3099.3052 3053:3099.3054 3055:3099.3056 3057:3099.3058 3059:3099.305a
    305b:3099.305c 305d:3099.305e 305f:3099.3060 3061:3099.3062 3064:3099.3065 3066:3099.3067
    3068:3099.3069 306f:3099.3070.309a.3071 3072:3099.3073.309a.3074 3075:3099.3076.309a.3077
    3078:3099.3079.309a.307a 307b:3099.307c.309a.307d 309d:3099.309e 30a6:3099.30f4 30ab:3099.30ac
    30ad:3099.30ae 30af:3099.30b0 30b1:3099.30b2 30b3:3099.30b4 30b5:3099.30b6 30b7:3099.30b8
    30b9:3099.30ba 30bb:3099.30bc 30bd:3099.30be 30bf:3099.30c0 30c1:3099.30c2 30c4:3099.30c5
    30c6:3099.30c7 30c8:3099.30c9 30cf:3099.30d0.309a.30d1 30d2:3099.30d3.309a.30d4
    30d5:3099.30d6.309a.30d7 30d8:3099.30d9.309a.30da 30db:3099.30dc.309a.30dd 30ef:3099.30f7
    30f0:3099.30f8 30f1:3099.30f9 30f2:3099.30fa 30fd:3099.30fe 105d2:307.105c9 105da:307.105e4
    11099:110ba.1109a 1109b:110ba.1109c 110a5:110ba.110ab 11131:11127.1112e 11132:11127.1112f
    11347:1133e.1134b.11357.1134c 11382:113c9.11383 11384:113bb.11385 1138b:113c2.1138e
    11390:113c9.11391 113c2:113b8.113c7.113c2.113c5.113c9.113c8
    114b9:114b0.114bc.114ba.114bb.114bd.114be 115b8:115af.115ba 115b9:115af.115bb
    11935:11930.11938 1611e:1611e.16121.1611f.16123.16120.16125.16129.16122
    16121:1611f.16126.16120.16128 16122:1611f.16127 16129:1611f.16124 16d63:16d67.16d69
    16d67:16d67.16d68 16d69:16d67.16d6a"

def compositions : RangeTable (List (Char × Char)) :=
  .ofText (fun text => ((text.splitOn '.').mapM codePoint?).map pairs) compositionRows
where
  pairs : List Char → List (Char × Char)
    | b :: c :: rest => (b, c) :: pairs rest
    | _ => []

/-- The two characters that a composed one comes from. -/
def decompositions : RangeTable (Char × Char) :=
  let all := compositions.rows.toList.flatMap fun row =>
    row.value.map fun p => RangeRow.mk p.2.toNat p.2.toNat (Char.ofNat row.first, p.1)
  ⟨(all.mergeSort fun a b => a.first ≤ b.first).toArray⟩

/-! ### Hangul

A syllable has a leading consonant, a vowel and perhaps a trailing consonant, and
syllables are numbered in this order. -/
namespace Hangul

def leads : Nat := 19

def vowels : Nat := 21

/-- One more than the trailing consonants, for a syllable may have none. -/
def trails : Nat := 28

def lead? (c : Char) : Option Nat :=
  if 0x1100 ≤ c.toNat ∧ c.toNat < 0x1100 + leads then some (c.toNat - 0x1100) else none

def vowel? (c : Char) : Option Nat :=
  if 0x1161 ≤ c.toNat ∧ c.toNat < 0x1161 + vowels then some (c.toNat - 0x1161) else none

def trail? (c : Char) : Option Nat :=
  if 0x11A7 < c.toNat ∧ c.toNat < 0x11A7 + trails then some (c.toNat - 0x11A7) else none

/-- The number of a syllable. -/
def syllable? (c : Char) : Option Nat :=
  if 0xAC00 ≤ c.toNat ∧ c.toNat < 0xAC00 + leads * vowels * trails then some (c.toNat - 0xAC00) else none

/-- A lead and a vowel make a syllable, and it may take one trail. -/
def compose? (a b : Char) : Option Char :=
  match lead? a, vowel? b, syllable? a, trail? b with
  | some l, some v, _, _ => some (.ofNat (0xAC00 + (l * vowels + v) * trails))
  | _, _, some s, some t => if s % trails = 0 then some (.ofNat (0xAC00 + s + t)) else none
  | _, _, _, _ => none

/-- The letters of a syllable. -/
def letters (s : Nat) : List Char :=
  let ends := if s % trails = 0 then [] else [Char.ofNat (0x11A7 + s % trails)]
  .ofNat (0x1100 + s / trails / vowels) :: .ofNat (0x1161 + s / trails % vowels) :: ends

end Hangul

/-- What two characters come to. -/
def compose? (a b : Char) : Option Char :=
  match (compositions.value? a).bind fun ps => ps.find? fun p => p.1 == b with
  | some p => some p.2
  | none => Hangul.compose? a b

/-- The characters that one character comes from, which itself came from others up to
`n` times. -/
def decomposed : Nat → Char → List Char
  | 0, c => [c]
  | n + 1, c =>
    match Hangul.syllable? c, decompositions.value? c with
    | some s, _ => Hangul.letters s
    | none, some (a, b) => decomposed n a ++ [b]
    | none, none => [c]

/-- No character comes from others more often. -/
def decompositionDepth : Nat := 4

/-- Adds a character behind others, the latest first: a mark goes in front of the marks
of higher classes. -/
def insertMark (c : Char) : List Char → List Char
  | [] => [c]
  | d :: before =>
    if markClass c ≠ 0 ∧ markClass c < markClass d then d :: insertMark c before else c :: d :: before

/-- With the marks in order. -/
def ordered (cs : List Char) : List Char := (cs.foldl (fun done c => insertMark c done) []).reverse

/-- Composes the characters behind `base` and the marks `marks`, the latest first. A mark
comes together with its base unless one of the same class, or a character that is no
mark, stands between them. -/
def composeFrom (base : Option Char) (marks : List Char) : List Char → List Char
  | [] => base.toList ++ marks.reverse
  | c :: rest =>
    let isNear := match marks with
      | [] => true
      | d :: _ => markClass d < markClass c
    match (if isNear then base.bind (compose? · c) else none) with
    | some composed => composeFrom (some composed) marks rest
    | none =>
      if markClass c = 0 then base.toList ++ marks.reverse ++ composeFrom (some c) [] rest
      else composeFrom base (c :: marks) rest

/-- The composed form of a text. -/
def composed (cs : List Char) : List Char :=
  composeFrom none [] (ordered (cs.flatMap (decomposed decompositionDepth)))

end SwitchBench.Domain
