import SwitchBench.Domain.Mark

/-! Joiners: two characters without a shape, which join letters or keep them apart.

A joiner changes how its neighbours are written, and where it would change nothing it
may not stand. Both may follow the sign that leaves a consonant without its vowel; the
one that keeps apart may also stand between letters that would join. -/
namespace SwitchBench.Domain
open Text

inductive Joining where
  /-- Joins what comes before. -/
  | before
  /-- Joins what comes after. -/
  | after
  | both
  /-- Lets its neighbours join. -/
  | transparent
deriving DecidableEq

/-- How characters join: `r`, `l` and `d` join what comes before, after and on both
sides, and all others let their neighbours join. -/
def joiningRows : String :=
  "300-36f 483-489 591-5bd 5bf 5c1-5c2 5c4-5c5 5c7 610-61a 620:d 622-625:r 626:d 627:r 628:d
    629:r 62a-62e:d 62f-632:r 633-63f:d 641-647:d 648:r 649-64a:d 64b-65f 66e-66f:d 670 671-673:r
    679-687:d 688-699:r 69a-6bf:d 6c0:r 6c1-6c2:d 6c3-6cb:r 6cc:d 6cd:r 6ce:d 6cf:r 6d0-6d1:d
    6d2-6d3:r 6d5:r 6d6-6dc 6df-6e4 6e7-6e8 6ea-6ed 6ee-6ef:r 6fa-6fc:d 6ff:d 710:r 711 712-714:d
    715-719:r 71a-71d:d 71e:r 71f-727:d 728:r 729:d 72a:r 72b:d 72c:r 72d-72e:d 72f:r 730-74a
    74d:r 74e-758:d 759-75b:r 75c-76a:d 76b-76c:r 76d-770:d 771:r 772:d 773-774:r 775-777:d
    778-779:r 77a-77f:d 7a6-7b0 7ca-7ea:d 7eb-7f3 7fd 816-819 81b-823 825-827 829-82d 840:r
    841-845:d 846-847:r 848:d 849:r 84a-853:d 854:r 855:d 856-858:r 859-85b 860:d 862-865:d 867:r
    868:d 869-882:r 886:d 889-88d:d 88e:r 88f:d 897-89f 8a0-8a9:d 8aa-8ac:r 8ae:r 8af-8b0:d
    8b1-8b2:r 8b3-8b8:d 8b9:r 8ba-8c8:d 8ca-902 93a 93c 941-948 94d 951-957 962-963 981 9bc
    9c1-9c4 9cd 9e2-9e3 9fe-a02 a3c a41-a51 a70-a71 a75 a81-a82 abc ac1-ac8 acd ae2-ae3 afa-b01
    b3c b3f b41-b44 b4d-b56 b62-b63 b82 bc0 bcd c00 c04 c3c c3e-c40 c46-c56 c62-c63 c81 cbc cbf
    cc6 ccc-ccd ce2-ce3 d00-d01 d3b-d3c d41-d44 d4d d62-d63 d81 dca dd2-dd6 e31 e34-e3a e47-e4e
    eb1 eb4-ebc ec8-ece f18-f19 f35 f37 f39 f71-f7e f80-f84 f86-f87 f8d-fbc fc6 102d-1030
    1032-1037 1039-103a 103d-103e 1058-1059 105e-1060 1071-1074 1082 1085-1086 108d 109d 135d-135f
    1712-1714 1732-1733 1752-1753 1772-1773 17b7-17bd 17c6 17c9-17d3 17dd 1807:d 1820-1878:d
    1885-1886 1887-18a8:d 18a9 18aa:d 1920-1922 1927-1928 1932 1939-193b 1a17-1a18 1a1b 1a56
    1a58-1a60 1a62 1a65-1a6c 1a73-1a7f 1ab0-1b03 1b34 1b36-1b3a 1b3c 1b42 1b6b-1b73 1b80-1b81
    1ba2-1ba5 1ba8-1ba9 1bab-1bad 1be6 1be8-1be9 1bed 1bef-1bf1 1c2c-1c33 1c36-1c37 1cd0-1cd2
    1cd4-1ce0 1ce2-1ce8 1ced 1cf4 1cf8-1cf9 1dc0-1dff 20d0-20f0 2cef-2cf1 2d7f 2de0-2dff 302a-302d
    3099-309a a66f-a672 a674-a67d a69e-a69f a6f0-a6f1 a802 a806 a80b a825-a826 a82c a840-a871:d
    a872:l a8c4-a8c5 a8e0-a8f1 a8ff a926-a92d a947-a951 a980-a982 a9b3 a9b6-a9b9 a9bc-a9bd a9e5
    aa29-aa2e aa31-aa32 aa35-aa36 aa43 aa4c aa7c aab0 aab2-aab4 aab7-aab8 aabe-aabf aac1 aaec-aaed
    aaf6 abe5 abe8 abed fb1e fe20-fe2f 101fd 102e0 10376-1037a 10a01-10a0f 10a38-10a3f
    10ac0-10ac4:d 10ac5:r 10ac7:r 10ac9-10aca:r 10acd:l 10ace-10ad2:r 10ad3-10ad6:d 10ad7:l
    10ad8-10adc:d 10add:r 10ade-10ae0:d 10ae1:r 10ae4:r 10ae5-10ae6 10aeb-10aee:d 10aef:r 10b80:d
    10b81:r 10b82:d 10b83-10b85:r 10b86-10b88:d 10b89:r 10b8a-10b8b:d 10b8c:r 10b8d:d
    10b8e-10b8f:r 10b90:d 10b91:r 10ba9-10bac:r 10bad-10bae:d 10d00:l 10d01-10d21:d 10d22:r
    10d23:d 10d24-10d27 10d69-10d6d 10eab-10eac 10ec2:r 10ec3-10ec4:d 10ec6-10ec7:d 10efa-10eff
    10f30-10f32:d 10f33:r 10f34-10f44:d 10f46-10f50 10f51-10f53:d 10f54:r 10f70-10f73:d
    10f74-10f75:r 10f76-10f81:d 10f82-10f85 10fb0:d 10fb2-10fb3:d 10fb4-10fb6:r 10fb8:d
    10fb9-10fba:r 10fbb-10fbc:d 10fbd:r 10fbe-10fbf:d 10fc1:d 10fc2-10fc3:r 10fc4:d 10fc9:r
    10fca:d 10fcb:l 11001 11038-11046 11070 11073-11074 1107f-11081 110b3-110b6 110b9-110ba 110c2
    11100-11102 11127-1112b 1112d-11134 11173 11180-11181 111b6-111be 111c9-111cc 111cf
    1122f-11231 11234 11236-11237 1123e 11241 112df 112e3-112ea 11300-11301 1133b-1133c 11340
    11366-11374 113bb-113c0 113ce 113d0 113d2 113e1-113e2 11438-1143f 11442-11444 11446 1145e
    114b3-114b8 114ba 114bf-114c0 114c2-114c3 115b2-115b5 115bc-115bd 115bf-115c0 115dc-115dd
    11633-1163a 1163d 1163f-11640 116ab 116ad 116b0-116b5 116b7 1171d 1171f 11722-11725
    11727-1172b 1182f-11837 11839-1183a 1193b-1193c 1193e 11943 119d4-119db 119e0 11a01-11a0a
    11a33-11a38 11a3b-11a3e 11a47 11a51-11a56 11a59-11a5b 11a8a-11a96 11a98-11a99 11b60
    11b62-11b64 11b66 11c30-11c3d 11c3f 11c92-11ca7 11caa-11cb0 11cb2-11cb3 11cb5-11cb6
    11d31-11d45 11d47 11d90-11d91 11d95 11d97 11ef3-11ef4 11f00-11f01 11f36-11f3a 11f40 11f42
    11f5a 13440 13447-13455 1611e-16129 1612d-1612f 16af0-16af4 16b30-16b36 16f4f 16f8f-16f92
    16fe4 1bc9d-1bc9e 1cf00-1cf46 1d167-1d169 1d17b-1d182 1d185-1d18b 1d1aa-1d1ad 1d242-1d244
    1da00-1da36 1da3b-1da6c 1da75 1da84 1da9b-1daaf 1e000-1e08f 1e130-1e136 1e2ae 1e2ec-1e2ef
    1e4ec-1e4ef 1e5ee-1e5ef 1e6e3 1e6e6 1e6ee-1e6ef 1e6f5 1e8d0-1e8d6 1e922-1e943:d 1e944-1e94b"

def joinings : RangeTable Joining := .ofText (fun
  | ['r'] => some .before
  | ['l'] => some .after
  | ['d'] => some .both
  | [] => some .transparent
  | _ => none) joiningRows

/-- Keeps letters apart. -/
def nonJoiner : Char := '\u200c'

def joiner : Char := '\u200d'

/-- The class of the sign that leaves a consonant without its vowel. -/
def killerClass : Nat := 9

/-- Whether the first of some characters that is not transparent joins as is asked. -/
def joins (wanted : Joining) (cs : List Char) : Bool :=
  match (cs.dropWhile fun c => joinings.value? c == some .transparent).head?.bind joinings.value? with
  | some j => j == wanted || j == .both
  | none => false

/-- Whether every joiner may stand where it does; `before` are the characters in front,
the latest first. -/
def joinersFit (before : List Char) : List Char → Bool
  | [] => true
  | c :: rest =>
    let isKilled := before.head?.any fun d => markClass d == killerClass
    (if c = nonJoiner then isKilled || (joins .after before && joins .before rest)
      else c != joiner || isKilled) && joinersFit (c :: before) rest

end SwitchBench.Domain
