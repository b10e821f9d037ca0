import SwitchBench.Text.Ranges

/-! Marks: characters that are written above, below or around the one in front.

Marks of different classes do not get in one another's way, so their order does not
matter. Class zero is that of marks that stay where they are, as all other characters
do; class nine is that of the sign which leaves a consonant without its vowel. -/
namespace SwitchBench.Domain
open Text

/-- The marks, each with its class in hexadecimal digits unless it is zero. -/
def markRows : String :=
  "300-314:e6 315:e8 316-319:dc 31a:e8 31b:d8 31c-320:dc 321-322:ca 323-326:dc 327-328:ca
    329-333:dc 334-338:1 339-33c:dc 33d-33f:e6 340-341 342:e6 343-344 345:f0 346:e6 347-349:dc
    34a-34c:e6 34d-34e:dc 34f 350-352:e6 353-356:dc 357:e6 358:e8 359-35a:dc 35b:e6 35c:e9
    35d-35e:ea 35f:e9 360-361:ea 362:e9 363-36f:e6 483-487:e6 488-489 591:dc 592-595:e6 596:dc
    597-599:e6 59a:de 59b:dc 59c-5a1:e6 5a2-5a7:dc 5a8-5a9:e6 5aa:dc 5ab-5ac:e6 5ad:de 5ae:e4
    5af:e6 5b0:a 5b1:b 5b2:c 5b3:d 5b4:e 5b5:f 5b6:10 5b7:11 5b8:12 5b9-5ba:13 5bb:14 5bc:15
    5bd:16 5bf:17 5c1:18 5c2:19 5c4:e6 5c5:dc 5c7:12 610-617:e6 618:1e 619:1f 61a:20 64b:1b 64c:1c
    64d:1d 64e:1e 64f:1f 650:20 651:21 652:22 653-654:e6 655-656:dc 657-65b:e6 65c:dc 65d-65e:e6
    65f:dc 670:23 6d6-6dc:e6 6df-6e2:e6 6e3:dc 6e4:e6 6e7-6e8:e6 6ea:dc 6eb-6ec:e6 6ed:dc 711:24
    730:e6 731:dc 732-733:e6 734:dc 735-736:e6 737-739:dc 73a:e6 73b-73c:dc 73d:e6 73e:dc
    73f-741:e6 742:dc 743:e6 744:dc 745:e6 746:dc 747:e6 748:dc 749-74a:e6 7a6-7b0 7eb-7f1:e6
    7f2:dc 7f3:e6 7fd:dc 816-819:e6 81b-823:e6 825-827:e6 829-82d:e6 859-85b:dc 897-898:e6
    899-89b:dc 89c-89f:e6 8ca-8ce:e6 8cf-8d3:dc 8d4-8e1:e6 8e3:dc 8e4-8e5:e6 8e6:dc 8e7-8e8:e6
    8e9:dc 8ea-8ec:e6 8ed-8ef:dc 8f0:1b 8f1:1c 8f2:1d 8f3-8f5:e6 8f6:dc 8f7-8f8:e6 8f9-8fa:dc
    8fb-8ff:e6 900-903 93a-93b 93c:7 93e-94c 94d:9 94e-94f 951:e6 952:dc 953-954:e6 955-957
    962-963 981-983 9bc:7 9be-9c4 9c7-9c8 9cb-9cc 9cd:9 9d7 9e2-9e3 9fe:e6 a01-a03 a3c:7 a3e-a42
    a47-a48 a4b-a4c a4d:9 a51 a70-a71 a75 a81-a83 abc:7 abe-ac5 ac7-ac9 acb-acc acd:9 ae2-ae3
    afa-aff b01-b03 b3c:7 b3e-b44 b47-b48 b4b-b4c b4d:9 b55-b57 b62-b63 b82 bbe-bc2 bc6-bc8
    bca-bcc bcd:9 bd7 c00-c04 c3c:7 c3e-c44 c46-c48 c4a-c4c c4d:9 c55:54 c56:5b c62-c63 c81-c83
    cbc:7 cbe-cc4 cc6-cc8 cca-ccc ccd:9 cd5-cd6 ce2-ce3 cf3 d00-d03 d3b-d3c:9 d3e-d44 d46-d48
    d4a-d4c d4d:9 d57 d62-d63 d81-d83 dca:9 dcf-dd4 dd6 dd8-ddf df2-df3 e31 e34-e37 e38-e39:67
    e3a:9 e47 e48-e4b:6b e4c-e4e eb1 eb4-eb7 eb8-eb9:76 eba:9 ebb-ebc ec8-ecb:7a ecc-ece
    f18-f19:dc f35:dc f37:dc f39:d8 f3e-f3f f71:81 f72:82 f73 f74:84 f75-f79 f7a-f7d:82 f7e-f7f
    f80:82 f81 f82-f83:e6 f84:9 f86-f87:e6 f8d-f97 f99-fbc fc6:dc 102b-1036 1037:7 1038
    1039-103a:9 103b-103e 1056-1059 105e-1060 1062-1064 1067-106d 1071-1074 1082-108c 108d:dc 108f
    109a-109d 135d-135f:e6 1712-1713 1714-1715:9 1732-1733 1734:9 1752-1753 1772-1773 17b4-17d1
    17d2:9 17d3 17dd:e6 180b-180d 180f 1885-1886 18a9:e4 1920-192b 1930-1938 1939:de 193a:e6
    193b:dc 1a17:e6 1a18:dc 1a19-1a1b 1a55-1a5e 1a60:9 1a61-1a74 1a75-1a7c:e6 1a7f:dc 1ab0-1ab4:e6
    1ab5-1aba:dc 1abb-1abc:e6 1abd:dc 1abe 1abf-1ac0:dc 1ac1-1ac2:e6 1ac3-1ac4:dc 1ac5-1ac9:e6
    1aca:dc 1acb-1adc:e6 1add:dc 1ae0-1ae5:e6 1ae6:dc 1ae7-1aea:e6 1aeb:ea 1b00-1b04 1b34:7
    1b35-1b43 1b44:9 1b6b:e6 1b6c:dc 1b6d-1b73:e6 1b80-1b82 1ba1-1ba9 1baa-1bab:9 1bac-1bad 1be6:7
    1be7-1bf1 1bf2-1bf3:9 1c24-1c36 1c37:7 1cd0-1cd2:e6 1cd4:1 1cd5-1cd9:dc 1cda-1cdb:e6
    1cdc-1cdf:dc 1ce0:e6 1ce1 1ce2-1ce8:1 1ced:dc 1cf4:e6 1cf7 1cf8-1cf9:e6 1dc0-1dc1:e6 1dc2:dc
    1dc3-1dc9:e6 1dca:dc 1dcb-1dcc:e6 1dcd:ea 1dce:d6 1dcf:dc 1dd0:ca 1dd1-1df5:e6 1df6:e8
    1df7-1df8:e4 1df9:dc 1dfa:da 1dfb:e6 1dfc:e9 1dfd:dc 1dfe:e6 1dff:dc 20d0-20d1:e6 20d2-20d3:1
    20d4-20d7:e6 20d8-20da:1 20db-20dc:e6 20dd-20e0 20e1:e6 20e2-20e4 20e5-20e6:1 20e7:e6 20e8:dc
    20e9:e6 20ea-20eb:1 20ec-20ef:dc 20f0:e6 2cef-2cf1:e6 2d7f:9 2de0-2dff:e6 302a:da 302b:e4
    302c:e8 302d:de 302e-302f:e0 3099-309a:8 a66f:e6 a670-a672 a674-a67d:e6 a69e-a69f:e6
    a6f0-a6f1:e6 a802 a806:9 a80b a823-a827 a82c:9 a880-a881 a8b4-a8c3 a8c4:9 a8c5 a8e0-a8f1:e6
    a8ff a926-a92a a92b-a92d:dc a947-a952 a953:9 a980-a983 a9b3:7 a9b4-a9bf a9c0:9 a9e5 aa29-aa36
    aa43 aa4c-aa4d aa7b-aa7d aab0:e6 aab2-aab3:e6 aab4:dc aab7-aab8:e6 aabe-aabf:e6 aac1:e6
    aaeb-aaef aaf5 aaf6:9 abe3-abea abec abed:9 fb1e:1a fe00-fe0f fe20-fe26:e6 fe27-fe2d:dc
    fe2e-fe2f:e6 101fd:dc 102e0:dc 10376-1037a:e6 10a01-10a03 10a05-10a06 10a0c 10a0d:dc 10a0e
    10a0f:e6 10a38:e6 10a39:1 10a3a:dc 10a3f:9 10ae5:e6 10ae6:dc 10d24-10d27:e6 10d69-10d6d:e6
    10eab-10eac:e6 10efa-10efb:dc 10efc 10efd-10eff:dc 10f46-10f47:dc 10f48-10f4a:e6 10f4b:dc
    10f4c:e6 10f4d-10f50:dc 10f82:e6 10f83:dc 10f84:e6 10f85:dc 11000-11002 11038-11045 11046:9
    11070:9 11073-11074 1107f:9 11080-11082 110b0-110b8 110b9:9 110ba:7 110c2 11100-11102:e6
    11127-11132 11133-11134:9 11145-11146 11173:7 11180-11182 111b3-111bf 111c0:9 111c9 111ca:7
    111cb-111cc 111ce-111cf 1122c-11234 11235:9 11236:7 11237 1123e 11241 112df-112e8 112e9:7
    112ea:9 11300-11303 1133b-1133c:7 1133e-11344 11347-11348 1134b-1134c 1134d:9 11357
    11362-11363 11366-1136c:e6 11370-11374:e6 113b8-113c0 113c2 113c5 113c7-113ca 113cc-113cd
    113ce-113d0:9 113d2 113e1-113e2 11435-11441 11442:9 11443-11445 11446:7 1145e:e6 114b0-114c1
    114c2:9 114c3:7 115af-115b5 115b8-115be 115bf:9 115c0:7 115dc-115dd 11630-1163e 1163f:9 11640
    116ab-116b5 116b6:9 116b7:7 1171d-1172a 1172b:9 1182c-11838 11839:9 1183a:7 11930-11935
    11937-11938 1193b-1193c 1193d-1193e:9 11940 11942 11943:7 119d1-119d7 119da-119df 119e0:9
    119e4 11a01-11a0a 11a33 11a34:9 11a35-11a39 11a3b-11a3e 11a47:9 11a51-11a5b 11a8a-11a98
    11a99:9 11b60-11b67 11c2f-11c36 11c38-11c3e 11c3f:9 11c92-11ca7 11ca9-11cb6 11d31-11d36 11d3a
    11d3c-11d3d 11d3f-11d41 11d42:7 11d43 11d44-11d45:9 11d47 11d8a-11d8e 11d90-11d91 11d93-11d96
    11d97:9 11ef3-11ef6 11f00-11f01 11f03 11f34-11f3a 11f3e-11f40 11f41-11f42:9 11f5a 13440
    13447-13455 1611e-1612e 1612f:9 16af0-16af4:1 16b30-16b36:e6 16f4f 16f51-16f87 16f8f-16f92
    16fe4 16ff0-16ff1:6 1bc9d 1bc9e:1 1cf00-1cf2d 1cf30-1cf46 1d165-1d166:d8 1d167-1d169:1
    1d16d:e2 1d16e-1d172:d8 1d17b-1d182:dc 1d185-1d189:e6 1d18a-1d18b:dc 1d1aa-1d1ad:e6
    1d242-1d244:e6 1da00-1da36 1da3b-1da6c 1da75 1da84 1da9b-1da9f 1daa1-1daaf 1e000-1e006:e6
    1e008-1e018:e6 1e01b-1e021:e6 1e023-1e024:e6 1e026-1e02a:e6 1e08f:e6 1e130-1e136:e6 1e2ae:e6
    1e2ec-1e2ef:e6 1e4ec-1e4ed:e8 1e4ee:dc 1e4ef:e6 1e5ee:e6 1e5ef:dc 1e6e3:e6 1e6e6:e6
    1e6ee-1e6ef:e6 1e6f5:e6 1e8d0-1e8d6:dc 1e944-1e949:e6 1e94a:7 e0100-e01ef"

def marks : RangeTable Nat :=
  .ofText (fun number => if number = [] then some 0 else hexNumber? number) markRows

def isMark (c : Char) : Bool := marks.contains c

/-- The class of a mark, and zero for all that is no mark. -/
def markClass (c : Char) : Nat := (marks.value? c).getD 0

end SwitchBench.Domain
