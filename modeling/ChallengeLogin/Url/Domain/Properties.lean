import ChallengeLogin.Url.Domain.Composition

namespace ChallengeLogin.Url.Domain

open ChallengeLogin.Text.Table

def marksText : String :=
  "300-36f 483-489 591-5bd 5bf 5c1-5c2 5c4-5c5 5c7 610-61a 64b-65f 670 6d6-6dc 6df-6e4 6e7-6e8
    6ea-6ed 711 730-74a 7a6-7b0 7eb-7f3 7fd 816-819 81b-823 825-827 829-82d 859-85b 898-89f
    8ca-8e1 8e3-903 93a-93c 93e-94f 951-957 962-963 981-983 9bc 9be-9c4 9c7-9c8 9cb-9cd 9d7
    9e2-9e3 9fe a01-a03 a3c a3e-a42 a47-a48 a4b-a4d a51 a70-a71 a75 a81-a83 abc abe-ac5 ac7-ac9
    acb-acd ae2-ae3 afa-aff b01-b03 b3c b3e-b44 b47-b48 b4b-b4d b55-b57 b62-b63 b82 bbe-bc2
    bc6-bc8 bca-bcd bd7 c00-c04 c3c c3e-c44 c46-c48 c4a-c4d c55-c56 c62-c63 c81-c83 cbc cbe-cc4
    cc6-cc8 cca-ccd cd5-cd6 ce2-ce3 d00-d03 d3b-d3c d3e-d44 d46-d48 d4a-d4d d57 d62-d63 d81-d83
    dca dcf-dd4 dd6 dd8-ddf df2-df3 e31 e34-e3a e47-e4e eb1 eb4-ebc ec8-ecd f18-f19 f35 f37 f39
    f3e-f3f f71-f84 f86-f87 f8d-f97 f99-fbc fc6 102b-103e 1056-1059 105e-1060 1062-1064
    1067-106d 1071-1074 1082-108d 108f 109a-109d 135d-135f 1712-1715 1732-1734 1752-1753
    1772-1773 17b4-17d3 17dd 180b-180d 180f 1885-1886 18a9 1920-192b 1930-193b 1a17-1a1b
    1a55-1a5e 1a60-1a7c 1a7f 1ab0-1ace 1b00-1b04 1b34-1b44 1b6b-1b73 1b80-1b82 1ba1-1bad
    1be6-1bf3 1c24-1c37 1cd0-1cd2 1cd4-1ce8 1ced 1cf4 1cf7-1cf9 1dc0-1dff 20d0-20f0 2cef-2cf1
    2d7f 2de0-2dff 302a-302f 3099-309a a66f-a672 a674-a67d a69e-a69f a6f0-a6f1 a802 a806 a80b
    a823-a827 a82c a880-a881 a8b4-a8c5 a8e0-a8f1 a8ff a926-a92d a947-a953 a980-a983 a9b3-a9c0
    a9e5 aa29-aa36 aa43 aa4c-aa4d aa7b-aa7d aab0 aab2-aab4 aab7-aab8 aabe-aabf aac1 aaeb-aaef
    aaf5-aaf6 abe3-abea abec-abed fb1e fe00-fe0f fe20-fe2f 101fd 102e0 10376-1037a 10a01-10a03
    10a05-10a06 10a0c-10a0f 10a38-10a3a 10a3f 10ae5-10ae6 10d24-10d27 10eab-10eac 10f46-10f50
    10f82-10f85 11000-11002 11038-11046 11070 11073-11074 1107f-11082 110b0-110ba 110c2
    11100-11102 11127-11134 11145-11146 11173 11180-11182 111b3-111c0 111c9-111cc 111ce-111cf
    1122c-11237 1123e 112df-112ea 11300-11303 1133b-1133c 1133e-11344 11347-11348 1134b-1134d
    11357 11362-11363 11366-1136c 11370-11374 11435-11446 1145e 114b0-114c3 115af-115b5
    115b8-115c0 115dc-115dd 11630-11640 116ab-116b7 1171d-1172b 1182c-1183a 11930-11935
    11937-11938 1193b-1193e 11940 11942-11943 119d1-119d7 119da-119e0 119e4 11a01-11a0a
    11a33-11a39 11a3b-11a3e 11a47 11a51-11a5b 11a8a-11a99 11c2f-11c36 11c38-11c3f 11c92-11ca7
    11ca9-11cb6 11d31-11d36 11d3a 11d3c-11d3d 11d3f-11d45 11d47 11d8a-11d8e 11d90-11d91
    11d93-11d97 11ef3-11ef6 16af0-16af4 16b30-16b36 16f4f 16f51-16f87 16f8f-16f92 16fe4
    16ff0-16ff1 1bc9d-1bc9e 1cf00-1cf2d 1cf30-1cf46 1d165-1d169 1d16d-1d172 1d17b-1d182
    1d185-1d18b 1d1aa-1d1ad 1d242-1d244 1da00-1da36 1da3b-1da6c 1da75 1da84 1da9b-1da9f
    1daa1-1daaf 1e000-1e006 1e008-1e018 1e01b-1e021 1e023-1e024 1e026-1e02a 1e130-1e136 1e2ae
    1e2ec-1e2ef 1e8d0-1e8d6 1e944-1e94a e0100-e01ef"

def marks : List Span := spans marksText

-- Holds of combining marks of any kind.
def isMark (c : Char) : Bool :=
  isIn marks c.toNat

section Joiners

-- Joining types: 1 joins to the left, 2 on both sides, 3 to the right, 4 is looked through
def joiningText : String :=
  "ad:4 300-36f:4 483-489:4 591-5bd:4 5bf:4 5c1-5c2:4 5c4-5c5:4 5c7:4 610-61a:4 61c:4 620:2
    622-625:3 626:2 627:3 628:2 629:3 62a-62e:2 62f-632:3 633-63f:2 641-647:2 648:3 649-64a:2
    64b-65f:4 66e-66f:2 670:4 671-673:3 675-677:3 678-687:2 688-699:3 69a-6bf:2 6c0:3 6c1-6c2:2
    6c3-6cb:3 6cc:2 6cd:3 6ce:2 6cf:3 6d0-6d1:2 6d2-6d3:3 6d5:3 6d6-6dc:4 6df-6e4:4 6e7-6e8:4
    6ea-6ed:4 6ee-6ef:3 6fa-6fc:2 6ff:2 70f:4 710:3 711:4 712-714:2 715-719:3 71a-71d:2 71e:3
    71f-727:2 728:3 729:2 72a:3 72b:2 72c:3 72d-72e:2 72f:3 730-74a:4 74d:3 74e-758:2 759-75b:3
    75c-76a:2 76b-76c:3 76d-770:2 771:3 772:2 773-774:3 775-777:2 778-779:3 77a-77f:2 7a6-7b0:4
    7ca-7ea:2 7eb-7f3:4 7fd:4 816-819:4 81b-823:4 825-827:4 829-82d:4 840:3 841-845:2 846-847:3
    848:2 849:3 84a-853:2 854:3 855:2 856-858:3 859-85b:4 860:2 862-865:2 867:3 868:2 869-86a:3
    870-882:3 886:2 889-88d:2 88e:3 88f:2 897-89f:4 8a0-8a9:2 8aa-8ac:3 8ae:3 8af-8b0:2
    8b1-8b2:3 8b3-8b8:2 8b9:3 8ba-8c8:2 8ca-8e1:4 8e3-902:4 93a:4 93c:4 941-948:4 94d:4
    951-957:4 962-963:4 981:4 9bc:4 9c1-9c4:4 9cd:4 9e2-9e3:4 9fe:4 a01-a02:4 a3c:4 a41-a42:4
    a47-a48:4 a4b-a4d:4 a51:4 a70-a71:4 a75:4 a81-a82:4 abc:4 ac1-ac5:4 ac7-ac8:4 acd:4
    ae2-ae3:4 afa-aff:4 b01:4 b3c:4 b3f:4 b41-b44:4 b4d:4 b55-b56:4 b62-b63:4 b82:4 bc0:4 bcd:4
    c00:4 c04:4 c3c:4 c3e-c40:4 c46-c48:4 c4a-c4d:4 c55-c56:4 c62-c63:4 c81:4 cbc:4 cbf:4 cc6:4
    ccc-ccd:4 ce2-ce3:4 d00-d01:4 d3b-d3c:4 d41-d44:4 d4d:4 d62-d63:4 d81:4 dca:4 dd2-dd4:4
    dd6:4 e31:4 e34-e3a:4 e47-e4e:4 eb1:4 eb4-ebc:4 ec8-ece:4 f18-f19:4 f35:4 f37:4 f39:4
    f71-f7e:4 f80-f84:4 f86-f87:4 f8d-f97:4 f99-fbc:4 fc6:4 102d-1030:4 1032-1037:4 1039-103a:4
    103d-103e:4 1058-1059:4 105e-1060:4 1071-1074:4 1082:4 1085-1086:4 108d:4 109d:4 135d-135f:4
    1712-1714:4 1732-1733:4 1752-1753:4 1772-1773:4 17b4-17b5:4 17b7-17bd:4 17c6:4 17c9-17d3:4
    17dd:4 1807:2 180b-180d:4 180f:4 1820-1878:2 1885-1886:4 1887-18a8:2 18a9:4 18aa:2
    1920-1922:4 1927-1928:4 1932:4 1939-193b:4 1a17-1a18:4 1a1b:4 1a56:4 1a58-1a5e:4 1a60:4
    1a62:4 1a65-1a6c:4 1a73-1a7c:4 1a7f:4 1ab0-1add:4 1ae0-1aeb:4 1b00-1b03:4 1b34:4 1b36-1b3a:4
    1b3c:4 1b42:4 1b6b-1b73:4 1b80-1b81:4 1ba2-1ba5:4 1ba8-1ba9:4 1bab-1bad:4 1be6:4 1be8-1be9:4
    1bed:4 1bef-1bf1:4 1c2c-1c33:4 1c36-1c37:4 1cd0-1cd2:4 1cd4-1ce0:4 1ce2-1ce8:4 1ced:4 1cf4:4
    1cf8-1cf9:4 1dc0-1dff:4 200b:4 200e-200f:4 202a-202e:4 2060-2064:4 206a-206f:4 20d0-20f0:4
    2cef-2cf1:4 2d7f:4 2de0-2dff:4 302a-302d:4 3099-309a:4 a66f-a672:4 a674-a67d:4 a69e-a69f:4
    a6f0-a6f1:4 a802:4 a806:4 a80b:4 a825-a826:4 a82c:4 a840-a871:2 a872:1 a8c4-a8c5:4
    a8e0-a8f1:4 a8ff:4 a926-a92d:4 a947-a951:4 a980-a982:4 a9b3:4 a9b6-a9b9:4 a9bc-a9bd:4 a9e5:4
    aa29-aa2e:4 aa31-aa32:4 aa35-aa36:4 aa43:4 aa4c:4 aa7c:4 aab0:4 aab2-aab4:4 aab7-aab8:4
    aabe-aabf:4 aac1:4 aaec-aaed:4 aaf6:4 abe5:4 abe8:4 abed:4 fb1e:4 fe00-fe0f:4 fe20-fe2f:4
    feff:4 fff9-fffb:4 101fd:4 102e0:4 10376-1037a:4 10a01-10a03:4 10a05-10a06:4 10a0c-10a0f:4
    10a38-10a3a:4 10a3f:4 10ac0-10ac4:2 10ac5:3 10ac7:3 10ac9-10aca:3 10acd:1 10ace-10ad2:3
    10ad3-10ad6:2 10ad7:1 10ad8-10adc:2 10add:3 10ade-10ae0:2 10ae1:3 10ae4:3 10ae5-10ae6:4
    10aeb-10aee:2 10aef:3 10b80:2 10b81:3 10b82:2 10b83-10b85:3 10b86-10b88:2 10b89:3
    10b8a-10b8b:2 10b8c:3 10b8d:2 10b8e-10b8f:3 10b90:2 10b91:3 10ba9-10bac:3 10bad-10bae:2
    10d00:1 10d01-10d21:2 10d22:3 10d23:2 10d24-10d27:4 10d69-10d6d:4 10eab-10eac:4 10ec2:3
    10ec3-10ec4:2 10ec6-10ec7:2 10efa-10eff:4 10f30-10f32:2 10f33:3 10f34-10f44:2 10f46-10f50:4
    10f51-10f53:2 10f54:3 10f70-10f73:2 10f74-10f75:3 10f76-10f81:2 10f82-10f85:4 10fb0:2
    10fb2-10fb3:2 10fb4-10fb6:3 10fb8:2 10fb9-10fba:3 10fbb-10fbc:2 10fbd:3 10fbe-10fbf:2
    10fc1:2 10fc2-10fc3:3 10fc4:2 10fc9:3 10fca:2 10fcb:1 11001:4 11038-11046:4 11070:4
    11073-11074:4 1107f-11081:4 110b3-110b6:4 110b9-110ba:4 110c2:4 11100-11102:4 11127-1112b:4
    1112d-11134:4 11173:4 11180-11181:4 111b6-111be:4 111c9-111cc:4 111cf:4 1122f-11231:4
    11234:4 11236-11237:4 1123e:4 11241:4 112df:4 112e3-112ea:4 11300-11301:4 1133b-1133c:4
    11340:4 11366-1136c:4 11370-11374:4 113bb-113c0:4 113ce:4 113d0:4 113d2:4 113e1-113e2:4
    11438-1143f:4 11442-11444:4 11446:4 1145e:4 114b3-114b8:4 114ba:4 114bf-114c0:4
    114c2-114c3:4 115b2-115b5:4 115bc-115bd:4 115bf-115c0:4 115dc-115dd:4 11633-1163a:4 1163d:4
    1163f-11640:4 116ab:4 116ad:4 116b0-116b5:4 116b7:4 1171d:4 1171f:4 11722-11725:4
    11727-1172b:4 1182f-11837:4 11839-1183a:4 1193b-1193c:4 1193e:4 11943:4 119d4-119d7:4
    119da-119db:4 119e0:4 11a01-11a0a:4 11a33-11a38:4 11a3b-11a3e:4 11a47:4 11a51-11a56:4
    11a59-11a5b:4 11a8a-11a96:4 11a98-11a99:4 11b60:4 11b62-11b64:4 11b66:4 11c30-11c36:4
    11c38-11c3d:4 11c3f:4 11c92-11ca7:4 11caa-11cb0:4 11cb2-11cb3:4 11cb5-11cb6:4 11d31-11d36:4
    11d3a:4 11d3c-11d3d:4 11d3f-11d45:4 11d47:4 11d90-11d91:4 11d95:4 11d97:4 11ef3-11ef4:4
    11f00-11f01:4 11f36-11f3a:4 11f40:4 11f42:4 11f5a:4 13430-13440:4 13447-13455:4
    1611e-16129:4 1612d-1612f:4 16af0-16af4:4 16b30-16b36:4 16f4f:4 16f8f-16f92:4 16fe4:4
    1bc9d-1bc9e:4 1bca0-1bca3:4 1cf00-1cf2d:4 1cf30-1cf46:4 1d167-1d169:4 1d173-1d182:4
    1d185-1d18b:4 1d1aa-1d1ad:4 1d242-1d244:4 1da00-1da36:4 1da3b-1da6c:4 1da75:4 1da84:4
    1da9b-1da9f:4 1daa1-1daaf:4 1e000-1e006:4 1e008-1e018:4 1e01b-1e021:4 1e023-1e024:4
    1e026-1e02a:4 1e08f:4 1e130-1e136:4 1e2ae:4 1e2ec-1e2ef:4 1e4ec-1e4ef:4 1e5ee-1e5ef:4
    1e6e3:4 1e6e6:4 1e6ee-1e6ef:4 1e6f5:4 1e8d0-1e8d6:4 1e900-1e943:2 1e944-1e94b:4 e0001:4
    e0020-e007f:4 e0100-e01ef:4"

def joining : List Span := spans joiningText

def joiningType (c : Char) : Nat :=
  (valueAt? joining c.toNat).getD 0

def isVirama (c : Char) : Bool :=
  combiningClass c.toNat == 9

-- Whether the nearest character that is not looked through has one of the given types
def reaches (types : List Nat) (cs : List Char) : Bool :=
  match cs.dropWhile (fun c => joiningType c == 4) with
  | [] => false
  | c :: _ => types.contains (joiningType c)

-- A joiner stands behind a virama; the non-joiner also between two characters that would join.
-- `before` is reversed.
def joinersFit (before : List Char) : List Char → Bool
  | [] => true
  | c :: rest =>
    let fits :=
      if c.toNat == 0x200D then (before.head?.map isVirama).getD false
      else if c.toNat == 0x200C then
        (before.head?.map isVirama).getD false || (reaches [1, 2] before && reaches [3, 2] rest)
      else true
    fits && joinersFit (c :: before) rest

end Joiners

section Direction

-- The writing direction of a character, as far as the rules on labels tell it apart
inductive Direction where
  | left
  | right
  | arabicLetter
  | arabicNumber
  | europeanNumber
  | europeanSeparator
  | commonSeparator
  | europeanTerminator
  | neutral
  | boundary
  | nonSpacing
  | other
deriving DecidableEq, Repr

def directionText : String :=
  "0-8:9 9-d:b e-1b:9 1c-20:b 21-22:8 23-25:7 26-2a:8 2b:5 2c:6 2d:5 2e-2f:6 30-39:4 3a:6
    3b-40:8 5b-60:8 7b-7e:8 7f-84:9 85:b 86-9f:9 a0:6 a1:8 a2-a5:7 a6-a9:8 ab-ac:8 ad:9 ae-af:8
    b0-b1:7 b2-b3:4 b4:8 b6-b8:8 b9:4 bb-bf:8 d7:8 f7:8 2b9-2ba:8 2c2-2cf:8 2d2-2df:8 2e5-2ed:8
    2ef-2ff:8 300-36f:a 374-375:8 37e:8 384-385:8 387:8 3f6:8 483-489:a 58a:8 58d-58e:8 58f:7
    591-5bd:a 5be:1 5bf:a 5c0:1 5c1-5c2:a 5c3:1 5c4-5c5:a 5c6:1 5c7:a 5d0-5ea:1 5ef-5f4:1
    600-605:3 606-607:8 608:2 609-60a:7 60b:2 60c:6 60d:2 60e-60f:8 610-61a:a 61b-64a:2
    64b-65f:a 660-669:3 66a:7 66b-66c:3 66d-66f:2 670:a 671-6d5:2 6d6-6dc:a 6dd:3 6de:8
    6df-6e4:a 6e5-6e6:2 6e7-6e8:a 6e9:8 6ea-6ed:a 6ee-6ef:2 6f0-6f9:4 6fa-70d:2 70f-710:2 711:a
    712-72f:2 730-74a:a 74d-7a5:2 7a6-7b0:a 7b1:2 7c0-7ea:1 7eb-7f3:a 7f4-7f5:1 7f6-7f9:8 7fa:1
    7fd:a 7fe-815:1 816-819:a 81a:1 81b-823:a 824:1 825-827:a 828:1 829-82d:a 830-83e:1
    840-858:1 859-85b:a 85e:1 860-86a:2 870-88e:2 890-891:3 898-89f:a 8a0-8c9:2 8ca-8e1:a 8e2:3
    8e3-902:a 93a:a 93c:a 941-948:a 94d:a 951-957:a 962-963:a 981:a 9bc:a 9c1-9c4:a 9cd:a
    9e2-9e3:a 9f2-9f3:7 9fb:7 9fe:a a01-a02:a a3c:a a41-a42:a a47-a48:a a4b-a4d:a a51:a
    a70-a71:a a75:a a81-a82:a abc:a ac1-ac5:a ac7-ac8:a acd:a ae2-ae3:a af1:7 afa-aff:a b01:a
    b3c:a b3f:a b41-b44:a b4d:a b55-b56:a b62-b63:a b82:a bc0:a bcd:a bf3-bf8:8 bf9:7 bfa:8
    c00:a c04:a c3c:a c3e-c40:a c46-c48:a c4a-c4d:a c55-c56:a c62-c63:a c78-c7e:8 c81:a cbc:a
    ccc-ccd:a ce2-ce3:a d00-d01:a d3b-d3c:a d41-d44:a d4d:a d62-d63:a d81:a dca:a dd2-dd4:a
    dd6:a e31:a e34-e3a:a e3f:7 e47-e4e:a eb1:a eb4-ebc:a ec8-ecd:a f18-f19:a f35:a f37:a f39:a
    f3a-f3d:8 f71-f7e:a f80-f84:a f86-f87:a f8d-f97:a f99-fbc:a fc6:a 102d-1030:a 1032-1037:a
    1039-103a:a 103d-103e:a 1058-1059:a 105e-1060:a 1071-1074:a 1082:a 1085-1086:a 108d:a 109d:a
    135d-135f:a 1390-1399:8 1400:8 1680:b 169b-169c:8 1712-1714:a 1732-1733:a 1752-1753:a
    1772-1773:a 17b4-17b5:a 17b7-17bd:a 17c6:a 17c9-17d3:a 17db:7 17dd:a 17f0-17f9:8 1800-180a:8
    180b-180d:a 180e:9 180f:a 1885-1886:a 18a9:a 1920-1922:a 1927-1928:a 1932:a 1939-193b:a
    1940:8 1944-1945:8 19de-19ff:8 1a17-1a18:a 1a1b:a 1a56:a 1a58-1a5e:a 1a60:a 1a62:a
    1a65-1a6c:a 1a73-1a7c:a 1a7f:a 1ab0-1ace:a 1b00-1b03:a 1b34:a 1b36-1b3a:a 1b3c:a 1b42:a
    1b6b-1b73:a 1b80-1b81:a 1ba2-1ba5:a 1ba8-1ba9:a 1bab-1bad:a 1be6:a 1be8-1be9:a 1bed:a
    1bef-1bf1:a 1c2c-1c33:a 1c36-1c37:a 1cd0-1cd2:a 1cd4-1ce0:a 1ce2-1ce8:a 1ced:a 1cf4:a
    1cf8-1cf9:a 1dc0-1dff:a 1fbd:8 1fbf-1fc1:8 1fcd-1fcf:8 1fdd-1fdf:8 1fed-1fef:8 1ffd-1ffe:8
    2000-200a:b 200b-200d:9 200f:1 2010-2027:8 2028-202e:b 202f:6 2030-2034:7 2035-2043:8 2044:6
    2045-205e:8 205f:b 2060-2064:9 2066-2069:b 206a-206f:9 2070:4 2074-2079:4 207a-207b:5
    207c-207e:8 2080-2089:4 208a-208b:5 208c-208e:8 20a0-20c0:7 20d0-20f0:a 2100-2101:8
    2103-2106:8 2108-2109:8 2114:8 2116-2118:8 211e-2123:8 2125:8 2127:8 2129:8 212e:7
    213a-213b:8 2140-2144:8 214a-214d:8 2150-215f:8 2189-218b:8 2190-2211:8 2212:5 2213:7
    2214-2335:8 237b-2394:8 2396-2426:8 2440-244a:8 2460-2487:8 2488-249b:4 24ea-26ab:8
    26ad-27ff:8 2900-2b73:8 2b76-2b95:8 2b97-2bff:8 2ce5-2cea:8 2cef-2cf1:a 2cf9-2cff:8 2d7f:a
    2de0-2dff:a 2e00-2e5d:8 2e80-2e99:8 2e9b-2ef3:8 2f00-2fd5:8 2ff0-2ffb:8 3000:b 3001-3004:8
    3008-3020:8 302a-302d:a 3030:8 3036-3037:8 303d-303f:8 3099-309a:a 309b-309c:8 30a0:8 30fb:8
    31c0-31e3:8 321d-321e:8 3250-325f:8 327c-327e:8 32b1-32bf:8 32cc-32cf:8 3377-337a:8
    33de-33df:8 33ff:8 4dc0-4dff:8 a490-a4c6:8 a60d-a60f:8 a66f-a672:a a673:8 a674-a67d:a
    a67e-a67f:8 a69e-a69f:a a6f0-a6f1:a a700-a721:8 a788:8 a802:a a806:a a80b:a a825-a826:a
    a828-a82b:8 a82c:a a838-a839:7 a874-a877:8 a8c4-a8c5:a a8e0-a8f1:a a8ff:a a926-a92d:a
    a947-a951:a a980-a982:a a9b3:a a9b6-a9b9:a a9bc-a9bd:a a9e5:a aa29-aa2e:a aa31-aa32:a
    aa35-aa36:a aa43:a aa4c:a aa7c:a aab0:a aab2-aab4:a aab7-aab8:a aabe-aabf:a aac1:a
    aaec-aaed:a aaf6:a ab6a-ab6b:8 abe5:a abe8:a abed:a fb1d:1 fb1e:a fb1f-fb28:1 fb29:5
    fb2a-fb36:1 fb38-fb3c:1 fb3e:1 fb40-fb41:1 fb43-fb44:1 fb46-fb4f:1 fb50-fbc2:2 fbd3-fd3d:2
    fd3e-fd4f:8 fd50-fd8f:2 fd92-fdc7:2 fdcf:8 fdf0-fdfc:2 fdfd-fdff:8 fe00-fe0f:a fe10-fe19:8
    fe20-fe2f:a fe30-fe4f:8 fe50:6 fe51:8 fe52:6 fe54:8 fe55:6 fe56-fe5e:8 fe5f:7 fe60-fe61:8
    fe62-fe63:5 fe64-fe66:8 fe68:8 fe69-fe6a:7 fe6b:8 fe70-fe74:2 fe76-fefc:2 feff:9 ff01-ff02:8
    ff03-ff05:7 ff06-ff0a:8 ff0b:5 ff0c:6 ff0d:5 ff0e-ff0f:6 ff10-ff19:4 ff1a:6 ff1b-ff20:8
    ff3b-ff40:8 ff5b-ff65:8 ffe0-ffe1:7 ffe2-ffe4:8 ffe5-ffe6:7 ffe8-ffee:8 fff9-fffd:8 10101:8
    10140-1018c:8 10190-1019c:8 101a0:8 101fd:a 102e0:a 102e1-102fb:4 10376-1037a:a
    10800-10805:1 10808:1 1080a-10835:1 10837-10838:1 1083c:1 1083f-10855:1 10857-1089e:1
    108a7-108af:1 108e0-108f2:1 108f4-108f5:1 108fb-1091b:1 1091f:8 10920-10939:1 1093f:1
    10980-109b7:1 109bc-109cf:1 109d2-10a00:1 10a01-10a03:a 10a05-10a06:a 10a0c-10a0f:a
    10a10-10a13:1 10a15-10a17:1 10a19-10a35:1 10a38-10a3a:a 10a3f:a 10a40-10a48:1 10a50-10a58:1
    10a60-10a9f:1 10ac0-10ae4:1 10ae5-10ae6:a 10aeb-10af6:1 10b00-10b35:1 10b39-10b3f:8
    10b40-10b55:1 10b58-10b72:1 10b78-10b91:1 10b99-10b9c:1 10ba9-10baf:1 10c00-10c48:1
    10c80-10cb2:1 10cc0-10cf2:1 10cfa-10cff:1 10d00-10d23:2 10d24-10d27:a 10d30-10d39:3
    10e60-10e7e:3 10e80-10ea9:1 10eab-10eac:a 10ead:1 10eb0-10eb1:1 10f00-10f27:1 10f30-10f45:2
    10f46-10f50:a 10f51-10f59:2 10f70-10f81:1 10f82-10f85:a 10f86-10f89:1 10fb0-10fcb:1
    10fe0-10ff6:1 11001:a 11038-11046:a 11052-11065:8 11070:a 11073-11074:a 1107f-11081:a
    110b3-110b6:a 110b9-110ba:a 110c2:a 11100-11102:a 11127-1112b:a 1112d-11134:a 11173:a
    11180-11181:a 111b6-111be:a 111c9-111cc:a 111cf:a 1122f-11231:a 11234:a 11236-11237:a
    1123e:a 112df:a 112e3-112ea:a 11300-11301:a 1133b-1133c:a 11340:a 11366-1136c:a
    11370-11374:a 11438-1143f:a 11442-11444:a 11446:a 1145e:a 114b3-114b8:a 114ba:a
    114bf-114c0:a 114c2-114c3:a 115b2-115b5:a 115bc-115bd:a 115bf-115c0:a 115dc-115dd:a
    11633-1163a:a 1163d:a 1163f-11640:a 11660-1166c:8 116ab:a 116ad:a 116b0-116b5:a 116b7:a
    1171d-1171f:a 11722-11725:a 11727-1172b:a 1182f-11837:a 11839-1183a:a 1193b-1193c:a 1193e:a
    11943:a 119d4-119d7:a 119da-119db:a 119e0:a 11a01-11a06:a 11a09-11a0a:a 11a33-11a38:a
    11a3b-11a3e:a 11a47:a 11a51-11a56:a 11a59-11a5b:a 11a8a-11a96:a 11a98-11a99:a 11c30-11c36:a
    11c38-11c3d:a 11c92-11ca7:a 11caa-11cb0:a 11cb2-11cb3:a 11cb5-11cb6:a 11d31-11d36:a 11d3a:a
    11d3c-11d3d:a 11d3f-11d45:a 11d47:a 11d90-11d91:a 11d95:a 11d97:a 11ef3-11ef4:a
    11fd5-11fdc:8 11fdd-11fe0:7 11fe1-11ff1:8 16af0-16af4:a 16b30-16b36:a 16f4f:a 16f8f-16f92:a
    16fe2:8 16fe4:a 1bc9d-1bc9e:a 1bca0-1bca3:9 1cf00-1cf2d:a 1cf30-1cf46:a 1d167-1d169:a
    1d173-1d17a:9 1d17b-1d182:a 1d185-1d18b:a 1d1aa-1d1ad:a 1d1e9-1d1ea:8 1d200-1d241:8
    1d242-1d244:a 1d245:8 1d300-1d356:8 1d6db:8 1d715:8 1d74f:8 1d789:8 1d7c3:8 1d7ce-1d7ff:4
    1da00-1da36:a 1da3b-1da6c:a 1da75:a 1da84:a 1da9b-1da9f:a 1daa1-1daaf:a 1e000-1e006:a
    1e008-1e018:a 1e01b-1e021:a 1e023-1e024:a 1e026-1e02a:a 1e130-1e136:a 1e2ae:a 1e2ec-1e2ef:a
    1e2ff:7 1e800-1e8c4:1 1e8c7-1e8cf:1 1e8d0-1e8d6:a 1e900-1e943:1 1e944-1e94a:a 1e94b:1
    1e950-1e959:1 1e95e-1e95f:1 1ec71-1ecb4:2 1ed01-1ed3d:2 1ee00-1ee03:2 1ee05-1ee1f:2
    1ee21-1ee22:2 1ee24:2 1ee27:2 1ee29-1ee32:2 1ee34-1ee37:2 1ee39:2 1ee3b:2 1ee42:2 1ee47:2
    1ee49:2 1ee4b:2 1ee4d-1ee4f:2 1ee51-1ee52:2 1ee54:2 1ee57:2 1ee59:2 1ee5b:2 1ee5d:2 1ee5f:2
    1ee61-1ee62:2 1ee64:2 1ee67-1ee6a:2 1ee6c-1ee72:2 1ee74-1ee77:2 1ee79-1ee7c:2 1ee7e:2
    1ee80-1ee89:2 1ee8b-1ee9b:2 1eea1-1eea3:2 1eea5-1eea9:2 1eeab-1eebb:2 1eef0-1eef1:8
    1f000-1f02b:8 1f030-1f093:8 1f0a0-1f0ae:8 1f0b1-1f0bf:8 1f0c1-1f0cf:8 1f0d1-1f0f5:8
    1f100-1f10a:4 1f10b-1f10f:8 1f12f:8 1f16a-1f16f:8 1f1ad:8 1f260-1f265:8 1f300-1f6d7:8
    1f6dd-1f6ec:8 1f6f0-1f6fc:8 1f700-1f773:8 1f780-1f7d8:8 1f7e0-1f7eb:8 1f7f0:8 1f800-1f80b:8
    1f810-1f847:8 1f850-1f859:8 1f860-1f887:8 1f890-1f8ad:8 1f8b0-1f8b1:8 1f900-1fa53:8
    1fa60-1fa6d:8 1fa70-1fa74:8 1fa78-1fa7c:8 1fa80-1fa86:8 1fa90-1faac:8 1fab0-1faba:8
    1fac0-1fac5:8 1fad0-1fad9:8 1fae0-1fae7:8 1faf0-1faf6:8 1fb00-1fb92:8 1fb94-1fbca:8
    1fbf0-1fbf9:4 e0001:9 e0020-e007f:9 e0100-e01ef:a"

def directions : List Span := spans directionText

def direction (c : Char) : Direction :=
  match valueAt? directions c.toNat with
  | none => .left
  | some 1 => .right
  | some 2 => .arabicLetter
  | some 3 => .arabicNumber
  | some 4 => .europeanNumber
  | some 5 => .europeanSeparator
  | some 6 => .commonSeparator
  | some 7 => .europeanTerminator
  | some 8 => .neutral
  | some 9 => .boundary
  | some 10 => .nonSpacing
  | some _ => .other

def isRightward (c : Char) : Bool :=
  match direction c with
  | .right | .arabicLetter | .arabicNumber => true
  | _ => false

-- Numbers, separators and marks, which both kinds of label may hold
def isShared (d : Direction) : Bool :=
  match d with
  | .europeanNumber | .europeanSeparator | .commonSeparator | .europeanTerminator | .neutral
  | .boundary | .nonSpacing => true
  | _ => false

-- The last character that is not a non-spacing mark
def lastSpacing (ds : List Direction) : Option Direction :=
  (ds.reverse.dropWhile (· == .nonSpacing)).head?

-- The rule for a label of a name that holds characters written from right to left.
def directionsFit (label : List Char) : Bool :=
  let ds := label.map direction
  match ds with
  | [] => true
  | .left :: _ =>
    ds.all (fun d => d == .left || isShared d) &&
      (lastSpacing ds == some .left || lastSpacing ds == some .europeanNumber)
  | first :: _ =>
    (first == .right || first == .arabicLetter) &&
      ds.all (fun d => d == .right || d == .arabicLetter || d == .arabicNumber || isShared d) &&
      (match lastSpacing ds with
        | some .right | some .arabicLetter | some .europeanNumber | some .arabicNumber => true
        | _ => false) &&
      !(ds.contains .europeanNumber && ds.contains .arabicNumber)

end Direction

end ChallengeLogin.Url.Domain
