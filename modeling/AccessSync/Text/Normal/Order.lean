import AccessSync.Text.Table
/-!
# The order of marks

Marks that stand at different places around a character may be typed in any order. Each has a class,
which says where it stands; other characters have class 0. `sortMarks` sorts the marks behind each
character by class and leaves those of one class as they are. Main statement: `sortMarks_perm`,
nothing is lost and nothing added.
-/

namespace AccessSync.Text

/-- The marks of each class. -/
def combiningClasses : List (Nat × List (Nat × Nat)) :=
  [(1, Table.ranges
     ["334-338 1cd4 1ce2-1ce8 20d2-20d3 20d8-20da 20e5-20e6 20ea-20eb 10a39 16af0-16af4 1bc9e",
      "1d167-1d169"]),
   (6, Table.ranges ["16ff0-16ff1"]),
   (7, Table.ranges
     ["93c 9bc a3c abc b3c c3c cbc 1037 1b34 1be6 1c37 a9b3 110ba 11173 111ca 11236 112e9",
      "1133b-1133c 11446 114c3 115c0 116b7 1183a 11943 11d42 1e94a"]),
   (8, Table.ranges ["3099-309a"]),
   (9, Table.ranges
     ["94d 9cd a4d acd b4d bcd c4d ccd d3b-d3c d4d dca e3a eba f84 1039-103a 1714-1715 1734",
      "17d2 1a60 1b44 1baa-1bab 1bf2-1bf3 2d7f a806 a82c a8c4 a953 a9c0 aaf6 abed 10a3f 11046",
      "11070 1107f 110b9 11133-11134 111c0 11235 112ea 1134d 113ce-113d0 11442 114c2 115bf",
      "1163f 116b6 1172b 11839 1193d-1193e 119e0 11a34 11a47 11a99 11c3f 11d44-11d45 11d97",
      "11f41-11f42 1612f"]),
   (10, Table.ranges ["5b0"]),
   (11, Table.ranges ["5b1"]),
   (12, Table.ranges ["5b2"]),
   (13, Table.ranges ["5b3"]),
   (14, Table.ranges ["5b4"]),
   (15, Table.ranges ["5b5"]),
   (16, Table.ranges ["5b6"]),
   (17, Table.ranges ["5b7"]),
   (18, Table.ranges ["5b8 5c7"]),
   (19, Table.ranges ["5b9-5ba"]),
   (20, Table.ranges ["5bb"]),
   (21, Table.ranges ["5bc"]),
   (22, Table.ranges ["5bd"]),
   (23, Table.ranges ["5bf"]),
   (24, Table.ranges ["5c1"]),
   (25, Table.ranges ["5c2"]),
   (26, Table.ranges ["fb1e"]),
   (27, Table.ranges ["64b 8f0"]),
   (28, Table.ranges ["64c 8f1"]),
   (29, Table.ranges ["64d 8f2"]),
   (30, Table.ranges ["618 64e"]),
   (31, Table.ranges ["619 64f"]),
   (32, Table.ranges ["61a 650"]),
   (33, Table.ranges ["651"]),
   (34, Table.ranges ["652"]),
   (35, Table.ranges ["670"]),
   (36, Table.ranges ["711"]),
   (84, Table.ranges ["c55"]),
   (91, Table.ranges ["c56"]),
   (103, Table.ranges ["e38-e39"]),
   (107, Table.ranges ["e48-e4b"]),
   (118, Table.ranges ["eb8-eb9"]),
   (122, Table.ranges ["ec8-ecb"]),
   (129, Table.ranges ["f71"]),
   (130, Table.ranges ["f72 f7a-f7d f80"]),
   (132, Table.ranges ["f74"]),
   (202, Table.ranges ["321-322 327-328 1dd0"]),
   (214, Table.ranges ["1dce"]),
   (216, Table.ranges ["31b f39 1d165-1d166 1d16e-1d172"]),
   (218, Table.ranges ["1dfa 302a"]),
   (220, Table.ranges
     ["316-319 31c-320 323-326 329-333 339-33c 347-349 34d-34e 353-356 359-35a 591 596 59b",
      "5a2-5a7 5aa 5c5 655-656 65c 65f 6e3 6ea 6ed 731 734 737-739 73b-73c 73e 742 744 746 748",
      "7f2 7fd 859-85b 899-89b 8cf-8d3 8e3 8e6 8e9 8ed-8ef 8f6 8f9-8fa 952 f18-f19 f35 f37 fc6",
      "108d 193b 1a18 1a7f 1ab5-1aba 1abd 1abf-1ac0 1ac3-1ac4 1aca 1add 1ae6 1b6c 1cd5-1cd9",
      "1cdc-1cdf 1ced 1dc2 1dca 1dcf 1df9 1dfd 1dff 20e8 20ec-20ef a92b-a92d aab4 fe27-fe2d",
      "101fd 102e0 10a0d 10a3a 10ae6 10efa-10efb 10efd-10eff 10f46-10f47 10f4b 10f4d-10f50",
      "10f83 10f85 1d17b-1d182 1d18a-1d18b 1e4ee 1e5ef 1e8d0-1e8d6"]),
   (222, Table.ranges ["59a 5ad 1939 302d"]),
   (224, Table.ranges ["302e-302f"]),
   (226, Table.ranges ["1d16d"]),
   (228, Table.ranges ["5ae 18a9 1df7-1df8 302b"]),
   (230, Table.ranges
     ["300-314 33d-344 346 34a-34c 350-352 357 35b 363-36f 483-487 592-595 597-599 59c-5a1",
      "5a8-5a9 5ab-5ac 5af 5c4 610-617 653-654 657-65b 65d-65e 6d6-6dc 6df-6e2 6e4 6e7-6e8",
      "6eb-6ec 730 732-733 735-736 73a 73d 73f-741 743 745 747 749-74a 7eb-7f1 7f3 816-819",
      "81b-823 825-827 829-82d 897-898 89c-89f 8ca-8ce 8d4-8e1 8e4-8e5 8e7-8e8 8ea-8ec 8f3-8f5",
      "8f7-8f8 8fb-8ff 951 953-954 9fe f82-f83 f86-f87 135d-135f 17dd 193a 1a17 1a75-1a7c",
      "1ab0-1ab4 1abb-1abc 1ac1-1ac2 1ac5-1ac9 1acb-1adc 1ae0-1ae5 1ae7-1aea 1b6b 1b6d-1b73",
      "1cd0-1cd2 1cda-1cdb 1ce0 1cf4 1cf8-1cf9 1dc0-1dc1 1dc3-1dc9 1dcb-1dcc 1dd1-1df5 1dfb",
      "1dfe 20d0-20d1 20d4-20d7 20db-20dc 20e1 20e7 20e9 20f0 2cef-2cf1 2de0-2dff a66f",
      "a674-a67d a69e-a69f a6f0-a6f1 a8e0-a8f1 aab0 aab2-aab3 aab7-aab8 aabe-aabf aac1",
      "fe20-fe26 fe2e-fe2f 10376-1037a 10a0f 10a38 10ae5 10d24-10d27 10d69-10d6d 10eab-10eac",
      "10f48-10f4a 10f4c 10f82 10f84 11100-11102 11366-1136c 11370-11374 1145e 16b30-16b36",
      "1d185-1d189 1d1aa-1d1ad 1d242-1d244 1e000-1e006 1e008-1e018 1e01b-1e021 1e023-1e024",
      "1e026-1e02a 1e08f 1e130-1e136 1e2ae 1e2ec-1e2ef 1e4ef 1e5ee 1e6e3 1e6e6 1e6ee-1e6ef",
      "1e6f5 1e944-1e949"]),
   (232, Table.ranges ["315 31a 358 1df6 302c 1e4ec-1e4ed"]),
   (233, Table.ranges ["35c 35f 362 1dfc"]),
   (234, Table.ranges ["35d-35e 360-361 1aeb 1dcd"]),
   (240, Table.ranges ["345"])]

/-- The class of a character, 0 if it is free to stand alone. -/
def combiningClass (c : Char) : Nat :=
  if c.toNat < 0x300 then 0
  else
    match combiningClasses.find? fun (_, ranges) => Table.holds ranges c with
    | some (k, _) => k
    | none => 0

/-- The class of marks that take the vowel of their letter away. -/
def viramaClass : Nat := 9

/-- The mark `c` put in front of ordered text, behind the marks of lower class that begin it. -/
def settle (c : Char) : List Char → List Char
  | [] => [c]
  | d :: ds =>
    if 0 < combiningClass d ∧ combiningClass d < combiningClass c then d :: settle c ds
    else c :: d :: ds

/-- The text with the marks behind each character in the order of their classes. -/
def sortMarks (cs : List Char) : List Char := cs.foldr settle []

theorem settle_perm (c : Char) (cs : List Char) : (settle c cs).Perm (c :: cs) := by
  fun_induction settle c cs with
  | case1 => exact .refl _
  | case2 d ds _ ih => exact (ih.cons d).trans (.swap c d ds)
  | case3 => exact .refl _

theorem sortMarks_perm (cs : List Char) : (sortMarks cs).Perm cs := by
  induction cs with
  | nil => exact .refl _
  | cons c cs ih => exact (settle_perm c (sortMarks cs)).trans (ih.cons c)

end AccessSync.Text
