import ProseCheck.Text.Ranges

/-!
# Composed characters

Many letters can be written as one character or as a letter and marks.  A text is composed if it
uses the one character wherever there is one and has its other marks in the order of their
classes.  The tables hold what may stand in domain names.
-/

namespace ProseCheck
namespace Composition

/-- A character that a first character and a second one make up. -/
structure Pair where
  /-- The first character. -/
  first : Nat
  /-- The second character. -/
  second : Nat
  /-- The character that both make up. -/
  composed : Nat

/-- The pair that a word such as `61+300=E0` stands for. -/
def pair? (word : Text) : Option Pair := do
  let (parts, composed) ← Text.cut? ['='] word
  let (first, second) ← Text.cut? ['+'] parts
  pure ⟨← Text.hexNumber? first, ← Text.hexNumber? second, ← Text.hexNumber? composed⟩

/-- Pairs that are composed, but for those of Hangul. -/
def pairs : List Pair :=
  ["61+300=E0 61+301=E1 61+302=E2 61+303=E3 61+308=E4 61+30A=E5 63+327=E7 65+300=E8 65+301=E9",
   "65+302=EA 65+308=EB 69+300=EC 69+301=ED 69+302=EE 69+308=EF 6E+303=F1 6F+300=F2 6F+301=F3",
   "6F+302=F4 6F+303=F5 6F+308=F6 75+300=F9 75+301=FA 75+302=FB 75+308=FC 79+301=FD 79+308=FF",
   "61+304=101 61+306=103 61+328=105 63+301=107 63+302=109 63+307=10B 63+30C=10D 64+30C=10F",
   "65+304=113 65+306=115 65+307=117 65+328=119 65+30C=11B 67+302=11D 67+306=11F 67+307=121",
   "67+327=123 68+302=125 69+303=129 69+304=12B 69+306=12D 69+328=12F 6A+302=135 6B+327=137",
   "6C+301=13A 6C+327=13C 6C+30C=13E 6E+301=144 6E+327=146 6E+30C=148 6F+304=14D 6F+306=14F",
   "6F+30B=151 72+301=155 72+327=157 72+30C=159 73+301=15B 73+302=15D 73+327=15F 73+30C=161",
   "74+327=163 74+30C=165 75+303=169 75+304=16B 75+306=16D 75+30A=16F 75+30B=171 75+328=173",
   "77+302=175 79+302=177 7A+301=17A 7A+307=17C 7A+30C=17E 6F+31B=1A1 75+31B=1B0 61+30C=1CE",
   "69+30C=1D0 6F+30C=1D2 75+30C=1D4 FC+304=1D6 FC+301=1D8 FC+30C=1DA FC+300=1DC E4+304=1DF",
   "227+304=1E1 E6+304=1E3 67+30C=1E7 6B+30C=1E9 6F+328=1EB 1EB+304=1ED 292+30C=1EF 6A+30C=1F0",
   "67+301=1F5 6E+300=1F9 E5+301=1FB E6+301=1FD F8+301=1FF 61+30F=201 61+311=203 65+30F=205",
   "65+311=207 69+30F=209 69+311=20B 6F+30F=20D 6F+311=20F 72+30F=211 72+311=213 75+30F=215",
   "75+311=217 73+326=219 74+326=21B 68+30C=21F 61+307=227 65+327=229 F6+304=22B F5+304=22D",
   "6F+307=22F 22F+304=231 79+304=233 3CA+301=390 3B1+301=3AC 3B5+301=3AD 3B7+301=3AE",
   "3B9+301=3AF 3CB+301=3B0 3B9+308=3CA 3C5+308=3CB 3BF+301=3CC 3C5+301=3CD 3C9+301=3CE",
   "438+306=439 435+300=450 435+308=451 433+301=453 456+308=457 43A+301=45C 438+300=45D",
   "443+306=45E 475+30F=477 436+306=4C2 430+306=4D1 430+308=4D3 435+306=4D7 4D9+308=4DB",
   "436+308=4DD 437+308=4DF 438+304=4E3 438+308=4E5 43E+308=4E7 4E9+308=4EB 44D+308=4ED",
   "443+304=4EF 443+308=4F1 443+30B=4F3 447+308=4F5 44B+308=4F9 627+653=622 627+654=623",
   "648+654=624 627+655=625 64A+654=626 6D5+654=6C0 6C1+654=6C2 6D2+654=6D3 928+93C=929",
   "930+93C=931 933+93C=934 9C7+9BE=9CB 9C7+9D7=9CC B47+B56=B48 B47+B3E=B4B B47+B57=B4C",
   "B92+BD7=B94 BC6+BBE=BCA BC7+BBE=BCB BC6+BD7=BCC C46+C56=C48 CBF+CD5=CC0 CC6+CD5=CC7",
   "CC6+CD6=CC8 CC6+CC2=CCA CCA+CD5=CCB D46+D3E=D4A D47+D3E=D4B D46+D57=D4C DD9+DCA=DDA",
   "DD9+DCF=DDC DDC+DCA=DDD DD9+DDF=DDE 1025+102E=1026 1B05+1B35=1B06 1B07+1B35=1B08",
   "1B09+1B35=1B0A 1B0B+1B35=1B0C 1B0D+1B35=1B0E 1B11+1B35=1B12 1B3A+1B35=1B3B 1B3C+1B35=1B3D",
   "1B3E+1B35=1B40 1B3F+1B35=1B41 1B42+1B35=1B43 61+325=1E01 62+307=1E03 62+323=1E05 62+331=1E07",
   "E7+301=1E09 64+307=1E0B 64+323=1E0D 64+331=1E0F 64+327=1E11 64+32D=1E13 113+300=1E15",
   "113+301=1E17 65+32D=1E19 65+330=1E1B 229+306=1E1D 66+307=1E1F 67+304=1E21 68+307=1E23",
   "68+323=1E25 68+308=1E27 68+327=1E29 68+32E=1E2B 69+330=1E2D EF+301=1E2F 6B+301=1E31",
   "6B+323=1E33 6B+331=1E35 6C+323=1E37 1E37+304=1E39 6C+331=1E3B 6C+32D=1E3D 6D+301=1E3F",
   "6D+307=1E41 6D+323=1E43 6E+307=1E45 6E+323=1E47 6E+331=1E49 6E+32D=1E4B F5+301=1E4D",
   "F5+308=1E4F 14D+300=1E51 14D+301=1E53 70+301=1E55 70+307=1E57 72+307=1E59 72+323=1E5B",
   "1E5B+304=1E5D 72+331=1E5F 73+307=1E61 73+323=1E63 15B+307=1E65 161+307=1E67 1E63+307=1E69",
   "74+307=1E6B 74+323=1E6D 74+331=1E6F 74+32D=1E71 75+324=1E73 75+330=1E75 75+32D=1E77",
   "169+301=1E79 16B+308=1E7B 76+303=1E7D 76+323=1E7F 77+300=1E81 77+301=1E83 77+308=1E85",
   "77+307=1E87 77+323=1E89 78+307=1E8B 78+308=1E8D 79+307=1E8F 7A+302=1E91 7A+323=1E93",
   "7A+331=1E95 68+331=1E96 74+308=1E97 77+30A=1E98 79+30A=1E99 61+323=1EA1 61+309=1EA3",
   "E2+301=1EA5 E2+300=1EA7 E2+309=1EA9 E2+303=1EAB 1EA1+302=1EAD 103+301=1EAF 103+300=1EB1",
   "103+309=1EB3 103+303=1EB5 1EA1+306=1EB7 65+323=1EB9 65+309=1EBB 65+303=1EBD EA+301=1EBF",
   "EA+300=1EC1 EA+309=1EC3 EA+303=1EC5 1EB9+302=1EC7 69+309=1EC9 69+323=1ECB 6F+323=1ECD",
   "6F+309=1ECF F4+301=1ED1 F4+300=1ED3 F4+309=1ED5 F4+303=1ED7 1ECD+302=1ED9 1A1+301=1EDB",
   "1A1+300=1EDD 1A1+309=1EDF 1A1+303=1EE1 1A1+323=1EE3 75+323=1EE5 75+309=1EE7 1B0+301=1EE9",
   "1B0+300=1EEB 1B0+309=1EED 1B0+303=1EEF 1B0+323=1EF1 79+300=1EF3 79+323=1EF5 79+309=1EF7",
   "79+303=1EF9 3B1+313=1F00 3B1+314=1F01 1F00+300=1F02 1F01+300=1F03 1F00+301=1F04",
   "1F01+301=1F05 1F00+342=1F06 1F01+342=1F07 3B5+313=1F10 3B5+314=1F11 1F10+300=1F12",
   "1F11+300=1F13 1F10+301=1F14 1F11+301=1F15 3B7+313=1F20 3B7+314=1F21 1F20+300=1F22",
   "1F21+300=1F23 1F20+301=1F24 1F21+301=1F25 1F20+342=1F26 1F21+342=1F27 3B9+313=1F30",
   "3B9+314=1F31 1F30+300=1F32 1F31+300=1F33 1F30+301=1F34 1F31+301=1F35 1F30+342=1F36",
   "1F31+342=1F37 3BF+313=1F40 3BF+314=1F41 1F40+300=1F42 1F41+300=1F43 1F40+301=1F44",
   "1F41+301=1F45 3C5+313=1F50 3C5+314=1F51 1F50+300=1F52 1F51+300=1F53 1F50+301=1F54",
   "1F51+301=1F55 1F50+342=1F56 1F51+342=1F57 3C9+313=1F60 3C9+314=1F61 1F60+300=1F62",
   "1F61+300=1F63 1F60+301=1F64 1F61+301=1F65 1F60+342=1F66 1F61+342=1F67 3B1+300=1F70",
   "3B5+300=1F72 3B7+300=1F74 3B9+300=1F76 3BF+300=1F78 3C5+300=1F7A 3C9+300=1F7C 3B1+306=1FB0",
   "3B1+304=1FB1 3B1+342=1FB6 3B7+342=1FC6 3B9+306=1FD0 3B9+304=1FD1 3CA+300=1FD2 3B9+342=1FD6",
   "3CA+342=1FD7 3C5+306=1FE0 3C5+304=1FE1 3CB+300=1FE2 3C1+313=1FE4 3C1+314=1FE5 3C5+342=1FE6",
   "3CB+342=1FE7 3C9+342=1FF6 304B+3099=304C 304D+3099=304E 304F+3099=3050 3051+3099=3052",
   "3053+3099=3054 3055+3099=3056 3057+3099=3058 3059+3099=305A 305B+3099=305C 305D+3099=305E",
   "305F+3099=3060 3061+3099=3062 3064+3099=3065 3066+3099=3067 3068+3099=3069 306F+3099=3070",
   "306F+309A=3071 3072+3099=3073 3072+309A=3074 3075+3099=3076 3075+309A=3077 3078+3099=3079",
   "3078+309A=307A 307B+3099=307C 307B+309A=307D 3046+3099=3094 309D+3099=309E 30AB+3099=30AC",
   "30AD+3099=30AE 30AF+3099=30B0 30B1+3099=30B2 30B3+3099=30B4 30B5+3099=30B6 30B7+3099=30B8",
   "30B9+3099=30BA 30BB+3099=30BC 30BD+3099=30BE 30BF+3099=30C0 30C1+3099=30C2 30C4+3099=30C5",
   "30C6+3099=30C7 30C8+3099=30C9 30CF+3099=30D0 30CF+309A=30D1 30D2+3099=30D3 30D2+309A=30D4",
   "30D5+3099=30D6 30D5+309A=30D7 30D8+3099=30D9 30D8+309A=30DA 30DB+3099=30DC 30DB+309A=30DD",
   "30A6+3099=30F4 30EF+3099=30F7 30F0+3099=30F8 30F1+3099=30F9 30F2+3099=30FA 30FD+3099=30FE",
   "11099+110BA=1109A 1109B+110BA=1109C 110A5+110BA=110AB 11131+11127=1112E 11132+11127=1112F",
   "11347+1133E=1134B 11347+11357=1134C 114B9+114BA=114BB 114B9+114B0=114BC 114B9+114BD=114BE",
   "115B8+115AF=115BA 115B9+115AF=115BB 11935+11930=11938"].flatMap fun line =>
    (Text.splitOn ' ' line.toList).filterMap pair?

/-- Classes of marks; marks of one class keep their order, and others ascend. -/
def classes : List (Nat × Ranges) :=
  [(1, .ofLines ["334-338 1CD4 1CE2-1CE8 10A39 16AF0-16AF4 1BC9E"]),
   (6, .ofLines ["16FF0-16FF1"]),
   (7, .ofLines
      ["93C 9BC A3C ABC B3C C3C CBC 1037 1B34 1BE6 1C37 A9B3 110BA 11173 111CA 11236 112E9",
       "1133B-1133C 11446 114C3 115C0 116B7 1183A 11943 11D42 1E94A"]),
   (8, .ofLines ["3099-309A"]),
   (9, .ofLines
      ["94D 9CD A4D ACD B4D BCD C4D CCD D3B-D3C D4D DCA E3A EBA F84 1039-103A 1714-1715 1734",
       "17D2 1A60 1B44 1BAA-1BAB 1BF2-1BF3 2D7F A806 A82C A8C4 A953 A9C0 AAF6 ABED 10A3F 11046",
       "11070 1107F 110B9 11133-11134 111C0 11235 112EA 1134D 11442 114C2 115BF 1163F 116B6",
       "1172B 11839 1193D-1193E 119E0 11A34 11A47 11A99 11C3F 11D44-11D45 11D97"]),
   (10, .ofLines ["5B0"]),
   (11, .ofLines ["5B1"]),
   (12, .ofLines ["5B2"]),
   (13, .ofLines ["5B3"]),
   (14, .ofLines ["5B4"]),
   (15, .ofLines ["5B5"]),
   (16, .ofLines ["5B6"]),
   (17, .ofLines ["5B7"]),
   (18, .ofLines ["5B8 5C7"]),
   (19, .ofLines ["5B9-5BA"]),
   (20, .ofLines ["5BB"]),
   (21, .ofLines ["5BC"]),
   (22, .ofLines ["5BD"]),
   (23, .ofLines ["5BF"]),
   (24, .ofLines ["5C1"]),
   (25, .ofLines ["5C2"]),
   (26, .ofLines ["FB1E"]),
   (27, .ofLines ["64B 8F0"]),
   (28, .ofLines ["64C 8F1"]),
   (29, .ofLines ["64D 8F2"]),
   (30, .ofLines ["618 64E"]),
   (31, .ofLines ["619 64F"]),
   (32, .ofLines ["61A 650"]),
   (33, .ofLines ["651"]),
   (34, .ofLines ["652"]),
   (35, .ofLines ["670"]),
   (36, .ofLines ["711"]),
   (84, .ofLines ["C55"]),
   (91, .ofLines ["C56"]),
   (103, .ofLines ["E38-E39"]),
   (107, .ofLines ["E48-E4B"]),
   (118, .ofLines ["EB8-EB9"]),
   (122, .ofLines ["EC8-ECB"]),
   (129, .ofLines ["F71"]),
   (130, .ofLines ["F72 F7A-F7D F80"]),
   (132, .ofLines ["F74"]),
   (202, .ofLines ["321-322 327-328 1DD0"]),
   (214, .ofLines ["1DCE"]),
   (216, .ofLines ["31B F39"]),
   (218, .ofLines ["1DFA 302A"]),
   (220, .ofLines
      ["316-319 31C-320 323-326 329-333 339-33C 347-349 34D-34E 353-356 359-35A 591 596 59B",
       "5A2-5A7 5AA 5C5 655-656 65C 65F 6E3 6EA 6ED 731 734 737-739 73B-73C 73E 742 744 746 748",
       "7F2 7FD 859-85B 899-89B 8CF-8D3 8E3 8E6 8E9 8ED-8EF 8F6 8F9-8FA 952 F18-F19 F35-F37 FC6",
       "108D 193B 1A18 1A7F 1AB5-1ABA 1ABD-1AC0 1AC3-1AC4 1ACA 1B6C 1CD5-1CD9 1CDC-1CDF 1CED",
       "1DC2 1DCA 1DCF 1DF9 1DFD 1DFF A92B-A92D AAB4 FE27-FE2D 101FD 102E0 10A0D 10A3A 10AE6",
       "10F46-10F47 10F4B 10F4D-10F50 10F83 10F85 1E8D0-1E8D6"]),
   (222, .ofLines ["59A 5AD 1939 302D"]),
   (228, .ofLines ["5AE 18A9 1DF7-1DF8 302B"]),
   (230, .ofLines
      ["300-314 33D-346 34A-34C 350-352 357 35B 363-36F 483-487 592-595 597-599 59C-5A1 5A8-5A9",
       "5AB-5AC 5AF 5C4 610-617 653-654 657-65B 65D-65E 6D6-6E2 6E4 6E7-6E8 6EB-6EC 730 732-733",
       "735-736 73A 73D 73F-741 743 745 747 749-74A 7EB-7F1 7F3 816-819 81B-823 825-827 829-82D",
       "898 89C-89F 8CA-8CE 8D4-8E1 8E4-8E5 8E7-8E8 8EA-8EC 8F3-8F5 8F7-8F8 8FB-8FF 951 953-954",
       "9FE F82-F83 F86-F87 135D-135F 17DD 193A 1A17 1A75-1A7C 1AB0-1AB4 1ABB-1ABC 1AC1-1AC2",
       "1AC5-1AC9 1ACB-1ACE 1B6B 1B6D-1B73 1CD0-1CD2 1CDA-1CDB 1CE0 1CF4 1CF8-1CF9 1DC0-1DC1",
       "1DC3-1DC9 1DCB-1DCC 1DD1-1DF5 1DFB 1DFE 2CEF-2CF1 2DE0-2DFF A66F-A67D A69E-A69F",
       "A6F0-A6F1 A8E0-A8F1 AAB0 AAB2-AAB3 AAB7-AAB8 AABE-AABF AAC1 FE20-FE26 FE2E-FE2F",
       "10376-1037A 10A0F 10A38 10AE5 10D24-10D27 10EAB-10EAC 10F48-10F4A 10F4C 10F82 10F84",
       "11100-11102 11366-11374 1145E 16B30-16B36 1E000-1E02A 1E130-1E136 1E2AE 1E2EC-1E2EF",
       "1E944-1E949"]),
   (232, .ofLines ["315 31A 358 1DF6 302C"]),
   (233, .ofLines ["35C 35F 362 1DFC"]),
   (234, .ofLines ["35D-35E 360-361 1DCD"])]

/-- Class of a character; that of a letter is zero. -/
def classOf (char : Char) : Nat :=
  ((classes.find? fun entry => entry.2.holdsChar char).map Prod.fst).getD 0

/-- First code point of the syllables of Hangul. -/
def syllables : Nat := 0xAC00

/-- First code points of leading consonants, of vowels, and of the places of final consonants, the
first of which is left empty. -/
def jamo : Nat × Nat × Nat := (0x1100, 0x1161, 0x11A7)

/-- The jamo of a syllable of Hangul. -/
def ofSyllable? (char : Char) : Option Text :=
  let place := char.toNat - syllables
  if char.toNat < syllables || 11172 ≤ place then none
  else
    let start := [Char.ofNat (jamo.1 + place / 588), Char.ofNat (jamo.2.1 + place % 588 / 28)]
    if place % 28 = 0 then some start
    else some (start ++ [Char.ofNat (jamo.2.2 + place % 28)])

/-- The syllable of Hangul that two characters make up. -/
def syllable? (first second : Char) : Option Char :=
  let lead := first.toNat - jamo.1
  let vowel := second.toNat - jamo.2.1
  let place := first.toNat - syllables
  let final := second.toNat - jamo.2.2
  if jamo.1 ≤ first.toNat && lead < 19 && jamo.2.1 ≤ second.toNat && vowel < 21 then
    some (Char.ofNat (syllables + lead * 588 + vowel * 28))
  else if syllables ≤ first.toNat && place < 11172 && place % 28 == 0
      && jamo.2.2 < second.toNat && final < 28 then
    some (Char.ofNat (first.toNat + final))
  else none

/-- The character that two characters make up. -/
def compose? (first second : Char) : Option Char :=
  match syllable? first second with
  | some char => some char
  | none =>
    (pairs.find? fun pair => pair.first == first.toNat && pair.second == second.toNat).map
      fun pair => Char.ofNat pair.composed

/-- Takes up to so many marks off a character. -/
def decomposeUpTo : Nat → Char → Text
  | 0, char => [char]
  | marks + 1, char =>
    match pairs.find? fun pair => pair.composed == char.toNat with
    | some pair => decomposeUpTo marks (Char.ofNat pair.first) ++ [Char.ofNat pair.second]
    | none => [char]

/-- The parts of a character; no character has more than three marks. -/
def decompose (char : Char) : Text := (ofSyllable? char).getD (decomposeUpTo 3 char)

/-- Puts a character after those of a text, last character first, but before the marks at its end
that are of a higher class. -/
def place (char : Char) : Text → Text
  | [] => [char]
  | last :: before =>
    if 0 < classOf char && classOf char < classOf last then last :: place char before
    else char :: last :: before

/-- The text with its marks in order. -/
def ordered (text : Text) : Text := (text.foldl (fun done char => place char done) []).reverse

/-- Letters that were put together, and the one that may still take marks. -/
structure Progress where
  /-- What is done, last character first. -/
  done : Text
  /-- The last letter. -/
  letter : Option Char
  /-- Marks of the letter that are not part of it, last character first. -/
  marks : Text

namespace Progress

/-- What is done once the last letter takes no more marks, last character first. -/
def close (progress : Progress) : Text := progress.marks ++ progress.letter.toList ++ progress.done

/-- Whether no mark keeps a character from the last letter. -/
def reaches (progress : Progress) (char : Char) : Bool :=
  match progress.marks with
  | [] => true
  | last :: _ => classOf last < classOf char

/-- Takes one character. -/
def take (progress : Progress) (char : Char) : Progress :=
  let made := if progress.reaches char then progress.letter.bind (compose? · char) else none
  match made with
  | some letter => { progress with letter := some letter }
  | none =>
    if classOf char = 0 then ⟨progress.close, some char, []⟩
    else { progress with marks := char :: progress.marks }

end Progress

/-- The text with letters and marks put together. -/
def composed (text : Text) : Text :=
  ((text.foldl Progress.take ⟨[], none, []⟩).close).reverse

/-- Whether a text is composed. -/
def isComposed (text : Text) : Bool := composed (ordered (text.flatMap decompose)) == text

end Composition
end ProseCheck
