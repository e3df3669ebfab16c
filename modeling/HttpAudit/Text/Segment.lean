import HttpAudit.Text.RunMap

/-!
# Parts of texts

The classes by which the rules of the Unicode standard find the boundaries between graphemes,
words and sentences.

## Main definitions

* `HttpAudit.Text.Segment.graphemeClass`, `wordClass`, `sentenceClass` — the class of a code point
  by its abbreviation, `-` where it has no class of its own.
* `HttpAudit.Text.Segment.graphemeNames`, `wordNames`, `sentenceNames` — the abbreviation for each
  name of a class, in the loose form.
-/

namespace HttpAudit.Text.Segment

/-- The runs of code points of one grapheme class; `H` marks the syllables of Hangul. -/
def graphemeTable : RunMap String := RunMap.ofRuns id
  "CN:10 LF CN:2 CR CN:18 -:95 CN:33 -:13 CN -:594 EX:112 -:275 EX:7 -:263 EX:45 - EX - EX:2 -
   EX:2 - EX -:56 PP:6 -:10 EX:11 - CN -:46 EX:21 -:16 EX -:101 EX:7 PP - EX:6 -:2 EX:2 - EX:4
   -:33 PP - EX -:30 EX:27 -:91 EX:11 -:58 EX:9 -:9 EX -:24 EX:4 - EX:9 - EX:3 - EX:5 -:43 EX:3
   -:52 PP:2 -:6 EX:8 -:42 EX:24 PP EX:32 SM -:54 EX SM EX - SM:3 EX:8 SM:4 EX SM:2 - EX:7 -:10
   EX:2 -:29 EX SM:2 -:56 EX - EX SM:2 EX:4 -:2 SM:2 -:2 SM:2 EX -:9 EX -:10 EX:2 -:26 EX -:2
   EX:2 SM -:56 EX - SM:3 EX:2 -:4 EX:2 -:2 EX:3 -:3 EX -:30 EX:2 -:3 EX -:11 EX:2 SM -:56 EX -
   SM:3 EX:5 - EX:2 SM - SM:2 EX -:20 EX:2 -:22 EX:6 - EX SM:2 -:56 EX - EX:2 SM EX:4 -:2 SM:2
   -:2 SM:2 EX -:7 EX:3 -:10 EX:2 -:30 EX -:59 EX SM EX SM:2 -:3 SM:3 - SM:3 EX -:9 EX -:40 EX
   SM:3 EX -:55 EX - EX:3 SM:4 - EX:3 - EX:4 -:7 EX:2 -:11 EX:2 -:29 EX SM:2 -:56 EX - SM EX SM:2
   EX SM:2 - EX SM:2 - SM:2 EX:2 -:7 EX:2 -:11 EX:2 -:15 SM -:12 EX:2 SM:2 -:55 EX:2 - EX SM:2
   EX:4 - SM:3 - SM:3 EX PP -:8 EX -:10 EX:2 -:29 EX SM:2 -:70 EX -:4 EX SM:2 EX:3 - EX - SM:7 EX
   -:18 SM:2 -:61 EX - SM EX:7 -:12 EX:8 -:98 EX - SM EX:9 -:11 EX:7 -:73 EX:2 -:27 EX - EX - EX
   -:4 SM:2 -:49 EX:14 SM EX:5 - EX:2 -:5 EX:11 - EX:36 -:9 EX -:102 EX:4 SM EX:6 - EX:2 SM:2
   EX:2 -:23 SM:2 EX:2 -:4 EX:3 -:16 EX:4 -:13 EX - SM EX:2 -:6 EX -:15 EX -:98 L:96 V:72 T:88
   -:349 EX:3 -:946 EX:3 SM -:28 EX:2 SM -:29 EX:2 -:30 EX:2 -:64 EX:2 SM EX:7 SM:8 EX SM:2 EX:11
   -:9 EX -:45 EX:3 CN EX -:117 EX:2 -:34 EX -:118 EX:3 SM:4 EX:2 SM:3 -:4 SM:2 EX SM:6 EX:3
   -:219 EX:2 SM:2 EX -:57 SM EX SM EX:7 - EX - EX -:2 EX:8 SM:6 EX:10 -:2 EX -:48 EX:31 -:49
   EX:4 SM -:47 EX:7 SM EX SM:5 EX SM:2 -:38 EX:9 -:12 EX:2 SM -:30 SM EX:4 SM:2 EX:2 SM EX:3
   -:56 EX SM EX:2 SM:3 EX SM EX:3 SM:2 -:48 SM:8 EX:8 SM:2 EX:2 -:152 EX:3 - EX:13 SM EX:7 -:4
   EX -:6 EX -:2 SM EX:2 -:198 EX:64 -:523 CN EX ZWJ CN:2 -:24 CN:7 -:49 CN:16 -:96 EX:33 -:3070
   EX:3 -:141 EX -:96 EX:32 -:554 EX:6 -:105 EX:2 -:30164 EX:4 - EX:10 -:32 EX:2 -:80 EX:2 -:272
   EX -:3 EX -:4 EX -:23 SM:2 EX:2 SM -:4 EX -:83 SM:2 -:50 SM:16 EX:2 -:26 EX:18 -:13 EX -:38
   EX:8 -:25 EX:11 SM:2 -:12 L:29 -:3 EX:3 SM -:47 EX SM:2 EX:4 SM:2 EX:2 SM:3 -:36 EX -:67 EX:6
   SM:2 EX:2 SM:2 EX:2 -:12 EX -:8 EX SM -:46 EX -:51 EX - EX:3 -:2 EX:2 -:5 EX:2 - EX -:41 SM
   EX:2 SM:2 -:5 SM EX -:236 SM:2 EX SM:2 EX SM:2 - SM EX -:18 H:11172 -:12 V:23 -:4 T:49 -:8994
   EX -:737 EX:16 -:16 EX:16 -:207 CN -:158 EX:2 -:80 CN:12 -:513 EX -:226 EX -:149 EX:5 -:1670
   EX:3 - EX:2 -:5 EX:4 -:40 EX:3 -:4 EX -:165 EX:2 -:573 EX:4 -:387 EX:2 -:80 EX:3 -:70 EX:11
   -:49 EX:4 -:122 SM EX SM -:53 EX:15 -:41 EX -:2 EX:2 -:10 EX:3 SM -:45 SM:3 EX:4 SM:2 EX:2 -:2
   PP -:4 EX -:10 PP -:50 EX:3 -:36 EX:5 SM EX:8 -:16 SM:2 -:44 EX -:12 EX:2 SM -:48 SM:3 EX:9
   SM:2 - PP:2 -:5 EX:4 - SM EX -:92 SM:3 EX:3 SM:2 EX SM EX:2 -:6 EX -:2 EX -:157 EX SM:3 EX:8
   -:21 EX:2 SM:2 -:55 EX:2 - EX SM EX SM:4 -:2 SM:2 -:2 SM:3 -:9 EX -:10 SM:2 -:2 EX:7 -:3 EX:5
   -:192 SM:3 EX:8 SM:2 EX:3 SM EX -:23 EX -:81 EX SM:2 EX:6 SM EX SM:2 EX SM EX:2 SM EX:2 -:235
   EX SM:2 EX:4 -:2 SM:4 EX:2 SM EX:2 -:27 EX:2 -:82 SM:3 EX:8 SM:2 EX SM EX:2 -:106 EX SM EX
   SM:2 EX:6 SM EX -:101 EX:3 -:2 EX:4 SM EX:5 -:256 SM:3 EX:9 SM EX:2 -:245 EX SM:5 - SM:2 -:2
   EX:2 SM EX PP SM PP SM EX -:141 SM:3 EX:4 -:2 EX:2 SM:4 EX -:3 SM -:28 EX:10 -:40 EX:6 SM PP
   EX:4 -:8 EX -:9 EX:6 SM:2 EX:3 -:40 PP:6 EX:13 SM EX:2 -:405 SM EX:7 - EX:6 SM EX -:82 EX:22 -
   SM EX:7 SM EX:2 SM EX:2 -:122 EX:6 -:3 EX - EX:2 - EX:7 PP EX -:66 SM:5 - EX:2 - SM:2 EX SM EX
   -:347 EX:2 SM:2 -:9 EX:2 PP SM -:48 SM:2 EX:5 -:3 SM:2 EX SM EX -:5357 CN:16 EX -:6 EX:15
   -:13978 EX:5 -:59 EX:7 -:1048 EX - SM:55 -:7 EX:4 -:81 EX -:11 SM:2 -:19627 EX:2 - CN:4 -:4700
   EX:46 -:2 EX:23 -:542 EX SM EX:3 -:3 SM EX:5 CN:8 EX:8 -:2 EX:7 -:30 EX:4 -:148 EX:3 -:1979
   EX:55 -:4 EX:50 -:8 EX -:14 EX -:22 EX:5 - EX:15 -:1360 EX:7 - EX:17 -:2 EX:7 - EX:2 - EX:5
   -:100 EX -:160 EX:7 -:375 EX -:61 EX:4 -:508 EX:4 -:992 EX:7 -:109 EX:7 -:2203 RI:26 -:507
   EX:5 -:789504 CN:32 EX:96 CN:128 EX:240 CN:3600 -:192512"

/-- The runs of code points of one word class. -/
def wordTable : RunMap String := RunMap.ofRuns id
  "-:10 LF NL:2 CR -:18 WSegSpace - DQ -:4 SQ -:4 MN - MB - NU:10 ML MN -:5 LE:26 -:4 EX - LE:26
   -:10 NL -:36 LE -:2 FO -:7 LE - ML -:2 LE -:5 LE:23 - LE:31 - LE:480 -:6 LE:34 Extend:112 LE:5
   - LE:2 -:2 LE:4 MN LE -:6 LE ML LE:3 - LE - LE:20 - LE:83 - LE:139 - Extend:7 LE:166 - LE:38
   -:2 LE:4 - LE ML LE:41 MN LE -:6 Extend:45 - Extend - Extend:2 - Extend:2 - Extend -:8 HL:27
   -:4 HL:4 LE ML -:11 FO:6 -:6 MN:2 -:2 Extend:11 - FO -:3 LE:43 Extend:21 NU:10 - NU MN - LE:2
   Extend LE:99 - LE Extend:7 FO - Extend:6 LE:2 Extend:2 - Extend:4 LE:2 NU:10 LE:3 -:2 LE -:15
   FO LE Extend LE:30 Extend:27 -:2 LE:89 Extend:11 LE -:14 NU:10 LE:33 Extend:9 LE:2 -:2 MN - LE
   -:2 Extend -:2 LE:22 Extend:4 LE Extend:9 LE Extend:3 LE Extend:5 -:18 LE:25 Extend:3 -:4
   LE:11 -:5 LE:24 - LE:6 - FO:2 -:6 Extend:8 LE:42 Extend:24 FO Extend:33 LE:54 Extend:3 LE
   Extend:18 LE Extend:7 LE:10 Extend:2 -:2 NU:10 - LE:16 Extend:3 - LE:8 -:2 LE:2 -:2 LE:22 -
   LE:7 - LE -:3 LE:4 -:2 Extend LE Extend:7 -:2 Extend:2 -:2 Extend:3 LE -:8 Extend -:4 LE:2 -
   LE:3 Extend:2 -:2 NU:10 LE:2 -:10 LE - Extend -:2 Extend:3 - LE:6 -:4 LE:2 -:2 LE:22 - LE:7 -
   LE:2 - LE:2 - LE:2 -:2 Extend - Extend:5 -:4 Extend:2 -:2 Extend:3 -:3 Extend -:7 LE:4 - LE
   -:7 NU:10 Extend:2 LE:3 Extend -:11 Extend:3 - LE:9 - LE:3 - LE:22 - LE:7 - LE:2 - LE:5 -:2
   Extend LE Extend:8 - Extend:3 - Extend:3 -:2 LE -:15 LE:2 Extend:2 -:2 NU:10 -:9 LE Extend:6 -
   Extend:3 - LE:8 -:2 LE:2 -:2 LE:22 - LE:7 - LE:2 - LE:5 -:2 Extend LE Extend:7 -:2 Extend:2
   -:2 Extend:3 -:7 Extend:3 -:4 LE:2 - LE:3 Extend:2 -:2 NU:10 - LE -:16 Extend LE - LE:6 -:3
   LE:3 - LE:4 -:3 LE:2 - LE - LE:2 -:3 LE:2 -:3 LE:3 -:3 LE:12 -:4 Extend:5 -:3 Extend:3 -
   Extend:4 -:2 LE -:6 Extend -:14 NU:10 -:16 Extend:5 LE:8 - LE:3 - LE:23 - LE:16 -:2 Extend LE
   Extend:7 - Extend:3 - Extend:4 -:7 Extend:2 - LE:3 -:2 LE -:2 LE:2 Extend:2 -:2 NU:10 -:16 LE
   Extend:3 - LE:8 - LE:3 - LE:23 - LE:10 - LE:5 -:2 Extend LE Extend:7 - Extend:3 - Extend:4 -:7
   Extend:2 -:6 LE:2 - LE:2 Extend:2 -:2 NU:10 - LE:2 Extend -:12 Extend:4 LE:9 - LE:3 - LE:41
   Extend:2 LE Extend:7 - Extend:3 - Extend:4 LE -:5 LE:3 Extend -:7 LE:3 Extend:2 -:2 NU:10 -:10
   LE:6 - Extend:3 - LE:18 -:3 LE:24 - LE:9 - LE -:2 LE:7 -:3 Extend -:4 Extend:6 - Extend -
   Extend:8 -:6 NU:10 -:2 Extend:2 -:61 Extend -:2 Extend:7 -:12 Extend:8 - NU:10 -:87 Extend -:2
   Extend:9 -:11 Extend:7 - NU:10 -:38 LE -:23 Extend:2 -:6 NU:10 -:11 Extend - Extend - Extend
   -:4 Extend:2 LE:8 - LE:36 -:4 Extend:20 - Extend:2 LE:5 Extend:11 - Extend:36 -:9 Extend -:100
   Extend:20 - NU:10 -:12 Extend:4 -:4 Extend:3 - Extend:3 -:2 Extend:7 -:3 Extend:4 -:13
   Extend:12 - Extend NU:10 Extend:4 -:2 LE:38 - LE -:5 LE -:2 LE:43 - LE:333 - LE:4 -:2 LE:7 -
   LE - LE:4 -:2 LE:41 - LE:4 -:2 LE:33 - LE:4 -:2 LE:7 - LE - LE:4 -:2 LE:15 - LE:57 - LE:4 -:2
   LE:67 -:2 Extend:3 -:32 LE:16 -:16 LE:86 -:2 LE:6 -:3 LE:620 -:2 LE:17 WSegSpace LE:26 -:5
   LE:75 -:3 LE:11 -:7 LE:18 Extend:4 -:9 LE:19 Extend:3 -:11 LE:18 Extend:2 -:12 LE:13 - LE:3 -
   Extend:2 -:64 Extend:32 -:9 Extend -:2 NU:10 -:33 Extend:3 FO Extend NU:10 -:6 LE:89 -:7 LE:5
   Extend:2 LE:34 Extend LE -:5 LE:70 -:10 LE:31 - Extend:12 -:4 Extend:12 -:10 NU:10 -:128 NU:10
   -:38 LE:23 Extend:5 -:57 Extend:10 - Extend:29 -:2 Extend NU:10 -:6 NU:10 -:22 Extend:31 -:49
   Extend:5 LE:47 Extend:17 LE:8 -:3 NU:10 -:17 Extend:9 -:12 Extend:3 LE:30 Extend:13 LE:2 NU:10
   LE:44 Extend:14 -:12 LE:36 Extend:20 -:8 NU:10 -:3 LE:3 NU:10 LE:36 -:2 LE:9 -:7 LE:43 -:2
   LE:3 -:16 Extend:3 - Extend:21 LE:4 Extend LE:6 Extend LE:2 Extend:3 LE -:5 LE:192 Extend:64
   LE:278 -:2 LE:6 -:2 LE:38 -:2 LE:6 -:2 LE:8 - LE - LE - LE - LE:31 -:2 LE:53 - LE:7 - LE -:3
   LE:3 - LE:7 -:3 LE:4 -:2 LE:6 -:4 LE:13 -:5 LE:3 - LE:7 -:3 WSegSpace:7 - WSegSpace:3 - Extend
   ZWJ FO:2 -:8 MB:2 -:10 MB -:2 ML NL:2 FO:5 EX -:15 EX:2 -:3 MN -:15 EX -:10 WSegSpace FO:5 -
   FO:10 - LE -:13 LE -:16 LE:13 -:51 Extend:33 -:17 LE -:4 LE -:2 LE:10 - LE -:3 LE:5 -:6 LE -
   LE - LE - LE:4 - LE:11 -:2 LE:4 -:5 LE:5 -:4 LE -:17 LE:41 -:813 LE:52 -:1814 LE:229 -:6 LE:4
   Extend:3 LE:2 -:12 LE:38 - LE -:5 LE -:2 LE:56 -:7 LE -:15 Extend LE:23 -:9 LE:7 - LE:7 - LE:7
   - LE:7 - LE:7 - LE:7 - LE:7 - LE:7 - Extend:32 -:47 LE -:464 WSegSpace -:4 LE -:36 Extend:6 -
   KA:5 -:5 LE:2 -:92 Extend:2 KA:2 -:3 KA:91 - KA:4 -:5 LE:43 - LE:94 -:17 LE:32 -:48 KA:16
   -:208 KA:47 - KA:88 -:27816 LE:1165 -:67 LE:46 -:2 LE:269 -:3 LE:16 NU:10 LE:2 -:20 LE:47
   Extend:4 - Extend:10 - LE:31 Extend:2 LE:80 Extend:2 -:22 LE:195 -:5 LE:2 - LE - LE:5 -:24
   LE:16 Extend LE:3 Extend LE:4 Extend LE:23 Extend:5 -:4 Extend -:19 LE:52 -:12 Extend:2 LE:50
   Extend:18 -:10 NU:10 -:6 Extend:18 LE:6 -:3 LE - LE:2 Extend NU:10 LE:28 Extend:8 -:2 LE:23
   Extend:13 -:12 LE:29 -:3 Extend:4 LE:47 Extend:14 -:14 LE NU:10 -:11 Extend -:10 NU:10 -:6
   LE:41 Extend:14 -:9 LE:3 Extend LE:8 Extend:2 -:2 NU:10 -:33 Extend:3 -:50 Extend - Extend:3
   -:2 Extend:2 -:5 Extend:2 - Extend -:30 LE:11 Extend:5 -:2 LE:3 Extend:2 -:10 LE:6 -:2 LE:6
   -:2 LE:6 -:9 LE:7 - LE:7 - LE:58 -:6 LE:115 Extend:8 - Extend:2 -:2 NU:10 -:6 LE:11172 -:12
   LE:23 -:4 LE:49 -:8964 LE:7 -:12 LE:5 -:5 HL Extend HL:10 - HL:13 - HL:5 - HL - HL:2 - HL:2 -
   HL:10 LE:98 -:33 LE:363 -:18 LE:64 -:2 LE:54 -:40 LE:12 -:4 Extend:16 MN -:2 ML MN -:11
   Extend:16 -:3 EX:2 -:24 EX:3 MN - MB - MN ML -:26 LE:5 - LE:135 -:2 FO -:7 MB -:4 MN - MB -
   NU:10 ML MN -:5 LE:26 -:4 EX - LE:26 -:11 KA:56 Extend:2 LE:31 -:3 LE:6 -:2 LE:6 -:2 LE:6 -:2
   LE:3 -:28 FO:3 -:4 LE:12 - LE:26 - LE:19 - LE:2 - LE:15 -:2 LE:14 -:34 LE:123 -:69 LE:53 -:136
   Extend -:130 LE:29 -:3 LE:49 -:15 Extend -:31 LE:32 -:13 LE:30 -:5 LE:38 Extend:5 -:5 LE:30
   -:2 LE:36 -:4 LE:8 - LE:5 -:42 LE:158 -:2 NU:10 -:6 LE:36 -:4 LE:36 -:4 LE:40 -:8 LE:52 -:12
   LE:11 - LE:15 - LE:7 - LE:2 - LE:11 - LE:15 - LE:7 - LE:2 -:67 LE:311 -:9 LE:22 -:10 LE:8 -:24
   LE:6 - LE:42 - LE:9 -:69 LE:6 -:2 LE - LE:44 - LE:2 -:3 LE -:2 LE:23 -:10 LE:23 -:9 LE:31 -:65
   LE:19 - LE:2 -:10 LE:22 -:10 LE:26 -:70 LE:56 -:6 LE:2 -:64 LE Extend:3 - Extend:2 -:5
   Extend:4 LE:4 - LE:3 - LE:29 -:2 Extend:3 -:4 Extend -:32 LE:29 -:3 LE:29 -:35 LE:8 - LE:28
   Extend:2 -:25 LE:54 -:10 LE:22 -:10 LE:19 -:13 LE:18 -:110 LE:73 -:55 LE:51 -:13 LE:51 -:13
   LE:36 Extend:4 -:8 NU:10 -:326 LE:42 - Extend:2 -:3 LE:2 -:75 Extend:3 LE:29 -:10 LE -:8 LE:22
   Extend:11 -:31 LE:18 Extend:4 -:42 LE:21 -:27 LE:23 -:9 Extend:3 LE:53 Extend:15 -:31 NU:10
   Extend LE:2 Extend:2 LE -:9 Extend:4 LE:45 Extend:11 -:2 FO -:4 Extend -:10 FO -:2 LE:25 -:7
   NU:10 -:6 Extend:3 LE:36 Extend:14 - NU:10 -:4 LE Extend:2 LE -:8 LE:35 Extend -:2 LE -:9
   Extend:3 LE:48 Extend:14 LE:4 -:4 Extend:4 - Extend:2 NU:10 LE - LE -:35 LE:18 - LE:25
   Extend:12 -:6 Extend LE:2 Extend -:62 LE:7 - LE - LE:4 - LE:15 - LE:10 -:7 LE:47 Extend:12 -:5
   NU:10 -:6 Extend:4 - LE:8 -:2 LE:2 -:2 LE:22 - LE:7 - LE:2 - LE:5 - Extend:2 LE Extend:7 -:2
   Extend:2 -:2 Extend:3 -:2 LE -:6 Extend -:5 LE:5 Extend:2 -:2 Extend:7 -:3 Extend:5 -:139
   LE:53 Extend:18 LE:4 -:5 NU:10 -:4 Extend LE:3 -:30 LE:48 Extend:20 LE:2 - LE -:8 NU:10 -:166
   LE:47 Extend:7 -:2 Extend:9 -:23 LE:4 Extend:2 -:34 LE:48 Extend:17 -:3 LE -:11 NU:10 -:38
   LE:43 Extend:13 LE -:7 NU:10 -:83 Extend:15 -:4 NU:10 -:198 LE:44 Extend:15 -:101 LE:64 NU:10
   -:21 LE:8 -:2 LE -:2 LE:8 - LE:2 - LE:24 Extend:6 - Extend:2 -:2 Extend:4 LE Extend LE
   Extend:2 -:12 NU:10 -:70 LE:8 -:2 LE:39 Extend:7 -:2 Extend:7 LE - LE Extend -:27 LE Extend:10
   LE:40 Extend:7 LE Extend:4 -:8 Extend -:8 LE Extend:11 LE:46 Extend:16 -:3 LE -:18 LE:73 -:263
   LE:9 - LE:37 Extend:8 - Extend:8 LE -:15 NU:10 -:24 LE:30 -:2 Extend:22 - Extend:14 -:73 LE:7
   - LE:2 - LE:38 Extend:6 -:3 Extend - Extend:2 - Extend:7 LE Extend -:8 NU:10 -:6 LE:6 - LE:2 -
   LE:32 Extend:5 - Extend:2 - Extend:5 LE -:7 NU:10 -:310 LE:19 Extend:4 -:9 Extend:2 LE Extend
   LE:13 - LE:34 Extend:7 -:3 Extend:5 -:13 NU:10 -:86 LE -:79 LE:922 -:102 LE:111 -:17 LE:196
   -:2636 LE:97 -:15 LE:1072 FO:16 Extend LE:6 Extend:15 -:4010 LE:583 -:8633 LE:569 -:7 LE:31 -
   NU:10 -:6 LE:79 - NU:10 -:6 LE:30 -:2 Extend:5 -:11 LE:48 Extend:7 -:9 LE:4 -:12 NU:10 -:9
   LE:21 -:5 LE:19 -:688 LE:64 -:128 LE:75 -:4 Extend LE Extend:55 -:7 Extend:4 LE:13 -:64 LE:2 -
   LE Extend -:11 Extend:2 -:16382 KA:4 - KA:7 - KA:2 - KA -:287 KA:3 -:50 KA -:14 KA:4 -:2712
   LE:107 -:5 LE:13 -:3 LE:9 -:7 LE:10 -:3 Extend:2 - FO:4 -:4700 Extend:46 -:2 Extend:23 -:542
   Extend:5 -:3 Extend:6 FO:8 Extend:8 -:2 Extend:7 -:30 Extend:4 -:148 Extend:3 -:443 LE:85 -
   LE:71 - LE:2 -:2 LE -:2 LE:2 -:2 LE:4 - LE:12 - LE - LE:7 - LE:65 - LE:4 -:2 LE:8 - LE:7 -
   LE:28 - LE:4 - LE:5 - LE -:3 LE:7 - LE:340 -:2 LE:25 - LE:25 - LE:31 - LE:25 - LE:31 - LE:25 -
   LE:31 - LE:25 - LE:31 - LE:25 - LE:8 -:2 NU:50 -:512 Extend:55 -:4 Extend:50 -:8 Extend -:14
   Extend -:22 Extend:5 - Extend:15 -:1104 LE:31 -:6 LE:6 -:213 Extend:7 - Extend:17 -:2 Extend:7
   - Extend:2 - Extend:5 -:5 LE:62 -:33 Extend -:112 LE:45 -:3 Extend:7 LE:7 -:2 NU:10 -:4 LE
   -:321 LE:30 Extend -:17 LE:44 Extend:4 NU:10 -:470 LE:28 Extend:4 NU:10 -:742 LE:7 - LE:4 -
   LE:2 - LE:15 - LE:197 -:11 Extend:7 -:41 LE:68 Extend:7 LE -:4 NU:10 -:1190 LE:4 - LE:27 -
   LE:2 - LE -:2 LE - LE:10 - LE:4 - LE - LE -:6 LE -:4 LE - LE - LE - LE:3 - LE:2 - LE -:2 LE -
   LE - LE - LE - LE - LE:2 - LE -:2 LE:4 - LE:7 - LE:4 - LE:4 - LE - LE:10 - LE:17 -:5 LE:3 -
   LE:5 - LE:17 -:628 LE:26 -:6 LE:26 -:6 LE:26 -:92 RI:26 -:507 Extend:5 -:2032 NU:10 -:787463
   FO -:30 Extend:96 -:128 Extend:240 -:196112"

/-- The runs of code points of one sentence class. -/
def sentenceTable : RunMap String := RunMap.ofRuns id
  "-:9 SP LF SP:2 CR -:18 SP ST CL -:4 CL:3 -:2 SC:2 AT - NU:10 SC -:4 ST - UP:26 CL - CL -:3
   LO:26 CL - CL -:7 SE -:26 SP -:9 LO CL - FO -:7 LO -:4 LO CL -:4 UP:23 - UP:7 LO:24 - LO:8 UP
   LO UP LO UP LO UP LO UP LO UP LO UP LO UP LO UP LO UP LO UP LO UP LO UP LO UP LO UP LO UP LO
   UP LO UP LO UP LO UP LO UP LO UP LO UP LO UP LO UP LO UP LO UP LO UP LO:2 UP LO UP LO UP LO UP
   LO UP LO UP LO UP LO UP LO:2 UP LO UP LO UP LO UP LO UP LO UP LO UP LO UP LO UP LO UP LO UP LO
   UP LO UP LO UP LO UP LO UP LO UP LO UP LO UP LO UP LO UP LO UP LO UP LO UP:2 LO UP LO UP LO:3
   UP:2 LO UP LO UP:2 LO UP:3 LO:2 UP:4 LO UP:2 LO UP:3 LO:3 UP:2 LO UP:2 LO UP LO UP LO UP:2 LO
   UP LO:2 UP LO UP:2 LO UP:3 LO UP LO UP:2 LO:2 LE UP LO:3 LE:4 UP:2 LO UP:2 LO UP:2 LO UP LO UP
   LO UP LO UP LO UP LO UP LO UP LO UP LO:2 UP LO UP LO UP LO UP LO UP LO UP LO UP LO UP LO UP
   LO:2 UP:2 LO UP LO UP:3 LO UP LO UP LO UP LO UP LO UP LO UP LO UP LO UP LO UP LO UP LO UP LO
   UP LO UP LO UP LO UP LO UP LO UP LO UP LO UP LO UP LO UP LO UP LO UP LO UP LO UP LO UP LO UP
   LO UP LO UP LO:7 UP:2 LO UP:2 LO:2 UP LO UP:4 LO UP LO UP LO UP LO UP LO:69 LE LO:36 LE:7 LO:2
   -:4 LE:12 -:14 LO:5 -:7 LE - LE -:17 EX:112 UP LO UP LO LE - UP LO -:2 LO:4 - UP -:6 UP - UP:3
   - UP - UP:2 LO UP:17 - UP:9 LO:35 UP LO:2 UP:3 LO:3 UP LO UP LO UP LO UP LO UP LO UP LO UP LO
   UP LO UP LO UP LO UP LO UP LO:5 UP LO - UP LO UP:2 LO:2 UP:51 LO:48 UP LO UP LO UP LO UP LO UP
   LO UP LO UP LO UP LO UP LO UP LO UP LO UP LO UP LO UP LO UP LO UP LO UP LO - EX:7 UP LO UP LO
   UP LO UP LO UP LO UP LO UP LO UP LO UP LO UP LO UP LO UP LO UP LO UP LO UP LO UP LO UP LO UP
   LO UP LO UP LO UP LO UP LO UP LO UP LO UP LO UP LO UP LO UP:2 LO UP LO UP LO UP LO UP LO UP LO
   UP LO:2 UP LO UP LO UP LO UP LO UP LO UP LO UP LO UP LO UP LO UP LO UP LO UP LO UP LO UP LO UP
   LO UP LO UP LO UP LO UP LO UP LO UP LO UP LO UP LO UP LO UP LO UP LO UP LO UP LO UP LO UP LO
   UP LO UP LO UP LO UP LO UP LO UP LO UP LO UP LO UP LO UP LO UP LO UP LO UP LO UP LO UP LO UP
   LO UP LO UP LO - UP:38 -:2 LE -:3 SC -:2 LO:41 ST -:7 EX:45 - EX - EX:2 - EX:2 - EX -:8 LE:27
   -:4 LE:5 -:12 FO:6 -:6 SC:2 -:2 EX:11 - FO ST:3 LE:43 EX:21 NU:10 - NU:2 - LE:2 EX LE:99 ST LE
   EX:7 FO - EX:6 LE:2 EX:2 - EX:4 LE:2 NU:10 LE:3 -:2 LE ST:3 -:12 FO LE EX LE:30 EX:27 -:2
   LE:89 EX:11 LE -:14 NU:10 LE:33 EX:9 LE:2 -:2 SC ST LE -:2 EX -:2 LE:22 EX:4 LE EX:9 LE EX:3
   LE EX:5 -:9 ST - ST -:3 ST:2 - LE:25 EX:3 -:4 LE:11 -:5 LE:24 - LE:6 - FO:2 -:6 EX:8 LE:42
   EX:24 FO EX:33 LE:54 EX:3 LE EX:18 LE EX:7 LE:10 EX:2 ST:2 NU:10 - LE:16 EX:3 - LE:8 -:2 LE:2
   -:2 LE:22 - LE:7 - LE -:3 LE:4 -:2 EX LE EX:7 -:2 EX:2 -:2 EX:3 LE -:8 EX -:4 LE:2 - LE:3 EX:2
   -:2 NU:10 LE:2 -:10 LE - EX -:2 EX:3 - LE:6 -:4 LE:2 -:2 LE:22 - LE:7 - LE:2 - LE:2 - LE:2 -:2
   EX - EX:5 -:4 EX:2 -:2 EX:3 -:3 EX -:7 LE:4 - LE -:7 NU:10 EX:2 LE:3 EX -:11 EX:3 - LE:9 -
   LE:3 - LE:22 - LE:7 - LE:2 - LE:5 -:2 EX LE EX:8 - EX:3 - EX:3 -:2 LE -:15 LE:2 EX:2 -:2 NU:10
   -:9 LE EX:6 - EX:3 - LE:8 -:2 LE:2 -:2 LE:22 - LE:7 - LE:2 - LE:5 -:2 EX LE EX:7 -:2 EX:2 -:2
   EX:3 -:7 EX:3 -:4 LE:2 - LE:3 EX:2 -:2 NU:10 - LE -:16 EX LE - LE:6 -:3 LE:3 - LE:4 -:3 LE:2 -
   LE - LE:2 -:3 LE:2 -:3 LE:3 -:3 LE:12 -:4 EX:5 -:3 EX:3 - EX:4 -:2 LE -:6 EX -:14 NU:10 -:16
   EX:5 LE:8 - LE:3 - LE:23 - LE:16 -:2 EX LE EX:7 - EX:3 - EX:4 -:7 EX:2 - LE:3 -:2 LE -:2 LE:2
   EX:2 -:2 NU:10 -:16 LE EX:3 - LE:8 - LE:3 - LE:23 - LE:10 - LE:5 -:2 EX LE EX:7 - EX:3 - EX:4
   -:7 EX:2 -:6 LE:2 - LE:2 EX:2 -:2 NU:10 - LE:2 EX -:12 EX:4 LE:9 - LE:3 - LE:41 EX:2 LE EX:7 -
   EX:3 - EX:4 LE -:5 LE:3 EX -:7 LE:3 EX:2 -:2 NU:10 -:10 LE:6 - EX:3 - LE:18 -:3 LE:24 - LE:9 -
   LE -:2 LE:7 -:3 EX -:4 EX:6 - EX - EX:8 -:6 NU:10 -:2 EX:2 -:13 LE:48 EX LE:2 EX:7 -:5 LE:7
   EX:8 - NU:10 -:39 LE:2 - LE - LE:5 - LE:24 - LE - LE:10 EX LE:2 EX:9 LE -:2 LE:5 - LE - EX:7 -
   NU:10 -:2 LE:4 -:32 LE -:23 EX:2 -:6 NU:10 -:11 EX - EX - EX CL:4 EX:2 LE:8 - LE:36 -:4 EX:20
   - EX:2 LE:5 EX:11 - EX:36 -:9 EX -:57 LE:43 EX:20 LE NU:10 ST:2 -:4 LE:6 EX:4 LE:4 EX:3 LE
   EX:3 LE:2 EX:7 LE:3 EX:4 LE:13 EX:12 LE EX NU:10 EX:4 -:2 UP:38 - UP -:5 UP -:2 LE:43 - LO
   LE:332 - LE:4 -:2 LE:7 - LE - LE:4 -:2 LE:41 - LE:4 -:2 LE:33 - LE:4 -:2 LE:7 - LE - LE:4 -:2
   LE:15 - LE:57 - LE:4 -:2 LE:67 -:2 EX:3 -:2 ST -:4 ST:2 -:23 LE:16 -:16 UP:86 -:2 LO:6 -:3
   LE:620 - ST LE:17 SP LE:26 CL:2 -:3 LE:75 -:3 LE:11 -:7 LE:18 EX:4 -:9 LE:19 EX:3 ST:2 -:9
   LE:18 EX:2 -:12 LE:13 - LE:3 - EX:2 -:12 LE:52 EX:32 -:3 LE -:4 LE EX -:2 NU:10 -:24 SC ST -:4
   SC ST - EX:3 FO EX NU:10 -:6 LE:89 -:7 LE:5 EX:2 LE:34 EX LE -:5 LE:70 -:10 LE:31 - EX:12 -:4
   EX:12 -:8 ST:2 NU:10 LE:30 -:2 LE:5 -:11 LE:44 -:4 LE:26 -:6 NU:10 -:38 LE:23 EX:5 -:4 LE:53
   EX:10 - EX:29 -:2 EX NU:10 -:6 NU:10 -:13 LE ST:4 -:4 EX:31 -:49 EX:5 LE:47 EX:17 LE:8 -:3
   NU:10 ST:2 -:2 ST:2 -:11 EX:9 -:9 ST:2 - EX:3 LE:30 EX:13 LE:2 NU:10 LE:44 EX:14 -:12 LE:36
   EX:20 -:3 ST:2 -:3 NU:10 -:3 LE:3 NU:10 LE:36 ST:2 LO:9 -:7 LE:43 -:2 LE:3 -:16 EX:3 - EX:21
   LE:4 EX LE:6 EX LE:2 EX:3 LE -:5 LO:192 EX:64 UP LO UP LO UP LO UP LO UP LO UP LO UP LO UP LO
   UP LO UP LO UP LO UP LO UP LO UP LO UP LO UP LO UP LO UP LO UP LO UP LO UP LO UP LO UP LO UP
   LO UP LO UP LO UP LO UP LO UP LO UP LO UP LO UP LO UP LO UP LO UP LO UP LO UP LO UP LO UP LO
   UP LO UP LO UP LO UP LO UP LO UP LO UP LO UP LO UP LO UP LO UP LO UP LO UP LO UP LO UP LO UP
   LO UP LO UP LO UP LO UP LO UP LO UP LO UP LO UP LO UP LO UP LO UP LO UP LO UP LO UP LO UP LO
   UP LO UP LO UP LO UP LO UP LO:9 UP LO UP LO UP LO UP LO UP LO UP LO UP LO UP LO UP LO UP LO UP
   LO UP LO UP LO UP LO UP LO UP LO UP LO UP LO UP LO UP LO UP LO UP LO UP LO UP LO UP LO UP LO
   UP LO UP LO UP LO UP LO UP LO UP LO UP LO UP LO UP LO UP LO UP LO UP LO UP LO UP LO UP LO UP
   LO UP LO UP LO UP LO UP LO UP LO UP LO UP LO:9 UP:8 LO:6 -:2 UP:6 -:2 LO:8 UP:8 LO:8 UP:8 LO:6
   -:2 UP:6 -:2 LO:8 - UP - UP - UP - UP LO:8 UP:8 LO:14 -:2 LO:8 UP:8 LO:8 UP:8 LO:8 UP:8 LO:5 -
   LO:2 UP:5 - LO -:3 LO:3 - LO:2 UP:5 -:3 LO:4 -:2 LO:2 UP:4 -:4 LO:8 UP:5 -:5 LO:3 - LO:2 UP:5
   -:3 SP:11 FO EX:2 FO:2 -:3 SC:2 -:3 CL:8 -:4 AT -:3 SE:2 FO:5 SP -:9 CL:2 - ST:2 -:7 CL:2 ST:3
   -:21 SP FO:5 - FO:10 - LO -:11 CL:2 LO -:13 CL:2 - LO:13 -:51 EX:33 -:17 UP -:4 UP -:2 LO UP:3
   LO:2 UP:3 LO - UP -:3 UP:5 -:6 UP - UP - UP - UP:4 - LO UP:4 LO LE:4 LO -:2 LO:2 UP:2 -:5 UP
   LO:4 -:4 LO -:17 UP:16 LO:16 LE:3 UP LO LE:4 -:383 CL:4 -:29 CL:2 -:395 UP:26 LO:26 -:625 CL:6
   -:7 CL:14 -:79 CL:2 -:31 CL:10 -:403 CL:22 -:63 CL:4 -:32 CL:2 -:514 UP:48 LO:48 UP LO UP:3
   LO:2 UP LO UP LO UP LO UP:4 LO UP LO:2 UP LO:8 UP:3 LO UP LO UP LO UP LO UP LO UP LO UP LO UP
   LO UP LO UP LO UP LO UP LO UP LO UP LO UP LO UP LO UP LO UP LO UP LO UP LO UP LO UP LO UP LO
   UP LO UP LO UP LO UP LO UP LO UP LO UP LO UP LO UP LO UP LO UP LO UP LO UP LO UP LO UP LO UP
   LO UP LO UP LO UP LO UP LO UP LO UP LO UP LO UP LO UP LO UP LO UP LO:2 -:6 UP LO UP LO EX:3 UP
   LO -:12 LO:38 - LO -:5 LO -:2 LE:56 -:7 LE -:15 EX LE:23 -:9 LE:7 - LE:7 - LE:7 - LE:7 - LE:7
   - LE:7 - LE:7 - LE:7 - EX:32 CL:14 -:14 CL:2 -:2 CL:10 -:4 ST LE -:12 ST -:5 CL -:16 ST:2 CL:8
   -:419 SP SC ST -:2 LE:3 CL:10 -:2 CL:8 - CL:3 - LE:9 EX:6 - LE:5 -:2 LE:5 -:4 LE:86 -:2 EX:2
   -:2 LE:3 - LE:90 - LE:4 -:5 LE:43 - LE:94 -:17 LE:32 -:48 LE:16 -:512 LE:6592 -:64 LE:22157
   -:67 LE:46 - ST LE:269 - ST:2 LE:16 NU:10 LE:2 -:20 UP LO UP LO UP LO UP LO UP LO UP LO UP LO
   UP LO UP LO UP LO UP LO UP LO UP LO UP LO UP LO UP LO UP LO UP LO UP LO UP LO UP LO UP LO UP
   LO LE EX:4 - EX:10 - LE UP LO UP LO UP LO UP LO UP LO UP LO UP LO UP LO UP LO UP LO UP LO UP
   LO UP LO UP LO:3 EX:2 LE:80 EX:2 - ST -:3 ST -:31 LE:9 -:2 UP LO UP LO UP LO UP LO UP LO UP LO
   UP LO:3 UP LO UP LO UP LO UP LO UP LO UP LO UP LO UP LO UP LO UP LO UP LO UP LO UP LO UP LO UP
   LO UP LO UP LO UP LO UP LO UP LO UP LO UP LO UP LO UP LO UP LO UP LO UP LO UP LO UP LO UP LO
   UP LO:10 UP LO UP LO UP:2 LO UP LO UP LO UP LO UP LO LE -:2 UP LO UP LO LE UP LO UP LO:3 UP LO
   UP LO UP LO UP LO UP LO UP LO UP LO UP LO UP LO UP LO UP:5 LO UP:5 LO UP LO UP LO UP LO UP LO
   UP LO UP LO UP LO UP:4 LO UP LO -:5 UP LO - LO - LO UP LO UP LO -:24 LO:3 UP LO LE LO:3 LE:7
   EX LE:3 EX LE:4 EX LE:23 EX:5 -:4 EX -:19 LE:52 -:2 ST:2 -:8 EX:2 LE:50 EX:18 -:8 ST:2 NU:10
   -:6 EX:18 LE:6 -:3 LE - LE:2 EX NU:10 LE:28 EX:8 - ST LE:23 EX:13 -:12 LE:29 -:3 EX:4 LE:47
   EX:14 -:7 ST:2 -:5 LE NU:10 -:6 LE:5 EX LE:10 NU:10 LE:5 - LE:41 EX:14 -:9 LE:3 EX LE:8 EX:2
   -:2 NU:10 -:3 ST:3 LE:23 -:3 LE EX:3 LE:50 EX LE EX:3 LE:2 EX:2 LE:5 EX:2 LE EX LE -:24 LE:3
   -:2 LE:11 EX:5 ST:2 LE:3 EX:2 -:10 LE:6 -:2 LE:6 -:2 LE:6 -:9 LE:7 - LE:7 - LO:43 - LO:14 -:6
   LO:80 LE:35 EX:8 ST EX:2 -:2 NU:10 -:6 LE:11172 -:12 LE:23 -:4 LE:49 -:8452 LE:366 -:2 LE:106
   -:38 LO:7 -:12 LO:5 -:5 LE EX LE:10 - LE:13 - LE:5 - LE - LE:2 - LE:2 - LE:108 -:33 LE:363
   CL:2 -:16 LE:64 -:2 LE:54 -:40 LE:12 -:4 EX:16 SC:2 - SC -:3 CL:2 -:7 EX:16 - SC:2 -:2 CL:16
   -:2 CL:2 -:7 SC:2 AT -:2 SC ST:2 SC CL:6 -:4 SC -:12 LE:5 - LE:135 -:2 FO - ST -:6 CL:2 -:2
   SC:2 AT - NU:10 SC -:4 ST - UP:26 CL - CL -:3 LO:26 CL - CL - CL:2 ST CL:2 SC - LE:56 EX:2
   LE:31 -:3 LE:6 -:2 LE:6 -:2 LE:6 -:2 LE:3 -:28 FO:3 -:4 LE:12 - LE:26 - LE:19 - LE:2 - LE:15
   -:2 LE:14 -:34 LE:123 -:69 LE:53 -:136 EX -:130 LE:29 -:3 LE:49 -:15 EX -:31 LE:32 -:13 LE:30
   -:5 LE:38 EX:5 -:5 LE:30 -:2 LE:36 -:4 LE:8 - LE:5 -:42 UP:40 LO:40 LE:78 -:2 NU:10 -:6 UP:36
   -:4 LO:36 -:4 LE:40 -:8 LE:52 -:12 UP:11 - UP:15 - UP:7 - UP:2 - LO:11 - LO:15 - LO:7 - LO:2
   -:67 LE:311 -:9 LE:22 -:10 LE:8 -:24 LO LE:2 LO:3 - LO:42 - LO:9 -:69 LE:6 -:2 LE - LE:44 -
   LE:2 -:3 LE -:2 LE:23 -:10 LE:23 -:9 LE:31 -:65 LE:19 - LE:2 -:10 LE:22 -:10 LE:26 -:70 LE:56
   -:6 LE:2 -:64 LE EX:3 - EX:2 -:5 EX:4 LE:4 - LE:3 - LE:29 -:2 EX:3 -:4 EX -:22 ST:2 -:8 LE:29
   -:3 LE:29 -:35 LE:8 - LE:28 EX:2 -:25 LE:54 -:10 LE:22 -:10 LE:19 -:13 LE:18 -:110 LE:73 -:55
   UP:51 -:13 LO:51 -:13 LE:36 EX:4 -:8 NU:10 -:326 LE:42 - EX:2 -:3 LE:2 -:75 EX:3 LE:29 -:10 LE
   -:8 LE:22 EX:11 -:4 ST:5 -:22 LE:18 EX:4 ST:4 -:38 LE:21 -:27 LE:23 -:9 EX:3 LE:53 EX:15 ST:2
   -:29 NU:10 EX LE:2 EX:2 LE -:9 EX:4 LE:45 EX:11 -:2 FO ST:4 EX -:10 FO -:2 LE:25 -:7 NU:10 -:6
   EX:3 LE:36 EX:14 - NU:10 - ST:3 LE EX:2 LE -:8 LE:35 EX -:2 LE -:9 EX:3 LE:48 EX:14 LE:4 ST:2
   -:2 EX:4 ST EX:2 NU:10 LE - LE - ST:2 -:32 LE:18 - LE:25 EX:12 ST:2 - ST:2 - EX LE:2 EX -:62
   LE:7 - LE - LE:4 - LE:15 - LE:10 ST -:6 LE:47 EX:12 -:5 NU:10 -:6 EX:4 - LE:8 -:2 LE:2 -:2
   LE:22 - LE:7 - LE:2 - LE:5 - EX:2 LE EX:7 -:2 EX:2 -:2 EX:3 -:2 LE -:6 EX -:5 LE:5 EX:2 -:2
   EX:7 -:3 EX:5 -:139 LE:53 EX:18 LE:4 ST:2 -:3 NU:10 -:4 EX LE:3 -:30 LE:48 EX:20 LE:2 - LE -:8
   NU:10 -:166 LE:47 EX:7 -:2 EX:9 - ST:2 -:5 ST:15 LE:4 EX:2 -:34 LE:48 EX:17 ST:2 - LE -:11
   NU:10 -:38 LE:43 EX:13 LE -:7 NU:10 -:54 LE:27 -:2 EX:15 -:4 NU:10 -:2 ST:3 - LE:7 -:185 LE:44
   EX:15 -:101 UP:32 LO:32 NU:10 -:21 LE:8 -:2 LE -:2 LE:8 - LE:2 - LE:24 EX:6 - EX:2 -:2 EX:4 LE
   EX LE EX:2 ST - ST -:9 NU:10 -:70 LE:8 -:2 LE:39 EX:7 -:2 EX:7 LE - LE EX -:27 LE EX:10 LE:40
   EX:7 LE EX:4 -:3 ST:2 -:3 EX -:8 LE EX:11 LE:46 EX:16 - ST:2 LE -:18 LE:73 -:263 LE:9 - LE:37
   EX:8 - EX:8 LE ST:2 -:13 NU:10 -:24 LE:30 -:2 EX:22 - EX:14 -:73 LE:7 - LE:2 - LE:38 EX:6 -:3
   EX - EX:2 - EX:7 LE EX -:8 NU:10 -:6 LE:6 - LE:2 - LE:32 EX:5 - EX:2 - EX:5 LE -:7 NU:10 -:310
   LE:19 EX:4 ST:2 -:7 EX:2 LE EX LE:13 - LE:34 EX:7 -:3 EX:5 ST:2 -:11 NU:10 -:86 LE -:79 LE:922
   -:102 LE:111 -:17 LE:196 -:2636 LE:97 -:15 LE:1072 FO:16 EX LE:6 EX:15 -:4010 LE:583 -:8633
   LE:569 -:7 LE:31 - NU:10 -:4 ST:2 LE:79 - NU:10 -:6 LE:30 -:2 EX:5 ST -:10 LE:48 EX:7 ST:2 -:7
   LE:4 ST -:11 NU:10 -:9 LE:21 -:5 LE:19 -:688 UP:32 LO:32 -:24 ST -:103 LE:75 -:4 EX LE EX:55
   -:7 EX:4 LE:13 -:64 LE:2 - LE EX -:11 EX:2 -:14 LE:6136 -:8 LE:1238 -:42 LE:9 -:8935 LE:4 -
   LE:7 - LE:2 - LE:291 -:15 LE -:29 LE:3 -:2 LE -:14 LE:4 -:8 LE:396 -:2308 LE:107 -:5 LE:13 -:3
   LE:9 -:7 LE:10 -:3 EX:2 ST FO:4 -:4700 EX:46 -:2 EX:23 -:542 EX:5 -:3 EX:6 FO:8 EX:8 -:2 EX:7
   -:30 EX:4 -:148 EX:3 -:443 UP:26 LO:26 UP:26 LO:7 - LO:18 UP:26 LO:26 UP - UP:2 -:2 UP -:2
   UP:2 -:2 UP:4 - UP:8 LO:4 - LO - LO:7 - LO:11 UP:26 LO:26 UP:2 - UP:4 -:2 UP:8 - UP:7 - LO:26
   UP:2 - UP:4 - UP:5 - UP -:3 UP:7 - LO:26 UP:26 LO:26 UP:26 LO:26 UP:26 LO:26 UP:26 LO:26 UP:26
   LO:26 UP:26 LO:28 -:2 UP:25 - LO:25 - LO:6 UP:25 - LO:25 - LO:6 UP:25 - LO:25 - LO:6 UP:25 -
   LO:25 - LO:6 UP:25 - LO:25 - LO:6 UP LO -:2 NU:50 -:512 EX:55 -:4 EX:50 -:8 EX -:14 EX -:3 ST
   -:18 EX:5 - EX:15 -:1104 LO:10 LE LO:20 -:6 LO:6 -:213 EX:7 - EX:17 -:2 EX:7 - EX:2 - EX:5 -:5
   LO:62 -:33 EX -:112 LE:45 -:3 EX:7 LE:7 -:2 NU:10 -:4 LE -:321 LE:30 EX -:17 LE:44 EX:4 NU:10
   -:470 LE:28 EX:4 NU:10 -:742 LE:7 - LE:4 - LE:2 - LE:15 - LE:197 -:11 EX:7 -:41 UP:34 LO:34
   EX:7 LE -:4 NU:10 -:1190 LE:4 - LE:27 - LE:2 - LE -:2 LE - LE:10 - LE:4 - LE - LE -:6 LE -:4
   LE - LE - LE - LE:3 - LE:2 - LE -:2 LE - LE - LE - LE - LE - LE:2 - LE -:2 LE:4 - LE:7 - LE:4
   - LE:4 - LE - LE:10 - LE:17 -:5 LE:3 - LE:5 - LE:17 -:628 UP:26 -:6 UP:26 -:6 UP:26 -:1260
   CL:3 -:1399 NU:10 -:1030 LE:42720 -:32 LE:4154 -:6 LE:222 -:2 LE:5762 -:14 LE:7473 -:3103
   LE:542 -:1506 LE:4939 -:5 LE:4192 -:711761 FO -:30 EX:96 -:128 EX:240 -:196112"

/-- The first syllable of Hangul. -/
def firstSyllable : Nat := 0xAC00

/-- The number of syllables of Hangul that begin in the same way: one that is open, and then those
with each of the final consonants. -/
def syllableBlock : Nat := 28

/-- The class of a code point with respect to graphemes. -/
def graphemeClass (c : Nat) : String :=
  match graphemeTable.find? c with
  | some "H" => if (c - firstSyllable) % syllableBlock == 0 then "LV" else "LVT"
  | label => label.getD "-"

/-- The class of a code point with respect to words. -/
def wordClass (c : Nat) : String := (wordTable.find? c).getD "-"

/-- The class of a code point with respect to sentences. -/
def sentenceClass (c : Nat) : String := (sentenceTable.find? c).getD "-"

/-- The names of grapheme classes. -/
def graphemeNames : List (String × String) :=
  [("cn", "CN"), ("control", "CN"), ("cr", "CR"), ("ex", "EX"), ("extend", "EX"), ("l", "L"),
   ("lf", "LF"), ("lv", "LV"), ("lvt", "LVT"), ("pp", "PP"), ("prepend", "PP"),
   ("regionalindicator", "RI"), ("ri", "RI"), ("sm", "SM"), ("spacingmark", "SM"), ("t", "T"),
   ("v", "V"), ("zwj", "ZWJ")]

/-- The names of word classes. -/
def wordNames : List (String × String) :=
  [("aletter", "LE"), ("cr", "CR"), ("doublequote", "DQ"), ("dq", "DQ"), ("ex", "EX"),
   ("extend", "Extend"), ("extendnumlet", "EX"), ("fo", "FO"), ("format", "FO"),
   ("hebrewletter", "HL"), ("hl", "HL"), ("ka", "KA"), ("katakana", "KA"), ("le", "LE"),
   ("lf", "LF"), ("mb", "MB"), ("midletter", "ML"), ("midnum", "MN"), ("midnumlet", "MB"),
   ("ml", "ML"), ("mn", "MN"), ("newline", "NL"), ("nl", "NL"), ("nu", "NU"), ("numeric", "NU"),
   ("regionalindicator", "RI"), ("ri", "RI"), ("singlequote", "SQ"), ("sq", "SQ"),
   ("wsegspace", "WSegSpace"), ("zwj", "ZWJ")]

/-- The names of sentence classes. -/
def sentenceNames : List (String × String) :=
  [("at", "AT"), ("aterm", "AT"), ("cl", "CL"), ("close", "CL"), ("cr", "CR"), ("ex", "EX"),
   ("extend", "EX"), ("fo", "FO"), ("format", "FO"), ("le", "LE"), ("lf", "LF"), ("lo", "LO"),
   ("lower", "LO"), ("nu", "NU"), ("numeric", "NU"), ("oletter", "LE"), ("sc", "SC"),
   ("scontinue", "SC"), ("se", "SE"), ("sep", "SE"), ("sp", "SP"), ("st", "ST"), ("sterm", "ST"),
   ("up", "UP"), ("upper", "UP")]

end HttpAudit.Text.Segment
