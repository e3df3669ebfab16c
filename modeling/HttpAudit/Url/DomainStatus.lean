import HttpAudit.Text.RunMap

/-!
# Characters in domain names

What becomes of a character in an internationalized domain name: it is kept, perhaps in another
form, or left out, or makes the name invalid.

## Main definitions

* `HttpAudit.Url.DomainStatus` — the three possibilities.
* `HttpAudit.Url.DomainStatus.ofCode` — which of them holds for a code point.
-/

namespace HttpAudit.Url

/-- What becomes of a character in a domain name. -/
inductive DomainStatus where
  /-- The character is kept. -/
  | valid
  /-- The character is left out. -/
  | ignored
  /-- The name is invalid. -/
  | disallowed
  deriving DecidableEq, Repr

namespace DomainStatus

/-- The status with the given letter. -/
def ofLabel : String → DomainStatus
  | "V" => valid
  | "I" => ignored
  | _ => disallowed

/-- The runs of code points with one status. -/
def table : Text.RunMap DomainStatus := Text.RunMap.ofRuns ofLabel
  "V:128 D:33 V:7 D V:4 I V D V:4 D V:3 D V:543 D:6 V:113 I V:40 D:3 V:5 D:6 V:5 D V D V:20 D
   V:397 D V:38 D:2 V:50 D:2 V:3 D V:55 D:8 V:27 D:4 V:6 D:17 V:22 D V:192 D V:48 D:2 V:59 D:2
   V:101 D:14 V:59 D:2 V:49 D:2 V:15 D V:28 D:2 V D V:11 D:5 V:31 D:9 V:74 D V:161 D V:8 D:2 V:2
   D:2 V:22 D V:7 D V D:3 V:4 D:2 V:9 D:2 V:2 D:2 V:4 D:8 V D:4 V:2 D V:5 D:2 V:25 D:2 V:3 D V:6
   D:4 V:2 D:2 V:22 D V:7 D V:2 D V:2 D V:2 D:2 V D V:5 D:4 V:2 D:2 V:3 D:3 V D:7 V:4 D V D:7
   V:17 D:10 V:3 D V:9 D V:3 D V:22 D V:7 D V:2 D V:5 D:2 V:10 D V:3 D V:3 D:2 V D:15 V:4 D:2
   V:12 D:7 V:7 D V:3 D V:8 D:2 V:2 D:2 V:22 D V:7 D V:2 D V:5 D:2 V:9 D:2 V:2 D:2 V:3 D:7 V:3
   D:4 V:2 D V:5 D:2 V:18 D:10 V:2 D V:6 D:3 V:3 D V:4 D:3 V:2 D V D V:2 D:3 V:2 D:3 V:3 D:3 V:12
   D:4 V:5 D:3 V:3 D V:4 D:2 V D:6 V D:14 V:21 D:5 V:13 D V:3 D V:23 D V:16 D:2 V:9 D V:3 D V:4
   D:7 V:2 D V:3 D:2 V D:2 V:4 D:2 V:10 D:7 V:22 D V:3 D V:23 D V:10 D V:5 D:2 V:9 D V:3 D V:4
   D:7 V:2 D:6 V:2 D V:4 D:2 V:10 D V:3 D:12 V:13 D V:3 D V:51 D V:3 D V:6 D:4 V:16 D:2 V:26 D
   V:3 D V:18 D:3 V:24 D V:9 D V D:2 V:7 D:3 V D:4 V:6 D V D V:8 D:6 V:10 D:2 V:3 D:12 V:58 D:4
   V:29 D:37 V:2 D V D V:5 D V:24 D V D V:23 D:2 V:5 D V D V:7 D V:10 D:2 V:4 D:32 V:72 D V:36
   D:4 V:39 D V:36 D V:15 D V:13 D:37 V:198 D V D:5 V D:2 V:143 D:2 V:232 D V:4 D:2 V:7 D V D V:4
   D:2 V:41 D V:4 D:2 V:33 D V:4 D:2 V:7 D V D V:4 D:2 V:15 D V:57 D V:4 D:2 V:67 D:2 V:32 D:3
   V:26 D:6 V:86 D:2 V:6 D:2 V:640 D V:28 D:3 V:89 D:7 V:22 D:9 V:24 D:9 V:20 D:12 V:13 D V:3 D
   V:2 D:12 V:52 D:2 V:40 D:2 V:10 D:6 V:10 D:6 V:11 I:3 D I V:10 D:6 V:89 D:7 V:43 D:5 V:70 D:10
   V:31 D V:12 D:4 V:12 D:4 V D:3 V:42 D:2 V:5 D:11 V:44 D:4 V:26 D:6 V:11 D:3 V:62 D:2 V:65 D
   V:29 D:2 V:11 D:6 V:10 D:6 V:14 D:2 V:31 D:49 V:77 D:3 V:47 D V:116 D:8 V:60 D:3 V:15 D:3 V:60
   D:7 V:43 D:2 V:11 D:8 V:43 D:5 V:534 D:2 V:6 D:2 V:38 D:2 V:6 D:2 V:8 D V D V D V D V:31 D:2
   V:53 D V:7 D V D:3 V:3 D V:7 D:3 V:4 D:2 V:6 D:4 V:13 D:2 V D:2 V:3 D V:7 D:14 I V:2 D:2 V:7 D
   V:12 D:3 V D:8 V:14 D V:8 D:3 V:21 D I D:3 I D:11 V:2 D:2 V:27 D V:13 D:3 V:33 D:15 V:33 D:17
   V:3 D:2 V:133 D:4 V:663 D:25 V:11 D:21 V:40 D:20 V:1496 D V:255 D:2 V:32 D V:349 D:5 V:45 D V
   D:5 V D:2 V:56 D:7 V:2 D:14 V:24 D:9 V:7 D V:7 D V:7 D V:7 D V:7 D V:7 D V:7 D V:7 D V:126
   D:34 V:26 D V:89 D:12 V:214 D:43 V:63 D V:86 D:2 V:2 D:2 V:99 D:5 V:43 D V:51 D V:42 D V:84
   D:12 V:47 D V:418 D V:4 D V:16 D V:28852 D:3 V:55 D:9 V:348 D:20 V:184 D:8 V:203 D:5 V:2 D V D
   V:5 D:24 V:59 D:3 V:10 D:6 V:56 D:8 V:70 D:8 V:12 D:6 V:116 D:11 V:30 D:3 V:78 D V:11 D:4 V:33
   D V:55 D:9 V:14 D:2 V:10 D:2 V:103 D:24 V:28 D:10 V:6 D:2 V:6 D:2 V:6 D:9 V:7 D V:7 D V:60 D:4
   V:126 D:2 V:10 D:6 V:11172 D:12 V:23 D:4 V:49 D:8452 V:366 D:2 V:106 D:38 V:7 D:12 V:5 D:5
   V:26 D V:5 D V D V:2 D V:2 D V:125 D:16 V:139 D:6 V:300 D:2 V:54 D:7 V D:32 V:10 D:2 V:4 I:16
   V:3 D V:2 D V:2 D:7 V:16 D V:22 D:6 V:5 D:2 V D:2 V:8 D V:4 D:2 V D:2 V D:7 V D V D:3 V D V D
   V D V D V:126 D:2 I D V:2 D V D V:9 D V:10 D V D V D:3 V:26 D:4 V:29 D V:67 D V:30 D:3 V:6 D:2
   V:6 D:2 V:6 D:2 V:3 D:3 V:3 D V:3 D V:7 D:17 V:12 D V:26 D V:19 D V:2 D V:15 D:2 V:14 D:34
   V:123 D:5 V:3 D:4 V:45 D:3 V:88 D V:13 D:3 V D:47 V:46 D:130 V:29 D:3 V:49 D:15 V:28 D:4 V:36
   D:9 V:30 D:5 V:43 D:5 V:30 D V:37 D:4 V:14 D:42 V:158 D:2 V:10 D:6 V:36 D:4 V:36 D:4 V:40 D:8
   V:52 D:11 V:12 D V:15 D V:7 D V:2 D V:11 D V:15 D V:7 D V:2 D:67 V:311 D:9 V:22 D:10 V:8 D:24
   V:6 D V:42 D V:9 D:69 V:6 D:2 V D V:44 D V:2 D:3 V D:2 V:23 D V:72 D:8 V:9 D:48 V:19 D V:2 D:5
   V:33 D:3 V:27 D:5 V D:64 V:56 D:4 V:20 D:2 V:50 D V:2 D:5 V:8 D V:3 D V:29 D:2 V:3 D:4 V:10
   D:7 V:9 D:7 V:64 D:32 V:39 D:4 V:12 D:9 V:54 D:3 V:29 D:2 V:27 D:5 V:26 D:7 V:4 D:12 V:7 D:80
   V:73 D:55 V:51 D:13 V:51 D:7 V:46 D:8 V:10 D:294 V:31 D V:42 D V:3 D:2 V:2 D:75 V:43 D:8 V:42
   D:22 V:26 D:38 V:28 D:20 V:23 D:9 V:78 D:4 V:36 D:9 V:62 D V:5 D:13 V:25 D:7 V:10 D:6 V:53 D
   V:18 D:8 V:39 D:9 V:96 D V:20 D:11 V:18 D V:47 D:62 V:7 D V D V:4 D V:15 D V:11 D:6 V:59 D:5
   V:10 D:6 V:4 D V:8 D:2 V:2 D:2 V:22 D V:7 D V:2 D V:5 D V:10 D:2 V:2 D:2 V:3 D:2 V D:6 V D:5
   V:7 D:2 V:7 D:3 V:5 D:139 V:92 D V:5 D:30 V:72 D:8 V:10 D:166 V:54 D:2 V:38 D:34 V:69 D:11
   V:10 D:6 V:13 D:19 V:58 D:6 V:10 D:54 V:27 D:2 V:15 D:4 V:23 D:185 V:60 D:100 V:83 D:12 V:8
   D:2 V D:2 V:8 D V:2 D V:30 D V:2 D:2 V:12 D:9 V:10 D:70 V:8 D:2 V:46 D:2 V:11 D:27 V:72 D:8
   V:83 D:13 V:73 D:7 V:10 D:246 V:9 D V:45 D V:14 D:10 V:29 D:3 V:32 D:2 V:22 D V:14 D:73 V:7 D
   V:2 D V:44 D:3 V D V:2 D V:9 D:8 V:10 D:6 V:6 D V:2 D V:37 D V:2 D V:6 D:7 V:10 D:310 V:25 D:7
   V:17 D V:41 D:3 V:28 D:86 V D:15 V:50 D:13 V:923 D:102 V:111 D V:5 D:11 V:196 D:2636 V:99 D:13
   V:1072 D:16 V:22 D:4010 V:583 D:8633 V:569 D:7 V:31 D V:10 D:4 V:81 D V:10 D:6 V:30 D:2 V:6
   D:10 V:70 D:10 V:10 D V:7 D V:21 D:5 V:19 D:688 V:91 D:101 V:75 D:4 V:57 D:7 V:17 D:64 V:5
   D:11 V:2 D:14 V:6136 D:8 V:1238 D:42 V:9 D:8935 V:4 D V:7 D V:2 D V:291 D:15 V D:29 V:3 D:2 V
   D:14 V:4 D:8 V:396 D:2308 V:107 D:5 V:13 D:3 V:9 D:7 V:10 D:2 V:4 D:4704 V:46 D:2 V:23 D:9
   V:116 D:60 V:246 D:10 V:39 D:2 V:74 D:8 V:112 D:21 V:70 D:122 V:20 D:12 V:20 D:12 V:87 D:9
   V:25 D:135 V:85 D V:71 D V:2 D:2 V D:2 V:2 D:2 V:4 D V:12 D V D V:7 D V:65 D V:4 D:2 V:8 D V:7
   D V:28 D V:4 D V:5 D V D:3 V:7 D V:340 D:2 V:292 D:2 V:702 D:15 V:5 D V:15 D:1104 V:31 D:6 V:6
   D:213 V:7 D V:17 D:2 V:7 D V:2 D V:5 D:5 V:62 D:33 V D:112 V:45 D:3 V:14 D:2 V:10 D:4 V:2
   D:320 V:31 D:17 V:58 D:5 V D:464 V:42 D:742 V:7 D V:4 D V:2 D V:15 D V:197 D:2 V:16 D:41 V:76
   D:4 V:10 D:4 V:2 D:785 V:68 D:76 V:61 D:194 V:4 D V:27 D V:2 D V D:2 V D V:10 D V:4 D V D V
   D:6 V D:4 V D V D V D V:3 D V:2 D V D:2 V D V D V D V D V D V:2 D V D:2 V:4 D V:7 D V:4 D V:4
   D V D V:10 D V:17 D:5 V:3 D V:5 D V:17 D:52 V:2 D:270 V:44 D:4 V:100 D:12 V:15 D:2 V:15 D V:15
   D V:37 D:11 V:173 D:56 V:29 D:13 V:44 D:4 V:9 D:7 V:2 D:14 V:6 D:154 V:984 D:4 V:17 D:3 V:13
   D:3 V:119 D:4 V:95 D:6 V:12 D:4 V D:15 V:12 D:4 V:56 D:8 V:10 D:6 V:40 D:8 V:30 D:2 V:2 D:78
   V:340 D:12 V:14 D:2 V:13 D:3 V:9 D:7 V:46 D V:7 D:8 V:14 D:4 V:9 D:7 V:9 D:7 V:147 D V:55 D:37
   V:10 D:1030 V:42720 D:32 V:4154 D:6 V:222 D:2 V:5762 D:14 V:7473 D:3103 V:104 D V:11 D V:170 D
   V:63 D V:95 D V:94 D:1506 V:4939 D:5 V:4192 D:712016 I:240 D:196112"

/-- The status of a code point. -/
def ofCode (c : Nat) : DomainStatus := (table.find? c).getD disallowed

end DomainStatus

end HttpAudit.Url
