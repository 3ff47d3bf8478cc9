import WordingAudit.Unicode.Runs

/-!
The version of the standard in which each character was assigned.
-/

namespace WordingAudit.Unicode

/-- Each run of code points in order: the version that assigned it, or a dash, and its length. -/
def ageTable : List String := [
  ".1:502 .0:4 .1:30 .0:8 .2:1 .0:22 .1:11 .0:14 .1:89 .0:7 .1:47 .0:1 .1:10 .0:22 .1:70 .0:9",
  ".2:1 .0:8 .1:5 .0:3 .1:2 .0:1 .2:13 .1:8 -:2 .1:1 .0:3 .1:1 .0:1 -:4 .1:7 -:1 .1:1 -:1",
  ".1:20 -:1 .1:52 .0:1 .2:2 .1:1 .0:1 .1:1 .0:1 .1:1 .0:1 .1:1 .0:1 .1:20 .2:1 .0:5 .1:4",
  ".0:1 .1:12 .0:1 .1:66 .0:1 .1:12 .0:1 .1:42 .0:2 .2:2 .0:4 .1:53 .2:2 .1:2 .2:2 .1:2 .2:2",
  ".0:1 .1:28 .0:2 .1:12 .0:6 .2:16 .0:4 .1:16 .2:2 .0:10 -:1 .1:38 -:2 .1:7 1.0:1 .1:39",
  "1.0:1 .1:1 .0:1 -:2 .0:2 .1:1 -:1 .0:17 .1:1 .0:13 .1:10 .0:1 .1:9 .0:1 .1:3 -:8 .1:27 -:4",
  "1.0:1 .1:5 -:11 .0:4 .1:1 .0:1 .1:7 .0:9 .1:6 .3:1 4.0:1 .1:2 .0:1 .1:50 .0:6 .1:6 .0:1",
  ".1:14 .2:2 .1:72 .0:2 .1:5 .0:1 .1:15 .0:1 .1:30 .0:2 .1:10 .0:20 -:1 .0:60 -:2 .0:3 .1:48",
  ".0:49 .2:1 -:14 .0:59 -:2 1.0:3 .2:46 -:2 .2:15 -:1 .0:28 -:2 .0:1 -:1 0.0:11 -:5 4.0:31",
  "17.0:1 4.0:2 -:5 16.0:1 4.0:8 .1:1 .0:1 .1:11 .0:8 4.0:1 .0:8 3.0:10 4.0:11 1.0:1 .0:16",
  ".1:27 .0:1 .2:1 .1:3 .0:1 .1:53 .0:2 .1:18 .2:1 .0:1 .1:5 .2:1 .0:2 .1:27 .0:6 .2:2 .0:2",
  ".1:1 .0:3 .1:3 -:1 .1:8 -:2 .1:2 -:2 .1:22 -:1 .1:7 -:1 .1:1 -:3 .1:4 -:2 .1:1 .0:1 .1:7",
  "-:2 .1:2 -:2 .1:4 -:8 .1:1 -:4 .1:2 -:1 .1:5 -:2 .1:21 .2:1 0.0:2 1.0:1 -:2 .0:1 .1:1 .0:1",
  "-:1 .1:6 -:4 .1:2 -:2 .1:22 -:1 .1:7 -:1 .1:2 -:1 .1:2 -:1 .1:2 -:2 .1:1 -:1 .1:5 -:4 .1:2",
  "-:2 .1:3 -:3 .1:1 -:7 .1:4 -:1 .1:1 -:7 .1:16 1.0:1 -:10 .1:3 -:1 .1:7 .0:1 .1:1 -:1 .1:3",
  "-:1 .1:22 -:1 .1:7 -:1 .1:2 -:1 .1:5 -:2 .1:10 -:1 .1:3 -:1 .1:3 -:2 .1:1 -:15 .1:1 .0:3",
  "-:2 .1:11 .0:1 -:7 .0:1 0.0:6 -:1 .1:3 -:1 .1:8 -:2 .1:2 -:2 .1:22 -:1 .1:7 -:1 .1:2 -:1",
  ".0:1 .1:4 -:2 .1:9 -:2 .1:2 -:2 .1:3 -:7 3.0:1 .1:2 -:4 .1:2 -:1 .1:5 -:2 .1:11 .0:7 -:10",
  ".1:2 -:1 .1:6 -:3 .1:3 -:1 .1:4 -:3 .1:2 -:1 .1:1 -:1 .1:2 -:3 .1:2 -:3 .1:3 -:3 .1:12 -:4",
  ".1:5 -:3 .1:3 -:1 .1:4 -:2 .1:1 -:6 .1:1 -:14 .1:13 .0:8 -:5 .0:1 .1:3 1.0:1 .1:8 -:1 .1:3",
  "-:1 .1:23 -:1 .1:10 .0:1 .1:5 -:2 4.0:1 .1:8 -:1 .1:3 -:1 .1:4 -:7 .1:2 -:1 .1:2 .0:1 -:1",
  "17.0:1 4.0:1 -:2 .1:4 -:2 .1:10 -:7 2.0:1 .1:8 .0:2 .1:2 1.0:1 .1:8 -:1 .1:3 -:1 .1:23 -:1",
  ".1:10 -:1 .1:5 -:2 .0:2 .1:7 -:1 .1:3 -:1 .1:4 -:7 .1:2 -:5 17.0:1 4.0:1 .1:1 -:1 .1:2",
  ".0:2 -:2 .1:10 -:1 .0:2 5.0:1 -:12 0.0:1 .0:1 .1:2 3.0:1 .1:8 -:1 .1:3 -:1 .1:23 .0:1",
  ".1:16 .0:1 0.0:2 .1:8 -:1 .1:3 -:1 .1:4 .0:2 -:4 .0:3 .1:1 .0:8 .1:4 -:2 .1:16 .0:3 .1:7",
  "-:1 3.0:1 .0:2 -:1 .0:18 -:3 .0:24 -:1 .0:9 -:1 .0:1 -:2 .0:7 -:3 .0:1 -:4 .0:6 -:1 .0:1",
  "-:1 .0:8 -:6 .0:10 -:2 .0:3 -:12 .1:58 -:4 .1:29 -:37 .1:2 -:1 .1:1 -:1 2.0:1 .1:2 2.0:1",
  ".1:1 -:1 2.0:1 .1:1 2.0:6 .1:4 2.0:1 .1:7 2.0:1 .1:3 -:1 .1:1 -:1 .1:1 2.0:2 .1:2 2.0:1",
  ".1:13 2.0:1 .1:3 -:2 .1:5 -:1 .1:1 -:1 .1:6 5.0:1 -:1 .1:10 -:2 .1:4 -:32 .0:72 -:1 .0:34",
  ".1:2 -:4 .0:39 -:1 .0:36 -:1 .0:15 -:1 .1:1 .0:1 .1:5 .2:4 .0:2 -:37 .0:34 .1:1 .0:5 .1:1",
  ".0:2 .1:1 .0:7 .1:3 .0:4 .1:6 .0:26 .1:64 .2:4 .1:40 -:1 .1:1 -:5 .1:1 -:2 .1:39 .2:2",
  ".1:97 .2:5 .1:68 .2:5 .1:82 .2:6 .0:7 .1:1 .0:63 .1:1 .0:1 -:1 .0:4 -:2 .0:7 -:1 .0:1 -:1",
  ".0:4 -:2 .0:39 .1:1 .0:1 -:1 .0:4 -:2 .0:31 .1:1 .0:1 -:1 .0:4 -:2 .0:7 -:1 .0:1 -:1 .0:4",
  "-:2 .0:7 .1:1 .0:7 -:1 .0:23 .1:1 .0:31 .1:1 .0:1 -:1 .0:4 -:2 .0:7 .1:1 .0:39 .1:1 .0:19",
  "-:2 .0:2 .1:2 .0:28 -:3 .1:26 -:6 .0:86 -:2 .0:6 -:2 .2:1 .0:630 .2:9 .0:29 -:3 .0:89 -:7",
  ".2:13 4.0:1 .2:7 4.0:1 -:9 4.0:1 .2:23 -:9 .2:20 -:12 .2:13 -:1 .2:3 -:1 .2:2 -:12 .0:94",
  "-:2 .0:10 -:6 .0:10 -:6 .0:15 4.0:1 .0:10 -:6 .0:88 1.0:1 -:7 .0:42 .1:1 -:5 .2:70 -:10",
  ".0:31 -:1 .0:12 -:4 .0:12 -:4 .0:1 -:3 .0:42 -:2 .0:5 -:11 .1:42 .2:2 -:4 .1:26 -:6 .1:10",
  ".2:1 -:3 .1:2 .0:32 .1:28 -:2 .1:2 .2:63 -:1 .2:29 -:2 .2:11 -:6 .2:10 -:6 .2:14 -:2 .0:15",
  "3.0:2 4.0:14 17.0:15 -:2 17.0:12 -:20 .0:76 4.0:1 -:1 16.0:2 .0:45 4.0:2 16.0:1 .1:64",
  ".0:52 -:8 .0:4 .1:56 -:3 .1:15 -:3 .1:51 .0:9 16.0:2 -:5 1.0:43 -:2 1.0:3 .1:8 -:8 .2:35",
  ".1:4 0.0:1 .0:2 2.0:1 -:5 .0:108 .1:88 .0:7 .1:28 .0:15 0.0:4 4.0:1 .0:2 .2:1 .0:2 .1:155",
  ".0:1 .1:122 -:2 .1:6 -:2 .1:38 -:2 .1:6 -:2 .1:8 -:1 .1:1 -:1 .1:1 -:1 .1:1 -:1 .1:31 -:2",
  ".1:53 -:1 .1:15 -:1 .1:14 -:2 .1:6 -:1 .1:19 -:2 .1:3 -:1 .1:9 -:1 .1:47 .0:1 .1:23 .2:1",
  ".0:6 .2:5 .0:2 .1:2 .2:1 .1:7 .2:5 .1:1 -:1 .3:4 .1:7 .2:1 -:2 .1:27 -:1 .1:5 .0:8 -:3",
  ".1:11 .0:1 .1:1 .0:3 .2:2 .1:4 .2:3 .0:1 .2:1 .0:4 0.0:1 4.0:1 17.0:1 -:14 .1:18 .0:2 .2:7",
  ".1:1 .0:4 .1:1 -:15 .1:57 .0:3 .1:1 .2:15 .1:1 .0:2 .1:1 .2:3 .1:48 .0:2 .1:4 .2:1 .0:2",
  "-:4 .1:91 .0:9 .2:12 .1:242 .2:14 .1:1 .0:1 .1:121 .0:1 .2:1 .0:30 .2:52 .0:2 .1:11 .0:12",
  ".2:1 .0:22 0.0:1 .1:37 .0:2 16.0:3 -:22 .1:11 -:21 .1:139 .2:20 .0:1 .1:150 .2:10 .1:80",
  ".0:8 .2:8 .1:20 .0:2 .2:2 .1:1 .0:1 .1:86 .0:2 .2:12 .1:2 .2:10 .0:8 .1:12 .2:2 .0:2 .1:16",
  ".0:1 .1:10 .2:3 .1:4 .2:10 .0:1 .2:19 .0:1 .2:1 .0:4 .2:24 .0:1 .1:4 .0:1 .1:4 .0:2 .1:28",
  ".0:1 .1:35 .0:1 .1:1 .0:1 .1:4 .0:3 .1:1 .2:1 .1:7 .0:2 .1:7 .2:14 .1:31 .0:3 .1:24 .0:1",
  ".1:14 .0:1 .1:7 .0:4 .1:3 .0:2 .2:28 .1:4 .2:16 .0:256 .2:512 .0:14 .1:6 .0:7 .1:5 .0:4",
  ".1:41 .0:3 .1:5 .2:5 .0:26 -:2 .0:32 17.0:1 3.0:1 .0:34 1.0:3 .0:12 2.0:1 .0:8 0.0:1",
  "1.0:25 .0:4 1.0:15 2.0:1 .1:47 4.0:1 .1:47 4.0:1 .0:13 .1:3 .2:1 .1:3 .0:4 .1:6 .2:2",
  ".1:107 .2:7 .1:2 -:5 .1:45 -:1 .1:1 -:5 .1:1 -:2 .1:56 -:7 .1:1 .0:1 -:14 .0:1 .1:23 -:9",
  ".1:7 -:1 .1:7 -:1 .1:7 -:1 .1:7 -:1 .1:7 -:1 .1:7 -:1 .1:7 -:1 .1:7 -:1 .1:81 .2:1 .1:10",
  ".0:9 0.0:5 1.0:5 2.0:1 3.0:3 4.0:11 -:34 .0:26 -:1 .0:89 -:12 .0:214 -:26 .0:12 15.1:4",
  ".1:56 .0:3 .2:3 .0:1 .1:1 -:1 .1:84 .2:2 -:2 .1:6 .2:2 .1:94 .2:1 -:5 .1:41 0.0:1 1.0:1",
  "-:1 .1:94 -:1 .1:16 .0:27 3.0:5 .1:36 16.0:2 -:9 15.1:1 .2:16 .1:29 .0:2 -:1 .1:36 .2:12",
  ".0:1 .2:15 .1:28 .0:2 .1:51 .2:15 .1:12 .0:4 .1:47 2.1:1 .1:119 .0:4 .1:99 .0:2 .1:31",
  ".0:6583 3.0:10 .0:64 .1:20932 .2:8 .1:1 .0:9 0.0:21 1.0:5 3.0:13 4.0:3 .0:1165 -:3 .0:18",
  ".2:2 .0:16 .2:1 .0:12 .2:1 .0:3 .2:1 .0:1 -:9 .2:48 .1:300 -:20 .1:32 .0:2 .1:54 .0:7 .1:1",
  ".2:88 -:8 .1:23 .0:4 .1:5 .0:2 .1:107 .0:5 .1:2 .0:22 .1:1 .0:4 1.0:1 .0:8 1.0:2 2.0:6",
  "4.0:2 2.0:5 3.0:4 16.0:3 17.0:2 4.0:2 17.0:1 4.0:1 17.0:1 4.0:5 16.0:3 -:20 17.0:1 4.0:3",
  "3.0:2 .0:1 .1:2 .0:1 .1:49 3.0:1 -:3 .2:10 -:6 .0:56 -:8 .1:69 .0:1 -:8 .1:12 -:6 .2:28",
  ".0:2 1.0:2 .1:84 -:11 .1:1 .2:29 -:3 .2:78 -:1 .2:11 -:4 .2:2 .0:31 -:1 .1:55 -:9 .1:14",
  "-:2 .1:10 -:2 .1:4 .2:28 .0:4 .2:67 -:24 .2:5 .1:23 -:10 .0:6 -:2 .0:6 -:2 .0:6 -:9 .0:7",
  "-:1 .0:7 -:1 .0:54 2.0:2 3.0:4 -:4 .0:80 .2:46 -:2 .2:10 -:6 .0:11172 -:12 .2:23 -:4 .2:49",
  "-:4 .0:2048 .1:6704 .2:62 -:2 .1:106 -:38 .1:7 -:12 .1:5 -:5 .0:1 .1:25 -:1 .1:5 -:1 .1:1",
  "-:1 .1:2 -:1 .1:2 -:1 .1:108 .0:16 4.0:1 17.0:16 .1:365 4.0:16 .1:64 17.0:2 .1:54 17.0:7",
  "4.0:1 .1:44 .2:1 .0:1 4.0:2 .2:16 .1:10 -:6 .1:7 .0:9 .1:21 .2:2 .0:2 .1:10 -:1 .1:19 -:1",
  ".1:4 -:4 .1:3 .2:1 .1:1 -:1 .1:135 -:2 .1:1 -:1 .1:94 .2:2 .1:94 -:3 .1:6 -:2 .1:6 -:2",
  ".1:6 -:2 .1:3 -:3 .1:7 -:1 .1:7 -:10 .0:3 .1:4 .0:12 -:1 .0:26 -:1 .0:19 -:1 .0:2 -:1",
  ".0:15 -:2 .0:14 -:34 .0:123 -:5 .0:3 -:4 .0:45 -:3 .0:9 .1:75 .0:4 -:1 .1:12 3.0:1 -:3",
  ".0:1 -:47 .1:46 -:130 .1:29 -:3 .1:49 -:15 .0:28 -:4 .1:31 .0:1 .1:4 -:9 0.0:3 .1:27 -:5",
  ".0:43 -:5 .0:30 -:1 .0:1 .1:36 -:4 .1:14 -:42 .1:38 .0:2 .1:38 .0:80 -:2 .0:10 -:6 .0:36",
  "-:4 .0:36 -:4 .0:40 -:8 .0:52 -:11 .0:1 4.0:11 -:1 4.0:15 -:1 4.0:7 -:1 4.0:2 -:1 4.0:11",
  "-:1 4.0:15 -:1 4.0:7 -:1 4.0:2 -:3 16.0:52 -:12 .0:311 -:9 .0:22 -:10 .0:8 -:24 4.0:6 -:1",
  "4.0:42 -:1 4.0:9 -:69 .0:6 -:2 .0:1 -:1 .0:44 -:1 .0:2 -:3 .0:1 -:2 .0:1 .2:22 -:1 .2:9",
  ".0:63 -:8 .0:9 -:48 .0:19 -:1 .0:2 -:5 .0:31 .2:2 -:3 .0:1 .1:26 -:5 .1:1 17.0:26 -:38",
  ".1:56 -:4 .0:2 .1:2 .0:16 -:2 .0:46 .1:4 -:1 .1:2 -:5 .1:8 -:1 .1:3 -:1 .1:27 1.0:2 -:2",
  ".1:3 -:4 .1:9 1.0:1 -:7 .1:9 -:7 .2:32 .0:32 -:32 .0:39 -:4 .0:12 -:9 .2:54 -:3 .2:29 -:2",
  ".2:27 -:5 .2:8 .0:18 -:7 .0:4 -:12 .0:7 -:80 .2:73 -:55 .0:51 -:13 .0:51 -:7 .0:6 1.0:40",
  "-:8 1.0:10 -:6 16.0:38 -:3 16.0:29 -:8 16.0:2 -:208 .2:31 -:1 3.0:42 -:1 3.0:3 -:2 3.0:2",
  "-:16 16.0:3 17.0:3 -:8 17.0:9 -:33 17.0:2 16.0:1 5.0:3 1.0:40 -:8 1.0:42 -:22 4.0:26 -:38",
  "3.0:28 -:20 2.0:23 -:9 .0:78 -:4 .0:30 4.0:6 -:9 .0:1 .2:66 4.0:1 -:10 1.0:1 -:2 .1:25 -:7",
  ".1:10 -:6 .1:53 -:1 .1:14 1.0:3 3.0:1 -:8 .0:39 -:9 .1:73 .0:5 3.0:2 .1:10 .0:6 -:1 .0:20",
  "-:11 .0:18 -:1 .0:44 5.0:3 -:62 .0:7 -:1 .0:1 -:1 .0:4 -:1 .0:15 -:1 .0:11 -:6 .0:59 -:5",
  ".0:10 -:6 .0:4 -:1 .0:8 -:2 .0:2 -:2 .0:22 -:1 .0:7 -:1 .0:2 -:1 .0:5 -:1 1.0:1 .0:9 -:2",
  ".0:2 -:2 .0:3 -:2 .0:1 -:6 .0:1 -:5 .0:7 -:2 .0:7 -:3 .0:5 -:11 16.0:10 -:1 16.0:1 -:2",
  "16.0:1 -:1 16.0:38 -:1 16.0:10 -:1 16.0:1 -:2 16.0:1 -:1 16.0:4 -:1 16.0:10 -:1 16.0:2 -:8",
  "16.0:2 -:29 .0:90 3.0:1 .0:1 -:1 .0:1 1.0:1 2.0:1 3.0:2 -:30 .0:72 -:8 .0:10 -:166 .0:54",
  "-:2 .0:38 -:34 .0:69 -:11 .0:10 -:6 .0:13 -:19 .1:56 2.0:1 4.0:1 -:6 .1:10 -:6 16.0:20",
  "-:28 .0:26 1.0:1 -:2 .0:15 -:4 .0:16 4.0:7 -:185 1.0:60 -:100 .0:83 -:12 .0:1 3.0:7 -:2",
  "3.0:1 -:2 3.0:8 -:1 3.0:2 -:1 3.0:30 -:1 3.0:2 -:2 3.0:12 -:9 3.0:10 -:70 2.0:8 -:2 2.0:46",
  "-:2 2.0:11 -:27 0.0:72 -:8 0.0:52 2.0:2 0.0:23 1.0:1 0.0:5 -:13 4.0:16 .0:57 -:7 5.0:10",
  "-:86 17.0:8 -:88 16.0:34 -:14 16.0:10 -:6 .0:9 -:1 .0:45 -:1 .0:14 -:10 .0:29 -:3 .0:32",
  "-:2 .0:22 -:1 .0:14 -:73 0.0:7 -:1 0.0:2 -:1 0.0:44 -:3 0.0:1 -:1 0.0:2 -:1 0.0:9 -:8",
  "0.0:10 -:6 1.0:6 -:1 1.0:2 -:1 1.0:37 -:1 1.0:2 -:1 1.0:6 -:7 1.0:10 -:6 17.0:44 -:4",
  "17.0:10 -:246 1.0:25 -:7 5.0:17 -:1 5.0:41 -:3 5.0:28 16.0:1 -:85 3.0:1 -:15 2.0:50 -:13",
  "2.0:1 .0:922 -:102 .0:111 -:1 .0:5 -:11 .0:196 -:2636 4.0:99 -:13 .2:1071 5.0:1 2.0:9",
  "5.0:29 -:10 16.0:3995 -:5 .0:583 -:6841 16.0:58 -:1734 .0:569 -:7 .0:31 -:1 .0:10 -:4 .0:2",
  "4.0:79 -:1 4.0:10 -:6 .0:30 -:2 .0:6 -:10 .0:70 -:10 .0:10 -:1 .0:7 -:1 .0:21 -:5 .0:19",
  "-:432 16.0:58 -:198 1.0:91 -:5 17.0:25 -:2 17.0:25 -:44 .1:69 2.0:6 -:4 2.0:1 .1:47 2.0:9",
  "-:7 .1:17 -:64 .0:1 0.0:1 2.0:2 3.0:1 -:11 3.0:2 17.0:5 -:9 .0:6125 1.0:5 2.0:6 17.0:8",
  ".0:755 3.0:483 -:41 16.0:1 3.0:9 17.0:22 -:97 17.0:115 -:8701 4.0:4 -:1 4.0:7 -:1 4.0:2",
  "-:1 .0:2 0.0:285 4.0:4 -:15 5.0:1 -:29 2.0:3 -:2 5.0:1 -:14 2.0:4 -:8 0.0:396 -:2308",
  ".0:107 -:5 .0:13 -:3 .0:9 -:7 .0:10 -:2 .0:8 -:3932 16.0:250 17.0:3 -:3 16.0:436 -:6",
  "17.0:23 -:15 17.0:17 -:15 4.0:46 -:2 4.0:23 -:9 4.0:116 -:60 .1:246 -:10 .1:39 -:2 .1:181",
  ".0:11 4.0:2 -:21 .1:70 -:122 5.0:20 -:12 1.0:20 -:12 .0:87 -:9 .0:18 1.0:7 -:135 .1:85 -:1",
  ".1:71 -:1 .1:2 -:2 .1:1 -:2 .1:2 -:2 .1:4 -:1 .1:12 -:1 .1:1 -:1 .1:4 .0:1 .1:2 -:1 .1:65",
  "-:1 .1:4 -:2 .1:8 -:1 .1:7 -:1 .1:28 -:1 .1:4 -:1 .1:5 -:1 .1:1 -:3 .1:7 -:1 .1:340 -:2",
  ".1:290 .0:2 -:2 .1:50 .0:652 -:15 .0:5 -:1 .0:15 -:1104 4.0:31 -:6 5.0:6 -:213 .0:7 -:1",
  ".0:17 -:2 .0:7 -:1 .0:2 -:1 .0:5 -:5 5.0:62 -:33 5.0:1 -:112 2.0:45 -:3 2.0:14 -:2 2.0:10",
  "-:4 2.0:2 -:320 4.0:31 -:17 2.0:58 -:5 2.0:1 -:464 5.0:42 -:214 16.0:43 -:4 16.0:1 -:192",
  "17.0:31 -:1 17.0:22 -:8 17.0:2 -:224 4.0:7 -:1 4.0:4 -:1 4.0:2 -:1 4.0:15 -:1 .0:197 -:2",
  ".0:16 -:41 .0:75 2.0:1 -:4 .0:10 -:4 .0:2 -:785 1.0:68 -:76 2.0:61 -:194 .1:4 -:1 .1:27",
  "-:1 .1:2 -:1 .1:1 -:2 .1:1 -:1 .1:10 -:1 .1:4 -:1 .1:1 -:1 .1:1 -:6 .1:1 -:4 .1:1 -:1 .1:1",
  "-:1 .1:1 -:1 .1:3 -:1 .1:2 -:1 .1:1 -:2 .1:1 -:1 .1:1 -:1 .1:1 -:1 .1:1 -:1 .1:1 -:1 .1:2",
  "-:1 .1:1 -:2 .1:4 -:1 .1:7 -:1 .1:4 -:1 .1:4 -:1 .1:1 -:1 .1:10 -:1 .1:17 -:5 .1:3 -:1",
  ".1:5 -:1 .1:17 -:52 .1:2 -:270 .1:44 -:4 .1:100 -:12 .0:15 -:2 .0:15 -:1 .0:15 -:1 .0:37",
  "-:10 .2:11 .0:2 3.0:3 .2:31 1.0:1 .0:1 .2:1 .0:11 .2:1 .0:1 .2:1 .0:2 .2:1 .0:3 .2:1 .0:3",
  ".2:5 .0:8 .2:1 .0:7 .2:1 .0:10 .1:2 2.0:1 3.0:3 .0:9 .2:1 .0:1 .2:2 .0:2 .2:1 .0:10 .2:4",
  ".0:2 .2:1 .0:28 3.0:1 -:56 .0:26 .2:1 .0:2 -:13 .2:34 .0:10 -:4 .2:9 -:7 .0:2 -:14 0.0:6",
  "-:154 .0:576 .1:4 .0:188 .1:1 .0:16 .1:1 .0:3 .1:1 .0:1 .1:1 .0:1 .1:1 .0:1 .1:1 .0:3 .1:1",
  ".0:6 .1:2 .0:4 .1:1 .0:1 .1:2 .0:4 .1:1 .0:158 0.0:2 2.0:1 3.0:2 17.0:1 -:3 5.0:1 4.0:3",
  ".0:13 -:3 .0:7 0.0:2 1.0:1 2.0:1 3.0:2 -:3 .0:116 5.0:3 17.0:4 5.0:5 .0:85 1.0:4 5.0:1 -:6",
  "2.0:12 -:4 4.0:1 -:15 .0:12 -:4 .0:56 -:8 .0:10 -:6 .0:40 -:8 .0:30 -:2 3.0:2 16.0:10 -:4",
  "16.0:2 -:14 17.0:9 -:39 0.0:12 3.0:1 2.0:3 .0:15 0.0:1 .0:8 0.0:8 .0:1 0.0:2 .0:12 2.0:1",
  ".0:12 0.0:1 1.0:3 .0:15 0.0:13 1.0:5 2.0:1 3.0:1 1.0:4 3.0:2 4.0:1 1.0:1 2.0:1 1.0:4 .0:18",
  "0.0:6 1.0:11 3.0:2 2.0:6 3.0:3 2.0:2 1.0:10 2.0:6 .0:1 1.0:2 2.0:8 3.0:1 4.0:1 2.0:3",
  "0.0:23 1.0:25 2.0:84 17.0:4 -:8 1.0:14 -:2 2.0:4 3.0:1 5.0:3 2.0:3 4.0:2 -:3 2.0:3 3.0:4",
  "5.0:2 16.0:1 17.0:1 -:3 17.0:1 16.0:1 2.0:6 3.0:19 4.0:4 5.0:3 3.0:7 4.0:4 5.0:3 16.0:1",
  "5.0:1 3.0:3 4.0:3 16.0:1 -:1 17.0:1 -:4 17.0:1 5.0:2 3.0:7 4.0:3 5.0:2 16.0:1 -:2 16.0:1",
  "4.0:8 5.0:1 16.0:1 17.0:1 -:4 17.0:1 4.0:7 5.0:2 -:7 3.0:147 -:1 3.0:55 16.0:37 3.0:10",
  "17.0:1 -:1027 .0:2 .1:42711 3.0:7 4.0:2 -:32 .2:4149 4.0:4 5.0:1 17.0:6 .0:222 -:2 .0:5762",
  "17.0:12 -:2 0.0:7473 -:15 15.1:622 -:2466 .1:542 -:1504 .0:2 3.0:4939 -:5 5.0:4192",
  "17.0:4298 -:52100 .0:2 -:65534 .0:2 -:65534 .0:2 -:65534 .0:2 -:65534 .0:2 -:65534 .0:2",
  "-:65534 .0:2 -:65534 .0:2 -:65534 .0:2 -:65534 .0:2 -:65534 .0:2 -:1 .1:1 -:30 .1:96 -:128",
  ".0:240 -:65038 .0:131074"]

def ageRuns : List (String × Nat) := markedRuns ageTable

/-- The versions, oldest first. -/
def versions : List String := [
  ".0", ".0", ".0", ".0", ".0", ".0", "0.0", ".0", ".0", ".1", ".1", ".1", ".1", ".1", ".1",
  ".2", ".2", ".2", ".3", "1.0", "2.0", "2.1", "3.0", "4.0", "5.0", "15.1", "16.0", "17.0"]

/-- The version that `name` stands for: "5.2" and "V5_2" are one version. -/
def version? (name : String) : Option String :=
  versions.find? fun v =>
    name = v || name.toList = 'v' :: (v.toList.filter fun c => c != '.')

/-- The characters assigned in the version called `name` or an earlier one. -/
def assignedBy? (name : String) : Option CharSet :=
  (version? name).map fun v =>
    let earlier := v :: versions.takeWhile (· != v)
    ofRuns earlier.contains ageRuns

end WordingAudit.Unicode
