/-! # Scripts, run by run

The table of the property `Script` for all code points from zero on: each word is the name of a
script and the number of consecutive code points that have it. A second table has the codes that
stand for the names.
-/

namespace FilteringProxy.Unicode

/-- Script and length of every run of code points, from code point zero to the last. -/
def scriptRuns : String :=
  "Common:65 Latin:26 Common:6 Latin:26 Common:47 Latin:1 Common:15 Latin:1 Common:5 Latin:23
   Common:1 Latin:31 Common:1 Latin:449 Common:39 Latin:5 Common:5 Bopomofo:2 Common:20
   Inherited:112 Greek:4 Common:1 Greek:3 Unknown:2 Greek:4 Common:1 Greek:1 Unknown:4 Greek:1
   Common:1 Greek:1 Common:1 Greek:3 Unknown:1 Greek:1 Unknown:1 Greek:20 Unknown:1 Greek:63
   Coptic:14 Greek:16 Cyrillic:133 Inherited:2 Cyrillic:169 Unknown:1 Armenian:38 Unknown:2
   Armenian:50 Unknown:2 Armenian:3 Unknown:1 Hebrew:55 Unknown:8 Hebrew:27 Unknown:4 Hebrew:6
   Unknown:11 Arabic:5 Common:1 Arabic:6 Common:1 Arabic:14 Common:1 Arabic:3 Common:1 Arabic:32
   Common:1 Arabic:10 Inherited:11 Arabic:26 Inherited:1 Arabic:108 Common:1 Arabic:34 Syriac:14
   Unknown:1 Syriac:60 Unknown:2 Syriac:3 Arabic:48 Thaana:50 Unknown:14 Nko:59 Unknown:2 Nko:3
   Samaritan:46 Unknown:2 Samaritan:15 Unknown:1 Mandaic:28 Unknown:2 Mandaic:1 Unknown:1 Syriac:11
   Unknown:5 Arabic:31 Unknown:1 Arabic:2 Unknown:6 Arabic:74 Common:1 Arabic:29 Devanagari:81
   Inherited:4 Devanagari:15 Common:2 Devanagari:26 Bengali:4 Unknown:1 Bengali:8 Unknown:2
   Bengali:2 Unknown:2 Bengali:22 Unknown:1 Bengali:7 Unknown:1 Bengali:1 Unknown:3 Bengali:4
   Unknown:2 Bengali:9 Unknown:2 Bengali:2 Unknown:2 Bengali:4 Unknown:8 Bengali:1 Unknown:4
   Bengali:2 Unknown:1 Bengali:5 Unknown:2 Bengali:25 Unknown:2 Gurmukhi:3 Unknown:1 Gurmukhi:6
   Unknown:4 Gurmukhi:2 Unknown:2 Gurmukhi:22 Unknown:1 Gurmukhi:7 Unknown:1 Gurmukhi:2 Unknown:1
   Gurmukhi:2 Unknown:1 Gurmukhi:2 Unknown:2 Gurmukhi:1 Unknown:1 Gurmukhi:5 Unknown:4 Gurmukhi:2
   Unknown:2 Gurmukhi:3 Unknown:3 Gurmukhi:1 Unknown:7 Gurmukhi:4 Unknown:1 Gurmukhi:1 Unknown:7
   Gurmukhi:17 Unknown:10 Gujarati:3 Unknown:1 Gujarati:9 Unknown:1 Gujarati:3 Unknown:1
   Gujarati:22 Unknown:1 Gujarati:7 Unknown:1 Gujarati:2 Unknown:1 Gujarati:5 Unknown:2 Gujarati:10
   Unknown:1 Gujarati:3 Unknown:1 Gujarati:3 Unknown:2 Gujarati:1 Unknown:15 Gujarati:4 Unknown:2
   Gujarati:12 Unknown:7 Gujarati:7 Unknown:1 Oriya:3 Unknown:1 Oriya:8 Unknown:2 Oriya:2 Unknown:2
   Oriya:22 Unknown:1 Oriya:7 Unknown:1 Oriya:2 Unknown:1 Oriya:5 Unknown:2 Oriya:9 Unknown:2
   Oriya:2 Unknown:2 Oriya:3 Unknown:7 Oriya:3 Unknown:4 Oriya:2 Unknown:1 Oriya:5 Unknown:2
   Oriya:18 Unknown:10 Tamil:2 Unknown:1 Tamil:6 Unknown:3 Tamil:3 Unknown:1 Tamil:4 Unknown:3
   Tamil:2 Unknown:1 Tamil:1 Unknown:1 Tamil:2 Unknown:3 Tamil:2 Unknown:3 Tamil:3 Unknown:3
   Tamil:12 Unknown:4 Tamil:5 Unknown:3 Tamil:3 Unknown:1 Tamil:4 Unknown:2 Tamil:1 Unknown:6
   Tamil:1 Unknown:14 Tamil:21 Unknown:5 Telugu:13 Unknown:1 Telugu:3 Unknown:1 Telugu:23 Unknown:1
   Telugu:16 Unknown:2 Telugu:9 Unknown:1 Telugu:3 Unknown:1 Telugu:4 Unknown:7 Telugu:2 Unknown:1
   Telugu:3 Unknown:2 Telugu:1 Unknown:2 Telugu:4 Unknown:2 Telugu:10 Unknown:7 Telugu:9 Kannada:13
   Unknown:1 Kannada:3 Unknown:1 Kannada:23 Unknown:1 Kannada:10 Unknown:1 Kannada:5 Unknown:2
   Kannada:9 Unknown:1 Kannada:3 Unknown:1 Kannada:4 Unknown:7 Kannada:2 Unknown:6 Kannada:2
   Unknown:1 Kannada:4 Unknown:2 Kannada:10 Unknown:1 Kannada:3 Unknown:12 Malayalam:13 Unknown:1
   Malayalam:3 Unknown:1 Malayalam:51 Unknown:1 Malayalam:3 Unknown:1 Malayalam:6 Unknown:4
   Malayalam:16 Unknown:2 Malayalam:26 Unknown:1 Sinhala:3 Unknown:1 Sinhala:18 Unknown:3
   Sinhala:24 Unknown:1 Sinhala:9 Unknown:1 Sinhala:1 Unknown:2 Sinhala:7 Unknown:3 Sinhala:1
   Unknown:4 Sinhala:6 Unknown:1 Sinhala:1 Unknown:1 Sinhala:8 Unknown:6 Sinhala:10 Unknown:2
   Sinhala:3 Unknown:12 Thai:58 Unknown:4 Common:1 Thai:28 Unknown:37 Lao:2 Unknown:1 Lao:1
   Unknown:1 Lao:5 Unknown:1 Lao:24 Unknown:1 Lao:1 Unknown:1 Lao:23 Unknown:2 Lao:5 Unknown:1
   Lao:1 Unknown:1 Lao:7 Unknown:1 Lao:10 Unknown:2 Lao:4 Unknown:32 Tibetan:72 Unknown:1
   Tibetan:36 Unknown:4 Tibetan:39 Unknown:1 Tibetan:36 Unknown:1 Tibetan:15 Unknown:1 Tibetan:7
   Common:4 Tibetan:2 Unknown:37 Myanmar:160 Georgian:38 Unknown:1 Georgian:1 Unknown:5 Georgian:1
   Unknown:2 Georgian:43 Common:1 Georgian:4 Hangul:256 Ethiopic:73 Unknown:1 Ethiopic:4 Unknown:2
   Ethiopic:7 Unknown:1 Ethiopic:1 Unknown:1 Ethiopic:4 Unknown:2 Ethiopic:41 Unknown:1 Ethiopic:4
   Unknown:2 Ethiopic:33 Unknown:1 Ethiopic:4 Unknown:2 Ethiopic:7 Unknown:1 Ethiopic:1 Unknown:1
   Ethiopic:4 Unknown:2 Ethiopic:15 Unknown:1 Ethiopic:57 Unknown:1 Ethiopic:4 Unknown:2
   Ethiopic:67 Unknown:2 Ethiopic:32 Unknown:3 Ethiopic:26 Unknown:6 Cherokee:86 Unknown:2
   Cherokee:6 Unknown:2 Canadian_Aboriginal:640 Ogham:29 Unknown:3 Runic:75 Common:3 Runic:11
   Unknown:7 Tagalog:22 Unknown:9 Tagalog:1 Hanunoo:21 Common:2 Unknown:9 Buhid:20 Unknown:12
   Tagbanwa:13 Unknown:1 Tagbanwa:3 Unknown:1 Tagbanwa:2 Unknown:12 Khmer:94 Unknown:2 Khmer:10
   Unknown:6 Khmer:10 Unknown:6 Mongolian:2 Common:2 Mongolian:1 Common:1 Mongolian:20 Unknown:6
   Mongolian:89 Unknown:7 Mongolian:43 Unknown:5 Canadian_Aboriginal:70 Unknown:10 Limbu:31
   Unknown:1 Limbu:12 Unknown:4 Limbu:12 Unknown:4 Limbu:1 Unknown:3 Limbu:12 Tai_Le:30 Unknown:2
   Tai_Le:5 Unknown:11 New_Tai_Lue:44 Unknown:4 New_Tai_Lue:26 Unknown:6 New_Tai_Lue:11 Unknown:3
   New_Tai_Lue:2 Khmer:32 Buginese:28 Unknown:2 Buginese:2 Tai_Tham:63 Unknown:1 Tai_Tham:29
   Unknown:2 Tai_Tham:11 Unknown:6 Tai_Tham:10 Unknown:6 Tai_Tham:14 Unknown:2 Inherited:31
   Unknown:49 Balinese:77 Unknown:3 Balinese:47 Unknown:1 Sundanese:64 Batak:52 Unknown:8 Batak:4
   Lepcha:56 Unknown:3 Lepcha:15 Unknown:3 Lepcha:3 Ol_Chiki:48 Cyrillic:9 Unknown:7 Georgian:43
   Unknown:2 Georgian:3 Sundanese:8 Unknown:8 Inherited:3 Common:1 Inherited:13 Common:1
   Inherited:7 Common:4 Inherited:1 Common:6 Inherited:1 Common:3 Inherited:2 Common:1 Unknown:5
   Latin:38 Greek:5 Cyrillic:1 Latin:49 Greek:5 Latin:4 Greek:5 Latin:13 Cyrillic:1 Latin:70
   Greek:1 Inherited:64 Latin:256 Greek:22 Unknown:2 Greek:6 Unknown:2 Greek:38 Unknown:2 Greek:6
   Unknown:2 Greek:8 Unknown:1 Greek:1 Unknown:1 Greek:1 Unknown:1 Greek:1 Unknown:1 Greek:31
   Unknown:2 Greek:53 Unknown:1 Greek:15 Unknown:1 Greek:14 Unknown:2 Greek:6 Unknown:1 Greek:19
   Unknown:2 Greek:3 Unknown:1 Greek:9 Unknown:1 Common:12 Inherited:2 Common:87 Unknown:1
   Common:11 Latin:1 Unknown:2 Common:11 Latin:1 Common:15 Unknown:1 Latin:13 Unknown:3 Common:33
   Unknown:15 Inherited:33 Unknown:15 Common:38 Greek:1 Common:3 Latin:2 Common:6 Latin:1 Common:27
   Latin:1 Common:17 Latin:41 Common:3 Unknown:4 Common:663 Unknown:25 Common:11 Unknown:21
   Common:928 Braille:256 Common:628 Unknown:2 Common:32 Unknown:1 Common:105 Glagolitic:96
   Latin:32 Coptic:116 Unknown:5 Coptic:7 Georgian:38 Unknown:1 Georgian:1 Unknown:5 Georgian:1
   Unknown:2 Tifinagh:56 Unknown:7 Tifinagh:2 Unknown:14 Tifinagh:1 Ethiopic:23 Unknown:9
   Ethiopic:7 Unknown:1 Ethiopic:7 Unknown:1 Ethiopic:7 Unknown:1 Ethiopic:7 Unknown:1 Ethiopic:7
   Unknown:1 Ethiopic:7 Unknown:1 Ethiopic:7 Unknown:1 Ethiopic:7 Unknown:1 Cyrillic:32 Common:94
   Unknown:34 Han:26 Unknown:1 Han:89 Unknown:12 Han:214 Unknown:26 Common:12 Unknown:4 Common:5
   Han:1 Common:1 Han:1 Common:25 Han:9 Inherited:4 Hangul:2 Common:8 Han:4 Common:4 Unknown:1
   Hiragana:86 Unknown:2 Inherited:2 Common:2 Hiragana:3 Common:1 Katakana:90 Common:2 Katakana:3
   Unknown:5 Bopomofo:43 Unknown:1 Hangul:94 Unknown:1 Common:16 Bopomofo:32 Common:36 Unknown:12
   Katakana:16 Hangul:31 Unknown:1 Common:64 Hangul:31 Common:81 Katakana:47 Common:1 Katakana:88
   Common:168 Han:6592 Common:64 Han:20992 Yi:1165 Unknown:3 Yi:55 Unknown:9 Lisu:48 Vai:300
   Unknown:20 Cyrillic:96 Bamum:88 Unknown:8 Common:34 Latin:102 Common:3 Latin:64 Unknown:5
   Latin:2 Unknown:1 Latin:1 Unknown:1 Latin:5 Unknown:24 Latin:14 Syloti_Nagri:45 Unknown:3
   Common:10 Unknown:6 Phags_Pa:56 Unknown:8 Saurashtra:70 Unknown:8 Saurashtra:12 Unknown:6
   Devanagari:32 Kayah_Li:46 Common:1 Kayah_Li:1 Rejang:36 Unknown:11 Rejang:1 Hangul:29 Unknown:3
   Javanese:78 Unknown:1 Common:1 Javanese:10 Unknown:4 Javanese:2 Myanmar:31 Unknown:1 Cham:55
   Unknown:9 Cham:14 Unknown:2 Cham:10 Unknown:2 Cham:4 Myanmar:32 Tai_Viet:67 Unknown:24
   Tai_Viet:5 Meetei_Mayek:23 Unknown:10 Ethiopic:6 Unknown:2 Ethiopic:6 Unknown:2 Ethiopic:6
   Unknown:9 Ethiopic:7 Unknown:1 Ethiopic:7 Unknown:1 Latin:43 Common:1 Latin:9 Greek:1 Latin:4
   Common:2 Unknown:4 Cherokee:80 Meetei_Mayek:46 Unknown:2 Meetei_Mayek:10 Unknown:6 Hangul:11172
   Unknown:12 Hangul:23 Unknown:4 Hangul:49 Unknown:8452 Han:366 Unknown:2 Han:106 Unknown:38
   Latin:7 Unknown:12 Armenian:5 Unknown:5 Hebrew:26 Unknown:1 Hebrew:5 Unknown:1 Hebrew:1
   Unknown:1 Hebrew:2 Unknown:1 Hebrew:2 Unknown:1 Hebrew:10 Arabic:115 Unknown:16 Arabic:363
   Common:2 Arabic:80 Unknown:2 Arabic:54 Unknown:7 Arabic:1 Unknown:32 Arabic:16 Inherited:16
   Common:10 Unknown:6 Inherited:14 Cyrillic:2 Common:35 Unknown:1 Common:19 Unknown:1 Common:4
   Unknown:4 Arabic:5 Unknown:1 Arabic:135 Unknown:2 Common:1 Unknown:1 Common:32 Latin:26 Common:6
   Latin:26 Common:11 Katakana:10 Common:1 Katakana:45 Common:2 Hangul:31 Unknown:3 Hangul:6
   Unknown:2 Hangul:6 Unknown:2 Hangul:6 Unknown:2 Hangul:3 Unknown:3 Common:7 Unknown:1 Common:7
   Unknown:10 Common:5 Unknown:2 Linear_B:12 Unknown:1 Linear_B:26 Unknown:1 Linear_B:19 Unknown:1
   Linear_B:2 Unknown:1 Linear_B:15 Unknown:2 Linear_B:14 Unknown:34 Linear_B:123 Unknown:5
   Common:3 Unknown:4 Common:45 Unknown:3 Common:9 Greek:79 Unknown:1 Common:13 Unknown:3 Greek:1
   Unknown:47 Common:45 Inherited:1 Unknown:130 Lycian:29 Unknown:3 Carian:49 Unknown:15
   Inherited:1 Common:27 Unknown:4 Old_Italic:36 Unknown:9 Old_Italic:3 Gothic:27 Unknown:5
   Old_Permic:43 Unknown:5 Ugaritic:30 Unknown:1 Ugaritic:1 Old_Persian:36 Unknown:4 Old_Persian:14
   Unknown:42 Deseret:80 Shavian:48 Osmanya:30 Unknown:2 Osmanya:10 Unknown:6 Osage:36 Unknown:4
   Osage:36 Unknown:4 Elbasan:40 Unknown:8 Caucasian_Albanian:52 Unknown:11 Caucasian_Albanian:1
   Vithkuqi:11 Unknown:1 Vithkuqi:15 Unknown:1 Vithkuqi:7 Unknown:1 Vithkuqi:2 Unknown:1
   Vithkuqi:11 Unknown:1 Vithkuqi:15 Unknown:1 Vithkuqi:7 Unknown:1 Vithkuqi:2 Unknown:67
   Linear_A:311 Unknown:9 Linear_A:22 Unknown:10 Linear_A:8 Unknown:24 Latin:6 Unknown:1 Latin:42
   Unknown:1 Latin:9 Unknown:69 Cypriot:6 Unknown:2 Cypriot:1 Unknown:1 Cypriot:44 Unknown:1
   Cypriot:2 Unknown:3 Cypriot:1 Unknown:2 Cypriot:1 Imperial_Aramaic:22 Unknown:1
   Imperial_Aramaic:9 Palmyrene:32 Nabataean:31 Unknown:8 Nabataean:9 Unknown:48 Hatran:19
   Unknown:1 Hatran:2 Unknown:5 Hatran:5 Phoenician:28 Unknown:3 Phoenician:1 Lydian:26 Unknown:5
   Lydian:1 Unknown:64 Meroitic_Hieroglyphs:32 Meroitic_Cursive:24 Unknown:4 Meroitic_Cursive:20
   Unknown:2 Meroitic_Cursive:46 Kharoshthi:4 Unknown:1 Kharoshthi:2 Unknown:5 Kharoshthi:8
   Unknown:1 Kharoshthi:3 Unknown:1 Kharoshthi:29 Unknown:2 Kharoshthi:3 Unknown:4 Kharoshthi:10
   Unknown:7 Kharoshthi:9 Unknown:7 Old_South_Arabian:32 Old_North_Arabian:32 Unknown:32
   Manichaean:39 Unknown:4 Manichaean:12 Unknown:9 Avestan:54 Unknown:3 Avestan:7
   Inscriptional_Parthian:22 Unknown:2 Inscriptional_Parthian:8 Inscriptional_Pahlavi:19 Unknown:5
   Inscriptional_Pahlavi:8 Psalter_Pahlavi:18 Unknown:7 Psalter_Pahlavi:4 Unknown:12
   Psalter_Pahlavi:7 Unknown:80 Old_Turkic:73 Unknown:55 Old_Hungarian:51 Unknown:13
   Old_Hungarian:51 Unknown:7 Old_Hungarian:6 Hanifi_Rohingya:40 Unknown:8 Hanifi_Rohingya:10
   Unknown:294 Arabic:31 Unknown:1 Yezidi:42 Unknown:1 Yezidi:3 Unknown:2 Yezidi:2 Unknown:75
   Arabic:3 Old_Sogdian:40 Unknown:8 Sogdian:42 Unknown:22 Old_Uyghur:26 Unknown:38 Chorasmian:28
   Unknown:20 Elymaic:23 Unknown:9 Brahmi:78 Unknown:4 Brahmi:36 Unknown:9 Brahmi:1 Kaithi:67
   Unknown:10 Kaithi:1 Unknown:2 Sora_Sompeng:25 Unknown:7 Sora_Sompeng:10 Unknown:6 Chakma:53
   Unknown:1 Chakma:18 Unknown:8 Mahajani:39 Unknown:9 Sharada:96 Unknown:1 Sinhala:20 Unknown:11
   Khojki:18 Unknown:1 Khojki:47 Unknown:62 Multani:7 Unknown:1 Multani:1 Unknown:1 Multani:4
   Unknown:1 Multani:15 Unknown:1 Multani:11 Unknown:6 Khudawadi:59 Unknown:5 Khudawadi:10
   Unknown:6 Grantha:4 Unknown:1 Grantha:8 Unknown:2 Grantha:2 Unknown:2 Grantha:22 Unknown:1
   Grantha:7 Unknown:1 Grantha:2 Unknown:1 Grantha:5 Unknown:1 Inherited:1 Grantha:9 Unknown:2
   Grantha:2 Unknown:2 Grantha:3 Unknown:2 Grantha:1 Unknown:6 Grantha:1 Unknown:5 Grantha:7
   Unknown:2 Grantha:7 Unknown:3 Grantha:5 Unknown:139 Newa:92 Unknown:1 Newa:5 Unknown:30
   Tirhuta:72 Unknown:8 Tirhuta:10 Unknown:166 Siddham:54 Unknown:2 Siddham:38 Unknown:34 Modi:69
   Unknown:11 Modi:10 Unknown:6 Mongolian:13 Unknown:19 Takri:58 Unknown:6 Takri:10 Unknown:54
   Ahom:27 Unknown:2 Ahom:15 Unknown:4 Ahom:23 Unknown:185 Dogra:60 Unknown:100 Warang_Citi:83
   Unknown:12 Warang_Citi:1 Dives_Akuru:7 Unknown:2 Dives_Akuru:1 Unknown:2 Dives_Akuru:8 Unknown:1
   Dives_Akuru:2 Unknown:1 Dives_Akuru:30 Unknown:1 Dives_Akuru:2 Unknown:2 Dives_Akuru:12
   Unknown:9 Dives_Akuru:10 Unknown:70 Nandinagari:8 Unknown:2 Nandinagari:46 Unknown:2
   Nandinagari:11 Unknown:27 Zanabazar_Square:72 Unknown:8 Soyombo:83 Unknown:13
   Canadian_Aboriginal:16 Pau_Cin_Hau:57 Unknown:7 Devanagari:10 Unknown:246 Bhaiksuki:9 Unknown:1
   Bhaiksuki:45 Unknown:1 Bhaiksuki:14 Unknown:10 Bhaiksuki:29 Unknown:3 Marchen:32 Unknown:2
   Marchen:22 Unknown:1 Marchen:14 Unknown:73 Masaram_Gondi:7 Unknown:1 Masaram_Gondi:2 Unknown:1
   Masaram_Gondi:44 Unknown:3 Masaram_Gondi:1 Unknown:1 Masaram_Gondi:2 Unknown:1 Masaram_Gondi:9
   Unknown:8 Masaram_Gondi:10 Unknown:6 Gunjala_Gondi:6 Unknown:1 Gunjala_Gondi:2 Unknown:1
   Gunjala_Gondi:37 Unknown:1 Gunjala_Gondi:2 Unknown:1 Gunjala_Gondi:6 Unknown:7 Gunjala_Gondi:10
   Unknown:310 Makasar:25 Unknown:7 Kawi:17 Unknown:1 Kawi:41 Unknown:3 Kawi:28 Unknown:86 Lisu:1
   Unknown:15 Tamil:50 Unknown:13 Tamil:1 Cuneiform:922 Unknown:102 Cuneiform:111 Unknown:1
   Cuneiform:5 Unknown:11 Cuneiform:196 Unknown:2636 Cypro_Minoan:99 Unknown:13
   Egyptian_Hieroglyphs:1110 Unknown:4010 Anatolian_Hieroglyphs:583 Unknown:8633 Bamum:569
   Unknown:7 Mro:31 Unknown:1 Mro:10 Unknown:4 Mro:2 Tangsa:79 Unknown:1 Tangsa:10 Unknown:6
   Bassa_Vah:30 Unknown:2 Bassa_Vah:6 Unknown:10 Pahawh_Hmong:70 Unknown:10 Pahawh_Hmong:10
   Unknown:1 Pahawh_Hmong:7 Unknown:1 Pahawh_Hmong:21 Unknown:5 Pahawh_Hmong:19 Unknown:688
   Medefaidrin:91 Unknown:101 Miao:75 Unknown:4 Miao:57 Unknown:7 Miao:17 Unknown:64 Tangut:1
   Nushu:1 Han:2 Khitan_Small_Script:1 Unknown:11 Han:2 Unknown:14 Tangut:6136 Unknown:8 Tangut:768
   Khitan_Small_Script:470 Unknown:42 Tangut:9 Unknown:8935 Katakana:4 Unknown:1 Katakana:7
   Unknown:1 Katakana:2 Unknown:1 Katakana:1 Hiragana:287 Katakana:3 Unknown:15 Hiragana:1
   Unknown:29 Hiragana:3 Unknown:2 Katakana:1 Unknown:14 Katakana:4 Unknown:8 Nushu:396
   Unknown:2308 Duployan:107 Unknown:5 Duployan:13 Unknown:3 Duployan:9 Unknown:7 Duployan:10
   Unknown:2 Duployan:4 Common:4 Unknown:4700 Inherited:46 Unknown:2 Inherited:23 Unknown:9
   Common:116 Unknown:60 Common:246 Unknown:10 Common:39 Unknown:2 Common:62 Inherited:3 Common:17
   Inherited:8 Common:2 Inherited:7 Common:30 Inherited:4 Common:61 Unknown:21 Greek:70 Unknown:122
   Common:20 Unknown:12 Common:20 Unknown:12 Common:87 Unknown:9 Common:25 Unknown:135 Common:85
   Unknown:1 Common:71 Unknown:1 Common:2 Unknown:2 Common:1 Unknown:2 Common:2 Unknown:2 Common:4
   Unknown:1 Common:12 Unknown:1 Common:1 Unknown:1 Common:7 Unknown:1 Common:65 Unknown:1 Common:4
   Unknown:2 Common:8 Unknown:1 Common:7 Unknown:1 Common:28 Unknown:1 Common:4 Unknown:1 Common:5
   Unknown:1 Common:1 Unknown:3 Common:7 Unknown:1 Common:340 Unknown:2 Common:292 Unknown:2
   Common:50 SignWriting:652 Unknown:15 SignWriting:5 Unknown:1 SignWriting:15 Unknown:1104
   Latin:31 Unknown:6 Latin:6 Unknown:213 Glagolitic:7 Unknown:1 Glagolitic:17 Unknown:2
   Glagolitic:7 Unknown:1 Glagolitic:2 Unknown:1 Glagolitic:5 Unknown:5 Cyrillic:62 Unknown:33
   Cyrillic:1 Unknown:112 Nyiakeng_Puachue_Hmong:45 Unknown:3 Nyiakeng_Puachue_Hmong:14 Unknown:2
   Nyiakeng_Puachue_Hmong:10 Unknown:4 Nyiakeng_Puachue_Hmong:2 Unknown:320 Toto:31 Unknown:17
   Wancho:58 Unknown:5 Wancho:1 Unknown:464 Nag_Mundari:42 Unknown:742 Ethiopic:7 Unknown:1
   Ethiopic:4 Unknown:1 Ethiopic:2 Unknown:1 Ethiopic:15 Unknown:1 Mende_Kikakui:197 Unknown:2
   Mende_Kikakui:16 Unknown:41 Adlam:76 Unknown:4 Adlam:10 Unknown:4 Adlam:2 Unknown:785 Common:68
   Unknown:76 Common:61 Unknown:194 Arabic:4 Unknown:1 Arabic:27 Unknown:1 Arabic:2 Unknown:1
   Arabic:1 Unknown:2 Arabic:1 Unknown:1 Arabic:10 Unknown:1 Arabic:4 Unknown:1 Arabic:1 Unknown:1
   Arabic:1 Unknown:6 Arabic:1 Unknown:4 Arabic:1 Unknown:1 Arabic:1 Unknown:1 Arabic:1 Unknown:1
   Arabic:3 Unknown:1 Arabic:2 Unknown:1 Arabic:1 Unknown:2 Arabic:1 Unknown:1 Arabic:1 Unknown:1
   Arabic:1 Unknown:1 Arabic:1 Unknown:1 Arabic:1 Unknown:1 Arabic:2 Unknown:1 Arabic:1 Unknown:2
   Arabic:4 Unknown:1 Arabic:7 Unknown:1 Arabic:4 Unknown:1 Arabic:4 Unknown:1 Arabic:1 Unknown:1
   Arabic:10 Unknown:1 Arabic:17 Unknown:5 Arabic:3 Unknown:1 Arabic:5 Unknown:1 Arabic:17
   Unknown:52 Arabic:2 Unknown:270 Common:44 Unknown:4 Common:100 Unknown:12 Common:15 Unknown:2
   Common:15 Unknown:1 Common:15 Unknown:1 Common:37 Unknown:10 Common:174 Unknown:56 Common:26
   Hiragana:1 Common:2 Unknown:13 Common:44 Unknown:4 Common:9 Unknown:7 Common:2 Unknown:14
   Common:6 Unknown:154 Common:984 Unknown:4 Common:17 Unknown:3 Common:13 Unknown:3 Common:119
   Unknown:4 Common:95 Unknown:6 Common:12 Unknown:4 Common:1 Unknown:15 Common:12 Unknown:4
   Common:56 Unknown:8 Common:10 Unknown:6 Common:40 Unknown:8 Common:30 Unknown:2 Common:2
   Unknown:78 Common:340 Unknown:12 Common:14 Unknown:2 Common:13 Unknown:3 Common:9 Unknown:7
   Common:46 Unknown:1 Common:7 Unknown:8 Common:14 Unknown:4 Common:9 Unknown:7 Common:9 Unknown:7
   Common:147 Unknown:1 Common:55 Unknown:37 Common:10 Unknown:1030 Han:42720 Unknown:32 Han:4154
   Unknown:6 Han:222 Unknown:2 Han:5762 Unknown:14 Han:7473 Unknown:3103 Han:542 Unknown:1506
   Han:4939 Unknown:5 Han:4192 Unknown:711761 Common:1 Unknown:30 Common:96 Unknown:128
   Inherited:240 Unknown:196112"

def scriptCodeWords : String :=
  "Adlam:Adlm Caucasian_Albanian:Aghb Arabic:Arab Imperial_Aramaic:Armi Armenian:Armn Avestan:Avst
   Balinese:Bali Bamum:Bamu Bassa_Vah:Bass Batak:Batk Bengali:Beng Bhaiksuki:Bhks Bopomofo:Bopo
   Brahmi:Brah Braille:Brai Buginese:Bugi Buhid:Buhd Chakma:Cakm Canadian_Aboriginal:Cans
   Carian:Cari Cherokee:Cher Chorasmian:Chrs Coptic:Copt Coptic:Qaac Cypro_Minoan:Cpmn
   Cypriot:Cprt Cyrillic:Cyrl Devanagari:Deva Dives_Akuru:Diak Dogra:Dogr Deseret:Dsrt
   Duployan:Dupl Egyptian_Hieroglyphs:Egyp Elbasan:Elba Elymaic:Elym Ethiopic:Ethi Georgian:Geor
   Glagolitic:Glag Gunjala_Gondi:Gong Masaram_Gondi:Gonm Gothic:Goth Grantha:Gran Greek:Grek
   Gujarati:Gujr Gurmukhi:Guru Hangul:Hang Han:Hani Hanunoo:Hano Hatran:Hatr Hebrew:Hebr
   Hiragana:Hira Anatolian_Hieroglyphs:Hluw Pahawh_Hmong:Hmng Nyiakeng_Puachue_Hmong:Hmnp
   Old_Hungarian:Hung Old_Italic:Ital Javanese:Java Kayah_Li:Kali Katakana:Kana Kharoshthi:Khar
   Khmer:Khmr Khojki:Khoj Khitan_Small_Script:Kits Kannada:Knda Kaithi:Kthi Tai_Tham:Lana Lao:Laoo
   Latin:Latn Lepcha:Lepc Limbu:Limb Linear_A:Lina Linear_B:Linb Lycian:Lyci Lydian:Lydi
   Mahajani:Mahj Makasar:Maka Mandaic:Mand Manichaean:Mani Marchen:Marc Medefaidrin:Medf
   Mende_Kikakui:Mend Meroitic_Cursive:Merc Meroitic_Hieroglyphs:Mero Malayalam:Mlym
   Mongolian:Mong Mro:Mroo Meetei_Mayek:Mtei Multani:Mult Myanmar:Mymr Nag_Mundari:Nagm
   Nandinagari:Nand Old_North_Arabian:Narb Nabataean:Nbat Nko:Nkoo Nushu:Nshu Ogham:Ogam
   Ol_Chiki:Olck Old_Turkic:Orkh Oriya:Orya Osage:Osge Osmanya:Osma Old_Uyghur:Ougr Palmyrene:Palm
   Pau_Cin_Hau:Pauc Old_Permic:Perm Phags_Pa:Phag Inscriptional_Pahlavi:Phli Psalter_Pahlavi:Phlp
   Phoenician:Phnx Miao:Plrd Inscriptional_Parthian:Prti Rejang:Rjng Hanifi_Rohingya:Rohg
   Runic:Runr Samaritan:Samr Old_South_Arabian:Sarb Saurashtra:Saur SignWriting:Sgnw Shavian:Shaw
   Sharada:Shrd Siddham:Sidd Khudawadi:Sind Sinhala:Sinh Sogdian:Sogd Old_Sogdian:Sogo
   Sora_Sompeng:Sora Soyombo:Soyo Sundanese:Sund Syloti_Nagri:Sylo Syriac:Syrc Tagbanwa:Tagb
   Takri:Takr Tai_Le:Tale New_Tai_Lue:Talu Tamil:Taml Tangut:Tang Tai_Viet:Tavt Telugu:Telu
   Tifinagh:Tfng Tagalog:Tglg Thaana:Thaa Tibetan:Tibt Tirhuta:Tirh Tangsa:Tnsa Ugaritic:Ugar
   Vai:Vaii Vithkuqi:Vith Warang_Citi:Wara Wancho:Wcho Old_Persian:Xpeo Cuneiform:Xsux Yezidi:Yezi
   Yi:Yiii Zanabazar_Square:Zanb Inherited:Zinh Inherited:Qaai Common:Zyyy"

end FilteringProxy.Unicode
