/-
Scripts of the Unicode code points, version 17, as runs of equal script.
-/

import Tabulation.Text.Runs

namespace Tabulation.Text.Script

/-- The runs of equal script, in increasing order of their first code point. -/
def runs : Array Run := Run.table "
0:Common 41:Latin 5b:Common 61:Latin 7b:Common aa:Latin ab:Common ba:Latin bb:Common c0:Latin
d7:Common d8:Latin f7:Common f8:Latin 2b9:Common 2e0:Latin 2e5:Common 2ea:Bopomofo 2ec:Common
300:Inherited 370:Greek 374:Common 375:Greek 378:Unknown 37a:Greek 37e:Common 37f:Greek
380:Unknown 384:Greek 385:Common 386:Greek 387:Common 388:Greek 38b:Unknown 38c:Greek
38d:Unknown 38e:Greek 3a2:Unknown 3a3:Greek 3e2:Coptic 3f0:Greek 400:Cyrillic 485:Inherited
487:Cyrillic 530:Unknown 531:Armenian 557:Unknown 559:Armenian 58b:Unknown 58d:Armenian
590:Unknown 591:Hebrew 5c8:Unknown 5d0:Hebrew 5eb:Unknown 5ef:Hebrew 5f5:Unknown 600:Arabic
605:Common 606:Arabic 60c:Common 60d:Arabic 61b:Common 61c:Arabic 61f:Common 620:Arabic
640:Common 641:Arabic 64b:Inherited 656:Arabic 670:Inherited 671:Arabic 6dd:Common 6de:Arabic
700:Syriac 70e:Unknown 70f:Syriac 74b:Unknown 74d:Syriac 750:Arabic 780:Thaana 7b2:Unknown
7c0:Nko 7fb:Unknown 7fd:Nko 800:Samaritan 82e:Unknown 830:Samaritan 83f:Unknown 840:Mandaic
85c:Unknown 85e:Mandaic 85f:Unknown 860:Syriac 86b:Unknown 870:Arabic 892:Unknown 897:Arabic
8e2:Common 8e3:Arabic 900:Devanagari 951:Inherited 955:Devanagari 964:Common 966:Devanagari
980:Bengali 984:Unknown 985:Bengali 98d:Unknown 98f:Bengali 991:Unknown 993:Bengali 9a9:Unknown
9aa:Bengali 9b1:Unknown 9b2:Bengali 9b3:Unknown 9b6:Bengali 9ba:Unknown 9bc:Bengali 9c5:Unknown
9c7:Bengali 9c9:Unknown 9cb:Bengali 9cf:Unknown 9d7:Bengali 9d8:Unknown 9dc:Bengali 9de:Unknown
9df:Bengali 9e4:Unknown 9e6:Bengali 9ff:Unknown a01:Gurmukhi a04:Unknown a05:Gurmukhi
a0b:Unknown a0f:Gurmukhi a11:Unknown a13:Gurmukhi a29:Unknown a2a:Gurmukhi a31:Unknown
a32:Gurmukhi a34:Unknown a35:Gurmukhi a37:Unknown a38:Gurmukhi a3a:Unknown a3c:Gurmukhi
a3d:Unknown a3e:Gurmukhi a43:Unknown a47:Gurmukhi a49:Unknown a4b:Gurmukhi a4e:Unknown
a51:Gurmukhi a52:Unknown a59:Gurmukhi a5d:Unknown a5e:Gurmukhi a5f:Unknown a66:Gurmukhi
a77:Unknown a81:Gujarati a84:Unknown a85:Gujarati a8e:Unknown a8f:Gujarati a92:Unknown
a93:Gujarati aa9:Unknown aaa:Gujarati ab1:Unknown ab2:Gujarati ab4:Unknown ab5:Gujarati
aba:Unknown abc:Gujarati ac6:Unknown ac7:Gujarati aca:Unknown acb:Gujarati ace:Unknown
ad0:Gujarati ad1:Unknown ae0:Gujarati ae4:Unknown ae6:Gujarati af2:Unknown af9:Gujarati
b00:Unknown b01:Oriya b04:Unknown b05:Oriya b0d:Unknown b0f:Oriya b11:Unknown b13:Oriya
b29:Unknown b2a:Oriya b31:Unknown b32:Oriya b34:Unknown b35:Oriya b3a:Unknown b3c:Oriya
b45:Unknown b47:Oriya b49:Unknown b4b:Oriya b4e:Unknown b55:Oriya b58:Unknown b5c:Oriya
b5e:Unknown b5f:Oriya b64:Unknown b66:Oriya b78:Unknown b82:Tamil b84:Unknown b85:Tamil
b8b:Unknown b8e:Tamil b91:Unknown b92:Tamil b96:Unknown b99:Tamil b9b:Unknown b9c:Tamil
b9d:Unknown b9e:Tamil ba0:Unknown ba3:Tamil ba5:Unknown ba8:Tamil bab:Unknown bae:Tamil
bba:Unknown bbe:Tamil bc3:Unknown bc6:Tamil bc9:Unknown bca:Tamil bce:Unknown bd0:Tamil
bd1:Unknown bd7:Tamil bd8:Unknown be6:Tamil bfb:Unknown c00:Telugu c0d:Unknown c0e:Telugu
c11:Unknown c12:Telugu c29:Unknown c2a:Telugu c3a:Unknown c3c:Telugu c45:Unknown c46:Telugu
c49:Unknown c4a:Telugu c4e:Unknown c55:Telugu c57:Unknown c58:Telugu c5b:Unknown c5c:Telugu
c5e:Unknown c60:Telugu c64:Unknown c66:Telugu c70:Unknown c77:Telugu c80:Kannada c8d:Unknown
c8e:Kannada c91:Unknown c92:Kannada ca9:Unknown caa:Kannada cb4:Unknown cb5:Kannada cba:Unknown
cbc:Kannada cc5:Unknown cc6:Kannada cc9:Unknown cca:Kannada cce:Unknown cd5:Kannada cd7:Unknown
cdc:Kannada cdf:Unknown ce0:Kannada ce4:Unknown ce6:Kannada cf0:Unknown cf1:Kannada cf4:Unknown
d00:Malayalam d0d:Unknown d0e:Malayalam d11:Unknown d12:Malayalam d45:Unknown d46:Malayalam
d49:Unknown d4a:Malayalam d50:Unknown d54:Malayalam d64:Unknown d66:Malayalam d80:Unknown
d81:Sinhala d84:Unknown d85:Sinhala d97:Unknown d9a:Sinhala db2:Unknown db3:Sinhala dbc:Unknown
dbd:Sinhala dbe:Unknown dc0:Sinhala dc7:Unknown dca:Sinhala dcb:Unknown dcf:Sinhala dd5:Unknown
dd6:Sinhala dd7:Unknown dd8:Sinhala de0:Unknown de6:Sinhala df0:Unknown df2:Sinhala df5:Unknown
e01:Thai e3b:Unknown e3f:Common e40:Thai e5c:Unknown e81:Lao e83:Unknown e84:Lao e85:Unknown
e86:Lao e8b:Unknown e8c:Lao ea4:Unknown ea5:Lao ea6:Unknown ea7:Lao ebe:Unknown ec0:Lao
ec5:Unknown ec6:Lao ec7:Unknown ec8:Lao ecf:Unknown ed0:Lao eda:Unknown edc:Lao ee0:Unknown
f00:Tibetan f48:Unknown f49:Tibetan f6d:Unknown f71:Tibetan f98:Unknown f99:Tibetan fbd:Unknown
fbe:Tibetan fcd:Unknown fce:Tibetan fd5:Common fd9:Tibetan fdb:Unknown 1000:Myanmar
10a0:Georgian 10c6:Unknown 10c7:Georgian 10c8:Unknown 10cd:Georgian 10ce:Unknown 10d0:Georgian
10fb:Common 10fc:Georgian 1100:Hangul 1200:Ethiopic 1249:Unknown 124a:Ethiopic 124e:Unknown
1250:Ethiopic 1257:Unknown 1258:Ethiopic 1259:Unknown 125a:Ethiopic 125e:Unknown 1260:Ethiopic
1289:Unknown 128a:Ethiopic 128e:Unknown 1290:Ethiopic 12b1:Unknown 12b2:Ethiopic 12b6:Unknown
12b8:Ethiopic 12bf:Unknown 12c0:Ethiopic 12c1:Unknown 12c2:Ethiopic 12c6:Unknown 12c8:Ethiopic
12d7:Unknown 12d8:Ethiopic 1311:Unknown 1312:Ethiopic 1316:Unknown 1318:Ethiopic 135b:Unknown
135d:Ethiopic 137d:Unknown 1380:Ethiopic 139a:Unknown 13a0:Cherokee 13f6:Unknown 13f8:Cherokee
13fe:Unknown 1400:Canadian_Aboriginal 1680:Ogham 169d:Unknown 16a0:Runic 16eb:Common 16ee:Runic
16f9:Unknown 1700:Tagalog 1716:Unknown 171f:Tagalog 1720:Hanunoo 1735:Common 1737:Unknown
1740:Buhid 1754:Unknown 1760:Tagbanwa 176d:Unknown 176e:Tagbanwa 1771:Unknown 1772:Tagbanwa
1774:Unknown 1780:Khmer 17de:Unknown 17e0:Khmer 17ea:Unknown 17f0:Khmer 17fa:Unknown
1800:Mongolian 1802:Common 1804:Mongolian 1805:Common 1806:Mongolian 181a:Unknown 1820:Mongolian
1879:Unknown 1880:Mongolian 18ab:Unknown 18b0:Canadian_Aboriginal 18f6:Unknown 1900:Limbu
191f:Unknown 1920:Limbu 192c:Unknown 1930:Limbu 193c:Unknown 1940:Limbu 1941:Unknown 1944:Limbu
1950:Tai_Le 196e:Unknown 1970:Tai_Le 1975:Unknown 1980:New_Tai_Lue 19ac:Unknown 19b0:New_Tai_Lue
19ca:Unknown 19d0:New_Tai_Lue 19db:Unknown 19de:New_Tai_Lue 19e0:Khmer 1a00:Buginese
1a1c:Unknown 1a1e:Buginese 1a20:Tai_Tham 1a5f:Unknown 1a60:Tai_Tham 1a7d:Unknown 1a7f:Tai_Tham
1a8a:Unknown 1a90:Tai_Tham 1a9a:Unknown 1aa0:Tai_Tham 1aae:Unknown 1ab0:Inherited 1ade:Unknown
1ae0:Inherited 1aec:Unknown 1b00:Balinese 1b4d:Unknown 1b4e:Balinese 1b80:Sundanese 1bc0:Batak
1bf4:Unknown 1bfc:Batak 1c00:Lepcha 1c38:Unknown 1c3b:Lepcha 1c4a:Unknown 1c4d:Lepcha
1c50:Ol_Chiki 1c80:Cyrillic 1c8b:Unknown 1c90:Georgian 1cbb:Unknown 1cbd:Georgian 1cc0:Sundanese
1cc8:Unknown 1cd0:Inherited 1cd3:Common 1cd4:Inherited 1ce1:Common 1ce2:Inherited 1ce9:Common
1ced:Inherited 1cee:Common 1cf4:Inherited 1cf5:Common 1cf8:Inherited 1cfa:Common 1cfb:Unknown
1d00:Latin 1d26:Greek 1d2b:Cyrillic 1d2c:Latin 1d5d:Greek 1d62:Latin 1d66:Greek 1d6b:Latin
1d78:Cyrillic 1d79:Latin 1dbf:Greek 1dc0:Inherited 1e00:Latin 1f00:Greek 1f16:Unknown 1f18:Greek
1f1e:Unknown 1f20:Greek 1f46:Unknown 1f48:Greek 1f4e:Unknown 1f50:Greek 1f58:Unknown 1f59:Greek
1f5a:Unknown 1f5b:Greek 1f5c:Unknown 1f5d:Greek 1f5e:Unknown 1f5f:Greek 1f7e:Unknown 1f80:Greek
1fb5:Unknown 1fb6:Greek 1fc5:Unknown 1fc6:Greek 1fd4:Unknown 1fd6:Greek 1fdc:Unknown 1fdd:Greek
1ff0:Unknown 1ff2:Greek 1ff5:Unknown 1ff6:Greek 1fff:Unknown 2000:Common 200c:Inherited
200e:Common 2065:Unknown 2066:Common 2071:Latin 2072:Unknown 2074:Common 207f:Latin 2080:Common
208f:Unknown 2090:Latin 209d:Unknown 20a0:Common 20c2:Unknown 20d0:Inherited 20f1:Unknown
2100:Common 2126:Greek 2127:Common 212a:Latin 212c:Common 2132:Latin 2133:Common 214e:Latin
214f:Common 2160:Latin 2189:Common 218c:Unknown 2190:Common 242a:Unknown 2440:Common
244b:Unknown 2460:Common 2800:Braille 2900:Common 2b74:Unknown 2b76:Common 2c00:Glagolitic
2c60:Latin 2c80:Coptic 2cf4:Unknown 2cf9:Coptic 2d00:Georgian 2d26:Unknown 2d27:Georgian
2d28:Unknown 2d2d:Georgian 2d2e:Unknown 2d30:Tifinagh 2d68:Unknown 2d6f:Tifinagh 2d71:Unknown
2d7f:Tifinagh 2d80:Ethiopic 2d97:Unknown 2da0:Ethiopic 2da7:Unknown 2da8:Ethiopic 2daf:Unknown
2db0:Ethiopic 2db7:Unknown 2db8:Ethiopic 2dbf:Unknown 2dc0:Ethiopic 2dc7:Unknown 2dc8:Ethiopic
2dcf:Unknown 2dd0:Ethiopic 2dd7:Unknown 2dd8:Ethiopic 2ddf:Unknown 2de0:Cyrillic 2e00:Common
2e5e:Unknown 2e80:Han 2e9a:Unknown 2e9b:Han 2ef4:Unknown 2f00:Han 2fd6:Unknown 2ff0:Common
3005:Han 3006:Common 3007:Han 3008:Common 3021:Han 302a:Inherited 302e:Hangul 3030:Common
3038:Han 303c:Common 3040:Unknown 3041:Hiragana 3097:Unknown 3099:Inherited 309b:Common
309d:Hiragana 30a0:Common 30a1:Katakana 30fb:Common 30fd:Katakana 3100:Unknown 3105:Bopomofo
3130:Unknown 3131:Hangul 318f:Unknown 3190:Common 31a0:Bopomofo 31c0:Common 31e6:Unknown
31ef:Common 31f0:Katakana 3200:Hangul 321f:Unknown 3220:Common 3260:Hangul 327f:Common
32d0:Katakana 32ff:Common 3300:Katakana 3358:Common 3400:Han 4dc0:Common 4e00:Han a000:Yi
a48d:Unknown a490:Yi a4c7:Unknown a4d0:Lisu a500:Vai a62c:Unknown a640:Cyrillic a6a0:Bamum
a6f8:Unknown a700:Common a722:Latin a788:Common a78b:Latin a7dd:Unknown a7f1:Latin
a800:Syloti_Nagri a82d:Unknown a830:Common a83a:Unknown a840:Phags_Pa a878:Unknown
a880:Saurashtra a8c6:Unknown a8ce:Saurashtra a8da:Unknown a8e0:Devanagari a900:Kayah_Li
a92e:Common a92f:Kayah_Li a930:Rejang a954:Unknown a95f:Rejang a960:Hangul a97d:Unknown
a980:Javanese a9ce:Unknown a9cf:Common a9d0:Javanese a9da:Unknown a9de:Javanese a9e0:Myanmar
a9ff:Unknown aa00:Cham aa37:Unknown aa40:Cham aa4e:Unknown aa50:Cham aa5a:Unknown aa5c:Cham
aa60:Myanmar aa80:Tai_Viet aac3:Unknown aadb:Tai_Viet aae0:Meetei_Mayek aaf7:Unknown
ab01:Ethiopic ab07:Unknown ab09:Ethiopic ab0f:Unknown ab11:Ethiopic ab17:Unknown ab20:Ethiopic
ab27:Unknown ab28:Ethiopic ab2f:Unknown ab30:Latin ab5b:Common ab5c:Latin ab65:Greek ab66:Latin
ab6a:Common ab6c:Unknown ab70:Cherokee abc0:Meetei_Mayek abee:Unknown abf0:Meetei_Mayek
abfa:Unknown ac00:Hangul d7a4:Unknown d7b0:Hangul d7c7:Unknown d7cb:Hangul d7fc:Unknown f900:Han
fa6e:Unknown fa70:Han fada:Unknown fb00:Latin fb07:Unknown fb13:Armenian fb18:Unknown
fb1d:Hebrew fb37:Unknown fb38:Hebrew fb3d:Unknown fb3e:Hebrew fb3f:Unknown fb40:Hebrew
fb42:Unknown fb43:Hebrew fb45:Unknown fb46:Hebrew fb50:Arabic fd3e:Common fd40:Arabic
fdd0:Unknown fdf0:Arabic fe00:Inherited fe10:Common fe1a:Unknown fe20:Inherited fe2e:Cyrillic
fe30:Common fe53:Unknown fe54:Common fe67:Unknown fe68:Common fe6c:Unknown fe70:Arabic
fe75:Unknown fe76:Arabic fefd:Unknown feff:Common ff00:Unknown ff01:Common ff21:Latin
ff3b:Common ff41:Latin ff5b:Common ff66:Katakana ff70:Common ff71:Katakana ff9e:Common
ffa0:Hangul ffbf:Unknown ffc2:Hangul ffc8:Unknown ffca:Hangul ffd0:Unknown ffd2:Hangul
ffd8:Unknown ffda:Hangul ffdd:Unknown ffe0:Common ffe7:Unknown ffe8:Common ffef:Unknown
fff9:Common fffe:Unknown 10000:Linear_B 1000c:Unknown 1000d:Linear_B 10027:Unknown
10028:Linear_B 1003b:Unknown 1003c:Linear_B 1003e:Unknown 1003f:Linear_B 1004e:Unknown
10050:Linear_B 1005e:Unknown 10080:Linear_B 100fb:Unknown 10100:Common 10103:Unknown
10107:Common 10134:Unknown 10137:Common 10140:Greek 1018f:Unknown 10190:Common 1019d:Unknown
101a0:Greek 101a1:Unknown 101d0:Common 101fd:Inherited 101fe:Unknown 10280:Lycian 1029d:Unknown
102a0:Carian 102d1:Unknown 102e0:Inherited 102e1:Common 102fc:Unknown 10300:Old_Italic
10324:Unknown 1032d:Old_Italic 10330:Gothic 1034b:Unknown 10350:Old_Permic 1037b:Unknown
10380:Ugaritic 1039e:Unknown 1039f:Ugaritic 103a0:Old_Persian 103c4:Unknown 103c8:Old_Persian
103d6:Unknown 10400:Deseret 10450:Shavian 10480:Osmanya 1049e:Unknown 104a0:Osmanya
104aa:Unknown 104b0:Osage 104d4:Unknown 104d8:Osage 104fc:Unknown 10500:Elbasan 10528:Unknown
10530:Caucasian_Albanian 10564:Unknown 1056f:Caucasian_Albanian 10570:Vithkuqi 1057b:Unknown
1057c:Vithkuqi 1058b:Unknown 1058c:Vithkuqi 10593:Unknown 10594:Vithkuqi 10596:Unknown
10597:Vithkuqi 105a2:Unknown 105a3:Vithkuqi 105b2:Unknown 105b3:Vithkuqi 105ba:Unknown
105bb:Vithkuqi 105bd:Unknown 105c0:Todhri 105f4:Unknown 10600:Linear_A 10737:Unknown
10740:Linear_A 10756:Unknown 10760:Linear_A 10768:Unknown 10780:Latin 10786:Unknown 10787:Latin
107b1:Unknown 107b2:Latin 107bb:Unknown 10800:Cypriot 10806:Unknown 10808:Cypriot 10809:Unknown
1080a:Cypriot 10836:Unknown 10837:Cypriot 10839:Unknown 1083c:Cypriot 1083d:Unknown
1083f:Cypriot 10840:Imperial_Aramaic 10856:Unknown 10857:Imperial_Aramaic 10860:Palmyrene
10880:Nabataean 1089f:Unknown 108a7:Nabataean 108b0:Unknown 108e0:Hatran 108f3:Unknown
108f4:Hatran 108f6:Unknown 108fb:Hatran 10900:Phoenician 1091c:Unknown 1091f:Phoenician
10920:Lydian 1093a:Unknown 1093f:Lydian 10940:Sidetic 1095a:Unknown 10980:Meroitic_Hieroglyphs
109a0:Meroitic_Cursive 109b8:Unknown 109bc:Meroitic_Cursive 109d0:Unknown 109d2:Meroitic_Cursive
10a00:Kharoshthi 10a04:Unknown 10a05:Kharoshthi 10a07:Unknown 10a0c:Kharoshthi 10a14:Unknown
10a15:Kharoshthi 10a18:Unknown 10a19:Kharoshthi 10a36:Unknown 10a38:Kharoshthi 10a3b:Unknown
10a3f:Kharoshthi 10a49:Unknown 10a50:Kharoshthi 10a59:Unknown 10a60:Old_South_Arabian
10a80:Old_North_Arabian 10aa0:Unknown 10ac0:Manichaean 10ae7:Unknown 10aeb:Manichaean
10af7:Unknown 10b00:Avestan 10b36:Unknown 10b39:Avestan 10b40:Inscriptional_Parthian
10b56:Unknown 10b58:Inscriptional_Parthian 10b60:Inscriptional_Pahlavi 10b73:Unknown
10b78:Inscriptional_Pahlavi 10b80:Psalter_Pahlavi 10b92:Unknown 10b99:Psalter_Pahlavi
10b9d:Unknown 10ba9:Psalter_Pahlavi 10bb0:Unknown 10c00:Old_Turkic 10c49:Unknown
10c80:Old_Hungarian 10cb3:Unknown 10cc0:Old_Hungarian 10cf3:Unknown 10cfa:Old_Hungarian
10d00:Hanifi_Rohingya 10d28:Unknown 10d30:Hanifi_Rohingya 10d3a:Unknown 10d40:Garay
10d66:Unknown 10d69:Garay 10d86:Unknown 10d8e:Garay 10d90:Unknown 10e60:Arabic 10e7f:Unknown
10e80:Yezidi 10eaa:Unknown 10eab:Yezidi 10eae:Unknown 10eb0:Yezidi 10eb2:Unknown 10ec2:Arabic
10ec8:Unknown 10ed0:Arabic 10ed9:Unknown 10efa:Arabic 10f00:Old_Sogdian 10f28:Unknown
10f30:Sogdian 10f5a:Unknown 10f70:Old_Uyghur 10f8a:Unknown 10fb0:Chorasmian 10fcc:Unknown
10fe0:Elymaic 10ff7:Unknown 11000:Brahmi 1104e:Unknown 11052:Brahmi 11076:Unknown 1107f:Brahmi
11080:Kaithi 110c3:Unknown 110cd:Kaithi 110ce:Unknown 110d0:Sora_Sompeng 110e9:Unknown
110f0:Sora_Sompeng 110fa:Unknown 11100:Chakma 11135:Unknown 11136:Chakma 11148:Unknown
11150:Mahajani 11177:Unknown 11180:Sharada 111e0:Unknown 111e1:Sinhala 111f5:Unknown
11200:Khojki 11212:Unknown 11213:Khojki 11242:Unknown 11280:Multani 11287:Unknown 11288:Multani
11289:Unknown 1128a:Multani 1128e:Unknown 1128f:Multani 1129e:Unknown 1129f:Multani
112aa:Unknown 112b0:Khudawadi 112eb:Unknown 112f0:Khudawadi 112fa:Unknown 11300:Grantha
11304:Unknown 11305:Grantha 1130d:Unknown 1130f:Grantha 11311:Unknown 11313:Grantha
11329:Unknown 1132a:Grantha 11331:Unknown 11332:Grantha 11334:Unknown 11335:Grantha
1133a:Unknown 1133b:Inherited 1133c:Grantha 11345:Unknown 11347:Grantha 11349:Unknown
1134b:Grantha 1134e:Unknown 11350:Grantha 11351:Unknown 11357:Grantha 11358:Unknown
1135d:Grantha 11364:Unknown 11366:Grantha 1136d:Unknown 11370:Grantha 11375:Unknown
11380:Tulu_Tigalari 1138a:Unknown 1138b:Tulu_Tigalari 1138c:Unknown 1138e:Tulu_Tigalari
1138f:Unknown 11390:Tulu_Tigalari 113b6:Unknown 113b7:Tulu_Tigalari 113c1:Unknown
113c2:Tulu_Tigalari 113c3:Unknown 113c5:Tulu_Tigalari 113c6:Unknown 113c7:Tulu_Tigalari
113cb:Unknown 113cc:Tulu_Tigalari 113d6:Unknown 113d7:Tulu_Tigalari 113d9:Unknown
113e1:Tulu_Tigalari 113e3:Unknown 11400:Newa 1145c:Unknown 1145d:Newa 11462:Unknown
11480:Tirhuta 114c8:Unknown 114d0:Tirhuta 114da:Unknown 11580:Siddham 115b6:Unknown
115b8:Siddham 115de:Unknown 11600:Modi 11645:Unknown 11650:Modi 1165a:Unknown 11660:Mongolian
1166d:Unknown 11680:Takri 116ba:Unknown 116c0:Takri 116ca:Unknown 116d0:Myanmar 116e4:Unknown
11700:Ahom 1171b:Unknown 1171d:Ahom 1172c:Unknown 11730:Ahom 11747:Unknown 11800:Dogra
1183c:Unknown 118a0:Warang_Citi 118f3:Unknown 118ff:Warang_Citi 11900:Dives_Akuru 11907:Unknown
11909:Dives_Akuru 1190a:Unknown 1190c:Dives_Akuru 11914:Unknown 11915:Dives_Akuru 11917:Unknown
11918:Dives_Akuru 11936:Unknown 11937:Dives_Akuru 11939:Unknown 1193b:Dives_Akuru 11947:Unknown
11950:Dives_Akuru 1195a:Unknown 119a0:Nandinagari 119a8:Unknown 119aa:Nandinagari 119d8:Unknown
119da:Nandinagari 119e5:Unknown 11a00:Zanabazar_Square 11a48:Unknown 11a50:Soyombo 11aa3:Unknown
11ab0:Canadian_Aboriginal 11ac0:Pau_Cin_Hau 11af9:Unknown 11b00:Devanagari 11b0a:Unknown
11b60:Sharada 11b68:Unknown 11bc0:Sunuwar 11be2:Unknown 11bf0:Sunuwar 11bfa:Unknown
11c00:Bhaiksuki 11c09:Unknown 11c0a:Bhaiksuki 11c37:Unknown 11c38:Bhaiksuki 11c46:Unknown
11c50:Bhaiksuki 11c6d:Unknown 11c70:Marchen 11c90:Unknown 11c92:Marchen 11ca8:Unknown
11ca9:Marchen 11cb7:Unknown 11d00:Masaram_Gondi 11d07:Unknown 11d08:Masaram_Gondi 11d0a:Unknown
11d0b:Masaram_Gondi 11d37:Unknown 11d3a:Masaram_Gondi 11d3b:Unknown 11d3c:Masaram_Gondi
11d3e:Unknown 11d3f:Masaram_Gondi 11d48:Unknown 11d50:Masaram_Gondi 11d5a:Unknown
11d60:Gunjala_Gondi 11d66:Unknown 11d67:Gunjala_Gondi 11d69:Unknown 11d6a:Gunjala_Gondi
11d8f:Unknown 11d90:Gunjala_Gondi 11d92:Unknown 11d93:Gunjala_Gondi 11d99:Unknown
11da0:Gunjala_Gondi 11daa:Unknown 11db0:Tolong_Siki 11ddc:Unknown 11de0:Tolong_Siki
11dea:Unknown 11ee0:Makasar 11ef9:Unknown 11f00:Kawi 11f11:Unknown 11f12:Kawi 11f3b:Unknown
11f3e:Kawi 11f5b:Unknown 11fb0:Lisu 11fb1:Unknown 11fc0:Tamil 11ff2:Unknown 11fff:Tamil
12000:Cuneiform 1239a:Unknown 12400:Cuneiform 1246f:Unknown 12470:Cuneiform 12475:Unknown
12480:Cuneiform 12544:Unknown 12f90:Cypro_Minoan 12ff3:Unknown 13000:Egyptian_Hieroglyphs
13456:Unknown 13460:Egyptian_Hieroglyphs 143fb:Unknown 14400:Anatolian_Hieroglyphs 14647:Unknown
16100:Gurung_Khema 1613a:Unknown 16800:Bamum 16a39:Unknown 16a40:Mro 16a5f:Unknown 16a60:Mro
16a6a:Unknown 16a6e:Mro 16a70:Tangsa 16abf:Unknown 16ac0:Tangsa 16aca:Unknown 16ad0:Bassa_Vah
16aee:Unknown 16af0:Bassa_Vah 16af6:Unknown 16b00:Pahawh_Hmong 16b46:Unknown 16b50:Pahawh_Hmong
16b5a:Unknown 16b5b:Pahawh_Hmong 16b62:Unknown 16b63:Pahawh_Hmong 16b78:Unknown
16b7d:Pahawh_Hmong 16b90:Unknown 16d40:Kirat_Rai 16d7a:Unknown 16e40:Medefaidrin 16e9b:Unknown
16ea0:Beria_Erfe 16eb9:Unknown 16ebb:Beria_Erfe 16ed4:Unknown 16f00:Miao 16f4b:Unknown
16f4f:Miao 16f88:Unknown 16f8f:Miao 16fa0:Unknown 16fe0:Tangut 16fe1:Nushu 16fe2:Han
16fe4:Khitan_Small_Script 16fe5:Unknown 16ff0:Han 16ff7:Unknown 17000:Tangut
18b00:Khitan_Small_Script 18cd6:Unknown 18cff:Khitan_Small_Script 18d00:Tangut 18d1f:Unknown
18d80:Tangut 18df3:Unknown 1aff0:Katakana 1aff4:Unknown 1aff5:Katakana 1affc:Unknown
1affd:Katakana 1afff:Unknown 1b000:Katakana 1b001:Hiragana 1b120:Katakana 1b123:Unknown
1b132:Hiragana 1b133:Unknown 1b150:Hiragana 1b153:Unknown 1b155:Katakana 1b156:Unknown
1b164:Katakana 1b168:Unknown 1b170:Nushu 1b2fc:Unknown 1bc00:Duployan 1bc6b:Unknown
1bc70:Duployan 1bc7d:Unknown 1bc80:Duployan 1bc89:Unknown 1bc90:Duployan 1bc9a:Unknown
1bc9c:Duployan 1bca0:Common 1bca4:Unknown 1cc00:Common 1ccfd:Unknown 1cd00:Common 1ceb4:Unknown
1ceba:Common 1ced1:Unknown 1cee0:Common 1cef1:Unknown 1cf00:Inherited 1cf2e:Unknown
1cf30:Inherited 1cf47:Unknown 1cf50:Common 1cfc4:Unknown 1d000:Common 1d0f6:Unknown 1d100:Common
1d127:Unknown 1d129:Common 1d167:Inherited 1d16a:Common 1d17b:Inherited 1d183:Common
1d185:Inherited 1d18c:Common 1d1aa:Inherited 1d1ae:Common 1d1eb:Unknown 1d200:Greek
1d246:Unknown 1d2c0:Common 1d2d4:Unknown 1d2e0:Common 1d2f4:Unknown 1d300:Common 1d357:Unknown
1d360:Common 1d379:Unknown 1d400:Common 1d455:Unknown 1d456:Common 1d49d:Unknown 1d49e:Common
1d4a0:Unknown 1d4a2:Common 1d4a3:Unknown 1d4a5:Common 1d4a7:Unknown 1d4a9:Common 1d4ad:Unknown
1d4ae:Common 1d4ba:Unknown 1d4bb:Common 1d4bc:Unknown 1d4bd:Common 1d4c4:Unknown 1d4c5:Common
1d506:Unknown 1d507:Common 1d50b:Unknown 1d50d:Common 1d515:Unknown 1d516:Common 1d51d:Unknown
1d51e:Common 1d53a:Unknown 1d53b:Common 1d53f:Unknown 1d540:Common 1d545:Unknown 1d546:Common
1d547:Unknown 1d54a:Common 1d551:Unknown 1d552:Common 1d6a6:Unknown 1d6a8:Common 1d7cc:Unknown
1d7ce:Common 1d800:SignWriting 1da8c:Unknown 1da9b:SignWriting 1daa0:Unknown 1daa1:SignWriting
1dab0:Unknown 1df00:Latin 1df1f:Unknown 1df25:Latin 1df2b:Unknown 1e000:Glagolitic 1e007:Unknown
1e008:Glagolitic 1e019:Unknown 1e01b:Glagolitic 1e022:Unknown 1e023:Glagolitic 1e025:Unknown
1e026:Glagolitic 1e02b:Unknown 1e030:Cyrillic 1e06e:Unknown 1e08f:Cyrillic 1e090:Unknown
1e100:Nyiakeng_Puachue_Hmong 1e12d:Unknown 1e130:Nyiakeng_Puachue_Hmong 1e13e:Unknown
1e140:Nyiakeng_Puachue_Hmong 1e14a:Unknown 1e14e:Nyiakeng_Puachue_Hmong 1e150:Unknown 1e290:Toto
1e2af:Unknown 1e2c0:Wancho 1e2fa:Unknown 1e2ff:Wancho 1e300:Unknown 1e4d0:Nag_Mundari
1e4fa:Unknown 1e5d0:Ol_Onal 1e5fb:Unknown 1e5ff:Ol_Onal 1e600:Unknown 1e6c0:Tai_Yo 1e6df:Unknown
1e6e0:Tai_Yo 1e6f6:Unknown 1e6fe:Tai_Yo 1e700:Unknown 1e7e0:Ethiopic 1e7e7:Unknown
1e7e8:Ethiopic 1e7ec:Unknown 1e7ed:Ethiopic 1e7ef:Unknown 1e7f0:Ethiopic 1e7ff:Unknown
1e800:Mende_Kikakui 1e8c5:Unknown 1e8c7:Mende_Kikakui 1e8d7:Unknown 1e900:Adlam 1e94c:Unknown
1e950:Adlam 1e95a:Unknown 1e95e:Adlam 1e960:Unknown 1ec71:Common 1ecb5:Unknown 1ed01:Common
1ed3e:Unknown 1ee00:Arabic 1ee04:Unknown 1ee05:Arabic 1ee20:Unknown 1ee21:Arabic 1ee23:Unknown
1ee24:Arabic 1ee25:Unknown 1ee27:Arabic 1ee28:Unknown 1ee29:Arabic 1ee33:Unknown 1ee34:Arabic
1ee38:Unknown 1ee39:Arabic 1ee3a:Unknown 1ee3b:Arabic 1ee3c:Unknown 1ee42:Arabic 1ee43:Unknown
1ee47:Arabic 1ee48:Unknown 1ee49:Arabic 1ee4a:Unknown 1ee4b:Arabic 1ee4c:Unknown 1ee4d:Arabic
1ee50:Unknown 1ee51:Arabic 1ee53:Unknown 1ee54:Arabic 1ee55:Unknown 1ee57:Arabic 1ee58:Unknown
1ee59:Arabic 1ee5a:Unknown 1ee5b:Arabic 1ee5c:Unknown 1ee5d:Arabic 1ee5e:Unknown 1ee5f:Arabic
1ee60:Unknown 1ee61:Arabic 1ee63:Unknown 1ee64:Arabic 1ee65:Unknown 1ee67:Arabic 1ee6b:Unknown
1ee6c:Arabic 1ee73:Unknown 1ee74:Arabic 1ee78:Unknown 1ee79:Arabic 1ee7d:Unknown 1ee7e:Arabic
1ee7f:Unknown 1ee80:Arabic 1ee8a:Unknown 1ee8b:Arabic 1ee9c:Unknown 1eea1:Arabic 1eea4:Unknown
1eea5:Arabic 1eeaa:Unknown 1eeab:Arabic 1eebc:Unknown 1eef0:Arabic 1eef2:Unknown 1f000:Common
1f02c:Unknown 1f030:Common 1f094:Unknown 1f0a0:Common 1f0af:Unknown 1f0b1:Common 1f0c0:Unknown
1f0c1:Common 1f0d0:Unknown 1f0d1:Common 1f0f6:Unknown 1f100:Common 1f1ae:Unknown 1f1e6:Common
1f200:Hiragana 1f201:Common 1f203:Unknown 1f210:Common 1f23c:Unknown 1f240:Common 1f249:Unknown
1f250:Common 1f252:Unknown 1f260:Common 1f266:Unknown 1f300:Common 1f6d9:Unknown 1f6dc:Common
1f6ed:Unknown 1f6f0:Common 1f6fd:Unknown 1f700:Common 1f7da:Unknown 1f7e0:Common 1f7ec:Unknown
1f7f0:Common 1f7f1:Unknown 1f800:Common 1f80c:Unknown 1f810:Common 1f848:Unknown 1f850:Common
1f85a:Unknown 1f860:Common 1f888:Unknown 1f890:Common 1f8ae:Unknown 1f8b0:Common 1f8bc:Unknown
1f8c0:Common 1f8c2:Unknown 1f8d0:Common 1f8d9:Unknown 1f900:Common 1fa58:Unknown 1fa60:Common
1fa6e:Unknown 1fa70:Common 1fa7d:Unknown 1fa80:Common 1fa8b:Unknown 1fa8e:Common 1fac7:Unknown
1fac8:Common 1fac9:Unknown 1facd:Common 1fadd:Unknown 1fadf:Common 1faeb:Unknown 1faef:Common
1faf9:Unknown 1fb00:Common 1fb93:Unknown 1fb94:Common 1fbfb:Unknown 20000:Han 2a6e0:Unknown
2a700:Han 2b81e:Unknown 2b820:Han 2ceae:Unknown 2ceb0:Han 2ebe1:Unknown 2ebf0:Han 2ee5e:Unknown
2f800:Han 2fa1e:Unknown 30000:Han 3134b:Unknown 31350:Han 3347a:Unknown e0001:Common
e0002:Unknown e0020:Common e0080:Unknown e0100:Inherited e01f0:Unknown 110000:Unknown"

/-- The script of a code point; `Unknown` when it has none. -/
def of (code : Nat) : String := Run.labelAt runs code

def names : List String := words "
Adlam Ahom Anatolian_Hieroglyphs Arabic Armenian Avestan Balinese Bamum Bassa_Vah Batak Bengali
Beria_Erfe Bhaiksuki Bopomofo Brahmi Braille Buginese Buhid Canadian_Aboriginal Carian
Caucasian_Albanian Chakma Cham Cherokee Chorasmian Common Coptic Cuneiform Cypriot Cypro_Minoan
Cyrillic Deseret Devanagari Dives_Akuru Dogra Duployan Egyptian_Hieroglyphs Elbasan Elymaic
Ethiopic Garay Georgian Glagolitic Gothic Grantha Greek Gujarati Gunjala_Gondi Gurmukhi
Gurung_Khema Han Hangul Hanifi_Rohingya Hanunoo Hatran Hebrew Hiragana Imperial_Aramaic
Inherited Inscriptional_Pahlavi Inscriptional_Parthian Javanese Kaithi Kannada Katakana Kawi
Kayah_Li Kharoshthi Khitan_Small_Script Khmer Khojki Khudawadi Kirat_Rai Lao Latin Lepcha Limbu
Linear_A Linear_B Lisu Lycian Lydian Mahajani Makasar Malayalam Mandaic Manichaean Marchen
Masaram_Gondi Medefaidrin Meetei_Mayek Mende_Kikakui Meroitic_Cursive Meroitic_Hieroglyphs Miao
Modi Mongolian Mro Multani Myanmar Nabataean Nag_Mundari Nandinagari New_Tai_Lue Newa Nko Nushu
Nyiakeng_Puachue_Hmong Ogham Ol_Chiki Ol_Onal Old_Hungarian Old_Italic Old_North_Arabian
Old_Permic Old_Persian Old_Sogdian Old_South_Arabian Old_Turkic Old_Uyghur Oriya Osage Osmanya
Pahawh_Hmong Palmyrene Pau_Cin_Hau Phags_Pa Phoenician Psalter_Pahlavi Rejang Runic Samaritan
Saurashtra Sharada Shavian Siddham Sidetic SignWriting Sinhala Sogdian Sora_Sompeng Soyombo
Sundanese Sunuwar Syloti_Nagri Syriac Tagalog Tagbanwa Tai_Le Tai_Tham Tai_Viet Tai_Yo Takri
Tamil Tangsa Tangut Telugu Thaana Thai Tibetan Tifinagh Tirhuta Todhri Tolong_Siki Toto
Tulu_Tigalari Ugaritic Vai Vithkuqi Wancho Warang_Citi Yezidi Yi Zanabazar_Square"

end Tabulation.Text.Script
