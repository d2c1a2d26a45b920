import SeriesReplica.Unicode.Runs

/-!
Properties of characters that the standard gives as lists, by its version 15.
-/
namespace SeriesReplica.Unicode.Listed

/-- Controls of the direction of text. -/
def bidiControl : CharSet :=
  ⟨[(0x61C, 0x61C), (0x200E, 0x200F), (0x202A, 0x202E), (0x2066, 0x2069)]⟩

/-- Mirrored in text from right to left, brackets and quotes apart. -/
def otherMirrored : CharSet := Run.readRanges
  "60 62 8512 8705-8708 8712-8717 8721 8725-8726 8730-8733 8735-8738 8740 8742 8747-8755 8761
  8763-8780 8786-8789 8799-8800 8802 8804-8811 8814-8844 8847-8850 8856 8866-8867 8870-8888
  8894-8895 8905-8909 8912-8913 8918-8941 8944-8959 8992-8993 10176 10179-10180 10184-10185
  10187-10189 10195-10198 10204-10206 10210-10213 10651-10656 10658-10671 10680 10688-10693 10697
  10702-10706 10708-10709 10716 10721 10723-10725 10728-10729 10740-10745 10762-10780 10782-10785
  10788 10790 10793 10795-10798 10804-10805 10812-10814 10839-10840 10852-10853 10858-10861
  10863-10864 10867-10868 10873-10915 10918-10925 10927-10966 10972 10974 10978-10982 10988-10990
  10995 10999-11003 11005 11262 65124-65125 65308 65310 120539 120597 120655 120713 120771"

/-- Brackets and quotes that are not mirrored. -/
def unmirrored : CharSet :=
  ⟨[(0x2018, 0x201F), (0x2E42, 0x2E42), (0x301D, 0x301F), (0xFD3E, 0xFD3F), (0xFE17, 0xFE18),
    (0xFE35, 0xFE44), (0xFE47, 0xFE48)]⟩

/-- Marks inside words that case rules pass over. -/
def insideWord : CharSet := Run.readRanges
  "39 46 58 183 903 1375 1524 8216-8217 8228 8231 65043 65106 65109 65287 65294 65306"

/-- Dashes that are not dash punctuation. -/
def otherDash : CharSet :=
  ⟨[(0x2053, 0x2053), (0x207B, 0x207B), (0x208B, 0x208B), (0x2212, 0x2212)]⟩

/-- Ignored where they cannot be displayed, variation selectors apart. -/
def otherDefaultIgnorable : CharSet := Run.readRanges
  "173 847 1564 4447-4448 6068-6069 6158 8203-8207 8234-8238 8288-8303 12644 65279 65440
  65520-65528 113824-113827 119155-119162 917504-917759 918000-921599"

def deprecated : CharSet :=
  ⟨[(0x149, 0x149), (0x673, 0x673), (0xF77, 0xF77), (0xF79, 0xF79), (0x17A3, 0x17A4),
    (0x206A, 0x206F), (0x2329, 0x232A), (0xE0001, 0xE0001)]⟩

def diacritic : CharSet := Run.readRanges
  "94 96 168 175 180 183-184 688-846 848-855 861-866 884-885 890 900-901 1155-1159 1369 1425-1441
  1443-1469 1471 1473-1474 1476 1611-1618 1623-1624 1759-1760 1765-1766 1770-1772 1840-1866
  1958-1968 2027-2037 2072-2073 2200-2207 2249-2258 2275-2302 2364 2381 2385-2388 2417 2492 2509
  2620 2637 2748 2765 2813-2815 2876 2893 2901 3021 3132 3149 3260 3277 3387-3388 3405 3530
  3655-3660 3662 3770 3784-3788 3864-3865 3893 3895 3897 3902-3903 3970-3972 3974-3975 4038 4151
  4153-4154 4195-4196 4201-4205 4231-4237 4239 4250-4251 4957-4959 5908-5909 6089-6099 6109
  6457-6459 6773-6780 6783 6832-6846 6849-6859 6964 6980 7019-7027 7082-7083 7222-7223 7288-7293
  7376-7400 7405 7412 7415-7417 7468-7530 7620-7631 7669-7679 8125 8127-8129 8141-8143 8157-8159
  8173-8175 8189-8190 11503-11505 11823 12330-12335 12441-12444 12540 42607 42620-42621 42623
  42652-42653 42736-42737 42752-42785 42888-42890 43000-43001 43204 43232-43249 43307-43310 43347
  43443 43456 43493 43643-43645 43711-43714 43766 43867-43871 43881-43883 44012-44013 64286
  65056-65071 65342 65344 65392 65438-65439 65507 66272 67456-67461 67463-67504 67506-67514
  68325-68326 68898-68903 69373-69375 69446-69456 69506-69509 69702 69744 69817-69818 69939-69940
  70003 70080 70090-70092 70197-70198 70377-70378 70460 70477 70502-70508 70512-70516 70722 70726
  70850-70851 71103-71104 71231 71350-71351 71467 71737-71738 71997-71998 72003 72160 72244 72263
  72345 72767 73026 73028-73029 73111 78919-78933 92912-92916 92976-92982 94095-94111 94192-94193
  110576-110579 110581-110587 110589-110590 118528-118573 118576-118598 119143-119145
  119149-119154 119163-119170 119173-119179 119210-119213 122928-122989 123184-123190 123566
  123628-123631 125136-125142 125252-125254 125256-125258"

def emoji : CharSet := Run.readRanges
  "35 42 48-57 169 174 8252 8265 8482 8505 8596-8601 8617-8618 8986-8987 9000 9167 9193-9203
  9208-9210 9410 9642-9643 9654 9664 9723-9726 9728-9732 9742 9745 9748-9749 9752 9757 9760
  9762-9763 9766 9770 9774-9775 9784-9786 9792 9794 9800-9811 9823-9824 9827 9829-9830 9832 9851
  9854-9855 9874-9879 9881 9883-9884 9888-9889 9895 9898-9899 9904-9905 9917-9918 9924-9925 9928
  9934-9935 9937 9939-9940 9961-9962 9968-9973 9975-9978 9981 9986 9989 9992-9997 9999 10002 10004
  10006 10013 10017 10024 10035-10036 10052 10055 10060 10062 10067-10069 10071 10083-10084
  10133-10135 10145 10160 10175 10548-10549 11013-11015 11035-11036 11088 11093 12336 12349 12951
  12953 126980 127183 127344-127345 127358-127359 127374 127377-127386 127462-127487 127489-127490
  127514 127535 127538-127546 127568-127569 127744-127777 127780-127891 127894-127895
  127897-127899 127902-127984 127987-127989 127991-128253 128255-128317 128329-128334
  128336-128359 128367-128368 128371-128378 128391 128394-128397 128400 128405-128406
  128420-128421 128424 128433-128434 128444 128450-128452 128465-128467 128476-128478 128481
  128483 128488 128495 128499 128506-128591 128640-128709 128715-128722 128725-128727
  128732-128741 128745 128747-128748 128752 128755-128764 128992-129003 129008 129292-129338
  129340-129349 129351-129535 129648-129660 129664-129672 129680-129725 129727-129733
  129742-129755 129760-129768 129776-129784"

def emojiComponent : CharSet := Run.readRanges
  "35 42 48-57 8205 8419 65039 127462-127487 127995-127999 129456-129459 917536-917631"

def emojiModifier : CharSet :=
  ⟨[(0x1F3FB, 0x1F3FF)]⟩

def emojiModifierBase : CharSet := Run.readRanges
  "9757 9977 9994-9997 127877 127938-127940 127943 127946-127948 128066-128067 128070-128080
  128102-128120 128124 128129-128131 128133-128135 128143 128145 128170 128372-128373 128378
  128400 128405-128406 128581-128583 128587-128591 128675 128692-128694 128704 128716 129292
  129295 129304-129311 129318 129328-129337 129340-129342 129399 129461-129462 129464-129465
  129467 129485-129487 129489-129501 129731-129733 129776-129784"

/-- Emoji that are displayed as text unless asked otherwise. -/
def textEmoji : CharSet := Run.readRanges
  "35 42 48-57 169 174 8252 8265 8482 8505 8596-8601 8617-8618 9000 9167 9197-9199 9201-9202
  9208-9210 9410 9642-9643 9654 9664 9723-9724 9728-9732 9742 9745 9752 9757 9760 9762-9763 9766
  9770 9774-9775 9784-9786 9792 9794 9823-9824 9827 9829-9830 9832 9851 9854 9874 9876-9879 9881
  9883-9884 9888 9895 9904-9905 9928 9935 9937 9939 9961 9968-9969 9972 9975-9977 9986 9992-9993
  9996-9997 9999 10002 10004 10006 10013 10017 10035-10036 10052 10055 10083-10084 10145
  10548-10549 11013-11015 12336 12349 12951 12953 127344-127345 127358-127359 127490 127543 127777
  127780-127788 127798 127869 127894-127895 127897-127899 127902-127903 127947-127950
  127956-127967 127987 127989 127991 128063 128065 128253 128329-128330 128367-128368
  128371-128377 128391 128394-128397 128400 128421 128424 128433-128434 128444 128450-128452
  128465-128467 128476-128478 128481 128483 128488 128495 128499 128506 128715 128717-128719
  128736-128741 128745 128752 128755"

def extendedPictographic : CharSet := Run.readRanges
  "169 174 8252 8265 8482 8505 8596-8601 8617-8618 8986-8987 9000 9096 9167 9193-9203 9208-9210
  9410 9642-9643 9654 9664 9723-9726 9728-9733 9735-9746 9748-9861 9872-9989 9992-10002 10004
  10006 10013 10017 10024 10035-10036 10052 10055 10060 10062 10067-10069 10071 10083-10087
  10133-10135 10145 10160 10175 10548-10549 11013-11015 11035-11036 11088 11093 12336 12349 12951
  12953 126976-127231 127245-127247 127279 127340-127345 127358-127359 127374 127377-127386
  127405-127461 127489-127503 127514 127535 127538-127546 127548-127551 127561-127994
  128000-128317 128326-128591 128640-128767 128884-128895 128981-129023 129036-129039
  129096-129103 129114-129119 129160-129167 129198-129279 129292-129338 129340-129349
  129351-129791 130048-131069"

def extender : CharSet := Run.readRanges
  "183 720-721 1600 2042 2901 3654 3782 6154 6211 6823 7222 7291 12293 12337-12341 12445-12446
  12540-12542 40981 42508 43471 43494 43632 43741 43763-43764 65392 67457-67458 70493 71110-71112
  72344 92994-92995 94176-94177 94179 123196-123197 125252-125254"

/-- Extending the character before, marks apart. -/
def otherGraphemeExtend : CharSet := Run.readRanges
  "2494 2519 2878 2903 3006 3031 3266 3285-3286 3390 3415 3535 3551 6965 8204 12334-12335
  65438-65439 70462 70487 70832 70845 71087 71984 119141 119150-119154 917536-917631"

def hexDigit : CharSet :=
  ⟨[(0x30, 0x39), (0x41, 0x46), (0x61, 0x66), (0xFF10, 0xFF19), (0xFF21, 0xFF26),
    (0xFF41, 0xFF46)]⟩

def idsBinaryOperator : CharSet :=
  ⟨[(0x2FF0, 0x2FF1), (0x2FF4, 0x2FFB)]⟩

def idsTrinaryOperator : CharSet :=
  ⟨[(0x2FF2, 0x2FF3)]⟩

/-- Starting identifiers, letters and letter numbers apart. -/
def otherIdStart : CharSet :=
  ⟨[(0x1885, 0x1886), (0x2118, 0x2118), (0x212E, 0x212E), (0x309B, 0x309C)]⟩

/-- Letters that do not start identifiers. -/
def notIdStart : CharSet :=
  ⟨[(0x2E2F, 0x2E2F)]⟩

/-- Continuing identifiers, starts, marks, digits and connectors apart. -/
def otherIdContinue : CharSet :=
  ⟨[(0xB7, 0xB7), (0x387, 0x387), (0x1369, 0x1371), (0x19DA, 0x19DA)]⟩

/-- Continuing identifiers, but not once they are normalized. -/
def notXidContinue : CharSet := Run.readRanges
  "890 12443-12444 64606-64611 65018-65019 65136 65138 65140 65142 65144 65146 65148 65150"

/-- Starting identifiers, but only continuing them once they are normalized. -/
def onlyXidContinue : CharSet :=
  ⟨[(0xE33, 0xE33), (0xEB3, 0xEB3), (0xFF9E, 0xFF9F)]⟩

def unifiedIdeograph : CharSet := Run.readRanges
  "13312-19903 19968-40959 64014-64015 64017 64019-64020 64031 64033 64035-64036 64039-64041
  131072-173791 173824-177977 177984-178205 178208-183969 183984-191456 196608-201546
  201552-205743"

def otherIdeographic : CharSet := Run.readRanges
  "12294-12295 12321-12329 12344-12346 63744-64013 64016 64018 64021-64030 64032 64034 64037-64038
  64042-64109 64112-64217 94180 94208-100343 100352-101589 101632-101640 110960-111355
  194560-195101"

def logicalOrderException : CharSet :=
  ⟨[(0xE40, 0xE44), (0xEC0, 0xEC4), (0x19B5, 0x19B7), (0x19BA, 0x19BA), (0xAAB5, 0xAAB6),
    (0xAAB9, 0xAAB9), (0xAABB, 0xAABC)]⟩

/-- Of mathematics, its symbols apart. -/
def otherMath : CharSet := Run.readRanges
  "94 976-978 981 1008-1009 1012-1013 8214 8242-8244 8256 8289-8292 8317-8318 8333-8334 8400-8412
  8417 8421-8422 8427-8431 8450 8455 8458-8467 8469 8473-8477 8484 8488-8489 8492-8493 8495-8497
  8499-8504 8508-8511 8517-8521 8597-8601 8604-8607 8609-8610 8612-8613 8615 8617-8621 8624-8625
  8630-8631 8636-8653 8656-8657 8659 8661-8667 8669 8676-8677 8968-8971 9140-9141 9143 9168 9186
  9632-9633 9646-9654 9660-9664 9670-9671 9674-9675 9679-9683 9698 9700 9703-9708 9733-9734 9792
  9794 9824-9827 9837-9838 10181-10182 10214-10223 10627-10648 10712-10715 10748-10749 65121 65123
  65128 65340 65342 119808-119892 119894-119964 119966-119967 119970 119973-119974 119977-119980
  119982-119993 119995 119997-120003 120005-120069 120071-120074 120077-120084 120086-120092
  120094-120121 120123-120126 120128-120132 120134 120138-120144 120146-120485 120488-120512
  120514-120538 120540-120570 120572-120596 120598-120628 120630-120654 120656-120686
  120688-120712 120714-120744 120746-120770 120772-120779 120782-120831 126464-126467
  126469-126495 126497-126498 126500 126503 126505-126514 126516-126519 126521 126523 126530
  126535 126537 126539 126541-126543 126545-126546 126548 126551 126553 126555 126557 126559
  126561-126562 126564 126567-126570 126572-126578 126580-126583 126585-126588 126590
  126592-126601 126603-126619 126625-126627 126629-126633 126635-126651"

/-- Never used for characters. -/
def noncharacter : CharSet := Run.readRanges
  "64976-65007 65534-65535 131070-131071 196606-196607 262142-262143 327678-327679 393214-393215
  458750-458751 524286-524287 589822-589823 655358-655359 720894-720895 786430-786431
  851966-851967 917502-917503 983038-983039 1048574-1048575 1114110-1114111"

def patternSyntax : CharSet := Run.readRanges
  "33-47 58-64 91-94 96 123-126 161-167 169 171-172 174 176-177 182 187 191 215 247 8208-8231
  8240-8254 8257-8275 8277-8286 8592-9311 9472-10101 10132-11263 11776-11903 12289-12291
  12296-12320 12336 64830-64831 65093-65094"

def patternWhiteSpace : CharSet :=
  ⟨[(0x09, 0x0D), (0x20, 0x20), (0x85, 0x85), (0x200E, 0x200F), (0x2028, 0x2029)]⟩

def prependedMark : CharSet :=
  ⟨[(0x600, 0x605), (0x6DD, 0x6DD), (0x70F, 0x70F), (0x890, 0x891), (0x8E2, 0x8E2),
    (0x110BD, 0x110BD), (0x110CD, 0x110CD)]⟩

def quotationMark : CharSet := Run.readRanges
  "34 39 171 187 8216-8223 8249-8250 11842 12300-12303 12317-12319 65089-65092 65282 65287
  65378-65379"

def radical : CharSet :=
  ⟨[(0x2E80, 0x2E99), (0x2E9B, 0x2EF3), (0x2F00, 0x2FD5)]⟩

def regionalIndicator : CharSet :=
  ⟨[(0x1F1E6, 0x1F1FF)]⟩

def sentenceTerminal : CharSet := Run.readRanges
  "33 46 63 1417 1565-1567 1748 1792-1794 2041 2103 2105 2109-2110 2404-2405 4170-4171 4962
  4967-4968 5742 5941-5942 6147 6153 6468-6469 6824-6827 7002-7003 7006-7007 7037-7038 7227-7228
  7294-7295 8252-8253 8263-8265 11822 11836 11859-11860 12290 42239 42510-42511 42739 42743
  43126-43127 43214-43215 43311 43464-43465 43613-43615 43760-43761 44011 65106 65110-65111 65281
  65294 65311 65377 68182-68183 69461-69465 69510-69513 69703-69704 69822-69825 69953-69955
  70085-70086 70093 70110-70111 70200-70201 70203-70204 70313 70731-70732 71106-71107 71113-71127
  71233-71234 71484-71486 72004 72006 72258-72259 72347-72348 72769-72770 73463-73464 73539-73540
  92782-92783 92917 92983-92984 92996 93848 113823 121480"

def softDotted : CharSet := Run.readRanges
  "105-106 303 585 616 669 690 1011 1110 1112 7522 7574 7588 7592 7725 7883 8305 8520-8521 11388
  119842-119843 119894-119895 119946-119947 119998-119999 120050-120051 120102-120103
  120154-120155 120206-120207 120258-120259 120310-120311 120362-120363 120414-120415
  120466-120467 122650 122956-122957 122984"

/-- Ends of parts of text, ends of sentences apart. -/
def otherTerminal : CharSet := Run.readRanges
  "44 58-59 894 903 1475 1548 1563 1795-1802 1804 2040 2096-2102 2104 2106-2108 2142 3674-3675
  3848 3853-3858 4961 4963-4966 5867-5869 6100-6102 6106 6146 6148-6149 6152 7005 7229-7231 11841
  11852 11854-11855 12289 42238 42509 42740-42742 43463 43743 65104-65105 65108-65109 65292
  65306-65307 65380 66463 66512 67671 67871 68336-68341 68410-68415 68505-68508 69705-69709 70202
  70733 70746-70747 71108-71109 72353-72354 72771 72817 74864-74868 92985 93847 121479
  121481-121482"

def variationSelector : CharSet :=
  ⟨[(0x180B, 0x180D), (0x180F, 0x180F), (0xFE00, 0xFE0F), (0xE0100, 0xE01EF)]⟩

/-- Capital letters that fold to themselves. -/
def unfoldedCapitals : CharSet :=
  ⟨[(0x130, 0x130), (0x13A0, 0x13F5)]⟩

/-- Changed by full case folding only. -/
def otherFolded : CharSet := Run.readRanges
  "223 304 329 1415 7834 8064-8071 8080-8087 8096-8103 8114-8116 8119 8130-8132 8135 8178-8180
  8183 64256-64262 64275-64279"

/-- Changed by full upper case only. -/
def otherUppercased : CharSet := Run.readRanges
  "305 329 453 456 459 496 498 912 944 1415 7830-7834 8016 8018 8020 8022 8072-8079 8088-8095
  8104-8111 8114 8116 8118-8119 8124 8130 8132 8134-8135 8140 8146-8147 8150-8151 8162-8164
  8166-8167 8178 8180 8182-8183 8188 64256-64262 64275-64279"

/-- Upper case, but no title case. -/
def notTitlecased : CharSet := Run.readRanges
  "453 456 459 498 4304-4346 4349-4351 8072-8079 8088-8095 8104-8111 8124 8140 8188"

/-- Title case, but no upper case. -/
def onlyTitlecased : CharSet :=
  ⟨[(0x1C4, 0x1C4), (0x1C7, 0x1C7), (0x1CA, 0x1CA), (0x1F1, 0x1F1)]⟩

/-- Combining iota, which folds to itself once it is decomposed. -/
def decomposedFold : CharSet :=
  ⟨[(0x1FBE, 0x1FBE)]⟩

end SeriesReplica.Unicode.Listed
