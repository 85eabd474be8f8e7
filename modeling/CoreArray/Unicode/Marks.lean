import CoreArray.Unicode.Ranges
set_option autoImplicit false

/-!
# Marks and ideographs

Characters that change others or take the place of whole words, beyond what their
category says.
-/

namespace CoreArray.Unicode

/-! ## Marks -/

/-- The marks that change the sound of a letter. -/
def diacritics : Ranges := .ofLines
  [ "5E 60 A8 AF B4 B7-B8 2B0-34E 350-357 35D-362 374-375 37A 384-385 483-487 559 591-5BD"
  , "5BF 5C1-5C2 5C4-5C5 5C7 64B-652 657-658 6DF-6E0 6E5-6E6 6EA-6EC 730-74A 7A6-7B0"
  , "7EB-7F5 818-819 898-89F 8C9-8D2 8E3-8FE 93C 94D 951-954 971 9BC 9CD A3C A4D ABC ACD"
  , "AFD-AFF B3C B4D B55 BCD C3C C4D CBC CCD D3B-D3C D4D DCA E3A E47-E4C E4E EBA EC8-ECC"
  , "F18-F19 F35 F37 F39 F3E-F3F F82-F84 F86-F87 FC6 1037 1039-103A 1063-1064 1069-106D"
  , "1087-108D 108F 109A-109B 135D-135F 1714-1715 1734 17C9-17D3 17DD 1939-193B 1A60"
  , "1A75-1A7C 1A7F 1AB0-1ABE 1AC1-1ACB 1ACF-1ADD 1AE0-1AEB 1B34 1B44 1B6B-1B73 1BAA-1BAB"
  , "1BE6 1BF2-1BF3 1C36-1C37 1C78-1C7D 1CD0-1CE8 1CED 1CF4 1CF7-1CF9 1D2C-1D6A 1D9B-1DBE"
  , "1DC4-1DCF 1DF5-1DFF 1FBD 1FBF-1FC1 1FCD-1FCF 1FDD-1FDF 1FED-1FEF 1FFD-1FFE 2CEF-2CF1"
  , "2E2F 302A-302F 3099-309C 30FC A66F A67C-A67D A67F A69C-A69D A6F0-A6F1 A700-A721"
  , "A788-A78A A7F1 A7F8-A7F9 A806 A82C A8C4 A8E0-A8F1 A92B-A92E A953 A9B3 A9C0 A9E5"
  , "AA7B-AA7D AABF-AAC2 AAF6 AB5B-AB5F AB69-AB6B ABEC-ABED FB1E FE20-FE2F FF3E FF40 FF70"
  , "FF9E-FF9F FFE3 102E0 10780-10785 10787-107B0 107B2-107BA 10A38-10A3A 10A3F"
  , "10AE5-10AE6 10D22-10D27 10D4E 10D69-10D6D 10EFA 10EFD-10EFF 10F46-10F50 10F82-10F85"
  , "11046 11070 110B9-110BA 11133-11134 11173 111C0 111CA-111CC 11235-11236 112E9-112EA"
  , "1133B-1133C 1134D 11366-1136C 11370-11374 113CE-113D0 113D2-113D3 113E1-113E2 11442"
  , "11446 114C2-114C3 115BF-115C0 1163F 116B6-116B7 1172B 11839-1183A 1193D-1193E 11943"
  , "119E0 11A34 11A47 11A99 11C3F 11D42 11D44-11D45 11D97 11DD9 11F41-11F42 11F5A"
  , "13447-13455 1612F 16AF0-16AF4 16B30-16B36 16D6B-16D6C 16F8F-16F9F 16FF0-16FF1"
  , "1AFF0-1AFF3 1AFF5-1AFFB 1AFFD-1AFFE 1CF00-1CF2D 1CF30-1CF46 1D167-1D169 1D16D-1D172"
  , "1D17B-1D182 1D185-1D18B 1D1AA-1D1AD 1E030-1E06D 1E130-1E136 1E2AE 1E2EC-1E2EF"
  , "1E5EE-1E5EF 1E8D0-1E8D6 1E944-1E946 1E948-1E94A" ]

/-- The signs that lengthen or repeat what precedes them. -/
def extenders : Ranges := .ofLines
  [ "B7 2D0-2D1 640 7FA A71 AFB B55 E46 EC6 180A 1843 1AA7 1C36 1C7B 3005 3031-3035"
  , "309D-309E 30FC-30FE A015 A60C A9CF A9E6 AA70 AADD AAF3-AAF4 FF70 10781-10782 10D4E"
  , "10D6A 10D6F 11237 1135D 113D2-113D3 115C6-115C8 11A98 11DD9 16B42-16B43 16FE0-16FE1"
  , "16FE3 16FF2-16FF3 1E13C-1E13D 1E5EF 1E944-1E946" ]

/-- The letters whose dot vanishes below another mark. -/
def softDotted : Ranges := .ofLines
  [ "69-6A 12F 249 268 29D 2B2 3F3 456 458 1D62 1D96 1DA4 1DA8 1E2D 1ECB 2071 2148-2149"
  , "2C7C 1D422-1D423 1D456-1D457 1D48A-1D48B 1D4BE-1D4BF 1D4F2-1D4F3 1D526-1D527"
  , "1D55A-1D55B 1D58E-1D58F 1D5C2-1D5C3 1D5F6-1D5F7 1D62A-1D62B 1D65E-1D65F 1D692-1D693"
  , "1DF1A 1E04C-1E04D 1E068" ]

/-- The characters that extend the one before them and are no marks. -/
def otherExtending : Ranges := .ofLines ["200C FF9E-FF9F E0020-E007F"]

/-- The marks that choose among the shapes of a character. -/
def variationSelectors : Ranges := .ofLines ["180B-180D 180F FE00-FE0F E0100-E01EF"]

/-- The characters that are not shown where they are not understood. -/
def ignorable : Ranges := .ofLines
  [ "AD 34F 61C 115F-1160 17B4-17B5 180B-180F 200B-200F 202A-202E 2060-206F 3164"
  , "FE00-FE0F FEFF FFA0 FFF0-FFF8 1BCA0-1BCA3 1D173-1D17A E0000-E0FFF" ]

/-- The characters that should not be used any more. -/
def deprecated : Ranges := .ofLines ["149 673 F77 F79 17A3-17A4 206A-206F 2329-232A E0001"]

/-- The signs that stand before the digits or letters they surround. -/
def precedingSigns : Ranges := .ofLines ["600-605 6DD 70F 890-891 8E2 110BD 110CD"]

/-- The marks that belong to the letter below other marks. -/
def innerMarks : Ranges := .ofLines
  [ "654-655 658 6DC 6E3 6E7-6E8 8CA-8CB 8CD-8CF 8D3 8F3" ]

/-! ## Ideographs -/

/-- The ideographs. -/
def ideographic : Ranges := .ofLines
  [ "3006-3007 3021-3029 3038-303A 3400-4DBF 4E00-9FFF F900-FA6D FA70-FAD9 16FE4"
  , "16FF2-16FF6 17000-18CD5 18CFF-18D1E 18D80-18DF2 1B170-1B2FB 20000-2A6DF 2A700-2B81D"
  , "2B820-2CEAD 2CEB0-2EBE0 2EBF0-2EE5D 2F800-2FA1D 30000-3134A 31350-33479" ]

/-- The ideographs that several languages share. -/
def unifiedIdeographs : Ranges := .ofLines
  [ "3400-4DBF 4E00-9FFF FA0E-FA0F FA11 FA13-FA14 FA1F FA21 FA23-FA24 FA27-FA29"
  , "20000-2A6DF 2A700-2B81D 2B820-2CEAD 2CEB0-2EBE0 2EBF0-2EE5D 30000-3134A 31350-33479" ]

/-- The radicals of ideographs. -/
def radicals : Ranges := .ofLines ["2E80-2E99 2E9B-2EF3 2F00-2FD5"]

/-- The signs that describe an ideograph by two parts. -/
def binaryOperators : Ranges := .ofLines ["2FF0-2FF1 2FF4-2FFD 31EF"]

/-- The signs that describe an ideograph by three parts. -/
def trinaryOperators : Ranges := .ofLines ["2FF2-2FF3"]

/-- The signs that describe an ideograph by one part. -/
def unaryOperators : Ranges := .ofLines ["2FFE-2FFF"]

/-- The vowels that are written before the consonant they follow. -/
def logicalExceptions : Ranges := .ofLines
  [ "E40-E44 EC0-EC4 19B5-19B7 19BA AAB5-AAB6 AAB9 AABB-AABC" ]

end CoreArray.Unicode
