/-
  LayerTemplates.Text.LineBreak.Class
  ───────────────────────────────────
  The line breaking property of characters, in the classes of UAX #14, and the few
  further properties that its rules ask for.

  Characters without a class of their own are alphabetic; so are ambiguous ones and
  the letters of scripts that would need a dictionary.  Conditional starters count as
  nonstarters.
-/
import LayerTemplates.Text.CharSet

namespace LayerTemplates.LineBreak

/-! ## §1. Classes. -/

/-- The line breaking class of a character. -/
inductive BreakClass where
  /-- BK: a mandatory break. -/
  | mandatory
  /-- CR: a carriage return. -/
  | carriageReturn
  /-- LF: a line feed. -/
  | lineFeed
  /-- NL: a next line character. -/
  | nextLine
  /-- SP: a space. -/
  | space
  /-- ZW: a break of no width. -/
  | zeroWidthSpace
  /-- ZWJ: joins emoji. -/
  | zeroWidthJoiner
  /-- AL: letters and whatever has no other class. -/
  | alphabetic
  /-- H2: a Hangul syllable of two parts. -/
  | hangulLV
  /-- H3: a Hangul syllable of three parts. -/
  | hangulLVT
  /-- CM: a character that joins the one before it. -/
  | combiningMark
  /-- WJ: never a break on either side. -/
  | wordJoiner
  /-- GL: no break on either side, except after blanks and hyphens. -/
  | glue
  /-- CL: a closing mark. -/
  | closePunctuation
  /-- CP: a closing parenthesis or bracket. -/
  | closeParenthesis
  /-- EX: an exclamation or question mark. -/
  | exclamation
  /-- SY: a slash. -/
  | breakSymbol
  /-- IS: a separator inside numbers. -/
  | infixSeparator
  /-- OP: an opening mark. -/
  | openPunctuation
  /-- QU: a quotation mark. -/
  | quotation
  /-- NS: no line starts with it. -/
  | nonstarter
  /-- B2: a break on either side. -/
  | breakBoth
  /-- CB: a break where the object allows one. -/
  | contingent
  /-- BA: a break after it. -/
  | breakAfter
  /-- HY: the hyphen. -/
  | hyphen
  /-- BB: a break before it. -/
  | breakBefore
  /-- HL: a Hebrew letter. -/
  | hebrewLetter
  /-- IN: leaders such as the ellipsis. -/
  | inseparable
  /-- NU: a digit. -/
  | numeric
  /-- ID: an ideograph. -/
  | ideographic
  /-- EB: an emoji that takes a modifier. -/
  | emojiBase
  /-- EM: a modifier of an emoji. -/
  | emojiModifier
  /-- PR: a sign before numbers. -/
  | prefixNumeric
  /-- PO: a sign after numbers. -/
  | postfixNumeric
  /-- JL: a leading consonant. -/
  | hangulL
  /-- JV: a vowel. -/
  | hangulV
  /-- JT: a trailing consonant. -/
  | hangulT
  /-- RI: half of a flag. -/
  | regionalIndicator
  deriving Repr, DecidableEq, Inhabited

/-! ## §2. Tables. -/

namespace BreakClass

/-- The characters of class CM. -/
def combiningMarkTable : CharSet := .ofTable "
  0-8 e-1f 7f-84 86-9f 300-34e 350-35b 363-36f 483-489 591-5bd 5bf 5c1-5c2 5c4-5c5 5c7 610-61a 
  61c 64b-65f 670 6d6-6dc 6df-6e4 6e7-6e8 6ea-6ed 711 730-74a 7a6-7b0 7eb-7f3 7fd 816-819 81b-823 
  825-827 829-82d 859-85b 898-89f 8ca-8e1 8e3-903 93a-93c 93e-94f 951-957 962-963 981-983 9bc 
  9be-9c4 9c7-9c8 9cb-9cd 9d7 9e2-9e3 9fe a01-a03 a3c a3e-a42 a47-a48 a4b-a4d a51 a70-a71 a75 
  a81-a83 abc abe-ac5 ac7-ac9 acb-acd ae2-ae3 afa-aff b01-b03 b3c b3e-b44 b47-b48 b4b-b4d b55-b57 
  b62-b63 b82 bbe-bc2 bc6-bc8 bca-bcd bd7 c00-c04 c3c c3e-c44 c46-c48 c4a-c4d c55-c56 c62-c63 
  c81-c83 cbc cbe-cc4 cc6-cc8 cca-ccd cd5-cd6 ce2-ce3 cf3 d00-d03 d3b-d3c d3e-d44 d46-d48 d4a-d4d 
  d57 d62-d63 d81-d83 dca dcf-dd4 dd6 dd8-ddf df2-df3 e31 e34-e3a e47-e4e eb1 eb4-ebc ec8-ece 
  f18-f19 f35 f37 f39 f3e-f3f f71-f7e f80-f84 f86-f87 f8d-f97 f99-fbc fc6 102b-103e 1056-1059 
  105e-1060 1062-1064 1067-106d 1071-1074 1082-108d 108f 109a-109d 135d-135f 1712-1715 1732-1734 
  1752-1753 1772-1773 17b4-17d3 17dd 180b-180d 180f 1885-1886 18a9 1920-192b 1930-193b 1a17-1a1b 
  1a55-1a5e 1a60-1a7c 1a7f 1ab0-1ace 1b00-1b04 1b34-1b44 1b6b-1b73 1b80-1b82 1ba1-1bad 1be6-1bf3 
  1c24-1c37 1cd0-1cd2 1cd4-1ce8 1ced 1cf4 1cf7-1cf9 1dc0-1dcc 1dce-1dfb 1dfd-1dff 200c 200e-200f 
  202a-202e 2066-206f 20d0-20f0 2cef-2cf1 2d7f 2de0-2dff 302a-302f 3035 3099-309a a66f-a672 
  a674-a67d a69e-a69f a6f0-a6f1 a802 a806 a80b a823-a827 a82c a880-a881 a8b4-a8c5 a8e0-a8f1 a8ff 
  a926-a92d a947-a953 a980-a983 a9b3-a9c0 a9e5 aa29-aa36 aa43 aa4c-aa4d aa7b-aa7d aab0 aab2-aab4 
  aab7-aab8 aabe-aabf aac1 aaeb-aaef aaf5-aaf6 abe3-abea abec-abed fb1e fe00-fe0f fe20-fe2f 
  fff9-fffb 101fd 102e0 10376-1037a 10a01-10a03 10a05-10a06 10a0c-10a0f 10a38-10a3a 10a3f 
  10ae5-10ae6 10d24-10d27 10eab-10eac 10efd-10eff 10f46-10f50 10f82-10f85 11000-11002 11038-11046 
  11070 11073-11074 1107f-11082 110b0-110ba 110c2 11100-11102 11127-11134 11145-11146 11173 
  11180-11182 111b3-111c0 111c9-111cc 111ce-111cf 1122c-11237 1123e 11241 112df-112ea 11300-11303 
  1133b-1133c 1133e-11344 11347-11348 1134b-1134d 11357 11362-11363 11366-1136c 11370-11374 
  11435-11446 1145e 114b0-114c3 115af-115b5 115b8-115c0 115dc-115dd 11630-11640 116ab-116b7 
  1171d-1172b 1182c-1183a 11930-11935 11937-11938 1193b-1193e 11940 11942-11943 119d1-119d7 
  119da-119e0 119e4 11a01-11a0a 11a33-11a39 11a3b-11a3e 11a47 11a51-11a5b 11a8a-11a99 11c2f-11c36 
  11c38-11c3f 11c92-11ca7 11ca9-11cb6 11d31-11d36 11d3a 11d3c-11d3d 11d3f-11d45 11d47 11d8a-11d8e 
  11d90-11d91 11d93-11d97 11ef3-11ef6 11f00-11f01 11f03 11f34-11f3a 11f3e-11f42 13440 13447-13455 
  16af0-16af4 16b30-16b36 16f4f 16f51-16f87 16f8f-16f92 16ff0-16ff1 1bc9d-1bc9e 1bca0-1bca3 
  1cf00-1cf2d 1cf30-1cf46 1d165-1d169 1d16d-1d182 1d185-1d18b 1d1aa-1d1ad 1d242-1d244 1da00-1da36 
  1da3b-1da6c 1da75 1da84 1da9b-1da9f 1daa1-1daaf 1e000-1e006 1e008-1e018 1e01b-1e021 1e023-1e024 
  1e026-1e02a 1e08f 1e130-1e136 1e2ae 1e2ec-1e2ef 1e4ec-1e4ef 1e8d0-1e8d6 1e944-1e94a e0001 
  e0020-e007f e0100-e01ef"

/-- The characters of class WJ. -/
def wordJoinerTable : CharSet := .ofTable "
  2060 feff"

/-- The characters of class GL. -/
def glueTable : CharSet := .ofTable "
  a0 34f 35c-362 f08 f0c f12 fd9-fda 180e 1dcd 1dfc 2007 2011 202f 13430-13436 13439-1343b 16fe4"

/-- The characters of class CL. -/
def closePunctuationTable : CharSet := .ofTable "
  7d f3b f3d 169c 2046 207e 208e 2309 230b 232a 2769 276b 276d 276f 2771 2773 2775 27c6 27e7 27e9 
  27eb 27ed 27ef 2984 2986 2988 298a 298c 298e 2990 2992 2994 2996 2998 29d9 29db 29fd 2e23 2e25 
  2e27 2e29 2e56 2e58 2e5a 2e5c 3001-3002 3009 300b 300d 300f 3011 3015 3017 3019 301b 301e-301f 
  fd3e fe11-fe12 fe18 fe36 fe38 fe3a fe3c fe3e fe40 fe42 fe44 fe48 fe50 fe52 fe5a fe5c fe5e ff09 
  ff0c ff0e ff3d ff5d ff60-ff61 ff63-ff64 1325b-1325d 13282 13287 13289 1337a-1337b 13438 1343d 
  1343f 145cf"

/-- The characters of class CP. -/
def closeParenthesisTable : CharSet := .ofTable "
  29 5d"

/-- The characters of class EX. -/
def exclamationTable : CharSet := .ofTable "
  21 3f 5c6 61b 61d-61f 6d4 7f9 f0d-f11 f14 1802-1803 1808-1809 1944-1945 2762-2763 2cf9 2cfe 
  2e2e 2e53-2e54 a60e a876-a877 fe15-fe16 fe56-fe57 ff01 ff1f 115c4-115c5 11c71"

/-- The characters of class SY. -/
def breakSymbolTable : CharSet := .ofTable "
  2f"

/-- The characters of class IS. -/
def infixSeparatorTable : CharSet := .ofTable "
  2c 2e 3a-3b 37e 589 60c-60d 7f8 2044 fe10 fe13-fe14"

/-- The characters of class OP. -/
def openPunctuationTable : CharSet := .ofTable "
  28 5b 7b a1 bf f3a f3c 169b 201a 201e 2045 207d 208d 2308 230a 2329 2768 276a 276c 276e 2770 
  2772 2774 27c5 27e6 27e8 27ea 27ec 27ee 2983 2985 2987 2989 298b 298d 298f 2991 2993 2995 2997 
  29d8 29da 29fc 2e18 2e22 2e24 2e26 2e28 2e42 2e55 2e57 2e59 2e5b 3008 300a 300c 300e 3010 3014 
  3016 3018 301a 301d fd3f fe17 fe35 fe37 fe39 fe3b fe3d fe3f fe41 fe43 fe47 fe59 fe5b fe5d ff08 
  ff3b ff5b ff5f ff62 13258-1325a 13286 13288 13379 13437 1343c 1343e 145ce 1e95e-1e95f"

/-- The characters of class QU. -/
def quotationTable : CharSet := .ofTable "
  22 27 ab bb 2018-2019 201b-201d 201f 2039-203a 275b-2760 2e00-2e0d 2e1c-2e1d 2e20-2e21 
  1f676-1f678"

/-- The characters of class NS. -/
def nonstarterTable : CharSet := .ofTable "
  17d6 203c-203d 2047-2049 3005 301c 303b-303c 3041 3043 3045 3047 3049 3063 3083 3085 3087 308e 
  3095-3096 309b-309e 30a0-30a1 30a3 30a5 30a7 30a9 30c3 30e3 30e5 30e7 30ee 30f5-30f6 30fb-30fe 
  31f0-31ff a015 fe54-fe55 ff1a-ff1b ff65 ff67-ff70 ff9e-ff9f 16fe0-16fe3 1b132 1b150-1b152 1b155 
  1b164-1b167 1f679-1f67b"

/-- The characters of class B2. -/
def breakBothTable : CharSet := .ofTable "
  2014 2e3a-2e3b"

/-- The characters of class CB. -/
def contingentTable : CharSet := .ofTable "
  fffc"

/-- The characters of class BA. -/
def breakAfterTable : CharSet := .ofTable "
  9 7c ad 58a 5be 964-965 e5a-e5b f0b f34 f7f f85 fbe-fbf fd2 104a-104b 1361 1400 1680 16eb-16ed 
  1735-1736 17d4-17d5 17d8 17da 1804-1805 1b5a-1b5b 1b5d-1b60 1b7d-1b7e 1c3b-1c3f 1c7e-1c7f 
  2000-2006 2008-200a 2010 2012-2013 2027 2056 2058-205b 205d-205f 2cfa-2cfc 2cff 2d70 2e0e-2e15 
  2e17 2e19 2e2a-2e2d 2e30-2e31 2e33-2e34 2e3c-2e3e 2e40-2e41 2e43-2e4a 2e4c 2e4e-2e4f 2e5d 3000 
  a4fe-a4ff a60d a60f a6f3-a6f7 a8ce-a8cf a92e-a92f a9c7-a9c9 aa5d-aa5f aaf0-aaf1 abeb 
  10100-10102 1039f 103d0 10857 1091f 10a50-10a57 10af0-10af5 10b39-10b3f 10ead 11047-11048 
  110be-110c1 11140-11143 111c5-111c6 111c8 111dd-111df 11238-11239 1123b-1123c 112a9 1144b-1144e 
  1145a-1145b 115c2-115c3 115c9-115d7 11641-11642 1173c-1173e 11944-11946 11a41-11a44 11a9a-11a9c 
  11aa1-11aa2 11c41-11c45 11f43-11f44 11fff 12470-12474 16a6e-16a6f 16af5 16b37-16b39 16b44 
  16e97-16e98 1bc9f 1da87-1da8a"

/-- The characters of class HY. -/
def hyphenTable : CharSet := .ofTable "
  2d"

/-- The characters of class BB. -/
def breakBeforeTable : CharSet := .ofTable "
  b4 2c8 2cc 2df c77 c84 f01-f04 f06-f07 f09-f0a fd0-fd1 fd3 1806 1ffd a874-a875 a8fc 11175 111db 
  115c1 11660-1166c 119e2 11a3f 11a45 11a9e-11aa0 11b00-11b09 11c70"

/-- The characters of class HL. -/
def hebrewLetterTable : CharSet := .ofTable "
  5d0-5ea 5ef-5f2 fb1d fb1f-fb28 fb2a-fb36 fb38-fb3c fb3e fb40-fb41 fb43-fb44 fb46-fb4f"

/-- The characters of class IN. -/
def inseparableTable : CharSet := .ofTable "
  2024-2026 22ef fe19 10af6"

/-- The characters of class NU. -/
def numericTable : CharSet := .ofTable "
  30-39 660-669 66b-66c 6f0-6f9 7c0-7c9 966-96f 9e6-9ef a66-a6f ae6-aef b66-b6f be6-bef c66-c6f 
  ce6-cef d66-d6f de6-def e50-e59 ed0-ed9 f20-f29 1040-1049 1090-1099 17e0-17e9 1810-1819 
  1946-194f 19d0-19d9 1a80-1a89 1a90-1a99 1b50-1b59 1bb0-1bb9 1c40-1c49 1c50-1c59 a620-a629 
  a8d0-a8d9 a900-a909 a9d0-a9d9 a9f0-a9f9 aa50-aa59 abf0-abf9 104a0-104a9 10d30-10d39 11066-1106f 
  110f0-110f9 11136-1113f 111d0-111d9 112f0-112f9 11450-11459 114d0-114d9 11650-11659 116c0-116c9 
  11730-11739 118e0-118e9 11950-11959 11c50-11c59 11d50-11d59 11da0-11da9 11f50-11f59 16a60-16a69 
  16ac0-16ac9 16b50-16b59 1d7ce-1d7ff 1e140-1e149 1e2f0-1e2f9 1e4f0-1e4f9 1e950-1e959 1fbf0-1fbf9"

/-- The characters of class ID. -/
def ideographicTable : CharSet := .ofTable "
  231a-231b 23f0-23f3 2600-2603 2614-2615 2618 261a-261c 261e-261f 2639-263b 2668 267f 26bd-26c8 
  26cd 26cf-26d1 26d3-26d4 26d8-26d9 26dc 26df-26e1 26ea 26f1-26f5 26f7-26f8 26fa 26fd-2704 
  2708-2709 2764 2e80-2e99 2e9b-2ef3 2f00-2fd5 2ff0-2ffb 3003-3004 3006-3007 3012-3013 3020-3029 
  3030-3034 3036-303a 303d-303f 3042 3044 3046 3048 304a-3062 3064-3082 3084 3086 3088-308d 
  308f-3094 309f 30a2 30a4 30a6 30a8 30aa-30c2 30c4-30e2 30e4 30e6 30e8-30ed 30ef-30f4 30f7-30fa 
  30ff 3105-312f 3131-318e 3190-31e3 3200-321e 3220-3247 3250-4dbf 4e00-a014 a016-a48c a490-a4c6 
  f900-faff fe30-fe34 fe45-fe46 fe49-fe4f fe51 fe58 fe5f-fe66 fe68 fe6b ff02-ff03 ff06-ff07 
  ff0a-ff0b ff0d ff0f-ff19 ff1c-ff1e ff20-ff3a ff3c ff3e-ff5a ff5c ff5e ff66 ff71-ff9d ffa0-ffbe 
  ffc2-ffc7 ffca-ffcf ffd2-ffd7 ffda-ffdc ffe2-ffe4 11f45-11f4f 17000-187f7 18800-18aff 
  18d00-18d08 1b000-1b122 1b170-1b2fb 1f000-1f0ff 1f10d-1f10f 1f16d-1f16f 1f1ad-1f1e5 1f200-1f384 
  1f386-1f39b 1f39e-1f3b4 1f3b7-1f3bb 1f3bd-1f3c1 1f3c5-1f3c6 1f3c8-1f3c9 1f3cd-1f3fa 1f400-1f441 
  1f444-1f445 1f451-1f465 1f479-1f47b 1f47d-1f480 1f484 1f488-1f48e 1f490 1f492-1f49f 1f4a1 1f4a3 
  1f4a5-1f4a9 1f4ab-1f4ae 1f4b0 1f4b3-1f4ff 1f507-1f516 1f525-1f531 1f54a-1f573 1f576-1f579 
  1f57b-1f58f 1f591-1f594 1f597-1f5d3 1f5dc-1f5f3 1f5fa-1f644 1f648-1f64a 1f680-1f6a2 1f6a4-1f6b3 
  1f6b7-1f6bf 1f6c1-1f6cb 1f6cd-1f6ff 1f774-1f77f 1f7d5-1f7ff 1f80c-1f80f 1f848-1f84f 1f85a-1f85f 
  1f888-1f88f 1f8ae-1f8ff 1f90d-1f90e 1f910-1f917 1f920-1f925 1f927-1f92f 1f93a-1f93b 1f93f-1f976 
  1f978-1f9b4 1f9b7 1f9ba 1f9bc-1f9cc 1f9d0 1f9de-1f9ff 1fa54-1fac2 1fac6-1faef 1faf9-1faff 
  1fc00-1fffd 20000-2fffd 30000-3fffd"

/-- The characters of class EB. -/
def emojiBaseTable : CharSet := .ofTable "
  261d 26f9 270a-270d 1f385 1f3c2-1f3c4 1f3c7 1f3ca-1f3cc 1f442-1f443 1f446-1f450 1f466-1f478 
  1f47c 1f481-1f483 1f485-1f487 1f48f 1f491 1f4aa 1f574-1f575 1f57a 1f590 1f595-1f596 1f645-1f647 
  1f64b-1f64f 1f6a3 1f6b4-1f6b6 1f6c0 1f6cc 1f90c 1f90f 1f918-1f91f 1f926 1f930-1f939 1f93c-1f93e 
  1f977 1f9b5-1f9b6 1f9b8-1f9b9 1f9bb 1f9cd-1f9cf 1f9d1-1f9dd 1fac3-1fac5 1faf0-1faf8"

/-- The characters of class EM. -/
def emojiModifierTable : CharSet := .ofTable "
  1f3fb-1f3ff"

/-- The characters of class PR. -/
def prefixNumericTable : CharSet := .ofTable "
  24 2b 5c a3-a5 b1 58f 7fe-7ff 9fb af1 bf9 e3f 17db 20a0-20a6 20a8-20b5 20b7-20ba 20bc-20bd 20bf 
  20c1-20cf 2116 2212-2213 fe69 ff04 ffe1 ffe5-ffe6 1e2ff"

/-- The characters of class PO. -/
def postfixNumericTable : CharSet := .ofTable "
  25 a2 b0 609-60b 66a 9f2-9f3 9f9 d79 2030-2037 2057 20a7 20b6 20bb 20be 20c0 2103 2109 a838 
  fdfc fe6a ff05 ffe0 11fdd-11fe0 1ecac 1ecb0"

/-- The characters of class JL. -/
def hangulLTable : CharSet := .ofTable "
  1100-115f a960-a97c"

/-- The characters of class JV. -/
def hangulVTable : CharSet := .ofTable "
  1160-11a7 d7b0-d7c6"

/-- The characters of class JT. -/
def hangulTTable : CharSet := .ofTable "
  11a8-11ff d7cb-d7fb"

/-- The characters of class RI. -/
def regionalIndicatorTable : CharSet := .ofTable "
  1f1e6-1f1ff"

/-- The classes that are given by tables. -/
def tables : List (BreakClass × CharSet) :=
  [(.combiningMark, combiningMarkTable),
   (.wordJoiner, wordJoinerTable),
   (.glue, glueTable),
   (.closePunctuation, closePunctuationTable),
   (.closeParenthesis, closeParenthesisTable),
   (.exclamation, exclamationTable),
   (.breakSymbol, breakSymbolTable),
   (.infixSeparator, infixSeparatorTable),
   (.openPunctuation, openPunctuationTable),
   (.quotation, quotationTable),
   (.nonstarter, nonstarterTable),
   (.breakBoth, breakBothTable),
   (.contingent, contingentTable),
   (.breakAfter, breakAfterTable),
   (.hyphen, hyphenTable),
   (.breakBefore, breakBeforeTable),
   (.hebrewLetter, hebrewLetterTable),
   (.inseparable, inseparableTable),
   (.numeric, numericTable),
   (.ideographic, ideographicTable),
   (.emojiBase, emojiBaseTable),
   (.emojiModifier, emojiModifierTable),
   (.prefixNumeric, prefixNumericTable),
   (.postfixNumeric, postfixNumericTable),
   (.hangulL, hangulLTable),
   (.hangulV, hangulVTable),
   (.hangulT, hangulTTable),
   (.regionalIndicator, regionalIndicatorTable)]

/-- A Hangul syllable has three parts unless its number is a multiple of 28. -/
def hangulSyllable? (code : Nat) : Option BreakClass :=
  if 0xac00 ≤ code ∧ code ≤ 0xd7a3 then
    some (if (code - 0xac00) % 28 = 0 then .hangulLV else .hangulLVT)
  else
    none

/-- The class of a character. -/
def ofChar (c : Char) : BreakClass :=
  match c.toNat with
  | 0x0a => .lineFeed
  | 0x0d => .carriageReturn
  | 0x85 => .nextLine
  | 0x0b | 0x0c | 0x2028 | 0x2029 => .mandatory
  | 0x20 => .space
  | 0x200b => .zeroWidthSpace
  | 0x200d => .zeroWidthJoiner
  | code =>
      match hangulSyllable? code with
      | some syllable => syllable
      | none => ((tables.find? fun table => table.2.contains c).map Prod.fst).getD .alphabetic

end BreakClass

/-! ## §3. Further properties. -/

/-- Quotation marks that open. -/
def initialQuotes : CharSet := .ofTable "
  ab 2018 201b-201c 201f 2039 2e02 2e04 2e09 2e0c 2e1c 2e20"

/-- Quotation marks that close. -/
def finalQuotes : CharSet := .ofTable "
  bb 2019 201d 203a 2e03 2e05 2e0a 2e0d 2e1d 2e21"

/-- Characters of East Asian width: wide, full width and half width. -/
def eastAsian : CharSet := .ofTable "
  1100-115f 20a9 231a-231b 2329-232a 23e9-23ec 23f0 23f3 25fd-25fe 2614-2615 2648-2653 267f 2693 
  26a1 26aa-26ab 26bd-26be 26c4-26c5 26ce 26d4 26ea 26f2-26f3 26f5 26fa 26fd 2705 270a-270b 2728 
  274c 274e 2753-2755 2757 2795-2797 27b0 27bf 2b1b-2b1c 2b50 2b55 2e80-2e99 2e9b-2ef3 2f00-2fd5 
  2ff0-2ffb 3000-303e 3041-3096 3099-30ff 3105-312f 3131-318e 3190-31e3 31f0-321e 3220-3247 
  3250-4dbf 4e00-a48c a490-a4c6 a960-a97c ac00-d7a3 f900-faff fe10-fe19 fe30-fe52 fe54-fe66 
  fe68-fe6b ff01-ffbe ffc2-ffc7 ffca-ffcf ffd2-ffd7 ffda-ffdc ffe0-ffe6 ffe8-ffee 16fe0-16fe4 
  16ff0-16ff1 17000-187f7 18800-18cd5 18d00-18d08 1aff0-1aff3 1aff5-1affb 1affd-1affe 1b000-1b122 
  1b132 1b150-1b152 1b155 1b164-1b167 1b170-1b2fb 1f004 1f0cf 1f18e 1f191-1f19a 1f200-1f202 
  1f210-1f23b 1f240-1f248 1f250-1f251 1f260-1f265 1f300-1f320 1f32d-1f335 1f337-1f37c 1f37e-1f393 
  1f3a0-1f3ca 1f3cf-1f3d3 1f3e0-1f3f0 1f3f4 1f3f8-1f43e 1f440 1f442-1f4fc 1f4ff-1f53d 1f54b-1f54e 
  1f550-1f567 1f57a 1f595-1f596 1f5a4 1f5fb-1f64f 1f680-1f6c5 1f6cc 1f6d0-1f6d2 1f6d5-1f6d7 
  1f6dc-1f6df 1f6eb-1f6ec 1f6f4-1f6fc 1f7e0-1f7eb 1f7f0 1f90c-1f93a 1f93c-1f945 1f947-1f9ff 
  1fa70-1fa7c 1fa80-1fa88 1fa90-1fabd 1fabf-1fac5 1face-1fadb 1fae0-1fae8 1faf0-1faf8 20000-2fffd 
  30000-3fffd"

/-- Code points that are reserved for pictographs. -/
def reservedPictographs : CharSet := .ofTable "
  1f02c-1f02f 1f094-1f09f 1f0af-1f0b0 1f0c0 1f0d0 1f0f6-1f0ff 1f1ae-1f1e5 1f203-1f20f 1f23c-1f23f 
  1f249-1f24f 1f252-1f25f 1f266-1f2ff 1f6d8-1f6db 1f6ed-1f6ef 1f6fd-1f6ff 1f777-1f77a 1f7da-1f7df 
  1f7ec-1f7ef 1f7f1-1f7ff 1f80c-1f80f 1f848-1f84f 1f85a-1f85f 1f888-1f88f 1f8ae-1f8af 1f8b2-1f8ff 
  1fa54-1fa5f 1fa6e-1fa6f 1fa7d-1fa7f 1fa89-1fa8f 1fabe 1fac6-1facd 1fadc-1fadf 1fae9-1faef 
  1faf9-1faff 1fc00-1fffd"

end LayerTemplates.LineBreak
