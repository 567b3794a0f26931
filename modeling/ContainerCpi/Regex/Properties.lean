import ContainerCpi.Regex.Syntax

/-!
# Unicode classes by name

A class `\pL`, `\p{Greek}` or `\p{sc=Greek}` names its characters by a property of the
Unicode character database.  This module decides whether a name names a class.

Names are matched loosely: ASCII letters in any case, blanks, `_` and `-` ignored, characters
beyond ASCII dropped, and a leading `is` ignored (`normalize`).  A bare name is first looked
up among the properties: a yes/no property names the class of its characters, and any
other property names none.  Three names that are also general categories (`cf`, `sc` and
`lc`) skip that step.  A name that is no property is a general category (or `Any`,
`Assigned`, `ASCII`), or else a script.  A property with a value takes the general
category, the script, the script extensions, the age, or the grapheme cluster, word or
sentence break; other properties take no value.

The tables hold the names of the Unicode 16 character database, each value of a property
under all its names.  A script, an age or a break value that no character has names no
class.
-/

namespace ContainerCpi.Regex

namespace Properties

/-- A name compared loosely: an `is` at its start dropped, ASCII letters in lower case, and
blanks, `_`, `-` and characters beyond ASCII dropped.  The name `isc` keeps its `is`, so
that it stays the short name of a property. -/
def normalize (name : String) : String :=
  let cs := name.toList
  let (dropsIs, body) := match cs with
    | a :: b :: rest =>
      if (a == 'i' || a == 'I') && (b == 's' || b == 'S') then (true, rest) else (false, cs)
    | _ => (false, cs)
  let kept := body.filterMap fun c =>
    if c == ' ' || c == '_' || c == '-' || c.toNat > 127 then none else some c.toLower
  if dropsIs && kept == ['c'] then "isc" else String.ofList kept

/-- Whether a name, loosely, is one of the blank-separated names of a table. -/
def listed (table : String) (name : String) : Bool :=
  ((table.splitOn " ").filter (· ≠ "")).any fun entry => normalize entry == name

/-- The yes/no properties that name classes, each under all its names. -/
def binaryNames : String :=
  "ASCII_Hex_Digit AHex Alphabetic Alpha Bidi_Control Bidi_C Bidi_Mirrored Bidi_M " ++
  "Case_Ignorable CI Cased Changes_When_Casefolded CWCF Changes_When_Casemapped CWCM " ++
  "Changes_When_Lowercased CWL Changes_When_NFKC_Casefolded CWKCF " ++
  "Changes_When_Titlecased CWT Changes_When_Uppercased CWU Dash " ++
  "Default_Ignorable_Code_Point DI Deprecated Dep Diacritic Dia Emoji Emoji_Component " ++
  "EComp Emoji_Modifier EMod Emoji_Modifier_Base EBase Emoji_Presentation EPres " ++
  "Extended_Pictographic ExtPict Extender Ext Grapheme_Base Gr_Base Grapheme_Extend " ++
  "Gr_Ext Grapheme_Link Gr_Link Hex_Digit Hex Hyphen IDS_Binary_Operator IDSB " ++
  "IDS_Trinary_Operator IDST IDS_Unary_Operator IDSU ID_Compat_Math_Continue " ++
  "ID_Compat_Math_Start ID_Continue IDC ID_Start IDS Ideographic Ideo Join_Control " ++
  "Join_C Logical_Order_Exception LOE Lowercase Lower Math Modifier_Combining_Mark MCM " ++
  "Noncharacter_Code_Point NChar Other_Alphabetic OAlpha " ++
  "Other_Default_Ignorable_Code_Point ODI Other_Grapheme_Extend OGr_Ext " ++
  "Other_ID_Continue OIDC Other_ID_Start OIDS Other_Lowercase OLower Other_Math OMath " ++
  "Other_Uppercase OUpper Pattern_Syntax Pat_Syn Pattern_White_Space Pat_WS " ++
  "Prepended_Concatenation_Mark PCM Quotation_Mark QMark Radical Regional_Indicator RI " ++
  "Sentence_Terminal STerm Soft_Dotted SD Terminal_Punctuation Term Unified_Ideograph " ++
  "UIdeo Uppercase Upper Variation_Selector VS White_Space WSpace space XID_Continue " ++
  "XIDC XID_Start XIDS "

/-- The properties that name no class, each under all its names. -/
def otherNames : String :=
  "Composition_Exclusion CE Full_Composition_Exclusion Comp_Ex Expands_On_NFC XO_NFC " ++
  "Expands_On_NFD XO_NFD Expands_On_NFKC XO_NFKC Expands_On_NFKD XO_NFKD Block blk " ++
  "Bidi_Class bc Bidi_Paired_Bracket_Type bpt Canonical_Combining_Class ccc " ++
  "Decomposition_Type dt East_Asian_Width ea Hangul_Syllable_Type hst " ++
  "Indic_Conjunct_Break InCB Indic_Positional_Category InPC Indic_Syllabic_Category InSC " ++
  "Joining_Group jg Joining_Type jt Line_Break lb NFC_Quick_Check NFC_QC NFD_Quick_Check " ++
  "NFD_QC NFKC_Quick_Check NFKC_QC NFKD_Quick_Check NFKD_QC Numeric_Type nt " ++
  "Vertical_Orientation vo Numeric_Value nv Bidi_Mirroring_Glyph bmg Bidi_Paired_Bracket " ++
  "bpb Case_Folding cf Decomposition_Mapping dm Equivalent_Unified_Ideograph EqUIdeo " ++
  "FC_NFKC_Closure FC_NFKC Lowercase_Mapping lc NFKC_Casefold NFKC_CF " ++
  "NFKC_Simple_Casefold NFKC_SCF Simple_Case_Folding scf sfc Simple_Lowercase_Mapping " ++
  "slc Simple_Titlecase_Mapping stc Simple_Uppercase_Mapping suc Titlecase_Mapping tc " ++
  "Uppercase_Mapping uc ISO_Comment isc Jamo_Short_Name JSN Name na Unicode_1_Name na1 " ++
  "Name_Alias kAccountingNumeric cjkAccountingNumeric kOtherNumeric cjkOtherNumeric " ++
  "kPrimaryNumeric cjkPrimaryNumeric kCompatibilityVariant cjkCompatibilityVariant " ++
  "kIICore cjkIICore kIRG_GSource cjkIRG_GSource kIRG_HSource cjkIRG_HSource " ++
  "kIRG_JSource cjkIRG_JSource kIRG_KPSource cjkIRG_KPSource kIRG_KSource cjkIRG_KSource " ++
  "kIRG_MSource cjkIRG_MSource kIRG_SSource cjkIRG_SSource kIRG_TSource cjkIRG_TSource " ++
  "kIRG_UKSource cjkIRG_UKSource kIRG_USource cjkIRG_USource kIRG_VSource cjkIRG_VSource " ++
  "kRSUnicode cjkRSUnicode Unicode_Radical_Stroke URS kEH_Cat kEH_Desc kEH_HG kEH_IFAO " ++
  "kEH_JSesh "

/-- The general categories, each under all its names. -/
def generalCategoryNames : String :=
  "C Other Cc Control Cntrl Cf Format Cn Unassigned Co Private_Use Cs Surrogate L Letter " ++
  "LC Cased_Letter Ll Lowercase_Letter Lm Modifier_Letter Lo Other_Letter Lt " ++
  "Titlecase_Letter Lu Uppercase_Letter M Mark Combining_Mark Mc Spacing_Mark Me " ++
  "Enclosing_Mark Mn Nonspacing_Mark N Number Nd Decimal_Number Digit Nl Letter_Number " ++
  "No Other_Number P Punctuation Punct Pc Connector_Punctuation Pd Dash_Punctuation Pe " ++
  "Close_Punctuation Pf Final_Punctuation Pi Initial_Punctuation Po Other_Punctuation Ps " ++
  "Open_Punctuation S Symbol Sc Currency_Symbol Sk Modifier_Symbol Sm Math_Symbol So " ++
  "Other_Symbol Z Separator Zl Line_Separator Zp Paragraph_Separator Zs Space_Separator "

/-- The scripts that have characters, each under all its names (after Unicode 16). -/
def scriptNames : String :=
  "Adlm Adlam Aghb Caucasian_Albanian Ahom Ahom Arab Arabic Armi Imperial_Aramaic Armn " ++
  "Armenian Avst Avestan Bali Balinese Bamu Bamum Bass Bassa_Vah Batk Batak Beng Bengali " ++
  "Bhks Bhaiksuki Bopo Bopomofo Brah Brahmi Brai Braille Bugi Buginese Buhd Buhid Cakm " ++
  "Chakma Cans Canadian_Aboriginal Cari Carian Cham Cham Cher Cherokee Chrs Chorasmian " ++
  "Copt Coptic Qaac Cpmn Cypro_Minoan Cprt Cypriot Cyrl Cyrillic Deva Devanagari Diak " ++
  "Dives_Akuru Dogr Dogra Dsrt Deseret Dupl Duployan Egyp Egyptian_Hieroglyphs Elba " ++
  "Elbasan Elym Elymaic Ethi Ethiopic Geor Georgian Glag Glagolitic Gong Gunjala_Gondi " ++
  "Gonm Masaram_Gondi Goth Gothic Gran Grantha Grek Greek Gujr Gujarati Guru Gurmukhi " ++
  "Hang Hangul Hani Han Hano Hanunoo Hatr Hatran Hebr Hebrew Hira Hiragana Hluw " ++
  "Anatolian_Hieroglyphs Hmng Pahawh_Hmong Hmnp Nyiakeng_Puachue_Hmong Hung " ++
  "Old_Hungarian Ital Old_Italic Java Javanese Kali Kayah_Li Kana Katakana Kawi Kawi " ++
  "Khar Kharoshthi Khmr Khmer Khoj Khojki Kits Khitan_Small_Script Knda Kannada Kthi " ++
  "Kaithi Lana Tai_Tham Laoo Lao Latn Latin Lepc Lepcha Limb Limbu Lina Linear_A Linb " ++
  "Linear_B Lisu Lisu Lyci Lycian Lydi Lydian Mahj Mahajani Maka Makasar Mand Mandaic " ++
  "Mani Manichaean Marc Marchen Medf Medefaidrin Mend Mende_Kikakui Merc " ++
  "Meroitic_Cursive Mero Meroitic_Hieroglyphs Mlym Malayalam Modi Modi Mong Mongolian " ++
  "Mroo Mro Mtei Meetei_Mayek Mult Multani Mymr Myanmar Nagm Nag_Mundari Nand " ++
  "Nandinagari Narb Old_North_Arabian Nbat Nabataean Newa Newa Nkoo Nko Nshu Nushu Ogam " ++
  "Ogham Olck Ol_Chiki Orkh Old_Turkic Orya Oriya Osge Osage Osma Osmanya Ougr " ++
  "Old_Uyghur Palm Palmyrene Pauc Pau_Cin_Hau Perm Old_Permic Phag Phags_Pa Phli " ++
  "Inscriptional_Pahlavi Phlp Psalter_Pahlavi Phnx Phoenician Plrd Miao Prti " ++
  "Inscriptional_Parthian Rjng Rejang Rohg Hanifi_Rohingya Runr Runic Samr Samaritan " ++
  "Sarb Old_South_Arabian Saur Saurashtra Sgnw SignWriting Shaw Shavian Shrd Sharada " ++
  "Sidd Siddham Sind Khudawadi Sinh Sinhala Sogd Sogdian Sogo Old_Sogdian Sora " ++
  "Sora_Sompeng Soyo Soyombo Sund Sundanese Sylo Syloti_Nagri Syrc Syriac Tagb Tagbanwa " ++
  "Takr Takri Tale Tai_Le Talu New_Tai_Lue Taml Tamil Tang Tangut Tavt Tai_Viet Telu " ++
  "Telugu Tfng Tifinagh Tglg Tagalog Thaa Thaana Thai Thai Tibt Tibetan Tirh Tirhuta " ++
  "Tnsa Tangsa Toto Toto Ugar Ugaritic Vaii Vai Vith Vithkuqi Wara Warang_Citi Wcho " ++
  "Wancho Xpeo Old_Persian Xsux Cuneiform Yezi Yezidi Yiii Yi Zanb Zanabazar_Square Zinh " ++
  "Inherited Qaai Zyyy Common Gara Garay Gukh Gurung_Khema Krai Kirat_Rai Onao Ol_Onal " ++
  "Sunu Sunuwar Todr Todhri Tutg Tulu_Tigalari "

/-- The versions of Unicode that assigned characters, each under both its names. -/
def ageNames : String :=
  "1.1 V1_1 10.0 V10_0 11.0 V11_0 12.0 V12_0 12.1 V12_1 13.0 V13_0 14.0 V14_0 15.0 V15_0 " ++
  "2.0 V2_0 2.1 V2_1 3.0 V3_0 3.1 V3_1 3.2 V3_2 4.0 V4_0 4.1 V4_1 5.0 V5_0 5.1 V5_1 5.2 " ++
  "V5_2 6.0 V6_0 6.1 V6_1 6.2 V6_2 6.3 V6_3 7.0 V7_0 8.0 V8_0 9.0 V9_0 15.1 V15_1 16.0 " ++
  "V16_0 "

/-- The values of the grapheme cluster break property that some character has. -/
def graphemeBreakNames : String :=
  "CN Control CR CR EX Extend L L LF LF LV LV LVT LVT PP Prepend RI Regional_Indicator " ++
  "SM SpacingMark T T V V ZWJ ZWJ "

/-- The values of the word break property that some character has. -/
def wordBreakNames : String :=
  "CR CR DQ Double_Quote EX ExtendNumLet Extend Extend FO Format HL Hebrew_Letter KA " ++
  "Katakana LE ALetter LF LF MB MidNumLet ML MidLetter MN MidNum NL Newline NU Numeric " ++
  "RI Regional_Indicator SQ Single_Quote WSegSpace WSegSpace ZWJ ZWJ "

/-- The values of the sentence break property that some character has. -/
def sentenceBreakNames : String :=
  "AT ATerm CL Close CR CR EX Extend FO Format LE OLetter LF LF LO Lower NU Numeric SC " ++
  "SContinue SE Sep SP Sp ST STerm UP Upper "


/-- What a property stands for in a class. -/
inductive Property where
  | binary | generalCategory | script | scriptExtensions | age
  | graphemeClusterBreak | wordBreak | sentenceBreak
  /-- A property that names no class and takes no value. -/
  | other
  deriving DecidableEq, Repr

/-- The property a loosely compared name names. -/
def property? (name : String) : Option Property :=
  if listed binaryNames name then some .binary
  else if name == "gc" || name == "generalcategory" then some .generalCategory
  else if name == "sc" || name == "script" then some .script
  else if name == "scx" || name == "scriptextensions" then some .scriptExtensions
  else if name == "age" then some .age
  else if name == "gcb" || name == "graphemeclusterbreak" then some .graphemeClusterBreak
  else if name == "wb" || name == "wordbreak" then some .wordBreak
  else if name == "sb" || name == "sentencebreak" then some .sentenceBreak
  else if listed otherNames name then some .other
  else none

/-- Whether a loosely compared name is a general category, or `Any`, `Assigned` or
`ASCII`. -/
def isGeneralCategory (name : String) : Bool :=
  name == "any" || name == "assigned" || name == "ascii" || listed generalCategoryNames name

/-- Whether a loosely compared name is a script. -/
def isScript (name : String) : Bool := listed scriptNames name

/-- Whether a bare name names a class. -/
def namesClass (name : String) : Bool :=
  let n := normalize name
  let asProperty := if n == "cf" || n == "sc" || n == "lc" then none else property? n
  match asProperty with
  | some p => p == .binary
  | none => isGeneralCategory n || isScript n

/-- Whether a property and a value name a class. -/
def valueNamesClass (property value : String) : Bool :=
  let v := normalize value
  match property? (normalize property) with
  | some .generalCategory => isGeneralCategory v
  | some .script | some .scriptExtensions => isScript v
  | some .age => listed ageNames v
  | some .graphemeClusterBreak => listed graphemeBreakNames v
  | some .wordBreak => listed wordBreakNames v
  | some .sentenceBreak => listed sentenceBreakNames v
  | _ => false

end Properties

/-- Whether a Unicode class as written names a class. -/
def UnicodeQuery.resolves : UnicodeQuery → Bool
  | .oneLetter c => Properties.namesClass (String.singleton c)
  | .named name => Properties.namesClass name
  | .byValue property value => Properties.valueNamesClass property value

end ContainerCpi.Regex
