import MethodAudit.Text.Age
import MethodAudit.Text.Script
import MethodAudit.Text.Segment

/-!
Sets of characters by the name of a property, or by the name of a property and a value.
-/

namespace MethodAudit.Text

/-- The letters and digits of a name, in lower case; an "is" in front does not count, unless
only "c" would be left. -/
def looseName (name : String) : String :=
  let keep (cs : List Char) :=
    (cs.filter fun c => c.toNat < 0x80 && c ≠ ' ' && c ≠ '_' && c ≠ '-').map Char.toLower
  match name.toList with
  | a :: b :: rest =>
    if a.toLower = 'i' && b.toLower = 's' then
      let short := keep rest
      if short = ['c'] then "isc" else String.ofList short
    else String.ofList (keep (a :: b :: rest))
  | cs => String.ofList (keep cs)

/-- All properties by their names, also those that are not about sets of characters. -/
def propertyNames : String :=
  "age ahex alpha alphabetic asciihexdigit bc bidic bidiclass bidicontrol bidim bidimirrored
   bidimirroringglyph bidipairedbracket bidipairedbrackettype blk block bmg bpb bpt
   canonicalcombiningclass cased casefolding caseignorable ccc ce cf changeswhencasefolded
   changeswhencasemapped changeswhenlowercased changeswhennfkccasefolded changeswhentitlecased
   changeswhenuppercased ci cjkaccountingnumeric cjkcompatibilityvariant cjkiicore
   cjkirggsource cjkirghsource cjkirgjsource cjkirgkpsource cjkirgksource cjkirgmsource
   cjkirgssource cjkirgtsource cjkirguksource cjkirgusource cjkirgvsource cjkothernumeric
   cjkprimarynumeric cjkrsunicode compex compositionexclusion cwcf cwcm cwkcf cwl cwt cwu dash
   decompositionmapping decompositiontype defaultignorablecodepoint dep deprecated di dia
   diacritic dm dt ea eastasianwidth ebase ecomp emod emoji emojicomponent emojimodifier
   emojimodifierbase emojipresentation epres equideo equivalentunifiedideograph expandsonnfc
   expandsonnfd expandsonnfkc expandsonnfkd ext extendedpictographic extender extpict fcnfkc
   fcnfkcclosure fullcompositionexclusion gc gcb generalcategory graphemebase
   graphemeclusterbreak graphemeextend graphemelink grbase grext grlink hangulsyllabletype hex
   hexdigit hst hyphen idc idcompatmathcontinue idcompatmathstart idcontinue ideo ideographic
   ids idsb idsbinaryoperator idst idstart idstrinaryoperator idsu idsunaryoperator incb
   indicconjunctbreak indicpositionalcategory indicsyllabiccategory inpc insc isc isocomment
   jamoshortname jg joinc joincontrol joininggroup joiningtype jsn jt kaccountingnumeric
   kcompatibilityvariant kehcat kehdesc kehhg kehifao kehjsesh kehnomirror kehnorotate kiicore
   kirggsource kirghsource kirgjsource kirgkpsource kirgksource kirgmsource kirgssource
   kirgtsource kirguksource kirgusource kirgvsource kothernumeric kprimarynumeric krsunicode lb
   lc linebreak loe logicalorderexception lower lowercase lowercasemapping math mcm
   modifiercombiningmark na na1 name namealias nchar nfcqc nfcquickcheck nfdqc nfdquickcheck
   nfkccasefold nfkccf nfkcqc nfkcquickcheck nfkcscf nfkcsimplecasefold nfkdqc nfkdquickcheck
   noncharactercodepoint nt numerictype numericvalue nv oalpha odi ogrext oidc oids olower
   omath otheralphabetic otherdefaultignorablecodepoint othergraphemeextend otheridcontinue
   otheridstart otherlowercase othermath otheruppercase oupper patsyn patternsyntax
   patternwhitespace patws pcm prependedconcatenationmark qmark quotationmark radical
   regionalindicator ri sb sc scf script scriptextensions scx sd sentencebreak sentenceterminal
   sfc simplecasefolding simplelowercasemapping simpletitlecasemapping simpleuppercasemapping
   slc softdotted space stc sterm suc tc term terminalpunctuation titlecasemapping uc uideo
   unicode1name unicoderadicalstroke unifiedideograph upper uppercase uppercasemapping urs
   variationselector verticalorientation vo vs wb whitespace wordbreak wspace xidc xidcontinue
   xids xidstart xonfc xonfd xonfkc xonfkd"

/-- The name is that of some property. -/
def isPropertyName (name : String) : Bool :=
  let name := looseName name
  !name.isEmpty && (propertyNames.splitOn " ").any fun n => n.trimAscii.toString = name

/-- The characters with a property, of a category, or of a script. -/
def property? (name : String) : Option CharSet :=
  let name := looseName name
  (trait? name).or ((category? name).or (script? name))

/-- Categories and scripts that no character is of. -/
def emptyValues : List String :=
  ["cs", "surrogate", "hrkt", "katakanaorhiragana", "unknown", "zzzz"]

/-- The name is that of a category or a script that no character is of. -/
def isEmptyValue (name : String) : Bool := emptyValues.contains (looseName name)

/-- The characters for which a property has a value. -/
def propertyValue? (name value : String) : Option CharSet :=
  let name := looseName name
  let value := looseName value
  if name = "gc" || name = "generalcategory" then category? value
  else if name = "sc" || name = "script" then script? value
  else if name = "scx" || name = "scriptextensions" then usedInScript? value
  else if name = "age" then assignedBy? value
  else if name = "gcb" || name = "graphemeclusterbreak" then graphemePart? value
  else if name = "wb" || name = "wordbreak" then wordPart? value
  else if name = "sb" || name = "sentencebreak" then sentencePart? value
  else none

end MethodAudit.Text
