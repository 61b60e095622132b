import RegexSubst.Unicode.Name.Run

/-!
# `RegexSubst.Unicode.Name.Presentation`: names of U+F900 to U+FFFF

Forms of letters for presentation, and specials.
-/

set_option autoImplicit false

namespace RegexSubst.Unicode

/-- The names of U+F900 to U+FFFF. -/
def presentationNames : List NameRun :=
  [⟨0xFB00, 1, "LATIN SMALL LIGATURE ", "FF,FI,FL,FFI,FFL,LONG S T,ST"⟩,
   ⟨0xFB13, 1, "ARMENIAN SMALL LIGATURE ", "MEN NOW,MEN ECH,MEN INI,VEW NOW,MEN XEH"⟩,
   ⟨0xFB1D, 2, "HEBREW ", "LETTER YOD WITH HIRIQ,LIGATURE YIDDISH YOD YOD PATAH"⟩,
   ⟨0xFB1E, 2, "HEBREW ", "POINT JUDEO-SPANISH VARIKA,LETTER ALTERNATIVE AYIN"⟩,
   ⟨0xFB21, 1, "HEBREW LETTER WIDE ", "ALEF,DALET,HE,KAF,LAMED,FINAL MEM,RESH,TAV"⟩,
   ⟨0xFB29, 1, "HEBREW LETTER ", "ALTERNATIVE PLUS SIGN,SHIN WITH SHIN DOT,SHIN WITH SIN DOT"⟩,
   ⟨0xFB2C, 1, "HEBREW LETTER SHIN WITH DAGESH AND ", "SHIN DOT,SIN DOT"⟩,
   ⟨0xFB2E, 1, "HEBREW LETTER ALEF WITH ", "PATAH,QAMATS,MAPIQ"⟩,
   ⟨0xFB31, 2, "HEBREW LETTER ", "BET WITH DAGESH,DALET WITH DAGESH,VAV WITH DAGESH"⟩,
   ⟨0xFB32, 2, "HEBREW LETTER ", "GIMEL WITH DAGESH,HE WITH MAPIQ,ZAYIN WITH DAGESH"⟩,
   ⟨0xFB38, 2, "HEBREW LETTER ", "TET WITH DAGESH,FINAL KAF WITH DAGESH,LAMED WITH DAGESH"⟩,
   ⟨0xFB39, 2, "HEBREW LETTER ", "YOD WITH DAGESH,KAF WITH DAGESH"⟩,
   ⟨0xFB3E, 1, "HEBREW LETTER MEM WITH DAGESH", ""⟩,
   ⟨0xFB40, 1, "HEBREW LETTER ", "NUN WITH DAGESH,SAMEKH WITH DAGESH"⟩,
   ⟨0xFB43, 1, "HEBREW LETTER ", "FINAL PE WITH DAGESH,PE WITH DAGESH"⟩,
   ⟨0xFB46, 2,
    "HEBREW LETTER ", "TSADI WITH DAGESH,RESH WITH DAGESH,TAV WITH DAGESH,BET WITH RAFE"⟩,
   ⟨0xFB47, 2, "HEBREW LETTER ", "QOF WITH DAGESH,SHIN WITH DAGESH,VAV WITH HOLAM,KAF WITH RAFE"⟩,
   ⟨0xFB4E, 1, "HEBREW ", "LETTER PE WITH RAFE,LIGATURE ALEF LAMED"⟩,
   ⟨0xFB50, 1, "ARABIC LETTER ALEF WASLA ", "ISOLATED FORM,FINAL FORM"⟩,
   ⟨0xFB52, 1, "ARABIC LETTER BEEH ", "ISOLATED FORM,FINAL FORM,INITIAL FORM,MEDIAL FORM"⟩,
   ⟨0xFB56, 1, "ARABIC LETTER PEH ", "ISOLATED FORM,FINAL FORM,INITIAL FORM,MEDIAL FORM"⟩,
   ⟨0xFB5A, 1, "ARABIC LETTER BEHEH ", "ISOLATED FORM,FINAL FORM,INITIAL FORM,MEDIAL FORM"⟩,
   ⟨0xFB5E, 1, "ARABIC LETTER TTEHEH ", "ISOLATED FORM,FINAL FORM,INITIAL FORM,MEDIAL FORM"⟩,
   ⟨0xFB62, 1, "ARABIC LETTER TEHEH ", "ISOLATED FORM,FINAL FORM,INITIAL FORM,MEDIAL FORM"⟩,
   ⟨0xFB66, 1, "ARABIC LETTER TTEH ", "ISOLATED FORM,FINAL FORM,INITIAL FORM,MEDIAL FORM"⟩,
   ⟨0xFB6A, 1, "ARABIC LETTER VEH ", "ISOLATED FORM,FINAL FORM,INITIAL FORM,MEDIAL FORM"⟩,
   ⟨0xFB6E, 1, "ARABIC LETTER PEHEH ", "ISOLATED FORM,FINAL FORM,INITIAL FORM,MEDIAL FORM"⟩,
   ⟨0xFB72, 1, "ARABIC LETTER DYEH ", "ISOLATED FORM,FINAL FORM,INITIAL FORM,MEDIAL FORM"⟩,
   ⟨0xFB76, 1, "ARABIC LETTER NYEH ", "ISOLATED FORM,FINAL FORM,INITIAL FORM,MEDIAL FORM"⟩,
   ⟨0xFB7A, 1, "ARABIC LETTER TCHEH ", "ISOLATED FORM,FINAL FORM,INITIAL FORM,MEDIAL FORM"⟩,
   ⟨0xFB7E, 1, "ARABIC LETTER TCHEHEH ", "ISOLATED FORM,FINAL FORM,INITIAL FORM,MEDIAL FORM"⟩,
   ⟨0xFB82, 1, "ARABIC LETTER DDAHAL ", "ISOLATED FORM,FINAL FORM"⟩,
   ⟨0xFB84, 1, "ARABIC LETTER ", "DAHAL ISOLATED FORM,DAHAL FINAL FORM,DUL ISOLATED FORM"⟩,
   ⟨0xFB87, 2, "ARABIC LETTER ", "DUL FINAL FORM,DDAL FINAL FORM,JEH FINAL FORM,RREH FINAL FORM"⟩,
   ⟨0xFB88, 2, "ARABIC LETTER ", "DDAL ISOLATED FORM,JEH ISOLATED FORM,RREH ISOLATED FORM"⟩,
   ⟨0xFB8E, 1, "ARABIC LETTER KEHEH ", "ISOLATED FORM,FINAL FORM,INITIAL FORM,MEDIAL FORM"⟩,
   ⟨0xFB92, 1, "ARABIC LETTER GAF ", "ISOLATED FORM,FINAL FORM,INITIAL FORM,MEDIAL FORM"⟩,
   ⟨0xFB96, 1, "ARABIC LETTER GUEH ", "ISOLATED FORM,FINAL FORM,INITIAL FORM,MEDIAL FORM"⟩,
   ⟨0xFB9A, 1, "ARABIC LETTER NGOEH ", "ISOLATED FORM,FINAL FORM,INITIAL FORM,MEDIAL FORM"⟩,
   ⟨0xFB9E, 1, "ARABIC LETTER NOON GHUNNA ", "ISOLATED FORM,FINAL FORM"⟩,
   ⟨0xFBA0, 1, "ARABIC LETTER RNOON ", "ISOLATED FORM,FINAL FORM,INITIAL FORM,MEDIAL FORM"⟩,
   ⟨0xFBA4, 1, "ARABIC LETTER HEH WITH YEH ABOVE ", "ISOLATED FORM,FINAL FORM"⟩,
   ⟨0xFBA6, 1, "ARABIC LETTER HEH GOAL ", "ISOLATED FORM,FINAL FORM,INITIAL FORM,MEDIAL FORM"⟩,
   ⟨0xFBAA, 2, "ARABIC LETTER HEH DOACHASHMEE ", "ISOLATED FORM,INITIAL FORM"⟩,
   ⟨0xFBAB, 2, "ARABIC LETTER HEH DOACHASHMEE ", "FINAL FORM,MEDIAL FORM"⟩,
   ⟨0xFBAE, 1, "ARABIC LETTER YEH BARREE ", "ISOLATED FORM,FINAL FORM"⟩,
   ⟨0xFBB0, 1, "ARABIC LETTER YEH BARREE WITH HAMZA ABOVE ", "ISOLATED FORM,FINAL FORM"⟩,
   ⟨0xFBB2, 1, "ARABIC SYMBOL ", "DOT ABOVE,DOT BELOW,TWO DOTS ABOVE,TWO DOTS BELOW"⟩,
   ⟨0xFBB6, 1, "ARABIC SYMBOL THREE DOTS ", "ABOVE,BELOW"⟩,
   ⟨0xFBB8, 1, "ARABIC SYMBOL THREE DOTS POINTING DOWNWARDS ", "ABOVE,BELOW"⟩,
   ⟨0xFBBA, 1, "ARABIC SYMBOL ", "FOUR DOTS ABOVE,FOUR DOTS BELOW,DOUBLE VERTICAL BAR BELOW"⟩,
   ⟨0xFBBD, 1, "ARABIC SYMBOL TWO DOTS VERTICALLY ", "ABOVE,BELOW"⟩,
   ⟨0xFBBF, 1, "ARABIC SYMBOL ", "RING,SMALL TAH ABOVE,SMALL TAH BELOW,WASLA ABOVE"⟩,
   ⟨0xFBD3, 1, "ARABIC LETTER NG ", "ISOLATED FORM,FINAL FORM,INITIAL FORM,MEDIAL FORM"⟩,
   ⟨0xFBD7, 1, "ARABIC LETTER ", "U ISOLATED FORM,U FINAL FORM,OE ISOLATED FORM,OE FINAL FORM"⟩,
   ⟨0xFBDB, 2, "ARABIC LETTER ", "YU ISOLATED FORM,U WITH HAMZA ABOVE ISOLATED FORM,VE FINAL FORM"⟩,
   ⟨0xFBDC, 2, "ARABIC LETTER ", "YU FINAL FORM,VE ISOLATED FORM,KIRGHIZ OE ISOLATED FORM"⟩,
   ⟨0xFBE1, 1, "ARABIC LETTER KIRGHIZ ", "OE FINAL FORM,YU ISOLATED FORM,YU FINAL FORM"⟩,
   ⟨0xFBE4, 1, "ARABIC LETTER E ", "ISOLATED FORM,FINAL FORM,INITIAL FORM,MEDIAL FORM"⟩,
   ⟨0xFBE8, 1, "ARABIC LETTER UIGHUR KAZAKH KIRGHIZ ALEF MAKSURA ", "INITIAL FORM,MEDIAL FORM"⟩,
   ⟨0xFBEA, 1, "ARABIC LIGATURE YEH WITH HAMZA ABOVE WITH ALEF ", "ISOLATED FORM,FINAL FORM"⟩,
   ⟨0xFBEC, 1, "ARABIC LIGATURE YEH WITH HAMZA ABOVE WITH AE ", "ISOLATED FORM,FINAL FORM"⟩,
   ⟨0xFBEE, 1, "ARABIC LIGATURE YEH WITH HAMZA ABOVE WITH WAW ", "ISOLATED FORM,FINAL FORM"⟩,
   ⟨0xFBF0, 1, "ARABIC LIGATURE YEH WITH HAMZA ABOVE WITH U ", "ISOLATED FORM,FINAL FORM"⟩,
   ⟨0xFBF2, 1, "ARABIC LIGATURE YEH WITH HAMZA ABOVE WITH OE ", "ISOLATED FORM,FINAL FORM"⟩,
   ⟨0xFBF4, 1, "ARABIC LIGATURE YEH WITH HAMZA ABOVE WITH YU ", "ISOLATED FORM,FINAL FORM"⟩,
   ⟨0xFBF6, 1, "ARABIC LIGATURE YEH WITH HAMZA ABOVE WITH E ISOLATED FORM", ""⟩,
   ⟨0xFBF7, 1, "ARABIC LIGATURE YEH WITH HAMZA ABOVE WITH E ", "FINAL FORM,INITIAL FORM"⟩,
   ⟨0xFBF9, 1,
    "ARABIC LIGATURE UIGHUR KIRGHIZ YEH WITH HAMZA ABOVE WITH ALEF MAKSURA ISOLATED FORM", ""⟩,
   ⟨0xFBFA, 1,
    "ARABIC LIGATURE UIGHUR KIRGHIZ YEH WITH HAMZA ABOVE WITH ALEF MAKSURA FINAL FORM", ""⟩,
   ⟨0xFBFB, 1,
    "ARABIC LIGATURE UIGHUR KIRGHIZ YEH WITH HAMZA ABOVE WITH ALEF MAKSURA INITIAL FORM", ""⟩,
   ⟨0xFBFC, 1, "ARABIC LETTER FARSI YEH ", "ISOLATED FORM,FINAL FORM,INITIAL FORM,MEDIAL FORM"⟩,
   ⟨0xFC00, 1, "ARABIC LIGATURE YEH WITH HAMZA ABOVE WITH JEEM ISOLATED FORM", ""⟩,
   ⟨0xFC01, 1,
    "ARABIC LIGATURE YEH WITH HAMZA ABOVE WITH ", "HAH ISOLATED FORM,MEEM ISOLATED FORM"⟩,
   ⟨0xFC03, 1, "ARABIC LIGATURE YEH WITH HAMZA ABOVE WITH ALEF MAKSURA ISOLATED FORM", ""⟩,
   ⟨0xFC04, 1, "ARABIC LIGATURE YEH WITH HAMZA ABOVE WITH YEH ISOLATED FORM", ""⟩,
   ⟨0xFC05, 1, "ARABIC LIGATURE BEH WITH ", "JEEM ISOLATED FORM,HAH ISOLATED FORM"⟩,
   ⟨0xFC07, 2, "ARABIC LIGATURE BEH WITH ", "KHAH ISOLATED FORM,ALEF MAKSURA ISOLATED FORM"⟩,
   ⟨0xFC08, 2, "ARABIC LIGATURE BEH WITH ", "MEEM ISOLATED FORM,YEH ISOLATED FORM"⟩,
   ⟨0xFC0B, 1, "ARABIC LIGATURE TEH WITH ", "JEEM ISOLATED FORM,HAH ISOLATED FORM"⟩,
   ⟨0xFC0D, 2, "ARABIC LIGATURE TEH WITH ", "KHAH ISOLATED FORM,ALEF MAKSURA ISOLATED FORM"⟩,
   ⟨0xFC0E, 2, "ARABIC LIGATURE TEH WITH ", "MEEM ISOLATED FORM,YEH ISOLATED FORM"⟩,
   ⟨0xFC11, 2, "ARABIC LIGATURE THEH WITH ", "JEEM ISOLATED FORM,ALEF MAKSURA ISOLATED FORM"⟩,
   ⟨0xFC12, 2, "ARABIC LIGATURE THEH WITH ", "MEEM ISOLATED FORM,YEH ISOLATED FORM"⟩,
   ⟨0xFC15, 1, "ARABIC LIGATURE JEEM WITH ", "HAH ISOLATED FORM,MEEM ISOLATED FORM"⟩,
   ⟨0xFC17, 1, "ARABIC LIGATURE HAH WITH ", "JEEM ISOLATED FORM,MEEM ISOLATED FORM"⟩,
   ⟨0xFC19, 2, "ARABIC LIGATURE KHAH WITH ", "JEEM ISOLATED FORM,MEEM ISOLATED FORM"⟩,
   ⟨0xFC1A, 2, "ARABIC LIGATURE ", "KHAH WITH HAH ISOLATED FORM,SEEN WITH JEEM ISOLATED FORM"⟩,
   ⟨0xFC1D, 2, "ARABIC LIGATURE SEEN WITH ", "HAH ISOLATED FORM,MEEM ISOLATED FORM"⟩,
   ⟨0xFC1E, 2, "ARABIC LIGATURE ", "SEEN WITH KHAH ISOLATED FORM,SAD WITH HAH ISOLATED FORM"⟩,
   ⟨0xFC21, 2, "ARABIC LIGATURE ", "SAD WITH MEEM ISOLATED FORM,DAD WITH HAH ISOLATED FORM"⟩,
   ⟨0xFC22, 2, "ARABIC LIGATURE DAD WITH ", "JEEM ISOLATED FORM,KHAH ISOLATED FORM"⟩,
   ⟨0xFC25, 2, "ARABIC LIGATURE ", "DAD WITH MEEM ISOLATED FORM,TAH WITH MEEM ISOLATED FORM"⟩,
   ⟨0xFC26, 2, "ARABIC LIGATURE ", "TAH WITH HAH ISOLATED FORM,ZAH WITH MEEM ISOLATED FORM"⟩,
   ⟨0xFC29, 1, "ARABIC LIGATURE AIN WITH ", "JEEM ISOLATED FORM,MEEM ISOLATED FORM"⟩,
   ⟨0xFC2B, 1, "ARABIC LIGATURE GHAIN WITH ", "JEEM ISOLATED FORM,MEEM ISOLATED FORM"⟩,
   ⟨0xFC2D, 1, "ARABIC LIGATURE FEH WITH ", "JEEM ISOLATED FORM,HAH ISOLATED FORM"⟩,
   ⟨0xFC2F, 2, "ARABIC LIGATURE FEH WITH ", "KHAH ISOLATED FORM,ALEF MAKSURA ISOLATED FORM"⟩,
   ⟨0xFC30, 2, "ARABIC LIGATURE FEH WITH ", "MEEM ISOLATED FORM,YEH ISOLATED FORM"⟩,
   ⟨0xFC33, 2, "ARABIC LIGATURE QAF WITH ", "HAH ISOLATED FORM,ALEF MAKSURA ISOLATED FORM"⟩,
   ⟨0xFC34, 2, "ARABIC LIGATURE QAF WITH ", "MEEM ISOLATED FORM,YEH ISOLATED FORM"⟩,
   ⟨0xFC37, 2, "ARABIC LIGATURE KAF WITH ", "ALEF ISOLATED FORM,HAH ISOLATED FORM"⟩,
   ⟨0xFC38, 2, "ARABIC LIGATURE KAF WITH ", "JEEM ISOLATED FORM,KHAH ISOLATED FORM"⟩,
   ⟨0xFC3B, 2, "ARABIC LIGATURE KAF WITH ", "LAM ISOLATED FORM,ALEF MAKSURA ISOLATED FORM"⟩,
   ⟨0xFC3C, 2, "ARABIC LIGATURE KAF WITH ", "MEEM ISOLATED FORM,YEH ISOLATED FORM"⟩,
   ⟨0xFC3F, 1, "ARABIC LIGATURE LAM WITH ", "JEEM ISOLATED FORM,HAH ISOLATED FORM"⟩,
   ⟨0xFC41, 2, "ARABIC LIGATURE LAM WITH ", "KHAH ISOLATED FORM,ALEF MAKSURA ISOLATED FORM"⟩,
   ⟨0xFC42, 2, "ARABIC LIGATURE LAM WITH ", "MEEM ISOLATED FORM,YEH ISOLATED FORM"⟩,
   ⟨0xFC45, 1, "ARABIC LIGATURE MEEM WITH ", "JEEM ISOLATED FORM,HAH ISOLATED FORM"⟩,
   ⟨0xFC47, 2, "ARABIC LIGATURE MEEM WITH ", "KHAH ISOLATED FORM,ALEF MAKSURA ISOLATED FORM"⟩,
   ⟨0xFC48, 2, "ARABIC LIGATURE MEEM WITH ", "MEEM ISOLATED FORM,YEH ISOLATED FORM"⟩,
   ⟨0xFC4B, 1, "ARABIC LIGATURE NOON WITH ", "JEEM ISOLATED FORM,HAH ISOLATED FORM"⟩,
   ⟨0xFC4D, 2, "ARABIC LIGATURE NOON WITH ", "KHAH ISOLATED FORM,ALEF MAKSURA ISOLATED FORM"⟩,
   ⟨0xFC4E, 2, "ARABIC LIGATURE NOON WITH ", "MEEM ISOLATED FORM,YEH ISOLATED FORM"⟩,
   ⟨0xFC51, 2, "ARABIC LIGATURE HEH WITH ", "JEEM ISOLATED FORM,ALEF MAKSURA ISOLATED FORM"⟩,
   ⟨0xFC52, 2, "ARABIC LIGATURE HEH WITH ", "MEEM ISOLATED FORM,YEH ISOLATED FORM"⟩,
   ⟨0xFC55, 1, "ARABIC LIGATURE YEH WITH ", "JEEM ISOLATED FORM,HAH ISOLATED FORM"⟩,
   ⟨0xFC57, 2, "ARABIC LIGATURE YEH WITH ", "KHAH ISOLATED FORM,ALEF MAKSURA ISOLATED FORM"⟩,
   ⟨0xFC58, 2, "ARABIC LIGATURE YEH WITH ", "MEEM ISOLATED FORM,YEH ISOLATED FORM"⟩,
   ⟨0xFC5B, 1, "ARABIC LIGATURE THAL WITH SUPERSCRIPT ALEF ISOLATED FORM", ""⟩,
   ⟨0xFC5C, 1, "ARABIC LIGATURE REH WITH SUPERSCRIPT ALEF ISOLATED FORM", ""⟩,
   ⟨0xFC5D, 1, "ARABIC LIGATURE ALEF MAKSURA WITH SUPERSCRIPT ALEF ISOLATED FORM", ""⟩,
   ⟨0xFC5E, 1, "ARABIC LIGATURE SHADDA WITH ", "DAMMATAN ISOLATED FORM,KASRATAN ISOLATED FORM"⟩,
   ⟨0xFC60, 2, "ARABIC LIGATURE SHADDA WITH ", "FATHA ISOLATED FORM,KASRA ISOLATED FORM"⟩,
   ⟨0xFC61, 2,
    "ARABIC LIGATURE SHADDA WITH ", "DAMMA ISOLATED FORM,SUPERSCRIPT ALEF ISOLATED FORM"⟩,
   ⟨0xFC64, 2, "ARABIC LIGATURE YEH WITH HAMZA ABOVE WITH ", "REH FINAL FORM,MEEM FINAL FORM"⟩,
   ⟨0xFC65, 2, "ARABIC LIGATURE YEH WITH HAMZA ABOVE WITH ", "ZAIN FINAL FORM,NOON FINAL FORM"⟩,
   ⟨0xFC68, 1, "ARABIC LIGATURE YEH WITH HAMZA ABOVE WITH ALEF MAKSURA FINAL FORM", ""⟩,
   ⟨0xFC69, 1, "ARABIC LIGATURE YEH WITH HAMZA ABOVE WITH YEH FINAL FORM", ""⟩,
   ⟨0xFC6A, 1, "ARABIC LIGATURE BEH WITH REH FINAL FORM", ""⟩,
   ⟨0xFC6B, 2, "ARABIC LIGATURE BEH WITH ", "ZAIN FINAL FORM,NOON FINAL FORM,YEH FINAL FORM"⟩,
   ⟨0xFC6C, 2, "ARABIC LIGATURE BEH WITH ", "MEEM FINAL FORM,ALEF MAKSURA FINAL FORM"⟩,
   ⟨0xFC70, 1, "ARABIC LIGATURE TEH WITH ", "REH FINAL FORM,ZAIN FINAL FORM,MEEM FINAL FORM"⟩,
   ⟨0xFC73, 2, "ARABIC LIGATURE TEH WITH ", "NOON FINAL FORM,YEH FINAL FORM"⟩,
   ⟨0xFC74, 2, "ARABIC LIGATURE ", "TEH WITH ALEF MAKSURA FINAL FORM,THEH WITH REH FINAL FORM"⟩,
   ⟨0xFC77, 2, "ARABIC LIGATURE THEH WITH ", "ZAIN FINAL FORM,NOON FINAL FORM,YEH FINAL FORM"⟩,
   ⟨0xFC78, 2, "ARABIC LIGATURE THEH WITH ", "MEEM FINAL FORM,ALEF MAKSURA FINAL FORM"⟩,
   ⟨0xFC7C, 1, "ARABIC LIGATURE FEH WITH ", "ALEF MAKSURA FINAL FORM,YEH FINAL FORM"⟩,
   ⟨0xFC7E, 1, "ARABIC LIGATURE QAF WITH ", "ALEF MAKSURA FINAL FORM,YEH FINAL FORM"⟩,
   ⟨0xFC80, 2, "ARABIC LIGATURE KAF WITH ", "ALEF FINAL FORM,MEEM FINAL FORM,YEH FINAL FORM"⟩,
   ⟨0xFC81, 2, "ARABIC LIGATURE KAF WITH ", "LAM FINAL FORM,ALEF MAKSURA FINAL FORM"⟩,
   ⟨0xFC85, 1, "ARABIC LIGATURE LAM WITH ", "MEEM FINAL FORM,ALEF MAKSURA FINAL FORM"⟩,
   ⟨0xFC87, 2, "ARABIC LIGATURE ", "LAM WITH YEH FINAL FORM,MEEM WITH MEEM FINAL FORM"⟩,
   ⟨0xFC88, 2, "ARABIC LIGATURE ", "MEEM WITH ALEF FINAL FORM,NOON WITH REH FINAL FORM"⟩,
   ⟨0xFC8B, 2, "ARABIC LIGATURE NOON WITH ", "ZAIN FINAL FORM,NOON FINAL FORM,YEH FINAL FORM"⟩,
   ⟨0xFC8C, 2, "ARABIC LIGATURE NOON WITH ", "MEEM FINAL FORM,ALEF MAKSURA FINAL FORM"⟩,
   ⟨0xFC90, 1, "ARABIC LIGATURE ALEF MAKSURA WITH SUPERSCRIPT ALEF FINAL FORM", ""⟩,
   ⟨0xFC91, 1, "ARABIC LIGATURE YEH WITH ", "REH FINAL FORM,ZAIN FINAL FORM,MEEM FINAL FORM"⟩,
   ⟨0xFC94, 1, "ARABIC LIGATURE YEH WITH ", "NOON FINAL FORM,ALEF MAKSURA FINAL FORM"⟩,
   ⟨0xFC96, 1, "ARABIC LIGATURE YEH WITH ", "YEH FINAL FORM,HAMZA ABOVE WITH JEEM INITIAL FORM"⟩,
   ⟨0xFC98, 2, "ARABIC LIGATURE YEH WITH HAMZA ABOVE WITH ", "HAH INITIAL FORM,MEEM INITIAL FORM"⟩,
   ⟨0xFC99, 2, "ARABIC LIGATURE YEH WITH HAMZA ABOVE WITH ", "KHAH INITIAL FORM,HEH INITIAL FORM"⟩,
   ⟨0xFC9C, 2, "ARABIC LIGATURE BEH WITH ", "JEEM INITIAL FORM,KHAH INITIAL FORM,HEH INITIAL FORM"⟩,
   ⟨0xFC9D, 2, "ARABIC LIGATURE BEH WITH ", "HAH INITIAL FORM,MEEM INITIAL FORM"⟩,
   ⟨0xFCA1, 2, "ARABIC LIGATURE TEH WITH ", "JEEM INITIAL FORM,KHAH INITIAL FORM,HEH INITIAL FORM"⟩,
   ⟨0xFCA2, 2, "ARABIC LIGATURE TEH WITH ", "HAH INITIAL FORM,MEEM INITIAL FORM"⟩,
   ⟨0xFCA6, 2, "ARABIC LIGATURE ", "THEH WITH MEEM INITIAL FORM,JEEM WITH MEEM INITIAL FORM"⟩,
   ⟨0xFCA7, 2, "ARABIC LIGATURE ", "JEEM WITH HAH INITIAL FORM,HAH WITH JEEM INITIAL FORM"⟩,
   ⟨0xFCAA, 2, "ARABIC LIGATURE ", "HAH WITH MEEM INITIAL FORM,KHAH WITH MEEM INITIAL FORM"⟩,
   ⟨0xFCAB, 2, "ARABIC LIGATURE ", "KHAH WITH JEEM INITIAL FORM,SEEN WITH JEEM INITIAL FORM"⟩,
   ⟨0xFCAE, 1,
    "ARABIC LIGATURE SEEN WITH ", "HAH INITIAL FORM,KHAH INITIAL FORM,MEEM INITIAL FORM"⟩,
   ⟨0xFCB1, 1, "ARABIC LIGATURE SAD WITH ", "HAH INITIAL FORM,KHAH INITIAL FORM,MEEM INITIAL FORM"⟩,
   ⟨0xFCB4, 1, "ARABIC LIGATURE DAD WITH ", "JEEM INITIAL FORM,HAH INITIAL FORM,KHAH INITIAL FORM"⟩,
   ⟨0xFCB7, 2, "ARABIC LIGATURE ", "DAD WITH MEEM INITIAL FORM,ZAH WITH MEEM INITIAL FORM"⟩,
   ⟨0xFCB8, 2, "ARABIC LIGATURE ", "TAH WITH HAH INITIAL FORM,AIN WITH JEEM INITIAL FORM"⟩,
   ⟨0xFCBB, 2, "ARABIC LIGATURE ", "AIN WITH MEEM INITIAL FORM,GHAIN WITH MEEM INITIAL FORM"⟩,
   ⟨0xFCBC, 2, "ARABIC LIGATURE ", "GHAIN WITH JEEM INITIAL FORM,FEH WITH JEEM INITIAL FORM"⟩,
   ⟨0xFCBF, 1, "ARABIC LIGATURE FEH WITH ", "HAH INITIAL FORM,KHAH INITIAL FORM,MEEM INITIAL FORM"⟩,
   ⟨0xFCC2, 1, "ARABIC LIGATURE QAF WITH ", "HAH INITIAL FORM,MEEM INITIAL FORM"⟩,
   ⟨0xFCC4, 2,
    "ARABIC LIGATURE KAF WITH ", "JEEM INITIAL FORM,KHAH INITIAL FORM,MEEM INITIAL FORM"⟩,
   ⟨0xFCC5, 2, "ARABIC LIGATURE KAF WITH ", "HAH INITIAL FORM,LAM INITIAL FORM"⟩,
   ⟨0xFCC9, 2, "ARABIC LIGATURE LAM WITH ", "JEEM INITIAL FORM,KHAH INITIAL FORM,HEH INITIAL FORM"⟩,
   ⟨0xFCCA, 2, "ARABIC LIGATURE LAM WITH ", "HAH INITIAL FORM,MEEM INITIAL FORM"⟩,
   ⟨0xFCCE, 1,
    "ARABIC LIGATURE MEEM WITH ", "JEEM INITIAL FORM,HAH INITIAL FORM,KHAH INITIAL FORM"⟩,
   ⟨0xFCD1, 1, "ARABIC LIGATURE ", "MEEM WITH MEEM INITIAL FORM,NOON WITH JEEM INITIAL FORM"⟩,
   ⟨0xFCD3, 1,
    "ARABIC LIGATURE NOON WITH ", "HAH INITIAL FORM,KHAH INITIAL FORM,MEEM INITIAL FORM"⟩,
   ⟨0xFCD6, 2, "ARABIC LIGATURE ", "NOON WITH HEH INITIAL FORM,HEH WITH MEEM INITIAL FORM"⟩,
   ⟨0xFCD7, 2, "ARABIC LIGATURE HEH WITH ", "JEEM INITIAL FORM,SUPERSCRIPT ALEF INITIAL FORM"⟩,
   ⟨0xFCDA, 2, "ARABIC LIGATURE YEH WITH ", "JEEM INITIAL FORM,KHAH INITIAL FORM,HEH INITIAL FORM"⟩,
   ⟨0xFCDB, 2, "ARABIC LIGATURE YEH WITH ", "HAH INITIAL FORM,MEEM INITIAL FORM"⟩,
   ⟨0xFCDF, 1, "ARABIC LIGATURE YEH WITH HAMZA ABOVE WITH ", "MEEM MEDIAL FORM,HEH MEDIAL FORM"⟩,
   ⟨0xFCE1, 1, "ARABIC LIGATURE BEH WITH ", "MEEM MEDIAL FORM,HEH MEDIAL FORM"⟩,
   ⟨0xFCE3, 1, "ARABIC LIGATURE TEH WITH ", "MEEM MEDIAL FORM,HEH MEDIAL FORM"⟩,
   ⟨0xFCE5, 1, "ARABIC LIGATURE THEH WITH ", "MEEM MEDIAL FORM,HEH MEDIAL FORM"⟩,
   ⟨0xFCE7, 1, "ARABIC LIGATURE SEEN WITH ", "MEEM MEDIAL FORM,HEH MEDIAL FORM"⟩,
   ⟨0xFCE9, 1, "ARABIC LIGATURE SHEEN WITH ", "MEEM MEDIAL FORM,HEH MEDIAL FORM"⟩,
   ⟨0xFCEB, 1, "ARABIC LIGATURE KAF WITH ", "LAM MEDIAL FORM,MEEM MEDIAL FORM"⟩,
   ⟨0xFCED, 2, "ARABIC LIGATURE ", "LAM WITH MEEM MEDIAL FORM,NOON WITH HEH MEDIAL FORM"⟩,
   ⟨0xFCEE, 2, "ARABIC LIGATURE ", "NOON WITH MEEM MEDIAL FORM,YEH WITH MEEM MEDIAL FORM"⟩,
   ⟨0xFCF1, 2, "ARABIC LIGATURE ", "YEH WITH HEH MEDIAL FORM,SHADDA WITH DAMMA MEDIAL FORM"⟩,
   ⟨0xFCF2, 2, "ARABIC LIGATURE SHADDA WITH ", "FATHA MEDIAL FORM,KASRA MEDIAL FORM"⟩,
   ⟨0xFCF5, 1, "ARABIC LIGATURE TAH WITH ", "ALEF MAKSURA ISOLATED FORM,YEH ISOLATED FORM"⟩,
   ⟨0xFCF7, 1, "ARABIC LIGATURE AIN WITH ", "ALEF MAKSURA ISOLATED FORM,YEH ISOLATED FORM"⟩,
   ⟨0xFCF9, 1, "ARABIC LIGATURE GHAIN WITH ", "ALEF MAKSURA ISOLATED FORM,YEH ISOLATED FORM"⟩,
   ⟨0xFCFB, 1, "ARABIC LIGATURE SEEN WITH ", "ALEF MAKSURA ISOLATED FORM,YEH ISOLATED FORM"⟩,
   ⟨0xFCFD, 1, "ARABIC LIGATURE SHEEN WITH ", "ALEF MAKSURA ISOLATED FORM,YEH ISOLATED FORM"⟩,
   ⟨0xFCFF, 1, "ARABIC LIGATURE HAH WITH ", "ALEF MAKSURA ISOLATED FORM,YEH ISOLATED FORM"⟩,
   ⟨0xFD01, 1, "ARABIC LIGATURE JEEM WITH ", "ALEF MAKSURA ISOLATED FORM,YEH ISOLATED FORM"⟩,
   ⟨0xFD03, 1, "ARABIC LIGATURE KHAH WITH ", "ALEF MAKSURA ISOLATED FORM,YEH ISOLATED FORM"⟩,
   ⟨0xFD05, 1, "ARABIC LIGATURE SAD WITH ", "ALEF MAKSURA ISOLATED FORM,YEH ISOLATED FORM"⟩,
   ⟨0xFD07, 1, "ARABIC LIGATURE DAD WITH ", "ALEF MAKSURA ISOLATED FORM,YEH ISOLATED FORM"⟩,
   ⟨0xFD09, 2, "ARABIC LIGATURE SHEEN WITH ", "JEEM ISOLATED FORM,KHAH ISOLATED FORM"⟩,
   ⟨0xFD0A, 2, "ARABIC LIGATURE SHEEN WITH ", "HAH ISOLATED FORM,MEEM ISOLATED FORM"⟩,
   ⟨0xFD0D, 2, "ARABIC LIGATURE ", "SHEEN WITH REH ISOLATED FORM,SAD WITH REH ISOLATED FORM"⟩,
   ⟨0xFD0E, 2, "ARABIC LIGATURE ", "SEEN WITH REH ISOLATED FORM,DAD WITH REH ISOLATED FORM"⟩,
   ⟨0xFD11, 1, "ARABIC LIGATURE TAH WITH ", "ALEF MAKSURA FINAL FORM,YEH FINAL FORM"⟩,
   ⟨0xFD13, 1, "ARABIC LIGATURE AIN WITH ", "ALEF MAKSURA FINAL FORM,YEH FINAL FORM"⟩,
   ⟨0xFD15, 1, "ARABIC LIGATURE GHAIN WITH ", "ALEF MAKSURA FINAL FORM,YEH FINAL FORM"⟩,
   ⟨0xFD17, 1, "ARABIC LIGATURE SEEN WITH ", "ALEF MAKSURA FINAL FORM,YEH FINAL FORM"⟩,
   ⟨0xFD19, 1, "ARABIC LIGATURE SHEEN WITH ", "ALEF MAKSURA FINAL FORM,YEH FINAL FORM"⟩,
   ⟨0xFD1B, 1, "ARABIC LIGATURE HAH WITH ", "ALEF MAKSURA FINAL FORM,YEH FINAL FORM"⟩,
   ⟨0xFD1D, 1, "ARABIC LIGATURE JEEM WITH ", "ALEF MAKSURA FINAL FORM,YEH FINAL FORM"⟩,
   ⟨0xFD1F, 1, "ARABIC LIGATURE KHAH WITH ", "ALEF MAKSURA FINAL FORM,YEH FINAL FORM"⟩,
   ⟨0xFD21, 1, "ARABIC LIGATURE SAD WITH ", "ALEF MAKSURA FINAL FORM,YEH FINAL FORM"⟩,
   ⟨0xFD23, 1, "ARABIC LIGATURE DAD WITH ", "ALEF MAKSURA FINAL FORM,YEH FINAL FORM"⟩,
   ⟨0xFD25, 2, "ARABIC LIGATURE SHEEN WITH ", "JEEM FINAL FORM,KHAH FINAL FORM,REH FINAL FORM"⟩,
   ⟨0xFD26, 2, "ARABIC LIGATURE SHEEN WITH ", "HAH FINAL FORM,MEEM FINAL FORM"⟩,
   ⟨0xFD2A, 1, "ARABIC LIGATURE ", "SEEN WITH REH FINAL FORM,SAD WITH REH FINAL FORM"⟩,
   ⟨0xFD2C, 2, "ARABIC LIGATURE ", "DAD WITH REH FINAL FORM,SHEEN WITH HAH INITIAL FORM"⟩,
   ⟨0xFD2D, 2, "ARABIC LIGATURE SHEEN WITH ", "JEEM INITIAL FORM,KHAH INITIAL FORM"⟩,
   ⟨0xFD30, 2, "ARABIC LIGATURE SHEEN WITH ", "MEEM INITIAL FORM,HEH INITIAL FORM"⟩,
   ⟨0xFD31, 2, "ARABIC LIGATURE ", "SEEN WITH HEH INITIAL FORM,TAH WITH MEEM INITIAL FORM"⟩,
   ⟨0xFD34, 1, "ARABIC LIGATURE SEEN WITH ", "JEEM MEDIAL FORM,HAH MEDIAL FORM,KHAH MEDIAL FORM"⟩,
   ⟨0xFD37, 1, "ARABIC LIGATURE SHEEN WITH ", "JEEM MEDIAL FORM,HAH MEDIAL FORM,KHAH MEDIAL FORM"⟩,
   ⟨0xFD3A, 1, "ARABIC LIGATURE ", "TAH WITH MEEM MEDIAL FORM,ZAH WITH MEEM MEDIAL FORM"⟩,
   ⟨0xFD3C, 1, "ARABIC LIGATURE ALEF WITH FATHATAN ", "FINAL FORM,ISOLATED FORM"⟩,
   ⟨0xFD3E, 1, "ORNATE ", "LEFT PARENTHESIS,RIGHT PARENTHESIS"⟩,
   ⟨0xFD40, 1, "ARABIC LIGATURE RAHIMAHU ALLAAH", ""⟩,
   ⟨0xFD41, 1, "ARABIC LIGATURE RADI ALLAAHU ", "ANH,ANHAA,ANHUM,ANHUMAA,ANHUNNA"⟩,
   ⟨0xFD46, 1,
    "ARABIC LIGATURE ", "SALLALLAAHU ALAYHI WA-AALIH,ALAYHI AS-SALAAM,ALAYHIM AS-SALAAM"⟩,
   ⟨0xFD49, 1, "ARABIC LIGATURE ", "ALAYHIMAA AS-SALAAM,ALAYHI AS-SALAATU WAS-SALAAM"⟩,
   ⟨0xFD4B, 2, "ARABIC LIGATURE ", "QUDDISA SIRRAH,ALAYHAA AS-SALAAM,RAHIMAHUM ALLAAH"⟩,
   ⟨0xFD4C, 2, "ARABIC LIGATURE ", "SALLALLAHU ALAYHI WAAALIHEE WA-SALLAM,TABAARAKA WA-TAAALAA"⟩,
   ⟨0xFD50, 1, "ARABIC LIGATURE TEH WITH ", "JEEM WITH MEEM INITIAL FORM,HAH WITH JEEM FINAL FORM"⟩,
   ⟨0xFD52, 1, "ARABIC LIGATURE TEH WITH HAH WITH ", "JEEM INITIAL FORM,MEEM INITIAL FORM"⟩,
   ⟨0xFD54, 1, "ARABIC LIGATURE TEH WITH KHAH WITH MEEM INITIAL FORM", ""⟩,
   ⟨0xFD55, 1, "ARABIC LIGATURE TEH WITH MEEM WITH JEEM INITIAL FORM", ""⟩,
   ⟨0xFD56, 1, "ARABIC LIGATURE TEH WITH MEEM WITH ", "HAH INITIAL FORM,KHAH INITIAL FORM"⟩,
   ⟨0xFD58, 1, "ARABIC LIGATURE JEEM WITH MEEM WITH HAH ", "FINAL FORM,INITIAL FORM"⟩,
   ⟨0xFD5A, 1, "ARABIC LIGATURE HAH WITH MEEM WITH ", "YEH FINAL FORM,ALEF MAKSURA FINAL FORM"⟩,
   ⟨0xFD5C, 1, "ARABIC LIGATURE SEEN WITH HAH WITH JEEM INITIAL FORM", ""⟩,
   ⟨0xFD5D, 1, "ARABIC LIGATURE SEEN WITH JEEM WITH ", "HAH INITIAL FORM,ALEF MAKSURA FINAL FORM"⟩,
   ⟨0xFD5F, 1, "ARABIC LIGATURE SEEN WITH MEEM WITH HAH ", "FINAL FORM,INITIAL FORM"⟩,
   ⟨0xFD61, 1, "ARABIC LIGATURE SEEN WITH MEEM WITH JEEM INITIAL FORM", ""⟩,
   ⟨0xFD62, 1, "ARABIC LIGATURE SEEN WITH MEEM WITH MEEM ", "FINAL FORM,INITIAL FORM"⟩,
   ⟨0xFD64, 1, "ARABIC LIGATURE SAD WITH HAH WITH HAH ", "FINAL FORM,INITIAL FORM"⟩,
   ⟨0xFD66, 1, "ARABIC LIGATURE SAD WITH MEEM WITH MEEM FINAL FORM", ""⟩,
   ⟨0xFD67, 1, "ARABIC LIGATURE SHEEN WITH HAH WITH MEEM ", "FINAL FORM,INITIAL FORM"⟩,
   ⟨0xFD69, 1, "ARABIC LIGATURE SHEEN WITH JEEM WITH YEH FINAL FORM", ""⟩,
   ⟨0xFD6A, 1, "ARABIC LIGATURE SHEEN WITH MEEM WITH KHAH ", "FINAL FORM,INITIAL FORM"⟩,
   ⟨0xFD6C, 1, "ARABIC LIGATURE SHEEN WITH MEEM WITH MEEM ", "FINAL FORM,INITIAL FORM"⟩,
   ⟨0xFD6E, 1, "ARABIC LIGATURE DAD WITH HAH WITH ALEF MAKSURA FINAL FORM", ""⟩,
   ⟨0xFD6F, 1, "ARABIC LIGATURE DAD WITH KHAH WITH MEEM ", "FINAL FORM,INITIAL FORM"⟩,
   ⟨0xFD71, 1, "ARABIC LIGATURE TAH WITH MEEM WITH HAH ", "FINAL FORM,INITIAL FORM"⟩,
   ⟨0xFD73, 1, "ARABIC LIGATURE TAH WITH MEEM WITH ", "MEEM INITIAL FORM,YEH FINAL FORM"⟩,
   ⟨0xFD75, 2,
    "ARABIC LIGATURE AIN WITH ", "JEEM WITH MEEM FINAL FORM,MEEM WITH MEEM INITIAL FORM"⟩,
   ⟨0xFD76, 2, "ARABIC LIGATURE AIN WITH MEEM WITH ", "MEEM FINAL FORM,ALEF MAKSURA FINAL FORM"⟩,
   ⟨0xFD79, 1, "ARABIC LIGATURE GHAIN WITH MEEM WITH MEEM FINAL FORM", ""⟩,
   ⟨0xFD7A, 1, "ARABIC LIGATURE GHAIN WITH MEEM WITH ", "YEH FINAL FORM,ALEF MAKSURA FINAL FORM"⟩,
   ⟨0xFD7C, 1, "ARABIC LIGATURE FEH WITH KHAH WITH MEEM ", "FINAL FORM,INITIAL FORM"⟩,
   ⟨0xFD7E, 1, "ARABIC LIGATURE QAF WITH MEEM WITH ", "HAH FINAL FORM,MEEM FINAL FORM"⟩,
   ⟨0xFD80, 1, "ARABIC LIGATURE LAM WITH HAH WITH MEEM FINAL FORM", ""⟩,
   ⟨0xFD81, 1, "ARABIC LIGATURE LAM WITH HAH WITH ", "YEH FINAL FORM,ALEF MAKSURA FINAL FORM"⟩,
   ⟨0xFD83, 1, "ARABIC LIGATURE LAM WITH JEEM WITH JEEM ", "INITIAL FORM,FINAL FORM"⟩,
   ⟨0xFD85, 1, "ARABIC LIGATURE LAM WITH KHAH WITH MEEM ", "FINAL FORM,INITIAL FORM"⟩,
   ⟨0xFD87, 1, "ARABIC LIGATURE LAM WITH MEEM WITH HAH ", "FINAL FORM,INITIAL FORM"⟩,
   ⟨0xFD89, 1, "ARABIC LIGATURE MEEM WITH HAH WITH JEEM INITIAL FORM", ""⟩,
   ⟨0xFD8A, 1, "ARABIC LIGATURE MEEM WITH HAH WITH ", "MEEM INITIAL FORM,YEH FINAL FORM"⟩,
   ⟨0xFD8C, 1, "ARABIC LIGATURE MEEM WITH JEEM WITH ", "HAH INITIAL FORM,MEEM INITIAL FORM"⟩,
   ⟨0xFD8E, 1, "ARABIC LIGATURE MEEM WITH KHAH WITH ", "JEEM INITIAL FORM,MEEM INITIAL FORM"⟩,
   ⟨0xFD92, 1, "ARABIC LIGATURE MEEM WITH JEEM WITH KHAH INITIAL FORM", ""⟩,
   ⟨0xFD93, 1, "ARABIC LIGATURE HEH WITH MEEM WITH ", "JEEM INITIAL FORM,MEEM INITIAL FORM"⟩,
   ⟨0xFD95, 1, "ARABIC LIGATURE NOON WITH HAH WITH ", "MEEM INITIAL FORM,ALEF MAKSURA FINAL FORM"⟩,
   ⟨0xFD97, 1, "ARABIC LIGATURE NOON WITH JEEM WITH MEEM ", "FINAL FORM,INITIAL FORM"⟩,
   ⟨0xFD99, 1, "ARABIC LIGATURE NOON WITH JEEM WITH ALEF MAKSURA FINAL FORM", ""⟩,
   ⟨0xFD9A, 1, "ARABIC LIGATURE NOON WITH MEEM WITH ", "YEH FINAL FORM,ALEF MAKSURA FINAL FORM"⟩,
   ⟨0xFD9C, 1, "ARABIC LIGATURE YEH WITH MEEM WITH MEEM ", "FINAL FORM,INITIAL FORM"⟩,
   ⟨0xFD9E, 1, "ARABIC LIGATURE BEH WITH KHAH WITH YEH FINAL FORM", ""⟩,
   ⟨0xFD9F, 1, "ARABIC LIGATURE TEH WITH JEEM WITH ", "YEH FINAL FORM,ALEF MAKSURA FINAL FORM"⟩,
   ⟨0xFDA1, 1, "ARABIC LIGATURE TEH WITH KHAH WITH ", "YEH FINAL FORM,ALEF MAKSURA FINAL FORM"⟩,
   ⟨0xFDA3, 1, "ARABIC LIGATURE TEH WITH MEEM WITH ", "YEH FINAL FORM,ALEF MAKSURA FINAL FORM"⟩,
   ⟨0xFDA5, 1, "ARABIC LIGATURE JEEM WITH MEEM WITH YEH FINAL FORM", ""⟩,
   ⟨0xFDA6, 1, "ARABIC LIGATURE JEEM WITH HAH WITH ALEF MAKSURA FINAL FORM", ""⟩,
   ⟨0xFDA7, 1, "ARABIC LIGATURE JEEM WITH MEEM WITH ALEF MAKSURA FINAL FORM", ""⟩,
   ⟨0xFDA8, 1, "ARABIC LIGATURE SEEN WITH KHAH WITH ALEF MAKSURA FINAL FORM", ""⟩,
   ⟨0xFDA9, 1, "ARABIC LIGATURE SAD WITH HAH WITH YEH FINAL FORM", ""⟩,
   ⟨0xFDAA, 1, "ARABIC LIGATURE SHEEN WITH HAH WITH YEH FINAL FORM", ""⟩,
   ⟨0xFDAB, 1, "ARABIC LIGATURE DAD WITH HAH WITH YEH FINAL FORM", ""⟩,
   ⟨0xFDAC, 1, "ARABIC LIGATURE LAM WITH ", "JEEM WITH YEH FINAL FORM,MEEM WITH YEH FINAL FORM"⟩,
   ⟨0xFDAE, 1, "ARABIC LIGATURE YEH WITH HAH WITH YEH FINAL FORM", ""⟩,
   ⟨0xFDAF, 1, "ARABIC LIGATURE YEH WITH ", "JEEM WITH YEH FINAL FORM,MEEM WITH YEH FINAL FORM"⟩,
   ⟨0xFDB1, 1, "ARABIC LIGATURE MEEM WITH MEEM WITH YEH FINAL FORM", ""⟩,
   ⟨0xFDB2, 1, "ARABIC LIGATURE QAF WITH MEEM WITH YEH FINAL FORM", ""⟩,
   ⟨0xFDB3, 1, "ARABIC LIGATURE NOON WITH HAH WITH YEH FINAL FORM", ""⟩,
   ⟨0xFDB4, 1, "ARABIC LIGATURE QAF WITH MEEM WITH HAH INITIAL FORM", ""⟩,
   ⟨0xFDB5, 1, "ARABIC LIGATURE LAM WITH HAH WITH MEEM INITIAL FORM", ""⟩,
   ⟨0xFDB6, 1, "ARABIC LIGATURE AIN WITH MEEM WITH YEH FINAL FORM", ""⟩,
   ⟨0xFDB7, 1, "ARABIC LIGATURE KAF WITH MEEM WITH YEH FINAL FORM", ""⟩,
   ⟨0xFDB8, 1, "ARABIC LIGATURE NOON WITH JEEM WITH HAH INITIAL FORM", ""⟩,
   ⟨0xFDB9, 1, "ARABIC LIGATURE MEEM WITH KHAH WITH YEH FINAL FORM", ""⟩,
   ⟨0xFDBA, 1, "ARABIC LIGATURE LAM WITH JEEM WITH MEEM INITIAL FORM", ""⟩,
   ⟨0xFDBB, 1, "ARABIC LIGATURE KAF WITH MEEM WITH MEEM FINAL FORM", ""⟩,
   ⟨0xFDBC, 1, "ARABIC LIGATURE LAM WITH JEEM WITH MEEM FINAL FORM", ""⟩,
   ⟨0xFDBD, 1, "ARABIC LIGATURE NOON WITH JEEM WITH HAH FINAL FORM", ""⟩,
   ⟨0xFDBE, 1, "ARABIC LIGATURE JEEM WITH HAH WITH YEH FINAL FORM", ""⟩,
   ⟨0xFDBF, 1, "ARABIC LIGATURE HAH WITH JEEM WITH YEH FINAL FORM", ""⟩,
   ⟨0xFDC0, 1, "ARABIC LIGATURE MEEM WITH JEEM WITH YEH FINAL FORM", ""⟩,
   ⟨0xFDC1, 1, "ARABIC LIGATURE FEH WITH MEEM WITH YEH FINAL FORM", ""⟩,
   ⟨0xFDC2, 1, "ARABIC LIGATURE BEH WITH HAH WITH YEH FINAL FORM", ""⟩,
   ⟨0xFDC3, 1, "ARABIC LIGATURE KAF WITH MEEM WITH MEEM INITIAL FORM", ""⟩,
   ⟨0xFDC4, 1, "ARABIC LIGATURE AIN WITH JEEM WITH MEEM INITIAL FORM", ""⟩,
   ⟨0xFDC5, 1, "ARABIC LIGATURE SAD WITH MEEM WITH MEEM INITIAL FORM", ""⟩,
   ⟨0xFDC6, 1, "ARABIC LIGATURE SEEN WITH KHAH WITH YEH FINAL FORM", ""⟩,
   ⟨0xFDC7, 1, "ARABIC LIGATURE NOON WITH JEEM WITH YEH FINAL FORM", ""⟩,
   ⟨0xFDCF, 1, "ARABIC LIGATURE SALAAMUHU ALAYNAA", ""⟩,
   ⟨0xFDF0, 1, "ARABIC LIGATURE SALLA USED AS KORANIC STOP SIGN ISOLATED FORM", ""⟩,
   ⟨0xFDF1, 1, "ARABIC LIGATURE QALA USED AS KORANIC STOP SIGN ISOLATED FORM", ""⟩,
   ⟨0xFDF2, 1,
    "ARABIC LIGATURE ", "ALLAH ISOLATED FORM,AKBAR ISOLATED FORM,MOHAMMAD ISOLATED FORM"⟩,
   ⟨0xFDF5, 1, "ARABIC LIGATURE ", "SALAM ISOLATED FORM,RASOUL ISOLATED FORM"⟩,
   ⟨0xFDF7, 2, "ARABIC LIGATURE ", "ALAYHE ISOLATED FORM,SALLA ISOLATED FORM,JALLAJALALOUHOU"⟩,
   ⟨0xFDF8, 2, "ARABIC LIGATURE ", "WASALLAM ISOLATED FORM,SALLALLAHOU ALAYHE WASALLAM"⟩,
   ⟨0xFDFC, 1, "", "RIAL SIGN,ARABIC LIGATURE BISMILLAH AR-RAHMAN AR-RAHEEM"⟩,
   ⟨0xFDFE, 1, "ARABIC LIGATURE ", "SUBHAANAHU WA TAAALAA,AZZA WA JALL"⟩,
   ⟨0xFE00, 1, "VARIATION SELECTOR-", "1,2,3,4,5,6,7,8,9,10,11,12,13,14,15,16"⟩,
   ⟨0xFE10, 2, "PRESENTATION FORM FOR VERTICAL ", "COMMA,IDEOGRAPHIC FULL STOP,SEMICOLON"⟩,
   ⟨0xFE11, 2, "PRESENTATION FORM FOR VERTICAL ", "IDEOGRAPHIC COMMA,COLON"⟩,
   ⟨0xFE15, 2, "PRESENTATION FORM FOR VERTICAL ", "EXCLAMATION MARK,LEFT WHITE LENTICULAR BRACKET"⟩,
   ⟨0xFE16, 2, "PRESENTATION FORM FOR VERTICAL ", "QUESTION MARK,RIGHT WHITE LENTICULAR BRAKCET"⟩,
   ⟨0xFE19, 1, "PRESENTATION FORM FOR VERTICAL HORIZONTAL ELLIPSIS", ""⟩,
   ⟨0xFE20, 1, "COMBINING ", "LIGATURE LEFT HALF,LIGATURE RIGHT HALF,DOUBLE TILDE LEFT HALF"⟩,
   ⟨0xFE23, 2, "COMBINING ", "DOUBLE TILDE RIGHT HALF,MACRON RIGHT HALF,LIGATURE LEFT HALF BELOW"⟩,
   ⟨0xFE24, 2, "COMBINING ", "MACRON LEFT HALF,CONJOINING MACRON,LIGATURE RIGHT HALF BELOW"⟩,
   ⟨0xFE29, 2,
    "COMBINING ", "TILDE LEFT HALF BELOW,MACRON LEFT HALF BELOW,CONJOINING MACRON BELOW"⟩,
   ⟨0xFE2A, 2, "COMBINING ", "TILDE RIGHT HALF BELOW,MACRON RIGHT HALF BELOW"⟩,
   ⟨0xFE2E, 1, "COMBINING CYRILLIC TITLO ", "LEFT HALF,RIGHT HALF"⟩,
   ⟨0xFE30, 1, "PRESENTATION FORM FOR VERTICAL TWO DOT LEADER", ""⟩,
   ⟨0xFE31, 2, "PRESENTATION FORM FOR VERTICAL ", "EM DASH,LOW LINE,LEFT PARENTHESIS"⟩,
   ⟨0xFE32, 2, "PRESENTATION FORM FOR VERTICAL ", "EN DASH,WAVY LOW LINE,RIGHT PARENTHESIS"⟩,
   ⟨0xFE37, 2, "PRESENTATION FORM FOR VERTICAL LEFT ", "CURLY BRACKET,TORTOISE SHELL BRACKET"⟩,
   ⟨0xFE38, 2, "PRESENTATION FORM FOR VERTICAL RIGHT ", "CURLY BRACKET,TORTOISE SHELL BRACKET"⟩,
   ⟨0xFE3B, 1, "PRESENTATION FORM FOR VERTICAL LEFT BLACK LENTICULAR BRACKET", ""⟩,
   ⟨0xFE3C, 1, "PRESENTATION FORM FOR VERTICAL RIGHT BLACK LENTICULAR BRACKET", ""⟩,
   ⟨0xFE3D, 2, "PRESENTATION FORM FOR VERTICAL LEFT ", "DOUBLE ANGLE BRACKET,ANGLE BRACKET"⟩,
   ⟨0xFE3E, 2, "PRESENTATION FORM FOR VERTICAL RIGHT ", "DOUBLE ANGLE BRACKET,ANGLE BRACKET"⟩,
   ⟨0xFE41, 2, "PRESENTATION FORM FOR VERTICAL LEFT ", "CORNER BRACKET,WHITE CORNER BRACKET"⟩,
   ⟨0xFE42, 2, "PRESENTATION FORM FOR VERTICAL RIGHT ", "CORNER BRACKET,WHITE CORNER BRACKET"⟩,
   ⟨0xFE45, 1, "", "SESAME DOT,WHITE SESAME DOT"⟩,
   ⟨0xFE47, 1, "PRESENTATION FORM FOR VERTICAL ", "LEFT SQUARE BRACKET,RIGHT SQUARE BRACKET"⟩,
   ⟨0xFE49, 1, "", "DASHED OVERLINE,CENTRELINE OVERLINE,WAVY OVERLINE"⟩,
   ⟨0xFE4C, 1, "", "DOUBLE WAVY OVERLINE,DASHED LOW LINE,CENTRELINE LOW LINE,WAVY LOW LINE"⟩,
   ⟨0xFE50, 1, "SMALL ", "COMMA,IDEOGRAPHIC COMMA,FULL STOP"⟩,
   ⟨0xFE54, 1, "SMALL ", "SEMICOLON,COLON,QUESTION MARK,EXCLAMATION MARK,EM DASH"⟩,
   ⟨0xFE59, 2, "SMALL LEFT ", "PARENTHESIS,CURLY BRACKET,TORTOISE SHELL BRACKET"⟩,
   ⟨0xFE5A, 2, "SMALL RIGHT ", "PARENTHESIS,CURLY BRACKET,TORTOISE SHELL BRACKET"⟩,
   ⟨0xFE5F, 2, "SMALL ", "NUMBER SIGN,ASTERISK,HYPHEN-MINUS,GREATER-THAN SIGN"⟩,
   ⟨0xFE60, 2, "SMALL ", "AMPERSAND,PLUS SIGN,LESS-THAN SIGN,EQUALS SIGN"⟩,
   ⟨0xFE68, 1, "SMALL ", "REVERSE SOLIDUS,DOLLAR SIGN,PERCENT SIGN,COMMERCIAL AT"⟩,
   ⟨0xFE70, 2, "ARABIC ", "FATHATAN ISOLATED FORM,DAMMATAN ISOLATED FORM,KASRATAN ISOLATED FORM"⟩,
   ⟨0xFE71, 2, "ARABIC ", "TATWEEL WITH FATHATAN ABOVE,TAIL FRAGMENT"⟩,
   ⟨0xFE76, 2, "ARABIC ", "FATHA ISOLATED FORM,DAMMA ISOLATED FORM,KASRA ISOLATED FORM"⟩,
   ⟨0xFE77, 2, "ARABIC ", "FATHA MEDIAL FORM,DAMMA MEDIAL FORM,KASRA MEDIAL FORM"⟩,
   ⟨0xFE7C, 1, "ARABIC SHADDA ", "ISOLATED FORM,MEDIAL FORM"⟩,
   ⟨0xFE7E, 1, "ARABIC ", "SUKUN ISOLATED FORM,SUKUN MEDIAL FORM,LETTER HAMZA ISOLATED FORM"⟩,
   ⟨0xFE81, 1, "ARABIC LETTER ALEF WITH MADDA ABOVE ", "ISOLATED FORM,FINAL FORM"⟩,
   ⟨0xFE83, 1, "ARABIC LETTER ALEF WITH HAMZA ABOVE ", "ISOLATED FORM,FINAL FORM"⟩,
   ⟨0xFE85, 1, "ARABIC LETTER WAW WITH HAMZA ABOVE ", "ISOLATED FORM,FINAL FORM"⟩,
   ⟨0xFE87, 1, "ARABIC LETTER ALEF WITH HAMZA BELOW ", "ISOLATED FORM,FINAL FORM"⟩,
   ⟨0xFE89, 1, "ARABIC LETTER YEH WITH HAMZA ABOVE ", "ISOLATED FORM,FINAL FORM,INITIAL FORM"⟩,
   ⟨0xFE8C, 2, "ARABIC LETTER ", "YEH WITH HAMZA ABOVE MEDIAL FORM,ALEF FINAL FORM,BEH FINAL FORM"⟩,
   ⟨0xFE8D, 2, "ARABIC LETTER ", "ALEF ISOLATED FORM,BEH ISOLATED FORM,BEH INITIAL FORM"⟩,
   ⟨0xFE92, 1,
    "ARABIC LETTER ", "BEH MEDIAL FORM,TEH MARBUTA ISOLATED FORM,TEH MARBUTA FINAL FORM"⟩,
   ⟨0xFE95, 1, "ARABIC LETTER TEH ", "ISOLATED FORM,FINAL FORM,INITIAL FORM,MEDIAL FORM"⟩,
   ⟨0xFE99, 1, "ARABIC LETTER THEH ", "ISOLATED FORM,FINAL FORM,INITIAL FORM,MEDIAL FORM"⟩,
   ⟨0xFE9D, 1, "ARABIC LETTER JEEM ", "ISOLATED FORM,FINAL FORM,INITIAL FORM,MEDIAL FORM"⟩,
   ⟨0xFEA1, 1, "ARABIC LETTER HAH ", "ISOLATED FORM,FINAL FORM,INITIAL FORM,MEDIAL FORM"⟩,
   ⟨0xFEA5, 1, "ARABIC LETTER KHAH ", "ISOLATED FORM,FINAL FORM,INITIAL FORM,MEDIAL FORM"⟩,
   ⟨0xFEA9, 2, "ARABIC LETTER ", "DAL ISOLATED FORM,THAL ISOLATED FORM,REH ISOLATED FORM"⟩,
   ⟨0xFEAA, 2, "ARABIC LETTER ", "DAL FINAL FORM,THAL FINAL FORM,REH FINAL FORM"⟩,
   ⟨0xFEAF, 1, "ARABIC LETTER ZAIN ", "ISOLATED FORM,FINAL FORM"⟩,
   ⟨0xFEB1, 1, "ARABIC LETTER SEEN ", "ISOLATED FORM,FINAL FORM,INITIAL FORM,MEDIAL FORM"⟩,
   ⟨0xFEB5, 1, "ARABIC LETTER SHEEN ", "ISOLATED FORM,FINAL FORM,INITIAL FORM,MEDIAL FORM"⟩,
   ⟨0xFEB9, 1, "ARABIC LETTER SAD ", "ISOLATED FORM,FINAL FORM,INITIAL FORM,MEDIAL FORM"⟩,
   ⟨0xFEBD, 1, "ARABIC LETTER DAD ", "ISOLATED FORM,FINAL FORM,INITIAL FORM,MEDIAL FORM"⟩,
   ⟨0xFEC1, 1, "ARABIC LETTER TAH ", "ISOLATED FORM,FINAL FORM,INITIAL FORM,MEDIAL FORM"⟩,
   ⟨0xFEC5, 1, "ARABIC LETTER ZAH ", "ISOLATED FORM,FINAL FORM,INITIAL FORM,MEDIAL FORM"⟩,
   ⟨0xFEC9, 1, "ARABIC LETTER AIN ", "ISOLATED FORM,FINAL FORM,INITIAL FORM,MEDIAL FORM"⟩,
   ⟨0xFECD, 1, "ARABIC LETTER GHAIN ", "ISOLATED FORM,FINAL FORM,INITIAL FORM,MEDIAL FORM"⟩,
   ⟨0xFED1, 1, "ARABIC LETTER FEH ", "ISOLATED FORM,FINAL FORM,INITIAL FORM,MEDIAL FORM"⟩,
   ⟨0xFED5, 1, "ARABIC LETTER QAF ", "ISOLATED FORM,FINAL FORM,INITIAL FORM,MEDIAL FORM"⟩,
   ⟨0xFED9, 1, "ARABIC LETTER KAF ", "ISOLATED FORM,FINAL FORM,INITIAL FORM,MEDIAL FORM"⟩,
   ⟨0xFEDD, 1, "ARABIC LETTER LAM ", "ISOLATED FORM,FINAL FORM,INITIAL FORM,MEDIAL FORM"⟩,
   ⟨0xFEE1, 1, "ARABIC LETTER MEEM ", "ISOLATED FORM,FINAL FORM,INITIAL FORM,MEDIAL FORM"⟩,
   ⟨0xFEE5, 1, "ARABIC LETTER NOON ", "ISOLATED FORM,FINAL FORM,INITIAL FORM,MEDIAL FORM"⟩,
   ⟨0xFEE9, 1, "ARABIC LETTER HEH ", "ISOLATED FORM,FINAL FORM,INITIAL FORM,MEDIAL FORM"⟩,
   ⟨0xFEED, 1, "ARABIC LETTER WAW ", "ISOLATED FORM,FINAL FORM"⟩,
   ⟨0xFEEF, 1, "ARABIC LETTER ALEF MAKSURA ", "ISOLATED FORM,FINAL FORM"⟩,
   ⟨0xFEF1, 1, "ARABIC LETTER YEH ", "ISOLATED FORM,FINAL FORM,INITIAL FORM,MEDIAL FORM"⟩,
   ⟨0xFEF5, 1, "ARABIC LIGATURE LAM WITH ALEF WITH MADDA ABOVE ", "ISOLATED FORM,FINAL FORM"⟩,
   ⟨0xFEF7, 1, "ARABIC LIGATURE LAM WITH ALEF WITH HAMZA ABOVE ", "ISOLATED FORM,FINAL FORM"⟩,
   ⟨0xFEF9, 1, "ARABIC LIGATURE LAM WITH ALEF WITH HAMZA BELOW ", "ISOLATED FORM,FINAL FORM"⟩,
   ⟨0xFEFB, 1, "ARABIC LIGATURE LAM WITH ALEF ", "ISOLATED FORM,FINAL FORM"⟩,
   ⟨0xFEFF, 1, "ZERO WIDTH NO-BREAK SPACE", ""⟩,
   ⟨0xFF01, 1,
    "FULLWIDTH ", "EXCLAMATION MARK,QUOTATION MARK,NUMBER SIGN,DOLLAR SIGN,PERCENT SIGN"⟩,
   ⟨0xFF06, 2, "FULLWIDTH ", "AMPERSAND,LEFT PARENTHESIS,ASTERISK,COMMA,FULL STOP"⟩,
   ⟨0xFF07, 2, "FULLWIDTH ", "APOSTROPHE,RIGHT PARENTHESIS,PLUS SIGN,HYPHEN-MINUS,SOLIDUS"⟩,
   ⟨0xFF10, 1, "FULLWIDTH DIGIT ", "ZERO,ONE,TWO,THREE,FOUR,FIVE,SIX,SEVEN,EIGHT,NINE"⟩,
   ⟨0xFF1A, 2, "FULLWIDTH ", "COLON,LESS-THAN SIGN,GREATER-THAN SIGN,COMMERCIAL AT"⟩,
   ⟨0xFF1B, 2, "FULLWIDTH ", "SEMICOLON,EQUALS SIGN,QUESTION MARK,LATIN CAPITAL LETTER A"⟩,
   ⟨0xFF22, 1,
    "FULLWIDTH LATIN CAPITAL LETTER ", "B,C,D,E,F,G,H,I,J,K,L,M,N,O,P,Q,R,S,T,U,V,W,X,Y"⟩,
   ⟨0xFF3A, 1, "FULLWIDTH ", "LATIN CAPITAL LETTER Z,LEFT SQUARE BRACKET,REVERSE SOLIDUS"⟩,
   ⟨0xFF3D, 1, "FULLWIDTH ", "RIGHT SQUARE BRACKET,CIRCUMFLEX ACCENT,LOW LINE,GRAVE ACCENT"⟩,
   ⟨0xFF41, 1,
    "FULLWIDTH LATIN SMALL LETTER ", "A,B,C,D,E,F,G,H,I,J,K,L,M,N,O,P,Q,R,S,T,U,V,W,X,Y"⟩,
   ⟨0xFF5A, 2, "FULLWIDTH ", "LATIN SMALL LETTER Z,VERTICAL LINE,TILDE,RIGHT WHITE PARENTHESIS"⟩,
   ⟨0xFF5B, 2, "FULLWIDTH ", "LEFT CURLY BRACKET,RIGHT CURLY BRACKET,LEFT WHITE PARENTHESIS"⟩,
   ⟨0xFF61, 2, "HALFWIDTH ", "IDEOGRAPHIC FULL STOP,RIGHT CORNER BRACKET,KATAKANA MIDDLE DOT"⟩,
   ⟨0xFF62, 2, "HALFWIDTH ", "LEFT CORNER BRACKET,IDEOGRAPHIC COMMA,KATAKANA LETTER WO"⟩,
   ⟨0xFF67, 1, "HALFWIDTH KATAKANA LETTER SMALL ", "A,I,U,E,O,YA,YU,YO,TU"⟩,
   ⟨0xFF70, 1, "HALFWIDTH KATAKANA-HIRAGANA PROLONGED SOUND MARK", ""⟩,
   ⟨0xFF71, 1, "HALFWIDTH KATAKANA LETTER ", "A,I,U,E,O,KA,KI,KU,KE,KO"⟩,
   ⟨0xFF7B, 2,
    "HALFWIDTH KATAKANA LETTER ", "SA,SU,SO,TI,TE,NA,NU,NO,HI,HE,MA,MU,MO,YU,RA,RU,RO,N"⟩,
   ⟨0xFF7C, 2, "HALFWIDTH KATAKANA LETTER ", "SI,SE,TA,TU,TO,NI,NE,HA,HU,HO,MI,ME,YA,YO,RI,RE,WA"⟩,
   ⟨0xFF9E, 1, "HALFWIDTH KATAKANA ", "VOICED SOUND MARK,SEMI-VOICED SOUND MARK"⟩,
   ⟨0xFFA0, 1, "HALFWIDTH HANGUL ", "FILLER,LETTER KIYEOK,LETTER SSANGKIYEOK,LETTER KIYEOK-SIOS"⟩,
   ⟨0xFFA4, 1,
    "HALFWIDTH HANGUL LETTER ", "NIEUN,NIEUN-CIEUC,NIEUN-HIEUH,TIKEUT,SSANGTIKEUT,RIEUL"⟩,
   ⟨0xFFAA, 1, "HALFWIDTH HANGUL LETTER RIEUL-", "KIYEOK,MIEUM,PIEUP,SIOS,THIEUTH,PHIEUPH,HIEUH"⟩,
   ⟨0xFFB1, 2,
    "HALFWIDTH HANGUL LETTER ", "MIEUM,SSANGPIEUP,SIOS,IEUNG,SSANGCIEUC,KHIEUKH,PHIEUPH"⟩,
   ⟨0xFFB2, 2,
    "HALFWIDTH HANGUL LETTER ", "PIEUP,PIEUP-SIOS,SSANGSIOS,CIEUC,CHIEUCH,THIEUTH,HIEUH"⟩,
   ⟨0xFFC2, 1, "HALFWIDTH HANGUL LETTER ", "A,AE,YA,YAE,EO,E"⟩,
   ⟨0xFFCA, 1, "HALFWIDTH HANGUL LETTER ", "YEO,YE,O,WA,WAE,OE"⟩,
   ⟨0xFFD2, 1, "HALFWIDTH HANGUL LETTER ", "YO,U,WEO,WE,WI,YU"⟩,
   ⟨0xFFDA, 1, "HALFWIDTH HANGUL LETTER ", "EU,YI,I"⟩,
   ⟨0xFFE0, 1, "FULLWIDTH ", "CENT SIGN,POUND SIGN,NOT SIGN,MACRON,BROKEN BAR,YEN SIGN,WON SIGN"⟩,
   ⟨0xFFE8, 2, "HALFWIDTH ", "FORMS LIGHT VERTICAL,UPWARDS ARROW,DOWNWARDS ARROW,WHITE CIRCLE"⟩,
   ⟨0xFFE9, 2, "HALFWIDTH ", "LEFTWARDS ARROW,RIGHTWARDS ARROW,BLACK SQUARE"⟩,
   ⟨0xFFF9, 1, "INTERLINEAR ANNOTATION ", "ANCHOR,SEPARATOR,TERMINATOR"⟩,
   ⟨0xFFFC, 1, "", "OBJECT REPLACEMENT CHARACTER,REPLACEMENT CHARACTER"⟩]

end RegexSubst.Unicode
