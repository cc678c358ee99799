/-!
# Text/CharName/FromA — character names starting with A to B

The names of Unicode 14 characters and their aliases that start with A to B, sorted and
front-coded: each entry is one lower-case letter or punctuation mark telling how many leading
characters it shares with the entry before it (`a` none, `b` one, and so on through
`abcdefghijklmnopqrstuvwxyz!$%&+,.:;<=>?@[]^_|~`), then the rest of the name.  The text is cut into pieces of 90 characters.
-/

namespace PracticeForge

namespace Text

/-- The front-coded names starting with A to B, in pieces. -/
def namesFromA : List String := [
    "aABACUSbC CURRENTcCORDIONeUNT OFcKdNOWLEDGEcTIVATE ARABIC FORM SHAPINGjSYMMETRIC SWAPPINGc",
    "UTE ACCENThNGLEbDDRESSED TO THE SUBJECTcHESIVE BANDAGEcI SHAKTIcLAM ALIF LENGTHENERgCAPITA",
    "L LETTER ALIFvBAwHEvCHIvDAALIwHAvEvFAvGAwBEvHAvIvJIIMvKAFwHAwPOvLAAMvMIIMvNHAwUNwYAvOvPEvQ",
    "AAFvRAvSHAwINNYIIYHEvTUvUvVAvWAWvYAwHEvZALhONSONANT MODIFIERgDIGIT EIGHTmFIVEnOURmNINEmONE",
    "mSEVENnIXmTHREEnWOmZEROgGEMINATE CONSONANT MODIFIERnION MARKgHAMZAgINITIAL EXCLAMATION MAR",
    "KoQUESTION MARKgNASALIZATION MARKhUKTAgSMALL LETTER ALIFtBAuHEtCHItDAALIuHAtEtFAtGAuBEtHAt",
    "ItJIIMtKAFuHAuPOtLAAMtMIIMtNHAuUNuYAtOtPEtQAAFtRAtSHAuINNYIIYHEtTUtUtVAtWAWtYAuHEtZALgVOWE",
    "L LENGTHENERcMETOSdISSION TICKETScULTbEGEAN CHECK MARKhDRY MEASURE FIRST SUBUNIThLIQUID ME",
    "ASURE FIRST SUBUNIThMEASURE SECOND SUBUNITpTHIRD SUBUNIThNUMBER EIGHTt HUNDREDuTHOUSANDtYu",
    " THOUSANDoFIFTYt THOUSANDqVEs HUNDREDtTHOUSANDpORTYt THOUSANDqURs HUNDREDtTHOUSANDoNINEs H",
    "UNDREDtTHOUSANDsTYu THOUSANDoONEr HUNDREDsTHOUSANDoSEVENt HUNDREDuTHOUSANDtTYv THOUSANDpIX",
    "r HUNDREDsTHOUSANDrTYt THOUSANDoTENr THOUSANDpHIRTYu THOUSANDqREEt HUNDREDuTHOUSANDpWENTYu",
    " THOUSANDqOr HUNDREDsTHOUSANDhWEIGHT BASE UNIToFIRST SUBUNITpOURTH SUBUNIToSECOND SUBUNITo",
    "THIRD SUBUNITiORD SEPARATOR DOTwLINEcRIAL TRAMWAYbFGHANI SIGNbHOM CONSONANT SIGN MEDIAL LA",
    "%IGATING RA$RAfDIGIT EIGHTlFIVEmOURlNINElONElSEVENmIXlTHREEmWOlZEROfLETTER AnLTERNATE BAwG",
    "AwTAmBAnHAmCAnHAmDAnDAoHAnHAmGAnHAmHAmJAnHAmKAnHAmLAnLAmMAmNAnGAnNAnYAmPAnHAmRAmSAmTAnHAnT",
    "AoHAfNUMBER TENnWENTYfSIGN KILLERkRULAIkSECTIONlMALL SECTIONgYMBOL VIfVOWEL SIGN ArArIrMrW",
    "qEqIrIqOqUrUbIRPLANEi ARRIVINGjDEPARTUREbKTIESELSKABbLARM CLOCKcCHEMICAL SYMBOL FOR AIRxLE",
    "MBICyKALI%-2yUMxMALGAMxNTIMONY ORExQUA REGIA.-2$VITAE.-2!FORTISxRSENICxSHESxURIPIGMENTwBAT",
    "H OF MARY+VAPOURSxISMUTH ORExLACK SULFURxORAX$-2%3xRICKwCADUCEUSyLXyPUT MORTUUMxINNABARxOP",
    "PER ANTIMONIATE&ORExROCUS OF COPPER?-2.IRONyUCIBLE+-2,3,4,5wDAY-NIGHTxISSOLVE+-2zTILLwEART",
    "HwFIREwGOLDxUMwHALF DRAM$OUNCExORSE DUNGyURwIRON ORE+-2!-COPPER OREwLEAD ORExODESTONEwMARC",
    "ASITExERCURY SUBLIMATE@-2[3xONTHwNIGHTyTREwOILwPHILOSOPHERS SULFURxOT ASHESyWDER%ED BRICKx",
    "RECIPITATExURIFYyTREFACTIONwQUICK LIMEzNTESSENCEwREALGAR&-2yGULUS& OF ANTIMONY]-2:IRON&-2+",
    "3+4yTORTxOCK SALT,-2wSAL-AMMONIACzT! OF ANTIMONY+COPPER ANTIMONIATExCEPTER OF JOVExILVERxO",
    "APxPIRITxTARRED TRIDENTyRATUM SUPER STRATUM_-2xUBLIMATE OF ANTIMONY<COPPER<SALT OF ANTIMON",
    "Y_COPPER+IONyLFURwTARTAR%-2xIN OREzCTURExRIDENTxUTTYwURINEwVERDIGRISxINEGAR& OF ANTIMONY&-",
    "2+3yTRIOL&-2wWATERyXcEF SYMBOLdMBICdRTcIEN MONSTERcL AROUND-PROFILEeEQUAL TOcMdOST EQUAL O",
    "R EQUAL TOnTOp WITH CIRCUMFLEX ACCENTcTERNATE ONE-WAY LEFT WAY TRAFFICiIVE KEY SYMBOLbMALG",
    "AMATION OR COPRODUCTcBULANCEcERICAN FOOTBALLcPERSANDdHORAbNATOLIAN HIEROGLYPH A001y2y3y4y5",
    "y6y7y8y9x10zAy1y2y3y4y5y6y7y8y9x20y1y2y3y4y5y6zAy7y8y9x30y1y2y3y4y5y6y7y8y9zAx40y1zAy2y3y4",
    "y5zAy6zAzBy7y8y9x50y1y2y3y4y5y6y7y8y9x60y1y2y3y4y5y6zAzBzCy7y8y9x70y1y2y3y4y5y6y7y8y9x80y1",
    "y2y3y4y5y6y7y8y9x90y1y2y3y4y5y6y7zAy8zAy9w100zAy1zAy2zAy3y4zAzBzCy5zAzBy6y7zAzBzCy8y9x10zA",
    "zBy1y2y3y4y5zAy6y7y8y9x20y1y2y3y4y5zAy6y7y8y9x30y1y2y3y4y5zAy6y7y8y9x40y1y2y3y4y5y6y7y8y9x",
    "50y1y2y3y4y5y6y7y8y9x60y1y2y3y4y5y6y7y8y9x70y1y2y3y4y5y6y7y8y9x80y1y2y3y4y5y6y7y8y9x90y1y2",
    "y3y4y5y6y7y8y9w200y1y2zAzBy3y4y5y6y7zAy8y9zAx10y1y2y3y4y5zAy6zAy7y8y9x20y1y2y3y4y5y6y7zAy8",
    "y9x30y1y2y3y4y5y6y7y8y9x40y1y2y3y4y5y6y7y8y9x50y1y2y3y4y5y6y7y8y9x60y1y2y3y4y5y6y7zAy8y9x7",
    "0y1y2y3y4y5y6y7y8y9x80y1y2y3y4y5y6y7y8y9zAx90y1y2y3y4zAy5y6y7y8y9zAw300y1y2y3y4y5y6y7y8y9z",
    "Ax10y1y2y3y4y5y6y7y8y9x20y1y2y3y4y5y6y7y8y9zAx30y1y2AzBzCy3y4y5y6zAzBzCy7y8y9x40y1y2y3y4y5",
    "y6y7y8y9x50y1y2y3y4y5y6y7y8y9zAx60y1y2y3y4zAy5y6y7y8zAy9x70y1zAy2y3y4y5y6y7y8y9x80y1zAy2y3",
    " RA OR RIzAy4y5y6zAy7y8y9x90y1y2y3 EIGHTy4y5y6y7y8y9w400y1y2y3y4y5y6y7y8y9x10 BEGIN LOGOGR",
    "AM MARKzA END LOGOGRAM MARKy1y2y3y4y5y6y7y8y9x20y1y2y3y4y5y6y7y8y9x30y1y2y3y4y5y6y7y8y9x40",
    "y1y2y3y4y5y6y7y8y9x50zAy1y2y3y4y5y6y7zAy8y9x60y1y2y3y4y5y6y7y8y9x70y1y2y3y4y5y6y7y8y9x80y1",
    "y2y3y4y5y6y7y8y9x90y1y2y3y4y5y6y7w501y2y3y4y5y6y7y8y9x10y1y2y3y4y5y6y7y8y9x20y1y2y3y4y5y6y",
    "7y8y9x30fMICAL HEARTcCHORcD WITH DOTcGER SYMBOLdLEf WITH S INSIDElUNDERBARdRY FACEdSTROM S",
    "IGNdUISHED FACEcKHcTdENNA WITH BARSdICLOCKWISE CLOSED CIRCLE ARROWpONTOUR INTEGRALoDOWNWAR",
    "DS AND UPWARDS OPEN CIRCLE ARROWSoGAPPED CIRCLE ARROWoINTEGRATIONoOPEN CIRCLE ARROWoTOP SE",
    "MICIRCLE ARROWpRIANGLE-HEADED BOTTOM U-SHAPED ARROW+LEFT U-SHAPED ARROW+OPEN CIRCLE ARROW+",
    "RIGHT U-SHAPED ARROW+TOP U-SHAPED ARROWbPCcL FUNCTIONAL SYMBOL ALPHA$ UNDERBARwBACKSLASH B",
    "ARwCIRCLE BACKSLASH&DIAERESIS&JOT&STAR,ILE&UNDERBARxOMMA BARwDEL DIAERESIS!STILE!TILDEzTA ",
    "STILE%UNDERBARxIAMOND UNDERBARxOWN CARET TILDE$SHOE STILE$TACK JOT.UNDERBAR!WARDS VANEwEPS",
    "ILON UNDERBARwGREATER-THAN DIAERESISwI-BEAMxOTA! UNDERBARwJOT DIAERESIS!UNDERBARwLEFT SHOE",
    " STILE!WARDS VANEwOMEGA$ UNDERBARwQUAD! BACKSLASH$CIRCLE%OLON$DEL+TA%IAMOND&VIDE%OWN CARET",
    ",WARDS ARROW$EQUAL$GREATER-THAN$JOT$LEFTWARDS ARROW&SS-THAN$NOT EQUAL$QUESTION$RIGHTWARDS ",
    "ARROW$SLASH$UP CARET&WARDS ARROWyOTE QUAD%UNDERBARwRHOxIGHTWARDS VANEwSEMICOLON UNDERBARxL",
    "ASH BARxQUISH QUADxTAR DIAERESISyILE TILDEwTILDE DIAERESISwUP CARET TILDEzSHOE JOTzTACK DI",
    "AERESIS+JOT+OVERBARyWARDS VANEwZILDEcOLLONdSTROPHEcPLICATION PROGRAM COMMANDdROACHES THE L",
    "IMITfXIMATELY BUT NOT ACTUALLY EQUAL TOoEQUAL OR EQUAL TOuTOw OR THE IMAGE OFbQUARIUSbRABI",
    "C BASELINE ROUND DOThCOMMAiURLY DAMMAsTANnFATHAsTANnKASRAsTANhDAMMAm ISOLATED FORMnMEDIAL ",
    "FORMnWITH DOTmTANp ISOLATED FORMjTE SEPARATORiECIMAL SEPARATORiISPUTED END OF AYAHiOUBLE R",
    "IGHT ARROWHEAD ABOVE< WITH DOTnD MADDAhEMPTY CENTRE HIGH STOPuLOW STOPiND OF AYAHoTEXT MAR",
    "KhFATHAm ISOLATED FORMnMEDIAL FORMnWITH DOT ABOVEsRINGsTWO DOTSmTANp ISOLATED FORMiIVE POI",
    "NTED STARiOOTNOTE MARKERiULL STOPhHALF MADDA OVER MADDAjMZA ABOVEnBELOWhINVERTED DAMMAhKAS",
    "RAm ISOLATED FORMnMEDIAL FORMnWITH DOT BELOWmTANp ISOLATED FORMhLARGE CIRCLE BELOWnROUND D",
    "OT ABOVExBELOWxINSIDE CIRCLE BELOWiEFT ARROWHEAD ABOVEwBELOWjTTER AEpFRICAN FEHwNOONwQAFz ",
    "WITH THREE DOTS ABOVEpINr FINAL FORMsINITIAL FORMtSOLATED FORMsMEDIAL FORMsWITH THREE DOTS",
    " ABOVE;BELOW;POINTING DOWNWARDS ABOVEyWO DOTS ABOVE.VERTICALLY ABOVEpLEFs FINAL FORMtISOLA",
    "TED FORMtMAKSURA! FINAL FORM$ISOLATED FORMtWASLAy FINAL FORMzISOLATED FORMuITH ATTACHED BO",
    "TTOM RIGHT KASRA~ KASRA AND DOT ABOVE~ KASRA AND LEFT RING:FATHA:KASRA:LEFT HAMZA?ROUND DO",
    "T:RIGHT HAMZA@ROUND DOT;OUND DOT ABOVE_BELOW:TOP RIGHT FATHA~THA AND DOT ABOVE~THA AND LEF",
    "T RINGyDOT ABOVEyEXTENDED ARABIC-INDIC DIGIT THREE ABOVE~ DIGIT TWO ABOVEyHAMZA ABOVE< FIN",
    "AL FORM=ISOLATED FORM+BELOW< FINAL FORM=ISOLATED FORMyLEFT MIDDLE STROKEyMADDA ABOVE< FINA",
    "L FORM=ISOLATED FORMyRIGHT MIDDLE STROKE_ AND DOT ABOVE~ND LEFT RINGyWAVY HAMZA ABOVE<BELO",
    "WoBEEHs FINAL FORMtINITIAL FORMuSOLATED FORMtMEDIAL FORMqHr FINAL FORMsINITIAL FORMtSOLATE",
    "D FORMsMEDIAL FORMsWITH DOT BELOW AND THREE DOTS ABOVExHAMZA ABOVExINVERTED SMALL V BELOWx",
    "SMALL MEEM ABOVE&V+ BELOWxTHREE DOTS HORIZONTALLY BELOW;POINTING UPWARDS BELOW~WARDS BELOW",
    " AND TWO DOTS ABOVEyWO DOTS BELOW AND DOT ABOVErEHt FINAL FORMuINITIAL FORMvSOLATED FORMuM",
    "EDIAL FORMoDADr FINAL FORMsINITIAL FORMtSOLATED FORMsMEDIAL FORMsWITH DOT BELOWqHALt FINAL",
    " FORMuISOLATED FORMqLr FINAL FORMsISOLATED FORMsWITH DOT BELOW. AND SMALL TAHxFOUR DOTS AB",
    "OVExINVERTED SMALL V BELOW.VxRINGxTHREE DOTS ABOVE DOWNWARDS;BELOWyWO DOTS VERTICALLY BELO",
    "W AND SMALL TAHpDAHALu FINAL FORMvISOLATED FORMrLs FINAL FORMtISOLATED FORMpOTLESS BEHwFEH",
    "wQAFpULr FINAL FORMsISOLATED FORMpYEHs FINAL FORMtINITIAL FORMuSOLATED FORMtMEDIAL FORMoEp",
    " FINAL FORMqINITIAL FORMrSOLATED FORMqMEDIAL FORMoFARSI YEHx FINAL FORMyINITIAL FORMzSOLAT",
    "ED FORMyMEDIAL FORMyWITH EXTENDED ARABIC-INDIC DIGIT FOUR BELOW~INDIC DIGIT THREE ABOVE~IN",
    "DIC DIGIT TWO ABOVE&INVERTED V&THREE DOTS ABOVE+WO DOTS ABOVEpEHr FINAL FORMsINITIAL FORMt",
    "SOLATED FORMsMEDIAL FORMsWITH DOT BELOW. AND THREE DOTS ABOVE$MOVED BELOWxTHREE DOTS BELOW",
    ";POINTING UPWARDS BELOWyWO DOTS BELOWoGAFr FINAL FORMsINITIAL FORMtSOLATED FORMsMEDIAL FOR",
    "MsWITH INVERTED STROKExRINGxTHREE DOTS ABOVEyWO DOTS BELOWpHAINt FINAL FORMuINITIAL FORMvS",
    "OLATED FORMuMEDIAL FORMuWITH DOT BELOWzTHREE DOTS ABOVEpRAFpUEHs FINAL FORMtINITIAL FORMuS",
    "OLATED FORMtMEDIAL FORMoHAHr FINAL FORMsINITIAL FORMtSOLATED FORMsMEDIAL FORMsWITH EXTENDE",
    "D ARABIC-INDIC DIGIT FOUR BELOWxHAMZA ABOVExINVERTED SMALL V BELOWxSMALL ARABIC LETTER TAH",
    " ABOVE~H AND TWO DOTS~H BELOWxTHREE DOTS ABOVE;POINTING UPWARDS BELOWyWO DOTS ABOVE.VERTIC",
    "AL ABOVEqMZAt ISOLATED FORMpEHr DOACHASHMEE& FINAL FORM+INITIAL FORM,SOLATED FORM+MEDIAL F",
    "ORMsFINAL FORMsGOALw FINAL FORMxINITIAL FORMySOLATED FORMxMEDIAL FORMxWITH HAMZA ABOVEsINI",
    "TIAL FORMtSOLATED FORMsMEDIAL FORMsWITH INVERTED VxYEH ABOVE. FINAL FORM:ISOLATED FORMpIGH",
    " HAMZAy ALEFzWAWzYEHoJEEMs FINAL FORMtINITIAL FORMuSOLATED FORMtMEDIAL FORMtWITH THREE DOT",
    "S ABOVE<BELOWzWO DOTS ABOVEqHr FINAL FORMsISOLATED FORMoKAFr FINAL FORMsINITIAL FORMtSOLAT",
    "ED FORMsMEDIAL FORMsWITH DOT ABOVE$BELOWxRINGxTHREE DOTS BELOWyWO DOTS ABOVEqSHMIRI YEHpEH",
    "EHt FINAL FORMuINITIAL FORMvSOLATED FORMuMEDIAL FORMuWITH DOT ABOVEzSMALL VzTHREE DOTS ABO",
    "VE=BELOW=POINTING UPWARDS BELOW!WO DOTS ABOVE;VERTICALLY BELOWpHAHs FINAL FORMtINITIAL FOR",
    "MuSOLATED FORMtMEDIAL FORMpIRGHIZ OEy FINAL FORMzISOLATED FORMwYUy FINAL FORMzISOLATED FOR",
    "MoLAMr FINAL FORMsINITIAL FORMtSOLATED FORMsMEDIAL FORMsWITH BARxDOT ABOVEzUBLE BARxSMALL ",
    "ARABIC LETTER TAH ABOVE&VxTHREE DOTS ABOVE;BELOWpOW ALEFoMARKpEEMs FINAL FORMtINITIAL FORM",
    "uSOLATED FORMtMEDIAL FORMtWITH DOT ABOVE%BELOWyTHREE DOTS ABOVEoNGq FINAL FORMrINITIAL FOR",
    "MsSOLATED FORMrMEDIAL FORMqOEHt FINAL FORMuINITIAL FORMvSOLATED FORMuMEDIAL FORMpOONs FINA",
    "L FORMtGHUNNAz FINAL FORM!ISOLATED FORMtINITIAL FORMuSOLATED FORMtMEDIAL FORMtWITH DOT BEL",
    "OWyINVERTED SMALL VyRINGySMALL TAH+VyTHREE DOTS ABOVEzWO DOTS BELOWpYEHs FINAL FORMtINITIA",
    "L FORMuSOLATED FORMtMEDIAL FORMoOEq FINAL FORMrISOLATED FORMoPEHr FINAL FORMsINITIAL FORMt",
    "SOLATED FORMsMEDIAL FORMsWITH SMALL MEEM ABOVE&VrEHt FINAL FORMuINITIAL FORMvSOLATED FORMu",
    "MEDIAL FORMoQAFr FINAL FORMsINITIAL FORMtSOLATED FORMsMEDIAL FORMsWITH DOT ABOVE$BELOW. AN",
    "D NO DOTS ABOVExTHREE DOTS ABOVEoREHr FINAL FORMsISOLATED FORMsWITH DOT BELOW. AND DOT ABO",
    "VExFOUR DOTS ABOVExHAMZA ABOVExINVERTED VxLOOPxRINGxSMALL ARABIC LETTER TAH AND TWO DOTS&N",
    "OON ABOVE&V+ BELOWyTROKExTWO DOTS ABOVE.VERTICALLY ABOVEpNOONt FINAL FORMuINITIAL FORMvSOL",
    "ATED FORMuMEDIAL FORMpOHINGYA YEHpREHs FINAL FORMtISOLATED FORMoSADr FINAL FORMsINITIAL FO",
    "RMtSOLATED FORMsMEDIAL FORMsWITH THREE DOTS ABOVE;BELOWyWO DOTS BELOWpEENs FINAL FORMtINIT",
    "IAL FORMuSOLATED FORMtMEDIAL FORMtWITH DOT BELOW AND DOT ABOVEyEXTENDED ARABIC-INDIC DIGIT",
    " FOUR ABOVEyFOUR DOTS ABOVEyINVERTED VySMALL ARABIC LETTER TAH AND TWO DOTSyTHREE DOTS BEL",
    "OW[ AND THREE DOTS ABOVEzWO DOTS VERTICALLY ABOVEpHEENt FINAL FORMuINITIAL FORMvSOLATED FO",
    "RMuMEDIAL FORMuWITH DOT BELOWpTRAIGHT WAWpUPERSCRIPT ALEFpWASH KAFoTAHr FINAL FORMsINITIAL",
    " FORMtSOLATED FORMsMEDIAL FORMsWITH DOT BELOWxTHREE DOTS ABOVE;BELOWyWO DOTS ABOVEpCHEHt F",
    "INAL FORMuINITIAL FORMvSOLATED FORMuMEDIAL FORMuWITH DOT ABOVEzSMALL VtEHv FINAL FORMwINIT",
    "IAL FORMxSOLATED FORMwMEDIAL FORMpEHr FINAL FORMsINITIAL FORMtSOLATED FORMsMARBUTAz FINAL ",
    "FORM!GOAL!ISOLATED FORMtEDIAL FORMsWITH RINGxSMALL TEH ABOVE&VxTHREE DOTS ABOVE DOWNWARDSr",
    "EHt FINAL FORMuINITIAL FORMvSOLATED FORMuMEDIAL FORMpHALs FINAL FORMtISOLATED FORMqEHs FIN",
    "AL FORMtINITIAL FORMuSOLATED FORMtMEDIAL FORMqIN YEHpTEHs FINAL FORMtINITIAL FORMuSOLATED ",
    "FORMtMEDIAL FORMtWITH SMALL VsEHu FINAL FORMvINITIAL FORMwSOLATED FORMvMEDIAL FORMoUp FINA",
    "L FORMqISOLATED FORMqWITH HAMZA ABOVE. ISOLATED FORMpIGHUR KAZAKH KIRGHIZ ALEF MAKSURA INI",
    "TIAL FORM~URA MEDIAL FORMoVEq FINAL FORMrISOLATED FORMqHr FINAL FORMsINITIAL FORMtSOLATED ",
    "FORMsMEDIAL FORMoWAWr FINAL FORMsISOLATED FORMsWITH DOT ABOVE$WITHINxEXTENDED ARABIC-INDIC",
    " DIGIT THREE ABOVE~DIGIT TWO ABOVExHAMZA ABOVE; FINAL FORM<ISOLATED FORMxRINGxTWO DOTS ABO",
    "VEoYEHr BARREEy FINAL FORMzISOLATED FORMzWITH EXTENDED ARABIC-INDIC DIGIT THREE ABOVE~-IND",
    "IC DIGIT TWO ABOVE+HAMZA ABOVE] FINAL FORM^ISOLATED FORMsFINAL FORMsINITIAL FORMtSOLATED F",
    "ORMsMEDIAL FORMsWITH HAMZA ABOVE; FINAL FORM<INITIAL FORM=SOLATED FORM<MEDIAL FORMxSMALL V",
    "xTAILyHREE DOTS BELOWyWO DOTS BELOW AND DOT ABOVE^HAMZA ABOVE^SMALL NOON ABOVEpUq FINAL FO",
    "RMrISOLATED FORMoZAHr FINAL FORMsINITIAL FORMtSOLATED FORMsMEDIAL FORMqINs FINAL FORMtISOL",
    "ATED FORMtWITH INVERTED V ABOVEiIGATURE AIN WITH ALEF MAKSURA FINAL FORM?ISOLATED FORMzJEE",
    "M INITIAL FORM,SOLATED FORM+WITH MEEM FINAL FORM[INITIAL FORMzMEEM INITIAL FORM,SOLATED FO",
    "RM+WITH ALEF MAKSURA FINAL FORM<MEEM FINAL FORM[INITIAL FORM<YEH FINAL FORMzYEH FINAL FORM",
    "&ISOLATED FORMrKBAR ISOLATED FORMrLAYHAA AS-SALAAMvE ISOLATED FORMvI AS-SALAAM,TU WAS-SALA",
    "AMwM AS-SALAAMxAA AS-SALAAMsEF MAKSURA WITH SUPERSCRIPT ALEF FINAL FORM~ ALEF ISOLATED FOR",
    "MvWITH FATHATAN FINAL FORM<ISOLATED FORMsLAH ISOLATED FORMrZZA WA JALLqBEH WITH ALEF MAKSU",
    "RA FINAL FORM?ISOLATED FORMzHAH INITIAL FORM+SOLATED FORM&WITH YEH FINAL FORM!EH INITIAL F",
    "ORM&MEDIAL FORMzJEEM INITIAL FORM,SOLATED FORMzKHAH INITIAL FORM,SOLATED FORM+WITH YEH FIN",
    "AL FORMzMEEM FINAL FORM+INITIAL FORM,SOLATED FORM+MEDIAL FORMzNOON FINAL FORMzREH FINAL FO",
    "RMzYEH FINAL FORM&ISOLATED FORMzZAIN FINAL FORMrISMILLAH AR-RAHMAN AR-RAHEEMqDAD WITH ALEF",
    " MAKSURA FINAL FORM?ISOLATED FORMzHAH INITIAL FORM+SOLATED FORM&WITH ALEF MAKSURA FINAL FO",
    "RM;YEH FINAL FORMzJEEM INITIAL FORM,SOLATED FORMzKHAH INITIAL FORM,SOLATED FORM+WITH MEEM ",
    "FINAL FORM[INITIAL FORMzMEEM INITIAL FORM,SOLATED FORMzREH FINAL FORM&ISOLATED FORMzYEH FI",
    "NAL FORM&ISOLATED FORMqFEH WITH ALEF MAKSURA FINAL FORM?ISOLATED FORMzHAH INITIAL FORM+SOL",
    "ATED FORMzJEEM INITIAL FORM,SOLATED FORMzKHAH INITIAL FORM,SOLATED FORM+WITH MEEM FINAL FO",
    "RM[INITIAL FORMzMEEM INITIAL FORM,SOLATED FORM+WITH YEH FINAL FORMzYEH FINAL FORM&ISOLATED",
    " FORMqGHAIN WITH ALEF MAKSURA FINAL FORM[ISOLATED FORM$JEEM INITIAL FORM:SOLATED FORM$MEEM",
    " INITIAL FORM:SOLATED FORM.WITH ALEF MAKSURA FINAL FORM>MEEM FINAL FORM>YEH FINAL FORM$YEH",
    " FINAL FORM,ISOLATED FORMqHAH WITH ALEF MAKSURA FINAL FORM?ISOLATED FORMzJEEM INITIAL FORM",
    ",SOLATED FORM+WITH YEH FINAL FORMzMEEM INITIAL FORM,SOLATED FORM+WITH ALEF MAKSURA FINAL F",
    "ORM<YEH FINAL FORMzYEH FINAL FORM&ISOLATED FORMrEH WITH ALEF MAKSURA ISOLATED FORMzJEEM IN",
    "ITIAL FORM,SOLATED FORMzMEEM INITIAL FORM,SOLATED FORM+WITH JEEM INITIAL FORM<MEEM INITIAL",
    " FORMzSUPERSCRIPT ALEF INITIAL FORMzYEH ISOLATED FORMqJALLAJALALOUHOUrEEM WITH ALEF MAKSUR",
    "A FINAL FORM@ISOLATED FORM!HAH INITIAL FORM,SOLATED FORM+WITH ALEF MAKSURA FINAL FORM<YEH ",
    "FINAL FORM!MEEM INITIAL FORM.SOLATED FORM,WITH ALEF MAKSURA FINAL FORM=HAH FINAL FORM[INIT",
    "IAL FORM=YEH FINAL FORM!YEH FINAL FORM+ISOLATED FORMqKAF WITH ALEF FINAL FORM+ISOLATED FOR",
    "M+MAKSURA FINAL FORM?ISOLATED FORMzHAH INITIAL FORM+SOLATED FORMzJEEM INITIAL FORM,SOLATED",
    " FORMzKHAH INITIAL FORM,SOLATED FORMzLAM FINAL FORM&INITIAL FORM+SOLATED FORM&MEDIAL FORMz",
    "MEEM FINAL FORM+INITIAL FORM,SOLATED FORM+MEDIAL FORM+WITH MEEM FINAL FORM[INITIAL FORM<YE",
    "H FINAL FORMzYEH FINAL FORM&ISOLATED FORMrHAH WITH ALEF MAKSURA FINAL FORM@ISOLATED FORM!H",
    "AH ISOLATED FORM!JEEM INITIAL FORM.SOLATED FORM!MEEM INITIAL FORM.SOLATED FORM!YEH FINAL F",
    "ORM+ISOLATED FORMqLAM WITH ALEF FINAL FORM+ISOLATED FORM+MAKSURA FINAL FORM?ISOLATED FORM+",
    "WITH HAMZA ABOVE FINAL FORM~E ISOLATED FORM]BELOW FINAL FORM~W ISOLATED FORM<MADDA ABOVE F",
    "INAL FORM~E ISOLATED FORMzHAH INITIAL FORM+SOLATED FORM&WITH ALEF MAKSURA FINAL FORM;MEEM ",
    "FINAL FORM@INITIAL FORM;YEH FINAL FORM!EH INITIAL FORMzJEEM INITIAL FORM,SOLATED FORM+WITH",
    " JEEM FINAL FORM[INITIAL FORM<MEEM FINAL FORM[INITIAL FORM<YEH FINAL FORMzKHAH INITIAL FOR",
    "M,SOLATED FORM+WITH MEEM FINAL FORM[INITIAL FORMzMEEM FINAL FORM+INITIAL FORM,SOLATED FORM",
    "+MEDIAL FORM+WITH HAH FINAL FORM@INITIAL FORM<YEH FINAL FORMzYEH FINAL FORM&ISOLATED FORMq",
    "MEEM WITH ALEF FINAL FORM,MAKSURA ISOLATED FORM!HAH INITIAL FORM,SOLATED FORM+WITH JEEM IN",
    "ITIAL FORM<MEEM INITIAL FORM<YEH FINAL FORM!JEEM INITIAL FORM.SOLATED FORM,WITH HAH INITIA",
    "L FORM=KHAH INITIAL FORM=MEEM INITIAL FORM=YEH FINAL FORM!KHAH INITIAL FORM.SOLATED FORM,W",
    "ITH JEEM INITIAL FORM=MEEM INITIAL FORM=YEH FINAL FORM!MEEM FINAL FORM,INITIAL FORM.SOLATE",
    "D FORM,WITH YEH FINAL FORM!YEH ISOLATED FORMrOHAMMAD ISOLATED FORMqNOON WITH ALEF MAKSURA ",
    "FINAL FORM@ISOLATED FORM!HAH INITIAL FORM,SOLATED FORM+WITH ALEF MAKSURA FINAL FORM<MEEM I",
    "NITIAL FORM<YEH FINAL FORM$EH INITIAL FORM+MEDIAL FORM!JEEM INITIAL FORM.SOLATED FORM,WITH",
    " ALEF MAKSURA FINAL FORM=HAH FINAL FORM[INITIAL FORM=MEEM FINAL FORM]INITIAL FORM=YEH FINA",
    "L FORM!KHAH INITIAL FORM.SOLATED FORM!MEEM FINAL FORM,INITIAL FORM.SOLATED FORM,MEDIAL FOR",
    "M,WITH ALEF MAKSURA FINAL FORM=YEH FINAL FORM!NOON FINAL FORM!REH FINAL FORM!YEH FINAL FOR",
    "M+ISOLATED FORM!ZAIN FINAL FORMqQAF WITH ALEF MAKSURA FINAL FORM?ISOLATED FORMzHAH INITIAL",
    " FORM+SOLATED FORMzMEEM INITIAL FORM,SOLATED FORM+WITH HAH FINAL FORM@INITIAL FORM<MEEM FI",
    "NAL FORM<YEH FINAL FORMzYEH FINAL FORM&ISOLATED FORMsLA USED AS KORANIC STOP SIGN ISOLATED",
    " FORMrUDDISA SIRRAHqRADI ALLAAHU ANH.AA.UM;AA:NNAsHIMAHU ALLAAHyM ALLAAHsSOUL ISOLATED FOR",
    "MrEH WITH SUPERSCRIPT ALEF ISOLATED FORMqSAD WITH ALEF MAKSURA FINAL FORM?ISOLATED FORMzHA",
    "H INITIAL FORM+SOLATED FORM&WITH HAH FINAL FORM?INITIAL FORM;YEH FINAL FORMzKHAH INITIAL F",
    "ORMzMEEM INITIAL FORM,SOLATED FORM+WITH MEEM FINAL FORM[INITIAL FORMzREH FINAL FORM&ISOLAT",
    "ED FORMzYEH FINAL FORM&ISOLATED FORMsLAAMUHU ALAYNAAuM ISOLATED FORMtLA ISOLATED FORMwUSED",
    " AS KORANIC STOP SIGN ISOLATED FORMvLLAAHU ALAYHI WA-AALIHyHOU ALAYHE WASALLAMzU ALAYHI WA",
    "AALIHEE WA-SALLAMrEEN WITH ALEF MAKSURA FINAL FORM@ISOLATED FORM!HAH INITIAL FORM,SOLATED ",
    "FORM+MEDIAL FORM+WITH JEEM INITIAL FORM$EH INITIAL FORM+MEDIAL FORM!JEEM INITIAL FORM.SOLA",
    "TED FORM,MEDIAL FORM,WITH ALEF MAKSURA FINAL FORM=HAH INITIAL FORM!KHAH INITIAL FORM.SOLAT",
    "ED FORM,MEDIAL FORM,WITH ALEF MAKSURA FINAL FORM=YEH FINAL FORM!MEEM INITIAL FORM.SOLATED ",
    "FORM,MEDIAL FORM,WITH HAH FINAL FORM[INITIAL FORM=JEEM INITIAL FORM=MEEM FINAL FORM]INITIA",
    "L FORM!REH FINAL FORM+ISOLATED FORM!YEH FINAL FORM+ISOLATED FORMrHADDA WITH DAMMA ISOLATED",
    " FORM;MEDIAL FORM:TAN ISOLATED FORM%FATHA ISOLATED FORM;MEDIAL FORM%KASRA ISOLATED FORM;ME",
    "DIAL FORM:TAN ISOLATED FORM%SUPERSCRIPT ALEF ISOLATED FORMsEEN WITH ALEF MAKSURA FINAL FOR",
    "M[ISOLATED FORM$HAH FINAL FORM,INITIAL FORM.SOLATED FORM,MEDIAL FORM,WITH MEEM FINAL FORM]",
    "INITIAL FORM=YEH FINAL FORM%EH INITIAL FORM,MEDIAL FORM$JEEM FINAL FORM.INITIAL FORM:SOLAT",
    "ED FORM.MEDIAL FORM.WITH YEH FINAL FORM$KHAH FINAL FORM.INITIAL FORM:SOLATED FORM.MEDIAL F",
    "ORM$MEEM FINAL FORM.INITIAL FORM:SOLATED FORM.MEDIAL FORM.WITH KHAH FINAL FORM^INITIAL FOR",
    "M>MEEM FINAL FORM^INITIAL FORM$REH FINAL FORM,ISOLATED FORM$YEH FINAL FORM,ISOLATED FORMrU",
    "BHAANAHU WA TAAALAAqTABAARAKA WA-TAAALAAsH WITH ALEF MAKSURA FINAL FORM?ISOLATED FORMzHAH ",
    "INITIAL FORM+SOLATED FORMzMEEM INITIAL FORM,SOLATED FORM+MEDIAL FORM+WITH HAH FINAL FORM@I",
    "NITIAL FORM<MEEM INITIAL FORM<YEH FINAL FORMzYEH FINAL FORM&ISOLATED FORMrEH WITH ALEF MAK",
    "SURA FINAL FORM?ISOLATED FORMzHAH INITIAL FORM+SOLATED FORM&WITH JEEM FINAL FORM@INITIAL F",
    "ORM;MEEM INITIAL FORM!EH INITIAL FORM&MEDIAL FORMzJEEM INITIAL FORM,SOLATED FORM+WITH ALEF",
    " MAKSURA FINAL FORM<MEEM INITIAL FORM<YEH FINAL FORMzKHAH INITIAL FORM,SOLATED FORM+WITH A",
    "LEF MAKSURA FINAL FORM<MEEM INITIAL FORM<YEH FINAL FORMzMEEM FINAL FORM+INITIAL FORM,SOLAT",
    "ED FORM+MEDIAL FORM+WITH ALEF MAKSURA FINAL FORM<HAH INITIAL FORM<JEEM INITIAL FORM<KHAH I",
    "NITIAL FORM<YEH FINAL FORMzNOON FINAL FORMzREH FINAL FORMzYEH FINAL FORM&ISOLATED FORMzZAI",
    "N FINAL FORMrHAL WITH SUPERSCRIPT ALEF ISOLATED FORMsEH WITH ALEF MAKSURA FINAL FORM@ISOLA",
    "TED FORM!HEH MEDIAL FORM!JEEM ISOLATED FORM!MEEM FINAL FORM,INITIAL FORM.SOLATED FORM,MEDI",
    "AL FORM!NOON FINAL FORM!REH FINAL FORM!YEH FINAL FORM+ISOLATED FORM!ZAIN FINAL FORMqUIGHUR",
    " KIRGHIZ YEH WITH HAMZA ABOVE WITH ALEF MAKSURA FINAL FORM~ ABOVE WITH ALEF MAKSURA INITIA",
    "L FORM~ ABOVE WITH ALEF MAKSURA ISOLATED FORMqWASALLAM ISOLATED FORMqYEH WITH ALEF MAKSURA",
    " FINAL FORM?ISOLATED FORMzHAH INITIAL FORM+SOLATED FORM&WITH YEH FINAL FORM$MZA ABOVE WITH",
    " AE FINAL FORM~ISOLATED FORM_LEF FINAL FORM~F ISOLATED FORM~F MAKSURA FINAL FORM~F MAKSURA",
    " ISOLATED FORM^E FINAL FORM|INITIAL FORM~SOLATED FORM^HAH INITIAL FORM~ ISOLATED FORM_EH I",
    "NITIAL FORM~ MEDIAL FORM^JEEM INITIAL FORM~M ISOLATED FORM^KHAH INITIAL FORM^MEEM FINAL FO",
    "RM~M INITIAL FORM~M ISOLATED FORM~M MEDIAL FORM^NOON FINAL FORM^OE FINAL FORM~ISOLATED FOR",
    "M^REH FINAL FORM^U FINAL FORM|ISOLATED FORM^WAW FINAL FORM~ ISOLATED FORM^YEH FINAL FORM~ ",
    "ISOLATED FORM_U FINAL FORM~ISOLATED FORM^ZAIN FINAL FORM!EH INITIAL FORM&MEDIAL FORMzJEEM ",
    "INITIAL FORM,SOLATED FORM+WITH YEH FINAL FORMzKHAH INITIAL FORM,SOLATED FORMzMEEM FINAL FO",
    "RM+INITIAL FORM,SOLATED FORM+MEDIAL FORM+WITH MEEM FINAL FORM[INITIAL FORM<YEH FINAL FORMz",
    "NOON FINAL FORMzREH FINAL FORMzYEH FINAL FORM&ISOLATED FORMzZAIN FINAL FORMqZAH WITH MEEM ",
    "INITIAL FORM,SOLATED FORM+MEDIAL FORMhMADDA WAAJIBmH ABOVEjRK NOON GHUNNAmSIDEWAYS NOON GH",
    "UNNAjTHEMATICAL AINvLEFuBEHuDADwLvOTLESS BEH%FEH%NOON%QAFwUBLE-STRUCK AIN;BEH;DAD=L;FEH;GH",
    "AIN;HAH;JEEM;KHAH;LAM;MEEM;NOON;QAF;REH;SAD<EEN<HEEN;TAH<EH<HAL=EH;WAW;YEH;ZAH=INuFEHuGHAI",
    "NuHAHuINITIAL AIN%BEH%DAD%FEH%GHAIN%HAH&EH%JEEM%KAF&HAH%LAM%MEEM%NOON%QAF%SAD&EEN&HEEN%TEH",
    "&HEH%YEHuJEEMuKAFvHAHuLAMvOOPED AIN%LEF$BEH$DAD&L$FEH$GHAIN$HAH%EH$JEEM$KHAH$LAM$MEEM$NOON",
    "$QAF$REH$SAD%EEN%HEEN$TAH%EH%HAL&EH$WAW$YEH$ZAH&INuMEEMuNOONuOPERATOR HAH WITH DAL&MEEM WI",
    "TH HAH WITH TATWEELuQAFuREHuSADvEENvHEENvTRETCHED AIN+BEH+DAD,OTLESS BEH?FEH+FEH+GHAIN+HAH",
    ",EH+JEEM+KAF,HAH+MEEM+NOON+QAF+SAD,EEN,HEEN+TAH,EH,HEH+YEH+ZAHuTAHwILED AIN$DAD%OTLESS NOO",
    "N<QAF$GHAIN$HAH$JEEM$KHAH$LAM$NOON$QAF$SAD%EEN%HEEN$YEHvEHvHALwEHuWAWuYEHuZAHwINhNUMBER MA",
    "RK ABOVEoSIGNhOPEN DAMMATANmFATHATANmKASRATANhPERCENT SIGNiIASTRE MARK ABOVEiLACE OF SAJDA",
    "HiOETIC VERSE SIGNjUND MARK ABOVEhQUESTION MARKhRAISED ROUND DOTjYiEVERSED DAMMAiIGHT ARRO",
    "WHEAD ABOVE% WITH DOTxBELOWiOUNDED HIGH STOP WITH FILLED CENTREhSEMICOLONiHADDAn ISOLATED ",
    "FORMoMEDIAL FORMiIGN ALAYHE ASSALLAMmMISRAmRADI ALLAHOU ANHUoHMATULLAH ALAYHEmSAFHAoLLALLA",
    "HOU ALAYHE WASSALLAMoMVAToNAHnINDHI AMPERSANDtPOSTPOSITION MENmTAKHALLUSiMALL DAMMAnFARSI ",
    "YEHpTHAnHIGH AINsDOTLESS HEAD OF KHAHsFARSI YEHtOOTNOTE MARKERsJEEMsLAM ALEFtIGATURE ALEF ",
    "WITH LAM WITH YEH$QAF WITH LAM WITH ALEF MAKSURA$SAD WITH LAM WITH ALEF MAKSURAsMADDAtEEM ",
    "INITIAL FORMySOLATED FORMsNOONw WITH KASRAsQAFsROUNDED ZEROsSADtEENtIGN SAFHAsTAHtHREE DOT",
    "SsUPRIGHT RECTANGULAR ZEROsWAWtORD AL-JUZyN-NISFyR-RUByS-SAJDAyTH-THALATHAxQIFxSAHzKTAxWAQ",
    "FAsYEHv BARREE WITH TWO DOTS BELOWsZAHuINnKASRAnLOW MEEMrNOON WITH KASRArSEENrWAWsORD IMAA",
    "LAxSHMAAMwTASHEELnWAWnYEHiTART OF RUB EL HIZBiUBSCRIPT ALEFjKUNm BELOWnISOLATED FORMnMEDIA",
    "L FORMjPERSCRIPT ALEF MOKHASSASiYMBOL DOT ABOVEsBELOWqUBLE VERTICAL BAR BELOWoFOUR DOTS AB",
    "OVEyBELOWoRINGoSMALL TAH ABOVEyBELOWoTHREE DOTS ABOVEzBELOWzPOINTING DOWNWARDS ABOVE|BELOW",
    "pWO DOTS ABOVExBELOWxVERTICALLY ABOVE;BELOWoWASLA ABOVEhTAIL FRAGMENTjTWEELo WITH FATHATAN",
    " ABOVEuOVERSTRUCK HAMZA,WAWuTWO DOTS BELOWiHOUSANDS SEPARATORiONE LOOP ABOVErBELOWmONE DOT",
    " ABOVEuBELOWmTWO DOTS ABOVEvBELOWiRIPLE DOT PUNCTUATION MARKiURNED DAMMA BELOWhVERTICAL TA",
    "ILiOWEL SIGN DOT BELOWsINVERTED SMALL V ABOVEsSMALL V ABOVEhWAVY HAMZA BELOWhZWARAKAYg-IND",
    "IC CUBE ROOTnDIGIT EIGHTtFIVEuOURtNINEtONEtSEVENuIXtTHREEuWOtZEROnFOURTH ROOTnPER MILLE SI",
    "GNrTEN THOUSAND SIGNcCcIEScMENIAN ABBREVIATION MARKkPOSTROPHEjCAPITAL LETTER AYByBENyCAzHA",
    "!EHzOyDAyECHzHzTyFEHyGHADzIMyHOyINIyJAzHEHyKEH!NyLIWNyMENyNOWyOHyPEHzIWRyRAzEHySEHzHAyTIWN",
    "zOyVEWzOyXEHyYI!WNyZAzHEkOMMAjDRAM SIGNjEMPHASIS MARKkXCLAMATION MARKjFULL STOPjHYPHENjMOD",
    "IFIER LETTER LEFT HALF RINGjQUESTION MARKjSMALL LETTER AYBwBENwCAxHAyEHxOwDAwECHxHxTwFEHwG",
    "HADxIMwHOwINIwJAxHEHwKEHyNwLIWNwMENwNOWwOHwPEHxIWRwRAxEHwSEHxHAwTIWNxOxURNED AYBwVEWxOwXEH",
    "wYIy WITH STROKEyWNwZAxHEqIGATURE ECH YIWNyMEN ECH%INI%NOW%XEHyVEW NOWcROW POINTING DOWNWA",
    "RDS THEN CURVING LEFTWARDS?RIGHTWARDSpRIGHTWARDS THEN CURVING DOWNWARDS@SOUTH WEST@UPWARDS",
    "pUPWARDS THEN NORTH WESTfHEAD-SHAPED POINTERcTICULATED LORRYeST PALETTEbSCENDING NODEdIA S",
    "YMBOLcSERTIONcTERISKi OPERATORhMdONISHED FACEdRAEAeONOMICAL SYMBOL FOR URANUScYMPTOTICALLY",
    " EQUAL TObTHLETIC SHOEcOM SYMBOLbUBERGINEcSTRAL SIGNcTO RICKSHAWeMATED TELLER MACHINEfOBIL",
    "EbVESTAN ABBREVIATION MARKiLETTER AqArNrOqErEqNqOpBEqHEpCEpDEqHEpEqEpFEpGEqGEqHEpHEqMEpIqI",
    "pJEpKEpLEpMEpNEqGErVErYEqNEqYEpOqOpPEpREpSEqHErYEqSHEpTEqHEqTEpUqUpVEpXEqVEqYEpYEqYEpZEqHE",
    "cOCADObXEaBABYe ANGELfBOTTLEfCHICKfSYMBOLcCK OF ENVELOPEfWITH LEFTWARDS ARROW ABOVEe-TILTE",
    "D SHADOWED WHITE RIGHTWARDS ARROWeSLANTED SOUTH ARROW WITH HOOKED TAIL,RIZONTAL TAILfPACEd",
    "ONdTRIAN CAMELcDGERdMINTON RACQUET AND SHUTTLECOCKcGELdGAGE CLAIMdUETTE BREADcLINESE ADEG ",
    "ADEGjCARIK PAMUNGKAHrRERENpSIKIjDIGIT EIGHTpFIVEqOURpNINEpONEpSEVENqIXpTHREEqWOpZEROjLETTE",
    "R AIKARArKARAv TEDUNGrRCHAIC JNYArSYURA SASAKqBAs KEMBANGqCAs LACAqDAs MADUuURDA ALPAPRANA",
    "zMAHAPRANAqEF SASAKrKARAqGAs GORAqHAqIKARAv TEDUNGqJAs JERAqKAs MAHAPRANAsF SASAKrHOT SASA",
    "KqLAs LENGAy TEDUNGqMAqNAs RAMBATrGArYAqOKARAv TEDUNGqPAs KAPALqRAs REPAx TEDUNGqSAs SAGAv",
    "PAqTAs LATIKtMURDA MAHAPRANAtTAWArZIR SASAKqUKARAv TEDUNGqVE SASAKqWAqYAqZAL SASAKjMUSICAL",
    " SYMBOL COMBINING BENDE;ENDEP;GONG;JEGOGAN;KEMPLI[ WITH JEGOGAN?UL[ WITH JEGOGAN;TEGEHyDAE",
    "NG!ING!NG% GEDE&SURANGzENG!UNGzINGzONGzUNGyLEFT-HAND CLOSED PLAK_UK;OPEN PANG[ING[UNGyRIGH",
    "T-HAND CLOSED TAK_UK<OPEN DAG]UGjPAMADAp LANTANGmENENGlNTIo LANTANGjSIGN BISAHoCECEKoREREK",
    "ANoSURANGoULU CANDRAsRICEMjVOWEL SIGN LA LENGA% TEDUNGuPEPETz TEDUNGuRA REPA$ TEDUNGuSUKUy",
    " ILUTuTALING! REPA, TEDUNG$TEDUNGvEDUNGuULUx SARIjWINDUdL OF YARNeET SHOESeOONh-SPOKED AST",
    "ERISKfT BOLD SCRIPT XjXk WITH BALLOTrOLD CHECKvSCRIPT XqCHECKqLIGHT XqSCRIPT XqXhSCRIPT Xh",
    "XcMUM COLONiMBINING MARK KOQNDONvTUKWENTISjMAgFULL STOPgLETTER AnEEnFAAMAEoEEoOMoUnInKAoEN",
    "pTpUXoIoOpGHOMpVUUoPAoUoYEEnLAoEEEEoIoOQoUnMoAoBAApENoEEEEpNoIoOoUnNAoDAAoGApGApKWAENoIoJA",
    "EMpEEpUAEoSHAoTEEpUUoUpAEoYInOnPAoEEpUXoHASE-A FIRIvGBIEE FONwHEUAEGHEUAE$RAEvKAFAxQwETxUK",
    "EUTNDAwPOQwUOQvLAPAQwET KUTwOMMAEwUxAEPvMAEKEUPyMzBGBIEEzKPENzVEUXyNYIySIxNSUAExP PIEETwBA",
    "NYIyQwEUNJOMNDEUQwGBASAwON NGGEUAETxOMEUTzPUQwVEUAENGAMvNAA MFONxQwDA LEERAEWAyANGGEUAETwE",
    "NwGANGUxGENxKUE MFON!NZEUMwIKAwJAMwKAARAExINDIwSHAyIEEwTAPz MFAA!NTAAxOQPENwYETxIyT MONGKE",
    "UAEQwZA MFONxUN MEUTvPA LEERAEWAxAMyRAExMSHAExSHAEwETwON MFON PIPAEMBA=GBIEEzPA NJI PIPAEM",
    "BA?GBIEEwUPvROMvSEUNYAMwHINDA PA NJIyRAExOQ NSHUT YUMxUENSHUETyMwISAwONJAMxQxTwUUvTEUAENyT",
    "EUWENwITA MFONwU MAEMBAxAEPvU YUQ NAEwNKNOWNvVEEtB FEExUXvGHEUGHEN%UAEMvKAMwEUAEMyPUQyYEUX",
    "wIEEMxQvLAANAExM NSHUT NYAMwETwOM NTEUMvMAx NJEUAENA!UQAwBA MAELEEyARAExEURIxIT MBAAKETxUO",
    "QwEUQyT NGGEETwFIYAQxON TEUAEQwONTIEENvNDU NJAAwGGAAMyEU MBUyUOQ$ LARGExKINDI MVOPxOMwSENx",
    "HUETwTIEE SHEUOQwYAEMAExI NTEUMvPARUMwEESHIwITwUNGAAMvSAKEUAEwET TUwHET NJAQyUAEQTUwIEEwUE",
    "vTAAMwU MAEMGBIEEyNSIEEvVEUMvWUAETvYAFU LEERAEWAwEURAEtC BUNGvFUEvGBAYIwHAPyRAEvKAAwEN FAT",
    "IGUEzLAWxTxUKAQyMySEUXzHEUAEPwPARAQwUOP NKAARAExTvLAMxPwIQwUvMA KEUAERIyNSIEExEMBAySIwBAA ",
    "CABBAGE-TREE!PICKETyNYIxEEKEETyRAEyUMzXxIyRIEENyTxUAEMyEwGBASAQwIEEwUAEvNANSANAQxQwDAMyPxE",
    "UAEREEzTxIDAxOMBUwGAQxGENyUzAEN NYAMzEETzMzONxKAQyUE MAEMBAxOMwJAEMyMxEEEEyUXxUEQwSAxEUAEN",
    "xHAQxOMxUNyOT NGOMwTAAxENyUNGBAxU MBITwYIR MKPARAQ MEUNwZAxEUMvPENwINxRIEENvRUvSETFONxUXwH",
    "IQxUEQwUAETvTAASHAEwETxUTEUXwITA YUEyUAEPvVEUAEPENyXvWANGKUOQwUPvYAAwEUQwU MUOMAExMxWOQtD ",
    "FAAwEUFEUAETvGHAAxEUAEvKETxUAETMEUNyMyOT MBUAEyPwUxNxOMxQwWAETwYEEvLEEEExTxUAEPyMwIEEwOQwU",
    "MvMwAENJETxLEERIwBAAz SEVENxUOwEEEExUNyTwFEUAEzTxIEExOyNwGBEUNyIEEyOFUMwONIwUwVOPvNDAMxEEy",
    "UXxONwGGAAM$AEzPyEUXyUOMyWAENxKAPyEUAEQ!RIyIEEyUNyYEEwIwJAPxEUAEMzTxIyEExUEQwSHEEyUTxIEEP!",
    "TxUMwTEEyUMxUUwUwYAMxETxIxUEvPAPwEExUTAEwIPwUQxUTvRAEMwEN MUCHzOLDwIIvSAPxQwEUAEQwHEEyUAEz",
    "XxIIxOQxUwOTwUAExExUvTAEwEEEExUAENyNyTwIwOQwUxOTvWAPwUAENvYAEMMAEwENwUOMyPxWOQtE AvFAxQwEE",
    "wOMwU CALLyIyREMEDYxEyTvGBETyUXwHAAMAExETyUAEzNzXxOMvIvKETxUAEyXwIwOwPEUXwUETxOPxTvLAAMxPx",
    "QwEUAEMwOMxONyTxQwUvMAxEyMxPxQwBEEyUMwENwFEUQwGBAyENwIxEEwONwUAEwVIvNAxEwDAA MY HOUSE!SOFT",
    "NESSyPxIAQyQxUNwGAxEUREUTxGEEEEzUAE%TyUAESHAE NYAMzPzRAExKAzAMIyEUAEM!XyUMzPxOPyQxUAE!TwJA",
    "EMLIxEEz EPOCHyUXwKOMwSHIEEyUEzOPwTAPxUMwYI BETWEENzCLEAVERwZAQxUQvOvPA PEOPLEzLURALxAyMwE",
    "EMxUTyXwIxEEQyTwOxONwUxAEyQxExMvRAExQwEUXwIMGBAvSAAwEExTwHEUAEQxIQxOyQwOMwUAENvTAAyQxEN NT",
    "EUMxMxQwENxUyAEQwOOyNxQwUAExMyAEvVEExUAEwOMvWEUXwUExOvYAPwEUAE!TyMyXwIEExTwOQ COVERzSWIMMI",
    "NGwUAENxEQxNxQtF EEvFOMvKAwENxTwOwPAwUwYEEvLAwIwOQvMwAwBAAxENwEEEEwOvNDAAwGGAxKWAENwIwJAEM",
    "xUAEwSHAwTEEwUxAEwYIvPEExUXwUAEvREExNxUXwIEExIwUvSAMBAwEUXwHIIxOxUwIwUUvTAAxEwETvUvVUEQvWA",
    "wUEvYAwOQoIoUAEpEnRAEoEEpNpUXoIEEpIoUnSAMBAoEUXoHEUXpIIpOpUoIoUUnTAApEoENpToInUnWAoUEnYAoO",
    "QoUQgNJAEMLIgQUESTION MARKgSEMICOLONcNANAdJOdKeNOTE WITH DOLLAR SIGNoEURO SIGNoPOUND SIGNo",
    "YEN SIGNcR CHARTeOF SOAPdBER POLEcSEBALLdKETgBALL AND HOOPdSA VAH COMBINING HIGH TONEy-LOW",
    " TONEuLOW TONEx-MID TONEuMID TONEkFULL STOPkLETTER ArBArCErDHIIsOrEsEsNNIrFArGAHsBUrHWAHrI",
    "rJOrKAsPAHrMBErOsOrPArSErTOrUsWUrVUrWAtDDArYEINsIErZOcTdAK CONSONANT SIGN HvNGgLETTER AnBA",
    "nCAnDAnGAnHAnInJAnKARO BAnLAnMApNDAILING HAyNAySAoBAnNAoDAoGAoORTHERN TAoYAnPApKPAK WAnRAn",
    "SAoIMALUNGUN AyGAyHAyLAyMAyPAyRAySAyWAyYAoOUTHERN TAnUnWAnYAgPANGOLATjONGONANgSIGN TOMPIhY",
    "MBOL BINDU JUDULtNA METEKtPANGOLATuINARBORASgVOWEL SIGN EsErIrKARO IwOrOrPAKPAK ErUs FOR S",
    "IMALUNGUN SAdHeTUBdTERYbEACH WITH UMBRELLAdMED ASCENDING MUSICAL NOTEShDESCENDING MUSICAL ",
    "NOTEShEIGHTH NOTEShSIXTEENTH NOTESdNSdR FACEeDED PERSONdTING HEARTdVERcCAUSEcDcER MUGdTLEc",
    "LdLe PEPPERfSYMBOLfWITH CANCELLATION STROKEeHOP BELLcNGALI ABBREVIATION SIGNjNJIjU LENGTH ",
    "MARKiCURRENCY DENOMINATOR SIXTEENrNUMERATOR FOUR$ONE+ LESS THAN THE DENOMINATOR$THREE%WOiD",
    "IGIT EIGHToFIVEpOURoNINEoONEoSEVENpIXoTHREEpWOoZEROiGANDA MARKiISSHARiLETTER AqAqIqUpBAqHA",
    "pCAqHApDAqDArHAqHApEpGAqHApHApIqIpJAqHApKAqHAsNDA TApLApMApNAqGAqNAqYApOpPAqHApRAr WITH LO",
    "WER DIAGONALxMIDDLE DIAGONALqHAqRApSAqHAqSApTAqHAqTArHApUqUpVEDIC ANUSVARAqOCALIC LyLxRyRp",
    "YAqYAiRUPEE MARKoSIGNiSANDHI MARKjIGN ANUSVARAoVAGRAHAnCANDRABINDUnNUKTAnVIRAMApSARGAiVOWE",
    "L SIGN AAuIuUtEtIuItOtUuUtVOCALIC L%L$R%RdT ARROW POINTING DOWNWARDS THEN NORTH EASTeO BOX",
    "dZENE RINGm WITH CIRCLEcT SYMBOLdWEENcVERAGE BOXbHAIKSUKI DANDAlIGIT EIGHTqFIVErOURqNINEqO",
    "NEqSEVENrIXqTHREErWOqZEROlOUBLE DANDAkGAP FILLER-1v2kHUNDREDS UNIT MARKkLETTER AsAsIsUrBAs",
    "HArCAsHArDAsDAtHAsHArErGAsHArHArIsIrJAsHArKAsHArLArMArNAsGAsNAsYArOrPAsHArRArSAsHAsSArTAsH",
    "AsTAtHArUsUrVAsOCALIC LzR!RrYAkNUMBER EIGHTwYrFIFTYtVEsORTYtURrNINEvTYrONErSEVENwTYsIXuTYr",
    "TENsHIRTYtREEsWENTYtOkSIGN ANUSVARAqVAGRAHApCANDRABINDUpVIRAMArSARGAkVOWEL SIGN AAwIwUvEvI",
    "wIvOvUwUvVOCALIC L&R+RkWORD SEPARATORbICYCLEgISTcG REVERSE SOLIDUSeSOLIDUScKINIcLLED CAPeI",
    "ARDScOHAZARD SIGNcRDdTHDAY CAKEcSONcTCOIN SIGNdING LIPbLACK BOWTIEgCENTRE WHITE STARhHESS ",
    "BISHOPs ROTATED NINETY DEGREES$TWO HUNDRED SEVENTY DEGREESmEQUIHOPPERw ROTATED NINETY DEGR",
    "EESmKINGq ROTATED NINETY DEGREESzTWO HUNDRED SEVENTY DEGREESnNIGHTs ROTATED FORTY-FIVE DEG",
    "REES$NINETY DEGREES$ONE HUNDRED THIRTY-FIVE DEGREES$THREE HUNDRED FIFTEEN DEGREES%WO HUNDR",
    "ED SEVENTY DEGREES@TWENTY-FIVE DEGREESs-BISHOPtQUEENtROOKmPAWNq ROTATED NINETY DEGREESzTWO",
    " HUNDRED SEVENTY DEGREESmQUEENr ROTATED NINETY DEGREES!TWO HUNDRED SEVENTY DEGREESmROOKq R",
    "OTATED NINETY DEGREESzTWO HUNDRED SEVENTY DEGREESmTURNED BISHOPtKINGuNIGHTtPAWNtQUEENtROOK",
    "hIRCLEm FOR RECORDnWITH DOWN ARROWsTWO WHITE DOTSsWHITE DOT RIGHThLUB SUIThROSS ON SHIELDh",
    "URVED DOWNWARDS AND LEFTWARDS ARROW$RIGHTWARDS ARROWnLEFTWARDS AND DOWNWARDS ARROW$UPWARDS",
    " ARROWnRIGHTWARDS AND DOWNWARDS ARROW%UPWARDS ARROWnUPWARDS AND LEFTWARDS ARROWzRIGHTWARDS",
    " ARROWgDIAMONDn CENTREDoMINUS WHITE XoON CROSSoSUIToWITH DOWN ARROWhOWN POINTING BACKHAND ",
    "INDEXk-POINTING DOUBLE TRIANGLEuISOSCELES RIGHT TRIANGLEuSMALL TRIANGLEuTRIANGLEkWARDS EQU",
    "ILATERAL ARROWHEADhRAUGHTS KINGpMANiOPLETgFLAGiORETTEhOLDERiUR POINTED STARgHARD SHELL FLO",
    "PPY DISKhEARTl SUITiXAGONhORIZONTAL ELLIPSEiURGLASSgLARGE CIRCLEmSQUAREhEFT LANE MERGElPOI",
    "NTING BACKHAND INDEXuINDEXk-POINTING DOUBLE TRIANGLE< WITH VERTICAL BARuISOSCELES RIGHT TR",
    "IANGLEuPOINTERuSMALL TRIANGLEuTRIANGLEkWARDS BULLETqEQUILATERAL ARROWHEADhOWER LEFT TRIANG",
    "LEmRIGHT TRIANGLEiZENGEgMEDIUM DIAMONDoOWN-POINTING TRIANGLE< CENTREDnLEFT-POINTING TRIANG",
    "LE< CENTREDoOZENGEnRIGHT-POINTING TRIANGLE= CENTREDnSMALL DIAMONDtLOZENGEtSQUAREoQUAREnUP-",
    "POINTING TRIANGLE: CENTREDhOON LILITHgNIBgOCTAGONgPARALLELOGRAMhENNANTjTAGONhUSHPINgQUESTI",
    "ON MARK ORNAMENTgRECTANGLEhIGHT POINTING BACKHAND INDEXvINDEXl-POINTING DOUBLE TRIANGLE= W",
    "ITH VERTICAL BARvISOSCELES RIGHT TRIANGLEvPENTAGONwOINTERvSMALL TRIANGLEvTRIANGLE& WITH DO",
    "UBLE VERTICAL BARlWARDS ARROWwHEADrBULLETrEQUILATERAL ARROWHEADhOSETTEgSAFETY SCISSORShCIS",
    "SORShHOGI PIECEhKULL AND CROSSBONEShLIGHTLY SMALL CIRCLEvSQUAREhMALL DIAMONDmLOZENGEmSQUAR",
    "EnTARiILING FACEhNOWMANhPADE SUIThQUAREm BUTTONnCENTREDnFOR STOPhTARhUN WITH RAYSgTELEPHON",
    "EhINY DIAMONDlLOZENGElSQUAREhOUCHTONE TELEPHONEhRUCKhWO-WAY LEFT WAY TRAFFICgUNIVERSAL REC",
    "YCLING SYMBOLhP POINTING BACKHAND INDEXi-POINTING DOUBLE TRIANGLEsISOSCELES RIGHT TRIANGLE",
    "sSMALL TRIANGLEsTRIANGLEiPER LEFT TRIANGLEmRIGHT TRIANGLEiWARDS EQUILATERAL ARROWHEADgVERT",
    "ICAL ELLIPSEpRECTANGLEjY SMALL DIAMONDrLOZENGErSQUAREf-FEATHERED NORTH EAST ARROWqRIGHTWAR",
    "DS ARROWqSOUTH EAST ARROWgLETTER CAPITAL CvHvIvRvZdNK SYMBOLcOCK SEXTANT-1p2q3r4s5s6r5s6r6",
    "q4r5s6r6q5r6q6p3q4r5s6r6q56q6p4q5r6q6p5q6p6o2p3q4r5s6r6q5r6q6p4q5r6p5q6p6o3p4q5r6q6p5q6p6o",
    "4p5q6p6o5p6o6dSSOMdWFISHcUE BOOKfHEARTeBERRIESbOARcLD EIGHT SPOKED ASTERISKfFIVE SPOKED AS",
    "TERISKfGREEK CROSSfSALTIREgIX SPOKED ASTERISKfWHITE CIRCLElSQUAREcMdBcNEcOKeMARKi TABSeSdM",
    "ERANGcPOMOFO FINAL LETTER GwHwKwPwTjLETTER ArHrIsNNrMrNsGsNrUsNNqBrUqCrHqDqErErHrIrNsGsNrR",
    "qFqGrHrNrUrWqHqIrHrMrNNtNrRrUqJrIqKrWqLrHqMqNrGsGrNqOr WITH DOT ABOVErErMrNGsNrOrUqPqQqRqS",
    "rHqTqUrNNqVqXqZrHrIrYcTTLE WITH POPPING CORKeOM ARC ANTICLOCKWISE ARROWhCURLY BRACKEThHALF",
    " BLACK CIRCLEmINTEGRALmLEFT PARENTHESISmRIGHT PARENTHESIShLEFT CORNERnROPmHALF BRACKEThPAR",
    "ENTHESIShRIGHT CORNERoROPnHALF BRACKEThSQUARE BRACKETv OVER TOP SQUARE BRACKEThTORTOISE SH",
    "ELL BRACKETcUQUETh OF FLOWERScW AND ARROWdL OF HYGIEIAfWITH SPOONeINGdTIEg WITH LEFT HALF ",
    "BLACKmRIGHT HALF BLACKcX DRAWINGS DOUBLE DOWN AND HORIZONTAL&LEFT&RIGHTuHORIZONTALuUP AND ",
    "HORIZONTAL$LEFT$RIGHTuVERTICAL% AND HORIZONTAL:LEFT:RIGHTpWN DOUBLE AND HORIZONTAL SINGLE&",
    "LEFT SINGLE&RIGHT SINGLEsHEAVY AND HORIZONTAL LIGHT%LEFT LIGHT:UP LIGHT%RIGHT LIGHT;UP LIG",
    "HT%UP HORIZONTAL LIGHTsLIGHT AND HORIZONTAL HEAVY%LEFT HEAVY:UP HEAVY%RIGHT HEAVY;UP HEAVY",
    "%UP HORIZONTAL HEAVYsSINGLE AND HORIZONTAL DOUBLE&LEFT DOUBLE&RIGHT DOUBLEnHEAVY DOUBLE DA",
    "SH HORIZONTAL,VERTICALvWNx AND HORIZONTAL%LEFT%RIGHTtHORIZONTALtLEFTx AND LIGHT RIGHTtQUAD",
    "RUPLE DASH HORIZONTAL;VERTICALtRIGHTtTRIPLE DASH HORIZONTAL,VERTICALtUPv AND HORIZONTAL!LE",
    "FT$IGHT DOWN!RIGHTtVERTICAL$ AND HORIZONTAL.LEFT.RIGHTnLEFT DOWN HEAVY AND RIGHT UP LIGHTs",
    "HEAVY AND RIGHT DOWN LIGHT;UP LIGHT;VERTICAL LIGHTsLIGHT AND RIGHT DOWN HEAVY;UP HEAVY;VER",
    "TICAL HEAVYsUP HEAVY AND RIGHT DOWN LIGHToIGHT ARC DOWN AND LEFT.RIGHTxUP AND LEFT+RIGHTtD",
    "IAGONAL CROSS%DIAMOND%MIDDLE LEFT TO LOWER CENTRE~WER CENTRE TO MIDDLE RIGHT_UPPER CENTRE ",
    "TO MIDDLE RIGHT~PER CENTRE TO MIDDLE RIGHT TO LOWER CENTRE<RIGHT TO LOWER CENTRE|UPPER CEN",
    "TRE TO MIDDLE LEFT TO LOWER CENTRE%UPPER CENTRE TO MIDDLE LEFT~IDDLE LEFT AND MIDDLE RIGHT",
    " TO LOWER CENTRE~IDDLE LEFT TO LOWER CENTRE~IDDLE LEFT TO LOWER CENTRE TO MIDDLE RIGHT~IDD",
    "LE RIGHT~IDDLE RIGHT AND MIDDLE LEFT TO LOWER CENTRE~IDDLE RIGHT TO LOWER CENTRE~IDDLE RIG",
    "HT TO LOWER CENTRE TO MIDDLE LEFT;LEFT TO LOWER RIGHT;RIGHT TO LOWER LEFTuOUBLE DASH HORIZ",
    "ONTAL,VERTICALvWNx AND HORIZONTAL%LEFT%RIGHTtHORIZONTAL& WITH VERTICAL STROKEtLEFTx AND HE",
    "AVY RIGHTtQUADRUPLE DASH HORIZONTAL;VERTICALtRIGHTtTRIPLE DASH HORIZONTAL,VERTICALtUPv AND",
    " HEAVY DOWN$ORIZONTAL!LEFT!RIGHTtVERTICAL$ AND HORIZONTAL.LEFT.RIGHTnRIGHT DOWN HEAVY AND ",
    "LEFT UP LIGHTtHEAVY AND LEFT DOWN LIGHT;UP LIGHT;VERTICAL LIGHTtLIGHT AND LEFT DOWN HEAVY;",
    "UP HEAVY;VERTICAL HEAVYtUP HEAVY AND LEFT DOWN LIGHTnUP DOUBLE AND HORIZONTAL SINGLE$LEFT ",
    "SINGLE$RIGHT SINGLEqHEAVY AND DOWN HORIZONTAL LIGHT!HORIZONTAL LIGHT!LEFT DOWN LIGHT,LIGHT",
    "!RIGHT DOWN LIGHT.LIGHTqLIGHT AND DOWN HORIZONTAL HEAVY!HORIZONTAL HEAVY!LEFT DOWN HEAVY,H",
    "EAVY!RIGHT DOWN HEAVY.HEAVYqSINGLE AND HORIZONTAL DOUBLE$LEFT DOUBLE$RIGHT DOUBLEnVERTICAL",
    " DOUBLE AND HORIZONTAL SINGLE:LEFT SINGLE:RIGHT SINGLEwHEAVY AND HORIZONTAL LIGHT.LEFT LIG",
    "HT.RIGHT LIGHTwLIGHT AND HORIZONTAL HEAVY.LEFT HEAVY.RIGHT HEAVYwSINGLE AND HORIZONTAL DOU",
    "BLE:LEFT DOUBLE:RIGHT DOUBLEdING GLOVEcYdS SYMBOLbPHbRAHMI DANDAiIGIT EIGHTnFIVEoOURnNINEn",
    "ONEnSEVENoIXnTHREEoWOnZEROiOUBLE DANDAhLETTER ApApIpUoBApHAoCApHAoDApDAqHApHAoEoGApHAoHAoI",
    "pIoJApHAoKApHAoLApLAoMAoNApGApNApYAoOpLD TAMIL LLA!LAyNNNAyRRAySHORT E+OoPApHAoRAoSApHApSA",
    "oTApHApTAqHAoUpUoVApOCALIC LxLwRxRoYAhNUMBER EIGHTtYoFIFTYqVEpORTYqURoJOINERoNINEsTYoONEr ",
    "HUNDREDsTHOUSANDoSEVENtTYpIXrTYoTENpHIRTYqREEpWENTYqOhPUNCTUATION CRESCENT BARtDOTvUBLE DO",
    "TtLINEuOTUShSIGN ANUSVARAmCANDRABINDUmJIHVAMULIYAmOLD TAMIL VIRAMAmUPADHMANIYAmVISARGAhVIR",
    "AMAiOWEL SIGN AAtItUsBHATTIPROLU AAsEsItIsOtLD TAMIL SHORT E;OsUtUsVOCALIC L$L!R$RdILLE PA",
    "TTERN BLANKqDOTS-1w2x3y4z5!6$7%8$8!7$8!8z6!7$8!8z7!8z8y5z6!7$8!8z7!8z8y6z7!8z8y7z8y8x4y5z6",
    "!7$8!8z7!8z8y6z7!8z8y7z8y8x5y6z7!8z8y7z8y8x6y7z8y8x7y8x8w3x4y5z6!7$8!8z7!8z8y6z7!8z8y7z8y8",
    "x5y6z7!8z8y7z8y8x6y7z8y8x7y8x8w4x5y6z7!8z8y7z8y8x6y7z8y8x7y8x8w5x6y7z8y8x7y8x8w6x7y8x8w7x8",
    "w8v2w3x4y5z6!7$8!8z7!8z8y6z7!8z8y7z8y8x5y6z7!8z8y7z8y8x6y7z8y8x7y8x8w4x5y6z7!8z8y7z8y8x6y7",
    "z8y8x7y8x8w5x6y7z8y8x7y8x8w6x7y8x8w7x8w8v3w4x5y6z7!8z8y7z8y8x6y7z8y8x7y8x8w5x6y7z8y8x7y8x8",
    "w6x7y8x8w7x8w8v4w5x6y7z8y8x7y8x8w6x7y8x8w7x8w8v5w6x7y8x8w7x8w8v6w7x8w8v7w8v8eNcEADeK PERMI",
    "TTED HEREeST-FEEDINGdVEcICKdDE WITH VEILeGE AT NIGHTdEFCASEfScOCCOLIdKEN BARhCIRCLE WITH N",
    "ORTHWEST ARROWhHEARTdOMdWN HEARTbSbUBBLE TEAgScCKETcGdINESE END OF SECTIONjLETTER AqBAqCAq",
    "DAqGAqHAqJAqKAqLAqMArPAqNArGAsKArRArYAsCAqPAqRAqSAqTAqVAqYAjPALLAWAjVOWEL SIGN AEuEuIuOuUc",
    "HID LETTER AnBAnDAnGAnHAnInKAnLAnMAnNAoGAnPAnRAnSAnTAnUnWAnYAgVOWEL SIGN IrUcILDING CONSTR",
    "UCTIONcLLETg OPERATOReHORNi WITH SOUND WAVESeSEYEcRRITOcSd STOPdT IN SILHOUETTEeS IN SILHO",
    "UETTEcTTERgFLYbYTE ORDER MARKcZANTINE MUSICAL SYMBOL AGOGI ARGI;OTERI,GORGI<OTERI,MESI:TRI",
    "A,POLI ARGI=GORGI!NATRICHISMA$TIKENOKYLISMA:MA!PESO EKFONITIKON.XO NEO$LI$ODERMA ARCHAION;",
    "NEO%STROFOI SYNDESMOS NEO=TELOUS ICHIMATOS;S< DIPLI=NEO%THEMA!RGON&SYNTHETON$KTIKO DI:GA:K",
    "E:NI:PA:VOU:ZOzCHAMILI,ON$OREVMA ARCHAION;NEO$ROA KLITON,SPATHI,ZYGOSzDASEIA!IARGON%STOLI ",
    "APLI MEGALI[IKRI;DIPLI;THESEOS$ESIS APLI DYO DODEKATA.DIGRAMMOS EX DODEKATA.MONOGRAMMOS TE",
    "SSERA DODEKATA.TETARTIMORION:RIGRAMMOS OKTO DODEKATA<TIMORION$FTOGGOS OU$GORGON: PARESTIGM",
    "ENON ARISTERA ANO~ON ARISTERA KATO~ON DEXIA%RAMMA GG$PLI+ ARCHAION!YOzEKSTREPTON!LAFRON!NA",
    "RXIS KAI FTHORA VOU$DOFONON!PEGERMA!TERON ARGOSYNTHETON.PARAKALESMA!XO EKFONITIKONzFANEROS",
    "IS DIFONIAS<MONOFONIAS<TETRAFONIAS!HTORA SKLIRON CHROMA VASIS!THORA ARCHAION[ DEYTEROU ICH",
    "OU.DIATONIKI DI^KE^NANA_I ANO~KATO^PA^ZO.ENARMONIOS ANTIFONIA.I YFESIS TETARTIMORION.MALAK",
    "ON CHROMA DIFONIAS~A MONOFONIAS.NAOS ICHOS:ENANO.SKLIRON CHROMA SYNAFI~A VASIS[DIATONON DI",
    "zGENIKI DIESIS.YFESIS!ORGON ARCHAION.NEO ANO=KATO.PARESTIGMENON ARISTERA~ DEXIA+SYNTHETON%",
    "THMIKON N APLOUN?DIPLOUN!RONTHISMATAzICHADIN!MIDIARGON%FONON&THORA:ON!SAKIA TELOUS ICHIMAT",
    "OS$ON ARCHAION+NEOzKATAVA TROMIKON,SMA%HISTI!ENTIMA ARCHAION:NEO ANO>KATO>MESO.TA; ARCHAIO",
    "N<NEO ANO@KATO@MESO!LASMA, ANO.KATO!ONTEVMA: ALLO$RONIS$UFISMA!RATIMA ALLO;RCHAION:NEO.TA,",
    "OKOUFISMA.YPORROON$EMASTI!YLISMAzLEIMMA DYO CHRONON.ENOS CHRONOU.IMISEOS CHRONOU.TESSARON ",
    "CHRONON:RION CHRONON$MOI!YGISMAzMARTYRIA ALLI DEYTEROS ICHOS@PROTOS ICHOS;DEYTEROS ICHOS;L",
    "EGETOS ICHOS;PLAGIOS ICHOS^TETARTOS ICHOS<ROTOS ICHOS@VARYS ICHOS;TETARTOS ICHOS_LEGETOS I",
    "CHOS<RIFONIAS>TOS ICHOS;VARYS ICHOS!IKRON ISONzNANAzOLIGON ARCHAION.NEO!MALON!XEIA DIPLI,E",
    "KFONITIKON,NEO+I ARCHAION!YRANISMA ARCHAION<NEOzPARAKALESMA ARCHAION>NEO+LITIKI= ARCHAION>",
    "NEO%ICHON!ELASTON: NEO$RISPOMENI$TASMA+TI,OKOUFISMA!IASMA ARCHAION.NEO!SIFISTOLYGISMA:N; N",
    "EO:PARAKALESMA:SYNAGMA%LI&ONzRAPISMA!EVMAzSAXIMATA!EISMA, NEO!IMANSIS ARSEOS[ DISIMOU]TETR",
    "ASIMOU^RISIMOU;THESEOS] DISIMOU^TETRASIMOU_RISIMOU!TAVROS. APODEXIA$IGMA$RAGGISMATA!YNAGMA",
    " ARCHAION:META STAVROU:NEO%EVMA$RMA+TIKIzTELEIA$SSERA$TRAPLI!HEMA+ APLOUN+TISMOS ESO?XO%S ",
    "KAI APOTHES$ITA!INAGMA!RIA%GORGON%PLI$OMIKOLYGISMA.N ALLO<RCHAION;NEO.PARAKALESMA:SIFISTON",
    ".SYNAGMAzVAREIA DIPLI.EKFONITIKON.NEO,I ARCHAION$THYzXIRON KLASMAzYFEN ANO+KATO%SIS APLI D",
    "YO DODEKATA.DIGRAMMOS EX DODEKATA.MONOGRAMMOS TESSERA DODEKATA.TRIGRAMMOS OKTO DODEKATA<TI",
    "MORION!POKRISIS; DIPLI%RROI$SILI"]

end Text

end PracticeForge
