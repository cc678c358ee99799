/-!
# Text/CharName/FromL — character names starting with L to M

The names of Unicode 14 characters and their aliases that start with L to M, sorted and
front-coded: each entry is one lower-case letter or punctuation mark telling how many leading
characters it shares with the entry before it (`a` none, `b` one, and so on through
`abcdefghijklmnopqrstuvwxyz!$%&+,.:;<=>?@[]^_|~`), then the rest of the name.  The text is cut into pieces of 90 characters.
-/

namespace PracticeForge

namespace Text

/-- The front-coded names starting with L to M, in pieces. -/
def namesFromL : List String := [
    "aL B BAR SYMBOLbAB COATdELcCROSSE STICK AND BALLcDDERdY BEETLEcNGUAGE TAGcO CANCELLATION M",
    "ARKeDIGIT EIGHTkFIVElOURkNINEkONEkSEVENlIXkTHREElWOkZEROeELLIPSISeHO MOhNOeKO LAeLETTER BO",
    "lCOlDOlFO FAYpONoSUNGoTAMlHO SUNGoTAMlKHMU GOqNYOnO SUNGpTAMmOlLOn LINGpOOTlMOlNGOmOmYOlOl",
    "PALI BHAqCHAqDDAsHArHAqGHAqJHAqLLAqNNArYAqTTAsHAmHO SUNGpTAMmOlROlSANSKRIT SHAvSAmO SUNGoT",
    "AMlTHO SUNGpTAMmOlWOlYOeNIGGAHITAeSEMIVOWEL SIGN LOtNYOfIGN PALI VIRAMAeTONE MAI CATAWAnEK",
    "nTHOoIeVOWEL SIGN AqAqIqMqYpEqIpIqIpMAI KANuONpOpUqUpYqYcRGE BLUE CIRCLElDIAMONDlSQUAREhRO",
    "WN CIRCLEmSQUAREgCIRCLEgDOWN TACKgGREEN CIRCLEmSQUAREgLEFT TRIANGLE OPERATORgONE DOT OVER ",
    "TWO DOTS PUNCTUATIONkRING OVER TWO RINGS PUNCTUATIONhRANGE CIRCLEnDIAMONDnSQUAREgPURPLE CI",
    "RCLEnSQUAREgRED CIRCLEkSQUAREgTRIPLE VERTICAL BAR OPERATORhWO DOTS OVER ONE DOT PUNCTUATIO",
    "NkRINGS OVER ONE RING PUNCTUATIONgUP TACKgYELLOW CIRCLEnSQUAREfR THANl OR EQUAL TOdI SIGNc",
    "ST QUARTER MOONr SYMBOLsWITH FACEcTIN CAPITAL LETTER Aw WITH ACUTE%BREVE: AND ACUTE?DOT BE",
    "LOW?GRAVE?HOOK ABOVE?TILDE%CARON&IRCUMFLEX? AND ACUTE_DOT BELOW_GRAVE_HOOK ABOVE_TILDE%DIA",
    "ERESIS> AND MACRON&OT ABOVE> AND MACRON.BELOW+UBLE GRAVE%GRAVE%HOOK ABOVE%INVERTED BREVE%M",
    "ACRON%OGONEK%RING ABOVE? AND ACUTE:BELOW%STROKE%TILDEwAwEx WITH ACUTE&MACRONwFRICAN DwLPHA",
    "wNGLICANA WwOwUwVx WITH HORIZONTAL BARwYvBw WITH DOT ABOVE.BELOW%FLOURISH%HOOK%LINE BELOW%",
    "STROKE%TOPBARwETAwROKEN LvCw WITH ACUTE%BAR%CARON&EDILLA< AND ACUTE&IRCUMFLEX%DOT ABOVE%HO",
    "OK%PALATAL HOOK%STROKEwHIwLOSED INSULAR GwONwUATRILLO+ WITH COMMAvDw WITH CARON&EDILLA&IRC",
    "UMFLEX BELOW%DOT ABOVE.BELOW%HOOK%LINE BELOW%SHORT STROKE OVERLAY&MALL LETTER Z^ WITH CARO",
    "N&TROKE%TOPBARwZx WITH CARONvEw WITH ACUTE%BREVE%CARON&EDILLA< AND BREVE&IRCUMFLEX? AND AC",
    "UTE_DOT BELOW_GRAVE_HOOK ABOVE_TILDE@BELOW%DIAERESIS&OT ABOVE.BELOW+UBLE GRAVE%GRAVE%HOOK ",
    "ABOVE%INVERTED BREVE%MACRON; AND ACUTE@GRAVE%OGONEK%STROKE%TILDE: BELOWwGYPTOLOGICAL AIN=L",
    "EFwNGwSHwTxHwZHy REVERSEDzWITH CARONvFw WITH DOT ABOVE%HOOK%STROKEvGw WITH ACUTE%BREVE%CAR",
    "ON&EDILLA&IRCUMFLEX%DOT ABOVE%HOOK%MACRON%OBLIQUE STROKE%STROKEwAMMAwHAwLOTTAL A&I&STOP&Uv",
    "Hw WITH BREVE BELOW%CARON&EDILLA&IRCUMFLEX%DESCENDER&IAERESIS&OT ABOVE.BELOW%HOOK%STROKEwA",
    "LF HwENGwWAIRvIw WITH ACUTE%BREVE%CARON&IRCUMFLEX%DIAERESIS> AND ACUTE&OT ABOVE.BELOW+UBLE",
    " GRAVE%GRAVE%HOOK ABOVE%INVERTED BREVE%MACRON%OGONEK%STROKE%TILDE: BELOWwNSULAR D&F&G&R&S&",
    "TwOTAwSvJw WITH CIRCUMFLEX&ROSSED-TAIL%STROKEvKw WITH ACUTE%CARON&EDILLA%DESCENDER&IAGONAL",
    " STROKE&OT BELOW%HOOK%LINE BELOW%OBLIQUE STROKE%STROKE; AND DIAGONAL STROKEvLw WITH ACUTE%",
    "BAR&ELT%CARON&EDILLA&IRCUMFLEX BELOW%DOT BELOW> AND MACRON+UBLE BAR%HIGH STROKE%LINE BELOW",
    "%MIDDLE DOT<TILDE%SMALL LETTER J&TROKEwJvMw WITH ACUTE%DOT ABOVE.BELOW%HOOKwIDDLE SCOTS S$",
    "-WELSH LL;VvNw WITH ACUTE%CARON&EDILLA&IRCUMFLEX BELOW%DESCENDER&OT ABOVE.BELOW%GRAVE%LEFT",
    " HOOK&INE BELOW&ONG RIGHT LEG%OBLIQUE STROKE%SMALL LETTER J%TILDEwJvOw WITH ACUTE%BREVE%CA",
    "RON&IRCUMFLEX? AND ACUTE_DOT BELOW_GRAVE_HOOK ABOVE_TILDE%DIAERESIS> AND MACRON&OT ABOVE> ",
    "AND MACRON.BELOW+UBLE ACUTE<GRAVE%GRAVE%HOOK ABOVE+RN. AND ACUTE>DOT BELOW>GRAVE>HOOK ABOV",
    "E>TILDE%INVERTED BREVE%LONG STROKE OVERLAY+OP%MACRON; AND ACUTE@GRAVE&IDDLE TILDE%OGONEK; ",
    "AND MACRON%STROKE; AND ACUTE%TILDE: AND ACUTE?DIAERESIS?MACRONwIwLD POLISH OwMEGAwOwPEN E!",
    "OwUvPw WITH ACUTE%DOT ABOVE%FLOURISH%HOOK%SQUIRREL TAIL&TROKE; THROUGH DESCENDERvQw WITH D",
    "IAGONAL STROKE%STROKE THROUGH DESCENDERvRw ROTUNDAxWITH ACUTE%CARON&EDILLA%DOT ABOVE.BELOW",
    "> AND MACRON+UBLE GRAVE%INVERTED BREVE%LINE BELOW%OBLIQUE STROKE%STROKE%TAILwEVERSED C WIT",
    "H DOT+E+HALF H+OPEN EwUM ROTUNDAvSw WITH ACUTE: AND DOT ABOVE%CARON: AND DOT ABOVE&EDILLA&",
    "IRCUMFLEX&OMMA BELOW%DOT ABOVE.BELOW> AND DOT ABOVE%HOOK%OBLIQUE STROKE%SHORT STROKE OVERL",
    "AY&WASH TAILwALTILLOwCHWAxRIPT GwHARP SwIGMOID SwMALL CAPITAL I$Q WITH HOOK TAILvTw WITH C",
    "ARON&EDILLA&IRCUMFLEX BELOW&OMMA BELOW%DIAGONAL STROKE&OT ABOVE.BELOW%HOOK%LINE BELOW%RETR",
    "OFLEX HOOK%STROKEwHORN! WITH STROKE? THROUGH DESCENDERwONE FIVE!SIX!TWOwRESILLOwURNED A&LP",
    "HA%H%INSULAR G%K%L%M%T%VwZvUw BARxWITH ACUTE%BREVE%CARON&IRCUMFLEX? BELOW%DIAERESIS> AND A",
    "CUTE^CARON^GRAVE^MACRON?BELOW&OT BELOW+UBLE ACUTE<GRAVE%GRAVE%HOOK ABOVE+RN. AND ACUTE>DOT",
    " BELOW>GRAVE>HOOK ABOVE>TILDE%INVERTED BREVE%MACRON; AND DIAERESIS%OGONEK%RING ABOVE%STROK",
    "E%TILDE: AND ACUTE;BELOWwPSILONvVw WITH DIAGONAL STROKE&OT BELOW%HOOK%TILDEwENDwISIGOTHIC ",
    "ZwOLAPUK AE&OE&UEwYvWw WITH ACUTE%CIRCUMFLEX%DIAERESIS&OT ABOVE.BELOW%GRAVE%HOOKwYNNvXw WI",
    "TH DIAERESIS&OT ABOVEvYw WITH ACUTE%CIRCUMFLEX%DIAERESIS&OT ABOVE.BELOW%GRAVE%HOOK. ABOVE%",
    "LOOP%MACRON%STROKE%TILDEwOGHvZw WITH ACUTE%CARON&IRCUMFLEX%DESCENDER&OT ABOVE.BELOW%HOOK%L",
    "INE BELOW%PALATAL HOOK%STROKE&WASH TAILpIGATURE IJxOEhROSSgEPIGRAPHIC LETTER ARCHAIC MyI L",
    "ONGAzNVERTED MyREVERSED F:PySIDEWAYS IgLETTER AINoLVEOLAR CLICKnBIDENTAL PERCUSSIVEpLABIAL",
    " CLICKwPERCUSSIVEnDENTAL CLICKnGLOTTAL STOPz WITH STROKEnINVERTED GLOTTAL STOP; WITH CURL[",
    "STROKEnLATERAL CLICKnPHARYNGEAL VOICED FRICATIVEnRETROFLEX CLICK% WITH RETROFLEX HOOKpVERS",
    "ED ESH LOOPwGLOTTAL STOP WITH STROKEnSINOLOGICAL DOToMALL CAPITAL A%E$B%ARRED B$C$D$E%TH%Z",
    "H$F$G% WITH HOOK$H$I%NVERTED R$J$K$L% WITH BELT;STROKE$M$N$O%E%PEN O%U$P$Q$R% WITH RIGHT L",
    "EG%EVERSED N=R%UM$S$T%URNED E;G;K;M;R$U$V$W$Y$ZoTRETCHED Cy WITH CURLnTWO WITH STROKEnVOIC",
    "ED LARYNGEAL SPIRANTnWYNNnYRgSMALL CAPITAL LETTER I WITH STROKE$U WITH STROKEmLETTER Au RE",
    "VERSED-SCHWAvWITH ACUTE!BREVE, AND ACUTE=DOT BELOW=GRAVE=HOOK ABOVE=TILDE!CARON$IRCUMFLEX=",
    " AND ACUTE]DOT BELOW]GRAVE]HOOK ABOVE]TILDE!DIAERESIS< AND MACRON$OT ABOVE< AND MACRON+BEL",
    "OW%UBLE GRAVE!GRAVE!HOOK ABOVE!INVERTED BREVE!MACRON!OGONEK!RETROFLEX HOOK$IGHT HALF RING%",
    "NG ABOVE= AND ACUTE,BELOW!STROKE!TILDEuAuEv WITH ACUTE$MACRONuLPHAy WITH RETROFLEX HOOKuNG",
    "LICANA WuOuUuVv WITH HORIZONTAL BARuYtBu WITH DOT ABOVE+BELOW!FLOURISH!HOOK!LINE BELOW!MID",
    "DLE TILDE!PALATAL HOOK!STROKE!TOPBARuARRED ALPHA!E!OvSELINE ESHuETAuLACKLETTER E,O. WITH S",
    "TROKEuOTTOM HALF OuROKEN LtCu WITH ACUTE!BAR!CARON$EDILLA: AND ACUTE$IRCUMFLEX$URL!DOT ABO",
    "VE!HOOK!PALATAL HOOK!RETROFLEX HOOK!STROKEuHIw WITH LOW LEFT SERIF.RIGHT RINGuLOSED INSULA",
    "R G!OMEGA$PEN E!REVERSED OPEN EuONuUATRILLO% WITH COMMAtDu WITH CARON$EDILLA$IRCUMFLEX BEL",
    "OW$URL!DOT ABOVE+BELOW!HOOK+ AND TAIL!LINE BELOW!MIDDLE TILDE!PALATAL HOOK!SHORT STROKE OV",
    "ERLAY$TROKE!TAIL$OPBARuB DIGRAPHuELTAvZH DIGRAPH, WITH PALATAL HOOK>RETROFLEX HOOKuOTLESS ",
    "I$J% WITH STROKE[ AND HOOKvUBLE R$ WITH CROSSED-TAIL!THORN!WYNNuUMuZv DIGRAPH& WITH CURL<R",
    "ETROFLEX HOOKwWITH CARONtEu WITH ACUTE!BREVE!CARON$EDILLA: AND BREVE$IRCUMFLEX= AND ACUTE]",
    "DOT BELOW]GRAVE]HOOK ABOVE]TILDE>BELOW!DIAERESIS$OT ABOVE+BELOW%UBLE GRAVE!FLOURISH!GRAVE!",
    "HOOK ABOVE!INVERTED BREVE!MACRON. AND ACUTE>GRAVE!NOTCH!OGONEK!RETROFLEX HOOK!STROKE!TILDE",
    ", BELOWuGYPTOLOGICAL AIN;LEFuNGw WITH CROSSED-TAIL%PALATAL HOOKuSHw WITH CURL%DOUBLE BAR? ",
    "AND CURL%PALATAL HOOK%RETROFLEX HOOKuTvHuZHw REVERSEDxWITH CARON&URL%PALATAL HOOK%RETROFLE",
    "X HOOK%TAILtFu WITH DOT ABOVE!HOOK!MIDDLE TILDE!PALATAL HOOK!STROKEuENG DIGRAPH, WITH TRIL",
    "LtGu WITH ACUTE!BREVE!CARON$EDILLA$IRCUMFLEX!DOT ABOVE!HOOK!MACRON!OBLIQUE STROKE!PALATAL ",
    "HOOK!STROKEuAMMAuHAuLOTTAL A$I$STOP$UtHu WITH BREVE BELOW!CARON$EDILLA$IRCUMFLEX!DESCENDER",
    "$IAERESIS$OT ABOVE+BELOW!HOOK!LINE BELOW!PALATAL HOOK!STROKEuALF HuENGx WITH HOOKuVtIu WIT",
    "H ACUTE!BREVE!CARON$IRCUMFLEX!DIAERESIS< AND ACUTE$OT BELOW%UBLE GRAVE!GRAVE!HOOK ABOVE!IN",
    "VERTED BREVE!MACRON!OGONEK!RETROFLEX HOOK!STROKE. AND RETROFLEX HOOK!TILDE, BELOWuNSULAR D",
    "$F$G$R$S$TvVERTED ALPHA%OEuOTAx WITH STROKEwIFIED EuStJu WITH CARON$IRCUMFLEX$ROSSED-TAIL!",
    "STROKEtKu WITH ACUTE!CARON$EDILLA!DESCENDER$IAGONAL STROKE$OT BELOW!HOOK!LINE BELOW!OBLIQU",
    "E STROKE!PALATAL HOOK!STROKE. AND DIAGONAL STROKEuRAtLu WITH ACUTE!BAR$ELT+ AND PALATAL HO",
    "OK!CARON$EDILLA$IRCUMFLEX BELOW$URL!DOT BELOW< AND MACRON%UBLE BAR:MIDDLE TILDE!FISHHOOK!H",
    "IGH STROKE!INVERTED LAZY S!LINE BELOW!MIDDLE DOT:RING:TILDE!PALATAL HOOK!RETROFLEX HOOK[ A",
    "ND BELT!STROKEuAMBDA WITH STROKEuENIS FvZHx WITH RETROFLEX HOOKuJuONG Sz WITH DIAGONAL STR",
    "OKE.OT ABOVE,HIGH STROKEuS DIGRAPHuUMuZ DIGRAPHtMu WITH ACUTE!CROSSED-TAIL!DOT ABOVE+BELOW",
    "!HOOK!MIDDLE TILDE!PALATAL HOOKuIDDLE SCOTS Sz-WELSH LL.VuUMtNu PRECEDED BY APOSTROPHEvWIT",
    "H ACUTE!CARON$EDILLA$IRCUMFLEX BELOW$ROSSED-TAIL$URL!DESCENDER$OT ABOVE+BELOW!GRAVE!LEFT H",
    "OOK$INE BELOW$ONG RIGHT LEG!MIDDLE TILDE!OBLIQUE STROKE!PALATAL HOOK!RETROFLEX HOOK!TILDEu",
    "JuUMtOu WITH ACUTE!BREVE!CARON$IRCUMFLEX= AND ACUTE]DOT BELOW]GRAVE]HOOK ABOVE]TILDE!DIAER",
    "ESIS< AND MACRON$OT ABOVE< AND MACRON+BELOW%UBLE ACUTE:GRAVE!GRAVE!HOOK ABOVE%RN+ AND ACUT",
    "E<DOT BELOW<GRAVE<HOOK ABOVE<TILDE!INVERTED BREVE!LONG STROKE OVERLAY%OP%W RING INSIDE!MAC",
    "RON. AND ACUTE>GRAVE!OGONEK. AND MACRON!RETROFLEX HOOK!STROKE. AND ACUTE!TILDE, AND ACUTE=",
    "DIAERESIS=MACRONuIuLD POLISH OuMEGAuOuPEN Ez WITH RETROFLEX HOOKyOz WITH RETROFLEX HOOK,ST",
    "ROKEzEuUtPu WITH ACUTE!DOT ABOVE!FLOURISH!HOOK!MIDDLE TILDE!PALATAL HOOK!SQUIRREL TAIL$TRO",
    "KE. THROUGH DESCENDERuHItQu WITH DIAGONAL STROKE!HOOK+ TAIL!STROKE THROUGH DESCENDERuP DIG",
    "RAPHtRu ROTUNDAvWITH ACUTE!CARON$EDILLA$ROSSED-TAIL!DOT ABOVE+BELOW< AND MACRON%UBLE GRAVE",
    "!FISHHOOK; AND MIDDLE TILDE@PALATAL HOOK!INVERTED BREVE!LINE BELOW$ONG LEG!MIDDLE TILDE!OB",
    "LIQUE STROKE!PALATAL HOOK!STROKE!TAILzOUT HANDLEuAMS HORNuEVERSED C& WITH DOT%E&NG%HALF H%",
    "K%OPEN E; WITH HOOK[RETROFLEX HOOK%R WITH FISHHOOK%SCRIPT GuUMw ROTUNDAtSu WITH ACUTE, AND",
    " DOT ABOVE!CARON, AND DOT ABOVE$EDILLA$IRCUMFLEX$OMMA BELOW$URL!DOT ABOVE+BELOW< AND DOT A",
    "BOVE!HOOK!MIDDLE TILDE!OBLIQUE STROKE!PALATAL HOOK!SHORT STROKE OVERLAY$WASH TAILuAKHA YAT",
    "vLTILLOuCHWAy WITH HOOK+RETROFLEX HOOKvRIPT G$ WITH CROSSED-TAIL!R$ WITH RINGuHARP SuIDEWA",
    "YS DIAERESIZED U%O& WITH STROKE&PEN O%TURNED M%UvGMOID SuQUAT REVERSED ESHuTIRRUP RtTu WIT",
    "H CARON$EDILLA$IRCUMFLEX BELOW$OMMA BELOW$URL!DIAERESIS&GONAL STROKE$OT ABOVE+BELOW!HOOK+ ",
    "AND RETROFLEX HOOK!LINE BELOW!MIDDLE TILDE!PALATAL HOOK!RETROFLEX HOOK!STROKEuAILLESS PHIu",
    "C DIGRAPH WITH CURLuESH DIGRAPH, WITH PALATAL HOOK>RETROFLEX HOOKuH WITH STRIKETHROUGHvORN",
    "y WITH STROKE= THROUGH DESCENDERuONE FIVEySIXyTWOvP HALF OuRESILLOuS DIGRAPH& WITH RETROFL",
    "EX HOOKuUMvRNED A$E$LPHA!DELTA!E!G!H$ WITH FISHHOOK] AND TAIL!I$NSULAR G!K!L!M$ WITH LONG ",
    "LEG!O OPEN-O; WITH STROKE$E% WITH HORIZONTAL STROKE;STROKE$PEN E!R$ WITH HOOK:LONG LEG] AN",
    "D RETROFLEX HOOK:MIDDLE TILDE:PALATAL HOOK:TAIL!T$ WITH CURL!UI!V!W!Y$ WITH BELTuZtUu BARy",
    " WITH SHORT RIGHT LEGvWITH ACUTE!BREVE!CARON$IRCUMFLEX= BELOW!DIAERESIS< AND ACUTE[CARON[G",
    "RAVE[MACRON=BELOW$OT BELOW%UBLE ACUTE:GRAVE!GRAVE!HOOK ABOVE%RN+ AND ACUTE<DOT BELOW<GRAVE",
    "<HOOK ABOVE<TILDE!INVERTED BREVE!LEFT HOOK!MACRON. AND DIAERESIS!OGONEK!RETROFLEX HOOK$ING",
    " ABOVE!SHORT RIGHT LEG$TROKE!TILDE, AND ACUTE.BELOWuEuIuMuOuPSILON! WITH STROKEtVu WITH CU",
    "RL!DIAGONAL STROKE$OT BELOW!HOOK!PALATAL HOOK!RIGHT HOOK!TILDEuENDuISIGOTHIC ZuOLAPUK AE$O",
    "E$UEuYtWu WITH ACUTE!CIRCUMFLEX!DIAERESIS$OT ABOVE+BELOW!GRAVE!HOOK!RING ABOVEtXu WITH DIA",
    "ERESIS$OT ABOVE!LONG LEFT LEG@ AND LOW RIGHT RING[WITH SERIF%W RIGHT RING!PALATAL HOOKtYu ",
    "WITH ACUTE!CIRCUMFLEX!DIAERESIS$OT ABOVE+BELOW!GRAVE!HOOK+ ABOVE!LOOP!MACRON!RING ABOVE!SH",
    "ORT RIGHT LEG$TROKE!TILDEuOGHtZu WITH ACUTE!CARON$IRCUMFLEX$URL!DESCENDER$OT ABOVE+BELOW!H",
    "OOK!LINE BELOW!MIDDLE TILDE!PALATAL HOOK!RETROFLEX HOOK!STROKE$WASH TAILnIGATURE FFxIxLwIw",
    "LvIJvLONG S TvOEvSThUBSCRIPT SMALL LETTER A&E&H&I&J&K&L&M&N&O&P&R&S+CHWA&T&U&V&XbEAF FLUTT",
    "ERING IN WINDeY GREENcDGERcFT AND LOWER AND RIGHT TRIANGULAR THREE QUARTERS BLOCKpONE EIGH",
    "TH BLOCKjRIGHT DOUBLE TURNSTILEpTACKqRIANGULAR HALF BLOCKjUPPER AND RIGHT TRIANGULAR THREE",
    " QUARTERS BLOCKpONE EIGHTH BLOCKhGER BUBBLEiLE BRACKETs WITH DOTgRC LESS-THAN BRACKEThROW ",
    "WITH CIRCLED PLUSqSMALL CIRCLEfBARB DOWN RIGHT BARB DOWN HARPOON!UP HARPOONkUP RIGHT BARB ",
    "DOWN HARPOONyUP HARPOONgLACK LENTICULAR BRACKETlTORTOISE SHELL BRACKETfCEILINGgLOSED ENTRY",
    "gORNER BRACKETgURLY BRACKETs LOWER HOOKtMIDDLE PIECEtUPPER HOOKfDOTTED SUBSTITUTION BRACKE",
    "ThUBLE ANGLE BRACKETmPARENTHESISmQUOTATION MARKmWIGGLY FENCEfFISH TAILhVE EIGHTHS BLOCKgLO",
    "ORfHALF BLACK CIRCLEqSTARmOCKkCIRCLEq WITH DOTwFOUR DOTSwTHREE DOTSxWO DOTSkFOLDERkINVERSE",
    " MEDIUM SHADE AND RIGHT HALF BLOCKkMEDIUM SHADEkRUNNING MANhND TELEPHONE RECEIVERfLOW PARA",
    "PHRASE BRACKETgUGGAGEfMULTIMAPfNORMAL FACTOR SEMIDIRECT PRODUCTfONE EIGHTH BLOCKjQUARTER B",
    "LOCKgUTER JOINfPARENTHESISq EXTENSIONrLOWER HOOKrUPPER HOOKfRAISED OMISSION BRACKETgIGHT A",
    "RROWq THROUGH SMALL CIRCLErWITH DOUBLE VERTICAL STROKEwSTROKEwVERTICAL STROKElBLACK ARROWl",
    "DOUBLE ARROWx WITH STROKE&VERTICAL STROKElOPEN-HEADED ARROWlSANS-SERIF ARROWlTRIANGLE-HEAD",
    "ED ARROWlWAVE ARROWmHITE ARROWfS-SHAPED BAG DELIMITERgEMIDIRECT PRODUCThVEN EIGHTHS BLOCKg",
    "IDEWAYS U BRACKEThNGLE QUOTATION MARKgPEECH BUBBLEgQUARE BRACKETt EXTENSIONuLOWER CORNERuU",
    "PPER CORNERuWITH DOUBLE STROKEzQUILLzSTROKEzTICK IN BOTTOM CORNER:TOP CORNERzUNDERBARgUBST",
    "ITUTION BRACKETfTACKgHIRD WHITE RIGHT POINTING INDEXhOUGHT BUBBLEhREE EIGHTHS BLOCKlQUARTE",
    "RS BLOCKgORTOISE SHELL BRACKETgRANSPOSITION BRACKEThIANGLE BESIDE VERTICAL BARlULAR ONE QU",
    "ARTER BLOCKfVERTICAL BAR WITH QUILLpOX LINEfWHITE CORNER BRACKETmURLY BRACKETlLENTICULAR B",
    "RACKETlPARENTHESISlSQUARE BRACKETlTORTOISE SHELL BRACKETgIGGLY FENCEgRITING HANDe-FACING A",
    "RMENIAN ETERNITY SIGNmFISTmSVASTI SIGNx WITH DOTSfHANDED INTERLACED PENTAGRAMfPOINTING ANG",
    "LE BRACKEToCURVED ANGLE BRACKEToDOUBLE ANGLE QUOTATION MARKoMAGNIFYING GLASSfSHADED WHITE ",
    "RIGHTWARDS ARROWgIDE ARC ANTICLOCKWISE ARROWfTO-RIGHT EMBEDDINGoISOLATEoMARKoOVERRIDEeWARD",
    "S ARROWp ABOVE ALMOST EQUAL TOwREVERSE ALMOST EQUAL TO+TILDE OPERATORwSHORT RIGHTWARDS ARR",
    "OWwTILDE OPERATORrND UPPER AND LOWER ONE EIGHTH BLOCKqFROM BARy TO BLACK DIAMONDqOVER RIGH",
    "TWARDS ARROWqTHROUGH LESS-THANySUBSETyXrO BARw OVER RIGHTWARDS ARROW TO BARuLACK DIAMONDqW",
    "ITH DOTTED STEMxUBLE VERTICAL STROKEvEQUILATERAL ARROWHEADvHOOKvLARGE TRIANGLE ARROWHEADwO",
    "OPvMEDIUM TRIANGLE ARROWHEADvNOTCHED TAILvPLUS BELOWvSMALL EQUILATERAL ARROWHEAD$TRIANGLE ",
    "ARROWHEADwTROKEvTAILz WITH DOUBLE VERTICAL STROKE,VERTICAL STROKEwIP DOWNWARDSzUPWARDSvVER",
    "TICAL STROKEp-TAILkBACK-TILTED SHADOWED WHITE ARROWlLACK ARROWqCIRCLED WHITE ARROWlOTTOM-S",
    "HADED WHITE ARROWkCOMPRESSED ARROWkDASHED ARROWlOUBLE ARROWw FROM BARxWITH STROKE%VERTICAL",
    " STROKEw-TAILrDASH ARROWkFINGER-POST ARROWlRONT-TILTED SHADOWED WHITE ARROWkHANDmRPOON OVE",
    "R RIGHTWARDS HARPOONsWITH BARB DOWN ABOVE RIGHTWARDS HARPOON WITH BARB DOWN:BELOW LONG DAS",
    "H:FROM BAR:TO BAR.WARDS%UP ABOVE LEFTWARDS HARPOON WITH BARB DOWN?ONG DASH>RIGHTWARDS HARP",
    "OON WITH BARB UP,FROM BAR,TO BAR+WARDSlEAVY ARROWqCOMPRESSED ARROWkLEFT-SHADED WHITE ARROW",
    "kOPEN-HEADED ARROWkPAIRED ARROWSkQUADRUPLE ARROWkRIGHT-SHADED WHITE ARROWlOCKETkSANS-SERIF",
    " ARROWlQUARED ARROWnIGGLE ARROWkTOP SHADED WHITE ARROWlRIANGLE ARROWHEADs-HEADED ARROW, OV",
    "ER RIGHTWARDS TRIANGLE-HEADED ARROW.TO BAR.WITH BOLD SHAFT>DOUBLE HORIZONTAL STROKE|VERTIC",
    "AL STROKE>HEAVY SHAFT>LONG TIP DOWNWARDS~ UPWARDS>MEDIUM SHAFT>NARROW SHAFT>VERY HEAVY SHA",
    "FT!DASHED ARROW!PAIRED ARROWSnPLE ARROWrDASH ARROWlWO HEADED ARROWn-HEADED ARROW FROM BAR$",
    "WITH DOUBLE VERTICAL STROKE.TAIL= WITH DOUBLE VERTICAL STROKE^VERTICAL STROKE:RIANGLE ARRO",
    "WHEADS.VERTICAL STROKEvTRIPLE DASH ARROWkWAVE ARROWlHITE ARROWv WITHIN TRIANGLE ARROWHEADc",
    "GcMONcOdPARDcPCHA CONSONANT SIGN KxANGwLwMwNxYIN-DOwPwRwThDIGIT EIGHTnFIVEoOURnNINEnONEnSE",
    "VENoIXnTHREEoWOnZEROhLETTER AoBApLAoCApHAoDApDApZAoFApLAoGApLAoHApLAoJAoKApHApLAoLAoMApLAo",
    "NApGApYAoPApHApLAoRAoSApHAoTApHApSAqHApTAqHAoVAoWAoYAhPUNCTUATION CER-WAtNYET THYOOM TA-RO",
    "LtTA-ROLuSHOOKz CER-WAhSIGN NUKTAmRANiUBJOINED LETTER RAyYAhVOWEL SIGN AAsEsIsOtOsUtUcSS-T",
    "HAN ABOVE DOUBLE-LINE EQUAL ABOVE GREATER-THANqGREATER-THAN ABOVE DOUBLE-LINE EQUALqLEFTWA",
    "RDS ARROWqSIMILAR ABOVE GREATER-THANyOR EQUALrLANTED EQUAL ABOVE GREATER-THAN ABOVE SLANTE",
    "D EQUALlND NOT APPROXIMATEoSINGLE-LINE NOT EQUAL TOkBUT NOT EQUAL TOvIVALENT TOkCLOSED BY ",
    "CURVEz ABOVE SLANTED EQUALkEQUAL TO OR GREATER-THANkOR APPROXIMATEnEQUAL TOqIVALENT TOnGRE",
    "ATER-THANnSLANTED EQUAL TO& WITH DOT ABOVE| RIGHT@INSIDElVER EQUAL TOkSIGNkWITH CIRCLE INS",
    "IDEpDOTpQUESTION MARK ABOVEcVEL SLIDERbFbIBRAcGATURE OPEN ET ORNAMENTdHT CHECK MARKgEIGHT ",
    "SPOKED ASTERISKgFIVE POINTED BLACK STARlSPOKED ASTERISKhOUR POINTED BLACK CUSPzSTARgGREEK ",
    "CROSSgLEFT TORTOISE SHELL BRACKET ORNAMENTgRAILhIGHT TORTOISE SHELL BRACKET ORNAMENTgSALTI",
    "REhHADEhIX SPOKED ASTERISKgTHREE POINTED BLACK STARhWELVE POINTED BLACK STARgVERTICAL BARg",
    "WHITE SQUAREfNINGj MOODo BUBBLEcMBU DIGIT EIGHTmFIVEnOURmNINEmONEmSEVENnIXmTHREEnWOmZEROgE",
    "XCLAMATION MARKgLETTER BAoHAnCAoHAnDAoHAnGAoHAoYANnHAnJAoHAnKAoHAnLAnMAnNAoGAnPAoHAnRAnSAo",
    "HAoSAnTAoHAoRAnWAnYApNgQUESTION MARKgSIGN KEMPHRENGlLOOlMUKPHRENGlSA-IhMALL LETTER ANUSVAR",
    "AtKAtLAtMAtNAuGAtPAtRAtTAhUBJOINED LETTER RAxWAxYAgVOWEL SIGN AsIsUrEsErIrOsOrUl-CARRIER L",
    "ETTERdITED LIABILITY SIGNcNE FEEDfINTEGRATION NOT INCLUDING THE POLErWITH RECTANGULAR PATH",
    " AROUND POLEwSEMICIRCULAR PATH AROUND POLEfSEPARATORfTABULATIONp SETeAR A SIGN A028Bp100-1",
    "02q20Bq31Cp301r2r3r4r5r6r7r8r9AsBsCq10r1r2r3AsBsCr4r5r6r7r8r9q20r1r2r3r4r5r6r7r8r9q30r1r2r",
    "3r4r5r6r7r8r9q40r1r2r3r4r5r6r7r8r9q50r1r2r3r4r5r6r7r8r9q60r1r2r3r4r5r6r7r8r9q70r1p400-VASr",
    "1-VASr2-VASr3-VASr4-VASr5-VASr6-VASr7-VASr8-VASr9-VASq10-VASr1-VASr2-VASr3-VASr4-VASr5-VAS",
    "r6-VASr7-VASr8-VASp501r2r3r4r5r6r8r9q10r1r2r3r5r6q20r1r3r4r5r6r7r8r9q30r1r2r4r5r6r7r8r9q40",
    "r1r2r5r7r8r9q50r1r2r3r4r5r6r7r9q63r4r5r6r8r9q70r1r2r3r4r5r6r7r8r9q80r1r2r3r4r5r6r7r8r9q91r",
    "2r4r5r6r8p600r1r2r3r4r6r8r9q10r1r2r3r4r5r6r7r8r9q20r1r2r3r4r6r7r8r9q34r7r8q40r2r3r4r5r6r8r",
    "9q51r2r3r4r5r6r7r8r9q60r1r2r3r4p701 Ar2 Br3 Dr4 Er5 Fr6 Hr7 Jr8 Kr9 Ls-2 L2t3 L3t4 L4t6 L6",
    "q10 Wr1 Xr2 Yr3 OMEGAr4 ABBr5 BBr7 DDq26 EYYYq32 JEp800r1r2r3r4r5r6r7pB001s2s3s4s5s6s7s8s9",
    "r10s1s3s6s7r20s1tFtMs2tFtMs3tMs4s6s7s8s9r30s1s4s7s8s9r40s1s4s5s6s7s8s9r50s1s3s4s5s6s7s8s9r",
    "60s1s5s6s7s9r70s3s4s6s7s8s9r80s1s2s5s6s7q118r20s2s3r31AtBr64r71r80s8r91hB IDEOGRAM B100 MA",
    "Nv2 WOMANv4 DEERv5 EQUIDwF MAREwM STALLIONv6F EWEwM RAMv7F SHE-GOATwM HE-GOATv8F SOWwM BOA",
    "Rv9F COWwM BULLu20 WHEATv1 BARLEYv2 OLIVEv3 SPICEv5 CYPERUSu30 OILv1 WINEv2u40 BRONZEv1 GO",
    "LDv2v5 WOOLv6u50v1 HORNv2v3v4v7v8v9 CLOTHu60v1v2 GARMENTv3 ARMOURv4v5v6v7v8v9u70v1v2v3 MON",
    "THv4v6 TREEv7v8v9u80v1v2v3v4v5v9u90v1 HELMETt220 FOOTSTOOLv5 BATHTUBu30 SPEARv1 ARROWv2v3 ",
    "SWORDv4v6u40 WHEELED CHARIOTv1 CHARIOTv2 CHARIOT FRAMEv3 WHEELv5v6v8v9u51v2v3v4 DARTv5v6v7",
    "v8v9sVESSEL B155!200%1%2%3%4%5%6%7%8%9$10%1%2%3%4%5%6%7%8%9$21%2%6%7%8%9$50!305jMONOGRAM B",
    "127 KAPOv8 KANAKOu33 AREPAv5 MERIu56 TURO2t247 DIPTEjSYLLABLE B001 DAv2 ROv3 PAv4 TEv5 TOv",
    "6 NAv7 DIv8 Av9 SEu10 Uv1 POv2 SOv3 MEv4 DOv5 MOv6 QAv7 ZAu20 ZOv1 QIv3 MUv4 NEv5 A2v6 RUv",
    "7 REv8 Iv9 PU2u30 NIv1 SAv2 QOv3 RA3v6 JOv7 TIv8 Ev9 PIu40 WIv1 SIv2 WOv3 A3v4 KEv5 DEv6 J",
    "Ev8 NWAu50 PUv1 DUv2 NOv3 RIv4 WAv5 NUv7 JAv8 SUv9 TAu60 RAv1 Ov2 PTEv5 JUv6 TA2v7 KIv8 RO",
    "2v9 TUu70 KOv1 DWEv2 PEv3 MIv4 ZEv5 WEv6 RA2v7 KAv8 QEu80 MAv1 KUv5 AUv7 TWEu90 DWOv1 TWOl",
    "MBOL B018t9s22s34s47t9s56s63t4s79s82t3t6t9dK SYMBOLeED PAPERCLIPScON FACEcPSeTICKcRA SIGNc",
    "SU LETTER AnEmBAmCAnHAmDAnZAmEnUmFAmGAnHAmHAnHAmImJAmKAnHAmLAmMAmNAnGAmOnEmPAnHAmSAnHAmTAn",
    "HAnONE MYA BOvCYAvJEUvNAvTIrNA POnSAoHAmUnEnHmWAmXAmYAnHAmZAnHAfPUNCTUATION COMMArFULL STO",
    "PcVRE TOURNOIS SIGNcZARDbLAMAbOBSTERcCKe WITH INK PENeING-SHIFT ONEoZEROcGICAL ANDl WITH D",
    "OT ABOVEtUBLE OVERBARyUNDERBARrHORIZONTAL DASHrMIDDLE STEMrUNDERBARiORk OVERLAPPING LOGICA",
    "L ANDlWITH DOT ABOVEsUBLE OVERBARxUNDERBARqHORIZONTAL DASHqMIDDLE STEMcLLIPOPcNG DASH FROM",
    " LEFT MEMBER OF DOUBLE VERTICALgIVISIONgRUMfLEFT RIGHT ARROWqDOUBLE ARROWkTACKjWARDS ARROW",
    "u FROM BARpDOUBLE ARROW$ FROM BARpSQUIGGLE ARROWfRIGHT TACKkWARDS ARROWv FROM BARqDOUBLE A",
    "RROW% FROM BARqSQUIGGLE ARROWcTION BOTTLEdUScUDLY CRYING FACEcVE HOTELfLETTERcW ASTERISKeB",
    "ATTERYfRIGHTNESS SYMBOLeDOUBLE PRIME QUOTATION MARKeKAVYKAk WITH DOTeLINEdER BLADE SCISSOR",
    "SgFIVE EIGHTHS BLOCKgHALF BLOCKlCIRCLElINVERSE WHITE CIRCLElMEDIUM SHADEgLEFT BALLPOINT PE",
    "NmLOCK DIAGONAL LOWER MIDDLE LEFT TO LOWER CENTRE~O LOWER RIGHT!UPPER CENTRE TO LOWER MIDD",
    "LE RIGHT~ER RIGHT^UPPER MIDDLE RIGHT.LEFT TO LOWER CENTRE~ MIDDLE RIGHT[UPPER MIDDLE RIGHT",
    ".MIDDLE LEFT TO LOWER CENTRE~O LOWER MIDDLE RIGHT~O LOWER RIGHTlCRAYONlFOUNTAIN PENlPAINTB",
    "RUSHmENCILlQUADRANT CIRCULAR ARClSEMICIRCULAR ANTICLOCKWISE ARROWlTRIANGLErULAR MEDIUM SHA",
    "DEgONE EIGHTH BLOCKkQUARTER BLOCKgRIGHT BLOCK DIAGONAL LOWER CENTRE TO LOWER MIDDLE RIGHT_",
    "UPPER MIDDLE RIGHT~PER RIGHT:LEFT TO LOWER MIDDLE RIGHT]UPPER CENTRE~R MIDDLE RIGHT:MIDDLE",
    " LEFT TO UPPER CENTRE~TO UPPER MIDDLE RIGHT~TO UPPER RIGHT$UPPER MIDDLE LEFT TO UPPER CENT",
    "RE~TO UPPER RIGHTmCORNER WITH DOTmDROP-SHADOWED WHITE SQUAREmPENCILmQUADRANT CIRCULAR ARCm",
    "SEMICIRCULAR CLOCKWISE ARROWnHADOWED WHITE CIRCLE$SQUAREmTRIANGLEsULAR MEDIUM SHADEgSEVEN ",
    "EIGHTHS BLOCKgTHREE EIGHTHS BLOCKmQUARTERS BLOCKhRIANGULAR ONE QUARTER BLOCKcZENGEh DIVIDE",
    "D BY HORIZONTAL RULEbREcIcMcObUGGAGEcNGSbYCIAN LETTER ApNoBpHoDoEpNoGoHoIoJoKpKoLoMpMoNpNo",
    "PoQoRoSoTpHpToUoWoXoZcDIAN LETTER ApNoBoCoDoEpNoFoGoIoKoLpYoMoNpNoOoQoRoSpSoTpToUoVoYhTRIA",
    "NGULAR MARKcING FACEaMACRONcGEdIC WANDdNETcHAJANI ABBREVIATION SIGNjLETTER AqBArHAqCArHAqD",
    "ArDAsHArHAqEqGArHAqHAqIqJArHAqKArHAqLAqMAqNArNArYAqOqPArHAqRArRAqSAqTArHArTAsHAqUqVAkIGATU",
    "RE SHRIjSECTION MARKkIGN NUKTAdJONG TILE AUTUMNnBACKpMBOOnCHRYSANTHEMUMnEAST WINDoIGHT OF ",
    "BAMBOOSwCHARACTERSxIRCLESnFIVE OF BAMBOOSvCHARACTERSwIRCLESoOUR OF BAMBOOSvCHARACTERSwIRCL",
    "ESnGREEN DRAGONnJOKERnNINE OF BAMBOOSvCHARACTERSwIRCLESoORTH WINDnONE OF BAMBOOSuCHARACTER",
    "SvIRCLESoRCHIDnPLUMnRED DRAGONnSEVEN OF BAMBOOSwCHARACTERSxIRCLESoIX OF BAMBOOSuCHARACTERS",
    "vIRCLESoOUTH WINDoPRINGoUMMERnTHREE OF BAMBOOSwCHARACTERSxIRCLESoWO OF BAMBOOSuCHARACTERSv",
    "IRCLESnWEST WINDoHITE DRAGONoINTERcKASAR ANGKAiEND OF SECTIONiLETTER ApBApCApDApGApJApKApL",
    "ApMApNAqGAqYApPApRApSApTApVApYAiPASSIMBANGiVOWEL SIGN EtItOtUcLAYALAM AU LENGTH MARKkDATE ",
    "MARKlIGIT EIGHTqFIVErOURqNINEqONEqSEVENrIXqTHREErWOqZEROkFRACTION ONE EIGHTHxFIFTHyORTIETH",
    "xHALFxONE-HUNDRED-AND-SIXTIETHxQUARTERxSIXTEENTHxTENTHyWENTIETHtTHREE EIGHTIETHSzQUARTERSz",
    "SIXTEENTHSzTWENTIETHSkLETTER AsAsIsRCHAIC IIsUrBAsHArCAsHAtILLU KyLzL!LyMyNzNyRRyYrDAsDAtH",
    "AsHAsOT REPHrEsErGAsHArHArIsIrJAsHArKAsHArLAsLAtLArMArNAsGAsNAtNAsYArOsOrPAsHArRAsRArSAsHA",
    "sSArTAsHAsTAtHAtTArUsUrVAsEDIC ANUSVARAsOCALIC L!LzR!RrYAkNUMBER ONE HUNDREDvTHOUSANDrTENk",
    "SIGN ANUSVARAqVAGRAHApCANDRABINDUqIRCULAR VIRAMAqOMBINING ANUSVARA ABOVEpPARApVERTICAL BAR",
    " VIRAMAqIRAMArSARGAkVOWEL SIGN AAwIwUvEwEvIwIvOwOvUwUvVOCALIC L+L&R+RdE AND FEMALE SIGNfSI",
    "GNfWITH STROKE AND MALE AND FEMALE SIGNrSIGNdTESE CROSScMMOTHcNd AND WOMAN HOLDING HANDSeD",
    "ANCINGeIN BUSINESS SUIT LEVITATINGhTUXEDOeWITH GUA PI MAOjTURBANdAT SIGNdDAIC AFFRICATION ",
    "MARKiGEMINATION MARKiLETTER ABqDqGqHqINqKrSAqLqMqNqPqQqRqSrHrZqTrTqZpDUSHENNApHALQApINqTpK",
    "ADpUSHENNAiPUNCTUATIONiVOCALIZATION MARKdGOdICHAEAN ABBREVIATION MARK ABOVE&BELOWlLETTER A",
    "AYINtLEPHtYINsBETHtHETHsDALETHtHAMEDHsFEsGHIMELtIMELsHEuTHsJAYINtHAYINsKAPHtHAPHsLAMEDHsME",
    "MsNUNsPEsQHOPHtOPHsRESHsSADHEuMEKHtHINtSHINsTAWtETHtHAMEDHsWAWsXAPHtOPHsYODHsZAYINtHAYINlN",
    "UMBER FIVEsONEv HUNDREDsTENtWENTYlPUNCTUATION DOT! WITHIN DOTzUBLE DOT WITHIN DOTxFLEURONx",
    "LINE FILLERxSTARxTWO DOTSlSIGN UDdS SHOEdTELPIECE CLOCKdUAL WHEELCHAIRcP SYMBOL FOR LIGHTH",
    "OUSEdLE LEAFcRCHEN HEAD MARKiLETTER -ApApBApCAqHApDAqZApGApHApJApKAqHApLApMApNAqGAqYApPAqH",
    "ApRApSAqHApTAqHAqSArHApWApYApZAqHAiMARK SHADiSIGN ANUSVARAnCANDRABINDUjUBJOINED LETTER AzB",
    "AzCA!HAzDA!ZAzGAzHAzJAzKA!HAzLAzMAzNA!GA!YAzPA!HAzRAzSA!HAzTA!HA!SA$HAzWAzYAzZA!HAiVOWEL S",
    "IGN AAtEtItOtUdRIAGE SYMBOLdTIAL ARTS UNIFORMcSARAM GONDI DIGIT EIGHTuFIVEvOURuNINEuONEuSE",
    "VENvIXuTHREEvWOuZEROoLETTER AwAwIwUvBAwHAvCAwHAvDAwDAxHAwHAvEvGAwHAvHAvIwIvJAwHAwNYAvKAwHA",
    "wSSAvLAwLAvMAvNAwGAwNAwYAvOvPAwHAvRAvSAwHAwSAvTAwHAwRAwTAxHAvUwUvVAvYAoRA-KARApEPHAoSIGN A",
    "NUSVARAtCANDRAtHALANTAtNUKTAtVISARGAoVIRAMApOWEL SIGN AA!I!UzEzI!IzOzU!UzVOCALIC RdCULINE ",
    "ORDINAL INDICATORdK WORK SYMBOLdU MARKcTE DRINKdHEMATICAL BOLD CAPITAL A$LPHA!B$ETA!C$HI!D",
    "$ELTA$IGAMMA!E$PSILON$TA!F!G$AMMA!H!I$OTA!J!K$APPA!L$AMDA!M$U!N$U!O$MEGA%ICRON!P$HI$I$SI!Q",
    "!R$HO!S$IGMA!T$AU$HETA, SYMBOL!U$PSILON!V!W!X$I!Y!Z$ETAsDIGIT EIGHTyFIVEzOURyNINEyONEySEVE",
    "NzIXyTHREEzWOyZEROsEPSILON SYMBOLsFRAKTUR CAPITAL A;B;C;D;E;F;G;H;I;J;K;L;M;N;O;P;Q;R;S;T;",
    "U;V;W;X;Y;Z!SMALL A.B.C.D.E.F.G.H.I.J.K.L.M.N.O.P.Q.R.S.T.U.V.W.X.Y.ZsITALIC CAPITAL A;LPH",
    "A:B;ETA:C;HI:D;ELTA:E;PSILON;TA:F:G;AMMA:H:I;OTA:J:K;APPA:L;AMDA:M;U:N;U:O;MEGA<ICRON:P;HI",
    ";I;SI:Q:R;HO:S;IGMA:T;AU;HETA? SYMBOL:U;PSILON:V:W:X;I:Y:Z;ETAzEPSILON SYMBOLzKAPPA SYMBOL",
    "zNABLAzPARTIAL DIFFERENTIAL!HI SYMBOL!I SYMBOLzRHO SYMBOLzSMALL A.LPHA,B.ETA,C.HI,D.ELTA,E",
    ".PSILON.TA,F.INAL SIGMA,G.AMMA,H,I.OTA,J,K.APPA,L.AMDA,M.U,N.U,O.MEGA:ICRON,P.HI.I.SI,Q,R.",
    "HO,S.IGMA,T.AU.HETA,U.PSILON,V,W,X.I,Y,Z.ETAzTHETA SYMBOLsKAPPA SYMBOLsNABLAsPARTIAL DIFFE",
    "RENTIALtHI SYMBOLtI SYMBOLsRHO SYMBOLsSCRIPT CAPITAL A:B:C:D:E:F:G:H:I:J:K:L:M:N:O:P:Q:R:S",
    ":T:U:V:W:X:Y:ZzSMALL A,B,C,D,E,F,G,H,I,J,K,L,M,N,O,P,Q,R,S,T,U,V,W,X,Y,ZtMALL AzLPHAyBzETA",
    "yCzHIyDzELTAzIGAMMAyEzPSILONzTAyFzINAL SIGMAyGzAMMAyHyIzOTAyJyKzAPPAyLzAMDAyMzUyNzUyOzMEGA",
    "!ICRONyPzHIzIzSIyQyRzHOySzIGMAyTzAUzHETAyUzPSILONyVyWyXzIyYyZzETAsTHETA SYMBOLnDOUBLE-STRU",
    "CK CAPITAL A<B<D<E<F<G<I<J<K<L<M<O<S<T<U<V<W<X<Y$DIGIT EIGHT:FIVE;OUR:NINE:ONE:SEVEN;IX:TH",
    "REE;WO:ZERO$SMALL A:B:C:D:E:F:G:H:I:J:K:L:M:N:O:P:Q:R:S:T:U:V:W:X:Y:ZnFALLING DIAGONALoRAK",
    "TUR CAPITAL A&B&D&E&F&G&J&K&L&M&N&O&P&Q&S&T&U&V&W&X&YvSMALL A$B$C$D$E$F$G$H$I$J$K$L$M$N$O$",
    "P$Q$R$S$T$U$V$W$X$Y$ZnITALIC CAPITAL A&LPHA%B&ETA%C&HI%D&ELTA%E&PSILON&TA%F%G&AMMA%H%I&OTA",
    "%J%K&APPA%L&AMDA%M&U%N&U%O&MEGA+ICRON%P&HI&I&SI%Q%R&HO%S&IGMA%T&AU&HETA: SYMBOL%U&PSILON%V",
    "%W%X&I%Y%Z&ETAuEPSILON SYMBOLuKAPPA SYMBOLuNABLAuPARTIAL DIFFERENTIALvHI SYMBOLvI SYMBOLuR",
    "HO SYMBOLuSMALL A$LPHA!B$ETA!C$HI!D$ELTA$OTLESS I;J!E$PSILON$TA!F$INAL SIGMA!G$AMMA!I$OTA!",
    "J!K$APPA!L$AMDA!M$U!N$U!O$MEGA%ICRON!P$HI$I$SI!Q!R$HO!S$IGMA!T$AU$HETA!U$PSILON!V!W!X$I!Y!",
    "Z$ETAuTHETA SYMBOLnLEFT ANGLE BRACKETsDOUBLE ANGLE BRACKETsFLATTENED PARENTHESISsWHITE SQU",
    "ARE BRACKETyTORTOISE SHELL BRACKETnMONOSPACE CAPITAL A,B,C,D,E,F,G,H,I,J,K,L,M,N,O,P,Q,R,S",
    ",T,U,V,W,X,Y,ZxDIGIT EIGHT&FIVE+OUR&NINE&ONE&SEVEN+IX&THREE+WO&ZEROxSMALL A&B&C&D&E&F&G&H&",
    "I&J&K&L&M&N&O&P&Q&R&S&T&U&V&W&X&Y&ZnRIGHT ANGLE BRACKETtDOUBLE ANGLE BRACKETtFLATTENED PAR",
    "ENTHESIStWHITE SQUARE BRACKETzTORTOISE SHELL BRACKETpSING DIAGONALnSANS-SERIF BOLD CAPITAL",
    " A?LPHA>B?ETA>C?HI>D?ELTA>E?PSILON?TA>F>G?AMMA>H>I?OTA>J>K?APPA>L?AMDA>M?U>N?U>O?MEGA@ICRO",
    "N>P?HI?I?SI>Q>R?HO>S?IGMA>T?AU?HETA^ SYMBOL>U?PSILON>V>W>X?I>Y>Z?ETA&DIGIT EIGHT<FIVE=OUR<",
    "NINE<ONE<SEVEN=IX<THREE=WO<ZERO&EPSILON SYMBOL&ITALIC CAPITAL A~LPHA|B~ETA|C~HI|D~ELTA|E~P",
    "SILON~TA|F|G~AMMA|H|I~OTA|J|K~APPA|L~AMDA|M~U|N~U|O~MEGA~MICRON|P~HI~I~SI|Q|R~HO|S~IGMA|T~",
    "AU~HETA~HETA SYMBOL|U~PSILON|V|W|X~I|Y|Z~ETA=EPSILON SYMBOL=KAPPA SYMBOL=NABLA=PARTIAL DIF",
    "FERENTIAL>HI SYMBOL>I SYMBOL=RHO SYMBOL=SMALL A_LPHA^B_ETA^C_HI^D_ELTA^E_PSILON_TA^F_INAL ",
    "SIGMA^G_AMMA^H^I_OTA^J^K_APPA^L_AMDA^M_U^N_U^O_MEGA|ICRON^P_HI_I_SI^Q^R_HO^S_IGMA^T_AU_HET",
    "A^U_PSILON^V^W^X_I^Y^Z_ETA=THETA SYMBOL&KAPPA SYMBOL&NABLA&PARTIAL DIFFERENTIAL+HI SYMBOL+",
    "I SYMBOL&RHO SYMBOL&SMALL A=LPHA<B=ETA<C=HI<D=ELTA<E=PSILON=TA<F=INAL SIGMA<G=AMMA<H<I=OTA",
    "<J<K=APPA<L=AMDA<M=U<N=U<O=MEGA>ICRON<P=HI=I=SI<Q<R=HO<S=IGMA<T=AU=HETA<U=PSILON<V<W<X=I<Y",
    "<Z=ETA&THETA SYMBOLyCAPITAL A.B.C.D.E.F.G.H.I.J.K.L.M.N.O.P.Q.R.S.T.U.V.W.X.Y.ZyDIGIT EIGH",
    "T+FIVE,OUR+NINE+ONE+SEVEN,IX+THREE,WO+ZEROyITALIC CAPITAL A@B@C@D@E@F@G@H@I@J@K@L@M@N@O@P@",
    "Q@R@S@T@U@V@W@X@Y@Z,SMALL A>B>C>D>E>F>G>H>I>J>K>L>M>N>O>P>Q>R>S>T>U>V>W>X>Y>ZySMALL A+B+C+",
    "D+E+F+G+H+I+J+K+L+M+N+O+P+Q+R+S+T+U+V+W+X+Y+ZoCRIPT CAPITAL A%C%D%G%J%K%N%O%P%Q%S%T%U%V%W%",
    "X%Y%ZuSMALL A!B!C!D!F!H!I!J!K!L!M!N!P!Q!R!S!T!U!V!W!X!Y!ZcXIMIZEcYAN NUMERAL EIGHTtEENpLEV",
    "ENoFIFTEENqVEpOURsTEENoNINEsTEENoONEoSEVENtTEENpIXrTEENoTENpHIRTEENqREEpWELVEqOoZERObEASUR",
    "ED ANGLEo OPENING LEFTpWITH OPEN ARM ENDING IN ARROW POINTING DOWN AND LEFT~POINTING DOWN ",
    "AND RIGHT~POINTING LEFT AND DOWN~POINTING LEFT AND UP~POINTING RIGHT AND DOWN~POINTING RIG",
    "HT AND UP~POINTING UP AND LEFT~POINTING UP AND RIGHTjBYjRIGHT ANGLE WITH DOTdT ON BONEcCHA",
    "NICAL ARMlLEGcDEFAIDRIN CAPITAL LETTER A%I%TIU$B$C$D$E$F$G$H%P$I$J$K%P$L$M$N%G%Y$O%E$P$Q$R",
    "$S$T$U$V$W$X$Y%U$ZnOMMAmDIGIT EIGHTsFIVEtOURsNINEsONEv ALTERNATE FORMsSEVENtIXsTHREEx ALTE",
    "RNATE FORMtWOv ALTERNATE FORMsZEROmEXCLAMATION OHmFULL STOPmNUMBER EIGHTEENuLEVENtFIFTEENu",
    "OURTEENtNINETEENtSEVENTEENuIXTEENtTENuHIRTEENuWELVEmSMALL LETTER A!I!TIUzBzCzDzEzFzGzH!PzI",
    "zJzK!PzLzMzN!G!YzO!EzPzQzRzSzTzUzVzWzXzY!UzZnYMBOL AIVAdIEVAL COMMAjEXCLAMATION MARKjQUEST",
    "ION MARKeUM BLACK CIRCLEiOLD WHITE CIRCLEhEIGHT POINTED BLACK STARnSPOKED ASTERISKhFIVE SP",
    "OKED ASTERISKiLATTENED LEFT PARENTHESIS ORNAMENTrRIGHT PARENTHESIS ORNAMENTiOUR POINTED BL",
    "ACK STARuPINWHEEL STARhGREEK CROSShLEFT CURLY BRACKET ORNAMENTmPARENTHESIS ORNAMENTl-POINT",
    "ING ANGLE BRACKET ORNAMENThMATHEMATICAL SPACEhRIGHT CURLY BRACKET ORNAMENTnPARENTHESIS ORN",
    "AMENTm-POINTING ANGLE BRACKET ORNAMENThSALTIREiHADEiIX POINTED BLACK STARlSPOKED ASTERISKi",
    "MALL WHITE CIRCLEhTHREE POINTED BLACK STARvPINWHEEL STARhVERTICAL BARhWHITE CIRCLEnSQUAREc",
    "ETEI MAYEK AHANG KHUDAMoNJIoPUN IYEKnCHEIKHANtEInDIGIT EIGHTtFIVEuOURtNINEtONEtSEVENuIXtTH",
    "REEuWOtZEROnLETTER ATIYAuBAvHAMuCHAwILuDDAwHAvHOUvILuEuGHOUvOKuHUKuIv LONSUMuJHAMvILuKHOUv",
    "OKx LONSUMuLAIx LONSUMuMITx LONSUMuNAw LONSUMvGOUy LONSUMvNAvYAuOuPAw LONSUMvHAMuRAIuSAMvH",
    "AvSAuTHOUvILx LONSUMvTAwHAuUNuWAIuYANGoUM IYEKnSYLLABLE REPETITION MARKnVIRAMAoOWEL SIGN A",
    "AI!UzNAPzUyCHEINAPyIIzNAPyNUNGyONAPySOUNAPyUNAPzUyVISARGAyYENAPnWORD REPETITION MARKcLONdT",
    "ING FACEcMOcNDE KIKAKUI COMBINING NUMBER HUNDRED THOUSANDS?S,MILLIONS,TEENS:N THOUSANDS;S.",
    "HOUSANDSoDIGIT EIGHTuFIVEvOURuNINEuONEuSEVENvIXuTHREEvWOoSYLLABLE M001 KI!2 KA!3 KU!4 WI!5",
    " WA!6 WU!7 MIN!8 MAN!9 MUNz10 BI!1 BA!2 BU!3 I!4 A!5 U!6 DI!7 DA!8 DU!9 SIz20 SA!1 SU!2 TI",
    "!3 TA!4 TU!5 LI!6 LA!7 LU!8 JI!9 JAz30 JU!1 YI!2 YA!3 YU!4 FI!5 FA!6 FU!7 NIN!8 NAN!9 NUNz",
    "40 HEE!1 HA!2 HOO!3 NGGA!4 KPEE!5 WO!6 HUAN!7 MBEE!8 KO!9 WVAz50 PU!1 PE!2 HEN!3 HIN!4 LOO",
    "!5 TE!6 GBA!7 NGON!8 NYAN!9 MENz60 NYON!1 WVI!2 MBA!3 JO!4 NDO!5 KEE!6 PO!7 NDOO!8 PI!9 TO",
    "z70 GBO!1 GBOO!2 MBE!3 LE!4 KPU!5 FE!6 KOO!7 VO!8 FEE!9 SOz80 YE!1 PEE!2 NGGU!3 HEEI!4 LEE",
    "!5 VE!6 LONG NGGE!7 HUN!8 FO!9 DEEz90 NGGI!1 TEE!2 KPA!3 GBEE!4 MON!5 KE!6 HE!7 BE!8 NYEN!",
    "9 PAy100 E!1 FAN!2 POO!3 BOO!4 TOO!5 LONG MBOO!6 LONG NGGOO!7 GBE!8 KPE!9 YEEz10 LONG LE!1",
    " GA!2 KPOO!3 JE!4 WOO!5 NGGEE!6 SE!7 NEN!8 WE!9 NDEz20 NGGO!1 YO!2 MBU!3 NDI!4 GBI!5 NDU!6",
    " WEE!7 NGGUA!8 HOOU!9 NDAz30 HAN!1 IN!2 KPI!3 FOO!4 NJOO!5 IN!6 SOO!7 EI!8 BO!9 WVEz40 HO!",
    "1 YOO!2 LONG MBO!3 WEI!4 VOO!5 MBI!6 NGGE!7 O!8 GBU!9 NJEEz50 BEE!1 VU!2 NJA!3 LO!4 MUAN!5",
    " GI!6 NGGOO!7 JEE!8 KPO!9 NGGAAz60 JOO!1 LONG MBE!2 SEE!3 EE!4 NYIN!5 OO!6 GUEI!7 GUAN!8 G",
    "U!9 NONz70 NYUN!1 RA!2 MBOO!3 VEE!4 MBO!5 LONG JO!6 HI!7 NGUAN!8 EN!9 KUAz80 DOO!1 DO!2 VI",
    "!3 LONG NGGO!4 NGEN!5 VA!6 HU!7 MBUU!8 MBEE!9 MUENz90 GEE!1 NDEE!2 NJU!3 HON!4 WUI!5 AN!6 ",
    "SIA!7 FUAdORAH WITH NINE BRANCHESdS SYMBOLcRCURYdOITIC CURSIVE FRACTION EIGHT TWELFTHS$LEV",
    "EN TWELFTHS!FIVE TWELFTHS$OUR TWELFTHS!NINE TWELFTHS!ONE HALF+TWELFTH!SEVEN TWELFTHS$IX TW",
    "ELFTHS!TEN TWELFTHS$HREE TWELFTHS$WO TWELFTHSrLETTER AzRCHAIC SAyBAyDAyEyHHAyIyKAzHAyLAyMA",
    "yNAzEyOyPAyQAyRAySAzEyTAzEzOyWAyYAsOGOGRAM IMN!RMTrNUMBER EIGHT& HUNDRED> THOUSAND+THOUSAN",
    "D&Y THOUSANDyFIFTY& THOUSAND!VE% HUNDRED= THOUSAND&THOUSANDzORTY& THOUSAND!UR% HUNDRED= TH",
    "OUSAND&THOUSANDyNINE% HUNDRED= THOUSAND&THOUSAND%TY THOUSANDyONE$ HUNDRED< THOUSAND%THOUSA",
    "NDySEVEN& HUNDRED> THOUSAND+THOUSAND&TY, THOUSANDzIX$ HUNDRED< THOUSAND%THOUSAND$TY& THOUS",
    "ANDyTEN$ THOUSANDzHIRTY+ THOUSAND!REE& HUNDRED> THOUSAND+THOUSANDzWENTY+ THOUSAND!O$ HUNDR",
    "ED< THOUSAND%THOUSANDjHIEROGLYPHIC LETTER A&BA,-2&DA&E&HHA&I&KA+HA&LA&MA&NA,-2+E,-2&O&PA&Q",
    "A&RA,-2&SA,-2+E&TA,-2+E,-2+O&WA&YAwSYMBOL VIDJ:-2dPERSONcSSAGE WAITINGcTRICAL BREVEjLONG O",
    "VER SHORTtTWO SHORTSjPENTASEMEjSHORT OVER LONGjTETRASEMEkRISEMEkWO SHORTS JOINEDuOVER LONG",
    "eObIAO LETTER AHnRCHAIC MAuNAvGAuZZAmBAnRImDAnDAnLHApYAnZAoHAoYIoZAmFAmGAnHAoHAmHAnHAmKAmL",
    "AnHAoYAnYAmMAnHAmNAoSALIZATIONnGAoHAnHAnNAoHAnYAoHAmPAnLAmQAnGAmREFORMED TONE-1!2!4!5!6!8w",
    "SHAnTEmSAnHAnSAnYImTAnEnLHApYAnONE-2r3r4r5r6r7r8nSAoEoHAoSAnTAmVAnFAmWAmXAmYI DZHApKApNNAp",
    "PApTAqSArHAqTAmZAnHAnSAoHAnZAoSApYAoYAfSIGN ASPIRATIONkCONSONANT MODIFIER BARkREFORMED ASP",
    "IRATIONtVOICINGfTONE ABOVEkBELOWkRIGHTkTOP RIGHTfVOWEL SIGN ArArEsErHHrIrNsGrUqErArIrNsGrR",
    "sRqIrAsNtGrErGrIrNGrOsNGrUqNrGqOrERsYrGrOrUqROUNDED ER!RqUrAsNtGrEIrIrNGrOGrUqVWqWrOqYrIrU",
    "IcCR DASH SYMBOLfON US SYMBOLeO SIGNfBEfPHONEfSCOPEcDDLE DOThTHIRD WHITE RIGHT POINTING IN",
    "DEXdLINE HORIZONTAL ELLIPSIScLITARY HELMETjMEDALdKY WAYdL SIGNcNIBUSeDISCeMIZEdUS SIGNk IN",
    " TRIANGLElWITH COMMA ABOVEqDOT BELOWqFALLING DOTSqRISING DOTSgTILDEf-OR-PLUS SIGNdYcRRORg ",
    "BALLbMSPbOBILE PHONEm OFFnWITH RIGHTWARDS ARROW AT LEFTcDELSeRN PENTATHLONdI ABBREVIATION ",
    "SIGNfDANDAgIGIT EIGHTlFIVEmOURlNINElONElSEVENmIXlTHREEmWOlZEROgOUBLE DANDAfLETTER AnAnInUm",
    "BAnHAmCAnHAmDAnDAoHAnHAmEmGAnHAmHAmInImJAnHAmKAnHAmLAnLAmMAmNAnGAnNAnYAmOmPAnHAmRAmSAnHAnS",
    "AmTAnHAnTAoHAmUnUmVAnOCALIC LvLuRvRmYAfSIGN ANUSVARAlRDHACANDRAkHUVAkVIRAMAmSARGAfVOWEL SI",
    "GN AArIrUqEqIrIqOqUrUqVOCALIC LzLyRzReFIER BREVE WITH INVERTED BREVEjLETTER ACUTE ACCENTrL",
    "VEOLAR CLICKrPOSTROPHEqBEGIN HIGH TONEwLOW TONErILABIAL CLICKqCAPITAL AzEyBzARRED ByCyDyEy",
    "FyGyHz WITH STROKEyIyJyKyLyMyNyOzUyPyQyRzEVERSED E:NyTyUyVyWrENTRED LEFT HALF RINGyRIGHT H",
    "ALF RINGrHINESE TONE YANG PING;QU;RU;SHANG+IN PING:QU:RU:SHANGrIRCUMFLEX ACCENTrOLONrROSS ",
    "ACCENTrYRILLIC ENzHARD SIGNzSOFT SIGNqDENTAL CLICKrOT HORIZONTAL BARuSLASHuVERTICAL BARsUB",
    "LE APOSTROPHExPRIMEsWN ARROWHEADvTACKqEND HIGH TONEuLOW TONErXTRA-HIGH DOTTED LEFT-STEM TO",
    "NE BAR;TONE BAR$LEFT-STEM TONE BAR$TONE BARwLOW DOTTED LEFT-STEM TONE BAR:TONE BAR!LEFT-ST",
    "EM TONE BAR!TONE BARqGEORGIAN NARrLOTTAL STOP% WITH STROKErRAVE ACCENTqHALF TRIANGULAR COL",
    "ONrIGH DOTTED LEFT-STEM TONE BAR%TONE BARvLEFT-STEM TONE BARvTONE BARqLATERAL CLICKrEFT AR",
    "ROWHEADvHALF RINGvTACKrOW ACUTE ACCENTuCIRCUMFLEX ACCENTuDOTTED LEFT-STEM TONE BAR$TONE BA",
    "RwWN ARROWHEADuGRAVE ACCENTuINVERTED EXCLAMATION MARKuLEFT ARROW+HEADy-STEM TONE BARuMACRO",
    "NuRIGHT ARROWHEADwNGuTILDEvONE BARuUP ARROWHEADuVERTICAL LINEtER RIGHT CORNER ANGLEqMACRON",
    "rID DOTTED LEFT-STEM TONE BAR$TONE BARuLEFT-STEM TONE BARuTONE BARtDLE DOUBLE ACUTE ACCENT",
    "+GRAVE ACCENTxGRAVE ACCENTsNUS SIGNqOPEN SHELFqPLUS SIGNrRIMEqRAISED COLONxDOWN ARROWxEXCL",
    "AMATION MARKxINVERTED EXCLAMATION MARKxUP ARROWrETROFLEX CLICK WITH RETROFLEX HOOKsVERSED ",
    "COMMAzGLOTTAL STOP> WITH STROKErHOTIC HOOKrIGHT ARROWHEADwHALF RINGwTACKqSHELFsORT EQUALS ",
    "SIGNrMALL AxExINxLPHAwBx WITH HOOKxARRED OxETAxOTTOM HALF OwCx WITH CURLxAPITAL AA+B+G, WI",
    "TH HOOK+H+I, WITH STROKE,NVERTED R+L, WITH BELT+N+OE+R+U+YxHIxLOSED OMEGA&REVERSED OPEN Ew",
    "Dx WITH HOOK: AND TAIL&TAILxELTAyZH DIGRAPHxOTLESS J WITH STROKE_ AND HOOKxZ DIGRAPH. WITH",
    " CURL?RETROFLEX HOOKwExNGxSHxTHxZHwFxENG DIGRAPHwGx WITH HOOKxAMMAxREEK GAMMA%PHIwHx WITH ",
    "HOOK&STROKExENG! WITH HOOKwI WITH STROKExOTAwJx WITH CROSSED-TAILwKwLx WITH BELT&INVERTED ",
    "LAZY S&MIDDLE TILDE&PALATAL HOOK&RETROFLEX HOOK_ AND BELTxEZH! WITH RETROFLEX HOOKxIGATURE",
    " OExS DIGRAPHxZ DIGRAPHwMx WITH HOOKwN WITH LEFT HOOK&RETROFLEX HOOKwOx WITH STROKExPEN E$",
    "OwPxHIwQwRx WITH FISHHOOK&TAILxAMS HORNxEVERSED E,GLOTTAL STOP,OPEN EwSx WITH CURL&HOOKxCH",
    "WAyRIPT GxIDEWAYS UwTx WITH PALATAL HOOK&RETROFLEX HOOKxC DIGRAPH WITH CURLxESH DIGRAPHxHE",
    "TAxOP HALF OxS DIGRAPH. WITH RETROFLEX HOOKxURNED A+E+LPHA&H&I&M+ WITH LONG LEG&OPEN E&R+ ",
    "WITH HOOK=LONG LEG| AND RETROFLEX HOOK&V&W&Y+ WITH BELTwUx BARyWITH LEFT HOOKxPSILONwVx WI",
    "TH HOOK&RIGHT HOOKwWwXwYwZx WITH CURL&RETROFLEX HOOKrTRESS AND HIGH TONE$LOW TONErUPERSCRI",
    "PT HALF TRIANGULAR COLON%TRIANGULAR COLONqTRIANGULAR COLONrURNED COMMAqUNASPIRATEDrP ARROW",
    "HEADtTACKrSqVERTICAL LINErOICINGqYANG DEPARTING TONE MARKrIN DEPARTING TONE MARKdULO TWO S",
    "UMcNEY BAGgWITH WINGSf-MOUTH FACEdGOLIAN BIRGAp WITH DOUBLE ORNAMENTvORNAMENTkCOLONmMMAkDI",
    "GIT EIGHTqFIVErOURqNINEqONEqSEVENrIXqTHREErWOqZEROlOUBLE BIRGA WITH ORNAMENTkELLIPSISkFOUR",
    " DOTSlREE VARIATION SELECTOR FOUR;ONE;THREE<WOlULL STOPkINVERTED BIRGAy WITH DOUBLE ORNAME",
    "NTkLETTER AsLI GALI A$H$NUSVARA ONE!BALUDA!CA!DA%GALGA%MARU$DA!HALF U,YA!I$NVERTED UBADAMA",
    "!KA!NGA$NA!PA$HA!SSA!TA$HREE BALUDA$TA%HA!UBADAMA!VISARGA ONE!ZA$HAsNGrBArCHAu WITH TWO DO",
    "TStIrDArEsErFArGArHAArIrJArKAsHArLAsHArMAtNCHU ALI GALI BHA:CA;YA:DDHA;HA:GHA:JHA:LHA:NGA:",
    "SSA:TA;TA:ZA;HAyFAyIyKAyRAyZHArNArOsErPArQArRArSAsHAsIBE ANGwCHAwDAwEwFAwGAyAwHAyAwIxYwJAw",
    "KAwPAwRAAwSHAwTAxSAwUxEwZAxHArTAsODO ALI GALI TA,ZHAxNGwBAwCHAwDAxZAwEwGAyAwHAAwIwJAxIAwKA",
    "wLONG VOWEL SIGNwMAwNIAwOxEwPAwQAwTAxSAwUxEwWAwYAsSArUsErWArYArZAsHIsRAkMANCHU COMMArFULL ",
    "STOPkNIRUGUkROTATED BIRGAx WITH DOUBLE ORNAMENT&ORNAMENTkSIBE SYLLABLE BOUNDARY MARKERlWIR",
    "L BIRGAv WITH DOUBLE ORNAMENT$ORNAMENTkTODO SOFT HYPHENlRIPLE BIRGA WITH ORNAMENTlURNED SW",
    "IRL BIRGA WITH DOUBLE ORNAMENTkVOWEL SEPARATORdKEYg FACEdOGRAM FOR EARTHnYANGoINeRAILeSTAB",
    "LE SYMBOLcOD BUBBLEdN CAKEfVIEWING CEREMONYcSQUEfITOcTHER CHRISTMASdOR BOATgSCOOTERfIZED W",
    "HEELCHAIRfWAYcUNT FUJIfAINi BICYCLISTjCABLEWAYjRAILWAYdSEf FACEgTRAPdTHcVIE CAMERAcYAIbRO ",
    "DANDAfIGIT EIGHTkFIVElOURkNINEkONEkSEVENlIXkTHREElWOkZEROfOUBLE DANDAeLETTER AlBAlCHUlDAnI",
    "lEmAlHAInOlKEAAEmHAImOlLAnNlMAEMmIMlNGImINlOmLmOlPAmHIlRImOlSHIlTAmEKmHEAlWAlYObUCH GREATE",
    "R-THANfLESS-THANcLTANI LETTER ApBAqHApCAqHApDAqDArDArHAqHApEpGAqHApHApIpJAqJApKAqHApLApMAp",
    "NAqNAqYApPAqHApRAqHAqRApSApTAqHAqTArHApUpVApYAiSECTION MARKeIMAPfPLE MUSICAL NOTEShICATION",
    " SIGNt IN DOUBLE CIRCLExLEFT HALF CIRCLExRIGHT HALF CIRCLExTRIANGLEuWITH DOT ABOVEzUNDERBA",
    "RpXfSETi MULTIPLICATIONjUNIONcSHROOMdIC FLAT SIGNgNATURAL SIGNgSHARP SIGNfAL KEYBOARDq WIT",
    "H JACKSiNOTEiSCOREjYMBOL ARPEGGIATO DOWN!UPpBEGIN BEAMvPHRASEvSLURvTIEqRACEtKETrEATH MARKs",
    "VEtISv RESTpC CLEFqAESURAqIRCLE X NOTEHEADqLIMACUSsVISrUSTER NOTEHEAD BLACK.WHITEqODArMBIN",
    "ING ACCENT,-STACCATO!UGMENTATION DOTzBENDzDOIT$UBLE TONGUE$WN BOWzFLAG-1+2+3+4+5$IPzHARMON",
    "ICzLOUREzMARCATO.-STACCATOzRIPzSMEAR!NAP PIZZICATO!PRECHGESANG STEM!TACCATISSIMO.O$EMzTENU",
    "TO!REMOLO-1:2:3$IPLE TONGUEzUP BOWsMON TIMEqRESCENDOrOIXqUT TIMEpDA CAPOrL SEGNOrMPt ALLrS",
    "HED BARLINEqECRESCENDOrGREE SLASHqOUBLE BARLINEwFLATwSHARPqRUM CLEF-1z2pEIGHTH NOTEwRESTqN",
    "D BEAMtOF STIMMEtPHRASEtSLURtTIEpF CLEFv OTTAVA ALTA&BASSAqERMATAw BELOWqINAL BARLINEsGERE",
    "D TREMOLO-1.2.3rVE-LINE STAFFqLAT DOWNuUPqORTErUR-LINE STAFFuSTRING FRETBOARDqUSA BLACKuWH",
    "ITEpG CLEFv OTTAVA ALTA&BASSAqLISSANDO DOWNzUPqRACE NOTE NO SLASH!SLASHrEGORIAN C CLEFzF C",
    "LEFpHALF NOTEuPEDAL MARKuRESTrUPTSTIMMEpINVERTED TURNpKIEVAN C CLEFwEIGHTH NOTE STEM DOWN@",
    "UPxND OF PIECEwFINAL NOTExLAT SIGNwHALF NOTEwQUARTER NOTE STEM DOWN[UPwRECITATIVE MARKwWHO",
    "LE NOTEqORONpLEFT REPEAT SIGNqONGAu IMPERFECTA RESTvPERFECTA RESTpMAXIMAqEZZOqINIMAv BLACK",
    "wRESTqOON NOTEHEAD BLACK&WHITEqULTI RESTuPLE MEASURE RESTpNATURAL DOWNxUPqEBENSTIMMEqOTEHE",
    "AD BLACKqULL NOTEHEADpONE HUNDRED TWENTY-EIGHTH NOTE]RESTs-LINE STAFFqRNAMENT STROKE-1.0.1",
    ",2,3,4,5,6,7,8,9qTTAVA ALTAwBASSApPARENTHESIS NOTEHEADqEDAL MARKvUP MARKrS SUBPUNCTISqIANO",
    "qLUS NOTEHEADqODATUSrRRECTUSy FLEXUSpQUARTER NOTExRESTxTONE FLAT%SHARPrINDICESIMA ALTA%BAS",
    "SApREPEAT DOTSvED FIGURE-1,2,3rVERSE FINAL BARLINEqIGHT REPEAT SIGNrNFORZANDOpSCANDICUSy F",
    "LEXUSqEGNOrMIBREVIS BLACK!REST!WHITEtMINIMA BLACK!REST!WHITEqHARP DOWNvUPrORT BARLINEqINGL",
    "E BARLINErX-LINE STAFFtSTRING FRETBOARDsTEENTH NOTEzRESTtY-FOURTH NOTE%RESTqORIqQUARE BwNO",
    "TEHEAD BLACK,WHITEqUBITOpTEMPUS IMPERFECTUM CUM PROLATIONE IMPERFECTA~ONE IMPERFECTA DIMIN",
    "UTION-1~ONE IMPERFECTA DIMINUTION-2~ONE IMPERFECTA DIMINUTION-3~ONE PERFECTAwPERFECTUM CUM",
    " PROLATIONE IMPERFECTA~E PERFECTA~E PERFECTA DIMINUTION-1qHIRTY-SECOND NOTE&RESTrREE-LINE ",
    "STAFFqORCULUSx RESUPINUSqRrIANGLE NOTEHEAD DOWN BLACK?WHITE:LEFT BLACK?WHITE:RIGHT BLACK@W",
    "HITE:UP BLACK=RIGHT BLACK^WHITE=WHITEx-ROUND NOTEHEAD DOWN BLACK|WHITEqURNt SLASHuUPqWO-LI",
    "NE STAFFpVIRGAqOID NOTEHEADpWHOLE NOTEvRESTqITH FINGERNAILSpX NOTEHEADpZbVSbWbYANMAR CONSO",
    "NANT SIGN MEDIAL HA+RA+WA+YAyON MEDIAL LA;MA;NAxSHAN MEDIAL WAiDIGIT EIGHToFIVEpOURoNINEoO",
    "NEoSEVENpIXoTHREEpWOoZEROiLETTER AqITON RAqUpBAqHApCAqHApDAqDArHAqHApEqASTERN PWO KAREN GH",
    "WA:NNA:YWApGAqHAqREAT SApHApIqIpJAqHApKAqHAsMTI CAxHAwDDAyHAxHAwFAwGAwHAxHAwJAxHAwLLAwNAxY",
    "AwRAwSAwTTAyHAwXAwZApLAqLApMAqON BBAvEtEtJHAtNGApNAqGAqNArYAqYApOpPAqHApRAqUMAI PALAUNG FA",
    "pSAqGAW KAREN SHAqHAsN AuBAvHAuCAvHAuDAuFAuGAvHAuHAuJHAuKAvHAuNAvNAvYAuPHAuTHAuZArWE PALAU",
    "NG CHA%SHAqSApTArI LAING BA!HAzDA!DA$HA!HAzFAzGA!HAzJA!HAzLLAzNNA!YAqHAqTArHApUqUpVOCALIC ",
    "LyLxRyRpWAqESTERN PWO KAREN PWA:THApYAjOGOGRAM KHAMTI HMyOAYyQNiMODIFIER LETTER KHAMTI RED",
    "UPLICATIONySHAN REDUPLICATIONiSHAN DIGIT EIGHTtFIVEuOURtNINEtONEtSEVENuIXtTHREEuWOtZEROjIG",
    "N ANUSVARAoSATnDOT BELOWnKHAMTI TONE-1z3nLITTLE SECTIONnPAO KAREN TONEnRUMAI PALAUNG TONE-",
    "5nSECTIONoHAN COUNCIL EMPHATIC TONE!TONE-2,3sSAWsTONE-2x3x5x6nTAI LAING TONE-2%5nVIRAMApSA",
    "RGAnWESTERN PWO KAREN TONE-1=2=3=4=5jYMBOL AFOREMENTIONEDqITON EXCLAMATIONvONEvTWOpCOMPLET",
    "EDpGENITIVEpLOCATIVEpSHAN EXCLAMATIONuONEiTAI LAING DIGIT EIGHTyFIVEzOURyNINEyONEySEVENzIX",
    "yTHREEzWOyZEROjONE MARK SGAW KAREN HATHI&KE PHOiVOWEL SIGN AAuIvTON A!ItEu ABOVEtGEBA KARE",
    "N ItIuItKAYAH EEzOEzUtMON IIxOtSGAW KAREN EUuHAN AAyEz ABOVEyFINAL YtTALL AAtUuUtVOCALIC L",
    "%L$R%RtWESTERN PWO KAREN EU>UE"]

end Text

end PracticeForge
