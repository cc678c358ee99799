/-!
# Text/CharName/FromC — character names starting with C

The names of Unicode 14 characters and their aliases that start with C, sorted and
front-coded: each entry is one lower-case letter or punctuation mark telling how many leading
characters it shares with the entry before it (`a` none, `b` one, and so on through
`abcdefghijklmnopqrstuvwxyz!$%&+,.:;<=>?@[]^_|~`), then the rest of the name.  The text is cut into pieces of 90 characters.
-/

namespace PracticeForge

namespace Text

/-- The front-coded names starting with C, in pieces. -/
def namesFromC : List String := [
    "aCACTUScDA UNAdUCEUScLENDARdL ME HANDcMERAg WITH FLASHdPINGcNdADIAN SYLLABICS AuAvIvYuIvVI",
    "LIK BuNuTHAPASCAN M+SuYtBEAVER DENE L,RuIBLE-CREE YuLACKFOOT A&E&I&KA+E+I+O&NA+E+I+O&O&S&W",
    "+A+E+I+OtCuAvAwIvRRIER CHA&E+E&I&O&U$DEE&NE GEE+TAL S%I%LA&E+E&I&O&U%ZA&E+E&I&O&U$EE$GA&A%",
    "E&E%HA&E+E&I&O&U%I%O%U%WA&U$H%EE%I%WA&E+E&I&O&U$I%NITIAL Z$JA%E&E%I%JA&E+E&I&O&U%O%U%WA$KH",
    "A&E+E&I&O&U%K&A&E+E&I&O&U$LA%E&E%HA&E+E&I&O&U%I%O%U$MA%E&E%I%O%U$NA%E&E%G%I%O%U$P%A%E&E%I%",
    "O%U$RA%E&E%I%O%U$SA%E&E%H&A&E+E&I&O&U%I%O%U$THA&E+E&I&O&U%LA&E+E&HA+E,E+I+O+U&I&O&U%SA&E+E",
    "&I&O&U%TA&E+E&I&O&SA+E,E+I+O+U&U$WA%E&E%I%O%U$YA%E&E%I%O%U$Z%A%E&E%I%O%UuEuHI SIGNuIvIuOvO",
    "uWAwAvEvIwIvOwOtEuASTERN WuNtFuAvAwIuEuIvIvNAL ACUTEzBOTTOM HALF RINGzDOUBLE ACUTE.SHORT V",
    "ERTICAL STROKES$WN TACKzGRAVEzMIDDLE DOTzPLUSzRAISED DOT!IGHT HALF RING$NGzSHORT HORIZONTA",
    "L STROKE!MALL RINGzTOP HALF RINGuOvOuULL STOPuWAAtGLOTTAL STOPtHKuYPHENtIuIuNtKuAvAwIvYuEu",
    "IvIuOvOuWvAwAwYvEvIwIvOwOtLuAvAwIvYuEuHvAwAvIwIvOwOuIvIuOvOuWAwAvEvIwIvOwOtMuAvAwIvYuEvDIA",
    "L L!RuHuIvIuOvOwSE-CREE SKuWAwAvEvIwIvOwOtNu-CREE THE%I&IuAvAwIvSKAPI CWAA$KWAA$MWAA$NWAA$",
    "S-W%CWA%KW+A%PWA%TWA%WAA$TWAA$WAA%OO$YWAAvTTILIK HA+A&I+I&O+O%SHRA.A,I.I,O.OvYuEuGvAwAxIwI",
    "vIwIvOwOuHuIvIuNGwAxAwIxIwOxOuOvOvYuUNAVIK H%A&A%E%I&I%O&OyUT HuWAwAvEvIwIvOwOtOuJIBWAY C$",
    "K$M$N%WI+I&O+O$P$S%H$TuNuOuYtPuAvAwIvYuEuIvIuOvOvYuWAwAvEvIwIvOwOwYtQuAvAwIvIuIvIuOvOtRu-C",
    "REE RE$WEuAvAwIvYuEuIvIuOvOuWAwAvEEvIwIvOwOtSuAvAwIvYwISI HA$E$I$O%O!JI$U%U!M!SHA%E%I%O&O%",
    "WE!TH!YIuEuHvAwAwYvEvIwIvOwOwYvWAxAwEwIxIwOxOxYuIvIuOvOvUTH-SLAVEY KAH:EH:IH:OHvYuPAvEvIvO",
    "uWvAwAvEvIwIvOwOtTuAvAwIvYuEuHv-CREE TH&A+A&E&I+I&O+OvAwAvEvIwIvOwOvWAxAwEuIvIuLHAwEwIwOxO",
    "wWEuOvOuTAvEvHwAxAwEwIwOxOwWEvIvOuWAwAvEvIwIvOwOuYAvEvIvOtWAvAvYuEvST-CREE CWA.A,E,I.I,O.O",
    "&FWAA&KWA.A,E,I.I,O.O&L+A,A+E+O,O+WA.A,E,I.I,O.O&M+WA.A,E,I.I,O.O&NWA.A,E&P+WA.A,E,I.I,O.O",
    "&R+A+E+I+O+WAA&SHWA:A.E.I:I.O:O+WA.A,E,I.I,O.O&THWAA+WA.A,E,I.I,O.O&WA,A+E+I,I+O,O&Y+WA.A,",
    "E,I.I,O.OxERN WuIvIuOvOwDS-CREE FINAL TH+TH.A.E.I.O.WA;A:EE:I;I:O;OtYu-CREE COO!KOO!LOO!MO",
    "O!NOO!OO!POO$WAA!SOO!TOO!W!YOOuAvAwIvYuEuIvIuOvOvYuWAwAvEvIwIvOwOdCELg CHARACTERhTAGgLATIO",
    "N XfRdDLEeYdNED FOODdOEcPITULUMdRICORNcR SLIDINGdD FILE BOXfINDEXk DIVIDERSdE OFeTf INSERT",
    "ION POINTdIAN LETTER Ap2oBoC-18q39oDp2oEp2oGp2oIpIoKp2oLpDq2oMpBq2q3q4oNpDpGpNoOoPp2oQoRpR",
    "oSpHq2pSpTq2oTpTq2oUpUqUr2r3rUoXdONeUSEL HORSEdP STREAMEReENTRY SAWdRIAGE RETURNeOTcSTLEcT",
    "d FACEi WITH TEARS OF JOYoWRY SMILEcUCASIAN ALBANIAN CITATION MARKtLETTER ALT$OR!BET!CAR%Y",
    "N$HA&T%I%OY$YAW&Y!DAT$YAN$ZAY%YAY!EB$YN!FAM!GHEYS$IM!HEYT!INYA$RB$WN!JAYN$HOX!KAR$IW!LAN$Y",
    "IT!MAQ!NOWC!ON!PEN$IWR!QAR%Y!RAT!SEYK$HA&K%OY!TAS$IWR$YAY!VEYZ!XEYN!YAYD$OWD!ZARL$HA%ILdTI",
    "ON SIGNbCHbEDI SIGNeLLAcLTIC CROSScNT SIGNeRE LINE SYMBOLgLINE LOW LINElOVERLINEcRESbGJbHA",
    "INSeRdKMA AU MARKhDANDAiIGIT EIGHTnFIVEoOURnNINEnONEnSEVENoIXnTHREEoWOnZEROiOUBLE DANDAhLE",
    "TTER AAoBAApHAAoCAApHAAoDAApDAAqHAApHAAoEoGAApHAAoHAAoIoJAApHAAoKAApHAAoLAApHAAoMAAoNAApGA",
    "ApNAApYAAoPAApHAAoRAAoSAAoTAApHAApTAAqHAAoUoVAAoWAAoYAApYAAhMAAYYAAhO MARKhQUESTION MARKhS",
    "ECTION MARKiIGN ANUSVARAmCANDRABINDUmVISARGAhVIRAMAiOWEL SIGN AtAtItUsEtIsItIsOtIsUtUdM CO",
    "NSONANT SIGN FINAL H!M!NGuLAuRAuWAuYAfDIGIT EIGHTlFIVEmOURlNINElONElSEVENmIXlTHREEmWOlZERO",
    "fLETTER AnImBAnBAnHAmCHAoHAmDAnDAnHAmEmFINAL CHsGsKsLsNtGsPsRsSSsTsYmGAnHAmHAmImJAnHAmKAnH",
    "AmLAmMAnUEmNAnGAoUEnHAoJAoUEnUEmOmPAnHAnPAmRAmSAnSAmTAnHAmUmVAmYAfPUNCTUATION DANDAsOUBLE ",
    "DANDArSPIRALrTRIPLE DANDAfVOWEL SIGN AArIrUqEIqIrIqOrEqUrEdRACTER TABULATIONu SETvWITH JUS",
    "TIFICATIONlIEeT WITH DOWNWARDS TRENDlUPWARDS TRENDy AND YEN SIGNcECK MARKfER BOARDn FILLdE",
    "RING MEGAPHONEeSE WEDGEdQUERED FLAGdROKEE LETTER AqDArErIrLArOrUrVqEqGArErIrOrUrVqHArErIrN",
    "ArOrUrVqIqKAqLArErIrOrUrVqMArErIrOrUrVqNAsHrErIrOrUrVqOqQUAsEsIsOsUsVqSrArErIrOrUrVqTArErI",
    "rLAsEsIsOsUsVrSAsEsIsOsUsVqUqVqWArErIrOrUrVqYArErIrOrUrVjSMALL LETTER AwDAxExIxLAxOxUxVwEw",
    "GAxExIxOxUxVwHAxExIxNAxOxUxVwIwKAwLAxExIxOxUxVwMAxExIxOxUxVwNAyHxExIxOxUxVwOwQUAyEyIyOyUyV",
    "wSxAxExIxOxUxVwTAxExIxLAyEyIyOyUyVxSAyEyIyOyUyVwUwVwWAxExIxOxUxVwYAxExIxOxUxVeRIESfY BLOSS",
    "OMdSTNUTcI RHOdCKENdLDfREN CROSSINGdPMUNKdRONcOCOLATE BARdPSTICKSdRASMIAN LETTER ALEPHtYIN",
    "sBETHsCURLED WAWsDALETHsGIMELsHEuTHsKAPHsLAMEDHsMEMsNUNsPEsRESHsSAMEKHtHINtMALL ALEPHsTAWs",
    "WAWsYODHsZAYINlNUMBER FOURsONEv HUNDREDsTENtHREEtWENTYuOcRISTMAS TREEcURCHbINEMAcRCLE DIVI",
    "DED BY HORIZONTAL BAR AND TOP HALF DIVIDED BY VERTICAL BARhWITH ALL BUT UPPER LEFT QUADRAN",
    "T BLACKmHORIZONTAL BARmLEFT HALF BLACKnOWER HALF BLACKmRIGHT HALF BLACKmSMALL CIRCLE TO TH",
    "E RIGHTnUPERIMPOSED XmTWO HORIZONTAL STROKES TO THE RIGHTmUPPER HALF BLACKsRIGHT QUADRANT ",
    "BLACKmVERTICAL FILLgD ANTICLOCKWISE ARROWv-ROTATED DIVISION SIGNjSTERISK OPERATORiBOLD XjU",
    "LLETiC WITH OVERLAID BACKSLASHjCjDjROSS FORMEEu WITH FOUR DOTS!TWO DOTSoPOMMEEnING LANESiD",
    "ASHjIGIT EIGHToFIVEpOURoNINEoONEoSEVENpIXoTHREEpWOoZEROkVISION SIGNsLASHjOLLAR SIGN WITH O",
    "VERLAID BACKSLASHkT OPERATORiEQUALSiGREATER-THANiHANGUL CHIEUCHw AqIEUCu ApHIEUHu ApIEUNGu",
    " AvUpKHIEUKHw AqIYEOKv ApMIEUMu ApNIEUNu ApPHIEUPHw AqIEUPu ApRIEULu ApSIOSt ApTHIEUTHw Aq",
    "IKEUTv AjEAVY WHITE RIGHTWARDS ARROWjORIZONTAL BAR WITH NOTCHjUMAN FIGUREiIDEOGRAPH ACCEPT",
    "tDVANTAGEtLLIANCEtTTENTIONsCENTREtONGRATULATIONuPYuRRECTsEARTHtIGHTtNTERPRISEtXCELLENTsFEM",
    "ALEtINANCIALuREuVEtOURsHAVEtIGHsITEMsKINDERGARTENtOTOsLABORtEFTtOWsMALEtEDICINEuTALtOONsNA",
    "MEtIGHTuNEsONEsPRINTsQUESTIONsRELIGIONuSOURCEvTtIGHTsSCHOOLtECRETuVENtIXtOCIETYtPECIALtTOC",
    "KuUDYtUITABLEuNuPERVISEsTENtHREEtWOsWATERtOODjNFORMATION SOURCEjTALIC LATIN CAPITAL LETTER",
    " C=RiKATAKANA ArErHAsEsIsOsUrIrKAsEsIsOsUrMAsEsIsOsUrNAsEsIsOsUrOrRAsEsIsOsUrSAsEsIsOsUrTA",
    "sEsIsOsUrUrWAsEsIsOrYAsOsUjOREAN CHARACTER CHAMKOzJUEUIiLATIN CAPITAL LETTER A&B&C&D&E&F&G",
    "&H&I&J&K&L&M&N&O&P&Q&R&S&T&U&V&W&X&Y&ZoSMALL LETTER A$B$C$D$E$F$G$H$I$J$K$L$M$N$O$P$Q$R$S$",
    "T$U$V$W$X$Y$ZjESS-THANiMINUSjULTIPLICATION SIGN WITH CIRCUMFLEX ACCENTiNUMBER EIGHTEENuY O",
    "N BLACK SQUAREqLEVENpFIFTEENtYu ON BLACK SQUAREqORTYu EIGHTvFIVEwOURvNINEvON BLACK SQUAREx",
    "EvSEVENwIXvTHREEwWOrURTEENpNINETEENpSEVENTEENvY ON BLACK SQUAREqIXTEENtY ON BLACK SQUAREpT",
    "ENs ON BLACK SQUAREqHIRTEENuYv EIGHTwFIVExOURwNINEwON BLACK SQUAREyEwSEVENxIXwTHREExWOqWEL",
    "VEsNTYv EIGHTwFIVExOURwNINEwON BLACK SQUAREyEwSEVENxIXwTHREExWOiOPEN CENTRE EIGHT POINTED ",
    "STARiPARALLELjERPENDICULARjLUSjOSTAL MARKiREVERSE SOLIDUSjING OPERATORiSQUAREiTIMESjRIANGL",
    "Eq DOWNiVERTICAL BARiWHITE BULLEToSTARjZiXiZERO WITH SLASHeULATION FUNCTIONfMFLEX ACCENTfS",
    " TENTcTYSCAPEj AT DUSKbJK COMPATIBILITY IDEOGRAPH-2F800.1.2.3.4.5.6.7.8.9.A.B.C.D.E.F,10.1",
    ".2.3.4.5.6.7.8.9.A.B.C.D.E.F,20.1.2.3.4.5.6.7.8.9.A.B.C.D.E.F,30.1.2.3.4.5.6.7.8.9.A.B.C.D",
    ".E.F,40.1.2.3.4.5.6.7.8.9.A.B.C.D.E.F,50.1.2.3.4.5.6.7.8.9.A.B.C.D.E.F,60.1.2.3.4.5.6.7.8.",
    "9.A.B.C.D.E.F,70.1.2.3.4.5.6.7.8.9.A.B.C.D.E.F,80.1.2.3.4.5.6.7.8.9.A.B.C.D.E.F,90.1.2.3.4",
    ".5.6.7.8.9.A.B.C.D.E.F,A0.1.2.3.4.5.6.7.8.9.A.B.C.D.E.F,B0.1.2.3.4.5.6.7.8.9.A.B.C.D.E.F,C",
    "0.1.2.3.4.5.6.7.8.9.A.B.C.D.E.F,D0.1.2.3.4.5.6.7.8.9.A.B.C.D.E.F,E0.1.2.3.4.5.6.7.8.9.A.B.",
    "C.D.E.F,F0.1.2.3.4.5.6.7.8.9.A.B.C.D.E.F+900.1.2.3.4.5.6.7.8.9.A.B.C.D.E.F,10.1.2.3.4.5.6.",
    "7.8.9.A.B.C.D.E.F,20.1.2.3.4.5.6.7.8.9.A.B.C.D.E.F,30.1.2.3.4.5.6.7.8.9.A.B.C.D.E.F,40.1.2",
    ".3.4.5.6.7.8.9.A.B.C.D.E.F,50.1.2.3.4.5.6.7.8.9.A.B.C.D.E.F,60.1.2.3.4.5.6.7.8.9.A.B.C.D.E",
    ".F,70.1.2.3.4.5.6.7.8.9.A.B.C.D.E.F,80.1.2.3.4.5.6.7.8.9.A.B.C.D.E.F,90.1.2.3.4.5.6.7.8.9.",
    "A.B.C.D.E.F,A0.1.2.3.4.5.6.7.8.9.A.B.C.D.E.F,B0.1.2.3.4.5.6.7.8.9.A.B.C.D.E.F,C0.1.2.3.4.5",
    ".6.7.8.9.A.B.C.D.E.F,D0.1.2.3.4.5.6.7.8.9.A.B.C.D.E.F,E0.1.2.3.4.5.6.7.8.9.A.B.C.D.E.F,F0.",
    "1.2.3.4.5.6.7.8.9.A.B.C.D.E.F+A00.1.2.3.4.5.6.7.8.9.A.B.C.D.E.F,10.1.2.3.4.5.6.7.8.9.A.B.C",
    ".D%F900,1,2,3,4,5,6,7,8,9,A,B,C,D,E,F+10,1,2,3,4,5,6,7,8,9,A,B,C,D,E,F+20,1,2,3,4,5,6,7,8,",
    "9,A,B,C,D,E,F+30,1,2,3,4,5,6,7,8,9,A,B,C,D,E,F+40,1,2,3,4,5,6,7,8,9,A,B,C,D,E,F+50,1,2,3,4",
    ",5,6,7,8,9,A,B,C,D,E,F+60,1,2,3,4,5,6,7,8,9,A,B,C,D,E,F+70,1,2,3,4,5,6,7,8,9,A,B,C,D,E,F+8",
    "0,1,2,3,4,5,6,7,8,9,A,B,C,D,E,F+90,1,2,3,4,5,6,7,8,9,A,B,C,D,E,F+A0,1,2,3,4,5,6,7,8,9,A,B,",
    "C,D,E,F+B0,1,2,3,4,5,6,7,8,9,A,B,C,D,E,F+C0,1,2,3,4,5,6,7,8,9,A,B,C,D,E,F+D0,1,2,3,4,5,6,7",
    ",8,9,A,B,C,D,E,F+E0,1,2,3,4,5,6,7,8,9,A,B,C,D,E,F+F0,1,2,3,4,5,6,7,8,9,A,B,C,D,E,F&A00,1,2",
    ",3,4,5,6,7,8,9,A,B,C,D,E,F+10,1,2,3,4,5,6,7,8,9,A,B,C,D,E,F+20,1,2,3,4,5,6,7,8,9,A,B,C,D,E",
    ",F+30,1,2,3,4,5,6,7,8,9,A,B,C,D,E,F+40,1,2,3,4,5,6,7,8,9,A,B,C,D,E,F+50,1,2,3,4,5,6,7,8,9,",
    "A,B,C,D,E,F+60,1,2,3,4,5,6,7,8,9,A,B,C,D+70,1,2,3,4,5,6,7,8,9,A,B,C,D,E,F+80,1,2,3,4,5,6,7",
    ",8,9,A,B,C,D,E,F+90,1,2,3,4,5,6,7,8,9,A,B,C,D,E,F+A0,1,2,3,4,5,6,7,8,9,A,B,C,D,E,F+B0,1,2,",
    "3,4,5,6,7,8,9,A,B,C,D,E,F+C0,1,2,3,4,5,6,7,8,9,A,B,C,D,E,F+D0,1,2,3,4,5,6,7,8,9eRADICAL BA",
    "MBOOnLUEnOLT OF CLOTHoNEoXnRUSH ONEsTWOmC-SIMPLIFIED BIRDzCARTzDRAGONzEAT!VENzFISH!LY!ROGz",
    "GATE!OLDzHORSEzLEAF!ONGzSALT!EE!HELL!ILK!PEECHzTANNED LEATHER!OOTH!URTLEzWINDnHOKEnITYoVIL",
    "IANnLIFFoOTHESnOWmDEATHnIVINATIONnOGmEAT ONEqTHREErWOnWEnYEmFIREnOOTmGHOSTnRASS ONEsTHREEt",
    "WOmHANDnEADpRT ONEsTWOnORNmJ-SIMPLIFIED DRAGONzEVENzTOOTH!URTLEnADEmKNIFE ONEsTWOmLAME FOU",
    "RrONErTHREEsWOnONG ONErTWOmMEAToSHnOONoRTARoTHERoUND ONEsTWOmNET FOURqONEqTHREErWOmOLDmPAW",
    " ONEqTWOnERSONmRAINoMoPnEPEATmSEALoCOND ONEtTHREEuWOnHEEPnILKoMPLIFIED HALF TREE TRUNKyORN",
    "xWALKyHEATxYELLOWnMALL ONEsTWOnNAKEoOUT ONEsTWOnPIRIT ONEtTWOnUNmTABLEnHREADnIGERnURTLEmWA",
    "LK ONErTWOoTER ONEsTWOnEST ONErTWOeSTROKE BXGlDlHmGmPnWGmXWGmZnGnTnWoGnZoPoZpGlNlPmDmGmZlQ",
    "lSmGmPmTmWnGnZmZnWGnZlTmNlWGlXGbLAMSHELL MOBILE PHONEdPPER BOARDfING HANDS SIGNdSSICAL BUI",
    "LDINGcEAR SCREEN SYMBOLcINKING BEER MUGSjGLASSESdPBOARDcOCK FACE EIGHT OCLOCKq-THIRTYmLEVE",
    "N OCLOCKr-THIRTYlFIVE OCLOCKp-THIRTYmOUR OCLOCKp-THIRTYlNINE OCLOCKp-THIRTYlONE OCLOCKo-TH",
    "IRTYlSEVEN OCLOCKq-THIRTYmIX OCLOCKo-THIRTYlTEN OCLOCKo-THIRTYmHREE OCLOCKq-THIRTYmWELVE O",
    "CLOCKr-THIRTYnO OCLOCKo-THIRTYfWISE CLOSED CIRCLE ARROWlONTOUR INTEGRALkDOWNWARDS AND UPWA",
    "RDS OPEN CIRCLE ARROWSkGAPPED CIRCLE ARROWkINTEGRALkOPEN CIRCLE ARROWkRIGHT AND LEFT SEMIC",
    "IRCLE ARROWSpWARDS AND LEFTWARDS OPEN CIRCLE ARROWS~E ARROWS WITH CIRCLED ONE OVERLAYkTOP ",
    "SEMICIRCLE ARROWlRIANGLE-HEADED OPEN CIRCLE ARROWdSE UPfD BOOKhINTERSECTION WITH SERIFShLO",
    "CK WITH KEYhMAILBOX WITH LOWERED FLAGuRAISED FLAGhSUBSETn OR EQUAL TOjPERSETp OR EQUAL TOh",
    "UMBRELLAiNION WITH SERIFSy AND SMASH PRODUCTdUDf WITH LIGHTNINGlRAINlSNOWlTORNADOdWN FACEb",
    "OATcCKROACHeTAIL GLASSdONUTcFFINcINcLLISION SYMBOLdONf EQUALSgSIGNcMBINING ACUTE ACCENTw B",
    "ELOWqTONE MARKp-GRAVE-ACUTEqMACRONlLMOST EQUAL TO ABOVE!BELOWlNNUITY SYMBOLmTICLOCKWISE AR",
    "ROW ABOVEyRING OVERLAYlSTERISK ABOVEtBELOWkBINDU BELOWlREVEp BELOWp-MACRONmIDGE ABOVErBELO",
    "WkCANDRABINDUmRONp BELOWlEDILLAlIRCUMFLEX ACCENT$ BELOWlLOCKWISE ARROW ABOVEuRING OVERLAYl",
    "OMMA ABOVEv RIGHTqBELOWmNJOINING MACRON$ BELOWlYRILLIC DASIA PNEUMATAtHUNDRED MILLIONS SIG",
    "N$THOUSANDS SIGNtKAVYKAtLETTER A!BE$IG YUS!CHE!DE$JERV!EF$L$M$N$R$S%-TE!FITA!GHE!HA%RD SIG",
    "N!I$E$OTIFIED A<BIG YUS<E!KA!LITTLE YUS!MONOGRAPH UK!O$MEGA!PE!SHA%CHA$OFT SIGN!TE$SE!U$KR",
    "AINIAN IE!VE!YAT$ERU$I$U!ZE$HEtMILLIONS SIGNtPALATALIZATIONvYEROKuOKRYTIEuSILI PNEUMATAtTE",
    "N MILLIONS SIGNuHOUSAND MILLIONS SIGNuITLOy LEFT HALFzRIGHT HALFtVZMETkDELETION MARKmVANAG",
    "ARI DIGIT EIGHT$FIVE%OUR$NINE$ONE$SEVEN%IX$THREE%WO$ZEROvLETTER A%KA%NA%PA%RA%U%VIvSIGN AV",
    "AGRAHAlIAERESISt BELOWt-RINGlOT ABOVEt LEFTuRIGHToBELOWt LEFTnTED ACUTE ACCENTrGRAVE ACCEN",
    "TmUBLE ACUTE ACCENTrBREVEw BELOWrCIRCUMFLEX ABOVErGRAVE ACCENTrINVERTED BREVE, BELOWrLOW L",
    "INErMACRONx BELOWrOPEN MARK BELOWsVERLINErPARENTHESES ABOVEsLUS SIGN ABOVE$BELOWrRIGHTWARD",
    "S ARROW BELOWtNG BELOWrTILDEw LEFT HALFxRIGHT HALFrVERTICAL LINE ABOVE,BELOW!STROKE OVERLA",
    "YqD CIRCUMFLEX ACCENTmWN TACK BELOWoWARDS ARROWkENCLOSING CIRCLE! BACKSLASHuDIAMONDuKEYCAP",
    "uSCREENvQUAREuUPWARD POINTING TRIANGLElQUALS SIGN BELOWkFERMATAlOUR DOTS ABOVEkGLAGOLITIC ",
    "LETTER AZU%BIG YUS&UKY%CHRIVI%DJERVI&OBRO%FITA&RITU%GLAGOLI%HERU%I&NITIAL IZHE&OTATED BIG ",
    "YUS=SMALL YUS&ZHE%KAKO%LJUDIJE%MYSLITE%NASHI%ONU%POKOJI%RITSI%SHA+TA&LOVO&MALL YUS%TSI&VRI",
    "DO%UKU%VEDE%YATI&ERI,U+STU&O&U%ZEMLJA&HIVETElRANTHA DIGIT FIVEzOURyONEySIXyTHREEzWOyZEROsL",
    "ETTER AzKAzNAzPAzVInPHEME JOINERnVE ACCENTw BELOWqTONE MARKp-ACUTE-GRAVEqMACRONmEEK DIALYT",
    "IKA TONOSqKORONISqMUSICAL PENTASEMEyTETRASEMEzRISEMEqPERISPOMENIqYPOGEGRAMMENIkHOMOTHETIC ",
    "ABOVEmOK ABOVEmRNkINFINITYmVERTED BREVEy BELOWvIDGE BELOWtDOUBLE ARCH ABOVE,BELOWlS BELOWk",
    "KATAKANA-HIRAGANA SEMI-VOICED SOUND MARK%VOICED SOUND MARKmVYKA ABOVE LEFTxRIGHTkLATIN LET",
    "TER SMALL CAPITAL G>L>M>N>RqSMALL LETTER A+ WITH DIAERESIS+E+LPHA+O+V&B+ETA&C+ CEDILLA&D&E",
    "+SH+TH&F+LATTENED OPEN A ABOVE&G&H&I+NSULAR D>G>R>T&K&L+ WITH DOUBLE MIDDLE TILDE+ONG S&M&",
    "N&O+ WITH DIAERESIS=LIGHT CENTRALIZATION STROKE&P&R+ BELOW,ROTUNDA&S+CHWA&T+URNED W BELOW&",
    "U+ WITH DIAERESIS=LIGHT CENTRALIZATION STROKE&V&W+ BELOW&X&ZlEFT ANGLE ABOVEvBELOWqRROW AB",
    "OVEvBELOWuHEAD ABOVEzBELOWpHALF RING ABOVEzBELOWrRPOON ABOVEpPARENTHESIS ABOVE LEFT$BELOW ",
    "LEFTpRIGHT ARROW ABOVE$BELOWpTACK BELOWoWARDS ARROW OVERLAYuHARPOON WITH BARB DOWNWARDSlIG",
    "ATURE LEFT HALF% BELOWtRIGHT HALF& BELOWnHT CENTRALIZATION STROKE BELOWlONG DOUBLE SOLIDUS",
    " OVERLAYpSOLIDUS OVERLAYqTROKE OVERLAYpVERTICAL LINE OVERLAYmW LINEkMACRONq BELOWrLEFT HAL",
    "F! BELOWrRIGHT HALF$ BELOWq-ACUTErBREVErGRAVElINUS SIGN BELOWkNOT TILDE ABOVElUMBER SIGN A",
    "BOVEkOGONEKq ABOVElLD PERMIC LETTER AN%DOI%NENOE%SII%ZATAlPEN MARK BELOWlVERLINEkPALATALIZ",
    "ED HOOK BELOWmRENTHESES ABOVEwBELOWwOVERLAYlLUS SIGN ABOVEuBELOWkRETROFLEX HOOK BELOWmVERS",
    "E SOLIDUS OVERLAYrD COMMA ABOVElIGHT ARROW ABOVEwBELOWvHEAD ABOVE$ND DOWN ARROWHEAD BELOW+",
    "UP ARROWHEAD BELOW!BELOWqHALF RING ABOVE!BELOWsRPOON ABOVEqPARENTHESIS ABOVE RIGHT%BELOW R",
    "IGHTqTACK BELOWpWARDS HARPOON WITH BARB DOWNWARDSmNG ABOVEpBELOWpOVERLAYkSEAGULL BELOWlHOR",
    "T SOLIDUS OVERLAYrTROKE OVERLAYqVERTICAL LINE OVERLAYlNAKE BELOWlQUARE BELOWsRACKETS ABOVE",
    "lTRONG CENTRALIZATION STROKE BELOWlUSPENSION MARKkTHREE DOTS ABOVElILDEp BELOWqLEFT HALF B",
    "ELOWqOVERLAYqRIGHT HALF BELOWlRIPLE ACUTE ACCENTrDOTrUNDERDOTlURNED COMMA ABOVEkUP TACK AB",
    "OVEsBELOWmWARDS ARROW BELOWlR ABOVElS ABOVEkVERTICAL LINE ABOVEyBELOWtTILDEkWIDE BRIDGE AB",
    "OVEpINVERTED BRIDGE BELOWmGGLY LINE BELOWkX ABOVEmBELOWl-X BELOWkZIGZAG ABOVErBELOWdETdMAe",
    "ERCIAL ATlMINUS SIGNdPASSeLEMENTeOSITION SYMBOLeRESSIONcNFETTI BALLeOUNDED FACEeUSED FACEd",
    "GRUENT WITH DOT ABOVEdICAL TAPERdJUNCTIONdSTRUCTION SIGNnWORKERdTAINS AS MEMBERmNORMAL SUB",
    "GROUP$ OR EQUAL TOjWITH LONG HORIZONTAL STROKEoOVERBARoVERTICAL BAR AT END OF HORIZONTAL S",
    "TROKEeINUOUS UNDERLINE SYMBOLeOUR INTEGRALeROL KNOBSiSEQUENCE INTRODUCERdVENIENCE STOREcOK",
    "ED RICEeIEfNGcPTIC CAPITAL LETTER AKHMIMIC KHEIxLFAwBOHAIRIC KHEIwCROSSED SHEIyYPTOGRAMMIC",
    " EIE=GANGIA=NI=SHEIwDALDAxEIxIALECT-P ALEF.HORI.KAPA.NIwEIEwFEIxIwGAMMAyNGIAwHATExORIwIAUD",
    "AwKAPAxHEIyIxSIwL-SHAPED HAxAULAwMIwNIwOxLD COPTIC AIN:DJA:ESH:GANGIA:HA<T;EI;ORI:OOU:SHEI",
    "<IMA!NUBIAN NGI;YI:SHIMA:WAUxOUwPIxSIwROwSAMPIxHEIyIMAxIMAxOUwTAUxHETHEwUAwVIDAwZATAiOMBIN",
    "ING NI ABOVErSPIRITUS ASPER!LENIShEPACT DIGIT EIGHTtFIVEuOURtNINEtONEtSEVENuIXtTHREEuWOnNU",
    "MBER EIGHT HUNDREDzYuFIFTYwVE HUNDREDvORTYwUR HUNDREDuNINE HUNDREDyTYuONE HUNDREDuSEVEN HU",
    "NDREDzTYvIX HUNDREDxTYuTENvHIRTYwREE HUNDREDvWENTYwO HUNDREDnTHOUSANDS MARKhFRACTION ONE H",
    "ALFiULL STOPhMORPHOLOGICAL DIVIDERhOLD NUBIAN DIRECT QUESTION MARKsFULL STOPsINDIRECT QUES",
    "TION MARKsVERSE DIVIDERhSMALL LETTER AKHMIMIC KHEIvLFAuBOHAIRIC KHEIuCROSSED SHEIwYPTOGRAM",
    "MIC EIE;GANGIA;NI;SHEIuDALDAvEIvIALECT-P ALEF+HORI+KAPA+NIuEIEuFEIvIuGAMMAwNGIAuHATEvORIuI",
    "AUDAuKAPAvHEIwIvSIuL-SHAPED HAvAULAuMIuNIuOvLD COPTIC AIN,DJA,ESH,GANGIA,HA:T.EI.ORI,OOU,S",
    "HEI:IMAyNUBIAN NGI.YI,SHIMA,WAUvOUuPIvSIuROuSAMPIvHEIwIMAvIMAvOUuTAUvHETHEuUAuVIDAuZATAiYM",
    "BOL KAIpHI ROoMI ROoPI ROoSHIMA SIMApTAUROSoTAU ROdYLEFT SYMBOLeRIGHT SIGNcRALdNISH VERSE ",
    "DIVIDERdRESPONDS TOcUCH AND LAMPdNTERBOREhSINKfING ROD TENS DIGIT EIGHTyFIVEzOURyNINEyONEy",
    "SEVENzIXyTHREEzWOnUNIT DIGIT EIGHTyFIVEzOURyNINEyONEySEVENzIXyTHREEzWOdPLE WITH HEARTcWd F",
    "ACEbRcABcEDIT CARDdSCENT MOONcICKETh BAT AND BALLcOCODILEdISSANTdSS MARKgOF JERUSALEMjLORR",
    "AINEgPATTY WITH LEFT CROSSBARrRIGHT CROSSBARhOMMEEm WITH HALF-CIRCLE BELOWfED FLAGSiNEGATI",
    "VE SQUARED LATIN CAPITAL LETTER PiSWORDSfING LANESdWNcUTCHdZEIRO SIGNcYING CAT FACEhFACEdS",
    "TAL BALLbSIbUBE ROOTcCUMBERcNEIFORM NUMERIC SIGN EIGHT ASH&DISH&GESH2&SHAR2&U+ VARIANT FOR",
    "M&VARIANT FORM USSU~U3yLAMITE FIFTY.ORTY,ONE THIRD,TWO THIRDSxFIVE ASH, TENU%BAN2. VARIANT",
    " FORM&URU%DISH%GESH2.U%SHAR2.U&IXTHS DISH%U& VARIANT FORMyOUR ASH, TENU%BAN2. VARIANT FORM",
    "&URU%DISH%GESH2.U%SHAR2.U%U& VARIANT FORM%VARIANT FORM LIMMU~U A~U B~U4xNIGIDAESH&MINzNE A",
    "SH%DISH%GESH2%SHAR2%U& VARIANT FORM%VARIANT FORM ILIMMU~MU A~MU3~MU4xOLD ASSYRIAN ONE QUAR",
    "TER[SIXTHyNE BAN2%URU$EIGHTH ASH%SHE3$GESH2,U$HALF GUR$QUARTER ASH<GUR$SHARU$THIRD DISH:VA",
    "RIANT FORM AxSEVEN ASH&DISH&GESH2&SHAR2&U+ VARIANT FORM&VARIANT FORM IMIN A~N B~N3yHAR2 TI",
    "MES GAL PLUS DISH|MINyIX ASH+ TENU$DISH$GESH2$SHAR2$U% VARIANT FORM$VARIANT FORM ASH9xTHRE",
    "E ASH. TENU&BAN2+URU: VARIANT FORM&DISH&GESH2:U&SHAR2; VARIANT FORM:U; VARIANT FORM&VARIAN",
    "T FORM ESH16~21yWO ASH+ TENU$BAN2%URU$ESHE3$GESH2,U$SHAR2,U$THIRDS DISH;VARIANT FORM AkPUN",
    "CTUATION SIGN DIAGONAL COLON=QUADCOLON=TRICOLON$OLD ASSYRIAN WORD DIVIDER$VERTICAL COLONkS",
    "IGN Aq TIMES AxBADxGAN2 TENUxHAxIGIxLAGAR GUNUxMUSHxSAGq2qBr GUNUsTIMES ASH2yDUN3 GUNUyGAL",
    "!N2 TENUyHAyIGI GUNUzMINyLAGAByNUN$ TENUySHESH!U2yU PLUS U PLUS Ur2s TIMES AzBALAGzGAN2 TE",
    "NUzME PLUS ENzSHA3zTAK4qDr TIMES ESH2qKr TIMES ERIN2ySHITA PLUS GISHqLr TIMES ALyDIM2yGISH",
    "yHAyKAD3zIySHEyUSHrANrEPHqMARt TIMES KUG!SHEqNr OVER ANsPLUS NAGA OPPOSING AN PLUS NAGA%SQ",
    "UAREDsTHREE TIMESrSHEqPINqRADt TIMES KURrKABqSAL2rHs KABA TENUtOVER ASH OVER ASH= CROSSING",
    " ASH OVER ASH OVER ASH%TUG2 OVER TUG2 TUG2 OVER TUG2 PAPtZIDA TENUs2sGABpBArDs TIMES DISH ",
    "TENUrG3rHAR2v TIMES AB2%NI%ZArLs OVER BALsAGrRsA2qIr TIMES AyGARyIGI GUNUqUr CROSSING BUsO",
    "VER BU AB!TIMES NA2!UNrLUGu OVER BULUGrRs2pDAr TIMES TAK4rGs KISIM5 TIMES A PLUS MASH:MAR.",
    "BALAG:I.GA; PLUS MASH:I;R2:UD.HA.IR; PLUS LU.KAK.LA:U; PLUS MASH2;M.NE.PAP PLUS PAP.SI.TAK",
    "4.U2 PLUS GIR2[MASH:SHtTIMES KURs3rMrRsA3t4qIrBrMs TIMES IGIzSHEzU U Us2t TIMES UDrNs KASK",
    "AL U GUNU DISHrSHt PLUS SHUqUr GUNUsOVER DUsSHESHIGrBs TIMES ESH2zSHEs2rGs TIMES ANSHE!SH%",
    " AT LEFTzDIN!UNzERIN2zGA!I$R2 GUNU$SHzHA!IzIGI GUNUzKASKAL!UR$SHU2, PLUS KASKALzLAK-020$M%",
    " TIMES KUR!UH PLUS GISHzMASH!ES!IzNIzPIzSHE!I GUNUsUDrHrNs3t GUNUy GUNUs4rR2pEq OVER E NUN",
    " OVER NUNrTIMES PAPq2r TIMES A PLUS HA PLUS DAyGARyKURyMIyPAPySALzHEyUqDINqGIRqLqNr CROSSI",
    "NG ENsOPPOSING ENsSQUAREDsTIMES GAN2% TENUyMEqRENrIN2u XqSH2t CROSSING ESH2qZENt SHESHIG T",
    "IMES ASH;HI;IGI GUNU;LA=L;ME=S;SUuTIMES A$ PLUS LAL= TIMES LAL$N!BAD!DUN3 GUNU< GUNU!GUD!H",
    "A% GUNU!IGI GUNU!KASKAL. SQUARED$U3!LA%L TIMES LAL$I$U!SHE$U!U2$DpGAr GUNUr2s OVER GA2tTIM",
    "ES A PLUS DA PLUS HA.HA.IGI!B2 TENU PLUS TAB!N$ PLUS KAK PLUS A!SH%2& PLUS GALzBAD$HAR2$R ",
    "PLUS RA!UR% PLUS RAzDA!I$M GUNU&TIMES SHE!UB$G TIMES IGI GUNU<KASKALzEL$ PLUS LA!N$ TIMES ",
    "GAN2 TENU!RENzGA$N2 TENU$R% PLUS DI;NE!I$4% PLUS A$R2 PLUS SUzHA PLUS A:LU PLUS ESH2$L% PL",
    "US LA!I PLUS LI!UB2zIGI GUNU!SH PLUS HU PLUS ASHzKAK$SKAL!ID% PLUS LAL!U3 PLUS AN$SHU2 PLU",
    "S KASKALzLA$M% TIMES KUR!UHzME PLUS EN!I!USHzNE$ PLUS E2:GI!UN% OVER NUNzPAzSAL$R!HE% PLUS",
    " TUR$ID%M!UMzTAK4zU!D$ PLUS DUzZIZ2rBAt CROSSING GABAuROTATED NINETY DEGREESrDs OVER GAD G",
    "AR OVER GARrLs GAD OVER GAD GAR OVER GARsAMrMrNs2t CROSSING GAN2uOVER GAN2uTENUrRs3rSHANqE",
    "22rSHTINw TIMES KUR&UqIr CROSSING GIsTIMES EyUr4s CROSSING GI4tOVER GI4rDIMrGrR2t GUNUs3t ",
    "TIMES A PLUS IGI!GAN2 TENU!IGI!LU PLUS IGI!PArSALsHt CROSSING GISHuTENUvIMES BAD!GISH CROS",
    "SING GISH!TAK4qUr CROSSING GUr2s GUNUtTIMES IGI GUNUzKAK% TIMES IGI GUNUzNUNzSAL PLUS TUG2",
    "rDs OVER GUD LUGALtPLUS GISH TIMES TAK4tTIMES A PLUS KURzKURrLrMs TIMES SHErRs7sUNtSHpHAr ",
    "GUNUsTENUw GUNUrLqIr TIMES ASH$ OVER HI TIMES ASH$2yBADyDISHyGADyKINyNUNySHEyUqUrB2t TIMES",
    " AN!HAL!KASKAL!LISH!UDrL2rSHpIq AqBqDIMt OVER IDIM BUR+SQUAREDqGrIs DIBtGUNUtOVER IGI SHIR",
    " OVER SHIR UD OVER UDtRIqLr TIMES GAN2 TENUr2qMr CROSSING IMsOPPOSING IMsSQUAREDsTIMES TAK",
    "4rINqNqRqSHpKAr TIMES AzD! PLUS KU3zNSHEzSH2$3yBAD!LAG!RzIzUyERIN2zSH2yGA!L!N2 TENU!R$ PLU",
    "S SHA3 PLUS AzI!R2!SH% CROSSING GISH&PLUS SARzU!D!R7yHI TIMES ASH2yIGIzMyKA!KzI!DyLIzU!MyM",
    "E! PLUS DU.GI.TEzI! PLUS NUNUZyNEzUNyPAzIyRUySA!RzHA!E!ID!U$LzIGzUHURyTARzUyUz U Uz2zDzMUM",
    " TIMES PAzR!2zSHyZIr2s CROSSING KA2rBrD2s3s4s5t OVER KAD5rKs TIMES IGI GUNUrLs CROSSING KA",
    "LtTIMES BADrM2s4rP ELAMITErSKALv LAGAB TIMES U OVER LAGAB TIMES UwOVER KASKAL LAGAB TIMES ",
    "U OVER LAGAB TIMES UqESH2qIr TIMES BADyUzDrDrNrSALsHsIM5v OVER KISIM5qUr OVER HI TIMES ASH",
    "2 KU OVER HI TIMES ASH2r3r4s VARIANT FORMr7rLs GUNUrNrRs OPPOSING KURrSHU2qWU318pLArGABu S",
    "QUAREDvTIMES A% PLUS DA PLUS HA;GAR;LAL%L%N%SH ZIDA TENU$BAD%I$DAR$EN$GA&R%I%UD+ PLUS GUD$",
    "HA&L%I TIMES NUN$IGI GUNU%M& PLUS HA<LU$KI&N%U3&L+ PLUS HI PLUS A$LAGAB%ISH%U&L$ME& PLUS E",
    "N%USH$NE$SHE PLUS SUM&ITA PLUS GISH PLUS ERIN2_TENU&U2, PLUS SHU2%UM$TAG&K4%E PLUS A PLUS ",
    "SU PLUS NA$U% PLUS A;U PLUS U%2 PLUS ASH%D%SH$ZU OVER ZUtRu GUNUz OVER LAGAR GUNU SHEvTIME",
    "S SHE+ PLUS SUMrHSHUrK-003u21v5u30u50v1u62u79 OVER LAK-079 GUNUu80v1 OVER LAK-081u92t130u4",
    "2t210v9u20v5v8u38u65v6t343v7v8u83v4u90t441v9w TIMES GU&IGI&PAP PLUS LU3?PAP PLUS LU3&U2 PL",
    "US BAu50v7u70u83u90v2v3v5t550t608u17w TIMES ASH&BAD&DUN3 GUNU GUNU&KU3&LA&TAR+E&U2+D+RUDAu",
    "36u48w TIMES DUB&GA&IGI. GUNU&NI&PAP PLUS PAP PLUS LU3&SHESH PLUS KI&UD+RUDAt724u49rLs TIM",
    "ES LALrMs TIMES KUR% PLUS RUqIrLrMMU2rSHqUr TIMES BADr2s CROSSING LU2tGUNU TIMES ASHtOPPOS",
    "ING LU2tSHESHIG! TIMES BADuQUAREDtTENUuIMES ALzBADzDISHzESH2& PLUS LAL+TENUzGAN2 TENUzHAL!",
    "I TIMES BADzIMzKAD2%3& PLUS ASH!IzLA PLUS ASH$GABzME PLUS ENzNE!UzPAP% PLUS PAP PLUS LU3zS",
    "HU!I PLUS ASH$K2 PLUS BUzTAK4!UG2r3rGALu OPPOSING LUGALwVER LUGALvSHESHIGrHrLrMs OVER LUM$",
    " GAR OVER GARpMAr GUNUsTIMES TAK4r2rHrRrSHt2qErSsHqIr PLUS ZA7rNqUr OVER MUrGs GUNUrNSUBrR",
    "GU2rSHt CROSSING MUSHuOVER MUSH& TIMES A PLUS NA=GA=KAKuTIMES A!KUR!ZAt3u GUNUvTIMES A% PL",
    "US DI$DI$ZApNAr2r4rGAt INVERTEDuOPPOSING NAGAuTIMES SHU TENUtRrMs NUTILLUs2qEr SHESHIGsTIM",
    "ES AyUDqIr TIMES Er2rMs TIMES GAN2 TENU$R PLUS GAN2 TENUrNs9sDA2v TIMES AN&SH, PLUS ASH%BA",
    "L%DIM GUNU%GI+SH&UD+L%HI%KESH2%LAK-050%MASH&E PLUS GAN2 TENU%NE&UN%PAP PLUS PAP%SHE, PLUS ",
    "A AN?SH[ PLUS ASH%U& PLUS U&2 PLUS ASH&RUDA&SHrSAGqUr11t OVER NU11 BUR OVER BURuROTATED NI",
    "NETY DEGREESuTENUrNs CROSSING NUN, LAGAR OVER LAGARtLAGAR TIMES GAR,MASH,SAL; OVER NUN LAG",
    "AR TIMES SAL,USHtOVER NUNtTENUsUZu AB2 TIMES ASHGAB,BI,DUG,GUD,IGI GUNU,KAD3,LA,NE,SILA3,U",
    "2vKISIM5 TIMES BI= UpPArDrNrPqESH2u ASTERISKqIr CROSSING PIsTIMES AzByBIzUyEyIzByUz2rR2sIG",
    "u OPPOSING PIRIGvTIMES KAL$UD$ZApRArBqIqUpSArGs GUNUx TIMES HAtNUTILLUtOVER SAGtTIMES AzDU",
    "$BzENzHAzIGI GUNUzKAK!URzLUMzMIzNUNzSAL!HE AT LEFT$IDzTAB$K4zU2!B!M!R!SHrLs LAGAB TIMES AS",
    "H2rNGA2rRqHAs3t TIMES A!BAD!GISH!NE!SHU2!TUR!U$ PLUS As6t TENUsB6sR2rEs HUtOVER SHE$ GAD O",
    "VER GAD GAR OVER GAR%TAB OVER TAB GAR OVER GARtPLUS HUB2yNAM2ySARsG9sNsSHu2uLAMrIDt TIMES ",
    "A!IMsMt TIMES A!BAL$ULUG!DIN!GAR!IGI& GUNU!KUSHU2!LUL!MUG!SALsNIGsRt OVER SHIR BUR OVER BU",
    "RuTENUsTArUs OVER INVERTED SHUs2t PLUS DUG TIMES NIzE2 TIMES ANsBURqIr GUNUsTIMES TAK4rGs4",
    "t OVER SIG4 SHU2rK2rLA3qUr OVER SUrDs2rHURrMsASHrRs9pTAr ASTERISKsGUNUsTIMES HIyMIrBs OVER",
    " TAB NI OVER NI DISH OVER DISHtSQUAREDrGs TIMES BIzGUDzSHE$UzTUG2zUDrK4t PLUS SAGrRqEr GUN",
    "UqIr TENUr2rLrRs OVER TIR$ GAD OVER GAD GAR OVER GARtTIMES TAK4qUrG2rKrMs TIMES GAN2 TENUz",
    "THREE DISHrRs OVER TUR ZA OVER ZApUq GUDrOVER U PA OVER PA GAR OVER GARySUR OVER SURyU REV",
    "ERSED OVER U REVERSEDrUs Uq2qBqDr GUNUsKUSHU2sSHESHIGz TIMES BADsTIMES BADyMIyU PLUS U PLU",
    "S U@ GUNUrUGqMr TIMES LAGAByME! PLUS DAySHA3yUrBINrUMt TIMES KASKAL!PAqNr GUNUqRr CROSSING",
    " URsSHESHIGr2s INVERTEDtTIMES A PLUS HA.NA!LzHAzNUNzU2$ PLUS ASH:BI!Dr4rIs3rUs TIMES A!SHG",
    "ABzBARzDARA3!UNzGA$L$N2 TENU$R!UzHAzIGI!M!SHzKIzLAK-668!U3$MzMINzPAzSHE!IG4zTUzU PLUS GUD!",
    "D!RUDAsDAu TIMES UqSHs TIMES AzKU$RzTAK4s2sUMXsXqTUKIqZ3s TIMES KASKALrUpZAr SQUARED TIMES",
    " KURsTENUr7rGrMXqE2qIr OVER ZIr3rBs KABA TENUrGrZ2qUr OVER ZU PLUS SARr5s TIMES AzTHREE DI",
    "SH TENUrBURrMcP ON BLACK SQUAREeWITH STRAWdCAKEdIDOcRLING STONEeY BRACKET EXTENSIONgLOGICA",
    "L ANDoORiOPdRENCY EXCHANGEjSIGNeY AND RICEdVED STEM PARAGRAPH SIGN ORNAMENTcSTARDeOMScT OF",
    " MEATbYCLONEcLINDRICITYcPRIOT SYLLABLE ArErIrJAsOrKAsEsIsOsUrLAsEsIsOsUrMAsEsIsOsUrNAsEsIs",
    "OsUrOrPAsEsIsOsUrRAsEsIsOsUrSAsEsIsOsUrTAsEsIsOsUrUrWAsEsIsOrXAsErZAsOeO-MINOAN SIGN CM001",
    "w2w4w5w6w7w8w9v10w1w2xBw3w5w7w9v21w3w4w5w6w7w8w9v30w3w4w5w6w7w8w9v40w1w4w6w7w9v50w1w2w3w4w",
    "5w6w8w9v60w1w2w3w4w6w7w8w9v70w1w2w3w4w5xBw6w8w9v80w1w2w3w4w5w6w7w8w9v90w1w2w4w5w6w7w8w9u10",
    "0w1w2w3w4w5w7w8w9v10w2w4u301w2cRILLIC CAPITAL LETTER Az WITH BREVE,DIAERESISzBKHASIAN CHE>",
    " WITH DESCENDER;DZE;HAzLEUT KAyBARRED O. WITH DIAERESIS!SHKIR KAzEzIG YUS!NOCULAR OzLENDED",
    " YUSzROAD OMEGAzYELORUSSIAN-UKRAINIAN IyCCHEzHE$ WITH DESCENDER;IAERESIS:VERTICAL STROKEzL",
    "OSED LITTLE YUSzROSSED OyDCHEzEzJE$RVzOUBLE MONOCULAR O,OzWEzZE$LO!HE!WE!ZE$HEyEz WITH DIA",
    "ERESISzFzL! WITH DESCENDER.HOOK.MIDDLE HOOK.TAILzM! WITH TAILzN! WITH DESCENDER.HOOK.LEFT ",
    "HOOK.MIDDLE HOOK.TAILzR! WITH TICKzS! WITH DESCENDERyFITAyGHE$ WITH DESCENDER:MIDDLE HOOK:",
    "STROKE@ AND HOOK:UPTURNzJEyHA! WITH DESCENDER.HOOK.STROKE!RD SIGNzWEyIz WITH DIAERESIS,GRA",
    "VE,MACRONzE! WITH BREVE.GRAVEzO!TA$IFIED A:BIG YUS:CLOSED LITTLE YUS:E:LITTLE YUS:YATzZHIT",
    "SA, WITH DOUBLE GRAVE ACCENTyJEyKA! WITH DESCENDER.HOOK.STROKE.VERTICAL STROKEzHAKASSIAN C",
    "HEzJEzOMI DE+JE+ZJE&LJE&NJE&SJE&TJE&ZJE!PPAzSIyLHAzITTLE YUSzJEyMONOCULAR O%GRAPH UKyNEUTR",
    "AL YERzJEyOz WITH DIAERESISzMEGA& WITH TITLOzTyPE! WITH DESCENDER.MIDDLE HOOKzSIyQAyREVERS",
    "ED DZE:TSE:YU:ZEzHAzOUND OMEGAySCHWA& WITH DIAERESISzEMISOFT SIGNzHA!CHA!HA% WITH DESCENDE",
    "R!ORT I, WITH TAIL+U!WEzOFT DE&EL+M&SIGNzTRAIGHT U; WITH STROKEyTCHEzE! WITH DESCENDER.MID",
    "DLE HOOKzSE!HE!SE!WEzWEyUz WITH DIAERESIS.OUBLE ACUTE,MACRONzK!RAINIAN IEyVEyWEyYA!E!TzERU",
    "% WITH BACK YER;DIAERESISzIzNzUyZE! WITH DESCENDER:IAERESIS!MLYAzHE$ WITH BREVE:DESCENDER;",
    "IAERESIS!WEsIGATURE A IE!EN GHE!TE TSEjKAVYKAjLETTER MULTIOCULAR OqPALOCHKAqSMALL CAPITAL ",
    "ELjPAYEROKjSMALL LETTER Ax WITH BREVE&DIAERESISxBKHASIAN CHE< WITH DESCENDER.DZE.HAxLEUT K",
    "AwBARRED O+ WITH DIAERESISySHKIR KAxExIG YUSyNOCULAR OxLENDED YUSxROAD OMEGAxYELORUSSIAN-U",
    "KRAINIAN IwCCHExHEz WITH DESCENDER.IAERESIS,VERTICAL STROKExLOSED LITTLE YUSxROSSED OwDCHE",
    "xExJEzRVxOUBLE MONOCULAR O&OxWExZEzLOyHEyWEyZEzHEwEx WITH DIAERESISxFxLy WITH DESCENDER+HO",
    "OK+MIDDLE HOOK+TAILxMy WITH TAILxNy WITH DESCENDER+HOOK+LEFT HOOK+MIDDLE HOOK+TAILxRy WITH",
    " TICKxSy WITH DESCENDERwFITAwGHEz WITH DESCENDER,MIDDLE HOOK,STROKE> AND HOOK,UPTURNxJEwHA",
    "y WITH DESCENDER+HOOK+STROKEyRD SIGNxWEwIx WITH DIAERESIS&GRAVE&MACRONxEy WITH BREVE+GRAVE",
    "xOyTAzIFIED A,BIG YUS,CLOSED LITTLE YUS,E,LITTLE YUS,YATxZHITSA& WITH DOUBLE GRAVE ACCENTw",
    "JEwKAy WITH DESCENDER+HOOK+STROKE+VERTICAL STROKExHAKASSIAN CHExJExOMI DE%JE%ZJE$LJE$NJE$S",
    "JE$TJE$ZJEyPPAxSIwLHAxITTLE YUSxJExONG-LEGGED DEwMONOCULAR O!GRAPH UKwNARROW OxEUTRAL YERx",
    "JEwOx WITH DIAERESISxMEGA$ WITH TITLOxTwPALOCHKAxEy WITH DESCENDER+MIDDLE HOOKxSIwQAwREVER",
    "SED DZE,TSE,YU,ZExHAxOUND OMEGA$ED VEwSCHWA$ WITH DIAERESISxEMISOFT SIGNxHAyCHAyHA! WITH D",
    "ESCENDERyORT I& WITH TAIL%UyWExOFT DE$EL%M$SIGNxTRAIGHT U. WITH STROKEwTALL HARD SIGN$TE$Y",
    "ATxCHExEy WITH DESCENDER+MIDDLE HOOKxHREE-LEGGED TExSEyHEySEyWExWEwUx WITH DIAERESIS+OUBLE",
    " ACUTE&MACRONxKyRAINIAN IExNBLENDED UKwVEwWExIDE ESwYAyEyTxERU! WITH BACK YER.DIAERESISxIx",
    "NxUwZEy WITH DESCENDER,IAERESISyMLYAxHEz WITH BREVE,DESCENDER.IAERESISyWEqIGATURE A IEyEN ",
    "GHEyTE TSEjTHOUSANDS SIGN"]

end Text

end PracticeForge
