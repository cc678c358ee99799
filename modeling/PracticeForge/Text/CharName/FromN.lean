/-!
# Text/CharName/FromN — character names starting with N to Z

The names of Unicode 14 characters and their aliases that start with N to Z, sorted and
front-coded: each entry is one lower-case letter or punctuation mark telling how many leading
characters it shares with the entry before it (`a` none, `b` one, and so on through
`abcdefghijklmnopqrstuvwxyz!$%&+,.:;<=>?@[]^_|~`), then the rest of the name.  The text is cut into pieces of 90 characters.
-/

namespace PracticeForge

namespace Text

/-- The front-coded names starting with N to Z, in pieces. -/
def namesFromN : List String := [
    "aN-ARY CIRCLED DOT OPERATORoPLUS OPERATORoTIMES OPERATORhOPRODUCTgINTERSECTIONgLOGICAL AND",
    "oORgPRODUCTgSQUARE INTERSECTION OPERATORnUNION OPERATORhUMMATIONgTIMES OPERATORgUNIONl OPE",
    "RATOR WITH DOT!PLUSgWHITE VERTICAL BARbABATAEAN CRUCIFORM NUMBER FOURkLETTER ALEPHsYINrBET",
    "HrDALETHrFINAL ALEPHxBETHxHExKAPHxLAMEDHxMEMxNUNxSHINxYODHrGIMELrHEtTHrKAPHrLAMEDHrMEMrNUN",
    "rPErQOPHrRESHrSADHEtMEKHsHINrTAWsETHrWAWrYODHrZAYINkNUMBER FIVEsOURrONEu HUNDREDrTENsHREEs",
    "WENTYtOdLAcIL POLISHdRA SIGNcKcME BADGEcNDeINAGARI HEADSTROKEmLETTER AuAuIuUtBAuHAtCAuHAtD",
    "AuDAvHAuHAtEtGAuHAtHAtIuItJAuHAtKAuHAtLAuLAtMAtNAuGAuNAuYAtOtPAuHAtRAuRAtSAuHAuSAtTAuHAuTA",
    "vHAtUuUtVAuOCALIC R%RtYAmSIGN ANUSVARAsVAGRAHArSIDDHAMrVIRAMAtSARGAmVOWEL SIGN AAyIyUxExIy",
    "IxOxPRISHTHAMATRA ExUyUxVOCALIC R.RcRROW NO-BREAK SPACEcTIONAL DIGIT SHAPESjPARKcUSEATED F",
    "ACEcZAR AMULETbBHcSPbECKTIEcGATED DOUBLE VERTICAL BAR DOUBLE RIGHT TURNSTILEfIVE ACKNOWLED",
    "GEjCIRCLED DIGIT ZEROrLATIN CAPITAL LETTER A?B?C?D?E?F?G?H?I?J?K?L?M?N?O?P?Q?R?S?T?U?V?W?X",
    "?Y?ZrNUMBER EIGHTEENzLEVENyFIFTEENzOURTEENyNINETEENySEVENTEENzIXTEENyTHIRTEENzWELVE$NTYrSQ",
    "UARErTRIANGLEjDIAGONAL CROSSsDIAMONDsMIDDLE RIGHT TO LOWER CENTREjSQUARED ABrCROSS MARKrIC",
    "rLATIN CAPITAL LETTER A?B?C?D?E?F?G?H?I?J?K?L?M?N?O?P?Q?R?S?T?U?V?W?X?Y?ZrPArQUESTION MARK",
    "rSArWCcITHER A SUBSET OF NOR EQUAL TOmPERSET OF NOR EQUAL TOjPPROXIMATELY NOR ACTUALLY EQU",
    "AL TOiGREATER-THAN NOR EQUAL TO%IVALENT TOzLESS-THANiLESS-THAN NOR EQUAL TOzIVALENT TOwGRE",
    "ATER-THANcLcPTUNEh FORM TWOcRD FACEcSSUSdT WITH EGGSeING DOLLScUTEReRAL CHESS BISHOPu ROTA",
    "TED NINETY DEGREES&TWO HUNDRED SEVENTY DEGREESoEQUIHOPPERy ROTATED NINETY DEGREESoKINGs RO",
    "TATED NINETY DEGREES$TWO HUNDRED SEVENTY DEGREESpNIGHTu ROTATED FORTY-FIVE DEGREES&NINETY ",
    "DEGREES&ONE HUNDRED THIRTY-FIVE DEGREES&THREE HUNDRED FIFTEEN DEGREES+WO HUNDRED SEVENTY D",
    "EGREES]TWENTY-FIVE DEGREESoPAWNs ROTATED NINETY DEGREES$TWO HUNDRED SEVENTY DEGREESoQUEENt",
    " ROTATED NINETY DEGREES%TWO HUNDRED SEVENTY DEGREESoROOKs ROTATED NINETY DEGREES$TWO HUNDR",
    "ED SEVENTY DEGREESoTURNED BISHOPvKINGwNIGHTvPAWNvQUEENvROOKiFACEcW LINEeMOON SYMBOLjWITH F",
    "ACEeSHEQEL SIGNeTAI LUE DIGIT EIGHTsFIVEtOURsNINEsONEsSEVENtIXsTHREEtWOsZEROmLETTER FINAL ",
    "BzDzKzMzN!GzVtHIGH BAyDAyFAyHAyKAzVAyLAyMAyNAzGAyPAzHAyQAySAzUAyTAzHAzSAyVAyXAzVAyYAtLOW B",
    "AxDAxFAxHAxKAyVAxLAxMAxNAyGAxPAyHAxQAxSAyUAxTAyHAySAxVAxXAyVAxYAmSIGN LAEuVmTHAM DIGIT ONE",
    "nONE MARK-1w2mVOWEL SIGN AAzYyEyYxExIIyYxOyAzYyYxUyEzYyUyYxVOWEL SHORTENERdA ABBREVIATION ",
    "SIGNfCOMMAfDANDAgIGIT EIGHTlFIVEmOURlNINElONElSEVENmIXlTHREEmWOlZEROgOUBLE COMMAmDANDAfGAP",
    " FILLERfINSERTION SIGNfLETTER AnAnInUmBAnHAmCAnHAmDAnDAoHAnHAmEmGAnHAmHAmInImJAnHAmKAnHAmL",
    "AnHAmMAnHAmNAnGAoHAnHAnNAnYAoHAmOmPAnHAmRAnHAmSAnHAnSAmTAnHAnTAoHAmUnUmVEDIC ANUSVARAnOCAL",
    "IC LvLuRvRmWAmYAfOMfPLACEHOLDER MARKfSANDHI MARKgIDDHIhGN ANUSVARAlVAGRAHAkCANDRABINDUkFIN",
    "AL ANUSVARAkJIHVAMULIYAkNUKTAkUPADHMANIYAkVIRAMAmSARGAfVOWEL SIGN AArIrUqEqIrIqOqUrUqVOCAL",
    "IC LzLyRzRdLINE LEFTiRIGHTdSPAPERcXT LINEfPAGEbIGHT WITH STARScNJAbKO COMBINING DOUBLE DOT",
    " ABOVEoLONG DESCENDING TONEtHIGH TONEtLOW TONEtRISING TONEoNASALIZATION MARKoSHORT HIGH TO",
    "NEuLOW TONEuRISING TONEhMAeDANTAYALANfIGIT EIGHTkFIVElOURkNINEkONEkSEVENlIXkTHREElWOkZEROf",
    "OROME SIGNeEXCLAMATION MARKeHIGH TONE APOSTROPHEeLAJANYALANfETTER AlBAlCHAlDAnGBASINNAlEmE",
    "lFAlGBAlHAlIlJAmONA CHAqJAqRAlKAlLAlMAlNmAn WOLOSOmYAo WOLOSOlOmOlPAlRAmRAlSAlTAlUlWAlYAfO",
    "W TONE APOSTROPHEeSYMBOL GBAKURUNENlOO DENNENeTAMAN SIGNbLbNBSPbO BICYCLESeREAK HEREdENTRY",
    "i SIGNdMOBILE PHONESdONE UNDER EIGHTEEN SYMBOLdPEDESTRIANSeIRACYdSMOKING SYMBOLc-BREAK SPA",
    "CEcMINAL DIGIT SHAPESeSMA SIGNcN-BREAKING HYPHENePOTABLE WATER SYMBOLdFORKINGcRdDIC MARK S",
    "IGNdMAL SUBGROUP OFs OR EQUAL TOdTH EAST AND SOUTH WEST ARROWmRROWq AND SOUTH EAST ARROWrC",
    "ROSSING NORTH WEST ARROW!SOUTH EAST ARROWrWITH HOOKlBLACK ARROWlDOUBLE ARROWlPOINTING BUDu",
    "LEAFuVINE LEAFlSANS-SERIF ARROWlTRIANGLE-HEADED ARROW. TO BARlWHITE ARROWgINDIC FRACTION O",
    "NE EIGHTHzHALFzQUARTERzSIXTEENTHvTHREE QUARTERS$SIXTEENTHSmPLACEHOLDER MARKmQUANTITY MARKp",
    "RTER MARKmRUPEE MARKgWEST AND SOUTH EAST ARROWmRROWq AND NORTH EAST ARROWrCROSSING NORTH E",
    "AST ARROWrTO CORNERuLONG BARrWITH HOOKlBLACK ARROWlDOUBLE ARROWlPOINTING BUDuLEAFuVINE LEA",
    "FlSANS-SERIF ARROWlTRIANGLE-HEADED ARROW. TO BARlWHITE ARROWfEAST-POINTING AIRPLANEcSEcT A",
    " SUBSET OFiPERSET OFfLMOST EQUAL TOfN ELEMENT OFfSYMPTOTICALLY EQUAL TOeCHECK MARKeEQUAL T",
    "OhIVALENT TOeGREATER-THANeIDENTICAL TOeLESS-THANeNORMAL SUBGROUP OFw OR EQUAL TOePARALLEL ",
    "TOeSIGNfQUARE IMAGE OF OR EQUAL TOlORIGINAL OF OR EQUAL TOeTILDEfRUEdCHED LEFT SEMICIRCLE ",
    "WITH THREE DOTSjOWER RIGHT-SHADOWED WHITE RIGHTWARDS ARROWiRIGHT SEMICIRCLE WITH THREE DOT",
    "SiUPPER RIGHT-SHADOWED WHITE RIGHTWARDS ARROWdEe PADhGEeBOOKi WITH DECORATIVE COVERbULdLcM",
    "BER EIGHTEEN FULL STOPiLEVEN FULL STOPhFIFTEEN FULL STOPiOURTEEN FULL STOPhNINETEEN FULL S",
    "TOPhSEVENTEEN FULL STOPiIGNjXTEEN FULL STOPhTEN FULL STOPiHIRTEEN FULL STOPiWELVE FULL STO",
    "PkNTY FULL STOPdERO SIGNcSHU CHARACTER-1B170u1u2u3u4u5u6u7u8u9uAuBuCuDuEuFt80u1u2u3u4u5u6u",
    "7u8u9uAuBuCuDuEuFt90u1u2u3u4u5u6u7u8u9uAuBuCuDuEuFtA0u1u2u3u4u5u6u7u8u9uAuBuCuDuEuFtB0u1u2",
    "u3u4u5u6u7u8u9uAuBuCuDuEuFtC0u1u2u3u4u5u6u7u8u9uAuBuCuDuEuFtD0u1u2u3u4u5u6u7u8u9uAuBuCuDuE",
    "uFtE0u1u2u3u4u5u6u7u8u9uAuBuCuDuEuFtF0u1u2u3u4u5u6u7u8u9uAuBuCuDuEuFs200u1u2u3u4u5u6u7u8u9",
    "uAuBuCuDuEuFt10u1u2u3u4u5u6u7u8u9uAuBuCuDuEuFt20u1u2u3u4u5u6u7u8u9uAuBuCuDuEuFt30u1u2u3u4u",
    "5u6u7u8u9uAuBuCuDuEuFt40u1u2u3u4u5u6u7u8u9uAuBuCuDuEuFt50u1u2u3u4u5u6u7u8u9uAuBuCuDuEuFt60",
    "u1u2u3u4u5u6u7u8u9uAuBuCuDuEuFt70u1u2u3u4u5u6u7u8u9uAuBuCuDuEuFt80u1u2u3u4u5u6u7u8u9uAuBuC",
    "uDuEuFt90u1u2u3u4u5u6u7u8u9uAuBuCuDuEuFtA0u1u2u3u4u5u6u7u8u9uAuBuCuDuEuFtB0u1u2u3u4u5u6u7u",
    "8u9uAuBuCuDuEuFtC0u1u2u3u4u5u6u7u8u9uAuBuCuDuEuFtD0u1u2u3u4u5u6u7u8u9uAuBuCuDuEuFtE0u1u2u3",
    "u4u5u6u7u8u9uAuBuCuDuEuFtF0u1u2u3u4u5u6u7u8u9uAuBgITERATION MARKcT AND BOLTbYIAKENG PUACHU",
    "E HMONG CIRCLED CAxDIGIT EIGHT&FIVE+OUR&NINE&ONE&SEVEN+IX&THREE+WO&ZEROxLETTER A,A+CA+DA,L",
    "A+E,E+FA+GA+HA.H+I+KA+LA+MA,LA+NA,CA,KA,PA.LA,QA,RA,TA.SA.XA,YA+O,O+PA,LA+QA+RA,RA+SA+TA,S",
    "A,XA+U+VA+W+XA,YA+YA+ZAyOGOGRAM NYAJxSIGN FOR ANIMAL.INVERTEBRATE.LOCATION.PERSON.THING%XW",
    " XWyYLLABLE LENGTHENERxTONE-B%D%G%J%M%S%VaOBJECT REPLACEMENT CHARACTERcLIQUE ANGLE OPENING",
    " DOWNwUPiHYPHENcSERVER EYE SYMBOLbCR AMOUNT OF CHECKeBELT BUCKLEfOW TIEfRANCH BANK IDENTIF",
    "ICATIONeCHAIRfUSTOMER ACCOUNT NUMBEReDASHfOUBLE BACKSLASHeFORKeHOOKeINVERTED FORKcTAGONAL ",
    "SIGNdOPUSbDENbFFICE BUILDINGbGHAM FEATHER MARKgLETTER AILMnBEITHnCEIRToOLLnDAIRnEABHADHpDH",
    "ADHpMHANCHOLLnFEARNnGORTnIFINoODHADHnLUISnMUINnNGEADALoIONnONNoRnPEITHnRUISnSAILoTRAIFnTIN",
    "NEnUATHoILLEANNoRgREVERSED FEATHER MARKgSPACE MARKcONEKbHM SIGNbIL DRUMbK HAND SIGNbL CHIK",
    "I AHADjDIGIT EIGHTpFIVEqOURpNINEpONEpSEVENqIXpTHREEqWOpZEROjGAAHLAA TTUDDAAGjLETTER AAJsKs",
    "MsWrGrLrNGrTqEDDrNrPrRRqIHrNYrRrSqLAsArErIrOrUqOBrHrTTrVqUCrDrNNrYjMU TTUDDAGl-GAAHLAA TTU",
    "DDAAGjPHAARKAAkUNCTUATION DOUBLE MUCAADvMUCAADjRELAAcD CHINESE HOOK MARKmITERATION MARKeHU",
    "NGARIAN CAPITAL LETTER A+A+K+MB+ND&CLOSE E&E+B+C,H,S+D+E+F+G,Y+H+J+K+L,Y+M,P+N,C,T.-SHAPED",
    " SIGN,Y+P+R+S,Z+T,Y+V+Z,S&I+I&NIKOLSBURG OE[UE&O+EE+O&RUDIMENTA OE@UE&SHORT ER&U+NK+S+UoNU",
    "MBER FIFTYxVEvONEy HUNDREDzTHOUSANDvTENoSMALL LETTER A%A%K%MB%ND$CLOSE E$E%B%C&H&S%D%E%F%G",
    "&Y%H%J%K%L&Y%M&P%N&C&T+-SHAPED SIGN&Y%P%R%S&Z%T&Y%V%Z&S$I%I$NIKOLSBURG OE?UE$O%EE%O$RUDIME",
    "NTA OE>UE$SHORT ER$U%NK%S%UeITALIC LETTER AsBEsCHEsDEsEtFtKStLtMtNtRuStSuHuSsHEsItIsKAtEtH",
    "EtUsNORTHERN TSEsOsPEtHEsSHEtOUTHERN TSEsTEtHEsUtUsVEsYEsZElNUMERAL FIFTYvVEtONEtTENeKEYeN",
    "ORTH ARABIAN LETTER AIN!LEFzBEHzDAD$LzES-1%2%3zFEHzGEEM!HAINzHAH!EHzKAF!HAHzLAMzMEEMzNOONz",
    "QAFzREHzSADzTAH!EH!HAL$EHzWAWzYEHzZAH$INsNUMBER ONEzTEN!WENTYePERMIC LETTER ANsBURsCHERYsD",
    "OItZHOIuITAsEtFsGAIsHAsItAtEsKOKEsLEIsMENOEsNENOEsOtOsPEEIsREIsSHCHOOIuOOItIIsTAItSIUsUsVE",
    "RtOOIsYAuTtERvIvUtRYtUsZATAtHOIhSIAN NUMBER HUNDREDtONEtTENuWENTYvOmSIGN AsURAMAZDAA$-2$HA",
    "rBAtGAsUUMISHrCArDAtHYAAUSH!-2sIsUrFArGAsUrHArIrJAsIrKAsUrLArMAsIsUrNAsUrPArRAsUrSAsHAsSAr",
    "TAsHAsUrUrVAsIrXAsSHAAYATHIYArYArZAmWORD DIVIDERiONAL COMPUTEReSOGDIAN FRACTION ONE HALFmL",
    "ETTER ALEPHvTERNATE AYINuYINtBETHtFINAL ALEPHzBETHzHEzNUN% WITH VERTICAL TAILzSADHE+ WITH ",
    "VERTICAL TAILzTAW% WITH VERTICAL TAILtGIMELtHEvTHtKAPHtLAMEDHtMEMtNUNtPEtRESH-AYIN-DALETHt",
    "SADHEvMEKHuHINtTAWtWAWtYODHtZAYINnIGATURE AYIN-DALETHmNUMBER FIVEuOURtONEw HUNDREDtTENuHIR",
    "TYvREEuWENTYvOgUTH ARABIAN LETTER ALEF!YNzBETHzDALETH!HADHE%LETHzFEzGHAYN!IMELzHE$THzKAPH!",
    "HETHzLAMEDHzMEMzNUNzQOPHzRESHzSADHE$MEKH$T!HINzTAW!ETH!HAW$ETHzWAWzYODHzZAYNsNUMBER FIFTYz",
    "ONEvERIC INDICATOReTURKIC LETTER ORKHON A!B!D!EB$D$G$K$L$N$R$S$T$Y!G!L!N!Q!R!S$H!T!YzBASHz",
    "EC!LT!M!NC$G$T$Y!P!SH!ZzI!C!QzO!E$K!P!Q!TsYENISEI A$B$D$E%B%G%K%N&G%T%Y$G$L$NG$Q$R$SH$T$Y!",
    "E$C$NC%T%Y$SH$Z!I$Q!OE%K$QeUYGHUR COMBINING DOT ABOVEzBELOWvTWO DOTS ABOVE+BELOWlLETTER AL",
    "EPHsBETHsFINAL HETHsGIMEL-HETHsKAPHsLAMEDHtESHsMEMsNUNsPEsRESHsSADHEuMEKHtHINsTAWsWAWsYODH",
    "sZAYINlPUNCTUATION BARxFOUR DOTSxTWO BARS$DOTSdER ADULTgMANgWOMANcIVEbM SYMBOLbN WITH EXCL",
    "AMATION MARK WITH LEFT RIGHT ARROW ABOVEcCOMING AUTOMOBILEjBUSjFIRE ENGINEjPOLICE CARjTAXI",
    "cE BUTTON MOUSEeDOT LEADERiOVER TWO DOTS PUNCTUATIONd-PIECE SWIMSUITcIONbPEN BOOKhXfCENTRE",
    " ASTERISKmBLACK STARmCROSSmTEARDROP-SPOKED ASTERISKfFILE FOLDERgOLDERfHANDS SIGNfLOCKfMAIL",
    "BOX WITH LOWERED FLAGsRAISED FLAGfSUBSEThPERSETe-CIRCUIT-OUTPUT H-TYPE SYMBOLuL-TYPE SYMBO",
    "LfOUTLINED RIGHTWARDS ARROWdRATING SYSTEM COMMANDcHIUCHUScPOSITIONcTICAL DISCm ICONeON KEY",
    "bR WITH DOT INSIDEcANGE BOOKhHEARTfUTANcIGINAL OFdYA AI LENGTH MARKhU LENGTH MARKgDIGIT EI",
    "GHTmFIVEnOURmNINEmONEmSEVENnIXmTHREEnWOmZEROgFRACTION ONE EIGHTHtHALFtQUARTERtSIXTEENTHpTH",
    "REE QUARTERSvSIXTEENTHSgISSHARgLETTER AoAoIoUnBAoHAnCAoHAnDAoDApHAoHAnEnGAoHAnHAnIoInJAoHA",
    "nKAoHAnLAoLAnMAnNAoGAoNAoYAnOnPAoHAnRAoHAoRAnSAoHAoSAnTAoHAoTApHAnUoUnVAoOCALIC LwLvRwRnWA",
    "nYAoYAgSIGN ANUSVARAmVAGRAHAlCANDRABINDUlNUKTAlOVERLINElVIRAMAnSARGAgVOWEL SIGN AAsIsUrErI",
    "sIrOrUsUrVOCALIC L!LzR!RcNATE LEFT PARENTHESIShRIGHT PARENTHESIScTHODOX CROSSbSAGE CAPITAL",
    " LETTER AwHwIxNvBRAvCHAvDHAvEwHCHAxKAxPAxTAySAwINvGHAvHAwYAvIvKAwHAwYAvLAvMAvNAvOwINvPAvSA",
    "wHAvTAwSAxHAvUvWAvZAwHAgSMALL LETTER AuHuIvNtBRAtCHAtDHAtEuHCHAvKAvPAvTAwSAuINtGHAtHAuYAtI",
    "tKAuHAuYAtLAtMAtNAtOuINtPAtSAuHAtTAuSAvHAtUtWAtZAuHAcCcMANYA DIGIT EIGHToFIVEpOURoNINEoONE",
    "oSEVENpIXoTHREEpWOoZEROiLETTER AqAqLEFpBApCAYNpDEELqHApEqEpFApGApHApIpJApKAAFqHApLAANpMIIN",
    "pNUUNpOqOpQAAFpRApSAqHIINpTApUpWAWpXApYAbTTERdOMAN SIYAQ ALTERNATE NUMBER EIGHT,FIVE.OUR< ",
    "HUNDRED,NINE,SEVEN.IX; HUNDRED,TEN; THOUSAND.HREE.WO; THOUSANDoFRACTION ONE HALF$SIXTHoMAR",
    "RATANoNUMBER EIGHT! HUNDRED$THOUSAND!Y$ THOUSANDvFIFTY! THOUSANDxVEz HUNDRED!THOUSANDwORTY",
    "! THOUSANDxURz HUNDRED!THOUSANDvNINEz HUNDRED!THOUSANDzTY$ THOUSANDvONEy HUNDREDzTHOUSANDv",
    "SEVEN! HUNDRED$THOUSAND!TY% THOUSANDwIXy HUNDREDzTHOUSANDyTY! THOUSANDvTENy THOUSANDwHIRTY",
    "$ THOUSANDxREE! HUNDRED$THOUSANDwWENTY$ THOUSANDxOy HUNDREDzTHOUSANDbUNCE SIGNcTBOX TRAYdL",
    "INED BLACK STARjGREEK CROSSjLATIN CROSSjWHITE STARbVERHEATED FACEeLAPhPING BLACK SQUARESmW",
    "HITE AND BLACK SQUARESsSQUARESfINEbWLbXbYSTERaPACKAGEcDdDING CHARACTERcGEe FACING UPfWITH ",
    "CIRCLED TEXTlURLeReSdODAcHAWH HMONG CLAN SIGN FAJxHAMzWJxKHAByOOyWMxLAUJyISxMUASxPHABxTHOJ",
    "ySABzHEEJzWBxVAJyWJxXYOOJxYAJyEEGoONSONANT AUxCAUyHAUxHAUyLAUyNAUxLAUxMAUxNAUyCHAUyKAUyLAU",
    "yTHAUzSAUxPLHAUxQHAUxRAUxVAUxXAUxYAUnDIGIT EIGHTtFIVEuOURtNINEtONEtSEVENuIXtTHREEuWOtZEROn",
    "MARK CIM HOMwKESxHAVwSOxUAMwTAUMxUBnNUMBER HUNDRED MILLIONS$SuMILLIONSuTEN BILLIONSyTHOUSA",
    "NDSxSvRILLIONSnSIGN AVsCIM CHEEMxUAM TSHOOJwHAIS LUS NTOG NTOGwNRES TOSwPUB DAWBwTSOV ROGx",
    "XWV! CHWVsHLItNUBsIB YAMsLOSsMEEJ SUABxTSEEBtUSsNQIGtTUJsTAUtHIRD-STAGE HLItXHEEJ CEEVsVOS",
    " FEEMwLUBwNRUAwSEEVwTHIAByOMxSHAB CEEBsXAUStIABtYEEM FAIByNTXIVyRHOyTOVuOOsZWJ THAJnVOWEL ",
    "KAABwVvBvIBwVvUBwVvVvWBwVuEBvEBwVvVuIABwVvBvVuOBvOBwVvVuUABwVvBvVuWBvVcLLASdM BRANCHfDOWN ",
    "HANDfTREEfUP HANDeS UP TOGETHEReYRENE LEFT-POINTING FLEURONmTTER ALEPHsYINrBETHrDALETHrFIN",
    "AL NUNrGIMELrHEtTHrKAPHrLAMEDHrMEMrNUNrPErQOPHrRESHrSADHEtMEKHsHINrTAWsETHrWAWrYODHrZAYINk",
    "NUMBER FIVEsOURrONErTENsHREEsWENTYtOkRIGHT-POINTING FLEURONcNCAKESdDA FACEcPERCLIPcRACHUTE",
    "eGRAPH SEPARATORjOSjUS MARKeLLEL TOjWITH HORIZONTAL STROKEoTILDE OPERATORdENTHESIZED DIGIT",
    " EIGHTuFIVEvOURuNINEuONEuSEVENvIXuTHREEvWOoHANGUL CHIEUCH% AwIEUC! A$UvHIEUH! AvIEUNG! AvK",
    "HIEUKH% AwIYEOK$ AvMIEUM! AvNIEUN! AvPHIEUPH% AwIEUP! AvRIEUL! AvSIOSz AvTHIEUTH% AwIKEUT$",
    " AoIDEOGRAPH ALLIANCEyCALLzONGRATULATIONyEARTHzIGHTzNTERPRISEyFESTIVALzINANCIAL!RE!VEzOURy",
    "HAVEyLABORyMETALzOONyNAMEzINEyONEyREACH!PRESENT!SOURCE$TySELF!VENzIXzOCIETYzPECIALzTOCK!UD",
    "YzUN!PERVISEyTENzHREEzWOyWATERzOODoKOREAN CHARACTER O HU.JEONoLATIN CAPITAL LETTER A<B<C<D",
    "<E<F<G<H<I<J<K<L<M<N<O<P<Q<R<S<T<U<V<W<X<Y<ZuSMALL LETTER A:B:C:D:E:F:G:H:I:J:K:L:M:N:O:P:",
    "Q:R:S:T:U:V:W:X:Y:ZoNUMBER EIGHTEENwLEVENvFIFTEENwOURTEENvNINETEENvSEVENTEENwIXTEENvTENwHI",
    "RTEENwWELVEyNTYdROTdT ALTERNATION MARKeIAL DIFFERENTIALiLINE BACKWARDnDOWNnFORWARDnUPhLY-R",
    "ECYCLED PAPER SYMBOLeNERSHIP SIGNeY POPPERcSSED SYMBOLfNGER SHIPeIVE-PULL-DOWN-OUTPUT SYMB",
    "OLnUP-OUTPUT SYMBOLePORT CONTROLcU CIN HAU GLOTTAL STOPy FINALzVARIANTmLETTER AtBAtCAuHAtD",
    "AtEtFAuINAL KzLzMzN!GzPzTzWzYtGAtHAtIuAtKAuHAtLAtMAtNAuGAtOtPAuHAtRAtSAtTAuHAtUuAtVAtZAnOW",
    "-FALLING TONE% FINAL&LONG: FINALmMID-LEVEL TONE! FINAL$LONG FINALmRISING TONEx FINALyLONG%",
    " FINALmSANDHI GLOTTAL STOP, FINALtTONEx FINALyLONG% FINALcW PRINTSbDFcIbEACE SYMBOLeHeOCKd",
    "NUTSdRcDESTRIANcN OVER STAMPED ENVELOPEdCILdGUINdSIVE FACEdTAGRAMcOPLE HUGGINGcR MILLE SIG",
    "NeSIGNeTEN THOUSAND SIGNdCENT SIGNdFORMING ARTSdMANENT PAPER SIGNdPENDICULARn WITH SdSEVER",
    "ING FACEeON BOWING DEEPLYhCLIMBINGhDOING CARTWHEELhFROWNINGhIN LOTUS POSITIONkSTEAMY ROOMh",
    "RAISING BOTH HANDS IN CELEBRATIONhWITH BALLnLOND HAIRmCROWNmFOLDED HANDSmHEADSCARFmPOUTING",
    " FACEgAL COMPUTERePECTIVEcSETA SIGNdO SIGNcTRI DISHbHAGS-PA DOUBLE HEAD MARKjLETTER ArLTER",
    "NATE YArSPIRATED FAqBAqCAsNDRABINDUrHAqDArDArZAqErEqFAqGArGAqHAqIqJAqKArHAqLAqMAqNArGArNAr",
    "YAqOqPArHAqQAqRAqSArHArMALL AqTArHArSAsHArTAsHAqUqVOICED HAvLESS SHAqWAqXAqYAqZArHAjMARK D",
    "OUBLE SHADoSHADjSINGLE HEAD MARKkUBJOINED LETTER RA!WA!YAlPERFIXED LETTER RAdISTOS DISC SI",
    "GN ARROWtBEEwHIVEuOOMERANGvWuULLS LEGtCAPTIVEvRPENTRY PLANEvTuHILDuLUBuOLUMNvMBxINING OBLI",
    "QUE STROKEtDOLIUMvVEtEAGLEtFLUTEtGAUNTLETuRATERtHELMETuIDEuORNtLIDvLYtMANACLESvTTOCKtOX BA",
    "CKtPAPYRUSuEDESTRIANuLANE TREEvUMED HEADtRAMuOSETTEtSAWuHIELDwPuLINGuMALL AXEuTRAINERtTATT",
    "OOED HEADuIARAuUNNYtVINEtWAVY BANDuOMANcILIPPINE DOUBLE PUNCTUATIONlSINGLE PUNCTUATIONcOEN",
    "ICIAN LETTER AINtLFsBETsDELTsGAMLsHEuTsKAFsLAMDsMEMsNUNsPEsQOFsROSHsSADEtEMKtHINsTAUtETsWA",
    "UsYODsZAIlNUMBER ONEv HUNDREDsTENtHREEtWENTYuOlWORD SEPARATORdLUSbICKeUP TRUCKcEcGd FACEeN",
    "OSEcLCROW SIGNdE OF POOdLcNATAdCHED FINGERSfING HANDdE DECORATIONeAPPLEdWHEEL STARcSCESdTO",
    "LcTCHFORKj WITH TEE TOPbLACARDeE OF INTEREST SIGNjWORSHIPdNCK CONSTANTp OVER TWO PIdYGROUN",
    "D SLIDEeING CARD ACE OF CLUBSuDIAMONDSuHEARTSuSPADESnBACKoLACK JOKERnEIGHT OF CLUBSwDIAMON",
    "DSwHEARTSwSPADESnFIVE OF CLUBSvDIAMONDSvHEARTSvSPADESoOOLpUR OF CLUBSvDIAMONDSvHEARTSvSPAD",
    "ESnJACK OF CLUBSvDIAMONDSvHEARTSvSPADESnKING OF CLUBSvDIAMONDSvHEARTSvSPADESoNIGHT OF CLUB",
    "SxDIAMONDSxHEARTSxSPADESnNINE OF CLUBSvDIAMONDSvHEARTSvSPADESnQUEEN OF CLUBSwDIAMONDSwHEAR",
    "TSwSPADESnRED JOKERnSEVEN OF CLUBSwDIAMONDSwHEARTSwSPADESoIX OF CLUBSuDIAMONDSuHEARTSuSPAD",
    "ESnTEN OF CLUBSuDIAMONDSuHEARTSuSPADESoHREE OF CLUBSwDIAMONDSwHEARTSwSPADESoRUMP-1u0u1u2u3",
    "u4u5u6u7u8u9t2u0u1t3t4t5t6t7t8t9oWO OF CLUBSuDIAMONDSuHEARTSuSPADESnWHITE JOKERcDcUdNGERdS",
    " SIGNj ABOVE EQUALS SIGNkIN LEFT HALF CIRCLEnRIGHT HALF CIRCLEnTRIANGLEkWITH BLACK TRIANGL",
    "EpCIRCUMFLEX ACCENT ABOVEpDOT BELOWpSMALL CIRCLE ABOVEqUBSCRIPT TWOpTILDE ABOVEvBELOWe-MIN",
    "US SIGNdTOf FORM FIVEmOURlTHREEmWObMbOCKET CALCULATORcLICE CARkS REVOLVING LIGHThOFFICERcO",
    "DLEcP DIRECTIONAL FORMATTINGqISOLATEdCORNcRTABLE STEREOcSEIDONdITION INDICATORdTAL HORNhMA",
    "RKl FACEeBOXcT OF FOODdABLE WATER SYMBOLeTOdTED PLANTcUCHdLTRY LEGdND SIGNdRING LIQUIDdTIN",
    "G CAT FACEiFACEcWER ON SYMBOLi-OFF SYMBOLgSLEEP SYMBOLhYMBOLbRAYER BEADScECEDESi ABOVE ALM",
    "OST EQUAL TOpEQUALS SIGNpNOT ALMOST EQUAL TOtEQUAL TOpSINGLE-LINE EQUALS SIGN$NOT EQUAL TO",
    "jBUT NOT EQUIVALENT TOjOR EQUAL TOpIVALENT TOjUNDER RELATIONdGNANT MANjPERSONjWOMANdSCRIPT",
    "ION TAKEeENTATION FORM FOR VERTICAL COLON:MMA,EM DASH.N DASH.XCLAMATION MARK,HORIZONTAL EL",
    "LIPSIS,IDEOGRAPHIC COMMA_FULL STOP,LEFT ANGLE BRACKET=BLACK LENTICULAR BRACKET=CORNER BRAC",
    "KET>URLY BRACKET=DOUBLE ANGLE BRACKET=PARENTHESIS=SQUARE BRACKET=TORTOISE SHELL BRACKET=WH",
    "ITE CORNER BRACKET^LENTICULAR BRACKET.OW LINE,QUESTION MARK,RIGHT ANGLE BRACKET>BLACK LENT",
    "ICULAR BRACKET>CORNER BRACKET?URLY BRACKET>DOUBLE ANGLE BRACKET>PARENTHESIS>SQUARE BRACKET",
    ">TORTOISE SHELL BRACKET>WHITE CORNER BRACKET_LENTICULAR BRACKET~NTICULAR BRAKCET,SEMICOLON",
    ",TWO DOT LEADER,WAVY LOW LINEdTZELdVIOUS PAGEcIMEdNCEgSSeT SCREEN SYMBOLfERh ICONdVACY MES",
    "SAGEfTE USE ONEmTWOl-1m2cOBING CANEdHIBITED SIGNdJECTIVEdPERTY LINEeORTIONkAL TOdSERPINAbS",
    "ALTER PAHLAVI FOUR DOTS WITH CROSS,DOTqLETTER ALEPHxBETHxDALETHxGIMELxHEzTHxKAPHxLAMEDHxME",
    "M-QOPHxNUNxPExSADHEzMEKHyHINxTAWxWAW-AYIN-RESHxYODHxZAYINqNUMBER FOURxONE! HUNDREDxTENyHRE",
    "EyWENTYzOqSECTION MARKqTURNED SECTION MARKbU1c2cBLIC ADDRESS LOUDSPEAKERcNCTUATION SPACEgS",
    " ELEVATUS MARKcRPLE HEARTdSEcSHPINcT LITTER IN ITS PLACE SYMBOLaQUADRANT LOWER LEFTpRIGHTj",
    "UPPER LEFTt AND LOWER LEFT AND LOWER RIGHT+RIGHTyUPPER RIGHT AND LOWER LEFT~ RIGHTpRIGHTu ",
    "AND LOWER LEFT< AND LOWER RIGHTfUPLE INTEGRAL OPERATORkPRIMEdRTER NOTEdTERNION INTEGRAL OP",
    "ERATORcESTION EXCLAMATION MARKjMARKiED EQUAL TOcINCUNXcOTATION MARKaRABBITg FACEcCCOONdING",
    " CARhMOTORCYCLEcDICAL SYMBOL BOTTOMeOf BUTTONfACTIVE SIGNcILWAY CARiTRACKdNeBOWdSED BACK O",
    "F HANDhCOMMAhDOTkTED INTERPOLATION MARKERhFISThHANDl WITH FINGERS SPLAYEDrPART BETWEEN MID",
    "DLE AND RING FINGERShINTERPOLATION MARKERhMC SIGNiD SIGNiR SIGNhSQUAREcMcTdIOcZORbECEIPTdO",
    "RD SEPARATORdREATIONAL VEHICLEdYCLED PAPER SYMBOLgING SYMBOL FOR GENERIC MATERIALSvTYPE-1 ",
    "PLASTICS!2 PLASTICS!3 PLASTICS!4 PLASTICS!5 PLASTICS!6 PLASTICS!7 PLASTICScD APPLEeGIFT EN",
    "VELOPEcFERENCE MARKcGIONAL INDICATOR SYMBOL LETTER A:B:C:D:E:F:G:H:I:J:K:L:M:N:O:P:Q:R:S:T",
    ":U:V:W:X:Y:ZeSTERED SIGNcJANG CONSONANT SIGN HwNxGwRhLETTER AoBAoCAoDAoGAoHAoJAoKAoLAoMApB",
    "AoNApDApGAqGApYAqJAoPAoRAoSAoTAoWAoYAhSECTION MARKhVIRAMAiOWEL SIGN AItUsEtAtUsIsOsUcLIEVE",
    "D FACEcMINDER RIBBONcPLACEMENT CHARACTERcSPONSEdTRICTED LEFT ENTRY-1w2fOOMcTURN LEFThRIGHT",
    "hSYMBOLcVERSE CHECKER BOARDiINDEXiLIGHT FOUR POINTED PINWHEEL STARkNE FEEDiSOLIDUSp OPERAT",
    "ORqPRECEDING SUBSETqWITH HORIZONTAL STROKEiTILDE OPERATOR ABOVE LEFTWARDS ARROW&RIGHTWARDS",
    " ARROWhD ANGLEo WITH UNDERBARjCOMMAjDOUBLE PRIMEv QUOTATION MARKqSTROKE NOT SIGNjEMPTY SET",
    "jFORKED PARAGRAPHOSjHAND WITH MIDDLE FINGER EXTENDEDjNOT SIGNjPILCROW SIGNkRIMEjQUESTION M",
    "ARKjRAISED HAND WITH FINGERS SPLAYEDkIGHT ANGLEkOTATED FLORAL HEART BULLETjSANS-SERIF CAPI",
    "TAL LkEMICOLONjTHUMBS DOWN SIGNqUP SIGNkILDEo EQUALSkRIPLE PRIMEjVICTORY HANDdOLVING HEART",
    "SbHINOCEROSbIcAL SIGNcBBONg ARROW DOWN LEFTsRIGHTnLEFT DOWNsUPnRIGHT DOWNtUPnUP LEFTqRIGHT",
    "cCE BALLfCRACKERcFLEcGHT AND LOWER ONE EIGHTH BLOCKkUPPER ONE EIGHTH BLOCKiGER BUBBLEjLEl ",
    "BRACKETt WITH DOTmDOTTED SUBSTITUTION MARKERmSUBSTITUTION MARKERmVARIANT WITH SQUAREmWITH ",
    "ARCrDOWNWARDS ZIGZAG ARROWhRC GREATER-THAN BRACKETiROW WITH CIRCLED PLUSrSMALL CIRCLEgBLAC",
    "K LENTICULAR BRACKETmTORTOISE SHELL BRACKETgCEILINGhORNER BRACKEThURLY BRACKETt LOWER HOOK",
    "uMIDDLE PIECEuUPPER HOOKgDOTTED SUBSTITUTION BRACKETiUBLE ANGLE BRACKEToRROW WITH ROUNDED ",
    "HEADnPARENTHESISnQUOTATION MARKnWIGGLY FENCEgFISH TAILiVE EIGHTHS BLOCKhLOORgHALF BLACK CI",
    "RCLErSTARnOCKlFOLDERlMEDIUM SHADElRUNNING MANiND TELEPHONE RECEIVERgLOW PARAPHRASE BRACKET",
    "gNORMAL FACTOR SEMIDIRECT PRODUCTgONE EIGHTH BLOCKkQUARTER BLOCKhPEN SQUARED DOThUTER JOIN",
    "gPARENTHESISr EXTENSIONsLOWER HOOKsUPPER HOOKgRAISED OMISSION BRACKETgS-SHAPED BAG DELIMIT",
    "ERhEMIDIRECT PRODUCTiVEN EIGHTHS BLOCKhIDEWAYS U BRACKETiNGLE QUOTATION MARKhPEAKERn WITH ",
    "ONE SOUND WAVEtTHREE SOUND WAVESjECH BUBBLEhQUARE BRACKETu EXTENSIONvLOWER CORNERvUPPER CO",
    "RNERvWITH DOUBLE STROKE!QUILL!STROKE!TICK IN BOTTOM CORNER;TOP CORNER!UNDERBARhUBSTITUTION",
    " BRACKETgTACKhHIRD WHITE RIGHT POINTING INDEXiOUGHT BUBBLEiREE EIGHTHS BLOCKmQUARTERS BLOC",
    "KhORTOISE SHELL BRACKEThRANSPOSITION BRACKETiIANGLEo ABOVE LEFT TRIANGLEmULAR ONE QUARTER ",
    "BLOCKgVERTICAL BAR WITH QUILLqOX LINEgWHITE CORNER BRACKETnURLY BRACKETmLENTICULAR BRACKET",
    "mPARENTHESISmSQUARE BRACKETmTORTOISE SHELL BRACKEThIGGLY FENCEf-FACING ARMENIAN ETERNITY S",
    "IGNnFISTnSVASTI SIGNy WITH DOTSgHANDED INTERLACED PENTAGRAMgPOINTING ANGLE BRACKETpCURVED ",
    "ANGLE BRACKETpDOUBLE ANGLE QUOTATION MARKpMAGNIFYING GLASSgSHADED WHITE RIGHTWARDS ARROWhI",
    "DE ARC CLOCKWISE ARROWgTO-LEFT EMBEDDINGoISOLATEoMARKoOVERRIDEfHAND INTERIOR PRODUCTfWARDS",
    " ARROWq ABOVE ALMOST EQUAL TOxREVERSE ALMOST EQUAL TO,TILDE OPERATORxSHORT LEFTWARDS ARROW",
    "xTILDE OPERATORsND UPPER AND LOWER ONE EIGHTH BLOCKrFROM BARz TO BLACK DIAMONDrOVER LEFTWA",
    "RDS ARROWrTHROUGH GREATER-THANzSUPERSETzXsO BARvLACK DIAMONDrWITH CORNER DOWNWARDSwDOTTED ",
    "STEMyUBLE VERTICAL STROKEwEQUILATERAL ARROWHEADwHOOKwLARGE TRIANGLE ARROWHEADxOOPwMEDIUM T",
    "RIANGLE ARROWHEADwNOTCHED TAILwPLUS BELOWwSMALL EQUILATERAL ARROWHEAD%TRIANGLE ARROWHEADxT",
    "ROKEwTAIL! WITH DOUBLE VERTICAL STROKE.VERTICAL STROKExIP DOWNWARDS!UPWARDSwVERTICAL STROK",
    "Eq-TAILlBACK-TILTED SHADOWED WHITE ARROWmLACK ARROWrCIRCLED WHITE ARROWmOTTOM SHADED WHITE",
    " ARROWlCOMPRESSED ARROWlDASHED ARROWmOUBLE ARROWx FROM BARyWITH STROKE&VERTICAL STROKEx-TA",
    "ILsDASH ARROWlFINGER-POST ARROWmRONT-TILTED SHADOWED WHITE ARROWlHANDnRPOON OVER LEFTWARDS",
    " HARPOONtWITH BARB DOWN ABOVE LEFTWARDS HARPOON WITH BARB DOWN;BELOW LONG DASH;FROM BAR;TO",
    " BAR:WARDS&UP ABOVE LEFTWARDS HARPOON WITH BARB UP@ONG DASH?RIGHTWARDS HARPOON WITH BARB D",
    "OWN.FROM BAR.TO BAR,WARDSmEAVY ARROWrCOMPRESSED ARROWlLEFT-SHADED WHITE ARROWlOPEN-HEADED ",
    "ARROWlPAIRED ARROWSlQUADRUPLE ARROWlRIGHT-SHADED WHITE ARROWmOCKETlSANS-SERIF ARROWmQUARED",
    " ARROWoIGGLE ARROWlTOP SHADED WHITE ARROWmRIANGLE ARROWHEADt-HEADED ARROW. OVER LEFTWARDS ",
    "TRIANGLE-HEADED ARROW:TO BAR:WITH BOLD SHAFT?DOUBLE HORIZONTAL STROKE~VERTICAL STROKE?HEAV",
    "Y SHAFT?LONG TIP DOWNWARDS~P UPWARDS?MEDIUM SHAFT?NARROW SHAFT?VERY HEAVY SHAFT$DASHED ARR",
    "OW$PAIRED ARROWSoPLE ARROWsDASH ARROWmWO HEADED ARROWo-HEADED ARROW FROM BAR%WITH DOUBLE V",
    "ERTICAL STROKE:TAIL> WITH DOUBLE VERTICAL STROKE_VERTICAL STROKE;RIANGLE ARROWHEADS:VERTIC",
    "AL STROKEwTRIPLE DASH ARROWlWAVE ARROWmHITE ARROWw FROM WALLxWITHIN TRIANGLE ARROWHEADcNGe",
    " ABOVEfBUOYfEQUAL TOfIN EQUAL TOfOPERATORfPOINTeED PLANETeING BELLcSING DIAGONAL CROSSING ",
    "FALLING DIAGONALzSOUTH EAST ARROWbLEcIcMcObOASTED SWEET POTATOcBOT FACEcCKeETcLL OF PAPERe",
    "ED-UP NEWSPAPERfR COASTERhSKATEeING ON THE FLOOR LAUGHINGcMAN AS SIGNgCENTURIAL SIGNgDENAR",
    "IUS SIGNhIMIDIA SEXTULA SIGNhUPONDIUS SIGNgNUMERAL EIGHTpLEVENoFIFTYt EARLY FORMuTHOUSANDq",
    "VEs HUNDREDtTHOUSANDpOURoNINEoONEr HUNDREDz THOUSANDsTHOUSAND! C DoREVERSED ONE HUNDREDoSE",
    "VENpIXr LATE FORMoTENr THOUSANDpHREEpWELVEqOgQUINARIUS SIGNgSEMUNCIA SIGNiSTERTIUS SIGNiXT",
    "ANS SIGNkULA SIGNhILIQUA SIGNgUNCIA SIGNcOSTERcSEeTTEcTATED CAPITAL QiFLORAL HEART BULLETi",
    "HEAVY BLACK HEART BULLETiLIGHT FOUR POINTED BLACK CUSPiWHITE FOUR POINTED CUSPcUND PUSHPIN",
    "gTARGETfED SYMBOL FOR CAItFUtLUtSHOUvUANGXItXIcWBOATbSbUBLE SIGNcGBY FOOTBALLcLE-DELAYEDcM",
    "I DIGIT EIGHTlFIVEmOURlNINElONElSEVENmIXlTHREEmWOfFRACTION ONE HALFsQUARTERsTHIRDoTWO THIR",
    "DSfNUMBER EIGHT HUNDREDrYmFIFTYoVE HUNDREDnORTYoUR HUNDREDmNINE HUNDREDqTYmONE HUNDREDmSEV",
    "EN HUNDREDrTYnIX HUNDREDpTYmTENnHIRTYoREE HUNDREDnWENTYoO HUNDREDcNIC ARLAUG SYMBOLgBELGTH",
    "OR SYMBOLgCROSS PUNCTUATIONgLETTER AC AoESCoLGIZ EOLHXoNSUZ AnBERKANAN BEORC BJARKAN BnCoA",
    "LCoEALCpNoWEORTHnDoAGAZ DAEG DoOTTED-LuNuPnEoARoHWAZ EH EoNGoTHnFEHU FEOH FE FoRANKS CASKE",
    "T AC%ESC$EH$IS$OSnGoARoEBO GYFU GpRnHAEGL HpGLAZ HnICELANDIC-YRoNGqWAZoORoSAZ IS ISS IoWAZ",
    " EOHnJERAN JnKoAUN KrAnLAUKAZ LAGU LOGR LoONG-BRANCH-AR AEzHAGALL HzMADR MzOSS OzYRnMANNAZ",
    " MAN MnNAUDIZ NYD NAUD NnOoEoNoOoPEN-PoS OoTHALAN ETHEL OnPERTHO PEORTH PnQnRAIDO RAD REID",
    " RnSHpORT-TWIG-AR AyBJARKAN ByHAGALL HyMADR MyNAUD NyOSS OySOL SyTYR TyYRoIGEL LONG-BRANCH",
    "-SOL SoOWILO SoTANnTHURISAZ THURS THORNoIWAZ TIR TYR TnURUZ UR UnVnWoUNJO WYNN WnXnYoRnZgM",
    "ULTIPLE PUNCTUATIONgSINGLE PUNCTUATIONgTVIMADUR SYMBOLdNEReING SHIRT WITH SASHcPEE SIGNcSS",
    "IAN ASTROLOGICAL SYMBOL BINOVILE%NOVILE%QUINTILE%SENTAGON%TREDECILE%VIGINTILEaS IN TRIANGL",
    "EbAFETY PINhVESTcGITTARIUScILBOATcKE BOTTLE AND CUPcLT SHAKEReIREdUTING FACEcMARITAN ABBRE",
    "VIATION MARKkLETTER ALAFrBAAsITrDALATrFIrGAMANrINsTsYrKAAFrLABATrMIMrNUNrQUFrRISHrSHANsING",
    "AATrTAAFsITsSAADIYrYUTrZENkMARK DAGESHpEPENTHETIC YUTpINr-ALAFpNEQUDAApOCCLUSIONlODIFIER L",
    "ETTER EPENTHETIC YUT!I!SHORT AkPUNCTUATION AFSAAQxNGEDyNAAUxRKAANUxTMAAUwBAUwMELODIC QITSA",
    "wNEQUDAAwQITSAwSHIYYAALAAxOF MASHFAATwTURUwZAEFxIQAAkVOWEL SIGN AwAvEvIvLONG A$A!E!I!UvOwV",
    "ERLONG A,AvSHORT AwUKUNvUcNDWICHdS-SERIF HEAVY DOUBLE COMMA QUOTATION MARK ORNAMENTyTURNED",
    " COMMA QUOTATION MARK ORNAMENTrLOW DOUBLE COMMA QUOTATION MARK ORNAMENTlINTERROBANG ORNAME",
    "NTcRIcTELLITEj ANTENNAdURNcURASHTRA CONSONANT SIGN HAARUlDANDAmIGIT EIGHTrFIVEsOURrNINErON",
    "ErSEVENsIXrTHREEsWOrZEROmOUBLE DANDAlLETTER AtAtItUsBAtHAsCAtHAsDAtDAuHAtHAsEtEsGAtHAsHAsI",
    "tIsJAtHAsKAtHAsLAtLAsMAsNAtGAtNAtYAsOtOsPAtHAsRAsSAtHAtSAsTAtHAtTAuHAsUtUsVAtOCALIC L$L!R$",
    "RsYAlSIGN ANUSVARAqCANDRABINDUqVIRAMAsSARGAlVOWEL SIGN AAxIxUwExEwIxIwOxOwUxUwVOCALIC L,L+",
    "R,ReOPODcXOPHONEbCALESdRFcHOOLg SATCHELcIcOOTERdRPIONgUScREENeWDRIVERdIPT CAPITAL BpEpFpHp",
    "IpLpMpPpRhLIGATURE ET ORNAMENThSMALL EnGnLnOdOLLdUPLEbEALdTcCOND PLACE MEDALdTION SIGNeORc",
    "DNAcE-NO-EVIL MONKEYdDLINGcGMENThED DIGIT EIGHTqFIVErOURqNINEqONEqSEVENrIXqTHREErWOqZEROcL",
    "FIEcMICOLONeDIRECT PRODUCT WITH BOTTOM CLOSEDeSEXTILEcPARATED SYMBOLcRIOUS FACE WITH SYMBO",
    "LS COVERING MOUTHdVICE MARKcSAME DOTdQUIQUADRATEcT MINUSeTRANSMIT STATEcWING NEEDLEcXTILEb",
    "GCbHADOWED WHITE CIRCLEpLATIN CROSSpSTARdLLOW PAN OF FOODdMROCKdRADA ABBREVIATION SIGNiCON",
    "TINUATION SIGNiDANDAjIGIT EIGHToFIVEpOURoNINEoONEoSEVENpIXoTHREEpWOoZEROjOUBLE DANDAiEKAMj",
    "XTRA SHORT VOWEL MARKiHEADSTROKEiLETTER AqAqIqUpBAqHApCAqHApDAqDArHAqHApEpGAqHApHApIqIpJAq",
    "HApKAqHApLAqLApMApNAqGAqNAqYApOpPAqHApRApSAqHAqSApTAqHAqTArHApUqUpVAqOCALIC LyLxRyRpYAiOMi",
    "SANDHI MARKjECTION MARK-1v2kPARATORjIGN ANUSVARAoVAGRAHAnCANDRABINDUnINVERTED CANDRABINDUn",
    "JIHVAMULIYAnNUKTAnSIDDHAMnUPADHMANIYAnVIRAMApSARGAjUTRA MARKiVOWEL MODIFIER MARKoSIGN AAuI",
    "uUtEtIuItOtPRISHTHAMATRA EtUuUtVOCALIC L%L$R%ReKdVED ICEeIAN LETTER ADOqGEqHqIRqRErRAYqSHq",
    "WEpBIBpCHURCHpDEADpEARrTqGGqRRpFEEpGAGpHA-HAqUNGpIANqCEqFpJUDGEpKICKpLOLLpMEASUREqIMEpNUNp",
    "OAKqILqNqOZEqRqUTpPEEPpROARpSOqUREpTHEYrIGHqOTpUPpVOWpWOErOLpYEArWpZOOcEEPcIELDdFT INgOUTd",
    "NTO SHRINEdPcOCKED FACE WITH EXPLODING HEADdOTING STARdPPING BAGSjTROLLEYdRT BACKSLANTED S",
    "OUTH ARROWhENT ARROW POINTING DOWNWARDS THEN NORTH EASTgDOWN TACKp WITH OVERBARgLEFT TACKg",
    "RIGHTWARDS ARROW ABOVE LEFTWARDS ARROWgSLANTED NORTH ARROWgUP TACKn ABOVE SHORT DOWN TACKo",
    "WITH UNDERBARfCAKEfHAND FORMAT CONTINUING OVERLAPrDOWN STEPrLETTER OVERLAPrUP STEPfSdULDER",
    "ED OPEN BOXdWERcRIMPdUGcUFFLE PRODUCTcYbIcDDHAM DANDAjOUBLE DANDAiEND OF TEXT MARKiLETTER ",
    "AqAqIqLTERNATE UqUpBAqHApCAqHApDAqDArHAqHApEpGAqHApHApIqIpJAqHApKAqHApLApMApNAqGAqNAqYApOp",
    "PAqHApRApSAqHAqSApTAqHArREE-CIRCLE ALTERNATE IqTArHAqWO-CIRCLE ALTERNATE I>IpUqUpVAqOCALIC",
    " LyLxRyRpYAiREPETITION MARK-1y2y3iSECTION MARK DOUBLE RING. WITH RAYSvWITH CIRCLES AND FOU",
    "R ENCLOSURES?RAYS?TWO ENCLOSURES!DOUBLE CRESCENTS!QUADRUPLE CRESCENTS!RAYS AND DOTTED CRES",
    "CENTS^DOUBLE CRESCENTS^TRIPLE CRESCENTS!SEPTUPLE CRESCENTS!TRIDENT AND DOTTED CRESCENTS?U-",
    "SHAPED ORNAMENTS&PLE CRESCENTSkPARATOR BARsDOTjIGN ANUSVARAnCANDRABINDUnNUKTAnSIDDHAMnVIRA",
    "MApSARGAiVOWEL SIGN AAuIuLTERNATE U+UuUtEtIuItOtUuUtVOCALIC R%RdEWAYS BLACK DOWN POINTING ",
    "INDEXpLEFT POINTING INDEXpRIGHT POINTING INDEXpUP POINTING INDEXjWHITE DOWN POINTING INDEX",
    "pLEFT POINTING INDEXpRIGHT POINTING INDEXpUP POINTING INDEXcGN OF THE HORNSeWRITING AIR BL",
    "OW SMALL ROTATIONSuING OUTqSUCK SMALL ROTATIONSuING INmBREATH EXHALEtINHALEoUSH BETWEENsMU",
    "LTIPLEsSINGLEmCHEEKS NEUTRALtPUFFEDtSUCKEDnOLONoMMAmDREAMY EYEBROWS DOWN NEUTRAL%NEUTRAL D",
    "OWN=UP%UP NEUTRALnYNAMIC ARROWHEAD LARGE+SMALLuEVERY OTHER TIMEuFASTuGRADUALuRELAXEDuSIMUL",
    "TANEOUS. ALTERNATINGvLOWuTENSEmEARSnXCITEMENTnYE BLINK MULTIPLEwSINGLEqWINKpBROWS STRAIGHT",
    " DOWN+NEUTRAL+UPpGAZE-FLOORPLANE CURVED,STRAIGHT@ ALTERNATING[DOUBLEuWALLPLANE CIRCLING,UR",
    "VED+STRAIGHT? ALTERNATING@DOUBLEpLASHES DOWNwFLUTTERINGwUPpS CLOSEDrHALF CLOSEDwOPENrOPENr",
    "SQUEEZEDrWIDE OPENvNING MOVEMENTmFACE DIRECTION POSITION NOSE FORWARD TILTING]UP OR DOWN~R",
    " DOWN TILTINGnILL MODIFIER-2!3!4!5!6oNGERnLICK LARGE MULTIPLEySINGLEsSEQUENTIALtMALL MULTI",
    "PLEySINGLEoOORPLANE SHOULDER HIP MOVEnOREHEAD CONTACTvNEUTRALvWRINKLEDnULL STOPmGRASP BETW",
    "EENsMULTIPLEsSINGLEmHAIRoND-ANGLEw INDEX% MIDDLE LITTLE=RING&RING LITTLE[ OUT&THUMB; IN<OU",
    "TxLITTLE INDEX< THUMB INDEX THUMB~EX THUMB OUT+UPxMIDDLE RING LITTLE] IN^OUTxRING DOWN MID",
    "DLE THUMB INDEX CROSS%LITTLErCIRCLEx INDEX& BENT+HINGE+MIDDLE= CROSS LITTLE^ED>LITTLE>RING",
    ">THUMB+RING LITTLEyLITTLE INDEX,UPyMIDDLE RING LITTLE^ BENT,UPyRING LITTLEsLAWv FOUR FINGE",
    "RS CONJOINEDwINDEX THUMB CURVE THUMB INSIDEwMIDDLE RING LITTLE CONJOINED~OINED SIDEwNO THU",
    "MBwTHUMB FORWARD%SIDEsUPu FIVE FINGERS SPREAD[ OPENvINDEX! RING LITTLE$THUMB. OPENvMIDDLE ",
    "RING LITTLEvNO THUMBvOPENz NO THUMB!THUMB FORWARD.SIDEvTHUMB FORWARD$SIDEtRLICUEz INDEX RI",
    "NG LITTLE ON!MIDDLE RING LITTLE ON!OPENrFISTv FOUR FINGERS CONJOINED BENTwHEELwINDEX$ BENT",
    ". OVER MIDDLE%CUPPED%HINGED; LOW<MIDDLE UP| THUMB SIDE%MIDDLE; BENT@ THUMB STRAIGHT<CONJOI",
    "NED| CUPPED~CUPPED THUMB FORWARD~HINGED~HINGED THUMB SIDE~INDEX BENT~MIDDLE BENT~THUMB FOR",
    "WARD~THUMB SIDE~THUMB SIDE BENT~THUMB SIDE CONJOINED=ROSS LITTLE[ED^ THUMB SIDE<HINGED] SP",
    "READ THUMB SIDE<LITTLE<RAISED KNUCKLES=ING@ BENT[CONJOINED<STRAIGHT THUMB BENT<THUMB[ ANGL",
    "ED~ED OUT]BENT]CIRCLED^ONJOINED HINGED^UPPED]HINGED^OOKED<UP SPREAD THUMB FORWARD%RAISED K",
    "NUCKLE&ING LITTLE%THUMB ANGLED IN MIDDLE UP]OUT MIDDLE UP;CIRCLE[D MIDDLE UP<UPPED MIDDLE ",
    "UP=RLICUE>VE THUMB INSIDE~ UNDER;FORWARD INDEX BENT~EX STRAIGHT;HOOK?ED MIDDLE HINGED~LE U",
    "P;SIDE? BOTH BENT@INDEX BENT~HINGE@THUMB BENT~CONJOINED~DIAGONAL%UP MIDDLE HINGED| THUMB C",
    "ONJOINED~THUMB SIDEwLITTLE BENT&DOWN: OTHERS CIRCLED;RIPPLE CURVED]STRAIGHT&INDEX; THUMB&R",
    "AISED KNUCKLE&THUMB+OUCHES THUMB&UPwMIDDLE BENT OVER INDEX&DOWN&LITTLE&RAISED KNUCKLE+ING ",
    "LITTLE&THUMB ANGLED INDEX UP^OUT INDEX CROSSED~ INDEX UP<CIRCLED INDEX HINGED~DEX UP=UPPED",
    " INDEX UP<HOOKED INDEX UP<LITTLE&UP, THUMB SIDEwRING DOWN$INDEX$LITTLE$MIDDLE: CONJOINED;R",
    "AISED KNUCKLES$RAISED KNUCKLE$THUMB$UPwTHUMB$ BETWEEN INDEX MIDDLE~DLE STRAIGHT=MIDDLE RIN",
    "G=RING LITTLE%FORWARD%HEEL%OVER FOUR RAISED KNUCKLES:TWO FINGERS%SIDE BENT:CONJOINED:DIAGO",
    "NAL%UNDER FOUR FINGERS;INDEX BENT;LITTLE UP;THREE FINGERS<WO FINGERSsLATv BETWEEN PALM FAC",
    "INGSwFIVE FINGERS SPREAD] BENT^FOUR BENT^HINGED~GED NO THUMB~GED THUMB SIDE^THUMB FORWARDx",
    "OUR FINGERS; BENT<CONJOINED| SPLIT<HINGEDwHEEL! FIVE FINGERS SPREAD~D BENT~D FOUR BENT$THU",
    "MB SIDEwSPLIT CENTRE; THUMB SIDE~ BENT%INDEX THUMB SIDE%LITTLEwTHUMB BENT%FORWARD%SIDErHIN",
    "GEw FIVE FINGERS SPREAD OPENyOUR FINGERS CONJOINEDxINDEX% HINGED&MIDDLE LITTLE=RING[ CONJO",
    "INED&RING LITTLE&THUMB; LARGE<OPEN<SIDE=MALLxLITTLE& INDEX< THUMB+THUMBxMIDDLE& RING LITTL",
    "ExNO THUMBxOPEN$ NO THUMB%THUMB FORWARD;SIDExRING$ DOWN INDEX THUMB HOOK MIDDLExSMALLxTHUM",
    "B BETWEEN MIDDLE RING&SIDE: TOUCHING INDEXsOOKv CURLICUEwINDEX RING LITTLE IN[OUT[UNDERwMI",
    "DDLE RING LITTLE CONJOINED~OINED IN~OINED OUT&THUMBwRING THUMBrOVALv FIVE FINGERS SPREADwI",
    "NDEXwLITTLE UPwNO THUMBwRING LITTLEwTHUMB FORWARD%SIDEnEADq MOVEMENT CIRCLEz-FLOORPLANE CU",
    "RVE>STRAIGHT!WALLPLANE CURVE=STRAIGHT=TILTrRIMmLIMB COMBINATIONrLENGTH-1y2y3y4y5y6y7oP LOW",
    "ER OVER UPPERqUPPER OVER LOWERpS PRESSED TOGETHERnOCATION DEPTHvHEAD NECKxIGHTvLIMBS DIGIT",
    "SvTORSOvWIDTHu-FLOORPLANE SPACEvWALLPLANE SPACEmMOUTH CLOSED CONTACTzFORWARDzNEUTRALtORNER",
    "SsFROWNx OPENyWRINKLEDsKISSw FORWARDxWRINKLEDsOPEN CIRCLExFORWARDxOVAL$ WRINKLED%YAWNxRECT",
    "ANGLE. WRINKLED:YAWNxWRINKLEDsSMILEx OPENyWRINKLEDsTENSEx FORWARDySUCKEDsWRINKLES DOUBLE$S",
    "INGLEoVEMENT-DIAGONAL AWAY LARGE[ST<MEDIUM<SMALL+BETWEEN AWAY LARGE~RGEST_MEDIUM_SMALL?TOW",
    "ARDS LARGE~ LARGEST~ MEDIUM~ SMALL+TOWARDS LARGE_ST?MEDIUM?SMALLvFLOORPLANE ARM CIRCLE HIT",
    "TING WALL LARGE DOUBLE~TTING WALL LARGE SINGLE~TTING WALL MEDIUM DOUBLE~TTING WALL MEDIUM ",
    "SINGLE~TTING WALL SMALL DOUBLE~TTING WALL SMALL SINGLE.BEND:OX LARGE=MEDIUM=SMALL.CHECK:OR",
    "NER LARGE@MEDIUM@SMALL:ROSS:URVE COMBINED?HITTING CEILING LARGE~ CEILING SMALL~ FLOOR LARG",
    "E~ FLOOR SMALL?LARGE_ST?MEDIUM?SMALL.DOUBLE ALTERNATING~ATING WRIST FLEX@STRAIGHT@WRIST FL",
    "EX.FINGER CIRCLES HITTING WALL DOUBLE~S HITTING WALL SINGLE[ONTACT.HUMP HITTING CEILING LA",
    "RGE DOUBLE~CEILING LARGE TRIPLE~CEILING SMALL DOUBLE~CEILING SMALL TRIPLE~FLOOR LARGE DOUB",
    "LE~FLOOR SMALL DOUBLE~FLOOR TRIPLE LARGE TRIPLE~FLOOR TRIPLE SMALL TRIPLE>SMALL.JAW.LOOP H",
    "ITTING CEILING LARGE DOUBLE~CEILING LARGE SINGLE~CEILING SMALL DOUBLE~CEILING SMALL SINGLE",
    "~FLOOR LARGE DOUBLE~FLOOR LARGE SINGLE~FLOOR SMALL DOUBLE~FLOOR SMALL SINGLE>SMALL.PEAKS L",
    "ARGE?MEDIUM?SMALL.SHAKING PARALLEL:INGLE STRAIGHT LARGE~HT LARGEST~HT MEDIUM~HT SMALL@WRIS",
    "T FLEX.TRIPLE ALTERNATING MOVEMENT~ATING WRIST FLEX@STRAIGHT MOVEMENT@WRIST FLEX.WAVE HITT",
    "ING CEILING LARGE~CEILING SMALL~FLOOR LARGE~FLOOR SMALL>LARGE>SMALL?NAKE:RIST CIRCLE HITTI",
    "NG WALL DOUBLE~HITTING WALL SINGLE.ZIGZAG LARGE@MEDIUM@SMALLvHINGE DOWN SEQUENTIAL$SIDE TO",
    " SIDE SCISSORS$UP DOWN ALTERNATING LARGE~G SMALL<LARGE<SMALL+SEQUENTIALvWALLPLANE ARM CIRC",
    "LE MEDIUM DOUBLE~IUM SINGLE^SMALL DOUBLE~LL SINGLE,BEND LARGE=MEDIUM=SMALL.OX LARGE<MEDIUM",
    "<SMALL,CHECK LARGE>MEDIUM>SMALL.ORNER LARGE?MEDIUM?ROTATION?SMALL.ROSS.URVE HALF-CIRCLE LA",
    "RGE~CLE LARGEST~CLE MEDIUM~CLE SMALL?ITTING CHEST~FRONT WALL>QUARTER LARGE~LARGEST~MEDIUM~",
    "SMALL>THEN STRAIGHT@REE-QUARTER CIRCLE MEDIUM~ARTER CIRCLE SMALL=D CROSS MEDIUM|SMALL,DOUB",
    "LE ALTERNATING~TING WRIST FLEX?STRAIGHT?WRIST FLEX,FINGER CIRCLES DOUBLE~ SINGLE@ONTACT,HU",
    "MP HITTING CHEST|FRONT WALL=LARGE=MEDIUM=SMALL,JAW,LOOP HITTING CHEST|FRONT WALL=LARGE=MED",
    "IUM=SMALL] DOUBLE,PEAKS LARGE>MEDIUM>SMALL,SHAKING.INGLE STRAIGHT LARGE~T LARGEST~T MEDIUM",
    "~T SMALL?WRIST FLEX,TRIPLE ALTERNATING~TING WRIST FLEX?STRAIGHT MOVEMENT?WRIST FLEX,WAVE C",
    "URVE DOUBLE LARGE~BLE MEDIUM~BLE SMALL^TRIPLE LARGE~PLE MEDIUM~PLE SMALL=DIAGONAL PATH LAR",
    "GE~PATH MEDIUM~PATH SMALL=HITTING CHEST|FRONT WALL.RIST CIRCLE FRONT DOUBLE~RONT SINGLE,ZI",
    "GZAG LARGE?MEDIUM?SMALLmNECKnOSE CONTACTrNEUTRALrWIGGLESsRINKLESmPARENTHESISmROTATION MODI",
    "FIER-10,1,2,3,4,5,6+2+3+4+5+6+7+8+9u-FLOORPLANE ALTERNATING_ HITTING CEILING~ITTING FLOOR.",
    "DOUBLE? HITTING CEILING~G FLOOR.SINGLE? HITTING CEILING~G FLOORvWALLPLANE ALTERNATE@ING HI",
    "TTING CHEST~TTING FRONT WALL,DOUBLE> HITTING CHEST~ FRONT WALL,SINGLE> HITTING CHEST~ FRON",
    "T WALLnUB BETWEENqMULTIPLEqSINGLEmSEMICOLONnHOULDER HIP POSITIONSzSPINEvTILTING FROM WAIST",
    "nQUEEZE FLICK ALTERNATINGuLARGE MULTIPLE!SINGLEuSEQUENTIALvMALL MULTIPLE!SINGLEnTRIKE BETW",
    "EENtMULTIPLEtSINGLEnURFACE BETWEENuSYMBOLSmTEETHr BITE LIPSsMOVEMENTsON LIPSz MOVEMENTvTON",
    "GUE$ MOVEMENToNSE CHEEKS HIGHzLOWzMIDDLEnONGUE CENTRE INSIDE MOUTH!STICKING OUTtINSIDE MOU",
    "TH RELAXEDtLICKING LIPStMOVES AGAINST CHEEKtSTICKING OUT FARtTIP BETWEEN LIPSxTOUCHING INS",
    "IDE MOUTHoRSO-FLOORPLANE TWISTINGsWALLPLANE CURVED BEND%STRAIGHT STRETCHoUCH BETWEENsMULTI",
    "PLEsSINGLEnRAVEL-FLOORPLANE ROTATION-FLOORPLANE ALTERNATING~LANE DOUBLE~LANE SINGLE@WALLPL",
    "ANE ALTERNATING~ANE DOUBLE~ANE SINGLE+SHAKINGtWALLPLANE ARM SPIRAL DOUBLE[SINGLE[TRIPLE&RO",
    "TATION-FLOORPLANE ALTERNATING~ANE DOUBLE~ANE SINGLE?WALLPLANE ALTERNATING~NE DOUBLE~NE SIN",
    "GLE&SHAKINGmUPPER BODY TILTING FROM HIP JOINTSmWALLPLANE SHOULDER HIP MOVEcLHOUETTE OF JAP",
    "ANcMILAR ABOVE GREATER-THAN ABOVE EQUALS SIGNoLESS-THAN ABOVE EQUALS SIGNiMINUS SIMILARiOR",
    " GREATER-THANlLESS-THANcNE WAVEdGLE CHARACTER INTRODUCERhGRAPHIC CHARACTER INTRODUCERhHIGH",
    "-REVERSED-9 QUOTATION MARKhLEFT-POINTING ANGLE QUOTATION MARKiOW-9 QUOTATION MARKhRIGHT-PO",
    "INTING ANGLE QUOTATION MARKhSHIFT THREEoWOg-SHIFT-2n3dHALA ARCHAIC DIGIT EIGHTwFIVExOURwNI",
    "NEwONEwSEVENxIXwTHREExWOqNUMBER EIGHTYxFIFTYyORTYxNINETYxONE HUNDRED$THOUSANDxSEVENTYyIXTY",
    "xTENyHIRTYyWENTYiLETTER AAYANNAqEEYANNArYANNAqIYANNAqLPAPRAANA BAYANNA!CAYANNA!DAYANNA$DAY",
    "ANNA!GAYANNA!JAYANNA!KAYANNA!PAYANNA!TAYANNA$TAYANNAqMBA BAYANNAqUYANNAqYANNApDANTAJA LAYA",
    "NNAxNAYANNAxSAYANNApEEYANNAqYANNApFAYANNApHAYANNApIIYANNAqLUUYANNAsYANNAqRUUYANNAsYANNAqYA",
    "NNApKANTAJA NAASIKYAYApMAHAAPRAANA BAYANNA$CAYANNA$DAYANNA%DAYANNA$GAYANNA$JAYANNA$KAYANNA",
    "$PAYANNA$TAYANNA%TAYANNArYANNAqUURDHAJA LAYANNAzNAYANNAzSAYANNApOOYANNAqYANNApRAYANNApSANY",
    "AKA DAYANNAyDAYANNAxGAYANNAxJAYANNApTAALUJA NAASIKYAYAxSANYOOGA NAAKSIKYAYAzYANNApUUYANNAq",
    "YANNApVAYANNApYAYANNAjITH DIGIT EIGHTtFIVEuOURtNINEtONEtSEVENuIXtTHREEuWOtZEROiPUNCTUATION",
    " KUNDDALIYAiSIGN AL-LAKUNAoNUSVARAYAnCANDRABINDUnVISARGAYAiVOWEL SIGN AELA-PILLAtDIGA AEDA",
    "-PILLAyGAETTA-PILLA!YANUKITTAyIS-PILLAyKOMBUVAyPAA-PILLAtGAETTA-PILLAvYANUKITTAtKETTI AEDA",
    "-PILLAzIS-PILLAzPAA-PILLAuOMBU DEKAyVA! HAA AELA-PILLA,DIGA AELA-PILLA,GAYANUKITTAcX PETAL",
    "LED BLACK AND WHITE FLORETTEfOINTED BLACK STARmPINWHEEL STARmSTAR WITH MIDDLE DOTd-PER-EM ",
    "SPACEdTEEN POINTED ASTERISKbKATEBOARDcI AND SKI BOOTdERcULLf AND CROSSBONESdNKbLANTED EQUA",
    "L TO OR GREATER-THAN. WITH DOT INSIDEuLESS-THAN& WITH DOT INSIDEiNORTH ARROW WITH HOOKED H",
    "EAD$RIZONTAL TAILdVONIC ASTERISKcEDdEPING ACCOMMODATIONjFACEjSYMBOLfY FACEdUTH OR SPYcICE ",
    "OF PIZZAdGHTLY FROWNING FACEjSMILING FACEcOPEeING LARGE ANDoORdT MACHINEeHbMALL AIRPLANEhM",
    "PERSANDhSTERISKgBLUE DIAMONDgCOLONiMMAkERCIAL ATiNTAINS AS MEMBERpWITH OVERBARuVERTICAL BA",
    "R AT END OF HORIZONTAL STROKEgDOLLAR SIGNgELEMENT OFq WITH OVERBARwVERTICAL BAR AT END OF ",
    "HORIZONTAL STROKEhM DASHhQUALS SIGNhXCLAMATION MARKgFULL STOPgGREATER-THAN SIGNgHYPHEN-MIN",
    "USgIDEOGRAPHIC COMMAgLEFT CURLY BRACKETlPARENTHESISlTORTOISE SHELL BRACKETiSS-THAN SIGNgNU",
    "MBER SIGNgORANGE DIAMONDgPERCENT SIGNhLUS SIGNgQUESTION MARKgREVERSE SOLIDUShIGHT CURLY BR",
    "ACKETmPARENTHESISmTORTOISE SHELL BRACKEThOMAN NUMERAL EIGHTvLEVENuFIFTYwVEy HUNDREDvOURuNI",
    "NEuONEx HUNDREDyTHOUSANDuSEVENvIXuTENvHREEvWELVEwOgSEMICOLONgTILDEhWO DOTS OVER ONE DOT PU",
    "NCTUATIONgVEE WITH UNDERBARfER THANm OR EQUAL TOdSH PRODUCTcILEeING CAT FACE WITH HEART-SH",
    "APED EYESwOPEN MOUTHiFACE WITH HALOtEART-SHAPED EYEStORNSsOPEN MOUTH% AND COLD SWEAT:SMILI",
    "NG EYES:TIGHTLY-CLOSED EYESsSMILING EYES+ AND HAND COVERING MOUTH<THREE HEARTStUNGLASSESsT",
    "EARdRKING FACEcOKING SYMBOLbNAILdKEcEEZING FACEcOW CAPPED MOUNTAINeBOARDEReFLAKEeMANh WITH",
    "OUT SNOWbOcCCER BALLdKScFT HYPHENfICE CREAMfSHELL FLOPPY DISKeBALLeWARE-FUNCTION SYMBOLcGD",
    "IAN COMBINING CURVE ABOVEyBELOWsDOT ABOVEwBELOWsHOOK ABOVExBELOWsLONG HOOK BELOWsRESH BELO",
    "WsSTROKE BELOWsTWO DOTS ABOVE$BELOWiINDEPENDENT SHINiLETTER ALEPHqYINpBETHpFETHpGIMELpHErT",
    "HpKAPHpLAMEDHqESHpMEMpNUNpPEpRESH-AYINpSADHErMEKHqHINpTAWpWAWpYODHpZAYINiNUMBER ONEs HUNDR",
    "EDpTENqWENTYiPUNCTUATION CIRCLE WITH DOTuHALF CIRCLE WITH DOTuTWO CIRCLES WITH DOTSyVERTIC",
    "AL BARS> WITH DOTScHcLID QUILT SQUARE ORNAMENT$ IN BLACK SQUAREfUSh WITH OVERBARcM SIGNcON",
    " WITH RIGHTWARDS ARROW ABOVEcRA SOMPENG DIGIT EIGHTtFIVEuOURtNINEtONEtSEVENuIXtTHREEuWOtZE",
    "ROnLETTER AHuBAHuCAHuDAHuEEHvHuGAHuHAHuIHuJAHuKAHuLAHuMAEwHuNAHvGAHvYAHuOHuPAHuRAHuSAHuTAH",
    "uUHuVAHuYAHcScUND RECORDING COPYRIGHTdTH EAST ARROWq AND SOUTH WEST ARROWrCROSSING NORTH E",
    "AST ARROWrTO CORNERrWITH HOOKlBLACK ARROWlDOUBLE ARROWlPOINTING BUDuLEAFuVINE LEAFlSANS-SE",
    "RIF ARROWlTRIANGLE-HEADED ARROW. TO BARlWHITE ARROWgWEST ARROWq AND NORTH WEST ARROWrWITH ",
    "HOOKlBLACK ARROWlDOUBLE ARROWlPOINTING BUDuLEAFuVINE LEAFlSANS-SERIF ARROWlTRIANGLE-HEADED",
    " ARROW. TO BARlWHITE ARROWcYOMBO CLUSTER-INITIAL LETTER LA,RA,SA.HAiFINAL CONSONANT SIGN -",
    "A&B&D&G&K&L&M&N+G&R&S+HiGEMINATION MARKiHEAD MARK WITH MOON AND SUN< AND FLAME[TRIPLE FLAM",
    "EiLETTER -ApApBAqHApCAqHApDAqDArHAqHAqZApGAqHApHApJAqHApKAqHAqSSApLApMApNAqGAqNAqYApPAqHAp",
    "RApSAqHAqSApTAqHAqSArHAqTArHApVApYApZAqHAiMARK DOUBLE SHADnPLUTAnSHADnTSHEGiSIGN ANUSVARAn",
    "JIHVAMULIYAnUPADHMANIYAnVISARGAjUBJOINERiTERMINAL MARK-1w2iVOWEL LENGTH MARKoSIGN AIuUtEtI",
    "tOuEtUuEtVOCALIC L$RbPcAdCEdGHETTIdRKLEhSgING HEARTcEAK-NO-EVIL MONKEYfERh WITH CANCELLATI",
    "ON STROKEnONE SOUND WAVEnTHREE SOUND WAVESfING HEAD IN SILHOUETTEdECH BALLOONeDBOATdSMILO ",
    "SIGNcHERICAL ANGLEp OPENING LEFTyUPcIDERg WEBdRAL CALENDAR PADhNOTE PADhSHELLcLASHING SWEA",
    "T SYMBOLcONGEdOL OF THREADeNdRTS MEDALdUTING WHALEbQUARE A OVER MiARUiMiNPEAiPAATOiRUHUAiU",
    "hBAARERUjRiEETAiIRUiORUTOiQiUSSYERUhC OVER KGiALjPiCiDiMj CUBEDkSQUAREDiOjRPORATIONiUPhDAj",
    "ASUiBiESIiJiLiMj CUBEDkSQUAREDiORUhEEKAAiRA NAME HEISEIqMEIZIqREIWAqSYOUWAqTAISYOUjGiSUKUU",
    "DOiVhFMiOOTjUR CORNERShGALjNMAjRONiBiHZiIGAjNIIjRUDAAiPAiURAMUnTONiYhHAjITUiEKUTAARUjRUTUi",
    "GiIRAGANA HOKAiONjONkRUiPjAiUARADDOjIITOjRANiZhIMAGE OFp OR EQUAL TOtNOT EQUAL TOiNjINGUjT",
    "IiUhK OHMiAjIRIjRATTOkORIIiBiCALiEESUiGiHZiIROlGURAMUlMEETORUlWATTOiKiLiMj CAPITALlUBEDkSQ",
    "UAREDiOOPOjRUNAiPAiTiUROONEkUZEIROiViWiYURIIhLEFT OPEN BOX OPERATORiMiNiOGjZENGEiXhM CUBED",
    "jOHMkVER Sp SQUAREDjSQUAREDiAjHHAjIKUROkRUjNSYONjRUKUiBj SMALLiEETORUjGAlTONiGiHZiIKURONjL",
    "jRIlBAARUiLiMj CUBEDkSQUAREDiOLiPAiSiU AkFkGkLkMkSkVkWiVj MEGAiWj MEGAhNAjNOiFiMiOTTOiSiVi",
    "WhONSUiOMUiRIGINAL OFs OR EQUAL TOwNOT EQUAL TOiVhPAj AMPSjASENTOkTUiCiEEZIjNIHIkSUjSOiFiH",
    "iIASUTORUjKOkURUiMiOINTOjNDOjSITION INDICATORiPMiRiSiViWhRADk OVER Sr SQUAREDiEMUjNTOGENiI",
    "GHT OPEN BOX OPERATORjRAjTTORUiOOTiUPIIjUBURUhSAIKURUjNTIIMUiENTIlOiIRINGUiRiVhTARGETiHZiO",
    "NhUONhV OVER MhWATTOiBiITH BOTTOM HALF BLACKmCONTOURED OUTLINEmDIAGONAL CROSSHATCH FILLmHO",
    "RIZONTAL FILLmLEFT HALF BLACKnOWER LEFT DIAGONAL HALF BLACKsRIGHT DIAGONAL HALF BLACKmORTH",
    "OGONAL CROSSHATCH FILLmRIGHT HALF BLACKmTOP HALF BLACKmUPPER LEFT DIAGONAL HALF BLACKxTO L",
    "OWER RIGHT FILLsRIGHT DIAGONAL HALF BLACKyTO LOWER LEFT FILLmVERTICAL FILLhYAADOkRUiUANgD ",
    "ASTERISKiCJK UNIFIED IDEOGRAPH-4E00:9.2D.8C.A4+518D,21D.4D.72,3CC.F3,408.39,5B6,8F0,91A.29",
    ",B57,DE6,F8C+624B.53.95,307.55,599.B0,620,708:9,E80,F14+7121,51F.33,981,A7A,D42+89E3,CA9,D",
    "70+904A,14DjLjOOLiDOT OPERATORiEIGHT KiFALLING DIAGONAL SLASHjIVE POINT ONEjOUR DOT PUNCTU",
    "ATIONnKjREEiHCjDRjI-RESjViIDiKATAKANA DErKOKOrSAjEYiLATIN CAPITAL LETTER A&B&C&D&E&F&G&H&I",
    "&J&K&L&M&N&O&P&Q&R&S&T&U&V&W&X&Y&ZoSMALL LETTER DjOGICAL ANDqORkSSLESSiMINUSjViNEWjGiOKjNE",
    " HUNDRED TWENTY PiPLUSjPViRISING DIAGONAL SLASHiSALTIREjDjECOND SCREENkVEN POINT ONEjHVjIX",
    "TY PjMALL CIRCLEjOSjQUAREjSiTHREE DjIMESjWENTY-TWO POINT TWOkO KiUHDjP WITH EXCLAMATION MA",
    "RKiVODjSiWCeT BLACK RIGHTWARDS ARROWdIDbS2c3cAbTcADIUMdFF OF AESCULAPIUSjHERMESdMPED ENVEL",
    "OPEdNDING PERSONdR AND CRESCENTfEQUALSfOF DAVIDgPERATORfWITH LEFT HALF BLACKkRIGHT HALF BL",
    "ACKeT OF GUARDED AREAjHEADINGjPROTECTED AREAjSELECTED AREAkTRINGjTEXTdTIONeUE OF LIBERTYcE",
    "AM LOCOMOTIVEfING BOWLdNOGRAPHIC FULL STOPdTHOSCOPEcICK FIGUREm LEANING LEFTvRIGHTnWITH AR",
    "MS RAISEDsDRESScOCK CHARTdPWATCHcRAIGHT RULERiNESSeWBERRYdESS OUTLINED WHITE STARdICTLY EQ",
    "UIVALENT TOeNG TERMINATORcScUDIO MICROPHONEdFFED FLATBREADdPAcXbUBdSCRIPT EIGHTlQUALS SIGN",
    "kFIVElOURkLEFT PARENTHESISkMINUSkNINEkONEkPLUS SIGNkRIGHT PARENTHESISkSEVENlIXkTHREElWOkZE",
    "ROeET ABOVE RIGHTWARDS ARROWnSUBSETpPERSEThOFj ABOVE ALMOST EQUAL TOqEQUALS SIGNqNOT EQUAL",
    " TOqTILDE OPERATORkOR EQUAL TOv WITH DOT ABOVEkWITH NOT EQUAL TOhWITH DOTmMULTIPLICATION S",
    "IGN BELOWmPLUS SIGN BELOWeTITUTEcCCEEDSi ABOVE ALMOST EQUAL TOpEQUALS SIGNpNOT ALMOST EQUA",
    "L TOtEQUAL TOpSINGLE-LINE EQUALS SIGN$NOT EQUAL TOjBUT NOT EQUIVALENT TOjOR EQUAL TOpIVALE",
    "NT TOjUNDER RELATIONcMMATION BOTTOMkTOPkWITH INTEGRALcNd BEHIND CLOUDeWITH FACEdDANESE AVA",
    "GRAHAkCONSONANT SIGN PAMINGKAL$NYAKRA&IKU$SANGAN MA;WAkDIGIT EIGHTqFIVErOURqNINEqONEqSEVEN",
    "rIXqTHREErWOqZEROkLETTER AsErBAsHArCArDArEsUrFAsINAL KxMrGArHArIrJArKAsHArLAsEUrMArNAsGAsY",
    "ArOrPArQArRAsEUrSAsYArTArUrVArWArXArYArZAkPUNCTUATION BINDU BA SATANGA%CAKRA%DA SATANGA%KA",
    " SATANGA%LEU SATANGA%PANGLONG&URNAMA%SURYAkSIGN PAMAAEHrNGLAYARtWISADsYECEKpVIRAMAkVOWEL S",
    "IGN PAMEPETxNAELAENGyEULEUNGyGHULUyOLONGyYUKUdFLOWERdRISEh OVER MOUNTAINSdSET OVER BUILDIN",
    "GScPERHEROfSCRIPT EIGHTnQUALS SIGNmFIVEnOURmLATIN SMALL LETTER I,NnEFT PARENTHESISmMINUSmN",
    "INEmONEmPLUS SIGNmRIGHT PARENTHESISmSEVENnIXmTHREEnWOmZEROgET ABOVE LEFTWARDS ARROWpSUBSET",
    "rPERSETjBESIDE AND JOINED BY DASH WITH SUBSETqSUBSETjOFl ABOVE ALMOST EQUAL TOsEQUALS SIGN",
    "sNOT EQUAL TOsTILDE OPERATORmOR EQUAL TOx WITH DOT ABOVEmWITH NOT EQUAL TOjPRECEDING SOLID",
    "USjWITH DOToMULTIPLICATION SIGN BELOWoPLUS SIGN BELOWfVILLAINcRFACE INTEGRALeERcSHIdPENSIO",
    "N RAILWAYbWANdSH AMPERSAND ORNAMENTcIMMERcUNG DASHbYLOTI NAGRI LETTER AuBHOvOuCHOvOuDDHOwO",
    "vHOvOuEuGHOvOuHOuIuJHOvOuKHOvOuLOuMOuNOuOuPHOvOuROvROuSOuTHOvOvTHOwOuUnPOETRY MARK-1z2z3z4",
    "nSIGN ALTERNATE HASANTAtNUSVARAsDVISVARAsHASANTAnVOWEL SIGN AyEyIyOOyUcMBOL FOR ACKNOWLEDG",
    "ElBACKSPACEmELLlCANCELnRRIAGE RETURNlDATA LINK ESCAPEmELETEr FORM TWOnVICE CONTROL FOUR!ON",
    "E!THREE$WOlEND OF MEDIUMsTEXTtRANSMISSION+ BLOCKnQUIRYmSCAPElFILE SEPARATORmORM FEEDlGROUP",
    " SEPARATORlHORIZONTAL TABULATIONlLINE FEEDlMARKS CHAPTERlNEGATIVE ACKNOWLEDGEnWLINEmULLlRE",
    "CORD SEPARATORlSAMARITAN SOURCEmHIFT INrOUTmPACEmTART OF HEADINGuTEXTmUBSTITUTEv FORM TWOm",
    "YNCHRONOUS IDLElTYPE A ELECTRONICSlUNIT SEPARATORlVERTICAL TABULATIONdMETRYcNdAGOGUEdCHRON",
    "OUS IDLEcRIAC ABBREVIATION MARKhBARREKHhCOLON SKEWED LEFTuRIGHTjNTRACTIONhDOTTED ZLAMA ANG",
    "ULARuHORIZONTALhEND OF PARAGRAPHiSASA ABOVEnBELOWhFEMININE DOThHARKLEAN ASTERISCUSqMETOBEL",
    "USqOBELUSiBASA ABOVEnBELOWm-ESASA DOTTEDiORIZONTAL COLONhLETTER ALAPHoBETHoDALATHpOTLESS D",
    "ALATH RISHoEoFINAL SEMKATHoGAMALt GARSHUNIoHEqTHoKAPHoLAMADHoMALAYALAM BHAyJAyLLA!LAyNGAzN",
    "A!NAzYAyRAySSAyTTApIMoNUNoPEqRSIAN BHETHwDHALATHwGHAMALoQAPHoREVERSED PEpISHoSADHEpEMKATHp",
    "HINpOGDIAN FEwKHAPHwZHAINpUPERSCRIPT ALAPHoTAWpETHs GARSHUNIoWAWoYUDHs HEoZAINhMUSIChOBLIQ",
    "UE LINE ABOVEuBELOWhPTHAHA ABOVEoBELOWoDOTTEDhQUSHSHAYAhRBASA ABOVEnBELOWiUKKAKHAiWAHAhSUB",
    "LINEAR COLONw SKEWED LEFT+RIGHTrFULL STOPjPRALINEAR COLONy SKEWED LEFTtFULL STOPhTHREE DOT",
    "S ABOVEsBELOWiWO VERTICAL DOTS ABOVEzBELOWhZQAPHA ABOVEoBELOWoDOTTEDeNGEaT-REXcSHIRTbABdLE",
    " TENNIS PADDLE AND BALLcCOcG AMPERSANDfPOSTROPHEfSTERISKeCIRCUMFLEX ACCENTfOLONgMMAiERCIAL",
    " ATeDIGIT EIGHTkFIVElOURkNINEkONEkSEVENlIXkTHREElWOkZEROfOLLAR SIGNeEQUALS SIGNfXCLAMATION",
    " MARKeFULL STOPeGRAVE ACCENTgEATER-THAN SIGNeHYPHEN-MINUSeLATIN CAPITAL LETTER AzBzCzDzEzF",
    "zGzHzIzJzKzLzMzNzOzPzQzRzSzTzUzVzWzXzYzZkSMALL LETTER AxBxCxDxExFxGxHxIxJxKxLxMxNxOxPxQxRx",
    "SxTxUxVxWxXxYxZfEFT CURLY BRACKETjPARENTHESISjSQUARE BRACKETgSS-THAN SIGNfOW LINEeNUMBER S",
    "IGNePERCENT SIGNfLUS SIGNeQUESTION MARKgOTATION MARKeREVERSE SOLIDUSfIGHT CURLY BRACKETkPA",
    "RENTHESISkSQUARE BRACKETeSEMICOLONfOLIDUSfPACEeTILDEeVERTICAL LINEdALOG LETTER AqRCHAIC RA",
    "pBApDApGApHApIpKApLApMApNAqGApPApRApSApTApUpWApYAiSIGN PAMUDPODnVIRAMAiVOWEL SIGN ItUdBANW",
    "A LETTER AqBAqDAqGAqIqKAqLAqMAqNArGAqPAqSAqTAqUqWAqYAjVOWEL SIGN IuUcI LE LETTER ApIpUEoEp",
    "EpHoFAoHAoIoKApHAoLAoMAoNApGAoOpOoPApHAoQAoSAoTApHApONE-2t3t4t5t6pSAqHAoUpEoVAoXAoYAeTHAM ",
    "COMBINING CRYPTOGRAMMIC DOTlNSONANT SIGN BAyFINAL NGAyHIGH RATHA OR LOW PAyLA TANG LAIzOW ",
    "PAyMAzEDIAL LA,RAySAjHORA DIGIT EIGHTuFIVEvOURuNINEuONEuSEVENvIXuTHREEvWOuZEROjLETTER AqBA",
    "qDAqEEqGREAT SAqHIGH CAwHAvFAvHAvKAwHAwXAvPAwHAvRATHAvSAwHAwSAvTAwHAvYAqIrIqLAsErLArOW CAv",
    "HAuFAuHAuKAvHAvXAuPAvHAuRATHAuSAuTAvHAuYArUEqMAqNArGArYAqOOqRAsNAsTArUEqUrUqWAjSIGN CAANGo",
    "DOKMAIoHANGpOYoKAANsKUUpEOWpHUEN TONE-3z4z5t-LUE KARANoMAI KANGw LAIsSAMsYAMOKoRA HAAMpEVE",
    "RSED ROTATED RANAoSAKOTqTKAANvKUUqWANoTONE-1t2oWIANGtWAAKjTHAM DIGIT EIGHTuFIVEvOURuNINEuO",
    "NEuSEVENvIXuTHREEvWOuZEROjVOWEL SIGN AvAvEvIuEuIvIuMAI SATuOvA ABOVExBELOWvOvYuTALL AAvHAM",
    " AIuUvEvUwEeVIET LETTER HIGH BOvCHOwOvDOvFOvGOvHOvKHHOxOwOvLOvMOvNGOwOwYOvOvPHOwOvROvSOvTH",
    "OwOvVOvYOqLOW BOuCHOvOuDOuFOuGOuHOuKHHOwOvOuLOuMOuNGOvOvYOuOuPHOvOuROuSOuTHOvOuVOuYOjMAI K",
    "ANGoHITjSYMBOL HO HOIqKOI KOIsNqNUENGqSAMjTONE MAI EKsNUENGsSONGsTHOjVOWEL AAqMqNqUEqYpEpI",
    "qApOpUqAqErAcKEOUT BOXdRI ABBREVIATION SIGNgDIGIT EIGHTmFIVEnOURmNINEmONEmSEVENnIXmTHREEnW",
    "OmZEROgLETTER AoAoIoRCHAIC KHAoUnBAoHAnCAoHAnDAoDApHAoHAnEnGAoHAnHAnIoInJAoHAnKAoHAnLAnMAn",
    "NAoGAoNAoYAnOnPAoHAnRAoRAnSAoHAnTAoHAoTApHAnUoUnVAnYAgSIGN ANUSVARAlNUKTAlVIRAMAnSARGAgVOW",
    "EL SIGN AAsIsUrErIsIrOrUsUcLLY MARK FIVElONEcMALEdIL AND ODD SIGNhS ABOVE SIGNhU LENGTH MA",
    "RKgCREDIT SIGNhURRENT SIGNgDAY SIGNhEBIT SIGNhIGIT EIGHTmFIVEnOURmNINEmONEmSEVENnIXmTHREEn",
    "WOmZEROhRY CULTIVATION SIGNgFRACTION DOWNSCALING FACTOR KIIZHpONE EIGHTHyIETHtFIFTHuORTIET",
    "HtHALF-1y2tONE-HUNDRED-AND-SIXTIETHtQUARTERtSIXTEENTH-1&2xY-FOURTHtTENTHuHIRTY-SECONDvREE-",
    "HUNDRED-AND-TWENTIETHuWENTIETHpTHREE EIGHTIETHSvQUARTERSvSIXTEENTHSzY-FOURTHSvTWENTIETHSgI",
    "N POSSESSION SIGNgLAND SIGNhETTER AoAoIoUnCAnEoEnHAnIoInJAnKAnLAoLApLAnMAnNAoGAoNApNAoYAnO",
    "oOnPAnRAoRAnSAoHAoSAnTAoTAnUoUnVAnYAgMONTH SIGNgNUMBER ONE HUNDREDrTHOUSANDnSIGNnTENgOMgPU",
    "NCTUATION END OF TEXTgRUPEE SIGNgSALT PAN SIGNhIGN AAZHAAKKUmNUSVARAlCEVITUlKAACUmURUNInZH",
    "IlMUKKURUNInTHALIYAnUVUZHAKKUlNELlPAARAMnNAMnTHAKKUmONlUZHAKKUlVAKAIYARAAnRAAKANmELImIRAMA",
    "nSARGAhPENT SIGNhTARTING FROM SIGNgTOTAL SIGNhRADITIONAL CREDIT SIGNsNUMBER SIGNgVOWEL SIG",
    "N AAsIsUrEsErIsIrOsOrUsUgWET CULTIVATION SIGNgYEAR SIGNcNABATA TREEdGERINEeSA DIGIT EIGHTn",
    "FIVEoOURnNINEnONEnSEVENoIXnTHREEoWOnZEROhLETTER ACpQpWCqQqXqZpXpZoBAoCApHAoDApHAoECpQpXpZo",
    "FApINAL NGoGApHAoHApTAqTAoICpQpXpZoKApHAoLApONG UEXoMApCpQpXpZoNApGApHApYAoOCpQpXpZoPApHAo",
    "RAoSApHAqORT AWXuUEZoTApHApSAoUCpECqQqXqZpICqQqUCrQrXrZqXqZpQpXpZoVCpQpXpZoWAoXAoYAoZAeUT ",
    "COMPONENT-001t2t3t4t5t6t7t8t9s10t1t2t3t4t5t6t7t8t9s20t1t2t3t4t5t6t7t8t9s30t1t2t3t4t5t6t7t8",
    "t9s40t1t2t3t4t5t6t7t8t9s50t1t2t3t4t5t6t7t8t9s60t1t2t3t4t5t6t7t8t9s70t1t2t3t4t5t6t7t8t9s80t",
    "1t2t3t4t5t6t7t8t9s90t1t2t3t4t5t6t7t8t9r100t1t2t3t4t5t6t7t8t9s10t1t2t3t4t5t6t7t8t9s20t1t2t3",
    "t4t5t6t7t8t9s30t1t2t3t4t5t6t7t8t9s40t1t2t3t4t5t6t7t8t9s50t1t2t3t4t5t6t7t8t9s60t1t2t3t4t5t6",
    "t7t8t9s70t1t2t3t4t5t6t7t8t9s80t1t2t3t4t5t6t7t8t9s90t1t2t3t4t5t6t7t8t9r200t1t2t3t4t5t6t7t8t",
    "9s10t1t2t3t4t5t6t7t8t9s20t1t2t3t4t5t6t7t8t9s30t1t2t3t4t5t6t7t8t9s40t1t2t3t4t5t6t7t8t9s50t1",
    "t2t3t4t5t6t7t8t9s60t1t2t3t4t5t6t7t8t9s70t1t2t3t4t5t6t7t8t9s80t1t2t3t4t5t6t7t8t9s90t1t2t3t4",
    "t5t6t7t8t9r300t1t2t3t4t5t6t7t8t9s10t1t2t3t4t5t6t7t8t9s20t1t2t3t4t5t6t7t8t9s30t1t2t3t4t5t6t",
    "7t8t9s40t1t2t3t4t5t6t7t8t9s50t1t2t3t4t5t6t7t8t9s60t1t2t3t4t5t6t7t8t9s70t1t2t3t4t5t6t7t8t9s",
    "80t1t2t3t4t5t6t7t8t9s90t1t2t3t4t5t6t7t8t9r400t1t2t3t4t5t6t7t8t9s10t1t2t3t4t5t6t7t8t9s20t1t",
    "2t3t4t5t6t7t8t9s30t1t2t3t4t5t6t7t8t9s40t1t2t3t4t5t6t7t8t9s50t1t2t3t4t5t6t7t8t9s60t1t2t3t4t",
    "5t6t7t8t9s70t1t2t3t4t5t6t7t8t9s80t1t2t3t4t5t6t7t8t9s90t1t2t3t4t5t6t7t8t9r500t1t2t3t4t5t6t7",
    "t8t9s10t1t2t3t4t5t6t7t8t9s20t1t2t3t4t5t6t7t8t9s30t1t2t3t4t5t6t7t8t9s40t1t2t3t4t5t6t7t8t9s5",
    "0t1t2t3t4t5t6t7t8t9s60t1t2t3t4t5t6t7t8t9s70t1t2t3t4t5t6t7t8t9s80t1t2t3t4t5t6t7t8t9s90t1t2t",
    "3t4t5t6t7t8t9r600t1t2t3t4t5t6t7t8t9s10t1t2t3t4t5t6t7t8t9s20t1t2t3t4t5t6t7t8t9s30t1t2t3t4t5",
    "t6t7t8t9s40t1t2t3t4t5t6t7t8t9s50t1t2t3t4t5t6t7t8t9s60t1t2t3t4t5t6t7t8t9s70t1t2t3t4t5t6t7t8",
    "t9s80t1t2t3t4t5t6t7t8t9s90t1t2t3t4t5t6t7t8t9r700t1t2t3t4t5t6t7t8t9s10t1t2t3t4t5t6t7t8t9s20",
    "t1t2t3t4t5t6t7t8t9s30t1t2t3t4t5t6t7t8t9s40t1t2t3t4t5t6t7t8t9s50t1t2t3t4t5t6t7t8t9s60t1t2t3",
    "t4t5t6t7t8hITERATION MARKcPE CARTRIDGEfDRIVEcURUScXIbEACUP WITHOUT HANDLEdPOTdR-OFF CALEND",
    "AReDROP-BARBED RIGHTWARDS ARROWjSPOKED ASTERISKcDDY BEARcLEPHONE LOCATION SIGNkON TOP OF M",
    "ODEMkRECEIVERs WITH PAGEnORDERkSIGNeSCOPEeVISIONdUGU AI LENGTH MARKhDIGIT EIGHTnFIVEoOURnN",
    "INEnONEnSEVENoIXnTHREEoWOnZEROhFRACTION DIGIT ONE FOR EVEN POWERS OF FOUR+ODD POWERS OF FO",
    "URwTHREE FOR EVEN POWERS OF FOUR.ODD POWERS OF FOURxWO FOR EVEN POWERS OF FOUR+ODD POWERS ",
    "OF FOURwZERO FOR ODD POWERS OF FOURhLENGTH MARKjTTER ApApIpUoBApHAoCApHAoDApDAqHApHApZAoEp",
    "EoGApHAoHAoIpIoJApHAoKApHAoLApLAqLAoMAoNAqKAARA POLLUpGApNApYAoOpOoPApHAoRApRAqRAoSApHApSA",
    "oTApHApSApTAqHAoUpUoVApOCALIC LxLwRxRoYAhSIGN ANUSVARAnVAGRAHAmCANDRABINDUnOMBINING ANUSVA",
    "RA ABOVEwCANDRABINDU ABOVEmNUKTAmSIDDHAMmTUUMUmVIRAMAoSARGAhVOWEL SIGN AAtItUsEtEsItIsOtOs",
    "UtUsVOCALIC L$L!R$RcNGE SIGNdNIS RACQUET AND BALLdTcST TUBEcTRAGRAM FOR ACCUMULATIONpDVANC",
    "EpGGRAVATIONpSCENToBARRIERpOLD RESOLUTIONpRANCHING OUToCENTREpHANGEpLOSED MOUTHtNESSsUREpO",
    "MPLETIONtIANCEqNSTANCYrTACTsENTIONsRARIETYoDARKENINGpECISIVENESSqFECTIVENESS OR DISTORTION",
    "qPARTUREpIFFICULTIESqMINISHMENTrMINGqVERGENCEpOUBTpUTIESoEASEpMBELLISHMENTpNCOUNTERSqDEAVO",
    "URqLARGEMENTpTERNITYpXHAUSTIONoFAILUREpLIGHTpOLLOWINGqSTERINGpULL CIRCLEsNESSoGATHERINGx I",
    "NpOING TO MEETpREATNESSpUARDEDNESSoHARDNESSpOLDING BACKoINCREASEqNERoJOYoKEEPING SMALLpINS",
    "HIPoLABOURINGqW OR MODELpEGIONoMASSINGpEASUREpIREDoON THE VERGEpPPOSITIONoPACKINGqTTERNpEN",
    "ETRATIONpURITYoREACHqLEASEqSIDENCEsSTANCErPONSEpITUALoSEVERANCEpINKINGpTOPPAGErVEqRENGTHoU",
    "NITYoVASTNESS OR WASTINGoWAITINGqTCHoYOUTHFULNESSbHAANA AABAAFILIiBAFILIhEBEFILIiEBEEFILIi",
    "YBEYFILIhIBIFILIhLETTER AINUpLIFUoBAAoCHAVIYANIoDAADHUqVIYANIpHAALUoFAAFUoGAAFUpHAINUpNAVI",
    "YANIoHAApHAAoJAVIYANIoKAAFUpHAAoLAAMUpHAVIYANIoMEEMUoNAApOONUoPAVIYANIoQAAFUoRAAoSAADHUpEE",
    "NUpHAVIYANIqEENUoTAVIYANIpHAAsLUpOpTAAoVAAVUoWAAVUoYAAoZAAqVIYANIpOhOABOAFILIiBOFILIiOBOOF",
    "ILIhSUKUNhUBUFILIdI CHARACTER ANGKHANKHUpBO BAIMAIpCHO CHANxGvINGvOEpDO CHADAsDEKpFO FAuNr",
    "NGMANpHO HIPsNOKHUKpKHO KHAIvONvUATvWAItRAKHANGsMUTqO KAIpLAKKHANGYAOqO CHULAsLINGqUpMAI C",
    "HATTAWAtEKtHAN-AKATtTHOuRIsTAIKHUsYAMOKqO MApNGO NGUqIKHAHITqO NENtUpO ANGpPAIYANNOIqHINTH",
    "UrO PHANvUNGtSAMPHAOqO PLApRO RUAqUpSARA AvAvEvI MAIMALAI$UANvMuEuIvIuOuUvEwEvUqO RUSIsSAL",
    "AtOtUApTHANTHAKHATrO NANGMONTHOtPHUTHAOtTHAHANwNvONGvUNGqO PATAKsTAOpWO WAENpYAMAKKANqO YA",
    "KtINGgURRENCY SYMBOL BAHTfDIGIT EIGHTlFIVEmOURlNINElONElSEVENmIXlTHREEmWOlZEROcERE DOES NO",
    "T EXISTgEXISTSfFOREeMODYNAMICgMETERcIN GREEK CROSSfSALTIREgPACEeKING FACEdRD PLACE MEDALcO",
    "NG SANDALdUGHT BALLOONcREE BUTTON MOUSEgCONSECUTIVE EQUALS SIGNSgDIMENSIONAL ANGLEhOT PUNC",
    "TUATIONgLEFTWARDS ARROWShINES CONVERGING LEFTxRIGHTgNETWORKED COMPUTERSgPOINTED BLACK STAR",
    "gRAYS ABOVElBELOWlLEFTlRIGHThIGHTWARDS ARROWSgSPEECH BUBBLESf-D BOTTOM-LIGHTED RIGHTWARDS ",
    "ARROWHEADiLEFT-LIGHTED DOWNWARDS EQUILATERAL ARROWHEADiRIGHT-LIGHTED UPWARDS EQUILATERAL A",
    "RROWHEADiTOP-LIGHTED LEFTWARDS EQUILATERAL ARROWHEADuRIGHTWARDS ARROWHEAD,EQUILATERAL ARRO",
    "WHEADgEM DASHgPER-EM SPACEcUMBS DOWN SIGNhUP SIGNdNDER CLOUD AND RAINhSTORMbIBETAN ASTROLO",
    "GICAL SIGN -KHYUD PA!SDONG TSHUGS$GRA GCAN -CHAR RTAGSiCANTILLATION SIGN CANG TE-U!HEAVY B",
    "EAT!LIGHT BEAT!SBUB -CHALiDIGIT EIGHToFIVEpOURoHALF EIGHTtFIVEuOURtNINEtONEtSEVENuIXtTHREE",
    "uWOtZEROoNINEoONEoSEVENpIXoTHREEpWOoZEROiKU RU KHAr BZHI MIG CANiLETTER -ApApBAqHApCAqHApD",
    "AqDArHAqHAqZArHApFIXED-FORM RApGAqHApHApJApKAqHAqKAqSSApLApMApNAqGAqNAqYApPAqHApRAqRApSAqH",
    "AqSApTAqHAqSArHAqTArHApWApYApZAqHAjOGOTYPE SIGN CHAD RTAGSwLHAG RTAGSiMARK ANG KHANG GYASz",
    "ONnBKA- SHOG GI MGO RGYANxYIG MGOoSDUS RTAGSpKA- SHOG GI MGO RGYANqUR YIG MGOnCARET -DZUD ",
    "RTAGS BZHI MIG CAN,ME LONG CANtYIG MGO PHUR SHAD MAoHE MGOoLOSING BRDA RNYING YIG MGO SGAB",
    " MAvYIG MGO SGAB MAnDELIMITER TSHEG BSTARnGTER TSHEGsYIG MGO -UM GTER TSHEG MA+RNAM BCAD M",
    "A!TRUNCATED AoUG RTAGS GYASzONnHALANTAnINITIAL BRDA RNYING YIG MGO MDUN MAvYIG MGO MDUN MA",
    "pTERSYLLABIC TSHEGnLEADING MCHAN RTAGSnMNYAM YIG GI MGO RGYANnNGAS BZUNG NYI ZLAySGOR RTAG",
    "SoYIS SHADsTSHEGx SHADnPALUTAnRGYA GRAM SHADoIN CHEN SPUNGS SHADnSBRUL SHADoHADnTRAILING M",
    "CHAN RTAGSoSA -PHRUpHEG SHADnYIG MGO TSHEG SHAD MAiSIGN GRU CAN RGYINGSrMED RGYINGSnINVERT",
    "ED MCHU CANnLCE TSA CANpI RTAGSnMAR TSHESoCHU CANnNYI ZLA NAA DAnRDEL DKAR GCIGyNYISySUMxR",
    "DEL NAGsNAG GCIGxNYISxSUMwRDEL DKARoJES SU NGA ROoNAM BCADnSNA LDANnYANG RTAGSpR TSHESjUBJ",
    "OINED LETTER -AzAzBA!HAzCA!HAzDA!DA$HA!HA!ZA$HAzFIXED-FORM RA=WA=YAzGA!HAzHAzJAzKA!HA!SSAz",
    "LAzMAzNA!GA!NA!YAzPA!HAzRAzSA!HA!SAzTA!HA!SA$HA!TA$HAzWAzYAzZA!HAsSIGN INVERTED MCHU CANxL",
    "CE TSA CANxMCHU CANjYLLABLE OMkMBOL DRIL BUpNOR BUv BZHI -KHYILwGSUM -KHYILwNYIS -KHYILpPA",
    "DMA GDANqHUR PApRDO RJEw RGYA GRAMiVOWEL SIGN AAtEuEtIuItOuOtREVERSED I&ItUuUtVOCALIC L%L$",
    "R%RcCKETcE OVER INFINITYcFINAGH CONSONANT JOINERjLETTER AHAGGAR YAZHrYER YAGHqBERBER ACADE",
    "MY YAH:JqTAWELLEMET YAZrUAREG YAGH!NzHzK!HzNGzQzZHqYAsAsBtHsCHsDtDuHtHsFsGtHuHsHtHsJsKtHuH",
    "sLsMsNsPsQsRtRsStHtSsTtHtTsVsWsYsZtHtZrEsYrIrOrUjMODIFIER LETTER LABIALIZATION MARKjSEPARA",
    "TOR MARKcGERf FACEdHT TRIFOLIATE SNOWFLAKEcLDEf OPERATORo ABOVE LEFTWARDS ARROWvRIGHTWARDS",
    " ARROWpWITH DOT ABOVEuRISING DOTSgWITH DOT ABOVEpBELOWlRING ABOVEcMER CLOCKeS WITH LEFT HA",
    "LF BLACKlRIGHT HALF BLACKcNYe TWO DOTS OVER ONE DOT PUNCTUATIONcRED FACEdHUTA ABBREVIATION",
    " SIGNjNJIiDIGIT EIGHToFIVEpOURoNINEoONEoSEVENpIXoTHREEpWOoZEROiGVANGiLETTER AqAqIqUpBAqHAp",
    "CAqHApDAqDArHAqHApEpGAqHApHApIqIpJAqHApKAqHApLApMApNAqGAqNAqYApOpPAqHApRApSAqHAqSApTAqHAqT",
    "ArHApUqUpVAqOCALIC LyLxRyRpYAiOMiSIGN ANUSVARAoVAGRAHAnCANDRABINDUnNUKTAnVIRAMApSARGAiVOWE",
    "L SIGN AAuIuUtEtIuItOtSHORT EzOtUuUtVOCALIC L%L$R%RdONIAN SIGN CAPITAL EToETbOILETcKYO TOW",
    "ERcMATOcNGUEcOLBOXdTHfBRUSHcP ARC ANTICLOCKWISE ARROW$ WITH PLUSiCLOCKWISE ARROW WITH MINU",
    "SeCURLY BRACKETeHALF BLACK CIRCLEjINTEGRALjLEFT PARENTHESISjRIGHT PARENTHESISjSECTION SIGN",
    "gTeLEFT CORNERkROPjHALF BRACKETePARENTHESISeRIGHT CORNERlROPkHALF BRACKETeSQUARE BRACKETeT",
    "ORTOISE SHELL BRACKETeWITH UPWARDS ARROW ABOVEcRTOISE SHELL BRACKETED CJK UNIFIED IDEOGRAP",
    "H-4E09~H-4E8C~H-52DD~H-5B89~H-6253~H-6557~H-672C~H-70B9~H-76D7zLATIN CAPITAL LETTER ScTAL ",
    "RUNOUTdO LETTER AnEmBAnREATHY AEuEvOuIvUmCHAmDAmEnOmGAmHAmInUmJAmKAmLAmMAmNAnGAmOmPAmRAmSA",
    "mTAmUmWAmYAfSIGN RISING TONEbRACKBALLeTORdDE MARK SIGNdINdMe CARdNSPLUTOfVERSAL INTERSECTI",
    "ONcIANGLE WITH DOT ABOVEoROUNDED CORNERSoSERIFS AT BOTTOMoUNDERBARi-HEADED RIGHTWARDS ARRO",
    "WgULAR BULLETlFLAG ON POSTlRULERdCOLONdDENT EMBLEMdGRAM FOR EARTHmFIREmHEAVENmLAKEmMOUNTAI",
    "NmTHUNDERmWATERnINDdPLE COLON OPERATORhDAGGERhHORIZONTAL BAR WITH DOUBLE VERTICAL STROKE$T",
    "RIPLE VERTICAL STROKEhINTEGRALhNESTED GREATER-THANoLESS-THANhPLUSiRIMEhSOLIDUS BINARY RELA",
    "TIONhTILDEhVERTICAL BAR BINARY RELATIONuDELIMITERuRIGHT TURNSTILEuWITH HORIZONTAL STROKEcO",
    "LLfEYBUSdPHYeICAL DRINKjFISHcUEe LIGHT MOON ARTAdMPETbUGRIK SIGNcLIPcMBLER GLASScRKEYeISH ",
    "LIRA SIGNdNED AMPERSANDiNGLEhBLACK PENTAGONnSHOGI PIECEhCAPITAL FiOMMAhDAGGERiIGIT THREEoW",
    "OhGREEK SMALL LETTER IOTAhNORTH EAST POINTING LEAFnWEST POINTING LEAFjT SIGNhOK HAND SIGNh",
    "SANS-SERIF CAPITAL G!L!YiEMICOLONiMALL FiOUTH EAST POINTING LEAFnWEST POINTING LEAFhWHITE ",
    "SHOGI PIECEdTLEbWELVE POINTED BLACK STARcISTED RIGHTWARDS ARROWScO ASTERISKS ALIGNED VERTI",
    "CALLYeBUTTON MOUSEeCONSECUTIVE EQUALS SIGNSeDOT LEADERiPUNCTUATIONhS OVER ONE DOT PUNCTUAT",
    "IONeHEARTSeINTERSECTING LOGICAL ANDzOReJOINED SQUARESeLOGICAL AND OPERATORmOR OPERATOReMEN",
    " HOLDING HANDSeSPEECH BUBBLESeWOMEN HOLDING HANDSd-EM DASHaUGARITIC LETTER AINrLPAqBETAqDE",
    "LTArHALqGAMLArHAINqHOsTAqIqKAFrHAqLAMDAqMEMqNUNqPUqQOPAqRASHAqSADEsMKArHINrSUqTETrHANNArOq",
    "UqWOqYODqZETArUjWORD DIVIDERbMBRELLAi ON GROUNDjWITH RAIN DROPSbNAMUSED FACEcCERTAINTY SIG",
    "NcDERTIEdO SYMBOLcICORN FACEdONf ABOVE BAR ABOVE INTERSECTIONmINTERSECTIONgBESIDE AND JOIN",
    "ED WITH UNIONgWITH LOGICAL ORlMINUS SIGNlOVERBARdT SEPARATOReED SYMBOLdVERSAL RECYCLING SY",
    "MBOLcMARRIED PARTNERSHIP SYMBOLbP ARROW THROUGH CIRCLEiHEADm BETWEEN TWO HORIZONTAL BARSnI",
    "N A RECTANGLE BOXdBARB LEFT DOWN BARB LEFT HARPOONxRIGHT HARPOONiRIGHT DOWN BARB LEFT HARP",
    "OONyRIGHT HARPOONdDOWN ARROWn WITH BASEiBLACK ARROWiDOUBLE ARROWiSANS-SERIF ARROWiTRIANGLE",
    "-HEADED ARROWiWHITE ARROWdFISH TAILdRIGHT DIAGONAL ELLIPSISdTACKh WITH CIRCLE ABOVEc-POINT",
    "ING AIRPLANEmMILITARY AIRPLANEmRED TRIANGLEmSMALL AIRPLANEsRED TRIANGLEmTRIANGLE WITH LEFT",
    " HALF BLACK!RIGHT HALF BLACKcPER AND LEFT AND LOWER TRIANGULAR THREE QUARTERS BLOCKlOWER O",
    "NE EIGHTH BLOCKqTRIANGULAR HALF BLOCKkRIGHT AND LOWER TRIANGULAR THREE QUARTERS BLOCKgBLAD",
    "E SCISSORSgFIVE EIGHTHS BLOCKgHALF BLOCKq AND LOWER HALF INVERSE MEDIUM SHADElCIRCLElINVER",
    "SE MEDIUM SHADE AND LOWER HALF BLOCKtWHITE CIRCLElMEDIUM SHADEgLEFT BLOCK DIAGONAL LOWER C",
    "ENTRE TO LOWER MIDDLE RIGHT^UPPER MIDDLE RIGHT~ER RIGHT.LEFT TO LOWER MIDDLE RIGHT[UPPER C",
    "ENTRE~ MIDDLE RIGHT.MIDDLE LEFT TO UPPER CENTRE~O UPPER MIDDLE RIGHT~O UPPER RIGHT!UPPER M",
    "IDDLE LEFT TO UPPER CENTRE~O UPPER RIGHTlCORNER WITH DOTlOR LOWER RIGHT CURLY BRACKET SECT",
    "IONlQUADRANT CIRCULAR ARClTO LOWER RIGHT FILLmRIANGLErULAR MEDIUM SHADEgONE EIGHTH BLOCKkQ",
    "UARTER BLOCKgRIGHT BLOCK DIAGONAL LOWER MIDDLE LEFT TO LOWER CENTRE~TO LOWER RIGHT$UPPER C",
    "ENTRE TO LOWER MIDDLE RIGHT~WER RIGHT_UPPER MIDDLE RIGHT:LEFT TO LOWER CENTRE~R MIDDLE RIG",
    "HT]UPPER MIDDLE RIGHT:MIDDLE LEFT TO LOWER CENTRE~TO LOWER MIDDLE RIGHT~TO LOWER RIGHTmDRO",
    "P-SHADOWED WHITE SQUAREmOR LOWER LEFT CURLY BRACKET SECTIONmPENCILmQUADRANT CIRCULAR ARCmS",
    "HADOWED WHITE CIRCLE$SQUAREmTO LOWER LEFT FILLnRIANGLEsULAR MEDIUM SHADEgSEVEN EIGHTHS BLO",
    "CKgTHREE EIGHTHS BLOCKmQUARTERS BLOCKhRIANGULAR ONE QUARTER BLOCKcSIDE-DOWN FACEcWARDS ANC",
    "ORAjRROWn AND RIGHT ONE EIGHTH BLOCKoFROM BARoLEFTWARDS OF DOWNWARDS ARROWoTO BARoWITH DOU",
    "BLE STROKEtEQUILATERAL ARROWHEADtHORIZONTAL STROKEtLARGE TRIANGLE ARROWHEADtMEDIUM TRIANGL",
    "E ARROWHEADtNOTCHED TAILtSMALL EQUILATERAL ARROWHEADzTRIANGLE ARROWHEADtTIP LEFTWARDSxRIGH",
    "TWARDSiBLACK ARROWoCIRCLED WHITE ARROWiCOMPRESSED ARROWiDASHED ARROWjOUBLE ARROWiFINGER-PO",
    "ST ARROWiHARPOON WITH BARB LEFT BESIDE DOWNWARDS HARPOON WITH BARB RIGHT?UPWARDS HARPOON W",
    "ITH BARB RIGHT,FROM BAR,TO BAR+WARDS!RIGHT FROM BAR.TO BAR,WARDSjEAVY ARROWoCOMPRESSED ARR",
    "OWiPAIRED ARROWSiQUADRUPLE ARROWiROCKETiSANS-SERIF ARROWjQUARED ARROWiTRIANGLE ARROWHEADq-",
    "HEADED ARROW& LEFTWARDS OF DOWNWARDS TRIANGLE-HEADED ARROW+TO BAR+WITH BOLD SHAFT<DOUBLE H",
    "ORIZONTAL STROKE<HEAVY SHAFT<LONG TIP LEFTWARDS|RIGHTWARDS<MEDIUM SHAFT<NARROW SHAFT<VERY ",
    "HEAVY SHAFTyDASHED ARROWyPAIRED ARROWSlPLE ARROWjWO HEADED ARROWl-HEADED ARROW FROM SMALL ",
    "CIRCLEzWITH TRIANGLE ARROWHEADSiWHITE ARROWt FROM BAR% WITH HORIZONTAL BARuON PEDESTAL, WI",
    "TH HORIZONTAL BAR>VERTICAL BARuWITHIN TRIANGLE ARROWHEADoDOUBLE ARROW! ON PEDESTALbRANUSbS",
    "aVAI COMMAeDIGIT EIGHTkFIVElOURkNINEkONEkSEVENlIXkTHREElWOkZEROeFULL STOPeQUESTION MARKeSY",
    "LLABLE AoNnBAoEpEoHApEqEpIpOqOpUoIoOpOoUnCAoEpEoIoOpOoUnDAoEpEoHApEqEpHAqErEqIqOrOqUpIpOqO",
    "pUoIoOpOoUnEoEpNoNnFAoEpEoIoOpOoUnGAoBApEqEqNpIpOqNqOpUoEpEpNoIoOpOoUnHApNoEpEpNoIpNoOpNpO",
    "oUpNnIoNnJAoEpEoIoOpOoUnKApNoEpEoIoOpOoPAqNpEqEqNpIpOqOpUoUnLAoEpEpNGTHENERoIoOpOoUnMAoBAp",
    "EqEpIpOqOpUoEpEoGBAqErEqIqOrOqUoIoOpOoUnNAoDApEqEpIpOqLE DOtFAtKAtMAtSOOqOpUoEpEoGpANpENpG",
    "AqErErNqIqOrOqUpONoIoJApEqEpIpOqOpUoOpOoUoYApEqEpIpOqOpUnOoNoOpNnPAoEpEoIoOpOoUnRAoEpEoIoO",
    "pOoUnSAoEpEoHApEqEpIpOqOpUoIoOpOoUnTAoEpEoHApEqEpIpOqOpUoIoOpOoUnUoNnVAoEpEoIoOpOoUnWApNoE",
    "pEqNpNoIpNoOpNpOqNoUpNnYAoEpEoIoOpOoUnZAoEpEoHApEqEpIpOqOpUoIoOpOoUgMBOL BANGlDANGmO-OnONG",
    "lFAAmEENGlJONGlKEENGmUNGlNIIlTAAmINGmONGcMPIREcRIATION SELECTOR-1u0v0v1v2v3v4v5v6v7v8v9u1v",
    "0v1v2v3v4v5v6v7v8v9u2v0v1v2v3v4v5v6v7v8v9u3v0v1v2v3v4v5v6v7v8v9u4v0v1v2v3v4v5v6v7v8v9u5v0v",
    "1v2v3v4v5v6v7v8v9u6v0v1v2v3v4v5v6v7v8v9u7v0v1v2v3v4v5v6v7v8v9u8v0v1v2v3v4v5v6v7v8v9u9v0v1v",
    "2v3v4v5v6v7v8v9t2u0v0v1v2v3v4v5v6v7v8v9u1v0v1v2v3v4v5v6v7v8v9u2v0v1v2v3v4v5v6v7v8v9u3v0v1v",
    "2v3v4v5v6v7v8v9u4v0v1v2v3v4v5v6v7v8v9u5v0v1v2v3v4v5v6u6u7u8u9t3u0u1u2u3u4u5u6u7u8u9t4u0u1u",
    "2u3u4u5u6u7u8u9t5u0u1u2u3u4u5u6u7u8u9t6u0u1u2u3u4u5u6u7u8u9t7u0u1u2u3u4u5u6u7u8u9t8u0u1u2u",
    "3u4u5u6u7u8u9t9u0u1u2u3u4u5u6u7u8u9bECTOR OR CROSS PRODUCTcDIC SIGN ANUSVARA ANTARGOMUKHAu",
    "BAHIRGOMUKHAuUBHAYATO MUKHAuVAMAGOMUKHA, WITH TAILmRDHAVISARGAmTIKRAMAlDOUBLE ANUSVARA ANT",
    "ARGOMUKHAlHEXIFORM LONG ANUSVARAlJIHVAMULIYAlLONG ANUSVARAlNIHSHVASAlREVERSED VISARGA ANUD",
    "ATTA%UDATTAmOTATED ARDHAVISARGAmTHANG LONG ANUSVARAlTIRYAKlUPADHMANIYAlVISARGA ANUDATTA$ W",
    "ITH TAILtSVARITAtUDATTAz WITH TAILlYAJURVEDIC MIDLINE SVARITAgTONE ATHARVAVEDIC INDEPENDEN",
    "T SVARITAlCANDRA ABOVEsBELOWlDOT BELOWnUBLE RING ABOVEsSVARITAlKARSHANAnTHAKA ANUDATTAlPRE",
    "NKHAlRIGVEDIC KASHMIRI INDEPENDENT SVARITAnNG ABOVElSHARAlTHREE DOTS BELOWmRIPLE SVARITAmW",
    "O DOTS BELOWlYAJURVEDIC AGGRAVATED INDEPENDENT SVARITAwINDEPENDENT SVARITAwKATHAKA INDEPEN",
    "DENT SVARITA~RITA SCHROEDERcRSICLEdTICAL BAR BESIDE RIGHT TRIANGLEnDOUBLE LEFT TURNSTILEnT",
    "RIPLE RIGHT TURNSTILEnWITH HORIZONTAL STROKEjELLIPSISjFOUR DOTSjIDEOGRAPHIC ITERATION MARK",
    "jKANA REPEAT MARKz LOWER HALF!UPPER HALFvWITH VOICED SOUND MARK_ UPPER HALFjLINEn EXTENSIO",
    "NoWITH CIRCLE ABOVE!BELOWtMIDDLE DOTjMALE WITH STROKE SIGNjONE EIGHTH BLOCK-2!3!4!5!6!7jSI",
    "X DOTSjTAB KEYmULATIONt SETkILDEkRAFFIC LIGHTjZIGZAG LINEdY BOLD GREEK CROSSfHEAVY EIGHT P",
    "OINTED BLACK STARrSPOKED ASTERISKlFIVE SPOKED ASTERISKlGREEK CROSSlREVERSE SOLIDUSlSALTIRE",
    "mIX SPOKED ASTERISKmOLIDUSlWHITE CIRCLErSQUAREfMUCH GREATER-THANkLESS-THANcSTAbIBRATION MO",
    "DEcCTORY HANDcDEO CAMERAgGAMEfCASSETTEcETNAMESE ALTERNATE READING MARK CA;NHAYdWDATA SQUAR",
    "EcOLINcRGOcTHKUQI CAPITAL LETTER AyBBEzEyCEzHEyDEzHEyEzIyFEyGAyHAzHAyIzJEyJEyKAyLAzLAyMEyN",
    "EzJEyOyPEyQAyREySEzHEyTEzHEyUyVEyXEyYyZEjSMALL LETTER AwBBExEwCExHEwDExHEwExIwFEwGAwHAxHAw",
    "IxJEwJEwKAwLAxLAwMEwNExJEwOwPEwQAwREwSExHEwTExHEwUwVEwXEwYwZEbOIDED GREEK CROSScLCANOdLEYB",
    "ALLdUME INTEGRALbS1d0e0e1e2e3e4e5e6e7e8e9d1e0e1e2e3e4e5e6e7e8e9d2e0e1e2e3e4e5e6e7e8e9d3e0e",
    "1e2e3e4e5e6e7e8e9d4e0e1e2e3e4e5e6e7e8e9d5e0e1e2e3e4e5e6e7e8e9d6e0e1e2e3e4e5e6e7e8e9d7e0e1e",
    "2e3e4e5e6e7e8e9d8e0e1e2e3e4e5e6e7e8e9d9e0e1e2e3e4e5e6e7e8e9c2d0e0e1e2e3e4e5e6e7e8e9d1e0e1e",
    "2e3e4e5e6e7e8e9d2e0e1e2e3e4e5e6e7e8e9d3e0e1e2e3e4e5e6e7e8e9d4e0e1e2e3e4e5e6e7e8e9d5e0e1e2e",
    "3e4e5e6d6d7d8d9c3d0d1d2d3d4d5d6d7d8d9c4d0d1d2d3d4d5d6d7d8d9c5d0d1d2d3d4d5d6d7d8d9c6d0d1d2d",
    "3d4d5d6d7d8d9c7d0d1d2d3d4d5d6d7d8d9c8d0d1d2d3d4d5d6d7d8d9c9d0d1d2d3d4d5d6d7d8d9bTcSbULCANU",
    "SdGAR FRACTION FIVE EIGHTHSvSIXTHSrOUR FIFTHSqONE EIGHTHuFIFTHuHALFuNINTHuQUARTERuSEVENTHv",
    "IXTHuTENTHvHIRDqSEVEN EIGHTHSqTHREE EIGHTHSwFIFTHSwQUARTERSrWO FIFTHSuTHIRDSqZERO THIRDSaW",
    "AFFLEcNCHO DIGIT EIGHTnFIVEoOURnNINEnONEnSEVENoIXnTHREEoWOnZEROhLETTER ApAqNrGpNGpUoBAoCAo",
    "DAoEpNoFAoGAoHAoIpNGoJAoKApHAoLApLHAoMAoNApGApYAoOpNqGoPApHAoRAoSApHAoTApHApRApSAoUpENoVAo",
    "WAoYApIHoZAhNGUN SIGNhTONE KOIpNImTUPpNIdING CRESCENT MOON SYMBOLhGIBBOUS MOON SYMBOLcRANG",
    " CITI CAPITAL LETTER A%M%NG%T$BU$DA$E%NN&Y$GA$HAR%IYO%OLO&RR$II$KO$NGAA%UNG$O%DD$PU$SII%SU",
    "U$TTE$UC%U$VIYO$WI$YA%O%U&JmDIGIT EIGHTsFIVEtOURsNINEsONEsSEVENtIXsTHREEtWOsZEROmNUMBER EI",
    "GHTYtFIFTYuORTYtNINETYtSEVENTYuIXTYtTENuHIRTYuWENTYmOMmSMALL LETTER A!M!NG!TzBUzDAzE!NN$Yz",
    "GAzHAR!IYO!OLO$RRzIIzKOzNGAA!UNGzO!DDzPUzSII!SUUzTTEzUC!UzVIYOzWIzYA!O!U$JdNING SIGNcSTEBA",
    "SKETcTCHdER BUFFALOgCLOSETgPOLOgWAVEfMELONcVE ARROW POINTING DIRECTLY LEFT&RIGHTfDASHdING ",
    "BLACK FLAGhHAND SIGNhWHITE FLAGdY DASHfLINEgOW LINEfOVERLINEcXING CRESCENT MOON SYMBOLhGIB",
    "BOUS MOON SYMBOLbEARY CAT FACEgFACEcDDINGdGE-TAILED RIGHTWARDS ARROWcIERSTRASS ELLIPTIC FU",
    "NCTIONdGHT LIFTERcST SYRIAC CROSSbHALEcEELf OF DHARMAfCHAIR SYMBOLcITE ARROW SHAFT WIDTH O",
    "NEyTWO THIRDSgBULLETgCHESS BISHOPs ROTATED NINETY DEGREES$TWO HUNDRED SEVENTY DEGREESmEQUI",
    "HOPPERw ROTATED NINETY DEGREESmKINGq ROTATED NINETY DEGREESzTWO HUNDRED SEVENTY DEGREESnNI",
    "GHTs ROTATED FORTY-FIVE DEGREES$NINETY DEGREES$ONE HUNDRED THIRTY-FIVE DEGREES$THREE HUNDR",
    "ED FIFTEEN DEGREES%WO HUNDRED SEVENTY DEGREES@TWENTY-FIVE DEGREESs-BISHOPtQUEENtROOKmPAWNq",
    " ROTATED NINETY DEGREESzTWO HUNDRED SEVENTY DEGREESmQUEENr ROTATED NINETY DEGREES!TWO HUND",
    "RED SEVENTY DEGREESmROOKq ROTATED NINETY DEGREESzTWO HUNDRED SEVENTY DEGREESmTURNED BISHOP",
    "tKINGuNIGHTtPAWNtQUEENtROOKhIRCLEm CONTAINING BLACK SMALL CIRCLEnWITH DOT RIGHTuWN ARROWsL",
    "OWER LEFT QUADRANTyRIGHT QUADRANTsTWO DOTSsUPPER LEFT QUADRANTyRIGHT QUADRANThLUB SUIThONC",
    "AVE-SIDED DIAMOND$ WITH LEFTWARDS TICK:RIGHTWARDS TICKgDIAMONDn CONTAINING BLACK MEDIUM DI",
    "AMOND,SMALL DIAMOND,VERY SMALL DIAMONDoIN SQUAREoSUIToWITH CENTRED DOThOWN POINTING BACKHA",
    "ND INDEXuINDEXuLEFT HAND INDEXk-POINTING SMALL TRIANGLEuTRIANGLEhRAUGHTS KINGpMANgEXCLAMAT",
    "ION MARK ORNAMENTgFLAGk WITH HORIZONTAL MIDDLE BLACK STRIPEiORETTEjWERhOUR POINTED CUSPtST",
    "ARhROWNING FACEgHARD SHELL FLOPPY DISKhEARTl SUITjVY CHECK MARKmSALTIRE WITH ROUNDED CORNE",
    "RSiXAGONhORIZONTAL ELLIPSEiURGLASSgLARGE SQUAREiTIN CROSShEFT LANE MERGElPOINTING BACKHAND",
    " INDEXuINDEXk-POINTING POINTERuSMALL TRIANGLEuTRIANGLEhOZENGE CONTAINING BLACK SMALL LOZEN",
    "GEgMEDIUM DIAMONDnLOZENGEnSMALL SQUAREoQUAREoTARhOON SELENAgNIBgPARALLELOGRAMhENNANTjTAGON",
    "gQUESTION MARK ORNAMENTgRECTANGLEhIGHT POINTING BACKHAND INDEXvINDEXl-POINTING PENTAGONwOI",
    "NTERvSMALL TRIANGLEvTRIANGLEgSCISSORShESAME DOThHOGI PIECEhMALL LOZENGEmSQUAREnTARiILING F",
    "ACEhPADE SUIThQUAREm BUTTONnCONTAINING BLACK MEDIUM SQUARE+SMALL SQUARE+VERY SMALL SQUAREn",
    "WITH CENTRE VERTICAL LINEsLEFTWARDS TICKtOWER LEFT QUADRANTyRIGHT QUADRANTsRIGHTWARDS TICK",
    "tOUNDED CORNERSsUPPER LEFT QUADRANTyRIGHT QUADRANTsVERTICAL BISECTING LINEhTARhUNj BEHIND ",
    "CLOUDw WITH RAINkWITH RAYSpSMALL CLOUDgTELEPHONEhOUCHTONE TELEPHONEhRAPEZIUMiIANGLE CONTAI",
    "NING SMALL WHITE TRIANGLEhWO-WAY LEFT WAY TRAFFICgUP POINTING BACKHAND INDEXsINDEXi-POINTI",
    "NG CHEVRONsSMALL TRIANGLEsTRIANGLE! WITH DOTgVERTICAL BARpELLIPSEpRECTANGLEjY SMALL SQUARE",
    "f-FEATHERED RIGHTWARDS ARROWbIDE-HEADED DOWNWARDS BARB ARROWwHEAVY BARB ARROWwLIGHT BARB A",
    "RROWwMEDIUM BARB ARROWwVERY HEAVY BARB ARROWmLEFTWARDS BARB ARROWwHEAVY BARB ARROWwLIGHT B",
    "ARB ARROWwMEDIUM BARB ARROWwVERY HEAVY BARB ARROWmNORTH EAST BARB ARROWxHEAVY BARB ARROWxL",
    "IGHT BARB ARROWxMEDIUM BARB ARROWxVERY HEAVY BARB ARROWsWEST BARB ARROWxHEAVY BARB ARROWxL",
    "IGHT BARB ARROWxMEDIUM BARB ARROWxVERY HEAVY BARB ARROWmRIGHTWARDS BARB ARROWxHEAVY BARB A",
    "RROWxLIGHT BARB ARROWxMEDIUM BARB ARROWxVERY HEAVY BARB ARROWmSOUTH EAST BARB ARROWxHEAVY ",
    "BARB ARROWxLIGHT BARB ARROWxMEDIUM BARB ARROWxVERY HEAVY BARB ARROWsWEST BARB ARROWxHEAVY ",
    "BARB ARROWxLIGHT BARB ARROWxMEDIUM BARB ARROWxVERY HEAVY BARB ARROWmUPWARDS BARB ARROWuHEA",
    "VY BARB ARROWuLIGHT BARB ARROWuMEDIUM BARB ARROWuVERY HEAVY BARB ARROWcGGLY VERTICAL LINEc",
    "LTED FLOWERcND BLOWING FACEfCHIMEeOWdE GLASSdKING FACEcRED KEYBOARDbJbOLF FACEcMANf WITH B",
    "UNNY EARSfS BOOTShCLOTHEShHAThSANDALdENS SYMBOLcN SIGNcODcRD JOINERfSEPARATOR MIDDLE DOTdL",
    "D MAPdMdRIED FACEbRAPPED PRESENTcEATH PRODUCTdNCHdSTLERScITING HANDaX IN A RECTANGLE BOXb-",
    "RAYbIANGQI BLACK CANNONpHARIOToELEPHANToGENERALoHORSEoMANDARINoSOLDIERiRED CANNONnHARIOTmE",
    "LEPHANTmGENERALmHORSEmMANDARINmSOLDIERbORaYAWNING FACEbELLOW HEARTcN SIGNcZIDI COMBINING H",
    "AMZA MARKrMADDA MARKhHYPHENATION MARKhLETTER BEoCHHIMqIMpIMoDADqLoELIFpTpWpYNoFAoGAFoHAYpH",
    "AoJAoKAFpHAFoLAMr WITH DOT ABOVEoMIMoNUNoOWoPEpHEoQAFoRApHAoSADpEpHINpINoTApHEoUMoVAq ALTE",
    "RNATE FORMoWAWoXApHEYNoYOTr WITH CIRCUMFLEX ABOVEoZAqLpEbI RADICAL BBUTmURlCHEmIPmUOPmYnPn",
    "TlDDURmUlGAmEPmGOPnUOmOTlHMOmXITnOPnUOlJJIEnUTnYmOlKEmITlLInEmYRlMImOPlNBIEmYIPnOPmZUPlOPl",
    "PUTmYTlQOTlSHATnOPnURnYmSIlTATmUlVEPmURlWOlYITmOlZAmOTmUPnRmZIETdSYLLABLE AnPnTnXmBAoPoToX",
    "nBApPpTpXoEpPpXoIpEqPqTqXpPpTpXoOpPpTpXoUpOqPqXpPpRqXpTpXoYpPpTpXnEoPoXnIoEpPpTpXoPoToXnOo",
    "PoToXnUoOpPpXoPoRpXoToXnYoPoRpXoToXmCAoPoToXnEoPoXnHApPpTpXoEpPpTpXoOpPpTpXoUpOqPqTqXpPpRq",
    "XpXoYpPpRqXpTpXnIoEpPpTpXoPoToXnOoPoToXnUoOpPpXoPoRpXoToXnYoPoRpXoToXmDAoPoToXnDApPpTpXoEp",
    "PpXoIpEqPqXpPpTpXoOpPpTpXoUpOqPqXpPpRqXpTpXnEoPoXnIoEpPpXoPoToXnOoPoToXnUoOpXoPoRpXoToXmEn",
    "XmFAoPoToXnIoPoToXnOoPoXnUoPoRpXoToXnYoPoToXmGAoPoToXnEoPoToXnGApPpTpXoEpPpTpXoIpEqPqXpTpX",
    "oOpPpTpXoUpOqPqTqXpPpRqXpTpXnIoEpPpTpXoPoToXnOoPoToXnUoOpPpTpXoPoRpXoToXmHAoPoToXnEoPoXnIE",
    "pXoTnLApPpTpXoEpPpXoIpEqPqXpPpTpXoOpPpXoUpOqPqXpPpRqXpTpXoYpPpRqXpTpXnMApPpTpXoIpEqPqXpPpT",
    "pXoOpPpTpXoUpOqPqXpPpRqXpTpXoYpPpRqXpXnNApPpTpXoEpPpXoIpEqPqTqXpPpTpXoOPpTpXoUOqXpTnOoPoTo",
    "XnUOpPpTpXnXApPpTpXoEpPpXoIpEqPqTqXpPpTpXoOpPpTpXoUOqPqTqXmInEoPoToXnPnToERATION MARKnXmJI",
    "oEpPpTpXoPoToXnJIpEqPqTqXpPpTpXoOpPpTpXoUpOqPqXpPpRqXpTpXoYpPpTpXnOoPoToXnUoOpPpTpXoPoRpXo",
    "ToXnYoPoRpXoToXmKAoPoToXnEoPoToXnIoEpPpXoPoToXnOoPoToXnUoOpPpXoPoRpXoToXmLAoPoToXnEoPoXnIo",
    "EpPpTpXoPoToXnOoPoToXnUoOpPpTpXoPoRpXoToXnYoPoRpXoToXmMAoPoToXnEoXnGApPpTpXoEpPpXoIEqXoOpP",
    "pTpXoUpOqPqXpPpRqXpTpXnIoEpPpXoPoToXnOoPoToXnUoOpPpTpXoPoRpXoToXnYoPoToXmNAoPoXnBApPpTpXoI",
    "pEqPqXpPpTpXoOpPpTpXoUpPpRqXpTpXoYpPpRqXpTpXnDApPpTpXoEpPpXoIpEqXpPpTpXoOpPpTpXoUpPpRqXpTp",
    "XnEoPoXnGApPpTpXoEpPpXoIEqPqXoOpPpTpXoUOqTqXnIoEpPpXoPoToXnJIpEqPqTqXpPpTpXoOpPpTpXoUpOqXp",
    "PpRqXpXoYpPpRqXpTpXnOoPoToXnRApPpTpXoEpPpTpXoOpPpXoUpPpRqXpTpXoYpPpRqXpTpXnUoOpPpXoPoRpXoT",
    "oXnYIpEqPqTqXpPpTpXoOpPpTpXoUpOqPqXpPpTpXnZApPpTpXoEpXoIpEqPqXpPpTpXoOPpXoUpOqXpPpRqXpXoYp",
    "PpRqXpTpXmOnPnTnXmPAoPoToXnIoEpPpXoPoToXnOoPoToXnUoOpPpXoPoRpXoToXnYoPoRpXoToXmQIoEpPpTpXo",
    "PoToXnOoPoToXnUoOpPpTpXoPoRpXoToXnYoPoRpXoToXmRAoPoToXnEoPoXnOoPoToXnRApXoEpPpTpXoOpPpTpXo",
    "UpOqXpPpRqXpTpXoYpPpRqXpTpXnUoOpPpXoPoRpXoToXnYoPoRpXoToXmSAoPoToXnEoPoXnHApPpTpXoEpPpTpXo",
    "OpPpTpXoUpOqPqXpPpRqXpTpXoYpPpRqXpTpXnIoEpPpXoPoToXnOoPoToXnSApPpTpXoEpPpXoIpEqPqXpPpTpXoO",
    "pPpTpXoUpPpTpXoYpPpRqXpTpXnUoOpPpXoPoRpXoToXnYoPoRpXoToXmTAoPoToXnEoPoXnIoEpPpXoPoToXnOoPo",
    "ToXnUoOpPpTpXoPoRpXoToXmUOoPoXmVAoPoToXnEPoXnIoEpPpTpXoPoToXnOoPoToXnUoPoRpXoToXnYoPoRpXoT",
    "oXmWAoPoToXnEoPoXnOoPoXnUoOpPpXmXIoEpPpTpXoPoToXnOoPoToXnUOpXnYoPoRpXoToXmYIoEpPpTpXoPoToX",
    "nOoPoToXnUoOpPpTpXoPoRpXoToXnYoPoRpXoToXmZAoPoToXnEoPoXnHApPpTpXoEpPpTpXoOpPpTpXoUpOqPqXpP",
    "pRqXpTpXoYpPpRqXpTpXnIoEpPpXoPoToXnOoPoToXnUoOpPpXoPoRpXoToXnYoPoRpXoToXnZApPpTpXoEpPpXoIp",
    "EqPqTqXpPpTpXoOpPpXoUpPpRqXpXoYpPpRqXpTpXcN YANGbO-YOaZ NOTATION BAG MEMBERSHIPlDOMAIN ANT",
    "IRESTRICTIONlLEFT BINDING BRACKETqIMAGE BRACKETlRANGE ANTIRESTRICTIONmELATIONAL COMPOSITIO",
    "NmIGHT BINDING BRACKETrIMAGE BRACKETlSCHEMA COMPOSITIONsPIPINGtROJECTIONmPOTlTYPE COLONbAN",
    "ABAZAR SQUARE CLOSING DOUBLE-LINED HEAD MARKzHEAD MARKtUSTER-FINAL LETTER LA?RA?VA?YAzINIT",
    "IAL LETTER RArFINAL CONSONANT MARKrINITIAL DOUBLE-LINED HEAD MARKzHEAD MARKrLETTER -AyAyBA",
    "zHAyCAzHAyDAzDA!HAzHAzZA!HAyGAzHAyHAyJAyKAzHAzSSAyLAyMAyNAzGAzNAzYAyPAzHAyRAySAzHAzSAyTAzH",
    "AzSA!HAzTA!HAyVAyYAyZAzHArMARK DOUBLE SHADwLONG TSHEGwSHADwTSHEGrSIGN ANUSVARAwCANDRA WITH",
    " ORNAMENT%BINDU: WITH ORNAMENTwVIRAMAySARGAsUBJOINERrVOWEL LENGTH MARKxSIGN AI&U%E%I%O&E%R",
    "EVERSED I%U&EbEBRA FACEcRO WIDTH JOINERlNO-BREAK SPACEnN-JOINERlSPACEcUSbIPPER-MOUTH FACEb",
    "NAMENNY COMBINING ATTACHING VERTICAL OMETtLOWER TONAL RANGE INDICATORtMARK BORZAYAyCHASHKA",
    ", POLNAYAzURVED OMETyDEMESTVENNY ZADERZHKAzVOETOCHIEyGORAZDO NIZKO ON LEFT]RIGHT?S KRYZHEM",
    " ON LEFT~EM ON RIGHT.VYSOKOyKACHKAzRYZH& ON LEFTzUPNAYAyLOMKAyMALO POVYSHE ON LEFT[RIGHT>S",
    " KHOKHLOM ON LEFT~OM ON RIGHT[RYZHEM?TRANNOyNIZKO ON LEFT:RIGHT+S KRYZHEM ON LEFT_RIGHTyOB",
    "LACHKOzNzTSECHKAyPODCHASHIE; WITH VERTICAL STROKE$VERTKA!VYSHE ON LEFT<RIGHT.S KHOKHLOM ON",
    " LEFT~ RIGHT<RYZHEM:TRANNOyRAVNO!ZSEKAySKOBAzOROCHYA NOZHKAzREDNE ON LEFT;RIGHTzTRANNO MAL",
    "O POVYSHEyTIKHAYAzOCHKAzSATA ON LEFT:RIGHT+S KRYZHEMyUDARKAyVYSOKO ON LEFT;RIGHT,S KHOKHLO",
    "M ON LEFT~RIGHT;RYZHEMyZADERZHKAzELO!VOKtTONAL RANGE MARK MRACHNO=SVETLO=TRESVETLOjNEUME C",
    "HASHKArELYUSTKApDEMESTVENNY KLYUCHrRBITSAqOUBLE ZAPYATAYAqUDAqVA V CHELNUpFITApGOLUBCHIK B",
    "ORZYzMRACHNYzSVETLYzTIKHY!RESVETLYpKHAMILOqLYUCHqOBYLAqRYUKu TIKHYsZHqUFISMApMECHIKv KLYUC",
    "HENEPOSTOYANNY&POVODNY&VOYwPOVODNYpNEMKApOBLAKOqSOKAu KLYUCHEVAYA NEPOSTOYANNAYA:SVETLAYAw",
    "RYUKOVAYA SVETLAYAvSVETLAYAvTRESVETLAYApPALKArRAKLITrUKqEREVODKAy NEPOSTOYANNAYAqODCHASHIE",
    "rLKULIZMYpREVERSED CHELYUSTKAqOGpSKAMEYTSA DVOECHELNAYA KLYUCHEVAYA?NEPOSTOYANNAYA?PROSTAY",
    "A?SVETLAYAzKLYUCHENEPOSTOYANNAYA.VAYA SVETLAYA>TIKHAYAzMRACHNAYAzSVETLAYAzTIKHAYA!RESVETLA",
    "YAqLOZHITIEy S KRYZHEM$ZAPYATOYzZAKRYTOEqTATYAv NEPOSTOYANNAYAwS DVUMYA ZAPYATYMIyKRYZHEM,",
    " I ZAPYATOYyROGOMyZAPYATOY. I KRYZHEM<PODCHASHIEMwZAKRYTAYA, S ZAPYATOYrOPITSAx S OCHKOMyW",
    "ITH SOROCHYA NOZHKArRELA DVOECHELNAYA; KLYUCHEVAYA,OKRYZHEVAYA.POVODNAYA] KLYUCHEVAYAwGROM",
    "NAYA+ WITH SINGLE ZAPYATAYA!OKRYZHEVAYA> POVODNAYA$POVODNAYA= WITH DOUBLE ZAPYATAYA^SINGLE",
    " ZAPYATAYAwKLYUCHENEPOSTOYANNAYA&POVODNAYAxRYUKOVAYA. GROMNAYA] WITH SINGLE ZAPYATAYA>OKRY",
    "ZHEVAYA~AYA POVODNAYA?POVODNAYA~YA WITH DOUBLE ZAPYATAYA~YA WITH SINGLE ZAPYATAYA:POVODNAY",
    "A:TRYASKAzZHEVAYAwMRACHNOTIKHAYAwNEPOSTOYANNAYAwPOLUPOVODNAYAyVODNAYAxROSTAYAwTIKHAYA PUTN",
    "AYAxRYASOGLASNAYA%POVODNAYA%STRELNAYApVRAKHIYA KLYUCHEVAYA MRACHNAYA=PROSTAYA=SVETLAYA=TRE",
    "SVETLAYAyMRACHNAYAyPROSTAYAySVETLAYAyTRESVETLAYApZANOZHEKrPYATAYAqMEYTSAjPRIZNAK MODIFIER ",
    "DIRECTION FLIP!KRYZH!LEVEL-2.3!ROGbOMBIEbWJcNBSPdJcSP"]

end Text

end PracticeForge
