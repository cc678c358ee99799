/-!
# Text/CharName/FromD — character names starting with D to K

The names of Unicode 14 characters and their aliases that start with D to K, sorted and
front-coded: each entry is one lower-case letter or punctuation mark telling how many leading
characters it shares with the entry before it (`a` none, `b` one, and so on through
`abcdefghijklmnopqrstuvwxyz!$%&+,.:;<=>?@[]^_|~`), then the rest of the name.  The text is cut into pieces of 90 characters.
-/

namespace PracticeForge

namespace Text

/-- The front-coded names starting with D to K, in pieces. -/
def namesFromD : List String := [
    "aDAGGERg KNIFEhWITH LEFT GUARDmRIGHT GUARDcLET SYMBOLcNCERdGOcRK SHADEgUNGLASSEScSH SYMBOL",
    "fWITH LEFT UPTURNeED LOW LINEhOVERLINEhTRIANGLE-HEADED RIGHTWARDS ARROWcTA LINK ESCAPEbC1c",
    "2c3c4cSbEAF PERSONcCIDUOUS TREEeMAL EXPONENT SYMBOLiSEPARATOR KEY SYMBOLdREASE FONT SIZE S",
    "YMBOLcERcGREE CELSIUShFAHRENHEIThSIGNcLdETEdIVERY TRUCKdTA EQUAL TOcNTISTRY SYMBOL LIGHT D",
    "OWN AND HORIZONTAL^ WITH CIRCLE~TH TRIANGLE~TH WAVExUP AND HORIZONTAL[ WITH CIRCLE~ TRIANG",
    "LE~ WAVExVERTICAL AND BOTTOM LEFT_RIGHT=TOP LEFT[RIGHT=WAVE.WITH CIRCLE>TRIANGLEcPARTMENT ",
    "STOREcRELICT HOUSE BUILDINGcSCENDING NODEdERET CAPITAL LETTER AYxBEExCHEExDEExEFyLyMyNzGyR",
    "ySzHyTHyWxGAYxHxJEExKAYxLONG A&H%E%I%O&OxOIyWxPEExSHORT A+H&E&I&O+OxTEEyHEExVEExWUxYEExZEE",
    "yHEEiSMALL LETTER AYvBEEvCHEEvDEEvEFwLwMwNxGwRwSxHwTHwWvGAYvHvJEEvKAYvLONG A$H!E!I!O$OvOIw",
    "WvPEEvSHORT A%H$E$I$O%OvTEEwHEEvVEEvWUvYEEvZEEwHEEfTg ISLANDdKTOP COMPUTERiWINDOWcVANAGARI",
    " ABBREVIATION SIGNmCUTE ACCENTlCARETlDANDAmIGIT EIGHTrFIVEsOURrNINErONErSEVENsIXrTHREEsWOr",
    "ZEROmOUBLE DANDAlGAP FILLERmRAVE ACCENTlHEADSTROKElJAIN OMlLETTER AtAtItUtWtYsBAtBAtHAsCAu",
    "NDRA AzEzOtHAsDAtDAuDAvHAuHAtHAsEsFAsGAtGAtHAuHAtLOTTAL STOPsHAtEAVY YAsItIsJAtHAtJAsKAtHA",
    "uHAsLAtLAuLAsMAuRWARI DDAsNAtGAtNAuNAtYAsOtEtOEsPAtHAsQAsRAtHAtRAsSAtHAuORT AyEyOtSAsTAtHA",
    "tTAuHAsUtEtUuEsVAtOCALIC L$L!R$RsYAtYAsZAtHAlOMlSIGN ANUSVARArVAGRAHAqCANDRABINDU$ AVAGRAH",
    "A%THREE&WO%VIRAMAqDOUBLE CANDRABINDU VIRAMAqHIGH SPACING DOTqINVERTED CANDRABINDUqNUKTAqPU",
    "SHPIKAqSIDDHAMrPACING CANDRABINDUqVIRAMAsSARGAmTRESS SIGN ANUDATTAxUDATTAlVOWEL SIGN AAxIx",
    "UxWxYwCANDRA E&LONG E&OwEwIxIwOxExOEwPRISHTHAMATRA EwSHORT E%OwUxExUyEwVOCALIC L,L+R,RdICE",
    " CONTROL FOURpONEpSTRINGpTHREEqWObIAERESISdMETER SIGNeOND OPERATORiSHAPE WITH A DOT INSIDE",
    "iTARGETiWITH BOTTOM HALF BLACKnLEFT HALF BLACKnRIGHT HALF BLACKnTOP HALF BLACKcE FACE-1j2j",
    "3j4j5j6dSEL LOCOMOTIVEcFFERENCE BETWEENcGIT EIGHTl COMMAmFULL STOPgFIVEk COMMAlFULL STOPhO",
    "URk COMMAlFULL STOPgNINEk COMMAlFULL STOPgONEj COMMAkFULL STOPgSEVENl COMMAmFULL STOPhIXj ",
    "COMMAkFULL STOPgTHREEl COMMAmFULL STOPhWOj COMMAkFULL STOPgZEROk COMMAlFULL STOPdRAM FOR E",
    "ARTHqLY HEAVENuUMANlGREATER YANGuINlHEAVENLY EARTHmUMAN EARTHlLESSER YANGtINcMENSION ORIGI",
    "NcNGBAT CIRCLED SANS-SERIF DIGIT EIGHT:FIVE;OUR:NINE:ONE:SEVEN;IX:THREE;WO:ZERO$NUMBER TEN",
    "iNEGATIVE CIRCLED DIGIT EIGHT,FIVE.OUR,NINE,ONE,SEVEN.IX,THREE.WOzNUMBER TENzSANS-SERIF DI",
    "GIT EIGHT^FIVE_OUR^NINE^ONE^SEVEN_IX^THREE_WO^ZERO=NUMBER TENcRECT CURRENT SYMBOL FORM TWO",
    "hHITcSABLED CARePPOINTED BUT RELIEVED FACEnFACEdCONTINUOUS UNDERLINE SYMBOLdGUISED FACEcTT",
    "O MARKcVES AKURU DIGIT EIGHTsFIVEtOURsNINEsONEsSEVENtIXsTHREEtWOsZEROnOUBLE DANDAmEND OF T",
    "EXT MARKmGAP FILLERmINITIAL RAmLETTER AuAtBAuHAtCAuHAtDAuDAvHAuHAtEtGAuHAtHAtIuItJAtKAuHAt",
    "LAuLAtMAtNAuGAuNAuYAtOtPAuHAtRAtSAuHAuSAtTAuHAuTAtUuUtVAtYAuYAtZAmMEDIAL RAtYAmPREFIXED NA",
    "SAL SIGNmSIGN ANUSVARArCANDRABINDUrHALANTArNUKTAmVIRAMAnOWEL SIGN AAyIxExIyIxOxUyUdIDESeNG",
    " MASKeSION SIGNkLASHjTIMESdORCE SYMBOLcYA LAMPcZZY FACEgSYMBOLbLEbNA DOUBLE HELIXbO NOT LI",
    "TTER SYMBOLcCUMENTi WITH PICTUREoTEXTs AND PICTUREcDOcES NOT CONTAIN AS MEMBERuNORMAL SUBG",
    "ROUP< OR EQUALjDIVIDEp WITH REVERSED NEGATION SLASHjFORCEjPRECEDEq OR EQUALlOVEjSUCCEEDq O",
    "R EQUALcGd FACEdRA ABBREVIATION SIGNgLETTER AoAoIoUnBAoHAnCAoHAnDAoDApHAoHAnEnGAoHAnHAnIoI",
    "nJAoHAnKAoHAnLAnMAnNAoGAoNAoYAnOnPAoHAnRAoRAnSAoHAoSAnTAoHAoTApHAnUoUnVAnYAgSIGN ANUSVARAl",
    "NUKTAlVIRAMAnSARGAgVOWEL SIGN AAsIsUrErIsIrOrUsUrVOCALIC R!RcLLAR SIGNdPHINcMINO TILE HORI",
    "ZONTAL BACKw-00-00$1$2$3$4$5$6y1-00$1$2$3$4$5$6y2-00$1$2$3$4$5$6y3-00$1$2$3$4$5$6y4-00$1$2",
    "$3$4$5$6y5-00$1$2$3$4$5$6y6-00$1$2$3$4$5$6mVERTICAL BACKu-00-00z1z2z3z4z5z6w1-00z1z2z3z4z5",
    "z6w2-00z1z2z3z4z5z6w3-00z1z2z3z4z5z6w4-00z1z2z3z4z5z6w5-00z1z2z3z4z5z6w6-00z1z2z3z4z5z6cNG",
    " SIGNcORcT ABOVEeMINUSeOPERATORePLUSdTED CIRCLEiROSShFENCEhLINE FACEhOBELOShRIGHT-POINTING",
    " ANGLEhSOLIDUSiQUAREhTRANSPOSITION MARKERcUBLE ACUTE ACCENThCIRCLED DIGIT EIGHTvFIVEwOURvN",
    "INEvONEvSEVENwIXvTHREEwWOpNUMBER TENiOLON EQUALiURLY LOOPhDAGGERiOWN TACKhEXCLAMATION MARK",
    "hHIGH-REVERSED-9 QUOTATION MARKiYPHENhINTEGRALlRSECTIONhLEFT ARC GREATER-THAN BRACKETiOGIC",
    "AL ANDpORjW LINEk-9 QUOTATION MARKlREVERSED-9 QUOTATION MARKhNESTED GREATER-THANoLESS-THAN",
    "x WITH UNDERBARhOBLIQUE HYPHENhPLUSiRECEDESjIMEm QUOTATION MARKhQUESTION MARKhRIGHT ARC LE",
    "SS-THAN BRACKEThSOLIDUS OPERATORiQUARE INTERSECTIONoUNIONiTACKED COMMAjROKE NOT SIGNiUBSET",
    "jCCEEDSjPERSETjSPENSION MARKhUNIONiP TACKhVERTICAL BARt DOUBLE LEFT TURNSTILE$RIGHT TURNST",
    "ILEuLEFT TURNSTILEqLINEhWAVY OVERLINEg-ENDED MULTIMAPhLINE EQUAL TO OR GREATER-THANyLESS-T",
    "HANmSLANTED EQUAL TO OR GREATER-THAN.LESS-THANuGREATER-THAN OR EQUAL TOuLESS-THAN OR EQUAL",
    " TOhSTRUCK CAPITAL CwGAMMAwHwNwPxIwQwRwZoITALIC CAPITAL DvSMALL D$E$I$JoN-ARY SUMMATIONoSM",
    "ALL GAMMAuPIgD FEMALE SIGNiMALE SIGNiSYMBOLdGHNUTcVE OF PEACEcWN ARROWHEADfFISH TAILfRIGHT",
    " DIAGONAL ELLIPSISfTACKj WITH CIRCLE BELOWe-POINTING RED TRIANGLEoSMALL RED TRIANGLEoTRIAN",
    "GLE WITH LEFT HALF BLACK%RIGHT HALF BLACKeWARD FACING HOOKu WITH DOTqNOTCHED HOOK% WITH DO",
    "TiS ANCORAlRROWp AND RIGHT ONE EIGHTH BLOCKqFROM BARqLEFTWARDS OF UPWARDS ARROWqTO BARqWIT",
    "H CORNER LEFTWARDSvDOUBLE STROKEvEQUILATERAL ARROWHEADvHORIZONTAL STROKEvLARGE TRIANGLE AR",
    "ROWHEADvMEDIUM TRIANGLE ARROWHEADvNOTCHED TAILvSMALL EQUILATERAL ARROWHEAD$TRIANGLE ARROWH",
    "EADvTIP LEFTWARDSzRIGHTWARDSkBLACK ARROWqCIRCLED WHITE ARROWkCOMPRESSED ARROWkDASHED ARROW",
    "lOUBLE ARROWkFINGER-POST ARROWkHARPOON WITH BARB LEFT BESIDE DOWNWARDS HARPOON WITH BARB R",
    "IGHT[UPWARDS HARPOON WITH BARB RIGHT:FROM BAR:TO BAR.WARDS%RIGHT FROM BAR;TO BAR:WARDSlEAV",
    "Y ARROWqCOMPRESSED ARROWkPAIRED ARROWSkQUADRUPLE ARROWkROCKETkSANS-SERIF ARROWlQUARED ARRO",
    "WkTRIANGLE ARROWHEADs-HEADED ARROW, LEFTWARDS OF UPWARDS TRIANGLE-HEADED ARROW.TO BAR.WITH",
    " BOLD SHAFT>DOUBLE HORIZONTAL STROKE>HEAVY SHAFT>LONG TIP LEFTWARDS~ RIGHTWARDS>MEDIUM SHA",
    "FT>NARROW SHAFT>VERY HEAVY SHAFT!DASHED ARROW!PAIRED ARROWS!ZIGZAG ARROWnPLE ARROWlWO HEAD",
    "ED ARROWn-HEADED ARROW WITH TRIANGLE ARROWHEADSkWHITE ARROWv WITHIN TRIANGLE ARROWHEADkZIG",
    "ZAG ARROWbRACHMA SIGNdFTING POINT RIGHTWARDS ARROWdGONg FACEcESScIVE SLOW SIGNcOMEDARY CAM",
    "ELdOLING FACEdP OF BLOODeLETcUM WITH DRUMSTICKSbUCKcMPLINGcPLOYAN AFFIX ATTACHED E HOOKyI ",
    "HOOKyLEFT-TO-RIGHT SECANTySECANTyTAIL!NGENT, HOOKpHIGH ACUTEuCIRCLEuDOTuGRAVEuLINEvONG GRA",
    "VEuTIGHT ACUTEuVERTICAL% SECANTuWAVEpLEFT HORIZONTAL SECANTqOW ACUTEuRROWtCIRCLEtDOTtGRAVE",
    "tLINEuONG GRAVEtTIGHT ACUTEtVERTICAL$ SECANTtWAVEpMID HORIZONTAL SECANTtVERTICAL SECANTpRI",
    "GHT HORIZONTAL SECANTjDOUBLE MARKjLETTER ArOUqBqDr SrHqErErUqFr NqGr R SqHrLqIrEqJr Mt SsN",
    "t SsSt WITH DOTsWITH DOT!S INSIDE AND ABOVEqKr MsR SrKqLrHrONG IvUqMr Nt SsSsWITH DOTqNr M",
    "t SsSsWITH DOTrASAL AwIwOwUqOrArOHrUrWqPr NrERNIN AMyNqRr SrHrOMANIAN IzUqSr Jt SsKt RsMsN",
    "sPt RsSsTt RsWITH DOT! BELOWrHORT IrLOAN ANwDHwEExHxNwJwONxWwUqTr R SsSrHqUr NrHrIqVrOCALI",
    "C MqWr RrArEIrHrIrOsWqXrWqYEjPUNCTUATION CHINOOK FULL STOPjSIGN O WITH CROSSjTHICK LETTER ",
    "SELECTORbVDaE-MAIL SYMBOLbAGLEcRd OF MAIZEhRICEeWITH HEARING AIDdTHf GLOBE AMERICASnSIA-AU",
    "STRALIAmEUROPE-AFRICAhROUNDcST SYRIAC CROSSbDITORIAL CORONISbGGcYPTIAN HIEROGLYPH A001x2x3",
    "x4x5yAx6yAyBx7x8x9w10x1x2x3x4yAx5x6x7yAx8x9w20x1x2x3x4x5x6x7x8x9w30x1x2yAx3x4x5x6x7x8x9w40",
    "yAx1x2yAx3yAx4x5yAx6x7x8x9w50x1x2x3x4x5x6x7x8x9w60x1x2x3x4x5x6x7x8x9w70vA001y2y3y4y5y6y7zA",
    "zBy8y9x10y1y2y3y4y5y6y7y8y9x20y1y2y3y4y5y6y7y8y9x30y1y2uB001x2x3x4x5yAx6x7x8x9vEGIN SEGMEN",
    "TuC001x2yAyByCx3x4x5x6x7x8x9w10yAx1x2x3x4x5x6x7x8x9w20x1x2x3x4uD001x2x3x4x5x6x7x8yAx9w10x1",
    "x2x3x4x5x6x7x8x9w20x1x2x3x4x5x6x7yAx8x9w30x1yAx2x3x4yAx5x6x7x8x9w40x1x2x3x4x5x6yAx7x8yAx9w",
    "50yAyByCyDyEyFyGyHyIx1x2yAx3x4yAx5x6x7x8x9w60x1x2x3x4x5x6x7yAyByCyDyEyFyGyHuE001x2x3x4x5x6",
    "x7x8yAx9yAw10x1x2x3x4x5x6yAx7yAx8x9w20yAx1x2x3x4x5x6x7x8yAx9w30x1x2x3x4yAx6x7x8vND SEGMENT",
    "uF001yAx2x3x4x5x6x7x8x9w10x1x2x3yAx4x5x6x7x8x9w20x1yAx2x3x4x5x6x7x8x9w30x1yAx2x3x4x5x6x7yA",
    "x8yAx9w40x1x2x3x4x5yAx6yAx7yAx8x9w50x1yAyByCx2x3uG001x2x3x4x5x6yAx7yAyBx8x9w10x1yAx2x3x4x5",
    "x6x7x8x9w20yAx1x2x3x4x5x6yAx7x8x9w30x1x2x3x4x5x6yAx7yAx8x9w40x1x2x3yAx4x5yAx6x7x8x9w50x1x2",
    "x3x4uH001x2x3x4x5x6yAx7x8vORIZONTAL JOINERuI001x2x3x4x5yAx6x7x8x9yAw10yAx1yAx2x3x4x5vNSERT",
    " AT BOTTOM END>START+TOP END;STARTuK001x2x3x4x5x6x7x8uL001x2yAx3x4x5x6yAx7x8uM001yAyBx2x3y",
    "Ax4x5x6x7x8x9w10yAx1x2yAyByCyDyEyFyGyHx3x4x5yAx6yAx7yAx8x9w20x1x2yAx3x4yAx5x6x7x8yAx9w30x1",
    "yAx2x3yAyBx4x5x6x7x8x9w40yAx1x2x3x4uN001x2x3x4x5x6x7x8x9w10x1x2x3x4x5x6x7x8yAyBx9w20x1x2x3",
    "x4x5yAx6x7x8x9w30x1x2x3yAx4yAx5yAx6x7yAx8x9w40x1x2vL001y2y3y4y5zAy6y7y8y9x10y1y2y3y4y5y6y7",
    "zAy8y9x20vU001y2y3y4y5y6y7y8y9x10zAy1zAy2y3y4y5y6y7y8zAy9x20y1y2zAuO001yAx2x3x4x5yAx6yAyBy",
    "CyDyEyFx7x8x9w10yAyByCx1x2x3x4x5x6x7x8x9yAw20yAx1x2x3x4yAx5yAx6x7x8x9yAw30yAx1x2x3yAx4x5x6",
    "yAyByCyDx7x8x9w40x1x2x3x4x5x6x7x8x9w50yAyBx1vVERLAY MIDDLEuP001yAx2x3yAx4x5x6x7x8x9w10x1uQ",
    "001x2x3x4x5x6x7uR001x2yAx3yAyBx4x5x6x7x8x9w10yAx1x2x3x4x5x6yAx7x8x9w20x1x2x3x4x5x6x7x8x9uS",
    "001x2yAx3x4x5x6yAx7x8x9w10x1x2x3x4yAyBx5x6x7yAx8x9w20x1x2x3x4x5x6yAyBx7x8x9w30x1x2x3x4x5yA",
    "x6x7x8x9w40x1x2x3x4x5x6uT001x2x3yAx4x5x6x7yAx8yAx9yAw10x1yAx2x3x4x5x6yAx7x8x9w20x1x2x3x4x5",
    "x6x7x8x9w30x1x2yAx3yAx4x5x6uU001x2x3x4x5x6yAyBx7x8x9w10x1x2x3x4x5x6x7x8x9w20x1x2x3yAx4x5x6",
    "x7x8x9yAw30x1x2yAx3x4x5x6x7x8x9w40x1x2uV001yAyByCyDyEyFyGyHyIx2yAx3x4x5x6x7yAyBx8x9w10x1yA",
    "yByCx2yAyBx3x4x5x6x7x8x9w20yAyByCyDyEyFyGyHyIyJyKyLx1x2x3yAx4x5x6x7x8yAx9yAw30yAx1yAx2x3yA",
    "x4x5x6x7yAx8x9w40yAvERTICAL JOINERuW001x2x3yAx4x5x6x7x8x9yAw10yAx1x2x3x4yAx5x6x7yAx8yAx9w2",
    "0x1x2x3x4yAx5uX001x2x3x4yAyBx5x6yAx7x8yAuY001yAx2x3x4x5x6x7x8uZ001x2yAyByCyDx3yAyBx4yAx5yA",
    "x6x7x8x9w10x1x2x3x4x5yAyByCyDyEyFyGyHyIx6yAyByCyDyEyFyGyHbIGHT PETALLED OUTLINED BLACK FLO",
    "RETTEhOINTED BLACK STARoPINWHEEL STARoRECTILINEAR BLACK STARgSPOKED ASTERISKgTEARDROP-SPOK",
    "ED PROPELLER ASTERISKfH NOTEbJECT SYMBOLbLBASAN LETTER ApBEpCEqHEpDEqHEpEqIpFEpGEqHAMMArEq",
    "JEpHEpIpJEpKEqHEpLEqLEpMEpNAqDEqEqJEpOpPEpQEpREqREpSEqHEpTEqHEpUpVEpXEpYpZEqHEcECTRIC ARRO",
    "WjLIGHT BULBjPLUGjTORCHiAL INTERSECTIONdMENT OFk OPENING DOWNWARDStUPWARDSlWITH DOT ABOVEq",
    "LONG HORIZONTAL STROKEqOVERBARqTWO HORIZONTAL STROKESqUNDERBARqVERTICAL BAR AT END OF HORI",
    "ZONTAL STROKEdPHANTdVATORcFcYMAIC LETTER ALEPHqYINpBETHpDALETHpGIMELpHErTHpKAPHpLAMEDHpMEM",
    "pNUNpPEpQOPHpRESHpSADHErMEKHqHINpTAWqETHpWAWpYODHpZAYINjIGATURE ZAYIN-YODHbM DASHdQUADdSPA",
    "CEcOJI COMPONENT BALDqCURLY HAIRqRED HAIRqWHITE HAIRgMODIFIER FITZPATRICK TYPE-1-2.3.4.5.6",
    "cPHASIS SYMBOLdTY DOCUMENTgNESThOTEk PADnGEgPAGEkSgSETj WITH LEFT ARROW ABOVEpOVERBARpRIGH",
    "T ARROW ABOVEpSMALL CIRCLE ABOVEbN DASHdQUADdSPACEcD OF GUARDED AREAhLINEhMEDIUMhPROOFkTEC",
    "TED AREAhSELECTED AREAhTEXTiRANSMISSIONt BLOCKeWITH LEFTWARDS ARROW ABOVEcQdUIRYcTER SYMBO",
    "LcVELOPEi WITH DOWNWARDS ARROW ABOVEoLIGHTNINGbOLcMcTbPAbQUAL AND PARALLEL TOgTO BY DEFINI",
    "TIONjOR GREATER-THANmLESS-THANmPRECEDESmSUCCEEDSfS COLONhSIGNl ABOVE LEFTWARDS ARROWsPLUS ",
    "SIGNsRIGHTWARDS ARROWsTILDE OPERATORnND SLANTED PARALLEL. WITH TILDE ABOVEmWITH BUMPY ABOV",
    "ErDOT BELOWrINFINITY BELOWrTWO DOTS ABOVE AND TWO DOTS BELOWhWITH ASTERISKdIANGULAR TOeVAL",
    "ENT TOlWITH FOUR DOTS ABOVEbRASE TO THE LEFTnRIGHTcIS FORM ONEkTWOcROR-BARRED BLACK CIRCLE",
    "tDIAMONDtSQUAREnWHITE CIRCLEtDIAMONDtSQUAREbSAcCdAPEcTIMATED SYMBOLiSbTBcHIOPIC COLONlMBIN",
    "ING GEMINATION AND VOWEL LENGTH MARK+MARKtVOWEL LENGTH MARKmMAjDIGIT EIGHTpFIVEqOURpNINEpO",
    "NEpSEVENqIXpTHREEqWOjFULL STOPjNUMBER EIGHTYqFIFTYrORTYqHUNDREDqNINETYqSEVENTYrIXTYqTENt T",
    "HOUSANDrHIRTYrWENTYjPARAGRAPH SEPARATORkREFACE COLONjQUESTION MARKjSECTION MARKlMICOLONkYL",
    "LABLE BAuAtBAvAuEvEuIuOuUtEuEtItOuAtUtWAuEvEuIsCAuAtCAvAuEvEuHAwAvEwEvHAxAwExEwIwOwUvIvOvU",
    "uIuOuUtEuEtHAvAuEvEuIuOvAuUuWAtItOuAtUtWAsDAuAtDAvAuEvEuHAAvEwEvIvOvUuIuOvAuUuWAtEuEtItOuA",
    "tUtWAtZAAuEvEuIuOuUsFAuAtEuEtItOtUtWAuEvEuItYAsGAuAtEuEtGAvAuEvEuIuOuUuWAwAvEwEvItItLOTTAL",
    " A$A!E$E!I!O$A!U!WAtOuAtUuRAGE BWEE$IzFWEE$IzGWE%E$IzHHWAzKWE%E$IzMWEE$IzPWEE$IzQWE%E$ItWA",
    "vAuEvEuItYAvAuEvEuIuOuUsHAuAtEuEtHAvAuEvEuIuOuUuWAvEwEvIuYAwAvEwEvIvOvUtItOuAtUsJAuAtEuEtI",
    "tOuAtUtWAsKAuAtEuEtItOuAtUtWAvAuEvEuItXAvAuEvEuIuOuUuWAwAvEwEvItYAvAuEvEuIuOuUsLAuAtEuEtIt",
    "OuAtUtWAsMAuAtEuEtItOuAtUtWAuEvEuItYAsNAuAtEuEtItOuAtUtWAtYAvAuEvEuIuOvAuUuWAsPAuAtEuEtHAv",
    "AvRYNGEAL A+A&E+E&I&O&UuEvEuIuOvAuUuWAtItOuAtUtWAuEvEuIsQAuAtEuEtHAvAuEvEuIuOuUuWAwAvEwEvI",
    "tItOuAtUtWAvAuEvEuItYAvAuEvEuIuOuUsRAuAtEuEtItOuAtUtWAtYAsSAuAtEuBATBEIT BWA%FWA%MWA%PWAuE",
    "tHAvAuEvEuIuOvAuUuWAtItOuAtSAvAuEvEuIuOuUtUtWAtZAvAuEvEuIuOuUuWAsTAuAtEuEtHAvAuEvEuIuOvAuU",
    "uWAtItOuAtSAvAuEvEuIuOuUuWAtTHAAvEwEvIvOvUtUtWAtZAvAuEvEuIuOvAuUsVAuAtEuEtItOtUtWAsWAuAtEu",
    "EtItOuAtUsXAuAtEuEtItOuAtUtWAvAuEvEuItYAvAuEvEuIuOuUsYAuAtEuEtItOuAtUsZAuAtEuEtHAvAuEvEuIu",
    "OuUuWAtItOuAtUtWAtZAvAuEvEuIuOuUjTONAL MARK CHIRETuDERETz-HIDETvIFATuHIDETuKENATvURTuRIKRI",
    "KuSHORT RIKRIKuYIZETjWORDSPACEcXbULER CONSTANTcRO SIGNe-CURRENCY SIGNePEAN CASTLEjPOST OFF",
    "ICEbVERGREEN TREEbXCESSdLAMATION MARKmQUESTION MARKcPRESSIONLESS FACEcTENDED ARABIC-INDIC ",
    "DIGIT EIGHT%FIVE&OUR%NINE%ONE%SEVEN&IX%THREE&WO%ZEROdRATERRESTRIAL ALIENeEMELY HEAVY FIVE ",
    "SPOKED ASTERISKqGREEK CROSSqSALTIRErIX SPOKED ASTERISKqWHITE CIRCLEwSQUAREbYEdGLASSESdSaFA",
    "CE HOLDING BACK TEARSfMASSAGEfPALMfSAVOURING DELICIOUS FOODgCREAMING IN FEARfTHROWING A KI",
    "SSfWITH COLD SWEATmWBOY HATkDIAGONAL MOUTHkFINGER COVERING CLOSED LIPSkHEAD-BANDAGEkLOOK O",
    "F TRIUMPHkMEDICAL MASKlONOCLEkNO GOOD GESTUREkOK GESTURElNE EYEBROW RAISEDlPEN EYES AND HA",
    "ND OVER MOUTHpMOUTHu AND COLD SWEATvVOMITINGkPARTY HORN AND PARTY HATlEEKING EYElLEADING E",
    "YESkROLLING EYESkSTUCK-OUT TONGUE! AND TIGHTLY-CLOSED EYES,WINKING EYEkTEARS OF JOYlHERMOM",
    "ETERkUNEVEN EYES AND WAVY MOUTHjOUT MOUTHdSIMILE SIGNdTORYcIRYcLAFELdLEN LEAFeING DIAGONAL",
    " CROSSING NORTH EAST ARROW!RISING DIAGONALrIN WHITE CIRCLE IN BLACK SQUAREcMILYcRSI SYMBOL",
    "cTHER CHRISTMAScX ICONeMACHINEbEARFUL FACEdTHERcMALE SIGNdININE ORDINAL INDICATORcNCERcRRI",
    "S WHEELeYbFbIELD HOCKEY STICK AND BALLcGURE DASHhSPACEcLE CABINETfFOLDERfSEPARATORdM FRAME",
    "SfPROJECTORcNITE PART INTEGRALcREe ENGINEgXTINGUISHEReCRACKEReWORK SPARKLERiSdST PLACE MED",
    "ALgQUARTER MOONs SYMBOLtWITH FACEgSTRONG ISOLATEcSHe CAKE WITH SWIRL DESIGNeEYEeING POLE A",
    "ND FISHdTED HAND SIGNcVE DOT MARKjPUNCTUATIONbLAG IN HOLEdMINGOdT SHOEeBREADeNESScEUR-DE-L",
    "ISdXED BICEPScOPPY DISKdRAL HEARTdWERg PLAYING CARDSiUNCTUATION MARKcUSHED FACEcYdING DISC",
    "hENVELOPEhSAUCERbOGdGYcLDERcNDUEcOTePRINTScR ALLdCESdK AND KNIFEo WITH PLATEeED PARAGRAPHO",
    "SeINGdM FEEDdTUNE COOKIEcUNTAINdR BALLOON-SPOKED ASTERISKfCLUB-SPOKED ASTERISKgORNER ARROW",
    "S CIRCLING ANTICLOCKWISEfDOT MARKjPUNCTUATIONfLEAF CLOVERfPOINTED BLACK STARfTEARDROP-SPOK",
    "ED ASTERISKe-PER-EM SPACEeTH ROOTcX FACEbRACTION NUMERATOR ONEjSLASHdME WITH AN XlPICTUREl",
    "TILEScEEZING FACEdNCH FRANC SIGNjIEScIED SHRIMPcOG FACEdNT-FACING BABY CHICKgTILTED SHADOW",
    "ED WHITE RIGHTWARDS ARROWdWNfING FACE WITH OPEN MOUTHbScIbUEL PUMPcLL BLOCKfMOON SYMBOLkWI",
    "TH FACEfOUTER JOINfSTOPeWIDTH AMPERSANDlPOSTROPHElSTERISKkBROKEN BARkCENT SIGNlIRCUMFLEX A",
    "CCENTlOLONmMMAoERCIAL ATkDIGIT EIGHTqFIVErOURqNINEqONEqSEVENrIXqTHREErWOqZEROlOLLAR SIGNkE",
    "QUALS SIGNlXCLAMATION MARKkFULL STOPkGRAVE ACCENTmEATER-THAN SIGNkHYPHEN-MINUSkLATIN CAPIT",
    "AL LETTER A,B,C,D,E,F,G,H,I,J,K,L,M,N,O,P,Q,R,S,T,U,V,W,X,Y,ZqSMALL LETTER A&B&C&D&E&F&G&H",
    "&I&J&K&L&M&N&O&P&Q&R&S&T&U&V&W&X&Y&ZlEFT CURLY BRACKETpPARENTHESISpSQUARE BRACKETpWHITE PA",
    "RENTHESISmSS-THAN SIGNlOW LINEkMACRONkNOT SIGNlUMBER SIGNkPERCENT SIGNlLUS SIGNlOUND SIGNk",
    "QUESTION MARKmOTATION MARKkREVERSE SOLIDUSlIGHT CURLY BRACKETqPARENTHESISqSQUARE BRACKETqW",
    "HITE PARENTHESISkSEMICOLONlOLIDUSkTILDEkVERTICAL LINEkWON SIGNkYEN SIGNcNCTION APPLICATION",
    "dERAL URNcSEbVS1d2d3d4aGAME DIEcRLICbEARe WITH HANDLESjOUT HUBcM STONEdINIcNIEcOMETRIC PRO",
    "PORTIONjALLY EQUAL TOrIVALENT TOdRGIAN CAPITAL LETTER AENzNyBANyCANzHAR!INzILyDONyENyGANzH",
    "ANyHAE!RzEzIEzOEyINyJHANzILyKANzHARyLASyMANyNARyONyPARzHARyQARyRAEySANzHINyTAN!RyUNyVINyWE",
    "yXANyYNyZENzHARjLETTER AENrINrNqBANqCANrHARsINrILqDONqELIFIrNqFIqGANrHANqHAEsRtD SIGNrErIE",
    "rOEqINqJHANrILqKANrHARqLABIAL SIGNsSqMANqNARqONqPARrHARqQARqRAEqSANrHINqTANsRrURNED GANqUN",
    "qVINqWEqXANqYNqZENrHARjMTAVRULI CAPITAL LETTER AEN;IN;N:BAN:CAN;HAR<IN;IL:DON:ELIFI;N:FI:G",
    "AN;HAN:HAE<R=D SIGN;E;IE;OE:IN:JHAN;IL:KAN;HAR:LABIAL SIGN<S:MAN:NAR:ON:PAR;HAR:QAR:RAE:SA",
    "N;HIN:TAN<R;URNED GAN:UN:VIN:WE:XAN:YN:ZEN;HARjPARAGRAPH SEPARATORjSMALL LETTER AENxNwBANw",
    "CANxHARyINxILwDONwENwGANxHANwHAEyRxExIExOEwINwJHANxILwKANxHARwLASwMANwNARwONwPARxHARwQARwR",
    "AEwSANxHINwTANyRwUNwVINwWEwXANwYNwZENxHARcRMAN PENNY SIGNcTA MARKbHOSTbIMEL SYMBOLcRAFFE F",
    "ACEdLeS SYMBOLbLAGOLITIC CAPITAL LETTER AZU!BIG YUS$UKY!CAUDATE CHRIVI$HRIVI!DJERVI$OBRO$Z",
    "ELO!FITA$RITU!GLAGOLI!HERU!I$NITIAL IZHE$OTATED BIG YUS;SMALL YUS$ZHE&ITSA!KAKO!LATINATE M",
    "YSLITE$JUDIJE!MYSLITE!NASHI!ONU$TU!PE$OKOJI!RITSI!SHA%TA+PIC$LOVO$MALL YUS< WITH TAIL$PIDE",
    "RY HA!TROKUTASTI A$SI$VRIDO!UKU!VEDE!YATI$ERI&U%STU$O$U!ZEMLJA$HIVETElSMALL LETTER AZUyBIG",
    " YUSzUKYyCAUDATE CHRIVIzHRIVIyDJERVIzOBROzZELOyFITAzRITUyGLAGOLIyHERUyIzNITIAL IZHEzOTATED",
    " BIG YUS.SMALL YUSzZHE$ITSAyKAKOyLATINATE MYSLITEzJUDIJEyMYSLITEyNASHIyONUzTUyPEzOKOJIyRIT",
    "SIySHA!TA%PICzLOVOzMALL YUS: WITH TAILzPIDERY HAyTROKUTASTI AzSIzVRIDOyUKUyVEDEyYATIzERI$U",
    "!STUzOzUyZEMLJAzHIVETEdSS OF MILKcEICH STARKcOBE WITH MERIDIANSdVESdWING STARbOAL NETdTcGG",
    "LEScLFERcRILLAcTHIC LETTER AHSApIHVUSoBAIRKANoDAGSoEISoFAIHUoGIBAoHAGLpWAIRoIGGWSpUJAoJERo",
    "KUSMAoLAGUSoMANNAoNAUTHSpINE HUNDREDsTYoOTHALoPAIRTHRAoQAIRTHRAoRAIDAoSAUILoTEIWSpHIUTHoUR",
    "USoWINJAbRADUATION CAPdNTHA AU LENGTH MARKiLETTER AqAqIqUpBAqHApCAqHApDAqDArHAqHApEEpGAqHA",
    "pHApIqIpJAqHApKAqHApLAqLApMApNAqGAqNAqYApOOpPAqHApRApSAqHAqSApTAqHAqTArHApUqUpVAqEDIC ANUS",
    "VARAvDOUBLE ANUSVARAqOCALIC LyLxRyRpYAiOMiSIGN ANUSVARAoVAGRAHAnCANDRABINDUoOMBINING ANUSV",
    "ARA ABOVEnNUKTAnPLUTAnVIRAMApSARGAiVOWEL SIGN AAuIuUtEEtIuItOOtUuUtVOCALIC L%L$R%RdPESdVE ",
    "ACCENTcEATER-THAN ABOVE DOUBLE-LINE EQUAL ABOVE LESS-THANtLESS-THAN ABOVE DOUBLE-LINE EQUA",
    "LtRIGHTWARDS ARROWtSIMILAR ABOVE LESS-THAN$OR EQUALuLANTED EQUAL ABOVE LESS-THAN ABOVE SLA",
    "NTED EQUALoND NOT APPROXIMATErSINGLE-LINE NOT EQUAL TOnBESIDE LESS-THANoUT NOT EQUAL TOyIV",
    "ALENT TOnCLOSED BY CURVE% ABOVE SLANTED EQUALnEQUAL TO OR LESS-THANnOR APPROXIMATEqEQUAL T",
    "OtIVALENT TOqLESS-THANqSLANTED EQUAL TO. WITH DOT ABOVE~VE LEFT^INSIDEoVER EQUAL TOrLAPPIN",
    "G LESS-THANnSIGNnWITH CIRCLE INSIDEsDOTsQUESTION MARK ABOVEdEK ACROPHONIC ATTIC FIFTY% STA",
    "TERS&TALENTS+HOUSAND> STATERSzVE$ HUNDRED< STATERS=TALENTS%STATERS%TALENTS&HOUSAND= TALENT",
    "SxONE DRACHMA$HALF%UNDRED STATERS<TALENTS$QUARTER$THOUSAND STATERS=TALENTSxTEN MNAS$STATER",
    "S$TALENTS%HOUSAND STATERSrCARYSTIAN FIVE HUNDREDsYRENAIC TWO DRACHMASrDELPHIC FIVE MNASrEP",
    "IDAUREAN FIVE HUNDRED%TWO, DRACHMASrHERAEUM ONE PLETHRONuMIONIAN FIFTY%ONE%TENrMESSENIAN T",
    "ENrNAXIAN FIVE HUNDREDrSTRATIAN FIFTY MNASrTHESPIAN FIFTY%VE HUNDRED,THOUSAND!ONE& HUNDRED",
    "+THOUSAND!TEN$HIRTY%REE HUNDRED$WOsROEZENIAN FIFTY: ALTERNATE FORM+VE. HUNDRED%TEN, ALTERN",
    "ATE FORMhNO TELEIAhROURA SIGNiTABE SIGNgBETA SYMBOLgCAPITAL DOTTED LUNATE SIGMA SYMBOLoKAI",
    " SYMBOLoLETTER ALPHA! WITH DASIA> AND OXIA~A AND PROSGEGRAMMENI^PERISPOMENI~ISPOMENI AND P",
    "ROSGEGRAMMENI_ROSGEGRAMMENI^VARIA~IA AND PROSGEGRAMMENI.MACRON.OXIA.PROSGEGRAMMENI:SILI> A",
    "ND OXIA~A AND PROSGEGRAMMENI^PERISPOMENI~ISPOMENI AND PROSGEGRAMMENI_ROSGEGRAMMENI^VARIA~I",
    "A AND PROSGEGRAMMENI.TONOS.VARIA:RACHYwRCHAIC SAMPIvBETAvCHIvDELTAvEPSILON% WITH DASIA@ AN",
    "D OXIA|VARIA;OXIA;PSILI@ AND OXIA|VARIA;TONOS;VARIAwTAy WITH DASIA< AND OXIA| AND PROSGEGR",
    "AMMENI[PERISPOMENI~POMENI AND PROSGEGRAMMENI]ROSGEGRAMMENI[VARIA~ AND PROSGEGRAMMENI+OXIA+",
    "PROSGEGRAMMENI,SILI< AND OXIA| AND PROSGEGRAMMENI[PERISPOMENI~POMENI AND PROSGEGRAMMENI]RO",
    "SGEGRAMMENI[VARIA~ AND PROSGEGRAMMENI+TONOS+VARIAvGAMMAvHETAvIOTAz WITH DASIA= AND OXIA]PE",
    "RISPOMENI]VARIA.IALYTIKA,MACRON,OXIA,PSILI= AND OXIA]PERISPOMENI]VARIA,TONOS,VARIA.RACHYvK",
    "APPAvLAMDAvMUvNUvOMEGA! WITH DASIA> AND OXIA~A AND PROSGEGRAMMENI^PERISPOMENI~ISPOMENI AND",
    " PROSGEGRAMMENI_ROSGEGRAMMENI^VARIA~IA AND PROSGEGRAMMENI.OXIA.PROSGEGRAMMENI:SILI> AND OX",
    "IA~A AND PROSGEGRAMMENI^PERISPOMENI~ISPOMENI AND PROSGEGRAMMENI_ROSGEGRAMMENI^VARIA~IA AND",
    " PROSGEGRAMMENI.TONOS.VARIAxICRON% WITH DASIA@ AND OXIA|VARIA;OXIA;PSILI@ AND OXIA|VARIA;T",
    "ONOS;VARIAvPAMPHYLIAN DIGAMMAwHIwIwSIvRHOy WITH DASIAvSANwHOwIGMAvTAUwHETAvUPSILON% WITH D",
    "ASIA@ AND OXIA|PERISPOMENI|VARIA<IALYTIKA;MACRON;OXIA;TONOS;VARIA<RACHYvXIvYOTvZETApUNATE ",
    "SIGMA SYMBOLoREVERSED DOTTED LUNATE SIGMA SYMBOLxLUNATE SIGMA SYMBOLoTHETA SYMBOLgDASIAl A",
    "ND OXIAqPERISPOMENIqVARIAhIALYTIKA AND OXIAuPERISPOMENIuVARIAqTONOShRACHMA SIGNgFIVE OBOLS",
    " SIGNhOUR OBOLS SIGNgGRAMMA SIGNgINDICTION SIGNiSTRUMENTAL NOTATION SYMBOL-1=1=2=3=4=7=8=9",
    "<2=3=4=5=6=7=9<30=2=6=7=8=9<4=0=2=3=5=7=8=9<5=0=1=2=3=4<7<8gKAI SYMBOLiPPA SYMBOLhORONIShY",
    "ATHOS BASE SIGNgLETTER ARCHAIC KOPPAnDIGAMMAnKOPPAnSAMPIoMALL CAPITAL GAMMA$LAMDA$OMEGA$PI",
    "%SI$RHOoTIGMAnYOThITRA SIGNhOWER NUMERAL SIGNhUNATE EPSILON SYMBOLnSIGMA SYMBOLgMETRETES S",
    "IGNhUSICAL LEIMMAgNUMERAL SIGNgOBOL SIGNhNE HALF SIGNt ALTERNATE FORMkQUARTER SIGNhUNKIA S",
    "IGNhXIAgPERISPOMENIhHI SYMBOLhI SYMBOLhROSGEGRAMMENIhSILIl AND OXIAqPERISPOMENIqVARIAgQUES",
    "TION MARKgREVERSED LUNATE EPSILON SYMBOLhHO SYMBOLkWITH STROKE SYMBOLgSINUSOID SIGNhMALL D",
    "OTTED LUNATE SIGMA SYMBOLmLETTER ALPHAy WITH DASIA< AND OXIA| AND YPOGEGRAMMENI[PERISPOMEN",
    "I~POMENI AND YPOGEGRAMMENI[VARIA~ AND YPOGEGRAMMENI[YPOGEGRAMMENI+MACRON+OXIA; AND YPOGEGR",
    "AMMENI+PERISPOMENI] AND YPOGEGRAMMENI,SILI< AND OXIA| AND YPOGEGRAMMENI[PERISPOMENI~POMENI",
    " AND YPOGEGRAMMENI[VARIA~ AND YPOGEGRAMMENI[YPOGEGRAMMENI+TONOS+VARIA< AND YPOGEGRAMMENI,R",
    "ACHY+YPOGEGRAMMENIuRCHAIC KOPPA$SAMPItBETAtCHItDELTAuIGAMMAtEPSILON! WITH DASIA> AND OXIA^",
    "VARIA.OXIA.PSILI> AND OXIA^VARIA.TONOS.VARIAuTAw WITH DASIA: AND OXIA^ AND YPOGEGRAMMENI?P",
    "ERISPOMENI~MENI AND YPOGEGRAMMENI?VARIA_ AND YPOGEGRAMMENI?YPOGEGRAMMENI%OXIA. AND YPOGEGR",
    "AMMENI%PERISPOMENI@ AND YPOGEGRAMMENI&SILI: AND OXIA^ AND YPOGEGRAMMENI?PERISPOMENI~MENI A",
    "ND YPOGEGRAMMENI?VARIA_ AND YPOGEGRAMMENI?YPOGEGRAMMENI%TONOS%VARIA: AND YPOGEGRAMMENI%YPO",
    "GEGRAMMENItFINAL SIGMAtGAMMAtHETAtIOTAx WITH DASIA; AND OXIA@PERISPOMENI@VARIA+IALYTIKA? A",
    "ND OXIA_PERISPOMENI_TONOS_VARIA&MACRON&OXIA&PERISPOMENI+SILI; AND OXIA@PERISPOMENI@VARIA&T",
    "ONOS&VARIA+RACHYtKAPPAuOPPAtLAMDAtMUtNUtOMEGAy WITH DASIA< AND OXIA| AND YPOGEGRAMMENI[PER",
    "ISPOMENI~POMENI AND YPOGEGRAMMENI[VARIA~ AND YPOGEGRAMMENI[YPOGEGRAMMENI+OXIA; AND YPOGEGR",
    "AMMENI+PERISPOMENI] AND YPOGEGRAMMENI,SILI< AND OXIA| AND YPOGEGRAMMENI[PERISPOMENI~POMENI",
    " AND YPOGEGRAMMENI[VARIA~ AND YPOGEGRAMMENI[YPOGEGRAMMENI+TONOS+VARIA< AND YPOGEGRAMMENI+Y",
    "POGEGRAMMENIvICRON! WITH DASIA> AND OXIA^VARIA.OXIA.PSILI> AND OXIA^VARIA.TONOS.VARIAtPAMP",
    "HYLIAN DIGAMMAuHIuIuSItRHOw WITH DASIA%PSILItSAMPIvNuHOuIGMAuTIGMAtTAUuHETAtUPSILON! WITH ",
    "DASIA> AND OXIA^PERISPOMENI^VARIA:IALYTIKA] AND OXIA~ PERISPOMENI~ TONOS~ VARIA.MACRON.OXI",
    "A.PERISPOMENI:SILI> AND OXIA^PERISPOMENI^VARIA.TONOS.VARIA:RACHYtXItZETAmREVERSED DOTTED L",
    "UNATE SIGMA SYMBOLvLUNATE SIGMA SYMBOLhUBSCRIPT SMALL LETTER BETA&CHI&GAMMA&PHI&RHOhYMBOL ",
    "TAU RHOgTALENT SIGNhHETA SYMBOLiREE OBOLS SIGNmQUARTERS SIGNhONOShRYBLION BASE SIGNhWO OBO",
    "LS SIGNkTHIRDS SIGNgUPSILON WITH ACUTE AND HOOK SYMBOLtDIAERESIS AND HOOK SYMBOLtHOOK SYMB",
    "OLgVARIAhOCAL NOTATION SYMBOL-1&0&1&2&3&4&5&6&7&8&9%2&0&1&2&3&4%3%4%5&0&1&2&3&4%6%7%8%9gXE",
    "STES SIGNgYEAR SIGNhPOGEGRAMMENIgZERO SIGNeN APPLEgBOOKgHEARTgSALADcIMACING FACEdNNING CAT",
    " FACE WITH SMILING EYESjFACEn WITH ONE LARGE AND ONE SMALL EYEtSMILING EYESuTAR EYEScOUP M",
    "ARKgSEPARATORdWING HEARTbSbUARANI SIGNeDSMANcIDE DOGdTARcJARATI ABBREVIATION SIGNjDIGIT EI",
    "GHTpFIVEqOURpNINEpONEpSEVENqIXpTHREEqWOpZEROjLETTER ArArIrUqBArHAqCArHAqDArDAsHArHAqEqGArH",
    "AqHAqIrIqJArHAqKArHAqLArLAqMAqNArGArNArYAqOqPArHAqRAqSArHArSAqTArHArTAsHAqUrUqVArOCALIC Lz",
    "LyRzRqYAqZHAjOMjRUPEE SIGNjSIGN ANUSVARApVAGRAHAoCANDRABINDUpIRCLE NUKTA ABOVEoMADDAHoNUKT",
    "AoSHADDApUKUNoTHREE-DOT NUKTA ABOVEpWO-CIRCLE NUKTA ABOVEoVIRAMAqSARGAjVOWEL CANDRA EwOpSI",
    "GN AAvIvUuCANDRA E$OuEuIvIuOuUvUuVOCALIC L&L%R&RcNJALA GONDI DIGIT EIGHTuFIVEvOURuNINEuONE",
    "uSEVENvIXuTHREEvWOuZEROoLETTER AwAwIwUvBAwHAvCAwHAvDAwDAxHAwHAvEEvGAwHAvHAvIwIvJAwHAvKAwHA",
    "vLAwLAvMAvNAwGAvOOvPAwHAvRAvSAvTAwHAwTAxHAvUwUvVAvYAoOMoSIGN ANUSVARAtVISARGAoVIRAMApOWEL ",
    "SIGN AA!I!UzEEzI!IzOOzU!UcRMUKHI ABBREVIATION SIGNkDDAKjDIGIT EIGHTpFIVEqOURpNINEpONEpSEVE",
    "NqIXpTHREEqWOpZEROjEK ONKARjIRIjLETTER ArArIrUqBArHAqCArHAqDArDAsHArHAqEEqFAqGArHAsHAqHAqI",
    "rIqJArHAqKArHAsHAqLArLAqMAqNArGArNArYAqOOqPArHAqRArRAqSArHAqTArHArTAsHAqUrUqVAqYAqZAjSIGN ",
    "ADAK BINDIoBINDIoNUKTAoUDAAToVIRAMAqSARGAoYAKASHjTIPPIjURAjVOWEL SIGN AAvIvUuEEuIvIuOOuUvU",
    "aHADEScIR SPACEeCUTcLFWIDTH BLACK SQUAREkDOWNWARDS ARROWkFORMS LIGHT VERTICALkHANGUL FILLE",
    "RrLETTER AzEyCHIEUCHzIEUCyEzOzUyHIEUHyIzEUNGyKHIEUKHzIYEOK+-SIOSyMIEUMyNIEUN&-CIEUC+HIEUHy",
    "OzEyPHIEUPHzIEUP&-SIOSyRIEUL&-HIEUH+KIYEOK+MIEUM+PHIEUPH,IEUP+SIOS+THIEUTHySIOSzSANGCIEUC&",
    "KIYEOK&PIEUP&SIOS&TIKEUTyTHIEUTHzIKEUTyUyWA!EzE!OzIyYA!EzE!OzIzOzUkIDEOGRAPHIC COMMAwFULL ",
    "STOPkKATAKANA LETTER A!E!HA$E$I$O$U!I!KA$E$I$O$U!MA$E$I$O$U!N$A$E$I$O$U!O!RA$E$I$O$U!SA$E$",
    "I$MALL A.E.I.O.TU.U.YA:O:U$O$U!TA$E$I$O$U!U!WA$O!YA$O$UtMIDDLE DOTtSEMI-VOICED SOUND MARKt",
    "VOICED SOUND MARKs-HIRAGANA PROLONGED SOUND MARKkLEFT CORNER BRACKEToWARDS ARROWkRIGHT COR",
    "NER BRACKETpWARDS ARROWkUPWARDS ARROWkWHITE CIRCLEcMBURGERdMERg AND PICKlSICKLElWRENCHdSAe",
    "TER FACEcND WITH INDEX AND MIDDLE FINGERS CROSSEDqFINGER AND THUMB CROSSEDeBAGgLLeSHAKEdGU",
    "L CHOSEONG CEONGCHIEUMCHIEUCH%IEUC$SIOS%SANGCIEUC.SIOSrHIEUCHx-HIEUHyKHIEUKHtTUEUMCHIEUCHz",
    "IEUCySIOSzSANGCIEUC&SIOSrIEUCv-IEUNGqFILLERqHIEUHv-SIOSqIEUNGv-CHIEUCHxIEUCwHIEUHwKIYEOKwM",
    "IEUMwPANSIOSxHIEUPHxIEUPwRIEULwSIOSwTHIEUTHxIKEUTqKAPYEOUNMIEUMyPHIEUPHzIEUPyRIEULySSANGPI",
    "EUPrHIEUKHrIYEOKw-TIKEUTqMIEUMv-KIYEOKwPIEUPwSIOSwTIKEUTqNIEUNv-CIEUCwHIEUHwKIYEOKwPIEUPwS",
    "IOSwTIKEUTqPANSIOSrHIEUPHx-HIEUHyPIEUPrIEUPv-CHIEUCHxIEUCwHIEUHwKHIEUKHxIYEOKwNIEUNwPHIEUP",
    "HwSIOS!-CIEUC$KIYEOK$PIEUP$THIEUTH%IKEUTxSANGSIOSwTHIEUTHxIKEUTqRIEULv-CIEUCwHIEUHwKAPYEOU",
    "NPIEUPxHIEUKHxIYEOKwMIEUMwNIEUNwPIEUPwSIOSxSANGKIYEOK$PIEUP$TIKEUTwTIKEUTqSIOSu-CHIEUCHwIE",
    "UCvHIEUHvIEUNGvKHIEUKHwIYEOKvMIEUMvNIEUNvPHIEUPHwIEUP!-KIYEOKvRIEULvSSANGSIOSvTHIEUTHwIKEU",
    "TrSANGCIEUC!-HIEUHvHIEUHvIEUNGvKIYEOKvNIEUNvPIEUPvRIEULvSIOSz-PIEUPvTHIEUTHwIKEUTvYEORINHI",
    "EUHqTHIEUTHrIKEUTw-CIEUCxKIYEOKxMIEUMxPIEUPxRIEULxSIOSqYEORINHIEUHsSIEUNGhDOUBLE DOT TONE ",
    "MARKhFILLERhJONGSEONG CHIEUCHsIEUCw-PIEUPxSSANGPIEUPrHIEUHw-MIEUMxNIEUNxPIEUPxRIEULrIEUNGw",
    "-KHIEUKHyIYEOKxSSANGKIYEOKrKAPYEOUNMIEUMzPHIEUPH!IEUPzRIEULsHIEUKHsIYEOKx-CHIEUCHyHIEUHyKH",
    "IEUKHyNIEUNyPIEUPyRIEULySIOS%-KIYEOKrMIEUMw-CHIEUCHyIEUCxHIEUHxKIYEOKxNIEUNxPANSIOSyIEUP%-",
    "SIOSxRIEULxSIOSySANGNIEUN%SIOSrNIEUNw-CHIEUCHyIEUCxHIEUHxKIYEOKxPANSIOSxRIEULxSIOSxTHIEUTH",
    "yIKEUTrPANSIOSy-KAPYEOUNPIEUPzPIEUPsHIEUPHy-PIEUPzSIOSzTHIEUTHsIEUPw-CHIEUCHyIEUCxHIEUHxMI",
    "EUMxPHIEUPHxRIEUL%-PHIEUPHxSIOS$-TIKEUTxTIKEUTrRIEULw-HIEUHxKAPYEOUNPIEUPyHIEUKHyIYEOK&-HI",
    "EUH+SIOSxMIEUM%-HIEUH&KIYEOK&SIOSxNIEUNxPANSIOSyHIEUPHyIEUP%-HIEUH&PHIEUPH&SIOS&TIKEUTxSIO",
    "SySANGKIYEOK%SIOSxTHIEUTHyIKEUT&-HIEUHxYEORINHIEUH;-HIEUHzSIEUNGrSIOSv-CHIEUCHxIEUCwHIEUHw",
    "KAPYEOUNPIEUPxIYEOKwMIEUMwPANSIOSxIEUPwRIEULwTHIEUTHxIKEUTsSANGCIEUCwIEUNGwKIYEOKwMIEUMwNI",
    "EUNwPIEUPwRIEUL$-KHIEUKHwSIOS!-KIYEOK$TIKEUTwTIKEUT%-PIEUPwYESIEUNGrTHIEUTHsIKEUTx-CHIEUCH",
    "zIEUCyKIYEOKyPIEUPyRIEULySIOS%-KIYEOKyTHIEUTHrYEORINHIEUHtSIEUNGz-HIEUH!KHIEUKH$IYEOK!MIEU",
    "M!PANSIOS!SIOS$SANGKIYEOKiUNGSEONG As-EUtOtUsEsRAEAw-AxEyOxIxUrEsOt-EUuOuUsUt-AuEvOvUuOuUr",
    "FILLERrIs-AuRAEAtEUtItOu-ItUtYAv-OvEuEvOuOuUrOs-EuOtOu-ItUtYAvEuEvOsErSSANGARAEArUs-AuEtEO",
    "-EUtI-ItUtYEvOrWAtEsEtOsIrYAt-OuUuYOtEsEtOu-OvUvYAsIt-UsOt-AvEuEOuIuOuYAwEvEOsUt-AvEuEvOuI",
    "uOuUuYEwOhLETTER ApEpRAEAtEoCHIEUCHpIEUCoEpOpUoHIEUHoIpEUNGoKAPYEOUNMIEUMwPHIEUPHxIEUPwSSA",
    "NGPIEUPpHIEUKHpIYEOKu-SIOSoMIEUMt-PANSIOSvIEUPuSIOSoNIEUNt-CIEUCuHIEUHuPANSIOSuSIOSuTIKEUT",
    "oOpEoPANSIOSpHIEUPHpIEUPt-CIEUCuKIYEOKuSIOSy-KIYEOKzTIKEUTuTHIEUTHvIKEUToRIEULt-HIEUHuKIYE",
    "OK!-SIOSuMIEUMuPANSIOSvHIEUPHvIEUPz-SIOSuSIOSuTHIEUTHvIKEUTuYEORINHIEUHoSIOSs-CIEUCtKIYEOK",
    "tNIEUNtPIEUPtTIKEUTpSANGCIEUCtHIEUHtIEUNGtKIYEOKtNIEUNtPIEUPtSIOStTIKEUToTHIEUTHpIKEUToUoW",
    "AqEpEqOpIoYAqEpEqOrRINHIEUHqSIEUNGw-PANSIOSxSIOSpIpOq-IrYAtEpUq-IrYEtOhSINGLE DOT TONE MAR",
    "KeZHOU NUMERAL EIGHTrFIVEsOURrNINErONErSEVENsIXrTENsHIRTYtREEsWENTYtOdIFI ROHINGYA DIGIT E",
    "IGHTwFIVExOURwNINEwONEwSEVENxIXwTHREExWOwZEROqLETTER AxBAxCAxDAyDAxFAxGAxHAxJAxKAyHAyINNA ",
    "WA&YAxLAxMAxNAyGAyYAxPAxRAyRAxSAyHAxTAyTAxVAxWAxYAxZAqMARK NA KHONNAvSAKINqSIGN HARBAHAYvT",
    "AHALAxNAxSSIqVOWEL AwEwIwOwUdUNOO LETTER ApBApDApGApHApIpKApLApMApNAqGApPApRApSApTApUpWApY",
    "AiSIGN PAMUDPODiVOWEL SIGN ItUcPPY PERSON RAISING ONE HANDcRD DISKcTCHING CHICKdRAN LETTER",
    " ALEPHpYNoBETHoDALETH-RESHoGIMELoHEqTHoKAPHoLAMEDHoMEMoNUNoPEoQOPHoSADHEqMEKHpHINoTAWpETHo",
    "WAWoYODHoZAYNhNUMBER FIVEoONEr HUNDREDoTENpWENTYbEADPHONEeSTONEj GRAVEYARD SYMBOLdR-NO-EVI",
    "L MONKEYeT DECORATIONgHANDSgWITH ARROWlRIBBONlTIP ON THE LEFTdVY AMPERSAND ORNAMENThRROW S",
    "HAFT WIDTH ONE$ HALF%THIRDyTWO THIRDShSTERISKgBALLOT XhLACK CURVED DOWNWARDS AND RIGHTWARD",
    "S ARROWtUPWARDS AND RIGHTWARDS ARROWmHEARTl-FEATHERED NORTH EAST ARROWwRIGHTWARDS ARROWwSO",
    "UTH EAST ARROWgCHECK MARKjVRON SNOWFLAKEhIRCLEm WITH CIRCLE INSIDEsSTROKE AND TWO DOTS ABO",
    "VEmD SALTIREhONCAVE-POINTED BLACK RIGHTWARDS ARROWgDASHED TRIANGLE-HEADED RIGHTWARDS ARROW",
    "hIVISION SIGNhOLLAR SIGNiUBLE COMMA QUOTATION MARK ORNAMENTnTURNED COMMA QUOTATION MARK OR",
    "NAMENTiWNWARDS ARROW WITH EQUILATERAL ARROWHEAD$LARGE EQUILATERAL ARROWHEADgEIGHT POINTED ",
    "BLACK STARuPINWHEEL STARuRECTILINEAR BLACK STARmSPOKED ASTERISKmTEARDROP-SPOKED PROPELLER ",
    "ASTERISKhQUALS SIGNhXCLAMATION MARK ORNAMENTxSYMBOLgFIVE POINTED BLACK STARlSPOKED ASTERIS",
    "KhOUR BALLOON-SPOKED ASTERISKgGREEK CROSSgHEART EXCLAMATION MARK ORNAMENThORIZONTAL FILLgI",
    "NTERROBANG ORNAMENTgLARGE CIRCLEiTIN CROSShEFT-POINTING ANGLE BRACKET ORNAMENT!QUOTATION M",
    "ARK ORNAMENTkWARDS ARROW WITH EQUILATERAL ARROWHEAD$LARGE EQUILATERAL ARROWHEADhIGATURE OP",
    "EN ET ORNAMENThOW DOUBLE COMMA QUOTATION MARK ORNAMENTkSINGLE COMMA QUOTATION MARK ORNAMEN",
    "TjER RIGHT-SHADOWED WHITE RIGHTWARDS ARROWgMINUS SIGNhULTIPLICATION XgNORTH EAST ARROWrPOI",
    "NTING BUD!VINE LEAFmWEST POINTING BUD!VINE LEAFgOPEN CENTRE CROSShUTLINED BLACK STARhVAL W",
    "ITH OVAL INSIDEgPLUS SIGNgRIGHT-POINTING ANGLE BRACKET ORNAMENT$QUOTATION MARK ORNAMENTlWA",
    "RDS ARROWw WITH EQUILATERAL ARROWHEAD%LARGE EQUILATERAL ARROWHEADhOUND-TIPPED RIGHTWARDS A",
    "RROWgSALTIREiNS-SERIF INTERROBANG ORNAMENThCRIPT LIGATURE ET ORNAMENThINGLE COMMA QUOTATIO",
    "N MARK ORNAMENTnTURNED COMMA QUOTATION MARK ORNAMENTiX POINTED BLACK STARkSPOKED ASTERISKh",
    "OUTH EAST ARROWrPOINTING BUD!VINE LEAFmWEST POINTING BUD!VINE LEAFhPARKLEgTEARDROP-SHANKED",
    " RIGHTWARDS ARROWqPOKED ASTERISKwPINWHEEL ASTERISKhRIANGLE-HEADED RIGHTWARDS ARROWhWELVE P",
    "OINTED BLACK STARvPINWHEEL STARgUPPER RIGHT-SHADOWED WHITE RIGHTWARDS ARROWiWARDS ARROW WI",
    "TH EQUILATERAL ARROWHEADzLARGE EQUILATERAL ARROWHEADgVERTICAL BARgWEDGE-TAILED RIGHTWARDS ",
    "ARROWhHITE CIRCLEmDOWN-POINTING TRIANGLEmSQUAREhIDE-HEADED RIGHTWARDS ARROWcBREW ACCENT AT",
    "NAH HAFUKHoDARGApEHIoETNAHTAoGERESHu MUQDAMrSHAYIMoILUYoMAHAPAKHpERKHAu KEFULApUNAHoOLEoPA",
    "SHTAqZERoQADMAqRNEY PARAoREVIAoSEGOLpHALSHELEToTELISHA GEDOLAwQETANAqVIRpIPEHAoYERAH BEN Y",
    "OMOqTIVoZAQEF GADOLuQATANqRQApINORhLETTER ALEFs WITH MAPIQyPATAHyQAMATSqTERNATIVE AYIN!PLU",
    "S SIGNpYINoBETr WITH DAGESHxRAFEoDALETt WITH DAGESHoFINAL KAFx WITH DAGESHuMEMuNUNuPEw WIT",
    "H DAGESHuTSADIoGIMELt WITH DAGESHoHEq WITH MAPIQqToKAFr WITH DAGESHxRAFEoLAMEDt WITH DAGES",
    "HoMEMr WITH DAGESHoNUNr WITH DAGESHoPEq WITH DAGESHwRAFEoQOFr WITH DAGESHoRESHs WITH DAGES",
    "HoSAMEKHu WITH DAGESHpHINs WITH DAGESH+ AND SHIN DOT=IN DOTySHIN DOTzIN DOToTAVr WITH DAGE",
    "SHpETr WITH DAGESHpSADIt WITH DAGESHoVAVr WITH DAGESHxHOLAMoWIDE ALEFtDALETtFINAL MEMtHEtK",
    "AFtLAMEDtRESHtTAVoYODr WITH DAGESHxHIRIQoZAYINt WITH DAGESHiIGATURE ALEF LAMEDqYIDDISH DOU",
    "BLE VAV,YODyVAV YODyYOD YOD PATAHhMARK LOWER DOTmMASORA CIRCLEmUPPER DOThPOINT DAGESH OR M",
    "APIQnHATAF PATAHtQAMATStSEGOLoIRIQoOLAMs HASER FOR VAVnJUDEO-SPANISH VARIKAnMETEGnPATAHnQA",
    "MATSt QATANoUBUTSnRAFEnSEGOLoHEVApIN DOToIN DOTnTSEREiUNCTUATION GERESHwSHAYIMtMAQAFtNUN H",
    "AFUKHAtPASEQtSOF PASUQhYOD TRIANGLEcDGEHOGcLICOPTERdLSCHREIBER PAUSE SYMBOLdM SYMBOLeET WI",
    "TH WHITE CROSScNTAIGANA LETTER A-1u2u3uWOsE-1u2u3u4u5u6sHA-1w0w1v2v3v4v5v6v7v8v9tE-1v2v3v4",
    "v5v6v7tI-1v2v3v4v5v6v7tO-1v2v3v4v5v6v7v8tU-1v2v3sI-1u2u3u4sKA-1w0w1v2v3v4v5v6v7v8v9vKEtE-1",
    "v2v3v4v5v6tI-1v2v3v4v5v6v7v8tO-1v2v3vKItU-1v2v3v4v5v6v7sMA-1v2v3v4v5v6v7tE-1v2vMAtI-1v2v3v",
    "4v5v6v7tO-1v2v3v4v5v6tU-1v2v3v4sN-MU-MO-1!2tA-1v2v3v4v5v6v7v8v9tE-1v2v3v4v5v6vKOtI-1v2v3v4",
    "v5v6v7vTEtO-1v2v3v4v5tU-1v2v3sO-1u2u3sRA-1v2v3v4tE-1v2v3v4tI-1v2v3v4v5v6v7tO-1v2v3v4v5v6tU",
    "-1v2v3v4v5v6sSA-1v2v3v4v5v6v7v8tE-1v2v3v4v5tI-1v2v3v4v5v6tO-1v2v3v4v5v6v7tU-1v2v3v4v5v6v7v",
    "8sTA-1v2v3v4tE-1v2v3v4v5v6v7v8v9tI-1v2v3v4v5v6v7tO-1v2v3v4v5v6vRAtU-1v2v3v4vTOsU-1u2u3u4u5",
    "sWA-1v2v3v4v5tE-1v2v3v4tI-1v2v3v4v5tO-1v2v3v4v5v6v7sYA-1v2v3v4v5vYOtO-1v2v3v4v5v6tU-1v2v3v",
    "4cRBdMITIAN CONJUGATE MATRIXcXAGRAM FOR ABUNDANCEoFTER COMPLETIONoPPROACHnBEFORE COMPLETIO",
    "NoITING THROUGHoREAKTHROUGHnCOMING TO MEETpNFLICTqTEMPLATIONnDARKENING OF THE LIGHToECREAS",
    "EpLIVERANCEpVELOPMENToIFFICULTY AT THE BEGINNINGpSPERSIONoURATIONnENTHUSIASMnFELLOWSHIPoOL",
    "LOWINGnGATHERING TOGETHERoRACEpEAT POSSESSIONvWERuREPONDERANCEtTAMINGnHOLDING TOGETHERnINC",
    "REASEpFLUENCEpNER TRUTHqOCENCEnLIMITATIONnMODESTYpUTH CORNERSnOBSTRUCTIONoPPOSITIONqRESSIO",
    "NnPEACEoROGRESSoUSHING UPWARDnRETREATqURNpVOLUTIONnSMALL PREPONDERANCEtTAMINGoPLITTING APA",
    "RToTANDSTILLnTHE ABYSMAL WATERsRMYtOUSING THUNDERrCAULDRONsLINGING FIREsREATIVE HEAVENrFAM",
    "ILYrGENTLE WINDrJOYOUS LAKErKEEPING STILL MOUNTAINrMARRYING MAIDENrRECEPTIVE EARTHrWANDERE",
    "RsELLoREADINGnWAITINGoORK ON THE DECAYEDnYOUTHFUL FOLLYbIBISCUScGH BRIGHTNESS SYMBOLfOCTET",
    " PRESETfVOLTAGE SIGNe-HEELED SHOEfSPEED TRAINq WITH BULLET NOSEcKING BOOTcNDU TEMPLEcPPOPO",
    "TAMUScRAGANA DIGRAPH YORIjITERATION MARKjLETTER ArRCHAIC WUyYEqBArErIrOrUqDArErIrOrUqEqGAr",
    "ErIrOrUqHArErIrOrUqIqKArErIrOrUqMArErIrOrUqNrArErIrOrUqOqPArErIrOrUqRArErIrOrUqSArErIrMALL",
    " AwEwIwKAxEwOwTUwUwWAxExIxOwYAxOxUrOrUqTArErIrOrUqUqVUqWArErIrOqYArOrUqZArErIrOrUjVOICED I",
    "TERATION MARKcSTORIC SITEbOCHOcLEdLOW QUILT SQUARE ORNAMENT% IN BLACK SQUAREcMOTHETICcNEY ",
    "POTfBEEcOKcPcRIZONTAL BARmLACK HEXAGONrOCTAGONlELLIPSISlLINE EXTENSIONlMALE WITH STROKE SI",
    "GNlONE EIGHTH BLOCK-1358%2%3%4%5%6%7lSCAN LINE-1v3v7v9lTAB KEYoULATIONv SETwWITH JUSTIFICA",
    "TIONmRAFFIC LIGHTdSEf FACEgRACINGcSPITALcT BEVERAGEeDOGePEPPEReSPRINGSdELcURGLASSj WITH FL",
    "OWING SANDdSEf BUILDINGoSgWITH GARDENbRYVNIA SIGNbTcJcSbUGGING FACEcNDRED POINTS SYMBOLcSH",
    "ED FACEcTbYGIEAcPHENg BULLEThWITH DIAERESISg-MINUSgATION POINTdODIASTOLEcSTERESIS SYMBOLaI",
    " LOVE YOU HAND SIGNbCE CREAMfUBEeHOCKEY STICK AND PUCKeSKATEbDENTICAL TOm AND SLANTED PARA",
    "LLELkWITH DOT ABOVEgFICATION CARDdOGRAPHIC ANNOTATION BOTTOM MARKxEARTH MARKxFIRST MARKyOU",
    "R MARK$TH MARKxHEAVEN MARKxLINKING MARKxMAN MARKyIDDLE MARKxONE MARKxREVERSE MARKxSECOND M",
    "ARKxTHIRD MARKzREE MARKyOP MARKyWO MARKmCLOSING MARKnOMMAmDEPARTING TONE MARKoSCRIPTION CH",
    "ARACTER ABOVE TO BELOW_MIDDLE AND BELOW;FULL SURROUND;LEFT TO MIDDLE AND RIGHT^RIGHT;OVERL",
    "AID;SURROUND FROM ABOVE~OM BELOW~OM LEFT~OM LOWER LEFT~OM UPPER LEFT~OM UPPER RIGHTmENTERI",
    "NG TONE MARKmFULL STOPmHALF FILL SPACEmITERATION MARKmLEVEL TONE MARKmNUMBER ZEROmRISING T",
    "ONE MARKmSPACEmTALLY MARK FIVEyOURxONExTHREEyWOnELEGRAPH LINE FEED SEPARATOR SYMBOLwSYMBOL",
    " FOR APRIL;UGUST:DAY EIGHT^EEN?LEVEN>FIFTEEN@VE?OUR]TEEN>NINE]TEEN>ONE>SEVEN^TEEN?IX[TEEN>",
    "TEN?HIRTEEN^Y_-ONE@REE?WELVE[NTY_-EIGHT|FIVE~OUR|NINE|ONE|SEVEN~IX|THREE~WO@O;ECEMBER:FEBR",
    "UARY:HOUR EIGHT_EEN@LEVEN?FIFTEEN[VE@OUR^TEEN?NINE^TEEN?ONE?SEVEN_TEEN@IX]TEEN?TEN@HIRTEEN",
    "[REE@WELVE]NTY|-FOUR~ONE~THREE~TWO[O?ZERO:JANUARY;ULY<NE:MARCH<Y:NOVEMBER:OCTOBER:SEPTEMBE",
    "RmVARIATION INDICATORbMAGE OFi OR APPROXIMATELY EQUAL TOcPdERIAL ARAMAIC LETTER ALEPHzYINy",
    "BETHyDALETHyGIMELyHE!THyKAPHyLAMEDHyMEMyNUNyPEyQOPHyRESHySADHE!MEKHzHINyTAWzETHyWAWyYODHyZ",
    "AYINrNUMBER ONE$ HUNDRED%THOUSANDyTEN$ THOUSANDzHREEzWENTY!OrSECTION SIGNbNBOX TRAYcCOMING",
    " ENVELOPEfPLETE INFINITYdREASE FONT SIZE SYMBOLiS ASfMENTcDdEXf POINTING AT THE VIEWERdIAN",
    " RUPEE SIGNeC SIYAQ ALTERNATE LAKH MARKmFRACTION ONE HALFzQUARTERvTHREE QUARTERSmLAKH MARK",
    "mNUMBER ALTERNATE ONE&TEN THOUSAND+WOtEIGHTy HUNDREDzTHOUSANDyYz THOUSANDtFIFTYy THOUSANDv",
    "VEx HUNDREDyTHOUSANDuORTYy THOUSANDvURx HUNDREDyTHOUSANDtKARORyANtLAKHxANtNINEx HUNDREDyTH",
    "OUSANDxTYz THOUSANDtONEw HUNDREDxTHOUSANDtPREFIXED EIGHT%FIVE&OUR%NINE%ONE%SEVEN&IX%THREE&",
    "WOtSEVENy HUNDREDzTHOUSANDyTY! THOUSANDuIXw HUNDREDxTHOUSANDwTYy THOUSANDtTENw THOUSANDuHI",
    "RTYz THOUSANDvREEy HUNDREDzTHOUSANDuWENTYz THOUSANDvOw HUNDREDxTHOUSANDmPLACEHOLDERmRUPEE ",
    "MARKcFINITYi NEGATED WITH VERTICAL BARdORMATION DESK PERSONmSEPARATOR FOURwONEwTHREExWOnOU",
    "RCEcHIBIT ARABIC FORM SHAPINGiSYMMETRIC SWAPPINGcPUT SYMBOL FOR LATIN CAPITAL LETTERSxLETT",
    "ERSxSMALL LETTERSrNUMBERSrSYMBOLScSCRIPTIONAL PAHLAVI LETTER ALEPH&BETH&DALETH&GIMEL&HE,TH",
    "&KAPH&LAMEDH&MEM-QOPH&NUN&PE&SADHE,MEKH+HIN&TAW+ETH&WAW-AYIN-RESH&YODH&ZAYINwNUMBER FOUR&O",
    "NE. HUNDRED:THOUSAND&TEN+HREE+WENTY,OqRTHIAN LETTER ALEPH,YIN+BETH+DALETH+GIMEL+HE.TH+KAPH",
    "+LAMEDH+MEM+NUN+PE+QOPH+RESH+SADHE.MEKH,HIN+TAW,ETH+WAW+YODH+ZAYINxNUMBER FOUR+ONE: HUNDRE",
    "D;THOUSAND+TEN,HREE,WENTY.OdERTION SYMBOLcTEGRALi AROUND A POINT OPERATORkVERAGE WITH SLAS",
    "HjEXTENSIONjWITH DOUBLE STROKEoINTERSECTIONoLEFTWARDS ARROW WITH HOOKoOVERBARoTIMES SIGNoU",
    "NDERBARqIONeRCALATEfIOR PRODUCTfLINEAR ANNOTATION ANCHORxSEPARATORxTERMINATORgOCKED FEMALE",
    " AND MALE SIGNfROBANGfSECTIONm ABOVE BAR ABOVE UNIONtUNIONnBESIDE AND JOINED WITH INTERSEC",
    "TIONnWITH DOTsLOGICAL ANDsOVERBARcVERSE BULLETiCHECK MARKnER BOARD FILLiDOWNWARDS ARROW WI",
    "TH TIP LEFTWARDSiMEDIUM SHADEiWHITE CIRCLEfTED EXCLAMATION MARKjINTERROBANGjLAZY SkOW KAVY",
    "KAt WITH KAVYKA ABOVEjOHM SIGNjPENTAGRAMjQUESTION MARKjUNDERTIEdISIBLE PLUSkSEPARATORkTIME",
    "SbZAKAYA LANTERNaJACK-O-LANTERNcPANESE BANK SYMBOLjCASTLEjDOLLSjGOBLINjINDUSTRIAL STANDARD",
    " SYMBOLjOGREjPOST OFFICEjSYMBOL FOR BEGINNERcRcVANESE CONSONANT SIGN CAKRAyKERETyPENGKALjD",
    "IGIT EIGHTpFIVEqOURpNINEpONEpSEVENqIXpTHREEqWOpZEROjLEFT RERENGGANlTTER ArIqBAs MURDAqCAs ",
    "MURDAqDAs MAHAPRANArDAt MAHAPRANAqEqGAs MURDAqHAqIr KAWIrIqJAs MAHAPRANAqKAs MURDAtSASAKqL",
    "AqMAqNAs MURDArGAt LELETz RASWADIrYAt MURDAqOqPAs CEREKtMURDAqRAs AGUNGqSAs MAHAPRANAuURDA",
    "qTAs MURDArTAt MAHAPRANAqUqWAqYAjPADA ADEGs ADEGpNDAPoISEN-ISENoLINGSApUHURqNGSIoMADYAoPAN",
    "GKATpISELEHoTIRTA TUMETESoWINDUlNGKONnRANGKEPjRIGHT RERENGGANjSIGN CECAKt TELUoLAYARoPANYA",
    "NGGAoWIGNYANjTURNED PADA PISELEHjVOWEL SIGN DIRGA MUREuPEPETuSUKUy MENDUTuTALINGwRUNGvOLON",
    "GuWULUy MELIKbEANSbIGSAW PUZZLE PIECEbOINcYSTICKbUGGLINGcNOcPITERaKAABAcITHI ABBREVIATION ",
    "SIGNhDANDAiOUBLE DANDAoSECTION MARKhENUMERATION SIGNhLETTER ApApIpUoBApHAoCApHAoDApDAqDHAq",
    "HApHAoEoGApHAoHAoIpIoJApHAoKApHAoLAoMAoNApGApNApYAoOoPApHAoRApHAoSApHApSAoTApHApTAqHAoUpUo",
    "VAoYAhNUMBER SIGNs ABOVEhSECTION MARKiIGN ANUSVARAmCANDRABINDUmNUKTAmVIRAMAoSARGAhVOWEL SI",
    "GN AAtItUsEsItIsOsUtUsVOCALIC RcNGAROOeXI RADICAL AGAINqNDqRRIVEsOWqXEpBADGERrMBOOqEANqIGr",
    "RDrTTERqLACKrOODrUEqOATrDYrLT OF CLOTHrNErWqRANCHrISTLErUSHpCARTrULDRONrVEqHILDqITYqLANsWr",
    "IFFrOTHESqOLORrMPARErRPSErVERrWpDEATHrERqIPPERrSHsTINGUISHrVINATIONqO NOTrGrORrTsTED CLIFF",
    "wTENTrUBLE XrWN BOXqRAGONrUMrYpEARsTHrTqIGHTqMBROIDERYqNCLOSURErTERqVENtINGqYEpFACErNGrTHE",
    "RqEATHERqIELDrGHTrRErSHqLUTErYqOOTqRAGRANTrOGqURpGATEqHOSTqOr SLOWLYrLDqRAINsSSpHAIRrLBERD",
    "sF TREE TRUNKrNDqEADsRTrMPqIDING ENCLOSUREqOOKrRNsSEpICEqNCHrSECTpJADErRpKNIFEpLACKrMEqEAF",
    "sTHERrEKrGSqIDrFErNEqONGt STRIDEpMANqEATrLONqILLETrNISTERqOONrRNINGsTARrUNDtTAINsTHpNETqOS",
    "ErTpOLDqNEsSELFqPEN BOXrPOSEpPIGqLOWqOWERqRIVATErOFOUNDpRAINrPrTqEDqICErGHT OPEN BOXrVERqO",
    "OFqUNpSACRIFICIAL WINErLTrYqCHOLARrRIPTqEALrCONDrErLFqHEEPsLLrOOTsRT TAILED BIRDwHREADqICK",
    "NESSrLKqKINqLASHsVErICEqMALLqNOUTqOUNDqPEARsECHrIRITrOONrROUTqQUAREqTANDrEAMsPrONEsPtPINGq",
    "UNqWEETpTABLErLLrNNED LEATHERqENqIGERrLEqONGUErOTHqRACKrEErIPODqURBANsTLEqWOs HANDSpUSEpVA",
    "LLEYqILLAGEpWALKt ENCLOSURErTERqEAPONrSTqHEATrITEqINDsEqOMANrRKqRAPrONGpYELLOWdNADA AI LEN",
    "GTH MARKiDIGIT EIGHToFIVEpOURoNINEoONEoSEVENpIXoTHREEpWOoZEROiLENGTH MARKkTTER AqAqIqUpBAq",
    "HApCAqHApDAqDArHAqHApEqEpFApGAqHApHApIqIpJAqHApKAqHApLAqLArLApMApNArKAARA POLLUqGAqNAqYApO",
    "qOpPAqHApRAqRApSAqHAqSApTAqHAqTArHApUqUpVAqOCALIC LyLxRyRpYAiSIGN ANUSVARAoVAGRAHAnCANDRAB",
    "INDUnJIHVAMULIYAnNUKTAnSIDDHAMoPACING CANDRABINDUnUPADHMANIYAnVIRAMApSARGAiVOWEL SIGN AAuI",
    "uUtEuEtIuItOuOtUuUtVOCALIC L%L$R%RcTAKANA DIGRAPH KOTOjITERATION MARKjLETTER ArRCHAIC EyWU",
    "yYEzIqBArErIrOrUqDArErIrOrUqEqGArErIrOrUqHArErIrOrUqIqKArErIrOrUqMArErIsNNAN NASALIZED TON",
    "E-1?2?3?4?5?7?8xTONE-2%3%4%5%7%8rOrUqNrArErIrOrUqOqPArErIrOrUqRArErIrOrUqSArErIrMALL AwEwH",
    "AxExIxOxUwIwKAxExUwMUwNxUwOwRAxExIxOxUwSIxUwTOxUwUwWAxExIxOwYAxOxUrOrUqTArErIrOrUqUqVArErI",
    "rOrUqWArErIrOqYArOrUqZArErIrOrUjMIDDLE DOTjVOICED ITERATION MARKi-HIRAGANA DOUBLE HYPHENsP",
    "ROLONGED SOUND MARKsSEMI-VOICED SOUND MARKsVOICED SOUND MARKcYAH LI DIGIT EIGHTpFIVEqOURpN",
    "INEpONEpSEVENqIXpTHREEqWOpZEROjLETTER AqBAqCAqDAqGAqHArTAqIqKArHAqLAqMAqNArGArYAqOErOqPArH",
    "AqRAqSArHAqTArHAqVAqWAqYAqZAjSIGN CWIoSHYAjTONE CALYAt PLOPHUoPLOPHUjVOWEL EqEpOpUqEbELVIN",
    " SIGNcYdBOARDi AND MOUSEdCAP TENbHAROSHTHI DIGIT FOURrONErTHREEsWOlFRACTION ONE HALFlLETTE",
    "R AsBAtHAsCAtHAsDAtDAuHAtHAsGAtHAsHAsJAsKAtHAtKAsLAsMAsNAtNAtYAsPAtHAsRAsSAtHAtSAsTAtHAtTA",
    "uHAuTAvHAsVAtHAsYAsZAlNUMBER ONE HUNDREDwTHOUSANDsTENtWENTYlPUNCTUATION CIRCLEyRESCENT BAR",
    "xDANDAyOTzUBLE DANDAxLINESyOTUSxMANGALAMxSMALL CIRCLElSIGN ANUSVARAqBAR ABOVEqCAUDAqDOT BE",
    "LOWsUBLE RING BELOWqVISARGAlVIRAMAmOWEL LENGTH MARKrSIGN EwIwOwUwVOCALIC RcITAN SMALL SCRI",
    "PT CHARACTER-18B00;1;2;3;4;5;6;7;8;9;A;B;C;D;E;F:10;1;2;3;4;5;6;7;8;9;A;B;C;D;E;F:20;1;2;3",
    ";4;5;6;7;8;9;A;B;C;D;E;F:30;1;2;3;4;5;6;7;8;9;A;B;C;D;E;F:40;1;2;3;4;5;6;7;8;9;A;B;C;D;E;F",
    ":50;1;2;3;4;5;6;7;8;9;A;B;C;D;E;F:60;1;2;3;4;5;6;7;8;9;A;B;C;D;E;F:70;1;2;3;4;5;6;7;8;9;A;",
    "B;C;D;E;F:80;1;2;3;4;5;6;7;8;9;A;B;C;D;E;F:90;1;2;3;4;5;6;7;8;9;A;B;C;D;E;F:A0;1;2;3;4;5;6",
    ";7;8;9;A;B;C;D;E;F:B0;1;2;3;4;5;6;7;8;9;A;B;C;D;E;F:C0;1;2;3;4;5;6;7;8;9;A;B;C;D;E;F:D0;1;",
    "2;3;4;5;6;7;8;9;A;B;C;D;E;F:E0;1;2;3;4;5;6;7;8;9;A;B;C;D;E;F:F0;1;2;3;4;5;6;7;8;9;A;B;C;D;",
    "E;F.C00;1;2;3;4;5;6;7;8;9;A;B;C;D;E;F:10;1;2;3;4;5;6;7;8;9;A;B;C;D;E;F:20;1;2;3;4;5;6;7;8;",
    "9;A;B;C;D;E;F:30;1;2;3;4;5;6;7;8;9;A;B;C;D;E;F:40;1;2;3;4;5;6;7;8;9;A;B;C;D;E;F:50;1;2;3;4",
    ";5;6;7;8;9;A;B;C;D;E;F:60;1;2;3;4;5;6;7;8;9;A;B;C;D;E;F:70;1;2;3;4;5;6;7;8;9;A;B;C;D;E;F:8",
    "0;1;2;3;4;5;6;7;8;9;A;B;C;D;E;F:90;1;2;3;4;5;6;7;8;9;A;B;C;D;E;F:A0;1;2;3;4;5;6;7;8;9;A;B;",
    "C;D;E;F:B0;1;2;3;4;5;6;7;8;9;A;B;C;D;E;F:C0;1;2;3;4;5;6;7;8;9;A;B;C;D;E;F:D0;1;2;3;4;5uFIL",
    "LERcMER CURRENCY SYMBOL RIELgDIGIT EIGHTmFIVEnOURmNINEmONEmSEVENnIXmTHREEnWOmZEROgINDEPEND",
    "ENT VOWEL LY!YyQAA!I!Q!UzEzI!IzOO TYPE ONE:TWOzU!K!U$VyRY!YgLETTER BAnCAoHApOoOnDAoOnHAnKA",
    "oHApOoOnLAoOnMOnNGOoNOoOoYOnPHApOoOnQAnROnSAoHAoSOnTAoHApOoOoTHAqOnVOnYOgSIGN AHSDAmTTHACA",
    "NmVAKRAHASANYAlBANTOCnRIYOOSANnTHAMASATmEYYALlCAMNUC PII KUUHmOENGlKAKABATmHANmOOMUUTlLEK ",
    "TOOlMUUSIKATOANlNIKAHITlPHNAEK MUANlREAHMUKmOBATlSAMYOK SANNYAlTOANDAKHIATmRIISAPlVIRIAMlY",
    "UUKALEAPINTUhYMBOL BEI KOETrROCoUON KOETsROCnDAP KOETrROCq-BEI KOETvROCsUON KOETwROCrMUOY ",
    "KOETwROCrPII KOETvROCsRAM KOETwROCnLEK ATTAK BEIyUONxMUOYxPIIyRAM$-BEI&UON%MUOY%PIIxSONnMU",
    "OY KOETsROCnPATHAMASAToII KOETrROCoRAM KOETsROCr-BEI KOETwROCtUON KOETxROCsMUOY KOETxROCsP",
    "II KOETwROCnTUTEYASATgVOWEL INHERENT AAwQmSIGN AAsEsIsUrErIsEsIrOEsOrUsAsUrYsAsYcOJKI ABBR",
    "EVIATION SIGNhDANDAiOUBLE DANDAoSECTION MARKhLETTER ApApIpUoBApBApHAoCApHAoDApDAqDAqHApHAo",
    "EoGApGApHAoHAoIoJApJAoKApHAoLApLAoMAoNApGApNApYAoOoPApHAoRAoSAoTApHApTAqHAoUoVAoYAhSECTION",
    " MARKiIGN ANUSVARAmNUKTAmSHADDAnUKUNmVIRAMAhVOWEL SIGN AAtItUsEsItIsOsUhWORD SEPARATORcUDA",
    "WADI DIGIT EIGHTqFIVErOURqNINEqONEqSEVENrIXqTHREErWOqZEROkLETTER AsAsIsUrBAsBAsHArCAsHArDA",
    "sDAtDAtHAsHArErGAsGAsHArHArIsIrJAsHAsJArKAsHArLArMArNAsGAsNAsYArOrPAsHArRAsRArSAsHArTAsHAs",
    "TAtHArUsUrVArYAkSIGN ANUSVARApNUKTApVIRAMAkVOWEL SIGN AAwIwUvEvIwIvOvUwUbIMONOcP SIGNcSSe ",
    "MARKeING CAT FACE WITH CLOSED EYESiFACEm WITH CLOSED EYESsSMILING EYEScTEcWIFRUITbNEELING ",
    "PERSONcOTbOALAcREAN STANDARD SYMBOLbRONOS"]

end Text

end PracticeForge
