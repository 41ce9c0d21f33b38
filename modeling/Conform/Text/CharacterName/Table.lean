/-!
# The table of character names

The names of the code points of Unicode 14 that follow no rule, and their aliases, in a short form.
A name is a row of words of capital letters, digits and hyphens.

* `words` holds the frequent words in alphabetical order. Each is a small letter, which counts from
  `a` how many letters it shares with the word before it, and the letters that follow.
* `entries` and `aliases` hold names in the order of their code points. Each is a small letter from
  `a` to `l`, which counts from `a` how many words it shares with the name before it, and the words
  that follow: two signs for a frequent word, the letters themselves for another. A dot stands
  between two words that are spelled. A code point that does not follow the one before it is given
  by the hexadecimal distance between two tildes in front of the words.

All three are cut into lines without regard to their parts.

## Main definitions

- `CharacterName.words` — the frequent words
- `CharacterName.firstSigns`, `CharacterName.secondSigns` — the signs that number them
- `CharacterName.entries`, `CharacterName.aliases` — names and aliases
-/

namespace Conform.CharacterName

/-- The first sign of a frequent word. -/
def firstSigns : String := "mnopqrstuvwxyz!$%&*+,:;=?^_|"

/-- The second sign of a frequent word. -/
def secondSigns : String :=
  "ABCDEFGHIJKLMNOPQRSTUVWXYZ0123456789mnopqrstuvwxyz!$%&*+,:;=?^_|"

/-- The frequent words. -/
def words : List String :=
  ["a-KHYILaAAbBBREVIATIONcKHASIANcOVEbCCENTcKNOWLEDGEcUTEbDEGbEcDA-PILLAcLA-PILLAcNbFRICANbHbIcNc",
   "RPLANEbLAYHEfIcEFdPHcIcMOSTcPAPRAANAdHAcTERNATEiINGjVEbMPERSANDbNcDcGdLEfDeICANAcNOTATIONcOcTA",
   "RGOMUKHAdICLOCKWISEeMONIATEhYeRESTRICTIONcUDATTAdSVARAbPOSTROFOIjShPHEcPLICATIONdROXIMATElLYbR",
   "ABICg-INDICcCdHAICgONcDHAVISARGAcEAcGOSYNTHETONcMENIANcOUNDcROWf-TAILfHEADjSfSbSc-SALAAMcCENDI",
   "NGcHd2dGABcPIRATIONcTERISKdROLOGICALcYMPTOTICALLYbTcHAPASCANcTACHEDbUcTOMOBILEbVAGRAHAbYcINaBA",
   "cBYcCKe-TILTEDeHANDeSLANTEDhSHfPACEcDcHAR2cLAGdLeOONh-SPOKEDfTcMBOOgScN2cRdBdLINEdREDfEdScSEdS",
   "AcYANNAbBAbEcEcGINcHcLLdOWdTcNTcSIDEcTdAdHdWEENbHAbIcCYCLISTcGcLABIALcNOCULARcRDdGAcSHOPbLACKf",
   "-FEATHEREDgLETTERfFOOTfLETTERcOCKcUEbOcARDcLDcNEcOKdMERANGcTTLEeOMcWdTIEcXbRACKEThEDdNCHcEATHY",
   "dVEcIDGEdGHTNESScOKENbUcBBLEgScDcILDINGiScLLETcRdUcTdTONbYcELORUSSIAN-UKRAINIANcZANTINEaC-SIMP",
   "LIFIEDbAcLENDARcMERAcNdADIANdCELgLATIONdDRAgBINDUcPITALcRdDdETdONdPENTRYdRIERcSTLEcTbEDILLAcIL",
   "INGcNTRALIZATIONfEgDgLINEbHAdReACTERjSeIOTeTcEdCKfERdEdLYUSTKAdSSeTcIdEUCHdNcOcRISTMASeVIdOMAe",
   "NONbIEUCcRCLEgDgSeULARfMFLEXcTYSCAPEbLEFcICKcOCKfWISEdSEDeINGdTHESdUDcUBSdSTER-INITIALbOcLONcM",
   "BININGdMAeERCIALdPLETIONeOSITIONeRESSEDeUTERcNGRATULATIONdJOINEDhINGdSECUTIVEeONANTeTRUCTIONdT",
   "ACTfINhINGhSeOUReROLcPPERdRODUCTdTICdYRIGHTcRNERgScVERINGbREDITdSCENTiScOPdSSfBONESfEDh-TAILfH",
   "ATCHfINGcYINGdPTOGRAMMICbUATRILLOcBEDcLTIVATIONcNEIFORMcPPEDcRLeYdRENCYgTdVEfDeINGcSPbYRILLICa",
   "DAcDcGESHdGERcLdETfHcMMAfTANcNDAdTAJAcRKENINGcSHeEDdIAcYANNAbDAdYANNAcDAcHAbEcCIMALdORATIONcEc",
   "GREEgScLETEdIMITERdTAcMESTVENNYcNOMINATORdTALcPARTINGgUREcSCENDERhINGcVANAGARIdICEcZHbHAbIcAER",
   "ESISdGONALdLECT-PeYTIKAdMONDhSdTONIKIcFFERENTIALcGAeMMAdITdRAMMOSfPHcMINUTION-1cPLIcRECTgIONjA",
   "LcSAPPOINTEDdHdKcVIDEgDgReNATIONeSIONbJERVIbOcACHASHMEEcCUMENTcDEKATAcEScGcLLARcTdLESSdSdTEDcU",
   "BLEg-LINElDhSTRUCKgDcWNe-POINTINGeWARDSbRACHMAdGONcOP-SHADOWEDcUMbUcGbVOECHELNAYAjOPOVODNAYAbZ",
   "AcEdLOcHAaEARdTHcSTbCHbEbGYPTOLOGICALbIGHTfEENfHgSfIETHSfYbKFONITIKONbLcECTRICdMENTdPHANTdVENc",
   "LIPSEgISbMcBEDDINGcPTYbNcCLOSINGgUREjScDcGcT-SHAPEDdERPRISEcVELOPEcYbPENTHETICcIDAUREANdGRAPHI",
   "CcSILONbQUALfSdIHOPPEReLATERALeVALENTbRcIN2bScCAPEcHd2bTcAcERNITYcHdIOPICbVENbXCLAMATIONcTENDE",
   "DfSIONdRA-HIGHgLOWeEMELYbYEdGAZE-FLOORPLANEiWALLPLANEdSbZHaFAcCEdTORcLLINGcRSIcTHAfTANbEcATHER",
   "cEdDcHcMALEcNCEbIcFTEENeHSeYcGUREcLEdLeERcNALeNCIALdGERg-POSTgScREdSTcSHeHOOKcTAcVEcXED-FORMbL",
   "AGdTeBREADeTENEDcEURONdXcOORdPPYdRALeETTEdURISHdWERcUTTERINGcYINGbOcLDERdLOWINGcOTcRdKdMdTYf-F",
   "IVEdWARDcUReTEENfHbRACTIONcETBOARDcOMdNTf-TILTEDdWNINGbTHORAbULLeWIDTHcNCTIONiALaGAcDcETTA-PIL",
   "LAcFcLdIcMMAcNd2dGIAcRcTHERINGcYANNAfUKITTAbEMINATIONcOMETRICALLYdRGIANcRSHAYIMcSH2eUbGAbHAdIN",
   "dNcEcUNNAbIcMELcR2cSHbLAGOLIhTICdSScOTTALbOcALcLDcRAZDOdGONbRANTHAdVEcEATfER-THANdEKeNcINNINGc",
   "OMNAYAeOKRYZHEVAYAfPOVODNAYAbUcDcNUaHAcAcHcIRcLANTAdFe-CIRCLEeWIDTHcMMERdZAcNDe-ANGLEfCIRCLEgL",
   "AWgUPhRLICUEfFISTgLATfHINGEgOOKfOVALeSdGULcRdDdPOONcTbEcADeEDeSTONEgROKEdRTf-SHAPEDfSdVENeYcEL",
   "cHcLMETcNGdTAIGANAcRMIONIANcTHcXAGONbHAbIcEROGLYPHdUHcGHe-REVERSED-9cNGEDcRAGANAcTTINGbOcLDING",
   "cMOTHETICcOKeEDcRIeZONTALdNdSEcURGLASSdSEbUcMPcNDREDhSbYPHENg-MINUSgATIONaICEcHIMATOSdOSbDENTI",
   "CALgFICATIONdOGRAMhPHj-4E09m8Ck6253jICbEcUNGf-KIYEOKbGIbIbMAGEcPERFECTAbNcCREASEcDEPENDENTeXdI",
   "CATORcFINITYdORMATIONcITIALcSERTIONdIDEdULARcTEGRALhTIONeRLACEDfPOLATIONfROBANGfSECTIONdRODUCE",
   "RcVERSEfTEDbOTAeTEDdIFIEDbSOLATEhDdSCELESbTALICcERATIONbZHEdITSAaJ-SIMPLIFIEDbAcPANESEcYANNAbE",
   "cEdMcGOGANbHAdNbIHVAMULIYAbOcINeEDfRcKERcNGSEONGcTbUNGSEONGcSTIFICATIONaKAcFcIcKcNdGcPAdHdPAdY",
   "EOUNMIEUMiPHIEUPHjIEUPiRIEULiSSANGPIEUPcRENcSKALdRAfTANcTAKANAi-HIRAGANAdHAKAdOcVYKAbEcHEHcNTI",
   "MAhTAcTcYdBOARDbHAdHdKASSIANdMTIdRcEIcIEUKHcOdKHLOMbIcNGcRGHIZcSIM5dSINGcYEOKg-SIOSbLASMAcYUCH",
   "ENEPOSTOYANNAYAhVAYAbNIFEdGHTg-BISHOPhQUEENhROOKcUCKLEhSbOcETcMBUVAdIcPPAcREANdONISbRYUKOVAYAd",
   "ZHfEMbSSAbUc3cRcSHU2bWAAbYEEaLAcGABeRcINGcLcMdDAdEDfHcRGEfSTcTINbEcADERdFdTHERcERAEWAcFTe-FACI",
   "NGfPOINTINGfSHADEDgTEMfTO-RIGHTeWARDScGcNGTHgENERdTICULARcSS-THANcTTERgSbHAbIcGATUREdHTfNINGcN",
   "EcPScTTLEbJUDIJEbLcAcLAbOcCATIONdKING-SHIFTdOMOTIVEcGICALdOGRAMcNGdSUMcOdPcTUScWd-FALLINGdERcZ",
   "ENGEbUc3cGALcMcNATEaMAcCHINEdRONcDDAcEMBAcGNIFYINGcHAAPRAANAePRANAcIcKSURAcLAYALAMdEdOcNdCHUdD",
   "AILINGcRBUTAdKe-1f2eERcSHcTHEMATICALbBAAcEEbCHUbEcASUREhDdTcDALdEFAIDRINdIALeUMcEMcMdBERcNbFON",
   "bGObIcCROPHONEcDd-LEVELdDLEg-WELSHcEUMf-KIYEOKgPANSIOShIEUPgSIOScLITARYdLIONScNUScRRORbOcBILEc",
   "DIFIERi-2j3j4j5j6cNdGOLIANdKEYdOCULAReFONIASeGRAMiMOShPHeSPACEcONcUNTAINdSEdTHcVEMENTi-FLOORPL",
   "ANEjWALLPLANEbRACHNAYAbUcLTIMAPfPLEhICATIONcRDAcSHdICALcURDHAJAbYANMARcSLITEaN-ARYcCREEbAcAdSI",
   "KYAYAcBLAcMEcRROWcSALIZATIONdKAPIbDAdAbEcGATIVEcITHERcOcPOSTOYANNAYAcUTRALcWdSPAPERbGcAdAcGAcO",
   "bHAbIcEUNf-CIEUCgHIEUHgKIYEOKgPANSIOSgSIOSgTIKEUTcGHTcKOLSBURGcNDA2dEeTEENfYcZKObJEdEbNAcNAbOc",
   "-BREAKcONcRdMALdTHcSEcTdATIONdCHEDdEeHEADeSbTEUMbUcBIANcKTAcMBERdERALgTORcNbYAcIdScOaOBLIQUEcO",
   "LSbCLOCKbDDbEbFcFICEbGONEKbJIBWAYbLDbMcEGAcICRONbNcCOMINGcEd-HUNDRED-AND-SIXTIETHbObPENe-HEADE",
   "DeINGdRATORcPOSINGgTIONbRcANGEcEcIGINALcKHONcNAMENTbTTAVAbUTdLINEDbVEReBAReLAIDgPhPINGgYfINEbX",
   "IAbYRANISMAaPAcA-PILLAcDcGEcIREDcLATALeUNGdIdMcMPHYLIANcNSIOScPdERcRAGRAPHjOSeKALESMAfLITIKIeL",
   "LELiOGRAMePHRASEdENTHESESjISkZEDeSTIGMENONdTIALeNERSHIPcSSPORTcTAHcWNbEcDESTRIANcEcHcNdCILdTAG",
   "ONgRAMfSEMEcRCENTeUSSIVEdFECTAdISPOMENIdPENDICULARdSONbHAdReYNGEALcIdEUPHh-PIEUPcObIcCTUREcECE",
   "dUPf-CHIEUCHhIEUCgHIEUHgKIYEOKgPHIEUPHgSIOSk-KIYEOKlTIKEUTgTHIEUTHhIKEUTcNWHEELcPAEMGBIEEcTCHF",
   "ORKbLACEfHOLDERdSTICScUSbOcDCHASHIEcINTfEDgRfINGcKOJIcLEdICEeSHcMMEEcRTABLEcSITIONdSESSIONdTAL",
   "cUNDdTINGcVODNAYAdYSHEcWERSbRAM-BEIgUONfMUOYfPIIcECEDESgINGdPONDERANCEdSENTATIONcIMEdSHTHAMATR",
   "AdVATEcODUCTdLATIONEeONGEDdPELLEReORTIONdSGEGRAMMENIeTAYAdTECTEDbSIdFISTONdLIbUcNCTUATIONcRPLE",
   "cSHPINbWOaQAcFcMATSbOPHbUADeRANTfUPLEdRTERhScEENdSTIONcILLcOTATIONaRAcDICALcEcFEcILWAYdNdSEDcY",
   "SbDELbEcCEIVERdORDdTANGLEhULAReILINEARdYCLINGcDdUPLICATIONcFORMEDcGULUScHcLATIONcPAdEATeTITION",
   "dLACEMENTcRENGGANcSHdTcTROFLEXdURNcVERSEhDdOLVINGbHAcObIcBBONcCEcEULf-HIEUHgKAPYEOUNPIEUPhHIEU",
   "KHhIYEOKm-SIOSgMIEUMgNIEUNgPANSIOShHIEUPHhIEUPl-SIOSgSIOShSANGKIYEOKgTHIEUTHhIKEUTgYEORINHIEUH",
   "cGHTf-FACINGgPOINTINGgSHADEDkOWEDgTO-LEFTfWARDScNGcSINGbOcCdKETcMANcOKdTcSETTEcTATEDfION-FLOOR",
   "PLANEjWALLPLANEiSdUNDAcUNDfEDbRcAbTAGSbUcDIMENTAcNNINGcPEEaSAcDdHEcFETYcGcLdLALLAHOUdTeIREcMAR",
   "ITANdEKHdPIcNdDHIdS-SERIFdYAKAcRcSAKcTANGAdELLITEcYANNAdISIbCANDICUScHOOLdWAcISSORScREENdIPTbE",
   "cBATBEITcCANTdONDdTIONcEdNcGMENTcLECTORcMI-VOICEDeBREVISeCIRCLEiULARfOLONeDIRECTeMINIMAcPARATO",
   "RcQUENTIALcRIFScTcVENfTEENgYbHAdDeDAeEfDeOWEDdFTdKINGdNdR2ePeUcEdEeNdIdLLdSHIGcHAcIdELDdFTdIdM",
   "AdNcOdEdGIdRTfSdULDERcUd2cWEbIcDDHAMdEeWAYScGMAdNcLHOUETTEcMALUNGUNdILARdPLIFIEDcNGLEg-LINEdNY",
   "IIYHEcOSe-CHIEUCHgIEUCfHIEUHfKIYEOKfMIEUMfNIEUNfPIEUPfRIEULfTHIEUTHgIKEUTcXdTEENhTHjSeYf-FOURT",
   "HbKAMEYTSAcEWEDcLIRONbLANTEDdSHcEEPINGcIGHTLYcOANbMALLcILINGbNAKEcOWFLAKEeMANbOcFTcGDIANcLIDUS",
   "cUNDdRCEdTHbPACEeINGdDEScEAKERdECHcHERICALcIRALeITcOKEDcREADbQUAREgDgSdIGGLEbSAdNGCIEUCfHIEUHf",
   "IEUNGfKIYEOKfNIEUNfPIEUPfRIEULfSIOSfTIKEUTbTAFFdReTdTERScEMcICKdGMAdLEcOPcRAIGHTeNNOdELAeSSeTC",
   "HEDdINGdOKEgSbUcBGROUPdJOINEDiRdLIMATEfNEARdSCRIPTeETeTITUTEjIONdUNITcCCEEDScITcKUNcLFURcMdMAT",
   "IONcNdDANESEdGeLASSEScPERSCRIPTgETfVISEdRALINEARcSPENSIONbVARITAdSTIcETLAYAbWASHcEATbYLLABICSg",
   "LEcMBOLg-11i2i3i4i7i8i9h23i4h50i1i2i3i4gSdMETRICcNCHRONOUScRIACaTAcAcBdULATIONcCKcHcIdLcK4cLEN",
   "TSdLcMdILcRdGETcTWEELcUcWbCHEHbEcARDROP-SPOKEDcDUNGcEcHcLEGRAPHePHONEcNdUcRMINATORcSHdSERAcTdA",
   "RTIMORIONdHdRASEMEgIMOUcXTbHAdAdLdMdNcEdEdHdNdRMOMETERdSPIANdTAcIdEUTHdNdRDfSeTEENfYg-FIVEhSEC",
   "ONDcOdRNdUGHTeSANDiScREADeEf-HUNDRED-AND-TWENTIETHdOUGHcUMBdNDERbIcBETANcCKcEcGERdHTLY-CLOSEDc",
   "KEUTg-CIEUChKIYEOKhPIEUPhRIEULhSIOSdHAYAcLDEdTINGcMEScNYcPcTLObOcGETHERcNEe-1f2f3f4f5f6f7f8dGU",
   "EdOScOdTHcPd-LIGHTEDdBARcRTOISEcUCHTONEbRAFFICdNSMISSIONfPOSITIONcEEdMOLO-1i2i3dSVETLAYAcIANGL",
   "Ei-HEADEDgULARdDENTdGRAMMOSdPLEdTIMORIONcOEZENIANdKUTASTIdMIKONbSAcEcHAdEGcIbTAcHAdObUcAREGcG2",
   "cRNEDeSTILEdTLEbVRIDObWELFTHSeVEdNTIETHjSfYg-EIGHTHhFIVEiOURhONEhTHREEiWOcOd-CIRCLEeHEADEDaU-S",
   "HAPEDb2bDcATTAbEbKRAINIANbMBRELLAbNDERfBARfLINEcIFIEDdONdTdVERSALbPc-POINTINGcADHMANIYAcPERcSI",
   "LONcTURNcWARDSbRUDAbSHbUaVAcNEcRIAfNTfTIONcVbEcDICcEcRTICALiLYdYbINEcRAMAcSARGAdIGOTHICbOCALIC",
   "cICEDcLAPUKcWELbRACHYbULGARbYSOKOaWAcITINGcLKdLcTERcVEdYcWd-AYIN-RESHbEcDGE-TAILEDcSTe-CREEeER",
   "NbHEELfCHAIRcITEbIcDEe-HEADEDdTHcGGLYcNDdEcTHeINeOUTbOcMANfScODS-CREEcRDbRINKLEDdSTbUbYNNaXAbI",
   "aY-CREEbAcAcJURVEDICcNGcTbEcEcHcLLOWcNISEIcORINHIEUHcRIdUcSIEUNGi-PANSIOSjSIOSbFESISbIcGcNbOcD",
   "dHbPOGEGRAMMENIbUcSaZAcDERZHKAcHcINcPYATAYAgOYcTAcYINbEcMLJAcROcTAbHAdRcEdEcIVETEbIGZAGbObU"]

/-- Further names of code points. -/
def aliases : List String :=
  ["aNULa~0~NULLaSOHa~0~;2$?HEADINGc?Da~0~STXas7$??Da~0~ETXas7$?^Ma~0~EOTaENQa~0~ENQUIRYaACKa~0~mG",
   "aALERTa~0~BELan1a~0~BSapJ=8a~0~v|=8a~0~HTa~0~=7as7$?y?a~0~EOLa~0~LFa~0~y?tRa~0~$Dy?a~0~NLay?=8",
   "a~0~_1=8a~0~VTaFFa~0~t^tRaCARRIAGE+Da~0~CRazF%Ga~0~:D%Wa~0~:=azF|%a~0~:Dw3a~0~:QaDATA.LINKs$a~",
   "0~DLEaDC1a~0~rIqB%GaDC2a~0~rIqB^+aDC3a~0~rIqB?5aDC4a~0~rIqBuBaNAKa~0~!_mGaSYNa~0~=3IDLEas7$?^M",
   "oLa~0~ETBao!a~0~o%as7$?z,a~0~EOMaSUBa~0~;$aESCa~0~s$at0,pa~0~FSa~0~w9,puBaGROUP,pa~0~GSa~0~w9,",
   "p?5c^+a~0~*y,pa~0~RSaw9,p%Ga~0~_G,pa~0~USaSPa~5F~DELa~0~q^a%9a~0~PADDINGpJav%OCTET.PRESETa~0~H",
   "OPaBPHa~0~BREAK.PERMITTED.HEREaNBHa~0~$4BREAK.HEREaINDa~0~w6aNELa~0~NEXTy?a;Qa~0~;2$?SELECTEDm",
   ":as7$?SELECTEDm:a~0~ESAapJ=8,sa~0~v|=8,sa~0~HTSapJ=8|BxOa~0~v|=8|BxOa~0~HTJay?=8,sa~0~_1=8,sa~",
   "0~VTSa%:y?r+c~0~uAa~0~PLDa%:y?BACKWARDc~0~_Ia~0~PLUa+Ew6b~0~y?tRa~0~+Ja:0:D^+a~0~SINGLE-SHIFT-",
   "2a~0~SS2a:0:D?5a~0~SINGLE-SHIFT-3a~0~SS3aDCSa~0~rIqB;qa*HUSE%Gb~0~USE-1a~0~PU1a*HUSE^+b~0~USE-",
   "2a~0~PU2a,sTRANSMIT.STATEa~0~STSao%pJa~0~CCHaMESSAGE_sa~0~MWaSPAa~0~;2$?GUARDEDm:c~0~*Pm:as7$?",
   "GUARDEDm:c~0~*Pm:a~0~EPAaSOSa~0~;2$?;qaSGCa~0~:0GRAPHICpJwwaSCIa~0~:0pJwwaqBSEQUENCEwwa~0~CSIa",
   "STa~0~;q==aOPERATING.SYSTEM.COMMANDa~0~OSCaPMa~0~PRIVACY.MESSAGEaAPCa~0~myPROGRAM.COMMANDaNBSP",
   "a~D~SHYa~F5~y9o,y&umb:*y&uma~1AC~CGJa~2CD~ALMa~ED~=4;ypw:xyra~5D5~KANNADAy&zCa~1BF~LAOy&t+FONd",
   "~2~FAYc~4~+oc~2~zDa~12B~?nzqBKA-.SHOGurz_RGYANa~21C~vZxLYESIEUNG-KIYEOKcYESIEUNG-SSANGKIYEOKcS",
   "SANGYESIEUNGcYESIEUNG-KHIEUKHa~61C~FVS1aFVS2aFVS3aMVSaFVS4a~7FC~ZWSPaZWNJaZWJaLRMaRLMa~1B~LREa",
   "RLEaPDFaLROaRLOaNNBSPa~30~MMSPaWJa~6~LRIaRLIaFSIaPDIa~AF~WEIERSTRASS.ELLIPTICuNa~330~MICR%EUS=",
   "Mbqx=Ma~731~yx^Um^|Br!_1;ra~2~+9^Um^|Br!_1;ra~7499~|7=Lw,zqa~A59~!xy&xyzBa~5392~VS1aVS2aVS3aVS",
   "4aVS5aVS6aVS7aVS8aVS9aVS10aVS11aVS12aVS13aVS14aVS15aVS16a~9~*Et^t=_1+3_:y$oYa~E7~BOMa~0~BYTE.O",
   "RDERzqa~0~ZWNBSPa~23D5~qY:VNU11=;d%YNU11op%Yopa~4B81~z*o,y&Hd$Fb~1F~:*y&Hd$Fa~418A~vuy&E-1a~20",
   "C4~ov!v=MuK:yp0VASISa~C303B~VS17aVS18aVS19aVS20aVS21aVS22aVS23aVS24aVS25aVS26aVS27aVS28aVS29aV",
   "S30aVS31aVS32aVS33aVS34aVS35aVS36aVS37aVS38aVS39aVS40aVS41aVS42aVS43aVS44aVS45aVS46aVS47aVS48a",
   "VS49aVS50aVS51aVS52aVS53aVS54aVS55aVS56aVS57aVS58aVS59aVS60aVS61aVS62aVS63aVS64aVS65aVS66aVS67",
   "aVS68aVS69aVS70aVS71aVS72aVS73aVS74aVS75aVS76aVS77aVS78aVS79aVS80aVS81aVS82aVS83aVS84aVS85aVS8",
   "6aVS87aVS88aVS89aVS90aVS91aVS92aVS93aVS94aVS95aVS96aVS97aVS98aVS99aVS100aVS101aVS102aVS103aVS1",
   "04aVS105aVS106aVS107aVS108aVS109aVS110aVS111aVS112aVS113aVS114aVS115aVS116aVS117aVS118aVS119aV",
   "S120aVS121aVS122aVS123aVS124aVS125aVS126aVS127aVS128aVS129aVS130aVS131aVS132aVS133aVS134aVS135",
   "aVS136aVS137aVS138aVS139aVS140aVS141aVS142aVS143aVS144aVS145aVS146aVS147aVS148aVS149aVS150aVS1",
   "51aVS152aVS153aVS154aVS155aVS156aVS157aVS158aVS159aVS160aVS161aVS162aVS163aVS164aVS165aVS166aV",
   "S167aVS168aVS169aVS170aVS171aVS172aVS173aVS174aVS175aVS176aVS177aVS178aVS179aVS180aVS181aVS182",
   "aVS183aVS184aVS185aVS186aVS187aVS188aVS189aVS190aVS191aVS192aVS193aVS194aVS195aVS196aVS197aVS1",
   "98aVS199aVS200aVS201aVS202aVS203aVS204aVS205aVS206aVS207aVS208aVS209aVS210aVS211aVS212aVS213aV",
   "S214aVS215aVS216aVS217aVS218aVS219aVS220aVS221aVS222aVS223aVS224aVS225aVS226aVS227aVS228aVS229",
   "aVS230aVS231aVS232aVS233aVS234aVS235aVS236aVS237aVS238aVS239aVS240aVS241aVS242aVS243aVS244aVS2",
   "45aVS246aVS247aVS248aVS249aVS250aVS251aVS252aVS253aVS254aVS255aVS256"]

/-- The names of code points. -/
def entries : List String :=
  ["a~21~;Cas?zqa*mzqa$x:Varv:Va&H:Vam3amxayr%*a+3%*anJa&q:VapyawJauL;8a:_arW|%b%Gb^+b?5buBbtpb:qb",
   ",tbsMb$Wapwa,may%:Vasu:Vau::Va*8zqapznMay9o,y&AdBdCdDdEdFdGdHdIdJdKdLdMdNdOdPdQdRdSdTdUdVdWdXd",
   "YdZayr;MoYa+E:_a+3;MoYap7mFazOy?au+mFay9:*y&AdBdCdDdEdFdGdHdIdJdKdLdMdNdOdPdQdRdSdTdUdVdWdXdYd",
   "Zayrq1oYa_1y?a+3q1oYa?za~22~$5;Cawys?zqaCENT:Va&,:Vaq2:VaYEN:Vao5noa,1:VarMaqF:VaFEMININE.ORDI",
   "NALw7aytr!m7*mzqa$n:Va:?wIaREGISTERED:VazZaq=:VaPLUS-MINUS:Va=A^+b?5amHmFaMICRO:VaPILCROW:Va!D",
   "rwapBa=A%GaMASCULINE.ORDINALw7a+5r!m7*mzqa_puE%G*5dvIc?5*6awy*8zqay9o,y&A|Bu+fmHfp7f?zfrMf+mmE",
   "dmJdC|BpBdE|Bu+fmHfp7frMdI|Bu+fmHfp7frMds:dN|B?zdO|Bu+fmHfp7f?zfrMa!s:Vay9o,y&O|B;rdU|Bu+fmHfp",
   "7frMdY|BmHd?0b:*y&,,SdA|Bu+fmHfp7f?zfrMf+mmEdmJdC|BpBdE|Bu+fmHfp7frMdI|Bu+fmHfp7frMds:dN|B?zdO",
   "|Bu+fmHfp7f?zfrMarn:Vay9:*y&O|B;rdU|Bu+fmHfp7frMdY|BmHd?0dY|BrMbo,y&A|BzZb:*y&A|BzZbo,y&A|Bo2b",
   ":*y&A|Bo2bo,y&A|B$_b:*y&A|B$_bo,y&C|BmHb:*y&C|BmHbo,y&C|Bp7b:*y&C|Bp7bo,y&C|BrwmEb:*y&C|BrwmEb",
   "o,y&C|Bo?b:*y&C|Bo?bo,y&D|Bo?b:*y&D|Bo?bo,y&D|B;rb:*y&D|B;rbo,y&E|BzZb:*y&E|BzZbo,y&E|Bo2b:*y&",
   "E|Bo2bo,y&E|BrwmEb:*y&E|BrwmEbo,y&E|B$_b:*y&E|B$_bo,y&E|Bo?b:*y&E|Bo?bo,y&G|Bp7b:*y&G|Bp7bo,y&",
   "G|Bo2b:*y&G|Bo2bo,y&G|BrwmEb:*y&G|BrwmEbo,y&G|BpBb:*y&G|BpBbo,y&H|Bp7b:*y&H|Bp7bo,y&H|B;rb:*y&",
   "H|B;rbo,y&I|B?zb:*y&I|B?zbo,y&I|BzZb:*y&I|BzZbo,y&I|Bo2b:*y&I|Bo2bo,y&I|B$_b:*y&I|B$_bo,y&I|Br",
   "wmEb:*y&rxIbo,y:IJb:*y:IJbo,y&J|Bp7b:*y&J|Bp7bo,y&K|BpBb:*y&K|BpBdKRAbo,y&L|BmHb:*y&L|BmHbo,y&",
   "L|BpBb:*y&L|BpBbo,y&L|Bo?b:*y&L|Bo?bo,y&L|B!Drwb:*y&L|B!Drwbo,y&L|B;rb:*y&L|B;rbo,y&N|BmHb:*y&",
   "N|BmHbo,y&N|BpBb:*y&N|BpBbo,y&N|Bo?b:*y&N|Bo?ePRECEDEDotmxbo,y&s8b:*y&s8bo,y&O|BzZb:*y&O|BzZbo",
   ",y&O|Bo2b:*y&O|Bo2bo,y&O|Br!mHb:*y&O|Br!mHbo,y:$=b:*y:$=bo,y&R|BmHb:*y&R|BmHbo,y&R|BpBb:*y&R|B",
   "pBbo,y&R|Bo?b:*y&R|Bo?bo,y&S|BmHb:*y&S|BmHbo,y&S|Bp7b:*y&S|Bp7bo,y&S|BpBb:*y&S|BpBbo,y&S|Bo?b:",
   "*y&S|Bo?bo,y&T|BpBb:*y&T|BpBbo,y&T|Bo?b:*y&T|Bo?bo,y&T|B;rb:*y&T|B;rbo,y&U|B?zb:*y&U|B?zbo,y&U",
   "|BzZb:*y&U|BzZbo,y&U|Bo2b:*y&U|Bo2bo,y&U|B+mmEb:*y&U|B+mmEbo,y&U|Br!mHb:*y&U|Br!mHbo,y&U|B$_b:",
   "*y&U|B$_bo,y&W|Bp7b:*y&W|Bp7bo,y&Y|Bp7b:*y&Y|Bp7bo,y&Y|BrMdZ|BmHb:*y&Z|BmHbo,y&Z|BrwmEb:*y&Z|B",
   "rwmEbo,y&Z|Bo?b:*y&Z|Bo?dzJSdB|B;rbo,y&B|Bv?f^Ib:*y&B|B^Ibo,y&?::qb:*y&?::qbo,y&%JOdC|Bv?b:*y&",
   "C|Bv?bo,y&mNDdD|Bv?f^Ib:*y&D|B^Id^qq|bo,y&+FEd,Td%JEdF|Bv?b:*y&F|Bv?bo,y&G|Bv?duVb:*y&HVbo,y&w",
   "zdI|B;rdK|Bv?b:*y&K|Bv?dL|BnodLAMBDA|B;rbo,y&^qMdN|Byrv?b:*y&N|BzJ+3yybo,y&O|B!D?zfwAb:*y&O|Bw",
   "Abo,y&OIb:*y&OIbo,y&P|Bv?b:*y&P|Bv?by&YRbo,y&?:^+b:*y&?:^+bo,y&s%by&+Fs%zMb:*y&T|B%ov?bo,y&T|B",
   "v?b:*y&T|Bv?bo,y&T|B+Cv?dU|BwAb:*y&U|BwAbo,y&_MdV|Bv?dY|Bv?b:*y&Y|Bv?bo,y&Z|B;rb:*y&Z|B;rbo,y&",
   "tGe+Fb:*y&tG+Fe|B=oby&^+|B;rbo,y&?:tpb:*y&?:tpby&wyuy;8|B;rc|McrCpmcLATERALpmcALVEOLARpmc+Cpmb",
   "o,y&DZ|Bo?dD|B:*y&Z|Bo?b:*y&DZ|Bo?bo,y&LJdL|B:*y&Jb:*y&LJbo,y&NJdN|B:*y&Jb:*y&NJbo,y&A|Bo?b:*y",
   "&A|Bo?bo,y&I|Bo?b:*y&I|Bo?bo,y&O|Bo?b:*y&O|Bo?bo,y&U|Bo?b:*y&U|Bo?bo,y&U|BrMm5zZb:*y&U|BrMm5zZ",
   "bo,y&U|BrMm5mHb:*y&U|BrMm5mHbo,y&U|BrMm5o?b:*y&U|BrMm5o?bo,y&U|BrMm5u+b:*y&U|BrMm5u+d^qEbo,y&A",
   "|BrMm5zZb:*y&A|BrMm5zZbo,y&A|BrwmEm5zZb:*y&A|BrwmEm5zZbo,y&mJ|BzZb:*y&mJ|BzZbo,y&G|B;rb:*y&G|B",
   ";rbo,y&G|Bo?b:*y&G|Bo?bo,y&K|Bo?b:*y&K|Bo?bo,y&O|B$_b:*y&O|B$_bo,y&O|B$_m5zZb:*y&O|B$_m5zZbo,y",
   "&tG|Bo?b:*y&tG|Bo?dJ|Bo?bo,y&DZdD|B:*y&Zb:*y&DZbo,y&G|BmHb:*y&G|BmHbo,y&HWAIRd|MdN|Bu+b:*y&N|B",
   "u+bo,y&A|B+mmEm5mHb:*y&A|B+mmEm5mHbo,y&mJ|BmHb:*y&mJ|BmHbo,y&O|B;rm5mHb:*y&O|B;rm5mHbo,y&A|Br!",
   "u+b:*y&A|Br!u+bo,y&A|Bwyo2b:*y&A|Bwyo2bo,y&E|Br!u+b:*y&E|Br!u+bo,y&E|Bwyo2b:*y&E|Bwyo2bo,y&I|B",
   "r!u+b:*y&I|Br!u+bo,y&I|Bwyo2b:*y&I|Bwyo2bo,y&O|Br!u+b:*y&O|Br!u+bo,y&O|Bwyo2b:*y&O|Bwyo2bo,y&R",
   "|Br!u+b:*y&R|Br!u+bo,y&R|Bwyo2b:*y&R|Bwyo2bo,y&U|Br!u+b:*y&U|Br!u+bo,y&U|Bwyo2b:*y&U|Bwyo2bo,y",
   "&S|Bpyn&b:*y&S|Bpyn&bo,y&T|Bpyn&b:*y&T|Bpyn&bo,y&YOGHb:*y&YOGHbo,y&H|Bo?b:*y&H|Bo?bo,y&N|BzJ+3",
   "yyb:*y&D|Bq0bo,y&OUb:*y&OUbo,y&Z|Bv?b:*y&Z|Bv?bo,y&A|BrwmEb:*y&A|BrwmEbo,y&E|BpBb:*y&E|BpBbo,y",
   "&O|BrMm5zZb:*y&O|BrMm5zZbo,y&O|B?zm5zZb:*y&O|B?zm5zZbo,y&O|BrwmEb:*y&O|BrwmEbo,y&O|BrwmEm5zZb:",
   "*y&O|BrwmEm5zZbo,y&Y|BzZb:*y&Y|BzZdL|Bq0dN|Bq0dT|Bq0drxJdDBrYdQPrYbo,y&A|B;rdC|B;rb:*y&C|B;rbo",
   ",y&L|BnodT|BrN;rb:*y&S|B=I=odZ|B=I=obo,y&uy;8b:*y&uy;8bo,y&B|B;rdUnod^qVdE|B;rb:*y&E|B;rbo,y&J",
   "|B;rb:*y&J|B;rbo,y&:*Q|Bv?=ob:*y&Q|Bv?=obo,y&R|B;rb:*y&R|B;rbo,y&Y|B;rb:*y&Y|B;rd^qAdmZd^qmZdB",
   "|Bv?d%JOdC|Bq0dD|B=ofv?d+FEd,Te|Bv?d%JEd+F%JEg|Bv?dpp+F%JEdrxJ|B;rdG|Bv?d,WGby&:*o,Gb:*y&uVdRA",
   "MSwAd^qHdH|Bv?dvt|Bv?dI|B;rdwzby&:*o,Ib:*y&L|B!D?zfn*f+Cv?dLEZHd^qMf|BzJyydM|Bv?dN|Byrv?f+Cv?b",
   "y&:*o,Nb:*y&nrOby&:*o,$=b:*y&pp%Cd&Qd^qRf|BzJyygv?dR|BzJyyf=oftnd+FR|Btnby&:*o,RewyRb:*y&S|Bv?",
   "ds%drxJ|B;rm5v?dSQUAT+Fs%ds%|Bq0d^qTdT|B+Cv?dUnod_MdV|Bv?d^qVeWeYby&:*o,Yb:*y&Z|B+Cv?fq0dtGe|B",
   "q0by&uy;8c&P_9FRICATIVEcwyuy;8c;pCcoBpmc:*o,Bb:*y&pp%JEby&:*o,G|Bv?eHb:*y&J|BqQd^qKby&:*o,Lb:*",
   "y&Q|Bv?by&uy;8|B;rc+Fuy;8|B;rb:*y&DZrYdrJrYdDZrY|Bq0dTSrYd=?rYdTCrY|Bq0dFENGrYdLSrYdLZrYby&oB&",
   "IcBIDENTAL&Ib:*y&^qH|Btnhm5=oa!Qy&:*He|Bv?dJdRd^qRf|Bv?do,wyRdWdYc*Fcr!*Fc^qpycmxc+Fpyc+3vI+mc",
   "yrvI+mcuy;8c+Fuy;8cyrm|c+3m|c_Im|cr+m|cp7mFao?a!Qy&_1y?czZcmHmFcu+mFczO_1y?dzZdu+mFdmHmFc^Vpwc",
   "vI^VpwcpF+3vI+mdyrvI+mc_I=9cr+=9c&q:Vc!M:Vao2arwmEa+mmEa$_a:*?zar!mHmFa!Qy&RHOTICv?cqNmFc:*uVd",
   "LdSdXd+Fuy;8cs|?:nocv%?:noc!B?:noczO?:noctA?:noc|9rD?:zqc|TrD?:zqcVOICINGcUNASPIRATEDcr!mxczOr",
   "+m|d_Im|dyrm|d+3m|d+mc!Du+mFdr!u+mFemHmFczO?zc*tpwcn!v%?:cs7v%?:cn!zO?:cs7zO?:cSHELFc%JSHELFcz",
   "Oyrm^apxu+mFbmHmFbp7mFb?zbzZb%4bo2brwmEbrMbv?mEb+mmEbr!mHmFbo?b_1y?mEbr!_1y?mEcu+mFbo+bwyo2b^q",
   "pymEbpymEb+FpymEbpymE+3bu+mFn&bmHmFn&byr=9n&b+3=9n&byrm7mEbwAbyrvI+mn&b_I=9n&br+=9n&b&q:Vn&b!M",
   ":Vn&bPALATALIZEDv?n&b+Cv?n&brwn&brMn&b+mn&bpyn&bpBb$_b_1y?n&bo3n&bwyr!ARCHn&bo?n&bp7mFn&bo2n&b",
   "wyo2n&b?zn&bzZn&bzOy?br!zOy?b?z%3b:K;r%3bzJ;r%3b:K:_%3bzJ:_%3b+3vI+mn&bwyo3n&b;Mn&bSEAGULLn&bX",
   "mEb_1?zbr!%4bu+?:zqbmH?:zqbu;&KcyNcrP^Dc|pbo3mEbsu:Vn&br!_1y?n&byrm7n&b$n?zmEbv=mEbmXst?+mEbyr",
   "+3m^n&b_Om^n&bGRAPHEMExJb+3m|mEbyrvI+mmEbFERMATAbXn&byrm|n&b+3m|n&dm5_Im|n&cvI+mmEbrwmE+3bnJn&",
   "br!+mn&b|=mEbr!o2n&co2czZdn&c?zcwyo2c+9m^n&by9:*y&AeEeIeOeUeCeDeHeMeReTeVeXau;o,y&HETAb:*y&HET",
   "Abo,y&m*,Gb:*y&m*,Gb$y:VbzQ$y:Vbo,y&%srVb:*y&%srVb~3~|pb:*+FzW:U=McrzzW:U=Mc+FrzzW:U=Mb*8zqbo,",
   "y&YOTb~5~^DbrP^Dbo,y&mZ|B^DbmnTELEIAbo,y&ss|B^Dds+|B^Ddwz|B^Dd~2~%D|B^Dd~2~_M|B^Dd%C|B^Db:*y&w",
   "z|BrPm5^Dbo,y&mZdn;duVdq|dssd|&ds+d?PdwzdxXdy4d!pd$ud|Od%Dd&Ud+Id~2~:Ud=xd_Md&QdpUd*Qd%Cdwz|Br",
   "Pd_M|BrPb:*y&mZ|B^Ddss|B^Dds+|B^Ddwz|B^Dd_M|BrPm5^DdmZdn;duVdq|dssd|&ds+d?PdwzdxXdy4d!pd$ud|Od",
   "%Dd&Ud+Idt3:Ud:Ud=xd_Md&QdpUd*Qd%Cdwz|BrPd_M|BrPd%D|B^Dd_M|B^Dd%C|B^Dbo,xR=Mbn;=Mb?P=Mb_M|Bv?=",
   "MdmHm5v?=MdrMm5v?=Mb&Q=Mb&U=MbxR=Mby&m*yLb:*y&m*yLby&;6b:*y&;6by&rVb:*y&rVby&yLb:*y&yLby&,Gb:*",
   "y&,GaqEo,y&,^b:*y&,^bo,y&FEIb:*y&FEIbo,y&x!b:*y&x!bo,y&v_b:*y&v_bo,y&uYb:*y&uYbo,y&:Fb:*y&:Fbo",
   ",y&DEIb:*y&DEIau;xX=Mb+I=MbzW:U=Mby&YOTbo,?P=MbzWss=Mb+FzWss=Mbo,y&:Hb:*y&:Hbo,zW:U=Mcy&,Hb:*y",
   "&,Hb+I|B;r=Mbo,+FzW:U=McrzzW:U=Mc+FrzzW:U=Maq8o,y&wW|Bu+dIOdDJEdGJEd^|wWdsDdouId|7dw|dLJEd$0dT",
   "SHEdKJEdI|Bu+d:KUdDZHEdAdnyd_Ydupdq+dwWd|,d|!dId:KIdxPdsTds0ds3dOd%_dsyds!d=!dUdEFdvDd^4dpNd,w",
   "dSHCHAdv1:Vd|2d:?:VdEd|qd|Qb:*y&Adnyd_Ydupdq+dwWd|,d|!dId:KIdxPdsTds0ds3dOd%_dsyds!d=!dUdEFdvD",
   "d^4dpNd,wdSHCHAdv1:Vd|2d:?:VdEd|qd|QdwW|Bu+dIOdDJEdGJEd^|wWdsDdouId|7dw|dLJEd$0dTSHEdKJEdI|Bu+",
   "d:KUdDZHEbo,y&%Cb:*y&%Cbo,y&|Ub:*y&|Ubo,y&w$Eb:*y&w$Ebo,y&y_|rb:*y&y_|rbo,y&w$y_|rb:*y&w$y_|rb",
   "o,y&oA|rb:*y&oA|rbo,y&w$oA|rb:*y&w$oA|rbo,y&KSIb:*y&KSIbo,y&*Qb:*y&*Qbo,y&tob:*y&tobo,y&w;b:*y",
   "&w;bo,y&w;|Br!u+mFb:*y&w;|Br!u+mFbo,y&UKb:*y&UKbo,y&+!%Cb:*y&+!%Cbo,y&%C|B?*b:*y&%C|B?*bo,y&OT",
   "b:*y&OTbo,y&yLb:*y&yLb?3:Vapxq8?*cPALATALIZATIONcqzPNEUMATAc*SPNEUMATAcPOKRYTIEcwG?3:Vc!L:Vaq8",
   "o,y&:KI|B=ob:*y&:KI|B=obo,y&SEMISOFT:Vb:*y&SEMISOFT:Vbo,y&sy|B?ob:*y&sy|B?obo,y&up|B_Nb:*y&up|",
   "B_Nbo,y&up|B;rb:*y&up|B;rbo,y&up|B!Dv?b:*y&up|B!Dv?bo,y&|,|BrFb:*y&|,|BrFbo,y&|!|BrFb:*y&|!|Br",
   "Fbo,y&xP|BrFb:*y&xP|BrFbo,y&xP|B_1;rb:*y&xP|B_1;rbo,y&xP|B;rb:*y&xP|B;rbo,y&BASHKIRxPb:*y&BASH",
   "KIRxPbo,y&s3|BrFb:*y&s3|BrFbo,y:s3upb:*y:s3upbo,y&%_|B!Dv?b:*y&%_|B!Dv?bo,y&mDvDb:*y&mDvDbo,y&",
   "s!|BrFb:*y&s!|BrFbo,y&=!|BrFb:*y&=!|BrFbo,y&;9Ub:*y&;9Ubo,y&;9U|B;rb:*y&;9U|B;rbo,y&vD|BrFb:*y",
   "&vD|BrFbo,y:=!^4b:*y:=!^4bo,y&pN|BrFb:*y&pN|BrFbo,y&pN|B_1;rb:*y&pN|B_1;rbo,y&:Ab:*y&:Abo,y&mD",
   "pNb:*y&mDpNbo,y&mDpN|BrFb:*y&mDpN|BrFby&PALOCHKAbo,y&|,|Bo2b:*y&|,|Bo2bo,y&xP|Bv?b:*y&xP|Bv?bo",
   ",y&sT|B=ob:*y&sT|B=obo,y&s3|Bv?b:*y&s3|Bv?bo,y&s3|B=ob:*y&s3|B=obo,y&xxpNb:*y&xxpNbo,y&s0|B=ob",
   ":*y&s0|B=odPALOCHKAbo,y&A|Bo2b:*y&A|Bo2bo,y&A|BrMb:*y&A|BrMbo,y:AwWb:*y:AwWbo,y&wW|Bo2b:*y&wW|",
   "Bo2bo,y&,Tb:*y&,Tbo,y&,T|BrMb:*y&,T|BrMbo,y&|,|BrMb:*y&|,|BrMbo,y&|!|BrMb:*y&|!|BrMbo,y&mDsDb:",
   "*y&mDsDbo,y&I|BzZb:*y&I|BzZbo,y&I|BrMb:*y&I|BrMbo,y&O|BrMb:*y&O|BrMbo,y&nrOb:*y&nrObo,y&nrO|Br",
   "Mb:*y&nrO|BrMbo,y&E|BrMb:*y&E|BrMbo,y&U|BzZb:*y&U|BzZbo,y&U|BrMb:*y&U|BrMbo,y&U|Br!mHb:*y&U|Br",
   "!mHbo,y&pN|BrMb:*y&pN|BrMbo,y&up|BrFb:*y&up|BrFbo,y&|2|BrMb:*y&|2|BrMbo,y&up|B;rm5v?b:*y&up|B;",
   "rm5v?bo,y&vD|Bv?b:*y&vD|Bv?bo,y&vD|B;rb:*y&vD|B;rbo,y&yKq+b:*y&yKq+bo,y&yKDJEb:*y&yKDJEbo,y&yK",
   "ZJEb:*y&yKZJEbo,y&yKDZJEb:*y&yKDZJEbo,y&yKLJEb:*y&yKLJEbo,y&yK$0b:*y&yK$0bo,y&yKSJEb:*y&yKSJEb",
   "o,y&yKTJEb:*y&yKTJEbo,y&+F|!b:*y&+F|!bo,y&sT|Bv?b:*y&sT|Bv?bo,y&y+b:*y&y+bo,y&+Hb:*y&+Hbo,y&YA",
   "Eb:*y&YAEbo,y&*Yb:*y&*Ybo,y&_!b:*y&_!bo,y&ALEUTxPb:*y&ALEUTxPbo,y&sT|B!Dv?b:*y&sT|B!Dv?bo,y&s3",
   "|B!Dv?b:*y&s3|B!Dv?bo,y&%_|BrFb:*y&%_|BrFbo,y&:A|BrFb:*y&:A|BrFbo,y&s3|Byrv?b:*y&s3|Byrv?bo,y&",
   "DZZHEb:*y&DZZHEbo,y&DCHEb:*y&DCHEbo,y&sT|BrFb:*y&sT|BrFa~2~m=o,y&AYBdBENdGIMdq9dsJd|sdEHds*d?+",
   "d|,dINIdLIWNdXEHdoxdKENdv:dw?dGHADdCHEHdz?d|7dNOWd,wdVOdpHd&BdJHEHd*ndSEHdVEWdTIWNd*:dpvdYIWNd",
   "PIWRdKEHdOHdtSb~3~!Qy&yrvI+mbmxbEMPHASISzqbs?zqbpyb*8zqbmCzqb:*y&^qAYBdAYBdBENdGIMdq9dsJd|sdEH",
   "ds*d?+d|,dINIdLIWNdXEHdoxdKENdv:dw?dGHADdCHEHdz?d|7dNOWd,wdVOdpHd&BdJHEHd*ndSEHdVEWdTIWNd*:dpv",
   "dYIWNdPIWRdKEHdOHdtScy:sJYIWNcy&|7|B;rbuL;8bwIa~3~+4m=s,:Vaysm=s,:Vam=DRAM:Va~2~HEBREWmFETNAHT",
   "AcSEGOLcSHALSHELETcZAQEF.QATANdGADOLcTIPEHAcREVIAcZARQAcPASHTAcYETIVcTEVIRcGERESHdMUQDAMcu6cQA",
   "RNEY.PARAcTELISHA.GEDOLAcPAZERcATNAH.HAFUKHcMUNAHcMAHAPAKHcMERKHAdKEFULAcDARGAcQADMAcTELISHA.Q",
   "ETANAcYERAH.BEN.YOMOcOLEcILUYcDEHIcZINORbzqMASORAp3b&tSHEVAcHATAF.SEGOLd%?d*0cHIRIQcTSEREcSEGO",
   "Lc%?c*0cHOLAMdHASERt=_XcQUBUTScqn%PMAPIQcMETEGb*UMAQAFb&t*qb*UPASEQb&t:GrwcSINrwb*USOF.PASUQbz",
   "q_LrwczQrwb*U$!HAFUKHAb&t*0QATANb~9~y&mUcn:cuscqqcv4c_Xc|zcHETc=_c|nct3xQcxQcy5ct3z;cz;ct3$!c$",
   "!c,FcnTct3%_c%_ct3TSADIcTSADIcQOFc+Ac:GcTAVb~5~|n^Tby:YIDDISHr!_Xd_X|ndr!|nb*UGERESHcu6a~C~m$$",
   "x:Vb:VSANAHbFOOTNOTEztb:VSAFHAcSAMVATb$xzqmEam%CUBE+tbuD+tam$RAYam%PER.MILLE:Vc=:?2:VaAFGHANI:",
   "Vam$pybDATE,pbPOETIC.VERSE:Vb:VMISRAc,BmSWASSALLAMcmSASSALLAMcRAHMATULLAHmScRADI.ALLAHOU.ANHUc",
   "TAKHALLUSb:*v%=mdy:mU|By3|B|Xd|vctMcqscx5b,mby&zqbs7$??Dzqb^Yrw*Uzqb*8zqby&KASHMIRI|XcvMcmU|Bz",
   "0mEevMmEc_y|BvMmEcmU|BvMn&c|X|BvMmEcmUcn$c=*zpc=*c?LcxBcvFcxwcqpc?Gc*:c|vc,3c,?c+?cqmc=mc|ucmQ",
   "cuncxp|B^+rymEe?5ryn&ctL|X|BwyVf^+rymEf?5rymEb=wby&tSc*ZcxQcy3cz:c$6cvrc_ycmUz6c|XbtNbqtbx6btM",
   "bqsbx5b,yb;,bMADDAHmEbvMmEcn&b;zmUbwyqsbzq$6uqbZWARAKAYb_n:V:*VmEdwy:*VmEdrwn&b+FqsbtM|B^+ryb_",
   "xvMn&am%rW|%c%Gc^+c?5cuBctpc:qc,tcsMc$Wam$&H:Vbq,,pb?3,pbtp&u;1by&rxn$d*Zc=AmUcmUWASLAd|B_xvMm",
   "Egn&cv%vMemUe_ycU|BvMmEcv%vM|XcTTEHcTTEHEHcBEEHc=*|B+me?5rymEr:c&BcTEHEHcBEHEHcvF|BvMmEe^+ry_1",
   "mEcNYEHcDYEHcvF|B?5rymEc=zcTCHEHEHcDDALcqp|B+merwn&gm5:*=mcDAHALcDDAHALcDULcqp|B?5rymEr:euBrym",
   "EcRREHc*:|B:*Ve+merwn&e:*Vn&erwn&m5rwmEe^+rymEcJEHc*:|BuBrymEc,3|Brwn&m5rwmEe?5ryn&hm5?5rymEc+",
   "?|B^+ryn&e?5rymEc=m|B?5rymEcmQ|B?5rymEcrxtSctS|BrwMOVEDn&fn&cVEHctS|B?5ryn&cPEHEHc*Z|BrwmEe?5r",
   "ymEcxpc=IxQcxQ|B+merwmEc$FcxQ|B?5ryn&cuSd|B+mcNGOEHcuS|B^+ryn&cGUEHcuS|B?5rymEcy3|B:*VerwmEe?5",
   "rymEgn&c$6|Brwn&duqcRNOONc$6|B+me?5rymEcvrrqc=z|BrwmEcvr|B|XmEdu!e|BvMmEc=*zpu!c_y|B+mcx,$=c$=",
   "cUc|qcx,|qc_y|B^+rymEc_YctL|Xc|X|B=oe:*Vc_y|BrwmEcEc|X|B?5ryn&dnse|BvMmEbuL;8by&mJb:*v%y:+?|By",
   "3|BmUz6e*Z|By3|BmUz6dz:wmt^dy3mUdxBd?5ryd,3bs7$?AYAHb;2$?RUBsTHIZBb:*v%+$|%dUPRIGHT*!|%drxv5$?",
   "xwdz:w&t^czO,3cv%z0c_yc|Xcv%|Xd$6b&n$?SAJDAHbs2pEzO;8dv%;8b+$v%;8|BFILLEDpEb:*zOz:by&qp|BwyVc*",
   ":|BwyVas^m%rW|%d%Gd^+d?5duBdtpd:qd,tdsMd$Wam$y&,?|Brwn&cqm|Brwn&cun|Brwn&b:VSINDHIm3dPOSTPOSIT",
   "IONz?by&vr|BwyVa=4s7$?%wb=DuL;8b;yuL;8b=Dpwb;ypwbv|pwbpw:xyrd+3b=Dpw:xyrb;ypw:x+3bCONTRACTIONb",
   "HARKLEAN.OBELUScMETOBELUScASTERISCUSb~2~mCzqby&ALAPHc=AALAPHcn=cGAMALdGARSHUNIcDALATHcrxDALATH",
   ".RISHcv4c_yc|vcvwc?AdGARSHUNIcYUDHdv4cxWcLAMADHcMIMc$!cSEMKATHct3SEMKATHcEc%_c+F%_c+^cQAPHcRIS",
   "Hc:Gc=ycPERSIAN.BHETHdGHAMALdDHALATHbPTHAHAmEcn&crzbZQAPHAmEcn&crzbRBASAmEcn&brzZLAMAv|dANGULA",
   "RbHBASAmEcn&bHBASA-ESASArzbESASAmEcn&bRWAHAbFEMININErwbQUSHSHAYAbRUKKAKHAb^+_1rymEen&b?5rymEdn",
   "&b$+y?mEdn&bMUSICbBARREKHb~3~y&:^ZHAINdKHAPHdtOam$y&n$|B?5ryHORIZONTALLYn&erwn&m5?5rymEe?5ry&w",
   "_On&jm5^+rymEe^+ryn&m5rwmEewy:*Vn&e:*VcvF|B^+rymEe?5ry&w_On&cqp|B^+ry_2n&m5:*=mewy:*Vn&c*:|B;r",
   "c,3|BuBrymEcmQ|B^+rymEe?5ry&wr:mEe^+ry_2mEctS|B^+ryn&e?5ry&w_On&cxp|BrwmEe?5rymEg&w_On&cz:|Brw",
   "mEfn&c$6|B^+ryn&e:*=mfVcy3|Bnoc*:|B^+ry_2mEevMmEc,3|B^+ry_2mEcvF|B:*m$y&=mn&im5^+ryc,3|B:*m$y&",
   "=mm5^+ryc*:|B:*m$y&=mm5^+rycvF|B:*m$y&=mmEcmU|Bs^m%rW^+mEh?5mEctL|X|Bs^m%rW^+mEi?5mEiuBn&c_y|B",
   "s^m%rW^+mEh?5mEc|Xns|Bs^m%rW^+mEi?5mEcvF|Bs^m%rWuBn&c,3|Bs^m%rWuBmEewyVcxQ|B^+rymEaTHAANAy&vEc",
   "SHAVIYANIcNOONUcRAAcBAAcLHAVIYANIcKAAFUcALIFUcVAAVUcMEEMUcFAAFUcDHAALUc?FcLAAMUcGAAFUcGNAVIYAN",
   "IcSEENUcDAVIYANIcZAVIYANIcTAVIYANIc|RcPAVIYANIcJAVIYANIcCHAVIYANIcTTAAcHHAAcKHAAcTHAALUcZAAcSH",
   "EENUcSAADHUcDAADHUc?+c|?cAINUcGHAINUcQAAFUcWAAVUbABAFILIbAABAAFILIbIBIFILIbEEBEEFILIbUBUFILIbO",
   "OBOOFILIbEBEFILIbEYBEYFILIbOBOFILIbOABOAFILIb;,by&!%a~F~NKOrW|%c%Gc^+c?5cuBctpc:qc,tcsMc$Wby&A",
   "csKcIcEcUc%IcOcDAGBASINNAcNcnUc%7c=5cw?cpHcq9c*nc+&c+=cGBActHcxPcyYc!$WOLOSOczXc$$c!$cvDc_rc|Q",
   "c$$WOLOSOcJONAw?dpHd*nbpx:Kv%?:dzO?:d+n?:czJrG?:dv%?:dzO?:d+n?:c!:zqcr!rwmEbv%?:mxbzO?:mxb=M%I",
   "DENNENcGBAKURUNENbpybs?zqbLAJANYALANb~3~DANTAYALANbDOROME:VbTAMAN:Va,Ey&ALAFcBITcGAMANcDALATcI",
   "YcBAAcZENcITcTITcYUTcKAAFcLABATcMIMc$!cSINGAATcw3ctVcTSAADIYcQUFcRISHc,*cTAAFbzqw3cIN-ALAFcOCC",
   "LUSIONcqnb!Qy&spYUTbzqspYUTb_n:VzJEdEdOVERLONGmBdzJmBdmBdOVERLONG.AdzJAdAb!Qy&:KAb_n:V:KAdzJUd",
   "Ub!Qy&Ib_n:VzJIdIdOd;,bzqNEQUDAAb~3~*UNEQUDAAcAFSAAQcANGEDcBAUcATMAAUcSHIYYAALAAbmCzqb*UMELODI",
   "C.QITSAcZIQAAcQITSAcZAEFcTURUcARKAANUcSOF.MASHFAATcANNAAUa~2~MANDAICy&HALQAcABcAGcADcmOcUSHENN",
   "AcAZcITcATTcAKSAcAKcALcAMcm4cnCcw3cAPcASZcAQcARcnFcnMcDUSHENNAcKADcmQbAFFRICATIONzqbVOCALIZATI",
   "ONzqbu3zqb~3~*Ua~2~=4y&z7$Gdw?d$$d^8d$2d$3dn^d*ndzBdzCd;Qa~6~m$y&mU|BnOtMf^G+3tMe+3!D;reyr!D;r",
   "enOx5foU+3x5f+!rwmEf+3+!rwfyr+!rwf+!rwn&erwmEenO^G+3tMm5rwmEe+3!D;rm5rwmEenOoU+3x5m5rwmEf^G+3t",
   "Mm5yr+me+3!D;rm5yr+menOoU+3x5m5yr+mf+3vMfyrvMb=w|BOVERSTRUCKvMe_yd^+ryn&by&?S|XbBASELINE+!rwb*",
   "t+!rwby&$6|Bwy:*VcvF|Bwy:*Vn&c=m|Brwn&e?5ryn&cxp|B^+ry_2n&b_1=ob~2~&,zqmEbPIASTREzqmEb~7~:*v%|",
   "IAL-JUZczO|IISHMAAMeIMAALAeTASHEELbz0WAAJIBb=AmUMOKHASSASbr*z0bvIz0%Yz0by&n$|B:*Vn&evMmEcxB|B^",
   "+rymEc=m|B^+rymEctS|Brwn&m5?5rymEc*Z|Brwn&cy3|Br!nocz:|B?5rymEc|X|B^+ryn&m5vMmEirwmEc*:|BzMc_y",
   "|Brw|CcROHINGYA|XczOmUcqp|B?5ryn&c+?|B?5ryn&cuS|Bwy;rc;9_yc|v|BwyVmEcmQ|B?5ryn&cxQ|Brwn&c*Z|Br",
   "wn&m5$4rymEcn$|B:*z:mEc&B|B:*z:mEc=*|B:*=*mEc*:|B:*$6mEc|X|B^+ryn&m5:*$6mEcmNtSd*Zd$6c&B|B:*Vc",
   "=*|B:*VcTTEH|B:*Vc=z|B:*Vcxp|B:*Vcun|B?5rymEcmN*Z|B?5rymEcxB|B?5rymEgn&cy3|B:*m$y&=mmEcGRAFb:*",
   "tL|Xcv%tL|Xd|Xns|B^+ryn&d|ISAHd|uby7+!rwmEen&b;,n&by7p3n&c+!rwwop3n&b:*zO_ycv%|IAR-RUBd+?dmQd*",
   "Zd$6|Bx5czO$6|Bx5cv%|IATH-THALATHAeAS-SAJDAeAN-NISFeSAKTAeQIFeWAQFAdFOOTNOTEztd:VSAFHAbDISPUTE",
   "Ds7$?AYAHb^qqsn&bq1tMcqscx5ctNcqtcx6b?:%GrwmEc^+rymEczMmEc%Grwn&c^+ryn&czMn&b%JtNcqtcx6b:*v%_y",
   "btM|B+mdrwmEbx5|Brwn&byrm|mEb+3m|mEbyrm|n&b+3m|n&br!+3m|mEf|Brwb+3m|mE|Brwbqs|Brwbzq:T$6uqarH:",
   "Vwyo+co+cmuc_6by&:KAcAcmBcIcw0cUc_Rc_8RdLco*Ec:KEcEcmPco*Oc:KOcOcnPcxPcxvcuPcumc$GcoxcpHcw?cxD",
   "c$$c^8c^9cq$cq*c$2c=5c?Ecq9crKc!$c$3c%7c&NcnUcn^czXc|Qc*nc+&cyYczBczCc_Sc,wc;Qc+=cvDb_n:V$=dOO",
   "Eb:V$wcnRb_n:VmBdIdw0dUd_Rd_8Re+%do*Ed:KEdEdmPdo*Od:KOdOdnPb:V_5b_n:V*GEdAWb%Bb;o:V^^dmtbu+mFb",
   "mHmFb_n:Vo*zJEd^_dUUEby&*YcKHHAcGHHAc|scDDDHAc+HctHcYYAc_8+%dzAb_n:V_8LezAbqubr!qubrW|%c%Gc^+c",
   "?5cuBctpc:qc,tcsMc$WbmC:Vb:Vv%;Drwby&o*Ac$=cOOEcAWc^_cUUEcMARWARIq$c|*cvp|Qcu9cJJAcuy;8cq&cnxa",
   "BENGALI.ANJIb:Vo+cmuc_6b~2~y&AcmBcIcw0cUc_Rc_8RdLc~3~EcmPc~3~OcnPcxPcxvcuPcumc$GcoxcpHcw?cxDc$",
   "$c^8c^9cq$cq*c$2c=5c?Ecq9crKc!$c~2~%7c&NcnUcn^czXc|Qc*nc~2~yYc~4~,wc;Qc+=cvDb~3~:V$wcnRb_n:VmB",
   "dIdw0dUd_Rd_8Re+%d~3~EdmPd~3~OdnPb:V_5by&KHANDA=5b~9~nPyzzqb~5~y&+&c+Hc~2~YYAc_8+%dzAb_n:V_8Le",
   "zAb~3~rW|%c%Gc^+c?5cuBctpc:qc,tcsMc$Wby&*n|B!DrNezQrNb+;zqc:Vbq2$z%Gd^+d?5duBd%GLESS?I?JrBcrB:",
   "rbISSHARbGANDAzqby&_ZmubmC:Vb,Izqa~3~GURMUKHI:VADAK.BINDIcBINDIc_6b~2~y&AcmBcIcw0cUc_Rc~5~sKcm",
   "Pc~3~%IcnPcxPcxvcuPcumc$GcoxcpHcw?cxDc$$c^8c^9cq$cq*c$2c=5c?Ecq9crKc!$c~2~%7c&NcnUcn^czXc|Qc*n",
   "c~2~yYczBc~2~_Sc,wc~2~+=cvDb~3~:V$wb~2~_n:VmBdIdw0dUd_Rd~5~sKdmPd~3~%IdnPb:V_5c~4~UDAATb~8~y&K",
   "HHAcGHHAc|sc+&c~2~tHb~8~rW|%c%Gc^+c?5cuBctpc:qc,tcsMc$WbTIPPIbADDAKbIRIbURAbEK.ONKARb:VYAKASHb",
   "mC:Va~B~GUJARATI:Vo+cmuc_6b~2~y&AcmBcIcw0cUc_Rc_8RdLb_no*Eb~2~y&EcmPb_no*Ob~2~y&OcnPcxPcxvcuPc",
   "umc$GcoxcpHcw?cxDc$$c^8c^9cq$cq*c$2c=5c?Ecq9crKc!$c~2~%7c&NcnUcn^czXc|Qc*nc~2~yYczBc~2~_Sc,wc;",
   "Qc+=cvDb~3~:V$wcnRb_n:VmBdIdw0dUd_Rd_8Re+%do*Ed~2~EdmPdo*Od~2~OdnPb:V_5b~3~%Bb~10~y&_8+%dzAb_n",
   ":V_8LezAb~3~rW|%c%Gc^+c?5cuBctpc:qc,tcsMc$WbmC:Vb+;:Vb~8~y&|*b:V;,c,ycMADDAHcTHREE-DOT$wmEcp3$",
   "wmEc^,$wmEa~2~ORIYA:Vo+cmuc_6b~2~y&AcmBcIcw0cUc_Rc_8RdLc~3~EcmPc~3~OcnPcxPcxvcuPcumc$GcoxcpHcw",
   "?cxDc$$c^8c^9cq$cq*c$2c=5c?Ecq9crKc!$c~2~%7c&NcnUcn^czXc|Qc*nc~2~yYczBc~2~_Sc,wc;Qc+=cvDb~3~:V",
   "$wcnRb_n:VmBdIdw0dUd_Rd_8Re+%d~3~EdmPd~3~OdnPb:V_5c~8~%4bmPyzzqbnPyzzqb~5~y&+&c+Hc~2~YYAc_8+%d",
   "zAb_n:V_8LezAb~3~rW|%c%Gc^+c?5cuBctpc:qc,tcsMc$WbISSHARby&_rbuE%G*5dvIc?5*6c%G:sdsOc?5:ta~B~=t",
   ":Vmuc_6b~2~y&AcmBcIcw0cUc_Rc~4~EcsKcmPc~2~Oc%IcnPcxPc~4~$Gcoxc~2~w?c~2~$$c^8c~4~$2c=5c~4~!$c$3",
   "c%7c~4~zXc|Qc*nc+&cyYczBczCc_Sc,wc;Qc+=cvDb~5~_n:VmBdIdw0dUd_Rd~4~EdsKdmPd~2~Od%IdnPb:V_5b~3~%",
   "Bb~7~nPyzzqb~F~rW|%c%Gc^+c?5cuBctpc:qc,tcsMc$Wb$x=:c%GwGd?2bDAY:VbMONTH:VbYEAR:VbDEBIT:VbqJ:Vb",
   "nCmE:Vb+;:Vb$x:Va~6~TELUGU:Vpxo+mEco+cmuc_6cpxmumEby&AcmBcIcw0cUc_Rc_8RdLc~2~EcsKcmPc~2~Oc%Icn",
   "PcxPcxvcuPcumc$GcoxcpHcw?cxDc$$c^8c^9cq$cq*c$2c=5c?Ecq9crKc!$c~2~%7c&NcnUcn^czXc|Qc*nc+&cyYczB",
   "czCc_Sc,wc;Qc+=cvDb~3~:V$wcnRb_n:VmBdIdw0dUd_Rd_8Re+%d~2~EdsKdmPd~2~Od%IdnPb:V_5b~8~yzzqbmPyzz",
   "qb~2~y&^3csCcRRRAc~3~NAKAARA.POLLUc~3~_8+%dzAb_n:V_8LezAb~3~rW|%c%Gc^+c?5cuBctpc:qc,tcsMc$Wb~8",
   "~:V:RbuErW|%t=$;&?$?uBd%Gt=$;&?$?uBd^+t=$;&?$?uBd?5t=$;&?$?uBd%Gt=s=&?$?uBd^+t=s=&?$?uBd?5t=s=",
   "&?$?uBb:VTUUMUaKANNADA:V;Do+co+cmuc_6c:Rby&AcmBcIcw0cUc_Rc_8RdLc~2~EcsKcmPc~2~Oc%IcnPcxPcxvcuP",
   "cumc$GcoxcpHcw?cxDc$$c^8c^9cq$cq*c$2c=5c?Ecq9crKc!$c~2~%7c&NcnUcn^czXc|Qc*nc+&cyYczBc~2~_Sc,wc",
   ";Qc+=cvDb~3~:V$wcnRb_n:VmBdIdw0dUd_Rd_8Re+%d~2~EdsKdmPd~2~Od%IdnPb:V_5b~8~yzzqbmPyzzqb~7~y&NAK",
   "AARA.POLLUctHc~2~_8+%dzAb_n:V_8LezAb~3~rW|%c%Gc^+c?5cuBctpc:qc,tcsMc$Wb~2~:VxFc_Ka~E~z7:Vpxmum",
   "Eco+cmuc_6by&_ZmucAcmBcIcw0cUc_Rc_8RdLc~2~EcsKcmPc~2~Oc%IcnPcxPcxvcuPcumc$GcoxcpHcw?cxDc$$c^8c",
   "^9cq$cq*c$2c=5c?Ecq9crKc!$c$3c%7c&NcnUcn^czXc|Qc*nc+&cyYczBczCc_Sc,wc;Qc+=cvDcTTTAb:V_1no_5cp6",
   "_5cnRb_n:VmBdIdw0dUd_Rd_8Re+%d~2~EdsKdmPd~2~Od%IdnPb:V_5by&rwREPHb:VPARAb~5~y&CHILLU.MdYdLLLbn",
   "PyzzqbuE%G%HdFORTIETHc?5sQc%G^wdTENTHc?5^xc%GFIFTHby&m*w0c_8+%dzAb_n:V_8LezAb~3~rW|%c%Gc^+c?5c",
   "uBctpc:qc,tcsMc$Wb$x=:c%GwGd?2buE%G*5dvIc?5*6c%G:sdsOc?5:tbDATEzqby&CHILLU.NNdNd+%dLdzAdKa~2~S",
   "INHALA:Vo+cANUSVARAYAcVISARGAYAb~2~y&AYANNAcAAYANNAcAEYANNAcAEEYANNAcIYANNAcIIYANNAcUYANNAcUUY",
   "ANNAcIRUYANNAcIRUUYANNAcILUYANNAcILUUYANNAcEYANNAcEEYANNAcAIYANNAcOYANNAcOOYANNAcAUYANNAc~4~mY",
   "KAYANNAcz3KAYANNAcmYu1cz3u1cKANTAJA!&c,Ku1cmYCAYANNAcz3CAYANNAcmYw_cz3w_cTAALUJA!&dSANYOOGA.NA",
   "AKSIKYAYAc,Kw_cmYTTAYANNAcz3TTAYANNAcmYq%cz3q%c!wNAYANNAc,Kq%cmYTAYANNAcz3TAYANNAcmYq!cz3q!cqv",
   "NAYANNAc~2~,Kq!cmYPAYANNAcz3PAYANNAcmYnwcz3nwcMAYANNAcAMBAnwcYAYANNAcRAYANNAc~2~qvLAYANNAc~3~V",
   "AYANNAcTAALUJA,Pc!w,Pcqv,PcHAYANNAc!wLAYANNAcFAYANNAb~4~:VAL-LAKUNAb~5~_n:VmLdKETTImKdrUmKdKET",
   "TI.IS-PILLAdrUIS-PILLAdKETTI%8d~2~rU%8d~2~uRdyJdrUyJdKOMBU.DEKAdyJvEmLfrUmLfu2du2b~7~LITHrW|%d",
   "%Gd^+d?5duBdtpd:qd,tdsMd$Wb~3~_n:VrUuReu2b*UKUNDDALIYAa~D~THAIpJyHxRcx%KHAIdKHUATdKHWAIdKHONdR",
   "AKHANGc$JNGUcpXCHANdCHINGdCHANGc:=:=cpXCHOEc|mYINGcrpCHADAc?+PATAKc?Z?IdNANGMONTHOdPHUTHAOc$4N",
   "ENcrpDEKc?+TAOc?ZTHUNGdTHAHANdTHONGc$4$ucoNBAIMAIc&rPLAc&TPHUNGct+tHc&TPHANct+FANc&TSAMPHAOc!O",
   "zXc|mYAKc+oRUAc++czDLINGczSc|EWAENc:=SALAdRUSIdSUAcv:HIPczDCHULAcOm6cv:NOKHUKcPAIYANNOIcSARA.A",
   "cz5HAN-AKATcSARAmBdAMdIdw0d^_dUEEdUd_RcPHINTHUb~5~q2=MBAHTbpJSARA.EdmJdOdmPMAIMUANeMAIMALAIcLA",
   "KKHANGYAOcMAIYAMOKcMAITAIKHUcz5EKd?ZdTRIdCHATTAWAcTHANTHAKHATcNIKHAHITcYAMAKKANcFONGMANbrW|%c%",
   "Gc^+c?5cuBctpc:qc,tcsMc$WbpJANGKHANKHUcKHOMUTa~26~LAOy&yHcx%;_d~2~=sc~2~%qumc$Jcpvc%qpHc:==sc~",
   "2~%qxDc$*c%q$$d^8d^9dq$dq*d$2crpc?+c?Z;_d=sc%qrKc$4coNc&rc&T;_ct+=sc&T=sct+;_c%qn^c!Oc|mczDLIN",
   "Gd~2~LOOTc~2~|EcSANSKRIT,wd;Qc:=;_cv:;_c%qzBcOcv:=sbsZb_n:VAdz5xTdmBdAMdIdw0dYdYYdUd_Rb:V%q_5b",
   "_n:Vz5KONbSEMIVOWEL:VzDd$*b~3~_n:VEdEIdOdnSdmPb~2~yHyYb~2~?:z5EKd?Zd?mdCATAWAbo&zqbNIGGAHITAb~",
   "3~rW|%c%Gc^+c?5cuBctpc:qc,tcsMc$Wb~3~v:$4c!Oby&KHMUuzd$*a~21~?n=L%BbzqGTER|8z_TRUNCATED.Af-UM.",
   "RNAM.BCADzXgGTER^6zXcwm|8z_MDUNzXcpq|8z_SGABzXco=|8z_PHUR,xzXc|8z_^6,xzXcSBRUL,xcBSKUR|8z_cBKA",
   "-.SHOG|8z_cINTERSYLLABIC^6cq_^6BSTARc,xc$&,xc^6,xc$&^6,xcRIN.CHEN.SPUNGS,xcRGYA.GRAM,xco=-DZUD",
   "+*zzzJo!cGTER^6bLOGOTYPE:VCHAD+*dLHAG+*bnK:VSGRA.GCAN.-CHAR+*d-KHYUD%7dSDONG.TSHUGSb:V*vDKAR.G",
   "CIGeGNYISeGSUMdNAG.GCIGeGNYISdDKAR*vNAGbrW|%c%Gc^+c?5cuBctpc:qc,tcsMc$WcvI%Gd^+d?5duBdtpd:qd,t",
   "dsMd$Wd|%bzqBSDUS+*cNGAS.BZUNG$%ZLAco=-DZUD+*BZHI.MIGo!cNGAS.BZUNG.SGOR+*cpNz_c^3-PHRUcGUG+*GY",
   "ONeGYAScm6KHANG.GYONeGYASb:VYAR.TSHEScMAR.TSHESby&xPcxvcuPcumc$GcoxcpHcw?c~2~$$c^8c^9cq$cq*c$2",
   "c=5c?Ecq9crKc!$c%7c&NcnUcn^czXc^3c^5csCcsFc_rc|*c|sc-Ac|Qc*ncyYc,wc;Qc+=cvDcAcyRctq*ncKKAc+&b~",
   "5~_n:VmBdIdw0dUd_Rd_8Re+%eLezAdEdsKdOd%Ib:VRJES;t$G+ocRNAM.BCADb_n:V+FIew0b:V$%ZLA!%q9cSNA.LDA",
   "NbzqvHcPALUTAb:VLCI+*c|T+*cLCE^3o!czyo!cGRUo!RGYINGSdMED.RGYINGScwyzyo!b;v:VLCE^3o!dzyo!dwyzyo",
   "!cy&xPdxvduPdumd$GdoxdpHdw?d~2~$$d^8d^9dq$dq*d$2d=5d?Edq9drKd!$d%7d&NdnUdn^dzXd^3d^5dsCdsFd_rd",
   "|*d|sd-Ad|Qd*ndyYd,wd;Qd+=dvDdAdyRdtq_re|Qe*nb~2~yS++xveBZHI.MIGo!bCANTILLATION:VvpBEATdy;BEAT",
   "dCANG.TE-UdSBUB.-CHALb=MDRILo6cRDO.RJEcPADMA.GDANcRDO.RJE.RGYA.GRAMcPHUR%7c$7o6e$&mAeGSUMmAeBZ",
   "HImAb~2~:V*vNAG*vDKAReGSUMbzqBSKA-.SHOGurz_RGYANcMNYAM|8urz_RGYANc$&^6cwmBRDA.RNYING|8z_MDUNzX",
   "cpqBRDA.RNYING|8z_SGABzXa+4=G:Vays=G:Va+4=G:V|Bryays=G:V|Brya?nzqLEADING.MCHAN+*cTRAILING.MCHA",
   "N+*a~26~!xy&xPcxvcuPcumc$GcoxcpHcw?cxDc$$cNNYAc^8c^9cq$cq*c$2c=5c?Ecq9crKc!$c%7c&NcnUcn^czXc|Q",
   "c*ncyYc_rc+=cvDczBcAc,*AcIcw0cUc_RcEc!WEcOcnPb_n:V=rmBdmBdIdw0dUd_RdEdmPd!Ww0eOdEmEb:Vmucrwn&c",
   "_6c_5cASATbp;:Vz+|Qe*ne_revDby&u,+=brW|%c%Gc^+c?5cuBctpc:qc,tcsMc$Wb:Vy_,1c,1b=MLOCATIVEcCOMPL",
   "ETEDcAFOREMENTIONEDcGENITIVEby&,wc;Qc_8Rd+%dLdzAb_n:V_8Re+%eLezAby&!W$GdxDdnxdBBEbp;:V!Wz+!$fz",
   "XfyYby&SGAWx3,wb_n:VSGAWx3EUb?:zqSGAWx3HATHIfxo&Tby&_**Xx3?EfPWAb_n:V_**Xx3EUg^_b:V_**Xx3?;f?=",
   "f??f?^f?_by&EASTERN*Xx3$2fYWAfGHWAb_n:VGEBAx3IdKAYAH$=eUesKby&,*xPdxvduPdoxd|sd$$dq9d!$d&NdtHd",
   "nUd?EdvDbp;:V,*z+_rb_n:V,*mBeEfmEet3Yb:V,*?=d??d?_d?|dCOUNCIL?=e??eEMPHATIC?:by&RUMAI%ptHb:VRU",
   "MAI%p?_b,*rW|%d%Gd^+d?5duBdtpd:qd,tdsMd$Wb:Vxy?;d??b_n:VAITON.AemPb=M,*%Gds?au5o,y&m4dBANduWdD",
   "ONds3dVINdZENdTANdw3dxTdLASdzmdNARd%EdPARd|+d*pd,Hd=udUNd&OdxzduodQARd:GdpWdo!dJILdCILdpIdXANd",
   "xEdHAEdv4dHIEd_!dv0dHOEd~2~YNd~6~mMb~3~y&m4cBANcuWcDONcs3cVINcZENcTANcw3cxTcLASczmcNARc%EcPARc",
   "|+c*pc,Hc=ucUNc&OcxzcuocQARc:GcpWco!cJILcCILcpIcXANcxEcHAEcv4cHIEc_!cv0cHOEctVcYNcELIFIc^quWcm",
   "Qb%w,pa!Qy&u5NARau5y&mMcv1:VcLABIAL:VavZCHOSEONGx=c;Uc$Mc?sc;Zc+Mc!Fc&Xc;Wc:3c;YcwXcp2c;RcpVcx",
   "$c?Rc&Rcv$c$Pc;Vc$ScNIEUN-PIEUPc?uc+Tc;Xc+Ncx1c!IcxYc&1cPIEUP-NIEUNc&7c&3c&4c&5cPIEUP-SIOS-PIE",
   "UPcPIEUP-SSANGSIOScPIEUP-SIOS-CIEUCc&Zc&Yc&6c&2cx0cx2c:7c:9c:pc:nc:8c:mcSIOS-PIEUP-KIYEOKcSIOS",
   "-SSANGSIOScSIOS-IEUNGc:5c:4cSIOS-KHIEUKHc:ocSIOS-PHIEUPHc:6cCHITUEUMSIOScCHITUEUMSSANGSIOScCEO",
   "NGCHIEUMSIOScCEONGCHIEUMSSANGSIOSc%tcwYcIEUNG-TIKEUTcIEUNG-MIEUMcIEUNG-PIEUPcIEUNG-SIOScIEUNG-",
   "PANSIOSc;TcIEUNG-CIEUCcIEUNG-CHIEUCHcIEUNG-THIEUTHcIEUNG-PHIEUPHc|3cCIEUC-IEUNGcCHITUEUMCIEUCc",
   "CHITUEUMSSANGCIEUCcCEONGCHIEUMCIEUCcCEONGCHIEUMSSANGCIEUCcCHIEUCH-KHIEUKHcCHIEUCH-HIEUHcCHITUE",
   "UMCHIEUCHcCEONGCHIEUMCHIEUCHc&ScxZc;Sc|0cKIYEOK-TIKEUTc$Rc$Nc$Oc?wct2bxNt2cAcmJc|QcYAEcEOcEcYE",
   "Oc|VcOc_rcWAEc$=c|mcUcWEOc_!c_;c|qcEUc|7cIcA-OcA-UcYA-OcYA-YOcEO-OcEO-UcEO-EUcYEO-OcYEO-UcO-EO",
   "cO-EcO-YEcO-OcO-UcYO-YAcYO-YAEcYO-YEOcYO-OcYO-IcU-AcU-AEcU-EO-EUcU-YEcU-UcYU-AcYU-EOcYU-EcYU-Y",
   "EOcYU-YEcYU-UcYU-IcEU-UcEU-EUcYI-UcI-AcI-YAcI-OcI-UcI-EUcI-ARAEAcARAEAcARAEA-EOcARAEA-UcARAEA-",
   "IcSSANGARAEAcA-EUcYA-UcYEO-YAcO-YAcO-YAEbxLx=c;Ucx?c$Mc$Nc$Oc?sc+Mc+Qc+Sc+Wc+Yc+0c+Vc+Nc!Fc&Xc",
   "&3c:3c;YcwXcp2cpVcx$c?Rc&Rcv$cKIYEOK-RIEULcKIYEOK-SIOS-KIYEOKc$Pc$Sc$Rc$QcNIEUN-THIEUTHc?uc?wc",
   "+Rc+Tc+1cRIEUL-TIKEUT-HIEUHc;XcRIEUL-MIEUM-KIYEOKcRIEUL-MIEUM-SIOSc+XcRIEUL-PIEUP-HIEUHc+OcRIE",
   "UL-SSANGSIOSc+Uc+Pc+2c!GcMIEUM-RIEULc!Ic!JcMIEUM-SSANGSIOSc!HcMIEUM-CHIEUCHcMIEUM-HIEUHcxYcPIE",
   "UP-RIEULc&2c&0cx0c:7c:pc:nc:mc%tcwYcIEUNG-SSANGKIYEOKc;TcIEUNG-KHIEUKHc|3c|5c|4c&ScxZcHIEUH-NI",
   "EUNcHIEUH-RIEULcHIEUH-MIEUMcHIEUH-PIEUPc|0cKIYEOK-NIEUNcKIYEOK-PIEUPcKIYEOK-CHIEUCHcKIYEOK-KHI",
   "EUKHcKIYEOK-HIEUHc;Vas;=LvDcwEcvzcvEcHEEcv4cv:cHOAcyYczScy,cLAAcLEEcymczDcLWAcvycHHUcHHIcHHAAc",
   "HHEEcHHEcHHOcHHWAczXc!pcz|cMAAcMEEczzc!OcMWAcSZAcSZUcSZIcSZAAcSZEEcSZEcSZOcSZWAc*nc++c+JcRAAcR",
   "EEc*wc+ocRWAc+=c;tc:QcSAAc,2c,Xc:=cSWAc,wc:Nc:BcSHAAc,=c,;c:HcSHWAc*YcQUcQIcQAAcQEEcQEcQOcQOAc",
   "QWAc~2~QWIcQWAAcQWEEcQWEc~3~QHAcQHUcQHIcQHAAcQHEEcQHEcQHOc~2~QHWAc~2~QHWIcQHWAAcQHWEEcQHWEc~3~",
   "nUco6cn_cBAAcnzcnycoNcBWAc_ScVUcVIcVAAc_0c_YcVOcVWAc=5c^nc?mc=6c=&c=!c?+cTWAcoxcCUcCIcCAAcCEEc",
   "CEcpvcCWAc|NcXUc|OcXAAcXEEcXEcXOcXOAcXWAc~2~XWIcXWAAcXWEEcXWEc~3~!$c$uc$Lc!%cNEEc!^c$4cNWAc$$c",
   "NYUc$%cNYAAcNYEEcNYEc$*cNYWAcuyAdUdIdmBdsKdEdOd_rcxPcyScx*cKAAcKEEcxocyHcKOAcKWAc~2~KWIcyWcKWE",
   "EcKWEc~3~KXAcKXUcKXIcKXAAcKXEEcKXEcKXOc~2~KXWAc~2~KXWIcKXWAAcKXWEEcKXWEc~3~_rc|Lc_;cWAAcWEEc_!",
   "c|EcWOAc&PAdUdIdmBdsKdEdOc~2~|sc|^cZIcZAAcZEEc|!c|?cZWAc|*cZHUcZHIcZHAAc|:c|,cZHOcZHWAc|Qc|qc|",
   "7c|Rc|Wc|Vc|mcYOAcq9cr_crLcDAAcq;cq+crpcDWAcq$cDDUcDDIcDDAAcDDEEcDDEcDDOcDDWAcw?cJUcJIcJAAcxAc",
   "w|cxGcJWAcuPcvAcurcGAAcGEEcGEcuzcGOAcGWAc~2~GWIcGWAAcGWEEcGWEc~3~u9cGGUcGGIcGGAAcGGEEcGGEcGGOc",
   "GGWAAc?EcTHUc?Qc?Fc?Kc?Jc?ZcTHWAcpHcCHUcpUcCHAAcpQcpNcpXcCHWAc&NcPHUc&QcPHAAcPHEEcPHEc&TcPHWAc",
   "^3cTSUc^7cTSAAcTSEEc^4cTSOcTSWAcTZAcTZUcTZIcTZAAcTZEEcTZEcTZOcTZOActHcFUctVcFAActQctOct+cFWAc%",
   "7c*Tc&UcPAAc&Ac%_c&rcPWAcRYAcMYAcFYAb~3~pxu3m5_nyzzqc_nyzzqcu3zqb,1zqbWORDSPACEbuL;8bpyb,mbpwb",
   "PREFACEpwb*8zqb%w,pbrW%Gc^+c?5cuBctpc:qc,tcsMc$Wb$x=:c^yc?Wct_ctYc:uc,vcsRc$YcwGc=:?2b~4~=L,YM",
   "WAcMWIcMWEEcMWEc,YBWAcBWIcBWEEcBWEc,YFWAcFWIcFWEEcFWEc,YPWAcPWIcPWEEcPWEbTONALzqYIZETdDERETdRI",
   "KRIKd:KRIKRIKdDIFATdKENATdCHIRETdHIDETdDERET-HIDETdKURTa~7~CHEROKEEy&AcEcIcOcUcVcuPcxPcGEcurcu",
   "zcvAcGVcvDcv4cvzcv:cwEcHVcyYcymcy,czDczScLVczXczzcz|c!Oc!pc!$cHNAcNAHc!^c$Lc$4c$ucNVcQUAcQUEcQ",
   "UIcQUOcQUUcQUVc+=cSc,Xc:Qc:=c;tcSVcq9c=5cq+c=!crLc?mcrpcr_cDVcDLAcTLAcTLEcTLIcTLOcTLUcTLVc^3c^",
   "4c^7cTSOcTSUcTSVc_rc_!c_;c|Ec|LcWVc|Qc|Vc|7c|mc|qcYVcMVb~3~:*y&|Vd|7d|md|qdYVdMVa~3~o$=KwIcEcA",
   "AIcIcw0cOc%Ic|P%Ico_sKdIcAcmBc_!c_&_!c_;c_&_;cWIIc_&WIIc|Ec_&|EcWOOc_&WOOc!;WOOc_rc_&_rcWAAc_&",
   "WAAc!;WAAcmPc|PWcuy;8ct3mHdu+doUvI+md^GvI+md+3vI+md+mdr!mHe:K_1;sd!Drwd:Kv|;rd&qdr+=9cs3cw3c%E",
   "cm4c%_cPAAIc&UcPIIc&rcPOOc|PPOOco_HEEdvzc%7cPAAcPWEc_&PWEcPWIc_&PWIcPWIIc_&PWIIc*Xc_&*XcPWOOc_",
   "&PWOOcPWAc_&PWAcPWAAc_&PWAAc|PPWAAcPc_&Pco_Hc=!cTAAIc?mcTIIc?+c^Ec|P^Eco_q;drLc=5c=6cTWEc_&TWE",
   "cTWIc_&TWIcTWIIc_&TWIIc^+c_&^+cTWOOc_&TWOOcTWAc_&TWAcTWAAc_&TWAAc!;TWAAcTcTTEcTTIcTTOc^8cxocKA",
   "AIcx*cKIIcyHcKOOc|PKOOcxPcKAAcKWEc_&KWEcKWIc_&KWIcKWIIc_&KWIIcKWOc_&KWOcKWOOc_&KWOOcKWAc_&KWAc",
   "yWc_&yWc!;yWcKcKWcSOUTH-SLAVEY.KEHdKIHdKOHdKAHcCEcCAAIcCIcCIIcpvcCOOc|PCOOcoxcCAAcCWEc_&CWEcCW",
   "Ic_&CWIcCWIIc_&CWIIcCWOc_&CWOcCWOOc_&CWOOcCWAc_&CWAcCWAAc_&CWAAc!;CWAAcCc,QTHczzcMAAIcz|cMIIc!",
   "OcMOOc|PMOOczXcMAAcMWEc_&MWEcMWIc_&MWIcMWIIc_&MWIIcMWOc_&MWOcMWOOc_&MWOOcMWAc_&MWAcMWAAc_&MWAA",
   "c!;MWAAcMc_&McMHcnNMc,QMc!^cNAAIc$LcNIIc$4cNOOc|PNOOc!$c!%cNWEc_&NWEcNWAc_&NWAcNWAAc_&NWAAc!;N",
   "WAAcNco_$FcNHcymcLAAIcy,cLIIczDczLc|PzLcyYcLAAcLWEc_&LWEcLWIc_&LWIcLWIIc_&LWIIcLWOc_&LWOcLWOOc",
   "_&LWOOcLWAc_&LWAcLWAAc_&LWAAcLc_&Lcz+Lc,XcSAAIc:QcSIIc:=cSOOc|PSOOc+=cSAAcSWEc_&SWEcSWIc_&SWIc",
   "SWIIc_&SWIIcSWOc_&SWOcSWOOc_&SWOOcSWAc_&SWAcSWAAc_&SWAAc!;SWAAcScnNScSWcoJScMOOSE-CREE.SKc!;SK",
   "WdS-WdSPWAdSTWAdSKWAdSCWAc,;c:Bc:Ec:HcSHOOc,wcSHAAc:Pc_&:PcSHWIc_&SHWIcSHWIIc_&SHWIIcSHWOc_&SH",
   "WOcSHWOOc_&SHWOOcSHWAc_&SHWAcSHWAAc_&SHWAAcSHc|VcYAAIc|7cYIIc|mcYOOc|PYOOc|Qc|RcYWEc_&YWEcYWIc",
   "_&YWIcYWIIc_&YWIIcYWOc_&YWOcYWOOc_&YWOOcYWAc_&YWAcYWAAc_&YWAAc!;YWAAcYcBIBLE-CREE.Yc_&Yc,Q|7c*",
   "wcR-CREE*wc_&ymcRAAIc+JcRIIc+ocROOc_&zDc*ncRAAc_&yYcRWAAc_&RWAAcRc_&Rcz+RctOcFAAIctVcFIIct+cFO",
   "OctHcFAAcFWAAc_&FWAAcFc?Jc!!?Jc?Qc!!?QcTHIIc!!THIIc?ZcTHOOc?Ec?FcTHWAAc_&THWAAcTHcTTHEcTTHIc^m",
   "c^9cTTHcTYEcTYIcTYOcTYAcNUNAVIKv4dvzdHIIdv:dHOOdvDdvEdHcNUNAVUT.HcHKcQAAIcQIcQIIcQOcQOOc*YcQAA",
   "cQcTLHEcTLHIcTLHOcTLHAc_&*wd+Jd+od*ncNGAAIcNGIcNGIIc$JcNGOOc$Gc$Hc$FcNNGc,Q,;d:Bd:Hd,wc|H?Jd?Q",
   "d?Zd?EdTHcLHIcLHIIcLHOcLHOOcy+cLHAAcLHcTH-CREE?Jd?QdTHIId?ZdTHOOd?Ed?FdTHcAIVILIK.BcoJEdIdOdAd",
   "_!d_;d|Ed_rd!^d$Ld$4d!$dxodx*dyHdxPc,Qv4dvzdv:dvDco_GHUdGHOdupdGHEEdGHIdumd++d+od*wdREEd+Jd*nd",
   "|Ld|Ed_!dWEEd_;d_rdHWUdHWOdHWEdHWEEdHWIdHWAdTHUd?Zd?Jd?Kd?Qd?EdTTUdTTOdTTEdTTEEdTTId^8d*Td&rd%",
   "_d&Ad&Ud%7dPdvAduzdGEdGEEdurduPdKHUdx%dKHEdKHEEdKHIdxvdKKUdKKOdKKEdKKEEdKKIdKKAdKKd$ud$4d!^dNE",
   "Ed$Ld!$d!pd!OdzzdMEEdz|dzXd|qd|md|Vd|Wd|7d|QdJUc,QJUco_xGdw|dxAdJIc,QJIco_w?dJJUdJJOdJJEdJJEEd",
   "JJIdJJAdzSdzDdymdLEEdy,dyYdDLUdDLOdDLEdDLEEdDLIdDLAdLHUdLHOdLHEdLHEEdLHIdy+dTLHUdTLHOdTLHEdTLH",
   "EEdTLHIdTLHAdTLUdTLOdTLEdTLEEdTLIdTLAd|^d|?d|!dZEEdZId|sdZdwmZdDZUdDZOdsDdDZEEdDZIdsCd;td:=d,X",
   "d,2d:Qd+=d:Nd:Hd,;d,=d:Bd,wdSHdTSUdTSOd^4dTSEEd^7d^3dCHUdpXdpNdpQdpUdpHdTTSUdTTSOdTTSEdTTSEEdT",
   "TSIdTTSAcpU:VcuL;8cQAIcNGAIcNNGIcNNGIIcNNGOcNNGOOcNNGAcNNGAAc|HTHWEEdTHWIdTHWIIdTHWOdTHWOOdTHW",
   "AdTHWAAdt3THcoJWaOGHAM;Czqby&BEITHcLUIScFEARNcSAILcNIONcUATHcDAIRcTINNEcCOLLcCEIRTcMUINcGORTcN",
   "GEADALcSTRAIFcRUIScAILMcONNcURcEADHADHcIODHADHcEABHADHc%PcUILLEANNcIFINcEAMHANCHOLLcPEITHbtPzq",
   "b+FtPzqa~4~RUNICy&FEHU.FEOHtOFcVcURUZ.UR.UcYRcYcWcTHURISAZ.THURS?0cs:cANSUZ.AcOS.OcAC.AcAESCcL",
   "ONG-BRANCH-OSS.OcSHORT-TWIG-OSS.OcOc$=c%EcRAIDO.RAD.REID.RcKAUNAcCENcKAUN.KcGcs8cGEBO.GYFU.Gcu",
   "ZcWUNJO|MWcHAGLAZ.HcHAEGL.HcLONG-BRANCH-HAGALL.HcSHORT-TWIG-HAGALL.HcNAUDIZ.NYD.NAUD.NcSHORT-T",
   "WIG-NAUD.NcDOTTED-NcISAZ.IS.ISS.IcEcJERAN.JcGERcLONG-BRANCH-ARmJcSHORT-TWIG-AR.AcIWAZ.EOHcPERT",
   "HO.PEORTH.PcALGIZ.EOLHXcSOWILO.ScSIGEL.LONG-BRANCH-SOL.ScSHORT-TWIG-SOL.ScCcZcTIWAZ.TIR.TYR.Tc",
   "SHORT-TWIG-TYR.TcDcBERKANAN.BEORC.BJARKAN.BcSHORT-TWIG-BJARKAN.BcDOTTED-PcOPEN-PcEHWAZ.EH.EcMA",
   "NNAZzmMcLONG-BRANCH-MADR.McSHORT-TWIG-MADR.McLAUKAZ.LAGU.LOGR.LcDOTTED-LcINGWAZcINGcDAGAZ.DAEG",
   ".DcOTHALAN.ETHEL.OcsGcIORcCWEORTHcCALCcCEALCcSTANcLONG-BRANCH-YRcSHORT-TWIG-YRcICELANDIC-YRcQc",
   "Xb:0*Ub!r*UbqN*UbARLAUG=MbTVIMADUR=MbBELGTHOR=Mby&KcSHc%IcFRANKS.CASKET.OSeISeEHeACeAESCa~8~TA",
   "GALOGy&AcIcUcxPcuPc$Gc=5cq9c!$c%7cnUczXc|Qc*ncyYc_rc+=cvDb_n:VIdUb:V_5cPAMUDPODb~A~y&m**naHANU",
   "NOOy&AcIcUcxPcuPc$Gc=5cq9c!$c%7cnUczXc|Qc*ncyYc_rc+=cvDb_n:VIdUb:VPAMUDPODaPHILIPPINE:0*Ubr!*U",
   "a~A~BUHIDy&AcIcUcxPcuPc$Gc=5cq9c!$c%7cnUczXc|Qc*ncyYc_rc+=cvDb_n:VIdUa~D~TAGBANWAy&AcIcUcxPcuP",
   "c$Gc=5cq9c!$c%7cnUczXc|Qc~2~yYc_rc+=b~2~_n:VIdUa~D~KHMERy&xPcxvcyHcx%c$JcoxcpHcpvcpXc$*cq9c^9c",
   "rpc^mcNNOc=5c?Ec?+c?Zc$4cnUc&Nc&rc&Tc!Oc|mc+oczDcVOc,wcSSOc+=cvDcyYc*Ybw5_nQAQdQAAdQIdQIIdQUdQ",
   "UKdQUUdQUUVdRYdRYYdLYdLYYdQEdQAIdQOO.TYPE%Gf^+dQAUb_nINHERENT.AQdmBc:VmBdIdw0dYdYYdUd_RdUAd$=d",
   "|QdwWdEdmJdmPd%IdnPb:VNIKAHITcREAHMUKcYUUKALEAPINTUcMUUSIKATOANcTRIISAPcBANTOCcROBATcTOANDAKHI",
   "ATcKAKABATcAHSDAcSAMYOK.SANNYAcVIRIAMcCOENGcBATHAMASATcKHANcBARIYOOSANcCAMNUC.PII.KUUHcLEK^EcB",
   "EYYALcPHNAEK.MUANcKOOMUUTbq2=MRIELb:VAVAKRAHASANYAcATTHACANb~3~rW|%c%Gc^+c?5cuBctpc:qc,tcsMc$W",
   "b~7~=MLEK.ATTAK.SONeMUOYePIIeBEIeBUONePRAMe&|e*Ae&^e&_a~7~!XoEbsZbpybuL;8bpwbuBrybTODO:?wIbSIB",
   "E=LBOUNDARYztbznpycuL;8bNIRUGUbFREE_W,5%Ge^+e?5b_n,pbFREE_W,5uBbrW|%c%Gc^+c?5cuBctpc:qc,tcsMc$",
   "Wb~7~y&AcEcIcOcUc$=c^_csKc!$cm6cnUc%7c*YcuPczXcyYc+=c,wc=5cq9cpHcw?c|Qc*nc_rctHcxPcxvc^3c|scvE",
   "cZRAcy+cZHIcpUcTODOzJ_n:VdEdIdOdUd$=d^_dm6dnUd%7d*YduPdzXd=5dq9dpHdw?d^3d|Qd_rdxPdGAAdvEdJIAdN",
   "IAdsCcSIBE.EdIdIYd^_dUdm6dxPduPdvDd%7d,wd=5dq9dw?dtHdGAAdvEd^3d|sdRAAdpHd|*cznIdxPd*ndtHd|*cpH",
   "|B^+ryc~8~mWuUmu%Ge_6%GeDAMARUeUBADAMAewyUBADAMAeBALUDAe?5BALUDAeAeIexPe$Geoxe^8e^9eq$e$2e=5eq",
   "9e%7e&Ne;Qe|*e|semOcTODOmWuU=5f|*cznmWuUumf$GfoxfxDf^8fq*f=5frKf;QfCYAf|*f|scmWuUvIUf|QcznmWuU",
   "n^cmWuUDAGALGAcznmWuUy+a~6~o$=KOYcnScAAYcWAYcPOYcPAYcPWOYcTAYcKAYcKWAYcMAYcNOYcNAYcLAYcSOYcSAY",
   "cSHOYcSHAYcSHWOYcYOYcYAYcRAYcNWIc$|NWIcNWIIc$|NWIIcNWOc$|NWOcNWOOc$|NWOOcRWEEcRWIcRWIIcRWOcRWO",
   "OcRWAc$|PdTdKdCdMdNdSdSHcEASTERN.Wc_*Wct3:*+md*trwcR-CREE.RWEc_&zLdLAAcTHWEcTHWAcTTHWEcTTHOOcT",
   "THAAcTLHWEcTLHOOc,Q:PdSHOOdHOOco_GWUdDENE.GEEdGAAdGWAc,QJUUco_JWAcBEAVER.DENE.LeRco_rCSa~B~LIM",
   "BU.VOWEL-CARRIERy&by&xPcxvcuPcumc$GcoxcpHcw?cxDcYANc=5c?Ecq9crKc!$c%7c&NcnUcn^czXc|Qc*ncyYc_rc",
   ",wc;Qc+=cvDcGYANcTRAb~2~_n:VAdIdUdsKdmPd%IdnPdEdOb;vy&|Qd*nd_rb~5~:*y&xPd$Gdmud=5d!$d%7dzXd*nd",
   "yYb:VMUKPHRENGcKEMPHRENGcSA-Ic~5~zLb~4~s?zqb*8zqbrW|%c%Gc^+c?5cuBctpc:qc,tcsMc$Wa=nymy&xPd|Nd$",
   "Gd^3d+=d|Qd=5d?EdyYd%7d&NdzXdtHd_SdvDd*Ydxvd^5d!$dAdIdsKdEHdUd%IdOd^_dEdAUEdmPd~3~?=d??d?^d?_d",
   "?|a~C~$D=nLUEy&v%*YezO*Yev%xPf|Nf$GezOxPf|Nf$Gev%^3f+=f|QezO^3f+=f|Qev%=5f?Ef!$ezO=5f?Ef!$ev%%",
   "7f&NfzXezO%7f&NfzXev%tHf_SfyYezOtHf_SfyYev%vDfq9fnUezOvDfq9fnUev%KVAfXVAezOKVAfXVAev%SUAezOSUA",
   "d~5~_n:V_nSHORTENERfmBfw0fUf_RfEfmJfOfOAf^_fnSfAAYfUYfOYfOAYfUEYfIYdy&t3Vf$FfNfMfKfDfBd?:zrezs",
   "d~7~rW|%e%Ge^+e?5euBetpe:qe,tesMe$Wd?HrW%Gd~4~:VLAEeLAEVaKHMER=MPATHAMASATcMUOYyIcPIIyIcBEIyIc",
   "BUONyIcPRAMyIc&|yIc*AyIc&^yIc&_yIcDAPyIcDAP-MUOYyIcDAP-PIIyIcDAP-BEIyIcDAP-BUONyIcDAP-PRAMyIcT",
   "UTEYASATcMUOY+pcPII+pcBEI+pcBUON+pcPRAM+pc&|+pc*A+pc&^+pc&_+pcDAP+pcDAP-MUOY+pcDAP-PII+pcDAP-B",
   "EI+pcDAP-BUON+pcDAP-PRAM+paBUGINESEy&xPcuPc$GcNGKAc%7cnUczXcMPAc=5cq9c!$cNRAcoxcw?c$$cNYCAc|Qc",
   "*ncyYc_Sc+=cAcvDb_n:VIdUdEdOdmJb~3~PALLAWAbs7$?,1a=n?Hy&v%xPexveKXAdzOxPeKXAexvd$Gdv%oxepHdzOo",
   "xe+=epHd$$dRATAdv%RATHAdq9dzORATHAdRANAdv%=5e?EdzO=5e?Ed!$dnUdv%%7e&NetHdzO%7etHe&NdzXdzO|Qdv%",
   "|Qd*ndRUEdyYdLUEd_rdv%,we;Qe+=evDdzBdAdzOvDdIdw0dUd_RdsKd%IdLAEdu,+=cp;:Vz+*nfyYeyYTANG.LAIc:V",
   "z5xULAIcp;:Vt3$GezO%7ev%RATHA%PzO%7ezXenUe+=c~2~:VSAKOTc_n:VAez5SATemBe=rmBeIew0e^_eUUEeUe_ReO",
   "eOAn&eOYeEemJe%IemPe?HmPeOAmEc:Vz5xUd?;d?=dKHUEN??e?^e?_d*nHAAMdz5SAMdKHUEN-LUE.KARANc~3~pxqUr",
   "wcHORArW|%e%Ge^+e?5euBetpe:qe,tesMe$Wc~7~?HrW|%e%Ge^+e?5euBetpe:qe,tesMe$Wc~7~:VWIANGdWIANGWAA",
   "KdSAWANdKEOWdHOYdDOKMAId+F+vRANAdz5YAMOKdKAANdKAANKUUdSATKAANdSATKAANKUUdHANGdCAANGa~3~pxr*p7m",
   "FbDIAERESIS-RINGbw8br:m^b^YrwbX-Xn&b__y?n&b%Jzqn&br!%Jzqn&by;pD;rn&bSTRONGpD;rn&b%&mEbr!%&mEb%",
   "&n&c%3by9:*y&Wn&e^qWn&byr%*mEyrb+3%*mE+3byr%*n&yrb+3%*n&+3b;MBRACKETSmEb$x:VmEbwyr!ARCHmEb&q:V",
   "mEbr!&q:VmEen&b^YmHmFby9:*y&wpGfRfTa~32~BALINESE:VULU.RICEMdo*cCECEKcSURANGcBISAHby&AKARAd=%cI",
   "KARAd=%cUKARAd=%c*n*=e=%cyYLENGAe=%cEKARAcAIKARAcOKARAd=%cxPdz4cuPdGORAc$GcoxdLACAcw?dJERAc$$c",
   "=5LATIKd!tz4cq9!tALPAPRANAez4c!$RAMBATc=5dTAWAcq9dMADUc!$c%7dKAPALcnUdKEMBANGczXc|Qc*ncyYc_rc+",
   "=SAGAdSAPAc+=cvDb:VREREKANb_n:V=%dULUeSARIdSUKUeILUTd*n*=f=%dyYLENGAf=%dTALINGe*=e=%e*==%dPEPE",
   "Te=%bmImIby&xQ,McKHOT,McTZIR,McEF,Mc_Y,McZAL,McASYURA,Mcm*JNYAb~4~rW|%c%Gc^+c?5cuBctpc:qc,tcsM",
   "c$WbPANTIbPAMADAbWINDUbCARIK.PAMUNGKAHcSIKIcPARERENbPAMENENGb!v=MDONGdDENGdDUNGdDANGeSURANGdDI",
   "NGdDAENGdDEUNGdDAINGdDANG.GEDEdpxTEGEHeENDEPeKEMPULeKEMPLIexCeKEMPUL|BxCeKEMPLI|BxCeBENDEeGONG",
   "dRIGHT-HAND%Jr|fDAGeppTUKfTAKdLEFT-HAND%JPANGfPUNGeppPLAKfPLUKe%JPINGbPANTI.LANTANGbPAMADA.LAN",
   "TANGa~2~;^:VPANYECEKcPANGLAYARcPANGWISADby&AcIcUcmJcOcEcEUcxPc*YcuPc$Gcoxcw?c|sc$$c=5cq9c!$c%7",
   "ctHc_ScnUczXc|Qc*ncyYc_rc+=c|NcvDbp;:VPAMINGKALdPANYAKRAdPANYIKUb_n:VPANGHULUdPANYUKUdPANAELAE",
   "NGdPANOLONGdPAMEPETdPANEULEUNGb:VPAMAAEHc_5bp;:VPASANGANzXe_rby&xvcSYAbrW|%c%Gc^+c?5cuBctpc:qc",
   ",tcsMc$WbnRby&REUcLEUcn^ct3KdMaBATAKy&Ac:XAcvDc:XvDczovDcnUcKAROnUc%7c:X%7c!$czo!$c_rc:X_rcPAK",
   "PAK_rcuPc:XuPcw?cq9c*nc:X*nczXc:XzXcSOUTHERN=5cNORTHERN=5c+=c:X+=czo+=c|Qc:X|Qc$GcyYc:XyYc$$co",
   "xc!=cMBAcIcUb:VTOMPIb_n:VEdPAKPAK.EdsKdIdKARO.IdOdKARO.OdUet=:X+=bp;:V$FdHbPANGOLATbPANONGONAN",
   "b~9~=MBINDU!$METEKdPINARBORASdJUDULdPANGOLATaLEPCHAy&xPcKLAcxvcuPcGLAc$GcoxcpHcw?c$$c=5c?Ecq9c",
   "!$c%7cPLAc&NctHcFLAcnUcBLAczXcMLAc^3c^5csCc|Qc*ncyYcvDcHLAc_Sc+=c,wc_rcAb;vy&|Qd*nb_n:VmBdIdOd",
   "%IdUd_RdEbp;:VKdMdLdNdPdRdTdNYIN-DOdxUb:VRANc$wb~4~*UTA-ROLcNYET.THYOOM.TA-ROLcCER-WAcTSHOOK.C",
   "ER-WAcTSHOOKbrW|%c%Gc^+c?5cuBctpc:qc,tcsMc$Wb~4~y&^8c^9cq$aOL.CHIKIrW|%d%Gd^+d?5duBdtpd:qd,tds",
   "Md$Wcy&yYdnMdAGdm6dALdLAAdAAKdAAJdAAMdAAWdy,dISdIHdINYdIRdzSdUCd^?dUNNdUYdymdEPdEDDds3dERRdzDd",
   "OTTdOBdOVdOHc!pTTUDDAGcGAAHLAA.TTUDDAAGcMU-GAAHLAA.TTUDDAAGcRELAAcPHAARKAAcAHADc*UMUCAADdr!MUC",
   "AADaq8:*y&+$_YdLONG-LEGGEDq+d!,Od_=s!d=r=!dTHREE-LEGGED=!d=rv1:Ve|UdUNBLENDED.UKa~8~u5MTAVRULI",
   "o,y&m4eBANeuWeDONes3eVINeZENeTANew3exTeLASezmeNARe%EePARe|+e*pe,He=ueUNe&OexzeuoeQARe:GepWeo!e",
   "JILeCILepIeXANexEeHAEev4eHIEe_!ev0eHOEetVeYNeELIFIe^quWemQe~3~mMev1:VeLABIAL:Va;^*UBINDU.SURYA",
   "dPANGLONGdPURNAMAdCAKRAdLEU,NdxP,Ndq9,NdnU,Na~9~_Z?:KARSHANAcSHARAcPRENKHAb:VNIHSHVASAc|SMIDLI",
   "NE=Fb?:|SAGGRAVATEDw5=Fdw5=Fdx9w5=Fco*n&c|Sx9w5=FSCHROEDERcr!=Fc^Y=Fcx9mtcrwn&c^+ryn&c?5ryn&cR",
   "IGVEDIC.KASHMIRIw5=FcATHARVAVEDICw5=Fb:V_6=Fd^^c+F_6^^c_6mtc+F_6mtc_6^^|B=odmt|B=ocmumodBAHIRG",
   "OMUKHAdVAMAGOMUKHAe|B=ocTIRYAKcHEXIFORMzJmuczJmucRTHANGzJmucmuUBHAYATO.MUKHAcm,c+vm,b?:o*mEb:V",
   "xFc_KcATIKRAMAb?:+mmEcr!+mmEb:Vr!mumoa~6~y9y&:*o,AemJb:*y&^qmJby&:*o,nrBeCeDes:eEb:*y&^q%JEeIb",
   "y&:*o,JeKeL|B;reMe+FNeOe%JOb:*y&:TOe%JOeO|B;rd^q$=by&:*o,OUb:*y&^GvIOdoUvIOby&:*o,Pe+FRe^qReTe",
   "Ub:*y&:TUeDIAERESIZED.Ue^qMby&:*o,VeWeZetGc_9LARYNGEAL.SPIRANTcmQau;y&:*o,uVey4e&Ue+Ie*Qaq8y&:",
   "*o,sTa!Qy&o,AdmJdBdnrBdDdEd+FEdGdHdIdJdKdLdMdNd+FNdOdOUdPdRdTdUdWc:*Ad^qAdmZd^qmJdBdDdEd,Td%JE",
   "d^q%JEdGd^qIdKdMds8dOd%JOd^GvIOdoUvIOdPdTdUd:TUd^qMdVdmQdn;du;uVdq|du;&QdpUay9;z:*y&IeReUeVau;",
   ";z:*y&n;euVe+Ie&QepUay9:*y&^_dB|B!D?zdD|B!D?zdF|B!D?zdM|B!D?zdN|B!D?zdP|B!D?zdR|B!D?zftnm5!D?z",
   "dS|B!D?zdT|B!D?zdZ|B!D?zd^qGa!Qy&q8s3ay9:*y&wpGdTH|BSTRIKETHROUGHco,y&I|B;rcy&wz|B;rdP|B;rco,y",
   "&U|B;rcy&_M|B;rdB|B%ov?dD|B%ov?dF|B%ov?dG|B%ov?dK|B%ov?dL|B%ov?dM|B%ov?dN|B%ov?dP|B%ov?dR|B%ov",
   "?dS|B%ov?ds%|B%ov?dV|B%ov?dX|B%ov?dZ|B%ov?dA|B+Cv?dmZ|B+Cv?dD|Bv?m5=odE|B+Cv?d%JE|B+Cv?d+F%JE|",
   "B+Cv?d,T|B+Cv?dI|B+Cv?d%JO|B+Cv?ds%|B+Cv?dU|B+Cv?dtG|B+Cv?a!Qy&:*^qmZdCe|Bq0ds:d+F%JEdFdrxJ|B;",
   "rd,WGd^qHdI|B;rdwzdo,If|B;rdJ|BqQdL|B+Cv?f%ov?do,LdM|Bv?d^qM|BzJyydN|Byrv?f+Cv?do,NdnrOd&QdS|B",
   "v?ds%dT|B%ov?dUnod_Mdo,UdV|Bv?d^qVdZe|B+Cv?fq0dtGd?Papxrzu+mFcmHmFb:,n&b=EzqbMACRON-ACUTEbGRAV",
   "E-MACRONbMACRON-GRAVEbACUTE-MACRONbGRAVE-ACUTE-GRAVEbACUTE-GRAVE-ACUTEby9:*y&Rn&bBREVE-MACRONb",
   "MACRON-BREVEbr!p7mEb$_mEb|=n&bISn&bURmEbUSmEby9:*y&tu%JAmEemJeAOeAVeCpBewpDes:eGcy&:*o,Gc:*y&K",
   "eLcy&:*o,LfMc:*y&Ncy&:*o,NfRc:*y&R+zeSezJSeZemZeBen;e,TeFeL|Br!!D?zeO|By;pD;rePes%eU|By;pD;reW",
   "eA|BrMeO|BrMeU|BrMb_I=9mEbxnmE+3dyrbrwmEyrb_=wyo3n&brwn&yrbDELETIONzqbr!wyo2n&bmXst?+n&byrm|mE",
   "b+3m|m5r+m|n&ay9o,y&A|B+mn&b:*y&A|B+mn&bo,y&B|BrwmEb:*y&B|BrwmEbo,y&B|Brwn&b:*y&B|Brwn&bo,y&B|",
   "By?n&b:*y&B|By?n&bo,y&C|BpBm5mHb:*y&C|BpBm5mHbo,y&D|BrwmEb:*y&D|BrwmEbo,y&D|Brwn&b:*y&D|Brwn&b",
   "o,y&D|By?n&b:*y&D|By?n&bo,y&D|BpBb:*y&D|BpBbo,y&D|Bp7n&b:*y&D|Bp7n&bo,y&E|BzZm5u+b:*y&E|BzZm5u",
   "+bo,y&E|BzZm5mHb:*y&E|BzZm5mHbo,y&E|Bp7n&b:*y&E|Bp7n&bo,y&E|B?zn&b:*y&E|B?zn&bo,y&E|BpBm5o2b:*",
   "y&E|BpBm5o2bo,y&F|BrwmEb:*y&F|BrwmEbo,y&G|BzZb:*y&G|BzZbo,y&H|BrwmEb:*y&H|BrwmEbo,y&H|Brwn&b:*",
   "y&H|Brwn&bo,y&H|BrMb:*y&H|BrMbo,y&H|BpBb:*y&H|BpBbo,y&H|Bo2n&b:*y&H|Bo2n&bo,y&I|B?zn&b:*y&I|B?",
   "zn&bo,y&I|BrMm5mHb:*y&I|BrMm5mHbo,y&K|BmHb:*y&K|BmHbo,y&K|Brwn&b:*y&K|Brwn&bo,y&K|By?n&b:*y&K|",
   "By?n&bo,y&L|Brwn&b:*y&L|Brwn&bo,y&L|Brwn&m5zZb:*y&L|Brwn&m5zZbo,y&L|By?n&b:*y&L|By?n&bo,y&L|Bp",
   "7n&b:*y&L|Bp7n&bo,y&M|BmHb:*y&M|BmHbo,y&M|BrwmEb:*y&M|BrwmEbo,y&M|Brwn&b:*y&M|Brwn&bo,y&N|Brwm",
   "Eb:*y&N|BrwmEbo,y&N|Brwn&b:*y&N|Brwn&bo,y&N|By?n&b:*y&N|By?n&bo,y&N|Bp7n&b:*y&N|Bp7n&bo,y&O|B?",
   "zm5mHb:*y&O|B?zm5mHbo,y&O|B?zm5rMb:*y&O|B?zm5rMbo,y&O|BzZm5u+b:*y&O|BzZm5u+bo,y&O|BzZm5mHb:*y&",
   "O|BzZm5mHbo,y&P|BmHb:*y&P|BmHbo,y&P|BrwmEb:*y&P|BrwmEbo,y&R|BrwmEb:*y&R|BrwmEbo,y&R|Brwn&b:*y&",
   "R|Brwn&bo,y&R|Brwn&m5zZb:*y&R|Brwn&m5zZbo,y&R|By?n&b:*y&R|By?n&bo,y&S|BrwmEb:*y&S|BrwmEbo,y&S|",
   "Brwn&b:*y&S|Brwn&bo,y&S|BmHm5rwmEb:*y&S|BmHm5rwmEbo,y&S|Bo?m5rwmEb:*y&S|Bo?m5rwmEbo,y&S|Brwn&m",
   "5rwmEb:*y&S|Brwn&m5rwmEbo,y&T|BrwmEb:*y&T|BrwmEbo,y&T|Brwn&b:*y&T|Brwn&bo,y&T|By?n&b:*y&T|By?n",
   "&bo,y&T|Bp7n&b:*y&T|Bp7n&bo,y&U|BrMn&b:*y&U|BrMn&bo,y&U|B?zn&b:*y&U|B?zn&bo,y&U|Bp7n&b:*y&U|Bp",
   "7n&bo,y&U|B?zm5mHb:*y&U|B?zm5mHbo,y&U|BzZm5rMb:*y&U|BzZm5rMbo,y&V|B?zb:*y&V|B?zbo,y&V|Brwn&b:*",
   "y&V|Brwn&bo,y&W|Bu+b:*y&W|Bu+bo,y&W|BmHb:*y&W|BmHbo,y&W|BrMb:*y&W|BrMbo,y&W|BrwmEb:*y&W|BrwmEb",
   "o,y&W|Brwn&b:*y&W|Brwn&bo,y&X|BrwmEb:*y&X|BrwmEbo,y&X|BrMb:*y&X|BrMbo,y&Y|BrwmEb:*y&Y|BrwmEbo,",
   "y&Z|Bp7b:*y&Z|Bp7bo,y&Z|Brwn&b:*y&Z|Brwn&bo,y&Z|By?n&b:*y&Z|By?n&dH|By?n&dT|BrMdW|B+mmEdY|B+mm",
   "EdA|B+3vI+mdzJS|BrwmEgrN;rgv%;rbo,y&,,Sb:*y&q|bo,y&A|Brwn&b:*y&A|Brwn&bo,y&A|Bv?mEb:*y&A|Bv?mE",
   "bo,y&A|Bp7m5mHb:*y&A|Bp7m5mHbo,y&A|Bp7m5u+b:*y&A|Bp7m5u+bo,y&A|Bp7m5v?mEb:*y&A|Bp7m5v?mEbo,y&A",
   "|Bp7m5?zb:*y&A|Bp7m5?zbo,y&A|Bp7m5rwn&b:*y&A|Bp7m5rwn&bo,y&A|Bo2m5mHb:*y&A|Bo2m5mHbo,y&A|Bo2m5",
   "u+b:*y&A|Bo2m5u+bo,y&A|Bo2m5v?mEb:*y&A|Bo2m5v?mEbo,y&A|Bo2m5?zb:*y&A|Bo2m5?zbo,y&A|Bo2m5rwn&b:",
   "*y&A|Bo2m5rwn&bo,y&E|Brwn&b:*y&E|Brwn&bo,y&E|Bv?mEb:*y&E|Bv?mEbo,y&E|B?zb:*y&E|B?zbo,y&E|Bp7m5",
   "mHb:*y&E|Bp7m5mHbo,y&E|Bp7m5u+b:*y&E|Bp7m5u+bo,y&E|Bp7m5v?mEb:*y&E|Bp7m5v?mEbo,y&E|Bp7m5?zb:*y",
   "&E|Bp7m5?zbo,y&E|Bp7m5rwn&b:*y&E|Bp7m5rwn&bo,y&I|Bv?mEb:*y&I|Bv?mEbo,y&I|Brwn&b:*y&I|Brwn&bo,y",
   "&O|Brwn&b:*y&O|Brwn&bo,y&O|Bv?mEb:*y&O|Bv?mEbo,y&O|Bp7m5mHb:*y&O|Bp7m5mHbo,y&O|Bp7m5u+b:*y&O|B",
   "p7m5u+bo,y&O|Bp7m5v?mEb:*y&O|Bp7m5v?mEbo,y&O|Bp7m5?zb:*y&O|Bp7m5?zbo,y&O|Bp7m5rwn&b:*y&O|Bp7m5",
   "rwn&bo,y&O|BwAm5mHb:*y&O|BwAm5mHbo,y&O|BwAm5u+b:*y&O|BwAm5u+bo,y&O|BwAm5v?mEb:*y&O|BwAm5v?mEbo",
   ",y&O|BwAm5?zb:*y&O|BwAm5?zbo,y&O|BwAm5rwn&b:*y&O|BwAm5rwn&bo,y&U|Brwn&b:*y&U|Brwn&bo,y&U|Bv?mE",
   "b:*y&U|Bv?mEbo,y&U|BwAm5mHb:*y&U|BwAm5mHbo,y&U|BwAm5u+b:*y&U|BwAm5u+bo,y&U|BwAm5v?mEb:*y&U|BwA",
   "m5v?mEbo,y&U|BwAm5?zb:*y&U|BwAm5?zbo,y&U|BwAm5rwn&b:*y&U|BwAm5rwn&bo,y&Y|Bu+b:*y&Y|Bu+bo,y&Y|B",
   "rwn&b:*y&Y|Brwn&bo,y&Y|Bv?mEb:*y&Y|Bv?mEbo,y&Y|B?zb:*y&Y|B?zbo,y&!EzAb:*y&!EzAbo,y&!EVb:*y&!EV",
   "bo,y&Y|BzMb:*y&Y|BzMau;:*y&mZ|B*Sfqzf*Sm5_Ufqzm5_Uf*Sm5%5fqzm5%5f*Sm5&Kfqzm5&Kbo,y&mZ|B*Sfqzf*",
   "Sm5_Ufqzm5_Uf*Sm5%5fqzm5%5f*Sm5&Kfqzm5&Kb:*y&ss|B*Sfqzf*Sm5_Ufqzm5_Uf*Sm5%5fqzm5%5b~3~o,y&ss|B",
   "*Sfqzf*Sm5_Ufqzm5_Uf*Sm5%5fqzm5%5b~3~:*y&s+|B*Sfqzf*Sm5_Ufqzm5_Uf*Sm5%5fqzm5%5f*Sm5&Kfqzm5&Kbo",
   ",y&s+|B*Sfqzf*Sm5_Ufqzm5_Uf*Sm5%5fqzm5%5f*Sm5&Kfqzm5&Kb:*y&wz|B*Sfqzf*Sm5_Ufqzm5_Uf*Sm5%5fqzm5",
   "%5f*Sm5&Kfqzm5&Kbo,y&wz|B*Sfqzf*Sm5_Ufqzm5_Uf*Sm5%5fqzm5%5f*Sm5&Kfqzm5&Kb:*y&%D|B*Sfqzf*Sm5_Uf",
   "qzm5_Uf*Sm5%5fqzm5%5b~3~o,y&%D|B*Sfqzf*Sm5_Ufqzm5_Uf*Sm5%5fqzm5%5b~3~:*y&_M|B*Sfqzf*Sm5_Ufqzm5",
   "_Uf*Sm5%5fqzm5%5f*Sm5&Kfqzm5&Kb~2~o,y&_M|Bqzg~2~m5_Uh~2~%5h~2~&Kb:*y&%C|B*Sfqzf*Sm5_Ufqzm5_Uf*",
   "Sm5%5fqzm5%5f*Sm5&Kfqzm5&Kbo,y&%C|B*Sfqzf*Sm5_Ufqzm5_Uf*Sm5%5fqzm5%5f*Sm5&Kfqzm5&Kb:*y&mZ|B_Uf",
   "%5dss|B_Uf%5ds+|B_Uf%5dwz|B_Uf%5d%D|B_Uf%5d_M|B_Uf%5d%C|B_Uf%5d~3~mZ|B*Sm5|pfqzm5|pf*Sm5_Um5|p",
   "fqzm5_Um5|pf*Sm5%5m5|pfqzm5%5m5|pf*Sm5&Km5|pfqzm5&Km5|pbo,y&mZ|B*Sm5*Nfqzm5*Nf*Sm5_Um5*Nfqzm5_",
   "Um5*Nf*Sm5%5m5*Nfqzm5%5m5*Nf*Sm5&Km5*Nfqzm5&Km5*Nb:*y&s+|B*Sm5|pfqzm5|pf*Sm5_Um5|pfqzm5_Um5|pf",
   "*Sm5%5m5|pfqzm5%5m5|pf*Sm5&Km5|pfqzm5&Km5|pbo,y&s+|B*Sm5*Nfqzm5*Nf*Sm5_Um5*Nfqzm5_Um5*Nf*Sm5%5",
   "m5*Nfqzm5%5m5*Nf*Sm5&Km5*Nfqzm5&Km5*Nb:*y&%C|B*Sm5|pfqzm5|pf*Sm5_Um5|pfqzm5_Um5|pf*Sm5%5m5|pfq",
   "zm5%5m5|pf*Sm5&Km5|pfqzm5&Km5|pbo,y&%C|B*Sm5*Nfqzm5*Nf*Sm5_Um5*Nfqzm5_Um5*Nf*Sm5%5m5*Nfqzm5%5m",
   "5*Nf*Sm5&Km5*Nfqzm5&Km5*Nb:*y&mZ|B_ofzZf_Um5|pf|pf%5m5|pf~2~&Kgm5|pbo,y&mZ|B_ofzZf_Uf%5f*NbyNb",
   "*Nb*Sb&KbrPm5&Kb:*y&s+|B_Um5|pf|pf%5m5|pf~2~&Kgm5|pbo,y&ss|B_Uf%5ds+|B_Uf%5f*Nb*Sm5_Ud%5d&Kb:*",
   "y&wz|B_ofzZfrPm5_Uh%5f~3~&KfrPm5&Kbo,y&wz|B_ofzZf_Uf%5b~2~qzm5_Ud%5d&Kb:*y&_M|B_ofzZfrPm5_Uh%5",
   "d+I|B*Sfqzd_M|B&KfrPm5&Kbo,y&_M|B_ofzZf_Uf%5d+I|BqzbrPm5_Ud%5b_Ub~3~:*y&%C|B_Um5|pf|pf%5m5|pf~",
   "2~&Kgm5|pbo,y&%D|B_Uf%5d%C|B_Uf%5f*Nb%5bqza~2~s3*2as0*2as3;Cas0;CaTHREE-PER-EM;CaFOUR-PER-EM;C",
   "aSIX-PER-EM;CatZ;Ca*U;Ca?S;CavG;Ca|%_^;CcNON-JOINERcxJaywzqa+8zqawIaNON-BREAKINGwIatZqxas3qxas",
   "0qxav|noar!_1y?bzOy?ayr:0*mzqa+3:0*mzqa:0LOW-9*mzqbv&*mzqayrr!*mzqa+3r!*mzqar!LOW-9*mzqbv&*mzq",
   "aqoar!qoaooa^Vooa%Grwyna^+rwynav|sZawK&tay?,pa%w,payws1a+8s1aPOPr3FORMATTINGaywOVERRIDEa+8OVER",
   "RIDEa!,$5;CaPER.MILLE:Vb=:?2:Va*Far!*Fa^Y*Fa+F*Fbr!*Fb^Y*Fao=a:0ytm7*mzqb+5m7*mzqaREFERENCEzqa",
   "r!s?zqawua%4aUNDERTIEapJ?pao=wn&taASTERISMawIooauE:!ayr;MoY|B*9a+3;MoY|B*9ar!*8zqa*8s?zqas?*8z",
   "qaTIRONIAN:Vs*a+FPILCROW:VaoGyxoob+9ooazOnJa+F,maCLOSE_Ia^+ASTERISKS.ALIGNED_2apz!M:VaSWUNGqxa",
   "wyUNDERTIEat%*Uzqa?5rw*Ua*4*FauBrw*Uatprw*Ua^+rw*UauBrwzqarzqNaTRICOLONa_1uBryaz,zv;Ca|IxJauNm",
   "yaINVISIBLE?$b,pb&qa~2~yww%a+8w%at9STRONGw%aPOPr3w%aINHIBIT=2SWAPPINGaACTIVATE=2SWAPPINGaINHIB",
   "ITm$t^SHAPINGaACTIVATEm$t^SHAPINGaNATIONALrWSHAPESaNOMINALrWSHAPESa=A|%by9:*y&Ib~3~uBbtpb:qb,t",
   "bsMb$Wb&q:Vb!Mbsu:Vbyr%*b+3%*by9:*y&Na;z|%b%Gb^+b?5buBbtpb:qb,tbsMb$Wb&q:Vb!Mbsu:Vbyr%*b+3%*a~",
   "2~y9;z:*y&AeEeOeXe,TeHeKeLeMeNePeSeTa~4~EURO-CURRENCY:Vapw:VaCRUZEIRO:VaFRENCH.FRANC:VaLIRA:Va",
   "MILL:VaNAIRA:VaPESETA:Va+;:VaWON:Va$DSHEQEL:VaDONG:VaEURO:VaKIP:VaTUGRIK:Var;:VaGERMAN.PENNY:V",
   "aPESO:VaGUARANI:VaAUSTRAL:VaHRYVNIA:VaCEDI:VaLIVRE.TOURNOIS:VaSPESMILO:VaTENGE:VaINDIAN+;:VaTU",
   "RKISH.LIRA:VaNORDICzq:VaMANAT:VaRUBLE:VaLARI:VaBITCOIN:VaSOM:Va~10~pxyrv2mEb+3v2mEbzJ_1y?%3b:K",
   "_1y?%3bmpm^mEbpom^mEbyrm^mEb+3m^mEb+m%3bpo+m%3bmp+m%3b?5rymEbuBrymEbs4p3c;McrQcp3n0byr+3m^mEbs",
   "4,VcKEYCAPcUPWARD&w^Tb+E:_%3br!_1;r%3bANNUITY=Mb^YUNDERDOTb_=o3mEbyxm^%3bzJr!:_%3b+9v2|Bnpr:by",
   "xv2|Bnpr:byrm^n&b+3m^n&bnJmEa~10~ACCOUNT$?aADDRESSED?+?JSUBJECTar&o,Caq=CELSIUSapEy?=MaCARE$?a",
   "CADA.UNAaEULER.CONSTANTaSCRUPLEaq=FAHRENHEITa,W:*Gbo,HaoIo,Har&o,HaPLANCK.CONSTANTc%Y^+&Ua,Wo,",
   "IaoIo,Ia,Wo,Lb:*LaL.Bno=Mar&o,NaNUMERO:Va:|RECORDINGqFa,Wo,Par&o,PcQa,Wo,RaoIo,Rar&o,RaPRESCRI",
   "PTION.TAKEaRESPONSEaSERVICEzqa=,:VaTRADEzq:VaVERSICLEar&o,ZaOUNCE:VaOHM:VawyOHM:VaoIo,Za^qu;:*",
   "y&wzaKELVIN:VaANGSTROM:Va,Wo,BaoIo,CaESTIMATED=Ma,W:*Ebo,EcFa^qo,Fa,Wo,Mb:*OamU=Man:=Maus=Maqq",
   "=Maw9;Aa+vo,QaFACSIMILE:Var&:*&UcuVbo,uVc&Ub!z;=a^q,Jo,GdLa+F,Jo,La^q,Jo,Yar&w+o,Dc:*DdEdIdJaP",
   "ROPERTYy?a^qm3aPER:VaAKTIESELSKABa^q:*Fa=Mt=,E;Aa_puE%GSEVENTHdNINTHdTENTHd?Tc^+?Uc%GFIFTHc^+t",
   "Xc?5tXcuBtXc%GSIXTHctpSIXTHSc%GsOc?5sPctpsPc,tsPauE$z%Ga+r$y%Gc^+c?5cuBctpc:qc,tcsMc$Wc=:csXc^",
   "vctYc%GwGctpwGc%G?2a:*+r$y%Gd^+d?5duBdtpd:qd,tdsMd$Wd=:dsXd^vdtYd%GwGdtpwGd%G?2a+r$y%G?2C.Dctp",
   "?2c=:?2c+F%GwGay9:*y&+FCa+r$y:qLATEt^ctYEARLYt^d?2c%GwG?2a_puE|%?Ua^qrW^+c?5a~5~yxm^a_Om^a+9m^",
   "ar:m^ayr+3m^a_Ir+m^a$9_%m^bsIm^a;BsIm^b_%m^ayxm^|B;ra+9m^|B;rayx_wm^a+9_wm^ayx^+v6m^a_O^+v6m^a",
   "+9^+v6m^ar:^+v6m^ayxm^|B=oa+9m^|B=oayxm^uGnoa_Om^uGnoa+9m^uGnoar:m^uGnoa_Ir+m^|Bnuayxm^|Bv?a+9",
   "m^|Bv?ayxm^|BzMa+9m^|BzMayr+3_wm^cm^|B;rar:|=m^a_Om^|B?&yxe+9ar:m^|B?&yxe+9a+9m^|BqGr:ar:m^|Bq",
   "Gyxamp^G,8m^apo^G,8m^a$9_%m^?+zJnoayxm^?+no%Y+9m^?+noamp%Jp3m^apo%Jp3m^ayxv2|Bnp_Oer:a_Ov2|Bnp",
   "+9eyxa+9v2|Bnp_Oer:ar:v2|Bnp+9eyxa+9m^%Yyxm^a_Om^yx$?r:m^ayxm^%Y+9m^b%nnBa_O%nnBa+9%nnBar:%nnB",
   "ayxv2%Y+9v2a+9v2%Yyxv2ayxr!m^|B;rayr+3r!m^|B;ra+9r!m^|B;rayxr!m^a_Or!m^a+9r!m^ar:r!m^ayr+3r!m^",
   "a_Ir+r!m^a$9_%r!m^bsIr!m^a;BsIr!m^b_%r!m^ayx^Ym^a+9^Ym^ayx;Pm^a+9;Pm^a_Om^|Br!;rar:m^|Br!;rayx",
   "qym^a_Oqym^a+9qym^ar:qym^ayxm^?+noa+9m^?+noayx_:m^a_O_:m^a+9_:m^ar:_:m^a_O_:m^uGnod%EPEDESTALf",
   "|Bv|nog_1nocr!m^e%EPEDESTALa+9_:m^uG_ua$9_%m^?+qGa;BsIm^?+qGa_Ir+_:m^a+3m^|B:*p3ar:m^yx$?_Om^a",
   "?5+9nBayxm^|B_1;ra+9m^|B_1;rayr+3m^|B_1;rayxm^|Br!_1;ra+9m^|Br!_1;rayr+3m^|Br!_1;rayx%Km^a+9%K",
   "m^ayr+3%Km^at=ALLaCOMPLEMENTa%:rTaTHERE.EXISTSbrt$nEXISTas2,saINCREMENTa!*asV$?a$nm4sV$?a:*sV$",
   "?ap|nCz=art$np^nCz=a:*p|nCz=as7$?PROOFa!z*IbqDb;=a!M:VaMINUS-OR-PLUS:Varw&qarn:!a,s!ManJ%Ma+m%",
   "Maoo%Ma;M+taCUBE+tauD+taPROPORTIONAL?+aw8a+3m7am7az$m7a;Hm7aDIVIDESart$nr7a%!?+a$n%!?+azHm5b%P",
   "awva_Fawqar!wqa^YwqaqAwqaSURFACEwqaVOLUMEwqapowqbqAwqampqAwqaTHEREFOREaBECAUSEaRATIOa*Marw!MaE",
   "XCESSaGEOMETRIC*Mav=a?z%Ma+F?zawyLAZY.SaSINE_waWREATH*Ia$n?za!M?zanLst?+a$nnLst?+am!st?+bor$nA",
   "CTUALLYst?+a!|m!$7ACTUALLYst?+amXst?+a$nmXst?+amXst%Pst?+a^Y?zaALLst?+asx?+au4sx?+aDIFFERENCEn",
   "?aAPPROACHES?JLIMITau4st?+am!st?+%P?Jw1$?aw1$?%Pm!st?+apwsuasupwa+mw3st?+bst?+aCORRESPONDS?+aE",
   "STIMATESaEQUIANGULAR?+a;1suaq|st?+ast?+otDEFINITIONaz$otaQUESTIONEDst?+a$nst?+awO?+a$nwO?+aSTR",
   "ICTLYsx?+ay%%Pst?+au:%Pst?+ay%%Yst?+au:%Yst?+ay%or$nst?+au:or$nst?+aMUCHy%bu:an?a$nsx?+by%bu:a",
   "!|y%$7st?+bu:$7st?+ay%%Psx?+au:%Psx?+a!|y%$7sx?+bu:$7sx?+ay%%Pu:au:%Py%a!|y%$7u:bu:$7y%a*Ba;*a",
   "*B%Pst?+a;*%Pst?+a*B%Psx?+a;*%Psx?+art$nPRECEDEcSUCCEEDa;!$?a=B$?a$nA;!$?c=B$?a;!$?%Pst?+a=B$?",
   "%Pst?+a!|A;!$?$7st?+c=B$?$7st?+a;!$?|B$nst?+a=B$?|B$nst?+aMULTISETb!sb_Fa;Mw1$?b%S$?bw1$?%Pst?",
   "+b%S$?%Pst?+bCAPbCUPap4&qb!Mb?$brn:!brw%Mb+m%MbnJ%Mbsubqxa;N&qb!Mb?$brw%Ma+3=9ayr=9ar+=9a_I=9a",
   "ASSERTIONaMODELSaTRUEaFORCESa^Y_1no+3^rar!_1nor!+3^rart$nPROVEa$nTRUEart$nFORCEaNEGATEDr!_1nor",
   "!+3^ra*B_B*;a;*_B*;a$8;u$?ap|nC$8;ua$8;u$?%Pst?+ap|nC$8;u%Pst?+a%S$?aw1$?a!qaHERMITIAN.CONJUGA",
   "TE.MATRIXaINTERCALATEaXORaNANDa$7a+3m7|Bm&b^Ta!zzHm5c%Pbwvb_FarQ%Marw%Ma;1%Marn?$aoWayr$8tJ,n*",
   "Ia+3$8tJ,n*Iayr,n*Ia+3,n*Ia+F?zsuaq1zH%Pcm5ar!;!b=Bbwvb_Fa&mastm5%!?+ay%|Brwau:|Brwa_3MUCHy%cu",
   ":ay%st?+%Pu:au:st?+%Py%ast?+%Py%du:d*Bd;*art$nPRECEDE%PstcSUCCEED%Psta$n;Mw1$?%Pst?+c%S$?%Pst?",
   "+a;Mw1$?%P$nst?+b%S$?%P$nst?+ay%or$nsx?+au:or$nsx?+a*Bor$nsx?+a;*or$nsx?+a$n$8;u$?art$np^nC$8;",
   "ua$n$8;u$?%Pst?+art$np^nC$8;u%Psta_1sZaMIDLINEv|sZa_I+3rNsZar++3rNsZasV$?|BzJv|;rd_1nonMs7$?v|",
   ";ra:*sV$?|B_1nonMs7$?v|;rasV$?|BrwmEd%Za:*sV$?|B%ZasV$?|B_Cd^+v|;sap||BzJv|;rc_1nonMs7$?v|;ra:",
   "*p||B_1nonMs7$?v|;rap||B%Za:*p||B%ZaZ$oBAG.MEMBERSHIPaDIAMETER:VasUm^awDa_Im|ar+m|aPROJECTIVEa",
   "PERSPECTIVEa_xy?ayrpCa+3pCayrtxa+3txaoU+3qMbyrqMa^G+3qMbyrqMa+F$n:Va;MzRam&a,4aSECTORa=,RECORD",
   "ERa&&w7aVIEWDATA;Ma&n$?INTEREST:Va^q$n:VaWATCHawCa^GyrqGb+3qGaoUyrqGb+3qGa^GvIwqaoUvIwqaFROWNa",
   "SMILEa_Im|n?^+v|ntaOPTIONxtaERASE?+?J+3aXw3A*zoXaxuaytm7oYa+5m7oYaERASE?+?JyraBENZENE+maCYLIND",
   "RICITYaALL.AROUND-PROFILEaSYMMETRYaTOTAL.RUNOUTaDIMENSION.ORIGINaCONICAL.TAPERaSLOPEaCOUNTERBO",
   "REaCOUNTERSINKaAPLuO=MI-BEAMdSQUISH*2d*2ster7erQexMep3dp3;7exMd:!nodn0nod*2:!en0ey%eu:dyx_Td+9",
   "_Td*2yxm^e+9m^dp3n0dr+=9_Cdq|;7d*2r+o=eq|dr+=9xMd_O_Td*2_Om^d_I=9%ZdDEL;7d*2_Io=eDELd_I=9xMdr:",
   "_Td*2r:m^dQUOTE_Cdq|_CdrQ_CdxM_Cdp3_Cd_I:IxMdQUOTE*2dp3;1d*2pwd_I=9rMdDELrMd;1rMdxMrMdp3rMdr+:",
   "I;7dyr:I;7d?zrMdu:rMdpynodDEL?zdZILDEd;7?zd,m_Cd*2$nste*8dr+o=?zd_Io=?zdwzd+Id%CdmZ_Cdss_Cdwz_",
   "Cd%C_CdmZa$npOzqa+3m7|Br:|=m^aSHOULDERED%JoXan%=Ma_1y?|B!Drwawn=MaCONTINUOUS_D=MaDISCONTINUOUS",
   "_D=MaEMPHASIS=Map$=Ma_:;M|BpE_1y?aENTER=Mam2xt=MaHELM=Map4v|no|BNOTCHb^Tr+ao5p3|BNORTHWESTm^aU",
   "NDO=MaMONOSTABLE=MaHYSTERESIS=MaOPEN-CIRCUIT-OUTPUT.H-TYPE=MbL-TYPE=MaPASSIVE-PULL-DOWN-OUTPUT",
   "=MaPASSIVE-PULL-UP-OUTPUT=Mar1q3=Mt^^+aSOFTWARE-FUNCTION=MaAPLuO=M*2aq,,pxt=MaPREVIOUS%maNEXT%",
   "maPRINT,V=MaCLEAR,V=Mayr%*_Lv?cs_czQv?a+3%*_Lv?cs_czQv?ayr;MoY_LqGds_dzQqGa+3;MoY_LqGds_dzQqGa",
   "yrq1oY_Lv?d!D&WdzQv?aq1oYs_a+3q1oY_Lv?d!D&WdzQv?awqs_av|y?s_a_Lyr%PzQ+3q1oY,1b+3%PzQyrq1oY,1a;",
   "=^GboUa^G;MoYaoU;MoYd%Y^G;MoYa*o=MoUayr_1oXy?a+3_1oXy?av|SCAN.LINE-1cLINE-3cLINE-7cLINE-9aDENT",
   "ISTRY=My;_1m5^G+3foU+3e|Bp3dr+m5v||Bp3d_Im5v||Bp3d_1|B^Tdr+m5v||B^Td_Im5v||B^Td_1m5_wdr+m5v||B",
   "_wd_Im5v||B_wdr+m5v|d_Im5v|d_1m5^GyrfoUyra;Mt;a+D=MaEJECT=Ma_1y?s_aMETRICALo2bzJ%Y:Kb:K%YzJbzJ",
   "%Y^+:Lb^+:L%YzJdxIbTRISEMEb?Bb&GasHGROUNDaFUSEa^G%*aoU%*a^Gq1oYaoUq1oYa^G^J,_oYaoU^J,_oYa_:TRA",
   "PEZIUMaBENZENE+m|Bp3aSTRAIGHTNESSaFLATNESSaACq3aELECTRICALwvaq,EXPONENT=MaoG+5r!^Tbytr!^Tb_Jr!",
   "^Tbr,r!^Tb+5r!^T|B_1nobytr!^T|B_1nob+5^T|Br!_1noaALARMpnaSTOPWATCHaTIMERpnawC|BFLOWING.SANDaoG",
   "z,yt^Tc+5^Tc_J^Tcr,^Tar!_1noaoG;Mt=;8bp3t=*yaPOWER=MbON-OFF=Mb%E=MbSLEEP=MaOBSERVERtC=Ma=Mt=NU",
   "LLc;2$?HEADINGe?Dcs7$??De^McENQUIRYcmGcn%cn1cv|=8cy?tRc_1=8ct^tRcCARRIAGE+Dc:D%Wdw3cDATA.LINKs",
   "$crIqB%Ge^+e?5euBc!_mGc=3IDLEcs7$?^MoLco%cs7$?z,c;$cs$ct0,pcGROUP,pc*y,pc_G,pc;Ccq^aBLANK=Ma%J",
   "oXa=Mt=NEWLINEcq^t^^+c;$t^^+a~1A~OCRv?bCHAIRbt?bwyt?bn*BUCKLEboV?pbo0BANKwPbAMOUNT$?pObqxbCUST",
   "OMER.ACCOUNT$xbr!n0a~16~p4rW%Gc^+c?5cuBctpc:qc,tcsMc$Wb$x=:csXc^vc?VcuCctWc:rc,ucsNc$Xc^ya%+rW",
   "%Gc^+c?5cuBctpc:qc,tcsMc$Wb$x=:csXc^vc?VcuCctWc:rc,ucsNc$Xc^yarW%GuL;8b^+uL;8b?5uL;8buBuL;8btp",
   "uL;8b:quL;8b,tuL;8bsMuL;8b$WuL;8a$x=:uL;8bsXuL;8b^vuL;8b?VuL;8buCuL;8btWuL;8b:ruL;8b,uuL;8bsNu",
   "L;8b$XuL;8b^yuL;8a%+y9:*y&AeBeCeDeEeFeGeHeIeJeKeLeMeNeOePeQeReSeTeUeVeWeXeYeZap4y9o,y&AeBeCeDe",
   "EeFeGeHeIeJeKeLeMeNeOePeQeReSeTeUeVeWeXeYeZc:*y&AeBeCeDeEeFeGeHeIeJeKeLeMeNeOePeQeReSeTeUeVeWe",
   "XeYeZbrW|%a!_p4$xsXd^vd?VduCdtWd:rd,udsNd$Xd^yar!p4rW%Gd^+d?5duBdtpd:qd,tdsMd$Wc$x=:a!_p4rW|%a",
   "oXDRAWINGSy;v|cvpv|cy;_1cvp_1cy;^Yqxv|cvp^Yqxv|cy;^Yqx_1cvp^Yqx_1cy;*4qxv|cvp*4qxv|cy;*4qx_1cv",
   "p*4qx_1cy;r+m5+3cr+y;m5+3vpdvpm5+3y;cvpr+m5+3cy;r+m5yrcr+y;m5yrvpdvpm5yry;cvpr+m5yrcy;_Im5+3c_",
   "Iy;m5+3vpdvpm5+3y;cvp_Im5+3cy;_Im5yrc_Iy;m5yrvpdvpm5yry;cvp_Im5yrcy;_1m5+3c_1y;m5+3vpc_Ivpm5+3",
   "r+y;cr+vpm5+3_Iy;c_1vpm5+3y;cr+y;m5+3_Ivpc_Iy;m5+3r+vpcvp_1m5+3cy;_1m5yrc_1y;m5yrvpc_Ivpm5yrr+",
   "y;cr+vpm5yr_Iy;c_1vpm5yry;cr+y;m5yr_Ivpc_Iy;m5yrr+vpcvp_1m5yrcy;r+m5v|cyrvpm5+3r+y;c+3vpm5yrr+",
   "y;cr+y;m5v|vpdvpm5v|y;c+3y;m5yrr+vpcyry;m5+3r+vpcvpr+m5v|cy;_Im5v|cyrvpm5+3_Iy;c+3vpm5yr_Iy;c_",
   "Iy;m5v|vpdvpm5v|y;c+3y;m5yr_Ivpcyry;m5+3_Ivpcvp_Im5v|cy;_1m5v|cyrvpm5+3_1y;c+3vpm5yr_1y;c_1y;m",
   "5v|vpc_Ivpm5r+v|y;cr+vpm5_Iv|y;c_1vpm5v|y;cyr_Ivpm5+3r+y;c+3_Ivpm5yrr+y;cyrr+vpm5+3_Iy;c+3r+vp",
   "m5yr_Iy;cr+y;m5_Iv|vpc_Iy;m5r+v|vpc+3y;m5yr_1vpcyry;m5+3_1vpcvp_1m5v|cy;r!qxv|cvpr!qxv|cy;r!qx",
   "_1cvpr!qx_1cr!v|d_1cr+:0m5+3r!dr!m5+3:0cr!r+m5+3cr+:0m5yrr!dr!m5yr:0cr!r+m5yrc_I:0m5+3r!dr!m5+",
   "3:0cr!_Im5+3c_I:0m5yrr!dr!m5yr:0cr!_Im5yrc_1:0m5+3r!dr!m5+3:0cr!_1m5+3c_1:0m5yrr!dr!m5yr:0cr!_",
   "1m5yrcr+:0m5v|r!dr!m5v|:0cr!r+m5v|c_I:0m5v|r!dr!m5v|:0cr!_Im5v|c_1:0m5v|r!dr!m5v|:0cr!_1m5v|cy",
   ";m&r+m5+3gyre_Im5yrg+3drN_L+3?+zQyrfyr?+zQ+3eqNdyrd_Id+3dr+cvpyrd_Id+3dr+cy;yrm5vp+3d_Im5vpr+c",
   "vpyrm5y;+3d_Im5y;r+a_LvIoLazQ%GsOoLc*5oLb?5sPoLbvIoLbtpsPoLb?5*6oLb,tsPoLauLoLayr,tsPoLb?5*6oL",
   "btpsPoLbvIoLb?5sPoLb%G*5oLcsOoLa+3vIoLay;,zaz,,zaDARK,za_L%GsOoLa+3%GsOoLa*3zQyrc+3b_Lyrdm5zQy",
   "rm5zQ+3f+3e_L+3m5zQyri+3c+3dm5zQyrgm5zQ+3aoG;Ma_:;Mc|B+$qHcp_oG:*;Ma;M|Bv|t1c_1t1cORTHOGONALqR",
   "t1c_Lyr?+zQ+3t1d+3?+zQyrt1crNqRt1aoG:*;Ma_::*;MaoG*za_:*zaoG_1*za_:_1*zaoG%$a_:%$aoG_J^Ta_:_J^",
   "TaoG_J:*^Ta_:_J:*^TaoG+5^Ta_:+5^TaoG+5:*^Ta_:+5:*^TaoG+5&va_:+5&vaoGr,^Ta_:r,^TaoGr,:*^Ta_:r,:",
   "*^TaoGyt^Ta_:yt^TaoGyt:*^Ta_:yt:*^TaoGyt&va_:yt&vaoGrQa_:rQcp_oG:*rQaFISHEYEazRa_:p3arzp3ap3|B",
   "_1t1aBULLSEYEaoGp3ap3|ByrvIoGc+3vIoGczQvIoGc_LvIoGd+3*3oGcALLor_Lyr*3oGayrvIoGp3a+3vIoGp3awxoo",
   "b_:p3a_LvIwx_:p3azQvIwx_:p3a_Lyr*3p6m&b+3*3p6m&azQ+3*3p6m&byr*3p6m&a_LvIp3azQvIp3aoGzQ+3^Tcyr^",
   "Tb_Lyr^Tc+3^Ta_:ooa;M|ByrvIoGc+3vIoGc_LyrrNvIoGczQ+3rNvIoGa_:;M|B_1BISECTINGy?b_J^T|Brwa_J^T|B",
   "yrvIoGd+3vIoGay7p3a_:;M|B_Lyr*3dzQyr*3e+3*3d_L+3*3bp3|B_Lyr*3dzQyr*3e+3*3d_L+3*3a_Lyr^Tb+3^Taz",
   "Qyr^Ta_:z,;MaoGz,;Ma_:z,:*;MaoGz,:*;MazQ+3^TaoG;?|B*uapsa_Aa:;aCOMETaoG;1a_:;1ay=aTHUNDERSTORM",
   "a;?anENODEarGNODEaCONJUNCTIONa%OaoG=,a_:=,an8oXc|BpOdXa,Da_A|B*sDROPSaHOT.BEVERAGEa_::J&WaoG:J",
   "&WaSHAMROCKa+F+vtzv9ooaoGyr&ww6b+3&ww6a_:yr&ww6b_I&ww6b+3&ww6br+&ww6aSKULLm5qOaCAUTION:VaRADIO",
   "ACTIVE:VaBIOHAZARD:VaCADUCEUSaANKHaORTHODOXqNapU+IaqN$?LORRAINEcJERUSALEMa;1m5qKatL=MaADI.SHAK",
   "TIavLm5SICKLEaPEACE=Ma|9|TaTRIGRAMt=vocLAKEct8c?9c_|c_vc!6csHa_+$?DHARMAa_:uJtIb:+tIaoG:+tIa_:",
   ";?|B*uat9*5!5aLAST*5!5aMERCURYatT:VasHaz8:VaJUPITERaSATURNaURANUSaNEPTUNEaPLUTOaARIESaTAURUSaG",
   "EMINIaCANCERaLEOaVIRGOaLIBRAaSCORPIUSaSAGITTARIUSaCAPRICORNaAQUARIUSaPISCESa_:pSx+c*7c+scoFcyB",
   "c%^aoGpSx+c*7c+scoFcyBc%^bSPADE;+a_:v9;+brQ;+aoGCLUB;+a_:SPADE;+aoGv9;+brQ;+a_:CLUB;+aHOT.SPRI",
   "NGSa*5$qasO$qaBEAMEDsO$sb:s$saMUSICts:VbNATURAL:Vb,,:Va_%=4qNasI=4qNa_H*%=Ma*%=Mt=TYPE-1&pdTYP",
   "E-2&pdTYPE-3&pdTYPE-4&pdTYPE-5&pdTYPE-6&pdTYPE-7&pdGENERIC.MATERIALSaoG_H*%=MaRECYCLED%v=MaPAR",
   "TIALLY-RECYCLED%v=MaPERMANENT%v:Va_,=MaDIE.FACE-1bFACE-2bFACE-3bFACE-4bFACE-5bFACE-6a_:p3|Brw+",
   "3d^+ryaoGp3|B_:rw+3d^+_:rya!1t=|Tc|9aDIGRAMt=GREATER|TcLESSER|9d|TcGREATER|9a_:traoGtravLm5PIC",
   "KaANCHORaqPSWORDSa;0$?AESCULAPIUSaSCALESaALEMBICat%aGEARa;0$?HERMESaATOM=MaFLEUR-DE-LISa%X_:;1",
   "a?5LINES.CONVERGING+3dyraWARNING:Vav%VOLTAGE:Var*tT:Vbz8:VaINTERLOCKEDtTm5z8:Vaz8m5tT:Vb|B;r:V",
   "dm5z8m5tT:Va_1z8|B;r:Vav|z8|B;r:Vaz,_:p3boGp3b:*_:p3aMARRIAGE=MaDIVORCE=MaUNMARRIED%;=MaCOFFIN",
   "aFUNERAL.URNaNEUTERaCERESaPALLASaJUNOaVESTAaCHIRONaoG!5LILITHaSEXTILEaSEMISEXTILEaQUINCUNXaSES",
   "QUIQUADRATEaSOCCERn5aBASEBALLa;Nxta_:DRAUGHTSzmcx+aoGDRAUGHTSzmcx+a:;|DSNOWa;?BEHINDpsa*saoG:;",
   "a?9psm5*sa^q_::J&WboG:J&Wa_:rQw3;MaqSLANESaDISABLEDo:aOPHIUCHUSaPICKao:SLIDINGavs|B_:qNap4qSLA",
   "NESaCHAINSa$4ENTRYam0ONE-WAYyrWAY^LaoGTWO-WAYyrWAY^La_:TWO-WAYyrWAY^LaoGyrLANE.MERGEa_:yrLANE.",
   "MERGEaDRIVE.SLOW:Vavp_:r,^TayrppENTRYa;N,DatKrNw3_:p3w3oG;MaoGTRUCKaRESTRICTEDyrENTRY-1cENTRY-",
   "2aASTRONOMICAL=Mt=URANUSavpp3|B;rm5^+rymEa&FaRIGHT-HANDEDws&FaLEFT-HANDEDws&Fawy&FaoGqN%E:CaSH",
   "INTO.SHRINEaCHURCHao|aHISTORIC.SITEaGEAR|DHUBb|BHANDLESaMAP=Mt=LIGHTHOUSEa!6a_A%EGROUNDaFOUNTA",
   "INatrw3HOLEaFERRYaSAILBOATa;MuBqHaSKIERawLSKATEa&M|Bn5aTENTaw^BANK=Mav7GRAVEYARD=MaFUEL.PUMPaC",
   "UP%EoG;Ma_:tr|Bv|!DoGSTRIPEaoG+_,Ua_LBLADE,UaoG,UazQBLADE,Ua_:,UbvppOzqa=,zE:VaTAPE.DRIVEamRas",
   "na*tFISTbvNaVICTORYvNaWRITINGvNazQ+3&Da&Da_L+3&Da_:NIBaoGNIBapOzqavppOzqa!sXavp!sXan8Xavpn8Xa%",
   "Xu;qNavpu;qNa%JpEqNavp%JpEqNay9qNa,$_:y9qNa%Xy9qNaMALTESEqNa;1$?DAVIDauB=$nJbn7nJavpuBn7nJauBC",
   "LUB-SPOKEDnJaoGuB&u;1a_:uB&u;1aSPARKLESa;o%X_:;1ap4_:;1a%JpEoG;1aoGpE_:;1a%XoG;1avp%XoG;1a&8;1",
   "a,$_:;1avpnJa%JpEnJasM;KnJb&uoG;1c&8;1a:q&uoG;1asM&u*$oG;1avpsM&u*$oG;1a^v&uoG;1a:r&unJa=$nJa%",
   "JpE=$nJavp=$nJa:qPETALLEDoGm5_:t!aoGt!a_:t!asMPETALLED%XoGt!ap4%JpEsM&u;1avp=$&8nJa::aTIGHT.TR",
   "IFOLIATE::avpCHEVRON::aSPARKLEavpSPARKLEan7nJasM=$*LnJavpsM=$*LnJaqNzqa,$_:p3a!_;NqNzqazQ+3r?_",
   ":;Ma_L+3r?_:;MazQ+3,$_:;Ma_L+3,$_:;MaoG*8zq%Ua_:*8zq%Ubs?zq%UaoGrQ!M_:Xavps?zq=May;_1noaz,_1no",
   "avp_1nob:0^qpy*mzq%Ucpy*mzq%Ubr!^qpy*mzq%Ucpy*mzq%UbzO:0py*mzq%Ucr!py*mzq%Uaq5;4%w:V%Uavps?zq%",
   "Ubv9s?zq%UboGv9a+vvpoGv9ooatzv9a+vtzv9ooaz,yr%*%Ub+3%*%Ubtuyr%*%Uc+3%*%Ubytm7oY%Ub+5m7oY%Uavpy",
   "tm7*mzq%Ub+5m7*mzq%Ubytm7oY%Ub+5m7oY%Uay;yr^J,_oY%Ub+3^J,_oY%Uaz,yrq1oY%Ub+3q1oY%UaDINGBAT!_p4",
   "rW%Ge^+e?5euBetpe:qe,tesMe$Wd$x=:bp4,JrW%Ge^+e?5euBetpe:qe,tesMe$Wd$x=:b!_p4,JrW%Gf^+f?5fuBftp",
   "f:qf,tfsMf$We$x=:avp_?+9m^b&q:Vb!M:Vbrn:Vb;BsIm^b+9m^b$9sIm^aDRAFTING&t+9m^avpROUND-TIPPED+9m^",
   "a^U+9m^avp^U+9m^aqy^U+9m^avpqy^U+9m^aoG+9m^aTHREE-D^H+9m|bBOTTOM-LIGHTED+9m|aoG+9m|avpoGq5r:m5",
   "+9m^d_Om5+9m^aSQUAToG+9m^avpCONCAVE-POINTEDoG+9m^a+6_:+9m^ayu_:+9m^anX,$_:+9m^auI,$_:+9m^avpzQ",
   "+7_:+9m^b_L+7_:+9m^a$pzQ+7_:+9m^aq1zMa$p_L+7_:+9m^ap4vp_:+9m^aWHITE-FEATHERED+9m^aoH;BsIm^b+9m",
   "^b$9sIm^avpoH;BsIm^c+9m^c$9sIm^aTEARDROP-BARBED+9m^avpTEARDROP-SHANKED+9m^a_$+9m^avp_$+9m^aOPE",
   "N-OUTLINED+9m^ar!q1zMa?5DIMENSIONALm7a_:^Tp_:*_:^Ta&La%J;!b=BayrS-SHAPED.BAGq_a+3S-SHAPED.BAGq",
   "_a%P|Brwwoa+E:_*C;!a=B*C:_a_1no|Bv|;razv+nrNazJrnazvtKrNa;NzHm5c%Pa_:rQ|BpFrwam5|BrwasV$?%L_Oa",
   "zQ+3qG|Brwa_LyrqG|BrwayrOUTERxHa+3OUTERxHauLOUTERxHay7_I=9br+=9ayrm5+3r!^rd=9b!qazJ+3=9byr=9a_",
   "I=9|Bp3mEazRr8otv|RULEa_:CONCAVE-SIDEDrQd|Byx?oe+9?ob;M|Byx?od+9?oazvyr_:;MoYb+3_:;MoYbyrm7oYb",
   "+3m7oYbyrr!m7oYb+3r!m7oYbyr_:^J,_oYb+3_:^J,_oYbyrtu%*b+3tu%*a_O*4m^ar:*4m^ampGAPPEDp3m^apoGAPP",
   "EDp3m^a+3m^|Bp4&qazJyxm^b+9m^byr+3m^byxr!m^b+9r!m^byr+3r!m^byxm^uGnob+9m^uGnobyxr!m^uGnob+9r!m",
   "^uGnoc;Pm^aBRAILLE.PATTERN.BLANKcDOTS-1cDOTS-2cDOTS-12cDOTS-3cDOTS-13cDOTS-23cDOTS-123cDOTS-4c",
   "DOTS-14cDOTS-24cDOTS-124cDOTS-34cDOTS-134cDOTS-234cDOTS-1234cDOTS-5cDOTS-15cDOTS-25cDOTS-125cD",
   "OTS-35cDOTS-135cDOTS-235cDOTS-1235cDOTS-45cDOTS-145cDOTS-245cDOTS-1245cDOTS-345cDOTS-1345cDOTS",
   "-2345cDOTS-12345cDOTS-6cDOTS-16cDOTS-26cDOTS-126cDOTS-36cDOTS-136cDOTS-236cDOTS-1236cDOTS-46cD",
   "OTS-146cDOTS-246cDOTS-1246cDOTS-346cDOTS-1346cDOTS-2346cDOTS-12346cDOTS-56cDOTS-156cDOTS-256cD",
   "OTS-1256cDOTS-356cDOTS-1356cDOTS-2356cDOTS-12356cDOTS-456cDOTS-1456cDOTS-2456cDOTS-12456cDOTS-",
   "3456cDOTS-13456cDOTS-23456cDOTS-123456cDOTS-7cDOTS-17cDOTS-27cDOTS-127cDOTS-37cDOTS-137cDOTS-2",
   "37cDOTS-1237cDOTS-47cDOTS-147cDOTS-247cDOTS-1247cDOTS-347cDOTS-1347cDOTS-2347cDOTS-12347cDOTS-",
   "57cDOTS-157cDOTS-257cDOTS-1257cDOTS-357cDOTS-1357cDOTS-2357cDOTS-12357cDOTS-457cDOTS-1457cDOTS",
   "-2457cDOTS-12457cDOTS-3457cDOTS-13457cDOTS-23457cDOTS-123457cDOTS-67cDOTS-167cDOTS-267cDOTS-12",
   "67cDOTS-367cDOTS-1367cDOTS-2367cDOTS-12367cDOTS-467cDOTS-1467cDOTS-2467cDOTS-12467cDOTS-3467cD",
   "OTS-13467cDOTS-23467cDOTS-123467cDOTS-567cDOTS-1567cDOTS-2567cDOTS-12567cDOTS-3567cDOTS-13567c",
   "DOTS-23567cDOTS-123567cDOTS-4567cDOTS-14567cDOTS-24567cDOTS-124567cDOTS-34567cDOTS-134567cDOTS",
   "-234567cDOTS-1234567cDOTS-8cDOTS-18cDOTS-28cDOTS-128cDOTS-38cDOTS-138cDOTS-238cDOTS-1238cDOTS-",
   "48cDOTS-148cDOTS-248cDOTS-1248cDOTS-348cDOTS-1348cDOTS-2348cDOTS-12348cDOTS-58cDOTS-158cDOTS-2",
   "58cDOTS-1258cDOTS-358cDOTS-1358cDOTS-2358cDOTS-12358cDOTS-458cDOTS-1458cDOTS-2458cDOTS-12458cD",
   "OTS-3458cDOTS-13458cDOTS-23458cDOTS-123458cDOTS-68cDOTS-168cDOTS-268cDOTS-1268cDOTS-368cDOTS-1",
   "368cDOTS-2368cDOTS-12368cDOTS-468cDOTS-1468cDOTS-2468cDOTS-12468cDOTS-3468cDOTS-13468cDOTS-234",
   "68cDOTS-123468cDOTS-568cDOTS-1568cDOTS-2568cDOTS-12568cDOTS-3568cDOTS-13568cDOTS-23568cDOTS-12",
   "3568cDOTS-4568cDOTS-14568cDOTS-24568cDOTS-124568cDOTS-34568cDOTS-134568cDOTS-234568cDOTS-12345",
   "68cDOTS-78cDOTS-178cDOTS-278cDOTS-1278cDOTS-378cDOTS-1378cDOTS-2378cDOTS-12378cDOTS-478cDOTS-1",
   "478cDOTS-2478cDOTS-12478cDOTS-3478cDOTS-13478cDOTS-23478cDOTS-123478cDOTS-578cDOTS-1578cDOTS-2",
   "578cDOTS-12578cDOTS-3578cDOTS-13578cDOTS-23578cDOTS-123578cDOTS-4578cDOTS-14578cDOTS-24578cDOT",
   "S-124578cDOTS-34578cDOTS-134578cDOTS-234578cDOTS-1234578cDOTS-678cDOTS-1678cDOTS-2678cDOTS-126",
   "78cDOTS-3678cDOTS-13678cDOTS-23678cDOTS-123678cDOTS-4678cDOTS-14678cDOTS-24678cDOTS-124678cDOT",
   "S-34678cDOTS-134678cDOTS-234678cDOTS-1234678cDOTS-5678cDOTS-15678cDOTS-25678cDOTS-125678cDOTS-",
   "35678cDOTS-135678cDOTS-235678cDOTS-1235678cDOTS-45678cDOTS-145678cDOTS-245678cDOTS-1245678cDOT",
   "S-345678cDOTS-1345678cDOTS-2345678cDOTS-12345678a+9^:m^|B_1;rer!_1;rayxr!m^|B_1;ra+9r!m^|B_1;r",
   "ayr+3r!m^|B_1;ra+9^:m^uGnoayxr!m^uGnoa+9r!m^uGnoar:m^|Bv|;ra_Om^|Bv|;rb^Ym^ar:^Ym^ayxr!qxm^a+9",
   "r!qxm^ayx^Yqxm^a+9^Yqxm^b^:^Yqxm^bm^|Brz;4a_Om^?+noar:m^?+noa+9m^|B=o|B_1;rfr!_1;rb^:m^|B=of|B",
   "_1;rgr!_1;rayxm_a+9m_ayxr!m_a+9r!m_ayxm^?+oGrQa+9m^?+oGrQayxm^uGno?+oGrQa+9m^uGno?+oGrQa$9_%m5",
   ";BsIm^bsIm5;B_%m^b_%m^|Bv?bsIm^|Bv?a;BsIm^|Bv?b_%m^|Bv?a$9_%m^m5$9sIm^bsIm^m5;BsIm^a;BsIm^m5;B",
   "_%m^b_%m^m5$9_%m^a+nrNqStKrNatKrNqS+nrNa;BsIm^qS$9sIm^a$9sIm^qS;BsIm^atKrNqS$9sIm^a+nrNqS;BsIm",
   "^a$9sIm^qS$9_%m^b_%m^qS$9sIm^a_wm^&wDIRECTLY+3am^&w+9?Mq6_Ofr:cr:?Mq6yxf+9aRIGHT-SIDEm&pom^aLE",
   "FT-SIDEm&mpm^a^Gm&mpm^aoUm&mpm^a^Gm&pom^|B!Mcmpm^|B&qazQ+3,9pom^byr,9mpm^ampppp3m^apoppp3m^a+9",
   "m^mE:Kyxm^ayxm^mE:K+9m^a:K+9m^mEyxm^a+9m^|B&qn&ayxm^|B&qn&a+9m^?7Xayr+3m^?7:*p3a_O^:m^uG:*p3ay",
   "rnp_I+3npr+v2cr++3np_Iv2a_Inp+3r+npyrv2cyrr+np+3v2ayrnp_I+3np_Iv2a_Inp+3r+np+3v2ayrnpr++3npr+v",
   "2a_Inpyrr+npyrv2ayxv2|Bnp_I?+noa+9v2|Bnp_I?+noa_Ov2|Bnp+3?+noar:v2|Bnp+3?+noayxv2|Bnpr+?+noa+9",
   "v2|Bnpr+?+noa_Ov2|Bnpyr?+noar:v2|Bnpyr?+noayxv2|Bnp_IuGnoa+9v2|Bnp_IuGnoa_Ov2|Bnp+3uGnoar:v2|B",
   "np+3uGnoayxv2|Bnpr+uGnoa+9v2|Bnpr+uGnoa_Ov2|BnpyruGnoar:v2|BnpyruGnoayxv2|Bnp_ImEyxv2|Bnpr+a_O",
   "v2|Bnpyrn,_Ov2|Bnp+3a+9v2|Bnp_ImE+9v2|Bnpr+ar:v2|Bnpyrn,r:v2|Bnp+3ayxv2|Bnp_ImE+9v2|Bnp_Ier+mE",
   "+9v2|Bnpr+a+9v2|Bnp_ImEyxv2|Bnp_Ier+mEyxv2|Bnpr+ayxv2|Bnp_ImEzJqxer+n&zJqxa+9v2|Bnp_ImEzJqxer+",
   "n&zJqxa_Ov2|Bnpyrn,r:v2|Bnp+3ar:v2|Bnpyrn,_Ov2|Bnp+3a+3r!m^|B+$v5asu:VmE+9m^a?z%MmE+9m^ayxm^mE",
   "?z%Ma+9m^mE?z%MdmXst?+ay%mEyxm^ayxm^?7y%au:mE+9m^a;!mE+9m^ayxm^?7;!a=BmEyxm^ayrtm=oa+3tm=oa_It",
   "m=oar+tm=oa^Y_1noq_aZ$oSPOTcTYPEpwayr_:q1oYa+3_:q1oYayr_:%*a+3_:%*aZ$oyrw1oYc+3w1oYcyrBINDINGo",
   "Yc+3BINDINGoYayr;MoY|B_Ca+3;MoY|B_Cayr;MoY|B?ow3^GqGa+3;MoY|B?ow3oUqGayr;MoY|B?ow3oUqGa+3;MoY|",
   "B?ow3^GqGayrm7oY|Brwa+3m7oY|Brwayrm&y%oYa+3m&u:oYar!yrm&u:oYb+3m&y%oYayroG^J,_oYa+3oG^J,_oYarz",
   "tUa_1|=y?az$m7%Lyra+3m7_V|B;Maz$+3m7|Brwam7|BSwoamHm7a;Hm7%Lyrd_Ia^qm7a+Fm7am7|B_Ca+Fm7|B_Ca$+",
   "m7%L_Idr+az$m7|B%JARM.ENDINGw3m^&w_Im5+3lyrjr+m5+3lyrj+3m5_Ijyrm5_Ij+3m5r+jyrm5r+a+Fs2,sas2,s|",
   "B%Zd:*p3mEd+3m^mEdyrm^mEap3|Bv|noap4_1nob%!b+E:_b&Lap3r8otv|nom5^GvIr8ot_1nob|BSUPERIMPOSED.Xa",
   "p4ANTICLOCKWISE-ROTATEDrn:Va_Im^?7p3ap4_:oobooby%bu:ap3|B:*p3?+?J+3c^+v|;s?+?J+3a;N+nrN:!btKrN",
   ":!bnJb:*p3b;Ma^+xI;Oa^T|BrwmEc_CaSw3^Ta^T|B,rnMoUa+3^TmEyr^Tayr^Tn,_1noa_1non,+3^TaoW|ByrvIoGc",
   "+3vIoGaoGoWa?$|ByrvIoGc+3vIoGa_:wCaoGwCayr__tUa+3__tUayrr!__tUa+3r!__tUaINCOMPLETEw8a?p%Yw8aw8",
   "NEGATED|B_1noaDOUBLE-ENDED!qa;M|BCONTOURED.OUTLINEaINCREASESnCaSHUFFLE*Iasu:Vm5:z%!f|B?zmEawO?",
   "+m5:z%!aGLEICH.STARKaTHERMODYNAMICar,^T|ByrvIoGd+3vIoGaoGrQ|Br+m^bzRa_:p3|Br+m^aoGp3|Br+m^aERR",
   "OR-BARRED_:;MboG;Mb_:rQboGrQb_:p3boGp3aRULE-DELAYEDa+E:_%Ma:_|B%Za+E:_|Bv|;raoA:_b+E:_ar!&qa^Y",
   "&qaytq5m7oYa+5q5m7oYa?%aMINYa!zp4rw%Mc&q%Mc?$%Mb_F%M|Brwe&qb;Mwv%Mc_F%Ma^+zHm5%Mc%P%Ma!z?$%MaM",
   "ODULO^+;;a;=|Bwqa*4wq%MaFINITE.PARTwqawq|Br!;rbAVERAGE|B:!aCIRCULATIONuNampwray?wr|B*!PATHm?&y",
   "d,9PATHm?&yc$nINCLUDING?J&yawqm?A&t%MaQUATERNIONwq%Mawq|Byxm^|Bv?c?$:Vcwvc_Fc%Zc_CaxHay7yr^T%M",
   "aZ$oSCHEMAp$dPIPINGdPROJECTIONa&q:V|B:*p3mEdp7mFmEd?zmEdrwn&d?zn&d;z^+doG^Ta!M:V|BpymEdrwn&dtK",
   "ryd+nrya&q:Vw3yrvIp3d+3vIp3aVECTOR%PqN*Ia!s:V|BrwmEd_Ca,n*I|BoUppaSMASH*Ia!s:Vw3yrvIp3d+3vIp3a",
   "p4!s:V|Bp7mFa!s:Vw3r!p3ap4rn:Va&q:Vw3^Ta!M:Vw3^Ta!s:Vw3^TaINTERIOR*IaRIGHTHAND.INTERIOR*IaZ$oR",
   "ELATIONALp$aAMALGAMATION%PqDawv|Brwa_F|B!M:Vc%Zawv|B%ZczHm5a_F|BzH%PbmEwvawvmE_Fa_FmEnomEwvawv",
   "mEnomE_Fa_Fn,m5xI|B_Fawvn,m5xI|Bwvapp_F|B,rbwv|B,rar!;Mwvc_Fapp_F|B,rm5SMASH*IazHm5|BrwmEb%P|B",
   "rwmEar!zHm5c%Pa^+INTERSECTINGzHm5d%PaSLOPINGy7%Pcm5azH%P%2zHm5bm5|B!D;4b%P|B!D;4bm5|Bv|qxb%P|B",
   "v|qxbm5|Br!%Zd_Cdr!_Ca:*_0|B_CazH%P|Br!%Ze_CaZ$oDOMAINmscRANGEmsasu:V|Brwn&awO|BrwmEa^Yv|no|Br",
   "!_1;re^Y_1;ra?z%M|BrwmEd+nrya:Y!M:YaCONGRUENT|BrwmEasu|BnJamXst?+|Bp7mFam!st%Pst?+asu:VmE&q:Va",
   "&q:VmEsu:Vasu:VmE?z%Mar!pwsta^+p:suSIGNSa?5p:suSIGNSasu:V|B^+rymEm5^+ryn&asx|BuBrymEay%|Bp3woa",
   "u:|Bp3woay%|B*8zqmEau:|B*8zqmEay%%P:zst?+au:%P:zst?+ay%%P:zst?+|Brwwoau:%P:zst?+|Brwwoay%%P:zs",
   "t?+|BrwmEau:%P:zst?+|BrwmEay%%P:zst?+|BrwmE+3au:%P:zst?+|BrwmEyray%%Pmzau:%Pmzay%m5:1$nst?+au:",
   "m5:1$nst?+ay%m5$nmzau:m5$nmzay%mEr$stmEu:au:mEr$stmEy%ay%mE:Y%Pstau:mE:Y%Pstay%mE:YmEu:au:mE:Y",
   "mEy%ay%mEu:mEr$stau:mEy%mEr$stay%mE:zstmEu:mE:zstau:mE:zstmEy%mE:zsta:zst?+%Py%eu:ey%|Brwwoeu:",
   "|Brwwoar$st?+%Py%eu:b:zst?+%Py%fu:a:Y%Py%cu:bmEy%mEsu:Vcu:mEsu:Var!NESTEDy%cu:cy%|B_Cau:%2y%bn",
   ",y%ay%ppotq4au:ppotq4ay%ppotq4mE:zstau:ppotq4mE:zstaSMALLER?IaLARGER?IaSMALLER?I%Pst?+aLARGER?",
   "I%Pst?+asu:V|BBUMPYmEa*BmE:1su:Va;*mE:1su:Va*BmE:1$nst?+a;*mE:1$nst?+a*BmEsu:Va;*mEsu:Va*BmE$n",
   "st?+a;*mE$nst?+a*BmEmXst?+a;*mEmXst?+a*BmE$nmXst?+a;*mE$nmXst?+ar!*Bb;*a;!|Brwa=B|Brwa;!|B&q:V",
   "n&a=B|B&q:Vn&a;!|B!s:Vn&a=B|B!s:Vn&a;!$?%Pst?+|BrwmEa=B$?%Pst?+|BrwmEa;!$?mEsu:Va=B$?mEsu:Va;!",
   "$?mE?z%Ma=B$?mE?z%Ma;!$?mEmXst?+a=B$?mEmXst?+a;!$?mE$nst?+a=B$?mE$nst?+a;Myr%JoX%Mb+3%JoX%Mapp",
   ";!b=Bb;!%Pst?+b=B%Pst?+a;!mE=Ba=BmE;!a;!mE;!a=BmE=Bbn,;!cm5xIotqx|B;!asV$?%Lr:a&m|B=&^GaTRANSV",
   "ERSALwvaFORKINGaNONFORKINGa:Kyr=9br+=9b_I=9a&L|BSa_1no^Y+3^rar!_1noyr^ra_1nor!yr^rar!_1nor!yr^",
   "razJqxuGyrz=$?r!_1a:Kr+=9|B%Zb_I=9|B_CdmE:Kr+=9ar!r+=9b_I=9b;r$n:Va+Fr!;r$n:Vart$nr7|B+FNEGATI",
   "ON:!a_1y?|Bp3mEen&ar+=9|Bp3n&a%!|Bv|;rc?z%Ma^Y_1noBINARY*;d|Bv|;rbpw%MbNESTEDy%cu:ar$:zy%%Pst?",
   "+cu:%Pst?+a^Y:_BINARY*;ay7^Y_1no%Mar!:_%Ma_:_1noa!z_:_1noa$9sI_:m^b_%_:m^a;BsI_:m^b_%_:m^ayr+3",
   "_:m^ayxoGm^a_OoGm^ar:oGm^a$9sIoGm^b_%oGm^a;BsIoGm^b_%oGm^ayr+3oGm^a_Ir+oGm^a+9m^|B?&r:e_Oayxm^",
   "|B?&r:e_Oa;M|B^GvIoGcoUvIoGc_L+3rNvIoGczQyrrNvIoGarQ|ByrvIoGc+3vIoGc^GvIoGcoUvIoGarz;MaoGy7;Ma",
   "_:y7;MaoG_3:*;Ma_:_3:*;MaoG&Ea_:&EbvxaoGvxav|oGvxaoGy7p3bz,rQa_:z,rQaoGz,zRa_:z,zRaoG:*rQczRa_",
   "::*zRaoGv|sYa_:v|sYaoG_1sYa_:_1sYayrm^|B:*p3a?5yxnBayrm^|Bp4&qazJyx;Pm^ayx^:m^|B_1;rer!_1;rduG",
   "noc^Yqxm^bm^|Brz;4d=o|B_1;rfr!_1;rb^:m^|B=of|B_1;rgr!_1;rbm^?7Xa_wm^&wDIRECTLYyrasu:VmEyxm^a+E",
   "?z%MmEyxm^ayxm^mE+EmXst?+a+9m^?7u:d=Bayx*4m^a+9*4m^a+E?z%MmE+9m^a+9m^mE+EmXst?+a?z%MmEyxm^ayxm",
   "^mEmXst?+d+E?z%Ma+9m^mE+E?z%Mar:^U|=m^a:K:z$9m^bnZ;Bm^a_:z,;1aoG:*;1a_::*;1aoG+5&Ea_:+5&Eavpy7",
   "p3bOVAL|BOVALwobp3|Bp3wobp3bp4,Da:z$9m^|Bv^v5anZ;Bm^|Bv^=oa:z$9m^|Bv|=oanZ;Bm^|Bv|=oan+m^&wr:?",
   "M$9sIa:Kn+m^&wr:?M$9sIayx^Um^a_O^Um^a+9^Um^ar:^Um^ayr+3^Um^a_Ir+^Um^a$9_%^Um^bsI^Um^a;BsI^Um^b",
   "_%^Um^ayx^Uqym^a_O^Uqym^a+9^Uqym^ar:^Uqym^apo^U%Jp3m^amp^U%Jp3m^ayx^Um^?+noa_O^Um^?+noa+9^Um^?",
   "+noar:^Um^?+noa~3~$9_%^Um^?+nobsI^Um^?+noa;BsI^Um^?+nob_%^Um^?+noayx^Um^|Br!v|;ra_O^Um^|Br!v|;",
   "ra+9^Um^|Br!v|;rar:^Um^|Br!v|;rav|=7xta_1=7xtayx^Um^%Y+9^Um^a_O^Um^yx$?r:^Um^a+9^Um^%Yyx^Um^ar",
   ":^Um^yx$?_O^Um^ayx^U%nnBa_O^U%nnBa+9^U%nnBar:^U%nnBayxoGp4_:m^a_OoGp4_:m^a+9oGp4_:m^ar:oGp4_:m",
   "^amp^U+3^;m^coU^;m^cyr^;m^c^G^;m^a+Dyrb+3aNEWLINEyrb+3auBqGnBCIRCLINGmpa+9oGm^a~2~=Mt=TYPE.A.E",
   "LECTRONICSaTHREE-D^Hyxswm|bRIGHT-LIGHTED_Oswm|b^H+9swm|bLEFT-LIGHTEDr:swm|aoGyxswm|b_Oswm|b+9s",
   "wm|br:swm|ar:^Um^|BzJ?&yxg+9a_O^Um^|BzJ?&yxg+9ayx^Um^|BzJ?&_Oa+9^Um^|BzJ?&_Oayx^Um^|BzJ?&r:a+9",
   "^Um^|BzJ?&r:aoGq5r:m5yxm^e+9m^c_Om5yxm^e+9m^cyxm5_Om^c+9m5_Om^cyxm5r:m^c+9m5r:m^a+Km^r+yrd+3c_",
   "Iyrd+3cyr_Ic+3_Icyrr+c+3r+a_O_:m^uGno|Bv|noa_Im|w3A*zoXa%2_:;Ocm5oG;OboG;Oan8oX|By;Xap4XboPXao",
   "G;MpFbrQpFa^qoG&Eav|oGOCTAGONaoGOCTAGONbz,_J^TpFcr,^TpFcyt^TpFc+5^TpFaNEPTUNEt^^+a^GvIoGp3aoUv",
   "IoGp3ay;uB&uoGq7a+vy;uB&uoGq7a_:uB&uq7a+v_:uB&uq7a;M&&w7aUNCERTAINTY:VaGROUPzqaPLUTOt^^+c?5cuB",
   "ctpaTRANSPLUTOaPROSERPINAaASTRAEAaHYGIEAaPHOLUSaNESSUSa_:!5SELENAaoGrQ%EqNaTRUEy;!5ARTAaCUPIDO",
   "aHADESaZEUSaKRONOSaAPOLLONaADMETOSaVULCANUSaPOSEIDONayrvIoG;1a+3vIoG;1a;1|ByrvIoGc+3vIoGayx^:m",
   "^|B^TnAa_O^:m^|B^TnAa+9^:m^|B^TnAar:^:m^|B^TnAaERISt^%Gc^+aSEDNAaRUSSIANnK=MVIGINTILEdNOVILEdQ",
   "UINTILEdBINOVILEdSENTAGONdTREDECILEasu:V|Bw8n&aUNITED=MaSEPARATED=Mar*=MaPASSED=Ma+F+3m7aHELLS",
   "CHREIBER.PAUSE=Mauwo,y&AZUdBUKYdVEDEduvdDOBROdYESTUd|;dsEd|$dw:dwmw:dIdrodKAKOdy|d!ydNASHIdONU",
   "d&xdRITSIdSLOVOd^tdUKUdFRITUdHERUdOTUd%_dSHTAd^7dpZd,wd|2d|1dYATIdSPIDERYvDd|qd:*|rf|B=od|mdw!",
   ":*|rdoA|rdw!oA|rdtodw;dSHTAPICd^1AdLATINATE!ydCAUDATEpZb:*y&AZUdBUKYdVEDEduvdDOBROdYESTUd|;dsE",
   "d|$dw:dwmw:dIdrodKAKOdy|d!ydNASHIdONUd&xdRITSIdSLOVOd^tdUKUdFRITUdHERUdOTUd%_dSHTAd^7dpZd,wd|2",
   "d|1dYATIdSPIDERYvDd|qd:*|rf|B=od|mdw!:*|rdoA|rdw!oA|rdtodw;dSHTAPICd^1AdLATINATE!ydCAUDATEpZay",
   "9o,y&L|Br!nob:*y&L|Br!nobo,y&L|B!D?zdP|B;rdR|B=ob:*y&A|B;rdT|BrN;rbo,y&H|BrFb:*y&H|BrFbo,y&K|B",
   "rFb:*y&K|BrFbo,y&Z|BrFb:*y&Z|BrFbo,y&mZdM|Bv?d^qAemZb:*y&V|B+3v?bo,y&W|Bv?b:*y&W|Bv?dV|Bq0bo,y",
   "&vIHb:*y&vIHdTAILLESS&QdE|BNOTCHd^qR|B=odO|BzO+mwoby&:*o,^qEb;z:*y&Ja!Qy&o,Vay9o,y&S|B=I=odZ|B",
   "=I=oaqEo,y&ALFAb:*y&ALFAbo,y&VIDAb:*y&VIDAbo,y&uVb:*y&uVbo,y&DALDAb:*y&DALDAbo,y&EIEb:*y&EIEbo",
   ",y&SOUb:*y&SOUbo,y&|yb:*y&|ybo,y&HATEb:*y&HATEbo,y&THETHEb:*y&THETHEbo,y&IAUDAb:*y&IAUDAbo,y&x",
   "Vb:*y&xVbo,y&LAULAb:*y&LAULAbo,y&z|b:*y&z|bo,y&$Lb:*y&$Lbo,y&KSIb:*y&KSIbo,y&Ob:*y&Obo,y&&Ub:*",
   "y&&Ubo,y&+ob:*y&+obo,y&SIMAb:*y&SIMAbo,y&=xb:*y&=xbo,y&UAb:*y&UAbo,y&tVb:*y&tVbo,y&KHIb:*y&KHI",
   "bo,y&*Qb:*y&*Qbo,y&OOUb:*y&OOUbo,y&rOmUb:*y&rOmUbo,y&%AqEmQb:*y&%AqEmQbo,y&qUEIEb:*y&qUEIEbo,y",
   "&rOxVb:*y&rOxVbo,y&rO$Lb:*y&rO$Lbo,y&qU$Lb:*y&qU$Lbo,y&%AqEOOUb:*y&%AqEOOUbo,y&,Gb:*y&,Gbo,y&q",
   "P,^b:*y&qP,^bo,y&%AqE,^b:*y&%AqE,^bo,y&%AqEs%b:*y&%AqEs%bo,y&AKHMIMICx!b:*y&AKHMIMICx!bo,y&rOv",
   "_b:*y&rOv_bo,y&%AqEv_b:*y&%AqEv_bo,y&%AqEvDb:*y&%AqEvDbo,y&L-SHAPEDvDb:*y&L-SHAPEDvDbo,y&%AqEH",
   "EIb:*y&%AqEHEIbo,y&%AqEv3b:*y&%AqEv3bo,y&%AqEuYb:*y&%AqEuYbo,y&%AqEDJAb:*y&%AqEDJAbo,y&%AqE:Fb",
   ":*y&%AqE:Fbo,y&%A$v:Fb:*y&%A$v:Fbo,y&%A$vNGIb:*y&%A$vNGIbo,y&%A$v$%b:*y&%A$v$%bo,y&%A$vWAUb:*y",
   "&%A$vWAUb=MxRcz|+oc&U+ocSTAUROSc=x+ocKHI+oc:FSIMAbo,y&qU,^b:*y&qU,^bo,y&qUuYb:*y&qUuYbpx$LmEcS",
   "PIRITUS.ASPERdLENISbo,y&BOHAIRICx!b:*y&BOHAIRICx!b~6~%A$vuL;8dr1*8zqdINDIRECT*8zqdVERSEr9buE%G",
   "vIbuL;8bMORPHOLOGICALr9au5:*y&m4dBANduWdDONds3dVINdZENdTANdw3dxTdLASdzmdNARd%EdPARd|+d*pd,Hd=u",
   "dUNd&OdxzduodQARd:GdpWdo!dJILdCILdpIdXANdxEdHAEdv4dHIEd_!dv0dHOEd~2~YNd~6~mMa~3~TIFINAGHy&|QcY",
   "ABcYABHcYAGcYAGHHcBERBER.ACADEMY.YAJcYAJcYADcYADHcYADDcYADDHcYEYcYAFcYAKc^oYAKcYAKHHcYAHcBERBE",
   "R.ACADEMY.YAHc^oYAHcYAHHc|RcYAKHc^oYAKHcYAQc^oYAQc|7cYAZHcAHAGGAR.YAZHc^oYAZHcYALcYAMcYANc^oYA",
   "GNd|TcYAPc|qcYARcYARRcYAGHc^oYAGHcAYER.YAGHcYAScYASScYASHc|UcYATHcYACHcYATTcYAVcYAWcYAYcYAZcTA",
   "WELLEMET.YAZcYAZZc|Vc|mb~8~!Qy&LABIALIZATIONzqb,pzqb~F~p;xJas;=LLOAcMOAcROAcSOAcSHOAcBOAcTOAcC",
   "OAcNOAcNYOAcuyOAcZOAcDOAcDDOAcJOAcTHOAcCHOAcPHOAcPOAcGGWAcGGWIcGGWEEcGGWEc~A~;QcSSUcSSIcSSAAcS",
   "SEEcSSEcSSOc~2~CCAcCCUcCCIcCCAAcCCEEcCCEcCCOc~2~ZZAcZZUcZZIcZZAAcZZEEcZZEcZZOc~2~CCHAcCCHUcCCH",
   "IcCCHAAcCCHEEcCCHEcCCHOc~2~QYAcQYUcQYIcQYAAcQYEEcQYEcQYOc~2~KYAcKYUcKYIcKYAAcyXcKYEcKYOc~2~XYA",
   "cXYUcXYIcXYAAcXYEEcXYEcXYOc~2~GYAcGYUcGYIcGYAAcGYEEcGYEcGYOa~2~pxq8y&nyd_Ydupdq+d|,d|!dxPdsTds",
   "0ds3dOd%_dsyds!d=!dvDd^4dpNd,wdSHCHAdtodES-TEdAdwWdDJERVd!3UKd|Ud|qdw$Ady_|rdoA|rdw$oA|ra+3m7;",
   "%ztcrz;%ztayr;%oYa+3;%oYayrrz;%oYa+3rz;%oYa*twtztbrzwtztarz^Nztayr^NoYa+3^NoYa*t;Mayr*tOMISSIO",
   "NoYa+3*tOMISSIONoYaEDITORIAL.CORONISa%xaFORKED%xa+FFORKED%xaHYPODIASTOLEarzOBELOSar:ANCORAa_OA",
   "NCORAarz+5m7ar!$+wIawywua%ro0awI|BrMa?z|B+mmEayrzO%%oYa+3zO%%oYa?z|BrwmEdn&ayr_1no|B*9a+3_1no|",
   "B*9a^GyrvIoYb+3vIoYaoUyrvIoYb+3vIoYayr:TUoYa+3:TUoYayrr!%*a+3r!%*a^+ry%Y%Grw*Ua%Grw%Y^+ry*Ua;N",
   "uBrw*Uatprwzqa+F*8zqa_1?za+m&ta|I,p!Drwa^qpya*trwbpya^q,maqo|ByrGUARDc+3GUARDa^qqoa^GvI,1:VaTW",
   "O-EMqxaTHREE-EMqxaSTENOGRAPHICuL;8a_1:qrya___1y?aCAPITULUMar!wIa+Fpyar!LOW-REVERSED-9*mzqaqx|B",
   "yr_Nar!=EzqawyzOxnd|BxnmEazOxnc|Brwar!STACKEDpyarz:_a^YqoaMEDIEVALpyaPARAGRAPHUSzqaPUNCTUS.ELE",
   "VATUSzqaCORNISH.VERSEr9aqNPATTY|B+3CROSSBARdyrCROSSBARaTIRONIAN:Vo,s*aMEDIEVALs?zqb*8zqayr;MoY",
   "|B;ra+3;MoY|B;rayr;MoY|Br!;ra+3;MoY|Br!;ra^GvIyr%*c+3%*aoUvIyr%*c+3%*a$+wIa~23~CJK*o*?cCLIFFc,",
   "0%Gd^+d?5c&McoXcTABLEcyA%Gd^+crmcSEALc:*%Gd^+cLAME%Gd^+d?5duBc:,c?4cSNOUT%Gd^+cv9%Gd^+cvNcRAPc",
   "~2~CHOKEc;?c!5cDEATHcMOTHERcCIVILIANc_v%Gd^+ct8cPAW%Gd^+c:ZvI^OTRUNKcCOWcrucJADEcBOLT$?CLOTHct",
   "Cc;J%Gd^+cn9cSILKcowSILKcNET%Gd^+d?5duBcMESHcSHEEPcRAMcEWEc%AcBRUSH%Gd^+cz%cMORTARcGRASS%Gd^+d",
   "?5c?qcprc_%%Gd^+cow,2c:ZwAcwAcow;Gd,_ct;cowCARTc:Z_tc_t%Gd^+cCITYcowu$czJ%Gd^+cowzJdGATEcMOUND",
   "%Gd^+c*scoMcowTANNEDypdyod_|dFLYcEAT%Gd^+d?5cowEATcv5cowwBcoQcGHOSTcowtmdoDd,Cc:ZWHEATd|YcowFR",
   "OGcw=s=cows=cw=^Fcow^Fcw=r=cowr=c^scw=^scow^sa~D~KANGXI*o%Gcy?crwc:!c,0cv?c^+cLIDczmcLEGScENTE",
   "RcsMcr+oXcCOVERcwLcTABLEc%JoXcyAcPOWERcWRAPcSPOONc+3%JoXcHIDINGs5c=:crmcSEALcCLIFFc*HcAGAINc!8",
   "cs5csHcSCHOLARcuzdSLOWLYcEVENINGcoAc|FcCHILDcROOFcINCHc:*cLAMEcCORPSEcSPROUTc!6cRIVERcWORKcONE",
   "SELFcTURBANcDRYc:K?4crzCLIFFczJSTRIDEc^+vYcSHOOTcoVcSNOUTcBRISTLEcSTEPcv9cHALBERDcDOORcvNco0cR",
   "APc,WcDIPPERcAXEc;Mc$nc;?cSAYc!5c^OcLACKc;8cDEATHcWEAPONcrp$ncCOMPAREcFURcCLANcSTEAMc_vct8cCLA",
   "WcFATHERcr!XcvI^OTRUNKcSLICEcFANGcCOWcrucPROFOUNDcJADEcMELONcTILEcSWEETcLIFEcUSEcFIELDcBOLT$?C",
   "LOTHcSICKNESScrzTENTc_:cSKINcr5ctCcSPEARcm^cSTONEc;JcTRACKcGRAINcCAVEcSTANDcn9c+LcSILKcJARcNET",
   "cSHEEPctPc%Acm5cPLOWcsGcBRUSHcz%cMINISTERcSELFcARRIVEcMORTARc^CcOPPOSEcBOATcSTOPPINGcCOLORcGRA",
   "SSc?qcINSECTcBLOODc_ts5cprc_%c,2cwAc;GcVALLEYcBEANcPIGcBADGERc,_c*&cRUNct;cBODYcCARTcBITTERcMO",
   "RNINGc_tcCITYc|AcDISTINGUISHcVILLAGEcu$czJcGATEcMOUNDcSLAVEc:KTAILEDoDc*scoMcWRONGctIcypcTANNE",
   "DypcLEEKc:|cyoc_|cFLYcEATcv5cFRAGRANTcwBcoQc=rcvGcFIGHTcSACRIFICIAL|AcCAULDRONcGHOSTctmcoDc,Cc",
   "DEERcWHEATcHEMPc|YcMILLETcoGcEMBROIDERYcFROGcTRIPODcr^cRATc$mcs=c^Fcr=c^scFLUTEa~1B~wVDESCRIPT",
   "IONpJyr?++3dmE?+n&dyr?+!Dm5+3dmE?+!Dm5n&duLSURROUNDdSURROUNDuGmEfn&fyrf_Lyrg+3fzQyrd%0b~5~;Cbp",
   "ybuL;8aDITTOzqaw^INDUSTRIAL.STANDARD=MawVw,zqbpqzqb$x|%ayrm7oYa+3m7oYayrr!m7oYa+3r!m7oYayrqGoY",
   "a+3qGoYayr_:qGoYa+3_:qGoYayroGy$oYa+3oGy$oYa&+zqaGETAzqayr^J,_oYa+3^J,_oYayr_:y$oYa+3_:y$oYayr",
   "_:^J,_oYa+3_:^J,_oYayr_:;MoYa+3_:;MoYa_wqxa+Fr!*F*mzqar!*F*mzqazOr!*F*mzqa&+zqtIaHANGZHOU$y%Gc",
   "^+c?5cuBctpc:qc,tcsMc$WawVLEVEL?:zqb+n?:zqbrD?:zqbENTERING?:zqavZ:0rw?:zqbr!rw?:zqa_xqxa_1KANA",
   "*?zqd|B_9:|zqdzq_LvId|B_9:|zq_LvIdzqzQvIap4&+zqawV=+y?tR,p=MaHANGZHOU$y=:c^yc?Wa_1wVw,zqaMASUz",
   "qaPART.ALTERNATIONzqawV_Ww7bvIt1;Ca~2~v+y&:*AcAc:*IcIc:*UcUc:*EcEc:*OcOcxPcuPcx*curcyScvAcxocG",
   "EcyHcuzc+=c|sc:QcZIc;tc|^c,Xc|!c:=c|?c=5cq9c?mcrLc:*^nc^ncr_c=!cq+c?+crpc!$c$Lc$uc!^c$4cvDcnUc",
   "%7cvzcn_c&UcwEco6c*Tcv4cnyc%_cv:coNc&rczXcz|c!pczzc!Oc:*|Qc|Qc:*|qc|qc:*|mc|mc*nc+Jc++c*wc+oc:",
   "*_rc_rc_;c_!c|EcNcVUc:*xPdxoa~3~pxx8_9:|zqc,6:|zqax8_9:|zqb,6:|zqav+w,zqb_9w,zqbrYYORIax8r!wIa",
   "x7y&:*AcAc:*IcIc:*UcUc:*EcEc:*OcOcxPcuPcx*curcyScvAcxocGEcyHcuzc+=c|sc:QcZIc;tc|^c,Xc|!c:=c|?c",
   "=5cq9c?mcrLc:*^nc^ncr_c=!cq+c?+crpc!$c$Lc$uc!^c$4cvDcnUc%7cvzcn_c&UcwEco6c*Tcv4cnyc%_cv:coNc&r",
   "czXcz|c!pczzc!Oc:*|Qc|Qc:*|qc|qc:*|mc|mc*nc+Jc++c*wc+oc:*_rc_rc_;c_!c|EcNcVUc:*xPdxoc_ScVIc_Yc",
   "VOb!Drwax8*K:|zqax7w,zqb_9w,zqbrYKOTOa~6~BOPOMOFOy&BcPcMcFcDcTcNcLcGcKcHcJcQcXcZHcCHcSHcRcZcCc",
   "ScAcOcEcEHcmPcEIcnPcOUcm4cs3cm6cs8csycIcUcIUcVc$FcGNcIHcO|BrwmEcNNa~2~vZy&x=c;Ucx?c$Mc$Nc$Oc?s",
   "c;Zc+Mc+Qc+Sc+Wc+Yc+0c+Vc+Nc!Fc&Xc;Wc&3c:3c;YcwXcp2c;RcpVcx$c?Rc&Rcv$cAcmJc|QcYAEcEOcEcYEOc|Vc",
   "Oc_rcWAEc$=c|mcUcWEOc_!c_;c|qcEUc|7cIbt2by&;Vc$Sc$Rc$Qc+Rc+1c+Xc+Uc+2c!Ic!Jc!HcxYc&1c&7c&4c&5c",
   "&Zc&6cx0cx2c:7c:9c:pc:mc:5c%tc;Tc|3c|5c|4cxZc;Sc|0cYO-YAcYO-YAEcYO-IcYU-YEOcYU-YEcYU-IcARAEAcA",
   "RAEAEa~2~wVmmLINKINGzqc+Ezqc%Gzqc^+zqc?5zqcuBzqc^Gzqc!DzqcoUzqct9zqc,0zqc?TzqcuDzqcvozqcsHzqcz",
   "mzqaBOPOMOFOy&o6cZIcJIcvAcsKcENNc%IcONNcIRcANNcINNcUNNcIMcNGGcAINNcAUNNcAMc%BcONGcINNNbt3y&PdT",
   "dKdHby&GHcLHcZYbt3y&Gby&GWcKWc$=cmOaCJK;rTcWGcXGcBXGcSWcHZZcHZGcHPcHZWGcSZWGcHZTcHZZPcHPWGcHZW",
   "cHZZZcNcHcScPcSPcDcHZcHGcSZcSWZcSTcSGcPDcPZcTNcSZZcSWGcHXWGcHZZZGcPGcQa~D~x7y&:*ySd:Qd;td?+d$u",
   "dvDdvzdwEdv4dv:d!pd*nd+Jd++d*wd+oa%+vZx=c$Mc?sc+Mc!Fc&Xc:3cwXcp2cpVcx$c?Rc&Rcv$cx=Ac$MAc?sAc+M",
   "Ac!FAc&XAc:3AcwXAcp2AcpVAcx$Ac?RAc&RAcv$Acp2UbyMpJOJEONdOwEb~2~wR%Gc^+c?5cuBctpc:qc,tcsMc$Wc=:",
   "c!5ct8c_vcWOODcMETALcsHc;?cSTOCKcHAVEcSOCIETYc!+cSPECIALct4cp*cLABORcREPRESENTcCALLcSTUDYc=Ccs",
   "mcRESOURCEcALLIANCEcFESTIVALc+BcSELFcREACHap4wR*8cKINDERGARTENc,ScKOTOb$x=:%EoG;Mc^y%EoG;Mc?W%",
   "EoG;Mct_%EoG;MctY%EoG;Mc:u%EoG;Mc,v%EoG;McsR%EoG;Ma%;:Vap4$x^y%Gd^+d?5duBdtpd:qd,tdsMd$Wc?Wd%G",
   "d^+d?5duBdtpbvZx=c$Mc?sc+Mc!Fc&Xc:3cwXcp2cpVcx$c?Rc&Rcv$cx=Ac$MAc?sAc+MAc!FAc&XAc:3AcwXAcp2Acp",
   "VAcx$Ac?RAc&RAcv$AbyMpJCHAMKOdJUEUIbvZwXUayMSTANDARD=Map4wR%Gc^+c?5cuBctpc:qc,tcsMc$Wc=:c!5ct8",
   "c_vcWOODcMETALcsHc;?cSTOCKcHAVEcSOCIETYc!+cSPECIALct4cp*cLABORcSECRETcz8ctTcSUITABLEcEXCELLENT",
   "cPRINTcATTENTIONcITEMc+BcCOPYcCORRECTcv%cpEczOcyrc+3cMEDICINEcRELIGIONcSTUDYc=CcsmcRESOURCEcAL",
   "LIANCEc$Tb$x?W:qd,tdsMd$Wct_d%Gd^+d?5duBdtpd:qd,tdsMd$WctYawV=+=Mt=JANUARYeFEBRUARYeMARCHeAPRI",
   "LeMAYeJUNEeJULYeAUGUSTeSEPTEMBEReOCTOBEReNOVEMBEReDECEMBERa;MHGbERGbEVaLIMITED.LIABILITY:Vap4x",
   "7AcIcUcEcOcxPcx*cyScxocyHc+=c:Qc;tc,Xc:=c=5c?mc^nc=!c?+c!$c$Lc$uc!^c$4cvDcvzcwEcv4cv:czXcz|c!p",
   "czzc!Oc|Qc|qc|mc*nc+Jc++c*wc+oc_rc_;c_!c|Ea;MERA!+REIWAbAPAATObARUHUAbANPEAbAARUbININGUbINTIbU",
   "ONbESUKUUDObEEKAAbONSUbOOMUbKAIRIbKARATTObKARORIIbGARONbGANMAbGIGAbGINIIbKYURIIbGIRUDAAbKIRObK",
   "IROGURAMUbKIROMEETORUbKIROWATTObGURAMUbGURAMUTONbKURUZEIRObKUROONEbKEESUbKORUNAbKOOPObSAIKURUb",
   "SANTIIMUbSIRINGUbSENTIbSENTObDAASUbDESIbDORUbTONbNANObNOTTObHAITUbPAASENTObPAATUbBAARERUbPIASU",
   "TORUbPIKURUbPIKObBIRUbHUARADDObHUIITObBUSSYERUbHURANbHEKUTAARUbPESObPENIHIbHERUTUbPENSUbPEEZIb",
   "BEETAbPOINTObBORUTObHONbPONDObHOORUbHOONbMAIKURObMAIRUbMAHHAbMARUKUbMANSYONbMIKURONbMIRIbMIRIB",
   "AARUbMEGAbMEGATONbMEETORUbYAADObYAARUbYUANbRITTORUbRIRAbRUPIIbRUUBURUbREMUbRENTOGENbWATTOawV=+",
   "=Mt=HOUR|%f%Gf^+f?5fuBftpf:qf,tfsMf$Wf=:fsXf^vf?VfuCftWf:rf,ufsNf$Xf^yf^%f^*f^&f^$a;MHPAbq9bnP",
   "bnobOVbPCbDMc;NcqWbIUbERA!+HEISEIdSYOUWAdTAISYOUdMEIZIbCORPORATIONb%7AMPSb!$b!pAbzXbxPbKBbMBbG",
   "BbCALbKCALbPFbNFb!pFcGbMGbKGbHZbKHZbMHZbGHZbTHZb!pLbMLbDLbKLbFMbNMb!pMbMMbCMbKMbMM;NbCM;NbM;Nb",
   "KM;NbMMqWbCMqWbMqWbKMqWbM%YSe;Nb%7bKPAbMPAbGPAbRADc%YSe;NbPSbNSb!pSbMSbPVbNVb!pVbMVbKVbMV.MEGA",
   "bPWbNWb!pWbMWbKWbMW.MEGAbK.OHMbM.OHMbAMbBQbCCbCDbC%YKGbpvbDBbGYbvDbHPbw3bKKbKMo,bKTbLMbLNbLOGb",
   "LXbMB:*bMILbMOLbPHbPMbPPMbPRbSRbSVbWBbV%YMbA%YMawV=+=Mt=DAY%Gf^+f?5fuBftpf:qf,tfsMf$Wf=:fsXf^v",
   "f?VfuCftWf:rf,ufsNf$Xf^yf^%f^*f^&f^$f^!fTWENTY-SIXfTWENTY-SEVENfTWENTY-EIGHTfTWENTY-NINEf?WfTH",
   "IRTY-ONEa;MuTa~19C1~HEXAGRAMt=?JCREATIVEvodRECEPTIVEsHcDIFFICULTYnM?JBEGINNINGcYOUTHFUL.FOLLYc",
   "_scCONFLICTc?JARMYcv;?,c:*TAMINGcTREADINGcPEACEcSTANDSTILLcFELLOWSHIPcu,&*cMODESTYcENTHUSIASMc",
   "t:cWORK%E?JDECAYEDcAPPROACHcCONTEMPLATIONcBITING?7cGRACEcSPLITTING.APARTc+DcINNOCENCEcu,TAMING",
   "c!8qHcu,*Dc?JABYSMAL_vdCLINGINGt8cINFLUENCEcDURATIONcRETREATcu,POWERcPROGRESScqw$??Jy;c?JFAMIL",
   "Yc%OcOBSTRUCTIONcDELIVERANCEcDECREASEcw4cBREAKTHROUGHcCOMING?+MEETcu0?,cPUSHING.UPWARDcOPPRESS",
   "IONc?JWELLcREVOLUTIONc?JCAULDRONdAROUSING?9dKEEPING.STILL!6cDEVELOPMENTc?JMARRYING.MAIDENcABUN",
   "DANCEc?JWANDERERdGENTLE_|dJOYOUS.LAKEcDISPERSIONcLIMITATIONcINNER.TRUTHc:**DcAFTERp!cBEFOREp!a",
   "~5201~|7=LITcIXcIcIPcIETcIEXcwWcIEPcnMcAXcAcAPcUOXcUOcUOPcOTcOXcOcOPcEXcEc|LcBITcBIXcn_cBIPcBI",
   "ETcBIEXcBIEcBIEPcBATcBAXcnUcBAPcBUOXcBUOcBUOPcBOTcoXcoNcBOPcBEXcnycBEPcorcBUXco6cBUPcBURXcopcB",
   "YTcBYXcotcBYPcBYRXcBYRcPITcPIXc&UcPIPcPIEXcPIEcPIEPcPATcPAXc%7c%ucPUOXcPUOcPUOPcPOTcPOXc&rcPOP",
   "cPUTcPUXc*TcPUPcPURXcPURcPYTcPYXcPYcPYPcPYRXcPYRcBBITcBBIXcBBIcBBIPcBBIETcBBIEXcBBIEcBBIEPcBBA",
   "TcBBAXcnxcBBAPcBBUOXcBBUOcBBUOPcBBOTcBBOXcBBOcBBOPcBBEXcBBEcBBEPcBBUTcBBUXcBBUcBBUPcBBURXcBBUR",
   "cBBYTcBBYXcBBYcBBYPcNBITcNBIXcNBIcNBIPcNBIEXcNBIEcNBIEPcNBATcNBAXcNBAcNBAPcNBOTcNBOXcNBOcNBOPc",
   "NBUTcNBUXcNBUcNBUPcNBURXcNBURcNBYTcNBYXcNBYcNBYPcNBYRXcNBYRcHMITcHMIXcHMIcHMIPcHMIEXcHMIEcHMIE",
   "PcHMATcHMAXcHMAcHMAPcHMUOXcHMUOcHMUOPcHMOTcHMOXcHMOcHMOPcHMUTcHMUXcHMUcHMUPcHMURXcHMURcHMYXcHM",
   "YcHMYPcHMYRXcHMYRcMITcMIXcz|cMIPcMIEXcMIEcMIEPcMATcMAXczXcMAPcMUOTcMUOXcMUOcMUOPcMOTcMOXc!OcMO",
   "PcMEXczzcMUTcMUXc!pcMUPcMURXcMURcMYTcMYXcMYcMYPcFITcFIXctVcFIPcFATcFAXctHcFAPcFOXct+cFOPcFUTcF",
   "UXcFUcFUPcFURXcFURcFYTcFYXcFYcFYPcVITcVIXcVIcVIPcVIETcVIEXcVIEcVIEPcVATcVAXc_ScVAPcVOTcVOXcVOc",
   "VOPcVEXcVEPcVUTcVUXcVUcVUPcVURXcVURcVYTcVYXcVYcVYPcVYRXcVYRcDITcDIXcrLcDIPcDIEXcDIEcDIEPcDATcD",
   "AXcq9cDAPcDUOXcDUOcrwcDOXcrpcDOPcDEXcq+cDEPcDUTcDUXcr_cDUPcDURXcDURcTITcTIXc?mc?&cTIEXc?pcTIEP",
   "cTATcTAXc=5cTAPcTUOTcTUOXcTUOcTUOPcTOTcTOXc?+c^GcTEXc=!cTEPcTUTcTUXc^ncTUPcTURXcTURcDDITcDDIXc",
   "DDIcDDIPcDDIEXcDDIEcDDIEPcDDATcDDAXcq$cDDAPcDDUOXcDDUOcDDUOPcDDOTcDDOXcDDOcDDOPcDDEXcDDEcDDEPc",
   "DDUTcDDUXcDDUcDDUPcDDURXcDDURcNDITcNDIXcNDIcNDIPcNDIEXcNDIEcNDATcNDAXc!=cNDAPcNDOTcNDOXcNDOcND",
   "OPcNDEXcNDEcNDEPcNDUTcNDUXcNDUcNDUPcNDURXcNDURcHNITcHNIXcHNIcHNIPcHNIETcHNIEXcHNIEcHNIEPcHNATc",
   "HNAXcHNAcHNAPcHNUOXcHNUOcHNOTcHNOXcHNOPcHNEXcHNEcHNEPcHNUTcNITcNIXc$LcNIPcNIEXcNIEcNIEPcNAXc!$",
   "cNAPcNUOXcNUOcNUOPc$ncNOXc$4cNOPcNEXc!^cNEPcNUTcNUXc$ucNUPcNURXcNURcHLITcHLIXcHLIcHLIPcHLIEXcH",
   "LIEcHLIEPcHLATcHLAXcHLAcHLAPcHLUOXcHLUOcHLUOPcHLOXcHLOcHLOPcHLEXcHLEcHLEPcHLUTcHLUXcHLUcHLUPcH",
   "LURXcHLURcHLYTcHLYXcHLYcHLYPcHLYRXcHLYRcLITcLIXcy,cLIPcLIETcLIEXcLIEcLIEPcLATcLAXcyYcLAPcLUOTc",
   "LUOXcLUOcLUOPcLOTcLOXczDcLOPcLEXcymcLEPcLUTcLUXczScLUPcLURXcLURcLYTcLYXcLYcLYPcLYRXcLYRcGITcGI",
   "XcurcGIPcGIETcGIEXcGIEcGIEPcGATcGAXcuPcGAPcGUOTcGUOXcGUOcGUOPcGOTcGOXcuzcGOPcGETcGEXcGEcGEPcGU",
   "TcGUXcvAcGUPcGURXcGURcKITcKIXcx*cKIPcKIEXcKIEcKIEPcKATcKAXcxPcKAPcKUOXcKUOcKUOPcKOTcKOXcyHcKOP",
   "cxscKEXcxocKEPcKUTcKUXcyScKUPcKURXcyUcGGITcGGIXcGGIcGGIEXcGGIEcGGIEPcGGATcGGAXcu9cGGAPcGGUOTcG",
   "GUOXcGGUOcGGUOPcGGOTcGGOXcGGOcGGOPcGGETcGGEXcGGEcGGEPcGGUTcGGUXcGGUcGGUPcGGURXcGGURcMGIEXcMGIE",
   "cMGATcMGAXcMGAcMGAPcMGUOXcMGUOcMGUOPcMGOTcMGOXcz_cMGOPcMGEXcMGEcMGEPcMGUTcMGUXcMGUcMGUPcMGURXc",
   "MGURcHXITcHXIXcHXIcHXIPcHXIETcHXIEXcHXIEcHXIEPcHXATcHXAXcHXAcHXAPcHXUOTcHXUOXcHXUOcHXUOPcHXOTc",
   "HXOXcHXOcHXOPcHXEXcHXEcHXEPcNGIEXcNGIEcNGIEPcNGATcNGAXc$GcNGAPcNGUOTcNGUOXcNGUOcNGOTcNGOXc$JcN",
   "GOPcNGEXcNGEcNGEPcHITcHIEXcHIEcv3cHAXcvDcHAPcHUOTcHUOXcHUOcHUOPcHOTcHOXcv:cHOPcHEXcv4cHEPcWATc",
   "WAXc_rcWAPcWUOXcWUOcWUOPcWOXc|EcWOPcWEXc_!cWEPcZITcZIXcZIcZIPcZIEXcZIEcZIEPcZATcZAXc|scZAPcZUO",
   "XcZUOcZUOPcZOTcZOXc|?cZOPcZEXc|!cZEPcZUTcZUXc|^cZUPcZURXcZURcZYTcZYXcZYcZYPcZYRXcZYRcCITcCIXcC",
   "IcCIPcCIETcCIEXcCIEcCIEPcpAcCAXcoxcCAPcCUOXcCUOcCUOPcCOTcCOXcpvcCOPcCEXcCEcCEPcCUTcCUXcCUcCUPc",
   "CURXcCURcCYTcCYXcCYcCYPcCYRXcCYRcZZITcZZIXcZZIcZZIPcZZIETcZZIEXcZZIEcZZIEPcZZATcZZAXcZZAcZZAPc",
   "ZZOXcZZOcZZOPcZZEXcZZEcZZEPcZZUXcZZUcZZUPcZZURXcZZURcZZYTcZZYXcZZYcZZYPcZZYRXcZZYRcNZITcNZIXcN",
   "ZIcNZIPcNZIEXcNZIEcNZIEPcNZATcNZAXcNZAcNZAPcNZUOXcNZUOcNZOXcNZOPcNZEXcNZEcNZUXcNZUcNZUPcNZURXc",
   "NZURcNZYTcNZYXcNZYcNZYPcNZYRXcNZYRcSITc:qc:QcSIPcSIEXcSIEcSIEPcSATcSAXc+=cSAPcSUOXcSUOcSUOPcSO",
   "TcSOXc:=cSOPcSEXc,XcSEPcSUTcSUXc;tcSUPcSURXcSURcSYTcSYXcSYcSYPcSYRXcSYRcSSITcSSIXcSSIcSSIPcSSI",
   "EXcSSIEcSSIEPcSSATcSSAXc;QcSSAPcSSOTcSSOXcSSOcSSOPcSSEXcSSEcSSEPcSSUTcSSUXcSSUcSSUPcSSYTcSSYXc",
   "SSYcSSYPcSSYRXcSSYRcZHATcZHAXc|*cZHAPcZHUOXcZHUOcZHUOPcZHOTcZHOXcZHOcZHOPcZHETcZHEXc|,cZHEPcZH",
   "UTcZHUXcZHUcZHUPcZHURXcZHURcZHYTcZHYXcZHYcZHYPcZHYRXcZHYRcCHATcCHAXcpHcCHAPcCHUOTcCHUOXcCHUOcC",
   "HUOPcCHOTcCHOXcpXcCHOPcCHETcCHEXcpNcCHEPcCHUXcCHUcCHUPcCHURXcCHURcCHYTcCHYXcCHYcCHYPcCHYRXcCHY",
   "RcRRAXc+&cRRUOXcRRUOcRROTcRROXcRROcRROPcRRETcRREXcRREcRREPcRRUTcRRUXcRRUcRRUPcRRURXcRRURcRRYTc",
   "RRYXcRRYcRRYPcRRYRXcRRYRcNRATcNRAXcNRAcNRAPcNROXcNROcNROPcNRETcNREXcNREcNREPcNRUTcNRUXcNRUcNRU",
   "PcNRURXcNRURcNRYTcNRYXcNRYcNRYPcNRYRXcNRYRcSHATcSHAXc,wcSHAPcSHUOXcSHUOcSHUOPcSHOTcSHOXc:HcSHO",
   "PcSHETcSHEXc,;cSHEPcSHUTcSHUXc:NcSHUPcSHURXcSHURcSHYTcSHYXcSHYcSHYPcSHYRXcSHYRcRATcRAXc*ncRAPc",
   "RUOXcRUOcRUOPcROTcROXc+ocROPcREXc*wcREPcRUTcRUXc++cRUPcRURXcRURcRYTcRYXcRYcRYPcRYRXcRYRcJITcJI",
   "XcJIcJIPcJIETcJIEXcJIEcJIEPcJUOTcJUOXcJUOcJUOPcxMcJOXcxGcJOPcJUTcJUXcJUcJUPcJURXcJURcJYTcJYXcJ",
   "YcJYPcJYRXcJYRcQITcQIXcQIcQIPcQIETcQIEXcQIEcQIEPcQUOTcQUOXcQUOcQUOPcQOTcQOXcQOcQOPcQUTcQUXcQUc",
   "QUPcQURXcQURcQYTcQYXcQYcQYPcQYRXcQYRcJJITcJJIXcJJIcJJIPcJJIETcJJIEXcJJIEcJJIEPcJJUOXcJJUOcJJUO",
   "PcJJOTcJJOXcJJOcJJOPcJJUTcJJUXcJJUcJJUPcJJURXcJJURcJJYTcJJYXcJJYcJJYPcNJITcNJIXcNJIcNJIPcNJIET",
   "cNJIEXcNJIEcNJIEPcNJUOXcNJUOcNJOTcNJOXcNJOcNJOPcNJUXcNJUcNJUPcNJURXcNJURcNJYTcNJYXcNJYcNJYPcNJ",
   "YRXcNJYRcNYITcNYIXc$%cNYIPcNYIETcNYIEXcNYIEcNYIEPcNYUOXcNYUOcNYUOPcNYOTcNYOXc$*cNYOPcNYUTcNYUX",
   "cNYUcNYUPcXITcXIXc|OcXIPcXIETcXIEXcXIEcXIEPcXUOXcXUOcXOTcXOXcXOcXOPcXYTcXYXcXYcXYPcXYRXcXYRcYI",
   "TcYIXc|7cYIPcYIETcYIEXcYIEcYIEPcYUOTcYUOXcYUOcYUOPcYOTcYOXc|mcYOPcYUTcYUXc|qcYUPcYURXcYURcYYTc",
   "YYXcYYcYYPcYYRXcYYRb~4~*oQOTcy,cKITcNYIPcCYPcSSIcGGOPcGEPcz|cHXITcLYRcBBUTcMOPc|mcPUTcHXUOcTAT",
   "cuPcZUPcCYTcDDURcopcGGUOcNYOPc^ncOPcJJUTcZOTcPYTcHMOcYITcVURcSHYcVEPc|scxGcNZUPcJJYcGOTcJJIEc|",
   "Ecr_cSHURcLIEcCYcCUOPcCIPcHXOPcSHATcZURcSHOPcpNcZZIETcNBIEcxoa~A~LISUy&nUc%7c&Ncq9c=5c?EcuPcxP",
   "cxvcw?coxcpHcsCc^3c^5czXc!$cyYc+=c|*c|sc$GcvDc|NcvyctHc_rc,wc|QcumcAcmJcEcEUcIcOcUc^_cUHc$=c?:",
   "MYA?md!$&rdMYA.CYAeoNe!$eJEUb*UpycuL;8aVAI=LsKcEENcHEEcWEEcWEENc&AcBHEEcnzczxcKPEEcMGBEEcGBEEc",
   "tQc_0c=&c?KcDHEEcDHHEEcLEEcREEcq;cNDEEc,2c,=cZEEc|:cCEEcxAc$1c|WcKEEcNGGEEcGEEcMEEcNEEcNYEEcIc",
   "w3cvzcHINc_;cWINc&UcBHIcn_cMBIcKPIcMGBIcGBIctVcVIc?mc?QcDHIcDHHIcy,c+JcrLcNDIc:Qc:BcZIcZHIcCIc",
   "JIcNJIc|7cx*cNGGIcurcz|c$Lc$%cAcm4cNGANcvDcHANc_rcWANc%7cn^cnUcMBAcKPAcKPANcMGBAcGBActHc_Sc=5c",
   "?EcrKcDHHAcyYc*ncq9c!=c+=c,wc|sc|*coxcw?cNJAc|QcxPcxTc$IcuPczXc!$c$$c%IcOONcHOOcWOOcWOONcPOOcB",
   "HOOcBOOcMBOOcKPOOcMGBOOcGBOOcFOOcVOOc^EcTHOOcDHOOcDHHOOczLcROOcDOOcNDOOcSOOcSHOOcZOOcZHOOcCOOc",
   "JOOcNJOOcYOOcKOOcNGGOOcGOOcMOOcNOOcNYOOcUcUNcwEcHUNc|LcWUNc*TcBHUco6cMBUcKPUcMGBUcGBUcFUcVUc^n",
   "cTHUcDHUcDHHUczSc++cr_cNDUc;tc:Nc|^cZHUcCUcJUcNJUc|qcyScNGGUcvAc!pc$ucNYUcOc%EcNGONcv:cHONc|Ec",
   "WONc&rcBHOcoNcMBOcKPOcMGBOcGBOcGBONct+cVOc?+c?ZcDHOcDHHOczDc+ocrpcNDOc:=c:Hc|?cZHOcpvcxGcNJOc|",
   "mcyHcNGGOcuzc!Oc$4c$*cEcs3cNGENcv4cHENc_!cWENc%_cBHEcnycMBEcKPEcKPENcMGBEcGBEcGBENctOc_Yc=!c?J",
   "cDHEcDHHEcymc*wcq+cNDEc,Xc,;c|!c|,cCEcw|c$0c|VcxocNGGEcNGGENcGEcGENczzc!^cNYEc$Fcy!bpybuL;8b*8",
   "zqb=LNDOLEtHdxPdSOOb=MFEENGcKEENGcTINGcNIIcBANGcFAAc=6cDANGcDOONGcKUNGcTONGcDO-OcJONGbrW|%c%Gc",
   "^+c?5cuBctpc:qc,tcsMc$Wb=LNDOLEzXdrpa~15~q8o,y&ZEMLYAb:*y&ZEMLYAbo,y&sEb:*y&sEbo,y&+FsDb:*y&+F",
   "sDbo,y&wzb:*y&wzbo,y&DJERVb:*y&DJERVbo,y&!3UKb:*y&!3UKbo,y&BROAD%Cb:*y&BROAD%Cbo,y&$CYERb:*y&$",
   "CYERbo,y&|2|BnWYERb:*y&|2|BnWYERbo,y&w$|Ub:*y&w$|Ubo,y&+F|qb:*y&+F|qbo,y&w$Ab:*y&w$Abo,y&ppy_|",
   "rb:*y&ppy_|rbo,y&BLENDED|rb:*y&BLENDED|rbo,y&w$ppy_|rb:*y&w$ppy_|rbo,y&YNb:*y&YNbo,y&+F^4b:*y&",
   "+F^4bo,y&:?q+b:*y&:?q+bo,y&:?sTb:*y&:?sTbo,y&:?s0b:*y&:?s0bo,y&!ZOb:*y&!ZObo,y&oCOb:*y&oCObo,y",
   "&r!!ZOb:*y&r!!ZOby&MULTIOCULAR.Oapxq8VZMETc=:!L:VcwG!L:Vc?2!L:VaSLAVONICnJapxq8y&^|wWdId|7dUdv",
   "1:Vd|2d:?:Vd%CcxncPAYEROKaq8xnbPAYEROKbo,y&DWEb:*y&DWEbo,y&DZWEb:*y&DZWEbo,y&ZHWEb:*y&ZHWEbo,y",
   "&CCHEb:*y&CCHEbo,y&DZZEb:*y&DZZEbo,y&=!|B!Dv?b:*y&=!|B!Dv?bo,y&TWEb:*y&TWEbo,y&TSWEb:*y&TSWEbo",
   ",y&TSSEb:*y&TSSEbo,y&TCHEb:*y&TCHEbo,y&HWEb:*y&HWEbo,y&:Pb:*y&:Pbo,y&r!Ob:*y&r!Obo,y&qPOb:*y&q",
   "POa!Qy&q8v1:Vd:?:Vapxq8y&EFdw$EaBAMUMy&AcxPcUcyScsKcREEcTAEcOc$%cIcyYc%7cRIIcRIEEcLEEEEcMEEEEc",
   "=6c!?cNJAEMcMcSUUc!pc:Ec:QcSHEUXcSEUXcyXcxscNUAEc$ucNJUAEcYOQc:NcYUQc|QcNSHAcKEUXcPEUXc$1cNTEE",
   "cPUEcWUEc&ActQc++czScz|c$LcREUXc*pcKENcNGKWAENc$Ic$Gc:HcPUAEcFUcFOMc_rc!$cy,c&UcLOQcyHcMBENcRE",
   "Ncz?czXc?mcx*c!Oczwc=_cKPAc=:cNTUUcSAMBAcFAAMAEcKOVUUcKOGHOMbpxzqKOQNDONdTUKWENTISbNJAEMLIbuL;",
   "8bpwbpyb,mb*8zqa~9~!Qy&CHINESE?:|9PINGe|TPINGe|9SHANGe|TSHANGe|9QUe|TQUe|9++e|T++cs|rz?:nocv%r",
   "z?:noc!Brz?:noczOrz?:noctArz?:nocs|rzyv?:nocv%rzyv?:noc!Brzyv?:noczOrzyv?:noctArzyv?:nocs|yv?:",
   "nocv%yv?:noc!Byv?:noczOyv?:noctAyv?:nocrw_1nod:!dv|noczQ+3qGm7c*t_Im^dr+m^ds?zqdwys?zqczOwys?z",
   "qc;om5v%?:ezO?:ay9o,y&sLmUb:*y&sLmUbo,y&sLmQb:*y&sLmQbo,y&vtb:*y&vtbo,y&TZb:*y&TZbo,y&TRESILLO",
   "b:*y&TRESILLObo,y&qVb:*y&qVbo,y&qV|Bpyb:*y&qV|Bpyby&:*o,FeSbo,y&mBb:*y&mBbo,y&AOb:*y&AObo,y&nP",
   "b:*y&nPbo,y&AVb:*y&AVbo,y&AV|Bv|nob:*y&AV|Bv|nobo,y&nSb:*y&nSbo,y&+FC|Brwb:*y&+FC|Brwbo,y&K|B;",
   "rb:*y&K|B;rbo,y&K|BrN;rb:*y&K|BrN;rbo,y&K|B;rm5rN;rb:*y&K|B;rm5rN;rbo,y&o5Lb:*y&o5Lbo,y&L|Bv%;",
   "rb:*y&L|Bv%;rbo,y&O|BzJ;r%3b:*y&O|BzJ;r%3bo,y&O|BzMb:*y&O|BzMbo,y&%Ib:*y&%Ibo,y&P|B;r?7rFb:*y&",
   "P|B;r?7rFbo,y&P|Bt$b:*y&P|Bt$bo,y&P|BSQUIRREL=ob:*y&P|BSQUIRREL=obo,y&Q|B;r?7rFb:*y&Q|B;r?7rFb",
   "o,y&Q|BrN;rb:*y&Q|BrN;rbo,y&R+zb:*y&R+zbo,y&RUM+zb:*y&RUM+zbo,y&V|BrN;rb:*y&V|BrN;rbo,y&VYb:*y",
   "&VYbo,y&_7Zb:*y&_7Zbo,y&?0|B;rb:*y&?0|B;rbo,y&?0|B;r?7rFb:*y&?0|B;r?7rFbo,y&VENDb:*y&VENDbo,y&",
   "s*b:*y&s*bo,y&ISb:*y&ISbo,y&CONb:*y&CONa!Qy&USay9:*y&DUMdzVdMUMdNUMdRUMby&:*o,RUMb:*y&TUMdUMbo",
   ",y&wpDb:*y&wpDbo,y&wpFb:*y&wpFbo,y&wpGd^qwpGb:*y&^qwpGbo,y&^qLb:*y&^qLbo,y&wpRb:*y&wpRbo,y&wpS",
   "b:*y&wpSbo,y&wpTb:*y&wpTa!Qy&zOp7mFcpwc:Ksu:Vay9o,y&SALTILLOb:*y&SALTILLObo,y&^qHb:*y&L|B+Cv?m",
   "5n*by&SINOLOGICALrwbo,y&N|BrFb:*y&N|BrFbo,y&C|Bnob:*y&C|Bnof%ov?dH|B%ov?bo,y&B|Bt$b:*y&B|Bt$bo",
   ",y&F|B;rb:*y&F|B;rbo,y&_mmJb:*y&_mmJbo,y&_m$=b:*y&_m$=bo,y&_m^_b:*y&_m^_bo,y&G|B$+;rb:*y&G|B$+",
   ";rbo,y&K|B$+;rb:*y&K|B$+;rbo,y&N|B$+;rb:*y&N|B$+;rbo,y&R|B$+;rb:*y&R|B$+;rbo,y&S|B$+;rb:*y&S|B",
   "$+;rbo,y&H|Bv?d+F%JEd,WGdL|Bn*d:*o,Iby&:*o,Qbo,y&^qKeTdJ|BqQdpUdn;b:*y&n;bo,y&%Cb:*y&%Cbo,y&U|",
   "B;rb:*y&U|B;rbo,y&uyAb:*y&uyAbo,y&uyIb:*y&uyIbo,y&uyUb:*y&uyUbo,y&%A&!Ob:*y&%A&!Obo,y&m9Wb:*y&",
   "m9Wbo,y&C|B%ov?dS|Bv?dZ|B%ov?dD|B:K;r%3b:*y&D|B:K;r%3bo,y&S|B:K;r%3b:*y&S|B:K;r%3b~6~o,y&ppwpG",
   "b:*y&ppwpGd~2~r!?0e~2~|Mbo,y&!DSCOTS.Sb:*y&!DSCOTS.Sbo,y&SIGMOID.Sb:*y&SIGMOID.Sa~19~!Qy&o,CdF",
   "dQay9o,y&+FvIHb:*y&+FvIHbsry&:TIa!Qy&o,H|B;rc:*y:$=ay9y&:*o,^qMbsry&+FFePdwyMdI.LONGAdm*MaSYLO",
   "TI.NAGRIy&AdIc:VDVISVARAcy&UdEdOc:VHASANTAcy&yHdx%duzdGHOc:Vmucy&pvdpXdxGdJHOdTTOd^mdDDOdDDHOd",
   "?+d?ZdrpdDHOd$4d&rd&TdoNdBHOd!Od+odzDdRROd:=dv:c_n:VAeIeUeEe%IcPOETRYzrdzsdMARK-3dMARK-4c:Vm0H",
   "ASANTAa~4~$9INDICuE%G*5evId?5*6d%G:sesOd?5:tc*5zqc&ozqc+;zqcQUANTITYzqa~7~PHAGS-PAy&xPcxvcuPc$",
   "GcoxcpHcw?c$$c=5c?Ecq9c!$c%7c&NcnUczXc^3c^5csCc_rc|*c|sc:*Ac|Qc*ncyYc,wc+=cvDcAcIcUcEcOc*Yc|Nc",
   "tHcu9csKb;vy&_rd|Qby&^8c^9cq$c$2cm0|QcVOICELESS,wc_9vDcASPIRATEDtHb;vy&*nbSUPERFIXEDy&*nby&o+b",
   ":0v5zqbr!v5zqbzq,xcr!,xa~9~SAURASHTRA:Vmuc_6by&AcmBcIcw0cUc_Rc_8Rd+%dLdzAcEcsKcmPcOc%IcnPcxPcx",
   "vcuPcumc$GcoxcpHcw?cxDc$$c^8c^9cq$cq*c$2c=5c?Ecq9crKc!$c%7c&NcnUcn^czXc|Qc*ncyYc_Sc,wc;Qc+=cvD",
   "czBbp;:VHAARUb_n:VmBdIdw0dUd_Rd_8Re+%eLezAdEdsKdmPdOd%IdnPb:V_5co+b~9~qubr!qubrW|%c%Gc^+c?5cuB",
   "ctpc:qc,tcsMc$Wa~7~pxrHrW|%d%Gd^+d?5duBdtpd:qd,tdsMd$Wcy&AdUdxPd!$d%7d*ndVIc:VnRarH:V;Do+co+_5",
   "cr!o+_5co+^+d?5dnRcPUSHPIKAbGAPt2bo=bv8b:V:RbJAIN%Bby&nSb_n:VnSaKAYAHy,rW|%d%Gd^+d?5duBdtpd:qd",
   ",tdsMd$Wcy&xPdxvduPd$Gd+=d,wd|sd$$d=5dHTAd!$d%7d&NdzXdq9dnUd*nd|QdyYd_rd?EdvDd_SdoxdAd$=dId%Ic",
   "_n^_dEdUdsKdOc?:PLOPHUdCALYAePLOPHUc:VCWIdSHYAaREJANGy&xPcuPc$Gc=5cq9c!$c%7cnUczXcoxcw?c$$c+=c",
   "*ncyYc|Qc_rcvDcMBAc$Ic!=cNYJAcAb_n:VIdUdEdmPdOdnPdEUdEAbp;:V$FdNdRdHb_5b~C~,1zqavZCHOSEONG.TIK",
   "EUT-MIEUMc?vc?xc?tc+Qc+Zc+1cRIEUL-SSANGTIKEUTc+Sc+WcRIEUL-SSANGPIEUPc+Oc+YcRIEUL-CIEUCc+Pc!GcM",
   "IEUM-TIKEUTc!JcPIEUP-SIOS-THIEUTHcPIEUP-KHIEUKHc&0cSSANGSIOS-PIEUPcIEUNG-RIEULcIEUNG-HIEUHcSSA",
   "NGCIEUC-HIEUHcSSANGTHIEUTHcPHIEUPH-HIEUHcHIEUH-SIOScSSANGYEORINHIEUHa~4~JAVANESE:VPANYANGGAcCE",
   "CAKcLAYARcWIGNYANby&AcI.KAWIcIcw0cUc%7CEREKc$GLELETeRASWADIcEcmPcOcxPd,Md!tcuPd!tc$Gcoxd!tcw?c",
   "$$!tcw?z4c$$c^8dz4cq$dz4c!$!tc=5d!tcq9dz4c!$c%7d!tcnUd!tczXc|Qc*ndAGUNGcyYc_rc+=!tdz4c+=cvDb:V",
   "CECAK.TELUb_n:VTARUNGdTOLONGdWULUeMELIKdSUKUeMENDUTdTALINGdDIRGA.MUREdPEPETbp;:VKERETdPENGKALd",
   "CAKRAbPANGKONbyr*|b+3*|bPADA.ANDAPcMADYAcLUHURcWINDUcPANGKATcLINGSAcLUNGSIcmIdmIcPISELEHb^qPAD",
   "A.PISELEHb~2~PANGRANGKEPbrW|%c%Gc^+c?5cuBctpc:qc,tcsMc$Wb~5~PADA.TIRTA.TUMETEScISEN-ISENa!xy&,",
   "*umdpHdxDd$2dn^b:V,*SAWb!Qy&,***by&=ny1$$etHeuPeumew?exDeq$eq*e$2b=ny1rW|%e%Ge^+e?5euBetpe:qe,",
   "tesMe$Wby&=ny1zBeq9erKenUen^a~2~CHAMy&AcIcUcEcmPcOcxPcxvcuPcumcNGUEc$GcpHcCHHAcw?cxDcNHUEc$KcN",
   "HJAc=5c?Ecq9crKcNUEc!$cq$c%7cPPAc&NcnUcn^cMUEczXcnxc|Qc*ncyYc_Sc;Qc+=cvDb_n:VmBdIdw0dEIdUd$=dO",
   "dmPdnPd^_bp;:V|Qd*ndyYd_rb~A~y&t3KdGd$Fbp;:Vt3$Fby&t3CHdTdNdPdYdRdLdSSbp;:Vt3MeHb~3~rW|%c%Gc^+",
   "c?5cuBctpc:qc,tcsMc$Wb~3~*U;Icqucr!quc^Yqua!xy&xyuPdoxdpHdw?dxDd$$d^8d^9dq$dq*drKd!$d+=dvDdvyd",
   "tHb!Qy&xy**by&xy|Nd|sd*nbzIxyOAYdQNdHMb=MAITONs?d%Gd^+by&AITON*nb:VPAOx3?:c=ny1?=e?_by&:P%ppHe",
   ",wa=nVIETy&zOyHdv%yHdzOx%dv%x%dzOKHHOdv%KHHOdzOuzdv%uzdzO$Jdv%$JdzOpvdv%pvdzOpXdv%pXdzO:=dv%:=",
   "dzO$*dv%$*dzOrpdv%rpdzO?+dv%?+dzO?Zdv%?ZdzO$4dv%$4dzOoNdv%oNdzO&rdv%&rdzO&Tdv%&TdzOt+dv%t+dzO!",
   "Odv%!OdzO|mdv%|mdzO+odv%+odzOzDdv%zDdzOVOdv%VOdzOv:dv%v:dzOOdv%Ocz5xUc_nmBdId^_dUdEdOcz5KHITc_",
   "nIAdUEAdUAdAUEdnSdm4dAMc?:z5EKeNUENGe?ZeSONGc~19~=MKONdNUENGdSAMdv:HOIdKOI.KOIaMEETEI.MAYEKy&E",
   "dOdpHd$$d^8d^9dq$dq*d$2d,wd;Qc_n:Vw0e_ReAAIenPeAAUcCHEIKHANcAHANG.KHUDAMcANJIc=L*^zqc|I*^zqc_n",
   ":V_6c_5a~B~s;=LTTHUcTTHIcTTHAAcTTHEEcTTHEc^mc~3~DDHUcDDHIcDDHAAcDDHEEcDDHEcDDHOc~3~DZUcDZIcDZA",
   "AcDZEEcsDcDZOc~A~CCHHAcCCHHUcCCHHIcCCHHAAcCCHHEEcCCHHEcCCHHOc~2~nxcBBUcBBIcBBAAcBBEEcBBEcBBOa~",
   "2~y9:*y&nrmZdA.REVERSED-SCHWAdoKEdnrEdE|Bt$dLENIS.Fd,WG|BqQdL|BwyLAZY.Sfr!!D?zf!D+mdM|BqQdN|Bq",
   "Qds8|BqQdoKOf|B;rd%JO|B;rdwy$=d^q$=|B;rgv|;reO.OPEN-Og|B;rdSTIRRUP.Rby&:*o,R|B+3yyb:*y&R|DHAND",
   "LEdr!RdR|BqQdr!R|BqQd,WRf|B+mdBASELINEs%dU|B:K+3yyeno|B:K+3yydUId^qUIdU|Byrv?dpUe|BzO+3+mgyrSE",
   "RIFdX|BzO+3+mfzJyryyim5zO+3+mi|BSERIFdY|B:K+3yya!Qo2|Bwyo2by&:*vtdL|BwyLAZY.Sf!D?zdU|Byrv?ay9:",
   "*y&SAKHA|Udw$Ed%J$=dUOdwymZau;y&:*o,%Cay9:*y&DZrY|B+Cv?dTSrY|B+Cv?d^qR|B!D?za!Qy&:*^qWcyr=9c+3",
   "=9a~5~CHEROKEE:*y&AdEdIdOdUdVduPdxPdGEdurduzdvAdGVdvDdv4dvzdv:dwEdHVdyYdymdy,dzDdzSdLVdzXdzzdz",
   "|d!Od!pd!$dHNAdNAHd!^d$Ld$4d$udNVdQUAdQUEdQUIdQUOdQUUdQUVd+=dSd,Xd:Qd:=d;tdSVdq9d=5dq+d=!drLd?",
   "mdrpdr_dDVdDLAdTLAdTLEdTLIdTLOdTLUdTLVd^3d^4d^7dTSOdTSUdTSVd_rd_!d_;d|Ed|LdWVd|QaMEETEI.MAYEKy",
   "&KOKdSAMdLAIdMITd%7d!$dCHILdTILdKHOUdNGOUdTHOUdWAId|TdHUKdUNdIdPHAMdATIYAdGOKdJHAMdRAIdnUdJILd",
   "DILdGHOUdDHOUdBHAMdKOKzKdLAIzKdMITzKd%7zKd!$zKdTILzKdNGOUzKdIzKc_n:VONAPeINAPeANAPeYENAPeSOUNA",
   "PeUNAPeCHEINAPeNUNGcCHEIKHEIczVIYEKcAPUN.IYEKc~3~rW|%d%Gd^+d?5duBdtpd:qd,tdsMd$Wa~2BB7~vZxNO-Y",
   "EOcO-O-IcYO-AcYO-AEcYO-EOcU-YEOcU-I-IcYU-AEcYU-OcEU-AcEU-EOcEU-EcEU-OcI-YA-OcI-YAEcI-YEOcI-YEc",
   "I-O-IcI-YOcI-YUcI-IcARAEA-AcARAEA-Eb~5~xLNIEUN-RIEULcNIEUN-CHIEUCHc;ZcSSANGTIKEUT-PIEUPc?vc?xc",
   "TIKEUT-SIOS-KIYEOKc?tcTIKEUT-CHIEUCHcTIKEUT-THIEUTHc+ZcRIEUL-KIYEOK-HIEUHcSSANGRIEUL-KHIEUKHcR",
   "IEUL-MIEUM-HIEUHcRIEUL-PIEUP-TIKEUTcRIEUL-PIEUP-PHIEUPHcRIEUL-YESIEUNGcRIEUL-YEORINHIEUH-HIEUH",
   "cx1cMIEUM-NIEUNcMIEUM-SSANGNIEUNcSSANGMIEUMcMIEUM-PIEUP-SIOScMIEUM-CIEUCc&7cPIEUP-RIEUL-PHIEUP",
   "HcPIEUP-MIEUMc;Wc&5c&Zc&Yc:8cSIOS-KAPYEOUNPIEUPcSSANGSIOS-KIYEOKcSSANGSIOS-TIKEUTcSIOS-PANSIOS",
   "c:5c:4c:oc:6cPANSIOS-PIEUPcPANSIOS-KAPYEOUNPIEUPcYESIEUNG-MIEUMcYESIEUNG-HIEUHcCIEUC-PIEUPcCIE",
   "UC-SSANGPIEUPc;RcPHIEUPH-SIOScPHIEUPH-THIEUTHa~2305~y9:*y:FFdtVdFLdFFIdFFLdzJS.TdSTa~D~m=:*y:z",
   "?NOWesJeINIdVEW.NOWdz?XEHa~6~HEBREWy&|n|BHIRIQb&tJUDEO-SPANISH.VARIKAby:YIDDISH|n|n%?by&m2nTc_",
   "=mUdqqdv4dxQdy5dt3z;d+AdTAVcm2&q:Vc:G|B:GrweSINrweqnm5:GrwgSINrwcmU|B%?e*0eMAPIQcn:|Bqncus|Bqn",
   "cqq|Bqncv4|BMAPIQc_X|Bqnc|z|Bqnc~2~=_|Bqnc|n|Bqnct3xQ|BqncxQ|Bqncy5|Bqnc~2~z;|Bqnc~2~$!|Bqnc,F",
   "|Bqnc~2~t3%_|Bqnc%_|Bqnc~2~TSADI|BqncQOF|Bqnc+A|Bqnc:G|BqncTAV|Bqnc_X|BHOLAMcn:|B*qcxQ|B*qc%_|",
   "B*qby:mUy5am$y&mUWASLAw&t^et3t^cBEEHw&t^dt3t^dwmt^dz+t^c&Bw&t^dt3t^dwmt^dz+t^cBEHEHw&t^dt3t^dw",
   "mt^dz+t^cTTEHEHw&t^dt3t^dwmt^dz+t^cTEHEHw&t^dt3t^dwmt^dz+t^cTTEHw&t^dt3t^dwmt^dz+t^cVEHw&t^dt3",
   "t^dwmt^dz+t^cPEHEHw&t^dt3t^dwmt^dz+t^cDYEHw&t^dt3t^dwmt^dz+t^cNYEHw&t^dt3t^dwmt^dz+t^c=zw&t^dt",
   "3t^dwmt^dz+t^cTCHEHEHw&t^dt3t^dwmt^dz+t^cDDAHALw&t^dt3t^cDAHALw&t^dt3t^cDULw&t^dt3t^cDDALw&t^d",
   "t3t^cJEHw&t^dt3t^cRREHw&t^dt3t^cxpw&t^dt3t^dwmt^dz+t^cuSw&t^dt3t^dwmt^dz+t^cGUEHw&t^dt3t^dwmt^",
   "dz+t^cNGOEHw&t^dt3t^dwmt^dz+t^c$6uqw&t^et3t^cRNOONw&t^dt3t^dwmt^dz+t^cvr|B|XmEw&t^gt3t^du!w&t^",
   "et3t^ewmt^ez+t^drqw&t^et3t^ewmt^ez+t^c|Xnsw&t^et3t^e|BvMmEw&t^ht3t^b=MrwmEdn&c^+rymEen&c?5rymE",
   "en&e&wr:mEgn&cuBrymEen&cr!_1non&c^+ry_2mEfn&c+mc:*=mmEen&cWASLAmEb~11~y&$Fw&t^dt3t^dwmt^dz+t^c",
   "Uw&t^dt3t^c$=w&t^dt3t^c|qw&t^dt3t^cU|BvMmEw&t^c_Yw&t^dt3t^cx,$=w&t^et3t^d|qw&t^et3t^cEw&t^dt3t",
   "^dwmt^dz+t^cUIGHUR.KAZAKHx,mUz6wmt^hz+t^by:|X|BvMmE|BmUw&t^it3t^hmJw&t^it3t^h_yw&t^it3t^hUw&t^",
   "it3t^h$=w&t^it3t^h|qw&t^it3t^hEw&t^it3t^iwmt^cUIGHURx,|X|BvMmE|BmUz6w&t^lt3t^lwmt^by&tL|Xw&t^e",
   "t3t^ewmt^ez+t^by:|X|BvMmE|BxBw&t^hvFw&t^hz:w&t^hmUz6w&t^h|Xw&t^cn$|BxBw&t^evFw&t^exww&t^ez:w&t",
   "^emUz6w&t^e|Xw&t^c=*|BxBw&t^evFw&t^exww&t^ez:w&t^emUz6w&t^e|Xw&t^c?L|BxBw&t^ez:w&t^emUz6w&t^e|",
   "Xw&t^cxB|BvFw&t^ez:w&t^cvF|BxBw&t^ez:w&t^cxw|BxBw&t^evFw&t^ez:w&t^c,3|BxBw&t^evFw&t^exww&t^ez:",
   "w&t^c+?|BvFw&t^ez:w&t^cqm|BxBw&t^evFw&t^exww&t^ez:w&t^c=m|BvFw&t^ez:w&t^c|u|Bz:w&t^cmQ|BxBw&t^",
   "ez:w&t^cun|BxBw&t^ez:w&t^ctS|BxBw&t^evFw&t^exww&t^ez:w&t^emUz6w&t^e|Xw&t^c*Z|BvFw&t^ez:w&t^emU",
   "z6w&t^e|Xw&t^cxQ|BmUw&t^exBw&t^evFw&t^exww&t^ey3w&t^ez:w&t^emUz6w&t^e|Xw&t^cy3|BxBw&t^evFw&t^e",
   "xww&t^ez:w&t^emUz6w&t^e|Xw&t^cz:|BxBw&t^evFw&t^exww&t^ez:w&t^emUz6w&t^e|Xw&t^c$6|BxBw&t^evFw&t",
   "^exww&t^ez:w&t^emUz6w&t^e|Xw&t^cvr|BxBw&t^ez:w&t^emUz6w&t^e|Xw&t^c|X|BxBw&t^evFw&t^exww&t^ez:w",
   "&t^emUz6w&t^e|Xw&t^c?G|B=AmUw&t^c*:|B=AmUw&t^cmUz6|B=AmUw&t^c,y|Bqtw&t^ex6w&t^etMw&t^eqsw&t^ex",
   "5w&t^e=AmUw&t^c|X|BvMmE|B*:t3t^h|vt3t^hz:t3t^h$6t3t^hmUz6t3t^h|Xt3t^cn$|B*:t3t^e|vt3t^ez:t3t^e",
   "$6t3t^emUz6t3t^e|Xt3t^c=*|B*:t3t^e|vt3t^ez:t3t^e$6t3t^emUz6t3t^e|Xt3t^c?L|B*:t3t^e|vt3t^ez:t3t",
   "^e$6t3t^emUz6t3t^e|Xt3t^ctS|BmUz6t3t^e|Xt3t^c*Z|BmUz6t3t^e|Xt3t^cxQ|BmUt3t^ey3t3t^ez:t3t^emUz6",
   "t3t^e|Xt3t^cy3|Bz:t3t^emUz6t3t^e|Xt3t^cz:|BmUt3t^ez:t3t^c$6|B*:t3t^e|vt3t^ez:t3t^e$6t3t^emUz6t",
   "3t^e|Xt3t^cmUz6|B=AmUt3t^c|X|B*:t3t^e|vt3t^ez:t3t^e$6t3t^emUz6t3t^e|Xt3t^evMmE|BxBwmt^hvFwmt^h",
   "xwwmt^hz:wmt^hvrwmt^cn$|BxBwmt^evFwmt^exwwmt^ez:wmt^evrwmt^c=*|BxBwmt^evFwmt^exwwmt^ez:wmt^evr",
   "wmt^c?L|Bz:wmt^cxB|BvFwmt^ez:wmt^cvF|BxBwmt^ez:wmt^cxw|BxBwmt^ez:wmt^c,3|BxBwmt^evFwmt^exwwmt^",
   "ez:wmt^c+?|BvFwmt^exwwmt^ez:wmt^cqm|BxBwmt^evFwmt^exwwmt^ez:wmt^c=m|BvFwmt^c|u|Bz:wmt^cmQ|BxBw",
   "mt^ez:wmt^cun|BxBwmt^ez:wmt^ctS|BxBwmt^evFwmt^exwwmt^ez:wmt^c*Z|BvFwmt^ez:wmt^cxQ|BxBwmt^evFwm",
   "t^exwwmt^ey3wmt^ez:wmt^cy3|BxBwmt^evFwmt^exwwmt^ez:wmt^evrwmt^cz:|BxBwmt^evFwmt^exwwmt^ez:wmt^",
   "c$6|BxBwmt^evFwmt^exwwmt^ez:wmt^evrwmt^cvr|BxBwmt^ez:wmt^e=AmUwmt^c|X|BxBwmt^evFwmt^exwwmt^ez:",
   "wmt^evrwmt^evMmE|Bz:z+t^hvrz+t^cn$|Bz:z+t^evrz+t^c=*|Bz:z+t^evrz+t^c?L|Bz:z+t^evrz+t^c,3|Bz:z+",
   "t^evrz+t^c,?|Bz:z+t^evrz+t^cxQ|By3z+t^ez:z+t^cy3|Bz:z+t^c$6|Bz:z+t^evrz+t^c|X|Bz:z+t^evrz+t^c,",
   "y|BtMz+t^eqsz+t^ex5z+t^c=m|BmUz6w&t^e|Xw&t^cmQ|BmUz6w&t^e|Xw&t^cun|BmUz6w&t^e|Xw&t^c,3|BmUz6w&",
   "t^e|Xw&t^c,?|BmUz6w&t^e|Xw&t^cvF|BmUz6w&t^e|Xw&t^cxB|BmUz6w&t^e|Xw&t^cxw|BmUz6w&t^e|Xw&t^c+?|B",
   "mUz6w&t^e|Xw&t^cqm|BmUz6w&t^e|Xw&t^c,?|BxBw&t^evFw&t^exww&t^ez:w&t^e*:w&t^c,3|B*:w&t^c+?|B*:w&",
   "t^cqm|B*:w&t^c=m|BmUz6t3t^e|Xt3t^cmQ|BmUz6t3t^e|Xt3t^cun|BmUz6t3t^e|Xt3t^c,3|BmUz6t3t^e|Xt3t^c",
   ",?|BmUz6t3t^e|Xt3t^cvF|BmUz6t3t^e|Xt3t^cxB|BmUz6t3t^e|Xt3t^cxw|BmUz6t3t^e|Xt3t^c+?|BmUz6t3t^e|",
   "Xt3t^cqm|BmUz6t3t^e|Xt3t^c,?|BxBt3t^evFt3t^exwt3t^ez:t3t^e*:t3t^c,3|B*:t3t^c+?|B*:t3t^cqm|B*:t",
   "3t^c,?|BxBwmt^evFwmt^exwwmt^ez:wmt^c,3|Bvrwmt^c,?|Bvrwmt^c=m|Bz:wmt^c,3|BxBz+t^evFz+t^exwz+t^c",
   ",?|BxBz+t^evFz+t^exwz+t^c=m|Bz:z+t^c|u|Bz:z+t^cmU|BtNt3t^fw&t^aORNATEyr%*b+3%*am$y:RAHIMAHU.AL",
   "LAAHcRADI.ALLAAHU.ANHeANHAAeANHUMeANHUMAAeANHUNNAcSALLALLAAHUmTWA-AALIHcmTnDcALAYHIMnDcALAYHIM",
   "AAnDcmTAS-SALAATU.WAS-SALAAMcQUDDISA.SIRRAHcSALLALLAHUmTWAAALIHEE.WA-SALLAMcALAYHAAnDcTABAARAK",
   "A.WA-TAAALAAcRAHIMAHUM.ALLAAHc=*|BxB|Bz:wmt^evF|BxBt3t^hwmt^gz:wmt^exw|Bz:wmt^ez:|BxBwmt^gvFwm",
   "t^gxwwmt^cxB|Bz:|BvFt3t^hwmt^cvF|Bz:|B|Xt3t^gmUz6t3t^c,3|BvF|BxBwmt^exB|BvFwmt^gmUz6t3t^ez:|Bv",
   "Ft3t^hwmt^gxBwmt^gz:t3t^hwmt^c+?|BvF|BvFt3t^hwmt^ez:|Bz:t3t^c,?|BvF|Bz:t3t^hwmt^exB|B|Xt3t^ez:",
   "|Bxwt3t^hwmt^gz:t3t^hwmt^cqm|BvF|BmUz6t3t^exw|Bz:t3t^hwmt^c=m|Bz:|BvFt3t^hwmt^gz:wmt^g|Xt3t^cm",
   "Q|BxB|Bz:t3t^ez:|Bz:t3t^hwmt^gmUz6t3t^cun|Bz:|Bz:t3t^g|Xt3t^gmUz6t3t^ctS|Bxw|Bz:t3t^hwmt^c*Z|B",
   "z:|BvFt3t^gz:t3t^cy3|BvF|Bz:t3t^g|Xt3t^gmUz6t3t^exB|BxBwmt^ht3t^exw|Bz:t3t^hwmt^ez:|BvFt3t^hwm",
   "t^cz:|BvF|BxBwmt^gz:wmt^g|Xt3t^exB|BvFwmt^gz:wmt^exw|BxBwmt^gz:wmt^e~3~xB|Bxwwmt^cvr|Bz:|BxBwm",
   "t^gz:wmt^c$6|BvF|Bz:wmt^gmUz6t3t^exB|Bz:t3t^hwmt^gmUz6t3t^ez:|B|Xt3t^gmUz6t3t^c|X|Bz:|Bz:t3t^h",
   "wmt^cn$|Bxw|B|Xt3t^c=*|BxB|B|Xt3t^gmUz6t3t^exw|B|Xt3t^gmUz6t3t^ez:|B|Xt3t^gmUz6t3t^cxB|Bz:|B|X",
   "t3t^evF|BmUz6t3t^ez:|BmUz6t3t^c,3|Bxw|BmUz6t3t^c+?|BvF|B|Xt3t^c,?|BvF|B|Xt3t^cqm|BvF|B|Xt3t^cy",
   "3|BxB|B|Xt3t^ez:|B|Xt3t^c|X|BvF|B|Xt3t^exB|B|Xt3t^ez:|B|Xt3t^cz:|Bz:|B|Xt3t^c*Z|Bz:|B|Xt3t^c$6",
   "|BvF|B|Xt3t^c*Z|Bz:|BvFwmt^cy3|BvF|Bz:wmt^cmQ|Bz:|B|Xt3t^cxQ|Bz:|B|Xt3t^c$6|BxB|BvFwmt^cz:|Bxw",
   "|B|Xt3t^cy3|BxB|Bz:wmt^cxQ|Bz:|Bz:t3t^cy3|BxB|Bz:t3t^c$6|BxB|BvFt3t^cxB|BvF|B|Xt3t^cvF|BxB|B|X",
   "t3t^cz:|BxB|B|Xt3t^ctS|Bz:|B|Xt3t^cn$|BvF|B|Xt3t^cxQ|Bz:|Bz:wmt^cmQ|BxB|Bz:wmt^c+?|Bz:|Bz:wmt^",
   "c,3|Bxw|B|Xt3t^c$6|BxB|B|Xt3t^c~8~SALAAMUHU.ALAYNAAc~21~SALLA.USEDnCKORANIC;8:Vw&t^cQALA.USEDn",
   "CKORANIC;8:Vw&t^cALLAHw&t^cAKBARw&t^cMOHAMMADw&t^cSALAMw&t^cRASOULw&t^cmSw&t^cWASALLAMw&t^cSAL",
   "LAw&t^c,BmSWASALLAMcJALLAJALALOUHOUaRIAL:Vam$y:BISMILLAH.AR-RAHMAN.AR-RAHEEMcSUBHAANAHU_rTAAAL",
   "AAcAZZA_rJALLa_WSELECTOR-1bSELECTOR-2bSELECTOR-3bSELECTOR-4bSELECTOR-5bSELECTOR-6bSELECTOR-7bS",
   "ELECTOR-8bSELECTOR-9bSELECTOR-10bSELECTOR-11bSELECTOR-12bSELECTOR-13bSELECTOR-14bSELECTOR-15bS",
   "ELECTOR-16a*Et^t=_1pyewVpyfuL;8epwe,mes?zqe*8zqeyr_:y$oYe+3_:y$BRAKCETev|sZa~7~pxy:yrvIc+3vIbr",
   "!?zyrvId+3vIbzZyrvIc+3vIbp,zZby:yrvIn&c+3vIn&b?zyrvIn&c+3vIn&bzZyrvIn&c+3vIn&bp,zZn&bq8?*yrvId",
   "+3vIa*Et^t=_1^+rwynes0qxes3qxezOy?e_xzOy?eyr%*e+3%*eyrq1oYe+3q1oYeyr^J,_oYe+3^J,_oYeyroGy$oYe+",
   "3oGy$oYeyrr!m7oYe+3r!m7oYeyrm7oYe+3m7oYeyrqGoYe+3qGoYeyr_:qGoYe+3_:qGoYaSESAMErwa_:SESAMErwa*E",
   "t^t=_1yr;MoYe+3;MoYaqy%4apG%4a_x%4ar!_x%4aqyzOy?apGzOy?a_xzOy?a:*pybwVpybuL;8b~2~,mbpwb*8zqbs?",
   "zqbs0qxbyr%*b+3%*byrq1oYb+3q1oYbyr^J,_oYb+3^J,_oYb$x:Vbm3bnJb&q:VbwJby%:Vbu::Vbsu:Vb~2~+E:_brv",
   ":Vb&H:VbpznMa~5~m$tNw&t^b=w|BtNmEbqtw&t^b=oFRAGMENTbx6w&t^b~2~tMw&t^cz+t^bqsw&t^cz+t^bx5w&t^cz",
   "+t^b,yw&t^cz+t^b;,w&t^cz+t^by&vMw&t^cmU|Bz0mEw&t^gt3t^evMmEw&t^gt3t^c_y|BvMmEw&t^gt3t^cmU|BvMn",
   "&w&t^gt3t^c|X|BvMmEw&t^gt3t^gwmt^gz+t^cmUw&t^dt3t^cn$w&t^dt3t^dwmt^dz+t^c=*zpw&t^et3t^dw&t^dt3",
   "t^dwmt^dz+t^c?Lw&t^dt3t^dwmt^dz+t^cxBw&t^dt3t^dwmt^dz+t^cvFw&t^dt3t^dwmt^dz+t^cxww&t^dt3t^dwmt",
   "^dz+t^cqpw&t^dt3t^c?Gw&t^dt3t^c*:w&t^dt3t^c|vw&t^dt3t^c,3w&t^dt3t^dwmt^dz+t^c,?w&t^dt3t^dwmt^d",
   "z+t^c+?w&t^dt3t^dwmt^dz+t^cqmw&t^dt3t^dwmt^dz+t^c=mw&t^dt3t^dwmt^dz+t^c|uw&t^dt3t^dwmt^dz+t^cm",
   "Qw&t^dt3t^dwmt^dz+t^cunw&t^dt3t^dwmt^dz+t^ctSw&t^dt3t^dwmt^dz+t^c*Zw&t^dt3t^dwmt^dz+t^cxQw&t^d",
   "t3t^dwmt^dz+t^cy3w&t^dt3t^dwmt^dz+t^cz:w&t^dt3t^dwmt^dz+t^c$6w&t^dt3t^dwmt^dz+t^cvrw&t^dt3t^dw",
   "mt^dz+t^c_yw&t^dt3t^cmUz6w&t^et3t^c|Xw&t^dt3t^dwmt^dz+t^by:y3|BmU|Bz0mEw&t^it3t^gvMmEw&t^it3t^",
   "hn&w&t^it3t^fw&t^ft3t^a~3~|%_^$5;Ca~2~uMs?zqb*mzqb$x:Vbrv:Vb&H:Vbm3bmxbyr%*b+3%*bnJb&q:VbpybwJ",
   "buL;8b:_brW|%c%Gc^+c?5cuBctpc:qc,tcsMc$Wbpwb,mby%:Vbsu:Vbu::Vb*8zqbpznMby9o,y&AeBeCeDeEeFeGeHe",
   "IeJeKeLeMeNeOePeQeReSeTeUeVeWeXeYeZbyr;MoYb+E:_b+3;MoYbp7mFbzOy?bu+mFby9:*y&AeBeCeDeEeFeGeHeIe",
   "JeKeLeMeNeOePeQeReSeTeUeVeWeXeYeZbyrq1oYb_1y?b+3q1oYb?zbyr_:%*b+3_:%*avKwVuL;8byrqGoYb+3qGoYbw",
   "Vpybx7!Drwcy&|Ed:*AeIeUeEeOe|Qe|qe|me^nbx8*K:|zqbx7y&AdIdUdEdOdxPdx*dySdxodyHd+=d:Qd;td,Xd:=d=",
   "5d?md^nd=!d?+d!$d$Ld$ud!^d$4dvDdvzdwEdv4dv:dzXdz|d!pdzzd!Od|Qd|qd|md*nd+Jd++d*wd+od_rdNc_9:|zq",
   "c,6:|zqbvZt2cy&x=d;Udx?d$Md$Nd$Od?sd;Zd+Md+Qd+Sd+Wd+Yd+0d+Vd+Nd!Fd&Xd;Wd&3d:3d;YdwXdp2d;RdpVdx",
   "$d?Rd&Rdv$d~4~AdmJd|QdYAEdEOdEd~3~YEOd|VdOd_rdWAEd$=d~3~|mdUdWEOd_!d_;d|qd~3~EUd|7dIa~4~uMCENT",
   ":Vb&,:Vb$n:VbzZbo5nobYEN:VbWON:Va~2~vKFORMSy;_1byxm^b_Om^b+9m^br:m^boG;Mb_:p3a~B~INTERLINEARmm",
   "ANCHORc,pc==aOBJECT*_pJa*_pJa~3~LINEAR.B=LB008.AdB038.EdB028.IdB061.OdB010.UdB001q9dB045q+dB00",
   "7rLdB014rpdB051r_dB057w?dB046w|d~2~B036xGdB065.JUdB077xPdB044xodB067x*dB070yHdB081ySdB080zXdB0",
   "13zzdB073z|dB015!OdB023!pdB006!$dB024!^dB030$LdB052$4dB055$udB003%7dB072%_dB039&UdB011&rdB050*",
   "TdB016*YdB078.QEdB021.QIdB032.QOd~2~B060*ndB027*wdB053+JdB002+odB026++dB031+=dB009,XdB041:QdB0",
   "12:=dB058;tdB059=5dB004=!dB037?mdB005?+dB069^ndB054_rdB075_!dB040_;dB042|Ed~2~B017|sdB074|!d~2",
   "~B020|?dB025.A2dB043.A3dB085nPdB071.DWEdB090.DWOdB048.NWAdB029.PU2dB062.PTEdB076.RA2dB033.RA3d",
   "B068.RO2dB066.TA2dB087.TWEdB091^+c~3~=MB018dB019dB022dB034dB047dB049dB056dB063dB064dB079dB082d",
   "B083dB086dB089c~23~wQB100zmdB102|FdB104.DEERdB105.EQUIDdB105F.MAREdB105M.STALLIONdB106F.EWEdB1",
   "06M.RAMdB107F.SHE-GOATdB107M.HE-GOATdB108F.SOWdB108M.BOARdB109F.COWdB109M.BULLdB120.WHEATdB121",
   ".BARLEYdB122.OLIVEdB123.SPICEdB125.CYPERUSc!1B127.KAPOdB128.KANAKOcwQB130.OILdB131|AdB132c!1B1",
   "33.AREPAdB135.MERIcwQB140.BRONZEdB141u$dB142dB145.WOOLdB146dB150dB151wAdB152dB153dB154c!1B156.",
   "TURO2cwQB157dB158dB159.CLOTHdB160dB161dB162.GARMENTdB163.ARMOURdB164dB165dB166dB167dB168dB169d",
   "B170dB171dB172dB173.MONTHdB174dB176^OdB177dB178dB179dB180dB181dB182dB183dB184dB185dB189dB190dB",
   "191vsdB220.FOOTSTOOLdB225.BATHTUBdB230.SPEARdB231m^dB232dB233.SWORDdB234dB236dB240.WHEELEDpLdB",
   "241pLdB242pLFRAMEdB243_+dB245dB246c!1B247.DIPTEcwQB248dB249dB251dB252dB253dB254.DARTdB255dB256",
   "dB257dB258dB259dVESSEL.B155eB200eB201eB202eB203eB204eB205eB206eB207eB208eB209eB210eB211eB212eB",
   "213eB214eB215eB216eB217eB218eB219eB221eB222eB226eB227eB228eB229eB250eB305a~6~AEGEAN|I,py?drwbp",
   "Ozqb~5~$x%Gc^+c?5cuBctpc:qc,tcsMc$Wc=:c^yc?Wct_ctYc:uc,vcsRc$Yc%GwGc^+wGc?5wGcuBwGctpwGc:qwGc,",
   "twGcsMwGc$WwGc%G?2c^+?2c?5?2cuB?2ctp?2c:q?2c,t?2csM?2c$W?2c=:?2c^y?2c?W?2ct_?2ctY?2c:u?2c,v?2c",
   "sR?2c$Y?2b~4~WEIGHTnu_Gct9;&c,0;&c?T;&cuD;&bDRYz!t9;&bLIQUIDz!t9;&bz!,0;&c?T;&au;ACROPHONIC.AT",
   "TIC%G*5evIer;dtpdtYdtpwGe?2dtY?2dtp=qd=:=qdtY=qd%GwG=qdtpwG=qd%G?2=qdtp?2=qe;3d=:;3dtY;3d%GwG;",
   "3dtpwG;3d%G?2;3d=:?2;3dtY?2;3d=:MNAScHERAEUM%GPLETHRONc?O%Gcvv%Gcsq^+c?O^+cCYRENAIC^+DRACHMASc",
   "sq^+DRACHMASc^0tpd=:em0t^cvv=:cMESSENIAN=:c?O=:d?Wc^0tYem0t^cvvtYc?OtYd%GwGd?5wGcsqtpwGc^0tpwG",
   "c?OtpwGcCARYSTIANtpwGcNAXIANtpwGc?O%G?2dtp?2cDELPHICtpMNAScSTRATIANtYMNASb%GvI:Vem0t^b^+?U:Vb?",
   "5*6:VbYEAR:VbTALENT:Vbr;:VbOBOL:Vb^+$,:Vb?5$,:VbuB$,:Vbtp$,:VbMETRETES:VbKYATHOSnu:VbLITRA:VbO",
   "UNKIA:VbXESTES:VbARTABE:VbAROURA:VbGRAMMA:VbTRYBLIONnu:Vb|%:Vb%G*5:VbSINUSOID:VbINDICTION:VaNO",
   "MISMA:Va~2~+rSEXTANS:VbUNCIA:VbSEMUNCIA:VbSEXTULA:VbDIMIDIA.SEXTULA:VbSILIQUA:VbDENARIUS:VbQUI",
   "NARIUS:VbSESTERTIUS:VbDUPONDIUS:VbnC:VbCENTURIAL:VaASCIA=Ma~4~u;=M=x+Ia~30~PHAISTOS.DISC:V%|dP",
   "LUMEDv5dTATTOOEDv5dCAPTIVEdCHILDd|FdvsdGAUNTLETdTIARAdm^doVd:CdCLUBdMANACLESdMATTOCKdSAWdLIDdo",
   "Sdo^PLANEdDOLIUMdCOMBdSLINGdCOLUMNdBEEHIVEdSHIPdwAdHIDEdBULLSyydpAdRAMdEAGLEdDOVEdTUNNYdnzdPLA",
   "NE^Od_4dPAPYRUSd+udLILYdOXnWdFLUTEdGRATERdSTRAINERd:*AXEd_xBANDdpx$+;ra~83~LYCIANy&AcEcBcBHcGc",
   "DcIcWcZcTHcJcKcQcLcMcNcMMcNNcUcPcKKcRcScTcTTcm4cs3cHcXa~4~CARIANy&AcP2cDcLcUUUcRcLDcA2cQcBcMcO",
   "cD2cTcSHcSH2cScC-18cUcNNcXcNcTT2cPcSScIcEcUUUUcKcK2cNDc_RcGcG2cSTcST2c$Fcw0cC-39cTTcUUU2c+%cMB",
   "cMB2cMB3cMB4cLD2cE2cUUU3a~10~qEEPACT?3zqcrW%Gd^+d?5duBdtpd:qd,tdsMd$Wc$x=:d^yd?Wdt_dtYd:ud,vds",
   "Rd$Yd%GwGd^+wGd?5wGduBwGdtpwGd:qwGd,twGdsMwGd$WwGa~5~%Aw+y&Adnydxodq+dEd_Yd|!dv4d?JdIdxPdsTds0",
   "ds3ds%dOd%_d,;dySdsyds!d=!dUdEKSdPHEdKHEdEFdERSdpNdw0d_RdESSc$y%Gdtpd=:dtYc~A~y&|VdNORTHERN^4d",
   "SOUTHERN^4aGOTHICy&AHSAcBAIRKANcGIBAcDAGScAIHVUScQAIRTHRAcIUJAcHAGLcTHIUTHcEIScKUSMAcLAGUScMAN",
   "NAcNAUTHScJERcURUScPAIRTHRAc$YcRAIDAcSAUILcTEIWScWINJAcFAIHUcIGGWScHWAIRcOTHALc$WwGa~6~%APERMI",
   "Cy&m4dopdGAIdDOIdEdZHOIdDZHOId|ydDZITAdIdKOKEdLEIdMENOEdNENOEdVOOIdPEEIdREIdSIId=ndUdCHERYdSHO",
   "OIdSHCHOOIdYRYd|2dOd%IdEFdvDdTSIUdVERdYERd|1d|UdwWd|qd|QdIAapx%APERMICy&m4eDOIe|yeNENOEeSIIa~6",
   "~UGARITICy&ALPAcn;cGAMLAcxvcq|cv:c|Ec|&cHOTAc=_c|ncxQc:Gcy4cz;cDHALc$!c|^cSAMKAcmQc*TcSADEcQOP",
   "AcRASHAcTHANNAcunc?+cIcUcSSUb~2~|Ir9a%APERSIAN:VAdIdUdxPdySduPdvAd|Ndoxdw?dJId=5d^ndq9drLdr_d?",
   "Ed%7dnUdtHd!$d$udzXdz|d!pd|Qd_SdVId*nd++dyYd+=d|sd,wd;QdvDd~5~AURAMAZDAAdAURAMAZDAA-2dAURAMAZD",
   "AAHAdXSHAAYATHIYAdDAHYAAUSHdDAHYAAUSH-2dBAGAdBUUMISHc|Ir9c$x%Gd^+d=:d^ydwGa~2B~DESERETo,y&zJIe",
   "EeAemOeOe%Id:KIeEeAemOeOe%IdnSdOWd|Ld|WdHd&Adnzd=&dq;dpQdxAdKAYdGAYdEFd_0ds:d?Kds!dZEEds%d|:ds",
   "ydsTds0ds3ds8dOIdEWb:*y&zJIeEeAemOeOe%Id:KIeEeAemOeOe%IdnSdOWd|Ld|WdHd&Adnzd=&dq;dpQdxAdKAYdGA",
   "YdEFd_0ds:d?Kds!dZEEds%d|:dsydsTds0ds3ds8dOIdEWaSHAVIANy&PEEPcTOTcKICKctQcTHIGHc:=cSUREcCHURCH",
   "cYEAcHUNGcBIBcDEADcGAGcVOWcTHEYcZOOcz!cJUDGEcWOEcHA-HAcLOLLcMIMEcIFcEGGcnFcADOc%EcWOOLc%WcmOcR",
   "OARc$!cEATcAGEcwLc_IcOAKcOOZEcOILcAWEcAREc%PcAIRcERRcARRAYcsGcIANcYEWaOSMANYAy&mUcnUc=5cw?c|Nc",
   "xvcDEELc*nc+=cSHIINcrKcCAYNcuPctHcQAAFcKAAFcLAANcMIINcNUUNc_ycvDc|QcAcEcIcOcUcmBcsKc%Ib~3~rW|%",
   "c%Gc^+c?5cuBctpc:qc,tcsMc$Wa~7~OSAGEo,y&AdmPdmQdmOdBRAdpHdEHCHAdEdEINdvDdHYAdIdxPdEHKAdKYAdyYd",
   "zXd!$dOdOINd%7dEHPAd+=d,wd=5dEHTAd^3dEHTSAd^5drKdUd_rdxvdumd|sd|*b~5~:*y&AdmPdmQdmOdBRAdpHdEHC",
   "HAdEdEINdvDdHYAdIdxPdEHKAdKYAdyYdzXd!$dOdOINd%7dEHPAd+=d,wd=5dEHTAd^3dEHTSAd^5drKdUd_rdxvdumd|",
   "sd|*a~5~ELBASANy&AcnycCEcpNcq+cNDEcDHEcEIcEctOcGEcGJEcv4cIcw|cxocymcLLEczzc!^c!$c$0cOc%_cQEc*w",
   "cRREc,Xc,;c=!c?JcUc_YcXEcYc|!c|,cupcGHAMMAcKHEa~9~CAUCASIAN.ALBANIANy&ALTdn:dGIMdDATdEBdZARLdE",
   "YNdZHILdTASdpHdYOWDd|*dIRBd,wdLANdINYAdXEYNdDYANdo:dJHOXdKARdLYITdHEYTdQAYdAORdCHOYdpUdCYAYdMA",
   "QdQARdNOWCdDZYAYdSHAKdJAYNd%EdTYAYdFAMdDZAYdCHATd&CdGHEYSdRATdSEYKdVEYZdTIWRdSHOYdIWNdCYAWdCAY",
   "NdYAYDdPIWRdKIWc~C~CITATIONzqaVITHKUQIo,y&AdBBEdnydCEdpNdq+dDHEdEIdEdtOduPd~2~vDdvydIdIJEdw|dx",
   "PdyYdzBdzzd!^d$0dOd%_d*Yd*wd~2~,Xd,;d=!d?JdUd_YdXEd~2~Yd|!b~2~:*y&AdBBEdnydCEdpNdq+dDHEdEIdEdt",
   "OduPd~2~vDdvydIdIJEdw|dxPdyYdzBdzzd!^d$0dOd%_d*Yd*wd~2~,Xd,;d=!d?JdUd_YdXEd~2~Yd|!a~44~LINEAR.",
   "A:VAB001dAB002dAB003dAB004dAB005dAB006dAB007dAB008dAB009dAB010dAB011dAB013dAB016dAB017dAB020dA",
   "B021dAB021FdAB021MdAB022dAB022FdAB022MdAB023dAB023MdAB024dAB026dAB027dAB028dA028BdAB029dAB030d",
   "AB031dAB034dAB037dAB038dAB039dAB040dAB041dAB044dAB045dAB046dAB047dAB048dAB049dAB050dAB051dAB05",
   "3dAB054dAB055dAB056dAB057dAB058dAB059dAB060dAB061dAB065dAB066dAB067dAB069dAB070dAB073dAB074dAB",
   "076dAB077dAB078dAB079dAB080dAB081dAB082dAB085dAB086dAB087dA100-102dAB118dAB120dA120BdAB122dAB1",
   "23dAB131AdAB131BdA131CdAB164dAB171dAB180dAB188dAB191dA301dA302dA303dA304dA305dA306dA307dA308dA",
   "309AdA309BdA309CdA310dA311dA312dA313AdA313BdA313CdA314dA315dA316dA317dA318dA319dA320dA321dA322",
   "dA323dA324dA325dA326dA327dA328dA329dA330dA331dA332dA333dA334dA335dA336dA337dA338dA339dA340dA34",
   "1dA342dA343dA344dA345dA346dA347dA348dA349dA350dA351dA352dA353dA354dA355dA356dA357dA358dA359dA3",
   "60dA361dA362dA363dA364dA365dA366dA367dA368dA369dA370dA371dA400-VASdA401-VASdA402-VASdA403-VASd",
   "A404-VASdA405-VASdA406-VASdA407-VASdA408-VASdA409-VASdA410-VASdA411-VASdA412-VASdA413-VASdA414",
   "-VASdA415-VASdA416-VASdA417-VASdA418-VASdA501dA502dA503dA504dA505dA506dA508dA509dA510dA511dA51",
   "2dA513dA515dA516dA520dA521dA523dA524dA525dA526dA527dA528dA529dA530dA531dA532dA534dA535dA536dA5",
   "37dA538dA539dA540dA541dA542dA545dA547dA548dA549dA550dA551dA552dA553dA554dA555dA556dA557dA559dA",
   "563dA564dA565dA566dA568dA569dA570dA571dA572dA573dA574dA575dA576dA577dA578dA579dA580dA581dA582d",
   "A583dA584dA585dA586dA587dA588dA589dA591dA592dA594dA595dA596dA598dA600dA601dA602dA603dA604dA606",
   "dA608dA609dA610dA611dA612dA613dA614dA615dA616dA617dA618dA619dA620dA621dA622dA623dA624dA626dA62",
   "7dA628dA629dA634dA637dA638dA640dA642dA643dA644dA645dA646dA648dA649dA651dA652dA653dA654dA655dA6",
   "56dA657dA658dA659dA660dA661dA662dA663dA664d~A~A701.AdA702.BdA703.DdA704.EdA705.FdA706.HdA707.J",
   "dA708.KdA709.LdA709-2.L2dA709-3.L3dA709-4.L4dA709-6.L6dA710.WdA711.XdA712.YdA713%CdA714.ABBdA7",
   "15.BBdA717.DDdA726.EYYYdA732w|d~B~A800dA801dA802dA803dA804dA805dA806dA807a~19~!Qy&:*o,mBc=A^Vp",
   "wdvI^Vpwc:*mJdo,BdB|Bv?d~2~DZrYf|B+Cv?gq0drJrYdD|B=ofv?gm5=od+FEdpp+F%JEdFENGrYdRAMSwAdo,GdG|B",
   "v?do,G|Bv?dH|B;rdo,Hdvt|Bv?drxJ|B;rm5v?dLSrYdLZrYdL|Bn*do,L|Bn*dL|B+Cv?m5n*dLEZHe|B+Cv?d^qYf|B",
   "n*dO|B;rdo,$=dpp%CdQd^qR|BzJyyim5+Cv?dR|B=oftndo,RdTCrY|Bq0dTSrYf|B+Cv?d=?rYdT|B+Cv?dV|B+3v?d~",
   "2~o,Ycuy;8|B;rc+Fuy;8|B;rcoBpmcrCpmcLATERALpmcALVEOLARpmc+Cpm|B+Cv?c:*S|Bq0a~46~CYPRIOT=LAcEcI",
   "cOcUcw?c~3~xGc~2~xPcxocx*cyHcyScyYcymcy,czDczSczXczzcz|c!Oc!pc!$c!^c$Lc$4c$uc%7c%_c&Uc&rc*Tc*n",
   "c*wc+Jc+oc++c+=c,Xc:Qc:=c;tc=5c=!c?mc?+c^nc_rc_!c_;c|Ec~2~|NcXEc~4~|sc~3~|?aIMPERIAL.ARAMAICy&",
   "mVdn=dusdqrdv4d_yd|zdvwd?Ad|odxWdy6dz;d$!d,FdnTd%_d+^d*1d+Ad:Gd=yc~2~,1:Vc$x%Gd^+d?5d=:d^yd%Gw",
   "Ge?2d=:?2aPALMYRENEy&mVcn=cuscqrcv4c_yc|zcvwc?Ac|ocxWcy6cz;ct3$!c$!c,FcnTc%_c+^c*1c+Ac:Gc=ybyt",
   "tvb+5tvb$x%Gc^+c?5cuBctpc=:c^yaNABATAEANy&t3mVcmVct3n=cn=cuscqrct3v4cv4c_yc|zcvwc?Act3|oc|oct3",
   "xWcxWct3y6cy6ct3z;cz;ct3$!c$!c,FcnTc%_c+^c*1c+Act3:Gc:Gc=yb~9~$x%Gc^+c?5cuBbCRUCIFORM$xuBb$xtp",
   "c=:c^yc%GwGa~31~HATRANy&mVcn=cuscDALETH-RESHcv4c_ycZAYNcvwc?Ac|ocxWcy6cz;c$!c,FcAYNc%_c+^c*1c~",
   "2~:Gc=yb~6~$x%Gctpc=:c^yc%GwGaPHOENICIANy&ALFcn:cGAMLcDELTcv4cWAUcZAIcHETc=_c|ncxQcLAMDcz;c$!c",
   "SEMKcmQc%_cSADEcQOFcROSHc:Gc=xb$x%Gc=:c^yc%GwGc^+c?5b~4~|I,paLYDIANy&AcBcGcDcEcVcIcYcKcLcMcNcO",
   "cRcSScTcUcFcQcScTTcm4cs3cLYcNNcCb~6~^Vzqa~41~MEROITIC.HIEROGLYPHICy&AdEdIdOd|Qd_rdnUdBA-2d%7dz",
   "Xd!$dNA-2d!^dNE-2d*ndRA-2dyYdxvdvyd+=dSA-2d,XdxPd*Yd=5dTA-2d=!dTE-2d?+dq9c=MVIDJdVIDJ-2bCURSIV",
   "Ey&AdEdIdOd|Qd_rdnUd%7dzXd!$d!^d*ndyYdxvdvyd+=dm*+=d,XdxPd*Yd=5d=!d?+dq9c~5~uEsX^ud%GvIczIRMTd",
   "IMNc$x%Gd^+d?5duBdtpd:qd,tdsMd$Wd=:d^yd?Wdt_dtYd:ud,vd~3~%GwGd^+wGd?5wGduBwGdtpwGd:qwGd,twGdsM",
   "wGd$WwGd%G?2d^+?2d?5?2duB?2dtp?2d:q?2d,t?2dsM?2d$W?2d=:?2d^y?2d?W?2dt_?2dtY?2d:u?2d,v?2dsR?2d$",
   "Y?2d%GwG?2d^+wG?2d?5wG?2duBwG?2dtpwG?2d:qwG?2d,twG?2dsMwG?2d$WwG?2cuE%GTWELFTHd^+^ud?5^uduB^ud",
   "tp^ud:q^ud,t^udsM^ud$W^ud=:^uaKHAROSHTHIy&Ab_n:VIdUd_8Rd~2~EdOc~6~yzzqb:Vr!+mn&cmuc_6by&xPcxvc",
   "uPcumc~2~oxcpHcw?c~2~$$c^8c^9cq$cq*c$2c=5c?Ecq9crKc!$c%7c&NcnUcn^czXc|Qc*ncyYc_Sc,wc;Qc+=c|scv",
   "DcKKAcTTTHAcTTTAcVHAb~3~:VnomEcCAUDAcrwn&b~5~_5brW%Gc^+c?5cuBb$x=:c^yc%GwGd?2buE%GvIb~8~*Urwc:",
   "*p3cp3cqKnocMANGALAMczNcqucr!qucLINESa~8~%A;BARABIANy&v4ey6evwez;e*1e_ye:Ge+Aen=e=yeSATexWe$!e",
   "KHETHe+^e,FetOemUeAYNeDHADHEeuseqreGHAYNe?AeZAYNeDHALETHe|oeTHAWeTHETHd$x%GetYdNUMERICw7b$9ARA",
   "BIANy&vrey3evFez:e*Ze_yeES-2e*:en$e=*eES-1exQe$6exwe+?eES-3etSemUemQeqmeGEEMeqpeune=me|ve?Ge|X",
   "e?Le|ud$x%Ge=:e^ya~21~MANICHAEANy&mVcn=cBHETHcuscGHIMELcqrcv4c_yb:V^?by&|zcZHAYINcJAYINcJHAYIN",
   "cvwc?Ac|ocxWcXAPHcKHAPHcy6cDHAMEDHcTHAMEDHcz;c$!c,FcnTcAAYINc%_ctOc+^c*1cXOPHcQHOPHc+Ac:GcSSHI",
   "Nc=ybmCzqmEdn&b~5~$x%Gctpc=:c^yc%GwGb*U;1ctvcr!rw|Crwcrw|Crwcrwc^+rycy?t2a~A~AVESTANy&AcmBcAOc",
   "AAOcm4cAANcmJcAEEcEcsKcOc%IcIcw0cUc_RcxocXEcXYEcXVEcGEcGGEcupcCEcw|c=!c?Jcq+cDHEcTTEc%_ctOcnyc",
   "BHEcNGEcNGYEcNGVEc!^cNYEcNNEczzcHMEcYYEc|Vc_Yc*wcymc,Xc|!c,;c|,cSHYEcSSHEcv4b~4~mCzqa?%^+ry%Y%",
   "Grw*Ua:*^+ry%Y%Grw*Uay7^+ry%Y%Grw*Ub%Grw%Y^+ry*Ub^+RINGS%Y%G+m*Ub%G+m%Y^+RINGS*UaINSCRIPTIONAL",
   ".PARTHIANy&mVdn=dusdqrdv4d_yd|zdvwd?Ad|odxWdy6dz;d$!d,FdnTd%_d+^d*1d+Ad:Gd=yc~3~$x%Gd^+d?5duBd",
   "=:d^yd%GwGe?2bPAHLAVIy&mVdn=dusdqrdv4d_zd|zdvwd?Ad|odxWdy6dMEM-QOPHd$!d,Fd%_d+^d:Gd=yc~6~$x%Gd",
   "^+d?5duBd=:d^yd%GwGe?2aPSALTER.PAHLAVIy&mVdn=dusdqrdv4d_zd|zdvwd|odxWdy6dMEM-QOPHd$!d,Fd%_d+^d",
   ":Gd=yc~8~,1zqc^q,1zqcuBry|BqNfrwc~D~$x%Gd^+d?5duBd=:d^yd%GwGa~51~%ATURKICy&%TAd|ZAemJd%TId|ZIe",
   "Ed%TOe$=d|Z$=d%TABd|ZABd%TAEBd|ZAEBd%TAGd|ZAGd%TAEGd|ZAEGd%TADd|ZADd%TAEDeEZd|ZEZd%TnSd|ZnSd%T",
   "AEYd|ZAEYd%TAEKd|ZAEKd%TOEKd|ZOEKd%TALd|ZALd%TAELeELTes0em4emMd|ZmMd%TENTd|ZENTd%TENCd|ZENCd%T",
   "sod|Zsoem6d%Ts8d|ZAENGd%TEPeOPeICeECd|ZECd%TAQd|ZAQd%TIQd|ZIQd%TOQd|ZOQd%TARd|ZARd%TAERenCeAES",
   "enFd|ZnFd%Ts%d|Zs%d%TnMd|ZnMd%TAETd|ZAETd%TOTeBASHb~38~HUNGARIANo,y&AemBeEBeAMBeECeENCeECSeEDe",
   "m5eEeCLOSE.EesKeEFeEGeEGYeEHeIew0eEJeEKeAKeUNKesTeELYes0es3esoeOe%Ie$U$=e+,$=eOEEeEPeEMPesye:K",
   "syes!eESZes*eENTeETYesJeUe_Re$U^_e+,^_eEVeEZeEZSes9:VeUSc~E~:*y&AemBeEBeAMBeECeENCeECSeEDem5eE",
   "eCLOSE.EesKeEFeEGeEGYeEHeIew0eEJeEKeAKeUNKesTeELYes0es3esoeOe%Ie$U$=e+,$=eOEEeEPeEMPesye:Ksyes",
   "!eESZes*eENTeETYesJeUe_Re$U^_e+,^_eEVeEZeEZSes9:VeUSc~8~$x%Gdtpd=:dtYd%GwGe?2aHANIFI.ROHINGYAy",
   "&AdnUd%7d=5d^8dw?doxdvDdxvdtHdq9dq$d*nd+&d|sd+=d,wdxPduPdyYdzXd!$d_rdKINNA_rd|QdKINNA|Qd$Gd$$d",
   "_Sc_nAdIdUdEdOczqSAKINd!$KHONNAc:VHARBAHAYdTAHALAdTANAdTASSIc~9~rW|%d%Gd^+d?5duBdtpd:qd,tdsMd$",
   "Wa~127~RUMIrW%Gc^+c?5cuBctpc:qc,tcsMc$Wb$x=:c^yc?Wct_ctYc:uc,vcsRc$Yc%GwGc^+wGc?5wGcuBwGctpwGc",
   ":qwGc,twGcsMwGc$WwGbuE%GvId*5d?Tc^+?Ua~2~YEZIDIy&ELIFcnyc%_cPHEc?Jc,XcCIMcCHIMcCHHIMcvyc|Ncqpc",
   "ZALc*nc+Hc|scw?cSINc:Gc+?cqmc=5c|!cEYNcXHEYNctHc_Sdm0t^c*ZcxQcKHAFcuScy3cMIMc$!cUMc_ycOWcEWcHA",
   "YcYOTcs*b~2~pxvMzqcz0zqbwKzqb~3~y&y3|BrwmEcYOT|Bp7mEa~4F~%A:^y&mVdt3mVdn=dt3n=dusdv4dt3v4d_yd|",
   "zdvwd|odxWdy6dz;d$!dt3$!f|B_1=od,FdnTdm0nTd%_d+^dt3+^f|B_1=odRESH-AYIN-DALETHd:Gd=ydt3=yf|B_1=",
   "oc$x%Gd^+d?5duBdtpd=:d^yd?Wd%GwGcuE%GvIcy:AYIN-DALETHa~9~:^y&mVcn=cuscv4c_yc|zcvwc|ocxWcy6cz;c",
   "$!c,FcnTc%_c+^cRESH-AYINc:Gc=ycFETHcLESHbw5:Gbpxrwn&c^+ryn&crwmEc^+rymEcq4mEdn&cv?mEdn&czJv?n&",
   "c+An&c;rn&b$x%Gc=:c^yc%GwGb*U^+_1ntf|Brycp3|Brwc^+p5|BrycvIp3|Brwa~17~%AUYGHURy&mVdn=dGIMEL-HE",
   "THd_yd|zdt3vwd|odxWdy6dz;d$!d,Fd%_d+^d+Ad:Gd=ydLESHcpxrwmEen&d^+rymEfn&c*Unod^+nteryduBrya~27~",
   "CHORASMIANy&mVc:*mVcn=cuscqrcv4c_ycCURLED_yc|zcvwc|ocxWcy6cz;c$!c,FcnTc%_c+Ac:Gc=yb$x%Gc^+c?5c",
   "uBc=:c^yc%GwGa~15~ELYMAICy&mVcn=cuscqrcv4c_yc|zcvwc?Ac|ocxWcy6cz;c$!c,FcnTc%_c+^c*1c+Ac:Gc=yby",
   ":ZAYIN-YODHa~A~BRAHMI:Vo+cmuc_6cxFc_Kby&AcmBcIcw0cUc_Rc_8Rd+%dLdzAcEcmPcOcnPcxPcxvcuPcumc$Gcox",
   "cpHcw?cxDc$$c^8c^9cq$cq*c$2c=5c?Ecq9crKc!$c%7c&NcnUcn^czXc|Qc*ncyYc_Sc,wc;Qc+=cvDczBc%A=tzCe+&",
   "e$3b_n:VmBdBHATTIPROLUmBdIdw0dUd_Rd_8Re+%eLezAdEdmPdOdnPb_5bqubr!qub*Urwcr!rwcy?cqKnoczNb~5~$x",
   "%Gc^+c?5cuBctpc:qc,tcsMc$Wc=:c^yc?Wct_ctYc:uc,vcsRc$Yc%GwGd?2brW|%c%Gc^+c?5cuBctpc:qc,tcsMc$Wb",
   ":V%A=t_5by&%A=t:KEfOb_n:V%A=t:KEgOby&%A=tzBb~A~$xxJaKAITHI:Vo+cmuc_6by&AcmBcIcw0cUc_RcEcmPcOcn",
   "PcxPcxvcuPcumc$GcoxcpHcw?cxDc$$c^8c^9cq$cDDDHAcq*c+Hc$2c=5c?Ecq9crKc!$c%7c&NcnUcn^czXc|Qc*ncyY",
   "c_Sc,wc;Qc+=cvDb_n:VmBdIdw0dUd_RdEdmPdOdnPb:V_5c$wbmC:VbENUMERATION:Vb$x:Vb,1zqbr!,1zqbqubr!qu",
   "b_n:V_8Rb~B~$x:VmEa~3~SORA.SOMPENGy&SAHd=mdBAHdCAHdDAHdGAHdMAHdNGAHdLAHdNAHdVAHdPAHdYAHdRAHdvF",
   "dKAHdJAHdNYAHdmOdEEHdIHdUHdOHdEHdMAEc~8~rW|%d%Gd^+d?5duBdtpd:qd,tdsMd$Wa~7~CHAKMA:Vo+cmuc_6by&",
   "mBcIcUcEcKAAcKHAAcGAAcGHAAc$HcCAAcCHAAcJAAcJHAAcNYAAcTTAAcTTHAAcDDAAcDDHAAcNNAAc=6c?FcDAAcDHAA",
   "c!%cPAAcPHAAcBAAcBHAAcMAAcYYAAc|RcRAAcLAAcWAAcSAAcvEb_n:VAdIdw0dUd_RdEdmPdOdnPdOIbOzqbnPzqb_5b",
   "MAAYYAAb~2~rW|%c%Gc^+c?5cuBctpc:qc,tcsMc$Wb,1zqbqubr!qub*8zqby&LHAAb_n:VmBdEIby&VAAa~9~MAHAJAN",
   "Iy&AcIcUcEcOcxPcxvcuPcumcoxcpHcw?cxDc$$c^8c^9cq$cq*c$2c=5c?Ecq9crKc!$c%7c&NcnUcn^czXc*ncyYc_Sc",
   "+=cvDc+&b:V$wbmC:Vb,1zqby:SHRIa~A~SHARADA:Vo+cmuc_6by&AcmBcIcw0cUc_Rc_8Rd+%dLdzAcEcmPcOcnPcxPc",
   "xvcuPcumc$GcoxcpHcw?cxDc$$c^8c^9cq$cq*c$2c=5c?Ecq9crKc!$c%7c&NcnUcn^czXc|Qc*ncyYczBc_Sc,wc;Qc+",
   "=cvDb_n:VmBdIdw0dUd_Rd_8Re+%eLezAdEdmPdOdnPb:V_5cnRcxFc_Kb%Bbqubr!qubmC:Vb,pb,Izqb:V$wb_n!Qzqb",
   "EXTRA:K_nzqbSUTRAzqb_n:V*GEb:Vwyo+brW|%c%Gc^+c?5cuBctpc:qc,tcsMc$WbEKAMb:V:Rbv8bCONTINUATION:V",
   "b,1zrczsa~2~SINHALAm*rW%Gd^+d?5duBdtpd:qd,tdsMd$Wc$x=:d^yd?Wdt_dtYd:ud,vdsRd$Yd%GwGe?2a~C~KHOJ",
   "KIy&AcmBcIcUcEcmPcOcnPcxPcxvcuPcu9cumc$GcoxcpHcw?cJJAc~2~$$c^8c^9cq$cq*c$2c=5c?Ecq9cq&crKc!$c%",
   "7c&NcnUcnxcn^czXc|Qc*ncyYc_Sc+=cvDczBb_n:VmBdIdw0dUdEdmPdOdnPb:Vmuc_5c$wc,ybqubr!qub|I,pb,1zqb",
   "r!,1zqbmC:Vb:V;,a~42~MULTANIy&AcIcUcEcxPcxvcuPc~2~umc~2~oxcpHcw?cJJAc~2~$$c^8c^9cq$cq&cq*c$2c=",
   "5c?Ecq9crKc!$c%7c&NcnUc~2~n^czXc|Qc*ncyYc_Sc+=cvDc+&c+Hb,1zqa~7~KHUDAWADIy&AcmBcIcw0cUc_RcEcmP",
   "cOcnPcxPcxvcuPcu9cumc$GcoxcpHcw?cJJAcxDc$$c^8c^9cq$cq&c+&cq*c$2c=5c?Ecq9crKc!$c%7c&NcnUcnxcn^c",
   "zXc|Qc*ncyYc_Sc,wc+=cvDb:Vmub_n:VmBdIdw0dUd_RdEdmPdOdnPb:V$wc_5b~6~rW|%c%Gc^+c?5cuBctpc:qc,tcs",
   "Mc$Wa~7~u*:VpxmumEco+cmuc_6b~2~y&AcmBcIcw0cUc_Rc_8RdLc~3~sKcmPc~3~%IcnPcxPcxvcuPcumc$GcoxcpHcw",
   "?cxDc$$c^8c^9cq$cq*c$2c=5c?Ecq9crKc!$c~2~%7c&NcnUcn^czXc|Qc*nc~2~yYczBc~2~_Sc,wc;Qc+=cvDa~2~px",
   "BINDUn&au*:V$wcnRb_n:VmBdIdw0dUd_Rd_8Re+%d~3~sKdmPd~3~%IdnPb:V_5b~3~%Bb~7~nPyzzqb~6~:VPLUTAby&",
   "_Zmudr!muc_8+%dzAb_n:V_8LezAa~3~pxu*rW|%d%Gd^+d?5duBdtpd:qc~4~y&AdxPd!$dVId%7a~8C~NEWAy&AcmBcI",
   "cw0cUc_Rc_8Rd+%dLdzAcEcmPcOcnPcxPcxvcuPcumc$GcNGHAcoxcpHcw?cxDc$$cNYHAc^8c^9cq$cq*c$2c=5c?Ecq9",
   "crKc!$c$Kc%7c&NcnUcn^czXcMHAc|Qc*nc+HcyYcy+c_rc,wc;Qc+=cvDb_n:VmBdIdw0dUd_Rd_8Re+%eLezAdEdmPdO",
   "dnPb:V_5co+cmuc_6c$wcnRct3mub%BbSIDDHIbqubr!qubpybGAPt2bmC:VbrW|%c%Gc^+c?5cuBctpc:qc,tcsMc$Wbr",
   "!pyb&ozqb~2~wn:Vb,Izqby&_Zmub:VxFc_Ka~1F~TIRHUTA.ANJIby&AcmBcIcw0cUc_Rc_8Rd+%dLdzAcEcmPcOcnPcx",
   "PcxvcuPcumc$GcoxcpHcw?cxDc$$c^8c^9cq$cq*c$2c=5c?Ecq9crKc!$c%7c&NcnUcn^czXc|Qc*ncyYc_Sc,wc;Qc+=",
   "cvDb_n:VmBdIdw0dUd_Rd_8Re+%eLezAdEd:KEdmPdOd:KOdnPb:Vo+cmuc_6c_5c$wcnRbGVANGbmC:Vb%Bb~9~rW|%c%",
   "Gc^+c?5cuBctpc:qc,tcsMc$Wa~A7~:Ry&AcmBcIcw0cUc_Rc_8Rd+%dLdzAcEcmPcOcnPcxPcxvcuPcumc$GcoxcpHcw?",
   "cxDc$$c^8c^9cq$cq*c$2c=5c?Ecq9crKc!$c%7c&NcnUcn^czXc|Qc*ncyYc_Sc,wc;Qc+=cvDb_n:VmBdIdw0dUd_Rd_",
   "8Re+%d~3~EdmPdOdnPb:Vo+cmuc_6c_5c$wc:Rbqubr!qub,prwcnob*^zrczscMARK-3bs7$??Dzqb,1zq|B^Wm5^;ORN",
   "AMENTSgrzqLe*um5rzqLhr!qLh^YqLdr!+mf|B*ud|Br!qLe^YqLe*4qLeSEPTUPLEqLep5m5*ug^+s6guBs6by&THREE-",
   "CIRCLEm0Ic^,m0Iew0cm0Ub_n:Vm0Ue_Ra~23~MODIy&AcmBcIcw0cUc_Rc_8Rd+%dLdzAcEcmPcOcnPcxPcxvcuPcumc$",
   "GcoxcpHcw?cxDc$$c^8c^9cq$cq*c$2c=5c?Ecq9crKc!$c%7c&NcnUcn^czXc|Qc*ncyYc_Sc,wc;Qc+=cvDczBb_n:Vm",
   "BdIdw0dUd_Rd_8Re+%eLezAdEdmPdOdnPb:Vmuc_6c_5cARDHACANDRAbqubr!qubmC:Vb:VHUVAb~C~rW|%c%Gc^+c?5c",
   "uBctpc:qc,tcsMc$Wa~7~!XoE|B%Ub+voEbr!oE|B%Ub^YoE|B%UboE|Br!%Ub+voE|B%Uer!%UbwyoEd|Br!%UbSWIRLo",
   "Ed|B%Uer!%Ub^qSWIRLoE|Br!%Ua~14~TAKRIy&AcmBcIcw0cUc_RcEcmPcOcnPcxPcxvcuPcumc$GcoxcpHcw?cxDc$$c",
   "^8c^9cq$cq*c$2c=5c?Ecq9crKc!$c%7c&NcnUcn^czXc|Qc*ncyYc_Sc,wc+=cvDc+&b:Vmuc_6b_n:VmBdIdw0dUd_Rd",
   "EdmPdOdnPb:V_5c$wby&m*xvbmC:Vb~7~rW|%c%Gc^+c?5cuBctpc:qc,tcsMc$Wa~37~AHOMy&xPcxvc$Gc!$c=5cm0=5",
   "c%7c&NcnUczXcw?cpHc?Ec*ncyYc+=c$$cvDcAcq9crKcuPcm0uPcumcn^cxDcm0nUb~3~p;:Vz+yYe*neLIGATING*nb_",
   "n:VAdmBdIdw0dUd_RdEdAWdOdmPdAMb:VKILLERb~5~rW|%c%Gc^+c?5cuBctpc:qc,tcsMc$Wb$x=:c^yb:V:*,1c,1cR",
   "ULAIb=MVIby&oxc^8c^9cq$cq*c$2czBa~BA~DOGRAy&AcmBcIcw0cUc_RcEcmPcOcnPcxPcxvcuPcumc$GcoxcpHcw?cx",
   "Dc$$c^8c^9cq$cq*c$2c=5c?Ecq9crKc!$c%7c&NcnUcn^czXc|Qc*ncyYc_Sc,wc;Qc+=cvDc+&b_n:VmBdIdw0dUd_Rd",
   "_8Re+%dEdmPdOdnPb:Vmuc_6c_5c$wbmC:Va~65~WARANG.CITIo,y&$HeAe_;e|qe|Qe|mew0e_ReEeOem6euPeyHesoe",
   "YUJeUCeENNe$;eTTEeNUNGeq9enMeAMeo6e*TeHIYOeHOLOeHORRev0eSSUUeSIIeVIYOc:*y&$HeAe_;e|qe|Qe|mew0e",
   "_ReEeOem6euPeyHesoeYUJeUCeENNe$;eTTEeNUNGeq9enMeAMeo6e*TeHIYOeHOLOeHORRev0eSSUUeSIIeVIYOcrW|%d",
   "%Gd^+d?5duBdtpd:qd,tdsMd$Wc$x=:d^yd?Wdt_dtYd:ud,vdsRd$Yc~D~%BaDIVES.AKURUy&AdmBdIdw0dUd_RdEd~3",
   "~Od~3~xPdxvduPdumd$GdoxdpHdw?d~2~$$d^8d~2~q$dq*d$2d=5d?Edq9drKd!$d%7d&NdnUdn^dzXd|QdYYAd*ndyYd",
   "_Sd,wd;Qd+=dvDdzBd|sc_n:VmBeIew0eUe_ReEe~2~mPeOc~3~:Vmudo+dvHc_5cPREFIXED.NASAL:Vcz+|Qcwm*ncz+",
   "*nc:V$wcr!qucGAPt2cs7$??Dzqc~A~rW|%d%Gd^+d?5duBdtpd:qd,tdsMd$Wa~47~NANDINAGARIy&AcmBcIcw0cUc_R",
   "c_8Rd+%c~3~EcmPcOcnPcxPcxvcuPcumc$GcoxcpHcw?cxDc$$c^8c^9cq$cq*c$2c=5c?Ecq9crKc!$c%7c&NcnUcn^cz",
   "Xc|Qc*ncyYc_Sc,wc;Qc+=cvDczBc+&b_n:VmBdIdw0dUd_Rd_8Re+%d~3~EdmPdOdnPb:Vmuc_6c_5cnRc:Rbv8b_n:V*",
   "GEa~1C~ZANABAZAR;My&Ac_n:VIe^_eUeEe$=eOemPenPe+FIdyzzqcy&xPdxvduPdumd$GdoxdpHdw?d$$d^8d^9dq$dq",
   "*d$2d=5d?Edq9drKd!$d%7d&NdnUdn^dzXd^3d^5dsCdsFd|*d|sd-Ad|Qd*ndyYd_Sd,wd;Qd+=dvDdyRct3p;zqc:V_5",
   "do+e|B%Udo*|B%Udmud_6cpuy&*ncCLUSTER-FINALy&|Qe*neyYe_Scwmv5zqcpqv5zqczq^6d,xdr!,xdzJ^6cwmr%v5",
   "zqcpqr%v5zqc;wa~9~SOYOMBOy&Ab_n:VId^_dUdEdOd$=dmPdnPd_8ReLcyzzqby&xPcxvcuPcumc$GcoxcpHcw?cxDc$",
   "$c^8c^9cq$cq*c$2c=5c?Ecq9crKc!$c%7c&NcnUcn^czXc^3c^5csCc|*c|sc-Ac|Qc*ncyYc_Sc,wc;Qc+=cvDcyRb:V",
   "xFc_Kbpuy&*ndyYd,wd+=bt3p;:VGeKe$FeDeNeBeMeReLeSHeSe-Ab:Vmuc_6bu3zqb;wbzq^6c,xcr!,xcPLUTAbv5zq",
   "|B!5m5;?m5^YFLAMEiFLAMEg;?bTERMINALzrczsa~E~o$=KNATTILIKvzdHIIdv:dHOOdvDdvEdSHRIdSHRIIdSHROdSH",
   "ROOdSHRAdSHRAAcSPEcSPIcSPOcSPAaPAU.CIN.HAUy&%7exPeyYezXeq9e|se_Se$GevDeuPexve+=enUeoxe=5e?Ee!$",
   "e&Ne*netHepHeAeEeIeOeUeUAeIAet3PfKfTfMfNfLfWf$FfYd+n?:zJe?:d,Iuy;8d+n?:zJt3ft3d,Iuy;8t3e?:zJe?",
   ":fzJt3ft3d!C?:duy;8_Vd!C?:zJt3ft3dzP?:zJe?:duy;8dzP?:zJt3ft3duy;8t3a~108~BHAIKSUKIy&AcmBcIcw0c",
   "Uc_Rc_8Rd+%dLc~2~EcmPcOcnPcxPcxvcuPcumc$GcoxcpHcw?cxDc$$c^8c^9cq$cq*c$2c=5c?Ecq9crKc!$c%7c&Ncn",
   "Ucn^czXc|Qc*ncyYc_Sc,wc;Qc+=cvDb_n:VmBdIdw0dUd_Rd_8Re+%eLd~2~EdmPdOdnPb:Vo+cmuc_6c_5cnRbqubr!q",
   "ub|I,pbGAP.FILLER-1cFILLER-2b~B~rW|%c%Gc^+c?5cuBctpc:qc,tcsMc$Wb$x%Gc^+c?5cuBctpc:qc,tcsMc$Wc=",
   ":c^yc?Wct_ctYc:uc,vcsRc$YbwH_Gzqa~4~MARCHENv5zqbzq,xby&xPcxvcuPc$GcoxcpHcw?c$$c=5c?Ecq9c!$c%7c",
   "&NcnUczXc^3c^5csCc_rc|*c|sc-Ac|Qc*ncyYc,wc+=cvDcAb~3~;vy&xPdxvduPd$GdoxdpHdw?d$$d=5d?Edq9d!$d%",
   "7d&NdnUdzXd^3d^5dsCd_rd|*d|sd~2~|Qd*ndyYd,wd+=dvDdAb_n:VmBdIdUdEdOb:Vmuco+a~4A~MASARAM.GONDIy&",
   "AdmBdIdw0dUd_RdEd~2~mPdOd~2~nPdxPdxvduPdumd$GdoxdpHdw?dxDd$$d^8d^9dq$dq*d$2d=5d?Edq9drKd!$d%7d",
   "&NdnUdn^dzXd|Qd*ndyYd_Sd,wd;Qd+=dvDdzBdyRdJNYAdTRAc_n:VmBeIew0eUe_Re_8Re~4~Ee~2~mPeOe~2~nPc:Vm",
   "ud_6d$wdo*dvHc_5cREPHAcRA-KARAc~9~rW|%d%Gd^+d?5duBdtpd:qd,tdsMd$Wa~7~GUNJALA.GONDIy&AdmBdIdw0d",
   "Ud_Rd~2~sKdmPd~2~%IdnPd|Qd_SdnUdn^dzXdxPdxvd=5d?EdyYduPdumdq9drKd!$doxdpHd^8d^9dzBdw?dxDdq$dq*",
   "d$Gd%7d&NdvDd*nd+=c_n:VmBeIew0eUe_Re~2~sKemPe~2~%IenPc:Vmud_6c_5c%Bc~8~rW|%d%Gd^+d?5duBdtpd:qd",
   ",tdsMd$Wa~137~MAKASARy&xPcuPc$Gc%7cnUczXc=5cq9c!$coxcw?c$$c|Qc*ncyYc_Sc+=cAbANGKAb_n:VIdUdEdOb",
   "PASSIMBANGbs7$?,1a~B8~LISUy&YHAa~10~=tuE%G?6d%HdEIGHTIETHd:vdFORTIETHd?Yc?5sQdSIXTY-FOURTHSc%G",
   "^wdSIXTEENTH-1dSIXTEENTH-2dTENTHdsOc?5^xd:tc%GFIFTHd*5dHALF-1dHALF-2c?5*6cDOWNSCALINGtJKIIZHb:",
   "VNELcCEVITUcAAZHAAKKUcUZHAKKUcMUUVUZHAKKUcKURUNIcPATHAKKUcMUKKURUNIcKAACUcPANAMcPONcVARAAKANcP",
   "AARAMcKUZHIcVELIbWETqX:VbDRYqX:VbLAND:Vb,CPAN:VbTRADITIONALqJ:Vc$x:Vbq3:Vbm5$;:VbSPENT:VbTOTAL",
   ":Vbw3&*:VbSTARTINGuG:Vb:VMUTHALIYAcVAKAIYARAAb~E~*Us7$??DaqY:VAd?$Aen2euX=;evDewZey0vCe!ue+|cA",
   "2cABd?$nGeDUN3vCeuTeuX=;evDewZvCeIMINeyZeSHESHeU&qU&qUdvCcAB2d?$n4euX=;ezz&qs3eSHA3e=pcADcAKd?",
   "$szeSHITA&quucALd?$ALeDIM2euuevDeKAD3ex*e,;e_QcALANcmVcAMARd?$,;cm4d%Ym4d?5?$d&qNAGA%Nm4&qNAGA",
   "f;NcANSHEcAPINcARADd?$yUcARKABcASAL2cnFdZIDA=;dKABA=;d%YnF^p%Y^p^p%Y^p%uf%YnFhqSnF%YnF%YnFcnGc",
   "nHcnUcn2cBAG3cn3cBALd%YBALcn4cnocBARA2cn_d?$AeuZewZvCco6d%Yo6ABfUNdqSo6cBULUGd%YBULUGcopcBUR2c",
   "q9cDAGdx:?$A&qzufAMARfn4fn_fuPg&qzufurfutfvBfvDfIRg&qzSfxSfyYfzSg&qMASH2fzVf!^f%u&q%uf:Qf=pf^=",
   "&qutf_QcDAMcDARcDARA3cDARA4crLcDIBcDIMd?$,;cDIM2cDINdx4UvCr5cr5cr_d%Yr_dvCd,|cDUBd?$s&cDUB2cr|",
   "cDUGUDcDUHcDUNcDUN3dvCevCcDUN4cDUR2cEd?$%ud%YE$!%Y$!cE2d?$A&qvD&qq9euZez|e,Ae,;eUcEDINcEGIRcsT",
   "cs3d?$uXf=;ezzdqSs3d%Ns3d;NcERENcszcs&cEZENd?$Af&qy2h?$y2em4en2eDUN3vCgvCevDfvCewZvCex4f;NeyTe",
   "yYey2?$y2ey,ezSe^=e^?cuPdvCcGA2d?$A&qq9&qvDgvDgwZeAB2=;&q=7em4enFenG&quTen2eno&q*neopf&q*neq9e",
   "rLeDIM?$,;eDUBesTf&qyYes3f?$uX=;euX=;euZeureGI4f&qAeut&q;tevD&qzS&qs&eHALf&qyYevz&qy,eHUB2ewZv",
   "CeISH&qwE&qnFexSex4eKIDf&qy2eyT&qm4eyYezz&qs3ez|e$!f%Y$!e%7e,Ae,Le,;f&qTUReSHIDe;;e=peUe^?f&qr",
   "_d%YGA2cGABAdqSGABAcuQd%YuQuZ%YuZcuTduQ%YuQuZ%YuZcGALAMcGAMcuWcuXd=;d%YuXdqSuXcuZcGAR3cGASHANc",
   "GESHTINd?$yUcurd?$EeUdqSurcGI4d%YGI4dqSGI4cGIDIMcutdvCcGIR3d?$A&qwZeuX=;ewZezS&qwZe%7cGISALcuu",
   "dqSuud?$n2e=pd=;cvAdqSvAcGU2d?$xSf?$wZvCe$!e,A&q^pdvCcvBd?$A&qyUeyUd%YvBzUcGULcGUMd?$,;cGURcGU",
   "R7cGURUNcGURUSHcvDd=;dvCcHALcvzd?$nFenGen2er5euQeKINe$!e,;eUcwEcHUB2d?$m4eHALex4eLISHe^?cHUL2c",
   "IdAcIBcIDIMd%YIDIMopf;NcIGcwZdDIBd+Jd%YwZSHIR%YSHIR^?%Y^?dvCcILd?$uX=;cIL2cIMd?$=pdqSIMd%NIMd;",
   "NcIMINcw3cIRcISHcxPd?$AeADf&qyTenGen2en4enoen_eszes&euPeuTeuX=;euZf&qSHA3&qAeureuteuu&q,LfqSuu",
   "evAeGUR7ewZeIMexSex*eKIDey,ezSezzf&qr_gurg=!ez|f&qNUNUZe!^e$!e&Ue++e+=e,Le,we,;eSHIDe:NeSIGeSU",
   "HURe=ueUe^=e^?eUMUM?$%7e_QeZIcKA2dqSKA2cKABcKAD2cKAD3cKAD4cKAD5d%YKAD5cxSd?$wZvCcKALd?$n2dqSKA",
   "LcKAM2cKAM4cx4dyZ?$U%YyZ?$Ud%Yx4yZ?$U%YyZ?$UcKESH2cx*d?$n2eUe^?cKIDcKINcKISALcKISHcx:d%Yx:cySd",
   "%Yvz?$nGyS%Yvz?$nGcyTcKU4d_Vt^cKU7cKULdvCcKUNcyUd%NyUcyVcKWU318cyYcyZd?$Af&qq9&qvDguZgy2eALem4",
   "enFZIDA=;en2en_eDARes3euPeuZevBf&qvBevDeHALevz?$$!ewZvCeIMf&qvDgzSex*eKINeyTeKULf&qvz&qAeyZeLI",
   "SHezSeLULezzf&qs3e!ue!^e,;&q;;eSHITA&quu&qszh=;e:Of&q:Oe;;eTAGe=pe=!&qA&q;t&q!$eUf&qAgU&qUe^=&",
   "qnFe^?e_Qd;Ncy0d?$,;f&q;;dvCe%Yy0vC,;cLAHSHUcy2d?$y2cy3d?$yUf&q++cy,cLILcLIMMU2cLISHczSd?$n2cL",
   "U2d?$ALen2es&f=;euX=;evz?$n2eIMeKAD2eKAD3f&qnFex*eyY&qnFeyZezz&qs3e!^e$ue:Q&qnFeSIK2&qo6e^pd=;",
   "dqSLU2d%NLU2d;Nd,|czTczUd%YzUd%NzUd,|cLUHcLULczVd%YzVfuZ%YuZczXd?$=pdvCcMA2cMAHcMARczucMASH2cz",
   "zcMEScz|cMINc!pd%Y!pcMUGdvCcMUNSUBcMURGU2c!ud?$AeyUe|sd%Y!uf?$A&q!$dqS!ucMUSH3d?$Af&qrLerLdvCc",
   "!$cNA2cNAGAdwyd?$:N=;d%NNAGAcNAGARcNAM.NUTILLUcNAMcNAM2c!^d?$Ae^?d,|c$Ld?$EcNI2cNIMd?$uX=;euZ&",
   "quX=;c$Vd?$m4enFf&qnFevBezz&quX=;e!^e$!e,;f&qAm4gnFh&qnFe^=&qnFe_QcNISAGc$ucNU11c$!dy0?$uZfzuf",
   ",Ag%Y$!y0?$,Af_Qd=;d%Y$!dqS$!fy0%Yy0cNUNUZdAB2?$nHfn_fr|fvBfwZvCfKAD3fyYf!^fSILA3f^=dx:?$n_gUc",
   "%7c%9cPANc%ucPESH2c&Ud?$AeABen_eo6eEeIeIBeUe^=dqS&UcPIRIGd?$KALe^?e|sd%NPIRIGc*ncRABc+Jc++c+=c",
   "+|NUTILLUc+|d?$Aer_eDUBevDexSeyUezVez|e$!e,AeSHIDe=7e^=eUBeUMeURe_Qd%Y+|dvCc,AdyZ?$nGcSANGA2c,",
   "Lc,wcSHA3d?$Aen2euue!^e:OeTUReUf&qAcSHA6cSHAB6c,+c,;dwEd%Y,;uQ%YuQuZ%YuZf=7%Y=7uZ%YuZcSHEG9cSH",
   "ENcSHESHcSHESH2cSHESHLAMcSHIDd?$AeIMcSHIMd?$AeBALeBULUGeDINeuZewZfvCeyVeLULeMUGe,AcSHINIGcSHIR",
   "d=;d%YSHIRop%YopcSHITAc:Nd%Ywy:Nc:OcSHUBURc:QdvCcSIGcSIG4d%YSIG4:OcSIK2cSILA3c;td%Y;tcSUDcSUD2",
   "cSUHURc;;cSUMASHcSURcSUR9c=5dnJd?$vzez|dvCc=7d%Y=7$L%Y$Lr5%Yr5d;NcTAGd?$n_evBe,;e:Ne^pe^?c=pc=",
   "uc=!dvCc?md=;cTILcTIRd?$=pd%YTIRfuQ%YuQuZ%YuZc^nc^pcTUKcTUMcTURd%YTUR|s%Y|scUdvBdU.Ud%YU%7%Y%7",
   "uZ%YuZfSUR%YSURfU+F%YU+Fc^=cUBc^?dyVd?$n2ez|eU&qU&qUjvCdvCd,|e?$n2cUDUGcUMd?$yZezz&qq9eSHA3eUc",
   "UMBINcUMUMd?$x4e%7cUNdvCcURdqSURd,|cUR2d?$A&qvDg!$eALevDe$!e^=f&qnFgn_cUR4cURIcURI3cURUd?$AenH",
   "enoeDUNeuPeuTeuX=;euZevAevDewZeIMeISHex*ezVeMINe%7e,;eSIG4e^neU&qvBe^?e_Pc_Pd?$Uc_Qd?$AeySeyUe",
   "=pcUSHXcUSH2cUSHUMXcUTUKIcUZ3d?$x4cUZUc|sd=;d;N?$yUcZAGcZAMXcZE2cZId%YZIcZI3cZIBdKABA=;cZIGcZI",
   "Z2c|^cZU5d?$AcZUBURcZUMcKAP.ELAMITEcAB?$$!cAB2?$AcAMAR?$KUGcDAGx:?$^=&qzucDAG3cr5&q:NcDUB?$,;c",
   "EZEN?$vBe,;cGA2?$m4&qxS&qAenGcGE22cGIGcHUSHcxP?$ANSHEeASH3euuevBevz?$nGezVe%7eSHULe^neUR2cyZ?$",
   "urcLU2,|?$n2d?$s&&qy2e:NcMESHcMUSH3?$|scNA4cNINcNIN9c$V?$BALeurcNU11+v$Yq?cPESH2nJcPIR2c+|?$wZ",
   "vCcTI2cUM?$zzcU.Ub~67~NUMERIC:V^+nFd?5nFduBnFdtpnFd:qnFd,tnFdsMnFd$WnFd?5r5duBr5dtpr5d:qr5d,tr",
   "5dsMr5d$Wr5duBUdtpUd:qUd,tUdsMUd$WUd%Gu7d^+u7d?5u7duBu7dtpu7d:qu7d,tu7dsMu7d$Wu7d%Gu8d^+u8d?5u",
   "8duBu8dtpu8d^+,+d?5,+f_Vt^duB,+dtp,+d:q,+d,t,+dsM,+d$W,+d%G,:d^+,:d?5,:f_Vt^duB,:dtp,:d,+?$uT&",
   "qr5hMINd%Goqd^+oqd?5oqf_Vt^duBoqdtpoqd?5_Vt^ESH16gESH21duB_Vt^LIMMUgLIMMU4gLIMMU.AhBd:q_Vt^ASH",
   "9d,t_Vt^IMIN3gIMIN.AhBdsM_Vt^USSUgUSSU3d$W_Vt^ILIMMUgILIMMU3gILIMMU4gILIMMU.Ad^+nF=;d?5nF=;duB",
   "nF=;dtpnF=;d:qnF=;d%Gnnd^+nnd?5nnduBnnf_Vt^dtpnnf_Vt^dNIGIDAMINdNIGIDAESHd%GESHE3d^+ESHE3d%G?T",
   "r5d^+?Ur5dtpSIXTHSr5d%G?T_Vt^Ad^+?U_Vt^Ad%GsOnFe*5nFd%AASSYRIAN%GSIXTHg*5d%G*5GURevIGURdELAMIT",
   "E%G?Te^+?Uet_etYduBU_Vt^dtpU_Vt^d:qU_Vt^d,tU_Vt^dsMU_Vt^d$WU_Vt^b~2~*U:V%AASSYRIAN|Ir9d_1pwdrN",
   "pweTRICOLONeQUADCOLONb~C~:VAB?$$!=;e:OcAD?$s&cn2?$r5=;cn3?$AB2e$Le|sco6%Yo6?$NA2cq9?$=pcDAG?$y",
   "UcDIM?$wZeU.U.UcDIM2?$^?cr|?$ANSHEenFfnMyreDINeDUNeszeuPeureutvCeuuevDevzewZvCex4eyUeyVf&qx4eL",
   "AK-020ey3f?$yUeLUH&quuezueMESez|e$Le&Ue,;e:QvCcE2?$yUe%ucszXcs&qSs&cEZEN,|?$nFfvzfwZvCfyYfy2fz",
   "zfMESf;td?$;tcGA2?$n3eDIMvCer|?$wZvCgx4eERENeuPeuZ&qrLg!^evD&qAeyV&qx4ey3f?$yUeLUHe!ue!^f&qE2g",
   "ureSHIMeZIZ2cGABA+v$Yq?cGESHTIN?$Ucuu?$uuqSuucGU2?$wZvCcvB&quu?$=pcvD=;vCcvz?$nF%Yvz?$nFcxP?$o",
   "6exPeU.U.UeURcyZ?$|^%Y|^cLAK-003cLAK-021cLAK-025cLAK-030cLAK-050cLAK-051cLAK-062cLAK-079%YLAK-",
   "079vCcLAK-080cLAK-081%YLAK-081cLAK-092cLAK-130cLAK-142cLAK-210cLAK-219cLAK-220cLAK-225cLAK-228",
   "cLAK-238cLAK-265cLAK-266cLAK-343cLAK-347cLAK-348cLAK-383cLAK-384cLAK-390cLAK-441cLAK-449d?$vAe",
   "wZe%u&qzTg%u&qzTe^=&qnUcLAK-450cLAK-457cLAK-470cLAK-483cLAK-490cLAK-492cLAK-493cLAK-495cLAK-55",
   "0cLAK-608cLAK-617d?$nFen2eDUN3vCvCeyTeyYe=ue=!e^=e^?e_PcLAK-636cLAK-648d?$DUBeuPewZfvCe$Le%u&q",
   "%u&qzTeSHESH&qx*e^?e_PcLAK-724cLAK-749cLU2vC?$nFd?$r5eHALe%uf&q%u&qzTe=pcz|&qZA7c!u%Y!u?$uPgxS",
   "c$V?$DIMvCeuueGULevzeKESH2eLAK-050ezue%u&q%ueUf&qUe_Pc+|vC?$vDd?$s3e,;nMyre=pcSHA6=;c,;%Y,;d&q",
   "HUB2eNAM2e,Lc:O&qr|?$$LeE2?$m4c:Q?$=pc=p&q+|cTUM?$uX=;e?5r5cUR2wyd?$^?cURU?$DARA3eLAK-668ezTcZ",
   "A7c|^%Y|^&q,LcZU5?$?5r5=;a~A4D~CYPRO-MINOAN:VCM001cCM002cCM004cCM005cCM006cCM007cCM008cCM009cC",
   "M010cCM011cCM012cCM012BcCM013cCM015cCM017cCM019cCM021cCM023cCM024cCM025cCM026cCM027cCM028cCM02",
   "9cCM030cCM033cCM034cCM035cCM036cCM037cCM038cCM039cCM040cCM041cCM044cCM046cCM047cCM049cCM050cCM",
   "051cCM052cCM053cCM054cCM055cCM056cCM058cCM059cCM060cCM061cCM062cCM063cCM064cCM066cCM067cCM068c",
   "CM069cCM070cCM071cCM072cCM073cCM074cCM075cCM075BcCM076cCM078cCM079cCM080cCM081cCM082cCM083cCM0",
   "84cCM085cCM086cCM087cCM088cCM089cCM090cCM091cCM092cCM094cCM095cCM096cCM097cCM098cCM099cCM100cC",
   "M101cCM102cCM103cCM104cCM105cCM107cCM108cCM109cCM110cCM112cCM114cCM301cCM302a~E~EGYPTIANv!A001",
   "cA002cA003cA004cA005cA005AcA006cA006AcA006BcA007cA008cA009cA010cA011cA012cA013cA014cA014AcA015",
   "cA016cA017cA017AcA018cA019cA020cA021cA022cA023cA024cA025cA026cA027cA028cA029cA030cA031cA032cA0",
   "32AcA033cA034cA035cA036cA037cA038cA039cA040cA040AcA041cA042cA042AcA043cA043AcA044cA045cA045AcA",
   "046cA047cA048cA049cA050cA051cA052cA053cA054cA055cA056cA057cA058cA059cA060cA061cA062cA063cA064c",
   "A065cA066cA067cA068cA069cA070cB001cB002cB003cB004cB005cB005AcB006cB007cB008cB009cC001cC002cC00",
   "2AcC002BcC002CcC003cC004cC005cC006cC007cC008cC009cC010cC010AcC011cC012cC013cC014cC015cC016cC01",
   "7cC018cC019cC020cC021cC022cC023cC024cD001cD002cD003cD004cD005cD006cD007cD008cD008AcD009cD010cD",
   "011cD012cD013cD014cD015cD016cD017cD018cD019cD020cD021cD022cD023cD024cD025cD026cD027cD027AcD028",
   "cD029cD030cD031cD031AcD032cD033cD034cD034AcD035cD036cD037cD038cD039cD040cD041cD042cD043cD044cD",
   "045cD046cD046AcD047cD048cD048AcD049cD050cD050AcD050BcD050CcD050DcD050EcD050FcD050GcD050HcD050I",
   "cD051cD052cD052AcD053cD054cD054AcD055cD056cD057cD058cD059cD060cD061cD062cD063cD064cD065cD066cD",
   "067cD067AcD067BcD067CcD067DcD067EcD067FcD067GcD067HcE001cE002cE003cE004cE005cE006cE007cE008cE0",
   "08AcE009cE009AcE010cE011cE012cE013cE014cE015cE016cE016AcE017cE017AcE018cE019cE020cE020AcE021cE",
   "022cE023cE024cE025cE026cE027cE028cE028AcE029cE030cE031cE032cE033cE034cE034AcE036cE037cE038cF00",
   "1cF001AcF002cF003cF004cF005cF006cF007cF008cF009cF010cF011cF012cF013cF013AcF014cF015cF016cF017c",
   "F018cF019cF020cF021cF021AcF022cF023cF024cF025cF026cF027cF028cF029cF030cF031cF031AcF032cF033cF0",
   "34cF035cF036cF037cF037AcF038cF038AcF039cF040cF041cF042cF043cF044cF045cF045AcF046cF046AcF047cF0",
   "47AcF048cF049cF050cF051cF051AcF051BcF051CcF052cF053cG001cG002cG003cG004cG005cG006cG006AcG007cG",
   "007AcG007BcG008cG009cG010cG011cG011AcG012cG013cG014cG015cG016cG017cG018cG019cG020cG020AcG021cG",
   "022cG023cG024cG025cG026cG026AcG027cG028cG029cG030cG031cG032cG033cG034cG035cG036cG036AcG037cG03",
   "7AcG038cG039cG040cG041cG042cG043cG043AcG044cG045cG045AcG046cG047cG048cG049cG050cG051cG052cG053",
   "cG054cH001cH002cH003cH004cH005cH006cH006AcH007cH008cI001cI002cI003cI004cI005cI005AcI006cI007cI",
   "008cI009cI009AcI010cI010AcI011cI011AcI012cI013cI014cI015cK001cK002cK003cK004cK005cK006cK007cK0",
   "08cL001cL002cL002AcL003cL004cL005cL006cL006AcL007cL008cM001cM001AcM001BcM002cM003cM003AcM004cM",
   "005cM006cM007cM008cM009cM010cM010AcM011cM012cM012AcM012BcM012CcM012DcM012EcM012FcM012GcM012HcM",
   "013cM014cM015cM015AcM016cM016AcM017cM017AcM018cM019cM020cM021cM022cM022AcM023cM024cM024AcM025c",
   "M026cM027cM028cM028AcM029cM030cM031cM031AcM032cM033cM033AcM033BcM034cM035cM036cM037cM038cM039c",
   "M040cM040AcM041cM042cM043cM044cN001cN002cN003cN004cN005cN006cN007cN008cN009cN010cN011cN012cN01",
   "3cN014cN015cN016cN017cN018cN018AcN018BcN019cN020cN021cN022cN023cN024cN025cN025AcN026cN027cN028",
   "cN029cN030cN031cN032cN033cN033AcN034cN034AcN035cN035AcN036cN037cN037AcN038cN039cN040cN041cN042",
   "cNL001cNL002cNL003cNL004cNL005cNL005AcNL006cNL007cNL008cNL009cNL010cNL011cNL012cNL013cNL014cNL",
   "015cNL016cNL017cNL017AcNL018cNL019cNL020cNU001cNU002cNU003cNU004cNU005cNU006cNU007cNU008cNU009",
   "cNU010cNU010AcNU011cNU011AcNU012cNU013cNU014cNU015cNU016cNU017cNU018cNU018AcNU019cNU020cNU021c",
   "NU022cNU022AcO001cO001AcO002cO003cO004cO005cO005AcO006cO006AcO006BcO006CcO006DcO006EcO006FcO00",
   "7cO008cO009cO010cO010AcO010BcO010CcO011cO012cO013cO014cO015cO016cO017cO018cO019cO019AcO020cO02",
   "0AcO021cO022cO023cO024cO024AcO025cO025AcO026cO027cO028cO029cO029AcO030cO030AcO031cO032cO033cO0",
   "33AcO034cO035cO036cO036AcO036BcO036CcO036DcO037cO038cO039cO040cO041cO042cO043cO044cO045cO046cO",
   "047cO048cO049cO050cO050AcO050BcO051cP001cP001AcP002cP003cP003AcP004cP005cP006cP007cP008cP009cP",
   "010cP011cQ001cQ002cQ003cQ004cQ005cQ006cQ007cR001cR002cR002AcR003cR003AcR003BcR004cR005cR006cR0",
   "07cR008cR009cR010cR010AcR011cR012cR013cR014cR015cR016cR016AcR017cR018cR019cR020cR021cR022cR023",
   "cR024cR025cR026cR027cR028cR029cS001cS002cS002AcS003cS004cS005cS006cS006AcS007cS008cS009cS010cS",
   "011cS012cS013cS014cS014AcS014BcS015cS016cS017cS017AcS018cS019cS020cS021cS022cS023cS024cS025cS0",
   "26cS026AcS026BcS027cS028cS029cS030cS031cS032cS033cS034cS035cS035AcS036cS037cS038cS039cS040cS04",
   "1cS042cS043cS044cS045cS046cT001cT002cT003cT003AcT004cT005cT006cT007cT007AcT008cT008AcT009cT009",
   "AcT010cT011cT011AcT012cT013cT014cT015cT016cT016AcT017cT018cT019cT020cT021cT022cT023cT024cT025c",
   "T026cT027cT028cT029cT030cT031cT032cT032AcT033cT033AcT034cT035cT036cU001cU002cU003cU004cU005cU0",
   "06cU006AcU006BcU007cU008cU009cU010cU011cU012cU013cU014cU015cU016cU017cU018cU019cU020cU021cU022",
   "cU023cU023AcU024cU025cU026cU027cU028cU029cU029AcU030cU031cU032cU032AcU033cU034cU035cU036cU037c",
   "U038cU039cU040cU041cU042cV001cV001AcV001BcV001CcV001DcV001EcV001FcV001GcV001HcV001IcV002cV002A",
   "cV003cV004cV005cV006cV007cV007AcV007BcV008cV009cV010cV011cV011AcV011BcV011CcV012cV012AcV012BcV",
   "013cV014cV015cV016cV017cV018cV019cV020cV020AcV020BcV020CcV020DcV020EcV020FcV020GcV020HcV020IcV",
   "020JcV020KcV020LcV021cV022cV023cV023AcV024cV025cV026cV027cV028cV028AcV029cV029AcV030cV030AcV03",
   "1cV031AcV032cV033cV033AcV034cV035cV036cV037cV037AcV038cV039cV040cV040AcW001cW002cW003cW003AcW0",
   "04cW005cW006cW007cW008cW009cW009AcW010cW010AcW011cW012cW013cW014cW014AcW015cW016cW017cW017AcW0",
   "18cW018AcW019cW020cW021cW022cW023cW024cW024AcW025cX001cX002cX003cX004cX004AcX004BcX005cX006cX0",
   "06AcX007cX008cX008AcY001cY001AcY002cY003cY004cY005cY006cY007cY008cZ001cZ002cZ002AcZ002BcZ002Cc",
   "Z002DcZ003cZ003AcZ003BcZ004cZ004AcZ005cZ005AcZ006cZ007cZ008cZ009cZ010cZ011cZ012cZ013cZ014cZ015",
   "cZ015AcZ015BcZ015CcZ015DcZ015EcZ015FcZ015GcZ015HcZ015IcZ016cZ016AcZ016BcZ016CcZ016DcZ016EcZ016",
   "FcZ016GcZ016HcAA001cAA002cAA003cAA004cAA005cAA006cAA007cAA007AcAA007BcAA008cAA009cAA010cAA011c",
   "AA012cAA013cAA014cAA015cAA016cAA017cAA018cAA019cAA020cAA021cAA022cAA023cAA024cAA025cAA026cAA02",
   "7cAA028cAA029cAA030cAA031cAA032c~2~_1xJcv|xJcINSERTnM^G;2eoU;2e^Gs7eoUs7c%3!Dcn!,4cs7,4a~FC8~A",
   "NATOLIANv!A001cA002cA003cA004cA005cA006cA007cA008cA009cA010cA010AcA011cA012cA013cA014cA015cA01",
   "6cA017cA018cA019cA020cA021cA022cA023cA024cA025cA026cA026AcA027cA028cA029cA030cA031cA032cA033cA",
   "034cA035cA036cA037cA038cA039cA039AcA040cA041cA041AcA042cA043cA044cA045cA045AcA046cA046AcA046Bc",
   "A047cA048cA049cA050cA051cA052cA053cA054cA055cA056cA057cA058cA059cA060cA061cA062cA063cA064cA065",
   "cA066cA066AcA066BcA066CcA067cA068cA069cA070cA071cA072cA073cA074cA075cA076cA077cA078cA079cA080c",
   "A081cA082cA083cA084cA085cA086cA087cA088cA089cA090cA091cA092cA093cA094cA095cA096cA097cA097AcA09",
   "8cA098AcA099cA100cA100AcA101cA101AcA102cA102AcA103cA104cA104AcA104BcA104CcA105cA105AcA105BcA10",
   "6cA107cA107AcA107BcA107CcA108cA109cA110cA110AcA110BcA111cA112cA113cA114cA115cA115AcA116cA117cA",
   "118cA119cA120cA121cA122cA123cA124cA125cA125AcA126cA127cA128cA129cA130cA131cA132cA133cA134cA135",
   "cA135AcA136cA137cA138cA139cA140cA141cA142cA143cA144cA145cA146cA147cA148cA149cA150cA151cA152cA1",
   "53cA154cA155cA156cA157cA158cA159cA160cA161cA162cA163cA164cA165cA166cA167cA168cA169cA170cA171cA",
   "172cA173cA174cA175cA176cA177cA178cA179cA180cA181cA182cA183cA184cA185cA186cA187cA188cA189cA190c",
   "A191cA192cA193cA194cA195cA196cA197cA198cA199cA200cA201cA202cA202AcA202BcA203cA204cA205cA206cA2",
   "07cA207AcA208cA209cA209AcA210cA211cA212cA213cA214cA215cA215AcA216cA216AcA217cA218cA219cA220cA2",
   "21cA222cA223cA224cA225cA226cA227cA227AcA228cA229cA230cA231cA232cA233cA234cA235cA236cA237cA238c",
   "A239cA240cA241cA242cA243cA244cA245cA246cA247cA248cA249cA250cA251cA252cA253cA254cA255cA256cA257",
   "cA258cA259cA260cA261cA262cA263cA264cA265cA266cA267cA267AcA268cA269cA270cA271cA272cA273cA274cA2",
   "75cA276cA277cA278cA279cA280cA281cA282cA283cA284cA285cA286cA287cA288cA289cA289AcA290cA291cA292c",
   "A293cA294cA294AcA295cA296cA297cA298cA299cA299AcA300cA301cA302cA303cA304cA305cA306cA307cA308cA3",
   "09cA309AcA310cA311cA312cA313cA314cA315cA316cA317cA318cA319cA320cA321cA322cA323cA324cA325cA326c",
   "A327cA328cA329cA329AcA330cA331cA332AcA332BcA332CcA333cA334cA335cA336cA336AcA336BcA336CcA337cA3",
   "38cA339cA340cA341cA342cA343cA344cA345cA346cA347cA348cA349cA350cA351cA352cA353cA354cA355cA356cA",
   "357cA358cA359cA359AcA360cA361cA362cA363cA364cA364AcA365cA366cA367cA368cA368AcA369cA370cA371cA3",
   "71AcA372cA373cA374cA375cA376cA377cA378cA379cA380cA381cA381AcA382cA383*n%P+JcA383AcA384cA385cA3",
   "86cA386AcA387cA388cA389cA390cA391cA392cA393sMcA394cA395cA396cA397cA398cA399cA400cA401cA402cA40",
   "3cA404cA405cA406cA407cA408cA409cA410n!zIzqcA410As7zIzqcA411cA412cA413cA414cA415cA416cA417cA418",
   "cA419cA420cA421cA422cA423cA424cA425cA426cA427cA428cA429cA430cA431cA432cA433cA434cA435cA436cA43",
   "7cA438cA439cA440cA441cA442cA443cA444cA445cA446cA447cA448cA449cA450cA450AcA451cA452cA453cA454cA",
   "455cA456cA457cA457AcA458cA459cA460cA461cA462cA463cA464cA465cA466cA467cA468cA469cA470cA471cA472",
   "cA473cA474cA475cA476cA477cA478cA479cA480cA481cA482cA483cA484cA485cA486cA487cA488cA489cA490cA49",
   "1cA492cA493cA494cA495cA496cA497cA501cA502cA503cA504cA505cA506cA507cA508cA509cA510cA511cA512cA5",
   "13cA514cA515cA516cA517cA518cA519cA520cA521cA522cA523cA524cA525cA526cA527cA528cA529cA530a~21BA~",
   "BAMUMy&PHASE-A.NGKUEz^dGBIEE.FONdPONz^&9fPIPAEMBAd!%z^dSHUENSHUETdTITAz^dNZAz^dSHINDA%7NJIdPON",
   "%7NJI&9gPIPAEMBAdMAEMBGBIEEd^nz1dNGANGUdMAEMVEUXdMANSUAEdMVEUAENGAMdSEUNYAMdNTOQPENdKEUKEUTNDA",
   "dNKINDIdSUUdNGKUENZEUMdLAPAQdLET.KUTdNTAP.MFAAdMAEKEUPdPASHAEdGHEUAERAEdPAMSHAEd!WNGGEUAETdNZU",
   "N.MEUTdU.YUQ.NAEdGHEUAEGHEUAEdNTAP.NTAAdSISAdMGBASAdMEUNJOMNDEUQdMOOMPUQdKAFAd%7yqd!=yqdPETdMA",
   "EMKPENdNIKAdPUPdTUAEPdLUAEPdSONJAMdTEUTEUWENdMAENYIdxsdNDAANGGEUAETdKUOQdMOOMEUTdSHUMdLOMMAEdF",
   "IRIdROMdKPOQdSOQdMAP.PIEETdSHIRAEdNTAPdSHOQ.NSHUT.YUMdNYIT.MONGKEUAEQdPAARAEdNKAARAEdUNKNOWNdN",
   "GGENdMAESIdNJAMdMBANYIdNYETdTEUAENdSOTdPAAMdNSHIEEdMAEMd$%dKAQdNSHAd_0dzSdNENdNAQdMBAQcPHASE-B",
   ".NSHUETd^nMAEMGBIEEdSIEEd,s^ndLOM$tdMBA.MAELEEdKIEEMdYEURAEdMBAARAEdKAMdPEESHIdYAFUyqdy3NSHUT.",
   "NYAMdNTIEE.SHEUOQdNDU.NJAAdGHEUGHEUAEMdPITd^nNSIEEdSHET.NJAQdSHEUAEQTUdz^TEUAEQdMBIT.MBAAKETd$",
   "%$tdKEUPUQdGHEUGHENdKEUYEUXdLAANAEdPARUMdVEUMdNGKINDI.MVOPdNGGEU.MBUdWUAETdSAKEUAEdTAAMdMEUQdN",
   "GGUOQey7dMFIYAQdSUEdMBEURIdMONTIEENdNYAEMAEdPUNGAAMdMEUT.NGGEETdFEUXdMBUOQdtQdKEUAEMdzXNJEUAEN",
   "AeNJUQAdLETdNGGAAMdNSENdzXdKIQdNGOMcPHASE-C.NGKUEz1dNZAdYUMdWANGKUOQdNGGENdNDEUAEREEdNGKAQdGHA",
   "RAEdMBEEKEETdGBAYIdNYIR.MKPARAQ.MEUNdNTU.MBITdMBEUMdPIRIEENdNDOMBUdzwCABBAGE-TREEdKEUSHEUAEPdG",
   "HAPdKEUKAQd|qMUOMAEdNZEUMdMBUEdNSEUAENdMBITdYEUQdKPARAQdKAAdSEUXdNDIDAdTAASHAEdNJUEQdTITA.YUEd",
   "SUAETdNGGUAEN.NYAMdVEUXdNANSANAQdzXKEUAERIdNTAAdNGGUONdLAPdMBIRIEENdMGBASAQdNTEUNGBAdTEUTEUXdN",
   "GGUMdFUEdNDEUTdNSAdNSHAQdBUNGdVEUAEPENdMBERAEd++dNJAEMdy3dTITUAEPdNSUOT.NGOMdNJEEEEdxsdNGGUdMA",
   "ESIdMBUAEMdzSdKUTdNJAMdNGOMdWUPdNGGUEETdNSOMdNTENdKUOP.NKAARAEdNSUNdNDAMdzXNSIEEd|RdNDAPdSHUEQ",
   "dSETFONdMBIdz1dMBANYIdKEUSEUXdMBEUXdKEUMdzwPICKETdYUWOQdNJEUXdMIEEdMUAEdSHIQdKEN.LAWeFATIGUEdN",
   "GAQdNAQdLIQdPINd&Cd=_cPHASE-D.MBUOdWAPdNJIdz^dNJIEEdLIEEdNJEUTdNSHEEdNGGAAMAEdNYAMdWUAENdNGKUN",
   "d,=dNGKAPdKEUAETMEUNdTEUTdSHEUAEdNJAPdSUEdxsdYAEMMAEdKUOMdSAPdMFEUTdNDEUXdMALEERIdMEUTdSEUAEQd",
   "YENdNJEUAEMdKEUOT.MBUAEdNGKEURId^ndGHAAdNGKYEEdFEUFEUAETdNDEEdMGBOFUMdLEUAEPdNDONdMONIdMGBEUNd",
   "PUUTdMGBIEEdMFOdzVdNSIEEPdzwdKWAETdNYETdTEUAENdSOTdYUWOQdKEUMdRAEMdTEEEEdNGKEUAEQdMFEUAEdNSIEE",
   "TdKEUPdPIPdPEUTAEdNYUEdLETdNGGAAMdMFIEEdNGGWAENdYUOMd%udYUOPdNDAMd$tdSUAEdKUNdNGGEUXdNGKIEEdTU",
   "OTdMEUNdKUQdNSUMdTEUNdMAENJETdNGGAPdLEUMdNGGUOMdNSHUTdNJUEQdGHEUAEdySdREN%AdTAEdTOQd$%dRIIdLEE",
   "EEdMEEEEdMdSUUd!pd:EdSHEUXdyXd$ud:NdNTEEd&Ad$LdSHOQdPUQdMVOPdLOQdREN.MUCHd?mdNTUUdzw,tdSAQdFAA",
   "cPHASE-E.NDAPdTOONdMBEUMdLAPdVOMdLOONdPAAdSOMdRAQdNSHUOPdNDUNdPUAEd=sdNGKAdKPEUXdWUOd,2dNGGEUA",
   "ETdPAAMd^EdKUOPdLOMdNSHIEEdNGOPdMAEMdNGKEUXdNGOQdNSHUEdRIMGBAdNJEUXdPEEMdSAAdNGGURAEdMGBAdGHEU",
   "XdNGKEUAEMdNJAEMLIdMAPdLOOTdNGGEEEEdNDIQdTAEN$td,sdPUMd!?SOFTNESSdNGGUAESHAE.NYAMdYIEEdGHEUNdT",
   "UAEdYEUAEd&rdTUMAEdKEUAEdSUAENdTEUAEQdVEUAEdWEUXdLAAMd*TdTAAQdGHAAMAEdNGEUREUTdSHEUAEQdMGBENdz",
   "xdNZAQdNKOMdGBETdTUMdKUETdYAPd$%CLEAVERdYITdMFEUQdNDIAQdPIEEQdYUEQdLEUAEMdFUEdGBEUXdNGKUPdxsdM",
   "AEdNGKAAMIdGHETdtHdNTUMdPEUTdYEUMdNGGEUAEd$%n?dNZUQdPOONdMIEEdFUETdNAEdMUAEdGHEUAEdFU.IdMVIdPU",
   "AQdNGKUMdKUTdPIETdNTAPdYEUAETdNGGUPd%7PEOPLEdFU.CALLdFOMd$1dAdTOQdOdIdLAQd%7PLURALd=6dTAQd!?MY",
   "wDdSHIQdYEUXdNGUAEdYUAENdYOQ.SWIMMINGeCOVERdYUQdYUNdKEUXdPEUXd$1EPOCHdPUEdWUEdtQd_0dzSdz|dREUX",
   "d*pdNGUAETd$Gd:HdSHOQdFU.REMEDYd!$d&UdLOQdyHdz?dzXdMAQdTEUdx*d!Wd=:dFAQdGHOMcPHASE-FxPdUdySdsK",
   "dREEdTAEd$%dyYdRIIdRIEEdMEEEEd=6d!?dNJAEMdMdSUUd:Ed:QdSEUXdyXdxsdNUAEd$udNJUAEdYOQd:Nd|QdNSHAd",
   "PEUXdNTEEdWUEd&Ad++d$LdREUXdKENdNGKWAENd$Id:HdPUAEdFOMd_rdy,dLOQdyHdMBENdRENdzXd!Odzwd=_dKPAdS",
   "AMBAdVUEQa~8~MROy&=5cNGIc|mcMIMcnUcq9cAc&QcKHAIcHAOcDAIcCHUcKEAAEcOLcMAEMcNINc%7c%IcOc+oc:BcTH",
   "EAcEAc_rcEcyHcLANcyYcHAIc+JcTEKb~2~rW|%c%Gc^+c?5cuBctpc:qc,tcsMc$Wb~5~qubr!quaTANGSAy&OZcOCcOQ",
   "cOXcAZcACcAQcAXcVZcVCcVQcVXcEZcECcEQcEXcIZcICcIQcIXcUZcUCcUQcUXcAWZcAWCcAWQcAWXcUIZcUICcUIQcUI",
   "Xct3$FczJUEXc:KUEZdAWXcUECcUEZcUEQcUEXcUIUZcUIUCcUIUQcUIUXcMZcMCcMQcMXcxPcxvcuPc$Gc+=c|Qc_rc%7",
   "c$$c&NcnUczXc!$cvDcyYcHTAc=5cq9c*nc$Kc,wcoxc^3cumcHTTAc?Ec|NctHcrKcpHc|sb~2~rW|%c%Gc^+c?5cuBct",
   "pc:qc,tcsMc$Wa~7~nvVAHy&ENNIdxPd,XdtHdMBEdYIEdGAHdDHIIdKPAHdxGdHWAHd_rd|?dGBUdrpdCEdUWUd?+dnUd",
   "VUdYEINd%7dWADDAdAdOd%IdUdsKdEdIc~3~pxv%?:dzO?:d!B?:dLOW-MID?:dHIGH-LOW?:cuL;8a~B~PAHAWH.HMONG",
   "_nKEEBdKEEVdKIBdKIVdKAUBdKAUVdKUBdKUVdKEBdKEVdKAIBdKAIVdKOOBdKOOVdKAWBdKAWVdKUABdKUAVdKOBdKOVd",
   "KIABdKIAVdKABdKAVdKWBdKWVdKAABdKAAVcp;VAUdNTSAUdLAUdHAUdNLAUdRAUdNKAUdQHAUdYAUdHLAUdMAUdCHAUdN",
   "CHAUdHNAUdPLHAUdNTHAUdNAUdnPdXAUdCAUczqCIM.TUBe:=eKESeKHAVeSUAMeHOMeTAUMc:VVOS.THOMeTSHAB.CEEB",
   "dCIM.CHEEMdVOS.THIABeFEEMdXYEEM.NTXIVe+IeTOVeFAIBdVOS.SEEVdMEEJ.SUABdVOS.NRUAdIB.YAMdXAUSdCIM.",
   "TSOV.ROGc~B~rW|%d%Gd^+d?5duBdtpd:qd,tdsMd$Wc~2~$xTENSdwHd=:?3d!LdwG!Ld=:BILLIONSdTRILLIONSc~2~",
   ":VVOS.LUBdXYOOdHLIdTHIRD-STAGE.HLIdZWJ.THAJdHNUBdNQIGdXIABdNTUJdAVdTXHEEJ.CEEVdMEEJ.TSEEBd=xdL",
   "OSdMUSdCIM.HAIS.LUS.NTOG.NTOGeCUAM.TSHOOJeTXWVfCHWVePUB.DAWBeNRES.TOSc~6~CLAN:VTSHEEJeYEEGeLIS",
   "eLAUJeXYOOJeKOOeHAWJeMUASeTHOJeTSABePHABeKHABeHAMeVAJeFAJeYAJeTSWBeKWMeVWJa~2B1~z*o,y&MdSdVdWd",
   "ATIUdZdKPdPdTdGdFdIdKdAdJdEdBdCdUd|qdLdQdHPdNYdXdDd$=dNdRdOdmPdYb:*y&MdSdVdWdATIUdZdKPdPdTdGdF",
   "dIdKdAdJdEdBdCdUd|qdLdQdHPdNYdXdDd$=dNdRdOdmPdYbrW|%c%Gc^+c?5cuBctpc:qc,tcsMc$Wb$x=:csXc^vc?Vc",
   "uCctWc:rc,ucsNc$XbrW%Gm0t^c^+m0t^c?5m0t^bpybuL;8b=MAIVAbs?OHa~66~MIAOy&%7cnUc|7%7cPLAczXcMHAcm",
   "*zXctHc_ScVFAc=5cq9c|7^8d=5c^8cq$c!$c$Kc|7$2cm*!$c$2cNNHAcyYcLYAcy+cLHYAcTLHAcDLHAcTLHYAcDLHYA",
   "cxPcuPc|7xPc*YcQGAc$GcNGHAcm*$GcvDc|NcumcGHHAcTSSAcDZZAc$$cNYHAc^5csFc|7^5dsFc*+^5c,wc;Qc|*cZS",
   "HAc^3csCc|7^3c+=c|scZSAcZZAcZZSAcm*ZZAcZZYAcZZSYAc_rcmOcvycBRIcSYIcDZYIc=!c^4cRTEb~5~:Vp;!Qnob",
   "y&!:b:VnIc*+VOICINGdnIb_n:VAdmBdAHHdm4dm6dOd%Id|EdWdEds3ds8dOEYdIdIAdIANdIANGdIOdwWdw0dIUdINGd",
   "UdUAdUANdUANGd_RdUEIdUNGdYd|7dmJdAEEdERRd+$ERRdsyd+$sydmPdEIdnPdOUdNd$FdUOGdYUIdOGdOERdVWdIGdE",
   "AdIONGdUIb~8~?:+3c^G+3cmEcn&by&?=c??c?^c?_c?|c^Ac^Bc*+?;d?=d?^d?_d?|d^Ba~41~TANGUTw,zqaNUSHUw,",
   "zqa%ACHINESEv?zqcw,zqaKHITAN:*,Wt2a~C~VIETNAMESEm0READINGzqoxeNHAYa~180F~TANGUT.COMPONENT-001b",
   "COMPONENT-002bCOMPONENT-003bCOMPONENT-004bCOMPONENT-005bCOMPONENT-006bCOMPONENT-007bCOMPONENT-",
   "008bCOMPONENT-009bCOMPONENT-010bCOMPONENT-011bCOMPONENT-012bCOMPONENT-013bCOMPONENT-014bCOMPON",
   "ENT-015bCOMPONENT-016bCOMPONENT-017bCOMPONENT-018bCOMPONENT-019bCOMPONENT-020bCOMPONENT-021bCO",
   "MPONENT-022bCOMPONENT-023bCOMPONENT-024bCOMPONENT-025bCOMPONENT-026bCOMPONENT-027bCOMPONENT-02",
   "8bCOMPONENT-029bCOMPONENT-030bCOMPONENT-031bCOMPONENT-032bCOMPONENT-033bCOMPONENT-034bCOMPONEN",
   "T-035bCOMPONENT-036bCOMPONENT-037bCOMPONENT-038bCOMPONENT-039bCOMPONENT-040bCOMPONENT-041bCOMP",
   "ONENT-042bCOMPONENT-043bCOMPONENT-044bCOMPONENT-045bCOMPONENT-046bCOMPONENT-047bCOMPONENT-048b",
   "COMPONENT-049bCOMPONENT-050bCOMPONENT-051bCOMPONENT-052bCOMPONENT-053bCOMPONENT-054bCOMPONENT-",
   "055bCOMPONENT-056bCOMPONENT-057bCOMPONENT-058bCOMPONENT-059bCOMPONENT-060bCOMPONENT-061bCOMPON",
   "ENT-062bCOMPONENT-063bCOMPONENT-064bCOMPONENT-065bCOMPONENT-066bCOMPONENT-067bCOMPONENT-068bCO",
   "MPONENT-069bCOMPONENT-070bCOMPONENT-071bCOMPONENT-072bCOMPONENT-073bCOMPONENT-074bCOMPONENT-07",
   "5bCOMPONENT-076bCOMPONENT-077bCOMPONENT-078bCOMPONENT-079bCOMPONENT-080bCOMPONENT-081bCOMPONEN",
   "T-082bCOMPONENT-083bCOMPONENT-084bCOMPONENT-085bCOMPONENT-086bCOMPONENT-087bCOMPONENT-088bCOMP",
   "ONENT-089bCOMPONENT-090bCOMPONENT-091bCOMPONENT-092bCOMPONENT-093bCOMPONENT-094bCOMPONENT-095b",
   "COMPONENT-096bCOMPONENT-097bCOMPONENT-098bCOMPONENT-099bCOMPONENT-100bCOMPONENT-101bCOMPONENT-",
   "102bCOMPONENT-103bCOMPONENT-104bCOMPONENT-105bCOMPONENT-106bCOMPONENT-107bCOMPONENT-108bCOMPON",
   "ENT-109bCOMPONENT-110bCOMPONENT-111bCOMPONENT-112bCOMPONENT-113bCOMPONENT-114bCOMPONENT-115bCO",
   "MPONENT-116bCOMPONENT-117bCOMPONENT-118bCOMPONENT-119bCOMPONENT-120bCOMPONENT-121bCOMPONENT-12",
   "2bCOMPONENT-123bCOMPONENT-124bCOMPONENT-125bCOMPONENT-126bCOMPONENT-127bCOMPONENT-128bCOMPONEN",
   "T-129bCOMPONENT-130bCOMPONENT-131bCOMPONENT-132bCOMPONENT-133bCOMPONENT-134bCOMPONENT-135bCOMP",
   "ONENT-136bCOMPONENT-137bCOMPONENT-138bCOMPONENT-139bCOMPONENT-140bCOMPONENT-141bCOMPONENT-142b",
   "COMPONENT-143bCOMPONENT-144bCOMPONENT-145bCOMPONENT-146bCOMPONENT-147bCOMPONENT-148bCOMPONENT-",
   "149bCOMPONENT-150bCOMPONENT-151bCOMPONENT-152bCOMPONENT-153bCOMPONENT-154bCOMPONENT-155bCOMPON",
   "ENT-156bCOMPONENT-157bCOMPONENT-158bCOMPONENT-159bCOMPONENT-160bCOMPONENT-161bCOMPONENT-162bCO",
   "MPONENT-163bCOMPONENT-164bCOMPONENT-165bCOMPONENT-166bCOMPONENT-167bCOMPONENT-168bCOMPONENT-16",
   "9bCOMPONENT-170bCOMPONENT-171bCOMPONENT-172bCOMPONENT-173bCOMPONENT-174bCOMPONENT-175bCOMPONEN",
   "T-176bCOMPONENT-177bCOMPONENT-178bCOMPONENT-179bCOMPONENT-180bCOMPONENT-181bCOMPONENT-182bCOMP",
   "ONENT-183bCOMPONENT-184bCOMPONENT-185bCOMPONENT-186bCOMPONENT-187bCOMPONENT-188bCOMPONENT-189b",
   "COMPONENT-190bCOMPONENT-191bCOMPONENT-192bCOMPONENT-193bCOMPONENT-194bCOMPONENT-195bCOMPONENT-",
   "196bCOMPONENT-197bCOMPONENT-198bCOMPONENT-199bCOMPONENT-200bCOMPONENT-201bCOMPONENT-202bCOMPON",
   "ENT-203bCOMPONENT-204bCOMPONENT-205bCOMPONENT-206bCOMPONENT-207bCOMPONENT-208bCOMPONENT-209bCO",
   "MPONENT-210bCOMPONENT-211bCOMPONENT-212bCOMPONENT-213bCOMPONENT-214bCOMPONENT-215bCOMPONENT-21",
   "6bCOMPONENT-217bCOMPONENT-218bCOMPONENT-219bCOMPONENT-220bCOMPONENT-221bCOMPONENT-222bCOMPONEN",
   "T-223bCOMPONENT-224bCOMPONENT-225bCOMPONENT-226bCOMPONENT-227bCOMPONENT-228bCOMPONENT-229bCOMP",
   "ONENT-230bCOMPONENT-231bCOMPONENT-232bCOMPONENT-233bCOMPONENT-234bCOMPONENT-235bCOMPONENT-236b",
   "COMPONENT-237bCOMPONENT-238bCOMPONENT-239bCOMPONENT-240bCOMPONENT-241bCOMPONENT-242bCOMPONENT-",
   "243bCOMPONENT-244bCOMPONENT-245bCOMPONENT-246bCOMPONENT-247bCOMPONENT-248bCOMPONENT-249bCOMPON",
   "ENT-250bCOMPONENT-251bCOMPONENT-252bCOMPONENT-253bCOMPONENT-254bCOMPONENT-255bCOMPONENT-256bCO",
   "MPONENT-257bCOMPONENT-258bCOMPONENT-259bCOMPONENT-260bCOMPONENT-261bCOMPONENT-262bCOMPONENT-26",
   "3bCOMPONENT-264bCOMPONENT-265bCOMPONENT-266bCOMPONENT-267bCOMPONENT-268bCOMPONENT-269bCOMPONEN",
   "T-270bCOMPONENT-271bCOMPONENT-272bCOMPONENT-273bCOMPONENT-274bCOMPONENT-275bCOMPONENT-276bCOMP",
   "ONENT-277bCOMPONENT-278bCOMPONENT-279bCOMPONENT-280bCOMPONENT-281bCOMPONENT-282bCOMPONENT-283b",
   "COMPONENT-284bCOMPONENT-285bCOMPONENT-286bCOMPONENT-287bCOMPONENT-288bCOMPONENT-289bCOMPONENT-",
   "290bCOMPONENT-291bCOMPONENT-292bCOMPONENT-293bCOMPONENT-294bCOMPONENT-295bCOMPONENT-296bCOMPON",
   "ENT-297bCOMPONENT-298bCOMPONENT-299bCOMPONENT-300bCOMPONENT-301bCOMPONENT-302bCOMPONENT-303bCO",
   "MPONENT-304bCOMPONENT-305bCOMPONENT-306bCOMPONENT-307bCOMPONENT-308bCOMPONENT-309bCOMPONENT-31",
   "0bCOMPONENT-311bCOMPONENT-312bCOMPONENT-313bCOMPONENT-314bCOMPONENT-315bCOMPONENT-316bCOMPONEN",
   "T-317bCOMPONENT-318bCOMPONENT-319bCOMPONENT-320bCOMPONENT-321bCOMPONENT-322bCOMPONENT-323bCOMP",
   "ONENT-324bCOMPONENT-325bCOMPONENT-326bCOMPONENT-327bCOMPONENT-328bCOMPONENT-329bCOMPONENT-330b",
   "COMPONENT-331bCOMPONENT-332bCOMPONENT-333bCOMPONENT-334bCOMPONENT-335bCOMPONENT-336bCOMPONENT-",
   "337bCOMPONENT-338bCOMPONENT-339bCOMPONENT-340bCOMPONENT-341bCOMPONENT-342bCOMPONENT-343bCOMPON",
   "ENT-344bCOMPONENT-345bCOMPONENT-346bCOMPONENT-347bCOMPONENT-348bCOMPONENT-349bCOMPONENT-350bCO",
   "MPONENT-351bCOMPONENT-352bCOMPONENT-353bCOMPONENT-354bCOMPONENT-355bCOMPONENT-356bCOMPONENT-35",
   "7bCOMPONENT-358bCOMPONENT-359bCOMPONENT-360bCOMPONENT-361bCOMPONENT-362bCOMPONENT-363bCOMPONEN",
   "T-364bCOMPONENT-365bCOMPONENT-366bCOMPONENT-367bCOMPONENT-368bCOMPONENT-369bCOMPONENT-370bCOMP",
   "ONENT-371bCOMPONENT-372bCOMPONENT-373bCOMPONENT-374bCOMPONENT-375bCOMPONENT-376bCOMPONENT-377b",
   "COMPONENT-378bCOMPONENT-379bCOMPONENT-380bCOMPONENT-381bCOMPONENT-382bCOMPONENT-383bCOMPONENT-",
   "384bCOMPONENT-385bCOMPONENT-386bCOMPONENT-387bCOMPONENT-388bCOMPONENT-389bCOMPONENT-390bCOMPON",
   "ENT-391bCOMPONENT-392bCOMPONENT-393bCOMPONENT-394bCOMPONENT-395bCOMPONENT-396bCOMPONENT-397bCO",
   "MPONENT-398bCOMPONENT-399bCOMPONENT-400bCOMPONENT-401bCOMPONENT-402bCOMPONENT-403bCOMPONENT-40",
   "4bCOMPONENT-405bCOMPONENT-406bCOMPONENT-407bCOMPONENT-408bCOMPONENT-409bCOMPONENT-410bCOMPONEN",
   "T-411bCOMPONENT-412bCOMPONENT-413bCOMPONENT-414bCOMPONENT-415bCOMPONENT-416bCOMPONENT-417bCOMP",
   "ONENT-418bCOMPONENT-419bCOMPONENT-420bCOMPONENT-421bCOMPONENT-422bCOMPONENT-423bCOMPONENT-424b",
   "COMPONENT-425bCOMPONENT-426bCOMPONENT-427bCOMPONENT-428bCOMPONENT-429bCOMPONENT-430bCOMPONENT-",
   "431bCOMPONENT-432bCOMPONENT-433bCOMPONENT-434bCOMPONENT-435bCOMPONENT-436bCOMPONENT-437bCOMPON",
   "ENT-438bCOMPONENT-439bCOMPONENT-440bCOMPONENT-441bCOMPONENT-442bCOMPONENT-443bCOMPONENT-444bCO",
   "MPONENT-445bCOMPONENT-446bCOMPONENT-447bCOMPONENT-448bCOMPONENT-449bCOMPONENT-450bCOMPONENT-45",
   "1bCOMPONENT-452bCOMPONENT-453bCOMPONENT-454bCOMPONENT-455bCOMPONENT-456bCOMPONENT-457bCOMPONEN",
   "T-458bCOMPONENT-459bCOMPONENT-460bCOMPONENT-461bCOMPONENT-462bCOMPONENT-463bCOMPONENT-464bCOMP",
   "ONENT-465bCOMPONENT-466bCOMPONENT-467bCOMPONENT-468bCOMPONENT-469bCOMPONENT-470bCOMPONENT-471b",
   "COMPONENT-472bCOMPONENT-473bCOMPONENT-474bCOMPONENT-475bCOMPONENT-476bCOMPONENT-477bCOMPONENT-",
   "478bCOMPONENT-479bCOMPONENT-480bCOMPONENT-481bCOMPONENT-482bCOMPONENT-483bCOMPONENT-484bCOMPON",
   "ENT-485bCOMPONENT-486bCOMPONENT-487bCOMPONENT-488bCOMPONENT-489bCOMPONENT-490bCOMPONENT-491bCO",
   "MPONENT-492bCOMPONENT-493bCOMPONENT-494bCOMPONENT-495bCOMPONENT-496bCOMPONENT-497bCOMPONENT-49",
   "8bCOMPONENT-499bCOMPONENT-500bCOMPONENT-501bCOMPONENT-502bCOMPONENT-503bCOMPONENT-504bCOMPONEN",
   "T-505bCOMPONENT-506bCOMPONENT-507bCOMPONENT-508bCOMPONENT-509bCOMPONENT-510bCOMPONENT-511bCOMP",
   "ONENT-512bCOMPONENT-513bCOMPONENT-514bCOMPONENT-515bCOMPONENT-516bCOMPONENT-517bCOMPONENT-518b",
   "COMPONENT-519bCOMPONENT-520bCOMPONENT-521bCOMPONENT-522bCOMPONENT-523bCOMPONENT-524bCOMPONENT-",
   "525bCOMPONENT-526bCOMPONENT-527bCOMPONENT-528bCOMPONENT-529bCOMPONENT-530bCOMPONENT-531bCOMPON",
   "ENT-532bCOMPONENT-533bCOMPONENT-534bCOMPONENT-535bCOMPONENT-536bCOMPONENT-537bCOMPONENT-538bCO",
   "MPONENT-539bCOMPONENT-540bCOMPONENT-541bCOMPONENT-542bCOMPONENT-543bCOMPONENT-544bCOMPONENT-54",
   "5bCOMPONENT-546bCOMPONENT-547bCOMPONENT-548bCOMPONENT-549bCOMPONENT-550bCOMPONENT-551bCOMPONEN",
   "T-552bCOMPONENT-553bCOMPONENT-554bCOMPONENT-555bCOMPONENT-556bCOMPONENT-557bCOMPONENT-558bCOMP",
   "ONENT-559bCOMPONENT-560bCOMPONENT-561bCOMPONENT-562bCOMPONENT-563bCOMPONENT-564bCOMPONENT-565b",
   "COMPONENT-566bCOMPONENT-567bCOMPONENT-568bCOMPONENT-569bCOMPONENT-570bCOMPONENT-571bCOMPONENT-",
   "572bCOMPONENT-573bCOMPONENT-574bCOMPONENT-575bCOMPONENT-576bCOMPONENT-577bCOMPONENT-578bCOMPON",
   "ENT-579bCOMPONENT-580bCOMPONENT-581bCOMPONENT-582bCOMPONENT-583bCOMPONENT-584bCOMPONENT-585bCO",
   "MPONENT-586bCOMPONENT-587bCOMPONENT-588bCOMPONENT-589bCOMPONENT-590bCOMPONENT-591bCOMPONENT-59",
   "2bCOMPONENT-593bCOMPONENT-594bCOMPONENT-595bCOMPONENT-596bCOMPONENT-597bCOMPONENT-598bCOMPONEN",
   "T-599bCOMPONENT-600bCOMPONENT-601bCOMPONENT-602bCOMPONENT-603bCOMPONENT-604bCOMPONENT-605bCOMP",
   "ONENT-606bCOMPONENT-607bCOMPONENT-608bCOMPONENT-609bCOMPONENT-610bCOMPONENT-611bCOMPONENT-612b",
   "COMPONENT-613bCOMPONENT-614bCOMPONENT-615bCOMPONENT-616bCOMPONENT-617bCOMPONENT-618bCOMPONENT-",
   "619bCOMPONENT-620bCOMPONENT-621bCOMPONENT-622bCOMPONENT-623bCOMPONENT-624bCOMPONENT-625bCOMPON",
   "ENT-626bCOMPONENT-627bCOMPONENT-628bCOMPONENT-629bCOMPONENT-630bCOMPONENT-631bCOMPONENT-632bCO",
   "MPONENT-633bCOMPONENT-634bCOMPONENT-635bCOMPONENT-636bCOMPONENT-637bCOMPONENT-638bCOMPONENT-63",
   "9bCOMPONENT-640bCOMPONENT-641bCOMPONENT-642bCOMPONENT-643bCOMPONENT-644bCOMPONENT-645bCOMPONEN",
   "T-646bCOMPONENT-647bCOMPONENT-648bCOMPONENT-649bCOMPONENT-650bCOMPONENT-651bCOMPONENT-652bCOMP",
   "ONENT-653bCOMPONENT-654bCOMPONENT-655bCOMPONENT-656bCOMPONENT-657bCOMPONENT-658bCOMPONENT-659b",
   "COMPONENT-660bCOMPONENT-661bCOMPONENT-662bCOMPONENT-663bCOMPONENT-664bCOMPONENT-665bCOMPONENT-",
   "666bCOMPONENT-667bCOMPONENT-668bCOMPONENT-669bCOMPONENT-670bCOMPONENT-671bCOMPONENT-672bCOMPON",
   "ENT-673bCOMPONENT-674bCOMPONENT-675bCOMPONENT-676bCOMPONENT-677bCOMPONENT-678bCOMPONENT-679bCO",
   "MPONENT-680bCOMPONENT-681bCOMPONENT-682bCOMPONENT-683bCOMPONENT-684bCOMPONENT-685bCOMPONENT-68",
   "6bCOMPONENT-687bCOMPONENT-688bCOMPONENT-689bCOMPONENT-690bCOMPONENT-691bCOMPONENT-692bCOMPONEN",
   "T-693bCOMPONENT-694bCOMPONENT-695bCOMPONENT-696bCOMPONENT-697bCOMPONENT-698bCOMPONENT-699bCOMP",
   "ONENT-700bCOMPONENT-701bCOMPONENT-702bCOMPONENT-703bCOMPONENT-704bCOMPONENT-705bCOMPONENT-706b",
   "COMPONENT-707bCOMPONENT-708bCOMPONENT-709bCOMPONENT-710bCOMPONENT-711bCOMPONENT-712bCOMPONENT-",
   "713bCOMPONENT-714bCOMPONENT-715bCOMPONENT-716bCOMPONENT-717bCOMPONENT-718bCOMPONENT-719bCOMPON",
   "ENT-720bCOMPONENT-721bCOMPONENT-722bCOMPONENT-723bCOMPONENT-724bCOMPONENT-725bCOMPONENT-726bCO",
   "MPONENT-727bCOMPONENT-728bCOMPONENT-729bCOMPONENT-730bCOMPONENT-731bCOMPONENT-732bCOMPONENT-73",
   "3bCOMPONENT-734bCOMPONENT-735bCOMPONENT-736bCOMPONENT-737bCOMPONENT-738bCOMPONENT-739bCOMPONEN",
   "T-740bCOMPONENT-741bCOMPONENT-742bCOMPONENT-743bCOMPONENT-744bCOMPONENT-745bCOMPONENT-746bCOMP",
   "ONENT-747bCOMPONENT-748bCOMPONENT-749bCOMPONENT-750bCOMPONENT-751bCOMPONENT-752bCOMPONENT-753b",
   "COMPONENT-754bCOMPONENT-755bCOMPONENT-756bCOMPONENT-757bCOMPONENT-758bCOMPONENT-759bCOMPONENT-",
   "760bCOMPONENT-761bCOMPONENT-762bCOMPONENT-763bCOMPONENT-764bCOMPONENT-765bCOMPONENT-766bCOMPON",
   "ENT-767bCOMPONENT-768a~24F1~x7y&MINNAN?=d??d?^d?_d~2~^Ad^BdNASALIZED?;e?=e??e?^e?_e~2~^Ae^Bc~2",
   "~m*Eav+y&m*|Vavuy&A-1cA-2cA-3cA-WOcI-1cI-2cI-3cI-4cU-1cU-2cU-3cU-4cU-5cE-2cE-3cE-4cE-5cE-6cO-1",
   "cO-2cO-3cKA-1cKA-2cKA-3cKA-4cKA-5cKA-6cKA-7cKA-8cKA-9cKA-10cKA-11cKA-KEcKI-1cKI-2cKI-3cKI-4cKI",
   "-5cKI-6cKI-7cKI-8cKU-1cKU-2cKU-3cKU-4cKU-5cKU-6cKU-7cKE-1cKE-2cKE-3cKE-4cKE-5cKE-6cKO-1cKO-2cK",
   "O-3cKO-KIcSA-1cSA-2cSA-3cSA-4cSA-5cSA-6cSA-7cSA-8cSI-1cSI-2cSI-3cSI-4cSI-5cSI-6cSU-1cSU-2cSU-3",
   "cSU-4cSU-5cSU-6cSU-7cSU-8cSE-1cSE-2cSE-3cSE-4cSE-5cSO-1cSO-2cSO-3cSO-4cSO-5cSO-6cSO-7cTA-1cTA-",
   "2cTA-3cTA-4cTI-1cTI-2cTI-3cTI-4cTI-5cTI-6cTI-7cTU-1cTU-2cTU-3cTU-4cTU-TOcTE-1cTE-2cTE-3cTE-4cT",
   "E-5cTE-6cTE-7cTE-8cTE-9cTO-1cTO-2cTO-3cTO-4cTO-5cTO-6cTO-RAcNA-1cNA-2cNA-3cNA-4cNA-5cNA-6cNA-7",
   "cNA-8cNA-9cNI-1cNI-2cNI-3cNI-4cNI-5cNI-6cNI-7cNI-TEcNU-1cNU-2cNU-3cNE-1cNE-2cNE-3cNE-4cNE-5cNE",
   "-6cNE-KOcNO-1cNO-2cNO-3cNO-4cNO-5cHA-1cHA-2cHA-3cHA-4cHA-5cHA-6cHA-7cHA-8cHA-9cHA-10cHA-11cHI-",
   "1cHI-2cHI-3cHI-4cHI-5cHI-6cHI-7cHU-1cHU-2cHU-3cHE-1cHE-2cHE-3cHE-4cHE-5cHE-6cHE-7cHO-1cHO-2cHO",
   "-3cHO-4cHO-5cHO-6cHO-7cHO-8cMA-1cMA-2cMA-3cMA-4cMA-5cMA-6cMA-7cMI-1cMI-2cMI-3cMI-4cMI-5cMI-6cM",
   "I-7cMU-1cMU-2cMU-3cMU-4cME-1cME-2cME-MAcMO-1cMO-2cMO-3cMO-4cMO-5cMO-6cYA-1cYA-2cYA-3cYA-4cYA-5",
   "cYA-YOcYU-1cYU-2cYU-3cYU-4cYO-1cYO-2cYO-3cYO-4cYO-5cYO-6cRA-1cRA-2cRA-3cRA-4cRI-1cRI-2cRI-3cRI",
   "-4cRI-5cRI-6cRI-7cRU-1cRU-2cRU-3cRU-4cRU-5cRU-6cRE-1cRE-2cRE-3cRE-4cRO-1cRO-2cRO-3cRO-4cRO-5cR",
   "O-6cWA-1cWA-2cWA-3cWA-4cWA-5cWI-1cWI-2cWI-3cWI-4cWI-5cWE-1cWE-2cWE-3cWE-4cWO-1cWO-2cWO-3cWO-4c",
   "WO-5cWO-6cWO-7cN-MU-MO-1cN-MU-MO-2av+y&m*|Lax7y&m*|7d|Vd|La~2E~v+y&:*_;d_!d|Ea~12~x7y&:*_;d_!d",
   "|EdNa~A99~DUPLOYANy&HcXcPcTcFcKcLcBcDcVcGcRcP.NcD.ScF.NcK.McR.ScTHc:&DHcDHcKKc:&JcHLcLHcRHcMcN",
   "cJcScM.NcN.McJ.McS.JcM|BrwcN|BrwcJ|Brwerywom5mEcS|Brwfn&cM.ScN.ScJ.ScS.ScM.N.ScN.M.ScJ.M.ScS.J",
   ".ScJ.S|BrwdNeScS.TeRdPeRcT.SdR.ScWcWHcW.RcS.NdMcK.R.ScG.R.ScS.KeRcAc:&OWcOAcOcAOUcIcEcwWc:KIcU",
   "IcsKc:&EHcROMANIAN.Ic:&sKczJIc|VcUcEUcXWcU.NczJUcROMANIAN.UcUHc:&UcOOHcOWcOUc_rc|Ec_;cWEIcWOWc",
   "NASAL.UdOdIdAcPERNINm4dAMc:&s3dm4d%Ec_8Mb~6~AFFIXyrv|,Zc!Bv|,Zc+3v|,ZczO_1,Zc!B_1,Zcv%_1,ZcnO,",
   "Zdyw,ZdTANGENTd=odEv?dIv?dTANGENTv?c~4~v%mHdTIGHTmHdu+dzJu+drwdp3dy?d_wd_1c~8~zOmHdTIGHTmHdu+d",
   "zJu+drwdp3dy?d_wd_1dm^b~3~:VO|BqNbTHICKy&,5br!zqb*UCHINOOKuL;8aSHORTHAND.FORMATy&%1cCONTINUING",
   "%1cr+STEPc_ISTEPa~125D~ZNAMENNYpxzqu%$ZSyQ%Eyrd$ZSyQ%EyrdTSATA%Eyrdu%$Z%Eyrd$Z%EyrdSREDNE%Eyrd",
   "z9&=%Eyrd&=%Eyrd_q%Eyrdz9&=Sx&%Eyrd&=Sx&%Eyrd_qSx&%Eyrdu%$ZSyQ%E+3d$ZSyQ%E+3dTSATA%E+3du%$Z%E+",
   "3d$Z%E+3dSREDNE%E+3dz9&=%E+3d&=%E+3d_q%E+3dz9&=Sx&%E+3d&=Sx&%E+3d_qSx&%E+3dTSATA.SyQdz9&=SyQd;",
   "mz9&=d&=SyQe;md_qSyQdz9&=;mdu%_qdZELOd%EdRAVNOd?ydBORZAYAdUDARKAdPODVERTKAdLOMKAdKUPNAYAdKACHK",
   "AdZEVOKdSKOBAdRAZSEKAdyP%Eyrc~3~TONAL.RANGEzqMRACHNOfSVETLOfTRESVETLOczq|tdrA|tdOTSECHKAd&se|B",
   "_1;rdCHASHKAePOLNAYAdOBLACHKOdSOROCHYA.NOZHKAdTOCHKAdDVOETOCHIEcATTACHING_1OMETczqq5OMETdyPczQ",
   "TONAL.RANGEw7bPRIZNAK!QLEVEL-2dLEVEL-3dr2FLIPdyPdROGb~A~NEUME.KRYUKdTIKHYcPARAKLITcDVA.V.CHELN",
   "UcKLYUCHcZANOZHEKcSTOPITSAdS.OCHKOMcPEREVODKAd$BcSTOPITSA|BSOROCHYA.NOZHKAcpRcPALKAc|wcGOLUBCH",
   "IK.BORZYdTIKHYdMRACHNYdSVETLYdTRESVETLYcVRAKHIYA*Od!od=Hd^Sdx|*Oe!oe=He^Scr!|wc+FpRcDERBITSAcK",
   "HAMILOcCHASHKAc&sc:w!od=Hd^Sd?ycrAKLYUCHc:wx|=Hdx_dx|?ydsA*Oe=He$Bex|cSLOZHITIEdS|xdZAKRYTOEdS",
   "yQcyPcROGctocKOBYLAcZMEYTSAcSTATYAdS|xeyQe|xIyQeyQI|xdZAKRYTAYAeS|xdS.ROGOMeDVUMYA.ZAPYATYMIe|",
   "xI.PODCHASHIEMcPOLKULIZMYcSTATYA$Bc;n*OdMRACHNOTIKHAYAdKRYZHEVAYAdPOLUPOVODNAYAd&;d$BdKLYUCHEP",
   "OVODNAYAdx_d?yPUTNAYAdsAdDVOECHELNOKRYZHEVAYAdsBdsAx|dsBx|du^|B:0|wdu||B:0|wdu^du|e|Br!|wdu_e&",
   ";cMECHIKdPOVODNYdKLYUCHEVOYdKLYUCHEPOVODNYdKLYUCHENEPOSTOYANNYc;nTRYASOGLASNAYAdTRYASOPOVODNAY",
   "AdTRYASOSTRELNAYAcOSOKAd=Hd^SdyO=Hdx|=He$Bc;nyOe&;eu^|B:0|weu||B:0|weu^eu|f|Br!|weu_f&;eTRYASK",
   "AcKUFISMAcOBLAKOcDUDAcNEMKAcPAUKa~3D~ov!v=M*SdDASEIAd&KdOXEIAsSer0dVAREIAsSer0dKATHISTIdSYRMAT",
   "IKId%zdYPOKRISISer0dKREMASTIdAPESOsSdEXOsSdTELEIAdxrdmwer0dSYNEVMAdTHITAdOLIGONm+du&m+dPSILONd",
   "CHAMILONdVATHYdISONm+dxqm+dxrm+dSAXIMATAdPARICHONdSTAVROS.APODEXIAdOXEIAIm+dVAREIAIm+dAPODERMA",
   "m+dAPOTHEMAdx^dREVMAdPIASMAm+dTINAGMAdANATRICHISMAdSEISMAdSYNAGMAm+eMETA.STAVROUd%6m+dTHEMAdLE",
   "MOIdDYOdTRIAd=^dKRATIMATAdAPESO.EXO$AduKm+dIMIFTHORAd^2m+dKATAVA^2dPELASTONd*RdKONTEVMAdCHOREV",
   "MAm+dRAPISMAd%ym+d%zm+dICHADINdNANAdPETASMAdKONTEVMA.ALLOd^2ALLOdSTRAGGISMATAdGRONTHISMATAdISO",
   "N$AdOLIGON$AdOXEIA$AdPETASTIdKOUFISMAdPETASTOKOUFISMAdKRATIMOKOUFISMAdPELASTON$Adxr$Amndxq$Amn",
   "dYPSILIdmw$AdmvSYNDESMOS$AdYPORROIdKRATIMOYPORROONdELAFRONdCHAMILIdMIKRON.ISONdVAREIA$AdPIASMA",
   "$Ad*R$AdOMALONdANTIKENOMAdLYGISMAd%z$Ad%y$AdETERON%ydKYLISMAdANTIKENOKYLISMAd^2$AdEKSTREPTONdS",
   "YNAGMA$AdSYRMAdCHOREVMA$AdEPEGERMAdSEISMA$AdXIRONx^dTROMIKOPSIFISTONdPSIFISTOLYGISMAdTROMIKOLY",
   "GISMAdTROMIKOPARAKALESMAdPSIFISTOPARAKALESMAdTROMIKOSYNAGMAdPSIFISTOSYNAGMAdGORGOSYNTHETONdm;d",
   "ETERONm;d%6$AdTHEMATISMOS.ESOeEXOdTHEMA.APLOUNdTHESxRAPOTHESdKATAVASMAdENDOFONONdYFENxmemndSTA",
   "VROSdx^mndr0m+dKRATIMAm+eALLOe$AdAPODERMA$AdAPLIdr0dTRIPLIdTETRAPLIdyNdLEIMMA.ENOS.CHRONOUeDYO",
   "p1eTRIONp1eTESSARONp1eIMISEOS.CHRONOUdu&$Amne%,ARISTERAfDEXIAdDIGORGONe%,ARISTERAxmgmnfDEXIAdT",
   "RIGORGONdARGONdIMIDIARGONdDIARGONdAGOGI.POLI.ARGIeARGOTERIeARGIeMETRIAeMESIeGORGIeGORGOTERIePO",
   "LI.GORGIdMARTYRIA.PROTOSwNeALLI.PROTOSwNeDEYTEROSwNeALLI.DEYTEROSwNeTRITOSwNeTRIFONIASeTETARTO",
   "SwNfLEGETOSwNeLEGETOSwNePLAGIOSwNdISAKIA.TELOUSwMdmvTELOUSwMdFANEROSIS.TETRAFONIASe!0eDIFONIAS",
   "dMARTYRIA.VARYSwNePROTOVARYSwNePLAGIOS.TETARTOSwNdGORTHMIKON.N.APLOUNfDIPLOUNdENARXISxRuKVOUdI",
   "MIFONONdIMIFTHORONduKm+DEYTEROU.ICHOUerS%7fNANAeNAOSwNerSrLe:yDIATONONrLerSxof|?f$LxmgmneMALAK",
   "ONp0DIFONIASg!0dFHTORA:yp0VASISduK:yp0SYNAFIeNENANOdCHROA.ZYGOSeKLITONeSPATHIduKI|6=|eENARMONI",
   "OS.ANTIFONIAd|6^ZdDIESIS^Ze=|eAPLI.DYOrse!2=^rserXEXrse^XOKTOrsd|6APLI.DYOrse!2=^rserXEXrse^XO",
   "KTOrsdGENIKI.DIESISe|6dDIASTOLI.APLI.MIKRIfMEGALIer0eTHESEOSdSIMANSIS.THESEOSfDISIMOUfTRISIMOU",
   "f?CeARSEOSfDISIMOUfTRISIMOUf?CdDIGRAMMA.GGdDIFTOGGOS.OUd;6dARKTIKO%7eVOUeuPerLexoe|?e$Ldxr$AME",
   "SOdxq$AMESOdxr$Axmdxq$Axmdx^xmdu&$Axma~B~!v=M:0nqcr!nqct3nqc+Et3nqcqynqc:Knqcyr*?:Vc+3*?:Vc*?r",
   "ycqpSEGNOcq9CAPOcSEGNOcCODAcREPEATED.FIGURE-1dFIGURE-2dFIGURE-3cFERMATAdn&cBREATHzqcCAESURAcBR",
   "ACEcoYcONE-LINE;0cTWO-LINE;0cTHREE-LINE;0cFOUR-LINE;0cFIVE-LINE;0cSIX-LINE;0cSIX-STRINGuFcFOUR",
   "-STRINGuFcGp9e%VALTAfnvcCp9cFp9e%VALTAfnvcr^CLEF-1dCLEF-2c~3~!rz!+Bcr!,,dtscts_Idr+cNATURAL_Id",
   "r+c,,_Idr+c*5?:,,etscCOMMON.TIMEcCUT.TIMEc%VALTAdnvcQUINDICESIMA.ALTAdnvcMULTI+BcWHOLE+BcvI+Bc",
   "*5+BcsO+Bc:s+Bc?Y+Bc:v+Bc%GwG^z+BcX$rc&q$rcp3X$rc;M$r_:eoGc^T$r_I_:foGeyr_:foGe+3_:foGer+_:foG",
   "e_I+3_:goGc!5$r_:eoGcTRIANGLE-ROUND$rr+_:foGc%*$rcVOID$rc$roGcNULL$rcCLUSTER$r_:eoGco2cWHOLE$q",
   "cvI$qc*5$qcsO$qc:s$qc?Y$qc:v$qc%GwG^z$qcpx;4dSPRECHGESANG;4d^Pd^Qd^RcFINGERED^Pd^Qd^RcpxAUGMEN",
   "TATIONrwdFLAG-1dFLAG-2dFLAG-3dFLAG-4dFLAG-5cn!BEAMcs7BEAMcn!?pcs7?pcn!SLURcs7SLURcn!PHRASEcs7P",
   "HRASEcpxmFdSTACCATOdTENUTOdSTACCATISSIMOdMARCATOdMARCATO-STACCATOdACCENT-STACCATOdLOUREcARPEGG",
   "IATO_Idr+cpxDOITdRIPdFLIPdSMEARdBENDdr!^Cd^Y^CcRINFORZANDOcSUBITOcZcPIANOcMEZZOcFORTEcCRESCEND",
   "OcDECRESCENDOcGRACE$q:!e$4:!cTRcTURNcwyTURNcTURN:!d_Ic%USTROKE-1dSTROKE-2dSTROKE-3dSTROKE-4dST",
   "ROKE-5dSTROKE-6dSTROKE-7dSTROKE-8dSTROKE-9dSTROKE-10dSTROKE-11cHAUPTSTIMMEcNEBENSTIMMEcs7$?STI",
   "MMEcq=:!cpxr+oVd_IoVdHARMONICdSNAP.PIZZICATOcPEDALzqd_IzqcvIPEDALzqcGLISSANDO_Idr+c|BFINGERNAI",
   "LScDAMPdALLcMAXIMAcLONGAcBREVISc,7_:doGcMINIMAdoGc,o_:doGcFUSA_:doGcLONGA&J+Bdw2+BcBREVIS+Bc,7",
   "+BcMINIMA+Bc,o+BcTEMPUS.PERFECTUM.CUM*J&Jgw2g&JrZdIMPERFECTUM.CUM*J&Jgw2hrZhDIMINUTION-2hDIMIN",
   "UTION-3cCROIXcGREGORIAN.Cp9dFp9c;MBcVIRGAcPODATUScCLIVISc,RcCLIMACUScTORCULUScPORRECTUSdFLEXUS",
   "c,RFLEXUScTORCULUS.RESUPINUScPES.SUBPUNCTIScKIEVAN.Cp9ds7$?&Wdt3$qdRECITATIVEzqdWHOLE$qdvI$qd*",
   "5$q;4r+g_IdsO$q;4r+g_Idts:VcSORIcKORONa~16~u;VOCAL$oSYMBOL-1dSYMBOL-2dSYMBOL-3dSYMBOL-4dSYMBOL",
   "-5dSYMBOL-6dSYMBOL-7dSYMBOL-8dSYMBOL-9dSYMBOL-10d=Nd=Od=Pd=QdSYMBOL-15dSYMBOL-16d=Rd=Sd=TdSYMB",
   "OL-20dSYMBOL-21dSYMBOL-22d=Ud=Vd=Wd=Xd=Yd=Zd=0bINSTRUMENTAL$oSYMBOL-1dSYMBOL-2dSYMBOL-4dSYMBOL",
   "-5dSYMBOL-7dSYMBOL-8d=Nd=Od=Pd=Qd=Rd=Sd=Td=Ud=VdSYMBOL-25dSYMBOL-26dSYMBOL-27dSYMBOL-29dSYMBOL",
   "-30dSYMBOL-32dSYMBOL-36dSYMBOL-37dSYMBOL-38dSYMBOL-39dSYMBOL-40dSYMBOL-42dSYMBOL-43dSYMBOL-45d",
   "SYMBOL-47dSYMBOL-48dSYMBOL-49d=Wd=Xd=Yd=Zd=0apxu;!vTRISEMEd?Bd&Gau;!vLEIMMAa~9B~MAYAN$y|%c%Gc^",
   "+c?5cuBctpc:qc,tcsMc$Wc=:csXc^vc?VcuCctWc:rc,ucsNc$Xa~D~!1t=sHaDIGRAMt=HEAVENLYsHcHUMANsHcEART",
   "HLYvodHUMANcsHaTETRAGRAMt=pEcuLp3cMIREDcBARRIERcKEEPING:*cCONTRARIETYcASCENTc%OcBRANCHING%WcDE",
   "FECTIVENESS%PDISTORTIONcDIVERGENCEcYOUTHFULNESScw4cPENETRATIONcREACHcp?cv;nWc_sct:cADVANCEcREL",
   "EASEcRESISTANCEcEASEcJOYcCONTENTIONcENDEAVOURcDUTIEScCHANGEcDECISIVENESScoPRESOLUTIONcPACKINGc",
   "LEGIONcCLOSENESScKINSHIPcu0cSTRENGTHcPURITYcFULLNESScRESIDENCEcLAW%PMODELcRESPONSEcGOING?+MEET",
   "cENCOUNTERScSTOVEcGREATNESScENLARGEMENTcPATTERNcRITUALcFLIGHTcVASTNESS%PWASTINGcCONSTANCYcz!cs",
   ",cUNITYcDIMINISHMENTcpp!8cGUARDEDNESScu0w3cMASSINGcACCUMULATIONcEMBELLISHMENTcDOUBTcWATCHcSINK",
   "INGcINNERcrEcqwcDIMMINGcEXHAUSTIONcSEVERANCEcSTOPPAGEcHARDNESScp!cCLOSUREcFAILUREcAGGRAVATIONc",
   "COMPLIANCEc%E?JVERGEcDIFFICULTIEScLABOURINGcFOSTERINGa~A~COUNTING.ROD_GrW%Ge^+e?5euBetpe:qe,te",
   "sMe$WcTENSrW%Ge^+e?5euBetpe:qe,tesMe$WawVTALLYzq%Gd^+d?5duBdtpaTALLYzq%Gctpa~88~zvoPo,AdBdCdDd",
   "EdFdGdHdIdJdKdLdMdNdOdPdQdRdSdTdUdVdWdXdYdZc:*AdBdCdDdEdFdGdHdIdJdKdLdMdNdOdPdQdRdSdTdUdVdWdXd",
   "YdZbw+o,AdBdCdDdEdFdGdHdIdJdKdLdMdNdOdPdQdRdSdTdUdVdWdXdYdZc:*AdBdCdDdEdFdGd~2~IdJdKdLdMdNdOdP",
   "dQdRdSdTdUdVdWdXdYdZboPw+o,AeBeCeDeEeFeGeHeIeJeKeLeMeNeOePeQeReSeTeUeVeWeXeYeZd:*AeBeCeDeEeFeG",
   "eHeIeJeKeLeMeNeOePeQeReSeTeUeVeWeXeYeZb,Wo,Ad~2~CdDd~3~Gd~3~JdKd~3~NdOdPdQd~2~SdTdUdVdWdXdYdZc",
   ":*AdBdCdDd~2~Fd~2~HdIdJdKdLdMdNd~2~PdQdRdSdTdUdVdWdXdYdZboP,Wo,AeBeCeDeEeFeGeHeIeJeKeLeMeNeOeP",
   "eQeReSeTeUeVeWeXeYeZd:*AeBeCeDeEeFeGeHeIeJeKeLeMeNeOePeQeReSeTeUeVeWeXeYeZbFRAKTURo,AdBd~2~DdE",
   "dFdGd~3~JdKdLdMdNdOdPdQd~2~SdTdUdVdWdXdYc~2~:*AdBdCdDdEdFdGdHdIdJdKdLdMdNdOdPdQdRdSdTdUdVdWdXd",
   "YdZbr&o,AdBd~2~DdEdFdGd~2~IdJdKdLdMd~2~Od~4~SdTdUdVdWdXdYc~2~:*AdBdCdDdEdFdGdHdIdJdKdLdMdNdOdP",
   "dQdRdSdTdUdVdWdXdYdZboPFRAKTURo,AeBeCeDeEeFeGeHeIeJeKeLeMeNeOePeQeReSeTeUeVeWeXeYeZd:*AeBeCeDe",
   "EeFeGeHeIeJeKeLeMeNeOePeQeReSeTeUeVeWeXeYeZb,Jo,AdBdCdDdEdFdGdHdIdJdKdLdMdNdOdPdQdRdSdTdUdVdWd",
   "XdYdZc:*AdBdCdDdEdFdGdHdIdJdKdLdMdNdOdPdQdRdSdTdUdVdWdXdYdZcoPo,AeBeCeDeEeFeGeHeIeJeKeLeMeNeOe",
   "PeQeReSeTeUeVeWeXeYeZd:*AeBeCeDeEeFeGeHeIeJeKeLeMeNeOePeQeReSeTeUeVeWeXeYeZcw+o,AeBeCeDeEeFeGe",
   "HeIeJeKeLeMeNeOePeQeReSeTeUeVeWeXeYeZd:*AeBeCeDeEeFeGeHeIeJeKeLeMeNeOePeQeReSeTeUeVeWeXeYeZcoP",
   "w+o,AfBfCfDfEfFfGfHfIfJfKfLfMfNfOfPfQfRfSfTfUfVfWfXfYfZe:*AfBfCfDfEfFfGfHfIfJfKfLfMfNfOfPfQfRf",
   "SfTfUfVfWfXfYfZb!4o,AdBdCdDdEdFdGdHdIdJdKdLdMdNdOdPdQdRdSdTdUdVdWdXdYdZc:*AdBdCdDdEdFdGdHdIdJd",
   "KdLdMdNdOdPdQdRdSdTdUdVdWdXdYdZbw+:*rxIeJb~3~oPo,mZdn;duVdq|dssd|&ds+d?PdwzdxXdy4d!pd$ud|Od%Dd",
   "&Ud+Id?P=Md:Ud=xd_Md&QdpUd*Qd%Cc!*c:*mZdn;duVdq|dssd|&ds+d?PdwzdxXdy4d!pd$ud|Od%Dd&Ud+Idt3:Ud:",
   "Ud=xd_Md&QdpUd*Qd%Cc%:rTcss=Mc?P=McxX=Mc&Q=Mc+I=Mc&U=Mbw+o,mZdn;duVdq|dssd|&ds+d?PdwzdxXdy4d!p",
   "d$ud|Od%Dd&Ud+Id?P=Md:Ud=xd_Md&QdpUd*Qd%Cc!*c:*mZdn;duVdq|dssd|&ds+d?PdwzdxXdy4d!pd$ud|Od%Dd&U",
   "d+Idt3:Ud:Ud=xd_Md&QdpUd*Qd%Cc%:rTcss=Mc?P=McxX=Mc&Q=Mc+I=Mc&U=MboPw+o,mZen;euVeq|esse|&es+e?P",
   "ewzexXey4e!pe$ue|Oe%De&Ue+Ie?P=Me:Ue=xe_Me&QepUe*Qe%Cd!*d:*mZen;euVeq|esse|&es+e?PewzexXey4e!p",
   "e$ue|Oe%De&Ue+Iet3:Ue:Ue=xe_Me&QepUe*Qe%Cd%:rTdss=Md?P=MdxX=Md&Q=Md+I=Md&U=Mb,JoPo,mZen;euVeq|",
   "esse|&es+e?PewzexXey4e!pe$ue|Oe%De&Ue+Ie?P=Me:Ue=xe_Me&QepUe*Qe%Cd!*d:*mZen;euVeq|esse|&es+e?P",
   "ewzexXey4e!pe$ue|Oe%De&Ue+Iet3:Ue:Ue=xe_Me&QepUe*Qe%Cd%:rTdss=Md?P=MdxX=Md&Q=Md+I=Md&U=Mdw+o,m",
   "Zfn;fuVfq|fssf|&fs+f?PfwzfxXfy4f!pf$uf|Of%Df&Uf+If?P=Mf:Uf=xf_Mf&QfpUf*Qf%Ce!*e:*mZfn;fuVfq|fs",
   "sf|&fs+f?PfwzfxXfy4f!pf$uf|Of%Df&Uf+Ift3:Uf:Uf=xf_Mf&QfpUf*Qf%Ce%:rTess=Me?P=MexX=Me&Q=Me+I=Me",
   "&U=MboPo,rVc:*rVc~3~rW|%d%Gd^+d?5duBdtpd:qd,tdsMd$Wbr&rW|%d%Gd^+d?5duBdtpd:qd,tdsMd$Wb,JrW|%d%",
   "Gd^+d?5duBdtpd:qd,tdsMd$WcoPrW|%e%Ge^+e?5euBetpe:qe,tesMe$Wb!4rW|%d%Gd^+d?5duBdtpd:qd,tdsMd$Wa",
   "SIGNWRITINGvTw6bvPw6bvRw6bvXw6bvVw6bvOw6bvTw6n+bvPw6n+bvT?8_Bw6n+cw6*tyFdqZdv*ezObvPw6HINGEbvT",
   "w6!DbvPw6!DbvTw6!Dn+e*tyGev*d_I!Dv*dv*!D_Id!Dp+fw6n+f!Dn+fqZfv*eqPbvPw6!DqPbvT!Dn+%Yw6cw6n+%Y!",
   "Dd!D?8bvPw6!D?8bvTw6!D;9?8n+en+?8;9e?8n+ev*;L?8:Sd_I!Dv*?8:Shp+dv*!D_I?8:Sd!D_I;L?8uAe?8qZfp4f",
   "v^fv*c?8n?w6!D;9cw6!Dp+?8:Shp+hn+c!D?8v^w6_Icw6?8v^!D_Id!Dp+v*?8:SeqP?8:Sep+?8uAfqZ?8uAc!D?8qZ",
   "w6_Icw6?8qZ!D_Ic!D?8p4w6_Igv*cw6?8m8%W!D_Ifw3!D_Iep4!D_Id!D?8p+v*fm8%Wfm8c!D?8m8%Ww6_IhqPfw6_I",
   "cw6?8v^!Dv*bvUuBt7en+ev*ep+fSPLITbvQuBt7p+bvTuBt7p+n+bvVuBt7p+bvUtpt7;Lcvqtpt7;Lctpt7;LuBn+cvq",
   "tpt7;LuBn+ctpt7;Ln+cvqtpt7;Ln+ctpt7;L?8uAbvRtpt7;Lf%JbvVtpt7;L%JbvXtpt7;LbvUtpt7;Lv*g?8:Sg$4?8",
   "bvUcn?%rFACINGScvqc?8:Scvq?8:Sc?8n+duAcSPLITw6?8:SdpEe?8:Sgn+dy_bvQc?8:Sc$4?8c?8uAbvWCURLICUEb",
   "vWbvR%JbvRc%J?8:Sc?8:Sc%J$4?8c$4?8c%J?8uAc?8uAbvS%JbvSbvPbvXc?8:Sc$4?8c?8uAbvV%Jd?8uAbvVc:*c%J",
   "?8:Sc?8:Sc%J$4?8c$4?8c?8:STOUCHINGw6dn?!D+mbvObvTw6!D+mbvPw6!D+mbvVw6!D+mbvOw6!D+mbvVy_bvTw6!D",
   "+mn+fp+bvVw6!D+mp+bvTy_r+eRIPPLE;9fq5eOTHERSp4d_Ic?8_By__IbvPy__IbvXy__IbvOy__IbvTy_*tyFdn+dTO",
   "UCHES?8d?8bvVy_?8bvTy_w6?8bvVy_w6?8bvOy_w6?8w6?8%Wg?8bvTy_w6bvPy_w6bvVy_w6bvOy_w6bvTw6!Dy_bvPw",
   "6!Dy_bvVw6!Dy_c+mbvOw6!Dy_bvTw6!DqNy_bvPw6!DqNy_bvT+mr+bvV+mr+w6?8v?!DbvO+mr+!D?8w6qNbvT+m_Id*",
   "tyFdy_bvP+my_bvX+my_bvO+my_bvT+m!Dep+e*tyGdw6d?8bvW+m?8bvTw6+my_bvPw6+my_bvSw6+my_%EbvWw6+my_%",
   "Wfw3f_BbvRw6+my_bvVw6+my_bvOw6+my_%Wey_bvT!Dr+bvV!DbvT!D_IbvP!D_IbvT!D*tyFd_I?8:SbvW!D?8bvT!D?",
   "8y_dy_d+my_bvP!D+my_bvS!D+my_%EbvR!D+my_bvV!D+my_bvO!D+my_%Wfw3ey_bvP!D+my_n+bvQ!D+my_p+g:SbvW",
   "!D+my_p+%Wgw3fp+bvVw6v*bvTw6?8:SbvVw6?8:SbvTw6?8:S?8rNgp+gn+fw6n+fBOTHn+fw6HINGEeuAw6;9gn+ev?e",
   "CURLICUEeq4?8wobvQw6?8q4?8wobvTw6?8q4?8_Bep3bvRw6?8e%JbvVw6?8%Jey7d?8e:*bvOw6?8%Wew3d?8bvT?8dv",
   "qd:SrNep+en+duAdn?w6!De!D+me+my_d_B^+t7d%Y^+t7d_B?5t7euBt7d%YuB*tyGbvTcvqbTOUCH:0c!rcn?bGRASP:",
   "0c!rcn?bSTRIKE:0c!rcn?bBRUSH:0c!rcn?bRUB:0c!rcn?bSURFACE=1cn?bSQUEEZEy7:0c:*:0cy7!rc:*!rc,qbFL",
   "ICKy7:0c:*:0cy7!rc:*!rc,qbSQUEEZE.FLICKm1bMOVEMENT-HINGE_Ir+y7e:*d,qcr+,qc_Ir+m1y7f:*c:S?+:S,U",
   "b!nt5p?b!mt5p?b!n:0;9:*ez,ey7ey8d|Ktwcr!;9d|Ktwdm1e|KtwcqNc^Y;9!9d|Ktwdm1e|KtwcBEND:*dz,dy7cqG",
   ":*dz,dy7dROTATIONcpO:*dz,dy7coX:*dz,dy7c|=:*dz,dy7cPEAKS:*dz,dy7bTRAVEL-WALLPLANE+x:0dr!dm1c+w",
   ":0dr!dm1c,&cARM;I:0er!e^YbMOVEMENT-DIAGONAL.AWAY:*dz,dy7dy8cTOWARDS:*dz,dy7dy8cn?AWAY:*ez,ey7e",
   "y8dTOWARDS:*ez,ey7ey8b!m:0;9:*ez,ey7ey8d|Ktwcr!;9d|Ktwdm1e|KtwcqNc^Y;9!9d|Ktwdm1!9e|KtwcBENDcq",
   "G:*dz,dy7cpOcoX:*dz,dy7c|=:*dz,dy7cPEAKS:*dz,dy7bTRAVEL-FLOORPLANE+w:0dr!dm1c+x:0dr!dm1c,&b!nq",
   "4*5:*ez,ey7ey8dvJ:*ez,ey7ey8dTHREE-QUARTERp3:*fz,cwF:*dz,dy7czM:*dz,dy7d:*r!c_wq4r!:*fz,fy7e^Y",
   ":*fz,fy7cq4?M;9cq5qN:*ez,b+x:0cr!cm0b!n,&cq4v,uH_ucwFv,uH_uczMv,uH_uc_wv,uH_ub+x:0v,uH_ucr!v,u",
   "H_ucm1v,uH_ub!nq4v,pTcwFv,pTczMv,pTc_wv,pTb+x:0v,pTcr!v,pTcm1v,pTb!n_wrNPATH:*fz,fy7b!mq4v,pC:",
   "*fy7cwFv,pC:*r!fy7r!f:*^Yfy7^YczMv,pC:*:0fy7:0f:*r!fy7r!c_wv,pC:*fy7b+w:0v,pCcr!v,pCcm1v,pCb!m",
   "q4v,tx:*fy7cwFv,tx:*r!fy7r!f^Y:*^Ygy7^YczMv,tx:*:0fy7:0f:*r!fy7r!c_wv,tx:*fy7b+w:0v,txcr!v,txc",
   "m1v,txb!mq4:*dz,dy7dy8dCOMBINEDcwF:*czM:*c_w:,d:*dy7b+w:0cr!cm1b!m,&%!b!nARMp3:*:0ez,:0e:*r!ez",
   ",r!b!mARMp3v,_u:*:0gz,:0gy7:0g:*r!gz,r!gy7r!b!n|Kp3uH:0fr!b!m|Kp3v,_u:0gr!b!nt5p5:0er!b!mt5p5v",
   ",_u:0gr!bDYNAMICm|:*dy7cFASTcSLOWcTENSEcRELAXEDcSIMULTANEOUSdm1cEVERY.OTHER.TIMEcGRADUALbv5cRI",
   "Mc!n;9dTILTc!m;9c!nq4c!mq4c!9p3btIr2&&$muA?!f_I%Pr+i?!bEYEBROWS;9_Id$Cdr+bDREAMY.EYEBROWS$Cr+d",
   "r+$Cd_I$Cd$C_IbFOREHEAD$Ccp?c|JbtF%JcSQUEEZEDcppbtCBLINK:0d!rbtFvI%Jc_=%JcvIppcWIDENING!9btCWI",
   "NKbEYELASHES_Icr+ct&btE;9dr!dm1btD;9dr!dm1btEq5btDq5btECIRCLINGbCHEEKS.PUFFEDc$CcSUCKEDbTENSE.",
   "CHEEKSv%d!DdzObEARSb$m$Ccp?cWRINKLEScWIGGLESbAIR.BLOWING%WcSUCKINGw3cBLOW:*+ycSUCK:*+ybBREATH.",
   "INHALEcEXHALEb!8pp$CduAdp?cSMILEd|Jd%JcFROWNd|Jd%Jc%Jp3duAd|JdOVALe|JeYAWNd*ze|JeYAWNcKISSduAd",
   "|JcTENSEduAdSUCKEDby^PRESSED?,bLIPzQ%Y_Lc_L%YzQb!8qHcWRINKLES:0dr!b^CSTICKING%WFARcLICKINGy^c?",
   "&n?y^dTOUCHINGwo!8cwo!8RELAXEDcMOVES.AGAINST.CHEEKcpESTICKING%Wdwo!8bTEETHc!9c%E^Ce!9dy^e!9cBI",
   "TEy^b!nJAWb!mJAWbNECKbvGbEXCITEMENTb:MHIP.SPINEdPOSITIONSbWALLPLANE:MHIP.MOVEbFLOORPLANE:MHIP.",
   "MOVEb:M?!uGWAISTbTORSO-WALLPLANE;9STRETCHcq5BENDbTORSO-FLOORPLANE.TWISTINGb_LBODY?!uGHIP.JOINT",
   "SbLIMB.COMBINATIONcLENGTH-1cLENGTH-2cLENGTH-3cLENGTH-4cLENGTH-5cLENGTH-6cLENGTH-7bt5bLOCATION-",
   "WALLPLANE;CbLOCATION-FLOORPLANE;CbzEHEIGHTc_^cDEPTHcv5NECKcTORSOcLIMBS.DIGITSbpybuL;8b,mbpwb%*",
   "b~10~t1!Rc!Sc!Tc!Uc!Vb~2~ROTATION!Rc!Sc!Tc!Uc!VcMODIFIER-7cMODIFIER-8cMODIFIER-9cMODIFIER-10cM",
   "ODIFIER-11cMODIFIER-12cMODIFIER-13cMODIFIER-14cMODIFIER-15cMODIFIER-16a~451~y9:*y&FENGrY|BTRIL",
   "Ld+F,WGby&:*o,^qGb:*y&+FKby&:*o,L|Bn*b:*y&LEZH|B+Cv?d^qY|Bn*d+Fs8d^qR|BzJyym5+Cv?dT|Bv?m5+Cv?b",
   "y&+Cpm|B+Cv?b:*y&s%|Br!nohm5q0d^qT|Bq0by&wyuy;8|Bq0c;pC|Bq0c:*o,^qKb:*y&L|BtndrJrY|B%ov?dL|Bn*",
   "m5%ov?ds8|B%ov?d^qR|B%ov?dR|Btnm5%ov?d=?rY|B%ov?dtG|B%ov?drJrY|B+Cv?dI|B;rm5+Cv?dO|B+Cv?d=?rY|",
   "B+Cv?dC|B+Cv?dS|Bq0a~E2~pxuwy&AZUdBUKYdVEDEduvdDOBROdYESTUd|;d~2~|$dw:dwmw:dIdrodKAKOdy|d!ydNA",
   "SHIdONUd&xdRITSIdSLOVOd^tdUKUdFRITUdHERUd~3~SHTAd^7dpZd,wd|2d|1dYATId~2~|qd:*|rd~2~|mdw!:*|rdo",
   "A|rdw!oA|rdtoa~D6~NYIAKENG.PUACHUE.HMONGy&zXe^3eNTAe=5evDe!$e|NeNKAeoxeyYe+=e|seNCAeNTSAexPeq9",
   "e$$eNRAe_SeNTXAeTXAetHe*ne*Ye|QeNQAe%7eXYAeNPAeDLAeNPLAevFeMLAePLAeuPe+&eAemBeIeUeOe%IeEesKeWd",
   "~4~TONE-BdTONE-MdTONE-JdTONE-VdTONE-SdTONE-GdTONE-Dd:Vt=&MfTHINGfzEfANIMALfINVERTEBRATEeXW.XWd",
   "=Ly!d~3~rW|%e%Ge^+e?5euBetpe:qe,tesMe$Wd~5~zINYAJdp4oxa~141~TOTOy&%7cnUc=5cq9cxPcuPczXc!$c$Gc+",
   "=cpHc|Qc_rcw?cvDc*ncyYcIco1IcIUco1IUcUcEco1EcEOco1EOcOcmJco1mJcAb:V+n?:a~12~WANCHOy&mBcAcnUcox",
   "cq9cuPc|Qc&NcyYc!$c%7c=5c?EctHc+=c,wcw?c|sc_rc_ScxPcOcnPc*nczXcxvcvDcEcIc$GcUcLLHAc^3cTRAcONGc",
   "AANGcm6cINGc%Ecs3cAANc$$cUENcYIHb?:TUPcTUPNIcKOIcKOINIbrW|%c%Gc^+c?5cuBctpc:qc,tcsMc$Wb~6~NGUN",
   ":Va~4E1~s;=LHHYAcHHYUcHHYIcHHYAAcHHYEEcHHYEcHHYOc~2~GURAGE.HHWAcHHWIcHHWEEcHHWEc~2~GURAGE.MWId",
   "MWEEd~2~QWIdQWEEdQWEdBWIdBWEEdKWIdKWEEdKWEdGWIdGWEEdGWEdFWIdFWEEdPWIdPWEEa~2~MENDE.KIKAKUI=LM0",
   "01x*dM002xPdM003ySdM065.KEEdM095xodM076.KOOdM048yHdM179.KUAdM004_;dM005_rdM006|LdM126.WEEdM118",
   "_!dM114.WOOdM045|EdM194.WUIdM143.WEIdM061.WVIdM049.WVAdM139.WVEdM007.MINdM008zmdM009.MUNdM059z",
   "?dM094!WdM154.MUANdM189.MUENdM010n_dM011nUdM012o6dM150nzdM097nydM103.BOOdM138oNdM013.IdM014.Ad",
   "M015.UdM163sKdM100.EdM165%IdM147.OdM137.EIdM131w3dM135w3dM195m4dM178s3dM019:QdM020+=dM021;tdM1",
   "62,2dM116,XdM136.SOOdM079:=dM196.SIAdM025y,dM026yYdM027zSdM084.LEEdM073ymdM054zLdM153zDdM110zJ",
   "ymdM016rLdM017q9dM018r_dM089q;dM180.DOOdM181rpdM022?mdM023=5dM024^ndM091=&dM055=!dM104^EdM069?",
   "+dM028.JIdM029w?dM030.JUdM157xAdM113w|dM160.JOOdM063xGdM175zJxGdM031|7dM032|QdM033|qdM109|WdM0",
   "80|VdM141.YOOdM121|mdM034tVdM035tHdM036.FUdM078tQdM075tOdM133.FOOdM088t+dM197.FUAdM101.FANdM03",
   "7.NINdM038.NANdM039$!dM117.NENdM169.NONdM176vzdM041vDdM186wEdM040.HEEdM096v4dM042.HOOdM140v:dM",
   "083.HEEIdM128.HOOUdM053.HINdM130.HANdM087.HUNdM052.HENdM193.HONdM046.HUANdM090.NGGIdM043$IdM08",
   "2.NGGUdM115.NGGEEdM146.NGGEdM156.NGGOOdM120.NGGOdM159.NGGAAdM127.NGGUAdM086zJNGGEdM106zJNGGOOd",
   "M183zJNGGOdM155urdM111uPdM168vAdM190.GEEdM166.GUEIdM167.GUANdM184.NGENdM057.NGONdM177.NGUANdM0",
   "68&UdM099%7dM050*TdM081&AdM051%_dM102.POOdM066&rdM145.MBIdM062.MBAdM122.MBUdM047zxdM188zxdM072",
   ".MBEdM172.MBOOdM174.MBOdM187.MBUUdM161zJMBEdM105zJMBOOdM142zJMBOdM132.KPIdM092.KPAdM074.KPUdM0",
   "44.KPEEdM108.KPEdM112.KPOOdM158.KPOdM124.GBIdM056.GBAdM148.GBUdM093.GBEEdM107.GBEdM071.GBOOdM0",
   "70.GBOdM171*ndM123.NDIdM129!=dM125.NDUdM191.NDEEdM119.NDEdM067.NDOOdM064.NDOdM152.NJAdM192.NJU",
   "dM149$1dM134.NJOOdM182.VIdM185_SdM151.VUdM173_0dM085_YdM144.VOOdM077.VOdM164.NYINdM058.NYANdM1",
   "70.NYUNdM098.NYENdM060.NYONc~3~rW%Gd^+d?5duBdtpd:qd,tdsMd$Wcpx$xTEENSeTENSewHe?3e=:?3ewG?3e!La",
   "~2A~ADLAMo,y&ALIFdDAALIdLAAMdMIIMdnUd:2d%_dBHEd*ndEdtHdIdOdrKdYHEd_yd$!dxQd|QdUdJIIMdpUdvDdQAA",
   "FduPd$$d^nd$Kd_SdxvdGBEdZALdKPOd,wb:*y&ALIFdDAALIdLAAMdMIIMdnUd:2d%_dBHEd*ndEdtHdIdOdrKdYHEd_y",
   "d$!dxQd|QdUdJIIMdpUdvDdQAAFduPd$$d^nd$Kd_SdxvdGBEdZALdKPOd,wbALIFy!b_ny!bu3zqbvMbp;!QbGEMINATE",
   "p;!Qb$wb!:zqb~5~rW|%c%Gc^+c?5cuBctpc:qc,tcsMc$Wb~5~wms?zqc*8zqa~312~INDIC.SIYAQ$x%Gd^+d?5duBdt",
   "pd:qd,tdsMd$Wd=:d^yd?Wdt_dtYd:ud,vdsRd$Yd%GwGd^+wGd?5wGduBwGdtpwGd:qwGd,twGdsMwGd$WwGd%G?2d^+?",
   "2d?5?2duB?2dtp?2d:q?2d,t?2dsM?2d$W?2d=:?2d^y?2d?W?2dt_?2dtY?2d:u?2d,v?2dsR?2d$Y?2dLAKHdLAKHANc",
   "LAKHzqc$xKARORdKARORANdPREFIXED%Ge^+e?5euBetpe:qe,tesMe$Wc&ocuE%G*5evId?5*6c+;zqc$xm0%Ge^+e=:?",
   "2cm0LAKHzqa~4D~OTTOMAN.SIYAQ$x%Gd^+d?5duBdtpd:qd,tdsMd$Wd=:d^yd?Wdt_dtYd:ud,vdsRd$Yd%GwGd^+wGd",
   "?5wGduBwGdtpwGd:qwGd,twGdsMwGd$WwGd%G?2d^+?2d?5?2duB?2dtp?2d:q?2d,t?2dsM?2d$W?2d=:?2d^y?2d?W?2",
   "dt_?2dtY?2d:u?2d,v?2dsR?2d$Y?2cMARRATANcm0$x^+e?5euBetpe:qe,tesMe$We=:euBwGe:qwGe^+?2e=:?2cuE%",
   "GvIeSIXTHa~C3~m$zvmUcn$cxBcqpc~2~_yc|vcvFc=mc|XcxQcy3cz:c$6c,3cmQctSc+?c*Zc*:c,?c=*c?Lcxwc?Gcq",
   "mc|ucuncrxn$d$6dtSd*Zc~2~wmn$dxBd~2~vrd~3~vFd~2~|XdxQdy3dz:d$6d,3dmQdtSd+?d*Zd~2~,?d=*d?Ldxwd~",
   "2~qmd~2~unc~7~TAILEDxBd~5~vFd~2~|Xd~2~y3d~2~$6d,3dmQd~2~+?d*Zd~2~,?d~3~xwd~2~qmd~2~und~2~rx$6e",
   "~2~*Zc~2~;pn$dxBd~2~vrd~3~vFd=md|XdxQd~2~z:d$6d,3dmQdtSd+?d*Zd~2~,?d=*d?Ldxwd~2~qmd|udundrxn$e",
   "~2~tSc~2~LOOPEDmUdn$dxBdqpdvrd_yd|vdvFd=md|Xd~2~y3dz:d$6d,3dmQdtSd+?d*Zd*:d,?d=*d?Ldxwd?Gdqmd|",
   "udunc~6~r&n$dxBdqpd~2~_yd|vdvFd=md|Xd~2~y3dz:d$6d,3dmQdtSd+?d*Zd*:d,?d=*d?Ldxwd?Gdqmd|udunc~35",
   "~%Mz:|BvF|B=wdvF|Bqpa~10F~MAHJONG.TILEsI_|c;B_|c_%_|c$9_|c*&r=cu=r=c_:r=c%G$?pKc^+$?pKc?5$?pKc",
   "uB$?pKctp$?pKc:q$?pKc,t$?pKcsM$?pKc$W$?pKc%G$?nmc^+$?nmc?5$?nmcuB$?nmctp$?nmc:q$?nmc,t$?nmcsM$",
   "?nmc$W$?nmc%G$?p5c^+$?p5c?5$?p5cuB$?p5ctp$?p5c:q$?p5c,t$?p5csM$?p5c$W$?p5cPLUMcORCHIDcn9cCHRYS",
   "ANTHEMUMcSPRINGcSUMMERcAUTUMNcWINTERcxKcnWa~5~DOMINO.TILEv|nWcHORIZONTAL-00-00cHORIZONTAL-00-0",
   "1cHORIZONTAL-00-02cHORIZONTAL-00-03cHORIZONTAL-00-04cHORIZONTAL-00-05cHORIZONTAL-00-06cHORIZON",
   "TAL-01-00cHORIZONTAL-01-01cHORIZONTAL-01-02cHORIZONTAL-01-03cHORIZONTAL-01-04cHORIZONTAL-01-05",
   "cHORIZONTAL-01-06cHORIZONTAL-02-00cHORIZONTAL-02-01cHORIZONTAL-02-02cHORIZONTAL-02-03cHORIZONT",
   "AL-02-04cHORIZONTAL-02-05cHORIZONTAL-02-06cHORIZONTAL-03-00cHORIZONTAL-03-01cHORIZONTAL-03-02c",
   "HORIZONTAL-03-03cHORIZONTAL-03-04cHORIZONTAL-03-05cHORIZONTAL-03-06cHORIZONTAL-04-00cHORIZONTA",
   "L-04-01cHORIZONTAL-04-02cHORIZONTAL-04-03cHORIZONTAL-04-04cHORIZONTAL-04-05cHORIZONTAL-04-06cH",
   "ORIZONTAL-05-00cHORIZONTAL-05-01cHORIZONTAL-05-02cHORIZONTAL-05-03cHORIZONTAL-05-04cHORIZONTAL",
   "-05-05cHORIZONTAL-05-06cHORIZONTAL-06-00cHORIZONTAL-06-01cHORIZONTAL-06-02cHORIZONTAL-06-03cHO",
   "RIZONTAL-06-04cHORIZONTAL-06-05cHORIZONTAL-06-06c_1nWcVERTICAL-00-00cVERTICAL-00-01cVERTICAL-0",
   "0-02cVERTICAL-00-03cVERTICAL-00-04cVERTICAL-00-05cVERTICAL-00-06cVERTICAL-01-00cVERTICAL-01-01",
   "cVERTICAL-01-02cVERTICAL-01-03cVERTICAL-01-04cVERTICAL-01-05cVERTICAL-01-06cVERTICAL-02-00cVER",
   "TICAL-02-01cVERTICAL-02-02cVERTICAL-02-03cVERTICAL-02-04cVERTICAL-02-05cVERTICAL-02-06cVERTICA",
   "L-03-00cVERTICAL-03-01cVERTICAL-03-02cVERTICAL-03-03cVERTICAL-03-04cVERTICAL-03-05cVERTICAL-03",
   "-06cVERTICAL-04-00cVERTICAL-04-01cVERTICAL-04-02cVERTICAL-04-03cVERTICAL-04-04cVERTICAL-04-05c",
   "VERTICAL-04-06cVERTICAL-05-00cVERTICAL-05-01cVERTICAL-05-02cVERTICAL-05-03cVERTICAL-05-04cVERT",
   "ICAL-05-05cVERTICAL-05-06cVERTICAL-06-00cVERTICAL-06-01cVERTICAL-06-02cVERTICAL-06-03cVERTICAL",
   "-06-04cVERTICAL-06-05cVERTICAL-06-06a~D~PLAYINGo;nWcACE$?;Ec^+$?;Ec?5$?;EcuB$?;Ectp$?;Ec:q$?;E",
   "c,t$?;EcsM$?;Ec$W$?;Ec=:$?;EcJACK$?;EcyB$?;Ec*7$?;Ecx+$?;Ec~3~ACE$?vnc^+$?vnc?5$?vncuB$?vnctp$",
   "?vnc:q$?vnc,t$?vncsM$?vnc$W$?vnc=:$?vncJACK$?vncyB$?vnc*7$?vncx+$?vnc*&xKc~2~ACE$?rRc^+$?rRc?5",
   "$?rRcuB$?rRctp$?rRc:q$?rRc,t$?rRcsM$?rRc$W$?rRc=:$?rRcJACK$?rRcyB$?rRc*7$?rRcx+$?rRcoGxKc~2~AC",
   "E$?ptc^+$?ptc?5$?ptcuB$?ptctp$?ptc:q$?ptc,t$?ptcsM$?ptc$W$?ptc=:$?ptcJACK$?ptcyB$?ptc*7$?ptcx+",
   "$?ptc_:xKcFOOLcTRUMP-1cTRUMP-2cTRUMP-3cTRUMP-4cTRUMP-5cTRUMP-6cTRUMP-7cTRUMP-8cTRUMP-9cTRUMP-1",
   "0cTRUMP-11cTRUMP-12cTRUMP-13cTRUMP-14cTRUMP-15cTRUMP-16cTRUMP-17cTRUMP-18cTRUMP-19cTRUMP-20cTR",
   "UMP-21a~B~rW|%uL;8cpyb%Gpyb^+pyb?5pybuBpybtppyb:qpyb,tpybsMpyb$WpyaDINGBATp4,JrW|%b!_p4,JrW|%a",
   "p4|%|B:!bmpm^brv:V|B%0n0a%+y9o,y&AeBeCeDeEeFeGeHeIeJeKeLeMeNeOePeQeReSeTeUeVeWeXeYeZa^J,_oZy9o",
   ",y&Sap4w+y9o,y&CfRbCDbWZaCOPYLEFT=Ma;Ny9o,y&AeBeCeDeEeFeGeHeIeJeKeLeMeNeOePeQeReSeTeUeVeWeXeYe",
   "ZbHVbMVbSDbSSbPPVbWCa!_p4y9o,y&AfBfCfDfEfFfGfHfIfJfKfLfMfNfOfPfQfRfSfTfUfVfWfXfYfZa*tMC:VbMD:V",
   "bMR:Vap4CCbC|B%0n0bHUMANtZa!_;Ny9o,y&AfBfCfDfEfFfGfHfIfJfKfLfMfNfOfPfQfRfSfTfUfVfWfXfYfZaqP!_;",
   "Ny9o,y&Pa!_;NICc%7c+=cABcWCa;MDJa;NCLbCOOLbFREEbIDb$Db$FbOKbSOSb_I|Bs?zqbVSb?5Db,0,Vb^+KbuBKbs",
   "MKbtp&t%Gb,t&t%Gb^*&t^+b:uPb%GwG^yPby9:*y&DbHCbHDRbHI-RESbLOSSLESSbSHVbUHDbVODaMASK.WORK=Ma~39",
   "~REGIONALw7=My&AeBeCeDeEeFeGeHeIeJeKeLeMeNeOePeQeReSeTeUeVeWeXeYeZa;Mv+HOKAa;Nx7KOKOc+=b~E~CJK",
   "_EIDEOGRAPH-624BdIDEOGRAPH-5B57dIDEOGRAPH-53CCbx7q+bCJK_EwTdIDEOGRAPH-591AdIDEOGRAPH-89E3dIDEO",
   "GRAPH-5929dIDEOGRAPH-4EA4dIDEOGRAPH-6620dIDEOGRAPH-7121dIDEOGRAPH-6599dIDEOGRAPH-524DdIDEOGRAP",
   "H-5F8CdIDEOGRAPH-518DdIDEOGRAPH-65B0dIDEOGRAPH-521DdIDEOGRAPH-7D42dIDEOGRAPH-751FdIDEOGRAPH-8C",
   "A9dIDEOGRAPH-58F0dIDEOGRAPH-5439dIDEOGRAPH-6F14dIDEOGRAPH-6295dIDEOGRAPH-6355dIDEOGRAPH-4E00dw",
   "SdIDEOGRAPH-904AdIDEOGRAPH-5DE6dIDEOGRAPH-4E2DdIDEOGRAPH-53F3dIDEOGRAPH-6307dIDEOGRAPH-8D70dwU",
   "dIDEOGRAPH-7981dIDEOGRAPH-7A7AdIDEOGRAPH-5408dIDEOGRAPH-6E80dIDEOGRAPH-6709dIDEOGRAPH-6708dIDE",
   "OGRAPH-7533dIDEOGRAPH-5272dIDEOGRAPH-55B6dIDEOGRAPH-914Da~5~^J,_oZCJK_EIDEOGRAPH-672CfwSfwTfID",
   "EOGRAPH-5B89fIDEOGRAPH-70B9fwUfIDEOGRAPH-76D7fIDEOGRAPH-52DDfIDEOGRAPH-6557a~8~p4wRADVANTAGEcA",
   "CCEPTa~F~+$=Mt=FUdzSdSHOUd|OdSHUANGXIdCAIa~9B~CYCLONEaFOGGYapp_Aa$T|BSTARSaSUNRISE%YMOUNTAINSa",
   "SUNRISEap8nMDUSKaSUNSET%YonaRAINBOWao3nM$Ta_v_waVOLCANOaMILKY.WAYasHGLOBE.EUROPE-AFRICAcAMERIC",
   "AScASIA-AUSTRALIAaGLOBE|BMERIDIANSa$D!5=MaWAXINGqK!5=Mat9*5!5=MaWAXING.GIBBOUS!5=MauL!5=MaWANI",
   "NG.GIBBOUS!5=MaLAST*5!5=MaWANINGqK!5=MaqK!5a$D!5|BtIat9*5!5|BtIaLAST*5!5|BtIauL!5|BtIa;?|BtIaG",
   "LOWING;1aSHOOTING;1a?NaoGDROPLETa_:;?c|B:*pscBEHINDpse|B*saps|B*scSNOWcy=cTORNADOaFOGa_|BLOWIN",
   "GtIaHOTruaTACOaBURRITOaCHESTNUTaSEEDLINGaEVERGREEN^OaDECIDUOUS^Oa%r^OaCACTUSaHOT.PEPPERaTULIPa",
   "CHERRY.BLOSSOMaROSEaHIBISCUSaSUNFLOWERaBLOSSOMasG$?MAIZEc+LaHERBauByoCLOVERaMAPLEyoaFALLENyoay",
   "ot&w3_|aMUSHROOMaTOMATOaAUBERGINEaGRAPESaMELONaWATERMELONaTANGERINEaLEMONaBANANAaPINEAPPLEa*&A",
   "PPLEau=APPLEaPEARaPEACHaCHERRIESaSTRAWBERRYaHAMBURGERaSLICE$?PIZZAaz%%EoQaPOULTRYyya+LCRACKERb",
   "n5aCOOKED+LaCURRYm5+LaSTEAMING.BOWLaSPAGHETTIaBREADaFRENCH.FRIESaROASTED.SWEET.POTATOaDANGOaOD",
   "ENaSUSHIaFRIED.SHRIMPatmCAKE|BSWIRL.DESIGNa:?wLCREAMaSHAVEDwLawLCREAMaDOUGHNUTaCOOKIEaCHOCOLAT",
   "EnoaCANDYaLOLLIPOPaCUSTARDaHONEY.POTaSHORTCAKEaBENTOoXaPOT$?FOODaCOOKINGat?m5yAaTEACUP|DHANDLE",
   "aSAKEoTm5CUPa|AuxaCOCKTAILuxaTROPICAL.DRINKaBEER.MUGaCLINKING.BEER.MUGSanVoTat?m5yA|BPLATEaoT|",
   "BPOPPING.CORKaPOPCORNa+KaWRAPPED.PRESENTaBIRTHDAY.CAKEaJACK-O-LANTERNapY^OaFATHERpYaFIREWORKSa",
   "FIREWORK.SPARKLERan6aPARTY.POPPERaCONFETTIn5aTANABATA^OaqPFLAGSaPINEq:aw^DOLLSaCARP.STREAMERa_",
   "|CHIMEa!5VIEWING.CEREMONYa,SSATCHELaGRADUATION.CAPav9|B?&%E?JyraBOUQUET$?FLOWERSa!Kz&aREMINDER",
   "+Ka!vxu|BJACKSaSTUDIO!AaLEVEL.SLIDERaqBKNOBSaBEAMEDnE!v$sbrG!v$saFILM.FRAMESaADMISSION.TICKETS",
   "aCAROUSELwBaFERRIS_+aROLLER.COASTERaFISHING&ym5tma!AaMOVIEozaCINEMAaHEADPHONEaARTIST.PALETTEa^",
   "Gv3aCIRCUS.TENTaTICKETaCLAPPERoOaPERFORMING.ARTSaVIDEO.GAMEar1HITaSLOTzYaBILLIARDSaGAME.DIEaBO",
   "WLINGat%PLAYING.CARDSa!v$qa!r!v$saSAXOPHONEaGUITARa!vxuaTRUMPETaVIOLINa!vSCOREa+:SHIRT|BSASHaT",
   "ENNIS.RACQUETm5n5aSKIm5SKI.BOOTaBASKETBALLm5HOOPaCHEQUEREDtraSNOWBOARDERaRUNNERaSURFERaSPORTSz",
   "&aTROPHYawBRACINGaAMERICAN.FOOTBALLaRUGBY.FOOTBALLaSWIMMERaWEIGHT.LIFTERaGOLFERaRACING.MOTORCY",
   "CLEbo:aCRICKET.BATm5n5aVOLLEYBALLaFIELD.HOCKEY;5m5n5awLHOCKEY;5m5PUCKaTABLE.TENNIS.PADDLEm5n5a",
   "SNOW.CAPPED!6aCAMPINGaBEACH|B_Aaomp=awDonap8aDERELICTwDomaCLASSICALomaDESERTbISLANDaNATIONAL.P",
   "ARKaSTADIUMawDomb|BGARDENa$^omaw^POST$^aEUROPEAN.POST$^aHOSPITALaBANKaAUTOMATED.TELLERzYaHOTEL",
   "aLOVE.HOTELaCONVENIENCE.STOREa,SaDEPARTMENT.STOREaFACTORYaIZAKAYA.LANTERNaw^o|aEUROPEANo|a_:PE",
   "NNANTaoGPENNANTaWAVING_:trboGtra+uaoG+uaLABELaBADMINTON.RACQUETm5SHUTTLECOCKaoVm5m^aAMPHORAaEM",
   "OJI!QFITZPATRICK.TYPE-1-2dTYPE-3dTYPE-4dTYPE-5dTYPE-6aRATa!7aOXa_vBUFFALOaCOWa?qaLEOPARDaRABBI",
   "TapAar=aCROCODILEaWHALEaSNAILa:,awBaRAMaGOATaSHEEPa!YaROOSTERaCHICKENaruaPIGaBOARasWaOCTOPUSa;",
   "I,_aBUGaANTaHONEYBEEaLADY.BEETLEatmaTROPICALtmaBLOWFISHa^saHATCHING.CHICKanVCHICKaFRONT-FACING",
   "nVCHICKaoDaPENGUINaKOALAaPOODLEaDROMEDARY.CAMELaBACTRIAN.CAMELaDOLPHINa!7tIaCOWtIa?qtIaRABBITt",
   "IapAtIar=tIaSPOUTING.WHALEawBtIa!YtIarutIaPIGtIaFROGtIaHAMSTERtIaWOLFtIaBEARtIaPANDAtIaPIG$maP",
   "AW.PRINTSaCHIPMUNKatFatCasGa$ma!8a^Ca_:_I&wnYw6br+&wnYw6byr&wnYw6b+3&wnYw6aFISTEDvN:VaWAVINGvN",
   ":VaOKvN:VaTHUMBS_I:Vbr+:VaCLAPPINGvY:Va%JvY:VaCROWNa|Gv3aEYEGLASSESaNECKTIEaT-SHIRTaJEANSaDRES",
   "SaKIMONOaBIKINIa|GpraPURSEaHANDBAGaPOUCHaMANS:IaATHLETIC:IaHIGH-HEELED:Ia|GSANDALbBOOTSaFOOTPR",
   "INTSaBUSTw3:WaBUSTSw3:WaBOYaGIRLazma|FaFAMILYazmm5|Fv;vYa^+z?v;vYbWOMENv;vYa&zOFFICERa|F|BBUNN",
   "Y.EARSaBRIDE|BVEILa&M|BBLONDvGazm|BGUA&UMAOcTURBANaOLDERzmb|FanVap=WORKERaPRINCESSaw^OGREbGOBL",
   "INaGHOSTanVANGELaEXTRATERRESTRIAL.ALIENaALIEN.MONSTERaIMPaSKULLaw9DESK&MaGUARDSMANaDANCERaLIPS",
   "TICKaNAIL&!atIMASSAGEaHAIRCUTaBARBER&yaSYRINGEaPILLaKISSzqaLOVEy&a+maGEM.STONEaKISSaBOUQUETaCO",
   "UPLE|Bv9aWEDDINGaBEATINGv9ao5v9a^+vnaSPARKLINGv9aGROWINGv9av9|Bm^aoMv9au=v9a|Yv9a*Vv9av9|B+Ka+",
   "Gvnav9q:arQSHAPE|BArwwoasUy;BULBaANGER=MaBOMBa:$=MaCOLLISION=MaSPLASHING=J=MaDROPLETaqx=MaPILE",
   "$?POOaFLEXED.BICEPSaDIZZY=Ma;Gn6a?1n6a_:t%awGPOINTS=MaMONEY.BAGaq2EXCHANGEavprv:VaqJo;aBANKNOT",
   "E|BYEN:Vcrv:VcEURO:Vc&,:VaMONEY|BWINGSapM|B_OTRENDm5YEN:VaSEATaPERSONALp&aBRIEFCASEaMINIDISCat",
   "yr6aOPTICAL.DISCaDVDat0t,a%Jt0t,a%m|Bq0bFACING_IaoyaTEAR-OFFoyao;w6apM|B_OTRENDcr:TRENDanopMaC",
   "LIPBOARDa*Wa+!*WaPAPERCLIPa;9RULERa^VRULERaBOOKMARK.TABSaLEDGERaNOTEBOOKb|BDECORATIVE.COVERapp",
   "oRa%JoRau=oRaoMoRa%QoRaBOOKSa!+BADGEaSCROLLaMEMOa=,*xaPAGERaFAXzYa,OANTENNAaPUBLIC.ADDRESS.LOU",
   "DSPEAKERaCHEERING.MEGAPHONEaOUTBOX.TRAYaINBOX.TRAYaPACKAGEaE-MAIL=MaINCOMINGsnasn|Br:m^mEappMA",
   "ILBOX|BLOWEREDtrd*ttra%JMAILBOX|B*ttrdLOWEREDtraPOSTBOXa&+wAa$Ea!PPHONEc|B+9m^nMyraVIBRATION.M",
   "ODEa!PPHONE.OFFa$4!PPHONESaANTENNA|Bntaozb|BFLASHaVIDEOozaTELEVISIONaRADIOaVIDEOCASSETTEaFILM.",
   "PROJECTORa&%STEREOaPRAYER.BEADSaTWISTED+9nBapo+9m5yx%Jp3nBh|Bp4%G%3br:m5_O%Jp3nBampr:m5_O%Jp3n",
   "BazOo4=Mav%o4=Ma;F|Bo&;ra;Fb|B%G:|_wc?5:|WAVESaBATTERYasUPLUGaytz2uxa+5z2uxaLOCK|BINK&CappLOCK",
   "|BxtaxtaLOCKa%JLOCKan%b|Bo&;raBOOKMARKaLINK=MaRADIOosanW|Byxm^mEas7|Byxm^mEa%E|Bs?zq|Byr+3m^mE",
   "aSOON|B+9m^mEa^G|B_Om^mEa$4%G_BsN=MaKEYCAP=:aINPUT=Mt=y9o,y*e:*y*dNUMBERSd=1dy9y*at8asUTORCHaW",
   "RENCHavLaNUTm5BOLTaHOCHOaPISTOLaMICROSCOPEaTELESCOPEaCRYSTALn5a:q&u;1|B!Drwaw^=Mt=BEGINNERa^WE",
   "MBLEMaoG;Mosa_:;Mosay7*&p3boMp3b%QrQboMrQa:*%QrQboMrQa_J*&^Tar,*&^Ta_J:**&^Tar,:**&^TazQ+3,$_:",
   "p3a_L+3,$_:p3ap4qN&$aqN&$|BvJn&b&$a$pyr,8|B?5ryb+3,8|B?5rya=Mt=MARKS.CHAPTERa_:y9qNavpy9qNaCEL",
   "TICqNa%B=MaDOVE$?PEACEaKAABAaMOSQUEaSYNAGOGUEaMENORAH|B$WBRANCHESaBOWL$?HYGIEIAapntI%G$:c^+$:c",
   "?5$:cuB$:ctp$:c:q$:c,t$:csM$:c$W$:c=:$:csX$:c^v$:cONE-THIRTYcTWO-THIRTYcTHREE-THIRTYcFOUR-THIR",
   "TYcFIVE-THIRTYcSIX-THIRTYcSEVEN-THIRTYcEIGHT-THIRTYcNINE-THIRTYcTEN-THIRTYcELEVEN-THIRTYcTWELV",
   "E-THIRTYa+3;Fc|B%G:|_wd?5:|WAVESaBULLHORNb|B:|WAVESaRINGINGn%aoRaCANDLEaMANTELPIECEpnaoGSKULLm",
   "5qOa$4PIRACYaHOLEazmw3BUSINESS;+LEVITATINGaSLEUTH%PSPYaDARK;|aSPIDERbWEBaJOYSTICKazmDANCINGayr",
   "vN=,*xa=,*x|B%ma+3vN=,*xa_:^K=,aoG^K=,a=,%E^G$?MODEMaCLAMSHELL!PPHONEanW$?snaSTAMPEDsnasn|By=a",
   "t*sna&C%YSTAMPEDsnaLINKED.PAPERCLIPSaoG*WazQyr&DcBALLPOINT&CcFOUNTAIN&CcPAINTBRUSHcCRAYONayrWR",
   "ITINGvNa^qOKvN:Va*tvN|Bt7SPLAYEDa+F*tvN|Bt7SPLAYEDbTHUMBS_I:Vcr+:VbVICTORYvNbvN|B!Dt5s^a*tvN|B",
   "PARTn?!Dm5+mt7a_:r+&wyrvNw6a:T_:yr&ww6c+3&ww6boGyr&ww6c+3&ww6aoGyr&wnYw6b+3&wnYw6a:T_:_I&ww6cr",
   "+&ww6boG_I&ww6cr+&ww6aoG_I&wnYw6br+&wnYw6bv9aDESKTOPp&axum5!7a?5NETWORKED.COMPUTERSaPRINTERaPO",
   "CKET.CALCULATORaoGv1,_tyr6a_:v1,_tyr6a:?,_tyr6aTAPE.CARTRIDGEaWIREDxua%Gos!7a^+os!7a?5os!7aTRA",
   "CKBALLa%APERSONALp&av1r6a,VaPRINTER.ICONaFAX.ICONaOPTICAL.DISC.ICONarr|B?Ddm5&Vc&VaFRAME|B&VcT",
   "ILEScm4XaoGt,at,a%Jt,ao;w6DIVIDERSbt0oXat0CABINETas2$qc%mc%9a$qb%mb%9as2rrb%mbPAGESarra%maPAGE",
   "SaWASTEBASKETa;I$q%9boy%9aDESKTOP.WINDOWaMINIMIZEaMAXIMIZEa%1apo+3m5yr,8nBao&Xaw4FONT.SIZE=MaD",
   "ECREASE.FONT.SIZE=MaCOMPRESSIONa%AxtaROLLED-UP$Ea%m|Bp4?DaSTOCKpMaqoyAay^aSPEAKINGv5w3:Wa?5*um",
   "Ecn&cyrc+3ayr;Go7a+3;Go7a^+;Go8a?5;Go8ayr?1o7a+3?1o7ayrANGERo7a+3ANGERo7aMOODo7ay=MOODo7bMOODa",
   "n8oX|Bn8b,WXboX|B,WXboP,WXboX|BoP,WXay;pOzqan8oX|BoPpOaWORLD.MAPaMOUNT.FUJIaTOKYO.TOWERaSTATUE",
   "$?LIBERTYa:W$?JAPANaMOYAIau?tIc|B:+tFatI|BTEARS$?JOYa:+tI|B%J!8fm5:+tFgCOLD=Jg?rtFdHALOdHORNSa",
   "WINKINGtIa:+tI|B:+tFatISAVOURING.DELICIOUS.FOODaRELIEVEDtIa:+tI|BvmtFd;|aSMIRKINGtIa$CtIaEXPRE",
   "SSIONLESStIaUNAMUSEDtIatI|BCOLD=JaPENSIVEtIaCONFUSEDtIaCONFOUNDEDtIax;tIatITHROWING.A.KISSax;t",
   "I|B:+tFdpptFatI|BSTUCK-OUT^Cem5WINKINGtCf?rtFar4tIaWORRIEDtIaANGRYtIa&:tIaqTtIaPERSEVERINGtIat",
   "I|BLOOK$?TRIUMPHar4orRELIEVEDtIauJtI|B%J!8aANGUISHEDtIaFEARFULtIaWEARYtIaSLEEPYtIaTIREDtIaGRIM",
   "ACINGtIaLOUDLYqTtIatI|B%J!8aHUSHEDtIatI|B%J!8m5COLD=JbSCREAMINGw3FEARaASTONISHEDtIaFLUSHEDtIa:",
   "$tIaDIZZYtIatI|D!8b|BMEDICAL.MASKau?pAtI|B:+tFapAtI|BTEARS$?JOYa:+pAtI|B%J!8evmtFapAtI|BWRY.SM",
   "ILEax;pAtI|BpptFa&:pAtIaqTpAtIaWEARYpAtIa:%uJtIb:+tIaUPSIDE-DOWNtIatI|BROLLINGtFc$4GOOD.GESTUR",
   "EcOK.GESTUREa&MBOWING.DEEPLYaSEE-NO-EVIL!YaHEAR-NO-EVIL!YaSPEAK-NO-EVIL!YaHAPPY&MRAISING%GvNa&",
   "MRAISING.BOTHvYw3CELEBRATIONbuJb|B&:tIcFOLDEDvYa$9_%&wyoa;B_%&wyoa$9sI&wyoa;BsI&wyoa^q$9_%&wyo",
   "b;B_%&wyob$9sI&wyob;BsI&wyoa$9_%&w_4yoa;B_%&w_4yoa$9sI&w_4yoa;BsI&w_4yoavp$9_%&w_4yob;B_%&w_4y",
   "ob$9sI&w_4yob;BsI&w_4yoa$9_%&wo9a;B_%&wo9a$9sI&wo9a;BsI&wo9avp$9_%&wo9b;B_%&wo9b$9sI&wo9b;BsI&",
   "wo9aHOLLOW.QUILT;M%Uew3oG;MaSOLID.QUILT;M%Uew3oG;Mayx+qa_O+qa+9+qar:+qa,Wy:s*%Uavp,Wy:s*%Uay:%",
   "Js*%Uavpy:%Js*%Ubm3%Ua=Im3%Ua,Jvpr!^qpy*mzq%Udpy*mzq%UczOr!py*mzq%Uavpwu%Ua,Jwu%Uavp,Jwu%Ua_3v",
   "p:_c+E:_apPoOa+EpPoOa+qaHELICOPTERaSTEAMzGa*ro:aHIGH-SPEED.TRAINc|Boo$maTRAINaMETROay;RAILaSTA",
   "TIONaTRAMbo:aBUSa%FBUSaTROLLEYBUSaBUS;8aMINIBUSaAMBULANCEat8ENGINEa&zo:a%F&zo:aTAXIa%FTAXIanQa",
   "%FnQaRECREATIONAL.VEHICLEaDELIVERY.TRUCKaARTICULATED.LORRYaTRACTORaMONORAILa!6*ra=E*ra!6CABLEW",
   "AYaAERIAL.TRAMWAYaSHIPaROWBOATaSPEEDBOATav|^Ly;a_1^Ly;ap=:Va&zCARS+Gy;a^Vtr%EPOSTaDOORa$4ENTRY",
   ":VaSMOKING=Ma$4SMOKING=MaPUT.LITTERw3ITS&n=Marp$nLITTER=MaPOTABLE_v=MaNON-POTABLE_v=MaBICYCLEa",
   "$4BICYCLESan|a!6n|a%|a$4PEDESTRIANSaCHILDRENqSaMENS=MaWOMENS=MaRESTROOManV=MaTOILETa_vCLOSETaS",
   "HOWERaBATHaBATHTUBa%=qBaCUSTOMSaBAGGAGE.CLAIMayrLUGGAGEa^T|B+$qHaPROHIBITED:Vap4w9;AaBOYS=MaGI",
   "RLS=MaCOUCHm5LAMPa:$ACCOMMODATIONaSHOPPING.BAGSaBELLHOPn%aBEDa&n$?WORSHIPaOCTAGONAL:VaSHOPPING",
   ".TROLLEYaSTUPAaPAGODAaHINDU.TEMPLEaHUTaELEVATORa~6~PLAYGROUND.SLIDEa_+a+mBUOYavLm5WRENCHa:CaOI",
   "Lr^aMOTORWAYa*rTRACKaMOTOR.BOATa_J!KmRbmRb:*mRa:*mRaNORTHEAST-POINTINGmRamRrEbARRIVINGa~4~,Oa%",
   "Ft8ENGINEaDIESELzGaPASSENGER.SHIPaSCOOTERaMOTOR.SCOOTERaCANOEaSLEDat*SAUCERaSKATEBOARDaAUTO.RI",
   "CKSHAWaPICKUP.TRUCKaROLLER.SKATEa~4~ALCHEMICAL=Mt=QUINTESSENCEdAIRdt8dsHd_vdAQUAFORTISdAQUA.RE",
   "GIAeREGIA-2eVITAEeVITAE-2dVINEGARdVINEGAR-2dVINEGAR-3d;:dPHILOSOPHERS;:doG;:dMERCURY;xeSUBLIMA",
   "TE-2eSUBLIMATE-3dCINNABARd,CdNITREdVITRIOLdVITRIOL-2dROCK,CeSALT-2du$dSILVERdIRON%ReORE-2dCROC",
   "US$?IRONd*,$?IRONdqC%RdIRON-COPPER%Rd;x$?qCdCROCUS$?qCfCOPPER-2dqCmqd,C$?qCmqd;x$?,C$?qCdVERDI",
   "GRISdTIN%RdLEAD%Rdmr%Rd;x$?mrd,C$?mrd;x$?,C$?mrdVINEGAR$?mrd*,$?mrfANTIMONY-2d*,dREGULUS-2dREG",
   "ULUS-3dREGULUS-4dALKALIdALKALI-2dMARCASITEdSAL-AMMONIACdARSENICdREALGARdREALGAR-2dAURIPIGMENTd",
   "BISMUTH%RdTARTARdTARTAR-2dQUICK.LIMEdBORAXdBORAX-2dBORAX-3dALUMdOILd;JdTINCTUREdGUMdWAXdPOWDER",
   "dCALXdTUTTYdCAPUT.MORTUUMdSCEPTER$?JOVEdCADUCEUSd^WdSTARRED^WdLODESTONEdSOAPdURINEdwBDUNGdASHE",
   "SdPOT.ASHESdBRICKdPOWDERED.BRICKdAMALGAMdSTRATUM.SUPER.STRATUMfSTRATUM-2dSUBLIMATIONdPRECIPITA",
   "TEdDISTILLdDISSOLVEdDISSOLVE-2dPURIFYdPUTREFACTIONdCRUCIBLEdCRUCIBLE-2dCRUCIBLE-3dCRUCIBLE-4dC",
   "RUCIBLE-5dALEMBICdBATH$?MARYfVAPOURSdRETORTdHOURd$TdDAY-NIGHTdMONTHdvIDRAMeOUNCEa~D~oGytw*+3^T",
   "b_Jw*+3^Tb+5w*+3^Tbr,w*+3^Tb:%:*p3az,oP_:p3aoP_:p3avp_:p3a_3vp_:p3atBvp_:p3a_:p3p_oG:*p3a+!=va",
   "oG?%;Mb:%:*;May;_:;Maz,_:;MaoP_:;Mavp_:;Ma_3vp_:;MatBvp_:;Ma_:;Mp_oG_3:*;Mez,;Ma;M=vaoG?%rQb_3",
   ":*rQbz,:*rQa_:rQp_oG_3:*rQez,rQarQ=vaoG?%zRb_3:*zRbz,:*zRa_:zRp_oG:*zRa?Su;qNay;u;qNaz,u;qNaoP",
   "u;qNa_3oPu;qNbvpu;qNatBvpu;qNa?S,Day;,Daz,,DaoP,Davp,Da_3vp,DatBvp,Day;tp;KnJaz,tp;KnJaoPtp;Kn",
   "Javptp;KnJa_3vptp;KnJatBvptp;KnJay;:q;KnJaz,:q;KnJaoP:q;KnJavp:q;KnJa_3vp:q;KnJatBvp:q;KnJay;s",
   "M;KnJaz,sM;KnJaoPsM;KnJavpsM;KnJa_3vpsM;KnJay;?5&uoG;1az,?5&uoG;1a?5&uoG;1az,?5&u&8;1ay;uB&uoG",
   ";1az,uB&uoG;1auB&uoG;1az,uB&u&8;1a+Ey;uB&u&8;1ay;tp&uoG;1avptp&uoG;1az,:q&uoG;1avp:q&uoG;1a:q&",
   "u&8;1az,sM&uoG;1avpsM&uoG;1a_3vpsM&uoG;1avpsM&u&8;1ay;^v&uoG;1avp^v&uoG;1d&8;1ap4^Ta!_p4^Tap4;",
   "Ma!_p4;Ma~8~y7%Qp3b|Yp3bu=p3b*Vp3bBROWNp3b*&;MboM;Mb%Q;Mb|Y;Mbu=;Mb*V;MbBROWN;Ma~5~vpsu:Va~10~",
   "yxm^|B:*^Tm|a_Om^|B:*^Tm|a+9m^|B:*^Tm|ar:m^|B:*^Tm|ayxm^|Bz,^Tm|a_Om^|Bz,^Tm|a+9m^|Bz,^Tm|ar:m",
   "^|Bz,^Tm|ayxm^|By7^Tm|a_Om^|By7^Tm|a+9m^|By7^Tm|ar:m^|By7^Tm|a~5~yxm^|B:*swm|a_Om^|B:*swm|a+9m",
   "^|B:*swm|ar:m^|B:*swm|ayxm^|Bswm|a_Om^|Bswm|a+9m^|Bswm|ar:m^|Bswm|avpyxm^|Bswm|b_Om^|Bswm|b+9m",
   "^|Bswm|br:m^|Bswm|byxm^|By7swm|b_Om^|By7swm|b+9m^|By7swm|br:m^|By7swm|ayx^Um^|B!,,%a_O^Um^|B!,",
   ",%a+9^Um^|B!,,%ar:^Um^|B!,,%ayx^Um^|Bz,,%a_O^Um^|Bz,,%a+9^Um^|Bz,,%ar:^Um^|Bz,,%ayx^Um^|BoP,%a",
   "_O^Um^|BoP,%a+9^Um^|BoP,%ar:^Um^|BoP,%ayx^Um^|Bvp,%a_O^Um^|Bvp,%a+9^Um^|Bvp,%ar:^Um^|Bvp,%ayx^",
   "Um^|B_3vp,%a_O^Um^|B_3vp,%a+9^Um^|B_3vp,%ar:^Um^|B_3vp,%ayxt6m^a_Ot6m^a+9t6m^ar:t6m^ayx;Nm^a_O",
   ";Nm^a+9;Nm^ar:;Nm^ayxp%m^a_Op%m^a+9p%m^ar:p%m^ayxvpp%m^a_Ovpp%m^a+9vpp%m^ar:vpp%m^ayxvpm^a_Ovp",
   "m^a+9vpm^ar:vpm^a~9~yx,Jm^a_O,Jm^a+9,Jm^ar:,Jm^a$9_%,Jm^bsI,Jm^a;BsI,Jm^b_%,Jm^ayr+3,Jm^a_Ir+,",
   "Jm^a~7~_?yxy;npm^b_Oy;npm^b+9y;npm^br:y;npm^b$9_%y;npm^csIy;npm^b;BsIy;npm^c_%y;npm^byxnpm^b_O",
   "npm^b+9npm^br:npm^b$9_%npm^csInpm^b;BsInpm^c_%npm^byxz,npm^b_Oz,npm^b+9z,npm^br:z,npm^b$9_%z,n",
   "pm^csIz,npm^b;BsIz,npm^c_%z,npm^byxvpnpm^b_Ovpnpm^b+9vpnpm^br:vpnpm^b$9_%vpnpm^csIvpnpm^b;BsIv",
   "pnpm^c_%vpnpm^byx_3vpnpm^b_O_3vpnpm^b+9_3vpnpm^br:_3vpnpm^b$9_%_3vpnpm^csI_3vpnpm^b;BsI_3vpnpm",
   "^c_%_3vpnpm^a~9~yx^Tm|a_O^Tm|a+9^Tm|ar:^Tm|ayx_:m^|C^Tm|a_O_:m^|C^Tm|a+9_:m^|C^Tm|ar:_:m^|C^Tm",
   "|ayxm^|B$p=oa_Om^|B$p=oa+9m^|B$p=oar:m^|B$p=oavpm^,%_^%Ge^+?Ue%GvIf?TayxBOTTOM-SHADED_:m^a+9oU",
   ",!_:m^ayx^G,!_:m^a+9^G,!_:m^ayxyu_:m^a+9+6_:m^ayx+6_:m^a+9yu_:m^ayxnX,$_:m^a+9nX,$_:m^ayxuI,$_",
   ":m^a+9uI,$_:m^a_:m^,%_^%Ge^+?Ua~3~m^&w_O?M$9_%c+9?Mq6;B_%a~4F~p4qNFORMEE|BuBrye^+rycFORMEEayrv",
   "Ip3|BuBrye?5rye^+ryerwcp3aDOWNWARD.FACINGv?c$pv?cv?|Brwc$pv?|BrwaPINCHEDt7a_:v9aBROWNv9aPINCHI",
   "NGvNaZIPPER-MOUTHtIaMONEY-MOUTHtIatI|B?NaNERDtIaTHINKINGtIatI|BHEAD-BANDAGEaROBOTtIaHUGGINGtIa",
   ":V$??JHORNSaCALLzzvNa*tnW$?vNaysFISTa+4FISTaHANDSHAKEavN|Bw6m5!Dt7qPaI.LOVE.YOUvN:VatI|BCOWBOY",
   "v3aCLOWNtIaNAUSEATEDtIaROLLING%E?JtxLAUGHINGaDROOLINGtIaLYINGtIatI%raSNEEZINGtIatI|B%GEYEBROW*",
   "tau?tI|B;1tFd%Gy7m5%G:*tCatI|Bt5qIppy^aSERIOUStI|B=1qI!8a:+tI|B:+tFm5vNqI!8atI|B%J!8VOMITINGaS",
   "HOCKEDtI|BEXPLODINGv5aPREGNANT|FaBREAST-FEEDINGaPALMS_I?,aSELFIEaPRINCEazmw3TUXEDOaMOTHERpYaSH",
   "RUGa&MDOING.CARTWHEELaJUGGLINGaFENCERaMODERN.PENTATHLONaWRESTLERSa_vPOLOaHANDBALLaDIVING.MASKa",
   "WILTEDt%ar^|BDRUMSTICKSaCLINKING.GLASSESaTUMBLERuxaSPOONau!NETaRIFLEat9&nz&a,0&nz&a?T&nz&aBOXI",
   "NG.GLOVEaMARTIAL.ARTS.UNIFORMaCURLING.STONEaLACROSSE;5m5n5aSOFTBALLat*DISCaCROISSANTaAVOCADOaC",
   "UCUMBERaBACONaPOTATOaCARROTaBAGUETTE.BREADau=SALADaSHALLOW.PAN$?FOODaSTUFFEDttaEGGaux$?MILKaPE",
   "ANUTSaKIWIFRUITaPANCAKESaDUMPLINGaFORTUNE.COOKIEaTAKEOUToXaCHOPSTICKSaBOWL|BSPOONaCUP|BSTRAWaC",
   "OCONUTaBROCCOLIaPIEaPRETZELaCUT$?z%aSANDWICHaCANNED.FOODaLEAFYu=aMANGOa!5CAKEaBAGELa:+tI|B:+tF",
   "m5?5vnaYAWNINGtIa:+tI|BTEARatI|BPARTYwAm5PARTYv3cUNEVENtFm5_x!8aOVERHEATEDtIaFREEZINGtIaNINJAa",
   "DISGUISEDtIatIv;nWTEARSb|BPLEADINGtFaSARIaLAB.COATaGOGGLESaHIKING.BOOTats:IaCRABaLIONtIaSCORPI",
   "ONaTURKEYaUNICORNtIaEAGLEaDUCKaBATaSHARKaOWLaFOXtIaBUTTERFLYaDEERaGORILLAaLIZARDaRHINOCEROSaSH",
   "RIMPaSQUIDaGIRAFFEtIaZEBRAtIaHEDGEHOGaSAUROPODaT-REXaCRICKETaKANGAROOaLLAMAaPEACOCKaHIPPOPOTAM",
   "USaPARROTaRACCOONaLOBSTERaMOSQUITOaMICROBEaBADGERaSWANaMAMMOTHaDODOaSLOTHaOTTERaORANGUTANaSKUN",
   "KaFLAMINGOaOYSTERaBEAVERaBISONaSEALaGUIDEruaPROBING.CANEaEMOJI.COMPONENT*&vGcq1vGcBALDc_:vGaoQ",
   "ayyat;a^FaSUPERHEROaSUPERVILLAINa+_VESTasG|BHEARING.AIDaMOTORIZED_,aMANUAL_,aMECHANICAL.ARMbyy",
   "aCHEESE.WEDGEaCUPCAKEa,CSHAKERaBEVERAGEoXaGARLICaONIONaFALAFELaWAFFLEaBUTTERaMATE.DRINKawLCUBE",
   "ao7TEAaTROLLaSTANDING&MaKNEELING&MaDEAF&MatI|BMONOCLEaADULTaCHILDaOLDER.ADULTaBEARDED&Ma&M|BHE",
   "ADSCARFbw3STEAMY.ROOMbCLIMBINGbw3zN&&aMAGEaFAIRYaVAMPIREaMERPERSONaELFaGENIEaZOMBIEaBRAINa%Qv9",
   "aBILLED.CAPaSCARFaGLOVESaCOATaSOCKSa*&GIFTsnaFIRECRACKERaJIGSAW.PUZZLE&WaTEST.TUBEaPETRIr5aDNA",
   "r!HELIXaCOMPASSaABACUSat8EXTINGUISHERaTOOLBOXaBRICKaMAGNETaLUGGAGEaLOTIONoTaSPOOL$??4an5$?YARN",
   "a+_PINaTEDDY.BEARaBROOMaBASKETaROLL$?%vano$?SOAPaSPONGEaRECEIPTaNAZAR.AMULETa$CpSx+c*7c+scoFcy",
   "Bc%^a_:pSyB+vt|q?aoGpSyB+vt|q?a$CpSyB+vt|q?a_:pSx++v$Yq?c*7+v$Yq?c+s+v$Yq?coF+v$Yq?cyB+v$Yq?c%",
   "^+v$Yq?aoGpSx++v$Yq?c*7+v$Yq?c+s+v$Yq?coF+v$Yq?cyB+v$Yq?c%^+v$Yq?a$CpSx++v$Yq?c*7+v$Yq?c+s+v$Y",
   "q?coF+v$Yq?cyB+v$Yq?c%^+v$Yq?a_:pSyB+v%GwG?Xq?aoGpSyB+v%GwG?Xq?a$CpSyB+v%GwG?Xq?a_:pS^qx+d*7d+",
   "sdoFdyBd%^aoGpS^qx+d*7d+sdoFdyBd%^a$CpS^qx+d*7d+sdoFdyBd%^a_:pSyB+v^+wG^!q?aoGpSyB+v^+wG^!q?a$",
   "CpSyB+v^+wG^!q?a_:pSx++v^+wG,vq?c*7+v^+wG,vq?c+s+v^+wG,vq?coF+v^+wG,vq?cyB+v^+wG,vq?c%^+v^+wG,",
   "vq?aoGpSx++v^+wG,vq?c*7+v^+wG,vq?c+s+v^+wG,vq?coF+v^+wG,vq?cyB+v^+wG,vq?c%^+v^+wG,vq?a$CpSx++v",
   "^+wG,vq?c*7+v^+wG,vq?c+s+v^+wG,vq?coF+v^+wG,vq?cyB+v^+wG,vq?c%^+v^+wG,vq?a_:pSyB+v?5wGtWq?aoGp",
   "SyB+v?5wGtWq?a$CpSyB+v?5wGtWq?a_:pSsvaoGpSsva$CpSsva_:pSsv+v$Yq?aoGpSsv+v$Yq?a$CpSsv+v$Yq?a_:p",
   "SyDcyEcyCaoGpSyDcyEcyCa~D~XIANGQI*&GENERALcMANDARINcsWcwBcpLcCANNONcSOLDIERboGGENERALcMANDARIN",
   "csWcwBcpLcCANNONcSOLDIERa~3~BALLET.SHOESaONE-PIECE.SWIMSUITaBRIEFSa:LaTHONG.SANDALa~4~DROP$?BL",
   "OODaADHESIVE.BANDAGEaSTETHOSCOPEaX-RAYaCRUTCHa~4~YO-YOaKITEaPARACHUTEaoSaMAGIC.WANDaPINATAaNES",
   "TING.DOLLSa~A~RINGED.PLANETaCHAIRaRAZORaAXEaDIYA.LAMPaBANJOa!KvsaACCORDIONazJr^aCOINao^SAWaSCR",
   "EWDRIVERaLADDERav?a!NaWINDOWaPLUNGERaSEWING.NEEDLEaKNOTaBUCKETa!7TRAPaTOOTHBRUSHav7aPLACARDaRO",
   "CKa!Nn5awPo;azOBATTERYaHAMSAa~4~FLYaWORMaBEETLEaCOCKROACHaPOTTED.PLANTaWOODatPazNaCORALas2NEST",
   "aNEST|BEGGSa~6~ANATOMICALv9aLUNGSaPEOPLE.HUGGINGaPREGNANTzmb&Ma&M|BCROWNa~B~BLUEBERRIESan%PEPP",
   "ERaOLIVEattaTAMALEaFONDUEaTEAPOTaPOURING.LIQUIDaBEANSaJARa~7~MELTINGtIaSALUTINGtIatI|B%JtFm5vN",
   "%Y!8cPEEKINGtCcrN!8arzy?tIaBITING.LIPao8a~9~vN|Bw6t5m5?8qPa+9vNayxvNa%rr+vNb_IvNaw6&wnM?JVIEWE",
   "Rav9vYa~A~oLSEXTANT-1bSEXTANT-2bSEXTANT-12bSEXTANT-3bSEXTANT-13bSEXTANT-23bSEXTANT-123bSEXTANT",
   "-4bSEXTANT-14bSEXTANT-24bSEXTANT-124bSEXTANT-34bSEXTANT-134bSEXTANT-234bSEXTANT-1234bSEXTANT-5",
   "bSEXTANT-15bSEXTANT-25bSEXTANT-125bSEXTANT-35bSEXTANT-235bSEXTANT-1235bSEXTANT-45bSEXTANT-145b",
   "SEXTANT-245bSEXTANT-1245bSEXTANT-345bSEXTANT-1345bSEXTANT-2345bSEXTANT-12345bSEXTANT-6bSEXTANT",
   "-16bSEXTANT-26bSEXTANT-126bSEXTANT-36bSEXTANT-136bSEXTANT-236bSEXTANT-1236bSEXTANT-46bSEXTANT-",
   "146bSEXTANT-1246bSEXTANT-346bSEXTANT-1346bSEXTANT-2346bSEXTANT-12346bSEXTANT-56bSEXTANT-156bSE",
   "XTANT-256bSEXTANT-1256bSEXTANT-356bSEXTANT-1356bSEXTANT-2356bSEXTANT-12356bSEXTANT-456bSEXTANT",
   "-1456bSEXTANT-2456bSEXTANT-12456bSEXTANT-3456bSEXTANT-13456bSEXTANT-23456azQyroLrNzQ!Dyr?+zQpE",
   "j+3e_L!Dyr?+zQpEj+3fyr?+zQpEb+3oLrN_L!Dyr?+_LpEj+3ezQ!Dyr?+_LpEj+3fyr?+_LpEf!Dyr?+_L!D+3fpE?+z",
   "Q!D+3fyr?+zQ!D+3fpE?+_L!D+3fyr?+_L!D+3fpE?+_L+3byroLrN_LpE?+_L!D+3fyr?+_L!D+3fpE?+zQ!D+3fyr?+z",
   "Q!D+3fpE?+zQ+3f!Dyr?+zQ!D+3a_L+3oLrNzQ!Dyr?+zQpEj+3e_L!Dyr?+zQpEj+3fyr?+zQpEbyroLrN_L!Dyr?+_Lp",
   "Ej+3ezQ!Dyr?+_LpEj+3fyr?+_LpEf!Dyr?+_L!D+3fpE?+zQ!D+3fyr?+zQ!D+3fpE?+_L!D+3fyr?+_L!D+3fpE?+_L+",
   "3b+3oLrN_LpE?+_L!D+3fyr?+_L!D+3fpE?+zQ!D+3fyr?+zQ!D+3fpE?+zQ+3f!Dyr?+zQ!D+3bm5+3m5zQ^V?5*6oLay",
   "rm5zQm5+3^V?5*6oLa_Lm5yrm5zQ^V?5*6oLayrm5_Lm5+3^V?5*6oLb^V%G*5oLa_L^V%G*5oLa+3^V%G*5oLazQ^V%G*",
   "5oLa_1%GsOBLOCK-2dBLOCK-3dBLOCK-4dBLOCK-5dBLOCK-6dBLOCK-7av|%GsOBLOCK-2dBLOCK-3dBLOCK-4dBLOCK-",
   "5dBLOCK-6dBLOCK-7ayrm5zQ%GsOoLc_L%GsOoLa+3m5_L%GsOoLczQ%GsOoLa_Lm5zQ%GsOoLav|%GsOBLOCK-1358a_L",
   "%G*5oLb?5sPoLbtpsPoLb?5*6oLb,tsPoLa+3%G*5oLb?5sPoLbtpsPoLb?5*6oLb,tsPoLayrvIz,,za+3vIz,,za_LvI",
   "z,,zazQvIz,,zawxz,,za_LvIoLm5zQvIwxz,,zcwxz,,zm5zQvIoLa~2~yrvIwxz,,zm5+3vIoLapPoOt1awxpPoOt1av",
   "pv|t1a_Lyr?+zQ+3t1b+3?+zQyrt1bm5zQ^VvIoLayrm5+3^VvIoLa_Lyr^Vz,,zb+3^Vz,,zazQ+3^Vz,,zbyr^Vz,,za",
   "oXDRAWINGSy;rN_LpE?+!Dyri+3e!Dyr?+zQpEf+3?+zQpEe_LpE?+!Dyr?+zQpEi+3?+zQpEe!Dyr?+zQpE?+!D+3h_Lp",
   "E?+!D+3e_LpE?+!Dyrm5!D+3?+zQpEi+3m5!Dyr?+zQpEj?+zQpE?+!Dyriyr?+zQpE?+!D+3e!Dyr?+_LpE?+!D+3?+zQ",
   "pEf+3?+_LpE?+!Dyr?+zQpEerQdv||B_1;raARROWHEAD-SHAPED&vawxpOzqayrvI+:zma+3vI+:zmawxr:m^|B?&yxay",
   "xm^m5_Lm5zQ%GsOoLa+9m^m5_Lm5zQ%GsOoLar:m^m5+3%GsOoLa_Om^m5+3%GsOoLayrvIt,a+3vIt,aVOIDEDu;qNa+3",
   "%J;Nrwa!_rNqNc!D+3?+zQpEcrQa_:vp,D|B+$qHayr?T_:+3&ww6a!D?T_:+3&ww6a+3?T_:+3&ww6a!_;N*8zqa;5tZc",
   "|BARMS*tcLEANINGyrd+3c|BDRESSa_:_JCHEVRONa~26~SEGMENTEDrW|%c%Gc^+c?5cuBctpc:qc,tcsMc$Wa~C0408~",
   "LANGUAGE.TAGa~1F~TAG;Cbs?zqb*mzqb$x:Vbrv:Vb&H:Vbm3bmxbyr%*b+3%*bnJb&q:VbpybwJbuL;8b:_brW|%c%Gc",
   "^+c?5cuBctpc:qc,tcsMc$Wbpwb,mby%:Vbsu:Vbu::Vb*8zqbpznMby9o,y&AeBeCeDeEeFeGeHeIeJeKeLeMeNeOePeQ",
   "eReSeTeUeVeWeXeYeZbyr;MoYb+E:_b+3;MoYbp7mFbzOy?bu+mFby9:*y&AeBeCeDeEeFeGeHeIeJeKeLeMeNeOePeQeR",
   "eSeTeUeVeWeXeYeZbyrq1oYb_1y?b+3q1oYb?zao%TAGa~81~_WSELECTOR-17bSELECTOR-18bSELECTOR-19bSELECTO",
   "R-20bSELECTOR-21bSELECTOR-22bSELECTOR-23bSELECTOR-24bSELECTOR-25bSELECTOR-26bSELECTOR-27bSELEC",
   "TOR-28bSELECTOR-29bSELECTOR-30bSELECTOR-31bSELECTOR-32bSELECTOR-33bSELECTOR-34bSELECTOR-35bSEL",
   "ECTOR-36bSELECTOR-37bSELECTOR-38bSELECTOR-39bSELECTOR-40bSELECTOR-41bSELECTOR-42bSELECTOR-43bS",
   "ELECTOR-44bSELECTOR-45bSELECTOR-46bSELECTOR-47bSELECTOR-48bSELECTOR-49bSELECTOR-50bSELECTOR-51",
   "bSELECTOR-52bSELECTOR-53bSELECTOR-54bSELECTOR-55bSELECTOR-56bSELECTOR-57bSELECTOR-58bSELECTOR-",
   "59bSELECTOR-60bSELECTOR-61bSELECTOR-62bSELECTOR-63bSELECTOR-64bSELECTOR-65bSELECTOR-66bSELECTO",
   "R-67bSELECTOR-68bSELECTOR-69bSELECTOR-70bSELECTOR-71bSELECTOR-72bSELECTOR-73bSELECTOR-74bSELEC",
   "TOR-75bSELECTOR-76bSELECTOR-77bSELECTOR-78bSELECTOR-79bSELECTOR-80bSELECTOR-81bSELECTOR-82bSEL",
   "ECTOR-83bSELECTOR-84bSELECTOR-85bSELECTOR-86bSELECTOR-87bSELECTOR-88bSELECTOR-89bSELECTOR-90bS",
   "ELECTOR-91bSELECTOR-92bSELECTOR-93bSELECTOR-94bSELECTOR-95bSELECTOR-96bSELECTOR-97bSELECTOR-98",
   "bSELECTOR-99bSELECTOR-100bSELECTOR-101bSELECTOR-102bSELECTOR-103bSELECTOR-104bSELECTOR-105bSEL",
   "ECTOR-106bSELECTOR-107bSELECTOR-108bSELECTOR-109bSELECTOR-110bSELECTOR-111bSELECTOR-112bSELECT",
   "OR-113bSELECTOR-114bSELECTOR-115bSELECTOR-116bSELECTOR-117bSELECTOR-118bSELECTOR-119bSELECTOR-",
   "120bSELECTOR-121bSELECTOR-122bSELECTOR-123bSELECTOR-124bSELECTOR-125bSELECTOR-126bSELECTOR-127",
   "bSELECTOR-128bSELECTOR-129bSELECTOR-130bSELECTOR-131bSELECTOR-132bSELECTOR-133bSELECTOR-134bSE",
   "LECTOR-135bSELECTOR-136bSELECTOR-137bSELECTOR-138bSELECTOR-139bSELECTOR-140bSELECTOR-141bSELEC",
   "TOR-142bSELECTOR-143bSELECTOR-144bSELECTOR-145bSELECTOR-146bSELECTOR-147bSELECTOR-148bSELECTOR",
   "-149bSELECTOR-150bSELECTOR-151bSELECTOR-152bSELECTOR-153bSELECTOR-154bSELECTOR-155bSELECTOR-15",
   "6bSELECTOR-157bSELECTOR-158bSELECTOR-159bSELECTOR-160bSELECTOR-161bSELECTOR-162bSELECTOR-163bS",
   "ELECTOR-164bSELECTOR-165bSELECTOR-166bSELECTOR-167bSELECTOR-168bSELECTOR-169bSELECTOR-170bSELE",
   "CTOR-171bSELECTOR-172bSELECTOR-173bSELECTOR-174bSELECTOR-175bSELECTOR-176bSELECTOR-177bSELECTO",
   "R-178bSELECTOR-179bSELECTOR-180bSELECTOR-181bSELECTOR-182bSELECTOR-183bSELECTOR-184bSELECTOR-1",
   "85bSELECTOR-186bSELECTOR-187bSELECTOR-188bSELECTOR-189bSELECTOR-190bSELECTOR-191bSELECTOR-192b",
   "SELECTOR-193bSELECTOR-194bSELECTOR-195bSELECTOR-196bSELECTOR-197bSELECTOR-198bSELECTOR-199bSEL",
   "ECTOR-200bSELECTOR-201bSELECTOR-202bSELECTOR-203bSELECTOR-204bSELECTOR-205bSELECTOR-206bSELECT",
   "OR-207bSELECTOR-208bSELECTOR-209bSELECTOR-210bSELECTOR-211bSELECTOR-212bSELECTOR-213bSELECTOR-",
   "214bSELECTOR-215bSELECTOR-216bSELECTOR-217bSELECTOR-218bSELECTOR-219bSELECTOR-220bSELECTOR-221",
   "bSELECTOR-222bSELECTOR-223bSELECTOR-224bSELECTOR-225bSELECTOR-226bSELECTOR-227bSELECTOR-228bSE",
   "LECTOR-229bSELECTOR-230bSELECTOR-231bSELECTOR-232bSELECTOR-233bSELECTOR-234bSELECTOR-235bSELEC",
   "TOR-236bSELECTOR-237bSELECTOR-238bSELECTOR-239bSELECTOR-240bSELECTOR-241bSELECTOR-242bSELECTOR",
   "-243bSELECTOR-244bSELECTOR-245bSELECTOR-246bSELECTOR-247bSELECTOR-248bSELECTOR-249bSELECTOR-25",
   "0bSELECTOR-251bSELECTOR-252bSELECTOR-253bSELECTOR-254bSELECTOR-255bSELECTOR-256"]

end Conform.CharacterName
