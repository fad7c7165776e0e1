import NotebookGoto.Text.Table

/-!
# Marks

A mark belongs to the character before it. It may take room of its own on the line or not, and it
has a combining class: marks of different classes do not meet, so that their order does not matter,
while marks of class zero keep their place. The table lists the marks of Unicode 17.
-/

namespace NotebookGoto.Domain

open Text

/-- A kind of marks: whether they take room of their own, and their combining class. -/
structure Mark where
  spacing : Bool
  order : Nat
  deriving DecidableEq, Repr

namespace Mark

/-- The kind that the end of a word writes: `n` for marks without room of their own and `s` for
those with it, then the class unless it is zero. -/
def ofWord? : List Char → Option Mark
  | '=' :: 'n' :: digits => some ⟨false, Decimal.value digits⟩
  | '=' :: 's' :: digits => some ⟨true, Decimal.value digits⟩
  | _ => none

/-- The marks. -/
def rows : List String :=
  ["300-314=n230 315=n232 316-319=n220 31A=n232 31B=n216 31C-320=n220 321-322=n202 323-326=n220",
   "327-328=n202 329-333=n220 334-338=n1 339-33C=n220 33D-33F=n230 340-341=n 342=n230 343-344=n",
   "345=n240 346=n230 347-349=n220 34A-34C=n230 34D-34E=n220 34F=n 350-352=n230 353-356=n220",
   "357=n230 358=n232 359-35A=n220 35B=n230 35C=n233 35D-35E=n234 35F=n233 360-361=n234 362=n233",
   "363-36F=n230 483-487=n230 488-489=n 591=n220 592-595=n230 596=n220 597-599=n230 59A=n222",
   "59B=n220 59C-5A1=n230 5A2-5A7=n220 5A8-5A9=n230 5AA=n220 5AB-5AC=n230 5AD=n222 5AE=n228",
   "5AF=n230 5B0=n10 5B1=n11 5B2=n12 5B3=n13 5B4=n14 5B5=n15 5B6=n16 5B7=n17 5B8=n18 5B9-5BA=n19",
   "5BB=n20 5BC=n21 5BD=n22 5BF=n23 5C1=n24 5C2=n25 5C4=n230 5C5=n220 5C7=n18 610-617=n230 618=n30",
   "619=n31 61A=n32 64B=n27 64C=n28 64D=n29 64E=n30 64F=n31 650=n32 651=n33 652=n34 653-654=n230",
   "655-656=n220 657-65B=n230 65C=n220 65D-65E=n230 65F=n220 670=n35 6D6-6DC=n230 6DF-6E2=n230",
   "6E3=n220 6E4=n230 6E7-6E8=n230 6EA=n220 6EB-6EC=n230 6ED=n220 711=n36 730=n230 731=n220",
   "732-733=n230 734=n220 735-736=n230 737-739=n220 73A=n230 73B-73C=n220 73D=n230 73E=n220",
   "73F-741=n230 742=n220 743=n230 744=n220 745=n230 746=n220 747=n230 748=n220 749-74A=n230",
   "7A6-7B0=n 7EB-7F1=n230 7F2=n220 7F3=n230 7FD=n220 816-819=n230 81B-823=n230 825-827=n230",
   "829-82D=n230 859-85B=n220 897-898=n230 899-89B=n220 89C-89F=n230 8CA-8CE=n230 8CF-8D3=n220",
   "8D4-8E1=n230 8E3=n220 8E4-8E5=n230 8E6=n220 8E7-8E8=n230 8E9=n220 8EA-8EC=n230 8ED-8EF=n220",
   "8F0=n27 8F1=n28 8F2=n29 8F3-8F5=n230 8F6=n220 8F7-8F8=n230 8F9-8FA=n220 8FB-8FF=n230 900-902=n",
   "903=s 93A=n 93B=s 93C=n7 93E-940=s 941-948=n 949-94C=s 94D=n9 94E-94F=s 951=n230 952=n220",
   "953-954=n230 955-957=n 962-963=n 981=n 982-983=s 9BC=n7 9BE-9C0=s 9C1-9C4=n 9C7-9C8=s",
   "9CB-9CC=s 9CD=n9 9D7=s 9E2-9E3=n 9FE=n230 A01-A02=n A03=s A3C=n7 A3E-A40=s A41-A42=n A47-A48=n",
   "A4B-A4C=n A4D=n9 A51=n A70-A71=n A75=n A81-A82=n A83=s ABC=n7 ABE-AC0=s AC1-AC5=n AC7-AC8=n",
   "AC9=s ACB-ACC=s ACD=n9 AE2-AE3=n AFA-AFF=n B01=n B02-B03=s B3C=n7 B3E=s B3F=n B40=s B41-B44=n",
   "B47-B48=s B4B-B4C=s B4D=n9 B55-B56=n B57=s B62-B63=n B82=n BBE-BBF=s BC0=n BC1-BC2=s BC6-BC8=s",
   "BCA-BCC=s BCD=n9 BD7=s C00=n C01-C03=s C04=n C3C=n7 C3E-C40=n C41-C44=s C46-C48=n C4A-C4C=n",
   "C4D=n9 C55=n84 C56=n91 C62-C63=n C81=n C82-C83=s CBC=n7 CBE=s CBF=n CC0-CC4=s CC6=n CC7-CC8=s",
   "CCA-CCB=s CCC=n CCD=n9 CD5-CD6=s CE2-CE3=n CF3=s D00-D01=n D02-D03=s D3B-D3C=n9 D3E-D40=s",
   "D41-D44=n D46-D48=s D4A-D4C=s D4D=n9 D57=s D62-D63=n D81=n D82-D83=s DCA=n9 DCF-DD1=s",
   "DD2-DD4=n DD6=n DD8-DDF=s DF2-DF3=s E31=n E34-E37=n E38-E39=n103 E3A=n9 E47=n E48-E4B=n107",
   "E4C-E4E=n EB1=n EB4-EB7=n EB8-EB9=n118 EBA=n9 EBB-EBC=n EC8-ECB=n122 ECC-ECE=n F18-F19=n220",
   "F35=n220 F37=n220 F39=n216 F3E-F3F=s F71=n129 F72=n130 F73=n F74=n132 F75-F79=n F7A-F7D=n130",
   "F7E=n F7F=s F80=n130 F81=n F82-F83=n230 F84=n9 F86-F87=n230 F8D-F97=n F99-FBC=n FC6=n220",
   "102B-102C=s 102D-1030=n 1031=s 1032-1036=n 1037=n7 1038=s 1039-103A=n9 103B-103C=s 103D-103E=n",
   "1056-1057=s 1058-1059=n 105E-1060=n 1062-1064=s 1067-106D=s 1071-1074=n 1082=n 1083-1084=s",
   "1085-1086=n 1087-108C=s 108D=n220 108F=s 109A-109C=s 109D=n 135D-135F=n230 1712-1713=n 1714=n9",
   "1715=s9 1732-1733=n 1734=s9 1752-1753=n 1772-1773=n 17B4-17B5=n 17B6=s 17B7-17BD=n 17BE-17C5=s",
   "17C6=n 17C7-17C8=s 17C9-17D1=n 17D2=n9 17D3=n 17DD=n230 180B-180D=n 180F=n 1885-1886=n",
   "18A9=n228 1920-1922=n 1923-1926=s 1927-1928=n 1929-192B=s 1930-1931=s 1932=n 1933-1938=s",
   "1939=n222 193A=n230 193B=n220 1A17=n230 1A18=n220 1A19-1A1A=s 1A1B=n 1A55=s 1A56=n 1A57=s",
   "1A58-1A5E=n 1A60=n9 1A61=s 1A62=n 1A63-1A64=s 1A65-1A6C=n 1A6D-1A72=s 1A73-1A74=n",
   "1A75-1A7C=n230 1A7F=n220 1AB0-1AB4=n230 1AB5-1ABA=n220 1ABB-1ABC=n230 1ABD=n220 1ABE=n",
   "1ABF-1AC0=n220 1AC1-1AC2=n230 1AC3-1AC4=n220 1AC5-1AC9=n230 1ACA=n220 1ACB-1ADC=n230 1ADD=n220",
   "1AE0-1AE5=n230 1AE6=n220 1AE7-1AEA=n230 1AEB=n234 1B00-1B03=n 1B04=s 1B34=n7 1B35=s",
   "1B36-1B3A=n 1B3B=s 1B3C=n 1B3D-1B41=s 1B42=n 1B43=s 1B44=s9 1B6B=n230 1B6C=n220 1B6D-1B73=n230",
   "1B80-1B81=n 1B82=s 1BA1=s 1BA2-1BA5=n 1BA6-1BA7=s 1BA8-1BA9=n 1BAA=s9 1BAB=n9 1BAC-1BAD=n",
   "1BE6=n7 1BE7=s 1BE8-1BE9=n 1BEA-1BEC=s 1BED=n 1BEE=s 1BEF-1BF1=n 1BF2-1BF3=s9 1C24-1C2B=s",
   "1C2C-1C33=n 1C34-1C35=s 1C36=n 1C37=n7 1CD0-1CD2=n230 1CD4=n1 1CD5-1CD9=n220 1CDA-1CDB=n230",
   "1CDC-1CDF=n220 1CE0=n230 1CE1=s 1CE2-1CE8=n1 1CED=n220 1CF4=n230 1CF7=s 1CF8-1CF9=n230",
   "1DC0-1DC1=n230 1DC2=n220 1DC3-1DC9=n230 1DCA=n220 1DCB-1DCC=n230 1DCD=n234 1DCE=n214 1DCF=n220",
   "1DD0=n202 1DD1-1DF5=n230 1DF6=n232 1DF7-1DF8=n228 1DF9=n220 1DFA=n218 1DFB=n230 1DFC=n233",
   "1DFD=n220 1DFE=n230 1DFF=n220 20D0-20D1=n230 20D2-20D3=n1 20D4-20D7=n230 20D8-20DA=n1",
   "20DB-20DC=n230 20DD-20E0=n 20E1=n230 20E2-20E4=n 20E5-20E6=n1 20E7=n230 20E8=n220 20E9=n230",
   "20EA-20EB=n1 20EC-20EF=n220 20F0=n230 2CEF-2CF1=n230 2D7F=n9 2DE0-2DFF=n230 302A=n218",
   "302B=n228 302C=n232 302D=n222 302E-302F=s224 3099-309A=n8 A66F=n230 A670-A672=n A674-A67D=n230",
   "A69E-A69F=n230 A6F0-A6F1=n230 A802=n A806=n9 A80B=n A823-A824=s A825-A826=n A827=s A82C=n9",
   "A880-A881=s A8B4-A8C3=s A8C4=n9 A8C5=n A8E0-A8F1=n230 A8FF=n A926-A92A=n A92B-A92D=n220",
   "A947-A951=n A952=s A953=s9 A980-A982=n A983=s A9B3=n7 A9B4-A9B5=s A9B6-A9B9=n A9BA-A9BB=s",
   "A9BC-A9BD=n A9BE-A9BF=s A9C0=s9 A9E5=n AA29-AA2E=n AA2F-AA30=s AA31-AA32=n AA33-AA34=s",
   "AA35-AA36=n AA43=n AA4C=n AA4D=s AA7B=s AA7C=n AA7D=s AAB0=n230 AAB2-AAB3=n230 AAB4=n220",
   "AAB7-AAB8=n230 AABE-AABF=n230 AAC1=n230 AAEB=s AAEC-AAED=n AAEE-AAEF=s AAF5=s AAF6=n9",
   "ABE3-ABE4=s ABE5=n ABE6-ABE7=s ABE8=n ABE9-ABEA=s ABEC=s ABED=n9 FB1E=n26 FE00-FE0F=n",
   "FE20-FE26=n230 FE27-FE2D=n220 FE2E-FE2F=n230 101FD=n220 102E0=n220 10376-1037A=n230",
   "10A01-10A03=n 10A05-10A06=n 10A0C=n 10A0D=n220 10A0E=n 10A0F=n230 10A38=n230 10A39=n1",
   "10A3A=n220 10A3F=n9 10AE5=n230 10AE6=n220 10D24-10D27=n230 10D69-10D6D=n230 10EAB-10EAC=n230",
   "10EFA-10EFB=n220 10EFC=n 10EFD-10EFF=n220 10F46-10F47=n220 10F48-10F4A=n230 10F4B=n220",
   "10F4C=n230 10F4D-10F50=n220 10F82=n230 10F83=n220 10F84=n230 10F85=n220 11000=s 11001=n",
   "11002=s 11038-11045=n 11046=n9 11070=n9 11073-11074=n 1107F=n9 11080-11081=n 11082=s",
   "110B0-110B2=s 110B3-110B6=n 110B7-110B8=s 110B9=n9 110BA=n7 110C2=n 11100-11102=n230",
   "11127-1112B=n 1112C=s 1112D-11132=n 11133-11134=n9 11145-11146=s 11173=n7 11180-11181=n",
   "11182=s 111B3-111B5=s 111B6-111BE=n 111BF=s 111C0=s9 111C9=n 111CA=n7 111CB-111CC=n 111CE=s",
   "111CF=n 1122C-1122E=s 1122F-11231=n 11232-11233=s 11234=n 11235=s9 11236=n7 11237=n 1123E=n",
   "11241=n 112DF=n 112E0-112E2=s 112E3-112E8=n 112E9=n7 112EA=n9 11300-11301=n 11302-11303=s",
   "1133B-1133C=n7 1133E-1133F=s 11340=n 11341-11344=s 11347-11348=s 1134B-1134C=s 1134D=s9",
   "11357=s 11362-11363=s 11366-1136C=n230 11370-11374=n230 113B8-113BA=s 113BB-113C0=n 113C2=s",
   "113C5=s 113C7-113CA=s 113CC-113CD=s 113CE=n9 113CF=s9 113D0=n9 113D2=n 113E1-113E2=n",
   "11435-11437=s 11438-1143F=n 11440-11441=s 11442=n9 11443-11444=n 11445=s 11446=n7 1145E=n230",
   "114B0-114B2=s 114B3-114B8=n 114B9=s 114BA=n 114BB-114BE=s 114BF-114C0=n 114C1=s 114C2=n9",
   "114C3=n7 115AF-115B1=s 115B2-115B5=n 115B8-115BB=s 115BC-115BD=n 115BE=s 115BF=n9 115C0=n7",
   "115DC-115DD=n 11630-11632=s 11633-1163A=n 1163B-1163C=s 1163D=n 1163E=s 1163F=n9 11640=n",
   "116AB=n 116AC=s 116AD=n 116AE-116AF=s 116B0-116B5=n 116B6=s9 116B7=n7 1171D=n 1171E=s 1171F=n",
   "11720-11721=s 11722-11725=n 11726=s 11727-1172A=n 1172B=n9 1182C-1182E=s 1182F-11837=n 11838=s",
   "11839=n9 1183A=n7 11930-11935=s 11937-11938=s 1193B-1193C=n 1193D=s9 1193E=n9 11940=s 11942=s",
   "11943=n7 119D1-119D3=s 119D4-119D7=n 119DA-119DB=n 119DC-119DF=s 119E0=n9 119E4=s",
   "11A01-11A0A=n 11A33=n 11A34=n9 11A35-11A38=n 11A39=s 11A3B-11A3E=n 11A47=n9 11A51-11A56=n",
   "11A57-11A58=s 11A59-11A5B=n 11A8A-11A96=n 11A97=s 11A98=n 11A99=n9 11B60=n 11B61=s",
   "11B62-11B64=n 11B65=s 11B66=n 11B67=s 11C2F=s 11C30-11C36=n 11C38-11C3D=n 11C3E=s 11C3F=n9",
   "11C92-11CA7=n 11CA9=s 11CAA-11CB0=n 11CB1=s 11CB2-11CB3=n 11CB4=s 11CB5-11CB6=n 11D31-11D36=n",
   "11D3A=n 11D3C-11D3D=n 11D3F-11D41=n 11D42=n7 11D43=n 11D44-11D45=n9 11D47=n 11D8A-11D8E=s",
   "11D90-11D91=n 11D93-11D94=s 11D95=n 11D96=s 11D97=n9 11EF3-11EF4=n 11EF5-11EF6=s 11F00-11F01=n",
   "11F03=s 11F34-11F35=s 11F36-11F3A=n 11F3E-11F3F=s 11F40=n 11F41=s9 11F42=n9 11F5A=n 13440=n",
   "13447-13455=n 1611E-16129=n 1612A-1612C=s 1612D-1612E=n 1612F=n9 16AF0-16AF4=n1",
   "16B30-16B36=n230 16F4F=n 16F51-16F87=s 16F8F-16F92=n 16FE4=n 16FF0-16FF1=s6 1BC9D=n 1BC9E=n1",
   "1CF00-1CF2D=n 1CF30-1CF46=n 1D165-1D166=s216 1D167-1D169=n1 1D16D=s226 1D16E-1D172=s216",
   "1D17B-1D182=n220 1D185-1D189=n230 1D18A-1D18B=n220 1D1AA-1D1AD=n230 1D242-1D244=n230",
   "1DA00-1DA36=n 1DA3B-1DA6C=n 1DA75=n 1DA84=n 1DA9B-1DA9F=n 1DAA1-1DAAF=n 1E000-1E006=n230",
   "1E008-1E018=n230 1E01B-1E021=n230 1E023-1E024=n230 1E026-1E02A=n230 1E08F=n230",
   "1E130-1E136=n230 1E2AE=n230 1E2EC-1E2EF=n230 1E4EC-1E4ED=n232 1E4EE=n220 1E4EF=n230 1E5EE=n230",
   "1E5EF=n220 1E6E3=n230 1E6E6=n230 1E6EE-1E6EF=n230 1E6F5=n230 1E8D0-1E8D6=n220 1E944-1E949=n230",
   "1E94A=n7 E0100-E01EF=n"]

/-- The table of marks. -/
def table : Table Mark :=
  Table.ofRows ofWord? rows

/-- What kind of mark a character is, if it is one. There is none below U+0300. -/
def of? (c : Char) : Option Mark :=
  if c.toNat < 0x300 then none else (table.span? c).map (·.value)

/-- The combining class of a character, which is zero for all that are no marks. -/
def orderOf (c : Char) : Nat :=
  ((of? c).map (·.order)).getD 0

/-- Whether a character is a mark without room of its own. -/
def isNonspacing (c : Char) : Bool :=
  (of? c).any (!·.spacing)

/-- Whether a character takes the vowel of a consonant away, which is told by its class. -/
def isVirama (c : Char) : Bool :=
  orderOf c = 9

end Mark

end NotebookGoto.Domain
