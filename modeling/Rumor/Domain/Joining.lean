import Rumor.Domain.Composition

namespace Rumor.Domain

-- Whether a letter joins the one behind it or the one in front of it, or lets the
-- others join as if it were not there.
inductive Joining
  | none
  | behind
  | front
  | both
  | transparent
deriving DecidableEq, Repr

namespace Joining

-- Letters that join, with the numbers of their ways in the order above.
def table : Table :=
  .ofText "300-36F=4 483-489=4 591-5BD=4 5BF=4 5C1-5C2=4 5C4-5C5=4 5C7-5C9=4 610-61A=4 620=3 622-625=2
    626=3 627=2 628=3 629=2 62A-62E=3 62F-632=2 633-63F=3 641-647=3 648=2 649-64A=3 64B-65F=4
    66E-66F=3 670=4 671-673=2 679-687=3 688-699=2 69A-6BF=3 6C0=2 6C1-6C2=3 6C3-6CB=2 6CC=3 6CD=2
    6CE=3 6CF=2 6D0-6D1=3 6D2-6D3=2 6D5=2 6D6-6DC=4 6DF-6E4=4 6E7-6E8=4 6EA-6ED=4 6EE-6EF=2
    6FA-6FC=3 6FF=3 710=2 711=4 712-714=3 715-719=2 71A-71D=3 71E=2 71F-727=3 728=2 729=3 72A=2
    72B=3 72C=2 72D-72E=3 72F=2 730-74A=4 74D=2 74E-758=3 759-75B=2 75C-76A=3 76B-76C=2 76D-770=3
    771=2 772=3 773-774=2 775-777=3 778-779=2 77A-77F=3 7A6-7B0=4 7CA-7EA=3 7EB-7F3=4 7FD=4
    816-819=4 81B-823=4 825-827=4 829-82D=4 840=2 841-845=3 846-847=2 848=3 849=2 84A-853=3 854=2
    855=3 856-858=2 859-85B=4 860=3 862-865=3 867=2 868=3 869-882=2 886=3 889-88D=3 88E=2 88F=3
    897-89F=4 8A0-8A9=3 8AA-8AC=2 8AE=2 8AF-8B0=3 8B1-8B2=2 8B3-8B8=3 8B9=2 8BA-8C8=3 8CA-902=4
    93A=4 93C=4 941-948=4 94D=4 951-957=4 962-963=4 981=4 9BC=4 9C1-9C4=4 9CD=4 9E2-9E3=4 9FE-A02=4
    A3C=4 A41-A51=4 A70-A71=4 A75=4 A81-A82=4 ABC=4 AC1-AC8=4 ACD=4 AE2-AE3=4 AFA-B01=4 B3C=4 B3F=4
    B41-B44=4 B4D-B56=4 B62-B63=4 B82=4 BC0=4 BCD=4 C00=4 C04=4 C3C=4 C3E-C40=4 C46-C56=4 C62-C63=4
    C81=4 CBC=4 CBF=4 CC6=4 CCC-CCD=4 CE2-CE3=4 D00-D01=4 D3B-D3C=4 D41-D44=4 D4D=4 D62-D63=4 D81=4
    DCA=4 DD2-DD6=4 E31=4 E34-E3A=4 E47-E4E=4 EB1=4 EB4-EBC=4 EC8-ECE=4 F18-F19=4 F35=4 F37=4 F39=4
    F71-F7E=4 F80-F84=4 F86-F87=4 F8D-FBC=4 FC6=4 102D-1030=4 1032-1037=4 1039-103A=4 103D-103E=4
    1058-1059=4 105E-1060=4 1071-1074=4 1082=4 1085-1086=4 108D=4 109D=4 135D-135F=4 1712-1714=4
    1732-1733=4 1752-1753=4 1772-1773=4 17B7-17BD=4 17C6=4 17C9-17D3=4 17DD=4 1807=3 1820-1878=3
    1885-1886=4 1887-18A8=3 18A9=4 18AA=3 1920-1922=4 1927-1928=4 1932=4 1939-193B=4 1A17-1A18=4
    1A1B=4 1A56=4 1A58-1A60=4 1A62=4 1A65-1A6C=4 1A73-1A7F=4 1AB0-1B03=4 1B34=4 1B36-1B39=4
    1B6B-1B73=4 1B80-1B81=4 1BA2-1BA5=4 1BA8-1BA9=4 1BAB-1BAD=4 1BE6=4 1BE8-1BE9=4 1BED=4
    1BEF-1BF1=4 1C2C-1C33=4 1C36-1C37=4 1CD0-1CD2=4 1CD4-1CE0=4 1CE2-1CE8=4 1CED=4 1CF4=4
    1CF8-1CF9=4 1DC0-1DFF=4 20D0-20F0=4 2CEF-2CF1=4 2D7F=4 2DE0-2DFF=4 302A-302D=4 3099-309A=4
    A66F-A672=4 A674-A67D=4 A69E-A69F=4 A6F0-A6F1=4 A802=4 A806=4 A80B=4 A825-A826=4 A82C=4
    A840-A871=3 A872=1 A8C4-A8C5=4 A8E0-A8F1=4 A8FF=4 A926-A92D=4 A947-A951=4 A980-A982=4 A9B3=4
    A9B6-A9B9=4 A9BC-A9BD=4 A9E5=4 AA29-AA2E=4 AA31-AA32=4 AA35-AA36=4 AA43=4 AA4C=4 AA7C=4 AAB0=4
    AAB2-AAB4=4 AAB7-AAB8=4 AABE-AABF=4 AAC1=4 AAEC-AAED=4 AAF6=4 ABE5=4 ABE8=4 ABED=4 FB1E=4
    FE20-FE2F=4 101FD=4 102E0=4 10376-1037A=4 10A01-10A0F=4 10A38-10A3F=4 10AC0-10AC4=3 10AC5=2
    10AC7=2 10AC9-10ACA=2 10ACD=1 10ACE-10AD2=2 10AD3-10AD6=3 10AD7=1 10AD8-10ADC=3 10ADD=2
    10ADE-10AE0=3 10AE1=2 10AE4=2 10AE5-10AE6=4 10AEB-10AEE=3 10AEF=2 10B80=3 10B81=2 10B82=3
    10B83-10B85=2 10B86-10B88=3 10B89=2 10B8A-10B8B=3 10B8C=2 10B8D=3 10B8E-10B8F=2 10B90=3 10B91=2
    10BA9-10BAC=2 10BAD-10BAE=3 10D00=1 10D01-10D21=3 10D22=2 10D23=3 10D24-10D27=4 10D69-10D6D=4
    10EAB-10EAC=4 10EC2=2 10EC3-10EC4=3 10EC6-10EC7=3 10ED9-10EEE=3 10EFA-10EFF=4 10F30-10F32=3
    10F33=2 10F34-10F44=3 10F46-10F50=4 10F51-10F53=3 10F54=2 10F70-10F73=3 10F74-10F75=2
    10F76-10F81=3 10F82-10F85=4 10FB0=3 10FB2-10FB3=3 10FB4-10FB6=2 10FB8=3 10FB9-10FBA=2
    10FBB-10FBC=3 10FBD=2 10FBE-10FBF=3 10FC1=3 10FC2-10FC3=2 10FC4=3 10FC9=2 10FCA=3 10FCB=1
    11001=4 11038-11046=4 11070=4 11073-11074=4 1107F-11081=4 110B3-110B6=4 110B9-110BA=4 110C2=4
    11100-11102=4 11127-1112B=4 1112D-11134=4 11173=4 11180-11181=4 111B6-111BE=4 111C9-111CC=4
    111CF=4 1122F-11231=4 11234=4 11236-11237=4 1123E=4 11241=4 112DF=4 112E3-112EA=4 11300-11301=4
    1133B-1133C=4 11340=4 11366-11374=4 113BB-113C0=4 113CE=4 113D0=4 113D2=4 113E1-113E2=4
    11438-1143F=4 11442-11444=4 11446=4 1145E=4 114B3-114B8=4 114BA=4 114BF-114C0=4 114C2-114C3=4
    115B2-115B5=4 115BC-115BD=4 115BF-115C0=4 115DC-115DD=4 11633-1163A=4 1163D=4 1163F-11640=4
    116AB=4 116AD=4 116B0-116B5=4 116B7=4 1171D=4 1171F=4 11722-11725=4 11727-1172B=4 1182F-11837=4
    11839-1183A=4 1193B-1193C=4 1193E=4 11943=4 119D4-119DB=4 119E0=4 11A01-11A0A=4 11A33-11A38=4
    11A3B-11A3E=4 11A47=4 11A51-11A56=4 11A59-11A5B=4 11A8A-11A96=4 11A98-11A99=4 11B60=4
    11B62-11B64=4 11B66=4 11C30-11C3D=4 11C3F=4 11C92-11CA7=4 11CAA-11CB0=4 11CB2-11CB3=4
    11CB5-11CB6=4 11D31-11D45=4 11D47=4 11D90-11D91=4 11D95=4 11D97=4 11EF3-11EF4=4 11F00-11F01=4
    11F36-11F3A=4 11F40=4 11F42=4 11F5A=4 13440=4 13447-13455=4 1611E-16129=4 1612D-1612F=4
    16AF0-16AF4=4 16B30-16B36=4 16F4F=4 16F8F-16F92=4 16FE4=4 1BC9D-1BC9E=4 1CF00-1CF46=4
    1D167-1D169=4 1D17B-1D182=4 1D185-1D18B=4 1D1AA-1D1AD=4 1D242-1D244=4 1DA00-1DA36=4
    1DA3B-1DA6C=4 1DA75=4 1DA84=4 1DA9B-1DAAF=4 1E000-1E08F=4 1E130-1E136=4 1E2AE=4 1E2EC-1E2EF=4
    1E4EC-1E4EF=4 1E5EE-1E5EF=4 1E6E3=4 1E6E6=4 1E6EE-1E6EF=4 1E6F5=4 1E8D0-1E8D6=4 1E922-1E943=3
    1E944-1E94B=4"

def ofNumber : Nat → Joining
  | 1 => .behind
  | 2 => .front
  | 3 => .both
  | 4 => .transparent
  | _ => .none

def ofChar (c : Char) : Joining :=
  ofNumber (((table.image? c).bind List.head?).getD 0)

def nearest (letters : List Char) : Joining :=
  (((letters.map ofChar).dropWhile (· = .transparent)).head?).getD .none

-- A mark that takes the vowel from a letter.
def isSilencer (c : Char) : Bool :=
  Composition.placeOf c = 9

def joiner : Char := '\u200D'
def nonJoiner : Char := '\u200C'

-- Joiners make sense behind a mark that takes the vowel from a letter, and those
-- that part letters also where these would join. `read` stands newest first.
def fitFrom (read : List Char) : List Char → Bool
  | [] => true
  | c :: rest =>
      let fits :=
        if c = joiner then (read.head?).any isSilencer
        else if c = nonJoiner then
          (read.head?).any isSilencer ||
            ([Joining.behind, .both].contains (nearest read) &&
              [Joining.front, .both].contains (nearest rest))
        else true
      fits && fitFrom (c :: read) rest

end Joining

end Rumor.Domain
