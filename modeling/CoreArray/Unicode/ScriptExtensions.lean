import CoreArray.Unicode.Ranges
import CoreArray.Unicode.Script
set_option autoImplicit false

/-!
# The scripts in which a character is used

Most characters are used in the script they belong to.  Some marks and signs are
shared by several scripts, or belong to none and are used in a few all the same.
The words for these are a range of code points and the codes of the scripts.
-/

namespace CoreArray.Unicode

/-- The shared characters as they are written. -/
def sharedLines : List String :=
  [ "B7=Avst+Cari+Copt+Dupl+Elba+Geor+Glag+Gong+Goth+Grek B7=Hani+Latn+Lydi+Mahj+Perm+Shaw"
  , "2BC=Beng+Cyrl+Deva+Latn+Lisu+Thai+Toto 2C7=Bopo+Latn 2C9-2CB=Bopo+Latn 2CD=Latn+Lisu"
  , "2D7=Latn+Thai 2D9=Bopo+Latn 300=Cher+Copt+Cyrl+Grek+Latn+Perm+Sunu+Tale"
  , "301=Cher+Cyrl+Grek+Latn+Osge+Sunu+Tale+Todr 302=Cher+Cyrl+Latn+Tfng"
  , "303=Glag+Latn+Sunu+Syrc+Thai 304=Aghb+Cher+Copt+Cyrl+Goth+Grek+Latn+Osge+Syrc+Tfng+Todr"
  , "305=Copt+Elba+Glag+Goth+Kana+Latn 306=Cyrl+Grek+Latn+Perm+Tfng"
  , "307=Copt+Dupl+Hebr+Latn+Perm+Syrc+Tale+Tfng+Todr"
  , "308=Armn+Cyrl+Dupl+Goth+Grek+Hebr+Latn+Perm+Syrc+Tale+Tfng 309=Latn+Tfng"
  , "30A=Dupl+Latn+Syrc 30B=Cher+Cyrl+Latn+Osge 30C=Cher+Latn+Tale 30D=Latn+Sunu"
  , "30E=Ethi+Latn 310=Latn+Sunu 311=Cyrl+Latn+Todr 313=Grek+Latn+Perm+Todr"
  , "323=Cher+Dupl+Kana+Latn+Syrc+Tfng 324=Cher+Dupl+Latn+Syrc 325=Latn+Syrc"
  , "32D=Latn+Sunu+Syrc 32E=Latn+Syrc 330=Cher+Latn+Syrc"
  , "331=Aghb+Cher+Goth+Latn+Sunu+Syrc+Thai 342=Grek 345=Grek 358=Latn+Osge"
  , "35E=Aghb+Latn+Todr 363-36F=Latn 374=Copt+Grek 375=Copt+Grek 483=Cyrl+Perm 484=Cyrl+Glag"
  , "485-486=Cyrl+Latn 487=Cyrl+Glag 589=Armn+Geor+Glag"
  , "60C=Arab+Gara+Nkoo+Rohg+Syrc+Thaa+Yezi 61B=Arab+Gara+Nkoo+Rohg+Syrc+Thaa+Yezi"
  , "61C=Arab+Syrc+Thaa 61F=Adlm+Arab+Gara+Nkoo+Rohg+Syrc+Thaa+Yezi"
  , "640=Adlm+Arab+Mand+Mani+Ougr+Phlp+Rohg+Sogd+Syrc 64B-655=Arab+Syrc"
  , "660-669=Arab+Thaa+Yezi 670=Arab+Syrc 6D4=Arab+Rohg"
  , "951=Beng+Deva+Gran+Gujr+Guru+Knda+Latn+Mlym+Nand+Newa+Orya+Shrd+Taml+Telu+Tirh"
  , "952=Beng+Deva+Gran+Gujr+Guru+Knda+Latn+Mlym+Newa+Orya+Taml+Telu+Tirh"
  , "964=Beng+Deva+Dogr+Gong+Gonm+Gran+Gujr+Guru+Knda+Mahj+Mlym+Nand+Onao+Orya+Sind+Sinh+Sylo+Takr+Taml+Telu+Tirh"
  , "965=Beng+Deva+Dogr+Gong+Gonm+Gran+Gujr+Gukh+Guru+Knda+Limb+Mahj+Mlym+Nand+Onao+Orya+Sind+Sinh+Sylo+Takr+Taml+Telu+Tirh"
  , "966-96F=Deva+Dogr+Kthi+Mahj 9E6-9EF=Beng+Cakm+Sylo A66-A6F=Guru+Mult AE6-AEF=Gujr+Khoj"
  , "BE6-BF3=Gran+Taml CE6-CEF=Knda+Nand+Tutg 1040-1049=Cakm+Mymr+Tale 10FB=Geor+Glag+Latn"
  , "16EB-16ED=Runr 1735-1736=Buhd+Hano+Tagb+Tglg 1802-1803=Mong+Phag 1805=Mong+Phag"
  , "1CD0=Beng+Deva+Gran+Knda 1CD1=Deva 1CD2=Beng+Deva+Gran+Knda 1CD3=Deva+Gran+Knda"
  , "1CD4=Deva 1CD5=Beng+Deva+Newa+Telu+Tirh 1CD6=Beng+Deva+Telu 1CD7=Deva+Newa+Shrd"
  , "1CD8=Beng+Deva+Newa+Telu 1CD9=Deva+Shrd 1CDA=Deva+Knda+Mlym+Orya+Taml+Telu 1CDB=Deva"
  , "1CDC-1CDD=Deva+Shrd 1CDE-1CDF=Deva 1CE0=Deva+Shrd 1CE1=Beng+Deva 1CE2=Deva+Newa+Tirh"
  , "1CE3-1CE8=Deva 1CE9=Deva+Nand+Newa 1CEA=Beng+Deva+Shrd 1CEB=Deva+Newa 1CEC=Deva"
  , "1CED=Beng+Deva+Newa+Shrd 1CEE-1CF1=Deva"
  , "1CF2=Beng+Deva+Gran+Knda+Mlym+Nand+Orya+Sinh+Telu+Tirh+Tutg 1CF3=Deva+Gran"
  , "1CF4=Deva+Gran+Knda+Tutg 1CF5-1CF6=Beng+Deva 1CF7=Beng 1CF8-1CF9=Deva+Gran 1CFA=Nand"
  , "1DC0-1DC1=Grek 1DF8=Cyrl+Latn+Syrc 1DFA=Syrc 202F=Latn+Mong+Phag 204F=Adlm+Arab"
  , "205A=Cari+Geor+Glag+Hung+Lyci+Orkh 205D=Cari+Grek+Hung+Mero 20F0=Deva+Gran+Latn"
  , "2E17=Copt+Latn 2E30=Avst+Orkh 2E31=Avst+Cari+Geor+Hung+Kthi+Lydi+Samr 2E3C=Dupl"
  , "2E41=Adlm+Arab+Hung 2E43=Cyrl+Glag 2FF0-2FFF=Hani+Tang"
  , "3001=Bopo+Hang+Hani+Hira+Kana+Mong+Yiii 3002=Bopo+Hang+Hani+Hira+Kana+Mong+Phag+Yiii"
  , "3003=Bopo+Hang+Hani+Hira+Kana 3006=Hani"
  , "3008-3009=Bopo+Hang+Hani+Hira+Kana+Mong+Tibt+Yiii"
  , "300A-300B=Bopo+Hang+Hani+Hira+Kana+Lisu+Mong+Tibt+Yiii"
  , "300C-3011=Bopo+Hang+Hani+Hira+Kana+Yiii 3013=Bopo+Hang+Hani+Hira+Kana"
  , "3014-301B=Bopo+Hang+Hani+Hira+Kana+Yiii 301C-301F=Bopo+Hang+Hani+Hira+Kana"
  , "302A-302D=Bopo+Hani 3030=Bopo+Hang+Hani+Hira+Kana 3031-3035=Hira+Kana"
  , "3037=Bopo+Hang+Hani+Hira+Kana 303C-303D=Hani+Hira+Kana 303E-303F=Hani"
  , "3099-309A=Hira+Kana 309B-309C=Hira+Kana 30A0=Hira+Kana"
  , "30FB=Bopo+Hang+Hani+Hira+Kana+Yiii 30FC=Hira+Kana 3190-319F=Hani 31C0-31E5=Hani"
  , "31EF=Hani+Tang 3220-3247=Hani 3280-32B0=Hani 32C0-32CB=Hani 32FF=Hani 3358-3370=Hani"
  , "337B-337F=Hani 33E0-33FE=Hani A66F=Cyrl+Glag A700-A707=Hani+Latn"
  , "A830-A832=Deva+Dogr+Gujr+Guru+Khoj+Knda+Kthi+Mahj+Mlym+Modi+Nand+Shrd+Sind+Takr+Tirh+Tutg"
  , "A833-A835=Deva+Dogr+Gujr+Guru+Khoj+Knda+Kthi+Mahj+Modi+Nand+Shrd+Sind+Takr+Tirh+Tutg"
  , "A836-A837=Deva+Dogr+Gujr+Guru+Khoj+Kthi+Mahj+Modi+Sind+Takr+Tirh"
  , "A838=Deva+Dogr+Gujr+Guru+Khoj+Kthi+Mahj+Modi+Shrd+Sind+Takr+Tirh"
  , "A839=Deva+Dogr+Gujr+Guru+Khoj+Kthi+Mahj+Modi+Sind+Takr+Tirh A8F1=Beng+Deva+Tutg"
  , "A8F3=Deva+Taml A92E=Kali+Latn+Mymr A9CF=Bugi+Java FD3E-FD3F=Arab+Nkoo FDF2=Arab+Thaa"
  , "FDFD=Arab+Thaa FE45-FE46=Bopo+Hang+Hani+Hira+Kana"
  , "FF61-FF65=Bopo+Hang+Hani+Hira+Kana+Yiii FF70=Hira+Kana FF9E-FF9F=Hira+Kana"
  , "10100-10101=Cpmn+Cprt+Linb 10102=Cprt+Linb 10107-10133=Cprt+Lina+Linb"
  , "10137-1013F=Cprt+Linb 102E0=Arab+Copt 102E1-102FB=Arab+Copt 10AF2=Mani+Ougr"
  , "11301=Gran+Taml 11303=Gran+Taml 1133B=Gran+Taml 1133C=Gran+Taml 11FD0-11FD1=Gran+Taml"
  , "11FD3=Gran+Taml 1BCA0-1BCA3=Dupl 1D360-1D371=Hani 1F250-1F251=Hani" ]

/-- Read the word for a range of shared characters. -/
def readShared (word : List Char) : Option ((Nat × Nat) × List Script) := do
  let (range, codes) ← Text.cutOnce (· == '=') word
  return (← Ranges.readWord range, (Text.cuts (· == '+') codes).map String.ofList)

/-- The ranges of shared characters with their scripts. -/
def sharedRanges : List ((Nat × Nat) × List Script) :=
  (sharedLines.flatMap fun line => Text.words line.toList).filterMap readShared

/-- The scripts in which a character is used. -/
def scriptsOf (c : Char) : List Script :=
  match sharedRanges.filter fun (range, _) => Ranges.has [range] c with
  | [] => [scriptOf c]
  | entries => entries.flatMap Prod.snd

end CoreArray.Unicode
