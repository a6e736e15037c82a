import TextGrammar.Unicode.Category

/-!
How many columns of a fixed-width display a character takes: two for wide characters, none
for those drawn onto another or not drawn at all, and one for all others.
-/

namespace TextGrammar.Unicode

def wideCharacters : List CodeRange :=
  CodeRange.ofTable "1100-115F 231A-231B 2329-232A 23E9-23EC 23F0 23F3 25FD-25FE 2614-2615 2648-2653 267F 2693 26A1
26AA-26AB 26BD-26BE 26C4-26C5 26CE 26D4 26EA 26F2-26F3 26F5 26FA 26FD 2705 270A-270B 2728 274C
274E 2753-2755 2757 2795-2797 27B0 27BF 2B1B-2B1C 2B50 2B55 2E80-2E99 2E9B-2EF3 2F00-2FD5
2FF0-2FFB 3000-3029 3030-303E 3041-3096 309B-30FF 3105-312F 3131-3163 3165-318E 3190-31E3
31F0-321E 3220-3247 3250-4DBF 4E00-A48C A490-A4C6 A960-A97C AC00-D7A3 F900-FAFF FE10-FE19
FE30-FE52 FE54-FE66 FE68-FE6B FF01-FF60 FFE0-FFE6 16FE0-16FE3 16FF2-16FF6 17000-18CD5
18CFF-18D1E 18D80-18DF2 1AFF0-1AFF3 1AFF5-1AFFB 1AFFD-1AFFE 1B000-1B122 1B132 1B150-1B152 1B155
1B164-1B167 1B170-1B2FB 1F004 1F0CF 1F18E 1F191-1F19A 1F1E6-1F202 1F210-1F23B 1F240-1F248
1F250-1F251 1F260-1F265 1F300-1F320 1F32D-1F335 1F337-1F37C 1F37E-1F393 1F3A0-1F3CA 1F3CF-1F3D3
1F3E0-1F3F0 1F3F4 1F3F8-1F43E 1F440 1F442-1F4FC 1F4FF-1F53D 1F54B-1F54E 1F550-1F567 1F57A
1F595-1F596 1F5A4 1F5FB-1F64F 1F680-1F6C5 1F6CC 1F6D0-1F6D2 1F6D5-1F6D8 1F6DC-1F6DF 1F6EB-1F6EC
1F6F4-1F6FC 1F7E0-1F7EB 1F7F0 1F90C-1F93A 1F93C-1F945 1F947-1F9FF 1FA70-1FA7C 1FA80-1FA8A
1FA8E-1FAC6 1FAC8 1FACD-1FADC 1FADF-1FAEA 1FAEF-1FAF8 20000-2FFFD 30000-3FFFD"

def undrawnCharacters : List CodeRange :=
  CodeRange.ofTable "AD 61C 9BE 9D7 B3E B57 BBE BD7 CC0 CC2 CC7-CC8 CCA-CCB CD5-CD6 D3E D57 DCF DDF 1160-11FF 1715
1734 180E 1B35 1B3B 1B3D 1B43-1B44 1BAA 1BF2-1BF3 200B-200F 202A-202E 2060-206F 302E-302F 3164
A953 A9C0 D7B0-D7FF FEFF FF9E-FFA0 FFF0-FFF8 111C0 11235 1133E 1134D 11357 113B8 113C2 113C5
113C7-113C9 113CF 114B0 114BD 115AF 116B6 11930 1193D 11F41 16FF0-16FF1 1BCA0-1BCA3 1D165-1D166
1D16D-1D17A E0000-E00FF E01F0-E0FFF"

def columns (c : Char) : Nat :=
  if c.toNat < 0x80 then 1
  else if inRanges wideCharacters c.toNat then 2
  else match Category.of c with
    | .nonspacingMark | .enclosingMark => 0
    | _ => if inRanges undrawnCharacters c.toNat then 0 else 1

end TextGrammar.Unicode
