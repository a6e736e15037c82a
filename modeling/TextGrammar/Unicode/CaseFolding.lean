import TextGrammar.Unicode.CodeRanges

/-!
Simple case folding. Characters that differ in case alone form a class, and the class is
named by its least member. A table entry `E0-F6/1:20` says that every code point from
`E0` to `F6` in steps of one belongs to the class of the code point `20` below it.
-/

namespace TextGrammar.Unicode

/-- An arithmetic progression of code points, each `shift` above the least of its class. -/
structure FoldRun where
  first : Nat
  last : Nat
  stride : Nat
  shift : Nat
  deriving DecidableEq, Repr

def FoldRun.covers (run : FoldRun) (code : Nat) : Bool :=
  run.first ≤ code && code ≤ run.last && (code - run.first) % run.stride == 0

def FoldRun.ofWord (word : List Char) : FoldRun :=
  let span := word.takeWhile (· ≠ '/')
  let rest := word.drop (span.length + 1)
  let stride := rest.takeWhile (· ≠ ':')
  let range := CodeRange.ofWord span
  ⟨range.first, range.last, ofHexDigits stride, ofHexDigits (rest.drop (stride.length + 1))⟩

def foldRuns : List FoldRun :=
  (tableWords foldTable).map FoldRun.ofWord
where
  foldTable : String :=
"61-7A/1:20 E0-F6/1:20 F8-FE/1:20 101-12F/2:1 133-137/2:1 13A-148/2:1 14B-177/2:1 178-178/1:79
17A-17E/2:1 17F-17F/1:12C 183-185/2:1 188-188/1:1 18C-18C/1:1 192-192/1:1 199-199/1:1
1A1-1A5/2:1 1A8-1A8/1:1 1AD-1AD/1:1 1B0-1B0/1:1 1B4-1B6/2:1 1B9-1B9/1:1 1BD-1BD/1:1 1C5-1C5/1:1
1C6-1C6/1:2 1C8-1C8/1:1 1C9-1C9/1:2 1CB-1CB/1:1 1CC-1CC/1:2 1CE-1DC/2:1 1DD-1DD/1:4F 1DF-1EF/2:1
1F2-1F2/1:1 1F3-1F3/1:2 1F5-1F5/1:1 1F6-1F6/1:61 1F7-1F7/1:38 1F9-21F/2:1 220-220/1:82
223-233/2:1 23C-23C/1:1 23D-23D/1:A3 242-242/1:1 243-243/1:C3 247-24F/2:1 253-253/1:D2
254-254/1:CE 256-257/1:CD 259-259/1:CA 25B-25B/1:CB 260-260/1:CD 263-263/1:CF 268-268/1:D1
269-269/1:D3 26F-26F/1:D3 272-272/1:D5 275-275/1:D6 280-280/1:DA 283-283/1:DA 288-288/1:DA
289-289/1:45 28A-28B/1:D9 28C-28C/1:47 292-292/1:DB 371-373/2:1 377-377/1:1 399-399/1:54
39C-39C/1:2E7 3AC-3AC/1:26 3AD-3AF/1:25 3B1-3B8/1:20 3B9-3B9/1:74 3BA-3BB/1:20 3BC-3BC/1:307
3BD-3C1/1:20 3C2-3C2/1:1F 3C3-3CB/1:20 3CC-3CC/1:40 3CD-3CE/1:3F 3D0-3D0/1:3E 3D1-3D1/1:39
3D5-3D5/1:2F 3D6-3D6/1:36 3D7-3D7/1:8 3D9-3EF/2:1 3F0-3F0/1:56 3F1-3F1/1:50 3F3-3F3/1:74
3F4-3F4/1:5C 3F5-3F5/1:60 3F8-3F8/1:1 3F9-3F9/1:7 3FB-3FB/1:1 3FD-3FF/1:82 430-44F/1:20
450-45F/1:50 461-481/2:1 48B-4BF/2:1 4C2-4CE/2:1 4CF-4CF/1:F 4D1-52F/2:1 561-586/1:30
13F8-13FD/1:8 1C80-1C80/1:186E 1C81-1C81/1:186D 1C82-1C82/1:1864 1C83-1C84/1:1862
1C85-1C85/1:1863 1C86-1C86/1:185C 1C87-1C87/1:1825 1C8A-1C8A/1:1 1C90-1CBA/1:BC0 1CBD-1CBF/1:BC0
1E01-1E95/2:1 1E9B-1E9B/1:3B 1E9E-1E9E/1:1DBF 1EA1-1EFF/2:1 1F08-1F0F/1:8 1F18-1F1D/1:8
1F28-1F2F/1:8 1F38-1F3F/1:8 1F48-1F4D/1:8 1F59-1F5F/2:8 1F68-1F6F/1:8 1F88-1F8F/1:8
1F98-1F9F/1:8 1FA8-1FAF/1:8 1FB8-1FB9/1:8 1FBA-1FBB/1:4A 1FBC-1FBC/1:9 1FBE-1FBE/1:1C79
1FC8-1FCB/1:56 1FCC-1FCC/1:9 1FD3-1FD3/1:1C43 1FD8-1FD9/1:8 1FDA-1FDB/1:64 1FE3-1FE3/1:1C33
1FE8-1FE9/1:8 1FEA-1FEB/1:70 1FEC-1FEC/1:7 1FF8-1FF9/1:80 1FFA-1FFB/1:7E 1FFC-1FFC/1:9
2126-2126/1:1D7D 212A-212A/1:20DF 212B-212B/1:2066 214E-214E/1:1C 2170-217F/1:10 2184-2184/1:1
24D0-24E9/1:1A 2C30-2C5F/1:30 2C61-2C61/1:1 2C62-2C62/1:29F7 2C63-2C63/1:EE6 2C64-2C64/1:29E7
2C65-2C65/1:2A2B 2C66-2C66/1:2A28 2C68-2C6C/2:1 2C6D-2C6D/1:2A1C 2C6E-2C6E/1:29FD
2C6F-2C6F/1:2A1F 2C70-2C70/1:2A1E 2C73-2C73/1:1 2C76-2C76/1:1 2C7E-2C7F/1:2A3F 2C81-2CE3/2:1
2CEC-2CEE/2:1 2CF3-2CF3/1:1 2D00-2D25/1:1C60 2D27-2D27/1:1C60 2D2D-2D2D/1:1C60 A641-A649/2:1
A64A-A64A/1:89C2 A64B-A64B/1:89C3 A64D-A66D/2:1 A681-A69B/2:1 A723-A72F/2:1 A733-A76F/2:1
A77A-A77C/2:1 A77D-A77D/1:8A04 A77F-A787/2:1 A78C-A78C/1:1 A78D-A78D/1:A528 A791-A793/2:1
A797-A7A9/2:1 A7AA-A7AA/1:A544 A7AB-A7AB/1:A54F A7AC-A7AC/1:A54B A7AD-A7AD/1:A541
A7AE-A7AE/1:A544 A7B0-A7B0/1:A512 A7B1-A7B1/1:A52A A7B2-A7B2/1:A515 A7B5-A7C3/2:1 A7C4-A7C4/1:30
A7C5-A7C5/1:A543 A7C6-A7C6/1:8A38 A7C8-A7CA/2:1 A7CB-A7CB/1:A567 A7CD-A7DB/2:1 A7DC-A7DC/1:A641
A7F6-A7F6/1:1 AB53-AB53/1:3A0 AB70-ABBF/1:97D0 FB06-FB06/1:1 FF41-FF5A/1:20 10428-1044F/1:28
104D8-104FB/1:28 10597-105A1/1:27 105A3-105B1/1:27 105B3-105B9/1:27 105BB-105BC/1:27
10CC0-10CF2/1:40 10D70-10D85/1:20 118C0-118DF/1:20 16E60-16E7F/1:20 16EBB-16ED3/1:1B
1E922-1E943/1:22"

def foldCode (code : Nat) : Nat :=
  match foldRuns.find? (·.covers code) with
  | some run => code - run.shift
  | none => code

def caseVariants (c : Char) : List Char :=
  let least := foldCode c.toNat
  Char.ofNat least ::
    (foldRuns.filter (fun run => run.covers (least + run.shift))).map
      (fun run => Char.ofNat (least + run.shift))

end TextGrammar.Unicode
