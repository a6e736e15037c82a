import TextGrammar.Pattern.CharSet

/-!
The names under which a pattern asks for a property of characters: the general
categories and their unions by short and long name, and a few properties beside them.
Case, blanks, dashes, underscores and a leading "is" do not matter in a name.
-/

namespace TextGrammar.Pattern.Reader

open Unicode (Category)

def plainName (name : List Char) : String :=
  let lower := (name.filter (·.toNat < 128)).map Char.toLower
  let bare := match lower with
    | 'i' :: 's' :: rest => rest
    | _ => lower
  String.ofList (bare.filter fun c => c ≠ ' ' && c ≠ '_' && c ≠ '-')

def propertyNamed? (name : List Char) : Option CharSet :=
  match plainName name with
  | "any" => some .any
  | "ascii" => some (.range '\x00' '\x7f')
  | "assigned" => some (.property .assigned)
  | "alphabetic" | "alpha" => some (.property .alphabetic)
  | "whitespace" | "wspace" | "space" => some (.property .blank)
  | "l" | "letter" => some (.property .letter)
  | "lc" | "casedletter" => some (.property .casedLetter)
  | "m" | "mark" | "combiningmark" => some (.property .mark)
  | "n" | "number" => some (.property .number)
  | "p" | "punctuation" | "punct" => some (.property .punctuation)
  | "s" | "symbol" => some (.property .symbol)
  | "z" | "separator" => some (.property .separator)
  | "c" | "other" => some (.property .other)
  | other => (categoryNamed? other).map fun wanted => .property (.category wanted)
where
  categoryNamed? : String → Option Category
    | "lu" | "uppercaseletter" => some .uppercaseLetter
    | "ll" | "lowercaseletter" => some .lowercaseLetter
    | "lt" | "titlecaseletter" => some .titlecaseLetter
    | "lm" | "modifierletter" => some .modifierLetter
    | "lo" | "otherletter" => some .otherLetter
    | "mn" | "nonspacingmark" => some .nonspacingMark
    | "mc" | "spacingmark" => some .spacingMark
    | "me" | "enclosingmark" => some .enclosingMark
    | "nd" | "decimalnumber" | "digit" => some .decimalNumber
    | "nl" | "letternumber" => some .letterNumber
    | "no" | "othernumber" => some .otherNumber
    | "pc" | "connectorpunctuation" => some .connectorPunctuation
    | "pd" | "dashpunctuation" => some .dashPunctuation
    | "ps" | "openpunctuation" => some .openPunctuation
    | "pe" | "closepunctuation" => some .closePunctuation
    | "pi" | "initialpunctuation" => some .initialPunctuation
    | "pf" | "finalpunctuation" => some .finalPunctuation
    | "po" | "otherpunctuation" => some .otherPunctuation
    | "sm" | "mathsymbol" => some .mathSymbol
    | "sc" | "currencysymbol" => some .currencySymbol
    | "sk" | "modifiersymbol" => some .modifierSymbol
    | "so" | "othersymbol" => some .otherSymbol
    | "zs" | "spaceseparator" => some .spaceSeparator
    | "zl" | "lineseparator" => some .lineSeparator
    | "zp" | "paragraphseparator" => some .paragraphSeparator
    | "cc" | "control" | "cntrl" => some .control
    | "cf" | "format" => some .format
    | "cs" | "surrogate" => some .surrogate
    | "co" | "privateuse" => some .privateUse
    | "cn" | "unassigned" => some .unassigned
    | _ => none

/-- The set that the text between the braces of a property escape stands for: a name, or
`General_Category` with a name after `=`, `:` or, for the opposite, `!=`. -/
def propertySet? (text : List Char) : Option CharSet :=
  let field := text.takeWhile fun c => c ≠ '=' && c ≠ ':' && c ≠ '!'
  let isCategoryField : Bool :=
    plainName field = "generalcategory" || plainName field = "gc" || plainName field = "category"
  match text.drop field.length with
  | [] => propertyNamed? text
  | '!' :: '=' :: name =>
      if isCategoryField then (propertyNamed? name).map .complement else none
  | '=' :: name | ':' :: name => if isCategoryField then propertyNamed? name else none
  | _ => none

def asciiClass? (name : List Char) : Option CharSet :=
  match String.ofList name with
  | "alnum" => some (.unions [digits, letters])
  | "alpha" => some letters
  | "ascii" => some (.range '\x00' '\x7f')
  | "blank" => some (.unions [.single '\t', .single ' '])
  | "cntrl" => some (.unions [.range '\x00' '\x1f', .single '\x7f'])
  | "digit" => some digits
  | "graph" => some (.range '!' '~')
  | "lower" => some (.range 'a' 'z')
  | "print" => some (.range ' ' '~')
  | "punct" => some (.unions [.range '!' '/', .range ':' '@', .range '[' '\x60', .range '\x7b' '~'])
  | "space" => some (.unions [.range '\t' '\r', .single ' '])
  | "upper" => some (.range 'A' 'Z')
  | "word" => some (.unions [digits, letters, .single '_'])
  | "xdigit" => some (.unions [digits, .range 'A' 'F', .range 'a' 'f'])
  | _ => none
where
  digits : CharSet := .range '0' '9'
  letters : CharSet := .unions [.range 'A' 'Z', .range 'a' 'z']

end TextGrammar.Pattern.Reader
