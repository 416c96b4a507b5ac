import MemoStore.Pattern.Node
import MemoStore.Text.Blank
import MemoStore.Text.Break
import MemoStore.Text.Folding
import MemoStore.Text.Script
import MemoStore.Text.Word

/-!
# Sets of characters

The sets that the classes of a pattern stand for, built from ranges and named sets, and
the sets that names ask for. In names of sets case, blanks, hyphens and underscores do
not count, and neither does `is` in front.
-/

namespace MemoStore.Pattern

open MemoStore.Text

/-- A set of characters. -/
inductive CharSet where
  | nothing
  | range (first last : Char)
  | word
  | blank
  | property (named : Property)
  | script (code : String)
  | union (left right : CharSet)
  | combined (op : SetOp) (left right : CharSet)
  /-- all characters but those of a set -/
  | others (set : CharSet)
  /-- a set with all forms of its letters -/
  | anyCase (set : CharSet)
  /-- a set with both forms of its ASCII letters -/
  | asciiCase (set : CharSet)
  deriving DecidableEq, Repr

namespace CharSet

/-- Whether a set has a character. -/
def contains : CharSet → Char → Bool
  | .nothing, _ => false
  | .range first last, c => first ≤ c && c ≤ last
  | .word, c => isWord c
  | .blank, c => isBlank c
  | .property named, c => named.contains c
  | .script code, c => Script.of c == some code
  | .union left right, c => left.contains c || right.contains c
  | .combined .both left right, c => left.contains c && right.contains c
  | .combined .without left right, c => left.contains c && !right.contains c
  | .combined .either left right, c => left.contains c != right.contains c
  | .others set, c => !set.contains c
  | .anyCase set, c => (caseForms c.toNat).any fun code => set.contains (Char.ofNat code)
  | .asciiCase set, c => set.contains c || set.contains c.toLower || set.contains c.toUpper

/-- The set of one character. -/
def single (c : Char) : CharSet :=
  .range c c

/-- The set of the characters in some ranges. -/
def ofRanges (ranges : List (Char × Char)) : CharSet :=
  ranges.foldl (fun set (first, last) => .union set (.range first last)) .nothing

/-- All characters. -/
def everything : CharSet :=
  .others .nothing

end CharSet

/-- The characters of a class of ASCII characters. -/
def AsciiClass.ranges : AsciiClass → List (Char × Char)
  | .alnum => [('0', '9'), ('A', 'Z'), ('a', 'z')]
  | .alpha => [('A', 'Z'), ('a', 'z')]
  | .ascii => [('\x00', '\x7f')]
  | .blank => [('\t', '\t'), (' ', ' ')]
  | .cntrl => [('\x00', '\x1f'), ('\x7f', '\x7f')]
  | .digit => [('0', '9')]
  | .graph => [('!', '~')]
  | .lower => [('a', 'z')]
  | .print => [(' ', '~')]
  | .punct => [('!', '/'), (':', '@'), ('[', '`'), ('\x7b', '~')]
  | .space => [('\t', '\r'), (' ', ' ')]
  | .upper => [('A', 'Z')]
  | .word => [('0', '9'), ('A', 'Z'), ('_', '_'), ('a', 'z')]
  | .xdigit => [('0', '9'), ('A', 'F'), ('a', 'f')]

namespace Shorthand

/-- The ASCII characters of a shorthand. -/
def asciiClass : Shorthand → AsciiClass
  | .digit => .digit
  | .space => .space
  | .word => .word

/-- The decimal digits of all scripts. -/
def digits : Property :=
  ⟨["decimalnumber"], [], [.nd]⟩

/-- The characters of a shorthand. -/
def set : Shorthand → CharSet
  | .digit => .property digits
  | .space => .blank
  | .word => .word

end Shorthand

namespace PropertyQuery

/-- A name in the form in which names are compared. -/
def normalized (name : List Char) : String :=
  let startsWithIs := (name.take 2).map Char.toLower == ['i', 's']
  let rest := if startsWithIs then name.drop 2 else name
  let kept := rest.filter fun c => c.toNat < 128 && c != ' ' && c != '_' && c != '-'
  let lower := kept.map Char.toLower
  if startsWithIs && lower == ['c'] then "isc" else String.ofList lower

/-- Names of categories that are also names of properties without a set of characters. -/
def ambiguousNames : List String := ["cf", "sc", "lc"]

/-- Names of sets without characters: halves of pairs, and scripts that are none. -/
def emptySets : List String :=
  ["cs", "surrogate", "zzzz", "unknown", "hrkt", "katakanaorhiragana"]

/-- The versions in which characters were added. -/
def ages : Property :=
  { names := ["1.1", "2.0", "2.1", "3.0", "3.1", "3.2", "4.0", "4.1", "5.0", "5.1", "5.2",
      "6.0", "6.1", "6.2", "6.3", "7.0", "8.0", "9.0", "10.0", "11.0", "12.0", "12.1", "13.0",
      "14.0", "15.0", "15.1", "16.0", "v11", "v20", "v21", "v30", "v31", "v32", "v40", "v41",
      "v50", "v51", "v52", "v60", "v61", "v62", "v63", "v70", "v80", "v90", "v100", "v110",
      "v120", "v121", "v130", "v140", "v150", "v151", "v160"]
    ranges := []
    categories :=
      [.lu, .ll, .lt, .lm, .lo, .mn, .mc, .me, .nd, .nl, .no, .pc, .pd, .ps, .pe, .pi, .pf,
        .po, .sm, .sc, .sk, .so, .zs, .zl, .zp, .cc, .cf, .co] }

/-- Properties that give a character something else than yes or no, or nothing that can be
asked for. -/
def otherProperties : List String :=
  ["bc", "bidiclass", "blk", "block", "bmg", "bidimirroringglyph", "bpb", "bidipairedbracket",
   "bpt", "bidipairedbrackettype", "ccc", "canonicalcombiningclass", "ce",
   "compositionexclusion", "cf", "casefolding", "compex", "fullcompositionexclusion", "cwkcf",
   "changeswhennfkccasefolded", "dm", "decompositionmapping", "dt", "decompositiontype", "ea",
   "eastasianwidth", "equideo", "equivalentunifiedideograph", "expandsonnfc", "xonfc",
   "expandsonnfd", "xonfd", "expandsonnfkc", "xonfkc", "expandsonnfkd", "xonfkd", "fcnfkc",
   "fcnfkcclosure", "hst", "hangulsyllabletype", "incb", "indicconjunctbreak", "inpc",
   "indicpositionalcategory", "insc", "indicsyllabiccategory", "isc", "isocomment", "jg",
   "joininggroup", "jsn", "jamoshortname", "jt", "joiningtype", "lb", "linebreak", "lc",
   "lowercasemapping", "na", "name", "na1", "unicode1name", "namealias", "nfcqc",
   "nfcquickcheck", "nfdqc", "nfdquickcheck", "nfkccasefold", "nfkccf", "nfkcqc",
   "nfkcquickcheck", "nfkcscf", "nfkcsimplecasefold", "nfkdqc", "nfkdquickcheck", "nt",
   "numerictype", "nv", "numericvalue", "scf", "simplecasefolding", "sfc", "slc",
   "simplelowercasemapping", "stc", "simpletitlecasemapping", "suc", "simpleuppercasemapping",
   "tc", "titlecasemapping", "uc", "uppercasemapping", "vo", "verticalorientation",
   "cjkaccountingnumeric", "kaccountingnumeric", "cjkcompatibilityvariant",
   "kcompatibilityvariant", "cjkiicore", "kiicore", "cjkirggsource", "kirggsource",
   "cjkirghsource", "kirghsource", "cjkirgjsource", "kirgjsource", "cjkirgkpsource",
   "kirgkpsource", "cjkirgksource", "kirgksource", "cjkirgmsource", "kirgmsource",
   "cjkirgssource", "kirgssource", "cjkirgtsource", "kirgtsource", "cjkirguksource",
   "kirguksource", "cjkirgusource", "kirgusource", "cjkirgvsource", "kirgvsource",
   "cjkothernumeric", "kothernumeric", "cjkprimarynumeric", "kprimarynumeric", "cjkrsunicode",
   "krsunicode", "unicoderadicalstroke", "urs"]

/-- The set of a script. -/
def script? (name : String) : Option CharSet :=
  (Script.find? name).map .script

/-- The set of a property in a table. -/
def property? (table : List Property) (name : String) : Option CharSet :=
  (Property.find? table name).map .property

/-- The set that a name alone asks for. -/
def named? (name : String) : Option CharSet :=
  let binary := if ambiguousNames.contains name then none else property? Property.binary name
  binary.or ((property? Property.general name).or (script? name))

/-- The sets of a property with values, if there is such a property. -/
def values? (name : String) : Option (String → Option CharSet) :=
  match name with
  | "gc" | "generalcategory" => some (property? Property.general)
  | "sc" | "script" | "scx" | "scriptextensions" => some script?
  | "age" => some (property? [ages])
  | "gcb" | "graphemeclusterbreak" => some (property? Break.clusters)
  | "wb" | "wordbreak" => some (property? Break.words)
  | "sb" | "sentencebreak" => some (property? Break.sentences)
  | _ =>
    if otherProperties.contains name || (Property.find? Property.binary name).isSome then
      some fun _ => none
    else none

/-- The set that is asked for. -/
def find : PropertyQuery → Except Cause CharSet
  | .named name =>
    match named? (normalized name) with
    | some set => .ok set
    | none =>
      .error (if emptySets.contains (normalized name) then .propertyValueUnknown
        else .propertyUnknown)
  | .valued name value =>
    match values? (normalized name) with
    | none => .error .propertyUnknown
    | some sets =>
      match sets (normalized value) with
      | some set => .ok set
      | none => .error .propertyValueUnknown

end PropertyQuery

end MemoStore.Pattern
