import Flipbook.Text.CaseTable

/-!
# Upper and lower case of a text

`upper` and `lower` map every character of a text by the full case mappings.  One rule looks at the
neighbours: a capital sigma that ends a word becomes a final small sigma.
-/

namespace Flipbook.Text

/-- The characters that replace `c` under the mappings given by two tables. -/
def mapCase (runs : Array CaseRun) (expansions : Array (Nat × List Nat)) (c : Char) : List Char :=
  match expansions.find? (·.1 == c.toNat) with
  | some (_, cs) => cs.map Char.ofNat
  | none => match runs.find? (·.covers c) with
    | some run => [run.apply c]
    | none => [c]

/-- The text in upper case. -/
def upper (s : String) : String :=
  String.ofList (s.toList.flatMap (mapCase upperRuns upperExpansions))

/-- The first character that is not case-ignorable is a cased letter. -/
def startsCased : List Char → Bool
  | [] => false
  | c :: cs => if caseIgnorable.contains c then startsCased cs else casedLetters.contains c

/-- Lower case, where `afterCased` says that the text before ends in a cased letter, apart from
case-ignorable characters. -/
def lowerFrom (afterCased : Bool) : List Char → List Char
  | [] => []
  | c :: cs =>
    let here :=
      if c == 'Σ' then [if afterCased && !startsCased cs then 'ς' else 'σ']
      else mapCase lowerRuns lowerExpansions c
    let afterCased := if caseIgnorable.contains c then afterCased else casedLetters.contains c
    here ++ lowerFrom afterCased cs

/-- The text in lower case. -/
def lower (s : String) : String :=
  String.ofList (lowerFrom false s.toList)

end Flipbook.Text
