import LineScope.Text.Table.CaseContext
import LineScope.Text.Table.CaseRuns

set_option autoImplicit false

namespace LineScope.Text

def mapByRuns (runs : List Table.CaseRun) (c : Char) : Char :=
  match runs.find? (·.contains c.toNat) with
  | some run => Char.ofNat (run.apply c.toNat)
  | none => c

def mapBySequences (sequences : List (Nat × List Nat)) (runs : List Table.CaseRun) (c : Char) :
    List Char :=
  match sequences.lookup c.toNat with
  | some codes => codes.map Char.ofNat
  | none => [mapByRuns runs c]

def upperChar (c : Char) : List Char :=
  if c.toNat < 0x80 then [c.toUpper] else mapBySequences Table.upperSequences Table.upperRuns c

def lowerChar (c : Char) : List Char :=
  if c.toNat < 0x80 then [c.toLower] else mapBySequences Table.lowerSequences Table.lowerRuns c

def toUpper (text : List Char) : List Char := text.flatMap upperChar

def meetsCased (text : List Char) : Bool :=
  match text.dropWhile Table.caseIgnorable.contains with
  | [] => false
  | c :: _ => Table.cased.contains c

-- A capital sigma becomes a final sigma at the end of a word: after a cased character and before
-- none. `before` holds the text already read, last character first.
def toLowerFrom (before : List Char) : List Char → List Char
  | [] => []
  | c :: rest =>
    let mapped :=
      if c == 'Σ' then [if meetsCased before && !meetsCased rest then 'ς' else 'σ'] else lowerChar c
    mapped ++ toLowerFrom (c :: before) rest

def toLower (text : List Char) : List Char := toLowerFrom [] text

def foldChar (c : Char) : Char :=
  if c.toNat < 0x80 then c.toLower else mapByRuns Table.foldRuns c

def caseVariants (c : Char) : List Char :=
  let folded := foldChar c
  folded :: Table.foldRuns.filterMap fun run => (run.source folded.toNat).map Char.ofNat

end LineScope.Text
