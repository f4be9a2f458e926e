import TestScenario.Unicode.Category
import TestScenario.Unicode.Script
import TestScenario.Unicode.Age
import TestScenario.Unicode.Border
import TestScenario.Unicode.Property

/-!
Classes of characters by the names of their properties.

Names are compared without regard to case, blanks, hyphens, underscores and a leading `is`. A class is that of a given
version of the character set: characters that a later version assigned count as unassigned.
-/

namespace TestScenario.Unicode.Query

/-- A name in the form in which names are compared. -/
def loose (name : List Char) : List Char :=
  let (marked, rest) : Bool × List Char := match name with
    | a :: b :: rest => if a.toLower == 'i' && b.toLower == 's' then (true, rest) else (false, name)
    | _ => (false, name)
  let kept := (rest.filter fun c => c.toNat < 128 && c != ' ' && c != '_' && c != '-').map Char.toLower
  if marked && kept == ['c'] then ['i', 's', 'c'] else kept

/-- Whether one of some names has a loose form. -/
def named (form : List Char) (names : List String) : Bool := names.any fun n => loose n.toList == form

/-- The number of the version whose classes are asked for. -/
abbrev Version := Nat

/-- The characters that were assigned after a version. -/
def newer (v : Version) : ScalarSet := Compact.labelled Age.stretches (v < ·)

/-- The properties that unassigned code points have too, so that they never change. -/
def lasting : List String :=
  ["Pattern_Syntax", "Noncharacter_Code_Point", "Default_Ignorable_Code_Point", "Extended_Pictographic"]

/-- The characters of some categories, given by their abbreviations. -/
def categories (v : Version) (abbreviations : List String) : ScalarSet :=
  let s := Category.set abbreviations
  if abbreviations.contains "Cn" then s.union (newer v) else s.diff (newer v)

/-- The class of a category, of a group of categories, or of all, all assigned or all ASCII characters. -/
def category? (v : Version) (form : List Char) : Option ScalarSet :=
  if form == "any".toList then some .all
  else if form == "ascii".toList then some (.range 0 127)
  else if form == "assigned".toList then some (categories v ["Cn"]).compl
  else match Category.groups.find? fun (names, _) => named form names with
    | some (_, members) => some (categories v members)
    | none =>
      match Category.names.find? (named form) with
      | some (abbreviation :: _) => if abbreviation == "Cs" then none else some (categories v [abbreviation])
      | _ => none

/-- The class of a script, or of the characters that a script uses, if any had been assigned. -/
def script? (v : Version) (members : Nat → ScalarSet) (form : List Char) : Option ScalarSet :=
  match (Script.names.zipIdx 1).find? fun (names, _) => named form names with
  | some (_, number) => if ((Script.set number).diff (newer v)).isEmpty then none else some ((members number).diff (newer v))
  | none => none

/-- The other classes of characters with some property, each made of those with another one and less. -/
def remainders : List (List String × (Unit → ScalarSet)) :=
  [(["OAlpha", "Other_Alphabetic"], fun _ => Property.alphabetic.diff (Category.set ["Lu", "Ll", "Lt", "Lm", "Lo", "Nl"])),
   (["OLower", "Other_Lowercase"], fun _ => Property.lowercase.diff (Category.set ["Ll"])),
   (["OUpper", "Other_Uppercase"], fun _ => Property.uppercase.diff (Category.set ["Lu"])),
   (["OMath", "Other_Math"], fun _ => Property.math.diff (Category.set ["Sm"])),
   (["OGr_Ext", "Other_Grapheme_Extend"], fun _ => Property.graphemeExtend.diff (Category.set ["Mn", "Me"])),
   (["OIDS", "Other_ID_Start"], fun _ => Property.idStart.diff (Category.set ["Lu", "Ll", "Lt", "Lm", "Lo", "Nl"])),
   (["OIDC", "Other_ID_Continue"], fun _ =>
      (Property.idContinue.diff Property.idStart).diff (Category.set ["Mn", "Mc", "Nd", "Pc"])),
   (["ODI", "Other_Default_Ignorable_Code_Point"], fun _ =>
      Property.defaultIgnorableCodePoint.diff (Property.variationSelector.union (Category.set ["Cf"])))]

/-- The class of a property that characters have or do not have. -/
def property? (v : Version) (form : List Char) : Option ScalarSet :=
  match Property.all.find? fun (names, _) => named form names with
  | some (names, s) => some (if names.any lasting.contains then s else s.diff (newer v))
  | none => (remainders.find? fun (names, _) => named form names).map fun (_, s) => (s ()).diff (newer v)

/-- The class of a single name. Three names that also mean properties without a class mean categories. -/
def ofName? (v : Version) (name : List Char) : Option ScalarSet :=
  let form := loose name
  let own := if form == ['c', 'f'] || form == ['s', 'c'] || form == ['l', 'c'] then none else property? v form
  own <|> category? v form <|> script? v Script.set form

/-- The class of the characters that a version or an earlier one assigned. -/
def age? (v : Version) (form : List Char) : Option ScalarSet :=
  let match? (version : Nat × Nat) : Bool :=
    let digits (n : Nat) : List Char := (toString n).toList
    form == digits version.1 ++ ['.'] ++ digits version.2 || form == 'v' :: digits version.1 ++ digits version.2
  match (Age.versions.zipIdx 1).find? fun (version, _) => match? version with
  | some (_, number) => if number ≤ v then some (Age.assignedBy number) else none
  | none => none

/-- The class of a kind of border. -/
def border? (v : Version) (names : List (List String)) (parts : List Compact.Stretch) (form : List Char) : Option ScalarSet :=
  ((names.zipIdx 1).find? fun (names, _) => named form names).map fun (_, number) =>
    (Compact.labelled parts (· == number)).diff (newer v)

/-- The class of a property with a value. -/
def ofValue? (v : Version) (name value : List Char) : Option ScalarSet :=
  let form := loose value
  let name := loose name
  let isAny (names : List String) : Bool := named name names
  if isAny ["gc", "General_Category"] then category? v form
  else if isAny ["sc", "Script"] then script? v Script.set form
  else if isAny ["scx", "Script_Extensions"] then script? v Script.users form
  else if isAny ["age"] then age? v form
  else if isAny ["GCB", "Grapheme_Cluster_Break"] then border? v Border.graphemeNames Border.graphemeStretches form
  else if isAny ["WB", "Word_Break"] then border? v Border.wordNames Border.wordStretches form
  else if isAny ["SB", "Sentence_Break"] then border? v Border.sentenceNames Border.sentenceStretches form
  else none

end TestScenario.Unicode.Query
