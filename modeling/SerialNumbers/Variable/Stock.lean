/-
  SerialNumbers.Variable.Stock

  The variables that come with the engine's registry: the tier of a customer,
  the code of a department, and the code of a project.
-/
import SerialNumbers.Variable.Custom
import SerialNumbers.Text.Blank

namespace SerialNumbers

open Text

namespace Stock

/-! ## Customer tiers -/

def tiers : List String :=
  ["VIP", "PREMIUM", "STANDARD", "BASIC", "BRONZE", "SILVER", "GOLD", "PLATINUM"]

def defaultTier : String := "STANDARD"

def tierAliases : List (String × String) :=
  [("V", "VIP"), ("P", "PREMIUM"), ("S", "STANDARD"), ("B", "BASIC"), ("HIGH", "PREMIUM"),
   ("MEDIUM", "STANDARD"), ("LOW", "BASIC"), ("NORMAL", "STANDARD"), ("DEFAULT", "STANDARD")]

def tierAbbreviations : List (String × String) :=
  [("VIP", "V"), ("PREMIUM", "P"), ("STANDARD", "S"), ("BASIC", "B"), ("BRONZE", "BZ"),
   ("SILVER", "SV"), ("GOLD", "G"), ("PLATINUM", "PT")]

def tierRanks : List (String × String) :=
  [("BASIC", "1"), ("BRONZE", "2"), ("STANDARD", "3"), ("SILVER", "4"), ("PREMIUM", "5"),
   ("GOLD", "6"), ("VIP", "7"), ("PLATINUM", "8")]

def tierKeys : List String := ["customer_tier", "tier", "customer_classification"]

/-- The tier as the context gives it, trimmed and in upper case; empty if it gives none. -/
def givenTier (c : Context) : Except Failure String :=
  match c.firstOf tierKeys with
  | none | some .none => .ok ""
  | some value => (fun text => upper (strip text)) <$> value.shown

/-- The tier that a name or an alias stands for. -/
def tierOf (given : String) : String :=
  (tierAliases.lookup given).getD given

/-- What is found about the tier that a context gives. -/
def tierFindings (given : String) : Findings :=
  if given.isEmpty then
    Findings.success ["Customer tier not specified, will default to " ++ defaultTier]
  else if tiers.contains (tierOf given) then Findings.none
  else Findings.failed
    ["Invalid customer tier '" ++ given ++ "'. Valid tiers: " ++ ", ".intercalate tiers]

/-- The tier of the customer; the default tier if the context gives none. -/
def customerTier : Variable :=
  { name := "CUSTOMER_TIER"
    description := "Customer tier classification (VIP, PREMIUM, STANDARD, ...)"
    required := []
    optional := tierKeys
    expression := some ("|".intercalate tiers)
    resolve := fun c => do
      let given ← givenTier c
      return if given.isEmpty then defaultTier else tierOf given
    check := fun c => tierFindings <$> givenTier c
    parameters := .listed ["ABBREV", "NUMERIC"] fun value parameter =>
      if parameter == "ABBREV" then
        (tierAbbreviations.lookup value).getD (String.ofList (value.toList.take 2))
      else (tierRanks.lookup value).getD "3" }

/-! ## Codes -/

/-- The first of some keys as a trimmed text; values that count as nothing are empty. -/
def givenCode (keys : List String) (c : Context) : Except Failure String :=
  match c.firstOf keys with
  | none => .ok ""
  | some value => if value.isEmptyLike then .ok "" else strip <$> value.shown

/-- Letters of ASCII in either case, and the four letters beyond ASCII that have one of
    them as their other case. -/
def isCodeLetter (c : Char) : Bool :=
  c.isAlpha || [0x130, 0x131, 0x17F, 0x212A].contains c.toNat

def isCodeChar (c : Char) : Bool :=
  isCodeLetter c || c.isDigit || c == '_'

def departmentAbbreviations : List (String × String) :=
  [("SALES", "SAL"), ("HUMAN_RESOURCES", "HR"), ("HR", "HR"), ("INFORMATION_TECHNOLOGY", "IT"),
   ("IT", "IT"), ("MARKETING", "MKT"), ("FINANCE", "FIN"), ("OPERATIONS", "OPS"),
   ("RESEARCH_AND_DEVELOPMENT", "RND"), ("R_AND_D", "RND"), ("RND", "RND"),
   ("CUSTOMER_SERVICE", "CS"), ("LEGAL", "LEG"), ("PROCUREMENT", "PROC")]

def departmentKeys : List String := ["department_code", "department"]

/-- What is found about the code of a department. -/
def departmentFindings (code : String) : Findings :=
  let code := code.toList
  if code.isEmpty then Findings.failed ["Department code cannot be empty"]
  else if code.length ≤ 10 && code.all isCodeChar then Findings.none
  else Findings.failed ["Department code must be at most 10 letters, digits or underscores"]

/-- The code of the department, in upper case. -/
def department : Variable :=
  { name := "DEPARTMENT"
    description := "Department code for organising sequences by department (SALES, HR, IT, ...)"
    required := ["department_code"]
    optional := ["department"]
    expression := some "[A-Za-z0-9_]\x7b1,10\x7d"
    resolve := fun c => upper <$> givenCode departmentKeys c
    check := fun c => departmentFindings <$> givenCode departmentKeys c
    parameters := .listed ["UPPER", "LOWER", "ABBREV"] fun value parameter =>
      if parameter == "LOWER" then lower value
      else if parameter == "ABBREV" then
        (departmentAbbreviations.lookup value).getD (String.ofList (value.toList.take 3))
      else value }

def projectKeys : List String := ["project_code", "project_id", "project"]

def isProjectChar (c : Char) : Bool :=
  isCodeChar c || c == '-'

/-- What is found about the code of a project. -/
def projectFindings (code : String) : Findings :=
  let code := code.toList
  if code.isEmpty then Findings.failed ["Project code cannot be empty"]
  else if 20 < code.length then Findings.failed ["Project code cannot exceed 20 characters"]
  else if code.all isProjectChar then Findings.none
  else Findings.failed
    ["Project code can only contain letters, digits, underscores and hyphens"]

/-- Words that do not count for the short form of a project code. -/
def fillerWords : List String :=
  ["THE", "AND", "OR", "PROJECT", "SYSTEM", "APPLICATION", "APP"]

/-- Maximal runs of characters that pass a test. -/
def wordsOf (p : Char → Bool) (cs : List Char) : List (List Char) :=
  let (word, words) := cs.foldr (fun c (word, words) =>
    if p c then (c :: word, words)
    else ([], if word.isEmpty then words else word :: words)) ([], [])
  if word.isEmpty then words else word :: words

/-- The initials of the words that count, or of all words if none does. -/
def shortCode (code : String) : String :=
  let words := wordsOf (fun c => c.isUpper || c.isDigit) (upperList code.toList)
  let significant := words.filter fun w => !fillerWords.contains (String.ofList w)
  let initials := (if significant.isEmpty then words else significant).filterMap List.head?
  if initials.isEmpty then String.ofList (code.toList.take 4) else String.ofList initials

/-- The code of the project, in upper case. -/
def projectCode : Variable :=
  { name := "PROJECT_CODE"
    description := "Project identifier code for project-specific sequences"
    required := ["project_code"]
    optional := ["project_id", "project"]
    expression := some "[A-Za-z0-9_-]\x7b1,20\x7d"
    resolve := fun c => upper <$> givenCode projectKeys c
    check := fun c => projectFindings <$> givenCode projectKeys c
    parameters := .listed ["UPPER", "LOWER", "SHORT"] fun value parameter =>
      if parameter == "LOWER" then lower value
      else if parameter == "SHORT" then shortCode value
      else value }

def all : List Variable := [customerTier, department, projectCode]

end Stock

end SerialNumbers
