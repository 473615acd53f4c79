import KeyedRecords.Text.CaseMap

/-!
# Names as words

A name is a sequence of words. Words end at characters that are neither letters
nor numbers, before an upper-case letter that follows a lower-case one, and
before the last letter of a run of capitals that a lower-case letter follows
(`HTTPServer` is `HTTP`, `Server`). `snakeCase` joins the lowered words by
underscores; `upperCamelCase` joins the capitalised words.
-/

namespace KeyedRecords.Text

/-- What the letters read so far of a word say about the next boundary. -/
inductive WordMode
  | start
  | lower
  | upper
  deriving DecidableEq, Repr

/-- The mode after reading `c`; a character without case leaves it as it was. -/
def WordMode.after (m : WordMode) (c : Char) : WordMode :=
  if lowercase.holds c then .lower
  else if uppercase.holds c then .upper
  else m

/-- Splits one run of letters and numbers into words. `taken` holds the letters of
    the word that is being read, last first. -/
def splitRun (mode : WordMode) (taken : List Char) : List Char → List (List Char)
  | [] => []
  | [c] => [(c :: taken).reverse]
  | c :: next :: rest =>
    let mode' := mode.after c
    if mode' = .lower ∧ uppercase.holds next then
      (c :: taken).reverse :: splitRun .start [] (next :: rest)
    else if mode = .upper ∧ uppercase.holds c ∧ lowercase.holds next then
      taken.reverse :: splitRun .start [c] (next :: rest)
    else
      splitRun mode' (c :: taken) (next :: rest)

/-- The runs of letters and numbers of a text, empty ones between separators
    included. -/
def alphanumericRuns : List Char → List (List Char)
  | [] => [[]]
  | c :: cs =>
    if alphanumeric.holds c then
      match alphanumericRuns cs with
      | [] => [[c]]
      | run :: runs => (c :: run) :: runs
    else [] :: alphanumericRuns cs

/-- The words of a name. -/
def wordsOf (s : String) : List (List Char) :=
  (alphanumericRuns s.toList).flatMap (splitRun .start [])

/-- A word in lower case. A sigma at its end takes the final form. -/
def lowerWord : List Char → List Char
  | [] => []
  | [c] => if c = 'Σ' then ['ς'] else lowerChars c
  | c :: cs => lowerChars c ++ lowerWord cs

/-- A word with its first character in upper case and the others in lower case. -/
def capitalWord : List Char → List Char
  | [] => []
  | c :: cs => upperChars c ++ lowerWord cs

/-- The words of a name in lower case, joined by underscores. -/
def snakeCase (s : String) : String :=
  String.ofList (['_'].intercalate ((wordsOf s).map lowerWord))

/-- The words of a name capitalised and joined. -/
def upperCamelCase (s : String) : String :=
  String.ofList ((wordsOf s).flatMap capitalWord)

end KeyedRecords.Text
