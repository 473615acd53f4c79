import KeyedRecords.Description.Naming
import KeyedRecords.Source.Attribute
import KeyedRecords.Text.Escape

/-!
# Templates

The pieces that generated text is put together from.

* `Member`: a named member of an implementation.
* `implementation`: an implementation with its members.
-/

namespace KeyedRecords.Generated

open Source Description

/-! ## Pieces -/

/-- A path in the library that generated text calls. -/
def runtime (path : String) : Tokens := words (":: docbase_store :: " ++ path)

def std (path : String) : Tokens := words (":: std :: " ++ path)

def angle (arguments : Tokens) : Tokens := operator "<" ++ arguments ++ operator ">"

def textLiteral (s : String) : Tokens := literal (Text.literalQuote s)

def docLine (line : String) : Tokens :=
  words "#" ++ brackets (words "doc =" ++ literal ("r\" " ++ line ++ "\""))

/-- The type of a result that may fail with any error of the library. -/
def resultOf (type : Tokens) : Tokens := runtime "error :: DocbaseResult" ++ angle type

/-- The type of a result that may fail with this error. -/
def resultOr (type : Tokens) (error : String) : Tokens :=
  std "result :: Result" ++ angle (type ++ operator "," ++ runtime ("error :: " ++ error))

def contextType : Tokens := runtime "context :: ModelContext"

def reference (type : Tokens) : Tokens := operator "&" ++ type

def mutableReference (type : Tokens) : Tokens := words "& mut" ++ type

/-- A name with its type, or a field with its value. -/
def typed (i : Tokens) (type : Tokens) : Tokens := i ++ operator ":" ++ type

/-- A path from a name to one of its parts. -/
def partOf (owner : Ident) (part : Ident) : Tokens := owner.tokens ++ operator "::" ++ part.tokens

def okOf (value : Tokens) : Tokens := words "Ok" ++ parens value

def okUnit : Tokens := okOf (parens [])

/-! ## Members -/

/-- A member of an implementation. `keyword` introduces its name. -/
structure Member where
  docs : Tokens
  vis : Visibility
  keyword : String
  name : Ident
  rest : Tokens

namespace Member

def tokens (m : Member) : Tokens :=
  m.docs ++ m.vis.tokens ++ words m.keyword ++ m.name.tokens ++ m.rest

def function (docs : Tokens) (vis : Visibility) (name : Ident) (parameters result body : Tokens) :
    Member :=
  ⟨docs, vis, "fn", name, parens parameters ++ operator "->" ++ result ++ braces body⟩

def procedure (docs : Tokens) (vis : Visibility) (name : Ident) (parameters body : Tokens) :
    Member :=
  ⟨docs, vis, "fn", name, parens parameters ++ braces body⟩

def constant (vis : Visibility) (name : String) (type value : Tokens) : Member :=
  ⟨[], vis, "const", .ofName name, operator ":" ++ type ++ operator "=" ++ value ++ operator ";"⟩

def type (name : String) (value : Tokens) : Member :=
  ⟨[], .inherited, "type", .ofName name, operator "=" ++ value ++ operator ";"⟩

end Member

def implementation (subject : Tokens) (members : List Member) : Tokens :=
  words "impl" ++ subject ++ braces (members.flatMap Member.tokens)

/-- The type of texts that are always there. -/
def staticText : Tokens := words "& 'static str"

end KeyedRecords.Generated
