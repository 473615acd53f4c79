import KeyedRecords.Source.Item.Reader

/-!
# Arguments of attributes

Two ways to read what an attribute lists: paths with nothing but commas between
them (`nestedPaths`), and type paths as a derive attribute lists them
(`derivedPaths`).
-/

namespace KeyedRecords.Source

/-- Why the arguments of an attribute cannot be read. -/
inductive ArgumentFault
  | notAWord
  | literal
  | nothingLeft
  | noSegment
  | noSegmentLeft
  | noComma
  | noList
  | notInParentheses
  deriving DecidableEq, Repr

def ArgumentFault.message (name : String) : ArgumentFault → String
  | notAWord => "unexpected token in nested attribute, expected ident"
  | literal => "unexpected literal in nested attribute, expected ident"
  | nothingLeft => "unexpected end of input, expected nested attribute"
  | noSegment => "expected ident"
  | noSegmentLeft => "unexpected end of input, expected ident"
  | noComma => "expected \x60,\x60"
  | noList => "expected attribute arguments in parentheses: #[" ++ name ++ "(...)]"
  | notInParentheses => "expected parentheses: #[" ++ name ++ "(...)]"

/-! ## Nested paths -/

def nestedSegments (segments : List Ident) : Tokens → Except ArgumentFault (List Ident × Tokens)
  | .punct ':' true :: .punct ':' _ :: .ident i :: rest => nestedSegments (segments ++ [i]) rest
  | [.punct ':' true, .punct ':' _] => .error .noSegmentLeft
  | .punct ':' true :: .punct ':' _ :: _ => .error .noSegment
  | ts => .ok (segments, ts)

/-- Takes a path from the front. Keywords may be its segments. -/
def nestedPath (ts : Tokens) : Except ArgumentFault (Path × Tokens) :=
  let rooted := startsWith [':', ':'] ts
  let body := if rooted then ts.drop 2 else ts
  match body with
  | [] => .error .nothingLeft
  | .ident i :: rest => (nestedSegments [i] rest).map fun (segments, rest) => (⟨rooted, segments⟩, rest)
  | _ => .error (if (Reader.literalText body).isSome then .literal else .notAWord)

def dropParens : Tokens → Tokens
  | .group .paren _ :: rest => rest
  | ts => ts

/-- The paths of a list, up to the fault that ends it. `fuel` bounds their number. -/
def nestedPathsFrom (withParens : Bool) : Nat → Tokens → List Path × Option ArgumentFault
  | 0, _ => ([], none)
  | fuel + 1, ts =>
    match nestedPath ts with
    | .error fault => ([], some fault)
    | .ok (path, rest) =>
      match if withParens then dropParens rest else rest with
      | [] => ([path], none)
      | [.punct ',' _] => ([path], none)
      | .punct ',' _ :: rest =>
        let (paths, fault) := nestedPathsFrom withParens fuel rest
        (path :: paths, fault)
      | _ => ([path], some .noComma)

/-- The paths that an attribute lists, and the fault that ends the list. A group in
    parentheses may follow a path if `withParens` holds. -/
def Attribute.nestedPaths (withParens : Bool) (a : Attribute) : List Path × Option ArgumentFault :=
  match a.content with
  | .nothing => ([], some .noList)
  | .value _ => ([], some .notInParentheses)
  | .arguments _ [] => ([], none)
  | .arguments _ ts => nestedPathsFrom withParens ts.length ts

/-! ## Derived paths -/

/-- A path with generic arguments. `last` is the name of its last segment. -/
structure TypePath where
  tokens : Tokens
  last : Ident

/-- The written form of a path without spaces. -/
def TypePath.render (p : TypePath) : String :=
  String.ofList (p.tokens.render.toList.filter fun c => c ≠ ' ')

def readTypePath (g : Grammar) : Reader TypePath := do
  let segment : Reader (Ident × Tokens) := do
    let first ← Reader.nextWord?
    let ts ← g.segment false
    match first with
    | some i => pure (i, ts)
    | none => Reader.fail
  let colons ← Reader.opIf "::"
  let first ← segment
  let rest ← Reader.steps do
    if (← Reader.atOp "::") && (← Reader.after 2 (Reader.groupContent .paren)).isNone then
      let _ ← Reader.op "::"
      some <$> segment
    else pure none
  let segments := first :: rest
  pure ⟨colons ++ joinWith (operator "::") (segments.map Prod.snd),
    (segments.getLast?.map Prod.fst).getD first.1⟩

/-- The paths that an attribute lists, or nothing if it does not list paths. -/
def Attribute.typePaths (a : Attribute) : List TypePath :=
  match a.content with
  | .arguments _ ts =>
    let read := Reader.separated (readTypePath (Rules.forTokens ts).grammar)
    match read ts with
    | some (paths, []) => paths.map Prod.fst
    | _ => []
  | _ => []

def derivedPaths (attrs : List Attribute) : List TypePath :=
  (attrs.filter fun a => a.isNamed "derive").flatMap Attribute.typePaths

end KeyedRecords.Source
