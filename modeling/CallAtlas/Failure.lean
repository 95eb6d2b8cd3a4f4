import CallAtlas.Json.Basic

namespace CallAtlas

inductive FailureClass
  | general
  | validation
  | notFound
  | unavailable
  | unknownQuery
deriving DecidableEq

def FailureClass.status : FailureClass → Nat
  | general => 500
  | validation => 400
  | notFound => 404
  | unavailable => 503
  | unknownQuery => 500

inductive Failure
  | parameterRequired (name : String)
  /-- Placeholders of a query for which no value was given. -/
  | valuesMissing (query : String) (names : List String)
  | functionNotFound (id : String)
  | sourceNotFound (file : String)
  | directoryNotFound (path : String)
  | storeNotConfigured
  | storeAbsent (path : String)
  | storeUnreadable (path reason : String)
  /-- A path that is too long, or has a name in it that is. -/
  | pathTooLong (path : String)
  | queryUnknown (name : String)
  /-- An error answer of the service, as its client sees it. -/
  | answered (status : Nat) (phrase detail : String)
  /-- An answer whose body should have been JSON. -/
  | notJson
  | nestedTooDeep (kind : String)
  /-- Bytes at a position that an encoding does not allow. -/
  | undecodable (encoding : String) (position : Nat) (bytes : List Nat) (reason : String)
  /-- Halves of surrogate pairs, at a position of a text. -/
  | unencodable (position : Nat) (units : List Nat)
  /-- The same in a text that is printed. -/
  | unprintable (position : Nat) (units : List Nat)
  | locationInvalid (reason : String)
  /-- A value that should have been the text of a location. -/
  | notLocation (value : Json)
  | notInteger (text : String)
  /-- A text of more digits than an integer may have. -/
  | integerTooLong (digits : Nat)
  /-- A value that no integer can be made of. -/
  | notNumeric (kind : String)
  | infiniteInteger
  | undefinedInteger
  /-- A name outside a closed family of names. -/
  | notMember (name : Json) (family : String)
  /-- A value of a kind that lacks the operation asked of it. -/
  | lacksOperation (kind operation : String)
  | notIterable (kind : String)
  | noLength (kind : String)
  /-- A row without a column that is needed. -/
  | columnMissing (name : String)
  | notDatabase
  | cannotOpen
  | noSuchTable (name : String)
  | noSuchColumn (name : String)
  | tableRepeated (name : String)
  | columnRepeated (name : String)
  | rowTooLong (table : String) (columns values : Nat)
  /-- An absent value in a column that allows none. -/
  | valueAbsent (table column : String)
  | keyRepeated (table column : String)
  | statementUnreadable (text : String)
  | severalStatements
  | bindingCount (expected supplied : Nat)
  | bindingAbsent (name : String)
  | bindingUnsupported (position : Nat) (kind : String)
  | integerTooLarge
  /-- A bound on the number of rows that is no whole number. -/
  | boundNotWhole
  | patternTooLong
  | notPath (kind : String)
  /-- A value that should have been the text of a query. -/
  | notQueryText (kind : String)
  /-- A list or an object where a key is looked up. -/
  | noKey (kind : String)
  /-- A budget that is no whole number and leaves room to share. -/
  | budgetNotWhole
  /-- A budget that is no number, or what is taken from it. -/
  | notSubtractable (left right : String)
  /-- A value that no text can begin with. -/
  | notBeginning (kind : String)
  /-- Two values of which neither comes before the other. -/
  | unordered (left right : String)
  | levelUnknown (name : String)
  /-- A call that does not fit the parameters of what it calls. -/
  | badCall (callee complaint : String)
  | markupUnbalanced (tag : String) (position : Nat)
  /-- An action in markup whose values are no expression. -/
  | markupParameter (values parameter fault : String)
  /-- A table entry that is no text. -/
  | notShowable (kind : String)
deriving Inhabited

namespace Failure

/-- The class of a failure of the service; none for a fault in the data or in the call. -/
def class? : Failure → Option FailureClass
  | parameterRequired _ => some .validation
  | valuesMissing .. => some .validation
  | functionNotFound _ => some .notFound
  | sourceNotFound _ => some .notFound
  | directoryNotFound _ => some .notFound
  | storeNotConfigured => some .unavailable
  | storeAbsent _ => some .unavailable
  | storeUnreadable .. => some .unavailable
  | queryUnknown _ => some .unknownQuery
  | answered status .. =>
    some (if status = 400 then .validation else if status = 404 then .notFound
      else if status = 503 then .unavailable else .general)
  | _ => none

private def quoted (text : String) : String :=
  String.ofList (Text.quoted text.toList)

private def excerpt (text : String) : String :=
  String.ofList ((Text.quoted text.toList).take 200)

private def halvesFound (position : Nat) (units : List Nat) : String :=
  let place := match units with
    | [n] => "character '\\u" ++ String.ofList (Text.hex 4 n) ++ s!"' in position {position}"
    | _ => s!"characters in position {position}-{position + units.length - 1}"
  s!"'utf-8' codec can't encode {place}: surrogates not allowed"

def message : Failure → String
  | parameterRequired name => s!"Query parameter \"{name}\" is required"
  | valuesMissing query names =>
    s!"Query '{query}' is missing parameter(s): " ++ ", ".intercalate names
  | functionNotFound id => s!"Function not found: {id}"
  | sourceNotFound file => s!"Source file not found: {file}"
  | directoryNotFound path => "Directory not found: " ++ (if path.isEmpty then "/" else path)
  | storeNotConfigured => "SQLite database is not configured"
  | storeAbsent path => s!"SQLite database file does not exist: {path}"
  | storeUnreadable path reason => s!"Cannot open {path}: {reason}"
  | pathTooLong path => "[Errno 36] File name too long: " ++ quoted path
  | queryUnknown name => s!"Unknown query: {name}"
  | answered status phrase detail => s!"{status} {phrase}: {detail}"
  | notJson => ""
  | nestedTooDeep kind =>
    s!"maximum recursion depth exceeded while decoding a JSON {kind} from a unicode string"
  | undecodable encoding position bytes reason =>
    let place := match bytes with
      | [b] => "byte 0x" ++ String.ofList (Text.hex 2 b) ++ s!" in position {position}"
      | _ => s!"bytes in position {position}-{position + bytes.length - 1}"
    s!"'{encoding}' codec can't decode {place}: {reason}"
  | unencodable position units => halvesFound position units
  | unprintable position units => halvesFound position units
    ++ "\n*** You may need to add PYTHONIOENCODING=utf-8 to your environment ***"
  | locationInvalid reason => reason
  | notLocation value =>
    "Invalid type for url.  Expected str or httpx.URL, got "
      ++ s!"<class '{value.kindName}'>: " ++ value.inner
  | notInteger text => "invalid literal for int() with base 10: " ++ excerpt text
  | integerTooLong digits =>
    "Exceeds the limit (4300 digits) for integer string conversion: value has "
      ++ s!"{digits} digits; use sys.set_int_max_str_digits() to increase the limit"
  | notNumeric kind =>
    "int() argument must be a string, a bytes-like object or a real number, not "
      ++ s!"'{kind}'"
  | infiniteInteger => "cannot convert float infinity to integer"
  | undefinedInteger => "cannot convert float NaN to integer"
  | notMember name family => name.inner ++ s!" is not a valid {family}"
  | lacksOperation kind operation => s!"'{kind}' object has no attribute '{operation}'"
  | notIterable kind => s!"'{kind}' object is not iterable"
  | noLength kind => s!"object of type '{kind}' has no len()"
  | columnMissing name => quoted name
  | notDatabase => "file is not a database"
  | cannotOpen => "unable to open database file"
  | noSuchTable name => s!"no such table: {name}"
  | noSuchColumn name => s!"no such column: {name}"
  | tableRepeated name => s!"table {name} already exists"
  | columnRepeated name => s!"duplicate column name: {name}"
  | rowTooLong table columns values =>
    s!"table {table} has {columns} columns but {values} values were supplied"
  | valueAbsent table column => s!"NOT NULL constraint failed: {table}.{column}"
  | keyRepeated table column => s!"UNIQUE constraint failed: {table}.{column}"
  | statementUnreadable text => s!"near \"{text}\": syntax error"
  | severalStatements => "You can only execute one statement at a time."
  | bindingCount expected supplied =>
    "Incorrect number of bindings supplied. The current statement uses "
      ++ s!"{expected}, and there are {supplied} supplied."
  | bindingAbsent name => s!"You did not supply a value for binding parameter :{name}."
  | bindingUnsupported position kind =>
    s!"Error binding parameter {position}: type '{kind}' is not supported"
  | integerTooLarge => "Python int too large to convert to SQLite INTEGER"
  | boundNotWhole => "datatype mismatch"
  | patternTooLong => "LIKE or GLOB pattern too complex"
  | notPath kind => s!"expected str, bytes or os.PathLike object, not {kind}"
  | notQueryText kind => s!"expected string or bytes-like object, got '{kind}'"
  | noKey kind => s!"unhashable type: '{kind}'"
  | budgetNotWhole => "slice indices must be integers or None or have an __index__ method"
  | notSubtractable left right =>
    s!"unsupported operand type(s) for -: '{left}' and '{right}'"
  | notBeginning kind => s!"startswith first arg must be str or a tuple of str, not {kind}"
  | unordered left right =>
    s!"'<' not supported between instances of '{left}' and '{right}'"
  | levelUnknown name => "Unknown level: " ++ quoted name
  | badCall callee complaint => s!"{callee}() {complaint}"
  | markupUnbalanced tag position =>
    if tag = "[/]" then s!"closing tag '[/]' at position {position} has nothing to close"
    else s!"closing tag '{tag}' at position {position} doesn't match any open tag"
  | markupParameter values parameter fault =>
    s!"error parsing {quoted values} in {quoted parameter}; {fault}"
  | notShowable kind =>
    s!"unable to render {kind}; a string or other renderable object is required"

end Failure
end CallAtlas
