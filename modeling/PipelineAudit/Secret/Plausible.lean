import PipelineAudit.Json.Reader
import PipelineAudit.Pattern.Match
import PipelineAudit.Text.Base64
import PipelineAudit.Text.Basic
import PipelineAudit.Text.Case

/-!
# Plausible secrets

Tests that tell a live credential from sample data, on the text that a signature matched.
-/

namespace PipelineAudit.Secret

open Pattern

/-- Words that mark a text as sample data. -/
def sampleWords : List String := [
  "example", "test", "placeholder", "your_", "dummy", "fake", "sample", "demo", "mock", "template",
  "xxx", "yyy", "zzz", "changeme", "replace", "todo", "fixme", "tbd", "null", "undefined",
  "default", "config", "setting", "value", "data", "info"]

/-- Whether a text holds no word that marks sample data, in any case. -/
def isLikely (text : List Char) : Bool :=
  !Text.hasAny (Text.lower text) sampleWords

/-- The forms of placeholders. -/
def placeholderForms : List Pattern := [
  inOrder [textStart, atLeast 8 (litFolded "x"), textEnd],
  inOrder [textStart, atLeast 8 (lit "0"), textEnd],
  inOrder [textStart, atLeast 8 (lit "1"), textEnd],
  inOrder [textStart, oneOf [litFolded "your", litFolded "my", litFolded "the"], oneOfChars "_-"],
  oneOf [litFolded "placeholder", litFolded "example", litFolded "test", litFolded "demo",
    litFolded "sample"]]

/-- Whether a text has the form of a placeholder. -/
def isPlaceholder (text : List Char) : Bool :=
  placeholderForms.any (·.occursIn text)

/-- Whether a text has at least eight characters, of two or more of the classes of small letters,
capitals, digits and the marks of encodings. -/
def isVaried (text : List Char) : Bool :=
  8 ≤ text.length &&
    2 ≤ ([isSmall, isCapital, Text.isDecimal, among "+/=_-"].filter text.any).length

/-- The first stretch of a text over a class of characters, of a given form. -/
def firstRun (form : Pattern → Pattern) (allowed : Char → Bool) (text : List Char) :
    Option (List Char) :=
  (form (one allowed)).search? text |>.map (·.text)

/-- The characters of a cloud secret. -/
def isCloudChar (c : Char) : Bool :=
  c.isAlphanum || among "/+=" c

/-- The characters of a key or a token. -/
def isKeyChar (c : Char) : Bool :=
  c.isAlphanum || among "/_+=.-" c

/-- The characters of a password. -/
def isPasswordChar (c : Char) : Bool :=
  c.isAlphanum || among "!@#$%^&*()_+=.-" c

/-- Whether a text is varied and no placeholder. -/
def isCredential (text : List Char) : Bool :=
  isVaried text && !isPlaceholder text

/-- Whether the first forty characters in a row of a cloud secret are a credential. -/
def isCloudSecret (text : List Char) : Bool :=
  (firstRun (times 40) isCloudChar text).any isCredential

/-- Whether the first run of sixteen or more key characters is a credential. -/
def isApiKey (text : List Char) : Bool :=
  (firstRun (atLeast 16) isKeyChar text).any isCredential

/-- Whether the first run of twenty or more key characters is a credential. -/
def isToken (text : List Char) : Bool :=
  (firstRun (atLeast 20) isKeyChar text).any isCredential

/-- Passwords that nobody takes for one. -/
def obviousNonPasswords : List String :=
  ["password", "123456", "admin", "user", "guest", "root"]

/-- Whether the first run of eight or more password characters is neither an obvious non-password
nor a placeholder. -/
def isPassword (text : List Char) : Bool :=
  (firstRun (atLeast 8) isPasswordChar text).any fun run =>
    !obviousNonPasswords.contains (String.ofList (Text.lower run)) && !isPlaceholder run

/-- Words that a connection string of a sample holds. -/
def connectionWords : List String :=
  ["username", "password", "user", "pass", "localhost", "example.com"]

/-- Whether a text holds none of the words of a sample connection string, in any case. -/
def isConnectionString (text : List Char) : Bool :=
  !Text.hasAny (Text.lower text) connectionWords

/-- Whether a JSON value counts as true: it is neither null, false, zero nor empty. -/
def isTrueJson : Json → Bool
  | .null => false
  | .bool b => b
  | .int n => n ≠ 0
  | .float x => Decimal.isNonzero x
  | .text s => !s.isEmpty
  | .list items => !items.isEmpty
  | .object members => !members.isEmpty

/-- Whether a JSON value is a given text. -/
def isJsonText (s : String) : Json → Bool
  | .text t => t = s
  | _ => false

/-- The text that a text encodes in base64, if it does. -/
def encodedText? (text : List Char) : Option String := do
  let bytes ← Text.Base64.decode? (Text.Base64.padded text)
  String.fromUTF8? ⟨bytes.toArray⟩

/-- Whether a JSON value is the header of a web token: an object that declares the type or names
an algorithm. -/
def isTokenHeader : Json → Bool
  | .object members =>
    (members.lookup "typ").any (isJsonText "JWT") || (members.lookup "alg").any isTrueJson
  | _ => false

/-- Whether a text is a JSON header of a web token, unless it nests too deeply to be read. -/
def testHeader (json : String) : Except Failure Bool :=
  match Json.read json.toList with
  | .ok x => .ok (isTokenHeader x)
  | .error (.tooDeep container) => .error (.nestedTooDeep container)
  | .error _ => .ok false

/-- Whether a text is a web token: three parts separated by dots, the first of which encodes a
header.  There is no answer where what it encodes nests too deeply. -/
def testWebToken (text : List Char) : Except Failure Bool :=
  match text.splitOn '.' with
  | [header, _, _] =>
    match encodedText? header with
    | some json => testHeader json
    | none => .ok false
  | _ => .ok false

/-- Whether a text is found to be a web token. -/
def isWebToken (text : List Char) : Bool :=
  (testWebToken text).toOption.getD false

/-- The part of a text after the last equality sign or blank. -/
def assigned (text : List Char) : List Char :=
  (text.reverse.takeWhile fun c => c ≠ '=' && !Text.isBlank c).reverse

/-- Whether the last word of an assignment is likely to be a secret. -/
def isActualSecret (text : List Char) : Bool :=
  let value := Text.trim (assigned text)
  !value.isEmpty && isLikely value && !isPlaceholder value

end PipelineAudit.Secret
