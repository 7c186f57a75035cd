import PipelineAudit.Finding.Basic
import PipelineAudit.Secret.Plausible

/-!
# Signatures

The known forms of credentials, each with the test that a match has to pass.  The test for web
tokens gives no answer on some texts.
-/

namespace PipelineAudit.Secret

open Pattern

/-- A known form of a credential. -/
structure Signature where
  name : String
  pattern : Pattern
  threat : Threat
  test : List Char → Except Failure Bool := fun _ => .ok true

namespace Signature

/-- Whether a text passes the test. -/
def accepts (s : Signature) (text : List Char) : Bool :=
  (s.test text).toOption.getD false

/-- The failure of the test on a text, if there is one. -/
def failure? (s : Signature) (text : List Char) : Option Failure :=
  match s.test text with
  | .ok _ => none
  | .error e => some e

end Signature

/-- A quotation mark, or none. -/
def maybeQuote : Pattern :=
  optional (oneOfChars "'\"")

/-- An equality sign or a colon, with blanks around it. -/
def assignment : Pattern :=
  inOrder [many blank, oneOfChars "=:", many blank]

/-- A value in quotation marks or without, over a class of characters. -/
def quotedValue (value : Pattern) : Pattern :=
  inOrder [maybeQuote, group value, maybeQuote]

/-- Capitals and digits. -/
def isUpperAlnum (c : Char) : Bool :=
  isCapital c || c.isDigit

/-- Letters, digits, hyphens and underscores. -/
def isUrlChar (c : Char) : Bool :=
  c.isAlphanum || among "_-" c

/-- The known forms, in the order in which they are looked for. -/
def signatures : List Signature := [
  { name := "AWS Access Key"
    pattern := inOrder [lit "AKIA", times 16 (one isUpperAlnum)]
    threat := .critical
    test := fun m => .ok (!isPlaceholder m) },
  { name := "AWS Secret Key"
    pattern := inOrder [litFolded "aws_secret_access_key", assignment,
      quotedValue (times 40 (one fun c => isAlnumFolded c || among "/+=" c))]
    threat := .critical
    test := fun m => .ok (isCloudSecret m) },
  { name := "AWS Session Token"
    pattern := inOrder [lit "FwoGZXIvYXdzE", atLeast 100 (one isCloudChar)]
    threat := .critical },
  { name := "GitHub Token"
    pattern := inOrder [lit "gh", oneOfChars "pasr", lit "_",
      between 36 76 (one Char.isAlphanum)]
    threat := .critical
    test := fun m => .ok (!isPlaceholder m) },
  { name := "GitHub Classic Token"
    pattern := inOrder [lit "ghp_", times 36 (one Char.isAlphanum)]
    threat := .critical },
  { name := "SSH Private Key"
    pattern := inOrder [lit "-----BEGIN", many1 blank,
      optional (oneOf [seq (lit "RSA") (many1 blank), seq (lit "EC") (many1 blank),
        seq (lit "DSA") (many1 blank), seq (lit "OPENSSH") (many1 blank)]),
      lit "PRIVATE", many1 blank, lit "KEY-----"]
    threat := .critical },
  { name := "Docker ENV Secret"
    pattern := inOrder [oneOf [litFolded "ENV", litFolded "ARG"], many1 blank,
      oneOf [litFolded "AWS_SECRET", litFolded "API_KEY", litFolded "TOKEN",
        litFolded "PASSWORD", litFolded "SECRET"],
      many inLine]
    threat := .high
    test := fun m => .ok (isActualSecret m) },
  { name := "Generic API Key"
    pattern := inOrder [
      oneOf [inOrder [litFolded "api", optional (oneOfChars "_-"), litFolded "key"],
        litFolded "apikey"],
      assignment, quotedValue (atLeast 16 (one fun c => isAlnumFolded c || among "/_+=.-" c))]
    threat := .high
    test := fun m => .ok (isApiKey m) },
  { name := "Generic Password"
    pattern := inOrder [oneOf [litFolded "password", litFolded "passwd", litFolded "pwd"],
      assignment,
      quotedValue (atLeast 8 (one fun c => isAlnumFolded c || among "!@#$%^&*()_+=.-" c))]
    threat := .high
    test := fun m => .ok (isPassword m) },
  { name := "Generic Token"
    pattern := inOrder [
      oneOf [litFolded "token",
        inOrder [litFolded "auth", optional (oneOfChars "_-"), litFolded "token"]],
      assignment, quotedValue (atLeast 20 (one fun c => isAlnumFolded c || among "/_+=.-" c))]
    threat := .high
    test := fun m => .ok (isToken m) },
  { name := "Bearer Token"
    pattern := inOrder [litFolded "Authorization:", many blank, litFolded "Bearer", many1 blank,
      group (atLeast 20 (one fun c => isAlnumFolded c || among "-_.=" c))]
    threat := .high
    test := fun m => .ok (!isPlaceholder m) },
  { name := "Database Connection String"
    pattern := inOrder [
      oneOf [litFolded "mongodb", litFolded "mysql", litFolded "postgres",
        litFolded "postgresql"],
      lit "://", many1 (one fun c => c ≠ ':' && !Text.isBlank c), lit ":",
      many1 (one fun c => c ≠ '@' && !Text.isBlank c), lit "@", many1 ink]
    threat := .high
    test := fun m => .ok (isConnectionString m) },
  { name := "JWT Token"
    pattern := inOrder [lit "eyJ", many1 (one isUrlChar), lit ".eyJ", many1 (one isUrlChar),
      lit ".", many1 (one isUrlChar)]
    threat := .medium
    test := testWebToken },
  { name := "Google API Key"
    pattern := inOrder [lit "AIza", times 35 (one isUrlChar)]
    threat := .high },
  { name := "Slack Token"
    pattern := inOrder [lit "xox", oneOfChars "baprs", lit "-", times 12 (one Char.isDigit),
      lit "-", times 12 (one Char.isDigit), lit "-", times 24 (one Char.isAlphanum)]
    threat := .high },
  { name := "Stripe Key"
    pattern := inOrder [oneOf [lit "sk", lit "pk"], lit "_", oneOf [lit "test", lit "live"],
      lit "_", times 24 (one Char.isAlphanum)]
    threat := .high }]

/-- What to do about a credential of a given form. -/
def recommendation (name : String) : String :=
  match name with
  | "AWS Access Key" => "Use IAM roles or AWS credentials file with proper permissions"
  | "GitHub Token" => "Use GitHub secrets or environment variables in CI/CD"
  | "Database Connection String" =>
    "Use environment variables or secret management services"
  | "JWT Token" => "Generate tokens at runtime, never hardcode them"
  | "Generic API Key" => "Store in environment variables or secure vault"
  | "Generic Password" => "Use environment variables or secure password management"
  | "Generic Token" => "Use environment variables or secure token storage"
  | _ => "Use environment variables or secret management systems"

end PipelineAudit.Secret
