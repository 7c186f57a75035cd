import PipelineAudit.Rule.Basic

/-!
# Shell commands

Two rules look for risky shell commands in the lines of the raw text that are no comments: dangerous
commands, and changes of file permissions.  Each match of a risky form that passes the test of its
form is a vulnerability, whose description shows the line.
-/

namespace PipelineAudit

open Pattern

/-- A risky form of a shell command. -/
structure CommandForm where
  title : String
  pattern : Pattern
  threat : Threat
  recommendation : String
  accepts : List Char → Bool := fun _ => true

namespace CommandForm

/-! ### Tests on a match -/

/-- Places where deleting is safe. -/
def safeDeletePaths : List String :=
  ["/tmp/", "/var/tmp/", "./build", "./dist", "./node_modules"]

/-- Hosts whose scripts are trusted. -/
def trustedHosts : List String :=
  ["github.com", "githubusercontent.com", "docker.com", "microsoft.com"]

/-- Directories of the system. -/
def systemPaths : List String :=
  ["/bin/", "/sbin/", "/usr/bin/", "/usr/sbin/", "/etc/", "/boot/", "/sys/", "/proc/"]

/-- Parts of the names of variables that hold secrets. -/
def secretNameParts : List String :=
  ["PASSWORD", "SECRET", "TOKEN", "KEY", "AUTH", "CREDENTIAL", "PRIVATE"]

/-- Names of the local host. -/
def localHosts : List String :=
  ["localhost", "127.0.0.1", "::1"]

/-- Whether a match names none of some places. -/
def namesNone (names : List String) (found : List Char) : Bool :=
  !Text.hasAny found names

/-- Whether a match names one of some places. -/
def namesOne (names : List String) (found : List Char) : Bool :=
  Text.hasAny found names

/-- A capital letter or an underscore. -/
def isNameChar (c : Char) : Bool :=
  isCapital c || c = '_'

/-- Whether the first variable of a match has the name of a secret. -/
def showsSecret (found : List Char) : Bool :=
  (extract? (seq (lit "$") (group (many1 (one isNameChar)))) found).any fun name =>
    Text.hasAny name secretNameParts

/-! ### Forms -/

/-- A word followed by blanks. -/
def word (w : String) : Pattern :=
  seq (lit w) (many1 blank)

/-- One of several words. -/
def oneWord (ws : List String) : Pattern :=
  oneOf (ws.map lit)

/-- A character other than a given one. -/
def except (c : Char) : Pattern :=
  one (· ≠ c)

/-- The dangerous forms. -/
def dangerous : List CommandForm := [
  { title := "Recursive delete"
    pattern := inOrder [word "rm", word "-rf",
      oneOf [seq (lit "/") (many ink), seq (lit "$HOME") (many ink), seq (lit "~") (many ink),
        seq (lit "..") (many ink), lit "*"]]
    threat := .critical
    recommendation :=
      "Use specific paths and consider using safer alternatives like trash commands"
    accepts := namesNone safeDeletePaths },
  { title := "Permissive permissions"
    pattern := inOrder [word "chmod", oneWord ["777", "666", "755"], many1 blank]
    threat := .high
    recommendation :=
      "Use more restrictive permissions (e.g., 644 for files, 755 for directories)"
    accepts := namesOne ["777", "666"] },
  { title := "Eval with command substitution"
    pattern := inOrder [wordEdge, word "eval", oneOfChars "$`"]
    threat := .high
    recommendation := "Avoid eval with dynamic input; use safer alternatives" },
  { title := "Remote script execution"
    pattern := inOrder [wordEdge, oneWord ["curl", "wget"], many1 blank, many (except '|'), lit "|",
      many blank, optional (word "sudo"),
      oneWord ["sh", "bash", "zsh", "python", "ruby", "perl"], wordEdge]
    threat := .critical
    recommendation := "Download, verify, and then execute scripts separately"
    accepts := namesNone trustedHosts },
  { title := "Sudo on system paths"
    pattern := inOrder [word "sudo", oneWord ["rm", "chmod", "chown", "mv", "cp", "dd"],
      many1 blank, many (inOrder [lit "-", many1 ink, many1 blank]), lit "/", many1 ink]
    threat := .high
    recommendation := "Avoid modifying system paths; use package managers when possible"
    accepts := namesOne systemPaths },
  { title := "Privileged container"
    pattern := inOrder [word "docker", lit "run", many (except '|'), lit "--privileged"]
    threat := .high
    recommendation := "Use specific capabilities instead of --privileged when possible" },
  { title := "Environment dump"
    pattern := oneOf [inOrder [wordEdge, lit "printenv", wordEdge],
      inOrder [oneOf [textStart, one fun c => Text.isBlank c || among ";&|-" c], lit "env",
        many blank, textEnd]]
    threat := .medium
    recommendation := "Avoid exposing all environment variables; use specific variable access" },
  { title := "Echo environment variable"
    pattern := inOrder [word "echo", lit "$", many1 (one isNameChar)]
    threat := .medium
    recommendation := "Avoid echoing sensitive environment variables"
    accepts := showsSecret },
  { title := "SSH as root"
    pattern := inOrder [word "ssh", lit "root@", many1 ink]
    threat := .critical
    recommendation := "Use sudo or specific user accounts instead of root SSH"
    accepts := namesNone localHosts },
  { title := "AWS CLI hardcoded credentials"
    pattern := inOrder [word "aws", word "configure", word "set",
      oneWord ["aws_access_key_id", "aws_secret_access_key"], many1 blank, many1 ink]
    threat := .high
    recommendation := "Use AWS credential files, IAM roles, or environment variables"
    accepts := fun found => !found.contains '$' },
  { title := "Suppressed error output"
    pattern := inOrder [lit ">", many blank, word "/dev/null", lit "2>&1"]
    threat := .medium
    recommendation := "Consider logging errors instead of suppressing them" },
  { title := "Temporary file execution"
    pattern := inOrder [lit "mktemp", many inLine, lit "|", many blank, oneWord ["sh", "bash"],
      wordEdge]
    threat := .high
    recommendation := "Validate and sanitize temporary file contents" },
  { title := "Netcat reverse shell"
    pattern := inOrder [wordEdge, word "nc", optional (word "-l"), word "-e"]
    threat := .critical
    recommendation := "Use legitimate remote access tools instead of netcat shells" },
  { title := "Python shell command"
    pattern := inOrder [lit "python", optional (lit "3"), many1 blank, word "-c", oneOfChars "'\"",
      word "import", lit "os", many inLine, lit "shell"]
    threat := .high
    recommendation := "Use Python's subprocess module safely instead of shell commands" },
  { title := "Find and delete"
    pattern := inOrder [word "find", lit "/", many inLine, word "-exec", lit "rm"]
    threat := .high
    recommendation := "Use more specific find criteria and consider dry-run first" },
  { title := "Clear command history"
    pattern := inOrder [word "history", lit "-c"]
    threat := .medium
    recommendation := "Consider why command history needs to be cleared" },
  { title := "Insecure curl usage"
    pattern := inOrder [wordEdge, lit "curl", wordEdge, many inLine, blank,
      oneWord ["-k", "--insecure"], ahead (oneOf [blank, textEnd])]
    threat := .high
    recommendation := "Remove -k/--insecure flags and use proper SSL certificates" },
  { title := "Insecure wget usage"
    pattern := inOrder [wordEdge, lit "wget", wordEdge, many inLine, lit "--no-check-certificate"]
    threat := .high
    recommendation := "Remove --no-check-certificate and use proper SSL certificates" },
  { title := "Command injection vulnerability"
    pattern := inOrder [lit "$\x7b", many (except '\x7d'), lit "\x7d", many blank, lit "|",
      many blank, oneWord ["sh", "bash", "eval"], wordEdge]
    threat := .high
    recommendation := "Validate and sanitize variables before using them in commands" }]

/-- The forms that change permissions or ownership. -/
def permissionChanges : List CommandForm := [
  { title := "File permissions"
    pattern := inOrder [word "chmod", oneWord ["777", "666", "755", "644", "700", "600"],
      many1 blank]
    threat := .medium
    recommendation := "Use least privilege principle: 644 for files, 755 for directories"
    accepts := namesOne ["777", "666", "755"] },
  { title := "Root ownership"
    pattern := inOrder [word "chown", oneWord ["root", "0"],
      one fun c => Text.isBlank c || c = ':']
    threat := .high
    recommendation := "Avoid changing ownership to root unless absolutely necessary" },
  { title := "Permissive umask"
    pattern := inOrder [word "umask", times 3 (lit "0"), wordEdge]
    threat := .high
    recommendation := "Use more restrictive umask like 022 or 077" },
  { title := "Finding world-writable files"
    pattern := inOrder [word "find", many (except '|'), word "-perm", lit "777"]
    threat := .medium
    recommendation := "Review and fix world-writable files found" },
  { title := "SUID/SGID usage"
    pattern := inOrder [wordEdge, lit "set", oneOfChars "ug", lit "id", wordEdge]
    threat := .high
    recommendation := "Avoid SUID/SGID unless absolutely necessary for security" },
  { title := "Adding SUID bit"
    pattern := inOrder [word "sudo", word "chmod", lit "+s"]
    threat := .critical
    recommendation := "SUID binaries are security risks; use alternatives if possible" }]

/-! ### Scanning -/

/-- The matches of a form on a line that pass its test; a comment has none. -/
def matchesOn (form : CommandForm) (line : List Char) : List Match :=
  if isComment line then []
  else (form.pattern.findAll line).filter fun m => form.accepts m.text

/-- The vulnerabilities of some forms in a source, form by form and line by line; `titled` and
`described` begin the title and the description. -/
def scan (forms : List CommandForm) (titled described : String) (source : Source) :
    List Vulnerability :=
  forms.flatMap fun form =>
    source.numberedLines.flatMap fun (number, line) =>
      (form.matchesOn line).map fun _ =>
        { title := titled ++ form.title
          description := described ++ "\"" ++ String.ofList (Text.trim line) ++ "\""
          severity := form.threat
          recommendation := form.recommendation
          line := some number }

end CommandForm

namespace Rule

/-- Dangerous commands. -/
def dangerousCommands : Rule where
  id := "dangerous-commands"
  name := "Dangerous Commands Detection"
  description := "Detects potentially dangerous shell commands and practices"
  category := .security
  severity := .error
  level := .intermediate
  kind := "DangerousCommandsRule"
  check _ source :=
    .done (.ofVulnerabilities
      (CommandForm.scan CommandForm.dangerous "" "Dangerous command found: " source))

/-- Changes of file permissions and ownership. -/
def filePermissions : Rule where
  id := "file-permissions"
  name := "File Permissions Detection"
  description := "Detects insecure file permissions and ownership issues"
  category := .security
  kind := "FilePermissionsRule"
  check _ source :=
    .done (.ofVulnerabilities
      (CommandForm.scan CommandForm.permissionChanges "Insecure " "Permission issue found: "
        source))

end Rule

end PipelineAudit
