import Mathlib.Data.Bool.AllAny
import PipelineAudit.Proofs.Pattern.Runs
import PipelineAudit.Proofs.Rule.Positions
import PipelineAudit.Rule.Catalog

/-!
# Commands that are let through

Deletions in some directories are safe, and scripts from some hosts are trusted.  The names of these
directories and hosts are looked for anywhere in the command, so that a command is let through
wherever its target, its host or its path mentions one of them.

* `reported_iff`: when a command on a line is reported.
* `reports_deletion_iff`: when a recursive deletion is reported.
* `reports_remoteScript_iff`: when a remote script that is run in a shell is reported.
-/

namespace PipelineAudit

namespace Pattern

/-! ### Words and edges -/

/-- A word is not read where another character than its first one stands. -/
theorem refuses_word {d : Char} {text : List Char} (h : ∀ c ∈ text.head?, c ≠ d)
    (word : List Char) :
  Refuses (inOrder ((d :: word).map fun d => one (· = d))) text
  := by
  have hd : Refuses (one (· = d)) text := refuses_one fun c hc => decide_eq_false (h c hc)
  cases word with
  | nil => exact hd
  | cons d' word => exact hd.seq _

/-- A repetition that may have no round has none where a round reads nothing. -/
theorem takes_none {p : Pattern} {text : List Char} (h : Refuses p text) (most : Option Nat) :
  Takes (repeated true 0 most p) [] text
  := by
  intro before kept
  refine ⟨kept, ?_⟩
  rw [ends, List.nil_append]
  cases text.length with
  | zero => rfl
  | succ fuel =>
    rw [repeatedEnds, h, List.filter_nil, List.flatMap_nil, ite_self]
    rfl

/-- What reads nothing does so after an edge of a word as well. -/
theorem Refuses.wordEdge {p : Pattern} {text : List Char} (h : Refuses p text) :
  Refuses (.seq .wordEdge p) text
  := by
  intro before kept
  rw [ends, ends, condition]
  split
  · rw [List.flatMap_singleton, h]
  · rfl

/-- At the beginning of a text a word character makes an edge. -/
theorem matchAt?_wordEdge (p : Pattern) (index : Nat) {c : Char} (hc : Text.isWord c)
    (rest : List Char) :
  (seq wordEdge p).matchAt? index (.ofText (c :: rest)) = p.matchAt? index (.ofText (c :: rest))
  := by
  have he : (seq wordEdge p).ends ⟨.ofText (c :: rest), []⟩ =
      p.ends ⟨.ofText (c :: rest), []⟩ := by
    have hw : (Place.ofText (c :: rest)).wordAfter := hc
    have hn : (Place.ofText (c :: rest)).wordBefore = false := rfl
    rw [ends, ends, condition, hw, hn, if_pos (by decide), List.flatMap_singleton]
  rw [matchAt?, he, matchAt?]

/-- A match that reads a whole text is its one match. -/
theorem findAll_of_matchAt? {p : Pattern} {text : List Char} {kept : List (List Char)}
    (hne : text ≠ []) (h : p.matchAt? 0 (.ofText text) = some ⟨0, text, kept⟩)
    (hend : Refuses p []) :
  p.findAll text = [⟨0, text, kept⟩]
  := by
  obtain ⟨c, rest, rfl⟩ := List.exists_cons_of_ne_nil hne
  rw [Place.ofText] at h
  rw [findAll, findFrom, h]
  simp [findFrom_length hend]

end Pattern

namespace CommandForm

open Pattern

/-! ### Commands with one blank -/

/-- A word and one blank before something that is not blank. -/
theorem takes_command (w : String) {c : Char} (hc : Text.isBlank c = false) (rest : List Char) :
  Takes (word w) (w.toList ++ [' ']) (c :: rest)
  := by
  have hblank : Takes (many1 blank) [' '] (c :: rest) :=
    takes_run (List.forall_mem_singleton.mpr rfl) (Nat.le_refl 1) (by simp) (.inr (by simpa))
  exact (takes_lit w _).seq hblank

/-! ### Reports on a line -/

/-- A line is reported under a title. -/
def Reports (v : List Vulnerability) (title : String) (line : Nat) : Prop :=
  ∃ u ∈ v, u.title = title ∧ u.line = some (line : Int)

/-- A dangerous command is reported on a line if and only if its form has a match there. -/
theorem reported_iff {title : String} {form : CommandForm}
    (hform : dangerous.filter (·.title = title) = [form]) {source : Source} {l : Nat × List Char}
    (hl : l ∈ source.numberedLines) (document : Document) :
  Reports (Rule.dangerousCommands.check document source).findings.vulnerabilities title l.1 ↔
    form.matchesOn l.2 ≠ []
  := by
  have hone : ∀ f ∈ dangerous, f.title = title → f = form := by
    intro f hf ht
    have hm : f ∈ dangerous.filter (·.title = title) :=
      List.mem_filter.mpr ⟨hf, decide_eq_true ht⟩
    rw [hform] at hm
    exact List.mem_singleton.mp hm
  obtain ⟨hmem, htitle⟩ : form ∈ dangerous ∧ form.title = title := by
    have hm : form ∈ dangerous.filter (·.title = title) := hform ▸ List.mem_singleton_self form
    simpa using hm
  constructor
  · rintro ⟨v, hv, ht, hline⟩
    obtain ⟨f, hf, hv⟩ := List.mem_flatMap.mp hv
    obtain ⟨l', hl', hv⟩ := List.mem_flatMap.mp hv
    obtain ⟨m, hm, rfl⟩ := List.mem_map.mp hv
    obtain rfl : l' = l :=
      Source.eq_of_mem_numberedLines hl' hl (Int.ofNat_inj.mp (Option.some.inj hline))
    rw [String.empty_append] at ht
    rw [← hone f hf ht]
    exact List.ne_nil_of_mem hm
  · intro hne
    obtain ⟨m, hm⟩ := List.exists_mem_of_ne_nil _ hne
    refine ⟨_, List.mem_flatMap.mpr ⟨form, hmem, List.mem_flatMap.mpr ⟨l, hl,
      List.mem_map_of_mem hm⟩⟩, ?_, rfl⟩
    rw [String.empty_append]
    exact htitle

/-- A form that is let through by names, and that reads all of a line other than a comment, has a
match there if and only if the line mentions none of the names. -/
theorem matchesOn_ne_nil_iff (form : CommandForm) {names : List String} {line : List Char}
    {start : Nat} {kept : List (List Char)} (hcomment : isComment line = false)
    (haccepts : form.accepts = namesNone names)
    (hm : form.pattern.findAll line = [⟨start, line, kept⟩]) :
  form.matchesOn line ≠ [] ↔ ∀ name ∈ names, ¬ Text.has line name
  := by
  have hnames : namesNone names line ↔ ∀ name ∈ names, ¬ Text.has line name := by
    rw [namesNone, Text.hasAny, Bool.not_eq_true', List.any_eq_false]
  rw [matchesOn, hcomment, if_neg Bool.false_ne_true, hm, List.filter_singleton, haccepts,
    ← hnames]
  cases namesNone names line <;> simp

/-! ### Deletions -/

/-- A recursive deletion, up to the end of its target. -/
def deletion : Pattern :=
  inOrder [word "rm", word "-rf",
    oneOf [seq (lit "/") (many ink), seq (lit "$HOME") (many ink), seq (lit "~") (many ink),
      seq (lit "..") (many ink), lit "*"]]

/-- The form of recursive deletions. -/
def recursiveDelete : CommandForm where
  title := "Recursive delete"
  pattern := deletion
  threat := .critical
  recommendation :=
    "Use specific paths and consider using safer alternatives like trash commands"
  accepts := namesNone safeDeletePaths

/-- The beginnings of targets outside of the working directory. -/
def outerBeginnings : List String :=
  ["/", "~", ".."]

/-- A target of a deletion, outside of the working directory. -/
structure Target where
  text : List Char
  text_ink : ∀ c ∈ text, Text.isBlank c = false
  text_outer : ∃ b ∈ outerBeginnings, Text.startsWith text b

namespace Target

variable (t : Target)

/-- The line that deletes a target. -/
def line : List Char :=
  "rm -rf ".toList ++ t.text

theorem text_eq_append :
  ∃ b ∈ outerBeginnings, ∃ rest, t.text = b.toList ++ rest
  := by
  obtain ⟨b, hb, hp⟩ := t.text_outer
  obtain ⟨rest, hr⟩ := List.isPrefixOf_iff_prefix.mp hp
  exact ⟨b, hb, rest, hr.symm⟩

theorem text_eq_cons :
  ∃ c rest, t.text = c :: rest
  := by
  have hne : ∀ b ∈ outerBeginnings, b.toList ≠ [] := by decide
  obtain ⟨b, hb, rest, ht⟩ := t.text_eq_append
  rw [ht]
  apply List.exists_cons_of_ne_nil
  exact List.append_ne_nil_of_left_ne_nil (hne b hb) rest

/-- The target is read to its end. -/
theorem takes_text :
  Takes (oneOf [seq (lit "/") (many ink), seq (lit "$HOME") (many ink), seq (lit "~") (many ink),
    seq (lit "..") (many ink), lit "*"]) t.text []
  := by
  obtain ⟨b, hb, rest, ht⟩ := t.text_eq_append
  have hrest : ∀ c ∈ rest, Text.isBlank c = false := by
    intro c hc
    apply t.text_ink
    rw [ht]
    exact List.mem_append_right _ hc
  have htakes : Takes (seq (lit b) (many ink)) t.text [] := by
    rw [ht]
    apply (takes_lit b _).seq
    apply takes_run (by simpa using hrest) (Nat.zero_le _) (by simp) (.inr (by simp))
  -- the alternatives before the one for the beginning ask for another first character
  have hr : ∀ (c : Char) (others : List Char) (p : Pattern),
      (∀ d ∈ b.toList.head?, d ≠ c) → b ≠ "" →
      Refuses (seq (inOrder ((c :: others).map fun d => one (· = d))) p) (t.text ++ []) := by
    intro c others p hc hne
    apply (refuses_word _ others).seq
    intro d hd
    apply hc
    have hb : b.toList ≠ [] := by simpa using hne
    rwa [ht, List.append_nil, List.head?_append_of_ne_nil _ hb] at hd
  simp only [outerBeginnings, List.mem_cons, List.not_mem_nil, or_false] at hb
  obtain rfl | rfl | rfl := hb
  · exact htakes.left _
  · apply Takes.right (hr '/' [] _ (by simp) (by decide))
    apply Takes.right (hr '$' "HOME".toList _ (by simp) (by decide))
    exact htakes.left _
  · apply Takes.right (hr '/' [] _ (by simp) (by decide))
    apply Takes.right (hr '$' "HOME".toList _ (by simp) (by decide))
    apply Takes.right (hr '~' [] _ (by simp) (by decide))
    exact htakes.left _

theorem takes_line :
  Takes deletion t.line []
  := by
  obtain ⟨c, rest, ht⟩ := t.text_eq_cons
  have hc : Text.isBlank c = false := t.text_ink c (ht ▸ List.mem_cons_self)
  have htext := t.takes_text
  rw [ht] at htext
  have hflag : Takes (word "-rf") ['-', 'r', 'f', ' '] (c :: rest ++ []) :=
    takes_command "-rf" hc _
  have hname : Takes (word "rm") ['r', 'm', ' '] (['-', 'r', 'f', ' '] ++ c :: rest ++ []) :=
    takes_command "rm" (c := '-') rfl _
  have hline : t.line = ['r', 'm', ' '] ++ (['-', 'r', 'f', ' '] ++ c :: rest) := by
    unfold line
    rw [ht]
    rfl
  rw [hline]
  exact hname.seq (hflag.seq htext)

theorem findAll_line :
  ∃ kept, deletion.findAll t.line = [⟨0, t.line, kept⟩]
  := by
  have hend : Refuses deletion [] :=
    ((refuses_word (d := 'r') (by simp) ['m']).seq _).seq _
  apply findAll_of_takes (a := []) _ (List.forall_mem_nil _) t.takes_line hend
  exact List.append_ne_nil_of_left_ne_nil (by decide) _

/-- No safe directory reaches over the blank before the target. -/
theorem has_line_iff {place : String} (hp : place ∈ safeDeletePaths) :
  Text.has t.line place ↔ Text.has t.text place
  := by
  have hblank : ∀ place ∈ safeDeletePaths, ' ' ∉ place.toList := by decide
  have hcommand : ∀ place ∈ safeDeletePaths, ¬ Text.has "rm -rf".toList place := by decide
  rw [Text.has_iff, Text.has_iff]
  constructor
  · intro h
    obtain hr | ht := Text.infix_append_cons (a := "rm -rf".toList) (hblank place hp) h
    · exact absurd (Text.has_iff.mpr hr) (hcommand place hp)
    · exact ht
  · intro h
    exact h.trans (List.suffix_append _ _).isInfix

end Target

/-- A recursive deletion outside of the working directory is reported if and only if its target
mentions none of the safe directories, be it as a directory around it, as a part of a longer name or
below another directory. -/
theorem reports_deletion_iff (t : Target) {source : Source} {n : Nat}
    (hl : (n, t.line) ∈ source.numberedLines) (document : Document) :
  Reports (Rule.dangerousCommands.check document source).findings.vulnerabilities
    "Recursive delete" n ↔ ∀ place ∈ safeDeletePaths, ¬ Text.has t.text place
  := by
  have hform : dangerous.filter (·.title = "Recursive delete") = [recursiveDelete] := rfl
  have hcomment : isComment t.line = false := rfl
  have haccepts : recursiveDelete.accepts = namesNone safeDeletePaths := rfl
  obtain ⟨kept, hm⟩ := t.findAll_line
  have hmatches := matchesOn_ne_nil_iff recursiveDelete hcomment haccepts hm
  apply (reported_iff hform hl document).trans
  apply hmatches.trans
  constructor
  · intro h place hp hm
    apply h place hp
    exact (t.has_line_iff hp).mpr hm
  · intro h place hp hm
    apply h place hp
    exact (t.has_line_iff hp).mp hm

/-- A directory of the system. -/
def systemTarget : Target where
  text := "/var/lib/app".toList
  text_ink := List.all_iff_forall_prop.mp (by decide)
  text_outer := by decide

theorem reports_deletion_iff_systemTarget :
  (1, systemTarget.line) ∈ Source.numberedLines ⟨systemTarget.line, "github-actions"⟩ ∧
  Reports (Rule.dangerousCommands.check .null
    ⟨systemTarget.line, "github-actions"⟩).findings.vulnerabilities "Recursive delete" 1
  := by
  have hl : (1, systemTarget.line) ∈
      Source.numberedLines ⟨systemTarget.line, "github-actions"⟩ := by
    decide
  exact ⟨hl, (reports_deletion_iff systemTarget hl .null).mpr (by decide)⟩

/-- A target outside of the safe directories is let through, as one of its directories has the name
of a safe one. -/
theorem dangerousCommands_nestedTarget :
  let target := "/srv/tmp/data".toList
  (target.all (!Text.isBlank ·) ∧ Text.startsWith target "/" ∧
    ¬ Text.startsWith target "/tmp/" ∧ ¬ Text.startsWith target "/var/tmp/") ∧
  (Rule.dangerousCommands.check .null
    ⟨"rm -rf ".toList ++ target, "github-actions"⟩).findings.vulnerabilities.isEmpty
  := by
  decide +kernel

/-! ### Remote scripts -/

/-- A script from a remote host, up to the shell that runs it. -/
def fetchedScript : Pattern :=
  inOrder [oneWord ["curl", "wget"], many1 blank, many (except '|'), lit "|", many blank,
    optional (word "sudo"), oneWord ["sh", "bash", "zsh", "python", "ruby", "perl"], wordEdge]

/-- The form of remote scripts that are run. -/
def remoteScript : CommandForm where
  title := "Remote script execution"
  pattern := seq wordEdge fetchedScript
  threat := .critical
  recommendation := "Download, verify, and then execute scripts separately"
  accepts := namesNone trustedHosts

/-- A script that a tool fetches from a host. -/
structure Script where
  tool : List Char
  scheme : List Char
  host : List Char
  path : List Char
  tool_known : tool ∈ ["curl".toList, "wget".toList]
  scheme_known : scheme ∈ ["http".toList, "https".toList]
  host_plain : '|' ∉ host
  path_plain : '|' ∉ path

namespace Script

variable (s : Script)

/-- The address of the script. -/
def address : List Char :=
  s.scheme ++ ':' :: '/' :: '/' :: (s.host ++ '/' :: s.path)

/-- The line that runs the script in a shell. -/
def line : List Char :=
  s.tool ++ ' ' :: (s.address ++ [' ', '|', ' ', 's', 'h'])

theorem takes_tool (rest : List Char) :
  Takes (oneWord ["curl", "wget"]) s.tool rest
  := by
  have ht := s.tool_known
  simp only [List.mem_cons, List.not_mem_nil, or_false] at ht
  obtain h | h := ht
  · rw [h]
    exact (takes_lit "curl" rest).left _
  · rw [h]
    apply Takes.right _ (takes_lit "wget" rest)
    exact refuses_word (d := 'c') (by simp) _

theorem not_mem_address :
  '|' ∉ s.address
  := by
  have hscheme : ∀ scheme ∈ ["http".toList, "https".toList], '|' ∉ scheme := by decide
  unfold address
  rw [List.mem_append, not_or]
  constructor
  · exact hscheme _ s.scheme_known
  · simp [s.host_plain, s.path_plain]

/-- The address and the blank after it are read up to the bar. -/
theorem takes_address (rest : List Char) :
  Takes (many (except '|')) (s.address ++ [' ']) ('|' :: rest)
  := by
  apply takes_run _ (Nat.zero_le _) (by simp) (.inr (by simp))
  intro c hc
  obtain hc | hc := List.mem_append.mp hc
  · have hne : c ≠ '|' := ne_of_mem_of_not_mem hc s.not_mem_address
    exact decide_eq_true hne
  · obtain rfl := List.mem_singleton.mp hc
    rfl

/-- The name of the shell is read at the end of the line. -/
theorem takes_shell :
  Takes (seq (oneWord ["sh", "bash", "zsh", "python", "ruby", "perl"]) wordEdge) ['s', 'h'] []
  := by
  intro before kept
  exact ⟨kept, rfl⟩

/-- The address begins with a letter. -/
theorem head?_address_append (rest : List Char) :
  (s.address ++ rest).head? = some 'h'
  := by
  have hscheme : ∀ scheme ∈ ["http".toList, "https".toList], scheme.head? = some 'h' := by
    decide
  unfold address
  rw [List.head?_append, List.head?_append, hscheme _ s.scheme_known]
  rfl

theorem takes_line :
  Takes fetchedScript s.line []
  := by
  have hblank : Takes (many1 blank) [' ']
      (s.address ++ [' '] ++ (['|'] ++ ([' '] ++ ([] ++ ['s', 'h']))) ++ []) := by
    apply takes_run (List.forall_mem_singleton.mpr rfl) (Nat.le_refl 1) (by simp) (.inr _)
    intro c hc
    rw [List.append_assoc, List.append_assoc, head?_address_append] at hc
    obtain rfl := Option.some.inj hc
    rfl
  have hgap : Takes (many blank) [' '] ['s', 'h'] :=
    takes_run (List.forall_mem_singleton.mpr rfl) (Nat.zero_le _) (by simp) (.inr (by simp; rfl))
  have hsudo : Takes (optional (word "sudo")) [] ['s', 'h'] := by
    apply takes_none
    exact fun before kept => rfl
  have hbar : Takes (lit "|") ['|'] [' ', 's', 'h'] := takes_lit "|" _
  -- part by part, from the shell back to the tool
  have hshell : Takes _ ([] ++ ['s', 'h']) [] := Takes.seq hsudo takes_shell
  have hrun : Takes _ (['|'] ++ ([' '] ++ ([] ++ ['s', 'h']))) [] :=
    Takes.seq hbar (Takes.seq hgap hshell)
  have hfetch : Takes _ (s.address ++ [' '] ++ (['|'] ++ ([' '] ++ ([] ++ ['s', 'h'])))) [] :=
    Takes.seq (s.takes_address _) hrun
  have hall := (s.takes_tool _).seq (hblank.seq hfetch)
  have hline : s.line = s.tool ++
      ([' '] ++ (s.address ++ [' '] ++ (['|'] ++ ([' '] ++ ([] ++ ['s', 'h']))))) := by
    simp [line]
  rw [hline]
  exact hall

theorem line_eq_cons :
  ∃ c rest, s.line = c :: rest ∧ c ∈ ['c', 'w']
  := by
  have htools : ∀ tool ∈ ["curl".toList, "wget".toList],
      ∃ c ∈ ['c', 'w'], ∃ rest, tool = c :: rest := by
    simp
  obtain ⟨c, hc, rest, ht⟩ := htools _ s.tool_known
  unfold line
  rw [ht]
  exact ⟨c, _, rfl, hc⟩

theorem findAll_line :
  ∃ kept, remoteScript.pattern.findAll s.line = [⟨0, s.line, kept⟩]
  := by
  have hword : ∀ c ∈ ['c', 'w'], Text.isWord c := List.all_iff_forall_prop.mp (by decide)
  obtain ⟨c, rest, hl, hc⟩ := s.line_eq_cons
  obtain ⟨kept, hm⟩ := s.takes_line.matchAt?_eq 0 none
  rw [List.append_nil] at hm
  have hend : Refuses fetchedScript [] :=
    ((refuses_word (d := 'c') (by simp) _).either (refuses_word (d := 'w') (by simp) _)).seq _
  refine ⟨kept, findAll_of_matchAt? (hl ▸ List.cons_ne_nil c rest) ?_ hend.wordEdge⟩
  rw [hl] at hm ⊢
  exact (matchAt?_wordEdge _ 0 (hword c hc) rest).trans hm

theorem isComment_line :
  isComment s.line = false
  := by
  obtain ⟨c, rest, hl, hc⟩ := s.line_eq_cons
  have hc' : c = 'c' ∨ c = 'w' := by simpa using hc
  rw [hl]
  obtain rfl | rfl := hc' <;> rfl

theorem line_eq :
  s.line = s.tool ++ ' ' :: (s.scheme ++ ':' ::
    (['/', '/'] ++ (s.host ++ '/' :: (s.path ++ ' ' :: ['|', ' ', 's', 'h']))))
  := by
  unfold line address
  simp

/-- The names of trusted hosts have none of the characters around the host and the path. -/
theorem has_line_iff {name : String} (hn : name ∈ trustedHosts) :
  Text.has s.line name ↔ Text.has s.host name ∨ Text.has s.path name
  := by
  have hmarks : ∀ name ∈ trustedHosts,
      ' ' ∉ name.toList ∧ ':' ∉ name.toList ∧ '/' ∉ name.toList := by
    decide
  have hwords : ∀ name ∈ trustedHosts, ∀ word ∈ ["curl".toList, "wget".toList, "http".toList,
      "https".toList, ['|', ' ', 's', 'h']], ¬ Text.has word name := by
    decide
  obtain ⟨hblank, hcolon, hslash⟩ := hmarks name hn
  have hno : ∀ word, word ∈ ["curl".toList, "wget".toList, "http".toList, "https".toList,
      ['|', ' ', 's', 'h']] → ¬ name.toList <:+: word := by
    intro word hw h
    exact hwords name hn word hw (Text.has_iff.mpr h)
  have htool : ¬ name.toList <:+: s.tool := hno _ (List.mem_append_left _ s.tool_known)
  have hscheme : ¬ name.toList <:+: s.scheme := by
    apply hno
    exact List.mem_append_right ["curl".toList, "wget".toList]
      (List.mem_append_left [['|', ' ', 's', 'h']] s.scheme_known)
  rw [Text.has_iff, Text.has_iff, Text.has_iff, line_eq]
  constructor
  · intro h
    have haddress := (Text.infix_append_cons hblank h).resolve_left htool
    have hhost := (Text.infix_append_cons hcolon haddress).resolve_left hscheme
    have hslashes : ∀ c ∈ ['/', '/'], c ∉ name.toList := by simpa using hslash
    obtain hh | hp := Text.infix_append_cons hslash (Text.infix_of_infix_append hslashes hhost)
    · exact .inl hh
    · right
      exact (Text.infix_append_cons hblank hp).resolve_right (hno _ (by simp))
  · have hhost : s.host <:+: s.line := by
      use s.tool ++ ' ' :: (s.scheme ++ [':', '/', '/'])
      use '/' :: (s.path ++ [' ', '|', ' ', 's', 'h'])
      rw [line_eq]
      simp
    have hpath : s.path <:+: s.line := by
      use s.tool ++ ' ' :: (s.scheme ++ ':' :: '/' :: '/' :: (s.host ++ ['/']))
      use [' ', '|', ' ', 's', 'h']
      rw [line_eq]
      simp
    rw [← line_eq]
    rintro (h | h)
    · exact h.trans hhost
    · exact h.trans hpath

end Script

/-- A remote script that is run in a shell is reported if and only if neither its host nor its path
mentions the name of a trusted host, be it as the host, as a part of its name or as a directory. -/
theorem reports_remoteScript_iff (s : Script) {source : Source} {n : Nat}
    (hl : (n, s.line) ∈ source.numberedLines) (document : Document) :
  Reports (Rule.dangerousCommands.check document source).findings.vulnerabilities
    "Remote script execution" n ↔
    ∀ name ∈ trustedHosts, ¬ Text.has s.host name ∧ ¬ Text.has s.path name
  := by
  have hform : dangerous.filter (·.title = "Remote script execution") = [remoteScript] := rfl
  have haccepts : remoteScript.accepts = namesNone trustedHosts := rfl
  obtain ⟨kept, hm⟩ := s.findAll_line
  have hmatches := matchesOn_ne_nil_iff remoteScript s.isComment_line haccepts hm
  apply (reported_iff hform hl document).trans
  apply hmatches.trans
  apply forall₂_congr
  intro name hn
  rw [s.has_line_iff hn, not_or]

/-- A script from a host that nobody trusts. -/
def strangeScript : Script where
  tool := "wget".toList
  scheme := "https".toList
  host := "get.mirror-7.net".toList
  path := "v2/install.sh".toList
  tool_known := by decide
  scheme_known := by decide
  host_plain := by decide
  path_plain := by decide

theorem reports_remoteScript_iff_strangeScript :
  (1, strangeScript.line) ∈ Source.numberedLines ⟨strangeScript.line, "github-actions"⟩ ∧
  Reports (Rule.dangerousCommands.check .null
    ⟨strangeScript.line, "github-actions"⟩).findings.vulnerabilities "Remote script execution" 1
  := by
  have hl : (1, strangeScript.line) ∈
      Source.numberedLines ⟨strangeScript.line, "github-actions"⟩ := by
    decide
  exact ⟨hl, (reports_remoteScript_iff strangeScript hl .null).mpr (by decide)⟩

/-- A script from a host that is neither trusted nor below a trusted host is let through, as its
name begins with that of a trusted one. -/
theorem dangerousCommands_lookalikeHost :
  let host := "github.com.mirror-7.net".toList
  (host.all (fun c => c.isAlphanum || among ".-" c) ∧
    ∀ name ∈ trustedHosts, host ≠ name.toList ∧ ¬ '.' :: name.toList <:+ host) ∧
  (Rule.dangerousCommands.check .null
    ⟨"curl http://".toList ++ host ++ "/install | sh".toList,
      "github-actions"⟩).findings.vulnerabilities.isEmpty
  := by
  decide +kernel

end CommandForm

end PipelineAudit
