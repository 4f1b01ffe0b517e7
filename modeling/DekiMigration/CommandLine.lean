/-
# The command line

A conversion is asked for by the path of an export and options. Long options may be
shortened as long as it stays clear which one is meant, and what an option takes may
follow an equals sign or be the next word. Behind two hyphens every word stands for
itself, and so do words that look like a negative number or hold a space, unless
they are options.

Words are told apart before any of them takes effect. Then they take effect from
left to right, so the first fault, or the first request for help, decides.
-/

import DekiMigration.Text.Digit
import DekiMigration.Text.Number

namespace DekiMigration.CommandLine

open Text

/-- What a conversion is asked for. -/
structure Options where
  source : Text
  output : Option Text := none
  includeIgnored : Bool := false
  dryRun : Bool := false
  limit : Option Int := none
  verbose : Bool := false
  deriving DecidableEq, Repr

/-- The options there are. -/
inductive Flag where
  | help
  | output
  | includeIgnored
  | dryRun
  | limit
  | verbose
  deriving DecidableEq, Repr

/-- Why a command line asks for no conversion. -/
inductive Refusal where
  /-- Help is asked for. -/
  | help
  | ambiguous (word : Text) (matching : List Text)
  | noValue (flag : Flag)
  /-- A value for an option that takes none. -/
  | strayValue (flag : Flag) (value : Text)
  | notWhole (flag : Flag) (value : Text)
  | noSource
  | unknown (words : List Text)
  deriving DecidableEq, Repr

namespace Flag

/-- The long name of an option. -/
def longName : Flag → Text
  | help => "--help".toList
  | output => "--output".toList
  | includeIgnored => "--include-ignored".toList
  | dryRun => "--dry-run".toList
  | limit => "--limit".toList
  | verbose => "--verbose".toList

/-- The options in the order in which they are listed. -/
def all : List Flag :=
  [help, output, includeIgnored, dryRun, limit, verbose]

/-- The only option that has a short name. -/
def shortHelp : Text := "-h".toList

/-- How messages name an option. -/
def display (flag : Flag) : Text :=
  if flag = help then shortHelp ++ '/' :: flag.longName else flag.longName

end Flag

/-- What a word of the command line is. -/
inductive Word where
  /-- The word behind which every word stands for itself. -/
  | separator
  | plain (text : Text)
  /-- An option, and the value behind its equals sign. -/
  | option (flag : Flag) (value : Option Text)
  /-- Several short options in one word, the first being help: what follows that. -/
  | cluster (rest : Text)
  /-- What looks like an option but is none. -/
  | unknown (text : Text)
  deriving DecidableEq, Repr

/-- Whether a word looks like a negative number. -/
def isNegativeNumber (word : Text) : Bool :=
  match word with
  | '-' :: text =>
    let text := if text.getLast? = some '\n' then text.dropLast else text
    match text.span isDecimal with
    | (whole, []) => !whole.isEmpty
    | (_, '.' :: part) => !part.isEmpty && part.all isDecimal
    | _ => false
  | _ => false

/-- Tells what a word with two hyphens in front is. -/
def longWord (word : Text) : Except Refusal Word :=
  let (name, value) := match cutAt? '=' word with
    | some (name, value) => (name, some value)
    | none => (word, none)
  match Flag.all.find? (·.longName = name) with
  | some flag => .ok (.option flag value)
  | none =>
    match Flag.all.filter fun flag => name.isPrefixOf flag.longName with
    | [flag] => .ok (.option flag value)
    | [] => .ok (if word.contains ' ' then .plain word else .unknown word)
    | flags => .error (.ambiguous word (flags.map Flag.longName))

/-- Tells what a word is. -/
def classify (word : Text) : Except Refusal Word :=
  match word with
  | '-' :: '-' :: _ => longWord word
  | ['-', 'h'] => .ok (.option .help none)
  | '-' :: 'h' :: '=' :: value => .ok (.option .help (some value))
  | '-' :: 'h' :: rest => .ok (.cluster rest)
  | '-' :: _ :: _ =>
    .ok (if isNegativeNumber word || word.contains ' ' then .plain word else .unknown word)
  | _ => .ok (.plain word)

/-- Tells what the words of a command line are. -/
def classifyAll : List Text → Except Refusal (List Word)
  | [] => .ok []
  | word :: words =>
    if word = "--".toList then .ok (.separator :: words.map .plain)
    else do
      let first ← classify word
      let others ← classifyAll words
      return first :: others

/-- What has been found so far. The source is the first word that is no option. -/
structure State where
  source : Option Text := none
  options : Options := { source := [] }
  /-- The option whose value has to come next. -/
  awaiting : Option Flag := none
  /-- Whether the last word was the source. -/
  isFresh : Bool := false
  /-- Words that have no use, last first. -/
  unused : List Text := []

namespace State

/-- Leaves a word unused. -/
def leave (state : State) (word : Text) : State :=
  { state with unused := word :: state.unused, isFresh := false }

/-- Takes other options. -/
def withOptions (state : State) (options : Options) : State :=
  { state with options, awaiting := none, isFresh := false }

/-- Makes an option without value take effect. -/
def switch (state : State) (flag : Flag) : Except Refusal State :=
  match flag with
  | .help => .error .help
  | .includeIgnored => .ok (state.withOptions { state.options with includeIgnored := true })
  | .dryRun => .ok (state.withOptions { state.options with dryRun := true })
  | .verbose => .ok (state.withOptions { state.options with verbose := true })
  | .output | .limit => .ok { state with awaiting := some flag, isFresh := false }

/-- Makes an option with a value take effect. -/
def set (state : State) (flag : Flag) (value : Text) : Except Refusal State :=
  match flag with
  | .output => .ok (state.withOptions { state.options with output := some value })
  | .limit =>
    match readInt value with
    | .ok limit => .ok (state.withOptions { state.options with limit := some limit })
    | .error _ => .error (.notWhole flag value)
  | _ => .error (.strayValue flag value)

end State

/-- What several short options in one word, of which help is the first, come to:
help, unless something that looks like a value is among them. -/
def clusterRefusal : Text → Refusal
  | 'h' :: '=' :: value => .strayValue .help value
  | 'h' :: rest => clusterRefusal rest
  | '-' :: rest => .strayValue .help ('-' :: rest)
  | _ => .help

/-- Makes a word take effect. Two hyphens are of no further use next to the source,
and are left unused elsewhere. -/
def State.step (state : State) (word : Word) : Except Refusal State :=
  match state.awaiting, word with
  | some flag, .plain value => state.set flag value
  | some flag, _ => .error (.noValue flag)
  | none, .option flag (some value) => state.set flag value
  | none, .option flag none => state.switch flag
  | none, .cluster rest => .error (clusterRefusal rest)
  | none, .unknown text => .ok (state.leave text)
  | none, .separator =>
    .ok (if state.source.isSome && !state.isFresh then state.leave "--".toList
      else { state with isFresh := false })
  | none, .plain text =>
    .ok (if state.source.isSome then state.leave text
      else { state with source := some text, isFresh := true })

/-- Reads the words of a command line. -/
def read (words : List Text) : Except Refusal Options := do
  let state ← (← classifyAll words).foldlM State.step {}
  match state.awaiting, state.source, state.unused with
  | some flag, _, _ => .error (.noValue flag)
  | none, none, _ => .error .noSource
  | none, some source, [] => .ok { state.options with source }
  | none, some _, unused => .error (.unknown unused.reverse)

/-- The name of the program. -/
def programName : Text := "convert_mediawiki.py".toList

/-- How the program is used, in short. -/
def usage : Text :=
  ("usage: convert_mediawiki.py [-h] [--output DIR] [--include-ignored]\n" ++
    "                            [--dry-run] [--limit N] [--verbose]\n" ++
    "                            xml_file\n").toList

/-- What the program is for. -/
def purpose : Text :=
  "Convert pages from a MediaWiki XML export to Deki markup.\n".toList

/-- What is told when help is asked for. -/
def help : Text :=
  usage ++ ['\n'] ++ purpose ++ "
positional arguments:
  xml_file           Path to the MediaWiki XML export file

options:
  -h, --help         show this help message and exit
  --output DIR       Directory for converted pages (default: ./converted)
  --include-ignored  Also convert MediaWiki: and Category: pages
  --dry-run          Convert and report without writing any files
  --limit N          Only convert the first N pages
  --verbose          Debug logging

".toList ++ purpose ++ "
Usage:
    .venv/bin/python scripts/convert_mediawiki.py <export.xml> [options]

Options:
    --output DIR         Directory for converted pages (default: ./converted)
    --include-ignored    Also convert MediaWiki: and Category: pages
    --dry-run            Convert and report without writing any files
    --limit N            Only convert the first N pages (useful for testing)
    --verbose            Debug logging

Every page is written to <output>/<Title>.txt.  Magic words that no template
in the export resolves are listed in <output>/magic_words.txt, one
\"<Title>: <name>\" line each, for manual follow-up.

Example:
    .venv/bin/python scripts/convert_mediawiki.py ~/export.xml --dry-run --limit 10
    .venv/bin/python scripts/convert_mediawiki.py ~/export.xml --output /tmp/deki
".toList

namespace Refusal

/-- What is wrong with a command line; nothing when help is asked for. -/
def complaint : Refusal → Text
  | help => []
  | ambiguous word matching =>
    "ambiguous option: ".toList ++ word ++ " could match ".toList ++
      List.intercalate ", ".toList matching
  | noValue flag => "argument ".toList ++ flag.display ++ ": expected one argument".toList
  | strayValue flag value =>
    "argument ".toList ++ flag.display ++ ": ignored explicit argument ".toList ++ quoted value
  | notWhole flag value =>
    "argument ".toList ++ flag.display ++ ": invalid int value: ".toList ++ quoted value
  | noSource => "the following arguments are required: xml_file".toList
  | unknown words => "unrecognized arguments: ".toList ++ List.intercalate [' '] words

/-- The report on a command line that cannot be followed. -/
def report (refusal : Refusal) : Text :=
  usage ++ programName ++ ": error: ".toList ++ refusal.complaint ++ ['\n']

end Refusal

end DekiMigration.CommandLine
