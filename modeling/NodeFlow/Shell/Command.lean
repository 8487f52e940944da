import NodeFlow.Shell.Octets

/-! # Shell snippets

    A snippet is a list of commands: programs with arguments, assignments and
    redirections, joined by `&&`, `||` and `|`, and compound commands.  A word
    is made of parts; inside a word a parameter, the result of arithmetic or
    the output of commands may stand. -/

namespace NodeFlow.Shell

/-- How a word takes the place of the value of a parameter. -/
inductive Substitution where
  /-- When there is no value. -/
  | whenAbsent
  /-- When there is no value, and the parameter gets it as its value. -/
  | assigned
  /-- When there is a value. -/
  | whenPresent
  /-- When there is no value, as a complaint that ends the shell. -/
  | demanded
  deriving DecidableEq, Repr

/-- What a replacement replaces. -/
inductive Occurrence where
  /-- The first match. -/
  | first
  /-- Every match. -/
  | every
  /-- A match at the beginning. -/
  | atStart
  /-- A match at the end. -/
  | atEnd
  deriving DecidableEq, Repr

/-- How letters change. -/
inductive Recase where
  /-- To upper case. -/
  | upper
  /-- To lower case. -/
  | lower
  /-- To the other case. -/
  | other
  deriving DecidableEq, Repr

/-- What an extended condition compares two words by. -/
inductive Comparison where
  /-- The second word is a pattern that matches the first, or does not if the
      operator says so. -/
  | fits (operator : String)
  /-- The second word is a regular expression that matches in the first. -/
  | matches
  /-- The words are compared by an operator. -/
  | operator (name : String)
  deriving DecidableEq, Repr

/-- How a branch of a choice among patterns ends. -/
inductive BranchEnd where
  /-- The choice is over. -/
  | stops
  /-- The next branch is run, too. -/
  | fallsThrough
  /-- The next pattern that matches is looked for. -/
  | goesOn
  deriving DecidableEq, Repr

mutual

/-- What a parameter is found by. -/
inductive Parameter where
  /-- A name. -/
  | named (name : String)
  /-- A name and the place of an item. -/
  | item (name : String) (index : Word)
  /-- A name, for all its items; as one text if `joined`. -/
  | items (name : String) (joined : Bool)
  /-- The place of an argument. -/
  | place (n : Nat)
  /-- A sign. -/
  | sign (c : Char)

/-- What happens to the value of a parameter. -/
inductive Change where
  /-- Nothing. -/
  | value
  /-- It is counted. -/
  | size
  /-- A word may take its place; when `orEmpty`, an empty value counts as
      none. -/
  | substitute (how : Substitution) (orEmpty : Bool) (word : List Part)
  /-- What a pattern matches is taken away, at the end if `atEnd`, and as much
      as possible if `longest`. -/
  | trim (atEnd longest : Bool) (pattern : List Part)
  /-- What a pattern matches is replaced. -/
  | replace (where_ : Occurrence) (pattern replacement : List Part)
  /-- A part of it is cut out. -/
  | slice (start : List Part) (size : Option (List Part))
  /-- Letters that a pattern matches change their case; only the first one
      unless `all`. -/
  | recase (how : Recase) (all : Bool) (pattern : List Part)
  /-- It is shown in a form that has a letter. -/
  | shown (letter : Char)
  /-- There is no such change; without a value nothing is said of that, if it
      `needs` one.  The text is all that is expanded with it. -/
  | unknown (needs : Bool) (whole : String)

/-- A part of a word. -/
inductive Part where
  /-- Characters without quotes. -/
  | plain (s : String)
  /-- Characters with quotes. -/
  | literal (s : String)
  /-- Parts between double quotes. -/
  | quoted (parts : List Part)
  /-- A parameter; when `indirect`, the one that its value names. -/
  | param (p : Parameter) (indirect : Bool) (change : Change)
      (source : String)
  /-- The names that begin with a text. -/
  | names (start : String) (joined : Bool)
  /-- The places of the items of a parameter. -/
  | places (name : String) (joined : Bool)
  /-- The result of arithmetic. -/
  | arithmetic (parts : List Part) (source : String)
  /-- The output of commands. -/
  | output (body : List Command) (source : String)
  /-- The output of commands that are read when they are run. -/
  | unread (code : String) (source : String)
  /-- A file with the output of commands, or, when `gives`, one that gives
      them their input. -/
  | channel (gives : Bool) (body : List Command) (source : String)
  /-- The items of a list that a parameter gets. -/
  | list (items : List Item) (source : String)
  /-- A text that cannot be read.  What is said of it may have the number of a
      line among commands in the text. -/
  | faulty (complaints : List (Option Nat × String)) (source : String)

/-- A word, with the characters that it was read from. -/
inductive Word where
  /-- A word. -/
  | mk (parts : List Part) (source : String)

/-- An item of a list. -/
inductive Item where
  /-- An item, at a place or behind the one before; when `adds`, behind the
      value that is there. -/
  | mk (index : Option Word) (adds : Bool) (value : Word)

/-- An assignment. -/
inductive Assignment where
  /-- Give a parameter, or an item of it, a value; when `adds`, behind the one
      that it has. -/
  | mk (name : String) (index : Option Word) (adds : Bool) (value : Word)

/-- Where a stream of a command leads. -/
inductive Target where
  /-- To a file, written from its beginning; when `forced`, in any case. -/
  | write (file : Word) (forced : Bool)
  /-- To a file, written behind its end. -/
  | append (file : Word)
  /-- To a file, read. -/
  | read (file : Word)
  /-- To a file, read and written. -/
  | both (file : Word)
  /-- To where another stream leads, which a word names. -/
  | copy (other : Word) (output : Bool)
  /-- To a file that takes the output and the error output, written behind its
      end when `atEnd`. -/
  | all (file : Word) (atEnd : Bool)
  /-- To a text in the snippet: its parts, the word after it, and whether
      that was quoted and tabs were left out. -/
  | text (parts : List Part) (last : String) (quoted bare : Bool)
  /-- To a word, with a line end behind it. -/
  | line (word : Word)

/-- A redirection of a stream, which may get a number of its own under a
    name. -/
inductive Redirect where
  /-- A redirection. -/
  | mk (stream : Option Nat) (name : Option String) (target : Target)

/-- An extended condition. -/
inductive Test where
  /-- A word that is not empty. -/
  | word (w : Word)
  /-- What an operator asks about a word. -/
  | unary (op : String) (w : Word)
  /-- A comparison of two words. -/
  | binary (a : Word) (c : Comparison) (b : Word)
  /-- The opposite. -/
  | not (t : Test)
  /-- Both. -/
  | and (a b : Test)
  /-- One of both. -/
  | or (a b : Test)
  /-- A condition between parentheses. -/
  | group (t : Test)

/-- A command; `line` is the number of the line on which it begins. -/
inductive Command where
  /-- A program with arguments. -/
  | simple (line : Nat) (assignments : List Assignment) (words : List Word)
      (redirects : List Redirect)
  /-- Commands of which each has the output of the one before as its input; a
      success counts as a failure and the other way round if `inverted`. -/
  | pipeline (inverted : Bool) (commands : List Command)
  /-- A command and the times that it takes, in the usual format if
      `usual`. -/
  | timed (usual : Bool) (c : Command)
  /-- The second command if the first succeeds. -/
  | both (first second : Command)
  /-- The second command if the first fails. -/
  | either (first second : Command)
  /-- A command that nothing waits for. -/
  | aside (c : Command)
  /-- A compound command with redirections. -/
  | redirected (line : Nat) (c : Command) (redirects : List Redirect)
  /-- Commands in a group. -/
  | group (body : List Command)
  /-- Commands in a shell of their own, whose parentheses end on a line. -/
  | apart (line : Nat) (body : List Command)
  /-- Choose by the success of a condition. -/
  | choose (condition yes : List Command) (no : Option (List Command))
  /-- Repeat as long as the condition succeeds, or fails if `inverse`. -/
  | loop (inverse : Bool) (condition body : List Command)
  /-- Repeat for every field of some words; without words, for every argument.
      When `asks`, the fields are offered for choice. -/
  | each (line : Nat) (asks : Bool) (name : String)
      (words : Option (List Word)) (body : List Command)
  /-- Repeat as long as a calculation is not zero. -/
  | count (line : Nat) (start condition step : List Part)
      (sources : List String) (body : List Command)
  /-- Choose by patterns that match a word. -/
  | select (line : Nat) (word : Word) (branches : List Branch)
  /-- Success if a calculation is not zero. -/
  | calculate (line : Nat) (parts : List Part) (source : String)
  /-- Success if a condition holds. -/
  | check (line : Nat) (t : Test)
  /-- Give a command a name; it begins on a line of its own. -/
  | define (line start : Nat) (name : String) (body : Command)

/-- A branch of a choice among patterns. -/
inductive Branch where
  /-- The patterns and the commands of a branch. -/
  | mk (patterns : List Word) (body : List Command) (ending : BranchEnd)

end

instance : Inhabited Word := ⟨.mk [] ""⟩

instance : Inhabited Command := ⟨.group []⟩

namespace Word

/-- The parts of a word. -/
def parts : Word → List Part
  | .mk ps _ => ps

/-- The characters of a word as it was written. -/
def source : Word → String
  | .mk _ s => s

end Word

end NodeFlow.Shell
