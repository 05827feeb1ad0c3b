import UsageLint.Toml.Scan

namespace UsageLint.Toml

/-!
# Quoted strings and keys

A string stands in double quotes, where a backslash opens an escape, or in
single quotes, where every character is itself. In three quotes of either sort
it may run over several lines; a line end then counts as a line feed, one that
follows the opening quotes is dropped, and up to two quotes may stand next to
the closing ones.
-/

/-- The character with a number, if there is one. -/
def scalar? (number : Nat) : Option Char :=
  if number.isValidChar then
    some (Char.ofNat number)
  else
    none

/-- Take the rest of an escape after its backslash. -/
def escape? : List Char → Option (Char × List Char)
  | 'b' :: rest => some ('\x08', rest)
  | 't' :: rest => some ('\t', rest)
  | 'n' :: rest => some ('\n', rest)
  | 'f' :: rest => some ('\x0c', rest)
  | 'r' :: rest => some ('\r', rest)
  | '"' :: rest => some ('"', rest)
  | '\\' :: rest => some ('\\', rest)
  | 'u' :: rest => do
      let (digits, rest) ← digits? 16 4 rest
      return (← scalar? (ofDigits 16 digits), rest)
  | 'U' :: rest => do
      let (digits, rest) ← digits? 16 8 rest
      return (← scalar? (ofDigits 16 digits), rest)
  | _ => none

/-- Skip the line end after a backslash, with the blanks and line ends around it. -/
def escapedNewline? (text : List Char) : Option (List Char) :=
  (newline? (skipInlineBlanks text)).map skipBlankLines
where
  /-- Skip blanks and line ends. -/
  skipBlankLines : List Char → List Char
    | '\n' :: rest => skipBlankLines rest
    | '\r' :: '\n' :: rest => skipBlankLines rest
    | character :: rest =>
        if isInlineBlank character then
          skipBlankLines rest
        else
          character :: rest
    | [] => []

/-- Take the rest of a string in double quotes; the steps bound its length. -/
def basicRest? : Nat → List Char → Option (List Char × List Char)
  | 0, _ => none
  | _ + 1, [] => none
  | steps + 1, character :: rest =>
      if character = '"' then
        some ([], rest)
      else if character = '\\' then do
        let (escaped, rest) ← escape? rest
        let (others, rest) ← basicRest? steps rest
        return (escaped :: others, rest)
      else if isPlain character then do
        let (others, rest) ← basicRest? steps rest
        return (character :: others, rest)
      else
        none

/-- Take the rest of a string in single quotes. -/
def literalRest? : List Char → Option (List Char × List Char)
  | [] => none
  | character :: rest =>
      if character = '\'' then
        some ([], rest)
      else if isPlain character then do
        let (others, rest) ← literalRest? rest
        return (character :: others, rest)
      else
        none

/--
Take the rest of a string over several lines; the steps bound its length.

A run of three to five quotes closes the string, and all but the last three
belong to it; a shorter run belongs to it altogether.
-/
def multilineRest? (quote : Char) (escapes : Bool) :
    Nat → List Char → Option (List Char × List Char)
  | 0, _ => none
  | _ + 1, [] => none
  | steps + 1, character :: rest =>
      if character = quote then
        let run := rest.takeWhile (· == quote)
        let after := rest.drop run.length
        if run.length < 2 then do
          let (others, rest) ← multilineRest? quote escapes steps after
          return (character :: run ++ others, rest)
        else if run.length ≤ 4 then
          some (run.drop 2, after)
        else
          none
      else if escapes && character == '\\' then
        match escapedNewline? rest with
        | some rest => multilineRest? quote escapes steps rest
        | none => do
            let (escaped, rest) ← escape? rest
            let (others, rest) ← multilineRest? quote escapes steps rest
            return (escaped :: others, rest)
      else
        match newline? (character :: rest) with
        | some rest => do
            let (others, rest) ← multilineRest? quote escapes steps rest
            return ('\n' :: others, rest)
        | none =>
            if isPlain character then do
              let (others, rest) ← multilineRest? quote escapes steps rest
              return (character :: others, rest)
            else
              none

/-- Take a string of any sort. -/
def quoted? (text : List Char) : Option (List Char × List Char) :=
  let multiline := fun (quote : Char) (escapes : Bool) (rest : List Char) =>
    multilineRest? quote escapes (rest.length + 1)
      ((newline? rest).getD rest)
  match text with
  | '"' :: '"' :: '"' :: rest => multiline '"' true rest
  | '"' :: rest => basicRest? (rest.length + 1) rest
  | '\'' :: '\'' :: '\'' :: rest => multiline '\'' false rest
  | '\'' :: rest => literalRest? rest
  | _ => none

/-- Whether a character may stand in a key without quotes. -/
def isKeyCharacter (character : Char) : Bool :=
  character.isAlphanum || character == '_' || character == '-'

/-- Take one key. -/
def simpleKey? (text : List Char) : Option (String × List Char) :=
  match text with
  | '"' :: rest =>
      (basicRest? (rest.length + 1) rest).map fun (key, rest) =>
        (String.ofList key, rest)
  | '\'' :: rest =>
      (literalRest? rest).map fun (key, rest) =>
        (String.ofList key, rest)
  | _ =>
      let key := text.takeWhile isKeyCharacter
      if key.isEmpty then
        none
      else
        some (String.ofList key, text.drop key.length)

/-- Take keys joined by dots; the steps bound their number. -/
def keysFrom? : Nat → List Char → Option (List String × List Char)
  | 0, _ => none
  | steps + 1, text => do
      let (key, rest) ← simpleKey? (skipInlineBlanks text)
      match skipInlineBlanks rest with
      | '.' :: rest =>
          let (keys, rest) ← keysFrom? steps rest
          return (key :: keys, rest)
      | rest => return ([key], rest)

/-- A key has at most this many parts. -/
def keyPartLimit : Nat := 79

/-- Take keys joined by dots, with blanks around each. -/
def keys? (text : List Char) : Option (List String × List Char) :=
  keysFrom? keyPartLimit text

end UsageLint.Toml
