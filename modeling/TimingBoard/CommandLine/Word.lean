namespace TimingBoard.CommandLine

/-! The words of a command line, by their form alone. -/

inductive Word where
  /-- Two dashes: no options after it. -/
  | separator
  /-- `--name` or `--name=value`. -/
  | long (name : String) (value : Option String)
  /-- `-l`, with what follows the letter. -/
  | short (letter : Char) (rest : List Char)
  | plain (text : String)
deriving DecidableEq, Repr

/-- The parts before and after the first equals sign. -/
def splitValue (chars : List Char) : String × Option String :=
  (String.ofList (chars.takeWhile (· != '=')),
    match chars.dropWhile (· != '=') with
    | _ :: value => some (String.ofList value)
    | [] => none)

def Word.ofText (text : String) : Word :=
  match text.toList with
  | ['-', '-'] => .separator
  | '-' :: '-' :: chars => .long (splitValue chars).1 (splitValue chars).2
  | '-' :: letter :: rest => .short letter rest
  | _ => .plain text

/-- What is attached to a short option.  An equals sign in front of it does not belong to it. -/
def attached? : List Char → Option String
  | [] => none
  | '=' :: value => some (String.ofList value)
  | value => some (String.ofList value)

/-- After a digit: digits, one point before an exponent, and one exponent mark that is not the last
character. -/
def isNumberTail : (pointAllowed markAllowed : Bool) → List Char → Bool
  | _, _, [] => true
  | pointAllowed, markAllowed, c :: rest =>
      if c.isDigit then isNumberTail pointAllowed markAllowed rest
      else if c = '.' then pointAllowed && isNumberTail false markAllowed rest
      else (c == 'e' || c == 'E') && markAllowed && !rest.isEmpty && isNumberTail false false rest

/-- Whether the characters after a dash look like those of a negative number. -/
def isNumber : List Char → Bool
  | first :: rest => first.isDigit && isNumberTail true true rest
  | [] => false

end TimingBoard.CommandLine
