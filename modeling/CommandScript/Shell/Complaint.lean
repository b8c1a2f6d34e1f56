import CommandScript.Shell.Parser

/-!
# Complaints about sources

What a shell says about a source that it cannot read. The shell of the standard has one line for
it; the other one has a line that tells what is wrong, and often one that shows the line of the
source.
-/
namespace CommandScript.Shell

/-- What of a complaint comes before the words for a flaw, in the extended language. -/
def lineHead (line : Nat) : Text := "line ".toList ++ shown line ++ ": ".toList

/-- The words for a flaw in the language of the standard. -/
def Flaw.standardWords (f : Flaw) : Text :=
  let needing (needed : Option String) : Text := match needed with
    | some t =>
      let shown := if t = "word" then t.toList else ['"'] ++ t.toList ++ ['"']
      " (expecting ".toList ++ shown ++ [')']
    | none => []
  "Syntax error: ".toList ++ match f with
    | .unexpected token needed =>
      let isSign := (Parser.closers ++ Parser.openers ++ ["in".toList, ['!']]).contains token ||
        (operatorsOf .standard).contains token
      let isRedirection := (redirectionsOf .standard).any fun sign ↦
        (Text.dropStart? sign (token.dropWhile Char.isDigit)).isSome
      let word := if token = "newline".toList then token
        else if isSign then ['"'] ++ token ++ ['"']
        else if isRedirection then "redirection".toList else "word".toList
      word ++ " unexpected".toList ++ needing needed
    | .ending needed => "end of file unexpected".toList ++ needing needed
    | .unclosed '\x7d' => "Missing '\x7d'".toList
    | .unclosed ')' => "Missing '))'".toList
    | .unclosed '\x60' => "EOF in backquote substitution".toList
    | .unclosed _ => "Unterminated quoted string".toList
    | .unclosedCommand => "end of file unexpected (expecting \")\")".toList
    | .functionName => "Bad function name".toList
    | _ => "Bad for loop variable".toList

/-- What is said about a fault in a source whose lines end at a number, one text for each line. Each
follows the name of the shell or of a file. In the standard, the name of a command whose source it
is comes after the line. -/
def SyntaxFault.complaint (f : SyntaxFault) (dialect : Dialect) (within source : Text)
    (lines : Nat) : List Text :=
  let line := Parser.lineOf lines f.place
  let first := Parser.lineOf lines source
  let shownLine : Text :=
    lineHead line ++ citedText ((Text.fields '\n' source)[line - first]?.getD [])
  match dialect with
  | .standard => [shown line ++ ": ".toList ++ within ++ f.flaw.standardWords]
  | .extended =>
    match f.flaw with
    | .unexpected token _ =>
      [lineHead line ++ "syntax error near unexpected token ".toList ++ citedText token, shownLine]
    | .loopName | .functionName => [shownLine]
    | .near t => [lineHead line ++ "syntax error near ".toList ++ citedText t, shownLine]
    | .ending _ => [lineHead lines ++ "syntax error: unexpected end of file".toList]
    | .unclosed closing =>
      [lineHead line ++ "unexpected EOF while looking for matching ".toList ++ citedText [closing]]
    | .unclosedCommand =>
      [lineHead lines ++ "unexpected EOF while looking for matching ".toList ++
        citedText [')']]
    | .condition remarks _ => remarks.map fun t ↦ lineHead line ++ t
    | .lacksExpression source =>
      [lineHead line ++ "syntax error: arithmetic expression required".toList,
        lineHead line ++ "syntax error: ".toList ++
          citedText ("((".toList ++ source ++ "))".toList)]

end CommandScript.Shell
