import ScreenScript.Number.Layout
import ScreenScript.Number.Word

/-!
The words of a script: places, tokens, and what can be wrong with a text before it is parsed.
-/

namespace ScreenScript.Script

/-- Lines and columns count from one, columns in characters. -/
structure Position where
  line : Nat
  col : Nat
  deriving DecidableEq, Inhabited, Repr

namespace Position

def start : Position := ⟨1, 1⟩

def after (p : Position) (c : Char) : Position :=
  if c = '\n' then ⟨p.line + 1, 1⟩ else ⟨p.line, p.col + 1⟩

def afterAll (p : Position) (s : List Char) : Position :=
  s.foldl after p

end Position

inductive LexFault where
  | unexpected (what : String)
  | openString
  | stringTooLong (limit : Nat)
  | badEscape (sequence : String)
  | badNumber (text : String)
  | badChar (text : String)
  | badName (text : String)
  | badSymbol (remark : String)
  deriving DecidableEq

def LexFault.message : LexFault → String
  | unexpected what => "Unexpected '" ++ what ++ "'"
  | openString => "Open string is not terminated"
  | stringTooLong n => "Length of string exceeds the maximum limit (" ++ toString n ++ ")"
  | badEscape s => "Invalid escape sequence: '" ++ s ++ "'"
  | badNumber s => "Invalid number: '" ++ s ++ "'"
  | badChar s => "Invalid character: '" ++ s ++ "'"
  | badName s => "Variable name is not proper: '" ++ s ++ "'"
  | badSymbol remark => remark

inductive Token where
  | int (n : Int64)
  /-- A number with a fraction or an exponent, and how it was written. -/
  | float (x : Binary64) (written : String)
  | char (c : Char)
  | string (s : String)
  /-- Text in front of an embedded block. -/
  | piece (s : String)
  | name (s : String)
  | reserved (s : String)
  | symbol (s : String)
  | fault (e : LexFault)
  | eof
  deriving DecidableEq

namespace Token

def text : Token → String
  | int n => Word.text n
  | float _ written => written
  | char c => String.singleton c
  | string s => "\"" ++ s ++ "\""
  | piece _ => "string"
  | name s => s
  | reserved s => s
  | symbol s => s
  | fault e => e.message
  | eof => "\x7bEOF\x7d"

def keywords : List String :=
  ["true", "false", "let", "const", "if", "else", "switch", "do", "while", "until", "loop", "for",
    "in", "fn", "private", "continue", "break", "return", "throw", "try", "catch", "import",
    "export", "as"]

def reservedWords : List String :=
  ["print", "debug", "type_of", "eval", "Fn", "call", "curry", "this", "is_def_var", "is_def_fn",
    "is_shared", "var", "static", "shared", "goto", "match", "case", "default", "void",
    "null", "nil", "new", "use", "with", "is", "module", "package", "super", "public", "protected",
    "spawn", "thread", "go", "sync", "async", "await", "yield", "each", "then", "begin", "end"]

def callableWords : List String :=
  ["print", "debug", "type_of", "eval", "Fn", "call", "curry", "is_def_var", "is_def_fn",
    "is_shared"]

def methodWords : List String := ["type_of", "call", "curry", "is_shared"]

/-- Symbols after which a sign belongs to the number that follows. -/
def beforeSign : List String :=
  [";", ":", ",", "??", "..", "..=", "\x7b", "(", "[", "+", "+=", "-", "-=", "*", "*=", "/", "/=",
    "<<", "<<=", ">>", ">>=", "=", "==", "!=", "<", ">", "!", "<=", ">=", "|", "||", "|=", "&",
    "&&", "&=", "^", "^=", "%", "%=", "**", "**=", "if", "while", "until", "return", "throw", "in",
    "!in", "=>", "#\x7b"]

def allowsSign : Token → Bool
  | symbol s => beforeSign.contains s
  | fault _ => true
  | _ => false

end Token

structure Placed where
  token : Token
  pos : Position
  /-- Whether a period was the last token up to here. -/
  afterPeriod : Bool := false
  deriving DecidableEq

end ScreenScript.Script
