import JobGate.Text.Classes

/-!
# Filters of the log

A filter is a list of directives between commas. A directive is a level, or a target, or a span in
brackets, or a target with a span, and may end in an equality sign and a level. Which filters are
well formed is all that matters here.
-/
namespace JobGate.LogFilter

def levelNames : List String := ["off", "error", "warn", "info", "debug", "trace"]

/-- A level: its name in either case, a number up to five, or nothing. -/
def isLevel (cs : List Char) : Bool :=
  let digits := if cs.head? == some '+' then cs.drop 1 else cs
  let value := digits.foldl (fun n c => n * 10 + (c.toNat - 0x30)) 0
  cs.isEmpty || levelNames.contains (String.ofList (cs.map Char.toLower))
    || (!digits.isEmpty && digits.all Char.isDigit && value ≤ 5)

/-- A character that a target may start with. -/
def startsTarget (c : Char) : Bool :=
  c == '-' || c == ':' || c == '_' || isAlphabetic c || c.isDigit

/-- What may follow a span: nothing, or an equality sign and a level. -/
def isSpanEnd : List Char → Bool
  | [] => true
  | '=' :: level => isLevel level
  | _ => false

/-- A span after its opening bracket: a name and, in braces, fields that are not empty. -/
def isSpan (cs : List Char) : Bool :=
  let openBrace := Char.ofNat 0x7B
  let closeBrace := Char.ofNat 0x7D
  match cs.dropWhile fun c => c != ']' && c != openBrace with
  | [] => false
  | ']' :: rest => isSpanEnd rest
  | _ :: fields =>
    let field := fields.takeWhile (· != closeBrace)
    match fields.dropWhile (· != closeBrace) with
    | _ :: ']' :: rest => !field.isEmpty && isSpanEnd rest
    | _ => false

def isDirective (cs : List Char) : Bool :=
  match trimBlanks cs with
  | [] => false
  | '[' :: rest => isSpan rest
  | c :: rest =>
    startsTarget c && match rest.dropWhile fun c => c != '=' && c != '[' with
      | [] => true
      | '=' :: level => isLevel level
      | _ :: span => isSpan span

def isWellFormed (s : String) : Bool :=
  s == "" || (splitWhere (· == ',') s.toList).all isDirective

end JobGate.LogFilter
