/-!
Module specifiers. A relative specifier without an extension gets `.js`, so that an emitted file imports its emitted
sibling. The rule looks at the text only.
-/
namespace Distill.Specifier

def isRelative (s : List Char) : Bool := ['.'].isPrefixOf s

/-- Whether the text ends in an extension that is left alone. -/
def hasExtension (s : List Char) : Bool :=
  ['.', 't', 's'].isSuffixOf s || ['.', 'j', 's'].isSuffixOf s

/-- Relative specifiers without an extension get one; all others stay. -/
def explicitChars (s : List Char) : List Char :=
  if isRelative s && !hasExtension s then s ++ ['.', 'j', 's'] else s

def explicit (s : String) : String := String.ofList (explicitChars s.toList)

/-- The quote character and the text inside, if a literal stands between two equal quotes. -/
def unquote? : List Char → Option (Char × List Char)
  | [] => none
  | q :: rest =>
    if (q = '"' ∨ q = '\'') ∧ rest.getLast? = some q then some (q, rest.dropLast) else none

/-- The rule on a literal as it stands in a module: inside its quotes if it has them, else on the whole. -/
def explicitLiteralChars (raw : List Char) : List Char :=
  match unquote? raw with
  | some (q, inner) => q :: explicitChars inner ++ [q]
  | none => explicitChars raw

def explicitLiteral (raw : String) : String := String.ofList (explicitLiteralChars raw.toList)

end Distill.Specifier
