/-! Escaping of text for HTML: five characters are written as entities, in element content and in
attribute values alike. -/

namespace ErrorGuide.Html

def escapeChar (c : Char) : List Char :=
  if c = '&' then ['&', 'a', 'm', 'p', ';']
  else if c = '<' then ['&', 'l', 't', ';']
  else if c = '>' then ['&', 'g', 't', ';']
  else if c = '"' then ['&', 'q', 'u', 'o', 't', ';']
  else if c = '\x27' then ['&', '#', '3', '9', ';']
  else [c]

def escapeChars (cs : List Char) : List Char := cs.flatMap escapeChar

def escape (s : String) : String := String.ofList (escapeChars s.toList)

/-- Reads the five entities back, from the left; any other text stands for itself. -/
def unescapeChars : List Char → List Char
  | [] => []
  | '&' :: 'a' :: 'm' :: 'p' :: ';' :: cs => '&' :: unescapeChars cs
  | '&' :: 'l' :: 't' :: ';' :: cs => '<' :: unescapeChars cs
  | '&' :: 'g' :: 't' :: ';' :: cs => '>' :: unescapeChars cs
  | '&' :: 'q' :: 'u' :: 'o' :: 't' :: ';' :: cs => '"' :: unescapeChars cs
  | '&' :: '#' :: '3' :: '9' :: ';' :: cs => '\x27' :: unescapeChars cs
  | c :: cs => c :: unescapeChars cs

def unescape (s : String) : String := String.ofList (unescapeChars s.toList)

def isMarkup (c : Char) : Bool := c = '<' || c = '>' || c = '"' || c = '\x27'

end ErrorGuide.Html
