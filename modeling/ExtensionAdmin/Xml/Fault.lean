import ExtensionAdmin.Text.Quoted

/-! What can be wrong with a markup document, and the words for it. -/

namespace ExtensionAdmin.Xml

/-- What is wrong with a character or entity reference. Ranges are in bytes of the text around
it. -/
inductive ReferenceFault where
  | unterminated (start stop : Nat)
  | unknown (start stop : Nat) (name : String)
  | nullCharacter (start stop : Nat)
  | hexadecimalTooLong
  | decimalTooLong
  | notHexadecimal (symbol : Char)
  | notDecimal (symbol : Char)
  | notCodePoint (number : Nat)
deriving DecidableEq, Repr

/-- What is wrong with the attributes of a tag. Positions are in bytes from the start of the tag's
name. -/
inductive AttributeFault where
  | missingEquals (position : Nat)
  | missingValue (position : Nat)
  | unquotedValue (position : Nat)
  | unclosedQuote (position : Nat) (mark : Char)
  | duplicate (position first : Nat)
deriving DecidableEq, Repr

inductive Construct where
  | element
  | bang
  | cdata
  | comment
  | doctype
  | instruction
deriving DecidableEq, Repr

inductive Fault where
  | truncated (construct : Construct)
  | unknownDeclaration (symbol : Char)
  | emptyDoctype
  | mismatchedEnd (expected found : String)
  | attribute (fault : AttributeFault)
  | reference (fault : ReferenceFault)
  | unclosedElement (name : String)
  | bareSequence (name : String)
  | nestedSequence (name : String)
  | reported (message : String)
deriving DecidableEq, Repr

def ReferenceFault.message : ReferenceFault → String
  | .unterminated a b =>
    s!"Error while escaping character at range {a}..{b}: Cannot find ';' after '&'"
  | .unknown a b name =>
    s!"Error while escaping character at range {a}..{b}: Unrecognized escape symbol: " ++
      Text.quote name
  | .nullCharacter a b =>
    s!"Error while escaping character at range {a}..{b}: Null character entity not allowed"
  | .hexadecimalTooLong => "Cannot convert hexadecimal to utf8"
  | .decimalTooLong => "Cannot convert decimal to utf8"
  | .notHexadecimal c => s!"'{c}' is not a valid hexadecimal character"
  | .notDecimal c => s!"'{c}' is not a valid decimal character"
  | .notCodePoint n => s!"'{n}' is not a valid codepoint"

def AttributeFault.message : AttributeFault → String
  | .missingEquals p =>
    s!"position {p}: attribute key must be directly followed by `=` or space"
  | .missingValue p => s!"position {p}: `=` must be followed by an attribute value"
  | .unquotedValue p => s!"position {p}: attribute value must be enclosed in `\"` or `'`"
  | .unclosedQuote p mark => s!"position {p}: missing closing quote `{mark}` in attribute value"
  | .duplicate p first =>
    s!"position {p}: duplicated attribute, previous declaration at position {first}"

def Construct.name : Construct → String
  | .element => "Element"
  | .bang => "Bang"
  | .cdata => "CData"
  | .comment => "Comment"
  | .doctype => "DOCTYPE"
  | .instruction => "XmlDecl"

def Fault.message : Fault → String
  | .truncated c => "Unexpected EOF during reading " ++ c.name
  | .unknownDeclaration c =>
    "Only Comment (`--`), CDATA (`[CDATA[`) and DOCTYPE (`DOCTYPE`) nodes can start with a '!', " ++
      s!"but symbol `{c}` found"
  | .emptyDoctype => "DOCTYPE declaration must not be empty"
  | .mismatchedEnd expected found => s!"Expecting </{expected}> found </{found}>"
  | .attribute f => f.message
  | .reference f => f.message
  | .unclosedElement name => s!"Unclosed element <{name}>"
  | .bareSequence name => s!"Sequence under <{name}> must be nested in an object"
  | .nestedSequence name => s!"Nested sequence under <{name}> cannot be written"
  | .reported m => m

end ExtensionAdmin.Xml
