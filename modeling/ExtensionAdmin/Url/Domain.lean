import ExtensionAdmin.Text.Mark
import ExtensionAdmin.Url.Domain.Direction
import ExtensionAdmin.Url.Domain.Form
import ExtensionAdmin.Url.Punycode

/-! Domain names in ASCII. A name is brought to the form of names. A label that still goes beyond
ASCII is then written in Punycode; one that is written so already is looked into, and has to hold
what it could have been written from. -/

namespace ExtensionAdmin.Url

inductive Fault where
  | relativeWithoutBase
  | emptyHost
  | invalidPort
  | invalidDomain
  | invalidDomainCharacter
  | invalidIpv4
  | invalidIpv6
deriving DecidableEq, Repr

def Fault.message : Fault → String
  | .relativeWithoutBase => "relative URL without a base"
  | .emptyHost => "empty host"
  | .invalidPort => "invalid port number"
  | .invalidDomain => "invalid international domain name"
  | .invalidDomainCharacter => "invalid domain character"
  | .invalidIpv4 => "invalid IPv4 address"
  | .invalidIpv6 => "invalid IPv6 address"

end ExtensionAdmin.Url

namespace ExtensionAdmin.Url.Domain

open Text

def joiner : Char := Char.ofNat 0x200D

def nonJoiner : Char := Char.ofNat 0x200C

def joiningNext : Ranges := .ofWords
  ["A872 10ACD 10AD7 10D00 10FCB"]

def joiningBefore : Ranges := .ofWords
  ["622-625 627 629 62F-632 648 671-673 688-699 6C0 6C3-6CB 6CD 6CF 6D2-6D3 6D5 6EE-6EF 710",
   "715-719 71E 728 72A 72C 72F 74D 759-75B 76B-76C 771 773-774 778-779 840 846-847 849 854",
   "856-858 867 869-882 88E 8AA-8AC 8AE 8B1-8B2 8B9 10AC5 10AC7 10AC9-10ACA 10ACE-10AD2 10ADD",
   "10AE1 10AE4 10AEF 10B81 10B83-10B85 10B89 10B8C 10B8E-10B8F 10B91 10BA9-10BAC 10D22 10EC2",
   "10F33 10F54 10F74-10F75 10FB4-10FB6 10FB9-10FBA 10FBD 10FC2-10FC3 10FC9"]

def joiningBoth : Ranges := .ofWords
  ["620 626 628 62A-62E 633-63F 641-647 649-64A 66E-66F 679-687 69A-6BF 6C1-6C2 6CC 6CE 6D0-6D1",
   "6FA-6FC 6FF 712-714 71A-71D 71F-727 729 72B 72D-72E 74E-758 75C-76A 76D-770 772 775-777",
   "77A-77F 7CA-7EA 841-845 848 84A-853 855 860 862-865 868 886 889-88D 88F 8A0-8A9 8AF-8B0",
   "8B3-8B8 8BA-8C8 1807 1820-1878 1887-18A8 18AA A840-A871 10AC0-10AC4 10AD3-10AD6 10AD8-10ADC",
   "10ADE-10AE0 10AEB-10AEE 10B80 10B82 10B86-10B88 10B8A-10B8B 10B8D 10B90 10BAD-10BAE",
   "10D01-10D21 10D23 10EC3-10EC4 10EC6-10EC7 10F30-10F32 10F34-10F44 10F51-10F53 10F70-10F73",
   "10F76-10F81 10FB0 10FB2-10FB3 10FB8 10FBB-10FBC 10FBE-10FBF 10FC1 10FC4 10FCA 1E922-1E943"]

def joinsNext (c : Char) : Bool := joiningNext.has c || joiningBoth.has c

def joinsBefore (c : Char) : Bool := joiningBefore.has c || joiningBoth.has c

def isTransparent (c : Char) : Bool := isNonspacingMark c || c.toNat == 0x1E94B

def comesFirst (p : Char → Bool) (cs : List Char) : Bool :=
  match cs.dropWhile fun c => !p c && isTransparent c with
  | c :: _ => p c
  | [] => false

/-- Whether a joiner or a non-joiner may stand after a text, given in reverse, and before another.
After a mark that takes the vowel it chooses between two spellings; a non-joiner may also part two
letters that join. -/
def mayStand (c : Char) (before rest : List Char) : Bool :=
  match before with
  | [] => false
  | last :: _ =>
    isVirama last ||
      (c == nonJoiner && comesFirst joinsNext before && comesFirst joinsBefore rest)

def joinersFit (before : List Char) : List Char → Bool
  | [] => true
  | c :: rest =>
    (if c == joiner || c == nonJoiner then mayStand c before rest else true) &&
      joinersFit (c :: before) rest

end ExtensionAdmin.Url.Domain

namespace ExtensionAdmin.Url

open Text (isAscii)

def isForbidden (c : Char) : Bool :=
  c.toNat ≤ 0x20 || c.toNat == 0x7F || c == '#' || c == '/' || c == ':' || c == '<' || c == '>' ||
    c == '?' || c == '@' || c == '[' || c == '\\' || c == ']' || c == '^' || c == '|' || c == '%'

def isEncodedLabel (label : List Char) : Bool := label.take 4 == ['x', 'n', '-', '-']

/-- The text that an encoded label stands for. It goes beyond ASCII, since it would not have been
encoded otherwise. -/
def decodeLabel? (label : List Char) : Option (List Char) :=
  if label.all isAscii && label.length ≤ 2004 then
    ((Punycode.decode? (label.drop 4)).map fun ns => ns.map Char.ofNat).filter
      fun text => !text.all isAscii
  else none

def labelText? (label : List Char) : Option (List Char) :=
  if isEncodedLabel label then decodeLabel? label else some label

def isLabelText (text : List Char) : Bool :=
  text.all isAscii ||
    (Domain.normalized? text == some text && !text.head?.any Text.isMark &&
      Domain.joinersFit [] text)

def asciiLabel? (label : List Char) : Option (List Char) :=
  if label.all isAscii then some label
  else if label.length ≤ 1000 then some (['x', 'n', '-', '-'] ++ Punycode.encode label)
  else none

def asciiName? (name : List Char) : Option (List Char) := do
  let labels := Text.splitOn '.' name
  let texts ← labels.mapM labelText?
  if !texts.all isLabelText || !Domain.directionsAgree texts then none
  let name := ['.'].intercalate (← labels.mapM asciiLabel?)
  if name.any isForbidden then none
  return name

def ofUtf8? (bytes : List Nat) : Option (List Char) :=
  if bytes.all (· < 0x80) then some (bytes.map Char.ofNat)
  else (String.fromUTF8? ⟨(bytes.map Nat.toUInt8).toArray⟩).map String.toList

def asciiDomain (bytes : List Nat) : Except Fault (List Char) :=
  match ((ofUtf8? bytes).bind Domain.normalized?).bind asciiName? with
  | some name => .ok name
  | none => .error .invalidDomain

end ExtensionAdmin.Url
