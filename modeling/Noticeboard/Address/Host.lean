import Noticeboard.Address.Form
import Noticeboard.Address.Numeric
import Noticeboard.Text.Blank
import Noticeboard.Text.LowerCase
import Noticeboard.Text.Printable
import Noticeboard.Text.Punycode

/-!
# Hosts

A host in brackets is a number.  Any other host is plain text that lacks a few marks, or, in the
schemes of the web, a name: its labels are brought to lower case, one that spells further
characters has to spell them well, and one that ends in a number has to be one.
-/

namespace Noticeboard.Address

inductive HostFault where
  | missing
  | badGroups
  | badDotted
  | badMark
  | badName
  deriving Repr, DecidableEq

def HostFault.message : HostFault → String
  | .missing => "empty host"
  | .badGroups => "invalid IPv6 address"
  | .badDotted => "invalid IPv4 address"
  | .badMark => "invalid domain character"
  | .badName => "invalid international domain name"

namespace Host

/-- The number in a host that begins with a bracket. -/
def checkBracketed (rest : List Char) : Except HostFault Unit :=
  if rest.getLast? = some ']' ∧ Numeric.isGrouped rest.dropLast then .ok ()
  else .error .badGroups

def isPlain (c : Char) : Bool :=
  !"\x00\t\n\r #/:<>?@[\\]^|".toList.contains c

/-- Checks a host that is plain text. -/
def checkText (host : List Char) : Except HostFault Unit :=
  match host with
  | '[' :: rest => checkBracketed rest
  | host => if host.all isPlain then .ok () else .error .badMark

/-- Marks and controls that no name has. -/
def isBanned (c : Char) : Bool :=
  decide (c.toNat ≤ 0x20) || c.toNat == 0x7F || "%#/:<>?@[\\]^|".toList.contains c

/-- Characters that only say how their neighbours look are left out of names. -/
def ignoredCodes : Text.CodeRanges :=
  [(0xad, 0xad), (0x34f, 0x34f), (0x180b, 0x180d), (0x180f, 0x180f), (0x200b, 0x200b),
   (0x2060, 0x2060), (0x2064, 0x2064), (0xfe00, 0xfe0f), (0xfeff, 0xfeff), (0x1bca0, 0x1bca3),
   (0xe0100, 0xe01ef)]

/-- Ideographic and small full stops, which separate labels as the dot does. -/
def isFullStop (c : Char) : Bool :=
  c == '\u3002' || c == '\uff0e' || c == '\uff61'

/-- A wide character is written like the one of ordinary width. -/
def narrow (c : Char) : Char :=
  if isFullStop c then '.'
  else if 0xFF01 ≤ c.toNat ∧ c.toNat ≤ 0xFF5E then Char.ofNat (c.toNat - 0xFEE0)
  else c

/-- How a character is written in a name, unless no name can have it. -/
def fold? (c : Char) : Option (List Char) :=
  let c := narrow c
  if Text.CodeRanges.contains ignoredCodes c.toNat then some []
  else if isBanned c || Text.isBlank c then none
  else if c.toNat < 0x80 then some [c.toLower]
  else if Text.CodeRanges.contains Text.shapelessCodes c.toNat then none
  else some (Text.lowerChar c)

/-- Whether a label may stand as it is: no mark begins it. -/
def isWellBegun (label : List Char) : Bool :=
  !(label.head?.any fun c => Text.CodeRanges.contains Text.attachedCodes c.toNat)

/-- Whether a label that spells further characters spells any, each as names are written. -/
def isWellSpelled (coded : List Char) : Bool :=
  match Text.Punycode.decode? coded with
  | none => false
  | some label =>
    label.any (fun c => decide (0x80 ≤ c.toNat)) && label.all (fun c => fold? c == some [c]) &&
      isWellBegun label

def isLabel (label : List Char) : Bool :=
  match label with
  | 'x' :: 'n' :: '-' :: '-' :: coded => isWellSpelled coded
  | label => isWellBegun label

/-- The labels of a name, whose bytes may be written with percent signs. -/
def labels? (host : List Char) : Option (List (List Char)) := do
  let text ← (Text.Utf8.decode (percentDecode (Text.Utf8.encode (String.ofList host)))).toOption
  let folded ← text.toList.mapM fold?
  let labels := folded.flatten.splitOn '.'
  if labels.all isLabel then some labels else none

/-- Checks a host that is a name. -/
def checkName (host : List Char) : Except HostFault Unit :=
  match host with
  | '[' :: rest => checkBracketed rest
  | host =>
    match labels? host with
    | none => .error .badName
    | some labels =>
      if labels = [[]] then .error .missing
      else if Numeric.endsInNumber labels && !Numeric.isLooseDotted labels then .error .badDotted
      else .ok ()

end Host
end Noticeboard.Address
