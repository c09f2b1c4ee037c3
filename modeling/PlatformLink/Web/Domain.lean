import PlatformLink.Text.Normal
import PlatformLink.Web.Domain.Direction
import PlatformLink.Web.Domain.Joining
import PlatformLink.Web.Domain.Mapping
import PlatformLink.Web.Percent
import PlatformLink.Web.Punycode
import PlatformLink.Web.UrlFault

/-!
# Domains

The form in which the name of a domain is looked up: small ASCII letters, with labels that hold
other characters in Punycode after `xn--`. A label that comes in Punycode must stand for a label
that needs it and is in its final form. Labels that hold other characters than those of ASCII begin
with no mark, hold joiners only where these join or part letters, and run one way each if any of
them runs from right to left.
-/

namespace PlatformLink.Web

open Text (isAscii)

/-- What no domain may hold beside controls and blanks. -/
def isForbiddenInDomain (c : Char) : Bool :=
  isControl c || " %#/:<>?@[\\]^|".toList.contains c

/-- What marks a label in Punycode. -/
def punycodeMark : List Char := "xn--".toList

/-- The longest label that is written in Punycode. -/
def longestPlainLabel : Nat := 1000

/-- The longest label in Punycode that is read, without its mark. -/
def longestCodedLabel : Nat := 2000

/-- A text in the characters and in the order in which domains are written. -/
def domainText (cs : List Char) : Option (List Char) :=
  (cs.mapM domainLetter).map fun letters => Text.normalForm letters.flatten

/-- The label that a label in Punycode stands for. -/
def decodeLabel (coded : List Char) : Option (List Char) :=
  if longestCodedLabel < coded.length ∨ !coded.all isAscii then none
  else match Punycode.decode? coded with
    | some label =>
      if label.any (!isAscii ·) && domainText label == some label then some label else none
    | none => none

/-- The characters of a label. -/
def readLabel (label : List Char) : Option (List Char) :=
  if punycodeMark.isPrefixOf label then decodeLabel (label.drop punycodeMark.length)
  else some label

/-- Whether a label may stand by itself. -/
def isProperLabel (label : List Char) : Bool :=
  label.all isAscii ||
    (!(label.head?.any Text.isMark) && joinersFit [] label && label.length ≤ longestPlainLabel)

/-- Whether labels may stand beside each other. -/
def runTogether (labels : List (List Char)) : Bool :=
  !(labels.any fun label => label.any fun c => (Direction.of c).matters) ||
    labels.all runsOneWay

/-- A label in ASCII. -/
def writeLabel (label : List Char) : List Char :=
  if label.all isAscii then label else punycodeMark ++ Punycode.encode label

/-- The labels of a domain, if it is one. -/
def domainLabels (cs : List Char) : Option (List (List Char)) := do
  let text ← domainText cs
  if text.any isForbiddenInDomain then none
  let labels ← (Text.splitOn '.' text).mapM readLabel
  if labels.all isProperLabel && runTogether labels then some labels else none

/-- A domain in the form in which it is looked up. -/
def domainOfText (s : String) : Except UrlFault (List Char) :=
  match domainLabels s.toList with
  | none => .error .invalidDomain
  | some labels =>
    let domain := Text.joinWith '.' (labels.map writeLabel)
    if domain.isEmpty then .error .emptyHost else .ok domain

end PlatformLink.Web
